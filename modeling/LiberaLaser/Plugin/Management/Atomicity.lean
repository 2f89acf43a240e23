import LiberaLaser.Plugin.Management.Success
import LiberaLaser.Plugin.Package.PreservedArchive

/-!
# The atomicity of an installation

An installation that fails should leave the state file and the revisions in place as they were; one
that succeeds should change the active revision of its plugin alone, to one that resolves
(`InstallAtomic`). Two branches break this. A state file that does not open counts as missing, so
that its other entries are gone once the file is replaced. And a destination whose query fails
counts as missing, so that the rename may replace an empty directory. `installPlugin_atomic` says
that nothing else does; whether these branches come to their end is decided by the store before the
call and by the outcomes of the steps.
-/

namespace LiberaLaser.Plugin

open ByteString FileSystem

namespace Platform

section Statement

variable (platform : Platform)

/-- The state in the state file, where it is valid. -/
def storedState (root : List ByteString) (fs : Files) : StoreState :=
  (readState platform.codec .whole (fs.entry (statePath root))).getD {}

/-- The directories of revisions that are in place are the same. -/
def PackagesKept (root : List ByteString) (fs fs' : Files) : Prop :=
  ∀ pluginId revision, fs.isDirectory (packagePath root pluginId revision) = true →
    SameWithin (packagePath root pluginId revision) fs fs'

/-- The revision of a package is active and resolves to it; the rest of the state is the same. -/
structure Activated (root : List ByteString) (inspection : PluginPackageInspection)
    (fs fs' : Files) : Prop where
  active : (platform.storedState root fs').activePackages.lookup inspection.manifest.id =
    some inspection.revision
  others : ∀ k ≠ inspection.manifest.id, (platform.storedState root fs').activePackages.lookup k =
    (platform.storedState root fs).activePackages.lookup k
  drivers : ∀ k, (platform.storedState root fs').controllerDrivers.lookup k =
    (platform.storedState root fs).controllerDrivers.lookup k
  resolves : ∃ installed content,
    platform.resolveRevision {} root inspection.manifest.id inspection.revision fs' =
      some installed ∧
    fs'.entry installed.archivePath = some (.file content) ∧
    installed.packageSha256 = contentSha256 content ∧
    installed.packageSha256 = inspection.packageSha256

/-- What an atomic installation leaves. -/
def InstallAtomic (directory : Option (List ByteString)) (source : List ByteString) (fs : Files) :
    EStateM.Result InstallFailure Files PluginInstallResult → Prop
  | .ok _ fs' => ∃ root inspection, directory = some root ∧
      platform.inspectPluginPackage {} source fs = .ok inspection ∧
      PackagesKept root fs fs' ∧ platform.Activated root inspection fs fs'
  | .error _ fs' => ∀ root, directory = some root →
      PackagesKept root fs fs' ∧ fs'.entry (statePath root) = fs.entry (statePath root)

variable (o : InstallOutcome) (root source : List ByteString)
  (inspection : PluginPackageInspection) (fs : Files)

/-- The state file has other entries and does not open. -/
def StateUnread : Prop :=
  fs.entry (statePath root) ≠ none ∧ o.state = .notOpened ∧
    ¬((∀ k ≠ inspection.manifest.id,
        (platform.storedState root fs).activePackages.lookup k = none) ∧
      ∀ k, (platform.storedState root fs).controllerDrivers.lookup k = none)

/-- The destination is an empty directory, but the query for it fails, and the package can be staged
and moved over it. -/
structure ReplacesDirectory : Prop where
  directory :
    fs.isDirectory (packagePath root inspection.manifest.id inspection.revision) = true
  query : o.destination = false
  empty : fs.emptyAt (packagePath root inspection.manifest.id inspection.revision) = true
  commit : o.commit = none
  preparable : platform.Preparable o root inspection.manifest.id fs
  stageable : ∃ content, stagedContent o.stage source fs = some content ∧
    platform.Stageable o.stage content (stagingPath root inspection.manifest.id o.clock)
      inspection fs

/-- Neither of the two branches is taken to its end. -/
def AtomicWhen (directory : Option (List ByteString)) : Prop :=
  ∀ root inspection, directory = some root →
    platform.inspectPluginPackage o.inspection source fs = .ok inspection →
    ¬platform.ReplacesDirectory o root source inspection fs ∧
      ¬(platform.StateUnread o root inspection fs ∧
        platform.Installable o root source inspection fs)

end Statement

variable {platform : Platform} {o : InstallOutcome} {root source p : List ByteString}
  {inspection : PluginPackageInspection} {fs fs' : Files} {pluginId revision : ByteString}
  {state : StoreState}

/-! ## The state that is read -/

/-- What is read is the state in the file, or no state where the file does not open. -/
theorem readState_eq_some {codec : JsonCodec} {o : ReadOutcome}
    {entry : Option (FileEntry ByteString)} (h : readState codec o entry = some state) :
    (entry ≠ none ∧ o = .notOpened → state = {}) ∧
      (¬(entry ≠ none ∧ o = .notOpened) → state = (readState codec .whole entry).getD {}) := by
  unfold readState at h
  split at h
  · cases h
    exact ⟨fun hunread => absurd rfl hunread.1, fun _ => rfl⟩
  · cases h
    exact ⟨fun _ => rfl, fun hread => (hread ⟨nofun, rfl⟩).elim⟩
  · refine ⟨fun hunread => (nomatch hunread.2), fun _ => ?_⟩
    rw [readState, h, Option.getD_some]
  · cases h

theorem prepareStore_eq_ok
    (h : platform.prepareStore o root pluginId fs = .ok state fs') :
    readState platform.codec o.state (fs.entry (statePath root)) = some state := by
  obtain ⟨_, fs₁, hcreate, h⟩ := EStateM.bind_eq_ok.mp h
  obtain ⟨_, fs₂, hlock, h⟩ := EStateM.bind_eq_ok.mp h
  obtain ⟨state', fs₃, hread, h⟩ := EStateM.bind_eq_ok.mp h
  obtain ⟨_, fs₄, -, h⟩ := EStateM.bind_eq_ok.mp h
  obtain ⟨_, fs₅, -, h⟩ := EStateM.bind_eq_ok.mp h
  cases h
  obtain ⟨-, rfl⟩ := EStateM.reading_eq_ok.mp hlock
  have hread' := Except.ofOption_eq_ok.mp (EStateM.reading_eq_ok.mp hread).1
  have hsame : SameWithin (statePath root) fs fs₂ :=
    (keeps_createDirectories Committed.state.not_prefix_root).of_ok
      (EStateM.adaptExcept_eq_ok.mp hcreate)
  rw [← hsame.entry_eq]
  exact hread'

/-! ## The directory of the revision -/

/-- A directory at the destination stays as it is, unless it is staged over. -/
theorem sameWithin_provideRevision
    (hexists : fs.isDirectory (packagePath root inspection.manifest.id inspection.revision) = true)
    (hcommit : o.destination = false → ∀ fs₁ fs₂, platform.stageRevision o.stage source
        (stagingPath root inspection.manifest.id o.clock) inspection fs = .ok () fs₁ →
      rename o.commit (stagingPath root inspection.manifest.id o.clock ++ [ofString "payload"])
        (packagePath root inspection.manifest.id inspection.revision) fs₁ ≠ .ok () fs₂) :
    SameWithin (packagePath root inspection.manifest.id inspection.revision) fs
      (platform.provideRevision o root source inspection fs).final := by
  have hpackage : Committed root
      (packagePath root inspection.manifest.id inspection.revision) := .package _ _
  rw [provideRevision_apply]
  split
  · exact Std.Refl.refl fs
  rename_i hquery
  have hfalse : o.destination = false := by
    rw [hexists, Bool.and_true, Bool.not_eq_true] at hquery
    exact hquery
  refine EStateM.final_bind (keeps_stageRevision hpackage.apart_stagingPath fs)
    fun _ fs₁ hstage => ?_
  refine sameWithin_commitRevision hpackage.apart_stagingPath ?_
  cases hrename : rename o.commit
      (stagingPath root inspection.manifest.id o.clock ++ [ofString "payload"])
      (packagePath root inspection.manifest.id inspection.revision) fs₁ with
  | ok _ fs₂ => exact absurd hrename (hcommit hfalse fs₁ fs₂ hstage)
  | error message fs₂ =>
    rw [rename_eq_error hrename]
    exact Std.Refl.refl fs₁

/-- The rename over the directory happens exactly under this condition. -/
theorem replacesDirectory_iff : platform.ReplacesDirectory o root source inspection fs ↔
    fs.isDirectory (packagePath root inspection.manifest.id inspection.revision) = true ∧
      o.destination = false ∧
      ∃ state fs₁ fs₂ fs₃, platform.prepareStore o root inspection.manifest.id fs = .ok state fs₁ ∧
        platform.stageRevision o.stage source (stagingPath root inspection.manifest.id o.clock)
          inspection fs₁ = .ok () fs₂ ∧
        rename o.commit (stagingPath root inspection.manifest.id o.clock ++ [ofString "payload"])
          (packagePath root inspection.manifest.id inspection.revision) fs₂ = .ok () fs₃ := by
  have hmoved {fs₂ : Files} (hpreparable : platform.Preparable o root inspection.manifest.id fs)
      (hstage : platform.stageRevision o.stage source
        (stagingPath root inspection.manifest.id o.clock) inspection
        (preparedStore root inspection.manifest.id fs) = .ok () fs₂) :
      fs₂.Movable (stagingPath root inspection.manifest.id o.clock ++ [ofString "payload"])
          (packagePath root inspection.manifest.id inspection.revision) ↔
        Vacant root inspection fs := by
    obtain ⟨hsame, hparent, hpayload⟩ := staged_preparedStore hpreparable hstage
    exact movable_iff_vacant hsame hparent hpayload
  have hstages (hpreparable : platform.Preparable o root inspection.manifest.id fs) :=
    succeeds_stageRevision_preparedStore source hpreparable
  constructor
  · intro h
    obtain ⟨state, hread⟩ := Option.isSome_iff_exists.mp h.preparable.state
    obtain ⟨_, fs₂, hstage⟩ := (hstages h.preparable).mpr h.stageable
    obtain ⟨_, fs₃, hrename⟩ := succeeds_rename.mpr
      ⟨h.commit, (hmoved h.preparable hstage).mpr (.inr ⟨h.directory, h.empty⟩)⟩
    exact ⟨h.directory, h.query, state, _, fs₂, fs₃,
      prepareStore_eq_ok_iff.mpr ⟨h.preparable, hread, rfl⟩, hstage, hrename⟩
  · rintro ⟨hdirectory, hquery, state, fs₁, fs₂, fs₃, hprepare, hstage, hrename⟩
    obtain ⟨hpreparable, -, rfl⟩ := prepareStore_eq_ok_iff.mp hprepare
    obtain ⟨hcommit, hmovable, -⟩ := rename_eq_ok.mp hrename
    refine ⟨hdirectory, hquery, ?_, hcommit, hpreparable,
      (hstages hpreparable).mp ⟨(), fs₂, hstage⟩⟩
    rcases (hmoved hpreparable hstage).mp hmovable with hnone | ⟨-, hempty⟩
    · rw [isDirectory, hnone] at hdirectory
      cases hdirectory
    · exact hempty

/-- A rename over an empty directory fills it. -/
theorem not_sameWithin_of_replacesDirectory
    (h : platform.ReplacesDirectory o root source inspection fs) :
    ¬SameWithin (packagePath root inspection.manifest.id inspection.revision) fs
      (platform.installRevision o root source inspection fs).final := by
  obtain ⟨hexists, hquery, state, fs₁, fs₂, fs₃, hprepare, hstage, hrename⟩ :=
    replacesDirectory_iff.mp h
  have hpackage : Committed root
      (packagePath root inspection.manifest.id inspection.revision) := .package _ _
  have hprepared := (keeps_prepareStore hpackage).of_ok hprepare
  have hstaged := (keeps_stageRevision hpackage.apart_stagingPath).of_ok hstage
  obtain ⟨-, hmovable, hmove⟩ := rename_eq_ok.mp hrename
  have hentry : fs.entry (packagePath root inspection.manifest.id inspection.revision) =
      some .directory := isDirectory_iff.mp hexists
  have hnone : fs.entry (packagePath root inspection.manifest.id inspection.revision ++
      [preservedArchiveName]) = none := by
    rw [← hprepared _ (List.prefix_append _ _), ← hstaged _ (List.prefix_append _ _)]
    refine emptyAt_iff.mp (hmovable.emptyAt ?_) _ (List.prefix_append _ _) (by simp)
    rw [hstaged.entry_eq, hprepared.entry_eq, hentry]
  have hsome : fs₃.entry (packagePath root inspection.manifest.id inspection.revision ++
      [preservedArchiveName]) ≠ none := by
    rw [hmove, entry_move_append]
    obtain ⟨content, -, -, -, -, harchive, -⟩ := stageRevision_eq_ok hstage
    rw [harchive]
    nofun
  have hprovide : platform.provideRevision o root source inspection fs₁ =
      .ok () (fs₃.removeAll (stagingPath root inspection.manifest.id o.clock) o.keep) := by
    rw [provideRevision_apply, hquery, Bool.false_and, if_neg Bool.false_ne_true,
      EStateM.bind_of_ok hstage, commitRevision, hrename]
  intro hsame
  have hfinal : SameWithin (packagePath root inspection.manifest.id inspection.revision) fs₃
      (platform.installRevision o root source inspection fs).final := by
    have hclean : SameWithin (packagePath root inspection.manifest.id inspection.revision) fs₃
        (fs₃.removeAll (stagingPath root inspection.manifest.id o.clock) o.keep) :=
      sameWithin_removeAll hpackage.apart_stagingPath
    rw [installRevision, EStateM.bind_of_ok hprepare, EStateM.bind_of_ok hprovide]
    refine IsTrans.trans _ _ _ hclean ?_
    refine EStateM.Keeps.bind (EStateM.keeps_reading _) (fun _ => ?_) _
    exact EStateM.Keeps.adaptExcept keeps_writeState
  have hsame' := hsame _ (List.prefix_append _ [preservedArchiveName])
  rw [hfinal _ (List.prefix_append _ _), hnone] at hsame'
  exact hsome hsame'

/-! ## The whole installation -/

theorem packagesKept_installRevision
    (h : ¬platform.ReplacesDirectory o root source inspection fs) :
    PackagesKept root fs (platform.installRevision o root source inspection fs).final := by
  intro pluginId revision hexists
  have hpackage : Committed root (packagePath root pluginId revision) := .package _ _
  refine EStateM.final_bind (keeps_prepareStore hpackage fs) fun state fs₁ hprepare => ?_
  have hprepared := (keeps_prepareStore hpackage).of_ok hprepare
  have hrest (state : StoreState) (fs : Files) : SameWithin (packagePath root pluginId revision) fs
      ((EStateM.reading (platform.checkRevision o.resolution root inspection) >>= fun _ =>
        platform.activateRevision o.write root inspection state) fs).final :=
    EStateM.Keeps.bind (EStateM.keeps_reading _) (fun _ => keeps_writeState.adaptExcept) fs
  refine EStateM.final_bind ?_ fun _ fs₂ _ => hrest state fs₂
  by_cases hp : packagePath root pluginId revision =
      packagePath root inspection.manifest.id inspection.revision
  · rw [hp] at hexists hprepared ⊢
    have hexists₁ := isDirectory_iff.mpr
      (hprepared.entry_eq.trans (isDirectory_iff.mp hexists))
    refine sameWithin_provideRevision hexists₁ fun hquery fs₂ fs₃ hstage hrename => h ?_
    exact replacesDirectory_iff.mpr
      ⟨hexists, hquery, state, fs₁, fs₂, fs₃, hprepare, hstage, hrename⟩
  · exact keeps_provideRevision hpackage.apart_stagingPath (apart_packagePath hp) fs₁

/-- An installation keeps the directories in place, unless it stages over one. -/
theorem packagesKept_iff
    (hfinal : (platform.installRevision o root source inspection fs).final = fs') :
    PackagesKept root fs fs' ↔ ¬platform.ReplacesDirectory o root source inspection fs := by
  rw [← hfinal]
  constructor
  · intro hkept hover
    exact not_sameWithin_of_replacesDirectory hover (hkept _ _ hover.directory)
  · exact packagesKept_installRevision

/-- An installation that fails leaves the state file alone. -/
theorem installRevision_eq_error {e : InstallFailure}
    (h : platform.installRevision o root source inspection fs = .error e fs') :
    fs'.entry (statePath root) = fs.entry (statePath root) := by
  have hprovides : EStateM.Keeps (SameWithin (statePath root))
      (platform.provideRevision o root source inspection) :=
    keeps_provideRevision Committed.state.apart_stagingPath apart_statePath_packagePath
  refine SameWithin.entry_eq ?_
  obtain hprepare | ⟨state, fs₁, hprepare, hrest⟩ := EStateM.bind_eq_error.mp h
  · exact (keeps_prepareStore .state).of_error hprepare
  refine IsTrans.trans _ _ _ ((keeps_prepareStore .state).of_ok hprepare) ?_
  obtain hprovide | ⟨_, fs₂, hprovide, hrest⟩ := EStateM.bind_eq_error.mp hrest
  · exact hprovides.of_error hprovide
  refine IsTrans.trans _ _ _ (hprovides.of_ok hprovide) ?_
  obtain hcheck | ⟨_, fs₃, hcheck, hactivate⟩ := EStateM.bind_eq_error.mp hrest
  · exact (EStateM.keeps_reading _).of_error hcheck
  obtain ⟨-, rfl⟩ := EStateM.reading_eq_ok.mp hcheck
  obtain ⟨_, hwrite, -⟩ := EStateM.adaptExcept_eq_error.mp hactivate
  exact writeState_eq_error hwrite

/-- The maps after a write of the state that succeeds are those that were written. -/
theorem lookup_writeState {o : StateOutcome} (hcodec : platform.codec.Lawful)
    (h : writeState platform.codec o root state fs = .ok () fs')
    (hactive : NamesNonempty state.activePackages)
    (hdrivers : NamesNonempty state.controllerDrivers) :
    (∀ k, (platform.storedState root fs').activePackages.lookup k =
      state.activePackages.lookup k) ∧
    ∀ k, (platform.storedState root fs').controllerDrivers.lookup k =
      state.controllerDrivers.lookup k := by
  obtain ⟨text, hdump, hentry⟩ := writeState_eq_ok h
  obtain ⟨state', hread, hlookup, hlookup'⟩ :=
    readState_stateDocument hcodec hdump hactive hdrivers
  have hstored : platform.storedState root fs' = state' := by
    rw [storedState, hentry, hread, Option.getD_some]
  rw [hstored]
  exact ⟨hlookup, hlookup'⟩

/-- The maps after an installation that succeeds are those that were read, with the new revision. -/
theorem lookup_activateRevision {read : ReadOutcome} {entry : Option (FileEntry ByteString)}
    {o : StateOutcome} (hcodec : platform.codec.Lawful)
    (hid : inspection.manifest.id ≠ []) (hread : readState platform.codec read entry = some state)
    (h : platform.activateRevision o root inspection state fs = .ok () fs') :
    (∀ k, (platform.storedState root fs').activePackages.lookup k =
      if k = inspection.manifest.id then some inspection.revision
      else state.activePackages.lookup k) ∧
    ∀ k, (platform.storedState root fs').controllerDrivers.lookup k =
      state.controllerDrivers.lookup k := by
  obtain ⟨hactive, hdrivers⟩ := namesNonempty_readState hread
  have hrevision : inspection.revision ≠ [] := by
    have hdash : ofString "-" ≠ [] := nofun
    simp [PluginPackageInspection.revision, hdash]
  have hinsert : NamesNonempty
      (state.activePackages.insert inspection.manifest.id inspection.revision) :=
    Table.Forall.insert hactive ⟨hid, hrevision⟩
  have hwrite : writeState platform.codec o root
      ⟨state.activePackages.insert inspection.manifest.id inspection.revision,
        state.controllerDrivers⟩ fs = .ok () fs' :=
    EStateM.adaptExcept_eq_ok.mp h
  obtain ⟨hlookup, hlookup'⟩ := lookup_writeState hcodec hwrite hinsert hdrivers
  exact ⟨fun k => (hlookup k).trans Table.lookup_insert, hlookup'⟩

/-- The maps after an installation that succeeds, and the revision that it leaves. -/
theorem activated_iff (hcodec : platform.codec.Lawful) {faults : InspectOutcome}
    (hinspect : platform.inspectPluginPackage faults source fs = .ok inspection)
    (h : platform.installRevision o root source inspection fs = .ok () fs') :
    platform.Activated root inspection fs fs' ↔ ¬platform.StateUnread o root inspection fs := by
  obtain ⟨state, fs₁, fs₂, hprepare, hprovide, hcheck, hactivate⟩ := installRevision_eq_ok.mp h
  have hread := prepareStore_eq_ok hprepare
  obtain ⟨text, htext⟩ := inspectPluginPackage_manifest hinspect
  obtain ⟨_, -, hchecked⟩ := parseManifest_eq_ok htext
  obtain ⟨hlookup, hlookup'⟩ :=
    lookup_activateRevision hcodec hchecked.id_ne_nil hread hactivate
  obtain ⟨hunread, hstored⟩ := readState_eq_some hread
  have hempty (k : ByteString) : AList.lookup k (∅ : NameMap) = none := AList.lookup_empty k
  constructor
  · rintro ⟨-, hothers, hdrivers, -⟩ ⟨hentry, houtcome, hentries⟩
    obtain rfl := hunread ⟨hentry, houtcome⟩
    refine hentries ⟨fun k hk => ?_, fun k => ?_⟩
    · rw [← hothers k hk, hlookup, if_neg hk]
      exact hempty k
    · rw [← hdrivers k, hlookup']
      exact hempty k
  · intro hread'
    have hsame : (∀ k ≠ inspection.manifest.id, state.activePackages.lookup k =
          (platform.storedState root fs).activePackages.lookup k) ∧
        ∀ k, state.controllerDrivers.lookup k =
          (platform.storedState root fs).controllerDrivers.lookup k := by
      by_cases h : fs.entry (statePath root) ≠ none ∧ o.state = .notOpened
      · obtain rfl := hunread h
        have hnone := not_not.mp fun hentries => hread' ⟨h.1, h.2, hentries⟩
        exact ⟨fun k hk => (hempty k).trans (hnone.1 k hk).symm,
          fun k => (hempty k).trans (hnone.2 k).symm⟩
      · rw [hstored h]
        exact ⟨fun _ _ => rfl, fun _ => rfl⟩
    refine ⟨?_, fun k hk => ?_, fun k => (hlookup' k).trans (hsame.2 k), ?_⟩
    · rw [hlookup, if_pos rfl]
    · rw [hlookup, if_neg hk]
      exact hsame.1 k hk
    · obtain ⟨installed, hresolve, hdigest⟩ :=
        Option.any_eq_true _ _ |>.mp (Except.require_eq_ok.mp hcheck)
      obtain ⟨hfaultless, content, hentry, hcontent⟩ := resolveRevision_eq_some hresolve
      have hkept : SameWithin (packagePath root inspection.manifest.id inspection.revision)
          fs₂ fs' := by
        have hkeeps : EStateM.Keeps
            (SameWithin (packagePath root inspection.manifest.id inspection.revision))
            (platform.activateRevision o.write root inspection state) :=
          keeps_writeState.adaptExcept
        exact hkeeps.of_ok hactivate
      refine ⟨installed, content, ?_, ?_, hcontent, of_decide_eq_true hdigest⟩
      · rw [resolveRevision_congr hkept]
        exact hfaultless
      · rw [hkept _ (archivePath_resolveRevision hresolve), hentry]

theorem installInto_eq_ok {examined : List (List ByteString)} {result : PluginInstallResult}
    (h : platform.installInto o root examined source fs = .ok result fs') :
    ∃ inspection, platform.inspectPluginPackage o.inspection source fs = .ok inspection ∧
      platform.installRevision o root source inspection fs = .ok () fs' ∧
      result.installedPath = packagePath root inspection.manifest.id inspection.revision := by
  simp only [installInto, EStateM.bind_eq_ok, EStateM.adaptExcept_eq_ok, EStateM.reading_eq_ok] at h
  obtain ⟨inspection, _, ⟨hinspect, rfl⟩, _, _, hinstall, hreturn⟩ := h
  cases hreturn
  exact ⟨inspection, hinspect, hinstall, rfl⟩

/-- An installation that fails has changed nothing, or the installation of a sound package has
failed. -/
theorem installInto_eq_error {examined : List (List ByteString)} {e : InstallFailure}
    (h : platform.installInto o root examined source fs = .error e fs') :
    (∃ reason, platform.inspectPluginPackage o.inspection source fs = .error reason ∧ fs' = fs) ∨
      ∃ inspection, platform.inspectPluginPackage o.inspection source fs = .ok inspection ∧
        platform.installRevision o root source inspection fs = .error e fs' := by
  obtain hinspect | ⟨inspection, fs₁, hinspect, hrest⟩ := EStateM.bind_eq_error.mp h
  · obtain ⟨reason, hread, -⟩ := EStateM.adaptExcept_eq_error.mp hinspect
    exact .inl ⟨reason, EStateM.reading_eq_error.mp hread⟩
  obtain ⟨hinspected, rfl⟩ := EStateM.reading_eq_ok.mp (EStateM.adaptExcept_eq_ok.mp hinspect)
  obtain hinstall | ⟨_, fs₂, -, hreturn⟩ := EStateM.bind_eq_error.mp hrest
  · exact .inr ⟨inspection, hinspected, hinstall⟩
  · cases hreturn

/-- **When an installation is atomic**: exactly when neither of the two branches is taken, on which
a state file that does not open counts as missing, or a destination whose query fails. -/
theorem installPlugin_atomic (hcodec : platform.codec.Lawful) (o : InstallOutcome)
    (directory : Option (List ByteString)) (examined : List (List ByteString))
    (source : List ByteString) (fs : Files) :
    platform.InstallAtomic directory source fs
        (platform.installPlugin o directory examined source fs) ↔
      platform.AtomicWhen o source fs directory := by
  cases directory with
  | none => exact ⟨fun _ _ _ hroot => (nomatch hroot), fun _ _ hroot => (nomatch hroot)⟩
  | some root =>
    cases hresult : platform.installPlugin o (some root) examined source fs with
    | ok result fs' =>
      obtain ⟨inspection, hinspect, hinstall, -⟩ := installInto_eq_ok hresult
      have hinstallable := succeeds_installRevision.mp ⟨(), fs', hinstall⟩
      have hfinal : (platform.installRevision o root source inspection fs).final = fs' := by
        rw [hinstall]
        rfl
      have hkept := packagesKept_iff hfinal
      have hactivated := activated_iff hcodec hinspect hinstall
      have hfaultless := (inspectPluginPackage_eq_ok hinspect).1
      constructor
      · rintro ⟨_, _, hroot, hinspect', hkeeps, hactive⟩ _ _ hroot' hinspected
        obtain rfl := Option.some.inj hroot
        obtain rfl := Option.some.inj hroot'
        obtain rfl := Except.ok.inj (hinspect.symm.trans hinspected)
        obtain rfl := Except.ok.inj (hfaultless.symm.trans hinspect')
        exact ⟨hkept.mp hkeeps, fun hunread => hactivated.mp hactive hunread.1⟩
      · intro hwhen
        obtain ⟨hover, hunread⟩ := hwhen root inspection rfl hinspect
        exact ⟨root, inspection, rfl, hfaultless, hkept.mpr hover,
          hactivated.mpr fun h => hunread ⟨h, hinstallable⟩⟩
    | error e fs' =>
      obtain ⟨reason, hrefused, rfl⟩ | ⟨inspection, hinspect, hinstall⟩ :=
        installInto_eq_error hresult
      · constructor
        · intro _ _ inspection _ hinspect
          rw [hrefused] at hinspect
          cases hinspect
        · exact fun _ _ _ => ⟨fun _ _ _ => Std.Refl.refl fs', rfl⟩
      · have hfinal : (platform.installRevision o root source inspection fs).final = fs' := by
          rw [hinstall]
          rfl
        have hkept := packagesKept_iff hfinal
        constructor
        · intro hatomic _ _ hroot hinspected
          obtain rfl := Option.some.inj hroot
          obtain rfl := Except.ok.inj (hinspect.symm.trans hinspected)
          refine ⟨hkept.mp (hatomic root rfl).1, fun hunread => ?_⟩
          obtain ⟨_, _, hok⟩ := succeeds_installRevision.mpr hunread.2
          rw [hinstall] at hok
          cases hok
        · intro hwhen _ hroot
          obtain rfl := Option.some.inj hroot
          exact ⟨hkept.mpr (hwhen root inspection rfl hinspect).1,
            installRevision_eq_error hinstall⟩

end Platform

/-! ## A small store -/

namespace Demo

def root : List ByteString := [ofString "store"]

/-- A store in which another plugin is active. -/
def state : ByteString :=
  ofString "\x7b\"activePackages\":\x7b\"other\":\"1.0.0-0\"\x7d,\"controllerDrivers\":\x7b\x7d," ++
  ofString "\"schemaVersion\":1\x7d"

def files : Files :=
  ((FileSystem.empty.addDirectories root).put (statePath root) (.file state)).put source
    (.file archive)

def outcome : InstallOutcome where
  clock := ofString "1"
  write := { clock := ofString "2" }

end Demo

namespace Platform

/-- An installation in which nothing fails is atomic. -/
theorem demo_installs : Demo.platform.InstallAtomic (some Demo.root) Demo.source Demo.files
    (Demo.platform.installPlugin Demo.outcome (some Demo.root) [] Demo.source Demo.files) := by
  have hcodec : Demo.platform.codec.Lawful := Json.textCodec_lawful
  have hdestination : Demo.outcome.destination ≠ false := by decide
  have hstate : Demo.outcome.state ≠ .notOpened := by decide
  rw [installPlugin_atomic hcodec]
  exact fun _ _ _ _ => ⟨fun h => hdestination h.query, fun h => hstate h.1.2.1⟩

/-- Another plugin is not active any more after an installation in which the state file does not
open. -/
theorem unread_state_lost : ¬Demo.platform.InstallAtomic (some Demo.root) Demo.source Demo.files
    (Demo.platform.installPlugin { Demo.outcome with state := .notOpened } (some Demo.root) []
      Demo.source Demo.files) := by
  have hinspect : (Demo.platform.inspectPluginPackage {} Demo.source Demo.files).map
      (fun i => i.manifest.id) = .ok (ofString "demo") := by decide +kernel
  have hbefore : (Demo.platform.storedState Demo.root Demo.files).activePackages.lookup
      (ofString "other") = some (ofString "1.0.0-0") := by decide +kernel
  have hafter : (match Demo.platform.installPlugin { Demo.outcome with state := .notOpened }
        (some Demo.root) [] Demo.source Demo.files with
      | .ok _ fs' =>
        (Demo.platform.storedState Demo.root fs').activePackages.lookup (ofString "other")
      | .error _ _ => some []) = none := by decide +kernel
  cases hresult : Demo.platform.installPlugin { Demo.outcome with state := .notOpened }
      (some Demo.root) [] Demo.source Demo.files with
  | error e fs' =>
    rw [hresult] at hafter
    cases hafter
  | ok result fs' =>
    rw [hresult] at hafter
    rintro ⟨_, inspection, hroot, hinspected, -, hactivated⟩
    obtain rfl := Option.some.inj hroot
    have hid : inspection.manifest.id = ofString "demo" := by
      rw [hinspected] at hinspect
      exact Except.ok.inj hinspect
    have hother : ofString "other" ≠ inspection.manifest.id := by
      rw [hid]
      decide +kernel
    have hsame := hactivated.others (ofString "other") hother
    rw [hbefore] at hsame
    exact absurd (hafter.symm.trans hsame) nofun

end Platform

end LiberaLaser.Plugin
