import LiberaLaser.Plugin.Management.Commit

/-!
# When an installation succeeds

Whether an installation succeeds is decided by the store before the call and by the outcomes of the
steps (`Installable`, `succeeds_installRevision`). No step is in the way of a later one: what the
staging adds lies apart from the state file and from the revisions, and what it needs to be free is
free before.
-/

namespace LiberaLaser.Plugin

open ByteString FileSystem

namespace Platform

section Conditions

variable (platform : Platform)

/-- The store can be locked, its state read and its directories made. -/
structure Preparable (o : InstallOutcome) (root : List ByteString) (pluginId : ByteString)
    (fs : Files) : Prop where
  created : o.root = none
  lock : o.lock = none
  state : (readState platform.codec o.state (fs.entry (statePath root))).isSome
  staging : o.staging = none
  stagingClear : fs.Clear (root ++ [ofString "staging"])
  parent : o.parent = none
  parentClear : fs.Clear (root ++ [ofString "packages", pluginId])

variable (o : InstallOutcome) (root source : List ByteString)
  (inspection : PluginPackageInspection) (fs : Files)

/-- A directory is in place that resolves to the package that was inspected. -/
def InPlace : Prop :=
  fs.isDirectory (packagePath root inspection.manifest.id inspection.revision) = true ∧
    platform.checkRevision o.resolution root inspection fs = .ok ()

/-- The revision is in place, or can be put there. A rename that fails is no failure where there is
a directory. -/
def Providable : Prop :=
  o.destination = true ∧ platform.InPlace o root inspection fs ∨
    ¬(o.destination = true ∧
        fs.isDirectory (packagePath root inspection.manifest.id inspection.revision) = true) ∧
      ∃ content, stagedContent o.stage source fs = some content ∧
        platform.Stageable o.stage content (stagingPath root inspection.manifest.id o.clock)
          inspection fs ∧
        ((o.commit = none ∧ Vacant root inspection fs) ∧
            (∃ copy, platform.Matches o.resolution content inspection copy) ∨
          ¬(o.commit = none ∧ Vacant root inspection fs) ∧ o.committed = true ∧
            platform.InPlace o root inspection fs)

/-- The state file can be replaced by one with some state. -/
structure Replaceable (o : StateOutcome) (root : List ByteString) (state : StoreState)
    (fs : Files) : Prop where
  directory : o.directory = none
  dump : (platform.codec.dump (stateDocument state)).isSome
  write : o.write = none
  temporary : fs.isDirectory (temporaryPath root o.clock) = false
  rename : o.rename = none
  file : fs.isDirectory (statePath root) = false

/-- No step of the installation fails. -/
structure Installable : Prop where
  preparable : platform.Preparable o root inspection.manifest.id fs
  providable : platform.Providable o root source inspection fs
  replaceable : ∀ state, readState platform.codec o.state (fs.entry (statePath root)) = some state →
    platform.Replaceable o.write root
      ⟨state.activePackages.insert inspection.manifest.id inspection.revision,
        state.controllerDrivers⟩ fs

end Conditions

variable {platform : Platform} {o : InstallOutcome} {root source p q : List ByteString}
  {inspection : PluginPackageInspection} {fs fs' : Files} {pluginId revision : ByteString}
  {state : StoreState}

/-! ## The store -/

/-- The file system with the directories of the store. -/
def preparedStore (root : List ByteString) (pluginId : ByteString) (fs : Files) : Files :=
  ((fs.addDirectories root).addDirectories (root ++ [ofString "staging"])).addDirectories
    (root ++ [ofString "packages", pluginId])

theorem isRegularFile_preparedStore :
    (preparedStore root pluginId fs).isRegularFile p = fs.isRegularFile p := by
  rw [preparedStore, isRegularFile_addDirectories, isRegularFile_addDirectories,
    isRegularFile_addDirectories]

theorem contentAt_preparedStore :
    (preparedStore root pluginId fs).contentAt p = fs.contentAt p := by
  rw [preparedStore, contentAt_addDirectories, contentAt_addDirectories, contentAt_addDirectories]

theorem Preparable.rootClear (h : platform.Preparable o root pluginId fs) : fs.Clear root :=
  fun _ hq => h.stagingClear _ (hq.trans (List.prefix_append _ _))

theorem Preparable.isDirectory_iff (h : platform.Preparable o root pluginId fs) :
    (preparedStore root pluginId fs).isDirectory p = true ↔ fs.isDirectory p = true ∨
      p <+: root ++ [ofString "staging"] ∨ p <+: root ++ [ofString "packages", pluginId] := by
  have hclear := clear_addDirectories (p := root).mpr h.stagingClear
  have hclear' := clear_addDirectories (p := root ++ [ofString "staging"]).mpr
    (clear_addDirectories (p := root).mpr h.parentClear)
  rw [preparedStore, isDirectory_addDirectories hclear', isDirectory_addDirectories hclear,
    isDirectory_addDirectories h.rootClear]
  constructor
  · rintro (((hp | hp) | hp) | hp)
    · exact .inl hp
    · exact .inr (.inl (hp.trans (List.prefix_append _ _)))
    · exact .inr (.inl hp)
    · exact .inr (.inr hp)
  · rintro (hp | hp | hp)
    · exact .inl (.inl (.inl hp))
    · exact .inl (.inr hp)
    · exact .inr hp

theorem prepareStore_eq_ok_iff :
    platform.prepareStore o root pluginId fs = .ok state fs' ↔
      platform.Preparable o root pluginId fs ∧
        readState platform.codec o.state (fs.entry (statePath root)) = some state ∧
        fs' = preparedStore root pluginId fs := by
  have hentry : (fs.addDirectories root).entry (statePath root) = fs.entry (statePath root) :=
    (sameWithin_addDirectories Committed.state.not_prefix_root).entry_eq
  constructor
  · intro h
    obtain ⟨_, fs₁, hroot, hrest⟩ := EStateM.bind_eq_ok.mp h
    obtain ⟨_, fs₂, hlock, hrest⟩ := EStateM.bind_eq_ok.mp hrest
    obtain ⟨_, fs₃, hread, hrest⟩ := EStateM.bind_eq_ok.mp hrest
    obtain ⟨_, fs₄, hstaging, hrest⟩ := EStateM.bind_eq_ok.mp hrest
    obtain ⟨_, fs₅, hparent, hreturn⟩ := EStateM.bind_eq_ok.mp hrest
    cases hreturn
    obtain ⟨hcreated, -, rfl⟩ := createDirectories_eq_ok.mp (EStateM.adaptExcept_eq_ok.mp hroot)
    obtain ⟨hlocked, rfl⟩ := EStateM.reading_eq_ok.mp hlock
    obtain ⟨hfound, rfl⟩ := EStateM.reading_eq_ok.mp hread
    obtain ⟨hstaged, hclear, rfl⟩ :=
      createDirectories_eq_ok.mp (EStateM.adaptExcept_eq_ok.mp hstaging)
    obtain ⟨hmade, hclear', rfl⟩ :=
      createDirectories_eq_ok.mp (EStateM.adaptExcept_eq_ok.mp hparent)
    have hstate := Except.ofOption_eq_ok.mp hfound
    rw [hentry] at hstate
    refine ⟨⟨hcreated, Except.require_eq_ok.mp hlocked, Option.isSome_of_eq_some hstate, hstaged,
      clear_addDirectories.mp hclear, hmade, ?_⟩, hstate, rfl⟩
    exact clear_addDirectories.mp (clear_addDirectories.mp hclear')
  · rintro ⟨h, hstate, rfl⟩
    refine EStateM.bind_eq_ok.mpr ⟨(), _, EStateM.adaptExcept_eq_ok.mpr
      (createDirectories_eq_ok.mpr ⟨h.created, h.rootClear, rfl⟩), ?_⟩
    refine EStateM.bind_eq_ok.mpr ⟨(), _, EStateM.reading_eq_ok.mpr
      ⟨Except.require_eq_ok.mpr h.lock, rfl⟩, ?_⟩
    refine EStateM.bind_eq_ok.mpr ⟨state, _, EStateM.reading_eq_ok.mpr
      ⟨Except.ofOption_eq_ok.mpr (hentry ▸ hstate), rfl⟩, ?_⟩
    refine EStateM.bind_eq_ok.mpr ⟨(), _, EStateM.adaptExcept_eq_ok.mpr
      (createDirectories_eq_ok.mpr ⟨h.staging, clear_addDirectories.mpr h.stagingClear, rfl⟩), ?_⟩
    exact EStateM.bind_eq_ok.mpr ⟨(), _, EStateM.adaptExcept_eq_ok.mpr
      (createDirectories_eq_ok.mpr ⟨h.parent,
        clear_addDirectories.mpr (clear_addDirectories.mpr h.parentClear), rfl⟩), rfl⟩

/-! ## The revision -/

theorem provideRevision_apply :
    platform.provideRevision o root source inspection fs =
      if o.destination && fs.isDirectory
          (packagePath root inspection.manifest.id inspection.revision) then .ok () fs
      else (platform.stageRevision o.stage source
          (stagingPath root inspection.manifest.id o.clock) inspection >>= fun _ =>
        commitRevision o (stagingPath root inspection.manifest.id o.clock)
          (packagePath root inspection.manifest.id inspection.revision)) fs := by
  have happly : platform.provideRevision o root source inspection fs =
      (if o.destination && fs.isDirectory
          (packagePath root inspection.manifest.id inspection.revision) then pure ()
      else platform.stageRevision o.stage source
          (stagingPath root inspection.manifest.id o.clock) inspection >>= fun _ =>
        commitRevision o (stagingPath root inspection.manifest.id o.clock)
          (packagePath root inspection.manifest.id inspection.revision) :
        EStateM InstallFailure Files Unit) fs := rfl
  rw [happly]
  split
  · rfl
  · rfl

theorem sameWithin_preparedStore (hstaging : ¬p <+: root ++ [ofString "staging"])
    (hparent : ¬p <+: root ++ [ofString "packages", pluginId]) :
    SameWithin p fs (preparedStore root pluginId fs) := by
  have hroot : ¬p <+: root := fun hp => hstaging (hp.trans (List.prefix_append _ _))
  exact IsTrans.trans _ _ _ (IsTrans.trans _ _ _ (sameWithin_addDirectories hroot)
    (sameWithin_addDirectories hstaging)) (sameWithin_addDirectories hparent)

/-- The staging directory is new to the store. -/
theorem stagingPath_not_prefix {clock : ByteString} :
    ¬stagingPath root pluginId clock <+: root ++ [ofString "staging"] ∧
      ¬stagingPath root pluginId clock <+: root ++ [ofString "packages", pluginId] := by
  constructor
  · rw [stagingPath, List.prefix_append_right_inj]
    intro hleads
    have hlength := hleads.length_le
    simp at hlength
  · rw [stagingPath, List.prefix_append_right_inj]
    exact fun hleads => storeNames_ne.1 (List.cons_prefix_cons.mp hleads).1.symm

/-- Whether a package can be staged is not changed by the directories of the store. -/
theorem stageable_preparedStore {stage : StageOutcome} {content clock : ByteString} :
    platform.Stageable stage content (stagingPath root pluginId clock) inspection
        (preparedStore root pluginId fs) ↔
      platform.Stageable stage content (stagingPath root pluginId clock) inspection fs := by
  have hsame : SameWithin (stagingPath root pluginId clock) fs (preparedStore root pluginId fs) :=
    sameWithin_preparedStore stagingPath_not_prefix.1 stagingPath_not_prefix.2
  have hextractable : platform.Extractable stage.extraction content
      (stagingPath root pluginId clock ++ [ofString "payload"]) (preparedStore root pluginId fs) ↔
      platform.Extractable stage.extraction content
        (stagingPath root pluginId clock ++ [ofString "payload"]) fs :=
    extractable_congr (fun _ _ => isRegularFile_preparedStore)
      fun q hq => hsame q ((List.prefix_append _ _).trans hq)
  have hfree := hsame _ (List.prefix_append _ [ofString "source.liberaplugin"])
  have hpreserved : (preparedStore root pluginId fs).isDirectory
      (stagingPath root pluginId clock ++ [ofString "payload"] ++ [preservedArchiveName]) =
      fs.isDirectory
        (stagingPath root pluginId clock ++ [ofString "payload"] ++ [preservedArchiveName]) := by
    rw [List.append_assoc]
    exact isDirectory_congr (hsame _ (List.prefix_append _ _))
  constructor
  · intro h
    exact ⟨h.directory, isRegularFile_preparedStore.symm.trans h.clear, h.copy, hfree ▸ h.free,
      h.unchanged, hextractable.mp h.extractable, h.preserve, hpreserved ▸ h.preserved, h.below⟩
  · intro h
    exact ⟨h.directory, isRegularFile_preparedStore.trans h.clear, h.copy, hfree.trans h.free,
      h.unchanged, hextractable.mpr h.extractable, h.preserve, hpreserved.trans h.preserved,
      h.below⟩

theorem succeeds_stageRevision_preparedStore (source : List ByteString)
    (h : platform.Preparable o root inspection.manifest.id fs) :
    EStateM.Succeeds (platform.stageRevision o.stage source
        (stagingPath root inspection.manifest.id o.clock) inspection)
        (preparedStore root inspection.manifest.id fs) ↔
      ∃ content, stagedContent o.stage source fs = some content ∧
        platform.Stageable o.stage content (stagingPath root inspection.manifest.id o.clock)
          inspection fs := by
  have hdropLast : (stagingPath root inspection.manifest.id o.clock).dropLast =
      root ++ [ofString "staging"] :=
    List.dropLast_append_of_ne_nil (by simp)
  have hparent : (preparedStore root inspection.manifest.id fs).isDirectory
      (stagingPath root inspection.manifest.id o.clock).dropLast = true := by
    rw [hdropLast]
    exact h.isDirectory_iff.mpr (.inr (.inl (List.prefix_refl _)))
  rw [succeeds_stageRevision hparent]
  simp only [stageable_preparedStore, stagedContent, contentAt_preparedStore]

/-- The place of the revision after the staging. -/
theorem staged_preparedStore (h : platform.Preparable o root inspection.manifest.id fs)
    (hstage : platform.stageRevision o.stage source
      (stagingPath root inspection.manifest.id o.clock) inspection
      (preparedStore root inspection.manifest.id fs) = .ok () fs') :
    SameWithin (packagePath root inspection.manifest.id inspection.revision) fs fs' ∧
      fs'.isDirectory (packagePath root inspection.manifest.id inspection.revision).dropLast =
        true ∧
      fs'.isDirectory (stagingPath root inspection.manifest.id o.clock ++ [ofString "payload"]) =
        true := by
  have hpackage : Committed root
      (packagePath root inspection.manifest.id inspection.revision) := .package _ _
  have hdropLast : (packagePath root inspection.manifest.id inspection.revision).dropLast =
      root ++ [ofString "packages", inspection.manifest.id] :=
    List.dropLast_append_of_ne_nil (by simp)
  obtain ⟨-, -, -, -, hpayload, -, -, hstays⟩ := stageRevision_eq_ok hstage
  refine ⟨?_, ?_, hpayload⟩
  · exact IsTrans.trans _ _ _
      (sameWithin_preparedStore hpackage.not_prefix_staging hpackage.not_prefix_packages)
      ((keeps_stageRevision hpackage.apart_stagingPath).of_ok hstage)
  · rw [hdropLast]
    exact hstays _ stagingPath_not_prefix.2
      (h.isDirectory_iff.mpr (.inr (.inr (List.prefix_refl _))))

/-- What is staged in the prepared store can be moved to its place and is found there. -/
theorem exists_commitRevision_preparedStore
    (h : platform.Preparable o root inspection.manifest.id fs) {fs₂ : Files}
    (hstage : platform.stageRevision o.stage source
      (stagingPath root inspection.manifest.id o.clock) inspection
      (preparedStore root inspection.manifest.id fs) = .ok () fs₂) :
    ∃ content, stagedContent o.stage source fs = some content ∧
      ((∃ fs', commitRevision o (stagingPath root inspection.manifest.id o.clock)
            (packagePath root inspection.manifest.id inspection.revision) fs₂ = .ok () fs' ∧
          platform.checkRevision o.resolution root inspection fs' = .ok ()) ↔
        (o.commit = none ∧ Vacant root inspection fs) ∧
            (∃ copy, platform.Matches o.resolution content inspection copy) ∨
          ¬(o.commit = none ∧ Vacant root inspection fs) ∧ o.committed = true ∧
            platform.InPlace o root inspection fs) := by
  obtain ⟨hsame, hparent, -⟩ := staged_preparedStore h hstage
  obtain ⟨content, scan, hcontent, hscan, hpayload, harchive, hfiles, -⟩ :=
    stageRevision_eq_ok hstage
  refine ⟨content, ?_, exists_commitRevision (Committed.package _ _).apart_stagingPath hsame hparent
    hpayload hscan harchive hfiles⟩
  rw [stagedContent, ← contentAt_preparedStore, ← stagedContent]
  exact hcontent

/-- **When a revision is provided**: it is found in its place exactly when it was there, or the
package can be staged and moved there. -/
theorem exists_provideRevision (h : platform.Preparable o root inspection.manifest.id fs) :
    (∃ fs', platform.provideRevision o root source inspection
          (preparedStore root inspection.manifest.id fs) = .ok () fs' ∧
        platform.checkRevision o.resolution root inspection fs' = .ok ()) ↔
      platform.Providable o root source inspection fs := by
  have hpackage : Committed root
      (packagePath root inspection.manifest.id inspection.revision) := .package _ _
  have hsame : SameWithin (packagePath root inspection.manifest.id inspection.revision) fs
      (preparedStore root inspection.manifest.id fs) :=
    sameWithin_preparedStore hpackage.not_prefix_staging hpackage.not_prefix_packages
  rw [provideRevision_apply, isDirectory_congr hsame.entry_eq]
  by_cases hquery : o.destination = true ∧
      fs.isDirectory (packagePath root inspection.manifest.id inspection.revision) = true
  · rw [if_pos (Bool.and_eq_true_iff.mpr hquery)]
    constructor
    · rintro ⟨_, hreturn, hcheck⟩
      cases hreturn
      rw [checkRevision_congr hsame] at hcheck
      exact .inl ⟨hquery.1, hquery.2, hcheck⟩
    · rintro (⟨-, -, hcheck⟩ | ⟨hstage, -⟩)
      · exact ⟨_, rfl, (checkRevision_congr hsame).trans hcheck⟩
      · exact absurd hquery hstage
  · rw [if_neg fun h => hquery (Bool.and_eq_true_iff.mp h)]
    have hstages := succeeds_stageRevision_preparedStore source h
    constructor
    · rintro ⟨fs', hprovide, hcheck⟩
      obtain ⟨_, fs₂, hstage, hcommit⟩ := EStateM.bind_eq_ok.mp hprovide
      obtain ⟨content, hcontent, hmoved⟩ := exists_commitRevision_preparedStore h hstage
      obtain ⟨content', hcontent', hstageable⟩ := hstages.mp ⟨(), fs₂, hstage⟩
      obtain rfl := Option.some.inj (hcontent.symm.trans hcontent')
      exact .inr ⟨hquery, content, hcontent, hstageable, hmoved.mp ⟨fs', hcommit, hcheck⟩⟩
    · rintro (⟨hdestination, hdirectory, -⟩ | ⟨-, content, hcontent, hstageable, hplaced⟩)
      · exact absurd ⟨hdestination, hdirectory⟩ hquery
      · obtain ⟨_, fs₂, hstage⟩ := hstages.mpr ⟨content, hcontent, hstageable⟩
        obtain ⟨content', hcontent', hmoved⟩ := exists_commitRevision_preparedStore h hstage
        obtain rfl := Option.some.inj (hcontent.symm.trans hcontent')
        obtain ⟨fs', hcommit, hcheck⟩ := hmoved.mpr hplaced
        exact ⟨fs', EStateM.bind_eq_ok.mpr ⟨(), fs₂, hstage, hcommit⟩, hcheck⟩

/-- Apart from its destination, the providing of a revision leaves everything in place alone. -/
theorem keeps_provideRevision (hstaging : Apart p (stagingPath root inspection.manifest.id o.clock))
    (hdestination : Apart p (packagePath root inspection.manifest.id inspection.revision)) :
    EStateM.Keeps (SameWithin p) (platform.provideRevision o root source inspection) := by
  intro fs
  rw [provideRevision_apply]
  split
  · exact Std.Refl.refl fs
  refine EStateM.final_bind (keeps_stageRevision hstaging fs) fun _ fs₁ _ => ?_
  exact sameWithin_commitRevision hstaging
    (keeps_rename (hstaging.append_right _) hdestination fs₁)

/-- The directories above the store stay. -/
theorem isDirectory_provideRevision
    (h : platform.provideRevision o root source inspection fs = .ok () fs') (hq : q <+: root)
    (hdirectory : fs.isDirectory q = true) : fs'.isDirectory q = true := by
  have hstaging : ¬stagingPath root inspection.manifest.id o.clock <+: q := fun hleads =>
    stagingPath_not_prefix.1 ((hleads.trans hq).trans (List.prefix_append _ _))
  have hpackage : ¬packagePath root inspection.manifest.id inspection.revision <+: q :=
    fun hleads => (Committed.package _ _).not_prefix_root (hleads.trans hq)
  have hremove (fs : Files) : (fs.removeAll (stagingPath root inspection.manifest.id o.clock)
      o.keep).isDirectory q = fs.isDirectory q :=
    isDirectory_congr (if_neg fun hremoved => hstaging hremoved.1)
  rw [provideRevision_apply] at h
  split at h
  · cases h
    exact hdirectory
  obtain ⟨_, fs₁, hstage, hcommit⟩ := EStateM.bind_eq_ok.mp h
  obtain ⟨-, -, -, -, -, -, -, hstays⟩ := stageRevision_eq_ok hstage
  have hstaged := hstays q hstaging hdirectory
  obtain ⟨-, rfl⟩ | ⟨-, -, -, rfl⟩ := commitRevision_eq_ok.mp hcommit
  · rw [hremove, isDirectory_congr (entry_move_off ?_ hpackage)]
    · exact hstaged
    · exact fun hleads => hstaging ((List.prefix_append _ _).trans hleads)
  · rw [hremove]
    exact hstaged

/-! ## The state file -/

/-- The temporary file lies apart from the directories of the store. -/
theorem apart_temporaryPath_directories {clock : ByteString} (rest : List ByteString) :
    Apart (temporaryPath root clock) (root ++ ofString "staging" :: rest) ∧
      Apart (temporaryPath root clock) (root ++ ofString "packages" :: rest) := by
  have hlength : (ofString "staging").length < 15 ∧ (ofString "packages").length < 15 := by
    decide +kernel
  exact ⟨(apart_cons (temporaryName_ne hlength.1)).append_left root,
    (apart_cons (temporaryName_ne hlength.2)).append_left root⟩

theorem succeeds_writeText {write : StateOutcome} {text : ByteString}
    (hroot : fs.isDirectory root = true) :
    EStateM.Succeeds (writeText write root text) fs ↔
      (write.write = none ∧ fs.isDirectory (temporaryPath root write.clock) = false) ∧
        write.rename = none ∧ fs.isDirectory (statePath root) = false := by
  have hparent : fs.isDirectory (temporaryPath root write.clock).dropLast = true := by
    rw [temporaryPath, List.dropLast_concat]
    exact hroot
  have hwrite : EStateM.Succeeds (writeFile (write.write.map (·, [])) text
      (temporaryPath root write.clock)) fs ↔
      write.write = none ∧ fs.isDirectory (temporaryPath root write.clock) = false := by
    rw [succeeds_writeFile, Option.map_eq_none_iff, and_iff_left hparent]
  have hadapted := EStateM.succeeds_adaptExcept (s := fs)
    (x := writeFile (write.write.map (·, [])) text (temporaryPath root write.clock))
    (f := fun _ => WriteFailure.failed (ofString "Failed to write plugin state"))
  rw [writeText, EStateM.succeeds_onFailure, ← hwrite, ← hadapted]
  refine EStateM.succeeds_bind fun _ fs₁ hwritten => ?_
  obtain ⟨-, hfree, -, rfl⟩ := writeFile_eq_ok.mp (EStateM.adaptExcept_eq_ok.mp hwritten)
  have hparent' : (fs.put (temporaryPath root write.clock) (.file text)).isDirectory
      (statePath root).dropLast = true := by
    rw [isDirectory_put_file hfree, statePath, List.dropLast_concat]
    exact hroot
  rw [replaceFile, EStateM.succeeds_adaptExcept, succeeds_rename,
    movable_file_iff entry_put hparent', isDirectory_put_file hfree]

/-- **When the state file can be replaced**. -/
theorem succeeds_writeState {write : StateOutcome} (hclear : fs.Clear root) :
    EStateM.Succeeds (writeState platform.codec write root state) fs ↔
      platform.Replaceable write root state fs := by
  have htemporary : ¬temporaryPath root write.clock <+: root := by
    intro hleads
    have hlength := hleads.length_le
    rw [temporaryPath, List.length_append, List.length_singleton] at hlength
    omega
  have hsame (p : List ByteString) (hp : ¬p <+: root) :
      (fs.addDirectories root).isDirectory p = fs.isDirectory p :=
    isDirectory_congr (sameWithin_addDirectories hp).entry_eq
  have hsteps : EStateM.Succeeds (writeState platform.codec write root state) fs ↔
      (write.directory = none ∧ fs.Clear root) ∧
        (platform.codec.dump (stateDocument state)).isSome ∧
        (write.write = none ∧ fs.isDirectory (temporaryPath root write.clock) = false) ∧
        write.rename = none ∧ fs.isDirectory (statePath root) = false := by
    rw [← succeeds_createDirectories, ← EStateM.succeeds_adaptExcept (f := fun message =>
      WriteFailure.failed (ofString "Failed to create plugin store: " ++ message))]
    refine EStateM.succeeds_bind fun _ fs₁ hcreate => ?_
    obtain ⟨-, -, rfl⟩ := createDirectories_eq_ok.mp (EStateM.adaptExcept_eq_ok.mp hcreate)
    have hroot : (fs.addDirectories root).isDirectory root = true :=
      (isDirectory_addDirectories hclear).mpr (.inr (List.prefix_refl root))
    cases hdump : platform.codec.dump (stateDocument state) with
    | none => exact iff_of_false (fun ⟨_, _, h⟩ => nomatch h) fun h => nomatch h.1
    | some text =>
      refine (succeeds_writeText hroot).trans ?_
      rw [hsame _ htemporary, hsame _ Committed.state.not_prefix_root]
      exact (and_iff_right rfl).symm
  rw [hsteps]
  constructor
  · rintro ⟨⟨hdirectory, -⟩, hdump, ⟨hwrite, htemporary⟩, hrename, hfile⟩
    exact ⟨hdirectory, hdump, hwrite, htemporary, hrename, hfile⟩
  · intro h
    exact ⟨⟨h.directory, hclear⟩, h.dump, ⟨h.write, h.temporary⟩, h.rename, h.file⟩

/-! ## The installation -/

theorem installRevision_eq_ok :
    platform.installRevision o root source inspection fs = .ok () fs' ↔
      ∃ state fs₁ fs₂, platform.prepareStore o root inspection.manifest.id fs = .ok state fs₁ ∧
        platform.provideRevision o root source inspection fs₁ = .ok () fs₂ ∧
        platform.checkRevision o.resolution root inspection fs₂ = .ok () ∧
        platform.activateRevision o.write root inspection state fs₂ = .ok () fs' := by
  simp only [installRevision, EStateM.bind_eq_ok, EStateM.reading_eq_ok]
  constructor
  · rintro ⟨state, fs₁, hprepare, _, fs₂, hprovide, _, _, ⟨hcheck, rfl⟩, hactivate⟩
    exact ⟨state, fs₁, _, hprepare, hprovide, hcheck, hactivate⟩
  · rintro ⟨state, fs₁, fs₂, hprepare, hprovide, hcheck, hactivate⟩
    exact ⟨state, fs₁, hprepare, (), fs₂, hprovide, (), fs₂, ⟨hcheck, rfl⟩, hactivate⟩

/-- The providing of the revision is not in the way of the state file. -/
theorem succeeds_activateRevision (h : platform.Preparable o root inspection.manifest.id fs)
    (hprovide : platform.provideRevision o root source inspection
      (preparedStore root inspection.manifest.id fs) = .ok () fs') :
    EStateM.Succeeds (platform.activateRevision o.write root inspection state) fs' ↔
      platform.Replaceable o.write root
        ⟨state.activePackages.insert inspection.manifest.id inspection.revision,
          state.controllerDrivers⟩ fs := by
  have hclear : fs'.Clear root := by
    intro q hq
    have hdirectory := isDirectory_provideRevision hprovide hq
      (h.isDirectory_iff.mpr (.inr (.inl (hq.trans (List.prefix_append _ _)))))
    rw [isRegularFile, isDirectory_iff.mp hdirectory]
  have hsame (p : List ByteString) (hstaging : ¬p <+: root ++ [ofString "staging"])
      (hparent : ¬p <+: root ++ [ofString "packages", inspection.manifest.id])
      (hapart : Apart p (stagingPath root inspection.manifest.id o.clock))
      (hpackage : Apart p (packagePath root inspection.manifest.id inspection.revision)) :
      fs'.isDirectory p = fs.isDirectory p :=
    isDirectory_congr (IsTrans.trans _ _ _ (sameWithin_preparedStore hstaging hparent)
      ((keeps_provideRevision hapart hpackage).of_ok hprovide)).entry_eq
  have hstate := hsame (statePath root) Committed.state.not_prefix_staging
    Committed.state.not_prefix_packages Committed.state.apart_stagingPath
    apart_statePath_packagePath
  have htemporary := hsame (temporaryPath root o.write.clock)
    (apart_temporaryPath_directories []).1.1 (apart_temporaryPath_directories _).2.1
    (apart_temporaryPath_directories _).1 (apart_temporaryPath_directories _).2
  rw [activateRevision, EStateM.succeeds_adaptExcept, succeeds_writeState hclear]
  constructor
  · exact fun h => ⟨h.directory, h.dump, h.write, htemporary ▸ h.temporary, h.rename,
      hstate ▸ h.file⟩
  · exact fun h => ⟨h.directory, h.dump, h.write, htemporary.trans h.temporary, h.rename,
      hstate.trans h.file⟩

/-- **When an installation succeeds**. -/
theorem succeeds_installRevision :
    EStateM.Succeeds (platform.installRevision o root source inspection) fs ↔
      platform.Installable o root source inspection fs := by
  simp only [EStateM.succeeds_unit, installRevision_eq_ok, prepareStore_eq_ok_iff]
  constructor
  · rintro ⟨fs', state, _, fs₂, ⟨hpreparable, hread, rfl⟩, hprovide, hcheck, hactivate⟩
    refine ⟨hpreparable, (exists_provideRevision hpreparable).mp ⟨fs₂, hprovide, hcheck⟩,
      fun state' hread' => ?_⟩
    obtain rfl := Option.some.inj (hread.symm.trans hread')
    exact (succeeds_activateRevision hpreparable hprovide).mp ⟨(), fs', hactivate⟩
  · intro h
    obtain ⟨state, hread⟩ := Option.isSome_iff_exists.mp h.preparable.state
    obtain ⟨fs₂, hprovide, hcheck⟩ := (exists_provideRevision h.preparable).mpr h.providable
    obtain ⟨_, fs', hactivate⟩ :=
      (succeeds_activateRevision h.preparable hprovide).mpr (h.replaceable state hread)
    exact ⟨fs', state, _, fs₂, ⟨h.preparable, hread, rfl⟩, hprovide, hcheck, hactivate⟩

end Platform

end LiberaLaser.Plugin
