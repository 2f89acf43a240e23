import LiberaLaser.Plugin.Management.Staging

/-!
# When a staged package comes to its place

The payload is moved to the place of the revision, which is free or an empty directory; a move that
fails is no failure where a directory is there already. What stands in the place is resolved, and
has to be the package that was inspected. Both are decided by what was in the place before and by
the bytes that were staged (`exists_commitRevision`).
-/

namespace LiberaLaser.Plugin

open ByteString FileSystem

namespace Platform

/-- A copy of the package, put in its place, resolves to the package that was inspected. -/
structure Matches (platform : Platform) (o : ResolveOutcome) (content : ByteString)
    (inspection copy : PluginPackageInspection) : Prop where
  accepted : platform.inspectCopy o.inspection content = .ok copy
  id : copy.manifest.id = inspection.manifest.id
  revision : inspection.revision = copy.revision
  entrypoint : o.entrypoint = true
  digest : copy.packageSha256 = inspection.packageSha256

/-- The staged package can be moved to its place. -/
def Vacant (root : List ByteString) (inspection : PluginPackageInspection) (fs : Files) : Prop :=
  let destination := packagePath root inspection.manifest.id inspection.revision
  fs.entry destination = none ∨
    fs.isDirectory destination = true ∧ fs.emptyAt destination = true

variable {platform : Platform} {o : InstallOutcome} {root : List ByteString}
  {inspection : PluginPackageInspection} {fs fs' : Files} {pluginId revision : ByteString}

/-! ## Resolution -/

/-- A resolution that succeeds would give the same if no step failed. -/
theorem resolveRevision_eq_some {o : ResolveOutcome} {installed : InstalledPluginRevision}
    (h : platform.resolveRevision o root pluginId revision fs = some installed) :
    platform.resolveRevision {} root pluginId revision fs = some installed ∧
      ∃ content, fs.entry installed.archivePath = some (.file content) ∧
        installed.packageSha256 = contentSha256 content := by
  unfold resolveRevision at h ⊢
  simp only [] at h ⊢
  split at h
  · cases h
  · rename_i inspected hinspect
    obtain ⟨hfaultless, content, hentry, hdigest⟩ := inspectPluginPackage_eq_ok hinspect
    rw [hfaultless]
    split at h
    · rename_i hchecks
      cases h
      exact ⟨if_pos ⟨hchecks.1, hchecks.2.1, trivial, hchecks.2.2.2⟩, content, hentry, hdigest⟩
    · cases h

/-- The archive that a resolution finds is in the directory of the revision. -/
theorem archivePath_resolveRevision {o : ResolveOutcome} {installed : InstalledPluginRevision}
    (h : platform.resolveRevision o root pluginId revision fs = some installed) :
    packagePath root pluginId revision <+: installed.archivePath := by
  unfold resolveRevision at h
  simp only [] at h
  split at h
  · cases h
  · split at h
    · cases h
      exact List.prefix_append _ _
    · cases h

/-- A resolution looks at the directory of the revision alone. -/
theorem resolveRevision_congr {o : ResolveOutcome}
    (h : SameWithin (packagePath root pluginId revision) fs fs') :
    platform.resolveRevision o root pluginId revision fs' =
      platform.resolveRevision o root pluginId revision fs := by
  have hinspect : platform.inspectPluginPackage o.inspection
      (packagePath root pluginId revision ++ [preservedArchiveName]) fs' =
      platform.inspectPluginPackage o.inspection
        (packagePath root pluginId revision ++ [preservedArchiveName]) fs :=
    inspectPluginPackage_congr (h _ (List.prefix_append _ _))
  have hregular (entrypoint : ByteString) :
      fs'.isRegularFile (packagePath root pluginId revision ++ pathComponents entrypoint) =
        fs.isRegularFile (packagePath root pluginId revision ++ pathComponents entrypoint) := by
    rw [isRegularFile, isRegularFile, h _ (List.prefix_append _ _)]
  simp only [resolveRevision, hinspect, hregular]

theorem checkRevision_eq_ok {o : ResolveOutcome} :
    platform.checkRevision o root inspection fs = .ok () ↔
      ∃ copy, platform.inspectPluginPackage o.inspection
          (packagePath root inspection.manifest.id inspection.revision ++ [preservedArchiveName])
          fs = .ok copy ∧
        copy.manifest.id = inspection.manifest.id ∧ inspection.revision = copy.revision ∧
        o.entrypoint = true ∧
        fs.isRegularFile (packagePath root inspection.manifest.id inspection.revision ++
          pathComponents copy.selectedEntrypoint) = true ∧
        copy.packageSha256 = inspection.packageSha256 := by
  rw [checkRevision, Except.require_eq_ok, Option.any_eq_true, resolveRevision]
  simp only []
  cases hinspect : platform.inspectPluginPackage o.inspection
      (packagePath root inspection.manifest.id inspection.revision ++ [preservedArchiveName])
      fs with
  | error e => simp
  | ok copy => simp [and_assoc]

theorem checkRevision_congr {o : ResolveOutcome}
    (h : SameWithin (packagePath root inspection.manifest.id inspection.revision) fs fs') :
    platform.checkRevision o root inspection fs' = platform.checkRevision o root inspection fs := by
  rw [checkRevision, checkRevision, resolveRevision_congr h]

/-! ## The move -/

variable {staging : List ByteString} {content : ByteString} {scan : ArchiveScan}

/-- A package that was moved to its place resolves exactly if its archive does. -/
theorem checkRevision_move (resolution : ResolveOutcome) (keep : List ByteString → Bool)
    (hstaging : Apart (packagePath root inspection.manifest.id inspection.revision) staging)
    (hscan : openAndValidateArchive (platform.zip.read content) = .ok scan)
    (harchive : fs.entry (staging ++ [ofString "payload"] ++ [preservedArchiveName]) =
      some (.file content))
    (hfiles : ∀ e ∈ scan.entries, e.directory = false →
      fs.isRegularFile (e.output (staging ++ [ofString "payload"])) = true) :
    platform.checkRevision resolution root inspection
        ((fs.move (staging ++ [ofString "payload"])
          (packagePath root inspection.manifest.id inspection.revision)).removeAll staging keep) =
        .ok () ↔
      ∃ copy, platform.Matches resolution content inspection copy := by
  have hextension : lowerAscii (filenameExtension preservedArchiveName) =
      ofString ".liberaplugin" := by
    decide +kernel
  rw [checkRevision_congr (sameWithin_removeAll hstaging), checkRevision_eq_ok,
    inspectPluginPackage_copy _ _ hextension ((entry_move_append _).trans harchive)]
  refine exists_congr fun copy => ?_
  constructor
  · rintro ⟨haccepted, hid, hrevision, hentrypoint, -, hdigest⟩
    exact ⟨haccepted, hid, hrevision, hentrypoint, hdigest⟩
  · intro h
    refine ⟨h.accepted, h.id, h.revision, h.entrypoint, ?_, h.digest⟩
    obtain ⟨e, he, hfile, hpath⟩ := inspectCopy_selected h.accepted hscan
    have hregular := hfiles e he hfile
    rw [ArchiveEntry.output, hpath] at hregular
    rw [isRegularFile, entry_move_append, ← isRegularFile]
    exact hregular

/-- The staged package moves to its place, or a directory is there already. -/
theorem commitRevision_eq_ok {destination : List ByteString} :
    commitRevision o staging destination fs = .ok () fs' ↔
      (o.commit = none ∧ fs.Movable (staging ++ [ofString "payload"]) destination) ∧
          fs' = (fs.move (staging ++ [ofString "payload"]) destination).removeAll staging o.keep ∨
        ¬(o.commit = none ∧ fs.Movable (staging ++ [ofString "payload"]) destination) ∧
          o.committed = true ∧ fs.isDirectory destination = true ∧
          fs' = fs.removeAll staging o.keep := by
  rw [← succeeds_rename]
  unfold commitRevision
  cases hrename : rename o.commit (staging ++ [ofString "payload"]) destination fs with
  | ok _ fs₁ =>
    have hmoved : EStateM.Succeeds
        (rename o.commit (staging ++ [ofString "payload"]) destination) fs := ⟨(), fs₁, hrename⟩
    rw [(rename_eq_ok.mp hrename).2.2, EStateM.ok_eq_ok]
    simp only [hmoved, true_and, not_true_eq_false, false_and, or_false]
  | error message fs₁ =>
    have hfailed : ¬EStateM.Succeeds
        (rename o.commit (staging ++ [ofString "payload"]) destination) fs := by
      rintro ⟨_, fs₂, h⟩
      rw [hrename] at h
      cases h
    rw [rename_eq_error hrename]
    simp only [hfailed, false_and, false_or, not_false_eq_true, true_and]
    cases o.committed with
    | false => simp
    | true => simp only [Bool.not_true, Bool.false_eq_true, if_false, EStateM.ite_eq_ok, true_and]

variable {fs₀ : Files}

/-- Whether the package can be moved to its place is decided by what was there before. -/
theorem movable_iff_vacant
    (hsame : SameWithin (packagePath root inspection.manifest.id inspection.revision) fs₀ fs)
    (hparent : fs.isDirectory
      (packagePath root inspection.manifest.id inspection.revision).dropLast = true)
    (hpayload : fs.isDirectory (staging ++ [ofString "payload"]) = true) :
    fs.Movable (staging ++ [ofString "payload"])
        (packagePath root inspection.manifest.id inspection.revision) ↔
      Vacant root inspection fs₀ := by
  have hempty : fs.emptyAt (packagePath root inspection.manifest.id inspection.revision) = true ↔
      fs₀.emptyAt (packagePath root inspection.manifest.id inspection.revision) = true := by
    rw [emptyAt_iff, emptyAt_iff]
    exact forall₂_congr fun q hq => by rw [hsame q hq]
  rw [movable_directory_iff hpayload hparent, hsame.entry_eq, isDirectory_congr hsame.entry_eq,
    hempty]
  exact Iff.rfl

/-- After the staging: the move to the place of the revision, and the check of what is there. -/
theorem exists_commitRevision {resolution : ResolveOutcome}
    (hstaging : Apart (packagePath root inspection.manifest.id inspection.revision) staging)
    (hsame : SameWithin (packagePath root inspection.manifest.id inspection.revision) fs₀ fs)
    (hparent : fs.isDirectory
      (packagePath root inspection.manifest.id inspection.revision).dropLast = true)
    (hpayload : fs.isDirectory (staging ++ [ofString "payload"]) = true)
    (hscan : openAndValidateArchive (platform.zip.read content) = .ok scan)
    (harchive : fs.entry (staging ++ [ofString "payload"] ++ [preservedArchiveName]) =
      some (.file content))
    (hfiles : ∀ e ∈ scan.entries, e.directory = false →
      fs.isRegularFile (e.output (staging ++ [ofString "payload"])) = true) :
    (∃ fs', commitRevision o staging
          (packagePath root inspection.manifest.id inspection.revision) fs = .ok () fs' ∧
        platform.checkRevision resolution root inspection fs' = .ok ()) ↔
      (o.commit = none ∧ Vacant root inspection fs₀) ∧
          (∃ copy, platform.Matches resolution content inspection copy) ∨
        ¬(o.commit = none ∧ Vacant root inspection fs₀) ∧ o.committed = true ∧
          fs₀.isDirectory (packagePath root inspection.manifest.id inspection.revision) = true ∧
          platform.checkRevision resolution root inspection fs₀ = .ok () := by
  have hmatches := checkRevision_move resolution o.keep hstaging hscan harchive hfiles
  have hkept : platform.checkRevision resolution root inspection (fs.removeAll staging o.keep) =
      platform.checkRevision resolution root inspection fs₀ :=
    checkRevision_congr (IsTrans.trans _ _ _ hsame (sameWithin_removeAll hstaging))
  simp only [commitRevision_eq_ok, movable_iff_vacant hsame hparent hpayload,
    isDirectory_congr hsame.entry_eq]
  constructor
  · rintro ⟨_, ⟨hmoved, rfl⟩ | ⟨hkeeps, hcommitted, hdirectory, rfl⟩, hcheck⟩
    · exact .inl ⟨hmoved, hmatches.mp hcheck⟩
    · exact .inr ⟨hkeeps, hcommitted, hdirectory, hkept ▸ hcheck⟩
  · rintro (⟨hmoved, hcopy⟩ | ⟨hkeeps, hcommitted, hdirectory, hcheck⟩)
    · exact ⟨_, .inl ⟨hmoved, rfl⟩, hmatches.mpr hcopy⟩
    · exact ⟨_, .inr ⟨hkeeps, hcommitted, hdirectory, rfl⟩, hkept.trans hcheck⟩

end Platform

end LiberaLaser.Plugin
