import LiberaLaser.Plugin.Management.Frames
import LiberaLaser.Plugin.Package.Unpacking

/-!
# When a package can be staged

A package is copied to a staging directory, inspected again, unpacked, and moved next to what was
unpacked. All this goes through exactly when what is staged passes the inspection with the same
digest, unpacks, and finds the places free that it takes (`succeeds_stageRevision`). Then the
staging directory holds the files of the package and its archive (`stageRevision_eq_ok`).
-/

namespace LiberaLaser.Plugin

open ByteString FileSystem

namespace Platform

/-- A copy of the package can be made in the staging directory, and unpacks there. -/
structure Stageable (platform : Platform) (o : StageOutcome) (content : ByteString)
    (staging : List ByteString) (inspection : PluginPackageInspection) (fs : Files) : Prop where
  directory : o.directory = none
  clear : fs.isRegularFile staging = false
  copy : o.copy = none
  free : fs.entry (staging ++ [ofString "source.liberaplugin"]) = none
  unchanged : unchanged inspection (platform.inspectCopy o.inspection content) = true
  extractable : platform.Extractable o.extraction content (staging ++ [ofString "payload"]) fs
  preserve : o.preserve = none
  /-- No directory stands where the archive is to be kept. -/
  preserved : fs.isDirectory (staging ++ [ofString "payload"] ++ [preservedArchiveName]) = false
  below : ∀ scan, openAndValidateArchive (platform.zip.read content) = .ok scan →
    ∀ e ∈ scan.entries, e.directory = false →
      ¬[preservedArchiveName] <+: (pathComponents e.path).dropLast

/-- What is staged: the package, or what has taken its place since. -/
def stagedContent (o : StageOutcome) (source : List ByteString) (fs : Files) : Option ByteString :=
  o.source.or (fs.contentAt source)

variable {platform : Platform} {stage : StageOutcome} {source staging : List ByteString}
  {content : ByteString} {inspection : PluginPackageInspection} {fs fs' : Files}

/-- What a copy of the package in its staging directory changes. -/
structure Staged (content : ByteString) (staging : List ByteString) (fs fs' : Files) : Prop where
  archive : fs'.entry (staging ++ [ofString "source.liberaplugin"]) = some (.file content)
  directory : fs'.isDirectory staging = true
  regular : ∀ q ≠ staging ++ [ofString "source.liberaplugin"],
    fs'.isRegularFile q = fs.isRegularFile q
  same : ∀ q ≠ staging, q ≠ staging ++ [ofString "source.liberaplugin"] → fs'.entry q = fs.entry q

theorem stagingNames_ne : ofString "source.liberaplugin" ≠ ofString "payload" := by
  decide +kernel

theorem extension_source :
    lowerAscii (filenameExtension (ofString "source.liberaplugin")) = ofString ".liberaplugin" := by
  decide +kernel

theorem apart_archive_payload : Apart (staging ++ [ofString "source.liberaplugin"])
    (staging ++ [ofString "payload"]) :=
  (apart_cons stagingNames_ne).append_left staging

namespace Staged

variable (h : Staged content staging fs fs')
include h

/-- What lies in the payload is not touched. -/
theorem sameWithin_payload : SameWithin (staging ++ [ofString "payload"]) fs fs' := by
  intro q hq
  refine h.same q ?_ ?_
  · rintro rfl
    have hlength := hq.length_le
    rw [List.length_append, List.length_singleton] at hlength
    omega
  · rintro rfl
    exact apart_archive_payload.2 hq

theorem extractable_iff {extraction : ExtractOutcome} :
    platform.Extractable extraction content (staging ++ [ofString "payload"]) fs' ↔
      platform.Extractable extraction content (staging ++ [ofString "payload"]) fs := by
  refine extractable_congr (fun q hq => h.regular q ?_) h.sameWithin_payload
  rintro rfl
  exact apart_archive_payload.1 hq

end Staged

theorem staged_of_copyFile {fs₁ : Files} {o : StageOutcome}
    (hcreate : createDirectory o.directory staging fs = .ok () fs₁)
    (hcopy : copyFile o.copy content (staging ++ [ofString "source.liberaplugin"]) fs₁ =
      .ok () fs') : Staged content staging fs fs' := by
  obtain ⟨hdirectory, hsame, hcontent⟩ := entry_createDirectory hcreate
  obtain ⟨-, hfree, -, rfl⟩ := copyFile_eq_ok.mp hcopy
  have hne : staging ≠ staging ++ [ofString "source.liberaplugin"] := by simp
  have hother (q : List ByteString) (hq : q ≠ staging ++ [ofString "source.liberaplugin"]) :
      (fs₁.put (staging ++ [ofString "source.liberaplugin"]) (.file content)).entry q =
        fs₁.entry q :=
    Function.update_of_ne hq _ _
  refine ⟨entry_put, ?_, fun q hq => ?_, fun q hq hq' => ?_⟩
  · rw [isDirectory_congr (hother _ hne)]
    exact hdirectory
  · rw [isRegularFile_congr (hother q hq), isRegularFile_eq_isSome, hcontent,
      ← isRegularFile_eq_isSome]
  · rw [hother q hq', hsame q hq]

/-- The copy is inspected by its bytes. -/
theorem succeeds_inspectStaged (hstaged : Staged content staging fs fs') (o : InspectOutcome) :
    EStateM.Succeeds (EStateM.reading fun fs => Except.require
      (unchanged inspection (platform.inspectPluginPackage o
        (staging ++ [ofString "source.liberaplugin"]) fs) = true)
      (.of "Plugin package changed while it was being installed" []) :
        EStateM InstallFailure Files Unit) fs' ↔
      unchanged inspection (platform.inspectCopy o content) = true := by
  have hinspect := platform.inspectPluginPackage_copy o extension_source hstaged.archive
  rw [EStateM.succeeds_reading, hinspect]
  exact ⟨fun ⟨_, h⟩ => Except.require_eq_ok.mp h, fun h => ⟨(), Except.require_eq_ok.mpr h⟩⟩

/-- The archive is extracted and moved next to what was extracted. -/
theorem succeeds_extractStaged (hstaged : Staged content staging fs fs')
    {extraction : ExtractOutcome} {preserve : Option ByteString} :
    EStateM.Succeeds (do
        let _ ← EStateM.adaptExcept (InstallFailure.failed [])
          (platform.extractPluginPackage extraction (staging ++ [ofString "source.liberaplugin"])
            (staging ++ [ofString "payload"]))
        EStateM.adaptExcept (.of "Failed to preserve package archive: ")
          (rename preserve (staging ++ [ofString "source.liberaplugin"])
            (staging ++ [ofString "payload"] ++ [preservedArchiveName]))) fs' ↔
      platform.Extractable extraction content (staging ++ [ofString "payload"]) fs ∧
        preserve = none ∧
        fs.isDirectory (staging ++ [ofString "payload"] ++ [preservedArchiveName]) = false ∧
        ∀ scan, openAndValidateArchive (platform.zip.read content) = .ok scan →
          ∀ e ∈ scan.entries, e.directory = false →
            ¬[preservedArchiveName] <+: (pathComponents e.path).dropLast := by
  rw [← hstaged.extractable_iff, ← succeeds_extractPluginPackage extension_source hstaged.archive,
    ← EStateM.succeeds_adaptExcept (f := InstallFailure.failed [])]
  refine EStateM.succeeds_bind fun checked fs₁ hextract => ?_
  have hextracted := EStateM.adaptExcept_eq_ok.mp hextract
  obtain ⟨scan, hscan, hregular, hdirectory⟩ :=
    extractPluginPackage_eq_ok hstaged.archive hextracted
  have harchive : fs₁.entry (staging ++ [ofString "source.liberaplugin"]) = some (.file content) :=
    ((keeps_extractPluginPackage apart_archive_payload).of_ok hextracted).entry_eq.trans
      hstaged.archive
  have hpayload : fs₁.isDirectory (staging ++ [ofString "payload"]) = true :=
    (hdirectory _).mpr (.inl (.inr (List.prefix_refl _)))
  have hparent : fs₁.isDirectory
      (staging ++ [ofString "payload"] ++ [preservedArchiveName]).dropLast = true := by
    rw [List.dropLast_concat]
    exact hpayload
  rw [EStateM.succeeds_adaptExcept, succeeds_rename, movable_file_iff harchive hparent]
  refine and_congr_right' ?_
  have hfree : fs₁.isDirectory (staging ++ [ofString "payload"] ++ [preservedArchiveName]) = false ↔
      fs.isDirectory (staging ++ [ofString "payload"] ++ [preservedArchiveName]) = false ∧
        ∀ e ∈ scan.entries, e.directory = false →
          ¬[preservedArchiveName] <+: (pathComponents e.path).dropLast := by
    have hbelow : ¬staging ++ [ofString "payload"] ++ [preservedArchiveName] <+:
        staging ++ [ofString "payload"] := by
      intro hleads
      have hlength := hleads.length_le
      rw [List.length_append, List.length_singleton] at hlength
      omega
    have hsame : fs'.isDirectory (staging ++ [ofString "payload"] ++ [preservedArchiveName]) =
        fs.isDirectory (staging ++ [ofString "payload"] ++ [preservedArchiveName]) :=
      isDirectory_congr (hstaged.sameWithin_payload _ (List.prefix_append _ _))
    rw [Bool.eq_false_iff, Bool.eq_false_iff, ne_eq, hdirectory, hsame, or_iff_left hbelow, not_or]
    refine and_congr_right' ?_
    push Not
    refine forall₃_congr fun e _ _ => ?_
    rw [e.dropLast_output, List.prefix_append_right_inj]
  rw [hfree]
  refine and_congr_right' ⟨fun h scan' hscan' => ?_, fun h => h scan hscan⟩
  obtain rfl := Except.ok.inj (hscan.symm.trans hscan')
  exact h

/-- The steps after the making of the staging directory, for a content that was read. -/
theorem succeeds_stageContent {fs₁ : Files}
    (hcreate : createDirectory stage.directory staging fs = .ok () fs₁) :
    EStateM.Succeeds (do
        EStateM.adaptExcept (InstallFailure.of "Failed to stage package archive: ")
          (copyFile stage.copy content (staging ++ [ofString "source.liberaplugin"]))
        EStateM.reading fun fs => Except.require
          (unchanged inspection (platform.inspectPluginPackage stage.inspection
            (staging ++ [ofString "source.liberaplugin"]) fs) = true)
          (.of "Plugin package changed while it was being installed" [])
        let _ ← EStateM.adaptExcept (InstallFailure.failed [])
          (platform.extractPluginPackage stage.extraction
            (staging ++ [ofString "source.liberaplugin"]) (staging ++ [ofString "payload"]))
        EStateM.adaptExcept (.of "Failed to preserve package archive: ")
          (rename stage.preserve (staging ++ [ofString "source.liberaplugin"])
            (staging ++ [ofString "payload"] ++ [preservedArchiveName]))) fs₁ ↔
      (stage.copy = none ∧ fs.entry (staging ++ [ofString "source.liberaplugin"]) = none) ∧
        unchanged inspection (platform.inspectCopy stage.inspection content) = true ∧
        platform.Extractable stage.extraction content (staging ++ [ofString "payload"]) fs ∧
        stage.preserve = none ∧
        fs.isDirectory (staging ++ [ofString "payload"] ++ [preservedArchiveName]) = false ∧
        ∀ scan, openAndValidateArchive (platform.zip.read content) = .ok scan →
          ∀ e ∈ scan.entries, e.directory = false →
            ¬[preservedArchiveName] <+: (pathComponents e.path).dropLast := by
  obtain ⟨hmade, hsame, -⟩ := entry_createDirectory hcreate
  have hfree : fs₁.entry (staging ++ [ofString "source.liberaplugin"]) =
      fs.entry (staging ++ [ofString "source.liberaplugin"]) := hsame _ (by simp)
  have hcopy : EStateM.Succeeds
      (copyFile stage.copy content (staging ++ [ofString "source.liberaplugin"])) fs₁ ↔
      stage.copy = none ∧ fs.entry (staging ++ [ofString "source.liberaplugin"]) = none := by
    rw [succeeds_copyFile, List.dropLast_concat, hfree, and_iff_left hmade]
  rw [← hcopy, ← EStateM.succeeds_adaptExcept
    (f := InstallFailure.of "Failed to stage package archive: ")]
  refine EStateM.succeeds_bind fun _ fs₂ hcopied => ?_
  have hstaged := staged_of_copyFile hcreate (EStateM.adaptExcept_eq_ok.mp hcopied)
  rw [← succeeds_inspectStaged hstaged]
  refine EStateM.succeeds_bind fun _ fs₃ hreading => ?_
  obtain ⟨-, rfl⟩ := EStateM.reading_eq_ok.mp hreading
  exact succeeds_extractStaged hstaged

/-- **When a package can be staged**. -/
theorem succeeds_stageRevision (hparent : fs.isDirectory staging.dropLast = true) :
    EStateM.Succeeds (platform.stageRevision stage source staging inspection) fs ↔
      ∃ content, stagedContent stage source fs = some content ∧
        platform.Stageable stage content staging inspection fs := by
  have hdirectory := succeeds_createDirectory stage.directory hparent
  have hsteps : EStateM.Succeeds (platform.stageRevision stage source staging inspection) fs ↔
      (stage.directory = none ∧ fs.isRegularFile staging = false) ∧
        ∃ content, stagedContent stage source fs = some content ∧
          (stage.copy = none ∧ fs.entry (staging ++ [ofString "source.liberaplugin"]) = none) ∧
          unchanged inspection (platform.inspectCopy stage.inspection content) = true ∧
          platform.Extractable stage.extraction content (staging ++ [ofString "payload"]) fs ∧
          stage.preserve = none ∧
          fs.isDirectory (staging ++ [ofString "payload"] ++ [preservedArchiveName]) = false ∧
          ∀ scan, openAndValidateArchive (platform.zip.read content) = .ok scan →
            ∀ e ∈ scan.entries, e.directory = false →
              ¬[preservedArchiveName] <+: (pathComponents e.path).dropLast := by
    rw [← hdirectory, ← EStateM.succeeds_adaptExcept
      (f := InstallFailure.of "Failed to create staging directory: ")]
    refine EStateM.succeeds_bind fun _ fs₁ hadapted => ?_
    have hcreate := EStateM.adaptExcept_eq_ok.mp hadapted
    obtain ⟨-, -, hcontent⟩ := entry_createDirectory hcreate
    have hstaged : stagedContent stage source fs₁ = stagedContent stage source fs := by
      rw [stagedContent, stagedContent, hcontent]
    rw [EStateM.succeeds_onFailure]
    cases hfound : stagedContent stage source fs with
    | none =>
      refine iff_of_false ?_ nofun
      rintro ⟨_, fs₂, h⟩
      obtain ⟨content, fs₃, hreading, -⟩ := EStateM.bind_eq_ok.mp h
      obtain ⟨hread, -⟩ := EStateM.reading_eq_ok.mp hreading
      have hsome := Except.ofOption_eq_ok.mp hread
      rw [← stagedContent, hstaged, hfound] at hsome
      cases hsome
    | some content =>
      simp only [Option.some.injEq, exists_eq_left']
      have hread : Except.ofOption (.of "Failed to stage package archive: "
            (ofString "No such file or directory")) (stage.source.or (fs₁.contentAt source)) =
          (.ok content : Except InstallFailure ByteString) :=
        Except.ofOption_eq_ok.mpr (hstaged.trans hfound)
      refine (EStateM.succeeds_bind fun content' fs₂ hreading => ?_).trans
        (and_iff_right (EStateM.succeeds_reading.mpr ⟨content, hread⟩))
      obtain ⟨hread', rfl⟩ := EStateM.reading_eq_ok.mp hreading
      obtain rfl := Except.ok.inj (hread.symm.trans hread')
      exact succeeds_stageContent hcreate
  rw [hsteps]
  constructor
  · rintro ⟨hcreate, content, hcontent, hcopy, hunchanged, hextractable, hpreserve, hpreserved,
      hbelow⟩
    exact ⟨content, hcontent, hcreate.1, hcreate.2, hcopy.1, hcopy.2, hunchanged, hextractable,
      hpreserve, hpreserved, hbelow⟩
  · rintro ⟨content, hcontent, h⟩
    exact ⟨⟨h.directory, h.clear⟩, content, hcontent, ⟨h.copy, h.free⟩, h.unchanged, h.extractable,
      h.preserve, h.preserved, h.below⟩

/-- What staging leaves: the unpacked package with its archive. -/
theorem stageRevision_eq_ok
    (h : platform.stageRevision stage source staging inspection fs = .ok () fs') :
    ∃ content scan, stagedContent stage source fs = some content ∧
      openAndValidateArchive (platform.zip.read content) = .ok scan ∧
      fs'.isDirectory (staging ++ [ofString "payload"]) = true ∧
      fs'.entry (staging ++ [ofString "payload"] ++ [preservedArchiveName]) =
        some (.file content) ∧
      (∀ e ∈ scan.entries, e.directory = false →
        fs'.isRegularFile (e.output (staging ++ [ofString "payload"])) = true) ∧
      ∀ q, ¬staging <+: q → fs.isDirectory q = true → fs'.isDirectory q = true := by
  obtain ⟨_, fs₁, hcreate, hrest⟩ := EStateM.bind_eq_ok.mp h
  obtain ⟨content, fs₂, hread, hrest⟩ :=
    EStateM.bind_eq_ok.mp (EStateM.onFailure_eq_ok.mp hrest)
  obtain ⟨_, fs₃, hcopy, hrest⟩ := EStateM.bind_eq_ok.mp hrest
  obtain ⟨_, fs₄, hinspect, hrest⟩ := EStateM.bind_eq_ok.mp hrest
  obtain ⟨_, fs₅, hextract, hpreserve⟩ := EStateM.bind_eq_ok.mp hrest
  have hcreated := EStateM.adaptExcept_eq_ok.mp hcreate
  obtain ⟨hfound, rfl⟩ := EStateM.reading_eq_ok.mp hread
  obtain ⟨-, rfl⟩ := EStateM.reading_eq_ok.mp hinspect
  have hstaged := staged_of_copyFile hcreated (EStateM.adaptExcept_eq_ok.mp hcopy)
  obtain ⟨-, hsame, hcontent⟩ := entry_createDirectory hcreated
  obtain ⟨scan, hscan, hregular, hdirectory⟩ :=
    extractPluginPackage_eq_ok hstaged.archive (EStateM.adaptExcept_eq_ok.mp hextract)
  obtain ⟨-, hmovable, rfl⟩ := rename_eq_ok.mp (EStateM.adaptExcept_eq_ok.mp hpreserve)
  have harchive : fs₅.entry (staging ++ [ofString "source.liberaplugin"]) = some (.file content) :=
    ((keeps_extractPluginPackage apart_archive_payload).of_ok
      (EStateM.adaptExcept_eq_ok.mp hextract)).entry_eq.trans hstaged.archive
  have hpayload : fs₅.isDirectory (staging ++ [ofString "payload"]) = true :=
    (hdirectory _).mpr (.inl (.inr (List.prefix_refl _)))
  have hfree :
      fs₅.isDirectory (staging ++ [ofString "payload"] ++ [preservedArchiveName]) ≠ true := by
    have hparent : fs₅.isDirectory
        (staging ++ [ofString "payload"] ++ [preservedArchiveName]).dropLast = true := by
      rw [List.dropLast_concat]
      exact hpayload
    rw [ne_eq, Bool.not_eq_true, ← movable_file_iff harchive hparent]
    exact hmovable
  have hbeside : ¬staging ++ [ofString "source.liberaplugin"] <+: staging ++ [ofString "payload"] :=
    apart_archive_payload.1
  refine ⟨content, scan, ?_, hscan, ?_, ?_, fun e he hfile => ?_, fun q hq hdir => ?_⟩
  · have hsome := Except.ofOption_eq_ok.mp hfound
    rwa [hcontent] at hsome
  · rw [isDirectory_congr (entry_move_off hbeside ?_)]
    · exact hpayload
    · intro hleads
      have hlength := hleads.length_le
      rw [List.length_append, List.length_singleton] at hlength
      omega
  · rw [entry_move, harchive]
  · by_cases heq : e.output (staging ++ [ofString "payload"]) =
        staging ++ [ofString "payload"] ++ [preservedArchiveName]
    · rw [heq, isRegularFile, entry_move, harchive]
    · rw [isRegularFile_congr (entry_move_off ?_ ?_)]
      · exact (hregular _).mpr (.inr ⟨e, he, hfile, rfl⟩)
      · exact apart_archive_payload.symm.not_prefix (List.prefix_append _ _)
      · intro hleads
        refine hfree ((hdirectory _).mpr (.inr ⟨e, he, hfile, ?_⟩))
        exact prefix_dropLast hleads (Ne.symm heq)
  · have hcopied : fs₄.isDirectory q = true := by
      rw [isDirectory_congr (hstaged.same q ?_ ?_)]
      · exact hdir
      · rintro rfl
        exact hq (List.prefix_refl _)
      · rintro rfl
        exact hq (List.prefix_append _ _)
    rw [isDirectory_congr (entry_move_off ?_ ?_)]
    · exact (hdirectory q).mpr (.inl (.inl hcopied))
    · exact fun hleads => hq ((List.prefix_append _ _).trans hleads)
    · rw [List.append_assoc]
      exact fun hleads => hq ((List.prefix_append _ _).trans hleads)

end Platform

end LiberaLaser.Plugin
