import LiberaLaser.Plugin.Package.Manifest
import LiberaLaser.Plugin.Package.Sha256

/-!
# The inspection and extraction of a package

A package is inspected without loading native code: its archive is validated, its manifest read and
its digest taken. `extractPluginPackage` inspects it again and writes its files below a new
directory, which it removes where a step fails. What the system answers to each step is an input.
-/

namespace LiberaLaser.Plugin

open ByteString FileSystem

/-- What the ZIP library makes of an archive: its entries, and the data of the entry with an index
together with the error that ends the extraction. -/
structure ZipLibrary where
  read : ByteString → Except ByteString (List ZipEntry)
  extract : ByteString → ℕ → ByteString × Option ByteString

/-- The platform that a host is built for, and its libraries. -/
structure Platform where
  os : OperatingSystem
  arch : Architecture
  zip : ZipLibrary
  codec : JsonCodec
  /-- Why a text is not JSON. -/
  what : ByteString → ByteString

def maximumPackageBytes : ℕ := 1024 * 1024 * 1024

def maximumManifestBytes : UInt64 := 1024 * 1024

def preservedArchiveName : ByteString := ofString "archive.liberaplugin"

structure PluginPackageInspection where
  manifest : PluginManifest
  selectedEntrypoint : ByteString
  packageSha256 : ByteString
  message : ByteString
  deriving DecidableEq

/-- What the steps of an inspection do. -/
structure InspectOutcome where
  /-- The query whether the package is a regular file is answered. -/
  status : Bool := true
  /-- The query for the size is answered. -/
  size : Bool := true
  /-- The error that ends the validation of the archive. -/
  archive : Option ByteString := none
  /-- The manifest is read. -/
  manifest : Bool := true
  hash : ReadOutcome := .whole

/-- What the steps of extracting one file do. -/
structure FileOutcome where
  directories : Option (ℕ × ByteString) := none
  /-- What is in the file instead, if it is opened, where writing it fails. -/
  write : Option (Option ByteString) := none
  /-- The last error of the ZIP library. -/
  reason : ByteString := []

/-- What the steps of an extraction do. -/
structure ExtractOutcome where
  inspection : InspectOutcome := {}
  /-- The query whether the destination exists is answered. -/
  status : Bool := true
  directory : Option (ℕ × ByteString) := none
  archive : Option ByteString := none
  files : ℕ → FileOutcome := fun _ => {}
  /-- The paths that a removal of the destination leaves. -/
  keep : List ByteString → Bool := fun _ => false

namespace Platform

variable (platform : Platform)

/-! ## Inspection -/

/-- The archive is opened and validated, unless reading it fails. -/
def openArchive (failure : Option ByteString) (content : ByteString) :
    Except ByteString ArchiveScan :=
  match failure with
  | some message => .error message
  | none => openAndValidateArchive (platform.zip.read content)

/-- The inspection of a package with some content. -/
def inspectContent (o : InspectOutcome) (content : ByteString) :
    Except ByteString PluginPackageInspection := do
  let scan ← platform.openArchive o.archive content
  let index ← Except.ofOption (ofString "Package does not contain manifest.json at its root")
    (scan.filesByPath.lookup (ofString "manifest.json"))
  Except.require (scan.filesByPath.lookup preservedArchiveName = none)
    (ofString "Package contains the reserved archive.liberaplugin path")
  Except.require ((scan.entries.find? (·.index = index)).any
      fun entry => entry.uncompressedSize ≤ maximumManifestBytes)
    (ofString "Plugin manifest is too large")
  let (text, failure) := platform.zip.extract content index
  Except.require (o.manifest ∧ failure = none) (ofString "Failed to read plugin manifest")
  let manifest ← parseManifest platform.codec platform.what text
  Except.require (∀ e ∈ manifest.entrypoints, (scan.filesByPath.lookup e.path).isSome)
    (ofString "An entrypoint referenced by the manifest is missing")
  let selectedEntrypoint ← Except.ofOption (ofString "Package has no entrypoint for " ++
      platform.os.name ++ ofString "-" ++ platform.arch.name)
    (selectEntrypoint platform.os platform.arch manifest)
  Except.require (∀ d ∈ manifest.documents.readme.toList ++ manifest.documents.license.toList,
      (scan.filesByPath.lookup d).isSome)
    (ofString "A document referenced by the manifest is missing")
  let packageSha256 ← fileSha256 o.hash content
  let message := ofString "OK: " ++ manifest.name ++ ofString " " ++ manifest.version
  return { manifest, selectedEntrypoint, packageSha256, message }

def inspectPluginPackage (o : InspectOutcome) (path : List ByteString) (fs : Files) :
    Except ByteString PluginPackageInspection :=
  match o.status, fs.entry path with
  | true, some (.file content) => do
    Except.require
      (lowerAscii (filenameExtension (path.getLastD [])) = ofString ".liberaplugin")
      (ofString "Plugin package must use the .liberaplugin extension")
    Except.require (o.size ∧ content.length ≠ 0 ∧ content.length ≤ maximumPackageBytes)
      (ofString "Plugin package has an invalid size")
    platform.inspectContent o content
  | _, _ => .error (ofString "Plugin package is not a regular file")

/-! ## Extraction -/

def extractEntry (content : ByteString) (o : FileOutcome) (destination : List ByteString)
    (entry : ArchiveEntry) : EStateM ByteString Files Unit := fun fs =>
  let output := destination ++ pathComponents entry.path
  let failed (reason : ByteString) :=
    ofString "Failed to extract " ++ entry.path ++ ofString ": " ++ reason
  let (data, failure) := platform.zip.extract content entry.index
  if entry.directory then .ok () fs
  else
    match createDirectories o.directories output.dropLast fs with
    -- the file is opened all the same
    | .error reason fs =>
      .error (failed reason) (writeFile (o.write.map (·, o.reason)) [] output fs).final
    | .ok _ fs =>
      match writeFile (o.write.map (·, o.reason)) data output fs, failure with
      | .ok _ fs, none => .ok () fs
      | .ok _ fs, some reason => .error (failed reason) fs
      | .error _ fs, _ => .error (failed o.reason) fs

def extractEntries (content : ByteString) (o : ℕ → FileOutcome) (destination : List ByteString) :
    List ArchiveEntry → EStateM ByteString Files Unit
  | [] => pure ()
  | entry :: entries => do
    platform.extractEntry content (o entry.index) destination entry
    extractEntries content o destination entries

/-- The content of an archive with its entries. -/
def reopenArchive (failure : Option ByteString) (path : List ByteString) (fs : Files) :
    Except ByteString (ByteString × ArchiveScan) :=
  match fs.entry path with
  | some (.file content) =>
    (platform.openArchive failure content).map fun scan => (content, scan)
  | _ => (openAndValidateArchive (.error (ofString "no error"))).map fun scan => ([], scan)

def extractPluginPackage (o : ExtractOutcome) (path destination : List ByteString) :
    EStateM ByteString Files PluginPackageInspection := do
  let checked ← EStateM.reading (platform.inspectPluginPackage o.inspection path)
  EStateM.reading fun fs =>
    Except.require (o.status = false ∨ fs.entry destination = none)
      (ofString "Extraction destination already exists")
  EStateM.adaptExcept (ofString "Failed to create extraction directory: " ++ ·)
    (createDirectories o.directory destination)
  EStateM.onFailure (·.removeAll destination o.keep) do
    let (content, scan) ← EStateM.reading (platform.reopenArchive o.archive path)
    platform.extractEntries content o.files destination scan.entries
  return checked

/-! ## What an inspection finds -/

variable {platform} {o : InspectOutcome} {content : ByteString} {i : PluginPackageInspection}

theorem openArchive_faultless {failure : Option ByteString} {scan : ArchiveScan}
    (h : platform.openArchive failure content = .ok scan) :
    platform.openArchive none content = .ok scan := by
  cases failure with
  | some message => cases h
  | none => exact h

theorem fileSha256_eq_ok {o : ReadOutcome} {digest : ByteString}
    (h : fileSha256 o content = .ok digest) : digest = contentSha256 content := by
  cases o with
  | whole =>
    cases h
    rfl
  | notOpened => cases h
  | broken => cases h

/-- An inspection that succeeds gives the digest of the content, and would give the same if no step
failed. -/
theorem inspectContent_eq_ok (h : platform.inspectContent o content = .ok i) :
    platform.inspectContent {} content = .ok i ∧ i.packageSha256 = contentSha256 content := by
  simp only [inspectContent, Except.do_eq_ok] at h ⊢
  obtain ⟨scan, hscan, index, hindex, _, hreserved, _, hsize, _, hread, manifest, hmanifest, _,
    hentrypoints, selected, hselected, _, hdocuments, digest, hdigest, hreturn⟩ := h
  have hread' := (Except.require_eq_ok.mp hread).2
  have hdigest' := fileSha256_eq_ok hdigest
  refine ⟨⟨scan, openArchive_faultless hscan, index, hindex, (), hreserved, (), hsize, (),
    Except.require_eq_ok.mpr ⟨trivial, hread'⟩, manifest, hmanifest, (), hentrypoints, selected,
    hselected, (), hdocuments, contentSha256 content, rfl, ?_⟩, ?_⟩
  · rw [← hdigest']
    exact hreturn
  · cases hreturn
    exact hdigest'

variable {path : List ByteString} {fs fs' : Files}

theorem inspectPluginPackage_eq_ok (h : platform.inspectPluginPackage o path fs = .ok i) :
    platform.inspectPluginPackage {} path fs = .ok i ∧
      ∃ content, fs.entry path = some (.file content) ∧
        i.packageSha256 = contentSha256 content := by
  unfold inspectPluginPackage at h ⊢
  split at h
  · rename_i content _ hentry
    simp only [hentry, Except.do_eq_ok] at h ⊢
    obtain ⟨_, hextension, _, hsize, hinspect⟩ := h
    obtain ⟨hfaultless, hdigest⟩ := inspectContent_eq_ok hinspect
    have hsize' := (Except.require_eq_ok.mp hsize).2
    exact ⟨⟨(), hextension, (), Except.require_eq_ok.mpr ⟨trivial, hsize'⟩, hfaultless⟩, content,
      rfl, hdigest⟩
  · cases h

/-- The manifest of a package that passes is one that the parser accepts. -/
theorem inspectPluginPackage_manifest (h : platform.inspectPluginPackage o path fs = .ok i) :
    ∃ text, parseManifest platform.codec platform.what text = .ok i.manifest := by
  unfold inspectPluginPackage at h
  split at h
  · simp only [Except.do_eq_ok] at h
    obtain ⟨_, -, _, -, hinspect⟩ := h
    simp only [inspectContent, Except.do_eq_ok] at hinspect
    obtain ⟨scan, -, index, -, _, -, _, -, _, -, manifest, hmanifest, _, -, selected, -, _, -,
      digest, -, hreturn⟩ := hinspect
    cases hreturn
    exact ⟨_, hmanifest⟩
  · cases h

/-- The archive of a package that passes is one that is accepted. -/
theorem inspectPluginPackage_archive (h : platform.inspectPluginPackage o path fs = .ok i)
    (hfile : fs.entry path = some (.file content)) :
    ∃ scan, openAndValidateArchive (platform.zip.read content) = .ok scan := by
  unfold inspectPluginPackage at h
  split at h
  · rename_i content' _ hentry
    obtain rfl := FileEntry.file.inj (Option.some.inj (hentry.symm.trans hfile))
    simp only [Except.do_eq_ok] at h
    obtain ⟨_, -, _, -, hinspect⟩ := h
    simp only [inspectContent, Except.do_eq_ok] at hinspect
    obtain ⟨scan, hscan, -⟩ := hinspect
    exact ⟨scan, openArchive_faultless hscan⟩
  · cases h

theorem inspectPluginPackage_congr (h : fs'.entry path = fs.entry path) :
    platform.inspectPluginPackage o path fs' = platform.inspectPluginPackage o path fs := by
  rw [inspectPluginPackage, inspectPluginPackage, h]

/-! ## What an extraction leaves alone -/

variable {p destination : List ByteString}

/-- An extraction keeps what making directories and writing files keep. -/
theorem keeps_extractEntry_of {R : Files → Files → Prop} [Std.Refl R] [IsTrans Files R]
    {content : ByteString} {o : FileOutcome} {entry : ArchiveEntry}
    (hdirectories : ∀ failure, EStateM.Keeps R
      (createDirectories failure (destination ++ pathComponents entry.path).dropLast))
    (hwrite : ∀ failure data, EStateM.Keeps R
      (writeFile failure data (destination ++ pathComponents entry.path))) :
    EStateM.Keeps R (platform.extractEntry content o destination entry) := by
  intro fs
  unfold extractEntry
  simp only []
  split
  · exact Std.Refl.refl fs
  have hcreated := hdirectories o.directories fs
  split
  · rename_i hcreate
    rw [hcreate] at hcreated
    exact IsTrans.trans _ _ _ hcreated (hwrite _ _ _)
  · rename_i fs₁ hcreate
    rw [hcreate] at hcreated
    refine IsTrans.trans _ _ _ hcreated ?_
    have hwritten := hwrite (o.write.map (·, o.reason))
      (platform.zip.extract content entry.index).1 fs₁
    split
    · rename_i hresult _
      rw [hresult] at hwritten
      exact hwritten
    · rename_i hresult _
      rw [hresult] at hwritten
      exact hwritten
    · rename_i hresult
      rw [hresult] at hwritten
      exact hwritten

theorem keeps_extractEntry {content : ByteString} {o : FileOutcome} {entry : ArchiveEntry}
    (h : Apart p destination) :
    EStateM.Keeps (SameWithin p) (platform.extractEntry content o destination entry) := by
  have houtput : ¬p <+: destination ++ pathComponents entry.path :=
    fun hp => h.not_prefix hp (List.prefix_append _ _)
  have hparent : ¬p <+: (destination ++ pathComponents entry.path).dropLast :=
    fun hp => houtput (hp.trans (List.dropLast_prefix _))
  exact keeps_extractEntry_of (fun _ => keeps_createDirectories hparent)
    fun _ _ => keeps_writeFile houtput

theorem keeps_extractEntries {content : ByteString} {o : ℕ → FileOutcome}
    (entries : List ArchiveEntry) (h : Apart p destination) :
    EStateM.Keeps (SameWithin p) (platform.extractEntries content o destination entries) := by
  induction entries with
  | nil => exact EStateM.keeps_pure ()
  | cons entry entries ih => exact (keeps_extractEntry h).bind fun _ => ih

theorem keeps_extractPluginPackage {o : ExtractOutcome} (h : Apart p destination) :
    EStateM.Keeps (SameWithin p) (platform.extractPluginPackage o path destination) := by
  refine (EStateM.keeps_reading _).bind fun checked => ?_
  refine (EStateM.keeps_reading _).bind fun _ => ?_
  refine (keeps_createDirectories h.1).adaptExcept.bind fun _ => ?_
  refine EStateM.Keeps.bind (EStateM.Keeps.onFailure ?_ fun fs => sameWithin_removeAll h)
    fun _ => EStateM.keeps_pure checked
  exact (EStateM.keeps_reading _).bind fun _ => keeps_extractEntries _ h

end Platform

end LiberaLaser.Plugin
