import LiberaLaser.Plugin.Package.Inspect
import LiberaLaser.Plugin.Package.PathSafety

/-!
# When a package unpacks

An extraction goes through when no step is refused, every file of the package can be decoded, and
nothing in the tree is in its way. Files of the same package are never in the way of each other: an
archive in which one lies above another is not accepted.
-/

namespace LiberaLaser.Plugin

open ByteString FileSystem

/-! ## The files of an archive -/

/-- The place of an entry below a directory. -/
def ArchiveEntry.output (e : ArchiveEntry) (destination : List ByteString) : List ByteString :=
  destination ++ pathComponents e.path

/-- Neither of two files has to be a directory for the other. -/
def ArchiveEntry.Beside (e e' : ArchiveEntry) : Prop :=
  e.directory = false → e'.directory = false →
    ¬pathComponents e.path <+: (pathComponents e'.path).dropLast ∧
    ¬pathComponents e'.path <+: (pathComponents e.path).dropLast

theorem pathComponents_ne_nil (path : ByteString) : pathComponents path ≠ [] :=
  List.splitOn_ne_nil 47 path

theorem ArchiveEntry.dropLast_output (e : ArchiveEntry) (destination : List ByteString) :
    (e.output destination).dropLast = destination ++ (pathComponents e.path).dropLast :=
  List.dropLast_append_of_ne_nil (pathComponents_ne_nil e.path)

theorem intercalate_append {parts rest : List ByteString} (hparts : parts ≠ [])
    (hrest : rest ≠ []) :
    [47].intercalate (parts ++ rest) = [47].intercalate parts ++ [47] ++ [47].intercalate rest := by
  induction parts with
  | nil => exact absurd rfl hparts
  | cons part parts ih =>
    by_cases hne : parts = []
    · rw [hne, List.singleton_append, List.intercalate_cons_of_ne_nil hrest,
        List.intercalate_singleton]
    · rw [List.cons_append,
        List.intercalate_cons_of_ne_nil (List.append_ne_nil_of_left_ne_nil hne _), ih hne,
        List.intercalate_cons_of_ne_nil hne]
      simp only [List.append_assoc]

/-- Where the components of one path are a proper part of those of another, it is a directory that
the other lies in. -/
theorem prefix_of_components {path path' : ByteString}
    (h : pathComponents path <+: (pathComponents path').dropLast) : path ++ [47] <+: path' := by
  obtain ⟨rest, hrest⟩ := h
  have hsplit : pathComponents path' = pathComponents path ++
      (rest ++ [(pathComponents path').getLast (pathComponents_ne_nil path')]) := by
    rw [← List.append_assoc, hrest, List.dropLast_append_getLast]
  have hjoin (path : ByteString) : [47].intercalate (pathComponents path) = path :=
    List.intercalate_splitOn 47
  rw [← hjoin path', hsplit, intercalate_append (pathComponents_ne_nil path) (by simp), hjoin]
  exact List.prefix_append _ _

namespace ArchiveScan

variable {scan scan' : ArchiveScan} {es : List ZipEntry}

/-- A scan takes over the paths of the entries in their order. -/
theorem scanEntries_entries {index : ℕ} (h : scanEntries es index scan = .ok scan') :
    (scan'.entries.map fun e => (e.path, e.directory)) =
      (scan.entries.map fun e => (e.path, e.directory)) ++
        es.map fun e => (e.path, e.isDirectory) := by
  induction es generalizing index scan with
  | nil =>
    cases h
    rw [List.map_nil, List.append_nil]
  | cons e es ih =>
    obtain ⟨_, -, hrest⟩ := Except.bind_eq_ok.mp h
    rw [ih hrest, ArchiveScan.add, List.map_append, List.append_assoc]
    rfl

/-- The files that can be looked up are among the entries. -/
def Listed (scan : ArchiveScan) : Prop :=
  ∀ path, (scan.filesByPath.lookup path).isSome → ∃ e ∈ scan.entries, e.directory = false ∧
    e.path = path

theorem Listed.add (h : scan.Listed) (index : ℕ) (e : ZipEntry) : (scan.add index e).Listed := by
  intro path hpath
  have hmem : e.isDirectory = false → ∃ e' ∈ (scan.add index e).entries, e'.directory = false ∧
      e'.path = e.path := fun hfile =>
    ⟨_, List.mem_append_right _ (List.mem_singleton_self _), hfile, rfl⟩
  have hold : (scan.filesByPath.lookup path).isSome → ∃ e' ∈ (scan.add index e).entries,
      e'.directory = false ∧ e'.path = path := fun hpath => by
    obtain ⟨e', he', hfile⟩ := h path hpath
    exact ⟨e', List.mem_append_left _ he', hfile⟩
  simp only [ArchiveScan.add] at hpath
  split at hpath
  · exact hold hpath
  · rename_i hnew
    rw [Table.lookup_insert] at hpath
    split at hpath
    · rename_i hsame
      rw [hsame]
      exact hmem (Bool.eq_false_iff.mpr fun hdirectory => hnew (.inl hdirectory))
    · exact hold hpath

theorem listed_scanEntries {index : ℕ} (h : scanEntries es index scan = .ok scan')
    (hscan : scan.Listed) : scan'.Listed := by
  induction es generalizing index scan with
  | nil =>
    cases h
    exact hscan
  | cons e es ih =>
    obtain ⟨_, -, hrest⟩ := Except.bind_eq_ok.mp h
    exact ih hrest (hscan.add index e)

end ArchiveScan

section Accepted

variable {archive : Except ByteString (List ZipEntry)} {scan : ArchiveScan}

theorem scanEntries_of_openAndValidateArchive (h : openAndValidateArchive archive = .ok scan) :
    ∃ entries, archive = .ok entries ∧ ArchiveScan.scanEntries entries 0 {} = .ok scan := by
  cases archive with
  | error message => cases h
  | ok entries =>
    simp only [openAndValidateArchive, Except.ite_error_eq_ok, Except.bind_eq_ok] at h
    obtain ⟨-, scan', hscan, h⟩ := h
    split at h
    · cases h
      exact ⟨entries, rfl, hscan⟩
    · cases h

theorem listed_openAndValidateArchive (h : openAndValidateArchive archive = .ok scan) :
    scan.Listed := by
  obtain ⟨entries, -, hscan⟩ := scanEntries_of_openAndValidateArchive h
  refine ArchiveScan.listed_scanEntries hscan fun path hpath => ?_
  have hnone : (AList.lookup path (∅ : Table ByteString ℕ)) = none := AList.lookup_empty path
  rw [hnone] at hpath
  cases hpath

/-- No file of an accepted archive is a directory for another. -/
theorem pairwise_beside (h : openAndValidateArchive archive = .ok scan) :
    scan.entries.Pairwise ArchiveEntry.Beside := by
  obtain ⟨entries, rfl, hscan⟩ := scanEntries_of_openAndValidateArchive h
  have haccepted := openAndValidateArchive_iff.mp ⟨scan, h⟩
  let above (a b : ByteString × Bool) : Prop := a.2 = false → b.2 = false →
    ¬pathComponents a.1 <+: (pathComponents b.1).dropLast ∧
    ¬pathComponents b.1 <+: (pathComponents a.1).dropLast
  have hancestor (e e' : ZipEntry) (hfile : e.isDirectory = false)
      (hfile' : e'.isDirectory = false)
      (hleads : pathComponents e.path <+: (pathComponents e'.path).dropLast) :
      e.IsAncestor e' := by
    have hlower := (prefix_of_components hleads).map fun c : UInt8 =>
      if 65 ≤ c ∧ c ≤ 90 then c + 32 else c
    rw [List.map_append] at hlower
    have hkey (e : ZipEntry) (hfile : e.isDirectory = false) :
        e.collisionKey = lowerAscii e.path := by
      rw [ZipEntry.collisionKey, normalized, if_neg (by simp [hfile])]
    rw [ZipEntry.IsAncestor, hkey e hfile, hkey e' hfile']
    exact hlower
  have hpairs : (entries.map fun e => (e.path, e.isDirectory)).Pairwise above := by
    refine List.pairwise_map.mpr (haccepted.compatible.imp fun {e e'} hcompatible => ?_)
    intro hfile hfile'
    exact ⟨fun hleads => hcompatible.left hfile (hancestor e e' hfile hfile' hleads),
      fun hleads => hcompatible.right hfile' (hancestor e' e hfile' hfile hleads)⟩
  have hentries := ArchiveScan.scanEntries_entries hscan
  rw [List.map_nil, List.nil_append] at hentries
  rw [← hentries] at hpairs
  have hfiles := List.pairwise_map.mp hpairs
  exact hfiles

end Accepted

namespace Platform

variable {platform : Platform}

/-! ## Copies of a package -/

/-- The inspection of a copy of a package. -/
def inspectCopy (platform : Platform) (o : InspectOutcome) (content : ByteString) :
    Except ByteString PluginPackageInspection :=
  platform.inspectPluginPackage o [preservedArchiveName]
    (FileSystem.empty.put [preservedArchiveName] (.file content))

/-- An inspection looks at the content alone, where the name is that of a package. -/
theorem inspectPluginPackage_copy (platform : Platform) (o : InspectOutcome)
    {p : List ByteString} {name : ByteString} {content : ByteString} {fs : Files}
    (hname : lowerAscii (filenameExtension name) = ofString ".liberaplugin")
    (hfile : fs.entry (p ++ [name]) = some (.file content)) :
    platform.inspectPluginPackage o (p ++ [name]) fs = platform.inspectCopy o content := by
  have hpreserved : lowerAscii (filenameExtension preservedArchiveName) =
      ofString ".liberaplugin" := by
    decide +kernel
  have hlast : ([preservedArchiveName] : List ByteString).getLastD [] = preservedArchiveName := rfl
  rw [inspectCopy, inspectPluginPackage, inspectPluginPackage, hfile, entry_put,
    List.getLastD_concat, hlast, hname, hpreserved]

/-- The entrypoint that an inspection selects is a file of the archive. -/
theorem inspectCopy_selected {o : InspectOutcome} {content : ByteString}
    {i : PluginPackageInspection} {scan : ArchiveScan}
    (h : platform.inspectCopy o content = .ok i)
    (hscan : openAndValidateArchive (platform.zip.read content) = .ok scan) :
    ∃ e ∈ scan.entries, e.directory = false ∧ e.path = i.selectedEntrypoint := by
  rw [inspectCopy, inspectPluginPackage, entry_put] at h
  cases hstatus : o.status with
  | false =>
    rw [hstatus] at h
    cases h
  | true =>
    simp only [hstatus, inspectContent, Except.do_eq_ok] at h
    obtain ⟨_, -, _, -, scan', hopen, index, -, _, -, _, -, _, -, manifest, -, _, hentrypoints,
      selected, hselected, _, -, digest, -, hreturn⟩ := h
    cases hreturn
    obtain rfl := Except.ok.inj (hscan.symm.trans (openArchive_faultless hopen))
    have hselect := Except.ofOption_eq_ok.mp hselected
    obtain ⟨entrypoint, hfind, rfl⟩ := Option.map_eq_some_iff.mp hselect
    have hmem : entrypoint ∈ manifest.entrypoints := by
      rcases Option.or_eq_some_iff.mp hfind with hfind | ⟨-, hfind⟩
      · exact List.mem_of_find?_eq_some hfind
      · exact List.mem_of_find?_eq_some hfind
    exact listed_openAndValidateArchive hscan _
      (Except.require_eq_ok.mp hentrypoints entrypoint hmem)

section Extraction

variable {content : ByteString} {destination q : List ByteString} {fs fs' : Files}

/-! ## One file -/

/-- A file of a package can be extracted: no step is refused, the ZIP library decodes it, and
nothing is in its way. -/
structure FileExtractable (platform : Platform) (content : ByteString) (o : FileOutcome)
    (destination : List ByteString) (fs : Files) (e : ArchiveEntry) : Prop where
  directories : o.directories = none
  write : o.write = none
  decoded : (platform.zip.extract content e.index).2 = none
  clear : fs.Clear (e.output destination).dropLast
  free : fs.isDirectory (e.output destination) = false

theorem isDirectory_dropLast_output {e : ArchiveEntry}
    (hclear : fs.Clear (e.output destination).dropLast) :
    (fs.addDirectories (e.output destination).dropLast).isDirectory (e.output destination) =
      fs.isDirectory (e.output destination) := by
  have hproper : ¬e.output destination <+: (e.output destination).dropLast := by
    intro hleads
    rw [e.dropLast_output, ArchiveEntry.output, List.prefix_append_right_inj] at hleads
    have hlength := hleads.length_le
    have hpos := List.length_pos_of_ne_nil (pathComponents_ne_nil e.path)
    rw [List.length_dropLast] at hlength
    omega
  rw [Bool.eq_iff_iff, isDirectory_addDirectories hclear, or_iff_left hproper]

theorem extractEntry_eq_ok {o : FileOutcome} {e : ArchiveEntry} :
    platform.extractEntry content o destination e fs = .ok () fs' ↔
      e.directory = true ∧ fs' = fs ∨
      e.directory = false ∧ platform.FileExtractable content o destination fs e ∧
        fs' = (fs.addDirectories (e.output destination).dropLast).put (e.output destination)
          (.file (platform.zip.extract content e.index).1) := by
  have hwritten : (o.write.map (·, o.reason)) = none ↔ o.write = none := Option.map_eq_none_iff
  have houtput : destination ++ pathComponents e.path = e.output destination := rfl
  simp only [extractEntry, houtput]
  cases hdirectory : e.directory with
  | true =>
    rw [if_pos rfl, EStateM.ok_eq_ok]
    simp
  | false =>
    simp only [Bool.false_eq_true, if_false, false_and, true_and, false_or]
    constructor
    · intro h
      split at h
      · cases h
      rename_i fs₁ hcreate
      split at h
      · rename_i fs₂ hwrite hdecoded
        cases h
        obtain ⟨hdirectories, hclear, rfl⟩ := createDirectories_eq_ok.mp hcreate
        obtain ⟨haccepted, hfree, -, rfl⟩ := writeFile_eq_ok.mp hwrite
        rw [isDirectory_dropLast_output hclear] at hfree
        exact ⟨⟨hdirectories, hwritten.mp haccepted, hdecoded, hclear, hfree⟩, rfl⟩
      · cases h
      · cases h
    · rintro ⟨h, rfl⟩
      have hcreate : createDirectories o.directories (e.output destination).dropLast fs =
          .ok () (fs.addDirectories (e.output destination).dropLast) :=
        createDirectories_eq_ok.mpr ⟨h.directories, h.clear, rfl⟩
      have hparent : (fs.addDirectories (e.output destination).dropLast).isDirectory
          (e.output destination).dropLast = true :=
        (isDirectory_addDirectories h.clear).mpr (.inr (List.prefix_refl _))
      have hfree := (isDirectory_dropLast_output h.clear).trans h.free
      rw [hcreate]
      simp only []
      rw [writeFile_eq_ok.mpr ⟨hwritten.mpr h.write, hfree, hparent, rfl⟩, h.decoded]

theorem succeeds_extractEntry {o : FileOutcome} {e : ArchiveEntry} :
    EStateM.Succeeds (platform.extractEntry content o destination e) fs ↔
      (e.directory = false → platform.FileExtractable content o destination fs e) := by
  constructor
  · rintro ⟨_, fs', hextract⟩ hfile
    obtain ⟨hdirectory, -⟩ | ⟨-, hextractable, -⟩ := extractEntry_eq_ok.mp hextract
    · rw [hfile] at hdirectory
      cases hdirectory
    · exact hextractable
  · intro h
    cases hdirectory : e.directory with
    | true => exact ⟨(), fs, extractEntry_eq_ok.mpr (.inl ⟨hdirectory, rfl⟩)⟩
    | false => exact ⟨(), _, extractEntry_eq_ok.mpr (.inr ⟨hdirectory, h hdirectory, rfl⟩)⟩

/-- The files after a file was extracted. -/
theorem isRegularFile_extractEntry {o : FileOutcome} {e : ArchiveEntry}
    (h : platform.extractEntry content o destination e fs = .ok () fs') :
    fs'.isRegularFile q = true ↔
      fs.isRegularFile q = true ∨ e.directory = false ∧ q = e.output destination := by
  obtain ⟨hdirectory, rfl⟩ | ⟨hfile, hextractable, rfl⟩ := extractEntry_eq_ok.mp h
  · simp [hdirectory]
  · rw [isRegularFile_put_file, isRegularFile_addDirectories, or_comm]
    simp [hfile]

theorem isDirectory_extractEntry {o : FileOutcome} {e : ArchiveEntry}
    (h : platform.extractEntry content o destination e fs = .ok () fs') :
    fs'.isDirectory q = true ↔
      fs.isDirectory q = true ∨ e.directory = false ∧ q <+: (e.output destination).dropLast := by
  obtain ⟨hdirectory, rfl⟩ | ⟨hfile, hextractable, rfl⟩ := extractEntry_eq_ok.mp h
  · simp [hdirectory]
  · rw [isDirectory_put_file ((isDirectory_dropLast_output hextractable.clear).trans
      hextractable.free), isDirectory_addDirectories hextractable.clear]
    simp [hfile]

/-- Extracting one file is not in the way of another that lies beside it. -/
theorem fileExtractable_extractEntry {o o' : FileOutcome} {e e' : ArchiveEntry}
    (h : platform.extractEntry content o destination e fs = .ok () fs')
    (hbeside : e.Beside e') (hfile' : e'.directory = false) :
    platform.FileExtractable content o' destination fs' e' ↔
      platform.FileExtractable content o' destination fs e' := by
  have hclear : fs'.Clear (e'.output destination).dropLast ↔
      fs.Clear (e'.output destination).dropLast := by
    refine forall₂_congr fun r hr => ?_
    rw [Bool.eq_false_iff, Bool.eq_false_iff, ne_eq, isRegularFile_extractEntry h, or_iff_left]
    rintro ⟨hfile, rfl⟩
    rw [e'.dropLast_output, ArchiveEntry.output, List.prefix_append_right_inj] at hr
    exact (hbeside hfile hfile').1 hr
  have hfree :
      fs'.isDirectory (e'.output destination) = fs.isDirectory (e'.output destination) := by
    rw [Bool.eq_iff_iff, isDirectory_extractEntry h, or_iff_left]
    rintro ⟨hfile, hleads⟩
    rw [e.dropLast_output, ArchiveEntry.output, List.prefix_append_right_inj] at hleads
    exact (hbeside hfile hfile').2 hleads
  constructor
  · intro h'
    exact ⟨h'.directories, h'.write, h'.decoded, hclear.mp h'.clear, hfree ▸ h'.free⟩
  · intro h'
    exact ⟨h'.directories, h'.write, h'.decoded, hclear.mpr h'.clear, hfree.trans h'.free⟩

/-! ## All files -/

/-- All files can be extracted when each of them can. -/
theorem succeeds_extractEntries {o : ℕ → FileOutcome} {entries : List ArchiveEntry}
    (hbeside : entries.Pairwise ArchiveEntry.Beside) :
    EStateM.Succeeds (platform.extractEntries content o destination entries) fs ↔
      ∀ e ∈ entries, e.directory = false →
        platform.FileExtractable content (o e.index) destination fs e := by
  induction entries generalizing fs with
  | nil => exact ⟨fun _ _ he => absurd he List.not_mem_nil, fun _ => EStateM.succeeds_pure ()⟩
  | cons e entries ih =>
    obtain ⟨hfirst, hrest⟩ := List.pairwise_cons.mp hbeside
    have hbind := EStateM.succeeds_bind
      (f := fun _ => platform.extractEntries content o destination entries)
      (x := platform.extractEntry content (o e.index) destination e) (s := fs)
      (P := ∀ e' ∈ entries, e'.directory = false →
        platform.FileExtractable content (o e'.index) destination fs e')
      fun _ fs₁ hextract => (ih hrest).trans (forall₃_congr fun e' he' hfile' =>
        fileExtractable_extractEntry hextract (hfirst e' he') hfile')
    rw [List.forall_mem_cons, ← succeeds_extractEntry]
    exact hbind

theorem isRegularFile_extractEntries {o : ℕ → FileOutcome} {entries : List ArchiveEntry}
    (h : platform.extractEntries content o destination entries fs = .ok () fs') :
    fs'.isRegularFile q = true ↔ fs.isRegularFile q = true ∨
      ∃ e ∈ entries, e.directory = false ∧ q = e.output destination := by
  induction entries generalizing fs with
  | nil =>
    cases h
    simp
  | cons e entries ih =>
    obtain ⟨_, fs₁, hextract, hrest⟩ := EStateM.bind_eq_ok.mp h
    rw [ih hrest, isRegularFile_extractEntry hextract, List.exists_mem_cons_iff, or_assoc]

theorem isDirectory_extractEntries {o : ℕ → FileOutcome} {entries : List ArchiveEntry}
    (h : platform.extractEntries content o destination entries fs = .ok () fs') :
    fs'.isDirectory q = true ↔ fs.isDirectory q = true ∨
      ∃ e ∈ entries, e.directory = false ∧ q <+: (e.output destination).dropLast := by
  induction entries generalizing fs with
  | nil =>
    cases h
    simp
  | cons e entries ih =>
    obtain ⟨_, fs₁, hextract, hrest⟩ := EStateM.bind_eq_ok.mp h
    rw [ih hrest, isDirectory_extractEntry hextract, List.exists_mem_cons_iff, or_assoc]

/-! ## The package -/

/-- A package can be extracted to a new directory. -/
structure Extractable (platform : Platform) (o : ExtractOutcome) (content : ByteString)
    (destination : List ByteString) (fs : Files) : Prop where
  inspection : (platform.inspectCopy o.inspection content).isOk
  /-- A destination that exists is only passed over where the query for it fails. -/
  status : o.status = false ∨ fs.entry destination = none
  directory : o.directory = none
  clear : fs.Clear destination
  archive : o.archive = none
  files : ∀ scan, openAndValidateArchive (platform.zip.read content) = .ok scan →
    ∀ e ∈ scan.entries, e.directory = false →
      platform.FileExtractable content (o.files e.index) destination fs e

variable {p : List ByteString} {name : ByteString}

/-- The archive is opened where it was inspected. -/
theorem reopenArchive_eq_ok {failure : Option ByteString} {path : List ByteString}
    {opened : ByteString × ArchiveScan} (hfile : fs.entry path = some (.file content)) :
    platform.reopenArchive failure path fs = .ok opened ↔ failure = none ∧ opened.1 = content ∧
      openAndValidateArchive (platform.zip.read content) = .ok opened.2 := by
  obtain ⟨content', scan⟩ := opened
  rw [reopenArchive, hfile]
  simp only [Except.map_eq_ok, Prod.mk.injEq]
  cases failure with
  | some message => exact ⟨fun ⟨_, h, _⟩ => (nomatch h), fun h => nomatch h.1⟩
  | none =>
    constructor
    · rintro ⟨_, hopen, rfl, rfl⟩
      exact ⟨rfl, rfl, hopen⟩
    · rintro ⟨-, rfl, hopen⟩
      exact ⟨scan, hopen, rfl, rfl⟩

theorem entry_addDirectories_file (destination : List ByteString) {path : List ByteString}
    (hfile : fs.entry path = some (.file content)) :
    (fs.addDirectories destination).entry path = some (.file content) := by
  rw [entry_addDirectories, hfile, if_neg (by simp)]

/-- The making of the destination is in the way of no file. -/
theorem fileExtractable_addDirectories {o : FileOutcome} {e : ArchiveEntry}
    (hclear : fs.Clear destination) :
    platform.FileExtractable content o destination (fs.addDirectories destination) e ↔
      platform.FileExtractable content o destination fs e := by
  have hbelow : ¬e.output destination <+: destination := by
    intro hleads
    have hlength := hleads.length_le
    have hpos := List.length_pos_of_ne_nil (pathComponents_ne_nil e.path)
    rw [ArchiveEntry.output, List.length_append] at hlength
    omega
  have hfree : (fs.addDirectories destination).isDirectory (e.output destination) =
      fs.isDirectory (e.output destination) := by
    rw [Bool.eq_iff_iff, isDirectory_addDirectories hclear, or_iff_left hbelow]
  constructor
  · exact fun h => ⟨h.directories, h.write, h.decoded, clear_addDirectories.mp h.clear,
      hfree ▸ h.free⟩
  · exact fun h => ⟨h.directories, h.write, h.decoded, clear_addDirectories.mpr h.clear,
      hfree.trans h.free⟩

/-- The files go to the destination that was made for them. -/
theorem succeeds_extractFiles {o : ExtractOutcome} {path : List ByteString}
    (hfile : fs.entry path = some (.file content)) (hclear : fs.Clear destination)
    {checked : PluginPackageInspection}
    (haccepted : platform.inspectCopy o.inspection content = .ok checked) :
    EStateM.Succeeds (do
        let (content, scan) ← EStateM.reading (platform.reopenArchive o.archive path)
        platform.extractEntries content o.files destination scan.entries)
        (fs.addDirectories destination) ↔
      o.archive = none ∧ ∀ scan, openAndValidateArchive (platform.zip.read content) = .ok scan →
        ∀ e ∈ scan.entries, e.directory = false →
          platform.FileExtractable content (o.files e.index) destination fs e := by
  have hentry := entry_addDirectories_file destination hfile
  have hopen : EStateM.Succeeds
      (EStateM.reading (platform.reopenArchive o.archive path) : EStateM ByteString Files _)
      (fs.addDirectories destination) ↔ o.archive = none := by
    rw [EStateM.succeeds_reading]
    constructor
    · rintro ⟨opened, hreopen⟩
      exact ((reopenArchive_eq_ok hentry).mp hreopen).1
    · intro harchive
      obtain ⟨scan, hscan⟩ := inspectPluginPackage_archive haccepted entry_put
      exact ⟨(content, scan), (reopenArchive_eq_ok hentry).mpr ⟨harchive, rfl, hscan⟩⟩
  rw [← hopen]
  refine EStateM.succeeds_bind fun opened fs₁ hreading => ?_
  obtain ⟨content', scan⟩ := opened
  obtain ⟨hreopen, rfl⟩ := EStateM.reading_eq_ok.mp hreading
  obtain ⟨-, rfl, hscan⟩ := (reopenArchive_eq_ok hentry).mp hreopen
  refine (succeeds_extractEntries (pairwise_beside hscan)).trans ?_
  constructor
  · intro h scan' hscan'
    obtain rfl := Except.ok.inj (hscan.symm.trans hscan')
    exact fun e he hfile => (fileExtractable_addDirectories hclear).mp (h e he hfile)
  · exact fun h e he hfile => (fileExtractable_addDirectories hclear).mpr (h _ hscan e he hfile)

/-- Whether a package can be extracted depends on the files on the way to the destination, and on
what is in it. -/
theorem extractable_congr {o : ExtractOutcome}
    (hregular : ∀ q, q <+: destination → fs'.isRegularFile q = fs.isRegularFile q)
    (hsame : SameWithin destination fs fs') :
    platform.Extractable o content destination fs' ↔
      platform.Extractable o content destination fs := by
  have hfile (q : List ByteString) (e : ArchiveEntry) (hq : q <+: e.output destination) :
      fs'.isRegularFile q = fs.isRegularFile q := by
    rcases List.prefix_or_prefix_of_prefix hq (List.prefix_append _ _) with hq | hq
    · exact hregular q hq
    · exact isRegularFile_congr (hsame q hq)
  have hextractable (o : FileOutcome) (e : ArchiveEntry) :
      platform.FileExtractable content o destination fs' e ↔
        platform.FileExtractable content o destination fs e := by
    have hclear : fs'.Clear (e.output destination).dropLast ↔
        fs.Clear (e.output destination).dropLast :=
      forall₂_congr fun q hq => by rw [hfile q e (hq.trans (List.dropLast_prefix _))]
    have hfree : fs'.isDirectory (e.output destination) = fs.isDirectory (e.output destination) :=
      isDirectory_congr (hsame _ (List.prefix_append _ _))
    constructor
    · exact fun h => ⟨h.directories, h.write, h.decoded, hclear.mp h.clear, hfree ▸ h.free⟩
    · exact fun h => ⟨h.directories, h.write, h.decoded, hclear.mpr h.clear, hfree.trans h.free⟩
  have hclear : fs'.Clear destination ↔ fs.Clear destination :=
    forall₂_congr fun q hq => by rw [hregular q hq]
  constructor
  · intro h
    exact ⟨h.inspection, hsame.entry_eq ▸ h.status, h.directory, hclear.mp h.clear, h.archive,
      fun scan hscan e he hfile => (hextractable _ e).mp (h.files scan hscan e he hfile)⟩
  · intro h
    exact ⟨h.inspection, hsame.entry_eq.symm ▸ h.status, h.directory, hclear.mpr h.clear, h.archive,
      fun scan hscan e he hfile => (hextractable _ e).mpr (h.files scan hscan e he hfile)⟩

/-- **When a package unpacks**: exactly when no step is refused, all of its files can be decoded,
and nothing is in their way. -/
theorem succeeds_extractPluginPackage {o : ExtractOutcome}
    (hname : lowerAscii (filenameExtension name) = ofString ".liberaplugin")
    (hfile : fs.entry (p ++ [name]) = some (.file content)) :
    EStateM.Succeeds (platform.extractPluginPackage o (p ++ [name]) destination) fs ↔
      platform.Extractable o content destination fs := by
  have hinspect := platform.inspectPluginPackage_copy o.inspection hname hfile
  have hsteps : EStateM.Succeeds (platform.extractPluginPackage o (p ++ [name]) destination) fs ↔
      (platform.inspectCopy o.inspection content).isOk ∧
        (o.status = false ∨ fs.entry destination = none) ∧
        (o.directory = none ∧ fs.Clear destination) ∧ o.archive = none ∧
        ∀ scan, openAndValidateArchive (platform.zip.read content) = .ok scan →
          ∀ e ∈ scan.entries, e.directory = false →
            platform.FileExtractable content (o.files e.index) destination fs e := by
    rw [Except.isOk_iff, ← hinspect, ← EStateM.succeeds_reading]
    refine EStateM.succeeds_bind fun checked fs₁ hreading => ?_
    obtain ⟨haccepted, rfl⟩ := EStateM.reading_eq_ok.mp hreading
    rw [hinspect] at haccepted
    refine (EStateM.succeeds_bind fun _ fs₂ hreading => ?_).trans (and_congr_left' ?_)
    · obtain ⟨-, rfl⟩ := EStateM.reading_eq_ok.mp hreading
      refine (EStateM.succeeds_bind fun _ fs₃ hcreate => ?_).trans (and_congr_left' ?_)
      · obtain ⟨-, hclear, rfl⟩ := createDirectories_eq_ok.mp (EStateM.adaptExcept_eq_ok.mp hcreate)
        rw [← succeeds_extractFiles hfile hclear haccepted]
        refine (EStateM.succeeds_bind fun _ _ _ =>
          iff_true_intro (EStateM.succeeds_pure _)).trans ?_
        rw [and_true, EStateM.succeeds_onFailure]
      · rw [EStateM.succeeds_adaptExcept, succeeds_createDirectories]
    · rw [EStateM.succeeds_reading]
      exact ⟨fun ⟨_, hrequire⟩ => Except.require_eq_ok.mp hrequire,
        fun hstatus => ⟨(), Except.require_eq_ok.mpr hstatus⟩⟩
  rw [hsteps]
  constructor
  · rintro ⟨haccepted, hstatus, ⟨hdirectory, hclear⟩, harchive, hfiles⟩
    exact ⟨haccepted, hstatus, hdirectory, hclear, harchive, hfiles⟩
  · intro h
    exact ⟨h.inspection, h.status, ⟨h.directory, h.clear⟩, h.archive, h.files⟩

/-- What an extraction leaves: the directory, and in it the files of the package. -/
theorem extractPluginPackage_eq_ok {o : ExtractOutcome} {path : List ByteString}
    {i : PluginPackageInspection} (hfile : fs.entry path = some (.file content))
    (h : platform.extractPluginPackage o path destination fs = .ok i fs') :
    ∃ scan, openAndValidateArchive (platform.zip.read content) = .ok scan ∧
      (∀ q, fs'.isRegularFile q = true ↔ fs.isRegularFile q = true ∨
        ∃ e ∈ scan.entries, e.directory = false ∧ q = e.output destination) ∧
      ∀ q, fs'.isDirectory q = true ↔ (fs.isDirectory q = true ∨ q <+: destination) ∨
        ∃ e ∈ scan.entries, e.directory = false ∧ q <+: (e.output destination).dropLast := by
  obtain ⟨_, fs₁, hinspect, hrest⟩ := EStateM.bind_eq_ok.mp h
  obtain ⟨_, fs₂, hstatus, hrest⟩ := EStateM.bind_eq_ok.mp hrest
  obtain ⟨_, fs₃, hcreate, hrest⟩ := EStateM.bind_eq_ok.mp hrest
  obtain ⟨_, fs₄, hextract, hreturn⟩ := EStateM.bind_eq_ok.mp hrest
  cases hreturn
  obtain ⟨-, rfl⟩ := EStateM.reading_eq_ok.mp hinspect
  obtain ⟨-, rfl⟩ := EStateM.reading_eq_ok.mp hstatus
  obtain ⟨-, hclear, rfl⟩ := createDirectories_eq_ok.mp (EStateM.adaptExcept_eq_ok.mp hcreate)
  obtain ⟨⟨content', scan⟩, fs₅, hopen, hentries⟩ :=
    EStateM.bind_eq_ok.mp (EStateM.onFailure_eq_ok.mp hextract)
  obtain ⟨hreopen, rfl⟩ := EStateM.reading_eq_ok.mp hopen
  obtain ⟨-, rfl, hscan⟩ := (reopenArchive_eq_ok (entry_addDirectories_file _ hfile)).mp hreopen
  refine ⟨scan, hscan, fun q => ?_, fun q => ?_⟩
  · rw [isRegularFile_extractEntries hentries, isRegularFile_addDirectories]
  · rw [isDirectory_extractEntries hentries, isDirectory_addDirectories hclear]

end Extraction

end Platform

end LiberaLaser.Plugin
