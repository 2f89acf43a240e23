import LiberaLaser.Foundations.JsonText
import LiberaLaser.Plugin.Package.Inspect
import LiberaLaser.Plugin.Package.PathSafety

/-!
# The preserved archive

An installation keeps the archive of a package beside the files that came out of it. For this it
reserves a name, but `inspectPluginPackage` looks for that name as it is written and among the files
only. `preservedArchive_portable_iff` says which entries the archive can stand beside.
-/

namespace LiberaLaser.Plugin

open ByteString FileSystem

/-- The paths differ when case is ignored, and none of a file lies above another. -/
structure PortableTree (entries : List ZipEntry) : Prop where
  distinct : (entries.map ZipEntry.collisionKey).Nodup
  leaves : ∀ e ∈ entries, e.isDirectory = false → ∀ e' ∈ entries, ¬e.IsAncestor e'

/-- The copy of a package that is kept beside its entries. -/
def preservedArchive : ZipEntry := { name := preservedArchiveName }

/-- The first component of a path as a file system that ignores case sees it. -/
def ZipEntry.topLevelName (e : ZipEntry) : ByteString := e.collisionKey.takeWhile (· ≠ 47)

theorem portableTree_iff {entries : List ZipEntry} :
    PortableTree entries ↔ entries.Pairwise ZipEntry.Compatible := by
  constructor
  · intro h
    have hdistinct := List.pairwise_map.mp h.distinct
    refine hdistinct.imp_of_mem fun he he' hne => ⟨hne, fun hfile => ?_, fun hfile => ?_⟩
    · exact h.leaves _ he hfile _ he'
    · exact h.leaves _ he' hfile _ he
  · intro h
    refine ⟨List.pairwise_map.mpr (h.imp fun hcompatible => hcompatible.ne), ?_⟩
    intro e he hfile e' he' hancestor
    by_cases heq : e = e'
    · rw [← heq] at hancestor
      exact e.not_isAncestor_self hancestor
    · exact (h.forall he he' heq).left hfile hancestor

theorem collisionKey_preservedArchive :
    preservedArchive.collisionKey = preservedArchiveName := by
  decide +kernel

theorem slash_notMem_preservedArchiveName : 47 ∉ preservedArchiveName := by
  decide +kernel

/-- No file lies above the preserved archive, which is not in a directory. -/
theorem not_isAncestor_preservedArchive (e : ZipEntry) : ¬e.IsAncestor preservedArchive := by
  intro hpre
  rw [ZipEntry.IsAncestor, collisionKey_preservedArchive] at hpre
  refine slash_notMem_preservedArchiveName (hpre.subset ?_)
  exact List.mem_append_right _ (List.mem_singleton_self 47)

theorem compatible_preservedArchive_iff {e : ZipEntry} :
    preservedArchive.Compatible e ↔ e.topLevelName ≠ preservedArchiveName := by
  have hname := takeWhile_ne_eq_iff (s := e.collisionKey) slash_notMem_preservedArchiveName
  rw [Ne, ZipEntry.topLevelName, hname, not_or]
  constructor
  · rintro ⟨hne, hleaf, -⟩
    have hbelow := hleaf rfl
    rw [ZipEntry.IsAncestor, collisionKey_preservedArchive] at hbelow
    rw [collisionKey_preservedArchive] at hne
    exact ⟨hne.symm, hbelow⟩
  · rintro ⟨hne, hbelow⟩
    refine ⟨?_, fun _ => ?_, fun _ => not_isAncestor_preservedArchive e⟩
    · rw [collisionKey_preservedArchive]
      exact Ne.symm hne
    · rw [ZipEntry.IsAncestor, collisionKey_preservedArchive]
      exact hbelow

/-- **When the preserved archive collides with nothing**: exactly when no entry of the package has
its name as the first component, in whichever case. -/
theorem preservedArchive_portable_iff {platform : Platform} {o : InspectOutcome}
    {path : List ByteString} {fs : Files} {inspection : PluginPackageInspection}
    {content : ByteString} {entries : List ZipEntry}
    (h : platform.inspectPluginPackage o path fs = .ok inspection)
    (hfile : fs.entry path = some (.file content))
    (hread : platform.zip.read content = .ok entries) :
    PortableTree (preservedArchive :: entries) ↔
      ∀ e ∈ entries, e.topLevelName ≠ preservedArchiveName := by
  have haccepted := Platform.inspectPluginPackage_archive h hfile
  rw [hread, openAndValidateArchive_iff] at haccepted
  rw [portableTree_iff, List.pairwise_cons]
  constructor
  · exact fun hpairwise e he => compatible_preservedArchive_iff.mp (hpairwise.1 e he)
  · exact fun hnames => ⟨fun e he => compatible_preservedArchive_iff.mpr (hnames e he),
      haccepted.compatible⟩

/-! ## A small package -/

namespace Demo

def manifest : ByteString :=
  ofString "\x7b\"schemaVersion\":1,\"id\":\"demo\",\"version\":\"1.0.0\",\"name\":\"Demo\"," ++
  ofString "\"vendor\":\"V\",\"controllerType\":\"Demo\",\"libera\":\x7b\"abiVersion\":1\x7d," ++
  ofString "\"entrypoints\":[\x7b\"os\":\"linux\",\"arch\":\"x86_64\",\"path\":\"demo.so\"\x7d]\x7d"

/-- The ZIP archive of the manifest and a library, neither of them compressed. -/
def archive : ByteString :=
  [80, 75, 3, 4, 10, 0, 0, 0, 0, 0, 0, 0, 33, 0, 251, 63, 95, 25, 190, 0, 0, 0, 190, 0, 0, 0, 13, 0,
    0, 0] ++ ofString "manifest.json" ++ manifest ++
  [80, 75, 3, 4, 10, 0, 0, 0, 0, 0, 0, 0, 33, 0, 183, 29, 136, 192, 6, 0, 0, 0, 6, 0, 0, 0, 7, 0, 0,
    0] ++ ofString "demo.so" ++ ofString "native" ++
  [80, 75, 1, 2, 10, 0, 10, 0, 0, 0, 0, 0, 0, 0, 33, 0, 251, 63, 95, 25, 190, 0, 0, 0, 190, 0, 0, 0,
    13, 0, 0, 0, 0, 0, 0, 0, 0, 0, 0, 0, 0, 0, 0, 0, 0, 0] ++ ofString "manifest.json" ++
  [80, 75, 1, 2, 10, 0, 10, 0, 0, 0, 0, 0, 0, 0, 33, 0, 183, 29, 136, 192, 6, 0, 0, 0, 6, 0, 0, 0,
    7, 0, 0, 0, 0, 0, 0, 0, 0, 0, 0, 0, 0, 0, 233, 0, 0, 0] ++ ofString "demo.so" ++
  [80, 75, 5, 6, 0, 0, 0, 0, 2, 0, 2, 0, 112, 0, 0, 0, 20, 1, 0, 0, 0, 0]

/-- What a ZIP library makes of the archive. -/
def zip : ZipLibrary where
  read content :=
    if content = archive then
      .ok [{ name := ofString "manifest.json", compSize := 190, uncompSize := 190 },
        { name := ofString "demo.so", compSize := 6, uncompSize := 6 }]
    else .error (ofString "not a ZIP archive")
  extract content index :=
    match decide (content = archive), index with
    | true, 0 => (manifest, none)
    | true, 1 => (ofString "native", none)
    | _, _ => ([], some (ofString "invalid parameter"))

def platform : Platform where
  os := .linux
  arch := .x86_64
  zip := zip
  codec := Json.textCodec
  what _ := ofString "syntax error"

def source : List ByteString := [ofString "demo.liberaplugin"]

def downloaded (content : ByteString) : Files :=
  FileSystem.empty.put source (.file content)

/-- The same archive with an empty file `ARCHIVE.LIBERAPLUGIN`. -/
def shadowedArchive : ByteString :=
  [80, 75, 3, 4, 10, 0, 0, 0, 0, 0, 0, 0, 33, 0, 251, 63, 95, 25, 190, 0, 0, 0, 190, 0, 0, 0, 13, 0,
    0, 0] ++ ofString "manifest.json" ++ manifest ++
  [80, 75, 3, 4, 10, 0, 0, 0, 0, 0, 0, 0, 33, 0, 183, 29, 136, 192, 6, 0, 0, 0, 6, 0, 0, 0, 7, 0, 0,
    0] ++ ofString "demo.so" ++ ofString "native" ++
  [80, 75, 3, 4, 10, 0, 0, 0, 0, 0, 0, 0, 33, 0, 0, 0, 0, 0, 0, 0, 0, 0, 0, 0, 0, 0, 20, 0, 0, 0] ++
    ofString "ARCHIVE.LIBERAPLUGIN" ++
  [80, 75, 1, 2, 10, 0, 10, 0, 0, 0, 0, 0, 0, 0, 33, 0, 251, 63, 95, 25, 190, 0, 0, 0, 190, 0, 0, 0,
    13, 0, 0, 0, 0, 0, 0, 0, 0, 0, 0, 0, 0, 0, 0, 0, 0, 0] ++ ofString "manifest.json" ++
  [80, 75, 1, 2, 10, 0, 10, 0, 0, 0, 0, 0, 0, 0, 33, 0, 183, 29, 136, 192, 6, 0, 0, 0, 6, 0, 0, 0,
    7, 0, 0, 0, 0, 0, 0, 0, 0, 0, 0, 0, 0, 0, 233, 0, 0, 0] ++ ofString "demo.so" ++
  [80, 75, 1, 2, 10, 0, 10, 0, 0, 0, 0, 0, 0, 0, 33, 0, 0, 0, 0, 0, 0, 0, 0, 0, 0, 0, 0, 0, 20, 0,
    0, 0, 0, 0, 0, 0, 0, 0, 0, 0, 0, 0, 20, 1, 0, 0] ++ ofString "ARCHIVE.LIBERAPLUGIN" ++
  [80, 75, 5, 6, 0, 0, 0, 0, 3, 0, 3, 0, 178, 0, 0, 0, 70, 1, 0, 0, 0, 0]

def shadowedEntries : List ZipEntry :=
  [{ name := ofString "manifest.json", compSize := 190, uncompSize := 190 },
    { name := ofString "demo.so", compSize := 6, uncompSize := 6 },
    { name := ofString "ARCHIVE.LIBERAPLUGIN" }]

/-- What a ZIP library makes of this archive. -/
def shadowedZip : ZipLibrary where
  read content :=
    if content = shadowedArchive then .ok shadowedEntries
    else .error (ofString "not a ZIP archive")
  extract content index :=
    match decide (content = shadowedArchive), index with
    | true, 0 => (manifest, none)
    | true, 1 => (ofString "native", none)
    | true, 2 => ([], none)
    | _, _ => ([], some (ofString "invalid parameter"))

end Demo

/-- The archive of the small package collides with neither of its files. -/
theorem demo_preserved : PortableTree (preservedArchive ::
    [{ name := ofString "manifest.json", compSize := 190, uncompSize := 190 },
      { name := ofString "demo.so", compSize := 6, uncompSize := 6 }]) := by
  have hok : (Demo.platform.inspectPluginPackage {} Demo.source
      (Demo.downloaded Demo.archive)).isOk := by decide +kernel
  obtain ⟨inspection, h⟩ := Except.isOk_iff.mp hok
  have hread : Demo.platform.zip.read Demo.archive =
      .ok [{ name := ofString "manifest.json", compSize := 190, uncompSize := 190 },
        { name := ofString "demo.so", compSize := 6, uncompSize := 6 }] := by
    simp only [Demo.platform, Demo.zip, if_true]
  exact (preservedArchive_portable_iff h entry_put hread).mpr (by decide +kernel)

/-- A package is accepted that has the name in upper case. -/
theorem shadowed_accepted : ∃ inspection,
    { Demo.platform with zip := Demo.shadowedZip }.inspectPluginPackage {} Demo.source
      (Demo.downloaded Demo.shadowedArchive) = .ok inspection ∧
    Demo.shadowedZip.read Demo.shadowedArchive = .ok Demo.shadowedEntries ∧
    ¬PortableTree (preservedArchive :: Demo.shadowedEntries) := by
  have hok : ({ Demo.platform with zip := Demo.shadowedZip }.inspectPluginPackage {} Demo.source
      (Demo.downloaded Demo.shadowedArchive)).isOk := by decide +kernel
  obtain ⟨inspection, h⟩ := Except.isOk_iff.mp hok
  have hsame : ¬(([preservedArchive] ++ Demo.shadowedEntries).map ZipEntry.collisionKey).Nodup := by
    decide +kernel
  have hread : Demo.shadowedZip.read Demo.shadowedArchive = .ok Demo.shadowedEntries := by
    simp only [Demo.shadowedZip, if_true]
  exact ⟨inspection, h, hread, fun hportable => hsame hportable.distinct⟩

end LiberaLaser.Plugin
