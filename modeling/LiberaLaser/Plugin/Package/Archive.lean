import LiberaLaser.Foundations.ByteString
import LiberaLaser.Foundations.PrefixSearch
import LiberaLaser.Foundations.Results
import LiberaLaser.Foundations.Table
import Mathlib.Algebra.BigOperators.Group.List.Basic
import Mathlib.Algebra.GroupWithZero.Nat

/-!
# The archive of a plugin package

A plugin package is a ZIP archive. Before anything is extracted, `openAndValidateArchive` checks its
entries one by one, each against those before it: the paths must be portable, no two of them may
fall together when case is ignored, no file may stand where another entry needs a directory, and the
sizes must stay within bounds. What the ZIP library reports of an entry is taken as given.
-/

namespace LiberaLaser.Plugin

open ByteString

def maximumExtractedBytes : UInt64 := 1024 * 1024 * 1024

def maximumFileBytes : UInt64 := 512 * 1024 * 1024

def maximumCompressionRatio : UInt64 := 1000

def maximumArchiveEntries : ℕ := 512

/-- What the ZIP library reports of an entry. -/
structure ZipEntry where
  /-- The metadata of the entry can be read. -/
  readable : Bool := true
  name : ByteString
  isEncrypted : Bool := false
  isSupported : Bool := true
  isDirectory : Bool := false
  externalAttr : UInt32 := 0
  compSize : UInt64 := 0
  uncompSize : UInt64 := 0
  /-- The data of the entry and its CRC are valid. -/
  intact : Bool := true
  deriving DecidableEq

/-! ## Paths -/

def lowerAscii (value : ByteString) : ByteString :=
  value.map fun c => if 65 ≤ c ∧ c ≤ 90 then c + 32 else c

def reservedNames : List String :=
  ["con", "prn", "aux", "nul", "com1", "com2", "com3", "com4", "com5", "com6", "com7", "com8",
    "com9", "lpt1", "lpt2", "lpt3", "lpt4", "lpt5", "lpt6", "lpt7", "lpt8", "lpt9"]

def isWindowsReservedName (component : ByteString) : Bool :=
  (lowerAscii component).takeWhile (· ≠ 46) ∈ reservedNames.map ofString

/-- A byte that is not portable in a path: one that is not printable, or one of `:*?"<>|`. -/
def notPortable (c : UInt8) : Bool :=
  c < 32 || 126 < c || c ∈ ofString ":*?\"<>|"

/-- The check of one component of a path. -/
def checkComponent (path component : ByteString) : Except ByteString Unit :=
  if component = [] ∨ component = ofString "." ∨ component = ofString ".." ∨
      component.getLast? = some 32 ∨ component.getLast? = some 46 ∨
      isWindowsReservedName component then
    .error (ofString "Package contains an unsafe path: " ++ path)
  else if component.any notPortable then
    .error (ofString "Package path is not portable: " ++ path)
  else .ok ()

def checkComponents (path : ByteString) : List ByteString → Except ByteString Unit
  | [] => .ok ()
  | component :: components =>
    (checkComponent path component).bind fun _ => checkComponents path components

/-- A path without the slash that marks a directory. -/
def normalized (path : ByteString) (directory : Bool) : ByteString :=
  if directory ∧ path.getLast? = some 47 then path.dropLast else path

def validatePortablePath (path : ByteString) (directory : Bool) : Except ByteString Unit :=
  if path = [] ∨ 1024 < path.length ∨ path.head? = some 47 ∨ path.head? = some 92 ∨ 92 ∈ path then
    .error (ofString "Package contains an unsafe path: " ++ path)
  else if normalized path directory = [] then
    .error (ofString "Package contains an empty path")
  else checkComponents path ((normalized path directory).splitOn 47)

/-! ## Entries -/

/-- The name of an entry, unless it is too long or contains a zero byte. -/
def archiveFilename (name : ByteString) : ByteString :=
  if 4096 < name.length + 1 ∨ 0 ∈ name then [] else name

namespace ZipEntry

def path (e : ZipEntry) : ByteString := archiveFilename e.name

/-- The path of an entry as a file system that ignores case sees it. -/
def collisionKey (e : ZipEntry) : ByteString := lowerAscii (normalized e.path e.isDirectory)

/-- The type bits of Unix tell a link or another special file. -/
def isSpecial (e : ZipEntry) : Bool :=
  let unixType := (e.externalAttr >>> 16) &&& 0xF000
  unixType ≠ 0 && unixType ≠ 0x8000 && unixType ≠ 0x4000

/-- The data shrinks more than any honest data would. -/
def isSuspicious (e : ZipEntry) : Bool :=
  1024 * 1024 < e.uncompSize &&
    (e.compSize = 0 || maximumCompressionRatio < e.uncompSize / e.compSize)

end ZipEntry

structure ArchiveEntry where
  index : ℕ
  path : ByteString
  compressedSize : UInt64
  uncompressedSize : UInt64
  directory : Bool
  deriving DecidableEq

/-- What has been gathered from the entries so far. -/
structure ArchiveScan where
  portablePaths : List ByteString := []
  portableFilePaths : List ByteString := []
  totalSize : UInt64 := 0
  entries : List ArchiveEntry := []
  filesByPath : Table ByteString ℕ := ∅

/-- The paths of the directories that a path lies in. -/
def ancestors (path : ByteString) : List ByteString :=
  ((List.range path.length).filter fun slash => path[slash]? = some 47).map path.take

namespace ArchiveScan

/-- The checks of an entry against those before it. -/
def checkEntry (scan : ArchiveScan) (e : ZipEntry) : Except ByteString Unit :=
  if !e.readable then .error (ofString "Failed to read ZIP entry metadata")
  else if e.isEncrypted || !e.isSupported then
    .error (ofString "Package contains an encrypted or unsupported entry")
  else
    (validatePortablePath e.path e.isDirectory).bind fun _ =>
      if e.isSpecial then
        .error (ofString "Package contains a link or special file: " ++ e.path)
      else if e.collisionKey ∈ scan.portablePaths then
        .error (ofString "Package contains duplicate paths: " ++ e.path)
      else if ∃ a ∈ ancestors e.collisionKey, a ∈ scan.portableFilePaths then
        .error (ofString "Package file collides with a directory: " ++ e.path)
      else if e.isDirectory then .ok ()
      else if (PrefixSearch.lowerBound (e.collisionKey ++ [47])
          (e.collisionKey :: scan.portablePaths)).any (e.collisionKey ++ [47]).isPrefixOf then
        .error (ofString "Package file collides with a directory: " ++ e.path)
      else if maximumFileBytes < e.uncompSize ∨
          maximumExtractedBytes - e.uncompSize < scan.totalSize then
        .error (ofString "Package exceeds the allowed expanded size")
      else if e.isSuspicious then
        .error (ofString "Package contains a suspicious compression ratio")
      else .ok ()

/-- An entry that passed its checks is added. -/
def add (scan : ArchiveScan) (index : ℕ) (e : ZipEntry) : ArchiveScan :=
  { portablePaths := e.collisionKey :: scan.portablePaths
    portableFilePaths :=
      if e.isDirectory then scan.portableFilePaths else e.collisionKey :: scan.portableFilePaths
    totalSize := if e.isDirectory then scan.totalSize else scan.totalSize + e.uncompSize
    entries := scan.entries ++ [⟨index, e.path, e.compSize, e.uncompSize, e.isDirectory⟩]
    filesByPath :=
      if e.isDirectory ∨ (scan.filesByPath.lookup e.path).isSome then scan.filesByPath
      else scan.filesByPath.insert e.path index }

def scanEntries : List ZipEntry → ℕ → ArchiveScan → Except ByteString ArchiveScan
  | [], _, scan => .ok scan
  | e :: es, index, scan =>
    (scan.checkEntry e).bind fun _ => scanEntries es (index + 1) (scan.add index e)

end ArchiveScan

/-- The scan of an archive, which the ZIP library opens or fails to open. -/
def openAndValidateArchive (archive : Except ByteString (List ZipEntry)) :
    Except ByteString ArchiveScan :=
  match archive with
  | .error message => .error (ofString "Invalid ZIP archive: " ++ message)
  | .ok entries =>
    if entries.length = 0 ∨ maximumArchiveEntries < entries.length then
      .error (ofString "Package has an invalid number of entries")
    else
      (ArchiveScan.scanEntries entries 0 {}).bind fun scan =>
        if entries.all (·.intact) then .ok scan
        else .error (ofString "ZIP data or CRC validation failed")

end LiberaLaser.Plugin
