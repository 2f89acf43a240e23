import LiberaLaser.Foundations.Json
import LiberaLaser.Plugin.Package.Archive
import Mathlib.Computability.RegularExpressions

/-!
# The manifest of a plugin package

The manifest names the plugin, its version and its native library for each platform. `parseManifest`
reads it from JSON and refuses what does not fit the format; the grammars of names and versions are
regular expressions.
-/

namespace LiberaLaser.Plugin

open ByteString RegularExpression

/-! ## Grammars -/

/-- Any one of some bytes. -/
def oneOf (choices : String) : RegularExpression UInt8 :=
  (ofString choices).foldr (fun c p => char c + p) 0

/-- A pattern once or more often. -/
def repeated (p : RegularExpression UInt8) : RegularExpression UInt8 := p * p.star

def digit : RegularExpression UInt8 := oneOf "0123456789"

def lowerLetter : RegularExpression UInt8 := oneOf "abcdefghijklmnopqrstuvwxyz"

def letter : RegularExpression UInt8 := lowerLetter + oneOf "ABCDEFGHIJKLMNOPQRSTUVWXYZ"

/-- `[a-z0-9]+([.-][a-z0-9]+)*`. -/
def identifierPattern : RegularExpression UInt8 :=
  repeated (lowerLetter + digit) * (oneOf ".-" * repeated (lowerLetter + digit)).star

/-- `[A-Za-z0-9][A-Za-z0-9_.-]*`. -/
def controllerTypePattern : RegularExpression UInt8 :=
  (letter + digit) * (letter + digit + oneOf "_.-").star

/-- `0|[1-9][0-9]*`. -/
def numberPattern : RegularExpression UInt8 := oneOf "0" + oneOf "123456789" * digit.star

/-- `[0-9A-Za-z-]`. -/
def versionCharacter : RegularExpression UInt8 := digit + letter + oneOf "-"

/-- `0|[1-9][0-9]*|[0-9]*[A-Za-z-][0-9A-Za-z-]*`. -/
def prereleasePattern : RegularExpression UInt8 :=
  numberPattern + digit.star * (letter + oneOf "-") * versionCharacter.star

/-- Three numbers, a pre-release after a hyphen and build metadata after a plus sign. -/
def versionPattern : RegularExpression UInt8 :=
  numberPattern * oneOf "." * numberPattern * oneOf "." * numberPattern *
    (1 + oneOf "-" * prereleasePattern * (oneOf "." * prereleasePattern).star) *
    (1 + oneOf "+" * repeated versionCharacter * (oneOf "." * repeated versionCharacter).star)

def validIdentifier (value : ByteString) : Bool :=
  value.length ≤ 128 && identifierPattern.rmatch value

def validControllerType (value : ByteString) : Bool :=
  value.length ≤ 128 && controllerTypePattern.rmatch value

def validVersion (value : ByteString) : Bool :=
  value.length ≤ 64 && versionPattern.rmatch value

def validSingleLineText (value : ByteString) (maximumBytes : ℕ) : Bool :=
  value ≠ [] && value.length ≤ maximumBytes && !value.any fun c => c < 0x20 || c = 0x7f

def validDescription (value : ByteString) : Bool :=
  value.length ≤ 4096 &&
    !value.any fun c => (c < 0x20 && c ≠ 10 && c ≠ 13 && c ≠ 9) || c = 0x7f

/-! ## Entrypoints -/

structure PluginEntrypoint where
  os : ByteString
  arch : ByteString
  path : ByteString
  deriving DecidableEq

structure PluginDocuments where
  readme : Option ByteString := none
  license : Option ByteString := none
  deriving DecidableEq

structure PluginManifest where
  schemaVersion : UInt32
  id : ByteString
  version : ByteString
  name : ByteString
  vendor : ByteString
  description : ByteString
  controllerType : ByteString
  abiVersion : UInt32
  entrypoints : List PluginEntrypoint
  documents : PluginDocuments
  deriving DecidableEq

inductive OperatingSystem
  | windows
  | macos
  | linux
  deriving DecidableEq

def OperatingSystem.name : OperatingSystem → ByteString
  | windows => ofString "windows"
  | macos => ofString "macos"
  | linux => ofString "linux"

inductive Architecture
  | arm64
  | x86_64
  | x86
  | unknown
  deriving DecidableEq

def Architecture.name : Architecture → ByteString
  | arm64 => ofString "arm64"
  | x86_64 => ofString "x86_64"
  | x86 => ofString "x86"
  | unknown => ofString "unknown"

/-- The extension of a file name with its dot. A name that begins with its only dot has none. -/
def filenameExtension (filename : ByteString) : ByteString :=
  let suffix := filename.reverse.takeWhile (· ≠ 46)
  if filename = ofString ".." ∨ filename.length ≤ suffix.length + 1 then []
  else filename.drop (filename.length - suffix.length - 1)

/-- The components of a path. -/
def pathComponents (path : ByteString) : List ByteString := path.splitOn 47

def hasExpectedLibraryExtension (entrypoint : PluginEntrypoint) : Bool :=
  let extension := lowerAscii (filenameExtension ((pathComponents entrypoint.path).getLastD []))
  if entrypoint.os = ofString "windows" then extension = ofString ".dll"
  else if entrypoint.os = ofString "macos" then extension = ofString ".dylib"
  else if entrypoint.os = ofString "linux" then extension = ofString ".so"
  else false

def supportedOs : List ByteString := ["windows", "macos", "linux"].map ofString

def supportedArch : List ByteString := ["arm64", "x86_64", "x86", "universal"].map ofString

def selectEntrypoint (os : OperatingSystem) (arch : Architecture) (manifest : PluginManifest) :
    Option ByteString :=
  ((manifest.entrypoints.find? fun e => e.os = os.name ∧ e.arch = arch.name).or
    (manifest.entrypoints.find? fun e => e.os = os.name ∧ e.arch = ofString "universal")).map
    PluginEntrypoint.path

/-! ## Parsing -/

def liberaPluginApiVersion : UInt32 := 1

def readRequiredString (object : Json) (key : String) : Except ByteString ByteString :=
  match (object.field key).bind Json.asString with
  | none | some [] =>
    .error (ofString "Manifest is missing '" ++ ofString key ++ ofString "'")
  | some output => .ok output

/-- An unsigned number as 32 bits. -/
def readUnsigned (json : Option Json) (message : String) : Except ByteString UInt32 :=
  match json with
  | some (.unsigned n) => .ok (UInt32.ofNat n)
  | _ => .error (ofString message)

def parseDescription (root : Json) : Except ByteString ByteString :=
  match root.field "description" with
  | none => .ok []
  | some json =>
    match json.asString with
    | none => .error (ofString "Manifest description must be a string")
    | some description => do
      Except.require (validDescription description) (ofString
        "Plugin description contains invalid control characters or is too long")
      return description

/-- The reading of an entrypoint, given the platforms of those before it. -/
def parseEntrypoint (targets : List (ByteString × ByteString)) (value : Json) :
    Except ByteString PluginEntrypoint := do
  Except.require value.asObject.isSome (ofString "Each entrypoint must be an object")
  let os ← readRequiredString value "os"
  let arch ← readRequiredString value "arch"
  let path ← readRequiredString value "path"
  Except.require (os ∈ supportedOs ∧ arch ∈ supportedArch)
    (ofString "Entrypoint has an unsupported OS or architecture")
  validatePortablePath path false
  Except.require (hasExpectedLibraryExtension ⟨os, arch, path⟩)
    (ofString "Entrypoint extension does not match its OS")
  Except.require ((os, arch) ∉ targets)
    (ofString "Manifest contains duplicate platform entrypoints")
  return ⟨os, arch, path⟩

def parseEntrypoints : List Json → List PluginEntrypoint → Except ByteString (List PluginEntrypoint)
  | [], entrypoints => .ok entrypoints
  | value :: values, entrypoints => do
    let entrypoint ← parseEntrypoint (entrypoints.map fun e => (e.os, e.arch)) value
    parseEntrypoints values (entrypoints ++ [entrypoint])

/-- The path of a document, if the manifest names one. -/
def parseDocument (documents : Json) (name : String) : Except ByteString (Option ByteString) :=
  match documents.field name with
  | none => .ok none
  | some json =>
    match json.asString with
    | none => .error (ofString "Document path '" ++ ofString name ++ ofString "' must be a string")
    | some path => do
      validatePortablePath path false
      return some path

def parseDocuments (root : Json) : Except ByteString PluginDocuments :=
  match root.field "documents" with
  | none => .ok {}
  | some documents => do
    Except.require documents.asObject.isSome (ofString "Manifest documents must be an object")
    let readme ← parseDocument documents "readme"
    let license ← parseDocument documents "license"
    return { readme, license }

/-- The reading of a manifest. A parser that throws says why with `what`. -/
def parseManifest (codec : JsonCodec) (what : ByteString → ByteString) (text : ByteString) :
    Except ByteString PluginManifest := do
  let root ← Except.ofOption (ofString "Invalid manifest JSON: " ++ what text) (codec.parse text)
  Except.require root.asObject.isSome (ofString "Manifest root must be an object")
  let schemaVersion ← readUnsigned (root.field "schemaVersion")
    "Manifest is missing unsigned schemaVersion"
  Except.require (schemaVersion = 1) (ofString "Unsupported plugin package schema version")
  let id ← readRequiredString root "id"
  let version ← readRequiredString root "version"
  let name ← readRequiredString root "name"
  let vendor ← readRequiredString root "vendor"
  let controllerType ← readRequiredString root "controllerType"
  Except.require (validIdentifier id)
    (ofString "Plugin id must be a lowercase dotted or hyphenated identifier")
  Except.require (id ≠ ofString "libera.builtin" ∧ ¬ofString "libera.builtin." <+: id)
    (ofString "Plugin id uses the reserved libera.builtin namespace")
  Except.require (validVersion version)
    (ofString "Plugin version must be valid semantic versioning")
  Except.require (validControllerType controllerType)
    (ofString "controllerType contains invalid characters")
  Except.require (validSingleLineText name 256 ∧ validSingleLineText vendor 256)
    (ofString "Plugin name and vendor must be single-line text of at most 256 bytes")
  let description ← parseDescription root
  let abiVersion ← readUnsigned ((root.field "libera").bind (Json.field "abiVersion"))
    "Manifest is missing libera.abiVersion"
  Except.require (abiVersion = liberaPluginApiVersion)
    (ofString "Plugin ABI is not supported by this Libera build")
  let values ← Except.ofOption (ofString "Manifest must contain at least one entrypoint")
    (((root.field "entrypoints").bind Json.asArray).filter fun values => !values.isEmpty)
  let entrypoints ← parseEntrypoints values []
  let documents ← parseDocuments root
  return { schemaVersion, id, version, name, vendor, description, controllerType, abiVersion,
           entrypoints, documents }

/-! ## What the parser checks -/

theorem readRequiredString_eq_ok {object : Json} {key : String} {output : ByteString}
    (h : readRequiredString object key = .ok output) : output ≠ [] := by
  unfold readRequiredString at h
  split at h
  · cases h
  · cases h
  · rename_i hnonempty _
    cases h
    exact hnonempty

theorem readUnsigned_eq_ok {json : Option Json} {message : String} {value : UInt32}
    (h : readUnsigned json message = .ok value) :
    ∃ n, json = some (.unsigned n) ∧ UInt32.ofNat n = value := by
  unfold readUnsigned at h
  split at h
  · rename_i n
    cases h
    exact ⟨n, rfl, rfl⟩
  · cases h

/-- The checks of an entrypoint alone. -/
structure EntrypointChecked (e : PluginEntrypoint) : Prop where
  os : e.os ∈ supportedOs
  arch : e.arch ∈ supportedArch
  path : validatePortablePath e.path false = .ok ()
  extension : hasExpectedLibraryExtension e = true

theorem parseEntrypoint_eq_ok {targets : List (ByteString × ByteString)} {value : Json}
    {e : PluginEntrypoint} (h : parseEntrypoint targets value = .ok e) :
    EntrypointChecked e ∧ (e.os, e.arch) ∉ targets := by
  simp only [parseEntrypoint, Except.do_eq_ok] at h
  obtain ⟨_, -, os, -, arch, -, path, -, _, hsupported, _, hpath, _, hextension, _, htargets,
    hreturn⟩ := h
  cases hreturn
  have hsupported' := Except.require_eq_ok.mp hsupported
  exact ⟨⟨hsupported'.1, hsupported'.2, hpath, Except.require_eq_ok.mp hextension⟩,
    Except.require_eq_ok.mp htargets⟩

/-- The platforms of some entrypoints. -/
def targetsOf (entrypoints : List PluginEntrypoint) : List (ByteString × ByteString) :=
  entrypoints.map fun e => (e.os, e.arch)

theorem parseEntrypoints_eq_ok {values : List Json}
    {entrypoints entrypoints' : List PluginEntrypoint}
    (h : parseEntrypoints values entrypoints = .ok entrypoints')
    (hchecked : ∀ e ∈ entrypoints, EntrypointChecked e) (hnodup : (targetsOf entrypoints).Nodup) :
    (∀ e ∈ entrypoints', EntrypointChecked e) ∧ (targetsOf entrypoints').Nodup ∧
      entrypoints'.length = entrypoints.length + values.length := by
  induction values generalizing entrypoints with
  | nil =>
    cases h
    exact ⟨hchecked, hnodup, rfl⟩
  | cons value values ih =>
    obtain ⟨e, he, hrest⟩ := Except.do_eq_ok.mp h
    obtain ⟨hentrypoint, hnew⟩ := parseEntrypoint_eq_ok he
    have hchecked' : ∀ e' ∈ entrypoints ++ [e], EntrypointChecked e' :=
      List.forall_mem_append.mpr ⟨hchecked, List.forall_mem_singleton.mpr hentrypoint⟩
    have hnodup' : (targetsOf (entrypoints ++ [e])).Nodup := by
      have htargets : targetsOf (entrypoints ++ [e]) =
          targetsOf entrypoints ++ [(e.os, e.arch)] := by
        rw [targetsOf, List.map_append]
        rfl
      rw [htargets]
      exact List.nodup_append.mpr ⟨hnodup, List.nodup_singleton _, fun t ht t' ht' heq =>
        hnew (by rw [← List.mem_singleton.mp ht', ← heq]; exact ht)⟩
    obtain ⟨hall, hdistinct, hlength⟩ := ih hrest hchecked' hnodup'
    refine ⟨hall, hdistinct, ?_⟩
    rw [hlength, List.length_append, List.length_singleton, List.length_cons]
    omega

theorem parseDocument_eq_ok {documents : Json} {name : String} {path : ByteString}
    (h : parseDocument documents name = .ok (some path)) :
    validatePortablePath path false = .ok () := by
  unfold parseDocument at h
  split at h
  · cases h
  split at h
  · cases h
  · obtain ⟨_, hpath, hreturn⟩ := Except.do_eq_ok.mp h
    cases hreturn
    exact hpath

/-- The paths of the documents that a manifest names. -/
def PluginDocuments.paths (documents : PluginDocuments) : List ByteString :=
  documents.readme.toList ++ documents.license.toList

theorem parseDocuments_eq_ok {root : Json} {documents : PluginDocuments}
    (h : parseDocuments root = .ok documents) :
    ∀ path ∈ documents.paths, validatePortablePath path false = .ok () := by
  unfold parseDocuments at h
  split at h
  · cases h
    exact fun path hpath => absurd hpath List.not_mem_nil
  · simp only [Except.do_eq_ok] at h
    obtain ⟨_, -, readme, hreadme, license, hlicense, hreturn⟩ := h
    cases hreturn
    intro path hpath
    rcases List.mem_append.mp hpath with hpath | hpath
    · obtain rfl : readme = some path := Option.mem_toList.mp hpath
      exact parseDocument_eq_ok hreadme
    · obtain rfl : license = some path := Option.mem_toList.mp hpath
      exact parseDocument_eq_ok hlicense

/-- What the parser has checked of a manifest that it accepts. The numbers are those of the text,
read as 32 bits. -/
structure ManifestChecked (root : Json) (m : PluginManifest) : Prop where
  schemaVersion : ∃ n, root.field "schemaVersion" = some (.unsigned n) ∧ UInt32.ofNat n = 1
  abiVersion : ∃ n, (root.field "libera").bind (Json.field "abiVersion") = some (.unsigned n) ∧
    UInt32.ofNat n = liberaPluginApiVersion
  id_ne_nil : m.id ≠ []
  id : validIdentifier m.id = true
  unreserved : m.id ≠ ofString "libera.builtin" ∧ ¬ofString "libera.builtin." <+: m.id
  version : validVersion m.version = true
  controllerType : validControllerType m.controllerType = true
  entrypoints_ne_nil : m.entrypoints ≠ []
  targets : (targetsOf m.entrypoints).Nodup
  entrypoint : ∀ e ∈ m.entrypoints, EntrypointChecked e
  document : ∀ path ∈ m.documents.paths, validatePortablePath path false = .ok ()

theorem parseManifest_eq_ok {codec : JsonCodec} {what : ByteString → ByteString}
    {text : ByteString} {m : PluginManifest} (h : parseManifest codec what text = .ok m) :
    ∃ root, codec.parse text = some root ∧ ManifestChecked root m := by
  simp only [parseManifest, Except.do_eq_ok] at h
  obtain ⟨root, hroot, _, -, schemaVersion, hschema, _, hschemaVersion, id, hid, version, -, name,
    -, vendor, -, controllerType, -, _, hidentifier, _, hreserved, _, hversion, _, htype, _, -,
    description, -, abiVersion, habi, _, habiVersion, values, hvalues, entrypoints, hentrypoints,
    documents, hdocuments, hreturn⟩ := h
  cases hreturn
  refine ⟨root, Except.ofOption_eq_ok.mp hroot, ?_⟩
  obtain ⟨n, hn, hschemaNumber⟩ := readUnsigned_eq_ok hschema
  obtain ⟨n', hn', habiNumber⟩ := readUnsigned_eq_ok habi
  obtain ⟨hchecked, hnodup, hlength⟩ := parseEntrypoints_eq_ok hentrypoints
    (fun _ he => absurd he List.not_mem_nil) List.nodup_nil
  have hnonempty : values ≠ [] := by
    have hfilter := (Option.filter_eq_some_iff.mp (Except.ofOption_eq_ok.mp hvalues)).2
    simpa using hfilter
  exact
    { schemaVersion := ⟨n, hn, hschemaNumber.trans (Except.require_eq_ok.mp hschemaVersion)⟩
      abiVersion := ⟨n', hn', habiNumber.trans (Except.require_eq_ok.mp habiVersion)⟩
      id_ne_nil := readRequiredString_eq_ok hid
      id := Except.require_eq_ok.mp hidentifier
      unreserved := Except.require_eq_ok.mp hreserved
      version := Except.require_eq_ok.mp hversion
      controllerType := Except.require_eq_ok.mp htype
      entrypoints_ne_nil := by
        intro hnil
        obtain rfl : entrypoints = [] := hnil
        rw [List.length_nil, Nat.zero_add] at hlength
        exact hnonempty (List.length_eq_zero_iff.mp hlength.symm)
      targets := hnodup
      entrypoint := hchecked
      document := parseDocuments_eq_ok hdocuments }

end LiberaLaser.Plugin
