import LiberaLaser.Foundations.Grammars
import LiberaLaser.Foundations.JsonText
import LiberaLaser.Plugin.Package.Manifest
import LiberaLaser.Plugin.Package.PathSafety

/-!
# What a manifest that is accepted promises

A manifest is sound when its versions are the supported ones as they stand in the text, its names
follow their grammars, its entrypoints are for different platforms, and its paths are portable
(`SoundManifest`). All of this holds of a manifest that `parseManifest` accepts, except that the two
version numbers are compared after they have been cut to 32 bits.
-/

namespace LiberaLaser.Plugin

open ByteString RegularExpression

/-! ## Grammars -/

section Grammars

def isDigit (c : UInt8) : Prop := 48 ≤ c ∧ c ≤ 57

def isLower (c : UInt8) : Prop := 97 ≤ c ∧ c ≤ 122

def isLetter (c : UInt8) : Prop := isLower c ∨ 65 ≤ c ∧ c ≤ 90

def isVersionCharacter (c : UInt8) : Prop := isDigit c ∨ isLetter c ∨ c = 45

instance : DecidablePred isDigit := fun _ => inferInstanceAs (Decidable (_ ∧ _))

instance : DecidablePred isLower := fun _ => inferInstanceAs (Decidable (_ ∧ _))

instance : DecidablePred isLetter := fun _ => inferInstanceAs (Decidable (_ ∨ _))

instance : DecidablePred isVersionCharacter := fun _ => inferInstanceAs (Decidable (_ ∨ _))

/-- Lower-case letters and digits. -/
def IsIdentifierWord (w : ByteString) : Prop := w ≠ [] ∧ ∀ c ∈ w, isLower c ∨ isDigit c

/-- Words with dots and hyphens between them. -/
def IsIdentifier (s : ByteString) : Prop :=
  s.length ≤ 128 ∧ ∃ (first : ByteString) (rest : List (UInt8 × ByteString)),
    IsIdentifierWord first ∧ (∀ r ∈ rest, (r.1 = 46 ∨ r.1 = 45) ∧ IsIdentifierWord r.2) ∧
      s = first ++ rest.flatMap fun r => r.1 :: r.2

/-- A letter or digit, and then letters, digits, underscores, dots and hyphens. -/
def IsControllerType (s : ByteString) : Prop :=
  s.length ≤ 128 ∧ ∃ first rest, s = first :: rest ∧ (isLetter first ∨ isDigit first) ∧
    ∀ c ∈ rest, isLetter c ∨ isDigit c ∨ c = 95 ∨ c = 46 ∨ c = 45

/-- Digits without a leading zero. -/
def IsNumber (w : ByteString) : Prop :=
  w ≠ [] ∧ (∀ c ∈ w, isDigit c) ∧ (w.head? = some 48 → w = [48])

/-- A number, or a word that is none. -/
def IsPrereleaseIdentifier (w : ByteString) : Prop :=
  w ≠ [] ∧ (∀ c ∈ w, isVersionCharacter c) ∧ ((∀ c ∈ w, isDigit c) → IsNumber w)

def IsBuildIdentifier (w : ByteString) : Prop := w ≠ [] ∧ ∀ c ∈ w, isVersionCharacter c

/-- Identifiers after a mark, with dots between them, or nothing. -/
def IsSuffix (mark : UInt8) (word : ByteString → Prop) (s : ByteString) : Prop :=
  s = [] ∨ ∃ ws ≠ [], (∀ w ∈ ws, word w) ∧ s = mark :: [46].intercalate ws

/-- A semantic version: three numbers, the identifiers of a pre-release and of a build. -/
def IsSemanticVersion (s : ByteString) : Prop :=
  s.length ≤ 64 ∧ ∃ major minor patch prerelease build, IsNumber major ∧ IsNumber minor ∧
    IsNumber patch ∧ IsSuffix 45 IsPrereleaseIdentifier prerelease ∧
    IsSuffix 43 IsBuildIdentifier build ∧
    s = major ++ [46] ++ minor ++ [46] ++ patch ++ prerelease ++ build

end Grammars

/-! ## Classes of bytes -/

theorem matchesOne_oneOf {choices : String} {s : ByteString} (h : ofString choices = s) :
    (oneOf choices).MatchesOne {c | c ∈ s} := by
  rw [← h]
  exact matchesOne_foldr (ofString choices)

/-- The bytes from one to another. -/
def byteRange (first last : UInt8) : ByteString :=
  (List.range' first.toNat (last.toNat + 1 - first.toNat)).map UInt8.ofNat

theorem mem_byteRange {first last c : UInt8} :
    c ∈ byteRange first last ↔ first ≤ c ∧ c ≤ last := by
  have hlast := last.toNat_lt
  rw [byteRange, List.mem_map, UInt8.le_iff_toNat_le, UInt8.le_iff_toNat_le]
  constructor
  · rintro ⟨n, hn, rfl⟩
    have hn := List.mem_range'_1.mp hn
    have hsize : n < UInt8.size := by
      change n < 256
      omega
    rw [UInt8.toNat_ofNat_of_lt' hsize]
    omega
  · intro hc
    exact ⟨c.toNat, List.mem_range'_1.mpr (by omega), UInt8.ofNat_toNat⟩

theorem matchesOne_range {choices : String} {first last : UInt8}
    (h : ofString choices = byteRange first last) :
    (oneOf choices).MatchesOne {c | first ≤ c ∧ c ≤ last} :=
  (matchesOne_oneOf h).congr fun _ => mem_byteRange

theorem matchesOne_digit : digit.MatchesOne {c | isDigit c} :=
  matchesOne_range rfl

theorem matchesOne_lowerLetter : lowerLetter.MatchesOne {c | isLower c} :=
  matchesOne_range rfl

theorem matchesOne_letter : letter.MatchesOne {c | isLetter c} :=
  matchesOne_lowerLetter.add (matchesOne_range rfl)

theorem matchesOne_mark {choices : String} {mark : UInt8} (h : ofString choices = [mark]) :
    (oneOf choices).MatchesOne {mark} :=
  (matchesOne_oneOf h).congr fun _ => List.mem_singleton

theorem matchesOne_versionCharacter :
    versionCharacter.MatchesOne {c | isVersionCharacter c} := by
  have hmark : (oneOf "-").MatchesOne {45} := matchesOne_mark rfl
  exact ((matchesOne_digit.add matchesOne_letter).add hmark).congr fun c => or_assoc

theorem mem_repeated_iff {p : RegularExpression UInt8} {S : Set UInt8} {w : ByteString}
    (h : p.MatchesOne S) : w ∈ (repeated p).matches' ↔ w ≠ [] ∧ ∀ c ∈ w, c ∈ S := by
  rw [repeated, h.mem_comp_star_iff h]
  constructor
  · rintro ⟨a, v, rfl, ha, hv⟩
    exact ⟨nofun, List.forall_mem_cons.mpr ⟨ha, hv⟩⟩
  · rintro ⟨hne, hw⟩
    obtain ⟨a, v, rfl⟩ := List.exists_cons_of_ne_nil hne
    obtain ⟨ha, hv⟩ := List.forall_mem_cons.mp hw
    exact ⟨a, v, rfl, ha, hv⟩

/-! ## Names and versions -/

theorem isIdentifier_of_valid {s : ByteString} (h : validIdentifier s = true) :
    IsIdentifier s := by
  obtain ⟨hlength, hmatch⟩ := Bool.and_eq_true_iff.mp h
  refine ⟨of_decide_eq_true hlength, ?_⟩
  have hword : (lowerLetter + digit).MatchesOne {c | isLower c ∨ isDigit c} :=
    matchesOne_lowerLetter.add matchesOne_digit
  have hseparator : (oneOf ".-").MatchesOne {c | c = 46 ∨ c = 45} :=
    (matchesOne_oneOf rfl).congr fun _ => List.mem_pair
  obtain ⟨first, rest, hfirst, hrest, hs⟩ :=
    hseparator.mem_separated ((rmatch_iff_matches' _ _).mp hmatch)
  refine ⟨first, rest, (mem_repeated_iff hword).mp hfirst, fun r hr => ?_, hs⟩
  exact ⟨(hrest r hr).1, (mem_repeated_iff hword).mp (hrest r hr).2⟩

theorem isControllerType_of_valid {s : ByteString} (h : validControllerType s = true) :
    IsControllerType s := by
  obtain ⟨hlength, hmatch⟩ := Bool.and_eq_true_iff.mp h
  have hmarks : ofString "_.-" = [95, 46, 45] := rfl
  have hmark : (oneOf "_.-").MatchesOne {c | c = 95 ∨ c = 46 ∨ c = 45} :=
    (matchesOne_oneOf hmarks).congr fun c => by simp
  have hfirst := matchesOne_letter.add matchesOne_digit
  obtain ⟨first, rest, hs, hclass, hrest⟩ :=
    (hfirst.mem_comp_star_iff (hfirst.add hmark)).mp ((rmatch_iff_matches' _ _).mp hmatch)
  exact ⟨of_decide_eq_true hlength, first, rest, hs, hclass, fun c hc => or_assoc.mp (hrest c hc)⟩

theorem isNumber_of_mem {w : ByteString} (h : w ∈ numberPattern.matches') : IsNumber w := by
  rw [numberPattern, matches'_add, Language.mem_add] at h
  rcases h with h | h
  · have hzero : (oneOf "0").MatchesOne {48} := matchesOne_mark rfl
    obtain ⟨a, ha, rfl⟩ := (hzero w).mp h
    obtain rfl := Set.mem_singleton_iff.mp ha
    exact ⟨nofun, List.forall_mem_singleton.mpr (by decide), fun _ => rfl⟩
  · have hchoices : ofString "123456789" = byteRange 49 57 := rfl
    have hpositive : (oneOf "123456789").MatchesOne {c | isDigit c ∧ c ≠ 48} := by
      refine (matchesOne_range hchoices).congr fun c => ?_
      simp only [isDigit, Set.mem_ofPred_eq]
      grind
    obtain ⟨a, v, rfl, ha, hv⟩ := (hpositive.mem_comp_star_iff matchesOne_digit).mp h
    refine ⟨nofun, List.forall_mem_cons.mpr ⟨ha.1, hv⟩, fun hhead => ?_⟩
    exact absurd (Option.some.inj hhead) ha.2

theorem isPrereleaseIdentifier_of_mem {w : ByteString} (h : w ∈ prereleasePattern.matches') :
    IsPrereleaseIdentifier w := by
  rw [prereleasePattern, matches'_add, Language.mem_add] at h
  rcases h with h | h
  · have hnumber := isNumber_of_mem h
    exact ⟨hnumber.1, fun c hc => .inl (hnumber.2.1 c hc), fun _ => hnumber⟩
  · rw [matches'_mul, matches'_mul, mul_assoc, Language.mem_mul] at h
    obtain ⟨digits, hdigits, tail, htail, rfl⟩ := h
    rw [← matches'_mul] at htail
    have hhyphen : (oneOf "-").MatchesOne {45} := matchesOne_mark rfl
    have hmark := matchesOne_letter.add hhyphen
    obtain ⟨a, v, rfl, ha, hv⟩ :=
      (hmark.mem_comp_star_iff matchesOne_versionCharacter).mp htail
    have hdigits := matchesOne_digit.mem_star_iff.mp hdigits
    refine ⟨by simp, fun c hc => ?_, fun hall => ?_⟩
    · rcases List.mem_append.mp hc with hc | hc
      · exact .inl (hdigits c hc)
      · rcases List.mem_cons.mp hc with rfl | hc
        · exact .inr ha
        · exact hv c hc
    · -- the mark is no digit
      have hdigit : isDigit a := hall a (List.mem_append_right _ List.mem_cons_self)
      have hdisjoint (c : UInt8) : isLetter c ∨ c = 45 → ¬isDigit c := by
        simp only [isLetter, isLower, isDigit]
        grind
      exact absurd hdigit (hdisjoint a ha)

theorem isSuffix_of_mem {mark : UInt8} {choices : String} {p : RegularExpression UInt8}
    {word : ByteString → Prop} {s : ByteString} (hchoices : ofString choices = [mark])
    (hword : ∀ w ∈ p.matches', word w)
    (h : s ∈ (1 + oneOf choices * p * (oneOf "." * p).star).matches') : IsSuffix mark word s := by
  rw [matches'_add, Language.mem_add] at h
  rcases h with h | h
  · exact .inl h
  · rw [matches'_mul, matches'_mul, mul_assoc, Language.mem_mul] at h
    obtain ⟨u, hu, v, hv, rfl⟩ := h
    rw [← matches'_mul] at hv
    obtain ⟨a, ha, rfl⟩ := (matchesOne_mark hchoices u).mp hu
    obtain rfl := Set.mem_singleton_iff.mp ha
    have hdot : (oneOf ".").MatchesOne {46} := matchesOne_mark rfl
    obtain ⟨first, rest, hfirst, hrest, rfl⟩ := hdot.mem_separated hv
    refine .inr ⟨first :: rest.map Prod.snd, nofun, ?_, ?_⟩
    · refine List.forall_mem_cons.mpr ⟨hword _ hfirst, fun w hw => ?_⟩
      obtain ⟨r, hr, rfl⟩ := List.mem_map.mp hw
      exact hword _ (hrest r hr).2
    · rw [List.intercalate_singleton_cons, List.flatMap_map, List.singleton_append]
      congr 2
      refine List.flatMap_congr fun r hr => ?_
      rw [Set.mem_singleton_iff.mp (hrest r hr).1]

theorem isSemanticVersion_of_valid {s : ByteString} (h : validVersion s = true) :
    IsSemanticVersion s := by
  obtain ⟨hlength, hmatch⟩ := Bool.and_eq_true_iff.mp h
  refine ⟨of_decide_eq_true hlength, ?_⟩
  have hmem := (rmatch_iff_matches' _ _).mp hmatch
  simp only [versionPattern] at hmem
  rw [matches'_mul, Language.mem_mul] at hmem
  obtain ⟨s, hmem, build, hbuild, rfl⟩ := hmem
  rw [matches'_mul, Language.mem_mul] at hmem
  obtain ⟨s, hmem, prerelease, hprerelease, rfl⟩ := hmem
  rw [matches'_mul, Language.mem_mul] at hmem
  obtain ⟨s, hmem, patch, hpatch, rfl⟩ := hmem
  rw [matches'_mul, Language.mem_mul] at hmem
  obtain ⟨s, hmem, dot', hdot', rfl⟩ := hmem
  rw [matches'_mul, Language.mem_mul] at hmem
  obtain ⟨s, hmem, minor, hminor, rfl⟩ := hmem
  rw [matches'_mul, Language.mem_mul] at hmem
  obtain ⟨major, hmajor, dot, hdot, rfl⟩ := hmem
  have hdots {w : ByteString} (h : w ∈ (oneOf ".").matches') : w = [46] := by
    have hmark : (oneOf ".").MatchesOne {46} := matchesOne_mark rfl
    obtain ⟨a, ha, rfl⟩ := (hmark w).mp h
    rw [Set.mem_singleton_iff.mp ha]
  obtain rfl := hdots hdot
  obtain rfl := hdots hdot'
  refine ⟨major, minor, patch, prerelease, build, isNumber_of_mem hmajor, isNumber_of_mem hminor,
    isNumber_of_mem hpatch, ?_, ?_, rfl⟩
  · exact isSuffix_of_mem rfl (fun _ => isPrereleaseIdentifier_of_mem) hprerelease
  · refine isSuffix_of_mem rfl (fun w hw => ?_) hbuild
    exact (mem_repeated_iff matchesOne_versionCharacter).mp hw

/-! ## Paths -/

/-- A name that every file system takes: printable characters without `:*?"<>|` and the backslash,
neither special nor reserved, and with no dot or blank at its end. -/
structure PortableName (name : ByteString) : Prop where
  ne_nil : name ≠ []
  ne_dot : name ≠ ofString "."
  ne_dots : name ≠ ofString ".."
  last : name.getLast? ≠ some 32 ∧ name.getLast? ≠ some 46
  unreserved : (lowerAscii name).takeWhile (· ≠ 46) ∉ reservedNames.map ofString
  printable : ∀ c ∈ name, 32 ≤ c ∧ c ≤ 126 ∧ c ∉ ofString ":*?\"<>|\\"

/-- A relative path of portable names. -/
structure PortablePath (path : ByteString) : Prop where
  ne_nil : path ≠ []
  length_le : path.length ≤ 1024
  relative : path.head? ≠ some 47
  names : ∀ name ∈ pathComponents path, PortableName name

theorem notPortable_eq_false {c : UInt8} (h : notPortable c = false) (hbackslash : c ≠ 92) :
    32 ≤ c ∧ c ≤ 126 ∧ c ∉ ofString ":*?\"<>|\\" := by
  have hmarks : ofString ":*?\"<>|\\" = ofString ":*?\"<>|" ++ [92] := rfl
  rw [notPortable, Bool.or_eq_false_iff, Bool.or_eq_false_iff] at h
  obtain ⟨⟨hlow, hhigh⟩, hmark⟩ := h
  rw [hmarks, List.mem_append, List.mem_singleton, not_or]
  exact ⟨UInt8.not_lt.mp (of_decide_eq_false hlow), UInt8.not_lt.mp (of_decide_eq_false hhigh),
    of_decide_eq_false hmark, hbackslash⟩

theorem mem_of_mem_pathComponents {path name : ByteString} {c : UInt8}
    (hname : name ∈ pathComponents path) (hc : c ∈ name) : c ∈ path := by
  have hjoined : [47].intercalate (path.splitOn 47) = path := List.intercalate_splitOn 47
  rw [← hjoined]
  obtain ⟨first, rest, hsplit⟩ := List.exists_cons_of_ne_nil (List.ne_nil_of_mem hname)
  rw [pathComponents] at hsplit hname
  rw [hsplit] at hname ⊢
  rw [List.intercalate_singleton_cons]
  rcases List.mem_cons.mp hname with rfl | hname
  · exact List.mem_append_left _ hc
  · exact List.mem_append_right _ (List.mem_flatMap.mpr ⟨name, hname, List.mem_cons_of_mem _ hc⟩)

theorem portablePath_of_validate {path : ByteString}
    (h : validatePortablePath path false = .ok ()) : PortablePath path := by
  have hnormalized : normalized path false = path := if_neg fun h => Bool.false_ne_true h.1
  rw [validatePortablePath, Except.ite_error_eq_ok, Except.ite_error_eq_ok, checkComponents_ok,
    hnormalized] at h
  obtain ⟨hpath, -, hcomponents⟩ := h
  push Not at hpath
  refine ⟨hpath.1, hpath.2.1, hpath.2.2.1, fun name hname => ?_⟩
  have hcheck := hcomponents name hname
  rw [checkComponent, Except.ite_error_eq_ok, Except.ite_error_eq_ok] at hcheck
  obtain ⟨hsafe, hportable, -⟩ := hcheck
  push Not at hsafe
  refine ⟨hsafe.1, hsafe.2.1, hsafe.2.2.1, ⟨hsafe.2.2.2.1, hsafe.2.2.2.2.1⟩, ?_,
    fun c hc => ?_⟩
  · intro hreserved
    exact hsafe.2.2.2.2.2 (decide_eq_true hreserved)
  · rw [List.any_eq_true] at hportable
    push Not at hportable
    refine notPortable_eq_false (Bool.not_eq_true _ |>.mp (hportable c hc)) ?_
    rintro rfl
    exact hpath.2.2.2.2 (mem_of_mem_pathComponents hname hc)

/-- The operating systems with the extensions of their libraries. -/
def libraryExtensions : List (ByteString × ByteString) :=
  [(ofString "windows", ofString ".dll"), (ofString "macos", ofString ".dylib"),
    (ofString "linux", ofString ".so")]

/-- The file name of an entrypoint ends in the extension of its operating system, in any case, after
something else. -/
def HasLibraryName (e : PluginEntrypoint) : Prop :=
  ∃ stem extension, stem ≠ [] ∧ (e.os, lowerAscii extension) ∈ libraryExtensions ∧
    (pathComponents e.path).getLastD [] = stem ++ extension

theorem filenameExtension_spec {filename : ByteString} (h : filenameExtension filename ≠ []) :
    ∃ stem, stem ≠ [] ∧ filename = stem ++ filenameExtension filename := by
  unfold filenameExtension at h ⊢
  simp only [] at h ⊢
  split at h
  · exact absurd rfl h
  · rename_i hlong
    rw [if_neg hlong]
    push Not at hlong
    refine ⟨filename.take _, ?_, (List.take_append_drop _ _).symm⟩
    rw [← List.length_pos_iff, List.length_take]
    omega

theorem hasLibraryName_of_expected {e : PluginEntrypoint}
    (h : hasExpectedLibraryExtension e = true) : HasLibraryName e := by
  have hname {os extension : ByteString} (hos : e.os = os)
      (hmem : (os, extension) ∈ libraryExtensions) (hne : extension ≠ [])
      (h : decide (lowerAscii (filenameExtension ((pathComponents e.path).getLastD [])) =
        extension) = true) : HasLibraryName e := by
    have hext := of_decide_eq_true h
    have hfilename : filenameExtension ((pathComponents e.path).getLastD []) ≠ [] := by
      intro hnil
      rw [hnil] at hext
      exact hne hext.symm
    obtain ⟨stem, hstem, hsplit⟩ := filenameExtension_spec hfilename
    refine ⟨stem, _, hstem, ?_, hsplit⟩
    rw [hext, hos]
    exact hmem
  unfold hasExpectedLibraryExtension at h
  simp only [] at h
  split at h
  · rename_i hos
    exact hname hos (.head _) nofun h
  split at h
  · rename_i hos
    exact hname hos (.tail _ (.head _)) nofun h
  split at h
  · rename_i hos
    exact hname hos (.tail _ (.tail _ (.head _))) nofun h
  · cases h

/-! ## Soundness -/

/-- What a manifest must satisfy, together with the JSON that it was read from. -/
structure SoundManifest (root : Json) (m : PluginManifest) : Prop where
  schemaVersion : root.field "schemaVersion" = some (.unsigned 1)
  abiVersion : (root.field "libera").bind (Json.field "abiVersion") =
    some (.unsigned liberaPluginApiVersion.toNat)
  id : IsIdentifier m.id
  unreserved : m.id ≠ ofString "libera.builtin" ∧ ¬ofString "libera.builtin." <+: m.id
  version : IsSemanticVersion m.version
  controllerType : IsControllerType m.controllerType
  entrypoints_ne_nil : m.entrypoints ≠ []
  targets : (m.entrypoints.map fun e => (e.os, e.arch)).Nodup
  entrypoint : ∀ e ∈ m.entrypoints, PortablePath e.path ∧ HasLibraryName e
  document : ∀ path ∈ m.documents.readme.toList ++ m.documents.license.toList, PortablePath path

/-- An unsigned number fits 32 bits. -/
def Fits : Option Json → Prop
  | some (.unsigned n) => n < 2 ^ 32
  | _ => True

instance : DecidablePred Fits := fun json => by
  unfold Fits
  split
  · infer_instance
  · infer_instance

/-- The version numbers in a manifest fit 32 bits. -/
def VersionsFit (root : Json) : Prop :=
  Fits (root.field "schemaVersion") ∧ Fits ((root.field "libera").bind (Json.field "abiVersion"))

instance : DecidablePred VersionsFit := fun _ => inferInstanceAs (Decidable (_ ∧ _))

/-- A number that fits 32 bits is the one that it is read as. -/
theorem ofNat_eq_iff {n : ℕ} {value : UInt32} (h : UInt32.ofNat n = value) :
    n = value.toNat ↔ n < 2 ^ 32 := by
  rw [← h, UInt32.toNat_ofNat']
  exact ⟨fun heq => heq ▸ Nat.mod_lt n (by decide), fun hlt => (Nat.mod_eq_of_lt hlt).symm⟩

theorem versionsFit_of_sound {root : Json} {m : PluginManifest} (h : SoundManifest root m) :
    VersionsFit root := by
  refine ⟨?_, ?_⟩
  · rw [h.schemaVersion]
    decide
  · rw [h.abiVersion]
    decide

/-- **When a manifest that is accepted is sound**: exactly when its version numbers fit the 32 bits
that they are cut to before they are compared. -/
theorem parseManifest_sound_iff (codec : JsonCodec) (what : ByteString → ByteString)
    (text : ByteString) (root : Json) (m : PluginManifest) (hroot : codec.parse text = some root)
    (hparse : parseManifest codec what text = .ok m) :
    SoundManifest root m ↔ VersionsFit root := by
  obtain ⟨root', hroot', hchecked⟩ := parseManifest_eq_ok hparse
  obtain rfl := Option.some.inj (hroot.symm.trans hroot')
  obtain ⟨n, hn, hone⟩ := hchecked.schemaVersion
  obtain ⟨n', hn', habi⟩ := hchecked.abiVersion
  have hschema : n = 1 ↔ n < 2 ^ 32 := ofNat_eq_iff hone
  have habiVersion := ofNat_eq_iff habi
  constructor
  · exact versionsFit_of_sound
  · intro hfit
    refine ⟨?_, ?_, isIdentifier_of_valid hchecked.id, hchecked.unreserved,
      isSemanticVersion_of_valid hchecked.version,
      isControllerType_of_valid hchecked.controllerType, hchecked.entrypoints_ne_nil,
      hchecked.targets, fun e he => ?_, fun path hpath => ?_⟩
    · have hfits := hfit.1
      rw [hn] at hfits ⊢
      rw [hschema.mpr hfits]
    · have hfits := hfit.2
      rw [hn'] at hfits ⊢
      rw [habiVersion.mpr hfits]
    · have hentrypoint := hchecked.entrypoint e he
      exact ⟨portablePath_of_validate hentrypoint.path,
        hasLibraryName_of_expected hentrypoint.extension⟩
    · exact portablePath_of_validate (hchecked.document path hpath)

/-- A manifest whose schema version is some number. -/
def sampleManifest (schemaVersion : String) : ByteString :=
  ofString "\x7b\"schemaVersion\":" ++ ofString schemaVersion ++ ofString
    ",\"id\":\"com.acme.dac\",\"version\":\"1.0.0-rc.1\",\"name\":\"Dac\",\"vendor\":\"Acme\"," ++
    ofString "\"controllerType\":\"Dac\",\"libera\":\x7b\"abiVersion\":1\x7d," ++
    ofString "\"entrypoints\":[\x7b\"os\":\"linux\",\"arch\":\"x86_64\"," ++
    ofString "\"path\":\"linux/dac.so\"\x7d]\x7d"

theorem sampleManifest_sound : ∃ root m,
    Json.textCodec.parse (sampleManifest "1") = some root ∧
      parseManifest Json.textCodec (fun _ => []) (sampleManifest "1") = .ok m ∧
      SoundManifest root m := by
  have hfit : (Json.textCodec.parse (sampleManifest "1")).map
      (fun root => decide (VersionsFit root)) = some true := by decide +kernel
  have haccepted :
      (parseManifest Json.textCodec (fun _ => []) (sampleManifest "1")).isOk = true := by
    decide +kernel
  obtain ⟨root, hroot, hfit⟩ := Option.map_eq_some_iff.mp hfit
  cases hparse : parseManifest Json.textCodec (fun _ => []) (sampleManifest "1") with
  | error message =>
    rw [hparse] at haccepted
    cases haccepted
  | ok m =>
    exact ⟨root, m, hroot, rfl, (parseManifest_sound_iff Json.textCodec (fun _ => [])
      (sampleManifest "1") root m hroot hparse).mpr (of_decide_eq_true hfit)⟩

/-- A schema version that is 1 only after it has been cut to 32 bits is accepted. -/
theorem wide_schemaVersion_accepted : ¬∀ root m,
    Json.textCodec.parse (sampleManifest "4294967297") = some root →
      parseManifest Json.textCodec (fun _ => []) (sampleManifest "4294967297") = .ok m →
      SoundManifest root m := by
  have hfit : (Json.textCodec.parse (sampleManifest "4294967297")).map
      (fun root => decide (VersionsFit root)) = some false := by decide +kernel
  have haccepted :
      (parseManifest Json.textCodec (fun _ => []) (sampleManifest "4294967297")).isOk = true := by
    decide +kernel
  obtain ⟨root, hroot, hfit⟩ := Option.map_eq_some_iff.mp hfit
  intro h
  cases hparse : parseManifest Json.textCodec (fun _ => []) (sampleManifest "4294967297") with
  | error message =>
    rw [hparse] at haccepted
    cases haccepted
  | ok m =>
    exact of_decide_eq_false hfit (versionsFit_of_sound (h root m hroot hparse))

end LiberaLaser.Plugin
