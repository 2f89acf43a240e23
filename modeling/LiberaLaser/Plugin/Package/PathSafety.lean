import LiberaLaser.Plugin.Package.Archive
import Mathlib.Data.UInt

/-!
# The paths of an accepted archive

The entries are checked one by one against a growing set of paths, but what is decided in the end
does not depend on their order (`openAndValidateArchive_iff`): every entry is acceptable alone, any
two can stand in one file system that ignores case, and the files fit. So the paths of an accepted
archive are safe to extract.
-/

namespace LiberaLaser.Plugin

open ByteString

/-! ## Ancestors -/

theorem mem_ancestors {a path : ByteString} : a ∈ ancestors path ↔ a ++ [47] <+: path := by
  simp only [ancestors, List.mem_map, List.mem_filter, List.mem_range, decide_eq_true_eq]
  constructor
  · rintro ⟨slash, ⟨hlt, hslash⟩, rfl⟩
    refine ⟨path.drop (slash + 1), ?_⟩
    obtain ⟨h, hget⟩ := List.getElem?_eq_some_iff.mp hslash
    rw [List.append_assoc, ← hget, List.singleton_append, List.getElem_cons_drop,
      List.take_append_drop]
  · rintro ⟨tail, rfl⟩
    refine ⟨a.length, ⟨?_, ?_⟩, ?_⟩
    · simp only [List.length_append, List.length_cons, List.length_nil]
      omega
    · simp
    · simp

namespace ZipEntry

/-- The path of one entry is a directory that another entry lies in. -/
def IsAncestor (e e' : ZipEntry) : Prop := e.collisionKey ++ [47] <+: e'.collisionKey

theorem not_isAncestor_self (e : ZipEntry) : ¬e.IsAncestor e := by
  intro hprefix
  have hlength := hprefix.length_le
  rw [List.length_append, List.length_singleton] at hlength
  omega

/-- Two entries can stand in one file system. -/
structure Compatible (e e' : ZipEntry) : Prop where
  ne : e.collisionKey ≠ e'.collisionKey
  left : e.isDirectory = false → ¬e.IsAncestor e'
  right : e'.isDirectory = false → ¬e'.IsAncestor e

theorem Compatible.symm {e e' : ZipEntry} (h : e.Compatible e') : e'.Compatible e :=
  ⟨h.ne.symm, h.right, h.left⟩

instance : Std.Symm Compatible := ⟨fun _ _ h => h.symm⟩

/-- An entry passes the checks that concern it alone. -/
structure Acceptable (e : ZipEntry) : Prop where
  readable : e.readable = true
  plain : e.isEncrypted = false
  supported : e.isSupported = true
  portable : validatePortablePath e.path e.isDirectory = .ok ()
  ordinary : e.isSpecial = false
  size : e.isDirectory = false → e.uncompSize ≤ maximumFileBytes
  honest : e.isDirectory = false → e.isSuspicious = false

/-- The sizes of the files among some entries. -/
def fileSizes (es : List ZipEntry) : List ℕ :=
  (es.filter fun e => !e.isDirectory).map fun e => e.uncompSize.toNat

theorem fileSizes_append (es es' : List ZipEntry) :
    fileSizes (es ++ es') = fileSizes es ++ fileSizes es' := by
  simp only [fileSizes, List.filter_append, List.map_append]

theorem fileSizes_singleton (e : ZipEntry) :
    fileSizes [e] = if e.isDirectory then [] else [e.uncompSize.toNat] := by
  cases h : e.isDirectory with
  | false => simp [fileSizes, h]
  | true => simp [fileSizes, h]

end ZipEntry

namespace ArchiveScan

variable {scan scan' : ArchiveScan} {es es' : List ZipEntry} {e : ZipEntry}

/-- The scan of some entries has their paths and the size of their files, which did not wrap. -/
structure ScanOf (scan : ArchiveScan) (es : List ZipEntry) : Prop where
  mem_paths : ∀ k, k ∈ scan.portablePaths ↔ ∃ e ∈ es, e.collisionKey = k
  mem_filePaths : ∀ k, k ∈ scan.portableFilePaths ↔
    ∃ e ∈ es, e.isDirectory = false ∧ e.collisionKey = k
  totalSize : scan.totalSize.toNat = (ZipEntry.fileSizes es).sum
  bounded : (ZipEntry.fileSizes es).sum ≤ maximumExtractedBytes.toNat

theorem scanOf_nil : ScanOf {} [] where
  mem_paths k := by simp
  mem_filePaths k := by simp
  totalSize := rfl
  bounded := Nat.zero_le _

/-- The search finds an entry within a file exactly when there is one. -/
theorem search_iff (h : ScanOf scan es) :
    (PrefixSearch.lowerBound (e.collisionKey ++ [47]) (e.collisionKey :: scan.portablePaths)).any
      (e.collisionKey ++ [47]).isPrefixOf = true ↔ ∃ e' ∈ es, e.IsAncestor e' := by
  have hsearch := PrefixSearch.exists_isPrefix_iff (e.collisionKey ++ [47])
    (e.collisionKey :: scan.portablePaths)
  simp only [Option.any_eq_true, List.isPrefixOf_iff_prefix]
  rw [← hsearch]
  constructor
  · rintro ⟨k, hk, hprefix⟩
    rcases List.mem_cons.mp hk with rfl | hk
    · exact absurd hprefix e.not_isAncestor_self
    · obtain ⟨e', he', rfl⟩ := (h.mem_paths k).mp hk
      exact ⟨e', he', hprefix⟩
  · rintro ⟨e', he', hprefix⟩
    exact ⟨e'.collisionKey, List.mem_cons_of_mem _ ((h.mem_paths _).mpr ⟨e', he', rfl⟩), hprefix⟩

theorem toNat_maximum : maximumFileBytes.toNat ≤ maximumExtractedBytes.toNat ∧
    maximumExtractedBytes.toNat < 2 ^ 64 := by
  decide

/-- The check of the size, in numbers that do not wrap. -/
theorem size_iff (h : ScanOf scan es) (hsize : e.uncompSize ≤ maximumFileBytes) :
    scan.totalSize ≤ maximumExtractedBytes - e.uncompSize ↔
      (ZipEntry.fileSizes es).sum + e.uncompSize.toNat ≤ maximumExtractedBytes.toNat := by
  have hle : e.uncompSize ≤ maximumExtractedBytes :=
    UInt64.le_iff_toNat_le.mpr ((UInt64.le_iff_toNat_le.mp hsize).trans toNat_maximum.1)
  have hnat := UInt64.le_iff_toNat_le.mp hle
  rw [UInt64.le_iff_toNat_le, UInt64.toNat_sub_of_le _ _ hle, h.totalSize]
  omega

/-- **What the check of one entry decides**: the entry is acceptable, it can stand beside every
entry before it, and the files fit. -/
theorem checkEntry_iff (h : ScanOf scan es) :
    scan.checkEntry e = .ok () ↔ e.Acceptable ∧ (∀ e' ∈ es, e'.Compatible e) ∧
      (ZipEntry.fileSizes (es ++ [e])).sum ≤ maximumExtractedBytes.toNat := by
  have hduplicate : e.collisionKey ∈ scan.portablePaths ↔
      ∃ e' ∈ es, e'.collisionKey = e.collisionKey := h.mem_paths _
  have hwithin : (∃ a ∈ ancestors e.collisionKey, a ∈ scan.portableFilePaths) ↔
      ∃ e' ∈ es, e'.isDirectory = false ∧ e'.IsAncestor e := by
    simp only [mem_ancestors, h.mem_filePaths]
    constructor
    · rintro ⟨a, ha, e', he', hfile, rfl⟩
      exact ⟨e', he', hfile, ha⟩
    · rintro ⟨e', he', hfile, ha⟩
      exact ⟨_, ha, e', he', hfile, rfl⟩
  have hsearch := search_iff (e := e) h
  have hfilesize : (¬(maximumFileBytes < e.uncompSize ∨
      maximumExtractedBytes - e.uncompSize < scan.totalSize)) ↔
      e.uncompSize ≤ maximumFileBytes ∧
        (ZipEntry.fileSizes es).sum + e.uncompSize.toNat ≤ maximumExtractedBytes.toNat := by
    rw [not_or, UInt64.not_lt, UInt64.not_lt]
    exact and_congr_right fun hsize => size_iff h hsize
  rw [ZipEntry.fileSizes_append, List.sum_append, ZipEntry.fileSizes_singleton]
  unfold checkEntry
  rw [Except.ite_error_eq_ok, Except.ite_error_eq_ok, Except.bind_eq_ok]
  simp only [Except.ite_error_eq_ok]
  rw [hduplicate, hwithin]
  cases hdirectory : e.isDirectory with
  | true =>
    simp only [if_true, List.sum_nil, Nat.add_zero, and_true, Bool.not_eq_true]
    constructor
    · rintro ⟨hreadable, hplain, ⟨⟩, hportable, hordinary, hne, hancestor⟩
      obtain ⟨hencrypted, hsupported⟩ := Bool.or_eq_false_iff.mp hplain
      refine ⟨⟨by simpa using hreadable, hencrypted, by simpa using hsupported,
        by rw [hdirectory]; exact hportable, hordinary, ?_, ?_⟩, fun e' he' => ⟨?_, ?_, ?_⟩,
        h.bounded⟩
      · exact fun hfile => absurd hfile (by rw [hdirectory]; decide)
      · exact fun hfile => absurd hfile (by rw [hdirectory]; decide)
      · exact fun heq => hne ⟨e', he', heq⟩
      · exact fun hfile ha => hancestor ⟨e', he', hfile, ha⟩
      · exact fun hfile => absurd hfile (by rw [hdirectory]; decide)
    · rintro ⟨he, hcompatible, -⟩
      refine ⟨by simp [he.readable], by simp [he.plain, he.supported], (),
        by rw [← hdirectory]; exact he.portable, he.ordinary, ?_, ?_⟩
      · exact fun ⟨e', he', heq⟩ => (hcompatible e' he').ne heq
      · exact fun ⟨e', he', hfile, ha⟩ => (hcompatible e' he').left hfile ha
  | false =>
    simp only [Bool.false_eq_true, if_false, Except.ite_error_eq_ok, hsearch, hfilesize, and_true,
      List.sum_singleton, Bool.not_eq_true]
    constructor
    · rintro ⟨hreadable, hplain, ⟨⟩, hportable, hordinary, hne, hancestor, hchild, ⟨hsize, hsum⟩,
        hhonest⟩
      obtain ⟨hencrypted, hsupported⟩ := Bool.or_eq_false_iff.mp hplain
      refine ⟨⟨by simpa using hreadable, hencrypted, by simpa using hsupported,
        by rw [hdirectory]; exact hportable, hordinary, fun _ => hsize, fun _ => hhonest⟩,
        fun e' he' => ⟨?_, ?_, ?_⟩, hsum⟩
      · exact fun heq => hne ⟨e', he', heq⟩
      · exact fun hfile ha => hancestor ⟨e', he', hfile, ha⟩
      · exact fun _ ha => hchild ⟨e', he', ha⟩
    · rintro ⟨he, hcompatible, hsum⟩
      refine ⟨by simp [he.readable], by simp [he.plain, he.supported], (),
        by rw [← hdirectory]; exact he.portable, he.ordinary, ?_, ?_, ?_,
        ⟨he.size hdirectory, hsum⟩, he.honest hdirectory⟩
      · exact fun ⟨e', he', heq⟩ => (hcompatible e' he').ne heq
      · exact fun ⟨e', he', hfile, ha⟩ => (hcompatible e' he').left hfile ha
      · exact fun ⟨e', he', ha⟩ => (hcompatible e' he').right hdirectory ha

theorem ScanOf.add (h : ScanOf scan es) (index : ℕ)
    (hsum : (ZipEntry.fileSizes (es ++ [e])).sum ≤ maximumExtractedBytes.toNat) :
    ScanOf (scan.add index e) (es ++ [e]) where
  mem_paths k := by
    simp only [ArchiveScan.add, List.mem_cons, h.mem_paths, List.mem_append, List.not_mem_nil,
      or_false]
    constructor
    · rintro (rfl | ⟨e', he', rfl⟩)
      · exact ⟨e, .inr rfl, rfl⟩
      · exact ⟨e', .inl he', rfl⟩
    · rintro ⟨e', he' | rfl, rfl⟩
      · exact .inr ⟨e', he', rfl⟩
      · exact .inl rfl
  mem_filePaths k := by
    simp only [ArchiveScan.add, List.mem_append, List.mem_singleton]
    cases hdirectory : e.isDirectory with
    | true =>
      rw [if_pos rfl, h.mem_filePaths]
      constructor
      · rintro ⟨e', he', hfile, rfl⟩
        exact ⟨e', .inl he', hfile, rfl⟩
      · rintro ⟨e', he' | rfl, hfile, rfl⟩
        · exact ⟨e', he', hfile, rfl⟩
        · rw [hdirectory] at hfile
          cases hfile
    | false =>
      rw [if_neg Bool.false_ne_true, List.mem_cons, h.mem_filePaths]
      constructor
      · rintro (rfl | ⟨e', he', hfile, rfl⟩)
        · exact ⟨e, .inr rfl, hdirectory, rfl⟩
        · exact ⟨e', .inl he', hfile, rfl⟩
      · rintro ⟨e', he' | rfl, hfile, rfl⟩
        · exact .inr ⟨e', he', hfile, rfl⟩
        · exact .inl rfl
  totalSize := by
    rw [ZipEntry.fileSizes_append, List.sum_append, ZipEntry.fileSizes_singleton] at hsum ⊢
    cases hdirectory : e.isDirectory with
    | true => simp only [ArchiveScan.add, hdirectory, if_true, h.totalSize, List.sum_nil,
        Nat.add_zero]
    | false =>
      simp only [ArchiveScan.add, hdirectory, Bool.false_eq_true, if_false, List.sum_singleton]
        at hsum ⊢
      have hmaximum := toNat_maximum.2
      rw [UInt64.toNat_add, h.totalSize, Nat.mod_eq_of_lt (by omega)]
  bounded := hsum

/-- **What the scan decides**: every entry is acceptable, any two of them can stand in one file
system, and the files fit. -/
theorem scanEntries_iff (h : ScanOf scan es) (es' : List ZipEntry) (index : ℕ) :
    (∃ scan', scanEntries es' index scan = .ok scan') ↔
      (∀ e ∈ es', e.Acceptable) ∧ (∀ e ∈ es, ∀ e' ∈ es', e.Compatible e') ∧
        es'.Pairwise ZipEntry.Compatible ∧
        (ZipEntry.fileSizes (es ++ es')).sum ≤ maximumExtractedBytes.toNat := by
  induction es' generalizing es scan index with
  | nil =>
    rw [List.append_nil]
    exact ⟨fun _ => ⟨fun _ he => absurd he List.not_mem_nil,
      fun _ _ _ he => absurd he List.not_mem_nil, .nil, h.bounded⟩, fun _ => ⟨scan, rfl⟩⟩
  | cons e es' ih =>
    have hsplit : es ++ e :: es' = (es ++ [e]) ++ es' := by
      rw [List.append_assoc, List.singleton_append]
    simp only [scanEntries, Except.bind_eq_ok, checkEntry_iff h]
    constructor
    · rintro ⟨scan', _, ⟨he, hbefore, hsum⟩, hscan⟩
      obtain ⟨hgood, hcross, hpairwise, htotal⟩ :=
        (ih (h.add index hsum) (index + 1)).mp ⟨scan', hscan⟩
      refine ⟨List.forall_mem_cons.mpr ⟨he, hgood⟩, fun e₁ he₁ => List.forall_mem_cons.mpr ⟨?_, ?_⟩,
        List.pairwise_cons.mpr ⟨?_, hpairwise⟩, by rw [hsplit]; exact htotal⟩
      · exact hbefore e₁ he₁
      · exact hcross e₁ (List.mem_append_left _ he₁)
      · exact hcross e (List.mem_append_right _ (List.mem_singleton_self e))
    · rintro ⟨hgood, hcross, hpairwise, htotal⟩
      obtain ⟨he, hgood⟩ := List.forall_mem_cons.mp hgood
      obtain ⟨hafter, hpairwise⟩ := List.pairwise_cons.mp hpairwise
      rw [hsplit] at htotal
      have hsum : (ZipEntry.fileSizes (es ++ [e])).sum ≤ maximumExtractedBytes.toNat := by
        rw [ZipEntry.fileSizes_append, List.sum_append] at htotal
        omega
      have hcross' : ∀ e₁ ∈ es ++ [e], ∀ e₂ ∈ es', e₁.Compatible e₂ := by
        intro e₁ he₁ e₂ he₂
        rcases List.mem_append.mp he₁ with he₁ | he₁
        · exact hcross e₁ he₁ e₂ (List.mem_cons_of_mem _ he₂)
        · rw [List.mem_singleton.mp he₁]
          exact hafter e₂ he₂
      obtain ⟨scan', hscan⟩ := (ih (h.add index hsum) (index + 1)).mpr
        ⟨hgood, hcross', hpairwise, htotal⟩
      exact ⟨scan', (), ⟨he, fun e₁ he₁ => hcross e₁ he₁ e List.mem_cons_self, hsum⟩, hscan⟩

/-- A scan that ends has the paths and the sizes of its entries. -/
theorem scanOf_scanEntries (h : ScanOf scan es) (index : ℕ)
    (hscan : scanEntries es' index scan = .ok scan') : ScanOf scan' (es ++ es') := by
  induction es' generalizing es scan index with
  | nil =>
    cases hscan
    rw [List.append_nil]
    exact h
  | cons e es' ih =>
    obtain ⟨_, hcheck, hscan⟩ := Except.bind_eq_ok.mp hscan
    have hadd := h.add index ((checkEntry_iff h).mp hcheck).2.2
    have hrest := ih hadd (index + 1) hscan
    rwa [List.append_assoc, List.singleton_append] at hrest

end ArchiveScan

/-! ## What an accepted archive promises -/

theorem checkComponents_ok {path : ByteString} {components : List ByteString} :
    checkComponents path components = .ok () ↔
      ∀ component ∈ components, checkComponent path component = .ok () := by
  induction components with
  | nil => exact ⟨fun _ _ h => absurd h List.not_mem_nil, fun _ => rfl⟩
  | cons component components ih =>
    rw [checkComponents, Except.bind_eq_ok, List.forall_mem_cons, ih]
    exact ⟨fun ⟨_, h⟩ => h, fun h => ⟨(), h⟩⟩

/-- A path that is safe to extract to: it is not empty and not absolute, has no backslash, and
without the slash that marks a directory no component of it is empty, `.` or `..`. -/
structure SafePath (path : ByteString) (directory : Bool) : Prop where
  ne_nil : path ≠ []
  relative : path.head? ≠ some 47
  no_backslash : 92 ∉ path
  components : ∀ component ∈ (normalized path directory).splitOn 47,
    component ≠ [] ∧ component ≠ ofString "." ∧ component ≠ ofString ".."

theorem safePath_of_validatePortablePath {path : ByteString} {directory : Bool}
    (h : validatePortablePath path directory = .ok ()) : SafePath path directory := by
  rw [validatePortablePath, Except.ite_error_eq_ok, Except.ite_error_eq_ok,
    checkComponents_ok] at h
  obtain ⟨hpath, -, hcomponents⟩ := h
  push Not at hpath
  refine ⟨hpath.1, hpath.2.2.1, hpath.2.2.2.2, fun component hcomponent => ?_⟩
  have hcheck := hcomponents component hcomponent
  rw [checkComponent, Except.ite_error_eq_ok] at hcheck
  have hsafe := hcheck.1
  push Not at hsafe
  exact ⟨hsafe.1, hsafe.2.1, hsafe.2.2.1⟩

/-- What acceptance asks of the entries, in no order. -/
structure Accepted (entries : List ZipEntry) : Prop where
  pos : entries.length ≠ 0
  few : entries.length ≤ maximumArchiveEntries
  acceptable : ∀ e ∈ entries, e.Acceptable
  compatible : entries.Pairwise ZipEntry.Compatible
  size : (ZipEntry.fileSizes entries).sum ≤ maximumExtractedBytes.toNat
  intact : ∀ e ∈ entries, e.intact = true

theorem Accepted.perm {entries entries' : List ZipEntry} (h : Accepted entries)
    (hperm : entries.Perm entries') : Accepted entries' where
  pos := by
    rw [← hperm.length_eq]
    exact h.pos
  few := by
    rw [← hperm.length_eq]
    exact h.few
  acceptable e he := h.acceptable e (hperm.mem_iff.mpr he)
  compatible := (hperm.pairwise_iff ZipEntry.Compatible.symm).mp h.compatible
  size := by
    have hsizes : (ZipEntry.fileSizes entries).Perm (ZipEntry.fileSizes entries') :=
      (hperm.filter _).map _
    rw [← hsizes.sum_eq]
    exact h.size
  intact e he := h.intact e (hperm.mem_iff.mpr he)

theorem openAndValidateArchive_iff {entries : List ZipEntry} :
    (∃ scan, openAndValidateArchive (.ok entries) = .ok scan) ↔ Accepted entries := by
  have hscan := ArchiveScan.scanEntries_iff ArchiveScan.scanOf_nil entries 0
  simp only [List.nil_append, List.not_mem_nil, false_implies, implies_true, true_and] at hscan
  simp only [openAndValidateArchive, Except.ite_error_eq_ok, Except.bind_eq_ok, not_or,
    Nat.not_lt]
  constructor
  · rintro ⟨scan, ⟨hpos, hfew⟩, scan', hscanned, hvalid⟩
    obtain ⟨hacceptable, hcompatible, hsize⟩ := hscan.mp ⟨scan', hscanned⟩
    split at hvalid
    · rename_i hintact
      exact ⟨hpos, hfew, hacceptable, hcompatible, hsize, List.all_eq_true.mp hintact⟩
    · cases hvalid
  · intro h
    obtain ⟨scan, hscanned⟩ := hscan.mpr ⟨h.acceptable, h.compatible, h.size⟩
    exact ⟨scan, ⟨h.pos, h.few⟩, scan, hscanned, if_pos (List.all_eq_true.mpr h.intact)⟩

/-- **The paths of an accepted archive are sound**, and whether an archive is accepted does not
depend on the order of its entries. -/
theorem openAndValidateArchive_sound (entries entries' : List ZipEntry) :
    (∀ scan, openAndValidateArchive (.ok entries) = .ok scan →
      (∀ e ∈ entries, SafePath e.path e.isDirectory) ∧
      (entries.map ZipEntry.collisionKey).Nodup ∧
      (∀ e ∈ entries, e.isDirectory = false → ∀ e' ∈ entries, ¬e.IsAncestor e') ∧
      (ZipEntry.fileSizes entries).sum ≤ maximumExtractedBytes.toNat ∧
      scan.totalSize.toNat = (ZipEntry.fileSizes entries).sum) ∧
    (entries.Perm entries' →
      ((∃ scan, openAndValidateArchive (.ok entries) = .ok scan) ↔
        ∃ scan, openAndValidateArchive (.ok entries') = .ok scan)) := by
  constructor
  · intro scan h
    have haccepted := openAndValidateArchive_iff.mp ⟨scan, h⟩
    have hsize : scan.totalSize.toNat = (ZipEntry.fileSizes entries).sum := by
      simp only [openAndValidateArchive, Except.ite_error_eq_ok, Except.bind_eq_ok] at h
      obtain ⟨-, scan', hscanned, hvalid⟩ := h
      split at hvalid
      · cases hvalid
        exact (ArchiveScan.scanOf_scanEntries ArchiveScan.scanOf_nil 0 hscanned).totalSize
      · cases hvalid
    refine ⟨fun e he => ?_, ?_, fun e he hfile e' he' ha => ?_, haccepted.size, hsize⟩
    · exact safePath_of_validatePortablePath (haccepted.acceptable e he).portable
    · rw [List.Nodup, List.pairwise_map]
      exact haccepted.compatible.imp fun hcompatible => hcompatible.ne
    · by_cases heq : e = e'
      · rw [← heq] at ha
        exact e.not_isAncestor_self ha
      · exact (haccepted.compatible.forall he he' heq).left hfile ha
  · intro hperm
    rw [openAndValidateArchive_iff, openAndValidateArchive_iff]
    exact ⟨fun h => h.perm hperm, fun h => h.perm hperm.symm⟩

/-- The size that is declared of a directory counts for nothing. -/
theorem directory_size_not_counted :
    ∃ scan, openAndValidateArchive
        (.ok [{ name := ofString "fonts/", isDirectory := true, uncompSize := 2 ^ 31 }]) =
          .ok scan ∧
      maximumExtractedBytes.toNat <
        (([{ name := ofString "fonts/", isDirectory := true, uncompSize := 2 ^ 31 }] :
          List ZipEntry).map fun e => e.uncompSize.toNat).sum :=
  ⟨_, rfl, by decide⟩

end LiberaLaser.Plugin
