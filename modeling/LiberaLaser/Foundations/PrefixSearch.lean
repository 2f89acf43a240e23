import Mathlib.Data.List.Basic

/-!
# Search by prefix

In the lexicographic order the lists with a given prefix stand together, from where the prefix
itself would stand. So some list of a collection has the prefix exactly when the first one that is
not smaller than the prefix has it.
-/

namespace PrefixSearch

variable {α : Type*} [LT α]

section

variable [DecidableLT α] [DecidableEq α] {key : List α} {ks : List (List α)}

/-- The least list of a collection that is not smaller than a key. -/
def lowerBound (key : List α) : List (List α) → Option (List α)
  | [] => none
  | k :: ks =>
    match lowerBound key ks with
    | none => if k < key then none else some k
    | some least => if ¬k < key ∧ k < least then some k else some least

theorem lowerBound_none (h : lowerBound key ks = none) : ∀ k ∈ ks, k < key := by
  induction ks with
  | nil => exact fun k hk => absurd hk List.not_mem_nil
  | cons k ks ih =>
    rw [lowerBound] at h
    split at h
    · rename_i hnone
      split at h
      · rename_i hk
        exact List.forall_mem_cons.mpr ⟨hk, ih hnone⟩
      · cases h
    · split at h
      · cases h
      · cases h

end

variable [LE α] [Std.IsLinearOrder α] [Std.LawfulOrderLT α] {p s t key k : List α}
  {ks : List (List α)}

/-- What stands between a prefix of a list and the list has the prefix. -/
theorem isPrefix_of_between (hp : p <+: s) (hpt : p ≤ t) (hts : t ≤ s) : p <+: t := by
  induction p generalizing s t with
  | nil => exact List.nil_prefix
  | cons a p ih =>
    obtain ⟨s, rfl⟩ : ∃ s', s = a :: s' := by
      obtain ⟨tail, rfl⟩ := hp
      exact ⟨p ++ tail, rfl⟩
    cases t with
    | nil => exact absurd (List.nil_lt_cons a p) hpt
    | cons b t =>
      obtain rfl : a = b := by
        rcases List.cons_le_cons_iff.mp hpt with hab | ⟨hab, -⟩
        · rcases List.cons_le_cons_iff.mp hts with hba | ⟨hba, -⟩
          · exact absurd hba (Std.Asymm.asymm _ _ hab)
          · exact hba.symm
        · exact hab
      rw [List.cons_prefix_cons] at hp ⊢
      refine ⟨rfl, ih hp.2 ?_ ?_⟩
      · exact List.le_of_cons_le_cons hpt
      · exact List.le_of_cons_le_cons hts

variable [DecidableLT α] [DecidableEq α]

theorem lowerBound_some (h : lowerBound key ks = some k) :
    k ∈ ks ∧ key ≤ k ∧ ∀ k' ∈ ks, key ≤ k' → k ≤ k' := by
  induction ks generalizing k with
  | nil => cases h
  | cons k' ks ih =>
    rw [lowerBound] at h
    split at h
    · rename_i hnone
      split at h
      · cases h
      · rename_i hk'
        cases h
        refine ⟨List.mem_cons_self, hk', List.forall_mem_cons.mpr ⟨fun _ => List.le_refl _, ?_⟩⟩
        exact fun k'' hk'' hle => absurd (lowerBound_none hnone k'' hk'') hle
    · rename_i least hsome
      obtain ⟨hmem, hle, hleast⟩ := ih hsome
      split at h
      · rename_i hk'
        cases h
        refine ⟨List.mem_cons_self, hk'.1, List.forall_mem_cons.mpr ⟨fun _ => List.le_refl _, ?_⟩⟩
        exact fun k'' hk'' hle' =>
          List.le_trans (List.le_of_lt hk'.2) (hleast k'' hk'' hle')
      · rename_i hk'
        cases h
        refine ⟨List.mem_cons_of_mem _ hmem, hle, List.forall_mem_cons.mpr ⟨fun hle' => ?_, hleast⟩⟩
        exact fun hlt => hk' ⟨hle', hlt⟩

/-- **The lower bound finds the prefix.** -/
theorem exists_isPrefix_iff (key : List α) (ks : List (List α)) :
    (∃ k ∈ ks, key <+: k) ↔ ∃ k, lowerBound key ks = some k ∧ key <+: k := by
  constructor
  · rintro ⟨k, hk, hprefix⟩
    cases h : lowerBound key ks with
    | none => exact absurd (lowerBound_none h k hk) (List.IsPrefix.le hprefix)
    | some least =>
      obtain ⟨-, hle, hleast⟩ := lowerBound_some h
      exact ⟨least, rfl,
        isPrefix_of_between hprefix hle (hleast k hk (List.IsPrefix.le hprefix))⟩
  · rintro ⟨k, h, hprefix⟩
    exact ⟨k, (lowerBound_some h).1, hprefix⟩

end PrefixSearch
