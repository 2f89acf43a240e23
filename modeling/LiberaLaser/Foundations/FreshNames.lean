import Mathlib.Data.List.Nodup
import Mathlib.Data.List.Perm.Subperm

/-!
# Fresh names

A name is taken from a numbered family by trying one number after another until one is not in use.
Where the numbers that are tried give different names, no more tries are needed than there are names
in use, and one (`exists_firstFree`).
-/

namespace FreshNames

variable {α : Type*} [DecidableEq α] {name : ℕ → α} {used : List α} {tries n : ℕ} {a : α}

/-- The first free name from a number on, within some tries. -/
def firstFree (name : ℕ → α) (used : List α) : ℕ → ℕ → Option α
  | 0, _ => none
  | tries + 1, n => if name n ∈ used then firstFree name used tries (n + 1) else some (name n)

/-- The name that is found is free, and all before it are in use. -/
theorem firstFree_eq_some (h : firstFree name used tries n = some a) :
    a ∉ used ∧ ∃ k < tries, a = name (n + k) ∧ ∀ j < k, name (n + j) ∈ used := by
  induction tries generalizing n with
  | zero => cases h
  | succ tries ih =>
    rw [firstFree] at h
    split at h
    · rename_i htaken
      obtain ⟨hfree, k, hk, rfl, hbefore⟩ := ih h
      have hnumber (j : ℕ) : n + 1 + j = n + (j + 1) := by omega
      refine ⟨hfree, k + 1, by omega, by rw [hnumber], fun j hj => ?_⟩
      cases j with
      | zero => exact htaken
      | succ j =>
        rw [← hnumber]
        exact hbefore j (by omega)
    · rename_i hfree
      cases h
      exact ⟨hfree, 0, by omega, rfl, by simp⟩

theorem firstFree_eq_none (h : firstFree name used tries n = none) {k : ℕ} (hk : k < tries) :
    name (n + k) ∈ used := by
  induction tries generalizing n k with
  | zero => omega
  | succ tries ih =>
    rw [firstFree] at h
    split at h
    swap
    · cases h
    rename_i htaken
    cases k with
    | zero => exact htaken
    | succ k =>
      have hnumber : n + (k + 1) = n + 1 + k := by omega
      rw [hnumber]
      exact ih h (by omega)

/-- **A free name is found** within one more try than there are names in use. -/
theorem exists_firstFree (hinj : ∀ j < tries, ∀ k < tries, name (n + j) = name (n + k) → j = k)
    (htries : used.length < tries) : ∃ a, firstFree name used tries n = some a := by
  refine Option.ne_none_iff_exists'.mp fun hnone => ?_
  have hnodup : ((List.range tries).map fun k => name (n + k)).Nodup :=
    List.Nodup.map_on (fun j hj k hk h => hinj j (List.mem_range.mp hj) k (List.mem_range.mp hk) h)
      List.nodup_range
  have hsub : ((List.range tries).map fun k => name (n + k)) ⊆ used := by
    intro a ha
    obtain ⟨k, hk, rfl⟩ := List.mem_map.mp ha
    exact firstFree_eq_none hnone (List.mem_range.mp hk)
  have hlength := (hnodup.subperm hsub).length_le
  rw [List.length_map, List.length_range] at hlength
  omega

end FreshNames
