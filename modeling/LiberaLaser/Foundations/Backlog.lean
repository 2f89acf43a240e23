import Mathlib.Algebra.Group.Action.Defs
import Mathlib.Algebra.GroupWithZero.Nat
import Mathlib.Algebra.Order.BigOperators.Group.List
import Mathlib.Algebra.Order.Group.Nat

/-!
# Queues that are worked off at the front

A consumer changes or drops the items at the front of a queue, and a producer appends an item while
the items held weigh no more than a budget. `Advances` is what the consumer can do, and whatever
holds of every item behind the front survives it. Where each of these items has a least weight, the
budget bounds the length of the queue (`length_le_of_weight_le`).
-/

namespace Backlog

variable {α : Type*}

/-- The queue `l'` is `l` with some items at its front dropped, and the new front changed. -/
structure Advances (l l' : List α) : Prop where
  tail_suffix : l'.tail <:+ l.tail
  length_le : l'.length ≤ l.length

namespace Advances

theorem refl (l : List α) : Advances l l := ⟨List.suffix_rfl, le_rfl⟩

theorem trans {l l' l'' : List α} (h : Advances l l') (h' : Advances l' l'') : Advances l l'' :=
  ⟨h'.tail_suffix.trans h.tail_suffix, h'.length_le.trans h.length_le⟩

/-- Items are dropped at the front. -/
theorem of_suffix {l l' : List α} (h : l' <:+ l) : Advances l l' := by
  refine ⟨?_, h.length_le⟩
  obtain ⟨dropped, rfl⟩ := h
  cases dropped with
  | nil => exact List.suffix_rfl
  | cons x dropped => exact (List.tail_suffix l').trans (List.suffix_append dropped l')

/-- The front is changed. -/
theorem front (x y : α) (rest : List α) : Advances (x :: rest) (y :: rest) :=
  ⟨List.suffix_rfl, le_rfl⟩

theorem drop_front (x : α) (rest : List α) : Advances (x :: rest) rest :=
  of_suffix (List.suffix_cons x rest)

end Advances

/-- Every item behind the front has the property. -/
def Behind (P : α → Prop) (l : List α) : Prop :=
  ∀ x ∈ l.tail, P x

variable {P : α → Prop}

theorem Behind.nil : Behind P [] := fun _ hx => absurd hx List.not_mem_nil

theorem Behind.advances {l l' : List α} (h : Behind P l) (ha : Advances l l') : Behind P l' :=
  fun x hx => h x (ha.tail_suffix.subset hx)

theorem Behind.concat {l : List α} (h : Behind P l) {x : α} (hx : P x) : Behind P (l ++ [x]) := by
  cases l with
  | nil => exact fun y hy => absurd hy List.not_mem_nil
  | cons front rest =>
    intro y hy
    rcases List.mem_append.mp hy with hy | hy
    · exact h y hy
    · exact List.mem_singleton.mp hy ▸ hx

/-- **A budget bounds the queue**: the front may weigh nothing, but nothing behind it does. -/
theorem length_le_of_weight_le {weight : α → ℕ} {least budget : ℕ} (hleast : 0 < least)
    {l : List α} (hbehind : Behind (fun x => least ≤ weight x) l)
    (hbudget : (l.map weight).sum ≤ budget) : l.length ≤ budget / least + 1 := by
  cases l with
  | nil => exact Nat.zero_le _
  | cons front rest =>
    have hrest : (rest.map weight).length * least ≤ (rest.map weight).sum := by
      rw [← smul_eq_mul]
      refine List.card_nsmul_le_sum _ _ fun n hn => ?_
      obtain ⟨x, hx, rfl⟩ := List.mem_map.mp hn
      exact hbehind x hx
    rw [List.length_map] at hrest
    rw [List.map_cons, List.sum_cons] at hbudget
    have hlength : rest.length ≤ budget / least := by
      rw [Nat.le_div_iff_mul_le hleast]
      omega
    rw [List.length_cons]
    omega

end Backlog
