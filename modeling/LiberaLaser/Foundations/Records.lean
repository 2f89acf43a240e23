import Mathlib.Data.List.Sigma
import Mathlib.Logic.Function.Basic

/-!
# Records and assignments

A record has a value for each of its members. Values are assigned to members one after another, and
of those for one member the last one stays.
-/

namespace Record

variable {ι : Type*} [DecidableEq ι] {β : ι → Type*}

/-- The record after some assignments. -/
def assign (record : (i : ι) → β i) (assignments : List (Sigma β)) : (i : ι) → β i :=
  assignments.foldl (fun r a => Function.update r a.1 a.2) record

/-- The last value that is assigned to a member. -/
def assigned (assignments : List (Sigma β)) (i : ι) : Option (β i) :=
  assignments.reverse.dlookup i

@[simp] theorem assign_nil (record : (i : ι) → β i) : assign record [] = record := rfl

theorem assign_cons (record : (i : ι) → β i) (a : Sigma β) (assignments : List (Sigma β)) :
    assign record (a :: assignments) = assign (Function.update record a.1 a.2) assignments := rfl

theorem assign_apply (record : (i : ι) → β i) (assignments : List (Sigma β)) (i : ι) :
    assign record assignments i = (assigned assignments i).getD (record i) := by
  induction assignments generalizing record with
  | nil => rfl
  | cons a assignments ih =>
    rw [assign_cons, ih, assigned, assigned, List.reverse_cons, List.dlookup_append]
    cases List.dlookup i assignments.reverse with
    | some v => rfl
    | none =>
      rw [Option.getD_none, Option.none_or]
      by_cases h : i = a.1
      · subst h
        rw [Function.update_self, List.dlookup_cons_eq, Option.getD_some]
      · rw [Function.update_of_ne h, List.dlookup_cons_ne _ _ h, List.dlookup_nil, Option.getD_none]

/-- A member that occurs among the assignments has the last of its values. -/
theorem assigned_eq_some {assignments : List (Sigma β)} {i : ι}
    (h : ∃ a ∈ assignments, a.1 = i) (record : (i : ι) → β i) :
    assigned assignments i = some (assign record assignments i) := by
  obtain ⟨a, ha, rfl⟩ := h
  have hkey : a.1 ∈ assignments.reverse.keys := by
    rw [List.keys, List.mem_map]
    exact ⟨a, List.mem_reverse.mpr ha, rfl⟩
  obtain ⟨v, hv⟩ := Option.isSome_iff_exists.mp (List.dlookup_isSome.mpr hkey)
  rw [assign_apply, assigned, hv, Option.getD_some]

end Record
