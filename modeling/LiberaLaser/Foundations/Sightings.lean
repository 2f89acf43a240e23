import LiberaLaser.Foundations.Table
import Mathlib.Order.Lattice

/-!
# Tables of sightings

Something that announces itself now and then is kept in a table with the time it was last seen. An
entry leaves the table when its age is checked and found to be too high. The limit of a check may
be a different time for each key.
-/

namespace Sightings

/-- The last value seen under each key, and when that was. -/
abbrev Seen (κ α τ : Type*) := Table κ (α × τ)

variable {κ α τ : Type*} [DecidableEq κ] {seen : Seen κ α τ} {key key' : κ} {value value' : α}
  {time time' : τ}

/-- A key is seen, with a value, at a time. -/
def Seen.see (seen : Seen κ α τ) (key : κ) (value : α) (time : τ) : Seen κ α τ :=
  AList.insert key (value, time) seen

theorem lookup_see :
    (seen.see key value time).lookup key' = some (value', time') ↔
      (key = key' ∧ value = value' ∧ time = time') ∨
        seen.lookup key' = some (value', time') ∧ key ≠ key' := by
  rw [Seen.see, Table.lookup_insert_eq_some, Prod.mk.injEq, eq_comm, ne_comm, and_comm (b := _ ≠ _)]

/-- The values that were seen, in some order. -/
def Seen.values {κ : Type*} (seen : Seen κ α τ) : List α := seen.entries.map fun e => e.2.1

theorem mem_values : value ∈ seen.values ↔ ∃ key time, seen.lookup key = some (value, time) := by
  rw [Seen.values, List.mem_map]
  constructor
  · rintro ⟨⟨key, value', time⟩, he, rfl⟩
    exact ⟨key, time, AList.mem_lookup_iff.mpr he⟩
  · rintro ⟨key, time, h⟩
    exact ⟨⟨key, value, time⟩, AList.mem_lookup_iff.mp h, rfl⟩

/-- Where a value tells its key, no two values have one key. -/
theorem nodup_values {keyOf : α → κ} (h : seen.Forall fun key e => keyOf e.1 = key) :
    (seen.values.map keyOf).Nodup := by
  have hkeys : seen.values.map keyOf = seen.entries.map Sigma.fst := by
    rw [Seen.values, List.map_map]
    exact List.map_congr_left fun e he => h e.1 e.2 (AList.mem_lookup_iff.mpr he)
  rw [hkeys]
  exact seen.nodupKeys

variable [LinearOrder τ] {limit : κ → τ}

/-- What was last seen before its limit is dropped. -/
def Seen.prune (seen : Seen κ α τ) (limit : κ → τ) : Seen κ α τ :=
  seen.filter fun e => !decide (e.2.2 < limit e.1)

theorem lookup_prune :
    (seen.prune limit).lookup key = some (value, time) ↔
      seen.lookup key = some (value, time) ∧ limit key ≤ time := by
  rw [Seen.prune, Table.lookup_filter_eq_some]
  simp

theorem forall_prune {P : κ → α × τ → Prop} (h : seen.Forall P) : (seen.prune limit).Forall P :=
  fun _ _ hentry => h _ _ (lookup_prune.mp hentry).1

end Sightings
