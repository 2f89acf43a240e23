import LiberaLaser.Foundations.Traces
import Mathlib.Algebra.Order.Group.Int
import Mathlib.Data.Fintype.Card
import Mathlib.Data.List.Induction

/-!
# Slots and the count of those that are occupied

A slot is occupied and released again, and all slots may be cleared at once. A trace of such events
is lawful when only free slots are occupied and only occupied ones are released; then every release
has an occupation of its own (`Lawful.occupied_before`), and counting the events up and down counts
the occupied slots (`Lawful.count_eq`). A table that marks its free slots, with a counter beside it,
tracks a trace (`Tracks`) as long as each of its changes is one of the events.
-/

namespace Slots

open Traces

variable {ι : Type*}

section Occupied

variable [Fintype ι] {τ : Type*} [DecidableEq τ] {free : τ} {table : ι → τ} {i : ι}

/-- The slots of a table that do not have the mark of a free slot. -/
def occupied (free : τ) (table : ι → τ) : Finset ι :=
  Finset.univ.filter fun i => table i ≠ free

@[simp] theorem mem_occupied : i ∈ occupied free table ↔ table i ≠ free := by
  simp [occupied]

theorem occupied_free : occupied free (fun _ : ι => free) = ∅ := by
  ext j
  simp

end Occupied

inductive Event (ι : Type*)
  | occupy (i : ι)
  | release (i : ι)
  | clear

/-- The counter after an event. -/
def tally (n : ℤ) : Event ι → ℤ
  | .occupy _ => n + 1
  | .release _ => n - 1
  | .clear => 0

/-- The events counted up and down. -/
def count (tr : List (Event ι)) : ℤ := tr.foldl tally 0

@[simp] theorem count_concat (tr : List (Event ι)) (e : Event ι) :
    count (tr ++ [e]) = tally (count tr) e := by
  rw [count, List.foldl_append]
  rfl

variable [DecidableEq ι]

/-- The occupied slots after an event. -/
def next (held : Finset ι) : Event ι → Finset ι
  | .occupy i => insert i held
  | .release i => held.erase i
  | .clear => ∅

/-- The occupied slots after some events. -/
def held (tr : List (Event ι)) : Finset ι := tr.foldl next ∅

/-- A free slot is occupied, an occupied one is released. -/
def Fits (held : Finset ι) : Event ι → Prop
  | .occupy i => i ∉ held
  | .release i => i ∈ held
  | .clear => True

def Lawful : List (Event ι) → Prop := Always fun before e => Fits (held before) e

variable {tr : List (Event ι)} {i : ι}

@[simp] theorem held_nil : held ([] : List (Event ι)) = ∅ := rfl

@[simp] theorem held_concat (e : Event ι) : held (tr ++ [e]) = next (held tr) e := by
  rw [held, List.foldl_append]
  rfl

/-- An occupied slot was occupied by an event, after which it was not released. -/
theorem mem_held (h : i ∈ held tr) : ∃ earlier between, tr = earlier ++ .occupy i :: between ∧
    .release i ∉ between ∧ .clear ∉ between := by
  induction tr using List.reverseRecOn with
  | nil => exact absurd h (Finset.notMem_empty i)
  | append_singleton tr e ih =>
    -- a slot that was occupied before, and is not the one that the event is about
    have hbefore (hi : i ∈ held tr) (hrelease : e ≠ .release i) (hclear : e ≠ .clear) :
        ∃ earlier between, tr ++ [e] = earlier ++ .occupy i :: between ∧
          .release i ∉ between ∧ .clear ∉ between := by
      obtain ⟨earlier, between, rfl, hreleased, hcleared⟩ := ih hi
      refine ⟨earlier, between ++ [e], by simp, ?_, ?_⟩
      · simp [hreleased, hrelease.symm]
      · simp [hcleared, hclear.symm]
    rw [held_concat] at h
    cases e with
    | occupy j =>
      rcases Finset.mem_insert.mp h with rfl | h
      · exact ⟨tr, [], rfl, List.not_mem_nil, List.not_mem_nil⟩
      · exact hbefore h nofun nofun
    | release j =>
      obtain ⟨hne, h⟩ := Finset.mem_erase.mp h
      exact hbefore h (fun heq => hne (Event.release.inj heq).symm) nofun
    | clear => exact absurd h (Finset.notMem_empty i)

namespace Lawful

theorem nil : Lawful ([] : List (Event ι)) := always_nil

theorem concat (h : Lawful tr) {e : Event ι} (he : Fits (held tr) e) : Lawful (tr ++ [e]) :=
  Always.concat h he

theorem of_concat {e : Event ι} (h : Lawful (tr ++ [e])) : Lawful tr ∧ Fits (held tr) e := by
  refine ⟨fun before e' after heq => h before e' (after ++ [e]) (by simp [heq]), h tr e [] rfl⟩

/-- **The count is the number of occupied slots.** -/
theorem count_eq (h : Lawful tr) : count tr = (held tr).card := by
  induction tr using List.reverseRecOn with
  | nil => rfl
  | append_singleton tr e ih =>
    obtain ⟨htr, he⟩ := h.of_concat
    have hcount := ih htr
    rw [held_concat, count_concat, hcount]
    cases e with
    | occupy i =>
      rw [next, tally, Finset.card_insert_of_notMem he]
      exact (Int.natCast_succ _).symm
    | release i =>
      have hcard : ((held tr).erase i).card + 1 = (held tr).card := Finset.card_erase_add_one he
      rw [next, tally]
      omega
    | clear => rfl

/-- **Every release has an occupation of its own.** -/
theorem occupied_before (h : Lawful tr) {before after : List (Event ι)}
    (htr : tr = before ++ .release i :: after) :
    ∃ earlier between, before = earlier ++ .occupy i :: between ∧
      .release i ∉ between ∧ .clear ∉ between :=
  mem_held (h before (.release i) after htr)

theorem of_prefix (h : Lawful tr) {before : List (Event ι)} (hbefore : before <+: tr) :
    Lawful before := by
  obtain ⟨after, rfl⟩ := hbefore
  exact fun earlier e between heq => h earlier e (between ++ after) (by simp [heq])

end Lawful

/-! ## Tables with a counter -/

section Tables

variable [Fintype ι] {τ : Type*} [DecidableEq τ]

/-- The table and the counter are where a lawful trace has taken them. -/
structure Tracks (free : τ) (tr : List (Event ι)) (table : ι → τ) (counter : ℤ) : Prop where
  lawful : Lawful tr
  occupied_eq : occupied free table = held tr
  counter_eq : counter = count tr

variable {free t : τ} {table : ι → τ} {counter : ℤ}

theorem occupied_update (ht : t ≠ free) :
    occupied free (Function.update table i t) = insert i (occupied free table) := by
  ext j
  by_cases hj : j = i
  · simp [hj, ht]
  · simp [hj]

theorem occupied_update_free :
    occupied free (Function.update table i free) = (occupied free table).erase i := by
  ext j
  by_cases hj : j = i
  · simp [hj]
  · simp [hj]

namespace Tracks

theorem card_eq (h : Tracks free tr table counter) : counter = (occupied free table).card := by
  rw [h.occupied_eq, ← h.lawful.count_eq, h.counter_eq]

theorem start : Tracks free [] (fun _ : ι => free) 0 := ⟨.nil, occupied_free, rfl⟩

theorem clear (h : Tracks free tr table counter) :
    Tracks free (tr ++ [.clear]) (fun _ => free) 0 where
  lawful := h.lawful.concat trivial
  occupied_eq := by rw [occupied_free, held_concat, next]
  counter_eq := by rw [count_concat, tally]

theorem occupy (h : Tracks free tr table counter) (hi : table i = free) (ht : t ≠ free) :
    Tracks free (tr ++ [.occupy i]) (Function.update table i t) (counter + 1) where
  lawful := h.lawful.concat (by rw [Fits, ← h.occupied_eq, mem_occupied]; simpa using hi)
  occupied_eq := by rw [occupied_update ht, h.occupied_eq, held_concat, next]
  counter_eq := by rw [count_concat, tally, h.counter_eq]

/-- An occupied slot is occupied again. -/
theorem overwrite (h : Tracks free tr table counter) (hi : table i ≠ free) (ht : t ≠ free) :
    Tracks free tr (Function.update table i t) counter where
  lawful := h.lawful
  occupied_eq := by
    rw [occupied_update ht, Finset.insert_eq_of_mem (mem_occupied.mpr hi), h.occupied_eq]
  counter_eq := h.counter_eq

/-- While a slot is occupied the counter is positive. -/
theorem counter_pos (h : Tracks free tr table counter) (hi : table i ≠ free) : 0 < counter := by
  rw [h.card_eq]
  exact Int.natCast_pos.mpr (Finset.card_pos.mpr ⟨i, mem_occupied.mpr hi⟩)

theorem release (h : Tracks free tr table counter) (hi : table i ≠ free) :
    Tracks free (tr ++ [.release i]) (Function.update table i free) (counter - 1) where
  lawful := h.lawful.concat (by rw [Fits, ← h.occupied_eq]; exact mem_occupied.mpr hi)
  occupied_eq := by rw [occupied_update_free, h.occupied_eq, held_concat, next]
  counter_eq := by rw [count_concat, tally, h.counter_eq]

end Tracks

end Tables

end Slots
