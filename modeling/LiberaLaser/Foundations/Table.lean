import Mathlib.Data.List.AList
import Mathlib.Data.List.TakeWhile

/-!
# Tables

A table is an association list with distinct keys: the maps of a program, and the threads with the
calls they are in. What holds of every entry of a table holds after an entry is set or erased.
-/

/-- A finite map. -/
abbrev Table (κ α : Type*) := AList fun _ : κ => α

namespace Table

variable {κ α : Type*} [DecidableEq κ] {t : Table κ α} {k k' : κ} {a a' : α}

theorem lookup_insert :
    (AList.insert k a t).lookup k' = if k' = k then some a else t.lookup k' := by
  split
  · rename_i h
    rw [h, AList.lookup_insert]
  · rename_i h
    exact AList.lookup_insert_ne h

theorem lookup_erase : (t.erase k).lookup k' = if k' = k then none else t.lookup k' := by
  split
  · rename_i h
    rw [h, AList.lookup_erase]
  · rename_i h
    exact AList.lookup_erase_ne h

theorem lookup_insert_eq_some :
    (AList.insert k a t).lookup k' = some a' ↔
      k' = k ∧ a = a' ∨ k' ≠ k ∧ t.lookup k' = some a' := by
  rw [lookup_insert]
  split
  · rename_i h
    simp [h]
  · rename_i h
    simp [h]

theorem lookup_erase_eq_some :
    (t.erase k).lookup k' = some a ↔ k' ≠ k ∧ t.lookup k' = some a := by
  rw [lookup_erase]
  split
  · rename_i h
    simp [h]
  · rename_i h
    simp [h]

/-- Entries with distinct keys, set one after the other. -/
theorem lookup_foldl_insert {entries : List (Sigma fun _ : κ => α)}
    (hkeys : (entries.map Sigma.fst).Nodup) (k : κ) :
    (entries.foldl (fun t e => AList.insert e.1 e.2 t) t).lookup k =
      ((entries.find? (·.1 = k)).map Sigma.snd).or (t.lookup k) := by
  induction entries generalizing t with
  | nil => rfl
  | cons entry entries ih =>
    obtain ⟨hentry, hkeys⟩ := List.nodup_cons.mp hkeys
    rw [List.foldl_cons, ih hkeys, lookup_insert, List.find?_cons]
    by_cases hk : entry.1 = k
    · have hnone : entries.find? (·.1 = k) = none := by
        refine List.find?_eq_none.mpr fun e he heq => hentry ?_
        rw [hk, ← of_decide_eq_true heq]
        exact List.mem_map_of_mem he
      simp [hk, hnone]
    · simp [hk, Ne.symm hk]

/-- The entries of a table, set one after the other in any order, give the table. -/
theorem lookup_foldl_perm {entries : List (Sigma fun _ : κ => α)} (h : entries.Perm t.entries)
    (k : κ) :
    (entries.foldl (fun t e => AList.insert e.1 e.2 t) (∅ : Table κ α)).lookup k =
      t.lookup k := by
  have hmem (e : Sigma fun _ : κ => α) : e ∈ entries ↔ t.lookup e.1 = some e.2 :=
    h.mem_iff.trans AList.mem_lookup_iff.symm
  rw [lookup_foldl_insert ((h.map _).nodup_iff.mpr t.nodupKeys), AList.lookup_empty,
    Option.or_none]
  cases hfind : entries.find? (·.1 = k) with
  | none =>
    cases hlookup : t.lookup k with
    | none => rfl
    | some a =>
      exact absurd (decide_eq_true rfl) (List.find?_eq_none.mp hfind ⟨k, a⟩ ((hmem _).mpr hlookup))
  | some e =>
    have hk : e.1 = k := by simpa using List.find?_some hfind
    rw [← hk, (hmem e).mp (List.mem_of_find?_eq_some hfind)]
    rfl

/-- The table without the first entries, as long as they satisfy a predicate. -/
def dropWhile (p : κ × α → Bool) (t : Table κ α) : Table κ α :=
  ⟨t.entries.dropWhile fun e => p (e.1, e.2),
    t.nodupKeys.sublist (List.dropWhile_sublist _)⟩

/-- An entry that does not satisfy the predicate stays. -/
theorem lookup_dropWhile (p : κ × α → Bool) (h : t.lookup k = some a) (hp : p (k, a) = false) :
    (t.dropWhile p).lookup k = some a := by
  have hmem : (⟨k, a⟩ : Sigma fun _ : κ => α) ∈ t.entries := AList.mem_lookup_iff.mp h
  rw [← List.takeWhile_append_dropWhile (p := fun e => p (e.1, e.2)) (l := t.entries)] at hmem
  refine AList.mem_lookup_iff.mpr ((List.mem_append.mp hmem).resolve_left fun hdropped => ?_)
  have hdrop := List.mem_takeWhile_imp hdropped
  rw [hp] at hdrop
  cases hdrop

theorem lookup_of_dropWhile {p : κ × α → Bool} (h : (t.dropWhile p).lookup k = some a) :
    t.lookup k = some a :=
  AList.mem_lookup_iff.mpr ((List.dropWhile_sublist _).mem (AList.mem_lookup_iff.mp h))

/-- The entries that satisfy a predicate. -/
def filter (p : κ × α → Bool) (t : Table κ α) : Table κ α :=
  ⟨t.entries.filter fun e => p (e.1, e.2), t.nodupKeys.sublist List.filter_sublist⟩

theorem lookup_of_filter {p : κ × α → Bool} (h : (t.filter p).lookup k = some a) :
    t.lookup k = some a :=
  AList.mem_lookup_iff.mpr (List.filter_sublist.mem (AList.mem_lookup_iff.mp h))

theorem lookup_filter_eq_some {p : κ × α → Bool} :
    (t.filter p).lookup k = some a ↔ t.lookup k = some a ∧ p (k, a) = true := by
  constructor
  · intro h
    have hmem : (⟨k, a⟩ : Sigma fun _ : κ => α) ∈ (t.filter p).entries := AList.mem_lookup_iff.mp h
    exact ⟨lookup_of_filter h, (List.mem_filter.mp hmem).2⟩
  · rintro ⟨h, hp⟩
    exact AList.mem_lookup_iff.mpr (List.mem_filter.mpr ⟨AList.mem_lookup_iff.mp h, hp⟩)

section Forall

variable {P : κ → α → Prop}

/-- Every entry satisfies a predicate. -/
def Forall (P : κ → α → Prop) (t : Table κ α) : Prop := ∀ k a, t.lookup k = some a → P k a

theorem forall_empty : Forall P ∅ := by
  intro k a h
  rw [AList.lookup_empty] at h
  cases h

theorem Forall.insert (h : Forall P t) (hp : P k a) : Forall P (AList.insert k a t) := by
  intro k' a' h'
  rcases lookup_insert_eq_some.mp h' with ⟨rfl, rfl⟩ | ⟨-, h'⟩
  · exact hp
  · exact h k' a' h'

theorem Forall.erase (h : Forall P t) (k : κ) : Forall P (t.erase k) :=
  fun k' a' h' => h k' a' (lookup_erase_eq_some.mp h').2

theorem Forall.mono {Q : κ → α → Prop} (h : Forall P t)
    (hpq : ∀ k a, t.lookup k = some a → P k a → Q k a) : Forall Q t :=
  fun k a hk => hpq k a hk (h k a hk)

instance [∀ k a, Decidable (P k a)] (t : Table κ α) : Decidable (Forall P t) :=
  decidable_of_iff (∀ e ∈ t.entries, P e.1 e.2)
    ⟨fun h k a hk => h ⟨k, a⟩ (AList.mem_lookup_iff.mp hk),
      fun h e he => h e.1 e.2 (AList.mem_lookup_iff.mpr he)⟩

end Forall

end Table
