import Mathlib.Computability.RegularExpressions

/-!
# Regular expressions as grammars

What the words of common patterns are made of: patterns for one symbol of a class, their
repetitions, and words with separators between them.
-/

namespace RegularExpression

variable {α : Type*} {p q s : RegularExpression α} {S T : Set α} {w : List α}

/-- The pattern matches single symbols, those of a class. -/
def MatchesOne (p : RegularExpression α) (S : Set α) : Prop :=
  ∀ w, w ∈ p.matches' ↔ ∃ a ∈ S, w = [a]

theorem MatchesOne.congr (h : p.MatchesOne S) (hst : ∀ a, a ∈ S ↔ a ∈ T) : p.MatchesOne T := by
  rwa [← Set.ext hst]

theorem MatchesOne.add (hp : p.MatchesOne S) (hq : q.MatchesOne T) :
    (p + q).MatchesOne (S ∪ T) := by
  intro w
  rw [matches'_add, Language.mem_add, hp w, hq w]
  constructor
  · rintro (⟨a, ha, hw⟩ | ⟨a, ha, hw⟩)
    · exact ⟨a, .inl ha, hw⟩
    · exact ⟨a, .inr ha, hw⟩
  · rintro ⟨a, ha | ha, hw⟩
    · exact .inl ⟨a, ha, hw⟩
    · exact .inr ⟨a, ha, hw⟩

/-- Any one of some symbols. -/
theorem matchesOne_foldr (choices : List α) :
    (choices.foldr (fun c p => char c + p) 0).MatchesOne {a | a ∈ choices} := by
  induction choices with
  | nil =>
    intro w
    rw [List.foldr_nil, matches'_zero]
    exact ⟨fun h => absurd h (Language.notMem_zero w), fun ⟨a, ha, _⟩ => absurd ha List.not_mem_nil⟩
  | cons c choices ih =>
    intro w
    rw [List.foldr_cons, matches'_add, Language.mem_add, ih w, matches'_char]
    simp only [Set.mem_ofPred_eq, List.mem_cons, exists_eq_or_imp]
    exact Iff.rfl

theorem MatchesOne.mem_star_iff (h : p.MatchesOne S) :
    w ∈ p.star.matches' ↔ ∀ a ∈ w, a ∈ S := by
  rw [matches'_star, Language.mem_kstar]
  constructor
  · rintro ⟨ws, rfl, hws⟩ a ha
    obtain ⟨v, hv, hav⟩ := List.mem_flatten.mp ha
    obtain ⟨b, hb, rfl⟩ := (h v).mp (hws v hv)
    rw [List.mem_singleton.mp hav]
    exact hb
  · intro hw
    refine ⟨w.map fun a => [a], ?_, fun v hv => ?_⟩
    · rw [← List.flatMap_def, List.flatMap_singleton']
    · obtain ⟨a, ha, rfl⟩ := List.mem_map.mp hv
      exact (h [a]).mpr ⟨a, hw a ha, rfl⟩

theorem MatchesOne.mem_comp_star_iff (h : p.MatchesOne S) (hq : q.MatchesOne T) :
    w ∈ (p * q.star).matches' ↔ ∃ a v, w = a :: v ∧ a ∈ S ∧ ∀ b ∈ v, b ∈ T := by
  rw [matches'_mul, Language.mem_mul]
  constructor
  · rintro ⟨u, hu, v, hv, rfl⟩
    obtain ⟨a, ha, rfl⟩ := (h u).mp hu
    exact ⟨a, v, rfl, ha, hq.mem_star_iff.mp hv⟩
  · rintro ⟨a, v, rfl, ha, hv⟩
    exact ⟨[a], (h [a]).mpr ⟨a, ha, rfl⟩, v, hq.mem_star_iff.mpr hv, rfl⟩

/-- Words of one pattern with a separator before each but the first. -/
theorem MatchesOne.mem_separated (h : s.MatchesOne S)
    (hw : w ∈ (p * (s * p).star).matches') :
    ∃ (first : List α) (rest : List (α × List α)), first ∈ p.matches' ∧
      (∀ r ∈ rest, r.1 ∈ S ∧ r.2 ∈ p.matches') ∧
      w = first ++ rest.flatMap fun r => r.1 :: r.2 := by
  rw [matches'_mul, Language.mem_mul] at hw
  obtain ⟨first, hfirst, tail, htail, rfl⟩ := hw
  rw [matches'_star, Language.mem_kstar] at htail
  obtain ⟨ws, rfl, hws⟩ := htail
  suffices hrest : ∃ rest : List (α × List α), (∀ r ∈ rest, r.1 ∈ S ∧ r.2 ∈ p.matches') ∧
      ws.flatten = rest.flatMap fun r => r.1 :: r.2 by
    obtain ⟨rest, hrest, hflatten⟩ := hrest
    exact ⟨first, rest, hfirst, hrest, by rw [hflatten]⟩
  induction ws with
  | nil => exact ⟨[], fun _ hr => absurd hr List.not_mem_nil, rfl⟩
  | cons v ws ih =>
    obtain ⟨hv, hws⟩ := List.forall_mem_cons.mp hws
    obtain ⟨rest, hrest, hflatten⟩ := ih hws
    rw [matches'_mul, Language.mem_mul] at hv
    obtain ⟨u, hu, v', hv', rfl⟩ := hv
    obtain ⟨a, ha, rfl⟩ := (h u).mp hu
    refine ⟨(a, v') :: rest, List.forall_mem_cons.mpr ⟨⟨ha, hv'⟩, hrest⟩, ?_⟩
    rw [List.flatten_cons, List.flatMap_cons, hflatten]
    rfl

end RegularExpression

/-- A separator before each word but the first. -/
theorem List.intercalate_singleton_cons {α : Type*} (a : α) (w : List α) (ws : List (List α)) :
    [a].intercalate (w :: ws) = w ++ ws.flatMap (a :: ·) := by
  induction ws generalizing w with
  | nil => rw [List.intercalate_singleton, List.flatMap_nil, List.append_nil]
  | cons v ws ih =>
    rw [List.intercalate_cons_cons, ih, List.flatMap_cons]
    simp
