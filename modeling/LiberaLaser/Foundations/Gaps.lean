import LiberaLaser.Foundations.Runs
import Mathlib.Data.List.Induction

/-!
# What stands between two marks of a trace

A trace holds marks, fillers and breaks. `Joined R` says of every two successive marks with only
fillers between them, and no break, that `R` holds of the two marks and the fillers. A trace that
grows at its end is judged as it grows: `awaiting` is its last mark with the fillers behind it,
unless a break has come since, and a new mark is judged against it (`joined_concat`).
-/

namespace Gaps

variable {α : Type*}

/-- What an element of a trace is. -/
inductive Kind
  | mark
  | filler
  | cut
  deriving DecidableEq

/-- The last mark and the fillers behind it, after one more element. -/
def extend (kind : α → Kind) (awaiting : Option (α × List α)) (x : α) : Option (α × List α) :=
  match kind x with
  | .mark => some (x, [])
  | .filler => awaiting.map fun w => (w.1, w.2 ++ [x])
  | .cut => none

/-- The last mark and the fillers behind it, unless a break has come since. -/
def awaiting (kind : α → Kind) (l : List α) : Option (α × List α) := l.foldl (extend kind) none

/-- `R` holds of every two successive marks and the fillers between them. -/
def Joined (kind : α → Kind) (R : α → List α → α → Prop) (l : List α) : Prop :=
  ∀ before p between q after, l = before ++ p :: (between ++ q :: after) → kind p = .mark →
    (∀ x ∈ between, kind x = .filler) → kind q = .mark → R p between q

variable {kind : α → Kind} {R : α → List α → α → Prop} {l o : List α}

@[simp] theorem awaiting_nil : awaiting kind [] = none := rfl

theorem awaiting_concat (l : List α) (x : α) :
    awaiting kind (l ++ [x]) = extend kind (awaiting kind l) x := by
  simp [awaiting, List.foldl_append]

/-- What is awaiting is the end of the trace. -/
theorem awaiting_eq_some {p : α} {between : List α} :
    awaiting kind l = some (p, between) ↔
      ∃ before, l = before ++ p :: between ∧ kind p = .mark ∧ ∀ x ∈ between, kind x = .filler := by
  induction l using List.reverseRecOn generalizing p between with
  | nil => simp
  | append_singleton l x ih =>
    rw [awaiting_concat]
    constructor
    · intro h
      cases hx : kind x with
      | mark =>
        simp only [extend, hx, Option.some.injEq, Prod.mk.injEq] at h
        obtain ⟨rfl, rfl⟩ := h
        exact ⟨l, rfl, hx, by simp⟩
      | filler =>
        simp only [extend, hx, Option.map_eq_some_iff, Prod.mk.injEq] at h
        obtain ⟨⟨p', between'⟩, hw, rfl, rfl⟩ := h
        obtain ⟨before, rfl, hp, hfill⟩ := ih.mp hw
        refine ⟨before, by simp, hp, fun y hy => ?_⟩
        rcases List.mem_append.mp hy with hy | hy
        · exact hfill y hy
        · exact List.mem_singleton.mp hy ▸ hx
      | cut => simp only [extend, hx, reduceCtorEq] at h
    · rintro ⟨before, hl, hp, hfill⟩
      rcases Runs.concat_eq_append_cons hl with ⟨rfl, rfl, rfl⟩ | ⟨between', rfl, rfl⟩
      · simp only [extend, hp]
      · have hw := ih.mpr ⟨before, rfl, hp, fun y hy => hfill y (List.mem_append_left _ hy)⟩
        simp only [extend, hfill x (by simp), hw, Option.map_some]

/-- **A trace that grows by one element** is joined if it was, and a new mark is joined to what was
awaiting. -/
theorem joined_concat {x : α} :
    Joined kind R (l ++ [x]) ↔ Joined kind R l ∧
      (kind x = .mark → ∀ p between, awaiting kind l = some (p, between) → R p between x) := by
  constructor
  · refine fun h => ⟨fun before p between q after heq hp hfill hq => ?_, fun hx p between hw => ?_⟩
    · exact h before p between q (after ++ [x]) (by simp [heq]) hp hfill hq
    · obtain ⟨before, rfl, hp, hfill⟩ := awaiting_eq_some.mp hw
      exact h before p between x [] (by simp) hp hfill hx
  · rintro ⟨hl, hx⟩ before p between q after heq hp hfill hq
    rw [← List.cons_append, ← List.append_assoc] at heq
    rcases Runs.concat_eq_append_cons heq with ⟨rfl, rfl, hl'⟩ | ⟨after', rfl, hl'⟩
    · exact hx hq p between (awaiting_eq_some.mpr ⟨before, hl', hp, hfill⟩)
    · exact hl before p between q after' (by rw [hl', List.append_assoc, List.cons_append])
        hp hfill hq

theorem joined_nil : Joined kind R [] := fun before p between q after heq => by simp at heq

/-! ## Longer pieces -/

/-- Fillers are added to what is awaiting. -/
theorem awaiting_append_fillers (h : ∀ x ∈ o, kind x = .filler) :
    awaiting kind (l ++ o) = (awaiting kind l).map fun w => (w.1, w.2 ++ o) := by
  induction o using List.reverseRecOn with
  | nil => cases hl : awaiting kind l <;> simp [hl]
  | append_singleton o x ih =>
    rw [← List.append_assoc, awaiting_concat, ih fun y hy => h y (List.mem_append_left _ hy)]
    simp only [extend, h x (by simp), Option.map_map, Function.comp_def, List.append_assoc]

/-- After a break nothing is awaiting. -/
theorem awaiting_append_cuts (hne : o ≠ []) (h : ∀ x ∈ o, kind x = .cut) :
    awaiting kind (l ++ o) = none := by
  obtain ⟨o, x, rfl⟩ := (List.eq_nil_or_concat o).resolve_left hne
  rw [List.concat_eq_append] at h ⊢
  rw [← List.append_assoc, awaiting_concat, extend, h x (by simp)]

/-- After marks the last one is awaiting. -/
theorem awaiting_append_marks {q : α} (hlast : o.getLast? = some q) (h : ∀ x ∈ o, kind x = .mark) :
    awaiting kind (l ++ o) = some (q, []) := by
  obtain ⟨o, rfl⟩ := List.getLast?_eq_some_iff.mp hlast
  rw [← List.append_assoc, awaiting_concat, extend, h q (by simp)]

/-- What holds no mark needs no judgement. -/
theorem joined_append_of_no_mark (hl : Joined kind R l) (h : ∀ x ∈ o, kind x ≠ .mark) :
    Joined kind R (l ++ o) := by
  induction o using List.reverseRecOn with
  | nil => simpa using hl
  | append_singleton o x ih =>
    rw [← List.append_assoc, joined_concat]
    exact ⟨ih fun y hy => h y (List.mem_append_left _ hy), fun hx => absurd hx (h x (by simp))⟩

/-- Marks that follow one another are joined where the first one is joined to what was awaiting. -/
theorem joined_append_marks (hl : Joined kind R l) (h : ∀ x ∈ o, kind x = .mark)
    (hR : ∀ x ∈ o, ∀ y ∈ o, R x [] y)
    (hfirst : ∀ q ∈ o.head?, ∀ p between, awaiting kind l = some (p, between) → R p between q) :
    Joined kind R (l ++ o) := by
  induction o using List.reverseRecOn with
  | nil => simpa using hl
  | append_singleton o x ih =>
    have hsub : ∀ y ∈ o, y ∈ o ++ [x] := fun y hy => List.mem_append_left _ hy
    rw [← List.append_assoc, joined_concat]
    refine ⟨ih (fun y hy => h y (hsub y hy)) (fun y hy z hz => hR y (hsub y hy) z (hsub z hz))
      fun q hq => hfirst q ?_, fun _ p between hw => ?_⟩
    · rw [List.head?_append, Option.mem_def.mp hq]
      rfl
    · rcases List.eq_nil_or_concat o with rfl | ⟨o', y, rfl⟩
      · exact hfirst x rfl p between (by simpa using hw)
      · rw [List.concat_eq_append] at hw h hR hsub
        rw [awaiting_append_marks (q := y) (by simp) fun z hz => h z (hsub z hz)] at hw
        simp only [Option.some.injEq, Prod.mk.injEq] at hw
        obtain ⟨rfl, rfl⟩ := hw
        exact hR y (by simp) x (by simp)

/-! ## Checking a trace -/

/-- The judgement of the elements that follow a trace, given what is awaiting at its end. -/
def check (kind : α → Kind) (R : α → List α → α → Prop) [∀ p b q, Decidable (R p b q)] :
    Option (α × List α) → List α → Bool
  | _, [] => true
  | w, x :: l =>
    (kind x != .mark || w.all fun w => decide (R w.1 w.2 x)) && check kind R (extend kind w x) l

theorem joined_append_iff [∀ p b q, Decidable (R p b q)] :
    Joined kind R (l ++ o) ↔ Joined kind R l ∧ check kind R (awaiting kind l) o = true := by
  induction o generalizing l with
  | nil => simp [check]
  | cons x o ih =>
    rw [List.append_cons, ih, joined_concat, awaiting_concat, check, Bool.and_eq_true, and_assoc]
    refine and_congr_right fun _ => and_congr_left fun _ => ?_
    cases awaiting kind l with
    | none => simp
    | some w =>
      simp only [Option.some.injEq, Option.all_some, Bool.or_eq_true, bne_iff_ne,
        decide_eq_true_eq]
      refine ⟨fun h => ?_, fun h hx p between hw => ?_⟩
      · by_cases hx : kind x = .mark
        · exact Or.inr (h hx w.1 w.2 rfl)
        · exact Or.inl hx
      · obtain rfl := hw
        exact h.resolve_left (not_not.mpr hx)

instance Joined.decidable [∀ p b q, Decidable (R p b q)] (l : List α) :
    Decidable (Joined kind R l) :=
  decidable_of_iff (check kind R none l = true)
    (by simpa [joined_nil] using (joined_append_iff (l := []) (o := l)).symm)

end Gaps
