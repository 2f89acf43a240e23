import LiberaLaser.Foundations.Runs
import Mathlib.Data.List.Induction

/-!
# Properties of traces

`Always P tr` says of every event of a trace what `P` asks of it and of the events before it. Such a
property is proved event by event: where it holds of a trace, one more event needs a proof only of
its own place (`Always.concat`). An instance is that nothing of one kind happens between a failure
and the next fresh start (`Quiet`). `Since P Q tr` says that an event with `P` has happened, and
that since then there were only events with `Q`.
-/

namespace Traces

variable {ω : Type*}

/-- Every event stands where `P` allows it after the events before. -/
def Always (P : List ω → ω → Prop) (tr : List ω) : Prop :=
  ∀ before e after, tr = before ++ e :: after → P before e

variable {P : List ω → ω → Prop} {tr : List ω}

theorem always_nil : Always P [] := by
  intro before e after h
  cases before <;> cases h

theorem Always.concat (h : Always P tr) {e : ω} (he : P tr e) : Always P (tr ++ [e]) := by
  intro before y after heq
  rcases Runs.concat_eq_append_cons heq with ⟨-, rfl, rfl⟩ | ⟨after', -, rfl⟩
  · exact he
  · exact h before y after' rfl

/-- Events of which nothing is asked. -/
theorem Always.append (h : Always P tr) {o : List ω} (ho : ∀ e ∈ o, ∀ before, P before e) :
    Always P (tr ++ o) := by
  induction o generalizing tr with
  | nil => rwa [List.append_nil]
  | cons e o ih =>
    rw [← List.singleton_append, ← List.append_assoc]
    exact ih (h.concat (ho e List.mem_cons_self tr)) fun e' he' =>
      ho e' (List.mem_cons_of_mem _ he')

/-! ## No act after a failure -/

/-- After this trace there was a failure since the last fresh start. -/
def Spoilt (fails opens : ω → Bool) (tr : List ω) : Bool :=
  tr.foldl (fun spoilt e => if fails e then true else if opens e then false else spoilt) false

/-- No act comes while the trace is spoilt. -/
def Quiet (fails opens acts : ω → Bool) : List ω → Prop :=
  Always fun before e => acts e = true → Spoilt fails opens before = false

variable {fails opens : ω → Bool}

theorem spoilt_concat (e : ω) :
    Spoilt fails opens (tr ++ [e]) =
      if fails e then true else if opens e then false else Spoilt fails opens tr := by
  rw [Spoilt, List.foldl_append]
  rfl

/-- Events that are neither change nothing. -/
theorem spoilt_append_neutral {o : List ω} (h : ∀ e ∈ o, fails e = false ∧ opens e = false) :
    Spoilt fails opens (tr ++ o) = Spoilt fails opens tr := by
  induction o generalizing tr with
  | nil => rw [List.append_nil]
  | cons e o ih =>
    obtain ⟨hfails, hopens⟩ := h e List.mem_cons_self
    rw [← List.singleton_append, ← List.append_assoc,
      ih fun e' he' => h e' (List.mem_cons_of_mem _ he'), spoilt_concat]
    simp [hfails, hopens]

/-! ## What has held since an event -/

/-- There is an event with `P`, and all events after it have `Q`. -/
def Since (P Q : ω → Prop) (tr : List ω) : Prop :=
  ∃ before e after, tr = before ++ e :: after ∧ P e ∧ ∀ e' ∈ after, Q e'

variable {P Q : ω → Prop}

theorem not_since_nil : ¬Since P Q [] := by
  rintro ⟨before, e, after, h, -⟩
  simp at h

/-- One more event is the one, or it leaves the one before it valid. -/
theorem since_concat (e : ω) : Since P Q (tr ++ [e]) ↔ P e ∨ Since P Q tr ∧ Q e := by
  constructor
  · rintro ⟨before, y, after, h, hy, hafter⟩
    rcases Runs.concat_eq_append_cons h with ⟨-, rfl, -⟩ | ⟨after', rfl, rfl⟩
    · exact .inl hy
    · refine .inr ⟨⟨before, y, after', rfl, hy, fun e' he' => hafter e' ?_⟩, hafter e ?_⟩
      · exact List.mem_append_left _ he'
      · exact List.mem_append_right _ (List.mem_singleton_self e)
  · rintro (he | ⟨⟨before, y, after, rfl, hy, hafter⟩, he⟩)
    · exact ⟨tr, e, [], rfl, he, by simp⟩
    · refine ⟨before, y, after ++ [e], by simp, hy, fun e' he' => ?_⟩
      rcases List.mem_append.mp he' with he' | he'
      · exact hafter e' he'
      · rwa [List.mem_singleton.mp he']

/-- More events leave it valid. -/
theorem Since.append {o : List ω} (h : Since P Q tr) (ho : ∀ e ∈ o, Q e) : Since P Q (tr ++ o) := by
  obtain ⟨before, e, after, rfl, he, hafter⟩ := h
  refine ⟨before, e, after ++ o, by simp, he, fun e' he' => ?_⟩
  exact (List.mem_append.mp he').elim (hafter e') (ho e')

/-- The event is among the last ones. -/
theorem since_of_mem {o : List ω} {e : ω} (he : e ∈ o) (hP : P e) (ho : ∀ e ∈ o, Q e) :
    Since P Q (tr ++ o) := by
  obtain ⟨before, after, rfl⟩ := List.append_of_mem he
  refine ⟨tr ++ before, e, after, by simp, hP, fun e' he' => ho e' ?_⟩
  exact List.mem_append_right _ (List.mem_cons_of_mem _ he')

/-- **A state that every event sets or keeps** tells what the events since some point were. -/
theorem foldl_iff_since {σ : Type*} {step : σ → ω → σ} {init : σ} (Holds : σ → Prop)
    (hinit : ¬Holds init) (hstep : ∀ s e, Holds (step s e) ↔ P e ∨ Holds s ∧ Q e) (tr : List ω) :
    Holds (tr.foldl step init) ↔ Since P Q tr := by
  induction tr using List.reverseRecOn with
  | nil => simp [hinit, not_since_nil]
  | append_singleton tr e ih =>
    rw [List.foldl_append, List.foldl_cons, List.foldl_nil, hstep, since_concat, ih]

end Traces
