import Mathlib.Order.Basic
import Mathlib.Data.List.Basic

/-!
# Runs of labelled systems

A system maps a state and a label to the next state and the list of observations the step makes,
or to nothing when the label is not enabled. `run` threads a list of labels through a system and
concatenates the observations. `Along G` says that every step of a run meets the guard `G`, which
may look at everything observed so far. The induction over runs is done once, in `run_invariant`
(what a guarded step preserves, a guarded run preserves) and in `run_total`.
-/

namespace Runs

variable {σ ℓ ω : Type*}

/-- Thread a list of labels through a system, concatenating the observations. -/
def run (step : σ → ℓ → Option (σ × List ω)) : σ → List ℓ → Option (σ × List ω)
  | s, [] => some (s, [])
  | s, l :: ls =>
    match step s l with
    | none => none
    | some (s₁, o₁) =>
      match run step s₁ ls with
      | none => none
      | some (s₂, o₂) => some (s₂, o₁ ++ o₂)

/-- Every step of the run meets the guard `G`, where `tr` was observed before the run. -/
def Along (step : σ → ℓ → Option (σ × List ω)) (G : List ω → σ → ℓ → Prop) :
    List ω → σ → List ℓ → Prop
  | _, _, [] => True
  | tr, s, l :: ls =>
    G tr s l ∧
      match step s l with
      | none => True
      | some (s', o) => Along step G (tr ++ o) s' ls

/-- The states some run from `init` ends in. -/
def Reachable (step : σ → ℓ → Option (σ × List ω)) (init s : σ) : Prop :=
  ∃ ls o, run step init ls = some (s, o)

variable {step : σ → ℓ → Option (σ × List ω)} {G : List ω → σ → ℓ → Prop}

@[simp] theorem run_nil (s : σ) : run step s [] = some (s, []) := rfl

theorem run_cons_eq_some {s : σ} {l : ℓ} {ls : List ℓ} {s' : σ} {o : List ω} :
    run step s (l :: ls) = some (s', o) ↔
      ∃ s₁ o₁ o₂, step s l = some (s₁, o₁) ∧ run step s₁ ls = some (s', o₂) ∧ o = o₁ ++ o₂ := by
  constructor
  · intro h
    rw [run] at h
    split at h
    · cases h
    · rename_i s₁ o₁ hs
      split at h
      · cases h
      · rename_i s₂ o₂ hr
        simp only [Option.some.injEq, Prod.mk.injEq] at h
        obtain ⟨rfl, rfl⟩ := h
        exact ⟨s₁, o₁, o₂, hs, hr, rfl⟩
  · rintro ⟨s₁, o₁, o₂, hs, hr, rfl⟩
    simp only [run, hs, hr]

theorem run_singleton {s : σ} {l : ℓ} {s' : σ} {o : List ω} :
    run step s [l] = some (s', o) ↔ step s l = some (s', o) := by
  rw [run_cons_eq_some]
  constructor
  · rintro ⟨s₁, o₁, o₂, hs, hr, rfl⟩
    simp only [run_nil, Option.some.injEq, Prod.mk.injEq] at hr
    obtain ⟨rfl, rfl⟩ := hr
    rw [hs, List.append_nil]
  · intro h
    exact ⟨s', o, [], h, rfl, (List.append_nil o).symm⟩

theorem run_append_eq_some {s : σ} {l₁ l₂ : List ℓ} {s' : σ} {o : List ω} :
    run step s (l₁ ++ l₂) = some (s', o) ↔
      ∃ s₁ o₁ o₂, run step s l₁ = some (s₁, o₁) ∧ run step s₁ l₂ = some (s', o₂) ∧
        o = o₁ ++ o₂ := by
  induction l₁ generalizing s o with
  | nil => simp
  | cons l ls ih =>
    rw [List.cons_append, run_cons_eq_some]
    constructor
    · rintro ⟨s₁, o₁, o₂, hs, hr, rfl⟩
      obtain ⟨s₂, o₃, o₄, hr₁, hr₂, rfl⟩ := ih.mp hr
      exact ⟨s₂, o₁ ++ o₃, o₄, run_cons_eq_some.mpr ⟨s₁, o₁, o₃, hs, hr₁, rfl⟩, hr₂,
        (List.append_assoc ..).symm⟩
    · rintro ⟨s₂, o₁, o₂, hr₁, hr₂, rfl⟩
      obtain ⟨s₁, o₃, o₄, hs, hr, rfl⟩ := run_cons_eq_some.mp hr₁
      exact ⟨s₁, o₃, o₄ ++ o₂, hs, ih.mpr ⟨s₂, o₄, o₂, hr, hr₂, rfl⟩, List.append_assoc ..⟩

theorem along_cons {tr : List ω} {s : σ} {l : ℓ} {ls : List ℓ} :
    Along step G tr s (l :: ls) ↔
      G tr s l ∧ ∀ s' o, step s l = some (s', o) → Along step G (tr ++ o) s' ls := by
  rw [Along]
  cases step s l with
  | none => simp
  | some r =>
    obtain ⟨s₁, o₁⟩ := r
    simp only [Option.some.injEq, Prod.mk.injEq]
    refine and_congr_right fun _ => ⟨?_, fun h => h s₁ o₁ ⟨rfl, rfl⟩⟩
    rintro h s' o ⟨rfl, rfl⟩
    exact h

theorem along_append {tr : List ω} {s : σ} {l₁ l₂ : List ℓ} :
    Along step G tr s (l₁ ++ l₂) ↔ Along step G tr s l₁ ∧
      ∀ s₁ o₁, run step s l₁ = some (s₁, o₁) → Along step G (tr ++ o₁) s₁ l₂ := by
  induction l₁ generalizing s tr with
  | nil => simp [Along]
  | cons l ls ih =>
    simp only [List.cons_append, along_cons, ih, run_cons_eq_some]
    constructor
    · rintro ⟨hg, hrest⟩
      refine ⟨⟨hg, fun s' o hs => (hrest s' o hs).1⟩, ?_⟩
      rintro s₁ _ ⟨s₂, o₁, o₂, hs, hr, rfl⟩
      rw [← List.append_assoc]
      exact (hrest s₂ o₁ hs).2 s₁ o₂ hr
    · rintro ⟨⟨hg, hhead⟩, htail⟩
      refine ⟨hg, fun s' o hs => ⟨hhead s' o hs, fun s₁ o₁ hr => ?_⟩⟩
      rw [List.append_assoc]
      exact htail s₁ (o ++ o₁) ⟨s', o, o₁, hs, hr, rfl⟩

/-- A guard can be checked along a run. -/
instance Along.decidable [∀ tr s l, Decidable (G tr s l)] :
    ∀ tr s ls, Decidable (Along step G tr s ls)
  | _, _, [] => inferInstanceAs (Decidable True)
  | tr, s, l :: ls =>
    match h : step s l with
    | none => decidable_of_iff (G tr s l) (by simp [Along, h])
    | some (s', o) =>
      have := Along.decidable (tr ++ o) s' ls
      decidable_of_iff (G tr s l ∧ Along step G (tr ++ o) s' ls) (by simp [Along, h])

theorem Along.mono {G' : List ω → σ → ℓ → Prop} (hG : ∀ tr s l, G tr s l → G' tr s l)
    {tr : List ω} {s : σ} {ls : List ℓ} (h : Along step G tr s ls) : Along step G' tr s ls := by
  induction ls generalizing tr s with
  | nil => trivial
  | cons l ls ih =>
    rw [along_cons] at h ⊢
    exact ⟨hG _ _ _ h.1, fun s' o hs => ih (h.2 s' o hs)⟩

/-- A guard on the labels alone. -/
theorem Along.of_forall {P : ℓ → Prop} {ls : List ℓ} (h : ∀ l ∈ ls, P l) (tr : List ω) (s : σ) :
    Along step (fun _ _ l => P l) tr s ls := by
  induction ls generalizing tr s with
  | nil => trivial
  | cons l ls ih =>
    rw [along_cons]
    exact ⟨h l List.mem_cons_self,
      fun s' o _ => ih (fun l' hl' => h l' (List.mem_cons_of_mem _ hl')) _ s'⟩

theorem Along.and {G' : List ω → σ → ℓ → Prop} {tr : List ω} {s : σ} {ls : List ℓ}
    (h : Along step G tr s ls) (h' : Along step G' tr s ls) :
    Along step (fun tr s l => G tr s l ∧ G' tr s l) tr s ls := by
  induction ls generalizing tr s with
  | nil => trivial
  | cons l ls ih =>
    rw [along_cons] at h h' ⊢
    exact ⟨⟨h.1, h'.1⟩, fun s' o hs => ih (h.2 s' o hs) (h'.2 s' o hs)⟩

/-- **What a guarded step preserves, a guarded run preserves.** The invariant may speak of the
observations made so far. -/
theorem run_invariant {I : List ω → σ → Prop}
    (hstep : ∀ tr s l s' o, I tr s → G tr s l → step s l = some (s', o) → I (tr ++ o) s')
    {tr : List ω} {s : σ} {ls : List ℓ} {s' : σ} {o : List ω} (hs : I tr s)
    (hG : Along step G tr s ls) (h : run step s ls = some (s', o)) : I (tr ++ o) s' := by
  induction ls generalizing tr s o with
  | nil =>
    simp only [run_nil, Option.some.injEq, Prod.mk.injEq] at h
    obtain ⟨rfl, rfl⟩ := h
    simpa using hs
  | cons l ls ih =>
    obtain ⟨s₁, o₁, o₂, h₁, h₂, rfl⟩ := run_cons_eq_some.mp h
    rw [along_cons] at hG
    rw [← List.append_assoc]
    exact ih (hstep tr s l s₁ o₁ hs hG.1 h₁) (hG.2 s₁ o₁ h₁) h₂

/-- An invariant of every step holds of every reachable state. -/
theorem Reachable.invariant {I : σ → Prop} {init s : σ} (hs : Reachable step init s)
    (hinit : I init) (hstep : ∀ s l s' o, I s → step s l = some (s', o) → I s') : I s := by
  obtain ⟨ls, o, h⟩ := hs
  have htrue : Along step (fun _ _ _ => True) [] init ls := Along.of_forall (fun _ _ => trivial) _ _
  exact run_invariant (I := fun _ s => I s) (fun _ s l s' o hs _ h => hstep s l s' o hs h) hinit
    htrue h

/-- Where a marked observation stands once one more is made: it is the new one, or it was there
before. -/
theorem concat_eq_append_cons {tr before after : List ω} {e y : ω}
    (h : tr ++ [e] = before ++ y :: after) :
    (after = [] ∧ e = y ∧ tr = before) ∨
      ∃ after', after = after' ++ [e] ∧ tr = before ++ y :: after' := by
  rcases List.eq_nil_or_concat after with rfl | ⟨after', z, rfl⟩
  · obtain ⟨rfl, hz⟩ := List.append_inj' h rfl
    exact Or.inl ⟨rfl, List.singleton_inj.mp hz, rfl⟩
  · rw [List.concat_eq_append, ← List.cons_append, ← List.append_assoc] at h
    obtain ⟨rfl, hz⟩ := List.append_inj' h rfl
    obtain rfl := List.singleton_inj.mp hz
    exact Or.inr ⟨after', List.concat_eq_append, rfl⟩

theorem Reachable.init (init : σ) : Reachable step init init := ⟨[], [], rfl⟩

theorem Reachable.next {init s s' : σ} {l : ℓ} {o : List ω} (hs : Reachable step init s)
    (h : step s l = some (s', o)) : Reachable step init s' := by
  obtain ⟨ls, o', hr⟩ := hs
  exact ⟨ls ++ [l], o' ++ o,
    run_append_eq_some.mpr ⟨s, o', o, hr, run_singleton.mpr h, rfl⟩⟩

/-- A system whose steps are all enabled in the states of an invariant runs to the end. -/
theorem run_total {I : σ → Prop} (hstep : ∀ s l, I s → ∃ s' o, step s l = some (s', o) ∧ I s')
    {s : σ} (hs : I s) (ls : List ℓ) : ∃ s' o, run step s ls = some (s', o) ∧ I s' := by
  induction ls generalizing s with
  | nil => exact ⟨s, [], rfl, hs⟩
  | cons l ls ih =>
    obtain ⟨s₁, o₁, h₁, hs₁⟩ := hstep s l hs
    obtain ⟨s₂, o₂, h₂, hs₂⟩ := ih hs₁
    exact ⟨s₂, o₁ ++ o₂, run_cons_eq_some.mpr ⟨s₁, o₁, o₂, h₁, h₂, rfl⟩, hs₂⟩

end Runs
