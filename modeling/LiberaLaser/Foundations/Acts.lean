import Mathlib.Data.List.Basic

/-!
# Acts

An act is a part of a program: it changes a state, makes events, and says whether the program goes
on. A triple `Triple P p Q R` speaks of the state and of all the events so far: if they have `P`
before the act, they have `Q` after it where the program goes on, and `R` where it stops. The rules
follow the ways in which acts are put together.
-/

variable {σ ε α : Type*}

/-- A part of a program. -/
def Act (σ ε : Type*) := σ → σ × List ε × Bool

namespace Act

/-- A change of the state. -/
def modify (f : σ → σ) : Act σ ε := fun s => (f s, [], true)

/-- The end of the program, after a change of the state. -/
def stop (f : σ → σ) : Act σ ε := fun s => (f s, [], false)

/-- An event. -/
def emit (e : σ → ε) : Act σ ε := fun s => (s, [e s], true)

/-- One act and, where the program goes on, another. -/
def andThen (p q : Act σ ε) : Act σ ε := fun s =>
  match p s with
  | (s₁, o₁, true) => ((q s₁).1, o₁ ++ (q s₁).2.1, (q s₁).2.2)
  | (s₁, o₁, false) => (s₁, o₁, false)

/-- An act and, where the program stops, a clean-up. -/
def orElse (p clean : Act σ ε) : Act σ ε := fun s =>
  match p s with
  | (s₁, o₁, true) => (s₁, o₁, true)
  | (s₁, o₁, false) => ((clean s₁).1, o₁ ++ (clean s₁).2.1, false)

/-- An act for every item of a list. -/
def forEach (body : α → Act σ ε) : List α → Act σ ε
  | [] => modify id
  | a :: as => (body a).andThen (forEach body as)

/-! ## Triples -/

/-- If the state and the events so far have `P` before, they have `Q` after, or `R` where the
program stops. -/
def Triple (P : σ → List ε → Prop) (p : Act σ ε) (Q R : σ → List ε → Prop) : Prop :=
  ∀ s tr, P s tr →
    ((p s).2.2 = true → Q (p s).1 (tr ++ (p s).2.1)) ∧
      ((p s).2.2 = false → R (p s).1 (tr ++ (p s).2.1))

variable {P P' Q Q' R R' : σ → List ε → Prop} {p q clean : Act σ ε}

theorem Triple.mono (h : Triple P p Q R) (hP : ∀ s tr, P' s tr → P s tr)
    (hQ : ∀ s tr, Q s tr → Q' s tr) (hR : ∀ s tr, R s tr → R' s tr) : Triple P' p Q' R' :=
  fun s tr hs => ((h s tr (hP s tr hs)).imp fun h hb => hQ _ _ (h hb)) fun h hb => hR _ _ (h hb)

/-- What holds after an act whichever way it ends. -/
theorem Triple.final (h : Triple P p Q Q) {s : σ} {tr : List ε} (hs : P s tr) :
    Q (p s).1 (tr ++ (p s).2.1) := by
  cases hb : (p s).2.2 with
  | true => exact (h s tr hs).1 hb
  | false => exact (h s tr hs).2 hb

theorem triple_modify {f : σ → σ} (h : ∀ s tr, P s tr → Q (f s) tr) :
    Triple P (modify f) Q R := by
  intro s tr hs
  refine ⟨fun _ => ?_, nofun⟩
  rw [modify, List.append_nil]
  exact h s tr hs

theorem triple_stop {f : σ → σ} (h : ∀ s tr, P s tr → R (f s) tr) : Triple P (stop f) Q R := by
  intro s tr hs
  refine ⟨nofun, fun _ => ?_⟩
  rw [stop, List.append_nil]
  exact h s tr hs

theorem triple_emit {e : σ → ε} (h : ∀ s tr, P s tr → Q s (tr ++ [e s])) :
    Triple P (emit e) Q R := fun s tr hs => ⟨fun _ => h s tr hs, nofun⟩

theorem Triple.andThen (hp : Triple P p Q R) (hq : Triple Q q Q' R) :
    Triple P (p.andThen q) Q' R := by
  intro s tr hs
  have hp := hp s tr hs
  rw [Act.andThen]
  rcases hps : p s with ⟨s₁, o₁, _ | _⟩
  · rw [hps] at hp
    exact ⟨nofun, hp.2⟩
  · rw [hps] at hp
    have hq := hq s₁ (tr ++ o₁) (hp.1 rfl)
    rwa [List.append_assoc] at hq

theorem Triple.orElse (hp : Triple P p Q R') (hclean : Triple R' clean R R) :
    Triple P (p.orElse clean) Q R := by
  intro s tr hs
  have hp := hp s tr hs
  rw [Act.orElse]
  rcases hps : p s with ⟨s₁, o₁, _ | _⟩
  · rw [hps] at hp
    have hclean := hclean.final (hp.2 rfl)
    rw [List.append_assoc] at hclean
    exact ⟨nofun, fun _ => hclean⟩
  · rw [hps] at hp
    exact ⟨hp.1, nofun⟩

theorem triple_exists {ι : Sort*} {P : ι → σ → List ε → Prop} (h : ∀ i, Triple (P i) p Q R) :
    Triple (fun s tr => ∃ i, P i s tr) p Q R := fun s tr ⟨i, hi⟩ => h i s tr hi

theorem triple_ite {b : Prop} [Decidable b] (hp : b → Triple P p Q R) (hq : ¬b → Triple P q Q R) :
    Triple P (if b then p else q) Q R := by
  split
  · exact hp ‹_›
  · exact hq ‹_›

/-- The rule of a loop: the body keeps the invariant. -/
theorem triple_forEach {body : α → Act σ ε} {as : List α}
    (h : ∀ a ∈ as, Triple P (body a) P R) : Triple P (forEach body as) P R := by
  induction as with
  | nil => exact triple_modify fun _ _ hs => hs
  | cons a as ih =>
    exact (h a List.mem_cons_self).andThen (ih fun a' ha' => h a' (List.mem_cons_of_mem _ ha'))

end Act
