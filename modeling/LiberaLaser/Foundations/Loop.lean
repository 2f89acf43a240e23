import Mathlib.Order.Basic

/-!
# Loops with an early exit

The body of a `while (true)` loop maps a loop state to the state of the next pass or to the
value the enclosing function returns; it has no result where the source has undefined behaviour.
`run` iterates a body under a budget of passes. A body that keeps an invariant and decreases a
measure finishes within any budget above that measure (`run_total`), so the budget of a run is
an artefact of the definition and not of the loop.
-/

namespace Loop

/-- The outcome of one pass: another pass, or the end of the loop. -/
inductive Pass (σ α : Type*)
  | again (s : σ)
  | done (a : α)
  deriving DecidableEq

variable {σ α : Type*}

/-- Run a body for at most the given number of passes. -/
def run (body : σ → Option (Pass σ α)) : ℕ → σ → Option α
  | 0, _ => none
  | n + 1, s =>
    match body s with
    | none => none
    | some (.again s') => run body n s'
    | some (.done a) => some a

/-- The outcome of a pass: it succeeds, and leaves either a state satisfying `N` or a result
satisfying `P`. -/
def PassSpec (r : Option (Pass σ α)) (N : σ → Prop) (P : α → Prop) : Prop :=
  (∃ s', r = some (.again s') ∧ N s') ∨ ∃ a, r = some (.done a) ∧ P a

namespace PassSpec

variable {r : Option (Pass σ α)} {N N' : σ → Prop} {P : α → Prop}

theorem again (s' : σ) (h : r = some (.again s')) (hn : N s') : PassSpec r N P :=
  Or.inl ⟨s', h, hn⟩

theorem done (a : α) (h : r = some (.done a)) (hp : P a) : PassSpec r N P :=
  Or.inr ⟨a, h, hp⟩

theorem mono (h : PassSpec r N P) (hN : ∀ s', N s' → N' s') : PassSpec r N' P :=
  h.imp_left fun ⟨s', hr, hn⟩ => ⟨s', hr, hN s' hn⟩

end PassSpec

/-- **Total correctness of a loop**: an invariant kept by every pass that continues, a measure
that each such pass decreases, and a postcondition met by every pass that ends. -/
theorem run_total {body : σ → Option (Pass σ α)} {I : σ → Prop} {P : α → Prop} (μ : σ → ℕ)
    (hbody : ∀ s, I s → PassSpec (body s) (fun s' => I s' ∧ μ s' < μ s) P) {budget : ℕ}
    {s : σ} (hs : I s) (hbudget : μ s < budget) : ∃ a, run body budget s = some a ∧ P a := by
  induction budget generalizing s with
  | zero => omega
  | succ n ih =>
    rcases hbody s hs with ⟨s', h, hinv, hlt⟩ | ⟨a, h, hpost⟩
    · obtain ⟨a, ha, hpost⟩ := ih hinv (by omega)
      exact ⟨a, by simp only [run, h, ha], hpost⟩
    · exact ⟨a, by simp only [run, h], hpost⟩

/-- **Total correctness of a loop over a list**: every step succeeds and keeps the invariant. -/
theorem foldlM_total {β : Type*} {f : β → α → Option β} {I : β → Prop} {l : List α}
    (hf : ∀ a ∈ l, ∀ b, I b → ∃ b', f b a = some b' ∧ I b') {b : β} (hb : I b) :
    ∃ b', l.foldlM f b = some b' ∧ I b' := by
  induction l generalizing b with
  | nil => exact ⟨b, rfl, hb⟩
  | cons a l ih =>
    obtain ⟨b₁, h₁, hb₁⟩ := hf a List.mem_cons_self b hb
    obtain ⟨b₂, h₂, hb₂⟩ := ih (fun a' ha' => hf a' (List.mem_cons_of_mem _ ha')) hb₁
    exact ⟨b₂, by simp [List.foldlM_cons, h₁, h₂], hb₂⟩

/-- **Partial correctness of a loop.** -/
theorem run_partial {body : σ → Option (Pass σ α)} {I : σ → Prop} {P : α → Prop}
    (hagain : ∀ s s', I s → body s = some (.again s') → I s')
    (hdone : ∀ s a, I s → body s = some (.done a) → P a) {budget : ℕ} {s : σ} {a : α}
    (hs : I s) (h : run body budget s = some a) : P a := by
  induction budget generalizing s with
  | zero => simp [run] at h
  | succ n ih =>
    rw [run] at h
    cases hb : body s with
    | none => simp [hb] at h
    | some p =>
      cases p with
      | again s' =>
        rw [hb] at h
        exact ih (hagain s s' hs hb) h
      | done a' =>
        simp only [hb, Option.some.injEq] at h
        exact h ▸ hdone s a' hs hb

end Loop
