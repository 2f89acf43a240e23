import Mathlib.Data.List.Basic

/-!
# Stages that do not see how a stream is cut into batches

A stage turns a state and a batch into a new state and an output batch. It `Splits` when a batch
that is cut in two gives the same output and the same state as the whole batch, and then so does
any cut into batches (`process_eq`). Stages in sequence split when each does and the later stage
`Commutes` with the earlier one, as it does where they use disjoint parts of the state.
-/

namespace Batches

variable {σ α β γ δ ε : Type*}

/-- Pass batch after batch through a stage, and concatenate what comes out. -/
def process (f : σ → List α → σ × List β) : σ → List (List α) → σ × List β
  | s, [] => (s, [])
  | s, batch :: batches =>
    let (s, out) := f s batch
    let (s, rest) := process f s batches
    (s, out ++ rest)

@[simp] theorem process_nil (f : σ → List α → σ × List β) (s : σ) : process f s [] = (s, []) := rfl

@[simp] theorem process_cons (f : σ → List α → σ × List β) (s : σ) (batch : List α)
    (batches : List (List α)) :
    process f s (batch :: batches) =
      ((process f (f s batch).1 batches).1,
        (f s batch).2 ++ (process f (f s batch).1 batches).2) := rfl

/-- A batch may be cut in two anywhere. -/
def Splits (f : σ → List α → σ × List β) : Prop :=
  ∀ s xs ys, f s (xs ++ ys) = ((f (f s xs).1 ys).1, (f s xs).2 ++ (f (f s xs).1 ys).2)

/-- **Any cut into batches gives what the whole stream gives.** -/
theorem process_eq {f : σ → List α → σ × List β} (hf : Splits f) (s : σ)
    {batches : List (List α)} (hne : batches ≠ []) :
    process f s batches = f s batches.flatten := by
  induction batches generalizing s with
  | nil => exact absurd rfl hne
  | cons batch batches ih =>
    rw [List.flatten_cons]
    cases batches with
    | nil => simp [process]
    | cons next batches =>
      rw [process_cons, hf, ih (f s batch).1 (List.cons_ne_nil next batches)]

/-- One stage after the other, on the same state. -/
def andThen (f : σ → List α → σ × List β) (g : σ → List β → σ × List γ) :
    σ → List α → σ × List γ :=
  fun s xs => g (f s xs).1 (f s xs).2

/-- The stages may run in either order, on batches of their own. -/
structure Commutes (f : σ → List α → σ × List β) (g : σ → List γ → σ × List δ) : Prop where
  state : ∀ s xs ys, (f (g s ys).1 xs).1 = (g (f s xs).1 ys).1
  left : ∀ s xs ys, (f (g s ys).1 xs).2 = (f s xs).2
  right : ∀ s xs ys, (g (f s xs).1 ys).2 = (g s ys).2

/-- **Stages that commute split together.** -/
theorem Splits.andThen {f : σ → List α → σ × List β} {g : σ → List β → σ × List γ}
    (hf : Splits f) (hg : Splits g) (hc : Commutes f g) : Splits (andThen f g) := by
  intro s xs ys
  -- `f` of the second part runs before `g` of the first on the left, and after it on the right
  have hstate := hc.state (f s xs).1 ys (f s xs).2
  have hleft := hc.left (f s xs).1 ys (f s xs).2
  have hright := hc.right (f s xs).1 ys (f s xs).2
  simp only [Batches.andThen]
  rw [hf s xs ys, hg, hstate, hleft, hright]

theorem Commutes.andThen {f : σ → List α → σ × List β} {g : σ → List γ → σ × List δ}
    {h : σ → List δ → σ × List ε} (hg : Commutes f g) (hh : Commutes f h) :
    Commutes f (andThen g h) where
  state s xs ys := by
    simp only [Batches.andThen]
    rw [hh.state, hg.state, hg.right]
  left s xs ys := by
    simp only [Batches.andThen]
    rw [hh.left, hg.left]
  right s xs ys := by
    simp only [Batches.andThen]
    rw [← hg.state, hg.right, hh.right]

end Batches
