import Mathlib.Order.Lattice

/-!
# A single server

Jobs arrive one after another at a server that does one at a time. A job starts once it has arrived
and the job before it has finished; when it finishes depends on when it started, and on some servers
on when the jobs before it did. Two servers with the same arrivals start their jobs at the same
times exactly if they finish them at the same times, as far as the next arrival can tell
(`Serves.eq_starts_iff`).
-/

namespace SingleServer

variable {T : Type*} [LinearOrder T]

/-- When the jobs start, one after another. -/
def starts (arrival : ℕ → T) (finish : ℕ → T → T) : ℕ → T
  | 0 => arrival 0
  | k + 1 => max (finish k (starts arrival finish k)) (arrival (k + 1))

variable {arrival : ℕ → T} {finish : ℕ → T → T} {finish' : ℕ → (ℕ → T) → T} {n : ℕ}

/-- When a job finishes depends on when it and the jobs before it have started. -/
def Causal (finish' : ℕ → (ℕ → T) → T) : Prop :=
  ∀ k s s', (∀ j ≤ k, s j = s' j) → finish' k s = finish' k s'

/-- The start times `s` are those of a server that finishes its first jobs at `finish'`. -/
structure Serves (arrival : ℕ → T) (finish' : ℕ → (ℕ → T) → T) (n : ℕ) (s : ℕ → T) : Prop where
  zero : 0 < n → s 0 = arrival 0
  succ : ∀ k, k + 1 < n → s (k + 1) = max (finish' k s) (arrival (k + 1))

/-- **Two servers with the same arrivals** start the first jobs at the same times exactly if the
next arrival hides every difference between when they finish, where both have started the jobs so
far at the times of the second. -/
theorem Serves.eq_starts_iff {s : ℕ → T} (hcausal : Causal finish')
    (h : Serves arrival finish' n s) :
    (∀ k < n, s k = starts arrival finish k) ↔
      ∀ k, k + 1 < n → max (finish' k (starts arrival finish)) (arrival (k + 1)) =
        max (finish k (starts arrival finish k)) (arrival (k + 1)) := by
  constructor
  · intro heq k hk
    have hpast : finish' k s = finish' k (starts arrival finish) :=
      hcausal k _ _ fun j hj => heq j (hj.trans_lt (Nat.lt_of_succ_lt hk))
    rw [← hpast, ← h.succ k hk]
    exact heq (k + 1) hk
  · intro hhidden k
    induction k using Nat.strong_induction_on with
    | _ k ih =>
      intro hk
      cases k with
      | zero => exact h.zero hk
      | succ k =>
        have hpast : finish' k s = finish' k (starts arrival finish) :=
          hcausal k _ _ fun j hj => ih j (Nat.lt_succ_of_le hj) (hj.trans_lt (Nat.lt_of_succ_lt hk))
        rw [h.succ k hk, hpast]
        exact hhidden k hk

end SingleServer
