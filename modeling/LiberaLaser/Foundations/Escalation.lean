import Mathlib.Data.List.TakeWhile

/-!
# One retry, and then no more

A supervisor reads what it watches. The first bad reading makes it retry; a bad reading while a
retry is pending makes it give up, and a fine reading clears both. So what it takes for a recovery
decides how often it retries: it retries at most once before it gives up and no more after that,
exactly if the readings do not relapse, that is if there is no fine reading between two bad ones
(`endsRetrying_iff`).
-/

namespace Escalation

/-- What a reading says. -/
inductive Reading
  | bad
  | fine
  | silent
  deriving DecidableEq

/-- What the supervisor does. -/
inductive Outcome
  | retry
  | giveUp
  deriving DecidableEq

/-- What it remembers. -/
structure Flags where
  pending : Bool := false
  latched : Bool := false
  deriving DecidableEq

def respond (f : Flags) : Reading → Flags × List Outcome
  | .bad =>
    if !f.pending && !f.latched then ({ f with pending := true }, [.retry])
    else ({ f with latched := true }, if f.latched then [] else [.giveUp])
  | .fine => ({}, [])
  | .silent => (f, [])

/-- The response to one reading after another. -/
def respondAll (f : Flags) : List Reading → Flags × List Outcome
  | [] => (f, [])
  | r :: rs =>
    let (f, o) := respond f r
    let (f, o') := respondAll f rs
    (f, o ++ o')

theorem respondAll_append (f : Flags) (rs rs' : List Reading) :
    respondAll f (rs ++ rs') =
      ((respondAll (respondAll f rs).1 rs').1,
        (respondAll f rs).2 ++ (respondAll (respondAll f rs).1 rs').2) := by
  induction rs generalizing f with
  | nil => rfl
  | cons r rs ih =>
    simp only [List.cons_append, respondAll, ih, List.append_assoc]

theorem respondAll_concat (f : Flags) (rs : List Reading) (r : Reading) :
    respondAll f (rs ++ [r]) =
      ((respond (respondAll f rs).1 r).1,
        (respondAll f rs).2 ++ (respond (respondAll f rs).1 r).2) := by
  rw [respondAll_append]
  simp only [respondAll, List.append_nil]

/-- Without a bad reading nothing is done, and a fine one clears the flags. -/
theorem respondAll_of_forall_ne_bad {rs : List Reading} (h : .bad ∉ rs) (f : Flags) :
    respondAll f rs = (if .fine ∈ rs then {} else f, []) := by
  induction rs generalizing f with
  | nil => rfl
  | cons r rs ih =>
    obtain ⟨hr, hrs⟩ := List.ne_and_not_mem_of_not_mem_cons h
    cases r with
    | bad => exact absurd rfl hr
    | fine => simp [respondAll, respond, ih hrs]
    | silent => simp [respondAll, respond, ih hrs]

/-- Between two bad readings there is a fine one. -/
def Relapses (rs : List Reading) : Prop :=
  ∃ before between after, rs = before ++ .bad :: (between ++ .bad :: after) ∧ .fine ∈ between

/-- What is done about the readings up to the first bad one and after it. -/
theorem outcomes_of_first {before after : List Reading} (h : .bad ∉ before) :
    (respondAll {} (before ++ .bad :: after)).2 =
      .retry :: (respondAll { pending := true } after).2 := by
  rw [respondAll_append, respondAll_of_forall_ne_bad h, ite_self]
  rfl

/-- A supervisor that remembers nothing retries at a bad reading. -/
theorem count_retry_pos {rs : List Reading} (h : .bad ∈ rs) :
    0 < (respondAll {} rs).2.count .retry := by
  obtain ⟨before, after, rfl, hbefore⟩ := List.eq_append_cons_of_mem h
  rw [outcomes_of_first hbefore, List.count_cons_self]
  exact Nat.succ_pos _

/-- While a retry is pending there is no other. -/
theorem count_retry_of_pending {rs : List Reading} (h : .fine ∉ rs) {f : Flags}
    (hf : f.pending = true) : (respondAll f rs).2.count .retry = 0 := by
  induction rs generalizing f with
  | nil => rfl
  | cons r rs ih =>
    obtain ⟨hr, hrs⟩ := List.ne_and_not_mem_of_not_mem_cons h
    cases r with
    | fine => exact absurd rfl hr
    | bad =>
      simp only [respondAll, respond, hf, Bool.not_true, Bool.false_and, Bool.false_eq_true,
        if_false, List.count_append, ih hrs, Nat.add_zero]
      split <;> rfl
    | silent => simpa [respondAll, respond] using ih hrs hf

/-- A fine reading divides the readings into two that are read alone. -/
theorem count_retry_fine (f : Flags) (rs rs' : List Reading) :
    (respondAll f (rs ++ .fine :: rs')).2.count .retry =
      (respondAll f rs).2.count .retry + (respondAll {} rs').2.count .retry := by
  rw [respondAll_append, List.count_append]
  rfl

/-- **The supervisor retries at most once, exactly if the readings do not relapse.** -/
theorem count_retry_le_one_iff (rs : List Reading) :
    (respondAll {} rs).2.count .retry ≤ 1 ↔ ¬ Relapses rs := by
  constructor
  · rintro hretries ⟨before, between, after, rfl, hfine⟩
    obtain ⟨early, late, rfl⟩ := List.append_of_mem hfine
    have hfirst : 0 < (respondAll {} (before ++ .bad :: early)).2.count .retry :=
      count_retry_pos (by simp)
    have hsecond : 0 < (respondAll {} (late ++ .bad :: after)).2.count .retry :=
      count_retry_pos (by simp)
    have hsplit : before ++ .bad :: (early ++ .fine :: late ++ .bad :: after) =
        (before ++ .bad :: early) ++ .fine :: (late ++ .bad :: after) := by simp
    rw [hsplit, count_retry_fine] at hretries
    omega
  · intro hrelapse
    by_cases hbad : .bad ∈ rs
    · obtain ⟨before, rest, rfl, hbefore⟩ := List.eq_append_cons_of_mem hbad
      have hrest : (respondAll { pending := true } rest).2.count .retry = 0 := by
        by_cases hfine : .fine ∈ rest
        · obtain ⟨early, late, rfl, hearly⟩ := List.eq_append_cons_of_mem hfine
          have hlate : .bad ∉ late := by
            intro hmem
            obtain ⟨between, after, rfl⟩ := List.append_of_mem hmem
            exact hrelapse ⟨before, early ++ .fine :: between, after, by simp, by simp⟩
          rw [count_retry_fine, count_retry_of_pending hearly rfl,
            respondAll_of_forall_ne_bad hlate]
          rfl
        · exact count_retry_of_pending hfine rfl
      rw [outcomes_of_first hbefore, List.count_cons_self, hrest]
    · rw [respondAll_of_forall_ne_bad hbad]
      exact Nat.zero_le _

/-- The retries before the supervisor gives up. -/
def retriesBeforeGivingUp (outcomes : List Outcome) : ℕ :=
  (outcomes.takeWhile (· ≠ .giveUp)).count .retry

/-- There is at most one retry before the supervisor gives up, and none after that. -/
def EndsRetrying (outcomes : List Outcome) : Prop :=
  retriesBeforeGivingUp outcomes ≤ 1 ∧
    ∀ before after, outcomes = before ++ .giveUp :: after → .retry ∉ after

/-- Where the first that is done is a retry, it is the only one. -/
theorem endsRetrying_iff_count {outcomes : List Outcome}
    (hfirst : ∀ outcome ∈ outcomes.head?, outcome = .retry) :
    EndsRetrying outcomes ↔ outcomes.count .retry ≤ 1 := by
  constructor
  · rintro ⟨hbefore, hafter⟩
    by_cases hup : .giveUp ∈ outcomes
    · obtain ⟨before, after, rfl, hnone⟩ := List.eq_append_cons_of_mem hup
      have hwhile : (before ++ .giveUp :: after).takeWhile (· ≠ .giveUp) = before := by
        rw [List.takeWhile_append_of_pos, List.takeWhile_cons_of_neg (by simp), List.append_nil]
        exact fun outcome hmem => decide_eq_true (ne_of_mem_of_not_mem hmem hnone)
      rw [retriesBeforeGivingUp, hwhile] at hbefore
      rw [List.count_append, List.count_cons, List.count_eq_zero.mpr (hafter before after rfl)]
      exact hbefore
    · have hwhile : outcomes.takeWhile (· ≠ .giveUp) = outcomes :=
        List.takeWhile_eq_self_iff.mpr fun outcome hmem =>
          decide_eq_true (ne_of_mem_of_not_mem hmem hup)
      rwa [retriesBeforeGivingUp, hwhile] at hbefore
  · intro hcount
    refine ⟨((List.takeWhile_sublist _).count_le _).trans hcount, ?_⟩
    rintro before after rfl hmem
    cases before with
    | nil => cases hfirst .giveUp rfl
    | cons outcome before =>
      obtain rfl := hfirst outcome rfl
      rw [List.cons_append, List.count_cons_self, List.count_append, List.count_cons] at hcount
      have := List.count_pos_iff.mpr hmem
      omega

/-- The first that the supervisor does is a retry. -/
theorem head_respondAll (rs : List Reading) :
    ∀ outcome ∈ (respondAll {} rs).2.head?, outcome = .retry := by
  by_cases hbad : .bad ∈ rs
  · obtain ⟨before, after, rfl, hbefore⟩ := List.eq_append_cons_of_mem hbad
    rw [outcomes_of_first hbefore]
    exact fun outcome h => (Option.some.inj h).symm
  · rw [respondAll_of_forall_ne_bad hbad]
    exact fun outcome h => nomatch h

/-- **The supervisor ends retrying** exactly if the readings do not relapse. -/
theorem endsRetrying_iff (rs : List Reading) :
    EndsRetrying (respondAll {} rs).2 ↔ ¬ Relapses rs :=
  (endsRetrying_iff_count (head_respondAll rs)).trans (count_retry_le_one_iff rs)

end Escalation
