import Mathlib.Data.List.Induction
import Mathlib.Data.List.Infix

/-!
# Streaks

A counter goes up with the events that count, starts again with those that clear it, and passes over
all others. It has reached a number exactly when that many events have counted since some point
after which none has cleared it (`le_streak_iff`).
-/

namespace Streaks

variable {ω : Type*}

/-- The counter after one more event. -/
def next (counts clears : ω → Bool) (n : ℕ) (e : ω) : ℕ :=
  if clears e then 0 else if counts e then n + 1 else n

/-- How many events counted in a row up to the end. -/
def streak (counts clears : ω → Bool) (tr : List ω) : ℕ := tr.foldl (next counts clears) 0

variable {counts clears : ω → Bool} {tr : List ω}

theorem streak_concat (e : ω) :
    streak counts clears (tr ++ [e]) = next counts clears (streak counts clears tr) e := by
  rw [streak, List.foldl_append]
  rfl

/-- **The streak is as long as some stretch up to the end** that nothing clears. -/
theorem le_streak_iff {k : ℕ} :
    k ≤ streak counts clears tr ↔
      ∃ recent, recent <:+ tr ∧ (∀ e ∈ recent, clears e = false) ∧ k ≤ recent.countP counts := by
  induction tr using List.reverseRecOn generalizing k with
  | nil => simp [streak]
  | append_singleton tr e ih =>
    rw [streak_concat, next]
    cases hclears : clears e with
    | true =>
      constructor
      · intro hk
        exact ⟨[], List.nil_suffix, by simp, by simpa using hk⟩
      · rintro ⟨recent, hrecent, hquiet, hk⟩
        rcases List.suffix_concat_iff.mp hrecent with rfl | ⟨recent, rfl, -⟩
        · simpa using hk
        · have hcleared := hquiet e (by simp)
          rw [hclears] at hcleared
          cases hcleared
    | false =>
      have hcount : (if counts e then streak counts clears tr + 1 else streak counts clears tr) =
          streak counts clears tr + [e].countP counts := by
        cases hcounts : counts e <;> simp [hcounts]
      rw [if_neg (by simp), hcount]
      constructor
      · intro hk
        obtain ⟨recent, hrecent, hquiet, hle⟩ :=
          ih.mp (show k - [e].countP counts ≤ streak counts clears tr by omega)
        refine ⟨recent ++ [e], ?_, ?_, ?_⟩
        · obtain ⟨before, rfl⟩ := hrecent
          exact ⟨before, by simp⟩
        · intro x hx
          rcases List.mem_append.mp hx with hx | hx
          · exact hquiet x hx
          · rwa [List.mem_singleton.mp hx]
        · rw [List.countP_append]
          omega
      · rintro ⟨recent, hrecent, hquiet, hk⟩
        rcases List.suffix_concat_iff.mp hrecent with rfl | ⟨recent, rfl, hsuffix⟩
        · simp at hk
          omega
        · rw [List.countP_append] at hk
          have hle := ih.mpr ⟨recent, hsuffix,
            fun x hx => hquiet x (List.mem_append_left _ hx), le_rfl⟩
          omega

end Streaks
