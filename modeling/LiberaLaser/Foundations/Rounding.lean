import Mathlib.Algebra.Order.Floor.Ring
import Mathlib.Data.Rat.Floor
import Mathlib.Tactic.FieldSimp
import Mathlib.Tactic.Linarith
import Mathlib.Tactic.NormNum

/-!
# Rounded arithmetic

A rounding to some precision keeps the order of numbers, and keeps the numbers that have so many
bits. No more is needed to see that a quotient of small integers, rounded, is rounded to the nearest
integer by adding one half and cutting off (`floor_round_add_half`): the exact sum is either an
integer or further from the next one than the rounding can reach.
-/

/-- A monotone map that keeps the numbers with `precision` bits. -/
structure Rounding (precision : ℕ) where
  round : ℚ → ℚ
  monotone : Monotone round
  round_dyadic : ∀ k j : ℕ, k ≤ 2 ^ precision → j ≤ precision → round (k / 2 ^ j) = k / 2 ^ j

namespace Rounding

variable {precision : ℕ}

/-- Arithmetic without rounding. -/
def exactly (precision : ℕ) : Rounding precision where
  round := id
  monotone := monotone_id
  round_dyadic _ _ _ _ := rfl

variable (r : Rounding precision)

theorem round_le {x : ℚ} {k j : ℕ} (hk : k ≤ 2 ^ precision) (hj : j ≤ precision)
    (h : x ≤ k / 2 ^ j) : r.round x ≤ k / 2 ^ j :=
  (r.monotone h).trans (r.round_dyadic k j hk hj).le

theorem le_round {x : ℚ} {k j : ℕ} (hk : k ≤ 2 ^ precision) (hj : j ≤ precision)
    (h : k / 2 ^ j ≤ x) : k / 2 ^ j ≤ r.round x :=
  (r.round_dyadic k j hk hj).ge.trans (r.monotone h)

theorem round_natCast {n : ℕ} (h : n ≤ 2 ^ precision) : r.round n = n := by
  simpa using r.round_dyadic n 0 h (Nat.zero_le _)

theorem round_le_natCast {n : ℕ} (h : n ≤ 2 ^ precision) {x : ℚ} (hx : x ≤ n) : r.round x ≤ n :=
  (r.monotone hx).trans (r.round_natCast h).le

theorem round_nonneg {x : ℚ} (hx : 0 ≤ x) : 0 ≤ r.round x := by
  have h := r.monotone hx
  rwa [← Nat.cast_zero, r.round_natCast (Nat.zero_le _), Nat.cast_zero] at h

/-- The number next below `t + 1` that has `bits` bits behind the point. -/
theorem cast_pred_mul_pow (t bits : ℕ) :
    (((t + 1) * 2 ^ bits - 1 : ℕ) : ℚ) / 2 ^ bits = t + 1 - 1 / 2 ^ bits := by
  rw [Nat.cast_sub (Nat.mul_pos (Nat.succ_pos t) (Nat.two_pow_pos bits))]
  push_cast
  field_simp

variable {a n t bits : ℕ}

/-- The rounded quotient stays clear of the next half. -/
theorem round_div_le (hn : 0 < n) (hbits : n ≤ 2 ^ bits) (hprecision : bits + 1 ≤ precision)
    (hsize : (2 * t + 1) * 2 ^ bits ≤ 2 ^ precision) (h : 2 * a + 1 ≤ (2 * t + 1) * n) :
    r.round (a / n) ≤ t + 1 / 2 - 1 / 2 ^ (bits + 1) := by
  have hnQ : (0 : ℚ) < n := by exact_mod_cast hn
  have hnbits : (n : ℚ) ≤ 2 ^ bits := by exact_mod_cast hbits
  have hQ : (2 * a + 1 : ℚ) ≤ (2 * t + 1) * n := by exact_mod_cast h
  have hpow : (2 : ℚ) ^ (bits + 1) = 2 * 2 ^ bits := by ring
  have hdyadic : (((2 * t + 1) * 2 ^ bits - 1 : ℕ) : ℚ) / 2 ^ (bits + 1) =
      t + 1 / 2 - 1 / 2 ^ (bits + 1) := by
    rw [Nat.cast_sub (Nat.mul_pos (Nat.succ_pos _) (Nat.two_pow_pos bits)), hpow]
    push_cast
    field_simp
  rw [← hdyadic]
  refine r.round_le ((Nat.sub_le _ _).trans hsize) hprecision ?_
  rw [hdyadic, hpow]
  have hhalf : (1 : ℚ) / (2 * 2 ^ bits) ≤ 1 / (2 * n) :=
    one_div_le_one_div_of_le (by positivity) (by linarith)
  have hquotient : (a : ℚ) / n ≤ t + 1 / 2 - 1 / (2 * n) := by
    rw [div_le_iff₀ hnQ]
    field_simp
    linarith
  linarith

/-- The rounded quotient keeps above the half below it. -/
theorem le_round_div (hn : 0 < n) (hprecision : 1 ≤ precision) (hsize : 2 * t ≤ 2 ^ precision)
    (h : 2 * t * n ≤ 2 * a + n) : (t : ℚ) - 1 / 2 ≤ r.round (a / n) := by
  have hnQ : (0 : ℚ) < n := by exact_mod_cast hn
  have hQ : (2 * t * n : ℚ) ≤ 2 * a + n := by exact_mod_cast h
  rcases Nat.eq_zero_or_pos t with rfl | hpos
  · have hnonneg : 0 ≤ r.round (a / n) := r.round_nonneg (by positivity)
    rw [Nat.cast_zero]
    linarith
  · have hdyadic : ((2 * t - 1 : ℕ) : ℚ) / 2 ^ 1 = t - 1 / 2 := by
      rw [Nat.cast_sub (by omega)]
      push_cast
      field_simp
    rw [← hdyadic]
    refine r.le_round ((Nat.sub_le _ _).trans hsize) hprecision ?_
    rw [hdyadic, le_div_iff₀ hnQ]
    linarith

theorem floor_round_eq {x : ℚ} (hprecision : bits ≤ precision)
    (hsize : (t + 1) * 2 ^ bits ≤ 2 ^ precision) (hlow : (t : ℚ) ≤ x)
    (hhigh : x ≤ t + 1 - 1 / 2 ^ bits) : ⌊r.round x⌋ = t := by
  rw [Int.floor_eq_iff]
  constructor
  · have ht : t ≤ 2 ^ precision := by
      have : t + 1 ≤ (t + 1) * 2 ^ bits := Nat.le_mul_of_pos_right _ (Nat.two_pow_pos bits)
      omega
    have hround := r.monotone hlow
    rw [r.round_natCast ht] at hround
    exact_mod_cast hround
  · have hround := r.round_le ((Nat.sub_le _ 1).trans hsize) hprecision
      (hhigh.trans (cast_pred_mul_pow t bits).ge)
    have hpos : (0 : ℚ) < 1 / 2 ^ bits := by positivity
    rw [cast_pred_mul_pow] at hround
    push_cast
    linarith

/-- **Adding one half and cutting off rounds a quotient to the nearest integer.** -/
theorem floor_round_add_half (hn : 0 < n) (hbits : n ≤ 2 ^ bits)
    (hprecision : bits + 1 ≤ precision) (hsize : (a + 2) * 2 ^ (bits + 1) ≤ 2 ^ precision) :
    ⌊r.round (r.round (a / n) + 1 / 2)⌋ = ((2 * a + n) / (2 * n) : ℕ) := by
  obtain ⟨t, ht⟩ : ∃ t, (2 * a + n) / (2 * n) = t := ⟨_, rfl⟩
  have hlow : 2 * t * n ≤ 2 * a + n := by
    have h := Nat.div_mul_le_self (2 * a + n) (2 * n)
    rw [ht] at h
    linarith
  have hhigh : 2 * a + 1 ≤ (2 * t + 1) * n := by
    have h := Nat.lt_mul_of_div_lt (Nat.lt_succ_self ((2 * a + n) / (2 * n))) (by omega)
    rw [ht] at h
    nlinarith
  have hta : t ≤ a + 1 := by
    have : 2 * t * 1 ≤ 2 * t * n := Nat.mul_le_mul_left _ hn
    nlinarith
  have hroom : (t + 1) * 2 ^ (bits + 1) ≤ 2 ^ precision :=
    le_trans (Nat.mul_le_mul_right _ (by omega)) hsize
  have hpow : 2 ^ (bits + 1) = 2 * 2 ^ bits := by ring
  have hone : 1 ≤ 2 ^ bits := Nat.one_le_two_pow
  rw [ht]
  refine r.floor_round_eq hprecision hroom ?_ ?_
  · have := r.le_round_div hn (by omega) (by rw [hpow] at hroom; nlinarith) hlow
    linarith
  · have := r.round_div_le hn hbits hprecision (by rw [hpow] at hroom; nlinarith) hhigh
    linarith

end Rounding
