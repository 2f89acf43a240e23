import LiberaLaser.Core.LaserPoint
import LiberaLaser.Foundations.Rounding

/-!
# Rounded arithmetic

What is known of a `double`: it represents a number, small integers are represented exactly, and an
operation gives the exact result of the numbers represented, rounded, as long as that stays within
the range.
-/

namespace LiberaLaser

open FloatArith

/-- The operations of a floating type are those of the rational numbers, rounded. -/
structure RoundedArith (F : Type) [FloatArith F] (precision : ℕ) where
  rounding : Rounding precision
  Represents : F → ℚ → Prop
  ofNat : ∀ n : ℕ, n ≤ 2 ^ precision → Represents (FloatArith.ofNat n) n
  half : Represents 0.5 (1 / 2)
  add : ∀ {a b x y}, Represents a x → Represents b y → |x + y| ≤ 2 ^ 64 →
    Represents (a + b) (rounding.round (x + y))
  mul : ∀ {a b x y}, Represents a x → Represents b y → |x * y| ≤ 2 ^ 64 →
    Represents (a * b) (rounding.round (x * y))
  div : ∀ {a b x y}, Represents a x → Represents b y → y ≠ 0 → |x / y| ≤ 2 ^ 64 →
    Represents (a / b) (rounding.round (x / y))
  trunc : ∀ {a x}, Represents a x → 0 ≤ x → FloatArith.trunc a = ⌊x⌋

namespace RoundedArith

/-- The exact instance. -/
def rat (precision : ℕ) : RoundedArith ℚ precision where
  rounding := .exactly precision
  Represents a x := a = x
  ofNat _ _ := rfl
  half := by norm_num
  add ha hb _ := by rw [ha, hb]; rfl
  mul ha hb _ := by rw [ha, hb]; rfl
  div ha hb _ _ := by rw [ha, hb]; rfl
  trunc {a x} ha hx := by
    subst ha
    exact (Int.tdiv_eq_ediv_of_nonneg (Rat.num_nonneg.mpr hx)).trans (Rat.floor_def a).symm

variable {F : Type} [FloatArith F]

/-- **A scaled rate is rounded to the nearest integer.** -/
theorem toSize_mul_div_add_half (arith : RoundedArith F 53) {rate count total : ℕ}
    (hrate : rate < 2 ^ 16) (hcount : count < 2 ^ 16) (htotal : 0 < total)
    (htotal' : total < 2 ^ 16) :
    toSize (FloatArith.ofNat rate * FloatArith.ofNat count / FloatArith.ofNat total + 0.5 : F) =
      (2 * (rate * count) + total) / (2 * total) := by
  have hproduct : rate * count < 2 ^ 32 := by
    have := Nat.mul_lt_mul'' hrate hcount
    omega
  have htotalQ : (1 : ℚ) ≤ total := by exact_mod_cast htotal
  -- the product of the two counts is exact
  have hmul := arith.mul (arith.ofNat rate (by omega)) (arith.ofNat count (by omega)) (by
    have : (rate * count : ℚ) ≤ 2 ^ 32 := by exact_mod_cast hproduct.le
    rw [abs_of_nonneg (by positivity)]
    linarith)
  rw [← Nat.cast_mul, arith.rounding.round_natCast (by omega)] at hmul
  obtain ⟨q, hq⟩ : ∃ q : ℚ, ((rate * count : ℕ) : ℚ) / total = q := ⟨_, rfl⟩
  have hnonneg : 0 ≤ q := hq ▸ by positivity
  have hle : q ≤ (2 ^ 32 : ℕ) := by
    have hcast : ((rate * count : ℕ) : ℚ) ≤ (2 ^ 32 : ℕ) := by exact_mod_cast hproduct.le
    rw [← hq, div_le_iff₀ (by linarith)]
    nlinarith
  have hround : arith.rounding.round q ≤ (2 ^ 32 : ℕ) :=
    arith.rounding.round_le_natCast (by decide) hle
  have hround' : 0 ≤ arith.rounding.round q := arith.rounding.round_nonneg hnonneg
  push_cast at hle hround
  have hdiv := arith.div hmul (arith.ofNat total (by omega)) (by linarith) (by
    rw [hq, abs_of_nonneg hnonneg]
    linarith)
  rw [hq] at hdiv
  have hadd := arith.add hdiv arith.half (by
    rw [abs_of_nonneg (by linarith)]
    linarith)
  have hfloor := arith.rounding.floor_round_add_half (a := rate * count) htotal htotal'.le
    (by decide) (by omega)
  rw [hq] at hfloor
  rw [toSize, arith.trunc hadd (arith.rounding.round_nonneg (by linarith)), hfloor,
    Int.toNat_natCast]

end RoundedArith

end LiberaLaser
