import LiberaLaser.Core.Scheduler.Model
import Mathlib.Algebra.Order.Field.Rat
import Mathlib.Data.Rat.Cast.Lemmas
import Mathlib.Tactic.FieldSimp
import Mathlib.Tactic.NormNum

/-!
# Exact arithmetic

What the core computes with rounded numbers is a statement about numbers of a field. `ExactArith`
says that the operations of a floating type are those of the field, with any square root.
-/

namespace LiberaLaser

open FloatArith

/-- The operations of a floating type are exact. -/
structure ExactArith (F K : Type) [FloatArith F] [Field K] [LinearOrder K]
    [IsStrictOrderedRing K] where
  val : F → K
  injective : Function.Injective val
  val_add : ∀ a b, val (a + b) = val a + val b
  val_sub : ∀ a b, val (a - b) = val a - val b
  val_mul : ∀ a b, val (a * b) = val a * val b
  val_div : ∀ a b, val (a / b) = val a / val b
  val_neg : ∀ a, val (-a) = -val a
  val_ofScientific : ∀ m s e,
    val (OfScientific.ofScientific m s e) = OfScientific.ofScientific m s e
  val_ofNat : ∀ n : ℕ, val (ofNat n) = n
  lt_iff : ∀ a b, lt a b = true ↔ val a < val b

namespace ExactArith

def rat : ExactArith ℚ ℚ where
  val := id
  injective := Function.injective_id
  val_add _ _ := rfl
  val_sub _ _ := rfl
  val_mul _ _ := rfl
  val_div _ _ := rfl
  val_neg _ := rfl
  val_ofScientific _ _ _ := by
    exact Rat.cast_ofScientific _ _ _
  val_ofNat _ := rfl
  lt_iff _ _ := decide_eq_true_iff

variable {F K : Type} [FloatArith F] [Field K] [LinearOrder K] [IsStrictOrderedRing K]
  (arith : ExactArith F K) {t : F}

theorem val_clamp_unit (h : 0 ≤ arith.val t) (h' : arith.val t ≤ 1) : clamp t 0.0 1.0 = t := by
  have hlow : ¬lt t 0.0 = true := by
    rw [arith.lt_iff, arith.val_ofScientific]
    norm_num
    exact h
  have hhigh : ¬lt 1.0 t = true := by
    rw [arith.lt_iff, arith.val_ofScientific]
    norm_num
    exact h'
  rw [clamp, if_neg hlow, if_neg hhigh]

/-- A run of points starts where it should. -/
theorem val_cubicEaseInOut_zero (h : arith.val t = 0) :
    arith.val (FrameScheduler.cubicEaseInOut t) = 0 := by
  have hhalf : lt t 0.5 = true := by
    rw [arith.lt_iff, arith.val_ofScientific, h]
    norm_num
  rw [FrameScheduler.cubicEaseInOut, arith.val_clamp_unit (le_of_eq h.symm) (by rw [h]; norm_num)]
  simp only [hhalf, if_true, arith.val_mul, h, mul_zero]

/-- A run of points ends where it should. -/
theorem val_cubicEaseInOut_one (h : arith.val t = 1) :
    arith.val (FrameScheduler.cubicEaseInOut t) = 1 := by
  have hhalf : ¬lt t 0.5 = true := by
    rw [arith.lt_iff, arith.val_ofScientific, h]
    norm_num
  rw [FrameScheduler.cubicEaseInOut, arith.val_clamp_unit (by rw [h]; norm_num) (le_of_eq h)]
  simp only [if_neg hhalf, arith.val_sub, arith.val_div, arith.val_mul, arith.val_add,
    arith.val_neg, arith.val_ofScientific, h]
  norm_num

end ExactArith

end LiberaLaser
