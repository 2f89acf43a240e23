import Mathlib.Algebra.Order.Group.Nat
import Mathlib.Data.UInt

/-!
# Numbers in bytes

The number that some bytes stand for, with the highest or the lowest byte first, and the bytes of a
number in a given width, the lowest first. Reading undoes writing where the number fits into the
width (`little_littleBytes`).
-/

namespace Endian

/-- The number with the highest byte first. -/
def big (bytes : List UInt8) : ℕ := bytes.foldl (fun n byte => n * 256 + byte.toNat) 0

/-- The number with the lowest byte first. -/
def little (bytes : List UInt8) : ℕ := bytes.foldr (fun byte n => byte.toNat + 256 * n) 0

/-- The last bytes of a number, the lowest first. -/
def littleBytes : ℕ → ℕ → List UInt8
  | 0, _ => []
  | width + 1, n => UInt8.ofNat n :: littleBytes width (n / 256)

theorem big_lt (bytes : List UInt8) : big bytes < 256 ^ bytes.length := by
  have hfold (n : ℕ) : bytes.foldl (fun n byte => n * 256 + byte.toNat) n <
      (n + 1) * 256 ^ bytes.length := by
    induction bytes generalizing n with
    | nil => simp
    | cons byte bytes ih =>
      have hbyte := byte.toNat_lt
      rw [List.foldl_cons, List.length_cons, Nat.pow_succ']
      calc _ < (n * 256 + byte.toNat + 1) * 256 ^ bytes.length := ih _
        _ ≤ ((n + 1) * 256) * 256 ^ bytes.length := Nat.mul_le_mul_right _ (by omega)
        _ = (n + 1) * (256 * 256 ^ bytes.length) := Nat.mul_assoc ..
  simpa [big] using hfold 0

/-- A number read from a few bytes, however many there are. -/
theorem big_take_lt (width : ℕ) (bytes : List UInt8) : big (bytes.take width) < 256 ^ width :=
  (big_lt _).trans_le (Nat.pow_le_pow_right (by decide) (List.length_take_le _ _))

@[simp] theorem length_littleBytes (width n : ℕ) : (littleBytes width n).length = width := by
  induction width generalizing n with
  | zero => rfl
  | succ width ih => rw [littleBytes, List.length_cons, ih]

/-- **Reading undoes writing.** -/
theorem little_littleBytes {width n : ℕ} (h : n < 256 ^ width) :
    little (littleBytes width n) = n := by
  induction width generalizing n with
  | zero =>
    rw [Nat.pow_zero, Nat.lt_one_iff] at h
    rw [h]
    rfl
  | succ width ih =>
    have hdiv : n / 256 < 256 ^ width := Nat.div_lt_of_lt_mul (by rwa [← Nat.pow_succ'])
    have hrest : little (littleBytes (width + 1) n) =
        (UInt8.ofNat n).toNat + 256 * little (littleBytes width (n / 256)) := rfl
    rw [hrest, ih hdiv, UInt8.toNat_ofNat']
    exact Nat.mod_add_div n 256

end Endian
