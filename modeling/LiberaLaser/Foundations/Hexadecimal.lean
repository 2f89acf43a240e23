import LiberaLaser.Foundations.ByteString
import Mathlib.Algebra.Order.Group.Nat
import Mathlib.Data.Fintype.Basic
import Mathlib.Data.UInt

/-!
# Hexadecimal texts

Numbers of a fixed width and byte strings are written with sixteen digits, which are upper or lower
case. Both ways of writing are injective: a text of one width is the text of one number
(`number_inj`), and the text of some bytes is that of no others (`bytes_injective`).
-/

namespace Hexadecimal

/-- The digit for a number below sixteen, in lower case. -/
def hexDigit (n : UInt8) : UInt8 := if n < 10 then 48 + n else 87 + n

/-- Sixteen different digits. -/
structure Alphabet where
  digit : Fin 16 → UInt8
  injective : Function.Injective digit

/-- The digits from `0` to `F`. -/
def upper : Alphabet where
  digit n := if n.val < 10 then UInt8.ofNat (48 + n.val) else UInt8.ofNat (55 + n.val)
  injective := by decide

/-- The digits from `0` to `f`. -/
def lower : Alphabet where
  digit n := if n.val < 10 then UInt8.ofNat (48 + n.val) else UInt8.ofNat (87 + n.val)
  injective := by decide

variable (A : Alphabet)

/-- The last digit of a number. -/
def Alphabet.lastDigit (n : ℕ) : UInt8 := A.digit (Fin.ofNat 16 n)

/-- The last digits of a number, as many as the width. -/
def number : ℕ → ℕ → ByteString
  | 0, _ => []
  | width + 1, n => number width (n / 16) ++ [A.lastDigit n]

/-- Two digits for each byte. -/
def bytes (bs : ByteString) : ByteString :=
  bs.flatMap fun b => [A.lastDigit (b.toNat / 16), A.lastDigit b.toNat]

variable {A}

theorem lastDigit_inj {n m : ℕ} (h : A.lastDigit n = A.lastDigit m) : n % 16 = m % 16 :=
  congrArg Fin.val (A.injective h)

@[simp] theorem length_number (width n : ℕ) : (number A width n).length = width := by
  induction width generalizing n with
  | zero => rfl
  | succ width ih => rw [number, List.length_append, ih, List.length_singleton]

@[simp] theorem length_bytes (bs : ByteString) : (bytes A bs).length = 2 * bs.length := by
  induction bs with
  | nil => rfl
  | cons b bs ih =>
    rw [bytes, List.flatMap_cons, List.length_append, List.length_cons, ← bytes, ih]
    simp
    omega

/-- **Numbers that fit into the width have different texts.** -/
theorem number_inj {width n m : ℕ} (hn : n < 16 ^ width) (hm : m < 16 ^ width)
    (h : number A width n = number A width m) : n = m := by
  induction width generalizing n m with
  | zero => omega
  | succ width ih =>
    rw [number, number] at h
    obtain ⟨hhigh, hlow⟩ := List.append_inj' h rfl
    have hdiv : n / 16 = m / 16 := by
      refine ih ?_ ?_ hhigh
      · exact Nat.div_lt_of_lt_mul (by rwa [← Nat.pow_succ'])
      · exact Nat.div_lt_of_lt_mul (by rwa [← Nat.pow_succ'])
    have hmod := lastDigit_inj (List.singleton_inj.mp hlow)
    omega

theorem bytes_injective : Function.Injective (bytes A) := by
  intro bs cs h
  induction bs generalizing cs with
  | nil => cases cs with
    | nil => rfl
    | cons c cs => simp [bytes] at h
  | cons b bs ih => cases cs with
    | nil => simp [bytes] at h
    | cons c cs =>
      simp only [bytes, List.flatMap_cons, List.cons_append, List.nil_append, List.cons.injEq] at h
      obtain ⟨hhigh, hlow, hrest⟩ := h
      have hdiv := lastDigit_inj hhigh
      have hmod := lastDigit_inj hlow
      have hb := b.toNat_lt
      have hc := c.toNat_lt
      have hbc : b = c := UInt8.toNat_inj.mp (by omega)
      rw [hbc, ih hrest]

/-- A property of all digits is one of every byte of a text. -/
theorem forall_mem_number {P : UInt8 → Prop} (hP : ∀ d, P (A.digit d)) (width n : ℕ) :
    ∀ b ∈ number A width n, P b := by
  induction width generalizing n with
  | zero => simp [number]
  | succ width ih =>
    intro b hb
    rw [number, List.mem_append] at hb
    rcases hb with hb | hb
    · exact ih _ b hb
    · rw [List.mem_singleton.mp hb]
      exact hP _

theorem forall_mem_bytes {P : UInt8 → Prop} (hP : ∀ d, P (A.digit d)) (bs : ByteString) :
    ∀ b ∈ bytes A bs, P b := by
  intro b hb
  obtain ⟨c, -, hb⟩ := List.mem_flatMap.mp hb
  simp only [List.mem_cons, List.not_mem_nil, or_false] at hb
  rcases hb with rfl | rfl
  · exact hP _
  · exact hP _

end Hexadecimal
