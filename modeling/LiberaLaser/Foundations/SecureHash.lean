import Mathlib.Analysis.SpecialFunctions.Pow.NthRootLemmas
import Mathlib.Data.List.Forall2
import Mathlib.Data.List.GetD
import Mathlib.Data.List.Induction
import Mathlib.Data.Nat.Prime.Basic
import Mathlib.Tactic.Ring

/-!
# The secure hash algorithm

SHA-256 as its standard defines it, for messages of any number of bits. The message is padded to
whole blocks of 512 bits, and each block is mixed into eight words of 32 bits, which are the digest
in the end. The constants are the first bits of the roots of the first primes.
-/

namespace SecureHash

abbrev Word := BitVec 32

/-! ## Bits -/

/-- The number that some bits stand for, the most significant one first. -/
def value (bits : List Bool) : ℕ := bits.foldl (fun n bit => 2 * n + bit.toNat) 0

/-- The last bits of a number, the most significant one first. -/
def bits (width n : ℕ) : List Bool :=
  (List.range width).map fun i => n.testBit (width - 1 - i)

/-- The bits of a string of bytes. -/
def bytes (s : List UInt8) : List Bool := s.flatMap fun b => bits 8 b.toNat

/-! ## Functions and constants -/

def choose (x y z : Word) : Word := (x &&& y) ^^^ (~~~x &&& z)

def majority (x y z : Word) : Word := (x &&& y) ^^^ (x &&& z) ^^^ (y &&& z)

def upperSigma0 (x : Word) : Word := x.rotateRight 2 ^^^ x.rotateRight 13 ^^^ x.rotateRight 22

def upperSigma1 (x : Word) : Word := x.rotateRight 6 ^^^ x.rotateRight 11 ^^^ x.rotateRight 25

def lowerSigma0 (x : Word) : Word := x.rotateRight 7 ^^^ x.rotateRight 18 ^^^ x >>> 3

def lowerSigma1 (x : Word) : Word := x.rotateRight 17 ^^^ x.rotateRight 19 ^^^ x >>> 10

/-- The first 64 primes. -/
def primes : List ℕ := (List.range 312).filter Nat.Prime

/-- The first 32 bits of the fractional part of the `k`th root of a number. -/
def rootFraction (k n : ℕ) : Word := BitVec.ofNat 32 (Nat.nthRoot k (n * 2 ^ (32 * k)))

def roundConstant (t : ℕ) : Word := rootFraction 3 (primes.getD t 0)

/-- The working variables, or the words of a hash value. -/
structure Variables where
  a : Word
  b : Word
  c : Word
  d : Word
  e : Word
  f : Word
  g : Word
  h : Word
  deriving DecidableEq

namespace Variables

def initial : Variables :=
  ⟨rootFraction 2 2, rootFraction 2 3, rootFraction 2 5, rootFraction 2 7, rootFraction 2 11,
    rootFraction 2 13, rootFraction 2 17, rootFraction 2 19⟩

def add (v w : Variables) : Variables :=
  ⟨v.a + w.a, v.b + w.b, v.c + w.c, v.d + w.d, v.e + w.e, v.f + w.f, v.g + w.g, v.h + w.h⟩

def toBits (v : Variables) : List Bool :=
  [v.a, v.b, v.c, v.d, v.e, v.f, v.g, v.h].flatMap fun w => bits 32 w.toNat

end Variables

/-! ## Preprocessing -/

/-- The number of zeros in the padding. -/
def zeros (length : ℕ) : ℕ := (959 - length % 512) % 512

/-- The zeros leave the last block room for the length, and are the fewest that do. -/
theorem zeros_spec (length : ℕ) :
    (length + 1 + zeros length) % 512 = 448 ∧ ∀ k < zeros length, (length + 1 + k) % 512 ≠ 448 := by
  rw [zeros]
  constructor
  · omega
  · intro k hk
    omega

def padding (length : ℕ) : List Bool :=
  true :: (List.replicate (zeros length) false ++ bits 64 length)

def pad (message : List Bool) : List Bool := message ++ padding message.length

/-! ## The hash computation -/

/-- A word of the message schedule. -/
def schedule (block : List Bool) (t : ℕ) : Word :=
  if t < 16 then BitVec.ofNat 32 (value ((block.drop (32 * t)).take 32))
  else
    lowerSigma1 (schedule block (t - 2)) + schedule block (t - 7) +
      lowerSigma0 (schedule block (t - 15)) + schedule block (t - 16)
termination_by t

namespace Variables

def step (v : Variables) (constant word : Word) : Variables :=
  let temp1 := v.h + upperSigma1 v.e + choose v.e v.f v.g + constant + word
  let temp2 := upperSigma0 v.a + majority v.a v.b v.c
  ⟨temp1 + temp2, v.a, v.b, v.c, v.d + temp1, v.e, v.f, v.g⟩

/-- The first steps with a block. -/
def steps (v : Variables) (block : List Bool) : ℕ → Variables
  | 0 => v
  | t + 1 => (v.steps block t).step (roundConstant t) (schedule block t)

def compress (v : Variables) (block : List Bool) : Variables := (v.steps block 64).add v

end Variables

/-- The intermediate hash value after some blocks. -/
def hashValue (padded : List Bool) : ℕ → Variables
  | 0 => .initial
  | i + 1 => (hashValue padded i).compress ((padded.drop (512 * i)).take 512)

/-- The SHA-256 digest of a message. -/
def digest (message : List Bool) : List Bool :=
  (hashValue (pad message) ((pad message).length / 512)).toBits

/-! ## The constants -/

/-- Trial division. -/
theorem prime_iff_of_lt {n : ℕ} (hn : n < 324) :
    n.Prime ↔ 2 ≤ n ∧ ∀ m < 18, 2 ≤ m → m * m ≤ n → n % m ≠ 0 := by
  rw [Nat.prime_def_le_sqrt]
  refine and_congr_right fun _ => ⟨fun h m _ hm hsq hmod =>
    h m hm (Nat.le_sqrt.mpr hsq) (Nat.dvd_of_mod_eq_zero hmod), fun h m hm hsq hdvd => ?_⟩
  have hsq := Nat.le_sqrt.mp hsq
  exact h m (by nlinarith) hm hsq (Nat.mod_eq_zero_of_dvd hdvd)

theorem primes_eq : primes = [2, 3, 5, 7, 11, 13, 17, 19, 23, 29, 31, 37, 41, 43, 47, 53, 59, 61,
    67, 71, 73, 79, 83, 89, 97, 101, 103, 107, 109, 113, 127, 131, 137, 139, 149, 151, 157, 163,
    167, 173, 179, 181, 191, 193, 197, 199, 211, 223, 227, 229, 233, 239, 241, 251, 257, 263, 269,
    271, 277, 281, 283, 293, 307, 311] := by
  have htrial : primes = (List.range 312).filter fun n =>
      2 ≤ n ∧ ∀ m < 18, 2 ≤ m → m * m ≤ n → n % m ≠ 0 :=
    List.filter_congr fun n hn => by
      rw [decide_eq_decide]
      exact prime_iff_of_lt ((List.mem_range.mp hn).trans (by decide))
  rw [htrial]
  decide +kernel

/-- Bits that stand behind the point of a root below 8. -/
def IsRootFraction (k n : ℕ) (w : Word) : Prop :=
  ∃ whole < 8, (whole * 2 ^ 32 + w.toNat) ^ k ≤ n * 2 ^ (32 * k) ∧
    n * 2 ^ (32 * k) < (whole * 2 ^ 32 + w.toNat + 1) ^ k

instance (k n : ℕ) (w : Word) : Decidable (IsRootFraction k n w) :=
  inferInstanceAs (Decidable (∃ whole < 8, _ ∧ _))

theorem rootFraction_eq {k n : ℕ} {w : Word} (hk : k ≠ 0) (h : IsRootFraction k n w) :
    rootFraction k n = w := by
  obtain ⟨whole, -, hle, hlt⟩ := h
  have hroot : Nat.nthRoot k (n * 2 ^ (32 * k)) = whole * 2 ^ 32 + w.toNat :=
    le_antisymm (Nat.le_of_lt_succ ((Nat.nthRoot_lt_iff hk).mpr hlt))
      ((Nat.le_nthRoot_iff hk).mpr hle)
  rw [rootFraction, hroot]
  apply BitVec.eq_of_toNat_eq
  rw [BitVec.toNat_ofNat, Nat.mul_add_mod', Nat.mod_eq_of_lt w.isLt]

theorem map_getD_range' {α β : Type*} (f : α → β) (l : List α) (x : α) :
    (List.range' 0 l.length).map (fun t => f (l.getD t x)) = l.map f := by
  apply List.ext_getElem
  · rw [List.length_map, List.length_map, List.length_range']
  · intro t h h'
    rw [List.length_map] at h'
    rw [List.getElem_map, List.getElem_map, List.getElem_range', Nat.zero_add, Nat.one_mul,
      List.getD_eq_getElem _ _ h']

theorem map_roundConstant :
    (List.range' 0 64).map roundConstant = primes.map (rootFraction 3) := by
  have hlength : primes.length = 64 := by
    rw [primes_eq]
    rfl
  rw [← map_getD_range' (rootFraction 3) primes 0, hlength]
  rfl

/-! ## Bits of numbers -/

theorem foldl_value (bits : List Bool) (n : ℕ) :
    bits.foldl (fun n bit => 2 * n + bit.toNat) n = n * 2 ^ bits.length + value bits := by
  induction bits generalizing n with
  | nil => simp [value]
  | cons bit bits ih =>
    have hvalue : value (bit :: bits) = bit.toNat * 2 ^ bits.length + value bits := by
      rw [value, List.foldl_cons, ih, Nat.mul_zero, Nat.zero_add]
    rw [List.foldl_cons, ih, hvalue, List.length_cons, Nat.pow_succ]
    ring

theorem value_append (s t : List Bool) : value (s ++ t) = value s * 2 ^ t.length + value t := by
  rw [value, List.foldl_append, foldl_value t]
  rfl

@[simp] theorem length_bits (width n : ℕ) : (bits width n).length = width := by
  rw [bits, List.length_map, List.length_range]

theorem bits_add (v w n : ℕ) : bits (v + w) n = bits v (n / 2 ^ w) ++ bits w n := by
  rw [bits, List.range_add, List.map_append, List.map_map, bits, bits]
  congr 1
  · refine List.map_congr_left fun i hi => ?_
    have hi := List.mem_range.mp hi
    rw [Nat.testBit_div_two_pow]
    congr 1
    omega
  · refine List.map_congr_left fun i _ => ?_
    rw [Function.comp_apply]
    congr 1
    omega

theorem bits_mod (width n : ℕ) : bits width (n % 2 ^ width) = bits width n := by
  refine List.map_congr_left fun i hi => ?_
  have hi := List.mem_range.mp hi
  have hlt : width - 1 - i < width := by omega
  rw [Nat.testBit_mod_two_pow, decide_eq_true hlt, Bool.true_and]

theorem value_bits (width n : ℕ) : value (bits width n) = n % 2 ^ width := by
  induction width with
  | zero =>
    rw [Nat.pow_zero, Nat.mod_one]
    rfl
  | succ width ih =>
    have hone (m : ℕ) : value (bits 1 m) = 2 * 0 + (m.testBit 0).toNat := rfl
    have hbit (m : ℕ) : value (bits 1 m) = m % 2 := by
      rw [hone, Nat.toNat_testBit, Nat.pow_zero, Nat.div_one, Nat.mul_zero, Nat.zero_add]
    rw [Nat.add_comm, bits_add, value_append, length_bits, ih, hbit, Nat.add_comm 1,
      Nat.mod_pow_succ]
    ring

theorem bytes_append (s t : List UInt8) : bytes (s ++ t) = bytes s ++ bytes t :=
  List.flatMap_append

@[simp] theorem length_bytes (s : List UInt8) : (bytes s).length = 8 * s.length := by
  induction s with
  | nil => rfl
  | cons b s ih =>
    have hcons : bytes (b :: s) = bits 8 b.toNat ++ bytes s := rfl
    rw [hcons, List.length_append, ih, length_bits, List.length_cons]
    omega

theorem bytes_flatten (blocks : List (List UInt8)) :
    bytes blocks.flatten = (blocks.map bytes).flatten := by
  induction blocks with
  | nil => rfl
  | cons block blocks ih =>
    rw [List.flatten_cons, bytes_append, ih, List.map_cons, List.flatten_cons]

theorem bytes_replicate_zero (n : ℕ) :
    bytes (List.replicate n 0) = List.replicate (8 * n) false := by
  induction n with
  | zero => rfl
  | succ n ih =>
    have hcons : bytes (List.replicate (n + 1) 0) =
        List.replicate 8 false ++ bytes (List.replicate n 0) := rfl
    rw [hcons, ih, List.replicate_append_replicate]
    congr 1
    omega

/-! ## Blocks -/

theorem hashValue_append {s : List Bool} (t : List Bool) {n : ℕ} (h : 512 * n ≤ s.length) :
    hashValue (s ++ t) n = hashValue s n := by
  induction n with
  | zero => rfl
  | succ n ih =>
    have hle : 512 * n ≤ s.length := by omega
    have hlong : 512 ≤ (s.drop (512 * n)).length := by
      rw [List.length_drop]
      omega
    rw [hashValue, hashValue, ih hle, List.drop_append_of_le_length hle,
      List.take_append_of_le_length hlong]

theorem length_flatten_blocks {α : Type*} {blocks : List (List α)} {size : ℕ}
    (h : ∀ b ∈ blocks, b.length = size) : blocks.flatten.length = size * blocks.length := by
  induction blocks with
  | nil => rfl
  | cons block blocks ih =>
    obtain ⟨hblock, hblocks⟩ := List.forall_mem_cons.mp h
    rw [List.flatten_cons, List.length_append, hblock, ih hblocks, List.length_cons, Nat.mul_succ,
      Nat.add_comm]

/-- The hash value of some blocks. -/
theorem hashValue_flatten (blocks : List (List Bool)) (h : ∀ b ∈ blocks, b.length = 512) :
    hashValue blocks.flatten blocks.length = blocks.foldl Variables.compress .initial := by
  induction blocks using List.reverseRecOn with
  | nil => rfl
  | append_singleton blocks block ih =>
    have hblocks : ∀ b ∈ blocks, b.length = 512 := fun b hb => h b (List.mem_append_left _ hb)
    have hblock : block.length = 512 := h block (List.mem_append_right _ List.mem_cons_self)
    have hlength := length_flatten_blocks hblocks
    rw [List.flatten_append, List.flatten_singleton, List.length_append, List.length_singleton,
      hashValue, hashValue_append block (Nat.le_of_eq hlength.symm), ih hblocks, ← hlength,
      List.drop_left, ← hblock, List.take_length, List.foldl_append, List.foldl_cons,
      List.foldl_nil]

theorem Variables.add_comm (v w : Variables) : v.add w = w.add v := by
  simp only [add, BitVec.add_comm]

/-- The digest of a message that is padded to some blocks. -/
theorem digest_of_blocks {message : List Bool} {blocks : List (List Bool)}
    (h : ∀ b ∈ blocks, b.length = 512) (hpad : pad message = blocks.flatten) :
    digest message = (blocks.foldl Variables.compress .initial).toBits := by
  have hlength : (pad message).length / 512 = blocks.length := by
    rw [hpad, length_flatten_blocks h, Nat.mul_div_cancel_left _ (by decide)]
  rw [digest, hlength, hpad, hashValue_flatten blocks h]

end SecureHash
