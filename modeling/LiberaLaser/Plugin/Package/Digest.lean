import LiberaLaser.Foundations.SecureHash
import LiberaLaser.Plugin.Package.Sha256
import Mathlib.Data.List.GetD
import Mathlib.Tactic.Linarith

/-!
# The digest is SHA-256

The hasher takes a message in pieces of any sizes. What it has mixed so far are whole blocks from
the front of the message, and the rest waits in its own block (`Absorbed`); so how the message was
split makes no difference, and `finish_update` gives the digest of the standard.
-/

namespace LiberaLaser.Plugin

open ByteString SecureHash

/-! ## Words -/

namespace HashWords

def toVariables (v : HashWords) : Variables :=
  ⟨v.a.toBitVec, v.b.toBitVec, v.c.toBitVec, v.d.toBitVec, v.e.toBitVec, v.f.toBitVec,
    v.g.toBitVec, v.h.toBitVec⟩

theorem toVariables_initial : initial.toVariables = .initial := by
  decide +kernel

theorem toBitVec_constants :
    constants.map UInt32.toBitVec = (List.range' 0 64).map roundConstant := by
  have hroots : List.Forall₂ (fun c n => IsRootFraction 3 n c.toBitVec) constants primes := by
    rw [primes_eq]
    decide +kernel
  rw [map_roundConstant, ← List.forall₂_eq_eq_eq, List.forall₂_map_left_iff,
    List.forall₂_map_right_iff]
  exact hroots.imp fun _ _ h => (rootFraction_eq (by decide) h).symm

theorem toVariables_round (v : HashWords) (constant word : UInt32) :
    (v.round constant word).toVariables =
      v.toVariables.step constant.toBitVec word.toBitVec :=
  rfl

theorem toVariables_add (v w : HashWords) :
    (v.add w).toVariables = v.toVariables.add w.toVariables :=
  rfl

theorem toNat_shiftLeft_byte (b : UInt8) {amount : UInt32} {n : ℕ} (h : amount.toNat % 32 = n)
    (hn : n ≤ 24) : (b.toUInt32 <<< amount).toNat = 2 ^ n * b.toNat := by
  have hb := b.toNat_lt
  have hpow : 2 ^ n ≤ 2 ^ 24 := Nat.pow_le_pow_right (by decide) hn
  have hlt : b.toNat * 2 ^ n < 2 ^ 32 := by nlinarith
  rw [UInt32.toNat_shiftLeft, h, UInt8.toNat_toUInt32, Nat.shiftLeft_eq, Nat.mod_eq_of_lt hlt,
    Nat.mul_comm]

theorem toNat_inputWord (b₀ b₁ b₂ b₃ : UInt8) :
    ((b₀.toUInt32 <<< 24) ||| (b₁.toUInt32 <<< 16) ||| (b₂.toUInt32 <<< 8) |||
      b₃.toUInt32).toNat = ((b₀.toNat * 256 + b₁.toNat) * 256 + b₂.toNat) * 256 + b₃.toNat := by
  have h₁ := b₁.toNat_lt
  have h₂ := b₂.toNat_lt
  have h₃ := b₃.toNat_lt
  have hor {a b n : ℕ} (hb : b < 2 ^ n) : 2 ^ n * a ||| b = 2 ^ n * a + b :=
    (Nat.two_pow_add_eq_or_of_lt hb a).symm
  have htwo : 2 ^ 24 * b₀.toNat ||| 2 ^ 16 * b₁.toNat =
      2 ^ 16 * (2 ^ 8 * b₀.toNat + b₁.toNat) := by
    rw [hor (by omega)]
    omega
  have hthree : 2 ^ 16 * (2 ^ 8 * b₀.toNat + b₁.toNat) ||| 2 ^ 8 * b₂.toNat =
      2 ^ 8 * (2 ^ 8 * (2 ^ 8 * b₀.toNat + b₁.toNat) + b₂.toNat) := by
    rw [hor (by omega)]
    omega
  rw [UInt32.toNat_or, UInt32.toNat_or, UInt32.toNat_or, toNat_shiftLeft_byte b₀ rfl (by decide),
    toNat_shiftLeft_byte b₁ rfl (by decide), toNat_shiftLeft_byte b₂ rfl (by decide),
    UInt8.toNat_toUInt32]
  change 2 ^ 24 * b₀.toNat ||| 2 ^ 16 * b₁.toNat ||| 2 ^ 8 * b₂.toNat ||| b₃.toNat = _
  rw [htwo, hthree, hor (by omega)]
  omega

/-- The word of four bytes. -/
theorem toBitVec_inputWord (b₀ b₁ b₂ b₃ : UInt8) :
    ((b₀.toUInt32 <<< 24) ||| (b₁.toUInt32 <<< 16) ||| (b₂.toUInt32 <<< 8) |||
      b₃.toUInt32).toBitVec = BitVec.ofNat 32 (value (bytes [b₀, b₁, b₂, b₃])) := by
  have hbytes : bytes [b₀, b₁, b₂, b₃] = ((bits 8 b₀.toNat ++ bits 8 b₁.toNat) ++
      bits 8 b₂.toNat) ++ bits 8 b₃.toNat := by
    simp only [bytes, List.flatMap_cons, List.flatMap_nil, List.append_nil, List.append_assoc]
  have hbyte (b : UInt8) : b.toNat % 2 ^ 8 = b.toNat := Nat.mod_eq_of_lt b.toNat_lt
  have hvalue : value (bytes [b₀, b₁, b₂, b₃]) =
      ((b₀.toNat * 256 + b₁.toNat) * 256 + b₂.toNat) * 256 + b₃.toNat := by
    simp only [hbytes, value_append, length_bits, value_bits, hbyte]
    rfl
  apply BitVec.eq_of_toNat_eq
  rw [hvalue, BitVec.toNat_ofNat, ← toNat_inputWord, Nat.mod_eq_of_lt (UInt32.toNat_lt _)]
  rfl

/-- The words of a block are its words of 32 bits. -/
theorem toBitVec_inputWords {input : ByteString} {n : ℕ} (h : input.length = 4 * n) :
    (inputWords input).map UInt32.toBitVec =
      (List.range n).map fun t =>
        BitVec.ofNat 32 (value (((bytes input).drop (32 * t)).take 32)) := by
  induction n generalizing input with
  | zero =>
    obtain rfl := List.length_eq_zero_iff.mp h
    rfl
  | succ n ih =>
    obtain ⟨b₀, b₁, b₂, b₃, rest, rfl⟩ : ∃ b₀ b₁ b₂ b₃ rest,
        input = b₀ :: b₁ :: b₂ :: b₃ :: rest := by
      match input, h with
      | b₀ :: b₁ :: b₂ :: b₃ :: rest, _ => exact ⟨b₀, b₁, b₂, b₃, rest, rfl⟩
    have hrest : rest.length = 4 * n := by
      simp only [List.length_cons] at h
      omega
    have hsplit : bytes (b₀ :: b₁ :: b₂ :: b₃ :: rest) = bytes [b₀, b₁, b₂, b₃] ++ bytes rest :=
      bytes_append [b₀, b₁, b₂, b₃] rest
    have hlength : (bytes [b₀, b₁, b₂, b₃]).length = 32 := length_bytes _
    rw [inputWords, List.map_cons, toBitVec_inputWord, ih hrest, List.range_succ_eq_map,
      List.map_cons, List.map_map, hsplit]
    refine congrArg₂ List.cons ?_ ?_
    · rw [Nat.mul_zero, List.drop_zero, ← hlength, List.take_left]
    · refine List.map_congr_left fun t _ => ?_
      have hdrop : 32 * (t + 1) = (bytes [b₀, b₁, b₂, b₃]).length + 32 * t := by
        rw [hlength]
        omega
      rw [Function.comp_apply, Nat.succ_eq_add_one, hdrop, ← List.drop_drop, List.drop_left]

/-! ## The message schedule -/

section Schedule

variable {block : List Bool} {words : List UInt32} {n : ℕ}

/-- The words so far, the latest of which comes first. -/
def IsSchedule (block : List Bool) (words : List UInt32) (n : ℕ) : Prop :=
  words.map UInt32.toBitVec = ((List.range n).map (schedule block)).reverse

theorem IsSchedule.getD (h : IsSchedule block words n) {k : ℕ} (hk : k < n) :
    (words.getD k 0).toBitVec = schedule block (n - 1 - k) := by
  have hmap : (words.getD k 0).toBitVec = (words.map UInt32.toBitVec).getD k 0 :=
    (List.getD_map words 0 UInt32.toBitVec).symm
  have hk' : k < ((List.range n).map (schedule block)).reverse.length := by
    rw [List.length_reverse, List.length_map, List.length_range]
    exact hk
  rw [hmap, h, List.getD_eq_getElem _ _ hk', List.getElem_reverse, List.getElem_map,
    List.getElem_range, List.length_map, List.length_range]

theorem IsSchedule.nextWord (h : IsSchedule block words n) (hn : 16 ≤ n) :
    (nextWord words).toBitVec = schedule block n := by
  have h15 := h.getD (k := 14) (by omega)
  have h2 := h.getD (k := 1) (by omega)
  have h16 := h.getD (k := 15) (by omega)
  have h7 := h.getD (k := 6) (by omega)
  have hword : (HashWords.nextWord words).toBitVec = schedule block (n - 1 - 15) +
      lowerSigma0 (schedule block (n - 1 - 14)) + schedule block (n - 1 - 6) +
      lowerSigma1 (schedule block (n - 1 - 1)) := by
    rw [← h16, ← h15, ← h7, ← h2]
    rfl
  rw [hword, schedule.eq_def block n, if_neg (Nat.not_lt.mpr hn), Nat.sub_sub, Nat.sub_sub,
    Nat.sub_sub, Nat.sub_sub]
  ac_rfl

theorem IsSchedule.extendWords (h : IsSchedule block words n) (hn : 16 ≤ n) (k : ℕ) :
    IsSchedule block (extendWords k words) (n + k) := by
  induction k generalizing words n with
  | zero => exact h
  | succ k ih =>
    have hnext : IsSchedule block (HashWords.nextWord words :: words) (n + 1) := by
      rw [IsSchedule, List.map_cons, h.nextWord hn, h, List.range_succ, List.map_append,
        List.reverse_append]
      rfl
    have hrest := ih hnext (by omega)
    rwa [Nat.add_assoc, Nat.add_comm 1] at hrest

end Schedule

theorem toBitVec_scheduleWords {input : ByteString} (h : input.length = 64) :
    (scheduleWords input).map UInt32.toBitVec =
      (List.range' 0 64).map (schedule (bytes input)) := by
  have hinput : IsSchedule (bytes input) (inputWords input).reverse 16 := by
    rw [IsSchedule, List.map_reverse, toBitVec_inputWords (n := 16) h]
    congr 1
    refine List.map_congr_left fun t ht => ?_
    rw [schedule, if_pos (List.mem_range.mp ht)]
  have hwords := hinput.extendWords (Nat.le_refl 16) 48
  rw [scheduleWords, List.map_reverse, hwords, List.reverse_reverse, List.range_eq_range']

/-! ## Rounds -/

theorem toVariables_rounds {block : List Bool} {start : Variables} {n i : ℕ} {v : HashWords}
    {constants words : List UInt32}
    (hconstants : constants.map UInt32.toBitVec = (List.range' i n).map roundConstant)
    (hwords : words.map UInt32.toBitVec = (List.range' i n).map (schedule block))
    (h : v.toVariables = start.steps block i) :
    (v.rounds constants words).toVariables = start.steps block (i + n) := by
  induction n generalizing i v constants words with
  | zero =>
    obtain rfl := List.map_eq_nil_iff.mp hconstants
    exact h
  | succ n ih =>
    rw [List.range'_succ, List.map_cons] at hconstants hwords
    obtain ⟨constant, constants, rfl, hconstant, hconstants⟩ := List.map_eq_cons_iff.mp hconstants
    obtain ⟨word, words, rfl, hword, hwords⟩ := List.map_eq_cons_iff.mp hwords
    have hround : (v.round constant word).toVariables = start.steps block (i + 1) := by
      rw [toVariables_round, hconstant, hword, h]
      rfl
    rw [rounds, ih hconstants hwords hround]
    congr 1
    omega

theorem toVariables_transform (v : HashWords) {input : ByteString} (h : input.length = 64) :
    (v.transform input).toVariables = v.toVariables.compress (bytes input) := by
  have hstart : v.toVariables = v.toVariables.steps (bytes input) 0 := rfl
  have hrounds := toVariables_rounds toBitVec_constants (toBitVec_scheduleWords h) hstart
  rw [transform, toVariables_add, hrounds, Variables.compress, Variables.add_comm]

theorem toVariables_foldl_transform {blocks : List ByteString} (h : ∀ b ∈ blocks, b.length = 64)
    (v : HashWords) : (blocks.foldl transform v).toVariables =
      (blocks.map bytes).foldl Variables.compress v.toVariables := by
  induction blocks generalizing v with
  | nil => rfl
  | cons block blocks ih =>
    obtain ⟨hblock, hblocks⟩ := List.forall_mem_cons.mp h
    rw [List.foldl_cons, ih hblocks, toVariables_transform v hblock, List.map_cons,
      List.foldl_cons]

theorem bits_byte (w : UInt32) {amount : UInt32} {n : ℕ} (h : amount.toNat % 32 = n) :
    bits 8 (w >>> amount).toUInt8.toNat = bits 8 (w.toNat / 2 ^ n) := by
  rw [UInt32.toNat_toUInt8, bits_mod, UInt32.toNat_shiftRight, h, Nat.shiftRight_eq_div_pow]

theorem bytes_word (w : UInt32) : bytes [(w >>> 24).toUInt8, (w >>> 16).toUInt8, (w >>> 8).toUInt8,
    w.toUInt8] = bits 32 w.toNat := by
  have h₀ : bits 32 w.toNat = bits 8 (w.toNat / 2 ^ 24) ++ bits 24 w.toNat := bits_add 8 24 _
  have h₁ : bits 24 w.toNat = bits 8 (w.toNat / 2 ^ 16) ++ bits 16 w.toNat := bits_add 8 16 _
  have h₂ : bits 16 w.toNat = bits 8 (w.toNat / 2 ^ 8) ++ bits 8 w.toNat := bits_add 8 8 _
  have h₃ : bits 8 w.toUInt8.toNat = bits 8 w.toNat := by
    rw [UInt32.toNat_toUInt8, bits_mod]
  simp only [bytes, List.flatMap_cons, List.flatMap_nil, List.append_nil]
  rw [bits_byte w (n := 24) rfl, bits_byte w (n := 16) rfl, bits_byte w (n := 8) rfl, h₃, h₀, h₁,
    h₂]

theorem bytes_toBytes (v : HashWords) : bytes v.toBytes = v.toVariables.toBits :=
  calc bytes v.toBytes
      = [v.a, v.b, v.c, v.d, v.e, v.f, v.g, v.h].flatMap fun (w : UInt32) =>
          bytes [(w >>> 24).toUInt8, (w >>> 16).toUInt8, (w >>> 8).toUInt8, w.toUInt8] :=
        List.flatMap_assoc
    _ = [v.a, v.b, v.c, v.d, v.e, v.f, v.g, v.h].flatMap fun (w : UInt32) => bits 32 w.toNat := by
        simp only [bytes_word]
    _ = v.toVariables.toBits := rfl

end HashWords

/-! ## Pieces and blocks -/

namespace Sha256

/-- The hasher has mixed these blocks, and what comes after them is in its own. -/
structure Absorbed (sha : Sha256) (blocks : List ByteString) (message : ByteString) : Prop where
  whole : ∀ b ∈ blocks, b.length = 64
  message_eq : message = blocks.flatten ++ sha.block
  block_lt : sha.block.length < 64
  state : sha.state = blocks.foldl HashWords.transform .initial

variable {sha : Sha256} {blocks : List ByteString} {message data : ByteString}

theorem absorbed_nil : Absorbed {} [] [] where
  whole := nofun
  message_eq := rfl
  block_lt := by decide
  state := rfl

theorem totalBytes_fillBlocks (fuel : ℕ) (sha : Sha256) (data : ByteString) :
    (fillBlocks fuel sha data).totalBytes = sha.totalBytes := by
  induction fuel generalizing sha data with
  | zero => rfl
  | succ fuel ih =>
    simp only [fillBlocks]
    split
    · rfl
    · rw [ih]
      split
      · rfl
      · rfl

theorem Absorbed.fillBlocks (h : Absorbed sha blocks message) {fuel : ℕ}
    (hfuel : data.length ≤ fuel) :
    ∃ blocks', Absorbed (fillBlocks fuel sha data) blocks' (message ++ data) := by
  induction fuel generalizing sha blocks message data with
  | zero =>
    obtain rfl := List.length_eq_zero_iff.mp (Nat.le_zero.mp hfuel)
    rw [List.append_nil]
    exact ⟨blocks, h⟩
  | succ fuel ih =>
    simp only [Sha256.fillBlocks]
    split
    · rename_i hnil
      rw [hnil, List.append_nil]
      exact ⟨blocks, h⟩
    rename_i hnil
    have hpos := List.length_pos_iff.mpr hnil
    have hlt := h.block_lt
    set count := min data.length (64 - sha.block.length) with hcount
    have hrest : (data.drop count).length ≤ fuel := by
      rw [List.length_drop]
      omega
    have hlength : (sha.block ++ data.take count).length = sha.block.length + count := by
      rw [List.length_append, List.length_take]
      omega
    have hsplit : message ++ data = message ++ data.take count ++ data.drop count := by
      rw [List.append_assoc, List.take_append_drop]
    rw [hsplit]
    split
    · rename_i hfull
      refine @ih _ (blocks ++ [sha.block ++ data.take count]) _ _ ⟨?_, ?_, ?_, ?_⟩ hrest
      · intro b hb
        rcases List.mem_append.mp hb with hb | hb
        · exact h.whole b hb
        · rw [List.mem_singleton.mp hb]
          exact hfull
      · rw [h.message_eq, List.flatten_append, List.flatten_singleton, List.append_nil,
          List.append_assoc]
      · exact Nat.zero_lt_succ 63
      · rw [List.foldl_append, List.foldl_cons, List.foldl_nil, ← h.state]
    · rename_i hpart
      refine @ih _ blocks _ _ ⟨h.whole, ?_, ?_, h.state⟩ hrest
      · rw [h.message_eq, List.append_assoc]
      · have hle : (sha.block ++ data.take count).length ≤ 64 := by omega
        exact lt_of_le_of_ne hle hpart

/-- A run of updates has absorbed the whole of its pieces. -/
theorem absorbed_updates (pieces : List ByteString) : ∃ blocks,
    Absorbed (pieces.foldl update {}) blocks pieces.flatten ∧
      (pieces.foldl update {}).totalBytes = UInt64.ofNat pieces.flatten.length := by
  induction pieces using List.reverseRecOn with
  | nil => exact ⟨[], absorbed_nil, rfl⟩
  | append_singleton pieces piece ih =>
    obtain ⟨blocks, habsorbed, htotal⟩ := ih
    rw [List.foldl_append, List.foldl_cons, List.foldl_nil, List.flatten_append,
      List.flatten_singleton]
    have hcounted : Absorbed { pieces.foldl update {} with
        totalBytes := (pieces.foldl update {}).totalBytes + UInt64.ofNat piece.length }
        blocks pieces.flatten :=
      ⟨habsorbed.whole, habsorbed.message_eq, habsorbed.block_lt, habsorbed.state⟩
    obtain ⟨blocks', hfilled⟩ := hcounted.fillBlocks (Nat.le_refl piece.length)
    refine ⟨blocks', hfilled, ?_⟩
    rw [update, totalBytes_fillBlocks, List.length_append, UInt64.ofNat_add, ← htotal]

/-! ## The last blocks -/

theorem bits_byte (n : UInt64) {shift : UInt64} {k : ℕ} (h : shift.toNat % 64 = k) :
    bits 8 (n >>> shift).toUInt8.toNat = bits 8 (n.toNat / 2 ^ k) := by
  rw [UInt64.toNat_toUInt8, bits_mod, UInt64.toNat_shiftRight, h, Nat.shiftRight_eq_div_pow]

theorem bytes_lengthBytes (n : UInt64) : bytes (lengthBytes n) = bits 64 n.toNat := by
  have hstep (w : ℕ) : bits (8 + w) n.toNat = bits 8 (n.toNat / 2 ^ w) ++ bits w n.toNat :=
    bits_add 8 w _
  have hbits : bits 64 n.toNat = bits 8 (n.toNat / 2 ^ 56) ++ (bits 8 (n.toNat / 2 ^ 48) ++
      (bits 8 (n.toNat / 2 ^ 40) ++ (bits 8 (n.toNat / 2 ^ 32) ++ (bits 8 (n.toNat / 2 ^ 24) ++
        (bits 8 (n.toNat / 2 ^ 16) ++ (bits 8 (n.toNat / 2 ^ 8) ++
          (bits 8 (n.toNat / 2 ^ 0) ++ bits 0 n.toNat))))))) := by
    rw [← hstep 0, ← hstep 8, ← hstep 16, ← hstep 24, ← hstep 32, ← hstep 40, ← hstep 48,
      ← hstep 56]
  simp only [lengthBytes, List.map_cons, List.map_nil, bytes, List.flatMap_cons, List.flatMap_nil]
  rw [bits_byte n (k := 56) rfl, bits_byte n (k := 48) rfl, bits_byte n (k := 40) rfl,
    bits_byte n (k := 32) rfl, bits_byte n (k := 24) rfl, bits_byte n (k := 16) rfl,
    bits_byte n (k := 8) rfl, bits_byte n (k := 0) rfl, hbits]
  rfl

theorem length_fill {block : ByteString} {size : ℕ} (h : block.length ≤ size) :
    (fill block size).length = size := by
  rw [fill, List.length_append, List.length_replicate]
  omega

theorem length_lengthBytes (n : UInt64) : (lengthBytes n).length = 8 := by
  rw [lengthBytes, List.length_map]
  rfl

/-- The padding of a message of bytes is one of bytes. -/
theorem pad_bytes {totalBits : UInt64} (htotal : totalBits.toNat = 8 * message.length) {n : ℕ}
    (hn : zeros (8 * message.length) = 7 + 8 * n) :
    pad (bytes message) =
      bytes (message ++ [0x80] ++ (List.replicate n 0 ++ lengthBytes totalBits)) := by
  have hone : bytes [0x80] = true :: List.replicate 7 false := by decide
  rw [bytes_append, bytes_append, bytes_append, bytes_replicate_zero, bytes_lengthBytes, htotal,
    hone, pad, padding, length_bytes, hn, ← List.replicate_append_replicate, List.append_assoc,
    List.append_assoc, List.cons_append]

/-- The blocks that are mixed in the end are those of the padded message. -/
theorem Absorbed.finish (h : Absorbed sha blocks message)
    (htotal : (sha.totalBytes * 8).toNat = 8 * message.length) :
    ∃ blocks', (∀ b ∈ blocks', b.length = 64) ∧
      pad (bytes message) = bytes (blocks ++ blocks').flatten ∧
      sha.finish = (blocks'.foldl HashWords.transform sha.state).toBytes := by
  have hlt := h.block_lt
  have hwhole := length_flatten_blocks h.whole
  have hlength : message.length = 64 * blocks.length + sha.block.length := by
    rw [h.message_eq, List.length_append, hwhole]
  have hmarked : (sha.block ++ [0x80]).length = sha.block.length + 1 := by
    rw [List.length_append, List.length_singleton]
  by_cases hlong : 56 < (sha.block ++ [0x80]).length
  · refine ⟨[fill (sha.block ++ [0x80]) 64, fill [] 56 ++ lengthBytes (sha.totalBytes * 8)],
      ?_, ?_, ?_⟩
    · simp only [List.forall_mem_cons, List.not_mem_nil, false_implies, implies_true, and_true]
      refine ⟨length_fill (by omega), ?_⟩
      rw [List.length_append, length_fill (Nat.zero_le 56), length_lengthBytes]
    · have hn : zeros (8 * message.length) = 7 + 8 * (119 - sha.block.length) := by
        rw [zeros]
        omega
      have hzeros : 119 - sha.block.length = 64 - (sha.block ++ [0x80]).length + 56 := by omega
      rw [pad_bytes htotal hn, hzeros, ← List.replicate_append_replicate, h.message_eq,
        List.flatten_append]
      simp only [fill, List.flatten_cons, List.flatten_nil, List.append_nil, List.append_assoc,
        List.nil_append, List.length_nil, Nat.sub_zero]
    · simp only [Sha256.finish, if_pos hlong]
      rfl
  · refine ⟨[fill (sha.block ++ [0x80]) 56 ++ lengthBytes (sha.totalBytes * 8)], ?_, ?_, ?_⟩
    · simp only [List.forall_mem_cons, List.not_mem_nil, false_implies, implies_true, and_true]
      rw [List.length_append, length_fill (Nat.not_lt.mp hlong), length_lengthBytes]
    · have hn : zeros (8 * message.length) = 7 + 8 * (56 - (sha.block ++ [0x80]).length) := by
        rw [zeros]
        omega
      rw [pad_bytes htotal hn, h.message_eq, List.flatten_append]
      simp only [fill, List.flatten_cons, List.flatten_nil, List.append_nil, List.append_assoc]
    · simp only [Sha256.finish, if_neg hlong]
      rfl

/-- The digest of a message that has been absorbed. -/
theorem Absorbed.digest (h : Absorbed sha blocks message)
    (htotal : sha.totalBytes = UInt64.ofNat message.length) (hlt : message.length < 2 ^ 61) :
    bytes sha.finish = SecureHash.digest (bytes message) := by
  have hbits : (sha.totalBytes * 8).toNat = 8 * message.length := by
    have hnat := UInt64.toNat_ofNat_of_lt' (show message.length < 2 ^ 64 by omega)
    have height : (8 : UInt64).toNat = 8 := rfl
    rw [htotal, UInt64.toNat_mul, hnat, height, Nat.mod_eq_of_lt (by omega), Nat.mul_comm]
  obtain ⟨blocks', hwhole, hpad, hfinish⟩ := h.finish hbits
  have hall : ∀ b ∈ blocks ++ blocks', b.length = 64 := by
    intro b hb
    rcases List.mem_append.mp hb with hb | hb
    · exact h.whole b hb
    · exact hwhole b hb
  have hblocks : ∀ b ∈ (blocks ++ blocks').map bytes, b.length = 512 := by
    intro b hb
    obtain ⟨s, hs, rfl⟩ := List.mem_map.mp hb
    rw [length_bytes, hall s hs]
  rw [bytes_flatten] at hpad
  rw [digest_of_blocks hblocks hpad, hfinish, HashWords.bytes_toBytes, h.state,
    ← List.foldl_append, HashWords.toVariables_foldl_transform hall,
    HashWords.toVariables_initial]

/-- **The digest is SHA-256**, however the message is split. -/
theorem finish_update (pieces : List ByteString) (h : pieces.flatten.length < 2 ^ 61) :
    bytes (pieces.foldl update {}).finish = SecureHash.digest (bytes pieces.flatten) := by
  obtain ⟨blocks, habsorbed, htotal⟩ := absorbed_updates pieces
  exact habsorbed.digest htotal h

theorem finish_abc : bytes ([ofString "ab", [], ofString "c"].foldl update {}).finish =
    SecureHash.digest (bytes [ofString "ab", [], ofString "c"].flatten) :=
  finish_update [ofString "ab", [], ofString "c"] (by decide +kernel)

end Sha256

/-! ## Files -/

theorem hashPieces_eq_foldl {fuel : ℕ} {sha : Sha256} {input : ByteString}
    (h : input.length ≤ fuel) :
    ∃ pieces : List ByteString, pieces.flatten = input ∧
      hashPieces fuel sha input = pieces.foldl Sha256.update sha := by
  induction fuel generalizing sha input with
  | zero =>
    obtain rfl := List.length_eq_zero_iff.mp (Nat.le_zero.mp h)
    exact ⟨[], rfl, rfl⟩
  | succ fuel ih =>
    rw [hashPieces]
    split
    · rename_i hnil
      exact ⟨[], hnil.symm, rfl⟩
    · rename_i hnil
      have hpos := List.length_pos_iff.mpr hnil
      have hrest : (input.drop (64 * 1024)).length ≤ fuel := by
        rw [List.length_drop]
        omega
      obtain ⟨pieces, hpieces, hfold⟩ := @ih (sha.update (input.take (64 * 1024))) _ hrest
      refine ⟨input.take (64 * 1024) :: pieces, ?_, hfold⟩
      rw [List.flatten_cons, hpieces, List.take_append_drop]

/-- The digest of a file is written with the digits of its SHA-256 digest. -/
theorem contentSha256_digest {content : ByteString} (h : content.length < 2 ^ 61) :
    ∃ digest, contentSha256 content = hexString digest ∧
      bytes digest = SecureHash.digest (bytes content) := by
  obtain ⟨pieces, rfl, hfold⟩ := @hashPieces_eq_foldl _ {} _ (Nat.le_refl content.length)
  obtain ⟨blocks, habsorbed, htotal⟩ := Sha256.absorbed_updates pieces
  refine ⟨(pieces.foldl Sha256.update {}).finish, ?_, habsorbed.digest htotal h⟩
  rw [contentSha256, hfold]

end LiberaLaser.Plugin
