import Mathlib.Data.List.TakeWhile

/-!
# Byte strings

The strings of a C++ program are sequences of bytes of any values. A C string ends at its first zero
byte, so passing a byte string as a C string keeps the bytes before that.
-/

/-- The bytes of a string. -/
abbrev ByteString := List UInt8

namespace ByteString

/-- The UTF-8 bytes of a text. -/
def ofString (s : String) : ByteString := s.toUTF8.data.toList

/-- `std::isspace` of a byte. -/
def isspace (c : UInt8) : Bool := c = 32 || (9 ≤ c && c ≤ 13)

/-- `std::isprint` of a byte. -/
def isprint (c : UInt8) : Bool := 32 ≤ c && c ≤ 126

/-- The bytes encode a text in UTF-8. -/
def Utf8 (s : ByteString) : Prop := (ByteArray.mk s.toArray).IsValidUTF8

instance : DecidablePred Utf8 := fun s =>
  inferInstanceAs (Decidable (ByteArray.mk s.toArray).IsValidUTF8)

instance (s : ByteString) (l : List ByteString) : Decidable (s ∈ l) :=
  List.instDecidableMemOfLawfulBEq s l

/-- What stands before the first occurrence of a byte, which the string may lack. -/
theorem takeWhile_ne_eq_iff {b : UInt8} {s k : ByteString} (hk : b ∉ k) :
    s.takeWhile (· ≠ b) = k ↔ s = k ∨ k ++ [b] <+: s := by
  constructor
  · rintro rfl
    have hsplit := s.takeWhile_append_dropWhile (p := (· ≠ b))
    cases hrest : s.dropWhile (· ≠ b) with
    | nil =>
      rw [hrest, List.append_nil] at hsplit
      exact .inl hsplit.symm
    | cons c rest =>
      have hc := List.head?_dropWhile_not (· ≠ b) s
      rw [hrest] at hc hsplit
      obtain rfl : c = b := by simpa using hc
      refine .inr ⟨rest, ?_⟩
      rw [List.append_assoc, List.singleton_append]
      exact hsplit
  · have hall : ∀ c ∈ k, decide (c ≠ b) = true := by
      intro c hc
      refine decide_eq_true fun hcb => hk ?_
      rwa [← hcb]
    rintro (rfl | ⟨rest, rfl⟩)
    · exact List.takeWhile_eq_self_iff.mpr hall
    · rw [List.append_assoc, List.takeWhile_append_of_pos hall, List.singleton_append,
        List.takeWhile_cons_of_neg (by simp), List.append_nil]

end ByteString

/-- A byte string without a zero byte. -/
structure CString where
  bytes : ByteString
  zero_notMem : 0 ∉ bytes
  deriving DecidableEq

namespace CString

/-- `c_str`, as the callee reads it. -/
def ofBytes (s : ByteString) : CString where
  bytes := s.takeWhile (· ≠ 0)
  zero_notMem h := by simpa using List.mem_takeWhile_imp h

@[simp] theorem bytes_ofBytes_iff {s : ByteString} : (ofBytes s).bytes = s ↔ 0 ∉ s := by
  rw [ofBytes, List.takeWhile_eq_self_iff]
  constructor
  · intro h hzero
    simpa using h 0 hzero
  · intro h b hb
    refine decide_eq_true fun hzero => h ?_
    rw [← hzero]
    exact hb

@[simp] theorem ofBytes_bytes (s : CString) : ofBytes s.bytes = s := by
  have h : (ofBytes s.bytes).bytes = s.bytes := bytes_ofBytes_iff.mpr s.zero_notMem
  cases s
  rw [ofBytes, mk.injEq]
  exact h

end CString
