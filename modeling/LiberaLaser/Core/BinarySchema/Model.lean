import LiberaLaser.Foundations.ByteString
import LiberaLaser.Foundations.Records
import LiberaLaser.Foundations.Results
import Mathlib.Data.Vector.Basic

/-!
# Schemas of binary packets

A schema lists the fields of a packet, each with the codec of its bytes and the validators of its
value. `decode` reads the fields one after another into an object; `encode` writes them. A member
may have another type than the value of its codec, such as an enumeration; it is converted when it
is read and when it is written.
-/

namespace LiberaLaser.BinarySchema

open ByteString

structure DecodeError where
  «where» : ByteString
  what : ByteString
  deriving DecidableEq

/-! ## Codecs -/

/-- A codec reads a value from the front of some bytes, and writes one. -/
structure Codec (α : Type) where
  read : ByteString → ByteString → Except DecodeError (α × ByteString)
  write : α → ByteString

inductive ByteOrder where
  | big
  | little

/-- Bytes in this order from bytes with the most significant one first, and back. -/
def ByteOrder.arrange : ByteOrder → ByteString → ByteString
  | .big, bytes => bytes
  | .little, bytes => bytes.reverse

/-- The number that bytes with the most significant one first stand for. -/
def fromBytes (bytes : ByteString) : ℕ := bytes.foldl (fun v b => v <<< 8 ||| b.toNat) 0

def toBytes (n v : ℕ) : ByteString :=
  (List.range n).map fun i => UInt8.ofNat (v >>> (8 * (n - 1 - i)) &&& 0xFF)

/-- The codec of the unsigned integers with some number of bytes. -/
def integerCodec (order : ByteOrder) (n : ℕ) (need : String) : Codec (BitVec (8 * n)) where
  read location s :=
    if s.length < n then .error ⟨location, ofString need⟩
    else .ok (BitVec.ofNat (8 * n) (fromBytes (order.arrange (s.take n))), s.drop n)
  write v := order.arrange (toBytes n v.toNat)

def BeU8 : Codec (BitVec 8) := integerCodec .big 1 "need 1 byte"

def BeU16 : Codec (BitVec 16) := integerCodec .big 2 "need 2 bytes"

def BeU32 : Codec (BitVec 32) := integerCodec .big 4 "need 4 bytes"

def LeU16 : Codec (BitVec 16) := integerCodec .little 2 "need 2 bytes"

def LeU32 : Codec (BitVec 32) := integerCodec .little 4 "need 4 bytes"

/-- A character that the reader of a fixed-length text accepts. -/
def IsAscii (c : UInt8) : Prop := ¬(c ≠ 0 ∧ (c < 0x20 ∨ 0x7E < c))

instance : DecidablePred IsAscii := fun c =>
  inferInstanceAs (Decidable ¬(c ≠ 0 ∧ (c < 0x20 ∨ 0x7E < c)))

def FixedAscii (n : ℕ) : Codec (List.Vector UInt8 n) where
  read location s :=
    if h : s.length < n then .error ⟨location, ofString "not enough bytes"⟩
    else if (s.take n).all fun c => IsAscii c then
      .ok (⟨s.take n, List.length_take_of_le (Nat.not_lt.mp h)⟩, s.drop n)
    else .error ⟨location, ofString "non-ASCII char"⟩
  write v := v.toList

/-- The codecs. -/
inductive CodecKind where
  | beU8
  | beU16
  | beU32
  | leU16
  | leU32
  | fixedAscii (n : ℕ)

namespace CodecKind

/-- The type of the values of a codec. -/
def Value : CodecKind → Type
  | beU8 => BitVec 8
  | beU16 | leU16 => BitVec 16
  | beU32 | leU32 => BitVec 32
  | fixedAscii n => List.Vector UInt8 n

def codec : (kind : CodecKind) → Codec kind.Value
  | beU8 => BeU8
  | beU16 => BeU16
  | beU32 => BeU32
  | leU16 => LeU16
  | leU32 => LeU32
  | fixedAscii n => FixedAscii n

end CodecKind

/-! ## Validators -/

/-- A validator with the name of a field and a value of it. -/
abbrev Check (α : Type) := ByteString → α → Except DecodeError Unit

def NonZero {n : ℕ} : Check (BitVec n) := fun location v =>
  if v = 0 then .error ⟨location, ofString "must be non-zero"⟩ else .ok ()

def NotEmptyAscii {n : ℕ} : Check (List.Vector UInt8 n) := fun location a =>
  if a.toList.any (· ≠ 0) then .ok () else .error ⟨location, ofString "must not be empty"⟩

def EnumRange (min max : BitVec 8) : Check (BitVec 8) := fun location raw =>
  if raw < min ∨ max < raw then
    .error ⟨location, ofString "unknown enum value " ++ ofString (toString raw.toNat) ++
      ofString " (expected " ++ ofString (toString min.toNat) ++ ofString "-" ++
      ofString (toString max.toNat) ++ ofString ")"⟩
  else .ok ()

/-- All validators run, and the error of the last one that fails stays. -/
def runFieldValidators {α : Type} (validators : List (Check α)) : Check α := fun name v =>
  validators.foldl (fun ok val =>
    match val name v with
    | .error e => .error e
    | .ok _ => ok) (.ok ())

/-! ## Schemas -/

section Schema

variable {ι : Type} (Member : ι → Type)

/-- A validator as it is applied to what the codec reads and to what the member has. -/
structure Validator (Raw Value : Type) where
  onRaw : Check Raw
  onValue : Check Value

structure Field where
  name : ByteString
  memberPtr : ι
  kind : CodecKind
  /-- The conversion of what is read to the type of the member. -/
  assign : kind.Value → Member memberPtr
  /-- The conversion of the member to what is written. -/
  extract : Member memberPtr → kind.Value
  validators : List (Validator kind.Value (Member memberPtr))

/-- The objects that a schema is for. -/
abbrev Object := (i : ι) → Member i

structure Schema where
  fields : List (Field Member)
  objValidator : Object Member → Except DecodeError Unit

variable {Member}

namespace Field

def checkRaw (fd : Field Member) (raw : fd.kind.Value) : Except DecodeError Unit :=
  runFieldValidators (fd.validators.map (·.onRaw)) fd.name raw

def checkValue (fd : Field Member) (v : Member fd.memberPtr) : Except DecodeError Unit :=
  runFieldValidators (fd.validators.map (·.onValue)) fd.name v

end Field

variable [DecidableEq ι]

def decodeFields : List (Field Member) → Object Member → ByteString →
    Except DecodeError (Object Member)
  | [], obj, _ => .ok obj
  | fd :: fields, obj, s => do
    let (raw, s) ← fd.kind.codec.read fd.name s
    fd.checkRaw raw
    decodeFields fields (Function.update obj fd.memberPtr (fd.assign raw)) s

/-- The object starts as `initial`. -/
def decode (sch : Schema Member) (initial : Object Member) (bytes : ByteString) :
    Except DecodeError (Object Member) := do
  let obj ← decodeFields sch.fields initial bytes
  sch.objValidator obj
  return obj

def encodeFields : List (Field Member) → Object Member → Except DecodeError ByteString
  | [], _ => .ok []
  | fd :: fields, obj => do
    fd.checkValue (obj fd.memberPtr)
    let out ← encodeFields fields obj
    return fd.kind.codec.write (fd.extract (obj fd.memberPtr)) ++ out

def encode (sch : Schema Member) (obj : Object Member) : Except DecodeError ByteString := do
  sch.objValidator obj
  encodeFields sch.fields obj

end Schema

end LiberaLaser.BinarySchema
