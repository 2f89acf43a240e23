import LiberaLaser.Foundations.ByteString
import Mathlib.Order.Defs.LinearOrder
import Mathlib.Algebra.Order.Ring.Int

/-!
# JSON values

A JSON value as a library keeps it in memory. Its strings are byte strings: a parser returns none
that is not valid UTF-8, and a serialiser throws when it meets one. A codec is a parser together
with a serialiser, and is lawful when it does so and reads back what it wrote.
-/

/-- A JSON value. Of a floating-point number, what it converts to as an integer. -/
inductive Json
  | null
  | bool (b : Bool)
  | unsigned (n : ℕ)
  | integer (n : ℤ)
  | float (truncated : ℤ)
  | string (s : ByteString)
  | array (items : List Json)
  | object (fields : List (ByteString × Json))

namespace Json

open ByteString

/-- The conversion to a 32-bit integer, which throws for what is neither a number nor a boolean. -/
def asInt : Json → Option ℤ
  | bool b => some (if b then 1 else 0)
  | unsigned n => some ((n : ℤ).bmod (2 ^ 32))
  | integer n => some (n.bmod (2 ^ 32))
  | float truncated => some truncated
  | _ => none

def asString : Json → Option ByteString
  | string s => some s
  | _ => none

def asArray : Json → Option (List Json)
  | array items => some items
  | _ => none

def asObject : Json → Option (List (ByteString × Json))
  | object fields => some fields
  | _ => none

/-- The field of an object. -/
def field (name : String) : Json → Option Json
  | object fields => fields.lookup (ofString name)
  | _ => none

/-! ## Strings -/

mutual

/-- All strings in a value, with the names of fields. -/
def strings : Json → List ByteString
  | string s => [s]
  | array items => itemStrings items
  | object fields => fieldStrings fields
  | _ => []

def itemStrings : List Json → List ByteString
  | [] => []
  | item :: items => strings item ++ itemStrings items

def fieldStrings : List (ByteString × Json) → List ByteString
  | [] => []
  | (name, value) :: fields => name :: (strings value ++ fieldStrings fields)

end

/-- Every string in a value is valid UTF-8. -/
def Encoded (json : Json) : Prop := ∀ s ∈ json.strings, s.Utf8

instance : DecidablePred Encoded := fun json =>
  inferInstanceAs (Decidable (∀ s ∈ json.strings, s.Utf8))

theorem encoded_string {s : ByteString} : (string s).Encoded ↔ s.Utf8 := by
  simp [Encoded, strings]

theorem encoded_array {items : List Json} :
    (array items).Encoded ↔ ∀ item ∈ items, item.Encoded := by
  rw [Encoded, strings]
  induction items with
  | nil => simp [itemStrings]
  | cons item items ih =>
    rw [itemStrings, List.forall_mem_append, ih, List.forall_mem_cons]
    exact Iff.rfl

theorem encoded_object {fields : List (ByteString × Json)} :
    (object fields).Encoded ↔ ∀ f ∈ fields, f.1.Utf8 ∧ f.2.Encoded := by
  rw [Encoded, strings]
  induction fields with
  | nil => simp [fieldStrings]
  | cons f fields ih =>
    rw [fieldStrings, List.forall_mem_cons, List.forall_mem_append, ih, List.forall_mem_cons,
      and_assoc]
    exact Iff.rfl

variable {json json' : Json}

theorem Encoded.field {name : String} (h : json.Encoded) (hfield : json.field name = some json') :
    json'.Encoded := by
  cases json with
  | object fields =>
    obtain ⟨fields₁, fields₂, hsplit, -⟩ := List.lookup_eq_some_iff.mp hfield
    refine (encoded_object.mp h (ofString name, json') ?_).2
    rw [hsplit]
    exact List.mem_append_right _ List.mem_cons_self
  | _ => cases hfield

theorem Encoded.asArray {items : List Json} (h : json.Encoded)
    (hitems : json.asArray = some items) : ∀ item ∈ items, item.Encoded := by
  cases json with
  | array items =>
    cases hitems
    exact encoded_array.mp h
  | _ => cases hitems

theorem Encoded.asObject {fields : List (ByteString × Json)} (h : json.Encoded)
    (hfields : json.asObject = some fields) : ∀ f ∈ fields, f.1.Utf8 ∧ f.2.Encoded := by
  cases json with
  | object fields =>
    cases hfields
    exact encoded_object.mp h
  | _ => cases hfields

theorem Encoded.asString {s : ByteString} (h : json.Encoded) (hs : json.asString = some s) :
    s.Utf8 := by
  cases json with
  | string s =>
    cases hs
    exact encoded_string.mp h
  | _ => cases hs

/-! ## Codecs -/

/-- A value as a program builds it: the numbers are not negative, and the names of the fields are
in the order of a map. -/
inductive Normal : Json → Prop
  | null : Normal null
  | bool (b : Bool) : Normal (bool b)
  | unsigned (n : ℕ) (h : n < 2 ^ 64) : Normal (unsigned n)
  | string (s : ByteString) : Normal (string s)
  | array {items : List Json} (h : ∀ item ∈ items, Normal item) : Normal (array items)
  | object {fields : List (ByteString × Json)} (hnames : (fields.map Prod.fst).Pairwise (· < ·))
      (h : ∀ f ∈ fields, Normal f.2) : Normal (object fields)

end Json

/-- A parser and a serialiser of JSON. -/
structure JsonCodec where
  /-- The value that a text consists of, apart from white space. -/
  parse : ByteString → Option Json
  /-- The text of a value, or none where the serialiser throws. -/
  dump : Json → Option ByteString

/-- What a parser and a serialiser are documented to do. -/
structure JsonCodec.Lawful (codec : JsonCodec) : Prop where
  /-- A text with a string that is not valid UTF-8 does not parse. -/
  encoded_parse : ∀ text json, codec.parse text = some json → json.Encoded
  /-- The serialiser throws exactly on strings that are not valid UTF-8. -/
  isSome_dump : ∀ json, (codec.dump json).isSome ↔ json.Encoded
  /-- The text of a value, on a line of its own, parses to the value. -/
  parse_dump : ∀ (json : Json) (text : ByteString), json.Normal → codec.dump json = some text →
    codec.parse (text ++ ByteString.ofString "\n") = some json
