import LiberaLaser.Foundations.Hexadecimal
import LiberaLaser.Foundations.Json
import Mathlib.Data.Nat.Digits.Lemmas

/-!
# The text of JSON values

The text of a value with two spaces for each level, and a parser that reads it back
(`readsBack`). The parser reads numbers without sign, fraction and exponent, and the escapes
of one byte. The two make a lawful codec, `Json.textCodec`.
-/

namespace Json

open ByteString Hexadecimal

/-! ## Strings -/

/-- The short escapes: a byte and the letter that stands for it after a backslash. -/
def shortEscapes : List (UInt8 × UInt8) :=
  [(34, 34), (92, 92), (8, 98), (12, 102), (10, 110), (13, 114), (9, 116)]

def hexValue (c : UInt8) : Option UInt8 :=
  if 48 ≤ c ∧ c ≤ 57 then some (c - 48)
  else if 97 ≤ c ∧ c ≤ 102 then some (c - 87)
  else none

/-- A byte within a string, where control characters have no letter of their own. -/
def escape (b : UInt8) : ByteString :=
  match shortEscapes.find? (·.1 = b) with
  | some (_, c) => [92, c]
  | none => if b < 32 then [92, 117, 48, 48, hexDigit (b / 16), hexDigit (b % 16)] else [b]

/-- The rest of a string, after its opening quotation mark. -/
def stringText (s : ByteString) : ByteString := s.flatMap escape ++ [34]

/-- The first byte that a text stands for, and what follows it. -/
def unescape : ByteString → Option (UInt8 × ByteString)
  | 92 :: 117 :: 48 :: 48 :: high :: low :: rest =>
    (hexValue high).bind fun high => (hexValue low).map fun low => (16 * high + low, rest)
  | 92 :: c :: rest => (shortEscapes.find? (·.2 = c)).map fun e => (e.1, rest)
  | b :: rest => some (b, rest)
  | [] => none

/-- A string after its opening quotation mark, and what follows its closing one. -/
def parseString : ℕ → ByteString → Option (ByteString × ByteString)
  | 0, _ => none
  | fuel + 1, text =>
    if text.head? = some 34 then some ([], text.tail)
    else
      (unescape text).bind fun p =>
        (parseString fuel p.2).map fun q => (p.1 :: q.1, q.2)

theorem find?_shortEscapes : ∀ p ∈ shortEscapes,
    shortEscapes.find? (·.2 = p.2) = some p ∧ p.2 ≠ 117 := by
  simp [shortEscapes]

theorem hexValue_hexDigit : ∀ n < 32,
    hexValue (hexDigit (UInt8.ofNat n / 16)) = some (UInt8.ofNat n / 16) ∧
      hexValue (hexDigit (UInt8.ofNat n % 16)) = some (UInt8.ofNat n % 16) ∧
      16 * (UInt8.ofNat n / 16) + UInt8.ofNat n % 16 = UInt8.ofNat n := by
  decide +kernel

theorem unescape_escape (b : UInt8) (rest : ByteString) :
    unescape (escape b ++ rest) = some (b, rest) ∧ (escape b ++ rest).head? ≠ some 34 := by
  unfold escape
  split
  · rename_i b' c hfind
    have hb : b' = b := by simpa using List.find?_some hfind
    obtain ⟨hback, hc⟩ := find?_shortEscapes _ (List.mem_of_find?_eq_some hfind)
    refine ⟨?_, by simp⟩
    rw [List.cons_append, List.cons_append, List.nil_append, unescape]
    · rw [hback, Option.map_some, hb]
    · rintro _ _ _ rfl
      exact absurd rfl hc
  · rename_i hfind
    split
    · rename_i hcontrol
      obtain ⟨hhigh, hlow, hsum⟩ := hexValue_hexDigit b.toNat hcontrol
      simp only [UInt8.ofNat_toNat] at hhigh hlow hsum
      refine ⟨?_, by simp⟩
      simp only [List.cons_append, List.nil_append, unescape, hhigh, hlow, Option.bind_some,
        Option.map_some, hsum]
    · have hquote : b ≠ 34 := by
        rintro rfl
        exact absurd hfind (by decide)
      have hbackslash : b ≠ 92 := by
        rintro rfl
        exact absurd hfind (by decide)
      refine ⟨?_, by simpa using hquote⟩
      rw [List.cons_append, List.nil_append, unescape.eq_def]
      split
      · rename_i heq
        exact absurd (List.cons.inj heq).1 hbackslash
      · rename_i heq
        exact absurd (List.cons.inj heq).1 hbackslash
      · rename_i heq
        cases heq
        rfl
      · rename_i heq
        cases heq

theorem parseString_stringText {s rest : ByteString} {fuel : ℕ} (h : s.length < fuel) :
    parseString fuel (stringText s ++ rest) = some (s, rest) := by
  induction s generalizing fuel with
  | nil =>
    cases fuel with
    | zero => cases h
    | succ fuel => rfl
  | cons b s ih =>
    cases fuel with
    | zero => cases h
    | succ fuel =>
      have hcons : stringText (b :: s) ++ rest = escape b ++ (stringText s ++ rest) := by
        simp only [stringText, List.flatMap_cons, List.append_assoc]
      obtain ⟨hbyte, hopen⟩ := unescape_escape b (stringText s ++ rest)
      rw [hcons, parseString, if_neg hopen, hbyte, Option.bind_some,
        ih (Nat.lt_of_succ_lt_succ h)]
      rfl

theorem length_lt_stringText (s : ByteString) : s.length < (stringText s).length := by
  induction s with
  | nil => exact Nat.zero_lt_one
  | cons b s ih =>
    have hescape : 0 < (escape b).length := by
      unfold escape
      split
      · exact Nat.zero_lt_succ _
      · split
        · exact Nat.zero_lt_succ _
        · exact Nat.zero_lt_one
    have hcons : stringText (b :: s) = escape b ++ stringText s := by
      simp only [stringText, List.flatMap_cons, List.append_assoc]
    rw [hcons, List.length_append, List.length_cons]
    omega

/-! ## Values -/

def isSpace (c : UInt8) : Bool := c = 32 || c = 9 || c = 10 || c = 13

def isDigit (c : UInt8) : Bool := 48 ≤ c && c ≤ 57

def skipSpace (text : ByteString) : ByteString := text.dropWhile isSpace

/-- A new line with an indentation. -/
def newline (indent : ℕ) : ByteString := 10 :: List.replicate indent 32

def digitsText (n : ℕ) : ByteString :=
  if n = 0 then [48] else ((Nat.digits 10 n).map fun d => 48 + UInt8.ofNat d).reverse

mutual

/-- The text of a value within some levels of indentation. -/
def text (indent : ℕ) : Json → ByteString
  | null => ofString "null"
  | bool b => ofString (if b then "true" else "false")
  | unsigned n => digitsText n
  | integer n => 45 :: digitsText n.natAbs
  | float truncated => digitsText truncated.natAbs ++ ofString ".0"
  | string s => 34 :: stringText s
  | array items =>
    if items.isEmpty then ofString "[]"
    else 91 :: (itemsText (indent + 2) true items ++ (newline indent ++ [93]))
  | object fields =>
    if fields.isEmpty then ofString "\x7b\x7d"
    else 123 :: (fieldsText (indent + 2) true fields ++ (newline indent ++ [125]))

/-- The items of a list, each on a line of its own. -/
def itemsText (indent : ℕ) (first : Bool) : List Json → ByteString
  | [] => []
  | item :: items =>
    (if first then [] else [44]) ++
      (newline indent ++ (text indent item ++ itemsText indent false items))

/-- The fields of an object, each on a line of its own. -/
def fieldsText (indent : ℕ) (first : Bool) : List (ByteString × Json) → ByteString
  | [] => []
  | (name, value) :: fields =>
    (if first then [] else [44]) ++
      (newline indent ++ (34 :: (stringText name ++
        (58 :: 32 :: (text indent value ++ fieldsText indent false fields)))))

end

/-- A word of the grammar or a number. -/
def parseScalar (text : ByteString) : Option (Json × ByteString) :=
  if (ofString "null").isPrefixOf text then some (null, text.drop 4)
  else if (ofString "true").isPrefixOf text then some (bool true, text.drop 4)
  else if (ofString "false").isPrefixOf text then some (bool false, text.drop 5)
  else if text.takeWhile isDigit = [] then none
  else
    some (unsigned ((text.takeWhile isDigit).foldl (fun n c => 10 * n + (c - 48).toNat) 0),
      text.dropWhile isDigit)

mutual

/-- A value, and what follows it. -/
def parseValue : ℕ → ByteString → Option (Json × ByteString)
  | 0, _ => none
  | fuel + 1, text =>
    match skipSpace text with
    | [] => none
    | c :: rest =>
      if c = 34 then (parseString rest.length rest).map fun p => (string p.1, p.2)
      else if c = 91 then
        if (skipSpace rest).head? = some 93 then some (array [], (skipSpace rest).tail)
        else (parseItems fuel rest).map fun p => (array p.1, p.2)
      else if c = 123 then
        if (skipSpace rest).head? = some 125 then some (object [], (skipSpace rest).tail)
        else (parseFields fuel rest).map fun p => (object p.1, p.2)
      else parseScalar (c :: rest)

/-- The items of a list that is not empty, up to its closing bracket. -/
def parseItems : ℕ → ByteString → Option (List Json × ByteString)
  | 0, _ => none
  | fuel + 1, text =>
    (parseValue fuel text).bind fun p =>
      match skipSpace p.2 with
      | [] => none
      | c :: rest =>
        if c = 44 then (parseItems fuel rest).map fun q => (p.1 :: q.1, q.2)
        else if c = 93 then some ([p.1], rest)
        else none

/-- The fields of an object that is not empty, up to its closing bracket. -/
def parseFields : ℕ → ByteString → Option (List (ByteString × Json) × ByteString)
  | 0, _ => none
  | fuel + 1, text =>
    match skipSpace text with
    | [] => none
    | c :: rest =>
      if c = 34 then
        (parseString rest.length rest).bind fun name =>
          match skipSpace name.2 with
          | [] => none
          | c :: rest =>
            if c = 58 then
              (parseValue fuel rest).bind fun p =>
                match skipSpace p.2 with
                | [] => none
                | c :: rest =>
                  if c = 44 then
                    (parseFields fuel rest).map fun q => ((name.1, p.1) :: q.1, q.2)
                  else if c = 125 then some ([(name.1, p.1)], rest)
                  else none
            else none
      else none

end

/-! ## Space and numbers -/

theorem skipSpace_newline (indent : ℕ) (rest : ByteString) :
    skipSpace (newline indent ++ rest) = skipSpace rest := by
  rw [newline, List.cons_append]
  change skipSpace (List.replicate indent 32 ++ rest) = skipSpace rest
  induction indent with
  | zero => rfl
  | succ indent ih => exact ih

theorem skipSpace_cons {c : UInt8} (h : isSpace c = false) (rest : ByteString) :
    skipSpace (c :: rest) = c :: rest := by
  rw [skipSpace, List.dropWhile_cons, h]
  rfl

/-- A number ends before this text. -/
def EndsNumber (rest : ByteString) : Prop := ∀ c ∈ rest.head?, isDigit c = false

theorem endsNumber_cons {c : UInt8} (h : isDigit c = false) (rest : ByteString) :
    EndsNumber (c :: rest) := by
  intro c' hc
  cases hc
  exact h

theorem isDigit_of_lt {d : ℕ} (h : d < 10) :
    isDigit (48 + UInt8.ofNat d) = true ∧ (48 + UInt8.ofNat d - 48).toNat = d := by
  have hall : ∀ d : Fin 10, isDigit (48 + UInt8.ofNat d) = true ∧
      (48 + UInt8.ofNat d - 48).toNat = d := by decide +kernel
  exact hall ⟨d, h⟩

theorem isDigit_of_mem_digitsText {n : ℕ} {c : UInt8} (h : c ∈ digitsText n) :
    isDigit c = true := by
  unfold digitsText at h
  split at h
  · rw [List.mem_singleton.mp h]
    rfl
  · obtain ⟨d, hd, rfl⟩ := List.mem_map.mp (List.mem_reverse.mp h)
    exact (isDigit_of_lt (Nat.digits_lt_base (by decide) hd)).1

theorem digitsText_ne_nil (n : ℕ) : digitsText n ≠ [] := by
  unfold digitsText
  split
  · exact List.cons_ne_nil _ _
  · rename_i h
    simpa using Nat.digits_ne_nil_iff_ne_zero.mpr h

theorem foldr_digits {digits : List ℕ} (h : ∀ d ∈ digits, d < 10) :
    (digits.map fun d => 48 + UInt8.ofNat d).foldr (fun c n => 10 * n + (c - 48).toNat) 0 =
      Nat.ofDigits 10 digits := by
  induction digits with
  | nil => rfl
  | cons d digits ih =>
    have hd := (isDigit_of_lt (h d List.mem_cons_self)).2
    have htail := ih fun d' hd' => h d' (List.mem_cons_of_mem _ hd')
    rw [List.map_cons, List.foldr_cons, htail, hd, Nat.ofDigits_cons, Nat.add_comm]

theorem foldl_digitsText (n : ℕ) :
    (digitsText n).foldl (fun n c => 10 * n + (c - 48).toNat) 0 = n := by
  unfold digitsText
  split
  · rename_i h
    rw [h]
    rfl
  · rw [List.foldl_reverse,
      foldr_digits fun d hd => Nat.digits_lt_base (by decide) hd, Nat.ofDigits_digits]

theorem takeWhile_digitsText (n : ℕ) {rest : ByteString} (h : EndsNumber rest) :
    (digitsText n ++ rest).takeWhile isDigit = digitsText n ∧
      (digitsText n ++ rest).dropWhile isDigit = rest := by
  have hall : ∀ c ∈ digitsText n, isDigit c = true := fun c hc => isDigit_of_mem_digitsText hc
  rw [List.takeWhile_append_of_pos hall, List.dropWhile_append_of_pos hall]
  cases rest with
  | nil => exact ⟨List.append_nil _, rfl⟩
  | cons c rest =>
    have hc : ¬isDigit c = true := by
      rw [h c rfl]
      exact Bool.false_ne_true
    rw [List.takeWhile_cons_of_neg hc, List.dropWhile_cons_of_neg hc]
    exact ⟨List.append_nil _, rfl⟩

theorem parseScalar_digitsText (n : ℕ) {rest : ByteString} (h : EndsNumber rest) :
    parseScalar (digitsText n ++ rest) = some (unsigned n, rest) := by
  obtain ⟨htake, hdrop⟩ := takeWhile_digitsText n h
  have hword (word : ByteString) (c : UInt8) (hc : word.head? = some c) (hd : isDigit c = false) :
      word.isPrefixOf (digitsText n ++ rest) ≠ true := by
    intro hword
    obtain ⟨tail, htail⟩ := List.isPrefixOf_iff_prefix.mp hword
    have hhead : (digitsText n ++ rest).head? = some c := by
      rw [← htail, List.head?_append, hc]
      rfl
    rw [List.head?_append_of_ne_nil _ (digitsText_ne_nil n)] at hhead
    rw [isDigit_of_mem_digitsText (List.mem_of_head? hhead)] at hd
    cases hd
  rw [parseScalar, if_neg (hword _ 110 rfl rfl), if_neg (hword _ 116 rfl rfl),
    if_neg (hword _ 102 rfl rfl), htake, hdrop, if_neg (digitsText_ne_nil n), foldl_digitsText]

/-! ## Reading a text back -/

theorem parseValue_newline (indent fuel : ℕ) (rest : ByteString) :
    parseValue fuel (newline indent ++ rest) = parseValue fuel rest := by
  cases fuel with
  | zero => rfl
  | succ fuel => rw [parseValue, parseValue, skipSpace_newline]

theorem ne_of_isDigit {c d : UInt8} (hc : isDigit c = true) (hd : isDigit d = false) : c ≠ d := by
  rintro rfl
  rw [hc] at hd
  cases hd

/-- A text begins with its value: with no space and no bracket that closes. -/
theorem exists_cons_text {json : Json} (h : json.Normal) (indent : ℕ) :
    ∃ c tail, text indent json = c :: tail ∧ isSpace c = false ∧ c ≠ 93 := by
  cases h with
  | null => exact ⟨_, _, rfl, rfl, by decide⟩
  | bool b =>
    cases b with
    | false => exact ⟨_, _, rfl, rfl, by decide⟩
    | true => exact ⟨_, _, rfl, rfl, by decide⟩
  | unsigned n =>
    cases hdigits : digitsText n with
    | nil => exact absurd hdigits (digitsText_ne_nil n)
    | cons c tail =>
      have hdigit : isDigit c = true := isDigit_of_mem_digitsText (n := n) (by simp [hdigits])
      have hspace : isSpace c = false := by
        simp [isSpace, ne_of_isDigit (d := 32) hdigit rfl, ne_of_isDigit (d := 9) hdigit rfl,
          ne_of_isDigit (d := 10) hdigit rfl, ne_of_isDigit (d := 13) hdigit rfl]
      exact ⟨c, tail, by rw [text, hdigits], hspace, ne_of_isDigit hdigit rfl⟩
  | string s => exact ⟨_, _, rfl, rfl, by decide⟩
  | array _ =>
    rw [text]
    split
    · exact ⟨_, _, rfl, rfl, by decide⟩
    · exact ⟨_, _, rfl, rfl, by decide⟩
  | object _ _ =>
    rw [text]
    split
    · exact ⟨_, _, rfl, rfl, by decide⟩
    · exact ⟨_, _, rfl, rfl, by decide⟩

/-- The value is read back from its text, whatever follows that does not go on with a number. -/
def ReadsBack (json : Json) : Prop :=
  ∀ indent fuel rest, (text indent json).length < fuel → EndsNumber rest →
    parseValue fuel (text indent json ++ rest) = some (json, rest)

theorem endsNumber_newline (indent : ℕ) (rest : ByteString) :
    EndsNumber (newline indent ++ rest) := endsNumber_cons rfl _

theorem endsNumber_itemsText (indent indent' : ℕ) (items : List Json) (rest : ByteString) :
    EndsNumber (itemsText indent false items ++ (newline indent' ++ rest)) := by
  cases items with
  | nil => exact endsNumber_newline _ _
  | cons item items => exact endsNumber_cons rfl _

theorem parseItems_itemsText {item : Json} {items : List Json} {indent indent' fuel : ℕ}
    {rest : ByteString} (h : ∀ i ∈ item :: items, ReadsBack i)
    (hfuel : (itemsText indent true (item :: items)).length < fuel) :
    parseItems fuel (itemsText indent true (item :: items) ++ (newline indent' ++ 93 :: rest)) =
      some (item :: items, rest) := by
  induction items generalizing item fuel with
  | nil =>
    cases fuel with
    | zero => cases hfuel
    | succ fuel =>
      have hlength : 0 < (newline indent).length := Nat.zero_lt_succ _
      simp only [itemsText, if_true, List.nil_append, List.append_nil, List.append_assoc,
        List.length_append] at hfuel ⊢
      rw [parseItems, parseValue_newline,
        h item List.mem_cons_self indent fuel _ (by omega) (endsNumber_newline _ _),
        Option.bind_some]
      simp only [skipSpace_newline, skipSpace_cons (c := 93) rfl]
      rfl
  | cons item' items ih =>
    cases fuel with
    | zero => cases hfuel
    | succ fuel =>
      have hrest : itemsText indent false (item' :: items) =
        44 :: itemsText indent true (item' :: items) := rfl
      have hlength : 0 < (newline indent).length := Nat.zero_lt_succ _
      rw [itemsText, if_pos rfl, List.nil_append] at hfuel ⊢
      simp only [List.append_assoc, List.length_append] at hfuel ⊢
      rw [parseItems, parseValue_newline,
        h item List.mem_cons_self indent fuel _ (by omega) (endsNumber_itemsText _ _ _ _),
        Option.bind_some, hrest]
      rw [hrest, List.length_cons] at hfuel
      simp only [List.cons_append, skipSpace_cons (c := 44) rfl, if_true]
      rw [ih (fun i hi => h i (List.mem_cons_of_mem _ hi)) (by omega)]
      rfl

theorem endsNumber_fieldsText (indent indent' : ℕ) (fields : List (ByteString × Json))
    (rest : ByteString) :
    EndsNumber (fieldsText indent false fields ++ (newline indent' ++ rest)) := by
  cases fields with
  | nil => exact endsNumber_newline _ _
  | cons f fields => exact endsNumber_cons rfl _

/-- One field, which is the last one unless a comma follows. -/
theorem parseFields_field {name : ByteString} {value : Json} {indent fuel : ℕ} {rest : ByteString}
    (hvalue : ReadsBack value) (hfuel : (text indent value).length < fuel)
    (hrest : EndsNumber rest) :
    parseFields (fuel + 1) (newline indent ++ (34 :: (stringText name ++
        (58 :: 32 :: (text indent value ++ rest))))) =
      match skipSpace rest with
      | [] => none
      | c :: rest =>
        if c = 44 then (parseFields fuel rest).map fun q => ((name, value) :: q.1, q.2)
        else if c = 125 then some ([(name, value)], rest)
        else none := by
  have hname (tail : ByteString) : parseString (stringText name ++ tail).length
      (stringText name ++ tail) = some (name, tail) := by
    refine parseString_stringText ?_
    have hlength := length_lt_stringText name
    rw [List.length_append]
    omega
  have hspace : parseValue fuel (32 :: (text indent value ++ rest)) = some (value, rest) := by
    rw [← hvalue indent fuel rest hfuel hrest]
    cases fuel with
    | zero => rfl
    | succ fuel => rfl
  rw [parseFields, skipSpace_newline, skipSpace_cons rfl]
  simp only [if_true, hname, Option.bind_some, skipSpace_cons (c := 58) rfl, hspace]

theorem parseFields_fieldsText {f : ByteString × Json} {fields : List (ByteString × Json)}
    {indent indent' fuel : ℕ} {rest : ByteString} (h : ∀ f' ∈ f :: fields, ReadsBack f'.2)
    (hfuel : (fieldsText indent true (f :: fields)).length < fuel) :
    parseFields fuel (fieldsText indent true (f :: fields) ++ (newline indent' ++ 125 :: rest)) =
      some (f :: fields, rest) := by
  induction fields generalizing f fuel with
  | nil =>
    cases fuel with
    | zero => cases hfuel
    | succ fuel =>
      simp only [fieldsText, if_true, List.nil_append, List.append_nil, List.append_assoc,
        List.cons_append, List.length_append, List.length_cons] at hfuel ⊢
      rw [parseFields_field (h f List.mem_cons_self) (by omega) (endsNumber_newline _ _),
        skipSpace_newline, skipSpace_cons rfl]
      rfl
  | cons f' fields ih =>
    cases fuel with
    | zero => cases hfuel
    | succ fuel =>
      have hrest : fieldsText indent false (f' :: fields) =
        44 :: fieldsText indent true (f' :: fields) := rfl
      rw [fieldsText, if_pos rfl, List.nil_append] at hfuel ⊢
      simp only [List.append_assoc, List.cons_append, List.length_append,
        List.length_cons] at hfuel ⊢
      rw [parseFields_field (h f List.mem_cons_self) (by omega) (endsNumber_fieldsText _ _ _ _),
        hrest, List.cons_append, skipSpace_cons rfl]
      rw [hrest, List.length_cons] at hfuel
      simp only [if_true]
      rw [ih (fun i hi => h i (List.mem_cons_of_mem _ hi)) (by omega)]
      rfl

theorem parseValue_scalar {fuel : ℕ} {c : UInt8} (rest : ByteString) (hspace : isSpace c = false)
    (hstring : c ≠ 34) (harray : c ≠ 91) (hobject : c ≠ 123) :
    parseValue (fuel + 1) (c :: rest) = parseScalar (c :: rest) := by
  rw [parseValue, skipSpace_cons hspace]
  simp only [if_neg hstring, if_neg harray, if_neg hobject]

/-- **The text keeps the value**: a normal value is read back from its text. -/
theorem readsBack {json : Json} (h : json.Normal) : ReadsBack json := by
  induction h with
  | null =>
    rintro indent (_ | fuel) rest hfuel -
    · cases hfuel
    · exact parseValue_scalar (117 :: 108 :: 108 :: rest) rfl (by decide) (by decide)
        (by decide)
  | bool b =>
    rintro indent (_ | fuel) rest hfuel -
    · cases hfuel
    · cases b with
      | false =>
        exact parseValue_scalar (97 :: 108 :: 115 :: 101 :: rest) rfl (by decide)
          (by decide) (by decide)
      | true =>
        exact parseValue_scalar (114 :: 117 :: 101 :: rest) rfl (by decide) (by decide)
          (by decide)
  | unsigned n hn =>
    rintro indent (_ | fuel) rest hfuel hrest
    · cases hfuel
    · rw [text, ← parseScalar_digitsText n hrest]
      cases hdigits : digitsText n with
      | nil => exact absurd hdigits (digitsText_ne_nil n)
      | cons c tail =>
        have hdigit : isDigit c = true := isDigit_of_mem_digitsText (n := n) (by simp [hdigits])
        obtain ⟨c', tail', htext, hspace, -⟩ := exists_cons_text (.unsigned n hn) indent
        rw [text, hdigits] at htext
        cases htext
        exact parseValue_scalar _ hspace (ne_of_isDigit hdigit rfl) (ne_of_isDigit hdigit rfl)
          (ne_of_isDigit hdigit rfl)
  | string s =>
    rintro indent (_ | fuel) rest hfuel -
    · cases hfuel
    · have hlength := length_lt_stringText s
      have hparse : parseString (stringText s ++ rest).length (stringText s ++ rest) =
          some (s, rest) := by
        refine parseString_stringText ?_
        rw [List.length_append]
        omega
      rw [text, List.cons_append, parseValue, skipSpace_cons rfl]
      simp only [if_true, hparse, Option.map_some]
  | @array items hitems ih =>
    rintro indent (_ | fuel) rest hfuel -
    · cases hfuel
    · cases items with
      | nil => rfl
      | cons item items =>
        obtain ⟨c, tail, htext, hspace, hclose⟩ :=
          exists_cons_text (hitems item List.mem_cons_self) (indent + 2)
        rw [text] at hfuel ⊢
        simp only [List.isEmpty_cons, Bool.false_eq_true, if_false, List.cons_append,
          List.append_assoc, List.nil_append, List.length_cons, List.length_append] at hfuel ⊢
        have hitems' : (skipSpace (itemsText (indent + 2) true (item :: items) ++
            (newline indent ++ 93 :: rest))).head? ≠ some 93 := by
          rw [itemsText, if_pos rfl, List.nil_append, List.append_assoc, skipSpace_newline, htext]
          simp only [List.cons_append, skipSpace_cons hspace, List.head?_cons]
          exact fun h => hclose (Option.some.inj h)
        rw [parseValue, skipSpace_cons rfl]
        simp only [if_neg (show (91 : UInt8) ≠ 34 by decide), if_true, if_neg hitems']
        rw [parseItems_itemsText ih (by omega)]
        rfl
  | @object fields hnames hfields ih =>
    rintro indent (_ | fuel) rest hfuel -
    · cases hfuel
    · cases fields with
      | nil => rfl
      | cons f fields =>
        rw [text] at hfuel ⊢
        simp only [List.isEmpty_cons, Bool.false_eq_true, if_false, List.cons_append,
          List.append_assoc, List.nil_append, List.length_cons, List.length_append] at hfuel ⊢
        have hfields' : (skipSpace (fieldsText (indent + 2) true (f :: fields) ++
            (newline indent ++ 125 :: rest))).head? ≠ some 125 := by
          rw [fieldsText, if_pos rfl, List.nil_append, List.append_assoc, skipSpace_newline]
          simp only [List.cons_append, skipSpace_cons (c := 34) rfl, List.head?_cons]
          decide
        rw [parseValue, skipSpace_cons rfl]
        simp only [if_neg (show (123 : UInt8) ≠ 34 by decide),
          if_neg (show (123 : UInt8) ≠ 91 by decide), if_true, if_neg hfields']
        rw [parseFields_fieldsText ih (by omega)]
        rfl

/-! ## The codec -/

/-- The value that a text consists of, apart from white space. -/
def parseText (text : ByteString) : Option Json :=
  (parseValue (text.length + 1) text).bind fun p =>
    if skipSpace p.2 = [] ∧ p.1.Encoded then some p.1 else none

/-- A parser and a serialiser for values without negative and floating-point numbers. -/
def textCodec : JsonCodec where
  parse := parseText
  dump json := if json.Encoded then some (text 0 json) else none

theorem textCodec_lawful : textCodec.Lawful where
  encoded_parse text json h := by
    obtain ⟨p, -, hp⟩ := Option.bind_eq_some_iff.mp h
    split at hp
    · rename_i hencoded
      cases hp
      exact hencoded.2
    · cases hp
  isSome_dump json := by
    dsimp only [textCodec]
    split
    · rename_i h
      simp [h]
    · rename_i h
      simp [h]
  parse_dump json t hnormal h := by
    dsimp only [textCodec] at h
    split at h
    · rename_i hencoded
      cases h
      change parseText (text 0 json ++ ofString "\n") = some json
      rw [parseText, readsBack hnormal 0 _ (ofString "\n") (by rw [List.length_append]; omega)
        (endsNumber_cons rfl []), Option.bind_some, if_pos ⟨rfl, hencoded⟩]
    · cases h

end Json
