import LiberaLaser.Backends.Avb.Configuration
import LiberaLaser.Foundations.FreshNames
import Mathlib.Data.List.DropRight

/-!
# The names of Helios devices

A device stores a name of thirty bytes or fewer. One without a name, or with the name of another, is
given the name that the vendor gives by default, made of the serial number or of the path of the
port, and with a number behind it where that name is taken as well. The id of a controller is made
of its name in the same way. No more numbers are tried than there are names in use, and one
(`exists_makeUniqueRenameLabel`, `exists_makeHeliosControllerId`).
-/

namespace LiberaLaser.Helios

open ByteString FreshNames Avb

/-! ## Text -/

def isAsciiDigit (c : UInt8) : Bool := 48 ≤ c && c ≤ 57

def isAsciiAlnum (c : UInt8) : Bool :=
  isAsciiDigit c || (65 ≤ c && c ≤ 90) || (97 ≤ c && c ≤ 122)

def toAsciiLower (c : UInt8) : UInt8 := if 65 ≤ c && c ≤ 90 then c + 32 else c

def trimAsciiWhitespace (value : ByteString) : ByteString :=
  (value.dropWhile isspace).rdropWhile isspace

def lowercaseAscii (value : ByteString) : ByteString := value.map toAsciiLower

def containsAsciiNoCase (haystack needle : ByteString) : Bool :=
  lowercaseAscii needle <:+: lowercaseAscii haystack

def sanitizeSerialToken (text : ByteString) : ByteString := text.filter isAsciiAlnum

def digitsOnly (text : ByteString) : ByteString := text.filter isAsciiDigit

/-- The last bytes of a text. -/
def lastBytes (count : ℕ) (text : ByteString) : ByteString := text.drop (text.length - count)

/-! ## The default names -/

def maxHeliosNameLength : ℕ := 30

def truncateHeliosName (label : ByteString) : ByteString := label.take maxHeliosNameLength

/-- The digits of a text, or its letters where it has no digits. -/
def serialToken (text : ByteString) : ByteString :=
  if digitsOnly text = [] then sanitizeSerialToken text else digitsOnly text

def makePortPathFallbackToken (portPath : ByteString) (maxLength : ℕ) : ByteString :=
  lastBytes maxLength (if serialToken portPath = [] then ofString "0" else serialToken portPath)

def prefersHeliosProDefaultName (productString token : ByteString) : Bool :=
  if containsAsciiNoCase productString (ofString "heliospro") ||
      containsAsciiNoCase productString (ofString "idn") then true
  else !token.isEmpty && token.length ≤ 4

def makeHeliosUsbDefaultName (productString serialString portPath : ByteString) : ByteString :=
  let token := serialToken serialString
  if prefersHeliosProDefaultName productString token then
    let token := if token = [] then makePortPathFallbackToken portPath 4 else lastBytes 4 token
    truncateHeliosName (ofString "HeliosPro " ++ token)
  else
    let token := if token = [] then makePortPathFallbackToken portPath 9 else token
    truncateHeliosName (ofString "helios " ++ token)

def makeGenericHeliosFallbackName (index : ℕ) : ByteString :=
  truncateHeliosName (ofString "helios " ++ decimal index)

/-! ## Names that are taken -/

/-- The preferred name, or a generic one where that is empty. -/
def renameBase (index : ℕ) (preferredBase : ByteString) : ByteString :=
  if truncateHeliosName preferredBase = [] then makeGenericHeliosFallbackName index
  else truncateHeliosName preferredBase

/-- The base of a name, as long as its suffix leaves room for. -/
def shortenedBase (index maxBaseLength : ℕ) (base : ByteString) : ByteString :=
  if base.length ≤ maxBaseLength then base
  else
    let shortened := (base.take maxBaseLength).rdropWhile (· = 32)
    if shortened = [] then (makeGenericHeliosFallbackName index).take maxBaseLength else shortened

def suffixLabel (suffix : ℕ) : ByteString := ofString " (" ++ decimal suffix ++ ofString ")"

def makeUniqueRenameLabelWithSuffix (index : ℕ) (preferredBase : ByteString) (suffix : ℕ) :
    ByteString :=
  let base := renameBase index preferredBase
  if maxHeliosNameLength ≤ (suffixLabel suffix).length then truncateHeliosName base
  else
    shortenedBase index (maxHeliosNameLength - (suffixLabel suffix).length) base ++
      suffixLabel suffix

/-- The preferred name, or the first name with a suffix, that no device has. -/
def makeUniqueRenameLabel (index : ℕ) (preferredBase currentLabel : ByteString)
    (usedLabels : List ByteString) : Option ByteString :=
  let taken := truncateHeliosName currentLabel :: usedLabels
  if renameBase index preferredBase ∉ taken then some (renameBase index preferredBase)
  else firstFree (makeUniqueRenameLabelWithSuffix index preferredBase) taken (taken.length + 1) 2

/-! ## The ids -/

/-- A byte of a name in an id: a letter, a digit or a separator, or nothing. -/
def idByte (c : UInt8) : Option UInt8 :=
  if isAsciiAlnum c then some (toAsciiLower c)
  else if c = 32 || c = 45 || c = 95 || c = 46 then some 45
  else none

/-- Repeated separators become one. -/
def collapseDashes : Bool → ByteString → ByteString
  | _, [] => []
  | previousDash, c :: text =>
    if c = 45 then
      if previousDash then collapseDashes true text else c :: collapseDashes true text
    else c :: collapseDashes false text

def sanitizeIdComponent (text : ByteString) : ByteString :=
  ((collapseDashes false (text.filterMap idByte)).dropWhile (· = 45)).rdropWhile (· = 45)

/-- What the id of a controller with a name starts with. -/
def idBase (label : ByteString) : ByteString :=
  if sanitizeIdComponent label = [] then ofString "helios" else sanitizeIdComponent label

def numberedId (base : ByteString) (number : ℕ) : ByteString := base ++ 45 :: decimal number

/-- The id of a controller, which becomes one of those in use. -/
def makeHeliosControllerId (label : ByteString) (index : ℕ) (usedIds : List ByteString) :
    Option ByteString :=
  let base := idBase label
  if base ∉ usedIds then some base
  else if numberedId base index ∉ usedIds then some (numberedId base index)
  else firstFree (numberedId base) usedIds (usedIds.length + 1) 2

def busyName : ByteString := ofString "helios-usb-busy"

def makeBusyHeliosControllerId (portPath : ByteString) : ByteString := busyName ++ 45 :: portPath

def makeBusyHeliosLabel (portPath : ByteString) : ByteString := ofString "Helios USB " ++ portPath

/-! ## What the names are -/

theorem paren_notMem_decimal (n : ℕ) : 40 ∉ decimal n := by
  intro h
  obtain ⟨c, hc, hparen⟩ := List.mem_map.mp h
  have hdigit := isDigit_of_mem hc
  simp only [Char.isDigit, Bool.and_eq_true, decide_eq_true_eq, ge_iff_le,
    UInt32.le_iff_toNat_le] at hdigit
  have hlow : 48 ≤ c.val.toNat := hdigit.1
  have hhigh : c.val.toNat ≤ 57 := hdigit.2
  have hvalue : c.val.toUInt8.toNat = 40 := congrArg UInt8.toNat hparen
  rw [UInt32.toNat_toUInt8] at hvalue
  omega

/-- What follows the last occurrence of a byte. -/
theorem append_cons_inj {b : UInt8} {s s' t t' : ByteString} (ht : b ∉ t) (ht' : b ∉ t')
    (h : s ++ b :: t = s' ++ b :: t') : t = t' := by
  have hlast (s t : ByteString) (ht : b ∉ t) :
      ((s ++ b :: t).reverse.takeWhile (· ≠ b)).reverse = t := by
    rw [List.reverse_append, List.reverse_cons, List.append_assoc, List.singleton_append,
      List.takeWhile_append_of_pos (fun c hc => ?_), List.takeWhile_cons_of_neg (by simp),
      List.append_nil, List.reverse_reverse]
    exact decide_eq_true fun hcb => ht (hcb ▸ List.mem_reverse.mp hc)
  rw [← hlast s t ht, h, hlast s' t' ht']

theorem length_suffixLabel {suffix : ℕ} (h : suffix < 2 ^ 31) :
    (suffixLabel suffix).length ≤ 13 := by
  have hdigits : (decimal suffix).length ≤ 10 := by
    rw [decimal, List.length_map, Nat.length_toDigits_le_iff (by decide) (by decide)]
    omega
  rw [suffixLabel, List.length_append, List.length_append]
  have hopening : (ofString " (").length = 2 := by decide
  have hclosing : (ofString ")").length = 1 := by decide
  omega

theorem makeGenericHeliosFallbackName_ne_nil (index : ℕ) :
    makeGenericHeliosFallbackName index ≠ [] := by
  have hword : ofString "helios " = 104 :: ofString "elios " := by decide
  rw [makeGenericHeliosFallbackName, truncateHeliosName, hword, List.cons_append]
  exact List.cons_ne_nil _ _

theorem renameBase_ne_nil (index : ℕ) (preferredBase : ByteString) :
    renameBase index preferredBase ≠ [] := by
  rw [renameBase]
  split
  · exact makeGenericHeliosFallbackName_ne_nil index
  · assumption

theorem length_renameBase_le (index : ℕ) (preferredBase : ByteString) :
    (renameBase index preferredBase).length ≤ maxHeliosNameLength := by
  rw [renameBase]
  split <;> exact List.length_take_le _ _

theorem length_shortenedBase_le (index maxBaseLength : ℕ) (base : ByteString) :
    (shortenedBase index maxBaseLength base).length ≤ maxBaseLength := by
  rw [shortenedBase]
  split
  · assumption
  · dsimp only
    split
    · exact List.length_take_le _ _
    · exact (List.rdropWhile_prefix _ _).length_le.trans (List.length_take_le _ _)

/-- A name with a suffix is no longer than a name may be. -/
theorem withSuffix_spec (index : ℕ) (preferredBase : ByteString) {suffix : ℕ}
    (h : suffix < 2 ^ 31) :
    makeUniqueRenameLabelWithSuffix index preferredBase suffix =
        shortenedBase index (maxHeliosNameLength - (suffixLabel suffix).length)
          (renameBase index preferredBase) ++ suffixLabel suffix ∧
      makeUniqueRenameLabelWithSuffix index preferredBase suffix ≠ [] ∧
      (makeUniqueRenameLabelWithSuffix index preferredBase suffix).length ≤
        maxHeliosNameLength := by
  have hlength := length_suffixLabel h
  have hname : makeUniqueRenameLabelWithSuffix index preferredBase suffix =
      shortenedBase index (maxHeliosNameLength - (suffixLabel suffix).length)
        (renameBase index preferredBase) ++ suffixLabel suffix :=
    if_neg (by rw [maxHeliosNameLength]; omega)
  have hshort := length_shortenedBase_le index
    (maxHeliosNameLength - (suffixLabel suffix).length) (renameBase index preferredBase)
  have hword : ofString " (" = [32, 40] := by decide
  refine ⟨hname, ?_, ?_⟩
  · rw [hname, suffixLabel, hword]
    simp
  · rw [hname, List.length_append]
    rw [maxHeliosNameLength] at hshort ⊢
    omega

theorem withSuffix_inj {index : ℕ} {preferredBase : ByteString} {n m : ℕ} (hn : n < 2 ^ 31)
    (hm : m < 2 ^ 31) (h : makeUniqueRenameLabelWithSuffix index preferredBase n =
      makeUniqueRenameLabelWithSuffix index preferredBase m) : n = m := by
  rw [(withSuffix_spec index preferredBase hn).1, (withSuffix_spec index preferredBase hm).1] at h
  have hclosing : ofString ")" = [41] := by decide
  have hopening : ofString " (" = [32] ++ [40] := by decide
  have hsplit (base : ByteString) (suffix : ℕ) :
      base ++ suffixLabel suffix = (base ++ [32]) ++ 40 :: (decimal suffix ++ [41]) := by
    rw [suffixLabel, hclosing, hopening]
    simp
  have hnone (suffix : ℕ) : 40 ∉ decimal suffix ++ [41] := by
    simp [paren_notMem_decimal]
  rw [hsplit, hsplit] at h
  exact decimal_inj (List.append_cancel_right (append_cons_inj (hnone n) (hnone m) h))

/-- **A new name is found**: it fits into the device, and is none of those in use. -/
theorem exists_makeUniqueRenameLabel (index : ℕ) (preferredBase currentLabel : ByteString)
    {usedLabels : List ByteString} (hused : usedLabels.length < 2 ^ 31 - 4) :
    ∃ name, makeUniqueRenameLabel index preferredBase currentLabel usedLabels = some name ∧
      name ∉ usedLabels ∧ name ≠ truncateHeliosName currentLabel ∧ name ≠ [] ∧
      name.length ≤ maxHeliosNameLength := by
  rw [makeUniqueRenameLabel]
  split
  · rename_i hfree
    refine ⟨_, rfl, fun h => hfree (List.mem_cons_of_mem _ h), fun h => hfree ?_,
      renameBase_ne_nil _ _, length_renameBase_le _ _⟩
    rw [h]
    exact List.mem_cons_self
  · have hlength : (truncateHeliosName currentLabel :: usedLabels).length =
        usedLabels.length + 1 := rfl
    have hinj : ∀ j < (truncateHeliosName currentLabel :: usedLabels).length + 1,
        ∀ k < (truncateHeliosName currentLabel :: usedLabels).length + 1,
        makeUniqueRenameLabelWithSuffix index preferredBase (2 + j) =
          makeUniqueRenameLabelWithSuffix index preferredBase (2 + k) → j = k := by
      intro j hj k hk h
      have hnumber := withSuffix_inj (by omega) (by omega) h
      omega
    obtain ⟨name, hname⟩ := exists_firstFree hinj (Nat.lt_succ_self _)
    obtain ⟨hfree, k, hk, rfl, -⟩ := firstFree_eq_some hname
    have hsuffix : 2 + k < 2 ^ 31 := by omega
    obtain ⟨-, hne, hle⟩ := withSuffix_spec index preferredBase hsuffix
    refine ⟨_, hname, fun h => hfree (List.mem_cons_of_mem _ h), fun h => hfree ?_, hne, hle⟩
    rw [h]
    exact List.mem_cons_self

theorem numberedId_inj {base : ByteString} {n m : ℕ}
    (h : numberedId base n = numberedId base m) : n = m :=
  decimal_inj (List.tail_eq_of_cons_eq (List.append_cancel_left h))

/-- **A new id is found**, which is the name's own or has a number behind it. -/
theorem exists_makeHeliosControllerId (label : ByteString) (index : ℕ)
    (usedIds : List ByteString) :
    ∃ id, makeHeliosControllerId label index usedIds = some id ∧ id ∉ usedIds ∧
      (id = idBase label ∨ ∃ n, id = numberedId (idBase label) n) := by
  rw [makeHeliosControllerId]
  split
  · exact ⟨_, rfl, ‹_›, .inl rfl⟩
  · split
    · exact ⟨_, rfl, ‹_›, .inr ⟨index, rfl⟩⟩
    · have hinj : ∀ j < usedIds.length + 1, ∀ k < usedIds.length + 1,
          numberedId (idBase label) (2 + j) = numberedId (idBase label) (2 + k) → j = k := by
        intro j _ k _ h
        exact Nat.add_left_cancel (numberedId_inj h)
      obtain ⟨id, hid⟩ := exists_firstFree hinj (Nat.lt_succ_self usedIds.length)
      obtain ⟨hfree, k, -, rfl, -⟩ := firstFree_eq_some hid
      exact ⟨_, hid, hfree, .inr ⟨_, rfl⟩⟩

/-- A name whose id may be taken for that of a device in use. -/
def Reserved (label : ByteString) : Prop := busyName <+: sanitizeIdComponent label

instance (label : ByteString) : Decidable (Reserved label) :=
  inferInstanceAs (Decidable (_ <+: _))

/-- What stands before the last dash. -/
theorem prefix_of_append_dash {s base t : ByteString} (ht : 45 ∉ t)
    (h : s ++ [45] <+: base ++ 45 :: t) : s <+: base := by
  rcases Nat.lt_or_ge base.length s.length with hlt | hle
  · -- the dash of the prefix would stand among the bytes behind the dash
    refine absurd ?_ ht
    obtain ⟨u, hu⟩ := h
    have hbase : base <+: s :=
      List.prefix_of_prefix_length_le (List.prefix_append base (45 :: t))
        ⟨[45] ++ u, by rw [← hu, List.append_assoc]⟩ hlt.le
    obtain ⟨v, rfl⟩ := hbase
    have hv : v ≠ [] := by
      rintro rfl
      simp at hlt
    obtain ⟨c, v, rfl⟩ := List.exists_cons_of_ne_nil hv
    simp only [List.append_assoc, List.append_cancel_left_eq, List.cons_append,
      List.cons.injEq] at hu
    rw [← hu.2]
    simp
  · exact List.prefix_of_prefix_length_le ((List.prefix_append s [45]).trans h)
      (List.prefix_append _ _) hle

/-- The id of a device in use is that of no name, unless the name is reserved. -/
theorem reserved_of_eq_busy {label portPath id : ByteString}
    (hid : id = idBase label ∨ ∃ n, id = numberedId (idBase label) n)
    (h : id = makeBusyHeliosControllerId portPath) : Reserved label := by
  have hbusy : busyName ++ [45] <+: id := by
    rw [h, makeBusyHeliosControllerId]
    exact ⟨portPath, by simp⟩
  have hbase : busyName <+: idBase label := by
    rcases hid with rfl | ⟨n, rfl⟩
    · exact (List.prefix_append _ _).trans hbusy
    · exact prefix_of_append_dash (dash_notMem_decimal n) hbusy
  rw [idBase] at hbase
  split at hbase
  · exact absurd hbase (by decide)
  · exact hbase

end LiberaLaser.Helios
