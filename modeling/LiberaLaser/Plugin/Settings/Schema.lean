import LiberaLaser.Foundations.ByteString
import LiberaLaser.Foundations.Results
import Mathlib.Data.List.Nodup
import Mathlib.Algebra.Order.Ring.Int

/-!
# The settings schema of a plugin

A plugin describes its settings one definition at a time. `readSettingDefinitions` copies them and
refuses a schema with a definition that is not well formed; `validateSettingValue` checks a value
against the definition of its setting. Floating-point numbers enter through the reader of the
standard library alone, so that the numbers are those of any linear order with a zero.
-/

namespace LiberaLaser.Plugin

open ByteString

inductive SettingType
  | bool
  | int
  | float
  | string
  | enum
  deriving DecidableEq

inductive SettingScope
  | plugin
  | controller
  deriving DecidableEq

structure SettingChoice where
  value : ByteString
  label : ByteString
  deriving DecidableEq

structure SettingDefinition where
  scope : SettingScope := .plugin
  type : SettingType := .string
  key : ByteString
  label : ByteString
  description : ByteString := []
  defaultValue : ByteString
  minimumValue : Option ByteString := none
  maximumValue : Option ByteString := none
  stepValue : Option ByteString := none
  choices : List SettingChoice := []
  deriving DecidableEq

/-! ## Values -/

/-- The number that a sequence of digits stands for. -/
def parseDigits (text : ByteString) : Option ℕ :=
  if text ≠ [] ∧ text.all fun c => 48 ≤ c ∧ c ≤ 57 then
    some (text.foldl (fun n c => 10 * n + (c.toNat - 48)) 0)
  else none

/-- The whole text is a base-10 integer that fits 64 bits. -/
def parseInteger (text : ByteString) : Option ℤ :=
  let number : Option ℤ :=
    match text with
    | 45 :: digits => (parseDigits digits).map fun n => -(n : ℤ)
    | digits => (parseDigits digits).map fun n => (n : ℤ)
  number.filter fun n => -2 ^ 63 ≤ n ∧ n < 2 ^ 63

/-- The extraction of a double from a stream: the number, none where it is not finite, and the bytes
that are left. -/
abbrev DoubleReader (F : Type*) := ByteString → Option (Option F × ByteString)

section

variable {F : Type*}

/-- The whole text is a finite number. -/
def parseFloat (readDouble : DoubleReader F) (text : ByteString) : Option F :=
  if text = [] then none
  else
    match readDouble text with
    | some (value, []) => value
    | _ => none

/-- The value is within the bounds that the definition declares. -/
def checkBounds {α : Type*} [LinearOrder α] (parse : ByteString → Option α) (parsed : α)
    (definition : SettingDefinition) : Except ByteString Unit :=
  if (definition.minimumValue.bind parse).any (fun bound => parsed < bound) then
    .error (ofString "value is below the minimum")
  else if (definition.maximumValue.bind parse).any (fun bound => bound < parsed) then
    .error (ofString "value is above the maximum")
  else .ok ()

def validateSettingValue [LinearOrder F] (readDouble : DoubleReader F)
    (definition : SettingDefinition) (value : ByteString) : Except ByteString Unit :=
  match definition.type with
  | .bool =>
    if value = ofString "true" ∨ value = ofString "false" then .ok ()
    else .error (ofString "expected true or false")
  | .int =>
    match parseInteger value with
    | none => .error (ofString "expected a base-10 integer")
    | some parsed => checkBounds parseInteger parsed definition
  | .float =>
    match parseFloat readDouble value with
    | none => .error (ofString "expected a finite decimal number")
    | some parsed => checkBounds (parseFloat readDouble) parsed definition
  | .string => .ok ()
  | .enum =>
    if definition.choices.any (fun choice => choice.value = value) then .ok ()
    else .error (ofString "value is not one of the declared choices")

/-! ## Definitions -/

/-- The bounds and the step are numbers of the setting's kind, the step positive and the bounds in
order. -/
def validateBounds {α : Type*} [LinearOrder α] [Zero α] (parse : ByteString → Option α)
    (kind : String) (definition : SettingDefinition) : Except ByteString Unit :=
  if definition.minimumValue.any (fun text => (parse text).isNone) ||
      definition.maximumValue.any (fun text => (parse text).isNone) ||
      definition.stepValue.any (fun text => (parse text).all (fun step => step ≤ 0)) then
    .error (ofString kind ++ ofString " setting has invalid bounds or step")
  else if (definition.minimumValue.bind parse).any (fun minimum =>
      (definition.maximumValue.bind parse).any (fun maximum => maximum < minimum)) then
    .error (ofString kind ++ ofString " setting minimum exceeds maximum")
  else .ok ()

def validateNumericMetadata [LinearOrder F] [Zero F] (readDouble : DoubleReader F)
    (definition : SettingDefinition) : Except ByteString Unit :=
  match definition.type with
  | .int => validateBounds parseInteger "integer" definition
  | .float => validateBounds (parseFloat readDouble) "floating-point" definition
  | _ =>
    if definition.minimumValue.isSome || definition.maximumValue.isSome ||
        definition.stepValue.isSome then
      .error (ofString "non-numeric setting declares numeric constraints")
    else .ok ()

/-- `libera_setting_choice_t`. Null is `none`. -/
structure RawSettingChoice where
  value : Option CString
  label : Option CString

/-- `libera_setting_def_t`, as the plugin fills it in. -/
structure RawSettingDefinition where
  /-- The size of the structure is at least the base size. -/
  sized : Bool := true
  key : Option CString
  label : Option CString
  description : Option CString := none
  type : ℤ
  defaultValue : Option CString
  minimumValue : Option CString := none
  maximumValue : Option CString := none
  stepValue : Option CString := none
  choices : Option (ℕ → RawSettingChoice) := none
  choiceCount : ℕ := 0

def safeString (value : Option CString) : ByteString := value.elim [] CString.bytes

def SettingType.ofAbi : ℤ → Option SettingType
  | 0 => some .bool
  | 1 => some .int
  | 2 => some .float
  | 3 => some .string
  | 4 => some .enum
  | _ => none

/-- The choices of a definition, each with a value of its own. -/
def readChoices (key : ByteString) :
    List RawSettingChoice → List SettingChoice → Except ByteString (List SettingChoice)
  | [], choices => .ok choices
  | raw :: raws, choices =>
    let choice : SettingChoice := ⟨safeString raw.value, safeString raw.label⟩
    if choice.value = [] ∨ choice.label = [] ∨ ∃ c ∈ choices, c.value = choice.value then
      .error (ofString "setting " ++ key ++ ofString " has an invalid or duplicate choice")
    else readChoices key raws (choices ++ [choice])

/-- The copy of a definition, which has not been checked. -/
def copyDefinition (scope : SettingScope) (i : ℕ) (raw : Option RawSettingDefinition) :
    Except ByteString SettingDefinition :=
  match raw.filter (·.sized) with
  | none =>
    .error (ofString "setting definition " ++ ofString (toString i) ++
      ofString " is missing or too small")
  | some raw =>
    match raw.defaultValue, SettingType.ofAbi raw.type with
    | none, _ =>
      .error (ofString "setting definition " ++ ofString (toString i) ++
        ofString " has no default value")
    | some _, none =>
      .error (ofString "setting " ++ ofString (toString i) ++ ofString " has an unknown type")
    | some defaultValue, some type =>
      let key := safeString raw.key
      if 0 < raw.choiceCount ∧ raw.choices = none then
        .error (ofString "setting " ++ key ++ ofString " declares choices without a choice table")
      else
        (readChoices key
          (raw.choices.elim [] fun choices => (List.range raw.choiceCount).map choices) []).map
          fun choices =>
            { scope, type, key, label := safeString raw.label
              description := safeString raw.description
              defaultValue := defaultValue.bytes
              minimumValue := raw.minimumValue.map CString.bytes
              maximumValue := raw.maximumValue.map CString.bytes
              stepValue := raw.stepValue.map CString.bytes, choices }

/-- The checks of a definition, after those with the keys `seen`. -/
def checkDefinition [LinearOrder F] [Zero F] (readDouble : DoubleReader F) (seen : List ByteString)
    (definition : SettingDefinition) : Except ByteString Unit :=
  if definition.key = [] ∨ definition.label = [] ∨ definition.key ∈ seen then
    .error (ofString "setting definitions need unique non-empty keys and labels")
  else if definition.type = .enum ∧ definition.choices = [] then
    .error (ofString "enum setting " ++ definition.key ++ ofString " has no choices")
  else if definition.type ≠ .enum ∧ definition.choices ≠ [] then
    .error (ofString "non-enum setting " ++ definition.key ++ ofString " declares choices")
  else
    ((validateNumericMetadata readDouble definition).bind fun _ =>
      validateSettingValue readDouble definition definition.defaultValue).mapError
        fun error => ofString "setting " ++ definition.key ++ ofString ": " ++ error

/-- The definitions with the indices of a list, after those that were read. -/
def readDefinitions [LinearOrder F] [Zero F] (readDouble : DoubleReader F) (scope : SettingScope)
    (raw : ℕ → Option RawSettingDefinition) :
    List ℕ → List SettingDefinition → Except ByteString (List SettingDefinition)
  | [], definitions => .ok definitions
  | i :: is, definitions => do
    let definition ← copyDefinition scope i (raw i)
    checkDefinition readDouble (definitions.map (·.key)) definition
    readDefinitions readDouble scope raw is (definitions ++ [definition])

/-- The callbacks of `libera_plugin_api_t` for settings: those within the structure that the plugin
was built with, and those that are not null. -/
structure SettingsApi where
  hasDefinitions : Bool := true
  getSettingCount : Option (SettingScope → UInt32)
  getSettingDefinition : Option (SettingScope → ℕ → Option RawSettingDefinition)
  hasSetter : Bool := true
  setPluginSetting : Bool := true
  rescan : Bool := true

def readSettingDefinitions [LinearOrder F] [Zero F] (readDouble : DoubleReader F)
    (api : SettingsApi) (scope : SettingScope) : Except ByteString (List SettingDefinition) :=
  if api.hasDefinitions then
    match api.getSettingCount, api.getSettingDefinition with
    | none, none => .ok []
    | some getSettingCount, some getSettingDefinition =>
      readDefinitions readDouble scope (getSettingDefinition scope)
        (List.range (getSettingCount scope).toNat) []
    | _, _ => .error (ofString "settings must provide both definition callbacks")
  else .ok []

def findDefinition (definitions : List SettingDefinition) (key : ByteString) :
    Option SettingDefinition :=
  definitions.find? (·.key = key)

/-! ## What a schema that is read promises -/

/-- What is checked of every definition. -/
structure SettingDefinition.WellFormed [LinearOrder F] [Zero F] (readDouble : DoubleReader F)
    (definition : SettingDefinition) : Prop where
  key_ne_nil : definition.key ≠ []
  zero_notMem_key : 0 ∉ definition.key
  label_ne_nil : definition.label ≠ []
  choices_iff : definition.choices ≠ [] ↔ definition.type = .enum
  metadata : validateNumericMetadata readDouble definition = .ok ()
  defaultValue : validateSettingValue readDouble definition definition.defaultValue = .ok ()

variable [LinearOrder F] [Zero F] {readDouble : DoubleReader F} {definition : SettingDefinition}

theorem zero_notMem_safeString (value : Option CString) : 0 ∉ safeString value := by
  cases value with
  | none => exact List.not_mem_nil
  | some value => exact value.zero_notMem

theorem zero_notMem_copyDefinition {scope : SettingScope} {i : ℕ}
    {raw : Option RawSettingDefinition} (h : copyDefinition scope i raw = .ok definition) :
    0 ∉ definition.key := by
  unfold copyDefinition at h
  split at h
  · cases h
  split at h
  · cases h
  · cases h
  split at h
  · cases h
  obtain ⟨choices, -, rfl⟩ := Except.map_eq_ok.mp h
  exact zero_notMem_safeString _

theorem checkDefinition_ok {seen : List ByteString} (hkey : 0 ∉ definition.key)
    (h : checkDefinition readDouble seen definition = .ok ()) :
    definition.WellFormed readDouble ∧ definition.key ∉ seen := by
  unfold checkDefinition at h
  split at h
  · cases h
  split at h
  · cases h
  split at h
  · cases h
  rename_i hnames henum hplain
  push Not at hnames henum hplain
  obtain ⟨_, hmetadata, hdefault⟩ := Except.bind_eq_ok.mp (Except.mapError_eq_ok.mp h)
  have hchoices : definition.choices ≠ [] ↔ definition.type = .enum := by
    refine ⟨fun hne => ?_, henum⟩
    by_contra htype
    exact hne (hplain htype)
  exact ⟨⟨hnames.1, hkey, hnames.2.1, hchoices, hmetadata, hdefault⟩, hnames.2.2⟩

/-- The definitions that were read are well formed, with distinct keys. -/
theorem readDefinitions_wellFormed {scope : SettingScope} {raw : ℕ → Option RawSettingDefinition}
    {is : List ℕ} {definitions result : List SettingDefinition}
    (hwell : ∀ d ∈ definitions, d.WellFormed readDouble)
    (hkeys : (definitions.map (·.key)).Nodup)
    (h : readDefinitions readDouble scope raw is definitions = .ok result) :
    (∀ d ∈ result, d.WellFormed readDouble) ∧ (result.map (·.key)).Nodup := by
  induction is generalizing definitions with
  | nil =>
    cases h
    exact ⟨hwell, hkeys⟩
  | cons i is ih =>
    rw [readDefinitions] at h
    obtain ⟨definition, hcopy, h⟩ := Except.bind_eq_ok.mp h
    obtain ⟨_, hcheck, h⟩ := Except.bind_eq_ok.mp h
    obtain ⟨hdefinition, hfresh⟩ := checkDefinition_ok (zero_notMem_copyDefinition hcopy) hcheck
    refine ih (fun d hd => ?_) ?_ h
    · rcases List.mem_append.mp hd with hd | hd
      · exact hwell d hd
      · rw [List.mem_singleton.mp hd]
        exact hdefinition
    · rw [List.map_append]
      exact List.nodup_append_comm.mpr (List.nodup_cons.mpr ⟨hfresh, hkeys⟩)

/-- **A schema that is read is well formed**: the keys are distinct C strings, not empty, and every
default passes the check of its own definition. -/
theorem readSettingDefinitions_wellFormed {api : SettingsApi} {scope : SettingScope}
    {definitions : List SettingDefinition}
    (h : readSettingDefinitions readDouble api scope = .ok definitions) :
    (∀ d ∈ definitions, d.WellFormed readDouble) ∧ (definitions.map (·.key)).Nodup := by
  have hnil : (∀ d ∈ ([] : List SettingDefinition), d.WellFormed readDouble) ∧
      (([] : List SettingDefinition).map (·.key)).Nodup :=
    ⟨fun d hd => absurd hd List.not_mem_nil, List.nodup_nil⟩
  unfold readSettingDefinitions at h
  split at h
  · split at h
    · cases h
      exact hnil
    · exact readDefinitions_wellFormed hnil.1 hnil.2 h
    · cases h
  · cases h
    exact hnil

theorem zero_notMem_readChoices {key : ByteString} {raws : List RawSettingChoice}
    {choices result : List SettingChoice} (hchoices : ∀ choice ∈ choices, 0 ∉ choice.value)
    (h : readChoices key raws choices = .ok result) : ∀ choice ∈ result, 0 ∉ choice.value := by
  induction raws generalizing choices with
  | nil =>
    cases h
    exact hchoices
  | cons raw raws ih =>
    rw [readChoices] at h
    split at h
    · cases h
    · refine ih (fun choice hmem => ?_) h
      rcases List.mem_append.mp hmem with hmem | hmem
      · exact hchoices choice hmem
      · rw [List.mem_singleton.mp hmem]
        exact zero_notMem_safeString raw.value

/-- A copy has the scope that was asked for, and choices that are C strings. -/
theorem copyDefinition_ok {scope : SettingScope} {i : ℕ} {raw : Option RawSettingDefinition}
    (h : copyDefinition scope i raw = .ok definition) :
    definition.scope = scope ∧ ∀ choice ∈ definition.choices, 0 ∉ choice.value := by
  unfold copyDefinition at h
  split at h
  · cases h
  split at h
  · cases h
  · cases h
  split at h
  · cases h
  obtain ⟨choices, hread, rfl⟩ := Except.map_eq_ok.mp h
  exact ⟨rfl, zero_notMem_readChoices (fun _ h => absurd h List.not_mem_nil) hread⟩

/-- The definitions that were read are copies. -/
theorem readDefinitions_copies {scope : SettingScope} {raw : ℕ → Option RawSettingDefinition}
    {is : List ℕ} {definitions result : List SettingDefinition}
    (h : readDefinitions readDouble scope raw is definitions = .ok result)
    (hmem : definition ∈ result) :
    definition ∈ definitions ∨ ∃ i, copyDefinition scope i (raw i) = .ok definition := by
  induction is generalizing definitions with
  | nil =>
    cases h
    exact .inl hmem
  | cons i is ih =>
    rw [readDefinitions] at h
    obtain ⟨copy, hcopy, h⟩ := Except.bind_eq_ok.mp h
    obtain ⟨_, -, h⟩ := Except.bind_eq_ok.mp h
    rcases ih h with hmem | hcopied
    · rcases List.mem_append.mp hmem with hmem | hmem
      · exact .inl hmem
      · rw [List.mem_singleton.mp hmem]
        exact .inr ⟨i, hcopy⟩
    · exact .inr hcopied

theorem readSettingDefinitions_copies {api : SettingsApi} {scope : SettingScope}
    {definitions : List SettingDefinition}
    (h : readSettingDefinitions readDouble api scope = .ok definitions)
    (hmem : definition ∈ definitions) :
    definition.scope = scope ∧ ∀ choice ∈ definition.choices, 0 ∉ choice.value := by
  unfold readSettingDefinitions at h
  split at h
  · split at h
    · cases h
      cases hmem
    · rcases readDefinitions_copies h hmem with hmem | ⟨i, hcopy⟩
      · cases hmem
      · exact copyDefinition_ok hcopy
    · cases h
  · cases h
    cases hmem

theorem findDefinition_some {definitions : List SettingDefinition} {key : ByteString}
    (h : findDefinition definitions key = some definition) :
    definition ∈ definitions ∧ definition.key = key :=
  ⟨List.mem_of_find?_eq_some h, by simpa using List.find?_some h⟩

end

end LiberaLaser.Plugin
