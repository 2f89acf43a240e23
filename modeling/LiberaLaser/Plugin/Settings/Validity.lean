import LiberaLaser.Foundations.JsonText
import LiberaLaser.Plugin.Settings.Saved

/-!
# Plugin settings are always valid

A value is allowed by the definition of its setting when it has the right type, is within the bounds
that the definition declares, and is one of its choices. The schema, the saved values, the defaults
and new values are checked in different places, and all of them come to this: whatever a plugin
describes and whatever the store holds, no other value is handed to a plugin or returned to the
application (`settings_always_valid`).
-/

namespace LiberaLaser.Plugin

open ByteString Runs

/-- The number that some digits stand for. -/
def digitsValue (digits : ByteString) : ℕ :=
  digits.foldl (fun n c => 10 * n + (c.toNat - 48)) 0

/-- A decimal integer that fits 64 bits: digits, after a minus sign or not. -/
def IntegerText (text : ByteString) (n : ℤ) : Prop :=
  ∃ digits : ByteString, digits ≠ [] ∧ (∀ c ∈ digits, 48 ≤ c ∧ c ≤ 57) ∧
    (text = digits ∧ n = digitsValue digits ∨ text = 45 :: digits ∧ n = -digitsValue digits) ∧
    -2 ^ 63 ≤ n ∧ n < 2 ^ 63

/-- The bounds that a definition declares are numbers, and the number is within them. -/
structure WithinBounds {α : Type*} [LE α] (reads : ByteString → α → Prop)
    (definition : SettingDefinition) (n : α) : Prop where
  minimum : ∀ text, definition.minimumValue = some text → ∃ bound, reads text bound ∧ bound ≤ n
  maximum : ∀ text, definition.maximumValue = some text → ∃ bound, reads text bound ∧ n ≤ bound

/-- **The values that a definition allows**, by the type of the setting. -/
inductive SettingDefinition.Allows {F : Type*} [LinearOrder F] (readDouble : DoubleReader F)
    (definition : SettingDefinition) (value : ByteString) : Prop
  | bool (htype : definition.type = .bool)
      (hvalue : value = ofString "true" ∨ value = ofString "false")
  | int (htype : definition.type = .int) (n : ℤ) (hvalue : IntegerText value n)
      (hbounds : WithinBounds IntegerText definition n)
  | float (htype : definition.type = .float) (x : F) (hvalue : parseFloat readDouble value = some x)
      (hbounds : WithinBounds (fun text x => parseFloat readDouble text = some x) definition x)
  | string (htype : definition.type = .string)
  | enum (htype : definition.type = .enum) (choice : SettingChoice)
      (hchoice : choice ∈ definition.choices) (hvalue : choice.value = value)

/-- A text that the stream reads as a number to its end has the characters of a number, after white
space, and so no zero byte. -/
def ReadsText {F : Type*} (readDouble : DoubleReader F) : Prop :=
  ∀ text value, readDouble text = some (value, []) → 0 ∉ text

/-! ## The checks agree -/

theorem parseDigits_text {text : ByteString} {n : ℕ} (h : parseDigits text = some n) :
    text ≠ [] ∧ (∀ c ∈ text, 48 ≤ c ∧ c ≤ 57) ∧ n = digitsValue text := by
  unfold parseDigits at h
  obtain ⟨⟨hne, hdigits⟩, hvalue⟩ := Option.ite_none_right_eq_some.mp h
  refine ⟨hne, fun c hc => ?_, (Option.some.inj hvalue).symm⟩
  exact of_decide_eq_true (List.all_eq_true.mp hdigits c hc)

theorem integerText_of_parseInteger {text : ByteString} {n : ℤ} (h : parseInteger text = some n) :
    IntegerText text n := by
  unfold parseInteger at h
  obtain ⟨hnumber, hrange⟩ := Option.filter_eq_some_iff.mp h
  have hrange := of_decide_eq_true hrange
  split at hnumber
  · rename_i digits
    obtain ⟨m, hm, rfl⟩ := Option.map_eq_some_iff.mp hnumber
    obtain ⟨k, hk, hcast⟩ := Option.bind_eq_some_iff.mp hm
    obtain rfl := Option.some.inj hcast
    obtain ⟨hne, hdigits, rfl⟩ := parseDigits_text hk
    exact ⟨digits, hne, hdigits, .inr ⟨rfl, rfl⟩, hrange⟩
  · obtain ⟨m, hm, rfl⟩ := Option.map_eq_some_iff.mp hnumber
    obtain ⟨k, hk, hcast⟩ := Option.bind_eq_some_iff.mp hm
    obtain rfl := Option.some.inj hcast
    obtain ⟨hne, hdigits, rfl⟩ := parseDigits_text hk
    exact ⟨text, hne, hdigits, .inl ⟨rfl, rfl⟩, hrange⟩

theorem zero_notMem_of_integerText {text : ByteString} {n : ℤ} (h : IntegerText text n) :
    0 ∉ text := by
  obtain ⟨digits, -, hdigits, htext, -⟩ := h
  have hzero : 0 ∉ digits := fun h => absurd (hdigits 0 h).1 (by decide)
  rcases htext with ⟨rfl, -⟩ | ⟨rfl, -⟩
  · exact hzero
  · exact fun h => hzero ((List.mem_cons.mp h).resolve_left (by decide))

/-- A number that passes the check of the bounds is within them, since a schema with bounds that are
not numbers is refused. -/
theorem withinBounds_of_checkBounds {α : Type*} [LinearOrder α] [Zero α]
    {parse : ByteString → Option α} {reads : ByteString → α → Prop} {kind : String}
    {definition : SettingDefinition} {n : α}
    (hreads : ∀ text bound, parse text = some bound → reads text bound)
    (hmetadata : validateBounds parse kind definition = .ok ())
    (h : checkBounds parse n definition = .ok ()) : WithinBounds reads definition n := by
  unfold validateBounds at hmetadata
  split at hmetadata
  · cases hmetadata
  rename_i hnumbers
  simp only [Bool.or_eq_true, not_or, Bool.not_eq_true] at hnumbers
  obtain ⟨⟨hminimum, hmaximum⟩, -⟩ := hnumbers
  unfold checkBounds at h
  split at h
  · cases h
  rename_i hlow
  split at h
  · cases h
  rename_i hhigh
  constructor
  · intro text htext
    rw [htext] at hminimum hlow
    cases hparse : parse text with
    | none => simp [hparse] at hminimum
    | some bound => exact ⟨bound, hreads text bound hparse, by simpa [hparse] using hlow⟩
  · intro text htext
    rw [htext] at hmaximum hhigh
    cases hparse : parse text with
    | none => simp [hparse] at hmaximum
    | some bound => exact ⟨bound, hreads text bound hparse, by simpa [hparse] using hhigh⟩

section

variable {F : Type*} [LinearOrder F] {readDouble : DoubleReader F}
  {definition : SettingDefinition} {value : ByteString}

/-- What is allowed is a C string, except for the values of string settings. -/
theorem SettingDefinition.Allows.zero_notMem (hreader : ReadsText readDouble)
    (hchoices : ∀ choice ∈ definition.choices, 0 ∉ choice.value)
    (h : definition.Allows readDouble value) (htype : definition.type ≠ .string) : 0 ∉ value := by
  cases h with
  | bool _ hvalue =>
    rcases hvalue with rfl | rfl
    · decide +kernel
    · decide +kernel
  | int _ n hvalue _ => exact zero_notMem_of_integerText hvalue
  | float _ x hvalue _ =>
    unfold parseFloat at hvalue
    split at hvalue
    · cases hvalue
    · split at hvalue
      · rename_i read hread
        exact hreader value _ hread
      · cases hvalue
  | string hstring => exact absurd hstring htype
  | enum _ choice hchoice hvalue => exact hvalue ▸ hchoices choice hchoice

/-- **What the setter is handed is allowed** where the value is. -/
theorem SettingDefinition.Allows.ofBytes (hreader : ReadsText readDouble)
    (hchoices : ∀ choice ∈ definition.choices, 0 ∉ choice.value)
    (h : definition.Allows readDouble value) :
    definition.Allows readDouble (CString.ofBytes value).bytes := by
  by_cases htype : definition.type = .string
  · exact .string htype
  · rwa [CString.bytes_ofBytes_iff.mpr (h.zero_notMem hreader hchoices htype)]

variable [Zero F]

/-- **A value that passes the check is allowed.** -/
theorem allows_of_validate (hdefinition : definition.WellFormed readDouble)
    (h : validateSettingValue readDouble definition value = .ok ()) :
    definition.Allows readDouble value := by
  have hmetadata := hdefinition.metadata
  unfold validateNumericMetadata at hmetadata
  unfold validateSettingValue at h
  cases htype : definition.type with
  | bool =>
    rw [htype] at h
    dsimp only at h
    split at h
    · rename_i hvalue
      exact .bool htype hvalue
    · cases h
  | int =>
    rw [htype] at h hmetadata
    dsimp only at h hmetadata
    split at h
    · cases h
    · rename_i n hvalue
      exact .int htype n (integerText_of_parseInteger hvalue)
        (withinBounds_of_checkBounds (fun _ _ => integerText_of_parseInteger) hmetadata h)
  | float =>
    rw [htype] at h hmetadata
    dsimp only at h hmetadata
    split at h
    · cases h
    · rename_i x hvalue
      exact .float htype x hvalue (withinBounds_of_checkBounds (fun _ _ => id) hmetadata h)
  | string => exact .string htype
  | enum =>
    rw [htype] at h
    dsimp only at h
    split at h
    · rename_i hany
      obtain ⟨choice, hchoice, hvalue⟩ := List.any_eq_true.mp hany
      exact .enum htype choice hchoice (of_decide_eq_true hvalue)
    · cases h

/-- The value that a setting has passes the check, whatever is saved. -/
theorem validate_resolvedValue (hdefinition : definition.WellFormed readDouble)
    (saved : Option ByteString) :
    validateSettingValue readDouble definition
      (Host.resolvedValue readDouble definition saved) = .ok () := by
  unfold Host.resolvedValue
  split
  · split
    · assumption
    · exact hdefinition.defaultValue
  · exact hdefinition.defaultValue

/-! ## The values that are handed out -/

/-- The plugin with the API describes the setting so. -/
def Describes (readDouble : DoubleReader F) (api : SettingsApi) (definition : SettingDefinition) :
    Prop :=
  ∃ definitions, readSettingDefinitions readDouble api definition.scope = .ok definitions ∧
    definition ∈ definitions

/-- **What is observed is valid.** A setter is handed a value that the plugin's own definition
allows, under the key of the setting; and the settings that are returned are all those that the
plugin describes, each with a value that its definition allows. -/
def SettingsEvent.Valid (readDouble : DoubleReader F) : SettingsEvent → Prop
  | .handed api definition key value => Describes readDouble api definition ∧
      key.bytes = definition.key ∧ definition.Allows readDouble value.bytes
  | .returned api scope settings =>
    readSettingDefinitions readDouble api scope = .ok (settings.map (·.definition)) ∧
      ∀ setting ∈ settings, setting.definition.Allows readDouble setting.value
  | .runtimeError _ _ => True

variable {api : SettingsApi} {codec : JsonCodec} {definitions : List SettingDefinition}
  {scope : SettingScope} {pluginId controllerId key : ByteString} {read : ReadOutcome}

theorem describes_of_read (h : readSettingDefinitions readDouble api scope = .ok definitions)
    (hmem : definition ∈ definitions) : Describes readDouble api definition := by
  refine ⟨definitions, ?_, hmem⟩
  rw [(readSettingDefinitions_copies h hmem).1]
  exact h

theorem Describes.wellFormed (h : Describes readDouble api definition) :
    definition.WellFormed readDouble := by
  obtain ⟨definitions, hread, hmem⟩ := h
  exact (readSettingDefinitions_wellFormed hread).1 definition hmem

/-- **A value that passes the check may be handed out.** -/
theorem valid_hand (hreader : ReadsText readDouble) (h : Describes readDouble api definition)
    (hvalue : validateSettingValue readDouble definition value = .ok ()) :
    (hand api definition value).Valid readDouble := by
  have hdefinition := h.wellFormed
  refine ⟨h, CString.bytes_ofBytes_iff.mpr hdefinition.zero_notMem_key, ?_⟩
  obtain ⟨definitions, hread, hmem⟩ := h
  exact (allows_of_validate hdefinition hvalue).ofBytes hreader
    (readSettingDefinitions_copies hread hmem).2

theorem validate_resolve (h : Describes readDouble api definition) (codec : JsonCodec)
    (read : ReadOutcome) (pluginId controllerId : ByteString) (s : Storage) :
    validateSettingValue readDouble definition
      (s.resolve readDouble codec read pluginId controllerId definition).2 = .ok () :=
  validate_resolvedValue h.wellFormed _

/-- The loop hands out saved values and defaults alone. -/
theorem valid_applyDefinitions {σ : Type*}
    {apply : σ → SettingDefinition → ByteString → σ × List SettingsEvent × LiberaStatus}
    (happly : ∀ target definition value, Describes readDouble api definition →
      validateSettingValue readDouble definition value = .ok () →
      ∀ e ∈ (apply target definition value).2.1, e.Valid readDouble)
    (hdefinitions : ∀ definition ∈ definitions, Describes readDouble api definition)
    (target : σ) (s : Storage) :
    ∀ e ∈ (applyDefinitions readDouble codec apply read pluginId controllerId definitions target
      s).2.2.1, e.Valid readDouble := by
  induction definitions generalizing target s with
  | nil => exact fun e he => absurd he List.not_mem_nil
  | cons definition definitions ih =>
    obtain ⟨hdefinition, hrest⟩ := List.forall_mem_cons.mp hdefinitions
    have hvalue := validate_resolve hdefinition codec read pluginId controllerId s
    rw [applyDefinitions]
    generalize s.resolve readDouble codec read pluginId controllerId definition = resolved
      at hvalue ⊢
    obtain ⟨s₁, value⟩ := resolved
    have hnow := happly target definition value hdefinition hvalue
    dsimp only
    generalize apply target definition value = applied at hnow ⊢
    obtain ⟨target₁, events, status⟩ := applied
    dsimp only
    split
    · intro e he
      rcases List.mem_append.mp he with he | he
      · exact hnow e he
      · exact ih hrest target₁ s₁ e he
    · exact hnow

/-- `settingsFor` returns every setting, with a saved value or the default. -/
theorem resolveAll_spec (hdefinitions : ∀ definition ∈ definitions,
      Describes readDouble api definition) (s : Storage) :
    (SettingsHost.resolveAll readDouble codec read pluginId controllerId definitions s).2.map
        (·.definition) = definitions ∧
      ∀ setting ∈ (SettingsHost.resolveAll readDouble codec read pluginId controllerId definitions
        s).2, setting.definition.Allows readDouble setting.value := by
  induction definitions generalizing s with
  | nil => exact ⟨rfl, fun e he => absurd he List.not_mem_nil⟩
  | cons definition definitions ih =>
    obtain ⟨hdefinition, hrest⟩ := List.forall_mem_cons.mp hdefinitions
    have hvalue := validate_resolve hdefinition codec read pluginId controllerId s
    rw [SettingsHost.resolveAll]
    generalize s.resolve readDouble codec read pluginId controllerId definition = resolved
      at hvalue ⊢
    obtain ⟨hmap, hallows⟩ := ih hrest resolved.1
    dsimp only
    refine ⟨by rw [List.map_cons, hmap], fun setting hsetting => ?_⟩
    rcases List.mem_cons.mp hsetting with rfl | hsetting
    · exact allows_of_validate hdefinition.wellFormed hvalue
    · exact hallows setting hsetting

/-! ## Every call -/

namespace SettingsHost

variable {h : SettingsHost}

theorem valid_applySavedPluginSettings (hreader : ReadsText readDouble) (o : SavedOutcome)
    (plugin : Option LoadedPlugin) :
    ∀ e ∈ (h.applySavedPluginSettings readDouble codec o pluginId plugin).2.2.1,
      e.Valid readDouble := by
  unfold applySavedPluginSettings
  split
  · rename_i plugin api _
    split
    · exact fun e he => absurd he List.not_mem_nil
    · exact fun e he => absurd he List.not_mem_nil
    · rename_i definitions _ hread
      split
      · refine valid_applyDefinitions (fun target definition value hdefinition hvalue e he => ?_)
          (fun definition hmem => describes_of_read hread hmem) plugin h.storage
        rw [List.mem_singleton.mp he]
        exact valid_hand hreader hdefinition hvalue
      · exact fun e he => absurd he List.not_mem_nil
  · exact fun e he => absurd he List.not_mem_nil

/-- A controller is handed what the check has passed, or nothing. -/
theorem valid_applySetting (hreader : ReadsText readDouble)
    (hdefinition : Describes readDouble api definition)
    (hvalue : validateSettingValue readDouble definition value = .ok ())
    (answer : ByteString → LiberaStatus) (controller : ControllerHandle) :
    ∀ e ∈ (controller.applySetting api answer definition value).2.1, e.Valid readDouble := by
  unfold ControllerHandle.applySetting
  split
  · intro e he
    rw [List.mem_singleton.mp he]
    exact valid_hand hreader hdefinition hvalue
  · exact fun e he => absurd he List.not_mem_nil

theorem valid_applySavedControllerSettings (hreader : ReadsText readDouble) (o : SavedOutcome)
    (controller : ControllerHandle) :
    ∀ e ∈ (h.applySavedControllerSettings readDouble codec o pluginId controllerId
      controller).2.2.1, e.Valid readDouble := by
  unfold applySavedControllerSettings
  split
  · exact fun e he => absurd he List.not_mem_nil
  · split
    · exact fun e he => absurd he List.not_mem_nil
    · rename_i definitions hread
      exact valid_applyDefinitions
        (fun target definition value hdefinition hvalue =>
          valid_applySetting hreader hdefinition hvalue o.answer target)
        (fun definition hmem => describes_of_read hread hmem) controller h.storage

theorem valid_settingsFor :
    ∀ e ∈ (h.settingsFor readDouble codec read pluginId scope controllerId).2,
      e.Valid readDouble := by
  unfold settingsFor
  split
  · exact fun e he => absurd he List.not_mem_nil
  · split
    · intro e he
      rw [List.mem_singleton.mp he]
      trivial
    · rename_i definitions hread
      intro e he
      rw [List.mem_singleton.mp he]
      obtain ⟨hmap, hallows⟩ := resolveAll_spec
        (fun definition hmem => describes_of_read hread hmem) h.storage
      exact ⟨by rw [hmap, hread], hallows⟩

theorem valid_controllerSettings :
    ∀ e ∈ (h.controllerSettings readDouble codec read pluginId controllerId).2,
      e.Valid readDouble := by
  unfold controllerSettings
  split
  · exact fun e he => absurd he List.not_mem_nil
  · exact valid_settingsFor

/-- An update that is checked is about a setting of the plugin, and has a value that passes. -/
theorem checkUpdate_valid {host : Host} {plugin : LoadedPlugin}
    (hchecked : host.checkUpdate readDouble pluginId key value = .ok (plugin, api, definition)) :
    Describes readDouble api definition ∧
      validateSettingValue readDouble definition value = .ok () := by
  obtain ⟨-, -, definitions, hread, hfind, hvalidate⟩ := Host.checkUpdate_cases hchecked
  exact ⟨describes_of_read hread (findDefinition_some hfind).1, hvalidate⟩

theorem checkControllerUpdate_valid {plugin : LoadedPlugin}
    (hchecked : h.checkControllerUpdate readDouble pluginId controllerId key value =
      .ok (plugin, api, definition)) :
    Describes readDouble api definition ∧
      validateSettingValue readDouble definition value = .ok () := by
  unfold checkControllerUpdate at hchecked
  split at hchecked
  · split at hchecked
    · split at hchecked
      · cases hchecked
      obtain ⟨definitions, hread, hchecked⟩ := Except.bind_eq_ok.mp hchecked
      split at hchecked
      · rename_i hfind
        obtain ⟨_, hvalidate, hchecked⟩ := Except.bind_eq_ok.mp hchecked
        cases hchecked
        exact ⟨describes_of_read hread (findDefinition_some hfind).1,
          Except.mapError_eq_ok.mp hvalidate⟩
      · cases hchecked
    · cases hchecked
  · cases hchecked

theorem valid_updateEvents (hreader : ReadsText readDouble) (o : UpdateOutcome) (host : Host) :
    ∀ e ∈ updateEvents readDouble codec o host pluginId key value, e.Valid readDouble := by
  unfold updateEvents
  split
  · exact fun e he => absurd he List.not_mem_nil
  rename_i plugin api definition hchecked
  obtain ⟨hdefinition, hvalue⟩ := checkUpdate_valid hchecked
  have hnew := valid_hand hreader hdefinition hvalue
  have hold : (hand api definition
      (host.oldValue readDouble codec o pluginId key definition).2).Valid readDouble :=
    valid_hand hreader hdefinition (validate_resolvedValue hdefinition.wellFormed _)
  dsimp only
  split
  · refine List.forall_mem_cons.mpr ⟨hnew, ?_⟩
    split
    · split
      · exact List.forall_mem_singleton.mpr hold
      · exact fun e he => absurd he List.not_mem_nil
      · exact fun e he => absurd he List.not_mem_nil
    · exact fun e he => absurd he List.not_mem_nil
  · exact fun e he => absurd he List.not_mem_nil

theorem valid_applyToController (hreader : ReadsText readDouble)
    (hdefinition : Describes readDouble api definition)
    (hvalue : validateSettingValue readDouble definition value = .ok ()) (answer : LiberaStatus)
    (h : SettingsHost) (pluginId controllerId : ByteString) :
    ∀ e ∈ (h.applyToController api answer pluginId controllerId definition value).2.1,
      e.Valid readDouble := by
  unfold applyToController
  split
  · exact fun e he => absurd he List.not_mem_nil
  · rename_i controller _
    exact valid_applySetting hreader hdefinition hvalue (fun _ => answer) controller

theorem valid_setControllerSetting (hreader : ReadsText readDouble) (o : UpdateOutcome) :
    ∀ e ∈ (h.setControllerSetting readDouble codec o pluginId controllerId key value).2.1,
      e.Valid readDouble := by
  unfold setControllerSetting
  split
  · exact fun e he => absurd he List.not_mem_nil
  rename_i plugin api definition hchecked
  obtain ⟨hdefinition, hvalue⟩ := checkControllerUpdate_valid hchecked
  have hold := validate_resolve hdefinition codec o.read pluginId controllerId h.storage
  generalize h.storage.resolve readDouble codec o.read pluginId controllerId definition = resolved
    at hold ⊢
  obtain ⟨storage, oldValue⟩ := resolved
  have hnew := valid_applyToController hreader hdefinition hvalue o.update { h with storage }
    pluginId controllerId
  dsimp only
  generalize { h with storage }.applyToController api o.update pluginId controllerId definition
    value = applied at hnew ⊢
  obtain ⟨h₁, events, status⟩ := applied
  dsimp only
  split
  · exact hnew
  split
  · exact hnew
  · rename_i stored error _
    split
    · intro e he
      rcases List.mem_append.mp he with he | he
      · exact hnew e he
      · exact valid_applyToController hreader hdefinition hold o.rollback
          { h₁ with storage := stored } pluginId controllerId e he
    · exact hnew
  · exact hnew

/-- **Every call hands out valid values alone.** -/
theorem valid_call (hreader : ReadsText readDouble) (h : SettingsHost) (c : SettingsCall) :
    ∀ e ∈ (h.call readDouble codec c).2, e.Valid readDouble := by
  cases c with
  | changeFile path file => exact fun e he => absurd he List.not_mem_nil
  | changePlugins runtime => exact fun e he => absurd he List.not_mem_nil
  | changeControllers controllers => exact fun e he => absurd he List.not_mem_nil
  | applySavedPluginSettings o pluginId plugin =>
    exact valid_applySavedPluginSettings hreader o plugin
  | applySavedControllerSettings o pluginId controllerId controller =>
    exact valid_applySavedControllerSettings hreader o controller
  | pluginSettings read pluginId => exact valid_settingsFor
  | controllerSettings read pluginId controllerId => exact valid_controllerSettings
  | setPluginSetting o pluginId key value => exact valid_updateEvents hreader o h.toHost
  | setControllerSetting o pluginId controllerId key value =>
    exact valid_setControllerSetting hreader o

end SettingsHost

/-- **Plugin settings are always valid.** A schema that is accepted has keys that are unique and not
empty, and every default is allowed by its own definition. Whatever the plugins describe and the
file holds, and whatever is called in whatever order, every value that a plugin is handed or that is
returned is allowed by the definition of its setting. -/
theorem settings_always_valid (readDouble : DoubleReader F) (codec : JsonCodec)
    (hreader : ReadsText readDouble) :
    (∀ api scope definitions, readSettingDefinitions readDouble api scope = .ok definitions →
      (∀ definition ∈ definitions, definition.key ≠ [] ∧
        definition.Allows readDouble definition.defaultValue) ∧
      (definitions.map (·.key)).Nodup) ∧
    ∀ (h : SettingsHost) (calls : List SettingsCall), ∃ h' o,
      run (SettingsHost.step readDouble codec) h calls = some (h', o) ∧
        ∀ e ∈ o, e.Valid readDouble := by
  constructor
  · intro api scope definitions hread
    obtain ⟨hwell, hkeys⟩ := readSettingDefinitions_wellFormed hread
    refine ⟨fun definition hmem => ?_, hkeys⟩
    have hdefinition := hwell definition hmem
    exact ⟨hdefinition.key_ne_nil, allows_of_validate hdefinition hdefinition.defaultValue⟩
  · intro h calls
    obtain ⟨h', o, hrun, -⟩ : ∃ h' o,
        run (SettingsHost.step readDouble codec) h calls = some (h', o) ∧ True :=
      run_total (I := fun _ => True) (fun h c _ => ⟨_, _, rfl, trivial⟩) trivial calls
    refine ⟨h', o, hrun, ?_⟩
    have hvalid : ∀ e ∈ [] ++ o, e.Valid readDouble :=
      run_invariant (I := fun tr _ => ∀ e ∈ tr, SettingsEvent.Valid readDouble e)
        (fun tr h c h' o htr _ hstep e he => by
          rcases List.mem_append.mp he with he | he
          · exact htr e he
          · obtain ⟨-, rfl⟩ := Prod.ext_iff.mp (Option.some.inj hstep)
            exact SettingsHost.valid_call hreader h c e he)
        (fun e he => absurd he List.not_mem_nil)
        (Along.of_forall (P := fun _ => True) (fun _ _ => trivial) [] _) hrun
    exact hvalid

end

/-- A reader for schemas whose numbers are integers. -/
def readInteger : DoubleReader ℤ := fun text => (parseInteger text).map fun n => (some n, [])

theorem readsText_readInteger : ReadsText readInteger := by
  intro text value h
  obtain ⟨n, hn, -⟩ := Option.map_eq_some_iff.mp h
  exact zero_notMem_of_integerText (integerText_of_parseInteger hn)

/-- A live plugin with one setting, a level from 0 to 10, for which the store has 99. -/
def levelHost : SettingsHost where
  runtime := RuntimeState.empty.registerLoadedPlugin (ofString "p")
    { api := some
        { getSettingCount := some fun _ => 1
          getSettingDefinition := some fun _ _ => some
            { key := some ⟨ofString "level", by decide⟩, label := some ⟨ofString "Level", by decide⟩
              type := 2, defaultValue := some ⟨ofString "5", by decide⟩
              minimumValue := some ⟨ofString "0", by decide⟩
              maximumValue := some ⟨ofString "10", by decide⟩ } }
      initialised := true
      held := fun _ => ⟨[], List.not_mem_nil⟩ }
  storage :=
    { path := ofString "settings.json"
      store :=
        { loadedPath := ofString "settings.json"
          values := AList.insert ⟨ofString "p", [], ofString "level"⟩ (ofString "99") ∅ } }

/-- The settings are read, and set to a value out of bounds and to another one. -/
def levelCalls : List SettingsCall :=
  [.pluginSettings .whole (ofString "p"),
    .setPluginSetting {} (ofString "p") (ofString "level") (ofString "11"),
    .setPluginSetting {} (ofString "p") (ofString "level") (ofString "7")]

/-- The values that are handed out. -/
def SettingsEvent.values : SettingsEvent → List ByteString
  | .handed _ _ _ value => [value.bytes]
  | .returned _ _ settings => settings.map (·.value)
  | .runtimeError _ _ => []

/-- The value in the store gives way to the default, and the one out of bounds is refused. -/
theorem settings_always_valid_outdated :
    ∃ h o, run (SettingsHost.step readInteger Json.textCodec) levelHost levelCalls = some (h, o) ∧
      o.map SettingsEvent.values = [[ofString "5"], [ofString "7"]] ∧
      ∀ e ∈ o, e.Valid readInteger := by
  obtain ⟨h, o, hrun, hvalid⟩ :=
    (settings_always_valid readInteger Json.textCodec readsText_readInteger).2 levelHost levelCalls
  refine ⟨h, o, hrun, ?_, hvalid⟩
  have hvalues : (run (SettingsHost.step readInteger Json.textCodec) levelHost levelCalls).map
      (fun r => r.2.map SettingsEvent.values) = some [[ofString "5"], [ofString "7"]] := by
    decide +kernel
  rw [hrun] at hvalues
  exact Option.some.inj hvalues

end LiberaLaser.Plugin
