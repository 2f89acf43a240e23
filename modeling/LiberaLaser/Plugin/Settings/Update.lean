import LiberaLaser.Foundations.JsonText
import LiberaLaser.Plugin.Settings.Schema
import LiberaLaser.Plugin.Settings.Store
import Mathlib.Logic.Function.Basic

/-!
# The update of a plugin setting

`setPluginSetting` checks a new value, gives it to the live plugin and then stores it; when the
store reports a failure the plugin is given the old value again. An update is atomic when the file,
the memory and the live plugin all keep the old values if it does not report success, and all have
the new value if it does. `setPluginSetting_atomic` says exactly when an update is atomic.
-/

namespace LiberaLaser.Plugin

open ByteString

/-- `libera_status_t`. -/
inductive LiberaStatus
  | ok
  | disconnected
  | timeout
  | busy
  | protocol
  | invalidArgument
  | internal
  | other (code : ℤ)
  deriving DecidableEq

def describeStatus : LiberaStatus → ByteString
  | .ok => ofString "ok"
  | .disconnected => ofString "disconnected"
  | .timeout => ofString "timeout"
  | .busy => ofString "busy"
  | .protocol => ofString "protocol"
  | .invalidArgument => ofString "invalid argument"
  | .internal => ofString "internal error"
  | .other _ => ofString "unknown error"

structure LoadedPlugin where
  api : Option SettingsApi
  initialised : Bool := false
  /-- The values that the plugin holds, by their keys. -/
  held : CString → CString
  /-- How often the plugin was asked to rescan. -/
  rescans : ℕ := 0

namespace LoadedPlugin

/-- The plugin once it has taken a value. -/
def take (plugin : LoadedPlugin) (key value : ByteString) : LoadedPlugin :=
  { plugin with
    held := Function.update plugin.held (CString.ofBytes key) (CString.ofBytes value) }

/-- The callback `set_plugin_setting`: a plugin that refuses keeps its value. -/
def setPluginSetting (plugin : LoadedPlugin) (status : LiberaStatus) (key value : ByteString) :
    LoadedPlugin :=
  if status = .ok then plugin.take key value else plugin

def requestRescan (plugin : LoadedPlugin) : LoadedPlugin :=
  if plugin.initialised ∧ plugin.api.any (·.rescan) then
    { plugin with rescans := plugin.rescans + 1 }
  else plugin

end LoadedPlugin

/-- The plugins that are loaded, by their ids. -/
structure RuntimeState where
  plugins : Table ByteString LoadedPlugin := ∅
  registered : plugins.Forall fun pluginId _ => pluginId ≠ [] := by exact Table.forall_empty

namespace RuntimeState

def empty : RuntimeState := {}

def registerLoadedPlugin (r : RuntimeState) (pluginId : ByteString) (plugin : LoadedPlugin) :
    RuntimeState :=
  if h : pluginId = [] then r
  else
    match r.plugins.lookup pluginId with
    | some _ => r
    | none => ⟨r.plugins.insert pluginId plugin, r.registered.insert h⟩

def findPlugin (r : RuntimeState) (pluginId : ByteString) : Option LoadedPlugin :=
  r.plugins.lookup pluginId

/-- The state after a loaded plugin has changed. -/
def withPlugin (r : RuntimeState) (pluginId : ByteString) (plugin : LoadedPlugin) : RuntimeState :=
  if h : pluginId = [] then r
  else ⟨r.plugins.insert pluginId plugin, r.registered.insert h⟩

end RuntimeState

/-- The process with its settings. -/
structure Host where
  runtime : RuntimeState := {}
  storage : Storage

structure SettingChangeResult where
  success : Bool
  message : ByteString
  deriving DecidableEq

inductive UpdateResult
  | returned (result : SettingChangeResult)
  | threw
  deriving DecidableEq

/-- What the steps of an update do: the reading that a first use of the store makes, the answer of
the plugin to the new value, the steps of the store and the answer to the old value. -/
structure UpdateOutcome where
  read : ReadOutcome := .whole
  update : LiberaStatus := .ok
  storage : StoreOutcome := {}
  rollback : LiberaStatus := .ok

namespace Host

variable {F : Type*} [LinearOrder F] [Zero F] (readDouble : DoubleReader F) (codec : JsonCodec)

/-- The checks of an update, which end in the plugin and the definition of the setting. -/
def checkUpdate (h : Host) (pluginId key value : ByteString) :
    Except ByteString (LoadedPlugin × SettingsApi × SettingDefinition) := do
  let some plugin := h.runtime.findPlugin pluginId | .error (ofString "Plugin is not loaded")
  let some api := plugin.api | .error (ofString "Plugin is not loaded")
  let definitions ← readSettingDefinitions readDouble api .plugin
  let some definition := findDefinition definitions key
    | .error (ofString "Unknown plugin setting: " ++ key)
  (validateSettingValue readDouble definition value).mapError fun error =>
    ofString "Invalid value for " ++ key ++ ofString ": " ++ error
  .ok (plugin, api, definition)

/-- The value that a setting has, given what the store has for it. -/
def resolvedValue (definition : SettingDefinition) (saved : Option ByteString) : ByteString :=
  match saved with
  | some value =>
    match validateSettingValue readDouble definition value with
    | .ok () => value
    | .error _ => definition.defaultValue
  | none => definition.defaultValue

/-- The live plugin is given the new value. -/
def applyLive (plugin : LoadedPlugin) (api : SettingsApi) (status : LiberaStatus)
    (key value : ByteString) : Except ByteString LoadedPlugin :=
  if plugin.initialised then
    if api.hasSetter ∧ api.setPluginSetting then
      if status = .ok then .ok (plugin.setPluginSetting status key value)
      else .error (ofString "Plugin rejected the setting: " ++ describeStatus status)
    else .error (ofString "Plugin setting has no setter")
  else .ok plugin

/-- The value of the setting before an update, and the storage once it has been looked up. -/
def oldValue (o : UpdateOutcome) (h : Host) (pluginId key : ByteString)
    (definition : SettingDefinition) : Storage × ByteString :=
  let (storage, saved) := h.storage.get codec o.read ⟨pluginId, [], key⟩
  (storage, resolvedValue readDouble definition saved)

/-- The steps of an update once it is checked and the old value is looked up. -/
def update (o : UpdateOutcome) (h : Host) (pluginId key value : ByteString)
    (plugin : LoadedPlugin) (api : SettingsApi) (oldValue : ByteString) : Host × UpdateResult :=
  match applyLive plugin api o.update key value with
  | .error message => (h, .returned ⟨false, message⟩)
  | .ok live =>
    match h.storage.set codec o.storage ⟨pluginId, [], key⟩ value with
    | (storage, .saved) =>
      (⟨h.runtime.withPlugin pluginId live.requestRescan, storage⟩,
        .returned ⟨true, ofString "Setting updated"⟩)
    | (storage, .failed error) =>
      let restored :=
        if plugin.initialised ∧ api.setPluginSetting then
          live.setPluginSetting o.rollback key oldValue
        else live
      (⟨h.runtime.withPlugin pluginId restored, storage⟩, .returned ⟨false, error⟩)
    | (storage, .threw) => (⟨h.runtime.withPlugin pluginId live, storage⟩, .threw)

def setPluginSetting (o : UpdateOutcome) (h : Host) (pluginId key value : ByteString) :
    Host × UpdateResult :=
  match h.checkUpdate readDouble pluginId key value with
  | .error message => (h, .returned ⟨false, message⟩)
  | .ok (plugin, api, definition) =>
    let (storage, oldValue) := h.oldValue readDouble codec o pluginId key definition
    { h with storage }.update codec o pluginId key value plugin api oldValue

end Host

/-! ## When an update is atomic -/

namespace LoadedPlugin

/-- The plugin, if it is live, takes a new value. -/
def Takes (plugin : LoadedPlugin) (api : SettingsApi) (status : LiberaStatus) : Prop :=
  plugin.initialised = true →
    (api.hasSetter = true ∧ api.setPluginSetting = true) ∧ status = .ok

instance {plugin : LoadedPlugin} {api : SettingsApi} {status : LiberaStatus} :
    Decidable (plugin.Takes api status) :=
  inferInstanceAs (Decidable (_ → _))

/-- The plugin, if it is live, takes its old value back, or the new value is the old one to it. -/
def Returns (plugin : LoadedPlugin) (status : LiberaStatus) (key value : ByteString) : Prop :=
  plugin.initialised = true →
    status = .ok ∨ CString.ofBytes value = plugin.held (CString.ofBytes key)

instance {plugin : LoadedPlugin} {status : LiberaStatus} {key value : ByteString} :
    Decidable (plugin.Returns status key value) :=
  inferInstanceAs (Decidable (_ → _))

end LoadedPlugin

namespace RuntimeState

variable {r : RuntimeState} {pluginId : ByteString} {plugin : LoadedPlugin}

/-- The values that a plugin holds. -/
def held (r : RuntimeState) (pluginId : ByteString) : Option (CString → CString) :=
  (r.findPlugin pluginId).map (·.held)

theorem findPlugin_ne_nil (h : r.findPlugin pluginId = some plugin) : pluginId ≠ [] :=
  r.registered pluginId plugin h

theorem findPlugin_withPlugin (hne : pluginId ≠ []) (id : ByteString) :
    (r.withPlugin pluginId plugin).findPlugin id =
      if id = pluginId then some plugin else r.findPlugin id := by
  rw [withPlugin, dif_neg hne]
  exact Table.lookup_insert

/-- Nothing that a plugin holds changes exactly when the changed plugin holds what it held. -/
theorem held_withPlugin_iff {plugin' : LoadedPlugin} (h : r.findPlugin pluginId = some plugin) :
    (∀ id, (r.withPlugin pluginId plugin').held id = r.held id) ↔ plugin'.held = plugin.held := by
  have hne := findPlugin_ne_nil h
  constructor
  · intro hheld
    have hid := hheld pluginId
    rw [held, held, findPlugin_withPlugin hne, if_pos rfl, h] at hid
    exact Option.some.inj hid
  · intro hheld id
    rw [held, held, findPlugin_withPlugin hne]
    split
    · rename_i hid
      rw [hid, h, Option.map_some, Option.map_some, hheld]
    · rfl

end RuntimeState

namespace Host

variable (codec : JsonCodec)

/-- The update of a setting is atomic, given the process before and after it and what it reports: if
it reports success then the memory, the file and the live plugin have the new value, and otherwise
the file is unchanged, the memory agrees with it and every plugin holds what it held. -/
def Atomic (h h' : Host) (pluginId key value : ByteString) : UpdateResult → Prop
  | .returned ⟨true, _⟩ =>
    h'.storage.store.values.lookup ⟨pluginId, [], key⟩ = some value ∧
      (h'.storage.fileValues codec).lookup ⟨pluginId, [], key⟩ = some value ∧
      ∀ plugin, h'.runtime.findPlugin pluginId = some plugin → plugin.initialised = true →
        (plugin.held (CString.ofBytes key)).bytes = value
  | .returned ⟨false, _⟩ | .threw =>
    h'.storage.file = h.storage.file ∧ h'.storage.Agrees codec ∧
      ∀ id, h'.runtime.held id = h.runtime.held id

variable {F : Type*} [LinearOrder F] [Zero F] (readDouble : DoubleReader F)

/-- The condition for an update to be atomic. A live plugin must hold the whole value that is
stored; a value that is not stored must be one that serialises, the plugin must take its old value
back, and the last reading must have given the whole file, unless it has no values. -/
def AtomicWhen (o : UpdateOutcome) (h : Host) (pluginId key value : ByteString) : Prop :=
  match h.checkUpdate readDouble pluginId key value with
  | .error _ => h.storage.Agrees codec
  | .ok (plugin, api, _) =>
    if plugin.Takes api o.update then
      if h.storage.Persists codec o.storage ⟨pluginId, [], key⟩ value then
        plugin.initialised = true → 0 ∉ value
      else
        (h.storage.Serialises codec o.storage → SettingAddress.Encoded ⟨pluginId, [], key⟩ value) ∧
          plugin.Returns o.rollback key value ∧
          if h.storage.Reaches o.storage then
            o.storage.read = .whole ∨ h.storage.NoFileValues codec
          else h.storage.AgreesAfter codec o.read
    else h.storage.AgreesAfter codec o.read

variable {readDouble codec} {h : Host} {pluginId key value : ByteString} {plugin : LoadedPlugin}
  {api : SettingsApi} {definition : SettingDefinition} {status : LiberaStatus}

/-- What a check that passes has found. -/
theorem checkUpdate_cases
    (hchecked : h.checkUpdate readDouble pluginId key value = .ok (plugin, api, definition)) :
    h.runtime.findPlugin pluginId = some plugin ∧ plugin.api = some api ∧
      ∃ definitions, readSettingDefinitions readDouble api .plugin = .ok definitions ∧
        findDefinition definitions key = some definition ∧
        validateSettingValue readDouble definition value = .ok () := by
  unfold checkUpdate at hchecked
  split at hchecked
  · rename_i hplugin
    split at hchecked
    · rename_i hapi
      obtain ⟨definitions, hread, hchecked⟩ := Except.bind_eq_ok.mp hchecked
      split at hchecked
      · rename_i hfind
        obtain ⟨_, hvalidate, hchecked⟩ := Except.bind_eq_ok.mp hchecked
        cases hchecked
        exact ⟨hplugin, hapi, definitions, hread, hfind, Except.mapError_eq_ok.mp hvalidate⟩
      · cases hchecked
    · cases hchecked
  · cases hchecked

theorem checkUpdate_ok
    (hchecked : h.checkUpdate readDouble pluginId key value = .ok (plugin, api, definition)) :
    h.runtime.findPlugin pluginId = some plugin ∧ plugin.api = some api ∧
      definition.WellFormed readDouble ∧ definition.key = key := by
  obtain ⟨hplugin, hapi, definitions, hread, hfind, -⟩ := checkUpdate_cases hchecked
  obtain ⟨hmem, hkey⟩ := findDefinition_some hfind
  exact ⟨hplugin, hapi, (readSettingDefinitions_wellFormed hread).1 _ hmem, hkey⟩

theorem applyLive_error {message : ByteString}
    (h : applyLive plugin api status key value = .error message) : ¬plugin.Takes api status := by
  unfold applyLive at h
  split at h
  · rename_i hinit
    split at h
    · split at h
      · cases h
      · rename_i hstatus
        exact fun ht => hstatus (ht hinit).2
    · rename_i hsetter
      exact fun ht => hsetter (ht hinit).1
  · cases h

/-- A plugin that takes a new value holds it in place of the old one, if it is live. -/
theorem applyLive_ok {live : LoadedPlugin}
    (h : applyLive plugin api status key value = .ok live) :
    plugin.Takes api status ∧
      live = if plugin.initialised then plugin.take key value else plugin := by
  unfold applyLive at h
  split at h
  · rename_i hinit
    rw [if_pos hinit]
    split at h
    · rename_i hsetter
      split at h
      · rename_i hstatus
        cases h
        exact ⟨fun _ => ⟨hsetter, hstatus⟩, by rw [LoadedPlugin.setPluginSetting, if_pos hstatus]⟩
      · cases h
    · cases h
  · rename_i hinit
    cases h
    exact ⟨fun h => absurd h hinit, by rw [if_neg hinit]⟩

@[simp] theorem held_take_self :
    (plugin.take key value).held (CString.ofBytes key) = CString.ofBytes value :=
  Function.update_self _ _ _

@[simp] theorem held_requestRescan : plugin.requestRescan.held = plugin.held := by
  unfold LoadedPlugin.requestRescan
  split
  · rfl
  · rfl

@[simp] theorem initialised_requestRescan :
    plugin.requestRescan.initialised = plugin.initialised := by
  unfold LoadedPlugin.requestRescan
  split
  · rfl
  · rfl

/-- A live plugin that was given a new value and asked to go back holds what it held exactly when it
takes the old value, or the new one was the old one to it. -/
theorem held_restored_iff {old : ByteString} {live : LoadedPlugin} (status : LiberaStatus)
    (hsetter : plugin.initialised = true → api.setPluginSetting = true)
    (hold : plugin.initialised = true → (plugin.held (CString.ofBytes key)).bytes = old)
    (hlive : live = if plugin.initialised then plugin.take key value else plugin) :
    (if plugin.initialised ∧ api.setPluginSetting then live.setPluginSetting status key old
      else live).held = plugin.held ↔ plugin.Returns status key value := by
  by_cases hinit : plugin.initialised = true
  · rw [if_pos hinit] at hlive
    rw [if_pos ⟨hinit, hsetter hinit⟩, hlive, LoadedPlugin.setPluginSetting, LoadedPlugin.Returns]
    by_cases hstatus : status = .ok
    · have hback : CString.ofBytes old = plugin.held (CString.ofBytes key) := by
        rw [← hold hinit, CString.ofBytes_bytes]
      simp only [LoadedPlugin.take, hstatus, hback, if_true, Function.update_idem,
        Function.update_eq_self, true_or, implies_true]
    · rw [if_neg hstatus]
      constructor
      · intro hheld _
        refine .inr ?_
        rw [← hheld, held_take_self]
      · intro h
        have hvalue := (h hinit).resolve_left hstatus
        rw [LoadedPlugin.take, hvalue, Function.update_eq_self]
  · rw [if_neg hinit] at hlive
    rw [if_neg fun h => hinit h.1, hlive, LoadedPlugin.Returns]
    exact ⟨fun _ h => absurd h hinit, fun _ => rfl⟩

/-- The update of an checked value, where the storage holds the file that was there before. -/
theorem update_atomic {o : UpdateOutcome} {s : Storage} {old : ByteString} (hcodec : codec.Lawful)
    (hpath : h.storage.path = s.path) (hfile : h.storage.file = s.file)
    (hplugin : h.runtime.findPlugin pluginId = some plugin) (hkey : key ≠ [])
    (hold : plugin.initialised = true → (plugin.held (CString.ofBytes key)).bytes = old) :
    Atomic codec { h with storage := s } (h.update codec o pluginId key value plugin api old).1
        pluginId key value (h.update codec o pluginId key value plugin api old).2 ↔
      if plugin.Takes api o.update then
        if s.Persists codec o.storage ⟨pluginId, [], key⟩ value then
          plugin.initialised = true → 0 ∉ value
        else
          (s.Serialises codec o.storage →
              SettingAddress.Encoded ⟨pluginId, [], key⟩ value) ∧
            plugin.Returns o.rollback key value ∧
            if s.Reaches o.storage then
              o.storage.read = .whole ∨ s.NoFileValues codec
            else h.storage.Agrees codec
      else h.storage.Agrees codec := by
  have hpersists := Storage.persists_congr codec o.storage ⟨pluginId, [], key⟩ value hpath hfile
  have hserialises := Storage.serialises_congr codec o.storage hpath hfile
  unfold update
  cases happly : applyLive plugin api o.update key value with
  | error message =>
    rw [if_neg (applyLive_error happly)]
    exact ⟨fun h => h.2.1, fun h => ⟨hfile, h, fun _ => rfl⟩⟩
  | ok live =>
    obtain ⟨htakes, hlive⟩ := applyLive_ok happly
    rw [if_pos htakes]
    have hne := RuntimeState.findPlugin_ne_nil hplugin
    simp only []
    cases hset : h.storage.set codec o.storage ⟨pluginId, [], key⟩ value with
    | mk storage result =>
    cases result with
    | saved =>
      obtain ⟨hsaved, -, hmemory, hstored⟩ := Storage.set_saved hcodec ⟨hne, hkey⟩ hset
      rw [if_pos (hpersists.mp hsaved)]
      have hfind : (h.runtime.withPlugin pluginId live.requestRescan).findPlugin pluginId =
          some live.requestRescan := by
        rw [RuntimeState.findPlugin_withPlugin hne, if_pos rfl]
      have hheld (hinit : plugin.initialised = true) :
          (live.requestRescan.held (CString.ofBytes key)).bytes = value ↔ 0 ∉ value := by
        rw [held_requestRescan, hlive, if_pos hinit, held_take_self, CString.bytes_ofBytes_iff]
      have hinitialised : live.requestRescan.initialised = plugin.initialised := by
        rw [initialised_requestRescan, hlive]
        split
        · rfl
        · rfl
      constructor
      · intro hatomic hinit
        exact (hheld hinit).mp (hatomic.2.2 _ hfind (hinitialised.trans hinit))
      · intro hzero
        refine ⟨hmemory, hstored, fun plugin' hplugin' hinit => ?_⟩
        rw [hfind] at hplugin'
        cases hplugin'
        have hinit' : plugin.initialised = true := hinitialised.symm.trans hinit
        exact (hheld hinit').mpr (hzero hinit')
    | failed error =>
      obtain ⟨hpath', hfile', hnot, hencoded, hagrees⟩ := Storage.set_failed hcodec hset
      rw [if_neg (mt hpersists.mpr hnot)]
      simp only [Storage.reaches_congr hpath, Storage.noFileValues_congr hpath hfile] at hagrees
      have hheld := (RuntimeState.held_withPlugin_iff hplugin).trans
        (held_restored_iff o.rollback (fun hinit => (htakes hinit).1.2) hold hlive)
      constructor
      · intro hatomic
        exact ⟨fun hs => hencoded (hserialises.mpr hs), hheld.mp hatomic.2.2,
          hagrees.mp hatomic.2.1⟩
      · intro hwhen
        exact ⟨hfile'.trans hfile, hagrees.mpr hwhen.2.2, hheld.mpr hwhen.2.1⟩
    | threw =>
      obtain ⟨hreached, hencoded, hdiffers⟩ := Storage.set_threw hcodec hset
      have hnot : ¬s.Persists codec o.storage ⟨pluginId, [], key⟩ value :=
        fun h => hencoded h.2.1
      rw [if_neg hnot]
      exact ⟨fun h => absurd h.2.1 hdiffers,
        fun h => absurd (h.1 (hserialises.mp hreached)) hencoded⟩

/-- **When an update is atomic**: for a live plugin that holds the value which the setting has, an
update is atomic exactly under the condition `AtomicWhen`. -/
theorem setPluginSetting_atomic {o : UpdateOutcome} (hcodec : codec.Lawful)
    (hlive : ∀ plugin api definition,
      h.checkUpdate readDouble pluginId key value = .ok (plugin, api, definition) →
        plugin.initialised = true → (plugin.held (CString.ofBytes key)).bytes =
          (h.oldValue readDouble codec o pluginId key definition).2) :
    Atomic codec h (h.setPluginSetting readDouble codec o pluginId key value).1 pluginId key value
        (h.setPluginSetting readDouble codec o pluginId key value).2 ↔
      h.AtomicWhen codec readDouble o pluginId key value := by
  unfold setPluginSetting AtomicWhen
  cases hchecked : h.checkUpdate readDouble pluginId key value with
  | error message => exact ⟨fun h => h.2.1, fun h => ⟨rfl, h, fun _ => rfl⟩⟩
  | ok checked =>
    obtain ⟨plugin, api, definition⟩ := checked
    obtain ⟨hplugin, -, hdefinition, rfl⟩ := checkUpdate_ok hchecked
    simp only [← Storage.agrees_ensureLoaded]
    exact update_atomic hcodec Storage.path_ensureLoaded Storage.file_ensureLoaded hplugin
      hdefinition.key_ne_nil (hlive plugin api definition hchecked)

/-- A schema with the name of an output. -/
def nameApi : SettingsApi where
  getSettingCount := some fun _ => 1
  getSettingDefinition := some fun _ _ => some
    { key := some ⟨ofString "name", by decide⟩, label := some ⟨ofString "Name", by decide⟩
      type := 3, defaultValue := some ⟨ofString "beam", by decide⟩ }

def nameDefinition : SettingDefinition where
  key := ofString "name"
  label := ofString "Name"
  defaultValue := ofString "beam"

def namePlugin : LoadedPlugin where
  api := some nameApi
  initialised := true
  held _ := ⟨ofString "beam", by decide⟩

/-- A process with one live plugin, which has its default name, and no settings file. -/
def nameHost : Host where
  runtime := RuntimeState.registerLoadedPlugin {} (ofString "p") namePlugin
  storage := { path := ofString "settings.json" }

/-- A reader for schemas without floating-point settings. -/
def noDouble : DoubleReader ℤ := fun _ => none

theorem update_renaming_fails :
    nameHost.Atomic Json.textCodec (nameHost.setPluginSetting noDouble Json.textCodec
        { storage := { write := { rename := some (ofString "Read-only file system") } } }
        (ofString "p") (ofString "name") (ofString "left")).1
      (ofString "p") (ofString "name") (ofString "left")
      (nameHost.setPluginSetting noDouble Json.textCodec
        { storage := { write := { rename := some (ofString "Read-only file system") } } }
        (ofString "p") (ofString "name") (ofString "left")).2 := by
  have hchecked : nameHost.checkUpdate noDouble (ofString "p") (ofString "name") (ofString "left") =
      .ok (namePlugin, nameApi, nameDefinition) := rfl
  refine (setPluginSetting_atomic Json.textCodec_lawful ?_).mpr ?_
  · intro plugin api definition h _
    rw [hchecked] at h
    cases h
    decide +kernel
  · rw [AtomicWhen, hchecked]
    dsimp only
    rw [if_pos (by decide), if_neg (by decide +kernel)]
    refine ⟨fun _ => by decide +kernel, fun _ => .inl rfl, ?_⟩
    rw [if_pos (by decide +kernel)]
    exact .inl rfl

theorem unencoded_name_stays :
    (∀ plugin api definition,
      nameHost.checkUpdate noDouble (ofString "p") (ofString "name") [255] =
          .ok (plugin, api, definition) →
        plugin.initialised = true → (plugin.held (CString.ofBytes (ofString "name"))).bytes =
          (nameHost.oldValue noDouble Json.textCodec {} (ofString "p") (ofString "name")
            definition).2) ∧
      ¬nameHost.Atomic Json.textCodec
        (nameHost.setPluginSetting noDouble Json.textCodec {} (ofString "p") (ofString "name")
          [255]).1
        (ofString "p") (ofString "name") [255]
        (nameHost.setPluginSetting noDouble Json.textCodec {} (ofString "p") (ofString "name")
          [255]).2 := by
  have hchecked : nameHost.checkUpdate noDouble (ofString "p") (ofString "name") [255] =
      .ok (namePlugin, nameApi, nameDefinition) := rfl
  refine ⟨?_, ?_⟩
  · intro plugin api definition h _
    rw [hchecked] at h
    cases h
    decide +kernel
  · have hresult : (nameHost.setPluginSetting noDouble Json.textCodec {} (ofString "p")
        (ofString "name") [255]).2 = .threw := by decide +kernel
    rw [hresult]
    intro hatomic
    have hlookup := hatomic.2.1 (by decide +kernel) ⟨ofString "p", [], ofString "name"⟩
    exact absurd hlookup (by decide +kernel)

end Host

end LiberaLaser.Plugin
