import LiberaLaser.Foundations.Runs
import LiberaLaser.Plugin.Settings.Update

/-!
# The values that a plugin is handed

A plugin is handed the saved values of its settings when it is loaded, and those of a controller
when the controller is connected; later it is handed each new value, and the old one again where the
new one cannot be stored. `settingsFor` returns the values to the application. A saved value that is
not valid gives way to the default.

Each call is one step of the system. Between the calls the file, the loaded plugins with their
schemas and the controllers may change in any way. The observations are the calls of the setters of
a plugin, the settings that are returned, and the errors that are reported.
-/

namespace LiberaLaser.Plugin

open ByteString

/-- A controller as far as its settings go: whether it is connected, and whether it has a handle and
an API with the setter. -/
structure ControllerHandle where
  connected : Bool := true
  settable : Bool := true

structure Setting where
  definition : SettingDefinition
  value : ByteString

/-- What is observed: a setter is called of the plugin with this API, settings are returned to the
application, and an error is reported. -/
inductive SettingsEvent
  | handed (api : SettingsApi) (definition : SettingDefinition) (key value : CString)
  | returned (api : SettingsApi) (scope : SettingScope) (settings : List Setting)
  | runtimeError (code message : ByteString)

/-- The call of a setter, which takes C strings. -/
def hand (api : SettingsApi) (definition : SettingDefinition) (value : ByteString) :
    SettingsEvent :=
  .handed api definition (.ofBytes definition.key) (.ofBytes value)

/-- The reading of the store, if it is the first one, and the answers of the plugin, by key. -/
structure SavedOutcome where
  read : ReadOutcome := .whole
  answer : ByteString → LiberaStatus := fun _ => .ok

/-- The process with its settings and its controllers, by plugin and controller. -/
structure SettingsHost extends Host where
  controllers : Table (ByteString × ByteString) ControllerHandle := ∅

section

variable {F : Type*} [LinearOrder F] [Zero F] (readDouble : DoubleReader F) (codec : JsonCodec)

/-- `resolvedValue`: what is saved is looked up, and used if it is valid. -/
def Storage.resolve (read : ReadOutcome) (pluginId controllerId : ByteString)
    (definition : SettingDefinition) (s : Storage) : Storage × ByteString :=
  let (s, saved) := s.get codec read ⟨pluginId, controllerId, definition.key⟩
  (s, Host.resolvedValue readDouble definition saved)

/-! ## Saved settings -/

/-- The loop over the definitions: each saved value is applied to a target, until the target answers
that it is not accepted. -/
def applyDefinitions {σ : Type*}
    (apply : σ → SettingDefinition → ByteString → σ × List SettingsEvent × LiberaStatus)
    (read : ReadOutcome) (pluginId controllerId : ByteString) :
    List SettingDefinition → σ → Storage →
      σ × Storage × List SettingsEvent × Except ByteString Unit
  | [], target, storage => (target, storage, [], .ok ())
  | definition :: definitions, target, storage =>
    let (storage, value) := storage.resolve readDouble codec read pluginId controllerId definition
    let (target, events, status) := apply target definition value
    if status = .ok then
      let (target, storage, later, result) :=
        applyDefinitions apply read pluginId controllerId definitions target storage
      (target, storage, events ++ later, result)
    else
      (target, storage, events, .error (ofString "Setting " ++ definition.key ++
        ofString " was rejected: " ++ describeStatus status))

/-- The setter of a plugin is called. -/
def LoadedPlugin.applySetting (api : SettingsApi) (answer : ByteString → LiberaStatus)
    (plugin : LoadedPlugin) (definition : SettingDefinition) (value : ByteString) :
    LoadedPlugin × List SettingsEvent × LiberaStatus :=
  let status := answer definition.key
  (plugin.setPluginSetting status definition.key value, [hand api definition value], status)

/-- `PluginController::applySetting`. A plugin that answers that the controller is disconnected is
believed. -/
def ControllerHandle.applySetting (api : SettingsApi) (answer : ByteString → LiberaStatus)
    (controller : ControllerHandle) (definition : SettingDefinition) (value : ByteString) :
    ControllerHandle × List SettingsEvent × LiberaStatus :=
  if controller.connected ∧ controller.settable then
    let status := answer definition.key
    ({ controller with connected := status ≠ .disconnected }, [hand api definition value], status)
  else (controller, [], .disconnected)

namespace SettingsHost

def applySavedPluginSettings (o : SavedOutcome) (h : SettingsHost) (pluginId : ByteString)
    (plugin : Option LoadedPlugin) :
    Option LoadedPlugin × SettingsHost × List SettingsEvent × Except ByteString Unit :=
  match plugin, plugin.bind (·.api) with
  | some plugin, some api =>
    match readSettingDefinitions readDouble api .plugin with
    | .error schemaError => (some plugin, h, [], .error schemaError)
    | .ok [] => (some plugin, h, [], .ok ())
    | .ok definitions =>
      if api.hasSetter ∧ api.setPluginSetting then
        let (plugin, storage, events, result) := applyDefinitions readDouble codec
          (LoadedPlugin.applySetting api o.answer) o.read pluginId [] definitions plugin h.storage
        (some plugin, { h with storage }, events, result)
      else (some plugin, h, [], .error (ofString "Plugin settings have no setter"))
  | plugin, _ => (plugin, h, [], .error (ofString "Plugin is unavailable"))

def applySavedControllerSettings (o : SavedOutcome) (h : SettingsHost)
    (pluginId controllerId : ByteString) (controller : ControllerHandle) :
    ControllerHandle × SettingsHost × List SettingsEvent × Except ByteString Unit :=
  match (h.runtime.findPlugin pluginId).bind (·.api) with
  | none => (controller, h, [], .error (ofString "Plugin is unavailable"))
  | some api =>
    match readSettingDefinitions readDouble api .controller with
    | .error schemaError => (controller, h, [], .error schemaError)
    | .ok definitions =>
      let (controller, storage, events, result) := applyDefinitions readDouble codec
        (ControllerHandle.applySetting api o.answer) o.read pluginId controllerId definitions
        controller h.storage
      (controller, { h with storage }, events, result)

/-! ## The settings of the application -/

/-- The loop of `settingsFor`. -/
def resolveAll (read : ReadOutcome) (pluginId controllerId : ByteString) :
    List SettingDefinition → Storage → Storage × List Setting
  | [], storage => (storage, [])
  | definition :: definitions, storage =>
    let (storage, value) := storage.resolve readDouble codec read pluginId controllerId definition
    let (storage, settings) := resolveAll read pluginId controllerId definitions storage
    (storage, ⟨definition, value⟩ :: settings)

def settingsFor (read : ReadOutcome) (h : SettingsHost) (pluginId : ByteString)
    (scope : SettingScope) (controllerId : ByteString) : SettingsHost × List SettingsEvent :=
  match (h.runtime.findPlugin pluginId).bind (·.api) with
  | none => (h, [])
  | some api =>
    match readSettingDefinitions readDouble api scope with
    | .error schemaError => (h, [.runtimeError (ofString "settings.schema") schemaError])
    | .ok definitions =>
      let controllerId := if scope = .controller then controllerId else []
      let (storage, settings) :=
        resolveAll readDouble codec read pluginId controllerId definitions h.storage
      ({ h with storage }, [.returned api scope settings])

def pluginSettings (read : ReadOutcome) (h : SettingsHost) (pluginId : ByteString) :
    SettingsHost × List SettingsEvent :=
  h.settingsFor readDouble codec read pluginId .plugin []

def controllerSettings (read : ReadOutcome) (h : SettingsHost)
    (pluginId controllerId : ByteString) : SettingsHost × List SettingsEvent :=
  if controllerId = [] then (h, [])
  else h.settingsFor readDouble codec read pluginId .controller controllerId

/-! ## New values -/

/-- The calls of the setter in `setPluginSetting`. -/
def updateEvents (o : UpdateOutcome) (h : Host) (pluginId key value : ByteString) :
    List SettingsEvent :=
  match h.checkUpdate readDouble pluginId key value with
  | .error _ => []
  | .ok (plugin, api, definition) =>
    let (storage, oldValue) := h.oldValue readDouble codec o pluginId key definition
    if plugin.initialised ∧ api.hasSetter ∧ api.setPluginSetting then
      hand api definition value ::
        if o.update = .ok then
          match (storage.set codec o.storage ⟨pluginId, [], key⟩ value).2 with
          | .failed _ => [hand api definition oldValue]
          | .saved | .threw => []
        else []
    else []

def setPluginSetting (o : UpdateOutcome) (h : SettingsHost) (pluginId key value : ByteString) :
    SettingsHost × List SettingsEvent :=
  let (host, _) := h.toHost.setPluginSetting readDouble codec o pluginId key value
  ({ h with toHost := host }, updateEvents readDouble codec o h.toHost pluginId key value)

def checkControllerUpdate (h : SettingsHost) (pluginId controllerId key value : ByteString) :
    Except ByteString (LoadedPlugin × SettingsApi × SettingDefinition) := do
  let some plugin := h.runtime.findPlugin pluginId | .error (ofString "Plugin is not loaded")
  let some api := plugin.api | .error (ofString "Plugin is not loaded")
  if controllerId = [] then .error (ofString "Controller ID is empty")
  let definitions ← readSettingDefinitions readDouble api .controller
  let some definition := findDefinition definitions key
    | .error (ofString "Unknown controller setting: " ++ key)
  (validateSettingValue readDouble definition value).mapError fun error =>
    ofString "Invalid value for " ++ key ++ ofString ": " ++ error
  .ok (plugin, api, definition)

/-- The controller, if there is one, is given a value. -/
def applyToController (api : SettingsApi) (answer : LiberaStatus) (h : SettingsHost)
    (pluginId controllerId : ByteString) (definition : SettingDefinition) (value : ByteString) :
    SettingsHost × List SettingsEvent × LiberaStatus :=
  match h.controllers.lookup (pluginId, controllerId) with
  | none => (h, [], .disconnected)
  | some controller =>
    let (controller, events, status) :=
      controller.applySetting api (fun _ => answer) definition value
    ({ h with controllers := AList.insert (pluginId, controllerId) controller h.controllers },
      events, status)

def setControllerSetting (o : UpdateOutcome) (h : SettingsHost)
    (pluginId controllerId key value : ByteString) :
    SettingsHost × List SettingsEvent × UpdateResult :=
  match h.checkControllerUpdate readDouble pluginId controllerId key value with
  | .error message => (h, [], .returned ⟨false, message⟩)
  | .ok (plugin, api, definition) =>
    let (storage, oldValue) :=
      h.storage.resolve readDouble codec o.read pluginId controllerId definition
    let (h, events, status) := { h with storage }.applyToController api o.update pluginId
      controllerId definition value
    if status ≠ .ok ∧ status ≠ .disconnected then
      (h, events, .returned ⟨false, ofString "Controller rejected the setting: " ++
        describeStatus status⟩)
    else
      match h.storage.set codec o.storage ⟨pluginId, controllerId, key⟩ value with
      | (storage, .saved) =>
        let message := if status = .ok then "Setting updated"
          else "Setting saved for the next connection"
        let runtime := h.runtime.withPlugin pluginId plugin.requestRescan
        ({ h with storage, runtime }, events, .returned ⟨true, ofString message⟩)
      | (storage, .failed error) =>
        if status = .ok then
          let (h, restored, _) := { h with storage }.applyToController api o.rollback pluginId
            controllerId definition oldValue
          (h, events ++ restored, .returned ⟨false, error⟩)
        else ({ h with storage }, events, .returned ⟨false, error⟩)
      | (storage, .threw) => ({ h with storage }, events, .threw)

end SettingsHost

/-! ## The system -/

/-- A call, or a change from outside. -/
inductive SettingsCall
  | changeFile (path : ByteString) (file : Option ByteString)
  | changePlugins (runtime : RuntimeState)
  | changeControllers (controllers : Table (ByteString × ByteString) ControllerHandle)
  | applySavedPluginSettings (o : SavedOutcome) (pluginId : ByteString)
      (plugin : Option LoadedPlugin)
  | applySavedControllerSettings (o : SavedOutcome) (pluginId controllerId : ByteString)
      (controller : ControllerHandle)
  | pluginSettings (read : ReadOutcome) (pluginId : ByteString)
  | controllerSettings (read : ReadOutcome) (pluginId controllerId : ByteString)
  | setPluginSetting (o : UpdateOutcome) (pluginId key value : ByteString)
  | setControllerSetting (o : UpdateOutcome) (pluginId controllerId key value : ByteString)

namespace SettingsHost

def call (h : SettingsHost) : SettingsCall → SettingsHost × List SettingsEvent
  | .changeFile path file => ({ h with storage := { h.storage with path, file } }, [])
  | .changePlugins runtime => ({ h with runtime }, [])
  | .changeControllers controllers => ({ h with controllers }, [])
  | .applySavedPluginSettings o pluginId plugin =>
    let (_, h, events, _) := h.applySavedPluginSettings readDouble codec o pluginId plugin
    (h, events)
  | .applySavedControllerSettings o pluginId controllerId controller =>
    let (_, h, events, _) :=
      h.applySavedControllerSettings readDouble codec o pluginId controllerId controller
    (h, events)
  | .pluginSettings read pluginId => h.pluginSettings readDouble codec read pluginId
  | .controllerSettings read pluginId controllerId =>
    h.controllerSettings readDouble codec read pluginId controllerId
  | .setPluginSetting o pluginId key value =>
    h.setPluginSetting readDouble codec o pluginId key value
  | .setControllerSetting o pluginId controllerId key value =>
    let (h, events, _) := h.setControllerSetting readDouble codec o pluginId controllerId key value
    (h, events)

def step (h : SettingsHost) (c : SettingsCall) : Option (SettingsHost × List SettingsEvent) :=
  some (h.call readDouble codec c)

end SettingsHost

/-! ## What a plugin holds -/

variable {readDouble codec} {o : UpdateOutcome} {h : Host} {pluginId key value : ByteString}

theorem held_take (plugin : LoadedPlugin) (key value : ByteString) (k : CString) :
    (plugin.take key value).held k = plugin.held k ∨
      k = .ofBytes key ∧ (plugin.take key value).held k = .ofBytes value := by
  by_cases hk : k = .ofBytes key
  · rw [hk]
    exact .inr ⟨rfl, Host.held_take_self⟩
  · exact .inl (Function.update_of_ne hk _ _)

/-- One plugin changes, and holds under a key what it held, or what has been handed. -/
theorem held_withPlugin {r : RuntimeState} {events : List SettingsEvent} {id : ByteString}
    {changed changed' plugin plugin' : LoadedPlugin} {k : CString}
    (hchanged : r.findPlugin pluginId = some changed)
    (hheld : changed'.held k = changed.held k ∨
      ∃ api definition, .handed api definition k (changed'.held k) ∈ events)
    (hbefore : r.findPlugin id = some plugin)
    (hafter : (r.withPlugin pluginId changed').findPlugin id = some plugin') :
    plugin'.held k = plugin.held k ∨
      ∃ api definition, .handed api definition k (plugin'.held k) ∈ events := by
  rw [RuntimeState.findPlugin_withPlugin (RuntimeState.findPlugin_ne_nil hchanged)] at hafter
  split at hafter
  · rename_i hid
    rw [hid, hchanged] at hbefore
    rwa [← Option.some.inj hafter, ← Option.some.inj hbefore]
  · exact .inl (congrArg (LoadedPlugin.held · k) (Option.some.inj (hafter.symm.trans hbefore)))

/-- **A plugin holds what it held before an update, or what the update has handed to it.** -/
theorem held_setPluginSetting {id : ByteString} {plugin plugin' : LoadedPlugin}
    (hbefore : h.runtime.findPlugin id = some plugin)
    (hafter : (h.setPluginSetting readDouble codec o pluginId key value).1.runtime.findPlugin id =
      some plugin') (k : CString) :
    plugin'.held k = plugin.held k ∨ ∃ api definition,
      .handed api definition k (plugin'.held k) ∈
        SettingsHost.updateEvents readDouble codec o h pluginId key value := by
  have hsame (h' : Host) (hruntime : h'.runtime = h.runtime)
      (hafter : h'.runtime.findPlugin id = some plugin') : plugin'.held k = plugin.held k := by
    rw [hruntime, hbefore] at hafter
    rw [Option.some.inj hafter]
  unfold Host.setPluginSetting at hafter
  unfold SettingsHost.updateEvents
  cases hchecked : h.checkUpdate readDouble pluginId key value with
  | error message =>
    rw [hchecked] at hafter
    exact .inl (hsame h rfl hafter)
  | ok checked =>
    obtain ⟨checked, api, definition⟩ := checked
    obtain ⟨hplugin, -, -, rfl⟩ := Host.checkUpdate_ok hchecked
    rw [hchecked] at hafter
    dsimp only at hafter ⊢
    generalize h.oldValue readDouble codec o pluginId definition.key definition = resolved
      at hafter ⊢
    obtain ⟨storage, old⟩ := resolved
    unfold Host.update at hafter
    cases happly : Host.applyLive checked api o.update definition.key value with
    | error message =>
      rw [happly] at hafter
      exact .inl (hsame _ rfl hafter)
    | ok live =>
      obtain ⟨htakes, hlive⟩ := Host.applyLive_ok happly
      rw [happly] at hafter
      dsimp only at hafter ⊢
      generalize storage.set codec o.storage ⟨pluginId, [], definition.key⟩ value = stored
        at hafter ⊢
      obtain ⟨s, result⟩ := stored
      by_cases hinit : checked.initialised = true
      · obtain ⟨hsetter, hstatus⟩ := htakes hinit
        rw [if_pos hinit] at hlive
        rw [if_pos ⟨hinit, hsetter⟩, if_pos hstatus]
        have hnew (events : List SettingsEvent) : live.held k = checked.held k ∨ ∃ api' definition',
            .handed api' definition' k (live.held k) ∈ hand api definition value :: events := by
          rw [hlive]
          rcases held_take checked definition.key value k with hkept | ⟨rfl, hvalue⟩
          · exact .inl hkept
          · refine .inr ⟨api, definition, ?_⟩
            rw [hvalue]
            exact List.mem_cons_self
        cases result with
        | saved =>
          refine held_withPlugin hplugin ?_ hbefore hafter
          rw [Host.held_requestRescan]
          exact hnew []
        | threw => exact held_withPlugin hplugin (hnew []) hbefore hafter
        | failed error =>
          dsimp only at hafter ⊢
          rw [if_pos ⟨hinit, hsetter.2⟩, LoadedPlugin.setPluginSetting] at hafter
          refine held_withPlugin hplugin ?_ hbefore hafter
          split
          · rcases held_take live definition.key old k with hkept | ⟨rfl, hvalue⟩
            · rw [hkept]
              exact hnew [hand api definition old]
            · refine .inr ⟨api, definition, List.mem_cons_of_mem _ ?_⟩
              rw [hvalue]
              exact List.mem_singleton_self _
          · exact hnew [hand api definition old]
      · rw [if_neg hinit] at hlive
        rw [hlive] at hafter
        cases result with
        | saved =>
          refine held_withPlugin hplugin (.inl ?_) hbefore hafter
          rw [Host.held_requestRescan]
        | threw => exact held_withPlugin hplugin (.inl rfl) hbefore hafter
        | failed error =>
          dsimp only at hafter
          rw [if_neg fun h => hinit h.1] at hafter
          exact held_withPlugin hplugin (.inl rfl) hbefore hafter

end

end LiberaLaser.Plugin
