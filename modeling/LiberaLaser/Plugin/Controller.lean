import LiberaLaser.Foundations.Lifetimes

/-!
# A plugin controller and its handle

A plugin controller keeps the backend handle it was made with and, while it is open, the handle
that the plugin gave it. Every section here runs under the mutex of the controller and makes its
callbacks in one go: the first opening, the reconnect of the worker, a callback on the live handle,
the last callback of a worker that ends, and the close. Each takes the controller from one handle to
the next (`handles_openController` and the others). What the worker sends and reads between is left
out.
-/

namespace LiberaLaser.Plugin

/-- The callbacks on a controller handle. -/
inductive ControllerCallback
  | setPointRate
  | setArmed
  | getBufferState
  | readProperty
  | getFrameRequirements
  | sendFrame
  | sendPoints
  | setControllerSetting
  deriving DecidableEq

/-- The callbacks that take a handle. Null is `none`. -/
inductive PluginCallback
  | createBackend (backend : ℕ)
  | destroyBackend (backend : Option ℕ)
  | setPluginSetting (backend : Option ℕ)
  | rescan (backend : Option ℕ)
  | discover (backend : Option ℕ)
  | connectController (backend handle : Option ℕ)
  | destroyController (handle : ℕ)
  | controller (callback : ControllerCallback) (handle : ℕ)
  deriving DecidableEq

open Lifetimes in
/-- What a callback does with the backend, or with a controller handle opened on it. -/
def PluginCallback.event : PluginCallback → Event (Option ℕ) ℕ
  | .createBackend backend => .create (some backend)
  | .destroyBackend backend => .destroy backend
  | .setPluginSetting backend => .use backend
  | .rescan backend => .use backend
  | .discover backend => .use backend
  | .connectController backend none => .use backend
  | .connectController backend (some handle) => .acquire backend handle
  | .destroyController handle => .release handle
  | .controller _ handle => .useChild handle

/-- The optional callbacks that the plugin provides. -/
structure PluginApi where
  rescan : Bool := true
  setPointRate : Bool := true
  setArmed : Bool := true
  deriving DecidableEq

/-- What becomes of a saved setting. The plugin takes the value or refuses it, or the setting cannot
be set, where the definitions cannot be read or the plugin has no setter. -/
inductive SettingAnswer
  | taken
  | rejected
  | unavailable
  deriving DecidableEq

/-- How many settings the plugin is called with. The first that is not taken ends it. -/
def attempts : List SettingAnswer → ℕ
  | [] => 0
  | .taken :: answers => attempts answers + 1
  | .rejected :: _ => 1
  | .unavailable :: _ => 0

structure PluginController where
  backendHandle : Option ℕ := none
  pluginHandle : Option ℕ := none
  connected : Bool := false
  running : Bool := false
  deriving DecidableEq

namespace PluginController

/-- The callbacks that tell a new handle the point rate and whether the laser is armed. -/
def configure (api : PluginApi) (handle : ℕ) : List PluginCallback :=
  (if api.setPointRate then [.controller .setPointRate handle] else []) ++
    if api.setArmed then [.controller .setArmed handle] else []

/-- `open`, where the plugin answers with a handle or null. -/
def openController (api : PluginApi) (c : PluginController) (handle : Option ℕ) :
    PluginController × Bool × List PluginCallback :=
  match handle with
  | none => ({ c with pluginHandle := none }, false, [.connectController c.backendHandle none])
  | some handle =>
    ({ c with pluginHandle := some handle, connected := true }, true,
      .connectController c.backendHandle (some handle) :: configure api handle)

/-- A callback on the live handle. The plugin may answer that it is disconnected. -/
def call (c : PluginController) (callback : ControllerCallback) (disconnected : Bool) :
    PluginController × List PluginCallback :=
  match c.connected, c.pluginHandle with
  | true, some handle =>
    (if disconnected then { c with connected := false } else c, [.controller callback handle])
  | _, _ => (c, [])

/-- The section of `close`, after the worker has been joined. -/
def close (c : PluginController) : PluginController × List PluginCallback :=
  ({ c with pluginHandle := none, connected := false },
    match c.pluginHandle with
    | none => []
    | some handle => [.destroyController handle])

/-- `stopThread` joins the worker, which ends with a last callback. -/
def stopThread (api : PluginApi) (c : PluginController) : PluginController × List PluginCallback :=
  ({ c with running := false },
    match c.running && api.setArmed, c.pluginHandle with
    | true, some handle => [.controller .setArmed handle]
    | _, _ => [])

/-- The reconnect of the worker, where the plugin answers with a handle or null and the saved
settings are restored or not. -/
def reconnect (api : PluginApi) (c : PluginController) (handle : Option ℕ)
    (answers : List SettingAnswer) : PluginController × List PluginCallback :=
  let destroyed := c.close.2
  match handle with
  | none =>
    ({ c with pluginHandle := none }, destroyed ++ [.connectController c.backendHandle none])
  | some handle =>
    let callbacks := destroyed ++ .connectController c.backendHandle (some handle) ::
      (configure api handle ++
        List.replicate (attempts answers) (.controller .setControllerSetting handle))
    if answers.all (· = .taken) then
      ({ c with pluginHandle := some handle, connected := true }, callbacks)
    else ({ c with pluginHandle := none }, callbacks ++ [.destroyController handle])

variable {api : PluginApi} {c : PluginController}

open Lifetimes

theorem handles_configure (backend : Option ℕ) (handle : ℕ) :
    Handles backend (some handle) ((configure api handle).map PluginCallback.event)
      (some handle) := by
  refine Handles.useChildren backend handle fun e he => ?_
  obtain ⟨callback, hmem, rfl⟩ := List.mem_map.mp he
  rw [configure] at hmem
  rcases List.mem_append.mp hmem with hmem | hmem
  · split at hmem
    · rw [List.mem_singleton.mp hmem]
      rfl
    · cases hmem
  · split at hmem
    · rw [List.mem_singleton.mp hmem]
      rfl
    · cases hmem

theorem handles_openController (hclosed : c.pluginHandle = none) (handle : Option ℕ) :
    Handles c.backendHandle c.pluginHandle
      ((c.openController api handle).2.2.map PluginCallback.event)
      (c.openController api handle).1.pluginHandle := by
  rw [hclosed]
  cases handle with
  | none => exact (Handles.nil none).use
  | some handle => exact .acquire handle (handles_configure _ handle)

theorem handles_call (c : PluginController) (callback : ControllerCallback) (disconnected : Bool) :
    Handles c.backendHandle c.pluginHandle
      ((c.call callback disconnected).2.map PluginCallback.event)
      (c.call callback disconnected).1.pluginHandle := by
  rw [call]
  split
  · rename_i handle hconnected hhandle
    have hsame : (if disconnected then { c with connected := false } else c).pluginHandle =
        some handle := by
      cases disconnected <;> exact hhandle
    rw [hsame, hhandle]
    exact .useChild handle (.nil _)
  · exact .nil _

theorem handles_close (c : PluginController) :
    Handles c.backendHandle c.pluginHandle (c.close.2.map PluginCallback.event) none := by
  rw [close]
  cases c.pluginHandle with
  | none => exact .nil _
  | some handle => exact .release handle (.nil _)

theorem handles_stopThread (c : PluginController) :
    Handles c.backendHandle c.pluginHandle ((c.stopThread api).2.map PluginCallback.event)
      (c.stopThread api).1.pluginHandle := by
  rw [stopThread]
  dsimp only
  split
  · rename_i handle hrunning hhandle
    rw [hhandle]
    exact .useChild handle (.nil _)
  · exact .nil _

theorem handles_reconnect (c : PluginController) (handle : Option ℕ)
    (answers : List SettingAnswer) :
    Handles c.backendHandle c.pluginHandle
      ((c.reconnect api handle answers).2.map PluginCallback.event)
      (c.reconnect api handle answers).1.pluginHandle := by
  rw [reconnect.eq_def]
  cases handle with
  | none =>
    rw [List.map_append]
    exact c.handles_close.append (Handles.nil none).use
  | some handle =>
    have hset : Handles c.backendHandle (some handle) (List.map PluginCallback.event
        (List.replicate (attempts answers) (.controller .setControllerSetting handle)))
        (some handle) := by
      refine Handles.useChildren c.backendHandle handle fun e he => ?_
      rw [List.map_replicate] at he
      exact List.eq_of_mem_replicate he
    have hrestored : Handles c.backendHandle c.pluginHandle (List.map PluginCallback.event
        (c.close.2 ++ .connectController c.backendHandle (some handle) ::
          (configure api handle ++
            List.replicate (attempts answers) (.controller .setControllerSetting handle))))
        (some handle) := by
      rw [List.map_append, List.map_cons, List.map_append]
      exact c.handles_close.append
        (.acquire handle ((handles_configure c.backendHandle handle).append hset))
    dsimp only
    split
    · exact hrestored
    · rw [List.map_append]
      exact hrestored.append (.release handle (.nil _))

/-! ## What the sections leave as it is -/

@[simp] theorem openController_backendHandle (handle : Option ℕ) :
    (c.openController api handle).1.backendHandle = c.backendHandle := by
  cases handle <;> rfl

@[simp] theorem openController_running (handle : Option ℕ) :
    (c.openController api handle).1.running = c.running := by
  cases handle <;> rfl

@[simp] theorem call_backendHandle (callback : ControllerCallback) (disconnected : Bool) :
    (c.call callback disconnected).1.backendHandle = c.backendHandle := by
  rw [call]
  split
  · cases disconnected <;> rfl
  · rfl

@[simp] theorem reconnect_backendHandle (handle : Option ℕ) (answers : List SettingAnswer) :
    (c.reconnect api handle answers).1.backendHandle = c.backendHandle := by
  cases handle with
  | none => rfl
  | some handle =>
    rw [reconnect.eq_def]
    dsimp only
    split <;> rfl

/-- Without a handle there is nothing to call, to close or to end with. -/
theorem call_of_none (h : c.pluginHandle = none) (callback : ControllerCallback)
    (disconnected : Bool) : c.call callback disconnected = (c, []) := by
  rw [call, h]
  split
  · contradiction
  · rfl

theorem close_of_none (h : c.pluginHandle = none) : c.close.2 = [] := by
  rw [close, h]

theorem stopThread_of_none (h : c.pluginHandle = none) : (c.stopThread api).2 = [] := by
  rw [stopThread, h]
  dsimp only
  split
  · contradiction
  · rfl

end PluginController

end LiberaLaser.Plugin
