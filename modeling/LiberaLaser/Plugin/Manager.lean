import LiberaLaser.Core.Manager.ControllerCache
import LiberaLaser.Plugin.Controller
import Mathlib.Logic.Function.Basic

/-!
# Plugin managers that share a loaded plugin

Every system makes its own manager for a loaded plugin, and all managers share the plugin and its
one backend. A manager creates the backend when it needs it and destroys it at the end of
`closeAll`, both under the lifecycle mutex of the plugin. Any number of threads call the managers,
and the workers of the controllers reconnect; the sections interleave freely, but for those on the
cache of a manager while a thread creates a controller under its mutex. The plugin provides
`create_backend` and `destroy_backend`, and makes every handle anew.
-/

namespace LiberaLaser.Plugin

/-- Where a call stands that has passed its first section. -/
inductive PluginCall (κ : Type)
  /-- The backend is there, and the controller is made next, under the mutex of the cache. -/
  | creating (manager : ℕ) (key : κ)
  /-- The new controller is opened next. -/
  | opening (manager : ℕ) (key : κ) (controller : ℕ)
  /-- The controller is open, and its saved settings are restored. -/
  | restoring (manager : ℕ) (key : κ) (controller : ℕ)
  /-- The controller is dropped, and its key erased next. -/
  | dropping (manager : ℕ) (key : κ) (controller : ℕ)
  /-- The first controller is stopped and closed next, then the others, and after `closeAll` the
  backend is destroyed. -/
  | closing (controllers : List ℕ) (stopped all : Bool)
  /-- `discover` has found the backend there. -/
  | discovering
  deriving DecidableEq

namespace PluginCall

variable {κ : Type}

/-- The manager whose cache the call has locked. -/
def locks : PluginCall κ → Option ℕ
  | .creating manager _ => some manager
  | _ => none

/-- The controllers that the call keeps alive. -/
def held : PluginCall κ → List ℕ
  | .opening _ _ controller => [controller]
  | .restoring _ _ controller => [controller]
  | .dropping _ _ controller => [controller]
  | .closing controllers _ _ => controllers
  | _ => []

/-- The controller that the call opens next. -/
def opens : PluginCall κ → Option ℕ
  | .opening _ _ controller => some controller
  | _ => none

/-- The controller that the call opens, or starts, next. -/
def connects : PluginCall κ → Option ℕ
  | .opening _ _ controller => some controller
  | .restoring _ _ controller => some controller
  | _ => none

theorem connects_of_opens {call : PluginCall κ} {controller : ℕ}
    (h : call.opens = some controller) : call.connects = some controller := by
  cases call with
  | opening => exact h
  | _ => cases h

/-- The call is a `closeAll`. -/
def closesAll : PluginCall κ → Bool
  | .closing _ _ all => all
  | _ => false

end PluginCall

/-- The loaded plugin, the caches of the managers, the controllers in the order of their creation,
those that have ended, and the calls in progress, by thread. Backends and controller handles are
numbered in the order of their creation. -/
structure PluginSystem (κ : Type) where
  backendHandle : Option ℕ := none
  initialised : Bool := false
  backendCount : ℕ := 0
  handleCount : ℕ := 0
  liveControllerCaches : ℕ → ControllerCache κ := fun _ => ∅
  controllers : ℕ → PluginController := fun _ => {}
  controllerCount : ℕ := 0
  ended : List ℕ := []
  calls : Table ℕ (PluginCall κ) := ∅

/-- What the plugin answers when the backend is created: whether it makes one, and what becomes of
each of the saved settings. -/
structure BackendAnswers where
  created : Bool := true
  answers : List SettingAnswer := []
  deriving DecidableEq

/-- The sections of the calls, by thread, those of the controllers, and the end of a controller that
nobody owns. -/
inductive PluginStep (κ : Type)
  | connectController (thread manager : ℕ) (key : κ) (backend : BackendAnswers)
  | createController (thread : ℕ)
  | openController (thread : ℕ) (handle : Bool)
  | startController (thread : ℕ) (restored : Bool)
  | erase (thread : ℕ)
  | disconnectController (thread manager : ℕ) (key : κ)
  | closeAll (thread manager : ℕ) (order : List ℕ)
  | stopThread (thread : ℕ)
  | closeController (thread : ℕ)
  | afterCloseControllers (thread : ℕ)
  | discover (thread : ℕ) (backend : BackendAnswers)
  | rescan (thread : ℕ)
  | reconnect (controller : ℕ) (handle : Bool) (answers : List SettingAnswer)
  | callController (controller : ℕ) (callback : ControllerCallback) (disconnected : Bool)
  | endController (controller : ℕ)
  deriving DecidableEq

/-- The thread that goes on with a call. -/
def PluginStep.thread {κ : Type} : PluginStep κ → Option ℕ
  | .createController thread => some thread
  | .openController thread _ => some thread
  | .startController thread _ => some thread
  | .erase thread => some thread
  | .stopThread thread => some thread
  | .closeController thread => some thread
  | .afterCloseControllers thread => some thread
  | .rescan thread => some thread
  | _ => none

namespace PluginSystem

variable {κ : Type}

/-- A controller lives until it ends. -/
def alive (s : PluginSystem κ) (controller : ℕ) : Bool := decide (controller ∉ s.ended)

def setCall (s : PluginSystem κ) (thread : ℕ) (call : PluginCall κ) : PluginSystem κ :=
  { s with calls := s.calls.insert thread call }

def endCall (s : PluginSystem κ) (thread : ℕ) : PluginSystem κ :=
  { s with calls := s.calls.erase thread }

def setController (s : PluginSystem κ) (controller : ℕ) (state : PluginController) :
    PluginSystem κ :=
  { s with controllers := Function.update s.controllers controller state }

def setCache (s : PluginSystem κ) (manager : ℕ) (cache : ControllerCache κ) : PluginSystem κ :=
  { s with liveControllerCaches := Function.update s.liveControllerCaches manager cache }

/-- The handle that the plugin answers with is a new one. -/
def answer (s : PluginSystem κ) (handle : Bool) : PluginSystem κ × Option ℕ :=
  if handle then ({ s with handleCount := s.handleCount + 1 }, some s.handleCount) else (s, none)

/-- No thread is creating a controller under the mutex of the manager's cache. -/
def Unlocked (s : PluginSystem κ) (manager : ℕ) : Prop :=
  s.calls.Forall fun _ call => call.locks ≠ some manager

instance (s : PluginSystem κ) (manager : ℕ) : Decidable (s.Unlocked manager) :=
  inferInstanceAs (Decidable (Table.Forall _ _))

def ensureBackend (s : PluginSystem κ) (backend : BackendAnswers) :
    PluginSystem κ × Bool × List PluginCallback :=
  if s.initialised then (s, true, [])
  else if backend.created then
    let callbacks := .createBackend s.backendCount ::
      List.replicate (attempts backend.answers) (.setPluginSetting (some s.backendCount))
    if backend.answers.all (· = .taken) then
      ({ s with
        backendHandle := some s.backendCount
        backendCount := s.backendCount + 1
        initialised := true }, true, callbacks)
    else
      ({ s with backendHandle := none, backendCount := s.backendCount + 1 }, false,
        callbacks ++ [.destroyBackend (some s.backendCount)])
  else ({ s with backendHandle := none }, false, [])

/-- What `ensureBackend` can do: find the backend there, make it, or fail, after which there is
none. -/
inductive EnsureCase (s : PluginSystem κ) : PluginSystem κ → Bool → List PluginCallback → Prop
  | there (hinit : s.initialised = true) : EnsureCase s s true []
  | made (hinit : s.initialised = false) (n : ℕ) :
      EnsureCase s
        { s with
          backendHandle := some s.backendCount
          backendCount := s.backendCount + 1
          initialised := true } true
        (.createBackend s.backendCount ::
          List.replicate n (.setPluginSetting (some s.backendCount)))
  | refused (hinit : s.initialised = false) (n : ℕ) :
      EnsureCase s { s with backendHandle := none, backendCount := s.backendCount + 1 } false
        (.createBackend s.backendCount ::
          List.replicate n (.setPluginSetting (some s.backendCount)) ++
            [.destroyBackend (some s.backendCount)])
  | failed (hinit : s.initialised = false) : EnsureCase s { s with backendHandle := none } false []

theorem ensureBackend_cases (s : PluginSystem κ) (backend : BackendAnswers) :
    EnsureCase s (s.ensureBackend backend).1 (s.ensureBackend backend).2.1
      (s.ensureBackend backend).2.2 := by
  rw [ensureBackend]
  split
  · exact .there ‹_›
  · rename_i hinit
    have hinit : s.initialised = false := Bool.not_eq_true _ ▸ hinit
    split
    · dsimp only
      split
      · exact .made hinit _
      · exact .refused hinit _
    · exact .failed hinit

variable [DecidableEq κ]

/-- The first section of `connectController`. An existing controller is returned as it is. -/
def beginConnect (s : PluginSystem κ) (thread manager : ℕ) (key : κ) (backend : BackendAnswers) :
    PluginSystem κ × List PluginCallback :=
  match ((s.liveControllerCaches manager).lookup key).bind (ControllerCache.lock s.alive) with
  | some _ => (s, [])
  | none =>
    let s := s.setCache manager ((s.liveControllerCaches manager).erase key)
    let (s, result, callbacks) := s.ensureBackend backend
    (if result then s.setCall thread (.creating manager key) else s, callbacks)

def beginDisconnect (s : PluginSystem κ) (thread manager : ℕ) (key : κ) : PluginSystem κ :=
  let (cache, controller) := (s.liveControllerCaches manager).take s.alive key
  let s := s.setCache manager cache
  match controller with
  | none => s
  | some controller => s.setCall thread (.closing [controller] false false)

/-- The snapshot is a hash map, which is gone through in any order. -/
def beginCloseAll (s : PluginSystem κ) (thread manager : ℕ) (order : List ℕ) :
    Option (PluginSystem κ) :=
  let (cache, snapshot) := (s.liveControllerCaches manager).snapshotAndClear s.alive
  if order.Perm (snapshot.map Prod.snd) then
    some ((s.setCache manager cache).setCall thread (.closing order false true))
  else none

def beginDiscover (s : PluginSystem κ) (thread : ℕ) (backend : BackendAnswers) :
    PluginSystem κ × List PluginCallback :=
  let (s, result, callbacks) := s.ensureBackend backend
  (if result then s.setCall thread .discovering else s, callbacks)

/-- A section of a call that has begun. -/
def stepCall (api : PluginApi) (s : PluginSystem κ) (thread : ℕ) :
    PluginCall κ → PluginStep κ → Option (PluginSystem κ × List PluginCallback)
  | .creating manager key, .createController _ =>
    let cache := AList.insert key s.controllerCount (s.liveControllerCaches manager)
    let s := (s.setCache manager cache).setController s.controllerCount
      { backendHandle := s.backendHandle }
    some ({ s.setCall thread (.opening manager key s.controllerCount) with
      controllerCount := s.controllerCount + 1 }, [])
  | .opening manager key controller, .openController _ handle =>
    let (s, handle) := s.answer handle
    let (state, result, callbacks) := (s.controllers controller).openController api handle
    let s := s.setController controller state
    if result then some (s.setCall thread (.restoring manager key controller), callbacks)
    else some (s.setCall thread (.dropping manager key controller), callbacks)
  | .restoring manager key controller, .startController _ restored =>
    if restored then
      some ((s.setController controller { s.controllers controller with running := true }).endCall
        thread, [])
    else
      let (state, callbacks) := (s.controllers controller).close
      some ((s.setController controller state).setCall thread (.dropping manager key controller),
        callbacks)
  | .dropping manager key _, .erase _ =>
    if s.Unlocked manager then
      some ((s.setCache manager ((s.liveControllerCaches manager).erase key)).endCall thread, [])
    else none
  | .closing (controller :: rest) _ all, .stopThread _ =>
    let (state, callbacks) := (s.controllers controller).stopThread api
    some ((s.setController controller state).setCall thread
      (.closing (controller :: rest) true all), callbacks)
  | .closing (controller :: rest) true all, .closeController _ =>
    let (state, callbacks) := (s.controllers controller).close
    some ((s.setController controller state).setCall thread (.closing rest false all), callbacks)
  | .closing [] _ all, .afterCloseControllers _ =>
    -- a disconnect returns, and only `closeAll` runs the hook
    if all ∧ s.initialised then
      some ({ s.endCall thread with backendHandle := none, initialised := false },
        [.destroyBackend s.backendHandle])
    else some (s.endCall thread, [])
  | .discovering, .rescan _ =>
    some (s.endCall thread, (if api.rescan then [.rescan s.backendHandle] else []) ++
      [.discover s.backendHandle])
  | _, _ => none

/-- One section of a call, or of a controller. A thread is in one call at a time. -/
def step (api : PluginApi) (s : PluginSystem κ) :
    PluginStep κ → Option (PluginSystem κ × List PluginCallback)
  | .connectController thread manager key backend =>
    if s.calls.lookup thread = none ∧ s.Unlocked manager then
      some (s.beginConnect thread manager key backend)
    else none
  | .disconnectController thread manager key =>
    if s.calls.lookup thread = none ∧ s.Unlocked manager then
      some (s.beginDisconnect thread manager key, [])
    else none
  | .closeAll thread manager order =>
    if s.calls.lookup thread = none ∧ s.Unlocked manager then
      (s.beginCloseAll thread manager order).map (·, [])
    else none
  | .discover thread backend =>
    if s.calls.lookup thread = none then some (s.beginDiscover thread backend) else none
  | .reconnect controller handle answers =>
    let c := s.controllers controller
    if c.running ∧ c.connected = false then
      let (s, handle) := s.answer handle
      let (state, callbacks) := c.reconnect api handle answers
      some (s.setController controller state, callbacks)
    else none
  | .callController controller callback disconnected =>
    let (state, callbacks) := (s.controllers controller).call callback disconnected
    some (s.setController controller state, callbacks)
  | .endController controller =>
    if controller < s.controllerCount ∧ controller ∉ s.ended ∧
        s.calls.Forall fun _ call => controller ∉ call.held then
      let (stopped, lastCallbacks) := (s.controllers controller).stopThread api
      let (state, callbacks) := stopped.close
      some ({ s.setController controller state with ended := controller :: s.ended },
        lastCallbacks ++ callbacks)
    else none
  | l =>
    match l.thread with
    | none => none
    | some thread =>
      match s.calls.lookup thread with
      | none => none
      | some call => s.stepCall api thread call l

/-- The sections by case: what must hold before, the state after, and the callbacks. -/
inductive StepCase (api : PluginApi) (s : PluginSystem κ) :
    PluginStep κ → PluginSystem κ → List PluginCallback → Prop
  | connect (thread manager : ℕ) (key : κ) (backend : BackendAnswers)
      (hcall : s.calls.lookup thread = none) :
      StepCase api s (.connectController thread manager key backend)
        (s.beginConnect thread manager key backend).1 (s.beginConnect thread manager key backend).2
  | disconnect (thread manager : ℕ) (key : κ) (hcall : s.calls.lookup thread = none) :
      StepCase api s (.disconnectController thread manager key)
        (s.beginDisconnect thread manager key) []
  | closeAll (thread manager : ℕ) (order : List ℕ) (hcall : s.calls.lookup thread = none)
      (cache : ControllerCache κ) :
      StepCase api s (.closeAll thread manager order)
        ((s.setCache manager cache).setCall thread (.closing order false true)) []
  | discover (thread : ℕ) (backend : BackendAnswers) (hcall : s.calls.lookup thread = none) :
      StepCase api s (.discover thread backend) (s.beginDiscover thread backend).1
        (s.beginDiscover thread backend).2
  | created (thread manager : ℕ) (key : κ)
      (hcall : s.calls.lookup thread = some (.creating manager key)) (cache : ControllerCache κ) :
      StepCase api s (.createController thread)
        { ((s.setCache manager cache).setController s.controllerCount
              { backendHandle := s.backendHandle }).setCall thread
            (.opening manager key s.controllerCount) with
          controllerCount := s.controllerCount + 1 } []
  | opened (thread manager : ℕ) (key : κ) (controller : ℕ)
      (hcall : s.calls.lookup thread = some (.opening manager key controller))
      (handle : ℕ) (handleCount : ℕ) :
      StepCase api s (.openController thread true)
        (({ s with handleCount := handleCount }.setController controller
          ((s.controllers controller).openController api (some handle)).1).setCall thread
            (.restoring manager key controller))
        ((s.controllers controller).openController api (some handle)).2.2
  | notOpened (thread manager : ℕ) (key : κ) (controller : ℕ)
      (hcall : s.calls.lookup thread = some (.opening manager key controller)) :
      StepCase api s (.openController thread false)
        ((s.setController controller
          ((s.controllers controller).openController api none).1).setCall thread
            (.dropping manager key controller))
        ((s.controllers controller).openController api none).2.2
  | started (thread manager : ℕ) (key : κ) (controller : ℕ)
      (hcall : s.calls.lookup thread = some (.restoring manager key controller)) :
      StepCase api s (.startController thread true)
        ((s.setController controller
          { s.controllers controller with running := true }).endCall thread) []
  | notRestored (thread manager : ℕ) (key : κ) (controller : ℕ)
      (hcall : s.calls.lookup thread = some (.restoring manager key controller)) :
      StepCase api s (.startController thread false)
        ((s.setController controller (s.controllers controller).close.1).setCall thread
          (.dropping manager key controller)) (s.controllers controller).close.2
  | erased (thread manager : ℕ) (key : κ) (controller : ℕ)
      (hcall : s.calls.lookup thread = some (.dropping manager key controller))
      (cache : ControllerCache κ) :
      StepCase api s (.erase thread) ((s.setCache manager cache).endCall thread) []
  | stopped (thread controller : ℕ) (rest : List ℕ) (stopped all : Bool)
      (hcall : s.calls.lookup thread = some (.closing (controller :: rest) stopped all)) :
      StepCase api s (.stopThread thread)
        ((s.setController controller ((s.controllers controller).stopThread api).1).setCall thread
          (.closing (controller :: rest) true all)) ((s.controllers controller).stopThread api).2
  | closed (thread controller : ℕ) (rest : List ℕ) (all : Bool)
      (hcall : s.calls.lookup thread = some (.closing (controller :: rest) true all)) :
      StepCase api s (.closeController thread)
        ((s.setController controller (s.controllers controller).close.1).setCall thread
          (.closing rest false all)) (s.controllers controller).close.2
  | destroyed (thread : ℕ) (stopped : Bool)
      (hcall : s.calls.lookup thread = some (.closing [] stopped true))
      (hinit : s.initialised = true) :
      StepCase api s (.afterCloseControllers thread)
        { s.endCall thread with backendHandle := none, initialised := false }
        [.destroyBackend s.backendHandle]
  | returned (thread : ℕ) (stopped all : Bool)
      (hcall : s.calls.lookup thread = some (.closing [] stopped all)) :
      StepCase api s (.afterCloseControllers thread) (s.endCall thread) []
  | discovered (thread : ℕ) (hcall : s.calls.lookup thread = some .discovering) :
      StepCase api s (.rescan thread) (s.endCall thread)
        ((if api.rescan then [.rescan s.backendHandle] else []) ++ [.discover s.backendHandle])
  | reconnected (controller : ℕ) (handle : Bool) (answers : List SettingAnswer)
      (hrunning : (s.controllers controller).running = true) (new : Option ℕ) (handleCount : ℕ) :
      StepCase api s (.reconnect controller handle answers)
        ({ s with handleCount := handleCount }.setController controller
          ((s.controllers controller).reconnect api new answers).1)
        ((s.controllers controller).reconnect api new answers).2
  | called (controller : ℕ) (callback : ControllerCallback) (disconnected : Bool) :
      StepCase api s (.callController controller callback disconnected)
        (s.setController controller ((s.controllers controller).call callback disconnected).1)
        ((s.controllers controller).call callback disconnected).2
  | ended (controller : ℕ) :
      StepCase api s (.endController controller)
        { s.setController controller ((s.controllers controller).stopThread api).1.close.1 with
          ended := controller :: s.ended }
        (((s.controllers controller).stopThread api).2 ++
          ((s.controllers controller).stopThread api).1.close.2)

theorem stepCall_cases {api : PluginApi} {s s' : PluginSystem κ} {thread : ℕ} {call : PluginCall κ}
    {l : PluginStep κ} {o : List PluginCallback} (hcall : s.calls.lookup thread = some call)
    (hl : l.thread = some thread) (h : s.stepCall api thread call l = some (s', o)) :
    StepCase api s l s' o := by
  unfold stepCall at h
  split at h
  · cases hl
    simp only [Option.some.injEq, Prod.mk.injEq] at h
    obtain ⟨rfl, rfl⟩ := h
    exact .created _ _ _ hcall _
  · rename_i handle
    cases hl
    cases handle with
    | true =>
      cases h
      exact .opened _ _ _ _ hcall _ _
    | false =>
      cases h
      exact .notOpened _ _ _ _ hcall
  · rename_i restored
    cases hl
    cases restored with
    | true =>
      cases h
      exact .started _ _ _ _ hcall
    | false =>
      cases h
      exact .notRestored _ _ _ _ hcall
  · cases hl
    rw [Option.ite_none_right_eq_some, Option.some.injEq, Prod.mk.injEq] at h
    obtain ⟨-, rfl, rfl⟩ := h
    exact .erased _ _ _ _ hcall _
  · cases hl
    cases h
    exact .stopped _ _ _ _ _ hcall
  · cases hl
    cases h
    exact .closed _ _ _ _ hcall
  · cases hl
    split at h
    · rename_i hall
      obtain ⟨rfl, hinit⟩ := hall
      cases h
      exact .destroyed _ _ hcall hinit
    · cases h
      exact .returned _ _ _ hcall
  · cases hl
    cases h
    exact .discovered _ hcall
  · cases h

theorem step_cases {api : PluginApi} {s s' : PluginSystem κ} {l : PluginStep κ}
    {o : List PluginCallback} (h : step api s l = some (s', o)) : StepCase api s l s' o := by
  unfold step at h
  split at h
  · rw [Option.ite_none_right_eq_some, Option.some.injEq, Prod.ext_iff] at h
    obtain ⟨⟨hcall, -⟩, rfl, rfl⟩ := h
    exact .connect _ _ _ _ hcall
  · rw [Option.ite_none_right_eq_some, Option.some.injEq, Prod.mk.injEq] at h
    obtain ⟨⟨hcall, -⟩, rfl, rfl⟩ := h
    exact .disconnect _ _ _ hcall
  · obtain ⟨⟨hcall, -⟩, h⟩ := Option.ite_none_right_eq_some.mp h
    obtain ⟨s₁, hbegin, heq⟩ := Option.map_eq_some_iff.mp h
    cases heq
    rw [beginCloseAll, Option.ite_none_right_eq_some, Option.some.injEq] at hbegin
    obtain ⟨-, rfl⟩ := hbegin
    exact .closeAll _ _ _ hcall _
  · rw [Option.ite_none_right_eq_some, Option.some.injEq, Prod.ext_iff] at h
    obtain ⟨hcall, rfl, rfl⟩ := h
    exact .discover _ _ hcall
  · rename_i handle answers
    dsimp only at h
    split at h
    · rename_i hrunning
      cases handle with
      | true =>
        cases h
        exact .reconnected _ _ _ hrunning.1 _ _
      | false =>
        cases h
        exact .reconnected _ _ _ hrunning.1 none s.handleCount
    · cases h
  · cases h
    exact .called _ _ _
  · split at h
    · cases h
      exact .ended _
    · cases h
  · split at h
    · cases h
    · rename_i hl
      split at h
      · cases h
      · rename_i hcall
        exact stepCall_cases hcall hl h

end PluginSystem

end LiberaLaser.Plugin
