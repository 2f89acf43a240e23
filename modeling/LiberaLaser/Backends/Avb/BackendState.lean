import LiberaLaser.Backends.Avb.DeviceRuntime
import LiberaLaser.Core.Manager.ControllerCache
import LiberaLaser.Foundations.Runs
import Mathlib.Logic.Function.Basic

/-!
# The banks of an AVB device

Any number of threads connect and disconnect the banks of one device. The cache of controllers and
the entry of the device in `runtimesByDeviceUid` change under the mutex of the backend, the banks of
a runtime under its own; the runtime is opened and closed under neither, access by access. A bank
has one controller id, so the cache is keyed by channel offset.
-/

namespace LiberaLaser

/-- Where a call stands that has passed its first section. -/
inductive AvbCall
  /-- `connectController` opens the runtime. -/
  | opening (stage : AvbOpening) (channelOffset controller runtime pointRate : ℕ)
  /-- The runtime is open, and the controller is attached next. -/
  | attaching (channelOffset controller runtime : ℕ)
  /-- `disconnectController` detaches the bank next, where the device has a runtime. -/
  | detaching (channelOffset controller : ℕ) (runtime : Option ℕ)
  /-- The bank is detached, and the controller is stopped and closed. -/
  | detached (channelOffset controller runtime : ℕ)
  /-- No bank was attached any more, and the stream is reset next. -/
  | closing (channelOffset controller runtime : ℕ)
  /-- The stream was reset, and the rate is set to 0 next. -/
  | clearing (channelOffset controller runtime : ℕ)
  /-- The runtime is closed, and erased from the map next. -/
  | erasing (channelOffset controller runtime : ℕ)
  deriving DecidableEq

namespace AvbCall

/-- The controller that the call keeps alive. -/
def controller : AvbCall → ℕ
  | .opening _ _ controller _ _ => controller
  | .attaching _ controller _ => controller
  | .detaching _ controller _ => controller
  | .detached _ controller _ => controller
  | .closing _ controller _ => controller
  | .clearing _ controller _ => controller
  | .erasing _ controller _ => controller

/-- The runtime that the call keeps alive. -/
def runtime : AvbCall → Option ℕ
  | .opening _ _ _ runtime _ => some runtime
  | .attaching _ _ runtime => some runtime
  | .detaching _ _ runtime => runtime
  | .detached _ _ runtime => some runtime
  | .closing _ _ runtime => some runtime
  | .clearing _ _ runtime => some runtime
  | .erasing _ _ runtime => some runtime

/-- The runtime that a call opens. -/
def opens : AvbCall → Option ℕ
  | .opening _ _ _ runtime _ => some runtime
  | _ => none

/-- The runtime that a call has found open, so that it will attach its bank there. -/
def hasOpened : AvbCall → Option ℕ
  | .opening stage _ _ runtime _ => if stage.hasStarted then some runtime else none
  | .attaching _ _ runtime => some runtime
  | _ => none

/-- The bank that a call attaches. -/
def attaches : AvbCall → Option (ℕ × ℕ)
  | .attaching channelOffset controller _ => some (channelOffset, controller)
  | _ => none

/-- The offset that a call detaches, and the runtime. -/
def detaches : AvbCall → Option (ℕ × ℕ)
  | .detaching channelOffset _ (some runtime) => some (channelOffset, runtime)
  | _ => none

/-- The runtime in which a call has seen a stream, and the rate that it reads there next. -/
def compares : AvbCall → Option (ℕ × ℕ)
  | .opening .comparing _ _ runtime pointRate => some (runtime, pointRate)
  | _ => none

/-- The runtime that a call leaves without a stream, where it opens or closes one. -/
def resets (opened : Option ℕ) : AvbCall → Option ℕ
  | .opening stage _ _ runtime _ => if stage.resets opened then some runtime else none
  | .closing _ _ runtime => some runtime
  | _ => none

/-- The runtime that a call erases. -/
def erases : AvbCall → Option ℕ
  | .erasing _ _ runtime => some runtime
  | _ => none

end AvbCall

/-- The state that the calls of one device share: the entry of the device in `runtimesByDeviceUid`,
the runtimes in the order of their creation, the cache, and the calls in progress, by thread.
Controllers are numbered in the order of their creation. The last three fields are history
variables: what `connectController` has returned, what was disconnected, and what has ended. -/
structure AvbBackendState where
  runtimesByDeviceUid : Option ℕ := none
  runtimes : ℕ → AvbDeviceRuntime := fun _ => {}
  runtimeCount : ℕ := 0
  activeControllers : ControllerCache ℕ := ∅
  controllerCount : ℕ := 0
  calls : Table ℕ AvbCall := ∅
  connected : List (ℕ × ℕ) := []
  disconnected : List ℕ := []
  destroyed : List ℕ := []

/-- The sections of the calls, by thread, with the steps of `open` and `close`, and the end of a
controller or a runtime that nobody owns. -/
inductive AvbStep
  | connectController (thread channelOffset pointRate : ℕ)
  | openRuntime (thread : ℕ) (opened : Option ℕ)
  | attachController (thread : ℕ)
  | disconnectController (thread channelOffset : ℕ)
  | detachController (thread : ℕ)
  | hasAttachedControllers (thread : ℕ)
  | resetStream (thread : ℕ)
  | clearPointRate (thread : ℕ)
  | erase (thread : ℕ)
  | destroyController (controller : ℕ)
  | destroyRuntime (runtime : ℕ)
  deriving DecidableEq

/-- What is observed: the calls return. -/
inductive AvbEvent
  | connected (thread channelOffset : ℕ) (controller : Option ℕ)
  | disconnected (thread channelOffset : ℕ) (result : Bool)
  deriving DecidableEq

namespace AvbBackendState

/-- A controller lives until it is destroyed. -/
def alive (s : AvbBackendState) (controller : ℕ) : Bool :=
  decide (controller ∉ s.destroyed)

def setCall (s : AvbBackendState) (thread : ℕ) (call : AvbCall) : AvbBackendState :=
  { s with calls := s.calls.insert thread call }

def endCall (s : AvbBackendState) (thread : ℕ) : AvbBackendState :=
  { s with calls := s.calls.erase thread }

def setRuntime (s : AvbBackendState) (runtime : ℕ) (state : AvbDeviceRuntime) : AvbBackendState :=
  { s with runtimes := Function.update s.runtimes runtime state }

@[simp] theorem setRuntime_runtimes_self {s : AvbBackendState} {runtime : ℕ}
    {state : AvbDeviceRuntime} : (s.setRuntime runtime state).runtimes runtime = state :=
  Function.update_self ..

theorem setRuntime_runtimes_of_ne {s : AvbBackendState} {runtime r : ℕ} {state : AvbDeviceRuntime}
    (h : r ≠ runtime) : (s.setRuntime runtime state).runtimes r = s.runtimes r :=
  Function.update_of_ne h ..

def getOrCreateRuntimeLocked (s : AvbBackendState) : AvbBackendState × ℕ :=
  match s.runtimesByDeviceUid with
  | some runtime => (s, runtime)
  | none =>
    ({ s.setRuntime s.runtimeCount {} with
      runtimesByDeviceUid := some s.runtimeCount
      runtimeCount := s.runtimeCount + 1 }, s.runtimeCount)

/-- The first section of `connectController`. Without a usable point rate the call returns before
it. -/
def beginConnect (s : AvbBackendState) (thread channelOffset pointRate : ℕ) :
    AvbBackendState × List AvbEvent :=
  if pointRate = 0 then (s, [.connected thread channelOffset none])
  else
    let (s, runtime) := s.getOrCreateRuntimeLocked
    let (activeControllers, acquisition) := s.activeControllers.getOrCreate s.alive channelOffset
      (some s.controllerCount)
    let s := { s with
      activeControllers := activeControllers
      controllerCount := s.controllerCount + if acquisition.created then 1 else 0 }
    match acquisition.controller with
    | none => (s, [.connected thread channelOffset none])
    | some controller =>
      (s.setCall thread (.opening .checking channelOffset controller runtime pointRate), [])

/-- The first section of `disconnectController`. -/
def beginDisconnect (s : AvbBackendState) (thread channelOffset : ℕ) :
    AvbBackendState × List AvbEvent :=
  let (activeControllers, controller) := s.activeControllers.take s.alive channelOffset
  let s := { s with activeControllers := activeControllers }
  match controller with
  | none => (s, [.disconnected thread channelOffset false])
  | some controller =>
    ({ s.setCall thread (.detaching channelOffset controller s.runtimesByDeviceUid) with
      disconnected := controller :: s.disconnected }, [])

/-- One section of a call. A thread is in one call at a time. -/
def step (s : AvbBackendState) : AvbStep → Option (AvbBackendState × List AvbEvent)
  | .connectController thread channelOffset pointRate =>
    match s.calls.lookup thread with
    | some _ => none
    | none => some (s.beginConnect thread channelOffset pointRate)
  | .openRuntime thread opened =>
    match s.calls.lookup thread with
    | some (.opening stage channelOffset controller runtime pointRate) =>
      let (state, result) := (s.runtimes runtime).openStep pointRate opened stage
      let s := s.setRuntime runtime state
      match result with
      | .goesOn next =>
        some (s.setCall thread (.opening next channelOffset controller runtime pointRate), [])
      | .returns true =>
        some (s.setCall thread (.attaching channelOffset controller runtime), [])
      | .returns false => some (s.endCall thread, [.connected thread channelOffset none])
    | _ => none
  | .attachController thread =>
    match s.calls.lookup thread with
    | some (.attaching channelOffset controller runtime) =>
      let s := s.setRuntime runtime
        ((s.runtimes runtime).attachController channelOffset controller)
      some ({ s.endCall thread with connected := (channelOffset, controller) :: s.connected },
        [.connected thread channelOffset (some controller)])
    | _ => none
  | .disconnectController thread channelOffset =>
    match s.calls.lookup thread with
    | some _ => none
    | none => some (s.beginDisconnect thread channelOffset)
  | .detachController thread =>
    match s.calls.lookup thread with
    | some (.detaching channelOffset _ none) =>
      some (s.endCall thread, [.disconnected thread channelOffset true])
    | some (.detaching channelOffset controller (some runtime)) =>
      let s := s.setRuntime runtime ((s.runtimes runtime).detachController channelOffset)
      some (s.setCall thread (.detached channelOffset controller runtime), [])
    | _ => none
  | .hasAttachedControllers thread =>
    match s.calls.lookup thread with
    | some (.detached channelOffset controller runtime) =>
      let (state, attached) := (s.runtimes runtime).hasAttachedControllers s.alive
      let s := s.setRuntime runtime state
      if attached then some (s.endCall thread, [.disconnected thread channelOffset true])
      else some (s.setCall thread (.closing channelOffset controller runtime), [])
    | _ => none
  | .resetStream thread =>
    match s.calls.lookup thread with
    | some (.closing channelOffset controller runtime) =>
      let s := s.setRuntime runtime (s.runtimes runtime).resetStream
      some (s.setCall thread (.clearing channelOffset controller runtime), [])
    | _ => none
  | .clearPointRate thread =>
    match s.calls.lookup thread with
    | some (.clearing channelOffset controller runtime) =>
      let s := s.setRuntime runtime (s.runtimes runtime).clearPointRate
      some (s.setCall thread (.erasing channelOffset controller runtime), [])
    | _ => none
  | .erase thread =>
    match s.calls.lookup thread with
    | some (.erasing channelOffset _ runtime) =>
      let runtimesByDeviceUid :=
        if s.runtimesByDeviceUid = some runtime then none else s.runtimesByDeviceUid
      some ({ s.endCall thread with runtimesByDeviceUid := runtimesByDeviceUid },
        [.disconnected thread channelOffset true])
    | _ => none
  | .destroyController controller =>
    if controller < s.controllerCount ∧
        s.calls.Forall fun _ call => call.controller ≠ controller then
      some ({ s with destroyed := controller :: s.destroyed }, [])
    else none
  | .destroyRuntime runtime =>
    if s.runtimesByDeviceUid ≠ some runtime ∧
        s.calls.Forall fun _ call => call.runtime ≠ some runtime then
      some (s.setRuntime runtime (s.runtimes runtime).close, [])
    else none

/-- The sections by case: what must hold before, the state after, and what is observed. -/
inductive StepCase (s : AvbBackendState) : AvbStep → AvbBackendState → List AvbEvent → Prop
  | refused (thread channelOffset : ℕ) (hcall : s.calls.lookup thread = none) :
      StepCase s (.connectController thread channelOffset 0) s
        [.connected thread channelOffset none]
  | acquired (thread channelOffset pointRate : ℕ) (hcall : s.calls.lookup thread = none)
      (hrate : pointRate ≠ 0) (activeControllers : ControllerCache ℕ) (controllerCount : ℕ)
      (controller : ℕ) (hentry : activeControllers.lookup channelOffset = some controller) :
      StepCase s (.connectController thread channelOffset pointRate)
        (setCall { s.getOrCreateRuntimeLocked.1 with
            activeControllers := activeControllers
            controllerCount := controllerCount } thread
          (.opening .checking channelOffset controller s.getOrCreateRuntimeLocked.2 pointRate)) []
  | opening (thread : ℕ) (opened : Option ℕ) (stage next : AvbOpening)
      (channelOffset controller runtime pointRate : ℕ)
      (hcall : s.calls.lookup thread =
        some (.opening stage channelOffset controller runtime pointRate))
      (hopen : ((s.runtimes runtime).openStep pointRate opened stage).2 = .goesOn next) :
      StepCase s (.openRuntime thread opened)
        ((s.setRuntime runtime ((s.runtimes runtime).openStep pointRate opened stage).1).setCall
          thread (.opening next channelOffset controller runtime pointRate)) []
  | opened (thread : ℕ) (opened : Option ℕ) (stage : AvbOpening)
      (channelOffset controller runtime pointRate : ℕ)
      (hcall : s.calls.lookup thread =
        some (.opening stage channelOffset controller runtime pointRate))
      (hopen : ((s.runtimes runtime).openStep pointRate opened stage).2 = .returns true) :
      StepCase s (.openRuntime thread opened)
        ((s.setRuntime runtime ((s.runtimes runtime).openStep pointRate opened stage).1).setCall
          thread (.attaching channelOffset controller runtime)) []
  | failed (thread : ℕ) (opened : Option ℕ) (stage : AvbOpening)
      (channelOffset controller runtime pointRate : ℕ)
      (hcall : s.calls.lookup thread =
        some (.opening stage channelOffset controller runtime pointRate))
      (hopen : ((s.runtimes runtime).openStep pointRate opened stage).2 = .returns false) :
      StepCase s (.openRuntime thread opened)
        ((s.setRuntime runtime ((s.runtimes runtime).openStep pointRate opened stage).1).endCall
          thread) [.connected thread channelOffset none]
  | attached (thread channelOffset controller runtime : ℕ)
      (hcall : s.calls.lookup thread = some (.attaching channelOffset controller runtime)) :
      StepCase s (.attachController thread)
        { (s.setRuntime runtime
            ((s.runtimes runtime).attachController channelOffset controller)).endCall thread with
          connected := (channelOffset, controller) :: s.connected }
        [.connected thread channelOffset (some controller)]
  | notFound (thread channelOffset : ℕ) (hcall : s.calls.lookup thread = none)
      (activeControllers : ControllerCache ℕ) :
      StepCase s (.disconnectController thread channelOffset)
        { s with activeControllers := activeControllers }
        [.disconnected thread channelOffset false]
  | taken (thread channelOffset : ℕ) (hcall : s.calls.lookup thread = none) (controller : ℕ)
      (hentry : s.activeControllers.lookup channelOffset = some controller) :
      StepCase s (.disconnectController thread channelOffset)
        { setCall { s with activeControllers := s.activeControllers.erase channelOffset } thread
            (.detaching channelOffset controller s.runtimesByDeviceUid) with
          disconnected := controller :: s.disconnected } []
  | unregistered (thread channelOffset controller : ℕ)
      (hcall : s.calls.lookup thread = some (.detaching channelOffset controller none)) :
      StepCase s (.detachController thread) (s.endCall thread)
        [.disconnected thread channelOffset true]
  | detached (thread channelOffset controller runtime : ℕ)
      (hcall : s.calls.lookup thread = some (.detaching channelOffset controller (some runtime))) :
      StepCase s (.detachController thread)
        ((s.setRuntime runtime ((s.runtimes runtime).detachController channelOffset)).setCall thread
          (.detached channelOffset controller runtime)) []
  | inUse (thread channelOffset controller runtime : ℕ)
      (hcall : s.calls.lookup thread = some (.detached channelOffset controller runtime)) :
      StepCase s (.hasAttachedControllers thread)
        ((s.setRuntime runtime ((s.runtimes runtime).hasAttachedControllers s.alive).1).endCall
          thread) [.disconnected thread channelOffset true]
  | unused (thread channelOffset controller runtime : ℕ)
      (hcall : s.calls.lookup thread = some (.detached channelOffset controller runtime)) :
      StepCase s (.hasAttachedControllers thread)
        ((s.setRuntime runtime ((s.runtimes runtime).hasAttachedControllers s.alive).1).setCall
          thread (.closing channelOffset controller runtime)) []
  | closed (thread channelOffset controller runtime : ℕ)
      (hcall : s.calls.lookup thread = some (.closing channelOffset controller runtime)) :
      StepCase s (.resetStream thread)
        ((s.setRuntime runtime (s.runtimes runtime).resetStream).setCall thread
          (.clearing channelOffset controller runtime)) []
  | cleared (thread channelOffset controller runtime : ℕ)
      (hcall : s.calls.lookup thread = some (.clearing channelOffset controller runtime)) :
      StepCase s (.clearPointRate thread)
        ((s.setRuntime runtime (s.runtimes runtime).clearPointRate).setCall thread
          (.erasing channelOffset controller runtime)) []
  | erased (thread channelOffset controller runtime : ℕ)
      (hcall : s.calls.lookup thread = some (.erasing channelOffset controller runtime)) :
      StepCase s (.erase thread)
        { s.endCall thread with
          runtimesByDeviceUid :=
            if s.runtimesByDeviceUid = some runtime then none else s.runtimesByDeviceUid }
        [.disconnected thread channelOffset true]
  | destroyController (controller : ℕ) :
      StepCase s (.destroyController controller)
        { s with destroyed := controller :: s.destroyed } []
  | destroyRuntime (runtime : ℕ) (hentry : s.runtimesByDeviceUid ≠ some runtime)
      (hunheld : s.calls.Forall fun _ call => call.runtime ≠ some runtime) :
      StepCase s (.destroyRuntime runtime) (s.setRuntime runtime (s.runtimes runtime).close) []

theorem beginConnect_cases (s : AvbBackendState) (thread channelOffset pointRate : ℕ)
    (hcall : s.calls.lookup thread = none) :
    StepCase s (.connectController thread channelOffset pointRate)
      (s.beginConnect thread channelOffset pointRate).1
      (s.beginConnect thread channelOffset pointRate).2 := by
  rw [beginConnect]
  split
  · rename_i hrate
    rw [hrate]
    exact .refused thread channelOffset hcall
  · rename_i hrate
    have hacquired := fun cache count controller hentry =>
      StepCase.acquired thread channelOffset pointRate hcall hrate cache count controller hentry
    generalize s.getOrCreateRuntimeLocked = registered at hacquired ⊢
    obtain ⟨s₁, runtime⟩ := registered
    have hcase := ControllerCache.getOrCreate_cases s₁.activeControllers s₁.alive channelOffset
      (some s₁.controllerCount)
    dsimp only at hacquired ⊢
    generalize s₁.activeControllers.getOrCreate s₁.alive channelOffset (some s₁.controllerCount) =
      result at hcase ⊢
    obtain ⟨cache, acquisition⟩ := result
    cases hcase with
    | reused controller hentry halive => exact hacquired _ _ controller hentry
    | failed _ hnone => cases hnone
    | created _ controller hsome hdead hentry => exact hacquired _ _ controller hentry

theorem beginDisconnect_cases (s : AvbBackendState) (thread channelOffset : ℕ)
    (hcall : s.calls.lookup thread = none) :
    StepCase s (.disconnectController thread channelOffset)
      (s.beginDisconnect thread channelOffset).1 (s.beginDisconnect thread channelOffset).2 := by
  rw [beginDisconnect, ControllerCache.take]
  cases hentry : s.activeControllers.lookup channelOffset with
  | none => exact .notFound thread channelOffset hcall _
  | some controller =>
    cases halive : s.alive controller with
    | true =>
      simp only [ControllerCache.lock, halive, if_true]
      exact .taken thread channelOffset hcall controller hentry
    | false =>
      simp only [ControllerCache.lock, halive, Bool.false_eq_true, if_false]
      exact .notFound thread channelOffset hcall _

theorem step_cases {s s' : AvbBackendState} {l : AvbStep} {o : List AvbEvent}
    (h : step s l = some (s', o)) : StepCase s l s' o := by
  cases l with
  | connectController thread channelOffset pointRate =>
    cases hcall : s.calls.lookup thread with
    | some call => simp [step, hcall] at h
    | none =>
      simp only [step, hcall, Option.some.injEq, Prod.ext_iff] at h
      obtain ⟨rfl, rfl⟩ := h
      exact beginConnect_cases s thread channelOffset pointRate hcall
  | openRuntime thread opened =>
    cases hcall : s.calls.lookup thread with
    | none => simp [step, hcall] at h
    | some call =>
      cases call <;> simp only [step, hcall, reduceCtorEq] at h
      split at h
      · rename_i next hopen
        simp only [Option.some.injEq, Prod.mk.injEq] at h
        obtain ⟨rfl, rfl⟩ := h
        exact .opening thread opened _ next _ _ _ _ hcall hopen
      · rename_i hopen
        simp only [Option.some.injEq, Prod.mk.injEq] at h
        obtain ⟨rfl, rfl⟩ := h
        exact .opened thread opened _ _ _ _ _ hcall hopen
      · rename_i hopen
        simp only [Option.some.injEq, Prod.mk.injEq] at h
        obtain ⟨rfl, rfl⟩ := h
        exact .failed thread opened _ _ _ _ _ hcall hopen
  | attachController thread =>
    cases hcall : s.calls.lookup thread with
    | none => simp [step, hcall] at h
    | some call =>
      cases call <;> simp only [step, hcall, reduceCtorEq, Option.some.injEq, Prod.mk.injEq] at h
      obtain ⟨rfl, rfl⟩ := h
      exact .attached thread _ _ _ hcall
  | disconnectController thread channelOffset =>
    cases hcall : s.calls.lookup thread with
    | some call => simp [step, hcall] at h
    | none =>
      simp only [step, hcall, Option.some.injEq, Prod.ext_iff] at h
      obtain ⟨rfl, rfl⟩ := h
      exact beginDisconnect_cases s thread channelOffset hcall
  | detachController thread =>
    cases hcall : s.calls.lookup thread with
    | none => simp [step, hcall] at h
    | some call =>
      cases call with
      | detaching channelOffset controller runtime =>
        cases runtime with
        | none =>
          simp only [step, hcall, Option.some.injEq, Prod.mk.injEq] at h
          obtain ⟨rfl, rfl⟩ := h
          exact .unregistered thread _ _ hcall
        | some runtime =>
          simp only [step, hcall, Option.some.injEq, Prod.mk.injEq] at h
          obtain ⟨rfl, rfl⟩ := h
          exact .detached thread _ _ _ hcall
      | _ => simp [step, hcall] at h
  | hasAttachedControllers thread =>
    cases hcall : s.calls.lookup thread with
    | none => simp [step, hcall] at h
    | some call =>
      cases call <;> simp only [step, hcall, reduceCtorEq] at h
      split at h
      · simp only [Option.some.injEq, Prod.mk.injEq] at h
        obtain ⟨rfl, rfl⟩ := h
        exact .inUse thread _ _ _ hcall
      · simp only [Option.some.injEq, Prod.mk.injEq] at h
        obtain ⟨rfl, rfl⟩ := h
        exact .unused thread _ _ _ hcall
  | resetStream thread =>
    cases hcall : s.calls.lookup thread with
    | none => simp [step, hcall] at h
    | some call =>
      cases call <;> simp only [step, hcall, reduceCtorEq, Option.some.injEq, Prod.mk.injEq] at h
      obtain ⟨rfl, rfl⟩ := h
      exact .closed thread _ _ _ hcall
  | clearPointRate thread =>
    cases hcall : s.calls.lookup thread with
    | none => simp [step, hcall] at h
    | some call =>
      cases call <;> simp only [step, hcall, reduceCtorEq, Option.some.injEq, Prod.mk.injEq] at h
      obtain ⟨rfl, rfl⟩ := h
      exact .cleared thread _ _ _ hcall
  | erase thread =>
    cases hcall : s.calls.lookup thread with
    | none => simp [step, hcall] at h
    | some call =>
      cases call <;> simp only [step, hcall, reduceCtorEq, Option.some.injEq, Prod.mk.injEq] at h
      obtain ⟨rfl, rfl⟩ := h
      exact .erased thread _ _ _ hcall
  | destroyController controller =>
    rw [step, Option.ite_none_right_eq_some, Option.some.injEq, Prod.mk.injEq] at h
    obtain ⟨-, rfl, rfl⟩ := h
    exact .destroyController controller
  | destroyRuntime runtime =>
    rw [step, Option.ite_none_right_eq_some, Option.some.injEq, Prod.mk.injEq] at h
    obtain ⟨⟨hentry, hunheld⟩, rfl, rfl⟩ := h
    exact .destroyRuntime runtime hentry hunheld

end AvbBackendState

end LiberaLaser
