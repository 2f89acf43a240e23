import LiberaLaser.Core.Controller.CallbackMode

/-!
# Switching the content source

The calls that switch the source hold `contentSourceMutex` from beginning to end, and work in
sections under the mutexes of the scheduler, the framer and the callback. A frame request takes the
content mutex only for a snapshot of the source; it copies the callback and extracts a frame later,
and sections of a switch may run in between. Here every section is a step of its own, of any number
of workers and of the one application thread that holds the content mutex.

The points of the frame queue carry no stamp, and the points of a callback carry its identity.
Post-processing, which follows the last section of a request and touches none of this state, is
left out.
-/

namespace LiberaLaser

open PointStreamFramer Runs

variable {τ F D : Type}

/-- A call that switches the content source or clears what was prefetched. -/
inductive SourceCall (τ F : Type)
  | setPointCallback (callback : Option (RequestPointsCallback τ F))
  | clearPointCallback
  | clearPointCallbackPrefetch

/-- A section of such a call. With the reset of the framer goes a history variable: the callback
that the framer belongs to from then on. -/
inductive SourceSection (τ F : Type)
  | resetScheduler
  | resetFramer (owner : Option τ)
  | storeCallback (callback : Option (RequestPointsCallback τ F))
  | activate (source : ContentSource)

/-- How far a worker has come with a frame request. -/
inductive WorkerRequest (τ F : Type)
  | idle
  | entered (request : FrameFillRequest) (context : RequestContext) (source : ContentSource)
  | copied (request : FrameFillRequest) (context : RequestContext)
      (callback : RequestPointsCallback τ F)

/-- A frame that a request returned to its worker. A request that returns `false` delivers no
points. -/
structure Delivery (τ F : Type) where
  worker : ℕ
  frame : List (Stamped (Option τ) F)
  deriving DecidableEq

/-- A controller, the sections left of the call that holds the content mutex, and the requests of
the workers. The last field is a history variable: the callback that the framer belongs to. -/
structure Switching (τ F D : Type) where
  controller : LaserController τ F D
  holder : Option (List (SourceSection τ F)) := none
  workers : ℕ → WorkerRequest τ F := fun _ => .idle
  owner : Option τ := none

/-- A step: a worker's snapshot of the source, a worker's next section, or a switch that takes the
content mutex, runs its next section, or returns. -/
inductive SwitchStep (τ F : Type)
  | snapshot (worker : ℕ) (request : FrameFillRequest) (context : RequestContext)
  | work (worker : ℕ)
  | call (call : SourceCall τ F)
  | proceed
  | release

namespace SourceCall

/-- The sections of a call that holds the content mutex. -/
def sections (c : LaserController τ F D) : SourceCall τ F → List (SourceSection τ F)
  | .setPointCallback (some callback) =>
    [.resetScheduler, .resetFramer (some callback.id), .storeCallback (some callback),
      .activate .pointCallback]
  | .setPointCallback none | .clearPointCallback =>
    .storeCallback none ::
      if c.activeSource = .pointCallback then [.resetFramer none, .activate .none] else []
  | .clearPointCallbackPrefetch =>
    if c.activeSource = .pointCallback then
      [.resetFramer (c.requestPointsCallback.map RequestPointsCallback.id)]
    else []

end SourceCall

variable [FloatArith F]

/-- What a section does to the controller. -/
def SourceSection.apply (c : LaserController τ F D) : SourceSection τ F → LaserController τ F D
  | .resetScheduler => { c with frameScheduler := c.frameScheduler.reset }
  | .resetFramer _ => c.resetPointCallbackAdapterState
  | .storeCallback callback => { c with requestPointsCallback := callback }
  | .activate source => { c with activeSource := source }

/-- The call without interruption. -/
def SourceCall.apply (c : LaserController τ F D) : SourceCall τ F → LaserController τ F D
  | .setPointCallback callback => c.setPointCallback callback
  | .clearPointCallback => c.clearPointCallback
  | .clearPointCallbackPrefetch => c.clearPointCallbackPrefetch

/-- **The sections of a call make up the call.** -/
theorem SourceCall.foldl_sections (c : LaserController τ F D) (call : SourceCall τ F) :
    (call.sections c).foldl SourceSection.apply c = call.apply c := by
  cases call with
  | setPointCallback callback =>
    cases callback with
    | none =>
      simp only [sections, apply, LaserController.setPointCallback,
        LaserController.clearPointCallback, List.foldl_cons, SourceSection.apply]
      split <;> rfl
    | some callback => rfl
  | clearPointCallback =>
    simp only [sections, apply, LaserController.clearPointCallback, List.foldl_cons,
      SourceSection.apply]
    split <;> rfl
  | clearPointCallbackPrefetch =>
    simp only [sections, apply, LaserController.clearPointCallbackPrefetch]
    split <;> rfl

namespace Switching

/-- A worker goes on to another stage of its request. -/
def setWorker (worker : ℕ) (stage : WorkerRequest τ F) (s : Switching τ F D) : Switching τ F D :=
  { s with workers := fun w => if w = worker then stage else s.workers w }

/-- A worker's request returns a frame. -/
def deliver (worker : ℕ) (frame : List (Stamped (Option τ) F)) (s : Switching τ F D) :
    Switching τ F D × List (Delivery τ F) :=
  (s.setWorker worker .idle, [⟨worker, frame⟩])

variable [FloatArith D]

/-- The next section of a worker's request. -/
def work (worker : ℕ) (s : Switching τ F D) : Option (Switching τ F D × List (Delivery τ F)) :=
  match s.workers worker with
  | .idle => none
  | .entered _ _ .none => some (s.deliver worker [])
  | .entered request context .frameQueue =>
    match s.controller.frameScheduler.fillFrame request.schedulerRequest context.maxFrameHoldTime
        context.clock with
    | none => none
    | some (frameScheduler, frame) =>
      some ({ s with controller := { s.controller with frameScheduler := frameScheduler } }.deliver
        worker (frame.points.map fun (p : Emitted F) => ⟨none, p.point⟩))
  | .entered request context .pointCallback =>
    if request.preferredFrameSize = 0 then some (s.deliver worker [])
    else
      match s.controller.requestPointsCallback with
      | none => some (s.deliver worker [])
      | some callback => some (s.setWorker worker (.copied request context callback), [])
  | .copied request context callback =>
    match s.controller.extractFrame request context callback with
    | none => none
    | some (controller, frame) =>
      some ({ s with controller := controller }.deliver worker
        ((frame.getD []).map fun (p : Stamped τ F) => ⟨some p.stamp, p.point⟩))

/-- A section of the call that holds the content mutex. -/
def runSection (current : SourceSection τ F) (rest : List (SourceSection τ F))
    (s : Switching τ F D) : Switching τ F D :=
  { s with
    controller := current.apply s.controller
    holder := some rest
    owner :=
      match current with
      | .resetFramer owner => owner
      | _ => s.owner }

/-- The step function. A snapshot and a new call wait for the content mutex. -/
def step (s : Switching τ F D) :
    SwitchStep τ F → Option (Switching τ F D × List (Delivery τ F))
  | .snapshot worker request context =>
    match s.workers worker, s.holder with
    | .idle, none =>
      some (s.setWorker worker (.entered request context s.controller.activeSource), [])
    | _, _ => none
  | .work worker => s.work worker
  | .call call =>
    match s.holder with
    | none => some ({ s with holder := some (call.sections s.controller) }, [])
    | some _ => none
  | .proceed =>
    match s.holder with
    | some (current :: rest) => some (s.runSection current rest, [])
    | _ => none
  | .release =>
    match s.holder with
    | some [] => some ({ s with holder := none }, [])
    | _ => none

/-! ## What a step can do -/

/-- The cases of a step. -/
inductive StepCase (s : Switching τ F D) :
    SwitchStep τ F → Switching τ F D → List (Delivery τ F) → Prop
  | snapshot (worker : ℕ) (request : FrameFillRequest) (context : RequestContext)
      (hw : s.workers worker = .idle) (hfree : s.holder = none) :
      StepCase s (.snapshot worker request context)
        (s.setWorker worker (.entered request context s.controller.activeSource)) []
  | none (worker : ℕ) (hw : ∀ request context callback,
        s.workers worker ≠ .copied request context callback) :
      StepCase s (.work worker) (s.setWorker worker .idle) [⟨worker, []⟩]
  | queued (worker : ℕ) {request : FrameFillRequest} {context : RequestContext}
      (hw : s.workers worker = .entered request context .frameQueue)
      {frameScheduler : FrameScheduler F} {frame : FrameScheduler.OutputFrame F}
      (hfill : s.controller.frameScheduler.fillFrame request.schedulerRequest
        context.maxFrameHoldTime context.clock = some (frameScheduler, frame)) :
      StepCase s (.work worker)
        ({ s with controller := { s.controller with
            frameScheduler := frameScheduler } }.setWorker worker .idle)
        [⟨worker, frame.points.map fun (p : Emitted F) => ⟨.none, p.point⟩⟩]
  | copy (worker : ℕ) {request : FrameFillRequest} {context : RequestContext}
      {callback : RequestPointsCallback τ F}
      (hw : s.workers worker = .entered request context .pointCallback)
      (hcallback : s.controller.requestPointsCallback = some callback) :
      StepCase s (.work worker) (s.setWorker worker (.copied request context callback)) []
  | extract (worker : ℕ) {request : FrameFillRequest} {context : RequestContext}
      {callback : RequestPointsCallback τ F}
      (hw : s.workers worker = .copied request context callback)
      {controller : LaserController τ F D} {frame : Option (List (Stamped τ F))}
      (hextract : s.controller.extractFrame request context callback = some (controller, frame)) :
      StepCase s (.work worker) ({ s with controller := controller }.setWorker worker .idle)
        [⟨worker, (frame.getD []).map fun (p : Stamped τ F) => ⟨some p.stamp, p.point⟩⟩]
  | call (call : SourceCall τ F) (hfree : s.holder = .none) :
      StepCase s (.call call) { s with holder := some (call.sections s.controller) } []
  | proceed {current : SourceSection τ F} {rest : List (SourceSection τ F)}
      (hheld : s.holder = some (current :: rest)) :
      StepCase s .proceed (s.runSection current rest) []
  | release (hheld : s.holder = some []) : StepCase s .release { s with holder := .none } []

theorem step_cases {s s' : Switching τ F D} {l : SwitchStep τ F} {o : List (Delivery τ F)}
    (h : step s l = some (s', o)) : StepCase s l s' o := by
  cases l with
  | snapshot worker request context =>
    simp only [step] at h
    split at h
    · rename_i hw hfree
      simp only [Option.some.injEq, Prod.mk.injEq] at h
      obtain ⟨rfl, rfl⟩ := h
      exact .snapshot worker request context hw hfree
    · cases h
  | work worker =>
    simp only [step, work, deliver] at h
    split at h
    · cases h
    · rename_i hw
      simp only [Option.some.injEq, Prod.mk.injEq] at h
      obtain ⟨rfl, rfl⟩ := h
      exact .none worker (by simp [hw])
    · rename_i hw
      split at h
      · cases h
      · rename_i hfill
        simp only [Option.some.injEq, Prod.mk.injEq] at h
        obtain ⟨rfl, rfl⟩ := h
        exact .queued worker hw hfill
    · rename_i hw
      split at h
      · simp only [Option.some.injEq, Prod.mk.injEq] at h
        obtain ⟨rfl, rfl⟩ := h
        exact .none worker (by simp [hw])
      · split at h
        · simp only [Option.some.injEq, Prod.mk.injEq] at h
          obtain ⟨rfl, rfl⟩ := h
          exact .none worker (by simp [hw])
        · rename_i hcallback
          simp only [Option.some.injEq, Prod.mk.injEq] at h
          obtain ⟨rfl, rfl⟩ := h
          exact .copy worker hw hcallback
    · rename_i hw
      split at h
      · cases h
      · rename_i hextract
        simp only [Option.some.injEq, Prod.mk.injEq] at h
        obtain ⟨rfl, rfl⟩ := h
        exact .extract worker hw hextract
  | call call =>
    simp only [step] at h
    split at h
    · rename_i hfree
      simp only [Option.some.injEq, Prod.mk.injEq] at h
      obtain ⟨rfl, rfl⟩ := h
      exact .call call hfree
    · cases h
  | proceed =>
    simp only [step] at h
    split at h
    · rename_i hheld
      simp only [Option.some.injEq, Prod.mk.injEq] at h
      obtain ⟨rfl, rfl⟩ := h
      exact .proceed hheld
    · cases h
  | release =>
    simp only [step] at h
    split at h
    · rename_i hheld
      simp only [Option.some.injEq, Prod.mk.injEq] at h
      obtain ⟨rfl, rfl⟩ := h
      exact .release hheld
    · cases h

end Switching

end LiberaLaser
