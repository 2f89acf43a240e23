import LiberaLaser.Core.Controller.Model

/-!
# Calls and requests of a controller

The calls of an application submit, install or clear content, and the output worker requests points
or frames. They run one after another. A point that is handed out carries its origin; without the
origins the requests are those of the controller (`requestFrameOrigins_eq`).
-/

namespace LiberaLaser

open FloatArith OutputStage FrameScheduler

variable {τ F D : Type}

/-- What a point that is handed out is: a point of a callback, or an output point of the queue. The
padding of a request counts as a blank of the queue. -/
inductive ContentOrigin (τ : Type)
  | callback (id : τ)
  | queue (origin : Origin)
  deriving DecidableEq

/-- What a submission reads beside the frame: the clock, the target latency in milliseconds (once
for the stamp, once for the budget), and the settings of the transport. -/
structure SubmissionContext where
  now : TimePoint := 0
  stampLatency : ℕ := 100
  targetLatency : ℕ := 100
  queuedFramePointBudgetOverride : Option ℕ := none
  minimumQueuedFramePointCount : ℕ := 1

def SubmissionContext.minimumQueuedFramePointCountForReadiness (context : SubmissionContext) : ℕ :=
  Nat.max context.minimumQueuedFramePointCount 1

section Points

variable [FloatArith F]

/-- A submitted frame is sanitised, and stamped where it has no time. -/
def prepareFrame (context : SubmissionContext) (frame : Frame F) : Frame F :=
  let frame := { frame with points := sanitizeLaserPoints frame.points }
  if frame.time = 0 then { frame with time := context.now + context.stampLatency * 1000000 }
  else frame

/-- The time that a frame is scheduled for. -/
def stampedTime (context : SubmissionContext) (time : TimePoint) : TimePoint :=
  if time = 0 then context.now + context.stampLatency * 1000000 else time

theorem prepareFrame_eq (context : SubmissionContext) (points : List (LaserPoint F))
    (time : TimePoint) :
    prepareFrame context { points := points, time := time } =
      { points := sanitizeLaserPoints points, time := stampedTime context time } := by
  unfold prepareFrame stampedTime
  dsimp only
  split <;> rfl

/-- Points clamped to the maximum of a request, or padded up to its minimum. -/
def meetRequest (request : PointFillRequest) (points : List (Stamped (ContentOrigin τ) F)) :
    List (Stamped (ContentOrigin τ) F) :=
  if request.maximumPointsRequired < points.length then points.take request.maximumPointsRequired
  else if points.length < request.minimumPointsRequired then
    points ++ List.replicate (request.minimumPointsRequired - points.length)
      ⟨.queue .blank, default⟩
  else points

end Points

/-- The points of the queue on their way out. -/
def ofQueue (points : List (Emitted F)) : List (Stamped (ContentOrigin τ) F) :=
  points.map fun p => ⟨.queue p.stamp, p.point⟩

namespace LaserController

/-! ## The calls -/

/-- The frame queue takes over. -/
def useFrameQueue (c : LaserController τ F D) [FloatArith F] : LaserController τ F D :=
  if c.activeSource = .frameQueue then c
  else
    { c.resetPointCallbackAdapterState with
      requestPointsCallback := none, activeSource := .frameQueue }

def clearFrameQueue (c : LaserController τ F D) : LaserController τ F D :=
  let c := { c with frameScheduler := c.frameScheduler.reset }
  if c.activeSource = .frameQueue then { c with activeSource := .none } else c

variable [FloatArith F] [FloatArith D]

def clearContentSource (c : LaserController τ F D) : LaserController τ F D :=
  { { c with requestPointsCallback := none, frameScheduler := c.frameScheduler.reset
    }.resetPointCallbackAdapterState with activeSource := .none }

/-- The number of points that may be queued while another frame is accepted. -/
def queuedPointBudget (context : SubmissionContext) (c : LaserController τ F D) : ℕ :=
  match context.queuedFramePointBudgetOverride with
  | some pointBudget => pointBudget
  | none =>
    let latencyPoints := millisToPoints c.stage.pointRate (ofNat context.targetLatency : D)
    let nominalFramePoints :=
      Nat.max (Nat.max c.frameScheduler.nominalFramePointCount
        context.minimumQueuedFramePointCountForReadiness) 1
    let framesFloor := if 0 < latencyPoints then nominalFramePoints * 3 % 2 ^ 64 else 0
    Nat.max ((latencyPoints + nominalFramePoints) % 2 ^ 64) framesFloor

/-- Submit a frame. The result says whether it was accepted. -/
def sendFrame (frame : Frame F) (context : SubmissionContext) (c : LaserController τ F D) :
    LaserController τ F D × Bool :=
  if frame.points.isEmpty then (c, false)
  else
    let frame := prepareFrame context frame
    let c := c.useFrameQueue
    if c.queuedPointBudget context < c.frameScheduler.queuedPointCountUnsafe
        context.minimumQueuedFramePointCountForReadiness then (c, false)
    else
      let (frameScheduler, accepted) := c.frameScheduler.enqueueFrame frame
      ({ c with frameScheduler := frameScheduler }, accepted)

/-- Submit a frame without waiting. The flags are the outcomes of the two `try_lock`s. -/
def trySendFrame (frame : Frame F) (context : SubmissionContext)
    (contentSourceFree schedulerFree : Bool) (c : LaserController τ F D) :
    LaserController τ F D × Bool :=
  if frame.points.isEmpty then (c, false)
  else
    let frame := prepareFrame context frame
    if !contentSourceFree then (c, false)
    else
      let c := c.useFrameQueue
      let (frameScheduler, accepted) := c.frameScheduler.tryEnqueueFrameIfReady frame
        (c.queuedPointBudget context) context.minimumQueuedFramePointCountForReadiness schedulerFree
      ({ c with frameScheduler := frameScheduler }, accepted)

/-! ## Requests -/

/-- Post-process some points, which keep their origins. -/
def handOut (points : List (Stamped (ContentOrigin τ) F)) (c : LaserController τ F D) :
    LaserController τ F D × List (Stamped (ContentOrigin τ) F) :=
  let (c, processed) := c.postProcess (points.map Stamped.point)
  (c, List.zipWith Stamped.mk (points.map Stamped.stamp) processed)

/-- A request for points, or nothing where `requestPoints` returns `false`. The callback is invoked
for the time given by `invocation`. -/
def requestPoints (request : PointFillRequest) (context : RequestContext) (invocation : ℕ)
    (c : LaserController τ F D) :
    Option (LaserController τ F D × Option (List (Stamped (ContentOrigin τ) F))) :=
  match c.activeSource with
  | .pointCallback =>
    match c.requestPointsCallback with
    | none => some (c, none)
    | some callback =>
      let points := meetRequest request
        ((callback.produce invocation request).map (⟨.callback callback.id, ·⟩))
      let (c, points) := c.handOut
        (points.map fun p => { p with point := sanitizeLaserPoint p.point })
      some (c, some points)
  | .frameQueue =>
    match c.frameScheduler.fillPoints D request c.stage.pointRate context.maxFrameHoldTime
        context.clock with
    | none => none
    | some (frameScheduler, points) =>
      let (c, points) :=
        { c with frameScheduler := frameScheduler }.handOut (meetRequest request (ofQueue points))
      some (c, some points)
  | .none => some (c, none)

/-- `requestFrame` with the origins of the points. -/
def requestFrameOrigins (request : FrameFillRequest) (context : RequestContext)
    (c : LaserController τ F D) :
    Option (LaserController τ F D × Option (List (Stamped (ContentOrigin τ) F))) :=
  match c.activeSource with
  | .pointCallback =>
    if request.preferredFrameSize = 0 then some (c, none)
    else
      match c.requestPointsCallback with
      | none => some (c, none)
      | some callback =>
        match c.extractFrame request context callback with
        | none => none
        | some (c, none) => some (c, none)
        | some (c, some frame) =>
          let (c, points) := c.handOut (frame.map fun p => ⟨.callback p.stamp, p.point⟩)
          some (c, some points)
  | .frameQueue =>
    match c.frameScheduler.fillFrame request.schedulerRequest context.maxFrameHoldTime
        context.clock with
    | none => none
    | some (frameScheduler, frame) =>
      let (c, points) := { c with frameScheduler := frameScheduler }.handOut (ofQueue frame.points)
      some (c, some points)
  | .none => some (c, none)

/-- The origins are all that post-processing loses. -/
theorem handOut_eq (points : List (Stamped (ContentOrigin τ) F)) (c : LaserController τ F D) :
    (c.handOut points).1 = (c.postProcess (points.map Stamped.point)).1 ∧
      (c.handOut points).2.map Stamped.stamp = points.map Stamped.stamp ∧
      (c.handOut points).2.map Stamped.point =
        (c.postProcess (points.map Stamped.point)).2 := by
  have hlength : (c.postProcess (points.map Stamped.point)).2.length =
      (points.map Stamped.stamp).length := by
    simp only [postProcess, OutputStage.length_postProcessOutputPoints, List.length_map]
  refine ⟨rfl, ?_, ?_⟩
  · rw [handOut, List.map_zipWith]
    exact List.map_zip_eq_zipWith.symm.trans (List.map_fst_zip hlength.ge)
  · rw [handOut, List.map_zipWith]
    exact List.map_zip_eq_zipWith.symm.trans (List.map_snd_zip hlength.le)

/-- **Without the origins it is `requestFrame`.** -/
theorem requestFrameOrigins_eq (request : FrameFillRequest) (context : RequestContext)
    (c : LaserController τ F D) :
    (c.requestFrameOrigins request context).map
        (fun r => (r.1, r.2.map (List.map Stamped.point))) = c.requestFrame request context := by
  have hout : ∀ (c : LaserController τ F D) (points : List (Stamped (ContentOrigin τ) F)),
      ((c.handOut points).1, (c.handOut points).2.map Stamped.point) =
        c.postProcess (points.map Stamped.point) :=
    fun c points => Prod.ext (handOut_eq points c).1 (handOut_eq points c).2.2
  cases hsource : c.activeSource with
  | none => simp only [requestFrameOrigins, LaserController.requestFrame, hsource]; rfl
  | pointCallback =>
    simp only [requestFrameOrigins, LaserController.requestFrame, hsource, requestCallbackFrame]
    split_ifs
    · rfl
    · cases c.requestPointsCallback with
      | none => rfl
      | some callback =>
        dsimp only
        cases c.extractFrame request context callback with
        | none => rfl
        | some extracted =>
          obtain ⟨c', _ | frame⟩ := extracted
          · rfl
          · have hpoints : frame.map Stamped.point = (frame.map fun p =>
                (⟨.callback p.stamp, p.point⟩ :
                  Stamped (ContentOrigin τ) F)).map Stamped.point := by
              rw [List.map_map]
              rfl
            dsimp only
            rw [hpoints, ← hout]
            rfl
  | frameQueue =>
    simp only [requestFrameOrigins, LaserController.requestFrame, hsource, requestQueuedFrame]
    cases c.frameScheduler.fillFrame request.schedulerRequest context.maxFrameHoldTime
        context.clock with
    | none => rfl
    | some filled =>
      obtain ⟨frameScheduler, frame⟩ := filled
      have hpoints : frame.points.map Stamped.point =
          (ofQueue frame.points : List (Stamped (ContentOrigin τ) F)).map Stamped.point := by
        rw [ofQueue, List.map_map]
        rfl
      dsimp only
      rw [hpoints, ← hout]
      rfl

/-! ## The system -/

/-- A call of an application, or a request of the output worker. -/
inductive ContentCall (τ F : Type)
  | setPointCallback (callback : Option (RequestPointsCallback τ F))
  | clearPointCallback
  | clearPointCallbackPrefetch
  | sendFrame (points : List (LaserPoint F)) (time : TimePoint) (context : SubmissionContext)
  | trySendFrame (points : List (LaserPoint F)) (time : TimePoint) (context : SubmissionContext)
      (contentSourceFree schedulerFree : Bool)
  | useFrameQueue
  | clearFrameQueue
  | clearContentSource
  | setPointRate (pointRateValue : ℕ)
  | requestPoints (request : PointFillRequest) (context : RequestContext) (invocation : ℕ)
  | requestFrame (request : FrameFillRequest) (context : RequestContext)

/-- A request that returns `false` hands out no points. -/
def answer (r : LaserController τ F D × Option (List (Stamped (ContentOrigin τ) F))) :
    LaserController τ F D × List (Stamped (ContentOrigin τ) F) :=
  (r.1, r.2.getD [])

/-- A call as a step. It observes the points handed out. -/
def contentStep (c : LaserController τ F D) :
    ContentCall τ F → Option (LaserController τ F D × List (Stamped (ContentOrigin τ) F))
  | .setPointCallback callback => some (c.setPointCallback callback, [])
  | .clearPointCallback => some (c.clearPointCallback, [])
  | .clearPointCallbackPrefetch => some (c.clearPointCallbackPrefetch, [])
  | .sendFrame points time context =>
    some ((c.sendFrame { points := points, time := time } context).1, [])
  | .trySendFrame points time context contentSourceFree schedulerFree =>
    some ((c.trySendFrame { points := points, time := time } context contentSourceFree
      schedulerFree).1, [])
  | .useFrameQueue => some (c.useFrameQueue, [])
  | .clearFrameQueue => some (c.clearFrameQueue, [])
  | .clearContentSource => some (c.clearContentSource, [])
  | .setPointRate pointRateValue =>
    some ({ c with stage := c.stage.setPointRate pointRateValue }, [])
  | .requestPoints request context invocation =>
    (c.requestPoints request context invocation).map answer
  | .requestFrame request context => (c.requestFrameOrigins request context).map answer

end LaserController

end LiberaLaser
