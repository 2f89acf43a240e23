import LiberaLaser.Backends.LightSpaceNet.Pattern
import LiberaLaser.Core.Controller.ContentCalls

/-!
# The LightSpaceNet worker

The worker of a LightSpaceNet controller asks for one whole frame after another and uploads it as a
pattern, no more often than a pattern takes to play; the device replays the pattern that was
uploaded last. A pass takes a snapshot of the content source, copies a point callback in a section
of its own, and makes the frame in another, and calls of the application may run in between. The
calls themselves run one after another.

Every send succeeds. Commands, heartbeats, the coordinates of a packet, timing logs and the pauses
of the worker are left out. The render time that a pass estimates, and the points it believes to be
buffered, may be any.
-/

namespace LiberaLaser

open FloatArith LightSpaceNet LaserController

variable {τ F D : Type}

/-- The settings of a controller, with the frame hold time in ticks. The interval is in
milliseconds. -/
structure LightSpaceNetSettings where
  patternPointLimit : ℕ
  patternUpdateInterval : ℕ
  maxFrameHoldTime : Duration
  limit_pos : 0 < patternPointLimit
  limit_le : patternPointLimit ≤ maxSourceFramePoints

/-- What supplied a pass: a callback, or the frame at the front of the queue and the time it was
first played. -/
inductive Supplier (τ : Type)
  | callback (id : τ)
  | frame (serial : ℕ) (firstPlayTime : TimePoint)
  deriving DecidableEq

/-- The pattern that the device replays. The origins of the points of its frame are a history
variable, and so are the sources of its lit colours. -/
structure RetainedPattern (τ F : Type) where
  points : List (LaserPoint F) := []
  origins : List (ContentOrigin τ) := []
  lights : List (Option (Supplier τ)) := []
  deriving DecidableEq

/-- How far the worker has come with a pass that got past its gate at some time and point rate. -/
inductive PatternPass (τ F : Type)
  | idle
  | entered (now : TimePoint) (activePointRate : ℕ) (source : ContentSource)
  | copied (now : TimePoint) (activePointRate : ℕ) (callback : RequestPointsCallback τ F)

/-- A pass at its end: when it got past the gate, what supplied it, and the pattern on the
device. -/
structure PatternReport (τ F : Type) where
  now : TimePoint
  supplier : Option (Supplier τ)
  retained : RetainedPattern τ F
  deriving DecidableEq

/-- What a pass reads: the render time it estimates, the target latency in milliseconds, the clock,
in ticks after the time of the gate, the points buffered in the transport, and when the upload is
done. -/
structure PassReading where
  estimatedFirstPointRenderTime : TimePoint := 0
  targetLatency : ℕ := 0
  elapsed : ℕ → ℕ := fun _ => 0
  transportBufferedPoints : ℕ := 0
  sendDone : ℕ := 0

/-- The state of the worker. What the device retains is in the last field but one, and in the last
the sources of the colours that wait in the delay line, a history variable. -/
structure LightSpaceNetController (τ F D : Type) where
  controller : LaserController τ F D
  networkConnected : Bool := false
  pass : PatternPass τ F := .idle
  minimumQueuedFramePointCount : ℕ := 1
  nextPatternSendTime : TimePoint := 0
  lastSentPatternWasBlank : Bool := false
  currentPointIndex : ℕ := 0
  retained : RetainedPattern τ F := {}
  delayed : List (Option (Supplier τ)) := []

/-- The steps: the worker begins a pass or goes on with it, the application calls, the output stage
is set, which may clear its delay line, and the connection is made or closed between two passes. -/
inductive LightSpaceNetTurn (τ F D : Type)
  | begin (now : TimePoint)
  | proceed (reading : PassReading)
  | call (call : ContentCall τ F)
  | setOutput (stage : OutputStage F D) (clearsLine : Bool)
  | connect (pointRate : ℕ)
  | close

/-- The largest `std::size_t`. -/
def maximumFramePoints : ℕ := 2 ^ 64 - 1

def repeatedBlankPollInterval : Duration := 5000000

/-- In ticks. -/
def pointPlaybackDuration (D : Type) [FloatArith D] (pointCount pointRate : ℕ) : Duration :=
  if pointCount = 0 ∨ pointRate = 0 then 0
  else trunc (ofNat pointCount / ofNat pointRate * 1000000000.0 : D)

def pointCountForDuration (millis pointRate : ℕ) : ℕ :=
  if millis = 0 ∨ pointRate = 0 then 0 else (millis * pointRate + 999) / 1000

/-- The frame that stands at the front of a queue, if it was played. -/
def frontSupplier (s : FrameScheduler F) : Option (Supplier τ) :=
  match s.frameQueue with
  | [] => none
  | front :: _ =>
    if 0 < front.playCount then some (.frame front.serial front.firstPlayTime) else none

/-- The sources of the colours that come out with the points of one source, and of those that wait
in the delay line then. They take the way of the colours through the output stage. -/
def colourSources [FloatArith D] (stage : OutputStage F D) (delayed : List (Option (Supplier τ)))
    (source : Option (Supplier τ)) (pointCount : ℕ) :
    List (Option (Supplier τ)) × List (Option (Supplier τ)) :=
  if stage.bypassed then (List.replicate pointCount source, [])
  else
    DelayLine.shift (DelayLine.resize stage.shiftPointCount none delayed)
      (List.replicate pointCount source)

/-- The sources of the lit colours among those of some points. -/
def litSources [FloatArith F] (points : List (LaserPoint F))
    (sources : List (Option (Supplier τ))) : List (Option (Supplier τ)) :=
  ((points.zip sources).filter fun c => !decide (Dim c.1)).map Prod.snd

namespace LightSpaceNetController

/-! ## Requests -/

/-- The request that a pass makes. -/
def frameRequest (settings : LightSpaceNetSettings) (reading : PassReading)
    (s : LightSpaceNetController τ F D) : FrameFillRequest where
  maximumPointsRequired := maximumFramePoints
  preferredPointCount := settings.patternPointLimit
  blankFramePointCount := settings.patternPointLimit
  estimatedFirstPointRenderTime := reading.estimatedFirstPointRenderTime
  currentPointIndex := s.currentPointIndex
  advanceWhenAvailable := true
  repeatCurrentFrameWhenIdle := false

def requestContext (settings : LightSpaceNetSettings) (now : TimePoint) (reading : PassReading) :
    RequestContext where
  maxFrameHoldTime := settings.maxFrameHoldTime
  targetLatency := reading.targetLatency
  clock k := now + reading.elapsed k
  transportBufferedPoints := reading.transportBufferedPoints

def minimumQueuedFramePointCountForReadiness (s : LightSpaceNetController τ F D) : ℕ :=
  Nat.max s.minimumQueuedFramePointCount 1

/-- The worker looks for other content soon. -/
def pollSoon (now : TimePoint) (s : LightSpaceNetController τ F D) :
    LightSpaceNetController τ F D :=
  { s with nextPatternSendTime := now + repeatedBlankPollInterval }

/-- The end of a pass. -/
def finish (now : TimePoint) (supplier : Option (Supplier τ)) (s : LightSpaceNetController τ F D) :
    LightSpaceNetController τ F D × List (PatternReport τ F) :=
  ({ s with pass := .idle }, [⟨now, supplier, s.retained⟩])

variable [FloatArith F] [FloatArith D]

/-- What becomes of the frame that a request returned. A frame with points is not empty after the
padding, so that the second check for points is left out. -/
def submitPattern (settings : LightSpaceNetSettings) (now : TimePoint) (activePointRate : ℕ)
    (reading : PassReading) (frame : List (Stamped (ContentOrigin τ) F))
    (sources : List (Option (Supplier τ))) (s : LightSpaceNetController τ F D) :
    LightSpaceNetController τ F D :=
  if frame.isEmpty then s.pollSoon now
  else
    let pointsToSend := currentPattern settings.patternPointLimit (frame.map Stamped.point)
    let patternBlank := patternPointsAreBlank pointsToSend
    if patternBlank && s.lastSentPatternWasBlank then s.pollSoon now
    else
      let packetBytes := pointStreamPacketSize pointsToSend.length
      if packetBytes = 0 ∨ maxCurrentPatternPacketBytes < packetBytes then s
      else
        let transportPointCost :=
          if patternBlank then
            Nat.max pointsToSend.length s.minimumQueuedFramePointCountForReadiness
          else pointsToSend.length
        { s with
          nextPatternSendTime := now + reading.sendDone +
            Max.max (pointPlaybackDuration D transportPointCost activePointRate)
              (settings.patternUpdateInterval * 1000000)
          currentPointIndex := (s.currentPointIndex + pointsToSend.length) % 2 ^ 64
          lastSentPatternWasBlank := patternBlank
          retained :=
            { points := pointsToSend
              origins := frame.map Stamped.stamp
              lights := litSources (frame.map Stamped.point) sources } }

/-- The start of a pass. Before its time, or without a point rate, it ends at the gate. -/
def enterPass (now : TimePoint) (s : LightSpaceNetController τ F D) :
    LightSpaceNetController τ F D :=
  if s.controller.stage.pointRate = 0 then s
  else if s.nextPatternSendTime ≠ 0 ∧ now < s.nextPatternSendTime then s
  else
    { s with
      pass := .entered now s.controller.stage.pointRate s.controller.activeSource }

/-- The next section of a pass. Where the request returns `false`, nothing is uploaded. -/
def proceedPass (settings : LightSpaceNetSettings) (reading : PassReading)
    (s : LightSpaceNetController τ F D) :
    Option (LightSpaceNetController τ F D × List (PatternReport τ F)) :=
  let request := s.frameRequest settings reading
  match s.pass with
  | .idle => none
  | .entered now _ .none => some (s.finish now none)
  | .entered now activePointRate .frameQueue =>
    let context := requestContext settings now reading
    match s.controller.frameScheduler.fillFrame request.schedulerRequest context.maxFrameHoldTime
        context.clock with
    | none => none
    | some (frameScheduler, frame) =>
      let (controller, points) :=
        { s.controller with frameScheduler := frameScheduler }.handOut (ofQueue frame.points)
      let (sources, delayed) := colourSources s.controller.stage s.delayed
        (frontSupplier frameScheduler) frame.points.length
      some (({ s with controller := controller, delayed := delayed }.submitPattern settings now
        activePointRate reading points sources).finish now (frontSupplier frameScheduler))
  | .entered now activePointRate .pointCallback =>
    if request.preferredFrameSize = 0 then some (s.finish now none)
    else
      match s.controller.requestPointsCallback with
      | none => some (s.finish now none)
      | some callback => some ({ s with pass := .copied now activePointRate callback }, [])
  | .copied now activePointRate callback =>
    match s.controller.extractFrame request (requestContext settings now reading) callback with
    | none => none
    | some (controller, none) => some ({ s with controller := controller }.finish now none)
    | some (controller, some frame) =>
      let (controller, points) :=
        controller.handOut (frame.map fun p => ⟨.callback p.stamp, p.point⟩)
      let (sources, delayed) := colourSources s.controller.stage s.delayed
        (some (.callback callback.id)) frame.length
      some (({ s with controller := controller, delayed := delayed }.submitPattern settings now
        activePointRate reading points sources).finish now (some (.callback callback.id)))

/-! ## The application and the connection -/

/-- Queued frames are to be counted as the pattern they become, or as the points that play while
another may not be uploaded. -/
def updateFrameReadinessBackpressure (settings : LightSpaceNetSettings)
    (s : LightSpaceNetController τ F D) : LightSpaceNetController τ F D :=
  { s with
    minimumQueuedFramePointCount := Nat.max (Nat.max settings.patternPointLimit
      (pointCountForDuration settings.patternUpdateInterval s.controller.stage.pointRate)) 1 }

def setPointRate (settings : LightSpaceNetSettings) (pointRateValue : ℕ)
    (s : LightSpaceNetController τ F D) : LightSpaceNetController τ F D :=
  { s with
    controller := { s.controller with
      stage := s.controller.stage.setPointRate (clampPointRate pointRateValue) }
  }.updateFrameReadinessBackpressure settings

/-- A call of the application. A frame that it submits has a size that fits a `std::size_t`. -/
def applicationCall (settings : LightSpaceNetSettings) (s : LightSpaceNetController τ F D) :
    ContentCall τ F → Option (LightSpaceNetController τ F D)
  | .requestPoints _ _ _ | .requestFrame _ _ => none
  | .setPointRate pointRateValue => some (s.setPointRate settings pointRateValue)
  | .sendFrame points time context =>
    if points.length < 2 ^ 64 then
      (contentStep s.controller (.sendFrame points time context)).map fun r =>
        { s with controller := r.1 }
    else none
  | .trySendFrame points time context contentSourceFree schedulerFree =>
    if points.length < 2 ^ 64 then
      (contentStep s.controller (.trySendFrame points time context contentSourceFree
        schedulerFree)).map fun r => { s with controller := r.1 }
    else none
  | call => (contentStep s.controller call).map fun r => { s with controller := r.1 }

def connectToStatus (settings : LightSpaceNetSettings) (pointRate : ℕ)
    (s : LightSpaceNetController τ F D) : LightSpaceNetController τ F D :=
  { { s with
      controller := { s.controller with
        stage := (s.controller.stage.setPointRate pointRate).resetStartupBlank }
    }.updateFrameReadinessBackpressure settings with
    networkConnected := true
    nextPatternSendTime := 0
    lastSentPatternWasBlank := false
    currentPointIndex := 0
    delayed := [] }

/-- The device is left with a blank pattern. -/
def close (settings : LightSpaceNetSettings) (s : LightSpaceNetController τ F D) :
    LightSpaceNetController τ F D :=
  { s with
    networkConnected := false
    lastSentPatternWasBlank := false
    retained :=
      if s.networkConnected then { points := makeBlankPatternPoints settings.patternPointLimit }
      else s.retained }

/-- The step function. -/
def step (settings : LightSpaceNetSettings) (s : LightSpaceNetController τ F D) :
    LightSpaceNetTurn τ F D → Option (LightSpaceNetController τ F D × List (PatternReport τ F))
  | .begin now =>
    match s.pass, s.networkConnected with
    | .idle, true => some (s.enterPass now, [])
    | _, _ => none
  | .proceed reading => s.proceedPass settings reading
  | .call call => (s.applicationCall settings call).map (·, [])
  | .setOutput stage clearsLine =>
    some ({ s with
      controller := { s.controller with
        stage := { stage with
          pointRate := s.controller.stage.pointRate
          scannerSyncColourDelayLine :=
            if clearsLine then [] else s.controller.stage.scannerSyncColourDelayLine } }
      delayed := if clearsLine then [] else s.delayed }, [])
  | .connect pointRate =>
    match s.pass with
    | .idle => some (s.connectToStatus settings pointRate, [])
    | _ => none
  | .close =>
    match s.pass with
    | .idle => some (s.close settings, [])
    | _ => none

end LightSpaceNetController

end LiberaLaser
