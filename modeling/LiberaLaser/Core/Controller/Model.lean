import LiberaLaser.Core.Framer.Conservation
import LiberaLaser.Core.Scheduler.System
import LiberaLaser.Core.Streaming.PostProcess

/-!
# The laser controller

`LaserController` feeds a transport from one of two sources: the frame queue of the scheduler, or a
point callback that the framer turns into frames. `requestFrame` takes a snapshot of the source,
makes a frame from it, and post-processes the points. It is composed here of the sections that it
runs under different mutexes, which may interleave with the calls that switch the source.

A call reads the global frame hold time and target latency, the clock, and the transport's own
estimate of its buffer.
-/

namespace LiberaLaser

open FloatArith OutputStage PointStreamFramer

variable {τ F D : Type}

/-- Where the points come from. -/
inductive ContentSource
  | none
  | pointCallback
  | frameQueue
  deriving DecidableEq

/-- A frame-ingester backend's request for one frame. -/
structure FrameFillRequest where
  maximumPointsRequired : ℕ := 0
  preferredPointCount : ℕ := 0
  blankFramePointCount : ℕ := 0
  estimatedFirstPointRenderTime : TimePoint := 0
  currentPointIndex : ℕ := 0
  advanceWhenAvailable : Bool := false
  repeatCurrentFrameWhenIdle : Bool := true
  deriving DecidableEq

/-- What a call reads beside the request and the controller: the frame hold time in ticks, the
target latency in milliseconds, the readings of the clock, and the points buffered in the transport.
-/
structure RequestContext where
  maxFrameHoldTime : Duration
  targetLatency : ℕ
  clock : ℕ → TimePoint
  transportBufferedPoints : ℕ

/-- The state of a controller. The framer is made on its first use, in the state it is new in. -/
structure LaserController (τ F D : Type) where
  activeSource : ContentSource
  frameScheduler : FrameScheduler F
  requestPointsCallback : Option (RequestPointsCallback τ F)
  pointStreamFramer : PointStreamFramer τ F
  stage : OutputStage F D

/-- The frame size that a callback-mode request asks the framer for. -/
def FrameFillRequest.preferredFrameSize (request : FrameFillRequest) : ℕ :=
  let preferredPointCount :=
    if request.preferredPointCount = 0 then request.blankFramePointCount
    else request.preferredPointCount
  let preferredPointCount :=
    if preferredPointCount = 0 then request.maximumPointsRequired else preferredPointCount
  if 0 < request.maximumPointsRequired then
    Nat.min preferredPointCount request.maximumPointsRequired
  else preferredPointCount

/-- The request that is handed on to the callback. -/
def FrameFillRequest.templateRequest (request : FrameFillRequest) : PointFillRequest :=
  { estimatedFirstPointRenderTime := request.estimatedFirstPointRenderTime
    currentPointIndex := request.currentPointIndex }

/-- The request that is handed on to the scheduler. -/
def FrameFillRequest.schedulerRequest (request : FrameFillRequest) : FramePullRequest :=
  { maximumPointsRequired := request.maximumPointsRequired
    blankFramePointCount := request.blankFramePointCount
    estimatedFirstPointRenderTime := request.estimatedFirstPointRenderTime
    currentPointIndex := request.currentPointIndex
    advanceWhenAvailable := request.advanceWhenAvailable
    repeatCurrentFrameWhenIdle := request.repeatCurrentFrameWhenIdle }

namespace LaserController

variable [FloatArith F] [FloatArith D]

/-- A new controller. -/
def new : LaserController τ F D where
  activeSource := .none
  frameScheduler := {}
  requestPointsCallback := none
  pointStreamFramer := .new
  stage := .new

/-! ## The content source -/

def resetPointCallbackAdapterState (c : LaserController τ F D) : LaserController τ F D :=
  { c with pointStreamFramer := c.pointStreamFramer.reset }

def clearPointCallback (c : LaserController τ F D) : LaserController τ F D :=
  let c := { c with requestPointsCallback := none }
  if c.activeSource = .pointCallback then
    { c.resetPointCallbackAdapterState with activeSource := .none }
  else c

/-- An empty callback clears the source. -/
def setPointCallback (callback : Option (RequestPointsCallback τ F)) (c : LaserController τ F D) :
    LaserController τ F D :=
  match callback with
  | none => c.clearPointCallback
  | some callback =>
    let c := { c with frameScheduler := c.frameScheduler.reset }.resetPointCallbackAdapterState
    { c with requestPointsCallback := some callback, activeSource := .pointCallback }

def clearPointCallbackPrefetch (c : LaserController τ F D) : LaserController τ F D :=
  if c.activeSource = .pointCallback then c.resetPointCallbackAdapterState else c

/-! ## Frame requests -/

def pointCallbackVirtualBufferTarget (pointRate targetLatency nominalFramePoints : ℕ) : ℕ :=
  millisToPoints pointRate (ofNat targetLatency : D) + Nat.max nominalFramePoints 1

/-- The framer's settings for a request, and what the framer is called with. -/
def framingCall (request : FrameFillRequest) (context : RequestContext)
    (callback : RequestPointsCallback τ F) (c : LaserController τ F D) : FramingCall τ F :=
  let preferredPointCount := request.preferredFrameSize
  { nominalFrameSize := preferredPointCount
    maxFrameSize :=
      if 0 < request.maximumPointsRequired then request.maximumPointsRequired
      else preferredPointCount
    virtualBufferTarget := pointCallbackVirtualBufferTarget (D := D) c.stage.pointRate
      context.targetLatency preferredPointCount
    transportBufferedPoints := context.transportBufferedPoints
    callback := some callback
    templateRequest := request.templateRequest }

/-- The section under the framer's mutex: settings, and the extraction of a frame. -/
def extractFrame (request : FrameFillRequest) (context : RequestContext)
    (callback : RequestPointsCallback τ F) (c : LaserController τ F D) :
    Option (LaserController τ F D × Option (List (Stamped τ F))) :=
  let framer := c.pointStreamFramer.configure (c.framingCall request context callback)
  match framer.extractFrame (some callback) request.templateRequest with
  | none => none
  | some (framer, frame) => some ({ c with pointStreamFramer := framer }, frame)

/-- Post-process the points of a frame. -/
def postProcess (points : List (LaserPoint F)) (c : LaserController τ F D) :
    LaserController τ F D × List (LaserPoint F) :=
  let (stage, points) := c.stage.postProcessOutputPoints points
  ({ c with stage := stage }, points)

/-- A request in callback mode. -/
def requestCallbackFrame (request : FrameFillRequest) (context : RequestContext)
    (c : LaserController τ F D) :
    Option (LaserController τ F D × Option (List (LaserPoint F))) :=
  if request.preferredFrameSize = 0 then some (c, none)
  else
    match c.requestPointsCallback with
    | none => some (c, none)
    | some callback =>
      match c.extractFrame request context callback with
      | none => none
      | some (c, none) => some (c, none)
      | some (c, some frame) =>
        let (c, points) := c.postProcess (frame.map Stamped.point)
        some (c, some points)

/-- A request in frame-queue mode. -/
def requestQueuedFrame (request : FrameFillRequest) (context : RequestContext)
    (c : LaserController τ F D) :
    Option (LaserController τ F D × Option (List (LaserPoint F))) :=
  match c.frameScheduler.fillFrame request.schedulerRequest context.maxFrameHoldTime
      context.clock with
  | none => none
  | some (frameScheduler, frame) =>
    let (c, points) :=
      { c with frameScheduler := frameScheduler }.postProcess (frame.points.map Stamped.point)
    some (c, some points)

/-- The points of the frame returned, or nothing where `requestFrame` returns `false`. -/
def requestFrame (request : FrameFillRequest) (context : RequestContext)
    (c : LaserController τ F D) :
    Option (LaserController τ F D × Option (List (LaserPoint F))) :=
  match c.activeSource with
  | .pointCallback => c.requestCallbackFrame request context
  | .frameQueue => c.requestQueuedFrame request context
  | .none => some (c, none)

end LaserController

end LiberaLaser
