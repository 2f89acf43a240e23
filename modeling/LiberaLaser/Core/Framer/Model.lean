import LiberaLaser.Core.Framer.Boundary

/-!
# The point stream framer

Frame-ingester transports want whole frames, where a point callback makes a stream of points. The
framer pulls points into an accumulator, cuts frames off its front at natural boundaries, and keeps
one frame more than the one it hands out, so that points live in three stores: the accumulator, the
prepared frames, and the frames returned.

A callback is any function of the invocation's number and the request; the points it makes are
stamped with its identity. Numbers that callers set enter `size_t` arithmetic modulo `2 ^ 64`; the
sizes of containers do not wrap.
-/

namespace LiberaLaser

open FloatArith Loop

variable {τ F : Type}

/-- A point callback: what its invocations produce, by their number in the life of the framer. -/
structure RequestPointsCallback (τ F : Type) where
  id : τ
  produce : ℕ → PointFillRequest → List (LaserPoint F)

/-- The record of one invocation: the callback, the request it received, the points it produced, and
the number of points in the frames returned before. -/
structure Invocation (τ F : Type) where
  callback : τ
  request : PointFillRequest
  batch : List (LaserPoint F)
  returned : ℕ

/-- A call of `extractFrame` with the settings made before it. -/
structure FramingCall (τ F : Type) where
  nominalFrameSize : ℕ
  maxFrameSize : ℕ
  virtualBufferTarget : ℕ
  transportBufferedPoints : ℕ
  callback : Option (RequestPointsCallback τ F)
  templateRequest : PointFillRequest

/-- The state of the framer. The last two fields are history variables: the invocations so far, and
the number of points in the frames returned so far. -/
structure PointStreamFramer (τ F : Type) where
  accumulator : List (Stamped τ F)
  preparedFrames : List (List (Stamped τ F))
  preparedPointCount : ℕ
  anchorX : F
  anchorY : F
  anchorSet : Bool
  nominalFrameSize : ℕ
  maxFrameSize : ℕ
  virtualBufferTarget : ℕ
  transportBufferedPoints : ℕ
  consecutiveForceEmits : ℕ
  totalPointsConsumed : ℕ
  invocations : List (Invocation τ F)
  returned : ℕ

namespace PointStreamFramer

def setNominalFrameSize (size : ℕ) (framer : PointStreamFramer τ F) : PointStreamFramer τ F :=
  { framer with nominalFrameSize := Nat.max size 1 }

def setMaxFrameSize (size : ℕ) (framer : PointStreamFramer τ F) : PointStreamFramer τ F :=
  { framer with maxFrameSize := Nat.max size 1 }

def setVirtualBufferTarget (size : ℕ) (framer : PointStreamFramer τ F) : PointStreamFramer τ F :=
  { framer with virtualBufferTarget := size }

def setTransportBufferedPoints (size : ℕ) (framer : PointStreamFramer τ F) :
    PointStreamFramer τ F :=
  { framer with transportBufferedPoints := size }

/-- The framer with the settings of a call. -/
def configure (call : FramingCall τ F) (framer : PointStreamFramer τ F) :
    PointStreamFramer τ F :=
  (((framer.setNominalFrameSize call.nominalFrameSize).setMaxFrameSize
    call.maxFrameSize).setVirtualBufferTarget call.virtualBufferTarget).setTransportBufferedPoints
    call.transportBufferedPoints

@[simp] theorem configure_preparedFrames (call : FramingCall τ F) (framer : PointStreamFramer τ F) :
    (framer.configure call).preparedFrames = framer.preparedFrames := rfl

@[simp] theorem configure_returned (call : FramingCall τ F) (framer : PointStreamFramer τ F) :
    (framer.configure call).returned = framer.returned := rfl

theorem one_le_configure (framer : PointStreamFramer τ F) (call : FramingCall τ F) :
    1 ≤ (framer.configure call).nominalFrameSize :=
  Nat.le_max_right _ _

def bufferedPointCount (framer : PointStreamFramer τ F) : ℕ :=
  framer.accumulator.length + framer.preparedPointCount

def preparedFrameReserveCount : ℕ := 1

/-- The anchor moves to the first point that is left. -/
def reanchor (framer : PointStreamFramer τ F) : PointStreamFramer τ F :=
  match framer.accumulator with
  | [] => { framer with anchorSet := false }
  | first :: _ => { framer with anchorX := first.point.x, anchorY := first.point.y }

/-- Cut a frame off the front of the accumulator. -/
def cut (count consecutiveForceEmits : ℕ) (framer : PointStreamFramer τ F) :
    PointStreamFramer τ F × List (Stamped τ F) :=
  ({ framer with
      accumulator := framer.accumulator.drop count
      consecutiveForceEmits := consecutiveForceEmits }.reanchor,
    framer.accumulator.take count)

variable [FloatArith F]

/-- A new framer. -/
def new : PointStreamFramer τ F where
  accumulator := []
  preparedFrames := []
  preparedPointCount := 0
  anchorX := 0.0
  anchorY := 0.0
  anchorSet := false
  nominalFrameSize := 300
  maxFrameSize := 4095
  virtualBufferTarget := 0
  transportBufferedPoints := 0
  consecutiveForceEmits := 0
  totalPointsConsumed := 0
  invocations := []
  returned := 0

/-- All points are dropped. The frame sizes stay. -/
def reset (framer : PointStreamFramer τ F) : PointStreamFramer τ F :=
  { framer with
    accumulator := []
    preparedFrames := []
    preparedPointCount := 0
    anchorX := 0.0
    anchorY := 0.0
    anchorSet := false
    virtualBufferTarget := 0
    transportBufferedPoints := 0
    consecutiveForceEmits := 0
    totalPointsConsumed := 0 }

/-- How many points the framer wants before it searches for a boundary: enough for the search
window, and enough for the backlog across the transport and the framer. -/
def pullCount (framer : PointStreamFramer τ F) : ℕ :=
  let lookaheadTarget :=
    if forceEmitFallbackCount ≤ framer.consecutiveForceEmits then
      Nat.min (toSize (ofNat framer.nominalFrameSize * 1.1 : F)) framer.maxFrameSize
    else Nat.min (framer.nominalFrameSize * 4 % 2 ^ 64) framer.maxFrameSize
  let accumulatorDeficit := lookaheadTarget - framer.accumulator.length
  let totalBuffered :=
    (framer.transportBufferedPoints + framer.preparedPointCount + framer.accumulator.length) %
      2 ^ 64
  let desiredBufferedPoints := Nat.max framer.virtualBufferTarget lookaheadTarget
  let backlogDeficit := desiredBufferedPoints - totalBuffered
  Nat.max accumulatorDeficit backlogDeficit

/-- Invoke the callback for some points, and append what it produces to the accumulator. -/
def pullPoints (callback : RequestPointsCallback τ F) (templateRequest : PointFillRequest)
    (count : ℕ) (framer : PointStreamFramer τ F) : PointStreamFramer τ F :=
  if count = 0 then framer
  else
    let req :=
      { templateRequest with
        minimumPointsRequired := count
        maximumPointsRequired := count
        allowShortRead := true
        currentPointIndex :=
          (templateRequest.currentPointIndex + framer.totalPointsConsumed) % 2 ^ 64 }
    let batch := callback.produce framer.invocations.length req
    { framer with
      accumulator := framer.accumulator ++ (sanitizeLaserPoints batch).map (⟨callback.id, ·⟩)
      totalPointsConsumed := (framer.totalPointsConsumed + batch.length) % 2 ^ 64
      invocations := framer.invocations ++
        [{ callback := callback.id, request := req, batch := batch, returned := framer.returned }] }

/-- Cut one frame: at a natural boundary, or else at the nominal size. -/
def extractOneFrame (framer : PointStreamFramer τ F) :
    Option (PointStreamFramer τ F × Option (List (Stamped τ F))) :=
  match framer.accumulator with
  | [] => some (framer, none)
  | first :: _ =>
    let framer :=
      if framer.anchorSet then framer
      else { framer with anchorX := first.point.x, anchorY := first.point.y, anchorSet := true }
    match findNaturalBoundary (framer.accumulator.map (·.point)) framer.nominalFrameSize
        framer.maxFrameSize framer.consecutiveForceEmits framer.anchorX framer.anchorY with
    | none => none
    | some splitIndex =>
      let (framer, framePoints) :=
        if 0 < splitIndex then framer.cut splitIndex 0
        else
          framer.cut (Nat.min framer.nominalFrameSize framer.accumulator.length)
            (framer.consecutiveForceEmits + 1)
      some (framer, if framePoints.isEmpty then none else some framePoints)

/-- One pass of `ensurePreparedFrames`. -/
def preparePass (callback : RequestPointsCallback τ F) (templateRequest : PointFillRequest)
    (desiredReadyFrames : ℕ) (framer : PointStreamFramer τ F) :
    Option (Pass (PointStreamFramer τ F) (PointStreamFramer τ F)) :=
  if desiredReadyFrames ≤ framer.preparedFrames.length then some (.done framer)
  else
    let framer := framer.pullPoints callback templateRequest framer.pullCount
    if framer.accumulator.isEmpty then some (.done framer)
    else
      match framer.extractOneFrame with
      | none => none
      | some (framer, none) => some (.done framer)
      | some (framer, some preparedFrame) =>
        some (.again { framer with
          preparedPointCount := framer.preparedPointCount + preparedFrame.length
          preparedFrames := framer.preparedFrames ++ [preparedFrame] })

def ensurePreparedFrames (callback : RequestPointsCallback τ F)
    (templateRequest : PointFillRequest) (desiredReadyFrames : ℕ)
    (framer : PointStreamFramer τ F) : Option (PointStreamFramer τ F) :=
  run (preparePass callback templateRequest desiredReadyFrames) (desiredReadyFrames + 1) framer

/-- The first prepared frame leaves the framer. -/
def handOut (front : List (Stamped τ F)) (rest : List (List (Stamped τ F)))
    (framer : PointStreamFramer τ F) : PointStreamFramer τ F :=
  { framer with
    preparedFrames := rest
    preparedPointCount := framer.preparedPointCount - front.length
    returned := framer.returned + front.length }

/-- Hand out the first prepared frame. There is none where the callback is empty or produces
nothing. -/
def extractFrame (callback : Option (RequestPointsCallback τ F))
    (templateRequest : PointFillRequest) (framer : PointStreamFramer τ F) :
    Option (PointStreamFramer τ F × Option (List (Stamped τ F))) :=
  match callback with
  | none => some (framer, none)
  | some callback =>
    match framer.ensurePreparedFrames callback templateRequest (1 + preparedFrameReserveCount) with
    | none => none
    | some framer =>
      match framer.preparedFrames with
      | [] => some (framer, none)
      | front :: rest =>
        some (framer.handOut front rest, if front.isEmpty then none else some front)

end PointStreamFramer

end LiberaLaser
