import LiberaLaser.Core.LaserPoint
import LiberaLaser.Foundations.Loop

/-!
# The frame scheduler

The queue behind frame mode: applications submit frames, and the output worker asks for points
(`fillPoints`) or for whole transport frames (`fillFrame`). Both walk one queue whose front frame
carries a cursor, a play count and the time it was first played, replay the front frame while
nothing newer is due, and put a run of dark points in front of a frame that starts far from where
the previous one ended. What does not fit a request stays behind in `pendingTransitionPoints`.

Reading past the end of a frame, or the front of an empty queue, has no result here. A clock is
given to each call as the sequence of its `steady_clock::now()` readings. Verbose logging is left
out, and with it the readings that only feed a log line.
-/

namespace LiberaLaser

open FloatArith Loop

/-- A frame as the application submits it and as a request returns it. -/
structure Frame (F : Type) where
  points : List (LaserPoint F)
  time : TimePoint := 0
  playCount : ℕ := 0
  nextPoint : ℕ := 0
  firstPlayTime : TimePoint := 0
  deriving DecidableEq

/-- A request for one transport frame, as the scheduler sees it. -/
structure FramePullRequest where
  maximumPointsRequired : ℕ := 0
  blankFramePointCount : ℕ := 0
  estimatedFirstPointRenderTime : TimePoint := 0
  currentPointIndex : ℕ := 0
  advanceWhenAvailable : Bool := false
  repeatCurrentFrameWhenIdle : Bool := true

/-- A frame in the scheduler. The serial number is a history variable: the number of frames
submitted before this one. -/
structure QueuedFrame (F : Type) extends Frame F where
  serial : ℕ
  deriving DecidableEq

/-- What an output point is: a point of a submitted frame, a point of a dark transition, or
blank padding. -/
inductive Origin
  | content (serial index : ℕ)
  | transition
  | blank
  deriving DecidableEq

/-- An output point with its origin. -/
abbrev Emitted (F : Type) := Stamped Origin F

/-- The state of the scheduler. The last two fields are history variables: every accepted frame, in
order, and the serial numbers of the frames dropped as stale. -/
structure FrameScheduler (F : Type) where
  pendingFrames : List (QueuedFrame F) := []
  frameQueue : List (QueuedFrame F) := []
  pendingTransitionPoints : List (LaserPoint F) := []
  nominalFramePointCount : ℕ := 1
  submitted : List (Frame F) := []
  skipped : List ℕ := []
  deriving DecidableEq

/-- The points of a frame from its cursor on, at most `count` of them. -/
def QueuedFrame.chunk {F : Type} (f : QueuedFrame F) (count : ℕ) : List (Emitted F) :=
  ((f.points.drop f.nextPoint).take count).mapIdx fun j p =>
    ⟨.content f.serial (f.nextPoint + j), p⟩

namespace FrameScheduler

variable {F : Type}

/-! ## Submission -/

/-- Append an accepted frame to the pending frames. -/
def acceptFrame (frame : Frame F) (s : FrameScheduler F) : FrameScheduler F :=
  { s with
    nominalFramePointCount := Nat.max frame.points.length 1
    pendingFrames := s.pendingFrames ++ [{ toFrame := frame, serial := s.submitted.length }]
    submitted := s.submitted ++ [frame] }

def enqueueFrame (frame : Frame F) (s : FrameScheduler F) : FrameScheduler F × Bool :=
  if frame.points.isEmpty then (s, false) else (s.acceptFrame frame, true)

/-- The points still to be played, each frame counted as at least `minimumQueuedPointsPerFrame`
points. -/
def queuedPointCountUnsafe (minimumQueuedPointsPerFrame : ℕ) (s : FrameScheduler F) : ℕ :=
  let framePointFloor := Nat.max minimumQueuedPointsPerFrame 1
  ((s.pendingFrames ++ s.frameQueue).map fun frame =>
    let nextPoint := Nat.min frame.nextPoint frame.points.length
    let remainingPoints := frame.points.length - nextPoint
    if 0 < remainingPoints then Nat.max remainingPoints framePointFloor else 0).sum

/-- `lockFree` is the outcome of the `try_lock`. -/
def tryEnqueueFrameIfReady (frame : Frame F) (queuedPointBudget minimumQueuedPointsPerFrame : ℕ)
    (lockFree : Bool) (s : FrameScheduler F) : FrameScheduler F × Bool :=
  if frame.points.isEmpty then (s, false)
  else if !lockFree then (s, false)
  else if queuedPointBudget < s.queuedPointCountUnsafe minimumQueuedPointsPerFrame then (s, false)
  else (s.acceptFrame frame, true)

def reset (s : FrameScheduler F) : FrameScheduler F :=
  { s with
    pendingFrames := []
    frameQueue := []
    pendingTransitionPoints := []
    nominalFramePointCount := 1 }

/-! ## The queue -/

/-- Unscheduled frames are due at once. -/
def frameIsDueAt (frame : QueuedFrame F) (estimatedFirstRenderTime : TimePoint) : Bool :=
  frame.time = 0 || frame.time ≤ estimatedFirstRenderTime

/-- The second frame of the queue exists and is due. -/
def nextIsDueAt (rest : List (QueuedFrame F)) (renderTime : TimePoint) : Bool :=
  match rest with
  | [] => false
  | next :: _ => frameIsDueAt next renderTime

/-- Every pending frame is moved to the back of the queue. -/
def drainPendingFramesUnsafe (s : FrameScheduler F) : FrameScheduler F :=
  { s with frameQueue := s.frameQueue ++ s.pendingFrames, pendingFrames := [] }

/-- Move as many pending transition points to the output buffer as fit. -/
def drainPendingTransitionUnsafe (outputBuffer : List (Emitted F)) (maxPoints : ℕ)
    (s : FrameScheduler F) : FrameScheduler F × List (Emitted F) :=
  let spaceLeft := maxPoints - outputBuffer.length
  let toDrain := Nat.min spaceLeft s.pendingTransitionPoints.length
  ({ s with pendingTransitionPoints := s.pendingTransitionPoints.drop toDrain },
    outputBuffer ++ (s.pendingTransitionPoints.take toDrain).map (⟨.transition, ·⟩))

/-- Drop front frames that were never played while the frame behind them is due. -/
def skipStaleFrames (estimatedFirstRenderTime : TimePoint) :
    List (QueuedFrame F) → List (QueuedFrame F)
  | [] => []
  | [f] => [f]
  | f :: g :: rest =>
    if f.playCount ≠ 0 then f :: g :: rest
    else if !frameIsDueAt g estimatedFirstRenderTime then f :: g :: rest
    else skipStaleFrames estimatedFirstRenderTime (g :: rest)

/-- The serial numbers of the frames that `skipStaleFrames` drops. -/
def staleSerials (estimatedFirstRenderTime : TimePoint) : List (QueuedFrame F) → List ℕ
  | [] => []
  | [_] => []
  | f :: g :: rest =>
    if f.playCount ≠ 0 then []
    else if !frameIsDueAt g estimatedFirstRenderTime then []
    else f.serial :: staleSerials estimatedFirstRenderTime (g :: rest)

def dropStaleFrames (estimatedFirstRenderTime : TimePoint) (s : FrameScheduler F) :
    FrameScheduler F :=
  { s with
    frameQueue := skipStaleFrames estimatedFirstRenderTime s.frameQueue
    skipped := s.skipped ++ staleSerials estimatedFirstRenderTime s.frameQueue }

/-- The render time a request works with, and the number of clock readings it took. -/
def estimatedRenderTime (requested : TimePoint) (clock : ℕ → TimePoint) : TimePoint × ℕ :=
  if requested = 0 then (clock 0, 1) else (requested, 0)

/-- The first play of a frame stamps it with the time and counts. -/
def beginPlay (now : TimePoint) (frame : QueuedFrame F) : QueuedFrame F :=
  if frame.playCount = 0 then { frame with firstPlayTime := now, playCount := 1 } else frame

/-- Every pass over a frame counts; the first one stamps it with the time. -/
def beginLoop (now : TimePoint) (frame : QueuedFrame F) : QueuedFrame F :=
  if frame.nextPoint = 0 then
    { frame with
      firstPlayTime := if frame.playCount = 0 then now else frame.firstPlayTime
      playCount := frame.playCount + 1 }
  else frame

/-! ## Transitions and blanks -/

variable [FloatArith F]

def blankTransitionDistanceThreshold : F := 0.2

def blankPointsPerUnitDistance : F := 20.0

def minBlankPointsPerEnd : ℕ := 2

def pointsToMillis {D : Type} [FloatArith D] (pointCount pointRateValue : ℕ) : D :=
  if pointRateValue = 0 ∨ pointCount = 0 then 0.0
  else FloatArith.max (ofNat pointCount * 1000.0 / ofNat pointRateValue) 0.0

def cubicEaseInOut (t : F) : F :=
  let clamped := clamp t 0.0 1.0
  if lt clamped 0.5 then 4.0 * clamped * clamped * clamped
  else
    let inv := -2.0 * clamped + 2.0
    1.0 - inv * inv * inv / 2.0

def distance (a b : LaserPoint F) : F :=
  let dx := b.x - a.x
  let dy := b.y - a.y
  sqrt (dx * dx + dy * dy)

/-- The jump from the last point of a frame to the first point of the next is bridged. -/
def farApart (lastPoint firstPoint : LaserPoint F) : Bool :=
  lt blankTransitionDistanceThreshold (distance lastPoint firstPoint)

/-- The number of points of the transition between two points. -/
def transitionPointCount (a b : LaserPoint F) : ℕ :=
  let countPerEnd :=
    Nat.max minBlankPointsPerEnd (toSize (distance a b * blankPointsPerUnitDistance))
  Nat.max (countPerEnd * 2) 2

/-- A dark run from one point to another, eased in and out. -/
def generateTransitionPoints (a b : LaserPoint F) : List (LaserPoint F) :=
  let totalCount := transitionPointCount a b
  (List.range totalCount).map fun i =>
    let t : F := ofNat i / ofNat (Nat.max (totalCount - 1) 1)
    let eased := cubicEaseInOut t
    { a with
      x := a.x + (b.x - a.x) * eased
      y := a.y + (b.y - a.y) * eased
      r := 0.0
      g := 0.0
      b := 0.0
      i := 0.0 }

/-- The scheduler's blank point: dark, at the centre, without legacy intensity. -/
def blankPoint : LaserPoint F := { (default : LaserPoint F) with i := 0.0 }

def appendBlankPoints (buffer : List (Emitted F)) (count : ℕ) : List (Emitted F) :=
  buffer ++ List.replicate count ⟨.blank, blankPoint⟩

/-! ## Filling a point request -/

/-- The loop state of `fillPoints`. -/
structure PointsPass (F : Type) where
  sched : FrameScheduler F
  outputBuffer : List (Emitted F)
  reads : ℕ

/-- The end of a pass: if the front of the queue starts far from `lastPoint`, prepare the
transition to it and emit what fits. -/
def bridgeJump (maxPoints : ℕ) (lastPoint : LaserPoint F) (st : PointsPass F) :
    Option (Pass (PointsPass F) (FrameScheduler F × List (Emitted F))) :=
  match st.sched.frameQueue with
  | [] => none
  | nextFrame :: _ =>
    match nextFrame.points[nextFrame.nextPoint]? with
    | none => none
    | some firstPoint =>
      if farApart lastPoint firstPoint then
        let (sched, outputBuffer) :=
          { st.sched with
            pendingTransitionPoints := generateTransitionPoints lastPoint firstPoint
          }.drainPendingTransitionUnsafe st.outputBuffer maxPoints
        if outputBuffer.length = maxPoints then some (.done (sched, outputBuffer))
        else some (.again { st with sched := sched, outputBuffer := outputBuffer })
      else some (.again st)

/-- What a pass does once its frame is played to the end: go on to the next frame, give up a
frame that was held too long, or start the frame over. -/
def leaveFrame (renderTime : ℕ → TimePoint) (minPoints maxPoints : ℕ) (maxFrameHoldTime : Duration)
    (clock : ℕ → TimePoint) (currentFrame : QueuedFrame F) (rest : List (QueuedFrame F))
    (lastPoint : LaserPoint F) (st : PointsPass F) :
    Option (Pass (PointsPass F) (FrameScheduler F × List (Emitted F))) :=
  if nextIsDueAt rest (renderTime st.outputBuffer.length) then
    bridgeJump maxPoints lastPoint { st with sched := { st.sched with frameQueue := rest } }
  else if 0 < maxFrameHoldTime ∧ maxFrameHoldTime ≤ clock st.reads - currentFrame.firstPlayTime then
    some (.done ({ st.sched with frameQueue := rest },
      appendBlankPoints st.outputBuffer (minPoints - st.outputBuffer.length)))
  else
    let restarted := { currentFrame with nextPoint := 0, playCount := currentFrame.playCount + 1 }
    bridgeJump maxPoints lastPoint
      { st with
        sched := { st.sched with frameQueue := restarted :: rest }
        reads := if 0 < maxFrameHoldTime then st.reads + 1 else st.reads }

/-- Copy what fits of the front frame to the output buffer. -/
def copyPoints (maxPoints : ℕ) (clock : ℕ → TimePoint) (front : QueuedFrame F)
    (rest : List (QueuedFrame F)) (st : PointsPass F) : QueuedFrame F × PointsPass F :=
  let frame := beginPlay (clock st.reads) front
  let available := frame.points.length - frame.nextPoint
  let spaceLeft := maxPoints - st.outputBuffer.length
  let toAdd := Nat.min available spaceLeft
  let currentFrame := { frame with nextPoint := frame.nextPoint + toAdd }
  (currentFrame,
    { sched := { st.sched with frameQueue := currentFrame :: rest }
      outputBuffer := st.outputBuffer ++ frame.chunk toAdd
      reads := if front.playCount = 0 then st.reads + 1 else st.reads })

/-- One pass of the loop of `fillPoints`. -/
def fillPointsPass (renderTime : ℕ → TimePoint) (minPoints maxPoints : ℕ)
    (maxFrameHoldTime : Duration) (clock : ℕ → TimePoint) (st : PointsPass F) :
    Option (Pass (PointsPass F) (FrameScheduler F × List (Emitted F))) :=
  match st.sched.frameQueue with
  | [] => none
  | front :: rest =>
    if front.points.length < front.nextPoint then none
    else
      let (currentFrame, st) := copyPoints maxPoints clock front rest st
      if minPoints ≤ st.outputBuffer.length ∧
          currentFrame.points.length ≤ currentFrame.nextPoint then
        some (.done (st.sched, st.outputBuffer))
      else if st.outputBuffer.length = maxPoints then some (.done (st.sched, st.outputBuffer))
      else
        match currentFrame.points.getLast? with
        | none => none
        | some lastPoint =>
          leaveFrame renderTime minPoints maxPoints maxFrameHoldTime clock currentFrame rest
            lastPoint st

/-- Fill a point request into an empty output buffer. The hold time is in clock ticks; a double
holds the milliseconds of buffered playout. -/
def fillPoints (D : Type) [FloatArith D] (request : PointFillRequest) (pointRateValue : ℕ)
    (maxFrameHoldTime : Duration) (clock : ℕ → TimePoint) (s : FrameScheduler F) :
    Option (FrameScheduler F × List (Emitted F)) :=
  let s := s.drainPendingFramesUnsafe
  if request.maximumPointsRequired = 0 then some (s, [])
  else
    let minPoints := request.minimumPointsRequired
    let maxPoints := request.maximumPointsRequired
    let (s, outputBuffer) := s.drainPendingTransitionUnsafe [] maxPoints
    if outputBuffer.length = maxPoints then some (s, outputBuffer)
    else
      let (firstRenderTime, reads) :=
        estimatedRenderTime request.estimatedFirstPointRenderTime clock
      let renderTimeForBufferedPoints := fun bufferedPointCount =>
        firstRenderTime +
          trunc (pointsToMillis bufferedPointCount pointRateValue * 1000000.0 : D)
      if s.frameQueue.isEmpty then some (s, appendBlankPoints outputBuffer minPoints)
      else
        let s := s.dropStaleFrames firstRenderTime
        match s.frameQueue with
        | [] => none
        | front :: _ =>
          if front.playCount = 0 ∧ !frameIsDueAt front firstRenderTime then
            some (s, appendBlankPoints outputBuffer minPoints)
          else
            run (fillPointsPass renderTimeForBufferedPoints minPoints maxPoints maxFrameHoldTime
                clock) (2 * maxPoints + 2)
              { sched := s, outputBuffer := outputBuffer, reads := reads }

/-! ## Filling a frame request -/

/-- A returned frame: its time and its points with their origins. -/
structure OutputFrame (F : Type) where
  time : TimePoint := 0
  points : List (Emitted F) := []
  deriving DecidableEq

/-- The loop state of `fillFrame`. -/
structure FramePass (F : Type) where
  sched : FrameScheduler F
  points : List (Emitted F)
  reads : ℕ

/-- The blank frame replaces whatever the output frame held. -/
def loadBlankFrame (request : FramePullRequest) : OutputFrame F :=
  { points := appendBlankPoints []
      (Nat.min request.blankFramePointCount request.maximumPointsRequired) }

/-- A front frame that is played to the end: go on to the next frame and bridge the jump to it,
blank a frame that was held too long, or start the frame over. -/
def finishFrame (request : FramePullRequest) (firstRenderTime : TimePoint)
    (maxFrameHoldTime : Duration) (clock : ℕ → TimePoint) (currentFrame : QueuedFrame F)
    (rest : List (QueuedFrame F)) (st : FramePass F) :
    Option (Pass (FramePass F) (FrameScheduler F × OutputFrame F)) :=
  if !rest.isEmpty && (request.advanceWhenAvailable || nextIsDueAt rest firstRenderTime) then
    match currentFrame.points.getLast?, rest.head?.bind (·.points.head?) with
    | some lastPoint, some firstPoint =>
      let sched := { st.sched with frameQueue := rest }
      if farApart lastPoint firstPoint then
        let (sched, points) :=
          { sched with
            pendingTransitionPoints := generateTransitionPoints lastPoint firstPoint
          }.drainPendingTransitionUnsafe st.points request.maximumPointsRequired
        if points.length = request.maximumPointsRequired then
          some (.done (sched, { points := points }))
        else some (.again { st with sched := sched, points := points })
      else some (.again { st with sched := sched })
    | _, _ => none
  else if 0 < currentFrame.playCount ∧ 0 < maxFrameHoldTime ∧
      maxFrameHoldTime ≤ clock st.reads - currentFrame.firstPlayTime then
    some (.done ({ st.sched with frameQueue := rest }, loadBlankFrame request))
  else if !request.repeatCurrentFrameWhenIdle then
    some (.done (st.sched, { points := st.points }))
  else
    some (.again { st with
      sched := { st.sched with frameQueue := { currentFrame with nextPoint := 0 } :: rest }
      reads :=
        if 0 < currentFrame.playCount ∧ 0 < maxFrameHoldTime then st.reads + 1 else st.reads })

/-- Copy the next chunk of the front frame behind the points already in the output frame. -/
def copyChunk (request : FramePullRequest) (clock : ℕ → TimePoint) (front : QueuedFrame F)
    (rest : List (QueuedFrame F)) (st : FramePass F) : FrameScheduler F × OutputFrame F :=
  let currentFrame := beginLoop (clock st.reads) front
  let available := currentFrame.points.length - currentFrame.nextPoint
  let toCopy := Nat.min available request.maximumPointsRequired
  let played := { currentFrame with nextPoint := currentFrame.nextPoint + toCopy }
  ({ st.sched with frameQueue := played :: rest },
    { time := if st.points.isEmpty then currentFrame.time else 0
      points := st.points ++ currentFrame.chunk toCopy })

/-- One pass of the loop of `fillFrame`. -/
def fillFramePass (request : FramePullRequest) (firstRenderTime : TimePoint)
    (maxFrameHoldTime : Duration) (clock : ℕ → TimePoint) (st : FramePass F) :
    Option (Pass (FramePass F) (FrameScheduler F × OutputFrame F)) :=
  match st.sched.frameQueue with
  | [] => some (.done (st.sched, loadBlankFrame request))
  | currentFrame :: rest =>
    if currentFrame.playCount = 0 ∧ currentFrame.nextPoint = 0 ∧ !request.advanceWhenAvailable ∧
        !frameIsDueAt currentFrame firstRenderTime then
      some (.done (st.sched, loadBlankFrame request))
    else if currentFrame.points.length ≤ currentFrame.nextPoint then
      finishFrame request firstRenderTime maxFrameHoldTime clock currentFrame rest st
    else some (.done (copyChunk request clock currentFrame rest st))

/-- Fill a frame request. -/
def fillFrame (request : FramePullRequest) (maxFrameHoldTime : Duration) (clock : ℕ → TimePoint)
    (s : FrameScheduler F) : Option (FrameScheduler F × OutputFrame F) :=
  let s := s.drainPendingFramesUnsafe
  let (firstRenderTime, reads) := estimatedRenderTime request.estimatedFirstPointRenderTime clock
  if request.maximumPointsRequired = 0 then some (s, {})
  else
    let (s, points) := s.drainPendingTransitionUnsafe [] request.maximumPointsRequired
    if !points.isEmpty && points.length = request.maximumPointsRequired then
      some (s, { points := points })
    else if s.frameQueue.isEmpty then some (s, loadBlankFrame request)
    else
      let s := s.dropStaleFrames firstRenderTime
      run (fillFramePass request firstRenderTime maxFrameHoldTime clock)
        (2 * s.frameQueue.length + 2) { sched := s, points := points, reads := reads }

end FrameScheduler

end LiberaLaser
