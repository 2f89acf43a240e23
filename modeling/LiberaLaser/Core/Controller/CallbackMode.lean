import LiberaLaser.Core.Controller.Model

/-!
# A controller in callback mode

A backend that takes whole frames asks a controller with a point callback for one frame after
another, with sizes, latencies and point rates that vary from call to call. The system of such calls
observes each frame returned, with the largest size that its request allowed. Every request is
answered in one of three ways (`Answers`), whatever the callback produces.
-/

namespace LiberaLaser.LaserController

open PointStreamFramer Runs

variable {τ F D : Type}

/-- A call of a transport in callback mode. -/
inductive FrameCall
  | setPointRate (pointRateValue : ℕ)
  | requestFrame (request : FrameFillRequest) (context : RequestContext)

/-- A returned frame, and the largest size its request allowed. -/
structure FrameReply (F : Type) where
  maximum : ℕ
  points : List (LaserPoint F)
  deriving DecidableEq

/-- The number of points in some returned frames. -/
def returnedPoints (replies : List (FrameReply F)) : ℕ :=
  (replies.map fun reply => reply.points.length).sum

@[simp] theorem returnedPoints_append (r r' : List (FrameReply F)) :
    returnedPoints (r ++ r') = returnedPoints r + returnedPoints r' := by
  simp [returnedPoints]

/-- Requests are answered from a callback. -/
structure CallbackMode (callback : RequestPointsCallback τ F) (c : LaserController τ F D) :
    Prop where
  source : c.activeSource = .pointCallback
  installed : c.requestPointsCallback = some callback
  frame_ne : ∀ frame ∈ c.pointStreamFramer.preparedFrames, frame ≠ []

variable [FloatArith F] [FloatArith D]

/-- A new controller with the given output stage, and then a callback. -/
def started (stage : OutputStage F D) (callback : RequestPointsCallback τ F) :
    LaserController τ F D :=
  { (new : LaserController τ F D) with stage := stage }.setPointCallback (some callback)

theorem callbackMode_started (stage : OutputStage F D) (callback : RequestPointsCallback τ F) :
    CallbackMode callback (started stage callback) where
  source := rfl
  installed := rfl
  frame_ne := fun _ hframe => absurd hframe List.not_mem_nil

/-- A call as a step. -/
def step (c : LaserController τ F D) :
    FrameCall → Option (LaserController τ F D × List (FrameReply F))
  | .setPointRate pointRateValue =>
    some ({ c with stage := c.stage.setPointRate pointRateValue }, [])
  | .requestFrame request context =>
    match c.requestFrame request context with
    | none => none
    | some (c, none) => some (c, [])
    | some (c, some points) => some (c, [⟨request.maximumPointsRequired, points⟩])

/-- The framer as a request sets it up. -/
def configured (request : FrameFillRequest) (context : RequestContext)
    (callback : RequestPointsCallback τ F) (c : LaserController τ F D) : PointStreamFramer τ F :=
  c.pointStreamFramer.configure (c.framingCall request context callback)

/-- The answer to a request, with the state of the framer after it: none where the request names no
size, none where the callback has run dry, or else the first prepared frame. -/
inductive Answers (callback : RequestPointsCallback τ F) (request : FrameFillRequest)
    (context : RequestContext) (c : LaserController τ F D) :
    PointStreamFramer τ F → List (FrameReply F) → Prop
  | declined (hsize : request.preferredFrameSize = 0) :
      Answers callback request context c c.pointStreamFramer []
  | dry {ready : PointStreamFramer τ F}
      (hmoves : Moves callback request.templateRequest (c.configured request context callback)
        ready)
      (hprepared : ready.preparedFrames = []) :
      Answers callback request context c ready []
  | handed {ready : PointStreamFramer τ F} {front : List (Stamped τ F)}
      {rest : List (List (Stamped τ F))} {points : List (LaserPoint F)}
      (hmoves : Moves callback request.templateRequest (c.configured request context callback)
        ready)
      (hprepared : ready.preparedFrames = front :: rest) (hlength : points.length = front.length) :
      Answers callback request context c (ready.handOut front rest)
        [⟨request.maximumPointsRequired, points⟩]

/-- Prepared frames are never empty. -/
theorem frame_ne_of_moves {callback : RequestPointsCallback τ F} {template : PointFillRequest}
    {framer framer' : PointStreamFramer τ F} (h : ∀ frame ∈ framer.preparedFrames, frame ≠ [])
    (hmoves : Moves callback template framer framer') :
    ∀ frame ∈ framer'.preparedFrames, frame ≠ [] := by
  refine Moves.invariant (I := fun g => ∀ frame ∈ g.preparedFrames, frame ≠ []) ?_ h hmoves
  intro g g' hg hmove
  cases hmove with
  | pull count hcount => simpa only [pullPoints, if_neg hcount] using hg
  | @prepare g' frame hcut =>
    intro f hf
    have hf : f ∈ g'.preparedFrames ++ [frame] := hf
    rw [hcut.preparedFrames] at hf
    rcases List.mem_append.mp hf with hf | hf
    · exact hg f hf
    · exact (List.mem_singleton.mp hf) ▸ hcut.frame_ne

/-- **Every request is answered**, and the controller stays in callback mode. -/
theorem CallbackMode.requestFrame {callback : RequestPointsCallback τ F}
    {c : LaserController τ F D} (h : CallbackMode callback c) (request : FrameFillRequest)
    (context : RequestContext) :
    ∃ c' replies, step c (.requestFrame request context) = some (c', replies) ∧
      Answers callback request context c c'.pointStreamFramer replies ∧
      CallbackMode callback c' := by
  by_cases hsize : request.preferredFrameSize = 0
  · exact ⟨c, [], by simp only [step, LaserController.requestFrame, h.source,
      requestCallbackFrame, if_pos hsize], .declined hsize, h⟩
  have hnominal : 1 ≤ (c.configured request context callback).nominalFrameSize :=
    Nat.le_max_right _ _
  obtain ⟨ready, hmoves, hresult⟩ :=
    extractFrame_spec callback request.templateRequest hnominal
  have hwaiting : ∀ frame ∈ (c.configured request context callback).preparedFrames, frame ≠ [] :=
    h.frame_ne
  have hframes := frame_ne_of_moves hwaiting hmoves
  rcases hresult with ⟨hprepared, hextract⟩ | ⟨front, rest, hprepared, hextract⟩
  · have hextract : c.extractFrame request context callback =
        some ({ c with pointStreamFramer := ready }, none) := by
      simp only [LaserController.extractFrame]
      rw [← configured, hextract]
    refine ⟨{ c with pointStreamFramer := ready }, [], ?_, .dry hmoves hprepared, h.source,
      h.installed, hframes⟩
    simp only [step, LaserController.requestFrame, h.source, requestCallbackFrame, if_neg hsize,
      h.installed, hextract]
  · have hne : front ≠ [] := hframes front (by simp [hprepared])
    set c₁ : LaserController τ F D :=
      { c with pointStreamFramer := ready.handOut front rest } with hc₁
    have hextract : c.extractFrame request context callback = some (c₁, some front) := by
      simp only [LaserController.extractFrame]
      rw [← configured, hextract, if_neg (by simpa using hne)]
    refine ⟨(c₁.postProcess (front.map Stamped.point)).1, [⟨request.maximumPointsRequired,
      (c₁.postProcess (front.map Stamped.point)).2⟩], ?_, .handed hmoves hprepared ?_, h.source,
      h.installed, fun frame hframe => hframes frame ?_⟩
    · simp only [step, LaserController.requestFrame, h.source, requestCallbackFrame, if_neg hsize,
        h.installed, hextract]
    · simp only [postProcess, OutputStage.length_postProcessOutputPoints, List.length_map]
    · rw [hprepared]
      exact List.mem_cons_of_mem _ hframe

/-- **Every call returns.** -/
theorem CallbackMode.step {callback : RequestPointsCallback τ F} {c : LaserController τ F D}
    (h : CallbackMode callback c) (call : FrameCall) :
    ∃ c' replies, step c call = some (c', replies) ∧ CallbackMode callback c' := by
  cases call with
  | setPointRate pointRateValue => exact ⟨_, [], rfl, h.source, h.installed, h.frame_ne⟩
  | requestFrame request context =>
    obtain ⟨c', replies, hstep, -, h'⟩ := h.requestFrame request context
    exact ⟨c', replies, hstep, h'⟩

/-! ## A callback and a context to run with -/

/-- A callback that produces what it is asked for. -/
def obliging (id : τ) : RequestPointsCallback τ ℚ where
  id := id
  produce _ request := List.replicate request.minimumPointsRequired default

/-- The context of a request with no latency. -/
def noLatency : RequestContext where
  maxFrameHoldTime := 0
  targetLatency := 0
  clock _ := 0
  transportBufferedPoints := 0

end LiberaLaser.LaserController
