import LiberaLaser.Core.Controller.Model
import LiberaLaser.Core.Scheduler.PointContract

/-!
# The size of a queued frame

A frame request names the largest frame the transport takes. `fillFrame` fits the drained transition
points and each chunk to that size, but each on its own: a chunk that follows transition points in
the same frame is cut as if the frame were still empty. Post-processing keeps the number of points,
so the transport receives what the scheduler returns.
-/

namespace LiberaLaser

variable {τ F D : Type} [FloatArith F] [FloatArith D]

namespace LaserController

/-- A request in frame-queue mode returns as many points as the scheduler does. -/
theorem requestFrame_of_fillFrame (request : FrameFillRequest) (context : RequestContext)
    {c : LaserController τ F D} (hsource : c.activeSource = .frameQueue) {s : FrameScheduler F}
    {frame : FrameScheduler.OutputFrame F}
    (h : c.frameScheduler.fillFrame request.schedulerRequest context.maxFrameHoldTime
      context.clock = some (s, frame)) :
    ∃ c' points, c.requestFrame request context = some (c', some points) ∧
      points.length = frame.points.length := by
  refine ⟨_, _, by simp only [requestFrame, hsource, requestQueuedFrame, h]; rfl, ?_⟩
  simp only [postProcess, OutputStage.length_postProcessOutputPoints, List.length_map]

end LaserController

namespace FrameScheduler

/-- **The frame-request size limit** holds exactly where the chunk does not overflow, of the frame
that `fillFrame` returns and of the frame that `requestFrame` returns in frame-queue mode. -/
theorem fillFrame_within_maximum (D : Type) [FloatArith D] {s : FrameScheduler F}
    (hs : Reachable D s) (request : FramePullRequest) (maxFrameHoldTime : Duration)
    (clock : ℕ → TimePoint) (hmax : 0 < request.maximumPointsRequired) :
    ∃ s' frame, s.fillFrame request maxFrameHoldTime clock = some (s', frame) ∧
      (frame.points.length ≤ request.maximumPointsRequired ↔ ¬ ChunkOverflows request clock s) ∧
      ∀ (c : LaserController τ F D) (frameRequest : FrameFillRequest) (context : RequestContext),
        c.activeSource = .frameQueue → c.frameScheduler = s →
        frameRequest.schedulerRequest = request → context.maxFrameHoldTime = maxFrameHoldTime →
        context.clock = clock →
        ∃ c' points, c.requestFrame frameRequest context = some (c', some points) ∧
          (points.length ≤ frameRequest.maximumPointsRequired ↔
            ¬ ChunkOverflows request clock s) := by
  obtain ⟨s', frame, hfill, -, hbound⟩ := fillFrame_spec (A := .all) request maxFrameHoldTime clock
    hs.wf (fun _ _ _ => trivial) fun _ => trivial
  refine ⟨s', frame, hfill, hbound hmax, ?_⟩
  rintro c frameRequest context hsource rfl rfl rfl rfl
  obtain ⟨c', points, hrequest, hlength⟩ :=
    LaserController.requestFrame_of_fillFrame frameRequest context hsource hfill
  exact ⟨c', points, hrequest, hlength ▸ hbound hmax⟩

/-! ## A chunk that overflows -/

/-- The first frame is played to its end, and the second one, scheduled for time 100, waits. -/
def firstPlayed : List (Call ℚ) :=
  [.enqueueFrame (pointsAt 0 1) 0, .enqueueFrame (pointsAt (1 / 4) 5) 100,
    .fillFrame { maximumPointsRequired := 1, estimatedFirstPointRenderTime := 50 } 0 fun _ => 0]

/-- The bridge of ten points and the five points of the second frame make a frame of fifteen points,
where the request allows twelve. -/
theorem fillFrame_exceeds_maximum : ∃ (s : FrameScheduler ℚ) (s' : FrameScheduler ℚ)
    (frame : OutputFrame ℚ), Reachable ℚ s ∧
      s.fillFrame { maximumPointsRequired := 12, estimatedFirstPointRenderTime := 100 } 0
        (fun _ => 0) = some (s', frame) ∧ frame.points.length = 15 := by
  have hlength : ((Runs.run (step ℚ) {} firstPlayed).bind fun r =>
      r.1.fillFrame { maximumPointsRequired := 12, estimatedFirstPointRenderTime := 100 } 0
        fun _ => 0).map (·.2.points.length) = some 15 := by decide +kernel
  obtain ⟨⟨s', frame⟩, hfill, hframe⟩ := Option.map_eq_some_iff.mp hlength
  obtain ⟨⟨s, o⟩, hrun, hfill⟩ := Option.bind_eq_some_iff.mp hfill
  exact ⟨s, s', frame, ⟨firstPlayed, o, hrun⟩, hfill, hframe⟩

/-- The bridge and the second frame fit into a request for fifteen points. -/
theorem fillFrame_within_maximum_of_fifteen : ∃ (s s' : FrameScheduler ℚ) (frame : OutputFrame ℚ),
    s.fillFrame { maximumPointsRequired := 15, estimatedFirstPointRenderTime := 100 } 0
        (fun _ => 0) = some (s', frame) ∧
      s.frameQueue.length = 2 ∧ frame.points.length ≤ 15 := by
  have hfits : ((Runs.run (step ℚ) {} firstPlayed).map fun r =>
      decide (r.1.frameQueue.length = 2) && !decide (ChunkOverflows
        { maximumPointsRequired := 15, estimatedFirstPointRenderTime := 100 } (fun _ => 0) r.1)) =
      some true := by decide +kernel
  obtain ⟨⟨s, o⟩, hrun, hfits⟩ := Option.map_eq_some_iff.mp hfits
  simp only [Bool.and_eq_true, decide_eq_true_eq, Bool.not_eq_true', decide_eq_false_iff_not]
    at hfits
  obtain ⟨s', frame, hfill, hiff, -⟩ := fillFrame_within_maximum (τ := Unit) ℚ
    ⟨firstPlayed, o, hrun⟩
    { maximumPointsRequired := 15, estimatedFirstPointRenderTime := 100 } 0 (fun _ => 0)
    (by decide)
  exact ⟨s, s', frame, hfill, hfits.1, hiff.mpr hfits.2⟩

end FrameScheduler

end LiberaLaser
