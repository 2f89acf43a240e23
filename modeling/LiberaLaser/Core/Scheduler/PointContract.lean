import LiberaLaser.Core.Scheduler.System

/-!
# The contract of a point request

A point request asks for at least `minimumPointsRequired` and at most `maximumPointsRequired`
points. The minimum is always met. The maximum is exceeded in one case: transition points of an
earlier call are drained first, the next frame is not due, and the blank padding is sized as if the
buffer were still empty.
-/

namespace LiberaLaser.FrameScheduler

variable {F : Type} [FloatArith F]

/-- **The point-request contract** holds exactly where the padding does not overflow. -/
theorem fillPoints_within_bounds (D : Type) [FloatArith D] {s : FrameScheduler F}
    (hs : Reachable D s) (request : PointFillRequest) (pointRateValue : ℕ)
    (maxFrameHoldTime : Duration) (clock : ℕ → TimePoint)
    (hmax : 1 ≤ request.maximumPointsRequired)
    (hmin : request.minimumPointsRequired ≤ request.maximumPointsRequired) :
    ∃ s' out, s.fillPoints D request pointRateValue maxFrameHoldTime clock = some (s', out) ∧
      (request.minimumPointsRequired ≤ out.length ∧ out.length ≤ request.maximumPointsRequired ↔
        ¬ PaddingOverflows request clock s) := by
  obtain ⟨s', out, hfill, -, -, hbounds⟩ := fillPoints_spec (A := .all) D request pointRateValue
    maxFrameHoldTime clock hs.wf fun _ _ _ => trivial
  obtain ⟨hlo, hhi⟩ := hbounds hmax hmin
  exact ⟨s', out, hfill, ⟨fun h => hhi.mp h.2, fun h => ⟨hlo, hhi.mpr h⟩⟩⟩

/-! ## A padding that overflows -/

/-- The first frame is played, and a bridge of ten points is begun to the second one, which is
scheduled for time 100. -/
def bridgeBegun : List (Call ℚ) :=
  [.enqueueFrame (pointsAt 0 1) 0, .enqueueFrame (pointsAt (1 / 4) 5) 100,
    .fillPoints { minimumPointsRequired := 1, maximumPointsRequired := 1,
                  estimatedFirstPointRenderTime := 50 } 30000 0 (fun _ => 0),
    .fillPoints { minimumPointsRequired := 2, maximumPointsRequired := 2,
                  estimatedFirstPointRenderTime := 100 } 30000 0 (fun _ => 0)]

/-- The render time moves back before the second frame: the eight points left of the bridge are
followed by ten blank points. -/
theorem fillPoints_exceeds_maximum : ∃ (s : FrameScheduler ℚ) (s' : FrameScheduler ℚ)
    (out : List (Emitted ℚ)), Reachable ℚ s ∧
      s.fillPoints ℚ { minimumPointsRequired := 10, maximumPointsRequired := 10,
                       estimatedFirstPointRenderTime := 50 } 30000 0 (fun _ => 0) =
        some (s', out) ∧ out.length = 18 := by
  have hlength : ((Runs.run (step ℚ) {} bridgeBegun).bind fun r =>
      r.1.fillPoints ℚ { minimumPointsRequired := 10, maximumPointsRequired := 10,
                         estimatedFirstPointRenderTime := 50 } 30000 0 (fun _ => 0)).map
        (·.2.length) = some 18 := by decide +kernel
  obtain ⟨⟨s', out⟩, hfill, hout⟩ := Option.map_eq_some_iff.mp hlength
  obtain ⟨⟨s, o⟩, hrun, hfill⟩ := Option.bind_eq_some_iff.mp hfill
  exact ⟨s, s', out, ⟨bridgeBegun, o, hrun⟩, hfill, hout⟩

/-- The eight points that are left of the bridge and ten blank points fit into a request for
eighteen. -/
theorem fillPoints_within_bounds_of_eighteen : ∃ (s s' : FrameScheduler ℚ) (out : List (Emitted ℚ)),
    s.fillPoints ℚ { minimumPointsRequired := 10, maximumPointsRequired := 18,
                     estimatedFirstPointRenderTime := 50 } 30000 0 (fun _ => 0) = some (s', out) ∧
      s.pendingTransitionPoints.length = 8 ∧ 10 ≤ out.length ∧ out.length ≤ 18 := by
  have hleft : (Runs.run (step ℚ) {} bridgeBegun).map (·.1.pendingTransitionPoints.length) =
      some 8 := by decide +kernel
  obtain ⟨⟨s, o⟩, hrun, hleft⟩ := Option.map_eq_some_iff.mp hleft
  obtain ⟨s', out, hfill, hiff⟩ := fillPoints_within_bounds ℚ ⟨bridgeBegun, o, hrun⟩
    { minimumPointsRequired := 10, maximumPointsRequired := 18,
      estimatedFirstPointRenderTime := 50 } 30000 0 (fun _ => 0) (by decide) (by decide)
  refine ⟨s, s', out, hfill, hleft, hiff.mpr fun hover => ?_⟩
  have hlt := hover.2.1
  rw [hleft] at hlt
  exact absurd hlt (by decide)

end LiberaLaser.FrameScheduler
