import LiberaLaser.Core.Transport.BufferEstimator
import LiberaLaser.Foundations.SingleServer

/-!
# The estimate of a frame transport

A transport that takes whole frames does not say how much it holds. The controller notes every frame
it submits, with the time its first point is expected to play, and projects from the last note when
the next frame can play: when everything noted has drained. Each note carries over what is left of
the one before it; for notes that follow the projection nothing ever is (`noCarryOver`).
-/

namespace LiberaLaser

open FloatArith BufferEstimator

/-- The snapshot that the last submission left: the points downstream at an instant. -/
structure FrameTransportEstimate where
  snapshotPoints : ℕ := 0
  snapshotTime : TimePoint := 0
  pointRate : ℕ := 0
  valid : Bool := false
  deriving DecidableEq

/-- The clamp of a count to the range of an `int`. -/
def clampPointCountToInt (pointCount : ℕ) : ℤ := Nat.min pointCount (2 ^ 31 - 1)

/-- The time that a number of points plays for, in whole microseconds rounded down. -/
def playoutDuration (points pointRate : ℕ) : Duration := (points * 1000000 / pointRate : ℕ) * 1000

theorem playoutDuration_mono {points points' : ℕ} (h : points ≤ points') (pointRate : ℕ) :
    playoutDuration points pointRate ≤ playoutDuration points' pointRate := by
  have hdiv : points * 1000000 / pointRate ≤ points' * 1000000 / pointRate :=
    Nat.div_le_div_right (Nat.mul_le_mul_right _ h)
  exact Int.mul_le_mul_of_nonneg_right (Int.ofNat_le.mpr hdiv) (by decide)

namespace FrameTransportEstimate

/-- When everything noted has drained. -/
def drainCompleteTime (e : FrameTransportEstimate) : TimePoint :=
  e.snapshotTime + playoutDuration e.snapshotPoints e.pointRate

/-- When the next write can play. -/
def projectedNextWriteRenderTime (now : TimePoint) (writeLead : Duration)
    (e : FrameTransportEstimate) : TimePoint :=
  let floorTime := now + writeLead
  if !e.valid || e.pointRate = 0 then floorTime else max e.drainCompleteTime floorTime

section Model

variable (D : Type) [FloatArith D]

/-- What is left of the last snapshot at the time of the next one, within a bound. -/
def carryOverPoints (snapshotTime : TimePoint) (maxCarryOverPoints : ℕ)
    (e : FrameTransportEstimate) : ℕ :=
  if e.valid then
    let carryEstimate := estimateFromSnapshot D (clampPointCountToInt e.snapshotPoints)
      e.snapshotTime e.pointRate snapshotTime
    let remainingPoints :=
      if carryEstimate.projected then max 0 carryEstimate.bufferFullness
      else clampPointCountToInt e.snapshotPoints
    if 0 < remainingPoints then Nat.min remainingPoints.toNat maxCarryOverPoints else 0
  else 0

/-- The instant that a note speaks of. A render time of zero stands for the present. -/
def noteTime (estimatedFirstPointRenderTime now : TimePoint) : TimePoint :=
  let requestedStartTime :=
    if estimatedFirstPointRenderTime = 0 then now else estimatedFirstPointRenderTime
  max requestedStartTime now

/-- Note a submission. A rate of zero stands for the rate of the controller. -/
def noteFrameTransportSubmissionBounded (pointCount : ℕ)
    (estimatedFirstPointRenderTime : TimePoint) (pointRateValue maxCarryOverPoints : ℕ)
    (controllerRate : ℕ) (now : TimePoint) (e : FrameTransportEstimate) : FrameTransportEstimate :=
  if pointCount = 0 then e
  else
    let snapshotTime := noteTime estimatedFirstPointRenderTime now
    { snapshotPoints := pointCount + e.carryOverPoints D snapshotTime maxCarryOverPoints
      snapshotTime := snapshotTime
      pointRate := if pointRateValue = 0 then controllerRate else pointRateValue
      valid := true }

end Model

/-! ## A note after the projection -/

variable {e : FrameTransportEstimate}

theorem le_projectedNextWriteRenderTime (now : TimePoint) (writeLead : Duration) :
    now + writeLead ≤ e.projectedNextWriteRenderTime now writeLead := by
  unfold projectedNextWriteRenderTime
  simp only
  split
  · exact le_rfl
  · exact le_max_right _ _

theorem drain_le_projectedNextWriteRenderTime (now : TimePoint) (writeLead : Duration)
    (hvalid : e.valid = true) (hrate : e.pointRate ≠ 0) :
    e.drainCompleteTime ≤ e.projectedNextWriteRenderTime now writeLead := by
  unfold projectedNextWriteRenderTime
  simp only [hvalid, hrate, Bool.not_true, decide_false, Bool.or_false, Bool.false_eq_true,
    if_false]
  exact le_max_left _ _

/-- A note never speaks of an instant before its render time, nor of the past. -/
theorem le_noteTime {estimated now : ℤ} (h : 0 < estimated) :
    noteTime estimated now = max estimated now := by
  unfold noteTime
  rw [if_neg h.ne']

/-- The snapshot holds something, and a point plays for more than two microseconds. -/
structure Playing (e : FrameTransportEstimate) : Prop where
  valid : e.valid = true
  points_pos : 0 < e.snapshotPoints
  rate_pos : 0 < e.pointRate
  rate_lt : e.pointRate < 500000
  time_pos : 0 < e.snapshotTime

/-- What the snapshot is drained by until the next one fits into an `int`. -/
def GapFits (snapshotTime : ℤ) (e : FrameTransportEstimate) : Prop :=
  e.valid = true →
    Fits (clampPointCountToInt e.snapshotPoints) e.snapshotTime e.pointRate snapshotTime

instance (snapshotTime : ℤ) (e : FrameTransportEstimate) : Decidable (e.GapFits snapshotTime) :=
  inferInstanceAs (Decidable (_ → _))

/-- The rounded-down duration of the points is short of the exact one by less than a microsecond, in
which less than half a point plays. -/
theorem remaining_playout_nonpos {points pointRate : ℕ} (hrate : 0 < pointRate)
    (hlt : pointRate < 500000) :
    remaining points pointRate (points * 1000000 / pointRate : ℕ) ≤ 0 := by
  have hdiv : points * 1000000 < pointRate * (points * 1000000 / pointRate + 1) := by
    rw [mul_comm pointRate]
    exact Nat.lt_mul_of_div_lt (Nat.lt_succ_self _) hrate
  generalize points * 1000000 / pointRate = elapsedUs at hdiv ⊢
  have hcast : (points : ℚ) * 1000000 < pointRate * (elapsedUs + 1) := by exact_mod_cast hdiv
  have hrate' : (pointRate : ℚ) < 500000 := by exact_mod_cast hlt
  obtain ⟨-, hhi⟩ := llround_bounds ((points : ℚ) - pointRate * (elapsedUs : ℤ) / 1000000)
  have hbelow : (remaining points pointRate elapsedUs : ℚ) < 1 := by
    unfold remaining
    push_cast at hhi ⊢
    linarith
  have hbelow : remaining points pointRate elapsedUs < 1 := by exact_mod_cast hbelow
  omega

/-- A snapshot is projected once its points have played. -/
theorem projects_of_drained {points pointRate : ℕ} {snapshotTime now : ℤ} (hpoints : 0 < points)
    (hrate : 0 < pointRate) (hlt : pointRate < 500000) (htime : 0 < snapshotTime)
    (hdrained : snapshotTime + ((points * 1000000 / pointRate : ℕ) : ℤ) * 1000 ≤ now) :
    Projects snapshotTime pointRate now ∧
      ((points * 1000000 / pointRate : ℕ) : ℤ) ≤ (now - snapshotTime).tdiv 1000 := by
  have hduration : 2 ≤ points * 1000000 / pointRate := by
    rw [Nat.le_div_iff_mul_le hrate]
    omega
  generalize points * 1000000 / pointRate = elapsedUs at hdrained hduration ⊢
  refine ⟨⟨hrate.ne', htime.ne', by omega⟩, ?_⟩
  rw [Int.tdiv_eq_ediv_of_nonneg (by omega)]
  omega

/-- What the conversion to an `int` makes of a snapshot after some nanoseconds, once its points have
drained: nothing, until `2 ^ 31` more points would have. -/
def wrappedPoints (points pointRate : ℕ) (elapsed : Duration) : ℕ :=
  (max 0 (narrow (remaining (clampPointCountToInt points) pointRate (elapsed.tdiv 1000)))).toNat

theorem wrappedPoints_lt (points pointRate : ℕ) (elapsed : Duration) :
    wrappedPoints points pointRate elapsed < 2 ^ 31 := by
  have hnarrow : ∀ a : ℤ, narrow a < 2 ^ 31 := fun a => by
    have := Int.bmod_lt (x := a) (m := 2 ^ 32) (by decide)
    unfold narrow
    omega
  have := hnarrow (remaining (clampPointCountToInt points) pointRate (elapsed.tdiv 1000))
  unfold wrappedPoints
  omega

/-- All that is carried over to a snapshot that is taken once the last one has drained. -/
theorem carryOverPoints_of_drained (h : e.Playing) {snapshotTime : ℤ}
    (hdrained : e.drainCompleteTime ≤ snapshotTime) (maxCarryOverPoints : ℕ) :
    e.carryOverPoints ℚ snapshotTime maxCarryOverPoints =
      Nat.min (wrappedPoints e.snapshotPoints e.pointRate (snapshotTime - e.snapshotTime))
        maxCarryOverPoints := by
  obtain ⟨hvalid, hpoints, hrate, hlt, htime⟩ := h
  obtain ⟨hproj, -⟩ := projects_of_drained hpoints hrate hlt htime hdrained
  unfold carryOverPoints wrappedPoints
  rw [estimate_of_projects hproj, if_pos hvalid]
  simp only [if_true, max_eq_right (le_max_left (0 : ℤ) _)]
  split
  · rfl
  · rename_i hnone
    rw [Int.toNat_eq_zero.mpr (not_lt.mp hnone)]
    exact (Nat.zero_min _).symm

/-- **Nothing is carried over** where the gap fits. -/
theorem noCarryOver (h : e.Playing) {snapshotTime : ℤ}
    (hdrained : e.drainCompleteTime ≤ snapshotTime)
    (hfits : e.GapFits snapshotTime) (maxCarryOverPoints : ℕ) :
    e.carryOverPoints ℚ snapshotTime maxCarryOverPoints = 0 := by
  rw [carryOverPoints_of_drained h hdrained]
  obtain ⟨hvalid, hpoints, hrate, hlt, htime⟩ := h
  obtain ⟨hproj, helapsed⟩ := projects_of_drained hpoints hrate hlt htime hdrained
  have hclamp : clampPointCountToInt e.snapshotPoints ≤ e.snapshotPoints := by
    unfold clampPointCountToInt
    exact_mod_cast Nat.min_le_left _ _
  have hempty : remaining (clampPointCountToInt e.snapshotPoints) e.pointRate
      ((snapshotTime - e.snapshotTime).tdiv 1000) ≤ 0 :=
    calc remaining (clampPointCountToInt e.snapshotPoints) e.pointRate
          ((snapshotTime - e.snapshotTime).tdiv 1000)
        ≤ remaining e.snapshotPoints e.pointRate
            ((snapshotTime - e.snapshotTime).tdiv 1000) := remaining_mono hclamp _ _
      _ ≤ remaining e.snapshotPoints e.pointRate
            (e.snapshotPoints * 1000000 / e.pointRate : ℕ) := remaining_anti _ _ helapsed
      _ ≤ 0 := remaining_playout_nonpos hrate hlt
  have hnone : wrappedPoints e.snapshotPoints e.pointRate (snapshotTime - e.snapshotTime) = 0 := by
    unfold wrappedPoints
    rw [narrow_of_fits (hfits hvalid hproj) (hempty.trans_lt (by decide)), max_eq_left hempty]
    rfl
  rw [hnone]
  exact Nat.zero_min _

/-! ## Runs of submissions -/

/-- A submission: the reading of the clock and the lead that its render time is projected from, its
points, and the reading and the bound that it is noted with. -/
structure Submission where
  now : TimePoint
  writeLead : Duration
  pointCount : ℕ
  noteNow : TimePoint
  maxCarryOverPoints : ℕ

/-- The render time projected for a submission. -/
def estimated (submission : Submission) (e : FrameTransportEstimate) : TimePoint :=
  e.projectedNextWriteRenderTime submission.now submission.writeLead

/-- The instant that the note of a submission speaks of. -/
def notedAt (submission : Submission) (e : FrameTransportEstimate) : TimePoint :=
  noteTime (e.estimated submission) submission.noteNow

/-- Note a submission with the render time projected for it. -/
def submit (D : Type) [FloatArith D] (pointRate : ℕ) (submission : Submission)
    (e : FrameTransportEstimate) : FrameTransportEstimate :=
  e.noteFrameTransportSubmissionBounded D submission.pointCount (e.estimated submission) pointRate
    submission.maxCarryOverPoints pointRate submission.noteNow

/-- The estimate after a number of submissions. -/
def after (D : Type) [FloatArith D] (pointRate : ℕ) (submissions : ℕ → Submission) :
    ℕ → FrameTransportEstimate
  | 0 => {}
  | k + 1 => (after D pointRate submissions k).submit D pointRate (submissions k)

/-- The estimate of a run at a constant rate: new, or left by a submission. -/
def RunsAt (pointRate : ℕ) (e : FrameTransportEstimate) : Prop :=
  e.valid = true → e.Playing ∧ e.pointRate = pointRate

variable {pointRate : ℕ} {submission : Submission}

theorem submit_empty (D : Type) [FloatArith D] (h : submission.pointCount = 0) :
    e.submit D pointRate submission = e := by
  simp [submit, noteFrameTransportSubmissionBounded, h]

/-- The render time projected for a submission is after the epoch, and after the drain of what was
noted before it. -/
theorem estimated_spec (hrun : e.RunsAt pointRate) (hnow : 0 < submission.now)
    (hlead : 0 ≤ submission.writeLead) :
    0 < e.estimated submission ∧
      (e.valid = true → e.drainCompleteTime ≤ e.estimated submission) := by
  constructor
  · exact (add_pos_of_pos_of_nonneg hnow hlead).trans_le (le_projectedNextWriteRenderTime _ _)
  · intro hvalid
    exact drain_le_projectedNextWriteRenderTime _ _ hvalid (hrun hvalid).1.rate_pos.ne'

/-- **A note of some points**, at a render time after what was noted before has drained, leaves
these points and no others behind. -/
theorem note_spec (hrun : e.RunsAt pointRate) (hrate : 0 < pointRate) {pointCount : ℕ}
    (hpoints : 0 < pointCount) {renderTime now : TimePoint} (hpos : 0 < renderTime)
    (hdrain : e.valid = true → e.drainCompleteTime ≤ renderTime)
    (hgap : e.GapFits (noteTime renderTime now)) (maxCarryOverPoints controllerRate : ℕ) :
    e.carryOverPoints ℚ (noteTime renderTime now) maxCarryOverPoints = 0 ∧
      e.noteFrameTransportSubmissionBounded ℚ pointCount renderTime pointRate maxCarryOverPoints
          controllerRate now =
        { snapshotPoints := pointCount
          snapshotTime := max renderTime now
          pointRate := pointRate
          valid := true } := by
  have hnoted : noteTime renderTime now = max renderTime now := le_noteTime hpos
  have hcarry : e.carryOverPoints ℚ (noteTime renderTime now) maxCarryOverPoints = 0 := by
    by_cases hvalid : e.valid = true
    · refine noCarryOver (hrun hvalid).1 ?_ hgap _
      rw [hnoted]
      exact (hdrain hvalid).trans (le_max_left _ _)
    · simp [carryOverPoints, hvalid]
  refine ⟨hcarry, ?_⟩
  unfold noteFrameTransportSubmissionBounded
  rw [if_neg hpoints.ne', if_neg hrate.ne']
  simp only [FrameTransportEstimate.mk.injEq, and_true]
  refine ⟨?_, hnoted⟩
  exact congrArg (pointCount + ·) hcarry

/-- A note of some points at a constant rate. -/
theorem runsAt_note {pointCount : ℕ} (hpoints : 0 < pointCount) (hrate : 0 < pointRate)
    (hlt : pointRate < 500000) {renderTime : TimePoint} (hpos : 0 < renderTime) :
    RunsAt pointRate
      { snapshotPoints := pointCount
        snapshotTime := renderTime
        pointRate := pointRate
        valid := true } :=
  fun _ => ⟨⟨rfl, hpoints, hrate, hlt, hpos⟩, rfl⟩

/-- **A submission of some points** leaves these points and no others behind. -/
theorem submit_spec (hrun : e.RunsAt pointRate) (hrate : 0 < pointRate) (hnow : 0 < submission.now)
    (hlead : 0 ≤ submission.writeLead) (hgap : e.GapFits (e.notedAt submission))
    (hpoints : 0 < submission.pointCount) :
    e.carryOverPoints ℚ (e.notedAt submission) submission.maxCarryOverPoints = 0 ∧
      e.submit ℚ pointRate submission =
        { snapshotPoints := submission.pointCount
          snapshotTime := max (e.estimated submission) submission.noteNow
          pointRate := pointRate
          valid := true } :=
  note_spec hrun hrate hpoints (estimated_spec hrun hnow hlead).1
    (estimated_spec hrun hnow hlead).2 hgap _ _

theorem RunsAt.submit (hrun : e.RunsAt pointRate) (hrate : 0 < pointRate) (hlt : pointRate < 500000)
    (hnow : 0 < submission.now) (hlead : 0 ≤ submission.writeLead)
    (hgap : e.GapFits (e.notedAt submission)) :
    (e.submit ℚ pointRate submission).RunsAt pointRate := by
  rcases Nat.eq_zero_or_pos submission.pointCount with hzero | hpoints
  · rwa [submit_empty ℚ hzero]
  · rw [(submit_spec hrun hrate hnow hlead hgap hpoints).2]
    exact runsAt_note hpoints hrate hlt
      ((estimated_spec hrun hnow hlead).1.trans_le (le_max_left _ _))

/-- Every estimate of a run of submissions at a constant rate is left by one of them. -/
theorem runsAt_after {submissions : ℕ → Submission} {n : ℕ} (hrate : 0 < pointRate)
    (hlt : pointRate < 500000)
    (hclock : ∀ k < n, 0 < (submissions k).now ∧ 0 ≤ (submissions k).writeLead)
    (hgap : ∀ k < n, (after ℚ pointRate submissions k).GapFits
      ((after ℚ pointRate submissions k).notedAt (submissions k))) {k : ℕ} (hk : k ≤ n) :
    (after ℚ pointRate submissions k).RunsAt pointRate := by
  induction k with
  | zero => exact fun h => absurd h Bool.false_ne_true
  | succ k ih =>
    exact (ih (Nat.le_of_succ_le hk)).submit hrate hlt (hclock k hk).1 (hclock k hk).2 (hgap k hk)

/-- **Queued frame points are counted once**: in every run of submissions at a constant rate, each
noted with the render time projected for it, nothing is carried over, the projected drain time is
the noted time plus the duration of the points, drain times never go back, and the snapshot holds no
more than the points submitted and the bound. An empty submission changes nothing. -/
theorem submissions_counted_once (hrate : 0 < pointRate) (hlt : pointRate < 500000)
    (submissions : ℕ → Submission) (n : ℕ)
    (hclock : ∀ k < n, 0 < (submissions k).now ∧ 0 ≤ (submissions k).writeLead)
    (hgap : ∀ k < n, (after ℚ pointRate submissions k).GapFits
      ((after ℚ pointRate submissions k).notedAt (submissions k))) :
    ∀ k < n,
      let e := after ℚ pointRate submissions k
      let e' := after ℚ pointRate submissions (k + 1)
      let submission := submissions k
      (submission.pointCount = 0 → e' = e) ∧
      (0 < submission.pointCount →
        e.carryOverPoints ℚ (e.notedAt submission) submission.maxCarryOverPoints = 0 ∧
        e'.drainCompleteTime = max (e.estimated submission) submission.noteNow +
          playoutDuration submission.pointCount pointRate ∧
        e'.snapshotPoints ≤ submission.pointCount + submission.maxCarryOverPoints) ∧
      (e.valid = true → e.drainCompleteTime ≤ e'.drainCompleteTime) := by
  intro k hk e e' submission
  have hrun : e.RunsAt pointRate := runsAt_after hrate hlt hclock hgap hk.le
  obtain ⟨hnow, hlead⟩ := hclock k hk
  have hsubmit := fun hpoints => submit_spec hrun hrate hnow hlead (hgap k hk) hpoints
  have hdrained : 0 < submission.pointCount →
      e'.drainCompleteTime = max (e.estimated submission) submission.noteNow +
        playoutDuration submission.pointCount pointRate := by
    intro hpoints
    change drainCompleteTime (e.submit ℚ pointRate submission) = _
    rw [(hsubmit hpoints).2]
    rfl
  refine ⟨fun hzero => submit_empty ℚ hzero, ?_, ?_⟩
  · intro hpoints
    refine ⟨(hsubmit hpoints).1, hdrained hpoints, ?_⟩
    change snapshotPoints (e.submit ℚ pointRate submission) ≤ _
    rw [(hsubmit hpoints).2]
    exact Nat.le_add_right _ _
  · intro hvalid
    rcases Nat.eq_zero_or_pos submission.pointCount with hzero | hpoints
    · exact (congrArg drainCompleteTime (submit_empty ℚ hzero)).ge
    · rw [hdrained hpoints]
      have hduration : 0 ≤ playoutDuration submission.pointCount pointRate := by
        unfold playoutDuration
        positivity
      calc e.drainCompleteTime
          ≤ e.estimated submission := (estimated_spec hrun hnow hlead).2 hvalid
        _ ≤ max (e.estimated submission) submission.noteNow := le_max_left _ _
        _ ≤ _ := le_add_of_nonneg_right hduration

/-- Two frames of a thousand points, ten milliseconds apart at thirty thousand points a second. -/
def twoFrames (k : ℕ) : Submission where
  now := 1000000000 + k * 10000000
  writeLead := 1000000
  pointCount := 1000
  noteNow := 1001000000 + k * 10000000
  maxCarryOverPoints := 100

theorem twoFrames_counted_once :
    let e := after ℚ 30000 twoFrames 1
    e.carryOverPoints ℚ (e.notedAt (twoFrames 1)) 100 = 0 ∧
      (after ℚ 30000 twoFrames 2).drainCompleteTime =
        max (e.estimated (twoFrames 1)) 1011000000 + playoutDuration 1000 30000 ∧
      (after ℚ 30000 twoFrames 2).snapshotPoints ≤ 1000 + 100 :=
  (submissions_counted_once (by decide) (by decide) twoFrames 2 (by decide) (by decide +kernel) 1
    (by decide)).2.1 (by decide)

/-- A frame of a thousand points, and nothing ten seconds later. -/
def frameThenNothing (k : ℕ) : Submission where
  now := 1000000000 + k * 10000000000
  writeLead := 1000000
  pointCount := if k = 0 then 1000 else 0
  noteNow := 1001000000 + k * 10000000000
  maxCarryOverPoints := 100

/-- **An empty submission is not noted**: the drain time stays that of the frame before it. -/
theorem empty_submission_not_noted :
    ¬ ∀ (pointRate : ℕ) (submissions : ℕ → Submission) (n : ℕ), 0 < pointRate →
      pointRate < 500000 →
      (∀ k < n, 0 < (submissions k).now ∧ 0 ≤ (submissions k).writeLead) →
      (∀ k < n, (after ℚ pointRate submissions k).GapFits
        ((after ℚ pointRate submissions k).notedAt (submissions k))) →
      ∀ k < n, (after ℚ pointRate submissions (k + 1)).drainCompleteTime =
        max ((after ℚ pointRate submissions k).estimated (submissions k)) (submissions k).noteNow +
          playoutDuration (submissions k).pointCount pointRate := by
  intro h
  exact absurd (h 30000 frameThenNothing 2 (by decide) (by decide) (by decide) (by decide +kernel) 1
    (by decide)) (by decide +kernel)

end FrameTransportEstimate

end LiberaLaser
