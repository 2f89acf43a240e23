import LiberaLaser.Core.LaserPoint
import LiberaLaser.Foundations.DelayLine

/-!
# Post-processing of output points

Every batch of points passes through `postProcessOutputPoints` on its way to the transport: the
first points after arming are blanked, a disarmed controller sends dark points at a parking
position, and the scanner-sync delay line shifts the colours behind the geometry. The three stages
are definitions of their own, since application threads may run between them.
-/

namespace LiberaLaser

open FloatArith

/-- The state behind `postProcessOutputPoints`. The two counters are never negative. -/
structure OutputStage (F D : Type) where
  armed : Bool
  pointRate : ℕ
  /-- In ten-thousandths of a second. -/
  scannerSyncTime : D
  scannerSyncEnabled : Bool
  scannerSyncPostProcessSuppressed : Bool
  scannerSyncColourDelayLine : List (LaserPoint F)
  startupBlankPointsRemaining : ℕ
  shutdownBlankPointsRemaining : ℕ
  lastContentX : F
  lastContentY : F

namespace OutputStage

variable {F D : Type}

/-- The delay line is bypassed. -/
def bypassed (stage : OutputStage F D) : Bool :=
  stage.scannerSyncPostProcessSuppressed || !stage.scannerSyncEnabled

/-- The counter is written back only where it was positive. -/
def storeStartupBlank (loaded remaining : ℕ) (stage : OutputStage F D) : OutputStage F D :=
  if 0 < loaded then { stage with startupBlankPointsRemaining := remaining } else stage

@[simp] theorem storeStartupBlank_armed (loaded remaining : ℕ) (stage : OutputStage F D) :
    (stage.storeStartupBlank loaded remaining).armed = stage.armed := by
  unfold storeStartupBlank
  split <;> rfl

@[simp] theorem storeStartupBlank_line (loaded remaining : ℕ) (stage : OutputStage F D) :
    (stage.storeStartupBlank loaded remaining).scannerSyncColourDelayLine =
      stage.scannerSyncColourDelayLine := by
  unfold storeStartupBlank
  split <;> rfl

@[simp] theorem storeStartupBlank_pointRate (loaded remaining : ℕ) (stage : OutputStage F D) :
    (stage.storeStartupBlank loaded remaining).pointRate = stage.pointRate := by
  unfold storeStartupBlank
  split <;> rfl

def setPointRate (pointRateValue : ℕ) (stage : OutputStage F D) : OutputStage F D :=
  { stage with pointRate := pointRateValue }

/-! ## Blanking and parking -/

variable [FloatArith F]

/-- Blank as many points as the counter says, and count it down. -/
def blankFirst : ℕ → List (LaserPoint F) → List (LaserPoint F) × ℕ
  | 0, points => (points, 0)
  | n + 1, [] => ([], n + 1)
  | n + 1, point :: points =>
    let (points, remaining) := blankFirst n points
    (point.blank :: points, remaining)

def applyStartupBlankToOutputPoints (stage : OutputStage F D) (points : List (LaserPoint F)) :
    OutputStage F D × List (LaserPoint F) :=
  let loaded := stage.startupBlankPointsRemaining
  let (points, remaining) := blankFirst loaded points
  (storeStartupBlank loaded remaining stage, points)

/-- Dark points at the last content position while the counter lasts, and at the centre then. -/
def park (lastContentX lastContentY : F) :
    ℕ → List (LaserPoint F) → List (LaserPoint F) × ℕ
  | remaining, [] => ([], remaining)
  | 0, point :: points =>
    let (points, remaining) := park lastContentX lastContentY 0 points
    ({ point.blank with x := 0.0, y := 0.0 } :: points, remaining)
  | n + 1, point :: points =>
    let (points, remaining) := park lastContentX lastContentY n points
    ({ point.blank with x := lastContentX, y := lastContentY } :: points, remaining)

/-- Park the points of a disarmed controller, or note the last content position. -/
def applyArmed (stage : OutputStage F D) (points : List (LaserPoint F)) :
    OutputStage F D × List (LaserPoint F) :=
  if !stage.armed then
    let (points, remaining) :=
      park stage.lastContentX stage.lastContentY stage.shutdownBlankPointsRemaining points
    ({ stage with shutdownBlankPointsRemaining := remaining }, points)
  else
    match points.getLast? with
    | none => (stage, points)
    | some lastPoint =>
      ({ stage with lastContentX := lastPoint.x, lastContentY := lastPoint.y }, points)

/-- The delay line holds no light. -/
def LineDark (stage : OutputStage F D) : Prop :=
  ∀ p ∈ stage.scannerSyncColourDelayLine, p.Dark

instance [DecidableEq F] (stage : OutputStage F D) : Decidable stage.LineDark :=
  inferInstanceAs (Decidable (∀ p ∈ stage.scannerSyncColourDelayLine, p.Dark))

theorem length_blankFirst (n : ℕ) (points : List (LaserPoint F)) :
    (blankFirst n points).1.length = points.length := by
  fun_induction blankFirst n points with
  | case1 => rfl
  | case2 => rfl
  | case3 n point points points' remaining h ih => simpa [h] using ih

/-- The counter comes down by the number of points. -/
theorem blankFirst_snd (n : ℕ) (points : List (LaserPoint F)) :
    (blankFirst n points).2 = n - points.length := by
  fun_induction blankFirst n points with
  | case1 => exact (Nat.zero_sub _).symm
  | case2 => rfl
  | case3 n point points points' remaining h ih =>
    rw [h] at ih
    simp only [List.length_cons] at ih ⊢
    omega

/-- The points that the counter covers are dark. -/
theorem dark_blankFirst (n : ℕ) (points : List (LaserPoint F)) :
    ∀ p ∈ (blankFirst n points).1.take n, p.Dark := by
  fun_induction blankFirst n points with
  | case1 => simp
  | case2 => simp
  | case3 n point points points' remaining h ih =>
    rw [h] at ih
    intro p hp
    rw [List.take_succ_cons] at hp
    rcases List.mem_cons.mp hp with rfl | hp
    · exact LaserPoint.dark_blank point
    · exact ih p hp

theorem length_park (x y : F) (n : ℕ) (points : List (LaserPoint F)) :
    (park x y n points).1.length = points.length := by
  fun_induction park x y n points with
  | case1 => rfl
  | case2 point points points' remaining h ih => simpa [h] using ih
  | case3 n point points points' remaining h ih => simpa [h] using ih

theorem dark_park (x y : F) (n : ℕ) (points : List (LaserPoint F)) :
    ∀ p ∈ (park x y n points).1, p.Dark := by
  fun_induction park x y n points with
  | case1 => simp
  | case2 point points points' remaining h ih =>
    rw [h] at ih
    intro p hp
    rcases List.mem_cons.mp hp with rfl | hp
    · exact LaserPoint.dark_blank point
    · exact ih p hp
  | case3 n point points points' remaining h ih =>
    rw [h] at ih
    intro p hp
    rcases List.mem_cons.mp hp with rfl | hp
    · exact LaserPoint.dark_blank point
    · exact ih p hp

theorem length_applyArmed (stage : OutputStage F D) (points : List (LaserPoint F)) :
    (stage.applyArmed points).2.length = points.length := by
  unfold applyArmed
  split
  · exact length_park _ _ _ points
  · split <;> rfl

theorem dark_applyArmed {stage : OutputStage F D} (h : stage.armed = false)
    (points : List (LaserPoint F)) : ∀ p ∈ (stage.applyArmed points).2, p.Dark := by
  simp only [applyArmed, h, Bool.not_false, if_true]
  exact dark_park _ _ _ points

theorem applyArmed_of_armed {stage : OutputStage F D} (h : stage.armed = true)
    (points : List (LaserPoint F)) : (stage.applyArmed points).2 = points := by
  simp only [applyArmed, h, Bool.not_true, Bool.false_eq_true, if_false]
  split <;> rfl

@[simp] theorem applyArmed_armed (stage : OutputStage F D) (points : List (LaserPoint F)) :
    (stage.applyArmed points).1.armed = stage.armed := by
  unfold applyArmed
  split
  · rfl
  · split <;> rfl

@[simp] theorem applyArmed_line (stage : OutputStage F D) (points : List (LaserPoint F)) :
    (stage.applyArmed points).1.scannerSyncColourDelayLine =
      stage.scannerSyncColourDelayLine := by
  unfold applyArmed
  split
  · rfl
  · split <;> rfl

@[simp] theorem applyArmed_counter (stage : OutputStage F D) (points : List (LaserPoint F)) :
    (stage.applyArmed points).1.startupBlankPointsRemaining =
      stage.startupBlankPointsRemaining := by
  unfold applyArmed
  split
  · rfl
  · split <;> rfl

@[simp] theorem applyArmed_pointRate (stage : OutputStage F D) (points : List (LaserPoint F)) :
    (stage.applyArmed points).1.pointRate = stage.pointRate := by
  unfold applyArmed
  split
  · rfl
  · split <;> rfl

/-! ## The delay line -/

variable [FloatArith D]

/-- The state of a new controller with some rate and delay. -/
def fresh (pointRate : ℕ) (scannerSyncTime : D) (enabled suppressed : Bool) : OutputStage F D where
  armed := false
  pointRate := pointRate
  scannerSyncTime := scannerSyncTime
  scannerSyncEnabled := enabled
  scannerSyncPostProcessSuppressed := suppressed
  scannerSyncColourDelayLine := []
  startupBlankPointsRemaining := 0
  shutdownBlankPointsRemaining := 0
  lastContentX := 0.0
  lastContentY := 0.0

/-- The state of a new controller. -/
def new : OutputStage F D := fresh 30000 2.0 true false

/-- The number of points in some milliseconds, rounded, and at most the largest `int`. -/
def millisToPoints (rate : ℕ) (millis : D) : ℕ :=
  if rate = 0 ∨ le millis 0.0 then 0
  else
    let rounded := llround (millis / 1000.0 * ofNat rate)
    if rounded ≤ 0 then 0 else Nat.min rounded.toNat 2147483647

/-- The number of points of the blanking after arming. -/
def startupBlankPoints (stage : OutputStage F D) : ℕ := millisToPoints stage.pointRate (1.0 : D)

/-- The length of the delay line. -/
def shiftPointCount (stage : OutputStage F D) : ℕ :=
  millisToPoints stage.pointRate (FloatArith.max stage.scannerSyncTime 0.0 * 0.1)

/-- Pass the points through the delay line: every point takes the colour that comes out. -/
def applyScannerSync (stage : OutputStage F D) (points : List (LaserPoint F)) :
    OutputStage F D × List (LaserPoint F) :=
  if stage.bypassed then ({ stage with scannerSyncColourDelayLine := [] }, points)
  else
    let line := DelayLine.resize stage.shiftPointCount default stage.scannerSyncColourDelayLine
    if 0 < stage.shiftPointCount then
      let (colourPoints, line) := DelayLine.shift line points
      ({ stage with scannerSyncColourDelayLine := line },
        List.zipWith LaserPoint.withColourOf points colourPoints)
    else ({ stage with scannerSyncColourDelayLine := line }, points)

def postProcessOutputPoints (stage : OutputStage F D) (points : List (LaserPoint F)) :
    OutputStage F D × List (LaserPoint F) :=
  let (stage, points) := stage.applyStartupBlankToOutputPoints points
  let (stage, points) := stage.applyArmed points
  stage.applyScannerSync points

/-! ## Arming -/

def resetStartupBlank (stage : OutputStage F D) : OutputStage F D :=
  { stage with
    startupBlankPointsRemaining := millisToPoints stage.pointRate (1.0 : D)
    scannerSyncColourDelayLine := [] }

def resetShutdownBlank (stage : OutputStage F D) : OutputStage F D :=
  let syncTenThousandths :=
    if stage.scannerSyncEnabled then FloatArith.max stage.scannerSyncTime 0.0 else 0.0
  let syncPoints := millisToPoints stage.pointRate (syncTenThousandths * 0.1)
  let dwellPoints := millisToPoints stage.pointRate (1.0 : D)
  { stage with
    shutdownBlankPointsRemaining := syncPoints + dwellPoints
    scannerSyncColourDelayLine := [] }

/-- A call that no other thread interrupts. -/
def setArmed (state : Bool) (stage : OutputStage F D) : OutputStage F D :=
  let wasArmed := stage.armed
  let stage := { stage with armed := state }
  if state && !wasArmed then stage.resetStartupBlank
  else if !state && wasArmed then stage.resetShutdownBlank
  else stage

def setScannerSync (offsetTenThousandths : D) (stage : OutputStage F D) : OutputStage F D :=
  { stage with scannerSyncTime := FloatArith.max offsetTenThousandths 0.0 }

def setScannerSyncEnabled (enabled : Bool) (stage : OutputStage F D) : OutputStage F D :=
  let wasEnabled := stage.scannerSyncEnabled
  let stage := { stage with scannerSyncEnabled := enabled }
  if wasEnabled != enabled then { stage with scannerSyncColourDelayLine := [] } else stage

def setScannerSyncPostProcessSuppressed (suppressed : Bool) (stage : OutputStage F D) :
    OutputStage F D :=
  let wasSuppressed := stage.scannerSyncPostProcessSuppressed
  let stage := { stage with scannerSyncPostProcessSuppressed := suppressed }
  if wasSuppressed != suppressed then { stage with scannerSyncColourDelayLine := [] } else stage

@[simp] theorem applyScannerSync_armed (stage : OutputStage F D) (points : List (LaserPoint F)) :
    (stage.applyScannerSync points).1.armed = stage.armed := by
  unfold applyScannerSync
  split
  · rfl
  · split <;> rfl

@[simp] theorem applyScannerSync_counter (stage : OutputStage F D)
    (points : List (LaserPoint F)) :
    (stage.applyScannerSync points).1.startupBlankPointsRemaining =
      stage.startupBlankPointsRemaining := by
  unfold applyScannerSync
  split
  · rfl
  · split <;> rfl

@[simp] theorem applyScannerSync_pointRate (stage : OutputStage F D)
    (points : List (LaserPoint F)) :
    (stage.applyScannerSync points).1.pointRate = stage.pointRate := by
  unfold applyScannerSync
  split
  · rfl
  · split <;> rfl

theorem length_applyScannerSync (stage : OutputStage F D) (points : List (LaserPoint F)) :
    (stage.applyScannerSync points).2.length = points.length := by
  unfold applyScannerSync
  split
  · rfl
  · split
    · simp [DelayLine.length_shift_fst]
    · rfl

/-- **Post-processing keeps the number of points.** -/
theorem length_postProcessOutputPoints (stage : OutputStage F D) (points : List (LaserPoint F)) :
    (stage.postProcessOutputPoints points).2.length = points.length := by
  simp only [postProcessOutputPoints, length_applyScannerSync, length_applyArmed,
    applyStartupBlankToOutputPoints, length_blankFirst]

/-! ## Light in the delay line -/

theorem dark_zipWith_take {points colours : List (LaserPoint F)} {n : ℕ}
    (h : ∀ c ∈ colours.take n, c.Dark) :
    ∀ q ∈ (List.zipWith LaserPoint.withColourOf points colours).take n, q.Dark := by
  intro q hq
  rw [List.take_zipWith] at hq
  obtain ⟨i, hi⟩ := List.mem_iff_getElem?.mp hq
  obtain ⟨p, c, -, hc, rfl⟩ := List.getElem?_zipWith_eq_some.mp hi
  exact LaserPoint.dark_withColourOf.mpr (h c (List.mem_of_getElem? hc))

/-- Points that leave the delay line are dark where they went in dark behind a dark line. -/
theorem dark_applyScannerSync_take {stage : OutputStage F D} {points : List (LaserPoint F)} {n : ℕ}
    (hline : stage.bypassed = false → stage.LineDark) (hpoints : ∀ p ∈ points.take n, p.Dark) :
    ∀ p ∈ (stage.applyScannerSync points).2.take n, p.Dark := by
  unfold applyScannerSync
  split
  · exact hpoints
  · rename_i hactive
    split
    · exact dark_zipWith_take (DelayLine.forall_shift_fst_take
        (DelayLine.forall_resize (hline (by simpa using hactive)) LaserPoint.dark_default) hpoints)
    · exact hpoints

theorem dark_applyScannerSync {stage : OutputStage F D} {points : List (LaserPoint F)}
    (hline : stage.bypassed = false → stage.LineDark) (hpoints : ∀ p ∈ points, p.Dark) :
    ∀ p ∈ (stage.applyScannerSync points).2, p.Dark := by
  have h : ∀ p ∈ (stage.applyScannerSync points).2.take points.length, p.Dark :=
    dark_applyScannerSync_take hline (by simpa using hpoints)
  rwa [List.take_of_length_le (by rw [length_applyScannerSync])] at h

/-- The line is dark after a batch whose last points, as many as it holds, are dark. -/
theorem lineDark_applyScannerSync {stage : OutputStage F D} {points : List (LaserPoint F)}
    (hline : stage.bypassed = false → stage.LineDark)
    (hpoints : stage.bypassed = false →
      ∀ p ∈ points.drop (points.length - stage.shiftPointCount), p.Dark) :
    (stage.applyScannerSync points).1.LineDark := by
  unfold applyScannerSync
  split
  · simp [LineDark]
  · rename_i hactive
    have hactive : stage.bypassed = false := by simpa using hactive
    have hresize := DelayLine.forall_resize (n := stage.shiftPointCount) (hline hactive)
      LaserPoint.dark_default
    split
    · refine DelayLine.forall_shift_snd hresize ?_
      rw [DelayLine.length_resize]
      exact hpoints hactive
    · exact hresize

end OutputStage

end LiberaLaser
