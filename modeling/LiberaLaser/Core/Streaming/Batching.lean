import LiberaLaser.Core.Streaming.DisarmSafety
import LiberaLaser.Foundations.Batches

/-!
# Post-processing does not see the batches

The transport asks for points in batches of any size. Each of the three stages of
`postProcessOutputPoints` splits, and they use disjoint parts of the state, so they split together.
What comes out can then be said point by point: an armed controller sends the geometry that went in
with colours from further back, and a disarmed one holds its last position and moves to the centre.
-/

namespace LiberaLaser

namespace OutputStage

open Batches

variable {F D : Type} [FloatArith F]

/-! ## Each stage splits -/

theorem blankFirst_append (n : ℕ) (xs ys : List (LaserPoint F)) :
    blankFirst n (xs ++ ys) =
      ((blankFirst n xs).1 ++ (blankFirst (blankFirst n xs).2 ys).1,
        (blankFirst (blankFirst n xs).2 ys).2) := by
  induction xs generalizing n with
  | nil => cases n <;> rfl
  | cons x xs ih =>
    cases n with
    | zero => cases ys <;> rfl
    | succ n => simp only [List.cons_append, blankFirst, ih]

theorem park_append (x y : F) (n : ℕ) (xs ys : List (LaserPoint F)) :
    park x y n (xs ++ ys) =
      ((park x y n xs).1 ++ (park x y (park x y n xs).2 ys).1,
        (park x y (park x y n xs).2 ys).2) := by
  induction xs generalizing n with
  | nil => simp [park]
  | cons p xs ih => cases n <;> simp only [List.cons_append, park, ih]

/-- Writing the counter back where it was zero changes nothing. -/
theorem applyStartupBlankToOutputPoints_eq (stage : OutputStage F D)
    (points : List (LaserPoint F)) :
    stage.applyStartupBlankToOutputPoints points =
      ({ stage with startupBlankPointsRemaining :=
          (blankFirst stage.startupBlankPointsRemaining points).2 },
        (blankFirst stage.startupBlankPointsRemaining points).1) := by
  rcases stage with ⟨_, _, _, _, _, _, _ | n, _, _, _⟩
  · simp [applyStartupBlankToOutputPoints, storeStartupBlank, blankFirst]
  · simp [applyStartupBlankToOutputPoints, storeStartupBlank]

theorem splits_startupBlank :
    Splits (applyStartupBlankToOutputPoints : OutputStage F D → _) := by
  intro stage xs ys
  simp only [applyStartupBlankToOutputPoints_eq, blankFirst_append]

/-- The last content position after a batch. -/
def trackContent (stage : OutputStage F D) (points : List (LaserPoint F)) : OutputStage F D :=
  { stage with
    lastContentX := (points.getLast?.map LaserPoint.x).getD stage.lastContentX
    lastContentY := (points.getLast?.map LaserPoint.y).getD stage.lastContentY }

theorem applyArmed_eq (stage : OutputStage F D) (points : List (LaserPoint F)) :
    stage.applyArmed points =
      if stage.armed then (stage.trackContent points, points)
      else
        ({ stage with shutdownBlankPointsRemaining :=
            (park stage.lastContentX stage.lastContentY
              stage.shutdownBlankPointsRemaining points).2 },
          (park stage.lastContentX stage.lastContentY
            stage.shutdownBlankPointsRemaining points).1) := by
  rcases stage with ⟨_ | _, _, _, _, _, _, _, _, _, _⟩
  · simp [applyArmed]
  · cases hl : points.getLast? <;> simp [applyArmed, trackContent, hl]

theorem splits_applyArmed : Splits (applyArmed : OutputStage F D → _) := by
  intro stage xs ys
  rcases stage with ⟨_ | _, _, _, _, _, _, _, _, _, _⟩
  · simp [applyArmed_eq, park_append]
  · -- the later part decides, unless it is empty
    cases hl : ys.getLast? <;> simp [applyArmed_eq, trackContent, List.getLast?_append, hl]

theorem commutes_startupBlank_applyArmed :
    Commutes (applyStartupBlankToOutputPoints : OutputStage F D → _) applyArmed where
  state stage xs ys := by
    rcases stage with ⟨_ | _, _, _, _, _, _, _, _, _, _⟩ <;>
      simp [applyStartupBlankToOutputPoints_eq, applyArmed_eq, trackContent]
  left stage xs ys := by
    simp only [applyStartupBlankToOutputPoints_eq, applyArmed_counter]
  right stage xs ys := by
    rcases stage with ⟨_ | _, _, _, _, _, _, _, _, _, _⟩ <;>
      simp [applyStartupBlankToOutputPoints_eq, applyArmed_eq]

theorem getElem?_blankFirst (n : ℕ) (points : List (LaserPoint F)) (k : ℕ) :
    (blankFirst n points).1[k]? = points[k]?.map fun p => if k < n then p.blank else p := by
  induction points generalizing n k with
  | nil => cases n <;> simp [blankFirst]
  | cons p points ih =>
    cases n with
    | zero => simp [blankFirst]
    | succ n =>
      cases k with
      | zero => simp [blankFirst]
      | succ k => simpa [blankFirst] using ih n k

theorem getElem?_park (x y : F) (n : ℕ) (points : List (LaserPoint F)) (k : ℕ) :
    (park x y n points).1[k]? = points[k]?.map fun p =>
      if k < n then { p.blank with x := x, y := y } else { p.blank with x := 0.0, y := 0.0 } := by
  induction points generalizing n k with
  | nil => simp [park]
  | cons p points ih =>
    cases n with
    | zero =>
      cases k with
      | zero => simp [park]
      | succ k => simpa [park] using ih 0 k
    | succ n =>
      cases k with
      | zero => simp [park]
      | succ k => simpa [park] using ih n k

/-- A disarmed controller has no light in its delay line. -/
def DisarmedDark (stage : OutputStage F D) : Prop := stage.armed = false → stage.LineDark

theorem disarmedDark_of_nil {stage : OutputStage F D}
    (h : stage.scannerSyncColourDelayLine = []) : stage.DisarmedDark := by
  intro _ p hp
  rw [h] at hp
  cases hp

variable [FloatArith D]

/-- How far the colours lag behind the geometry. -/
def colourLag (stage : OutputStage F D) : ℕ := if stage.bypassed then 0 else stage.shiftPointCount

/-- A line of length zero hands every point its own colour, so the bypass is no case apart. -/
theorem applyScannerSync_eq (stage : OutputStage F D) (points : List (LaserPoint F)) :
    stage.applyScannerSync points =
      ({ stage with scannerSyncColourDelayLine :=
          (DelayLine.shift (DelayLine.resize stage.colourLag default
            stage.scannerSyncColourDelayLine) points).2 },
        List.zipWith LaserPoint.withColourOf points
          (DelayLine.shift (DelayLine.resize stage.colourLag default
            stage.scannerSyncColourDelayLine) points).1) := by
  have hself : List.zipWith LaserPoint.withColourOf points points = points := by
    rw [List.zipWith_self]
    exact List.map_id points
  have hzero : DelayLine.resize 0 default stage.scannerSyncColourDelayLine = [] :=
    List.eq_nil_of_length_eq_zero (DelayLine.length_resize 0 default _)
  have hthrough : DelayLine.shift [] points = (points, []) := by
    rw [DelayLine.shift_eq, List.nil_append, List.take_length, List.drop_length]
  unfold applyScannerSync colourLag
  split
  · rw [hzero, hthrough, hself]
  · split
    · rfl
    · rename_i hshift
      rw [Nat.eq_zero_of_not_pos hshift, hzero, hthrough, hself]

theorem splits_applyScannerSync : Splits (applyScannerSync : OutputStage F D → _) := by
  intro stage xs ys
  have hlength : (DelayLine.shift (DelayLine.resize stage.colourLag default
      stage.scannerSyncColourDelayLine) xs).2.length = stage.colourLag := by
    rw [DelayLine.length_shift_snd, DelayLine.length_resize]
  have hlag : ∀ line, colourLag { stage with scannerSyncColourDelayLine := line } =
      stage.colourLag := fun _ => rfl
  simp only [applyScannerSync_eq, hlag]
  rw [DelayLine.resize_of_length hlength, DelayLine.shift_append,
    List.zipWith_append (DelayLine.length_shift_fst _ xs).symm]

/-! ## The stages together -/

theorem commutes_startupBlank_applyScannerSync :
    Commutes (applyStartupBlankToOutputPoints : OutputStage F D → _) applyScannerSync where
  state stage xs ys := by
    simp only [applyStartupBlankToOutputPoints_eq, applyScannerSync_eq]
    rfl
  left stage xs ys := by simp only [applyStartupBlankToOutputPoints_eq, applyScannerSync_counter]
  right stage xs ys := by
    simp only [applyStartupBlankToOutputPoints_eq, applyScannerSync_eq]
    rfl

theorem commutes_applyArmed_applyScannerSync :
    Commutes (applyArmed : OutputStage F D → _) applyScannerSync where
  state stage xs ys := by
    rcases stage with ⟨_ | _, _, _, _, _, _, _, _, _, _⟩ <;>
      simp only [applyScannerSync_eq, applyArmed_eq, trackContent] <;> rfl
  left stage xs ys := by
    rcases stage with ⟨_ | _, _, _, _, _, _, _, _, _, _⟩ <;>
      simp only [applyScannerSync_eq, applyArmed_eq] <;> rfl
  right stage xs ys := by
    rcases stage with ⟨_ | _, _, _, _, _, _, _, _, _, _⟩ <;>
      simp only [applyScannerSync_eq, applyArmed_eq, trackContent] <;> rfl

theorem splits_postProcessOutputPoints :
    Splits (postProcessOutputPoints : OutputStage F D → _) :=
  splits_startupBlank.andThen
    (splits_applyArmed.andThen splits_applyScannerSync commutes_applyArmed_applyScannerSync)
    (commutes_startupBlank_applyArmed.andThen commutes_startupBlank_applyScannerSync)

theorem process_postProcessOutputPoints_snd (stage : OutputStage F D)
    (batches : List (List (LaserPoint F))) :
    (process postProcessOutputPoints stage batches).2 =
      (stage.postProcessOutputPoints batches.flatten).2 := by
  by_cases hne : batches = []
  · subst hne
    have hlength := length_postProcessOutputPoints stage []
    exact (List.eq_nil_of_length_eq_zero hlength).symm
  · rw [process_eq splits_postProcessOutputPoints stage hne]

/-! ## The output, point by point -/

theorem getElem?_applyScannerSync (stage : OutputStage F D) (points : List (LaserPoint F)) (k : ℕ) :
    (stage.applyScannerSync points).2[k]? =
      points[k]?.bind fun p =>
        (DelayLine.shift (DelayLine.resize stage.colourLag default
          stage.scannerSyncColourDelayLine) points).1[k]?.map p.withColourOf := by
  rw [applyScannerSync_eq, List.getElem?_zipWith']
  cases points[k]? <;> rfl

/-- What comes out depends on the state before the batch alone. -/
theorem postProcessOutputPoints_snd (stage : OutputStage F D) (points : List (LaserPoint F)) :
    (stage.postProcessOutputPoints points).2 =
      (stage.applyScannerSync
        (stage.applyArmed (blankFirst stage.startupBlankPointsRemaining points).1).2).2 := by
  have hblank : (stage.applyStartupBlankToOutputPoints points).2 =
      (blankFirst stage.startupBlankPointsRemaining points).1 := by
    rw [applyStartupBlankToOutputPoints_eq]
  rw [← hblank]
  simp only [postProcessOutputPoints, commutes_applyArmed_applyScannerSync.right,
    commutes_startupBlank_applyScannerSync.right, commutes_startupBlank_applyArmed.right]

/-- **An armed controller** with an empty line keeps the geometry, and every point takes the
colour of the point as far back as the colours lag, dark before the first. -/
theorem getElem?_postProcessOutputPoints_of_armed {stage : OutputStage F D}
    (harmed : stage.armed = true) (hline : stage.scannerSyncColourDelayLine = [])
    {points : List (LaserPoint F)} {k : ℕ} {p : LaserPoint F} (hp : points[k]? = some p) :
    (k < stage.colourLag → (stage.postProcessOutputPoints points).2[k]? = some p.blank) ∧
      ∀ c, stage.colourLag ≤ k → points[k - stage.colourLag]? = some c →
        (stage.postProcessOutputPoints points).2[k]? = some (p.withColourOf
          (if k - stage.colourLag < stage.startupBlankPointsRemaining then c.blank else c)) := by
  have hk : k < (blankFirst stage.startupBlankPointsRemaining points).1.length := by
    rw [length_blankFirst]
    exact (List.getElem?_eq_some_iff.mp hp).1
  -- the geometry of a point is the same whether it is blanked or not
  have hgeometry : ∀ c, LaserPoint.withColourOf
      (if k < stage.startupBlankPointsRemaining then p.blank else p) c = p.withColourOf c := by
    intro c
    split <;> rfl
  have hout : (stage.postProcessOutputPoints points).2[k]? =
      (if k < stage.colourLag then some default
        else (blankFirst stage.startupBlankPointsRemaining points).1[k - stage.colourLag]?).map
          p.withColourOf := by
    rw [postProcessOutputPoints_snd, applyArmed_of_armed harmed, getElem?_applyScannerSync, hline,
      DelayLine.resize, List.take_nil, List.nil_append, List.length_nil, Nat.sub_zero,
      DelayLine.getElem?_shift_replicate hk, getElem?_blankFirst, hp]
    simp only [Option.map_some, Option.bind_some, funext hgeometry]
  constructor
  · intro hlag
    rw [hout, if_pos hlag]
    rfl
  · intro c hlag hc
    rw [hout, if_neg (Nat.not_lt.mpr hlag), getElem?_blankFirst, hc]
    rfl

/-- **A disarmed controller** holds its last content position, dark, and moves to the centre. -/
theorem position_of_disarmed {stage : OutputStage F D} (harmed : stage.armed = false)
    {points : List (LaserPoint F)} {k : ℕ} {q : LaserPoint F}
    (hq : (stage.postProcessOutputPoints points).2[k]? = some q) :
    (q.x, q.y) = if k < stage.shutdownBlankPointsRemaining
      then (stage.lastContentX, stage.lastContentY) else (0.0, 0.0) := by
  rw [postProcessOutputPoints_snd, getElem?_applyScannerSync, applyArmed_eq, harmed] at hq
  obtain ⟨p, hp, hq⟩ := Option.bind_eq_some_iff.mp hq
  obtain ⟨c, -, rfl⟩ := Option.map_eq_some_iff.mp hq
  simp only [Bool.false_eq_true, if_false, getElem?_park] at hp
  obtain ⟨b, -, rfl⟩ := Option.map_eq_some_iff.mp hp
  split <;> rfl

/-- What is left of the line at the length it is set to is dark. -/
def FrontDark (stage : OutputStage F D) : Prop :=
  ∀ p ∈ stage.scannerSyncColourDelayLine.take stage.colourLag, p.Dark

/-- **A disarmed controller is dark** just where no light is left in the line that it empties. -/
theorem dark_postProcessOutputPoints_iff {stage : OutputStage F D} (harmed : stage.armed = false) :
    (∀ points, ∀ q ∈ (stage.postProcessOutputPoints points).2, q.Dark) ↔ stage.FrontDark := by
  constructor
  · intro hdark p hp
    obtain ⟨k, hk⟩ := List.mem_iff_getElem?.mp hp
    have hlag : k < stage.colourLag := by
      have hlength := (List.getElem?_eq_some_iff.mp hk).1
      rw [List.length_take] at hlength
      omega
    -- a batch as long as the line pushes all of it out
    have hbatch := hdark (List.replicate stage.colourLag default)
    rw [postProcessOutputPoints_snd] at hbatch
    generalize hbatch' : (stage.applyArmed (blankFirst stage.startupBlankPointsRemaining
      (List.replicate stage.colourLag default)).1).2 = batch at hbatch
    have hsize : batch.length = stage.colourLag := by
      rw [← hbatch', length_applyArmed, length_blankFirst, List.length_replicate]
    have hcolour : (DelayLine.shift (DelayLine.resize stage.colourLag default
        stage.scannerSyncColourDelayLine) batch).1[k]? = some p := by
      rw [DelayLine.shift_eq, List.getElem?_take_of_lt (hsize ▸ hlag), DelayLine.resize,
        List.append_assoc, List.getElem?_append_left (List.getElem?_eq_some_iff.mp hk).1, hk]
    have hout : (stage.applyScannerSync batch).2[k]? =
        some ((batch.get ⟨k, hsize ▸ hlag⟩).withColourOf p) := by
      rw [getElem?_applyScannerSync, hcolour, List.getElem?_eq_getElem (hsize ▸ hlag)]
      rfl
    exact LaserPoint.dark_withColourOf.mp (hbatch _ (List.mem_of_getElem? hout))
  · intro hfront points
    rw [postProcessOutputPoints_snd, applyScannerSync_eq]
    intro q hq
    obtain ⟨k, hk⟩ := List.mem_iff_getElem?.mp hq
    obtain ⟨p, c, -, hc, rfl⟩ := List.getElem?_zipWith_eq_some.mp hk
    exact LaserPoint.dark_withColourOf.mpr (DelayLine.forall_shift_fst
      (DelayLine.forall_resize_of_take hfront LaserPoint.dark_default) (dark_applyArmed harmed _) c
      (List.mem_of_getElem? hc))

/-! ## Calls one after the other -/

end OutputStage

/-- What is called on a controller, one call after the other: the setters, and a batch. -/
inductive StageCall (F D : Type)
  | setArmed (state : Bool)
  | setPointRate (pointRateValue : ℕ)
  | setScannerSync (offsetTenThousandths : D)
  | setScannerSyncEnabled (enabled : Bool)
  | setScannerSyncPostProcessSuppressed (suppressed : Bool)
  | output (points : List (LaserPoint F))

namespace OutputStage

open Batches

variable {F D : Type} [FloatArith D]

/-- Arming finds an empty line and the whole startup count ahead. -/
theorem setArmed_of_disarmed {stage : OutputStage F D} (h : stage.armed = false) :
    (stage.setArmed true).armed = true ∧
      (stage.setArmed true).scannerSyncColourDelayLine = [] ∧
      (stage.setArmed true).startupBlankPointsRemaining = stage.startupBlankPoints := by
  simp [setArmed, h, resetStartupBlank, startupBlankPoints]

variable [FloatArith F]

def call (stage : OutputStage F D) : StageCall F D → OutputStage F D
  | .setArmed state => stage.setArmed state
  | .setPointRate pointRateValue => stage.setPointRate pointRateValue
  | .setScannerSync offsetTenThousandths => stage.setScannerSync offsetTenThousandths
  | .setScannerSyncEnabled enabled => stage.setScannerSyncEnabled enabled
  | .setScannerSyncPostProcessSuppressed suppressed =>
    stage.setScannerSyncPostProcessSuppressed suppressed
  | .output points => (stage.postProcessOutputPoints points).1

/-- A call keeps the line of a disarmed controller dark. -/
theorem disarmedDark_call {stage : OutputStage F D} (h : stage.DisarmedDark)
    (c : StageCall F D) : (stage.call c).DisarmedDark := by
  cases c with
  | setArmed state =>
    simp only [call, setArmed]
    split
    · exact disarmedDark_of_nil rfl
    · split
      · exact disarmedDark_of_nil rfl
      · -- the flag was down before, or it is up now
        rename_i hdown
        intro hstate
        cases harmed : stage.armed with
        | false => exact h harmed
        | true => simp_all
  | setPointRate pointRateValue => exact h
  | setScannerSync offsetTenThousandths => exact h
  | setScannerSyncEnabled enabled =>
    simp only [call, setScannerSyncEnabled]
    split
    · exact disarmedDark_of_nil rfl
    · exact h
  | setScannerSyncPostProcessSuppressed suppressed =>
    simp only [call, setScannerSyncPostProcessSuppressed]
    split
    · exact disarmedDark_of_nil rfl
    · exact h
  | output points =>
    intro hafter
    have harmed : stage.armed = false := by
      rwa [call, postProcessOutputPoints, applyScannerSync_armed, applyArmed_armed,
        applyStartupBlankToOutputPoints_eq] at hafter
    simp only [call, postProcessOutputPoints, applyStartupBlankToOutputPoints_eq]
    refine lineDark_applyScannerSync (fun _ => ?_) (fun _ p hp => ?_)
    · simp only [LineDark, applyArmed_line]
      exact h harmed
    · refine dark_applyArmed ?_ _ p (List.mem_of_mem_drop hp)
      exact harmed

theorem disarmedDark_calls {stage : OutputStage F D} (h : stage.DisarmedDark)
    (calls : List (StageCall F D)) : (calls.foldl call stage).DisarmedDark := by
  induction calls generalizing stage with
  | nil => exact h
  | cons c calls ih => exact ih (disarmedDark_call h c)

/-- **Post-processing is independent of batching**, from every state and for every cut. From an
armed state with an empty line, such as arming gives, the colours lag behind the geometry. A
disarmed controller holds its position, then the centre, and it is dark exactly where the part of
the line that comes out is dark: in every state that calls one after the other lead to. -/
theorem process_postProcessOutputPoints :
    (∀ (stage : OutputStage F D) (batches : List (List (LaserPoint F))), batches ≠ [] →
      process postProcessOutputPoints stage batches =
        stage.postProcessOutputPoints batches.flatten) ∧
    (∀ stage : OutputStage F D, stage.armed = true → stage.scannerSyncColourDelayLine = [] →
      ∀ (batches : List (List (LaserPoint F))) (k : ℕ) (p : LaserPoint F),
        batches.flatten[k]? = some p →
          (k < stage.colourLag →
            (process postProcessOutputPoints stage batches).2[k]? = some p.blank) ∧
          ∀ c, stage.colourLag ≤ k → batches.flatten[k - stage.colourLag]? = some c →
            (process postProcessOutputPoints stage batches).2[k]? = some (p.withColourOf
              (if k - stage.colourLag < stage.startupBlankPointsRemaining then c.blank else c))) ∧
    (∀ stage : OutputStage F D, stage.armed = false →
      (stage.setArmed true).armed = true ∧
        (stage.setArmed true).scannerSyncColourDelayLine = [] ∧
        (stage.setArmed true).startupBlankPointsRemaining = stage.startupBlankPoints) ∧
    (∀ stage : OutputStage F D, stage.armed = false →
      ∀ (batches : List (List (LaserPoint F))) (k : ℕ) (q : LaserPoint F),
        (process postProcessOutputPoints stage batches).2[k]? = some q →
          (q.x, q.y) = if k < stage.shutdownBlankPointsRemaining
            then (stage.lastContentX, stage.lastContentY) else (0.0, 0.0)) ∧
    (∀ stage : OutputStage F D, stage.armed = false →
      ((∀ batches, ∀ q ∈ (process postProcessOutputPoints stage batches).2, q.Dark) ↔
        stage.FrontDark)) ∧
    (∀ (rate : ℕ) (sync : D) (enabled suppressed : Bool) (calls : List (StageCall F D)),
      (calls.foldl call (fresh rate sync enabled suppressed)).armed = false →
      ∀ batches : List (List (LaserPoint F)),
        ∀ q ∈ (process postProcessOutputPoints
          (calls.foldl call (fresh rate sync enabled suppressed)) batches).2, q.Dark) := by
  refine ⟨fun stage batches hne => process_eq splits_postProcessOutputPoints stage hne,
    fun stage harmed hline batches k p hp => ?_, fun stage => setArmed_of_disarmed,
    fun stage harmed batches k q hq => ?_, fun stage harmed => ?_,
    fun rate sync enabled suppressed calls harmed batches => ?_⟩
  · rw [process_postProcessOutputPoints_snd]
    exact getElem?_postProcessOutputPoints_of_armed harmed hline hp
  · rw [process_postProcessOutputPoints_snd] at hq
    exact position_of_disarmed harmed hq
  · rw [← dark_postProcessOutputPoints_iff harmed]
    constructor
    · intro hdark points
      have hone := hdark [points]
      rwa [process_postProcessOutputPoints_snd, List.flatten_singleton] at hone
    · intro hdark batches
      rw [process_postProcessOutputPoints_snd]
      exact hdark batches.flatten
  · rw [process_postProcessOutputPoints_snd]
    have hdark : (fresh rate sync enabled suppressed : OutputStage F D).DisarmedDark :=
      disarmedDark_of_nil rfl
    exact (dark_postProcessOutputPoints_iff harmed).mpr
      (fun p hp => disarmedDark_calls hdark calls harmed p (List.mem_of_mem_take hp)) _

/-- The line of a disarmed controller is not always dark: a disarm in the middle of a pass leaves
the red point of that pass there, and the next batch carries it. -/
theorem lit_of_disarmed : ∃ (labels : List (ArmingStep ℚ ℚ)) (s : Arming ℚ ℚ)
    (events : List (ArmingEvent ℚ)),
      Runs.run Arming.step { stage := Arming.onePointDelay } labels = some (s, events) ∧
      s.stage.armed = false ∧
      ∃ q ∈ (process postProcessOutputPoints s.stage [[default]]).2, q.Lit := by
  have hlast : (Runs.run Arming.step { stage := Arming.onePointDelay } (Arming.disarmMidPass ++
      [.exchange 0 false, .reset 0, .delayLine])).map (fun r => (r.1.stage.armed,
        (process postProcessOutputPoints r.1.stage [[default]]).2)) =
      some (false, [Arming.redPoint]) := by decide +kernel
  obtain ⟨⟨s, events⟩, hrun, hs⟩ := Option.map_eq_some_iff.mp hlast
  obtain ⟨harmed, hout⟩ := Prod.mk.inj hs
  refine ⟨_, s, events, hrun, harmed, Arming.redPoint, ?_, ?_⟩
  · simp only [hout, List.mem_singleton]
  · decide +kernel

end OutputStage

end LiberaLaser
