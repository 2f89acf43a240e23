import LiberaLaser.Core.Framer.BufferBound

/-!
# The framer makes progress

Whatever the accumulator holds, the settings are and the scores compare to, the boundary search
stays within the accumulator and the frame limit. So every cut takes points off, the loop that
prepares frames ends, and a call hands out a frame exactly when there is a callback and a point to
hand out.
-/

namespace LiberaLaser.PointStreamFramer

open FloatArith Loop

variable {τ F : Type}

/-- The framer's nominal size is positive and no prepared frame is empty. -/
structure Sound (framer : PointStreamFramer τ F) : Prop where
  nominal : 1 ≤ framer.nominalFrameSize
  frame_ne : ∀ frame ∈ framer.preparedFrames, frame ≠ []

theorem Sound.configure {framer : PointStreamFramer τ F} (h : Sound framer)
    (call : FramingCall τ F) : Sound (framer.configure call) :=
  ⟨framer.one_le_configure call, h.frame_ne⟩

variable [FloatArith F]

/-! ## The points near home -/

theorem firstNearHome_le {accumulator : List (LaserPoint F)} {frameHome : LaserPoint F}
    {runStart i first : ℕ} (hstart : runStart ≤ i)
    (h : firstNearHome accumulator frameHome runStart i = some first) :
    runStart ≤ first ∧ first ≤ i := by
  induction i with
  | zero =>
    cases h
    exact ⟨hstart, le_rfl⟩
  | succ i ih =>
    rw [firstNearHome] at h
    split at h
    · split at h
      · cases h
      · split at h
        · exact (ih (by omega) h).imp_right (by omega)
        · cases h
          exact ⟨hstart, le_rfl⟩
    · cases h
      exact ⟨hstart, le_rfl⟩

theorem le_lastNearHome {accumulator : List (LaserPoint F)} {frameHome : LaserPoint F}
    {i count last : ℕ} (h : lastNearHome accumulator frameHome i count = some last) :
    i ≤ last ∧ last ≤ i + count := by
  induction count generalizing i with
  | zero =>
    cases h
    exact ⟨le_rfl, le_rfl⟩
  | succ count ih =>
    rw [lastNearHome] at h
    split at h
    · cases h
    · split at h
      · have := ih h
        omega
      · cases h
        omega

/-- **No difference of indices wraps**: the points near home lie in the run, in order. -/
theorem nearHome_ordered {accumulator : List (LaserPoint F)} {frameHome : LaserPoint F}
    {runStart runEnd first last : ℕ} {closest : Candidate F} (hrun : runStart < runEnd)
    (hend : runEnd ≤ accumulator.length)
    (hclosest : closestHome accumulator frameHome runStart runEnd = some closest)
    (hfirst : firstNearHome accumulator frameHome runStart closest.index = some first)
    (hlast : lastNearHome accumulator frameHome closest.index (runEnd - 1 - closest.index) =
      some last) :
    runStart ≤ first ∧ first ≤ last ∧ last < runEnd := by
  obtain ⟨closest', hclosest', hle, hlt⟩ := closestHome_spec frameHome hrun hend
  obtain rfl := Option.some.inj (hclosest.symm.trans hclosest')
  have hfirst := firstNearHome_le hle hfirst
  have hlast := le_lastNearHome hlast
  omega

/-! ## The points available -/

variable {callback : RequestPointsCallback τ F} {templateRequest : PointFillRequest}
  {framer : PointStreamFramer τ F}

/-- The points that a call can hand out: those prepared and accumulated, and those that the callback
produces when the call asks for more. -/
def available (callback : RequestPointsCallback τ F) (templateRequest : PointFillRequest)
    (framer : PointStreamFramer τ F) : List (Stamped τ F) :=
  framer.preparedFrames.flatten ++
    (framer.pullPoints callback templateRequest framer.pullCount).accumulator

/-- With nothing accumulated the callback is asked for points, unless the nominal size is so large
that its multiple wraps, or a tenth more than it rounds to nothing. -/
theorem pullCount_pos (hempty : framer.accumulator = []) (hnominal : 1 ≤ framer.nominalFrameSize)
    (hfits : framer.nominalFrameSize < 2 ^ 62) (hmax : 1 ≤ framer.maxFrameSize)
    (hround : 1 ≤ toSize (ofNat framer.nominalFrameSize * 1.1 : F)) : 0 < framer.pullCount := by
  have hwindow : framer.nominalFrameSize * 4 % 2 ^ 64 = framer.nominalFrameSize * 4 :=
    Nat.mod_eq_of_lt (by omega)
  refine lt_of_lt_of_le ?_ (Nat.le_max_left _ _)
  rw [hempty, List.length_nil, Nat.sub_zero, hwindow]
  split
  · exact Nat.lt_min.mpr ⟨hround, hmax⟩
  · exact Nat.lt_min.mpr ⟨by omega, hmax⟩

/-- A pass that goes on has prepared a frame. -/
theorem preparePass_again {desiredReadyFrames : ℕ} {framer' : PointStreamFramer τ F}
    (h : preparePass callback templateRequest desiredReadyFrames framer =
      some (.again framer')) : framer'.preparedFrames ≠ [] := by
  unfold preparePass at h
  split at h
  · cases h
  · dsimp only at h
    split at h
    · cases h
    · split at h
      · cases h
      · cases h
      · cases h
        exact List.append_ne_nil_of_right_ne_nil _ (List.cons_ne_nil _ _)

/-- A pass that ends the loop prepares none. -/
theorem preparePass_done {desiredReadyFrames : ℕ} {framer' : PointStreamFramer τ F}
    (h : preparePass callback templateRequest desiredReadyFrames framer =
      some (.done framer')) : framer'.preparedFrames = framer.preparedFrames := by
  have hpulled := (pullPoints_keeps callback templateRequest framer.pullCount framer).1
  unfold preparePass at h
  split at h
  · cases h
    rfl
  · dsimp only at h
    split at h
    · cases h
      exact hpulled
    · split at h
      · cases h
      · rename_i hextract
        cases h
        exact (extractOneFrame_keeps hextract).1.trans hpulled
      · cases h

theorem prepared_ne_nil_of_run {desiredReadyFrames budget : ℕ} {ready : PointStreamFramer τ F}
    (hprepared : framer.preparedFrames ≠ [])
    (h : run (preparePass callback templateRequest desiredReadyFrames) budget framer =
      some ready) : ready.preparedFrames ≠ [] :=
  run_partial (I := fun g => g.preparedFrames ≠ []) (P := fun g => g.preparedFrames ≠ [])
    (fun _ _ _ hpass => preparePass_again hpass)
    (fun _ _ hg hpass => (preparePass_done hpass).symm ▸ hg) hprepared h

/-- **No frame is prepared exactly when there is no point for one.** -/
theorem prepared_eq_nil_iff (hnominal : 1 ≤ framer.nominalFrameSize) {further : ℕ}
    {ready : PointStreamFramer τ F}
    (h : framer.ensurePreparedFrames callback templateRequest (1 + further) = some ready) :
    ready.preparedFrames = [] ↔ framer.preparedFrames = [] ∧
      (framer.pullPoints callback templateRequest framer.pullCount).accumulator = [] := by
  have hpulled := pullPoints_keeps callback templateRequest framer.pullCount framer
  by_cases hprepared : framer.preparedFrames = []
  · -- the first pass pulls, and prepares a frame unless nothing is accumulated then
    rw [ensurePreparedFrames, run] at h
    have hmore : ¬ 1 + further ≤ framer.preparedFrames.length := by
      rw [hprepared, List.length_nil]
      omega
    by_cases hempty : (framer.pullPoints callback templateRequest framer.pullCount).accumulator = []
    · have hpass : preparePass callback templateRequest (1 + further) framer =
          some (.done (framer.pullPoints callback templateRequest framer.pullCount)) := by
        simp only [preparePass, if_neg hmore, List.isEmpty_iff, hempty, if_true]
      rw [hpass] at h
      cases h
      exact iff_of_true (hpulled.1.trans hprepared) ⟨hprepared, hempty⟩
    · obtain ⟨cut, frame, hextract, -⟩ :=
        extractOneFrame_spec (hpulled.2.2.1.symm ▸ hnominal) hempty
      have hpass : preparePass callback templateRequest (1 + further) framer =
          some (.again { cut with
            preparedPointCount := cut.preparedPointCount + frame.length
            preparedFrames := cut.preparedFrames ++ [frame] }) := by
        simp only [preparePass, if_neg hmore, List.isEmpty_iff, hempty, if_false, hextract]
      rw [hpass] at h
      refine iff_of_false (prepared_ne_nil_of_run ?_ h) (fun hnone => hempty hnone.2)
      exact List.append_ne_nil_of_right_ne_nil _ (List.cons_ne_nil _ _)
  · exact iff_of_false (prepared_ne_nil_of_run hprepared h) (fun hnone => hprepared hnone.1)

/-! ## Runs -/

theorem Sound.move {framer' : PointStreamFramer τ F} (h : Sound framer)
    (hmove : Move callback templateRequest framer framer') : Sound framer' := by
  have hnominal : 1 ≤ framer'.nominalFrameSize := hmove.nominalFrameSize_eq ▸ h.nominal
  cases hmove with
  | pull count hcount =>
    exact ⟨hnominal, by simpa only [pullPoints, if_neg hcount] using h.frame_ne⟩
  | @prepare cut frame hcut =>
    refine ⟨hnominal, fun f hf => ?_⟩
    rcases List.mem_append.mp hf with hf | hf
    · exact h.frame_ne f (hcut.preparedFrames ▸ hf)
    · exact List.mem_singleton.mp hf ▸ hcut.frame_ne

/-- **A call returns `false` exactly when no point is available.** -/
theorem Sound.extractFrame (h : Sound framer) (callback : Option (RequestPointsCallback τ F))
    (templateRequest : PointFillRequest) :
    ∃ framer' frame, framer.extractFrame callback templateRequest = some (framer', frame) ∧
      Sound framer' ∧ (frame = none ↔ callback = none ∨ ∃ callback', callback = some callback' ∧
        framer.available callback' templateRequest = []) := by
  cases callback with
  | none => exact ⟨framer, none, rfl, h, iff_of_true rfl (Or.inl rfl)⟩
  | some callback =>
    obtain ⟨ready, hensure, hmoves⟩ :=
      @ensurePreparedFrames_spec _ _ _ callback templateRequest
        (1 + preparedFrameReserveCount) _ h.nominal
    have hready := Moves.invariant (fun _ _ => Sound.move) h hmoves
    have havailable : framer.available callback templateRequest = [] ↔
        ready.preparedFrames = [] := by
      rw [prepared_eq_nil_iff h.nominal hensure, available, List.append_eq_nil_iff,
        List.flatten_eq_nil_iff]
      refine and_congr_left fun _ => ⟨fun hall => ?_, fun hnone => by simp [hnone]⟩
      exact List.eq_nil_iff_forall_not_mem.mpr fun f hf => h.frame_ne f hf (hall f hf)
    cases hprepared : ready.preparedFrames with
    | nil =>
      refine ⟨ready, none, ?_, hready, ?_⟩
      · simp only [PointStreamFramer.extractFrame, hensure, hprepared]
      · exact iff_of_true rfl (Or.inr ⟨callback, rfl, havailable.mpr hprepared⟩)
    | cons front rest =>
      have hne : front ≠ [] := hready.frame_ne front (by simp [hprepared])
      refine ⟨ready.handOut front rest, some front, ?_, ⟨hready.nominal, ?_⟩,
        iff_of_false (Option.some_ne_none front) ?_⟩
      · simp only [PointStreamFramer.extractFrame, hensure, hprepared, List.isEmpty_iff, hne,
          if_false]
      · exact fun f hf => hready.frame_ne f (hprepared ▸ List.mem_cons_of_mem _ hf)
      · rintro (hnone | ⟨callback', hsome, hempty⟩)
        · cases hnone
        · cases hsome
          rw [havailable.mp hempty] at hprepared
          cases hprepared

/-- What the owner of a framer calls: an extraction, with the settings made before it, or a
reset. -/
inductive FramerCall (τ F : Type)
  | extractFrame (call : FramingCall τ F)
  | reset

/-- A call as a step. It observes the frame returned. -/
def callStep (framer : PointStreamFramer τ F) :
    FramerCall τ F → Option (PointStreamFramer τ F × List (List (Stamped τ F)))
  | .extractFrame call => step framer call
  | .reset => some (framer.reset, [])

theorem sound_new : Sound (new : PointStreamFramer τ F) :=
  ⟨by simp [new], fun _ hframe => absurd hframe List.not_mem_nil⟩

/-- **Every call returns**, and leaves the framer sound. -/
theorem Sound.callStep (h : Sound framer) (call : FramerCall τ F) :
    ∃ framer' frames, callStep framer call = some (framer', frames) ∧ Sound framer' := by
  cases call with
  | extractFrame call =>
    obtain ⟨framer', frame, hextract, h', -⟩ :=
      (h.configure call).extractFrame call.callback call.templateRequest
    exact ⟨framer', frame.toList, by simp only [PointStreamFramer.callStep, step, hextract], h'⟩
  | reset =>
    exact ⟨_, _, rfl, h.nominal, fun _ hframe => absurd hframe List.not_mem_nil⟩

/-- **Progress and index safety of the framer.** The search for a boundary returns, and cuts within
the frame limit and the accumulator; a cut takes points off; the loop that prepares frames ends; and
in every run of calls a call returns no frame exactly when there is no callback or no point is
available. A call that finds nothing accumulated does ask the callback. -/
theorem makes_progress :
    (∀ (accumulator : List (LaserPoint F)) (nominalFrameSize maxFrameSize : ℕ)
      (consecutiveForceEmits : ℕ) (anchorX anchorY : F),
      ∃ splitIndex, findNaturalBoundary accumulator nominalFrameSize maxFrameSize
        consecutiveForceEmits anchorX anchorY = some splitIndex ∧
        splitIndex ≤ min maxFrameSize accumulator.length) ∧
    (∀ (framer : PointStreamFramer τ F) (call : FramingCall τ F), framer.accumulator ≠ [] →
      ∃ framer' frame, (framer.configure call).extractOneFrame = some (framer', some frame) ∧
        frame ≠ [] ∧ framer.accumulator = frame ++ framer'.accumulator) ∧
    (∀ (framer : PointStreamFramer τ F) (call : FramingCall τ F)
      (callback : RequestPointsCallback τ F) (desiredReadyFrames : ℕ),
      ∃ framer', (framer.configure call).ensurePreparedFrames callback call.templateRequest
        desiredReadyFrames = some framer') ∧
    (∀ (calls : List (FramerCall τ F)) (call : FramingCall τ F),
      ∃ framer frames framer' frame, Runs.run callStep new calls = some (framer, frames) ∧
        (framer.configure call).extractFrame call.callback call.templateRequest =
          some (framer', frame) ∧
        (frame = none ↔ call.callback = none ∨ ∃ callback, call.callback = some callback ∧
          (framer.configure call).available callback call.templateRequest = [])) ∧
    ∀ (framer : PointStreamFramer τ F) (call : FramingCall τ F), framer.accumulator = [] →
      call.nominalFrameSize < 2 ^ 62 →
      1 ≤ toSize (ofNat (Nat.max call.nominalFrameSize 1) * 1.1 : F) →
      0 < (framer.configure call).pullCount := by
  refine ⟨fun accumulator N M forced x y => ?_, fun framer call hne => ?_,
    fun framer call callback desired => ?_, fun calls call => ?_,
    fun framer call hempty hfits hround => ?_⟩
  · obtain ⟨k, hk, hmax, hlength⟩ := findNaturalBoundary_spec accumulator N M forced x y
    exact ⟨k, hk, le_min hmax hlength⟩
  · obtain ⟨framer', frame, hextract, hcut⟩ :=
      extractOneFrame_spec (framer.one_le_configure call) hne
    exact ⟨framer', frame, hextract, hcut.frame_ne, hcut.accumulator⟩
  · obtain ⟨framer', hensure, -⟩ := @ensurePreparedFrames_spec _ _ _ callback
      call.templateRequest desired _ (framer.one_le_configure call)
    exact ⟨framer', hensure⟩
  · obtain ⟨framer, frames, hrun, h⟩ :=
      Runs.run_total (fun _ call h => Sound.callStep h call) sound_new calls
    obtain ⟨framer', frame, hextract, -, hiff⟩ :=
      (h.configure call).extractFrame call.callback call.templateRequest
    exact ⟨framer, frames, framer', frame, hrun, hextract, hiff⟩
  · have hfits' : (framer.configure call).nominalFrameSize < 2 ^ 62 :=
      Nat.max_lt.mpr ⟨hfits, by decide⟩
    exact pullCount_pos hempty (framer.one_le_configure call) hfits' (Nat.le_max_right _ _) hround

/-- A new framer asks a callback for points, and the points make a frame. -/
theorem makes_progress_trickle :
    0 < ((new : PointStreamFramer Unit ℚ).configure (trickleCall 0)).pullCount ∧
    ∃ framer frames framer' frame, Runs.run callStep new [.reset] = some (framer, frames) ∧
      (framer.configure (trickleCall 0)).extractFrame (some trickle) {} =
        some (framer', some frame) := by
  obtain ⟨-, -, -, hextract, hasks⟩ := makes_progress (τ := Unit) (F := ℚ)
  refine ⟨hasks new (trickleCall 0) rfl (by decide) (by decide +kernel), ?_⟩
  obtain ⟨framer, frames, framer', frame, hrun, hframe, hiff⟩ := hextract [.reset] (trickleCall 0)
  cases frame with
  | some frame => exact ⟨framer, frames, framer', frame, hrun, hframe⟩
  | none =>
    rw [Runs.run_singleton] at hrun
    cases hrun
    rcases hiff.mp rfl with hnone | ⟨callback, hsome, hempty⟩
    · cases hnone
    · cases hsome
      exact absurd hempty (by decide +kernel)

end LiberaLaser.PointStreamFramer
