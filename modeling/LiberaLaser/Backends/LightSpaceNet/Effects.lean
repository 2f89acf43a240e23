import LiberaLaser.Backends.LightSpaceNet.Model
import LiberaLaser.Core.Controller.ContentSource
import LiberaLaser.Core.Controller.NextFrame
import LiberaLaser.Core.Scheduler.WholeFrames

/-!
# What the turns of a LightSpaceNet controller change

Dark points come out of the output stage dark, unless its delay line holds light (`handedOut`). A
call of the application leaves the device as it is, and what it does to the queue and to the framer
is little (`applicationCall_effect`). Every frame with points is uploaded, unless it is blank and
the device is dark already (`uploaded_submitPattern`).
-/

namespace LiberaLaser

open FloatArith LightSpaceNet LightSpaceNetController LaserController PointStreamFramer
  FrameScheduler

variable {τ F D : Type} [FloatArith F]

/-- The device is dark. -/
def RetainedPattern.Blank (retained : RetainedPattern τ F) : Prop :=
  patternPointsAreBlank retained.points = true

instance (retained : RetainedPattern τ F) : Decidable retained.Blank :=
  inferInstanceAs (Decidable (_ = true))

/-! ## Dark points in the output stage -/

section Stage

theorem dark_blankFirst_of_dark (n : ℕ) {points : List (LaserPoint F)}
    (h : ∀ p ∈ points, p.Dark) : ∀ p ∈ (OutputStage.blankFirst n points).1, p.Dark := by
  fun_induction OutputStage.blankFirst n points with
  | case1 => exact h
  | case2 => exact h
  | case3 n point points points' remaining hrest ih =>
    rw [hrest] at ih
    intro p hp
    rcases List.mem_cons.mp hp with rfl | hp
    · exact LaserPoint.dark_blank point
    · exact ih (fun q hq => h q (List.mem_cons_of_mem _ hq)) p hp

theorem dark_applyArmed_of_dark (stage : OutputStage F D) {points : List (LaserPoint F)}
    (h : ∀ p ∈ points, p.Dark) : ∀ p ∈ (stage.applyArmed points).2, p.Dark := by
  cases harmed : stage.armed with
  | true => rwa [OutputStage.applyArmed_of_armed harmed]
  | false => exact OutputStage.dark_applyArmed harmed points

variable [FloatArith D]

/-- The colours that wait in the delay line are too dark to count. -/
def LineDim (stage : OutputStage F D) : Prop :=
  stage.bypassed = true ∨
    ∀ p ∈ DelayLine.resize stage.shiftPointCount default stage.scannerSyncColourDelayLine, Dim p

instance (stage : OutputStage F D) : Decidable (LineDim stage) :=
  inferInstanceAs (Decidable (_ ∨ _))

theorem dim_applyScannerSync (hblack : BlackIsDim F) {stage : OutputStage F D}
    (hline : LineDim stage) {points : List (LaserPoint F)} (h : ∀ p ∈ points, p.Dark) :
    ∀ p ∈ (stage.applyScannerSync points).2, Dim p := by
  have hpoints : ∀ p ∈ points, Dim p := fun p hp => dim_of_dark hblack (h p hp)
  unfold OutputStage.applyScannerSync
  split
  · exact hpoints
  · rename_i hactive
    split
    · intro q hq
      obtain ⟨i, hi⟩ := List.mem_iff_getElem?.mp hq
      obtain ⟨p, c, -, hc, rfl⟩ := List.getElem?_zipWith_eq_some.mp hi
      exact DelayLine.forall_shift_fst (hline.resolve_left hactive) hpoints c
        (List.mem_of_getElem? hc)
    · exact hpoints

/-- **Dark points stay blank** where the delay line holds no light. -/
theorem dim_postProcessOutputPoints (hblack : BlackIsDim F) {stage : OutputStage F D}
    (hline : LineDim stage) {points : List (LaserPoint F)} (h : ∀ p ∈ points, p.Dark) :
    ∀ p ∈ (stage.postProcessOutputPoints points).2, Dim p := by
  have hstarted : LineDim (stage.applyStartupBlankToOutputPoints points).1 := by
    unfold OutputStage.applyStartupBlankToOutputPoints OutputStage.storeStartupBlank
    dsimp only
    split <;> exact hline
  have harmed : LineDim ((stage.applyStartupBlankToOutputPoints points).1.applyArmed
      (stage.applyStartupBlankToOutputPoints points).2).1 := by
    unfold OutputStage.applyArmed
    split
    · exact hstarted
    · split <;> exact hstarted
  exact dim_applyScannerSync hblack harmed
    (dark_applyArmed_of_dark _ (dark_blankFirst_of_dark _ h))

/-- The lit colours that wait in the delay line have sources of a kind. -/
def LineLit (P : Option (Supplier τ) → Prop) (stage : OutputStage F D)
    (delayed : List (Option (Supplier τ))) : Prop :=
  stage.bypassed = true ∨
    ∀ c ∈ (DelayLine.resize stage.shiftPointCount default stage.scannerSyncColourDelayLine).zip
      (DelayLine.resize stage.shiftPointCount none delayed), Dim c.1 ∨ P c.2

instance (P : Option (Supplier τ) → Prop) [DecidablePred P] (stage : OutputStage F D)
    (delayed : List (Option (Supplier τ))) : Decidable (LineLit P stage delayed) :=
  inferInstanceAs (Decidable (_ ∨ _))

variable {P : Option (Supplier τ) → Prop} {delayed : List (Option (Supplier τ))}
  {source : Option (Supplier τ)}

/-- What comes out is too dark to count, or has a source of the kind. -/
theorem lit_applyScannerSync {stage : OutputStage F D} (hline : LineLit P stage delayed)
    (hsource : P source) (points : List (LaserPoint F)) :
    ∀ c ∈ (stage.applyScannerSync points).2.zip
      (colourSources stage delayed source points.length).1, Dim c.1 ∨ P c.2 := by
  have hbatch : ∀ light ∈ List.replicate points.length source, P light := fun light hlight =>
    (List.eq_of_mem_replicate hlight) ▸ hsource
  unfold OutputStage.applyScannerSync colourSources
  by_cases hbypassed : stage.bypassed = true
  · rw [if_pos hbypassed, if_pos hbypassed]
    exact fun c hc => Or.inr (hbatch c.2 (List.of_mem_zip hc).2)
  rw [if_neg hbypassed, if_neg hbypassed]
  have hwaiting := hline.resolve_left hbypassed
  by_cases hshift : 0 < stage.shiftPointCount
  · simp only [if_pos hshift]
    intro c hc
    -- the colour and its source come out side by side
    obtain ⟨i, hi⟩ := List.mem_iff_getElem?.mp hc
    obtain ⟨hpoint, hlight⟩ := List.getElem?_zip_eq_some.mp hi
    obtain ⟨p, colour, -, hcolour, hwith⟩ := List.getElem?_zipWith_eq_some.mp hpoint
    rw [← hwith]
    have hpair : (colour, c.2) ∈ (DelayLine.shift
          (DelayLine.resize stage.shiftPointCount default stage.scannerSyncColourDelayLine)
          points).1.zip (DelayLine.shift (DelayLine.resize stage.shiftPointCount none delayed)
            (List.replicate points.length source)).1 :=
      List.mem_of_getElem? (List.getElem?_zip_eq_some.mpr ⟨hcolour, hlight⟩)
    rw [DelayLine.zip_shift_fst (by simp only [DelayLine.length_resize]) (by simp)] at hpair
    exact DelayLine.forall_shift_fst (P := fun c => Dim c.1 ∨ P c.2) hwaiting
      (fun d hd => Or.inr (hbatch d.2 (List.of_mem_zip hd).2)) _ hpair
  · have hnone : DelayLine.resize stage.shiftPointCount none delayed = [] :=
      List.eq_nil_of_length_eq_zero (by rw [DelayLine.length_resize]; omega)
    rw [if_neg hshift, hnone]
    exact fun c hc => Or.inr (DelayLine.forall_shift_fst (P := P)
      (fun _ h => absurd h List.not_mem_nil) hbatch c.2 (List.of_mem_zip hc).2)

theorem lit_postProcessOutputPoints {stage : OutputStage F D} (hline : LineLit P stage delayed)
    (hsource : P source) (points : List (LaserPoint F)) :
    ∀ c ∈ (stage.postProcessOutputPoints points).2.zip
      (colourSources stage delayed source points.length).1, Dim c.1 ∨ P c.2 := by
  have hstarted : LineLit P (stage.applyStartupBlankToOutputPoints points).1 delayed ∧
      ∀ n, colourSources (stage.applyStartupBlankToOutputPoints points).1 delayed source n =
        colourSources stage delayed source n := by
    unfold OutputStage.applyStartupBlankToOutputPoints OutputStage.storeStartupBlank
    dsimp only
    split <;> exact ⟨hline, fun _ => rfl⟩
  have harmed : LineLit P ((stage.applyStartupBlankToOutputPoints points).1.applyArmed
      (stage.applyStartupBlankToOutputPoints points).2).1 delayed ∧
      ∀ n, colourSources ((stage.applyStartupBlankToOutputPoints points).1.applyArmed
        (stage.applyStartupBlankToOutputPoints points).2).1 delayed source n =
          colourSources (stage.applyStartupBlankToOutputPoints points).1 delayed source n := by
    unfold OutputStage.applyArmed
    split
    · exact ⟨hstarted.1, fun _ => rfl⟩
    · split <;> exact ⟨hstarted.1, fun _ => rfl⟩
  have hlength : ((stage.applyStartupBlankToOutputPoints points).1.applyArmed
      (stage.applyStartupBlankToOutputPoints points).2).2.length = points.length := by
    rw [OutputStage.length_applyArmed]
    exact OutputStage.length_blankFirst _ _
  rw [← hstarted.2, ← harmed.2, ← hlength]
  exact lit_applyScannerSync harmed.1 hsource _

/-- What comes out lit with the points of a source has sources of the kind. -/
theorem lit_handOut {c c' : LaserController τ F D} (delayed : List (Option (Supplier τ)))
    (source : Option (Supplier τ)) {points points' : List (Stamped (ContentOrigin τ) F)}
    (h : c.handOut points = (c', points'))
    (hline : LineLit P c.stage delayed) (hsource : P source) :
    ∀ light ∈ litSources (points'.map Stamped.point)
      (colourSources c.stage delayed source points.length).1, P light := by
  obtain rfl : (c.handOut points).2 = points' := by rw [h]
  intro light hlight
  obtain ⟨lit, hlit, rfl⟩ := List.mem_map.mp hlight
  obtain ⟨hmem, hbright⟩ := List.mem_filter.mp hlit
  rw [(handOut_eq points c).2.2] at hmem
  have hcase : Dim lit.1 ∨ P lit.2 := by
    refine lit_postProcessOutputPoints hline hsource (points.map Stamped.point) lit ?_
    rw [List.length_map]
    exact hmem
  exact hcase.resolve_left (by simpa using hbright)

/-- What post-processing does to a controller and to some points on their way out. -/
structure HandedOut (c c' : LaserController τ F D)
    (points points' : List (Stamped (ContentOrigin τ) F)) : Prop where
  scheduler : c'.frameScheduler = c.frameScheduler
  framer : c'.pointStreamFramer = c.pointStreamFramer
  source : SourceInv c → SourceInv c'
  stamps : points'.map Stamped.stamp = points.map Stamped.stamp
  dim : BlackIsDim F → LineDim c.stage → (∀ p ∈ points, p.point.Dark) →
    ∀ p ∈ points'.map Stamped.point, Dim p

theorem handedOut {c c' : LaserController τ F D}
    {points points' : List (Stamped (ContentOrigin τ) F)}
    (h : c.handOut points = (c', points')) : HandedOut c c' points points' := by
  obtain rfl : (c.handOut points).1 = c' := by rw [h]
  obtain rfl : (c.handOut points).2 = points' := by rw [h]
  refine ⟨rfl, rfl, fun h => ⟨⟨h.callback, h.empty⟩, h.wf⟩, (handOut_eq points c).2.1, ?_⟩
  intro hblack hline hdark
  rw [(handOut_eq points c).2.2]
  refine dim_postProcessOutputPoints hblack hline fun p hp => ?_
  obtain ⟨q, hq, rfl⟩ := List.mem_map.mp hp
  exact hdark q hq

theorem HandedOut.ne_nil {c c' : LaserController τ F D}
    {points points' : List (Stamped (ContentOrigin τ) F)} (h : HandedOut c c' points points')
    (hne : points ≠ []) : points' ≠ [] := by
  rintro rfl
  exact hne (List.map_eq_nil_iff.mp h.stamps.symm)

end Stage

/-! ## Calls of the application -/

section Calls

/-- A framer that a call may have reset. -/
theorem framer_useFrameQueue (c : LaserController τ F D) :
    c.useFrameQueue.pointStreamFramer = c.pointStreamFramer ∨
      c.useFrameQueue.pointStreamFramer = c.pointStreamFramer.reset := by
  unfold useFrameQueue
  split
  · exact Or.inl rfl
  · exact Or.inr rfl

variable [FloatArith D]

/-- What a call of the application may change: what is on the device stays, and so does the pass
under way. -/
structure CallEffect (s s' : LightSpaceNetController τ F D) : Prop where
  pass : s'.pass = s.pass
  retained : s'.retained = s.retained
  flag : s'.lastSentPatternWasBlank = s.lastSentPatternWasBlank
  queue : QueueAfter maximumFramePoints s.controller.frameScheduler s'.controller.frameScheduler
  framer : s'.controller.pointStreamFramer = s.controller.pointStreamFramer ∨
    s'.controller.pointStreamFramer = s.controller.pointStreamFramer.reset
  source : SourceInv s.controller → SourceInv s'.controller

theorem sourceInv_of_contentStep {c c' : LaserController τ F D} (h : SourceInv c)
    (call : ContentCall τ F) {o : List (Stamped (ContentOrigin τ) F)}
    (hstep : contentStep c call = some (c', o)) : SourceInv c' := by
  obtain ⟨c₁, o₁, hstep₁, hcase⟩ := contentStep_cases h.wf call
  obtain ⟨rfl, rfl⟩ := Prod.mk.inj (Option.some.inj (hstep.symm.trans hstep₁))
  exact h.step hcase

/-- A call that the controller takes as it is. -/
theorem callEffect_of_contentStep {s : LightSpaceNetController τ F D} {c' : LaserController τ F D}
    (call : ContentCall τ F) {o : List (Stamped (ContentOrigin τ) F)}
    (hstep : contentStep s.controller call = some (c', o))
    (hqueue : QueueAfter maximumFramePoints s.controller.frameScheduler c'.frameScheduler)
    (hframer : c'.pointStreamFramer = s.controller.pointStreamFramer ∨
      c'.pointStreamFramer = s.controller.pointStreamFramer.reset) :
    CallEffect s { s with controller := c' } :=
  ⟨rfl, rfl, rfl, hqueue, hframer, fun h => sourceInv_of_contentStep h call hstep⟩

theorem callEffect_clearPointCallback (s : LightSpaceNetController τ F D) (call : ContentCall τ F)
    (hstep : contentStep s.controller call = some (s.controller.clearPointCallback, [])) :
    CallEffect s { s with controller := s.controller.clearPointCallback } := by
  refine callEffect_of_contentStep call hstep ?_ ?_
  · unfold LaserController.clearPointCallback
    dsimp only
    split <;> exact QueueAfter.refl _ _
  · unfold LaserController.clearPointCallback
    dsimp only
    split
    · exact Or.inr rfl
    · exact Or.inl rfl

/-- A submitted frame has as many points as the application gave it. -/
theorem callEffect_of_offered {s : LightSpaceNetController τ F D} {c' : LaserController τ F D}
    (call : ContentCall τ F) {o : List (Stamped (ContentOrigin τ) F)}
    (hstep : contentStep s.controller call = some (c', o)) {points : List (LaserPoint F)}
    {time : TimePoint} (hsize : points.length < 2 ^ 64)
    (h : Offered { points := sanitizeLaserPoints points, time := time } s.controller c') :
    CallEffect s { s with controller := c' } := by
  refine callEffect_of_contentStep call hstep ?_ ?_
  · rcases h with rfl | ⟨s', hs', rfl⟩
    · exact QueueAfter.refl _ _
    · refine Or.inr ⟨hs'.submits, fun frame hframe => ?_⟩
      refine (hs'.mem_submitted frame hframe).imp_right ?_
      rintro rfl
      rw [length_sanitizeLaserPoints, maximumFramePoints]
      omega
  · rcases h with rfl | ⟨s', -, rfl⟩
    · exact Or.inl rfl
    · exact framer_useFrameQueue s.controller

/-- **What a call of the application does.** -/
theorem applicationCall_effect {settings : LightSpaceNetSettings}
    {s s' : LightSpaceNetController τ F D} {call : ContentCall τ F}
    (h : s.applicationCall settings call = some s') : CallEffect s s' := by
  cases call with
  | setPointCallback callback =>
    obtain rfl := Option.some.inj h
    cases callback with
    | none => exact callEffect_clearPointCallback s (.setPointCallback none) rfl
    | some callback =>
      exact callEffect_of_contentStep (.setPointCallback (some callback)) rfl (Or.inl rfl)
        (Or.inr rfl)
  | clearPointCallback =>
    obtain rfl := Option.some.inj h
    exact callEffect_clearPointCallback s .clearPointCallback rfl
  | clearPointCallbackPrefetch =>
    obtain rfl := Option.some.inj h
    refine callEffect_of_contentStep .clearPointCallbackPrefetch rfl ?_ ?_
    · unfold LaserController.clearPointCallbackPrefetch
      split <;> exact QueueAfter.refl _ _
    · unfold LaserController.clearPointCallbackPrefetch
      split
      · exact Or.inr rfl
      · exact Or.inl rfl
  | sendFrame points time context =>
    simp only [LightSpaceNetController.applicationCall] at h
    split at h
    · rename_i hsize
      obtain rfl := Option.some.inj h
      exact callEffect_of_offered (.sendFrame points time context) rfl hsize
        (offered_sendFrame points time context s.controller)
    · cases h
  | trySendFrame points time context contentSourceFree schedulerFree =>
    simp only [LightSpaceNetController.applicationCall] at h
    split at h
    · rename_i hsize
      obtain rfl := Option.some.inj h
      exact callEffect_of_offered
        (.trySendFrame points time context contentSourceFree schedulerFree) rfl hsize
        (offered_trySendFrame points time context contentSourceFree schedulerFree s.controller)
    · cases h
  | useFrameQueue =>
    obtain rfl := Option.some.inj h
    refine callEffect_of_contentStep .useFrameQueue rfl ?_ (framer_useFrameQueue s.controller)
    rw [useFrameQueue_frameScheduler]
    exact QueueAfter.refl _ _
  | clearFrameQueue =>
    obtain rfl := Option.some.inj h
    refine callEffect_of_contentStep .clearFrameQueue rfl ?_ ?_
    · unfold LaserController.clearFrameQueue
      dsimp only
      split <;> exact Or.inl rfl
    · unfold LaserController.clearFrameQueue
      dsimp only
      split <;> exact Or.inl rfl
  | clearContentSource =>
    obtain rfl := Option.some.inj h
    exact callEffect_of_contentStep .clearContentSource rfl (Or.inl rfl) (Or.inr rfl)
  | setPointRate pointRateValue =>
    obtain rfl := Option.some.inj h
    exact ⟨rfl, rfl, rfl, QueueAfter.refl _ _, Or.inl rfl, fun h => ⟨⟨h.callback, h.empty⟩, h.wf⟩⟩
  | requestPoints request context invocation => cases h
  | requestFrame request context => cases h

end Calls

/-! ## Uploads -/

section Upload

variable [FloatArith D]

/-- What is uploaded of the points of a frame: nothing where the device is dark already and the
pattern is, and else the pattern. -/
structure Uploaded (settings : LightSpaceNetSettings) (frame : List (Stamped (ContentOrigin τ) F))
    (sources : List (Option (Supplier τ))) (s s' : LightSpaceNetController τ F D) : Prop where
  controller : s'.controller = s.controller
  flag : s'.lastSentPatternWasBlank = true → s'.retained.Blank
  blank : (∀ p ∈ frame.map Stamped.point, Dim p) → s'.retained.Blank
  retained : s'.retained.Blank ∨ s'.retained.origins = frame.map Stamped.stamp ∧
    s'.retained.lights = litSources (frame.map Stamped.point) sources

/-- **Every frame with points is uploaded**, unless it is blank and the device is dark. -/
theorem uploaded_submitPattern (hblack : BlackIsDim F) (settings : LightSpaceNetSettings)
    (now : TimePoint) (activePointRate : ℕ) (reading : PassReading)
    (s : LightSpaceNetController τ F D)
    (hflag : s.lastSentPatternWasBlank = true → s.retained.Blank)
    {frame : List (Stamped (ContentOrigin τ) F)} (hne : frame ≠ [])
    (sources : List (Option (Supplier τ))) :
    Uploaded settings frame sources s
      (s.submitPattern settings now activePointRate reading frame sources) := by
  obtain ⟨pattern, hpattern⟩ :
      ∃ pattern, pattern = currentPattern settings.patternPointLimit (frame.map Stamped.point) :=
    ⟨_, rfl⟩
  have hlimit : pattern.length ≤ maxSourceFramePoints := by
    rw [hpattern]
    exact (length_currentPattern_le _ _).trans settings.limit_le
  have hdark : (∀ p ∈ frame.map Stamped.point, Dim p) → patternPointsAreBlank pattern = true := by
    rw [hpattern]
    exact patternPointsAreBlank_currentPattern hblack
  have hsize : ¬ (pointStreamPacketSize pattern.length = 0 ∨
      maxCurrentPatternPacketBytes < pointStreamPacketSize pattern.length) := by
    obtain ⟨hpos, hfits⟩ := pointStreamPacketSize_le hlimit
    omega
  unfold LightSpaceNetController.submitPattern
  rw [if_neg (by simpa using hne), ← hpattern]
  by_cases hskip : (patternPointsAreBlank pattern && s.lastSentPatternWasBlank) = true
  · have hretained : s.retained.Blank := hflag (Bool.and_eq_true_iff.mp hskip).2
    rw [if_pos hskip]
    exact ⟨rfl, hflag, fun _ => hretained, Or.inl hretained⟩
  · rw [if_neg hskip, if_neg hsize]
    exact ⟨rfl, fun h => h, hdark, Or.inr ⟨rfl, rfl⟩⟩

end Upload

end LiberaLaser
