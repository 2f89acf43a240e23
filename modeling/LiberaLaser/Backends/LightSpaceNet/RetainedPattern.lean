import LiberaLaser.Backends.LightSpaceNet.Effects

/-!
# The retained pattern

The device replays what was uploaded last, so a pattern should not stay on it for longer than its
content: after a pass that got past the gate, the pattern is blank, or it comes from a queued frame
that is not held for too long, or from the callback that is active. This goes for its points and for
its light, which the scanner-sync delay line moves on to later points. Passes keep to it but for
some kinds of them. A pass whose request returns `false` uploads nothing, and leaves the pattern
where the content is gone. A change of the content leaves the delay line as it is, so that the first
points of the next content, or of a blank frame, are lit by what came before. And the framer may
still hold points of an earlier callback. Runs without such passes keep the pattern no longer than
its content (`retained_pattern_supplied`).
-/

namespace LiberaLaser

open FloatArith LightSpaceNet LightSpaceNetController LaserController PointStreamFramer
  FrameScheduler Runs

variable {τ F D : Type}

/-! ## What the pattern should be -/

/-- The point comes from the supplier. -/
def Supplier.Supplies : Supplier τ → ContentOrigin τ → Prop
  | .callback id, origin => origin = .callback id
  | .frame serial _, origin => ∃ index, origin = .queue (.content serial index)

/-- The supplier supplied the pattern: it has content, and all of it comes from there. -/
structure Supplier.Supplied (supplier : Supplier τ) (origins : List (ContentOrigin τ)) : Prop where
  content : ∃ origin ∈ origins, supplier.Supplies origin
  only : ∀ origin ∈ origins, origin.isContent = true → supplier.Supplies origin

/-- A frame was first played less than the hold time before. -/
def Supplier.Recent (maxFrameHoldTime : Duration) (now : TimePoint) : Supplier τ → Prop
  | .callback _ => True
  | .frame _ firstPlayTime => now - firstPlayTime < maxFrameHoldTime

/-- Light of a queued frame that was first played less than the hold time before. -/
def FromRecentFrame (maxFrameHoldTime : Duration) (now : TimePoint) : Option (Supplier τ) → Prop
  | some (.frame _ firstPlayTime) => now - firstPlayTime < maxFrameHoldTime
  | _ => False

instance (maxFrameHoldTime : Duration) (now : TimePoint) :
    DecidablePred (FromRecentFrame maxFrameHoldTime now : Option (Supplier τ) → Prop)
  | some (.frame _ _) => inferInstanceAs (Decidable (_ < _))
  | some (.callback _) | none => isFalse id

/-- Light that may stand in what the supplier supplied: its own, or that of another queued frame
that is recent. -/
def Supplier.Lights (maxFrameHoldTime : Duration) (now : TimePoint) :
    Supplier τ → Option (Supplier τ) → Prop
  | .callback id, light => light = some (.callback id)
  | .frame _ _, light => FromRecentFrame maxFrameHoldTime now light

/-! ## What supplies a pattern -/

/-- A played frame supplied what came out with it. -/
theorem supplied_of_played {o content : List (Emitted F)} {serial : ℕ} (firstPlayTime : TimePoint)
    (ho : ∀ p ∈ o, p.stamp = .transition) (hne : content ≠ [])
    (hcontent : ∀ p ∈ content, p.stamp.serial = some serial) :
    (Supplier.frame serial firstPlayTime : Supplier τ).Supplied
      ((ofQueue (o ++ content)).map Stamped.stamp) := by
  have hsupplies : ∀ p ∈ content, (Supplier.frame serial firstPlayTime : Supplier τ).Supplies
      (.queue p.stamp) := by
    intro p hp
    have hserial := hcontent p hp
    cases hstamp : p.stamp with
    | content n index =>
      rw [hstamp] at hserial
      obtain rfl := Option.some.inj hserial
      exact ⟨index, rfl⟩
    | transition | blank =>
      rw [hstamp] at hserial
      cases hserial
  refine ⟨?_, fun origin horigin hisContent => ?_⟩
  · obtain ⟨p, ps, rfl⟩ := List.exists_cons_of_ne_nil hne
    refine ⟨.queue p.stamp, ?_, hsupplies p List.mem_cons_self⟩
    simp [ofQueue]
  · simp only [ofQueue, List.map_map, List.mem_map, Function.comp_apply] at horigin
    obtain ⟨p, hp, rfl⟩ := horigin
    rcases List.mem_append.mp hp with hp | hp
    · rw [ContentOrigin.isContent, ho p hp] at hisContent
      cases hisContent
    · exact hsupplies p hp

/-- A callback supplied what the framer holds for it. -/
theorem supplied_of_callback {id : τ} {frame : List (Stamped τ F)} (hne : frame ≠ [])
    (hframe : ∀ p ∈ frame, p.stamp = id) :
    (Supplier.callback id).Supplied ((frame.map fun p =>
      (⟨.callback p.stamp, p.point⟩ : Stamped (ContentOrigin τ) F)).map Stamped.stamp) := by
  have hsupplies : ∀ origin ∈ (frame.map fun p =>
      (⟨.callback p.stamp, p.point⟩ : Stamped (ContentOrigin τ) F)).map Stamped.stamp,
      (Supplier.callback id).Supplies origin := by
    intro origin horigin
    simp only [List.map_map, List.mem_map, Function.comp_apply] at horigin
    obtain ⟨p, hp, rfl⟩ := horigin
    exact congrArg ContentOrigin.callback (hframe p hp)
  obtain ⟨p, ps, rfl⟩ := List.exists_cons_of_ne_nil hne
  exact ⟨⟨_, List.mem_cons_self, hsupplies _ List.mem_cons_self⟩,
    fun origin horigin _ => hsupplies origin horigin⟩

theorem frontSupplier_of_played {s : FrameScheduler F} {f : QueuedFrame F}
    {rest : List (QueuedFrame F)} (hq : s.frameQueue = f :: rest) (hplay : 0 < f.playCount) :
    frontSupplier s = some (.frame f.serial f.firstPlayTime : Supplier τ) := by
  rw [frontSupplier, hq]
  exact if_pos hplay

theorem takesWhole_frameRequest (settings : LightSpaceNetSettings) (reading : PassReading)
    (s : LightSpaceNetController τ F D) :
    TakesWhole (s.frameRequest settings reading).schedulerRequest :=
  ⟨show 0 < maximumFramePoints by decide, settings.limit_pos, rfl, rfl⟩

/-- A pass asks the framer for some points. -/
theorem preferredFrameSize_frameRequest (settings : LightSpaceNetSettings) (reading : PassReading)
    (s : LightSpaceNetController τ F D) :
    (s.frameRequest settings reading).preferredFrameSize ≠ 0 := by
  have hlimit := settings.limit_pos
  have hmax : 0 < maximumFramePoints := by decide
  simp only [FrameFillRequest.preferredFrameSize, frameRequest, hlimit.ne', hmax, if_true,
    if_false]
  exact (Nat.lt_min.mpr ⟨hlimit, hmax⟩).ne'

theorem one_le_configured [FloatArith D] (request : FrameFillRequest) (context : RequestContext)
    (callback : RequestPointsCallback τ F) (c : LaserController τ F D) :
    1 ≤ (c.configured request context callback).nominalFrameSize := Nat.le_max_right _ _

/-! ## What a pass should leave -/

variable [FloatArith F]

/-- **What a pass should leave**: a blank pattern, or one that the content of this pass supplied,
with its light. -/
def PatternReport.Lawful (maxFrameHoldTime : Duration) (report : PatternReport τ F) : Prop :=
  report.retained.Blank ∨ ∃ supplier ∈ report.supplier,
    supplier.Supplied report.retained.origins ∧ supplier.Recent maxFrameHoldTime report.now ∧
      ∀ light ∈ report.retained.lights, supplier.Lights maxFrameHoldTime report.now light

/-! ## The invariant -/

/-- The pass under way takes its frame from a callback. -/
def PatternPass.FromCallback : PatternPass τ F → Prop
  | .entered _ _ .pointCallback | .copied _ _ _ => True
  | _ => False

/-- **The invariant**: a frame that is held supplied the pattern, where the device is not dark; and
no frame was played while a callback is asked. -/
structure PatternInv (s : LightSpaceNetController τ F D) : Prop where
  source : SourceInv s.controller
  whole : Whole maximumFramePoints s.controller.frameScheduler
  frames : ∀ frame ∈ s.controller.pointStreamFramer.preparedFrames, frame ≠ []
  unplayed : s.pass.FromCallback → Unplayed s.controller.frameScheduler
  held : ∀ f rest, s.controller.frameScheduler.frameQueue = f :: rest → 0 < f.playCount →
    s.retained.Blank ∨
      (Supplier.frame f.serial f.firstPlayTime).Supplied s.retained.origins
  flag : s.lastSentPatternWasBlank = true → s.retained.Blank

theorem PatternInv.idle {s : LightSpaceNetController τ F D} (h : PatternInv s) :
    PatternInv { s with pass := .idle } :=
  ⟨h.source, h.whole, h.frames, fun hpass => hpass.elim, h.held, h.flag⟩

/-- A call of the application keeps the invariant. -/
theorem PatternInv.call {s s' : LightSpaceNetController τ F D} (h : PatternInv s)
    (heffect : CallEffect s s') : PatternInv s' where
  source := heffect.source h.source
  whole := h.whole.queueAfter heffect.queue
  frames := by
    rcases heffect.framer with hframer | hframer
    · rw [hframer]
      exact h.frames
    · rw [hframer]
      exact fun _ hframe => absurd hframe List.not_mem_nil
  unplayed := by
    intro hpass f rest hq
    rw [heffect.pass] at hpass
    exact h.unplayed hpass f rest (heffect.queue.front hq)
  held := by
    intro f rest hq hplay
    rw [heffect.retained]
    exact h.held f rest (heffect.queue.front hq) hplay
  flag := by
    rw [heffect.flag, heffect.retained]
    exact h.flag

/-- The queue after a fill call is empty where it was. -/
theorem LaserController.SourceInv.fill {c : LaserController τ F D} (h : SourceInv c)
    {request : FramePullRequest} {maxFrameHoldTime : Duration} {clock : ℕ → TimePoint}
    {frameScheduler : FrameScheduler F} {frame : OutputFrame F}
    (hfill : c.frameScheduler.fillFrame request maxFrameHoldTime clock =
      some (frameScheduler, frame)) :
    SourceInv { c with frameScheduler := frameScheduler } := by
  have hmoves := fillFrame_moves h.wf hfill
  exact ⟨⟨h.callback, fun hsource => (h.empty hsource).moves hmoves⟩, hmoves.wf h.wf⟩

/-- The output stage plays no part. -/
theorem PatternInv.setStage {s : LightSpaceNetController τ F D} (h : PatternInv s)
    (stage : OutputStage F D) :
    PatternInv { s with controller := { s.controller with stage := stage } } :=
  ⟨⟨⟨h.source.callback, h.source.empty⟩, h.source.wf⟩, h.whole, h.frames, h.unplayed, h.held,
    h.flag⟩

theorem PatternInv.enter {s : LightSpaceNetController τ F D} (h : PatternInv s)
    (now : TimePoint) : PatternInv (s.enterPass now) := by
  unfold enterPass
  split_ifs
  · exact h
  · exact h
  · refine ⟨h.source, h.whole, h.frames, fun hpass => ?_, h.held, h.flag⟩
    -- the scheduler is empty while a callback is active
    refine unplayed_of_empty (h.source.empty fun hsource => ?_)
    rw [hsource] at hpass
    exact hpass

theorem blank_makeBlankPatternPoints (hblack : BlackIsDim F) (n : ℕ) :
    ({ points := makeBlankPatternPoints n } : RetainedPattern τ F).Blank :=
  patternPointsAreBlank_iff.mpr fun p hp => dim_of_dark hblack (dark_makeBlankPatternPoints n p hp)

theorem PatternInv.close {settings : LightSpaceNetSettings} (hblack : BlackIsDim F)
    {s : LightSpaceNetController τ F D} (h : PatternInv s) : PatternInv (s.close settings) := by
  refine ⟨h.source, h.whole, h.frames, h.unplayed, fun f rest hq hplay => ?_,
    fun hflag => absurd hflag Bool.false_ne_true⟩
  unfold LightSpaceNetController.close
  dsimp only
  split
  · exact Or.inl (blank_makeBlankPatternPoints hblack settings.patternPointLimit)
  · exact h.held f rest hq hplay

/-- The end of a pass. -/
theorem lawful_of_finish {c s' : LightSpaceNetController τ F D} {now : TimePoint}
    {supplier : Option (Supplier τ)} {o : List (PatternReport τ F)} {maxFrameHoldTime : Duration}
    (hfinish : c.finish now supplier = (s', o)) (hinv : PatternInv { c with pass := .idle })
    (hlawful : (⟨now, supplier, c.retained⟩ : PatternReport τ F).Lawful maxFrameHoldTime) :
    PatternInv s' ∧ ∀ report ∈ o, report.Lawful maxFrameHoldTime := by
  obtain ⟨rfl, rfl⟩ := Prod.mk.inj hfinish
  refine ⟨hinv, fun report hreport => ?_⟩
  obtain rfl := List.mem_singleton.mp hreport
  exact hlawful

variable [FloatArith D]

/-! ## Passes that do not answer -/

/-- The pass does what the content asks for. Where its request returns `false`, the device is dark
already; where there is nothing to play, the delay line holds no light. A frame is kept with recent
light, and goes out while only the light of recent frames is on its way. Where a callback is asked,
the framer holds no points of another, and the delay line no light of another. -/
def Answered (settings : LightSpaceNetSettings) (_ : List (PatternReport τ F))
    (s : LightSpaceNetController τ F D) : LightSpaceNetTurn τ F D → Prop
  | .proceed reading =>
    let request := s.frameRequest settings reading
    match s.pass with
    | .idle => True
    | .entered _ _ .none => s.retained.Blank
    | .entered _ _ .pointCallback =>
      s.controller.requestPointsCallback.isNone → s.retained.Blank
    | .entered now _ .frameQueue =>
      let context := requestContext settings now reading
      (EndsContent request.schedulerRequest context.maxFrameHoldTime context.clock
        s.controller.frameScheduler → LineDim s.controller.stage) ∧
      if KeepsFrame request.schedulerRequest context.maxFrameHoldTime context.clock
          s.controller.frameScheduler then
        s.retained.Blank ∨
          ∀ light ∈ s.retained.lights, FromRecentFrame settings.maxFrameHoldTime now light
      else LineLit (FromRecentFrame settings.maxFrameHoldTime now) s.controller.stage s.delayed
    | .copied now _ callback =>
      let framer := s.controller.configured request (requestContext settings now reading) callback
      if Dry callback request.templateRequest framer then s.retained.Blank
      else
        HoldsFor callback.id framer ∧
          LineLit (· = some (.callback callback.id)) s.controller.stage s.delayed
  | _ => True

instance [DecidableEq τ] (settings : LightSpaceNetSettings) (tr : List (PatternReport τ F))
    (s : LightSpaceNetController τ F D) : ∀ turn, Decidable (Answered settings tr s turn)
  | .proceed reading =>
    match h : s.pass with
    | .idle => isTrue (by simp only [Answered, h])
    | .entered _ _ .none => decidable_of_iff s.retained.Blank (by simp only [Answered, h])
    | .entered _ _ .pointCallback =>
      decidable_of_iff (s.controller.requestPointsCallback.isNone → s.retained.Blank)
        (by simp only [Answered, h])
    | .entered now _ .frameQueue =>
      let request := (s.frameRequest settings reading).schedulerRequest
      let context := requestContext settings now reading
      decidable_of_iff ((EndsContent request context.maxFrameHoldTime context.clock
          s.controller.frameScheduler → LineDim s.controller.stage) ∧
        if KeepsFrame request context.maxFrameHoldTime context.clock
            s.controller.frameScheduler then
          s.retained.Blank ∨
            ∀ light ∈ s.retained.lights, FromRecentFrame settings.maxFrameHoldTime now light
        else LineLit (FromRecentFrame settings.maxFrameHoldTime now) s.controller.stage s.delayed)
        (by simp only [Answered, h, request, context])
    | .copied now _ callback =>
      let request := s.frameRequest settings reading
      let framer := s.controller.configured request (requestContext settings now reading) callback
      decidable_of_iff (if Dry callback request.templateRequest framer then s.retained.Blank
        else HoldsFor callback.id framer ∧
          LineLit (· = some (.callback callback.id)) s.controller.stage s.delayed)
        (by simp only [Answered, h, request, framer])
  | .begin _ | .call _ | .setOutput _ _ | .connect _ | .close => isTrue trivial

/-! ## Steps -/

/-- A frame that is first played in a pass is recent, and one that is no longer recent at the gate
was held for too long when the pass comes to it. -/
theorem recent_of_now (now : ℤ) (elapsed : ℕ) {maxFrameHoldTime : ℤ} (h : 0 < maxFrameHoldTime) :
    now - (now + elapsed) < maxFrameHoldTime := by
  omega

theorem late_of_not_recent {now firstPlayTime maxFrameHoldTime : ℤ} (elapsed : ℕ)
    (h : ¬ now - firstPlayTime < maxFrameHoldTime) :
    maxFrameHoldTime ≤ now + elapsed - firstPlayTime := by
  omega

/-- The invariant after a submission of what `ready` handed out. -/
theorem patternInv_submitted {ready : LaserController τ F D} {s' : LightSpaceNetController τ F D}
    {points points' : List (Stamped (ContentOrigin τ) F)}
    (hhanded : HandedOut ready s'.controller points points') (hsource : SourceInv ready)
    (hwhole : Whole maximumFramePoints ready.frameScheduler)
    (hframes : ∀ frame ∈ ready.pointStreamFramer.preparedFrames, frame ≠ [])
    (hheld : ∀ f rest, ready.frameScheduler.frameQueue = f :: rest → 0 < f.playCount →
      s'.retained.Blank ∨
        (Supplier.frame f.serial f.firstPlayTime).Supplied s'.retained.origins)
    (hflag : s'.lastSentPatternWasBlank = true → s'.retained.Blank) :
    PatternInv { s' with pass := .idle } := by
  rw [← hhanded.scheduler] at hwhole hheld
  rw [← hhanded.framer] at hframes
  exact ⟨hhanded.source hsource, hwhole, hframes, fun hpass => hpass.elim, hheld, hflag⟩

/-- **A pass that takes its frame from the queue.** -/
theorem PatternInv.queued {settings : LightSpaceNetSettings} (hblack : BlackIsDim F)
    (hhold : 0 < settings.maxFrameHoldTime) {s : LightSpaceNetController τ F D} (h : PatternInv s)
    {now : TimePoint} {activePointRate : ℕ} {reading : PassReading}
    (hpass : s.pass = .entered now activePointRate .frameQueue) {tr : List (PatternReport τ F)}
    (hanswered : Answered settings tr s (.proceed reading))
    {frameScheduler : FrameScheduler F} {frame : OutputFrame F}
    (hfill : s.controller.frameScheduler.fillFrame
      (s.frameRequest settings reading).schedulerRequest settings.maxFrameHoldTime
        (requestContext settings now reading).clock =
        some (frameScheduler, frame))
    {controller : LaserController τ F D} {points : List (Stamped (ContentOrigin τ) F)}
    (hout : { s.controller with frameScheduler := frameScheduler }.handOut (ofQueue frame.points) =
      (controller, points)) :
    let colours := colourSources s.controller.stage s.delayed (frontSupplier frameScheduler)
      frame.points.length
    let s' := { s with controller := controller, delayed := colours.2 }.submitPattern settings now
      activePointRate reading points colours.1
    PatternInv { s' with pass := .idle } ∧
      (⟨now, frontSupplier frameScheduler, s'.retained⟩ : PatternReport τ F).Lawful
        settings.maxFrameHoldTime := by
  intro colours s'
  simp only [Answered, hpass] at hanswered
  obtain ⟨hends, hlight⟩ := hanswered
  obtain ⟨houtcome, hwhole⟩ :=
    fillFrame_outcome (takesWhole_frameRequest settings reading s) h.whole hfill
  have hhanded := handedOut hout
  have hupload : frame.points ≠ [] → Uploaded settings points colours.1
      { s with controller := controller, delayed := colours.2 } s' := by
    intro hne
    have hqueue : (ofQueue frame.points : List (Stamped (ContentOrigin τ) F)) ≠ [] := by
      simpa [ofQueue] using hne
    exact uploaded_submitPattern hblack settings now activePointRate reading
      { s with controller := controller, delayed := colours.2 } h.flag (hhanded.ne_nil hqueue)
      colours.1
  have hlit := lit_handOut (P := FromRecentFrame settings.maxFrameHoldTime now) s.delayed
    (frontSupplier frameScheduler) hout
  -- the frame at the front, where it was played, supplied the pattern
  suffices hheld : s'.controller = controller ∧
      (s'.lastSentPatternWasBlank = true → s'.retained.Blank) ∧
      (s'.retained.Blank ∨ ∃ f rest, frameScheduler.frameQueue = f :: rest ∧ 0 < f.playCount ∧
        (Supplier.frame f.serial f.firstPlayTime).Supplied s'.retained.origins ∧
          now - f.firstPlayTime < settings.maxFrameHoldTime ∧
          ∀ light ∈ s'.retained.lights, FromRecentFrame settings.maxFrameHoldTime now light) by
    obtain ⟨hcontroller, hflag, hcontent⟩ := hheld
    constructor
    · refine patternInv_submitted (hcontroller ▸ hhanded) (h.source.fill hfill) hwhole h.frames
        (fun f rest hq hplay => hcontent.imp_right ?_) hflag
      rintro ⟨g, gs, hg, -, hsupplied, -⟩
      obtain ⟨rfl, -⟩ := List.cons.inj (hg.symm.trans hq)
      exact hsupplied
    · refine hcontent.imp_right ?_
      rintro ⟨f, rest, hq, hplay, hsupplied, hrecent, hlights⟩
      exact ⟨_, frontSupplier_of_played hq hplay, hsupplied, hrecent, hlights⟩
  have hstamps := hhanded.stamps
  have hcolours : (ofQueue frame.points : List (Stamped (ContentOrigin τ) F)).length =
      frame.points.length := List.length_map _
  rw [hcolours] at hlit
  generalize frame.points = emitted at houtcome hupload hhanded hstamps
  cases houtcome with
  | @played f rest o content k hplays hq hplay htime ho hne hcontent =>
    have hs' := hupload (by simp [hne])
    have hrecent : now - f.firstPlayTime < settings.maxFrameHoldTime := by
      rw [htime]
      exact recent_of_now now (reading.elapsed k) hhold
    rw [if_neg (show ¬KeepsFrame _ (requestContext settings now reading).maxFrameHoldTime _ _ from
      hplays)] at hlight
    refine ⟨hs'.controller, hs'.flag, hs'.retained.imp_right ?_⟩
    rintro ⟨horigins, hlights⟩
    refine ⟨f, rest, hq, hplay, ?_, hrecent, ?_⟩
    · rw [horigins, hstamps]
      exact supplied_of_played f.firstPlayTime ho hne hcontent
    · rw [hlights]
      refine hlit hlight ?_
      rw [frontSupplier_of_played hq hplay]
      exact hrecent
  | @kept f rest k hkept hfront hq hplay hkeeps =>
    obtain rfl : points = [] := List.map_eq_nil_iff.mp hstamps
    obtain ⟨rest', hq'⟩ := List.head?_eq_some_iff.mp hfront
    rw [if_pos (show KeepsFrame _ (requestContext settings now reading).maxFrameHoldTime _ _ from
      hkept)] at hlight
    refine ⟨rfl, h.flag, hlight.elim Or.inl fun hlights => ?_⟩
    refine (h.held f rest' hq' hplay).imp_right fun hsupplied => ?_
    refine ⟨f, rest, hq, hplay, hsupplied, ?_, hlights⟩
    by_contra hlate
    exact hkeeps ⟨hplay, hhold, late_of_not_recent (reading.elapsed k) hlate⟩
  | quiet hquiet hfront hne hdark =>
    have hs' := hupload hne
    refine ⟨hs'.controller, hs'.flag, Or.inl (hs'.blank ?_)⟩
    refine hhanded.dim hblack (hends hquiet) fun p hp => ?_
    obtain ⟨q, hq, rfl⟩ := List.mem_map.mp hp
    exact (hdark q hq).2

theorem PatternInv.frames_configured {s : LightSpaceNetController τ F D} (h : PatternInv s)
    (request : FrameFillRequest) (context : RequestContext) (callback : RequestPointsCallback τ F) :
    ∀ frame ∈ (s.controller.configured request context callback).preparedFrames, frame ≠ [] := by
  rw [LaserController.configured, configure_preparedFrames]
  exact h.frames

/-- No frame comes out only where there is nothing to make one of. -/
theorem PatternInv.dry {s : LightSpaceNetController τ F D} (h : PatternInv s)
    {request : FrameFillRequest} {context : RequestContext} {callback : RequestPointsCallback τ F}
    {controller : LaserController τ F D}
    (hextract : s.controller.extractFrame request context callback = some (controller, none)) :
    Dry callback request.templateRequest (s.controller.configured request context callback) := by
  obtain ⟨framer, hframer, -⟩ := Switching.extractFrame_eq hextract
  exact extractFrame_none (one_le_configured request context callback s.controller)
    (h.frames_configured request context callback) hframer

/-- An extraction changes the framer alone, and prepares no empty frame. -/
theorem PatternInv.extract {s : LightSpaceNetController τ F D} (h : PatternInv s)
    {request : FrameFillRequest} {context : RequestContext} {callback : RequestPointsCallback τ F}
    {controller : LaserController τ F D} {frame : Option (List (Stamped τ F))}
    (hextract : s.controller.extractFrame request context callback = some (controller, frame)) :
    PatternInv { s with controller := controller } := by
  obtain ⟨framer, hframer, rfl⟩ := Switching.extractFrame_eq hextract
  have hframes : ∀ frame ∈ framer.preparedFrames, frame ≠ [] :=
    frame_ne_of_extractFrame (one_le_configured request context callback s.controller)
      (h.frames_configured request context callback) hframer
  exact ⟨⟨⟨h.source.callback, h.source.empty⟩, h.source.wf⟩, h.whole, hframes, h.unplayed, h.held,
    h.flag⟩

/-- **A pass that takes its frame from a callback.** -/
theorem PatternInv.extracted {settings : LightSpaceNetSettings} (hblack : BlackIsDim F)
    {s : LightSpaceNetController τ F D} (h : PatternInv s) {now : TimePoint} {activePointRate : ℕ}
    {reading : PassReading} {callback : RequestPointsCallback τ F}
    (hpass : s.pass = .copied now activePointRate callback)
    {tr : List (PatternReport τ F)} (hanswered : Answered settings tr s (.proceed reading))
    {ready : LaserController τ F D} {frame : List (Stamped τ F)}
    (hextract : s.controller.extractFrame (s.frameRequest settings reading)
      (requestContext settings now reading) callback = some (ready, some frame))
    {controller : LaserController τ F D} {points : List (Stamped (ContentOrigin τ) F)}
    (hout : ready.handOut (frame.map fun p => ⟨.callback p.stamp, p.point⟩) =
      (controller, points)) :
    let colours := colourSources s.controller.stage s.delayed (some (.callback callback.id))
      frame.length
    let s' := { s with controller := controller, delayed := colours.2 }.submitPattern settings now
      activePointRate reading points colours.1
    PatternInv { s' with pass := .idle } ∧
      (⟨now, some (.callback callback.id), s'.retained⟩ : PatternReport τ F).Lawful
        settings.maxFrameHoldTime := by
  intro colours s'
  have hready := h.extract hextract
  have hunplayed : Unplayed ready.frameScheduler := hready.unplayed (by simp [hpass,
    PatternPass.FromCallback])
  obtain ⟨framer, hframer, hready'⟩ := Switching.extractFrame_eq hextract
  have hnominal := one_le_configured (s.frameRequest settings reading)
    (requestContext settings now reading) callback s.controller
  have hwet : ¬Dry callback (s.frameRequest settings reading).templateRequest
      (s.controller.configured (s.frameRequest settings reading)
        (requestContext settings now reading) callback) := fun hdry =>
    nomatch extractFrame_of_dry hnominal hdry hframer
  simp only [Answered, hpass, if_neg hwet] at hanswered
  obtain ⟨hholds, hline⟩ := hanswered
  obtain ⟨hne, hframe⟩ := extractFrame_some hnominal hholds hframer
  have hhanded := handedOut hout
  have hs' : Uploaded settings points colours.1
      { s with controller := controller, delayed := colours.2 } s' :=
    uploaded_submitPattern hblack settings now activePointRate reading
      { s with controller := controller, delayed := colours.2 } h.flag
      (hhanded.ne_nil (by simpa using hne)) colours.1
  have hcontroller : s'.controller = controller := hs'.controller
  constructor
  · refine patternInv_submitted (hcontroller ▸ hhanded) hready.source hready.whole hready.frames
      (fun f rest hq hplay => ?_) hs'.flag
    have := hunplayed f rest hq
    omega
  · refine hs'.retained.imp_right fun ⟨horigins, hlights⟩ => ⟨_, rfl, ?_, trivial, ?_⟩
    · rw [horigins, hhanded.stamps]
      exact supplied_of_callback hne hframe
    · rw [hlights]
      have hstage : ready.stage = s.controller.stage := by rw [hready']
      have hlit := lit_handOut (P := (· = some (.callback callback.id))) s.delayed
        (some (.callback callback.id)) hout (hstage ▸ hline) rfl
      rw [List.length_map, hstage] at hlit
      exact hlit

/-- **What one section of a pass preserves.** -/
theorem PatternInv.proceed {settings : LightSpaceNetSettings} (hblack : BlackIsDim F)
    (hhold : 0 < settings.maxFrameHoldTime) {s s' : LightSpaceNetController τ F D}
    (h : PatternInv s) {reading : PassReading} {tr o : List (PatternReport τ F)}
    (hanswered : Answered settings tr s (.proceed reading))
    (hstep : s.proceedPass settings reading = some (s', o)) :
    PatternInv s' ∧ ∀ report ∈ o, report.Lawful settings.maxFrameHoldTime := by
  have hcontent := hanswered
  simp only [proceedPass] at hstep
  simp only [Answered] at hanswered
  cases hpass : s.pass with
  | idle =>
    rw [hpass] at hstep
    cases hstep
  | entered now activePointRate source =>
    cases source with
    | none =>
      rw [hpass] at hstep hanswered
      exact lawful_of_finish (Option.some.inj hstep) h.idle (Or.inl hanswered)
    | pointCallback =>
      rw [hpass] at hstep hanswered
      dsimp only at hstep
      rw [if_neg (preferredFrameSize_frameRequest settings reading s)] at hstep
      cases hcallback : s.controller.requestPointsCallback with
      | none =>
        rw [hcallback] at hstep hanswered
        exact lawful_of_finish (Option.some.inj hstep) h.idle (Or.inl (hanswered rfl))
      | some callback =>
        rw [hcallback] at hstep
        obtain ⟨rfl, rfl⟩ := Prod.mk.inj (Option.some.inj hstep)
        refine ⟨⟨h.source, h.whole, h.frames, fun _ => h.unplayed ?_, h.held, h.flag⟩, by simp⟩
        rw [hpass]
        trivial
    | frameQueue =>
      rw [hpass] at hstep hanswered
      dsimp only at hstep
      split at hstep
      · cases hstep
      · rename_i frameScheduler frame hfill
        generalize hout : LaserController.handOut (ofQueue frame.points)
          { s.controller with frameScheduler := frameScheduler } = out at hstep
        obtain ⟨controller, points⟩ := out
        rw [← hpass] at hstep
        obtain ⟨hinv, hlawful⟩ := h.queued hblack hhold hpass hcontent hfill hout
        exact lawful_of_finish (Option.some.inj hstep) hinv hlawful
  | copied now activePointRate callback =>
    rw [hpass] at hstep hanswered
    dsimp only at hstep
    split at hstep
    · cases hstep
    · rename_i controller hextract
      dsimp only at hanswered
      rw [if_pos (h.dry hextract)] at hanswered
      exact lawful_of_finish (Option.some.inj hstep) (h.extract hextract).idle (Or.inl hanswered)
    · rename_i ready frame hextract
      generalize hout : ready.handOut (frame.map fun p => ⟨.callback p.stamp, p.point⟩) = out
        at hstep
      obtain ⟨controller, points⟩ := out
      rw [← hpass] at hstep
      obtain ⟨hinv, hlawful⟩ := h.extracted hblack hpass hcontent hextract hout
      exact lawful_of_finish (Option.some.inj hstep) hinv hlawful

/-- **What one step preserves.** -/
theorem PatternInv.step {settings : LightSpaceNetSettings} (hblack : BlackIsDim F)
    (hhold : 0 < settings.maxFrameHoldTime) {s s' : LightSpaceNetController τ F D}
    (h : PatternInv s) {turn : LightSpaceNetTurn τ F D} {tr o : List (PatternReport τ F)}
    (hanswered : Answered settings tr s turn)
    (hstep : LightSpaceNetController.step settings s turn = some (s', o)) :
    PatternInv s' ∧ ∀ report ∈ o, report.Lawful settings.maxFrameHoldTime := by
  cases turn with
  | begin now =>
    simp only [LightSpaceNetController.step] at hstep
    split at hstep
    · obtain ⟨rfl, rfl⟩ := Prod.mk.inj (Option.some.inj hstep)
      exact ⟨h.enter now, by simp⟩
    · cases hstep
  | proceed reading => exact h.proceed hblack hhold hanswered hstep
  | call call =>
    obtain ⟨s₁, hcall, hsome⟩ := Option.map_eq_some_iff.mp hstep
    obtain ⟨rfl, rfl⟩ := Prod.mk.inj hsome
    exact ⟨h.call (applicationCall_effect hcall), by simp⟩
  | setOutput stage clearsLine =>
    obtain ⟨rfl, rfl⟩ := Prod.mk.inj (Option.some.inj hstep)
    have hstage := h.setStage { stage with
      pointRate := s.controller.stage.pointRate
      scannerSyncColourDelayLine :=
        if clearsLine then [] else s.controller.stage.scannerSyncColourDelayLine }
    exact ⟨⟨hstage.source, hstage.whole, hstage.frames, hstage.unplayed, hstage.held, hstage.flag⟩,
      by simp⟩
  | connect pointRate =>
    simp only [LightSpaceNetController.step] at hstep
    split at hstep
    · obtain ⟨rfl, rfl⟩ := Prod.mk.inj (Option.some.inj hstep)
      have hstage := h.setStage (s.controller.stage.setPointRate pointRate).resetStartupBlank
      exact ⟨⟨hstage.source, hstage.whole, hstage.frames, hstage.unplayed, hstage.held,
        fun hflag => absurd hflag Bool.false_ne_true⟩, by simp⟩
    · cases hstep
  | close =>
    simp only [LightSpaceNetController.step] at hstep
    split at hstep
    · obtain ⟨rfl, rfl⟩ := Prod.mk.inj (Option.some.inj hstep)
      exact ⟨h.close hblack, by simp⟩
    · cases hstep

/-! ## Runs -/

/-- A new controller with the given output stage, and a dark device. -/
def LightSpaceNetController.new (stage : OutputStage F D) : LightSpaceNetController τ F D where
  controller := { (LaserController.new : LaserController τ F D) with stage := stage }

theorem patternInv_new (stage : OutputStage F D) :
    PatternInv (LightSpaceNetController.new stage : LightSpaceNetController τ F D) where
  source := sourceInv_new stage
  whole := whole_init _
  frames := fun _ hframe => absurd hframe List.not_mem_nil
  unplayed := fun hpass => hpass.elim
  held := by simp [LightSpaceNetController.new, LaserController.new]
  flag := by simp [LightSpaceNetController.new]

/-- **The retained pattern does not outlive its content**: after every pass of a run whose passes
answer to the content, the device is dark, or replays what the content of that pass supplied. -/
theorem retained_pattern_supplied (hblack : BlackIsDim F) (settings : LightSpaceNetSettings)
    (hhold : 0 < settings.maxFrameHoldTime) (stage : OutputStage F D)
    {turns : List (LightSpaceNetTurn τ F D)} {s : LightSpaceNetController τ F D}
    {reports : List (PatternReport τ F)}
    (hanswered : Along (LightSpaceNetController.step settings) (Answered settings) [] (.new stage)
      turns)
    (hrun : run (LightSpaceNetController.step settings) (.new stage) turns = some (s, reports)) :
    ∀ report ∈ reports, report.Lawful settings.maxFrameHoldTime := by
  have hinv : PatternInv s ∧ ∀ report ∈ reports, report.Lawful settings.maxFrameHoldTime := by
    refine run_invariant (I := fun tr s => PatternInv s ∧
      ∀ report ∈ tr, report.Lawful settings.maxFrameHoldTime) ?_
      ⟨patternInv_new stage, by simp⟩ hanswered hrun
    rintro tr s turn s' o ⟨hs, hold⟩ hguard hstep
    obtain ⟨hs', hnew⟩ := hs.step hblack hhold hguard hstep
    refine ⟨hs', fun report hreport => ?_⟩
    rcases List.mem_append.mp hreport with hreport | hreport
    · exact hold report hreport
    · exact hnew report hreport
  exact hinv.2

/-! ## A beam that stays -/

/-- Small patterns, and frames that are held for at most a second. -/
def smallPatterns : LightSpaceNetSettings where
  patternPointLimit := 4
  patternUpdateInterval := 0
  maxFrameHoldTime := 1000000000
  limit_pos := by decide
  limit_le := by decide

/-- An armed stage without scanner sync. -/
def armedStage : OutputStage ℚ ℚ := { OutputStage.fresh 1000 0 false false with armed := true }

def white : LaserPoint ℚ := { (default : LaserPoint ℚ) with r := 1, g := 1, b := 1 }

/-- A callback that lights every point it is asked for. -/
def steadyBeam : RequestPointsCallback ℕ ℚ where
  id := 7
  produce _ request := List.replicate request.minimumPointsRequired white

/-- The content source is cleared after one pass, and another pass follows. -/
def clearedAfterPass : List (LightSpaceNetTurn ℕ ℚ ℚ) :=
  [.connect 1000, .call (.setPointCallback (some steadyBeam)), .begin 1, .proceed {}, .proceed {},
    .call .clearContentSource, .begin 100000000, .proceed {}]

/-- **The pattern of a cleared source stays**: the second pass is at its end, no content source is
active, and the device is lit. -/
theorem cleared_source_stays_lit : ∃ (s : LightSpaceNetController ℕ ℚ ℚ)
    (reports : List (PatternReport ℕ ℚ)),
      run (LightSpaceNetController.step smallPatterns) (.new armedStage) clearedAfterPass =
          some (s, reports) ∧
        s.controller.activeSource = .none ∧
        ∃ report ∈ reports, ¬ report.Lawful smallPatterns.maxFrameHoldTime := by
  have hlast : (run (LightSpaceNetController.step smallPatterns) (.new armedStage)
      clearedAfterPass).map (fun r => decide (r.1.controller.activeSource = .none) &&
        r.2.any fun report => report.supplier.isNone && !decide report.retained.Blank) =
      some true := by decide +kernel
  obtain ⟨⟨s, reports⟩, hrun, hlit⟩ := Option.map_eq_some_iff.mp hlast
  simp only [Bool.and_eq_true, decide_eq_true_eq, List.any_eq_true] at hlit
  obtain ⟨hsource, report, hreport, hsupplier, hblank⟩ := hlit
  refine ⟨s, reports, hrun, hsource, report, hreport, ?_⟩
  rintro (hdark | ⟨supplier, hsome, -⟩)
  · simp [hdark] at hblank
  · simp [Option.mem_def.mp hsome] at hsupplier

/-- The same stage with scanner sync, by the time of one point. -/
def delayingStage : OutputStage ℚ ℚ :=
  { armedStage with scannerSyncTime := 10, scannerSyncEnabled := true }

/-- A callback whose points are all dark. -/
def darkPoints : RequestPointsCallback ℕ ℚ where
  id := 8
  produce _ request := List.replicate request.minimumPointsRequired default

/-- The callback that lights its points is cleared after one pass, and a dark one follows. -/
def darkCallbackFollows : List (LightSpaceNetTurn ℕ ℚ ℚ) :=
  [.connect 1000, .call (.setPointCallback (some steadyBeam)), .begin 1, .proceed {}, .proceed {},
    .call .clearContentSource, .call (.setPointCallback (some darkPoints)), .begin 100000000,
    .proceed {}, .proceed {}]

/-- **A cleared callback lights the points of the next**: the second pass uploads what the dark
callback supplied, and the pattern is lit. -/
theorem cleared_callback_lights_next : (run (LightSpaceNetController.step smallPatterns)
    (.new delayingStage) darkCallbackFollows).map (fun r => r.2.map fun report =>
      (report.supplier, decide report.retained.Blank, report.retained.lights)) =
    some [(some (.callback 7), false, [some (.callback 7), some (.callback 7)]),
      (some (.callback 8), false, [some (.callback 7)])] := by
  decide +kernel

/-- A frame is played and held for too long, and a callback follows. -/
def frameThenCallback : List (LightSpaceNetTurn ℕ ℚ ℚ) :=
  [.connect 1000, .call (.sendFrame [white, white] 0 {}), .begin 1, .proceed {},
    .begin 100000000, .proceed {}, .begin 2000000000, .proceed {},
    .call (.setPointCallback (some steadyBeam)), .begin 3000000000, .proceed {}, .proceed {}]

/-- A run whose passes answer to the content. -/
theorem retained_pattern_supplied_by_frame : ∃ (s : LightSpaceNetController ℕ ℚ ℚ)
    (reports : List (PatternReport ℕ ℚ)),
      run (LightSpaceNetController.step smallPatterns) (.new armedStage) frameThenCallback =
          some (s, reports) ∧
        ∀ report ∈ reports, report.Lawful smallPatterns.maxFrameHoldTime := by
  have hrun : (run (LightSpaceNetController.step smallPatterns) (.new armedStage)
      frameThenCallback).isSome := by decide +kernel
  obtain ⟨⟨s, reports⟩, hrun⟩ := Option.isSome_iff_exists.mp hrun
  exact ⟨s, reports, hrun, retained_pattern_supplied (show lt (0.001 : ℚ) 0.0 = false by
    decide +kernel) smallPatterns (by decide) armedStage (by decide +kernel) hrun⟩

end LiberaLaser
