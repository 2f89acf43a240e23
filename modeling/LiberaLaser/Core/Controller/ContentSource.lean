import LiberaLaser.Core.Controller.CallbackMode
import LiberaLaser.Core.Controller.ContentCalls
import LiberaLaser.Core.Scheduler.OldestFirst

/-!
# The content source

A controller plays one source at a time, and the calls that submit, install or clear content switch
between the sources. Whatever the order of these calls and of the requests of the output worker, the
callback is stored exactly while it is the active source, and the scheduler is empty unless the
queue is (`content_source_consistent`). So a frame that switches the source is accepted, and nothing
older is played before it.
-/

namespace LiberaLaser

open FloatArith OutputStage FrameScheduler Runs

variable {τ F D : Type}

def ContentOrigin.isContent : ContentOrigin τ → Bool
  | .callback _ => true
  | .queue origin => origin.isContent

namespace LaserController

/-! ## The mode invariant -/

/-- **The mode invariant**: the callback is stored exactly while it is the active source, and the
scheduler holds nothing while the queue is not. -/
structure Consistent (c : LaserController τ F D) : Prop where
  callback : c.requestPointsCallback.isSome ↔ c.activeSource = .pointCallback
  empty : c.activeSource ≠ .frameQueue → c.frameScheduler.Empty

/-- The mode invariant, with that of the scheduler. -/
structure SourceInv (c : LaserController τ F D) : Prop extends Consistent c where
  wf : Wf c.frameScheduler

/-! ## The first content -/

/-- The origin of the first content among some points. -/
def firstContent (o : List (Stamped (ContentOrigin τ) F)) : Option (ContentOrigin τ) :=
  (o.map Stamped.stamp).find? ContentOrigin.isContent

theorem firstContent_append (o o' : List (Stamped (ContentOrigin τ) F)) :
    firstContent (o ++ o') = (firstContent o).or (firstContent o') := by
  rw [firstContent, List.map_append, List.find?_append]
  rfl

theorem firstContent_eq_none {o : List (Stamped (ContentOrigin τ) F)}
    (h : ∀ p ∈ o, p.stamp.isContent = false) : firstContent o = none := by
  refine List.find?_eq_none.mpr fun stamp hstamp => ?_
  obtain ⟨p, hp, rfl⟩ := List.mem_map.mp hstamp
  simp [h p hp]

theorem firstContent_ofQueue (q : List (Emitted F)) :
    firstContent (ofQueue q : List (Stamped (ContentOrigin τ) F)) =
      (contents q).head?.map fun p => .queue p.stamp := by
  induction q with
  | nil => rfl
  | cons p q ih =>
    change ((ContentOrigin.queue p.stamp : ContentOrigin τ) ::
      (ofQueue q).map Stamped.stamp).find? _ = _
    rw [List.find?_cons]
    cases hp : p.stamp.isContent with
    | true => simp [ContentOrigin.isContent, hp, contents]
    | false =>
      simp only [ContentOrigin.isContent, hp]
      rw [← firstContent, ih]
      simp [contents, hp]

variable [FloatArith F]

/-- Clamping and padding leave the content of a fill call alone. -/
theorem firstContent_meetRequest {request : PointFillRequest} {q : List (Emitted F)}
    (hfits : FitsBeforePadding request.maximumPointsRequired q) :
    firstContent (meetRequest request (ofQueue q) : List (Stamped (ContentOrigin τ) F)) =
      firstContent (ofQueue q : List (Stamped (ContentOrigin τ) F)) := by
  have hquiet : ∀ {n : ℕ} {o : List (Stamped (ContentOrigin τ) F)},
      (∀ p ∈ o, p ∈ (ofQueue (blanks n) : List (Stamped (ContentOrigin τ) F))) →
      firstContent o = none := by
    intro n o ho
    refine firstContent_eq_none fun p hp => ?_
    obtain ⟨e, he, rfl⟩ := List.mem_map.mp (ho p hp)
    rw [List.eq_of_mem_replicate he]
    rfl
  unfold meetRequest
  split
  · obtain ⟨kept, n, rfl, hkept⟩ := hfits
    have hlength : (ofQueue kept : List (Stamped (ContentOrigin τ) F)).length ≤
        request.maximumPointsRequired := by simpa [ofQueue] using hkept
    have hsplit : (ofQueue (kept ++ blanks n) : List (Stamped (ContentOrigin τ) F)) =
        ofQueue kept ++ ofQueue (blanks n) := List.map_append
    rw [hsplit, List.take_append, List.take_of_length_le hlength, firstContent_append,
      firstContent_append, hquiet fun p hp => List.mem_of_mem_take hp, hquiet fun p hp => hp]
  · split
    · rw [firstContent_append, firstContent_eq_none (o := List.replicate _ _), Option.or_none]
      intro p hp
      rw [List.eq_of_mem_replicate hp]
      rfl
    · rfl

/-! ## What a call can do -/

/-- The cases of a call. -/
inductive ContentStepCase (c : LaserController τ F D) :
    ContentCall τ F → LaserController τ F D → List (Stamped (ContentOrigin τ) F) → Prop
  | install (callback : RequestPointsCallback τ F) :
      ContentStepCase c (.setPointCallback (some callback)) (c.setPointCallback (some callback)) []
  | uninstall (call : ContentCall τ F) : ContentStepCase c call c.clearPointCallback []
  | keep (call : ContentCall τ F) {c' : LaserController τ F D}
      {o : List (Stamped (ContentOrigin τ) F)} (hsource : c'.activeSource = c.activeSource)
      (hcallback : c'.requestPointsCallback = c.requestPointsCallback)
      (hscheduler : c'.frameScheduler = c.frameScheduler)
      (ho : c.activeSource = .frameQueue → o = []) : ContentStepCase c call c' o
  | submit (call : ContentCall τ F) {s' : FrameScheduler F} (hs' : Submits c.frameScheduler s') :
      ContentStepCase c call { c.useFrameQueue with frameScheduler := s' } []
  | fill (call : ContentCall τ F) {c' : LaserController τ F D}
      {o : List (Stamped (ContentOrigin τ) F)} {q : List (Emitted F)}
      (hqueue : c.activeSource = .frameQueue) (hsource : c'.activeSource = .frameQueue)
      (hcallback : c'.requestPointsCallback = c.requestPointsCallback)
      (hmoves : Moves .all c.frameScheduler q c'.frameScheduler)
      (ho : firstContent o = (contents q).head?.map fun p => .queue p.stamp) :
      ContentStepCase c call c' o
  | clearQueue : ContentStepCase c .clearFrameQueue c.clearFrameQueue []
  | clear : ContentStepCase c .clearContentSource c.clearContentSource []

theorem useFrameQueue_frameScheduler (c : LaserController τ F D) :
    c.useFrameQueue.frameScheduler = c.frameScheduler := by
  unfold useFrameQueue
  split <;> rfl

/-- A submission fails, or it puts the queue in place and the scheduler may accept the frame. -/
def Offered (frame : Frame F) (c c' : LaserController τ F D) : Prop :=
  c' = c ∨ ∃ s', MayAccept frame c.frameScheduler s' ∧
    c' = { c.useFrameQueue with frameScheduler := s' }

theorem ContentStepCase.same (c : LaserController τ F D) (call : ContentCall τ F) :
    ContentStepCase c call c [] :=
  .keep call rfl rfl rfl fun _ => rfl

theorem ContentStepCase.offered {points : List (LaserPoint F)} {time : TimePoint}
    {c c' : LaserController τ F D} (h : Offered { points := points, time := time } c c')
    (call : ContentCall τ F) : ContentStepCase c call c' [] := by
  rcases h with rfl | ⟨s', hs', rfl⟩
  · exact .same _ call
  · exact .submit call hs'.submits

/-! ## What keeps the mode invariant -/

theorem SourceInv.useFrameQueue {c : LaserController τ F D} (h : SourceInv c)
    {s' : FrameScheduler F} (hs' : Submits c.frameScheduler s') :
    SourceInv { c.useFrameQueue with frameScheduler := s' } := by
  have hwf : Wf s' := hs'.wf h.wf
  by_cases hqueue : c.activeSource = .frameQueue
  · rw [LaserController.useFrameQueue, if_pos hqueue]
    exact ⟨⟨h.callback, fun hsource => absurd hqueue hsource⟩, hwf⟩
  · rw [LaserController.useFrameQueue, if_neg hqueue]
    exact ⟨⟨by simp, fun hsource => absurd rfl hsource⟩, hwf⟩

/-- **Every call keeps the mode invariant.** -/
theorem SourceInv.step {c c' : LaserController τ F D} (h : SourceInv c) {call : ContentCall τ F}
    {o : List (Stamped (ContentOrigin τ) F)} (hcase : ContentStepCase c call c' o) :
    SourceInv c' := by
  cases hcase with
  | install callback =>
    exact ⟨⟨by simp [setPointCallback], fun _ => empty_reset _⟩, wf_reset _⟩
  | uninstall call =>
    unfold clearPointCallback
    dsimp only
    split
    · rename_i hsource
      exact ⟨⟨by simp [resetPointCallbackAdapterState], fun _ => h.empty (by simp [hsource])⟩, h.wf⟩
    · rename_i hsource
      exact ⟨⟨by simpa using hsource, h.empty⟩, h.wf⟩
  | keep call hsource hcallback hscheduler ho =>
    refine ⟨⟨?_, fun hne => ?_⟩, hscheduler ▸ h.wf⟩
    · rw [hcallback, hsource]
      exact h.callback
    · rw [hscheduler]
      exact h.empty (hsource ▸ hne)
  | submit call hs' => exact h.useFrameQueue hs'
  | fill call hqueue hsource hcallback hmoves ho =>
    refine ⟨⟨?_, fun hne => absurd hsource hne⟩, hmoves.wf h.wf⟩
    rw [hcallback, hsource, ← hqueue]
    exact h.callback
  | clearQueue =>
    unfold clearFrameQueue
    dsimp only
    split
    · rename_i hsource
      have hcallback := h.callback
      refine ⟨⟨?_, fun _ => empty_reset _⟩, wf_reset _⟩
      simpa [hsource] using hcallback
    · exact ⟨⟨h.callback, fun _ => empty_reset _⟩, wf_reset _⟩
  | clear =>
    exact ⟨⟨by simp [clearContentSource, resetPointCallbackAdapterState], fun _ => empty_reset _⟩,
      wf_reset _⟩

/-! ## What is played after a submission -/

/-- The call keeps what is queued, and does not install a callback. -/
def ContentCall.KeepsQueue : ContentCall τ F → Prop
  | .setPointCallback (some _) | .clearFrameQueue | .clearContentSource => False
  | _ => True

/-- The queue is the active source, and among the points `tr` handed out since the submission number
`serial`, the content starts with the oldest frame that was not skipped. -/
structure QueueOpens (serial : ℕ) (tr : List (Stamped (ContentOrigin τ) F))
    (c : LaserController τ F D) : Prop where
  source : c.activeSource = .frameQueue
  wf : Wf c.frameScheduler
  submitted : serial ≤ c.frameScheduler.submitted.length
  opens : ∃ q, firstContent tr = (contents q).head?.map (fun p => .queue p.stamp) ∧
    OldestFirst serial q c.frameScheduler

theorem QueueOpens.step {serial : ℕ} {tr o : List (Stamped (ContentOrigin τ) F)}
    {c c' : LaserController τ F D} {call : ContentCall τ F} (h : QueueOpens serial tr c)
    (hkeeps : call.KeepsQueue) (hcase : ContentStepCase c call c' o) :
    QueueOpens serial (tr ++ o) c' := by
  obtain ⟨q, hfirst, hopens⟩ := h.opens
  cases hcase with
  | install callback => exact hkeeps.elim
  | uninstall call =>
    have hsource : ¬ c.activeSource = .pointCallback := by simp [h.source]
    rw [clearPointCallback, if_neg hsource, List.append_nil]
    exact ⟨h.source, h.wf, h.submitted, q, hfirst, hopens⟩
  | keep call hsource hcallback hscheduler ho =>
    rw [ho h.source, List.append_nil]
    refine ⟨hsource.trans h.source, hscheduler ▸ h.wf, hscheduler ▸ h.submitted, q, hfirst, ?_⟩
    exact hscheduler ▸ hopens
  | @submit call s' hs' =>
    rw [List.append_nil, useFrameQueue, if_pos h.source]
    refine ⟨h.source, hs'.wf h.wf, ?_, q, hfirst, hopens.submits h.submitted hs'⟩
    have hle := h.submitted
    cases hs' with
    | rejected => exact hle
    | accepted points time hne =>
      simp only [acceptFrame, List.length_append]
      omega
  | @fill call c' o q' hqueue hsource hcallback hmoves ho =>
    refine ⟨hsource, hmoves.wf h.wf, hmoves.submitted_eq ▸ h.submitted, q ++ q', ?_,
      hopens.moves h.wf hmoves⟩
    rw [firstContent_append, hfirst, ho, contents_append, List.head?_append]
    cases (contents q).head? <;> rfl
  | clearQueue => exact hkeeps.elim
  | clear => exact hkeeps.elim

/-! ## Every call -/

variable [FloatArith D]

theorem sourceInv_new (stage : OutputStage F D) :
    SourceInv { (new : LaserController τ F D) with stage := stage } where
  callback := by simp [new]
  empty := fun _ => empty_init
  wf := wf_init

theorem firstContent_handOut (points : List (Stamped (ContentOrigin τ) F))
    (c : LaserController τ F D) : firstContent (c.handOut points).2 = firstContent points := by
  rw [firstContent, (handOut_eq points c).2.1]
  rfl

theorem offered_sendFrame (points : List (LaserPoint F)) (time : TimePoint)
    (context : SubmissionContext) (c : LaserController τ F D) :
    Offered { points := sanitizeLaserPoints points, time := stampedTime context time } c
      (c.sendFrame { points := points, time := time } context).1 := by
  unfold sendFrame
  split
  · exact Or.inl rfl
  · dsimp only
    split
    · refine Or.inr ⟨c.frameScheduler, Or.inl rfl, ?_⟩
      rw [← useFrameQueue_frameScheduler c]
    · refine Or.inr ⟨_, ?_, rfl⟩
      rw [useFrameQueue_frameScheduler, prepareFrame_eq]
      exact mayAccept_enqueueFrame _ _

theorem offered_trySendFrame (points : List (LaserPoint F)) (time : TimePoint)
    (context : SubmissionContext) (contentSourceFree schedulerFree : Bool)
    (c : LaserController τ F D) :
    Offered { points := sanitizeLaserPoints points, time := stampedTime context time } c
      (c.trySendFrame { points := points, time := time } context contentSourceFree
        schedulerFree).1 := by
  unfold trySendFrame
  split
  · exact Or.inl rfl
  · dsimp only
    split
    · exact Or.inl rfl
    · refine Or.inr ⟨_, ?_, rfl⟩
      rw [useFrameQueue_frameScheduler, prepareFrame_eq]
      exact mayAccept_tryEnqueueFrameIfReady _ _ _ _ _

/-- A framer hands out or not, and nothing else changes. -/
theorem extractFrame_returns (request : FrameFillRequest) (context : RequestContext)
    (callback : RequestPointsCallback τ F) (c : LaserController τ F D) :
    ∃ framer frame, c.extractFrame request context callback =
      some ({ c with pointStreamFramer := framer }, frame) := by
  have hnominal : 1 ≤ (c.configured request context callback).nominalFrameSize :=
    Nat.le_max_right _ _
  obtain ⟨ready, -, hresult⟩ :=
    PointStreamFramer.extractFrame_spec callback request.templateRequest hnominal
  rcases hresult with ⟨-, hextract⟩ | ⟨front, rest, -, hextract⟩
  · refine ⟨ready, none, ?_⟩
    simp only [LaserController.extractFrame]
    rw [← configured, hextract]
  · refine ⟨ready.handOut front rest, if front.isEmpty then none else some front, ?_⟩
    simp only [LaserController.extractFrame]
    rw [← configured, hextract]

theorem requestPoints_cases {c : LaserController τ F D} (hwf : Wf c.frameScheduler)
    (request : PointFillRequest) (context : RequestContext) (invocation : ℕ) :
    ∃ c' o, contentStep c (.requestPoints request context invocation) = some (c', o) ∧
      ContentStepCase c (.requestPoints request context invocation) c' o := by
  simp only [contentStep, requestPoints]
  cases hsource : c.activeSource with
  | none => exact ⟨c, [], rfl, .same c _⟩
  | pointCallback =>
    cases c.requestPointsCallback with
    | none => exact ⟨c, [], rfl, .same c _⟩
    | some callback => exact ⟨_, _, rfl, .keep _ rfl rfl rfl (by simp [hsource])⟩
  | frameQueue =>
    obtain ⟨s', out, hfill, -, hmoves, -⟩ := fillPoints_spec (A := .all) D request c.stage.pointRate
      context.maxFrameHoldTime context.clock hwf fun _ _ _ => trivial
    rw [hfill]
    refine ⟨_, _, rfl, .fill _ hsource rfl rfl hmoves ?_⟩
    rw [Option.getD_some, firstContent_handOut, firstContent_meetRequest (fillPoints_fits hfill),
      firstContent_ofQueue]

theorem requestFrame_cases {c : LaserController τ F D} (hwf : Wf c.frameScheduler)
    (request : FrameFillRequest) (context : RequestContext) :
    ∃ c' o, contentStep c (.requestFrame request context) = some (c', o) ∧
      ContentStepCase c (.requestFrame request context) c' o := by
  simp only [contentStep, requestFrameOrigins]
  cases hsource : c.activeSource with
  | none => exact ⟨c, [], rfl, .same c _⟩
  | pointCallback =>
    split_ifs
    · exact ⟨c, [], rfl, .same c _⟩
    · cases c.requestPointsCallback with
      | none => exact ⟨c, [], rfl, .same c _⟩
      | some callback =>
        obtain ⟨framer, frame, hextract⟩ := c.extractFrame_returns request context callback
        dsimp only
        rw [hextract]
        cases frame with
        | none => exact ⟨_, [], rfl, .keep _ rfl rfl rfl fun _ => rfl⟩
        | some frame => exact ⟨_, _, rfl, .keep _ rfl rfl rfl (by simp [hsource])⟩
  | frameQueue =>
    obtain ⟨s', frame, hfill, hmoves, -⟩ := fillFrame_spec (A := .all) request.schedulerRequest
      context.maxFrameHoldTime context.clock hwf (fun _ _ _ => trivial) fun _ => trivial
    rw [hfill]
    refine ⟨_, _, rfl, .fill _ hsource rfl rfl hmoves ?_⟩
    rw [Option.getD_some, firstContent_handOut, firstContent_ofQueue]

/-- **Every call returns**, in one of the cases. -/
theorem contentStep_cases {c : LaserController τ F D} (hwf : Wf c.frameScheduler)
    (call : ContentCall τ F) :
    ∃ c' o, contentStep c call = some (c', o) ∧ ContentStepCase c call c' o := by
  cases call with
  | setPointCallback callback =>
    cases callback with
    | none => exact ⟨_, _, rfl, .uninstall _⟩
    | some callback => exact ⟨_, _, rfl, .install callback⟩
  | clearPointCallback => exact ⟨_, _, rfl, .uninstall _⟩
  | clearPointCallbackPrefetch =>
    refine ⟨_, _, rfl, ?_⟩
    unfold clearPointCallbackPrefetch
    split <;> exact .keep _ rfl rfl rfl fun _ => rfl
  | sendFrame points time context =>
    exact ⟨_, _, rfl, .offered (offered_sendFrame points time context c) _⟩
  | trySendFrame points time context contentSourceFree schedulerFree =>
    exact ⟨_, _, rfl, .offered
      (offered_trySendFrame points time context contentSourceFree schedulerFree c) _⟩
  | useFrameQueue =>
    refine ⟨_, _, rfl, ?_⟩
    have hcase := ContentStepCase.submit (c := c) .useFrameQueue Submits.rejected
    rwa [← useFrameQueue_frameScheduler c] at hcase
  | clearFrameQueue => exact ⟨_, _, rfl, .clearQueue⟩
  | clearContentSource => exact ⟨_, _, rfl, .clear⟩
  | setPointRate pointRateValue => exact ⟨_, _, rfl, .keep _ rfl rfl rfl fun _ => rfl⟩
  | requestPoints request context invocation =>
    exact requestPoints_cases hwf request context invocation
  | requestFrame request context => exact requestFrame_cases hwf request context

/-- **Every call returns** and keeps the mode invariant. -/
theorem SourceInv.total {c : LaserController τ F D} (h : SourceInv c) (call : ContentCall τ F) :
    ∃ c' o, contentStep c call = some (c', o) ∧ SourceInv c' := by
  obtain ⟨c', o, hstep, hcase⟩ := contentStep_cases h.wf call
  exact ⟨c', o, hstep, h.step hcase⟩

/-! ## What plays next -/

/-- A submission was accepted. What is played next starts with this frame, or with one submitted
after it where all the frames up to that one were skipped as stale, until a call clears the queue or
installs a callback. -/
structure PlaysNext (c : LaserController τ F D) (frame : Frame F)
    (r : LaserController τ F D × Bool) : Prop where
  accepted : r.2 = true
  submitted : r.1.frameScheduler.submitted = c.frameScheduler.submitted ++ [frame]
  first : ∀ later : List (ContentCall τ F), (∀ call ∈ later, call.KeepsQueue) →
    ∃ c' o, run contentStep r.1 later = some (c', o) ∧ ∀ origin ∈ firstContent o,
      ∃ n, origin = .queue (.content n 0) ∧
        SkippedUpTo c.frameScheduler.submitted.length n c'.frameScheduler

theorem QueueOpens.run {serial : ℕ} {tr o : List (Stamped (ContentOrigin τ) F)}
    {c c' : LaserController τ F D} {later : List (ContentCall τ F)} (h : QueueOpens serial tr c)
    (hlater : ∀ call ∈ later, call.KeepsQueue) (hrun : run contentStep c later = some (c', o)) :
    QueueOpens serial (tr ++ o) c' := by
  refine run_invariant (I := QueueOpens serial) (G := fun _ _ call => call.KeepsQueue) ?_ h
    (Along.of_forall hlater tr c) hrun
  intro tr c call c' o h hkeeps hstep
  obtain ⟨_, _, hstep', hcase⟩ := contentStep_cases h.wf call
  rw [hstep, Option.some.injEq, Prod.mk.injEq] at hstep'
  obtain ⟨rfl, rfl⟩ := hstep'
  exact h.step hkeeps hcase

/-- **A frame that finds the scheduler empty plays next** once the scheduler has it. -/
theorem playsNext_of_empty {c c' : LaserController τ F D} (hempty : c.frameScheduler.Empty)
    {frame : Frame F} (hframe : Submittable frame) (hinv : SourceInv c')
    (hsource : c'.activeSource = .frameQueue)
    (hscheduler : c'.frameScheduler = c.frameScheduler.acceptFrame frame) :
    PlaysNext c frame (c', true) where
  accepted := rfl
  submitted := by rw [hscheduler]; rfl
  first := by
    intro later hlater
    have hstart : QueueOpens c.frameScheduler.submitted.length [] c' := by
      refine ⟨hsource, hinv.wf, ?_, [], rfl, ?_⟩
      · rw [hscheduler]
        simp [acceptFrame]
      · rw [hscheduler]
        exact oldestFirst_of_waiting rfl (hempty.acceptFrame_waiting hframe)
    obtain ⟨c₂, o, hrun, -⟩ := run_total (fun c call h => h.total call) hinv later
    refine ⟨c₂, o, hrun, fun origin horigin => ?_⟩
    obtain ⟨q, hfirst, hopens⟩ := (hstart.run hlater hrun).opens
    rw [List.nil_append] at hfirst
    rw [hfirst, Option.mem_def, Option.map_eq_some_iff] at horigin
    obtain ⟨p, hp, rfl⟩ := horigin
    rw [OldestFirst, hp] at hopens
    obtain ⟨n, hstamp, hskipped⟩ := hopens
    exact ⟨n, congrArg _ hstamp, hskipped⟩

/-- While another source is active, a submission with the locks free hands the frame to an empty
scheduler. -/
theorem sendFrame_eq {c : LaserController τ F D} (h : SourceInv c)
    (hsource : c.activeSource ≠ .frameQueue) {points : List (LaserPoint F)} (time : TimePoint)
    (context : SubmissionContext) (hne : points ≠ []) :
    c.sendFrame { points := points, time := time } context =
        ({ c.useFrameQueue with
            frameScheduler := c.frameScheduler.acceptFrame
              (prepareFrame context { points := points, time := time }) }, true) ∧
      c.trySendFrame { points := points, time := time } context true true =
        c.sendFrame { points := points, time := time } context := by
  have hempty := h.empty hsource
  have hnonempty : points.isEmpty = false := by simpa using hne
  have hprepared : (prepareFrame context
      { points := points, time := time }).points.isEmpty = false := by
    rw [prepareFrame_eq]
    simpa [sanitizeLaserPoints] using hne
  have hcount := hempty.queuedPointCount context.minimumQueuedFramePointCountForReadiness
  constructor
  · simp only [sendFrame, hnonempty, Bool.false_eq_true, if_false, useFrameQueue_frameScheduler,
      hcount, Nat.not_lt_zero, enqueueFrame, hprepared]
  · simp only [sendFrame, trySendFrame, hnonempty, Bool.false_eq_true, if_false,
      useFrameQueue_frameScheduler, hcount, Nat.not_lt_zero, enqueueFrame, tryEnqueueFrameIfReady,
      hprepared, Bool.not_true]

/-- **The content source is consistent** after every sequence of calls: the callback is stored
exactly while it is active, and the scheduler is empty unless the queue is active. A frame that is
then submitted while the queue is not active, with the locks free, is accepted and plays next. -/
theorem content_source_consistent (stage : OutputStage F D) (calls : List (ContentCall τ F)) :
    ∃ c o, run contentStep { (new : LaserController τ F D) with stage := stage } calls =
        some (c, o) ∧
      Consistent c ∧
      (c.activeSource ≠ .frameQueue → ∀ points time context, points ≠ [] →
        PlaysNext c (prepareFrame context { points := points, time := time })
            (c.sendFrame { points := points, time := time } context) ∧
          PlaysNext c (prepareFrame context { points := points, time := time })
            (c.trySendFrame { points := points, time := time } context true true)) := by
  obtain ⟨c, o, hrun, h⟩ := run_total (fun c call h => SourceInv.total h call)
    (sourceInv_new (τ := τ) stage) calls
  refine ⟨c, o, hrun, h.toConsistent, fun hsource points time context hne => ?_⟩
  obtain ⟨hsend, htry⟩ := sendFrame_eq h hsource time context hne
  have hframe : Submittable (prepareFrame context { points := points, time := time }) := by
    rw [prepareFrame_eq]
    exact ⟨by simpa [sanitizeLaserPoints] using hne, rfl, rfl⟩
  have haccepted : Submits c.frameScheduler (c.frameScheduler.acceptFrame
      (prepareFrame context { points := points, time := time })) := by
    rw [prepareFrame_eq]
    exact .accepted _ _ (by simpa [sanitizeLaserPoints] using hne)
  rw [htry, hsend]
  have hnext := playsNext_of_empty (h.empty hsource) hframe (h.useFrameQueue haccepted)
    (by simp [useFrameQueue, hsource]) rfl
  exact ⟨hnext, hnext⟩

/-! ## A frame that never plays -/

/-- A callback is installed, and two frames that are due at once are submitted before the worker
asks for points. -/
def twoFramesDue : List (ContentCall ℕ ℚ) :=
  [.setPointCallback (some (obliging 7)), .sendFrame [default] 10 {}, .sendFrame [default] 20 {},
    .requestPoints { minimumPointsRequired := 1, maximumPointsRequired := 1,
                     estimatedFirstPointRenderTime := 30 } noLatency 0]

/-- The first content is that of the second frame: the one that switched the source was skipped. -/
theorem first_content_of_later_frame : ∃ (c : LaserController ℕ ℚ ℚ)
    (o : List (Stamped (ContentOrigin ℕ) ℚ)), run contentStep new twoFramesDue = some (c, o) ∧
      firstContent o = some (.queue (.content 1 0)) := by
  have hfirst : (run contentStep (new : LaserController ℕ ℚ ℚ) twoFramesDue).map
      (fun r => firstContent r.2) = some (some (.queue (.content 1 0))) := by decide +kernel
  obtain ⟨⟨c, o⟩, hrun, hfirst⟩ := Option.map_eq_some_iff.mp hfirst
  exact ⟨c, o, hrun, hfirst⟩

end LaserController

end LiberaLaser
