import LiberaLaser.Core.Controller.ContentSource
import LiberaLaser.Foundations.Backlog

/-!
# Back-pressure on submissions

A frame is accepted while the points still to be played are within a budget. A frame counts for the
points that it has left, and for no less than a floor; a frame that was played to the end counts for
nothing. `trySendFrame` decides and enqueues in one section under the scheduler's mutex. `sendFrame`
does so in two, and holds the content mutex around them: no other frame is submitted in between, but
the output worker may fill requests. Every such section is a step of its own here.

The worker's part of a request is that of the scheduler: which source it has seen, and how the
points are post-processed, is no matter to the queue.
-/

namespace LiberaLaser

open FloatArith Loop Runs Backlog

variable {τ F D : Type}

namespace FrameScheduler

/-- The frames held: the queue, and the pending frames behind it. -/
def held (s : FrameScheduler F) : List (QueuedFrame F) :=
  s.frameQueue ++ s.pendingFrames

/-- A frame with a point to play. -/
def HasPointsLeft (frame : Frame F) : Prop :=
  frame.nextPoint < frame.points.length

instance (frame : Frame F) : Decidable (HasPointsLeft frame) :=
  inferInstanceAs (Decidable (frame.nextPoint < frame.points.length))

/-- What a frame counts for. -/
def queuedFramePointCount (minimumQueuedPointsPerFrame : ℕ) (frame : QueuedFrame F) : ℕ :=
  let nextPoint := Nat.min frame.nextPoint frame.points.length
  let remainingPoints := frame.points.length - nextPoint
  if 0 < remainingPoints then Nat.max remainingPoints (Nat.max minimumQueuedPointsPerFrame 1) else 0

theorem queuedPointCountUnsafe_eq (minimumQueuedPointsPerFrame : ℕ) (s : FrameScheduler F) :
    s.queuedPointCountUnsafe minimumQueuedPointsPerFrame =
      (s.held.map (queuedFramePointCount minimumQueuedPointsPerFrame)).sum := by
  rw [held, List.map_append, List.sum_append, Nat.add_comm, ← List.sum_append, ← List.map_append]
  rfl

/-! ## What a fill does to the frames held -/

@[simp] theorem held_drainPendingFramesUnsafe (s : FrameScheduler F) :
    s.drainPendingFramesUnsafe.held = s.held := by
  simp [held, drainPendingFramesUnsafe]

@[simp] theorem held_drainPendingTransitionUnsafe (outputBuffer : List (Emitted F))
    (maxPoints : ℕ) (s : FrameScheduler F) :
    (s.drainPendingTransitionUnsafe outputBuffer maxPoints).1.held = s.held := rfl

theorem held_acceptFrame (frame : Frame F) (s : FrameScheduler F) :
    (s.acceptFrame frame).held =
      s.held ++ [{ toFrame := frame, serial := s.submitted.length }] := by
  rw [held, acceptFrame, ← List.append_assoc]
  rfl

theorem advances_dropStaleFrames (t : TimePoint) (s : FrameScheduler F) :
    Advances s.held (s.dropStaleFrames t).held := by
  obtain ⟨dropped, hqueue, -⟩ := skipStaleFrames_spec t s.frameQueue
  refine .of_suffix ⟨dropped, ?_⟩
  rw [held, held, ← List.append_assoc]
  exact congrArg (· ++ s.pendingFrames) hqueue.symm

/-- The scheduler after a pass of a fill. -/
def schedAfter {σ α : Type} (sched : σ → FrameScheduler F) :
    Pass σ (FrameScheduler F × α) → FrameScheduler F
  | .again st => sched st
  | .done (s, _) => s

/-- **What every pass does, the fill does.** -/
theorem advances_run {σ α : Type} {sched : σ → FrameScheduler F}
    {body : σ → Option (Pass σ (FrameScheduler F × α))}
    (hbody : ∀ st pass, body st = some pass →
      Advances (sched st).held (schedAfter sched pass).held)
    {budget : ℕ} {st : σ} {r : FrameScheduler F × α} (h : run body budget st = some r) :
    Advances (sched st).held r.1.held :=
  run_partial (I := fun st' => Advances (sched st).held (sched st').held)
    (P := fun r => Advances (sched st).held r.1.held)
    (fun st' _ hst hpass => hst.trans (hbody st' _ hpass))
    (fun st' _ hst hpass => hst.trans (hbody st' _ hpass)) (.refl _) h

variable [FloatArith F]

theorem held_bridgeJump {maxPoints : ℕ} {lastPoint : LaserPoint F} {st : PointsPass F}
    {pass : Pass (PointsPass F) (FrameScheduler F × List (Emitted F))}
    (h : bridgeJump maxPoints lastPoint st = some pass) :
    (schedAfter PointsPass.sched pass).held = st.sched.held := by
  unfold bridgeJump at h
  split at h
  · cases h
  · split at h
    · cases h
    · split at h
      · dsimp only at h
        split at h <;> (cases h; rfl)
      · cases h
        rfl

theorem advances_leaveFrame {renderTime : ℕ → TimePoint} {minPoints maxPoints : ℕ}
    {maxFrameHoldTime : Duration} {clock : ℕ → TimePoint} {currentFrame : QueuedFrame F}
    {rest : List (QueuedFrame F)} {lastPoint : LaserPoint F} {st : PointsPass F}
    {pass : Pass (PointsPass F) (FrameScheduler F × List (Emitted F))}
    (hqueue : st.sched.frameQueue = currentFrame :: rest)
    (h : leaveFrame renderTime minPoints maxPoints maxFrameHoldTime clock currentFrame rest
      lastPoint st = some pass) :
    Advances st.sched.held (schedAfter PointsPass.sched pass).held := by
  have hheld : st.sched.held = currentFrame :: (rest ++ st.sched.pendingFrames) := by
    rw [held, hqueue, List.cons_append]
  rw [hheld]
  unfold leaveFrame at h
  split at h
  · rw [held_bridgeJump h]
    exact .drop_front _ _
  · split at h
    · cases h
      exact .drop_front _ _
    · rw [held_bridgeJump h]
      exact .front _ _ _

theorem advances_fillPointsPass {renderTime : ℕ → TimePoint} {minPoints maxPoints : ℕ}
    {maxFrameHoldTime : Duration} {clock : ℕ → TimePoint} (st : PointsPass F)
    (pass : Pass (PointsPass F) (FrameScheduler F × List (Emitted F)))
    (h : fillPointsPass renderTime minPoints maxPoints maxFrameHoldTime clock st = some pass) :
    Advances st.sched.held (schedAfter PointsPass.sched pass).held := by
  unfold fillPointsPass at h
  split at h
  · cases h
  · rename_i front rest hqueue
    split at h
    · cases h
    · -- the copy moves the cursor of the front frame
      have hcopy : Advances st.sched.held
          (copyPoints maxPoints clock front rest st).2.sched.held := by
        rw [held, hqueue]
        exact .front _ _ _
      dsimp only at h
      split at h
      · cases h
        exact hcopy
      · split at h
        · cases h
          exact hcopy
        · split at h
          · cases h
          · exact hcopy.trans (advances_leaveFrame rfl h)

/-- **A point request works at the front.** -/
theorem advances_fillPoints {D : Type} [FloatArith D] {request : PointFillRequest}
    {pointRateValue : ℕ} {maxFrameHoldTime : Duration} {clock : ℕ → TimePoint}
    {s : FrameScheduler F} {r : FrameScheduler F × List (Emitted F)}
    (h : s.fillPoints D request pointRateValue maxFrameHoldTime clock = some r) :
    Advances s.held r.1.held := by
  rw [← held_drainPendingFramesUnsafe s]
  unfold fillPoints at h
  dsimp only at h
  split at h
  · cases h
    exact .refl _
  · rw [← held_drainPendingTransitionUnsafe [] request.maximumPointsRequired]
    split at h
    · cases h
      exact .refl _
    · split at h
      · cases h
        exact .refl _
      · refine (advances_dropStaleFrames
          (estimatedRenderTime request.estimatedFirstPointRenderTime clock).1 _).trans ?_
        split at h
        · cases h
        · split at h
          · cases h
            exact .refl _
          · exact advances_run advances_fillPointsPass h

theorem advances_finishFrame {request : FramePullRequest} {firstRenderTime : TimePoint}
    {maxFrameHoldTime : Duration} {clock : ℕ → TimePoint} {currentFrame : QueuedFrame F}
    {rest : List (QueuedFrame F)} {st : FramePass F}
    {pass : Pass (FramePass F) (FrameScheduler F × OutputFrame F)}
    (hqueue : st.sched.frameQueue = currentFrame :: rest)
    (h : finishFrame request firstRenderTime maxFrameHoldTime clock currentFrame rest st =
      some pass) :
    Advances st.sched.held (schedAfter FramePass.sched pass).held := by
  have hheld : st.sched.held = currentFrame :: (rest ++ st.sched.pendingFrames) := by
    rw [held, hqueue, List.cons_append]
  rw [hheld]
  unfold finishFrame at h
  split at h
  · split at h
    · dsimp only at h
      split at h
      · split at h <;> (cases h; exact .drop_front _ _)
      · cases h
        exact .drop_front _ _
    · cases h
  · split at h
    · cases h
      exact .drop_front _ _
    · split at h
      · cases h
        rw [← hheld]
        exact .refl _
      · cases h
        exact .front _ _ _

theorem advances_fillFramePass {request : FramePullRequest} {firstRenderTime : TimePoint}
    {maxFrameHoldTime : Duration} {clock : ℕ → TimePoint} (st : FramePass F)
    (pass : Pass (FramePass F) (FrameScheduler F × OutputFrame F))
    (h : fillFramePass request firstRenderTime maxFrameHoldTime clock st = some pass) :
    Advances st.sched.held (schedAfter FramePass.sched pass).held := by
  unfold fillFramePass at h
  split at h
  · cases h
    exact .refl _
  · rename_i front rest hqueue
    split at h
    · cases h
      exact .refl _
    · split at h
      · exact advances_finishFrame hqueue h
      · cases h
        rw [held, hqueue]
        exact .front _ _ _

/-- **A frame request works at the front.** -/
theorem advances_fillFrame {request : FramePullRequest} {maxFrameHoldTime : Duration}
    {clock : ℕ → TimePoint} {s : FrameScheduler F} {r : FrameScheduler F × OutputFrame F}
    (h : s.fillFrame request maxFrameHoldTime clock = some r) : Advances s.held r.1.held := by
  rw [← held_drainPendingFramesUnsafe s]
  unfold fillFrame at h
  dsimp only at h
  split at h
  · cases h
    exact .refl _
  · rw [← held_drainPendingTransitionUnsafe [] request.maximumPointsRequired]
    split at h
    · cases h
      exact .refl _
    · split at h
      · cases h
        exact .refl _
      · exact (advances_dropStaleFrames
          (estimatedRenderTime request.estimatedFirstPointRenderTime clock).1 _).trans
          (advances_run advances_fillFramePass h)

end FrameScheduler

/-! ## The system -/

/-- What a submission saw that was accepted: the frame as it is enqueued, the budget, and what each
of the frames held with a point left counted for. -/
structure Acceptance (F : Type) where
  frame : Frame F
  queuedPointBudget : ℕ
  counted : List ℕ

/-- The budget is at most `B`, every frame counts for `f` points at least, and the new frame will
count as well. -/
structure Acceptance.Within (B f : ℕ) (a : Acceptance F) : Prop where
  budget_le : a.queuedPointBudget ≤ B
  le_counted : ∀ n ∈ a.counted, f ≤ n
  hasPointsLeft : FrameScheduler.HasPointsLeft a.frame

instance (B f : ℕ) (a : Acceptance F) : Decidable (a.Within B f) :=
  decidable_of_iff (a.queuedPointBudget ≤ B ∧ (∀ n ∈ a.counted, f ≤ n) ∧
    FrameScheduler.HasPointsLeft a.frame)
    ⟨fun ⟨hbudget, hcounted, hleft⟩ => ⟨hbudget, hcounted, hleft⟩,
      fun ⟨hbudget, hcounted, hleft⟩ => ⟨hbudget, hcounted, hleft⟩⟩

/-- A controller, and the acceptance of the `sendFrame` that holds the content mutex between its two
sections. -/
structure Submitting (τ F D : Type) where
  controller : LaserController τ F D
  sender : Option (Acceptance F) := none

/-- A step: one of the two sections of `sendFrame`, a whole `trySendFrame` with the outcomes of its
`try_lock`s, a fill by the output worker, or a call that changes the source or the rate. -/
inductive SubmittingStep (τ F : Type)
  | sendFrame (frame : Frame F) (context : SubmissionContext)
  | enqueue
  | trySendFrame (frame : Frame F) (context : SubmissionContext)
      (contentSourceFree schedulerFree : Bool)
  | fillPoints (request : PointFillRequest) (pointRateValue : ℕ) (maxFrameHoldTime : Duration)
      (clock : ℕ → TimePoint)
  | fillFrame (request : FramePullRequest) (maxFrameHoldTime : Duration) (clock : ℕ → TimePoint)
  | setPointCallback (callback : Option (RequestPointsCallback τ F))
  | useFrameQueue
  | clearFrameQueue
  | clearContentSource
  | setPointRate (pointRateValue : ℕ)

open FrameScheduler

namespace LaserController

theorem clearFrameQueue_frameScheduler (c : LaserController τ F D) :
    c.clearFrameQueue.frameScheduler = c.frameScheduler.reset := by
  unfold clearFrameQueue
  dsimp only
  split <;> rfl

variable [FloatArith F]

theorem setPointCallback_frameScheduler (callback : Option (RequestPointsCallback τ F))
    (c : LaserController τ F D) :
    (c.setPointCallback callback).frameScheduler = c.frameScheduler ∨
      (c.setPointCallback callback).frameScheduler = c.frameScheduler.reset := by
  cases callback with
  | none =>
    left
    simp only [setPointCallback, clearPointCallback]
    split <;> rfl
  | some callback => exact Or.inr rfl

variable [FloatArith D]

/-- The section of `sendFrame` that decides. It leaves the frame to enqueue. -/
def beginSend (frame : Frame F) (context : SubmissionContext) (c : LaserController τ F D) :
    LaserController τ F D × Option (Frame F) :=
  if frame.points.isEmpty then (c, none)
  else
    let frame := prepareFrame context frame
    let c := c.useFrameQueue
    if c.queuedPointBudget context < c.frameScheduler.queuedPointCountUnsafe
        context.minimumQueuedFramePointCountForReadiness then (c, none)
    else (c, some frame)

/-- The section of `sendFrame` that enqueues. -/
def finishSend (frame : Frame F) (c : LaserController τ F D) : LaserController τ F D × Bool :=
  let (frameScheduler, accepted) := c.frameScheduler.enqueueFrame frame
  ({ c with frameScheduler := frameScheduler }, accepted)

/-- **The two sections make up `sendFrame`.** -/
theorem sendFrame_eq_sections (frame : Frame F) (context : SubmissionContext)
    (c : LaserController τ F D) :
    c.sendFrame frame context =
      match c.beginSend frame context with
      | (c, none) => (c, false)
      | (c, some frame) => c.finishSend frame := by
  unfold sendFrame beginSend
  dsimp only
  split
  · rfl
  · split <;> rfl

/-- What a submission of the frame sees. -/
def acceptance (frame : Frame F) (context : SubmissionContext) (c : LaserController τ F D) :
    Acceptance F where
  frame := frame
  queuedPointBudget := c.queuedPointBudget context
  counted := (c.frameScheduler.held.filter (HasPointsLeft ·.toFrame)).map
    (queuedFramePointCount context.minimumQueuedFramePointCountForReadiness)

end LaserController

namespace Submitting

/-- A call that takes the content mutex waits while a `sendFrame` holds it. -/
def whileFree (call : LaserController τ F D → LaserController τ F D) (s : Submitting τ F D) :
    Option (Submitting τ F D × List (Acceptance F)) :=
  if s.sender.isSome then none else some ({ s with controller := call s.controller }, [])

def withScheduler (frameScheduler : FrameScheduler F) (s : Submitting τ F D) : Submitting τ F D :=
  { s with controller := { s.controller with frameScheduler := frameScheduler } }

/-! ## The invariant -/

/-- **The invariant**: only the front frame may be played to the end, and a `sendFrame` that was
promised room still finds it. -/
structure Bounded (B f : ℕ) (s : Submitting τ F D) : Prop where
  behind : Behind (fun frame => HasPointsLeft frame.toFrame) s.controller.frameScheduler.held
  length_le : s.controller.frameScheduler.held.length ≤ B / f + 2
  room : ∀ a, s.sender = some a → a.Within B f →
    s.controller.frameScheduler.held.length ≤ B / f + 1

variable {B f : ℕ} {s : Submitting τ F D}

/-- **What works at the front keeps the invariant.** -/
theorem Bounded.advances (h : Bounded B f s) {s' : Submitting τ F D}
    (hsender : s'.sender = s.sender)
    (ha : Advances s.controller.frameScheduler.held s'.controller.frameScheduler.held) :
    Bounded B f s' where
  behind := h.behind.advances ha
  length_le := ha.length_le.trans h.length_le
  room a hs' hwithin := ha.length_le.trans (h.room a (hsender ▸ hs') hwithin)

/-- A frame is enqueued where there is room. -/
theorem bounded_acceptFrame {c : LaserController τ F D} {frame : Frame F}
    (hbehind : Behind (fun frame => HasPointsLeft frame.toFrame) c.frameScheduler.held)
    (hroom : c.frameScheduler.held.length ≤ B / f + 1) (hleft : HasPointsLeft frame)
    {c' : LaserController τ F D} (hc' : c'.frameScheduler = c.frameScheduler.acceptFrame frame) :
    Bounded B f { controller := c' } where
  behind := by
    rw [hc', held_acceptFrame]
    exact hbehind.concat hleft
  length_le := by
    rw [hc', held_acceptFrame, List.length_append, List.length_singleton]
    omega
  room := by simp

/-- A call that resets the scheduler or leaves it alone keeps the invariant. -/
theorem Bounded.whileFree {call : LaserController τ F D → LaserController τ F D}
    (h : Bounded B f s) {s' : Submitting τ F D} {o : List (Acceptance F)}
    (hcall : (call s.controller).frameScheduler = s.controller.frameScheduler ∨
      (call s.controller).frameScheduler = s.controller.frameScheduler.reset)
    (hstep : s.whileFree call = some (s', o)) : Bounded B f s' := by
  unfold Submitting.whileFree at hstep
  split at hstep
  · cases hstep
  · cases hstep
    refine h.advances rfl ?_
    rcases hcall with hsame | hreset
    · exact hsame ▸ .refl _
    · exact hreset ▸ .of_suffix List.nil_suffix

variable [FloatArith D]

/-- **An estimate within the budget leaves room for a frame.** -/
theorem length_held_le (hf : 1 ≤ f) {frame : Frame F} {context : SubmissionContext}
    {c : LaserController τ F D}
    (hbehind : Behind (fun frame => HasPointsLeft frame.toFrame) c.frameScheduler.held)
    (hready : c.frameScheduler.queuedPointCountUnsafe
      context.minimumQueuedFramePointCountForReadiness ≤ c.queuedPointBudget context)
    (hwithin : (c.acceptance frame context).Within B f) :
    c.frameScheduler.held.length ≤ B / f + 1 := by
  refine length_le_of_weight_le hf (fun x hx => hwithin.le_counted _ ?_)
    ((queuedPointCountUnsafe_eq _ _).symm.le.trans (hready.trans hwithin.budget_le))
  refine List.mem_map_of_mem (List.mem_filter.mpr ⟨List.mem_of_mem_tail hx, ?_⟩)
  exact decide_eq_true (hbehind x hx)

/-! ## The steps -/

variable [FloatArith F]

theorem bounded_new : Bounded B f ({ controller := .new } : Submitting τ F D) where
  behind := .nil
  length_le := Nat.zero_le _
  room := by simp

/-- One step. It observes the acceptance of a frame that is enqueued. -/
def step (s : Submitting τ F D) :
    SubmittingStep τ F → Option (Submitting τ F D × List (Acceptance F))
  | .sendFrame frame context =>
    if s.sender.isSome then none
    else
      match s.controller.beginSend frame context with
      | (c, none) => some ({ s with controller := c }, [])
      | (c, some frame) => some ({ controller := c, sender := c.acceptance frame context }, [])
  | .enqueue =>
    match s.sender with
    | none => none
    | some a =>
      let (c, accepted) := s.controller.finishSend a.frame
      some ({ controller := c }, if accepted then [a] else [])
  | .trySendFrame frame context contentSourceFree schedulerFree =>
    let (c, accepted) := s.controller.trySendFrame frame context
      (contentSourceFree && s.sender.isNone) schedulerFree
    some ({ s with controller := c },
      if accepted then
        [s.controller.useFrameQueue.acceptance (prepareFrame context frame) context]
      else [])
  | .fillPoints request pointRateValue maxFrameHoldTime clock =>
    (s.controller.frameScheduler.fillPoints D request pointRateValue maxFrameHoldTime clock).map
      fun r => (s.withScheduler r.1, [])
  | .fillFrame request maxFrameHoldTime clock =>
    (s.controller.frameScheduler.fillFrame request maxFrameHoldTime clock).map
      fun r => (s.withScheduler r.1, [])
  | .setPointCallback callback => s.whileFree (·.setPointCallback callback)
  | .useFrameQueue => s.whileFree (·.useFrameQueue)
  | .clearFrameQueue => s.whileFree (·.clearFrameQueue)
  | .clearContentSource => s.whileFree (·.clearContentSource)
  | .setPointRate pointRateValue =>
    some ({ s with
      controller :=
        { s.controller with stage := s.controller.stage.setPointRate pointRateValue } }, [])

/-! ## The steps keep the invariant -/

/-- What the first section of `sendFrame` leaves behind: the scheduler as it was, and a frame only
where the queue is ready for it. -/
theorem beginSend_cases (frame : Frame F) (context : SubmissionContext)
    (c : LaserController τ F D) :
    (∃ c', c.beginSend frame context = (c', none) ∧ c'.frameScheduler = c.frameScheduler) ∨
      c.beginSend frame context = (c.useFrameQueue, some (prepareFrame context frame)) ∧
        c.useFrameQueue.frameScheduler.queuedPointCountUnsafe
          context.minimumQueuedFramePointCountForReadiness ≤
            c.useFrameQueue.queuedPointBudget context := by
  unfold LaserController.beginSend
  dsimp only
  split
  · exact Or.inl ⟨c, rfl, rfl⟩
  · split
    · exact Or.inl ⟨_, rfl, c.useFrameQueue_frameScheduler⟩
    · rename_i hready
      exact Or.inr ⟨rfl, Nat.le_of_not_lt hready⟩

/-- `trySendFrame` leaves the scheduler as it was, or finds it ready and enqueues the frame. -/
theorem trySendFrame_cases (frame : Frame F) (context : SubmissionContext)
    (contentSourceFree schedulerFree : Bool) (c : LaserController τ F D) :
    (∃ c', c.trySendFrame frame context contentSourceFree schedulerFree = (c', false) ∧
        c'.frameScheduler = c.frameScheduler) ∨
      ∃ c', c.trySendFrame frame context contentSourceFree schedulerFree = (c', true) ∧
        c'.frameScheduler =
          c.useFrameQueue.frameScheduler.acceptFrame (prepareFrame context frame) ∧
        contentSourceFree = true ∧
        c.useFrameQueue.frameScheduler.queuedPointCountUnsafe
          context.minimumQueuedFramePointCountForReadiness ≤
            c.useFrameQueue.queuedPointBudget context := by
  unfold LaserController.trySendFrame
  dsimp only
  split
  · exact Or.inl ⟨c, rfl, rfl⟩
  · split
    · exact Or.inl ⟨c, rfl, rfl⟩
    · rename_i hfree
      unfold tryEnqueueFrameIfReady
      split
      · exact Or.inl ⟨_, rfl, c.useFrameQueue_frameScheduler⟩
      · split
        · exact Or.inl ⟨_, rfl, c.useFrameQueue_frameScheduler⟩
        · split
          · exact Or.inl ⟨_, rfl, c.useFrameQueue_frameScheduler⟩
          · rename_i hready
            exact Or.inr ⟨_, rfl, rfl, by simpa using hfree, Nat.le_of_not_lt hready⟩

/-- **A step keeps the invariant** where the submission it enqueues was within the bounds. -/
theorem Bounded.step (hf : 1 ≤ f) (h : Bounded B f s) {label : SubmittingStep τ F}
    {s' : Submitting τ F D} {o : List (Acceptance F)} (hstep : s.step label = some (s', o))
    (ho : ∀ a ∈ o, a.Within B f) : Bounded B f s' := by
  have hqueue : s.controller.useFrameQueue.frameScheduler = s.controller.frameScheduler :=
    s.controller.useFrameQueue_frameScheduler
  cases label with
  | sendFrame frame context =>
    simp only [Submitting.step] at hstep
    split at hstep
    · cases hstep
    · rcases beginSend_cases frame context s.controller with ⟨c', hbegin, hsame⟩ | ⟨hbegin, hready⟩
      · rw [hbegin] at hstep
        cases hstep
        exact h.advances rfl (hsame ▸ .refl _)
      · rw [hbegin] at hstep
        cases hstep
        refine ⟨hqueue ▸ h.behind, hqueue ▸ h.length_le, fun a ha hwithin => ?_⟩
        cases ha
        exact length_held_le hf (hqueue ▸ h.behind) hready hwithin
  | enqueue =>
    cases hsender : s.sender with
    | none => simp [Submitting.step, hsender] at hstep
    | some a =>
      simp only [Submitting.step, hsender, LaserController.finishSend, enqueueFrame] at hstep
      split at hstep
      · cases hstep
        exact ⟨h.behind, h.length_le, by simp⟩
      · cases hstep
        have ha := ho a List.mem_cons_self
        exact bounded_acceptFrame h.behind (h.room a hsender ha) ha.hasPointsLeft rfl
  | trySendFrame frame context contentSourceFree schedulerFree =>
    simp only [Submitting.step] at hstep
    rcases trySendFrame_cases frame context (contentSourceFree && s.sender.isNone) schedulerFree
        s.controller with ⟨c', hsend, hsame⟩ | ⟨c', hsend, haccept, hfree, hready⟩
    · rw [hsend] at hstep
      cases hstep
      exact h.advances rfl (hsame ▸ .refl _)
    · rw [hsend] at hstep
      cases hstep
      have ha := ho _ List.mem_cons_self
      have hbehind : Behind (fun frame => HasPointsLeft frame.toFrame)
          s.controller.useFrameQueue.frameScheduler.held := hqueue ▸ h.behind
      have hnone : s.sender = none := by simp_all
      rw [hnone]
      exact bounded_acceptFrame hbehind (length_held_le hf hbehind hready ha) ha.hasPointsLeft
        haccept
  | fillPoints request pointRateValue maxFrameHoldTime clock =>
    obtain ⟨r, hfill, heq⟩ := Option.map_eq_some_iff.mp hstep
    cases heq
    exact h.advances rfl (advances_fillPoints hfill)
  | fillFrame request maxFrameHoldTime clock =>
    obtain ⟨r, hfill, heq⟩ := Option.map_eq_some_iff.mp hstep
    cases heq
    exact h.advances rfl (advances_fillFrame hfill)
  | setPointCallback callback =>
    rw [Submitting.step] at hstep
    exact h.whileFree (s.controller.setPointCallback_frameScheduler callback) hstep
  | useFrameQueue =>
    rw [Submitting.step] at hstep
    exact h.whileFree (Or.inl hqueue) hstep
  | clearFrameQueue =>
    rw [Submitting.step] at hstep
    exact h.whileFree (Or.inr s.controller.clearFrameQueue_frameScheduler) hstep
  | clearContentSource =>
    rw [Submitting.step] at hstep
    exact h.whileFree (Or.inr rfl) hstep
  | setPointRate pointRateValue =>
    cases hstep
    exact h.advances rfl (.refl _)

/-- **Back-pressure bounds the queue**: in every run of a new controller whose submissions were
accepted within a budget of `B` points, every frame counting for `f` at least, no more than
`B / f + 2` frames are held. -/
theorem heldFrames_le (hf : 1 ≤ f) {steps : List (SubmittingStep τ F)}
    {o : List (Acceptance F)} (hrun : run step { controller := .new } steps = some (s, o))
    (hwithin : ∀ a ∈ o, a.Within B f) :
    s.controller.frameScheduler.pendingFrames.length +
      s.controller.frameScheduler.frameQueue.length ≤ B / f + 2 := by
  have hinv := run_invariant
    (I := fun tr (s : Submitting τ F D) => (∀ a ∈ tr, a.Within B f) → Bounded B f s)
    (fun tr s label s' o hs _ hstep hall =>
      (hs fun a ha => hall a (List.mem_append_left _ ha)).step hf hstep
        fun a ha => hall a (List.mem_append_right _ ha))
    (fun _ => bounded_new (D := D)) (Along.of_forall (P := fun _ => True) (by simp) [] _) hrun
  have hlength := (hinv hwithin).length_le
  rw [held, List.length_append] at hlength
  omega

/-- A run in which the first frame is played to the end before the second is submitted. -/
def playedThenSubmitted : List (SubmittingStep Unit ℚ) :=
  let frame : Frame ℚ := { points := pointsAt 0 1, time := 5 }
  let context : SubmissionContext := { queuedFramePointBudgetOverride := some 0 }
  [.sendFrame frame context, .enqueue,
    .fillPoints { minimumPointsRequired := 1, maximumPointsRequired := 2
                  estimatedFirstPointRenderTime := 10 } 1000 0 fun _ => 10,
    .trySendFrame frame context true true]

/-- The bound is met: an empty budget admits a frame behind one that was played to the end. -/
theorem heldFrames_le_playedThenSubmitted :
    ∃ (s : Submitting Unit ℚ ℚ) (o : List (Acceptance ℚ)),
      run step { controller := .new } playedThenSubmitted = some (s, o) ∧ o.length = 2 ∧
      s.controller.frameScheduler.frameQueue.length = 1 ∧
      s.controller.frameScheduler.pendingFrames.length = 1 ∧
      s.controller.frameScheduler.pendingFrames.length +
        s.controller.frameScheduler.frameQueue.length ≤ 0 / 1 + 2 := by
  have hrun : (run (Submitting.step (D := ℚ)) { controller := .new } playedThenSubmitted).map
      (fun r => (r.1.controller.frameScheduler.frameQueue.length,
        r.1.controller.frameScheduler.pendingFrames.length, r.2.length,
        decide (∀ a ∈ r.2, a.Within 0 1))) = some (1, 1, 2, true) := by
    decide +kernel
  obtain ⟨⟨s, o⟩, hrun, heq⟩ := Option.map_eq_some_iff.mp hrun
  simp only [Prod.mk.injEq, decide_eq_true_eq] at heq
  exact ⟨s, o, hrun, heq.2.2.1, heq.1, heq.2.1, heldFrames_le le_rfl hrun heq.2.2.2⟩

end Submitting

end LiberaLaser
