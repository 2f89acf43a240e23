import LiberaLaser.Core.Scheduler.Jumps
import LiberaLaser.Core.Scheduler.Traversals

/-!
# The first content of a frame

A frame is checked against its scheduled time where it comes to the front of the queue in mid-batch,
against the render time projected for the points already in the buffer, and where a request finds it
there unplayed, against the render time of the request. Whichever check let a frame through, the
first content of it that a call emits comes no earlier in the batch than the point the check was
made for (`fillPoints_firstsDue`, `fillFrame_firstsDue`).
-/

namespace LiberaLaser.FrameScheduler

open FloatArith Loop

variable {F : Type}

/-- Some content of the frame is among the points. -/
def Heard (serial : ℕ) (points : List (Emitted F)) : Prop :=
  ∃ p ∈ points, p.stamp.serial = some serial

theorem Heard.append {serial : ℕ} {points : List (Emitted F)} (h : Heard serial points)
    (more : List (Emitted F)) : Heard serial (points ++ more) := by
  obtain ⟨p, hp, hs⟩ := h
  exact ⟨p, List.mem_append_left _ hp, hs⟩

/-- A chunk of some points is heard. -/
theorem heard_chunk {f : QueuedFrame F} {k : ℕ} (hk : 0 < k)
    (hle : f.nextPoint + k ≤ f.points.length) : Heard f.serial (f.chunk k) := by
  have hpos : 0 < (f.chunk k).length := by rw [length_chunk f k hle]; exact hk
  exact ⟨(f.chunk k)[0], List.getElem_mem hpos, (mem_chunk (List.getElem_mem hpos)).1⟩

/-! ## First content points -/

/-- `due k f` says that the frame `f` may start at output index `k`. Every first content point of
the call is that of an unplayed frame that may start there. -/
def FirstsDue (due : ℕ → QueuedFrame F → Prop) (s₀ : FrameScheduler F) (tr out : List (Emitted F)) :
    Prop :=
  ∀ k p serial, out[k]? = some p → p.stamp.serial = some serial →
    ¬ Heard serial (tr ++ out.take k) →
      ∃ f ∈ s₀.frameQueue ++ s₀.pendingFrames, f.serial = serial ∧ due k f

variable {due : ℕ → QueuedFrame F → Prop} {s₀ s s' : FrameScheduler F} {tr o out : List (Emitted F)}

/-- Points without content. -/
def Contentless (out : List (Emitted F)) : Prop := ∀ p ∈ out, p.stamp.serial = none

theorem contentless_opening (ho : ∀ p ∈ o, p.stamp = .transition) : Contentless o := by
  intro p hp
  rw [ho p hp]
  rfl

theorem contentless_transitions (points : List (LaserPoint F)) :
    Contentless (transitions points) := by
  intro p hp
  rw [stamp_of_mem_transitions hp]
  rfl

theorem firstsDue_of_contentless (h : Contentless out) : FirstsDue due s₀ tr out := by
  intro k p serial hp hserial
  rw [h p (List.mem_of_getElem? hp)] at hserial
  cases hserial

theorem FirstsDue.append (h : FirstsDue due s₀ tr out)
    (ho : ∀ k p serial, o[k]? = some p → p.stamp.serial = some serial →
      ¬ Heard serial (tr ++ out ++ o.take k) →
        ∃ f ∈ s₀.frameQueue ++ s₀.pendingFrames, f.serial = serial ∧ due (out.length + k) f) :
    FirstsDue due s₀ tr (out ++ o) := by
  intro k p serial hp hserial hfirst
  rcases Nat.lt_or_ge k out.length with hk | hk
  · rw [List.getElem?_append_left hk] at hp
    rw [List.take_append_of_le_length hk.le] at hfirst
    exact h k p serial hp hserial hfirst
  · obtain ⟨j, rfl⟩ := Nat.exists_eq_add_of_le hk
    rw [List.getElem?_append_right hk, Nat.add_sub_cancel_left] at hp
    rw [List.take_length_add_append, ← List.append_assoc] at hfirst
    exact ho j p serial hp hserial hfirst

theorem FirstsDue.append_contentless (h : FirstsDue due s₀ tr out) (ho : Contentless o) :
    FirstsDue due s₀ tr (out ++ o) := by
  refine h.append fun k p serial hp hserial => ?_
  rw [ho p (List.mem_of_getElem? hp)] at hserial
  cases hserial

/-- A chunk of a frame that was heard before, or may start here. -/
theorem FirstsDue.append_chunk (h : FirstsDue due s₀ tr out) {f : QueuedFrame F} (k : ℕ)
    (hf : Heard f.serial (tr ++ out) ∨
      f ∈ s₀.frameQueue ++ s₀.pendingFrames ∧ due out.length f) :
    FirstsDue due s₀ tr (out ++ f.chunk k) := by
  refine h.append fun j p serial hp hserial hfirst => ?_
  obtain rfl : f.serial = serial :=
    Option.some.inj ((mem_chunk (List.mem_of_getElem? hp)).1.symm.trans hserial)
  rcases hf with hheard | ⟨hmem, hdue⟩
  · exact absurd (hheard.append _) hfirst
  · rcases Nat.eq_zero_or_pos j with rfl | hj
    · exact ⟨f, hmem, rfl, hdue⟩
    · -- the first point of the chunk came before
      refine absurd ?_ hfirst
      obtain ⟨q, hq⟩ : ∃ q, (f.chunk k)[0]? = some q := by
        have hlt := (List.getElem?_eq_some_iff.mp hp).1
        exact ⟨_, List.getElem?_eq_getElem (by omega)⟩
      refine ⟨q, List.mem_append_right _ ?_, (mem_chunk (List.mem_of_getElem? hq)).1⟩
      refine List.mem_of_getElem? (i := 0) ?_
      rw [List.getElem?_take, if_pos hj, hq]

/-! ## Played frames have been heard -/

/-- The frames of a state that came out of `s₀`, where `tr` was emitted: unplayed frames are still
those of `s₀`, and played frames have been heard. -/
structure Tracked (s₀ : FrameScheduler F) (tr : List (Emitted F)) (s : FrameScheduler F) :
    Prop where
  kept : ∀ f ∈ s.frameQueue ++ s.pendingFrames, f.playCount = 0 →
    f ∈ s₀.frameQueue ++ s₀.pendingFrames
  heard : ∀ f ∈ s.frameQueue ++ s.pendingFrames, f.playCount ≠ 0 → Heard f.serial tr

/-- No frame but those there were. -/
theorem Tracked.subset (h : Tracked s₀ tr s) (o : List (Emitted F))
    (hsub : ∀ f ∈ s'.frameQueue ++ s'.pendingFrames, f ∈ s.frameQueue ++ s.pendingFrames) :
    Tracked s₀ (tr ++ o) s' where
  kept f hf h0 := h.kept f (hsub f hf) h0
  heard f hf h0 := (h.heard f (hsub f hf) h0).append o

/-- A played state of the front frame takes its place, once it has been heard. -/
theorem Tracked.replaceFront (h : Tracked s₀ tr s) {f f' : QueuedFrame F}
    {rest : List (QueuedFrame F)} (hq : s.frameQueue = f :: rest) (hplay : 0 < f'.playCount)
    (hheard : Heard f'.serial (tr ++ o)) (T : List (LaserPoint F)) :
    Tracked s₀ (tr ++ o) { s with frameQueue := f' :: rest, pendingTransitionPoints := T } where
  kept := by
    intro g hg h0
    rcases List.mem_cons.mp hg with rfl | hg
    · omega
    · exact h.kept g (by rw [hq]; exact List.mem_cons_of_mem _ hg) h0
  heard := by
    intro g hg h0
    rcases List.mem_cons.mp hg with rfl | hg
    · exact hheard
    · exact (h.heard g (by rw [hq]; exact List.mem_cons_of_mem _ hg) h0).append o

/-- What is known of a frame in the loop of `fillFrame`. -/
structure Ready (s₀ : FrameScheduler F) (tr : List (Emitted F)) (f : QueuedFrame F) : Prop where
  kept : f.playCount = 0 → f.nextPoint = 0 ∧ f ∈ s₀.frameQueue ++ s₀.pendingFrames
  heard : f.playCount ≠ 0 → Heard f.serial tr

theorem Ready.restart {f : QueuedFrame F} (h : Ready s₀ tr f) :
    Ready s₀ tr { f with nextPoint := 0 } where
  kept h0 := by
    have hsame : { f with nextPoint := 0 } = f := by rw [← (h.kept h0).1]
    rw [hsame]
    exact h.kept h0
  heard h0 := h.heard h0

variable [FloatArith F]

theorem contentless_blanks (n : ℕ) : Contentless (blanks n : List (Emitted F)) := by
  intro p hp
  rw [List.eq_of_mem_replicate hp]
  rfl

/-- **Moves track the frames.** -/
theorem Tracked.move {A : Licence F} {sofar : List (Emitted F)} (h : Tracked s₀ (tr ++ sofar) s)
    (hs : Wf s) (hm : Move A sofar s o s') : Tracked s₀ (tr ++ (sofar ++ o)) s' := by
  rw [← List.append_assoc]
  cases hm with
  | drain => exact h.subset _ fun f hf => by simpa [drainPendingFramesUnsafe] using hf
  | transition k => exact h.subset _ fun f hf => hf
  | skip hA hsofar hq hplay =>
    refine h.subset _ fun f hf => ?_
    rw [hq, List.append_assoc]
    exact List.mem_append_right _ hf
  | blank n hT => exact h.subset _ fun f hf => hf
  | @play f f' rest k hq hT hk hfirst hf' =>
    refine h.replaceFront hq hf'.playCount ?_ s.pendingTransitionPoints
    rw [hf'.serial]
    by_cases hplay : f.playCount = 0
    · obtain ⟨p, hp, hserial⟩ := heard_chunk (hfirst hplay) hk
      exact ⟨p, List.mem_append_right _ hp, hserial⟩
    · exact (h.heard f (by simp [hq]) hplay).append _
  | advance hq hT hend hlast hfirst =>
    exact h.subset _ fun f hf => by rw [hq]; exact List.mem_cons_of_mem _ hf
  | @restart f f' rest T hq hT hend hf' hbridge =>
    have hplay := (hs.front f rest hq).playCount_pos hend.ge
    refine h.replaceFront hq hf'.playCount ?_ T
    rw [hf'.serial]
    exact (h.heard f (by simp [hq]) (by omega)).append _
  | expire n hn hq hT hend =>
    exact h.subset _ fun f hf => by rw [hq]; exact List.mem_cons_of_mem _ hf
  | discard n hn => exact h.subset _ fun f hf => hf

theorem Tracked.moves {A : Licence F} (h : Tracked s₀ tr s) (hs : Wf s) (hm : Moves A s o s') :
    Tracked s₀ (tr ++ o) s' := by
  have hboth : Wf s' ∧ Tracked s₀ (tr ++ o) s' := by
    refine Moves.invariant (I := fun tr' s => Wf s ∧ Tracked s₀ tr' s) tr ?_ ⟨hs, h⟩ hm
    rintro sofar t o t' ⟨ht, htracked⟩ hmove
    exact ⟨hmove.wf ht, htracked.move ht hmove⟩
  exact hboth.2

/-! ## The loop of `fillPoints` -/

/-- What the end of a pass does: it emits transition points at most. -/
theorem bridgeJump_cases {maxPoints : ℕ} {lastPoint : LaserPoint F} {st : PointsPass F}
    {r : Pass (PointsPass F) (FrameScheduler F × List (Emitted F))}
    (h : bridgeJump maxPoints lastPoint st = some r) :
    ∃ sched' o, sched'.frameQueue = st.sched.frameQueue ∧ Contentless o ∧
      (r = .again { st with sched := sched', outputBuffer := st.outputBuffer ++ o } ∨
        r = .done (sched', st.outputBuffer ++ o)) := by
  unfold bridgeJump at h
  split at h
  · cases h
  · split at h
    · cases h
    · rename_i firstPoint hfirst
      split at h
      · set sched := { st.sched with
          pendingTransitionPoints := generateTransitionPoints lastPoint firstPoint }
        by_cases hfull : (sched.drainPendingTransitionUnsafe st.outputBuffer maxPoints).2.length =
            maxPoints
        · obtain rfl := Option.some.inj ((if_pos hfull).symm.trans h)
          exact ⟨(sched.drainPendingTransitionUnsafe st.outputBuffer maxPoints).1, _, rfl,
            contentless_transitions _, Or.inr rfl⟩
        · obtain rfl := Option.some.inj ((if_neg hfull).symm.trans h)
          exact ⟨(sched.drainPendingTransitionUnsafe st.outputBuffer maxPoints).1, _, rfl,
            contentless_transitions _, Or.inl rfl⟩
      · obtain rfl := Option.some.inj h
        exact ⟨st.sched, [], rfl, fun p hp => absurd hp List.not_mem_nil,
          Or.inl (by rw [List.append_nil])⟩

/-- What becomes of a finished frame: the next one is due and takes over, the frame is let go, or it
starts over. -/
theorem leaveFrame_cases {renderTime : ℕ → TimePoint} {minPoints maxPoints : ℕ}
    {maxFrameHoldTime : Duration} {clock : ℕ → TimePoint} {f : QueuedFrame F}
    {rest : List (QueuedFrame F)} {lastPoint : LaserPoint F} {st : PointsPass F}
    {r : Pass (PointsPass F) (FrameScheduler F × List (Emitted F))}
    (h : leaveFrame renderTime minPoints maxPoints maxFrameHoldTime clock f rest lastPoint st =
      some r) :
    (∃ sched reads, bridgeJump maxPoints lastPoint { st with sched := sched, reads := reads } =
        some r ∧
      (nextIsDueAt rest (renderTime st.outputBuffer.length) = true ∧ sched.frameQueue = rest ∨
        ∃ f' : QueuedFrame F, f'.playCount ≠ 0 ∧ sched.frameQueue = f' :: rest)) ∨
      ∃ sched n, r = .done (sched, st.outputBuffer ++ blanks n) := by
  unfold leaveFrame at h
  split at h
  · rename_i hdue
    exact Or.inl ⟨_, st.reads, h, Or.inl ⟨hdue, rfl⟩⟩
  · split at h
    · obtain rfl := Option.some.inj h
      exact Or.inr ⟨_, _, rfl⟩
    · exact Or.inl ⟨_, _, h, Or.inr ⟨_, Nat.succ_ne_zero _, rfl⟩⟩

/-- What a pass does: it copies a chunk of the front frame, and ends the call or leaves the
frame. -/
theorem fillPointsPass_cases {renderTime : ℕ → TimePoint} {minPoints maxPoints : ℕ}
    {maxFrameHoldTime : Duration} {clock : ℕ → TimePoint} {st : PointsPass F}
    {front : QueuedFrame F} {rest : List (QueuedFrame F)}
    {r : Pass (PointsPass F) (FrameScheduler F × List (Emitted F))}
    (hq : st.sched.frameQueue = front :: rest)
    (h : fillPointsPass renderTime minPoints maxPoints maxFrameHoldTime clock st = some r) :
    ∃ k, (∃ sched, r = .done (sched, st.outputBuffer ++ front.chunk k)) ∨
      ∃ current lastPoint sched reads,
        leaveFrame renderTime minPoints maxPoints maxFrameHoldTime clock current rest lastPoint
          { sched := sched, outputBuffer := st.outputBuffer ++ front.chunk k, reads := reads } =
        some r := by
  simp only [fillPointsPass, hq] at h
  split at h
  · cases h
  · simp only [copyPoints, beginPlay_chunk, beginPlay_points, beginPlay_nextPoint] at h
    refine ⟨Nat.min (front.points.length - front.nextPoint)
      (maxPoints - st.outputBuffer.length), ?_⟩
    split at h
    · exact Or.inl ⟨_, (Option.some.inj h).symm⟩
    · split at h
      · exact Or.inl ⟨_, (Option.some.inj h).symm⟩
      · split at h
        · cases h
        · exact Or.inr ⟨_, _, _, _, h⟩

/-- The invariant of the loop: a front frame that was never played may start where the buffer
ends. -/
structure DueInv (due : ℕ → QueuedFrame F → Prop) (s₀ : FrameScheduler F) (tr : List (Emitted F))
    (maxPoints : ℕ) (st : PointsPass F) : Prop where
  inv : PointsInv .all s₀ maxPoints st
  frontDue : ∀ f rest, st.sched.frameQueue = f :: rest → f.playCount = 0 →
    due st.outputBuffer.length f
  firsts : FirstsDue due s₀ tr st.outputBuffer

variable {renderTime : ℕ → TimePoint} {minPoints maxPoints : ℕ} {maxFrameHoldTime : Duration}
  {clock : ℕ → TimePoint} {st st' : PointsPass F}

/-- The chunk that a pass copies was heard before, or may start here. -/
theorem DueInv.copy (h : DueInv due s₀ tr maxPoints st) (htracked : Tracked s₀ tr s₀) (hs₀ : Wf s₀)
    {front : QueuedFrame F} {rest : List (QueuedFrame F)}
    (hq : st.sched.frameQueue = front :: rest) (k : ℕ) :
    FirstsDue due s₀ tr (st.outputBuffer ++ front.chunk k) := by
  have hframes := htracked.moves hs₀ h.inv.moves
  refine h.firsts.append_chunk k ?_
  by_cases hplay : front.playCount = 0
  · exact Or.inr ⟨hframes.kept front (by simp [hq]) hplay, h.frontDue front rest hq hplay⟩
  · exact Or.inl (hframes.heard front (by simp [hq]) hplay)

/-- **One pass** keeps to the due times. -/
theorem DueInv.pass (h : DueInv due s₀ tr maxPoints st) (htracked : Tracked s₀ tr s₀) (hs₀ : Wf s₀)
    (hdue : ∀ f k, frameIsDueAt f (renderTime k) = true → due k f)
    (hmono : ∀ f j k, j ≤ k → due j f → due k f)
    {r : Pass (PointsPass F) (FrameScheduler F × List (Emitted F))}
    (hr : fillPointsPass renderTime minPoints maxPoints maxFrameHoldTime clock st = some r) :
    (∀ st', r = .again st' → DueInv due s₀ tr maxPoints st') ∧
      ∀ res, r = .done res → FirstsDue due s₀ tr res.2 := by
  obtain ⟨front, rest, hq⟩ := List.exists_cons_of_ne_nil h.inv.queue_ne
  obtain ⟨k, ⟨sched, rfl⟩ | ⟨current, lastPoint, sched, reads, hleave⟩⟩ :=
    fillPointsPass_cases hq hr
  · refine ⟨nofun, ?_⟩
    rintro res ⟨⟩
    exact h.copy htracked hs₀ hq k
  have hcopy := h.copy htracked hs₀ hq k
  set buffer := st.outputBuffer ++ front.chunk k
  rcases leaveFrame_cases hleave with ⟨sched', reads', hbridge, hfront⟩ | ⟨sched', n, rfl⟩
  · obtain ⟨sched'', o, hqueue, ho, rfl | rfl⟩ := bridgeJump_cases hbridge
    · refine ⟨?_, nofun⟩
      rintro st' ⟨⟩
      have hinv : PointsInv .all s₀ maxPoints
          { sched := sched'', outputBuffer := buffer ++ o, reads := reads' } := by
        rcases fillPointsPass_spec renderTime maxFrameHoldTime clock h.inv with
          ⟨st', hst', hinv, -⟩ | ⟨res, hres, -⟩
        · obtain ⟨⟩ := Option.some.inj (hr.symm.trans hst')
          exact hinv
        · exact absurd (Option.some.inj (hr.symm.trans hres)) (by simp)
      refine ⟨hinv, ?_, hcopy.append_contentless ho⟩
      intro f gs hf hplay
      have hf : sched'.frameQueue = f :: gs := hqueue.symm.trans hf
      rcases hfront with ⟨hnext, hrest⟩ | ⟨f', hplayed, hrest⟩
      · -- the next frame was due for the end of the buffer as it was before the bridge
        rw [hrest] at hf
        rw [hf] at hnext
        refine hmono f _ _ ?_ (hdue f _ hnext)
        simp only [List.length_append]
        omega
      · obtain ⟨rfl, -⟩ := List.cons.inj (hrest.symm.trans hf)
        exact absurd hplay hplayed
    · refine ⟨nofun, ?_⟩
      rintro res ⟨⟩
      exact hcopy.append_contentless ho
  · refine ⟨nofun, ?_⟩
    rintro res ⟨⟩
    exact hcopy.append_contentless (contentless_blanks n)

/-- **The loop of `fillPoints`** keeps to the due times. -/
theorem DueInv.loop (h : DueInv due s₀ tr maxPoints st) (htracked : Tracked s₀ tr s₀) (hs₀ : Wf s₀)
    (hdue : ∀ f k, frameIsDueAt f (renderTime k) = true → due k f)
    (hmono : ∀ f j k, j ≤ k → due j f → due k f) {budget : ℕ} {s' : FrameScheduler F}
    (hrun : run (fillPointsPass renderTime minPoints maxPoints maxFrameHoldTime clock) budget st =
      some (s', out)) : FirstsDue due s₀ tr out :=
  run_partial (I := DueInv due s₀ tr maxPoints) (P := fun r => FirstsDue due s₀ tr r.2)
    (fun _ st' hst hr => (hst.pass htracked hs₀ hdue hmono hr).1 st' rfl)
    (fun _ res hst hr => (hst.pass htracked hs₀ hdue hmono hr).2 res rfl) h hrun

/-! ## The fill calls -/

/-- The time that the points in the buffer play for, as a request for points projects it. -/
def bufferedDuration (D : Type) [FloatArith D] (bufferedPointCount pointRateValue : ℕ) : Duration :=
  trunc (pointsToMillis bufferedPointCount pointRateValue * 1000000.0 : D)

/-- The frame is due for the request, or for some point up to index `k` of it. -/
def DueBy (D : Type) [FloatArith D] (t : TimePoint) (pointRateValue : ℕ) (k : ℕ)
    (f : QueuedFrame F) : Prop :=
  frameIsDueAt f t = true ∨
    ∃ j ≤ k, frameIsDueAt f (t + bufferedDuration D j pointRateValue) = true

theorem Contentless.append_blanks (ho : Contentless o) (n : ℕ) :
    Contentless (appendBlankPoints o n) := by
  intro p hp
  rcases List.mem_append.mp hp with hp | hp
  · exact ho p hp
  · exact contentless_blanks n p hp

/-- **`fillPoints` starts frames on time.** -/
theorem fillPoints_firstsDue {D : Type} [FloatArith D] {request : PointFillRequest}
    {pointRateValue : ℕ} (hs : Wf s) (htracked : Tracked s tr s)
    (hfill : fillPoints D request pointRateValue maxFrameHoldTime clock s = some (s', out)) :
    FirstsDue (DueBy D (estimatedRenderTime request.estimatedFirstPointRenderTime clock).1
      pointRateValue) s tr out := by
  by_cases hmax : request.maximumPointsRequired = 0
  · simp only [fillPoints, hmax, if_true, Option.some.injEq, Prod.mk.injEq] at hfill
    rw [← hfill.2]
    exact firstsDue_of_contentless fun p hp => absurd hp List.not_mem_nil
  obtain ⟨s₁, o₁, hopen, hq₁, hlen₁, ho₁, hT₁, hwf₁, hmoves₁⟩ :=
    opening_spec (A := .all) hs request.maximumPointsRequired
  have hquiet := contentless_opening ho₁
  set t := (estimatedRenderTime request.estimatedFirstPointRenderTime clock).1 with ht
  cases fillPoints_cases hopen (Nat.pos_of_ne_zero hmax) (by omega) hfill with
  | full => exact firstsDue_of_contentless hquiet
  | waits => exact firstsDue_of_contentless (hquiet.append_blanks _)
  | @ran _ _ front rest hlt hq₂ hgate hrun =>
    have hmoves₂ : Moves .all s o₁ (s₁.dropStaleFrames t) :=
      hmoves₁.dropStaleFrames t ho₁ fun _ _ _ _ _ => trivial
    refine DueInv.loop (?_ : DueInv (DueBy D t pointRateValue) _ _ _ _) htracked hs
      (fun f k h => Or.inr ⟨k, le_rfl, h⟩) ?_ hrun
    · refine ⟨⟨hmoves₂.wf hs, by rw [hq₂]; simp, hT₁ hlt, hlt, hmoves₂⟩, ?_,
        firstsDue_of_contentless hquiet⟩
      intro f gs hf hplay
      obtain ⟨rfl, -⟩ := List.cons.inj (hq₂.symm.trans hf)
      by_contra hdue
      refine hgate ⟨hplay, ?_⟩
      rw [Bool.not_eq_true', ← Bool.not_eq_true]
      exact fun h => hdue (Or.inl h)
    · rintro f j k hjk (h | ⟨i, hi, h⟩)
      · exact Or.inl h
      · exact Or.inr ⟨i, hi.trans hjk, h⟩

/-- What becomes of a finished front frame: the frame behind it takes over or it starts over, behind
transition points at most, or the call ends without content. -/
theorem finishFrame_cases {request : FramePullRequest} {t : TimePoint}
    {f : QueuedFrame F} {rest : List (QueuedFrame F)} {st : FramePass F}
    (hst : Contentless st.points) {r : Pass (FramePass F) (FrameScheduler F × OutputFrame F)}
    (h : finishFrame request t maxFrameHoldTime clock f rest st = some r) :
    (∃ st', r = .again st' ∧ Contentless st'.points ∧
      (st'.sched.frameQueue = rest ∨ st'.sched.frameQueue = { f with nextPoint := 0 } :: rest)) ∨
      ∃ sched frame, r = .done (sched, frame) ∧ Contentless frame.points := by
  unfold finishFrame at h
  split at h
  · split at h
    · rename_i lastPoint firstPoint _ _
      split at h
      · set sched := { { st.sched with frameQueue := rest } with
          pendingTransitionPoints := generateTransitionPoints lastPoint firstPoint }
        have hquiet : Contentless
            (sched.drainPendingTransitionUnsafe st.points request.maximumPointsRequired).2 := by
          intro p hp
          rcases List.mem_append.mp hp with hp | hp
          · exact hst p hp
          · exact contentless_transitions _ p hp
        by_cases hfull : (sched.drainPendingTransitionUnsafe st.points
            request.maximumPointsRequired).2.length = request.maximumPointsRequired
        · obtain rfl := Option.some.inj ((if_pos hfull).symm.trans h)
          exact Or.inr ⟨_, _, rfl, hquiet⟩
        · obtain rfl := Option.some.inj ((if_neg hfull).symm.trans h)
          exact Or.inl ⟨_, rfl, hquiet, Or.inl rfl⟩
      · obtain rfl := Option.some.inj h
        exact Or.inl ⟨_, rfl, hst, Or.inl rfl⟩
    · cases h
  · split at h
    · obtain rfl := Option.some.inj h
      exact Or.inr ⟨_, _, rfl, contentless_blanks _⟩
    · split at h
      · obtain rfl := Option.some.inj h
        exact Or.inr ⟨_, _, rfl, hst⟩
      · obtain rfl := Option.some.inj h
        exact Or.inl ⟨_, rfl, hst, Or.inr rfl⟩

/-- **`fillFrame` starts frames on time**, unless it is to take them when they are there. -/
theorem fillFrame_firstsDue {request : FramePullRequest} (hs : Wf s) (htracked : Tracked s tr s)
    (hadvance : request.advanceWhenAvailable = false) {frame : OutputFrame F}
    (hfill : fillFrame request maxFrameHoldTime clock s = some (s', frame)) :
    FirstsDue (fun _ f => frameIsDueAt f
      (estimatedRenderTime request.estimatedFirstPointRenderTime clock).1 = true) s tr
      frame.points := by
  by_cases hmax : request.maximumPointsRequired = 0
  · simp only [fillFrame, hmax, if_true, Option.some.injEq, Prod.mk.injEq] at hfill
    rw [← hfill.2]
    exact firstsDue_of_contentless fun p hp => absurd hp List.not_mem_nil
  obtain ⟨s₁, o₁, hopen, hq₁, hlen₁, ho₁, hT₁, hwf₁, hmoves₁⟩ :=
    opening_spec (A := .all) hs request.maximumPointsRequired
  have hquiet := contentless_opening ho₁
  set t := (estimatedRenderTime request.estimatedFirstPointRenderTime clock).1 with ht
  cases fillFrame_cases hopen (Nat.pos_of_ne_zero hmax) (by omega) hfill with
  | full hfull => exact firstsDue_of_contentless hquiet
  | empty hlt hqueue => exact firstsDue_of_contentless (contentless_blanks _)
  | ran hlt hfront n hrun =>
    have hready : ∀ f ∈ (s₁.dropStaleFrames t).frameQueue, Ready s tr f := by
      intro f hf
      obtain ⟨dropped, hq, -⟩ := skipStaleFrames_spec t s₁.frameQueue
      have hmem : f ∈ s.frameQueue ++ s.pendingFrames := by
        rw [← hq₁, hq]
        exact List.mem_append_right _ hf
      refine ⟨fun h0 => ⟨?_, hmem⟩, htracked.heard f hmem⟩
      -- an unplayed frame has its cursor at the start
      rcases List.mem_append.mp hmem with hf | hf
      · obtain ⟨g, gs, hgs⟩ := List.exists_cons_of_ne_nil (List.ne_nil_of_mem hf)
        rw [hgs] at hf
        rcases List.mem_cons.mp hf with rfl | hf
        · exact (hs.front f gs hgs).cursor_eq h0
        · exact (hs.fresh f (by simp [hgs, hf])).cursor_eq
      · exact (hs.fresh f (List.mem_append_right _ hf)).cursor_eq
    refine run_partial (I := fun st => Contentless st.points ∧
        ∀ f ∈ st.sched.frameQueue, Ready s tr f)
      (P := fun r => FirstsDue (fun _ f => frameIsDueAt f t = true) s tr r.2.points)
      ?_ ?_ ⟨hquiet, hready⟩ hrun
    · rintro st st' ⟨hst, hframes⟩ hpass
      unfold fillFramePass at hpass
      split at hpass
      · cases hpass
      · rename_i f rest hq
        split at hpass
        · cases hpass
        · split at hpass
          · rcases finishFrame_cases hst hpass with ⟨st'', ⟨⟩, hst', hq'⟩ | ⟨_, _, ⟨⟩, -⟩
            refine ⟨hst', fun g hg => ?_⟩
            have hrest : ∀ g ∈ rest, Ready s tr g := fun g hg =>
              hframes g (by rw [hq]; exact List.mem_cons_of_mem _ hg)
            rcases hq' with hq' | hq'
            · exact hrest g (hq' ▸ hg)
            · rw [hq'] at hg
              rcases List.mem_cons.mp hg with rfl | hg
              · exact (hframes f (by rw [hq]; exact List.mem_cons_self)).restart
              · exact hrest g hg
          · cases hpass
    · rintro st ⟨sched, frame⟩ ⟨hst, hframes⟩ hpass
      unfold fillFramePass at hpass
      split at hpass
      · obtain ⟨⟩ := Option.some.inj hpass
        exact firstsDue_of_contentless (contentless_blanks _)
      · rename_i f rest hq
        split at hpass
        · obtain ⟨⟩ := Option.some.inj hpass
          exact firstsDue_of_contentless (contentless_blanks _)
        · rename_i hgate
          split at hpass
          · rcases finishFrame_cases hst hpass with ⟨_, ⟨⟩, -⟩ | ⟨_, _, ⟨⟩, hframe⟩
            exact firstsDue_of_contentless hframe
          · obtain ⟨⟩ := Option.some.inj hpass
            have hf := hframes f (by rw [hq]; exact List.mem_cons_self)
            have hchunk : ∀ k, (beginLoop (clock st.reads) f).chunk k = f.chunk k := by
              intro k
              unfold beginLoop
              split <;> rfl
            simp only [hchunk]
            refine (firstsDue_of_contentless hst).append_chunk _ ?_
            by_cases hplay : f.playCount = 0
            · refine Or.inr ⟨(hf.kept hplay).2, ?_⟩
              by_contra hdue
              exact hgate ⟨hplay, (hf.kept hplay).1, by simp [hadvance], by simpa using hdue⟩
            · exact Or.inl ((hf.heard hplay).append _)

end LiberaLaser.FrameScheduler
