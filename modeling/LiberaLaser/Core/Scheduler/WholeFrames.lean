import LiberaLaser.Core.Scheduler.Jumps
import LiberaLaser.Core.Scheduler.OldestFirst

/-!
# Whole frames at a time

A transport that replaces a pattern as a whole asks for a frame of any length, takes the next frame
as soon as there is one, and has no frame repeated. Such a call either plays a frame from its first
point to its last, or keeps a played front frame that was not held for too long and returns no
points, or has nothing to play and returns dark points (`fillFrame_outcome`).
-/

namespace LiberaLaser.FrameScheduler

open Loop

variable {F : Type}

/-- A request for one whole frame after another. -/
structure TakesWhole (request : FramePullRequest) : Prop where
  maximum_pos : 0 < request.maximumPointsRequired
  blank_pos : 0 < request.blankFramePointCount
  advance : request.advanceWhenAvailable = true
  keeps : request.repeatCurrentFrameWhenIdle = false

/-- The queue after a call of the application: emptied, or with one frame more at most, of a size
that a request takes. -/
def QueueAfter (maximum : ℕ) (s s' : FrameScheduler F) : Prop :=
  s' = s.reset ∨ Submits s s' ∧
    ∀ frame ∈ s'.submitted, frame ∈ s.submitted ∨ frame.points.length ≤ maximum

theorem QueueAfter.refl (maximum : ℕ) (s : FrameScheduler F) : QueueAfter maximum s s :=
  Or.inr ⟨.rejected, fun _ hframe => Or.inl hframe⟩

/-- What stands at the front after a call of the application stood there before. -/
theorem QueueAfter.front {maximum : ℕ} {s s' : FrameScheduler F} (hs' : QueueAfter maximum s s')
    {f : QueuedFrame F} {rest : List (QueuedFrame F)} (hq : s'.frameQueue = f :: rest) :
    s.frameQueue = f :: rest := by
  rcases hs' with rfl | ⟨hs', -⟩
  · cases hq
  · cases hs' with
    | rejected => exact hq
    | accepted points time hne => exact hq

/-- The front frame was never played. -/
def Unplayed (s : FrameScheduler F) : Prop := ∀ f rest, s.frameQueue = f :: rest → f.playCount = 0

theorem unplayed_of_empty {s : FrameScheduler F} (h : s.Empty) : Unplayed s := by
  intro f rest hq
  rw [h.queue] at hq
  cases hq

/-- Only the front of the queue may have been played. -/
theorem head_of_played {s : FrameScheduler F} (hs : Wf s) {f : QueuedFrame F}
    (hf : f ∈ s.frameQueue ++ s.pendingFrames) (hplay : 0 < f.playCount) :
    s.frameQueue.head? = some f := by
  have hnot : f ∉ s.frameQueue.tail ++ s.pendingFrames := fun hmem => by
    have := (hs.fresh f hmem).playCount_eq
    omega
  cases hq : s.frameQueue with
  | nil => exact absurd (by simpa [hq] using hf) hnot
  | cons g gs =>
    rw [hq] at hf hnot
    rcases List.mem_cons.mp hf with rfl | hf
    · rfl
    · exact absurd hf hnot

variable [FloatArith F]

/-- Between two calls, a played front frame is at its end, and the transition points left over are
dark. -/
structure Rested (s : FrameScheduler F) : Prop where
  spent : ∀ f rest, s.frameQueue = f :: rest → 0 < f.playCount → f.points.length ≤ f.nextPoint
  dark : ∀ p ∈ s.pendingTransitionPoints, p.Dark

/-- **The invariant of a scheduler that is asked for whole frames**, where no frame has more points
than a request takes. -/
structure Whole (maximum : ℕ) (s : FrameScheduler F) : Prop extends Rested s where
  wf : Wf s
  fits : ∀ frame ∈ s.submitted, frame.points.length ≤ maximum

/-- The queue has no frame to play next: it is empty, or it holds one frame that was held for too
long, or the transition to the next frame fills the whole request. -/
def NothingToPlay (request : FramePullRequest) (maxFrameHoldTime : Duration) (now : TimePoint) :
    List (QueuedFrame F) → Prop
  | [] => True
  | [front] =>
    front.points.length ≤ front.nextPoint ∧ HoldExpired maxFrameHoldTime now front
  | front :: next :: _ =>
    front.points.length ≤ front.nextPoint ∧
      ∃ lastPoint ∈ front.points.getLast?, ∃ firstPoint ∈ next.points.head?,
        farApart lastPoint firstPoint = true ∧
        request.maximumPointsRequired ≤ transitionPointCount lastPoint firstPoint

/-- The call has nothing to play, or transition points left over fill the whole request. -/
def EndsContent (request : FramePullRequest) (maxFrameHoldTime : Duration) (clock : ℕ → TimePoint)
    (s : FrameScheduler F) : Prop :=
  let t := (estimatedRenderTime request.estimatedFirstPointRenderTime clock).1
  let reads := (estimatedRenderTime request.estimatedFirstPointRenderTime clock).2
  request.maximumPointsRequired ≤ s.pendingTransitionPoints.length ∨
    NothingToPlay request maxFrameHoldTime (clock reads)
      (skipStaleFrames t (s.frameQueue ++ s.pendingFrames))

/-- The queue has a single frame, which is finished and may be held for longer. -/
def HoldsFrame (maxFrameHoldTime : Duration) (now : TimePoint) : List (QueuedFrame F) → Prop
  | [front] =>
    front.points.length ≤ front.nextPoint ∧ ¬HoldExpired maxFrameHoldTime now front
  | _ => False

/-- The call keeps the frame that was played. -/
def KeepsFrame (request : FramePullRequest) (maxFrameHoldTime : Duration)
    (clock : ℕ → TimePoint) (s : FrameScheduler F) : Prop :=
  let t := (estimatedRenderTime request.estimatedFirstPointRenderTime clock).1
  let reads := (estimatedRenderTime request.estimatedFirstPointRenderTime clock).2
  HoldsFrame maxFrameHoldTime (clock reads) (skipStaleFrames t (s.frameQueue ++ s.pendingFrames))

instance (maxFrameHoldTime : Duration) (now : TimePoint) (front : QueuedFrame F) :
    Decidable (HoldExpired maxFrameHoldTime now front) :=
  inferInstanceAs (Decidable (_ ∧ _ ∧ _))

instance (request : FramePullRequest) (maxFrameHoldTime : Duration) (now : TimePoint) :
    ∀ queue : List (QueuedFrame F),
      Decidable (NothingToPlay request maxFrameHoldTime now queue)
  | [] => inferInstanceAs (Decidable True)
  | [_] => inferInstanceAs (Decidable (_ ∧ HoldExpired _ _ _))
  | _ :: _ :: _ => inferInstanceAs (Decidable (_ ∧ ∃ lastPoint ∈ _, ∃ firstPoint ∈ _, _))

instance (request : FramePullRequest) (maxFrameHoldTime : Duration) (clock : ℕ → TimePoint)
    (s : FrameScheduler F) : Decidable (EndsContent request maxFrameHoldTime clock s) :=
  inferInstanceAs (Decidable (_ ∨ NothingToPlay _ _ _ _))

instance (maxFrameHoldTime : Duration) (now : TimePoint) :
    ∀ queue : List (QueuedFrame F), Decidable (HoldsFrame maxFrameHoldTime now queue)
  | [] | _ :: _ :: _ => inferInstanceAs (Decidable False)
  | [_] => inferInstanceAs (Decidable (_ ∧ ¬HoldExpired _ _ _))

instance (request : FramePullRequest) (maxFrameHoldTime : Duration) (clock : ℕ → TimePoint)
    (s : FrameScheduler F) : Decidable (KeepsFrame request maxFrameHoldTime clock s) :=
  inferInstanceAs (Decidable (HoldsFrame _ _ _))

/-- What a call that started in `s` leaves in the queue and returns. -/
inductive FrameOutcome (request : FramePullRequest) (maxFrameHoldTime : Duration)
    (clock : ℕ → TimePoint) (s : FrameScheduler F) :
    FrameScheduler F → List (Emitted F) → Prop
  /-- Transition points and then the whole of a frame, which stands at the front now. -/
  | played {s' : FrameScheduler F} {f : QueuedFrame F} {rest : List (QueuedFrame F)}
      {o content : List (Emitted F)} (k : ℕ)
      (hplays : ¬KeepsFrame request maxFrameHoldTime clock s) (hq : s'.frameQueue = f :: rest)
      (hplay : 0 < f.playCount) (htime : f.firstPlayTime = clock k)
      (ho : ∀ p ∈ o, p.stamp = .transition) (hne : content ≠ [])
      (hcontent : ∀ p ∈ content, p.stamp.serial = some f.serial) :
      FrameOutcome request maxFrameHoldTime clock s s' (o ++ content)
  /-- No points, while the front frame is held. -/
  | kept {s' : FrameScheduler F} {f : QueuedFrame F} {rest : List (QueuedFrame F)} (k : ℕ)
      (hkeeps : KeepsFrame request maxFrameHoldTime clock s)
      (hfront : s.frameQueue.head? = some f) (hq : s'.frameQueue = f :: rest)
      (hplay : 0 < f.playCount) (hhold : ¬ HoldExpired maxFrameHoldTime (clock k) f) :
      FrameOutcome request maxFrameHoldTime clock s s' []
  /-- Dark points without content. -/
  | quiet {s' : FrameScheduler F} {o : List (Emitted F)}
      (hends : EndsContent request maxFrameHoldTime clock s) (hfront : Unplayed s')
      (hne : o ≠ []) (ho : ∀ p ∈ o, p.stamp.serial = none ∧ p.point.Dark) :
      FrameOutcome request maxFrameHoldTime clock s s' o

variable {request : FramePullRequest} {maxFrameHoldTime : Duration} {clock : ℕ → TimePoint}
  {t : TimePoint} {s s' : FrameScheduler F} {st : FramePass F} {f : QueuedFrame F}
  {rest : List (QueuedFrame F)}

/-! ## The invariant -/

theorem whole_init (maximum : ℕ) : Whole maximum ({} : FrameScheduler F) where
  spent := by simp
  dark := by simp
  wf := wf_init
  fits := by simp

theorem Whole.reset {maximum : ℕ} (h : Whole maximum s) : Whole maximum s.reset where
  spent := by simp [FrameScheduler.reset]
  dark := by simp [FrameScheduler.reset]
  wf := wf_reset s
  fits := h.fits

/-- A submission leaves the front of the queue alone. -/
theorem Whole.queueAfter {maximum : ℕ} (h : Whole maximum s) (hs' : QueueAfter maximum s s') :
    Whole maximum s' := by
  rcases hs' with rfl | ⟨hs', hfits⟩
  · exact h.reset
  · refine { spent := ?_, dark := ?_, wf := hs'.wf h.wf, fits := ?_ }
    · cases hs' with
      | rejected => exact h.spent
      | accepted points time hne => exact h.spent
    · cases hs' with
      | rejected => exact h.dark
      | accepted points time hne => exact h.dark
    · exact fun frame hframe => (hfits frame hframe).elim (h.fits frame) id

/-- A frame that waits in the scheduler was submitted, and has as many points. -/
theorem Whole.length_le {maximum : ℕ} (h : Whole maximum s)
    (hf : f ∈ s.frameQueue ++ s.pendingFrames) : f.points.length ≤ maximum := by
  have hrecorded := h.wf.recorded f hf
  obtain ⟨frame, hframe, hpoints⟩ := Option.map_eq_some_iff.mp hrecorded
  rw [← hpoints]
  exact h.fits frame (List.mem_of_getElem? hframe)

/-- Transition points are left over in front of an unplayed frame only. -/
theorem Whole.unplayed_of_bridge {maximum : ℕ} (h : Whole maximum s)
    (hT : s.pendingTransitionPoints ≠ []) :
    ∃ f rest, s.frameQueue = f :: rest ∧ f.playCount = 0 := by
  obtain ⟨f, rest, hq, hcursor⟩ := h.wf.bridge hT
  refine ⟨f, rest, hq, Nat.eq_zero_of_not_pos fun hplay => ?_⟩
  have hspent := h.spent f rest hq hplay
  have hpos := List.length_pos_iff.mpr (h.wf.front f rest hq).points_ne
  omega

theorem dark_transition {a b p : LaserPoint F} (hp : p ∈ generateTransitionPoints a b) :
    p.Dark := by
  obtain ⟨i, -, rfl⟩ := List.mem_map.mp hp
  exact ⟨rfl, rfl, rfl⟩

theorem dark_transitions {points : List (LaserPoint F)} (h : ∀ p ∈ points, p.Dark) :
    ∀ p ∈ (transitions points : List (Emitted F)), p.stamp.serial = none ∧ p.point.Dark := by
  intro p hp
  obtain ⟨q, hq, rfl⟩ := List.mem_map.mp hp
  exact ⟨rfl, h q hq⟩

theorem dark_loadBlankFrame (request : FramePullRequest) :
    ∀ p ∈ (loadBlankFrame request : OutputFrame F).points,
      p.stamp.serial = none ∧ p.point.Dark := by
  intro p hp
  obtain rfl := List.eq_of_mem_replicate hp
  exact ⟨rfl, rfl, rfl, rfl⟩

theorem loadBlankFrame_ne_nil (hw : TakesWhole request) :
    (loadBlankFrame request : OutputFrame F).points ≠ [] := by
  have hlength := length_loadBlankFrame (F := F) request
  have hmax := hw.maximum_pos
  have hblank := hw.blank_pos
  exact List.length_pos_iff.mp (by omega)

/-! ## The passes -/

/-- The chunk of an unplayed frame is the whole frame. -/
theorem copyChunk_outcome (rest : List (QueuedFrame F)) (hf : Fresh f)
    (hplays : ¬KeepsFrame request maxFrameHoldTime clock s)
    (hfits : f.points.length ≤ request.maximumPointsRequired)
    (hT : st.sched.pendingTransitionPoints = []) (ho : ∀ p ∈ st.points, p.stamp = .transition) :
    FrameOutcome request maxFrameHoldTime clock s (copyChunk request clock f rest st).1
        (copyChunk request clock f rest st).2.points ∧
      Rested (copyChunk request clock f rest st).1 := by
  have hloop : beginLoop (clock st.reads) f =
      { f with firstPlayTime := clock st.reads, playCount := 1 } := by
    simp only [beginLoop, hf.cursor_eq, hf.playCount_eq, if_true, Nat.zero_add]
  have hcount : Nat.min (f.points.length - f.nextPoint) request.maximumPointsRequired =
      f.points.length := by
    rw [hf.cursor_eq, Nat.sub_zero]
    exact Nat.min_eq_left hfits
  have hend : f.nextPoint + f.points.length = f.points.length := by rw [hf.cursor_eq, Nat.zero_add]
  have hpos := List.length_pos_iff.mpr hf.points_ne
  have hlength := length_chunk f f.points.length hend.le
  simp only [copyChunk, hloop, hcount]
  constructor
  · refine .played st.reads hplays rfl Nat.one_pos rfl ho ?_ fun p hp => (mem_chunk hp).1
    exact List.length_pos_iff.mp (hlength.symm ▸ hpos)
  · refine ⟨fun g gs hg _ => ?_, fun p hp => absurd hp (by simp [hT])⟩
    obtain ⟨rfl, -⟩ := List.cons.inj hg
    exact hend.ge

theorem fillFramePass_fresh (st : FramePass F) (hw : TakesWhole request)
    (hq : st.sched.frameQueue = f :: rest) (hf : Fresh f) :
    fillFramePass request t maxFrameHoldTime clock st =
      some (.done (copyChunk request clock f rest st)) := by
  have hpos := List.length_pos_iff.mpr hf.points_ne
  have hend : ¬ f.points.length ≤ f.nextPoint := by rw [hf.cursor_eq]; omega
  simp only [fillFramePass, hq, hw.advance, Bool.not_true, Bool.false_eq_true, false_and, and_false,
    if_false, hend]

theorem fillFramePass_spent (hw : TakesWhole request) (hq : st.sched.frameQueue = f :: rest)
    (hend : f.points.length ≤ f.nextPoint) : fillFramePass request t maxFrameHoldTime clock st =
      finishFrame request t maxFrameHoldTime clock f rest st := by
  simp only [fillFramePass, hq, hw.advance, Bool.not_true, Bool.false_eq_true, false_and, and_false,
    if_false, hend, if_true]

section Advance

variable {g : QueuedFrame F} {gs : List (QueuedFrame F)} {lastPoint firstPoint : LaserPoint F}

/-- The next frame takes over, and is bridged to. -/
theorem finishFrame_far (hw : TakesWhole request) (hlast : f.points.getLast? = some lastPoint)
    (hfirst : g.points.head? = some firstPoint) (hfar : farApart lastPoint firstPoint = true) :
    let T := generateTransitionPoints lastPoint firstPoint
    let k := Nat.min (request.maximumPointsRequired - st.points.length) T.length
    finishFrame request t maxFrameHoldTime clock f (g :: gs) st =
      if (st.points ++ transitions (T.take k)).length = request.maximumPointsRequired then
        some (.done ({ st.sched with frameQueue := g :: gs, pendingTransitionPoints := T.drop k },
          { points := st.points ++ transitions (T.take k) }))
      else some (.again { st with
        sched := { st.sched with frameQueue := g :: gs, pendingTransitionPoints := T.drop k }
        points := st.points ++ transitions (T.take k) }) := by
  simp only [finishFrame, List.isEmpty_cons, Bool.not_false, Bool.true_and, hw.advance,
    Bool.true_or, if_true, hlast, List.head?_cons, Option.bind_some, hfirst, hfar]
  rfl

/-- The next frame takes over at once. -/
theorem finishFrame_near (hw : TakesWhole request) (hlast : f.points.getLast? = some lastPoint)
    (hfirst : g.points.head? = some firstPoint) (hfar : ¬ farApart lastPoint firstPoint = true) :
    finishFrame request t maxFrameHoldTime clock f (g :: gs) st =
      some (.again { st with sched := { st.sched with frameQueue := g :: gs } }) := by
  simp only [finishFrame, List.isEmpty_cons, Bool.not_false, Bool.true_and, hw.advance,
    Bool.true_or, if_true, hlast, List.head?_cons, Option.bind_some, hfirst, if_neg hfar]

end Advance

/-- What is known of the front frame when the loop starts: it was never played, or it is finished
and no transition comes before it. -/
def StartsWith (s : FrameScheduler F) (st : FramePass F) (f : QueuedFrame F) : Prop :=
  Fresh f ∨ 0 < f.playCount ∧ f.points.length ≤ f.nextPoint ∧ f.points ≠ [] ∧ st.points = [] ∧
    s.frameQueue.head? = some f

/-- **The loop** plays a frame, keeps the front frame, or has nothing to play. -/
theorem run_outcome (hw : TakesWhole request) {n : ℕ} {r : FrameScheduler F × OutputFrame F}
    (hskip : skipStaleFrames (estimatedRenderTime request.estimatedFirstPointRenderTime clock).1
      (s.frameQueue ++ s.pendingFrames) = f :: rest)
    (hq : st.sched.frameQueue = f :: rest)
    (hreads : st.reads = (estimatedRenderTime request.estimatedFirstPointRenderTime clock).2)
    (hstarts : StartsWith s st f) (hrest : ∀ g ∈ rest, Fresh g)
    (hfits : ∀ g ∈ f :: rest, g.points.length ≤ request.maximumPointsRequired)
    (hT : st.sched.pendingTransitionPoints = []) (ho : ∀ p ∈ st.points, p.stamp = .transition)
    (hrun : run (fillFramePass request t maxFrameHoldTime clock) (n + 2) st = some r) :
    FrameOutcome request maxFrameHoldTime clock s r.1 r.2.points ∧ Rested r.1 := by
  rcases hstarts with hf | ⟨hplay, hend, hne, hempty, hfront⟩
  · simp only [run, fillFramePass_fresh st hw hq hf, Option.some.injEq] at hrun
    rw [← hrun]
    have hplays : ¬KeepsFrame request maxFrameHoldTime clock s := by
      rw [KeepsFrame, hskip]
      cases rest with
      | nil =>
        rintro ⟨hspent, -⟩
        have hpos := List.length_pos_iff.mpr hf.points_ne
        rw [hf.cursor_eq] at hspent
        omega
      | cons g gs => exact id
    exact copyChunk_outcome rest hf hplays (hfits f List.mem_cons_self) hT ho
  rw [run, fillFramePass_spent hw hq hend] at hrun
  cases rest with
  | nil =>
    simp only [finishFrame, List.isEmpty_nil, Bool.not_true, Bool.false_and, Bool.false_eq_true,
      if_false, hw.keeps, Bool.not_false, if_true] at hrun
    by_cases hhold : HoldExpired maxFrameHoldTime (clock st.reads) f
    · -- the only frame was held for too long
      rw [if_pos (show _ ∧ _ from hhold)] at hrun
      obtain rfl := Option.some.inj hrun
      refine ⟨.quiet (Or.inr ?_) (by simp [Unplayed]) (loadBlankFrame_ne_nil hw)
        (dark_loadBlankFrame request), by simp, by simp [hT]⟩
      rw [hskip]
      exact ⟨hend, hreads ▸ hhold⟩
    · rw [if_neg (show ¬ (_ ∧ _) from hhold)] at hrun
      obtain rfl := Option.some.inj hrun
      refine ⟨?_, fun g gs hg _ => ?_, by simp [hT]⟩
      · dsimp only
        rw [hempty]
        refine .kept st.reads ?_ hfront hq hplay hhold
        rw [KeepsFrame, hskip]
        exact ⟨hend, hreads ▸ hhold⟩
      · obtain ⟨rfl, -⟩ := List.cons.inj (hq.symm.trans hg)
        exact hend
  | cons g gs =>
    have hg := hrest g List.mem_cons_self
    have hgfits := hfits g (by simp)
    have hplays : ¬KeepsFrame request maxFrameHoldTime clock s := by
      rw [KeepsFrame, hskip]
      exact id
    obtain ⟨lastPoint, hlast⟩ : ∃ p, f.points.getLast? = some p :=
      ⟨_, List.getLast?_eq_some_getLast hne⟩
    obtain ⟨firstPoint, hfirst⟩ : ∃ p, g.points.head? = some p :=
      ⟨_, List.head?_eq_some_head hg.points_ne⟩
    by_cases hfar : farApart lastPoint firstPoint = true
    · rw [finishFrame_far hw hlast hfirst hfar] at hrun
      set T := generateTransitionPoints lastPoint firstPoint with hTdef
      set k := Nat.min (request.maximumPointsRequired - st.points.length) T.length with hk
      have hdark : ∀ p ∈ T, p.Dark := fun p hp => dark_transition hp
      have hlength : (st.points ++ transitions (T.take k)).length =
          min request.maximumPointsRequired T.length := by
        simp only [hempty, List.nil_append, transitions, List.length_map, List.length_take, hk,
          List.length_nil, Nat.sub_zero]
        exact Nat.min_eq_left (Nat.min_le_right _ _)
      by_cases hfull : (st.points ++ transitions (T.take k)).length = request.maximumPointsRequired
      · -- the bridge fills the request
        rw [if_pos hfull] at hrun
        obtain rfl := Option.some.inj hrun
        have hcount : T.length = transitionPointCount lastPoint firstPoint :=
          length_generateTransitionPoints lastPoint firstPoint
        have hne' : st.points ++ transitions (T.take k) ≠ [] := by
          have := hw.maximum_pos
          exact List.length_pos_iff.mp (by omega)
        refine ⟨.quiet (Or.inr ?_) ?_ hne' ?_, ⟨?_, ?_⟩⟩
        · rw [hskip]
          exact ⟨hend, lastPoint, hlast, firstPoint, hfirst, hfar, by omega⟩
        · intro g' gs' hg'
          obtain ⟨rfl, -⟩ := List.cons.inj hg'
          exact hg.playCount_eq
        · rw [hempty, List.nil_append]
          exact dark_transitions fun p hp => hdark p (List.mem_of_mem_take hp)
        · intro g' gs' hg' hplay'
          obtain ⟨rfl, -⟩ := List.cons.inj hg'
          have := hg.playCount_eq
          omega
        · exact fun p hp => hdark p (List.mem_of_mem_drop hp)
      · rw [if_neg hfull] at hrun
        simp only [run, fillFramePass_fresh { st with
          sched := { st.sched with frameQueue := g :: gs, pendingTransitionPoints := T.drop k }
          points := st.points ++ transitions (T.take k) } hw rfl hg, Option.some.injEq] at hrun
        rw [← hrun]
        refine copyChunk_outcome gs hg hplays hgfits ?_ ?_
        · refine List.drop_eq_nil_of_le ?_
          simp only [hempty, List.length_nil, Nat.sub_zero] at hk
          have hk : k = min request.maximumPointsRequired T.length := hk
          omega
        · rw [hempty, List.nil_append]
          exact fun p hp => stamp_of_mem_transitions hp
    · rw [finishFrame_near hw hlast hfirst hfar] at hrun
      simp only [run, fillFramePass_fresh { st with
        sched := { st.sched with frameQueue := g :: gs } } hw rfl hg, Option.some.injEq] at hrun
      rw [← hrun]
      exact copyChunk_outcome gs hg hplays hgfits hT ho

/-! ## The call -/

/-- A call is a sequence of moves. -/
theorem fillFrame_moves (hs : Wf s) {frame : OutputFrame F}
    (hfill : fillFrame request maxFrameHoldTime clock s = some (s', frame)) :
    Moves .all s frame.points s' := by
  obtain ⟨s'', frame', hfill', hmoves, -⟩ := fillFrame_spec (A := .all) request maxFrameHoldTime
    clock hs (fun _ _ _ => trivial) fun _ => trivial
  obtain ⟨rfl, rfl⟩ := Prod.mk.inj (Option.some.inj (hfill.symm.trans hfill'))
  exact hmoves

/-- **A call for a whole frame** plays one, keeps the front frame, or has nothing to play. -/
theorem fillFrame_outcome (hw : TakesWhole request)
    (hs : Whole request.maximumPointsRequired s) {frame : OutputFrame F}
    (hfill : fillFrame request maxFrameHoldTime clock s = some (s', frame)) :
    FrameOutcome request maxFrameHoldTime clock s s' frame.points ∧
      Whole request.maximumPointsRequired s' := by
  have hmoves := fillFrame_moves hs.wf hfill
  suffices h : FrameOutcome request maxFrameHoldTime clock s s' frame.points ∧ Rested s' from
    ⟨h.1, h.2, hmoves.wf hs.wf, hmoves.submitted_eq ▸ hs.fits⟩
  have hmax := hw.maximum_pos
  obtain ⟨s₁, o₁, hopen, hq₁, hlen₁, ho₁, hT₁, hwf₁, hmoves₁⟩ :=
    opening_spec (A := .all) hs.wf request.maximumPointsRequired
  cases fillFrame_cases hopen hmax (by omega) hfill with
  | full hfull =>
    -- the transition points left over fill the request
    have hne : o₁ ≠ [] := List.length_pos_iff.mp (by omega)
    obtain ⟨f, rest, hf, hplay⟩ := hs.unplayed_of_bridge (List.length_pos_iff.mp (by omega))
    have hfront : Unplayed s' := by
      intro g gs hg
      rw [hq₁, hf] at hg
      obtain ⟨rfl, -⟩ := List.cons.inj hg
      exact hplay
    obtain ⟨hs₁, ho₁'⟩ := Prod.mk.inj hopen
    refine ⟨.quiet (Or.inl (by omega)) hfront hne ?_, fun g gs hg hpos => ?_, fun p hp => ?_⟩
    · rw [← ho₁', List.nil_append]
      exact dark_transitions fun p hp => hs.dark p (List.mem_of_mem_take hp)
    · have := hfront g gs hg
      omega
    · rw [← hs₁] at hp
      exact hs.dark p (List.mem_of_mem_drop hp)
  | empty hlt hqueue =>
    have hskip : s.frameQueue ++ s.pendingFrames = [] := hq₁.symm.trans hqueue
    refine ⟨.quiet (Or.inr ?_) (by simp [Unplayed, hqueue]) (loadBlankFrame_ne_nil hw)
      (dark_loadBlankFrame request), by simp [hqueue], by simp [hT₁ hlt]⟩
    rw [hskip]
    exact trivial
  | @ran _ _ f rest hlt hfront n hrun =>
    set t := (estimatedRenderTime request.estimatedFirstPointRenderTime clock).1 with ht
    have hmoves₂ : Moves .all s o₁ (s₁.dropStaleFrames t) :=
      hmoves₁.dropStaleFrames t ho₁ fun _ _ _ _ _ => trivial
    have hwf₂ := hmoves₂.wf hs.wf
    have hwaiting : ∀ g ∈ f :: rest, g ∈ s.frameQueue ++ s.pendingFrames := by
      intro g hg
      obtain ⟨dropped, hq, -⟩ := skipStaleFrames_spec t s₁.frameQueue
      rw [← hq₁, hq, hfront]
      exact List.mem_append_right _ hg
    refine run_outcome hw (hq₁ ▸ hfront) hfront rfl ?_ ?_ (fun g hg => hs.length_le (hwaiting g hg))
      (hT₁ hlt) ho₁ hrun
    · have hok := hwf₂.front f rest hfront
      rcases Nat.eq_zero_or_pos f.playCount with h0 | hplay
      · exact Or.inl ⟨hok.points_ne, hok.cursor_eq h0, h0⟩
      · -- a played frame was at the front before, so that no transition is left over
        have hhead := head_of_played hs.wf (hwaiting f List.mem_cons_self) hplay
        obtain ⟨rest', hq⟩ := List.head?_eq_some_iff.mp hhead
        have hTnil : s.pendingTransitionPoints = [] := by
          by_contra hne
          obtain ⟨g, gs, hg, hunplayed⟩ := hs.unplayed_of_bridge hne
          obtain ⟨rfl, -⟩ := List.cons.inj (hq.symm.trans hg)
          omega
        have ho₁nil : o₁ = [] := List.length_eq_zero_iff.mp (by simp [hlen₁, hTnil])
        exact Or.inr ⟨hplay, hs.spent f rest' hq hplay, hok.points_ne, ho₁nil, hhead⟩
    · exact fun g hg => hwf₂.fresh g (List.mem_append_left _ (by
        rw [show (s₁.dropStaleFrames t).frameQueue = f :: rest from hfront]; exact hg))

end LiberaLaser.FrameScheduler
