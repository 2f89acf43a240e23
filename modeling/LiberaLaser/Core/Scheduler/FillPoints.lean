import LiberaLaser.Core.Scheduler.Moves

/-!
# Filling a point request

One specification of `fillPoints`: from a state satisfying the invariant it returns, what it does
is a sequence of moves, and where it reaches its loop the number of points lies between the two
bounds of the request (`fillPoints_spec`). The loop ends because every pass either emits a point
or leaves a finished frame behind.
-/

namespace LiberaLaser.FrameScheduler

open FloatArith Loop

variable {F : Type}

/-- The front frame is played to its end. -/
def frontFinished (s : FrameScheduler F) : Bool :=
  match s.frameQueue with
  | [] => false
  | f :: _ => f.points.length ≤ f.nextPoint

@[simp] theorem beginPlay_points (now : TimePoint) (f : QueuedFrame F) :
    (beginPlay now f).points = f.points := by
  unfold beginPlay
  split <;> rfl

@[simp] theorem beginPlay_nextPoint (now : TimePoint) (f : QueuedFrame F) :
    (beginPlay now f).nextPoint = f.nextPoint := by
  unfold beginPlay
  split <;> rfl

@[simp] theorem beginPlay_serial (now : TimePoint) (f : QueuedFrame F) :
    (beginPlay now f).serial = f.serial := by
  unfold beginPlay
  split <;> rfl

theorem beginPlay_playCount_pos (now : TimePoint) (f : QueuedFrame F) :
    0 < (beginPlay now f).playCount := by
  unfold beginPlay
  split
  · exact Nat.one_pos
  · rename_i h
    exact Nat.pos_of_ne_zero h

theorem beginPlay_chunk (now : TimePoint) (f : QueuedFrame F) (k : ℕ) :
    (beginPlay now f).chunk k = f.chunk k := by
  simp [QueuedFrame.chunk]

theorem played_beginPlay (now : TimePoint) (f : QueuedFrame F) (k : ℕ) :
    Played f { beginPlay now f with nextPoint := (beginPlay now f).nextPoint + k } k where
  points := beginPlay_points now f
  serial := beginPlay_serial now f
  nextPoint := by simp
  playCount := beginPlay_playCount_pos now f

theorem length_drainPendingTransition_le {maxPoints : ℕ} {buffer : List (Emitted F)}
    (s : FrameScheduler F) (h : buffer.length ≤ maxPoints) :
    (s.drainPendingTransitionUnsafe buffer maxPoints).2.length ≤ maxPoints := by
  have hdrain : Nat.min (maxPoints - buffer.length) s.pendingTransitionPoints.length ≤
      maxPoints - buffer.length := Nat.min_le_left _ _
  simp only [drainPendingTransitionUnsafe, List.length_append, List.length_map, List.length_take]
  omega

theorem length_copyPoints_le {maxPoints : ℕ} (clock : ℕ → TimePoint) (front : QueuedFrame F)
    (rest : List (QueuedFrame F)) {st : PointsPass F} (h : st.outputBuffer.length ≤ maxPoints) :
    (copyPoints maxPoints clock front rest st).2.outputBuffer.length ≤ maxPoints := by
  have hspace : Nat.min ((beginPlay (clock st.reads) front).points.length -
      (beginPlay (clock st.reads) front).nextPoint) (maxPoints - st.outputBuffer.length) ≤
      maxPoints - st.outputBuffer.length := Nat.min_le_right _ _
  simp only [copyPoints, QueuedFrame.chunk, List.length_append, List.length_mapIdx,
    List.length_take]
  omega

variable [FloatArith F]

/-- The measure of the loop: room in the output buffer, and whether the front is finished. -/
def pointsMeasure (maxPoints : ℕ) (st : PointsPass F) : ℕ :=
  2 * (maxPoints - st.outputBuffer.length) + if st.sched.frontFinished then 1 else 0

/-- The invariant of the loop of a call that started in `s₀`. -/
structure PointsInv (A : Licence F) (s₀ : FrameScheduler F) (maxPoints : ℕ) (st : PointsPass F) :
    Prop where
  wf : Wf st.sched
  queue_ne : st.sched.frameQueue ≠ []
  transition_eq : st.sched.pendingTransitionPoints = []
  room : st.outputBuffer.length < maxPoints
  moves : Moves A s₀ st.outputBuffer st.sched

/-- What a call that started in `s₀` and reached the loop returns. -/
structure PointsPost (A : Licence F) (s₀ : FrameScheduler F) (minPoints maxPoints : ℕ)
    (r : FrameScheduler F × List (Emitted F)) : Prop where
  wf : Wf r.1
  moves : Moves A s₀ r.2 r.1
  bounds : minPoints ≤ maxPoints → minPoints ≤ r.2.length ∧ r.2.length ≤ maxPoints

variable {A : Licence F} {s₀ : FrameScheduler F} {minPoints maxPoints : ℕ}

/-- The bridge at the end of a pass: the moves so far have put the bridge to the new front frame
among the pending transition points. -/
theorem bridgeJump_spec (st : PointsPass F) {lastPoint firstPoint : LaserPoint F}
    {g : QueuedFrame F} {rest : List (QueuedFrame F)} (hq : st.sched.frameQueue = g :: rest)
    (hcursor : g.nextPoint = 0) (hfirst : g.points.head? = some firstPoint)
    (hT : st.sched.pendingTransitionPoints = []) (hroom : st.outputBuffer.length < maxPoints)
    (hwf : Wf st.sched)
    (hmoves : Moves A s₀ st.outputBuffer
      { st.sched with pendingTransitionPoints := bridge lastPoint firstPoint }) :
    PassSpec (bridgeJump maxPoints lastPoint st)
      (fun st' => PointsInv A s₀ maxPoints st' ∧ st'.sched.frameQueue = g :: rest ∧
        st.outputBuffer.length ≤ st'.outputBuffer.length)
      (PointsPost A s₀ minPoints maxPoints) := by
  have hget : g.points[g.nextPoint]? = some firstPoint := by
    rw [hcursor, ← List.head?_eq_getElem?, hfirst]
  have hne : st.sched.frameQueue ≠ [] := by simp [hq]
  by_cases hfar : farApart lastPoint firstPoint = true
  · -- the bridge is drained into what is left of the output buffer
    rw [bridge, if_pos hfar] at hmoves
    set T := generateTransitionPoints lastPoint firstPoint with hTdef
    set k := Nat.min (maxPoints - st.outputBuffer.length) T.length with hk
    have hdrain : Moves A s₀ (st.outputBuffer ++ transitions (T.take k))
        { st.sched with pendingTransitionPoints := T.drop k } :=
      hmoves.tail (Move.transition { st.sched with pendingTransitionPoints := T } k)
    have hbridge : Wf { st.sched with pendingTransitionPoints := T.drop k } :=
      { front := hwf.front, fresh := hwf.fresh, order := hwf.order, recorded := hwf.recorded
        bridge := fun _ => ⟨g, rest, hq, hcursor⟩ }
    have hlen : (st.outputBuffer ++ transitions (T.take k)).length =
        st.outputBuffer.length + k := by
      simp only [transitions, List.length_append, List.length_map, List.length_take]
      have : k ≤ T.length := Nat.min_le_right _ _
      omega
    have hkroom : k ≤ maxPoints - st.outputBuffer.length := Nat.min_le_left _ _
    by_cases hfull : (st.outputBuffer ++ transitions (T.take k)).length = maxPoints
    · refine PassSpec.done (_, _) ?_ ⟨hbridge, hdrain, fun hle => ?_⟩
      · simp only [bridgeJump, hq, hget, hfar, if_true, drainPendingTransitionUnsafe]
        exact if_pos hfull
      · exact ⟨hfull ▸ hle, hfull.le⟩
    · refine PassSpec.again { st with sched := _, outputBuffer := _ } ?_
        ⟨⟨hbridge, hne, ?_, ?_, hdrain⟩, hq, ?_⟩
      · simp only [bridgeJump, hq, hget, hfar, if_true, drainPendingTransitionUnsafe]
        exact if_neg hfull
      · -- not full, so the whole bridge went out
        have hkT : k = T.length := by
          rcases Nat.le_total (maxPoints - st.outputBuffer.length) T.length with h | h
          · have : k = maxPoints - st.outputBuffer.length := Nat.min_eq_left h
            omega
          · exact Nat.min_eq_right h
        simp [hkT]
      · show (st.outputBuffer ++ transitions (T.take k)).length < maxPoints
        omega
      · show _ ≤ (st.outputBuffer ++ transitions (T.take k)).length
        omega
  · refine PassSpec.again st ?_ ⟨⟨hwf, hne, hT, hroom, ?_⟩, hq, le_rfl⟩
    · simp only [bridgeJump, hq, hget, hfar, Bool.false_eq_true, if_false]
    · rw [bridge, if_neg hfar, ← hT] at hmoves
      exact hmoves

/-- The end of a pass: `f` was played to its end, and the request wants more points. -/
theorem leaveFrame_spec (renderTime : ℕ → TimePoint) (maxFrameHoldTime : Duration)
    (clock : ℕ → TimePoint) {f : QueuedFrame F} {rest : List (QueuedFrame F)}
    {lastPoint : LaserPoint F} {st : PointsPass F} (hq : st.sched.frameQueue = f :: rest)
    (hend : f.nextPoint = f.points.length) (hlast : f.points.getLast? = some lastPoint)
    (hshort : st.outputBuffer.length < minPoints) (hI : PointsInv A s₀ maxPoints st) :
    PassSpec
      (leaveFrame renderTime minPoints maxPoints maxFrameHoldTime clock f rest lastPoint st)
      (fun st' => PointsInv A s₀ maxPoints st' ∧ st'.sched.frontFinished = false ∧
        st.outputBuffer.length ≤ st'.outputBuffer.length)
      (PointsPost A s₀ minPoints maxPoints) := by
  have hok := hI.wf.front f rest hq
  have hT := hI.transition_eq
  have hunfinished : ∀ (st' : PointsPass F) (g : QueuedFrame F) (gs : List (QueuedFrame F)),
      st'.sched.frameQueue = g :: gs → g.nextPoint = 0 → g.points ≠ [] →
      st'.sched.frontFinished = false := by
    intro st' g gs hg hcursor hne
    have := List.length_pos_iff.mpr hne
    simp only [frontFinished, hg, hcursor, decide_eq_false_iff_not]
    omega
  unfold leaveFrame
  split
  · -- the next frame is due
    rename_i hdue
    obtain ⟨g, gs, rfl⟩ : ∃ g gs, rest = g :: gs := by
      cases rest with
      | nil => simp [nextIsDueAt] at hdue
      | cons g gs => exact ⟨g, gs, rfl⟩
    have hfresh := hI.wf.fresh g (by simp [hq])
    obtain ⟨firstPoint, hfirst⟩ : ∃ p, g.points.head? = some p :=
      ⟨_, List.head?_eq_some_head hfresh.points_ne⟩
    have hadv := hI.moves.quiet (Move.advance hq hT hend hlast hfirst)
    have hwf : Wf { st.sched with frameQueue := g :: gs } :=
      hI.wf.dropFront hq fun hne => absurd hT hne
    refine (bridgeJump_spec { st with sched := { st.sched with frameQueue := g :: gs } } rfl
      hfresh.cursor_eq hfirst hT hI.room hwf hadv).mono ?_
    · exact fun st' ⟨hinv, hg, hle⟩ =>
        ⟨hinv, hunfinished st' g gs hg hfresh.cursor_eq hfresh.points_ne, hle⟩
  · split
    · -- the frame was held too long
      refine PassSpec.done (_, _) rfl ⟨hI.wf.dropFront hq fun hne => absurd hT hne, ?_, ?_⟩
      · exact hI.moves.tail (Move.expire _ (Or.inl (by omega)) hq hT hend)
      · intro hle
        simp only [appendBlankPoints_eq, List.length_append, length_blanks]
        omega
    · -- the frame starts over
      obtain ⟨firstPoint, hfirst⟩ : ∃ p, f.points.head? = some p :=
        ⟨_, List.head?_eq_some_head hok.points_ne⟩
      set f' : QueuedFrame F := { f with nextPoint := 0, playCount := f.playCount + 1 } with hf'
      have hre : Restarted f f' := ⟨rfl, rfl, rfl, Nat.succ_pos _⟩
      have hbridge : bridge lastPoint firstPoint = [] ∨ ∃ last first,
          f.points.getLast? = some last ∧ f.points.head? = some first ∧
          bridge lastPoint firstPoint = generateTransitionPoints last first := by
        unfold bridge
        split
        · exact Or.inr ⟨lastPoint, firstPoint, hlast, hfirst, rfl⟩
        · exact Or.inl rfl
      have hwf : Wf { st.sched with frameQueue := f' :: rest } :=
        hI.wf.replaceFront hq ⟨hok.points_ne, Nat.zero_le _, fun _ => rfl⟩ rfl rfl fun _ => rfl
      refine (bridgeJump_spec { st with
          sched := { st.sched with frameQueue := f' :: rest }
          reads := if 0 < maxFrameHoldTime then st.reads + 1 else st.reads }
        rfl rfl hfirst hT hI.room hwf
        (hI.moves.quiet (Move.restart hq hT hend hre hbridge))).mono ?_
      · exact fun st' ⟨hinv, hg, hle⟩ => ⟨hinv, hunfinished st' _ rest hg rfl hok.points_ne, hle⟩

/-- Copying points of the front frame fills the output buffer or finishes the frame. -/
theorem copyPoints_spec (clock : ℕ → TimePoint) {st : PointsPass F} {front : QueuedFrame F}
    {rest : List (QueuedFrame F)} (hq : st.sched.frameQueue = front :: rest)
    (hI : PointsInv A s₀ maxPoints st) :
    ∃ current st' k, copyPoints maxPoints clock front rest st = (current, st') ∧
      st'.sched.frameQueue = current :: rest ∧ st'.sched.pendingTransitionPoints = [] ∧
      Wf st'.sched ∧ Moves A s₀ st'.outputBuffer st'.sched ∧ Played front current k ∧
      st'.outputBuffer.length = st.outputBuffer.length + k ∧
      st'.outputBuffer.length ≤ maxPoints ∧
      (current.nextPoint = current.points.length ∨ st'.outputBuffer.length = maxPoints) := by
  have hok := hI.wf.front front rest hq
  have hroom := hI.room
  have hcursor := hok.cursor_le
  set k := Nat.min (front.points.length - front.nextPoint)
    (maxPoints - st.outputBuffer.length) with hk
  have hkavail : k ≤ front.points.length - front.nextPoint := Nat.min_le_left _ _
  have hkroom : k ≤ maxPoints - st.outputBuffer.length := Nat.min_le_right _ _
  have hplay := played_beginPlay (clock st.reads) front k
  set current : QueuedFrame F :=
    { beginPlay (clock st.reads) front with
      nextPoint := (beginPlay (clock st.reads) front).nextPoint + k } with hcur
  have hlen : (st.outputBuffer ++ front.chunk k).length = st.outputBuffer.length + k := by
    rw [List.length_append, length_chunk front k (by omega)]
  have hcok : FrameOk current := by
    refine ⟨?_, ?_, fun h0 => ?_⟩
    · rw [hplay.points]; exact hok.points_ne
    · rw [hplay.points, hplay.nextPoint]; omega
    · have := hplay.playCount
      omega
  refine ⟨current, { sched := { st.sched with frameQueue := current :: rest }
                     outputBuffer := st.outputBuffer ++ front.chunk k
                     reads := if front.playCount = 0 then st.reads + 1 else st.reads }, k,
    ?_, rfl, hI.transition_eq, ?_, ?_, hplay, hlen, ?_, ?_⟩
  · simp only [copyPoints, beginPlay_points, beginPlay_nextPoint, beginPlay_chunk, hcur, hk]
  · exact hI.wf.replaceFront hq hcok hplay.points hplay.serial
      fun hne => absurd hI.transition_eq hne
  · refine hI.moves.tail (Move.play hq hI.transition_eq (by omega) (fun hfresh => ?_) hplay)
    have := hok.cursor_eq hfresh
    have := List.length_pos_iff.mpr hok.points_ne
    exact Nat.lt_min.mpr ⟨by omega, by omega⟩
  · show (st.outputBuffer ++ front.chunk k).length ≤ maxPoints
    omega
  · show current.nextPoint = _ ∨ (st.outputBuffer ++ front.chunk k).length = maxPoints
    rw [hplay.points, hplay.nextPoint]
    rcases Nat.le_total (front.points.length - front.nextPoint)
      (maxPoints - st.outputBuffer.length) with h | h
    · have : k = front.points.length - front.nextPoint := Nat.min_eq_left h
      omega
    · have : k = maxPoints - st.outputBuffer.length := Nat.min_eq_right h
      omega

/-- **One pass of the loop of `fillPoints`** succeeds, keeps the invariant and makes progress. -/
theorem fillPointsPass_spec (renderTime : ℕ → TimePoint) (maxFrameHoldTime : Duration)
    (clock : ℕ → TimePoint) {st : PointsPass F} (hI : PointsInv A s₀ maxPoints st) :
    PassSpec (fillPointsPass renderTime minPoints maxPoints maxFrameHoldTime clock st)
      (fun st' => PointsInv A s₀ maxPoints st' ∧
        pointsMeasure maxPoints st' < pointsMeasure maxPoints st)
      (PointsPost A s₀ minPoints maxPoints) := by
  obtain ⟨front, rest, hq⟩ := List.exists_cons_of_ne_nil hI.queue_ne
  have hok := hI.wf.front front rest hq
  obtain ⟨current, st', k, hcopy, hq', hT, hwf, hmoves, hplay, hlen, hle, hstop⟩ :=
    copyPoints_spec clock hq hI
  have hcursor : ¬ front.points.length < front.nextPoint := by
    have := hok.cursor_le
    omega
  simp only [fillPointsPass, hq, if_neg hcursor, hcopy]
  split
  · -- the frame is finished and the minimum is met
    rename_i h
    exact PassSpec.done _ rfl ⟨hwf, hmoves, fun _ => ⟨h.1, hle⟩⟩
  · rename_i hmore
    split
    · -- the output buffer is full
      rename_i hfull
      exact PassSpec.done _ rfl ⟨hwf, hmoves, fun hmm => ⟨hfull ▸ hmm, hle⟩⟩
    · rename_i hroom
      have hend : current.nextPoint = current.points.length := hstop.resolve_right hroom
      obtain ⟨lastPoint, hlast⟩ : ∃ p, current.points.getLast? = some p :=
        ⟨_, List.getLast?_eq_some_getLast (hwf.front current rest hq').points_ne⟩
      simp only [hlast]
      refine (leaveFrame_spec renderTime maxFrameHoldTime clock hq' hend hlast ?_
        ⟨hwf, by simp [hq'], hT, by omega, hmoves⟩).mono ?_
      · by_contra hmin
        exact hmore ⟨by omega, hend.ge⟩
      · rintro st'' ⟨hinv, hunfinished, hle'⟩
        refine ⟨hinv, ?_⟩
        -- a pass that copies no point leaves a finished frame
        have hroom'' := hinv.room
        have hfin : k = 0 → st.sched.frontFinished = true := by
          rintro rfl
          have hn := hplay.nextPoint
          have hp := congrArg List.length hplay.points
          simp only [frontFinished, hq, decide_eq_true_eq]
          omega
        simp only [pointsMeasure, hunfinished, Bool.false_eq_true, if_false]
        rcases Nat.eq_zero_or_pos k with hk | hk
        · rw [hfin hk, if_pos rfl]
          omega
        · omega

/-- **The loop of `fillPoints`** ends within its budget. -/
theorem fillPointsLoop_spec (renderTime : ℕ → TimePoint) (minPoints : ℕ)
    (maxFrameHoldTime : Duration) (clock : ℕ → TimePoint) (st : PointsPass F)
    (hI : PointsInv A s₀ maxPoints st) :
    ∃ r, run (fillPointsPass renderTime minPoints maxPoints maxFrameHoldTime clock)
      (2 * maxPoints + 2) st = some r ∧ PointsPost A s₀ minPoints maxPoints r :=
  run_total (I := PointsInv A s₀ maxPoints) (pointsMeasure maxPoints)
    (fun _ h => fillPointsPass_spec renderTime maxFrameHoldTime clock h) hI
    (by unfold pointsMeasure; split <;> omega)

/-! ## The whole call -/

/-- The blank padding of a request for points does not fit behind the transition points that
were left over: they do not fill the request, the next frame is not due, and together with the
minimum they exceed the maximum. -/
def PaddingOverflows (request : PointFillRequest) (clock : ℕ → TimePoint)
    (s : FrameScheduler F) : Prop :=
  s.pendingTransitionPoints.length < request.maximumPointsRequired ∧
    request.maximumPointsRequired <
      s.pendingTransitionPoints.length + request.minimumPointsRequired ∧
    heldBack (estimatedRenderTime request.estimatedFirstPointRenderTime clock).1 s = true

/-- How a call went whose opening left `s₁` and the transition points `o₁`. -/
inductive FillPointsCase (D : Type) [FloatArith D] (request : PointFillRequest)
    (pointRateValue : ℕ) (maxFrameHoldTime : Duration) (clock : ℕ → TimePoint)
    (s₁ : FrameScheduler F) (o₁ : List (Emitted F)) :
    FrameScheduler F → List (Emitted F) → Prop
  /-- The transition points fill the request. -/
  | full : FillPointsCase D request pointRateValue maxFrameHoldTime clock s₁ o₁ s₁ o₁
  /-- There is no frame, or the next one is not due. -/
  | waits (s' : FrameScheduler F) :
      FillPointsCase D request pointRateValue maxFrameHoldTime clock s₁ o₁ s'
        (appendBlankPoints o₁ request.minimumPointsRequired)
  /-- The loop ran. -/
  | ran {s' : FrameScheduler F} {out : List (Emitted F)} {front : QueuedFrame F}
      {rest : List (QueuedFrame F)} (hlt : o₁.length < request.maximumPointsRequired)
      (hq : (s₁.dropStaleFrames
        (estimatedRenderTime request.estimatedFirstPointRenderTime clock).1).frameQueue =
          front :: rest)
      (hdue : ¬ (front.playCount = 0 ∧ !frameIsDueAt front
        (estimatedRenderTime request.estimatedFirstPointRenderTime clock).1))
      (hrun : run (fillPointsPass
          (fun n => (estimatedRenderTime request.estimatedFirstPointRenderTime clock).1 +
            trunc (pointsToMillis n pointRateValue * 1000000.0 : D))
          request.minimumPointsRequired request.maximumPointsRequired maxFrameHoldTime clock)
          (2 * request.maximumPointsRequired + 2)
        { sched := s₁.dropStaleFrames
            (estimatedRenderTime request.estimatedFirstPointRenderTime clock).1
          outputBuffer := o₁
          reads := (estimatedRenderTime request.estimatedFirstPointRenderTime clock).2 } =
        some (s', out)) :
      FillPointsCase D request pointRateValue maxFrameHoldTime clock s₁ o₁ s' out

theorem fillPoints_cases {D : Type} [FloatArith D] {request : PointFillRequest}
    {pointRateValue : ℕ} {maxFrameHoldTime : Duration} {clock : ℕ → TimePoint}
    {s s₁ s' : FrameScheduler F} {o₁ out : List (Emitted F)}
    (hopen : s.drainPendingFramesUnsafe.drainPendingTransitionUnsafe []
      request.maximumPointsRequired = (s₁, o₁))
    (hmax : 0 < request.maximumPointsRequired) (hle : o₁.length ≤ request.maximumPointsRequired)
    (hfill : fillPoints D request pointRateValue maxFrameHoldTime clock s = some (s', out)) :
    FillPointsCase D request pointRateValue maxFrameHoldTime clock s₁ o₁ s' out := by
  rcases hle.eq_or_lt with hfull | hlt
  · simp only [fillPoints, if_neg hmax.ne', hopen, if_pos hfull, Option.some.injEq,
      Prod.mk.injEq] at hfill
    obtain ⟨rfl, rfl⟩ := hfill
    exact .full
  simp only [fillPoints, if_neg hmax.ne', hopen, if_neg hlt.ne] at hfill
  split at hfill
  · obtain ⟨rfl, rfl⟩ := Prod.mk.inj (Option.some.inj hfill)
    exact .waits s₁
  · split at hfill
    · cases hfill
    · rename_i front rest hq
      split at hfill
      · obtain ⟨rfl, rfl⟩ := Prod.mk.inj (Option.some.inj hfill)
        exact .waits _
      · rename_i hdue
        exact .ran hlt hq hdue hfill

/-- **The specification of `fillPoints`**: it returns, by moves that skip only where there are
stale frames; it appends at least the minimum, and more than the maximum exactly when its padding
overflows. -/
theorem fillPoints_spec (D : Type) [FloatArith D] (request : PointFillRequest)
    (pointRateValue : ℕ) (maxFrameHoldTime : Duration) (clock : ℕ → TimePoint)
    {s : FrameScheduler F} (hs : Wf s)
    (hA : ∀ f g, SkipsTo request.maximumPointsRequired
      (estimatedRenderTime request.estimatedFirstPointRenderTime clock).1 s f g → A.skip f g) :
    ∃ s' out, fillPoints D request pointRateValue maxFrameHoldTime clock s = some (s', out) ∧
      Wf s' ∧ Moves A s out s' ∧
      (1 ≤ request.maximumPointsRequired →
        request.minimumPointsRequired ≤ request.maximumPointsRequired →
        request.minimumPointsRequired ≤ out.length ∧
        (out.length ≤ request.maximumPointsRequired ↔ ¬ PaddingOverflows request clock s)) := by
  have hdrain : Moves A s [] s.drainPendingFramesUnsafe := (Move.drain s).moves
  by_cases hmax : request.maximumPointsRequired = 0
  · refine ⟨_, _, by simp only [fillPoints, hmax, if_true], hs.drainPendingFrames, hdrain,
      fun h => ?_⟩
    omega
  obtain ⟨s₁, o₁, hopen, hq₁, hlen₁, ho₁, hT₁, hwf₁, hmoves₁⟩ :=
    opening_spec (A := A) hs request.maximumPointsRequired
  by_cases hfull : o₁.length = request.maximumPointsRequired
  · refine ⟨s₁, o₁, ?_, hwf₁, hmoves₁, fun _ hmm => ⟨hfull ▸ hmm, ?_⟩⟩
    · simp only [fillPoints, if_neg hmax, hopen, if_pos hfull]
    · refine iff_of_true hfull.le fun hover => ?_
      have := hover.1
      omega
  set t := (estimatedRenderTime request.estimatedFirstPointRenderTime clock).1 with ht
  have hTlen : o₁.length = s.pendingTransitionPoints.length := by omega
  have hT₁ := hT₁ (by omega)
  cases hqueue : s₁.frameQueue with
  | nil =>
    -- an empty queue has no transition left over
    have hT : s.pendingTransitionPoints = [] := by
      by_contra hne
      obtain ⟨f, rest, hf, -⟩ := hs.bridge hne
      rw [hq₁, hf] at hqueue
      cases hqueue
    have ho₁ : o₁.length = 0 := by rw [hTlen, hT, List.length_nil]
    refine ⟨s₁, appendBlankPoints o₁ request.minimumPointsRequired, ?_, hwf₁,
      hmoves₁.tail (Move.blank _ hT₁), fun _ hmm => ?_⟩
    · simp only [fillPoints, if_neg hmax, hopen, if_neg hfull, hqueue, List.isEmpty_nil, if_true]
    · rw [appendBlankPoints_eq, List.length_append, length_blanks, ho₁]
      refine ⟨by omega, iff_of_true (by omega) fun hover => ?_⟩
      have := hover.2.1
      rw [hT, List.length_nil] at this
      omega
  | cons f₀ rest₀ =>
    obtain ⟨front, rest, hskip⟩ := List.exists_cons_of_ne_nil
      (skipStaleFrames_ne_nil t (q := s₁.frameQueue) (by simp [hqueue]))
    have hq₂ : (s₁.dropStaleFrames t).frameQueue = front :: rest := hskip
    have hmoves₂ : Moves A s o₁ (s₁.dropStaleFrames t) :=
      hmoves₁.dropStaleFrames t ho₁
        (by rw [hq₁]; exact fun hne f hf g hg => hA f g ⟨by omega, hne, hf, hg⟩)
    have hwf₂ := hmoves₂.wf hs
    have hheld : heldBack t s = (decide (front.playCount = 0) && !frameIsDueAt front t) := by
      rw [hq₁] at hskip
      simp only [heldBack, hskip]
    have hfill : fillPoints D request pointRateValue maxFrameHoldTime clock s =
        if front.playCount = 0 ∧ !frameIsDueAt front t then
          some (s₁.dropStaleFrames t, appendBlankPoints o₁ request.minimumPointsRequired)
        else
          run (fillPointsPass (fun n => t + trunc (pointsToMillis n pointRateValue * 1000000.0 : D))
            request.minimumPointsRequired request.maximumPointsRequired maxFrameHoldTime clock)
            (2 * request.maximumPointsRequired + 2)
            { sched := s₁.dropStaleFrames t, outputBuffer := o₁
              reads := (estimatedRenderTime request.estimatedFirstPointRenderTime clock).2 } := by
      simp only [fillPoints, if_neg hmax, hopen, if_neg hfull, hqueue, List.isEmpty_cons,
        Bool.false_eq_true, if_false]
      rw [← ht, hq₂]
    rw [hfill]
    split
    · -- the next frame is not due
      rename_i hnotdue
      refine ⟨_, _, rfl, hwf₂, hmoves₂.tail (Move.blank _ hT₁), fun _ hmm => ?_⟩
      rw [appendBlankPoints_eq, List.length_append, length_blanks]
      refine ⟨by omega, ?_⟩
      have hheld' : heldBack t s = true := by
        rw [hheld]
        simpa using hnotdue
      simp only [PaddingOverflows, ← ht, hheld', and_true]
      omega
    · rename_i hdue
      obtain ⟨⟨s', out⟩, hrun, hpost⟩ := fillPointsLoop_spec
        (fun n => t + trunc (pointsToMillis n pointRateValue * 1000000.0 : D))
        request.minimumPointsRequired maxFrameHoldTime clock
        { sched := s₁.dropStaleFrames t, outputBuffer := o₁
          reads := (estimatedRenderTime request.estimatedFirstPointRenderTime clock).2 }
        ⟨hwf₂, by simp [hq₂], hT₁, by show o₁.length < request.maximumPointsRequired; omega,
          hmoves₂⟩
      refine ⟨s', out, hrun, hpost.wf, hpost.moves, fun _ hmm => ?_⟩
      obtain ⟨hlo, hhi⟩ := hpost.bounds hmm
      refine ⟨hlo, iff_of_true hhi fun hover => hdue ?_⟩
      have := hover.2.2
      rw [← ht, hheld] at this
      simpa using this

/-! ## What is not padding fits the request -/

/-- Some output that fits a request, with blank padding behind it. -/
def FitsBeforePadding (maxPoints : ℕ) (out : List (Emitted F)) : Prop :=
  ∃ kept n, out = kept ++ blanks n ∧ kept.length ≤ maxPoints

theorem FitsBeforePadding.of_length_le {out : List (Emitted F)} (h : out.length ≤ maxPoints) :
    FitsBeforePadding maxPoints out :=
  ⟨out, 0, (List.append_nil out).symm, h⟩

/-- A pass keeps the output within the maximum, and what it returns fits before the padding. -/
def PassFits (maxPoints : ℕ)
    (r : Option (Pass (PointsPass F) (FrameScheduler F × List (Emitted F)))) : Prop :=
  (∀ st', r = some (.again st') → st'.outputBuffer.length ≤ maxPoints) ∧
    ∀ a, r = some (.done a) → FitsBeforePadding maxPoints a.2

theorem passFits_bridgeJump (lastPoint : LaserPoint F) {st : PointsPass F}
    (h : st.outputBuffer.length ≤ maxPoints) :
    PassFits maxPoints (bridgeJump maxPoints lastPoint st) := by
  unfold bridgeJump
  split
  · exact ⟨nofun, nofun⟩
  · split
    · exact ⟨nofun, nofun⟩
    · rename_i firstPoint _
      have hdrain := length_drainPendingTransition_le { st.sched with
        pendingTransitionPoints := generateTransitionPoints lastPoint firstPoint } h
      split
      · dsimp only
        split
        · refine ⟨nofun, fun a ha => ?_⟩
          simp only [Option.some.injEq, Pass.done.injEq] at ha
          exact ha ▸ .of_length_le hdrain
        · refine ⟨fun st' hst => ?_, nofun⟩
          simp only [Option.some.injEq, Pass.again.injEq] at hst
          exact hst ▸ hdrain
      · refine ⟨fun st' hst => ?_, nofun⟩
        simp only [Option.some.injEq, Pass.again.injEq] at hst
        exact hst ▸ h

theorem passFits_leaveFrame (renderTime : ℕ → TimePoint) (maxFrameHoldTime : Duration)
    (clock : ℕ → TimePoint) (currentFrame : QueuedFrame F) (rest : List (QueuedFrame F))
    (lastPoint : LaserPoint F) {st : PointsPass F} (h : st.outputBuffer.length ≤ maxPoints) :
    PassFits maxPoints (leaveFrame renderTime minPoints maxPoints maxFrameHoldTime clock
      currentFrame rest lastPoint st) := by
  unfold leaveFrame
  split
  · exact passFits_bridgeJump lastPoint h
  · split
    · refine ⟨nofun, fun a ha => ?_⟩
      simp only [Option.some.injEq, Pass.done.injEq] at ha
      exact ha ▸ ⟨st.outputBuffer, _, appendBlankPoints_eq _ _, h⟩
    · exact passFits_bridgeJump lastPoint h

theorem passFits_fillPointsPass (renderTime : ℕ → TimePoint) (maxFrameHoldTime : Duration)
    (clock : ℕ → TimePoint) {st : PointsPass F} (h : st.outputBuffer.length ≤ maxPoints) :
    PassFits maxPoints
      (fillPointsPass renderTime minPoints maxPoints maxFrameHoldTime clock st) := by
  unfold fillPointsPass
  split
  · exact ⟨nofun, nofun⟩
  · rename_i front rest _
    have hcopy := length_copyPoints_le clock front rest h
    have hdone : ∀ st' : PointsPass F, st'.outputBuffer.length ≤ maxPoints →
        PassFits maxPoints (some (.done (st'.sched, st'.outputBuffer))) := by
      refine fun st' hst => ⟨nofun, fun a ha => ?_⟩
      simp only [Option.some.injEq, Pass.done.injEq] at ha
      exact ha ▸ .of_length_le hst
    split
    · exact ⟨nofun, nofun⟩
    · dsimp only
      split
      · exact hdone _ hcopy
      · split
        · exact hdone _ hcopy
        · split
          · exact ⟨nofun, nofun⟩
          · exact passFits_leaveFrame renderTime maxFrameHoldTime clock _ rest _ hcopy

/-- **Only padding can exceed the maximum** of a request. -/
theorem fillPoints_fits {D : Type} [FloatArith D] {request : PointFillRequest}
    {pointRateValue : ℕ} {maxFrameHoldTime : Duration} {clock : ℕ → TimePoint}
    {s s' : FrameScheduler F} {out : List (Emitted F)}
    (h : fillPoints D request pointRateValue maxFrameHoldTime clock s = some (s', out)) :
    FitsBeforePadding request.maximumPointsRequired out := by
  by_cases hmax : request.maximumPointsRequired = 0
  · simp only [fillPoints, hmax, if_true, Option.some.injEq, Prod.mk.injEq] at h
    exact h.2 ▸ .of_length_le (Nat.zero_le _)
  have hdrain : (s.drainPendingFramesUnsafe.drainPendingTransitionUnsafe []
      request.maximumPointsRequired).2.length ≤ request.maximumPointsRequired :=
    length_drainPendingTransition_le s.drainPendingFramesUnsafe (Nat.zero_le _)
  generalize hopen : s.drainPendingFramesUnsafe.drainPendingTransitionUnsafe []
    request.maximumPointsRequired = opened at hdrain
  obtain ⟨s₁, o₁⟩ := opened
  cases fillPoints_cases hopen (Nat.pos_of_ne_zero hmax) hdrain h with
  | full => exact .of_length_le hdrain
  | waits => exact ⟨_, _, appendBlankPoints_eq _ _, hdrain⟩
  | ran hlt hq hdue hrun =>
    refine run_partial (I := fun st : PointsPass F =>
        st.outputBuffer.length ≤ request.maximumPointsRequired)
      (P := fun r => FitsBeforePadding request.maximumPointsRequired r.2)
      (fun st st' hst hpass => ?_) (fun st a hst hpass => ?_) hdrain hrun
    · exact (passFits_fillPointsPass _ maxFrameHoldTime clock hst).1 st' hpass
    · exact (passFits_fillPointsPass _ maxFrameHoldTime clock hst).2 a hpass

end LiberaLaser.FrameScheduler
