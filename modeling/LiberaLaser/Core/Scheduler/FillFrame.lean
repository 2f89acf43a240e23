import LiberaLaser.Core.Scheduler.FillPoints

/-!
# Filling a frame request

The specification of `fillFrame`: from a state satisfying the invariant it returns, and what it
does is a sequence of moves (`fillFrame_spec`). The loop makes at most two passes, since the first
one either ends the call or brings a frame with its cursor at the start to the front. The returned
frame exceeds the maximum of the request exactly when transition points precede a chunk that does
not leave room for them (`ChunkOverflows`).
-/

namespace LiberaLaser.FrameScheduler

open Loop

variable {F : Type}

/-- The front frame is held back: it was never played and the request does not take it yet. -/
def FrontHeld (request : FramePullRequest) (t : TimePoint) (front : QueuedFrame F) : Prop :=
  front.playCount = 0 ∧ front.nextPoint = 0 ∧ !request.advanceWhenAvailable ∧
    !frameIsDueAt front t

/-- The frame behind the front may take over. -/
def NextAvailable (request : FramePullRequest) (t : TimePoint) (rest : List (QueuedFrame F)) :
    Prop :=
  (!rest.isEmpty && (request.advanceWhenAvailable || nextIsDueAt rest t)) = true

/-- The front frame was held for too long. -/
def HoldExpired (maxFrameHoldTime : Duration) (now : TimePoint) (front : QueuedFrame F) : Prop :=
  0 < front.playCount ∧ 0 < maxFrameHoldTime ∧ maxFrameHoldTime ≤ now - front.firstPlayTime

/-- A call with an empty blank frame that leaves a frame or a transition behind: it drops the
transition points it has drained because the next frame is held back, or lets the front frame go
because it was held for too long. -/
def SilentBlank (request : FramePullRequest) (maxFrameHoldTime : Duration)
    (clock : ℕ → TimePoint) (s : FrameScheduler F) : Prop :=
  let t := (estimatedRenderTime request.estimatedFirstPointRenderTime clock).1
  let reads := (estimatedRenderTime request.estimatedFirstPointRenderTime clock).2
  request.blankFramePointCount = 0 ∧
  s.pendingTransitionPoints.length < request.maximumPointsRequired ∧
  match skipStaleFrames t (s.frameQueue ++ s.pendingFrames) with
  | [] => False
  | front :: rest =>
    (s.pendingTransitionPoints ≠ [] ∧ FrontHeld request t front) ∨
    (front.points.length ≤ front.nextPoint ∧ ¬ NextAvailable request t rest ∧
      HoldExpired maxFrameHoldTime (clock reads) front)

theorem silentBlank_iff (request : FramePullRequest) (maxFrameHoldTime : Duration)
    (clock : ℕ → TimePoint) {s : FrameScheduler F} {front : QueuedFrame F}
    {rest : List (QueuedFrame F)}
    (h : skipStaleFrames (estimatedRenderTime request.estimatedFirstPointRenderTime clock).1
      (s.frameQueue ++ s.pendingFrames) = front :: rest) :
    SilentBlank request maxFrameHoldTime clock s ↔
      request.blankFramePointCount = 0 ∧
      s.pendingTransitionPoints.length < request.maximumPointsRequired ∧
      ((s.pendingTransitionPoints ≠ [] ∧ FrontHeld request
          (estimatedRenderTime request.estimatedFirstPointRenderTime clock).1 front) ∨
        (front.points.length ≤ front.nextPoint ∧ ¬ NextAvailable request
            (estimatedRenderTime request.estimatedFirstPointRenderTime clock).1 rest ∧
          HoldExpired maxFrameHoldTime
            (clock (estimatedRenderTime request.estimatedFirstPointRenderTime clock).2)
              front)) := by
  simp only [SilentBlank, h]

theorem played_beginLoop {f : QueuedFrame F} (hok : FrameOk f) (now : TimePoint) (k : ℕ) :
    Played f { beginLoop now f with nextPoint := (beginLoop now f).nextPoint + k } k := by
  unfold beginLoop
  split
  · exact ⟨rfl, rfl, rfl, Nat.succ_pos _⟩
  · rename_i hcursor
    refine ⟨rfl, rfl, rfl, Nat.pos_of_ne_zero fun hplay => hcursor (hok.cursor_eq hplay)⟩

variable [FloatArith F]

/-- The call bridges from the finished front frame to the next one, and the bridge neither fills
the request nor fits together with the next frame. -/
def BridgeOverflows (request : FramePullRequest) (t : TimePoint) (front : QueuedFrame F)
    (rest : List (QueuedFrame F)) : Prop :=
  front.points.length ≤ front.nextPoint ∧ NextAvailable request t rest ∧
    ∃ next ∈ rest.head?, ∃ lastPoint ∈ front.points.getLast?, ∃ firstPoint ∈ next.points.head?,
      farApart lastPoint firstPoint = true ∧
      transitionPointCount lastPoint firstPoint < request.maximumPointsRequired ∧
      request.maximumPointsRequired <
        transitionPointCount lastPoint firstPoint + next.points.length

/-- The chunk that a call copies does not leave room for the transition points in front of it:
either transition points were left over, do not fill the request, and do not fit together with
the frame they lead to; or the call bridges to the next frame and the bridge overflows. -/
def ChunkOverflows (request : FramePullRequest) (clock : ℕ → TimePoint) (s : FrameScheduler F) :
    Prop :=
  let t := (estimatedRenderTime request.estimatedFirstPointRenderTime clock).1
  let leftOver := s.pendingTransitionPoints.length
  match skipStaleFrames t (s.frameQueue ++ s.pendingFrames) with
  | [] => False
  | front :: rest =>
    (0 < leftOver ∧ leftOver < request.maximumPointsRequired ∧ ¬ FrontHeld request t front ∧
      request.maximumPointsRequired < leftOver + front.points.length) ∨
    (leftOver = 0 ∧ BridgeOverflows request t front rest)

instance (request : FramePullRequest) (t : TimePoint) (front : QueuedFrame F) :
    Decidable (FrontHeld request t front) := inferInstanceAs (Decidable (_ ∧ _ ∧ _ ∧ _))

instance (request : FramePullRequest) (t : TimePoint) (front : QueuedFrame F)
    (rest : List (QueuedFrame F)) : Decidable (BridgeOverflows request t front rest) :=
  inferInstanceAs (Decidable (_ ∧ (_ = true) ∧ _))

instance (request : FramePullRequest) (clock : ℕ → TimePoint) (s : FrameScheduler F) :
    Decidable (ChunkOverflows request clock s) := by
  unfold ChunkOverflows
  dsimp only
  split
  · infer_instance
  · infer_instance

variable {A : Licence F} {s₀ : FrameScheduler F} {request : FramePullRequest} {t : TimePoint}
  {maxFrameHoldTime : Duration} {clock : ℕ → TimePoint}

theorem length_loadBlankFrame (request : FramePullRequest) :
    (loadBlankFrame request : OutputFrame F).points.length =
      min request.blankFramePointCount request.maximumPointsRequired :=
  length_blanks _

/-- The chunk that `copyChunk` copies, and the moves it makes. -/
theorem copyChunk_spec (request : FramePullRequest) (clock : ℕ → TimePoint) {st : FramePass F}
    {front : QueuedFrame F} {rest : List (QueuedFrame F)}
    (hq : st.sched.frameQueue = front :: rest) (hok : FrameOk front)
    (hT : st.sched.pendingTransitionPoints = []) (hmoves : Moves A s₀ st.points st.sched)
    (hmax : 0 < request.maximumPointsRequired) :
    ∃ s' frame, copyChunk request clock front rest st = (s', frame) ∧
      Moves A s₀ frame.points s' ∧ frame.points.length = st.points.length +
        min (front.points.length - front.nextPoint) request.maximumPointsRequired := by
  have hcursor := hok.cursor_le
  have hplayed := played_beginLoop hok (clock st.reads)
  set current := beginLoop (clock st.reads) front
  have hpoints : current.points = front.points := (hplayed 0).points
  have hserial : current.serial = front.serial := (hplayed 0).serial
  have hnext : current.nextPoint = front.nextPoint := (hplayed 0).nextPoint
  set k := min (front.points.length - front.nextPoint) request.maximumPointsRequired with hk
  have hkle : front.nextPoint + k ≤ front.points.length := by omega
  have hchunk : current.chunk k = front.chunk k := by
    simp only [QueuedFrame.chunk, hpoints, hserial, hnext]
  refine ⟨
    { st.sched with frameQueue := { current with nextPoint := current.nextPoint + k } :: rest },
    { time := if st.points.isEmpty then current.time else 0
      points := st.points ++ front.chunk k }, ?_,
    hmoves.tail (Move.play hq hT hkle (fun hfresh => ?_) (hplayed k)), ?_⟩
  · rw [← hchunk]
    simp only [copyChunk, current, hk, ← hpoints, ← hnext]
  · have := hok.cursor_eq hfresh
    have := List.length_pos_iff.mpr hok.points_ne
    omega
  · rw [List.length_append, length_chunk front k hkle]

/-- The next pass plays the front frame at once. `exceeds` says that the points already in the
output frame leave no room for what it copies. -/
structure ReadyToCopy (A : Licence F) (s₀ : FrameScheduler F) (request : FramePullRequest)
    (t : TimePoint) (exceeds : Prop) (st : FramePass F) : Prop where
  wf : Wf st.sched
  front : ∃ g gs, st.sched.frameQueue = g :: gs ∧ g.nextPoint < g.points.length ∧
    ¬ FrontHeld request t g ∧
    (st.points.length + min (g.points.length - g.nextPoint) request.maximumPointsRequired ≤
      request.maximumPointsRequired ↔ ¬ exceeds)
  transition_eq : st.sched.pendingTransitionPoints = []
  moves : Moves A s₀ st.points st.sched

/-- What a call that started in `s₀` returns. -/
structure FramePost (A : Licence F) (s₀ : FrameScheduler F) (request : FramePullRequest)
    (exceeds : Prop) (r : FrameScheduler F × OutputFrame F) : Prop where
  moves : Moves A s₀ r.2.points r.1
  bound : r.2.points.length ≤ request.maximumPointsRequired ↔ ¬ exceeds

/-- **A pass that copies** ends the call. -/
theorem fillFramePass_copy (maxFrameHoldTime : Duration) (clock : ℕ → TimePoint) {exceeds : Prop}
    {st : FramePass F} (h : ReadyToCopy A s₀ request t exceeds st)
    (hmax : 0 < request.maximumPointsRequired) :
    ∃ r, fillFramePass request t maxFrameHoldTime clock st = some (.done r) ∧
      FramePost A s₀ request exceeds r := by
  obtain ⟨g, gs, hq, hcursor, hheld, hbound⟩ := h.front
  have hok := h.wf.front g gs hq
  obtain ⟨s', frame, hcopy, hmoves, hlen⟩ :=
    copyChunk_spec request clock hq hok h.transition_eq h.moves hmax
  refine ⟨(s', frame), ?_, hmoves, ?_⟩
  · have hheld' : ¬ (g.playCount = 0 ∧ g.nextPoint = 0 ∧ !request.advanceWhenAvailable ∧
        !frameIsDueAt g t) := hheld
    have hend : ¬ g.points.length ≤ g.nextPoint := by omega
    simp only [fillFramePass, hq, if_neg hheld', if_neg hend, hcopy]
  · rw [hlen]
    exact hbound

/-- The end of a frame, where the next frame takes over. -/
theorem finishFrame_next {st : FramePass F} {f g : QueuedFrame F} {gs : List (QueuedFrame F)}
    (hq : st.sched.frameQueue = f :: g :: gs) (hend : f.points.length ≤ f.nextPoint)
    (hT : st.sched.pendingTransitionPoints = []) (hwf : Wf st.sched) (hempty : st.points = [])
    (hmoves : Moves A s₀ [] st.sched) (hnext : NextAvailable request t (g :: gs)) :
    PassSpec (finishFrame request t maxFrameHoldTime clock f (g :: gs) st)
      (ReadyToCopy A s₀ request t (BridgeOverflows request t f (g :: gs)))
      (FramePost A s₀ request (BridgeOverflows request t f (g :: gs))) := by
  have hok := hwf.front f (g :: gs) hq
  have hend' : f.nextPoint = f.points.length := le_antisymm hok.cursor_le hend
  have hfresh := hwf.fresh g (by simp [hq])
  have hsize := List.length_pos_iff.mpr hfresh.points_ne
  obtain ⟨lastPoint, hlast⟩ : ∃ p, f.points.getLast? = some p :=
    ⟨_, List.getLast?_eq_some_getLast hok.points_ne⟩
  obtain ⟨firstPoint, hfirst⟩ : ∃ p, g.points.head? = some p :=
    ⟨_, List.head?_eq_some_head hfresh.points_ne⟩
  have hheld : ¬ FrontHeld request t g := by
    rintro ⟨-, -, hadvance, hdue⟩
    simp only [NextAvailable, nextIsDueAt, List.isEmpty_cons, Bool.not_false, Bool.true_and,
      Bool.or_eq_true] at hnext
    rcases hnext with h | h
    · simp [h] at hadvance
    · simp [h] at hdue
  have hadv := hmoves.quiet (Move.advance hq hT hend' hlast hfirst)
  have hover : BridgeOverflows request t f (g :: gs) ↔ farApart lastPoint firstPoint = true ∧
      transitionPointCount lastPoint firstPoint < request.maximumPointsRequired ∧
      request.maximumPointsRequired <
        transitionPointCount lastPoint firstPoint + g.points.length := by
    simp [BridgeOverflows, hend, hnext, hlast, hfirst]
  have hcond : (!(g :: gs).isEmpty &&
      (request.advanceWhenAvailable || nextIsDueAt (g :: gs) t)) = true := hnext
  by_cases hfar : farApart lastPoint firstPoint = true
  · rw [bridge, if_pos hfar] at hadv
    set T := generateTransitionPoints lastPoint firstPoint with hTdef
    set k := Nat.min (request.maximumPointsRequired - st.points.length) T.length with hk
    have hlenT : T.length = transitionPointCount lastPoint firstPoint :=
      length_generateTransitionPoints lastPoint firstPoint
    have hpos : 0 < T.length := List.length_pos_iff.mpr (generateTransitionPoints_ne_nil _ _)
    have hempty' : st.points.length = 0 := by rw [hempty, List.length_nil]
    have hk' : k = min request.maximumPointsRequired T.length := by
      rw [hk, hempty', Nat.sub_zero]
    have hdrain : Moves A s₀ (st.points ++ transitions (T.take k))
        { st.sched with frameQueue := g :: gs, pendingTransitionPoints := T.drop k } := by
      rw [hempty]
      exact hadv.tail (Move.transition
        { st.sched with frameQueue := g :: gs, pendingTransitionPoints := T } k)
    have hlen : (st.points ++ transitions (T.take k)).length = k := by
      simp only [transitions, List.length_append, List.length_map, List.length_take]
      omega
    have hfinish : finishFrame request t maxFrameHoldTime clock f (g :: gs) st =
        if (st.points ++ transitions (T.take k)).length = request.maximumPointsRequired then
          some (.done
            ({ st.sched with frameQueue := g :: gs, pendingTransitionPoints := T.drop k },
              { points := st.points ++ transitions (T.take k) }))
        else some (.again { st with
          sched := { st.sched with frameQueue := g :: gs, pendingTransitionPoints := T.drop k }
          points := st.points ++ transitions (T.take k) }) := by
      simp only [finishFrame, hcond, if_true, hlast, List.head?_cons, Option.bind_some, hfirst,
        hfar]
      rfl
    by_cases hfull : k = request.maximumPointsRequired
    · -- the bridge fills the request
      refine PassSpec.done _ (hfinish.trans (if_pos (by omega))) ⟨hdrain, ?_⟩
      refine iff_of_true ?_ fun h => ?_
      · show (st.points ++ transitions (T.take k)).length ≤ _
        omega
      · have := (hover.mp h).2.1
        omega
    · -- the whole bridge goes out, and the next frame behind it
      have hkT : k = T.length := by omega
      refine PassSpec.again _ (hfinish.trans (if_neg (by omega)))
        ⟨hwf.dropFront hq fun _ => by simp, ?_, ?_, hdrain⟩
      · refine ⟨g, gs, rfl, by rw [hfresh.cursor_eq]; exact hsize, hheld, ?_⟩
        show (st.points ++ transitions (T.take k)).length + _ ≤ _ ↔ _
        rw [hover, hlen, hfresh.cursor_eq, Nat.sub_zero]
        have hfar' := hfar
        simp only [hfar', true_and]
        omega
      · show T.drop k = []
        simp [hkT]
  · rw [bridge, if_neg hfar] at hadv
    have hsched : ({ st.sched with frameQueue := g :: gs, pendingTransitionPoints := [] } :
        FrameScheduler F) = { st.sched with frameQueue := g :: gs } := by rw [← hT]
    rw [hsched] at hadv
    refine PassSpec.again { st with sched := { st.sched with frameQueue := g :: gs } } ?_
      ⟨hwf.dropFront hq fun hne => absurd hT hne, ?_, hT, ?_⟩
    · simp only [finishFrame, hcond, if_true, hlast, List.head?_cons, Option.bind_some, hfirst,
        if_neg hfar]
    · refine ⟨g, gs, rfl, by rw [hfresh.cursor_eq]; exact hsize, hheld,
        iff_of_true ?_ fun h => hfar (hover.mp h).1⟩
      show st.points.length + _ ≤ _
      rw [hempty, List.length_nil]
      omega
    · show Moves A s₀ st.points _
      rw [hempty]
      exact hadv

/-- The end of a frame, where no frame takes over. -/
theorem finishFrame_hold {st : FramePass F} {f : QueuedFrame F} {rest : List (QueuedFrame F)}
    (hq : st.sched.frameQueue = f :: rest) (hend : f.points.length ≤ f.nextPoint)
    (hT : st.sched.pendingTransitionPoints = []) (hwf : Wf st.sched) (hempty : st.points = [])
    (hmax : 0 < request.maximumPointsRequired) (hmoves : Moves A s₀ [] st.sched)
    (hnext : ¬ NextAvailable request t rest)
    (hsilent : request.blankFramePointCount = 0 →
      HoldExpired maxFrameHoldTime (clock st.reads) f → A.silent) :
    PassSpec (finishFrame request t maxFrameHoldTime clock f rest st)
      (ReadyToCopy A s₀ request t (BridgeOverflows request t f rest))
      (FramePost A s₀ request (BridgeOverflows request t f rest)) := by
  have hok := hwf.front f rest hq
  have hend' : f.nextPoint = f.points.length := le_antisymm hok.cursor_le hend
  have hpos := hok.playCount_pos hend
  have hsize := List.length_pos_iff.mpr hok.points_ne
  have hover : ¬ BridgeOverflows request t f rest := fun h => hnext h.2.1
  have hcond : ¬ (!rest.isEmpty &&
      (request.advanceWhenAvailable || nextIsDueAt rest t)) = true := hnext
  have hsched : ({ st.sched with pendingTransitionPoints := [] } : FrameScheduler F) =
      st.sched := by rw [← hT]
  unfold finishFrame
  rw [if_neg hcond]
  split
  · -- the frame was held too long
    rename_i hhold
    refine PassSpec.done _ rfl ⟨?_, iff_of_true ?_ hover⟩
    · have hblank := hmoves.tail (Move.expire
        (min request.blankFramePointCount request.maximumPointsRequired) ?_ hq hT hend')
      · exact hblank
      · rcases Nat.eq_zero_or_pos request.blankFramePointCount with h0 | h0
        · exact Or.inr ⟨hsilent h0 hhold, rfl⟩
        · exact Or.inl (by omega)
    · rw [length_loadBlankFrame]
      omega
  · split
    · refine PassSpec.done _ rfl ⟨?_, iff_of_true ?_ hover⟩
      · show Moves A s₀ st.points st.sched
        rw [hempty]
        exact hmoves
      · show st.points.length ≤ _
        rw [hempty, List.length_nil]
        omega
    · -- the frame starts over
      set f' : QueuedFrame F := { f with nextPoint := 0 } with hf'
      have hre : Restarted f f' := ⟨rfl, rfl, rfl, hpos⟩
      have hrestart := hmoves.quiet (Move.restart (T := []) hq hT hend' hre (Or.inl rfl))
      have hwf' : Wf { st.sched with frameQueue := f' :: rest } :=
        hwf.replaceFront hq ⟨hok.points_ne, Nat.zero_le _, fun _ => rfl⟩ rfl rfl fun _ => rfl
      refine PassSpec.again _ rfl ⟨hwf', ?_, hT, ?_⟩
      · refine ⟨f', rest, rfl, hsize, fun h => ?_, iff_of_true ?_ hover⟩
        · have h0 : f.playCount = 0 := h.1
          omega
        · show st.points.length + _ ≤ _
          rw [hempty, List.length_nil]
          omega
      · show Moves A s₀ st.points _
        rw [hempty]
        have : ({ st.sched with frameQueue := f' :: rest, pendingTransitionPoints := [] } :
          FrameScheduler F) = { st.sched with frameQueue := f' :: rest } := by rw [← hT]
        rw [← this]
        exact hrestart

/-- A pass over a finished front frame, and the pass that may follow it. -/
theorem fillFramePass_finish (t : TimePoint) (maxFrameHoldTime : Duration)
    (clock : ℕ → TimePoint) (n : ℕ) {st : FramePass F} {f : QueuedFrame F}
    {rest : List (QueuedFrame F)} (hq : st.sched.frameQueue = f :: rest)
    (hend : f.points.length ≤ f.nextPoint) (hT : st.sched.pendingTransitionPoints = [])
    (hwf : Wf st.sched) (hempty : st.points = []) (hmax : 0 < request.maximumPointsRequired)
    (hmoves : Moves A s₀ [] st.sched)
    (hsilent : request.blankFramePointCount = 0 → ¬ NextAvailable request t rest →
      HoldExpired maxFrameHoldTime (clock st.reads) f → A.silent) :
    ∃ r, run (fillFramePass request t maxFrameHoldTime clock) (n + 2) st = some r ∧
      FramePost A s₀ request (BridgeOverflows request t f rest) r := by
  have hpos := (hwf.front f rest hq).playCount_pos hend
  have hheld : ¬ (f.playCount = 0 ∧ f.nextPoint = 0 ∧ !request.advanceWhenAvailable ∧
      !frameIsDueAt f t) := by
    rintro ⟨h0, -⟩
    omega
  have hpass : fillFramePass request t maxFrameHoldTime clock st =
      finishFrame request t maxFrameHoldTime clock f rest st := by
    simp only [fillFramePass, hq, if_neg hheld, if_pos hend]
  have hfinish : PassSpec (finishFrame request t maxFrameHoldTime clock f rest st)
      (ReadyToCopy A s₀ request t (BridgeOverflows request t f rest))
      (FramePost A s₀ request (BridgeOverflows request t f rest)) := by
    by_cases hnext : NextAvailable request t rest
    · obtain ⟨g, gs, rfl⟩ : ∃ g gs, rest = g :: gs := by
        cases rest with
        | nil => simp [NextAvailable] at hnext
        | cons g gs => exact ⟨g, gs, rfl⟩
      exact finishFrame_next hq hend hT hwf hempty hmoves hnext
    · exact finishFrame_hold hq hend hT hwf hempty hmax hmoves hnext
        fun h0 hhold => hsilent h0 hnext hhold
  rw [← hpass] at hfinish
  rcases hfinish with ⟨st', hagain, hready⟩ | ⟨r, hdone, hpost⟩
  · obtain ⟨r, hcopy, hpost⟩ := fillFramePass_copy maxFrameHoldTime clock hready hmax
    exact ⟨r, by simp only [run, hagain, hcopy], hpost⟩
  · exact ⟨r, by simp only [run, hdone], hpost⟩

theorem chunkOverflows_iff (request : FramePullRequest) (clock : ℕ → TimePoint)
    {s : FrameScheduler F} {front : QueuedFrame F} {rest : List (QueuedFrame F)}
    (h : skipStaleFrames (estimatedRenderTime request.estimatedFirstPointRenderTime clock).1
      (s.frameQueue ++ s.pendingFrames) = front :: rest) :
    ChunkOverflows request clock s ↔
      (0 < s.pendingTransitionPoints.length ∧
        s.pendingTransitionPoints.length < request.maximumPointsRequired ∧
        ¬ FrontHeld request
          (estimatedRenderTime request.estimatedFirstPointRenderTime clock).1 front ∧
        request.maximumPointsRequired < s.pendingTransitionPoints.length + front.points.length) ∨
      (s.pendingTransitionPoints.length = 0 ∧ BridgeOverflows request
        (estimatedRenderTime request.estimatedFirstPointRenderTime clock).1 front rest) := by
  simp only [ChunkOverflows, h]

/-- Transition points that fill the request leave no chunk to overflow. -/
theorem not_chunkOverflows_of_le {s : FrameScheduler F} (hmax : 0 < request.maximumPointsRequired)
    (h : request.maximumPointsRequired ≤ s.pendingTransitionPoints.length) :
    ¬ ChunkOverflows request clock s := by
  simp only [ChunkOverflows]
  split
  · exact id
  · rintro (⟨-, hlt, -⟩ | ⟨h0, -⟩)
    · omega
    · omega

/-- Where the transition points do not fill the request and there is a frame to play, the call is
its loop. -/
theorem fillFrame_eq_run (maxFrameHoldTime : Duration) (clock : ℕ → TimePoint)
    {s s₁ : FrameScheduler F} {o₁ : List (Emitted F)} {front : QueuedFrame F}
    {rest : List (QueuedFrame F)}
    (hopen : s.drainPendingFramesUnsafe.drainPendingTransitionUnsafe []
      request.maximumPointsRequired = (s₁, o₁))
    (hlt : o₁.length < request.maximumPointsRequired) (hne : s₁.frameQueue ≠ [])
    (hq : (s₁.dropStaleFrames
      (estimatedRenderTime request.estimatedFirstPointRenderTime clock).1).frameQueue =
        front :: rest) :
    ∃ n, fillFrame request maxFrameHoldTime clock s =
      run (fillFramePass request
        (estimatedRenderTime request.estimatedFirstPointRenderTime clock).1 maxFrameHoldTime clock)
        (n + 2)
        { sched := s₁.dropStaleFrames
            (estimatedRenderTime request.estimatedFirstPointRenderTime clock).1
          points := o₁
          reads := (estimatedRenderTime request.estimatedFirstPointRenderTime clock).2 } := by
  refine ⟨2 * (front :: rest).length, ?_⟩
  simp only [fillFrame, if_neg (show request.maximumPointsRequired ≠ 0 by omega), hopen, hlt.ne,
    decide_false, Bool.and_false, List.isEmpty_iff, hne, Bool.false_eq_true, if_false, hq]

/-- How a call went whose opening left `s₁` and the transition points `o₁`. -/
inductive FillFrameCase (request : FramePullRequest) (maxFrameHoldTime : Duration)
    (clock : ℕ → TimePoint) (s₁ : FrameScheduler F) (o₁ : List (Emitted F)) :
    FrameScheduler F → OutputFrame F → Prop
  /-- The transition points fill the request. -/
  | full (hfull : o₁.length = request.maximumPointsRequired) :
      FillFrameCase request maxFrameHoldTime clock s₁ o₁ s₁ { points := o₁ }
  /-- There is no frame. -/
  | empty (hlt : o₁.length < request.maximumPointsRequired) (hqueue : s₁.frameQueue = []) :
      FillFrameCase request maxFrameHoldTime clock s₁ o₁ s₁ (loadBlankFrame request)
  /-- The loop ran. -/
  | ran {s' : FrameScheduler F} {frame : OutputFrame F} {front : QueuedFrame F}
      {rest : List (QueuedFrame F)} (hlt : o₁.length < request.maximumPointsRequired)
      (hfront : skipStaleFrames
        (estimatedRenderTime request.estimatedFirstPointRenderTime clock).1 s₁.frameQueue =
          front :: rest) (n : ℕ)
      (hrun : run (fillFramePass request
          (estimatedRenderTime request.estimatedFirstPointRenderTime clock).1 maxFrameHoldTime
            clock) (n + 2)
        { sched := s₁.dropStaleFrames
            (estimatedRenderTime request.estimatedFirstPointRenderTime clock).1
          points := o₁
          reads := (estimatedRenderTime request.estimatedFirstPointRenderTime clock).2 } =
        some (s', frame)) :
      FillFrameCase request maxFrameHoldTime clock s₁ o₁ s' frame

theorem fillFrame_cases {maxFrameHoldTime : Duration} {clock : ℕ → TimePoint}
    {s s₁ s' : FrameScheduler F} {o₁ : List (Emitted F)} {frame : OutputFrame F}
    (hopen : s.drainPendingFramesUnsafe.drainPendingTransitionUnsafe []
      request.maximumPointsRequired = (s₁, o₁))
    (hmax : 0 < request.maximumPointsRequired) (hle : o₁.length ≤ request.maximumPointsRequired)
    (hfill : fillFrame request maxFrameHoldTime clock s = some (s', frame)) :
    FillFrameCase request maxFrameHoldTime clock s₁ o₁ s' frame := by
  rcases hle.eq_or_lt with hfull | hlt
  · have hne : o₁ ≠ [] := List.length_pos_iff.mp (by omega)
    simp only [fillFrame, if_neg hmax.ne', hopen] at hfill
    obtain ⟨rfl, rfl⟩ := Prod.mk.inj
      (Option.some.inj ((if_pos (by simp [hne, hfull])).symm.trans hfill))
    exact .full hfull
  cases hqueue : s₁.frameQueue with
  | nil =>
    simp only [fillFrame, if_neg hmax.ne', hopen, hlt.ne, decide_false, Bool.and_false,
      Bool.false_eq_true, if_false, hqueue, List.isEmpty_nil, if_true, Option.some.injEq,
      Prod.mk.injEq] at hfill
    obtain ⟨rfl, rfl⟩ := hfill
    exact .empty hlt hqueue
  | cons f₀ rest₀ =>
    obtain ⟨front, rest, hfront⟩ := List.exists_cons_of_ne_nil (skipStaleFrames_ne_nil
      (estimatedRenderTime request.estimatedFirstPointRenderTime clock).1 (q := s₁.frameQueue)
      (by simp [hqueue]))
    obtain ⟨n, hrun⟩ := fillFrame_eq_run maxFrameHoldTime clock hopen hlt (by simp [hqueue]) hfront
    rw [hrun] at hfill
    exact .ran hlt hfront n hfill

/-- **The specification of `fillFrame`**: it returns, by moves that skip only where there are stale
frames and leave something behind silently only where the call is a `SilentBlank`; the frame holds
more than the maximum exactly when its chunk overflows. -/
theorem fillFrame_spec (request : FramePullRequest) (maxFrameHoldTime : Duration)
    (clock : ℕ → TimePoint) {s : FrameScheduler F} (hs : Wf s)
    (hskip : ∀ f g, SkipsTo request.maximumPointsRequired
      (estimatedRenderTime request.estimatedFirstPointRenderTime clock).1 s f g → A.skip f g)
    (hsilent : SilentBlank request maxFrameHoldTime clock s → A.silent) :
    ∃ s' frame, fillFrame request maxFrameHoldTime clock s = some (s', frame) ∧
      Moves A s frame.points s' ∧
      (0 < request.maximumPointsRequired →
        (frame.points.length ≤ request.maximumPointsRequired ↔
          ¬ ChunkOverflows request clock s)) := by
  by_cases hmax : request.maximumPointsRequired = 0
  · refine ⟨s.drainPendingFramesUnsafe, {}, by simp only [fillFrame, hmax, if_true],
      (Move.drain s).moves, fun h => ?_⟩
    omega
  obtain ⟨s₁, o₁, hopen, hq₁, hlen₁, ho₁, hT₁, hwf₁, hmoves₁⟩ :=
    opening_spec (A := A) hs request.maximumPointsRequired
  set T := s.pendingTransitionPoints with hT
  by_cases hfull : o₁.length = request.maximumPointsRequired
  · have hne : o₁ ≠ [] := List.length_pos_iff.mp (by omega)
    refine ⟨s₁, { points := o₁ }, ?_, hmoves₁, fun _ => iff_of_true hfull.le ?_⟩
    · simp only [fillFrame, if_neg hmax, hopen]
      exact if_pos (by simp [hne, hfull])
    · exact not_chunkOverflows_of_le (Nat.pos_of_ne_zero hmax) (by rw [← hT]; omega)
  have hTlen : o₁.length = T.length := by omega
  have hlt : T.length < request.maximumPointsRequired := by omega
  have hT₁ := hT₁ (by omega)
  cases hqueue : s₁.frameQueue with
  | nil =>
    have hover : ¬ ChunkOverflows request clock s := by
      rw [ChunkOverflows, ← hq₁, hqueue]
      exact id
    have hTnil : o₁ = [] := by
      by_contra hne
      have hTne : T ≠ [] := fun h => hne (List.length_eq_zero_iff.mp (by rw [hTlen, h]; rfl))
      obtain ⟨f, rest, hf, -⟩ := hs.bridge hTne
      rw [hq₁, hf] at hqueue
      cases hqueue
    refine ⟨s₁, loadBlankFrame request, ?_, ?_, fun _ => iff_of_true ?_ hover⟩
    · simp only [fillFrame, if_neg hmax, hopen, hTnil, List.isEmpty_nil, Bool.not_true,
        Bool.false_and, Bool.false_eq_true, if_false, hqueue, if_true]
    · have hblank := hmoves₁.tail (Move.blank
        (min request.blankFramePointCount request.maximumPointsRequired) hT₁)
      rw [hTnil] at hblank
      exact hblank
    · rw [length_loadBlankFrame]
      omega
  | cons f₀ rest₀ =>
    set t := (estimatedRenderTime request.estimatedFirstPointRenderTime clock).1 with ht
    obtain ⟨front, rest, hfront⟩ := List.exists_cons_of_ne_nil
      (skipStaleFrames_ne_nil t (q := s₁.frameQueue) (by simp [hqueue]))
    have hfront' : skipStaleFrames t (s.frameQueue ++ s.pendingFrames) = front :: rest := by
      rw [← hq₁, hfront]
    -- the state after skipping, with the transition points still in place
    have hkept : Moves A s [] (s.drainPendingFramesUnsafe.dropStaleFrames t) :=
      (Move.drain s).moves.dropStaleFrames t (by simp)
        fun hne f hf g hg => hskip f g ⟨hlt, hne, hf, hg⟩
    have hq₂ : (s₁.dropStaleFrames t).frameQueue = front :: rest := hfront
    have hmoves₂ : Moves A s o₁ (s₁.dropStaleFrames t) :=
      hmoves₁.dropStaleFrames t ho₁
        (by rw [hq₁]; exact fun hne f hf g hg => hskip f g ⟨hlt, hne, hf, hg⟩)
    have hwf₂ := hmoves₂.wf hs
    have hok := hwf₂.front front rest hq₂
    have hsize := List.length_pos_iff.mpr hok.points_ne
    have hcursor : T ≠ [] → front.nextPoint = 0 := by
      intro hne
      obtain ⟨f, gs, hf, h0⟩ := (hkept.wf hs).bridge hne
      obtain ⟨rfl, -⟩ := List.cons.inj (hfront'.symm.trans hf)
      exact h0
    have hsame : s₁.dropStaleFrames t =
        { s.drainPendingFramesUnsafe.dropStaleFrames t with pendingTransitionPoints := [] } := by
      rw [← hT₁, ← (Prod.mk.inj hopen).1]
      rfl
    have hover := chunkOverflows_iff request clock hfront'
    have hsilent' := silentBlank_iff request maxFrameHoldTime clock hfront'
    rw [← ht, ← hT] at hover hsilent'
    set reads := (estimatedRenderTime request.estimatedFirstPointRenderTime clock).2 with hreads
    set st : FramePass F := { sched := s₁.dropStaleFrames t
                              points := o₁
                              reads := reads } with hst
    obtain ⟨n, hfill⟩ := fillFrame_eq_run maxFrameHoldTime clock hopen (by omega)
      (by simp [hqueue]) hq₂
    rw [hfill, ← ht, ← hreads, ← hst]
    by_cases hheld : FrontHeld request t front
    · -- a blank frame takes the place of the transition points that were drained
      have hover' : ¬ ChunkOverflows request clock s := by
        rw [hover]
        rintro (⟨-, -, hnot, -⟩ | ⟨-, hend, -⟩)
        · exact hnot hheld
        · have := hheld.2.1
          omega
      refine ⟨s₁.dropStaleFrames t, loadBlankFrame request, ?_, ?_,
        fun _ => iff_of_true ?_ hover'⟩
      · have hheld' : front.playCount = 0 ∧ front.nextPoint = 0 ∧ !request.advanceWhenAvailable ∧
            !frameIsDueAt front t := hheld
        simp only [run, fillFramePass, hst, hq₂, if_pos hheld']
      · by_cases hTnil : T = []
        · have ho₁ : o₁ = [] := List.length_eq_zero_iff.mp (by rw [hTlen, hTnil]; rfl)
          rw [ho₁] at hmoves₂
          exact hmoves₂.tail (Move.blank
            (min request.blankFramePointCount request.maximumPointsRequired) hT₁)
        · have hlicence : 0 < min request.blankFramePointCount request.maximumPointsRequired ∨
              A.silent ∧ ([] : List (Emitted F)) = [] := by
            rcases Nat.eq_zero_or_pos request.blankFramePointCount with h0 | h0
            · exact Or.inr ⟨hsilent (hsilent'.mpr ⟨h0, hlt, Or.inl ⟨hTnil, hheld⟩⟩), rfl⟩
            · exact Or.inl (by omega)
          rw [hsame]
          exact hkept.tail (Move.discard _ _ hlicence)
      · rw [length_loadBlankFrame]
        omega
    · by_cases hend : front.points.length ≤ front.nextPoint
      · -- no transition is left over in front of a finished frame
        have hTnil : T = [] := by
          by_contra hne
          have := hcursor hne
          omega
        have ho₁ : o₁ = [] := List.length_eq_zero_iff.mp (by rw [hTlen, hTnil]; rfl)
        obtain ⟨⟨s', frame⟩, hrun, hpost⟩ := fillFramePass_finish t maxFrameHoldTime clock n
          (show st.sched.frameQueue = front :: rest from hq₂) hend hT₁ hwf₂ ho₁
          (Nat.pos_of_ne_zero hmax) (ho₁ ▸ hmoves₂)
          fun h0 hnext hhold => hsilent (hsilent'.mpr ⟨h0, hlt, Or.inr ⟨hend, hnext, hhold⟩⟩)
        refine ⟨s', frame, hrun, hpost.moves, fun _ => hpost.bound.trans (not_congr ?_)⟩
        rw [hover]
        simp [hTnil]
      · have hready : ReadyToCopy A s request t (ChunkOverflows request clock s) st := by
          refine ⟨hwf₂, ⟨front, rest, hq₂, by omega, hheld, ?_⟩, hT₁, hmoves₂⟩
          show o₁.length + _ ≤ _ ↔ _
          rw [hover, hTlen]
          by_cases hTnil : T = []
          · refine iff_of_true ?_ (by simp [hTnil, BridgeOverflows, hend])
            rw [hTnil, List.length_nil]
            omega
          · have hpos := List.length_pos_iff.mpr hTnil
            have hlt : T.length < request.maximumPointsRequired := by omega
            simp only [hpos, hlt, hheld, not_false_iff, true_and, hcursor hTnil, Nat.sub_zero,
              hpos.ne', false_and, or_false]
            omega
        obtain ⟨⟨s', frame⟩, hcopy, hpost⟩ := fillFramePass_copy maxFrameHoldTime clock hready
          (Nat.pos_of_ne_zero hmax)
        exact ⟨s', frame, by simp only [run, hcopy], hpost.moves, fun _ => hpost.bound⟩

end LiberaLaser.FrameScheduler
