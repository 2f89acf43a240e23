import LiberaLaser.Core.Scheduler.Invariant

/-!
# The moves of the scheduler

Both fill functions walk the queue by the same few moves: they play points of the front frame, go
on to the next frame, start the front frame over, let it go, skip a stale frame, and emit
transition points and blanks. A fill call is a sequence of moves (`fillPoints_spec` and
`fillFrame_spec`, in the modules of the two functions), so an invariant of the queue and of the
output is proved of each move once and holds of both functions.

Two moves need a licence: skipping stale frames, which a call does before it emits any content, and
leaving a frame or a transition behind without a single blank point in its place, which a call does
only where it emits nothing at all.
-/

namespace LiberaLaser.FrameScheduler

variable {F : Type}

/-- What a call may do beyond the ordinary moves: skip stale frames from one on until another is
left, and leave something behind without a blank point. -/
structure Licence (F : Type) where
  skip : QueuedFrame F → QueuedFrame F → Prop
  silent : Prop

/-- The licence for everything. -/
def Licence.all : Licence F := ⟨fun _ _ => True, True⟩

/-- Transition points on their way to the output. -/
def transitions (points : List (LaserPoint F)) : List (Emitted F) :=
  points.map (⟨.transition, ·⟩)

theorem stamp_of_mem_transitions {points : List (LaserPoint F)} {p : Emitted F}
    (hp : p ∈ transitions points) : p.stamp = .transition := by
  obtain ⟨q, -, rfl⟩ := List.mem_map.mp hp
  rfl

variable [FloatArith F]

/-- `f'` is `f` with `k` more points played. -/
structure Played (f f' : QueuedFrame F) (k : ℕ) : Prop where
  points : f'.points = f.points
  serial : f'.serial = f.serial
  nextPoint : f'.nextPoint = f.nextPoint + k
  playCount : 0 < f'.playCount

/-- `f'` is `f` back at its first point. -/
structure Restarted (f f' : QueuedFrame F) : Prop where
  points : f'.points = f.points
  serial : f'.serial = f.serial
  nextPoint : f'.nextPoint = 0
  playCount : 0 < f'.playCount

/-- `count` blank points. -/
def blanks (count : ℕ) : List (Emitted F) := List.replicate count ⟨.blank, blankPoint⟩

/-- What bridges the jump from the end of one frame to the start of another. -/
def bridge (lastPoint firstPoint : LaserPoint F) : List (LaserPoint F) :=
  if farApart lastPoint firstPoint then generateTransitionPoints lastPoint firstPoint else []

/-- One move of a call that has emitted `sofar`, with the points it emits. -/
inductive Move (A : Licence F) (sofar : List (Emitted F)) :
    FrameScheduler F → List (Emitted F) → FrameScheduler F → Prop
  /-- The pending frames join the queue. -/
  | drain (s : FrameScheduler F) : Move A sofar s [] s.drainPendingFramesUnsafe
  /-- Transition points are emitted. -/
  | transition (s : FrameScheduler F) (k : ℕ) :
      Move A sofar s (transitions (s.pendingTransitionPoints.take k))
        { s with pendingTransitionPoints := s.pendingTransitionPoints.drop k }
  /-- Stale frames are dropped from the front. -/
  | skip {s : FrameScheduler F} {dropped : List (QueuedFrame F)} {g : QueuedFrame F}
      {rest : List (QueuedFrame F)} (hA : ∀ f ∈ dropped.head?, A.skip f g)
      (hsofar : ∀ p ∈ sofar, p.stamp = .transition) (hq : s.frameQueue = dropped ++ g :: rest)
      (hplay : ∀ f ∈ dropped, f.playCount = 0) :
      Move A sofar s []
        { s with frameQueue := g :: rest, skipped := s.skipped ++ dropped.map (·.serial) }
  /-- Blank padding is emitted. -/
  | blank {s : FrameScheduler F} (n : ℕ) (hT : s.pendingTransitionPoints = []) :
      Move A sofar s (blanks n) s
  /-- Points of the front frame are emitted. -/
  | play {s : FrameScheduler F} {f f' : QueuedFrame F} {rest : List (QueuedFrame F)} {k : ℕ}
      (hq : s.frameQueue = f :: rest) (hT : s.pendingTransitionPoints = [])
      (hk : f.nextPoint + k ≤ f.points.length) (hfirst : f.playCount = 0 → 0 < k)
      (hf' : Played f f' k) :
      Move A sofar s (f.chunk k) { s with frameQueue := f' :: rest }
  /-- The next frame takes over from a finished one. -/
  | advance {s : FrameScheduler F} {f g : QueuedFrame F} {rest : List (QueuedFrame F)}
      {lastPoint firstPoint : LaserPoint F} (hq : s.frameQueue = f :: g :: rest)
      (hT : s.pendingTransitionPoints = []) (hend : f.nextPoint = f.points.length)
      (hlast : f.points.getLast? = some lastPoint) (hfirst : g.points.head? = some firstPoint) :
      Move A sofar s []
        { s with
          frameQueue := g :: rest
          pendingTransitionPoints := bridge lastPoint firstPoint }
  /-- A finished frame starts over. -/
  | restart {s : FrameScheduler F} {f f' : QueuedFrame F} {rest : List (QueuedFrame F)}
      {T : List (LaserPoint F)} (hq : s.frameQueue = f :: rest)
      (hT : s.pendingTransitionPoints = []) (hend : f.nextPoint = f.points.length)
      (hf' : Restarted f f') (hbridge : T = [] ∨ ∃ lastPoint firstPoint,
        f.points.getLast? = some lastPoint ∧ f.points.head? = some firstPoint ∧
          T = generateTransitionPoints lastPoint firstPoint) :
      Move A sofar s [] { s with frameQueue := f' :: rest, pendingTransitionPoints := T }
  /-- A finished frame is let go, and blank points take its place. -/
  | expire {s : FrameScheduler F} {f : QueuedFrame F} {rest : List (QueuedFrame F)} (n : ℕ)
      (hn : 0 < n ∨ A.silent ∧ sofar = []) (hq : s.frameQueue = f :: rest)
      (hT : s.pendingTransitionPoints = []) (hend : f.nextPoint = f.points.length) :
      Move A sofar s (blanks n) { s with frameQueue := rest }
  /-- Blank points replace the rest of a transition. -/
  | discard (s : FrameScheduler F) (n : ℕ) (hn : 0 < n ∨ A.silent ∧ sofar = []) :
      Move A sofar s (blanks n) { s with pendingTransitionPoints := [] }

/-- A sequence of moves, with everything it emits. -/
inductive Moves (A : Licence F) : FrameScheduler F → List (Emitted F) → FrameScheduler F → Prop
  | refl (s : FrameScheduler F) : Moves A s [] s
  | tail {s s' s'' : FrameScheduler F} {o o' : List (Emitted F)} (h : Moves A s o s')
      (hmove : Move A o s' o' s'') : Moves A s (o ++ o') s''

theorem Move.moves {A : Licence F} {s s' : FrameScheduler F} {o : List (Emitted F)}
    (h : Move A [] s o s') : Moves A s o s' := by
  simpa using Moves.tail (Moves.refl s) h

/-- A move that emits nothing. -/
theorem Moves.quiet {A : Licence F} {s s' s'' : FrameScheduler F} {o : List (Emitted F)}
    (h : Moves A s o s') (hmove : Move A o s' [] s'') : Moves A s o s'' := by
  simpa using h.tail hmove

/-- **What every move preserves, a sequence of moves preserves**, where the invariant may speak of
everything emitted so far. -/
theorem Moves.invariant {A : Licence F} {I : List (Emitted F) → FrameScheduler F → Prop}
    (tr : List (Emitted F))
    (hmove : ∀ sofar s o s', I (tr ++ sofar) s → Move A sofar s o s' → I (tr ++ (sofar ++ o)) s')
    {o : List (Emitted F)} {s s' : FrameScheduler F} (hs : I tr s) (h : Moves A s o s') :
    I (tr ++ o) s' := by
  induction h with
  | refl => simpa using hs
  | tail h hm ih => exact hmove _ _ _ _ ih hm

/-! ## Moves keep the invariant -/

theorem Move.wf {A : Licence F} {s s' : FrameScheduler F} {sofar o : List (Emitted F)} (h : Wf s)
    (hm : Move A sofar s o s') : Wf s' := by
  cases hm with
  | drain => exact h.drainPendingFrames
  | transition k =>
    refine h.setTransition fun hne hnil => hne ?_
    simp [hnil]
  | skip hA hsofar hq hplay =>
    exact (h.dropFrames hq).setSkipped _
  | blank n hT => exact h
  | play hq hT hk hfirst hf' =>
    have hok := h.front _ _ hq
    refine h.replaceFront hq ⟨?_, ?_, ?_⟩ hf'.points hf'.serial fun hne => absurd hT hne
    · rw [hf'.points]; exact hok.points_ne
    · rw [hf'.points, hf'.nextPoint]; exact hk
    · intro h0
      have := hf'.playCount
      omega
  | advance hq hT hend hlast hfirst => exact h.dropFront hq fun _ => by simp
  | restart hq hT hend hf' hbridge =>
    have hok := h.front _ _ hq
    refine h.replaceFront hq ⟨?_, ?_, fun _ => hf'.nextPoint⟩ hf'.points hf'.serial
      fun _ => hf'.nextPoint
    · rw [hf'.points]; exact hok.points_ne
    · rw [hf'.nextPoint]; exact Nat.zero_le _
  | expire n hn hq hT hend => exact h.dropFront hq fun hne => absurd hT hne
  | discard n hn => exact h.setTransition fun hne => absurd rfl hne

theorem Moves.wf {A : Licence F} {s s' : FrameScheduler F} {o : List (Emitted F)} (h : Wf s)
    (hm : Moves A s o s') : Wf s' :=
  Moves.invariant (I := fun _ s => Wf s) [] (fun _ _ _ _ hs hm => hm.wf hs) h hm

/-! ## The pieces of the fill functions as moves -/

theorem appendBlankPoints_eq (buffer : List (Emitted F)) (n : ℕ) :
    appendBlankPoints buffer n = buffer ++ blanks n := rfl

theorem length_blanks (n : ℕ) : (blanks n : List (Emitted F)).length = n := List.length_replicate

theorem length_generateTransitionPoints (a b : LaserPoint F) :
    (generateTransitionPoints a b).length = transitionPointCount a b := by
  simp [generateTransitionPoints]

theorem generateTransitionPoints_ne_nil (a b : LaserPoint F) :
    generateTransitionPoints a b ≠ [] := by
  have h : 2 ≤ transitionPointCount a b := Nat.le_max_right _ _
  intro hnil
  have := length_generateTransitionPoints a b
  rw [hnil, List.length_nil] at this
  omega

/-- Skipping the stale frames is a move, and no move at all where there are none. -/
theorem Moves.dropStaleFrames {A : Licence F} (t : TimePoint) {s s' : FrameScheduler F}
    {o : List (Emitted F)} (h : Moves A s o s') (ho : ∀ p ∈ o, p.stamp = .transition)
    (hA : skipStaleFrames t s'.frameQueue ≠ s'.frameQueue → ∀ f ∈ s'.frameQueue.head?,
      ∀ g ∈ (skipStaleFrames t s'.frameQueue).head?, A.skip f g) :
    Moves A s o (s'.dropStaleFrames t) := by
  obtain ⟨dropped, hq, hserials, hfresh⟩ := skipStaleFrames_spec t s'.frameQueue
  by_cases hsame : skipStaleFrames t s'.frameQueue = s'.frameQueue
  · have hnone : dropped = [] := by
      rw [hsame] at hq
      simpa using hq
    rw [FrameScheduler.dropStaleFrames, hsame, hserials, hnone, List.map_nil, List.append_nil]
    exact h
  · obtain ⟨g, rest, hleft⟩ := List.exists_cons_of_ne_nil (skipStaleFrames_ne_nil t
      (q := s'.frameQueue) fun hnil => hsame (by rw [hnil, skipStaleFrames]))
    rw [FrameScheduler.dropStaleFrames, hserials, hleft]
    refine h.quiet (Move.skip (fun f hf => hA hsame f ?_ g ?_) ho (hleft ▸ hq) hfresh)
    · rw [hq, List.head?_append, Option.mem_def.mp hf]
      rfl
    · rw [hleft]
      rfl

/-- A request for up to `maxPoints` points skips stale frames from `f` on, and `g` takes over.
Transition points that fill the request end the call before. -/
def SkipsTo (maxPoints : ℕ) (t : TimePoint) (s : FrameScheduler F) (f g : QueuedFrame F) : Prop :=
  s.pendingTransitionPoints.length < maxPoints ∧
    skipStaleFrames t (s.frameQueue ++ s.pendingFrames) ≠ s.frameQueue ++ s.pendingFrames ∧
    f ∈ (s.frameQueue ++ s.pendingFrames).head? ∧
    g ∈ (skipStaleFrames t (s.frameQueue ++ s.pendingFrames)).head?

/-- The frame to be played next was never played and is not due. -/
def heldBack (t : TimePoint) (s : FrameScheduler F) : Bool :=
  match skipStaleFrames t (s.frameQueue ++ s.pendingFrames) with
  | [] => false
  | front :: _ => front.playCount = 0 && !frameIsDueAt front t

/-- **The opening of a fill call**: the pending frames join the queue, and the transition points
left over are drained. Unless they fill the request, they are all drained. -/
theorem opening_spec {A : Licence F} {s : FrameScheduler F} (hs : Wf s) (maxPoints : ℕ) :
    ∃ s₁ o₁, s.drainPendingFramesUnsafe.drainPendingTransitionUnsafe [] maxPoints = (s₁, o₁) ∧
      s₁.frameQueue = s.frameQueue ++ s.pendingFrames ∧
      o₁.length = min maxPoints s.pendingTransitionPoints.length ∧
      (∀ p ∈ o₁, p.stamp = .transition) ∧
      (o₁.length < maxPoints → s₁.pendingTransitionPoints = []) ∧ Wf s₁ ∧ Moves A s o₁ s₁ := by
  set T := s.pendingTransitionPoints with hT
  set k := min maxPoints T.length with hk
  have hmoves : Moves A s (transitions (T.take k))
      { s.drainPendingFramesUnsafe with pendingTransitionPoints := T.drop k } :=
    (Move.drain s).moves.tail (Move.transition s.drainPendingFramesUnsafe k)
  have hlen : (transitions (T.take k) : List (Emitted F)).length = k := by
    simp only [transitions, List.length_map, List.length_take]
    omega
  refine ⟨_, _, rfl, rfl, hlen, fun p hp => stamp_of_mem_transitions hp, fun hlt => ?_,
    hmoves.wf hs, hmoves⟩
  have hlt : (transitions (T.take k) : List (Emitted F)).length < maxPoints := hlt
  exact List.drop_eq_nil_of_le (by show T.length ≤ k; omega)

end LiberaLaser.FrameScheduler
