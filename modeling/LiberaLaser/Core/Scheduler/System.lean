import LiberaLaser.Core.Scheduler.FillFrame
import LiberaLaser.Foundations.Runs

/-!
# The scheduler as a system

The scheduler's mutex makes every call one step of the system, whichever thread makes it. Frames
are submitted with the default playback fields; request sizes, times and clocks are arbitrary.
Every call returns in every reachable state (`step_total`), and the fill calls
do so by moves (`step_cases`).
-/

namespace LiberaLaser.FrameScheduler

open FloatArith Runs

/-- A call of the scheduler's interface. -/
inductive Call (F : Type)
  | enqueueFrame (points : List (LaserPoint F)) (time : TimePoint)
  | tryEnqueueFrameIfReady (points : List (LaserPoint F)) (time : TimePoint)
      (queuedPointBudget minimumQueuedPointsPerFrame : ℕ) (lockFree : Bool)
  | fillPoints (request : PointFillRequest) (pointRateValue : ℕ) (maxFrameHoldTime : Duration)
      (clock : ℕ → TimePoint)
  | fillFrame (request : FramePullRequest) (maxFrameHoldTime : Duration) (clock : ℕ → TimePoint)
  | reset

variable {F : Type} [FloatArith F]

/-- A call as a step of the system. It observes the points a fill call hands out. -/
def step (D : Type) [FloatArith D] (s : FrameScheduler F) :
    Call F → Option (FrameScheduler F × List (Emitted F))
  | .enqueueFrame points time =>
    some ((s.enqueueFrame { points := points, time := time }).1, [])
  | .tryEnqueueFrameIfReady points time budget floor lockFree =>
    some ((s.tryEnqueueFrameIfReady { points := points, time := time } budget floor lockFree).1, [])
  | .fillPoints request pointRateValue maxFrameHoldTime clock =>
    s.fillPoints D request pointRateValue maxFrameHoldTime clock
  | .fillFrame request maxFrameHoldTime clock =>
    match s.fillFrame request maxFrameHoldTime clock with
    | none => none
    | some (s', frame) => some (s', frame.points)
  | .reset => some (s.reset, [])

/-- The call skips stale frames from `f` on, and `g` takes over. -/
def Skips (s : FrameScheduler F) (f g : QueuedFrame F) : Call F → Prop
  | .fillPoints request _ _ clock =>
    SkipsTo request.maximumPointsRequired
      (estimatedRenderTime request.estimatedFirstPointRenderTime clock).1 s f g
  | .fillFrame request _ clock =>
    SkipsTo request.maximumPointsRequired
      (estimatedRenderTime request.estimatedFirstPointRenderTime clock).1 s f g
  | _ => False

/-- The call leaves a frame or a transition behind without a blank point in its place. -/
def LeavesSilently (s : FrameScheduler F) : Call F → Prop
  | .fillFrame request maxFrameHoldTime clock => SilentBlank request maxFrameHoldTime clock s
  | _ => False

/-- **What a call can do**: a submission emits nothing, a fill call makes moves, and a reset clears
the scheduler. -/
theorem step_cases {D : Type} [FloatArith D] {A : Licence F} {s s' : FrameScheduler F}
    {call : Call F} {o : List (Emitted F)} (hs : Wf s)
    (hskip : ∀ f g, Skips s f g call → A.skip f g)
    (hsilent : LeavesSilently s call → A.silent) (h : step D s call = some (s', o)) :
    (Submits s s' ∧ o = []) ∨ Moves A s o s' ∨ (call = .reset ∧ s' = s.reset ∧ o = []) := by
  cases call with
  | enqueueFrame points time =>
    simp only [step, Option.some.injEq, Prod.mk.injEq] at h
    obtain ⟨rfl, rfl⟩ := h
    exact Or.inl ⟨(mayAccept_enqueueFrame _ s).submits, rfl⟩
  | tryEnqueueFrameIfReady points time budget floor lockFree =>
    simp only [step, Option.some.injEq, Prod.mk.injEq] at h
    obtain ⟨rfl, rfl⟩ := h
    exact Or.inl ⟨(mayAccept_tryEnqueueFrameIfReady _ budget floor lockFree s).submits, rfl⟩
  | fillPoints request rate hold clock =>
    obtain ⟨s₁, out, hfill, -, hmoves, -⟩ := fillPoints_spec D request rate hold clock hs hskip
    rw [step, hfill, Option.some.injEq, Prod.mk.injEq] at h
    obtain ⟨rfl, rfl⟩ := h
    exact Or.inr (Or.inl hmoves)
  | fillFrame request hold clock =>
    obtain ⟨s₁, frame, hfill, hmoves, -⟩ := fillFrame_spec request hold clock hs hskip hsilent
    simp only [step, hfill, Option.some.injEq, Prod.mk.injEq] at h
    obtain ⟨rfl, rfl⟩ := h
    exact Or.inr (Or.inl hmoves)
  | reset =>
    simp only [step, Option.some.injEq, Prod.mk.injEq] at h
    obtain ⟨rfl, rfl⟩ := h
    exact Or.inr (Or.inr ⟨rfl, rfl, rfl⟩)

theorem step_wf {D : Type} [FloatArith D] {s s' : FrameScheduler F} {call : Call F}
    {o : List (Emitted F)} (hs : Wf s) (h : step D s call = some (s', o)) : Wf s' := by
  rcases step_cases (A := .all) hs (fun _ _ _ => trivial) (fun _ => trivial) h with
    ⟨hsub, -⟩ | hmoves | ⟨-, rfl, -⟩
  · exact hsub.wf hs
  · exact hmoves.wf hs
  · exact wf_reset s

/-- **Every call returns** from a state satisfying the invariant, and keeps it. -/
theorem step_total (D : Type) [FloatArith D] {s : FrameScheduler F} (hs : Wf s) (call : Call F) :
    ∃ s' o, step D s call = some (s', o) ∧ Wf s' := by
  have hreturns : ∃ s' o, step D s call = some (s', o) := by
    cases call with
    | enqueueFrame points time => exact ⟨_, _, rfl⟩
    | tryEnqueueFrameIfReady points time budget floor lockFree => exact ⟨_, _, rfl⟩
    | fillPoints request rate hold clock =>
      obtain ⟨s', out, hfill, -⟩ :=
        fillPoints_spec (A := .all) D request rate hold clock hs fun _ _ _ => trivial
      exact ⟨s', out, hfill⟩
    | fillFrame request hold clock =>
      obtain ⟨s', frame, hfill, -⟩ := fillFrame_spec (A := .all) request hold clock hs
        (fun _ _ _ => trivial) (fun _ => trivial)
      exact ⟨s', frame.points, by simp only [step, hfill]⟩
    | reset => exact ⟨_, _, rfl⟩
  obtain ⟨s', o, h⟩ := hreturns
  exact ⟨s', o, h, step_wf hs h⟩

/-- A state that some sequence of calls of a fresh scheduler leads to. -/
def Reachable (D : Type) [FloatArith D] (s : FrameScheduler F) : Prop :=
  Runs.Reachable (step D) {} s

/-- **The invariant holds in every reachable state.** -/
theorem Reachable.wf {D : Type} [FloatArith D] {s : FrameScheduler F} (h : Reachable D s) : Wf s :=
  Runs.Reachable.invariant h wf_init fun _ _ _ _ => step_wf

/-- **The loops are safe and end**: whatever is called, every call returns, and leaves the frames in
order. -/
theorem calls_return (D : Type) [FloatArith D] (calls : List (Call F)) :
    ∃ s o, run (step D) {} calls = some (s, o) ∧ FramesOk s := by
  obtain ⟨s, o, hrun, hs⟩ := run_total (fun _ call hs => step_total D hs call) wf_init calls
  exact ⟨s, o, hrun, hs.framesOk⟩

/-- The points of a frame that stays at `x` in the plane. -/
def pointsAt (x : ℚ) (count : ℕ) : List (LaserPoint ℚ) :=
  List.replicate count { (default : LaserPoint ℚ) with x := x, r := 1 }

end LiberaLaser.FrameScheduler
