import LiberaLaser.Core.Streaming.PostProcess
import LiberaLaser.Foundations.Runs

/-!
# Arming beside the output worker

One worker passes batch after batch through `postProcessOutputPoints`, while any number of
application threads call `setArmed`, `setScannerSync` and `setPointRate`. The shared state is a
handful of atomics and a delay line under a mutex, so a pass is four steps and a call of `setArmed`
two, and the steps of all parties interleave freely.
-/

namespace LiberaLaser

/-- Where the worker stands in `postProcessOutputPoints`. -/
inductive WorkerPass (F : Type)
  | idle
  /-- The startup counter is loaded. -/
  | blanking (points : List (LaserPoint F)) (loaded : ℕ)
  /-- The first points are blanked and the counter is stored. -/
  | blanked (points : List (LaserPoint F)) (loaded : ℕ)
  /-- The armed flag is loaded, and the points of a disarmed controller are parked. -/
  | armedLoaded (points : List (LaserPoint F)) (wasArmed : Bool)
  deriving DecidableEq

/-- The points of a pass that loaded the flag as armed. -/
def WorkerPass.armedPoints {F : Type} : WorkerPass F → Option (List (LaserPoint F))
  | .armedLoaded points true => some points
  | _ => none

/-- A call of `setArmed` between its exchange and its return. `superseded` is a history variable:
a later call has armed the controller. -/
structure ArmCall where
  state : Bool
  wasArmed : Bool
  superseded : Bool := false
  deriving DecidableEq

/-- The output stage, the worker and the calls of `setArmed` in progress, by thread. The last two
fields are history variables: a disarm has returned and nothing has armed the controller since;
and the controller was armed and no startup reset was made since. -/
structure Arming (F D : Type) where
  stage : OutputStage F D
  worker : WorkerPass F := .idle
  calls : ℕ → Option ArmCall := fun _ => none
  settled : Bool := false
  stale : Bool := false

/-- The atomic steps of the worker and of the application threads. -/
inductive ArmingStep (F D : Type)
  | begin (points : List (LaserPoint F))
  | storeCounter
  | loadArmed
  | delayLine
  | exchange (thread : ℕ) (state : Bool)
  | reset (thread : ℕ)
  | setScannerSync (offsetTenThousandths : D)
  | setPointRate (pointRateValue : ℕ)
  deriving DecidableEq

/-- What a run shows: the flag going from disarmed to armed, what a pass loads, and the batches
that leave the worker. -/
inductive ArmingEvent (F : Type)
  | armed
  | loaded (wasArmed : Bool)
  | batch (points : List (LaserPoint F))
  deriving DecidableEq

namespace Arming

open OutputStage

variable {F D : Type}

/-- The exchange of the armed flag at the start of a call. -/
def exchangeArmed (s : Arming F D) (thread : ℕ) (state : Bool) : Arming F D :=
  let wasArmed := s.stage.armed
  { s with
    stage := { s.stage with armed := state }
    calls := fun u =>
      if u = thread then some { state := state, wasArmed := wasArmed }
      else (s.calls u).map fun call => { call with superseded := call.superseded || state }
    settled := s.settled && !state
    stale := s.stale || (state && !wasArmed) }

variable [FloatArith D]

/-- What a call does to the output stage after the exchange. -/
def resetFor (call : ArmCall) (stage : OutputStage F D) : OutputStage F D :=
  if call.state && !call.wasArmed then stage.resetStartupBlank
  else if !call.state && call.wasArmed then stage.resetShutdownBlank
  else stage

/-- The rest of a call after the exchange. -/
def finishCall (s : Arming F D) (thread : ℕ) (call : ArmCall) : Arming F D :=
  { s with
    stage := resetFor call s.stage
    calls := fun u => if u = thread then none else s.calls u
    settled := s.settled || (!call.state && !call.superseded)
    stale := s.stale && !(call.state && !call.wasArmed) }

@[simp] theorem resetFor_armed (call : ArmCall) (stage : OutputStage F D) :
    (resetFor call stage).armed = stage.armed := by
  unfold resetFor
  split
  · rfl
  · split <;> rfl

@[simp] theorem resetFor_pointRate (call : ArmCall) (stage : OutputStage F D) :
    (resetFor call stage).pointRate = stage.pointRate := by
  unfold resetFor
  split
  · rfl
  · split <;> rfl

theorem resetFor_counter (call : ArmCall) (stage : OutputStage F D) :
    (resetFor call stage).startupBlankPointsRemaining =
      if call.state && !call.wasArmed then stage.startupBlankPoints
      else stage.startupBlankPointsRemaining := by
  unfold resetFor
  split
  · rfl
  · split <;> rfl

variable [FloatArith F]

/-- A call leaves the line as it is or clears it. -/
theorem lineDark_resetFor {call : ArmCall} {stage : OutputStage F D}
    (h : call.state = call.wasArmed → stage.LineDark) : (resetFor call stage).LineDark := by
  unfold resetFor
  split
  · simp [LineDark, resetStartupBlank]
  · split
    · simp [LineDark, resetShutdownBlank]
    · rename_i hup hdown
      refine h ?_
      cases hstate : call.state <;> cases hwas : call.wasArmed <;> simp_all

/-- One step of a party. A step is enabled where its party stands before it. -/
def step (s : Arming F D) : ArmingStep F D → Option (Arming F D × List (ArmingEvent F))
  | .begin points =>
    match s.worker with
    | .idle =>
      some ({ s with worker := .blanking points s.stage.startupBlankPointsRemaining }, [])
    | _ => none
  | .storeCounter =>
    match s.worker with
    | .blanking points loaded =>
      let (points, remaining) := blankFirst loaded points
      some ({ s with
        stage := s.stage.storeStartupBlank loaded remaining
        worker := .blanked points loaded }, [])
    | _ => none
  | .loadArmed =>
    match s.worker with
    | .blanked points _ =>
      let (stage, points) := s.stage.applyArmed points
      some ({ s with stage := stage, worker := .armedLoaded points s.stage.armed },
        [.loaded s.stage.armed])
    | _ => none
  | .delayLine =>
    match s.worker with
    | .armedLoaded points _ =>
      let (stage, points) := s.stage.applyScannerSync points
      some ({ s with stage := stage, worker := .idle }, [.batch points])
    | _ => none
  | .exchange thread state =>
    match s.calls thread with
    | some _ => none
    | none =>
      some (s.exchangeArmed thread state, if state && !s.stage.armed then [.armed] else [])
  | .reset thread =>
    match s.calls thread with
    | none => none
    | some call => some (s.finishCall thread call, [])
  | .setScannerSync offset => some ({ s with stage := s.stage.setScannerSync offset }, [])
  | .setPointRate rate => some ({ s with stage := s.stage.setPointRate rate }, [])

/-- The steps by case: what must hold before, the state after, and what is observed. -/
inductive StepCase (s : Arming F D) :
    ArmingStep F D → Arming F D → List (ArmingEvent F) → Prop
  | begin (points : List (LaserPoint F)) (hw : s.worker = .idle) :
      StepCase s (.begin points)
        { s with worker := .blanking points s.stage.startupBlankPointsRemaining } []
  | storeCounter (points : List (LaserPoint F)) (loaded : ℕ)
      (hw : s.worker = .blanking points loaded) :
      StepCase s .storeCounter
        { s with
          stage := s.stage.storeStartupBlank loaded (blankFirst loaded points).2
          worker := .blanked (blankFirst loaded points).1 loaded } []
  | loadArmed (points : List (LaserPoint F)) (loaded : ℕ) (hw : s.worker = .blanked points loaded) :
      StepCase s .loadArmed
        { s with
          stage := (s.stage.applyArmed points).1
          worker := .armedLoaded (s.stage.applyArmed points).2 s.stage.armed }
        [.loaded s.stage.armed]
  | delayLine (points : List (LaserPoint F)) (wasArmed : Bool)
      (hw : s.worker = .armedLoaded points wasArmed) :
      StepCase s .delayLine
        { s with stage := (s.stage.applyScannerSync points).1, worker := .idle }
        [.batch (s.stage.applyScannerSync points).2]
  | exchange (thread : ℕ) (state : Bool) (hc : s.calls thread = none) :
      StepCase s (.exchange thread state) (s.exchangeArmed thread state)
        (if state && !s.stage.armed then [.armed] else [])
  | reset (thread : ℕ) (call : ArmCall) (hc : s.calls thread = some call) :
      StepCase s (.reset thread) (s.finishCall thread call) []
  | setScannerSync (offset : D) :
      StepCase s (.setScannerSync offset) { s with stage := s.stage.setScannerSync offset } []
  | setPointRate (rate : ℕ) :
      StepCase s (.setPointRate rate) { s with stage := s.stage.setPointRate rate } []

theorem step_cases {s s' : Arming F D} {l : ArmingStep F D} {o : List (ArmingEvent F)}
    (h : step s l = some (s', o)) : StepCase s l s' o := by
  cases l with
  | begin points =>
    cases hw : s.worker <;>
      simp only [step, hw, Option.some.injEq, Prod.mk.injEq, reduceCtorEq] at h
    obtain ⟨rfl, rfl⟩ := h
    exact .begin points hw
  | storeCounter =>
    cases hw : s.worker <;>
      simp only [step, hw, Option.some.injEq, Prod.mk.injEq, reduceCtorEq] at h
    obtain ⟨rfl, rfl⟩ := h
    exact .storeCounter _ _ hw
  | loadArmed =>
    cases hw : s.worker <;>
      simp only [step, hw, Option.some.injEq, Prod.mk.injEq, reduceCtorEq] at h
    obtain ⟨rfl, rfl⟩ := h
    exact .loadArmed _ _ hw
  | delayLine =>
    cases hw : s.worker <;>
      simp only [step, hw, Option.some.injEq, Prod.mk.injEq, reduceCtorEq] at h
    obtain ⟨rfl, rfl⟩ := h
    exact .delayLine _ _ hw
  | exchange thread state =>
    cases hc : s.calls thread <;>
      simp only [step, hc, Option.some.injEq, Prod.mk.injEq, reduceCtorEq] at h
    obtain ⟨rfl, rfl⟩ := h
    exact .exchange thread state hc
  | reset thread =>
    cases hc : s.calls thread <;>
      simp only [step, hc, Option.some.injEq, Prod.mk.injEq, reduceCtorEq] at h
    obtain ⟨rfl, rfl⟩ := h
    exact .reset thread _ hc
  | setScannerSync offset =>
    simp only [step, Option.some.injEq, Prod.mk.injEq] at h
    obtain ⟨rfl, rfl⟩ := h
    exact .setScannerSync offset
  | setPointRate rate =>
    simp only [step, Option.some.injEq, Prod.mk.injEq] at h
    obtain ⟨rfl, rfl⟩ := h
    exact .setPointRate rate

theorem step_events {s s' : Arming F D} {l : ArmingStep F D} {o : List (ArmingEvent F)}
    (h : step s l = some (s', o)) : o = [] ∨ ∃ e, o = [e] := by
  cases step_cases h with
  | exchange thread state hc => split <;> simp
  | _ => simp

/-- The flag goes up in the exchange of a `setArmed(true)` that finds it down. -/
theorem armed_step {s s' : Arming F D} {l : ArmingStep F D}
    (h : step s l = some (s', [.armed])) : ∃ thread, s.stage.armed = false ∧
      l = .exchange thread true ∧ s' = s.exchangeArmed thread true := by
  generalize ho : [ArmingEvent.armed] = o at h
  cases step_cases h with
  | exchange thread state hc =>
    split at ho
    · rename_i hup
      rw [Bool.and_eq_true, Bool.not_eq_true'] at hup
      obtain ⟨rfl, harmed⟩ := hup
      exact ⟨thread, harmed, rfl, rfl⟩
    · cases ho
  | _ => simp at ho

/-- **A pass that no other step interrupts** is `postProcessOutputPoints`. -/
theorem run_pass (s : Arming F D) (hidle : s.worker = .idle) (points : List (LaserPoint F)) :
    Runs.run step s [.begin points, .storeCounter, .loadArmed, .delayLine] =
      some ({ s with stage := (s.stage.postProcessOutputPoints points).1 },
        [.loaded s.stage.armed, .batch (s.stage.postProcessOutputPoints points).2]) := by
  simp [Runs.run, step, hidle, postProcessOutputPoints, applyStartupBlankToOutputPoints]

/-- **A call that no other step interrupts** is `setArmed`. -/
theorem run_setArmed (s : Arming F D) (thread : ℕ) (hcall : s.calls thread = none) (state : Bool) :
    (Runs.run step s [.exchange thread state, .reset thread]).map (fun r => r.1.stage) =
      some (s.stage.setArmed state) := by
  have hentry : (s.exchangeArmed thread state).calls thread =
      some { state := state, wasArmed := s.stage.armed } := if_pos rfl
  simp only [Runs.run, step, hcall, hentry, Option.map_some]
  rfl

end Arming

end LiberaLaser
