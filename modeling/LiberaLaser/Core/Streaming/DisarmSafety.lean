import LiberaLaser.Core.Streaming.Arming

/-!
# Darkness after a disarm

Once `setArmed(false)` has returned, a batch that starts afterwards should leave the worker dark.
A new pass loads the flag as disarmed and parks its points, so light can only come out of the delay
line, and only two steps can leave light there: a call that finds the flag disarmed already returns
while another call has yet to clear the line, or a pass that loaded the flag as armed puts its
points into the line after it was cleared. Runs without these two steps are dark after every disarm.
-/

namespace LiberaLaser.Arming

open OutputStage Runs

variable {F D : Type} [FloatArith F]

/-- A run that ends with the batch of a pass begun after a `setArmed(false)` of some thread has
returned, where no thread arms the controller after the exchange of that call. -/
inductive AfterDisarm : List (ArmingStep F D) → Prop
  | intro (before : List (ArmingStep F D)) (thread : ℕ) (during after : List (ArmingStep F D))
      (points : List (LaserPoint F)) (pass : List (ArmingStep F D))
      (hreturn : .reset thread ∉ during) (hpass : .delayLine ∉ pass)
      (harm : ∀ u, .exchange u true ∉ during ++ after ++ pass) :
      AfterDisarm (before ++ .exchange thread false :: (during ++ .reset thread ::
        (after ++ .begin points :: (pass ++ [.delayLine]))))

/-- The invariant of runs whose steps clear the line. -/
structure DisarmInv (s : Arming F D) : Prop where
  call : ∀ thread call, s.calls thread = some call → call.state = false →
    call.superseded = false → s.stage.armed = false
  settled : s.settled = true → s.stage.armed = false
  line : s.settled = true → s.stage.LineDark
  parked : ∀ points, s.worker = .armedLoaded points false → ∀ p ∈ points, p.Dark

theorem DisarmInv.init (stage : OutputStage F D) : DisarmInv ({ stage := stage } : Arming F D) where
  call := by simp
  settled := by simp
  line := by simp
  parked := by simp

/-- A section of the worker leaves the flag alone. -/
theorem DisarmInv.of_worker {s : Arming F D} {stage : OutputStage F D} {worker : WorkerPass F}
    (h : DisarmInv s) (harmed : stage.armed = s.stage.armed)
    (hline : s.settled = true → stage.LineDark)
    (hparked : ∀ points, worker = .armedLoaded points false → ∀ p ∈ points, p.Dark) :
    DisarmInv { s with stage, worker } where
  call thread call hc hstate hsup := harmed.trans (h.call thread call hc hstate hsup)
  settled hs := harmed.trans (h.settled hs)
  line := hline
  parked := hparked

variable [FloatArith D]

/-- The step leaves no light in the delay line after a disarm has returned. A call of
`setArmed(false)` with nothing to reset returns with a dark line; and a pass that loaded the flag
before the disarm puts only dark points into the line afterwards. -/
def ClearsLine (s : Arming F D) : ArmingStep F D → Prop
  | .reset thread =>
    ∀ call ∈ s.calls thread, call.state = false → call.wasArmed = false →
      call.superseded = false → s.stage.LineDark
  | .delayLine =>
    ∀ points ∈ s.worker.armedPoints, s.settled = true → s.stage.bypassed = false →
      ∀ p ∈ points.drop (points.length - s.stage.shiftPointCount), p.Dark
  | _ => True

instance [DecidableEq F] (s : Arming F D) : ∀ l, Decidable (ClearsLine s l)
  | .reset thread => inferInstanceAs (Decidable (∀ call ∈ s.calls thread, _))
  | .delayLine => inferInstanceAs (Decidable (∀ points ∈ s.worker.armedPoints, _))
  | .begin _ | .storeCounter | .loadArmed | .exchange _ _ | .setScannerSync _ | .setPointRate _ =>
    inferInstanceAs (Decidable True)

/-- **What one step preserves.** -/
theorem DisarmInv.step {s s' : Arming F D} {l : ArmingStep F D} {o : List (ArmingEvent F)}
    (h : DisarmInv s) (hclear : ClearsLine s l) (hstep : step s l = some (s', o)) :
    DisarmInv s' := by
  cases step_cases hstep with
  | begin points hw =>
    exact { call := h.call, settled := h.settled, line := h.line, parked := by simp }
  | storeCounter points loaded hw =>
    refine h.of_worker (by simp) (fun hs => ?_) (by simp)
    simpa [LineDark] using h.line hs
  | loadArmed points loaded hw =>
    refine h.of_worker (by simp) (fun hs => ?_) fun points' hw' => ?_
    · simpa [LineDark] using h.line hs
    · simp only [WorkerPass.armedLoaded.injEq] at hw'
      obtain ⟨rfl, harmed⟩ := hw'
      exact dark_applyArmed harmed points
  | delayLine points wasArmed hw =>
    refine h.of_worker (by simp) (fun hs => ?_) (by simp)
    refine lineDark_applyScannerSync (fun _ => h.line hs) fun hbypass => ?_
    cases wasArmed with
    | true => exact hclear points (by rw [hw]; rfl) hs hbypass
    | false => exact fun p hp => h.parked points hw p (List.mem_of_mem_drop hp)
  | exchange thread state hc =>
    refine { call := ?_, settled := ?_, line := ?_, parked := h.parked }
    · intro u call hu hstate hsup
      simp only [exchangeArmed] at hu ⊢
      split at hu
      · obtain rfl := Option.some.inj hu
        exact hstate
      · obtain ⟨call', -, rfl⟩ := Option.map_eq_some_iff.mp hu
        simp only [Bool.or_eq_false_iff] at hsup
        exact hsup.2
    · intro hs
      simp only [exchangeArmed, Bool.and_eq_true, Bool.not_eq_true'] at hs ⊢
      exact hs.2
    · intro hs
      simp only [exchangeArmed, Bool.and_eq_true] at hs
      exact h.line hs.1
  | reset thread call hc =>
    refine { call := ?_, settled := ?_, line := ?_, parked := h.parked }
    · intro u call' hu hstate hsup
      simp only [finishCall, resetFor_armed] at hu ⊢
      split at hu
      · cases hu
      · exact h.call u call' hu hstate hsup
    · intro hs
      simp only [finishCall, Bool.or_eq_true, Bool.and_eq_true, Bool.not_eq_true',
        resetFor_armed] at hs ⊢
      rcases hs with hs | ⟨hstate, hsup⟩
      · exact h.settled hs
      · exact h.call thread call hc hstate hsup
    · intro hs
      simp only [finishCall, Bool.or_eq_true, Bool.and_eq_true, Bool.not_eq_true'] at hs ⊢
      refine lineDark_resetFor fun hsame => ?_
      rcases hs with hs | ⟨hstate, hsup⟩
      · exact h.line hs
      · exact hclear call hc hstate (hsame ▸ hstate) hsup
  | setScannerSync offset =>
    exact { call := h.call, settled := h.settled, line := h.line, parked := h.parked }
  | setPointRate rate =>
    exact { call := h.call, settled := h.settled, line := h.line, parked := h.parked }

/-! ## The phases of a run that ends after a disarm -/

/-- A call of `setArmed(false)` by this thread is in progress and not superseded. -/
def Disarming (thread : ℕ) (s : Arming F D) : Prop :=
  ∃ call, s.calls thread = some call ∧ call.state = false ∧ call.superseded = false

/-- A pass that began after the disarm is on its way. -/
def DarkPass (s : Arming F D) : Prop :=
  s.settled = true ∧
    ((∃ points loaded, s.worker = .blanking points loaded) ∨
      (∃ points loaded, s.worker = .blanked points loaded) ∨
      ∃ points wasArmed, s.worker = .armedLoaded points wasArmed ∧ ∀ p ∈ points, p.Dark)

/-- The step does not arm the controller. -/
def Unarming (l : ArmingStep F D) : Prop := ∀ u, l ≠ .exchange u true

theorem Disarming.step {thread : ℕ} {s s' : Arming F D} {l : ArmingStep F D}
    {o : List (ArmingEvent F)} (h : Disarming thread s) (harm : Unarming l)
    (hl : l ≠ .reset thread) (hstep : step s l = some (s', o)) : Disarming thread s' := by
  obtain ⟨call, hcall, hstate, hsup⟩ := h
  cases step_cases hstep with
  | exchange u state hu =>
    have hne : thread ≠ u := by
      rintro rfl
      rw [hcall] at hu
      cases hu
    have hfalse : state = false := by
      cases state with
      | false => rfl
      | true => exact absurd rfl (harm u)
    exact ⟨call, by simp [exchangeArmed, hne, hcall, hfalse], hstate, hsup⟩
  | reset u call' hu =>
    have hne : thread ≠ u := by
      rintro rfl
      exact hl rfl
    exact ⟨call, by simp [finishCall, hne, hcall], hstate, hsup⟩
  | _ => exact ⟨call, hcall, hstate, hsup⟩

theorem settled_step {s s' : Arming F D} {l : ArmingStep F D} {o : List (ArmingEvent F)}
    (h : s.settled = true) (harm : Unarming l) (hstep : step s l = some (s', o)) :
    s'.settled = true := by
  cases step_cases hstep with
  | exchange u state hu =>
    cases state with
    | false => simpa [exchangeArmed] using h
    | true => exact absurd rfl (harm u)
  | reset u call hu => simp [finishCall, h]
  | _ => exact h

theorem DarkPass.step {s s' : Arming F D} {l : ArmingStep F D} {o : List (ArmingEvent F)}
    (hinv : DisarmInv s) (h : DarkPass s) (harm : Unarming l) (hl : l ≠ .delayLine)
    (hstep : step s l = some (s', o)) : DarkPass s' := by
  refine ⟨settled_step h.1 harm hstep, ?_⟩
  have hpass := h.2
  cases step_cases hstep with
  | begin points hw => exact Or.inl ⟨_, _, rfl⟩
  | storeCounter points loaded hw => exact Or.inr (Or.inl ⟨_, _, rfl⟩)
  | loadArmed points loaded hw =>
    exact Or.inr (Or.inr ⟨_, _, rfl, dark_applyArmed (hinv.settled h.1) points⟩)
  | delayLine points wasArmed hw => exact absurd rfl hl
  | _ => exact hpass

/-- What each step of a run preserves beside the invariant. -/
theorem DisarmInv.run {P : Arming F D → Prop} {Q : ArmingStep F D → Prop}
    (hP : ∀ s l s' o, DisarmInv s → P s → Q l → Arming.step s l = some (s', o) → P s')
    {tr : List (ArmingEvent F)} {s s' : Arming F D} {ls : List (ArmingStep F D)}
    {o : List (ArmingEvent F)} (h : DisarmInv s) (hs : P s) (hQ : ∀ l ∈ ls, Q l)
    (hclear : Along Arming.step (fun _ s l => ClearsLine s l) tr s ls)
    (hrun : Runs.run Arming.step s ls = some (s', o)) : DisarmInv s' ∧ P s' :=
  run_invariant (I := fun _ s => DisarmInv s ∧ P s)
    (fun _ s l s' o hs hG hstep => ⟨hs.1.step hG.1 hstep, hP s l s' o hs.1 hs.2 hG.2 hstep⟩)
    ⟨h, hs⟩ (hclear.and (Along.of_forall hQ _ _)) hrun

/-- **Darkness after a disarm**: in a run whose steps clear the line, a batch that begins after
`setArmed(false)` has returned, with no arming since, is dark. -/
theorem dark_after_disarm (stage : OutputStage F D) {labels : List (ArmingStep F D)}
    {s : Arming F D} {events : List (ArmingEvent F)} (hafter : AfterDisarm labels)
    (hrun : Runs.run step { stage := stage } labels = some (s, events))
    (hclear : Along step (fun _ s l => ClearsLine s l) [] { stage := stage } labels) :
    ∃ points, events.getLast? = some (.batch points) ∧ ∀ p ∈ points, p.Dark := by
  obtain ⟨before, thread, during, after, points, pass, hreturn, hpass, harm⟩ := hafter
  -- cut the run at the exchange, the return, the start of the pass and its last step
  obtain ⟨s₁, o₁, r₁, h₁, hr₁, rfl⟩ := run_append_eq_some.mp hrun
  obtain ⟨s₂, o₂, r₂, h₂, hr₂, rfl⟩ := run_cons_eq_some.mp hr₁
  obtain ⟨s₃, o₃, r₃, h₃, hr₃, rfl⟩ := run_append_eq_some.mp hr₂
  obtain ⟨s₄, o₄, r₄, h₄, hr₄, rfl⟩ := run_cons_eq_some.mp hr₃
  obtain ⟨s₅, o₅, r₅, h₅, hr₅, rfl⟩ := run_append_eq_some.mp hr₄
  obtain ⟨s₆, o₆, r₆, h₆, hr₆, rfl⟩ := run_cons_eq_some.mp hr₅
  obtain ⟨s₇, o₇, r₇, h₇, hr₇, rfl⟩ := run_append_eq_some.mp hr₆
  rw [run_singleton] at hr₇
  obtain ⟨c₁, hclear⟩ := along_append.mp hclear
  obtain ⟨c₂, hclear⟩ := along_cons.mp (hclear s₁ o₁ h₁)
  obtain ⟨c₃, hclear⟩ := along_append.mp (hclear s₂ o₂ h₂)
  obtain ⟨c₄, hclear⟩ := along_cons.mp (hclear s₃ o₃ h₃)
  obtain ⟨c₅, hclear⟩ := along_append.mp (hclear s₄ o₄ h₄)
  obtain ⟨c₆, hclear⟩ := along_cons.mp (hclear s₅ o₅ h₅)
  obtain ⟨c₇, hclear⟩ := along_append.mp (hclear s₆ o₆ h₆)
  obtain ⟨c₈, -⟩ := along_cons.mp (hclear s₇ o₇ h₇)
  have hunarm : ∀ l ∈ during ++ after ++ pass, Unarming l := by
    rintro l hl u rfl
    exact harm u hl
  -- the exchange
  obtain ⟨i₁, -⟩ := DisarmInv.run (P := fun _ => True) (Q := fun _ => True)
    (fun _ _ _ _ _ _ _ _ => trivial) (DisarmInv.init stage) trivial (fun _ _ => trivial) c₁ h₁
  have i₂ := i₁.step c₂ h₂
  have hdis : Disarming thread s₂ := by
    cases step_cases h₂ with
    | exchange _ _ hc =>
      exact ⟨{ state := false, wasArmed := s₁.stage.armed }, by simp [exchangeArmed], rfl, rfl⟩
  -- until the call returns
  obtain ⟨i₃, hdis⟩ := DisarmInv.run (Q := fun l => Unarming l ∧ l ≠ .reset thread)
    (fun s l s' o _ hs hl hstep => Disarming.step hs hl.1 hl.2 hstep) i₂ hdis
    (fun l hl => ⟨hunarm l (by simp [hl]), fun h => hreturn (h ▸ hl)⟩) c₃ h₃
  have i₄ := i₃.step c₄ h₄
  have hsettled : s₄.settled = true := by
    obtain ⟨call, hcall, hstate, hsup⟩ := hdis
    cases step_cases h₄ with
    | reset _ call' hc =>
      obtain rfl := Option.some.inj (hcall.symm.trans hc)
      simp [finishCall, hstate, hsup]
  -- until the pass begins
  obtain ⟨i₅, hsettled⟩ := DisarmInv.run (P := fun s => s.settled = true) (Q := Unarming)
    (fun s l s' o _ hs hl hstep => settled_step hs hl hstep) i₄ hsettled
    (fun l hl => hunarm l (by simp [hl])) c₅ h₅
  have i₆ := i₅.step c₆ h₆
  have hdark : DarkPass s₆ := by
    cases step_cases h₆ with
    | begin _ hw => exact ⟨hsettled, Or.inl ⟨_, _, rfl⟩⟩
  -- until its last step
  obtain ⟨i₇, hdark⟩ := DisarmInv.run (Q := fun l => Unarming l ∧ l ≠ .delayLine)
    (fun s l s' o hinv hs hl hstep => DarkPass.step hinv hs hl.1 hl.2 hstep) i₆ hdark
    (fun l hl => ⟨hunarm l (by simp [hl]), fun h => hpass (h ▸ hl)⟩) c₇ h₇
  obtain ⟨hsettled, hpass⟩ := hdark
  cases step_cases hr₇ with
  | delayLine points' wasArmed hw =>
    refine ⟨(s₇.stage.applyScannerSync points').2, by simp, ?_⟩
    refine dark_applyScannerSync (fun _ => i₇.line hsettled) ?_
    rcases hpass with ⟨_, _, hw'⟩ | ⟨_, _, hw'⟩ | ⟨points'', _, hw', hd⟩
    · rw [hw] at hw'
      cases hw'
    · rw [hw] at hw'
      cases hw'
    · rw [hw] at hw'
      cases hw'
      exact hd

/-! ## A run that leaks -/

/-- A controller at 1000 points per second with a delay of one point. -/
def onePointDelay : OutputStage ℚ ℚ := fresh 1000 10 true false

def redPoint : LaserPoint ℚ := { (default : LaserPoint ℚ) with r := 1 }

/-- Arm the controller, and play a red point over which the controller is disarmed. -/
def disarmMidPass : List (ArmingStep ℚ ℚ) :=
  [.exchange 0 true, .reset 0,
    .begin [default], .storeCounter, .loadArmed, .delayLine,
    .begin [redPoint], .storeCounter, .loadArmed]

/-- The red point enters the delay line after `setArmed(false)` has cleared it, and the next batch
comes out red. -/
theorem lit_after_disarm : ∃ (labels : List (ArmingStep ℚ ℚ)) (s : Arming ℚ ℚ)
    (events : List (ArmingEvent ℚ)) (points : List (LaserPoint ℚ)), AfterDisarm labels ∧
      Runs.run step { stage := onePointDelay } labels = some (s, events) ∧
      events.getLast? = some (.batch points) ∧ ∃ p ∈ points, p.Lit := by
  have hlast : (Runs.run step { stage := onePointDelay } (disarmMidPass ++ .exchange 0 false ::
      ([] ++ .reset 0 :: ([.delayLine] ++ .begin [default] ::
        ([.storeCounter, .loadArmed] ++ [.delayLine]))))).map (·.2.getLast?) =
      some (some (.batch [{ (default : LaserPoint ℚ) with r := 1 }])) := by decide +kernel
  obtain ⟨⟨s, events⟩, hrun, hevents⟩ := Option.map_eq_some_iff.mp hlast
  refine ⟨_, s, events, _, .intro disarmMidPass 0 [] [.delayLine] [default]
    [.storeCounter, .loadArmed] ?_ ?_ ?_, hrun, hevents, _, List.mem_singleton_self _, ?_⟩
  · simp
  · simp
  · simp
  · decide +kernel

/-- Disarmed between two passes, the controller goes dark with the next batch. -/
theorem dark_after_disarm_between_passes : ∃ (s : Arming ℚ ℚ) (events : List (ArmingEvent ℚ))
    (points : List (LaserPoint ℚ)),
      Runs.run step { stage := onePointDelay } ((disarmMidPass ++ [.delayLine]) ++
        .exchange 0 false :: ([] ++ .reset 0 :: ([] ++ .begin [redPoint] ::
          ([.storeCounter, .loadArmed] ++ [.delayLine])))) = some (s, events) ∧
      events.getLast? = some (.batch points) ∧ ∀ p ∈ points, p.Dark := by
  obtain ⟨⟨s, events⟩, hrun⟩ := Option.isSome_iff_exists.mp (show (Runs.run step
    { stage := onePointDelay } ((disarmMidPass ++ [.delayLine]) ++ .exchange 0 false ::
      ([] ++ .reset 0 :: ([] ++ .begin [redPoint] ::
        ([.storeCounter, .loadArmed] ++ [.delayLine]))))).isSome = true by decide +kernel)
  obtain ⟨points, hevents, hdark⟩ := dark_after_disarm onePointDelay
    (.intro _ 0 [] [] [redPoint] [.storeCounter, .loadArmed] (by simp) (by simp) (by simp)) hrun
    (by decide +kernel)
  exact ⟨s, events, points, hrun, hevents, hdark⟩

end LiberaLaser.Arming
