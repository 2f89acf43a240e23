import LiberaLaser.Core.Streaming.Arming

/-!
# Blanking after arming

After the armed flag goes up, the first millisecond of armed points should be dark. The blanking
rests on a counter that `setArmed` sets after it has raised the flag, and that a pass loads before
it loads the flag. A pass in between works with an old counter. Runs in which no such pass finds too
small a counter, and in which no light is left over from before the arming, blank every start.
-/

namespace LiberaLaser.Arming

open OutputStage Runs

variable {F D : Type} [FloatArith F]

/-! ## The property -/

section Spec

variable [DecidableEq F]

/-- Count the dark points from the first pass on that loads the flag as armed. -/
def countDark : Option ℕ → ArmingEvent F → Option ℕ
  | none, .loaded true => some 0
  | some n, .batch points => some (n + points.countP (·.Dark))
  | count, _ => count

/-- The number of dark points output since the first pass that loaded the flag as armed, where
`points` is the part of the current batch already output. There are none while no pass has. -/
def darkBefore (since : List (ArmingEvent F)) (points : List (LaserPoint F)) : ℕ :=
  match since.foldl countDark none with
  | none => 0
  | some n => n + points.countP (·.Dark)

/-- Every lit point that is output after the flag went up comes after `N` dark ones. -/
def StartsBlanked (N : ℕ) (events : List (ArmingEvent F)) : Prop :=
  ∀ before since points point rest after,
    events = before ++ .armed :: (since ++ .batch (points ++ point :: rest) :: after) →
      point.Lit → N ≤ darkBefore since points

end Spec

/-! ## The points that are sure to be dark -/

/-- The next `m` points that the pass takes to the delay line are dark. -/
def Covered (m counter : ℕ) : WorkerPass F → Prop
  | .idle => m ≤ counter
  | .blanking _ loaded => m ≤ loaded
  | .blanked points _ | .armedLoaded points _ =>
    (∀ p ∈ points.take m, p.Dark) ∧ m ≤ points.length + counter

theorem Covered.counter {m counter counter' : ℕ} {worker : WorkerPass F}
    (h : Covered m counter worker) (hm : m ≤ counter') : Covered m counter' worker := by
  cases worker with
  | idle => exact hm
  | blanking points loaded => exact h
  | blanked points loaded => exact ⟨h.1, by omega⟩
  | armedLoaded points wasArmed => exact ⟨h.1, by omega⟩

theorem Covered.mono {m m' counter : ℕ} {worker : WorkerPass F} (h : Covered m counter worker)
    (hm : m' ≤ m) : Covered m' counter worker := by
  cases worker with
  | idle => exact hm.trans h
  | blanking points loaded => exact hm.trans h
  | blanked points loaded =>
    exact ⟨fun p hp => h.1 p (List.take_subset_take_left _ hm hp), hm.trans h.2⟩
  | armedLoaded points wasArmed =>
    exact ⟨fun p hp => h.1 p (List.take_subset_take_left _ hm hp), hm.trans h.2⟩

theorem Covered.storeCounter {m counter loaded : ℕ} {points : List (LaserPoint F)}
    (h : Covered m counter (.blanking points loaded)) (stage : OutputStage F D) :
    Covered m (stage.storeStartupBlank loaded (blankFirst loaded points).2
      ).startupBlankPointsRemaining (.blanked (blankFirst loaded points).1 loaded) := by
  have hm : m ≤ loaded := h
  refine ⟨fun p hp => dark_blankFirst loaded points p (List.take_subset_take_left _ hm hp), ?_⟩
  rw [length_blankFirst]
  by_cases hpos : 0 < loaded
  · rw [storeStartupBlank, if_pos hpos]
    show m ≤ points.length + (blankFirst loaded points).2
    rw [blankFirst_snd]
    omega
  · omega

theorem Covered.loadArmed {m counter loaded : ℕ} {points : List (LaserPoint F)}
    (h : Covered m counter (.blanked points loaded)) (stage : OutputStage F D) (wasArmed : Bool) :
    Covered m counter (.armedLoaded (stage.applyArmed points).2 wasArmed) := by
  refine ⟨?_, by rw [length_applyArmed]; exact h.2⟩
  cases harmed : stage.armed with
  | false => exact fun p hp => dark_applyArmed harmed points p (List.mem_of_mem_take hp)
  | true =>
    rw [applyArmed_of_armed harmed]
    exact h.1

/-! ## The invariants -/

/-- The pass stands between its load of the counter and its load of the flag. -/
def InWindow : WorkerPass F → Prop
  | .blanking _ _ | .blanked _ _ => True
  | _ => False

/-- After the flag went up, before a pass has loaded it: what the worker holds is dark, and once the
startup reset is made the line is dark and the counter is full. -/
structure Waiting (N : ℕ) (s : Arming F D) : Prop where
  parked : ∀ points wasArmed, s.worker = .armedLoaded points wasArmed → ∀ p ∈ points, p.Dark
  line : s.stale = false → s.stage.LineDark
  window : s.stage.armed = true → InWindow s.worker →
    Covered N s.stage.startupBlankPointsRemaining s.worker
  full : s.stage.armed = true → s.stale = false → ¬ InWindow s.worker →
    N ≤ s.stage.startupBlankPointsRemaining

/-- Armed points are being output, and the next `m` are sure to be dark. -/
def Blanking (m : ℕ) (s : Arming F D) : Prop :=
  m = 0 ∨ (s.stale = true ∨ s.stage.LineDark) ∧
    Covered m s.stage.startupBlankPointsRemaining s.worker

/-- The two phases after the flag went up, by the count of dark points. -/
def Phase (N : ℕ) (s : Arming F D) : Option ℕ → Prop
  | none => Waiting N s
  | some n => Blanking (N - n) s

theorem Blanking.mono {m m' : ℕ} {s : Arming F D} (h : Blanking m s) (hm : m' ≤ m) :
    Blanking m' s := by
  rcases h with rfl | ⟨hline, hcov⟩
  · exact Or.inl (Nat.le_zero.mp hm)
  · exact Or.inr ⟨hline, hcov.mono hm⟩

section Invariants

variable [FloatArith D]

/-- The counter never exceeds its starting value, and a pass blanks as many points as it loaded. -/
structure CounterInv (N : ℕ) (s : Arming F D) : Prop where
  rate : s.stage.startupBlankPoints = N
  counter_le : s.stage.startupBlankPointsRemaining ≤ N
  blanking_le : ∀ points loaded, s.worker = .blanking points loaded → loaded ≤ N
  blanked : ∀ points loaded, s.worker = .blanked points loaded →
    loaded ≤ N ∧ Covered loaded s.stage.startupBlankPointsRemaining s.worker

/-- The step starts no pass with too small a counter, and brings no old light past the arming. When
the flag goes up, a pass that has loaded the counter but not the flag has loaded the full counter,
and a pass that has loaded both holds dark points. Until the startup reset is made, no pass begins
with a smaller counter, and no light is in the delay line when a pass goes through it. -/
def BlanksStart (N : ℕ) (s : Arming F D) : ArmingStep F D → Prop
  | .begin _ =>
    s.stage.armed = true → s.stale = true → N ≤ s.stage.startupBlankPointsRemaining
  | .exchange _ true =>
    s.stage.armed = false →
      match s.worker with
      | .idle => True
      | .blanking _ loaded | .blanked _ loaded => N ≤ loaded
      | .armedLoaded points _ => ∀ p ∈ points, p.Dark
  | .delayLine => s.stale = true → s.stage.bypassed = false → s.stage.LineDark
  | _ => True

instance [DecidableEq F] (N : ℕ) (s : Arming F D) : ∀ l, Decidable (BlanksStart N s l)
  | .begin _ => inferInstanceAs (Decidable (s.stage.armed = true → s.stale = true → _))
  | .exchange _ true =>
    match hw : s.worker with
    | .idle => decidable_of_iff True (by simp [BlanksStart, hw])
    | .blanking _ loaded =>
      decidable_of_iff (s.stage.armed = false → N ≤ loaded) (by simp [BlanksStart, hw])
    | .blanked _ loaded =>
      decidable_of_iff (s.stage.armed = false → N ≤ loaded) (by simp [BlanksStart, hw])
    | .armedLoaded points _ =>
      decidable_of_iff (s.stage.armed = false → ∀ p ∈ points, p.Dark) (by simp [BlanksStart, hw])
  | .delayLine => inferInstanceAs (Decidable (s.stale = true → s.stage.bypassed = false → _))
  | .exchange _ false | .storeCounter | .loadArmed | .reset _ | .setScannerSync _ |
    .setPointRate _ => inferInstanceAs (Decidable True)

theorem CounterInv.step {N : ℕ} {s s' : Arming F D} {l : ArmingStep F D}
    {o : List (ArmingEvent F)} (h : CounterInv N s) (hl : ∀ rate, l ≠ .setPointRate rate)
    (hstep : step s l = some (s', o)) : CounterInv N s' := by
  have hrate := h.rate
  simp only [startupBlankPoints] at hrate
  cases step_cases hstep with
  | begin points hw =>
    refine ⟨h.rate, h.counter_le, fun points loaded hw' => ?_, by simp⟩
    simp only [WorkerPass.blanking.injEq] at hw'
    exact hw'.2 ▸ h.counter_le
  | storeCounter points loaded hw =>
    have hle := h.blanking_le points loaded hw
    refine ⟨by simpa [startupBlankPoints] using hrate, ?_, by simp, fun points' loaded' hw' => ?_⟩
    · show (s.stage.storeStartupBlank loaded _).startupBlankPointsRemaining ≤ N
      unfold storeStartupBlank
      split
      · show (blankFirst loaded points).2 ≤ N
        rw [blankFirst_snd]
        omega
      · exact h.counter_le
    · obtain ⟨-, rfl⟩ := WorkerPass.blanked.inj hw'
      have hcov : Covered loaded 0 (.blanking points loaded) := le_refl loaded
      exact ⟨hle, hcov.storeCounter s.stage⟩
  | loadArmed points loaded hw =>
    refine ⟨by simpa [startupBlankPoints] using hrate, by simpa using h.counter_le, by simp,
      by simp⟩
  | delayLine points wasArmed hw =>
    exact ⟨by simpa [startupBlankPoints] using hrate, by simpa using h.counter_le, by simp,
      by simp⟩
  | exchange thread state hc => exact ⟨h.rate, h.counter_le, h.blanking_le, h.blanked⟩
  | reset thread call hc =>
    have hcounter := resetFor_counter call s.stage
    rw [h.rate] at hcounter
    refine ⟨by simpa [startupBlankPoints, finishCall] using hrate, ?_, h.blanking_le,
      fun points loaded hw => ?_⟩
    · show (resetFor call s.stage).startupBlankPointsRemaining ≤ N
      rw [hcounter]
      split
      · exact le_rfl
      · exact h.counter_le
    · obtain ⟨hle, hcov⟩ := h.blanked points loaded hw
      refine ⟨hle, ?_⟩
      show Covered loaded (resetFor call s.stage).startupBlankPointsRemaining s.worker
      rw [hcounter]
      split
      · exact hcov.counter hle
      · exact hcov
  | setScannerSync offset => exact ⟨h.rate, h.counter_le, h.blanking_le, h.blanked⟩
  | setPointRate rate => exact absurd rfl (hl rate)

/-- A startup reset fills the counter, and any other leaves it. -/
theorem Covered.resetFor {m N : ℕ} {stage : OutputStage F D} {worker : WorkerPass F}
    (h : Covered m stage.startupBlankPointsRemaining worker) (hrate : stage.startupBlankPoints = N)
    (hm : m ≤ N) (call : ArmCall) :
    Covered m (Arming.resetFor call stage).startupBlankPointsRemaining worker := by
  rw [resetFor_counter]
  split
  · exact h.counter (hrate ▸ hm)
  · exact h

/-- The flag goes up. -/
theorem Waiting.armed {N thread : ℕ} {s : Arming F D} (hN : CounterInv N s)
    (harmed : s.stage.armed = false) (hclean : BlanksStart N s (.exchange thread true)) :
    Waiting N (s.exchangeArmed thread true) := by
  have hclean := hclean harmed
  refine ⟨fun points wasArmed hw => ?_, by simp [exchangeArmed, harmed], fun _ hwindow => ?_,
    by simp [exchangeArmed, harmed]⟩
  · have hw : s.worker = .armedLoaded points wasArmed := hw
    rw [hw] at hclean
    exact hclean
  · show Covered N s.stage.startupBlankPointsRemaining s.worker
    have hwindow : InWindow s.worker := hwindow
    cases hw : s.worker with
    | idle =>
      rw [hw] at hwindow
      exact hwindow.elim
    | blanking points loaded =>
      rw [hw] at hclean
      exact hclean
    | blanked points loaded =>
      rw [hw] at hclean
      obtain ⟨-, hc⟩ := hN.blanked points loaded hw
      rw [hw] at hc
      exact ⟨fun p hp => hc.1 p (List.take_subset_take_left _ hclean hp), hclean.trans hc.2⟩
    | armedLoaded points wasArmed =>
      rw [hw] at hwindow
      exact hwindow.elim

/-- **The first phase**: until a pass loads the flag as armed, everything output is dark. -/
theorem Waiting.step {N : ℕ} {s s' : Arming F D} {l : ArmingStep F D} {o : List (ArmingEvent F)}
    (h : Waiting N s) (hN : CounterInv N s) (hclean : BlanksStart N s l)
    (hstep : Arming.step s l = some (s', o)) :
    (o = [.loaded true] ∧ Blanking N s') ∨
      (o ≠ [.loaded true] ∧ Waiting N s' ∧
        ∀ points, o = [.batch points] → ∀ p ∈ points, p.Dark) := by
  cases step_cases hstep with
  | begin points hw =>
    refine Or.inr ⟨by simp, ⟨by simp, h.line, fun harmed _ => ?_, fun _ _ hout => ?_⟩, by simp⟩
    · cases hstale : s.stale with
      | true => exact hclean harmed hstale
      | false => exact h.full harmed hstale (by simp [hw, InWindow])
    · exact absurd trivial hout
  | storeCounter points loaded hw =>
    refine Or.inr ⟨by simp, ⟨by simp, fun hs => ?_, fun harmed _ => ?_, fun _ _ hout => ?_⟩,
      by simp⟩
    · simpa [LineDark] using h.line hs
    · have hcov := h.window (by simpa using harmed) (by simp [hw, InWindow])
      rw [hw] at hcov
      exact hcov.storeCounter s.stage
    · exact absurd trivial hout
  | loadArmed points loaded hw =>
    cases harmed : s.stage.armed with
    | true =>
      have hcov := h.window harmed (by simp [hw, InWindow])
      rw [hw] at hcov
      refine Or.inl ⟨rfl, Or.inr ⟨?_, ?_⟩⟩
      · rcases Bool.eq_false_or_eq_true s.stale with hstale | hstale
        · exact Or.inl hstale
        · exact Or.inr (by simpa [LineDark] using h.line hstale)
      · rw [← harmed]
        simpa using hcov.loadArmed s.stage s.stage.armed
    | false =>
      refine Or.inr ⟨by simp, ⟨fun points' wasArmed hw' => ?_, fun hs => ?_, fun hup => ?_,
        fun hup => ?_⟩, by simp⟩
      · obtain ⟨rfl, -⟩ := WorkerPass.armedLoaded.inj hw'
        exact dark_applyArmed harmed points
      · simpa [LineDark] using h.line hs
      · simp [harmed] at hup
      · simp [harmed] at hup
  | delayLine points wasArmed hw =>
    have hdark := h.parked points wasArmed hw
    refine Or.inr ⟨by simp, ⟨by simp, fun hs => ?_, fun _ hwindow => hwindow.elim,
      fun harmed hs _ => ?_⟩, fun points' ho => ?_⟩
    · exact lineDark_applyScannerSync (fun _ => h.line hs)
        fun _ p hp => hdark p (List.mem_of_mem_drop hp)
    · simpa using h.full (by simpa using harmed) hs (by simp [hw, InWindow])
    · obtain rfl := ArmingEvent.batch.inj (List.singleton_inj.mp ho)
      refine dark_applyScannerSync (fun hbypass => ?_) hdark
      cases hstale : s.stale with
      | true => exact hclean hstale hbypass
      | false => exact h.line hstale
  | exchange thread state hc =>
    refine Or.inr ⟨by split <;> simp, ?_, by intro points; split <;> simp⟩
    cases state with
    | false =>
      refine ⟨h.parked, fun hs => h.line ?_, by simp [exchangeArmed], by simp [exchangeArmed]⟩
      simpa [exchangeArmed] using hs
    | true =>
      cases harmed : s.stage.armed with
      | false => exact Waiting.armed hN harmed hclean
      | true =>
        refine ⟨h.parked, fun hs => h.line ?_, fun _ => h.window harmed,
          fun _ hs => h.full harmed ?_⟩
        · simpa [exchangeArmed, harmed] using hs
        · simpa [exchangeArmed, harmed] using hs
  | reset thread call hc =>
    have hstart : (s.finishCall thread call).stale = false → call.state = call.wasArmed →
        s.stale = false := by
      intro hs hsame
      simpa [finishCall, hsame] using hs
    refine Or.inr ⟨by simp, ⟨h.parked, fun hs => ?_, fun harmed hwindow => ?_,
      fun harmed hs hwindow => ?_⟩, by simp⟩
    · exact lineDark_resetFor fun hsame => h.line (hstart hs hsame)
    · exact (h.window (by simpa [finishCall] using harmed) hwindow).resetFor hN.rate le_rfl call
    · show N ≤ (resetFor call s.stage).startupBlankPointsRemaining
      rw [resetFor_counter]
      split
      · exact hN.rate.ge
      · rename_i hno
        refine h.full (by simpa [finishCall] using harmed) ?_ hwindow
        have hs : (s.stale && !(call.state && !call.wasArmed)) = false := hs
        simpa [Bool.eq_false_iff.mpr hno] using hs
  | setScannerSync offset =>
    exact Or.inr ⟨by simp, ⟨h.parked, h.line, h.window, h.full⟩, by simp⟩
  | setPointRate rate =>
    exact Or.inr ⟨by simp, ⟨h.parked, h.line, h.window, h.full⟩, by simp⟩

/-- **The second phase**: of a batch that leaves the worker the next `m` points are dark. -/
theorem Blanking.step {m N : ℕ} {s s' : Arming F D} {l : ArmingStep F D} {o : List (ArmingEvent F)}
    (h : Blanking m s) (hm : m ≤ N) (hN : CounterInv N s) (hclean : BlanksStart N s l)
    (hstep : Arming.step s l = some (s', o)) :
    ((∀ points, o ≠ [.batch points]) ∧ Blanking m s') ∨
      ∃ points, o = [.batch points] ∧ (∀ p ∈ points.take m, p.Dark) ∧
        Blanking (m - points.length) s' := by
  rcases Nat.eq_zero_or_pos m with rfl | hpos
  · cases step_cases hstep with
    | delayLine points wasArmed hw => exact Or.inr ⟨_, rfl, by simp, Or.inl (Nat.zero_sub _)⟩
    | exchange thread state hc => exact Or.inl ⟨by intro points; split <;> simp, Or.inl rfl⟩
    | _ => exact Or.inl ⟨by simp, Or.inl rfl⟩
  obtain ⟨hline, hcov⟩ := h.resolve_left hpos.ne'
  cases step_cases hstep with
  | begin points hw =>
    rw [hw] at hcov
    exact Or.inl ⟨by simp, Or.inr ⟨hline, hcov⟩⟩
  | storeCounter points loaded hw =>
    rw [hw] at hcov
    exact Or.inl ⟨by simp, Or.inr ⟨by simpa [LineDark] using hline, hcov.storeCounter s.stage⟩⟩
  | loadArmed points loaded hw =>
    rw [hw] at hcov
    exact Or.inl ⟨by simp, Or.inr ⟨by simpa [LineDark] using hline,
      by simpa using hcov.loadArmed s.stage s.stage.armed⟩⟩
  | delayLine points wasArmed hw =>
    rw [hw] at hcov
    obtain ⟨hdark, hlen⟩ := hcov
    have hline : s.stage.bypassed = false → s.stage.LineDark := fun hbypass =>
      hline.elim (fun hstale => hclean hstale hbypass) id
    refine Or.inr ⟨_, rfl, dark_applyScannerSync_take hline hdark, ?_⟩
    rw [length_applyScannerSync]
    rcases Nat.lt_or_ge points.length m with hlt | hge
    · -- the whole batch is dark, and the counter covers what is left
      rw [List.take_of_length_le hlt.le] at hdark
      refine Or.inr ⟨Or.inr (lineDark_applyScannerSync hline
        fun _ p hp => hdark p (List.mem_of_mem_drop hp)), ?_⟩
      show m - points.length ≤ (s.stage.applyScannerSync points).1.startupBlankPointsRemaining
      rw [applyScannerSync_counter]
      omega
    · exact Or.inl (by omega)
  | exchange thread state hc =>
    refine Or.inl ⟨by intro points; split <;> simp, Or.inr ⟨?_, hcov⟩⟩
    exact hline.imp_left fun hstale => by simp [exchangeArmed, hstale]
  | reset thread call hc =>
    refine Or.inl ⟨by simp, Or.inr ⟨?_, hcov.resetFor hN.rate hm call⟩⟩
    rcases hline with hstale | hline
    · by_cases hsame : call.state = call.wasArmed
      · exact Or.inl (by simp [finishCall, hsame, hstale])
      · exact Or.inr (lineDark_resetFor fun h => absurd h hsame)
    · exact Or.inr (lineDark_resetFor fun _ => hline)
  | setScannerSync offset => exact Or.inl ⟨by simp, Or.inr ⟨hline, hcov⟩⟩
  | setPointRate rate => exact Or.inl ⟨by simp, Or.inr ⟨hline, hcov⟩⟩

end Invariants

/-! ## Runs -/

section Runs

variable [FloatArith D] [DecidableEq F]

theorem le_countP_dark {m : ℕ} {points : List (LaserPoint F)} (h : ∀ p ∈ points.take m, p.Dark) :
    min m points.length ≤ points.countP (·.Dark) := by
  have hall : (points.take m).countP (·.Dark) = (points.take m).length :=
    List.countP_eq_length.mpr fun p hp => by simpa using h p hp
  rw [← List.length_take, ← hall]
  exact (List.take_sublist m points).countP_le

/-- A lit point stands behind all the points that are sure to be dark. -/
theorem le_countP_dark_of_lit {m : ℕ} {points rest : List (LaserPoint F)} {point : LaserPoint F}
    (h : ∀ p ∈ (points ++ point :: rest).take m, p.Dark) (hlit : point.Lit) :
    m ≤ points.countP (·.Dark) := by
  have hle : m ≤ points.length := by
    by_contra hlt
    refine hlit (h point ?_)
    rw [List.take_append, List.mem_append]
    refine Or.inr ?_
    obtain ⟨k, hk⟩ := Nat.exists_eq_succ_of_ne_zero (n := m - points.length) (by omega)
    simp [hk]
  have h' : ∀ p ∈ points.take m, p.Dark := fun p hp =>
    h p (by rw [List.take_append]; exact List.mem_append_left _ hp)
  have := le_countP_dark h'
  omega

/-- What one step does to the phase, and to a lit point of the batch it outputs. -/
theorem phase_step {N : ℕ} {s s' : Arming F D} {l : ArmingStep F D} {o : List (ArmingEvent F)}
    {count : Option ℕ} (h : Phase N s count) (hN : CounterInv N s) (hclean : BlanksStart N s l)
    (hstep : Arming.step s l = some (s', o)) :
    Phase N s' (o.foldl countDark count) ∧
      ∀ points point rest, o = [.batch (points ++ point :: rest)] → point.Lit →
        N ≤ match count with
          | none => 0
          | some n => n + points.countP (·.Dark) := by
  have hsingle := step_events hstep
  cases count with
  | none =>
    rcases Waiting.step h hN hclean hstep with ⟨rfl, hblank⟩ | ⟨hne, hwait, hdark⟩
    · exact ⟨hblank, by simp⟩
    · refine ⟨?_, fun points point rest ho hlit => ?_⟩
      · have hnone : o.foldl countDark none = none := by
          rcases hsingle with rfl | ⟨e, rfl⟩
          · rfl
          · cases e with
            | loaded wasArmed =>
              cases wasArmed with
              | true => exact absurd rfl hne
              | false => rfl
            | _ => rfl
        rw [hnone]
        exact hwait
      · exact absurd (hdark _ ho point (by simp)) hlit
  | some n =>
    rcases Blanking.step h (Nat.sub_le N n) hN hclean hstep with ⟨hne, hblank⟩ |
      ⟨points, rfl, hdark, hblank⟩
    · refine ⟨?_, fun points point rest ho _ => absurd ho (hne _)⟩
      have hsame : o.foldl countDark (some n) = some n := by
        rcases hsingle with rfl | ⟨e, rfl⟩
        · rfl
        · cases e with
          | batch points => exact absurd rfl (hne points)
          | loaded wasArmed => cases wasArmed <;> rfl
          | armed => rfl
      rw [hsame]
      exact hblank
    · constructor
      · show Blanking (N - (n + points.countP (·.Dark))) s'
        refine hblank.mono ?_
        have := le_countP_dark hdark
        omega
      · intro points' point rest ho hlit
        obtain rfl := ArmingEvent.batch.inj (List.singleton_inj.mp ho)
        have := le_countP_dark_of_lit hdark hlit
        show N ≤ n + _
        omega

/-- The invariant of runs whose steps blank every start. -/
structure StartupInv (N : ℕ) (tr : List (ArmingEvent F)) (s : Arming F D) : Prop where
  counter : CounterInv N s
  batches : StartsBlanked N tr
  phase : ∀ before since, tr = before ++ .armed :: since → Phase N s (since.foldl countDark none)

theorem StartupInv.init (pointRate : ℕ) (scannerSyncTime : D) (enabled suppressed : Bool) :
    StartupInv (millisToPoints pointRate (1.0 : D)) []
      ({ stage := fresh pointRate scannerSyncTime enabled suppressed } : Arming F D) where
  counter := ⟨rfl, Nat.zero_le _, by simp, by simp⟩
  batches := by
    intro before since points point rest after h
    simp at h
  phase := by simp

/-- **What one step preserves.** -/
theorem StartupInv.step {N : ℕ} {tr : List (ArmingEvent F)} {s s' : Arming F D}
    {l : ArmingStep F D} {o : List (ArmingEvent F)} (h : StartupInv N tr s)
    (hclean : BlanksStart N s l) (hl : ∀ rate, l ≠ .setPointRate rate)
    (hstep : Arming.step s l = some (s', o)) : StartupInv N (tr ++ o) s' := by
  have hphase := fun before since heq =>
    phase_step (h.phase before since heq) h.counter hclean hstep
  rcases step_events hstep with rfl | ⟨e, rfl⟩
  · rw [List.append_nil]
    exact ⟨h.counter.step hl hstep, h.batches, fun before since heq => (hphase before since heq).1⟩
  refine ⟨h.counter.step hl hstep, ?_, fun before since heq => ?_⟩
  · intro before since points point rest after heq hlit
    rw [← List.cons_append, ← List.append_assoc] at heq
    rcases concat_eq_append_cons heq with ⟨rfl, rfl, htr⟩ | ⟨after', rfl, htr⟩
    · exact (hphase before since htr).2 points point rest rfl hlit
    · exact h.batches before since points point rest after' (by simpa using htr) hlit
  · rcases concat_eq_append_cons heq with ⟨rfl, rfl, -⟩ | ⟨since', rfl, htr⟩
    · -- the flag went up in this step
      obtain ⟨thread, harmed, rfl, rfl⟩ := armed_step hstep
      exact Waiting.armed h.counter harmed hclean
    · rw [List.foldl_append]
      exact (hphase before since' htr).1

/-- **Blanking after arming**: in a run at a fixed point rate whose steps blank every start, a lit
point that is output after the flag went up comes after a millisecond of dark points. -/
theorem starts_blanked (pointRate : ℕ) (scannerSyncTime : D) (enabled suppressed : Bool)
    {labels : List (ArmingStep F D)} {s : Arming F D} {events : List (ArmingEvent F)}
    (hrate : ∀ rate, .setPointRate rate ∉ labels)
    (hrun : Runs.run step { stage := fresh pointRate scannerSyncTime enabled suppressed } labels =
      some (s, events))
    (hclean : Along step
      (fun _ s l => BlanksStart (millisToPoints pointRate (1.0 : D)) s l) []
      { stage := fresh pointRate scannerSyncTime enabled suppressed } labels) :
    StartsBlanked (millisToPoints pointRate (1.0 : D)) events := by
  have hlabels : ∀ l ∈ labels, ∀ rate, l ≠ .setPointRate rate := by
    rintro l hl rate rfl
    exact hrate rate hl
  exact (run_invariant (I := StartupInv (millisToPoints pointRate (1.0 : D)))
    (fun tr s l s' o h hG hstep => h.step hG.1 hG.2 hstep) (StartupInv.init _ _ _ _)
    (hclean.and (Along.of_forall hlabels _ _)) hrun).batches

end Runs

/-! ## A start that is not blanked -/

/-- A pass loads the counter of a disarmed controller, the controller is armed, and the pass goes
on: its red point is the first point output. -/
theorem lit_at_start : ∃ (labels : List (ArmingStep ℚ ℚ)) (s : Arming ℚ ℚ)
    (events : List (ArmingEvent ℚ)), (∀ rate, .setPointRate rate ∉ labels) ∧
      Runs.run step { stage := fresh 1000 (0 : ℚ) true false } labels = some (s, events) ∧
      ¬ StartsBlanked (millisToPoints 1000 (1.0 : ℚ)) events := by
  have hevents : (Runs.run step { stage := fresh 1000 (0 : ℚ) true false }
      [.begin [{ (default : LaserPoint ℚ) with r := 1 }], .exchange 0 true, .reset 0,
        .storeCounter, .loadArmed, .delayLine]).map (·.2) =
      some [.armed, .loaded true, .batch [{ (default : LaserPoint ℚ) with r := 1 }]] := by
    decide +kernel
  obtain ⟨⟨s, events⟩, hrun, rfl⟩ := Option.map_eq_some_iff.mp hevents
  refine ⟨_, s, _, by simp, hrun, fun hblank => ?_⟩
  have hN := hblank [] [.loaded true] [] _ [] [] rfl (by decide +kernel)
  exact absurd hN (by decide +kernel)

/-- Armed between two passes, the controller blanks the first millisecond. -/
theorem starts_blanked_between_passes : ∃ (s : Arming ℚ ℚ) (points : List (LaserPoint ℚ)),
    Runs.run step { stage := fresh 1000 (0 : ℚ) true false }
      [.exchange 0 true, .reset 0,
        .begin (List.replicate 2 { (default : LaserPoint ℚ) with r := 1 }), .storeCounter,
        .loadArmed, .delayLine] = some (s, [.armed, .loaded true, .batch points]) ∧
      (∃ p ∈ points, p.Lit) ∧ StartsBlanked (millisToPoints 1000 (1.0 : ℚ))
        [.armed, .loaded true, .batch points] := by
  have hevents : (Runs.run step { stage := fresh 1000 (0 : ℚ) true false }
      [.exchange 0 true, .reset 0,
        .begin (List.replicate 2 { (default : LaserPoint ℚ) with r := 1 }), .storeCounter,
        .loadArmed, .delayLine]).map (·.2) =
      some [.armed, .loaded true, .batch [default, { (default : LaserPoint ℚ) with r := 1 }]] := by
    decide +kernel
  obtain ⟨⟨s, events⟩, hrun, rfl⟩ := Option.map_eq_some_iff.mp hevents
  exact ⟨s, _, hrun, by decide +kernel,
    starts_blanked 1000 (0 : ℚ) true false (by simp) hrun (by decide +kernel)⟩

end LiberaLaser.Arming
