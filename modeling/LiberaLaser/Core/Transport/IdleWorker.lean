import LiberaLaser.Core.Transport.BufferEstimator
import LiberaLaser.Foundations.Runs

/-!
# Workers that pace themselves by a snapshot

The worker of a LaserCube makes passes: it estimates the fullness of the device from a snapshot,
asks for points where the estimate is below its target, and takes a new snapshot where it sent some.
While nothing is supplied to it the worker is idle, and every pass works from the same snapshots
(`run_idle`). What a pass reads comes from outside: the clock, the target latency, and what became
of its request and of its packet.
-/

namespace LiberaLaser

open FloatArith BufferEstimator Runs

/-- What a pass reads: the clock, the target latency in milliseconds, the clock once more for the
render time, the number of points supplied, and the time of a successful transfer. -/
structure PassInput where
  now : TimePoint
  targetLatency : ℤ
  renderNow : TimePoint
  supplied : Option ℕ
  sentAt : Option TimePoint

/-- What a pass computed. -/
structure PassReport where
  now : TimePoint
  estimate : ℤ
  target : ℤ
  request : Option PointFillRequest

/-- The request is refused, or answered without points. -/
def PassInput.Idle (input : PassInput) : Prop := input.supplied = none ∨ input.supplied = some 0

namespace IdleWorker

variable {σ : Type}

/-- A worker as a system that reports its passes. -/
def step (sendPoints : PassInput → σ → σ × PassReport) (s : σ) (input : PassInput) :
    Option (σ × List PassReport) :=
  some ((sendPoints input s).1, [(sendPoints input s).2])

/-- **Idle passes** that keep the state all report on the same state. -/
theorem run_idle {sendPoints : PassInput → σ → σ × PassReport} {s : σ}
    (hkeep : ∀ input : PassInput, input.Idle → (sendPoints input s).1 = s) {inputs : List PassInput}
    (hidle : ∀ input ∈ inputs, input.Idle) :
    run (step sendPoints) s inputs =
      some (s, inputs.map fun input => (sendPoints input s).2) := by
  induction inputs with
  | nil => rfl
  | cons input inputs ih =>
    have hs := hkeep input (hidle input List.mem_cons_self)
    have hrest := ih fun i hi => hidle i (List.mem_cons_of_mem _ hi)
    rw [run_cons_eq_some]
    refine ⟨s, [(sendPoints input s).2], _, ?_, hrest, rfl⟩
    rw [step, hs]

/-- The passes of an idle worker, in the order of time, between two instants. -/
structure IdlePasses (start horizon : ℤ) (targetLatency : ℤ) (inputs : List PassInput) : Prop where
  idle : ∀ input ∈ inputs, input.Idle
  within : ∀ input ∈ inputs, start ≤ input.now ∧ input.now ≤ horizon
  latency : ∀ input ∈ inputs, input.targetLatency = targetLatency
  ordered : inputs.Pairwise fun earlier later => earlier.now ≤ later.now

/-- A later pass estimates no more than an earlier one, and asks for points if that one did. -/
def NeverRises (earlier later : PassReport) : Prop :=
  later.estimate ≤ earlier.estimate ∧ (earlier.request.isSome → later.request.isSome)

/-- While the worker is idle its estimate never rises, it goes on asking for points, and it asks for
them as soon as its estimate is below its target. -/
def RefillsWhileIdle (sendPoints : PassInput → σ → σ × PassReport) (s : σ)
    (start horizon : ℤ) : Prop :=
  ∀ targetLatency inputs, IdlePasses start horizon targetLatency inputs →
    ∃ trace, run (step sendPoints) s inputs = some (s, trace) ∧ trace.Pairwise NeverRises ∧
      ∀ report ∈ trace, report.estimate < report.target → report.request.isSome

/-- A worker refills while idle if what it reports of a fixed state does so by the readings. -/
theorem refills_of_reports {sendPoints : PassInput → σ → σ × PassReport} {s : σ}
    {start horizon : ℤ}
    (hkeep : ∀ input : PassInput, input.Idle → (sendPoints input s).1 = s)
    (hrises : ∀ earlier later : PassInput, earlier.targetLatency = later.targetLatency →
      start ≤ earlier.now → earlier.now ≤ later.now → later.now ≤ horizon →
        NeverRises (sendPoints earlier s).2 (sendPoints later s).2)
    (hasks : ∀ input : PassInput, (sendPoints input s).2.estimate < (sendPoints input s).2.target →
      (sendPoints input s).2.request.isSome) :
    RefillsWhileIdle sendPoints s start horizon := by
  intro targetLatency inputs hpasses
  refine ⟨_, run_idle hkeep hpasses.idle, ?_, ?_⟩
  · rw [List.pairwise_map]
    refine hpasses.ordered.imp_of_mem ?_
    intro earlier later hearlier hlater hle
    exact hrises earlier later
      ((hpasses.latency earlier hearlier).trans (hpasses.latency later hlater).symm)
      (hpasses.within earlier hearlier).1 hle (hpasses.within later hlater).2
  · intro report hreport
    obtain ⟨input, -, rfl⟩ := List.mem_map.mp hreport
    exact hasks input

end IdleWorker

/-! ## The decay of a snapshot read by a worker -/

namespace BufferEstimator

variable {fullness snapshotTime start horizon : ℤ} {pointRate : ℕ}

/-- No reading after `start` sees a snapshot come into view: a snapshot less than a microsecond old
is not projected, and the workers take it for empty. -/
def Settled (start horizon fullness snapshotTime : ℤ) (pointRate : ℕ) : Prop :=
  ¬ Projects snapshotTime pointRate start → Projects snapshotTime pointRate horizon →
    remaining fullness pointRate 1 ≤ 0

instance : Decidable (Settled start horizon fullness snapshotTime pointRate) :=
  inferInstanceAs (Decidable (_ → _ → _))

theorem calculate_of_not_projects (D : Type) [FloatArith D] {now : ℤ}
    (h : ¬ Projects snapshotTime pointRate now) :
    calculateBufferFullnessFromSnapshot D fullness snapshotTime pointRate 0 now = 0 := by
  simp [calculateBufferFullnessFromSnapshot, estimate_of_not_projects h]

theorem calculate_of_fits {now : ℤ} (hhi : fullness < 2 ^ 31)
    (hfits : Fits fullness snapshotTime pointRate now) (h : Projects snapshotTime pointRate now) :
    calculateBufferFullnessFromSnapshot ℚ fullness snapshotTime pointRate 0 now =
      max 0 (remaining fullness pointRate ((now - snapshotTime).tdiv 1000)) := by
  simp [calculateBufferFullnessFromSnapshot, estimate_of_fits hhi hfits h]

/-- What a worker reads of a snapshot that fits never rises. -/
theorem calculate_anti (hhi : fullness < 2 ^ 31)
    (hfits : Fits fullness snapshotTime pointRate horizon)
    (hsettled : Settled start horizon fullness snapshotTime pointRate) {earlier later : ℤ}
    (hstart : start ≤ earlier) (hle : earlier ≤ later) (hhorizon : later ≤ horizon) :
    calculateBufferFullnessFromSnapshot ℚ fullness snapshotTime pointRate 0 later ≤
      calculateBufferFullnessFromSnapshot ℚ fullness snapshotTime pointRate 0 earlier := by
  have hlater := hfits.anti hhorizon
  by_cases h' : Projects snapshotTime pointRate later
  · rw [calculate_of_fits hhi hlater h']
    by_cases h : Projects snapshotTime pointRate earlier
    · rw [calculate_of_fits hhi (hlater.anti hle) h]
      exact max_le_max le_rfl (remaining_anti_time h hle)
    · rw [calculate_of_not_projects ℚ h]
      -- the snapshot comes into view between the two readings, and is empty by then
      have hone := hsettled (fun hproj => h (hproj.mono hstart)) (h'.mono hhorizon)
      have hage := h'.2.2
      have hremaining := remaining_anti fullness pointRate
        (u := 1) (v := (later - snapshotTime).tdiv 1000) (by
          rw [Int.tdiv_eq_ediv_of_nonneg (by omega)]
          omega)
      exact max_le le_rfl (hremaining.trans hone)
  · rw [calculate_of_not_projects ℚ h']
    exact calculateBufferFullnessFromSnapshot_nonneg ℚ _ _ _ _ _

end BufferEstimator

end LiberaLaser
