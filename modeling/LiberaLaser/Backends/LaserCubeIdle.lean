import LiberaLaser.Backends.LaserCubeNet
import LiberaLaser.Backends.LaserCubeUsb

/-!
# Idle LaserCubes

An idle worker goes on draining its last snapshot. Its estimate falls to zero and stays there, so
that the worker asks for points again, until what was drained beyond the snapshot no longer fits
into an `int`: after some twenty hours at thirty thousand points a second the estimate jumps to the
top of the range, and the worker asks for nothing until another such time has passed
(`decays_iff_fits`).
-/

namespace LiberaLaser

open FloatArith BufferEstimator IdleWorker

namespace LaserCubeUsbController

variable {c : LaserCubeUsbController} {start horizon : ℤ}

/-- A worker over USB refills while its snapshot fits. -/
theorem refills_of_fits (hhi : c.lastDataSentBufferSize < 2 ^ 31)
    (hfits : Fits c.lastDataSentBufferSize c.lastDataSentTime c.lastSentPointRate horizon)
    (hsettled : Settled start horizon c.lastDataSentBufferSize c.lastDataSentTime
      c.lastSentPointRate) :
    RefillsWhileIdle (sendPoints ℚ) c start horizon := by
  apply refills_of_reports
  · exact fun input hidle => sendPoints_idle hidle
  · intro earlier later hlatency hstart hle hhorizon
    have hanti : c.estimateBufferFullness ℚ later.now ≤ c.estimateBufferFullness ℚ earlier.now :=
      calculate_anti hhi hfits hsettled hstart hle hhorizon
    simp only [NeverRises, sendPoints_report, report, isSome_fillRequest, hlatency]
    refine ⟨hanti, ?_⟩
    rintro ⟨hhandle, hrate, hbelow⟩
    exact ⟨hhandle, hrate, hanti.trans_lt hbelow⟩
  · intro input hbelow
    rw [sendPoints_report] at hbelow ⊢
    simp only [report] at hbelow ⊢
    rw [isSome_fillRequest]
    split_ifs at hbelow with hready
    · exact ⟨hready.1, hready.2, hbelow⟩
    · have hnonneg : 0 ≤ c.estimateBufferFullness ℚ input.now :=
        calculateBufferFullnessFromSnapshot_nonneg ℚ _ _ _ _ _
      omega

end LaserCubeUsbController

namespace LaserCubeNetController

variable {c : LaserCubeNetController} {start horizon : ℤ}

/-- A worker over the network refills while both its snapshots fit. -/
theorem refills_of_fits (hsent : c.lastDataSentBufferSize < 2 ^ 31)
    (hreported : c.lastReportedBufferFullness < 2 ^ 31)
    (hfits : Fits c.lastDataSentBufferSize c.lastDataSentTime c.lastSentPointRate horizon)
    (hsettled : Settled start horizon c.lastDataSentBufferSize c.lastDataSentTime
      c.lastSentPointRate)
    (hfits' : Fits c.lastReportedBufferFullness c.lastAckTime c.lastSentPointRate horizon)
    (hsettled' : Settled start horizon c.lastReportedBufferFullness c.lastAckTime
      c.lastSentPointRate) :
    RefillsWhileIdle (sendPoints ℚ) c start horizon := by
  apply refills_of_reports
  · exact fun input hidle => sendPoints_idle hidle
  · intro earlier later hlatency hstart hle hhorizon
    have hanti : c.minEstimatedBufferFullness ℚ later.now ≤
        c.minEstimatedBufferFullness ℚ earlier.now :=
      max_le_max (calculate_anti hsent hfits hsettled hstart hle hhorizon)
        (calculate_anti hreported hfits' hsettled' hstart hle hhorizon)
    simp only [NeverRises, sendPoints_report, report, isSome_fillRequest, hlatency]
    exact ⟨hanti, fun hbelow => hanti.trans_lt hbelow⟩
  · intro input hbelow
    rw [sendPoints_report] at hbelow ⊢
    exact isSome_fillRequest.mpr hbelow

end LaserCubeNetController

variable {fullness snapshotTime start horizon : ℤ} {pointRate : ℕ}

/-- A connected worker over USB that last sent at the snapshot. -/
def usbWorkerAfter (fullness snapshotTime : ℤ) (pointRate : ℕ) : LaserCubeUsbController where
  usbHandle := true
  lastSentPointRate := pointRate
  maxSamplesPerTransfer := 0
  lastDataSentTime := snapshotTime
  lastDataSentBufferSize := fullness

/-- A pass that is refused its points. -/
def refusedPass (now : TimePoint) : PassInput where
  now := now
  targetLatency := 0
  renderNow := now
  supplied := none
  sentAt := none

/-- A worker that refills while idle has not seen its snapshot come into view. -/
theorem settled_of_refills (hfits : Fits fullness snapshotTime pointRate horizon)
    (hhi : fullness < 2 ^ 31)
    (h : RefillsWhileIdle (LaserCubeUsbController.sendPoints ℚ)
      (usbWorkerAfter fullness snapshotTime pointRate) start horizon) :
    Settled start horizon fullness snapshotTime pointRate := by
  intro hbefore hafter
  obtain ⟨hrate, htime, hage⟩ := hafter
  have hstart : start < snapshotTime + 1000 := by
    by_contra hle
    exact hbefore ⟨hrate, htime, by omega⟩
  have hview : Projects snapshotTime pointRate (snapshotTime + 1000) := ⟨hrate, htime, by omega⟩
  have hend : snapshotTime + 1000 ≤ horizon := by omega
  have hpasses : IdlePasses start horizon 0
      [refusedPass start, refusedPass (snapshotTime + 1000)] := by
    constructor
    · simp [PassInput.Idle, refusedPass]
    · simp only [List.mem_cons, List.not_mem_nil, or_false, forall_eq_or_imp, forall_eq,
        refusedPass]
      exact ⟨⟨le_rfl, hstart.le.trans hend⟩, hstart.le, hend⟩
    · simp [refusedPass]
    · simp only [List.pairwise_cons, List.mem_singleton, forall_eq, List.not_mem_nil,
        IsEmpty.forall_iff, implies_true, List.Pairwise.nil, and_true, refusedPass]
      exact hstart.le
  obtain ⟨trace, hrun, htrace, -⟩ := h 0 _ hpasses
  rw [run_idle (fun _ hidle => LaserCubeUsbController.sendPoints_idle hidle) hpasses.idle] at hrun
  simp only [Option.some.injEq, Prod.mk.injEq, true_and] at hrun
  subst hrun
  obtain ⟨hrises, -⟩ := (List.pairwise_pair.mp htrace)
  simp only [LaserCubeUsbController.sendPoints_report, LaserCubeUsbController.report, refusedPass,
    LaserCubeUsbController.estimateBufferFullness, usbWorkerAfter,
    calculate_of_not_projects ℚ hbefore, calculate_of_fits hhi (hfits.anti hend) hview]
    at hrises
  have helapsed : (snapshotTime + 1000 - snapshotTime).tdiv 1000 = 1 := by
    rw [add_sub_cancel_left]
    rfl
  rw [helapsed] at hrises
  exact (le_max_right _ _).trans hrises

/-- **When estimates decay**: between two instants the estimate from a snapshot stays within the
snapshot and never rises, and every idle LaserCube that goes by this snapshot refills, exactly if
what was drained fits into an `int` and no pass reads the clock in the snapshot's first microsecond
while points are left in it. -/
theorem decays_iff_fits (hlo : 0 ≤ fullness) (hhi : fullness < 2 ^ 31)
    (hrate : pointRate < 2 ^ 32) (start horizon : ℤ) :
    (DecaysUntil horizon fullness snapshotTime pointRate ∧
      (∀ c : LaserCubeUsbController, c.lastDataSentBufferSize = fullness →
        c.lastDataSentTime = snapshotTime → c.lastSentPointRate = pointRate →
        RefillsWhileIdle (LaserCubeUsbController.sendPoints ℚ) c start horizon) ∧
      (∀ c : LaserCubeNetController, c.lastDataSentBufferSize = fullness →
        c.lastDataSentTime = snapshotTime → c.lastSentPointRate = pointRate →
        c.lastReportedBufferFullness < 2 ^ 31 →
        Fits c.lastReportedBufferFullness c.lastAckTime pointRate horizon →
        Settled start horizon c.lastReportedBufferFullness c.lastAckTime pointRate →
        RefillsWhileIdle (LaserCubeNetController.sendPoints ℚ) c start horizon)) ↔
      Fits fullness snapshotTime pointRate horizon ∧
        Settled start horizon fullness snapshotTime pointRate := by
  constructor
  · rintro ⟨hdecays, husb, -⟩
    have hfits := fits_of_decays hlo hhi hrate hdecays
    exact ⟨hfits, settled_of_refills hfits hhi (husb (usbWorkerAfter fullness snapshotTime
      pointRate) rfl rfl rfl)⟩
  · rintro ⟨hfits, hsettled⟩
    refine ⟨decays_of_fits hlo hhi hfits, ?_, ?_⟩
    · rintro c rfl rfl rfl
      exact LaserCubeUsbController.refills_of_fits hhi hfits hsettled
    · rintro c rfl rfl rfl hreported hfits' hsettled'
      exact LaserCubeNetController.refills_of_fits hhi hreported hfits hsettled hfits' hsettled'

/-- A full buffer of a second at thirty thousand points a second decays for an hour. -/
theorem decays_for_an_hour :
    DecaysUntil 3600000001000 1024 1000 30000 ∧
      (∀ c : LaserCubeUsbController, c.lastDataSentBufferSize = 1024 → c.lastDataSentTime = 1000 →
        c.lastSentPointRate = 30000 →
        RefillsWhileIdle (LaserCubeUsbController.sendPoints ℚ) c 2000 3600000001000) ∧
      (∀ c : LaserCubeNetController, c.lastDataSentBufferSize = 1024 → c.lastDataSentTime = 1000 →
        c.lastSentPointRate = 30000 → c.lastReportedBufferFullness < 2 ^ 31 →
        Fits c.lastReportedBufferFullness c.lastAckTime 30000 3600000001000 →
        Settled 2000 3600000001000 c.lastReportedBufferFullness c.lastAckTime 30000 →
        RefillsWhileIdle (LaserCubeNetController.sendPoints ℚ) c 2000 3600000001000) :=
  (decays_iff_fits (by decide) (by decide) (by decide) 2000 3600000001000).mpr (by decide +kernel)

/-- **Estimates do not decay for ever**: 71583 seconds after an empty snapshot at thirty thousand
points a second, the estimate rises from zero to more than two thousand million points. -/
theorem estimate_rises_when_idle :
    ¬ ∀ (fullness snapshotTime horizon : ℤ) (pointRate : ℕ), 0 ≤ fullness → fullness < 2 ^ 31 →
      pointRate < 2 ^ 32 → DecaysUntil horizon fullness snapshotTime pointRate := by
  intro h
  obtain ⟨-, -, hle⟩ := h 0 1000 71583000001000 30000 (by decide) (by decide) (by decide)
    71582000001000 71583000001000 (by decide) le_rfl
  exact absurd hle (by decide +kernel)

end LiberaLaser
