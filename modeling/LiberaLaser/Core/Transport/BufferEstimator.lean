import LiberaLaser.Core.LaserPoint
import Mathlib.Algebra.Order.Ring.Rat
import Mathlib.Tactic.Linarith
import Mathlib.Tactic.Ring
import Mathlib.Tactic.FieldSimp
import Mathlib.Tactic.NormNum

/-!
# The buffer estimator

Transports without exact telemetry estimate how full the device's buffer is: a snapshot of its
fullness is drained at the point rate for the time elapsed since. The result is narrowed to a 32-bit
integer. In exact arithmetic the estimate decays, from the fullness of the snapshot down to zero,
until the points drained outnumber the snapshot by more than `2 ^ 31`; then the conversion wraps and
the estimate jumps up (`decays_iff_fits`).
-/

namespace LiberaLaser

open FloatArith

variable {D : Type}

/-- The conversion of a 64-bit integer to `int`. -/
def narrow (a : ℤ) : ℤ := a.bmod (2 ^ 32)

/-- `std::clamp` of integers. -/
def clampInt (a lo hi : ℤ) : ℤ := if a < lo then lo else if hi < a then hi else a

/-- `static_cast` from a signed integer. -/
def FloatArith.ofInt [FloatArith D] (a : ℤ) : D := if a < 0 then -ofNat a.natAbs else ofNat a.toNat

theorem clampInt_bounds {a lo hi : ℤ} (h : lo ≤ hi) :
    lo ≤ clampInt a lo hi ∧ clampInt a lo hi ≤ hi := by
  unfold clampInt
  split_ifs <;> constructor <;> omega

theorem narrow_of_fits {a : ℤ} (hlo : -2 ^ 31 ≤ a) (hhi : a < 2 ^ 31) : narrow a = a :=
  Int.bmod_eq_of_le (by omega) (by omega)

/-- A value that falls below the range of an `int` by a little comes out near its top. -/
theorem narrow_of_below {a : ℤ} (hlo : -2 ^ 32 ≤ a) (hhi : a < -2 ^ 31) :
    narrow a = a + 2 ^ 32 := by
  have hadd : narrow a = (a + ((2 ^ 32 : ℕ) : ℤ)).bmod (2 ^ 32) := (Int.add_bmod_right a _).symm
  rw [hadd]
  exact Int.bmod_eq_of_le (by norm_num; omega) (by norm_num; omega)

namespace BufferEstimator

/-- An estimate, and whether it was projected from the snapshot. -/
structure BufferEstimate where
  bufferFullness : ℤ := 0
  projected : Bool := false
  deriving DecidableEq

section Model

variable (D) [FloatArith D]

/-- Drain a snapshot for the time since. -/
def estimateFromSnapshot (snapshotBufferFullness : ℤ) (snapshotTime : TimePoint) (pointRate : ℕ)
    (now : TimePoint) : BufferEstimate :=
  if pointRate = 0 then ⟨snapshotBufferFullness, false⟩
  else if snapshotTime = 0 then ⟨snapshotBufferFullness, false⟩
  else
    let elapsed := now - snapshotTime
    if elapsed ≤ 0 then ⟨snapshotBufferFullness, false⟩
    else
      let elapsedUs := elapsed.tdiv 1000
      if elapsedUs ≤ 0 then ⟨snapshotBufferFullness, false⟩
      else
        let consumed : D := ofNat pointRate * ofInt elapsedUs / 1000000.0
        let estimated := narrow (llround (ofInt snapshotBufferFullness - consumed : D))
        ⟨max 0 estimated, true⟩

/-- The fullness to aim at: the points of the target latency, between a floor and the capacity less
a headroom. -/
def targetBufferPoints (pointRate : ℕ) (bufferCapacity targetLatency minimumBufferFloor
    safetyHeadroomPoints : ℤ) : ℤ :=
  if bufferCapacity ≤ 0 then 0
  else
    let minimumTarget := clampInt minimumBufferFloor 0 bufferCapacity
    if pointRate = 0 then minimumTarget
    else
      let latencyMs := max 0 targetLatency
      let requestedFromTime : D := ofNat pointRate * ofInt latencyMs / 1000.0
      let requested := narrow (llround requestedFromTime)
      let maxSafetyHeadroom := max 0 (bufferCapacity - minimumTarget)
      let safetyHeadroom := clampInt safetyHeadroomPoints 0 maxSafetyHeadroom
      let maximumTarget := max minimumTarget (bufferCapacity - safetyHeadroom)
      clampInt requested minimumTarget maximumTarget

/-- The streaming controllers' use of the estimator: a fallback stands in for an estimate that could
not be projected. -/
def calculateBufferFullnessFromSnapshot (snapshotBufferFullness : ℤ) (snapshotTime : TimePoint)
    (rate : ℕ) (fallbackBufferFullness : ℤ) (now : TimePoint) : ℤ :=
  let estimate := estimateFromSnapshot D snapshotBufferFullness snapshotTime rate now
  if !estimate.projected then max 0 fallbackBufferFullness else max 0 estimate.bufferFullness

/-- `LaserControllerStreaming::clampBufferFullnessToCapacity`. -/
def clampBufferFullnessToCapacity (pointsInBuffer totalBufferPoints : ℤ) : ℤ :=
  if totalBufferPoints ≤ 0 then 0 else clampInt pointsInBuffer 0 totalBufferPoints

/-- The target never exceeds the capacity. -/
theorem targetBufferPoints_bounds (pointRate : ℕ) {bufferCapacity : ℤ}
    (targetLatency minimumBufferFloor safetyHeadroomPoints : ℤ) (hcapacity : 0 ≤ bufferCapacity) :
    0 ≤ targetBufferPoints D pointRate bufferCapacity targetLatency minimumBufferFloor
        safetyHeadroomPoints ∧
      targetBufferPoints D pointRate bufferCapacity targetLatency minimumBufferFloor
        safetyHeadroomPoints ≤ bufferCapacity := by
  unfold targetBufferPoints
  split_ifs with h hrate
  · exact ⟨le_rfl, hcapacity⟩
  · exact clampInt_bounds hcapacity
  · obtain ⟨hmin, hmin'⟩ := clampInt_bounds (a := minimumBufferFloor) hcapacity
    simp only
    set minimumTarget := clampInt minimumBufferFloor 0 bufferCapacity
    obtain ⟨hroom, -⟩ := clampInt_bounds (a := safetyHeadroomPoints)
      (le_max_left 0 (bufferCapacity - minimumTarget))
    set safetyHeadroom := clampInt safetyHeadroomPoints 0 (max 0 (bufferCapacity - minimumTarget))
    obtain ⟨hlo, hhi⟩ := clampInt_bounds
      (a := narrow (llround (ofNat pointRate * ofInt (max 0 targetLatency) / 1000.0 : D)))
      (le_max_left minimumTarget (bufferCapacity - safetyHeadroom))
    exact ⟨hmin.trans hlo, hhi.trans (max_le hmin' (by omega))⟩

theorem calculateBufferFullnessFromSnapshot_nonneg (snapshotBufferFullness : ℤ)
    (snapshotTime : TimePoint) (rate : ℕ) (fallbackBufferFullness : ℤ) (now : TimePoint) :
    0 ≤ calculateBufferFullnessFromSnapshot D snapshotBufferFullness snapshotTime rate
      fallbackBufferFullness now := by
  unfold calculateBufferFullnessFromSnapshot
  simp only
  split <;> exact le_max_left _ _

end Model

/-! ## Exact arithmetic -/

/-- The conversion from an integer is exact. -/
theorem ofInt_rat (a : ℤ) : (ofInt a : ℚ) = a := by
  unfold ofInt
  split
  · rename_i h
    have hcast : ((a.natAbs : ℤ) : ℚ) = ((-a : ℤ) : ℚ) := by
      rw [Int.ofNat_natAbs_of_nonpos (le_of_lt h)]
    change -((a.natAbs : ℕ) : ℚ) = a
    rw [← Int.cast_natCast, hcast, Int.cast_neg, neg_neg]
  · rename_i h
    change ((a.toNat : ℕ) : ℚ) = a
    rw [← Int.cast_natCast, Int.toNat_of_nonneg (not_lt.mp h)]

/-- Truncation rounds down what is not negative. -/
theorem trunc_of_nonneg {a : ℚ} (h : 0 ≤ a) : trunc a = a.floor := by
  change a.num.tdiv a.den = a.floor
  rw [Rat.floor_def, Int.tdiv_eq_ediv_of_nonneg (Rat.num_nonneg.mpr h)]

/-- `llround` is within one half of its argument. -/
theorem llround_bounds (a : ℚ) :
    a - 1 / 2 ≤ (llround a : ℤ) ∧ ((llround a : ℤ) : ℚ) ≤ a + 1 / 2 := by
  change a - 1 / 2 ≤ (if 0 ≤ a then (a + 1 / 2).floor else -(1 / 2 - a).floor : ℤ) ∧
    ((if 0 ≤ a then (a + 1 / 2).floor else -(1 / 2 - a).floor : ℤ) : ℚ) ≤ a + 1 / 2
  split
  · have hle := Rat.floor_le (a + 1 / 2)
    have hlt := Rat.lt_floor_add_one (a + 1 / 2)
    push_cast at hlt
    constructor <;> linarith
  · have hle := Rat.floor_le (1 / 2 - a)
    have hlt := Rat.lt_floor_add_one (1 / 2 - a)
    push_cast at hlt ⊢
    constructor <;> linarith

theorem llround_mono {a b : ℚ} (h : a ≤ b) : llround a ≤ llround b := by
  change (if 0 ≤ a then (a + 1 / 2).floor else -(1 / 2 - a).floor : ℤ) ≤
    if 0 ≤ b then (b + 1 / 2).floor else -(1 / 2 - b).floor
  split_ifs with ha hb hb
  · exact Rat.floor_monotone (by linarith)
  · exact absurd (ha.trans h) hb
  · have hpos : (0 : ℤ) ≤ (b + 1 / 2).floor := Rat.le_floor_iff.mpr (by push_cast; linarith)
    have hneg : (0 : ℤ) ≤ (1 / 2 - a).floor := Rat.le_floor_iff.mpr (by push_cast; linarith)
    omega
  · exact neg_le_neg (Rat.floor_monotone (by linarith))

@[simp] theorem llround_intCast (n : ℤ) : llround (n : ℚ) = n := by
  obtain ⟨hlo, hhi⟩ := llround_bounds (n : ℚ)
  have h₁ : ((n - 1 : ℤ) : ℚ) < llround (n : ℚ) := by push_cast; linarith
  have h₂ : (llround (n : ℚ) : ℚ) < ((n + 1 : ℤ) : ℚ) := by push_cast; linarith
  have h₁ := Int.cast_lt.mp h₁
  have h₂ := Int.cast_lt.mp h₂
  omega

/-- The points left of a snapshot after some microseconds, or how many more were drained. -/
def remaining (fullness : ℤ) (pointRate : ℕ) (elapsedUs : ℤ) : ℤ :=
  llround ((fullness : ℚ) - pointRate * elapsedUs / 1000000)

theorem remaining_zero (fullness : ℤ) (pointRate : ℕ) :
    remaining fullness pointRate 0 = fullness := by
  simp [remaining]

theorem remaining_anti (fullness : ℤ) (pointRate : ℕ) {u v : ℤ} (h : u ≤ v) :
    remaining fullness pointRate v ≤ remaining fullness pointRate u := by
  refine llround_mono ?_
  have hcast : (u : ℚ) ≤ v := by exact_mod_cast h
  have hmul : (pointRate : ℚ) * u ≤ pointRate * v :=
    mul_le_mul_of_nonneg_left hcast (Nat.cast_nonneg _)
  linarith

theorem remaining_mono {fullness fullness' : ℤ} (h : fullness ≤ fullness') (pointRate : ℕ)
    (u : ℤ) : remaining fullness pointRate u ≤ remaining fullness' pointRate u := by
  refine llround_mono ?_
  have hcast : (fullness : ℚ) ≤ fullness' := by exact_mod_cast h
  linarith

/-- One microsecond drains at most 4297 points at any 32-bit rate. -/
theorem remaining_succ (fullness : ℤ) {pointRate : ℕ} (hrate : pointRate < 2 ^ 32) (u : ℤ) :
    remaining fullness pointRate u - 4297 ≤ remaining fullness pointRate (u + 1) := by
  obtain ⟨-, hhi⟩ := llround_bounds ((fullness : ℚ) - pointRate * u / 1000000)
  obtain ⟨hlo, -⟩ := llround_bounds ((fullness : ℚ) - pointRate * (u + 1 : ℤ) / 1000000)
  have hr : (pointRate : ℚ) ≤ 4294967296 := by exact_mod_cast hrate.le
  have hcast : ((remaining fullness pointRate u - 4297 : ℤ) : ℚ) ≤
      remaining fullness pointRate (u + 1) := by
    unfold remaining
    push_cast at hlo ⊢
    linarith
  exact_mod_cast hcast

/-- The estimate is projected: there is a snapshot, a rate, and a microsecond in between. -/
def Projects (snapshotTime : ℤ) (pointRate : ℕ) (now : ℤ) : Prop :=
  pointRate ≠ 0 ∧ snapshotTime ≠ 0 ∧ 1000 ≤ now - snapshotTime

/-- What is left of the snapshot fits into an `int`. -/
def Fits (fullness : ℤ) (snapshotTime : ℤ) (pointRate : ℕ) (now : ℤ) : Prop :=
  Projects snapshotTime pointRate now →
    -2 ^ 31 ≤ remaining fullness pointRate ((now - snapshotTime).tdiv 1000)

variable {fullness snapshotTime now : ℤ} {pointRate : ℕ}

instance : Decidable (Projects snapshotTime pointRate now) :=
  inferInstanceAs (Decidable (_ ∧ _ ∧ _))

instance : Decidable (Fits fullness snapshotTime pointRate now) :=
  inferInstanceAs (Decidable (_ → _))

theorem estimate_of_not_projects [FloatArith D] (h : ¬ Projects snapshotTime pointRate now) :
    estimateFromSnapshot D fullness snapshotTime pointRate now = ⟨fullness, false⟩ := by
  unfold estimateFromSnapshot
  simp only
  split_ifs with hrate htime helapsed hus
  · rfl
  · rfl
  · rfl
  · rfl
  · refine absurd ⟨hrate, htime, ?_⟩ h
    have hpos : 0 < now - snapshotTime := not_le.mp helapsed
    rw [Int.tdiv_eq_ediv_of_nonneg hpos.le] at hus
    omega

theorem estimate_of_projects (h : Projects snapshotTime pointRate now) :
    estimateFromSnapshot ℚ fullness snapshotTime pointRate now =
      ⟨max 0 (narrow (remaining fullness pointRate ((now - snapshotTime).tdiv 1000))), true⟩ := by
  obtain ⟨hrate, htime, helapsed⟩ := h
  have hpos : 0 < (now - snapshotTime).tdiv 1000 := by
    rw [Int.tdiv_eq_ediv_of_nonneg (by omega)]
    omega
  rw [estimateFromSnapshot, if_neg hrate, if_neg htime]
  simp only [if_neg (show ¬ now - snapshotTime ≤ 0 by omega), if_neg (not_le.mpr hpos), remaining,
    ofInt_rat]
  norm_num [FloatArith.ofNat]

/-- Later readings of the clock project once earlier ones do. -/
theorem Projects.mono {later : ℤ} (h : Projects snapshotTime pointRate now)
    (hle : now ≤ later) : Projects snapshotTime pointRate later :=
  ⟨h.1, h.2.1, h.2.2.trans (by omega)⟩

theorem remaining_anti_time (h : Projects snapshotTime pointRate now) {later : ℤ}
    (hle : now ≤ later) :
    remaining fullness pointRate ((later - snapshotTime).tdiv 1000) ≤
      remaining fullness pointRate ((now - snapshotTime).tdiv 1000) := by
  have := h.2.2
  refine remaining_anti fullness pointRate ?_
  rw [Int.tdiv_eq_ediv_of_nonneg (by omega), Int.tdiv_eq_ediv_of_nonneg (by omega)]
  omega

/-- What fits later fits now. -/
theorem Fits.anti {later : ℤ} (h : Fits fullness snapshotTime pointRate later)
    (hle : now ≤ later) : Fits fullness snapshotTime pointRate now :=
  fun hproj => (h (hproj.mono hle)).trans (remaining_anti_time hproj hle)

/-- A snapshot that fits is drained and no more. -/
theorem remaining_le (h : Projects snapshotTime pointRate now) :
    remaining fullness pointRate ((now - snapshotTime).tdiv 1000) ≤ fullness := by
  have := h.2.2
  refine (remaining_anti fullness pointRate ?_).trans_eq (remaining_zero fullness pointRate)
  rw [Int.tdiv_eq_ediv_of_nonneg (by omega)]
  omega

theorem estimate_of_fits (hhi : fullness < 2 ^ 31)
    (hfits : Fits fullness snapshotTime pointRate now)
    (h : Projects snapshotTime pointRate now) :
    estimateFromSnapshot ℚ fullness snapshotTime pointRate now =
      ⟨max 0 (remaining fullness pointRate ((now - snapshotTime).tdiv 1000)), true⟩ := by
  rw [estimate_of_projects h, narrow_of_fits (hfits h) ((remaining_le h).trans_lt hhi)]

/-- Up to `horizon` the estimate stays within the snapshot and never rises. -/
def DecaysUntil (horizon : ℤ) (fullness : ℤ) (snapshotTime : ℤ) (pointRate : ℕ) :
    Prop :=
  ∀ earlier later : ℤ, earlier ≤ later → later ≤ horizon →
    let estimate := fun now =>
      (estimateFromSnapshot ℚ fullness snapshotTime pointRate now).bufferFullness
    0 ≤ estimate earlier ∧ estimate earlier ≤ fullness ∧ estimate later ≤ estimate earlier

theorem decays_of_fits (hlo : 0 ≤ fullness) (hhi : fullness < 2 ^ 31) {horizon : ℤ}
    (hfits : Fits fullness snapshotTime pointRate horizon) :
    DecaysUntil horizon fullness snapshotTime pointRate := by
  intro earlier later hle hhorizon
  have hlater := hfits.anti hhorizon
  by_cases h : Projects snapshotTime pointRate earlier
  · simp only [estimate_of_fits hhi (hlater.anti hle) h, estimate_of_fits hhi hlater (h.mono hle)]
    have hremaining :
        remaining fullness pointRate ((earlier - snapshotTime).tdiv 1000) ≤ fullness :=
      remaining_le h
    have hanti : remaining fullness pointRate ((later - snapshotTime).tdiv 1000) ≤
        remaining fullness pointRate ((earlier - snapshotTime).tdiv 1000) :=
      remaining_anti_time h hle
    refine ⟨le_max_left _ _, max_le hlo hremaining, max_le_max le_rfl hanti⟩
  · simp only [estimate_of_not_projects h]
    refine ⟨hlo, le_rfl, ?_⟩
    by_cases h' : Projects snapshotTime pointRate later
    · rw [estimate_of_fits hhi hlater h']
      exact max_le hlo (remaining_le h')
    · rw [estimate_of_not_projects h']

/-- Where the estimate does not fit any more it has jumped up: by the microseconds, the first value
that does not fit follows one that is zero. -/
theorem fits_of_decays (hlo : 0 ≤ fullness) (hhi : fullness < 2 ^ 31) (hrate : pointRate < 2 ^ 32)
    {horizon : ℤ} (hdecays : DecaysUntil horizon fullness snapshotTime pointRate) :
    Fits fullness snapshotTime pointRate horizon := by
  rintro ⟨hne, htime, helapsed⟩
  have hall : ∀ n : ℕ, (n : ℤ) ≤ (horizon - snapshotTime).tdiv 1000 →
      -2 ^ 31 ≤ remaining fullness pointRate n := by
    rw [Int.tdiv_eq_ediv_of_nonneg (by omega)]
    intro n
    induction n with
    | zero =>
      intro _
      rw [Nat.cast_zero, remaining_zero]
      omega
    | succ n ih =>
      intro hn
      push_cast at hn ⊢
      have hbefore := ih (by omega)
      have hstep := remaining_succ fullness hrate n
      by_contra hbelow
      have hbelow := not_le.mp hbelow
      rcases Nat.eq_zero_or_pos n with rfl | hpos
      · rw [Nat.cast_zero, remaining_zero] at hstep
        rw [Nat.cast_zero] at hbelow
        omega
      · have hat : ∀ m : ℕ, 0 < m →
            estimateFromSnapshot ℚ fullness snapshotTime pointRate (snapshotTime + 1000 * m) =
              ⟨max 0 (narrow (remaining fullness pointRate m)), true⟩ := by
          intro m hm
          have hproj : Projects snapshotTime pointRate (snapshotTime + 1000 * m) :=
            ⟨hne, htime, by omega⟩
          have hdiv : (snapshotTime + 1000 * (m : ℤ) - snapshotTime).tdiv 1000 = m := by
            rw [Int.tdiv_eq_ediv_of_nonneg (by omega)]
            omega
          rw [estimate_of_projects hproj, hdiv]
        obtain ⟨-, -, hle⟩ := hdecays (snapshotTime + 1000 * n)
          (snapshotTime + 1000 * ((n + 1 : ℕ) : ℤ)) (by push_cast; omega) (by push_cast; omega)
        simp only [hat n hpos, hat (n + 1) (Nat.succ_pos n)] at hle
        push_cast at hle
        rw [narrow_of_below (by omega) hbelow, narrow_of_fits hbefore (by omega)] at hle
        omega
  have hnonneg : 0 ≤ (horizon - snapshotTime).tdiv 1000 := by
    rw [Int.tdiv_eq_ediv_of_nonneg (by omega)]
    omega
  have hlast := hall ((horizon - snapshotTime).tdiv 1000).toNat
    (Int.toNat_of_nonneg hnonneg).le
  rwa [Int.toNat_of_nonneg hnonneg] at hlast

end BufferEstimator

end LiberaLaser
