import LiberaLaser.Core.Transport.IdleWorker

/-!
# The LaserCube over USB

The worker knows the device's buffer only from its own transfers: each leaves a snapshot of the
fullness it brings about. A failed transfer leaves the snapshot alone; what the worker does to
reconnect is left out, and so are the error counters.
-/

namespace LiberaLaser

open FloatArith BufferEstimator

/-- The state of the worker. -/
structure LaserCubeUsbController where
  usbHandle : Bool
  lastSentPointRate : ℕ
  maxSamplesPerTransfer : ℤ
  lastDataSentTime : TimePoint
  lastDataSentBufferSize : ℤ
  deriving DecidableEq

namespace LaserCubeUsbController

/-- `LaserCubeUsbConfig::BUFFER_CAPACITY`. -/
def bufferCapacity : ℤ := 1024

def minPacketDataSize : ℤ := 128

def safetyHeadroomPoints : ℤ := minPacketDataSize

section Model

variable (D : Type) [FloatArith D]

def estimateBufferFullness (now : TimePoint) (c : LaserCubeUsbController) : ℤ :=
  calculateBufferFullnessFromSnapshot D c.lastDataSentBufferSize c.lastDataSentTime
    c.lastSentPointRate 0 now

def targetBufferPoints (targetLatency : ℤ) (c : LaserCubeUsbController) : ℤ :=
  BufferEstimator.targetBufferPoints D c.lastSentPointRate bufferCapacity targetLatency
    minPacketDataSize safetyHeadroomPoints

/-- The request that a pass makes, if it makes one. -/
def fillRequest (targetLatency : ℤ) (now : TimePoint) (c : LaserCubeUsbController) :
    Option PointFillRequest :=
  if !c.usbHandle then none
  else if c.lastSentPointRate = 0 then none
  else
    let bufferFullness := c.estimateBufferFullness D now
    let maxPointsToAdd := c.targetBufferPoints D targetLatency - bufferFullness
    if maxPointsToAdd ≤ 0 then none
    else
      let maxPointsToAdd :=
        if 0 < c.maxSamplesPerTransfer ∧ c.maxSamplesPerTransfer < maxPointsToAdd then
          c.maxSamplesPerTransfer
        else maxPointsToAdd
      some
        { minimumPointsRequired := (min maxPointsToAdd minPacketDataSize).toNat
          maximumPointsRequired := maxPointsToAdd.toNat }

/-- What a pass reports. One without a handle or a rate returns at once, and aims at nothing. -/
def report (input : PassInput) (c : LaserCubeUsbController) : PassReport :=
  { now := input.now
    estimate := c.estimateBufferFullness D input.now
    target :=
      if c.usbHandle = true ∧ c.lastSentPointRate ≠ 0 then
        c.targetBufferPoints D input.targetLatency
      else 0
    request := c.fillRequest D input.targetLatency input.now }

/-- One pass of the worker. -/
def sendPoints (input : PassInput) (c : LaserCubeUsbController) :
    LaserCubeUsbController × PassReport :=
  match c.fillRequest D input.targetLatency input.now, input.supplied, input.sentAt with
  | some request, some (supplied + 1), some sentAt =>
    let bufferFullness := c.estimateBufferFullness D input.now
    let sent := Nat.min (supplied + 1) request.maximumPointsRequired
    ({ c with
        lastDataSentTime := sentAt
        lastDataSentBufferSize :=
          clampBufferFullnessToCapacity (bufferFullness + sent) bufferCapacity },
      c.report D input)
  | _, _, _ => (c, c.report D input)

end Model

variable {D : Type} [FloatArith D] {c : LaserCubeUsbController}

/-- What a request says: it is made below the target, and asks for what is missing there, for one
transfer at most. -/
theorem fillRequest_eq_some {targetLatency : ℤ} {now : TimePoint} {request : PointFillRequest}
    (h : c.fillRequest D targetLatency now = some request) :
    c.estimateBufferFullness D now < c.targetBufferPoints D targetLatency ∧
      ∃ maxPointsToAdd : ℤ, 0 < maxPointsToAdd ∧
        maxPointsToAdd ≤
          c.targetBufferPoints D targetLatency - c.estimateBufferFullness D now ∧
        request =
          { minimumPointsRequired := (min maxPointsToAdd minPacketDataSize).toNat
            maximumPointsRequired := maxPointsToAdd.toNat } := by
  unfold fillRequest at h
  simp only at h
  split_ifs at h with _ _ hdeficit htransfer
  · exact ⟨by omega, _, htransfer.1, htransfer.2.le, (Option.some.inj h).symm⟩
  · exact ⟨by omega, _, not_le.mp hdeficit, le_rfl, (Option.some.inj h).symm⟩

/-- A pass makes a request exactly where its estimate is below its target. -/
theorem isSome_fillRequest {targetLatency : ℤ} {now : TimePoint} :
    (c.fillRequest D targetLatency now).isSome ↔ c.usbHandle = true ∧ c.lastSentPointRate ≠ 0 ∧
      c.estimateBufferFullness D now < c.targetBufferPoints D targetLatency := by
  unfold fillRequest
  simp only
  split_ifs with hhandle hrate hdeficit htransfer
  · simp_all
  · simp [hrate]
  · simp only [Option.isSome_none, Bool.false_eq_true, false_iff]
    omega
  · simp_all
  · simp_all

/-- **No request overfills the device.** -/
theorem fillRequest_bounds {targetLatency : ℤ} {now : TimePoint} {request : PointFillRequest}
    (h : c.fillRequest D targetLatency now = some request) :
    request.minimumPointsRequired ≤ request.maximumPointsRequired ∧
      c.estimateBufferFullness D now + request.maximumPointsRequired ≤ bufferCapacity := by
  obtain ⟨-, maxPointsToAdd, hpos, hle, rfl⟩ := fillRequest_eq_some h
  have htarget : c.targetBufferPoints D targetLatency ≤ bufferCapacity :=
    (targetBufferPoints_bounds D _ _ _ _ (by decide)).2
  refine ⟨Int.toNat_le_toNat (min_le_left _ _), ?_⟩
  rw [Int.toNat_of_nonneg hpos.le]
  omega

theorem sendPoints_idle {input : PassInput} (h : input.Idle) : (c.sendPoints D input).1 = c := by
  rcases h with h | h <;> simp only [sendPoints, h] <;> split <;> simp_all

@[simp] theorem sendPoints_report (input : PassInput) :
    (c.sendPoints D input).2 = c.report D input := by
  unfold sendPoints
  split <;> rfl

end LaserCubeUsbController

end LiberaLaser
