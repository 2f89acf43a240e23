import LiberaLaser.Core.Scheduler.Model
import LiberaLaser.Core.Transport.IdleWorker

/-!
# The LaserCube over the network

The worker sends at most one packet a pass. It knows the device's buffer from two snapshots, one
left by its own packets and one by the acknowledgements of the device, and goes by the fuller of the
two. The counters of the messages on their way are left out, and so is the estimate published for
others: no request depends on them.
-/

namespace LiberaLaser

open FloatArith BufferEstimator

/-- The state of the worker. -/
structure LaserCubeNetController where
  lastSentPointRate : ℕ
  pointBufferCapacity : ℤ
  lastDataSentTime : TimePoint
  lastDataSentBufferSize : ℤ
  lastAckTime : TimePoint
  lastReportedBufferFullness : ℤ
  deriving DecidableEq

namespace LaserCubeNetController

/-- `LaserCubeNetConfig::MAX_POINTS_PER_PACKET`. -/
def maxPointsPerPacket : ℤ := 140

/-- `LaserCubeNetConfig::SAFETY_HEADROOM_POINTS`. -/
def safetyHeadroomPoints : ℤ := maxPointsPerPacket * 2

section Model

variable (D : Type) [FloatArith D]

def targetBufferPoints (targetLatency : ℤ) (c : LaserCubeNetController) : ℤ :=
  BufferEstimator.targetBufferPoints D c.lastSentPointRate c.pointBufferCapacity targetLatency
    maxPointsPerPacket safetyHeadroomPoints

/-- The two snapshots drained for the time since, whichever is fuller. -/
def minEstimatedBufferFullness (now : TimePoint) (c : LaserCubeNetController) : ℤ :=
  max
    (calculateBufferFullnessFromSnapshot D c.lastDataSentBufferSize c.lastDataSentTime
      c.lastSentPointRate 0 now)
    (calculateBufferFullnessFromSnapshot D c.lastReportedBufferFullness c.lastAckTime
      c.lastSentPointRate 0 now)

/-- The request that a pass makes, if it makes one. -/
def fillRequest (targetLatency : ℤ) (now renderNow : TimePoint) (c : LaserCubeNetController) :
    Option PointFillRequest :=
  let minEstimatedBufferFullness := c.minEstimatedBufferFullness D now
  let maxPointsToAdd := max 0 (c.targetBufferPoints D targetLatency - minEstimatedBufferFullness)
  if maxPointsToAdd ≤ 0 then none
  else
    let maxPointsToAdd :=
      if maxPointsPerPacket < maxPointsToAdd then maxPointsPerPacket else maxPointsToAdd
    let renderLead := trunc (FrameScheduler.pointsToMillis minEstimatedBufferFullness.toNat
      c.lastSentPointRate * 1000000.0 : D)
    some
      { minimumPointsRequired := maxPointsToAdd.toNat
        maximumPointsRequired := maxPointsToAdd.toNat
        estimatedFirstPointRenderTime := renderNow + renderLead }

/-- What a pass reports. -/
def report (input : PassInput) (c : LaserCubeNetController) : PassReport :=
  { now := input.now
    estimate := c.minEstimatedBufferFullness D input.now
    target := c.targetBufferPoints D input.targetLatency
    request := c.fillRequest D input.targetLatency input.now input.renderNow }

/-- One pass of the worker. -/
def sendPoints (input : PassInput) (c : LaserCubeNetController) :
    LaserCubeNetController × PassReport :=
  match c.fillRequest D input.targetLatency input.now input.renderNow, input.supplied,
    input.sentAt with
  | some request, some (supplied + 1), some sentAt =>
    let sent := Nat.min (supplied + 1) request.maximumPointsRequired
    ({ c with
        lastDataSentTime := sentAt
        lastDataSentBufferSize := c.minEstimatedBufferFullness D input.now + sent },
      c.report D input)
  | _, _, _ => (c, c.report D input)

end Model

/-- An acknowledgement tells the space left in the device's buffer. -/
def receiveAck (now : TimePoint) (bufferSpace : ℕ) (c : LaserCubeNetController) :
    LaserCubeNetController :=
  let bufferFullness := c.pointBufferCapacity - bufferSpace
  { c with
    lastAckTime := now
    lastReportedBufferFullness := bufferFullness
    lastDataSentTime := now
    lastDataSentBufferSize := bufferFullness }

variable {D : Type} [FloatArith D] {c : LaserCubeNetController}

/-- What a request says: it is made below the target, and asks for exactly what is missing there,
for one packet at most. -/
theorem fillRequest_eq_some {targetLatency : ℤ} {now renderNow : TimePoint}
    {request : PointFillRequest}
    (h : c.fillRequest D targetLatency now renderNow = some request) :
    ∃ maxPointsToAdd : ℤ, 0 < maxPointsToAdd ∧ maxPointsToAdd ≤ maxPointsPerPacket ∧
      maxPointsToAdd ≤
        c.targetBufferPoints D targetLatency - c.minEstimatedBufferFullness D now ∧
      request.minimumPointsRequired = maxPointsToAdd.toNat ∧
      request.maximumPointsRequired = maxPointsToAdd.toNat := by
  unfold fillRequest at h
  simp only at h
  split_ifs at h with hdeficit hpacket
  · obtain rfl := Option.some.inj h
    exact ⟨maxPointsPerPacket, by decide, le_rfl, by omega, rfl, rfl⟩
  · obtain rfl := Option.some.inj h
    exact ⟨_, not_le.mp hdeficit, not_lt.mp hpacket, by omega, rfl, rfl⟩

/-- A pass makes a request exactly where its estimate is below its target. -/
theorem isSome_fillRequest {targetLatency : ℤ} {now renderNow : TimePoint} :
    (c.fillRequest D targetLatency now renderNow).isSome ↔
      c.minEstimatedBufferFullness D now < c.targetBufferPoints D targetLatency := by
  unfold fillRequest
  simp only
  split_ifs with hdeficit
  · simp only [Option.isSome_none, Bool.false_eq_true, false_iff]
    omega
  · simp only [Option.isSome_some, true_iff]
    omega
  · simp only [Option.isSome_some, true_iff]
    omega

/-- **No request overfills the device**, and every request fits one packet. -/
theorem fillRequest_bounds (hcapacity : 0 ≤ c.pointBufferCapacity) {targetLatency : ℤ}
    {now renderNow : TimePoint} {request : PointFillRequest}
    (h : c.fillRequest D targetLatency now renderNow = some request) :
    request.minimumPointsRequired ≤ request.maximumPointsRequired ∧
      c.minEstimatedBufferFullness D now + request.maximumPointsRequired ≤
        c.pointBufferCapacity ∧
      (request.maximumPointsRequired : ℤ) ≤ maxPointsPerPacket := by
  obtain ⟨maxPointsToAdd, hpos, hpacket, hle, hmin, hmax⟩ := fillRequest_eq_some h
  have htarget : c.targetBufferPoints D targetLatency ≤ c.pointBufferCapacity :=
    (targetBufferPoints_bounds D _ _ _ _ hcapacity).2
  rw [hmin, hmax, Int.toNat_of_nonneg hpos.le]
  exact ⟨le_rfl, by omega, hpacket⟩

theorem sendPoints_idle {input : PassInput} (h : input.Idle) : (c.sendPoints D input).1 = c := by
  unfold sendPoints
  split
  · rename_i hsupplied _
    rcases h with h | h <;> rw [h] at hsupplied <;> simp at hsupplied
  · rfl

@[simp] theorem sendPoints_report (input : PassInput) :
    (c.sendPoints D input).2 = c.report D input := by
  unfold sendPoints
  split <;> rfl

/-- The snapshots stay within the capacity. -/
def SnapshotsFit (c : LaserCubeNetController) : Prop :=
  c.lastDataSentBufferSize ≤ c.pointBufferCapacity ∧
    c.lastReportedBufferFullness ≤ c.pointBufferCapacity

/-- Every pass keeps the snapshots within the capacity. -/
theorem SnapshotsFit.sendPoints (h : c.SnapshotsFit) (hcapacity : 0 ≤ c.pointBufferCapacity)
    (input : PassInput) : (c.sendPoints D input).1.SnapshotsFit := by
  unfold LaserCubeNetController.sendPoints
  split
  · rename_i request supplied sentAt hrequest _ _
    obtain ⟨-, hfit, -⟩ := fillRequest_bounds hcapacity hrequest
    have hsent := Nat.min_le_right (supplied + 1) request.maximumPointsRequired
    have hsent' : ((Nat.min (supplied + 1) request.maximumPointsRequired : ℕ) : ℤ) ≤
        request.maximumPointsRequired := by exact_mod_cast hsent
    exact ⟨by simp only; omega, h.2⟩
  · exact h

end LaserCubeNetController

end LiberaLaser
