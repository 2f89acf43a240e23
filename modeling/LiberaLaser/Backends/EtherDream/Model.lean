import LiberaLaser.Core.Scheduler.Model
import LiberaLaser.Core.Transport.BufferEstimator

/-!
# The Ether Dream

The worker of an Ether Dream goes by the last status that the device sent: the status says which
command the playback engine will take next, and how full the buffer is. This module has what the
worker makes of a status. What only feeds error records, logs and the blanking of the start of a
stream is left out, and so are the fields of a status that nothing else reads.
-/

namespace LiberaLaser

open FloatArith BufferEstimator

/-- The state of the light engine. A code that the protocol does not name stays what it is. -/
inductive LightEngineState
  | ready
  | warmup
  | cooldown
  | estop
  | unknown (code : UInt8)
  deriving DecidableEq

/-- The state of the playback engine. -/
inductive PlaybackState
  | idle
  | prepared
  | playing
  | paused
  | unknown (code : UInt8)
  deriving DecidableEq

def isKnownLightEngineState : LightEngineState → Bool
  | .unknown _ => false
  | _ => true

def isKnownPlaybackState : PlaybackState → Bool
  | .unknown _ => false
  | _ => true

structure EtherDreamStatus where
  lightEngineState : LightEngineState := .ready
  playbackState : PlaybackState := .idle
  bufferFullness : ℕ := 0
  pointRate : ℕ := 0
  deriving DecidableEq

/-- What the worker does before anything else. -/
inductive PlaybackAction
  | none
  | stop
  | clear
  | prepare
  | start
  deriving DecidableEq

/-- What is known of the device from its broadcasts. -/
structure EtherDreamControllerInfo where
  bufferSizeValue : ℤ
  maxPointRate : ℕ
  hardwareRevision : ℕ
  softwareRevision : ℕ
  deriving DecidableEq

/-- The state of the worker, with the target latency it reads. The last field is a history
variable: the begin threshold as it was when the last status was received. -/
structure EtherDreamController where
  controllerInfo : EtherDreamControllerInfo
  pointRate : ℕ
  targetLatency : ℤ
  lastKnownStatus : EtherDreamStatus := {}
  lastReceiveTime : TimePoint := 0
  playbackAction : PlaybackAction := .none
  connectionActive : Bool := false
  clearOnFreshConnection : Bool := false
  implausiblePointRateRecoveryPending : Bool := false
  rebootRequiredLatched : Bool := false
  lastSentPointRate : ℕ := 0
  firmwareProbeDisabledForSession : Bool := false
  firmwareVersionString : List UInt8 := []
  thresholdAtReceipt : ℤ := 0
  deriving DecidableEq

namespace EtherDreamController

/-- `ETHERDREAM_MIN_BUFFER_POINTS`. -/
def minBufferPoints : ℤ := 256

/-- `ETHERDREAM_SAFETY_HEADROOM_POINTS`. -/
def safetyHeadroomPoints : ℤ := 512

/-- `ETHERDREAM_WRITE_HEADROOM_POINTS`. -/
def writeHeadroomPoints : ℤ := 1

/-- `ETHERDREAM_MAX_PACKET_POINTS`. -/
def maxDataCommandPoints : ℕ := 3640

/-- `ETHERDREAM_NORMAL_REFILL_MIN_DEFICIT_POINTS`. -/
def normalRefillMinDeficitPoints : ℕ := 150

/-- `ETHERDREAM_MAX_REASONABLE_POINT_RATE`. -/
def maxReasonablePointRate : ℕ := 1000000

variable (c : EtherDreamController)

def getBufferSize : ℤ :=
  if 0 < c.controllerInfo.bufferSizeValue then c.controllerInfo.bufferSizeValue else 0

def maxSafePointRate : ℕ :=
  if 0 < c.controllerInfo.maxPointRate then
    Nat.min maxReasonablePointRate c.controllerInfo.maxPointRate
  else maxReasonablePointRate

/-- The rate that the application sets, within the safe maximum. -/
def setPointRate (pointRateValue : ℕ) : EtherDreamController :=
  let safeRate := c.maxSafePointRate
  { c with pointRate := if 0 < safeRate then Nat.min pointRateValue safeRate else pointRateValue }

/-! ## The device's buffer -/

section Buffer

variable (D : Type) [FloatArith D]

/-- The fullness reported, drained for the time since while the device plays. -/
def estimateBufferFullness (now : TimePoint) : ℤ :=
  let projectionRate := if c.lastKnownStatus.playbackState = .playing then c.pointRate else 0
  let estimate :=
    estimateFromSnapshot D c.lastKnownStatus.bufferFullness c.lastReceiveTime projectionRate now
  if !estimate.projected then c.lastKnownStatus.bufferFullness
  else clampBufferFullnessToCapacity (max 0 estimate.bufferFullness) c.getBufferSize

def targetBufferPoints : ℤ :=
  BufferEstimator.targetBufferPoints D c.pointRate c.getBufferSize c.targetLatency minBufferPoints
    safetyHeadroomPoints

def beginBufferThresholdPoints : ℤ := c.targetBufferPoints D

def targetBufferDeficitPoints (now : TimePoint) : ℕ :=
  let bufferFullness := c.estimateBufferFullness D now
  let targetPoints := c.targetBufferPoints D
  if targetPoints ≤ bufferFullness then 0 else (targetPoints - bufferFullness).toNat

/-- The free space of the device's buffer, less the headroom that a write must leave. -/
def usableBufferFreeSpace (bufferFullness : ℤ) : ℤ :=
  let bufferSize := c.getBufferSize
  if bufferSize ≤ 0 then 0
  else
    let clampedFullness := clampBufferFullnessToCapacity bufferFullness bufferSize
    let rawFreeSpace := max 0 (bufferSize - clampedFullness)
    let writeHeadroom := min rawFreeSpace writeHeadroomPoints
    rawFreeSpace - writeHeadroom

/-- The request that a pass works with, and the estimate it goes by. The clock is read for the
estimate, for the deficit, and for the render time. -/
def getFillRequest (clock : ℕ → TimePoint) : PointFillRequest × ℤ :=
  let bufferFullness := c.estimateBufferFullness D (clock 0)
  let freeSpace := (c.usableBufferFreeSpace bufferFullness).toNat
  let packetSpace := Nat.min freeSpace maxDataCommandPoints
  let targetDeficit := Nat.min (c.targetBufferDeficitPoints D (clock 1)) packetSpace
  let bufferLead :=
    trunc (FrameScheduler.pointsToMillis bufferFullness.toNat c.pointRate : D) * 1000000
  ({ minimumPointsRequired := targetDeficit
     maximumPointsRequired := packetSpace
     estimatedFirstPointRenderTime := clock 2 + bufferLead }, bufferFullness)

/-- The threshold below which a playing device has run dry. -/
def playingUnderrunBufferThreshold : ℤ :=
  if 30 ≤ c.controllerInfo.hardwareRevision then minBufferPoints else 1

def bufferIsBelowPlayingUnderrunThreshold (bufferFullness : ℤ) : Bool :=
  bufferFullness < c.playingUnderrunBufferThreshold

/-- Whether a pass asks for points. -/
def shouldRequestPoints (request : PointFillRequest) (estimatedBufferBeforeRequest : ℤ) : Bool :=
  if c.lastKnownStatus.lightEngineState = .ready ∧ c.lastKnownStatus.playbackState = .prepared ∧
      (c.lastKnownStatus.bufferFullness : ℤ) < c.beginBufferThresholdPoints D then
    0 < request.minimumPointsRequired
  else if c.lastKnownStatus.lightEngineState = .ready ∧
      c.lastKnownStatus.playbackState = .playing ∧
      c.bufferIsBelowPlayingUnderrunThreshold estimatedBufferBeforeRequest then
    0 < request.maximumPointsRequired
  else normalRefillMinDeficitPoints ≤ request.minimumPointsRequired

end Buffer

/-! ## What a status asks for -/

/-- Points may be sent. -/
def canSendData : Bool :=
  c.playbackAction = .none && c.lastKnownStatus.lightEngineState = .ready &&
    (c.lastKnownStatus.playbackState = .prepared || c.lastKnownStatus.playbackState = .playing)

def actionForStatus (D : Type) [FloatArith D] (status : EtherDreamStatus) : PlaybackAction :=
  if !isKnownLightEngineState status.lightEngineState then .none
  else if status.lightEngineState = .estop then .clear
  else if status.lightEngineState ≠ .ready then .none
  else if !isKnownPlaybackState status.playbackState || status.playbackState = .paused then .stop
  else if status.playbackState = .idle then .prepare
  else
    let beginThreshold := c.beginBufferThresholdPoints D
    if status.playbackState = .prepared ∧ 0 < beginThreshold ∧
        beginThreshold ≤ status.bufferFullness then .start
    else .none

def statusAllowsPointRateRecovery (status : EtherDreamStatus) : Bool :=
  isKnownLightEngineState status.lightEngineState && status.lightEngineState = .ready &&
    isKnownPlaybackState status.playbackState && status.playbackState ≠ .paused

def statusPointRateIsImplausible (status : EtherDreamStatus) : Bool :=
  if status.playbackState ≠ .prepared ∧ status.playbackState ≠ .playing then false
  else c.maxSafePointRate < status.pointRate

def scheduleClearRecovery : EtherDreamController := { c with playbackAction := .clear }

/-- What becomes of the point-rate recovery with a status: a clear is scheduled, or a reboot is
required. -/
inductive RecoveryEvent
  | clear
  | rebootRequired
  deriving DecidableEq

/-- Every status that is decoded goes through here. -/
def updatePlaybackRequirements (D : Type) [FloatArith D] (status : EtherDreamStatus)
    (now : TimePoint) : EtherDreamController × List RecoveryEvent :=
  let c := { c with
    lastKnownStatus := status
    lastReceiveTime := now
    thresholdAtReceipt := c.beginBufferThresholdPoints D
    playbackAction := c.actionForStatus D status }
  if statusAllowsPointRateRecovery status && c.statusPointRateIsImplausible status then
    if !c.implausiblePointRateRecoveryPending && !c.rebootRequiredLatched then
      ({ c with implausiblePointRateRecoveryPending := true }.scheduleClearRecovery, [.clear])
    else
      ({ c with rebootRequiredLatched := true, playbackAction := .stop },
        if c.rebootRequiredLatched then [] else [.rebootRequired])
  else if !statusAllowsPointRateRecovery status then (c, [])
  else
    ({ c with implausiblePointRateRecoveryPending := false, rebootRequiredLatched := false }, [])

/-- The first status of a connection may be left over from an earlier one. -/
def applyFreshConnectionStatus (status : EtherDreamStatus) : EtherDreamController :=
  if c.clearOnFreshConnection = true ∧
      (status.lightEngineState = .ready ∨ status.lightEngineState = .estop) then
    { c with clearOnFreshConnection := false }.scheduleClearRecovery
  else if status.lightEngineState = .estop then { c with playbackAction := .clear }
  else if status.lightEngineState ≠ .ready then { c with playbackAction := .none }
  else if status.playbackState = .idle then { c with playbackAction := .prepare }
  else { c with playbackAction := .stop }

/-- A new rate is carried by a fresh begin: while the device plays, stop it. -/
def syncPointRate : EtherDreamController :=
  if c.pointRate = c.lastSentPointRate then c
  else if c.lastSentPointRate = 0 then c
  else if c.lastKnownStatus.playbackState ≠ .playing then c
  else { c with playbackAction := .stop }

def resetProtocolStateForConnection : EtherDreamController :=
  { c with
    playbackAction := .prepare
    connectionActive := false
    lastKnownStatus := {}
    lastReceiveTime := 0
    lastSentPointRate := 0
    implausiblePointRateRecoveryPending := false
    rebootRequiredLatched := false }

/-! ## The bounds of a request -/

variable {c} {D : Type} [FloatArith D]

theorem getBufferSize_nonneg : 0 ≤ c.getBufferSize := by
  unfold getBufferSize
  split_ifs <;> omega

theorem clampBufferFullness_bounds (bufferFullness : ℤ) {bufferSize : ℤ} (h : 0 ≤ bufferSize) :
    0 ≤ clampBufferFullnessToCapacity bufferFullness bufferSize ∧
      clampBufferFullnessToCapacity bufferFullness bufferSize ≤ bufferSize := by
  unfold clampBufferFullnessToCapacity
  split_ifs
  · exact ⟨le_rfl, h⟩
  · exact clampInt_bounds h

theorem estimateBufferFullness_nonneg (now : TimePoint) : 0 ≤ c.estimateBufferFullness D now := by
  unfold estimateBufferFullness
  extract_lets projectionRate estimate
  split
  · exact Int.natCast_nonneg _
  · exact (clampBufferFullness_bounds _ getBufferSize_nonneg).1

/-- Where there is usable space, it fits above the fullness with the headroom to spare. -/
theorem usableBufferFreeSpace_spec {bufferFullness : ℤ} (h : 0 ≤ bufferFullness) :
    0 ≤ c.usableBufferFreeSpace bufferFullness ∧
      (0 < c.usableBufferFreeSpace bufferFullness →
        bufferFullness + c.usableBufferFreeSpace bufferFullness ≤
          c.getBufferSize - writeHeadroomPoints) := by
  unfold usableBufferFreeSpace clampBufferFullnessToCapacity clampInt writeHeadroomPoints
  simp only
  split_ifs <;> omega

/-- **No request overfills the device**, and every request fits one packet. -/
theorem getFillRequest_bounds (clock : ℕ → TimePoint) :
    let (request, estimate) := c.getFillRequest D clock
    request.minimumPointsRequired ≤ request.maximumPointsRequired ∧
      (0 < request.maximumPointsRequired →
        estimate + request.maximumPointsRequired ≤ c.getBufferSize - writeHeadroomPoints) ∧
      request.maximumPointsRequired ≤ maxDataCommandPoints := by
  simp only [getFillRequest]
  set bufferFullness := c.estimateBufferFullness D (clock 0) with hfullness
  obtain ⟨hspace, hfit⟩ := usableBufferFreeSpace_spec (c := c)
    (hfullness ▸ estimateBufferFullness_nonneg (clock 0))
  refine ⟨Nat.min_le_right _ _, ?_, Nat.min_le_right _ _⟩
  intro hpos
  have hpacket : Nat.min (c.usableBufferFreeSpace bufferFullness).toNat maxDataCommandPoints ≤
      (c.usableBufferFreeSpace bufferFullness).toNat := Nat.min_le_left _ _
  have hcast := Int.toNat_of_nonneg hspace
  have hfit := hfit (by omega)
  omega

end EtherDreamController

end LiberaLaser
