import LiberaLaser.Backends.LaserCubeNet
import Mathlib.Logic.Function.Basic

/-!
# The packets of a LaserCube on their way

Every packet carries a message number of eight bits, and the time of its sending stands in the slot
of that number until the device acknowledges it or it expires. A counter beside the slots says how
many packets are on their way. A number comes around again after 256 packets, when its slot may
still be occupied.

The mark of a free slot is the epoch of the clock, so a reading of the clock is a time after it.
What the sockets receive and whether they send is an input. The startup blank and the connection
state that is shown to the application are left out.
-/

namespace LiberaLaser

/-- A reading of the steady clock. -/
structure ClockReading where
  time : TimePoint
  after_epoch : 0 < time
  deriving DecidableEq

structure Endpoint (α : Type) where
  address : α
  port : ℕ
  deriving DecidableEq

/-- The errors that the controller records. -/
inductive NetworkError
  | connectFailed
  | connectionLost
  | sendFailed
  | receiveFailed
  | protocolError
  | packetLoss
  | bufferOverrun
  deriving DecidableEq

/-- What a receive call on the data socket gives: nothing in time, an error, or a datagram, of which
the buffer takes four bytes. -/
inductive Received (α : Type)
  | timedOut
  | failed
  | datagram (sender : Endpoint α) (bytes : List UInt8)

/-- What happens to the packets, and the errors that are recorded. A packet is `fresh` when no other
is on its way under its number. -/
inductive LinkEvent
  | sent (number : UInt8) (fresh : Bool)
  | acknowledged (number : UInt8) (latency : Duration)
  | expired (number : UInt8)
  | cleared
  | connectionError (error : NetworkError)
  | intermittentError (error : NetworkError)
  deriving DecidableEq

/-- The worker of a LaserCube with its sockets and the packets on their way. -/
structure LaserCubeNetLink (α : Type) extends LaserCubeNetController where
  sockets : Bool := false
  dataEndpoint : Endpoint α
  networkConnected : Bool := false
  reconnectRequested : Bool := false
  messageNumber : UInt8 := 0
  frameNumber : UInt8 := 0
  messageTimes : UInt8 → TimePoint := fun _ => 0
  pendingAckCount : ℤ := 0
  lastAckWarningTime : TimePoint := 0
  lastUnexpectedAckSenderLogTime : TimePoint := 0
  lastEstimatedBufferFullness : ℤ := 0
  pointRatePushNeeded : Bool := true

/-- What a call of `sendPoints` reads, as `PassInput`. -/
structure SendInput where
  now : ClockReading
  targetLatency : ℤ
  renderNow : ClockReading
  supplied : Option ℕ
  sentAt : Option ClockReading

/-- What a connection is made with: the capacity that the device reports, the clock, whether the
sockets open, and the address if the report has one. -/
structure ConnectInput (α : Type) where
  bufferMax : ℤ
  now : ClockReading
  opened : Bool
  address : Option α

namespace LaserCubeNetLink

def dataPort : ℕ := 45458

/-- `CMD_GET_RINGBUFFER_FREE`. -/
def cmdGetRingbufferFree : UInt8 := 0x8a

def second : Duration := 1000000000

def ackDisconnectThreshold : Duration := 500000000

def maxAckPollsPerCall : ℕ := 64

def readLe16 (low high : UInt8) : ℕ := low.toNat + 2 ^ 8 * high.toNat

variable {α : Type}

/-- A new controller. -/
def new (dataEndpoint : Endpoint α) : LaserCubeNetLink α where
  lastSentPointRate := 0
  pointBufferCapacity := 1000
  lastDataSentTime := 0
  lastDataSentBufferSize := 0
  lastAckTime := 0
  lastReportedBufferFullness := 0
  dataEndpoint

/-! ## Connecting -/

def connectToStatus (input : ConnectInput α) (s : LaserCubeNetLink α) :
    LaserCubeNetLink α × List LinkEvent :=
  let s := { s with
    pointBufferCapacity := input.bufferMax
    messageTimes := fun _ => 0
    pendingAckCount := 0
    lastAckTime := input.now.time
    lastAckWarningTime := 0
    lastUnexpectedAckSenderLogTime := 0
    lastDataSentTime := 0
    lastDataSentBufferSize := 0
    lastReportedBufferFullness := 0
    lastEstimatedBufferFullness := 0
    sockets := true }
  match input.opened, input.address with
  | true, some address =>
    ({ s with
      dataEndpoint := ⟨address, dataPort⟩
      networkConnected := true
      reconnectRequested := false
      pointRatePushNeeded := true }, [.cleared])
  | _, _ => (s, [.cleared, .connectionError .connectFailed])

def updateDiscoveredStatus (bufferMax : ℤ) (s : LaserCubeNetLink α) : LaserCubeNetLink α :=
  { s with
    pointBufferCapacity := bufferMax
    reconnectRequested := s.reconnectRequested || !s.networkConnected }

def close (s : LaserCubeNetLink α) : LaserCubeNetLink α × List LinkEvent :=
  ({ s with
    networkConnected := false
    reconnectRequested := false
    messageTimes := fun _ => 0
    pendingAckCount := 0 }, [.cleared])

/-! ## Sending -/

/-- `syncPointRate`, where the command is sent or not. -/
def syncPointRate (desired : ℕ) (sent : Bool) (s : LaserCubeNetLink α) :
    LaserCubeNetLink α × List LinkEvent :=
  if !s.pointRatePushNeeded ∧ desired = s.lastSentPointRate then (s, [])
  else if s.sockets ∧ sent then
    ({ s with lastSentPointRate := desired, pointRatePushNeeded := false }, [])
  else
    ({ s with networkConnected := false, pointRatePushNeeded := true },
      [.connectionError .sendFailed])

/-- What the pass of the worker reads. Without a socket nothing is sent. -/
def passInput (input : SendInput) (s : LaserCubeNetLink α) : PassInput where
  now := input.now.time
  targetLatency := input.targetLatency
  renderNow := input.renderNow.time
  supplied := input.supplied
  sentAt := if s.sockets then input.sentAt.map ClockReading.time else none

/-- The packet that was built is sent, or not. -/
def sendPacket (sentAt : Option ClockReading) (s : LaserCubeNetLink α) :
    LaserCubeNetLink α × List LinkEvent :=
  match s.sockets, sentAt with
  | true, some now =>
    let fresh := s.messageTimes s.messageNumber = 0
    ({ s with
      pendingAckCount := if fresh then s.pendingAckCount + 1 else s.pendingAckCount
      messageTimes := Function.update s.messageTimes s.messageNumber now.time
      messageNumber := s.messageNumber + 1 }, [.sent s.messageNumber fresh])
  | _, _ =>
    ({ s with networkConnected := false, messageNumber := s.messageNumber + 1 },
      [.connectionError .sendFailed])

/-- `sendPoints`. The snapshots are those of the worker's pass. -/
def sendPoints (D : Type) [FloatArith D] (input : SendInput) (s : LaserCubeNetLink α) :
    LaserCubeNetLink α × List LinkEvent :=
  let pass := s.passInput input
  let (worker, report) := s.toLaserCubeNetController.sendPoints D pass
  let s := { s with
    toLaserCubeNetController := worker
    frameNumber := s.frameNumber + 1
    lastEstimatedBufferFullness := report.estimate }
  match report.request, input.supplied with
  | some _, some (_ + 1) => s.sendPacket input.sentAt
  | _, _ => (s, [])

/-! ## Acknowledgements -/

/-- The slot of a number becomes free. -/
def freeSlot (number : UInt8) (s : LaserCubeNetLink α) : LaserCubeNetLink α :=
  { s with
    messageTimes := Function.update s.messageTimes number 0
    pendingAckCount :=
      if 0 < s.pendingAckCount then s.pendingAckCount - 1 else s.pendingAckCount }

/-- An acknowledgement of the device, which tells the space left in its buffer. -/
def handleAck (now : TimePoint) (number : UInt8) (bufferSpace : ℕ) (s : LaserCubeNetLink α) :
    LaserCubeNetLink α × List LinkEvent :=
  let sentTime := s.messageTimes number
  if sentTime = 0 then (s, [.intermittentError .packetLoss])
  else
    let worker := s.toLaserCubeNetController.receiveAck now bufferSpace
    let s := { s with
      toLaserCubeNetController := worker
      lastAckWarningTime := 0
      lastEstimatedBufferFullness := worker.lastReportedBufferFullness }
    (s.freeSlot number,
      (if bufferSpace = 0 then [.intermittentError .bufferOverrun] else []) ++
        [.acknowledged number (now - sentTime)])

/-- A datagram: of those the device sends, four bytes with the right command are an
acknowledgement. -/
def handleDatagram [DecidableEq α] (now : TimePoint) (sender : Endpoint α) (bytes : List UInt8)
    (s : LaserCubeNetLink α) : LaserCubeNetLink α × List LinkEvent :=
  if sender ≠ s.dataEndpoint then
    if s.lastUnexpectedAckSenderLogTime = 0 ∨
        second < now - s.lastUnexpectedAckSenderLogTime then
      ({ s with lastUnexpectedAckSenderLogTime := now }, [.intermittentError .packetLoss])
    else (s, [])
  else
    let buffer := bytes.take 4
    if buffer.length ≠ 4 then
      if 0 < buffer.length then (s, [.intermittentError .protocolError]) else (s, [])
    else if buffer.getD 0 0 ≠ cmdGetRingbufferFree then
      (s, [.intermittentError .protocolError])
    else s.handleAck now (buffer.getD 1 0) (readLe16 (buffer.getD 2 0) (buffer.getD 3 0))

/-- The loop that polls the data socket, which has received these. -/
def pollAcks [DecidableEq α] (now : TimePoint) :
    ℕ → List (Received α) → LaserCubeNetLink α → LaserCubeNetLink α × List LinkEvent
  | 0, _, s | _ + 1, [], s | _ + 1, .timedOut :: _, s => (s, [])
  | _ + 1, .failed :: _, s => (s, [.intermittentError .receiveFailed])
  | polls + 1, .datagram sender bytes :: rest, s =>
    let (s, handled) := s.handleDatagram now sender bytes
    let (s, later) := pollAcks now polls rest s
    (s, handled ++ later)

/-- The message numbers, in order. -/
def numbers : List UInt8 := (List.range 256).map UInt8.ofNat

/-- The loop over the slots that frees those of packets sent more than a second ago. -/
def expireSlots (now : TimePoint) :
    List UInt8 → LaserCubeNetLink α → LaserCubeNetLink α × List LinkEvent
  | [], s => (s, [])
  | number :: rest, s =>
    if s.messageTimes number ≠ 0 ∧ second < now - s.messageTimes number then
      let (s, later) := expireSlots now rest (s.freeSlot number)
      (s, .expired number :: later)
    else expireSlots now rest s

/-- The time of the oldest packet on its way, or now. -/
def oldestTime (now : TimePoint) (s : LaserCubeNetLink α) : TimePoint :=
  numbers.foldl (fun oldest number =>
    if s.messageTimes number ≠ 0 ∧ s.messageTimes number < oldest then s.messageTimes number
    else oldest) now

/-- A warning where no acknowledgement came for a second. -/
def warnOfWait (now : TimePoint) (s : LaserCubeNetLink α) : LaserCubeNetLink α × List LinkEvent :=
  if second < now - s.lastAckTime ∧
      (s.lastAckWarningTime = 0 ∨ second < now - s.lastAckWarningTime) then
    ({ s with lastAckWarningTime := now }, [.intermittentError .packetLoss])
  else (s, [])

/-- The connection counts as lost when every slot has been occupied for long enough. -/
def checkStall (now : TimePoint) (s : LaserCubeNetLink α) : LaserCubeNetLink α × List LinkEvent :=
  if 256 ≤ s.pendingAckCount ∧ ackDisconnectThreshold ≤ now - s.oldestTime now then
    ({ s with networkConnected := false }, [.connectionError .connectionLost])
  else (s, [])

def checkAcks [DecidableEq α] (now : TimePoint) (received : List (Received α))
    (s : LaserCubeNetLink α) : LaserCubeNetLink α × List LinkEvent :=
  if !s.sockets then (s, [])
  else
    let (s, polled) := pollAcks now maxAckPollsPerCall received s
    if 0 < s.pendingAckCount then
      let (s, expired) := expireSlots now numbers s
      if 0 < s.pendingAckCount then
        let (s, warned) := s.warnOfWait now
        let (s, stalled) := s.checkStall now
        (s, polled ++ expired ++ warned ++ stalled)
      else (s, polled ++ expired)
    else (s, polled)

/-! ## The system -/

/-- The calls on a controller. -/
inductive Call (α : Type)
  | connectToStatus (input : ConnectInput α)
  | updateDiscoveredStatus (bufferMax : ℤ)
  | syncPointRate (desired : ℕ) (sent : Bool)
  | sendPoints (input : SendInput)
  | checkAcks (now : ClockReading) (received : List (Received α))
  | close

def call (D : Type) [FloatArith D] [DecidableEq α] (s : LaserCubeNetLink α) :
    Call α → LaserCubeNetLink α × List LinkEvent
  | .connectToStatus input => s.connectToStatus input
  | .updateDiscoveredStatus bufferMax => (s.updateDiscoveredStatus bufferMax, [])
  | .syncPointRate desired sent => s.syncPointRate desired sent
  | .sendPoints input => s.sendPoints D input
  | .checkAcks now received => s.checkAcks now.time received
  | .close => s.close

def step (D : Type) [FloatArith D] [DecidableEq α] (s : LaserCubeNetLink α) (c : Call α) :
    Option (LaserCubeNetLink α × List LinkEvent) :=
  some (s.call D c)

end LaserCubeNetLink

end LiberaLaser
