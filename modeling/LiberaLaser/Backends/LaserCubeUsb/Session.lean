import LiberaLaser.Backends.Helios.WriteFrame
import LiberaLaser.Backends.LaserCubeUsb
import LiberaLaser.Foundations.Acts
import LiberaLaser.Foundations.ByteString
import LiberaLaser.Foundations.Endian

/-!
# A session with a LaserCube over USB

The controller looks for the device with its serial number, claims its two interfaces, and puts its
firmware into a known state. A pass of its worker connects again where it has to, tells the device
the point rate where it has changed, and sends one packet of points, as many as the estimate of the
device's buffer has room for. Ten failed commands or ten timeouts in a row, or any other failure of
a packet, end the connection.

What libusb answers, the clock and the points come from outside, and the settings are read once a
pass. Error records, logs, sleeps and the latency samples are left out.
-/

namespace LiberaLaser.LaserCubeUsb

open FloatArith BufferEstimator Helios

/-! ## Commands -/

/-- A command on the control endpoint. -/
inductive Command
  | enableOutput
  | readMaxRate
  | readBulkCount
  | runnerModeEnable (on : Bool)
  | runnerModeRun (on : Bool)
  | runnerModeLoad
  | setPointRate (rate : UInt32)
  deriving DecidableEq

/-- The seven white samples that are loaded into the runner buffer, padded to a packet. -/
def runnerSamples : List UInt8 := List.replicate 56 0xFF ++ [0, 0]

def Command.bytes : Command → List UInt8
  | .enableOutput => [0x80, 0x01]
  | .readMaxRate => [0x84]
  | .readBulkCount => [0x8E]
  | .runnerModeEnable on => [0xC0, 0x01, on.toUInt8]
  | .runnerModeRun on => [0xC0, 0x09, on.toUInt8]
  | .runnerModeLoad => [0xC0, 0x08, 0, 0, 7, 0] ++ runnerSamples
  | .setPointRate rate => 0x82 :: Endian.littleBytes 4 rate.toNat

/-- What libusb answers to a command: to its transfer, and to that of the reply. -/
structure ExchangeAnswer where
  request : TransferOutcome
  reply : TransferOutcome
  packet : Vector UInt8 64

/-- The command was taken. -/
def ExchangeAnswer.ok (answer : ExchangeAnswer) (command : Command) : Bool :=
  answer.request.code = .success ∧ answer.request.actualLength = command.bytes.length ∧
    answer.reply.code = .success ∧ answer.reply.actualLength = 64 ∧ answer.packet[1] = 0

/-- The number in a reply, if the command was taken. -/
def ExchangeAnswer.value (answer : ExchangeAnswer) (command : Command) : Option UInt32 :=
  if answer.ok command then
    some (UInt32.ofNat (Endian.little ((answer.packet.toList.drop 2).take 4)))
  else none

/-- `LIBUSB_ERROR_TIMEOUT`. -/
def timeout : LibusbCode := .other (-7)

/-! ## Points -/

section Encode

variable {F : Type} [FloatArith F]

def encodeUnsigned12FromSignedUnit (value : F) : UInt16 :=
  let normalized := sanitizeSignedUnitValue value * 0.5 + 0.5
  UInt16.ofInt (llround (normalized * 4095.0))

def encodeUnsigned8FromUnit (value : F) : UInt8 :=
  UInt8.ofInt (llround (sanitizeUnitValue value * 255.0))

/-- Red and green, blue, and the coordinates, each in two bytes. -/
def encodePoint (point : LaserPoint F) : List UInt8 :=
  let x := encodeUnsigned12FromSignedUnit point.x
  let y := encodeUnsigned12FromSignedUnit point.y
  [encodeUnsigned8FromUnit point.r, encodeUnsigned8FromUnit point.g,
    encodeUnsigned8FromUnit point.b, 0] ++ Endian.littleBytes 2 x.toNat ++
    Endian.littleBytes 2 y.toNat

end Encode

/-! ## The controller -/

/-- A device in the list of libusb: whether it is a LaserCube with a serial number, what reading the
number gives, and how opening it goes on. -/
structure UsbDevice where
  isLaserCube : Bool
  serial : Option (Option ByteString)
  opens : Bool
  claims : Fin 2 → Bool
  configures : Bool

/-- What happens on the USB, and what the controller is asked for and asks for. -/
inductive UsbEvent
  | connect (serial : ByteString)
  | close
  | attempt (now : TimePoint)
  | probed (device : ℕ) (serial : Option ByteString)
  | opened (device : ℕ)
  | claimed (interface : Fin 2)
  | configured
  | released (interface : Fin 2)
  | closed
  | control (bytes : List UInt8) (ok : Bool)
  | requested (request : PointFillRequest)
  | wrote (packet : List UInt8) (outcome : TransferOutcome)

/-- The controller with what it needs to keep a connection. The interfaces of a handle that it keeps
are both claimed. -/
structure Session extends LaserCubeUsbController where
  usbConnected : Bool := false
  usbSerial : ByteString := []
  maxPointRate : UInt32 := 0
  pointRate : UInt32 := 30000
  pointRatePushNeeded : Bool := true
  consecutiveControlErrors : ℕ := 0
  consecutiveTransferTimeouts : ℕ := 0
  consecutiveTransferErrors : ℕ := 0
  reconnectAttemptCount : ℕ := 0
  nextReconnectAttempt : TimePoint := 0
  running : Bool := false

/-- A controller that was just made. -/
def Session.init : Session where
  usbHandle := false
  lastSentPointRate := 0
  maxSamplesPerTransfer := 0
  lastDataSentTime := 0
  lastDataSentBufferSize := 0

def usbReconnectInterval : Duration := 2000000000

def usbReconnectErrorThreshold : ℕ := 10

/-- A part of what the controller does. -/
abbrev UsbAct := Act Session UsbEvent

/-- The end of a part, which makes no event. -/
def fail : UsbAct := Act.stop id

def event (e : UsbEvent) : UsbAct := Act.emit fun _ => e

/-! ## Opening and closing -/

/-- The connection is forgotten. -/
def Session.disconnected (c : Session) : Session :=
  { c with
    usbConnected := false
    lastDataSentTime := 0
    lastDataSentBufferSize := 0
    lastSentPointRate := 0
    pointRatePushNeeded := true
    usbHandle := false }

def markUsbDisconnected : UsbAct := fun c =>
  (c.disconnected, if c.usbHandle then [.released 1, .released 0, .closed] else [], true)

def claimInterface (device : UsbDevice) (interface : Fin 2) : UsbAct :=
  if device.claims interface then event (.claimed interface) else fail

/-- The constructor of a handle. -/
def makeHandle (number : ℕ) (device : UsbDevice) : UsbAct :=
  if device.opens then
    (event (.opened number)).andThen
      (((claimInterface device 0).orElse (event .closed)).andThen
        (((claimInterface device 1).orElse
            ((event (.released 0)).andThen (event .closed))).andThen
          ((if device.configures then event .configured else fail).orElse
            ((event (.released 1)).andThen ((event (.released 0)).andThen (event .closed))))))
  else fail

/-- The loop over the devices, the first of which has a number. -/
def openFrom (serial : ByteString) : ℕ → List UsbDevice → UsbAct
  | _, [] => fail
  | number, device :: devices =>
    match device.isLaserCube, device.serial with
    | true, some discovered =>
      (event (.probed number discovered)).andThen
        (if discovered = some serial then makeHandle number device
        else openFrom serial (number + 1) devices)
    | _, _ => openFrom serial (number + 1) devices

def openLaserCubeUsbHandle (serial : ByteString) (devices : List UsbDevice) : UsbAct :=
  if serial = [] then fail else openFrom serial 0 devices

/-! ## Connecting -/

/-- What connecting reads: the devices, the answers to the commands, and the clock. -/
structure ConnectAnswers where
  devices : List UsbDevice
  enableOutput : ExchangeAnswer
  maxRate : ExchangeAnswer
  bulkCount : ExchangeAnswer
  runner : Fin 5 → ExchangeAnswer

def send (command : Command) (answer : ExchangeAnswer) : UsbAct :=
  event (.control command.bytes (answer.ok command))

/-- The firmware is put into a known state. -/
def resetRunner (answers : Fin 5 → ExchangeAnswer) : UsbAct :=
  (send (.runnerModeEnable true) (answers 0)).andThen
    ((send (.runnerModeEnable false) (answers 1)).andThen
      ((send (.runnerModeRun true) (answers 2)).andThen
        ((send (.runnerModeRun false) (answers 3)).andThen (send .runnerModeLoad (answers 4)))))

/-- The state of a new connection. -/
def Session.started (c : Session) : Session :=
  { c with
    usbConnected := true
    consecutiveControlErrors := 0
    consecutiveTransferTimeouts := 0
    consecutiveTransferErrors := 0
    pointRate := if 0 < c.maxPointRate then min c.pointRate c.maxPointRate else c.pointRate
    pointRatePushNeeded := true
    lastDataSentTime := 0
    lastDataSentBufferSize := 0 }

/-- `maxSamplesPerTransfer`, from the answer of the device. -/
def bulkCount : Option UInt32 → ℤ
  | some count => if 0 < count then count.toInt32.toInt else LaserCubeUsbController.bufferCapacity
  | none => LaserCubeUsbController.bufferCapacity

def initDevice (answers : ConnectAnswers) : UsbAct :=
  (Act.modify fun c => { c with usbHandle := true }).andThen
    ((send .enableOutput answers.enableOutput).andThen
      ((send .readMaxRate answers.maxRate).andThen
        ((Act.modify fun c =>
            { c with maxPointRate := (answers.maxRate.value .readMaxRate).getD 0 }).andThen
          ((send .readBulkCount answers.bulkCount).andThen
            ((Act.modify fun c =>
                { c with
                  maxSamplesPerTransfer :=
                    bulkCount (answers.bulkCount.value .readBulkCount) }).andThen
              ((resetRunner answers.runner).andThen (Act.modify Session.started)))))))

def connectToSerial (answers : ConnectAnswers) : UsbAct := fun c =>
  ((openLaserCubeUsbHandle c.usbSerial answers.devices).andThen (initDevice answers)) c

def connect (serial : ByteString) (answers : ConnectAnswers) : UsbAct :=
  (event (.connect serial)).andThen
    (markUsbDisconnected.andThen
      ((Act.modify fun c => { c with usbSerial := serial }).andThen (connectToSerial answers)))

def tryReconnect (answers : ConnectAnswers) : UsbAct := fun c =>
  (if c.usbSerial = [] then fail
  else markUsbDisconnected.andThen (connectToSerial answers)) c

def close : UsbAct :=
  (event .close).andThen
    ((Act.modify fun c =>
        { c with
          usbSerial := []
          reconnectAttemptCount := 0
          consecutiveControlErrors := 0
          consecutiveTransferTimeouts := 0
          consecutiveTransferErrors := 0
          nextReconnectAttempt := 0 }).andThen markUsbDisconnected)

def setPointRate (pointRate : UInt32) : UsbAct := Act.modify fun c =>
  { c with
    pointRate :=
      if 0 < c.maxPointRate ∧ c.maxPointRate < pointRate then c.maxPointRate else pointRate }

/-! ## A pass of the worker -/

/-- What a packet reads: the target latency, the clock, the points, what libusb answers to each try,
and the clock after that. -/
structure PacketAnswers (F : Type) where
  targetLatency : ℤ
  now : TimePoint
  points : Option (List (LaserPoint F))
  transfers : ℕ → TransferOutcome
  sentAt : TimePoint

structure PassAnswers (F : Type) where
  now : TimePoint
  connect : ConnectAnswers
  rate : ExchangeAnswer
  packet : PacketAnswers F

/-- The connection is to be kept up. -/
def reconnect (now : TimePoint) (answers : ConnectAnswers) : UsbAct := fun c =>
  if c.nextReconnectAttempt ≤ now then
    ((event (.attempt now)).andThen
      ((Act.modify fun c =>
          { c with reconnectAttemptCount := c.reconnectAttemptCount + 1 }).andThen
        (((tryReconnect answers).orElse (Act.modify fun c =>
            { c with nextReconnectAttempt := now + usbReconnectInterval })).andThen
          (Act.modify fun c =>
            { c with
              reconnectAttemptCount := 0
              consecutiveControlErrors := 0
              consecutiveTransferTimeouts := 0
              consecutiveTransferErrors := 0
              nextReconnectAttempt := 0 })))) c
  else (c, [], true)

/-- The command about the rate failed. -/
def rateFailed : UsbAct := fun c =>
  let errors := c.consecutiveControlErrors + 1
  ((if errors = usbReconnectErrorThreshold then markUsbDisconnected else Act.modify id).andThen
    (Act.modify fun c => { c with pointRatePushNeeded := true }))
    { c with consecutiveControlErrors := errors }

/-- The device takes the rate. -/
def Session.rateSent (c : Session) (desired : UInt32) : Session :=
  { c with
    lastSentPointRate := desired.toNat
    pointRatePushNeeded := false
    consecutiveControlErrors := 0 }

def syncPointRate (answer : ExchangeAnswer) : UsbAct := fun c =>
  if c.pointRatePushNeeded = false ∧ c.pointRate.toNat = c.lastSentPointRate then (c, [], true)
  else if c.usbHandle = false then markUsbDisconnected { c with pointRatePushNeeded := true }
  else
    ((send (.setPointRate c.pointRate) answer).andThen
      (if answer.ok (.setPointRate c.pointRate) then Act.modify (·.rateSent c.pointRate)
      else rateFailed)) c

/-- The tries of a packet: it is sent again after a timeout, if a retry is left. What the last try
gave decides what is done. -/
def bulkTransfer (packet : List UInt8) (transfers : ℕ → TransferOutcome)
    (done : TransferOutcome → UsbAct) : ℕ → UsbAct
  | 0 => Act.modify id
  | retries + 1 =>
    (event (.wrote packet (transfers retries))).andThen
      (if (transfers retries).code = timeout ∧ 0 < retries then
        bulkTransfer packet transfers done retries
      else done (transfers retries))

def transferTimedOut : UsbAct := fun c =>
  let timeouts := c.consecutiveTransferTimeouts + 1
  (if timeouts = usbReconnectErrorThreshold then markUsbDisconnected else Act.modify id)
    { c with consecutiveTransferTimeouts := timeouts, consecutiveTransferErrors := 0 }

def transferFailed : UsbAct := fun c =>
  markUsbDisconnected
    { c with
      consecutiveTransferErrors := c.consecutiveTransferErrors + 1
      consecutiveTransferTimeouts := 0 }

/-- The packet went out, and leaves a new snapshot of the buffer. -/
def Session.transferred (c : Session) (estimatedAfterSend : ℤ) (now : TimePoint) : Session :=
  { c with
    consecutiveTransferTimeouts := 0
    consecutiveTransferErrors := 0
    lastDataSentTime := now
    lastDataSentBufferSize := estimatedAfterSend }

/-- A packet that went out leaves the snapshot that the plain worker leaves. -/
theorem transferred_eq_sendPoints {D : Type} [FloatArith D] {F : Type} {c : Session}
    {request : PointFillRequest} {targetLatency : ℤ} {now renderNow sentAt : TimePoint}
    {points : List (LaserPoint F)}
    (hrequest : c.fillRequest D targetLatency now = some request) (hpoints : points ≠ []) :
    (c.transferred (clampBufferFullnessToCapacity (c.estimateBufferFullness D now +
        (points.take request.maximumPointsRequired).length) LaserCubeUsbController.bufferCapacity)
        sentAt).toLaserCubeUsbController =
      (c.toLaserCubeUsbController.sendPoints D
        ⟨now, targetLatency, renderNow, some points.length, some sentAt⟩).1 := by
  obtain ⟨point, points, rfl⟩ := List.exists_cons_of_ne_nil hpoints
  rw [LaserCubeUsbController.sendPoints, hrequest, List.length_take, Nat.min_comm]
  rfl

section Content

variable (D : Type) [FloatArith D] {F : Type} [FloatArith F]

/-- The packet of some points, and what comes of it. -/
def sendPacket (points : List (LaserPoint F)) (bufferFullness : ℤ) (answers : PacketAnswers F) :
    UsbAct :=
  bulkTransfer (points.flatMap encodePoint) answers.transfers (fun outcome =>
    if outcome.code = .success ∧ outcome.actualLength = (points.flatMap encodePoint).length then
      Act.modify (·.transferred (clampBufferFullnessToCapacity (bufferFullness + points.length)
        LaserCubeUsbController.bufferCapacity) answers.sentAt)
    else if outcome.code = timeout then transferTimedOut
    else transferFailed) 3

def sendPoints (answers : PacketAnswers F) : UsbAct := fun c =>
  if c.usbHandle = false then markUsbDisconnected c
  else
    match c.fillRequest D answers.targetLatency answers.now with
    | none => (c, [], true)
    | some request =>
      (event (.requested request)).andThen
        (match answers.points with
        | some (point :: points) =>
          sendPacket ((point :: points).take request.maximumPointsRequired)
            (c.estimateBufferFullness D answers.now) answers
        | some [] | none => Act.modify id) c

/-- A pass of the loop of `run`. -/
def pass (answers : PassAnswers F) : UsbAct := fun c =>
  if c.usbConnected = false ∨ c.usbHandle = false then reconnect answers.now answers.connect c
  else ((syncPointRate answers.rate).andThen (sendPoints D answers.packet)) c

/-- A step of the worker or of the application. -/
inductive Turn (F : Type)
  | connect (serial : ByteString) (answers : ConnectAnswers)
  | startThread
  | pass (answers : PassAnswers F)
  | stopThread
  | close
  | setPointRate (pointRate : UInt32)

/-- What a step does. -/
def Turn.act : Turn F → UsbAct
  | .connect serial answers => LaserCubeUsb.connect serial answers
  | .startThread => Act.modify fun c => { c with running := true }
  | .pass answers => LaserCubeUsb.pass D answers
  | .stopThread => Act.modify fun c => { c with running := false }
  | .close => LaserCubeUsb.close
  | .setPointRate pointRate => LaserCubeUsb.setPointRate pointRate

/-- The worker runs where it was started, and connections are made and closed where it does not. -/
def Turn.enabled (running : Bool) : Turn F → Bool
  | .pass _ | .stopThread => running
  | .connect _ _ | .startThread | .close => !running
  | .setPointRate _ => true

def step (c : Session) (turn : Turn F) : Option (Session × List UsbEvent) :=
  if turn.enabled c.running then some ((turn.act D c).1, (turn.act D c).2.1) else none

end Content

end LiberaLaser.LaserCubeUsb
