import LiberaLaser.Backends.Helios.Connection
import LiberaLaser.Core.Controller.Model
import LiberaLaser.Core.Transport.FrameTransport

/-!
# The worker of a Helios DAC

The worker looks at its connection and reopens it where it is closed, polls the status, and submits
a frame when the device is ready for one. Failures are counted by their kind, and the tenth in a row
makes the worker ask for a reconnect. A pass of its loop is three steps here, between which the
application may read and write the name of the device, change the settings of the controller or
close it: a close first marks the connection and lets go of the handle later.

The frame comes from outside, and so do the clock and what libusb answers. Logs, sleeps, latency
samples and the buffer state for the user interface are left out.
-/

namespace LiberaLaser.Helios

open FloatArith

/-- The constants of the vendor's SDK: its limits, its version and `HELIOS_FLAGS_DEFAULT`. -/
structure Sdk where
  limits : SdkLimits
  version : UInt8
  flags : ℕ

/-! ## Frames -/

def minFramePoints : ℕ := 20

/-- The points of ten milliseconds. -/
def defaultFramePointCount (D : Type) [FloatArith D] (limits : SdkLimits) (pointRate : ℕ) : ℕ :=
  if pointRate = 0 then minFramePoints
  else
    let roundedPoints := (llround (ofNat pointRate * 10.0 / 1000.0 : D)).toNat
    Nat.min (Nat.max roundedPoints minFramePoints) limits.maxPoints

section Encode

variable {F : Type} [FloatArith F]

def encodeUnsigned16FromSignedUnitValue (value : F) : UInt16 :=
  let normalized := sanitizeSignedUnitValue value * 0.5 + 0.5
  UInt16.ofInt (llround (normalized * 65535.0))

def encodeUnsigned16FromUnitValue (value : F) : UInt16 :=
  UInt16.ofInt (llround (sanitizeUnitValue value * 65535.0))

def encodePoint (point : LaserPoint F) : HeliosPointExt where
  x := encodeUnsigned16FromSignedUnitValue point.x
  y := encodeUnsigned16FromSignedUnitValue point.y
  r := encodeUnsigned16FromUnitValue point.r
  g := encodeUnsigned16FromUnitValue point.g
  b := encodeUnsigned16FromUnitValue point.b
  i := encodeUnsigned16FromUnitValue point.i

def encodeFramePoints (points : List (LaserPoint F)) : List HeliosPointExt :=
  points.map encodePoint

end Encode

/-- The lead of a write for the next request, in ticks. -/
def requestRenderLead (previousWriteLeadMicros : ℤ) : Duration :=
  max 0 previousWriteLeadMicros * 1000

def smoothWriteLeadMicros (previousMicros currentMicros : ℤ) : ℤ :=
  let previous := max 0 previousMicros
  let current := max 0 currentMicros
  if previous = 0 then current else (previous * 3 + current) / 4

/-! ## The controller -/

/-- The kinds of failures that are counted. -/
inductive Failure
  | statusTimeout
  | statusError
  | writeTimeout
  | writeError
  deriving DecidableEq

/-- The code under which a failure is recorded. -/
def Failure.errorType : Failure → String
  | .statusTimeout | .writeTimeout => "usb.timeout"
  | .statusError => "usb.status_error"
  | .writeError => "usb.transfer_failed"

/-- What a controller does. A status error right after the start is excused. -/
inductive HeliosEvent
  | usb (event : UsbEvent)
  | resetStartupBlank
  | recorded (errorType : String)
  | failed (failure : Failure)
  | excused
  | answered
  | requested (request : FrameFillRequest)
  | submitted (points : ℕ)
  | requestReconnect
  | reconnected
  deriving DecidableEq

/-- Where the worker is in a pass of its loop. -/
inductive Phase
  | stopped
  | looking
  | polling
  | submitting
  deriving DecidableEq

def usbReconnectErrorThreshold : ℕ := 10

/-- `STATUS_ERROR_WARMUP_GRACE`. -/
def statusErrorWarmupGrace : Duration := 250000000

/-- `USB_RECONNECT_INTERVAL`. -/
def usbReconnectInterval : Duration := 2000000000

/-- A controller with its worker, and with the closes that have marked the connection and not yet
let go of the handle: each knows whether the connection was closed before. -/
structure HeliosController where
  connection : UsbConnection
  portPath : ByteString
  pointRate : ℕ
  targetFramePoints : ℕ
  framePointCountExplicitlySet : Bool := false
  connected : Bool := false
  currentPointIndex : ℕ := 0
  lastSubmittedFramePoints : ℕ := 0
  estimatedWriteLeadMicros : ℤ := 0
  frameTransportEstimate : FrameTransportEstimate := {}
  consecutiveStatusErrors : ℕ := 0
  consecutiveStatusTimeouts : ℕ := 0
  consecutiveWriteErrors : ℕ := 0
  consecutiveWriteTimeouts : ℕ := 0
  reconnectAttemptCount : ℕ := 0
  statusWarmupDeadline : TimePoint
  nextReconnectAttempt : TimePoint := 0
  phase : Phase := .stopped
  wasConnected : Bool := false
  closing : List Bool := []

/-- What the worker reads when it looks at its connection: the clock, before and after an attempt to
reconnect, and the devices that libusb lists. -/
structure Look where
  now : TimePoint
  startedAt : TimePoint
  devices : List UsbDevice

/-- What it reads when it submits a frame: the clock before the request and around the write, the
points that it gets, and what libusb answers. -/
structure Submission (F : Type) where
  now : TimePoint
  points : Option (List (LaserPoint F))
  sendStart : TimePoint
  sendDone : TimePoint
  notedAt : TimePoint
  usb : UsbOutcomes

/-- A step of the worker or of the application. -/
inductive HeliosTurn (F : Type)
  | start
  | look (env : Look)
  | poll (now : TimePoint) (usb : Exchange)
  | submit (env : Submission F)
  | leave
  | getDacName (usb : Exchange)
  | setDacName (name : ByteString) (usb : TransferOutcome)
  | setPointRate (pointRate : ℕ)
  | setFramePointCount (points : ℕ)
  | prepareForShutdown
  | beginClose
  | finishClose (wasClosed : Bool) (stop : TransferOutcome)

/-- The result of a transfer that timed out: `HELIOS_ERROR_LIBUSB_BASE + LIBUSB_ERROR_TIMEOUT`. -/
def timedOut : HeliosResult := .libusb (.other (-7))

namespace HeliosController

variable (c : HeliosController)

/-- Forget what is downstream. -/
def forget : HeliosController :=
  { c with connected := false, frameTransportEstimate := {}, lastSubmittedFramePoints := 0,
           estimatedWriteLeadMicros := 0 }

/-- The connection is back. -/
def restart (connection : UsbConnection) (startedAt : TimePoint) : HeliosController :=
  { c with connection := connection, connected := true, wasConnected := true,
           reconnectAttemptCount := 0, consecutiveStatusErrors := 0,
           consecutiveStatusTimeouts := 0, consecutiveWriteErrors := 0,
           consecutiveWriteTimeouts := 0, nextReconnectAttempt := 0,
           statusWarmupDeadline := startedAt + statusErrorWarmupGrace }

/-- The part of a pass where the connection is closed. -/
def reconnect (sdk : Sdk) (env : Look) : HeliosController × List HeliosEvent :=
  let lost := if c.wasConnected then [.recorded "usb.connection_lost"] else []
  let c := { c.forget with wasConnected := false }
  if env.now < c.nextReconnectAttempt then (c, lost)
  else
    match c.connection.tryReconnect sdk.version c.portPath env.devices with
    | (connection, true, events) =>
      (c.restart connection env.startedAt,
        lost ++ events.map .usb ++ [.reconnected, .resetStartupBlank])
    | (connection, false, events) =>
      ({ c with
          connection := connection
          reconnectAttemptCount := c.reconnectAttemptCount + 1
          nextReconnectAttempt := env.now + usbReconnectInterval },
        lost ++ events.map .usb ++ [.recorded "usb.connect_failed"])

/-- The worker looks at its connection. -/
def look (sdk : Sdk) (env : Look) : HeliosController × List HeliosEvent :=
  if c.connection.closed then c.reconnect sdk env
  else if c.wasConnected then ({ c with connected := true, phase := .polling }, [])
  else
    ({ c with
        connected := true
        wasConnected := true
        statusWarmupDeadline := env.now + statusErrorWarmupGrace
        phase := .polling },
      [.resetStartupBlank])

/-- Ask for a reconnect at the tenth failure in a row. -/
def requestReconnectAt (consecutive : ℕ) : HeliosController × List HeliosEvent :=
  if consecutive = usbReconnectErrorThreshold ∧ c.connection.closed = false then
    ({ c with connection := c.connection.requestReconnect }, [.requestReconnect])
  else (c, [])

/-- Count a failure. One of the same sort of call but of the other kind ends its streak. -/
def countFailure : Failure → HeliosController × ℕ
  | .statusTimeout =>
    ({ c with
        consecutiveStatusTimeouts := c.consecutiveStatusTimeouts + 1
        consecutiveStatusErrors := 0 }, c.consecutiveStatusTimeouts + 1)
  | .statusError =>
    ({ c with
        consecutiveStatusErrors := c.consecutiveStatusErrors + 1
        consecutiveStatusTimeouts := 0 }, c.consecutiveStatusErrors + 1)
  | .writeTimeout =>
    ({ c with
        consecutiveWriteTimeouts := c.consecutiveWriteTimeouts + 1
        consecutiveWriteErrors := 0 }, c.consecutiveWriteTimeouts + 1)
  | .writeError =>
    ({ c with
        consecutiveWriteErrors := c.consecutiveWriteErrors + 1
        consecutiveWriteTimeouts := 0 }, c.consecutiveWriteErrors + 1)

/-- Record a failure, count it and react to it. -/
def fail (failure : Failure) : HeliosController × List HeliosEvent :=
  let (c, consecutive) := c.countFailure failure
  let (c, events) := c.requestReconnectAt consecutive
  (c, .failed failure :: events)

/-- The worker polls the status. Errors right after the start do not count. -/
def poll (now : TimePoint) (usb : Exchange) : HeliosController × List HeliosEvent :=
  match c.connection.getStatus usb with
  | (connection, .error result, events) =>
    let c := { c with connection := connection, phase := .looking }
    if now < c.statusWarmupDeadline then
      ({ c with consecutiveStatusErrors := 0, consecutiveStatusTimeouts := 0 },
        events.map .usb ++ [.excused])
    else
      let (c, failure) := c.fail (if result = timedOut then .statusTimeout else .statusError)
      (c, events.map .usb ++ failure)
  | (connection, .ok ready, events) =>
    ({ c with
        connection := connection
        statusWarmupDeadline := 0
        consecutiveStatusErrors := 0
        consecutiveStatusTimeouts := 0
        phase := if ready then .submitting else .looking }, events.map .usb ++ [.answered])

section Submit

variable (D : Type) [FloatArith D] {F : Type} [FloatArith F] (sdk : Sdk)

/-- When the next frame starts to play. -/
def estimatedFirstRenderTime (now : TimePoint) : TimePoint :=
  c.frameTransportEstimate.projectedNextWriteRenderTime now
    (requestRenderLead c.estimatedWriteLeadMicros)

/-- The request for a frame. -/
def frameFillRequest (now : TimePoint) : FrameFillRequest where
  maximumPointsRequired := sdk.limits.maxPoints
  preferredPointCount := c.targetFramePoints
  blankFramePointCount := c.targetFramePoints
  estimatedFirstPointRenderTime := c.estimatedFirstRenderTime now
  currentPointIndex := c.currentPointIndex
  advanceWhenAvailable := true

/-- A frame was written. -/
def noteWritten (env : Submission F) (count : ℕ) : HeliosController :=
  { c with
    consecutiveWriteErrors := 0
    consecutiveWriteTimeouts := 0
    estimatedWriteLeadMicros := smoothWriteLeadMicros c.estimatedWriteLeadMicros
      ((env.sendDone - env.sendStart).tdiv 1000)
    frameTransportEstimate := c.frameTransportEstimate.noteFrameTransportSubmissionBounded D count
      (c.estimatedFirstRenderTime env.now) c.pointRate c.lastSubmittedFramePoints c.pointRate
      env.notedAt
    lastSubmittedFramePoints := count
    currentPointIndex := (c.currentPointIndex + count) % 2 ^ 64 }

/-- Write the points of a frame. -/
def writeFrame (env : Submission F) (points : List (LaserPoint F)) :
    Option (HeliosController × List HeliosEvent) :=
  let frameBuffer := encodeFramePoints points
  match c.connection.write D sdk.limits env.usb c.pointRate sdk.flags frameBuffer with
  | none => none
  | some (connection, .success, events) =>
    some ({ c.noteWritten D env frameBuffer.length with connection := connection },
      events.map .usb ++ [.submitted frameBuffer.length])
  | some (connection, result, events) =>
    let (c, failure) := { c with connection := connection }.fail
      (if result = timedOut then .writeTimeout else .writeError)
    some (c, events.map .usb ++ failure)

/-- The worker asks for a frame and writes it, if there is one with points. A write that leaves the
bounds of its buffers has no result. -/
def submit (env : Submission F) : Option (HeliosController × List HeliosEvent) :=
  let c' := { c with phase := .looking }
  let request := .requested (c.frameFillRequest sdk env.now)
  match env.points with
  | none | some [] => some (c', [request])
  | some points => (c'.writeFrame D sdk env points).map fun r => (r.1, request :: r.2)

/-! ## The application -/

def setPointRate (pointRate : ℕ) : HeliosController :=
  { c with
    pointRate := pointRate
    targetFramePoints :=
      if c.framePointCountExplicitlySet then c.targetFramePoints
      else defaultFramePointCount D sdk.limits pointRate }

def setFramePointCount (points : ℕ) : HeliosController :=
  { c with
    framePointCountExplicitlySet := true
    targetFramePoints := Nat.min (Nat.max points minFramePoints) sdk.limits.maxPoints }

/-- The first half of a close: forget what is downstream and mark the connection. -/
def beginClose : HeliosController :=
  { c.forget with
    connection := { c.connection with closed := true }
    closing := c.connection.closed :: c.closing }

/-- The second half: let go of the handle. -/
def finishClose (wasClosed : Bool) (stop : TransferOutcome) :
    HeliosController × List HeliosEvent :=
  let (connection, events) := c.connection.closeHandleLocked (if wasClosed then none else some stop)
  ({ c with connection := connection, closing := c.closing.erase wasClosed }, events.map .usb)

/-- A step. -/
def step : HeliosTurn F → Option (HeliosController × List HeliosEvent)
  | .start =>
    if c.phase = .stopped then
      some ({ c with phase := .looking, wasConnected := false }, [.resetStartupBlank])
    else none
  | .look env => if c.phase = .looking then some (c.look sdk env) else none
  | .poll now usb => if c.phase = .polling then some (c.poll now usb) else none
  | .submit env => if c.phase = .submitting then c.submit D sdk env else none
  | .leave => if c.phase = .looking then some ({ c with phase := .stopped }, []) else none
  | .getDacName usb =>
    let (connection, _, events) := c.connection.getName usb
    some ({ c with connection := connection }, events.map .usb)
  | .setDacName name usb =>
    let (connection, _, events) := c.connection.setName (name.take 30) usb
    some ({ c with connection := connection }, events.map .usb)
  | .setPointRate pointRate => some (c.setPointRate D sdk pointRate, [])
  | .setFramePointCount points => some (c.setFramePointCount sdk points, [])
  | .prepareForShutdown => some ({ c with connection := c.connection.prepareForShutdown }, [])
  | .beginClose => some (c.beginClose, [])
  | .finishClose wasClosed stop =>
    if wasClosed ∈ c.closing then some (c.finishClose wasClosed stop) else none

end Submit

/-- A new controller for the device at a port, if it can be opened. -/
def connectUsb (D : Type) [FloatArith D] (sdk : Sdk) (portPath : ByteString)
    (devices : List UsbDevice) (pointRate : ℕ) (now : TimePoint) :
    Option HeliosController × List HeliosEvent :=
  if portPath.isEmpty then (none, [])
  else
    match openHeliosUsbConnectionLocked sdk.version portPath 0 devices with
    | (events, none, _) => (none, events.map .usb)
    | (events, some (number, version), opened) =>
      (some
        { connection :=
            { handle := true, closed := false, shutterOpen := false, number := number,
              opened := opened, firmwareVersion := version }
          portPath := portPath
          pointRate := pointRate
          targetFramePoints := defaultFramePointCount D sdk.limits pointRate
          statusWarmupDeadline := now + statusErrorWarmupGrace },
        events.map .usb)

end HeliosController

end LiberaLaser.Helios
