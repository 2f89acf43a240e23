import LiberaLaser.Backends.EtherDream.Model
import LiberaLaser.Foundations.ByteString
import LiberaLaser.Foundations.ReplyStream

/-!
# The connection of an Ether Dream

The device greets a new connection with a status, and then answers every command with one response
that carries its status: 22 bytes, or 32 bytes of text for the version command. The worker shakes
hands, then sends one command after another and reads the response to each, and closes the
connection where an exchange fails.

What the device answers is arbitrary, and so is how a read ends. Here a turn of the worker is a
step, and the application may set the point rate and the latency between the turns or while the
worker waits for a response. A connection that is found lost counts as a failed read. Logs, error
records, sleeps, the encoding of points and the health statistics of the stream are left out.
-/

namespace LiberaLaser

open ByteString FloatArith ReplyStream

/-! ## Responses -/

def LightEngineState.ofCode (code : UInt8) : LightEngineState :=
  if code = 0 then .ready
  else if code = 1 then .warmup
  else if code = 2 then .cooldown
  else if code = 3 then .estop
  else .unknown code

def PlaybackState.ofCode (code : UInt8) : PlaybackState :=
  if code = 0 then .idle
  else if code = 1 then .prepared
  else if code = 2 then .playing
  else if code = 3 then .paused
  else .unknown code

/-- The little-endian number of some bytes. -/
def readLe (bytes : List UInt8) : ℕ := bytes.foldr (fun byte n => byte.toNat + 256 * n) 0

structure EtherDreamResponse where
  response : UInt8
  command : UInt8
  status : EtherDreamStatus
  deriving DecidableEq

def EtherDreamResponse.decode (data : List UInt8) : Option EtherDreamResponse :=
  if data.length < 22 then none
  else
    let statusBytes := data.drop 2
    some
      { response := data.getD 0 0
        command := data.getD 1 0
        status :=
          { lightEngineState := .ofCode (statusBytes.getD 1 0)
            playbackState := .ofCode (statusBytes.getD 2 0)
            bufferFullness := readLe ((statusBytes.drop 10).take 2)
            pointRate := readLe ((statusBytes.drop 12).take 4) } }

/-- The bytes of a response. -/
abbrev RawResponse := Vector UInt8 22

/-- The bytes of the answer to the version command. -/
abbrev RawVersion := Vector UInt8 32

/-- The commands that the worker sends. -/
inductive EtherDreamCommand
  | stop
  | clear
  | prepare
  | start
  | data
  | ping
  | version
  deriving DecidableEq

def EtherDreamCommand.opcode : EtherDreamCommand → UInt8
  | .stop => 's'.toUInt8
  | .clear => 'c'.toUInt8
  | .prepare => 'p'.toUInt8
  | .start => 'b'.toUInt8
  | .data => 'd'.toUInt8
  | .ping => '?'.toUInt8
  | .version => 'v'.toUInt8

def responseMatchesCommand (response : EtherDreamResponse) (command : EtherDreamCommand) : Bool :=
  response.command = command.opcode

def trimFirmwareString (value : List UInt8) : List UInt8 :=
  ((value.dropWhile isspace).reverse.dropWhile isspace).reverse

/-- The version text, with a blank for every byte that cannot be printed. -/
def firmwareText (raw : List UInt8) : List UInt8 :=
  trimFirmwareString (raw.map fun byte => if byte = 0 || !isprint byte then 0x20 else byte)

/-! ## The session -/

/-- Why a command failed. -/
inductive CommandFailureKind
  | shutdown
  | recoverInPlace
  | networkFailure
  | protocolFailure
  deriving DecidableEq

/-- The status that acknowledges a command, or why there is none. -/
abbrev CommandResult := Except CommandFailureKind EtherDreamStatus

/-- What happens on a connection. A command that is sent is recorded with the action pending then,
a status with the begin threshold as it was when it was received, and an acknowledgement with the
number of its command and the numbers of those that the bytes of the acknowledgement answer. -/
inductive ConnectionEvent
  | connected
  | sent (command : EtherDreamCommand) (pending : PlaybackAction)
  | received (status : EtherDreamStatus) (threshold : ℤ)
  | recovery (event : EtherDreamController.RecoveryEvent)
  | accepted (request : ℕ) (answered : List ℕ)
  | readFailed
  deriving DecidableEq

/-- A worker with its connection. The last field is a history variable. -/
structure EtherDreamSession where
  controller : EtherDreamController
  isOpen : Bool := false
  inLoop : Bool := false
  stream : ReplyStream UInt8 := ⟨[], 0⟩
  log : List ConnectionEvent := []
  deriving DecidableEq

/-- How the wait for a response goes: how the read ends, and what the application sets meanwhile. -/
structure Wait where
  outcome : ReplyStream.ReadOutcome := .complete
  pointRateSet : Option ℕ := none
  targetLatencySet : Option ℤ := none
  now : TimePoint := 0
  deriving DecidableEq

/-- How the exchange of a command goes: whether the worker still runs, whether the command is
written, and what the device answers. -/
structure Exchange extends Wait where
  running : Bool := true
  written : Bool := true
  reply : RawResponse
  deriving DecidableEq

/-- How the firmware version query goes. -/
structure VersionExchange where
  written : Bool := true
  outcome : ReplyStream.ReadOutcome := .complete
  reply : RawVersion
  deriving DecidableEq

/-- How a new connection goes, from the greeting of the device to the version query. -/
structure Handshake where
  greeting : RawResponse
  running : Bool := true
  wait : Wait := {}
  ping : Exchange
  version : VersionExchange
  deriving DecidableEq

/-- How a pass of the worker's loop goes: its exchange, its clock, and the points that a request for
points got, where there was a source. -/
structure Iteration where
  exchange : Exchange
  clock : ℕ → TimePoint := fun _ => 0
  points : Option ℕ := none

/-- A turn of the worker or of the application. -/
inductive EtherDreamTurn
  | connect (handshake : Handshake)
  | iterate (iteration : Iteration)
  | leave (exchange : Exchange)
  | setPointRate (pointRateValue : ℕ)
  | setTargetLatency (targetLatency : ℤ)

def EtherDreamController.shouldProbeFirmwareVersion (c : EtherDreamController) : Bool :=
  !c.firmwareProbeDisabledForSession && c.controllerInfo.hardwareRevision ≠ 0 &&
    2 ≤ c.controllerInfo.softwareRevision && c.firmwareVersionString.isEmpty

namespace EtherDreamSession

variable (s : EtherDreamSession)

/-- A change of the controller alone. -/
def modify (f : EtherDreamController → EtherDreamController) : EtherDreamSession :=
  { s with controller := f s.controller }

def record (events : List ConnectionEvent) : EtherDreamSession := { s with log := s.log ++ events }

/-- What the application sets while the worker waits. -/
def adjust (wait : Wait) : EtherDreamSession :=
  s.modify fun c =>
    let c := match wait.pointRateSet with
      | some pointRateValue => c.setPointRate pointRateValue
      | none => c
    match wait.targetLatencySet with
    | some targetLatency => { c with targetLatency := targetLatency }
    | none => c

def handleNetworkFailure : EtherDreamSession :=
  { s with isOpen := false }.modify fun c =>
    { c with connectionActive := false, clearOnFreshConnection := true }

def shouldCloseConnectionAfterCommandFailure : CommandResult → Bool
  | .ok _ | .error .shutdown | .error .recoverInPlace => false
  | .error .networkFailure | .error .protocolFailure => true

/-- What every command does with a failure. -/
def closeAfterFailure (result : CommandResult) : EtherDreamSession :=
  if shouldCloseConnectionAfterCommandFailure result then s.handleNetworkFailure else s

def close : EtherDreamSession :=
  { s with isOpen := false }.modify fun c => { c with connectionActive := false }

section Responses

variable (D : Type) [FloatArith D]

def updatePlaybackRequirements (status : EtherDreamStatus) (now : TimePoint) : EtherDreamSession :=
  let (c, recoveries) := s.controller.updatePlaybackRequirements D status now
  { s with controller := c }.record
    (.received status c.thresholdAtReceipt :: recoveries.map .recovery)

/-- A command that the device rejects. Rejected data call for a clear, whatever the reason. -/
def handleRejection (command : EtherDreamCommand) : EtherDreamSession :=
  if command = .data then s.modify .scheduleClearRecovery else s

def handleResponseFrame (command : EtherDreamCommand) (response : EtherDreamResponse)
    (now : TimePoint) : EtherDreamSession × CommandResult :=
  let s := s.updatePlaybackRequirements D response.status now
  if response.response = '!'.toUInt8 ∧ responseMatchesCommand response command then
    (s, .error .recoverInPlace)
  else if (response.response = 'I'.toUInt8 ∨ response.response = 'F'.toUInt8) ∧
      responseMatchesCommand response command then
    (s.handleRejection command, .error .recoverInPlace)
  else if response.response ≠ 'a'.toUInt8 ∨ !responseMatchesCommand response command then
    (s, .error .protocolFailure)
  else (s, .ok response.status)

/-- Read the response to request `n`, and make of it what it says. -/
def waitForResponse (command : EtherDreamCommand) (running allowWhileStopping : Bool) (n : ℕ)
    (wait : Wait) : EtherDreamSession × CommandResult :=
  if !running && !allowWhileStopping then (s, .error .shutdown)
  else if !s.isOpen then (s, .error .networkFailure)
  else
    let (stream, bytes) := s.stream.readExact 22 wait.outcome
    let s := { s with stream := stream }.adjust wait
    match bytes with
    | none => (s.record [.readFailed], .error .networkFailure)
    | some bytes =>
      match EtherDreamResponse.decode (bytes.map Prod.snd) with
      | none => (s, .error .protocolFailure)
      | some response =>
        match s.handleResponseFrame D command response wait.now with
        | (s, .ok status) => (s.record [.accepted n (bytes.map Prod.fst)], .ok status)
        | (s, .error kind) => (s, .error kind)

/-- Once the bytes are on the wire, the response is read even if the worker is to stop. -/
def sendCommand (command : EtherDreamCommand) (allowWhileStopping : Bool) (exchange : Exchange) :
    EtherDreamSession × CommandResult :=
  if !exchange.running && !allowWhileStopping then (s, .error .shutdown)
  else if !s.isOpen || !exchange.written then (s, .error .networkFailure)
  else
    let s := { s with stream := s.stream.request exchange.reply.toList }.record
      [.sent command s.controller.playbackAction]
    s.waitForResponse D command exchange.running true s.stream.requests exchange.toWait

/-! ## The commands -/

def sendStop (allowWhileStopping : Bool) (exchange : Exchange) : EtherDreamSession :=
  let (s, ack) := s.sendCommand D .stop allowWhileStopping exchange
  match ack with
  | .ok status =>
    s.modify fun c =>
      let c := { c with lastSentPointRate := 0 }
      if status.lightEngineState = .ready ∧ status.playbackState ≠ .idle then
        { c with playbackAction := .stop }
      else c
  | .error kind => s.closeAfterFailure (.error kind)

def sendClear (exchange : Exchange) : EtherDreamSession :=
  let (s, ack) := s.sendCommand D .clear false exchange
  s.closeAfterFailure ack

def sendPrepare (exchange : Exchange) : EtherDreamSession :=
  let (s, ack) := s.sendCommand D .prepare false exchange
  match ack with
  | .ok status =>
    s.modify fun c =>
      if status.lightEngineState = .ready ∧ status.playbackState ≠ .idle ∧
          status.playbackState ≠ .prepared then
        { c with playbackAction := .stop }
      else c
  | .error kind => s.closeAfterFailure (.error kind)

def sendBegin (exchange : Exchange) : EtherDreamSession :=
  let targetRate := s.controller.pointRate
  let (s, ack) := s.sendCommand D .start false exchange
  match ack with
  | .ok status =>
    s.modify fun c =>
      if status.playbackState = .playing then { c with lastSentPointRate := targetRate } else c
  | .error kind => s.closeAfterFailure (.error kind)

def pollStatus (exchange : Exchange) : EtherDreamSession :=
  let (s, ack) := s.sendCommand D .ping false exchange
  s.closeAfterFailure ack

def sendPoints (pointCount : ℕ) (exchange : Exchange) : EtherDreamSession :=
  if !s.controller.canSendData then
    s.modify fun c =>
      if c.playbackAction ≠ .clear ∧ c.playbackAction ≠ .stop ∧
          c.lastKnownStatus.lightEngineState = .ready ∧
          c.lastKnownStatus.playbackState = .idle then
        { c with playbackAction := .prepare }
      else c
  else if pointCount = 0 then s
  else
    let (s, ack) := s.sendCommand D .data false exchange
    s.closeAfterFailure ack

/-! ## The handshake -/

/-- Ask for the firmware version: the text, or nothing where the query fails. -/
def readFirmwareVersionString (exchange : VersionExchange) :
    EtherDreamSession × Option (List UInt8) :=
  if !s.isOpen || !exchange.written then (s, none)
  else
    let s := { s with stream := s.stream.request exchange.reply.toList }.record
      [.sent .version s.controller.playbackAction]
    let (stream, bytes) := s.stream.readExact 32 exchange.outcome
    let s := { s with stream := stream }
    match bytes with
    | none => (s.record [.readFailed], none)
    | some bytes =>
      (s.record [.accepted s.stream.requests (bytes.map Prod.fst)],
        some (firmwareText (bytes.map Prod.snd)))

/-- A failed query turns the probe off, and the connection goes on. -/
def probeFirmwareVersionOnExistingConnection (exchange : VersionExchange) : EtherDreamSession :=
  if !s.controller.shouldProbeFirmwareVersion then s
  else
    match s.readFirmwareVersionString exchange with
    | (s, none) => s.modify fun c => { c with firmwareProbeDisabledForSession := true }
    | (s, some version) =>
      if version.isEmpty then s
      else s.modify fun c => { c with firmwareVersionString := version }

/-- A status that opens the connection. -/
def greetedWith (status : EtherDreamStatus) (handshake : Handshake) : EtherDreamSession :=
  (s.modify (·.applyFreshConnectionStatus status)).probeFirmwareVersionOnExistingConnection
    handshake.version

/-- Wait for the greeting. Where it does not come, ask for a status on the same connection. The
worker does not start to run again while it shakes hands. -/
def performHandshake (handshake : Handshake) : EtherDreamSession × Bool :=
  match s.waitForResponse D .ping handshake.running false 0 handshake.wait with
  | (s, .ok status) => (s.greetedWith status handshake, true)
  | (s, .error _) =>
    match s.sendCommand D .ping false
        { handshake.ping with running := handshake.running && handshake.ping.running } with
    | (s, .ok status) => (s.greetedWith status handshake, true)
    | (s, .error _) => (s.handleNetworkFailure, false)

/-! ## The turns -/

/-- A connection is made, and the device greets. -/
def connected (handshake : Handshake) : EtherDreamSession :=
  { s with isOpen := true, stream := greet handshake.greeting.toList }.modify
    (fun c => { c.resetProtocolStateForConnection with connectionActive := true }) |>.record
    [.connected]

/-- A pass of the worker's loop. -/
def iterate (iteration : Iteration) : EtherDreamSession :=
  match s.controller.playbackAction with
  | .stop => s.sendStop D false iteration.exchange
  | .clear => s.sendClear D iteration.exchange
  | .prepare => s.sendPrepare D iteration.exchange
  | .start => s.sendBegin D iteration.exchange
  | .none =>
    let s := s.modify .syncPointRate
    if s.controller.playbackAction ≠ .none then s
    else if !s.controller.canSendData then s.pollStatus D iteration.exchange
    else
      let (request, estimate) := s.controller.getFillRequest D iteration.clock
      if s.controller.shouldRequestPoints D request estimate then
        match iteration.points with
        | some pointCount => s.sendPoints D pointCount iteration.exchange
        | none => s
      else s

def sendOrderlyStopBeforeClose (exchange : Exchange) : EtherDreamSession :=
  if !s.controller.connectionActive || !s.isOpen then s
  else if s.controller.lastKnownStatus.lightEngineState ≠ .ready then s
  else if s.controller.lastKnownStatus.playbackState = .idle then s
  else s.sendStop D true exchange

/-- The step function. The worker leaves its loop when the connection is no longer active, or when
it is told to stop. -/
def step (s : EtherDreamSession) : EtherDreamTurn → Option (EtherDreamSession × List Empty)
  | .connect handshake =>
    if s.inLoop then none
    else
      match (s.connected handshake).performHandshake D handshake with
      | (s, true) => some ({ s with inLoop := true }, [])
      | (s, false) => some ({ s.close with inLoop := false }, [])
  | .iterate iteration =>
    if s.inLoop && s.controller.connectionActive then some (s.iterate D iteration, []) else none
  | .leave exchange =>
    if s.inLoop then
      some ({ (s.sendOrderlyStopBeforeClose D exchange).close with inLoop := false }, [])
    else none
  | .setPointRate pointRateValue => some (s.modify (·.setPointRate pointRateValue), [])
  | .setTargetLatency targetLatency =>
    some (s.modify fun c => { c with targetLatency := targetLatency }, [])

end Responses

/-- A worker that has not yet connected. -/
def start (controllerInfo : EtherDreamControllerInfo) (pointRate : ℕ) (targetLatency : ℤ) :
    EtherDreamSession where
  controller :=
    { controllerInfo := controllerInfo, pointRate := pointRate, targetLatency := targetLatency }

/-! ## A device -/

/-- An Ether Dream that has no version to tell. -/
def plainInfo : EtherDreamControllerInfo where
  bufferSizeValue := 1800
  maxPointRate := 100000
  hardwareRevision := 0
  softwareRevision := 0

/-- An acknowledgement of a device that is ready, with its playback state, the high byte of its
fullness, and the third byte of its point rate. -/
def acknowledgement (command : EtherDreamCommand) (playback fullness rate : UInt8) : RawResponse :=
  #v['a'.toUInt8, command.opcode, 0, 0, playback, 0, 0, 0, 0, 0, 0, 0, 0, fullness, 0, 0, rate, 0,
    0, 0, 0, 0]

/-- The acknowledgement of a device with an empty buffer. -/
def statusResponse (command : EtherDreamCommand) (playback : UInt8) : RawResponse :=
  acknowledgement command playback 0 0

/-- A handshake in which everything comes in time. -/
def greetedIdle : Handshake where
  greeting := statusResponse .ping 0
  ping := { reply := statusResponse .ping 0 }
  version := { reply := Vector.replicate 32 0 }

end EtherDreamSession

end LiberaLaser
