import LiberaLaser.Core.Controller.Model
import LiberaLaser.Foundations.Acts
import LiberaLaser.Foundations.ByteString

/-!
# A session of the Libera protocol

A controller of the Libera protocol is the sender of a TCP session. It greets the receiver, waits to
be accepted, says that it is ready, and then streams frames or raw points, with pings in between. A
pass of its worker reconnects if it has to, reads what has arrived, pings, and sends one frame or
one batch of points.

The codec of the protocol is not in the repository: messages stay data here, and what is decoded is
a parameter. The settings of the scanner sync, the clock, the points and what the socket answers
come from outside. Logs, error records, sleeps, the time limits of the socket and the buffer state
for the user interface are left out.
-/

namespace LiberaLaser.LiberaProtocol

open FloatArith

/-! ## Messages -/

inductive StreamMode
  | rawPointStream
  | frameByCount
  | other (value : UInt16)
  deriving DecidableEq

inductive RecordType
  | accept
  | pong
  | close
  | other (value : UInt16)
  deriving DecidableEq

structure RecordHeader where
  type : RecordType
  payloadSize : UInt32

structure Record where
  type : RecordType
  payload : ByteString
  deriving DecidableEq

structure Accept where
  acceptedStreamMode : StreamMode
  acceptedUserChannelCount : UInt8
  defaultPointRate : UInt32
  maxPointRate : UInt32
  maxFramePointCount : UInt32
  maxRecordPayloadSize : UInt32
  sessionId : UInt64
  featureFlags : UInt32
  deriving DecidableEq

/-- What the codec decodes, the size of a sample, and `FeatureScannerSync`. -/
structure Codec where
  decodeRecordHeader : ByteString → Option RecordHeader
  decodeAccept : ByteString → Option Accept
  pointSampleSize : UInt8 → ℕ
  featureScannerSync : UInt32

structure Hello where
  senderName : String := "Libera"
  requestedStreamMode : StreamMode
  requestedUserChannelCount : UInt8
  defaultPointRate : UInt32
  deriving DecidableEq

structure StreamConfig where
  defaultPointRate : UInt32
  streamMode : StreamMode
  userChannelCount : UInt8
  deriving DecidableEq

structure ScannerSync where
  offsetNs : ℤ := 0
  enabled : Bool := false
  deriving DecidableEq

structure FrameMarker where
  frameId : UInt64
  pointRate : UInt32
  framePointCount : UInt32
  targetBeginTimeNs : ℕ
  deriving DecidableEq

structure PointSample where
  x : Int16
  y : Int16
  r : UInt16
  g : UInt16
  b : UInt16
  i : UInt16
  user : List UInt16
  deriving DecidableEq

/-- A message of the sender. Its encoding is never empty. -/
inductive Message
  | hello (hello : Hello)
  | ready
  | streamConfig (config : StreamConfig)
  | scannerSync (scannerSync : ScannerSync)
  | frameMarker (marker : FrameMarker)
  | points (samples : List PointSample)
  | ping (timestamp : TimePoint)
  deriving DecidableEq

/-- What happens on the connection, and what the controller asks of its content and its settings. -/
inductive SessionEvent
  | connected
  | sent (message : Message)
  | sendFailed (message : Message)
  | received (record : Record)
  | readScannerSync (scannerSync : ScannerSync)
  | requestedFrame (request : FrameFillRequest) (suppressed : Bool)
  | requestedPoints (request : PointFillRequest) (suppressed : Bool)
  | closed
  deriving DecidableEq

/-! ## Points -/

section Encode

variable {F : Type} [FloatArith F]

def encodeSignedCoord (value : F) : Int16 :=
  let clamped := clamp value (-1.0) 1.0
  if le clamped (-1.0) then Int16.minValue else Int16.ofInt (llround (clamped * 32767.0))

def encodeChannel (value : F) : UInt16 := UInt16.ofInt (llround (clamp value 0.0 1.0 * 65535.0))

/-- The user channels of a sample: the first two are those of the point, and more are zero. -/
def encodeUser (point : LaserPoint F) (userChannelCount : UInt8) : List UInt16 :=
  (List.range userChannelCount.toNat).map fun channel =>
    if channel = 0 then encodeChannel point.u1
    else if channel = 1 then encodeChannel point.u2
    else 0

def encodePoint (userChannelCount : UInt8) (point : LaserPoint F) : PointSample where
  x := encodeSignedCoord point.x
  y := encodeSignedCoord point.y
  r := encodeChannel point.r
  g := encodeChannel point.g
  b := encodeChannel point.b
  i := encodeChannel point.i
  user := encodeUser point userChannelCount

/-- `encodePoints`, of the points of a range. -/
def encodePoints (points : List (LaserPoint F)) (userChannelCount : UInt8) : List PointSample :=
  points.map (encodePoint userChannelCount)

end Encode

/-! ## The controller -/

def defaultPointRate : UInt32 := 30000

def defaultMaxPointRate : UInt32 := 100000

def defaultMaxFramePoints : UInt32 := 300000

def defaultMaxRecordPayloadBytes : UInt32 := 4 * 1024 * 1024

def rawPointBatchSize : ℕ := 4096

def maxLaserPointUserChannels : UInt8 := 2

def heartbeatInterval : Duration := 500000000

def heartbeatTimeout : Duration := 2000000000

def boundedOrDefault (value fallback : UInt32) : UInt32 := if value = 0 then fallback else value

/-- `std::clamp` of a rate from one to a limit that is not zero. -/
def clampRate (rate limit : UInt32) : UInt32 := max 1 (min rate limit)

/-- In ticks. -/
def pointPlaybackDuration (D : Type) [FloatArith D] (pointCount : ℕ) (pointRate : UInt32) :
    Duration :=
  if pointCount = 0 ∨ pointRate = 0 then 0
  else trunc (ofNat pointCount / ofNat pointRate.toNat * 1000000000.0 : D)

/-- What the controller uses of its discovered info. -/
structure LiberaProtocolControllerInfo where
  supportsFrameByCount : Bool
  maxUserChannelCount : UInt8
  maxPointRate : UInt32
  maxFramePointCount : UInt32

structure NegotiatedSession where
  streamMode : StreamMode := .rawPointStream
  userChannelCount : UInt8 := 0
  pointRate : UInt32 := 30000
  maxPointRate : UInt32 := 100000
  maxFramePointCount : UInt32 := 300000
  maxRecordPayloadSize : UInt32 := defaultMaxRecordPayloadBytes
  sessionId : UInt64 := 0
  featureFlags : UInt32 := 0
  sessionStartedAt : TimePoint := 0

/-- The TCP client: there is none, or its socket is closed, open to a peer that is gone, or open. -/
inductive Socket
  | none
  | closed
  | gone
  | open
  deriving DecidableEq

structure LiberaProtocolController where
  socket : Socket := .none
  session : NegotiatedSession := {}
  networkConnected : Bool := false
  latestInfo : Option LiberaProtocolControllerInfo := none
  nextFrameId : UInt64 := 1
  currentPointIndex : ℕ := 0
  nextSendAt : TimePoint := 0
  nextHeartbeatAt : TimePoint := 0
  lastPongAt : TimePoint := 0
  heartbeatSent : Bool := false
  scannerSyncSent : Bool := false
  lastScannerSync : ScannerSync := {}
  scannerSyncPostProcessSuppressed : Bool := false
  pointRate : UInt32 := 30000
  running : Bool := false

/-! ## What the worker reads -/

/-- The answer to a write. -/
inductive WriteAnswer
  | gone
  | failed
  | ok

/-- The answer to the reads of a record: the bytes of its header and of its payload. -/
inductive ReadAnswer
  | gone
  | bytes (header payload : Option ByteString)

/-- The settings of the scanner sync, and the answer to the message about them. -/
structure SyncAnswers (D : Type) where
  scannerSync : D
  enabled : Bool
  write : WriteAnswer

structure HandshakeAnswers (D : Type) where
  hello : WriteAnswer
  reply : ReadAnswer
  startedAt : TimePoint
  ready : WriteAnswer
  config : WriteAnswer
  sync : SyncAnswers D

structure ConnectAnswers (D : Type) where
  connects : Bool
  handshake : HandshakeAnswers D
  heartbeatAt : TimePoint
  pongAt : TimePoint

/-- Something that has arrived: the check of the socket fails, or there is a record. -/
inductive Arrival
  | checkFailed
  | record (read : ReadAnswer) (now : TimePoint)

structure HeartbeatAnswers where
  connected : Bool
  arrivals : List Arrival
  now : TimePoint
  ping : WriteAnswer

/-- What is read to send a frame or a batch. -/
structure ContentAnswers (D F : Type) where
  sync : SyncAnswers D
  now : TimePoint
  frame : FrameFillRequest → Option (Frame F)
  batch : Option (List (LaserPoint F))
  marker : WriteAnswer
  points : ℕ → WriteAnswer
  sentAt : TimePoint

structure PassAnswers (D F : Type) where
  connected : Bool
  reconnect : ConnectAnswers D
  heartbeat : HeartbeatAnswers
  now : TimePoint
  content : ContentAnswers D F

/-- A step of the worker or of the application. -/
inductive SessionTurn (D F : Type)
  | connect (info : LiberaProtocolControllerInfo) (answers : ConnectAnswers D)
  | startThread
  | pass (answers : PassAnswers D F)
  | stopThread
  | close
  | updateDiscoveredInfo (info : LiberaProtocolControllerInfo)
  | setPointRate (pointRate : UInt32)

/-! ## The connection -/

/-- A part of what the controller does. -/
abbrev SessionAct := Act LiberaProtocolController SessionEvent

/-- The event of a socket that is closed. -/
def Socket.closeEvents : Socket → List SessionEvent
  | .none | .closed => []
  | .gone | .open => [.closed]

namespace LiberaProtocolController

variable (c : LiberaProtocolController)

/-- The session is forgotten. -/
def disconnected (socket : Socket) : LiberaProtocolController :=
  { c with
    socket := socket
    networkConnected := false
    scannerSyncSent := false
    nextHeartbeatAt := 0
    lastPongAt := 0
    heartbeatSent := false
    scannerSyncPostProcessSuppressed := false }

def receiverHandlesScannerSync (codec : Codec) : Bool :=
  c.session.featureFlags &&& codec.featureScannerSync ≠ 0

end LiberaProtocolController

def close : SessionAct := fun c => (c.disconnected .none, c.socket.closeEvents, true)

def markDisconnected : SessionAct := fun c =>
  (c.disconnected (if c.socket = .none then .none else .closed), c.socket.closeEvents, false)

/-- `is_connected`, which from some time on is false where the peer is gone. -/
def checkConnected (answer : Bool) : SessionAct := fun c =>
  if c.socket = .open then
    if answer then (c, [], true) else ({ c with socket := .gone }, [], false)
  else (c, [], false)

def requireConnected : SessionAct := fun c => (c, [], c.networkConnected)

def writeMessage (message : Message) : WriteAnswer → SessionAct
  | .gone => checkConnected false
  | .failed =>
    (checkConnected true).andThen ((Act.emit fun _ => .sendFailed message).andThen markDisconnected)
  | .ok => (checkConnected true).andThen (Act.emit fun _ => .sent message)

/-- The record that the bytes make. -/
def LiberaProtocolController.record (c : LiberaProtocolController) (codec : Codec)
    (header payload : Option ByteString) : Option Record := do
  let headerBytes ← header
  let header ← codec.decodeRecordHeader headerBytes
  if c.session.maxRecordPayloadSize < header.payloadSize then none
  else if header.payloadSize = 0 then some ⟨header.type, []⟩
  else
    let payload ← payload
    if payload.length = header.payloadSize.toNat then some ⟨header.type, payload⟩ else none

/-- `readRecord`, and what is done with the record or where there is none. -/
def readRecord (codec : Codec) (handle : Record → SessionAct) (failed : SessionAct) :
    ReadAnswer → SessionAct
  | .gone => fun c => failed (checkConnected false c).1
  | .bytes header payload => fun c =>
    if c.socket ≠ .open then failed c
    else
      match c.record codec header payload with
      | none => failed c
      | some record => ((Act.emit fun _ => .received record).andThen (handle record)) c

/-! ## The scanner sync -/

section Sync

variable {D : Type} [FloatArith D] (codec : Codec)

def currentScannerSyncOffsetNs (offsetUnits : D) : ℤ :=
  if !isFinite offsetUnits || le offsetUnits 0.0 then 0
  else
    let maxUnits : D := ofNat (2 ^ 63 - 1) / 100000.0
    let clampedUnits := if lt maxUnits offsetUnits then maxUnits else offsetUnits
    llround (clampedUnits * 100000.0)

/-- The settings of the scanner sync. -/
def SyncAnswers.current (answers : SyncAnswers D) : ScannerSync :=
  ⟨currentScannerSyncOffsetNs answers.scannerSync, answers.enabled⟩

/-- The message about the settings, where they are not those of the last one. -/
def sendScannerSync (answers : SyncAnswers D) : SessionAct := fun c =>
  if c.scannerSyncSent = true ∧ answers.current = c.lastScannerSync then (c, [], true)
  else
    ((writeMessage (.scannerSync answers.current) answers.write).andThen (Act.modify fun c =>
      { c with scannerSyncSent := true, lastScannerSync := answers.current })) c

def syncScannerSyncIfNeeded (answers : SyncAnswers D) : SessionAct := fun c =>
  if c.receiverHandlesScannerSync codec then
    ((Act.emit fun _ => .readScannerSync answers.current).andThen (sendScannerSync answers)) c
  else ({ c with scannerSyncSent := false, scannerSyncPostProcessSuppressed := false }, [], true)

/-! ## The handshake -/

def LiberaProtocolController.makeHello (c : LiberaProtocolController)
    (info : LiberaProtocolControllerInfo) : Hello where
  requestedStreamMode := if info.supportsFrameByCount then .frameByCount else .rawPointStream
  requestedUserChannelCount := min maxLaserPointUserChannels info.maxUserChannelCount
  defaultPointRate := clampRate (boundedOrDefault c.pointRate defaultPointRate)
    (boundedOrDefault info.maxPointRate defaultMaxPointRate)

/-- The session that was accepted. -/
def Accept.session (accept : Accept) (info : LiberaProtocolControllerInfo) (hello : Hello)
    (now : TimePoint) : NegotiatedSession where
  streamMode := accept.acceptedStreamMode
  userChannelCount := accept.acceptedUserChannelCount
  pointRate := boundedOrDefault accept.defaultPointRate hello.defaultPointRate
  maxPointRate := boundedOrDefault accept.maxPointRate
    (boundedOrDefault info.maxPointRate defaultMaxPointRate)
  maxFramePointCount := boundedOrDefault accept.maxFramePointCount
    (boundedOrDefault info.maxFramePointCount defaultMaxFramePoints)
  maxRecordPayloadSize := boundedOrDefault accept.maxRecordPayloadSize defaultMaxRecordPayloadBytes
  sessionId := accept.sessionId
  featureFlags := accept.featureFlags
  sessionStartedAt := now

/-- The state after the receiver has accepted. -/
def LiberaProtocolController.accepted (c : LiberaProtocolController)
    (session : NegotiatedSession) : LiberaProtocolController :=
  { c with
    session := session
    scannerSyncSent := false
    nextHeartbeatAt := 0
    lastPongAt := 0
    heartbeatSent := false
    pointRate := clampRate session.pointRate session.maxPointRate }

/-- The answer to the greeting. -/
def receiveAccept (info : LiberaProtocolControllerInfo) (hello : Hello) (startedAt : TimePoint) :
    ReadAnswer → SessionAct :=
  readRecord codec (fun record =>
    if record.type = .accept then
      match codec.decodeAccept record.payload with
      | none => Act.stop id
      | some accept => Act.modify (·.accepted (accept.session info hello startedAt))
    else Act.stop id) (Act.stop id)

def sendStreamConfig (answer : WriteAnswer) : SessionAct := fun c =>
  writeMessage (.streamConfig
    { defaultPointRate := c.pointRate
      streamMode := c.session.streamMode
      userChannelCount := c.session.userChannelCount }) answer c

def performHandshake (info : LiberaProtocolControllerInfo) (answers : HandshakeAnswers D) :
    SessionAct := fun c =>
  ((writeMessage (.hello (c.makeHello info)) answers.hello).andThen
    ((receiveAccept codec info (c.makeHello info) answers.startedAt answers.reply).andThen
      ((writeMessage .ready answers.ready).andThen
        ((sendStreamConfig answers.config).andThen
          (syncScannerSyncIfNeeded codec answers.sync))))) c

/-- A new client takes the place of the old one, and connects or not. -/
def openSocket (connects : Bool) : SessionAct := fun c =>
  if connects then ({ c with socket := .open }, c.socket.closeEvents ++ [.connected], true)
  else ({ c with socket := .closed }, c.socket.closeEvents, false)

/-- The state at the start of the stream. -/
def LiberaProtocolController.started (c : LiberaProtocolController)
    (heartbeatAt pongAt : TimePoint) : LiberaProtocolController :=
  { c with
    networkConnected := true
    nextFrameId := 1
    currentPointIndex := 0
    nextSendAt := 0
    nextHeartbeatAt := heartbeatAt
    lastPongAt := pongAt
    heartbeatSent := false }

def connectToInfo (info : LiberaProtocolControllerInfo) (answers : ConnectAnswers D) : SessionAct :=
  (openSocket answers.connects).andThen
    (((performHandshake codec info answers.handshake).andThen
      (Act.modify (·.started answers.heartbeatAt answers.pongAt))).orElse close)

def updateDiscoveredInfo (info : LiberaProtocolControllerInfo) : SessionAct :=
  Act.modify fun c => { c with latestInfo := some info }

def connect (info : LiberaProtocolControllerInfo) (answers : ConnectAnswers D) : SessionAct :=
  (updateDiscoveredInfo info).andThen (connectToInfo codec info answers)

def reconnectToLatestInfo (answers : ConnectAnswers D) : SessionAct := fun c =>
  match c.latestInfo with
  | none => (c, [], false)
  | some info => connectToInfo codec info answers c

end Sync

/-! ## The heartbeat -/

section Heartbeat

variable (codec : Codec)

/-- A pass of the loop over what has arrived. -/
def receiveInbound : Arrival → SessionAct
  | .checkFailed => markDisconnected
  | .record read now =>
    readRecord codec (fun record =>
      if record.type = .pong ∧ record.payload.length = 8 then
        Act.modify fun c => { c with lastPongAt := now }
      else if record.type = .close then markDisconnected
      else Act.modify id) markDisconnected read

def drainInboundRecords (connected : Bool) (arrivals : List Arrival) : SessionAct :=
  (checkConnected connected).andThen
    ((Act.forEach (fun arrival => requireConnected.andThen (receiveInbound codec arrival))
      arrivals).andThen requireConnected)

/-- The session ends where a ping was sent and the last pong is too old. -/
def checkPong (now : TimePoint) : SessionAct := fun c =>
  if c.heartbeatSent = true ∧ c.lastPongAt ≠ 0 ∧ heartbeatTimeout ≤ now - c.lastPongAt then
    markDisconnected c
  else (c, [], true)

def sendPing (now : TimePoint) (answer : WriteAnswer) : SessionAct := fun c =>
  if c.nextHeartbeatAt ≠ 0 ∧ now < c.nextHeartbeatAt then (c, [], true)
  else
    ((writeMessage (.ping now) answer).andThen (Act.modify fun c =>
      { c with heartbeatSent := true, nextHeartbeatAt := now + heartbeatInterval })) c

def serviceHeartbeat (answers : HeartbeatAnswers) : SessionAct :=
  requireConnected.andThen ((drainInboundRecords codec answers.connected answers.arrivals).andThen
    ((checkPong answers.now).andThen (sendPing answers.now answers.ping)))

end Heartbeat

/-! ## Frames and points -/

section Content

variable {D : Type} [FloatArith D] {F : Type} [FloatArith F] (codec : Codec)

/-- The points of a record. -/
def LiberaProtocolController.pointsPerRecord (c : LiberaProtocolController) : ℕ :=
  max 1 (c.session.maxRecordPayloadSize.toNat /
    max (codec.pointSampleSize c.session.userChannelCount) 1)

/-- The passes of the loop of `sendPointsChunked`, of which there are no more than points. -/
def sendChunks (answers : ℕ → WriteAnswer) : ℕ → List (LaserPoint F) → SessionAct
  | 0, _ => Act.modify id
  | _ + 1, [] => Act.modify id
  | passes + 1, points => fun c =>
    ((writeMessage (.points (encodePoints (points.take (c.pointsPerRecord codec))
        c.session.userChannelCount)) (answers passes)).andThen
      (sendChunks answers passes (points.drop (c.pointsPerRecord codec)))) c

def sendPointsChunked (points : List (LaserPoint F)) (answers : ℕ → WriteAnswer) : SessionAct :=
  sendChunks codec answers points.length points

/-- The content that was sent. -/
def LiberaProtocolController.noteSent (c : LiberaProtocolController) (D : Type) [FloatArith D]
    (pointCount : ℕ) (sentAt : TimePoint) : LiberaProtocolController :=
  { c with
    nextSendAt := sentAt + pointPlaybackDuration D pointCount c.pointRate
    currentPointIndex := (c.currentPointIndex + pointCount) % 2 ^ 64 }

def LiberaProtocolController.frameFillRequest (c : LiberaProtocolController) (now : TimePoint) :
    FrameFillRequest where
  maximumPointsRequired := max 1 c.session.maxFramePointCount.toNat
  preferredPointCount := max 1 c.session.maxFramePointCount.toNat
  blankFramePointCount := min (max 1 c.session.maxFramePointCount.toNat) rawPointBatchSize
  estimatedFirstPointRenderTime := now
  currentPointIndex := c.currentPointIndex
  advanceWhenAvailable := true

def LiberaProtocolController.pointFillRequest (c : LiberaProtocolController) (now : TimePoint) :
    PointFillRequest where
  minimumPointsRequired := rawPointBatchSize
  maximumPointsRequired := rawPointBatchSize
  estimatedFirstPointRenderTime := now
  currentPointIndex := c.currentPointIndex

def LiberaProtocolController.frameMarker (c : LiberaProtocolController) (frame : Frame F) :
    FrameMarker where
  frameId := c.nextFrameId
  pointRate := c.pointRate
  framePointCount := UInt32.ofNat (min frame.points.length (2 ^ 32 - 1))
  targetBeginTimeNs :=
    if frame.time ≠ 0 ∧ c.session.sessionStartedAt < frame.time then
      (frame.time - c.session.sessionStartedAt).toNat
    else 0

/-- A request is made with the scanner sync left to the receiver, where it handles it. -/
def requestContent (event : LiberaProtocolController → Bool → SessionEvent) : SessionAct := fun c =>
  if c.receiverHandlesScannerSync codec then
    ({ c with scannerSyncPostProcessSuppressed := false }, [event c true], true)
  else (c, [event c c.scannerSyncPostProcessSuppressed], true)

/-- A frame goes out behind its marker. -/
def sendFrame (D : Type) [FloatArith D] (frame : Frame F) (marker : WriteAnswer)
    (points : ℕ → WriteAnswer) (sentAt : TimePoint) : SessionAct := fun c =>
  ((Act.modify fun c => { c with nextFrameId := c.nextFrameId + 1 }).andThen
    ((writeMessage (.frameMarker (c.frameMarker frame)) marker).andThen
      ((sendPointsChunked codec frame.points points).andThen
        (Act.modify (·.noteSent D frame.points.length sentAt))))) c

/-- The frame that is requested, if there is one with points, is sent. -/
def requestFrame (answers : ContentAnswers D F) : SessionAct := fun c =>
  (requestContent codec fun c suppressed =>
    .requestedFrame (c.frameFillRequest answers.now) suppressed).andThen
      (match answers.frame (c.frameFillRequest answers.now) with
      | some frame =>
        if frame.points = [] then Act.stop id
        else sendFrame codec D frame answers.marker answers.points answers.sentAt
      | none => Act.stop id) c

def sendFrameRecord (answers : ContentAnswers D F) : SessionAct :=
  requireConnected.andThen ((syncScannerSyncIfNeeded codec answers.sync).andThen
    (requestFrame codec answers))

/-- The batch that is requested, if there is one with points, is sent. -/
def requestPoints (answers : ContentAnswers D F) : SessionAct :=
  (requestContent codec fun c suppressed =>
    .requestedPoints (c.pointFillRequest answers.now) suppressed).andThen
      (match answers.batch with
      | some (point :: points) =>
        (sendPointsChunked codec (point :: points) answers.points).andThen
          (Act.modify (·.noteSent D (point :: points).length answers.sentAt))
      | some [] | none => Act.stop id)

def sendRawPointsRecord (answers : ContentAnswers D F) : SessionAct :=
  (syncScannerSyncIfNeeded codec answers.sync).andThen (requestPoints codec answers)

/-! ## The worker and the application -/

/-- The worker connects again where it has to. -/
def ensureConnected (connected : Bool) (answers : ConnectAnswers D) : SessionAct := fun c =>
  if c.networkConnected then
    if (checkConnected connected c).2.2 then (c, [], true)
    else reconnectToLatestInfo codec answers (checkConnected connected c).1
  else reconnectToLatestInfo codec answers c

/-- It is not yet time to send. -/
def awaitSend (now : TimePoint) : SessionAct := fun c =>
  (c, [], !decide (c.nextSendAt ≠ 0 ∧ now < c.nextSendAt))

def sendContent (answers : ContentAnswers D F) : SessionAct := fun c =>
  if c.session.streamMode = .frameByCount then sendFrameRecord codec answers c
  else sendRawPointsRecord codec answers c

/-- A pass of the loop of `run`. -/
def pass (answers : PassAnswers D F) : SessionAct :=
  (ensureConnected codec answers.connected answers.reconnect).andThen
    ((serviceHeartbeat codec answers.heartbeat).andThen
      ((awaitSend answers.now).andThen (sendContent codec answers.content)))

def setPointRate (pointRate : UInt32) : SessionAct := Act.modify fun c =>
  let maxRate :=
    if 0 < c.session.maxPointRate then c.session.maxPointRate else defaultMaxPointRate
  { c with pointRate := clampRate pointRate maxRate }

/-- What a step does. -/
def SessionTurn.act : SessionTurn D F → SessionAct
  | .connect info answers => LiberaProtocol.connect codec info answers
  | .startThread => Act.modify fun c => { c with running := true }
  | .pass answers => LiberaProtocol.pass codec answers
  | .stopThread => Act.modify fun c => { c with running := false }
  | .close => LiberaProtocol.close
  | .updateDiscoveredInfo info => LiberaProtocol.updateDiscoveredInfo info
  | .setPointRate pointRate => LiberaProtocol.setPointRate pointRate

/-- The worker runs where it was started; and connections are made and closed where it does not. -/
def SessionTurn.enabled (running : Bool) : SessionTurn D F → Bool
  | .pass _ | .stopThread => running
  | .connect _ _ | .startThread | .close => !running
  | .updateDiscoveredInfo _ | .setPointRate _ => true

def step (c : LiberaProtocolController) (turn : SessionTurn D F) :
    Option (LiberaProtocolController × List SessionEvent) :=
  if turn.enabled c.running then some ((turn.act codec c).1, (turn.act codec c).2.1) else none

end Content

end LiberaLaser.LiberaProtocol
