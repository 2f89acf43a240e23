import LiberaLaser.Backends.LightSpaceNet.Receive
import LiberaLaser.Foundations.Traces

/-!
# Control commands and their acknowledgements

A call of `sendControlCommand` sends its packet up to three times and polls the incoming packets
after each. The link keeps the order in both directions and delays at will; the device acknowledges
every control packet it receives, and the acknowledgement names the command and nothing else.
The number of the call that sent a packet is a history variable: no step of the program reads it.
-/

namespace LiberaLaser

namespace LightSpaceNetConfig

def COMMAND_ACK_ATTEMPTS : ℕ := 3

end LightSpaceNetConfig

open LightSpaceNetConfig

inductive CommandAckMode
  | Probe
  | Supported
  | Silent
  deriving DecidableEq

inductive ControlCommandResult
  | Failed
  | Acknowledged
  | SentWithoutAck
  deriving DecidableEq

/-- A control packet on its way to the device. -/
structure ControlPacket where
  commandWord : UInt8
  call : ℕ
  deriving DecidableEq

/-- A packet on its way to the controller, with the call whose packet it answers, if any. -/
structure IncomingPacket where
  packet : LightSpaceNetPacket
  answers : Option ℕ
  deriving DecidableEq

/-- A call of `sendReliableCommand` that waits for its acknowledgement. -/
structure ReliableCall where
  commandWord : UInt8
  attempt : ℕ
  call : ℕ
  deriving DecidableEq

/-- The controller, and the packets on the link in both directions, the oldest in front. -/
structure ControlLink where
  commandAckMode : CommandAckMode := .Probe
  networkConnected : Bool := true
  waiting : Option ReliableCall := none
  outbound : List ControlPacket := []
  inbound : List IncomingPacket := []
  calls : ℕ := 0
  deriving DecidableEq

/-- What can happen next: a call begins; a poll takes some packets in; a wait ends without an
acknowledgement, because its deadline passed or because receiving failed; between calls, a poll
discards what it takes in, or the connection is made anew; the device receives a packet, or sends
something else. Where a packet is sent, the step says whether sending succeeds. -/
inductive ControlStep
  | sendControlCommand (commandWord : UInt8) (sent : Bool)
  | poll (packets : ℕ)
  | waitOver (receiveFailed sent : Bool)
  | pollIncomingPackets (packets : ℕ)
  | connectToStatus
  | deviceReceives (prefixByte : UInt8)
  | deviceHeartbeat (payload : List UInt8)
  deriving DecidableEq

/-- What is observed: the device receives a packet of a call; a call returns, with what its
acknowledgement answers, if it has one. -/
inductive ControlEvent
  | received (call : ℕ) (commandWord : UInt8)
  | returned (call : ℕ) (commandWord : UInt8) (result : ControlCommandResult)
      (answers : Option ℕ)
  deriving DecidableEq

/-- The acknowledgement of a command. Its first payload byte is left open by the protocol. -/
def commandAck (prefixByte commandWord : UInt8) : LightSpaceNetPacket where
  version := PROTOCOL_VERSION
  packetType := PACKET_TYPE_COMMAND
  commandWord := CMD_COMMAND_ACK
  payload := [prefixByte, commandWord]

def heartbeatResponse (payload : List UInt8) : LightSpaceNetPacket where
  version := PROTOCOL_VERSION
  packetType := PACKET_TYPE_BASIC
  commandWord := CMD_HEARTBEAT_RESPONSE
  payload := payload

/-- Handle up to a number of packets, and stop behind the awaited acknowledgement. -/
def takeIncoming (expectedAckCommand : UInt8) :
    ℕ → List IncomingPacket → Option IncomingPacket × List IncomingPacket
  | 0, inbound => (none, inbound)
  | _ + 1, [] => (none, [])
  | packets + 1, incoming :: inbound =>
    if (handleParsedIncomingPacket incoming.packet expectedAckCommand).2 then
      (some incoming, inbound)
    else takeIncoming expectedAckCommand packets inbound

/-! ## Polls and drains -/

/-- The bytes of a packet. -/
def packetBytes (packet : LightSpaceNetPacket) : List UInt8 :=
  buildPacket packet.packetType packet.commandWord packet.payload

/-- The bytes of the packets on their way in. -/
def inboundBytes (inbound : List IncomingPacket) : List UInt8 :=
  inbound.flatMap fun incoming => packetBytes incoming.packet

theorem inboundBytes_cons (incoming : IncomingPacket) (inbound : List IncomingPacket) :
    inboundBytes (incoming :: inbound) = packetBytes incoming.packet ++ inboundBytes inbound := rfl

/-- A packet that fits the format. -/
def Sendable (packet : LightSpaceNetPacket) : Prop :=
  packet.version = PROTOCOL_VERSION ∧ packet.payload.length + minimumPacketSize ≤ 0xFFFF

/-- A whole packet at the front of a buffer is taken off. -/
theorem next_packetBytes {packet : LightSpaceNetPacket} (h : Sendable packet)
    (rest : List UInt8) :
    packetDecoder.next (packetBytes packet ++ rest) = some (.packet packet, rest) := by
  have hparse : parsePacket (packetBytes packet) = some packet :=
    parsePacket_eq_some_iff.mpr ⟨h.1, h.2, rfl⟩
  have hheader : protocolHeader <+: packetBytes packet := by
    rw [packetBytes, buildPacket_eq h.2]
    simp only [appendBe16, LightSpaceNetPacket.layout, List.append_assoc]
    exact List.prefix_append _ _
  exact packetDecoder.stable (next_packet hparse (Framing.search_of_prefix hheader)) rest

/-- **A poll is a drain of whole packets**: on the bytes of the packets, the loop of
`drainTcpPacketBuffer` stops at the packet that `takeIncoming` stops at, and leaves the bytes of
those that it leaves. -/
theorem drain_inboundBytes (expectedAckCommand : UInt8) (inbound : List IncomingPacket)
    (hsend : ∀ m ∈ inbound, Sendable m.packet) {budget : ℕ} (hbudget : inbound.length < budget)
    (events : List TcpEvent) :
    ∃ result, Loop.run (fun s => some (drainPass expectedAckCommand s)) budget
        (inboundBytes inbound, events) = some result ∧
      result.ackMatched = (takeIncoming expectedAckCommand inbound.length inbound).1.isSome ∧
      result.tcpReceiveBuffer =
        inboundBytes (takeIncoming expectedAckCommand inbound.length inbound).2 := by
  obtain ⟨n, rfl⟩ : ∃ n, budget = n + 1 := ⟨budget - 1, by omega⟩
  induction inbound generalizing n events with
  | nil =>
    exact ⟨{ handled := true, ackMatched := false, tcpReceiveBuffer := [], events := events },
      rfl, rfl, rfl⟩
  | cons m inbound ih =>
    have hnext := next_packetBytes (hsend m List.mem_cons_self) (inboundBytes inbound)
    rw [← inboundBytes_cons] at hnext
    have hcase := drainPass_cases expectedAckCommand (inboundBytes (m :: inbound)) events
    generalize hpass : drainPass expectedAckCommand (inboundBytes (m :: inbound), events) = pass
      at hcase
    cases hcase with
    | wait buffer' hwait halike =>
      rw [hwait] at hnext
      cases hnext
    | again event rest hnext' hother =>
      obtain ⟨rfl, rfl⟩ : event = .packet m.packet ∧ rest = inboundBytes inbound := by
        rw [hnext'] at hnext
        simpa using hnext
      have hskip : takeIncoming expectedAckCommand (m :: inbound).length (m :: inbound) =
          takeIncoming expectedAckCommand inbound.length inbound := by
        simp [takeIncoming, hother m.packet rfl]
      rw [List.length_cons] at hbudget
      obtain ⟨k, rfl⟩ : ∃ k, n = k + 1 := ⟨n - 1, by omega⟩
      obtain ⟨result, hrun, hspec⟩ := ih (fun m' hm' => hsend m' (List.mem_cons_of_mem _ hm'))
        (events ++ [.packet m.packet]) k (Nat.lt_of_succ_lt_succ hbudget)
      rw [hskip]
      refine ⟨result, ?_, hspec⟩
      rw [Loop.run, hpass]
      exact hrun
    | matched packet rest hnext' hmatch =>
      obtain ⟨rfl, rfl⟩ : packet = m.packet ∧ rest = inboundBytes inbound := by
        rw [hnext'] at hnext
        simpa using hnext
      have hstop : takeIncoming expectedAckCommand (m :: inbound).length (m :: inbound) =
          (some m, inbound) := by
        simp [takeIncoming, hmatch]
      rw [hstop, Loop.run, hpass]
      exact ⟨_, rfl, rfl, rfl⟩

namespace ControlLink

/-- A packet goes out, or the connection is given up. -/
def sendPacket (link : ControlLink) (packet : ControlPacket) (sent : Bool) : ControlLink :=
  if sent then { link with outbound := link.outbound ++ [packet] }
  else { link with networkConnected := false }

/-- `sendControlCommand` after `sendReliableCommand` has returned false. -/
def unacknowledged (link : ControlLink) (waiting : ReliableCall) :
    ControlLink × List ControlEvent :=
  if !link.networkConnected then
    ({ link with waiting := none },
      [.returned waiting.call waiting.commandWord .Failed none])
  else
    ({ link with waiting := none, commandAckMode := .Silent },
      [.returned waiting.call waiting.commandWord .SentWithoutAck none])

/-- One attempt of `sendReliableCommand`, up to its wait. -/
def beginAttempt (link : ControlLink) (waiting : ReliableCall) (sent : Bool) :
    ControlLink × List ControlEvent :=
  let link := link.sendPacket ⟨waiting.commandWord, waiting.call⟩ sent
  if sent then ({ link with waiting := some waiting }, []) else link.unacknowledged waiting

/-- The connection after a poll that may have failed to receive. -/
def afterPoll (link : ControlLink) (receiveFailed : Bool) : ControlLink :=
  if receiveFailed then { link with networkConnected := false } else link

/-- One step of the controller or of the device. -/
def step (link : ControlLink) : ControlStep → Option (ControlLink × List ControlEvent)
  | .sendControlCommand commandWord sent =>
    match link.waiting with
    | some _ => none
    | none =>
      let call := link.calls
      let link := { link with calls := call + 1 }
      match link.commandAckMode with
      | .Silent =>
        some (link.sendPacket ⟨commandWord, call⟩ sent,
          [.returned call commandWord (if sent then .SentWithoutAck else .Failed) none])
      | _ =>
        some (link.beginAttempt { commandWord := commandWord, attempt := 0, call := call } sent)
  | .poll packets =>
    match link.waiting with
    | none => none
    | some waiting =>
      let (matched, inbound) := takeIncoming waiting.commandWord packets link.inbound
      let link := { link with inbound := inbound }
      match matched with
      | none => some (link, [])
      | some incoming =>
        some ({ link with waiting := none, commandAckMode := .Supported },
          [.returned waiting.call waiting.commandWord .Acknowledged incoming.answers])
  | .waitOver receiveFailed sent =>
    match link.waiting with
    | none => none
    | some waiting =>
      let link := link.afterPoll receiveFailed
      if waiting.attempt + 1 < COMMAND_ACK_ATTEMPTS then
        some (link.beginAttempt { waiting with attempt := waiting.attempt + 1 } sent)
      else some (link.unacknowledged waiting)
  | .pollIncomingPackets packets =>
    match link.waiting with
    | some _ => none
    | none => some ({ link with inbound := (takeIncoming 0 packets link.inbound).2 }, [])
  | .connectToStatus =>
    match link.waiting with
    | some _ => none
    | none =>
      some ({ link with
        commandAckMode := .Probe, networkConnected := true, outbound := [], inbound := [] }, [])
  | .deviceReceives prefixByte =>
    match link.outbound with
    | [] => none
    | packet :: outbound =>
      some ({ link with
        outbound := outbound
        inbound := link.inbound ++ [⟨commandAck prefixByte packet.commandWord, some packet.call⟩] },
        [.received packet.call packet.commandWord])
  | .deviceHeartbeat payload =>
    some ({ link with inbound := link.inbound ++ [⟨heartbeatResponse payload, none⟩] }, [])

/-- The steps by case: what must hold before, the state after, and what is observed. -/
inductive StepCase (link : ControlLink) : ControlStep → ControlLink → List ControlEvent → Prop
  | silent (commandWord : UInt8) (sent : Bool) (hw : link.waiting = none)
      (hm : link.commandAckMode = .Silent) :
      StepCase link (.sendControlCommand commandWord sent)
        ({ link with calls := link.calls + 1 }.sendPacket ⟨commandWord, link.calls⟩ sent)
        [.returned link.calls commandWord (if sent then .SentWithoutAck else .Failed) none]
  | reliable (commandWord : UInt8) (sent : Bool) (hw : link.waiting = none)
      (hm : link.commandAckMode ≠ .Silent) :
      StepCase link (.sendControlCommand commandWord sent)
        ({ link with calls := link.calls + 1 }.beginAttempt
          { commandWord := commandWord, attempt := 0, call := link.calls } sent).1
        ({ link with calls := link.calls + 1 }.beginAttempt
          { commandWord := commandWord, attempt := 0, call := link.calls } sent).2
  | unmatched (packets : ℕ) (waiting : ReliableCall) (hw : link.waiting = some waiting)
      (inbound : List IncomingPacket)
      (htake : takeIncoming waiting.commandWord packets link.inbound = (none, inbound)) :
      StepCase link (.poll packets) { link with inbound := inbound } []
  | matched (packets : ℕ) (waiting : ReliableCall) (hw : link.waiting = some waiting)
      (incoming : IncomingPacket) (inbound : List IncomingPacket)
      (htake : takeIncoming waiting.commandWord packets link.inbound = (some incoming, inbound)) :
      StepCase link (.poll packets)
        { link with inbound := inbound, waiting := none, commandAckMode := .Supported }
        [.returned waiting.call waiting.commandWord .Acknowledged incoming.answers]
  | retry (receiveFailed sent : Bool) (waiting : ReliableCall) (hw : link.waiting = some waiting)
      (hlt : waiting.attempt + 1 < COMMAND_ACK_ATTEMPTS) :
      StepCase link (.waitOver receiveFailed sent)
        ((link.afterPoll receiveFailed).beginAttempt
          { waiting with attempt := waiting.attempt + 1 } sent).1
        ((link.afterPoll receiveFailed).beginAttempt
          { waiting with attempt := waiting.attempt + 1 } sent).2
  | giveUp (receiveFailed sent : Bool) (waiting : ReliableCall) (hw : link.waiting = some waiting) :
      StepCase link (.waitOver receiveFailed sent)
        ((link.afterPoll receiveFailed).unacknowledged waiting).1
        ((link.afterPoll receiveFailed).unacknowledged waiting).2
  | discard (packets : ℕ) (hw : link.waiting = none) :
      StepCase link (.pollIncomingPackets packets)
        { link with inbound := (takeIncoming 0 packets link.inbound).2 } []
  | connect (hw : link.waiting = none) :
      StepCase link .connectToStatus
        { link with
          commandAckMode := .Probe, networkConnected := true, outbound := [], inbound := [] } []
  | deviceReceives (prefixByte : UInt8) (packet : ControlPacket) (outbound : List ControlPacket)
      (ho : link.outbound = packet :: outbound) :
      StepCase link (.deviceReceives prefixByte)
        { link with
          outbound := outbound
          inbound :=
            link.inbound ++ [⟨commandAck prefixByte packet.commandWord, some packet.call⟩] }
        [.received packet.call packet.commandWord]
  | deviceHeartbeat (payload : List UInt8) :
      StepCase link (.deviceHeartbeat payload)
        { link with inbound := link.inbound ++ [⟨heartbeatResponse payload, none⟩] } []

theorem step_cases {link link' : ControlLink} {l : ControlStep} {o : List ControlEvent}
    (h : step link l = some (link', o)) : StepCase link l link' o := by
  cases l with
  | sendControlCommand commandWord sent =>
    cases hw : link.waiting with
    | some waiting => simp [step, hw] at h
    | none =>
      cases hm : link.commandAckMode with
      | Silent =>
        simp only [step, hw, hm, Option.some.injEq, Prod.mk.injEq] at h
        obtain ⟨rfl, rfl⟩ := h
        rw [← hm, ← hw]
        exact .silent commandWord sent hw hm
      | _ =>
        simp only [step, hw, hm, Option.some.injEq, Prod.ext_iff] at h
        obtain ⟨rfl, rfl⟩ := h
        rw [← hm, ← hw]
        exact .reliable commandWord sent hw (by simp [hm])
  | poll packets =>
    cases hw : link.waiting with
    | none => simp [step, hw] at h
    | some waiting =>
      rcases htake : takeIncoming waiting.commandWord packets link.inbound with
        ⟨_ | incoming, inbound⟩
      · simp only [step, hw, htake, Option.some.injEq, Prod.mk.injEq] at h
        obtain ⟨rfl, rfl⟩ := h
        rw [← hw]
        exact .unmatched packets waiting hw inbound htake
      · simp only [step, hw, htake, Option.some.injEq, Prod.mk.injEq] at h
        obtain ⟨rfl, rfl⟩ := h
        exact .matched packets waiting hw incoming inbound htake
  | waitOver receiveFailed sent =>
    cases hw : link.waiting with
    | none => simp [step, hw] at h
    | some waiting =>
      simp only [step, hw] at h
      split at h
      · rename_i hlt
        obtain ⟨rfl, rfl⟩ := Prod.ext_iff.mp (Option.some.inj h)
        exact .retry receiveFailed sent waiting hw hlt
      · obtain ⟨rfl, rfl⟩ := Prod.ext_iff.mp (Option.some.inj h)
        exact .giveUp receiveFailed sent waiting hw
  | pollIncomingPackets packets =>
    cases hw : link.waiting with
    | some waiting => simp [step, hw] at h
    | none =>
      simp only [step, hw, Option.some.injEq, Prod.mk.injEq] at h
      obtain ⟨rfl, rfl⟩ := h
      rw [← hw]
      exact .discard packets hw
  | connectToStatus =>
    cases hw : link.waiting with
    | some waiting => simp [step, hw] at h
    | none =>
      simp only [step, hw, Option.some.injEq, Prod.mk.injEq] at h
      obtain ⟨rfl, rfl⟩ := h
      rw [← hw]
      exact .connect hw
  | deviceReceives prefixByte =>
    cases ho : link.outbound with
    | nil => simp [step, ho] at h
    | cons packet outbound =>
      simp only [step, ho, Option.some.injEq, Prod.mk.injEq] at h
      obtain ⟨rfl, rfl⟩ := h
      exact .deviceReceives prefixByte packet outbound ho
  | deviceHeartbeat payload =>
    simp only [step, Option.some.injEq, Prod.mk.injEq] at h
    obtain ⟨rfl, rfl⟩ := h
    exact .deviceHeartbeat payload

end ControlLink

end LiberaLaser
