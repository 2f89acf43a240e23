import LiberaLaser.Backends.LightSpaceNet.Packet
import LiberaLaser.Foundations.Framing
import LiberaLaser.Foundations.Loop

/-!
# Packets out of a TCP stream

The controller appends what each read brings to a receive buffer and drains the buffer:
`drainTcpPacketBuffer` looks for a packet header, drops what is in front of it, waits for the whole
packet, and skips one byte where the packet is corrupt. A drain that awaits an acknowledgement
returns when it has delivered it, and leaves the rest for the next drain.
-/

namespace LiberaLaser

namespace LightSpaceNetConfig

def PACKET_TYPE_BASIC : UInt8 := 0x01
def PACKET_TYPE_COMMAND : UInt8 := 0x02
def CMD_HEARTBEAT_RESPONSE : UInt8 := 0x04
def CMD_COMMAND_ACK : UInt8 := 0x01

end LightSpaceNetConfig

open LightSpaceNetConfig Framing

def ackPayloadMatchesCommand (packet : LightSpaceNetPacket) (commandWord : UInt8) : Bool :=
  if packet.packetType ≠ PACKET_TYPE_COMMAND ∨ packet.commandWord ≠ CMD_COMMAND_ACK ∨
      packet.payload.length < 2 then false
  else
    let acknowledged := readBe16 packet.payload
    acknowledged == commandWord.toUInt16 || (acknowledged &&& 0xFF).toUInt8 == commandWord

/-- The return value, and whether the awaited acknowledgement matched. -/
def handleParsedIncomingPacket (packet : LightSpaceNetPacket) (expectedAckCommand : UInt8) :
    Bool × Bool :=
  if packet.packetType = PACKET_TYPE_BASIC ∧ packet.commandWord = CMD_HEARTBEAT_RESPONSE then
    (true, false)
  else if expectedAckCommand ≠ 0 ∧ ackPayloadMatchesCommand packet expectedAckCommand then
    (true, true)
  else (true, false)

/-- What a drain makes of the bytes: a packet handed to `handleParsedIncomingPacket`, or a recorded
protocol error. -/
inductive TcpEvent
  | packet (packet : LightSpaceNetPacket)
  | protocolError
  deriving DecidableEq

/-- The end of a drain: its return value, whether the awaited acknowledgement matched, the buffer
that is left, and what was delivered. -/
structure DrainResult where
  handled : Bool
  ackMatched : Bool
  tcpReceiveBuffer : List UInt8
  events : List TcpEvent
  deriving DecidableEq

/-- One pass of the loop of `drainTcpPacketBuffer`, on the buffer and what was delivered before. -/
def drainPass (expectedAckCommand : UInt8) :
    List UInt8 × List TcpEvent → Loop.Pass (List UInt8 × List TcpEvent) DrainResult
  | (tcpReceiveBuffer, events) =>
    match search protocolHeader tcpReceiveBuffer with
    | none =>
      if protocolHeader.length < tcpReceiveBuffer.length then
        .done { handled := true, ackMatched := false, events := events
                tcpReceiveBuffer := tcpReceiveBuffer.drop
                  (tcpReceiveBuffer.length - (protocolHeader.length - 1)) }
      else
        .done { handled := true, ackMatched := false, events := events
                tcpReceiveBuffer := tcpReceiveBuffer }
    | some tcpReceiveBuffer =>
      if tcpReceiveBuffer.length < 12 then
        .done { handled := true, ackMatched := false, events := events
                tcpReceiveBuffer := tcpReceiveBuffer }
      else
        let packetSize := (readBe16 (tcpReceiveBuffer.drop 10)).toNat
        if packetSize < minimumPacketSize then
          .again (tcpReceiveBuffer.drop 1, events ++ [.protocolError])
        else if tcpReceiveBuffer.length < packetSize then
          .done { handled := true, ackMatched := false, events := events
                  tcpReceiveBuffer := tcpReceiveBuffer }
        else
          match parsePacket (tcpReceiveBuffer.take packetSize) with
          | none => .again (tcpReceiveBuffer.drop 1, events ++ [.protocolError])
          | some packet =>
            let (handled, packetAckMatched) :=
              handleParsedIncomingPacket packet expectedAckCommand
            let tcpReceiveBuffer := tcpReceiveBuffer.drop packetSize
            let events := events ++ [.packet packet]
            if !handled then
              .done { handled := false, ackMatched := false, events := events
                      tcpReceiveBuffer := tcpReceiveBuffer }
            else if packetAckMatched then
              .done { handled := true, ackMatched := true, events := events
                      tcpReceiveBuffer := tcpReceiveBuffer }
            else .again (tcpReceiveBuffer, events)

/-- The loop under a budget of passes. -/
def drainWithin (budget : ℕ) (expectedAckCommand : UInt8) (tcpReceiveBuffer : List UInt8) :
    Option DrainResult :=
  Loop.run (fun s => some (drainPass expectedAckCommand s)) budget (tcpReceiveBuffer, [])

/-- Every pass that goes on takes a byte, so the budget does not run out (`drain_total`). -/
def drainTcpPacketBuffer (expectedAckCommand : UInt8) (tcpReceiveBuffer : List UInt8) :
    Option DrainResult :=
  drainWithin (tcpReceiveBuffer.length + 1) expectedAckCommand tcpReceiveBuffer

/-- Read after read: the bytes are appended and the buffer is drained, each time with the command
whose acknowledgement is awaited (0 for none). The result has everything that was delivered. -/
def receive (tcpReceiveBuffer : List UInt8) :
    List (List UInt8 × UInt8) → Option (List TcpEvent × List UInt8)
  | [] => some ([], tcpReceiveBuffer)
  | (bytes, expectedAckCommand) :: reads => do
    let drained ← drainTcpPacketBuffer expectedAckCommand (tcpReceiveBuffer ++ bytes)
    let (events, tcpReceiveBuffer) ← receive drained.tcpReceiveBuffer reads
    return (drained.events ++ events, tcpReceiveBuffer)

/-! ## The decoder behind the loop -/

/-- The size that the packet at the front of a buffer declares. -/
def declaredSize (buffer : List UInt8) : ℕ := (readBe16 (buffer.drop 10)).toNat

/-- What a pass makes of a buffer that starts with a header, if it does not wait. -/
def frontEvent (buffer : List UInt8) : Option (TcpEvent × List UInt8) :=
  if buffer.length < 12 then none
  else if declaredSize buffer < minimumPacketSize then some (.protocolError, buffer.drop 1)
  else if buffer.length < declaredSize buffer then none
  else
    match parsePacket (buffer.take (declaredSize buffer)) with
    | none => some (.protocolError, buffer.drop 1)
    | some packet => some (.packet packet, buffer.drop (declaredSize buffer))

/-- What a pass takes off a buffer, if it does not wait. -/
def nextEvent (buffer : List UInt8) : Option (TcpEvent × List UInt8) :=
  (search protocolHeader buffer).bind frontEvent

/-- What the front of a buffer can give, and when. -/
inductive FrontCase (buffer : List UInt8) : TcpEvent → List UInt8 → Prop
  | short (h12 : 12 ≤ buffer.length) (hsize : declaredSize buffer < minimumPacketSize) :
      FrontCase buffer .protocolError (buffer.drop 1)
  | corrupt (h12 : 12 ≤ buffer.length) (hsize : minimumPacketSize ≤ declaredSize buffer)
      (hlength : declaredSize buffer ≤ buffer.length)
      (hparse : parsePacket (buffer.take (declaredSize buffer)) = none) :
      FrontCase buffer .protocolError (buffer.drop 1)
  | packet (h12 : 12 ≤ buffer.length) (hsize : minimumPacketSize ≤ declaredSize buffer)
      (hlength : declaredSize buffer ≤ buffer.length) (packet : LightSpaceNetPacket)
      (hparse : parsePacket (buffer.take (declaredSize buffer)) = some packet) :
      FrontCase buffer (.packet packet) (buffer.drop (declaredSize buffer))

theorem frontEvent_eq_some_iff {buffer rest : List UInt8} {event : TcpEvent} :
    frontEvent buffer = some (event, rest) ↔ FrontCase buffer event rest := by
  constructor
  · intro h
    unfold frontEvent at h
    split at h
    · cases h
    · rename_i h12
      have h12 := Nat.le_of_not_lt h12
      split at h
      · rename_i hsize
        cases h
        exact .short h12 hsize
      · rename_i hsize
        split at h
        · cases h
        · rename_i hlength
          have hlength := Nat.le_of_not_lt hlength
          split at h
          · rename_i hparse
            cases h
            exact .corrupt h12 (Nat.le_of_not_lt hsize) hlength hparse
          · rename_i packet hparse
            cases h
            exact .packet h12 (Nat.le_of_not_lt hsize) hlength packet hparse
  · intro h
    unfold frontEvent
    cases h with
    | short h12 hsize => rw [if_neg (Nat.not_lt.mpr h12), if_pos hsize]
    | corrupt h12 hsize hlength hparse =>
      rw [if_neg (Nat.not_lt.mpr h12), if_neg (Nat.not_lt.mpr hsize),
        if_neg (Nat.not_lt.mpr hlength), hparse]
    | packet h12 hsize hlength packet hparse =>
      rw [if_neg (Nat.not_lt.mpr h12), if_neg (Nat.not_lt.mpr hsize),
        if_neg (Nat.not_lt.mpr hlength), hparse]

theorem FrontCase.length_lt {buffer rest : List UInt8} {event : TcpEvent}
    (h : FrontCase buffer event rest) : rest.length < buffer.length := by
  cases h with
  | short h12 hsize =>
    rw [List.length_drop]
    omega
  | corrupt h12 hsize hlength hparse =>
    rw [List.length_drop]
    omega
  | packet h12 hsize hlength packet hparse =>
    rw [List.length_drop]
    simp only [minimumPacketSize] at hsize
    omega

theorem declaredSize_append {buffer : List UInt8} (h12 : 12 ≤ buffer.length)
    (more : List UInt8) : declaredSize (buffer ++ more) = declaredSize buffer := by
  have htwo : 2 ≤ (buffer.drop 10).length := by
    rw [List.length_drop]
    omega
  rw [declaredSize, declaredSize, List.drop_append_of_le_length (by omega)]
  rcases hfields : buffer.drop 10 with _ | ⟨hi, _ | ⟨lo, rest⟩⟩
  · simp [hfields] at htwo
  · simp [hfields] at htwo
  · rfl

/-- What the front of a buffer gives does not depend on what is behind it. -/
theorem FrontCase.append {buffer rest : List UInt8} {event : TcpEvent}
    (h : FrontCase buffer event rest) (more : List UInt8) :
    FrontCase (buffer ++ more) event (rest ++ more) := by
  have hlonger : buffer.length ≤ (buffer ++ more).length := by
    rw [List.length_append]
    omega
  cases h with
  | short h12 hsize =>
    have hdeclared := declaredSize_append h12 more
    rw [← List.drop_append_of_le_length (by omega)]
    exact .short (h12.trans hlonger) (hdeclared ▸ hsize)
  | corrupt h12 hsize hlength hparse =>
    have hdeclared := declaredSize_append h12 more
    rw [← List.drop_append_of_le_length (by omega)]
    refine .corrupt (h12.trans hlonger) (hdeclared ▸ hsize) (hdeclared ▸ hlength.trans hlonger) ?_
    rwa [hdeclared, List.take_append_of_le_length hlength]
  | packet h12 hsize hlength packet hparse =>
    have hdeclared := declaredSize_append h12 more
    rw [← List.drop_append_of_le_length hlength, ← hdeclared]
    refine .packet (h12.trans hlonger) (hdeclared ▸ hsize) (hdeclared ▸ hlength.trans hlonger)
      packet ?_
    rwa [hdeclared, List.take_append_of_le_length hlength]

/-- The decoder of a stream of packets. -/
def packetDecoder : Decoder UInt8 TcpEvent where
  next := nextEvent
  progress := by
    intro buffer event rest h
    obtain ⟨found, hfound, hfront⟩ := Option.bind_eq_some_iff.mp h
    exact (frontEvent_eq_some_iff.mp hfront).length_lt.trans_le
      (suffix_of_search hfound).length_le
  stable := by
    intro buffer event rest h more
    obtain ⟨found, hfound, hfront⟩ := Option.bind_eq_some_iff.mp h
    exact Option.bind_eq_some_iff.mpr ⟨found ++ more, search_append hfound more,
      frontEvent_eq_some_iff.mpr ((frontEvent_eq_some_iff.mp hfront).append more)⟩

/-! ## The loop follows the decoder -/

/-- The bytes in front of a header are never looked at again. -/
theorem alike_of_search {buffer found : List UInt8}
    (h : search protocolHeader buffer = some found) : packetDecoder.Alike buffer found := by
  intro more
  have hfound : search protocolHeader (found ++ more) = some (found ++ more) :=
    search_of_prefix ((prefix_of_search h).trans (List.prefix_append found more))
  change (search protocolHeader (buffer ++ more)).bind frontEvent =
    (search protocolHeader (found ++ more)).bind frontEvent
  rw [search_append h, hfound]

/-- **Garbage without a header** may go, but for the bytes that a header can start in. -/
theorem alike_of_search_none {buffer : List UInt8} (h : search protocolHeader buffer = none)
    {n : ℕ} (hn : n + (protocolHeader.length - 1) ≤ buffer.length) :
    packetDecoder.Alike buffer (buffer.drop n) := by
  intro more
  change (search protocolHeader (buffer ++ more)).bind frontEvent =
    (search protocolHeader (buffer.drop n ++ more)).bind frontEvent
  rw [search_drop_append h hn]

/-- What one pass of the loop can do, beside the decoder. -/
inductive DrainCase (expectedAckCommand : UInt8) (buffer : List UInt8) (events : List TcpEvent) :
    Loop.Pass (List UInt8 × List TcpEvent) DrainResult → Prop
  | wait (buffer' : List UInt8) (hnext : packetDecoder.next buffer = none)
      (halike : packetDecoder.Alike buffer buffer') :
      DrainCase expectedAckCommand buffer events (.done { handled := true, ackMatched := false
                                                          tcpReceiveBuffer := buffer'
                                                          events := events })
  | again (event : TcpEvent) (rest : List UInt8)
      (hnext : packetDecoder.next buffer = some (event, rest))
      (hother : ∀ packet, event = .packet packet →
        (handleParsedIncomingPacket packet expectedAckCommand).2 = false) :
      DrainCase expectedAckCommand buffer events (.again (rest, events ++ [event]))
  | matched (packet : LightSpaceNetPacket) (rest : List UInt8)
      (hnext : packetDecoder.next buffer = some (.packet packet, rest))
      (hmatch : (handleParsedIncomingPacket packet expectedAckCommand).2 = true) :
      DrainCase expectedAckCommand buffer events (.done { handled := true, ackMatched := true
                                                          tcpReceiveBuffer := rest
                                                          events := events ++ [.packet packet] })

theorem handled_cases (packet : LightSpaceNetPacket) (expectedAckCommand : UInt8) :
    handleParsedIncomingPacket packet expectedAckCommand = (true, false) ∨
      handleParsedIncomingPacket packet expectedAckCommand = (true, true) ∧
        ackPayloadMatchesCommand packet expectedAckCommand = true ∧ expectedAckCommand ≠ 0 := by
  unfold handleParsedIncomingPacket
  split
  · exact Or.inl rfl
  · split
    · rename_i h
      exact Or.inr ⟨rfl, h.2, h.1⟩
    · exact Or.inl rfl

theorem drainPass_cases (expectedAckCommand : UInt8) (buffer : List UInt8)
    (events : List TcpEvent) :
    DrainCase expectedAckCommand buffer events
      (drainPass expectedAckCommand (buffer, events)) := by
  cases hsearch : search protocolHeader buffer with
  | none =>
    have hnext : packetDecoder.next buffer = none := by
      change (search protocolHeader buffer).bind frontEvent = none
      rw [hsearch, Option.bind_none]
    simp only [drainPass, hsearch]
    split
    · rename_i hlong
      exact .wait _ hnext (alike_of_search_none hsearch (by omega))
    · exact .wait _ hnext Decoder.Alike.rfl
  | some found =>
    have halike := alike_of_search hsearch
    have hnext : packetDecoder.next buffer = frontEvent found := by
      change (search protocolHeader buffer).bind frontEvent = _
      rw [hsearch, Option.bind_some]
    have hdeclared : (readBe16 (found.drop 10)).toNat = declaredSize found := rfl
    simp only [drainPass, hsearch, hdeclared]
    -- the tests of the pass are those of `frontEvent`
    by_cases h12 : found.length < 12
    · rw [if_pos h12]
      exact .wait found (hnext.trans (if_pos h12)) halike
    by_cases hsize : declaredSize found < minimumPacketSize
    · rw [if_neg h12, if_pos hsize]
      exact .again .protocolError (found.drop 1) (hnext.trans
        (frontEvent_eq_some_iff.mpr (.short (Nat.le_of_not_lt h12) hsize))) nofun
    by_cases hlength : found.length < declaredSize found
    · rw [if_neg h12, if_neg hsize, if_pos hlength]
      refine .wait found (hnext.trans ?_) halike
      rw [frontEvent, if_neg h12, if_neg hsize, if_pos hlength]
    rw [if_neg h12, if_neg hsize, if_neg hlength]
    have h12 := Nat.le_of_not_lt h12
    have hsize := Nat.le_of_not_lt hsize
    have hlength := Nat.le_of_not_lt hlength
    cases hparse : parsePacket (found.take (declaredSize found)) with
    | none =>
      simp only
      exact .again .protocolError (found.drop 1) (hnext.trans
        (frontEvent_eq_some_iff.mpr (.corrupt h12 hsize hlength hparse))) nofun
    | some packet =>
      have hfront := hnext.trans
        (frontEvent_eq_some_iff.mpr (.packet h12 hsize hlength packet hparse))
      simp only
      rcases handled_cases packet expectedAckCommand with hhandled | ⟨hhandled, -, -⟩
      · rw [hhandled]
        refine .again (.packet packet) _ hfront ?_
        rintro _ ⟨rfl⟩
        rw [hhandled]
      · rw [hhandled]
        exact .matched packet _ hfront (by rw [hhandled])

/-- **The drain ends on every buffer**, and what it has delivered and left of a stream is what the
decoder makes of it. It leaves a packet in the buffer only behind the acknowledgement it awaits. -/
theorem drain_total (expectedAckCommand : UInt8) {stream buffer : List UInt8}
    {delivered : List TcpEvent} (h : packetDecoder.Represents stream delivered buffer) {budget : ℕ}
    (hbudget : buffer.length < budget) :
    ∃ result, drainWithin budget expectedAckCommand buffer = some result ∧
      packetDecoder.Represents stream (delivered ++ result.events) result.tcpReceiveBuffer ∧
      (packetDecoder.next result.tcpReceiveBuffer = none ∨
        result.ackMatched = true ∧ expectedAckCommand ≠ 0) := by
  refine Loop.run_total (I := fun s => packetDecoder.Represents stream (delivered ++ s.2) s.1)
    (fun s => s.1.length) ?_ (by rwa [List.append_nil]) hbudget
  rintro ⟨buffer, events⟩ hinv
  generalize hpass : drainPass expectedAckCommand (buffer, events) = pass
  have hcase := drainPass_cases expectedAckCommand buffer events
  rw [hpass] at hcase
  cases hcase with
  | wait buffer' hnext halike =>
    refine .done _ rfl ⟨hinv.replace halike, Or.inl ?_⟩
    have hsame := halike []
    rwa [List.append_nil, List.append_nil, hnext, eq_comm] at hsame
  | again event rest hnext hother =>
    refine .again _ rfl ⟨?_, packetDecoder.progress hnext⟩
    rw [← List.append_assoc]
    exact hinv.take hnext
  | matched packet rest hnext hmatch =>
    have hne : expectedAckCommand ≠ 0 := by
      rcases handled_cases packet expectedAckCommand with hhandled | ⟨-, -, hne⟩
      · rw [hhandled] at hmatch
        cases hmatch
      · exact hne
    refine .done _ rfl ⟨?_, Or.inr ⟨rfl, hne⟩⟩
    rw [← List.append_assoc]
    exact hinv.take hnext

/-! ## Reads of any size -/

theorem receive_total {stream : List UInt8} {delivered : List TcpEvent} {buffer : List UInt8}
    (h : packetDecoder.Represents stream delivered buffer) (reads : List (List UInt8 × UInt8)) :
    ∃ events buffer', receive buffer reads = some (events, buffer') ∧
      packetDecoder.Represents (stream ++ (reads.map Prod.fst).flatten) (delivered ++ events)
        buffer' ∧
      ((∀ read ∈ reads, read.2 = 0) → reads ≠ [] → packetDecoder.next buffer' = none) := by
  induction reads generalizing stream delivered buffer with
  | nil =>
    refine ⟨[], buffer, rfl, ?_, fun _ hne => absurd rfl hne⟩
    rwa [List.map_nil, List.flatten_nil, List.append_nil, List.append_nil]
  | cons read reads ih =>
    obtain ⟨result, hdrain, hresult, hwaits⟩ :=
      drain_total read.2 (h.arrive read.1) (Nat.lt_succ_self (buffer ++ read.1).length)
    obtain ⟨events, buffer', hreads, hrest, hlast⟩ := ih hresult
    have hdrain : drainTcpPacketBuffer read.2 (buffer ++ read.1) = some result := hdrain
    refine ⟨result.events ++ events, buffer', ?_, ?_, fun hzero _ => ?_⟩
    · simp [receive, hdrain, hreads]
    · rwa [List.map_cons, List.flatten_cons, ← List.append_assoc, ← List.append_assoc]
    · by_cases hne : reads = []
      · subst hne
        obtain ⟨-, rfl⟩ : [] = events ∧ result.tcpReceiveBuffer = buffer' := by
          simpa [receive] using hreads
        exact hwaits.resolve_right fun hack => hack.2 (hzero read List.mem_cons_self)
      · exact hlast (fun r hr => hzero r (List.mem_cons_of_mem _ hr)) hne

/-- A drain that awaits nothing delivers what the decoder makes of the buffer. -/
theorem drain_zero (buffer : List UInt8) :
    ∃ result, drainTcpPacketBuffer 0 buffer = some result ∧
      (packetDecoder.decode buffer).1 = result.events := by
  obtain ⟨result, hdrain, hresult, hwaits⟩ := drain_total 0
    (Decoder.Represents.nil packetDecoder buffer) (Nat.lt_succ_self buffer.length)
  refine ⟨result, hdrain, ?_⟩
  rw [List.nil_append] at hresult
  exact hresult.eq_of_waits (hwaits.resolve_right fun hack => hack.2 rfl)

theorem declaredSize_of_parsePacket {data : List UInt8} {packet : LightSpaceNetPacket}
    (h : parsePacket data = some packet) :
    minimumPacketSize ≤ data.length ∧ declaredSize data = data.length := by
  have hlength : minimumPacketSize ≤ data.length := by
    by_contra hlt
    simp [parsePacket, Nat.lt_of_not_le hlt] at h
  refine ⟨hlength, ?_⟩
  by_contra hne
  rw [declaredSize] at hne
  simp [parsePacket, Nat.not_lt.mpr hlength, hne] at h

theorem decode_nil : packetDecoder.decode [] = ([], []) :=
  Decoder.decode_of_none (show packetDecoder.next [] = none from rfl)

/-- A packet that nothing in front hides is taken off the buffer. -/
theorem next_packet {buffer data : List UInt8} {packet : LightSpaceNetPacket}
    (hparse : parsePacket data = some packet)
    (hsearch : search protocolHeader buffer = some data) :
    packetDecoder.next buffer = some (.packet packet, []) := by
  obtain ⟨hlength, hsize⟩ := declaredSize_of_parsePacket hparse
  have hfront : FrontCase data (.packet packet) (data.drop (declaredSize data)) := by
    refine .packet (Nat.le_trans (by decide) hlength) (hsize ▸ hlength) (Nat.le_of_eq hsize)
      packet ?_
    rwa [hsize, List.take_length]
  rw [hsize, List.drop_length] at hfront
  exact Option.bind_eq_some_iff.mpr ⟨data, hsearch, frontEvent_eq_some_iff.mpr hfront⟩

/-- Where no header is found nothing is delivered, and no header that later bytes complete is
lost. -/
theorem drain_garbage (expectedAckCommand : UInt8) {buffer : List UInt8}
    (h : search protocolHeader buffer = none) :
    ∃ result, drainTcpPacketBuffer expectedAckCommand buffer = some result ∧ result.events = [] ∧
      ∀ more, search protocolHeader (result.tcpReceiveBuffer ++ more) =
        search protocolHeader (buffer ++ more) := by
  by_cases hlong : protocolHeader.length < buffer.length
  · refine ⟨{ handled := true, ackMatched := false, events := []
              tcpReceiveBuffer := buffer.drop (buffer.length - (protocolHeader.length - 1)) },
      ?_, rfl, fun more => search_drop_append h (by omega) more⟩
    simp only [drainTcpPacketBuffer, drainWithin, Loop.run, drainPass, h, if_pos hlong]
  · refine ⟨{ handled := true, ackMatched := false, events := [], tcpReceiveBuffer := buffer },
      ?_, rfl, fun more => rfl⟩
    simp only [drainTcpPacketBuffer, drainWithin, Loop.run, drainPass, h, if_neg hlong]

/-- **Resynchronisation does not depend on how the stream is cut into reads.** Every drain ends.
Whatever the drains await, what they deliver and then a drain of what they leave is what one drain
of the whole stream delivers, and drains that await nothing leave nothing to deliver. A packet that
arrives in pieces is delivered, and a header that arrives in pieces is found. -/
theorem receive_independent_of_reads :
    (∀ (expectedAckCommand : UInt8) (buffer : List UInt8) (budget : ℕ), buffer.length < budget →
      (drainWithin budget expectedAckCommand buffer).isSome) ∧
    (∀ reads : List (List UInt8 × UInt8), ∃ events buffer whole rest,
      receive [] reads = some (events, buffer) ∧
        drainTcpPacketBuffer 0 (reads.map Prod.fst).flatten = some whole ∧
        drainTcpPacketBuffer 0 buffer = some rest ∧ events ++ rest.events = whole.events ∧
        ((∀ read ∈ reads, read.2 = 0) → events = whole.events)) ∧
    (∀ (buffer data : List UInt8) (packet : LightSpaceNetPacket) (pieces : List (List UInt8)),
      parsePacket data = some packet → search protocolHeader (buffer ++ data) = some data →
        pieces.flatten = data →
          ∃ buffer', receive buffer (pieces.map (·, 0)) = some ([.packet packet], buffer')) ∧
    (∀ (expectedAckCommand : UInt8) (buffer : List UInt8), search protocolHeader buffer = none →
      ∃ result, drainTcpPacketBuffer expectedAckCommand buffer = some result ∧
        result.events = [] ∧ ∀ more, search protocolHeader (result.tcpReceiveBuffer ++ more) =
          search protocolHeader (buffer ++ more)) := by
  refine ⟨fun expectedAckCommand buffer budget hbudget => ?_, fun reads => ?_,
    fun buffer data packet pieces hparse hsearch hpieces => ?_,
    fun expectedAckCommand buffer h => drain_garbage expectedAckCommand h⟩
  · obtain ⟨result, hrun, -⟩ := drain_total expectedAckCommand
      (Decoder.Represents.nil packetDecoder buffer) hbudget
    exact Option.isSome_of_eq_some hrun
  · obtain ⟨events, buffer, hreads, hresult, hwaits⟩ :=
      receive_total (Decoder.Represents.nil packetDecoder []) reads
    obtain ⟨whole, hwhole, hwholeEvents⟩ := drain_zero (reads.map Prod.fst).flatten
    obtain ⟨rest, hrest, hrestEvents⟩ := drain_zero buffer
    rw [List.nil_append, List.nil_append] at hresult
    have hsplit := hresult.reports
    rw [hwholeEvents, hrestEvents] at hsplit
    refine ⟨events, buffer, whole, rest, hreads, hwhole, hrest, hsplit.symm, fun hzero => ?_⟩
    by_cases hne : reads = []
    · subst hne
      obtain ⟨rfl, rfl⟩ : [] = events ∧ [] = buffer := by simpa [receive] using hreads
      rw [← hwholeEvents, List.map_nil, List.flatten_nil, decode_nil]
    · rw [← hwholeEvents]
      exact (hresult.eq_of_waits (hwaits hzero hne)).symm
  · obtain ⟨events, buffer', hreads, hresult, hwaits⟩ :=
      receive_total (Decoder.Represents.nil packetDecoder buffer) (pieces.map (·, 0))
    have hne : pieces.map (·, (0 : UInt8)) ≠ [] := by
      rintro hnil
      rw [List.map_eq_nil_iff] at hnil
      subst hnil
      subst hpieces
      exact absurd (declaredSize_of_parsePacket hparse).1 (by decide)
    have hbytes : ((pieces.map (·, (0 : UInt8))).map Prod.fst).flatten = data := by
      rw [List.map_map, ← hpieces]
      exact congrArg List.flatten (List.map_id pieces)
    rw [hbytes, List.nil_append] at hresult
    have hzero : ∀ read ∈ pieces.map (·, (0 : UInt8)), read.2 = 0 := by
      intro read hread
      obtain ⟨piece, -, rfl⟩ := List.mem_map.mp hread
      rfl
    have hevents : [.packet packet] = events := by
      rw [← hresult.eq_of_waits (hwaits hzero hne),
        Decoder.decode_of_some (next_packet hparse hsearch), decode_nil]
    exact ⟨buffer', hevents ▸ hreads⟩

/-- A drain that awaits the acknowledgement of command 2 stops at it, with a heartbeat response
still in the buffer; cut between the two packets, the stream delivers both. -/
theorem drain_stops_at_awaited_ack :
    ¬ ∀ (expectedAckCommand : UInt8) (pieces : List (List UInt8)),
      (receive [] (pieces.map (·, expectedAckCommand))).map Prod.fst =
        (drainTcpPacketBuffer expectedAckCommand pieces.flatten).map DrainResult.events := by
  intro h
  exact absurd (h 2 [buildPacket PACKET_TYPE_COMMAND CMD_COMMAND_ACK [0, 2],
    buildPacket PACKET_TYPE_BASIC CMD_HEARTBEAT_RESPONSE []]) (by decide +kernel)

end LiberaLaser
