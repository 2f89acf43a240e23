import LiberaLaser.Backends.LightSpaceNet.ControlLink

/-!
# Whose packet an acknowledgement answers

An acknowledgement carries the command and no number, and a call polls packets that came in before
it sent its own. So an acknowledgement of an earlier call satisfies a later one for the same command
(`acknowledged_by_earlier_call`), unless nothing of the command is outstanding when the later call
begins: along a run of such calls every acknowledgement is the call's own
(`acknowledged_by_own_packet`).
-/

namespace LiberaLaser

open LightSpaceNetConfig

/-! ## Acknowledgements and commands -/

/-- Both readings of an acknowledgement identify the command. -/
theorem ackPayloadMatchesCommand_commandAck {prefixByte c c' : UInt8} :
    ackPayloadMatchesCommand (commandAck prefixByte c) c' = true ↔ c = c' := by
  have hlow : (readBe16 [prefixByte, c] &&& 0xFF).toUInt8 = c := lowByte_readBe16 prefixByte c []
  have hpacket : ackPayloadMatchesCommand (commandAck prefixByte c) c' =
      (readBe16 [prefixByte, c] == c'.toUInt16 ||
        (readBe16 [prefixByte, c] &&& 0xFF).toUInt8 == c') := if_neg (by simp [commandAck])
  rw [hpacket, hlow, Bool.or_eq_true, beq_iff_eq, beq_iff_eq]
  constructor
  · rintro (h | h)
    · -- as a word: the prefix is zero
      have hnat := congrArg UInt16.toNat h
      rw [toNat_readBe16, UInt8.toNat_toUInt16] at hnat
      have hc' := UInt8.toNat_lt c'
      apply UInt8.toNat_inj.mp
      omega
    · exact h
  · exact Or.inr

theorem ackPayloadMatchesCommand_heartbeatResponse (payload : List UInt8) (c : UInt8) :
    ackPayloadMatchesCommand (heartbeatResponse payload) c = false := by
  rw [ackPayloadMatchesCommand, if_pos (by simp [heartbeatResponse, PACKET_TYPE_BASIC,
    PACKET_TYPE_COMMAND])]

/-- A poll keeps some of the packets, and what it stops behind is an acknowledgement among them. -/
theorem takeIncoming_spec (c : UInt8) (packets : ℕ) (inbound : List IncomingPacket) :
    (∀ m ∈ (takeIncoming c packets inbound).2, m ∈ inbound) ∧
      ∀ m, (takeIncoming c packets inbound).1 = some m →
        m ∈ inbound ∧ ackPayloadMatchesCommand m.packet c = true := by
  fun_induction takeIncoming c packets inbound with
  | case1 inbound => exact ⟨fun m hm => hm, nofun⟩
  | case2 n => exact ⟨fun m hm => hm, nofun⟩
  | case3 n incoming inbound hmatch =>
    refine ⟨fun m hm => List.mem_cons_of_mem _ hm, ?_⟩
    rintro m ⟨rfl⟩
    rcases handled_cases incoming.packet c with h | ⟨-, hack, -⟩
    · rw [h] at hmatch
      cases hmatch
    · exact ⟨List.mem_cons_self, hack⟩
  | case4 n incoming inbound hmatch ih =>
    exact ⟨fun m hm => List.mem_cons_of_mem _ (ih.1 m hm),
      fun m hm => ⟨List.mem_cons_of_mem _ (ih.2 m hm).1, (ih.2 m hm).2⟩⟩

namespace ControlLink

/-! ## Own acknowledgements -/

/-- An event that tells of an acknowledgement: it is of the call's own packet, which the device
has received. -/
def OwnAcknowledgement (before : List ControlEvent) : ControlEvent → Prop
  | .returned call commandWord .Acknowledged answers =>
    answers = some call ∧ .received call commandWord ∈ before
  | _ => True

/-- Nothing that could answer the command is on its way or unread. -/
def NothingOutstanding (link : ControlLink) (commandWord : UInt8) : Prop :=
  (∀ packet ∈ link.outbound, packet.commandWord ≠ commandWord) ∧
    ∀ incoming ∈ link.inbound, ackPayloadMatchesCommand incoming.packet commandWord = false

instance (link : ControlLink) (commandWord : UInt8) :
    Decidable (link.NothingOutstanding commandWord) := inferInstanceAs (Decidable (_ ∧ _))

/-- A call that will wait for an acknowledgement begins with nothing outstanding. -/
def BeginsClear (_ : List ControlEvent) (link : ControlLink) : ControlStep → Prop
  | .sendControlCommand commandWord _ =>
    link.commandAckMode ≠ .Silent → link.NothingOutstanding commandWord
  | _ => True

instance (tr : List ControlEvent) (link : ControlLink) (l : ControlStep) :
    Decidable (BeginsClear tr link l) := by
  cases l <;> unfold BeginsClear <;> infer_instance

/-- Incoming packets are acknowledgements of packets that the device received, or no
acknowledgements. -/
def Answered (tr : List ControlEvent) (inbound : List IncomingPacket) : Prop :=
  ∀ m ∈ inbound, (∃ payload, m.packet = heartbeatResponse payload) ∨
    ∃ prefixByte c call, m = ⟨commandAck prefixByte c, some call⟩ ∧ .received call c ∈ tr

/-- What is on the link for the command of a call is the call's own. -/
def Own (waiting : ReliableCall) (outbound : List ControlPacket) (inbound : List IncomingPacket) :
    Prop :=
  (∀ p ∈ outbound, p.commandWord = waiting.commandWord → p.call = waiting.call) ∧
    ∀ m ∈ inbound, ackPayloadMatchesCommand m.packet waiting.commandWord = true →
      m.answers = some waiting.call

/-- The invariant of a run whose calls begin with nothing outstanding. -/
structure AckInvariant (tr : List ControlEvent) (link : ControlLink) : Prop where
  answered : Answered tr link.inbound
  own : ∀ waiting, link.waiting = some waiting → Own waiting link.outbound link.inbound
  sound : Traces.Always OwnAcknowledgement tr

variable {tr : List ControlEvent} {link link' : ControlLink} {l : ControlStep}
  {o : List ControlEvent}

theorem Answered.mono {inbound inbound' : List IncomingPacket} (h : Answered tr inbound)
    (hsub : ∀ m ∈ inbound', m ∈ inbound) (o : List ControlEvent) :
    Answered (tr ++ o) inbound' := by
  intro m hm
  rcases h m (hsub m hm) with hbeat | ⟨prefixByte, c, call, hm, hreceived⟩
  · exact Or.inl hbeat
  · exact Or.inr ⟨prefixByte, c, call, hm, List.mem_append_left o hreceived⟩

theorem own_of_nothingOutstanding {waiting : ReliableCall}
    (h : link.NothingOutstanding waiting.commandWord) :
    Own waiting link.outbound link.inbound :=
  ⟨fun p hp hc => absurd hc (h.1 p hp), fun m hm hack => by simp [h.2 m hm] at hack⟩

/-- Giving up keeps what is on the link. -/
theorem unacknowledged_spec (link : ControlLink) (waiting : ReliableCall) :
    (link.unacknowledged waiting).1.inbound = link.inbound ∧
      (link.unacknowledged waiting).1.waiting = none ∧
      ∀ e ∈ (link.unacknowledged waiting).2, ∀ before, OwnAcknowledgement before e := by
  unfold unacknowledged
  split <;> exact ⟨rfl, rfl, by simp [OwnAcknowledgement]⟩

/-- An attempt puts a packet of the call on the link and waits, or gives up. -/
theorem beginAttempt_spec (link : ControlLink) (waiting : ReliableCall) (sent : Bool) :
    (link.beginAttempt waiting sent).1.inbound = link.inbound ∧
      (∀ w, (link.beginAttempt waiting sent).1.waiting = some w → w = waiting ∧
        (link.beginAttempt waiting sent).1.outbound =
          link.outbound ++ [⟨waiting.commandWord, waiting.call⟩]) ∧
      ∀ e ∈ (link.beginAttempt waiting sent).2, ∀ before, OwnAcknowledgement before e := by
  cases sent with
  | true =>
    refine ⟨rfl, ?_, nofun⟩
    rintro w ⟨rfl⟩
    exact ⟨rfl, rfl⟩
  | false =>
    obtain ⟨hin, hw, hquiet⟩ :=
      unacknowledged_spec (link.sendPacket ⟨waiting.commandWord, waiting.call⟩ false) waiting
    refine ⟨hin, fun w hsome => ?_, hquiet⟩
    have hnone : (link.beginAttempt waiting false).1.waiting = none := hw
    rw [hnone] at hsome
    cases hsome

/-- An attempt of a call that owns what is on the link for its command. -/
theorem ackInvariant_beginAttempt {waiting : ReliableCall} (hanswered : Answered tr link.inbound)
    (hsound : Traces.Always OwnAcknowledgement tr)
    (hown : Own waiting link.outbound link.inbound) (sent : Bool) :
    AckInvariant (tr ++ (link.beginAttempt waiting sent).2)
      (link.beginAttempt waiting sent).1 := by
  obtain ⟨hin, hwaiting, hquiet⟩ := beginAttempt_spec link waiting sent
  refine ⟨?_, fun w hw => ?_, hsound.append hquiet⟩
  · rw [hin]
    exact hanswered.mono (fun m hm => hm) _
  · obtain ⟨rfl, hout⟩ := hwaiting w hw
    rw [hin, hout]
    refine ⟨fun p hp hc => ?_, hown.2⟩
    rcases List.mem_append.mp hp with hp | hp
    · exact hown.1 p hp hc
    · rw [List.mem_singleton.mp hp]

/-- What is added behind the incoming packets. -/
theorem Answered.concat {inbound : List IncomingPacket} (h : Answered tr inbound)
    {m : IncomingPacket} (hm : Answered (tr ++ o) [m]) : Answered (tr ++ o) (inbound ++ [m]) := by
  intro m' hm'
  rcases List.mem_append.mp hm' with hm' | hm'
  · exact h.mono (fun _ hm => hm) o m' hm'
  · exact hm m' hm'

theorem ackInvariant_step (h : AckInvariant tr link) (hclear : BeginsClear tr link l)
    (hstep : step link l = some (link', o)) : AckInvariant (tr ++ o) link' := by
  have hnone : ∀ {w : ReliableCall}, (none : Option ReliableCall) ≠ some w := nofun
  cases step_cases hstep with
  | silent commandWord sent hw hm =>
    refine ⟨?_, fun w hsome => ?_, h.sound.append ?_⟩
    · cases sent <;> exact h.answered.mono (fun m hm => hm) _
    · cases sent <;> exact absurd (hw.symm.trans hsome) hnone
    · cases sent <;> simp [OwnAcknowledgement]
  | reliable commandWord sent hw hm =>
    have hown : Own { commandWord := commandWord, attempt := 0, call := link.calls }
        link.outbound link.inbound := own_of_nothingOutstanding (hclear hm)
    refine ackInvariant_beginAttempt ?_ h.sound ?_ sent
    · exact h.answered
    · exact hown
  | unmatched packets waiting hw inbound htake =>
    have hsub := (takeIncoming_spec waiting.commandWord packets link.inbound).1
    rw [htake] at hsub
    refine ⟨h.answered.mono hsub [], fun w hsome => ?_, h.sound.append nofun⟩
    have hown := h.own w hsome
    exact ⟨hown.1, fun m hm => hown.2 m (hsub m hm)⟩
  | matched packets waiting hw incoming inbound htake =>
    have hspec := takeIncoming_spec waiting.commandWord packets link.inbound
    rw [htake] at hspec
    obtain ⟨hmem, hack⟩ := hspec.2 incoming rfl
    refine ⟨h.answered.mono hspec.1 _, fun w hsome => absurd hsome hnone, h.sound.concat ?_⟩
    have hanswers := (h.own waiting hw).2 incoming hmem hack
    rcases h.answered incoming hmem with ⟨payload, hbeat⟩ | ⟨prefixByte, c, call, rfl, hreceived⟩
    · rw [hbeat, ackPayloadMatchesCommand_heartbeatResponse] at hack
      cases hack
    · -- the acknowledgement names the command, and the call is the one that waits
      obtain rfl := ackPayloadMatchesCommand_commandAck.mp hack
      obtain rfl := Option.some.inj hanswers
      exact ⟨rfl, hreceived⟩
  | retry receiveFailed sent waiting hw hlt =>
    have hown : Own { waiting with attempt := waiting.attempt + 1 } link.outbound link.inbound :=
      h.own waiting hw
    cases receiveFailed with
    | false => exact ackInvariant_beginAttempt h.answered h.sound hown sent
    | true =>
      refine ackInvariant_beginAttempt ?_ h.sound ?_ sent
      · exact h.answered
      · exact hown
  | giveUp receiveFailed sent waiting hw =>
    obtain ⟨hin, hwaiting, hquiet⟩ := unacknowledged_spec (link.afterPoll receiveFailed) waiting
    refine ⟨?_, fun w hsome => absurd (hwaiting.symm.trans hsome) hnone, h.sound.append hquiet⟩
    rw [hin]
    cases receiveFailed <;> exact h.answered.mono (fun m hm => hm) _
  | discard packets hw =>
    exact ⟨h.answered.mono (takeIncoming_spec 0 packets link.inbound).1 [],
      fun w hsome => absurd (hw.symm.trans hsome) hnone, h.sound.append nofun⟩
  | connect hw =>
    exact ⟨nofun, fun w hsome => absurd (hw.symm.trans hsome) hnone, h.sound.append nofun⟩
  | deviceReceives prefixByte packet outbound ho =>
    refine ⟨h.answered.concat ?_, fun w hsome => ?_, h.sound.concat trivial⟩
    · intro m hm
      rw [List.mem_singleton.mp hm]
      exact Or.inr ⟨prefixByte, packet.commandWord, packet.call, rfl,
        List.mem_append_right tr (List.mem_singleton_self _)⟩
    · obtain ⟨hout, hin⟩ := h.own w hsome
      rw [ho] at hout
      refine ⟨fun p hp => hout p (List.mem_cons_of_mem packet hp), fun m hm hack => ?_⟩
      rcases List.mem_append.mp hm with hm | hm
      · exact hin m hm hack
      · -- the acknowledgement of a packet of the command is of a packet of the call
        rw [List.mem_singleton.mp hm] at hack ⊢
        exact congrArg some
          (hout packet List.mem_cons_self (ackPayloadMatchesCommand_commandAck.mp hack))
  | deviceHeartbeat payload =>
    refine ⟨h.answered.concat ?_, fun w hsome => ?_, h.sound.append nofun⟩
    · intro m hm
      rw [List.mem_singleton.mp hm]
      exact Or.inl ⟨payload, rfl⟩
    · obtain ⟨hout, hin⟩ := h.own w hsome
      refine ⟨hout, fun m hm hack => ?_⟩
      rcases List.mem_append.mp hm with hm | hm
      · exact hin m hm hack
      · rw [List.mem_singleton.mp hm, ackPayloadMatchesCommand_heartbeatResponse] at hack
        cases hack

/-- **Acknowledged means received**: in every run whose calls begin with nothing of their command
outstanding, a call that returns `Acknowledged` has had a packet of its own acknowledged, and the
device had received it. -/
theorem acknowledged_by_own_packet {ls : List ControlStep}
    (hclear : Runs.Along step BeginsClear [] {} ls) (hrun : Runs.run step {} ls = some (link', o)) :
    Traces.Always OwnAcknowledgement o := by
  have hinit : AckInvariant [] {} := ⟨nofun, nofun, Traces.always_nil⟩
  have hstep : ∀ tr link l link' o, AckInvariant tr link → BeginsClear tr link l →
      step link l = some (link', o) → AckInvariant (tr ++ o) link' :=
    fun _ _ _ _ _ h hclear hstep => ackInvariant_step h hclear hstep
  exact (Runs.run_invariant hstep hinit hclear hrun).sound

/-- A run with a retry, and a call that begins when both acknowledgements are read. -/
theorem acknowledged_by_own_packet_after_retry :
    ∃ link o, Runs.run step {} [.sendControlCommand 2 true, .waitOver false true,
        .deviceReceives 2, .deviceReceives 2, .poll 1, .pollIncomingPackets 1,
        .sendControlCommand 2 true, .deviceReceives 2, .poll 1] = some (link, o) ∧
      .returned 1 2 .Acknowledged (some 1) ∈ o ∧ Traces.Always OwnAcknowledgement o := by
  have hrun : (Runs.run step {} [.sendControlCommand 2 true, .waitOver false true,
      .deviceReceives 2, .deviceReceives 2, .poll 1, .pollIncomingPackets 1,
      .sendControlCommand 2 true, .deviceReceives 2, .poll 1]).map Prod.snd =
        some [.received 0 2, .received 0 2, .returned 0 2 .Acknowledged (some 0), .received 1 2,
          .returned 1 2 .Acknowledged (some 1)] := by decide +kernel
  obtain ⟨⟨link, o⟩, hrun, rfl⟩ := Option.map_eq_some_iff.mp hrun
  exact ⟨link, _, hrun, by decide, acknowledged_by_own_packet (by decide +kernel) hrun⟩

/-- The second packet of the first call is acknowledged late, and the second call takes that for
its own acknowledgement, though the device has not received its packet. -/
theorem acknowledged_by_earlier_call :
    ¬ ∀ ls link o, Runs.run step {} ls = some (link, o) → Traces.Always OwnAcknowledgement o := by
  intro h
  have hrun : (Runs.run step {} [.sendControlCommand 2 true, .waitOver false true,
      .deviceReceives 2, .poll 1, .sendControlCommand 2 true, .deviceReceives 2,
      .poll 1]).map Prod.snd =
        some [.received 0 2, .returned 0 2 .Acknowledged (some 0), .received 0 2,
          .returned 1 2 .Acknowledged (some 0)] := by decide +kernel
  obtain ⟨⟨link, o⟩, hrun, rfl⟩ := Option.map_eq_some_iff.mp hrun
  have hlast := h _ link _ hrun
    [.received 0 2, .returned 0 2 .Acknowledged (some 0), .received 0 2] _ [] rfl
  exact absurd hlast.1 (by decide)

end ControlLink

end LiberaLaser
