import LiberaLaser.Backends.LaserCubeNet.Link
import LiberaLaser.Foundations.Runs
import LiberaLaser.Foundations.Slots
import Mathlib.Data.FinEnum

/-!
# The count of the packets on their way

The counter of a link is the number of its occupied slots, whatever calls are made in whatever
order (`pendingAckCount_exact`). Each change of the slots is an event of the table of slots: a fresh
packet occupies its slot, an acknowledgement or an expiry releases it, and connecting and closing
clear them all. A packet under a number that is still occupied takes the slot over.
-/

namespace LiberaLaser

open Slots Runs

namespace LinkEvent

/-- What the event does to the slots. -/
def slot : LinkEvent → Option (Slots.Event UInt8)
  | .sent number true => some (.occupy number)
  | .acknowledged number _ => some (.release number)
  | .expired number => some (.release number)
  | .cleared => some .clear
  | _ => none

/-- The event ends the packet that is on its way under the number. -/
def Settles (number : UInt8) (e : LinkEvent) : Prop := e.slot = some (.release number)

theorem eq_sent {e : LinkEvent} {number : UInt8} (h : e.slot = some (.occupy number)) :
    e = .sent number true := by
  cases e with
  | sent number' fresh =>
    cases fresh with
    | true =>
      cases h
      rfl
    | false => cases h
  | _ => cases h

/-- The number of an acknowledgement that is counted. -/
def acknowledgedNumber : LinkEvent → Option UInt8
  | .acknowledged number _ => some number
  | _ => none

end LinkEvent

/-- The number that a datagram acknowledges. -/
def Received.ackNumber {α : Type} : Received α → Option UInt8
  | .datagram _ bytes =>
    let buffer := bytes.take 4
    if buffer.length = 4 ∧ buffer.getD 0 0 = LaserCubeNetLink.cmdGetRingbufferFree then
      some (buffer.getD 1 0)
    else none
  | _ => none

namespace LaserCubeNetLink

/-- The numbers that the datagrams of a call acknowledge. -/
def Call.ackNumbers {α : Type} : Call α → List UInt8
  | .checkAcks _ received => received.filterMap Received.ackNumber
  | _ => []

variable {α : Type} {s s' : LaserCubeNetLink α} {tr o : List LinkEvent}

/-- The slots of the packets on their way. -/
def inFlight (s : LaserCubeNetLink α) : Finset UInt8 := occupied 0 s.messageTimes

/-- The fresh packets less the acknowledgements and expiries, since all slots were last cleared. -/
def outstanding (tr : List LinkEvent) : ℤ := count (tr.filterMap LinkEvent.slot)

/-- The slots and the counter are where the events have taken them. -/
def LinkInvariant (tr : List LinkEvent) (s : LaserCubeNetLink α) : Prop :=
  Tracks 0 (tr.filterMap LinkEvent.slot) s.messageTimes s.pendingAckCount

namespace LinkInvariant

/-- Neither the slots nor the counter change. -/
theorem unchanged (h : LinkInvariant tr s) (htimes : s'.messageTimes = s.messageTimes)
    (hcount : s'.pendingAckCount = s.pendingAckCount) : LinkInvariant (tr ++ []) s' := by
  rw [LinkInvariant, htimes, hcount, List.append_nil]
  exact h

/-- An event that says nothing of the slots. -/
theorem neutral (h : LinkInvariant tr s) {e : LinkEvent} (he : e.slot = none)
    (htimes : s'.messageTimes = s.messageTimes) (hcount : s'.pendingAckCount = s.pendingAckCount) :
    LinkInvariant (tr ++ [e]) s' := by
  rw [LinkInvariant, htimes, hcount, List.filterMap_append, List.filterMap_cons_none he,
    List.filterMap_nil, List.append_nil]
  exact h

theorem freeSlot (h : LinkInvariant tr s) {number : UInt8} (hsent : s.messageTimes number ≠ 0)
    {e : LinkEvent} (he : e.slot = some (.release number)) :
    LinkInvariant (tr ++ [e]) (s.freeSlot number) := by
  have hpos := h.counter_pos hsent
  have hevents : (tr ++ [e]).filterMap LinkEvent.slot =
      tr.filterMap LinkEvent.slot ++ [.release number] := by
    rw [List.filterMap_append, List.filterMap_cons_some he, List.filterMap_nil]
  rw [LinkInvariant, hevents, LaserCubeNetLink.freeSlot]
  simp only [hpos, if_true]
  exact h.release hsent

theorem cleared (h : LinkInvariant tr s) (htimes : s'.messageTimes = fun _ => 0)
    (hcount : s'.pendingAckCount = 0) : LinkInvariant (tr ++ [.cleared]) s' := by
  rw [LinkInvariant, htimes, hcount, List.filterMap_append]
  exact h.clear

theorem connectToStatus (h : LinkInvariant tr s) (input : ConnectInput α) :
    LinkInvariant (tr ++ (s.connectToStatus input).2) (s.connectToStatus input).1 := by
  unfold LaserCubeNetLink.connectToStatus
  split
  · exact h.cleared rfl rfl
  · rw [← List.singleton_append, ← List.append_assoc]
    have hcleared : LinkInvariant (tr ++ [.cleared])
        { s with messageTimes := fun _ => 0, pendingAckCount := 0 } := h.cleared rfl rfl
    exact hcleared.neutral rfl rfl rfl

theorem syncPointRate (h : LinkInvariant tr s) (desired : ℕ) (sent : Bool) :
    LinkInvariant (tr ++ (s.syncPointRate desired sent).2) (s.syncPointRate desired sent).1 := by
  unfold LaserCubeNetLink.syncPointRate
  split
  · exact h.unchanged rfl rfl
  · split
    · exact h.unchanged rfl rfl
    · exact h.neutral rfl rfl rfl

/-- A packet that is sent occupies its slot, or takes over the one of an earlier packet. -/
theorem sendPacket (h : LinkInvariant tr s) (sentAt : Option ClockReading) :
    LinkInvariant (tr ++ (s.sendPacket sentAt).2) (s.sendPacket sentAt).1 := by
  unfold LaserCubeNetLink.sendPacket
  split
  · rename_i now _
    have hnow : now.time ≠ 0 := now.after_epoch.ne'
    simp only
    by_cases hfresh : s.messageTimes s.messageNumber = 0
    · rw [if_pos hfresh, decide_eq_true hfresh]
      have hoccupied := Tracks.occupy h hfresh hnow
      rw [LinkInvariant, List.filterMap_append]
      exact hoccupied
    · rw [if_neg hfresh, decide_eq_false hfresh]
      have htaken := Tracks.overwrite h hfresh hnow
      rw [LinkInvariant, List.filterMap_append, List.filterMap_cons_none rfl, List.filterMap_nil,
        List.append_nil]
      exact htaken
  · exact h.neutral rfl rfl rfl

theorem sendPoints {D : Type} [FloatArith D] (h : LinkInvariant tr s) (input : SendInput) :
    LinkInvariant (tr ++ (s.sendPoints D input).2) (s.sendPoints D input).1 := by
  unfold LaserCubeNetLink.sendPoints
  simp only
  split
  · refine sendPacket ?_ _
    exact h
  · exact h.unchanged rfl rfl

/-- An acknowledgement is counted where its slot is occupied. -/
theorem handleAck (h : LinkInvariant tr s) (now : TimePoint) (number : UInt8) (bufferSpace : ℕ) :
    LinkInvariant (tr ++ (s.handleAck now number bufferSpace).2)
      (s.handleAck now number bufferSpace).1 := by
  unfold LaserCubeNetLink.handleAck
  simp only
  split
  · exact h.neutral rfl rfl rfl
  · rename_i hsent
    rw [← List.append_assoc]
    have herrors : LinkInvariant
        (tr ++ if bufferSpace = 0 then [.intermittentError .bufferOverrun] else []) s := by
      split
      · exact h.neutral rfl rfl rfl
      · exact h.unchanged rfl rfl
    exact LinkInvariant.freeSlot herrors hsent rfl

theorem handleDatagram [DecidableEq α] (h : LinkInvariant tr s) (now : TimePoint)
    (sender : Endpoint α) (bytes : List UInt8) :
    LinkInvariant (tr ++ (s.handleDatagram now sender bytes).2)
      (s.handleDatagram now sender bytes).1 := by
  unfold LaserCubeNetLink.handleDatagram
  split
  · split
    · exact h.neutral rfl rfl rfl
    · exact h.unchanged rfl rfl
  simp only
  split
  · split
    · exact h.neutral rfl rfl rfl
    · exact h.unchanged rfl rfl
  split
  · exact h.neutral rfl rfl rfl
  · exact h.handleAck now _ _

theorem pollAcks [DecidableEq α] (h : LinkInvariant tr s) (now : TimePoint) (polls : ℕ)
    (received : List (Received α)) :
    LinkInvariant (tr ++ (pollAcks now polls received s).2) (pollAcks now polls received s).1 := by
  induction polls generalizing s tr received with
  | zero =>
    rw [LaserCubeNetLink.pollAcks]
    exact h.unchanged rfl rfl
  | succ polls ih =>
    cases received with
    | nil =>
      rw [LaserCubeNetLink.pollAcks]
      exact h.unchanged rfl rfl
    | cons first rest =>
      cases first with
      | timedOut =>
        rw [LaserCubeNetLink.pollAcks]
        exact h.unchanged rfl rfl
      | failed =>
        rw [LaserCubeNetLink.pollAcks]
        exact h.neutral rfl rfl rfl
      | datagram sender bytes =>
        have hhandled := ih (h.handleDatagram now sender bytes) rest
        rw [List.append_assoc] at hhandled
        exact hhandled

/-- Every expiry frees a slot that is occupied. -/
theorem expireSlots (h : LinkInvariant tr s) (now : TimePoint) (numbers : List UInt8) :
    LinkInvariant (tr ++ (expireSlots now numbers s).2) (expireSlots now numbers s).1 := by
  induction numbers generalizing s tr with
  | nil =>
    rw [LaserCubeNetLink.expireSlots]
    exact h.unchanged rfl rfl
  | cons number rest ih =>
    rw [LaserCubeNetLink.expireSlots]
    split
    · rename_i hexpired
      have hlater := ih (h.freeSlot hexpired.1 (e := .expired number) rfl)
      rw [List.append_assoc] at hlater
      exact hlater
    · exact ih h

theorem warnOfWait (h : LinkInvariant tr s) (now : TimePoint) :
    LinkInvariant (tr ++ (s.warnOfWait now).2) (s.warnOfWait now).1 := by
  unfold LaserCubeNetLink.warnOfWait
  split
  · exact h.neutral rfl rfl rfl
  · exact h.unchanged rfl rfl

theorem checkStall (h : LinkInvariant tr s) (now : TimePoint) :
    LinkInvariant (tr ++ (s.checkStall now).2) (s.checkStall now).1 := by
  unfold LaserCubeNetLink.checkStall
  split
  · exact h.neutral rfl rfl rfl
  · exact h.unchanged rfl rfl

theorem checkAcks [DecidableEq α] (h : LinkInvariant tr s) (now : TimePoint)
    (received : List (Received α)) :
    LinkInvariant (tr ++ (s.checkAcks now received).2) (s.checkAcks now received).1 := by
  unfold LaserCubeNetLink.checkAcks
  split
  · exact h.unchanged rfl rfl
  have hpolled := h.pollAcks now maxAckPollsPerCall received
  simp only
  split
  · have hexpired := hpolled.expireSlots now numbers
    rw [List.append_assoc] at hexpired
    split
    · have hwarned := hexpired.warnOfWait now
      have hstalled := hwarned.checkStall now
      simp only [List.append_assoc] at hstalled ⊢
      exact hstalled
    · exact hexpired
  · exact hpolled

/-- **Every call keeps the counter right.** -/
theorem call {D : Type} [FloatArith D] [DecidableEq α] (h : LinkInvariant tr s) (c : Call α) :
    LinkInvariant (tr ++ (s.call D c).2) (s.call D c).1 := by
  cases c with
  | connectToStatus input => exact h.connectToStatus input
  | updateDiscoveredStatus bufferMax => exact h.unchanged rfl rfl
  | syncPointRate desired sent => exact h.syncPointRate desired sent
  | sendPoints input => exact h.sendPoints input
  | checkAcks now received => exact h.checkAcks now.time received
  | close => exact h.cleared rfl rfl

theorem outstanding_eq (h : LinkInvariant tr s) :
    s.pendingAckCount = s.inFlight.card ∧ s.pendingAckCount = outstanding tr :=
  ⟨h.card_eq, h.counter_eq⟩

theorem outstanding_nonneg (h : LinkInvariant tr s) {before : List LinkEvent}
    (hbefore : before <+: tr) : 0 ≤ outstanding before := by
  have hlawful := h.lawful.of_prefix (hbefore.filterMap LinkEvent.slot)
  rw [outstanding, hlawful.count_eq]
  exact Int.natCast_nonneg _

/-- What ends a packet has a fresh packet of its own before it. -/
theorem sent_before (h : LinkInvariant tr s) {number : UInt8} {before after : List LinkEvent}
    {e : LinkEvent} (htr : tr = before ++ e :: after) (he : e.Settles number) :
    ∃ earlier between, before = earlier ++ .sent number true :: between ∧
      ∀ e' ∈ between, ¬e'.Settles number ∧ e' ≠ .cleared := by
  have hslots : tr.filterMap LinkEvent.slot =
      before.filterMap LinkEvent.slot ++ .release number :: after.filterMap LinkEvent.slot := by
    rw [htr, List.filterMap_append, List.filterMap_cons_some he]
  obtain ⟨earlierSlots, betweenSlots, hbefore, hreleased, hcleared⟩ :=
    h.lawful.occupied_before hslots
  obtain ⟨earlier, rest, rfl, -, hrest⟩ := List.filterMap_eq_append_iff.mp hbefore
  obtain ⟨neutral, occupied, between, rfl, -, hoccupied, rfl⟩ :=
    List.filterMap_eq_cons_iff.mp hrest
  obtain rfl := LinkEvent.eq_sent hoccupied
  refine ⟨earlier ++ neutral, between, by rw [List.append_assoc], fun e' he' => ⟨fun hsettles => ?_,
    fun hclear => ?_⟩⟩
  · exact hreleased (List.mem_filterMap.mpr ⟨e', he', hsettles⟩)
  · exact hcleared (List.mem_filterMap.mpr ⟨e', he', congrArg LinkEvent.slot hclear⟩)

end LinkInvariant

/-! ## Every datagram is counted once at most -/

theorem handleDatagram_sublist [DecidableEq α] (now : TimePoint) (sender : Endpoint α)
    (bytes : List UInt8) (s : LaserCubeNetLink α) :
    ((s.handleDatagram now sender bytes).2.filterMap LinkEvent.acknowledgedNumber).Sublist
      (Received.ackNumber (.datagram sender bytes)).toList := by
  unfold handleDatagram
  split
  · split
    · exact List.nil_sublist _
    · exact List.nil_sublist _
  simp only
  split
  · split
    · exact List.nil_sublist _
    · exact List.nil_sublist _
  split
  · exact List.nil_sublist _
  rename_i hlength hcommand
  have hnumber : Received.ackNumber (.datagram sender bytes) = some ((bytes.take 4).getD 1 0) :=
    if_pos ⟨not_not.mp hlength, not_not.mp hcommand⟩
  rw [hnumber, handleAck]
  simp only
  split
  · exact List.nil_sublist _
  · split
    · exact List.Sublist.refl _
    · exact List.Sublist.refl _

theorem pollAcks_sublist [DecidableEq α] (now : TimePoint) (polls : ℕ)
    (received : List (Received α)) (s : LaserCubeNetLink α) :
    ((pollAcks now polls received s).2.filterMap LinkEvent.acknowledgedNumber).Sublist
      (received.filterMap Received.ackNumber) := by
  induction polls generalizing s received with
  | zero => exact List.nil_sublist _
  | succ polls ih =>
    cases received with
    | nil => exact List.nil_sublist _
    | cons first rest =>
      cases first with
      | timedOut => exact List.nil_sublist _
      | failed => exact List.nil_sublist _
      | datagram sender bytes =>
        have hfirst := handleDatagram_sublist now sender bytes s
        have hrest := ih rest (s.handleDatagram now sender bytes).1
        have hnumbers : (Received.datagram sender bytes :: rest).filterMap Received.ackNumber =
            (Received.ackNumber (.datagram sender bytes)).toList ++
              rest.filterMap Received.ackNumber := by
          rw [List.filterMap_cons]
          cases Received.ackNumber (.datagram sender bytes) <;> rfl
        rw [pollAcks, hnumbers]
        simp only [List.filterMap_append]
        exact hfirst.append hrest

theorem expireSlots_acknowledges (now : TimePoint) (numbers : List UInt8)
    (s : LaserCubeNetLink α) :
    (expireSlots now numbers s).2.filterMap LinkEvent.acknowledgedNumber = [] := by
  induction numbers generalizing s with
  | nil => rfl
  | cons number rest ih =>
    rw [expireSlots]
    split
    · exact ih (s.freeSlot number)
    · exact ih s

theorem checkAcks_sublist [DecidableEq α] (now : TimePoint) (received : List (Received α))
    (s : LaserCubeNetLink α) :
    ((s.checkAcks now received).2.filterMap LinkEvent.acknowledgedNumber).Sublist
      (received.filterMap Received.ackNumber) := by
  have hpolled := pollAcks_sublist now maxAckPollsPerCall received s
  unfold checkAcks
  split
  · exact List.nil_sublist _
  simp only
  generalize pollAcks now maxAckPollsPerCall received s = polled at hpolled ⊢
  have hexpired := expireSlots_acknowledges now numbers polled.1
  split
  · generalize expireSlots now numbers polled.1 = expired at hexpired ⊢
    split
    · have hwarned : (expired.1.warnOfWait now).2.filterMap LinkEvent.acknowledgedNumber = [] := by
        unfold warnOfWait
        split <;> rfl
      generalize expired.1.warnOfWait now = warned at hwarned ⊢
      have hstalled : (warned.1.checkStall now).2.filterMap LinkEvent.acknowledgedNumber = [] := by
        unfold checkStall
        split <;> rfl
      simp only [List.filterMap_append, hexpired, hwarned, hstalled, List.append_nil]
      exact hpolled
    · simp only [List.filterMap_append, hexpired, List.append_nil]
      exact hpolled
  · exact hpolled

theorem sendPacket_acknowledges (sentAt : Option ClockReading) (s : LaserCubeNetLink α) :
    (s.sendPacket sentAt).2.filterMap LinkEvent.acknowledgedNumber = [] := by
  unfold sendPacket
  split <;> rfl

theorem sendPoints_acknowledges (D : Type) [FloatArith D] (input : SendInput)
    (s : LaserCubeNetLink α) :
    (s.sendPoints D input).2.filterMap LinkEvent.acknowledgedNumber = [] := by
  unfold sendPoints
  simp only
  split
  · exact sendPacket_acknowledges _ _
  · rfl

theorem call_sublist (D : Type) [FloatArith D] [DecidableEq α] (s : LaserCubeNetLink α)
    (c : Call α) :
    ((s.call D c).2.filterMap LinkEvent.acknowledgedNumber).Sublist c.ackNumbers := by
  cases c with
  | connectToStatus input =>
    rw [call, connectToStatus]
    split <;> exact List.nil_sublist _
  | updateDiscoveredStatus bufferMax => exact List.nil_sublist _
  | syncPointRate desired sent =>
    rw [call, syncPointRate]
    split
    · exact List.nil_sublist _
    · split <;> exact List.nil_sublist _
  | sendPoints input =>
    rw [call, sendPoints_acknowledges]
    exact List.nil_sublist _
  | checkAcks now received => exact checkAcks_sublist now.time received s
  | close => exact List.nil_sublist _

/-- The acknowledgements that are counted are some of the datagrams received, in their order. -/
theorem run_sublist {D : Type} [FloatArith D] [DecidableEq α] {calls : List (Call α)}
    (hrun : run (step D) s calls = some (s', o)) :
    (o.filterMap LinkEvent.acknowledgedNumber).Sublist (calls.flatMap Call.ackNumbers) := by
  induction calls generalizing s o with
  | nil =>
    cases hrun
    exact List.nil_sublist _
  | cons c calls ih =>
    obtain ⟨s₁, o₁, o₂, hstep, hrest, rfl⟩ := run_cons_eq_some.mp hrun
    obtain ⟨rfl, rfl⟩ := Prod.ext_iff.mp (Option.some.inj hstep)
    rw [List.filterMap_append, List.flatMap_cons]
    exact (call_sublist D s c).append (ih hrest)

/-- **The counter is exact.** After any calls it is the number of occupied slots, and the fresh
packets less what ended them, which is never negative. Each acknowledgement and each expiry that is
counted ends a fresh packet that nothing ended before, and no datagram is counted twice. -/
theorem pendingAckCount_exact (D : Type) [FloatArith D] [DecidableEq α] (dataEndpoint : Endpoint α)
    (calls : List (Call α)) :
    ∃ s o, run (step D) (new dataEndpoint) calls = some (s, o) ∧
      s.pendingAckCount = s.inFlight.card ∧ s.pendingAckCount = outstanding o ∧
      (∀ before, before <+: o → 0 ≤ outstanding before) ∧
      (∀ number before e after, o = before ++ e :: after → e.Settles number →
        ∃ earlier between, before = earlier ++ .sent number true :: between ∧
          ∀ e' ∈ between, ¬e'.Settles number ∧ e' ≠ .cleared) ∧
      (o.filterMap LinkEvent.acknowledgedNumber).Sublist (calls.flatMap Call.ackNumbers) := by
  obtain ⟨s, o, hrun, -⟩ : ∃ s o, run (step D) (new dataEndpoint) calls = some (s, o) ∧ True :=
    run_total (I := fun _ => True) (fun s c _ => ⟨_, _, rfl, trivial⟩) trivial calls
  have hstart : LinkInvariant [] (new dataEndpoint) := Tracks.start
  have hinv : LinkInvariant ([] ++ o) s :=
    run_invariant (I := LinkInvariant) (fun tr s c s' o h _ hstep => by
      obtain ⟨rfl, rfl⟩ := Prod.ext_iff.mp (Option.some.inj hstep)
      exact h.call c) hstart
      (Along.of_forall (P := fun _ => True) (fun _ _ => trivial) [] _) hrun
  rw [List.nil_append] at hinv
  exact ⟨s, o, hrun, hinv.outstanding_eq.1, hinv.outstanding_eq.2,
    fun before => hinv.outstanding_nonneg,
    fun number before e after => hinv.sent_before, run_sublist hrun⟩

end LaserCubeNetLink

end LiberaLaser
