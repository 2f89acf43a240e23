import LiberaLaser.Core.LaserPoint
import LiberaLaser.Foundations.ByteString
import LiberaLaser.Foundations.Runs
import LiberaLaser.Foundations.Streaks
import LiberaLaser.Foundations.Traces

/-!
# The health of an IDN controller

A worker pings the host of the controller every two seconds, as long as the manager knows its
address. One ping that fails says nothing; from the third in a row on a warning is recorded, of the
kind of the failure if the host ever answered, and otherwise that it was last discovered too long
ago. The calls that set the address and note that the host was seen come at any time, and so do the
calls that start and stop the worker.

A pass of the worker takes the address that is set and the next number, and then sends its ping
there, whatever is set by then. Warnings are recorded exactly as they are due, only an answer with
the number of the ping from the address of the host counts, and no more than one ping is sent after
the worker was told to stop (`HealthMonitor.monitor_lawful`).

The layout of a packet, its commands and the reading of an address are those of the IDN library and
of the platform. Times and results that only a panel reads are left out.
-/

namespace LiberaLaser.Idn

open Runs Traces Streaks

/-! ## A ping -/

structure HealthEndpoint where
  ip : ByteString
  port : UInt16
  deriving DecidableEq

inductive HealthProbeResult
  | unknown
  | ok
  | timeout
  | sendFailed
  | receiveFailed
  | protocolError
  | invalidEndpoint
  | socketError
  deriving DecidableEq

def isUsableEndpoint (endpoint : HealthEndpoint) : Bool := endpoint.ip ≠ [] && endpoint.port ≠ 0

def errorResultForPingFailure : HealthProbeResult → HealthProbeResult
  | .timeout => .timeout
  | .protocolError => .protocolError
  | _ => .socketError

def errorTypeForPingFailure (result : HealthProbeResult) : String :=
  match errorResultForPingFailure result with
  | .timeout => "idn.ping_timeout"
  | .protocolError => "idn.ping_protocol_error"
  | _ => "idn.ping_failed"

/-- The size of a header, the command of an answer to a ping, and the address in a text. -/
structure IdnNetwork where
  headerSize : ℤ
  pingResponse : UInt8
  parseIpv4Address : ByteString → Option UInt32

/-- What is received: how many bytes, negative after an error, from where, and its header. -/
structure Datagram where
  receivedBytes : ℤ
  address : UInt32
  command : UInt8
  sequence : UInt16

/-- What a pass of the wait for an answer brings. -/
inductive PingPoll
  | selectFailed
  | received (datagram : Datagram)

variable (net : IdnNetwork)

/-- The datagram answers the ping with a number. -/
def Datagram.Answers (datagram : Datagram) (address : UInt32) (sequence : UInt16) : Prop :=
  net.headerSize ≤ datagram.receivedBytes ∧ datagram.address = address ∧
    datagram.command = net.pingResponse ∧ datagram.sequence = sequence

/-- The loop of `pingEndpoint` that waits for an answer. It ends with the passes, by the deadline or
as nothing comes. -/
def awaitResponse (address : UInt32) (sequence : UInt16) : List PingPoll → HealthProbeResult
  | [] => .timeout
  | .selectFailed :: _ => .receiveFailed
  | .received datagram :: polls =>
    if datagram.receivedBytes < net.headerSize then .protocolError
    else if datagram.address ≠ address then awaitResponse address sequence polls
    else if datagram.command ≠ net.pingResponse then awaitResponse address sequence polls
    else if datagram.sequence ≠ sequence then awaitResponse address sequence polls
    else .ok

/-- `pingEndpoint` up to that loop: the address that the ping was sent to, or how it failed. -/
def pingEndpoint (endpoint : HealthEndpoint) (opened sent : Bool) :
    Except HealthProbeResult UInt32 :=
  if !isUsableEndpoint endpoint then .error .invalidEndpoint
  else
    match net.parseIpv4Address endpoint.ip with
    | none => .error .invalidEndpoint
    | some address =>
      if !opened then .error .socketError
      else if !sent then .error .sendFailed
      else .ok address

/-! ## The monitor -/

/-- Where the worker is: not there, at the test of its loop, past it, about to send a ping, waiting
for its answer, or asleep. -/
inductive HealthPhase
  | finished
  | looking
  | choosing
  | probing (endpoint : HealthEndpoint) (sequence : UInt16)
  | awaiting (address : UInt32) (sequence : UInt16)
  | sleeping

structure HealthMonitor where
  healthEndpoint : Option HealthEndpoint := none
  healthRunning : Bool := false
  nextPingSequence : ℕ := 1
  /-- Zero if the host was not seen yet. -/
  lastDiscoverySeen : TimePoint := 0
  consecutivePingFailures : ℕ := 0
  pingEverSucceeded : Bool := false
  phase : HealthPhase := .finished

inductive MonitorEvent
  | given (endpoint : Option HealthEndpoint)
  | discovered (time : TimePoint)
  | started
  | stopped
  | finished
  | missing
  | chosen (endpoint : HealthEndpoint) (sequence : UInt16)
  | pinged (endpoint : HealthEndpoint) (sequence : UInt16)
  | answered (polls : List PingPoll)
  | unanswered (result : HealthProbeResult) (time : TimePoint) (warning : Option String)

def discoveryStaleAfter : Duration := 75000000000

def failureWarningThreshold : ℕ := 3

/-- The calls of the manager, and the steps of the worker. -/
inductive MonitorStep
  | setHealthEndpoint (endpoint : HealthEndpoint)
  | noteDiscoverySeen (now : TimePoint)
  | startHealthMonitoring
  | stopHealthMonitoring
  | look
  | choose
  | probe (opened sent : Bool) (now : TimePoint)
  | await (polls : List PingPoll) (now : TimePoint)
  | wake

namespace HealthMonitor

variable (m : HealthMonitor)

/-- The warning that a failure brings, with the counter after it. -/
def warning (result : HealthProbeResult) (now : TimePoint) : Option String :=
  let discoveryIsStale :=
    m.lastDiscoverySeen ≠ 0 && discoveryStaleAfter ≤ now - m.lastDiscoverySeen
  if failureWarningThreshold ≤ m.consecutivePingFailures + 1 then
    if m.pingEverSucceeded then some (errorTypeForPingFailure result)
    else if discoveryIsStale then some "idn.discovery_stale"
    else none
  else none

/-- What a failed ping leaves. -/
def fail (result : HealthProbeResult) (now : TimePoint) : HealthMonitor × List MonitorEvent :=
  ({ m with
     consecutivePingFailures := m.consecutivePingFailures + 1
     phase := .sleeping }, [.unanswered result now (m.warning result now)])

/-- A step. The worker starts again only after the stop before has waited for its end. -/
def step : MonitorStep → Option (HealthMonitor × List MonitorEvent)
  | .setHealthEndpoint endpoint =>
    let endpoint := if isUsableEndpoint endpoint then some endpoint else none
    some ({ m with healthEndpoint := endpoint }, [.given endpoint])
  | .noteDiscoverySeen now => some ({ m with lastDiscoverySeen := now }, [.discovered now])
  | .startHealthMonitoring =>
    if m.healthRunning then some (m, [])
    else
      match m.phase with
      | .finished => some ({ m with healthRunning := true, phase := .looking }, [.started])
      | _ => none
  | .stopHealthMonitoring => some ({ m with healthRunning := false }, [.stopped])
  | .look =>
    match m.phase with
    | .looking =>
      if m.healthRunning then some ({ m with phase := .choosing }, [])
      else some ({ m with phase := .finished }, [.finished])
    | _ => none
  | .choose =>
    match m.phase with
    | .choosing =>
      match m.healthEndpoint with
      | none => some ({ m with consecutivePingFailures := 0, phase := .sleeping }, [.missing])
      | some endpoint =>
        let sequence := UInt16.ofNat m.nextPingSequence
        some
          ({ m with
             nextPingSequence := m.nextPingSequence + 1
             phase := .probing endpoint sequence }, [.chosen endpoint sequence])
    | _ => none
  | .probe opened sent now =>
    match m.phase with
    | .probing endpoint sequence =>
      match pingEndpoint net endpoint opened sent with
      | .error result => some (m.fail result now)
      | .ok address =>
        some ({ m with phase := .awaiting address sequence }, [.pinged endpoint sequence])
    | _ => none
  | .await polls now =>
    match m.phase with
    | .awaiting address sequence =>
      let result := awaitResponse net address sequence polls
      if result = .ok then
        some
          ({ m with
             consecutivePingFailures := 0
             pingEverSucceeded := true
             phase := .sleeping }, [.answered polls])
      else some (m.fail result now)
    | _ => none
  | .wake =>
    match m.phase with
    | .sleeping => some ({ m with phase := .looking }, [])
    | _ => none

end HealthMonitor

/-! ## What the events say -/

namespace MonitorEvent

def isGiven : MonitorEvent → Bool
  | .given _ => true
  | _ => false

def isDiscovered : MonitorEvent → Bool
  | .discovered _ => true
  | _ => false

def isChosen : MonitorEvent → Bool
  | .chosen _ _ => true
  | _ => false

def isPinged : MonitorEvent → Bool
  | .pinged _ _ => true
  | _ => false

def isAnswered : MonitorEvent → Bool
  | .answered _ => true
  | _ => false

def isUnanswered : MonitorEvent → Bool
  | .unanswered _ _ _ => true
  | _ => false

/-- The warning that is recorded. -/
def recorded : MonitorEvent → Option String
  | .unanswered _ _ warning => warning
  | _ => none

/-- The failures before it do not count any more. -/
def forgives : MonitorEvent → Bool
  | .answered _ | .missing => true
  | _ => false

end MonitorEvent

open MonitorEvent

/-- The address that was set last. -/
def GivenLast (endpoint : HealthEndpoint) : List MonitorEvent → Prop :=
  Since (· = .given (some endpoint)) (·.isGiven = false)

/-- When the host was seen last. -/
def SeenLast (time : TimePoint) : List MonitorEvent → Prop :=
  Since (· = .discovered time) (·.isDiscovered = false)

/-- The address and the number that were chosen last, and not yet pinged. -/
def ChosenLast (endpoint : HealthEndpoint) (sequence : UInt16) : List MonitorEvent → Prop :=
  Since (· = .chosen endpoint sequence) fun e => e.isChosen = false ∧ e.isPinged = false

/-- The ping that was sent last, and none was chosen since. -/
def PingedLast (endpoint : HealthEndpoint) (sequence : UInt16) : List MonitorEvent → Prop :=
  Since (· = .pinged endpoint sequence) fun e => e.isChosen = false ∧ e.isPinged = false

/-- The worker is there. -/
def WorkerThere : List MonitorEvent → Prop := Since (· = .started) (· ≠ .finished)

/-- The worker was told to stop, and not to start again. -/
def Stopping : List MonitorEvent → Prop := Since (· = .stopped) (· ≠ .started)

/-- A ping was sent after the worker was told to stop, which did not start again. -/
def PingedAfterStop (tr : List MonitorEvent) : Prop :=
  ∃ before after, tr = before ++ after ∧ Stopping before ∧
    (∃ e ∈ after, e.isPinged) ∧ ∀ e ∈ after, e ≠ .started

/-- Pings failed in a row up to the end. -/
def FailedInARow (count : ℕ) (tr : List MonitorEvent) : Prop :=
  ∃ recent, recent <:+ tr ∧ (∀ e ∈ recent, e.forgives = false) ∧
    count ≤ recent.countP isUnanswered

/-- The warning that a failure calls for: of its kind if the host ever answered, and otherwise that
it was last seen too long ago. -/
def WarningDue (before : List MonitorEvent) (result : HealthProbeResult) (time : TimePoint)
    (code : String) : Prop :=
  FailedInARow 2 before ∧
    (((∃ e ∈ before, e.isAnswered) ∧ code = errorTypeForPingFailure result) ∨
      ((¬∃ e ∈ before, e.isAnswered) ∧ code = "idn.discovery_stale" ∧
        ∃ seen, seen ≠ 0 ∧ SeenLast seen before ∧ discoveryStaleAfter ≤ time - seen))

/-- What a choice, a ping, its answer and its failure call for. -/
def MonitorEvent.Lawful (before : List MonitorEvent) : MonitorEvent → Prop
  | .chosen endpoint sequence =>
    WorkerThere before ∧ GivenLast endpoint before ∧
      sequence = UInt16.ofNat (before.countP isChosen + 1)
  | .pinged endpoint sequence =>
    WorkerThere before ∧ ¬PingedAfterStop before ∧ ChosenLast endpoint sequence before
  | .answered polls =>
    ∃ endpoint sequence address datagram, PingedLast endpoint sequence before ∧
      net.parseIpv4Address endpoint.ip = some address ∧ .received datagram ∈ polls ∧
      datagram.Answers net address sequence
  | .unanswered result time warning =>
    ∀ code, warning = some code ↔ WarningDue before result time code
  | _ => True

/-- The worker may send a ping before it looks at its flag again. -/
def HealthPhase.mayPing : HealthPhase → Bool
  | .choosing | .probing _ _ => true
  | _ => false

/-- The members of the monitor are what the events say. -/
structure Tracks (tr : List MonitorEvent) (m : HealthMonitor) : Prop where
  lawful : Always (Lawful net) tr
  endpoint : ∀ endpoint, m.healthEndpoint = some endpoint ↔ GivenLast endpoint tr
  seen : ∀ time, time ≠ 0 → (m.lastDiscoverySeen = time ↔ SeenLast time tr)
  verified : m.pingEverSucceeded = true ↔ ∃ e ∈ tr, e.isAnswered
  failures : m.consecutivePingFailures = streak isUnanswered forgives tr
  chosen : m.nextPingSequence = tr.countP isChosen + 1
  there : m.phase ≠ .finished ↔ WorkerThere tr
  probing : ∀ endpoint sequence, m.phase = .probing endpoint sequence →
    ChosenLast endpoint sequence tr
  awaiting : ∀ address sequence, m.phase = .awaiting address sequence →
    ∃ endpoint, net.parseIpv4Address endpoint.ip = some address ∧ PingedLast endpoint sequence tr
  stopping : Stopping tr → m.healthRunning = false
  pinged : PingedAfterStop tr → m.phase.mayPing = false

variable {net : IdnNetwork} {tr o : List MonitorEvent} {m m' : HealthMonitor}

/-- An answer that counts came with the number of the ping, from the address of the host. -/
theorem exists_of_awaitResponse_eq_ok {address : UInt32} {sequence : UInt16}
    {polls : List PingPoll} (h : awaitResponse net address sequence polls = .ok) :
    ∃ datagram, .received datagram ∈ polls ∧ datagram.Answers net address sequence := by
  induction polls with
  | nil => cases h
  | cons poll polls ih =>
    have hlater (h : awaitResponse net address sequence polls = .ok) :
        ∃ datagram, .received datagram ∈ poll :: polls ∧ datagram.Answers net address sequence := by
      obtain ⟨datagram, hmem, hanswers⟩ := ih h
      exact ⟨datagram, List.mem_cons_of_mem _ hmem, hanswers⟩
    cases poll with
    | selectFailed => cases h
    | received datagram =>
      rw [awaitResponse] at h
      split at h
      · cases h
      · rename_i hsize
        split at h
        · exact hlater h
        · rename_i haddress
          split at h
          · exact hlater h
          · rename_i hcommand
            split at h
            · exact hlater h
            · rename_i hsequence
              exact ⟨datagram, List.mem_cons_self, Int.not_lt.mp hsize, not_not.mp haddress,
                not_not.mp hcommand, not_not.mp hsequence⟩

theorem parse_of_pingEndpoint_eq_ok {endpoint : HealthEndpoint} {opened sent : Bool}
    {address : UInt32} (h : pingEndpoint net endpoint opened sent = .ok address) :
    net.parseIpv4Address endpoint.ip = some address := by
  rw [pingEndpoint] at h
  split at h
  · cases h
  · split at h
    · cases h
    · rename_i haddress
      split at h
      · cases h
      · split at h
        · cases h
        · rwa [← Except.ok.inj h]

/-- The warning of the monitor is the one that is due. -/
theorem Tracks.warning_iff (h : Tracks net tr m) (result : HealthProbeResult) (now : TimePoint)
    (code : String) : m.warning result now = some code ↔ WarningDue tr result now code := by
  have hrow : FailedInARow 2 tr ↔ failureWarningThreshold ≤ m.consecutivePingFailures + 1 := by
    rw [FailedInARow, ← le_streak_iff, ← h.failures, failureWarningThreshold]
    omega
  have hstale : (∃ seen, seen ≠ 0 ∧ SeenLast seen tr ∧ discoveryStaleAfter ≤ now - seen) ↔
      m.lastDiscoverySeen ≠ 0 ∧ discoveryStaleAfter ≤ now - m.lastDiscoverySeen := by
    constructor
    · rintro ⟨seen, hne, hseen, hle⟩
      rw [(h.seen seen hne).mpr hseen]
      exact ⟨hne, hle⟩
    · rintro ⟨hne, hle⟩
      exact ⟨_, hne, (h.seen _ hne).mp rfl, hle⟩
  rw [WarningDue, hrow, hstale, ← h.verified, HealthMonitor.warning]
  by_cases hle : failureWarningThreshold ≤ m.consecutivePingFailures + 1
  · cases hverified : m.pingEverSucceeded with
    | true =>
      simp only [hle, if_true, true_and, not_true, false_and, or_false,
        Option.some.injEq]
      exact eq_comm
    | false =>
      simp only [hle, if_true, if_false, Bool.false_eq_true, Bool.and_eq_true, decide_eq_true_eq,
        true_and, false_and, false_or, not_false_eq_true, Option.ite_none_right_eq_some,
        Option.some.injEq]
      rw [and_comm, eq_comm]
  · simp [hle]

theorem PingedAfterStop.stopping (h : PingedAfterStop tr) : Stopping tr := by
  obtain ⟨before, after, rfl, hstopping, -, hafter⟩ := h
  exact hstopping.append hafter

/-- One more event after a stop. -/
theorem pingedAfterStop_concat {e : MonitorEvent} (h : PingedAfterStop (tr ++ [e])) :
    e ≠ .started ∧ (PingedAfterStop tr ∨ e.isPinged = true ∧ Stopping tr) := by
  obtain ⟨before, after, heq, hstopping, ⟨x, hx, hpinged⟩, hafter⟩ := h
  rcases List.eq_nil_or_concat' after with rfl | ⟨after, y, rfl⟩
  · cases hx
  · rw [← List.append_assoc] at heq
    obtain ⟨rfl, hlast⟩ := List.append_inj' heq rfl
    obtain rfl := List.singleton_inj.mp hlast
    have hquiet : ∀ e' ∈ after, e' ≠ .started := fun e' he' => hafter e' (by simp [he'])
    refine ⟨hafter e (by simp), ?_⟩
    rcases List.mem_append.mp hx with hx | hx
    · exact .inl ⟨before, after, rfl, hstopping, ⟨x, hx, hpinged⟩, hquiet⟩
    · rw [List.mem_singleton.mp hx] at hpinged
      exact .inr ⟨hpinged, hstopping.append hquiet⟩

/-- One more event, that changes the members of the monitor as it says. -/
theorem Tracks.concat (h : Tracks net tr m) {e : MonitorEvent} (hlawful : e.Lawful net tr)
    (hendpoint : ∀ endpoint, m'.healthEndpoint = some endpoint ↔
      e = .given (some endpoint) ∨ m.healthEndpoint = some endpoint ∧ e.isGiven = false)
    (hseen : ∀ time, m'.lastDiscoverySeen = time ↔
      e = .discovered time ∨ m.lastDiscoverySeen = time ∧ e.isDiscovered = false)
    (hverified : m'.pingEverSucceeded = (m.pingEverSucceeded || e.isAnswered))
    (hfailures : m'.consecutivePingFailures =
      next isUnanswered forgives m.consecutivePingFailures e)
    (hchosen : m'.nextPingSequence = m.nextPingSequence + [e].countP isChosen)
    (hthere : m'.phase ≠ .finished ↔ e = .started ∨ m.phase ≠ .finished ∧ e ≠ .finished)
    (hprobing : ∀ endpoint sequence, m'.phase = .probing endpoint sequence →
      e = .chosen endpoint sequence ∨
        m.phase = .probing endpoint sequence ∧ e.isChosen = false ∧ e.isPinged = false)
    (hawaiting : ∀ address sequence, m'.phase = .awaiting address sequence →
      (∃ endpoint, net.parseIpv4Address endpoint.ip = some address ∧
          e = .pinged endpoint sequence) ∨
        m.phase = .awaiting address sequence ∧ e.isChosen = false ∧ e.isPinged = false)
    (hstopping : m'.healthRunning = true →
      e ≠ .stopped ∧ (e = .started ∨ m.healthRunning = true))
    (hpinged : m'.phase.mayPing = true → m.phase.mayPing = true ∧ e.isPinged = false) :
    Tracks net (tr ++ [e]) m' where
  lawful := h.lawful.concat hlawful
  endpoint endpoint := by
    rw [hendpoint, GivenLast, since_concat, ← GivenLast, h.endpoint]
  seen time htime := by
    rw [hseen, SeenLast, since_concat, ← SeenLast, h.seen time htime]
  verified := by
    rw [hverified, Bool.or_eq_true, h.verified]
    simp [or_and_right, exists_or]
  failures := by
    rw [hfailures, streak_concat, h.failures]
  chosen := by
    rw [hchosen, List.countP_append, h.chosen]
    omega
  there := by
    rw [hthere, WorkerThere, since_concat, ← WorkerThere, h.there]
  probing endpoint sequence hphase := by
    rw [ChosenLast, since_concat]
    exact (hprobing endpoint sequence hphase).imp_right fun hkept =>
      ⟨h.probing endpoint sequence hkept.1, hkept.2⟩
  awaiting address sequence hphase := by
    rcases hawaiting address sequence hphase with ⟨endpoint, haddress, he⟩ | ⟨hkept, he⟩
    · exact ⟨endpoint, haddress, (since_concat e).mpr (.inl he)⟩
    · obtain ⟨endpoint, haddress, hpinged⟩ := h.awaiting address sequence hkept
      exact ⟨endpoint, haddress, (since_concat e).mpr (.inr ⟨hpinged, he⟩)⟩
  stopping hstop := by
    rw [Stopping, since_concat] at hstop
    by_contra hrunning
    obtain ⟨hne, hstarted⟩ := hstopping (by simpa using hrunning)
    obtain ⟨hbefore, he⟩ := hstop.resolve_left hne
    rw [h.stopping hbefore] at hstarted
    simp [he] at hstarted
  pinged hstop := by
    by_contra hmay
    obtain ⟨hmay, hnone⟩ := hpinged (by simpa using hmay)
    rcases (pingedAfterStop_concat hstop).2 with hbefore | ⟨he, -⟩
    · rw [h.pinged hbefore] at hmay
      cases hmay
    · rw [hnone] at he
      cases he

/-- A move of the worker from one place to another without an event. -/
theorem Tracks.move (h : Tracks net tr m) (phase : HealthPhase)
    (hthere : phase ≠ .finished ↔ m.phase ≠ .finished)
    (hprobing : ∀ endpoint sequence, phase ≠ .probing endpoint sequence)
    (hawaiting : ∀ address sequence, phase ≠ .awaiting address sequence)
    (hrunning : phase.mayPing = true → m.healthRunning = true) :
    Tracks net tr { m with phase := phase } where
  lawful := h.lawful
  endpoint := h.endpoint
  seen := h.seen
  verified := h.verified
  failures := h.failures
  chosen := h.chosen
  there := hthere.trans h.there
  probing endpoint sequence hphase := absurd hphase (hprobing endpoint sequence)
  awaiting address sequence hphase := absurd hphase (hawaiting address sequence)
  stopping := h.stopping
  pinged hstop := by
    by_contra hmay
    have hrunning := hrunning (by simpa using hmay)
    rw [h.stopping hstop.stopping] at hrunning
    cases hrunning

/-- A ping that fails. -/
theorem Tracks.fail (h : Tracks net tr m) (hthere : m.phase ≠ .finished)
    (result : HealthProbeResult) (now : TimePoint) :
    Tracks net (tr ++ (m.fail result now).2) (m.fail result now).1 :=
  h.concat (h.warning_iff result now) (by simp [HealthMonitor.fail, isGiven])
    (by simp [HealthMonitor.fail, isDiscovered]) (by simp [HealthMonitor.fail, isAnswered]) rfl rfl
    (by simp [HealthMonitor.fail, hthere]) (by simp [HealthMonitor.fail])
    (by simp [HealthMonitor.fail]) (fun hrunning => ⟨by simp, .inr hrunning⟩)
    (by simp [HealthMonitor.fail, HealthPhase.mayPing])

/-- **A step of the manager or of the worker** keeps the members what the events say. -/
theorem tracks_step {call : MonitorStep} (h : Tracks net tr m)
    (hs : m.step net call = some (m', o)) : Tracks net (tr ++ o) m' := by
  cases call with
  | setHealthEndpoint endpoint =>
    cases hs
    exact h.concat trivial (by simp [isGiven]) (by simp [isDiscovered]) (by simp [isAnswered])
      rfl rfl (by simp) (by simp [isChosen, isPinged]) (by simp [isChosen, isPinged])
      (fun hrunning => ⟨by simp, .inr hrunning⟩) (fun hphase => ⟨hphase, rfl⟩)
  | noteDiscoverySeen now =>
    cases hs
    exact h.concat trivial (by simp [isGiven]) (by simp [isDiscovered]) (by simp [isAnswered])
      rfl rfl (by simp) (by simp [isChosen, isPinged]) (by simp [isChosen, isPinged])
      (fun hrunning => ⟨by simp, .inr hrunning⟩) (fun hphase => ⟨hphase, rfl⟩)
  | startHealthMonitoring =>
    rw [HealthMonitor.step] at hs
    split at hs
    · cases hs
      rwa [List.append_nil]
    · split at hs
      · cases hs
        exact h.concat trivial (by simp [isGiven]) (by simp [isDiscovered]) (by simp [isAnswered])
          rfl rfl (by simp) (by simp) (by simp) (by simp) (by simp [HealthPhase.mayPing])
      · cases hs
  | stopHealthMonitoring =>
    cases hs
    exact h.concat trivial (by simp [isGiven]) (by simp [isDiscovered]) (by simp [isAnswered])
      rfl rfl (by simp) (by simp [isChosen, isPinged]) (by simp [isChosen, isPinged]) (by simp)
      (fun hphase => ⟨hphase, rfl⟩)
  | look =>
    rw [HealthMonitor.step] at hs
    split at hs
    · rename_i hphase
      split at hs
      · rename_i hrunning
        cases hs
        rw [List.append_nil]
        exact h.move .choosing (by simp [hphase]) (by simp) (by simp) fun _ => hrunning
      · cases hs
        exact h.concat trivial (by simp [isGiven]) (by simp [isDiscovered]) (by simp [isAnswered])
          rfl rfl (by simp) (by simp) (by simp) (fun hrunning => ⟨by simp, .inr hrunning⟩)
          (by simp [HealthPhase.mayPing])
    · cases hs
  | choose =>
    rw [HealthMonitor.step] at hs
    split at hs
    · rename_i hphase
      have hthere : m.phase ≠ .finished := by simp [hphase]
      have hmay : m.phase.mayPing = true := by rw [hphase]; rfl
      split at hs
      · cases hs
        exact h.concat trivial (by simp [isGiven]) (by simp [isDiscovered]) (by simp [isAnswered])
          rfl rfl (by simp [hthere]) (by simp) (by simp)
          (fun hrunning => ⟨by simp, .inr hrunning⟩) (by simp [HealthPhase.mayPing])
      · rename_i endpoint hendpoint
        cases hs
        refine h.concat ⟨h.there.mp hthere, (h.endpoint endpoint).mp hendpoint, ?_⟩
          (by simp [isGiven]) (by simp [isDiscovered]) (by simp [isAnswered]) rfl rfl
          (by simp [hthere]) (by simp) (by simp) (fun hrunning => ⟨by simp, .inr hrunning⟩)
          (fun _ => ⟨hmay, rfl⟩)
        rw [h.chosen]
    · cases hs
  | probe opened sent now =>
    rw [HealthMonitor.step] at hs
    split at hs
    · rename_i endpoint sequence hphase
      have hthere : m.phase ≠ .finished := by simp [hphase]
      have hmay : m.phase.mayPing = true := by rw [hphase]; rfl
      split at hs
      · cases hs
        exact h.fail hthere _ now
      · rename_i address hping
        cases hs
        refine h.concat ⟨h.there.mp hthere, fun hstop => ?_, h.probing endpoint sequence hphase⟩
          (by simp [isGiven]) (by simp [isDiscovered]) (by simp [isAnswered]) rfl rfl
          (by simp [hthere]) (by simp) ?_ (fun hrunning => ⟨by simp, .inr hrunning⟩)
          (by simp [HealthPhase.mayPing])
        · rw [h.pinged hstop] at hmay
          cases hmay
        · rintro address' sequence' ⟨⟩
          exact .inl ⟨endpoint, parse_of_pingEndpoint_eq_ok hping, rfl⟩
    · cases hs
  | await polls now =>
    rw [HealthMonitor.step] at hs
    split at hs
    · rename_i address sequence hphase
      have hthere : m.phase ≠ .finished := by simp [hphase]
      dsimp only at hs
      split at hs
      · rename_i hok
        cases hs
        obtain ⟨endpoint, haddress, hpinged⟩ := h.awaiting address sequence hphase
        obtain ⟨datagram, hmem, hanswers⟩ := exists_of_awaitResponse_eq_ok hok
        exact h.concat ⟨endpoint, sequence, address, datagram, hpinged, haddress, hmem, hanswers⟩
          (by simp [isGiven]) (by simp [isDiscovered]) (by simp [isAnswered]) rfl rfl
          (by simp [hthere]) (by simp) (by simp) (fun hrunning => ⟨by simp, .inr hrunning⟩)
          (by simp [HealthPhase.mayPing])
      · cases hs
        exact h.fail hthere _ now
    · cases hs
  | wake =>
    rw [HealthMonitor.step] at hs
    split at hs
    · rename_i hphase
      cases hs
      rw [List.append_nil]
      exact h.move .looking (by simp [hphase]) (by simp) (by simp) (by simp [HealthPhase.mayPing])
    · cases hs

/-- **Over any run** every ping goes to the address that was set last when its pass chose it, with
the number that was chosen with it, and at most one after a stop; only its own answer counts; and a
failure brings a warning exactly when one is due. -/
theorem HealthMonitor.monitor_lawful {calls : List MonitorStep}
    (h : run (HealthMonitor.step net) {} calls = some (m, tr)) : Always (Lawful net) tr := by
  have hinit : Tracks net [] {} := by
    refine ⟨always_nil, fun endpoint => ?_, fun time htime => ?_, by simp, rfl, rfl, ?_, by simp,
      by simp, fun _ => rfl, fun _ => rfl⟩
    · simp [GivenLast, not_since_nil]
    · simp [SeenLast, not_since_nil, Ne.symm htime]
    · simp [WorkerThere, not_since_nil]
  have hrun := run_invariant (I := fun tr m => Tracks net tr m) (G := fun _ _ _ => True)
    (fun _ _ _ _ _ h _ hs => tracks_step h hs) hinit (Along.of_forall (fun _ _ => trivial) _ _) h
  exact hrun.lawful

/-- A network with one host. -/
def oneHost : IdnNetwork where
  headerSize := 4
  pingResponse := 9
  parseIpv4Address := fun _ => some 1

/-- A pass of the worker with a ping. -/
def pingPass (polls : List PingPoll) (now : TimePoint) : List MonitorStep :=
  [.look, .choose, .probe true true now, .await polls now, .wake]

/-- A host that answers once and then no more. -/
def silentHost : List MonitorStep :=
  [.setHealthEndpoint ⟨[49], 7255⟩, .startHealthMonitoring] ++
    pingPass [.received ⟨4, 2, 9, 1⟩, .received ⟨4, 1, 9, 1⟩] 1 ++
    pingPass [] 2 ++ pingPass [] 3 ++ pingPass [.selectFailed] 4

theorem HealthMonitor.monitor_lawful_silent :
    ∃ m tr, run (HealthMonitor.step oneHost) {} silentHost = some (m, tr) ∧
      (tr.filterMap recorded).length = 1 ∧ Always (Lawful oneHost) tr := by
  have hlength : (run (HealthMonitor.step oneHost) {} silentHost).map
      (fun r => (r.2.filterMap recorded).length) = some 1 := by
    decide +kernel
  obtain ⟨⟨m, tr⟩, hrun, hlength⟩ := Option.map_eq_some_iff.mp hlength
  exact ⟨m, tr, hrun, hlength, monitor_lawful hrun⟩

end LiberaLaser.Idn
