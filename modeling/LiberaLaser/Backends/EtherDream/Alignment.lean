import LiberaLaser.Backends.EtherDream.Session
import LiberaLaser.Foundations.Traces

/-!
# Commands and responses stay aligned

Between two commands the stream of an open connection is in step, and no read has failed on it: a
command that fails after that is the last one before the connection is closed. The handshake alone
goes on after a failed read, in two places: where the greeting does not come in time, it asks for a
status on the same connection, and a version query that fails only turns the probe off. Where
neither happens, every response that is accepted answers its own command, and nothing is sent after
a failed read (`commands_aligned`). Where the greeting is late, it is accepted as the response to
the ping.
-/

namespace LiberaLaser

open ReplyStream Traces Runs

namespace ConnectionEvent

def isReadFailure : ConnectionEvent → Bool
  | .readFailed => true
  | _ => false

def isConnect : ConnectionEvent → Bool
  | .connected => true
  | _ => false

def isCommand : ConnectionEvent → Bool
  | .sent _ _ => true
  | _ => false

/-- Everything that is accepted answers its own command. -/
def Aligned (log : List ConnectionEvent) : Prop :=
  ∀ n answered, accepted n answered ∈ log → ∀ m ∈ answered, m = n

/-- No command is sent on a connection after a read has failed on it. -/
def QuietAfterFailure (log : List ConnectionEvent) : Prop :=
  Quiet isReadFailure isConnect isCommand log

/-- The event is no command, no failure, no connection and no acknowledgement. -/
def Neutral : ConnectionEvent → Prop
  | .received _ _ | .recovery _ => True
  | _ => False

theorem Aligned.append {log o : List ConnectionEvent} (h : Aligned log) (ho : Aligned o) :
    Aligned (log ++ o) := by
  intro n answered hmem
  rcases List.mem_append.mp hmem with hmem | hmem
  · exact h n answered hmem
  · exact ho n answered hmem

theorem aligned_of_forall_ne {o : List ConnectionEvent}
    (h : ∀ n answered, accepted n answered ∉ o) : Aligned o :=
  fun n answered hmem => absurd hmem (h n answered)

end ConnectionEvent

namespace EtherDreamSession

open ConnectionEvent

/-- What holds of the log at any time. -/
structure Sound (s : EtherDreamSession) : Prop where
  aligned : Aligned s.log
  quiet : QuietAfterFailure s.log

/-- No read has failed since the connection was made. -/
def Unspoilt (s : EtherDreamSession) : Prop := Spoilt isReadFailure isConnect s.log = false

/-- What holds between two commands. -/
structure Synced (s : EtherDreamSession) : Prop extends Sound s where
  inStep : s.isOpen = true → s.stream.InStep
  unspoilt : s.isOpen = true → s.Unspoilt

variable {s s' : EtherDreamSession}

/-- Neutral events may be recorded. -/
theorem Sound.neutral (h : Sound s) {o : List ConnectionEvent} (hlog : s'.log = s.log ++ o)
    (ho : ∀ e ∈ o, e.Neutral) : Sound s' where
  aligned := by
    rw [hlog]
    exact h.aligned.append (aligned_of_forall_ne fun n answered hmem => ho _ hmem)
  quiet := by
    rw [hlog]
    refine h.quiet.append fun e he before hcommand => ?_
    have hneutral := ho e he
    cases e <;> first | exact hneutral.elim | cases hcommand

theorem Unspoilt.neutral (h : Unspoilt s) {o : List ConnectionEvent} (hlog : s'.log = s.log ++ o)
    (ho : ∀ e ∈ o, e.Neutral) : Unspoilt s' := by
  rw [Unspoilt, hlog, spoilt_append_neutral]
  · exact h
  · intro e he
    have hneutral := ho e he
    cases e <;> first | exact ⟨rfl, rfl⟩ | exact hneutral.elim

/-- A command goes out on a connection without a failure. -/
theorem sound_written (h : Sound s) (hclean : Unspoilt s) (command : EtherDreamCommand)
    (reply : List UInt8) :
    Sound (s.written command reply) ∧ Unspoilt (s.written command reply) := by
  refine ⟨⟨?_, h.quiet.concat fun _ => hclean⟩, ?_⟩
  · exact h.aligned.append (aligned_of_forall_ne (by simp))
  · exact (spoilt_concat _).trans hclean

theorem Sound.readFailed (h : Sound s) : Sound (s.record [.readFailed]) where
  aligned := h.aligned.append (aligned_of_forall_ne (by simp))
  quiet := h.quiet.concat nofun

/-- An acknowledgement that answers its own command. -/
theorem sound_accepted (h : Sound s) (hclean : Unspoilt s) {n : ℕ} {bytes : List (ℕ × UInt8)}
    (hbytes : Answers n bytes) :
    Sound (s.record [.accepted n (bytes.map Prod.fst)]) ∧
      Unspoilt (s.record [.accepted n (bytes.map Prod.fst)]) := by
  refine ⟨⟨h.aligned.append fun n' answered hmem => ?_, h.quiet.concat nofun⟩, ?_⟩
  · obtain ⟨rfl, rfl⟩ := ConnectionEvent.accepted.inj (List.mem_singleton.mp hmem)
    intro m hm
    obtain ⟨b, hb, rfl⟩ := List.mem_map.mp hm
    exact hbytes b hb
  · exact (spoilt_concat _).trans hclean

theorem Sound.handleNetworkFailure (h : Sound s) : Synced s.handleNetworkFailure where
  aligned := h.aligned
  quiet := h.quiet
  inStep := nofun
  unspoilt := nofun

theorem Synced.modify (h : Synced s) (f : EtherDreamController → EtherDreamController) :
    Synced (s.modify f) where
  aligned := h.aligned
  quiet := h.quiet
  inStep := h.inStep
  unspoilt := h.unspoilt

theorem Synced.setController (h : Synced s) (c : EtherDreamController) :
    Synced { s with controller := c } :=
  h.modify fun _ => c

theorem Synced.close (h : Synced s) : Synced s.close where
  aligned := h.aligned
  quiet := h.quiet
  inStep := nofun
  unspoilt := nofun

variable {D : Type} [FloatArith D]

/-! ## A wait -/

/-- Hearing a status leaves the read stream, and neutral events. -/
theorem sound_hears (h : Sound s) (hclean : Unspoilt s) (stream : ReplyStream UInt8) (wait : Wait)
    (status : EtherDreamStatus) :
    Sound (s.hears D stream wait status) ∧ Unspoilt (s.hears D stream wait status) := by
  have hneutral : ∀ e ∈ ConnectionEvent.received status
      ((s.adjust wait).controller.updatePlaybackRequirements D status wait.now).1.thresholdAtReceipt
      :: ((s.adjust wait).controller.updatePlaybackRequirements D status wait.now).2.map
        .recovery, e.Neutral := by
    intro e he
    rcases List.mem_cons.mp he with rfl | he
    · trivial
    · obtain ⟨event, -, rfl⟩ := List.mem_map.mp he
      trivial
  exact ⟨h.neutral rfl hneutral, hclean.neutral rfl hneutral⟩

/-- **A wait on a stream that is due to answer request `n`**: what a complete read accepts answers
that request, and the stream is in step after it; a read that fails leaves the log sound. -/
theorem WaitCase.sound {running allowWhileStopping : Bool} {n : ℕ} {wait : Wait}
    {result : CommandResult} (hcase : WaitCase D s running allowWhileStopping n wait s' result)
    (h : Sound s) (hclean : Unspoilt s) {reply : List UInt8}
    (hread : s.stream.readExact 22 .complete = (⟨[], n⟩, some (reply.map (n, ·)))) :
    Sound s' ∧
      (Synced s' ∨ ∃ kind, result = .error kind ∧
        ((running = false ∧ allowWhileStopping = false ∨ s.isOpen = false) ∨
          wait.outcome ≠ .complete ∧ kind = .networkFailure)) := by
  -- a read that shows bytes was complete
  have hcomplete : ∀ {stream : ReplyStream UInt8} {bytes : List (ℕ × UInt8)},
      s.stream.readExact 22 wait.outcome = (stream, some bytes) →
      stream = ⟨[], n⟩ ∧ bytes = reply.map (n, ·) := by
    intro stream bytes hbytes
    cases houtcome : wait.outcome with
    | complete =>
      rw [houtcome, hread] at hbytes
      simp only [Prod.mk.injEq, Option.some.injEq] at hbytes
      exact ⟨hbytes.1.symm, hbytes.2.symm⟩
    | failed consumed =>
      rw [houtcome] at hbytes
      cases hbytes
  cases hcase with
  | unread hunread => exact ⟨h, Or.inr ⟨_, rfl, Or.inl hunread⟩⟩
  | @failed stream hfailed =>
    have hsound : Sound ({ s with stream := stream }.adjust wait) := ⟨h.aligned, h.quiet⟩
    refine ⟨hsound.readFailed, Or.inr ⟨_, rfl, Or.inr ⟨fun houtcome => ?_, rfl⟩⟩⟩
    rw [houtcome, hread] at hfailed
    cases hfailed
  | @heard stream bytes hbytes status kind =>
    obtain ⟨rfl, -⟩ := hcomplete hbytes
    obtain ⟨hsound, hclean'⟩ := sound_hears (D := D) h hclean ⟨[], n⟩ wait status
    exact ⟨hsound, Or.inl ⟨hsound, fun _ => rfl, fun _ => hclean'⟩⟩
  | @rejected stream bytes hbytes status command kind =>
    obtain ⟨rfl, -⟩ := hcomplete hbytes
    obtain ⟨hsound, hclean'⟩ := sound_hears (D := D) h hclean ⟨[], n⟩ wait status
    have hsynced : Synced ((s.hears D ⟨[], n⟩ wait status).handleRejection command) := by
      unfold handleRejection
      have hheard : Synced (s.hears D ⟨[], n⟩ wait status) :=
        ⟨hsound, fun _ => rfl, fun _ => hclean'⟩
      split
      · exact hheard.modify _
      · exact hheard
    exact ⟨hsynced.toSound, Or.inl hsynced⟩
  | @accepted stream bytes hbytes status =>
    obtain ⟨rfl, rfl⟩ := hcomplete hbytes
    obtain ⟨hsound, hclean'⟩ := sound_hears (D := D) h hclean ⟨[], n⟩ wait status
    obtain ⟨hsound', hclean''⟩ := sound_accepted hsound hclean' (answers_map n reply)
    exact ⟨hsound', Or.inl ⟨hsound', fun _ => rfl, fun _ => hclean''⟩⟩

/-- **A command between two commands.** -/
theorem Synced.sendCommand (h : Synced s) (command : EtherDreamCommand) (allowWhileStopping : Bool)
    (exchange : Exchange) :
    Sound (s.sendCommand D command allowWhileStopping exchange).1 ∧
      (shouldCloseConnectionAfterCommandFailure
          (s.sendCommand D command allowWhileStopping exchange).2 = false →
        Synced (s.sendCommand D command allowWhileStopping exchange).1) := by
  rcases s.sendCommand_cases (D := D) command allowWhileStopping exchange with
    ⟨kind, hsend, -⟩ | ⟨-, hopen, -, hsend⟩
  · rw [hsend]
    exact ⟨h.toSound, fun _ => h⟩
  · rw [hsend]
    obtain ⟨hsound, hclean⟩ := sound_written h.toSound (h.unspoilt hopen) command
      exchange.reply.toList
    have hread := readExact_request (exchange.reply.length_toList) (h.inStep hopen)
    obtain ⟨hsound', hcase⟩ := (waitForResponse_cases (D := D)
      (s.written command exchange.reply.toList) command exchange.running true
      (s.stream.requests + 1) exchange.toWait).sound hsound hclean hread
    refine ⟨hsound', fun hkeep => ?_⟩
    rcases hcase with hsynced | ⟨kind, hresult, hunread | ⟨-, rfl⟩⟩
    · exact hsynced
    · have hopen' : (s.written command exchange.reply.toList).isOpen = true := hopen
      simp [hopen'] at hunread
    · rw [hresult] at hkeep
      cases hkeep

/-- **Between two commands the connection is in step.** -/
theorem sessionInvariant_synced : SessionInvariant D Synced Sound where
  modify h _ := h.setController _
  command allowWhileStopping exchange h _ := h.sendCommand _ allowWhileStopping exchange
  handleNetworkFailure h := h.handleNetworkFailure
  close h := h.close

/-! ## The handshake -/

/-- No command follows a failed read of the handshake: the greeting comes, or no ping is written
where it does not, and the answer to a version query comes. -/
structure CleanHandshake (handshake : Handshake) : Prop where
  greeting : handshake.running = true → handshake.wait.outcome = .complete ∨
    handshake.ping.running = false ∨ handshake.ping.written = false
  version : handshake.version.written = true → handshake.version.outcome = .complete

/-- The turn makes no connection whose handshake goes on after a failed read. -/
def CleanTurn : EtherDreamTurn → Prop
  | .connect handshake => CleanHandshake handshake
  | _ => True

/-- A version query whose answer comes. -/
theorem Synced.probe (h : Synced s) {exchange : VersionExchange}
    (hanswer : exchange.written = true → exchange.outcome = .complete) :
    Synced (s.probeFirmwareVersionOnExistingConnection exchange) := by
  obtain ⟨s', f, hquery, -, hprobe⟩ := s.probe_cases exchange
  rw [hprobe]
  refine Synced.modify ?_ f
  cases hquery with
  | unsent => exact h
  | failed hopen hwritten hread =>
    rw [hanswer hwritten, readExact_request exchange.reply.length_toList (h.inStep hopen)] at hread
    cases hread
  | answered hopen hwritten hread =>
    rw [hanswer hwritten, readExact_request exchange.reply.length_toList (h.inStep hopen)] at hread
    simp only [Prod.mk.injEq, Option.some.injEq] at hread
    obtain ⟨rfl, rfl⟩ := hread
    obtain ⟨hsound, hclean⟩ := sound_written h.toSound (h.unspoilt hopen) .version
      exchange.reply.toList
    have hread' : Sound { s.written .version exchange.reply.toList with
        stream := ⟨[], s.stream.requests + 1⟩ } := ⟨hsound.aligned, hsound.quiet⟩
    obtain ⟨hsound', hclean'⟩ := sound_accepted hread' hclean
      (answers_map (s.stream.requests + 1) exchange.reply.toList)
    exact ⟨hsound', fun _ => rfl, fun _ => hclean'⟩

theorem Synced.greetedWith (h : Synced s) (status : EtherDreamStatus) {handshake : Handshake}
    (hclean : CleanHandshake handshake) : Synced (s.greetedWith status handshake) :=
  (h.modify _).probe hclean.version

/-- A new connection starts without a failure. -/
theorem sound_connected (h : Sound s) (handshake : Handshake) :
    Sound (s.connected handshake) ∧ Unspoilt (s.connected handshake) :=
  ⟨⟨h.aligned.append (aligned_of_forall_ne (by simp)), h.quiet.concat nofun⟩, spoilt_concat _⟩

/-- **A clean handshake leaves the connection in step**, whether it succeeds or not. -/
theorem synced_performHandshake (h : Sound s) {handshake : Handshake}
    (hclean : CleanHandshake handshake) :
    Synced ((s.connected handshake).performHandshake D handshake).1 := by
  obtain ⟨hsound, hunspoilt⟩ := sound_connected h handshake
  have hread := readExact_greet (handshake.greeting.length_toList)
  have hwait := waitForResponse_cases (D := D) (s.connected handshake) .ping handshake.running
    false 0 handshake.wait
  obtain ⟨hsound', hcase⟩ := hwait.sound hsound hunspoilt hread
  unfold performHandshake
  generalize (s.connected handshake).waitForResponse D .ping handshake.running false 0
    handshake.wait = r at hwait hsound' hcase
  obtain ⟨s', result⟩ := r
  dsimp only at hsound' hcase
  cases result with
  | ok status =>
    rcases hcase with hsynced | ⟨kind, hresult, -⟩
    · exact hsynced.greetedWith status hclean
    · cases hresult
  | error kind =>
    dsimp only
    set ping : Exchange :=
      { handshake.ping with running := handshake.running && handshake.ping.running } with hping
    rcases hcase with hsynced | ⟨kind', hresult, hcase⟩
    · -- the greeting was read, but it is no acknowledgement
      obtain ⟨hping', hkeep⟩ := hsynced.sendCommand (D := D) .ping false ping
      generalize s'.sendCommand D .ping false ping = r at hping' hkeep
      obtain ⟨s₂, result⟩ := r
      cases result with
      | ok status => exact (hkeep rfl).greetedWith status hclean
      | error kind => exact hping'.handleNetworkFailure
    · -- there was no greeting, and no ping is written
      rcases s'.sendCommand_cases (D := D) .ping false ping with
        ⟨kind, hsend, -⟩ | ⟨hrunning, -, hwritten, -⟩
      · rw [hsend]
        exact hsound'.handleNetworkFailure
      · have hpings : handshake.running = true ∧ handshake.ping.running = true := by
          simpa [hping] using hrunning
        have hpingWritten : handshake.ping.written = true := hwritten
        have hopen : (s.connected handshake).isOpen = true := rfl
        rcases hcase with hunread | ⟨hlate, -⟩
        · simp [hpings.1, hopen] at hunread
        · rcases hclean.greeting hpings.1 with hcomplete | hstopped | hunwritten
          · exact absurd hcomplete hlate
          · simp [hpings.2] at hstopped
          · simp [hpingWritten] at hunwritten

/-! ## Runs of the worker -/

/-- **A clean turn keeps the connection in step.** -/
theorem Synced.step (h : Synced s) {turn : EtherDreamTurn} (hclean : CleanTurn turn)
    {o : List Empty} (hstep : s.step D turn = some (s', o)) : Synced s' := by
  cases step_cases hstep with
  | opened handshake _ =>
    have hshaken := synced_performHandshake (D := D) h.toSound hclean
    exact ⟨⟨hshaken.aligned, hshaken.quiet⟩, hshaken.inStep, hshaken.unspoilt⟩
  | refused handshake =>
    have hclosed := (synced_performHandshake (D := D) h.toSound hclean).close
    exact ⟨⟨hclosed.aligned, hclosed.quiet⟩, hclosed.inStep, hclosed.unspoilt⟩
  | iterated iteration _ => exact sessionInvariant_synced.iterate h iteration
  | left exchange _ =>
    have hleft := sessionInvariant_synced.leave (D := D) h exchange
    exact ⟨⟨hleft.aligned, hleft.quiet⟩, hleft.inStep, hleft.unspoilt⟩
  | adjusted _ c _ => exact h.setController c

theorem synced_start (controllerInfo : EtherDreamControllerInfo) (pointRate : ℕ)
    (targetLatency : ℤ) : Synced (start controllerInfo pointRate targetLatency) where
  aligned := aligned_of_forall_ne fun _ _ => List.not_mem_nil
  quiet := always_nil
  inStep := nofun
  unspoilt := nofun

/-- **Commands and responses stay aligned**: in every run in which no handshake goes on after a
failed read, each response that is accepted answers its own command, and no command follows a failed
read on the same connection. -/
theorem commands_aligned (controllerInfo : EtherDreamControllerInfo) (pointRate : ℕ)
    (targetLatency : ℤ) {turns : List EtherDreamTurn} {o : List Empty}
    (hclean : ∀ turn ∈ turns, CleanTurn turn)
    (hrun : run (EtherDreamSession.step D) (start controllerInfo pointRate targetLatency) turns =
      some (s, o)) : Aligned s.log ∧ QuietAfterFailure s.log := by
  have hturns : Along (EtherDreamSession.step D) (fun _ _ turn => CleanTurn turn) []
      (start controllerInfo pointRate targetLatency) turns := Along.of_forall hclean [] _
  have hstep : ∀ (_ : List Empty) (s : EtherDreamSession) (turn : EtherDreamTurn)
      (s' : EtherDreamSession) (o : List Empty), Synced s → CleanTurn turn →
      EtherDreamSession.step D s turn = some (s', o) → Synced s' :=
    fun _ _ _ _ _ h hturn hstep => h.step hturn hstep
  have hsynced : Synced s := run_invariant (I := fun _ s => Synced s) hstep
    (synced_start controllerInfo pointRate targetLatency) hturns hrun
  exact ⟨hsynced.aligned, hsynced.quiet⟩

/-! ## A late greeting -/

/-- The greeting times out, and the answer to the ping is read in time. -/
def lateGreeting : Handshake where
  greeting := statusResponse .ping 0
  wait := { outcome := .failed 0 }
  ping := { reply := statusResponse .ping 2 }
  version := { reply := Vector.replicate 32 0 }

/-- The ping is sent after a failed read, and what is accepted as its response is the greeting. -/
theorem late_greeting_accepted : ∃ (s : EtherDreamSession) (o : List Empty),
    run (EtherDreamSession.step ℚ) (start plainInfo 30000 100) [.connect lateGreeting] =
        some (s, o) ∧ ¬ Aligned s.log ∧ ¬ QuietAfterFailure s.log := by
  have hlog : (run (EtherDreamSession.step ℚ) (start plainInfo 30000 100)
      [.connect lateGreeting]).map (fun r => r.1.log) =
      some ([.connected, .readFailed] ++ .sent .ping .prepare ::
        [.received {} 1288, .accepted 1 (List.replicate 22 0)]) := by decide +kernel
  obtain ⟨⟨s, o⟩, hrun, hlog⟩ := Option.map_eq_some_iff.mp hlog
  refine ⟨s, o, hrun, fun haligned => ?_, fun hquiet => ?_⟩
  · have hzero := haligned 1 (List.replicate 22 0) (by rw [hlog]; simp) 0 (by simp)
    cases hzero
  · have hclean := hquiet _ _ _ hlog rfl
    revert hclean
    decide

/-- A connection that is greeted in time, and a prepare command. -/
def greetedInTime : List EtherDreamTurn :=
  [.connect greetedIdle,
    .iterate { exchange := { reply := statusResponse .prepare 1 } }]

theorem commands_aligned_when_greeted : ∃ (s : EtherDreamSession) (o : List Empty),
    run (EtherDreamSession.step ℚ) (start plainInfo 30000 100) greetedInTime = some (s, o) ∧
      Aligned s.log ∧ QuietAfterFailure s.log := by
  have hsome :
      (run (EtherDreamSession.step ℚ) (start plainInfo 30000 100) greetedInTime).isSome := by
    decide +kernel
  obtain ⟨⟨s, o⟩, hrun⟩ := Option.isSome_iff_exists.mp hsome
  refine ⟨s, o, hrun, commands_aligned plainInfo 30000 100 (fun turn hturn => ?_) hrun⟩
  simp only [greetedInTime, List.mem_cons, List.not_mem_nil, or_false] at hturn
  rcases hturn with rfl | rfl
  · exact ⟨fun _ => Or.inl rfl, fun _ => rfl⟩
  · trivial

end EtherDreamSession

end LiberaLaser
