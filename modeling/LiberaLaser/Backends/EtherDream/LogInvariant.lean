import LiberaLaser.Backends.EtherDream.Session
import LiberaLaser.Foundations.Runs

/-!
# Invariants of the controller and its log

Where a property speaks of the controller and of the log alone, it is enough to look at what may be
recorded: a command that is allowed, a read that fails, an acknowledgement, and a status that is
received (`LogInvariant`). What every one of these and every change of the controller keep holds of
the handshake, of the loop, and of every reachable session (`LogInvariant.reachable`).
-/

namespace LiberaLaser

open EtherDreamController EtherDreamSession Runs

/-- What is recorded when a status is received. -/
def EtherDreamController.receipt (D : Type) [FloatArith D] (c : EtherDreamController)
    (status : EtherDreamStatus) (now : TimePoint) : List ConnectionEvent :=
  .received status (c.updatePlaybackRequirements D status now).1.thresholdAtReceipt ::
    (c.updatePlaybackRequirements D status now).2.map .recovery

/-- An invariant of the controller and its log, as long as only allowed commands are sent. -/
structure LogInvariant (D : Type) [FloatArith D]
    (Allows : EtherDreamController → EtherDreamCommand → Prop)
    (P : EtherDreamController → List ConnectionEvent → Prop) : Prop where
  modify : ∀ {c c' log}, P c log → Adjusts c c' → P c' log
  sent : ∀ {c command log}, P c log → Allows c command →
    P c (log ++ [.sent command c.playbackAction])
  readFailed : ∀ {c log}, P c log → P c (log ++ [.readFailed])
  accepted : ∀ {c log} n answered, P c log → P c (log ++ [.accepted n answered])
  received : ∀ {c log} status now, P c log →
    P (c.updatePlaybackRequirements D status now).1 (log ++ c.receipt D status now)

/-- The commands of the handshake. -/
def OfHandshake (_ : EtherDreamController) (command : EtherDreamCommand) : Prop :=
  command = .ping ∨ command = .version

namespace LogInvariant

variable {D : Type} [FloatArith D] {Allows : EtherDreamController → EtherDreamCommand → Prop}
  {P : EtherDreamController → List ConnectionEvent → Prop} {s s' : EtherDreamSession}

/-- Of an invariant that allows more, less may be asked. -/
theorem mono (h : LogInvariant D Allows P)
    {Allows' : EtherDreamController → EtherDreamCommand → Prop}
    (hallows : ∀ c command, Allows' c command → Allows c command) : LogInvariant D Allows' P :=
  { h with sent := fun hP hallowed => h.sent hP (hallows _ _ hallowed) }

/-- A status is heard. -/
theorem hears (h : LogInvariant D Allows P) (hs : P s.controller s.log)
    (stream : ReplyStream UInt8) (wait : Wait) (status : EtherDreamStatus) :
    P (s.hears D stream wait status).controller (s.hears D stream wait status).log :=
  h.received status wait.now (h.modify hs (s.adjusts_adjust wait))

/-- A rejected command. -/
theorem rejected (h : LogInvariant D Allows P) (hs : P s.controller s.log)
    (command : EtherDreamCommand) :
    P (s.handleRejection command).controller (s.handleRejection command).log := by
  unfold handleRejection
  split
  · exact h.modify hs (adjusts_scheduleClearRecovery s.controller)
  · exact hs

/-- **A wait keeps the invariant.** -/
theorem wait (h : LogInvariant D Allows P) {running allowWhileStopping : Bool} {n : ℕ} {wait : Wait}
    {result : CommandResult} (hcase : WaitCase D s running allowWhileStopping n wait s' result)
    (hs : P s.controller s.log) : P s'.controller s'.log := by
  cases hcase with
  | unread => exact hs
  | failed => exact h.readFailed (h.modify hs (s.adjusts_adjust wait))
  | @heard stream _ _ status => exact h.hears hs stream wait status
  | @rejected stream _ _ status command => exact h.rejected (h.hears hs stream wait status) command
  | @accepted stream bytes _ status =>
    exact h.accepted n (bytes.map Prod.fst) (h.hears hs stream wait status)

/-- **A command that is allowed keeps the invariant.** -/
theorem sendCommand (h : LogInvariant D Allows P) (hs : P s.controller s.log)
    {command : EtherDreamCommand} (hallows : Allows s.controller command)
    (allowWhileStopping : Bool) (exchange : Exchange) :
    P (s.sendCommand D command allowWhileStopping exchange).1.controller
      (s.sendCommand D command allowWhileStopping exchange).1.log := by
  rcases s.sendCommand_cases (D := D) command allowWhileStopping exchange with
    ⟨kind, hsend, -⟩ | ⟨-, -, -, hsend⟩
  · rw [hsend]
    exact hs
  · rw [hsend]
    have hwritten : P (s.written command exchange.reply.toList).controller
        (s.written command exchange.reply.toList).log := h.sent hs hallows
    exact h.wait (waitForResponse_cases _ command exchange.running true _ exchange.toWait) hwritten

/-- An invariant under what the pending action permits is an invariant of the loop. -/
theorem sessionInvariant (h : LogInvariant D Permits P) :
    SessionInvariant D (fun s => P s.controller s.log) (fun s => P s.controller s.log) where
  modify hs hadjusts := h.modify hs hadjusts
  command allowWhileStopping exchange hs hpermits :=
    have hsent := h.sendCommand hs hpermits allowWhileStopping exchange
    ⟨hsent, fun _ => hsent⟩
  handleNetworkFailure hs := h.modify hs ⟨rfl, rfl, rfl, rfl, rfl, Or.inl rfl⟩
  close hs := h.modify hs ⟨rfl, rfl, rfl, rfl, rfl, Or.inl rfl⟩

/-! ## The handshake -/

/-- The firmware probe keeps the invariant. -/
theorem probe (h : LogInvariant D Allows P) (hs : P s.controller s.log)
    (hallows : Allows s.controller .version) (exchange : VersionExchange) :
    P (s.probeFirmwareVersionOnExistingConnection exchange).controller
      (s.probeFirmwareVersionOnExistingConnection exchange).log := by
  obtain ⟨s', f, hquery, hadjusts, hprobe⟩ := s.probe_cases exchange
  rw [hprobe]
  refine h.modify ?_ (hadjusts _)
  cases hquery with
  | unsent => exact hs
  | failed => exact h.readFailed (h.sent hs hallows)
  | @answered stream bytes =>
    exact h.accepted stream.requests (bytes.map Prod.fst) (h.sent hs hallows)

/-- The last status of the controller opens the connection. -/
theorem greetedWith (h : LogInvariant D OfHandshake P) (hs : P s.controller s.log)
    (handshake : Handshake) :
    P (s.greetedWith s.controller.lastKnownStatus handshake).controller
      (s.greetedWith s.controller.lastKnownStatus handshake).log := by
  refine h.probe ?_ (Or.inr rfl) handshake.version
  exact h.modify hs (adjusts_applyFreshConnectionStatus s.controller)

/-- What a wait establishes that hears a status, where that status acknowledges the command. -/
theorem established {Q : EtherDreamController → List ConnectionEvent → Prop}
    (hP : LogInvariant D Allows P) (hQ : LogInvariant D OfHandshake Q)
    (hhears : ∀ {c log} status now, P c log →
      Q (c.updatePlaybackRequirements D status now).1 (log ++ c.receipt D status now))
    {running allowWhileStopping : Bool} {n : ℕ} {wait : Wait} {status : EtherDreamStatus}
    (hcase : WaitCase D s running allowWhileStopping n wait s' (.ok status))
    (hs : P s.controller s.log) :
    s'.controller.lastKnownStatus = status ∧ Q s'.controller s'.log := by
  cases hcase with
  | @accepted stream bytes _ status =>
    refine ⟨updatePlaybackRequirements_lastKnownStatus _ status wait.now, ?_⟩
    exact hQ.accepted n (bytes.map Prod.fst)
      (hhears status wait.now (hP.modify hs (s.adjusts_adjust wait)))

/-- **The handshake keeps an invariant**, and where it succeeds it establishes what the reception of
a status establishes. -/
theorem performHandshake {Q : EtherDreamController → List ConnectionEvent → Prop}
    (hP : LogInvariant D OfHandshake P) (hQ : LogInvariant D OfHandshake Q)
    (hhears : ∀ {c log} status now, P c log →
      Q (c.updatePlaybackRequirements D status now).1 (log ++ c.receipt D status now))
    (hweaken : ∀ {c log}, Q c log → P c log) (hs : P s.controller s.log) (handshake : Handshake) :
    P (s.performHandshake D handshake).1.controller (s.performHandshake D handshake).1.log ∧
      ((s.performHandshake D handshake).2 = true →
        Q (s.performHandshake D handshake).1.controller
          (s.performHandshake D handshake).1.log) := by
  have hopened : ∀ {s' : EtherDreamSession} {status : EtherDreamStatus},
      s'.controller.lastKnownStatus = status ∧ Q s'.controller s'.log →
      Q (s'.greetedWith status handshake).controller (s'.greetedWith status handshake).log := by
    rintro s' _ ⟨rfl, hs'⟩
    exact hQ.greetedWith hs' handshake
  have hwait := waitForResponse_cases (D := D) s .ping handshake.running false 0 handshake.wait
  unfold EtherDreamSession.performHandshake
  generalize s.waitForResponse D .ping handshake.running false 0 handshake.wait = r at hwait
  obtain ⟨s₁, result⟩ := r
  cases result with
  | ok status =>
    have hgreeted := hopened (hP.established hQ hhears hwait hs)
    exact ⟨hweaken hgreeted, fun _ => hgreeted⟩
  | error kind =>
    -- no acknowledgement: a ping, and its own wait
    have hs₁ : P s₁.controller s₁.log := hP.wait hwait hs
    dsimp only
    generalize { handshake.ping with running := handshake.running && handshake.ping.running } = ping
    rcases s₁.sendCommand_cases (D := D) .ping false ping with ⟨kind, hsend, -⟩ | ⟨-, -, -, hsend⟩
    · rw [hsend]
      exact ⟨hP.modify hs₁ ⟨rfl, rfl, rfl, rfl, rfl, Or.inl rfl⟩, nofun⟩
    · rw [hsend]
      have hwritten : P (s₁.written .ping ping.reply.toList).controller
          (s₁.written .ping ping.reply.toList).log := hP.sent hs₁ (Or.inl rfl)
      have hwait₂ := waitForResponse_cases (D := D) (s₁.written .ping ping.reply.toList) .ping
        ping.running true (s₁.stream.requests + 1) ping.toWait
      generalize (s₁.written .ping ping.reply.toList).waitForResponse D .ping ping.running true
        (s₁.stream.requests + 1) ping.toWait = r at hwait₂
      obtain ⟨s₂, result⟩ := r
      cases result with
      | ok status =>
        have hgreeted := hopened (hP.established hQ hhears hwait₂ hwritten)
        exact ⟨hweaken hgreeted, fun _ => hgreeted⟩
      | error kind =>
        have hs₂ : P s₂.controller s₂.log := hP.wait hwait₂ hwritten
        exact ⟨hP.modify hs₂ ⟨rfl, rfl, rfl, rfl, rfl, Or.inl rfl⟩, nofun⟩

/-! ## Reachable sessions -/

/-- The session keeps `P` at all times, and `Q` in the loop. -/
def Holds (P Q : EtherDreamController → List ConnectionEvent → Prop) (s : EtherDreamSession) :
    Prop :=
  P s.controller s.log ∧ (s.inLoop = true → Q s.controller s.log)

/-- **A turn keeps the invariant.** -/
theorem step {Q : EtherDreamController → List ConnectionEvent → Prop}
    (hP : LogInvariant D OfHandshake P) (hQ : LogInvariant D Permits Q)
    (hhears : ∀ {c log} status now, P c log →
      Q (c.updatePlaybackRequirements D status now).1 (log ++ c.receipt D status now))
    (hweaken : ∀ {c log}, Q c log → P c log)
    (hconnect : ∀ {c log}, P c log → P { c.resetProtocolStateForConnection with
      connectionActive := true } (log ++ [.connected]))
    {turn : EtherDreamTurn} {o : List Empty} (hstep : s.step D turn = some (s', o))
    (hs : Holds P Q s) : Holds P Q s' := by
  have hQ' : LogInvariant D OfHandshake Q := hQ.mono fun c command hcommand => by
    rcases hcommand with rfl | rfl <;> trivial
  cases step_cases hstep with
  | opened handshake hsuccess =>
    obtain ⟨hshaken, hopened⟩ := performHandshake (s := s.connected handshake) hP hQ' hhears hweaken
      (hconnect hs.1) handshake
    exact ⟨hshaken, fun _ => hopened hsuccess⟩
  | refused handshake =>
    obtain ⟨hshaken, -⟩ := performHandshake (s := s.connected handshake) hP hQ' hhears hweaken
      (hconnect hs.1) handshake
    exact ⟨hP.modify hshaken ⟨rfl, rfl, rfl, rfl, rfl, Or.inl rfl⟩, nofun⟩
  | iterated iteration hloop =>
    have hpass := hQ.sessionInvariant.iterate (hs.2 hloop) iteration
    exact ⟨hweaken hpass, fun _ => hpass⟩
  | left exchange hloop =>
    have hleft := hQ.sessionInvariant.leave (hs.2 hloop) exchange
    exact ⟨hweaken hleft, nofun⟩
  | adjusted _ c hadjusts =>
    exact ⟨hP.modify hs.1 hadjusts, fun hloop => hQ.modify (hs.2 hloop) hadjusts⟩

/-- **The invariant holds of every reachable session.** -/
theorem reachable {Q : EtherDreamController → List ConnectionEvent → Prop}
    (hP : LogInvariant D OfHandshake P) (hQ : LogInvariant D Permits Q)
    (hhears : ∀ {c log} status now, P c log →
      Q (c.updatePlaybackRequirements D status now).1 (log ++ c.receipt D status now))
    (hweaken : ∀ {c log}, Q c log → P c log)
    (hconnect : ∀ {c log}, P c log → P { c.resetProtocolStateForConnection with
      connectionActive := true } (log ++ [.connected]))
    {init : EtherDreamSession} (hinit : P init.controller init.log) (hidle : init.inLoop = false)
    (hs : Reachable (EtherDreamSession.step D) init s) : Holds P Q s :=
  hs.invariant ⟨hinit, fun hloop => by rw [hidle] at hloop; cases hloop⟩
    fun _ _ _ _ hs hstep => step hP hQ hhears hweaken hconnect hstep hs

end LogInvariant

end LiberaLaser
