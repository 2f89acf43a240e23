import LiberaLaser.Backends.EtherDream.Connection

/-!
# What a turn of the worker can do

Beyond the statuses that it receives, the worker changes little of what it knows of the device
(`Adjusts`). A wait for a response fails, or it hears a status (`waitForResponse_cases`), and every
command of the loop is an exchange that the pending action permits, followed by such a change. So an
invariant of the exchanges and of the changes is an invariant of the loop (`SessionInvariant`).
-/

namespace LiberaLaser

open FloatArith ReplyStream

/-- What the controller knows of the device stays, and so does the pending action, unless a stop, a
clear or nothing takes its place, or a prepare for a device that is ready and idle. -/
structure EtherDreamController.Adjusts (c c' : EtherDreamController) : Prop where
  controllerInfo : c'.controllerInfo = c.controllerInfo
  lastKnownStatus : c'.lastKnownStatus = c.lastKnownStatus
  thresholdAtReceipt : c'.thresholdAtReceipt = c.thresholdAtReceipt
  recoveryPending :
    c'.implausiblePointRateRecoveryPending = c.implausiblePointRateRecoveryPending
  rebootRequired : c'.rebootRequiredLatched = c.rebootRequiredLatched
  action : c'.playbackAction = c.playbackAction ∨
    (c'.playbackAction ≠ .prepare ∧ c'.playbackAction ≠ .start) ∨
    (c'.playbackAction = .prepare ∧ c.lastKnownStatus.lightEngineState = .ready ∧
      c.lastKnownStatus.playbackState = .idle)

namespace EtherDreamController

theorem Adjusts.refl (c : EtherDreamController) : Adjusts c c :=
  ⟨rfl, rfl, rfl, rfl, rfl, Or.inl rfl⟩

/-- Where only the action changes, and not to a prepare or begin. -/
theorem adjusts_of_action (c : EtherDreamController) {action : PlaybackAction}
    (h : action ≠ .prepare ∧ action ≠ .start) : Adjusts c { c with playbackAction := action } :=
  ⟨rfl, rfl, rfl, rfl, rfl, Or.inr (Or.inl h)⟩

theorem adjusts_scheduleClearRecovery (c : EtherDreamController) :
    Adjusts c c.scheduleClearRecovery :=
  adjusts_of_action c ⟨nofun, nofun⟩

theorem adjusts_syncPointRate (c : EtherDreamController) : Adjusts c c.syncPointRate := by
  unfold syncPointRate
  split_ifs
  · exact .refl c
  · exact .refl c
  · exact .refl c
  · exact adjusts_of_action c ⟨nofun, nofun⟩

theorem adjusts_setPointRate (c : EtherDreamController) (pointRateValue : ℕ) :
    Adjusts c (c.setPointRate pointRateValue) :=
  ⟨rfl, rfl, rfl, rfl, rfl, Or.inl rfl⟩

/-- The first status of a connection asks for a prepare only where the device is ready and idle. -/
theorem adjusts_applyFreshConnectionStatus (c : EtherDreamController) :
    Adjusts c (c.applyFreshConnectionStatus c.lastKnownStatus) := by
  unfold applyFreshConnectionStatus
  split_ifs with _ _ hready hidle
  · exact ⟨rfl, rfl, rfl, rfl, rfl, Or.inr (Or.inl ⟨nofun, nofun⟩)⟩
  · exact adjusts_of_action c ⟨nofun, nofun⟩
  · exact adjusts_of_action c ⟨nofun, nofun⟩
  · exact ⟨rfl, rfl, rfl, rfl, rfl, Or.inr (Or.inr ⟨rfl, by simpa using hready, hidle⟩)⟩
  · exact adjusts_of_action c ⟨nofun, nofun⟩

variable {D : Type} [FloatArith D]

@[simp] theorem updatePlaybackRequirements_lastKnownStatus (c : EtherDreamController)
    (status : EtherDreamStatus) (now : TimePoint) :
    (c.updatePlaybackRequirements D status now).1.lastKnownStatus = status := by
  unfold updatePlaybackRequirements
  dsimp only
  split_ifs <;> rfl

end EtherDreamController

namespace EtherDreamSession

open EtherDreamController

variable {D : Type} [FloatArith D]

theorem adjusts_adjust (s : EtherDreamSession) (wait : Wait) :
    Adjusts s.controller (s.adjust wait).controller := by
  unfold adjust modify
  dsimp only
  split <;> split <;> exact ⟨rfl, rfl, rfl, rfl, rfl, Or.inl rfl⟩

/-! ## Exchanges -/

/-- What is heard in a wait: the stream is read, the application may have set something, and the
status counts. -/
def hears (D : Type) [FloatArith D] (s : EtherDreamSession) (stream : ReplyStream UInt8)
    (wait : Wait) (status : EtherDreamStatus) : EtherDreamSession :=
  ({ s with stream := stream }.adjust wait).updatePlaybackRequirements D status wait.now

/-- What a wait for the response to request `n` does: nothing, where there is no read; or a read
fails; or a status is heard, with a clear or an acknowledgement after it. -/
inductive WaitCase (D : Type) [FloatArith D] (s : EtherDreamSession)
    (running allowWhileStopping : Bool) (n : ℕ) (wait : Wait) :
    EtherDreamSession → CommandResult → Prop
  | unread {kind : CommandFailureKind}
      (h : running = false ∧ allowWhileStopping = false ∨ s.isOpen = false) :
      WaitCase D s running allowWhileStopping n wait s (.error kind)
  | failed {stream : ReplyStream UInt8}
      (hread : s.stream.readExact 22 wait.outcome = (stream, none)) :
      WaitCase D s running allowWhileStopping n wait
        (({ s with stream := stream }.adjust wait).record [.readFailed]) (.error .networkFailure)
  | heard {stream : ReplyStream UInt8} {bytes : List (ℕ × UInt8)}
      (hread : s.stream.readExact 22 wait.outcome = (stream, some bytes))
      (status : EtherDreamStatus) (kind : CommandFailureKind) :
      WaitCase D s running allowWhileStopping n wait (s.hears D stream wait status) (.error kind)
  | rejected {stream : ReplyStream UInt8} {bytes : List (ℕ × UInt8)}
      (hread : s.stream.readExact 22 wait.outcome = (stream, some bytes))
      (status : EtherDreamStatus) (command : EtherDreamCommand) (kind : CommandFailureKind) :
      WaitCase D s running allowWhileStopping n wait
        ((s.hears D stream wait status).handleRejection command) (.error kind)
  | accepted {stream : ReplyStream UInt8} {bytes : List (ℕ × UInt8)}
      (hread : s.stream.readExact 22 wait.outcome = (stream, some bytes))
      (status : EtherDreamStatus) :
      WaitCase D s running allowWhileStopping n wait
        ((s.hears D stream wait status).record [.accepted n (bytes.map Prod.fst)]) (.ok status)

/-- A response of 22 bytes can be decoded. -/
theorem decode_of_length {data : List UInt8} (h : data.length = 22) :
    ∃ response, EtherDreamResponse.decode data = some response := by
  have hshort : ¬ data.length < 22 := by omega
  exact ⟨_, by rw [EtherDreamResponse.decode, if_neg hshort]⟩

theorem waitForResponse_cases (s : EtherDreamSession) (command : EtherDreamCommand)
    (running allowWhileStopping : Bool) (n : ℕ) (wait : Wait) :
    WaitCase D s running allowWhileStopping n wait
      (s.waitForResponse D command running allowWhileStopping n wait).1
      (s.waitForResponse D command running allowWhileStopping n wait).2 := by
  unfold waitForResponse
  split
  · rename_i h
    exact .unread (Or.inl (by simpa using h))
  · split
    · rename_i h
      exact .unread (Or.inr (by simpa using h))
    · cases hread : s.stream.readExact 22 wait.outcome with
      | mk stream bytes =>
        cases bytes with
        | none => exact .failed hread
        | some bytes =>
          have hlength : (bytes.map Prod.snd).length = 22 := by
            rw [List.length_map, length_of_readExact hread]
          obtain ⟨response, hdecode⟩ := decode_of_length hlength
          simp only [hdecode, handleResponseFrame]
          split_ifs
          · exact .heard hread response.status .recoverInPlace
          · exact .rejected hread response.status command .recoverInPlace
          · exact .heard hread response.status .protocolFailure
          · exact .accepted hread response.status

/-- The session once a command is on its way, and the device will answer it. -/
def written (s : EtherDreamSession) (command : EtherDreamCommand) (reply : List UInt8) :
    EtherDreamSession :=
  { s with stream := s.stream.request reply }.record [.sent command s.controller.playbackAction]

/-- A command is not sent at all, or it is sent on an open connection and its response waited
for. -/
theorem sendCommand_cases (s : EtherDreamSession) (command : EtherDreamCommand)
    (allowWhileStopping : Bool) (exchange : Exchange) :
    (∃ kind, s.sendCommand D command allowWhileStopping exchange = (s, .error kind) ∧
      (exchange.running = false ∧ allowWhileStopping = false ∨ s.isOpen = false ∨
        exchange.written = false)) ∨
    ((exchange.running = true ∨ allowWhileStopping = true) ∧ s.isOpen = true ∧
      exchange.written = true ∧
      s.sendCommand D command allowWhileStopping exchange =
        (s.written command exchange.reply.toList).waitForResponse D command exchange.running true
          (s.stream.requests + 1) exchange.toWait) := by
  unfold sendCommand
  split
  · rename_i h
    exact Or.inl ⟨_, rfl, Or.inl (by simpa using h)⟩
  · rename_i hstop
    split
    · rename_i h
      exact Or.inl ⟨_, rfl, Or.inr (by simpa using h)⟩
    · rename_i h
      simp only [Bool.or_eq_true, Bool.not_eq_true', not_or, Bool.not_eq_false] at h
      exact Or.inr ⟨by simpa [or_iff_not_imp_left] using hstop, h.1, h.2, rfl⟩

/-- What a version query does: it is not sent, or its read fails, or the answer comes. -/
inductive VersionCase (s : EtherDreamSession) (exchange : VersionExchange) :
    EtherDreamSession → Prop
  | unsent : VersionCase s exchange s
  | failed {stream : ReplyStream UInt8} (hopen : s.isOpen = true)
      (hwritten : exchange.written = true)
      (hread : (s.stream.request exchange.reply.toList).readExact 32 exchange.outcome =
        (stream, none)) :
      VersionCase s exchange
        ({ s.written .version exchange.reply.toList with stream := stream }.record [.readFailed])
  | answered {stream : ReplyStream UInt8} {bytes : List (ℕ × UInt8)} (hopen : s.isOpen = true)
      (hwritten : exchange.written = true)
      (hread : (s.stream.request exchange.reply.toList).readExact 32 exchange.outcome =
        (stream, some bytes)) :
      VersionCase s exchange
        ({ s.written .version exchange.reply.toList with stream := stream }.record
          [.accepted stream.requests (bytes.map Prod.fst)])

theorem readFirmwareVersionString_cases (s : EtherDreamSession) (exchange : VersionExchange) :
    VersionCase s exchange (s.readFirmwareVersionString exchange).1 := by
  unfold readFirmwareVersionString
  split
  · exact .unsent
  · rename_i h
    simp only [Bool.or_eq_true, Bool.not_eq_true', not_or, Bool.not_eq_false] at h
    cases hread : (s.stream.request exchange.reply.toList).readExact 32 exchange.outcome with
    | mk stream bytes =>
      simp only [record, hread]
      cases bytes with
      | none => exact .failed h.1 h.2 hread
      | some bytes => exact .answered h.1 h.2 hread

/-- The firmware probe is a version query, and then a change that the device does not see. -/
theorem probe_cases (s : EtherDreamSession) (exchange : VersionExchange) :
    ∃ s' f, VersionCase s exchange s' ∧ (∀ c, Adjusts c (f c)) ∧
      s.probeFirmwareVersionOnExistingConnection exchange = s'.modify f := by
  unfold probeFirmwareVersionOnExistingConnection
  split
  · exact ⟨s, id, .unsent, Adjusts.refl, rfl⟩
  · have hquery := s.readFirmwareVersionString_cases exchange
    generalize s.readFirmwareVersionString exchange = r at hquery
    obtain ⟨s', version⟩ := r
    cases version with
    | none =>
      exact ⟨s', fun c => { c with firmwareProbeDisabledForSession := true }, hquery,
        fun c => ⟨rfl, rfl, rfl, rfl, rfl, Or.inl rfl⟩, rfl⟩
    | some version =>
      dsimp only
      split
      · exact ⟨s', id, hquery, Adjusts.refl, rfl⟩
      · exact ⟨s', fun c => { c with firmwareVersionString := version }, hquery,
          fun c => ⟨rfl, rfl, rfl, rfl, rfl, Or.inl rfl⟩, rfl⟩

/-! ## The loop -/

/-- The pending action permits the command. -/
def Permits (c : EtherDreamController) : EtherDreamCommand → Prop
  | .prepare => c.playbackAction = .prepare
  | .start => c.playbackAction = .start
  | .data => c.canSendData = true
  | _ => True

/-- An invariant `P` of the session between two commands, and what `Q` is left of it by a command
that fails so that the connection is closed. -/
structure SessionInvariant (D : Type) [FloatArith D] (P Q : EtherDreamSession → Prop) : Prop where
  modify : ∀ {s} {c : EtherDreamController}, P s → Adjusts s.controller c →
    P { s with controller := c }
  command : ∀ {s command} allowWhileStopping exchange, P s → Permits s.controller command →
    Q (s.sendCommand D command allowWhileStopping exchange).1 ∧
      (shouldCloseConnectionAfterCommandFailure
          (s.sendCommand D command allowWhileStopping exchange).2 = false →
        P (s.sendCommand D command allowWhileStopping exchange).1)
  handleNetworkFailure : ∀ {s}, Q s → P s.handleNetworkFailure
  close : ∀ {s}, P s → P s.close

namespace SessionInvariant

variable {P Q : EtherDreamSession → Prop} {s : EtherDreamSession}

/-- A command, with a change after it is acknowledged, and the closing after a failure. -/
theorem exchange (h : SessionInvariant D P Q) (hs : P s) (command : EtherDreamCommand)
    (hpermits : Permits s.controller command) (allowWhileStopping : Bool) (exchange : Exchange)
    (after : EtherDreamStatus → EtherDreamController → EtherDreamController)
    (hafter : ∀ status c, Adjusts c (after status c)) :
    P (match s.sendCommand D command allowWhileStopping exchange with
      | (s, ack) =>
        match ack with
        | .ok status => s.modify (after status)
        | .error kind => s.closeAfterFailure (.error kind)) := by
  obtain ⟨hQ, hP⟩ := h.command allowWhileStopping exchange hs hpermits
  generalize s.sendCommand D command allowWhileStopping exchange = r at hQ hP
  obtain ⟨s', result⟩ := r
  cases result with
  | ok status => exact h.modify (hP rfl) (hafter status _)
  | error kind =>
    dsimp only [closeAfterFailure]
    split
    · exact h.handleNetworkFailure hQ
    · rename_i hkeep
      exact hP (by simpa using hkeep)

/-- Such a command without the change. -/
theorem closing (h : SessionInvariant D P Q) (hs : P s) (command : EtherDreamCommand)
    (hpermits : Permits s.controller command) (allowWhileStopping : Bool) (exchange : Exchange) :
    P ((s.sendCommand D command allowWhileStopping exchange).1.closeAfterFailure
      (s.sendCommand D command allowWhileStopping exchange).2) := by
  obtain ⟨hQ, hP⟩ := h.command allowWhileStopping exchange hs hpermits
  unfold closeAfterFailure
  split
  · exact h.handleNetworkFailure hQ
  · rename_i hkeep
    exact hP (by simpa using hkeep)

theorem sendStop (h : SessionInvariant D P Q) (hs : P s) (allowWhileStopping : Bool)
    (exchange : Exchange) : P (s.sendStop D allowWhileStopping exchange) := by
  refine h.exchange hs .stop trivial allowWhileStopping exchange _ fun status c => ?_
  dsimp only
  split_ifs
  · exact ⟨rfl, rfl, rfl, rfl, rfl, Or.inr (Or.inl ⟨nofun, nofun⟩)⟩
  · exact ⟨rfl, rfl, rfl, rfl, rfl, Or.inl rfl⟩

theorem sendPrepare (h : SessionInvariant D P Q) (hs : P s)
    (hpermits : Permits s.controller .prepare) (exchange : Exchange) :
    P (s.sendPrepare D exchange) := by
  refine h.exchange hs _ hpermits false exchange _ fun status c => ?_
  split_ifs
  · exact adjusts_of_action c ⟨nofun, nofun⟩
  · exact .refl c

theorem sendBegin (h : SessionInvariant D P Q) (hs : P s) (hpermits : Permits s.controller .start)
    (exchange : Exchange) : P (s.sendBegin D exchange) := by
  refine h.exchange hs _ hpermits false exchange _ fun status c => ?_
  split_ifs
  · exact ⟨rfl, rfl, rfl, rfl, rfl, Or.inl rfl⟩
  · exact .refl c

theorem sendPoints (h : SessionInvariant D P Q) (hs : P s) (pointCount : ℕ) (exchange : Exchange) :
    P (s.sendPoints D pointCount exchange) := by
  unfold EtherDreamSession.sendPoints
  split
  · refine h.modify hs ?_
    dsimp only
    split_ifs with hidle
    · exact ⟨rfl, rfl, rfl, rfl, rfl, Or.inr (Or.inr ⟨rfl, hidle.2.2⟩)⟩
    · exact .refl _
  · rename_i hdata
    split
    · exact hs
    · exact h.closing hs .data (by simpa [Permits] using hdata) false exchange

/-- **A pass of the loop keeps the invariant.** -/
theorem iterate (h : SessionInvariant D P Q) (hs : P s) (iteration : Iteration) :
    P (s.iterate D iteration) := by
  unfold EtherDreamSession.iterate
  split
  · exact h.sendStop hs false iteration.exchange
  · exact h.closing hs .clear trivial false iteration.exchange
  · rename_i hprepare
    exact h.sendPrepare hs hprepare iteration.exchange
  · rename_i hstart
    exact h.sendBegin hs hstart iteration.exchange
  · have hsync : P (s.modify .syncPointRate) := h.modify hs (adjusts_syncPointRate s.controller)
    dsimp only
    split
    · exact hsync
    · split
      · exact h.closing hsync .ping trivial false iteration.exchange
      · split
        · split
          · exact h.sendPoints hsync _ iteration.exchange
          · exact hsync
        · exact hsync

/-- **The way out of the loop keeps the invariant.** -/
theorem leave (h : SessionInvariant D P Q) (hs : P s) (exchange : Exchange) :
    P (s.sendOrderlyStopBeforeClose D exchange).close := by
  refine h.close ?_
  unfold sendOrderlyStopBeforeClose
  split_ifs
  · exact hs
  · exact hs
  · exact hs
  · exact h.sendStop hs true exchange

end SessionInvariant

/-! ## The turns -/

/-- What a turn does: a connection is opened or refused, a pass of the loop is made, the loop is
left, or the application sets something. -/
inductive StepCase (D : Type) [FloatArith D] (s : EtherDreamSession) :
    EtherDreamTurn → EtherDreamSession → Prop
  | opened (handshake : Handshake)
      (hsuccess : ((s.connected handshake).performHandshake D handshake).2 = true) :
      StepCase D s (.connect handshake)
        { ((s.connected handshake).performHandshake D handshake).1 with inLoop := true }
  | refused (handshake : Handshake) :
      StepCase D s (.connect handshake)
        { ((s.connected handshake).performHandshake D handshake).1.close with inLoop := false }
  | iterated (iteration : Iteration) (hloop : s.inLoop = true) :
      StepCase D s (.iterate iteration) (s.iterate D iteration)
  | left (exchange : Exchange) (hloop : s.inLoop = true) :
      StepCase D s (.leave exchange)
        { (s.sendOrderlyStopBeforeClose D exchange).close with inLoop := false }
  | adjusted (turn : EtherDreamTurn) (c : EtherDreamController)
      (hadjusts : Adjusts s.controller c) :
      StepCase D s turn { s with controller := c }

theorem step_cases {s s' : EtherDreamSession} {turn : EtherDreamTurn} {o : List Empty}
    (h : s.step D turn = some (s', o)) : StepCase D s turn s' := by
  cases turn with
  | connect handshake =>
    simp only [step] at h
    split at h
    · cases h
    · cases hshake : (s.connected handshake).performHandshake D handshake with
      | mk s₁ success =>
        rw [hshake] at h
        cases success with
        | true =>
          obtain ⟨rfl, -⟩ := Prod.mk.inj (Option.some.inj h)
          simpa only [hshake] using StepCase.opened (D := D) (s := s) handshake (by rw [hshake])
        | false =>
          obtain ⟨rfl, -⟩ := Prod.mk.inj (Option.some.inj h)
          simpa only [hshake] using StepCase.refused (D := D) (s := s) handshake
  | iterate iteration =>
    simp only [step] at h
    split at h
    · rename_i hloop
      obtain ⟨rfl, -⟩ := Prod.mk.inj (Option.some.inj h)
      exact .iterated iteration (Bool.and_eq_true_iff.mp hloop).1
    · cases h
  | leave exchange =>
    simp only [step] at h
    split at h
    · rename_i hloop
      obtain ⟨rfl, -⟩ := Prod.mk.inj (Option.some.inj h)
      exact .left exchange hloop
    · cases h
  | setPointRate pointRateValue =>
    obtain ⟨rfl, -⟩ := Prod.mk.inj (Option.some.inj h)
    exact .adjusted _ _ (adjusts_setPointRate s.controller pointRateValue)
  | setTargetLatency targetLatency =>
    obtain ⟨rfl, -⟩ := Prod.mk.inj (Option.some.inj h)
    exact .adjusted _ _ ⟨rfl, rfl, rfl, rfl, rfl, Or.inl rfl⟩

end EtherDreamSession

end LiberaLaser
