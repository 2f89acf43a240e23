import LiberaLaser.Backends.EtherDream.LogInvariant
import LiberaLaser.Foundations.Traces

/-!
# Every command is valid for the last status

The playback engine takes a prepare only where it is ready and idle, a begin only where it is
prepared with enough in its buffer, and data only where it is prepared or playing. The worker knows
its state from the last status alone: whatever the statuses, and whatever is set meanwhile, what the
pending action says is true of the last status (`ActionFits`), and so the command that it permits is
valid (`commands_valid`).
-/

namespace LiberaLaser

open EtherDreamController Traces Runs

namespace ConnectionEvent

/-- The last status of the connection, with the begin threshold as it was then. -/
def latestStatus (log : List ConnectionEvent) : Option (EtherDreamStatus × ℤ) :=
  log.foldl (fun latest e => match e with
    | .connected => none
    | .received status threshold => some (status, threshold)
    | _ => latest) none

/-- The command may be sent after that status, with that action pending. -/
def ValidFor (latest : Option (EtherDreamStatus × ℤ)) (pending : PlaybackAction) :
    EtherDreamCommand → Prop
  | .prepare => ∃ status threshold, latest = some (status, threshold) ∧
      status.lightEngineState = .ready ∧ status.playbackState = .idle
  | .start => ∃ status threshold, latest = some (status, threshold) ∧
      status.lightEngineState = .ready ∧ status.playbackState = .prepared ∧
      0 < threshold ∧ threshold ≤ status.bufferFullness
  | .data => ∃ status threshold, latest = some (status, threshold) ∧
      status.lightEngineState = .ready ∧
      (status.playbackState = .prepared ∨ status.playbackState = .playing) ∧ pending = .none
  | _ => True

/-- Every command of the log is valid where it is sent. -/
def CommandsValid : List ConnectionEvent → Prop :=
  Always fun before e => ∀ command pending, e = .sent command pending →
    ValidFor (latestStatus before) pending command

variable {log : List ConnectionEvent}

theorem latestStatus_concat (e : ConnectionEvent) :
    latestStatus (log ++ [e]) = match e with
      | .connected => none
      | .received status threshold => some (status, threshold)
      | _ => latestStatus log := by
  rw [latestStatus, List.foldl_append]
  rfl

/-- After a status there are only recoveries. -/
theorem latestStatus_append_recoveries (events : List RecoveryEvent) :
    latestStatus (log ++ events.map .recovery) = latestStatus log := by
  induction events generalizing log with
  | nil => rw [List.map_nil, List.append_nil]
  | cons event events ih =>
    rw [List.map_cons, ← List.singleton_append, ← List.append_assoc, ih, latestStatus_concat]

end ConnectionEvent

open ConnectionEvent

/-- What the pending action says is true of the last status. -/
structure EtherDreamController.ActionFits (c : EtherDreamController) : Prop where
  prepare : c.playbackAction = .prepare →
    c.lastKnownStatus.lightEngineState = .ready ∧ c.lastKnownStatus.playbackState = .idle
  start : c.playbackAction = .start →
    c.lastKnownStatus.lightEngineState = .ready ∧ c.lastKnownStatus.playbackState = .prepared ∧
      0 < c.thresholdAtReceipt ∧ c.thresholdAtReceipt ≤ c.lastKnownStatus.bufferFullness

namespace EtherDreamController

variable {c c' : EtherDreamController}

theorem ActionFits.adjusts (h : ActionFits c) (hadjusts : Adjusts c c') : ActionFits c' where
  prepare haction := by
    rw [hadjusts.lastKnownStatus]
    rcases hadjusts.action with hsame | ⟨hne, -⟩ | ⟨-, hready⟩
    · exact h.prepare (hsame.symm.trans haction)
    · exact absurd haction hne
    · exact hready
  start haction := by
    rw [hadjusts.lastKnownStatus, hadjusts.thresholdAtReceipt]
    rcases hadjusts.action with hsame | ⟨-, hne⟩ | ⟨hprepare, -⟩
    · exact h.start (hsame.symm.trans haction)
    · exact absurd haction hne
    · rw [hprepare] at haction
      cases haction

variable {D : Type} [FloatArith D]

/-- **The action for a status is true of it.** -/
theorem actionForStatus_fits (c : EtherDreamController) (status : EtherDreamStatus) :
    (c.actionForStatus D status = .prepare →
      status.lightEngineState = .ready ∧ status.playbackState = .idle) ∧
    (c.actionForStatus D status = .start →
      status.lightEngineState = .ready ∧ status.playbackState = .prepared ∧
        0 < c.beginBufferThresholdPoints D ∧
        c.beginBufferThresholdPoints D ≤ status.bufferFullness) := by
  unfold actionForStatus
  dsimp only
  split_ifs with hknown hestop hready hpaused hidle hbegin
  · exact ⟨nofun, nofun⟩
  · exact ⟨nofun, nofun⟩
  · exact ⟨nofun, nofun⟩
  · exact ⟨nofun, nofun⟩
  · exact ⟨fun _ => ⟨by simpa using hready, hidle⟩, nofun⟩
  · exact ⟨nofun, fun _ => ⟨by simpa using hready, hbegin.1, hbegin.2⟩⟩
  · exact ⟨nofun, nofun⟩

/-- After a status the pending action is the one for it, unless a recovery takes its place. -/
theorem updatePlaybackRequirements_action (c : EtherDreamController) (status : EtherDreamStatus)
    (now : TimePoint) :
    let c' := (c.updatePlaybackRequirements D status now).1
    c'.lastKnownStatus = status ∧ c'.thresholdAtReceipt = c.beginBufferThresholdPoints D ∧
      (c'.playbackAction = c.actionForStatus D status ∨ c'.playbackAction = .clear ∨
        c'.playbackAction = .stop) := by
  unfold updatePlaybackRequirements
  dsimp only
  split_ifs
  · exact ⟨rfl, rfl, Or.inr (Or.inl rfl)⟩
  · exact ⟨rfl, rfl, Or.inr (Or.inr rfl)⟩
  · exact ⟨rfl, rfl, Or.inr (Or.inr rfl)⟩
  · exact ⟨rfl, rfl, Or.inl rfl⟩
  · exact ⟨rfl, rfl, Or.inl rfl⟩

theorem updatePlaybackRequirements_fits (c : EtherDreamController) (status : EtherDreamStatus)
    (now : TimePoint) : ActionFits (c.updatePlaybackRequirements D status now).1 := by
  obtain ⟨hstatus, hthreshold, haction⟩ := c.updatePlaybackRequirements_action (D := D) status now
  obtain ⟨hprepare, hstart⟩ := c.actionForStatus_fits (D := D) status
  constructor
  · intro h
    rw [hstatus]
    rcases haction with haction | haction | haction
    · exact hprepare (haction.symm.trans h)
    · rw [haction] at h
      cases h
    · rw [haction] at h
      cases h
  · intro h
    rw [hstatus, hthreshold]
    rcases haction with haction | haction | haction
    · exact hstart (haction.symm.trans h)
    · rw [haction] at h
      cases h
    · rw [haction] at h
      cases h

end EtherDreamController

namespace EtherDreamSession

/-- What holds in the loop: the controller knows the last status, and its action fits it. -/
structure Guided (c : EtherDreamController) (log : List ConnectionEvent) : Prop where
  valid : CommandsValid log
  latest : latestStatus log = some (c.lastKnownStatus, c.thresholdAtReceipt)
  fits : ActionFits c

variable {c : EtherDreamController} {log : List ConnectionEvent}

/-- Of an event that is no command nothing is asked. -/
theorem commandsValid_concat (h : CommandsValid log) {e : ConnectionEvent}
    (he : ∀ command pending, e ≠ .sent command pending) : CommandsValid (log ++ [e]) :=
  h.concat fun command pending heq => absurd heq (he command pending)

theorem Guided.concat (h : Guided c log) {e : ConnectionEvent} (hvalid : CommandsValid (log ++ [e]))
    (hlatest : latestStatus (log ++ [e]) = latestStatus log) : Guided c (log ++ [e]) :=
  ⟨hvalid, hlatest.trans h.latest, h.fits⟩

/-- **A permitted command is valid.** -/
theorem Guided.validFor (h : Guided c log) {command : EtherDreamCommand}
    (hpermits : Permits c command) : ValidFor (latestStatus log) c.playbackAction command := by
  cases command with
  | prepare => exact ⟨_, _, h.latest, h.fits.prepare hpermits⟩
  | start => exact ⟨_, _, h.latest, h.fits.start hpermits⟩
  | data =>
    simp only [Permits, canSendData, Bool.and_eq_true, Bool.or_eq_true, decide_eq_true_eq]
      at hpermits
    obtain ⟨⟨hnone, hready⟩, hplayback⟩ := hpermits
    exact ⟨_, _, h.latest, hready, hplayback, hnone⟩
  | _ => trivial

variable {D : Type} [FloatArith D]

theorem commandsValid_receipt (h : CommandsValid log) (c : EtherDreamController)
    (status : EtherDreamStatus) (now : TimePoint) :
    CommandsValid (log ++ c.receipt D status now) := by
  refine h.append fun e he before command pending heq => ?_
  subst heq
  simp [receipt] at he

/-- Any status brings the worker to know the last one. -/
theorem guided_received (h : CommandsValid log) (c : EtherDreamController)
    (status : EtherDreamStatus) (now : TimePoint) :
    Guided (c.updatePlaybackRequirements D status now).1 (log ++ c.receipt D status now) where
  valid := commandsValid_receipt h c status now
  latest := by
    rw [receipt, ← List.singleton_append, ← List.append_assoc, latestStatus_append_recoveries,
      latestStatus_concat, updatePlaybackRequirements_lastKnownStatus]
  fits := c.updatePlaybackRequirements_fits status now

/-- Before the first status of a connection nothing is sent that needs one. -/
theorem logInvariant_commandsValid :
    LogInvariant D OfHandshake fun _ log => CommandsValid log where
  modify h _ := h
  sent h hcommand := by
    refine h.concat fun command pending heq => ?_
    obtain ⟨rfl, -⟩ := ConnectionEvent.sent.inj heq
    rcases hcommand with rfl | rfl <;> trivial
  readFailed h := commandsValid_concat h nofun
  accepted _ _ h := commandsValid_concat h nofun
  received status now h := commandsValid_receipt h _ status now

/-- **The loop keeps to the last status.** -/
theorem logInvariant_guided : LogInvariant D Permits Guided where
  modify h hadjusts :=
    ⟨h.valid, by rw [h.latest, hadjusts.lastKnownStatus, hadjusts.thresholdAtReceipt],
      h.fits.adjusts hadjusts⟩
  sent h hpermits := by
    refine h.concat (h.valid.concat fun command pending heq => ?_) (latestStatus_concat _)
    obtain ⟨rfl, rfl⟩ := ConnectionEvent.sent.inj heq
    exact h.validFor hpermits
  readFailed h := h.concat (commandsValid_concat h.valid nofun) (latestStatus_concat _)
  accepted _ _ h := h.concat (commandsValid_concat h.valid nofun) (latestStatus_concat _)
  received status now h := guided_received h.valid _ status now

/-- **Every command is valid**: in every reachable session, whatever the device answers and the
application sets, a prepare goes out only to a device whose last status is ready and idle, a begin
only to one that is prepared with the begin threshold of that time in its buffer, and data only to
one that is prepared or playing while no action is pending. -/
theorem commands_valid (controllerInfo : EtherDreamControllerInfo) (pointRate : ℕ)
    (targetLatency : ℤ) {s : EtherDreamSession}
    (hs : Reachable (EtherDreamSession.step D) (start controllerInfo pointRate targetLatency) s) :
    CommandsValid s.log := by
  have hinit : CommandsValid (start controllerInfo pointRate targetLatency).log := always_nil
  have hheld := LogInvariant.reachable logInvariant_commandsValid logInvariant_guided
    (fun status now h => guided_received h _ status now) Guided.valid
    (fun h => commandsValid_concat h nofun) hinit rfl hs
  exact hheld.1

def isSent : ConnectionEvent → Bool
  | .sent _ _ => true
  | _ => false

/-- A connection that is greeted, prepared, and begun once there is enough in the buffer. -/
def beginWhenFull : List EtherDreamTurn :=
  [.connect greetedIdle,
    .iterate { exchange := { reply := acknowledgement .prepare 1 6 0 } },
    .iterate { exchange := { reply := acknowledgement .start 2 6 0 } }]

/-- The commands are sent in that order, and each is valid. -/
theorem commands_valid_when_begun : ∃ s : EtherDreamSession,
    Reachable (EtherDreamSession.step ℚ) (start plainInfo 30000 100) s ∧
      s.log.filter isSent = [sent .prepare .prepare, sent .start .start] ∧
      CommandsValid s.log := by
  have hlog : (run (EtherDreamSession.step ℚ) (start plainInfo 30000 100) beginWhenFull).map
      (fun r => r.1.log.filter isSent) = some [sent .prepare .prepare, sent .start .start] := by
    decide +kernel
  obtain ⟨⟨s, o⟩, hrun, hlog⟩ := Option.map_eq_some_iff.mp hlog
  have hs : Reachable (EtherDreamSession.step ℚ) (start plainInfo 30000 100) s := ⟨_, o, hrun⟩
  exact ⟨s, hs, hlog, commands_valid plainInfo 30000 100 hs⟩

end EtherDreamSession

end LiberaLaser
