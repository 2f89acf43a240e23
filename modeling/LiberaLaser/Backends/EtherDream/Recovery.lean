import LiberaLaser.Backends.EtherDream.LogInvariant
import LiberaLaser.Foundations.Escalation

/-!
# The recovery from an implausible point rate

A status that reports an implausible rate while the device is prepared or playing makes the worker
schedule a clear; the next such status makes it require a reboot. In between, a status that allows a
recovery and is not implausible takes the first one back. On every connection the worker is the
supervisor of `Escalation` over the statuses received (`supervises`). The status that follows the
clear is ready and idle, where no rate counts as implausible, and so may be the one that follows the
stop of a device that needs a reboot: the clears of a device that is always implausible while it is
active come to an end only where no such status stands between active ones
(`recovery_bounded_iff`).
-/

namespace LiberaLaser

open EtherDreamController Escalation Runs

namespace ConnectionEvent

/-- The statuses received on the connection. -/
def connectionStatuses (log : List ConnectionEvent) : List EtherDreamStatus :=
  log.foldl (fun statuses e => match e with
    | .connected => []
    | .received status _ => statuses ++ [status]
    | _ => statuses) []

/-- What became of the recovery on the connection. -/
def connectionRecoveries (log : List ConnectionEvent) : List RecoveryEvent :=
  log.foldl (fun recoveries e => match e with
    | .connected => []
    | .recovery event => recoveries ++ [event]
    | _ => recoveries) []

variable {log : List ConnectionEvent}

theorem connectionStatuses_concat (e : ConnectionEvent) :
    connectionStatuses (log ++ [e]) = match e with
      | .connected => []
      | .received status _ => connectionStatuses log ++ [status]
      | _ => connectionStatuses log := by
  rw [connectionStatuses, List.foldl_append]
  rfl

theorem connectionRecoveries_concat (e : ConnectionEvent) :
    connectionRecoveries (log ++ [e]) = match e with
      | .connected => []
      | .recovery event => connectionRecoveries log ++ [event]
      | _ => connectionRecoveries log := by
  rw [connectionRecoveries, List.foldl_append]
  rfl

theorem connection_append_recoveries (log : List ConnectionEvent) (events : List RecoveryEvent) :
    connectionStatuses (log ++ events.map .recovery) = connectionStatuses log ∧
      connectionRecoveries (log ++ events.map .recovery) =
        connectionRecoveries log ++ events := by
  induction events generalizing log with
  | nil => simp
  | cons event events ih =>
    rw [List.map_cons, ← List.singleton_append, ← List.append_assoc]
    obtain ⟨hstatuses, hrecoveries⟩ := ih (log ++ [.recovery event])
    rw [hstatuses, hrecoveries, connectionStatuses_concat, connectionRecoveries_concat,
      List.append_assoc, List.singleton_append]
    exact ⟨rfl, rfl⟩

end ConnectionEvent

open ConnectionEvent

namespace EtherDreamController

/-- What a status says of the point rate. -/
def reading (c : EtherDreamController) (status : EtherDreamStatus) : Reading :=
  if statusAllowsPointRateRecovery status then
    if c.statusPointRateIsImplausible status then .bad else .fine
  else .silent

/-- The recovery as a supervisor's outcome. -/
def RecoveryEvent.outcome : RecoveryEvent → Outcome
  | .clear => .retry
  | .rebootRequired => .giveUp

def recoveryFlags (c : EtherDreamController) : Flags where
  pending := c.implausiblePointRateRecoveryPending
  latched := c.rebootRequiredLatched

variable {c c' : EtherDreamController}

theorem reading_congr (h : c'.controllerInfo = c.controllerInfo) : c'.reading = c.reading := by
  have hmax : c'.maxSafePointRate = c.maxSafePointRate := by
    unfold maxSafePointRate
    rw [h]
  funext status
  have hrate :
      c'.statusPointRateIsImplausible status = c.statusPointRateIsImplausible status := by
    unfold statusPointRateIsImplausible
    rw [hmax]
  unfold reading
  rw [hrate]

variable {D : Type} [FloatArith D]

/-- **A status is a reading of the supervisor.** -/
theorem updatePlaybackRequirements_respond (c : EtherDreamController) (status : EtherDreamStatus)
    (now : TimePoint) :
    let r := c.updatePlaybackRequirements D status now
    respond c.recoveryFlags (c.reading status) =
        (r.1.recoveryFlags, r.2.map RecoveryEvent.outcome) ∧
      r.1.controllerInfo = c.controllerInfo := by
  unfold updatePlaybackRequirements reading
  dsimp only
  rw [show EtherDreamController.statusPointRateIsImplausible { c with
    lastKnownStatus := status
    lastReceiveTime := now
    thresholdAtReceipt := c.beginBufferThresholdPoints D
    playbackAction := c.actionForStatus D status } status =
      c.statusPointRateIsImplausible status from rfl]
  cases statusAllowsPointRateRecovery status <;>
    cases c.statusPointRateIsImplausible status <;>
    cases hpending : c.implausiblePointRateRecoveryPending <;>
    cases hlatched : c.rebootRequiredLatched <;>
    simp [respond, recoveryFlags, hpending, hlatched, RecoveryEvent.outcome, scheduleClearRecovery]

end EtherDreamController

namespace EtherDreamSession

/-- The recoveries of the connection, and what the worker remembers of them, are the
supervisor's. -/
def Supervises (c : EtherDreamController) (log : List ConnectionEvent) : Prop :=
  respondAll {} ((connectionStatuses log).map c.reading) =
    (c.recoveryFlags, (connectionRecoveries log).map RecoveryEvent.outcome)

variable {D : Type} [FloatArith D]

theorem supervises_received {c : EtherDreamController} {log : List ConnectionEvent}
    (h : Supervises c log) (status : EtherDreamStatus) (now : TimePoint) :
    Supervises (c.updatePlaybackRequirements D status now).1 (log ++ c.receipt D status now) := by
  obtain ⟨hrespond, hinfo⟩ := c.updatePlaybackRequirements_respond (D := D) status now
  obtain ⟨hstatuses, hrecoveries⟩ := connection_append_recoveries
    (log ++ [.received status (c.updatePlaybackRequirements D status now).1.thresholdAtReceipt])
    (c.updatePlaybackRequirements D status now).2
  rw [Supervises, receipt, ← List.singleton_append, ← List.append_assoc, hstatuses, hrecoveries,
    connectionStatuses_concat, connectionRecoveries_concat, reading_congr hinfo, List.map_append,
    List.map_singleton, respondAll_concat, h, hrespond, List.map_append]

/-- An event that is neither a status nor a recovery nor a connection leaves the supervisor
alone. -/
theorem Supervises.concat {c : EtherDreamController} {log : List ConnectionEvent}
    (h : Supervises c log) {e : ConnectionEvent}
    (hstatuses : connectionStatuses (log ++ [e]) = connectionStatuses log)
    (hrecoveries : connectionRecoveries (log ++ [e]) = connectionRecoveries log) :
    Supervises c (log ++ [e]) := by
  rw [Supervises, hstatuses, hrecoveries]
  exact h

/-- **Nothing but a status or a new connection touches the recovery.** -/
theorem logInvariant_supervises (Allows : EtherDreamController → EtherDreamCommand → Prop) :
    LogInvariant D Allows Supervises where
  modify h hadjusts := by
    rw [Supervises, reading_congr hadjusts.controllerInfo, h]
    simp only [recoveryFlags, hadjusts.recoveryPending, hadjusts.rebootRequired]
  sent h _ := h.concat (connectionStatuses_concat _) (connectionRecoveries_concat _)
  readFailed h := h.concat (connectionStatuses_concat _) (connectionRecoveries_concat _)
  accepted _ _ h := h.concat (connectionStatuses_concat _) (connectionRecoveries_concat _)
  received status now h := supervises_received h status now

/-- **On every connection the worker is the supervisor of its statuses.** -/
theorem supervises (controllerInfo : EtherDreamControllerInfo) (pointRate : ℕ) (targetLatency : ℤ)
    {s : EtherDreamSession}
    (hs : Reachable (EtherDreamSession.step D) (start controllerInfo pointRate targetLatency) s) :
    Supervises s.controller s.log := by
  have hinit : Supervises (start controllerInfo pointRate targetLatency).controller
      (start controllerInfo pointRate targetLatency).log := rfl
  have hconnect : ∀ {c : EtherDreamController} {log : List ConnectionEvent}, Supervises c log →
      Supervises { c.resetProtocolStateForConnection with connectionActive := true }
        (log ++ [.connected]) := by
    intro c log _
    rw [Supervises, connectionStatuses_concat, connectionRecoveries_concat]
    rfl
  have hheld := LogInvariant.reachable (logInvariant_supervises OfHandshake)
    (logInvariant_supervises Permits) (fun status now h => supervises_received h status now) id
    hconnect hinit rfl hs
  exact hheld.1

/-! ## A device that is always implausible -/

/-- The device is ready, and prepared or playing. -/
def Active (status : EtherDreamStatus) : Prop :=
  status.lightEngineState = .ready ∧
    (status.playbackState = .prepared ∨ status.playbackState = .playing)

def ReadyIdle (status : EtherDreamStatus) : Prop :=
  status.lightEngineState = .ready ∧ status.playbackState = .idle

/-- A ready and idle status stands between two active ones. -/
def IdleBetweenActive (statuses : List EtherDreamStatus) : Prop :=
  ∃ before first between second after,
    statuses = before ++ first :: (between ++ second :: after) ∧ Active first ∧
      (∃ status ∈ between, ReadyIdle status) ∧ Active second

/-- At most one clear is scheduled before a reboot is required, and none after that: the connection
does not go round from clear to prepare to clear. -/
def RecoveryBounded (recoveries : List RecoveryEvent) : Prop :=
  (recoveries.takeWhile (· ≠ .rebootRequired)).count .clear ≤ 1 ∧
    ∀ before after, recoveries = before ++ .rebootRequired :: after → .clear ∉ after

/-- The device reports an implausible rate whenever it is prepared or playing. -/
def AlwaysImplausible (c : EtherDreamController) (statuses : List EtherDreamStatus) : Prop :=
  ∀ status ∈ statuses, status.playbackState = .prepared ∨ status.playbackState = .playing →
    c.statusPointRateIsImplausible status = true

theorem outcome_injective : Function.Injective RecoveryEvent.outcome := by
  rintro (_ | _) (_ | _) h
  · rfl
  · cases h
  · cases h
  · rfl

theorem recoveryBounded_iff (recoveries : List RecoveryEvent) :
    RecoveryBounded recoveries ↔ EndsRetrying (recoveries.map RecoveryEvent.outcome) := by
  have hwhile : retriesBeforeGivingUp (recoveries.map RecoveryEvent.outcome) =
      (recoveries.takeWhile (· ≠ .rebootRequired)).count .clear := by
    induction recoveries with
    | nil => rfl
    | cons event recoveries ih =>
      cases event with
      | clear => simpa [retriesBeforeGivingUp, RecoveryEvent.outcome] using ih
      | rebootRequired => rfl
  refine and_congr (by rw [hwhile])
    ⟨fun h before after heq hmem => ?_, fun h before after heq => ?_⟩
  · obtain ⟨before, rest, rfl, -, hrest⟩ := List.map_eq_append_iff.mp heq
    obtain ⟨event, after, rfl, hevent, rfl⟩ := List.map_eq_cons_iff.mp hrest
    obtain rfl : event = .rebootRequired := outcome_injective hevent
    exact h before after rfl ((List.mem_map_of_injective outcome_injective).mp hmem)
  · rintro hmem
    subst heq
    exact h _ _ (by rw [List.map_append, List.map_cons]; rfl) (List.mem_map_of_mem hmem)

variable {c : EtherDreamController}

/-- Of such a device an active status is a bad reading, and a ready and idle one a fine one. -/
theorem reading_of_implausible {status : EtherDreamStatus}
    (h : status.playbackState = .prepared ∨ status.playbackState = .playing →
      c.statusPointRateIsImplausible status = true) :
    (c.reading status = .bad ↔ Active status) ∧ (c.reading status = .fine ↔ ReadyIdle status) := by
  unfold reading statusAllowsPointRateRecovery Active ReadyIdle
  cases hlight : status.lightEngineState <;> cases hplayback : status.playbackState <;>
    simp_all [isKnownLightEngineState, isKnownPlaybackState, statusPointRateIsImplausible]

/-- **The readings relapse where an idle status stands between active ones.** -/
theorem relapses_iff {statuses : List EtherDreamStatus} (h : AlwaysImplausible c statuses) :
    Relapses (statuses.map c.reading) ↔ IdleBetweenActive statuses := by
  have hreading : ∀ status ∈ statuses, (c.reading status = .bad ↔ Active status) ∧
      (c.reading status = .fine ↔ ReadyIdle status) :=
    fun status hstatus => reading_of_implausible (h status hstatus)
  constructor
  · rintro ⟨before, between, after, heq, hfine⟩
    obtain ⟨before, rest, rfl, rfl, hrest⟩ := List.map_eq_append_iff.mp heq
    obtain ⟨first, rest₁, rfl, hfirst, hrest₁⟩ := List.map_eq_cons_iff.mp hrest
    obtain ⟨between, rest₂, rfl, rfl, hrest₂⟩ := List.map_eq_append_iff.mp hrest₁
    obtain ⟨second, after, rfl, hsecond, rfl⟩ := List.map_eq_cons_iff.mp hrest₂
    obtain ⟨idle, hidle, hfine⟩ := List.mem_map.mp hfine
    exact ⟨before, first, between, second, after, rfl, (hreading _ (by simp)).1.mp hfirst,
      ⟨idle, hidle, (hreading _ (by simp [hidle])).2.mp hfine⟩, (hreading _ (by simp)).1.mp hsecond⟩
  · rintro ⟨before, first, between, second, after, rfl, hfirst, ⟨idle, hidle, hready⟩, hsecond⟩
    refine ⟨before.map c.reading, between.map c.reading, after.map c.reading, ?_, ?_⟩
    · rw [List.map_append, List.map_cons, List.map_append, List.map_cons,
        (hreading first (by simp)).1.mpr hfirst, (hreading second (by simp)).1.mpr hsecond]
    · exact List.mem_map.mpr ⟨idle, hidle, (hreading _ (by simp [hidle])).2.mpr hready⟩

/-- **The recovery is bounded where the device does not come back idle**: on every connection whose
statuses are implausible whenever the device is prepared or playing, at most one clear is scheduled
before a reboot is required and none after it, exactly if no ready and idle status stands between
two active ones. -/
theorem recovery_bounded_iff (controllerInfo : EtherDreamControllerInfo) (pointRate : ℕ)
    (targetLatency : ℤ) {s : EtherDreamSession}
    (hs : Reachable (EtherDreamSession.step D) (start controllerInfo pointRate targetLatency) s)
    (hrate : AlwaysImplausible s.controller (connectionStatuses s.log)) :
    RecoveryBounded (connectionRecoveries s.log) ↔
      ¬ IdleBetweenActive (connectionStatuses s.log) := by
  have hsupervises := congrArg Prod.snd (supervises controllerInfo pointRate targetLatency hs)
  dsimp only at hsupervises
  rw [recoveryBounded_iff, ← hsupervises, endsRetrying_iff, relapses_iff hrate]

/-! ## A device that comes back idle -/

/-- The device is prepared and reports a rate above its maximum. After the clear it answers with the
given playback state, and with the same rate. -/
def afterClear (playback : UInt8) : List EtherDreamTurn :=
  [.connect greetedIdle,
    .iterate { exchange := { reply := acknowledgement .prepare 1 0 2 } },
    .iterate { exchange := { reply := acknowledgement .clear playback 0 2 } }]

/-- The device is prepared once more. -/
def preparedAgain : List EtherDreamTurn :=
  afterClear 0 ++ [.iterate { exchange := { reply := acknowledgement .prepare 1 0 2 } }]

def preparedStatus : EtherDreamStatus where
  playbackState := .prepared
  pointRate := 131072

/-- A status of a device without a version is implausible above the maximum. -/
theorem alwaysImplausible_of_info (hinfo : c.controllerInfo = plainInfo)
    {statuses : List EtherDreamStatus}
    (h : ∀ status ∈ statuses, status = preparedStatus ∨ status.playbackState = .idle) :
    AlwaysImplausible c statuses := by
  intro status hstatus hactive
  have hmax : c.maxSafePointRate = 100000 := by
    rw [maxSafePointRate, hinfo]
    decide
  rcases h status hstatus with rfl | hidle
  · unfold statusPointRateIsImplausible
    rw [hmax]
    decide
  · rw [hidle] at hactive
    rcases hactive with hactive | hactive <;> cases hactive

/-- The device is implausible whenever it is prepared, and a second clear is scheduled before any
reboot is required: it is idle after the first. -/
theorem second_clear_scheduled : ∃ s : EtherDreamSession,
    Reachable (EtherDreamSession.step ℚ) (start plainInfo 30000 100) s ∧
      AlwaysImplausible s.controller (connectionStatuses s.log) ∧
      ¬ RecoveryBounded (connectionRecoveries s.log) := by
  have hlog : (run (EtherDreamSession.step ℚ) (start plainInfo 30000 100) preparedAgain).map
      (fun r => (r.1.controller.controllerInfo, connectionStatuses r.1.log,
        connectionRecoveries r.1.log)) =
      some (plainInfo, [{}, preparedStatus, { pointRate := 131072 }, preparedStatus],
        [.clear, .clear]) := by decide +kernel
  obtain ⟨⟨s, o⟩, hrun, hlog⟩ := Option.map_eq_some_iff.mp hlog
  simp only [Prod.mk.injEq] at hlog
  obtain ⟨hinfo, hstatuses, hrecoveries⟩ := hlog
  refine ⟨s, ⟨preparedAgain, o, hrun⟩, alwaysImplausible_of_info hinfo ?_, ?_⟩
  · rw [hstatuses]
    decide
  · rw [hrecoveries]
    exact fun h => absurd h.1 (by decide)

/-- Where the device stays prepared after the clear, a reboot is required. -/
theorem recovery_bounded_when_stuck : ∃ s : EtherDreamSession,
    Reachable (EtherDreamSession.step ℚ) (start plainInfo 30000 100) s ∧
      connectionRecoveries s.log = [.clear, .rebootRequired] ∧
      (RecoveryBounded (connectionRecoveries s.log) ↔
        ¬ IdleBetweenActive (connectionStatuses s.log)) := by
  have hlog : (run (EtherDreamSession.step ℚ) (start plainInfo 30000 100) (afterClear 1)).map
      (fun r => (r.1.controller.controllerInfo, connectionStatuses r.1.log,
        connectionRecoveries r.1.log)) =
      some (plainInfo, [{}, preparedStatus, preparedStatus], [.clear, .rebootRequired]) := by
    decide +kernel
  obtain ⟨⟨s, o⟩, hrun, hlog⟩ := Option.map_eq_some_iff.mp hlog
  simp only [Prod.mk.injEq] at hlog
  obtain ⟨hinfo, hstatuses, hrecoveries⟩ := hlog
  have hs : Reachable (EtherDreamSession.step ℚ) (start plainInfo 30000 100) s :=
    ⟨afterClear 1, o, hrun⟩
  refine ⟨s, hs, hrecoveries, recovery_bounded_iff plainInfo 30000 100 hs
    (alwaysImplausible_of_info hinfo ?_)⟩
  rw [hstatuses]
  decide

end EtherDreamSession

end LiberaLaser
