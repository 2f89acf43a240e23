import LiberaLaser.Core.LaserPoint
import LiberaLaser.Foundations.ByteString
import LiberaLaser.Foundations.Table
import LiberaLaser.Foundations.Traces
import Mathlib.Data.List.Sort

/-!
# The health of a controller

A controller counts the errors that its backend records, shows the latest of them for a while, and
logs a repeated one only once in a second. Its state says nothing of how it came about; here it is
read off the calls: the counts are those of the errors since they were cleared (`getErrors_spec`),
the status is that of the last event (`getStatus_shown`), and a log line stands for all that came
within a second of it (`log_spec`).

The counts are unbounded. The text that belongs to a code is left out.
-/

namespace LiberaLaser

open Traces

/-- `ControllerEventSeverity`, but for `None`. -/
inductive EventSeverity
  | warning
  | error
  deriving DecidableEq

inductive ControllerStatus
  | good
  | issues
  | error
  deriving DecidableEq

/-- The part of `LaserControllerStreaming` that keeps the errors. -/
structure ControllerHealth where
  controllerConnected : Bool := false
  lastWarningTick : ℤ := 0
  lastErrorTick : ℤ := 0
  recentEventHoldMillis : ℤ := 4000
  errorCounts : Table ByteString ℕ := ∅
  lastLoggedEventTicks : Table ByteString ℤ := ∅
  lastWarningCode : ByteString := []
  lastErrorCode : ByteString := []

/-- What is shown of the latest event. -/
structure ControllerRecentEvent where
  severity : EventSeverity
  code : ByteString
  age : ℤ
  holdTime : ℤ
  deriving DecidableEq

structure ControllerErrorInfo where
  code : ByteString
  count : ℕ
  deriving DecidableEq

/-- What becomes of an event that is recorded: it is logged with its count, or not. -/
inductive HealthEvent
  | logged (severity : EventSeverity) (code : ByteString) (time : ℤ) (count : ℕ)
  | quiet (severity : EventSeverity) (code : ByteString) (time : ℤ) (count : ℕ)
  | cleared
  deriving DecidableEq

/-- The ticks of a millisecond. -/
def ticksPerMilli : ℤ := 1000000

/-- The milliseconds that a 64-bit count of ticks can hold. -/
def maxHoldMillis : ℤ := 9223372036854775807 / ticksPerMilli

/-- `repeatedEventLogIntervalMillis`, in ticks. -/
def repeatedEventLogInterval : ℤ := 1000 * ticksPerMilli

namespace ControllerHealth

variable (h : ControllerHealth)

/-- Whether an event is logged, which is the `count`-th with its code. -/
def shouldLog (code : ByteString) (now : ℤ) (count : ℕ) : Bool :=
  match h.lastLoggedEventTicks.lookup code with
  | none => true
  | some tick => count = 1 || tick = 0 || repeatedEventLogInterval ≤ now - tick

def recordRecentEvent (severity : EventSeverity) (code : ByteString) (now : ℤ) :
    ControllerHealth × List HealthEvent :=
  if code.isEmpty then (h, [])
  else
    let count := (h.errorCounts.lookup code).getD 0 + 1
    let counted := { h with errorCounts := h.errorCounts.insert code count }
    let coded := match severity with
      | .error => { counted with lastErrorCode := code, lastErrorTick := now }
      | .warning => { counted with lastWarningCode := code, lastWarningTick := now }
    if h.shouldLog code now count then
      ({ coded with lastLoggedEventTicks := h.lastLoggedEventTicks.insert code now },
        [.logged severity code now count])
    else (coded, [.quiet severity code now count])

def setConnectionState (connected : Bool) : ControllerHealth :=
  { h with controllerConnected := connected }

def recordIntermittentError (errorType : ByteString) (now : ℤ) :
    ControllerHealth × List HealthEvent := h.recordRecentEvent .warning errorType now

def recordConnectionError (errorType : ByteString) (now : ℤ) :
    ControllerHealth × List HealthEvent :=
  let (h, events) := h.recordRecentEvent .error errorType now
  (h.setConnectionState false, events)

def clearErrors : ControllerHealth :=
  { h with
    lastWarningTick := 0
    lastErrorTick := 0
    errorCounts := ∅
    lastLoggedEventTicks := ∅
    lastWarningCode := []
    lastErrorCode := [] }

def setRecentEventHoldTime (holdTime : ℤ) : ControllerHealth :=
  { h with recentEventHoldMillis := max 0 holdTime }

def getRecentEventHoldTime : ℤ := max 0 h.recentEventHoldMillis

/-- The hold time in ticks, for a comparison with other ticks. The product is taken in 64 bits, and
nothing keeps it there; what wraps stands for an overflow. -/
def holdTicks : ℤ := (h.getRecentEventHoldTime * ticksPerMilli).bmod (2 ^ 64)

/-- The severity of the latest event, while it is shown. -/
def recentEventSeverityNow (now : ℤ) : Option EventSeverity :=
  if h.getRecentEventHoldTime ≤ 0 then none
  else if h.lastWarningTick = 0 ∧ h.lastErrorTick = 0 then none
  else
    let latestTick := max h.lastWarningTick h.lastErrorTick
    let eventAge := now - latestTick
    if eventAge < 0 ∨ h.holdTicks < eventAge then none
    else some (if latestTick = h.lastErrorTick then .error else .warning)

def getStatus (now : ℤ) : ControllerStatus :=
  if !h.controllerConnected then .error
  else
    match h.recentEventSeverityNow now with
    | some .error => .error
    | some .warning => .issues
    | none => .good

def getRecentEvent (now : ℤ) : Option ControllerRecentEvent :=
  (h.recentEventSeverityNow now).map fun severity =>
    let eventTick := match severity with
      | .error => h.lastErrorTick
      | .warning => h.lastWarningTick
    { severity := severity
      code := match severity with
        | .error => h.lastErrorCode
        | .warning => h.lastWarningCode
      age := max 0 ((now - eventTick).tdiv ticksPerMilli)
      holdTime := h.getRecentEventHoldTime }

/-- The order of the errors: by their counts, the highest first, and then by their codes. -/
def listedBefore (a b : ControllerErrorInfo) : Bool :=
  if a.count ≠ b.count then b.count < a.count else !decide (b.code < a.code)

def getErrors : List ControllerErrorInfo :=
  (h.errorCounts.entries.map fun e => { code := e.1, count := e.2 }).mergeSort listedBefore

end ControllerHealth

/-- A call of the backend or of the application. -/
inductive HealthCall
  | recordIntermittentError (errorType : ByteString) (now : ℤ)
  | recordConnectionError (errorType : ByteString) (now : ℤ)
  | setConnectionState (connected : Bool)
  | clearErrors
  | setRecentEventHoldTime (holdTime : ℤ)
  deriving DecidableEq

namespace ControllerHealth

def call (h : ControllerHealth) : HealthCall → ControllerHealth × List HealthEvent
  | .recordIntermittentError errorType now => h.recordIntermittentError errorType now
  | .recordConnectionError errorType now => h.recordConnectionError errorType now
  | .setConnectionState connected => (h.setConnectionState connected, [])
  | .clearErrors => (h.clearErrors, [.cleared])
  | .setRecentEventHoldTime holdTime => (h.setRecentEventHoldTime holdTime, [])

/-- A new controller after some calls. -/
def healthAfter (calls : List HealthCall) : ControllerHealth :=
  calls.foldl (fun h c => (h.call c).1) {}

/-! ## The events since the errors were cleared -/

/-- An event that was recorded. -/
structure EventRecord where
  severity : EventSeverity
  code : ByteString
  time : ℤ
  deriving DecidableEq

end ControllerHealth

open ControllerHealth

/-- The event that a call records. -/
def HealthCall.record : HealthCall → Option EventRecord
  | .recordIntermittentError errorType now =>
    if errorType.isEmpty then none else some ⟨.warning, errorType, now⟩
  | .recordConnectionError errorType now =>
    if errorType.isEmpty then none else some ⟨.error, errorType, now⟩
  | .setConnectionState _ | .clearErrors | .setRecentEventHoldTime _ => none

namespace ControllerHealth

/-- The events after one more call. -/
def recordsAfter (records : List EventRecord) (c : HealthCall) : List EventRecord :=
  if c = .clearErrors then [] else records ++ c.record.toList

/-- The events recorded since the errors were last cleared. -/
def recent (calls : List HealthCall) : List EventRecord := calls.foldl recordsAfter []

/-- The last event of a severity. -/
def last (severity : EventSeverity) (records : List EventRecord) : Option EventRecord :=
  (records.filter (·.severity = severity)).getLast?

/-- How often a code was recorded. -/
def times (code : ByteString) (records : List EventRecord) : ℕ :=
  records.countP (·.code = code)

/-- The state is that of the events since the errors were cleared. -/
structure Reflects (h : ControllerHealth) (records : List EventRecord) : Prop where
  errorTick : h.lastErrorTick = ((last .error records).map (·.time)).getD 0
  warningTick : h.lastWarningTick = ((last .warning records).map (·.time)).getD 0
  errorCode : h.lastErrorCode = ((last .error records).map (·.code)).getD []
  warningCode : h.lastWarningCode = ((last .warning records).map (·.code)).getD []
  counts : ∀ code, h.errorCounts.lookup code =
    if times code records = 0 then none else some (times code records)

theorem last_concat (severity : EventSeverity) (records : List EventRecord) (r : EventRecord) :
    last severity (records ++ [r]) =
      if r.severity = severity then some r else last severity records := by
  rw [last, List.filter_append]
  by_cases h : r.severity = severity <;> simp [h, last]

theorem times_concat (code : ByteString) (records : List EventRecord) (r : EventRecord) :
    times code (records ++ [r]) = times code records + if r.code = code then 1 else 0 := by
  simp [times, List.countP_cons]

variable {h : ControllerHealth} {records : List EventRecord}

/-- What is logged does not matter here. -/
theorem Reflects.of_eq {h' : ControllerHealth} (hr : Reflects h records)
    (herrorTick : h'.lastErrorTick = h.lastErrorTick)
    (hwarningTick : h'.lastWarningTick = h.lastWarningTick)
    (herrorCode : h'.lastErrorCode = h.lastErrorCode)
    (hwarningCode : h'.lastWarningCode = h.lastWarningCode)
    (hcounts : h'.errorCounts = h.errorCounts) : Reflects h' records where
  errorTick := herrorTick.trans hr.errorTick
  warningTick := hwarningTick.trans hr.warningTick
  errorCode := herrorCode.trans hr.errorCode
  warningCode := hwarningCode.trans hr.warningCode
  counts := by
    rw [hcounts]
    exact hr.counts

theorem Reflects.count (hr : Reflects h records) (code : ByteString) :
    (h.errorCounts.lookup code).getD 0 = times code records := by
  rw [hr.counts]
  split
  · rename_i hzero
    rw [hzero]
    rfl
  · rfl

theorem Reflects.recordRecentEvent (hr : Reflects h records) (severity : EventSeverity)
    {code : ByteString} (hcode : code.isEmpty = false) (now : ℤ) :
    Reflects (h.recordRecentEvent severity code now).1 (records ++ [⟨severity, code, now⟩]) := by
  have hcounts (k : ByteString) :
      (h.errorCounts.insert code ((h.errorCounts.lookup code).getD 0 + 1)).lookup k =
        if times k (records ++ [⟨severity, code, now⟩]) = 0 then none
        else some (times k (records ++ [⟨severity, code, now⟩])) := by
    rw [Table.lookup_insert, times_concat, hr.count]
    by_cases hk : k = code
    · simp [hk]
    · simp [hk, Ne.symm hk, hr.counts]
  rw [ControllerHealth.recordRecentEvent, if_neg (by simp [hcode])]
  cases severity with
  | warning =>
    have hcounted : Reflects { h with
        errorCounts := h.errorCounts.insert code ((h.errorCounts.lookup code).getD 0 + 1)
        lastWarningCode := code
        lastWarningTick := now } (records ++ [⟨.warning, code, now⟩]) := by
      refine ⟨?_, ?_, ?_, ?_, hcounts⟩ <;> rw [last_concat]
      · exact hr.errorTick
      · rfl
      · exact hr.errorCode
      · rfl
    dsimp only
    split
    · exact hcounted.of_eq rfl rfl rfl rfl rfl
    · exact hcounted
  | error =>
    have hcounted : Reflects { h with
        errorCounts := h.errorCounts.insert code ((h.errorCounts.lookup code).getD 0 + 1)
        lastErrorCode := code
        lastErrorTick := now } (records ++ [⟨.error, code, now⟩]) := by
      refine ⟨?_, ?_, ?_, ?_, hcounts⟩ <;> rw [last_concat]
      · rfl
      · exact hr.warningTick
      · rfl
      · exact hr.warningCode
    dsimp only
    split
    · exact hcounted.of_eq rfl rfl rfl rfl rfl
    · exact hcounted

theorem Reflects.call (hr : Reflects h records) (c : HealthCall) :
    Reflects (h.call c).1 (recordsAfter records c) := by
  rw [recordsAfter]
  cases c with
  | recordIntermittentError errorType now =>
    rw [if_neg nofun, HealthCall.record]
    split
    · rename_i hempty
      rw [ControllerHealth.call, recordIntermittentError, ControllerHealth.recordRecentEvent,
        if_pos hempty]
      simpa using hr
    · rename_i hcode
      exact hr.recordRecentEvent .warning (by simpa using hcode) now
  | recordConnectionError errorType now =>
    rw [if_neg nofun, HealthCall.record]
    split
    · rename_i hempty
      rw [ControllerHealth.call, recordConnectionError, ControllerHealth.recordRecentEvent,
        if_pos hempty]
      rw [Option.toList_none, List.append_nil]
      exact hr.of_eq rfl rfl rfl rfl rfl
    · rename_i hcode
      exact (hr.recordRecentEvent .error (by simpa using hcode) now).of_eq rfl rfl rfl rfl rfl
  | setConnectionState connected =>
    rw [if_neg nofun, HealthCall.record, Option.toList_none, List.append_nil]
    exact hr.of_eq rfl rfl rfl rfl rfl
  | clearErrors => exact ⟨rfl, rfl, rfl, rfl, fun _ => rfl⟩
  | setRecentEventHoldTime holdTime =>
    rw [if_neg nofun, HealthCall.record, Option.toList_none, List.append_nil]
    exact hr.of_eq rfl rfl rfl rfl rfl

theorem reflects_healthAfter (calls : List HealthCall) :
    Reflects (healthAfter calls) (recent calls) := by
  induction calls using List.reverseRecOn with
  | nil => exact ⟨rfl, rfl, rfl, rfl, fun _ => rfl⟩
  | append_singleton calls c ih =>
    rw [healthAfter, recent, List.foldl_append, List.foldl_append]
    exact ih.call c

/-! ## The counts -/

/-- The order in which errors are listed. -/
def ListedFirst (a b : ControllerErrorInfo) : Prop :=
  b.count < a.count ∨ a.count = b.count ∧ a.code < b.code

theorem listedBefore_iff {a b : ControllerErrorInfo} :
    listedBefore a b = true ↔ b.count < a.count ∨ a.count = b.count ∧ a.code ≤ b.code := by
  rw [listedBefore]
  by_cases hcount : a.count = b.count
  · simp [hcount]
  · simp [hcount]

/-- **The errors that are listed** are those recorded since they were cleared, each once and with
the number of its events, the most frequent first. -/
theorem getErrors_spec (calls : List HealthCall) :
    (∀ code count, { code, count } ∈ (healthAfter calls).getErrors ↔
        count = times code (recent calls) ∧ 0 < count) ∧
      ((healthAfter calls).getErrors.map (·.code)).Nodup ∧
      (healthAfter calls).getErrors.Pairwise ListedFirst := by
  generalize hh : healthAfter calls = h
  have hr : Reflects h (recent calls) := hh ▸ reflects_healthAfter calls
  have hperm : h.getErrors.Perm
      (h.errorCounts.entries.map fun e => { code := e.1, count := e.2 }) :=
    List.mergeSort_perm _ _
  have hnodup : (h.getErrors.map (·.code)).Nodup := by
    refine (hperm.map _).nodup_iff.mpr ?_
    rw [List.map_map]
    exact h.errorCounts.nodupKeys
  refine ⟨fun code count => ?_, hnodup, ?_⟩
  · have hlookup : { code, count } ∈ h.getErrors ↔ h.errorCounts.lookup code = some count := by
      rw [hperm.mem_iff, List.mem_map]
      constructor
      · rintro ⟨e, he, ⟨⟩⟩
        exact AList.mem_lookup_iff.mpr he
      · exact fun hlookup => ⟨⟨code, count⟩, AList.mem_lookup_iff.mp hlookup, rfl⟩
    rw [hlookup, hr.counts]
    split
    · simp_all
    · rw [Option.some.injEq]
      omega
  · have hsorted : h.getErrors.Pairwise fun a b => listedBefore a b = true := by
      refine List.pairwise_mergeSort (fun a b c hab hbc => ?_) (fun a b => ?_) _
      · rw [listedBefore_iff] at hab hbc ⊢
        rcases hab with hab | ⟨hab, hcode⟩ <;> rcases hbc with hbc | ⟨hbc, hcode'⟩
        · exact .inl (hbc.trans hab)
        · exact .inl (hbc ▸ hab)
        · exact .inl (hab ▸ hbc)
        · exact .inr ⟨hab.trans hbc, List.le_trans hcode hcode'⟩
      · rw [Bool.or_eq_true, listedBefore_iff, listedBefore_iff]
        rcases Nat.lt_trichotomy a.count b.count with hlt | heq | hlt
        · exact .inr (.inl hlt)
        · exact (List.le_total a.code b.code).imp (fun hle => .inr ⟨heq, hle⟩)
            fun hle => .inr ⟨heq.symm, hle⟩
        · exact .inl (.inl hlt)
    rw [List.Nodup, List.pairwise_map] at hnodup
    refine (hsorted.and hnodup).imp fun {a b} hlisted => ?_
    refine (listedBefore_iff.mp hlisted.1).imp_right (And.imp_right fun hle => ?_)
    exact (List.le_iff_lt_or_eq.mp hle).resolve_right hlisted.2

/-! ## The status -/

/-- The clock of the calls: it is positive and never goes back, and `now` is not before them. -/
structure Clocked (records : List EventRecord) (now : ℤ) : Prop where
  pos : ∀ r ∈ records, 0 < r.time
  ordered : records.Pairwise fun r r' => r.time ≤ r'.time
  le : ∀ r ∈ records, r.time ≤ now

/-- The event that is shown: the last one, for as long as it is held. Of two events at one tick it
is the error. -/
def shownEvent (holdTime : ℤ) (records : List EventRecord) (now : ℤ) : Option EventRecord :=
  records.getLast?.bind fun r =>
    if holdTime ≤ 0 ∨ holdTime * ticksPerMilli < now - r.time then none
    else (last .error records).filter (·.time = r.time) <|> some r

section Clocked

variable {now : ℤ}

/-- The tick of a severity is that of its latest event, if there is one. -/
theorem tick_spec (hclock : Clocked records now) (severity : EventSeverity) :
    (∀ e ∈ records, e.severity = severity →
        e.time ≤ ((last severity records).map (·.time)).getD 0) ∧
      (((last severity records).map (·.time)).getD 0 = 0 ∨
        ∃ e ∈ records, e.severity = severity ∧
          e.time = ((last severity records).map (·.time)).getD 0) := by
  cases hlast : last severity records with
  | none =>
    rw [last, List.getLast?_eq_none_iff, List.filter_eq_nil_iff] at hlast
    exact ⟨fun e he hseverity => absurd (decide_eq_true hseverity) (hlast e he), .inl rfl⟩
  | some r =>
    obtain ⟨before, hbefore⟩ := List.getLast?_eq_some_iff.mp hlast
    have hmem (e : EventRecord) (he : e ∈ records) (hseverity : e.severity = severity) :
        e ∈ before ++ [r] := by
      rw [← hbefore]
      exact List.mem_filter.mpr ⟨he, decide_eq_true hseverity⟩
    have hr : r ∈ records ∧ decide (r.severity = severity) = true :=
      List.mem_filter.mp (hbefore ▸ List.mem_append_right _ List.mem_cons_self)
    have hordered := hclock.ordered.filter (·.severity = severity)
    rw [hbefore, List.pairwise_append] at hordered
    refine ⟨fun e he hseverity => ?_, .inr ⟨r, hr.1, of_decide_eq_true hr.2, rfl⟩⟩
    rcases List.mem_append.mp (hmem e he hseverity) with he | he
    · exact hordered.2.2 e he r List.mem_cons_self
    · rw [List.mem_singleton.mp he]
      rfl

/-- The later of the two ticks is that of the last event, and so is its code. -/
theorem latestTick_eq (hr : Reflects h records) (hclock : Clocked records now) {r : EventRecord}
    (hlast : records.getLast? = some r) :
    max h.lastWarningTick h.lastErrorTick = r.time ∧
      (if r.time = h.lastErrorTick then
        ∃ e, last .error records = some e ∧ e.severity = .error ∧ e.time = r.time
      else last .warning records = some r ∧ r.severity = .warning) := by
  obtain ⟨before, rfl⟩ := List.getLast?_eq_some_iff.mp hlast
  have hmem : r ∈ before ++ [r] := List.mem_append_right _ List.mem_cons_self
  have hpos : 0 < r.time := hclock.pos r hmem
  have hle (e : EventRecord) (he : e ∈ before ++ [r]) : e.time ≤ r.time := by
    rcases List.mem_append.mp he with he | he
    · exact (List.pairwise_append.mp hclock.ordered).2.2 e he r List.mem_cons_self
    · rw [List.mem_singleton.mp he]
  obtain ⟨herrors, herror⟩ := tick_spec hclock .error
  obtain ⟨hwarnings, hwarning⟩ := tick_spec hclock .warning
  rw [← hr.errorTick] at herrors herror
  rw [← hr.warningTick] at hwarnings hwarning
  have herrorLe : h.lastErrorTick ≤ r.time := by
    rcases herror with hzero | ⟨e, he, -, htime⟩
    · omega
    · exact htime ▸ hle e he
  have hwarningLe : h.lastWarningTick ≤ r.time := by
    rcases hwarning with hzero | ⟨e, he, -, htime⟩
    · omega
    · exact htime ▸ hle e he
  refine ⟨?_, ?_⟩
  · cases hseverity : r.severity with
    | warning =>
      have := hwarnings r hmem hseverity
      omega
    | error =>
      have := herrors r hmem hseverity
      omega
  · split
    · rename_i heq
      rw [hr.errorTick] at heq
      cases hlastError : last .error (before ++ [r]) with
      | none =>
        rw [hlastError] at heq
        exact absurd heq hpos.ne'
      | some e =>
        rw [hlastError] at heq
        refine ⟨e, rfl, ?_, heq.symm⟩
        simpa using (List.mem_filter.mp (List.mem_of_getLast? hlastError)).2
    · rename_i hne
      have hseverity : r.severity = .warning := by
        cases hseverity : r.severity with
        | warning => rfl
        | error =>
          have := herrors r hmem hseverity
          omega
      exact ⟨by rw [last_concat, if_pos hseverity], hseverity⟩

theorem holdTicks_eq (hhold : h.getRecentEventHoldTime ≤ maxHoldMillis) :
    h.holdTicks = h.getRecentEventHoldTime * ticksPerMilli := by
  have hnonneg : 0 ≤ h.getRecentEventHoldTime := le_max_left _ _
  have hmax : maxHoldMillis = 9223372036854 := by decide
  have hticks : ticksPerMilli = 1000000 := rfl
  rw [holdTicks, hticks]
  exact Int.bmod_eq_of_le (by omega) (by omega)

/-- The severity, the tick and the code that are shown are those of one event. -/
theorem shown_spec (hr : Reflects h records) (hclock : Clocked records now)
    (hhold : h.getRecentEventHoldTime ≤ maxHoldMillis) :
    h.recentEventSeverityNow now =
        (shownEvent h.getRecentEventHoldTime records now).map (·.severity) ∧
      h.getRecentEvent now = (shownEvent h.getRecentEventHoldTime records now).map fun r =>
        { severity := r.severity
          code := r.code
          age := (now - r.time) / ticksPerMilli
          holdTime := h.getRecentEventHoldTime } := by
  have hage {r : EventRecord} (hnow : r.time ≤ now) :
      max 0 ((now - r.time).tdiv ticksPerMilli) = (now - r.time) / ticksPerMilli := by
    rw [Int.tdiv_eq_ediv_of_nonneg (by omega)]
    exact max_eq_right (Int.ediv_nonneg (by omega) (by decide))
  rw [getRecentEvent, recentEventSeverityNow, shownEvent, holdTicks_eq hhold]
  cases hlast : records.getLast? with
  | none =>
    obtain rfl := List.getLast?_eq_none_iff.mp hlast
    have hticks : h.lastWarningTick = 0 ∧ h.lastErrorTick = 0 := ⟨hr.warningTick, hr.errorTick⟩
    rw [if_pos hticks, ite_self]
    exact ⟨rfl, rfl⟩
  | some r =>
    obtain ⟨hlatest, hshown⟩ := latestTick_eq hr hclock hlast
    have hmem : r ∈ records := List.mem_of_getLast? hlast
    have hpos := hclock.pos r hmem
    have hnow := hclock.le r hmem
    have hticks : ¬(h.lastWarningTick = 0 ∧ h.lastErrorTick = 0) := by omega
    rw [Option.bind_some, if_neg hticks, hlatest]
    by_cases hnone : h.getRecentEventHoldTime ≤ 0
    · rw [if_pos hnone, if_pos (.inl hnone)]
      exact ⟨rfl, rfl⟩
    rw [if_neg hnone]
    by_cases hexpired : h.getRecentEventHoldTime * ticksPerMilli < now - r.time
    · rw [if_pos (.inr hexpired), if_pos (.inr hexpired)]
      exact ⟨rfl, rfl⟩
    have hheld : ¬(now - r.time < 0 ∨
        h.getRecentEventHoldTime * ticksPerMilli < now - r.time) := by omega
    rw [if_neg hheld, if_neg (not_or.mpr ⟨hnone, hexpired⟩)]
    by_cases heq : r.time = h.lastErrorTick
    · rw [if_pos heq] at hshown ⊢
      obtain ⟨e, hlastError, hseverity, htime⟩ := hshown
      have herror : (last .error records).filter (·.time = r.time) = some e := by
        rw [hlastError, Option.filter_some, if_pos (decide_eq_true htime)]
      rw [herror]
      refine ⟨congrArg some hseverity.symm, congrArg some ?_⟩
      dsimp only
      rw [← heq, hr.errorCode, hlastError, ← htime, hage (htime ▸ hnow), hseverity]
      rfl
    · rw [if_neg heq] at hshown ⊢
      have hwarning : (last .error records).filter (·.time = r.time) = none := by
        refine Option.filter_eq_none_iff.mpr fun e he => ?_
        rw [hr.errorTick, he] at heq
        simpa using Ne.symm heq
      rw [hwarning]
      refine ⟨congrArg some hshown.2.symm, congrArg some ?_⟩
      dsimp only
      rw [hr.warningTick, hr.warningCode, hshown.1]
      simp only [Option.map_some, Option.getD_some]
      rw [hage hnow, hshown.2]

end Clocked

/-- Since its connection was last reported, nothing has ended it. -/
def Connected : List HealthCall → Prop :=
  Since (· = .setConnectionState true) fun c =>
    c ≠ .setConnectionState false ∧ ∀ errorType now, c ≠ .recordConnectionError errorType now

/-- The time for which events are shown after some calls. -/
def holdTimeAfter (calls : List HealthCall) : ℤ :=
  calls.foldl (fun holdTime c => match c with
    | .setRecentEventHoldTime holdTime => max 0 holdTime
    | _ => holdTime) 4000

theorem recordRecentEvent_frame (h : ControllerHealth) (severity : EventSeverity)
    (code : ByteString) (now : ℤ) :
    (h.recordRecentEvent severity code now).1.controllerConnected = h.controllerConnected ∧
      (h.recordRecentEvent severity code now).1.recentEventHoldMillis =
        h.recentEventHoldMillis := by
  rw [recordRecentEvent]
  split
  · exact ⟨rfl, rfl⟩
  · cases severity <;> dsimp only <;> split <;> exact ⟨rfl, rfl⟩

theorem controllerConnected_iff (calls : List HealthCall) :
    (healthAfter calls).controllerConnected = true ↔ Connected calls := by
  refine foldl_iff_since (fun h : ControllerHealth => h.controllerConnected = true) (by decide)
    (fun h c => ?_) calls
  cases c with
  | recordIntermittentError errorType now =>
    simp [call, recordIntermittentError, (recordRecentEvent_frame h .warning errorType now).1]
  | recordConnectionError errorType now => simp [call, recordConnectionError, setConnectionState]
  | setConnectionState connected => cases connected <;> simp [call, setConnectionState]
  | clearErrors => simp [call, clearErrors]
  | setRecentEventHoldTime holdTime => simp [call, setRecentEventHoldTime]

theorem getRecentEventHoldTime_eq (calls : List HealthCall) :
    (healthAfter calls).getRecentEventHoldTime = holdTimeAfter calls := by
  refine (List.foldl_hom getRecentEventHoldTime fun h c => ?_).symm
  cases c with
  | recordIntermittentError errorType now =>
    exact congrArg (max 0) (recordRecentEvent_frame h .warning errorType now).2.symm
  | recordConnectionError errorType now =>
    exact congrArg (max 0) (recordRecentEvent_frame h .error errorType now).2.symm
  | setConnectionState connected => rfl
  | clearErrors => rfl
  | setRecentEventHoldTime holdTime => exact (max_eq_right (le_max_left 0 holdTime)).symm

/-- **What is shown** is the last event while it is held, and without a connection an error, for
hold times that a count of ticks can hold. -/
theorem getStatus_shown (calls : List HealthCall) {now : ℤ} (hclock : Clocked (recent calls) now)
    (hhold : holdTimeAfter calls ≤ maxHoldMillis) :
    let h := healthAfter calls
    let shown := shownEvent (holdTimeAfter calls) (recent calls) now
    (h.getStatus now = .error ↔ ¬Connected calls ∨ ∃ r ∈ shown, r.severity = .error) ∧
      (h.getStatus now = .issues ↔ Connected calls ∧ ∃ r ∈ shown, r.severity = .warning) ∧
      h.getRecentEvent now = shown.map fun r =>
        { severity := r.severity
          code := r.code
          age := (now - r.time) / ticksPerMilli
          holdTime := holdTimeAfter calls } := by
  rw [← getRecentEventHoldTime_eq] at hhold
  obtain ⟨hseverity, hevent⟩ := shown_spec (reflects_healthAfter calls) hclock hhold
  rw [getRecentEventHoldTime_eq] at hseverity hevent
  dsimp only
  refine ⟨?_, ?_, hevent⟩ <;>
    rw [getStatus, hseverity, ← controllerConnected_iff] <;>
    generalize shownEvent (holdTimeAfter calls) (recent calls) now = shown <;>
    cases (healthAfter calls).controllerConnected
  · simp
  · rcases shown with _ | ⟨_ | _, code, time⟩ <;> simp
  · simp
  · rcases shown with _ | ⟨_ | _, code, time⟩ <;> simp

/-- An error is shown two seconds after it, and a reconnection does not hide it. -/
theorem getStatus_shown_held :
    let calls : List HealthCall := [.setConnectionState true, .recordIntermittentError [1] 5,
      .recordConnectionError [2] 9, .setConnectionState true]
    let shown := shownEvent (holdTimeAfter calls) (recent calls) 2000000009
    ((healthAfter calls).getStatus 2000000009 = .error ↔
        ¬Connected calls ∨ ∃ r ∈ shown, r.severity = .error) ∧
      ((healthAfter calls).getStatus 2000000009 = .issues ↔
        Connected calls ∧ ∃ r ∈ shown, r.severity = .warning) ∧
      (healthAfter calls).getRecentEvent 2000000009 = some
        { severity := .error, code := [2], age := 2000, holdTime := 4000 } :=
  getStatus_shown _ ⟨by decide, by decide, by decide⟩ (by decide)

/-! ## The log -/

/-- The events of some calls. -/
def healthLog : ControllerHealth → List HealthCall → List HealthEvent
  | _, [] => []
  | h, c :: calls => (h.call c).2 ++ healthLog (h.call c).1 calls

end ControllerHealth

/-- The event that was recorded, logged or not. -/
def HealthEvent.record : HealthEvent → Option EventRecord
  | .logged severity code time _ | .quiet severity code time _ => some ⟨severity, code, time⟩
  | .cleared => none

namespace ControllerHealth

/-- The events since the errors were cleared. -/
def sinceCleared (tr : List HealthEvent) : List HealthEvent :=
  tr.foldl (fun events e => if e = .cleared then [] else events ++ [e]) []

/-- How often a code was recorded since the errors were cleared. -/
def timesIn (code : ByteString) (tr : List HealthEvent) : ℕ :=
  times code ((sinceCleared tr).filterMap HealthEvent.record)

/-- A code was logged at this tick, and the errors were not cleared since. -/
def LoggedAt (code : ByteString) (time : ℤ) (tr : List HealthEvent) : Prop :=
  ∃ severity count, .logged severity code time count ∈ sinceCleared tr

/-- An event carries its number. It is logged when a second has gone by since each time that its
code was logged, and else there is a log line of less than a second ago. -/
def Rightly (tr : List HealthEvent) : HealthEvent → Prop
  | .logged _ code time count =>
    count = timesIn code tr + 1 ∧
      ∀ t, LoggedAt code t tr → t + repeatedEventLogInterval ≤ time
  | .quiet _ code time count =>
    count = timesIn code tr + 1 ∧ ∃ t, LoggedAt code t tr ∧ time < t + repeatedEventLogInterval
  | .cleared => True

theorem healthLog_concat (h : ControllerHealth) (calls : List HealthCall) (c : HealthCall) :
    healthLog h (calls ++ [c]) =
      healthLog h calls ++ ((calls.foldl (fun h c => (h.call c).1) h).call c).2 := by
  induction calls generalizing h with
  | nil => simp [healthLog]
  | cons c' calls ih => rw [List.cons_append, healthLog, ih, healthLog, List.append_assoc]; rfl

section Log

variable {h : ControllerHealth} {tr : List HealthEvent} {e : HealthEvent}

theorem sinceCleared_concat (he : e ≠ .cleared) :
    sinceCleared (tr ++ [e]) = sinceCleared tr ++ [e] := by
  rw [sinceCleared, List.foldl_append]
  exact if_neg he

theorem timesIn_concat {r : EventRecord} (he : e.record = some r) (code : ByteString) :
    timesIn code (tr ++ [e]) = timesIn code tr + if r.code = code then 1 else 0 := by
  have hne : e ≠ .cleared := by
    rintro rfl
    cases he
  rw [timesIn, sinceCleared_concat hne, List.filterMap_append, List.filterMap_cons_some he,
    List.filterMap_nil, times_concat, timesIn]

theorem loggedAt_concat (he : e ≠ .cleared) {code : ByteString} {time : ℤ} :
    LoggedAt code time (tr ++ [e]) ↔
      LoggedAt code time tr ∨ ∃ severity count, e = .logged severity code time count := by
  rw [LoggedAt, sinceCleared_concat he]
  simp only [List.mem_append, List.mem_singleton, exists_or]
  exact or_congr_right ⟨fun ⟨s, n, h⟩ => ⟨s, n, h.symm⟩, fun ⟨s, n, h⟩ => ⟨s, n, h.symm⟩⟩

theorem LoggedAt.timesIn_pos {code : ByteString} {time : ℤ} (h : LoggedAt code time tr) :
    0 < timesIn code tr := by
  obtain ⟨severity, count, hmem⟩ := h
  refine List.countP_pos_iff.mpr ⟨⟨severity, code, time⟩, ?_, decide_eq_true rfl⟩
  exact List.mem_filterMap.mpr ⟨_, hmem, rfl⟩

/-- The state is that of the log. -/
structure Logs (h : ControllerHealth) (tr : List HealthEvent) : Prop where
  count : ∀ code, (h.errorCounts.lookup code).getD 0 = timesIn code tr
  logged : ∀ code t, h.lastLoggedEventTicks.lookup code = some t → LoggedAt code t tr ∧ t ≠ 0
  latest : ∀ code t, LoggedAt code t tr →
    ∃ t', h.lastLoggedEventTicks.lookup code = some t' ∧ t ≤ t'

/-- What is logged. -/
theorem Logs.shouldLog_iff (hlogs : Logs h tr) (code : ByteString) (now : ℤ) :
    h.shouldLog code now (timesIn code tr + 1) = true ↔
      ∀ t, LoggedAt code t tr → t + repeatedEventLogInterval ≤ now := by
  rw [shouldLog]
  cases hlookup : h.lastLoggedEventTicks.lookup code with
  | none =>
    refine iff_of_true rfl fun t ht => ?_
    obtain ⟨t', ht', -⟩ := hlogs.latest code t ht
    rw [hlookup] at ht'
    cases ht'
  | some tick =>
    obtain ⟨htick, hne⟩ := hlogs.logged code tick hlookup
    have hcount : timesIn code tr + 1 ≠ 1 := by
      have := htick.timesIn_pos
      omega
    simp only [hcount, hne, decide_false, Bool.false_or, decide_eq_true_eq]
    constructor
    · intro h t ht
      obtain ⟨t', ht', hle⟩ := hlogs.latest code t ht
      rw [hlookup] at ht'
      cases ht'
      omega
    · intro h
      have := h tick htick
      omega

theorem Logs.recordRecentEvent (hlogs : Logs h tr) (severity : EventSeverity) {code : ByteString}
    (hcode : code.isEmpty = false) {now : ℤ} (hnow : now ≠ 0) :
    ∃ e, (h.recordRecentEvent severity code now).2 = [e] ∧ e.record = some ⟨severity, code, now⟩ ∧
      Rightly tr e ∧ Logs (h.recordRecentEvent severity code now).1 (tr ++ [e]) := by
  have hcounted {e : HealthEvent} (he : e.record = some ⟨severity, code, now⟩) (k : ByteString) :
      ((h.errorCounts.insert code (timesIn code tr + 1)).lookup k).getD 0 =
        timesIn k (tr ++ [e]) := by
    rw [Table.lookup_insert, timesIn_concat he]
    by_cases hk : k = code
    · rw [if_pos hk, hk, if_pos rfl]
      rfl
    · rw [if_neg hk, if_neg (Ne.symm hk)]
      exact hlogs.count k
  rw [ControllerHealth.recordRecentEvent, if_neg (by simp [hcode])]
  dsimp only
  rw [hlogs.count]
  by_cases hlog : h.shouldLog code now (timesIn code tr + 1) = true
  · rw [if_pos hlog]
    have hspaced := (hlogs.shouldLog_iff code now).mp hlog
    refine ⟨_, rfl, rfl, ⟨rfl, hspaced⟩, ?_, fun k t ht => ?_, fun k t ht => ?_⟩
    · cases severity <;> exact hcounted rfl
    · rw [Table.lookup_insert] at ht
      rw [loggedAt_concat (HealthEvent.noConfusion ·)]
      split at ht
      · rename_i hk
        obtain rfl := Option.some.inj ht
        exact ⟨.inr ⟨severity, _, by rw [hk]⟩, hnow⟩
      · exact (hlogs.logged k t (by cases severity <;> exact ht)).imp_left .inl
    · rw [Table.lookup_insert]
      rcases (loggedAt_concat (HealthEvent.noConfusion ·)).mp ht with hold | ⟨_, _, heq⟩
      · split
        · rename_i hk
          have hle := hspaced t (hk ▸ hold)
          have hinterval : 0 ≤ repeatedEventLogInterval := by decide
          exact ⟨now, rfl, by omega⟩
        · cases severity <;> exact hlogs.latest k t hold
      · cases heq
        exact ⟨now, if_pos rfl, le_rfl⟩
  · rw [if_neg hlog]
    have hrecent : ∃ t, LoggedAt code t tr ∧ now < t + repeatedEventLogInterval := by
      rw [hlogs.shouldLog_iff] at hlog
      simpa using hlog
    have hsame (k : ByteString) (t : ℤ) :
        LoggedAt k t (tr ++ [.quiet severity code now (timesIn code tr + 1)]) ↔
          LoggedAt k t tr := by
      simp [loggedAt_concat]
    refine ⟨_, rfl, rfl, ⟨rfl, hrecent⟩, ?_, fun k t ht => ?_, fun k t ht => ?_⟩
    · cases severity <;> exact hcounted rfl
    · rw [hsame]
      exact hlogs.logged k t (by cases severity <;> exact ht)
    · cases severity <;> exact hlogs.latest k t ((hsame k t).mp ht)

/-- One call keeps it. -/
theorem Logs.call (hlogs : Logs h tr) (c : HealthCall) (hpos : ∀ r ∈ c.record, r.time ≠ 0)
    (htr : Always Rightly tr) :
    Always Rightly (tr ++ (h.call c).2) ∧ Logs (h.call c).1 (tr ++ (h.call c).2) ∧
      (h.call c).2.filterMap HealthEvent.record = c.record.toList := by
  have hsilent {h' : ControllerHealth} (hcounts : h'.errorCounts = h.errorCounts)
      (hticks : h'.lastLoggedEventTicks = h.lastLoggedEventTicks) :
      Always Rightly (tr ++ []) ∧ Logs h' (tr ++ []) ∧
        ([] : List HealthEvent).filterMap HealthEvent.record = [] := by
    rw [List.append_nil]
    exact ⟨htr, ⟨hcounts ▸ hlogs.count, hticks ▸ hlogs.logged, hticks ▸ hlogs.latest⟩, rfl⟩
  have hrecords (severity : EventSeverity) (errorType : ByteString) (now : ℤ)
      (hnow : errorType.isEmpty = false → now ≠ 0) :
      Always Rightly (tr ++ (h.recordRecentEvent severity errorType now).2) ∧
        Logs (h.recordRecentEvent severity errorType now).1
          (tr ++ (h.recordRecentEvent severity errorType now).2) ∧
        (h.recordRecentEvent severity errorType now).2.filterMap HealthEvent.record =
          if errorType.isEmpty then [] else [⟨severity, errorType, now⟩] := by
    cases hcode : errorType.isEmpty with
    | true =>
      rw [ControllerHealth.recordRecentEvent, if_pos hcode, if_pos rfl]
      exact hsilent rfl rfl
    | false =>
      obtain ⟨e, hevents, hrecord, hrightly, hlogs'⟩ :=
        hlogs.recordRecentEvent severity hcode (hnow hcode)
      rw [hevents, if_neg nofun, List.filterMap_cons_some hrecord]
      exact ⟨htr.concat hrightly, hlogs', rfl⟩
  cases c with
  | recordIntermittentError errorType now =>
    have h := hrecords .warning errorType now fun hcode =>
      hpos ⟨.warning, errorType, now⟩ (by simp [HealthCall.record, hcode])
    refine ⟨h.1, h.2.1, h.2.2.trans ?_⟩
    cases hcode : errorType.isEmpty <;> simp [HealthCall.record, hcode]
  | recordConnectionError errorType now =>
    have h := hrecords .error errorType now fun hcode =>
      hpos ⟨.error, errorType, now⟩ (by simp [HealthCall.record, hcode])
    refine ⟨h.1, ⟨h.2.1.count, h.2.1.logged, h.2.1.latest⟩, h.2.2.trans ?_⟩
    cases hcode : errorType.isEmpty <;> simp [HealthCall.record, hcode]
  | setConnectionState connected => exact hsilent rfl rfl
  | clearErrors =>
    have hcleared : sinceCleared (tr ++ [.cleared]) = [] := by
      rw [sinceCleared, List.foldl_append]
      rfl
    have hnever (k : ByteString) (t : ℤ) : ¬LoggedAt k t (tr ++ [.cleared]) := by
      rw [LoggedAt, hcleared]
      simp
    refine ⟨htr.concat trivial, ⟨fun k => ?_, nofun, fun k t ht => absurd ht (hnever k t)⟩, rfl⟩
    exact (congrArg (fun events => times k (events.filterMap HealthEvent.record)) hcleared).symm
  | setRecentEventHoldTime holdTime => exact hsilent rfl rfl

theorem logs_healthAfter (calls : List HealthCall)
    (hpos : ∀ c ∈ calls, ∀ r ∈ c.record, r.time ≠ 0) :
    Always Rightly (healthLog {} calls) ∧ Logs (healthAfter calls) (healthLog {} calls) ∧
      (healthLog {} calls).filterMap HealthEvent.record = calls.filterMap HealthCall.record := by
  induction calls using List.reverseRecOn with
  | nil => exact ⟨always_nil, ⟨fun _ => rfl, nofun, fun _ _ ⟨_, _, h⟩ => nomatch h⟩, rfl⟩
  | append_singleton calls c ih =>
    obtain ⟨htr, hlogs, hrecords⟩ := ih fun c' hc' => hpos c' (List.mem_append_left _ hc')
    obtain ⟨htr', hlogs', hrecords'⟩ :=
      hlogs.call c (hpos c (List.mem_append_right _ List.mem_cons_self)) htr
    rw [healthLog_concat, ← healthAfter]
    refine ⟨htr', ?_, ?_⟩
    · rw [healthAfter, List.foldl_append]
      exact hlogs'
    · rw [List.filterMap_append, List.filterMap_append, hrecords, hrecords']
      cases h : c.record <;> simp [h]

end Log

/-- **The log** has every event that was recorded, in order and with its number, and for each code
one line in a second. A tick of zero stands for none, so that no event may be at it. -/
theorem log_spec (calls : List HealthCall) (hpos : ∀ c ∈ calls, ∀ r ∈ c.record, r.time ≠ 0) :
    Always Rightly (healthLog {} calls) ∧
      (healthLog {} calls).filterMap HealthEvent.record = calls.filterMap HealthCall.record := by
  obtain ⟨htr, -, hrecords⟩ := logs_healthAfter calls hpos
  exact ⟨htr, hrecords⟩

/-- The second of two warnings is not logged, and once they are cleared the next error is. -/
theorem log_spec_repeated :
    Always Rightly (healthLog {} [.recordIntermittentError [1] 5, .recordIntermittentError [1] 6,
      .clearErrors, .recordConnectionError [1] 7]) ∧
      (healthLog {} [.recordIntermittentError [1] 5, .recordIntermittentError [1] 6,
        .clearErrors, .recordConnectionError [1] 7]).filterMap HealthEvent.record =
        [⟨.warning, [1], 5⟩, ⟨.warning, [1], 6⟩, ⟨.error, [1], 7⟩] :=
  log_spec _ (by decide)

end ControllerHealth

end LiberaLaser
