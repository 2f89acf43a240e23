import LiberaLaser.Backends.Helios.Worker
import LiberaLaser.Foundations.Runs

/-!
# What a step of a Helios controller does to its connection

Whatever the worker or the application does, the connection makes one of three moves (`Move`): calls
that use the handle that it holds, the handle let go, or an attempt to open the device again. Beside
these it is only told that the process is about to end (`move_step`).
-/

namespace LiberaLaser.Helios

open FloatArith

/-! ## The uses of a handle -/

def UsbEvent.handle : UsbEvent → ℕ
  | .opened handle _ | .claimed handle | .configured handle | .sent handle _ _ | .read handle _
  | .wrote handle _ _ | .released handle | .closed handle => handle

/-- The event uses a claimed interface. -/
def UsbEvent.IsUse : UsbEvent → Prop
  | .configured _ | .sent _ _ _ | .read _ _ | .wrote _ _ _ => True
  | .opened _ _ | .claimed _ | .released _ | .closed _ => False

/-- The message that opens the shutter went through. -/
def shutterOpened (handle : ℕ) : UsbEvent := .sent handle [0x02, 1] true

/-- No frame is among the events. -/
def Frameless (events : List UsbEvent) : Prop := ∀ h t b, .wrote h t b ∉ events

/-- The calls of a connection between two of its states. -/
structure Calls (c c' : UsbConnection) (events : List UsbEvent) : Prop where
  handle : c'.handle = c.handle
  number : c'.number = c.number
  opened : c'.opened = c.opened
  abandon : c'.abandonHandleOnClose = c.abandonHandleOnClose
  closed : c.closed = true → c'.closed = true
  shutter : c'.shutterOpen = true → c.shutterOpen = true ∨ shutterOpened c.number ∈ events
  uses : ∀ e ∈ events, c.handle = true ∧ e.IsUse ∧ e.handle = c.number

theorem Calls.trans {c c' c'' : UsbConnection} {events events' : List UsbEvent}
    (h : Calls c c' events) (h' : Calls c' c'' events') : Calls c c'' (events ++ events') where
  handle := h'.handle.trans h.handle
  number := h'.number.trans h.number
  opened := h'.opened.trans h.opened
  abandon := h'.abandon.trans h.abandon
  closed := h'.closed ∘ h.closed
  shutter hopen := by
    rcases h'.shutter hopen with hopen | hsent
    · exact (h.shutter hopen).imp_right (List.mem_append_left _)
    · rw [h.number] at hsent
      exact .inr (List.mem_append_right _ hsent)
  uses e he := by
    rcases List.mem_append.mp he with he | he
    · exact h.uses e he
    · rw [← h.handle, ← h.number]
      exact h'.uses e he

namespace UsbConnection

variable (c : UsbConnection)

theorem calls_self : Calls c c [] := ⟨rfl, rfl, rfl, rfl, id, .inl, by simp⟩

theorem calls_closed : Calls c { c with closed := true } [] :=
  ⟨rfl, rfl, rfl, rfl, fun _ => rfl, .inl, by simp⟩

theorem calls_afterTransfer (code : LibusbCode) : Calls c (c.afterTransfer code) [] := by
  rw [afterTransfer, DirectUsbConnection.markClosedOnDisconnectLocked]
  split
  · exact c.calls_closed
  · exact c.calls_self

/-- Calls whose last transfer fails. -/
theorem calls_marked {events : List UsbEvent} {c₀ : UsbConnection} (h : Calls c₀ c events)
    (code : LibusbCode) : Calls c₀ (c.afterTransfer code) events := by
  have htrans := h.trans (c.calls_afterTransfer code)
  rwa [List.append_nil] at htrans

/-- What is done with a usable connection. -/
theorem calls_of_use {events : List UsbEvent} (h : c.Unusable = false)
    (huse : ∀ e ∈ events, e.IsUse ∧ e.handle = c.number) : Calls c c events :=
  { c.calls_self with
    shutter := .inl
    uses := fun e he => ⟨by simp_all [Unusable], huse e he⟩ }

variable {c} {c' : UsbConnection} {result : HeliosResult} {events : List UsbEvent}

theorem sendMessage_spec {message : List UInt8} {usb : TransferOutcome}
    (h : c.sendMessage message usb = (c', result, events)) :
    Calls c c' events ∧ Frameless events ∧ (result = .success → c.handle = true) := by
  have hsent : ∀ e ∈ [sentEvent c.number message usb], e.IsUse ∧ e.handle = c.number := by
    simp [sentEvent, UsbEvent.IsUse, UsbEvent.handle]
  have hframeless : Frameless [sentEvent c.number message usb] := by simp [Frameless, sentEvent]
  rw [sendMessage, DirectUsbConnection.sendControlLocked] at h
  cases hunusable : c.Unusable with
  | true =>
    simp only [Unusable] at hunusable
    simp only [Unusable, hunusable, if_true, Prod.mk.injEq] at h
    obtain ⟨rfl, rfl, rfl⟩ := h
    exact ⟨c.calls_self, by simp [Frameless], nofun⟩
  | false =>
    have hcalls := c.calls_of_use hunusable hsent
    have hhandle : c.handle = true := (hcalls.uses _ List.mem_cons_self).1
    simp only [Unusable] at hunusable
    simp only [Unusable, hunusable, Bool.false_eq_true, if_false] at h
    split at h
    · cases h
      exact ⟨c.calls_marked hcalls usb.code, hframeless, fun _ => hhandle⟩
    · split at h <;> (cases h; exact ⟨hcalls, hframeless, fun _ => hhandle⟩)

/-- What is read is no frame either. -/
theorem exchange_spec {message : List UInt8} {usb : Exchange}
    {read : Except HeliosResult (List UInt8)}
    (h : c.exchange message usb = (c', read, events)) :
    Calls c c' events ∧ Frameless events ∧
      ∀ data, read = .ok data → .read c.number (some data) ∈ events := by
  rw [exchange] at h
  rcases hsend : c.sendMessage message usb.request with ⟨c₁, result, sent⟩
  obtain ⟨hcalls, hframeless, hhandle⟩ := sendMessage_spec hsend
  rw [hsend] at h
  cases result with
  | success =>
    have hread : Calls c₁ c₁ [usb.response.event c₁.number] :=
      { c₁.calls_self with
        shutter := .inl
        uses := by
          simp [Reply.event, UsbEvent.IsUse, UsbEvent.handle, hcalls.handle, hhandle rfl] }
    cases h
    refine ⟨c₁.calls_marked (hcalls.trans hread) usb.response.code, ?_, ?_⟩
    · intro h t b hmem
      rcases List.mem_append.mp hmem with hmem | hmem
      · exact hframeless h t b hmem
      · simp [Reply.event] at hmem
    · intro data hdata
      split at hdata
      · rename_i hsuccess
        cases hdata
        simp [Reply.event, hsuccess, hcalls.number]
      · cases hdata
  | _ =>
    cases h
    exact ⟨hcalls, hframeless, nofun⟩

/-- **The poll of the status** finds the device ready only where it says so. -/
theorem getStatus_spec {usb : Exchange} {ready : Except HeliosResult Bool}
    (h : c.getStatus usb = (c', ready, events)) :
    Calls c c' events ∧ Frameless events ∧
      (ready = .ok true → ∃ state rest, state ≠ 0 ∧
        .read c.number (some (0x83 :: state :: rest)) ∈ events) := by
  rw [getStatus] at h
  split at h
  · rename_i state rest _ hexchange
    obtain ⟨hcalls, hframeless, hread⟩ := exchange_spec hexchange
    cases h
    refine ⟨hcalls, hframeless, fun hready => ⟨state, rest, ?_, hread _ rfl⟩⟩
    simpa using hready
  all_goals
    rename_i hexchange
    obtain ⟨hcalls, hframeless, -⟩ := exchange_spec hexchange
    cases h
    exact ⟨hcalls, hframeless, nofun⟩

theorem getName_spec {usb : Exchange} {name : Except HeliosResult ByteString}
    (h : c.getName usb = (c', name, events)) : Calls c c' events ∧ Frameless events := by
  rw [getName] at h
  split at h
  all_goals
    rename_i hexchange
    obtain ⟨hcalls, hframeless, -⟩ := exchange_spec hexchange
    cases h
    exact ⟨hcalls, hframeless⟩

/-- The outcome of a write that reaches libusb, and of one that does not. -/
theorem writeFrameExtended_cases {D : Type} [FloatArith D] {limits : SdkLimits} {usb : UsbOutcomes}
    {pps flags : ℕ} {points : List HeliosPointExt} {d : DirectUsbConnection}
    {outcome : WriteOutcome}
    (h : writeFrameExtended D limits usb pps flags points d = some outcome) :
    (outcome.connection = d ∧ outcome.transfer = none ∧ outcome.result ≠ .deviceResult ∧
        ∀ code, outcome.result ≠ .libusb code) ∨
      (!d.handle || d.closed) = false ∧ ∃ write, outcome = sendFrame write usb d := by
  unfold writeFrameExtended at h
  split at h
  · cases h
    exact .inl ⟨rfl, rfl, nofun, nofun⟩
  · rename_i husable
    split at h
    · cases h
      exact .inl ⟨rfl, rfl, nofun, nofun⟩
    · split at h
      · rename_i hdup
        cases h
        unfold duplicatePoints at hdup
        refine .inl ⟨rfl, rfl, ?_⟩
        dsimp only at hdup
        split at hdup
        · split at hdup
          · cases hdup
            exact ⟨nofun, nofun⟩
          · split at hdup <;> cases hdup
            exact ⟨nofun, nofun⟩
        · cases hdup
      · split at h
        · rename_i hsub
          cases h
          unfold subSample at hsub
          refine .inl ⟨rfl, rfl, ?_⟩
          dsimp only at hsub
          split at hsub
          · split at hsub <;> cases hsub
            exact ⟨nofun, nofun⟩
          · cases hsub
        · obtain ⟨write, -, rfl⟩ := Option.map_eq_some_iff.mp h
          exact .inr ⟨by simpa using husable, write, rfl⟩

/-- The transfer of a frame uses the handle. -/
theorem sendTransfer_spec (husable : c.Unusable = false) (write : BufferWrite)
    (usb : TransferOutcome) :
    ∃ t, (sendTransfer write usb c.toDirectUsbConnection).transfer = some t ∧
      ∀ b, Calls c { c with
        toDirectUsbConnection := (sendTransfer write usb c.toDirectUsbConnection).connection }
          [.wrote c.number t b] := by
  unfold sendTransfer
  dsimp only
  have hwrote (t : Transfer) (b : Bool) : Calls c c [.wrote c.number t b] :=
    c.calls_of_use husable (by simp [UsbEvent.IsUse, UsbEvent.handle])
  split
  · exact ⟨_, rfl, fun b => c.calls_marked (hwrote _ b) usb.code⟩
  · exact ⟨_, rfl, fun b => hwrote _ b⟩

/-- The message that opens the shutter goes through, or the write ends there. -/
theorem setShutterLocked_spec (husable : c.Unusable = false) (usb : TransferOutcome) :
    (usb.Success 2 ∧ c.setShutterLocked true usb =
      ({ c.toDirectUsbConnection with shutterOpen := true }, .success)) ∨
    ∃ d result, c.setShutterLocked true usb = (d, result) ∧
      (result = .deviceResult ∨ ∃ code, result = .libusb code) ∧
      ∀ b, Calls c { c with toDirectUsbConnection := d } [.sent c.number [0x02, 1] b] := by
  have hsent (b : Bool) : Calls c c [.sent c.number [0x02, 1] b] :=
    c.calls_of_use husable (by simp [UsbEvent.IsUse, UsbEvent.handle])
  rw [Unusable] at husable
  rw [DirectUsbConnection.setShutterLocked, DirectUsbConnection.sendControlLocked]
  simp only [husable, Bool.false_eq_true, if_false]
  by_cases hcode : usb.code = .success
  · by_cases hlength : usb.actualLength = 2
    · refine .inl ⟨⟨hcode, hlength⟩, ?_⟩
      simp [hcode, hlength]
    · refine .inr ⟨c.toDirectUsbConnection, .deviceResult, ?_, .inl rfl, hsent⟩
      simp [hcode, hlength]
  · refine .inr ⟨(c.afterTransfer usb.code).toDirectUsbConnection, .libusb usb.code, ?_,
      .inr ⟨_, rfl⟩, fun b => c.calls_marked (hsent b) usb.code⟩
    simp [hcode, afterTransfer]

/-- The frame of a write comes after the message that opens the shutter, or the shutter was open. -/
theorem write_spec {D : Type} [FloatArith D] {limits : SdkLimits} {usb : UsbOutcomes}
    {pps flags : ℕ} {points : List HeliosPointExt}
    (h : c.write D limits usb pps flags points = some (c', result, events)) :
    Calls c c' events ∧ (Frameless events ∨ ∃ opening t b,
      events = opening ++ [.wrote c.number t b] ∧
      (c.shutterOpen = true ∧ opening = [] ∨ opening = [shutterOpened c.number])) := by
  obtain ⟨outcome, hwrite, hresult⟩ := Option.map_eq_some_iff.mp h
  cases hresult
  rcases writeFrameExtended_cases hwrite with
    ⟨hconn, htransfer, hresult, hcode⟩ | ⟨husable, write, rfl⟩
  · have hnone : c.writeEvents usb outcome = [] := by
      rw [writeEvents, htransfer]
      cases hout : outcome.result <;> simp_all
    rw [hconn, hnone]
    exact ⟨c.calls_self, .inl (by simp [Frameless])⟩
  · have hsend : sendFrame write usb c.toDirectUsbConnection = if c.shutterOpen then
        sendTransfer write usb.bulk c.toDirectUsbConnection else
      if (c.setShutterLocked true usb.shutter).2 ≠ .success then
        { connection := (c.setShutterLocked true usb.shutter).1, transfer := none,
          result := (c.setShutterLocked true usb.shutter).2 }
      else sendTransfer write usb.bulk (c.setShutterLocked true usb.shutter).1 := rfl
    rw [writeEvents]
    cases hopen : c.shutterOpen with
    | true =>
      obtain ⟨t, ht, hcalls⟩ := sendTransfer_spec husable write usb.bulk
      rw [hsend, if_pos hopen, ht]
      exact ⟨hcalls _, .inr ⟨[], t, _, rfl, .inl ⟨rfl, rfl⟩⟩⟩
    | false =>
      rcases setShutterLocked_spec husable usb.shutter with ⟨hsuccess, hshutter⟩ |
        ⟨d, result, hshutter, hresult, hcalls⟩
      · have hopening : Calls c { c with shutterOpen := true } [shutterOpened c.number] :=
          { c.calls_of_use husable (by simp [shutterOpened, UsbEvent.IsUse, UsbEvent.handle]) with
            shutter := fun _ => .inr List.mem_cons_self }
        obtain ⟨t, ht, hcalls⟩ := sendTransfer_spec (c := { c with shutterOpen := true }) husable
          write usb.bulk
        have hevent : sentEvent c.number [0x02, 1] usb.shutter = shutterOpened c.number := by
          simp [sentEvent, shutterOpened, hsuccess]
        rw [hsend, hopen, if_neg nofun, hshutter, if_neg (by simp), ht, hevent]
        exact ⟨hopening.trans (hcalls _), .inr ⟨_, t, _, rfl, .inr rfl⟩⟩
      · have hne : result ≠ .success := by rcases hresult with rfl | ⟨code, rfl⟩ <;> nofun
        rw [hsend, hopen, if_neg nofun, hshutter, if_pos hne]
        have hframeless : Frameless [sentEvent c.number [0x02, 1] usb.shutter] := by
          simp [Frameless, sentEvent]
        rcases hresult with rfl | ⟨code, rfl⟩
        · exact ⟨hcalls _, .inl hframeless⟩
        · exact ⟨hcalls _, .inl hframeless⟩

end UsbConnection

/-! ## Moves -/

/-- What a step does to the connection. -/
inductive Move (sdk : Sdk) (portPath : ByteString) (c : UsbConnection) :
    UsbConnection → List UsbEvent → Prop
  | calls {c' : UsbConnection} {events : List UsbEvent} (h : Calls c c' events) :
      Move sdk portPath c c' events
  | letGo (stop : Option TransferOutcome) :
      Move sdk portPath c (c.closeHandleLocked stop).1 (c.closeHandleLocked stop).2
  | reopen (devices : List UsbDevice) : Move sdk portPath c
      (c.tryReconnect sdk.version portPath devices).1
      (c.tryReconnect sdk.version portPath devices).2.2

theorem Move.abandon {sdk : Sdk} {portPath : ByteString} {c c' : UsbConnection}
    {events : List UsbEvent} (h : Move sdk portPath c c' events) :
    c'.abandonHandleOnClose = c.abandonHandleOnClose := by
  cases h with
  | calls hcalls => exact hcalls.abandon
  | letGo stop => rfl
  | reopen devices =>
    rw [UsbConnection.tryReconnect]
    split
    · rfl
    · split
      · rfl
      · dsimp only
        split <;> rfl

def HeliosEvent.usbEvent : HeliosEvent → Option UsbEvent
  | .usb event => some event
  | _ => none

/-- The uses of libusb in a trace. -/
def usbEvents (tr : List HeliosEvent) : List UsbEvent := tr.filterMap HeliosEvent.usbEvent

@[simp] theorem usbEvents_append (tr tr' : List HeliosEvent) :
    usbEvents (tr ++ tr') = usbEvents tr ++ usbEvents tr' := List.filterMap_append

@[simp] theorem usbEvents_map (events : List UsbEvent) : usbEvents (events.map .usb) = events := by
  rw [usbEvents, List.filterMap_map]
  exact List.filterMap_some

theorem usbEvents_eq_nil {tr : List HeliosEvent} (h : ∀ e ∈ tr, e.usbEvent = none) :
    usbEvents tr = [] := List.filterMap_eq_nil_iff.mpr h

theorem usbEvents_append_others {tr o : List HeliosEvent} (h : ∀ e ∈ o, e.usbEvent = none) :
    usbEvents (tr ++ o) = usbEvents tr := by
  rw [usbEvents_append, usbEvents_eq_nil h, List.append_nil]

namespace HeliosController

variable {D : Type} [FloatArith D] {F : Type} [FloatArith F] {sdk : Sdk} {c c' : HeliosController}
  {o : List HeliosEvent}

section Fail

variable (c) (failure : Failure)

@[simp] theorem countFailure_connection :
    (c.countFailure failure).1.connection = c.connection := by cases failure <;> rfl

@[simp] theorem countFailure_portPath : (c.countFailure failure).1.portPath = c.portPath := by
  cases failure <;> rfl

@[simp] theorem countFailure_phase : (c.countFailure failure).1.phase = c.phase := by
  cases failure <;> rfl

@[simp] theorem countFailure_currentPointIndex :
    (c.countFailure failure).1.currentPointIndex = c.currentPointIndex := by
  cases failure <;> rfl

/-- A failure is counted, and the tenth in a row closes the connection if it is still open. -/
theorem fail_cases :
    c.fail failure = ((c.countFailure failure).1, [.failed failure]) ∧
        ((c.countFailure failure).2 = usbReconnectErrorThreshold → c.connection.closed = true) ∨
      c.fail failure = ({ (c.countFailure failure).1 with
          connection := c.connection.requestReconnect }, [.failed failure, .requestReconnect]) ∧
        (c.countFailure failure).2 = usbReconnectErrorThreshold ∧ c.connection.closed = false := by
  rw [fail]
  dsimp only
  rw [requestReconnectAt, countFailure_connection]
  split
  · rename_i hrequest
    exact .inr ⟨rfl, hrequest⟩
  · rename_i hrequest
    refine .inl ⟨rfl, fun hcount => ?_⟩
    simpa [hcount] using hrequest

theorem fail_spec :
    Calls c.connection (c.fail failure).1.connection [] ∧ usbEvents (c.fail failure).2 = [] ∧
      (c.fail failure).1.portPath = c.portPath := by
  rcases c.fail_cases failure with ⟨hfail, -⟩ | ⟨hfail, -⟩
  · rw [hfail]
    exact ⟨c.countFailure_connection failure ▸ c.connection.calls_self, rfl,
      c.countFailure_portPath failure⟩
  · rw [hfail]
    exact ⟨c.connection.calls_closed, rfl, c.countFailure_portPath failure⟩

end Fail

/-- The three ways in which an attempt to reconnect goes. -/
theorem reconnect_cases (c : HeliosController) (sdk : Sdk) (env : Look) :
    ∃ lost : List HeliosEvent, (∀ e ∈ lost, e = .recorded "usb.connection_lost") ∧
      (c.reconnect sdk env = ({ c.forget with wasConnected := false }, lost) ∨
        ∃ connection events,
          c.connection.tryReconnect sdk.version c.portPath env.devices =
              (connection, true, events) ∧
            c.reconnect sdk env =
              ({ c.forget with wasConnected := false }.restart connection env.startedAt,
                lost ++ events.map .usb ++ [.reconnected, .resetStartupBlank]) ∨
          c.connection.tryReconnect sdk.version c.portPath env.devices =
              (connection, false, events) ∧
            c.reconnect sdk env =
              ({ c.forget with
                  wasConnected := false
                  connection := connection
                  reconnectAttemptCount := c.reconnectAttemptCount + 1
                  nextReconnectAttempt := env.now + usbReconnectInterval },
                lost ++ events.map .usb ++ [.recorded "usb.connect_failed"])) := by
  refine ⟨if c.wasConnected then [.recorded "usb.connection_lost"] else [], ?_, ?_⟩
  · split <;> simp
  · rw [reconnect]
    dsimp only
    split
    · exact .inl rfl
    · refine .inr ?_
      rcases htry : c.connection.tryReconnect sdk.version c.portPath env.devices with
        ⟨connection, done, events⟩
      refine ⟨connection, events, ?_⟩
      have htry' : c.forget.connection.tryReconnect sdk.version c.forget.portPath env.devices =
        (connection, done, events) := htry
      rw [htry']
      cases done with
      | true => exact .inl ⟨rfl, rfl⟩
      | false => exact .inr ⟨rfl, rfl⟩

theorem move_look (c : HeliosController) (env : Look) : Move sdk c.portPath c.connection
    (c.look sdk env).1.connection (usbEvents (c.look sdk env).2) := by
  rw [look]
  split
  · have hreopen : Move sdk c.portPath c.connection _ _ := .reopen env.devices
    obtain ⟨lost, hlost, hwait | ⟨connection, events, ⟨htry, hback⟩ | ⟨htry, hfailed⟩⟩⟩ :=
      c.reconnect_cases sdk env
    all_goals
      have hnone : usbEvents lost = [] := usbEvents_eq_nil fun e he => by rw [hlost e he]; rfl
    · rw [hwait, hnone]
      exact .calls c.connection.calls_self
    · rw [htry] at hreopen
      rw [hback, usbEvents_append_others (by simp [HeliosEvent.usbEvent]), usbEvents_append, hnone,
        usbEvents_map]
      exact hreopen
    · rw [htry] at hreopen
      rw [hfailed, usbEvents_append_others (by simp [HeliosEvent.usbEvent]), usbEvents_append,
        hnone, usbEvents_map]
      exact hreopen
  · split
    · exact .calls c.connection.calls_self
    · exact .calls c.connection.calls_self

theorem move_poll (c : HeliosController) (now : TimePoint) (usb : Exchange) :
    Move sdk c.portPath c.connection (c.poll now usb).1.connection
      (usbEvents (c.poll now usb).2) := by
  rw [poll]
  split
  · rename_i connection result events hstatus
    obtain ⟨hcalls, -⟩ := UsbConnection.getStatus_spec hstatus
    dsimp only
    split
    · rw [usbEvents_append_others (by simp [HeliosEvent.usbEvent]), usbEvents_map]
      exact .calls hcalls
    · obtain ⟨hfail, hevents, -⟩ := fail_spec
        { c with connection := connection, phase := .looking }
        (if result = timedOut then .statusTimeout else .statusError)
      rw [usbEvents_append, usbEvents_map, hevents]
      exact .calls (hcalls.trans hfail)
  · rename_i hstatus
    obtain ⟨hcalls, -⟩ := UsbConnection.getStatus_spec hstatus
    rw [usbEvents_append_others (by simp [HeliosEvent.usbEvent]), usbEvents_map]
    exact .calls hcalls

theorem move_writeFrame {env : Submission F} {points : List (LaserPoint F)}
    (h : c.writeFrame D sdk env points = some (c', o)) :
    Move sdk c.portPath c.connection c'.connection (usbEvents o) := by
  rw [writeFrame] at h
  dsimp only at h
  split at h
  · cases h
  · rename_i hwrite
    obtain ⟨hcalls, -⟩ := UsbConnection.write_spec hwrite
    cases h
    rw [usbEvents_append_others (by simp [HeliosEvent.usbEvent]), usbEvents_map]
    exact .calls hcalls
  · rename_i connection result events _ hwrite
    obtain ⟨hcalls, -⟩ := UsbConnection.write_spec hwrite
    obtain ⟨hfail, hevents, -⟩ := fail_spec { c with connection := connection }
      (if result = timedOut then .writeTimeout else .writeError)
    cases h
    rw [usbEvents_append, usbEvents_map, hevents]
    exact .calls (hcalls.trans hfail)

/-- **Every step** makes one move with the connection, but for the one that prepares the
shutdown. -/
theorem move_step {turn : HeliosTurn F} (h : c.step D sdk turn = some (c', o))
    (hturn : turn ≠ .prepareForShutdown) :
    Move sdk c.portPath c.connection c'.connection (usbEvents o) := by
  have hself : Move sdk c.portPath c.connection c.connection [] := .calls c.connection.calls_self
  cases turn with
  | start | leave =>
    rw [step] at h
    split at h <;> cases h
    exact hself
  | look env =>
    have hmove : Move sdk c.portPath c.connection _ _ := c.move_look env
    rw [step] at h
    split at h
    · rwa [Option.some.inj h] at hmove
    · cases h
  | poll now usb =>
    have hmove : Move sdk c.portPath c.connection _ _ := c.move_poll now usb
    rw [step] at h
    split at h
    · rwa [Option.some.inj h] at hmove
    · cases h
  | submit env =>
    rw [step] at h
    split at h
    · unfold submit at h
      split at h
      · cases h
        exact hself
      · cases h
        exact hself
      · obtain ⟨⟨c₁, events⟩, hwrite, heq⟩ := Option.map_eq_some_iff.mp h
        have hmove := move_writeFrame hwrite
        cases heq
        exact hmove
    · cases h
  | getDacName usb =>
    rw [step] at h
    rcases hname : c.connection.getName usb with ⟨connection, name, events⟩
    rw [hname] at h
    cases h
    rw [usbEvents_map]
    exact .calls (UsbConnection.getName_spec hname).1
  | setDacName name usb =>
    rw [step] at h
    rcases hname : c.connection.setName (name.take 30) usb with ⟨connection, result, events⟩
    rw [hname] at h
    cases h
    rw [usbEvents_map]
    exact .calls (UsbConnection.sendMessage_spec hname).1
  | setPointRate | setFramePointCount =>
    cases h
    exact hself
  | prepareForShutdown => exact absurd rfl hturn
  | beginClose =>
    cases h
    exact .calls c.connection.calls_closed
  | finishClose wasClosed stop =>
    rw [step] at h
    split at h <;> cases h
    rw [usbEvents_map]
    exact .letGo (if wasClosed then none else some stop)

theorem portPath_step {turn : HeliosTurn F} (h : c.step D sdk turn = some (c', o)) :
    c'.portPath = c.portPath := by
  have hlook (env : Look) : (c.look sdk env).1.portPath = c.portPath := by
    rw [look]
    split
    · obtain ⟨lost, -, hwait | ⟨connection, events, ⟨-, hback⟩ | ⟨-, hfailed⟩⟩⟩ :=
        c.reconnect_cases sdk env
      · rw [hwait]
        rfl
      · rw [hback]
        rfl
      · rw [hfailed]
        rfl
    · split <;> rfl
  have hpoll (now : TimePoint) (usb : Exchange) : (c.poll now usb).1.portPath = c.portPath := by
    rw [poll]
    split
    · dsimp only
      split
      · rfl
      · exact (fail_spec _ _).2.2
    · rfl
  cases turn with
  | look env =>
    rw [step] at h
    split at h
    · rw [← hlook env, Option.some.inj h]
    · cases h
  | poll now usb =>
    rw [step] at h
    split at h
    · rw [← hpoll now usb, Option.some.inj h]
    · cases h
  | submit env =>
    rw [step] at h
    split at h
    · unfold submit at h
      split at h
      · cases h
        rfl
      · cases h
        rfl
      · obtain ⟨⟨c₁, events⟩, hwrite, heq⟩ := Option.map_eq_some_iff.mp h
        cases heq
        rw [writeFrame] at hwrite
        dsimp only at hwrite
        split at hwrite
        · cases hwrite
        · cases hwrite
          rfl
        · cases hwrite
          exact (fail_spec _ _).2.2
    · cases h
  | getDacName | setDacName | setPointRate | setFramePointCount | prepareForShutdown | beginClose =>
    cases h
    rfl
  | start | leave | finishClose =>
    rw [step] at h
    split at h <;> cases h
    rfl

end HeliosController

end LiberaLaser.Helios
