import LiberaLaser.Backends.Helios.Moves
import LiberaLaser.Backends.Helios.FrameBounds
import LiberaLaser.Foundations.Protocols

/-!
# The life of the USB handles of a Helios controller

A handle is opened once; if its interface can be claimed it is used, released and closed, and
otherwise it is closed at once (`Stage.next`). Every handle that a controller opens follows this, in
whatever order the worker and the application take their steps, and even where a close comes between
the steps of the worker. Only devices at the controller's own port are opened, and a handle that is
no longer held was closed, unless the process is about to end (`handles_follow_protocol`).
-/

namespace LiberaLaser.Helios

open Protocols Runs FloatArith

/-- How far the life of a handle is. -/
inductive Stage
  | fresh
  | opened
  | claimed
  | released
  | closed
  deriving DecidableEq

/-- What may be done with a handle. -/
def Stage.next : Stage → UsbEvent → Option Stage
  | .fresh, .opened _ _ => some .opened
  | .opened, .claimed _ => some .claimed
  | .opened, .closed _ => some .closed
  | .claimed, .configured _ | .claimed, .sent _ _ _ | .claimed, .read _ _
  | .claimed, .wrote _ _ _ => some .claimed
  | .claimed, .released _ => some .released
  | .released, .closed _ => some .closed
  | _, _ => none

/-- The event is a message or the read of one, or sets the interface up. -/
def UsbEvent.IsMessage : UsbEvent → Prop
  | .configured _ | .sent _ _ _ | .read _ _ => True
  | .opened _ _ | .claimed _ | .wrote _ _ _ | .released _ | .closed _ => False

theorem UsbEvent.IsMessage.isUse {e : UsbEvent} (h : e.IsMessage) : e.IsUse := by
  cases e <;> trivial

theorem next_claimed_of_isUse {e : UsbEvent} (h : e.IsUse) :
    Stage.claimed.next e = some .claimed := by
  cases e with
  | configured | sent | read | wrote => rfl
  | opened | claimed | released | closed => exact h.elim

/-- Uses of a handle that is claimed. -/
theorem leads_uses {events : List UsbEvent} (h : ∀ e ∈ events, e.IsUse) :
    Leads Stage.next .claimed events .claimed :=
  leads_of_forall fun e he => next_claimed_of_isUse (h e he)

/-! ## Opening a device -/

theorem isMessage_readFirmwareVersion (handle : ℕ) (replies : List Reply) :
    ∀ e ∈ (readFirmwareVersion handle replies).1, e.IsMessage ∧ e.handle = handle := by
  induction replies with
  | nil => simp [readFirmwareVersion]
  | cons reply replies ih =>
    rw [readFirmwareVersion]
    split
    · intro e he
      rcases List.mem_cons.mp he with rfl | he
      · exact ⟨trivial, rfl⟩
      · exact ih e he
    · simp [Reply.event, UsbEvent.IsMessage, UsbEvent.handle]

theorem isMessage_queryFirmwareVersion (handle : ℕ) (queries : List FirmwareQuery) :
    ∀ e ∈ (queryFirmwareVersion handle queries).1, e.IsMessage ∧ e.handle = handle := by
  induction queries with
  | nil => simp [queryFirmwareVersion]
  | cons query queries ih =>
    have hread := isMessage_readFirmwareVersion handle query.replies.toList
    rw [queryFirmwareVersion]
    split
    · split
      · rename_i hversion
        rw [hversion] at hread
        simpa [sentEvent, UsbEvent.IsMessage, UsbEvent.handle] using hread
      · rename_i hversion
        rw [hversion] at hread
        intro e he
        rcases List.mem_cons.mp he with rfl | he
        · exact ⟨trivial, rfl⟩
        · exact (List.mem_append.mp he).elim (hread e) (ih e)
    · intro e he
      rcases List.mem_cons.mp he with rfl | he
      · exact ⟨trivial, rfl⟩
      · exact ih e he

theorem isMessage_announceSdkVersion (sdkVersion : UInt8) (handle : ℕ)
    (outcomes : List TransferOutcome) :
    ∀ e ∈ announceSdkVersion sdkVersion handle outcomes, e.IsMessage ∧ e.handle = handle := by
  induction outcomes with
  | nil => simp [announceSdkVersion]
  | cons outcome outcomes ih =>
    rw [announceSdkVersion]
    intro e he
    rcases List.mem_cons.mp he with rfl | he
    · exact ⟨trivial, rfl⟩
    · split at he
      · cases he
      · exact ih e he

/-- A device that was opened is closed again, or its interface is claimed and its handle kept. -/
theorem startDevice_spec (sdkVersion : UInt8) (handle : ℕ) (device : UsbDevice) :
    (∀ e ∈ (startDevice sdkVersion handle device).1, e.handle = handle ∧
        (∀ h p, e ≠ .opened h p) ∧ ∀ h t b, e ≠ .wrote h t b) ∧
      Leads Stage.next .opened (startDevice sdkVersion handle device).1
        (if (startDevice sdkVersion handle device).2.isSome then .claimed else .closed) := by
  have hquery := isMessage_queryFirmwareVersion handle device.firmware.toList
  have hannounce := isMessage_announceSdkVersion sdkVersion handle device.announce.toList
  have hmessage {e : UsbEvent} (h : e.IsMessage) :
      (∀ handle p, e ≠ .opened handle p) ∧ ∀ handle t b, e ≠ .wrote handle t b := by
    refine ⟨?_, ?_⟩
    · rintro handle p rfl
      exact h
    · rintro handle t b rfl
      exact h
  rw [startDevice]
  split
  · simp [UsbEvent.handle, Leads, Stage.next]
  · split
    · simp [UsbEvent.handle, Leads, Stage.next]
    · have hall : ∀ e ∈ .configured handle ::
          (device.stale.map (fun packet => .read handle (some packet)) ++ .read handle none ::
            (queryHeliosUsbFirmwareVersion handle device.firmware).1 ++
            announceHeliosSdkVersion sdkVersion handle device.announce),
          e.IsMessage ∧ e.handle = handle := by
        intro e he
        simp only [List.mem_cons, List.mem_append, List.mem_map] at he
        rcases he with rfl | ((⟨packet, -, rfl⟩ | rfl | he) | he)
        · exact ⟨trivial, rfl⟩
        · exact ⟨trivial, rfl⟩
        · exact ⟨trivial, rfl⟩
        · exact hquery e he
        · exact hannounce e he
      dsimp only
      refine ⟨fun e he => ?_, ?_⟩
      · rcases List.mem_cons.mp he with rfl | he
        · exact ⟨rfl, by simp, by simp⟩
        · exact ⟨(hall e he).2, hmessage (hall e he).1⟩
      · exact leads_cons.mpr ⟨.claimed, rfl, leads_uses fun e he => (hall e he).1.isUse⟩

/-- The stages of the handles that a search opens, and of those before them. -/
structure Searched (stage stage' : ℕ → Stage) (opened opened' : ℕ) (kept : Option (ℕ × ℤ)) :
    Prop where
  le : opened ≤ opened'
  fresh : ∀ h, opened' ≤ h → stage' h = .fresh
  before : ∀ h < opened, stage' h = stage h
  tried : ∀ h, opened ≤ h → h < opened' → stage' h = .closed ∨ ∃ version, kept = some (h, version)
  claimed : ∀ h version, kept = some (h, version) → stage' h = .claimed ∧ h < opened'

variable {sdkVersion : UInt8} {portPath : ByteString}

/-- **A search** opens devices at the port alone, and closes them up to the one that it keeps. -/
theorem openHeliosUsbConnectionLocked_spec {opened opened' : ℕ} {devices : List UsbDevice}
    {events : List UsbEvent} {kept : Option (ℕ × ℤ)} (stage : ℕ → Stage)
    (h : openHeliosUsbConnectionLocked sdkVersion portPath opened devices = (events, kept, opened'))
    (hfresh : ∀ h, opened ≤ h → stage h = .fresh) :
    (∀ h p, .opened h p ∈ events → p = portPath ∧ opened ≤ h) ∧ Frameless events ∧
      ∃ stage', LeadsAll Stage.next UsbEvent.handle stage events stage' ∧
        Searched stage stage' opened opened' kept := by
  induction devices generalizing opened stage events with
  | nil =>
    cases h
    refine ⟨by simp, by simp [Frameless], stage, .nil, le_rfl, hfresh, fun _ _ => rfl,
      fun h hle hlt => ?_, by simp⟩
    exact absurd hle (Nat.not_le_of_lt hlt)
  | cons device devices ih =>
    rw [openHeliosUsbConnectionLocked] at h
    split at h
    · exact ih stage h hfresh
    · rename_i hdevice
      have hport : device.portPath = portPath := by
        by_contra hne
        simp [hne] at hdevice
      obtain ⟨hkey, hleads⟩ := startDevice_spec sdkVersion opened device
      rcases hstart : startDevice sdkVersion opened device with ⟨started, version⟩
      rw [hstart] at h hkey hleads
      have hstarted : ∀ e ∈ UsbEvent.opened opened device.portPath :: started,
          e.handle = opened := by
        intro e he
        rcases List.mem_cons.mp he with rfl | he
        · rfl
        · exact (hkey e he).1
      have hlife (s : Stage) (hs : Leads Stage.next .opened started s) :
          LeadsAll Stage.next UsbEvent.handle stage (.opened opened device.portPath :: started)
            (Function.update stage opened s) := by
        refine .single hstarted (leads_cons.mpr ⟨.opened, ?_, hs⟩)
        rw [hfresh opened le_rfl]
        rfl
      have hopened : ∀ h p, .opened h p ∈ UsbEvent.opened opened device.portPath :: started →
          p = portPath ∧ opened ≤ h := by
        intro h p hmem
        rcases List.mem_cons.mp hmem with heq | hmem
        · cases heq
          exact ⟨hport, le_rfl⟩
        · exact absurd rfl ((hkey _ hmem).2.1 h p)
      have hframeless : Frameless (.opened opened device.portPath :: started) := by
        intro h t b hmem
        exact absurd rfl ((hkey _ ((List.mem_cons.mp hmem).resolve_left (by simp))).2.2 h t b)
      cases version with
      | some version =>
        cases h
        refine ⟨hopened, hframeless, _, hlife .claimed hleads, ?_⟩
        exact
          { le := Nat.le_succ opened
            fresh := fun h hle => by
              rw [Function.update_of_ne (Nat.ne_of_gt hle)]
              exact hfresh h (Nat.le_of_succ_le hle)
            before := fun h hlt => Function.update_of_ne (Nat.ne_of_lt hlt) _ _
            tried := fun h hle hlt =>
              .inr ⟨version, by rw [Nat.le_antisymm (Nat.le_of_lt_succ hlt) hle]⟩
            claimed := by
              rintro h v ⟨⟩
              exact ⟨Function.update_self .., Nat.lt_succ_self _⟩ }
      | none =>
        have hclosed := hlife .closed hleads
        rcases hrest : openHeliosUsbConnectionLocked sdkVersion portPath (opened + 1) devices with
          ⟨events', kept', opened''⟩
        rw [hrest] at h
        cases h
        have hfresh' : ∀ h, opened + 1 ≤ h → Function.update stage opened .closed h = .fresh := by
          intro h hle
          rw [Function.update_of_ne (Nat.ne_of_gt hle)]
          exact hfresh h (Nat.le_of_succ_le hle)
        obtain ⟨hopened', hframeless', stage', hleads', hsearched⟩ := ih _ hrest hfresh'
        refine ⟨fun h p hmem => ?_, fun h t b hmem => ?_, stage', hclosed.append hleads', ?_⟩
        · rw [← List.cons_append] at hmem
          rcases List.mem_append.mp hmem with hmem | hmem
          · exact hopened h p hmem
          · exact (hopened' h p hmem).imp_right Nat.le_of_succ_le
        · rw [← List.cons_append] at hmem
          exact (List.mem_append.mp hmem).elim (hframeless h t b) (hframeless' h t b)
        · exact
            { hsearched with
              le := Nat.le_of_succ_le hsearched.le
              before := fun h hlt => by
                rw [hsearched.before h (Nat.lt_succ_of_lt hlt),
                  Function.update_of_ne (Nat.ne_of_lt hlt)]
              tried := fun h hle hlt => by
                rcases Nat.eq_or_lt_of_le hle with rfl | hle
                · rw [hsearched.before _ (Nat.lt_succ_self _), Function.update_self]
                  exact .inl rfl
                · exact hsearched.tried h hle hlt }

/-! ## The invariant -/

/-- The stages of the handles fit the connection. -/
structure StagesOf (stage : ℕ → Stage) (c : UsbConnection) : Prop where
  fresh : ∀ h, c.opened ≤ h → stage h = .fresh
  held : c.handle = true → stage c.number = .claimed ∧ c.number < c.opened
  past : c.abandonHandleOnClose = false → ∀ h < c.opened,
    stage h = .closed ∨ c.handle = true ∧ h = c.number

/-- Every handle follows the protocol. -/
structure UsbInvariant (events : List UsbEvent) (portPath : ByteString) (c : UsbConnection) :
    Prop where
  stages : ∃ stage, LeadsAll Stage.next UsbEvent.handle (fun _ => .fresh) events stage ∧
    StagesOf stage c
  ports : ∀ h p, .opened h p ∈ events → p = portPath

variable {sdk : Sdk} {c c' : UsbConnection} {events events' : List UsbEvent}

theorem UsbInvariant.calls (h : UsbInvariant events portPath c) (hcalls : Calls c c' events') :
    UsbInvariant (events ++ events') portPath c' where
  stages := by
    obtain ⟨stage, hleads, hstages⟩ := h.stages
    have hstay : LeadsAll Stage.next UsbEvent.handle stage events' stage := by
      cases hhandle : c.handle with
      | true =>
        refine .stay (fun e he => (hcalls.uses e he).2.2) fun e he => ?_
        rw [(hstages.held hhandle).1]
        exact next_claimed_of_isUse (hcalls.uses e he).2.1
      | false =>
        have hnone : events' = [] := List.eq_nil_iff_forall_not_mem.mpr fun e he => by
          have hused := (hcalls.uses e he).1
          rw [hhandle] at hused
          cases hused
        rw [hnone]
        exact .nil
    refine ⟨stage, hleads.append hstay, ?_, ?_, ?_⟩
    · rw [hcalls.opened]
      exact hstages.fresh
    · rw [hcalls.handle, hcalls.number, hcalls.opened]
      exact hstages.held
    · rw [hcalls.abandon, hcalls.opened, hcalls.handle, hcalls.number]
      exact hstages.past
  ports handle p hmem := by
    rcases List.mem_append.mp hmem with hmem | hmem
    · exact h.ports handle p hmem
    · exact (hcalls.uses _ hmem).2.1.elim

theorem UsbInvariant.abandon (h : UsbInvariant events portPath c) :
    UsbInvariant events portPath c.prepareForShutdown where
  stages := by
    obtain ⟨stage, hleads, hstages⟩ := h.stages
    exact ⟨stage, hleads, hstages.fresh, hstages.held, nofun⟩
  ports := h.ports

theorem UsbInvariant.letGo (h : UsbInvariant events portPath c) (stop : Option TransferOutcome) :
    UsbInvariant (events ++ (c.closeHandleLocked stop).2) portPath
      (c.closeHandleLocked stop).1 := by
  obtain ⟨stage, hleads, hstages⟩ := h.stages
  rw [UsbConnection.closeHandleLocked]
  dsimp only
  split
  · rename_i hkept
    rw [List.append_nil]
    refine ⟨⟨stage, hleads, hstages.fresh, nofun, fun habandon handle hlt => .inl ?_⟩, h.ports⟩
    dsimp only at habandon
    refine (hstages.past habandon handle hlt).resolve_right fun hheld => ?_
    simp [habandon, hheld.1] at hkept
  · rename_i hkept
    have hheld : c.handle = true := by
      by_contra hhandle
      simp [hhandle] at hkept
    obtain ⟨hclaimed, hlt⟩ := hstages.held hheld
    have hkey : ∀ e ∈ stop.toList.map (sentEvent c.number [0x01, 0]) ++
        [.released c.number, .closed c.number], e.handle = c.number := by
      cases stop <;> simp [sentEvent, UsbEvent.handle]
    have hclose : Leads Stage.next (stage c.number)
        (stop.toList.map (sentEvent c.number [0x01, 0]) ++
          [.released c.number, .closed c.number]) .closed := by
      rw [hclaimed]
      refine (leads_uses fun e he => ?_).append (by simp [Leads, Stage.next])
      obtain ⟨outcome, -, rfl⟩ := List.mem_map.mp he
      trivial
    refine ⟨⟨_, hleads.append (.single hkey hclose), ?_, nofun, ?_⟩, fun handle p hmem => ?_⟩
    · intro handle hle
      rw [Function.update_of_ne (by rintro rfl; exact absurd hlt (Nat.not_lt_of_le hle))]
      exact hstages.fresh handle hle
    · intro habandon handle hlt'
      by_cases heq : handle = c.number
      · rw [heq, Function.update_self]
        exact .inl rfl
      · rw [Function.update_of_ne heq]
        exact .inl ((hstages.past habandon handle hlt').resolve_right fun hheld => heq hheld.2)
    · rcases List.mem_append.mp hmem with hmem | hmem
      · exact h.ports handle p hmem
      · cases stop <;> simp [sentEvent] at hmem

/-- A search from a connection without a handle. -/
theorem UsbInvariant.search (h : UsbInvariant events portPath c) (hhandle : c.handle = false)
    {devices : List UsbDevice} {kept : Option (ℕ × ℤ)} {opened : ℕ}
    (hopen : openHeliosUsbConnectionLocked sdkVersion portPath c.opened devices =
      (events', kept, opened)) {c' : UsbConnection} (hopened : c'.opened = opened)
    (habandon : c'.abandonHandleOnClose = c.abandonHandleOnClose)
    (hkept : c'.handle = true ↔ ∃ version, kept = some (c'.number, version))
    (hheld : ∀ number version, kept = some (number, version) → number = c'.number) :
    UsbInvariant (events ++ events') portPath c' := by
  obtain ⟨stage, hleads, hstages⟩ := h.stages
  obtain ⟨hports, -, stage', hleads', hsearched⟩ :=
    openHeliosUsbConnectionLocked_spec stage hopen hstages.fresh
  refine ⟨⟨stage', hleads.append hleads', ?_, ?_, ?_⟩, fun handle p hmem => ?_⟩
  · rw [hopened]
    exact hsearched.fresh
  · intro hhandle'
    obtain ⟨version, hversion⟩ := hkept.mp hhandle'
    rw [hopened]
    exact hsearched.claimed _ _ hversion
  · rw [habandon, hopened]
    intro habandon handle hlt
    rcases Nat.lt_or_ge handle c.opened with hbefore | hbefore
    · rw [hsearched.before handle hbefore]
      refine .inl ((hstages.past habandon handle hbefore).resolve_right fun hheld => ?_)
      rw [hhandle] at hheld
      cases hheld.1
    · refine (hsearched.tried handle hbefore hlt).imp_right fun ⟨version, hversion⟩ => ?_
      obtain rfl := hheld _ _ hversion
      exact ⟨hkept.mpr ⟨version, hversion⟩, rfl⟩
  · rcases List.mem_append.mp hmem with hmem | hmem
    · exact h.ports handle p hmem
    · exact (hports handle p hmem).1

theorem UsbInvariant.reopen (h : UsbInvariant events portPath c) (devices : List UsbDevice) :
    UsbInvariant (events ++ (c.tryReconnect sdkVersion portPath devices).2.2) portPath
      (c.tryReconnect sdkVersion portPath devices).1 := by
  have hself : UsbInvariant (events ++ []) portPath c := h.calls c.calls_self
  have hlet := h.letGo none
  have hhandle : (c.closeHandleLocked none).1.handle = false := rfl
  rw [UsbConnection.tryReconnect]
  split
  · exact hself
  · split
    · exact hself
    · dsimp only
      rcases hopen : openHeliosUsbConnectionLocked sdkVersion portPath
        (c.closeHandleLocked none).1.opened devices with ⟨events', kept, opened⟩
      cases kept with
      | none =>
        dsimp only
        rw [← List.append_assoc]
        exact hlet.search hhandle hopen rfl rfl (by simp [hhandle]) (by simp)
      | some kept =>
        obtain ⟨number, version⟩ := kept
        dsimp only
        rw [← List.append_assoc]
        refine hlet.search hhandle hopen rfl rfl (by simp) ?_
        rintro _ _ ⟨⟩
        rfl

theorem UsbInvariant.move (h : UsbInvariant events portPath c)
    (hmove : Move sdk portPath c c' events') : UsbInvariant (events ++ events') portPath c' := by
  cases hmove with
  | calls hcalls => exact h.calls hcalls
  | letGo stop => exact h.letGo stop
  | reopen devices => exact h.reopen devices

namespace HeliosController

variable {D : Type} [FloatArith D] {F : Type} [FloatArith F] {pointRate : ℕ} {now : TimePoint}
  {devices : List UsbDevice} {c c' : HeliosController} {o o' : List HeliosEvent}
  {turns : List (HeliosTurn F)}

theorem usbInvariant_connectUsb
    (h : connectUsb D sdk portPath devices pointRate now = (some c, o)) :
    UsbInvariant (usbEvents o) portPath c.connection ∧ c.portPath = portPath ∧
      c.connection.abandonHandleOnClose = false := by
  rw [connectUsb] at h
  split at h
  · cases h
  · split at h
    · cases h
    · rename_i events number version opened hopen
      cases h
      obtain ⟨hports, -, stage, hleads, hsearched⟩ :=
        openHeliosUsbConnectionLocked_spec (fun _ => .fresh) hopen fun _ _ => rfl
      rw [usbEvents_map]
      refine ⟨⟨⟨stage, hleads, hsearched.fresh, fun _ => hsearched.claimed _ _ rfl, ?_⟩,
        fun handle p hmem => (hports handle p hmem).1⟩, rfl, rfl⟩
      intro _ handle hlt
      refine (hsearched.tried handle (Nat.zero_le _) hlt).imp_right ?_
      rintro ⟨version, ⟨⟩⟩
      exact ⟨rfl, rfl⟩

theorem usbInvariant_step {turn : HeliosTurn F} {tr : List HeliosEvent}
    (hinv : UsbInvariant (usbEvents tr) c.portPath c.connection)
    (h : c.step D sdk turn = some (c', o)) :
    UsbInvariant (usbEvents (tr ++ o)) c'.portPath c'.connection := by
  rw [usbEvents_append, portPath_step h]
  by_cases hturn : turn = .prepareForShutdown
  · subst hturn
    cases h
    have habandon := hinv.abandon
    rwa [← List.append_nil (usbEvents tr)] at habandon
  · exact hinv.move (move_step h hturn)

/-- **Every handle is opened, used, released and closed in this order**, at the port of the
controller alone. As long as the process is not about to end, the handle that the controller holds
is the only one that is open. -/
theorem handles_follow_protocol
    (hconnect : connectUsb D sdk portPath devices pointRate now = (some c, o))
    (hrun : run (fun c turn => step c D sdk turn) c turns = some (c', o')) :
    (∀ h p, .opened h p ∈ usbEvents (o ++ o') → p = portPath) ∧
      ∀ h, ∃ stage, Leads Stage.next .fresh ((usbEvents (o ++ o')).filter (·.handle = h)) stage ∧
        (c'.connection.handle = true → h = c'.connection.number → stage = .claimed) ∧
        (.prepareForShutdown ∉ turns →
          stage = .fresh ∨ stage = .closed ∨
            c'.connection.handle = true ∧ h = c'.connection.number) := by
  obtain ⟨hinit, hport, habandon⟩ := usbInvariant_connectUsb hconnect
  have hinv : UsbInvariant (usbEvents (o ++ o')) c'.portPath c'.connection ∧
      c'.portPath = portPath :=
    run_invariant (I := fun tr c => UsbInvariant (usbEvents tr) c.portPath c.connection ∧
        c.portPath = portPath)
      (fun tr c turn c' o hinv _ h =>
        ⟨usbInvariant_step hinv.1 h, (portPath_step h).trans hinv.2⟩)
      ⟨by rwa [hport], hport⟩ (Along.of_forall (P := fun _ => True) (fun _ _ => trivial) _ _) hrun
  obtain ⟨⟨⟨stage, hleads, hstages⟩, hports⟩, hport'⟩ := hinv
  rw [hport'] at hports
  refine ⟨hports, fun h => ⟨stage h, hleads h, ?_, fun hturns => ?_⟩⟩
  · rintro hhandle rfl
    exact (hstages.held hhandle).1
  · have hguard : Along (fun c turn => step c D sdk turn)
        (fun _ _ turn => turn ≠ .prepareForShutdown) o c turns := by
      have hall : ∀ turn ∈ turns, turn ≠ .prepareForShutdown := by
        rintro turn hmem rfl
        exact hturns hmem
      exact Along.of_forall hall o c
    have hkept : c'.connection.abandonHandleOnClose = false :=
      run_invariant (I := fun _ c => c.connection.abandonHandleOnClose = false)
        (fun tr c turn c' o hinv hturn h => (move_step h hturn).abandon.trans hinv) habandon
        hguard hrun
    rcases Nat.lt_or_ge h c'.connection.opened with hlt | hle
    · exact .inr (hstages.past hkept h hlt)
    · exact .inl (hstages.fresh h hle)

/-- A message of two bytes that goes through, and a device that starts at once. -/
def plainTransfer : TransferOutcome := ⟨.success, 2⟩

def plainDevice : UsbDevice where
  isHelios := true
  portPath := [49]
  opens := true
  claims := true
  configures := true
  stale := []
  firmware := Vector.replicate 2 ⟨plainTransfer, Vector.replicate 3 ⟨.success, [0x84, 9, 0, 0, 0]⟩⟩
  announce := Vector.replicate 2 plainTransfer

def plainSdk : Sdk := ⟨deviceLimits, 6, 1⟩

def plainPoint : LaserPoint ℚ :=
  { x := 0.0, y := 0.0, r := 0.0, g := 0.0, b := 0.0, i := 0.0, u1 := 0.0, u2 := 0.0 }

/-- A frame is written while a close begins, and the handle is let go before the worker is back. -/
def closedWhileWriting : List (HeliosTurn ℚ) :=
  [.start, .look ⟨1, 2, []⟩, .poll 3 ⟨plainTransfer, ⟨.success, [0x83, 1]⟩⟩,
    .submit ⟨4, some [plainPoint], 5, 6, 7, ⟨plainTransfer, ⟨.success, 12⟩⟩⟩,
    .beginClose, .look ⟨8, 9, [plainDevice]⟩, .finishClose false plainTransfer]

theorem handles_follow_protocol_closed :
    ∃ c o c' o', connectUsb ℚ plainSdk [49] [plainDevice] 1000 0 = (some c, o) ∧
      run (fun c turn => step c ℚ plainSdk turn) c closedWhileWriting = some (c', o') ∧
      (∀ h p, .opened h p ∈ usbEvents (o ++ o') → p = [49]) ∧
      ∃ stage, Leads Stage.next .fresh ((usbEvents (o ++ o')).filter (·.handle = 0)) stage := by
  have hsome : ((connectUsb ℚ plainSdk [49] [plainDevice] 1000 0).1.bind fun c =>
      run (fun c turn => step c ℚ plainSdk turn) c closedWhileWriting).isSome = true := by
    decide +kernel
  rcases hconnect : connectUsb ℚ plainSdk [49] [plainDevice] 1000 0 with ⟨_ | c, o⟩
  · rw [hconnect] at hsome
    cases hsome
  · rw [hconnect] at hsome
    obtain ⟨⟨c', o'⟩, hrun⟩ := Option.isSome_iff_exists.mp hsome
    obtain ⟨hports, hstages⟩ := handles_follow_protocol hconnect hrun
    obtain ⟨stage, hleads, -⟩ := hstages 0
    exact ⟨c, o, c', o', rfl, hrun, hports, stage, hleads⟩

end HeliosController

end LiberaLaser.Helios
