import LiberaLaser.Backends.LaserCubeUsb.Session
import LiberaLaser.Foundations.Protocols
import LiberaLaser.Foundations.Runs

/-!
# What a LaserCube sees on the USB

The traffic of a controller is a partial automaton (`Stage.next`). There is at most one handle. It
is that of the device whose serial number was asked for; both its interfaces are claimed before it
is used, and they are released in the opposite order before it is closed. The firmware is put into
its known state by a fixed list of commands, and then come commands about the point rate, and
packets.

A packet has whole points, as many as were asked for or fewer, and goes only to a device that has
taken a rate, which is the one that the worker's estimates use. It is sent again only after a
timeout and twice at most. The connection is given up after ten failed commands or ten packets in a
row that have timed out, after any other failure of a packet, and at no other time unless the
application ends it. After an attempt to connect again that failed the next waits for two seconds,
unless a connection was made in between.

Whatever the worker and the application do and whatever libusb answers, the traffic follows this
(`handle_follows_grammar`).
-/

namespace LiberaLaser.LaserCubeUsb

open Protocols Runs FloatArith BufferEstimator Helios

/-- The rate that a command sets, if it does. -/
def decodeRate : List UInt8 → Option UInt32
  | 0x82 :: rate => if rate.length = 4 then some (UInt32.ofNat (Endian.little rate)) else none
  | _ => none

/-- What the device has taken since it was started: the rate, the points that were asked for last,
and how many commands and packets have failed in a row. -/
structure Link where
  rate : UInt32 := 0
  asked : ℕ := 0
  controlErrors : ℕ := 0
  timeouts : ℕ := 0
  deriving DecidableEq

/-- How far the traffic is. -/
inductive Phase
  | down (retryAt : Option TimePoint) (found : Option ℕ)
  | claiming (retryAt : Option TimePoint) (count : ℕ)
  | starting (left : List Command)
  | streaming (link : Link)
  | retrying (link : Link) (packet : List UInt8) (left : ℕ)
  | leaving
  | closing (retryAt : Option TimePoint) (count : ℕ)
  deriving DecidableEq

/-- The phase, and the serial number that was asked for. -/
structure Stage where
  wanted : ByteString := []
  phase : Phase := .down none none
  deriving DecidableEq

namespace Link

variable (link : Link)

def GivenUp : Prop :=
  link.controlErrors = usbReconnectErrorThreshold ∨ link.timeouts = usbReconnectErrorThreshold

/-- The packet has whole points, as many as were asked for or fewer, and the device has a rate. -/
def Fits (packet : List UInt8) : Prop :=
  link.rate ≠ 0 ∧ packet ≠ [] ∧ 8 ∣ packet.length ∧ packet.length ≤ 8 * link.asked

instance : Decidable link.GivenUp := inferInstanceAs (Decidable (_ ∨ _))

instance (packet : List UInt8) : Decidable (link.Fits packet) :=
  inferInstanceAs (Decidable (_ ∧ _))

/-- The command about the rate was answered. -/
def afterControl (rate : UInt32) (ok : Bool) : Link :=
  if ok then { link with rate := rate, asked := 0, controlErrors := 0 }
  else { link with asked := 0, controlErrors := link.controlErrors + 1 }

/-- The packet is not sent again. -/
def settled (packet : List UInt8) (outcome : TransferOutcome) : Phase :=
  if outcome.code = .success ∧ outcome.actualLength = packet.length then
    .streaming { link with asked := 0, timeouts := 0 }
  else if outcome.code = timeout then
    .streaming { link with asked := 0, timeouts := link.timeouts + 1 }
  else .leaving

/-- The packet was sent, and may be sent again some more times. -/
def afterTry (packet : List UInt8) (outcome : TransferOutcome) (left : ℕ) : Phase :=
  if outcome.code = timeout ∧ 0 < left then .retrying link packet (left - 1)
  else link.settled packet outcome

end Link

/-- The commands that put the firmware into a known state. -/
def startCommands : List Command :=
  [.enableOutput, .readMaxRate, .readBulkCount, .runnerModeEnable true, .runnerModeEnable false,
    .runnerModeRun true, .runnerModeRun false, .runnerModeLoad]

namespace Phase

/-- The phase with some commands left. -/
def start : List Command → Phase
  | [] => .streaming {}
  | command :: left => .starting (command :: left)

/-- What is left of a handle is released. -/
def release (retryAt : Option TimePoint) : ℕ → UsbEvent → Option Phase
  | 2, .released 1 => some (.closing retryAt 1)
  | 1, .released 0 => some (.closing retryAt 0)
  | 0, .closed => some (.down retryAt none)
  | _, _ => none

/-- What may happen, where a serial number was asked for. -/
def next (wanted : ByteString) : Phase → UsbEvent → Option Phase
  | .down retryAt _, .attempt now =>
    if ∀ time ∈ retryAt, time ≤ now then some (.down (some (now + usbReconnectInterval)) none)
    else none
  | .down retryAt _, .probed device serial =>
    some (.down retryAt (if serial = some wanted then some device else none))
  | .down retryAt found, .opened device =>
    if found = some device then some (.claiming retryAt 0) else none
  | .claiming retryAt 0, .claimed 0 => some (.claiming retryAt 1)
  | .claiming retryAt 1, .claimed 1 => some (.claiming retryAt 2)
  | .claiming _ 2, .configured => some (.starting startCommands)
  | .claiming retryAt count, e => release retryAt count e
  | .starting (command :: left), .control bytes _ =>
    if bytes = command.bytes then some (.start left) else none
  | .streaming link, .control bytes ok =>
    if link.GivenUp then none
    else (decodeRate bytes).map fun rate => .streaming (link.afterControl rate ok)
  | .streaming link, .requested request =>
    if link.GivenUp ∨ link.rate = 0 ∨ 1024 < request.maximumPointsRequired then none
    else some (.streaming { link with asked := request.maximumPointsRequired })
  | .streaming link, .wrote packet outcome =>
    if link.Fits packet ∧ ¬link.GivenUp then some (link.afterTry packet outcome 2) else none
  | .streaming link, .released 1 => if link.GivenUp then some (.closing none 1) else none
  | .retrying link packet left, .wrote again outcome =>
    if again = packet then some (link.afterTry packet outcome left) else none
  | .leaving, e => release none 2 e
  | .closing retryAt count, e => release retryAt count e
  | _, _ => none

/-- What is left where the application ends the connection. -/
def ended : Phase → Option Phase
  | .down _ _ => some (.down none none)
  | .streaming _ => some .leaving
  | _ => none

end Phase

namespace Stage

/-- What may happen. -/
def next (stage : Stage) : UsbEvent → Option Stage
  | .connect serial =>
    match stage.phase with
    | .down retryAt _ => some ⟨serial, .down retryAt none⟩
    | phase => phase.ended.map (⟨serial, ·⟩)
  | .close => stage.phase.ended.map ({ stage with phase := · })
  | e => (stage.phase.next stage.wanted e).map ({ stage with phase := · })

end Stage

/-! ## Phases and states -/

/-- The traffic so far leads to a phase. -/
def On (wanted : ByteString) (phase : Phase) (tr : List UsbEvent) : Prop :=
  Leads Stage.next {} tr ⟨wanted, phase⟩

variable {wanted : ByteString} {phase phase' : Phase} {link : Link} {retryAt : Option TimePoint}
  {tr : List UsbEvent} {c c' : Session} {e : UsbEvent}

theorem On.append {wanted' : ByteString} (h : On wanted phase tr)
    (he : Stage.next ⟨wanted, phase⟩ e = some ⟨wanted', phase'⟩) : On wanted' phase' (tr ++ [e]) :=
  leads_append.mpr ⟨_, h, leads_cons.mpr ⟨_, he, leads_nil.mpr rfl⟩⟩

section Rules

variable {P Q : Session → Prop}

/-- The rule of an event. -/
theorem triple_event {wanted' : ByteString} {R : Session → List UsbEvent → Prop}
    (h : Stage.next ⟨wanted, phase⟩ e = some ⟨wanted', phase'⟩) :
    Act.Triple (fun c tr => On wanted phase tr ∧ P c) (event e)
      (fun c tr => On wanted' phase' tr ∧ P c) R :=
  Act.triple_emit fun _ _ hs => ⟨hs.1.append h, hs.2⟩

/-- The rule of a change of the state alone. -/
theorem triple_keep {f : Session → Session} {R : Session → List UsbEvent → Prop}
    (h : ∀ c, P c → Q (f c)) :
    Act.Triple (fun c tr => On wanted phase tr ∧ P c) (Act.modify f)
      (fun c tr => On wanted phase tr ∧ Q c) R :=
  Act.triple_modify fun c _ hs => ⟨hs.1, h c hs.2⟩

end Rules

/-- No handle is open, and an attempt may have set a time for the next. -/
def Down (wanted : ByteString) (retryAt : Option TimePoint) (P : Session → Prop) (c : Session)
    (tr : List UsbEvent) : Prop :=
  (∃ found, On wanted (.down retryAt found) tr) ∧ P c

/-! ## Opening -/

section Opening

variable {P : Session → Prop}

theorem triple_fail {Q R : Session → List UsbEvent → Prop} (h : ∀ c tr, Q c tr → R c tr)
    {Q' : Session → List UsbEvent → Prop} : Act.Triple Q fail Q' R :=
  Act.triple_stop h

/-- The rule of a claim, after which the phase goes on, or what was claimed is released. -/
theorem triple_step {ok : Bool} {clean : UsbAct}
    (he : Stage.next ⟨wanted, phase⟩ e = some ⟨wanted, phase'⟩)
    (hclean : Act.Triple (fun c tr => On wanted phase tr ∧ P c) clean (Down wanted retryAt P)
      (Down wanted retryAt P)) :
    Act.Triple (fun c tr => On wanted phase tr ∧ P c) ((if ok then event e else fail).orElse clean)
      (fun c tr => On wanted phase' tr ∧ P c) (Down wanted retryAt P) := by
  have hclaims : Act.Triple (fun c tr => On wanted phase tr ∧ P c) (if ok then event e else fail)
      (fun c tr => On wanted phase' tr ∧ P c) (fun c tr => On wanted phase tr ∧ P c) :=
    Act.triple_ite (fun _ => triple_event he) fun _ => triple_fail fun _ _ h => h
  exact hclaims.orElse hclean

theorem triple_makeHandle (number : ℕ) (device : UsbDevice) :
    Act.Triple (fun c tr => On wanted (.down retryAt (some number)) tr ∧ P c)
      (makeHandle number device) (fun c tr => On wanted (.starting startCommands) tr ∧ P c)
      (Down wanted retryAt P) := by
  rw [makeHandle]
  refine Act.triple_ite (fun _ => ?_) fun _ => triple_fail fun c tr h => ⟨⟨_, h.1⟩, h.2⟩
  have hclosed (phase : Phase) (he : Stage.next ⟨wanted, phase⟩ .closed =
      some ⟨wanted, .down retryAt none⟩) : Act.Triple (fun c tr => On wanted phase tr ∧ P c)
        (event .closed) (Down wanted retryAt P) (Down wanted retryAt P) :=
    (triple_event he).mono (fun _ _ h => h) (fun _ _ h => ⟨⟨_, h.1⟩, h.2⟩) fun _ _ h => h
  have hopened : Stage.next ⟨wanted, .down retryAt (some number)⟩ (.opened number) =
      some ⟨wanted, .claiming retryAt 0⟩ := by simp [Stage.next, Phase.next]
  have hreleased : Stage.next ⟨wanted, .claiming retryAt 2⟩ (.released 1) =
      some ⟨wanted, .closing retryAt 1⟩ := rfl
  have hlast := hclosed (.closing retryAt 0) rfl
  refine (triple_event hopened).andThen ((triple_step rfl (hclosed _ rfl)).andThen
    ((triple_step rfl ((triple_event rfl).andThen hlast)).andThen (triple_step rfl ?_)))
  exact (triple_event hreleased).andThen ((triple_event rfl).andThen hlast)

theorem triple_openFrom {serial : ByteString} (number : ℕ) (devices : List UsbDevice)
    (hserial : serial = wanted) :
    Act.Triple (Down wanted retryAt P) (openFrom serial number devices)
      (fun c tr => On wanted (.starting startCommands) tr ∧ P c) (Down wanted retryAt P) := by
  subst hserial
  induction devices generalizing number with
  | nil => exact triple_fail fun _ _ h => h
  | cons device devices ih =>
    rw [openFrom]
    split
    · rename_i discovered _ _
      have hprobed : Act.Triple (Down serial retryAt P) (event (.probed number discovered))
          (fun c tr => On serial (.down retryAt
            (if discovered = some serial then some number else none)) tr ∧ P c)
          (Down serial retryAt P) :=
        Act.triple_emit fun c tr ⟨⟨_, h⟩, hP⟩ => ⟨h.append rfl, hP⟩
      refine hprobed.andThen ?_
      by_cases hfound : discovered = some serial
      · rw [if_pos hfound, if_pos hfound]
        exact triple_makeHandle number device
      · rw [if_neg hfound, if_neg hfound]
        exact (ih (number + 1)).mono (fun _ _ h => ⟨⟨_, h.1⟩, h.2⟩) (fun _ _ h => h)
          fun _ _ h => h
    · exact ih (number + 1)

end Opening

/-! ## Connecting -/

/-- The serial number that the controller has, if any, is the one that was asked for. -/
def Session.Wants (c : Session) (wanted : ByteString) : Prop :=
  c.usbSerial ≠ [] → c.usbSerial = wanted

/-- The controller has no handle. -/
structure Unlinked (wanted : ByteString) (c : Session) : Prop where
  serial : c.Wants wanted
  handle : c.usbHandle = false
  connected : c.usbConnected = false
  rate : c.lastSentPointRate = 0

/-- The controller has a handle, and knows what the device has taken. -/
structure Knows (wanted : ByteString) (link : Link) (c : Session) : Prop where
  serial : c.Wants wanted
  handle : c.usbHandle = true
  connected : c.usbConnected = true
  rate : link.rate.toNat = c.lastSentPointRate
  controlErrors : link.controlErrors = c.consecutiveControlErrors
  timeouts : link.timeouts = c.consecutiveTransferTimeouts

/-- Moreover the connection is not to be given up. -/
structure Linked (wanted : ByteString) (link : Link) (c : Session) : Prop
    extends Knows wanted link c where
  not_givenUp : ¬link.GivenUp

theorem Link.not_givenUp_init : ¬({} : Link).GivenUp := by decide

/-- The controller has a handle, and no rate was set. -/
structure Starting (wanted : ByteString) (c : Session) : Prop where
  serial : c.Wants wanted
  handle : c.usbHandle = true
  rate : c.lastSentPointRate = 0

/-- A command of the start is sent, and whatever the answer is the start goes on. -/
theorem triple_send {P : Session → Prop} {R : Session → List UsbEvent → Prop} (command : Command)
    (left : List Command) (answer : ExchangeAnswer) :
    Act.Triple (fun c tr => On wanted (.start (command :: left)) tr ∧ P c) (send command answer)
      (fun c tr => On wanted (.start left) tr ∧ P c) R :=
  triple_event (by simp [Stage.next, Phase.next, Phase.start])

/-- The start goes on with the commands that are left. -/
def StartingWith (wanted : ByteString) (left : List Command) (c : Session) (tr : List UsbEvent) :
    Prop :=
  On wanted (.start left) tr ∧ Starting wanted c

theorem triple_resetRunner (answers : Fin 5 → ExchangeAnswer)
    {R : Session → List UsbEvent → Prop} :
    Act.Triple (StartingWith wanted [.runnerModeEnable true, .runnerModeEnable false,
      .runnerModeRun true, .runnerModeRun false, .runnerModeLoad]) (resetRunner answers)
      (StartingWith wanted []) R :=
  (triple_send _ _ _).andThen ((triple_send _ _ _).andThen ((triple_send _ _ _).andThen
    ((triple_send _ _ _).andThen (triple_send _ _ _))))

theorem triple_initDevice (answers : ConnectAnswers) {R : Session → List UsbEvent → Prop} :
    Act.Triple (fun c tr => On wanted (.starting startCommands) tr ∧ Unlinked wanted c)
      (initDevice answers)
      (fun c tr => On wanted (.streaming {}) tr ∧ Linked wanted {} c) R := by
  have hkeep {left : List Command} {f : Session → Session}
      (h : ∀ c, Starting wanted c → Starting wanted (f c)) :
      Act.Triple (StartingWith wanted left) (Act.modify f) (StartingWith wanted left) R :=
    triple_keep h
  have hsend (command : Command) (left : List Command) (answer : ExchangeAnswer) :
      Act.Triple (StartingWith wanted (command :: left)) (send command answer)
        (StartingWith wanted left) R := triple_send command left answer
  have hhandle : Act.Triple
      (fun c tr => On wanted (.starting startCommands) tr ∧ Unlinked wanted c)
      (Act.modify fun c => { c with usbHandle := true }) (StartingWith wanted startCommands) R :=
    triple_keep fun c h => ⟨h.serial, rfl, h.rate⟩
  have hstarted : Act.Triple (StartingWith wanted []) (Act.modify Session.started)
      (fun c tr => On wanted (.streaming {}) tr ∧ Linked wanted {} c) R :=
    triple_keep fun c h => ⟨⟨h.serial, h.handle, rfl, h.rate.symm, rfl, rfl⟩, Link.not_givenUp_init⟩
  refine hhandle.andThen ((hsend .enableOutput _ _).andThen ((hsend .readMaxRate _ _).andThen
    ((hkeep ?_).andThen ((hsend .readBulkCount _ _).andThen ((hkeep ?_).andThen
      ((triple_resetRunner answers.runner).andThen hstarted))))))
  · exact fun c h => ⟨h.serial, h.handle, h.rate⟩
  · exact fun c h => ⟨h.serial, h.handle, h.rate⟩

theorem triple_connectToSerial {P : Session → Prop} (hP : ∀ c, P c → Unlinked wanted c)
    (answers : ConnectAnswers) :
    Act.Triple (Down wanted retryAt P) (connectToSerial answers)
      (fun c tr => On wanted (.streaming {}) tr ∧ Linked wanted {} c) (Down wanted retryAt P) := by
  intro c tr h
  have hopens : Act.Triple (Down wanted retryAt P)
      (openLaserCubeUsbHandle c.usbSerial answers.devices)
      (fun c tr => On wanted (.starting startCommands) tr ∧ P c) (Down wanted retryAt P) := by
    rw [openLaserCubeUsbHandle]
    refine Act.triple_ite (fun _ => triple_fail fun _ _ h => h) fun hserial => ?_
    exact triple_openFrom 0 answers.devices ((hP c h.2).serial hserial)
  exact (hopens.andThen ((triple_initDevice answers).mono (fun _ _ h => ⟨h.1, hP _ h.2⟩)
    (fun _ _ h => h) fun _ _ h => h)) c tr h

/-! ## Ending -/

/-- A handle is released. -/
theorem triple_release {P Q : Session → Prop} {R : Session → List UsbEvent → Prop}
    (hphase : Leads Stage.next ⟨wanted, phase⟩ [.released 1, .released 0, .closed]
      ⟨wanted, .down none none⟩)
    (hP : ∀ c, P c → c.usbHandle = true ∧ Q c.disconnected) :
    Act.Triple (fun c tr => On wanted phase tr ∧ P c) markUsbDisconnected (Down wanted none Q)
      R := by
  rintro c tr ⟨hon, h⟩
  obtain ⟨hhandle, hQ⟩ := hP c h
  refine ⟨fun _ => ⟨⟨none, ?_⟩, hQ⟩, by simp [markUsbDisconnected]⟩
  rw [markUsbDisconnected, hhandle]
  exact Leads.append hon hphase

/-- Where there is no handle, nothing is released. -/
theorem triple_released {P Q : Session → Prop} {R : Session → List UsbEvent → Prop}
    (hP : ∀ c, P c → c.usbHandle = false ∧ Q c.disconnected) :
    Act.Triple (Down wanted retryAt P) markUsbDisconnected (Down wanted retryAt Q) R := by
  rintro c tr ⟨hon, h⟩
  obtain ⟨hhandle, hQ⟩ := hP c h
  refine ⟨fun _ => ⟨?_, hQ⟩, by simp [markUsbDisconnected]⟩
  rw [markUsbDisconnected, hhandle]
  simpa using hon

theorem releases_leaving : Leads Stage.next ⟨wanted, .leaving⟩ [.released 1, .released 0, .closed]
    ⟨wanted, .down none none⟩ := rfl

theorem releases_givenUp (h : link.GivenUp) :
    Leads Stage.next ⟨wanted, .streaming link⟩ [.released 1, .released 0, .closed]
      ⟨wanted, .down none none⟩ := by
  refine leads_cons.mpr ⟨⟨wanted, .closing none 1⟩, ?_, rfl⟩
  simp [Stage.next, Phase.next, h]

theorem Unlinked.disconnected (h : c.Wants wanted) : Unlinked wanted c.disconnected :=
  ⟨h, rfl, rfl, rfl⟩

/-- The controller has no handle, and does not try again before the time of the traffic. -/
structure Waiting (wanted : ByteString) (retryAt : Option TimePoint) (c : Session) : Prop
    extends Unlinked wanted c where
  retry : ∀ time ∈ retryAt, time ≤ c.nextReconnectAttempt

/-- The traffic is up. -/
def Up (c : Session) (tr : List UsbEvent) : Prop :=
  ∃ wanted link, On wanted (.streaming link) tr ∧ Linked wanted link c

/-- What a step may end in. -/
def Idle (c : Session) (tr : List UsbEvent) : Prop :=
  Up c tr ∨ ∃ wanted retryAt, Down wanted retryAt (Waiting wanted retryAt) c tr

theorem Waiting.of_none (h : Unlinked wanted c) : Waiting wanted none c :=
  { h with retry := by simp }

theorem Idle.of_down (h : Down wanted none (Unlinked wanted) c tr) : Idle c tr :=
  .inr ⟨wanted, none, h.1, .of_none h.2⟩

/-- The application ends the connection, or there is none. -/
theorem triple_connect (serial : ByteString) (answers : ConnectAnswers) :
    Act.Triple Idle (connect serial answers) Idle Idle := by
  have hconnects (retryAt : Option TimePoint) :
      Act.Triple (Down serial retryAt fun c => Waiting c.usbSerial retryAt c)
        ((Act.modify fun c => { c with usbSerial := serial }).andThen (connectToSerial answers))
        Idle Idle := by
    refine (Act.triple_modify (Q := Down serial retryAt (Waiting serial retryAt))
      fun c tr h => ⟨h.1, ?_⟩).andThen
      ((triple_connectToSerial (fun c h => h.toUnlinked) answers).mono (fun _ _ h => h)
        (fun _ _ h => .inl ⟨_, _, h⟩) fun _ _ h => .inr ⟨_, _, h⟩)
    exact { h.2 with serial := fun _ => rfl }
  rintro c tr (⟨wanted, link, hon, hlink⟩ | ⟨wanted, retryAt, ⟨found, hon⟩, hwait⟩)
  · have hleaves : Act.Triple (fun c tr => On wanted (.streaming link) tr ∧ Linked wanted link c)
        (event (.connect serial)) (fun c tr => On serial .leaving tr ∧ Linked wanted link c)
        Idle := triple_event rfl
    have hreleases : Act.Triple (fun c tr => On serial .leaving tr ∧ Linked wanted link c)
        markUsbDisconnected (Down serial none fun c => Waiting c.usbSerial none c) Idle :=
      triple_release releases_leaving fun c h =>
        ⟨h.handle, .of_none (Unlinked.disconnected fun _ => rfl)⟩
    exact (hleaves.andThen (hreleases.andThen (hconnects none))) c tr ⟨hon, hlink⟩
  · have hleaves : Act.Triple
        (fun c tr => On wanted (.down retryAt found) tr ∧ Waiting wanted retryAt c)
        (event (.connect serial)) (Down serial retryAt (Waiting wanted retryAt)) Idle :=
      (triple_event rfl).mono (fun _ _ h => h) (fun _ _ h => ⟨⟨_, h.1⟩, h.2⟩) fun _ _ h => h
    have hreleases : Act.Triple (Down serial retryAt (Waiting wanted retryAt))
        markUsbDisconnected (Down serial retryAt fun c => Waiting c.usbSerial retryAt c) Idle :=
      triple_released fun c h =>
        ⟨h.handle, { Unlinked.disconnected fun _ => rfl with retry := h.retry }⟩
    exact (hleaves.andThen (hreleases.andThen (hconnects retryAt))) c tr ⟨hon, hwait⟩

theorem triple_close : Act.Triple Idle close Idle Idle := by
  rintro c tr (⟨wanted, link, hon, hlink⟩ | ⟨wanted, retryAt, ⟨found, hon⟩, hwait⟩)
  · have hleaves : Act.Triple (fun c tr => On wanted (.streaming link) tr ∧ Linked wanted link c)
        (event .close) (fun c tr => On wanted .leaving tr ∧ Linked wanted link c) Idle :=
      triple_event rfl
    have hreleases : Act.Triple (fun c tr => On wanted .leaving tr ∧ c.usbHandle = true ∧
        c.usbSerial = []) markUsbDisconnected (Down wanted none (Unlinked wanted)) Idle :=
      triple_release releases_leaving fun c h =>
        ⟨h.1, Unlinked.disconnected fun hne => absurd h.2 hne⟩
    refine (hleaves.andThen ((triple_keep ?_).andThen
      (hreleases.mono (fun _ _ h => h) (fun _ _ h => .of_down h) fun _ _ h => h))) c tr ⟨hon, hlink⟩
    exact fun c h => ⟨h.handle, rfl⟩
  · have hleaves : Act.Triple
        (fun c tr => On wanted (.down retryAt found) tr ∧ Waiting wanted retryAt c)
        (event .close) (fun c tr => On wanted (.down none none) tr ∧ Waiting wanted retryAt c)
        Idle := triple_event rfl
    have hreleases : Act.Triple (Down wanted none fun c => c.usbHandle = false ∧ c.usbSerial = [])
        markUsbDisconnected (Down wanted none (Unlinked wanted)) Idle :=
      triple_released fun c h => ⟨h.1, Unlinked.disconnected fun hne => absurd h.2 hne⟩
    refine (hleaves.andThen ((triple_keep ?_).andThen
      (hreleases.mono (fun _ _ h => ⟨⟨_, h.1⟩, h.2⟩) (fun _ _ h => .of_down h)
        fun _ _ h => h))) c tr ⟨hon, hwait⟩
    exact fun c h => ⟨h.handle, rfl⟩

/-! ## The worker -/

theorem triple_tryReconnect (answers : ConnectAnswers) :
    Act.Triple (Down wanted retryAt (Unlinked wanted)) (tryReconnect answers)
      (fun c tr => On wanted (.streaming {}) tr ∧ Linked wanted {} c)
      (Down wanted retryAt (Unlinked wanted)) := by
  intro c tr h
  have hreconnects : Act.Triple (Down wanted retryAt (Unlinked wanted))
      (if c.usbSerial = [] then fail else markUsbDisconnected.andThen (connectToSerial answers))
      (fun c tr => On wanted (.streaming {}) tr ∧ Linked wanted {} c)
      (Down wanted retryAt (Unlinked wanted)) := by
    refine Act.triple_ite (fun _ => triple_fail fun _ _ h => h) fun _ => ?_
    exact (triple_released fun c h => ⟨h.handle, Unlinked.disconnected h.serial⟩).andThen
      (triple_connectToSerial (fun _ h => h) answers)
  exact hreconnects c tr h

/-- **A connection is tried again** where the time has come. -/
theorem triple_reconnect (now : TimePoint) (answers : ConnectAnswers) :
    Act.Triple (Down wanted retryAt (Waiting wanted retryAt)) (reconnect now answers) Idle
      Idle := by
  rintro c tr ⟨⟨found, hon⟩, h⟩
  rw [reconnect]
  split
  · rename_i hdue
    have hattempt : Stage.next ⟨wanted, .down retryAt found⟩ (.attempt now) =
        some ⟨wanted, .down (some (now + usbReconnectInterval)) none⟩ := by
      simp only [Stage.next, Phase.next]
      rw [if_pos fun time htime => (h.retry time htime).trans hdue]
      rfl
    have htries : Act.Triple (Down wanted (some (now + usbReconnectInterval)) (Unlinked wanted))
        ((tryReconnect answers).orElse
          (Act.modify fun c => { c with nextReconnectAttempt := now + usbReconnectInterval }))
        (fun c tr => On wanted (.streaming {}) tr ∧ Linked wanted {} c) Idle := by
      refine (triple_tryReconnect answers).orElse (Act.triple_modify fun c tr h => .inr ⟨wanted, _,
        h.1, { h.2 with retry := ?_ }⟩)
      rintro time ⟨⟩
      exact le_rfl
    refine ((triple_event hattempt).andThen ((triple_keep ?_).andThen
      ((htries.mono (fun _ _ h => ⟨⟨_, h.1⟩, h.2⟩) (fun _ _ h => h) fun _ _ h => h).andThen
        (Act.triple_modify ?_)))) c tr ⟨hon, h.toUnlinked⟩
    · exact fun c h => ⟨h.serial, h.handle, h.connected, h.rate⟩
    · exact fun c tr h => .inl ⟨wanted, {}, h.1, ⟨h.2.serial, h.2.handle, h.2.connected,
        h.2.rate, rfl, rfl⟩, Link.not_givenUp_init⟩
  · exact ⟨fun _ => by simpa using .inr ⟨wanted, retryAt, ⟨found, hon⟩, h⟩, by simp⟩

theorem decodeRate_bytes (rate : UInt32) :
    decodeRate (Command.setPointRate rate).bytes = some rate := by
  rw [Command.bytes, decodeRate, if_pos (Endian.length_littleBytes 4 _),
    Endian.little_littleBytes rate.toNat_lt, UInt32.ofNat_toNat]

/-- The connection is given up where it has failed once too often. -/
theorem triple_giveUp {b : Prop} [Decidable b] (hb : b ↔ link.GivenUp) :
    Act.Triple (fun c tr => On wanted (.streaming link) tr ∧ Knows wanted link c)
      (if b then markUsbDisconnected else Act.modify id) Idle Idle := by
  refine Act.triple_ite (fun h => ?_) fun h => Act.triple_modify fun c tr hs => ?_
  · exact (triple_release (releases_givenUp (hb.mp h)) fun c hs =>
      ⟨hs.handle, Unlinked.disconnected hs.serial⟩).mono (fun _ _ h => h)
        (fun _ _ h => .of_down h) fun _ _ h => h
  · exact .inl ⟨wanted, link, hs.1, hs.2, mt hb.mpr h⟩

/-- **A command about the rate has failed.** -/
theorem triple_rateFailed (hlink : ¬link.GivenUp) (rate : UInt32) :
    Act.Triple (fun c tr => On wanted (.streaming (link.afterControl rate false)) tr ∧
      Knows wanted link c) rateFailed Idle Idle := by
  rintro c tr ⟨hon, h⟩
  have hlast : c.consecutiveControlErrors + 1 = usbReconnectErrorThreshold ↔
      (link.afterControl rate false).GivenUp := by
    rw [← h.controlErrors]
    exact ⟨.inl, fun h => h.resolve_right (not_or.mp hlink).2⟩
  have hpush : Act.Triple Idle (Act.modify fun c => { c with pointRatePushNeeded := true }) Idle
      Idle := by
    refine Act.triple_modify ?_
    rintro c tr (⟨wanted, link, hon, h⟩ | ⟨wanted, retryAt, hon, h⟩)
    · exact .inl ⟨wanted, link, hon, ⟨h.serial, h.handle, h.connected, h.rate, h.controlErrors,
        h.timeouts⟩, h.not_givenUp⟩
    · exact .inr ⟨wanted, retryAt, hon, ⟨h.serial, h.handle, h.connected, h.rate⟩, h.retry⟩
  refine ((triple_giveUp hlast).andThen hpush) _ tr ⟨hon, ?_⟩
  exact ⟨h.serial, h.handle, h.connected, h.rate, congrArg (· + 1) h.controlErrors, h.timeouts⟩

theorem triple_syncPointRate (answer : ExchangeAnswer) :
    Act.Triple Up (syncPointRate answer) Idle Idle := by
  rintro c tr ⟨wanted, link, hon, h⟩
  rw [syncPointRate]
  split
  · exact ⟨fun _ => by simpa using .inl ⟨wanted, link, hon, h⟩, by simp⟩
  · rw [if_neg (by simp [h.handle])]
    have hcontrol : Stage.next ⟨wanted, .streaming link⟩ (.control
        (Command.setPointRate c.pointRate).bytes (answer.ok (.setPointRate c.pointRate))) =
        some ⟨wanted, .streaming (link.afterControl c.pointRate
          (answer.ok (.setPointRate c.pointRate)))⟩ := by
      simp [Stage.next, Phase.next, h.not_givenUp, decodeRate_bytes]
    refine ((triple_event hcontrol).andThen ?_) c tr ⟨hon, h⟩
    cases answer.ok (.setPointRate c.pointRate) with
    | true =>
      refine Act.triple_modify fun c' tr' hs => .inl ⟨wanted, _, hs.1, ⟨hs.2.serial, hs.2.handle,
        hs.2.connected, rfl, rfl, hs.2.timeouts⟩, ?_⟩
      exact not_or.mpr ⟨by simp [Link.afterControl, usbReconnectErrorThreshold],
        (not_or.mp h.not_givenUp).2⟩
    | false =>
      exact (triple_rateFailed h.not_givenUp c.pointRate).mono (fun _ _ h => ⟨h.1, h.2.toKnows⟩)
        (fun _ _ h => h) fun _ _ h => h

/-! ## Packets -/

section Packets

variable {D : Type} [FloatArith D] {F : Type} [FloatArith F]

/-- The tries of a packet, of which the first may be made in a phase and the others after it. -/
theorem triple_bulkTransfer {packet : List UInt8} {transfers : ℕ → TransferOutcome}
    {done : TransferOutcome → UsbAct} {P : Session → Prop} {Q R : Session → List UsbEvent → Prop}
    (hdone : ∀ outcome, Act.Triple (fun c tr => On wanted (link.settled packet outcome) tr ∧ P c)
      (done outcome) Q R) (retries : ℕ)
    (hphase : ∀ outcome, Stage.next ⟨wanted, phase⟩ (.wrote packet outcome) =
      some ⟨wanted, link.afterTry packet outcome retries⟩) :
    Act.Triple (fun c tr => On wanted phase tr ∧ P c)
      (bulkTransfer packet transfers done (retries + 1)) Q R := by
  induction retries generalizing phase with
  | zero =>
    refine (triple_event (hphase _)).andThen ?_
    rw [Link.afterTry, if_neg (by simp), if_neg (by simp)]
    exact hdone _
  | succ retries ih =>
    refine (triple_event (hphase _)).andThen ?_
    rw [Link.afterTry]
    by_cases htimeout : (transfers (retries + 1)).code = timeout
    · rw [if_pos ⟨htimeout, Nat.succ_pos _⟩, if_pos ⟨htimeout, Nat.succ_pos _⟩,
        Nat.add_sub_cancel]
      refine ih fun outcome => ?_
      simp [Stage.next, Phase.next]
    · rw [if_neg fun h => htimeout h.1, if_neg fun h => htimeout h.1]
      exact hdone _

theorem length_flatMap_encodePoint (points : List (LaserPoint F)) :
    (points.flatMap encodePoint).length = 8 * points.length := by
  have hpoint (point : LaserPoint F) : (encodePoint point).length = 8 := by
    simp [encodePoint, Endian.length_littleBytes]
  induction points with
  | nil => rfl
  | cons point points ih =>
    rw [List.flatMap_cons, List.length_append, ih, hpoint, List.length_cons]
    omega

/-- **A packet goes out**, or the connection ends. -/
theorem triple_sendPacket {points : List (LaserPoint F)} (hpoints : points ≠ [])
    (hasked : points.length ≤ link.asked) (hrate : link.rate ≠ 0) (bufferFullness : ℤ)
    (answers : PacketAnswers F) :
    Act.Triple (fun c tr => On wanted (.streaming link) tr ∧ Linked wanted link c)
      (sendPacket points bufferFullness answers) Idle Idle := by
  rintro c tr ⟨hon, h⟩
  have hlength := length_flatMap_encodePoint points
  have hpos := List.length_pos_iff.mpr hpoints
  have hfits : link.Fits (points.flatMap encodePoint) := by
    refine ⟨hrate, ?_, ⟨_, hlength⟩, by omega⟩
    rw [← List.length_pos_iff, hlength]
    omega
  have hsettles (outcome : TransferOutcome) : Act.Triple (fun c tr =>
      On wanted (link.settled (points.flatMap encodePoint) outcome) tr ∧ Linked wanted link c)
      (if outcome.code = .success ∧ outcome.actualLength = (points.flatMap encodePoint).length then
        Act.modify (·.transferred (clampBufferFullnessToCapacity (bufferFullness + points.length)
          LaserCubeUsbController.bufferCapacity) answers.sentAt)
      else if outcome.code = timeout then transferTimedOut
      else transferFailed) Idle Idle := by
    rw [Link.settled]
    by_cases hsuccess : outcome.code = .success ∧
        outcome.actualLength = (points.flatMap encodePoint).length
    · rw [if_pos hsuccess, if_pos hsuccess]
      refine Act.triple_modify fun c tr hs => .inl ⟨wanted, _, hs.1, ⟨hs.2.serial, hs.2.handle,
        hs.2.connected, hs.2.rate, hs.2.controlErrors, rfl⟩, ?_⟩
      exact not_or.mpr ⟨(not_or.mp h.not_givenUp).1, by simp [usbReconnectErrorThreshold]⟩
    · rw [if_neg hsuccess, if_neg hsuccess]
      by_cases htimeout : outcome.code = timeout
      · rw [if_pos htimeout, if_pos htimeout]
        rintro c tr ⟨hon, h⟩
        have hlast : c.consecutiveTransferTimeouts + 1 = usbReconnectErrorThreshold ↔
            ({ link with asked := 0, timeouts := link.timeouts + 1 } : Link).GivenUp := by
          rw [← h.timeouts]
          exact ⟨.inr, fun hgiven => hgiven.resolve_left (not_or.mp h.not_givenUp).1⟩
        exact triple_giveUp hlast _ tr ⟨hon, h.serial, h.handle, h.connected, h.rate,
          h.controlErrors, congrArg (· + 1) h.timeouts⟩
      · rw [if_neg htimeout, if_neg htimeout]
        rintro c tr ⟨hon, h⟩
        have hreleases : Act.Triple
            (fun c tr => On wanted .leaving tr ∧ c.usbHandle = true ∧ c.Wants wanted)
            markUsbDisconnected (Down wanted none (Unlinked wanted)) Idle :=
          triple_release releases_leaving fun c h => ⟨h.1, Unlinked.disconnected h.2⟩
        exact (hreleases.mono (fun _ _ h => h) (fun _ _ h => .of_down h) fun _ _ h => h) _ tr
          ⟨hon, h.handle, h.serial⟩
  refine triple_bulkTransfer hsettles 2 (fun outcome => ?_) c tr ⟨hon, h⟩
  simp [Stage.next, Phase.next, hfits, h.not_givenUp]

/-- **Points are asked for** where the estimate has room for them, and are sent. -/
theorem triple_sendPoints (answers : PacketAnswers F) :
    Act.Triple Idle (sendPoints D answers) Idle Idle := by
  rintro c tr (⟨wanted, link, hon, h⟩ | ⟨wanted, retryAt, hon, h⟩)
  · rw [sendPoints, if_neg (by simp [h.handle])]
    cases hrequest : c.fillRequest D answers.targetLatency answers.now with
    | none => exact ⟨fun _ => by simpa using .inl ⟨wanted, link, hon, h⟩, by simp⟩
    | some request =>
      have hrate : link.rate ≠ 0 := by
        rintro hzero
        have hsent := (LaserCubeUsbController.isSome_fillRequest.mp
          (Option.isSome_iff_exists.mpr ⟨request, hrequest⟩)).2.1
        rw [← h.rate, hzero] at hsent
        exact hsent rfl
      have hroom : request.maximumPointsRequired ≤ 1024 := by
        have hbounds := (LaserCubeUsbController.fillRequest_bounds hrequest).2
        have hnonneg : 0 ≤ c.estimateBufferFullness D answers.now :=
          calculateBufferFullnessFromSnapshot_nonneg D _ _ _ _ _
        rw [LaserCubeUsbController.bufferCapacity] at hbounds
        omega
      have hpos : 0 < request.maximumPointsRequired := by
        obtain ⟨-, maxPointsToAdd, hpos, -, rfl⟩ :=
          LaserCubeUsbController.fillRequest_eq_some hrequest
        dsimp only
        omega
      have hrequested : Stage.next ⟨wanted, .streaming link⟩ (.requested request) =
          some ⟨wanted, .streaming { link with asked := request.maximumPointsRequired }⟩ := by
        simp [Stage.next, Phase.next, h.not_givenUp, hrate, hroom]
      have hlinked : Linked wanted { link with asked := request.maximumPointsRequired } c :=
        ⟨⟨h.serial, h.handle, h.connected, h.rate, h.controlErrors, h.timeouts⟩, h.not_givenUp⟩
      have hnothing : Act.Triple (fun c tr => On wanted
          (.streaming { link with asked := request.maximumPointsRequired }) tr ∧
          Linked wanted { link with asked := request.maximumPointsRequired } c)
          (Act.modify id) Idle Idle := Act.triple_modify fun _ _ h => .inl ⟨wanted, _, h⟩
      refine ((triple_event hrequested).andThen ?_) c tr ⟨hon, hlinked⟩
      cases answers.points with
      | none => exact hnothing
      | some points =>
        cases points with
        | nil => exact hnothing
        | cons point points =>
          refine triple_sendPacket ?_ ?_ ?_ _ answers
          · simp [Nat.ne_of_gt hpos]
          · exact List.length_take_le _ _
          · exact hrate
  · rw [sendPoints, if_pos h.handle]
    refine ((triple_released (Q := Waiting wanted retryAt) fun c h => ⟨h.handle, ?_⟩).mono
      (fun _ _ h => h) (fun _ _ h => .inr ⟨wanted, retryAt, h⟩) fun _ _ h => h) c tr ⟨hon, h⟩
    exact { Unlinked.disconnected h.serial with retry := h.retry }

/-- **A pass of the worker.** -/
theorem triple_pass (answers : PassAnswers F) : Act.Triple Idle (pass D answers) Idle Idle := by
  rintro c tr (⟨wanted, link, hon, h⟩ | ⟨wanted, retryAt, hon, h⟩)
  · rw [pass, if_neg (by simp [h.handle, h.connected])]
    exact ((triple_syncPointRate answers.rate).andThen (triple_sendPoints answers.packet)) c tr
      ⟨wanted, link, hon, h⟩
  · rw [pass, if_pos (.inl h.connected)]
    exact triple_reconnect answers.now answers.connect c tr ⟨hon, h⟩

/-! ## Whole runs -/

/-- A change of what the traffic does not depend on. -/
theorem Idle.congr (h : Idle c tr) (hserial : c'.usbSerial = c.usbSerial)
    (hhandle : c'.usbHandle = c.usbHandle) (hconnected : c'.usbConnected = c.usbConnected)
    (hrate : c'.lastSentPointRate = c.lastSentPointRate)
    (hcontrol : c'.consecutiveControlErrors = c.consecutiveControlErrors)
    (htimeouts : c'.consecutiveTransferTimeouts = c.consecutiveTransferTimeouts)
    (hretry : c'.nextReconnectAttempt = c.nextReconnectAttempt) : Idle c' tr := by
  have hwants (wanted : ByteString) (h : c.Wants wanted) : c'.Wants wanted := by
    rwa [Session.Wants, hserial]
  rcases h with ⟨wanted, link, hon, h⟩ | ⟨wanted, retryAt, hon, h⟩
  · exact .inl ⟨wanted, link, hon, ⟨hwants _ h.serial, hhandle.trans h.handle,
      hconnected.trans h.connected, h.rate.trans hrate.symm, h.controlErrors.trans hcontrol.symm,
      h.timeouts.trans htimeouts.symm⟩, h.not_givenUp⟩
  · exact .inr ⟨wanted, retryAt, hon, ⟨hwants _ h.serial, hhandle.trans h.handle,
      hconnected.trans h.connected, hrate.trans h.rate⟩, hretry ▸ h.retry⟩

/-- **What one step keeps.** -/
theorem idle_step {turn : Turn F} {o : List UsbEvent} (h : Idle c tr)
    (hstep : step D c turn = some (c', o)) : Idle c' (tr ++ o) := by
  rw [step] at hstep
  split at hstep
  swap
  · cases hstep
  simp only [Option.some.injEq, Prod.mk.injEq] at hstep
  obtain ⟨rfl, rfl⟩ := hstep
  suffices htriple : Act.Triple Idle (turn.act D) Idle Idle from htriple.final h
  cases turn with
  | connect serial answers => exact triple_connect serial answers
  | pass answers => exact triple_pass answers
  | close => exact triple_close
  | startThread | stopThread | setPointRate =>
    exact Act.triple_modify fun _ _ h => h.congr rfl rfl rfl rfl rfl rfl rfl

end Packets

/-! ## A run -/

/-- Every command is taken whose bytes are as many as these. -/
def taken : ExchangeAnswer := ⟨⟨.success, 5⟩, ⟨.success, 64⟩, Vector.replicate 64 0⟩

def plainDevice : UsbDevice where
  isLaserCube := true
  serial := some (some [65])
  opens := true
  claims _ := true
  configures := true

def otherDevice : UsbDevice := { plainDevice with serial := some (some [66]) }

def plainConnect : ConnectAnswers where
  devices := [otherDevice, plainDevice]
  enableOutput := taken
  maxRate := taken
  bulkCount := taken
  runner _ := taken

end LiberaLaser.LaserCubeUsb
