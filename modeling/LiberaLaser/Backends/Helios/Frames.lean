import LiberaLaser.Backends.Helios.UsbProtocol
import LiberaLaser.Foundations.Traces

/-!
# When a Helios controller sends a frame

The worker sends a frame only after the device has said that it is ready, once for every frame, with
the shutter opened on the same handle, and with the startup blank reset after the handle was opened.
And each request for points carries the number of points that were sent before (`frames_in_order`).
-/

namespace LiberaLaser.Helios

open Traces Runs FloatArith

/-- The device says that it is ready. -/
def ReadyAnswer (handle : ℕ) (e : HeliosEvent) : Prop :=
  ∃ state rest, state ≠ 0 ∧ e = .usb (.read handle (some (0x83 :: state :: rest)))

/-- The points that were sent. -/
def submittedPoints (tr : List HeliosEvent) : ℕ :=
  (tr.map fun | .submitted points => points | _ => 0).sum

@[simp] theorem submittedPoints_append (tr tr' : List HeliosEvent) :
    submittedPoints (tr ++ tr') = submittedPoints tr + submittedPoints tr' := by
  simp [submittedPoints]

@[simp] theorem submittedPoints_map (events : List UsbEvent) :
    submittedPoints (events.map .usb) = 0 := by
  induction events with
  | nil => rfl
  | cons e events ih => simpa [submittedPoints] using ih

theorem submittedPoints_eq_zero {o : List HeliosEvent} (h : ∀ e ∈ o, ∀ n, e ≠ .submitted n) :
    submittedPoints o = 0 := by
  induction o with
  | nil => rfl
  | cons e o ih =>
    have hrest := ih fun e' he' => h e' (List.mem_cons_of_mem _ he')
    cases e with
    | submitted n => exact absurd rfl (h _ List.mem_cons_self n)
    | _ => simpa [submittedPoints] using hrest

/-- What has to come before a frame and before a request for points. -/
def InOrder (before : List HeliosEvent) : HeliosEvent → Prop
  | .usb (.wrote handle _ _) =>
    Since (ReadyAnswer handle) (fun e => ∀ t b, e ≠ .usb (.wrote handle t b)) before ∧
      .usb (shutterOpened handle) ∈ before ∧
      Since (· = .resetStartupBlank) (fun e => ∀ p, e ≠ .usb (.opened handle p)) before
  | .requested request => request.currentPointIndex = submittedPoints before % 2 ^ 64
  | _ => True

/-- The invariant of the worker. -/
structure FrameInvariant (tr : List HeliosEvent) (c : HeliosController) : Prop where
  always : Always InOrder tr
  numbered : c.connection.number < c.connection.opened
  ready : c.phase = .submitting → Since (ReadyAnswer c.connection.number)
    (fun e => ∀ t b, e ≠ .usb (.wrote c.connection.number t b)) tr
  shutter : c.connection.shutterOpen = true → .usb (shutterOpened c.connection.number) ∈ tr
  blanked : c.phase ≠ .stopped → Since (· = .resetStartupBlank)
    (fun e => ∀ p, e ≠ .usb (.opened c.connection.number p)) tr
  index : c.currentPointIndex = submittedPoints tr % 2 ^ 64

/-- The event is no frame, no request and no opening of the handle. -/
def Neutral (handle : ℕ) (e : HeliosEvent) : Prop :=
  (∀ h t b, e ≠ .usb (.wrote h t b)) ∧ (∀ r, e ≠ .requested r) ∧ ∀ p, e ≠ .usb (.opened handle p)

theorem Neutral.inOrder {handle : ℕ} {e : HeliosEvent} (h : Neutral handle e)
    (before : List HeliosEvent) : InOrder before e := by
  obtain ⟨hwrote, hrequested, -⟩ := h
  cases e with
  | usb event =>
    cases event with
    | wrote handle t b => exact absurd rfl (hwrote handle t b)
    | _ => trivial
  | requested r => exact absurd rfl (hrequested r)
  | _ => trivial

/-- The uses of libusb by calls without a frame. -/
theorem Calls.neutral {c c' : UsbConnection} {events : List UsbEvent} (h : Calls c c' events)
    (hframeless : Frameless events) : ∀ e ∈ events.map HeliosEvent.usb, Neutral c.number e := by
  intro e he
  obtain ⟨event, hevent, rfl⟩ := List.mem_map.mp he
  refine ⟨?_, nofun, ?_⟩
  · rintro handle t b ⟨⟩
    exact hframeless handle t b hevent
  · rintro p ⟨⟩
    exact (h.uses _ hevent).2.1

variable {tr o : List HeliosEvent} {c c' : HeliosController}

/-- Steps that make neutral events. -/
theorem FrameInvariant.append (h : FrameInvariant tr c)
    (hneutral : ∀ e ∈ o, Neutral c.connection.number e)
    (hnumber : c'.connection.number = c.connection.number)
    (hopened : c.connection.opened ≤ c'.connection.opened)
    (hshutter : c'.connection.shutterOpen = true → c.connection.shutterOpen = true ∨
      .usb (shutterOpened c.connection.number) ∈ o)
    (hready : c'.phase = .submitting → c.phase = .submitting ∨
      ∃ e ∈ o, ReadyAnswer c.connection.number e)
    (hblank : c'.phase ≠ .stopped → c.phase ≠ .stopped ∨ .resetStartupBlank ∈ o)
    (hindex : c'.currentPointIndex = (c.currentPointIndex + submittedPoints o) % 2 ^ 64) :
    FrameInvariant (tr ++ o) c' where
  always := h.always.append fun e he before => (hneutral e he).inOrder before
  numbered := by
    rw [hnumber]
    exact h.numbered.trans_le hopened
  ready hphase := by
    have hquiet : ∀ e ∈ o, ∀ t b, e ≠ .usb (.wrote c.connection.number t b) :=
      fun e he => (hneutral e he).1 c.connection.number
    rw [hnumber]
    rcases hready hphase with hphase | ⟨e, he, hanswer⟩
    · exact (h.ready hphase).append hquiet
    · exact since_of_mem he hanswer hquiet
  shutter hopen := by
    rw [hnumber]
    exact List.mem_append.mpr ((hshutter hopen).imp_left h.shutter)
  blanked hphase := by
    have hquiet : ∀ e ∈ o, ∀ p, e ≠ .usb (.opened c.connection.number p) :=
      fun e he => (hneutral e he).2.2
    rw [hnumber]
    rcases hblank hphase with hphase | hmem
    · exact (h.blanked hphase).append hquiet
    · exact since_of_mem hmem rfl hquiet
  index := by
    rw [hindex, submittedPoints_append, h.index]
    simp

/-! ## The steps -/

theorem neutral_closeHandleLocked (c : UsbConnection) (stop : Option TransferOutcome) (handle : ℕ) :
    ∀ e ∈ (c.closeHandleLocked stop).2.map HeliosEvent.usb, Neutral handle e := by
  intro e he
  obtain ⟨event, hevent, rfl⟩ := List.mem_map.mp he
  rw [UsbConnection.closeHandleLocked] at hevent
  dsimp only at hevent
  split at hevent
  · cases hevent
  · cases stop <;> simp [sentEvent] at hevent
    · rcases hevent with rfl | rfl <;> exact ⟨by simp, by simp, by simp⟩
    · rcases hevent with rfl | rfl | rfl <;> exact ⟨by simp, by simp, by simp⟩

/-- The events of a search are no frames, and open new handles only. -/
theorem neutral_search {sdkVersion : UInt8} {portPath : ByteString} {opened opened' : ℕ}
    {devices : List UsbDevice} {events : List UsbEvent} {kept : Option (ℕ × ℤ)}
    (h : openHeliosUsbConnectionLocked sdkVersion portPath opened devices = (events, kept, opened'))
    {handle : ℕ} (hlt : handle < opened) : ∀ e ∈ events.map HeliosEvent.usb, Neutral handle e := by
  obtain ⟨hopened, hframeless, -⟩ := openHeliosUsbConnectionLocked_spec (fun _ => .fresh) h
    fun _ _ => rfl
  intro e he
  obtain ⟨event, hevent, rfl⟩ := List.mem_map.mp he
  refine ⟨?_, nofun, ?_⟩
  · rintro handle t b ⟨⟩
    exact hframeless handle t b hevent
  · rintro p ⟨⟩
    exact absurd (hopened _ _ hevent).2 (Nat.not_le_of_lt hlt)

/-- What an attempt to reconnect does, where it succeeds and where it fails. -/
theorem tryReconnect_spec {sdkVersion : UInt8} {portPath : ByteString} {devices : List UsbDevice}
    {c c' : UsbConnection} {done : Bool} {events : List UsbEvent}
    (h : c.tryReconnect sdkVersion portPath devices = (c', done, events))
    (hnumber : c.number < c.opened) :
    c.opened ≤ c'.opened ∧ c'.number < c'.opened ∧
      (c'.shutterOpen = true → c.shutterOpen = true ∧ c'.number = c.number) ∧
      (∀ e ∈ events.map HeliosEvent.usb, Neutral c.number e) ∧
      (done = false → c'.number = c.number) := by
  have hletGo := neutral_closeHandleLocked c none c.number
  rw [UsbConnection.tryReconnect] at h
  split at h
  · cases h
    exact ⟨le_rfl, hnumber, fun hopen => ⟨hopen, rfl⟩, by simp, fun _ => rfl⟩
  · split at h
    · cases h
      exact ⟨le_rfl, hnumber, fun hopen => ⟨hopen, rfl⟩, by simp, fun _ => rfl⟩
    · dsimp only at h
      rcases hopen : openHeliosUsbConnectionLocked sdkVersion portPath
        (c.closeHandleLocked none).1.opened devices with ⟨events', kept, opened⟩
      have hneutral := neutral_search hopen hnumber
      obtain ⟨-, -, stage, -, hsearched⟩ := openHeliosUsbConnectionLocked_spec
        (fun _ => .fresh) hopen fun _ _ => rfl
      have hle : c.opened ≤ opened := hsearched.le
      have hboth : ∀ e ∈ ((c.closeHandleLocked none).2 ++ events').map HeliosEvent.usb,
          Neutral c.number e := by
        intro e he
        rw [List.map_append] at he
        exact (List.mem_append.mp he).elim (hletGo e) (hneutral e)
      rw [hopen] at h
      cases kept with
      | none =>
        cases h
        exact ⟨hle, hnumber.trans_le hle, by rintro ⟨⟩, hboth, fun _ => rfl⟩
      | some kept =>
        obtain ⟨number, version⟩ := kept
        cases h
        exact ⟨hle, (hsearched.claimed _ _ rfl).2, by simp, hboth, by simp⟩

namespace HeliosController

variable {D : Type} [FloatArith D] {F : Type} [FloatArith F] {sdk : Sdk}

theorem frameInvariant_look (h : FrameInvariant tr c) (hphase : c.phase = .looking) (env : Look) :
    FrameInvariant (tr ++ (c.look sdk env).2) (c.look sdk env).1 := by
  have hworks : c.phase ≠ .stopped := by simp [hphase]
  have hindex : c.currentPointIndex = (c.currentPointIndex + 0) % 2 ^ 64 := by simp [h.index]
  rw [look]
  split
  · obtain ⟨lost, hlost, hcases⟩ := c.reconnect_cases sdk env
    have hneutral (handle : ℕ) : ∀ e ∈ lost, Neutral handle e := by
      intro e he
      rw [hlost e he]
      exact ⟨by simp, by simp, by simp⟩
    have hpoints : submittedPoints lost = 0 := submittedPoints_eq_zero fun e he => by
      rw [hlost e he]
      simp
    obtain hwait | ⟨connection, events, ⟨htry, hback⟩ | ⟨htry, hfailed⟩⟩ := hcases
    · rw [hwait]
      exact h.append (hneutral _) rfl le_rfl .inl .inl (fun _ => .inl hworks)
        (by rw [hpoints]; exact hindex)
    · obtain ⟨-, hnumbered, hshutter, hevents, -⟩ := tryReconnect_spec htry h.numbered
      have hall : ∀ e ∈ lost ++ events.map .usb ++ [.reconnected, .resetStartupBlank],
          Neutral c.connection.number e := by
        intro e he
        simp only [List.mem_append, List.mem_cons, List.not_mem_nil, or_false] at he
        rcases he with (he | he) | rfl | rfl
        · exact hneutral _ e he
        · exact hevents e he
        · exact ⟨by simp, by simp, by simp⟩
        · exact ⟨by simp, by simp, by simp⟩
      rw [hback]
      refine ⟨h.always.append fun e he before => (hall e he).inOrder before, hnumbered, ?_, ?_, ?_,
        ?_⟩
      · intro hsubmitting
        rw [restart, forget] at hsubmitting
        simp [hphase] at hsubmitting
      · intro hopen
        obtain ⟨hopen, hnumber⟩ := hshutter hopen
        rw [restart, hnumber]
        exact List.mem_append_left _ (h.shutter hopen)
      · intro _
        rw [List.append_cons, ← List.append_assoc]
        exact (since_concat _).mpr (.inl rfl)
      · rw [submittedPoints_append, submittedPoints_append, submittedPoints_append, hpoints,
          submittedPoints_map]
        exact h.index
    · obtain ⟨hopened, -, hshutter, hevents, hnumber⟩ := tryReconnect_spec htry h.numbered
      rw [hfailed]
      refine h.append ?_ (hnumber rfl) hopened (fun hopen => .inl (hshutter hopen).1) .inl
        (fun _ => .inl hworks) ?_
      · intro e he
        simp only [List.mem_append, List.mem_cons, List.not_mem_nil, or_false] at he
        rcases he with (he | he) | rfl
        · exact hneutral _ e he
        · exact hevents e he
        · exact ⟨by simp, by simp, by simp⟩
      · rw [submittedPoints_append, submittedPoints_append, hpoints, submittedPoints_map]
        exact hindex
  · split
    · exact h.append (by simp) rfl le_rfl .inl (by simp) (fun _ => .inl hworks) hindex
    · refine h.append ?_ rfl le_rfl .inl (by simp) (fun _ => .inl hworks) hindex
      intro e he
      rw [List.mem_singleton.mp he]
      exact ⟨by simp, by simp, by simp⟩

/-- What a failure leaves as it was. -/
theorem fail_frame (c : HeliosController) (failure : Failure) :
    (c.fail failure).1.phase = c.phase ∧
      (c.fail failure).1.currentPointIndex = c.currentPointIndex ∧
      ∀ e ∈ (c.fail failure).2, e = .failed failure ∨ e = .requestReconnect := by
  rcases c.fail_cases failure with ⟨hfail, -⟩ | ⟨hfail, -⟩
  all_goals
    rw [hfail]
    exact ⟨c.countFailure_phase failure, c.countFailure_currentPointIndex failure, by simp⟩

theorem frameInvariant_fail (h : FrameInvariant tr c) (hphase : c.phase = .looking)
    (failure : Failure) : FrameInvariant (tr ++ (c.fail failure).2) (c.fail failure).1 := by
  obtain ⟨hphase', hindex, hevents⟩ := fail_frame c failure
  obtain ⟨hfail, -⟩ := fail_spec c failure
  refine h.append ?_ hfail.number hfail.opened.ge ?_ ?_ ?_ ?_
  · intro e he
    rcases hevents e he with rfl | rfl <;> exact ⟨nofun, nofun, nofun⟩
  · exact fun hopen => .inl ((hfail.shutter hopen).resolve_right List.not_mem_nil)
  · rw [hphase', hphase]
    nofun
  · exact fun _ => .inl (by simp [hphase])
  · rw [hindex, submittedPoints_eq_zero fun e he => ?_]
    · simp [h.index]
    · rcases hevents e he with rfl | rfl <;> nofun

theorem frameInvariant_poll (h : FrameInvariant tr c) (hphase : c.phase ≠ .stopped)
    (now : TimePoint) (usb : Exchange) :
    FrameInvariant (tr ++ (c.poll now usb).2) (c.poll now usb).1 := by
  have hindex : c.currentPointIndex = (c.currentPointIndex + 0) % 2 ^ 64 := by simp [h.index]
  rw [poll]
  split
  · rename_i connection result events hstatus
    obtain ⟨hcalls, hframeless, -⟩ := UsbConnection.getStatus_spec hstatus
    have hcalled : FrameInvariant (tr ++ events.map .usb)
        { c with connection := connection, phase := .looking } := by
      refine h.append (hcalls.neutral hframeless) hcalls.number hcalls.opened.ge ?_ (by simp)
        (fun _ => .inl hphase) (by rw [submittedPoints_map]; exact hindex)
      exact fun hopen => (hcalls.shutter hopen).imp_right List.mem_map_of_mem
    dsimp only
    split
    · rw [← List.append_assoc]
      refine hcalled.append ?_ rfl le_rfl .inl .inl .inl hindex
      simp [Neutral]
    · rw [← List.append_assoc]
      exact frameInvariant_fail hcalled rfl _
  · rename_i connection ready events hstatus
    obtain ⟨hcalls, hframeless, hready⟩ := UsbConnection.getStatus_spec hstatus
    refine h.append ?_ hcalls.number hcalls.opened.ge ?_ ?_ (fun _ => .inl hphase) ?_
    · intro e he
      rcases List.mem_append.mp he with he | he
      · exact hcalls.neutral hframeless e he
      · rw [List.mem_singleton.mp he]
        exact ⟨by simp, by simp, by simp⟩
    · exact fun hopen => (hcalls.shutter hopen).imp_right fun hmem =>
        List.mem_append_left _ (List.mem_map_of_mem hmem)
    · intro hsubmitting
      cases ready with
      | false => cases hsubmitting
      | true =>
        obtain ⟨state, rest, hstate, hmem⟩ := hready rfl
        exact .inr ⟨_, List.mem_append_left _ (List.mem_map_of_mem hmem), state, rest, hstate, rfl⟩
    · rw [submittedPoints_append, submittedPoints_map]
      exact hindex

/-- The uses of libusb by a write, after the device was ready. -/
theorem frameInvariant_written (h : FrameInvariant tr c) (hphase : c.phase = .looking)
    (hready : Since (ReadyAnswer c.connection.number)
      (fun e => ∀ t b, e ≠ .usb (.wrote c.connection.number t b)) tr)
    {connection : UsbConnection} {events : List UsbEvent}
    (hcalls : Calls c.connection connection events)
    (hevents : Frameless events ∨ ∃ opening t b,
      events = opening ++ [.wrote c.connection.number t b] ∧
      (c.connection.shutterOpen = true ∧ opening = [] ∨
        opening = [shutterOpened c.connection.number])) :
    FrameInvariant (tr ++ events.map .usb) { c with connection := connection } := by
  have hworks : c.phase ≠ .stopped := by simp [hphase]
  have hindex : c.currentPointIndex = (c.currentPointIndex + 0) % 2 ^ 64 := by simp [h.index]
  rcases hevents with hframeless | ⟨opening, t, b, rfl, hopening⟩
  · refine h.append (hcalls.neutral hframeless) hcalls.number hcalls.opened.ge ?_ .inl
      (fun _ => .inl hworks) (by rw [submittedPoints_map]; exact hindex)
    exact fun hopen => (hcalls.shutter hopen).imp_right List.mem_map_of_mem
  · have hneutral : ∀ e ∈ opening.map HeliosEvent.usb, Neutral c.connection.number e := by
      rcases hopening with ⟨-, rfl⟩ | rfl
      · simp
      · simp [Neutral, shutterOpened]
    have hopened : FrameInvariant (tr ++ opening.map .usb) { c with connection := connection } := by
      refine h.append hneutral hcalls.number hcalls.opened.ge (fun hopen => ?_) .inl
        (fun _ => .inl hworks) (by rw [submittedPoints_map]; exact hindex)
      rcases hcalls.shutter hopen with hopen | hmem
      · exact .inl hopen
      · have hmem := (List.mem_append.mp hmem).resolve_right (by simp [shutterOpened])
        exact .inr (List.mem_map_of_mem hmem)
    have hinOrder : InOrder (tr ++ opening.map .usb) (.usb (.wrote c.connection.number t b)) := by
      refine ⟨hready.append fun e he => (hneutral e he).1 _, ?_,
        (h.blanked hworks).append fun e he => (hneutral e he).2.2⟩
      rcases hopening with ⟨hopen, -⟩ | rfl
      · exact List.mem_append_left _ (h.shutter hopen)
      · exact List.mem_append_right _ List.mem_cons_self
    rw [List.map_append, ← List.append_assoc]
    refine ⟨hopened.always.concat hinOrder, hopened.numbered, ?_, ?_, ?_, ?_⟩
    · intro hsubmitting
      simp [hphase] at hsubmitting
    · exact fun hopen => List.mem_append_left _ (hopened.shutter hopen)
    · intro _
      exact (hopened.blanked hworks).append (by simp)
    · rw [submittedPoints_append]
      exact hopened.index

theorem frameInvariant_writeFrame {env : Submission F} {points : List (LaserPoint F)}
    (h : FrameInvariant tr c) (hphase : c.phase = .looking)
    (hready : Since (ReadyAnswer c.connection.number)
      (fun e => ∀ t b, e ≠ .usb (.wrote c.connection.number t b)) tr)
    (hwrite : c.writeFrame D sdk env points = some (c', o)) : FrameInvariant (tr ++ o) c' := by
  rw [writeFrame] at hwrite
  dsimp only at hwrite
  split at hwrite
  · cases hwrite
  · rename_i connection events hsent
    obtain ⟨hcalls, hevents⟩ := UsbConnection.write_spec hsent
    have hwritten := frameInvariant_written h hphase hready hcalls hevents
    cases hwrite
    rw [← List.append_assoc]
    refine hwritten.append ?_ rfl le_rfl .inl .inl (fun _ => .inl (by simp [hphase])) ?_
    · intro e he
      rw [List.mem_singleton.mp he]
      exact ⟨by simp, by simp, by simp⟩
    · rw [noteWritten]
      simp [submittedPoints]
  · rename_i connection result events _ hsent
    obtain ⟨hcalls, hevents⟩ := UsbConnection.write_spec hsent
    have hwritten := frameInvariant_written h hphase hready hcalls hevents
    cases hwrite
    rw [← List.append_assoc]
    exact frameInvariant_fail hwritten hphase _

/-- A call of the application. -/
theorem frameInvariant_called (h : FrameInvariant tr c) {connection : UsbConnection}
    {events : List UsbEvent} (hcalls : Calls c.connection connection events)
    (hframeless : Frameless events) :
    FrameInvariant (tr ++ events.map .usb) { c with connection := connection } := by
  refine h.append (hcalls.neutral hframeless) hcalls.number hcalls.opened.ge ?_ .inl .inl ?_
  · exact fun hopen => (hcalls.shutter hopen).imp_right List.mem_map_of_mem
  · rw [submittedPoints_map]
    simp [h.index]

theorem frameInvariant_submit {env : Submission F} (h : FrameInvariant tr c)
    (hphase : c.phase = .submitting) (hsubmit : c.submit D sdk env = some (c', o)) :
    FrameInvariant (tr ++ o) c' := by
  have hready := h.ready hphase
  have hrequested : FrameInvariant (tr ++ [.requested (c.frameFillRequest sdk env.now)])
      { c with phase := .looking } := by
    refine ⟨h.always.concat h.index, h.numbered, nofun, ?_, ?_, ?_⟩
    · exact fun hopen => List.mem_append_left _ (h.shutter hopen)
    · exact fun _ => (h.blanked (by simp [hphase])).append (by simp)
    · rw [submittedPoints_append]
      exact h.index
  unfold submit at hsubmit
  split at hsubmit
  · cases hsubmit
    exact hrequested
  · cases hsubmit
    exact hrequested
  · obtain ⟨⟨c₁, events⟩, hwrite, heq⟩ := Option.map_eq_some_iff.mp hsubmit
    have hwritten := frameInvariant_writeFrame hrequested rfl (hready.append (by simp)) hwrite
    cases heq
    rwa [List.append_assoc] at hwritten

theorem frameInvariant_step {turn : HeliosTurn F} (h : FrameInvariant tr c)
    (hstep : c.step D sdk turn = some (c', o)) : FrameInvariant (tr ++ o) c' := by
  have hindex : c.currentPointIndex = (c.currentPointIndex + 0) % 2 ^ 64 := by simp [h.index]
  cases turn with
  | start =>
    rw [step] at hstep
    split at hstep <;> cases hstep
    refine h.append ?_ rfl le_rfl .inl (by simp) (fun _ => .inr List.mem_cons_self) hindex
    simp [Neutral]
  | look env =>
    rw [step] at hstep
    split at hstep
    · rename_i hphase
      have hlook : FrameInvariant (tr ++ (c.look sdk env).2) (c.look sdk env).1 :=
        frameInvariant_look h hphase env
      rwa [Option.some.inj hstep] at hlook
    · cases hstep
  | poll now usb =>
    rw [step] at hstep
    split at hstep
    · rename_i hphase
      have hpoll := frameInvariant_poll h (by simp [hphase]) now usb
      rwa [Option.some.inj hstep] at hpoll
    · cases hstep
  | submit env =>
    rw [step] at hstep
    split at hstep
    · rename_i hphase
      exact frameInvariant_submit h hphase hstep
    · cases hstep
  | leave =>
    rw [step] at hstep
    split at hstep <;> cases hstep
    exact h.append (by simp) rfl le_rfl .inl (by simp) (fun hphase => absurd rfl hphase) hindex
  | getDacName usb =>
    rw [step] at hstep
    rcases hname : c.connection.getName usb with ⟨connection, name, events⟩
    obtain ⟨hcalls, hframeless⟩ := UsbConnection.getName_spec hname
    rw [hname] at hstep
    cases hstep
    exact frameInvariant_called h hcalls hframeless
  | setDacName name usb =>
    rw [step] at hstep
    rcases hname : c.connection.setName (name.take 30) usb with ⟨connection, result, events⟩
    obtain ⟨hcalls, hframeless, -⟩ := UsbConnection.sendMessage_spec hname
    rw [hname] at hstep
    cases hstep
    exact frameInvariant_called h hcalls hframeless
  | setPointRate | setFramePointCount | prepareForShutdown | beginClose =>
    cases hstep
    exact h.append (by simp) rfl le_rfl .inl .inl .inl hindex
  | finishClose wasClosed stop =>
    rw [step] at hstep
    split at hstep <;> cases hstep
    refine h.append (neutral_closeHandleLocked _ (if wasClosed then none else some stop) _) rfl
      le_rfl (by simp) .inl .inl ?_
    rw [submittedPoints_map]
    exact hindex

/-- **Frames in order**: whatever the steps of the worker and of the application are, every frame is
sent after a fresh answer that the device is ready, to a device whose shutter was opened, and with
the startup blank reset since the handle was opened; and every request for points carries the number
of points that were sent. -/
theorem frames_in_order {portPath : ByteString} {devices : List UsbDevice} {pointRate : ℕ}
    {now : TimePoint} {turns : List (HeliosTurn F)} {o' : List HeliosEvent}
    (hconnect : connectUsb D sdk portPath devices pointRate now = (some c, o))
    (hrun : run (fun c turn => step c D sdk turn) c turns = some (c', o')) :
    Always InOrder (o ++ o') := by
  have hinit : FrameInvariant o c := by
    rw [connectUsb] at hconnect
    split at hconnect
    · cases hconnect
    · split at hconnect
      · cases hconnect
      · rename_i events number version opened hopen
        cases hconnect
        obtain ⟨-, hframeless, stage, -, hsearched⟩ := openHeliosUsbConnectionLocked_spec
          (fun _ => .fresh) hopen fun _ _ => rfl
        have halways := always_nil.append (P := InOrder) (o := events.map .usb) fun e he _ => by
          obtain ⟨event, hevent, rfl⟩ := List.mem_map.mp he
          cases event with
          | wrote handle t b => exact absurd hevent (hframeless handle t b)
          | _ => trivial
        exact ⟨halways, (hsearched.claimed _ _ rfl).2, by simp, by simp, fun h => absurd rfl h,
          by simp⟩
  exact (run_invariant (I := FrameInvariant)
    (fun tr c turn c' o hinv _ h => frameInvariant_step hinv h) hinit
    (Along.of_forall (P := fun _ => True) (fun _ _ => trivial) _ _) hrun).always

theorem frames_in_order_written :
    ∃ c o c' o', connectUsb ℚ plainSdk [49] [plainDevice] 1000 0 = (some c, o) ∧
      run (fun c turn => step c ℚ plainSdk turn) c closedWhileWriting = some (c', o') ∧
      submittedPoints o' = 1 ∧ Always InOrder (o ++ o') := by
  have hsome : ((connectUsb ℚ plainSdk [49] [plainDevice] 1000 0).1.bind fun c =>
      (run (fun c turn => step c ℚ plainSdk turn) c closedWhileWriting).map
        fun r => submittedPoints r.2) = some 1 := by
    decide +kernel
  rcases hconnect : connectUsb ℚ plainSdk [49] [plainDevice] 1000 0 with ⟨_ | c, o⟩
  · rw [hconnect] at hsome
    cases hsome
  · rw [hconnect] at hsome
    obtain ⟨⟨c', o'⟩, hrun, hpoints⟩ := Option.map_eq_some_iff.mp hsome
    exact ⟨c, o, c', o', rfl, hrun, hpoints, frames_in_order hconnect hrun⟩

end HeliosController

end LiberaLaser.Helios
