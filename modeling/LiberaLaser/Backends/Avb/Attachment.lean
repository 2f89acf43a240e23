import LiberaLaser.Backends.Avb.BackendState

/-!
# Connected banks are attached

A bank that is connected and not disconnected should be attached to a runtime that is open and
registered for its device. That no bank is attached any more, the closing of the runtime and its
removal from the map are steps of a disconnect, and another bank may be connected between them
(`closed_under_new_bank`). The check of `open` and the closing of the stream that it replaces are
steps too, and another call may open the stream and attach its bank between them
(`closed_by_second_open`). In a run where no step takes a runtime or a bank away from a controller
that is connected, or about to be, the property holds throughout (`banks_attached`).
-/

namespace LiberaLaser

namespace AvbBackendState

/-- The controllers that `connectController` has returned, that live and were not disconnected, with
their offsets. -/
def connectedBanks (s : AvbBackendState) : List (ℕ × ℕ) :=
  s.connected.filter fun e => e.2 ∉ s.destroyed ∧ e.2 ∉ s.disconnected

/-- The controller is attached to a runtime that is open and registered. -/
def Attached (s : AvbBackendState) (channelOffset controller : ℕ) : Prop :=
  ∃ runtime, s.runtimesByDeviceUid = some runtime ∧ (s.runtimes runtime).stream = true ∧
    (s.runtimes runtime).banksByOffset.lookup channelOffset = some controller

/-- No connected controller is attached to the runtime, and no call has opened it to attach one. -/
def Unused (s : AvbBackendState) (runtime : ℕ) : Prop :=
  (∀ e ∈ s.connectedBanks, (s.runtimes runtime).banksByOffset.lookup e.1 ≠ some e.2) ∧
  s.calls.Forall fun _ call => ∀ r ∈ call.hasOpened, r ≠ runtime

/-- Nobody has opened the runtime again, and no call is about to. -/
def Abandoned (s : AvbBackendState) (runtime : ℕ) : Prop :=
  (s.runtimes runtime).stream = false ∧ s.calls.Forall fun _ call => ∀ r ∈ call.opens, r ≠ runtime

instance (s : AvbBackendState) (runtime : ℕ) : Decidable (s.Unused runtime) :=
  inferInstanceAs (Decidable (_ ∧ _))

instance (s : AvbBackendState) (runtime : ℕ) : Decidable (s.Abandoned runtime) :=
  inferInstanceAs (Decidable (_ ∧ _))

/-- A stream is reset, in a disconnect or by a call that opens the runtime, only where the runtime
is unused; a call that finds the rate it wants still has the stream that it has seen; the entry of a
registered runtime is erased once it is abandoned; and a bank entry is set or erased only when no
other connected controller has it. -/
def Undisturbed (_ : List AvbEvent) (s : AvbBackendState) : AvbStep → Prop
  | .openRuntime thread opened =>
    ∀ call ∈ s.calls.lookup thread,
      (∀ runtime ∈ call.resets opened, s.Unused runtime) ∧
      ∀ e ∈ call.compares, (s.runtimes e.1).currentPointRate = e.2 →
        (s.runtimes e.1).stream = true
  | .attachController thread =>
    ∀ call ∈ s.calls.lookup thread, ∀ bank ∈ call.attaches,
      ∀ e ∈ s.connectedBanks, e.1 = bank.1 → e.2 = bank.2
  | .detachController thread =>
    ∀ call ∈ s.calls.lookup thread, ∀ bank ∈ call.detaches,
      ∀ e ∈ s.connectedBanks, e.1 = bank.1 →
        (s.runtimes bank.2).banksByOffset.lookup e.1 ≠ some e.2
  | .resetStream thread =>
    ∀ call ∈ s.calls.lookup thread, ∀ runtime ∈ call.resets none, s.Unused runtime
  | .erase thread =>
    ∀ call ∈ s.calls.lookup thread, ∀ runtime ∈ call.erases,
      s.runtimesByDeviceUid = some runtime → s.Abandoned runtime
  | _ => True

instance (tr : List AvbEvent) (s : AvbBackendState) : DecidablePred (Undisturbed tr s)
  | .openRuntime thread _ | .attachController thread | .detachController thread
  | .resetStream thread | .erase thread =>
    inferInstanceAs (Decidable (∀ call ∈ s.calls.lookup thread, _))
  | .connectController _ _ _ | .disconnectController _ _ | .hasAttachedControllers _
  | .clearPointRate _ | .destroyController _ | .destroyRuntime _ =>
    inferInstanceAs (Decidable True)

/-- The invariant of undisturbed runs. -/
structure AttachmentInvariant (s : AvbBackendState) : Prop where
  attached : ∀ e ∈ s.connectedBanks, s.Attached e.1 e.2
  registered : ∀ runtime, (s.runtimes runtime).stream = true →
    s.runtimesByDeviceUid = some runtime
  opening : s.calls.Forall fun _ call => ∀ r ∈ call.opens, s.runtimesByDeviceUid = some r
  hasOpened : s.calls.Forall fun _ call => ∀ r ∈ call.hasOpened, (s.runtimes r).stream = true

variable {s s' : AvbBackendState} {l : AvbStep} {tr o : List AvbEvent}

namespace AttachmentInvariant

theorem setCall (h : AttachmentInvariant s) {thread : ℕ} {call : AvbCall}
    (hopens : ∀ r ∈ call.opens, s.runtimesByDeviceUid = some r)
    (hopened : ∀ r ∈ call.hasOpened, (s.runtimes r).stream = true) :
    AttachmentInvariant (s.setCall thread call) :=
  ⟨h.attached, h.registered, h.opening.insert hopens, h.hasOpened.insert hopened⟩

theorem endCall (h : AttachmentInvariant s) (thread : ℕ) :
    AttachmentInvariant (s.endCall thread) :=
  ⟨h.attached, h.registered, h.opening.erase thread, h.hasOpened.erase thread⟩

/-- A runtime changes, and keeps its stream and its banks as far as they are used. -/
theorem setRuntime (h : AttachmentInvariant s) {runtime : ℕ} {state : AvbDeviceRuntime}
    (hopened : state.stream = true → s.runtimesByDeviceUid = some runtime)
    (hkeeps : ¬ s.Unused runtime → (s.runtimes runtime).stream = true → state.stream = true)
    (hbanks : ∀ e ∈ s.connectedBanks, (s.runtimes runtime).banksByOffset.lookup e.1 = some e.2 →
      state.banksByOffset.lookup e.1 = some e.2) :
    AttachmentInvariant (s.setRuntime runtime state) where
  attached e he := by
    obtain ⟨r, hr, hstream, hbank⟩ := h.attached e he
    refine ⟨r, hr, ?_⟩
    by_cases heq : r = runtime
    · subst heq
      have hused : ¬ s.Unused r := fun hunused => hunused.1 e he hbank
      rw [setRuntime_runtimes_self]
      exact ⟨hkeeps hused hstream, hbanks e he hbank⟩
    · rw [setRuntime_runtimes_of_ne heq]
      exact ⟨hstream, hbank⟩
  registered r hstream := by
    by_cases heq : r = runtime
    · subst heq
      rw [setRuntime_runtimes_self] at hstream
      exact hopened hstream
    · rw [setRuntime_runtimes_of_ne heq] at hstream
      exact h.registered r hstream
  opening := h.opening
  hasOpened t call hcall r hr := by
    have hstream := h.hasOpened t call hcall r hr
    by_cases heq : r = runtime
    · subst heq
      rw [setRuntime_runtimes_self]
      exact hkeeps (fun hunused => hunused.2 t call hcall r hr rfl) hstream
    · rw [setRuntime_runtimes_of_ne heq]
      exact hstream

theorem connect (h : AttachmentInvariant s) {channelOffset controller : ℕ}
    (hattached : s.Attached channelOffset controller) :
    AttachmentInvariant { s with connected := (channelOffset, controller) :: s.connected } where
  attached e he := by
    obtain ⟨hmem, hlive⟩ := List.mem_filter.mp he
    rcases List.mem_cons.mp hmem with rfl | hmem
    · exact hattached
    · exact h.attached e (List.mem_filter.mpr ⟨hmem, hlive⟩)
  registered := h.registered
  opening := h.opening
  hasOpened := h.hasOpened

theorem disconnect (h : AttachmentInvariant s) (controller : ℕ) :
    AttachmentInvariant { s with disconnected := controller :: s.disconnected } where
  attached e he := by
    obtain ⟨hmem, hlive⟩ := List.mem_filter.mp he
    simp only [List.mem_cons, not_or, decide_eq_true_eq] at hlive
    exact h.attached e (List.mem_filter.mpr ⟨hmem, by simpa using ⟨hlive.1, hlive.2.2⟩⟩)
  registered := h.registered
  opening := h.opening
  hasOpened := h.hasOpened

theorem destroy (h : AttachmentInvariant s) (controller : ℕ) :
    AttachmentInvariant { s with destroyed := controller :: s.destroyed } where
  attached e he := by
    obtain ⟨hmem, hlive⟩ := List.mem_filter.mp he
    simp only [List.mem_cons, not_or, decide_eq_true_eq] at hlive
    exact h.attached e (List.mem_filter.mpr ⟨hmem, by simpa using ⟨hlive.1.2, hlive.2⟩⟩)
  registered := h.registered
  opening := h.opening
  hasOpened := h.hasOpened

/-- Without an entry for the device, no bank is connected and no runtime is open. -/
theorem getOrCreateRuntimeLocked (h : AttachmentInvariant s) :
    AttachmentInvariant s.getOrCreateRuntimeLocked.1 ∧
      s.getOrCreateRuntimeLocked.1.runtimesByDeviceUid = some s.getOrCreateRuntimeLocked.2 := by
  rw [AvbBackendState.getOrCreateRuntimeLocked]
  cases hentry : s.runtimesByDeviceUid with
  | some runtime => exact ⟨h, hentry⟩
  | none =>
    have hclosed : ∀ r, (s.runtimes r).stream ≠ true := by
      intro r hstream
      have hr := h.registered r hstream
      rw [hentry] at hr
      cases hr
    refine ⟨⟨fun e he => ?_, fun r hstream => ?_, fun t call hcall e he => ?_,
      fun t call hcall e he => ?_⟩, rfl⟩
    · obtain ⟨r, -, hstream, -⟩ := h.attached e he
      exact absurd hstream (hclosed r)
    · change (Function.update s.runtimes s.runtimeCount {} r).stream = true at hstream
      by_cases heq : r = s.runtimeCount
      · rw [heq]
      · rw [Function.update_of_ne heq] at hstream
        exact absurd hstream (hclosed r)
    · have hr := h.opening t call hcall e he
      rw [hentry] at hr
      cases hr
    · exact absurd (h.hasOpened t call hcall e he) (hclosed e)

/-- The entry of an abandoned runtime is erased. -/
theorem unregister (h : AttachmentInvariant s) {runtime : ℕ}
    (habandoned : s.runtimesByDeviceUid = some runtime → s.Abandoned runtime) :
    AttachmentInvariant { s with
      runtimesByDeviceUid :=
        if s.runtimesByDeviceUid = some runtime then none else s.runtimesByDeviceUid } := by
  split
  · rename_i hentry
    obtain ⟨hclosed, hopens⟩ := habandoned hentry
    have hnone : ∀ r, (s.runtimes r).stream ≠ true := by
      intro r hstream
      obtain rfl := Option.some.inj ((h.registered r hstream).symm.trans hentry)
      rw [hclosed] at hstream
      cases hstream
    refine ⟨fun e he => ?_, fun r hstream => absurd hstream (hnone r), fun t call hcall e he => ?_,
      h.hasOpened⟩
    · obtain ⟨r, -, hstream, -⟩ := h.attached e he
      exact absurd hstream (hnone r)
    · have hr := Option.some.inj ((h.opening t call hcall e he).symm.trans hentry)
      exact absurd hr (hopens t call hcall e he)
  · exact ⟨h.attached, h.registered, h.opening, h.hasOpened⟩

/-- A stream is reset where the runtime is unused. -/
theorem resetStream (h : AttachmentInvariant s) {runtime : ℕ} (hunused : s.Unused runtime) :
    AttachmentInvariant (s.setRuntime runtime (s.runtimes runtime).resetStream) :=
  h.setRuntime nofun (fun hused => absurd hunused hused) fun _ _ hbank => hbank

/-- One step of a call that opens a runtime, which the call has found registered. -/
theorem openStep (h : AttachmentInvariant s) {thread : ℕ} {opened : Option ℕ} {stage : AvbOpening}
    {channelOffset controller runtime pointRate : ℕ}
    (hcall : s.calls.lookup thread =
      some (.opening stage channelOffset controller runtime pointRate))
    (hguard : Undisturbed tr s (.openRuntime thread opened)) :
    AttachmentInvariant
      (s.setRuntime runtime ((s.runtimes runtime).openStep pointRate opened stage).1) := by
  refine h.setRuntime (fun _ => ?_) (fun hused hstream => ?_) fun e _ hbank => ?_
  · exact h.opening thread _ hcall _ rfl
  · refine AvbDeviceRuntime.stream_openStep hstream ?_
    by_contra hresets
    have hresets : stage.resets opened = true := by simpa using hresets
    exact hused ((hguard _ hcall).1 runtime (if_pos hresets))
  · rwa [AvbDeviceRuntime.openStep_banksByOffset]

/-- A call that has opened the runtime leaves its stream. -/
theorem stream_of_returns (h : AttachmentInvariant s) {thread : ℕ} {opened : Option ℕ}
    {stage : AvbOpening} {channelOffset controller runtime pointRate : ℕ}
    (hcall : s.calls.lookup thread =
      some (.opening stage channelOffset controller runtime pointRate))
    (hguard : Undisturbed tr s (.openRuntime thread opened))
    (hopen : ((s.runtimes runtime).openStep pointRate opened stage).2 = .returns true) :
    ((s.runtimes runtime).openStep pointRate opened stage).1.stream = true := by
  have hbefore : (s.runtimes runtime).stream = true ∧ stage.resets opened = false := by
    rcases AvbDeviceRuntime.opening_of_returns hopen with hstarted | ⟨rfl, hrate⟩
    · refine ⟨h.hasOpened thread _ hcall runtime (if_pos hstarted), ?_⟩
      cases stage <;> first | rfl | cases hstarted
    · exact ⟨(hguard _ hcall).2 _ rfl hrate, rfl⟩
  exact AvbDeviceRuntime.stream_openStep hbefore.1 hbefore.2

theorem hasAttachedControllers (h : AttachmentInvariant s) (runtime : ℕ) :
    AttachmentInvariant
      (s.setRuntime runtime ((s.runtimes runtime).hasAttachedControllers s.alive).1) := by
  refine h.setRuntime (h.registered runtime) (fun _ => id) fun e he hbank => ?_
  -- the bank of a connected controller has not expired
  obtain ⟨-, hlive⟩ := List.mem_filter.mp he
  simp only [decide_eq_true_eq] at hlive
  exact Table.lookup_dropWhile _ hbank (by simpa [alive] using hlive.1)

theorem step (h : AttachmentInvariant s) (hguard : Undisturbed tr s l)
    (hstep : AvbBackendState.step s l = some (s', o)) : AttachmentInvariant s' := by
  cases step_cases hstep with
  | refused => exact h
  | acquired thread channelOffset pointRate hcall hrate cache count controller hentry =>
    obtain ⟨hcreated, hregistered⟩ := h.getOrCreateRuntimeLocked
    have hacquired : AttachmentInvariant { s.getOrCreateRuntimeLocked.1 with
        activeControllers := cache
        controllerCount := count } :=
      ⟨hcreated.attached, hcreated.registered, hcreated.opening, hcreated.hasOpened⟩
    refine hacquired.setCall ?_ nofun
    rintro e ⟨rfl⟩
    exact hregistered
  | opening thread opened stage next channelOffset controller runtime pointRate hcall hopen =>
    refine (h.openStep hcall hguard).setCall ?_ fun r hr => ?_
    · rintro r ⟨rfl⟩
      exact h.opening thread _ hcall _ rfl
    · obtain ⟨hnext, hr⟩ := Option.ite_none_right_eq_some.mp hr
      obtain rfl := Option.some.inj hr
      rw [setRuntime_runtimes_self]
      exact AvbDeviceRuntime.stream_of_hasStarted hopen hnext
  | opened thread opened stage channelOffset controller runtime pointRate hcall hopen =>
    refine (h.openStep hcall hguard).setCall nofun ?_
    rintro r ⟨rfl⟩
    rw [setRuntime_runtimes_self]
    exact h.stream_of_returns hcall hguard hopen
  | failed thread opened stage channelOffset controller runtime pointRate hcall hopen =>
    exact (h.openStep hcall hguard).endCall thread
  | attached thread channelOffset controller runtime hcall =>
    have hstream := h.hasOpened thread _ hcall _ rfl
    have hset : AttachmentInvariant (s.setRuntime runtime
        ((s.runtimes runtime).attachController channelOffset controller)) := by
      refine h.setRuntime (h.registered runtime) (fun _ => id) fun e he hbank => ?_
      refine Table.lookup_insert_eq_some.mpr ?_
      by_cases hoffset : e.1 = channelOffset
      · exact Or.inl ⟨hoffset, (hguard _ hcall _ rfl e he hoffset).symm⟩
      · exact Or.inr ⟨hoffset, hbank⟩
    refine (hset.endCall thread).connect ⟨runtime, h.registered runtime hstream, ?_⟩
    change ((s.setRuntime runtime _).runtimes runtime).stream = true ∧
      ((s.setRuntime runtime _).runtimes runtime).banksByOffset.lookup channelOffset = _
    rw [setRuntime_runtimes_self]
    exact ⟨hstream, AList.lookup_insert _⟩
  | notFound => exact ⟨h.attached, h.registered, h.opening, h.hasOpened⟩
  | taken thread channelOffset hcall controller hentry =>
    have htaken : AttachmentInvariant { s with
        activeControllers := s.activeControllers.erase channelOffset } :=
      ⟨h.attached, h.registered, h.opening, h.hasOpened⟩
    have hset : AttachmentInvariant (AvbBackendState.setCall { s with
        activeControllers := s.activeControllers.erase channelOffset } thread
          (.detaching channelOffset controller s.runtimesByDeviceUid)) := htaken.setCall nofun nofun
    exact hset.disconnect controller
  | unregistered thread => exact h.endCall thread
  | detached thread channelOffset controller runtime hcall =>
    have hset : AttachmentInvariant (s.setRuntime runtime
        ((s.runtimes runtime).detachController channelOffset)) := by
      refine h.setRuntime (h.registered runtime) (fun _ => id) fun e he hbank => ?_
      refine Table.lookup_erase_eq_some.mpr ⟨fun hoffset => ?_, hbank⟩
      exact hguard _ hcall _ rfl e he hoffset hbank
    exact hset.setCall nofun nofun
  | inUse thread channelOffset controller runtime hcall =>
    exact (h.hasAttachedControllers runtime).endCall thread
  | unused thread channelOffset controller runtime hcall =>
    exact (h.hasAttachedControllers runtime).setCall nofun nofun
  | closed thread channelOffset controller runtime hcall =>
    exact (h.resetStream (hguard _ hcall _ rfl)).setCall nofun nofun
  | cleared thread channelOffset controller runtime hcall =>
    have hset : AttachmentInvariant (s.setRuntime runtime (s.runtimes runtime).clearPointRate) :=
      h.setRuntime (h.registered runtime) (fun _ => id) fun e _ hbank => hbank
    exact hset.setCall nofun nofun
  | erased thread channelOffset controller runtime hcall =>
    exact (h.endCall thread).unregister fun hentry =>
      have habandoned := hguard _ hcall _ rfl hentry
      ⟨habandoned.1, habandoned.2.erase thread⟩
  | destroyController controller => exact h.destroy controller
  | destroyRuntime runtime hentry hunheld =>
    refine h.setRuntime nofun (fun _ hstream => ?_) fun e _ hbank => hbank
    exact absurd (h.registered runtime hstream) hentry

end AttachmentInvariant

/-- **Connected banks are attached**: in every run whose steps take no runtime or bank from a
connected controller, each of these is attached to a runtime that is open and registered, and no
other runtime of the device is open. -/
theorem banks_attached {ls : List AvbStep} (hundisturbed : Runs.Along step Undisturbed [] {} ls)
    (hrun : Runs.run step {} ls = some (s, o)) :
    (∀ e ∈ s.connectedBanks, s.Attached e.1 e.2) ∧
      ∀ r r', (s.runtimes r).stream = true → (s.runtimes r').stream = true → r = r' := by
  have hinit : AttachmentInvariant {} :=
    ⟨nofun, nofun, Table.forall_empty, Table.forall_empty⟩
  have hpreserved : ∀ tr (s : AvbBackendState) l s' o, AttachmentInvariant s →
      Undisturbed tr s l → step s l = some (s', o) → AttachmentInvariant s' :=
    fun _ _ _ _ _ h hguard hstep => h.step hguard hstep
  have hs : AttachmentInvariant s :=
    Runs.run_invariant (I := fun _ s => AttachmentInvariant s) hpreserved hinit hundisturbed hrun
  refine ⟨hs.attached, fun r r' hr hr' => ?_⟩
  exact Option.some.inj ((hs.registered r hr).symm.trans (hs.registered r' hr'))

/-- A call opens the runtime, for which the host has a stream. -/
def opensRuntime (thread : ℕ) : List AvbStep :=
  List.replicate 6 (.openRuntime thread (some 48000))

/-- A call finds the runtime open, at the rate it wants. -/
def findsOpen (thread : ℕ) : List AvbStep :=
  List.replicate 2 (.openRuntime thread none)

/-- Two banks are connected, and one is disconnected while the other stays. -/
theorem banks_attached_after_disconnect :
    ∃ s o, Runs.run step {} ([.connectController 0 0 48000] ++ opensRuntime 0 ++
        [.connectController 1 8 48000, .attachController 0] ++ findsOpen 1 ++
        [.disconnectController 2 0, .attachController 1, .detachController 2,
          .hasAttachedControllers 2]) = some (s, o) ∧
      (8, 1) ∈ s.connectedBanks ∧ s.Attached 8 1 := by
  have hrun : (Runs.run step {} ([.connectController 0 0 48000] ++ opensRuntime 0 ++
      [.connectController 1 8 48000, .attachController 0] ++ findsOpen 1 ++
      [.disconnectController 2 0, .attachController 1, .detachController 2,
        .hasAttachedControllers 2])).map (fun r => r.1.connectedBanks) = some [(8, 1)] := by
    decide +kernel
  obtain ⟨⟨s, o⟩, hrun, hbanks⟩ := Option.map_eq_some_iff.mp hrun
  have hmem : (8, 1) ∈ s.connectedBanks := by rw [hbanks]; exact List.mem_cons_self
  exact ⟨s, o, hrun, hmem, (banks_attached (by decide +kernel) hrun).1 _ hmem⟩

/-- Bank 0 is disconnected and has seen no bank attached, when bank 8 is connected with the same
runtime. The disconnect then closes and erases the runtime. -/
theorem closed_under_new_bank :
    ¬ ∀ ls s o, Runs.run step {} ls = some (s, o) →
      (∀ e ∈ s.connectedBanks, s.Attached e.1 e.2) ∧
        ∀ r r', (s.runtimes r).stream = true → (s.runtimes r').stream = true → r = r' := by
  intro h
  have hrun : (Runs.run step {} ([.connectController 0 0 48000] ++ opensRuntime 0 ++
      [.attachController 0, .disconnectController 1 0, .detachController 1,
        .hasAttachedControllers 1, .connectController 2 8 48000] ++ findsOpen 2 ++
      [.attachController 2, .resetStream 1, .clearPointRate 1, .erase 1])).map
        (fun r => (r.1.connectedBanks, r.1.runtimesByDeviceUid)) = some ([(8, 1)], none) := by
    decide +kernel
  obtain ⟨⟨s, o⟩, hrun, hs⟩ := Option.map_eq_some_iff.mp hrun
  obtain ⟨hbanks, hentry⟩ := Prod.mk.inj hs
  have hmem : (8, 1) ∈ s.connectedBanks := by rw [hbanks]; exact List.mem_cons_self
  obtain ⟨runtime, hruntime, -⟩ := (h _ s o hrun).1 _ hmem
  rw [hentry] at hruntime
  cases hruntime

/-- Bank 8 finds no stream when the check of its `open` comes first. Bank 0 is then connected with
the stream that its own `open` makes, and the `open` of bank 8 closes it. -/
theorem closed_by_second_open :
    (Runs.run step {} ([.connectController 0 0 48000, .connectController 1 8 48000,
      .openRuntime 1 none] ++ opensRuntime 0 ++ [.attachController 0, .openRuntime 1 none])).map
        (fun r => (r.1.connectedBanks, (r.1.runtimes 0).stream)) = some ([(0, 0)], false) := by
  decide +kernel

end AvbBackendState

end LiberaLaser
