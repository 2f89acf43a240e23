import LiberaLaser.Backends.Avb.Interleaving

/-!
# The banks that are attached

A controller is created for the bank that is being connected, and from then on it is handed on
under the channel of that bank alone (`hands_step`). So in whatever order banks are connected
and disconnected, each attached bank has a controller that writes to the channels of the bank, and
what the audio callback fills the buffer with does not depend on the order of the banks
(`audio_output_independent_of_order`).
-/

namespace LiberaLaser

open Runs LaserController

/-- The bank that a call connects. -/
def AvbCall.bank : AvbCall → Option (ℕ × ℕ)
  | .opening _ channelOffset controller _ _ => some (channelOffset, controller)
  | .attaching channelOffset controller _ => some (channelOffset, controller)
  | _ => none

namespace AvbBackendState

/-- The controller is that of the bank in the cache, in a call that connects it, or in a runtime. -/
def HoldsBank (s : AvbBackendState) (channelOffset controller : ℕ) : Prop :=
  s.activeControllers.lookup channelOffset = some controller ∨
  (∃ thread call, s.calls.lookup thread = some call ∧
    call.bank = some (channelOffset, controller)) ∨
  ∃ runtime, (s.runtimes runtime).banksByOffset.lookup channelOffset = some controller

variable {s s' : AvbBackendState} {channelOffset controller thread runtime : ℕ} {l : AvbStep}
  {o : List AvbEvent}

namespace HoldsBank

theorem of_setCall {call : AvbCall}
    (h : (s.setCall thread call).HoldsBank channelOffset controller) :
    s.HoldsBank channelOffset controller ∨ call.bank = some (channelOffset, controller) := by
  rcases h with h | ⟨thread', call', h, hbank⟩ | h
  · exact .inl (.inl h)
  · rcases Table.lookup_insert_eq_some.mp h with ⟨-, rfl⟩ | ⟨-, h⟩
    · exact .inr hbank
    · exact .inl (.inr (.inl ⟨thread', call', h, hbank⟩))
  · exact .inl (.inr (.inr h))

theorem of_endCall (h : (s.endCall thread).HoldsBank channelOffset controller) :
    s.HoldsBank channelOffset controller := by
  rcases h with h | ⟨thread', call', h, hbank⟩ | h
  · exact .inl h
  · exact .inr (.inl ⟨thread', call', (Table.lookup_erase_eq_some.mp h).2, hbank⟩)
  · exact .inr (.inr h)

theorem of_setRuntime {state : AvbDeviceRuntime}
    (h : (s.setRuntime runtime state).HoldsBank channelOffset controller) :
    s.HoldsBank channelOffset controller ∨
      state.banksByOffset.lookup channelOffset = some controller := by
  rcases h with h | h | ⟨runtime', h⟩
  · exact .inl (.inl h)
  · exact .inl (.inr (.inl h))
  · by_cases heq : runtime' = runtime
    · subst heq
      rw [setRuntime_runtimes_self] at h
      exact .inr h
    · rw [setRuntime_runtimes_of_ne heq] at h
      exact .inl (.inr (.inr ⟨runtime', h⟩))

/-- A runtime changes, and no bank is added to it. -/
theorem of_fewer_banks {state : AvbDeviceRuntime}
    (hbanks : ∀ k c, state.banksByOffset.lookup k = some c →
      (s.runtimes runtime).banksByOffset.lookup k = some c)
    (h : (s.setRuntime runtime state).HoldsBank channelOffset controller) :
    s.HoldsBank channelOffset controller := by
  rcases h.of_setRuntime with h | h
  · exact h
  · exact .inr (.inr ⟨runtime, hbanks _ _ h⟩)

theorem of_call {call : AvbCall} (hcall : s.calls.lookup thread = some call)
    (hbank : call.bank = some (channelOffset, controller)) : s.HoldsBank channelOffset controller :=
  .inr (.inl ⟨thread, call, hcall, hbank⟩)

theorem of_getOrCreateRuntimeLocked
    (h : s.getOrCreateRuntimeLocked.1.HoldsBank channelOffset controller) :
    s.HoldsBank channelOffset controller := by
  unfold getOrCreateRuntimeLocked at h
  split at h
  · exact h
  · rcases of_setRuntime (s := s) h with h | h
    · exact h
    · cases h

end HoldsBank

theorem getOrCreateRuntimeLocked_controllerCount :
    s.getOrCreateRuntimeLocked.1.controllerCount = s.controllerCount := by
  unfold getOrCreateRuntimeLocked
  split <;> rfl

theorem getOrCreateRuntimeLocked_activeControllers :
    s.getOrCreateRuntimeLocked.1.activeControllers = s.activeControllers := by
  unfold getOrCreateRuntimeLocked
  split <;> rfl

/-- What is held after a step was held before, except for the new controller of the bank that is
being connected. -/
structure Hands (s : AvbBackendState) (l : AvbStep) (s' : AvbBackendState) : Prop where
  count_le : s.controllerCount ≤ s'.controllerCount
  held : ∀ channelOffset controller, s'.HoldsBank channelOffset controller →
    s.HoldsBank channelOffset controller ∨
      (∃ thread pointRate, l = .connectController thread channelOffset pointRate) ∧
        controller = s.controllerCount ∧ s.controllerCount < s'.controllerCount

/-- A step that creates no controller. -/
theorem Hands.of_held (hcount : s'.controllerCount = s.controllerCount)
    (hheld : ∀ channelOffset controller, s'.HoldsBank channelOffset controller →
      s.HoldsBank channelOffset controller) : Hands s l s' :=
  ⟨hcount.ge, fun channelOffset controller h => .inl (hheld channelOffset controller h)⟩

theorem hands_beginConnect (thread channelOffset pointRate : ℕ) :
    Hands s (.connectController thread channelOffset pointRate)
      (s.beginConnect thread channelOffset pointRate).1 := by
  rw [beginConnect]
  split
  · exact .of_held rfl fun _ _ h => h
  have hcount := getOrCreateRuntimeLocked_controllerCount (s := s)
  have hcache := getOrCreateRuntimeLocked_activeControllers (s := s)
  have hregistered (k c : ℕ) :
      s.getOrCreateRuntimeLocked.1.HoldsBank k c → s.HoldsBank k c :=
    HoldsBank.of_getOrCreateRuntimeLocked
  generalize s.getOrCreateRuntimeLocked = registered at hcount hcache hregistered ⊢
  obtain ⟨s₁, runtime⟩ := registered
  have hcase := ControllerCache.getOrCreate_cases s₁.activeControllers s₁.alive channelOffset
    (some s₁.controllerCount)
  dsimp only at hcount hcache hregistered ⊢
  generalize s₁.activeControllers.getOrCreate s₁.alive channelOffset (some s₁.controllerCount) =
    result at hcase ⊢
  obtain ⟨cache, acquisition⟩ := result
  cases hcase with
  | reused controller hentry halive =>
    refine .of_held hcount fun k c hheld => ?_
    rcases hheld.of_setCall with hheld | hbank
    · exact hregistered k c hheld
    · cases hbank
      exact .inl (hcache ▸ hentry)
  | failed _ hnone => cases hnone
  | created cache' controller hsome hdead hentry hkept =>
    obtain rfl := Option.some.inj hsome
    have hnew : s.controllerCount < s₁.controllerCount + 1 := hcount ▸ Nat.lt_succ_self _
    refine ⟨hnew.le, fun k c hheld => ?_⟩
    rcases hheld.of_setCall with (hcached | hheld) | hbank
    · by_cases hk : k = channelOffset
      · subst hk
        obtain rfl := Option.some.inj (hentry.symm.trans hcached)
        exact .inr ⟨⟨thread, pointRate, rfl⟩, hcount, hnew⟩
      · exact .inl (hregistered k c (.inl ((hkept k hk).symm.trans hcached)))
    · exact .inl (hregistered k c (.inr hheld))
    · cases hbank
      exact .inr ⟨⟨thread, pointRate, rfl⟩, hcount, hnew⟩

theorem hands_connectController {pointRate : ℕ}
    (h : step s (.connectController thread channelOffset pointRate) = some (s', o)) :
    Hands s (.connectController thread channelOffset pointRate) s' := by
  cases hcall : s.calls.lookup thread with
  | some call => simp [step, hcall] at h
  | none =>
    simp only [step, hcall, Option.some.injEq] at h
    have hnext : (s.beginConnect thread channelOffset pointRate).1 = s' := congrArg Prod.fst h
    exact hnext ▸ hands_beginConnect thread channelOffset pointRate

theorem hands_beginDisconnect (thread channelOffset : ℕ) :
    Hands s (.disconnectController thread channelOffset)
      (s.beginDisconnect thread channelOffset).1 := by
  have hcache (k c : ℕ) :
      (s.activeControllers.take s.alive channelOffset).1.lookup k = some c →
        s.activeControllers.lookup k = some c := by
    unfold ControllerCache.take
    split
    · exact id
    · exact fun h => (Table.lookup_erase_eq_some.mp h).2
  rw [beginDisconnect]
  generalize s.activeControllers.take s.alive channelOffset = taken at hcache ⊢
  obtain ⟨cache, controller⟩ := taken
  cases controller with
  | none => exact .of_held rfl fun k c hheld => hheld.imp_left (hcache k c)
  | some controller =>
    refine .of_held rfl fun k c hheld => ?_
    rcases HoldsBank.of_setCall
      (s := { s with activeControllers := cache, disconnected := controller :: s.disconnected })
      hheld with hheld | hbank
    · exact hheld.imp_left (hcache k c)
    · cases hbank

theorem hands_disconnectController
    (h : step s (.disconnectController thread channelOffset) = some (s', o)) :
    Hands s (.disconnectController thread channelOffset) s' := by
  cases hcall : s.calls.lookup thread with
  | some call => simp [step, hcall] at h
  | none =>
    simp only [step, hcall, Option.some.injEq] at h
    have hnext : (s.beginDisconnect thread channelOffset).1 = s' := congrArg Prod.fst h
    exact hnext ▸ hands_beginDisconnect thread channelOffset

/-- **Every step hands the banks on.** -/
theorem hands_step (h : step s l = some (s', o)) : Hands s l s' := by
  have hcase := step_cases h
  cases hcase with
  | refused thread channelOffset hcall => exact .of_held rfl fun _ _ h => h
  | acquired thread channelOffset pointRate hcall hrate cache count controller hentry =>
    exact hands_connectController h
  | opening thread opened stage next channelOffset controller runtime pointRate hcall hopen
  | opened thread opened stage channelOffset controller runtime pointRate hcall hopen =>
    refine .of_held rfl fun k c hheld => ?_
    rcases hheld.of_setCall with hheld | hbank
    · exact hheld.of_fewer_banks fun k c h => by
        rwa [AvbDeviceRuntime.openStep_banksByOffset] at h
    · exact .of_call hcall hbank
  | failed thread opened stage channelOffset controller runtime pointRate hcall hopen =>
    refine .of_held rfl fun k c hheld => ?_
    exact hheld.of_endCall.of_fewer_banks fun k c h => by
      rwa [AvbDeviceRuntime.openStep_banksByOffset] at h
  | attached thread channelOffset controller runtime hcall =>
    refine .of_held rfl fun k c hheld => ?_
    rcases (HoldsBank.of_endCall (s := s.setRuntime runtime
      ((s.runtimes runtime).attachController channelOffset controller)) hheld).of_setRuntime with
      hheld | hbank
    · exact hheld
    · rcases Table.lookup_insert_eq_some.mp hbank with ⟨rfl, rfl⟩ | ⟨-, hbank⟩
      · exact .of_call hcall rfl
      · exact .inr (.inr ⟨runtime, hbank⟩)
  | notFound thread channelOffset hcall cache => exact hands_disconnectController h
  | taken thread channelOffset hcall controller hentry => exact hands_disconnectController h
  | unregistered thread channelOffset controller hcall =>
    exact .of_held rfl fun k c hheld => hheld.of_endCall
  | detached thread channelOffset controller runtime hcall =>
    refine .of_held rfl fun k c hheld => ?_
    rcases hheld.of_setCall with hheld | hbank
    · exact hheld.of_fewer_banks fun k c h => (Table.lookup_erase_eq_some.mp h).2
    · cases hbank
  | inUse thread channelOffset controller runtime hcall =>
    refine .of_held rfl fun k c hheld => ?_
    exact hheld.of_endCall.of_fewer_banks fun k c h => Table.lookup_of_dropWhile h
  | unused thread channelOffset controller runtime hcall =>
    refine .of_held rfl fun k c hheld => ?_
    rcases hheld.of_setCall with hheld | hbank
    · exact hheld.of_fewer_banks fun k c h => Table.lookup_of_dropWhile h
    · cases hbank
  | closed thread channelOffset controller runtime hcall
  | cleared thread channelOffset controller runtime hcall =>
    refine .of_held rfl fun k c hheld => ?_
    rcases hheld.of_setCall with hheld | hbank
    · refine hheld.of_fewer_banks fun _ _ h => ?_
      exact h
    · cases hbank
  | erased thread channelOffset controller runtime hcall =>
    exact .of_held rfl fun k c hheld => HoldsBank.of_endCall (s := s) hheld
  | destroyController controller => exact .of_held rfl fun _ _ h => h
  | destroyRuntime runtime hentry hunheld =>
    exact .of_held rfl fun k c hheld => hheld.of_fewer_banks (fun k c
      (h : (s.runtimes runtime).close.banksByOffset.lookup k = some c) => h)

end AvbBackendState

namespace AvbOutput

variable {τ F D : Type}

/-- **What holds throughout**: the content source of every controller is consistent, and whatever
is held as the controller of a bank has been created, and writes to the channels of the bank. -/
structure Valid (s : AvbOutput τ F D) : Prop where
  source : ∀ c, SourceInv (s.controllers c).toLaserController
  banks : ∀ channelOffset c, s.backend.HoldsBank channelOffset c →
    c < s.backend.controllerCount ∧ (s.controllers c).IsBankAt channelOffset

theorem Valid.distinctBanks {s : AvbOutput τ F D} (h : Valid s) (runtime : ℕ) :
    DistinctBanks s.controllers (s.liveBanks runtime) where
  isBankAt bank hbank := by
    have hentry := AvbDeviceRuntime.lookup_of_mem_liveBanks hbank
    exact (h.banks bank.1 bank.2 (.inr (.inr ⟨runtime, hentry⟩))).2
  distinct bank hbank bank' hbank' heq := by
    have hentry := AvbDeviceRuntime.lookup_of_mem_liveBanks hbank
    have hentry' := AvbDeviceRuntime.lookup_of_mem_liveBanks hbank'
    rw [heq] at hentry
    exact Prod.ext heq (Option.some.inj (hentry.symm.trans hentry'))

/-- The data of one controller changes, and it stays that of its bank. -/
theorem Valid.update {s : AvbOutput τ F D} (h : Valid s) {controller : ℕ}
    {c : AvbController τ F D} (hsource : SourceInv c.toLaserController)
    (hoffset : c.channelOffset = (s.controllers controller).channelOffset)
    (hcount : c.channelCount = (s.controllers controller).channelCount) :
    Valid { s with controllers := Function.update s.controllers controller c } where
  source c' := by
    by_cases hc : c' = controller
    · subst hc
      simpa using hsource
    · simpa [Function.update_of_ne hc] using h.source c'
  banks channelOffset c' hheld := by
    obtain ⟨hlt, hbank⟩ := h.banks channelOffset c' hheld
    refine ⟨hlt, ?_⟩
    by_cases hc : c' = controller
    · subst hc
      have hself : Function.update s.controllers c' c c' = c := Function.update_self ..
      dsimp only
      rw [hself]
      exact ⟨hoffset ▸ hbank.offset_eq, hcount ▸ hbank.count_eq, hbank.aligned, hbank.fits⟩
    · simpa [Function.update_of_ne hc] using hbank

theorem Valid.backend {s : AvbOutput τ F D} (h : Valid s) {l : AvbStep} {backend : AvbBackendState}
    {o : List AvbEvent} (hstep : s.backend.step l = some (backend, o))
    (hl : ∀ thread channelOffset pointRate, l ≠ .connectController thread channelOffset pointRate) :
    Valid { s with backend } where
  source := h.source
  banks channelOffset c hheld := by
    have hhands := AvbBackendState.hands_step hstep
    rcases hhands.held channelOffset c hheld with hheld | ⟨⟨thread, rate, heq⟩, -⟩
    · obtain ⟨hlt, hbank⟩ := h.banks channelOffset c hheld
      exact ⟨hlt.trans_le hhands.count_le, hbank⟩
    · exact absurd heq (hl thread channelOffset rate)

variable [FloatArith F] [FloatArith D]

theorem valid_new (deviceUid : ByteString) : Valid (new deviceUid : AvbOutput τ F D) where
  source _ := sourceInv_new .new
  banks channelOffset c hheld := by
    rcases hheld with h | ⟨thread, call, h, -⟩ | ⟨runtime, h⟩
    · cases h
    · cases h
    · cases h

/-- **The order of the banks is of no consequence** while the state is valid. -/
theorem Valid.handleAudioCallback {s : AvbOutput τ F D} (h : Valid s) (runtime : ℕ)
    (frameCount channelCount : UInt32) (time : TimePoint) (input : ℕ → BankInput) :
    ∃ s' out, (∀ banks : List (ℕ × ℕ), banks.Perm (s.liveBanks runtime) →
        s.handleAudioCallback runtime banks frameCount channelCount time input = some (s', out)) ∧
      Valid s' ∧ out.length = frameCount.toNat * channelCount.toNat ∧
      ∀ place < frameCount.toNat * channelCount.toNat,
        (∀ bank ∈ s.liveBanks runtime, ¬Owns channelCount.toNat bank.1 place) →
          out[place]? = some 0.0 := by
  by_cases hzero : frameCount = 0 ∨ channelCount = 0
  · have hempty : frameCount.toNat * channelCount.toNat = 0 := by
      rcases hzero with rfl | rfl
      · exact Nat.zero_mul _
      · exact Nat.mul_zero _
    refine ⟨s, [], fun banks _ => if_pos hzero, h, hempty.symm, fun place hplace => ?_⟩
    rw [hempty] at hplace
    exact absurd hplace (Nat.not_lt_zero place)
  · obtain ⟨⟨controllers, output⟩, hfold, hrender⟩ :=
      foldlM_renderBank h.source (h.distinctBanks runtime)
    let state := (s.backend.runtimes runtime).eraseExpired s.backend.alive
    refine ⟨{ s with backend := s.backend.setRuntime runtime state, controllers }, output,
      fun banks hperm => ?_, ⟨hrender.source, fun channelOffset c hheld => ?_⟩, hrender.length_eq,
      hrender.silent⟩
    · rw [AvbOutput.handleAudioCallback, if_neg hzero]
      dsimp only
      rw [hfold banks hperm]
    · obtain ⟨hlt, hbank⟩ := h.banks channelOffset c
        (hheld.of_fewer_banks fun k c hk => Table.lookup_of_filter hk)
      exact ⟨hlt, hrender.isBankAt channelOffset c hbank⟩

theorem Valid.connectController {s s' : AvbOutput τ F D} (h : Valid s) {thread pointRate : ℕ}
    {info : AvbControllerInfo} {device : AvbAudioDeviceInfo} (hinfo : Avb.IsBank device info)
    (hstep : s.connectController thread info pointRate = some s') : Valid s' := by
  rw [AvbOutput.connectController] at hstep
  split at hstep
  · cases hstep
  rename_i backend o hbackend
  obtain rfl := Option.some.inj hstep
  have hhands := AvbBackendState.hands_step hbackend
  have hnew : (AvbController.ofInfo info : AvbController τ F D).IsBankAt
      info.channelOffset.toNat := by
    have hbound := device.outputChannels.toNat_lt
    have hfits := hinfo.fits
    exact ⟨rfl, hinfo.count_eq, hinfo.aligned, by omega⟩
  constructor
  · intro c
    dsimp only
    split
    · by_cases hc : c = s.backend.controllerCount
      · rw [hc, Function.update_self]
        exact sourceInv_new .new
      · rw [Function.update_of_ne hc]
        exact h.source c
    · exact h.source c
  · intro channelOffset c hheld
    rcases hhands.held channelOffset c hheld with hheld | ⟨⟨thread', rate', heq⟩, rfl, hlt⟩
    · obtain ⟨hlt, hbank⟩ := h.banks channelOffset c hheld
      refine ⟨hlt.trans_le hhands.count_le, ?_⟩
      dsimp only
      split
      · rw [Function.update_of_ne hlt.ne]
        exact hbank
      · exact hbank
    · cases heq
      refine ⟨hlt, ?_⟩
      dsimp only
      rw [if_pos hlt, Function.update_self]
      exact hnew

/-- **Every step keeps the state valid.** -/
theorem Valid.step {s s' : AvbOutput τ F D} (h : Valid s) {l : AvbOutputStep τ F}
    {o : List (List F)} (hstep : s.step l = some (s', o)) : Valid s' := by
  cases l with
  | connectController thread devices configs index pointRate =>
    rw [AvbOutput.step] at hstep
    split at hstep
    · cases hstep
    rename_i info hinfo
    obtain ⟨-, hstep⟩ := Option.ite_none_right_eq_some.mp hstep
    obtain ⟨s₁, hconnect, heq⟩ := Option.map_eq_some_iff.mp hstep
    obtain rfl : s₁ = s' := congrArg Prod.fst heq
    obtain ⟨device, -, hbank⟩ := Avb.isBank_of_mem (List.mem_of_getElem? hinfo)
    exact h.connectController hbank hconnect
  | backend l =>
    cases l with
    | connectController thread channelOffset pointRate => cases hstep
    | _ =>
      obtain ⟨⟨backend, events⟩, hbackend, heq⟩ := Option.map_eq_some_iff.mp hstep
      obtain rfl : _ = s' := congrArg Prod.fst heq
      exact h.backend hbackend fun _ _ _ h => nomatch h
  | content controller call =>
    obtain ⟨laser, points, hcall, hsource⟩ := (h.source controller).total call
    rw [AvbOutput.step, hcall] at hstep
    obtain rfl : _ = s' := congrArg Prod.fst (Option.some.inj hstep)
    exact h.update hsource rfl rfl
  | setHalfXYOutput controller enabled =>
    obtain rfl : _ = s' := congrArg Prod.fst (Option.some.inj hstep)
    exact h.update (h.source controller) rfl rfl
  | handleAudioCallback runtime banks frameCount channelCount time input =>
    obtain ⟨hperm, hstep⟩ := Option.ite_none_right_eq_some.mp hstep
    obtain ⟨s₁, out, hcallback, hvalid, -⟩ :=
      h.handleAudioCallback runtime frameCount channelCount time input
    rw [hcallback banks hperm] at hstep
    obtain rfl : s₁ = s' := congrArg Prod.fst (Option.some.inj hstep)
    exact hvalid

theorem valid_of_run {deviceUid : ByteString} {ls : List (AvbOutputStep τ F)}
    {s : AvbOutput τ F D} {o : List (List F)}
    (hrun : run AvbOutput.step (new deviceUid) ls = some (s, o)) : Valid s :=
  run_invariant (I := fun _ s => Valid s) (fun _ _ _ _ _ h _ hstep => h.step hstep)
    (valid_new deviceUid) (Along.of_forall (P := fun _ => True) (fun _ _ => trivial) [] _) hrun

/-- **The order of the banks is of no consequence.** After any run, with any number of frames and
channels, the audio callback fills the buffer with the same samples in whatever order it renders the
banks that are attached. A bank changes only the samples of its own eight channels, whatever the
buffer holds, and the channels that belong to no bank are zero. -/
theorem audio_output_independent_of_order {deviceUid : ByteString} {ls : List (AvbOutputStep τ F)}
    {s : AvbOutput τ F D} {o : List (List F)}
    (hrun : run AvbOutput.step (new deviceUid) ls = some (s, o)) (runtime : ℕ)
    (frameCount channelCount : UInt32) (time : TimePoint) (input : ℕ → BankInput) :
    (∃ s' out, (∀ banks : List (ℕ × ℕ), banks.Perm (s.liveBanks runtime) →
        s.handleAudioCallback runtime banks frameCount channelCount time input = some (s', out)) ∧
      out.length = frameCount.toNat * channelCount.toNat ∧
      ∀ frame < frameCount.toNat, ∀ channel < channelCount.toNat,
        (∀ bank ∈ s.liveBanks runtime, ¬(bank.1 ≤ channel ∧ channel < bank.1 + 8)) →
          out[frame * channelCount.toNat + channel]? = some 0.0) ∧
    ∀ bank ∈ s.liveBanks runtime, (s.controllers bank.2).channelOffset.toNat = bank.1 ∧
      ∀ output : List F, output.length = frameCount.toNat * channelCount.toNat →
        ∃ c' output', (s.controllers bank.2).renderInterleavedBlock output frameCount.toNat
            channelCount.toNat time (input bank.2) = some (c', output') ∧
          output'.length = output.length ∧
          ∀ frame < frameCount.toNat, ∀ channel < channelCount.toNat,
            ¬(bank.1 ≤ channel ∧ channel < bank.1 + 8) →
              output'[frame * channelCount.toNat + channel]? =
                output[frame * channelCount.toNat + channel]? := by
  have hvalid := valid_of_run hrun
  constructor
  · obtain ⟨s', out, hcallback, -, hlength, hsilent⟩ :=
      hvalid.handleAudioCallback runtime frameCount channelCount time input
    refine ⟨s', out, hcallback, hlength, fun frame hframe channel hchannel hbanks => ?_⟩
    obtain ⟨hlt, hmod⟩ := place_of_lt hframe hchannel
    refine hsilent _ hlt fun bank hbank howns => hbanks bank hbank ?_
    rwa [Owns, hmod] at howns
  · intro bank hbank
    have hat := (hvalid.distinctBanks runtime).isBankAt bank hbank
    refine ⟨hat.offset_eq, fun output hlength => ?_⟩
    obtain ⟨c', output', hrender, -, -, hlength', hother⟩ :=
      AvbController.renderInterleavedBlock_spec (hvalid.source bank.2) hat time (input bank.2)
        hlength
    refine ⟨c', output', hrender, hlength'.trans hlength.symm,
      fun frame hframe channel hchannel hnot => hother _ fun howns => hnot ?_⟩
    rwa [Owns, (place_of_lt hframe hchannel).2] at howns

/-- Two banks of a device with twenty channels are connected, and play points of their own. -/
def connectTwoBanks : List (AvbOutputStep ℕ ℚ) :=
  let device : AvbAudioDeviceInfo := { uid := [97], label := [65], outputChannels := 20 }
  let points (r : ℚ) : LaserPoint ℚ := { (default : LaserPoint ℚ) with r }
  let callback (id : ℕ) (r : ℚ) : RequestPointsCallback ℕ ℚ :=
    ⟨id, fun _ request => List.replicate request.minimumPointsRequired (points r)⟩
  [.connectController 0 [device] [{ deviceUid := [97] }] 0 48000] ++
    List.replicate 6 (.backend (.openRuntime 0 (some 48000))) ++
    [.backend (.attachController 0),
      .connectController 0 [device] [{ deviceUid := [97] }] 1 48000] ++
    List.replicate 2 (.backend (.openRuntime 0 none)) ++
    [.backend (.attachController 0), .content 0 (.setPointCallback (some (callback 0 1))),
      .content 1 (.setPointCallback (some (callback 1 (1 / 2))))]

theorem audio_output_independent_of_order_two_banks :
    ∃ s o, run AvbOutput.step (new [97] : AvbOutput ℕ ℚ ℚ) connectTwoBanks = some (s, o) ∧
      s.liveBanks 0 = [(8, 1), (0, 0)] ∧
      ∃ out, ∀ banks : List (ℕ × ℕ), banks.Perm (s.liveBanks 0) →
        (s.handleAudioCallback 0 banks 2 20 0 fun _ =>
          ⟨⟨0, 0, fun _ => 0, 0⟩, 0⟩).map Prod.snd = some out := by
  have hbanks : (run AvbOutput.step (new [97] : AvbOutput ℕ ℚ ℚ) connectTwoBanks).map
      (fun r => r.1.liveBanks 0) = some [(8, 1), (0, 0)] := by
    decide +kernel
  obtain ⟨⟨s, o⟩, hrun, hlive⟩ := Option.map_eq_some_iff.mp hbanks
  obtain ⟨⟨s', out, hcallback, -⟩, -⟩ := audio_output_independent_of_order hrun 0 2 20 0 fun _ =>
    ⟨⟨0, 0, fun _ => 0, 0⟩, 0⟩
  refine ⟨s, o, hrun, hlive, out, fun banks hperm => ?_⟩
  rw [hcallback banks hperm]
  rfl

end AvbOutput

end LiberaLaser
