import LiberaLaser.Plugin.Manager

/-!
# The life of a plugin backend

The callbacks that take the backend or a controller handle should come between the creation of the
backend and its destruction, and the backend should be destroyed after the handles opened on it. But
`closeAll` of one manager destroys the backend that all managers share, whatever their controllers
do (`destroyed_under_controller`). Where a `closeAll` destroys the backend only when no controller
is open, running or about to be opened, and no other call has just found the backend there, every
callback is in its place (`callbacks_within_lifetime`).
-/

namespace LiberaLaser.Plugin

open Lifetimes

namespace PluginSystem

variable {κ : Type}

/-- The controller is open, its worker runs, or a call is about to open or start it. -/
def InUse (s : PluginSystem κ) (controller : ℕ) : Prop :=
  (s.controllers controller).pluginHandle ≠ none ∨ (s.controllers controller).running = true ∨
    ∃ thread call, s.calls.lookup thread = some call ∧ call.connects = some controller

/-- No controller is open, running or about to be. -/
def AllClosed (s : PluginSystem κ) : Prop :=
  (∀ controller < s.controllerCount, (s.controllers controller).pluginHandle = none ∧
    (s.controllers controller).running = false) ∧
  s.calls.Forall fun _ call => call.connects = none

instance (s : PluginSystem κ) : Decidable s.AllClosed := inferInstanceAs (Decidable (_ ∧ _))

/-- `closeAll` destroys the backend when all controllers are closed, and a call that has found the
backend there goes on before it is destroyed. -/
def KeepsBackend (_ : List PluginCallback) (s : PluginSystem κ) : PluginStep κ → Prop
  | .afterCloseControllers thread =>
    ∀ call ∈ s.calls.lookup thread, call.closesAll = true → s.initialised = true → s.AllClosed
  | .createController _ => s.initialised = true
  | .rescan _ => s.initialised = true
  | _ => True

instance (before : List PluginCallback) (s : PluginSystem κ) :
    DecidablePred (KeepsBackend before s)
  | .afterCloseControllers thread =>
    inferInstanceAs (Decidable (∀ call ∈ s.calls.lookup thread, _))
  | .createController _ | .rescan _ => inferInstanceAs (Decidable (s.initialised = true))
  | .connectController _ _ _ _ | .openController _ _ | .startController _ _ | .erase _
  | .disconnectController _ _ _ | .closeAll _ _ _ | .stopThread _ | .closeController _
  | .discover _ _ | .reconnect _ _ _ | .callController _ _ _ | .endController _ =>
    inferInstanceAs (Decidable True)

/-- The invariant of runs that keep the backend. -/
structure LifetimeInvariant (tr : List (Event (Option ℕ) ℕ)) (s : PluginSystem κ) : Prop where
  allowed : Traces.Always Allowed tr
  live : s.initialised = true → ∃ b, s.backendHandle = some b ∧ Live tr (some b)
  inUse : ∀ c, s.InUse c →
    s.initialised = true ∧ (s.controllers c).backendHandle = s.backendHandle
  held : ∀ c h, (s.controllers c).pluginHandle = some h →
    .acquire (s.controllers c).backendHandle h ∈ tr
  accounted : ∀ r h, .acquire r h ∈ tr →
    .release h ∈ tr ∨ ∃ c, (s.controllers c).pluginHandle = some h
  future : ∀ b, s.backendCount ≤ b →
    .create (some b) ∉ tr ∧ .destroy (some b) ∉ tr ∧ ∀ h, .acquire (some b) h ∉ tr
  unmade : ∀ c, s.controllerCount ≤ c →
    (s.controllers c).pluginHandle = none ∧ (s.controllers c).running = false
  connecting : s.calls.Forall fun _ call => ∀ c ∈ call.connects, c < s.controllerCount
  opening : s.calls.Forall fun _ call => ∀ c ∈ call.opens,
    (s.controllers c).pluginHandle = none ∧ (s.controllers c).running = false
  unique : ∀ t t' call call' c, s.calls.lookup t = some call → s.calls.lookup t' = some call' →
    call.connects = some c → call'.connects = some c → t = t'

variable {s s' : PluginSystem κ} {tr o : List (Event (Option ℕ) ℕ)}

theorem inUse_of_connects {thread : ℕ} {call : PluginCall κ} {c : ℕ}
    (hcall : s.calls.lookup thread = some call) (hc : call.connects = some c) : s.InUse c :=
  Or.inr (Or.inr ⟨thread, call, hcall, hc⟩)

namespace LifetimeInvariant

/-- A call goes on with a controller it connects, or with none. -/
theorem setCall (h : LifetimeInvariant tr s) {thread : ℕ} {call : PluginCall κ}
    (hopens : call.opens = none)
    (hconnects : ∀ c ∈ call.connects, ∃ old, s.calls.lookup thread = some old ∧
      old.connects = some c) : LifetimeInvariant tr (s.setCall thread call) := by
  have hlookup : ∀ t call' c, (s.setCall thread call).calls.lookup t = some call' →
      call'.connects = some c → ∃ old, s.calls.lookup t = some old ∧ old.connects = some c := by
    intro t call' c ht hc
    rcases Table.lookup_insert_eq_some.mp ht with ⟨rfl, rfl⟩ | ⟨-, ht⟩
    · exact hconnects c hc
    · exact ⟨call', ht, hc⟩
  refine { h with
    inUse := fun c hc => h.inUse c ?_
    connecting := fun t call' ht c hc => ?_
    opening := h.opening.insert (by simp [hopens])
    unique := fun t t' call₁ call₂ c ht ht' hc hc' => ?_ }
  · rcases hc with hopen | hrunning | ⟨t, call', ht, hc⟩
    · exact Or.inl hopen
    · exact Or.inr (Or.inl hrunning)
    · obtain ⟨old, ht, hc⟩ := hlookup t call' c ht hc
      exact inUse_of_connects ht hc
  · obtain ⟨old, ht, hc⟩ := hlookup t call' c ht hc
    exact h.connecting t old ht c hc
  · obtain ⟨old₁, ht, hc⟩ := hlookup t call₁ c ht hc
    obtain ⟨old₂, ht', hc'⟩ := hlookup t' call₂ c ht' hc'
    exact h.unique t t' old₁ old₂ c ht ht' hc hc'

theorem endCall (h : LifetimeInvariant tr s) (thread : ℕ) :
    LifetimeInvariant tr (s.endCall thread) := by
  have hlookup : ∀ {t call}, (s.endCall thread).calls.lookup t = some call →
      s.calls.lookup t = some call := fun ht => (Table.lookup_erase_eq_some.mp ht).2
  refine { h with
    inUse := fun c hc => h.inUse c ?_
    connecting := h.connecting.erase thread
    opening := h.opening.erase thread
    unique := fun t t' call₁ call₂ c ht ht' =>
      h.unique t t' call₁ call₂ c (hlookup ht) (hlookup ht') }
  rcases hc with hopen | hrunning | ⟨t, call, ht, hc⟩
  · exact Or.inl hopen
  · exact Or.inr (Or.inl hrunning)
  · exact inUse_of_connects (hlookup ht) hc

/-- A backend that is still to be made is new after callbacks that do not acquire from it. -/
theorem future_append (h : LifetimeInvariant tr s) {owner : Option ℕ} {start finish : Option ℕ}
    (hhandles : Handles owner start o finish) {b : ℕ} (hle : s.backendCount ≤ b)
    (hacquire : ∀ handle, .acquire (some b) handle ∉ o) :
    .create (some b) ∉ tr ++ o ∧ .destroy (some b) ∉ tr ++ o ∧
      ∀ handle, .acquire (some b) handle ∉ tr ++ o := by
  obtain ⟨hcreate, hdestroy, hearlier⟩ := h.future b hle
  refine ⟨fun hmem => ?_, fun hmem => ?_, fun handle hmem => ?_⟩
  · exact (List.mem_append.mp hmem).elim hcreate hhandles.create_notMem
  · exact (List.mem_append.mp hmem).elim hdestroy hhandles.destroy_notMem
  · exact (List.mem_append.mp hmem).elim (hearlier handle) (hacquire handle)

/-- A controller goes from one handle to the next while it is in use. -/
theorem setController (h : LifetimeInvariant tr s) {c : ℕ} {state : PluginController}
    (hhandles : Handles (s.controllers c).backendHandle (s.controllers c).pluginHandle o
      state.pluginHandle)
    (hbackend : state.backendHandle = (s.controllers c).backendHandle)
    (hinUse : o ≠ [] ∨ state.running = true → s.InUse c)
    (hfree : state.pluginHandle = none ∧ state.running = false ∨
      c < s.controllerCount ∧ s.calls.Forall fun _ call => call.opens ≠ some c) :
    LifetimeInvariant (tr ++ o) (s.setController c state) := by
  have hself : (s.setController c state).controllers c = state := Function.update_self ..
  have hother : ∀ {c'}, c' ≠ c → (s.setController c state).controllers c' = s.controllers c' :=
    fun hne => Function.update_of_ne hne ..
  -- without callbacks the handle stays
  have hsame : o = [] → state.pluginHandle = (s.controllers c).pluginHandle := by
    rintro rfl
    exact hhandles.eq_of_nil
  have hlive : o ≠ [] → Live tr (s.controllers c).backendHandle := by
    intro ho
    obtain ⟨hinit, heq⟩ := h.inUse c (hinUse (Or.inl ho))
    obtain ⟨b, hb, hlive⟩ := h.live hinit
    rwa [heq, hb]
  refine ⟨?_, fun hinit => ?_, fun c' hc => ?_, fun c' handle hc => ?_, fun r handle hmem => ?_,
    fun b hb => ?_, fun c' hc => ?_, h.connecting, fun t call ht c' hc => ?_, h.unique⟩
  · by_cases ho : o = []
    · rw [ho, List.append_nil]
      exact h.allowed
    · exact hhandles.allowed h.allowed (hlive ho) (h.held c)
  · obtain ⟨b, hb, hlive⟩ := h.live hinit
    exact ⟨b, hb, hlive.append hhandles.destroy_notMem⟩
  · have hold : s.InUse c' := by
      by_cases heq : c' = c
      · subst heq
        rcases hc with hopen | hrunning | hcall
        · rw [hself] at hopen
          by_cases ho : o = []
          · rw [hsame ho] at hopen
            exact Or.inl hopen
          · exact hinUse (Or.inl ho)
        · rw [hself] at hrunning
          exact hinUse (Or.inr hrunning)
        · exact Or.inr (Or.inr hcall)
      · rwa [InUse, hother heq] at hc
    obtain ⟨hinit, hb⟩ := h.inUse c' hold
    refine ⟨hinit, ?_⟩
    by_cases heq : c' = c
    · subst heq
      rw [hself, hbackend]
      exact hb
    · rw [hother heq]
      exact hb
  · by_cases heq : c' = c
    · subst heq
      rw [hself] at hc ⊢
      rw [hbackend]
      rcases hhandles.end_acquired hc with hstart | hmem
      · exact List.mem_append_left o (h.held c' handle hstart)
      · exact List.mem_append_right tr hmem
    · rw [hother heq] at hc ⊢
      exact List.mem_append_left o (h.held c' handle hc)
  · have hnow : .release handle ∈ o ∨ state.pluginHandle = some handle →
        .release handle ∈ tr ++ o ∨
          ∃ c', ((s.setController c state).controllers c').pluginHandle = some handle := by
      rintro (hreleased | hheld)
      · exact Or.inl (List.mem_append_right tr hreleased)
      · exact Or.inr ⟨c, by rw [hself, hheld]⟩
    rcases List.mem_append.mp hmem with hmem | hmem
    · rcases h.accounted r handle hmem with hreleased | ⟨c', hc⟩
      · exact Or.inl (List.mem_append_left o hreleased)
      · by_cases heq : c' = c
        · subst heq
          rw [hc] at hhandles
          exact hnow hhandles.start_accounted
        · exact Or.inr ⟨c', by rw [hother heq, hc]⟩
    · exact hnow (hhandles.acquired_accounted hmem)
  · refine h.future_append hhandles hb fun handle hmem => ?_
    -- the backend of the controller lives, and was made before
    have hlive := hlive (List.ne_nil_of_mem hmem)
    rw [← hhandles.eq_of_acquire hmem] at hlive
    exact (h.future b hb).1 hlive.1
  · by_cases heq : c' = c
    · subst heq
      rw [hself]
      exact hfree.resolve_right fun hlt => absurd hlt.1 (Nat.not_lt.mpr hc)
    · rw [hother heq]
      exact h.unmade c' hc
  · by_cases heq : c' = c
    · subst heq
      rw [hself]
      exact hfree.resolve_right fun hfree => hfree.2 t call ht hc
    · rw [hother heq]
      exact h.opening t call ht c' hc

/-- A controller that is closed and not running stays so, and any other may change its handle. -/
theorem moveController (h : LifetimeInvariant tr s) {c : ℕ} {state : PluginController}
    (hhandles : Handles (s.controllers c).backendHandle (s.controllers c).pluginHandle o
      state.pluginHandle)
    (hbackend : state.backendHandle = (s.controllers c).backendHandle)
    (hidle : (s.controllers c).pluginHandle = none → (s.controllers c).running = false →
      state.pluginHandle = none ∧ state.running = false ∧ o = []) :
    LifetimeInvariant (tr ++ o) (s.setController c state) := by
  by_cases hin : (s.controllers c).pluginHandle = none ∧ (s.controllers c).running = false
  · obtain ⟨hclosed, hstopped, rfl⟩ := hidle hin.1 hin.2
    refine h.setController hhandles hbackend (fun hany => ?_) (Or.inl ⟨hclosed, hstopped⟩)
    rcases hany with hany | hrunning
    · exact absurd rfl hany
    · rw [hstopped] at hrunning
      cases hrunning
  · have hinUse : s.InUse c := by
      by_cases hclosed : (s.controllers c).pluginHandle = none
      · have hrunning := (Bool.eq_false_or_eq_true (s.controllers c).running).resolve_right
          fun hstopped => hin ⟨hclosed, hstopped⟩
        exact Or.inr (Or.inl hrunning)
      · exact Or.inl hclosed
    refine h.setController hhandles hbackend (fun _ => hinUse) (Or.inr ⟨?_, ?_⟩)
    · exact Nat.lt_of_not_le fun hle => hin (h.unmade c hle)
    · exact fun t call ht hc => hin (h.opening t call ht c hc)

/-- The live backend is used. -/
theorem uses (h : LifetimeInvariant tr s) (hinit : s.initialised = true)
    (ho : ∀ e ∈ o, e = .use s.backendHandle) : LifetimeInvariant (tr ++ o) s := by
  obtain ⟨b, hb, hlive⟩ := h.live hinit
  have hhandles : Handles s.backendHandle none o (none : Option ℕ) := Handles.uses _ _ ho
  rw [← hb] at hlive
  refine { h with
    allowed := hhandles.allowed h.allowed hlive nofun
    live := fun _ => ⟨b, hb, hb ▸ hlive.append hhandles.destroy_notMem⟩
    held := fun c handle hc => List.mem_append_left o (h.held c handle hc)
    accounted := fun r handle hmem => ?_
    future := fun b hle => ?_ }
  · rcases List.mem_append.mp hmem with hmem | hmem
    · exact (h.accounted r handle hmem).imp_left (List.mem_append_left o)
    · cases ho _ hmem
  · exact h.future_append hhandles hle fun handle hmem => by cases ho _ hmem

/-- While there is no backend nothing is in use. -/
theorem not_inUse (h : LifetimeInvariant tr s) (hinit : s.initialised = false) (c : ℕ) :
    ¬ s.InUse c := by
  intro hc
  have htrue := (h.inUse c hc).1
  rw [hinit] at htrue
  cases htrue

/-- A backend is made, and its settings are set. -/
theorem made (h : LifetimeInvariant tr s) (hinit : s.initialised = false) (n : ℕ) :
    LifetimeInvariant (tr ++ (.create (some s.backendCount) ::
        List.replicate n (.use (some s.backendCount)))) { s with
      backendHandle := some s.backendCount
      backendCount := s.backendCount + 1
      initialised := true } := by
  obtain ⟨-, hdestroy, -⟩ := h.future s.backendCount le_rfl
  have hcreated : LifetimeInvariant (tr ++ [.create (some s.backendCount)]) { s with
      backendHandle := some s.backendCount
      backendCount := s.backendCount + 1
      initialised := true } := by
    refine { h with
      allowed := h.allowed.concat trivial
      live := fun _ => ⟨s.backendCount, rfl, live_create hdestroy⟩
      inUse := fun c hc => absurd hc (h.not_inUse hinit c)
      held := fun c handle hc => List.mem_append_left _ (h.held c handle hc)
      accounted := fun r handle hmem => ?_
      future := fun b hle => ?_ }
    · rcases List.mem_append.mp hmem with hmem | hmem
      · exact (h.accounted r handle hmem).imp_left (List.mem_append_left _)
      · cases List.mem_singleton.mp hmem
    · obtain ⟨hcreate, hdestroy, hacquire⟩ := h.future b (Nat.le_of_succ_le hle)
      have hne : b ≠ s.backendCount := Nat.ne_of_gt hle
      simp [hcreate, hdestroy, hacquire, hne]
  rw [List.append_cons]
  exact hcreated.uses rfl fun e he => List.eq_of_mem_replicate he

/-- The backend is destroyed when no controller is in use. -/
theorem destroyed (h : LifetimeInvariant tr s) (hinit : s.initialised = true)
    (hnone : ∀ c, ¬ s.InUse c) :
    LifetimeInvariant (tr ++ [.destroy s.backendHandle]) { s with
      backendHandle := none
      initialised := false } := by
  obtain ⟨b, hb, hlive⟩ := h.live hinit
  have hreleased : ∀ r handle, .acquire r handle ∈ tr → .release handle ∈ tr := by
    intro r handle hmem
    refine (h.accounted r handle hmem).resolve_right ?_
    rintro ⟨c, hc⟩
    exact hnone c (Or.inl (by rw [hc]; nofun))
  have hallowed : Allowed tr (.destroy s.backendHandle) := by
    rw [hb]
    exact ⟨hlive, fun handle hmem => hreleased (some b) handle hmem⟩
  refine { h with
    allowed := h.allowed.concat hallowed
    live := nofun
    inUse := fun c hc => absurd hc (hnone c)
    held := fun c handle hc => List.mem_append_left _ (h.held c handle hc)
    accounted := fun r handle hmem => ?_
    future := fun b' hle => ?_ }
  · rcases List.mem_append.mp hmem with hmem | hmem
    · exact Or.inl (List.mem_append_left _ (hreleased r handle hmem))
    · cases List.mem_singleton.mp hmem
  · obtain ⟨hcreate, hdestroy, hacquire⟩ := h.future b' hle
    have hne : b' ≠ b := by
      rintro rfl
      exact hcreate hlive.1
    simp [hcreate, hdestroy, hacquire, hb, hne]

theorem ensureBackend (h : LifetimeInvariant tr s) (backend : BackendAnswers) :
    LifetimeInvariant (tr ++ (s.ensureBackend backend).2.2.map PluginCallback.event)
        (s.ensureBackend backend).1 ∧
      (s.ensureBackend backend).1.calls = s.calls := by
  have hcase := s.ensureBackend_cases backend
  generalize s.ensureBackend backend = result at hcase ⊢
  obtain ⟨s₁, found, callbacks⟩ := result
  cases hcase with
  | there hinit => exact ⟨by simpa using h, rfl⟩
  | made hinit n =>
    rw [List.map_cons, List.map_replicate]
    exact ⟨h.made hinit n, rfl⟩
  | refused hinit n =>
    have hdestroyed := (h.made hinit n).destroyed rfl (h.not_inUse hinit)
    rw [List.append_assoc] at hdestroyed
    exact ⟨by simpa [PluginCallback.event, hinit] using hdestroyed, rfl⟩
  | failed hinit =>
    rw [List.map_nil, List.append_nil]
    refine ⟨{ h with live := fun htrue => ?_, inUse := fun c hc => ?_ }, rfl⟩
    · rw [hinit] at htrue
      cases htrue
    · exact absurd hc (h.not_inUse hinit c)

/-- A controller is made with the live backend. -/
theorem created (h : LifetimeInvariant tr s) (hinit : s.initialised = true) {thread manager : ℕ}
    {key : κ} :
    LifetimeInvariant tr { (s.setController s.controllerCount
        { backendHandle := s.backendHandle }).setCall thread
          (.opening manager key s.controllerCount) with
      controllerCount := s.controllerCount + 1 } := by
  unfold PluginSystem.setController PluginSystem.setCall
  obtain ⟨controllers, hself, hother, hupdate⟩ : ∃ controllers : ℕ → PluginController,
      controllers s.controllerCount = { backendHandle := s.backendHandle } ∧
      (∀ c, c ≠ s.controllerCount → controllers c = s.controllers c) ∧
      Function.update s.controllers s.controllerCount { backendHandle := s.backendHandle } =
        controllers :=
    ⟨_, Function.update_self .., fun _ hne => Function.update_of_ne hne .., rfl⟩
  rw [hupdate]
  -- the other calls connect older controllers
  have hlookup : ∀ t call c, (s.calls.insert thread
      (.opening manager key s.controllerCount)).lookup t = some call → call.connects = some c →
        t = thread ∧ c = s.controllerCount ∨
          c < s.controllerCount ∧ s.calls.lookup t = some call := by
    intro t call c ht hc
    rcases Table.lookup_insert_eq_some.mp ht with ⟨rfl, rfl⟩ | ⟨-, ht⟩
    · exact Or.inl ⟨rfl, (Option.some.inj hc).symm⟩
    · exact Or.inr ⟨h.connecting t call ht c hc, ht⟩
  obtain ⟨hclosed, hstopped⟩ := h.unmade s.controllerCount le_rfl
  refine { h with
    inUse := fun c hc => ?_
    held := fun c handle hc => ?_
    accounted := fun r handle hmem => ?_
    unmade := fun c hle => ?_
    connecting := fun t call ht c hc => ?_
    opening := fun t call ht c hc => ?_
    unique := fun t t' call₁ call₂ c ht ht' hc hc' => ?_ }
  · by_cases heq : c = s.controllerCount
    · subst heq
      exact ⟨hinit, congrArg PluginController.backendHandle hself⟩
    · have hold : s.InUse c := by
        rcases hc with hopen | hrunning | ⟨t, call, ht, hc⟩
        · exact Or.inl (by rwa [← hother c heq])
        · exact Or.inr (Or.inl (by rwa [← hother c heq]))
        · obtain ⟨-, ht⟩ := (hlookup t call c ht hc).resolve_left fun hnew => heq hnew.2
          exact inUse_of_connects ht hc
      obtain ⟨-, hb⟩ := h.inUse c hold
      exact ⟨hinit, by rwa [← hother c heq] at hb⟩
  · change (controllers c).pluginHandle = some handle at hc
    change .acquire (controllers c).backendHandle handle ∈ tr
    by_cases heq : c = s.controllerCount
    · rw [heq, hself] at hc
      cases hc
    · rw [hother c heq] at hc ⊢
      exact h.held c handle hc
  · refine (h.accounted r handle hmem).imp_right ?_
    rintro ⟨c, hc⟩
    have hne : c ≠ s.controllerCount := by
      rintro rfl
      rw [hclosed] at hc
      cases hc
    exact ⟨c, (congrArg PluginController.pluginHandle (hother c hne)).trans hc⟩
  · have hne : c ≠ s.controllerCount := Nat.ne_of_gt hle
    change (controllers c).pluginHandle = none ∧ (controllers c).running = false
    rw [hother c hne]
    exact h.unmade c (Nat.le_of_succ_le hle)
  · rcases hlookup t call c ht hc with ⟨-, rfl⟩ | ⟨hlt, -⟩
    · exact Nat.lt_succ_self _
    · exact Nat.lt_succ_of_lt hlt
  · change (controllers c).pluginHandle = none ∧ (controllers c).running = false
    by_cases heq : c = s.controllerCount
    · rw [heq, hself]
      exact ⟨rfl, rfl⟩
    · rw [hother c heq]
      rcases Table.lookup_insert_eq_some.mp ht with ⟨-, rfl⟩ | ⟨-, ht⟩
      · exact absurd (Option.some.inj hc).symm heq
      · exact h.opening t call ht c hc
  · rcases hlookup t call₁ c ht hc with ⟨rfl, rfl⟩ | ⟨hlt, ht⟩
    · rcases hlookup t' call₂ _ ht' hc' with ⟨rfl, -⟩ | ⟨hlt', -⟩
      · rfl
      · exact absurd hlt' (Nat.lt_irrefl _)
    · rcases hlookup t' call₂ c ht' hc' with ⟨-, rfl⟩ | ⟨-, ht'⟩
      · exact absurd hlt (Nat.lt_irrefl _)
      · exact h.unique t t' call₁ call₂ c ht ht' hc hc'

theorem setCache (h : LifetimeInvariant tr s) (manager : ℕ) (cache : ControllerCache κ) :
    LifetimeInvariant tr (s.setCache manager cache) :=
  { h with }

/-- Only the call that is about to open a controller opens it. -/
theorem not_opens (h : LifetimeInvariant tr s) {thread : ℕ} {call : PluginCall κ} {c : ℕ}
    (hcall : s.calls.lookup thread = some call) (hc : call.connects = some c) {t : ℕ}
    {other : PluginCall κ} (ht : s.calls.lookup t = some other) (hne : t ≠ thread) :
    other.opens ≠ some c := by
  intro hopens
  exact hne (h.unique t thread other call c ht hcall (PluginCall.connects_of_opens hopens) hc)

theorem moveClose (h : LifetimeInvariant tr s) (c : ℕ) :
    LifetimeInvariant (tr ++ (s.controllers c).close.2.map PluginCallback.event)
      (s.setController c (s.controllers c).close.1) := by
  refine h.moveController (s.controllers c).handles_close rfl fun hclosed hstopped => ?_
  rw [PluginController.close_of_none hclosed]
  exact ⟨rfl, hstopped, rfl⟩

theorem begin_connect [DecidableEq κ] (h : LifetimeInvariant tr s) (thread manager : ℕ) (key : κ)
    (backend : BackendAnswers) :
    LifetimeInvariant
      (tr ++ (s.beginConnect thread manager key backend).2.map PluginCallback.event)
      (s.beginConnect thread manager key backend).1 := by
  rw [beginConnect]
  split
  · simpa using h
  · obtain ⟨hensured, -⟩ := (h.setCache manager
      ((s.liveControllerCaches manager).erase key)).ensureBackend backend
    dsimp only
    split
    · exact hensured.setCall rfl nofun
    · exact hensured

theorem begin_discover (h : LifetimeInvariant tr s) (thread : ℕ) (backend : BackendAnswers) :
    LifetimeInvariant (tr ++ (s.beginDiscover thread backend).2.map PluginCallback.event)
      (s.beginDiscover thread backend).1 := by
  obtain ⟨hensured, -⟩ := h.ensureBackend backend
  rw [beginDiscover]
  dsimp only
  split
  · exact hensured.setCall rfl nofun
  · exact hensured

theorem begin_disconnect [DecidableEq κ] (h : LifetimeInvariant tr s) (thread manager : ℕ)
    (key : κ) : LifetimeInvariant tr (s.beginDisconnect thread manager key) := by
  rw [beginDisconnect]
  dsimp only
  split
  · exact h.setCache manager _
  · exact (h.setCache manager _).setCall rfl nofun

/-- A call opens its controller, and goes on to restore the settings. -/
theorem opened {api : PluginApi} (h : LifetimeInvariant tr s) {thread manager controller : ℕ}
    {key : κ} (hcall : s.calls.lookup thread = some (.opening manager key controller))
    (handle : ℕ) :
    LifetimeInvariant
      (tr ++ ((s.controllers controller).openController api (some handle)).2.2.map
        PluginCallback.event)
      ((s.setController controller
        ((s.controllers controller).openController api (some handle)).1).setCall thread
          (.restoring manager key controller)) := by
  obtain ⟨hclosed, hstopped⟩ := h.opening thread _ hcall controller rfl
  have hset : LifetimeInvariant tr (s.setCall thread (.restoring manager key controller)) := by
    refine h.setCall rfl ?_
    rintro c ⟨rfl⟩
    exact ⟨_, hcall, rfl⟩
  refine hset.setController (PluginController.handles_openController hclosed (some handle)) rfl
    (fun _ => inUse_of_connects (AList.lookup_insert _) rfl) (Or.inr ⟨?_, fun t call ht => ?_⟩)
  · exact h.connecting thread _ hcall controller rfl
  · rcases Table.lookup_insert_eq_some.mp ht with ⟨-, rfl⟩ | ⟨hne, ht⟩
    · nofun
    · exact h.not_opens hcall rfl ht hne

/-- A call starts its controller. -/
theorem started (h : LifetimeInvariant tr s) {thread manager controller : ℕ} {key : κ}
    (hcall : s.calls.lookup thread = some (.restoring manager key controller)) :
    LifetimeInvariant tr ((s.setController controller
      { s.controllers controller with running := true }).endCall thread) := by
  have hset : LifetimeInvariant (tr ++ []) (s.setController controller
      { s.controllers controller with running := true }) := by
    refine h.setController (.nil _) rfl (fun _ => inUse_of_connects hcall rfl)
      (Or.inr ⟨h.connecting thread _ hcall controller rfl, fun t call ht => ?_⟩)
    by_cases hne : t = thread
    · subst hne
      rw [hcall] at ht
      cases ht
      nofun
    · exact h.not_opens hcall rfl ht hne
  rw [List.append_nil] at hset
  exact hset.endCall thread

theorem ended {api : PluginApi} (h : LifetimeInvariant tr s) (c : ℕ) :
    LifetimeInvariant
      (tr ++ (((s.controllers c).stopThread api).2 ++
        ((s.controllers c).stopThread api).1.close.2).map PluginCallback.event)
      (s.setController c ((s.controllers c).stopThread api).1.close.1) := by
  rw [List.map_append]
  refine h.moveController ((s.controllers c).handles_stopThread.append
    ((s.controllers c).stopThread api).1.handles_close) rfl fun hclosed _ => ?_
  have hlast : ((s.controllers c).stopThread api).1.close.2 = [] :=
    PluginController.close_of_none hclosed
  rw [PluginController.stopThread_of_none hclosed, hlast]
  exact ⟨rfl, rfl, rfl⟩

theorem not_inUse_of_allClosed (h : LifetimeInvariant tr s) (hclosed : s.AllClosed) (c : ℕ) :
    ¬ s.InUse c := by
  have hidle : (s.controllers c).pluginHandle = none ∧ (s.controllers c).running = false :=
    (Nat.lt_or_ge c s.controllerCount).elim (hclosed.1 c) (h.unmade c)
  rintro (hopen | hrunning | ⟨t, call, ht, hc⟩)
  · exact hopen hidle.1
  · rw [hidle.2] at hrunning
    cases hrunning
  · rw [hclosed.2 t call ht] at hc
    cases hc

theorem step [DecidableEq κ] {api : PluginApi} {before callbacks : List PluginCallback}
    {l : PluginStep κ} (h : LifetimeInvariant (before.map PluginCallback.event) s)
    (hguard : KeepsBackend before s l)
    (hstep : PluginSystem.step api s l = some (s', callbacks)) :
    LifetimeInvariant ((before ++ callbacks).map PluginCallback.event) s' := by
  rw [List.map_append]
  cases step_cases hstep with
  | connect thread manager key backend hcall => exact h.begin_connect thread manager key backend
  | disconnect thread manager key hcall =>
    rw [List.map_nil, List.append_nil]
    exact h.begin_disconnect thread manager key
  | closeAll thread manager order hcall cache =>
    rw [List.map_nil, List.append_nil]
    exact (h.setCache manager cache).setCall rfl nofun
  | discover thread backend hcall => exact h.begin_discover thread backend
  | created thread manager key hcall cache =>
    rw [List.map_nil, List.append_nil]
    exact (h.setCache manager cache).created hguard
  | opened thread manager key controller hcall handle handleCount =>
    have hanswered : LifetimeInvariant (before.map PluginCallback.event)
        { s with handleCount := handleCount } := { h with }
    exact hanswered.opened hcall handle
  | notOpened thread manager key controller hcall =>
    obtain ⟨hclosed, hstopped⟩ := h.opening thread _ hcall controller rfl
    exact (h.setController (PluginController.handles_openController hclosed none) rfl
      (fun _ => inUse_of_connects hcall rfl) (Or.inl ⟨rfl, hstopped⟩)).setCall rfl nofun
  | started thread manager key controller hcall =>
    rw [List.map_nil, List.append_nil]
    exact h.started hcall
  | notRestored thread manager key controller hcall =>
    exact (h.moveClose controller).setCall rfl nofun
  | erased thread manager key controller hcall cache =>
    rw [List.map_nil, List.append_nil]
    exact (h.setCache manager cache).endCall thread
  | stopped thread controller rest stopped all hcall =>
    refine (h.moveController (s.controllers controller).handles_stopThread rfl
      fun hclosed _ => ?_).setCall rfl nofun
    rw [PluginController.stopThread_of_none hclosed]
    exact ⟨hclosed, rfl, rfl⟩
  | closed thread controller rest all hcall =>
    exact (h.moveClose controller).setCall rfl nofun
  | destroyed thread stopped hcall hinit =>
    have hclosed : s.AllClosed := hguard _ hcall rfl hinit
    exact (h.endCall thread).destroyed hinit
      ((h.endCall thread).not_inUse_of_allClosed ⟨hclosed.1, hclosed.2.erase thread⟩)
  | returned thread stopped all hcall =>
    rw [List.map_nil, List.append_nil]
    exact h.endCall thread
  | discovered thread hcall =>
    refine (h.uses hguard fun e he => ?_).endCall thread
    obtain ⟨callback, hmem, rfl⟩ := List.mem_map.mp he
    rcases List.mem_append.mp hmem with hmem | hmem
    · split at hmem
      · rw [List.mem_singleton.mp hmem]
        rfl
      · cases hmem
    · rw [List.mem_singleton.mp hmem]
      rfl
  | reconnected controller handle answers hrunning new handleCount =>
    have hanswered : LifetimeInvariant (before.map PluginCallback.event)
        { s with handleCount := handleCount } := { h with }
    refine hanswered.moveController ((s.controllers controller).handles_reconnect new answers)
      (PluginController.reconnect_backendHandle ..) fun _ hstopped => ?_
    cases hrunning.symm.trans hstopped
  | called controller callback disconnected =>
    refine h.moveController (PluginController.handles_call _ callback disconnected)
      (PluginController.call_backendHandle ..) fun hclosed hstopped => ?_
    rw [PluginController.call_of_none hclosed]
    exact ⟨hclosed, hstopped, rfl⟩
  | ended controller => exact { h.ended controller with }

theorem init : LifetimeInvariant [] ({} : PluginSystem κ) where
  allowed := Traces.always_nil
  live := nofun
  inUse := by
    rintro c (hopen | hrunning | ⟨t, call, ht, -⟩)
    · exact absurd rfl hopen
    · cases hrunning
    · cases ht
  held := nofun
  accounted := nofun
  future := fun _ _ => ⟨List.not_mem_nil, List.not_mem_nil, fun _ => List.not_mem_nil⟩
  unmade := fun _ _ => ⟨rfl, rfl⟩
  connecting := Table.forall_empty
  opening := Table.forall_empty
  unique := nofun

end LifetimeInvariant

variable [DecidableEq κ] {api : PluginApi}

/-- **Every callback is made within the life of its backend**: in every run in which `closeAll`
destroys the backend only when all controllers are closed, and no call that has found the backend
there is overtaken by that, each callback that takes the backend or a controller handle comes
between the creation of the backend and its destruction, and the backend is destroyed after every
handle that was opened on it. -/
theorem callbacks_within_lifetime {ls : List (PluginStep κ)} {callbacks : List PluginCallback}
    (hkeeps : Runs.Along (step api) KeepsBackend [] {} ls)
    (hrun : Runs.run (step api) {} ls = some (s, callbacks)) :
    Traces.Always Allowed (callbacks.map PluginCallback.event) := by
  have hpreserved : ∀ before (s : PluginSystem κ) l s' callbacks,
      LifetimeInvariant (before.map PluginCallback.event) s → KeepsBackend before s l →
        step api s l = some (s', callbacks) →
          LifetimeInvariant ((before ++ callbacks).map PluginCallback.event) s' :=
    fun _ _ _ _ _ h hguard hstep => h.step hguard hstep
  have hinit : LifetimeInvariant (List.map PluginCallback.event []) ({} : PluginSystem κ) :=
    LifetimeInvariant.init
  exact (Runs.run_invariant
    (I := fun before s => LifetimeInvariant (before.map PluginCallback.event) s)
    hpreserved hinit hkeeps hrun).allowed

/-- Two managers connect a controller each, and the second `closeAll` destroys the backend. -/
theorem callbacks_within_lifetime_of_two :
    ∃ s callbacks, Runs.run (step {}) ({} : PluginSystem ℕ) [.discover 0 {}, .rescan 0,
        .connectController 0 0 7 {}, .connectController 1 1 8 {}, .createController 0,
        .createController 1, .openController 0 true, .openController 1 true,
        .startController 0 true, .startController 1 true, .callController 0 .sendPoints true,
        .reconnect 0 true [.taken], .disconnectController 0 0 7, .stopThread 0, .closeController 0,
        .afterCloseControllers 0, .closeAll 1 1 [1], .stopThread 1, .closeController 1,
        .afterCloseControllers 1] = some (s, callbacks) ∧
      .destroyBackend (some 0) ∈ callbacks ∧
        Traces.Always Allowed (callbacks.map PluginCallback.event) := by
  have hrun : (Runs.run (step {}) ({} : PluginSystem ℕ) [.discover 0 {}, .rescan 0,
      .connectController 0 0 7 {}, .connectController 1 1 8 {}, .createController 0,
      .createController 1, .openController 0 true, .openController 1 true,
      .startController 0 true, .startController 1 true, .callController 0 .sendPoints true,
      .reconnect 0 true [.taken], .disconnectController 0 0 7, .stopThread 0, .closeController 0,
      .afterCloseControllers 0, .closeAll 1 1 [1], .stopThread 1, .closeController 1,
      .afterCloseControllers 1]).map (fun r => decide (.destroyBackend (some 0) ∈ r.2)) =
        some true := by decide +kernel
  obtain ⟨⟨s, callbacks⟩, hrun, hmem⟩ := Option.map_eq_some_iff.mp hrun
  exact ⟨s, callbacks, hrun, of_decide_eq_true hmem,
    callbacks_within_lifetime (by decide +kernel) hrun⟩

/-- A manager whose cache is empty closes all, and destroys the backend while a controller of the
other manager is open. -/
theorem destroyed_under_controller :
    ¬ ∀ (ls : List (PluginStep ℕ)) s callbacks, Runs.run (step {}) {} ls = some (s, callbacks) →
      Traces.Always Allowed (callbacks.map PluginCallback.event) := by
  intro h
  have hrun : (Runs.run (step {}) ({} : PluginSystem ℕ) [.connectController 0 0 7 {},
      .createController 0, .openController 0 true, .startController 0 true, .closeAll 1 1 [],
      .afterCloseControllers 1]).map Prod.snd =
        some [.createBackend 0, .connectController (some 0) (some 0),
          .controller .setPointRate 0, .controller .setArmed 0, .destroyBackend (some 0)] := by
    decide +kernel
  obtain ⟨⟨s, callbacks⟩, hrun, rfl⟩ := Option.map_eq_some_iff.mp hrun
  have hdestroy := h _ s _ hrun [.create (some 0), .acquire (some 0) 0, .useChild 0, .useChild 0]
    (.destroy (some 0)) [] rfl
  have hreleased := hdestroy.2 0 (by simp)
  simp at hreleased

end PluginSystem

end LiberaLaser.Plugin
