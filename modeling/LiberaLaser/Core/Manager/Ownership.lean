import LiberaLaser.Core.Manager.Model

/-!
# Who owns the entry of a key

A controller that a manager has handed out and not taken back should be in the cache under its key:
then a later call finds it, and `closeAll` stops it. A failed first connect erases by key, after its
own section, and may hit the entry of another call's controller (`erase_loses_another_controller`).
Where it hits no live entry but its own, the cache owns every controller (`cache_owns`).
-/

namespace LiberaLaser

namespace ControllerManager

variable {κ : Type}

/-- A controller that a call has returned or may still return. -/
def HandedOut (s : ControllerManager κ) (key : κ) (controller : ℕ) : Prop :=
  (key, controller) ∈ s.returned ∨
    ∃ thread call, s.calls.lookup thread = some call ∧ call.connecting = some (key, controller)

theorem handedOut_of_call {s : ControllerManager κ} {thread : ℕ} {call : ManagerCall κ} {key : κ}
    {controller : ℕ} (hcall : s.calls.lookup thread = some call)
    (h : call.connecting = some (key, controller)) : s.HandedOut key controller :=
  Or.inr ⟨thread, call, hcall, h⟩

/-- What is handed out once a call is set: what was, and what that call connects. -/
theorem handedOut_insert {s : ControllerManager κ} {thread : ℕ} {call : ManagerCall κ} {key : κ}
    {controller : ℕ}
    (h : HandedOut { s with calls := s.calls.insert thread call } key controller) :
    call.connecting = some (key, controller) ∨ s.HandedOut key controller := by
  rcases h with h | ⟨t, call', ht, hc⟩
  · exact Or.inr (Or.inl h)
  · rcases Table.lookup_insert_eq_some.mp ht with ⟨-, rfl⟩ | ⟨-, ht⟩
    · exact Or.inl hc
    · exact Or.inr (handedOut_of_call ht hc)

theorem handedOut_erase {s : ControllerManager κ} {thread : ℕ} {key : κ} {controller : ℕ}
    (h : HandedOut { s with calls := s.calls.erase thread } key controller) :
    s.HandedOut key controller := by
  rcases h with h | ⟨t, call, ht, hc⟩
  · exact Or.inl h
  · exact handedOut_of_call (Table.lookup_erase_eq_some.mp ht).2 hc

variable [DecidableEq κ]

/-- A controller that was returned, is still alive and was not disconnected or closed is in the
cache. -/
def Owned (s : ControllerManager κ) : Prop :=
  ∀ key controller, (key, controller) ∈ s.returned → s.alive controller = true →
    controller ∉ s.closed → s.liveControllerCache.lookup key = some controller

/-- No call has returned the controller, and no call of another thread is about to. -/
def NotShared (s : ControllerManager κ) (thread controller : ℕ) : Prop :=
  (∀ r ∈ s.returned, r.2 ≠ controller) ∧
    s.calls.Forall fun t call => t ≠ thread → call.connecting.map Prod.snd ≠ some controller

instance (s : ControllerManager κ) (thread controller : ℕ) :
    Decidable (s.NotShared thread controller) :=
  inferInstanceAs (Decidable (_ ∧ _))

/-- When a failed connect erases its key, the only live controller in the entry is its own, which no
other `connectController` has returned or is about to return. -/
def ErasesOwn (_ : List (ManagerEvent κ)) (s : ControllerManager κ) : ManagerStep κ → Prop
  | .erase thread =>
    ∀ call ∈ s.calls.lookup thread, ∀ e ∈ call.connecting,
      ∀ controller ∈ s.liveControllerCache.lookup e.1, s.alive controller = true →
        controller = e.2 ∧ s.NotShared thread controller
  | _ => True

instance (tr : List (ManagerEvent κ)) (s : ControllerManager κ) : DecidablePred (ErasesOwn tr s)
  | .erase thread => inferInstanceAs (Decidable (∀ call ∈ s.calls.lookup thread, _))
  | .connectController _ _ _ | .prepareNewController _ _ | .prepareExistingController _
  | .disconnectController _ _ | .disconnectControllerInstance _ | .closeAll _ | .closeNext _
  | .destroy _ => inferInstanceAs (Decidable True)

/-- The invariant of a run whose failed connects erase their own entries. -/
structure OwnershipInvariant (s : ControllerManager κ) : Prop where
  cached : ∀ key controller, s.HandedOut key controller → s.alive controller = true →
    controller ∉ s.closed → s.liveControllerCache.lookup key = some controller
  created : ∀ key controller, s.HandedOut key controller → controller < s.created
  entries : ∀ key controller, s.liveControllerCache.lookup key = some controller →
    controller < s.created
  held : s.calls.Forall fun _ call => ∀ controller ∈ call.held, s.alive controller = true

variable {s s' : ControllerManager κ} {l : ManagerStep κ} {tr o : List (ManagerEvent κ)}

/-- A cache that differs under one key only, where it held no live controller. -/
theorem OwnershipInvariant.cached_of_dead (h : OwnershipInvariant s) {key : κ}
    {cache : ControllerCache κ}
    (hdead : ∀ c, s.liveControllerCache.lookup key = some c → s.alive c = false)
    (hkept : ∀ k, k ≠ key → cache.lookup k = s.liveControllerCache.lookup k) {k : κ} {c : ℕ}
    (hc : s.HandedOut k c) (halive : s.alive c = true) (hopen : c ∉ s.closed) :
    cache.lookup k = some c := by
  have hentry := h.cached k c hc halive hopen
  by_cases hk : k = key
  · subst hk
    rw [hdead c hentry] at halive
    cases halive
  · rw [hkept k hk, hentry]

theorem ownershipInvariant_handOut (h : OwnershipInvariant s) {thread : ℕ} {key : κ}
    {controller : ℕ} {call : ManagerCall κ} (hcall : s.calls.lookup thread = some call)
    (hconnecting : call.connecting = some (key, controller)) :
    OwnershipInvariant (s.handOut thread key controller).1 := by
  have hhanded : ∀ k c, (s.handOut thread key controller).1.HandedOut k c → s.HandedOut k c := by
    rintro k c (hc | ⟨t, call', ht, hc⟩)
    · rcases List.mem_cons.mp hc with heq | hc
      · cases heq
        exact handedOut_of_call hcall hconnecting
      · exact Or.inl hc
    · exact handedOut_of_call (Table.lookup_erase_eq_some.mp ht).2 hc
  exact ⟨fun k c hc => h.cached k c (hhanded k c hc), fun k c hc => h.created k c (hhanded k c hc),
    h.entries, h.held.erase thread⟩

/-- A step that only sets a call, which connects what was handed out or is in the cache. -/
theorem ownershipInvariant_setCall (h : OwnershipInvariant s) {thread : ℕ} {call : ManagerCall κ}
    (hconnecting : ∀ k c, call.connecting = some (k, c) →
      s.HandedOut k c ∨ s.liveControllerCache.lookup k = some c)
    (hheld : ∀ c ∈ call.held, s.alive c = true) :
    OwnershipInvariant { s with calls := s.calls.insert thread call } := by
  have hhanded : ∀ k c, HandedOut { s with calls := s.calls.insert thread call } k c →
      s.HandedOut k c ∨ s.liveControllerCache.lookup k = some c := by
    intro k c hc
    rcases handedOut_insert hc with hc | hc
    · exact hconnecting k c hc
    · exact Or.inl hc
  refine ⟨fun k c hc halive hopen => ?_, fun k c hc => ?_, h.entries, h.held.insert hheld⟩
  · exact (hhanded k c hc).elim (fun hc => h.cached k c hc halive hopen) id
  · exact (hhanded k c hc).elim (h.created k c) (h.entries k c)

theorem ownershipInvariant_endCall (h : OwnershipInvariant s) (thread : ℕ) :
    OwnershipInvariant { s with calls := s.calls.erase thread } :=
  ⟨fun k c hc => h.cached k c (handedOut_erase hc),
    fun k c hc => h.created k c (handedOut_erase hc), h.entries, h.held.erase thread⟩

/-- Controllers that are taken out of the cache and closed. -/
theorem OwnershipInvariant.of_closed (h : OwnershipInvariant s) (cache : ControllerCache κ)
    (closed : List ℕ)
    (hentries : ∀ k c, cache.lookup k = some c → s.liveControllerCache.lookup k = some c)
    (htaken : ∀ k c, s.liveControllerCache.lookup k = some c → s.alive c = true →
      c ∉ closed ++ s.closed → cache.lookup k = some c) :
    OwnershipInvariant { s with liveControllerCache := cache, closed := closed ++ s.closed } where
  cached k c hc halive hopen := htaken k c
    (h.cached k c hc halive fun hmem => hopen (List.mem_append_right closed hmem)) halive hopen
  created k c hc := h.created k c hc
  entries k c hc := h.entries k c (hentries k c hc)
  held := h.held

/-- A new controller is in the cache under its key, and no other live one was. -/
theorem ownershipInvariant_created (h : OwnershipInvariant s) {thread : ℕ} {key : κ}
    {cache : ControllerCache κ}
    (hdead : ∀ c, s.liveControllerCache.lookup key = some c → s.alive c = false)
    (hentry : cache.lookup key = some s.created)
    (hkept : ∀ k, k ≠ key → cache.lookup k = s.liveControllerCache.lookup k) :
    OwnershipInvariant { s with
      liveControllerCache := cache
      alive := fun c => if c = s.created then true else s.alive c
      calls := s.calls.insert thread (.preparing key s.created)
      created := s.created + 1 } := by
  refine ⟨fun k c hc halive hopen => ?_, fun k c hc => ?_, fun k c hc => ?_, ?_⟩
  · rcases handedOut_insert hc with hc | hc
    · cases hc
      exact hentry
    · -- an older controller keeps its entry
      have hne : c ≠ s.created := Nat.ne_of_lt (h.created k c hc)
      have hold : s.alive c = true := (if_neg hne).symm.trans halive
      exact h.cached_of_dead hdead hkept hc hold hopen
  · rcases handedOut_insert hc with hc | hc
    · cases hc
      exact Nat.lt_succ_self _
    · exact Nat.lt_succ_of_lt (h.created k c hc)
  · by_cases hk : k = key
    · subst hk
      rw [hentry] at hc
      cases hc
      exact Nat.lt_succ_self _
    · rw [hkept k hk] at hc
      exact Nat.lt_succ_of_lt (h.entries k c hc)
  · refine Table.Forall.insert (h.held.mono fun t call _ hheld c hc => ?_) fun c hc => ?_
    · change (if c = s.created then true else s.alive c) = true
      rw [hheld c hc, ite_self]
    · exact if_pos (List.mem_singleton.mp hc)

/-- A failed connect erases its own entry, or a dead one. -/
theorem ownershipInvariant_erased (h : OwnershipInvariant s) {thread : ℕ} {key : κ}
    {own : ℕ} (hcall : s.calls.lookup thread = some (.dropping key own))
    (hguard : ErasesOwn tr s (.erase thread)) :
    OwnershipInvariant { s with
      liveControllerCache := s.liveControllerCache.erase key
      calls := s.calls.erase thread } := by
  refine ⟨fun k c hc halive hopen => ?_, fun k c hc => h.created k c (handedOut_erase hc),
    fun k c hc => h.entries k c (Table.lookup_erase_eq_some.mp hc).2, h.held.erase thread⟩
  have hentry := h.cached k c (handedOut_erase hc) halive hopen
  refine Table.lookup_erase_eq_some.mpr ⟨?_, hentry⟩
  rintro rfl
  obtain ⟨rfl, hreturned, hothers⟩ := hguard _ hcall _ rfl c hentry halive
  -- the controller is still handed out, but to nobody else
  rcases hc with hc | ⟨t, call, ht, hc⟩
  · exact hreturned _ hc rfl
  · obtain ⟨hne, ht⟩ := Table.lookup_erase_eq_some.mp ht
    exact hothers t call ht hne (by rw [hc, Option.map_some])

theorem ownershipInvariant_step (h : OwnershipInvariant s) (hguard : ErasesOwn tr s l)
    (hstep : step s l = some (s', o)) : OwnershipInvariant s' := by
  cases step_cases hstep with
  | connectFailed thread key factory hcall cache hentries hdead hkept =>
    exact ⟨fun k c hc => h.cached_of_dead hdead hkept hc, h.created,
      fun k c hc => h.entries k c (hentries k c hc), h.held⟩
  | connectReused thread key factory hcall controller hentry halive =>
    refine ownershipInvariant_setCall h ?_ fun c hc => ?_
    · rintro k c ⟨rfl⟩
      exact Or.inr hentry
    · rw [List.mem_singleton.mp hc]
      exact halive
  | connectCreated thread key factory hcall cache hdead hentry hkept =>
    exact ownershipInvariant_created h hdead hentry hkept
  | kept thread key controller hcall => exact ownershipInvariant_handOut h hcall rfl
  | dropped thread key controller hcall =>
    refine ownershipInvariant_setCall h ?_ fun c hc => h.held thread _ hcall c hc
    rintro k c ⟨rfl⟩
    exact Or.inl (handedOut_of_call hcall rfl)
  | erased thread key controller hcall => exact ownershipInvariant_erased h hcall hguard
  | reused thread key controller hcall => exact ownershipInvariant_handOut h hcall rfl
  | notFound thread key hcall cache hentries hdead hkept =>
    exact ⟨fun k c hc => h.cached_of_dead hdead hkept hc, h.created,
      fun k c hc => h.entries k c (hentries k c hc), h.held⟩
  | taken thread key hcall controller hentry halive =>
    have hclosed := h.of_closed (s.liveControllerCache.erase key) [controller]
      (fun k c hc => (Table.lookup_erase_eq_some.mp hc).2) fun k c hc _ hopen => ?_
    · exact ownershipInvariant_setCall hclosed nofun (by simpa [ManagerCall.held] using halive)
    · refine Table.lookup_erase_eq_some.mpr ⟨?_, hc⟩
      rintro rfl
      rw [hentry] at hc
      cases hc
      exact hopen List.mem_cons_self
  | disconnected thread key controller hcall => exact ownershipInvariant_endCall h thread
  | closeAll thread hcall =>
    have hclosed := h.of_closed ∅
      ((s.liveControllerCache.snapshotAndClear s.alive).2.map Prod.snd)
      (fun k c hc => by simp at hc) fun k c hc halive hopen => ?_
    · refine ownershipInvariant_setCall hclosed nofun fun c hc => ?_
      obtain ⟨e, he, rfl⟩ := List.mem_map.mp hc
      exact (ControllerCache.mem_snapshot.mp he).2
    · exact absurd (List.mem_append_left s.closed
        (List.mem_map_of_mem (ControllerCache.mem_snapshot.mpr ⟨hc, halive⟩))) hopen
  | closeNext thread key controller snapshot hcall =>
    exact ownershipInvariant_setCall h nofun fun c hc =>
      h.held thread _ hcall c (List.mem_cons_of_mem _ hc)
  | closedAll thread hcall => exact ownershipInvariant_endCall h thread
  | destroy controller hunheld =>
    refine ⟨fun k c hc halive hopen => ?_, h.created, h.entries, fun t call ht c hc => ?_⟩
    · have hold : s.alive c = true := by
        change (if c = controller then false else s.alive c) = true at halive
        split at halive
        · cases halive
        · exact halive
      exact h.cached k c hc hold hopen
    · have hne : c ≠ controller := by
        rintro rfl
        exact hunheld t call ht hc
      exact (if_neg hne).trans (h.held t call ht c hc)

/-! ## Later calls -/

/-- The next call that returns on the thread is a `connectController`, and returns the
controller. -/
def ReturnsNext (thread : ℕ) (key : κ) (controller : ℕ) (o : List (ManagerEvent κ)) : Prop :=
  ∀ e ∈ o.find? fun e => e.thread = some thread, e = .connected thread key (some controller)

/-- A call that has found a controller returns it, whatever the other threads do. -/
theorem returnsNext_of_reusing {thread : ℕ} {key : κ} {controller : ℕ} {ls : List (ManagerStep κ)}
    (hcall : s.calls.lookup thread = some (.reusing key controller))
    (hrun : Runs.run step s ls = some (s', o)) : ReturnsNext thread key controller o := by
  induction ls generalizing s o with
  | nil =>
    cases hrun
    exact nofun
  | cons l ls ih =>
    obtain ⟨s₁, o₁, o₂, hs, hr, rfl⟩ := Runs.run_cons_eq_some.mp hrun
    by_cases hl : l.thread = some thread
    · -- the thread can only return from its call
      have hfirst : o₁ = [.connected thread key (some controller)] := by
        cases step_cases hs <;> cases hl <;> simp_all [handOut]
      subst hfirst
      rw [ReturnsNext, List.singleton_append,
        List.find?_cons_of_pos (by simp [ManagerEvent.thread])]
      rintro e ⟨rfl⟩
      rfl
    · obtain ⟨hkept, hothers⟩ := step_of_ne hs hl
      have hnone : (o₁.find? fun e => e.thread = some thread) = none :=
        List.find?_eq_none.mpr fun e he => by simpa using hothers e he
      rw [ReturnsNext, List.find?_append, hnone, Option.none_or]
      exact ih (hkept.trans hcall) hr

/-- A `closeAll` that returns has stopped every controller of its snapshot. -/
theorem stopped_of_closing {thread : ℕ} {snapshot : List (κ × ℕ)} {controller : ℕ}
    {ls : List (ManagerStep κ)} (hcall : s.calls.lookup thread = some (.closing snapshot))
    (hmem : controller ∈ snapshot.map Prod.snd) (hrun : Runs.run step s ls = some (s', o))
    (hreturned : .closedAll thread ∈ o) : .stopped controller ∈ o := by
  induction ls generalizing s snapshot o with
  | nil =>
    cases hrun
    cases hreturned
  | cons l ls ih =>
    obtain ⟨s₁, o₁, o₂, hs, hr, rfl⟩ := Runs.run_cons_eq_some.mp hrun
    by_cases hl : l.thread = some thread
    · -- the thread can only stop the next controller of the snapshot
      obtain ⟨key, next, rest, rfl, hcall₁, rfl⟩ : ∃ key next rest,
          snapshot = (key, next) :: rest ∧
            s₁.calls.lookup thread = some (.closing rest) ∧ o₁ = [.stopped next] := by
        cases step_cases hs with
        | closeNext t key next rest hhead =>
          cases hl
          cases Option.some.inj (hcall.symm.trans hhead)
          exact ⟨key, next, rest, rfl, AList.lookup_insert _, rfl⟩
        | _ => cases hl <;> simp_all
      rcases List.mem_cons.mp hmem with rfl | hmem
      · exact List.mem_append_left o₂ List.mem_cons_self
      · refine List.mem_append_right _ (ih hcall₁ hmem hr ?_)
        simpa using hreturned
    · obtain ⟨hkept, hothers⟩ := step_of_ne hs hl
      refine List.mem_append_right o₁ (ih (hkept.trans hcall) hmem hr ?_)
      exact (List.mem_append.mp hreturned).resolve_left fun he => hothers _ he rfl

/-- **The cache owns the controllers**: in every run whose failed connects erase no live entry but
their own, a controller that was returned, is still alive and was not disconnected or closed is in
the cache under its key. It is the only such controller of its key, a later `connectController`
returns it, and `closeAll` stops it. -/
theorem cache_owns {ls : List (ManagerStep κ)} (howns : Runs.Along step ErasesOwn [] {} ls)
    (hrun : Runs.run step {} ls = some (s, o)) {key : κ} {controller : ℕ}
    (hreturned : (key, controller) ∈ s.returned) (halive : s.alive controller = true)
    (hopen : controller ∉ s.closed) :
    s.liveControllerCache.lookup key = some controller ∧
      (∀ other, (key, other) ∈ s.returned → s.alive other = true → other ∉ s.closed →
        other = controller) ∧
      (∀ thread factory ls' s' o',
        Runs.run step s (.connectController thread key factory :: ls') = some (s', o') →
          ReturnsNext thread key controller o') ∧
      ∀ thread ls' s' o', Runs.run step s (.closeAll thread :: ls') = some (s', o') →
        .closedAll thread ∈ o' → .stopped controller ∈ o' := by
  have hinit : OwnershipInvariant ({} : ControllerManager κ) := by
    refine ⟨?_, ?_, ?_, Table.forall_empty⟩
    · rintro k c - ⟨⟩
    · rintro k c (hc | ⟨t, call, ht, -⟩)
      · cases hc
      · simp at ht
    · intro k c hc
      simp at hc
  have hpreserved : ∀ tr (s : ControllerManager κ) l s' o, OwnershipInvariant s →
      ErasesOwn tr s l → step s l = some (s', o) → OwnershipInvariant s' :=
    fun _ _ _ _ _ h hguard hstep => ownershipInvariant_step h hguard hstep
  have hs : OwnershipInvariant s :=
    Runs.run_invariant (I := fun _ s => OwnershipInvariant s) hpreserved hinit howns hrun
  have howned : ∀ c, (key, c) ∈ s.returned → s.alive c = true → c ∉ s.closed →
      s.liveControllerCache.lookup key = some c := fun c hc => hs.cached key c (Or.inl hc)
  have hentry := howned controller hreturned halive hopen
  refine ⟨hentry, fun other hother ha ho => ?_, ?_, ?_⟩
  · exact Option.some.inj ((howned other hother ha ho).symm.trans hentry)
  · intro thread factory ls' s' o' hrun'
    obtain ⟨s₁, o₁, o₂, hs₁, hr, rfl⟩ := Runs.run_cons_eq_some.mp hrun'
    cases step_cases hs₁ with
    | connectFailed _ _ _ hcall cache hentries hdead =>
      rw [hdead controller hentry] at halive
      cases halive
    | connectReused _ _ _ hcall c hc =>
      obtain rfl := Option.some.inj (hentry.symm.trans hc)
      exact returnsNext_of_reusing (AList.lookup_insert _) hr
    | connectCreated _ _ _ hcall cache hdead =>
      rw [hdead controller hentry] at halive
      cases halive
  · intro thread ls' s' o' hrun' hclosed
    obtain ⟨s₁, o₁, o₂, hs₁, hr, rfl⟩ := Runs.run_cons_eq_some.mp hrun'
    cases step_cases hs₁ with
    | closeAll _ hcall =>
      exact stopped_of_closing (AList.lookup_insert _) (List.mem_map_of_mem
        (ControllerCache.mem_snapshot.mpr ⟨hentry, halive⟩)) hr hclosed

/-- A connect that fails, then one that succeeds. -/
theorem cache_owns_after_retry :
    ∃ s o, Runs.run step ({} : ControllerManager ℕ) [.connectController 0 7 true,
        .prepareNewController 0 false, .erase 0, .connectController 0 7 true,
        .prepareNewController 0 true] = some (s, o) ∧
      (7, 1) ∈ s.returned ∧ s.liveControllerCache.lookup 7 = some 1 := by
  have hrun : (Runs.run step ({} : ControllerManager ℕ) [.connectController 0 7 true,
      .prepareNewController 0 false, .erase 0, .connectController 0 7 true,
      .prepareNewController 0 true]).map (fun r => (r.1.returned, r.1.closed, r.1.alive 1)) =
        some ([(7, 1)], [], true) := by decide +kernel
  obtain ⟨⟨s, o⟩, hrun, h⟩ := Option.map_eq_some_iff.mp hrun
  simp only [Prod.mk.injEq] at h
  have hreturned : (7, 1) ∈ s.returned := by rw [h.1]; exact List.mem_cons_self
  have hopen : 1 ∉ s.closed := by rw [h.2.1]; exact List.not_mem_nil
  exact ⟨s, o, hrun, hreturned, (cache_owns (by decide +kernel) hrun hreturned h.2.2 hopen).1⟩

/-- While a connect fails, another thread disconnects the key and connects it anew. The failed call
then erases the entry of the new controller. -/
theorem erase_loses_another_controller :
    ¬ ∀ (ls : List (ManagerStep ℕ)) s o, Runs.run step {} ls = some (s, o) → Owned s := by
  intro h
  have hrun : (Runs.run step ({} : ControllerManager ℕ) [.connectController 0 7 true,
      .disconnectController 1 7, .disconnectControllerInstance 1, .connectController 1 7 true,
      .prepareNewController 1 true, .prepareNewController 0 false, .erase 0]).map
        (fun r => (r.1.returned, r.1.closed, r.1.alive 1, r.1.liveControllerCache.lookup 7)) =
          some ([(7, 1)], [0], true, none) := by decide +kernel
  obtain ⟨⟨s, o⟩, hrun, hs⟩ := Option.map_eq_some_iff.mp hrun
  simp only [Prod.mk.injEq] at hs
  obtain ⟨hreturned, hclosed, halive, hentry⟩ := hs
  have howned := h _ s o hrun 7 1 (by rw [hreturned]; exact List.mem_cons_self) halive
    (by rw [hclosed]; decide)
  rw [hentry] at howned
  cases howned

end ControllerManager

end LiberaLaser
