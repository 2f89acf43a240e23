import LiberaLaser.Core.Manager.ControllerCache
import LiberaLaser.Foundations.Runs

/-!
# Controller managers and their callers

Any number of threads call `connectController`, `disconnectController` and `closeAll` of one manager
that keeps the default reuse predicate. A call is a few sections under the mutex of the cache, with
the work on the controller between them, and the sections of all threads interleave freely. A
controller lives while a call holds it or the application does.
-/

namespace LiberaLaser

/-- Where a call stands that has passed its first section. -/
inductive ManagerCall (κ : Type)
  /-- `connectController` has created the controller and prepares it. -/
  | preparing (key : κ) (controller : ℕ)
  /-- The preparation has failed, and the key is erased next. -/
  | dropping (key : κ) (controller : ℕ)
  /-- `connectController` has found the controller in the cache. -/
  | reusing (key : κ) (controller : ℕ)
  /-- `disconnectController` has taken the controller out of the cache. -/
  | disconnecting (key : κ) (controller : ℕ)
  /-- `closeAll` has taken these controllers out of the cache. -/
  | closing (snapshot : List (κ × ℕ))
  deriving DecidableEq

/-- The controllers that a call keeps alive. -/
def ManagerCall.held {κ : Type} : ManagerCall κ → List ℕ
  | .preparing _ controller => [controller]
  | .dropping _ controller => [controller]
  | .reusing _ controller => [controller]
  | .disconnecting _ controller => [controller]
  | .closing snapshot => snapshot.map Prod.snd

/-- The controller that a call of `connectController` may return, with its key. -/
def ManagerCall.connecting {κ : Type} : ManagerCall κ → Option (κ × ℕ)
  | .preparing key controller => some (key, controller)
  | .dropping key controller => some (key, controller)
  | .reusing key controller => some (key, controller)
  | .disconnecting _ _ => none
  | .closing _ => none

/-- The cache, the controllers that are alive, and the calls in progress, by thread. Controllers are
numbered in the order of their creation. The last two fields are history variables: what
`connectController` has returned, and what was disconnected or closed. -/
structure ControllerManager (κ : Type) where
  liveControllerCache : ControllerCache κ := ∅
  alive : ℕ → Bool := fun _ => false
  calls : Table ℕ (ManagerCall κ) := ∅
  created : ℕ := 0
  returned : List (κ × ℕ) := []
  closed : List ℕ := []

/-- The sections of the calls, by thread, and the end of a controller that nobody owns. A step that
depends on the backend says how it ends: whether the factory makes a controller, and whether the
preparation keeps it. -/
inductive ManagerStep (κ : Type)
  | connectController (thread : ℕ) (key : κ) (factory : Bool)
  | prepareNewController (thread : ℕ) (keep : Bool)
  | erase (thread : ℕ)
  | prepareExistingController (thread : ℕ)
  | disconnectController (thread : ℕ) (key : κ)
  | disconnectControllerInstance (thread : ℕ)
  | closeAll (thread : ℕ)
  | closeNext (thread : ℕ)
  | destroy (controller : ℕ)
  deriving DecidableEq

/-- What is observed: a call returns, or stops and closes a controller. -/
inductive ManagerEvent (κ : Type)
  | connected (thread : ℕ) (key : κ) (controller : Option ℕ)
  | disconnected (thread : ℕ) (key : κ) (result : Bool)
  | stopped (controller : ℕ)
  | closedAll (thread : ℕ)
  deriving DecidableEq

/-- The thread that takes the step. -/
def ManagerStep.thread {κ : Type} : ManagerStep κ → Option ℕ
  | .connectController thread _ _ => some thread
  | .prepareNewController thread _ => some thread
  | .erase thread => some thread
  | .prepareExistingController thread => some thread
  | .disconnectController thread _ => some thread
  | .disconnectControllerInstance thread => some thread
  | .closeAll thread => some thread
  | .closeNext thread => some thread
  | .destroy _ => none

/-- The thread whose call returns. -/
def ManagerEvent.thread {κ : Type} : ManagerEvent κ → Option ℕ
  | .connected thread _ _ => some thread
  | .disconnected thread _ _ => some thread
  | .stopped _ => none
  | .closedAll thread => some thread

namespace ControllerManager

variable {κ : Type} [DecidableEq κ]

/-- No call in progress holds the controller. -/
def Unheld (s : ControllerManager κ) (controller : ℕ) : Prop :=
  s.calls.Forall fun _ call => controller ∉ call.held

instance (s : ControllerManager κ) (controller : ℕ) : Decidable (s.Unheld controller) :=
  inferInstanceAs (Decidable (Table.Forall _ _))

/-- `connectController` returns a controller to the application. -/
def handOut (s : ControllerManager κ) (thread : ℕ) (key : κ) (controller : ℕ) :
    ControllerManager κ × List (ManagerEvent κ) :=
  ({ s with calls := s.calls.erase thread, returned := (key, controller) :: s.returned },
    [.connected thread key (some controller)])

/-- The first section of `connectController`. -/
def beginConnect (s : ControllerManager κ) (thread : ℕ) (key : κ) (factory : Bool) :
    ControllerManager κ × List (ManagerEvent κ) :=
  let (liveControllerCache, acquisition) := s.liveControllerCache.getOrCreate s.alive key
    (if factory then some s.created else none)
  let s := { s with liveControllerCache := liveControllerCache }
  match acquisition.controller with
  | none => (s, [.connected thread key none])
  | some controller =>
    if acquisition.created then
      ({ s with
        alive := fun c => if c = controller then true else s.alive c
        calls := s.calls.insert thread (.preparing key controller)
        created := s.created + 1 }, [])
    else ({ s with calls := s.calls.insert thread (.reusing key controller) }, [])

/-- One section of a call. A thread is in one call at a time. -/
def step (s : ControllerManager κ) :
    ManagerStep κ → Option (ControllerManager κ × List (ManagerEvent κ))
  | .connectController thread key factory =>
    match s.calls.lookup thread with
    | some _ => none
    | none => some (s.beginConnect thread key factory)
  | .prepareNewController thread keep =>
    match s.calls.lookup thread with
    | some (.preparing key controller) =>
      if keep then some (s.handOut thread key controller)
      else some ({ s with calls := s.calls.insert thread (.dropping key controller) }, [])
    | _ => none
  | .erase thread =>
    match s.calls.lookup thread with
    | some (.dropping key _) =>
      some ({ s with
        liveControllerCache := s.liveControllerCache.erase key
        calls := s.calls.erase thread }, [.connected thread key none])
    | _ => none
  | .prepareExistingController thread =>
    match s.calls.lookup thread with
    | some (.reusing key controller) => some (s.handOut thread key controller)
    | _ => none
  | .disconnectController thread key =>
    match s.calls.lookup thread with
    | some _ => none
    | none =>
      let (liveControllerCache, controller) := s.liveControllerCache.take s.alive key
      let s := { s with liveControllerCache := liveControllerCache }
      match controller with
      | none => some (s, [.disconnected thread key false])
      | some controller =>
        some ({ s with
          calls := s.calls.insert thread (.disconnecting key controller)
          closed := controller :: s.closed }, [])
  | .disconnectControllerInstance thread =>
    match s.calls.lookup thread with
    | some (.disconnecting key controller) =>
      some ({ s with calls := s.calls.erase thread },
        [.stopped controller, .disconnected thread key true])
    | _ => none
  | .closeAll thread =>
    match s.calls.lookup thread with
    | some _ => none
    | none =>
      let (liveControllerCache, snapshot) := s.liveControllerCache.snapshotAndClear s.alive
      some ({ s with
        liveControllerCache := liveControllerCache
        calls := s.calls.insert thread (.closing snapshot)
        closed := snapshot.map Prod.snd ++ s.closed }, [])
  | .closeNext thread =>
    match s.calls.lookup thread with
    | some (.closing ((_, controller) :: snapshot)) =>
      some ({ s with calls := s.calls.insert thread (.closing snapshot) }, [.stopped controller])
    | some (.closing []) =>
      some ({ s with calls := s.calls.erase thread }, [.closedAll thread])
    | _ => none
  | .destroy controller =>
    if s.Unheld controller then
      some ({ s with alive := fun c => if c = controller then false else s.alive c }, [])
    else none

/-- The sections by case: what must hold before, the state after, and what is observed. -/
inductive StepCase (s : ControllerManager κ) :
    ManagerStep κ → ControllerManager κ → List (ManagerEvent κ) → Prop
  | connectFailed (thread : ℕ) (key : κ) (factory : Bool) (hcall : s.calls.lookup thread = none)
      (cache : ControllerCache κ)
      (hentries : ∀ k c, cache.lookup k = some c → s.liveControllerCache.lookup k = some c)
      (hdead : ∀ c, s.liveControllerCache.lookup key = some c → s.alive c = false)
      (hkept : ∀ k, k ≠ key → cache.lookup k = s.liveControllerCache.lookup k) :
      StepCase s (.connectController thread key factory) { s with liveControllerCache := cache }
        [.connected thread key none]
  | connectReused (thread : ℕ) (key : κ) (factory : Bool) (hcall : s.calls.lookup thread = none)
      (controller : ℕ) (hentry : s.liveControllerCache.lookup key = some controller)
      (halive : s.alive controller = true) :
      StepCase s (.connectController thread key factory)
        { s with calls := s.calls.insert thread (.reusing key controller) } []
  | connectCreated (thread : ℕ) (key : κ) (factory : Bool) (hcall : s.calls.lookup thread = none)
      (cache : ControllerCache κ)
      (hdead : ∀ c, s.liveControllerCache.lookup key = some c → s.alive c = false)
      (hentry : cache.lookup key = some s.created)
      (hkept : ∀ k, k ≠ key → cache.lookup k = s.liveControllerCache.lookup k) :
      StepCase s (.connectController thread key factory)
        { s with
          liveControllerCache := cache
          alive := fun c => if c = s.created then true else s.alive c
          calls := s.calls.insert thread (.preparing key s.created)
          created := s.created + 1 } []
  | kept (thread : ℕ) (key : κ) (controller : ℕ)
      (hcall : s.calls.lookup thread = some (.preparing key controller)) :
      StepCase s (.prepareNewController thread true) (s.handOut thread key controller).1
        (s.handOut thread key controller).2
  | dropped (thread : ℕ) (key : κ) (controller : ℕ)
      (hcall : s.calls.lookup thread = some (.preparing key controller)) :
      StepCase s (.prepareNewController thread false)
        { s with calls := s.calls.insert thread (.dropping key controller) } []
  | erased (thread : ℕ) (key : κ) (controller : ℕ)
      (hcall : s.calls.lookup thread = some (.dropping key controller)) :
      StepCase s (.erase thread)
        { s with
          liveControllerCache := s.liveControllerCache.erase key
          calls := s.calls.erase thread } [.connected thread key none]
  | reused (thread : ℕ) (key : κ) (controller : ℕ)
      (hcall : s.calls.lookup thread = some (.reusing key controller)) :
      StepCase s (.prepareExistingController thread) (s.handOut thread key controller).1
        (s.handOut thread key controller).2
  | notFound (thread : ℕ) (key : κ) (hcall : s.calls.lookup thread = none)
      (cache : ControllerCache κ)
      (hentries : ∀ k c, cache.lookup k = some c → s.liveControllerCache.lookup k = some c)
      (hdead : ∀ c, s.liveControllerCache.lookup key = some c → s.alive c = false)
      (hkept : ∀ k, k ≠ key → cache.lookup k = s.liveControllerCache.lookup k) :
      StepCase s (.disconnectController thread key) { s with liveControllerCache := cache }
        [.disconnected thread key false]
  | taken (thread : ℕ) (key : κ) (hcall : s.calls.lookup thread = none) (controller : ℕ)
      (hentry : s.liveControllerCache.lookup key = some controller)
      (halive : s.alive controller = true) :
      StepCase s (.disconnectController thread key)
        { s with
          liveControllerCache := s.liveControllerCache.erase key
          calls := s.calls.insert thread (.disconnecting key controller)
          closed := controller :: s.closed } []
  | disconnected (thread : ℕ) (key : κ) (controller : ℕ)
      (hcall : s.calls.lookup thread = some (.disconnecting key controller)) :
      StepCase s (.disconnectControllerInstance thread) { s with calls := s.calls.erase thread }
        [.stopped controller, .disconnected thread key true]
  | closeAll (thread : ℕ) (hcall : s.calls.lookup thread = none) :
      StepCase s (.closeAll thread)
        { s with
          liveControllerCache := ∅
          calls := s.calls.insert thread
            (.closing (s.liveControllerCache.snapshotAndClear s.alive).2)
          closed := (s.liveControllerCache.snapshotAndClear s.alive).2.map Prod.snd ++ s.closed } []
  | closeNext (thread : ℕ) (key : κ) (controller : ℕ) (snapshot : List (κ × ℕ))
      (hcall : s.calls.lookup thread = some (.closing ((key, controller) :: snapshot))) :
      StepCase s (.closeNext thread) { s with calls := s.calls.insert thread (.closing snapshot) }
        [.stopped controller]
  | closedAll (thread : ℕ) (hcall : s.calls.lookup thread = some (.closing [])) :
      StepCase s (.closeNext thread) { s with calls := s.calls.erase thread } [.closedAll thread]
  | destroy (controller : ℕ) (hunheld : s.Unheld controller) :
      StepCase s (.destroy controller)
        { s with alive := fun c => if c = controller then false else s.alive c } []

theorem beginConnect_cases (s : ControllerManager κ) (thread : ℕ) (key : κ) (factory : Bool)
    (hcall : s.calls.lookup thread = none) :
    StepCase s (.connectController thread key factory) (s.beginConnect thread key factory).1
      (s.beginConnect thread key factory).2 := by
  have hcase := ControllerCache.getOrCreate_cases s.liveControllerCache s.alive key
    (if factory then some s.created else none)
  rw [beginConnect]
  generalize s.liveControllerCache.getOrCreate s.alive key
    (if factory then some s.created else none) = result at hcase
  obtain ⟨cache, acquisition⟩ := result
  cases hcase with
  | reused controller hentry halive =>
    exact .connectReused thread key factory hcall controller hentry halive
  | failed _ hnone hdead hentries hkept =>
    exact .connectFailed thread key factory hcall cache hentries hdead hkept
  | created _ controller hsome hdead hentry hkept =>
    obtain rfl : s.created = controller := by
      cases factory <;> simp_all
    exact .connectCreated thread key factory hcall cache hdead hentry hkept

theorem step_cases {s s' : ControllerManager κ} {l : ManagerStep κ} {o : List (ManagerEvent κ)}
    (h : step s l = some (s', o)) : StepCase s l s' o := by
  cases l with
  | connectController thread key factory =>
    cases hcall : s.calls.lookup thread with
    | some call => simp [step, hcall] at h
    | none =>
      simp only [step, hcall, Option.some.injEq, Prod.ext_iff] at h
      obtain ⟨rfl, rfl⟩ := h
      exact beginConnect_cases s thread key factory hcall
  | prepareNewController thread keep =>
    cases hcall : s.calls.lookup thread with
    | none => simp [step, hcall] at h
    | some call =>
      cases call <;> simp only [step, hcall, reduceCtorEq] at h
      cases keep with
      | true =>
        simp only [if_true, Option.some.injEq, Prod.ext_iff] at h
        obtain ⟨rfl, rfl⟩ := h
        exact .kept thread _ _ hcall
      | false =>
        simp only [Bool.false_eq_true, if_false, Option.some.injEq, Prod.mk.injEq] at h
        obtain ⟨rfl, rfl⟩ := h
        exact .dropped thread _ _ hcall
  | erase thread =>
    cases hcall : s.calls.lookup thread with
    | none => simp [step, hcall] at h
    | some call =>
      cases call <;> simp only [step, hcall, reduceCtorEq, Option.some.injEq, Prod.mk.injEq] at h
      obtain ⟨rfl, rfl⟩ := h
      exact .erased thread _ _ hcall
  | prepareExistingController thread =>
    cases hcall : s.calls.lookup thread with
    | none => simp [step, hcall] at h
    | some call =>
      cases call <;> simp only [step, hcall, reduceCtorEq, Option.some.injEq, Prod.ext_iff] at h
      obtain ⟨rfl, rfl⟩ := h
      exact .reused thread _ _ hcall
  | disconnectController thread key =>
    cases hcall : s.calls.lookup thread with
    | some call => simp [step, hcall] at h
    | none =>
      cases hentry : s.liveControllerCache.lookup key with
      | none =>
        simp only [step, hcall, ControllerCache.take, hentry, Option.some.injEq,
          Prod.mk.injEq] at h
        obtain ⟨rfl, rfl⟩ := h
        exact .notFound thread key hcall _ (fun _ _ h => h) (by simp [hentry]) fun _ _ => rfl
      | some controller =>
        cases halive : s.alive controller with
        | false =>
          simp only [step, hcall, ControllerCache.take, hentry, ControllerCache.lock, halive,
            Bool.false_eq_true, if_false, Option.some.injEq, Prod.mk.injEq] at h
          obtain ⟨rfl, rfl⟩ := h
          refine .notFound thread key hcall _
            (fun k c h => (Table.lookup_erase_eq_some.mp h).2) ?_
            fun k hk => AList.lookup_erase_ne hk
          intro c hc
          rw [hentry] at hc
          cases hc
          exact halive
        | true =>
          simp only [step, hcall, ControllerCache.take, hentry, ControllerCache.lock, halive,
            if_true, Option.some.injEq, Prod.mk.injEq] at h
          obtain ⟨rfl, rfl⟩ := h
          exact .taken thread key hcall controller hentry halive
  | disconnectControllerInstance thread =>
    cases hcall : s.calls.lookup thread with
    | none => simp [step, hcall] at h
    | some call =>
      cases call <;> simp only [step, hcall, reduceCtorEq, Option.some.injEq, Prod.mk.injEq] at h
      obtain ⟨rfl, rfl⟩ := h
      exact .disconnected thread _ _ hcall
  | closeAll thread =>
    cases hcall : s.calls.lookup thread with
    | some call => simp [step, hcall] at h
    | none =>
      simp only [step, hcall, Option.some.injEq, Prod.mk.injEq] at h
      obtain ⟨rfl, rfl⟩ := h
      exact .closeAll thread hcall
  | closeNext thread =>
    cases hcall : s.calls.lookup thread with
    | none => simp [step, hcall] at h
    | some call =>
      cases call with
      | closing snapshot =>
        cases snapshot with
        | nil =>
          simp only [step, hcall, Option.some.injEq, Prod.mk.injEq] at h
          obtain ⟨rfl, rfl⟩ := h
          exact .closedAll thread hcall
        | cons entry snapshot =>
          simp only [step, hcall, Option.some.injEq, Prod.mk.injEq] at h
          obtain ⟨rfl, rfl⟩ := h
          exact .closeNext thread entry.1 entry.2 snapshot hcall
      | _ => simp [step, hcall] at h
  | destroy controller =>
    simp only [step] at h
    split at h
    · rename_i hunheld
      simp only [Option.some.injEq, Prod.mk.injEq] at h
      obtain ⟨rfl, rfl⟩ := h
      exact .destroy controller hunheld
    · cases h


/-- A step of another thread leaves a call where it is, and says nothing of its thread. -/
theorem step_of_ne {s s' : ControllerManager κ} {l : ManagerStep κ} {o : List (ManagerEvent κ)}
    {thread : ℕ} (h : step s l = some (s', o)) (hne : l.thread ≠ some thread) :
    s'.calls.lookup thread = s.calls.lookup thread ∧ ∀ e ∈ o, e.thread ≠ some thread := by
  have hset : ∀ {t} (call : ManagerCall κ), some t ≠ some thread →
      (AList.insert t call s.calls).lookup thread = s.calls.lookup thread :=
    fun _ ht => AList.lookup_insert_ne fun heq => ht (congrArg some heq.symm)
  have hend : ∀ {t}, some t ≠ some thread →
      (s.calls.erase t).lookup thread = s.calls.lookup thread :=
    fun ht => AList.lookup_erase_ne fun heq => ht (congrArg some heq.symm)
  cases step_cases h with
  | connectFailed t => exact ⟨rfl, by simpa [ManagerStep.thread, ManagerEvent.thread] using hne⟩
  | connectReused t => exact ⟨hset _ hne, nofun⟩
  | connectCreated t => exact ⟨hset _ hne, nofun⟩
  | kept t =>
    exact ⟨hend hne, by simpa [ManagerStep.thread, handOut, ManagerEvent.thread] using hne⟩
  | dropped t => exact ⟨hset _ hne, nofun⟩
  | erased t => exact ⟨hend hne, by simpa [ManagerStep.thread, ManagerEvent.thread] using hne⟩
  | reused t =>
    exact ⟨hend hne, by simpa [ManagerStep.thread, handOut, ManagerEvent.thread] using hne⟩
  | notFound t => exact ⟨rfl, by simpa [ManagerStep.thread, ManagerEvent.thread] using hne⟩
  | taken t => exact ⟨hset _ hne, nofun⟩
  | disconnected t => exact ⟨hend hne, by simpa [ManagerStep.thread, ManagerEvent.thread] using hne⟩
  | closeAll t => exact ⟨hset _ hne, nofun⟩
  | closeNext t => exact ⟨hset _ hne, by simp [ManagerEvent.thread]⟩
  | closedAll t => exact ⟨hend hne, by simpa [ManagerStep.thread, ManagerEvent.thread] using hne⟩
  | destroy => exact ⟨rfl, nofun⟩

end ControllerManager

end LiberaLaser
