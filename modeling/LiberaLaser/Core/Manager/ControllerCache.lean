import LiberaLaser.Foundations.Table

/-!
# The cache of live controllers

A manager keeps one weak pointer for each key. `alive` says which controllers still have an owner,
so locking a weak pointer gives a controller just when it is alive. Every operation is one section
under the mutex of the cache.
-/

namespace LiberaLaser

/-- The weak pointers to controllers, by key. -/
abbrev ControllerCache (κ : Type) := Table κ ℕ

namespace ControllerCache

variable {κ : Type} [DecidableEq κ]

/-- `weak_ptr::lock`. -/
def lock (alive : ℕ → Bool) (controller : ℕ) : Option ℕ :=
  if alive controller then some controller else none

structure GetOrCreateResult where
  controller : Option ℕ := none
  created : Bool := false
  deriving DecidableEq

/-- The end of `getOrCreateIf`: a controller is created and entered, unless the factory fails. -/
def enter (controllers : ControllerCache κ) (key : κ) (createController : Option ℕ) :
    ControllerCache κ × GetOrCreateResult :=
  match createController with
  | none => (controllers, {})
  | some controller =>
    (AList.insert key controller controllers, { controller := some controller, created := true })

def getOrCreateIf (controllers : ControllerCache κ) (alive : ℕ → Bool) (key : κ)
    (shouldReuseExisting : ℕ → Bool) (createController : Option ℕ) :
    ControllerCache κ × GetOrCreateResult :=
  match controllers.lookup key with
  | none => enter controllers key createController
  | some controller =>
    match lock alive controller with
    | none => enter (controllers.erase key) key createController
    | some existing =>
      if shouldReuseExisting existing then (controllers, { controller := some existing })
      else enter (controllers.erase key) key createController

def getOrCreate (controllers : ControllerCache κ) (alive : ℕ → Bool) (key : κ)
    (createController : Option ℕ) : ControllerCache κ × GetOrCreateResult :=
  controllers.getOrCreateIf alive key (fun _ => true) createController

def take (controllers : ControllerCache κ) (alive : ℕ → Bool) (key : κ) :
    ControllerCache κ × Option ℕ :=
  match controllers.lookup key with
  | none => (controllers, none)
  | some controller => (controllers.erase key, lock alive controller)

/-- The controllers that are alive, with their keys; the cache is empty afterwards. -/
def snapshotAndClear (controllers : ControllerCache κ) (alive : ℕ → Bool) :
    ControllerCache κ × List (κ × ℕ) :=
  (∅, (controllers.entries.map fun e => (e.1, e.2)).filter fun e => alive e.2)

variable {controllers : ControllerCache κ} {alive : ℕ → Bool} {key : κ}

/-- What `getOrCreate` can do: hand out the live controller of the key, fail, or enter a new one.
The last two leave no live controller under the key behind. -/
inductive GetOrCreateCase (controllers : ControllerCache κ) (alive : ℕ → Bool) (key : κ)
    (createController : Option ℕ) : ControllerCache κ → GetOrCreateResult → Prop
  | reused (controller : ℕ) (hentry : controllers.lookup key = some controller)
      (halive : alive controller = true) :
      GetOrCreateCase controllers alive key createController controllers
        { controller := some controller }
  | failed (controllers' : ControllerCache κ) (hnone : createController = none)
      (hdead : ∀ c, controllers.lookup key = some c → alive c = false)
      (hentries : ∀ k c, controllers'.lookup k = some c → controllers.lookup k = some c)
      (hkept : ∀ k, k ≠ key → controllers'.lookup k = controllers.lookup k) :
      GetOrCreateCase controllers alive key createController controllers' {}
  | created (controllers' : ControllerCache κ) (controller : ℕ)
      (hsome : createController = some controller)
      (hdead : ∀ c, controllers.lookup key = some c → alive c = false)
      (hentry : controllers'.lookup key = some controller)
      (hkept : ∀ k, k ≠ key → controllers'.lookup k = controllers.lookup k) :
      GetOrCreateCase controllers alive key createController controllers'
        { controller := some controller, created := true }

theorem getOrCreate_cases (controllers : ControllerCache κ) (alive : ℕ → Bool) (key : κ)
    (createController : Option ℕ) :
    GetOrCreateCase controllers alive key createController
      (controllers.getOrCreate alive key createController).1
      (controllers.getOrCreate alive key createController).2 := by
  -- whatever was erased before, the cache differs under the key alone
  have henter : ∀ cache : ControllerCache κ,
      (∀ c, controllers.lookup key = some c → alive c = false) →
      (∀ k c, cache.lookup k = some c → controllers.lookup k = some c) →
      (∀ k, k ≠ key → cache.lookup k = controllers.lookup k) →
      GetOrCreateCase controllers alive key createController (enter cache key createController).1
        (enter cache key createController).2 := by
    intro cache hdead hentries hkept
    cases hcreate : createController with
    | none => exact .failed cache rfl hdead hentries hkept
    | some controller =>
      refine .created _ controller rfl hdead (AList.lookup_insert cache) fun k hk => ?_
      exact (AList.lookup_insert_ne hk).trans (hkept k hk)
  rw [getOrCreate, getOrCreateIf]
  cases hentry : controllers.lookup key with
  | none => exact henter controllers (by simp [hentry]) (fun _ _ h => h) (fun _ _ => rfl)
  | some controller =>
    cases halive : alive controller with
    | true =>
      simp only [lock, halive, if_true]
      exact .reused controller hentry halive
    | false =>
      simp only [lock, halive, Bool.false_eq_true, if_false]
      refine henter (controllers.erase key) ?_ (fun k c h => (Table.lookup_erase_eq_some.mp h).2)
        (fun k hk => AList.lookup_erase_ne hk)
      intro c hc
      rw [hentry] at hc
      cases hc
      exact halive

theorem mem_snapshot {k : κ} {c : ℕ} :
    (k, c) ∈ (controllers.snapshotAndClear alive).2 ↔
      controllers.lookup k = some c ∧ alive c = true := by
  rw [snapshotAndClear, List.mem_filter, List.mem_map]
  constructor
  · rintro ⟨⟨⟨k', c'⟩, he, heq⟩, halive⟩
    cases heq
    exact ⟨AList.mem_lookup_iff.mpr he, halive⟩
  · rintro ⟨hentry, halive⟩
    exact ⟨⟨⟨k, c⟩, AList.mem_lookup_iff.mp hentry, rfl⟩, halive⟩

end ControllerCache

end LiberaLaser
