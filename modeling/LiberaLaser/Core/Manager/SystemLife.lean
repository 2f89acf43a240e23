import LiberaLaser.Core.Manager.Drivers
import Mathlib.Data.List.Dedup

/-!
# The life of a system

Which managers a system has depends on the registrations, the choices and the factories alone, not
on the order in which the families are visited, and no family has two (`active_iff`). Over the whole
life of a system every manager that was made is closed once and is not called afterwards, and a
controller is connected through the manager that has listed it (`life_spec`).
-/

namespace LiberaLaser

namespace ControllerManagers

/-- What holds of all that is registered. -/
structure Registry (registrations : List ControllerManagerRegistration) : Prop where
  factory : ∀ r ∈ registrations, r.factory = true
  named : ∀ r ∈ registrations,
    r.info.driverId ≠ [] ∧ r.info.type ≠ [] ∧ r.info.displayName ≠ []
  nodup : (registrations.map (·.info.driverId)).Nodup

theorem Registry.add {registrations : List ControllerManagerRegistration}
    (h : Registry registrations) (registration : ControllerManagerRegistration) :
    Registry (addControllerManager registrations registration) := by
  have hname : (normalizeRegistration registration).info.type ≠ [] →
      (normalizeRegistration registration).info.displayName ≠ [] := by
    rw [normalizeRegistration]
    split
    · exact id
    · rename_i hdisplay
      exact fun _ => hdisplay
  rw [addControllerManager]
  generalize normalizeRegistration registration = r at hname
  split
  · exact h
  · rename_i hfactory
    split
    · exact h
    · rename_i hnamed
      obtain ⟨hdriver, htype⟩ := not_or.mp hnamed
      split
      · exact h
      · rename_i hnew
        rw [hasRegisteredDriverId, if_neg hdriver] at hnew
        refine ⟨fun r' hr' => ?_, fun r' hr' => ?_, ?_⟩
        · rcases List.mem_append.mp hr' with hr' | hr'
          · exact h.factory r' hr'
          · rw [List.mem_singleton.mp hr']
            simpa using hfactory
        · rcases List.mem_append.mp hr' with hr' | hr'
          · exact h.named r' hr'
          · rw [List.mem_singleton.mp hr']
            exact ⟨hdriver, htype, hname htype⟩
        · rw [List.map_append, List.nodup_append]
          refine ⟨h.nodup, List.nodup_singleton _, ?_⟩
          rintro _ hid _ hid' rfl
          obtain ⟨r', hr', hid⟩ := List.mem_map.mp hid
          refine hnew (List.any_eq_true.mpr ⟨r', hr', ?_⟩)
          rw [List.mem_singleton.mp hid'] at hid
          exact decide_eq_true hid

theorem registry_registeredAfter (calls : List ControllerManagerRegistration) :
    Registry (registeredAfter calls) :=
  List.foldlRecOn calls addControllerManager ⟨by simp, by simp, List.nodup_nil⟩
    fun _ h registration _ => h.add registration

theorem Registry.eq_of_driverId {registrations : List ControllerManagerRegistration}
    (h : Registry registrations) {r r' : ControllerManagerRegistration} (hr : r ∈ registrations)
    (hr' : r' ∈ registrations) (heq : r.info.driverId = r'.info.driverId) : r = r' :=
  List.inj_on_of_nodup_map h.nodup hr hr' heq

end ControllerManagers

namespace System

open ControllerManagers Traces

/-! ## The choice -/

/-- The family has the driver, and is not disabled. -/
def Provides (registrations : List ControllerManagerRegistration) (options : SystemOptions)
    (type driverId : ByteString) : Prop :=
  type ∉ options.disabledControllerTypes ∧
    ∃ r ∈ registrations, r.info.type = type ∧ r.info.driverId = driverId

/-- The driver that a family should have: the one asked for; where the family has no such driver,
the first that is built in; and where none is built in, the only one. -/
def Preferred (registrations : List ControllerManagerRegistration) (options : SystemOptions)
    (requested : Option ByteString) (type driverId : ByteString) : Prop :=
  Provides registrations options type driverId ∧
    (requested = some driverId ∨
      (∀ id, requested = some id → ¬Provides registrations options type id) ∧
        match (registrationsByType registrations options type).find? (·.info.builtIn) with
        | some first => driverId = first.info.driverId
        | none => ∀ id, Provides registrations options type id → id = driverId)

variable {registrations : List ControllerManagerRegistration} {options : SystemOptions}
  {requested : Option ByteString} {type driverId : ByteString}

theorem mem_registrationsByType (h : Registry registrations) {r : ControllerManagerRegistration} :
    r ∈ registrationsByType registrations options type ↔
      type ∉ options.disabledControllerTypes ∧ r ∈ registrations ∧ r.info.type = type := by
  rw [registrationsByType, List.mem_filter]
  constructor
  · rintro ⟨hr, hfilter⟩
    have htype := (h.named r hr).2.1
    simp only [h.factory r hr, controllerTypeEnabled, htype, decide_false, Bool.false_or,
      Bool.true_and, Bool.and_eq_true, decide_eq_true_eq] at hfilter
    obtain ⟨henabled, rfl⟩ := hfilter
    exact ⟨henabled, hr, rfl⟩
  · rintro ⟨henabled, hr, rfl⟩
    refine ⟨hr, ?_⟩
    simp [h.factory r hr, controllerTypeEnabled, henabled]

theorem provides_iff (h : Registry registrations) :
    Provides registrations options type driverId ↔
      ∃ r ∈ registrationsByType registrations options type, r.info.driverId = driverId := by
  simp only [Provides, mem_registrationsByType h]
  constructor
  · rintro ⟨henabled, r, hr, htype, hid⟩
    exact ⟨r, ⟨henabled, hr, htype⟩, hid⟩
  · rintro ⟨r, ⟨henabled, hr, htype⟩, hid⟩
    exact ⟨henabled, r, hr, htype, hid⟩

theorem nodup_registrationsByType (h : Registry registrations) :
    ((registrationsByType registrations options type).map (·.info.driverId)).Nodup :=
  h.nodup.sublist (List.filter_sublist.map _)

/-- **The driver that is chosen** is the preferred one. -/
theorem selectDriver_iff (h : Registry registrations) :
    (∃ r, selectDriver (registrationsByType registrations options type) requested = some r ∧
        r.info.driverId = driverId) ↔
      Preferred registrations options requested type driverId := by
  have hnodup : ((registrationsByType registrations options type).map (·.info.driverId)).Nodup :=
    nodup_registrationsByType h
  have hfound : (∀ id, requested = some id → ¬Provides registrations options type id) ↔
      (requested.bind fun id => (registrationsByType registrations options type).find?
        (·.info.driverId = id)) = none := by
    cases requested with
    | none => simp
    | some id => simp [provides_iff h]
  rw [Preferred, hfound]
  simp only [provides_iff h]
  generalize registrationsByType registrations options type = group at hnodup
  cases hrequested : requested.bind fun id => group.find? (·.info.driverId = id) with
  | some r =>
    obtain ⟨id, rfl, hfind⟩ := Option.bind_eq_some_iff.mp hrequested
    obtain rfl : r.info.driverId = id := by simpa using List.find?_some hfind
    have hr := List.mem_of_find?_eq_some hfind
    have hselect : selectDriver group (some r.info.driverId) = some r := by
      unfold selectDriver
      rw [hrequested]
    rw [hselect]
    simp only [Option.some.injEq, reduceCtorEq, false_and, or_false, exists_eq_left']
    exact ⟨fun heq => ⟨⟨r, hr, heq⟩, heq⟩, fun hpreferred => hpreferred.2⟩
  | none =>
    have hnot : (∃ r ∈ group, r.info.driverId = driverId) → requested ≠ some driverId := by
      rintro ⟨r, hr, rfl⟩ rfl
      simp only [Option.bind_some, List.find?_eq_none, decide_eq_true_eq] at hrequested
      exact hrequested r hr rfl
    cases hfirst : group.find? (·.info.builtIn) with
    | some first =>
      have hmem := List.mem_of_find?_eq_some hfirst
      have hselect : selectDriver group requested = some first := by
        unfold selectDriver
        rw [hrequested, hfirst]
      rw [hselect]
      simp only [Option.some.injEq, exists_eq_left', true_and]
      constructor
      · rintro rfl
        exact ⟨⟨first, hmem, rfl⟩, .inr rfl⟩
      · rintro ⟨hprovides, hrequest | rfl⟩
        · exact absurd hrequest (hnot hprovides)
        · rfl
    | none =>
      simp only [true_and]
      rcases group with _ | ⟨r, _ | ⟨r', rest⟩⟩
      · have hselect : selectDriver [] requested = none := by
          unfold selectDriver
          rw [hrequested, hfirst]
        simp [hselect]
      · have hselect : selectDriver [r] requested = some r := by
          unfold selectDriver
          rw [hrequested, hfirst]
        simp only [hselect, Option.some.injEq, exists_eq_left', List.mem_singleton,
          forall_exists_index, and_imp, forall_eq]
        constructor
        · rintro rfl
          exact ⟨⟨r, rfl, rfl⟩, .inr fun _ => Eq.symm⟩
        · rintro ⟨⟨r', rfl, rfl⟩, -⟩
          rfl
      · have hselect : selectDriver (r :: r' :: rest) requested = none := by
          unfold selectDriver
          rw [hrequested, hfirst]
        simp only [hselect, reduceCtorEq, false_and, exists_false, false_iff, not_and]
        rintro hprovides (hrequest | honly)
        · exact hnot hprovides hrequest
        · have hr := honly _ ⟨r, List.mem_cons_self, rfl⟩
          have hr' := honly _ ⟨r', List.mem_cons_of_mem _ List.mem_cons_self, rfl⟩
          rw [List.map_cons, List.map_cons, List.nodup_cons] at hnodup
          exact hnodup.1 (hr.trans hr'.symm ▸ List.mem_cons_self)

theorem selectDriver_mem {group : List ControllerManagerRegistration}
    {r : ControllerManagerRegistration} (h : selectDriver group requested = some r) :
    r ∈ group := by
  unfold selectDriver at h
  cases hrequested : requested.bind fun id => group.find? (·.info.driverId = id) with
  | some found =>
    rw [hrequested] at h
    cases h
    obtain ⟨id, -, hfind⟩ := Option.bind_eq_some_iff.mp hrequested
    exact List.mem_of_find?_eq_some hfind
  | none =>
    rw [hrequested] at h
    cases hfirst : group.find? (·.info.builtIn) with
    | some first =>
      rw [hfirst] at h
      cases h
      exact List.mem_of_find?_eq_some hfirst
    | none =>
      rw [hfirst] at h
      rcases group with _ | ⟨r', _ | ⟨r'', rest⟩⟩
      · cases h
      · cases h
        exact List.mem_singleton_self r
      · cases h

/-! ## The managers that are active -/

section Activate

variable {selected : Table ByteString ByteString} {factories : Factories}

/-- The driver of a family that gets a manager. -/
def activeDriver (registrations : List ControllerManagerRegistration)
    (selected : Table ByteString ByteString) (options : SystemOptions) (factories : Factories)
    (type : ByteString) : Option ByteString :=
  ((selectDriver (registrationsByType registrations options type) (selected.lookup type)).map
    (·.info.driverId)).filter (factories · = some type)

theorem drivers_activate (s : System) :
    (activate registrations selected options factories s type).1.managers.map (·.driverId) =
      s.managers.map (·.driverId) ++
        (activeDriver registrations selected options factories type).toList := by
  rw [activate, activeDriver]
  split
  · rename_i hnone
    simp [hnone]
  · rename_i r hr
    dsimp only
    split
    · rename_i hnone
      simp [hr, hnone]
    · rename_i managedType hmanaged
      split
      · rename_i hne
        simp [hr, hmanaged, hne]
      · rename_i heq
        obtain rfl := not_not.mp heq
        simp [hr, Option.filter, hmanaged]

theorem drivers_activateAll (s : System) (order : List ByteString) :
    (activateAll registrations selected options factories s order).1.managers.map (·.driverId) =
      s.managers.map (·.driverId) ++
        order.filterMap (activeDriver registrations selected options factories) := by
  induction order generalizing s with
  | nil => simp [activateAll]
  | cons type order ih =>
    rw [activateAll]
    dsimp only
    rw [ih, drivers_activate, List.append_assoc, List.filterMap_cons]
    cases activeDriver registrations selected options factories type <;> rfl

theorem mem_types_of_provides (h : Registry registrations)
    (hprovides : Provides registrations options type driverId) :
    type ∈ types registrations options := by
  obtain ⟨henabled, r, hr, rfl, -⟩ := hprovides
  rw [types, List.mem_dedup, List.mem_map]
  refine ⟨r, List.mem_filter.mpr ⟨hr, ?_⟩, rfl⟩
  simp [h.factory r hr, controllerTypeEnabled, henabled]

/-- **The managers of a system**: whatever was registered before, and in whatever order the families
are visited, a driver has a manager just when it is the preferred one of a family and its factory
makes a manager of that family. No driver has two managers, and no family has. -/
theorem active_iff (calls : List ControllerManagerRegistration)
    (saved : Table ByteString ByteString) (options : SystemOptions) (factories : Factories)
    {order : List ByteString} (horder : order.Perm (types (registeredAfter calls) options)) :
    let drivers := (activateAll (registeredAfter calls) (selectedDrivers saved options) options
      factories {} order).1.managers.map (·.driverId)
    (∀ driverId, driverId ∈ drivers ↔ ∃ type, factories driverId = some type ∧
      Preferred (registeredAfter calls) options ((selectedDrivers saved options).lookup type) type
        driverId) ∧
      (drivers.map factories).Nodup := by
  have hregistry := registry_registeredAfter calls
  intro drivers
  have hdrivers : drivers = order.filterMap
      (activeDriver (registeredAfter calls) (selectedDrivers saved options) options factories) :=
    drivers_activateAll {} order
  have hactive (type driverId : ByteString) :
      activeDriver (registeredAfter calls) (selectedDrivers saved options) options factories type =
          some driverId ↔
        factories driverId = some type ∧ Preferred (registeredAfter calls) options
          ((selectedDrivers saved options).lookup type) type driverId := by
    rw [activeDriver, Option.filter_eq_some_iff, Option.map_eq_some_iff, selectDriver_iff hregistry]
    simp [and_comm]
  rw [hdrivers]
  refine ⟨fun driverId => ?_, ?_⟩
  · simp only [List.mem_filterMap, hactive]
    constructor
    · rintro ⟨type, -, h⟩
      exact ⟨type, h⟩
    · rintro ⟨type, h⟩
      exact ⟨type, horder.mem_iff.mpr (mem_types_of_provides hregistry h.2.1), h⟩
  · have hfamilies : (order.filterMap (activeDriver (registeredAfter calls)
        (selectedDrivers saved options) options factories)).map factories =
        (order.filter fun type => (activeDriver (registeredAfter calls)
          (selectedDrivers saved options) options factories type).isSome).map some := by
      clear hdrivers horder
      induction order with
      | nil => rfl
      | cons type order ih =>
        rw [List.filterMap_cons, List.filter_cons]
        cases hdriver : activeDriver (registeredAfter calls) (selectedDrivers saved options) options
            factories type with
        | none => simpa using ih
        | some driverId => simpa [((hactive type driverId).mp hdriver).1] using ih
    rw [hfamilies]
    exact ((horder.nodup_iff.mpr (List.nodup_dedup _)).filter _).map fun _ _ => Option.some.inj

/-- A family with a driver that is built in and one that was asked for. -/
theorem active_iff_requested :
    let registration (driverId : UInt8) (builtIn : Bool) : ControllerManagerRegistration :=
      { info := { driverId := [driverId], type := [65], displayName := [], description := [],
                  builtIn := builtIn }
        factory := true }
    let calls := [registration 1 true, registration 2 false]
    let options : SystemOptions := { selectedControllerDrivers := [([65], [2])] }
    let factories : Factories := fun _ => some [65]
    let drivers := (activateAll (registeredAfter calls) (selectedDrivers ∅ options) options
      factories {} [[65]]).1.managers.map (·.driverId)
    (∀ driverId, driverId ∈ drivers ↔ ∃ type, factories driverId = some type ∧
      Preferred (registeredAfter calls) options ((selectedDrivers ∅ options).lookup type) type
        driverId) ∧
      (drivers.map factories).Nodup := by
  intro registration calls options factories
  have horder : [[65]] = types (registeredAfter calls) options := rfl
  exact active_iff calls ∅ options factories (.of_eq horder)

/-! ## The life of the managers -/

/-- The manager was made, and not closed yet. -/
def Open (before : List ManagerEvent) (manager : ℕ) : Prop :=
  (∃ driverId, .create manager driverId ∈ before) ∧ .closeAll manager ∉ before

/-- What may happen after some events: a manager is made once, closed once, and called in between
for its driver. -/
def Allowed (before : List ManagerEvent) : ManagerEvent → Prop
  | .create manager _ => ∀ driverId, .create manager driverId ∉ before
  | .closeAll manager => Open before manager
  | .discover manager => Open before manager
  | .listed manager driverId => Open before manager ∧ .create manager driverId ∈ before
  | .connectController manager driverId => Open before manager ∧ .create manager driverId ∈ before
  | .disconnectController manager driverId =>
    Open before manager ∧ .create manager driverId ∈ before

/-- What holds between a system and what has happened. -/
structure Inv (s : System) (tr : List ManagerEvent) : Prop where
  always : Always Allowed tr
  numbered : ∀ manager driverId, .create manager driverId ∈ tr → manager < s.created
  single : ∀ manager manager' driverId, .create manager driverId ∈ tr →
    .create manager' driverId ∈ tr → manager = manager'
  active : ∀ a ∈ s.managers, .create a.manager a.driverId ∈ tr ∧ .closeAll a.manager ∉ tr
  distinct : (s.managers.map (·.manager)).Nodup
  routed : ∀ driverId manager, s.managerByDriverId.lookup driverId = some manager →
    { driverId, manager } ∈ s.managers
  accounted : ∀ manager driverId, .create manager driverId ∈ tr →
    .closeAll manager ∈ tr ∨ { driverId, manager } ∈ s.managers

theorem inv_init : Inv {} [] where
  always := always_nil
  numbered := by simp
  single := by simp
  active := by simp
  distinct := List.nodup_nil
  routed := by simp
  accounted := by simp

variable {s : System} {tr : List ManagerEvent}

theorem Inv.isOpen (h : Inv s tr) {a : ActiveManager} (ha : a ∈ s.managers) : Open tr a.manager :=
  ⟨⟨a.driverId, (h.active a ha).1⟩, (h.active a ha).2⟩

/-- The next number is that of no manager. -/
theorem Inv.create_notMem (h : Inv s tr) (driverId : ByteString) :
    .create s.created driverId ∉ tr := fun hmem => Nat.lt_irrefl _ (h.numbered _ _ hmem)

theorem Inv.closeAll_notMem (h : Inv s tr) : .closeAll s.created ∉ tr := by
  intro hmem
  obtain ⟨before, after, rfl⟩ := List.append_of_mem hmem
  obtain ⟨⟨driverId, hcreate⟩, -⟩ := h.always _ _ _ rfl
  exact h.create_notMem driverId (List.mem_append_left _ hcreate)

/-- The manager of a driver that has none yet is made. -/
theorem Inv.create (h : Inv s tr) (hnew : ∀ manager, .create manager driverId ∉ tr) :
    Inv { s with
        created := s.created + 1
        managerByDriverId := AList.insert driverId s.created s.managerByDriverId
        managers := s.managers ++ [{ driverId, manager := s.created }] }
      (tr ++ [.create s.created driverId]) where
  always := h.always.concat h.create_notMem
  numbered manager driverId' hmem := by
    rcases List.mem_append.mp hmem with hmem | hmem
    · exact Nat.lt_succ_of_lt (h.numbered _ _ hmem)
    · cases List.mem_singleton.mp hmem
      exact Nat.lt_succ_self _
  single manager manager' driverId' hmem hmem' := by
    rcases List.mem_append.mp hmem with hmem | hmem <;>
      rcases List.mem_append.mp hmem' with hmem' | hmem'
    · exact h.single _ _ _ hmem hmem'
    · cases List.mem_singleton.mp hmem'
      exact absurd hmem (hnew manager)
    · cases List.mem_singleton.mp hmem
      exact absurd hmem' (hnew manager')
    · cases List.mem_singleton.mp hmem
      cases List.mem_singleton.mp hmem'
      rfl
  active a ha := by
    have hclose : .closeAll a.manager ∉ [ManagerEvent.create s.created driverId] := by simp
    rcases List.mem_append.mp ha with ha | ha
    · exact ⟨List.mem_append_left _ (h.active a ha).1,
        fun hmem => (List.mem_append.mp hmem).elim (h.active a ha).2 hclose⟩
    · obtain rfl := List.mem_singleton.mp ha
      exact ⟨List.mem_append_right _ (List.mem_singleton_self _),
        fun hmem => (List.mem_append.mp hmem).elim h.closeAll_notMem hclose⟩
  distinct := by
    rw [List.map_append, List.map_singleton, List.nodup_append]
    refine ⟨h.distinct, List.nodup_singleton _, ?_⟩
    rintro manager hmem _ hnew rfl
    obtain ⟨a, ha, hmanager⟩ := List.mem_map.mp hmem
    have hmade := (h.active a ha).1
    rw [hmanager, List.mem_singleton.mp hnew] at hmade
    exact h.create_notMem a.driverId hmade
  routed driverId' manager hlookup := by
    rcases Table.lookup_insert_eq_some.mp hlookup with ⟨rfl, rfl⟩ | ⟨-, hlookup⟩
    · exact List.mem_append_right _ (List.mem_singleton_self _)
    · exact List.mem_append_left _ (h.routed _ _ hlookup)
  accounted manager driverId' hmem := by
    rcases List.mem_append.mp hmem with hmem | hmem
    · exact (h.accounted _ _ hmem).imp (List.mem_append_left _) (List.mem_append_left _)
    · cases List.mem_singleton.mp hmem
      exact .inr (List.mem_append_right _ (List.mem_singleton_self _))

/-- A manager is closed, and forgotten by the system. -/
theorem Inv.close (h : Inv s tr) {a : ActiveManager} {managers : List ActiveManager}
    (hmanagers : s.managers.Perm (a :: managers)) {managerByDriverId : Table ByteString ℕ}
    (hrouted : ∀ driverId manager, managerByDriverId.lookup driverId = some manager →
      { driverId, manager } ∈ managers) :
    Inv { s with managers := managers, managerByDriverId := managerByDriverId }
      (tr ++ [.closeAll a.manager]) := by
  have hmem (b : ActiveManager) : b ∈ s.managers ↔ b = a ∨ b ∈ managers := by
    rw [hmanagers.mem_iff, List.mem_cons]
  have hdistinct := (hmanagers.map (·.manager)).nodup_iff.mp h.distinct
  rw [List.map_cons, List.nodup_cons] at hdistinct
  have hcreate (manager : ℕ) (driverId : ByteString) :
      .create manager driverId ∈ tr ++ [.closeAll a.manager] ↔ .create manager driverId ∈ tr := by
    simp
  refine ⟨h.always.concat (h.isOpen ((hmem a).mpr (.inl rfl))), ?_, ?_, fun b hb => ?_,
    hdistinct.2, hrouted, fun manager driverId hmade => ?_⟩
  · simpa only [hcreate] using h.numbered
  · simpa only [hcreate] using h.single
  · have hactive := h.active b ((hmem b).mpr (.inr hb))
    refine ⟨(hcreate _ _).mpr hactive.1, fun hclosed => ?_⟩
    rcases List.mem_append.mp hclosed with hclosed | hclosed
    · exact hactive.2 hclosed
    · rw [List.mem_singleton, ManagerEvent.closeAll.injEq] at hclosed
      exact hdistinct.1 (hclosed ▸ List.mem_map_of_mem hb)
  · rcases h.accounted _ _ ((hcreate _ _).mp hmade) with hclosed | hactive
    · exact .inl (List.mem_append_left _ hclosed)
    · rcases (hmem _).mp hactive with rfl | hactive
      · exact .inl (List.mem_append_right _ (List.mem_singleton_self _))
      · exact .inr hactive

/-- What is made in a visit to a family is of the driver that is chosen for it. -/
theorem create_activate {manager : ℕ}
    (h : .create manager driverId ∈
      (activate registrations selected options factories s type).2) :
    ∃ r, selectDriver (registrationsByType registrations options type) (selected.lookup type) =
      some r ∧ r.info.driverId = driverId := by
  rw [activate] at h
  split at h
  · simp at h
  · rename_i r hr
    refine ⟨r, hr, ?_⟩
    dsimp only at h
    split at h
    · simp at h
    · split at h <;> simp at h <;> exact h.2.symm

/-- One visit to a family, whose driver has no manager yet. -/
theorem Inv.activate (h : Inv s tr)
    (hnew : ∀ r, selectDriver (registrationsByType registrations options type)
      (selected.lookup type) = some r → ∀ manager, .create manager r.info.driverId ∉ tr) :
    Inv (activate registrations selected options factories s type).1
      (tr ++ (activate registrations selected options factories s type).2) := by
  rw [System.activate]
  split
  · simpa using h
  · rename_i r hr
    dsimp only
    split
    · simpa using h
    · have hcreate := h.create (hnew r hr)
      split
      · have hclose := hcreate.close (a := { driverId := r.info.driverId, manager := s.created })
          (List.perm_append_singleton _ _) h.routed
        rwa [List.append_assoc] at hclose
      · exact hcreate

theorem Inv.activateAll (hregistry : Registry registrations) {order : List ByteString}
    (h : Inv s tr) (horder : order.Nodup)
    (hnew : ∀ type ∈ order, ∀ r, selectDriver (registrationsByType registrations options type)
      (selected.lookup type) = some r → ∀ manager, .create manager r.info.driverId ∉ tr) :
    Inv (activateAll registrations selected options factories s order).1
      (tr ++ (activateAll registrations selected options factories s order).2) := by
  induction order generalizing s tr with
  | nil => simpa [System.activateAll] using h
  | cons type order ih =>
    rw [System.activateAll]
    dsimp only
    rw [← List.append_assoc]
    obtain ⟨htype, horder⟩ := List.nodup_cons.mp horder
    refine ih (h.activate (hnew type List.mem_cons_self)) horder fun type' htype' r hr manager
      hmem => ?_
    rcases List.mem_append.mp hmem with hmem | hmem
    · exact hnew type' (List.mem_cons_of_mem _ htype') r hr manager hmem
    · -- one driver serves one family
      obtain ⟨r', hr', hid⟩ := create_activate hmem
      obtain ⟨-, hmem, hfamily⟩ := (mem_registrationsByType hregistry).mp (selectDriver_mem hr)
      obtain ⟨-, hmem', hfamily'⟩ := (mem_registrationsByType hregistry).mp (selectDriver_mem hr')
      obtain rfl := hregistry.eq_of_driverId hmem' hmem hid
      exact htype (hfamily'.symm.trans hfamily ▸ htype')

end Activate

section Calls

variable {s : System} {tr : List ManagerEvent}

/-- A call on managers that are open makes none and closes none. -/
def IsCall (s : System) : ManagerEvent → Prop
  | .create _ _ => False
  | .closeAll _ => False
  | .discover manager => ∃ a ∈ s.managers, a.manager = manager
  | .listed manager driverId => { driverId, manager } ∈ s.managers
  | .connectController manager driverId => { driverId, manager } ∈ s.managers
  | .disconnectController manager driverId => { driverId, manager } ∈ s.managers

theorem Inv.append_call (h : Inv s tr) {e : ManagerEvent} (he : IsCall s e) :
    Inv s (tr ++ [e]) := by
  have hcreate (manager : ℕ) (driverId : ByteString) :
      .create manager driverId ∈ tr ++ [e] ↔ .create manager driverId ∈ tr := by
    cases e <;> simp_all [IsCall]
  have hclose (manager : ℕ) : .closeAll manager ∈ tr ++ [e] ↔ .closeAll manager ∈ tr := by
    cases e <;> simp_all [IsCall]
  refine ⟨h.always.concat ?_, ?_, ?_, ?_, h.distinct, h.routed, ?_⟩
  · cases e with
    | create manager driverId => exact he.elim
    | closeAll manager => exact he.elim
    | discover manager =>
      obtain ⟨a, ha, rfl⟩ := he
      exact h.isOpen ha
    | listed manager driverId => exact ⟨h.isOpen he, (h.active _ he).1⟩
    | connectController manager driverId => exact ⟨h.isOpen he, (h.active _ he).1⟩
    | disconnectController manager driverId => exact ⟨h.isOpen he, (h.active _ he).1⟩
  · simpa only [hcreate] using h.numbered
  · simpa only [hcreate] using h.single
  · simpa only [hcreate, hclose] using h.active
  · simpa only [hcreate, hclose] using h.accounted

theorem Inv.append_calls (h : Inv s tr) {events : List ManagerEvent}
    (hevents : ∀ e ∈ events, IsCall s e) : Inv s (tr ++ events) := by
  induction events generalizing tr with
  | nil => rwa [List.append_nil]
  | cons e events ih =>
    rw [List.append_cons]
    exact ih (h.append_call (hevents e List.mem_cons_self)) fun e' he' =>
      hevents e' (List.mem_cons_of_mem _ he')

/-- The managers are closed one after the other. -/
theorem Inv.closeManagers (h : Inv s tr) {managers : List ActiveManager}
    (hmanagers : s.managers.Perm managers) :
    Inv { s with managers := [], managerByDriverId := ∅, shutdownComplete := true }
      (tr ++ managers.map fun active => .closeAll active.manager) := by
  induction managers generalizing s tr with
  | nil =>
    have haccounted := h.accounted
    rw [hmanagers.eq_nil] at haccounted
    rw [List.map_nil, List.append_nil]
    exact ⟨h.always, h.numbered, h.single, by simp, List.nodup_nil, by simp, haccounted⟩
  | cons a managers ih =>
    rw [List.map_cons, List.append_cons]
    have hclose : Inv { s with managers := managers, managerByDriverId := ∅ }
        (tr ++ [.closeAll a.manager]) := h.close hmanagers (by simp)
    have hrest := ih hclose (.refl _)
    exact hrest

theorem Inv.shutdown (h : Inv s tr) : Inv s.shutdown.1 (tr ++ s.shutdown.2) := by
  rw [System.shutdown]
  split
  · simpa using h
  · exact h.closeManagers (List.reverse_perm _).symm

theorem Inv.call (h : Inv s tr) (c : Call) : Inv (s.call c).1 (tr ++ (s.call c).2) := by
  cases c with
  | discoverControllers answers =>
    refine h.append_calls fun e he => ?_
    obtain ⟨a, ha, he⟩ := List.mem_flatMap.mp he
    rcases List.mem_cons.mp he with rfl | he
    · exact ⟨a, ha, rfl⟩
    · rw [List.eq_of_mem_replicate he]
      exact ha
  | connectController driverId =>
    refine h.append_calls fun e he => ?_
    dsimp only [System.call, connectController] at he
    split at he
    · cases he
    · rename_i manager hmanager
      rw [List.mem_singleton.mp he]
      exact h.routed _ _ hmanager
  | disconnectController driverId =>
    refine h.append_calls fun e he => ?_
    dsimp only [System.call, disconnectController] at he
    split at he
    · cases he
    · rename_i manager hmanager
      rw [List.mem_singleton.mp he]
      exact h.routed _ _ hmanager
  | shutdown => exact h.shutdown

theorem Inv.calls (h : Inv s tr) (cs : List Call) : Inv (s.calls cs).1 (tr ++ (s.calls cs).2) := by
  induction cs generalizing s tr with
  | nil => simpa [System.calls] using h
  | cons c cs ih =>
    rw [System.calls]
    dsimp only
    rw [← List.append_assoc]
    exact ih (h.call c)

/-- A system that was shut down has no managers. -/
def ShutDown (s : System) : Prop := s.shutdownComplete = true → s.managers = []

theorem shutDown_shutdown (h : ShutDown s) : s.shutdown.1.managers = [] := by
  rw [System.shutdown]
  split
  · rename_i hcomplete
    exact h hcomplete
  · rfl

theorem shutDown_calls (h : ShutDown s) (cs : List Call) : ShutDown (s.calls cs).1 := by
  induction cs generalizing s with
  | nil => exact h
  | cons c cs ih =>
    refine ih ?_
    cases c with
    | shutdown => exact fun _ => shutDown_shutdown h
    | _ => exact h

end Calls

theorem shutdownComplete_activate {selected : Table ByteString ByteString} {factories : Factories}
    (s : System) (type : ByteString) :
    (activate registrations selected options factories s type).1.shutdownComplete =
      s.shutdownComplete := by
  rw [activate]
  split
  · rfl
  · dsimp only
    split
    · rfl
    · split <;> rfl

theorem shutdownComplete_activateAll {selected : Table ByteString ByteString}
    {factories : Factories} (s : System) (order : List ByteString) :
    (activateAll registrations selected options factories s order).1.shutdownComplete =
      s.shutdownComplete := by
  induction order generalizing s with
  | nil => rfl
  | cons type order ih =>
    rw [activateAll]
    dsimp only
    rw [ih, shutdownComplete_activate]

/-- **The life of a system**, with any calls in any order: a manager is called only after it was
made and before it was closed, every manager is closed once, and a controller is connected through
the manager that has listed it. -/
theorem life_spec (calls : List ControllerManagerRegistration)
    (saved : Table ByteString ByteString) (options : SystemOptions) (factories : Factories)
    {order : List ByteString} (horder : order.Nodup) (cs : List Call) :
    let tr := life (registeredAfter calls) (selectedDrivers saved options) options factories order
      cs
    Always Allowed tr ∧
      (∀ manager driverId, .create manager driverId ∈ tr → .closeAll manager ∈ tr) ∧
      ∀ manager manager' driverId, .listed manager driverId ∈ tr →
        .connectController manager' driverId ∈ tr → manager = manager' := by
  intro tr
  have hmade : Inv (activateAll (registeredAfter calls) (selectedDrivers saved options) options
      factories {} order).1 ([] ++ (activateAll (registeredAfter calls)
        (selectedDrivers saved options) options factories {} order).2) :=
    inv_init.activateAll (registry_registeredAfter calls) horder (by simp)
  have hend := (hmade.calls cs).shutdown
  have hshut : ShutDown (activateAll (registeredAfter calls) (selectedDrivers saved options) options
      factories {} order).1 := by
    intro hcomplete
    rw [shutdownComplete_activateAll] at hcomplete
    cases hcomplete
  have hnone := shutDown_shutdown (shutDown_calls hshut cs)
  have htr : tr = [] ++ (activateAll (registeredAfter calls) (selectedDrivers saved options) options
      factories {} order).2 ++ ((activateAll (registeredAfter calls)
        (selectedDrivers saved options) options factories {} order).1.calls cs).2 ++
      ((activateAll (registeredAfter calls) (selectedDrivers saved options) options factories {}
        order).1.calls cs).1.shutdown.2 := rfl
  rw [← htr] at hend
  refine ⟨hend.always, fun manager driverId hcreate => ?_,
    fun manager manager' driverId hlisted hconnect => ?_⟩
  · refine (hend.accounted _ _ hcreate).resolve_right ?_
    rw [hnone]
    exact List.not_mem_nil
  · obtain ⟨before, after, heq⟩ := List.append_of_mem hlisted
    obtain ⟨before', after', heq'⟩ := List.append_of_mem hconnect
    have hcreate := (hend.always _ _ _ heq).2
    have hcreate' := (hend.always _ _ _ heq').2
    refine hend.single _ _ driverId ?_ ?_
    · rw [heq]
      exact List.mem_append_left _ hcreate
    · rw [heq']
      exact List.mem_append_left _ hcreate'

/-- A system with one manager that lists two controllers, and another that is closed at once. -/
theorem life_spec_mismatch :
    let registration (driverId type : UInt8) : ControllerManagerRegistration :=
      { info := { driverId := [driverId], type := [type], displayName := [], description := [] }
        factory := true }
    let tr := life (registeredAfter [registration 1 65, registration 2 66])
      (selectedDrivers ∅ {}) {}
      (fun _ => some [65]) [[66], [65]]
      [.discoverControllers fun _ => 2, .connectController [1], .shutdown]
    Always Allowed tr ∧
      (∀ manager driverId, .create manager driverId ∈ tr → .closeAll manager ∈ tr) ∧
      ∀ manager manager' driverId, .listed manager driverId ∈ tr →
        .connectController manager' driverId ∈ tr → manager = manager' :=
  life_spec _ _ _ _ (by decide) _

end System

end LiberaLaser
