import LiberaLaser.Backends.Idn.Discovery

/-!
# The ids of IDN controllers

A controller is found again, and told from the others, by its id. No scan lists two controllers
under one id (`discover_nodup`): a service is given away once, and an id that is made of an index is
never that of a service. And while the SDK shows the same slots and the hosts announce the same
services, in whatever order their answers come, every scan lists the same ids in the same slots
(`scans_stable`), although the services of hosts with one name are told apart by nothing else.
-/

namespace LiberaLaser

namespace Idn

open ByteString Hexadecimal

/-! ## The two kinds of ids -/

/-- The id names a service. The other ids have a `u` after the first dash, which is no digit. -/
def IsServiceId (id : ByteString) : Prop := id.getD 4 0 ≠ 117

theorem not_isServiceId_fallback (index : ℕ) : ¬IsServiceId (makeFallbackControllerId index) := by
  intro h
  exact h rfl

theorem makeFallbackControllerId_inj {i j : ℕ}
    (h : makeFallbackControllerId i = makeFallbackControllerId j) : i = j :=
  Avb.decimal_inj (List.append_cancel_left (List.append_cancel_left h))

theorem isServiceId_announced (servers : List ServerInfo) :
    ∀ a ∈ discoverIdnServices servers, IsServiceId a.service.controllerId := by
  intro a h
  obtain ⟨server, -, h⟩ := List.mem_flatMap.mp h
  rw [announcedServices] at h
  split at h
  · cases h
  · obtain ⟨service, -, rfl⟩ := List.mem_map.mp h
    obtain ⟨unitID, hlength⟩ := server.unitID
    cases unitID with
    | nil => cases hlength
    | cons b unitID =>
      have hdigit : ∀ d, lower.digit d ≠ 117 := by decide
      exact hdigit _

/-! ## Matching -/

section Match

variable {services services' : List DiscoveredIdnService} {preferred : Option ByteString}
  {used : List ByteString} {service : DiscoveredIdnService} {id : ByteString}

theorem matchDiscoveredService_eq_some
    (h : matchDiscoveredService services preferred used = some service) :
    service ∈ services ∧ service.controllerId ∉ used := by
  rw [matchDiscoveredService] at h
  split at h
  · rename_i found hfound
    cases h
    obtain ⟨id, -, hfind⟩ := Option.bind_eq_some_iff.mp hfound
    have hfree := List.find?_some hfind
    simp only [decide_eq_true_eq] at hfree
    exact ⟨List.mem_of_find?_eq_some hfind, hfree.2⟩
  · exact ⟨List.mem_of_find?_eq_some h, by simpa using List.find?_some h⟩

theorem matchDiscoveredService_eq_none_iff :
    matchDiscoveredService services preferred used = none ↔
      ∀ s ∈ services, s.controllerId ∈ used := by
  constructor
  · intro h s hs
    rw [matchDiscoveredService] at h
    split at h
    · cases h
    · simpa using List.find?_eq_none.mp h s hs
  · intro h
    cases hmatch : matchDiscoveredService services preferred used with
    | none => rfl
    | some service =>
      obtain ⟨hmem, hfree⟩ := matchDiscoveredService_eq_some hmatch
      exact absurd (h service hmem) hfree

/-- A preferred service that is there and not taken is the one. -/
theorem matchDiscoveredService_preferred (hs : service ∈ services)
    (hfree : service.controllerId ∉ used) :
    ∃ s, matchDiscoveredService services (some service.controllerId) used = some s ∧
      s.controllerId = service.controllerId := by
  rw [matchDiscoveredService, Option.bind_some]
  cases hfind : services.find? fun s => s.controllerId = service.controllerId ∧
      s.controllerId ∉ used with
  | none => exact absurd (decide_eq_true ⟨rfl, hfree⟩) (List.find?_eq_none.mp hfind service hs)
  | some s =>
    have hs := List.find?_some hfind
    simp only [decide_eq_true_eq] at hs
    exact ⟨s, rfl, hs.1⟩

end Match

section MatchSlot

variable {snapshot snapshot' : List Announcement} {sdkLabel : ByteString}
  {preferred preferred' : Option ByteString} {used : List ByteString}
  {service : DiscoveredIdnService}

theorem mem_servicesByLabel {label : ByteString} :
    service ∈ servicesByLabel snapshot label ↔
      ∃ a ∈ snapshot, a.sdkLabel = label ∧ a.service = service := by
  simp [servicesByLabel, and_assoc]

theorem mem_servicesByIp {ip : ByteString} :
    service ∈ servicesByIp snapshot ip ↔ ∃ a ∈ snapshot, a.ip = ip ∧ a.service = service := by
  simp [servicesByIp, and_assoc]

/-- The service of a slot was announced, and no earlier slot has taken it. -/
theorem matchSlot_eq_some (h : matchSlot snapshot sdkLabel preferred used = some service) :
    (∃ a ∈ snapshot, a.service = service) ∧ service.controllerId ∉ used := by
  rw [matchSlot] at h
  split at h
  · rename_i found hfound
    cases h
    obtain ⟨hmem, hfree⟩ := matchDiscoveredService_eq_some hfound
    obtain ⟨a, ha, -, hservice⟩ := mem_servicesByLabel.mp hmem
    exact ⟨⟨a, ha, hservice⟩, hfree⟩
  · split at h
    · cases h
    · obtain ⟨hmem, hfree⟩ := matchDiscoveredService_eq_some h
      obtain ⟨a, ha, -, hservice⟩ := mem_servicesByIp.mp hmem
      exact ⟨⟨a, ha, hservice⟩, hfree⟩

/-- **The service that a slot had is the one it gets again**, where the same services are announced
and the same are taken. A slot without one gets none. -/
theorem matchSlot_again (hsame : ∀ a, a ∈ snapshot' ↔ a ∈ snapshot) (sdkLabel : ByteString)
    (preferred preferred' : Option ByteString) (used : List ByteString) :
    (matchSlot snapshot sdkLabel preferred used = none →
        matchSlot snapshot' sdkLabel preferred' used = none) ∧
      ∀ service, matchSlot snapshot sdkLabel preferred used = some service →
        ∃ s, matchSlot snapshot' sdkLabel (some service.controllerId) used = some s ∧
          s.controllerId = service.controllerId := by
  have hlabel (service : DiscoveredIdnService) (label : ByteString) :
      service ∈ servicesByLabel snapshot' label ↔ service ∈ servicesByLabel snapshot label := by
    simp only [mem_servicesByLabel, hsame]
  have hip (service : DiscoveredIdnService) (ip : ByteString) :
      service ∈ servicesByIp snapshot' ip ↔ service ∈ servicesByIp snapshot ip := by
    simp only [mem_servicesByIp, hsame]
  have hnone (label : ByteString) (p p' : Option ByteString) :
      matchDiscoveredService (servicesByLabel snapshot' label) p' used = none ↔
        matchDiscoveredService (servicesByLabel snapshot label) p used = none := by
    simp only [matchDiscoveredService_eq_none_iff, hlabel]
  unfold matchSlot
  cases hfirst : matchDiscoveredService
      (servicesByLabel snapshot (truncateToSdkNameLength sdkLabel)) preferred used with
  | some found =>
    refine ⟨nofun, fun service h => ?_⟩
    cases h
    obtain ⟨hmem, hfree⟩ := matchDiscoveredService_eq_some hfirst
    obtain ⟨s, hs, hid⟩ := matchDiscoveredService_preferred ((hlabel _ _).mpr hmem) hfree
    exact ⟨s, by rw [hs], hid⟩
  | none =>
    rw [(hnone _ preferred preferred').mpr hfirst]
    cases labelIp sdkLabel with
    | none => exact ⟨fun _ => rfl, nofun⟩
    | some ip =>
      refine ⟨fun h => ?_, fun service h => ?_⟩
      · rw [matchDiscoveredService_eq_none_iff] at h ⊢
        exact fun s hs => h s ((hip s ip).mp hs)
      · rw [(hnone _ preferred (some service.controllerId)).mpr hfirst]
        obtain ⟨hmem, hfree⟩ := matchDiscoveredService_eq_some h
        exact matchDiscoveredService_preferred ((hip _ _).mpr hmem) hfree

end MatchSlot

/-! ## No id is listed twice -/

/-- Every id that is kept for a slot is that of a service, or it is made of the index. -/
def IdnManager.Cached (m : IdnManager) : Prop :=
  m.stableControllerIdByIndex.Forall fun index id =>
    IsServiceId id ∨ id = makeFallbackControllerId index

/-- What holds of a scan before the slot with an index. -/
structure Scan.Distinct (index : ℕ) (scan : Scan) : Prop where
  listed : scan.results.map (·.idValue) = scan.usedControllerIds.reverse
  nodup : scan.usedControllerIds.Nodup
  used : ∀ id ∈ scan.usedControllerIds,
    IsServiceId id ∨ ∃ i < index, id = makeFallbackControllerId i
  cached : scan.toIdnManager.Cached

section Distinct

variable {snapshot : List Announcement} {scan : Scan} {index : ℕ}

/-- The service and the id of an open slot. -/
def slotMatch (snapshot : List Announcement) (scan : Scan) (index : ℕ) (slot : SdkSlot) :
    Option DiscoveredIdnService :=
  matchSlot snapshot (slot.sdkLabel index) (scan.stableControllerIdByIndex.lookup index)
    scan.usedControllerIds

def slotIdentity (snapshot : List Announcement) (scan : Scan) (index : ℕ) (slot : SdkSlot) :
    ByteString × ByteString × ℕ :=
  separate scan.usedControllerIds index
    (identity scan.toIdnManager index (slotMatch snapshot scan index slot))

theorem visit_of_not_isOpen {slot : SdkSlot} (h : slot.isOpen = false) :
    visit snapshot scan index slot = scan := by
  rw [visit, h]
  rfl

section Open

variable {slot : SdkSlot}

theorem visit_manager (h : slot.isOpen = true) :
    (visit snapshot scan index slot).toIdnManager =
      { stableUnitIdByIndex :=
          AList.insert index (slotIdentity snapshot scan index slot).1 scan.stableUnitIdByIndex
        stableControllerIdByIndex :=
          AList.insert index (slotIdentity snapshot scan index slot).2.1
            scan.stableControllerIdByIndex } := by
  rw [visit, h]
  rfl

theorem visit_used (h : slot.isOpen = true) :
    (visit snapshot scan index slot).usedControllerIds =
      (slotIdentity snapshot scan index slot).2.1 :: scan.usedControllerIds := by
  rw [visit, h]
  rfl

theorem visit_seen (h : slot.isOpen = true) :
    (visit snapshot scan index slot).seenIndices = index :: scan.seenIndices := by
  rw [visit, h]
  rfl

/-- The index and the id under which a controller is listed. -/
def IdnControllerInfo.place (info : IdnControllerInfo) : ℕ × ByteString :=
  (info.index, info.idValue)

theorem visit_places (h : slot.isOpen = true) :
    (visit snapshot scan index slot).results.map IdnControllerInfo.place =
      scan.results.map IdnControllerInfo.place ++
        [(index, (slotIdentity snapshot scan index slot).2.1)] := by
  rw [visit, h]
  simp [IdnControllerInfo.place, slotIdentity, slotMatch]

end Open

/-- **The id of a slot is new**, and of one of the two kinds. -/
theorem Scan.Distinct.slotIdentity_new (h : scan.Distinct index)
    (hsnapshot : ∀ a ∈ snapshot, IsServiceId a.service.controllerId) (slot : SdkSlot) :
    (slotIdentity snapshot scan index slot).2.1 ∉ scan.usedControllerIds ∧
      (IsServiceId (slotIdentity snapshot scan index slot).2.1 ∨
        (slotIdentity snapshot scan index slot).2.1 = makeFallbackControllerId index) := by
  rw [slotIdentity, separate]
  split
  · refine ⟨fun hmem => ?_, .inr rfl⟩
    rcases h.used _ hmem with hservice | ⟨i, hi, heq⟩
    · exact not_isServiceId_fallback index hservice
    · exact absurd (makeFallbackControllerId_inj heq) (Nat.ne_of_gt hi)
  · rename_i hfree
    refine ⟨hfree, ?_⟩
    unfold identity
    split
    · rename_i service hmatch
      obtain ⟨⟨a, ha, rfl⟩, -⟩ := matchSlot_eq_some hmatch
      exact .inl (hsnapshot a ha)
    · split
      · rename_i hid
        exact h.cached _ _ hid
      · exact .inr rfl

theorem Scan.Distinct.visit (h : scan.Distinct index)
    (hsnapshot : ∀ a ∈ snapshot, IsServiceId a.service.controllerId) (slot : SdkSlot) :
    (visit snapshot scan index slot).Distinct (index + 1) := by
  cases hopen : slot.isOpen with
  | false =>
    rw [visit_of_not_isOpen hopen]
    exact
      { h with
        used := fun id hid => (h.used id hid).imp_right fun ⟨i, hi, heq⟩ =>
          ⟨i, Nat.lt_succ_of_lt hi, heq⟩ }
  | true =>
    obtain ⟨hnew, hkind⟩ := h.slotIdentity_new hsnapshot slot
    have hplaces : (Idn.visit snapshot scan index slot).results.map IdnControllerInfo.place =
        scan.results.map IdnControllerInfo.place ++
          [(index, (slotIdentity snapshot scan index slot).2.1)] := visit_places hopen
    replace hplaces := congrArg (List.map Prod.snd) hplaces
    simp only [List.map_append, List.map_map] at hplaces
    refine ⟨?_, ?_, ?_, ?_⟩
    · rw [visit_used hopen, List.reverse_cons, ← h.listed]
      exact hplaces
    · rw [visit_used hopen]
      exact List.nodup_cons.mpr ⟨hnew, h.nodup⟩
    · rw [visit_used hopen]
      intro id hid
      rcases List.mem_cons.mp hid with rfl | hid
      · exact hkind.imp_right fun heq => ⟨index, Nat.lt_succ_self index, heq⟩
      · exact (h.used id hid).imp_right fun ⟨i, hi, heq⟩ => ⟨i, Nat.lt_succ_of_lt hi, heq⟩
    · rw [visit_manager hopen]
      exact Table.Forall.insert h.cached hkind

theorem Scan.Distinct.visitFrom (hsnapshot : ∀ a ∈ snapshot, IsServiceId a.service.controllerId)
    (slots : List SdkSlot) (h : scan.Distinct index) :
    (visitFrom snapshot scan index slots).Distinct (index + slots.length) := by
  induction slots generalizing scan index with
  | nil => exact h
  | cons slot slots ih =>
    rw [Idn.visitFrom, List.length_cons, Nat.add_comm slots.length, ← Nat.add_assoc]
    exact ih (h.visit hsnapshot slot)

theorem IdnManager.Cached.distinct {m : IdnManager} (h : m.Cached) :
    Scan.Distinct 0 { toIdnManager := m } where
  listed := rfl
  nodup := List.nodup_nil
  used := by simp
  cached := h

theorem IdnManager.Cached.discover {m : IdnManager} (h : m.Cached) (servers : List ServerInfo)
    (slots : List SdkSlot) : (m.discover servers slots).1.Cached := by
  rw [IdnManager.discover]
  split
  · exact h
  · have hscan := h.distinct.visitFrom (isServiceId_announced servers)
      slots
    exact fun index id hid => hscan.cached index id (Table.lookup_of_filter hid)

theorem cached_managerAfter (events : List Event) : (managerAfter events).Cached := by
  refine List.foldlRecOn events IdnManager.apply Table.forall_empty fun m h event _ => ?_
  cases event with
  | discover servers slots => exact IdnManager.Cached.discover h servers slots
  | afterCloseControllers => exact Table.forall_empty

/-- **No scan lists two controllers under one id**, whatever was scanned before, whatever the SDK
shows and whatever the hosts announce. -/
theorem discover_nodup (events : List Event) (servers : List ServerInfo) (slots : List SdkSlot) :
    (((managerAfter events).discover servers slots).2.map (·.idValue)).Nodup := by
  rw [IdnManager.discover]
  split
  · exact List.nodup_nil
  · have hscan := (cached_managerAfter events).distinct.visitFrom
      (isServiceId_announced servers) slots
    rw [hscan.listed]
    exact List.nodup_reverse.mpr hscan.nodup

end Distinct

/-! ## The same ids again -/

/-- What the SDK shows in a slot: nothing, or a name, which it may not have. -/
def SdkSlot.shown (slot : SdkSlot) : Option (Option ByteString) :=
  if slot.isOpen then some slot.name else none

theorem SdkSlot.shown_eq {slot slot' : SdkSlot} (h : slot.shown = slot'.shown) :
    slot'.isOpen = slot.isOpen ∧ (slot.isOpen = true → slot.name = slot'.name) := by
  rw [shown, shown] at h
  cases hopen : slot.isOpen <;> cases hopen' : slot'.isOpen <;> simp_all

section Again

variable {snapshot snapshot' : List Announcement} {scan scan' : Scan} {index : ℕ}

/-- What is kept for an index does not change once its slot was passed. -/
theorem lookup_visitFrom {i : ℕ} (hi : i < index) (slots : List SdkSlot) :
    (visitFrom snapshot scan index slots).stableUnitIdByIndex.lookup i =
        scan.stableUnitIdByIndex.lookup i ∧
      (visitFrom snapshot scan index slots).stableControllerIdByIndex.lookup i =
        scan.stableControllerIdByIndex.lookup i := by
  induction slots generalizing scan index with
  | nil => exact ⟨rfl, rfl⟩
  | cons slot slots ih =>
    rw [visitFrom, (ih (Nat.lt_succ_of_lt hi)).1, (ih (Nat.lt_succ_of_lt hi)).2]
    cases hopen : slot.isOpen with
    | false =>
      rw [visit_of_not_isOpen hopen]
      exact ⟨rfl, rfl⟩
    | true =>
      rw [visit_manager hopen]
      exact ⟨AList.lookup_insert_ne (Nat.ne_of_lt hi), AList.lookup_insert_ne (Nat.ne_of_lt hi)⟩

theorem mem_seen_visitFrom {i : ℕ} (hi : i ∈ scan.seenIndices) (slots : List SdkSlot) :
    i ∈ (visitFrom snapshot scan index slots).seenIndices := by
  induction slots generalizing scan index with
  | nil => exact hi
  | cons slot slots ih =>
    refine ih ?_
    cases hopen : slot.isOpen with
    | false => rwa [visit_of_not_isOpen hopen]
    | true =>
      rw [visit_seen hopen]
      exact List.mem_cons_of_mem _ hi

theorem separate_of_notMem {used : List ByteString} {id : ByteString × ByteString × ℕ}
    (h : id.2.1 ∉ used) : separate used index id = id := if_neg h

/-- A slot that was open is given its id again. -/
theorem slotIdentity_again (h : scan.Distinct index)
    (hsnapshot : ∀ a ∈ snapshot, IsServiceId a.service.controllerId)
    (hsame : ∀ a, a ∈ snapshot' ↔ a ∈ snapshot) {slot slot' : SdkSlot}
    (hname : slot.name = slot'.name) (hused : scan'.usedControllerIds = scan.usedControllerIds)
    {unitId : ByteString}
    (hunit : scan'.stableUnitIdByIndex.lookup index = some unitId)
    (hid : scan'.stableControllerIdByIndex.lookup index =
      some (slotIdentity snapshot scan index slot).2.1) :
    (slotIdentity snapshot' scan' index slot').2.1 =
      (slotIdentity snapshot scan index slot).2.1 := by
  have hnew := (h.slotIdentity_new hsnapshot slot).1
  have hlabel : slot'.sdkLabel index = slot.sdkLabel index := by
    rw [SdkSlot.sdkLabel, SdkSlot.sdkLabel, hname]
  obtain ⟨hnone, hsome⟩ := matchSlot_again hsame (slot.sdkLabel index)
    (scan.stableControllerIdByIndex.lookup index) (scan'.stableControllerIdByIndex.lookup index)
    scan.usedControllerIds
  have hmatch' : slotMatch snapshot' scan' index slot' = matchSlot snapshot' (slot.sdkLabel index)
      (scan'.stableControllerIdByIndex.lookup index) scan.usedControllerIds := by
    rw [slotMatch, hlabel, hused]
  cases hmatch : slotMatch snapshot scan index slot with
  | none =>
    have hidentity :
        (identity scan'.toIdnManager index (slotMatch snapshot' scan' index slot')).2.1 =
          (slotIdentity snapshot scan index slot).2.1 := by
      rw [hmatch', hnone hmatch]
      unfold identity
      rw [hunit, hid]
    rw [slotIdentity, hused, separate_of_notMem, hidentity]
    rwa [hidentity]
  | some service =>
    have hfree := (matchSlot_eq_some hmatch).2
    have hservice : (slotIdentity snapshot scan index slot).2.1 = service.controllerId := by
      rw [slotIdentity, hmatch, separate_of_notMem]
      · rfl
      · exact hfree
    obtain ⟨s, hs, hsid⟩ := hsome service hmatch
    rw [hservice] at hid
    rw [hid] at hmatch'
    rw [hservice, slotIdentity, hmatch', hs, separate_of_notMem]
    · exact hsid
    · rw [hused]
      change s.controllerId ∉ scan.usedControllerIds
      rwa [hsid]

/-- What a scan has kept in the end for the open slots from an index on, another scan starts
with. -/
def Keeps (final scan' : Scan) (index : ℕ) (slots : List SdkSlot) : Prop :=
  ∀ i slot, slots[i]? = some slot → slot.isOpen = true →
    (∃ unitId, scan'.stableUnitIdByIndex.lookup (index + i) = some unitId) ∧
      scan'.stableControllerIdByIndex.lookup (index + i) =
        final.stableControllerIdByIndex.lookup (index + i)

/-- **A scan that starts with what another has kept** lists the same ids in the same slots, where
the slots and the announced services are the same. -/
theorem visitFrom_again (hsnapshot : ∀ a ∈ snapshot, IsServiceId a.service.controllerId)
    (hsame : ∀ a, a ∈ snapshot' ↔ a ∈ snapshot) {slots slots' : List SdkSlot}
    (hslots : slots.map SdkSlot.shown = slots'.map SdkSlot.shown) (h : scan.Distinct index)
    (hused : scan'.usedControllerIds = scan.usedControllerIds)
    (hplaces : scan'.results.map IdnControllerInfo.place =
      scan.results.map IdnControllerInfo.place)
    (hkeeps : Keeps (visitFrom snapshot scan index slots) scan' index slots) :
    (visitFrom snapshot' scan' index slots').results.map IdnControllerInfo.place =
      (visitFrom snapshot scan index slots).results.map IdnControllerInfo.place := by
  induction slots generalizing slots' scan scan' index with
  | nil =>
    obtain rfl : slots' = [] := by simpa using hslots.symm
    exact hplaces
  | cons slot slots ih =>
    obtain ⟨slot', slots', rfl⟩ : ∃ slot' rest, slots' = slot' :: rest :=
      List.exists_cons_of_ne_nil fun hnil => by simp [hnil] at hslots
    obtain ⟨hslot, hslots⟩ := List.cons.inj hslots
    obtain ⟨hopen_eq, hname⟩ := SdkSlot.shown_eq hslot
    rw [visitFrom] at hkeeps
    rw [visitFrom, visitFrom]
    have hrest : Keeps (visitFrom snapshot (visit snapshot scan index slot) (index + 1) slots) scan'
        (index + 1) slots := by
      intro i s hs hopen
      rw [Nat.add_assoc, Nat.add_comm 1 i]
      exact hkeeps (i + 1) s hs hopen
    cases hopen : slot.isOpen with
    | false =>
      rw [hopen] at hopen_eq
      rw [visit_of_not_isOpen hopen] at hrest ⊢
      rw [visit_of_not_isOpen hopen_eq]
      have hdistinct := h.visit hsnapshot slot
      rw [visit_of_not_isOpen hopen] at hdistinct
      exact ih hslots hdistinct hused hplaces hrest
    | true =>
      rw [hopen] at hopen_eq
      obtain ⟨⟨unitId, hunit⟩, hid⟩ := hkeeps 0 slot rfl hopen
      rw [Nat.add_zero] at hunit hid
      rw [(lookup_visitFrom (Nat.lt_succ_self index) slots).2, visit_manager hopen,
        AList.lookup_insert] at hid
      have hagain := slotIdentity_again h hsnapshot hsame (hname hopen) hused hunit hid
      refine ih hslots (h.visit hsnapshot slot) ?_ ?_ fun i s hs hopen' => ?_
      · rw [visit_used hopen, visit_used hopen_eq, hagain, hused]
      · rw [visit_places hopen, visit_places hopen_eq, hagain, hplaces]
      · have hne : index + 1 + i ≠ index := by omega
        rw [visit_manager hopen_eq]
        simp only [AList.lookup_insert_ne hne]
        exact hrest i s hs hopen'

/-- An open slot was kept an id for. -/
theorem keeps_visitFrom (snapshot : List Announcement) (slots : List SdkSlot) (scan : Scan)
    (index : ℕ) :
    ∀ i slot, slots[i]? = some slot → slot.isOpen = true →
      index + i ∈ (visitFrom snapshot scan index slots).seenIndices ∧
        ∃ unitId, (visitFrom snapshot scan index slots).stableUnitIdByIndex.lookup (index + i) =
          some unitId := by
  induction slots generalizing scan index with
  | nil => intro i slot hslot; simp at hslot
  | cons slot slots ih =>
    intro i s hs hopen
    rw [visitFrom]
    cases i with
    | zero =>
      obtain rfl : slot = s := by simpa using hs
      simp only [Nat.add_zero, (lookup_visitFrom (Nat.lt_add_one index) slots).1]
      rw [visit_manager hopen]
      refine ⟨mem_seen_visitFrom ?_ slots, _, AList.lookup_insert _⟩
      rw [visit_seen hopen]
      exact List.mem_cons_self
    | succ i =>
      rw [Nat.add_comm i, ← Nat.add_assoc]
      exact ih _ _ i s hs hopen

theorem lookup_filter_of_mem {t : Table ℕ ByteString} {seen : List ℕ} {i : ℕ} (h : i ∈ seen) :
    (t.filter fun e => decide (e.1 ∈ seen)).lookup i = t.lookup i := by
  refine Option.ext fun id => ?_
  rw [Table.lookup_filter_eq_some]
  simp [h]

/-- **A scan lists what the scan before it has listed**, in the same slots. -/
theorem discover_again {m : IdnManager} (h : m.Cached) {servers servers' : List ServerInfo}
    {slots slots' : List SdkSlot} (hslots : slots.map SdkSlot.shown = slots'.map SdkSlot.shown)
    (hsame : ∀ a, a ∈ discoverIdnServices servers' ↔ a ∈ discoverIdnServices servers) :
    ((m.discover servers slots).1.discover servers' slots').2.map IdnControllerInfo.place =
      (m.discover servers slots).2.map IdnControllerInfo.place := by
  by_cases hslots_nil : slots = []
  · subst hslots_nil
    obtain rfl : slots' = [] := by simpa using hslots.symm
    rfl
  · have hslots_nil' : slots' ≠ [] := by
      rintro rfl
      exact hslots_nil (by simpa using hslots)
    rw [IdnManager.discover, IdnManager.discover, if_neg hslots_nil, if_neg hslots_nil']
    refine visitFrom_again (isServiceId_announced servers) hsame hslots
      h.distinct rfl rfl fun i slot hslot hopen => ?_
    obtain ⟨hseen, unitId, hunit⟩ := keeps_visitFrom (discoverIdnServices servers) slots
      { toIdnManager := m } 0 i slot hslot hopen
    exact ⟨⟨unitId, (lookup_filter_of_mem hseen).trans hunit⟩, lookup_filter_of_mem hseen⟩

/-- A scan where the SDK shows the same slots and the hosts announce the same services. -/
def Rescan (servers : List ServerInfo) (slots : List SdkSlot)
    (scan : List ServerInfo × List SdkSlot) : Prop :=
  slots.map SdkSlot.shown = scan.2.map SdkSlot.shown ∧
    ∀ a, a ∈ discoverIdnServices scan.1 ↔ a ∈ discoverIdnServices servers

/-- What is listed by one scan after the other. -/
def listings (m : IdnManager) : List (List ServerInfo × List SdkSlot) →
    List (List IdnControllerInfo)
  | [] => []
  | scan :: scans => (m.discover scan.1 scan.2).2 :: listings (m.discover scan.1 scan.2).1 scans

/-- **The ids are stable**: from any state that a manager can be in, a scan and all that follow it
list the same ids in the same slots, as long as nothing changes but the order of the answers. -/
theorem scans_stable (events : List Event) (servers : List ServerInfo) (slots : List SdkSlot)
    {scans : List (List ServerInfo × List SdkSlot)}
    (hscans : ∀ scan ∈ scans, Rescan servers slots scan) :
    ∀ infos ∈ listings ((managerAfter events).discover servers slots).1 scans,
      infos.map IdnControllerInfo.place =
        ((managerAfter events).discover servers slots).2.map IdnControllerInfo.place := by
  generalize hm : managerAfter events = m
  have hcached : m.Cached := hm ▸ cached_managerAfter events
  clear hm
  induction scans generalizing m servers slots with
  | nil => simp [listings]
  | cons scan scans ih =>
    obtain ⟨hslots, hsame⟩ := hscans scan List.mem_cons_self
    have hagain := discover_again hcached hslots hsame
    intro infos hinfos
    rcases List.mem_cons.mp hinfos with rfl | hinfos
    · exact hagain
    · rw [← hagain]
      refine ih scan.1 scan.2 (fun scan' hscan' => ?_) _ (hcached.discover servers slots) infos
        hinfos
      obtain ⟨hslots', hsame'⟩ := hscans scan' (List.mem_cons_of_mem _ hscan')
      exact ⟨hslots.symm.trans hslots', fun a => (hsame' a).trans (hsame a).symm⟩

/-- Two hosts of one name, whose answers come the other way round the second time. -/
theorem scans_stable_swapped :
    let host (b : UInt8) : ServerInfo :=
      { unitID := ⟨List.replicate 16 b, rfl⟩
        hostName := [72]
        addressTable := [{ errorFlags := 0, ip := [b] }]
        serviceTable := [{ serviceID := 0, serviceName := [77] }] }
    let slot : SdkSlot :=
      { isClosed := 0, isUsb := 0, name := some [72, 32, 45, 32, 77], firmwareVersion := 1 }
    let first := (managerAfter []).discover [host 0, host 1] [slot, slot]
    ∀ infos ∈ listings first.1 [([host 1, host 0], [slot, slot])],
      infos.map IdnControllerInfo.place = first.2.map IdnControllerInfo.place := by
  intro host slot
  refine scans_stable [] [host 0, host 1] [slot, slot] fun scan hscan => ?_
  obtain rfl := List.mem_singleton.mp hscan
  exact ⟨rfl, fun a => ((List.Perm.swap (host 0) (host 1) []).flatMap_right _).mem_iff⟩

end Again

end Idn

end LiberaLaser
