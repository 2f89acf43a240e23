import LiberaLaser.Backends.Helios.Connection
import LiberaLaser.Backends.Helios.Naming
import LiberaLaser.Foundations.Runs
import LiberaLaser.Foundations.Traces

/-!
# Listing Helios devices

A scan opens every Helios device that libusb lists. One that can be opened tells its name, and one
that cannot is in use, here or elsewhere. The devices are listed in the order of their names; one
whose name is empty or was listed before is given another. The manager remembers the label of every
port, so that a device keeps it while it cannot tell its name, and forgets the ports without a
device.

Two controllers of a scan never share an id, unless both are in use and have one path, or a name is
such that its id may be that of a device in use (`listControllers_spec`). A device is given a name
because it had none once, as long as it stays plugged in (`rename_once`).

What libusb answers comes from outside, and so does the order in which `std::sort` leaves devices
with one name and one path. The flush of a handle, the version that is announced and logs are left
out.
-/

namespace LiberaLaser.Helios

open ByteString Avb Runs Traces

/-! ## Probing a device -/

inductive OpenCode
  | success
  | busy
  | access
  | other
  deriving DecidableEq

/-- How opening a handle goes. -/
structure HandleAnswer where
  code : OpenCode
  claims : Bool
  configures : Bool

inductive HandleState
  | busyExclusive
  | invalid
  | valid
  deriving DecidableEq

/-- The constructor of `ScopedHeliosUsbHandle`. -/
def HandleAnswer.state (answer : HandleAnswer) : HandleState :=
  match answer.code with
  | .busy | .access => .busyExclusive
  | .other => .invalid
  | .success => if answer.claims && answer.configures then .valid else .busyExclusive

/-- A device that libusb lists, and what it answers to a probe. -/
structure ListedDevice where
  isHelios : Bool
  ports : List UInt8
  busNumber : UInt8
  deviceAddress : UInt8
  handle : HandleAnswer
  firmware : Vector FirmwareQuery 2
  product : Option ByteString
  serial : Option ByteString
  names : Vector Exchange 2

structure DirectHeliosUsbProbe where
  portPath : ByteString
  reportedLabel : ByteString := []
  productString : ByteString := []
  serialString : ByteString := []
  firmwareVersion : ℤ := 0
  nameQuerySucceeded : Bool := false
  nameWasEmpty : Bool := false
  deriving DecidableEq

namespace ListedDevice

variable (device : ListedDevice)

def makeHeliosUsbPortPath : ByteString :=
  if device.ports ≠ [] then [45].intercalate (device.ports.map fun port => decimal port.toNat)
  else ofString "bus" ++ decimal device.busNumber.toNat ++ ofString "-dev" ++
    decimal device.deviceAddress.toNat

end ListedDevice

def queryUsbStringDescriptor (answer : Option ByteString) : ByteString :=
  (answer.map trimAsciiWhitespace).getD []

/-- The name in the first answer that has one. -/
def queryHeliosUsbName : List Exchange → Option ByteString
  | [] => none
  | query :: queries =>
    if query.request.Success 2 ∧ query.response.code = .success ∧ 2 ≤ query.response.data.length ∧
        query.response.data.head? = some 0x85 then
      some (((query.response.data.drop 1).take 30).takeWhile (· ≠ 0))
    else queryHeliosUsbName queries

/-- The probe of a Helios device, and whether it is in use elsewhere. -/
def ListedDevice.probe (connectedPortPaths : List ByteString) (device : ListedDevice) :
    Option (DirectHeliosUsbProbe × Bool) :=
  let portPath := device.makeHeliosUsbPortPath
  match device.handle.state with
  | .busyExclusive => some ({ portPath := portPath }, portPath ∉ connectedPortPaths)
  | .invalid => none
  | .valid =>
    let name := queryHeliosUsbName device.names.toList
    some
      ({ portPath := portPath
         reportedLabel := name.getD []
         productString := queryUsbStringDescriptor device.product
         serialString := queryUsbStringDescriptor device.serial
         firmwareVersion := (queryHeliosUsbFirmwareVersion 0 device.firmware).2
         nameQuerySucceeded := name.isSome
         nameWasEmpty := name = some [] }, false)

/-- The probes of the devices, those that are free first. -/
def probes (connectedPortPaths : List ByteString) (devices : List ListedDevice) :
    List DirectHeliosUsbProbe × List DirectHeliosUsbProbe :=
  let all := (devices.filter (·.isHelios)).filterMap (·.probe connectedPortPaths)
  ((all.filter (!·.2)).map (·.1), (all.filter (·.2)).map (·.1))

def seenPortPaths (devices : List ListedDevice) : List ByteString :=
  (devices.filter (·.isHelios)).map (·.makeHeliosUsbPortPath)

/-! ## Listing -/

/-- What the application is told of a controller. -/
structure HeliosControllerInfo where
  id : ByteString
  label : ByteString
  portPath : ByteString
  firmwareVersion : ℤ
  busyExclusive : Bool
  deriving DecidableEq

/-- A name that is sent to a device, because its label was listed before or because it had none,
with whether it was taken; a label that is remembered; the end of a scan; and the end of all. -/
inductive NamingEvent
  | renamed (portPath : ByteString) (duplicate : Bool) (name : ByteString) (taken : Bool)
  | remembered (portPath label : ByteString)
  | scanned (seenPortPaths : List ByteString)
  | cleared
  deriving DecidableEq

/-- What a scan has so far. -/
structure Listing where
  stableLabelByPortPath : Table ByteString ByteString
  usedIds : List ByteString := []
  usedLabels : List ByteString := []
  infos : List HeliosControllerInfo := []
  events : List NamingEvent := []

namespace Listing

variable (s : Listing)

/-- The name of the device, or the label that is remembered, or the default name. -/
def label (probe : DirectHeliosUsbProbe) (preferredDefaultName : ByteString) : ByteString :=
  let label :=
    if probe.reportedLabel = [] then (s.stableLabelByPortPath.lookup probe.portPath).getD []
    else probe.reportedLabel
  if label = [] then preferredDefaultName else label

/-- A free device with its label, which may be remembered. -/
def addFree (index : ℕ) (probe : DirectHeliosUsbProbe) (label : ByteString) (remember : Bool)
    (events : List NamingEvent) : Option Listing := do
  let id ← makeHeliosControllerId label index s.usedIds
  some
    { stableLabelByPortPath :=
        if remember then s.stableLabelByPortPath.insert probe.portPath label
        else s.stableLabelByPortPath
      usedIds := id :: s.usedIds
      usedLabels := label :: s.usedLabels
      infos := s.infos ++ [⟨id, label, probe.portPath, probe.firmwareVersion, false⟩]
      events := s.events ++ events ++ if remember then [.remembered probe.portPath label] else [] }

/-- A pass of the loop over the free devices. -/
def listFree (renames : ℕ → Bool) (index : ℕ) (probe : DirectHeliosUsbProbe) : Option Listing :=
  let hadCachedLabel := (s.stableLabelByPortPath.lookup probe.portPath).isSome
  let preferredDefaultName :=
    makeHeliosUsbDefaultName probe.productString probe.serialString probe.portPath
  let label := s.label probe preferredDefaultName
  if label ∈ s.usedLabels || (probe.nameWasEmpty && !hadCachedLabel) then do
    let name ← makeUniqueRenameLabel index preferredDefaultName
      (if probe.nameWasEmpty then [] else label) s.usedLabels
    s.addFree index probe (if renames index then name else label) true
      [.renamed probe.portPath (label ∈ s.usedLabels) name (renames index)]
  else s.addFree index probe label (probe.nameQuerySucceeded || hadCachedLabel) []

/-- A pass of the loop over the devices in use. -/
def listBusy (index : ℕ) (probe : DirectHeliosUsbProbe) : Option Listing :=
  match (s.stableLabelByPortPath.lookup probe.portPath).filter (· ≠ []) with
  | some label => do
    let id ← makeHeliosControllerId label index s.usedIds
    some
      { s with
        usedIds := id :: s.usedIds
        infos := s.infos ++ [⟨id, label, probe.portPath, 0, true⟩] }
  | none =>
    some
      { s with
        infos := s.infos ++ [⟨makeBusyHeliosControllerId probe.portPath,
          makeBusyHeliosLabel probe.portPath, probe.portPath, 0, true⟩] }

/-- A loop over probes, the first of which has an index. -/
def forProbes (list : Listing → ℕ → DirectHeliosUsbProbe → Option Listing) :
    ℕ → List DirectHeliosUsbProbe → Listing → Option Listing
  | _, [], s => some s
  | index, probe :: probes, s => do
    let s ← list s index probe
    forProbes list (index + 1) probes s

end Listing

/-- What is listed, from the probes in their order. -/
def listControllers (renames : ℕ → Bool) (free busy : List DirectHeliosUsbProbe)
    (stableLabelByPortPath : Table ByteString ByteString) : Option Listing := do
  let s ← Listing.forProbes (fun s => s.listFree renames) 0 free
    { stableLabelByPortPath := stableLabelByPortPath }
  Listing.forProbes Listing.listBusy free.length busy s

/-- The devices are in the order of their names, and of their paths where they have one name. -/
def freeProbeOrder (a b : DirectHeliosUsbProbe) : Prop :=
  a.reportedLabel < b.reportedLabel ∨
    a.reportedLabel = b.reportedLabel ∧ a.portPath ≤ b.portPath

instance : DecidableRel freeProbeOrder := fun _ _ => inferInstanceAs (Decidable (_ ∨ _))

/-- A scan, with the probes in the order of their sorts. -/
structure Scan where
  connectedPortPaths : List ByteString
  devices : List ListedDevice
  renames : ℕ → Bool
  free : List DirectHeliosUsbProbe
  busy : List DirectHeliosUsbProbe

/-- The orders are those that the sorts leave. -/
def Scan.Sorted (scan : Scan) : Prop :=
  scan.free.Perm (probes scan.connectedPortPaths scan.devices).1 ∧
    scan.free.Pairwise freeProbeOrder ∧
    scan.busy.Perm (probes scan.connectedPortPaths scan.devices).2 ∧
    scan.busy.Pairwise (·.portPath ≤ ·.portPath)

instance : DecidablePred Scan.Sorted := fun _ => inferInstanceAs (Decidable (_ ∧ _))

structure HeliosManager where
  stableLabelByPortPath : Table ByteString ByteString := ∅

/-- A call of the manager that names devices. -/
inductive NamingCall
  | discover (scan : Scan)
  | afterCloseControllers

namespace HeliosManager

/-- What a call does. The labels of the ports without a device are forgotten. -/
def step (m : HeliosManager) : NamingCall → Option (HeliosManager × List NamingEvent)
  | .discover scan => do
    guard scan.Sorted
    let s ← listControllers scan.renames scan.free scan.busy m.stableLabelByPortPath
    some
      ({ stableLabelByPortPath :=
           s.stableLabelByPortPath.filter fun e => e.1 ∈ seenPortPaths scan.devices },
        s.events ++ [.scanned (seenPortPaths scan.devices)])
  | .afterCloseControllers => some ({}, [.cleared])

end HeliosManager

/-! ## One scan -/

/-- The id is made of the label. -/
def MadeOf (label id : ByteString) : Prop :=
  id = idBase label ∨ ∃ n, id = numberedId (idBase label) n

/-- Of two controllers with one id, both are in use and have one path, or one is in use and the name
of the other is reserved. -/
def IdsApart (a b : HeliosControllerInfo) : Prop :=
  a.id = b.id → (a.busyExclusive = true ∧ b.busyExclusive = true ∧ a.portPath = b.portPath) ∨
    (b.busyExclusive = true ∧ Reserved a.label) ∨ (a.busyExclusive = true ∧ Reserved b.label)

/-- Of two controllers with one label, the later one did not take the name it was given. -/
def LabelsApart (events : List NamingEvent) (a b : HeliosControllerInfo) : Prop :=
  a.label = b.label → ∃ duplicate name, .renamed b.portPath duplicate name false ∈ events

/-- The name fits into a device. -/
def NamingEvent.Fits : NamingEvent → Prop
  | .renamed _ _ name _ => name ≠ [] ∧ name.length ≤ maxHeliosNameLength
  | _ => True

/-- What holds of a listing, at any point of it. -/
structure Listed (s : Listing) : Prop where
  ids : s.infos.Pairwise IdsApart
  made : ∀ info ∈ s.infos, (info.id ∈ s.usedIds ∧ MadeOf info.label info.id) ∨
    (info.busyExclusive = true ∧ info.id = makeBusyHeliosControllerId info.portPath)
  used : ∀ info ∈ s.infos, info.busyExclusive = false → info.label ∈ s.usedLabels
  labels : (s.infos.filter (!·.busyExclusive)).Pairwise (LabelsApart s.events)
  nonempty : ∀ info ∈ s.infos, info.label ≠ []
  names : ∀ event ∈ s.events, event.Fits

variable {s s' : Listing} {info : HeliosControllerInfo} {probe : DirectHeliosUsbProbe}
  {renames : ℕ → Bool} {index : ℕ}

theorem LabelsApart.mono {events events' : List NamingEvent} {a b : HeliosControllerInfo}
    (h : LabelsApart events a b) (hsub : events ⊆ events') : LabelsApart events' a b := by
  intro hlabel
  obtain ⟨duplicate, name, hmem⟩ := h hlabel
  exact ⟨duplicate, name, hsub hmem⟩

/-- A controller whose id is made of its label and was not in use. -/
theorem Listed.apart_of_fresh (h : Listed s) (hmade : MadeOf info.label info.id)
    (hfresh : info.id ∉ s.usedIds) : ∀ a ∈ s.infos, IdsApart a info := by
  intro a ha hid
  rcases h.made a ha with ⟨hused, -⟩ | ⟨hbusy, hbusyId⟩
  · exact absurd (hid ▸ hused) hfresh
  · exact .inr (.inr ⟨hbusy, reserved_of_eq_busy hmade (hid ▸ hbusyId)⟩)

/-- A controller whose id is made of its path. -/
theorem Listed.apart_of_busy (h : Listed s) (hinfo : info.busyExclusive = true)
    (hid : info.id = makeBusyHeliosControllerId info.portPath) :
    ∀ a ∈ s.infos, IdsApart a info := by
  intro a ha heq
  rcases h.made a ha with ⟨-, hmade⟩ | ⟨hbusy, hbusyId⟩
  · exact .inr (.inl ⟨hinfo, reserved_of_eq_busy hmade (heq.trans hid)⟩)
  · refine .inl ⟨hbusy, hinfo, ?_⟩
    rw [hbusyId, hid] at heq
    exact List.tail_eq_of_cons_eq (List.append_cancel_left heq)

/-- A controller is listed. -/
theorem Listed.add (h : Listed s) (hinfos : s'.infos = s.infos ++ [info])
    (hids : ∀ a ∈ s.infos, IdsApart a info)
    (hmade : (info.id ∈ s'.usedIds ∧ MadeOf info.label info.id) ∨
      (info.busyExclusive = true ∧ info.id = makeBusyHeliosControllerId info.portPath))
    (hused : info.busyExclusive = false → info.label ∈ s'.usedLabels)
    (hlabels : info.busyExclusive = false → info.label ∈ s.usedLabels →
      ∃ duplicate name, .renamed info.portPath duplicate name false ∈ s'.events)
    (hnonempty : info.label ≠ []) (husedIds : s.usedIds ⊆ s'.usedIds)
    (husedLabels : s.usedLabels ⊆ s'.usedLabels) (hevents : s.events ⊆ s'.events)
    (hnames : ∀ event ∈ s'.events, event.Fits) : Listed s' := by
  have hmem {a : HeliosControllerInfo} (ha : a ∈ s'.infos) : a ∈ s.infos ∨ a = info := by
    simpa [hinfos] using ha
  refine ⟨?_, fun a ha => ?_, fun a ha hfree => ?_, ?_, fun a ha => ?_, hnames⟩
  · rw [hinfos, List.pairwise_append]
    refine ⟨h.ids, List.pairwise_singleton _ _, fun a ha b hb => ?_⟩
    rw [List.mem_singleton.mp hb]
    exact hids a ha
  · rcases hmem ha with ha | rfl
    · exact (h.made a ha).imp_left fun hused => ⟨husedIds hused.1, hused.2⟩
    · exact hmade
  · rcases hmem ha with ha | rfl
    · exact husedLabels (h.used a ha hfree)
    · exact hused hfree
  · rw [hinfos, List.filter_append, List.pairwise_append]
    refine ⟨h.labels.imp fun hab => hab.mono hevents,
      (List.pairwise_singleton _ info).sublist List.filter_sublist, fun a ha b hb hlabel => ?_⟩
    obtain ⟨ha, hafree⟩ := List.mem_filter.mp ha
    obtain ⟨hb, hbfree⟩ := List.mem_filter.mp hb
    obtain rfl := List.mem_singleton.mp hb
    rw [Bool.not_eq_true'] at hafree hbfree
    exact hlabels hbfree (hlabel ▸ h.used a ha hafree)
  · rcases hmem ha with ha | rfl
    · exact h.nonempty a ha
    · exact hnonempty

/-- A default name is not empty. -/
theorem makeHeliosUsbDefaultName_ne_nil (productString serialString portPath : ByteString) :
    makeHeliosUsbDefaultName productString serialString portPath ≠ [] := by
  have hpro : ofString "HeliosPro " = 72 :: ofString "eliosPro " := by decide
  have hplain : ofString "helios " = 104 :: ofString "elios " := by decide
  rw [makeHeliosUsbDefaultName]
  dsimp only
  split <;> simp [truncateHeliosName, maxHeliosNameLength, hpro, hplain]

theorem label_ne_nil (s : Listing) (probe : DirectHeliosUsbProbe) {name : ByteString}
    (hname : name ≠ []) : s.label probe name ≠ [] := by
  rw [Listing.label]
  split
  · split
    · exact hname
    · assumption
  · assumption

/-- A free device is listed with a label that was not listed before, or that it was told to
change. -/
theorem addFree_spec (h : Listed s) {label : ByteString} {remember : Bool}
    {events : List NamingEvent} (hlabel : label ≠ []) (hevents : ∀ event ∈ events, event.Fits)
    (hrenamed : label ∈ s.usedLabels →
      ∃ duplicate name, .renamed probe.portPath duplicate name false ∈ events) :
    ∃ s', s.addFree index probe label remember events = some s' ∧ Listed s' ∧
      s'.usedLabels.length = s.usedLabels.length + 1 ∧
      s'.infos.map (·.portPath) = s.infos.map (·.portPath) ++ [probe.portPath] := by
  obtain ⟨id, hid, hfresh, hmade⟩ := exists_makeHeliosControllerId label index s.usedIds
  rw [Listing.addFree, hid]
  refine ⟨_, rfl, h.add rfl (h.apart_of_fresh hmade hfresh) (.inl ⟨List.mem_cons_self, hmade⟩)
    (fun _ => List.mem_cons_self) (fun _ hused => ?_) hlabel (List.subset_cons_self _ _)
    (List.subset_cons_self _ _) ?_ ?_, rfl, by simp⟩
  · obtain ⟨duplicate, name, hmem⟩ := hrenamed hused
    exact ⟨duplicate, name, by simp [hmem]⟩
  · rw [List.append_assoc]
    exact List.subset_append_left _ _
  · intro event hevent
    rcases List.mem_append.mp hevent with hevent | hremembered
    · rcases List.mem_append.mp hevent with hevent | hevent
      · exact h.names event hevent
      · exact hevents event hevent
    · split at hremembered
      · rw [List.mem_singleton.mp hremembered]
        trivial
      · cases hremembered

/-- **A free device is listed**, under another name if it has to be. -/
theorem listFree_spec (h : Listed s) (hused : s.usedLabels.length < 2 ^ 31 - 4) :
    ∃ s', s.listFree renames index probe = some s' ∧ Listed s' ∧
      s'.usedLabels.length = s.usedLabels.length + 1 ∧
      s'.infos.map (·.portPath) = s.infos.map (·.portPath) ++ [probe.portPath] := by
  have hlabel := label_ne_nil s probe
    (makeHeliosUsbDefaultName_ne_nil probe.productString probe.serialString probe.portPath)
  rw [Listing.listFree]
  split
  · obtain ⟨name, hname, hfree, -, hne, hle⟩ := exists_makeUniqueRenameLabel index
      (makeHeliosUsbDefaultName probe.productString probe.serialString probe.portPath)
      (if probe.nameWasEmpty then [] else s.label probe
        (makeHeliosUsbDefaultName probe.productString probe.serialString probe.portPath)) hused
    rw [hname]
    refine addFree_spec h ?_ ?_ fun hmem => ?_
    · split
      · exact hne
      · exact hlabel
    · intro event hevent
      rw [List.mem_singleton.mp hevent]
      exact ⟨hne, hle⟩
    · cases hrename : renames index with
      | true =>
        rw [hrename, if_pos rfl] at hmem
        exact absurd hmem hfree
      | false => exact ⟨_, _, List.mem_singleton_self _⟩
  · rename_i hkept
    refine addFree_spec h hlabel (by simp) fun hmem => ?_
    simp [hmem] at hkept

theorem listBusy_spec (h : Listed s) :
    ∃ s', s.listBusy index probe = some s' ∧ Listed s' ∧
      s'.usedLabels.length = s.usedLabels.length ∧
      s'.infos.map (·.portPath) = s.infos.map (·.portPath) ++ [probe.portPath] := by
  rw [Listing.listBusy]
  split
  · rename_i label hlabel
    obtain ⟨id, hid, hfresh, hmade⟩ := exists_makeHeliosControllerId label index s.usedIds
    rw [hid]
    have hne : label ≠ [] := by simpa using (Option.filter_eq_some_iff.mp hlabel).2
    exact ⟨_, rfl, h.add rfl (h.apart_of_fresh hmade hfresh) (.inl ⟨List.mem_cons_self, hmade⟩)
      (by simp) (by simp) hne (List.subset_cons_self _ _) (List.Subset.refl _)
      (List.Subset.refl _) h.names, rfl, by simp⟩
  · have hword : ofString "Helios USB " = 72 :: ofString "elios USB " := by decide
    refine ⟨_, rfl, h.add rfl (h.apart_of_busy rfl rfl) (.inr ⟨rfl, rfl⟩) (by simp) (by simp) ?_
      (List.Subset.refl _) (List.Subset.refl _) (List.Subset.refl _) h.names, rfl, by simp⟩
    simp [makeBusyHeliosLabel, hword]

/-- A loop over probes that lists them all. -/
theorem forProbes_spec {list : Listing → ℕ → DirectHeliosUsbProbe → Option Listing} {grows : ℕ}
    {limit : ℕ} (hlist : ∀ {s index probe}, Listed s → s.usedLabels.length < limit →
      ∃ s', list s index probe = some s' ∧ Listed s' ∧
        s'.usedLabels.length = s.usedLabels.length + grows ∧
        s'.infos.map (·.portPath) = s.infos.map (·.portPath) ++ [probe.portPath])
    (probes : List DirectHeliosUsbProbe) (h : Listed s)
    (hlimit : s.usedLabels.length + grows * probes.length < limit) :
    ∃ s', Listing.forProbes list index probes s = some s' ∧ Listed s' ∧
      s'.usedLabels.length = s.usedLabels.length + grows * probes.length ∧
      s'.infos.map (·.portPath) = s.infos.map (·.portPath) ++ probes.map (·.portPath) := by
  induction probes generalizing s index with
  | nil => exact ⟨s, rfl, h, rfl, by simp⟩
  | cons probe probes ih =>
    rw [List.length_cons, Nat.mul_succ] at hlimit
    obtain ⟨s₁, hs₁, hlisted, hlength, hports⟩ := hlist h (by omega)
    obtain ⟨s₂, hs₂, hlisted, hlength', hports'⟩ := ih hlisted (by omega)
    refine ⟨s₂, ?_, hlisted, ?_, ?_⟩
    · rw [Listing.forProbes, hs₁]
      exact hs₂
    · rw [hlength', hlength, List.length_cons, Nat.mul_succ]
      omega
    · rw [hports', hports, List.map_cons, List.append_assoc, List.singleton_append]

/-- **Every probe is listed, and no two controllers share an id** but for devices in use. The labels
of two free devices differ, unless the later one was told to change its name and did not. -/
theorem listControllers_spec (renames : ℕ → Bool) (free busy : List DirectHeliosUsbProbe)
    (stableLabelByPortPath : Table ByteString ByteString) (hfree : free.length < 2 ^ 31 - 4) :
    ∃ s, listControllers renames free busy stableLabelByPortPath = some s ∧
      s.infos.map (·.portPath) = (free ++ busy).map (·.portPath) ∧ s.infos.Pairwise IdsApart ∧
      (s.infos.filter (!·.busyExclusive)).Pairwise (LabelsApart s.events) ∧
      (∀ info ∈ s.infos, info.label ≠ []) ∧ ∀ event ∈ s.events, event.Fits := by
  have hinit : Listed { stableLabelByPortPath := stableLabelByPortPath } :=
    ⟨.nil, by simp, by simp, .nil, by simp, by simp⟩
  obtain ⟨s₁, hs₁, hlisted, hlength, hports⟩ := forProbes_spec
    (fun h hused => listFree_spec h hused) free hinit (by simpa using hfree)
  have hlimit : s₁.usedLabels.length + 0 * busy.length < s₁.usedLabels.length + 1 := by omega
  obtain ⟨s₂, hs₂, hlisted, -, hports'⟩ := forProbes_spec
    (fun h _ => listBusy_spec h) busy hlisted hlimit
  refine ⟨s₂, ?_, ?_, hlisted.ids, hlisted.labels, hlisted.nonempty, hlisted.names⟩
  · rw [listControllers, hs₁]
    exact hs₂
  · rw [hports', hports, List.map_append]
    rfl

/-- Two free devices with one name, of which the second takes another, and a device in use. -/
theorem listControllers_spec_duplicate :
    2 < 2 ^ 31 - 4 ∧ ∃ s, listControllers (fun _ => true)
        [{ portPath := ofString "1", reportedLabel := ofString "beam" },
          { portPath := ofString "2", reportedLabel := ofString "beam" }]
        [{ portPath := ofString "3" }] ∅ = some s ∧
      s.infos.map (·.portPath) = [ofString "1", ofString "2", ofString "3"] ∧
      s.infos.Pairwise IdsApart ∧
      (s.infos.filter (!·.busyExclusive)).Pairwise (LabelsApart s.events) := by
  obtain ⟨s, hs, hports, hids, hlabels, -, -⟩ := listControllers_spec (fun _ => true)
    [{ portPath := ofString "1", reportedLabel := ofString "beam" },
      { portPath := ofString "2", reportedLabel := ofString "beam" }]
    [{ portPath := ofString "3" }] ∅ (by decide)
  exact ⟨by decide, s, hs, hports, hids, hlabels⟩

/-! ## Scan after scan -/

/-- A device gets a label: it is given a name because it had none, or its label is remembered. -/
def NamingEvent.Names (portPath : ByteString) : NamingEvent → Prop
  | .renamed path duplicate _ _ => path = portPath ∧ duplicate = false
  | .remembered path _ => path = portPath
  | _ => False

/-- The device is not found to be absent. -/
def NamingEvent.Keeps (portPath : ByteString) : NamingEvent → Prop
  | .scanned seenPortPaths => portPath ∈ seenPortPaths
  | .cleared => False
  | _ => True

/-- A device has a label since it was last absent. -/
def Named (portPath : ByteString) : List NamingEvent → Prop :=
  Since (NamingEvent.Names portPath) (NamingEvent.Keeps portPath)

/-- A name is given to a device because it has none, which has no label. -/
def RenamedOnce (before : List NamingEvent) (event : NamingEvent) : Prop :=
  ∀ portPath name taken, event = .renamed portPath false name taken → ¬Named portPath before

/-- The table has a label of the devices that have one. -/
structure Tracks (tr : List NamingEvent) (table : Table ByteString ByteString) : Prop where
  named : ∀ portPath, (table.lookup portPath).isSome ↔ Named portPath tr
  once : Always RenamedOnce tr

variable {tr : List NamingEvent} {table : Table ByteString ByteString}

/-- A label is remembered. -/
theorem Tracks.remember (h : Tracks tr table) {portPath : ByteString} (label : ByteString) :
    Tracks (tr ++ [.remembered portPath label]) (table.insert portPath label) := by
  refine ⟨fun path => ?_, h.once.concat fun _ _ _ hevent => by cases hevent⟩
  rw [Named, since_concat, ← Named, ← h.named]
  by_cases hpath : path = portPath
  · simp [Table.lookup_insert, hpath, NamingEvent.Names]
  · simp [AList.lookup_insert_ne hpath, NamingEvent.Names, NamingEvent.Keeps, Ne.symm hpath]

/-- A name is sent to a device that has no label, or whose label was listed before, and its label is
remembered. -/
theorem Tracks.rename (h : Tracks tr table) {portPath : ByteString} {duplicate : Bool}
    (name : ByteString) (taken : Bool) (label : ByteString)
    (hnone : duplicate = false → (table.lookup portPath).isSome = false) :
    Tracks (tr ++ [.renamed portPath duplicate name taken, .remembered portPath label])
      (table.insert portPath label) := by
  have honce : RenamedOnce tr (.renamed portPath duplicate name taken) := by
    intro path name taken hevent hnamed
    cases hevent
    rw [← h.named, hnone rfl] at hnamed
    cases hnamed
  rw [← List.singleton_append, ← List.append_assoc]
  refine ⟨fun path => ?_, (h.once.concat honce).concat fun _ _ _ hevent => by cases hevent⟩
  rw [Named, since_concat, since_concat, ← Named, ← h.named]
  by_cases hpath : path = portPath
  · simp [Table.lookup_insert, hpath, NamingEvent.Names]
  · simp [AList.lookup_insert_ne hpath, NamingEvent.Names, NamingEvent.Keeps, Ne.symm hpath]

theorem tracks_listFree (h : Tracks (tr ++ s.events) s.stableLabelByPortPath)
    (hs : s.listFree renames index probe = some s') :
    Tracks (tr ++ s'.events) s'.stableLabelByPortPath := by
  rw [Listing.listFree] at hs
  split at hs
  · rename_i hrename
    obtain ⟨name, -, hs⟩ := Option.bind_eq_some_iff.mp hs
    obtain ⟨id, -, hs⟩ := Option.bind_eq_some_iff.mp hs
    cases hs
    simp only [if_true, List.append_assoc, List.cons_append, List.nil_append]
    rw [← List.append_assoc]
    refine h.rename name _ _ fun hduplicate => ?_
    rw [hduplicate, Bool.false_or, Bool.and_eq_true, Bool.not_eq_true'] at hrename
    exact hrename.2
  · obtain ⟨id, -, hs⟩ := Option.bind_eq_some_iff.mp hs
    cases hs
    simp only [List.append_nil]
    split
    · rw [← List.append_assoc]
      exact h.remember _
    · rwa [List.append_nil]

theorem tracks_listBusy (h : Tracks (tr ++ s.events) s.stableLabelByPortPath)
    (hs : s.listBusy index probe = some s') :
    Tracks (tr ++ s'.events) s'.stableLabelByPortPath := by
  rw [Listing.listBusy] at hs
  split at hs
  · obtain ⟨id, -, hs⟩ := Option.bind_eq_some_iff.mp hs
    cases hs
    exact h
  · cases hs
    exact h

theorem tracks_forProbes {list : Listing → ℕ → DirectHeliosUsbProbe → Option Listing}
    (hlist : ∀ {s index probe s'}, Tracks (tr ++ s.events) s.stableLabelByPortPath →
      list s index probe = some s' → Tracks (tr ++ s'.events) s'.stableLabelByPortPath)
    {probes : List DirectHeliosUsbProbe} (h : Tracks (tr ++ s.events) s.stableLabelByPortPath)
    (hs : Listing.forProbes list index probes s = some s') :
    Tracks (tr ++ s'.events) s'.stableLabelByPortPath := by
  induction probes generalizing s index with
  | nil =>
    cases hs
    exact h
  | cons probe probes ih =>
    obtain ⟨s₁, hs₁, hs⟩ := Option.bind_eq_some_iff.mp hs
    exact ih (hlist h hs₁) hs

/-- The labels of the ports without a device are forgotten. -/
theorem Tracks.scanned (h : Tracks tr table) (seenPortPaths : List ByteString) :
    Tracks (tr ++ [.scanned seenPortPaths]) (table.filter fun e => e.1 ∈ seenPortPaths) := by
  refine ⟨fun path => ?_, h.once.concat fun _ _ _ hevent => by cases hevent⟩
  rw [Named, since_concat, ← Named, ← h.named, Option.isSome_iff_exists, Option.isSome_iff_exists]
  simp [Table.lookup_filter_eq_some, NamingEvent.Names, NamingEvent.Keeps]

/-- What a call does to the labels. -/
theorem HeliosManager.step_tracks {m m' : HeliosManager} {call : NamingCall}
    {o : List NamingEvent} (h : Tracks tr m.stableLabelByPortPath)
    (hs : m.step call = some (m', o)) : Tracks (tr ++ o) m'.stableLabelByPortPath := by
  cases call with
  | discover scan =>
    obtain ⟨-, -, hs⟩ := Option.bind_eq_some_iff.mp hs
    obtain ⟨s, hlisted, hs⟩ := Option.bind_eq_some_iff.mp hs
    cases hs
    obtain ⟨s₁, hfree, hbusy⟩ := Option.bind_eq_some_iff.mp hlisted
    rw [← List.append_assoc]
    refine Tracks.scanned (tracks_forProbes tracks_listBusy ?_ hbusy) _
    exact tracks_forProbes tracks_listFree (by simpa using h) hfree
  | afterCloseControllers =>
    cases hs
    refine ⟨fun path => ?_, h.once.concat fun _ _ _ hevent => by cases hevent⟩
    rw [Named, since_concat]
    simp [NamingEvent.Names, NamingEvent.Keeps]

/-- **A device is given a name because it had none once**, however often the devices are listed, as
long as no scan misses it and the manager is not closed: not while it has a label. -/
theorem HeliosManager.rename_once {calls : List NamingCall} {m : HeliosManager}
    {tr : List NamingEvent} (h : run HeliosManager.step {} calls = some (m, tr)) :
    Always RenamedOnce tr := by
  have hinit : Tracks [] ({} : HeliosManager).stableLabelByPortPath :=
    ⟨fun path => by simp [Named, not_since_nil], always_nil⟩
  have hrun := run_invariant (I := fun tr m => Tracks tr (HeliosManager.stableLabelByPortPath m))
    (G := fun _ _ _ => True) (fun _ _ _ _ _ h _ hs => step_tracks h hs) hinit
    (Along.of_forall (fun _ _ => trivial) _ _) h
  exact hrun.once

/-- A device that tells an empty name. -/
def namelessDevice : ListedDevice where
  isHelios := true
  ports := [1, 4]
  busNumber := 2
  deviceAddress := 7
  handle := ⟨.success, true, true⟩
  firmware := Vector.replicate 2 ⟨⟨.io, 0⟩, Vector.replicate 3 ⟨.io, []⟩⟩
  product := none
  serial := some (ofString "1234")
  names := Vector.replicate 2 ⟨⟨.success, 2⟩, ⟨.success, [0x85, 0]⟩⟩

/-- A scan of one device. -/
def Scan.ofDevice (device : ListedDevice) : Scan where
  connectedPortPaths := []
  devices := [device]
  renames := fun _ => false
  free := (probes [] [device]).1
  busy := (probes [] [device]).2

/-- Two scans of a device that has no name and takes none. -/
theorem HeliosManager.rename_once_refused :
    ∃ m tr, run HeliosManager.step {}
        [.discover (.ofDevice namelessDevice), .discover (.ofDevice namelessDevice)] =
          some (m, tr) ∧ tr.length = 5 ∧ Always RenamedOnce tr := by
  have hlength : (run HeliosManager.step {} [.discover (.ofDevice namelessDevice),
      .discover (.ofDevice namelessDevice)]).map (·.2.length) = some 5 := by
    decide +kernel
  obtain ⟨⟨m, tr⟩, hrun, hlength⟩ := Option.map_eq_some_iff.mp hlength
  exact ⟨m, tr, hrun, hlength, rename_once hrun⟩

end LiberaLaser.Helios
