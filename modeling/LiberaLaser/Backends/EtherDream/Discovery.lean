import LiberaLaser.Backends.Avb.Configuration
import LiberaLaser.Backends.EtherDream.Connection
import LiberaLaser.Foundations.Endian
import LiberaLaser.Foundations.Hexadecimal
import LiberaLaser.Foundations.Sightings
import LiberaLaser.Foundations.Traces

/-!
# Finding Ether Dreams

An Ether Dream broadcasts its status about once a second. The listener of the manager keeps the last
broadcast of every device by its id, which is the hardware address or, where a broadcast has none,
the address of the sender. Entries that are too old are dropped by the listener and by the calls
that list the devices.

The listener, the callers and a shutdown take the lock in any order, each with a reading of the
clock from before it had the lock. The list of devices is nevertheless what the history says
(`discover_iff_broadcast`): a device is listed once, with its last broadcast, as long as no reading
of the clock since has found it expired. The socket and the thread are left out.
-/

namespace LiberaLaser

open ByteString Hexadecimal Sightings Traces

inductive ControllerUsageState
  | unknown
  | idle
  | active
  | busyExclusive
  deriving DecidableEq

/-- A controller as the manager lists it. -/
structure DiscoveredEtherDream extends EtherDreamControllerInfo where
  idValue : ByteString
  labelValue : ByteString
  ip : ByteString
  port : ℕ
  hardwareVersion : ByteString
  usageState : ControllerUsageState
  deriving DecidableEq

namespace EtherDreamManager

/-- `MIN_DISCOVERY_PACKET_BYTES`. -/
def minDiscoveryPacketBytes : ℕ := 36

/-- `ETHERDREAM_DAC_PORT_DEFAULT`. -/
def dacPortDefault : ℕ := 7765

/-- `ETHERDREAM_DISCOVERY_TIMEOUT`. -/
def discoveryTimeout : Duration := 3000000000

/-- The port of the device. The emulator has no hardware revision, and moves its port by the
software revision. -/
def discoveryPortFromRevisions (hardwareRevision softwareRevision : ℕ) : ℕ :=
  if hardwareRevision ≠ 0 then dacPortDefault
  else
    let port := dacPortDefault + softwareRevision
    if 65535 < port then dacPortDefault else port

def formatMacId (mac : ℕ) : ByteString :=
  number upper 4 (mac / 2 ^ 32 % 2 ^ 16) ++ number upper 4 (mac / 2 ^ 16 % 2 ^ 16) ++
    number upper 4 (mac % 2 ^ 16)

def formatDisplayId (mac : ℕ) : ByteString := number lower 6 (mac % 2 ^ 24)

/-- The hardware address at the head of a broadcast, the highest byte first. -/
def readMac (data : List UInt8) : ℕ := Endian.big (data.take 6)

def usageStateOf : PlaybackState → ControllerUsageState
  | .idle => .idle
  | .prepared => .active
  | .playing => .active
  | .paused => .active
  | .unknown _ => .unknown

def controllerId (mac : ℕ) (ip : ByteString) : ByteString :=
  if mac ≠ 0 then formatMacId mac else ofString "etherdream-" ++ ip

/-- What the listener makes of a datagram. -/
def readBroadcast (ip : ByteString) (data : List UInt8) : Option DiscoveredEtherDream :=
  if data.length < minDiscoveryPacketBytes then none
  else
    let mac := readMac data
    let cursor := data.drop 6
    let hardwareRevision := readLe (cursor.take 2)
    let softwareRevision := readLe ((cursor.drop 2).take 2)
    let bufferCapacity := readLe ((cursor.drop 4).take 2)
    let maxPointRate := readLe ((cursor.drop 6).take 4)
    some
      { idValue := controllerId mac ip
        labelValue := ofString "Ether Dream " ++ if mac ≠ 0 then formatDisplayId mac else ip
        ip := ip
        port := discoveryPortFromRevisions hardwareRevision softwareRevision
        bufferSizeValue := bufferCapacity
        hardwareVersion := ofString "hw" ++ Avb.decimal hardwareRevision ++ ofString "-sw" ++
          Avb.decimal softwareRevision
        maxPointRate := maxPointRate
        hardwareRevision := hardwareRevision
        softwareRevision := softwareRevision
        usageState := usageStateOf (.ofCode ((cursor.drop 10).getD 2 0)) }

/-- The controllers by their ids, each with the time it was last seen. -/
abbrev Controllers := Sightings.Seen ByteString DiscoveredEtherDream TimePoint

def pruneStaleUnlocked (controllers : Controllers) (now : TimePoint) : Controllers :=
  controllers.prune fun _ => now - discoveryTimeout

/-- The sections that run under the lock. -/
inductive Section
  /-- The listener has received a datagram. -/
  | datagram (ip : ByteString) (data : List UInt8) (now : TimePoint)
  /-- The listener has waited in vain. -/
  | timedOut (now : TimePoint)
  | discover (now : TimePoint)
  | afterCloseControllers
  deriving DecidableEq

def enter (controllers : Controllers) : Section → Controllers
  | .datagram ip data now =>
    match readBroadcast ip data with
    | none => controllers
    | some info => pruneStaleUnlocked (controllers.see info.idValue info now) now
  | .timedOut now => pruneStaleUnlocked controllers now
  | .discover now => pruneStaleUnlocked controllers now
  | .afterCloseControllers => ∅

/-- The table after some sections. -/
def controllersAfter (sections : List Section) : Controllers := sections.foldl enter ∅

/-- `discover`, after some sections. -/
def discover (sections : List Section) (now : TimePoint) : List DiscoveredEtherDream :=
  (controllersAfter (sections ++ [.discover now])).values

/-! ## The ids -/

/-- A device as its broadcasts tell it apart. -/
inductive Device
  | hardware (mac : Fin (2 ^ 48))
  | address (ip : ByteString)
  deriving DecidableEq

/-- The id of a device in the table. -/
def Device.id : Device → ByteString
  | .hardware mac => formatMacId mac
  | .address ip => ofString "etherdream-" ++ ip

theorem readMac_lt (data : List UInt8) : readMac data < 2 ^ 48 := Endian.big_take_lt 6 data

/-- The device that has sent a datagram. -/
def sender (ip : ByteString) (data : List UInt8) : Device :=
  if readMac data ≠ 0 then .hardware ⟨readMac data, readMac_lt data⟩ else .address ip

theorem controllerId_eq (ip : ByteString) (data : List UInt8) :
    controllerId (readMac data) ip = (sender ip data).id := by
  rw [controllerId, sender]
  split <;> rfl

theorem formatMacId_inj {mac mac' : ℕ} (hmac : mac < 2 ^ 48) (hmac' : mac' < 2 ^ 48)
    (h : formatMacId mac = formatMacId mac') : mac = mac' := by
  obtain ⟨hhead, hlow⟩ := List.append_inj' h (by simp)
  obtain ⟨hhigh, hmiddle⟩ := List.append_inj' hhead (by simp)
  have hlow := number_inj (Nat.mod_lt _ (by decide)) (Nat.mod_lt _ (by decide)) hlow
  have hmiddle := number_inj (Nat.mod_lt _ (by decide)) (Nat.mod_lt _ (by decide)) hmiddle
  have hhigh := number_inj (Nat.mod_lt _ (by decide)) (Nat.mod_lt _ (by decide)) hhigh
  omega

/-- The text before an address has a letter that is no upper-case digit. -/
theorem formatMacId_ne (mac : ℕ) (ip : ByteString) :
    formatMacId mac ≠ ofString "etherdream-" ++ ip := by
  intro h
  have hdigit : ∀ b ∈ formatMacId mac, b ≠ 116 := by
    intro b hb
    rw [formatMacId, List.mem_append, List.mem_append] at hb
    rcases hb with (hb | hb) | hb <;>
      exact forall_mem_number (P := (· ≠ 116)) (by decide) _ _ b hb
  have hletter : 116 ∈ ofString "etherdream-" ++ ip := .tail _ (.head _)
  rw [← h] at hletter
  exact hdigit 116 hletter rfl

/-- **No two devices have one id.** -/
theorem Device.id_injective : Function.Injective Device.id := by
  rintro (mac | ip) (mac' | ip') h
  · exact congrArg Device.hardware (Fin.ext (formatMacId_inj mac.isLt mac'.isLt h))
  · exact absurd h (formatMacId_ne mac ip')
  · exact absurd h.symm (formatMacId_ne mac' ip)
  · exact congrArg Device.address (List.append_cancel_left h)

theorem idValue_readBroadcast {ip : ByteString} {data : List UInt8} {info : DiscoveredEtherDream}
    (h : readBroadcast ip data = some info) : info.idValue = (sender ip data).id := by
  rw [← controllerId_eq]
  rw [readBroadcast] at h
  split at h
  · cases h
  · exact (Option.some.inj h) ▸ rfl

/-! ## What is listed -/

/-- The section has received a broadcast of a device. -/
def Section.Announces (device : Device) (info : DiscoveredEtherDream) (time : TimePoint) :
    Section → Prop
  | .datagram ip data now =>
    sender ip data = device ∧ readBroadcast ip data = some info ∧ now = time
  | _ => False

/-- The section leaves a device, last seen at a time, in the table. -/
def Section.Spares (device : Device) (time : TimePoint) : Section → Prop
  | .datagram ip data now =>
    (readBroadcast ip data).isSome → sender ip data ≠ device ∧ now - discoveryTimeout ≤ time
  | .timedOut now => now - discoveryTimeout ≤ time
  | .discover now => now - discoveryTimeout ≤ time
  | .afterCloseControllers => False

/-- **The table holds the last broadcasts** that have not expired since. -/
theorem lookup_controllersAfter (sections : List Section) {device : Device}
    {info : DiscoveredEtherDream} {time : TimePoint} :
    (controllersAfter sections).lookup device.id = some (info, time) ↔
      Since (Section.Announces device info time) (Section.Spares device time) sections := by
  refine foldl_iff_since (fun controllers : Controllers =>
    controllers.lookup device.id = some (info, time)) (by simp) (fun controllers s => ?_) sections
  cases s with
  | datagram ip data now =>
    simp only [enter, Section.Announces, Section.Spares]
    cases hread : readBroadcast ip data with
    | none => simp
    | some info' =>
      -- a broadcast has not expired where it has just arrived
      have hfresh : now - discoveryTimeout ≤ now := sub_le_self now (by decide)
      simp only [pruneStaleUnlocked, lookup_prune, lookup_see, idValue_readBroadcast hread,
        Device.id_injective.eq_iff, ne_eq, Option.some.injEq, Option.isSome_some, forall_const]
      constructor
      · rintro ⟨⟨hdevice, hinfo, htime⟩ | ⟨hkept, hother⟩, hlimit⟩
        · exact .inl ⟨hdevice, hinfo, htime⟩
        · exact .inr ⟨hkept, hother, hlimit⟩
      · rintro (⟨hdevice, hinfo, htime⟩ | ⟨hkept, hother, hlimit⟩)
        · exact ⟨.inl ⟨hdevice, hinfo, htime⟩, htime ▸ hfresh⟩
        · exact ⟨.inr ⟨hkept, hother⟩, hlimit⟩
  | timedOut now =>
    simp [enter, pruneStaleUnlocked, lookup_prune, Section.Announces, Section.Spares]
  | discover now =>
    simp [enter, pruneStaleUnlocked, lookup_prune, Section.Announces, Section.Spares]
  | afterCloseControllers => simp [enter, Section.Announces, Section.Spares]

/-- Every entry stands under its id, which is that of a device. -/
theorem forall_controllersAfter (sections : List Section) :
    (controllersAfter sections).Forall fun key e =>
      e.1.idValue = key ∧ ∃ device : Device, device.id = key := by
  refine List.foldlRecOn sections enter Table.forall_empty fun controllers h s _ => ?_
  cases s with
  | datagram ip data now =>
    rw [enter]
    cases hread : readBroadcast ip data with
    | none => exact h
    | some info =>
      exact forall_prune (h.insert ⟨rfl, sender ip data, (idValue_readBroadcast hread).symm⟩)
  | timedOut now => exact forall_prune h
  | discover now => exact forall_prune h
  | afterCloseControllers => exact Table.forall_empty

/-- **The devices that are listed** are those whose last broadcast has not expired, each with that
broadcast and once. -/
theorem discover_iff_broadcast (sections : List Section) (now : TimePoint) :
    (∀ info, info ∈ discover sections now ↔ ∃ device time,
      Since (Section.Announces device info time) (Section.Spares device time) sections ∧
        now - discoveryTimeout ≤ time) ∧
      ((discover sections now).map (·.idValue)).Nodup := by
  have hall := forall_controllersAfter (sections ++ [.discover now])
  refine ⟨fun info => ?_, nodup_values (hall.mono fun _ _ _ h => h.1)⟩
  have hconcat (device : Device) (time : TimePoint) :
      Since (Section.Announces device info time) (Section.Spares device time)
          (sections ++ [.discover now]) ↔
        Section.Announces device info time (.discover now) ∨
          Since (Section.Announces device info time) (Section.Spares device time) sections ∧
            Section.Spares device time (.discover now) := since_concat _
  rw [discover, mem_values]
  constructor
  · rintro ⟨key, time, hentry⟩
    obtain ⟨-, device, rfl⟩ := hall _ _ hentry
    rw [lookup_controllersAfter, hconcat] at hentry
    exact ⟨device, time, hentry.resolve_left id⟩
  · rintro ⟨device, time, h⟩
    refine ⟨device.id, time, ?_⟩
    rw [lookup_controllersAfter, hconcat]
    exact .inr h

end EtherDreamManager

end LiberaLaser
