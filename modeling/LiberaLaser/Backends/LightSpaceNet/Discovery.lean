import LiberaLaser.Backends.Avb.Configuration
import LiberaLaser.Backends.LightSpaceNet.Receive
import LiberaLaser.Core.LaserPoint
import LiberaLaser.Foundations.Endian
import LiberaLaser.Foundations.Hexadecimal
import LiberaLaser.Foundations.Sightings
import LiberaLaser.Foundations.Traces
import Mathlib.Data.List.DropRight
import Mathlib.Data.Nat.Digits.Defs

/-!
# Finding LightSpace devices

A LightSpace device answers a broadcast query with its identity, in one of two layouts of the
payload. The manager keeps the last answer of every device under its hardware address or, where it
sends none, its number. The ages are checked after a burst of queries, and listing the devices
checks nothing, so a device stays listed until a check has found it stale (`discover_iff_answer`).
What an answer says of the name is untrusted: a label is never empty and can be printed
(`displayLabel_printable`).
-/

namespace LiberaLaser

open ByteString Hexadecimal Sightings Traces

namespace LightSpaceNetConfig

def NETWORK_PORT : ℕ := 25555

def CMD_BROADCAST_RESPONSE : UInt8 := 0x02

def MAX_POINT_RATE : ℕ := 30000

def DISCOVERY_STALE_AFTER : Duration := 15000000000

end LightSpaceNetConfig

/-! ## Answers -/

def makeIpString (data : List UInt8) : ByteString :=
  Avb.decimal (data.getD 0 0).toNat ++ ofString "." ++ Avb.decimal (data.getD 1 0).toNat ++
    ofString "." ++ Avb.decimal (data.getD 2 0).toNat ++ ofString "." ++
    Avb.decimal (data.getD 3 0).toNat

/-- A device name without the blanks around it, or nothing where some byte cannot be shown. -/
def sanitizeDeviceName (value : ByteString) : ByteString :=
  let value := value.rdropWhile fun byte => byte == 0 || isspace byte
  let value := value.dropWhile isspace
  if value.any fun byte => byte == 0 || !isprint byte then [] else value

def readBe32 (data : List UInt8) : ℕ := Endian.big (data.take 4)

def isCommonSubnetMask (data : List UInt8) : Bool :=
  (readBe32 data) ∈ [0xFF000000, 0xFFFF0000, 0xFFFFFF00, 0xFFFFFF80, 0xFFFFFFC0, 0xFFFFFFE0,
    0xFFFFFFF0, 0xFFFFFFF8, 0xFFFFFFFC]

def isLikelyIpv4Address (data : List UInt8) : Bool :=
  data.getD 0 0 != 0 && data.getD 0 0 != 255 && data.getD 3 0 != 0 && data.getD 3 0 != 255

/-- The layout with number, firmware, address, mask, gateway and scan frequency. -/
def isObservedNetworkLayout (payload : List UInt8) : Bool :=
  payload.length == 19 && isLikelyIpv4Address (payload.drop 6) &&
    isCommonSubnetMask (payload.drop 10) && isLikelyIpv4Address (payload.drop 14)

structure LightSpaceNetStatus where
  deviceId : ℕ := 0
  firmwareVersion : ℕ := 0
  hardwareVersion : ℕ := 0
  ipAddress : ByteString := []
  macAddress : List UInt8 := List.replicate 6 0
  macAddressString : ByteString := []
  deviceName : ByteString := []
  deriving DecidableEq

namespace LightSpaceNetStatus

def stableId (status : LightSpaceNetStatus) : ByteString :=
  if status.macAddress.any (· != 0) then status.macAddressString
  else Avb.decimal status.deviceId

def displayLabel (status : LightSpaceNetStatus) : ByteString :=
  if status.deviceName ≠ [] then status.deviceName
  else ofString "LightSpace " ++ status.stableId

def parseBroadcastResponse (data : List UInt8) : Option LightSpaceNetStatus :=
  match parsePacket data with
  | none => none
  | some packet =>
    if packet.packetType ≠ LightSpaceNetConfig.PACKET_TYPE_BASIC ∨
        packet.commandWord ≠ LightSpaceNetConfig.CMD_BROADCAST_RESPONSE then none
    else
      let hardwareMacPayloadSize := 18
      let payload := packet.payload
      if payload.length < hardwareMacPayloadSize then none
      else
        let status : LightSpaceNetStatus :=
          { deviceId := readBe32 payload
            firmwareVersion := (readBe16 (payload.drop 4)).toNat }
        if isObservedNetworkLayout payload then
          some { status with
            hardwareVersion := (payload.getD 18 0).toNat
            ipAddress := makeIpString (payload.drop 6) }
        else
          let macAddress := (payload.drop 12).take 6
          some { status with
            hardwareVersion := (readBe16 (payload.drop 6)).toNat
            ipAddress := makeIpString (payload.drop 8)
            macAddress := macAddress
            macAddressString := bytes upper macAddress
            deviceName := sanitizeDeviceName (payload.drop hardwareMacPayloadSize) }

end LightSpaceNetStatus

/-- A device as the manager lists it. -/
structure LightSpaceNetControllerInfo where
  idValue : ByteString
  labelValue : ByteString
  maxPointRate : ℕ
  ip : ByteString
  port : ℕ
  cachedStatus : LightSpaceNetStatus
  deriving DecidableEq

def LightSpaceNetControllerInfo.ofStatus (status : LightSpaceNetStatus) :
    LightSpaceNetControllerInfo where
  idValue := status.stableId
  labelValue := status.displayLabel
  maxPointRate := LightSpaceNetConfig.MAX_POINT_RATE
  ip := status.ipAddress
  port := LightSpaceNetConfig.NETWORK_PORT
  cachedStatus := status

namespace LightSpaceNetManager

abbrev Controllers := Seen ByteString LightSpaceNetStatus TimePoint

/-- The sections that run under the lock of the table. The clock is read anew for every entry that
is checked. -/
inductive Section
  | datagram (sender : ByteString) (data : List UInt8) (now : TimePoint)
  | pruneStaleControllers (now : ByteString → TimePoint)
  | discover
  | afterCloseControllers

/-- What the listener keeps of a datagram: the route is that of the sender. -/
def readResponse (sender : ByteString) (data : List UInt8) : Option LightSpaceNetStatus :=
  (LightSpaceNetStatus.parseBroadcastResponse data).map fun status =>
    { status with ipAddress := sender }

def enter (controllers : Controllers) : Section → Controllers
  | .datagram sender data now =>
    match readResponse sender data with
    | none => controllers
    | some status => controllers.see status.stableId status now
  | .pruneStaleControllers now =>
    controllers.prune fun id => now id - LightSpaceNetConfig.DISCOVERY_STALE_AFTER
  | .discover => controllers
  | .afterCloseControllers => ∅

def controllersAfter (sections : List Section) : Controllers := sections.foldl enter ∅

def discover (sections : List Section) : List LightSpaceNetControllerInfo :=
  (controllersAfter sections).values.map .ofStatus

end LightSpaceNetManager

/-! ## The ids -/

namespace LightSpaceNetStatus

/-- A device as its answers tell it apart. -/
inductive Device
  | hardware (mac : { mac : List UInt8 // mac.length = 6 })
  | number (deviceId : Fin (2 ^ 32))
  deriving DecidableEq

/-- The id of a device in the table. -/
def Device.id : Device → ByteString
  | .hardware mac => bytes upper mac.1
  | .number deviceId => Avb.decimal deviceId

/-- The text of an address is longer than that of any number. -/
theorem bytes_ne_decimal {mac : List UInt8} (hmac : mac.length = 6) {n : ℕ} (hn : n < 2 ^ 32) :
    bytes upper mac ≠ Avb.decimal n := by
  intro h
  have hlength := congrArg List.length h
  have hten : (Nat.toDigits 10 n).length ≤ 10 :=
    Nat.toDigits_length 10 n 10 (by decide) (hn.trans (by decide))
  rw [length_bytes, hmac, Avb.decimal, List.length_map] at hlength
  omega

/-- What every status that was read is like: an address has its six bytes and its text, a number
fits, and a name can be printed. -/
structure WellFormed (status : LightSpaceNetStatus) : Prop where
  length_mac : status.macAddress.length = 6
  macString : status.macAddress.any (· != 0) = true →
    status.macAddressString = bytes upper status.macAddress
  deviceId_lt : status.deviceId < 2 ^ 32
  name_printable : status.deviceName.all isprint = true

/-- The status is of a device: an address that is not zero tells it, and without one its number. -/
def IsOf (status : LightSpaceNetStatus) : Device → Prop
  | .hardware mac => status.macAddress.any (· != 0) = true ∧ status.macAddress = mac.1
  | .number deviceId => status.macAddress.any (· != 0) = false ∧ status.deviceId = deviceId

variable {status : LightSpaceNetStatus}

/-- **The id tells the device.** -/
theorem WellFormed.stableId_eq_iff (h : status.WellFormed) (device : Device) :
    status.stableId = device.id ↔ status.IsOf device := by
  rw [stableId]
  cases hmac : status.macAddress.any (· != 0) with
  | true =>
    rw [if_pos rfl, h.macString hmac]
    cases device with
    | hardware mac =>
      rw [Device.id, IsOf]
      exact ⟨fun heq => ⟨hmac, bytes_injective heq⟩, fun hof => hof.2 ▸ rfl⟩
    | number deviceId =>
      simp only [Device.id, IsOf, hmac, Bool.true_eq_false, false_and, iff_false]
      exact bytes_ne_decimal h.length_mac deviceId.isLt
  | false =>
    rw [if_neg Bool.false_ne_true]
    cases device with
    | hardware mac =>
      simp only [Device.id, IsOf, hmac, Bool.false_eq_true, false_and, iff_false]
      exact (bytes_ne_decimal mac.2 h.deviceId_lt).symm
    | number deviceId =>
      rw [Device.id, IsOf]
      exact ⟨fun heq => ⟨hmac, Avb.decimal_inj heq⟩, fun hof => hof.2 ▸ rfl⟩

theorem WellFormed.exists_isOf (h : status.WellFormed) : ∃ device, status.IsOf device := by
  cases hmac : status.macAddress.any (· != 0) with
  | true => exact ⟨.hardware ⟨status.macAddress, h.length_mac⟩, hmac, rfl⟩
  | false => exact ⟨.number ⟨status.deviceId, h.deviceId_lt⟩, hmac, rfl⟩

theorem sanitizeDeviceName_printable (value : ByteString) :
    (sanitizeDeviceName value).all isprint = true := by
  rw [sanitizeDeviceName]
  split
  · rfl
  · rename_i hany
    rw [List.all_eq_true]
    intro byte hbyte
    by_contra hprint
    refine hany (List.any_eq_true.mpr ⟨byte, hbyte, ?_⟩)
    rw [Bool.eq_false_iff.mpr hprint, Bool.not_false, Bool.or_true]

theorem wellFormed_parse {data : List UInt8} (h : parseBroadcastResponse data = some status) :
    status.WellFormed := by
  rw [parseBroadcastResponse] at h
  split at h
  · cases h
  · rename_i packet hpacket
    split at h
    · cases h
    · extract_lets hardwareMacPayloadSize payload blank macAddress at h
      split at h
      · cases h
      · rename_i hsize
        split at h <;> cases h
        · exact
            { length_mac := rfl
              macString := fun hmac => absurd hmac Bool.false_ne_true
              deviceId_lt := Endian.big_take_lt 4 payload
              name_printable := rfl }
        · have hlong : 18 ≤ payload.length := Nat.not_lt.mp hsize
          exact
            { length_mac := by
                simp only [macAddress, List.length_take, List.length_drop]
                omega
              macString := fun _ => rfl
              deviceId_lt := Endian.big_take_lt 4 payload
              name_printable := sanitizeDeviceName_printable _ }

theorem isprint_decimal (n : ℕ) : (Avb.decimal n).all isprint = true := by
  rw [List.all_eq_true]
  intro byte hbyte
  obtain ⟨c, hc, rfl⟩ := List.mem_map.mp hbyte
  have hdigit := Avb.isDigit_of_mem hc
  simp only [Char.isDigit, Bool.and_eq_true, decide_eq_true_eq, ge_iff_le,
    UInt32.le_iff_toNat_le] at hdigit
  have hlow : 48 ≤ c.val.toNat := hdigit.1
  have hhigh : c.val.toNat ≤ 57 := hdigit.2
  have hbyte : c.toUInt8.toNat = c.val.toNat % 256 := UInt32.toNat_toUInt8 _
  simp only [isprint, Bool.and_eq_true, decide_eq_true_eq, UInt8.le_iff_toNat_le, hbyte]
  change 32 ≤ c.val.toNat % 256 ∧ c.val.toNat % 256 ≤ 126
  omega

theorem WellFormed.stableId_printable (h : status.WellFormed) :
    status.stableId.all isprint = true := by
  rw [stableId]
  cases hmac : status.macAddress.any (· != 0) with
  | true =>
    rw [if_pos rfl, h.macString hmac, List.all_eq_true]
    exact forall_mem_bytes (by decide) _
  | false => exact isprint_decimal _

/-- **A label is never empty and can be printed**, whatever the device has sent as its name. -/
theorem WellFormed.displayLabel_printable (h : status.WellFormed) :
    status.displayLabel ≠ [] ∧ status.displayLabel.all isprint = true := by
  rw [displayLabel]
  split
  · rename_i hname
    exact ⟨hname, h.name_printable⟩
  · have htext : (ofString "LightSpace ").all isprint = true := rfl
    rw [List.all_append, htext, h.stableId_printable]
    exact ⟨nofun, rfl⟩

end LightSpaceNetStatus

/-! ## What is listed -/

namespace LightSpaceNetManager

open LightSpaceNetStatus

/-- The section has received an answer of a device. -/
def Section.Announces (device : Device) (status : LightSpaceNetStatus) (time : TimePoint) :
    Section → Prop
  | .datagram sender data now =>
    status.IsOf device ∧ readResponse sender data = some status ∧ now = time
  | _ => False

/-- The section leaves a device, last seen at a time, in the table. -/
def Section.Spares (device : Device) (time : TimePoint) : Section → Prop
  | .datagram sender data _ =>
    ∀ status, readResponse sender data = some status → ¬status.IsOf device
  | .pruneStaleControllers now => now device.id - LightSpaceNetConfig.DISCOVERY_STALE_AFTER ≤ time
  | .discover => True
  | .afterCloseControllers => False

theorem wellFormed_readResponse {sender : ByteString} {data : List UInt8}
    {status : LightSpaceNetStatus} (h : readResponse sender data = some status) :
    status.WellFormed := by
  obtain ⟨parsed, hparsed, rfl⟩ := Option.map_eq_some_iff.mp h
  have hformed := wellFormed_parse hparsed
  exact ⟨hformed.length_mac, hformed.macString, hformed.deviceId_lt, hformed.name_printable⟩

theorem lookup_controllersAfter (sections : List Section) {device : Device}
    {status : LightSpaceNetStatus} {time : TimePoint} :
    (controllersAfter sections).lookup device.id = some (status, time) ↔
      Since (Section.Announces device status time) (Section.Spares device time) sections := by
  refine foldl_iff_since (fun controllers : Controllers =>
    controllers.lookup device.id = some (status, time)) (by simp) (fun controllers s => ?_) sections
  cases s with
  | datagram sender data now =>
    simp only [enter, Section.Announces, Section.Spares]
    cases hread : readResponse sender data with
    | none => simp
    | some status' =>
      simp only [lookup_see, (wellFormed_readResponse hread).stableId_eq_iff, ne_eq,
        Option.some.injEq, forall_eq']
      constructor
      · rintro (⟨hof, rfl, rfl⟩ | ⟨hkept, hother⟩)
        · exact .inl ⟨hof, rfl, rfl⟩
        · exact .inr ⟨hkept, hother⟩
      · rintro (⟨hof, rfl, rfl⟩ | ⟨hkept, hother⟩)
        · exact .inl ⟨hof, rfl, rfl⟩
        · exact .inr ⟨hkept, hother⟩
  | pruneStaleControllers now => simp [enter, lookup_prune, Section.Announces, Section.Spares]
  | discover => simp [enter, Section.Announces, Section.Spares]
  | afterCloseControllers => simp [enter, Section.Announces, Section.Spares]

/-- Every entry stands under its id, which is that of a device. -/
theorem forall_controllersAfter (sections : List Section) :
    (controllersAfter sections).Forall fun key e =>
      e.1.stableId = key ∧ e.1.WellFormed := by
  refine List.foldlRecOn sections enter Table.forall_empty fun controllers h s _ => ?_
  cases s with
  | datagram sender data now =>
    rw [enter]
    cases hread : readResponse sender data with
    | none => exact h
    | some status => exact h.insert ⟨rfl, wellFormed_readResponse hread⟩
  | pruneStaleControllers now => exact forall_prune h
  | discover => exact h
  | afterCloseControllers => exact Table.forall_empty

/-- **The devices that are listed** are those whose last answer no check of the ages has found stale
since, each with that answer, once, and with a label that can be shown. -/
theorem discover_iff_answer (sections : List Section) :
    (∀ info, info ∈ discover sections ↔ ∃ device status time, info = .ofStatus status ∧
      Since (Section.Announces device status time) (Section.Spares device time) sections) ∧
      ((discover sections).map (·.idValue)).Nodup ∧
      ∀ info ∈ discover sections, info.labelValue ≠ [] ∧ info.labelValue.all isprint = true := by
  have hall := forall_controllersAfter sections
  have hformed (status : LightSpaceNetStatus) (h : status ∈ (controllersAfter sections).values) :
      status.WellFormed := by
    obtain ⟨key, time, hentry⟩ := mem_values.mp h
    exact (hall _ _ hentry).2
  refine ⟨fun info => ?_, ?_, fun info hinfo => ?_⟩
  · rw [discover, List.mem_map]
    constructor
    · rintro ⟨status, hstatus, rfl⟩
      obtain ⟨key, time, hentry⟩ := mem_values.mp hstatus
      obtain ⟨device, hof⟩ := (hall _ _ hentry).2.exists_isOf
      obtain rfl : device.id = key :=
        (((hall _ _ hentry).2.stableId_eq_iff device).mpr hof).symm.trans (hall _ _ hentry).1
      exact ⟨device, status, time, rfl, (lookup_controllersAfter sections).mp hentry⟩
    · rintro ⟨device, status, time, rfl, h⟩
      exact ⟨status, mem_values.mpr ⟨_, time, (lookup_controllersAfter sections).mpr h⟩, rfl⟩
  · rw [discover, List.map_map]
    exact nodup_values (hall.mono fun _ _ _ h => h.1)
  · obtain ⟨status, hstatus, rfl⟩ := List.mem_map.mp hinfo
    exact (hformed status hstatus).displayLabel_printable

end LightSpaceNetManager

end LiberaLaser
