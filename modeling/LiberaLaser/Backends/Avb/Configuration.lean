import LiberaLaser.Foundations.ByteString
import LiberaLaser.Foundations.Table
import Mathlib.Algebra.Order.Group.Nat
import Mathlib.Data.UInt

/-!
# The output banks of an AVB device

A configured device is divided into banks of eight channels, each a controller of its own; channels
that are left over belong to no bank. The id of a bank names its device and its first channel, so
two banks never share one (`makeControllerId_inj`).
-/

namespace LiberaLaser

open ByteString

structure AvbAudioDeviceInfo where
  uid : ByteString
  label : ByteString
  outputChannels : UInt32 := 0
  defaultPointRate : UInt32 := 0
  pointRateMutable : Bool := false
  supportedPointRates : List UInt32 := []

structure AvbDeviceConfiguration where
  deviceUid : ByteString
  preferredPointRate : UInt32 := 0

structure PointRateCapabilities where
  pointRateMutable : Bool := false
  defaultPointRate : UInt32 := 0
  minPointRate : UInt32 := 0
  maxPointRate : UInt32 := 0
  supportedPointRates : List UInt32 := []

structure AvbControllerInfo where
  idValue : ByteString
  labelValue : ByteString
  deviceUid : ByteString
  deviceName : ByteString
  channelOffset : UInt32 := 0
  channelCount : UInt32 := 8
  pointRates : PointRateCapabilities

/-- The rate that the base class is told. -/
def AvbControllerInfo.maxPointRate (info : AvbControllerInfo) : UInt32 :=
  max info.pointRates.maxPointRate info.pointRates.defaultPointRate

namespace Avb

def controllerChannelCount : UInt32 := 8

/-- `std::to_string`. -/
def decimal (n : ℕ) : ByteString := (Nat.toDigits 10 n).map Char.toUInt8

/-- What stands between the device and the channel in the id of a controller. -/
def channelMark : ByteString := ofString "::ch-"

def makeControllerId (deviceUid : ByteString) (channelOffset : UInt32) : ByteString :=
  deviceUid ++ channelMark ++ decimal channelOffset.toNat

def makeControllerLabel (deviceName : ByteString) (channelOffset channelCount : UInt32) :
    ByteString :=
  let firstChannel := channelOffset + 1
  let lastChannel := channelOffset + channelCount
  deviceName ++ ofString " " ++ decimal firstChannel.toNat ++ ofString "-" ++
    decimal lastChannel.toNat

def buildPointRateCapabilities (device : AvbAudioDeviceInfo) : PointRateCapabilities where
  pointRateMutable := device.pointRateMutable
  defaultPointRate := device.defaultPointRate
  supportedPointRates := device.supportedPointRates
  minPointRate :=
    match device.supportedPointRates with
    | [] => device.defaultPointRate
    | rate :: rates => rates.foldl min rate
  maxPointRate :=
    match device.supportedPointRates with
    | [] => device.defaultPointRate
    | rate :: rates => rates.foldl max rate

/-- The bank of a device with an index. -/
def bankInfo (device : AvbAudioDeviceInfo) (bankIndex : UInt32) : AvbControllerInfo :=
  let channelOffset := bankIndex * controllerChannelCount
  { idValue := makeControllerId device.uid channelOffset
    labelValue := makeControllerLabel device.label channelOffset controllerChannelCount
    deviceUid := device.uid
    deviceName := device.label
    channelOffset
    channelCount := controllerChannelCount
    pointRates := buildPointRateCapabilities device }

/-- The loop over the banks of a device. -/
def deviceBanks (device : AvbAudioDeviceInfo) : List AvbControllerInfo :=
  let bankCount := device.outputChannels / controllerChannelCount
  (List.range bankCount.toNat).map fun bankIndex => bankInfo device (UInt32.ofNat bankIndex)

def buildConfiguredControllers (devices : List AvbAudioDeviceInfo)
    (configs : List AvbDeviceConfiguration) : List AvbControllerInfo :=
  let configsByUid : Table ByteString AvbDeviceConfiguration :=
    configs.foldl (fun byUid config => AList.insert config.deviceUid config byUid) ∅
  devices.flatMap fun device =>
    match configsByUid.lookup device.uid with
    | none => []
    | some _ => deviceBanks device

/-! ## The ids -/

theorem digit_byte {c : Char} (h : c.isDigit) : Char.ofUInt8 c.toUInt8 = c ∧ c.toUInt8 ≠ 45 := by
  simp only [Char.isDigit, Bool.and_eq_true, decide_eq_true_eq, ge_iff_le,
    UInt32.le_iff_toNat_le] at h
  have hlow : 48 ≤ c.val.toNat := h.1
  have hhigh : c.val.toNat ≤ 57 := h.2
  constructor
  · apply Char.ext
    apply UInt32.toNat_inj.mp
    change c.val.toUInt8.toUInt32.toNat = c.val.toNat
    rw [UInt8.toNat_toUInt32, UInt32.toNat_toUInt8]
    omega
  · intro hmark
    have hvalue : c.val.toUInt8.toNat = 45 := congrArg UInt8.toNat hmark
    rw [UInt32.toNat_toUInt8] at hvalue
    omega

theorem isDigit_of_mem {n : ℕ} {c : Char} (h : c ∈ Nat.toDigits 10 n) : c.isDigit :=
  Nat.isDigit_of_mem_toDigits (by decide) (by decide) h

theorem decimal_inj {n m : ℕ} (h : decimal n = decimal m) : n = m := by
  have hread (n : ℕ) : (decimal n).map Char.ofUInt8 = Nat.toDigits 10 n := by
    rw [decimal, List.map_map]
    exact (List.map_congr_left fun c hc => (digit_byte (isDigit_of_mem hc)).1).trans
      (List.map_id _)
  have hdigits : Nat.toDigits 10 n = Nat.toDigits 10 m := by rw [← hread, ← hread, h]
  calc n = Nat.ofDigitChars 10 (Nat.toDigits 10 n) 0 := Nat.ofDigitChars_ten_toDigits.symm
    _ = Nat.ofDigitChars 10 (Nat.toDigits 10 m) 0 := by rw [hdigits]
    _ = m := Nat.ofDigitChars_ten_toDigits

/-- No digit is the last byte of the mark. -/
theorem dash_notMem_decimal (n : ℕ) : 45 ∉ decimal n := by
  intro h
  obtain ⟨c, hc, heq⟩ := List.mem_map.mp h
  exact (digit_byte (isDigit_of_mem hc)).2 heq

/-- What follows the last dash of an id is the channel. -/
theorem takeWhile_makeControllerId (deviceUid : ByteString) (channelOffset : UInt32) :
    (makeControllerId deviceUid channelOffset).reverse.takeWhile (· ≠ 45) =
      (decimal channelOffset.toNat).reverse := by
  have hmark : channelMark = [58, 58, 99, 104] ++ [45] := rfl
  refine (takeWhile_ne_eq_iff ?_).mpr (.inr ?_)
  · rw [List.mem_reverse]
    exact dash_notMem_decimal _
  · refine ⟨(deviceUid ++ [58, 58, 99, 104]).reverse, ?_⟩
    simp [makeControllerId, hmark]

/-- **The id of a bank names its device and its first channel.** -/
theorem makeControllerId_inj {deviceUid deviceUid' : ByteString}
    {channelOffset channelOffset' : UInt32} :
    makeControllerId deviceUid channelOffset = makeControllerId deviceUid' channelOffset' ↔
      deviceUid = deviceUid' ∧ channelOffset = channelOffset' := by
  constructor
  · intro h
    have hchannel := congrArg (fun id => id.reverse.takeWhile (· ≠ 45)) h
    simp only [takeWhile_makeControllerId, List.reverse_inj] at hchannel
    obtain rfl := UInt32.toNat_inj.mp (decimal_inj hchannel)
    rw [makeControllerId, makeControllerId, List.append_left_inj, List.append_left_inj] at h
    exact ⟨h, rfl⟩
  · rintro ⟨rfl, rfl⟩
    rfl

/-! ## The banks -/

/-- A bank has eight channels within those that the device reports, and starts at a multiple of
eight. -/
structure IsBank (device : AvbAudioDeviceInfo) (info : AvbControllerInfo) : Prop where
  device_eq : info.deviceUid = device.uid
  id_eq : info.idValue = makeControllerId info.deviceUid info.channelOffset
  count_eq : info.channelCount = 8
  aligned : 8 ∣ info.channelOffset.toNat
  fits : info.channelOffset.toNat + 8 ≤ device.outputChannels.toNat

theorem isBank_bankInfo {device : AvbAudioDeviceInfo} {bankIndex : ℕ}
    (h : bankIndex < (device.outputChannels / controllerChannelCount).toNat) :
    IsBank device (bankInfo device (UInt32.ofNat bankIndex)) := by
  rw [UInt32.toNat_div] at h
  change bankIndex < device.outputChannels.toNat / 8 at h
  have hbound := device.outputChannels.toNat_lt
  have hoffset : (bankInfo device (UInt32.ofNat bankIndex)).channelOffset.toNat =
      bankIndex * 8 := by
    change (UInt32.ofNat bankIndex * 8).toNat = bankIndex * 8
    rw [UInt32.toNat_mul, UInt32.toNat_ofNat']
    change bankIndex % 2 ^ 32 * 8 % 2 ^ 32 = bankIndex * 8
    omega
  exact
    { device_eq := rfl
      id_eq := rfl
      count_eq := rfl
      aligned := ⟨bankIndex, by rw [hoffset, Nat.mul_comm]⟩
      fits := by
        rw [hoffset]
        omega }

/-- **Every controller that is built is a bank of one of the devices.** -/
theorem isBank_of_mem {devices : List AvbAudioDeviceInfo} {configs : List AvbDeviceConfiguration}
    {info : AvbControllerInfo} (h : info ∈ buildConfiguredControllers devices configs) :
    ∃ device ∈ devices, IsBank device info := by
  obtain ⟨device, hdevice, hinfo⟩ := List.mem_flatMap.mp h
  refine ⟨device, hdevice, ?_⟩
  split at hinfo
  · cases hinfo
  · obtain ⟨bankIndex, hindex, rfl⟩ := List.mem_map.mp hinfo
    exact isBank_bankInfo (List.mem_range.mp hindex)

end Avb

end LiberaLaser
