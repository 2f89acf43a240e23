import Mathlib.Data.List.Basic
import Mathlib.Data.Nat.Bitwise

/-!
# The packets of the LightSpace network protocol

A packet is a magic header, its own size, the protocol version, a type and a command, the size of
the payload, the payload, and a checksum of everything before it. `buildPacket` and `parsePacket`
are two independent walks over this layout; `parsePacket_eq_some_iff` says that they agree: what is
accepted is exactly what is built.
-/

namespace LiberaLaser

/-! ## Bytes -/

/-- The loop over the bits of one byte. -/
def crc16Bits : ℕ → UInt16 → UInt16
  | 0, crc => crc
  | bits + 1, crc =>
    crc16Bits bits (if crc &&& 0x8000 ≠ 0 then (crc <<< 1) ^^^ 0x1021 else crc <<< 1)

def crc16Ccitt (data : List UInt8) : UInt16 :=
  data.foldl (fun (crc : UInt16) (byte : UInt8) => crc16Bits 8 (crc ^^^ (byte.toUInt16 <<< 8)))
    0xFFFF

/-- The first two bytes at a pointer. No caller points at fewer than two. -/
def readBe16 : List UInt8 → UInt16
  | hi :: lo :: _ => (hi.toUInt16 <<< 8) ||| lo.toUInt16
  | _ => 0

def highByte (value : UInt16) : UInt8 := ((value >>> 8) &&& 0xFF).toUInt8

def lowByte (value : UInt16) : UInt8 := (value &&& 0xFF).toUInt8

def appendBe16 (output : List UInt8) (value : UInt16) : List UInt8 :=
  output ++ [highByte value] ++ [lowByte value]

theorem toNat_readBe16 (hi lo : UInt8) (rest : List UInt8) :
    (readBe16 (hi :: lo :: rest)).toNat = 256 * hi.toNat + lo.toNat := by
  have hhi : hi.toNat < 256 := UInt8.toNat_lt hi
  have hlo : lo.toNat < 2 ^ 8 := UInt8.toNat_lt lo
  have hshift : hi.toNat <<< 8 % 65536 = hi.toNat <<< 8 := by
    rw [Nat.shiftLeft_eq]
    omega
  simp only [readBe16, UInt16.toNat_or, UInt16.toNat_shiftLeft, UInt8.toNat_toUInt16]
  change hi.toNat <<< 8 % 65536 ||| lo.toNat = _
  rw [hshift, ← Nat.shiftLeft_add_eq_or_of_lt hlo, Nat.shiftLeft_eq]
  omega

theorem toNat_highByte (value : UInt16) : (highByte value).toNat = value.toNat / 256 := by
  have hvalue : value.toNat < 65536 := UInt16.toNat_lt value
  have hmask : ∀ n, n &&& 255 = n % 256 := fun n => Nat.and_two_pow_sub_one_eq_mod n 8
  simp only [highByte, UInt16.toNat_toUInt8, UInt16.toNat_and, UInt16.toNat_shiftRight]
  change (value.toNat >>> 8 &&& 255) % 256 = _
  rw [hmask, Nat.shiftRight_eq_div_pow]
  omega

theorem toNat_lowByte (value : UInt16) : (lowByte value).toNat = value.toNat % 256 := by
  have hmask : ∀ n, n &&& 255 = n % 256 := fun n => Nat.and_two_pow_sub_one_eq_mod n 8
  simp only [lowByte, UInt16.toNat_toUInt8, UInt16.toNat_and]
  change (value.toNat &&& 255) % 256 = _
  rw [hmask, Nat.mod_mod]

/-- **The decoder's byte order is the encoder's.** -/
@[simp] theorem readBe16_bytes (value : UInt16) (rest : List UInt8) :
    readBe16 (highByte value :: lowByte value :: rest) = value := by
  apply UInt16.toNat_inj.mp
  rw [toNat_readBe16, toNat_highByte, toNat_lowByte]
  omega

@[simp] theorem highByte_readBe16 (hi lo : UInt8) (rest : List UInt8) :
    highByte (readBe16 (hi :: lo :: rest)) = hi := by
  have hlo : lo.toNat < 256 := UInt8.toNat_lt lo
  apply UInt8.toNat_inj.mp
  rw [toNat_highByte, toNat_readBe16]
  omega

@[simp] theorem lowByte_readBe16 (hi lo : UInt8) (rest : List UInt8) :
    lowByte (readBe16 (hi :: lo :: rest)) = lo := by
  have hlo : lo.toNat < 256 := UInt8.toNat_lt lo
  apply UInt8.toNat_inj.mp
  rw [toNat_lowByte, toNat_readBe16]
  omega

/-! ## Packets -/

namespace LightSpaceNetConfig

def PROTOCOL_VERSION : UInt16 := 0x0001

end LightSpaceNetConfig

structure LightSpaceNetPacket where
  version : UInt16 := 0
  packetType : UInt8 := 0
  commandWord : UInt8 := 0
  payload : List UInt8 := []
  deriving DecidableEq

/-- The characters of "LIGHTSPACE". -/
def protocolHeader : List UInt8 := [76, 73, 71, 72, 84, 83, 80, 65, 67, 69]

def minimumPacketSize : ℕ := 20

def buildPacket (packetType commandWord : UInt8) (payload : List UInt8) : List UInt8 :=
  let fixedPacketOverhead := 20
  let packetSize := fixedPacketOverhead + payload.length
  if 0xFFFF < packetSize ∨ 0xFFFF < payload.length then []
  else
    let output := protocolHeader
    let output := appendBe16 output (UInt16.ofNat packetSize)
    let output := appendBe16 output LightSpaceNetConfig.PROTOCOL_VERSION
    let output := output ++ [packetType] ++ [commandWord]
    let output := appendBe16 output (UInt16.ofNat payload.length)
    let output := output ++ payload
    -- the checksum covers every field before it
    let crc := crc16Ccitt output
    appendBe16 output crc

def parsePacket (data : List UInt8) : Option LightSpaceNetPacket :=
  let size := data.length
  if size < minimumPacketSize then none
  else if data.take protocolHeader.length ≠ protocolHeader then none
  else
    let packetSize := readBe16 (data.drop 10)
    if packetSize.toNat ≠ size then none
    else
      let dataLength := readBe16 (data.drop 16)
      if dataLength.toNat + minimumPacketSize ≠ size then none
      else
        let expectedCrc := readBe16 (data.drop (size - 2))
        let actualCrc := crc16Ccitt (data.take (size - 2))
        if expectedCrc ≠ actualCrc then none
        else
          let version := readBe16 (data.drop 12)
          if version ≠ LightSpaceNetConfig.PROTOCOL_VERSION then none
          else some {
            version := version
            packetType := data.getD 14 0
            commandWord := data.getD 15 0
            payload := (data.drop 18).take dataLength.toNat }

namespace LightSpaceNetPacket

/-- The layout of a packet up to its checksum, with the raw bytes of its fields. -/
def layout (size0 size1 version0 version1 packetType commandWord length0 length1 : UInt8)
    (payload : List UInt8) : List UInt8 :=
  protocolHeader ++
    size0 :: size1 :: version0 :: version1 :: packetType :: commandWord :: length0 :: length1 ::
      payload

variable {s0 s1 v0 v1 t c l0 l1 k0 k1 : UInt8} {payload : List UInt8}

theorem length_layout : (layout s0 s1 v0 v1 t c l0 l1 payload).length = payload.length + 18 := by
  simp [layout, protocolHeader]

/-- A string that starts with the header and is long enough has the layout. -/
theorem exists_layout {data : List UInt8} (hsize : minimumPacketSize ≤ data.length)
    (hheader : data.take protocolHeader.length = protocolHeader) :
    ∃ s0 s1 v0 v1 t c l0 l1 payload k0 k1,
      data = layout s0 s1 v0 v1 t c l0 l1 payload ++ [k0, k1] := by
  have hdata : data = protocolHeader ++ data.drop 10 := by
    rw [← hheader]
    exact (List.take_append_drop 10 data).symm
  have hlength : 10 ≤ (data.drop 10).length := by
    rw [List.length_drop]
    exact Nat.le_sub_of_add_le hsize
  generalize data.drop 10 = fields at hdata hlength
  subst hdata
  rcases fields with
    _ | ⟨s0, _ | ⟨s1, _ | ⟨v0, _ | ⟨v1, _ | ⟨t, _ | ⟨c, _ | ⟨l0, _ | ⟨l1, rest⟩⟩⟩⟩⟩⟩⟩⟩
  all_goals try (simp only [List.length_cons, List.length_nil] at hlength; omega)
  have htail : (rest.drop (rest.length - 2)).length = 2 := by
    simp only [List.length_cons] at hlength
    rw [List.length_drop]
    omega
  obtain ⟨k0, k1, hk⟩ := List.length_eq_two.mp htail
  refine ⟨s0, s1, v0, v1, t, c, l0, l1, rest.take (rest.length - 2), k0, k1, ?_⟩
  simp only [layout, List.append_assoc, List.cons_append]
  rw [← hk, List.take_append_drop]

/-- What the decoder checks of a string with the layout, and what it reads. -/
theorem parsePacket_layout {p : LightSpaceNetPacket} :
    parsePacket (layout s0 s1 v0 v1 t c l0 l1 payload ++ [k0, k1]) = some p ↔
      (readBe16 [s0, s1]).toNat = payload.length + minimumPacketSize ∧
        (readBe16 [l0, l1]).toNat = payload.length ∧
        readBe16 [k0, k1] = crc16Ccitt (layout s0 s1 v0 v1 t c l0 l1 payload) ∧
        readBe16 [v0, v1] = LightSpaceNetConfig.PROTOCOL_VERSION ∧
        p = { version := readBe16 [v0, v1], packetType := t, commandWord := c, payload := payload }
      := by
  have hsize : (layout s0 s1 v0 v1 t c l0 l1 payload ++ [k0, k1]).length =
      payload.length + minimumPacketSize := by
    rw [List.length_append, length_layout]
    rfl
  have hlayout : (layout s0 s1 v0 v1 t c l0 l1 payload).length =
      payload.length + minimumPacketSize - 2 := by
    rw [length_layout]
    rfl
  -- where the fields lie
  have hheader : (layout s0 s1 v0 v1 t c l0 l1 payload ++ [k0, k1]).take protocolHeader.length =
      protocolHeader := rfl
  have hpacketSize : readBe16 ((layout s0 s1 v0 v1 t c l0 l1 payload ++ [k0, k1]).drop 10) =
      readBe16 [s0, s1] := rfl
  have hversion : readBe16 ((layout s0 s1 v0 v1 t c l0 l1 payload ++ [k0, k1]).drop 12) =
      readBe16 [v0, v1] := rfl
  have hdataLength : readBe16 ((layout s0 s1 v0 v1 t c l0 l1 payload ++ [k0, k1]).drop 16) =
      readBe16 [l0, l1] := rfl
  have htype : (layout s0 s1 v0 v1 t c l0 l1 payload ++ [k0, k1]).getD 14 0 = t := rfl
  have hcommand : (layout s0 s1 v0 v1 t c l0 l1 payload ++ [k0, k1]).getD 15 0 = c := rfl
  have hpayload : (layout s0 s1 v0 v1 t c l0 l1 payload ++ [k0, k1]).drop 18 =
      payload ++ [k0, k1] := rfl
  simp only [parsePacket, hsize]
  rw [List.drop_left' hlayout, List.take_left' hlayout, hheader, hpacketSize, hversion,
    hdataLength, htype, hcommand, hpayload, if_neg (by omega), if_neg (not_not_intro rfl)]
  by_cases hs : (readBe16 [s0, s1]).toNat = payload.length + minimumPacketSize
  · by_cases hl : (readBe16 [l0, l1]).toNat = payload.length
    · by_cases hk : readBe16 [k0, k1] = crc16Ccitt (layout s0 s1 v0 v1 t c l0 l1 payload)
      · by_cases hv : readBe16 [v0, v1] = LightSpaceNetConfig.PROTOCOL_VERSION
        · rw [if_neg (not_not_intro hs), if_neg (by omega), if_neg (not_not_intro hk),
            if_neg (not_not_intro hv), hl, List.take_left' rfl, Option.some.injEq]
          exact ⟨fun h => ⟨hs, rfl, hk, hv, h.symm⟩, fun h => h.2.2.2.2.symm⟩
        · simp [hv]
      · simp [hk]
    · simp [hs, hl]
  · simp [hs]

end LightSpaceNetPacket

open LightSpaceNetPacket

/-- A packet within the size limit has the layout. -/
theorem buildPacket_eq {packetType commandWord : UInt8} {payload : List UInt8}
    (h : payload.length + minimumPacketSize ≤ 0xFFFF) :
    buildPacket packetType commandWord payload =
      appendBe16 (layout (highByte (UInt16.ofNat (20 + payload.length)))
        (lowByte (UInt16.ofNat (20 + payload.length)))
        (highByte LightSpaceNetConfig.PROTOCOL_VERSION)
        (lowByte LightSpaceNetConfig.PROTOCOL_VERSION) packetType commandWord
        (highByte (UInt16.ofNat payload.length)) (lowByte (UInt16.ofNat payload.length)) payload)
      (crc16Ccitt (layout (highByte (UInt16.ofNat (20 + payload.length)))
        (lowByte (UInt16.ofNat (20 + payload.length)))
        (highByte LightSpaceNetConfig.PROTOCOL_VERSION)
        (lowByte LightSpaceNetConfig.PROTOCOL_VERSION) packetType commandWord
        (highByte (UInt16.ofNat payload.length)) (lowByte (UInt16.ofNat payload.length))
        payload)) := by
  have hlimit : ¬ (0xFFFF < 20 + payload.length ∨ 0xFFFF < payload.length) := by
    simp only [minimumPacketSize] at h
    omega
  simp only [buildPacket, if_neg hlimit]
  simp [appendBe16, layout]

theorem buildPacket_of_over {packetType commandWord : UInt8} {payload : List UInt8}
    (h : 0xFFFF < payload.length + minimumPacketSize) :
    buildPacket packetType commandWord payload = [] := by
  simp only [buildPacket]
  rw [if_pos]
  simp only [minimumPacketSize] at h
  omega

/-- **The decoder accepts exactly what the encoder builds.** -/
theorem parsePacket_eq_some_iff {data : List UInt8} {p : LightSpaceNetPacket} :
    parsePacket data = some p ↔
      p.version = LightSpaceNetConfig.PROTOCOL_VERSION ∧
        p.payload.length + minimumPacketSize ≤ 0xFFFF ∧
        data = buildPacket p.packetType p.commandWord p.payload := by
  constructor
  · intro h
    have hsize : minimumPacketSize ≤ data.length := by
      by_contra hlt
      simp [parsePacket, Nat.lt_of_not_le hlt] at h
    have hheader : data.take protocolHeader.length = protocolHeader := by
      by_contra hne
      simp [parsePacket, hne] at h
    obtain ⟨s0, s1, v0, v1, t, c, l0, l1, payload, k0, k1, rfl⟩ := exists_layout hsize hheader
    obtain ⟨hs, hl, hk, hv, rfl⟩ := parsePacket_layout.mp h
    have hlimit : payload.length + minimumPacketSize ≤ 0xFFFF := by
      rw [← hs]
      have := UInt16.toNat_lt (readBe16 [s0, s1])
      omega
    refine ⟨hv, hlimit, ?_⟩
    have hs' : UInt16.ofNat (20 + payload.length) = readBe16 [s0, s1] := by
      rw [Nat.add_comm, ← minimumPacketSize, ← hs, UInt16.ofNat_toNat]
    have hl' : UInt16.ofNat payload.length = readBe16 [l0, l1] := by
      rw [← hl, UInt16.ofNat_toNat]
    rw [buildPacket_eq hlimit, hs', hl', ← hv]
    simp only [highByte_readBe16, lowByte_readBe16]
    rw [← hk]
    simp [appendBe16]
  · rintro ⟨hv, hlimit, rfl⟩
    rw [buildPacket_eq hlimit]
    simp only [appendBe16, List.append_assoc, List.singleton_append]
    have hpacketSize : 20 + p.payload.length < UInt16.size := by
      rw [Nat.add_comm]
      exact Nat.lt_succ_of_le hlimit
    have hdataLength : p.payload.length < UInt16.size := by omega
    refine parsePacket_layout.mpr ⟨?_, ?_, readBe16_bytes _ [], readBe16_bytes _ [], ?_⟩
    · rw [readBe16_bytes, UInt16.toNat_ofNat_of_lt' hpacketSize]
      exact Nat.add_comm _ _
    · rw [readBe16_bytes, UInt16.toNat_ofNat_of_lt' hdataLength]
    · rw [readBe16_bytes, ← hv]

/-- **The packet codec round trips**: what is built within the size limit is read back, what is
accepted is what is built of the fields read, and nothing is built beyond the limit. -/
theorem packet_roundtrip :
    (∀ (packetType commandWord : UInt8) (payload : List UInt8),
      payload.length + minimumPacketSize ≤ 0xFFFF →
        parsePacket (buildPacket packetType commandWord payload) = some
          { version := LightSpaceNetConfig.PROTOCOL_VERSION, packetType := packetType,
            commandWord := commandWord, payload := payload }) ∧
    (∀ (data : List UInt8) (p : LightSpaceNetPacket), parsePacket data = some p →
      buildPacket p.packetType p.commandWord p.payload = data) ∧
    (∀ (packetType commandWord : UInt8) (payload : List UInt8),
      0xFFFF < payload.length + minimumPacketSize →
        buildPacket packetType commandWord payload = []) := by
  refine ⟨fun packetType commandWord payload h => ?_, fun data p h => ?_,
    fun packetType commandWord payload h => buildPacket_of_over h⟩
  · exact parsePacket_eq_some_iff.mpr ⟨rfl, h, rfl⟩
  · exact (parsePacket_eq_some_iff.mp h).2.2.symm

end LiberaLaser
