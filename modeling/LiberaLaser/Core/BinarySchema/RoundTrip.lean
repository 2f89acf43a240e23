import LiberaLaser.Core.BinarySchema.Model
import Mathlib.Data.List.Induction

/-!
# The round trip of a schema

Reading and writing are two passes over the fields. Each codec reads just what it writes
(`exact_codec`), except that `FixedAscii` writes any characters and reads printable ones and zeros
only. `roundTrip_iff` says when what is written reads back and when what is read is written back;
where the types of the members lose nothing, the characters alone decide.
-/

namespace LiberaLaser.BinarySchema

open ByteString

/-! ## Bytes of integers -/

theorem fromBytes_append_singleton (bytes : ByteString) (b : UInt8) :
    fromBytes (bytes ++ [b]) = fromBytes bytes * 256 + b.toNat := by
  have hor := Nat.two_pow_add_eq_or_of_lt b.toNat_lt (fromBytes bytes)
  rw [fromBytes, List.foldl_append, List.foldl_cons, List.foldl_nil, ← fromBytes,
    Nat.shiftLeft_eq, Nat.mul_comm (fromBytes bytes) (2 ^ 8), ← hor, Nat.mul_comm]

theorem length_toBytes (n v : ℕ) : (toBytes n v).length = n := by
  rw [toBytes, List.length_map, List.length_range]

theorem toBytes_succ (n v : ℕ) : toBytes (n + 1) v = toBytes n (v / 256) ++ [UInt8.ofNat v] := by
  rw [toBytes, List.range_succ, List.map_append, List.map_singleton, toBytes]
  congr 1
  · refine List.map_congr_left fun i hi => ?_
    have hi := List.mem_range.mp hi
    have hshift : 8 * (n + 1 - 1 - i) = 8 + 8 * (n - 1 - i) := by omega
    rw [hshift, Nat.shiftRight_add, Nat.shiftRight_eq_div_pow v 8]
  · have hshift : 8 * (n + 1 - 1 - n) = 0 := by omega
    rw [hshift, Nat.shiftRight_zero, Nat.and_two_pow_sub_one_eq_mod v 8]
    congr 1
    exact UInt8.toNat_inj.mp (by simp only [UInt8.toNat_ofNat', Nat.mod_mod])

theorem fromBytes_toBytes (n v : ℕ) : fromBytes (toBytes n v) = v % 2 ^ (8 * n) := by
  induction n generalizing v with
  | zero =>
    rw [Nat.mul_zero, Nat.pow_zero, Nat.mod_one]
    rfl
  | succ n ih =>
    have hpow : 2 ^ (8 * (n + 1)) = 256 * 2 ^ (8 * n) := by
      rw [Nat.mul_succ, Nat.pow_add, Nat.mul_comm]
    rw [toBytes_succ, fromBytes_append_singleton, ih, hpow, Nat.mod_mul, UInt8.toNat_ofNat']
    omega

theorem toBytes_fromBytes (bytes : ByteString) :
    toBytes bytes.length (fromBytes bytes) = bytes := by
  induction bytes using List.reverseRecOn with
  | nil => rfl
  | append_singleton bytes b ih =>
    have hb := b.toNat_lt
    have hdiv : (fromBytes bytes * 256 + b.toNat) / 256 = fromBytes bytes := by omega
    have hbyte : UInt8.ofNat (fromBytes bytes * 256 + b.toNat) = b := by
      apply UInt8.toNat_inj.mp
      rw [UInt8.toNat_ofNat']
      omega
    rw [List.length_append, List.length_singleton, toBytes_succ, fromBytes_append_singleton, hdiv,
      ih, hbyte]

theorem ByteOrder.arrange_arrange (order : ByteOrder) (bytes : ByteString) :
    order.arrange (order.arrange bytes) = bytes := by
  cases order with
  | big => rfl
  | little => exact bytes.reverse_reverse

@[simp] theorem ByteOrder.length_arrange (order : ByteOrder) (bytes : ByteString) :
    (order.arrange bytes).length = bytes.length := by
  cases order with
  | big => rfl
  | little => exact bytes.length_reverse

/-! ## Codecs -/

/-- The reader takes what the writer gives, for the values that it accepts. -/
structure Codec.Exact {α : Type} (codec : Codec α) (readable : α → Prop) : Prop where
  read_eq_ok : ∀ {location s v rest}, codec.read location s = .ok (v, rest) ↔
    readable v ∧ s = codec.write v ++ rest
  write_inj : ∀ {v v' rest rest'}, codec.write v ++ rest = codec.write v' ++ rest' →
    v = v' ∧ rest = rest'

section IntegerCodec

variable (order : ByteOrder) (n : ℕ) (need : String)

theorem length_write_integerCodec (v : BitVec (8 * n)) :
    ((integerCodec order n need).write v).length = n := by
  rw [integerCodec, ByteOrder.length_arrange, length_toBytes]

theorem ofNat_write_integerCodec (v : BitVec (8 * n)) :
    BitVec.ofNat (8 * n) (fromBytes (order.arrange ((integerCodec order n need).write v))) = v := by
  rw [integerCodec, ByteOrder.arrange_arrange, fromBytes_toBytes, Nat.mod_eq_of_lt v.isLt,
    BitVec.ofNat_toNat, BitVec.setWidth_eq]

theorem write_ofNat_integerCodec {bytes : ByteString} (h : bytes.length = n) :
    (integerCodec order n need).write
      (BitVec.ofNat (8 * n) (fromBytes (order.arrange bytes))) = bytes := by
  have hlength : (order.arrange bytes).length = n := (order.length_arrange bytes).trans h
  have hback := toBytes_fromBytes (order.arrange bytes)
  have hvalue := fromBytes_toBytes n (fromBytes (order.arrange bytes))
  rw [hlength] at hback
  rw [hback] at hvalue
  change order.arrange (toBytes n (BitVec.ofNat (8 * n) _).toNat) = bytes
  rw [BitVec.toNat_ofNat, ← hvalue, hback, ByteOrder.arrange_arrange]

theorem exact_integerCodec : (integerCodec order n need).Exact fun _ => True where
  read_eq_ok {location s v rest} := by
    have hread : (integerCodec order n need).read location s = if s.length < n then
        .error ⟨location, ofString need⟩
      else .ok (BitVec.ofNat (8 * n) (fromBytes (order.arrange (s.take n))), s.drop n) := rfl
    rw [hread, Except.ite_error_eq_ok, Except.ok.injEq, Prod.mk.injEq, Nat.not_lt, true_and]
    constructor
    · rintro ⟨hle, rfl, rfl⟩
      rw [write_ofNat_integerCodec order n need (List.length_take_of_le hle),
        List.take_append_drop]
    · rintro rfl
      have hlength := length_write_integerCodec order n need v
      refine ⟨?_, ?_, ?_⟩
      · rw [List.length_append, hlength]
        exact Nat.le_add_right _ _
      · rw [List.take_left' hlength, ofNat_write_integerCodec]
      · rw [List.drop_left' hlength]
  write_inj {v v' rest rest'} h := by
    have hlength := length_write_integerCodec order n need v
    have hlength' := length_write_integerCodec order n need v'
    obtain ⟨hwrite, hrest⟩ := List.append_inj h (hlength.trans hlength'.symm)
    refine ⟨?_, hrest⟩
    rw [← ofNat_write_integerCodec order n need v, hwrite, ofNat_write_integerCodec]

end IntegerCodec

theorem exact_fixedAscii (n : ℕ) : (FixedAscii n).Exact fun v => ∀ c ∈ v.toList, IsAscii c where
  read_eq_ok {location s v rest} := by
    simp only [FixedAscii, List.all_eq_true, decide_eq_true_eq]
    split
    · rename_i hshort
      refine ⟨nofun, ?_⟩
      rintro ⟨-, rfl⟩
      rw [List.length_append, v.toList_length] at hshort
      omega
    rename_i hlong
    split
    · rename_i hascii
      constructor
      · intro h
        obtain ⟨rfl, rfl⟩ := Prod.mk.inj (Except.ok.inj h)
        exact ⟨hascii, (List.take_append_drop n s).symm⟩
      · rintro ⟨-, rfl⟩
        refine congrArg Except.ok (Prod.ext ?_ (List.drop_left' v.toList_length))
        exact Subtype.ext (List.take_left' v.toList_length)
    · rename_i hascii
      refine ⟨nofun, ?_⟩
      rintro ⟨hv, rfl⟩
      rw [List.take_left' v.toList_length] at hascii
      exact absurd hv hascii
  write_inj {v v' rest rest'} h := by
    obtain ⟨hwrite, hrest⟩ := List.append_inj h (v.toList_length.trans v'.toList_length.symm)
    exact ⟨Subtype.ext hwrite, hrest⟩

/-- The reader of a codec accepts the value. -/
def CodecKind.Readable : (kind : CodecKind) → kind.Value → Prop
  | .fixedAscii _, v => ∀ c ∈ List.Vector.toList v, IsAscii c
  | _, _ => True

theorem exact_codec (kind : CodecKind) : kind.codec.Exact kind.Readable := by
  cases kind with
  | beU8 => exact exact_integerCodec .big 1 _
  | beU16 => exact exact_integerCodec .big 2 _
  | beU32 => exact exact_integerCodec .big 4 _
  | leU16 => exact exact_integerCodec .little 2 _
  | leU32 => exact exact_integerCodec .little 4 _
  | fixedAscii n => exact exact_fixedAscii n

/-! ## Fields -/

section Fields

variable {ι : Type} {Member : ι → Type}

/-- A field with a value of its codec. -/
structure RawField (Member : ι → Type) where
  field : Field Member
  raw : field.kind.Value

namespace RawField

variable (r : RawField Member)

def Readable : Prop := r.field.kind.Readable r.raw

def Accepted : Prop := r.field.checkRaw r.raw = .ok ()

def bytes : ByteString := r.field.kind.codec.write r.raw

def assignment : Sigma Member := ⟨r.field.memberPtr, r.field.assign r.raw⟩

end RawField

/-- What the codecs read for some fields, one after another. -/
def readRaws : List (Field Member) → ByteString → Option (List (RawField Member))
  | [], _ => some []
  | fd :: fields, s =>
    match fd.kind.codec.read fd.name s with
    | .error _ => none
    | .ok (raw, s) => (readRaws fields s).map (⟨fd, raw⟩ :: ·)

/-- What is written of an object. -/
def writtenRaws (fields : List (Field Member)) (obj : Object Member) : List (RawField Member) :=
  fields.map fun fd => ⟨fd, fd.extract (obj fd.memberPtr)⟩

theorem map_field_writtenRaws (fields : List (Field Member)) (obj : Object Member) :
    (writtenRaws fields obj).map RawField.field = fields := by
  rw [writtenRaws, List.map_map]
  exact List.map_id fields

variable {fields : List (Field Member)} {raws raws' : List (RawField Member)}
  {obj obj' : Object Member} {s out : ByteString}

theorem readRaws_cons_eq_some {fd : Field Member} : readRaws (fd :: fields) s = some raws ↔
    ∃ raw rest raws', fd.kind.codec.read fd.name s = .ok (raw, rest) ∧
      readRaws fields rest = some raws' ∧ raws = ⟨fd, raw⟩ :: raws' := by
  rw [readRaws]
  constructor
  · intro h
    split at h
    · cases h
    · rename_i raw rest hread
      obtain ⟨raws', hrest, rfl⟩ := Option.map_eq_some_iff.mp h
      exact ⟨raw, rest, raws', hread, hrest, rfl⟩
  · rintro ⟨raw, rest, raws', hread, hrest, rfl⟩
    simp only [hread, hrest, Option.map_some]

theorem readRaws_eq_some : readRaws fields s = some raws ↔
    raws.map RawField.field = fields ∧ (∀ r ∈ raws, r.Readable) ∧
      raws.flatMap RawField.bytes <+: s := by
  induction fields generalizing s raws with
  | nil =>
    rw [readRaws, Option.some.injEq, List.map_eq_nil_iff]
    constructor
    · rintro rfl
      exact ⟨rfl, nofun, List.nil_prefix⟩
    · rintro ⟨rfl, -⟩
      rfl
  | cons fd fields ih =>
    rw [readRaws_cons_eq_some]
    constructor
    · rintro ⟨raw, rest, raws, hread, hrest, rfl⟩
      obtain ⟨hreadable, rfl⟩ := (exact_codec fd.kind).read_eq_ok.mp hread
      obtain ⟨hfields, hraws, hprefix⟩ := ih.mp hrest
      refine ⟨?_, List.forall_mem_cons.mpr ⟨hreadable, hraws⟩, ?_⟩
      · rw [List.map_cons, hfields]
      · rw [List.flatMap_cons]
        exact (List.prefix_append_right_inj _).mpr hprefix
    · rintro ⟨hfields, hraws, hprefix⟩
      obtain ⟨⟨_, raw⟩, raws, rfl, hfield, hrest⟩ := List.map_eq_cons_iff.mp hfields
      obtain rfl : _ = fd := hfield
      obtain ⟨hreadable, hraws⟩ := List.forall_mem_cons.mp hraws
      obtain ⟨tail, rfl⟩ := hprefix
      rw [List.flatMap_cons, List.append_assoc]
      exact ⟨raw, _, raws, (exact_codec _).read_eq_ok.mpr ⟨hreadable, rfl⟩,
        ih.mpr ⟨hrest, hraws, List.prefix_append _ tail⟩, rfl⟩

/-- The bytes of some fields tell their values. -/
theorem raws_unique (hfields : raws.map RawField.field = raws'.map RawField.field)
    (h : raws.flatMap RawField.bytes <+: s) (h' : raws'.flatMap RawField.bytes <+: s) :
    raws = raws' := by
  induction raws generalizing raws' s with
  | nil =>
    exact (List.map_eq_nil_iff.mp hfields.symm).symm
  | cons r raws ih =>
    obtain ⟨r', raws', rfl, hfield, hrest⟩ := List.map_eq_cons_iff.mp hfields.symm
    obtain ⟨fd, raw⟩ := r
    obtain ⟨_, raw'⟩ := r'
    obtain rfl : fd = _ := hfield.symm
    obtain ⟨tail, rfl⟩ := h
    obtain ⟨tail', h'⟩ := h'
    simp only [List.flatMap_cons, List.append_assoc] at h'
    obtain ⟨rfl, htail⟩ := (exact_codec fd.kind).write_inj h'
    rw [ih hrest.symm (List.prefix_append _ tail) ⟨tail', htail⟩]

theorem encodeFields_eq_ok : encodeFields fields obj = .ok out ↔
    (∀ fd ∈ fields, fd.checkValue (obj fd.memberPtr) = .ok ()) ∧
      out = (writtenRaws fields obj).flatMap RawField.bytes := by
  induction fields generalizing out with
  | nil =>
    rw [encodeFields, Except.ok.injEq]
    exact ⟨fun h => ⟨nofun, h.symm⟩, fun h => h.2.symm⟩
  | cons fd fields ih =>
    simp only [encodeFields, Except.do_eq_ok, ih, List.forall_mem_cons]
    constructor
    · rintro ⟨_, hcheck, _, ⟨hchecks, rfl⟩, hreturn⟩
      cases hreturn
      exact ⟨⟨hcheck, hchecks⟩, rfl⟩
    · rintro ⟨⟨hcheck, hchecks⟩, rfl⟩
      exact ⟨(), hcheck, _, ⟨hchecks, rfl⟩, rfl⟩

variable [DecidableEq ι]

theorem decodeFields_eq_ok : decodeFields fields obj s = .ok obj' ↔
    ∃ raws, readRaws fields s = some raws ∧ (∀ r ∈ raws, r.Accepted) ∧
      obj' = Record.assign obj (raws.map RawField.assignment) := by
  induction fields generalizing obj s with
  | nil =>
    rw [decodeFields, Except.ok.injEq]
    constructor
    · rintro rfl
      exact ⟨[], rfl, nofun, rfl⟩
    · rintro ⟨raws, hread, -, rfl⟩
      cases hread
      rfl
  | cons fd fields ih =>
    simp only [decodeFields, readRaws_cons_eq_some, Except.do_eq_ok, ih]
    constructor
    · rintro ⟨⟨raw, rest⟩, hread, _, hcheck, raws, hrest, haccepted, rfl⟩
      exact ⟨⟨fd, raw⟩ :: raws, ⟨raw, rest, raws, hread, hrest, rfl⟩,
        List.forall_mem_cons.mpr ⟨hcheck, haccepted⟩, rfl⟩
    · rintro ⟨_, ⟨raw, rest, raws, hread, hrest, rfl⟩, haccepted, rfl⟩
      obtain ⟨hcheck, haccepted⟩ := List.forall_mem_cons.mp haccepted
      exact ⟨(raw, rest), hread, (), hcheck, raws, hrest, haccepted, rfl⟩

end Fields

/-! ## Schemas -/

section Schemas

variable {ι : Type} {Member : ι → Type}

namespace Schema

variable (sch : Schema Member)

/-- Every member has a field. -/
def Covers : Prop := ∀ i, ∃ fd ∈ sch.fields, fd.memberPtr = i

variable [DecidableEq ι]

/-- The codecs and the validators accept what is written of an object, and of the values that are
assigned to a member the last one is its own. -/
structure ReadsBack (obj : Object Member) : Prop where
  readable : ∀ r ∈ writtenRaws sch.fields obj, r.Readable
  accepted : ∀ r ∈ writtenRaws sch.fields obj, r.Accepted
  same : ∀ i, ∀ v ∈ Record.assigned ((writtenRaws sch.fields obj).map RawField.assignment) i,
    v = obj i

/-- The validators accept the last value that is assigned to the member of a field, and it is
written as what was read for the field. -/
def WritesBack (bytes : ByteString) : Prop :=
  ∀ raws, readRaws sch.fields bytes = some raws → ∀ r ∈ raws,
    ∀ v ∈ Record.assigned (raws.map RawField.assignment) r.field.memberPtr,
      r.field.checkValue v = .ok () ∧ r.field.extract v = r.raw

end Schema

variable {sch : Schema Member}

theorem exists_assignment (hcover : sch.Covers) {raws : List (RawField Member)}
    (h : raws.map RawField.field = sch.fields) (i : ι) :
    ∃ a ∈ raws.map RawField.assignment, a.1 = i := by
  obtain ⟨fd, hfd, rfl⟩ := hcover i
  rw [← h] at hfd
  obtain ⟨r, hr, rfl⟩ := List.mem_map.mp hfd
  exact ⟨r.assignment, List.mem_map_of_mem hr, rfl⟩

variable {obj initial : Object Member} {bytes out : ByteString}

theorem encode_eq_ok : encode sch obj = .ok out ↔ sch.objValidator obj = .ok () ∧
    (∀ fd ∈ sch.fields, fd.checkValue (obj fd.memberPtr) = .ok ()) ∧
      out = (writtenRaws sch.fields obj).flatMap RawField.bytes := by
  simp only [encode, Except.do_eq_ok, encodeFields_eq_ok]
  exact ⟨fun ⟨_, hvalid, h⟩ => ⟨hvalid, h⟩, fun ⟨hvalid, h⟩ => ⟨(), hvalid, h⟩⟩

variable [DecidableEq ι]

theorem decode_eq_ok : decode sch initial bytes = .ok obj ↔
    decodeFields sch.fields initial bytes = .ok obj ∧ sch.objValidator obj = .ok () := by
  simp only [decode, Except.do_eq_ok]
  constructor
  · rintro ⟨obj', hfields, _, hvalid, hreturn⟩
    cases hreturn
    exact ⟨hfields, hvalid⟩
  · rintro ⟨hfields, hvalid⟩
    exact ⟨obj, hfields, (), hvalid, rfl⟩

theorem decode_encode_iff (hcover : sch.Covers) (hencode : encode sch obj = .ok bytes) :
    decode sch initial bytes = .ok obj ↔ sch.ReadsBack obj := by
  obtain ⟨hvalid, -, rfl⟩ := encode_eq_ok.mp hencode
  have hfields := map_field_writtenRaws sch.fields obj
  have hassigned := exists_assignment hcover hfields
  rw [decode_eq_ok, decodeFields_eq_ok]
  constructor
  · rintro ⟨⟨raws, hread, haccepted, hobj⟩, -⟩
    obtain ⟨hfields', hreadable, hprefix⟩ := readRaws_eq_some.mp hread
    obtain rfl := raws_unique (hfields'.trans hfields.symm) hprefix List.prefix_rfl
    refine ⟨hreadable, haccepted, fun i v hv => ?_⟩
    rw [Record.assigned_eq_some (hassigned i) initial, Option.mem_some_iff] at hv
    rw [← hv, ← hobj]
  · intro h
    refine ⟨⟨_, readRaws_eq_some.mpr ⟨hfields, h.readable, List.prefix_rfl⟩, h.accepted, ?_⟩,
      hvalid⟩
    funext i
    exact (h.same i _ (Record.assigned_eq_some (hassigned i) initial)).symm

theorem encode_decode_iff (hcover : sch.Covers) (hdecode : decode sch initial bytes = .ok obj) :
    (∃ out, encode sch obj = .ok out ∧ out <+: bytes) ↔ sch.WritesBack bytes := by
  obtain ⟨hfields, hvalid⟩ := decode_eq_ok.mp hdecode
  obtain ⟨raws, hread, -, hobj⟩ := decodeFields_eq_ok.mp hfields
  obtain ⟨hfields, -, hprefix⟩ := readRaws_eq_some.mp hread
  have hassigned (i : ι) : Record.assigned (raws.map RawField.assignment) i = some (obj i) := by
    rw [hobj]
    exact Record.assigned_eq_some (exists_assignment hcover hfields i) initial
  have hmem {fd : Field Member} : fd ∈ sch.fields ↔ ∃ r ∈ raws, r.field = fd := by
    rw [← hfields, List.mem_map]
  simp only [encode_eq_ok]
  constructor
  · rintro ⟨out, ⟨-, hchecks, rfl⟩, hout⟩ raws' hread' r hr v hv
    obtain rfl := Option.some.inj (hread.symm.trans hread')
    rw [hassigned, Option.mem_some_iff] at hv
    subst hv
    have hsame : writtenRaws sch.fields obj = raws :=
      raws_unique ((map_field_writtenRaws _ _).trans hfields.symm) hout hprefix
    refine ⟨hchecks _ (hmem.mpr ⟨r, hr, rfl⟩), ?_⟩
    rw [← hsame, writtenRaws, List.mem_map] at hr
    obtain ⟨fd, -, rfl⟩ := hr
    rfl
  · intro h
    have hraw : ∀ r ∈ raws, r.field.checkValue (obj r.field.memberPtr) = .ok () ∧
        r.field.extract (obj r.field.memberPtr) = r.raw :=
      fun r hr => h raws hread r hr _ (hassigned _)
    have hsame : writtenRaws sch.fields obj = raws := by
      have hid : raws.map ((fun fd => ⟨fd, fd.extract (obj fd.memberPtr)⟩) ∘ RawField.field) =
          raws.map id := by
        refine List.map_congr_left fun r hr => ?_
        rw [Function.comp_apply, (hraw r hr).2, id]
      rw [writtenRaws, ← hfields, List.map_map, hid, List.map_id]
    refine ⟨_, ⟨hvalid, fun fd hfd => ?_, rfl⟩, ?_⟩
    · obtain ⟨r, hr, rfl⟩ := hmem.mp hfd
      exact (hraw r hr).1
    · rw [hsame]
      exact hprefix

/-- **When a schema makes the round trip**: an object exactly when the codecs and the validators
accept what is written of it and every member gets its own value back; bytes exactly when every
member is written as what was read for each of its fields. -/
theorem roundTrip_iff (hcover : sch.Covers) (initial : Object Member) :
    (∀ obj bytes, encode sch obj = .ok bytes →
      (decode sch initial bytes = .ok obj ↔ sch.ReadsBack obj)) ∧
    ∀ bytes obj, decode sch initial bytes = .ok obj →
      ((∃ out, encode sch obj = .ok out ∧ out <+: bytes) ↔ sch.WritesBack bytes) :=
  ⟨fun _ _ => decode_encode_iff hcover, fun _ _ => encode_decode_iff hcover⟩

/-! ## Members of the types of their codecs -/

/-- The member has the values of the codec, and the validators do not tell them apart. -/
structure Field.Lossless (fd : Field Member) : Prop where
  assign_extract : ∀ v, fd.assign (fd.extract v) = v
  extract_assign : ∀ raw, fd.extract (fd.assign raw) = raw
  check : ∀ raw, fd.checkRaw raw = fd.checkValue (fd.assign raw)

theorem readsBack_iff_of_lossless (hlossless : ∀ fd ∈ sch.fields, fd.Lossless)
    (hencode : encode sch obj = .ok bytes) :
    sch.ReadsBack obj ↔ ∀ r ∈ writtenRaws sch.fields obj, r.Readable := by
  obtain ⟨-, hchecks, -⟩ := encode_eq_ok.mp hencode
  refine ⟨fun h => h.readable, fun h => ⟨h, fun r hr => ?_, fun i v hv => ?_⟩⟩
  · obtain ⟨fd, hfd, rfl⟩ := List.mem_map.mp hr
    rw [RawField.Accepted, (hlossless fd hfd).check, (hlossless fd hfd).assign_extract]
    exact hchecks fd hfd
  · obtain ⟨r, hr, hassignment⟩ := List.mem_map.mp (List.mem_reverse.mp (List.of_mem_dlookup hv))
    obtain ⟨fd, hfd, rfl⟩ := List.mem_map.mp hr
    rw [RawField.assignment, (hlossless fd hfd).assign_extract] at hassignment
    cases hassignment
    rfl

theorem writesBack_of_lossless (hlossless : ∀ fd ∈ sch.fields, fd.Lossless)
    (hnodup : (sch.fields.map Field.memberPtr).Nodup)
    (hdecode : decode sch initial bytes = .ok obj) : sch.WritesBack bytes := by
  intro raws hread r hr v hv
  obtain ⟨raws', hread', haccepted, -⟩ := decodeFields_eq_ok.mp (decode_eq_ok.mp hdecode).1
  obtain rfl := Option.some.inj (hread'.symm.trans hread)
  obtain ⟨hfields, -, -⟩ := readRaws_eq_some.mp hread
  have hfd := hlossless r.field (by rw [← hfields]; exact List.mem_map_of_mem hr)
  have hkeys : (raws'.map RawField.assignment).reverse.NodupKeys := by
    rw [List.NodupKeys, List.keys, List.map_reverse, List.nodup_reverse, List.map_map]
    rw [← hfields, List.map_map] at hnodup
    exact hnodup
  have hmem : r.assignment ∈ (raws'.map RawField.assignment).reverse :=
    List.mem_reverse.mpr (List.mem_map_of_mem hr)
  have hv' : v = r.field.assign r.raw :=
    Option.mem_unique hv ((List.mem_dlookup hkeys hmem : _))
  rw [hv', hfd.extract_assign, ← hfd.check]
  exact ⟨haccepted r hr, rfl⟩

end Schemas

/-! ## A small packet -/

namespace Sample

inductive PacketMember where
  | proto
  | rate
  | label
  deriving DecidableEq

def PacketMember.Value : PacketMember → Type
  | proto => BitVec 8
  | rate => BitVec 32
  | label => List.Vector UInt8 4

open PacketMember in
def fields : List (Field PacketMember.Value) :=
  [{ name := ofString "proto", memberPtr := proto, kind := .beU8, assign := id, extract := id,
      validators := [⟨NonZero, NonZero⟩, ⟨EnumRange 1 3, EnumRange 1 3⟩] },
    { name := ofString "rate", memberPtr := rate, kind := .beU32, assign := id, extract := id,
      validators := [] },
    { name := ofString "label", memberPtr := label, kind := .fixedAscii 4, assign := id,
      extract := id, validators := [⟨NotEmptyAscii, NotEmptyAscii⟩] }]

def schema : Schema PacketMember.Value where
  fields := fields
  objValidator obj :=
    let proto : BitVec 8 := obj .proto
    if proto = 1 then .ok () else .error ⟨ofString "proto", ofString "unsupported"⟩

def initial : Object PacketMember.Value
  | .proto => (0 : BitVec 8)
  | .rate => (0 : BitVec 32)
  | .label => List.Vector.replicate 4 0

def packet (label : List.Vector UInt8 4) : Object PacketMember.Value
  | .proto => (1 : BitVec 8)
  | .rate => (30000 : BitVec 32)
  | .label => label

theorem covers : schema.Covers := by
  intro i
  cases i with
  | proto => exact ⟨_, List.mem_cons_self, rfl⟩
  | rate => exact ⟨_, List.mem_cons_of_mem _ List.mem_cons_self, rfl⟩
  | label => exact ⟨_, List.mem_cons_of_mem _ (List.mem_cons_of_mem _ List.mem_cons_self), rfl⟩

theorem lossless : ∀ fd ∈ schema.fields, fd.Lossless := by
  have hfield {fd : Field PacketMember.Value} (h : fd ∈ fields) : fd.Lossless := by
    simp only [fields, List.mem_cons, List.not_mem_nil, or_false] at h
    obtain rfl | rfl | rfl := h
    · exact ⟨fun _ => rfl, fun _ => rfl, fun _ => rfl⟩
    · exact ⟨fun _ => rfl, fun _ => rfl, fun _ => rfl⟩
    · exact ⟨fun _ => rfl, fun _ => rfl, fun _ => rfl⟩
  exact fun _ => hfield

end Sample

/-- A packet with a printable label reads back, and what is read is written back. -/
theorem sample_reads_back :
    decode Sample.schema Sample.initial [1, 0, 0, 0x75, 0x30, 76, 97, 98, 0] =
      .ok (Sample.packet ⟨[76, 97, 98, 0], rfl⟩) ∧
    ∃ out, encode Sample.schema (Sample.packet ⟨[76, 97, 98, 0], rfl⟩) = .ok out ∧
      out <+: [1, 0, 0, 0x75, 0x30, 76, 97, 98, 0] := by
  obtain ⟨hobject, hbytes⟩ := roundTrip_iff Sample.covers Sample.initial
  have hencode : encode Sample.schema (Sample.packet ⟨[76, 97, 98, 0], rfl⟩) =
      .ok [1, 0, 0, 0x75, 0x30, 76, 97, 98, 0] := by rfl
  have hreads : Sample.schema.ReadsBack (Sample.packet ⟨[76, 97, 98, 0], rfl⟩) := by
    refine (readsBack_iff_of_lossless Sample.lossless hencode).mpr ?_
    have hlabel : ∀ c ∈ ([76, 97, 98, 0] : ByteString), IsAscii c := by simp [IsAscii]
    exact List.forall_mem_cons.mpr ⟨trivial, List.forall_mem_cons.mpr ⟨trivial,
      List.forall_mem_cons.mpr ⟨hlabel, nofun⟩⟩⟩
  have hdecode := (hobject _ _ hencode).mpr hreads
  exact ⟨hdecode,
    (hbytes _ _ hdecode).mpr (writesBack_of_lossless Sample.lossless (by decide) hdecode)⟩

/-- A packet whose label has a letter with an accent is written, and does not read back. -/
theorem accented_label_lost :
    encode Sample.schema (Sample.packet ⟨[0xE9, 0, 0, 0], rfl⟩) =
      .ok [1, 0, 0, 0x75, 0x30, 0xE9, 0, 0, 0] ∧
    decode Sample.schema Sample.initial [1, 0, 0, 0x75, 0x30, 0xE9, 0, 0, 0] =
      .error ⟨ofString "label", ofString "non-ASCII char"⟩ :=
  ⟨by rfl, by rfl⟩

end LiberaLaser.BinarySchema
