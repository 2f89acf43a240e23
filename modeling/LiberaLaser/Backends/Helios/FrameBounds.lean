import LiberaLaser.Backends.Helios.WriteFrame
import LiberaLaser.Core.RoundedArith

/-!
# What a Helios DAC is sent

A transfer should declare a number of points and a rate within the limits of the device, and hold as
many points as it declares. A frame is read and encoded within its bounds whatever its length and
rate. It is declared correctly unless the sub-sampling for a rate above the maximum leaves no point
of it, or a rate next to the minimum is rounded below it when a point is left out
(`sendsValid_iff`).
-/

namespace LiberaLaser.Helios

open FloatArith Loop

/-! ## Transfers -/

namespace Transfer

/-- The last five bytes of the buffer. -/
def trailer (t : Transfer) : List UInt8 :=
  t.buffer.drop (t.buffer.length - 5)

/-- The rate that the trailer declares. -/
def declaredPps (t : Transfer) : ℕ :=
  (t.trailer.getD 0 0).toNat + 256 * (t.trailer.getD 1 0).toNat

/-- The number of points that the trailer declares. -/
def declaredPointCount (t : Transfer) : ℕ :=
  (t.trailer.getD 2 0).toNat + 256 * (t.trailer.getD 3 0).toNat

/-- The transfer holds seven bytes for each point that it declares, and its trailer; the number of
points and the rate are within the limits. -/
structure Valid (limits : SdkLimits) (t : Transfer) : Prop where
  buffer_length : t.buffer.length = t.declaredPointCount * 7 + 5
  length_eq : t.length = t.buffer.length
  one_le_count : 1 ≤ t.declaredPointCount
  count_le : t.declaredPointCount ≤ limits.maxPoints
  le_pps : limits.minPps ≤ t.declaredPps
  pps_le : t.declaredPps ≤ limits.maxPps

instance (limits : SdkLimits) (t : Transfer) : Decidable (t.Valid limits) :=
  decidable_of_iff
    (t.buffer.length = t.declaredPointCount * 7 + 5 ∧ t.length = t.buffer.length ∧
      1 ≤ t.declaredPointCount ∧ t.declaredPointCount ≤ limits.maxPoints ∧
      limits.minPps ≤ t.declaredPps ∧ t.declaredPps ≤ limits.maxPps)
    ⟨fun ⟨h₁, h₂, h₃, h₄, h₅, h₆⟩ => ⟨h₁, h₂, h₃, h₄, h₅, h₆⟩,
      fun ⟨h₁, h₂, h₃, h₄, h₅, h₆⟩ => ⟨h₁, h₂, h₃, h₄, h₅, h₆⟩⟩

end Transfer

/-! ## Writing the buffer -/

/-- The bytes have been written to a buffer of some size. -/
structure Wrote (total : ℕ) (bytes : List UInt8) (w : BufferWrite) : Prop where
  buffer_eq : w.buffer = bytes ++ List.replicate (total - bytes.length) 0
  bufPos_eq : w.bufPos = bytes.length
  length_le : bytes.length ≤ total

namespace Wrote

variable {total : ℕ} {bytes : List UInt8} {w : BufferWrite}

theorem start (total : ℕ) : Wrote total [] ⟨List.replicate total 0, 0⟩ :=
  ⟨rfl, rfl, Nat.zero_le _⟩

theorem put (h : Wrote total bytes w) (byte : UInt8) (hroom : bytes.length < total) :
    ∃ w', w.put byte = some w' ∧ Wrote total (bytes ++ [byte]) w' := by
  obtain ⟨left, hleft⟩ : ∃ left, total - bytes.length = left + 1 := ⟨_, (Nat.sub_one_add_one (by
    omega)).symm⟩
  have hlength : w.bufPos < w.buffer.length := by
    rw [h.buffer_eq, h.bufPos_eq, List.length_append, List.length_replicate]
    omega
  refine ⟨_, by rw [BufferWrite.put, if_pos hlength], ?_, ?_, ?_⟩
  · have hleft' : total - (bytes ++ [byte]).length = left := by
      rw [List.length_append, List.length_singleton]
      omega
    rw [hleft', h.bufPos_eq, h.buffer_eq, hleft, List.replicate_succ,
      List.set_append_right _ _ le_rfl, Nat.sub_self, List.set_cons_zero, List.append_assoc]
    rfl
  · rw [h.bufPos_eq, List.length_append]
    rfl
  · rw [List.length_append, List.length_singleton]
    omega

theorem putAll (h : Wrote total bytes w) {more : List UInt8}
    (hroom : bytes.length + more.length ≤ total) :
    ∃ w', w.putAll more = some w' ∧ Wrote total (bytes ++ more) w' := by
  induction more generalizing bytes w with
  | nil => exact ⟨w, rfl, by rwa [List.append_nil]⟩
  | cons byte more ih =>
    rw [List.length_cons] at hroom
    obtain ⟨w₁, hput, h₁⟩ := h.put byte (by omega)
    obtain ⟨w₂, hputAll, h₂⟩ := ih h₁ (by
      rw [List.length_append, List.length_singleton]
      omega)
    refine ⟨w₂, ?_, by rwa [List.append_cons]⟩
    rw [BufferWrite.putAll, List.foldlM_cons, hput]
    exact hputAll

/-- A buffer that is full holds the bytes and nothing else. -/
theorem full (h : Wrote total bytes w) (hfull : bytes.length = total) :
    w = ⟨bytes, total⟩ := by
  have hbuffer := h.buffer_eq
  rw [hfull, Nat.sub_self, List.replicate_zero, List.append_nil] at hbuffer
  cases w
  simp only [BufferWrite.mk.injEq]
  exact ⟨hbuffer, h.bufPos_eq.trans hfull⟩

end Wrote

/-- The first `count` points, taking one of every `samplingFactor`. -/
def sampledPoints (points : List HeliosPointExt) (samplingFactor count : ℕ) :
    List HeliosPointExt :=
  (List.range count).filterMap fun k => points[k * samplingFactor]?

theorem length_pointBytes (point : HeliosPointExt) : (pointBytes point).length = 7 := rfl

theorem sampledPoints_succ {points : List HeliosPointExt} {samplingFactor count : ℕ}
    {point : HeliosPointExt} (h : points[count * samplingFactor]? = some point) :
    sampledPoints points samplingFactor (count + 1) =
      sampledPoints points samplingFactor count ++ [point] := by
  rw [sampledPoints, List.range_succ, List.filterMap_append]
  simp only [List.filterMap_cons, List.filterMap_nil, h]
  rfl

/-- The bytes of the first `k` of the points to send. -/
def sentBytes (points : List HeliosPointExt) (samplingFactor k : ℕ) : List UInt8 :=
  (sampledPoints points samplingFactor k).flatMap pointBytes

/-- The first `k` points have been encoded. -/
structure Encoded (points : List HeliosPointExt) (samplingFactor count k : ℕ)
    (w : BufferWrite) : Prop where
  wrote : Wrote (count * 7 + 5) (sentBytes points samplingFactor k) w
  length_eq : (sentBytes points samplingFactor k).length = k * 7

section Encode

variable {points : List HeliosPointExt} {samplingFactor count : ℕ}

/-- One pass encodes one point, or finds that all are encoded. -/
theorem encodePass_spec (hfactor : 1 ≤ samplingFactor)
    (hlength : count * samplingFactor ≤ points.length) (hfits : points.length < 2 ^ 32)
    {st : EncodePass}
    (hst : ∃ k ≤ count, st.i = k * samplingFactor ∧
      Encoded points samplingFactor count k st.write) :
    PassSpec (encodePass points samplingFactor (count * samplingFactor) st)
      (fun st' => (∃ k ≤ count, st'.i = k * samplingFactor ∧
          Encoded points samplingFactor count k st'.write) ∧
        count * samplingFactor - st'.i < count * samplingFactor - st.i)
      (fun w => Encoded points samplingFactor count count w) := by
  obtain ⟨k, hk, hi, hw⟩ := hst
  unfold encodePass
  split
  · rename_i hend
    have hcount : count ≤ k := Nat.le_of_mul_le_mul_right (hi ▸ hend) hfactor
    obtain rfl : k = count := le_antisymm hk hcount
    exact PassSpec.done _ rfl hw
  · rename_i hmore
    have hlt : k * samplingFactor < count * samplingFactor := by omega
    have hkc : k + 1 ≤ count := Nat.lt_of_mul_lt_mul_right hlt
    have hstep : (k + 1) * samplingFactor = k * samplingFactor + samplingFactor :=
      Nat.succ_mul _ _
    have hnext : (k + 1) * samplingFactor ≤ count * samplingFactor :=
      Nat.mul_le_mul_right _ hkc
    have hwrap : (k * samplingFactor + samplingFactor) % 2 ^ 32 = (k + 1) * samplingFactor := by
      rw [hstep]
      exact Nat.mod_eq_of_lt (by omega)
    have hget : points[k * samplingFactor]? = some points[k * samplingFactor] :=
      List.getElem?_eq_getElem _
    have hbytes : sentBytes points samplingFactor (k + 1) =
        sentBytes points samplingFactor k ++ pointBytes points[k * samplingFactor] := by
      rw [sentBytes, sampledPoints_succ hget, List.flatMap_append, List.flatMap_singleton]
      rfl
    have hroom : (sentBytes points samplingFactor k).length +
        (pointBytes points[k * samplingFactor]).length ≤ count * 7 + 5 := by
      rw [hw.length_eq, length_pointBytes]
      omega
    obtain ⟨w', hput, hw'⟩ := hw.wrote.putAll hroom
    simp only [hi, hget, hput]
    refine PassSpec.again _ rfl ⟨⟨k + 1, hkc, hwrap, hbytes ▸ hw', ?_⟩, ?_⟩
    · rw [hbytes, List.length_append, hw.length_eq, length_pointBytes]
      omega
    · show _ - (k * samplingFactor + samplingFactor) % 2 ^ 32 < _
      rw [hwrap]
      omega

/-- **The encoding stays within the frame and the buffer**, and fills the buffer. -/
theorem encodeFrame_spec (ppsActual flags : ℕ) (hfactor : 1 ≤ samplingFactor)
    (hlength : count * samplingFactor ≤ points.length) (hfits : points.length < 2 ^ 32) :
    (sentBytes points samplingFactor count).length = count * 7 ∧
      encodeFrame points samplingFactor count ppsActual flags =
        some ⟨sentBytes points samplingFactor count ++ trailerBytes ppsActual count flags,
          count * 7 + 5⟩ := by
  have hloop : count * samplingFactor % 2 ^ 32 = count * samplingFactor :=
    Nat.mod_eq_of_lt (by omega)
  obtain ⟨w, hrun, hw⟩ := run_total (fun st : EncodePass => count * samplingFactor - st.i)
    (fun _ hst => encodePass_spec hfactor hlength hfits hst)
    (s := { i := 0, write := ⟨List.replicate (count * 7 + 5) 0, 0⟩ })
    ⟨0, Nat.zero_le _, (Nat.zero_mul _).symm, Wrote.start _, rfl⟩
    (Nat.lt_succ_of_le (Nat.sub_le _ _))
  have hroom : (sentBytes points samplingFactor count).length +
      (trailerBytes ppsActual count flags).length ≤ count * 7 + 5 := by
    rw [hw.length_eq]
    rfl
  obtain ⟨w', hput, hw'⟩ := hw.wrote.putAll hroom
  refine ⟨hw.length_eq, ?_⟩
  simp only [encodeFrame, hloop, hrun, hput]
  rw [hw'.full (by rw [List.length_append, hw.length_eq]; rfl)]

end Encode

/-! ## The trailer -/

theorem toNat_two_bytes {n : ℕ} (h : n < 2 ^ 16) :
    (UInt8.ofNat (n &&& 0xFF)).toNat + 256 * (UInt8.ofNat (n >>> 8)).toNat = n := by
  have hlow : n &&& 0xFF = n % 256 := Nat.and_two_pow_sub_one_eq_mod n 8
  have hhigh : n >>> 8 = n / 256 := Nat.shiftRight_eq_div_pow n 8
  rw [hlow, hhigh, UInt8.toNat_ofNat', UInt8.toNat_ofNat']
  omega

/-- The trailer declares the numbers it was written with. -/
theorem declared_eq {t : Transfer} {bytes : List UInt8} {ppsActual count flags : ℕ}
    (ht : t.buffer = bytes ++ trailerBytes ppsActual count flags) (hpps : ppsActual < 2 ^ 16)
    (hcount : count < 2 ^ 16) : t.declaredPps = ppsActual ∧ t.declaredPointCount = count := by
  have htrailer : t.trailer = trailerBytes ppsActual count flags := by
    rw [Transfer.trailer, ht, List.length_append]
    exact List.drop_left' (by simp [trailerBytes])
  constructor
  · rw [Transfer.declaredPps, htrailer]
    exact toNat_two_bytes hpps
  · rw [Transfer.declaredPointCount, htrailer]
    exact toNat_two_bytes hcount

/-! ## The limits and the frames that break them -/

/-- What is known of the limits: they are positive, the rates are far enough apart, and the trailer
has room for both. -/
structure SdkLimits.Valid (limits : SdkLimits) : Prop where
  maxPoints_pos : 0 < limits.maxPoints
  minPps_pos : 0 < limits.minPps
  two_mul_minPps_le : 2 * limits.minPps ≤ limits.maxPps
  maxPoints_lt : limits.maxPoints < 2 ^ 16
  maxPps_lt : limits.maxPps < 2 ^ 16

/-- The counts of the arithmetic in `unsigned int` fit. -/
structure FitsUnsigned (limits : SdkLimits) (pps numOfPoints : ℕ) : Prop where
  pps_lt : pps < 2 ^ 32
  numOfPoints_lt : numOfPoints < 2 ^ 32
  duplicated_lt : pps < limits.minPps → numOfPoints * (limits.minPps / pps + 1) < 2 ^ 32
  factor_lt : numOfPoints / limits.maxPoints + 1 < 2 ^ 32

/-- The rate is above the maximum, and by such a factor that the frame has no more points; or just
one point may be sent, and the rate allows to leave out all others. -/
def SampledAway (limits : SdkLimits) (pps numOfPoints : ℕ) : Prop :=
  limits.maxPps < pps ∧ numOfPoints * limits.maxPps ≤ pps ∨
    limits.maxPoints = 1 ∧ 2 ≤ numOfPoints ∧ limits.minPps * (numOfPoints + 1) ≤ pps

/-- The last of `numOfPoints` points is left out, and the rate that makes up for it rounds to less
than the minimum. -/
def Slowed (limits : SdkLimits) (pps numOfPoints : ℕ) : Prop :=
  numOfPoints % 64 = 45 ∧
    2 * (pps * (numOfPoints - 1)) + numOfPoints < limits.minPps * (2 * numOfPoints)

/-- The frame is slowed down, once it is duplicated, as it is, or sub-sampled. -/
def RoundedDown (limits : SdkLimits) (pps numOfPoints : ℕ) : Prop :=
  let repeats := limits.minPps / pps + 1
  let samplingFactor := max (pps / limits.maxPps + 1) (numOfPoints / limits.maxPoints + 1)
  if pps < limits.minPps then
    numOfPoints * repeats ≤ limits.maxPoints ∧
      Slowed limits (pps * repeats) (numOfPoints * repeats)
  else if limits.maxPps < pps ∨ limits.maxPoints < numOfPoints then
    limits.minPps ≤ pps / samplingFactor ∧
      Slowed limits (pps / samplingFactor) (numOfPoints / samplingFactor)
  else Slowed limits pps numOfPoints

/-! ## A frame that fits -/

variable {D : Type} [FloatArith D] {limits : SdkLimits}

/-- **The workaround** keeps the upper limits; it keeps the lower ones unless there is no point, or
the frame is slowed down. -/
theorem transferSizeWorkaround_spec (arith : RoundedArith D 53) (hlimits : limits.Valid)
    {numOfPoints pps : ℕ} (hcount : numOfPoints ≤ limits.maxPoints)
    (hpps : pps ≤ limits.maxPps) (hpps' : limits.minPps ≤ pps) :
    ∃ count ppsActual, transferSizeWorkaround D numOfPoints pps = (count, ppsActual) ∧
      count ≤ numOfPoints ∧ ppsActual ≤ pps ∧ (1 ≤ count ↔ 1 ≤ numOfPoints) ∧
      (limits.minPps ≤ ppsActual ↔ ¬ Slowed limits pps numOfPoints) := by
  have hcount16 := hcount.trans_lt hlimits.maxPoints_lt
  have hpps16 := hpps.trans_lt hlimits.maxPps_lt
  have hedge : (Int.bmod numOfPoints (2 ^ 32) - 45).tmod 64 = 0 ↔ numOfPoints % 64 = 45 := by
    rw [Int.bmod_eq_of_le (by omega) (by omega), ← Int.dvd_iff_tmod_eq_zero]
    omega
  unfold transferSizeWorkaround
  split
  · rename_i hbranch
    have hmod := hedge.mp hbranch
    have hpos := hlimits.minPps_pos
    have hfewer : numOfPoints - 1 < 2 ^ 16 := by omega
    have hrate := arith.toSize_mul_div_add_half hpps16 hfewer
      (show 0 < numOfPoints by omega) hcount16
    refine ⟨_, _, rfl, Nat.sub_le _ _, ?_, by omega, ?_⟩
    · -- leaving out a point never makes the rate higher
      have hless : pps * (numOfPoints - 1) + pps = pps * numOfPoints := by
        rw [← Nat.mul_succ, Nat.succ_eq_add_one, Nat.sub_add_cancel (by omega)]
      have hnext : 2 * numOfPoints * (pps + 1) = 2 * (pps * numOfPoints) + 2 * numOfPoints := by
        ring
      rw [hrate]
      refine Nat.lt_succ_iff.mp (Nat.div_lt_of_lt_mul ?_)
      rw [Nat.succ_eq_add_one, hnext]
      omega
    · rw [hrate, Nat.le_div_iff_mul_le (by omega), Slowed, not_and, not_lt]
      exact ⟨fun h _ => h, fun h => h hmod⟩
  · rename_i hbranch
    refine ⟨_, _, rfl, le_rfl, le_rfl, Iff.rfl, iff_of_true hpps' fun hslowed => ?_⟩
    exact hbranch (hedge.mpr hslowed.1)

/-- What reaches the bulk transfer. -/
theorem transfer_sendFrame {write : BufferWrite} {usb : UsbOutcomes} {c : DirectUsbConnection}
    {t : Transfer} (h : t ∈ (sendFrame write usb c).transfer) :
    t.buffer = write.buffer ∧ t.length = write.bufPos := by
  have hsend : ∀ {c : DirectUsbConnection}, t ∈ (sendTransfer write usb.bulk c).transfer →
      t.buffer = write.buffer ∧ t.length = write.bufPos := by
    intro c h
    unfold sendTransfer at h
    dsimp only at h
    split at h <;> (cases h; exact ⟨rfl, rfl⟩)
  unfold sendFrame at h
  split at h
  · exact hsend h
  · dsimp only at h
    split at h
    · cases h
    · exact hsend h

/-- With the shutter open the transfer is reached. -/
theorem transfer_sendFrame_open (write : BufferWrite) :
    ∃ t, t ∈ (sendFrame write ⟨⟨.success, 0⟩, ⟨.success, 0⟩⟩ ⟨true, false, true⟩).transfer :=
  ⟨_, rfl⟩

/-- Every transfer that a write reaches is valid, and nothing is read or written out of bounds. -/
def SendsValid (D : Type) [FloatArith D] (limits : SdkLimits) (pps flags : ℕ)
    (points : List HeliosPointExt) : Prop :=
  ∀ usb c, ∃ outcome, writeFrameExtended D limits usb pps flags points c = some outcome ∧
    ∀ t ∈ outcome.transfer, t.Valid limits

section Fitted

variable {pps flags : ℕ} {points : List HeliosPointExt}

/-- A frame that is refused is not sent. -/
theorem sendsValid_of_refused
    (h : (∃ result, duplicatePoints limits pps points = .error result) ∨
      ∃ source numOfPoints rate result,
        duplicatePoints limits pps points = .ok (source, numOfPoints, rate) ∧
        subSample limits rate numOfPoints = .error result) :
    SendsValid D limits pps flags points := by
  intro usb c
  unfold writeFrameExtended
  split
  · exact ⟨_, rfl, by simp⟩
  · split
    · exact ⟨_, rfl, by simp⟩
    · rcases h with ⟨result, hdup⟩ | ⟨source, numOfPoints, rate, result, hdup, hsub⟩
      · simp only [hdup]
        exact ⟨_, rfl, by simp⟩
      · simp only [hdup, hsub]
        exact ⟨_, rfl, by simp⟩

/-- The transfer of a fitted frame. -/
theorem valid_iff_of_encoded (hlimits : limits.Valid) {t : Transfer} {bytes : List UInt8}
    {count ppsActual : ℕ} (hbytes : bytes.length = count * 7)
    (hbuffer : t.buffer = bytes ++ trailerBytes ppsActual count flags)
    (hlength : t.length = count * 7 + 5) (hcount : count ≤ limits.maxPoints)
    (hpps : ppsActual ≤ limits.maxPps) :
    t.Valid limits ↔ 1 ≤ count ∧ limits.minPps ≤ ppsActual := by
  obtain ⟨hdpps, hdcount⟩ := declared_eq hbuffer (hpps.trans_lt hlimits.maxPps_lt)
    (hcount.trans_lt hlimits.maxPoints_lt)
  have hbufferLength : t.buffer.length = count * 7 + 5 := by
    rw [hbuffer, List.length_append, hbytes]
    rfl
  constructor
  · intro h
    exact ⟨hdcount ▸ h.one_le_count, hdpps ▸ h.le_pps⟩
  · rintro ⟨hone, hmin⟩
    refine ⟨?_, hlength.trans hbufferLength.symm, ?_, ?_, ?_, ?_⟩
    · rw [hdcount, hbufferLength]
    · rwa [hdcount]
    · rwa [hdcount]
    · rwa [hdpps]
    · rwa [hdpps]

/-- A frame that can be encoded is sent. -/
theorem writeFrameExtended_of_encoded {usb : UsbOutcomes} {c : DirectUsbConnection}
    (hopen : (!c.handle || c.closed) = false) (hpoints : points ≠ [])
    {source : List HeliosPointExt} {total rate samplingFactor numOfPoints pps' : ℕ}
    {count ppsActual : ℕ} {write : BufferWrite}
    (hdup : duplicatePoints limits pps points = .ok (source, total, rate))
    (hsub : subSample limits rate total = .ok (samplingFactor, numOfPoints, pps'))
    (hwork : transferSizeWorkaround D numOfPoints pps' = (count, ppsActual))
    (hencode : encodeFrame source samplingFactor count ppsActual flags = some write) :
    writeFrameExtended D limits usb pps flags points c = some (sendFrame write usb c) := by
  have hempty : points.isEmpty = false := by simpa using hpoints
  unfold writeFrameExtended
  rw [if_neg (by simp [hopen]), if_neg (by simp [hempty]), hdup]
  dsimp only
  rw [hsub]
  dsimp only
  rw [hwork, hencode]
  rfl

/-- **A frame that is fitted to the limits** is sent as it should be exactly when a point of it is
left, and it is not slowed down. -/
theorem sendsValid_iff_of_fitted (arith : RoundedArith D 53) (hlimits : limits.Valid)
    (hpoints : points ≠ []) {source : List HeliosPointExt} {total rate samplingFactor : ℕ}
    {numOfPoints pps' : ℕ} (hdup : duplicatePoints limits pps points = .ok (source, total, rate))
    (hsub : subSample limits rate total = .ok (samplingFactor, numOfPoints, pps'))
    (hsource : source.length < 2 ^ 32) (hfactor : 1 ≤ samplingFactor)
    (hlength : numOfPoints * samplingFactor ≤ source.length)
    (hcount : numOfPoints ≤ limits.maxPoints) (hmax : pps' ≤ limits.maxPps)
    (hmin : limits.minPps ≤ pps') :
    SendsValid D limits pps flags points ↔ 1 ≤ numOfPoints ∧ ¬ Slowed limits pps' numOfPoints := by
  obtain ⟨count, ppsActual, hwork, hcountLe, hppsLe, hcountPos, hppsMin⟩ :=
    transferSizeWorkaround_spec arith hlimits hcount hmax hmin
  obtain ⟨hbytes, hencode⟩ := encodeFrame_spec ppsActual flags hfactor
    ((Nat.mul_le_mul_right _ hcountLe).trans hlength) hsource
  have hvalid : ∀ {usb c t}, t ∈ (sendFrame ⟨sentBytes source samplingFactor count ++
      trailerBytes ppsActual count flags, count * 7 + 5⟩ usb c).transfer →
      (t.Valid limits ↔ 1 ≤ numOfPoints ∧ ¬ Slowed limits pps' numOfPoints) := by
    intro usb c t ht
    obtain ⟨hbuffer, htlength⟩ := transfer_sendFrame ht
    rw [← hcountPos, ← hppsMin]
    exact valid_iff_of_encoded hlimits hbytes hbuffer htlength (hcountLe.trans hcount)
      (hppsLe.trans hmax)
  constructor
  · intro h
    -- a connection with its shutter open reaches the transfer
    obtain ⟨outcome, houtcome, hall⟩ :=
      h ⟨⟨.success, 0⟩, ⟨.success, 0⟩⟩ ⟨true, false, true⟩
    rw [writeFrameExtended_of_encoded rfl hpoints hdup hsub hwork hencode,
      Option.some.injEq] at houtcome
    subst houtcome
    obtain ⟨t, ht⟩ := transfer_sendFrame_open (⟨sentBytes source samplingFactor count ++
      trailerBytes ppsActual count flags, count * 7 + 5⟩ : BufferWrite)
    exact (hvalid ht).mp (hall t ht)
  · intro h usb c
    cases hopen : (!c.handle || c.closed) with
    | true => exact ⟨_, by rw [writeFrameExtended, if_pos hopen], by simp⟩
    | false =>
      exact ⟨_, writeFrameExtended_of_encoded hopen hpoints hdup hsub hwork hencode,
        fun t ht => (hvalid ht).mpr h⟩

end Fitted

/-! ## Every frame -/

section Regimes

variable {pps numOfPoints : ℕ}

theorem lowRateFactor_eq (hlimits : limits.Valid) (pps : ℕ) :
    lowRateFactor limits pps = limits.minPps / pps + 1 := by
  have hmin := hlimits.two_mul_minPps_le
  have hmax := hlimits.maxPps_lt
  have hdiv := Nat.div_le_self limits.minPps pps
  exact Nat.mod_eq_of_lt (by omega)

/-- A rate below the minimum is multiplied into the limits. -/
theorem low_rate_bounds (hlimits : limits.Valid) (hpps : 1 ≤ pps) (hlow : pps < limits.minPps) :
    limits.minPps ≤ pps * (limits.minPps / pps + 1) ∧
      pps * (limits.minPps / pps + 1) ≤ limits.maxPps := by
  have hmul : pps * (limits.minPps / pps) ≤ limits.minPps := Nat.mul_div_le _ _
  have hmod : limits.minPps < pps * (limits.minPps / pps + 1) := Nat.lt_mul_div_succ _ hpps
  have hmin := hlimits.two_mul_minPps_le
  rw [Nat.mul_succ] at hmod ⊢
  omega

theorem subSamplingFactor_eq (hlimits : limits.Valid)
    (hfits : FitsUnsigned limits pps numOfPoints) :
    subSamplingFactor limits pps numOfPoints =
      max (pps / limits.maxPps + 1) (numOfPoints / limits.maxPoints + 1) := by
  have hpps : pps / limits.maxPps + 1 < 2 ^ 32 := by
    have hmin := hlimits.two_mul_minPps_le
    have hpos := hlimits.minPps_pos
    have hlt := hfits.pps_lt
    have hhalf : pps / limits.maxPps ≤ pps / 2 := Nat.div_le_div_left (by omega) (by decide)
    omega
  rw [subSamplingFactor, Nat.mod_eq_of_lt hpps, Nat.mod_eq_of_lt hfits.factor_lt]

/-- Sub-sampling keeps the upper limits. -/
theorem subSample_bounds (hlimits : limits.Valid) (pps numOfPoints : ℕ) :
    pps / max (pps / limits.maxPps + 1) (numOfPoints / limits.maxPoints + 1) ≤ limits.maxPps ∧
      numOfPoints / max (pps / limits.maxPps + 1) (numOfPoints / limits.maxPoints + 1) ≤
        limits.maxPoints := by
  have hdiv : ∀ {n limit s : ℕ}, 0 < limit → n / limit + 1 ≤ s → n / s ≤ limit := by
    intro n limit s hlimit hs
    have hlt : n < (n / limit + 1) * (limit + 1) :=
      calc n < limit * (n / limit + 1) := Nat.lt_mul_div_succ n hlimit
        _ = (n / limit + 1) * limit := Nat.mul_comm _ _
        _ ≤ (n / limit + 1) * (limit + 1) := Nat.mul_le_mul_left _ (Nat.le_succ _)
    exact (Nat.div_le_div_left hs (Nat.succ_pos _)).trans
      (Nat.lt_succ_iff.mp (Nat.div_lt_of_lt_mul hlt))
  have hpos : 0 < limits.maxPps := by
    have := hlimits.minPps_pos
    have := hlimits.two_mul_minPps_le
    omega
  exact ⟨hdiv hpos (le_max_left _ _), hdiv hlimits.maxPoints_pos (le_max_right _ _)⟩

/-- **A frame is sampled away exactly when the sampling factor exceeds the number of its points**,
and the rate stays above the minimum. -/
theorem sampledAway_iff (hlimits : limits.Valid) (hpoints : 1 ≤ numOfPoints)
    (hsampled : limits.maxPps < pps ∨ limits.maxPoints < numOfPoints) {s : ℕ}
    (hs : s = max (pps / limits.maxPps + 1) (numOfPoints / limits.maxPoints + 1)) :
    SampledAway limits pps numOfPoints ↔ limits.minPps * s ≤ pps ∧ numOfPoints < s := by
  obtain ⟨q, hq⟩ : ∃ q, pps / limits.maxPps = q := ⟨_, rfl⟩
  have hpos := hlimits.minPps_pos
  have htwo := hlimits.two_mul_minPps_le
  have hqle : q * limits.maxPps ≤ pps := hq ▸ Nat.div_mul_le_self _ _
  -- from a factor of two on, the rate allows the sampling
  have hrate : 1 ≤ q → limits.minPps * (q + 1) ≤ pps := by
    intro hone
    have h₁ : limits.minPps * (q + 1) ≤ limits.minPps * (2 * q) :=
      Nat.mul_le_mul_left _ (by omega)
    have h₂ : limits.minPps * (2 * q) ≤ q * limits.maxPps := by
      calc limits.minPps * (2 * q) = q * (2 * limits.minPps) := by ring
        _ ≤ q * limits.maxPps := Nat.mul_le_mul_left _ htwo
    omega
  rw [hq] at hs
  have hle : numOfPoints * limits.maxPps ≤ pps ↔ numOfPoints ≤ q := by
    rw [← hq, Nat.le_div_iff_mul_le (by omega)]
  have hfactor : numOfPoints / limits.maxPoints ≤ numOfPoints := Nat.div_le_self _ _
  rw [SampledAway, hle]
  constructor
  · rintro (⟨-, hfew⟩ | ⟨hone, htwo, hlast⟩)
    · have hs' : s = q + 1 := by omega
      rw [hs']
      exact ⟨hrate (by omega), by omega⟩
    · rw [hone, Nat.div_one] at hs
      rcases le_total q numOfPoints with hfew | hmany
      · rw [hs, max_eq_right (by omega)]
        exact ⟨hlast, by omega⟩
      · rw [hs, max_eq_left (by omega)]
        exact ⟨hrate (by omega), by omega⟩
  · rintro ⟨hlast, hfew⟩
    by_cases hq' : numOfPoints ≤ q
    · left
      refine ⟨?_, hq'⟩
      rcases hsampled with hfast | hmany
      · exact hfast
      · have hmaxPoints := hlimits.maxPoints_pos
        have : 2 * limits.maxPps ≤ q * limits.maxPps := Nat.mul_le_mul_right _ (by omega)
        omega
    · right
      have hself : numOfPoints ≤ numOfPoints / limits.maxPoints := by omega
      have hone : limits.maxPoints = 1 := by
        by_contra hne
        have hmaxPoints := hlimits.maxPoints_pos
        have hhalf : numOfPoints / limits.maxPoints ≤ numOfPoints / 2 :=
          Nat.div_le_div_left (by omega) (by decide)
        omega
      refine ⟨hone, ?_, (Nat.mul_le_mul_left _ (by omega)).trans hlast⟩
      rcases hsampled with hfast | hmany
      · have : 1 ≤ q := hq ▸ (Nat.one_le_div_iff (by omega)).mpr hfast.le
        omega
      · omega

/-- No frame is slowed down where the minimum rate is small. -/
theorem not_roundedDown (hlimits : limits.Valid) (hpps : 1 ≤ pps) (hmin : limits.minPps ≤ 22) :
    ¬ RoundedDown limits pps numOfPoints := by
  have hslowed : ∀ {r n : ℕ}, limits.minPps ≤ r → ¬ Slowed limits r n := by
    rintro r n hr ⟨hmod, hlt⟩
    have hmul : limits.minPps * (n - 1) ≤ r * (n - 1) := Nat.mul_le_mul_right _ hr
    have hsplit : limits.minPps * (2 * n) = 2 * (limits.minPps * (n - 1)) + 2 * limits.minPps := by
      obtain ⟨k, rfl⟩ : ∃ k, n = k + 1 := ⟨n - 1, by omega⟩
      rw [Nat.add_sub_cancel]
      ring
    omega
  unfold RoundedDown
  dsimp only
  split
  · rename_i hlow
    exact fun h => hslowed (low_rate_bounds hlimits hpps hlow).1 h.2
  · split
    · exact fun h => hslowed h.1 h.2
    · rename_i hlow _
      exact hslowed (Nat.le_of_not_lt hlow)

end Regimes

section Frames

variable {pps flags : ℕ} {points : List HeliosPointExt}

/-- A frame at too low a rate. -/
theorem sendsValid_iff_of_low (arith : RoundedArith D 53) (hlimits : limits.Valid)
    (hpoints : points ≠ []) (hpps : 1 ≤ pps) (hfits : FitsUnsigned limits pps points.length)
    (hlow : pps < limits.minPps) :
    SendsValid D limits pps flags points ↔
      ¬ (points.length * (limits.minPps / pps + 1) ≤ limits.maxPoints ∧
        Slowed limits (pps * (limits.minPps / pps + 1))
          (points.length * (limits.minPps / pps + 1))) := by
  obtain ⟨hge, hle⟩ := low_rate_bounds hlimits hpps hlow
  have hrate : pps * (limits.minPps / pps + 1) % 2 ^ 32 = pps * (limits.minPps / pps + 1) :=
    Nat.mod_eq_of_lt (by have := hlimits.maxPps_lt; omega)
  have hcount : points.length * (limits.minPps / pps + 1) % 2 ^ 32 =
      points.length * (limits.minPps / pps + 1) := Nat.mod_eq_of_lt (hfits.duplicated_lt hlow)
  have hzero : pps ≠ 0 := by omega
  by_cases hmany : limits.maxPoints < points.length * (limits.minPps / pps + 1)
  · have hdup : duplicatePoints limits pps points = .error .ppsTooLow := by
      simp only [duplicatePoints, if_pos hlow, if_neg hzero, lowRateFactor_eq hlimits, hcount,
        if_pos hmany]
    exact iff_of_true (sendsValid_of_refused (Or.inl ⟨_, hdup⟩)) fun h => absurd h.1 (by omega)
  · have hdup : duplicatePoints limits pps points =
        .ok (points.flatMap (List.replicate (limits.minPps / pps + 1) ·),
          points.length * (limits.minPps / pps + 1), pps * (limits.minPps / pps + 1)) := by
      simp only [duplicatePoints, if_pos hlow, if_neg hzero, lowRateFactor_eq hlimits, hcount,
        hrate, if_neg hmany]
    have hsub : subSample limits (pps * (limits.minPps / pps + 1))
        (points.length * (limits.minPps / pps + 1)) =
          .ok (1, points.length * (limits.minPps / pps + 1),
            pps * (limits.minPps / pps + 1)) := by
      rw [subSample, if_neg (by omega)]
    have hlength : (points.flatMap (List.replicate (limits.minPps / pps + 1) ·)).length =
        points.length * (limits.minPps / pps + 1) := by
      simp [List.length_flatMap]
    have hone : 1 ≤ points.length * (limits.minPps / pps + 1) :=
      Nat.mul_pos (List.length_pos_iff.mpr hpoints) (Nat.succ_pos _)
    rw [sendsValid_iff_of_fitted arith hlimits hpoints hdup hsub
      (by rw [hlength]; exact hfits.duplicated_lt hlow) le_rfl (by rw [hlength, Nat.mul_one])
      (Nat.le_of_not_lt hmany) hle hge, not_and]
    exact ⟨fun h _ => h.2, fun h => ⟨hone, h (Nat.le_of_not_lt hmany)⟩⟩

/-- A frame at too high a rate, or of too many points. -/
theorem sendsValid_iff_of_sampled (arith : RoundedArith D 53) (hlimits : limits.Valid)
    (hpoints : points ≠ []) (hfits : FitsUnsigned limits pps points.length)
    (hlow : ¬ pps < limits.minPps)
    (hsampled : limits.maxPps < pps ∨ limits.maxPoints < points.length) {s : ℕ}
    (hs : s = max (pps / limits.maxPps + 1) (points.length / limits.maxPoints + 1)) :
    SendsValid D limits pps flags points ↔
      (limits.minPps * s ≤ pps → s ≤ points.length ∧
        ¬ Slowed limits (pps / s) (points.length / s)) := by
  have hpos : 0 < s := hs ▸ lt_max_of_lt_left (Nat.succ_pos _)
  have hdup : duplicatePoints limits pps points = .ok (points, points.length, pps) := by
    simp only [duplicatePoints, if_neg hlow]
  have hsub : subSample limits pps points.length =
      if pps / s < limits.minPps then .error .tooManyPoints
      else .ok (s, points.length / s, pps / s) := by
    simp only [subSample, if_pos hsampled, subSamplingFactor_eq hlimits hfits, ← hs]
  have hrate : limits.minPps ≤ pps / s ↔ limits.minPps * s ≤ pps := Nat.le_div_iff_mul_le hpos
  by_cases hslow : pps / s < limits.minPps
  · rw [if_pos hslow] at hsub
    refine iff_of_true (sendsValid_of_refused (Or.inr ⟨_, _, _, _, hdup, hsub⟩)) fun h => ?_
    exact absurd (hrate.mpr h) (Nat.not_le_of_lt hslow)
  · rw [if_neg hslow] at hsub
    obtain ⟨hmax, hcount⟩ := subSample_bounds hlimits pps points.length
    rw [← hs] at hmax hcount
    have hmin : limits.minPps ≤ pps / s := Nat.le_of_not_lt hslow
    have hleft : 1 ≤ points.length / s ↔ s ≤ points.length := Nat.one_le_div_iff hpos
    rw [sendsValid_iff_of_fitted arith hlimits hpoints hdup hsub hfits.numOfPoints_lt hpos
      (Nat.div_mul_le_self _ _) hcount hmax hmin, hleft]
    exact ⟨fun h _ => h, fun h => h (hrate.mp hmin)⟩

/-- A frame that is sent as it is. -/
theorem sendsValid_iff_of_plain (arith : RoundedArith D 53) (hlimits : limits.Valid)
    (hpoints : points ≠ []) (hfits : FitsUnsigned limits pps points.length)
    (hlow : ¬ pps < limits.minPps)
    (hplain : ¬ (limits.maxPps < pps ∨ limits.maxPoints < points.length)) :
    SendsValid D limits pps flags points ↔ ¬ Slowed limits pps points.length := by
  have hdup : duplicatePoints limits pps points = .ok (points, points.length, pps) := by
    simp only [duplicatePoints, if_neg hlow]
  have hsub : subSample limits pps points.length = .ok (1, points.length, pps) := by
    rw [subSample, if_neg hplain]
  rw [not_or, not_lt, not_lt] at hplain
  rw [sendsValid_iff_of_fitted arith hlimits hpoints hdup hsub hfits.numOfPoints_lt le_rfl
    (Nat.mul_one _).le hplain.2 hplain.1 (Nat.le_of_not_lt hlow)]
  exact and_iff_right (List.length_pos_iff.mpr hpoints)

/-- **What is sent is within the limits of the device**, and read and written within bounds, exactly
when the frame is neither sampled away nor slowed below the minimum rate. -/
theorem sendsValid_iff (arith : RoundedArith D 53) (hlimits : limits.Valid)
    (hpps : 1 ≤ pps) (hpoints : points ≠ []) (hfits : FitsUnsigned limits pps points.length) :
    SendsValid D limits pps flags points ↔
      ¬ SampledAway limits pps points.length ∧ ¬ RoundedDown limits pps points.length := by
  have hone : 1 ≤ points.length := List.length_pos_iff.mpr hpoints
  have htwo := hlimits.two_mul_minPps_le
  by_cases hlow : pps < limits.minPps
  · have haway : ¬ SampledAway limits pps points.length := by
      rintro (⟨hfast, -⟩ | ⟨-, -, hlast⟩)
      · omega
      · have : limits.minPps * 1 ≤ limits.minPps * (points.length + 1) :=
          Nat.mul_le_mul_left _ (Nat.le_add_left _ _)
        omega
    rw [sendsValid_iff_of_low arith hlimits hpoints hpps hfits hlow, RoundedDown]
    simp only [if_pos hlow]
    exact (and_iff_right haway).symm
  · by_cases hsampled : limits.maxPps < pps ∨ limits.maxPoints < points.length
    · have hs : 0 < max (pps / limits.maxPps + 1) (points.length / limits.maxPoints + 1) :=
        lt_max_of_lt_left (Nat.succ_pos _)
      rw [sendsValid_iff_of_sampled arith hlimits hpoints hfits hlow hsampled rfl,
        sampledAway_iff hlimits hone hsampled rfl, RoundedDown]
      simp only [if_neg hlow, if_pos hsampled, Nat.le_div_iff_mul_le hs, not_and, not_lt]
      exact ⟨fun h => ⟨fun hrate => (h hrate).1, fun hrate => (h hrate).2⟩,
        fun h hrate => ⟨h.1 hrate, h.2 hrate⟩⟩
    · have haway : ¬ SampledAway limits pps points.length := by
        rintro (⟨hfast, -⟩ | ⟨hsingle, hmany, -⟩)
        · exact hsampled (Or.inl hfast)
        · exact hsampled (Or.inr (by omega))
      rw [sendsValid_iff_of_plain arith hlimits hpoints hfits hlow hsampled, RoundedDown]
      simp only [if_neg hlow, if_neg hsampled]
      exact (and_iff_right haway).symm

end Frames

/-! ## A frame of one point -/

/-- The limits of a device. -/
def deviceLimits : SdkLimits where
  maxPoints := 4095
  minPps := 7
  maxPps := 65535

def litPoint : HeliosPointExt where
  x := 0x8000
  y := 0x8000
  r := 0xFFFF
  g := 0
  b := 0
  i := 0xFFFF

theorem deviceLimits_valid : deviceLimits.Valid :=
  ⟨by decide, by decide, by decide, by decide, by decide⟩

/-- **At one point per second above the maximum, a frame of one point is sent without its
point.** -/
theorem onePoint_sampledAway : deviceLimits.Valid ∧ FitsUnsigned deviceLimits 65536 1 ∧
    ∃ outcome, writeFrameExtended ℚ deviceLimits ⟨⟨.success, 2⟩, ⟨.success, 5⟩⟩ 65536 0 [litPoint]
        ⟨true, false, true⟩ = some outcome ∧ outcome.result = .success ∧
      ∃ t ∈ outcome.transfer, t.declaredPointCount = 0 ∧ t.buffer.length = 5 ∧
        ¬ t.Valid deviceLimits := by
  refine ⟨deviceLimits_valid, ⟨by decide, by decide, by decide, by decide⟩, ?_⟩
  have hwrite : (writeFrameExtended ℚ deviceLimits ⟨⟨.success, 2⟩, ⟨.success, 5⟩⟩ 65536 0
      [litPoint] ⟨true, false, true⟩).map (fun outcome => (outcome.result,
        outcome.transfer.map fun t =>
          (t.declaredPointCount, t.buffer.length, decide (t.Valid deviceLimits)))) =
      some (.success, some (0, 5, false)) := by
    decide +kernel
  obtain ⟨outcome, hwrite, heq⟩ := Option.map_eq_some_iff.mp hwrite
  simp only [Prod.mk.injEq, Option.map_eq_some_iff, decide_eq_false_iff_not] at heq
  obtain ⟨hresult, t, ht, hcount, hlength, hinvalid⟩ := heq
  exact ⟨outcome, hwrite, hresult, t, ht, hcount, hlength, hinvalid⟩

/-- Two points are sent as they should be: as they are at a rate within the limits, each twice at
one below the minimum, and one of them at one above the maximum. -/
theorem twoPoints_sent : SendsValid ℚ deviceLimits 30000 0 [litPoint, litPoint] ∧
    SendsValid ℚ deviceLimits 5 0 [litPoint, litPoint] ∧
    SendsValid ℚ deviceLimits 65536 0 [litPoint, litPoint] := by
  have hsent {pps : ℕ} (hpps : 1 ≤ pps) (hfits : FitsUnsigned deviceLimits pps 2)
      (haway : ¬ SampledAway deviceLimits pps 2) :
      SendsValid ℚ deviceLimits pps 0 [litPoint, litPoint] :=
    (sendsValid_iff (.rat 53) deviceLimits_valid hpps
      (List.cons_ne_nil litPoint [litPoint]) hfits).mpr
        ⟨haway, not_roundedDown deviceLimits_valid hpps (by decide)⟩
  unfold SampledAway at hsent
  exact ⟨hsent (by decide) ⟨by decide, by decide, by decide, by decide⟩ (by decide),
    hsent (by decide) ⟨by decide, by decide, by decide, by decide⟩ (by decide),
    hsent (by decide) ⟨by decide, by decide, by decide, by decide⟩ (by decide)⟩

end LiberaLaser.Helios
