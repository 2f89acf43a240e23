import LiberaLaser.Backends.Avb.Render
import LiberaLaser.Core.Controller.ContentSource

/-!
# The order of the banks

A bank decides what it writes from its own state, and it writes to its own eight channels. Banks
start at different multiples of eight, so their writes commute, and the order in which they are
rendered is of no consequence.
-/

namespace LiberaLaser

open BufferWrites LaserController

variable {τ F D : Type}

/-- The place belongs to one of the eight channels that start at an offset. -/
def Owns (totalChannelCount channelOffset place : ℕ) : Prop :=
  channelOffset ≤ place % totalChannelCount ∧ place % totalChannelCount < channelOffset + 8

/-- The place of a channel in a frame. -/
theorem place_of_lt {frame frameCount channel total : ℕ} (hframe : frame < frameCount)
    (hchannel : channel < total) :
    frame * total + channel < frameCount * total ∧ (frame * total + channel) % total = channel := by
  have hnext : (frame + 1) * total ≤ frameCount * total := Nat.mul_le_mul_right total hframe
  rw [Nat.add_mul, Nat.one_mul] at hnext
  refine ⟨by omega, ?_⟩
  rw [Nat.mul_add_mod_self_right, Nat.mod_eq_of_lt hchannel]

/-- Aligned channels do not overlap. -/
theorem Owns.unique {total channelOffset channelOffset' place : ℕ}
    (h : Owns total channelOffset place) (h' : Owns total channelOffset' place)
    (haligned : 8 ∣ channelOffset) (haligned' : 8 ∣ channelOffset') :
    channelOffset = channelOffset' := by
  obtain ⟨k, rfl⟩ := haligned
  obtain ⟨k', rfl⟩ := haligned'
  obtain ⟨hlow, hhigh⟩ := h
  obtain ⟨hlow', hhigh'⟩ := h'
  omega

namespace AvbController

/-- The controller is that of the bank that starts at a channel. -/
structure IsBankAt (channelOffset : ℕ) (c : AvbController τ F D) : Prop where
  offset_eq : c.channelOffset.toNat = channelOffset
  count_eq : c.channelCount = 8
  aligned : 8 ∣ channelOffset
  fits : channelOffset + 8 < 2 ^ 32

variable [FloatArith F] {c : AvbController τ F D} {channelOffset frameCount total : ℕ}

theorem places_frameWrites (frameOut : ℕ) (point : LaserPoint F) (c : AvbController τ F D) :
    places (c.frameWrites frameOut point) = (List.range 8).map (frameOut + ·) := rfl

/-- The writes of some frames. -/
def pointWrites (total : ℕ) (c : AvbController τ F D) : ℕ → List (LaserPoint F) → List (ℕ × F)
  | _, [] => []
  | frameIndex, point :: points =>
    c.frameWrites (frameIndex * total + c.channelOffset.toNat) point ++
      c.pointWrites total (frameIndex + 1) points

theorem writePoints_eq (frameIndex : ℕ) (points : List (LaserPoint F)) (output : List F) :
    c.writePoints total frameIndex points output =
      writeAll (c.pointWrites total frameIndex points) output := by
  induction points generalizing frameIndex output with
  | nil => rfl
  | cons point points ih =>
    rw [writePoints, pointWrites, writeAll_append]
    cases writeAll (c.frameWrites (frameIndex * total + c.channelOffset.toNat) point) output with
    | none => rfl
    | some output => exact ih (frameIndex + 1) output

/-- **A bank writes to its own channels.** -/
theorem owns_of_mem_pointWrites (hbank : IsBankAt channelOffset c)
    (hfits : channelOffset + 8 ≤ total) {frameIndex : ℕ} {points : List (LaserPoint F)} {place : ℕ}
    (h : place ∈ places (c.pointWrites total frameIndex points)) :
    place < (frameIndex + points.length) * total ∧ Owns total channelOffset place := by
  induction points generalizing frameIndex with
  | nil => cases h
  | cons point points ih =>
    rw [pointWrites, places, List.map_append] at h
    rcases List.mem_append.mp h with h | h
    · rw [← places, places_frameWrites, hbank.offset_eq] at h
      obtain ⟨k, hk, rfl⟩ := List.mem_map.mp h
      have hk : k < 8 := List.mem_range.mp hk
      have hframe : frameIndex < frameIndex + (point :: points).length :=
        Nat.lt_add_of_pos_right (Nat.succ_pos _)
      have hchannel : channelOffset + k < total := by omega
      obtain ⟨hlt, hmod⟩ := place_of_lt hframe hchannel
      rw [Nat.add_assoc]
      refine ⟨hlt, ?_⟩
      rw [Owns, hmod]
      omega
    · obtain ⟨hlt, howns⟩ := ih h
      refine ⟨?_, howns⟩
      rw [List.length_cons, Nat.add_comm points.length 1, ← Nat.add_assoc]
      exact hlt

variable [FloatArith D]

/-- The controller after a block, and what it writes. -/
def rendered (frameCount total : ℕ) (estimatedFirstRenderTime : TimePoint) (input : BankInput)
    (c : AvbController τ F D) : Option (AvbController τ F D × List (ℕ × F)) :=
  if frameCount = 0 ∨ total = 0 then some (c, [])
  else if total < (c.channelOffset + c.channelCount).toNat ∨ c.channelCount < 8 then some (c, [])
  else
    match c.toLaserController.requestPoints (c.blockRequest frameCount estimatedFirstRenderTime)
        input.context input.invocation with
    | none => none
    | some (laser, none) => some ({ c with toLaserController := laser }, [])
    | some (laser, some pointsToSend) =>
      let points := (pointsToSend.map Stamped.point).take frameCount
      some ({ c with
        toLaserController := laser
        currentPointIndex := (c.currentPointIndex + points.length) % 2 ^ 64 },
        c.pointWrites total 0 points)

/-- **What a bank writes does not depend on the buffer.** -/
theorem renderInterleavedBlock_eq (output : List F) (time : TimePoint) (input : BankInput) :
    c.renderInterleavedBlock output frameCount total time input =
      (c.rendered frameCount total time input).bind fun r =>
        (writeAll r.2 output).map fun output => (r.1, output) := by
  rw [renderInterleavedBlock, rendered]
  split
  · rfl
  dsimp only
  split
  · rfl
  generalize c.toLaserController.requestPoints (c.blockRequest frameCount time) input.context
    input.invocation = answer
  obtain _ | ⟨laser, _ | pointsToSend⟩ := answer
  · rfl
  · rfl
  · dsimp only
    rw [writePoints_eq, Option.bind_some]
    generalize writeAll (c.pointWrites total 0 _) output = written
    cases written <;> rfl

theorem rendered_spec (hsource : SourceInv c.toLaserController) (hbank : IsBankAt channelOffset c)
    (frameCount total : ℕ) (time : TimePoint) (input : BankInput) :
    ∃ c' ws, c.rendered frameCount total time input = some (c', ws) ∧
      SourceInv c'.toLaserController ∧ IsBankAt channelOffset c' ∧
      ∀ place ∈ places ws, place < frameCount * total ∧ Owns total channelOffset place := by
  rw [rendered]
  split
  · exact ⟨c, [], rfl, hsource, hbank, fun _ h => nomatch h⟩
  split
  · exact ⟨c, [], rfl, hsource, hbank, fun _ h => nomatch h⟩
  rename_i hchannels
  have hend : (c.channelOffset + c.channelCount).toNat = channelOffset + 8 := by
    rw [hbank.count_eq, UInt32.toNat_add, hbank.offset_eq]
    exact Nat.mod_eq_of_lt hbank.fits
  have hfits : channelOffset + 8 ≤ total := by
    rw [hend] at hchannels
    omega
  obtain ⟨laser', o, hstep, hsource'⟩ := hsource.total
    (.requestPoints (c.blockRequest frameCount time) input.context input.invocation)
  obtain ⟨⟨laser, points⟩, hrequest, hanswer⟩ := Option.map_eq_some_iff.mp hstep
  obtain rfl : laser = laser' := congrArg Prod.fst hanswer
  rw [hrequest]
  cases points with
  | none =>
    exact ⟨_, [], rfl, hsource', ⟨hbank.offset_eq, hbank.count_eq, hbank.aligned, hbank.fits⟩,
      fun _ h => nomatch h⟩
  | some points =>
    refine ⟨_, _, rfl, hsource',
      ⟨hbank.offset_eq, hbank.count_eq, hbank.aligned, hbank.fits⟩, fun place hplace => ?_⟩
    obtain ⟨hlt, howns⟩ := owns_of_mem_pointWrites hbank hfits hplace
    refine ⟨lt_of_lt_of_le hlt (Nat.mul_le_mul_right total ?_), howns⟩
    rw [Nat.zero_add]
    exact List.length_take_le ..

/-- **A bank keeps to its own channels**, whatever the buffer holds. -/
theorem renderInterleavedBlock_spec (hsource : SourceInv c.toLaserController)
    (hbank : IsBankAt channelOffset c) (time : TimePoint) (input : BankInput) {output : List F}
    (hlength : output.length = frameCount * total) :
    ∃ c' output', c.renderInterleavedBlock output frameCount total time input =
        some (c', output') ∧ SourceInv c'.toLaserController ∧ IsBankAt channelOffset c' ∧
      output'.length = frameCount * total ∧
      ∀ place, ¬Owns total channelOffset place → output'[place]? = output[place]? := by
  obtain ⟨c', ws, hrendered, hsource', hbank', hplaces⟩ :=
    rendered_spec hsource hbank frameCount total time input
  have hbounds : ∀ place ∈ places ws, place < output.length :=
    fun place hplace => hlength ▸ (hplaces place hplace).1
  obtain ⟨output', hwrites, hlength', hother⟩ := writeAll_total hbounds
  refine ⟨c', output', ?_, hsource', hbank', hlength'.trans hlength, fun place howns => ?_⟩
  · rw [renderInterleavedBlock_eq, hrendered, Option.bind_some, hwrites]
    rfl
  · exact hother place fun hplace => howns (hplaces place hplace).2

end AvbController

namespace AvbOutput

variable {start : ℕ → AvbController τ F D} {banks : List (ℕ × ℕ)}

/-! ## The loop over the banks -/

/-- The controllers of some banks that start at different channels. -/
structure DistinctBanks (controllers : ℕ → AvbController τ F D) (banks : List (ℕ × ℕ)) : Prop where
  isBankAt : ∀ bank ∈ banks, (controllers bank.2).IsBankAt bank.1
  distinct : ∀ bank ∈ banks, ∀ bank' ∈ banks, bank.1 = bank'.1 → bank = bank'

/-- Two banks that start at different channels have different controllers. -/
theorem DistinctBanks.ne (h : DistinctBanks start banks) {bank bank' : ℕ × ℕ}
    (hbank : bank ∈ banks) (hbank' : bank' ∈ banks) (hne : bank ≠ bank') : bank.2 ≠ bank'.2 := by
  intro hc
  refine hne (Prod.ext ?_ hc)
  rw [← (h.isBankAt bank hbank).offset_eq, ← (h.isBankAt bank' hbank').offset_eq, hc]

variable [FloatArith F] {frameCount channelCount : UInt32} {time : TimePoint}
  {input : ℕ → BankInput}

/-- What holds between the banks: every controller stays that of its bank, the buffer keeps its
length, and where no bank has a channel it is silent. -/
structure RenderInvariant (start : ℕ → AvbController τ F D) (banks : List (ℕ × ℕ))
    (frameCount channelCount : UInt32) (state : (ℕ → AvbController τ F D) × List F) : Prop where
  source : ∀ c, SourceInv (state.1 c).toLaserController
  isBankAt : ∀ channelOffset c, (start c).IsBankAt channelOffset →
    (state.1 c).IsBankAt channelOffset
  length_eq : state.2.length = frameCount.toNat * channelCount.toNat
  silent : ∀ place < frameCount.toNat * channelCount.toNat,
    (∀ bank ∈ banks, ¬Owns channelCount.toNat bank.1 place) → state.2[place]? = some 0.0

variable [FloatArith D]

theorem renderBank_eq (state : (ℕ → AvbController τ F D) × List F) (bank : ℕ × ℕ) :
    renderBank frameCount channelCount time input state bank =
      ((state.1 bank.2).rendered frameCount.toNat channelCount.toNat time (input bank.2)).bind
        fun r => (writeAll r.2 state.2).map fun output =>
          (Function.update state.1 bank.2 r.1, output) := by
  rw [renderBank, AvbController.renderInterleavedBlock_eq]
  cases (state.1 bank.2).rendered frameCount.toNat channelCount.toNat time (input bank.2) with
  | none => rfl
  | some r =>
    rw [Option.bind_some, Option.bind_some]
    cases writeAll r.2 state.2 <;> rfl

theorem keeps_renderBank (hbanks : DistinctBanks start banks) :
    Keeps (renderBank frameCount channelCount time input)
      (RenderInvariant start banks frameCount channelCount) banks := by
  rintro bank hbank ⟨controllers, output⟩ h
  obtain ⟨c', output', hrender, hsource, hat, hlength, hother⟩ :=
    AvbController.renderInterleavedBlock_spec (h.source bank.2)
      (h.isBankAt _ _ (hbanks.isBankAt bank hbank)) time (input bank.2) h.length_eq
  refine ⟨(Function.update controllers bank.2 c', output'), ?_, ?_⟩
  · rw [renderBank]
    simp only [hrender]
  · exact
      { source := by
          intro c
          by_cases hc : c = bank.2
          · rw [hc]
            simpa using hsource
          · simpa [Function.update_of_ne hc] using h.source c
        isBankAt := by
          intro channelOffset c hstart
          by_cases hc : c = bank.2
          · subst hc
            have hoffset : bank.1 = channelOffset := by
              rw [← (hbanks.isBankAt bank hbank).offset_eq, hstart.offset_eq]
            rw [hoffset] at hat
            simpa using hat
          · simpa [Function.update_of_ne hc] using h.isBankAt channelOffset c hstart
        length_eq := hlength
        silent := by
          intro place hplace hsilent
          rw [hother place (hsilent bank hbank)]
          exact h.silent place hplace hsilent }

/-- **Two banks may be rendered in either order.** -/
theorem commute_renderBank (hbanks : DistinctBanks start banks) :
    Commute (renderBank frameCount channelCount time input)
      (RenderInvariant start banks frameCount channelCount) banks := by
  rintro bank hbank bank' hbank' hne ⟨controllers, output⟩ h
  have hc := hbanks.ne hbank hbank' hne
  have hat := h.isBankAt _ _ (hbanks.isBankAt bank hbank)
  have hat' := h.isBankAt _ _ (hbanks.isBankAt bank' hbank')
  obtain ⟨c, ws, hrendered, -, -, hplaces⟩ :=
    AvbController.rendered_spec (h.source bank.2) hat frameCount.toNat channelCount.toNat time
      (input bank.2)
  obtain ⟨c', ws', hrendered', -, -, hplaces'⟩ :=
    AvbController.rendered_spec (h.source bank'.2) hat' frameCount.toNat channelCount.toNat time
      (input bank'.2)
  have hdisjoint : (places ws).Disjoint (places ws') := fun place hplace hplace' =>
    hne (hbanks.distinct bank hbank bank' hbank' ((hplaces place hplace).2.unique
      (hplaces' place hplace').2 hat.aligned hat'.aligned))
  have hwrites := congrArg (Option.map fun output =>
    (Function.update (Function.update controllers bank.2 c) bank'.2 c', output))
    (writeAll_comm output hdisjoint)
  simp only [renderBank_eq, hrendered, Option.bind_some, hrendered', Option.bind_map,
    Function.comp_def, Function.update_of_ne hc, Function.update_of_ne (Ne.symm hc)]
  rw [Function.update_comm (Ne.symm hc)]
  simp only [Option.map_bind, Function.comp_def] at hwrites
  exact hwrites

/-- **The order of the banks is of no consequence.** They are rendered in any order to the same end,
the buffer keeps its length, and where no bank has a channel it stays silent. -/
theorem foldlM_renderBank (hsource : ∀ c, SourceInv (start c).toLaserController)
    (hbanks : DistinctBanks start banks) :
    ∃ state, (∀ order : List (ℕ × ℕ), order.Perm banks →
        order.foldlM (renderBank frameCount channelCount time input)
          (start, List.replicate (frameCount.toNat * channelCount.toNat) 0.0) = some state) ∧
      RenderInvariant start banks frameCount channelCount state := by
  have hstart : RenderInvariant start banks frameCount channelCount
      (start, List.replicate (frameCount.toNat * channelCount.toNat) (0.0 : F)) :=
    { source := hsource
      isBankAt := fun _ _ h => h
      length_eq := List.length_replicate
      silent := fun place hplace _ => List.getElem?_replicate_of_lt hplace }
  have hkeeps : Keeps (renderBank frameCount channelCount time input)
      (RenderInvariant start banks frameCount channelCount) banks := keeps_renderBank hbanks
  obtain ⟨state, hfold, hstate⟩ := foldlM_total hkeeps hstart
  refine ⟨state, fun order horder => ?_, hstate⟩
  rw [← hfold]
  exact (foldlM_perm horder.symm hkeeps (commute_renderBank hbanks) hstart).symm

end AvbOutput

end LiberaLaser
