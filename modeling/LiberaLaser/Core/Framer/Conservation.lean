import LiberaLaser.Core.Framer.Model
import LiberaLaser.Foundations.Runs
import Mathlib.Logic.Relation

/-!
# The framer conserves points

Whatever the callback does and wherever the boundary search cuts, the frames returned, the prepared
frames and the accumulator together hold exactly the points the callback produced, in order. Every
operation of the framer is a pull, a cut or a hand-out, and each of the three keeps this invariant.
-/

namespace LiberaLaser

open FloatArith Loop

variable {τ F : Type}

namespace PointStreamFramer

/-- A frame is cut off the accumulator, and the other stores and the sizes stay. -/
structure Cut (framer framer' : PointStreamFramer τ F) (frame : List (Stamped τ F)) : Prop where
  accumulator : framer.accumulator = frame ++ framer'.accumulator
  frame_ne : frame ≠ []
  length_le : frame.length ≤ Nat.max framer.maxFrameSize framer.nominalFrameSize
  preparedFrames : framer'.preparedFrames = framer.preparedFrames
  preparedPointCount : framer'.preparedPointCount = framer.preparedPointCount
  nominalFrameSize : framer'.nominalFrameSize = framer.nominalFrameSize
  maxFrameSize : framer'.maxFrameSize = framer.maxFrameSize
  totalPointsConsumed : framer'.totalPointsConsumed = framer.totalPointsConsumed
  invocations : framer'.invocations = framer.invocations
  returned : framer'.returned = framer.returned

theorem cut_spec (framer : PointStreamFramer τ F) {count : ℕ} (consecutiveForceEmits : ℕ)
    (hpos : 0 < count) (hlen : count ≤ framer.accumulator.length)
    (hle : count ≤ Nat.max framer.maxFrameSize framer.nominalFrameSize) :
    Cut framer (framer.cut count consecutiveForceEmits).1
      (framer.cut count consecutiveForceEmits).2 := by
  have hframe : (framer.accumulator.take count).length = count := by
    rw [List.length_take]
    omega
  have hne : framer.accumulator.take count ≠ [] := List.length_pos_iff.mp (by omega)
  have hsplit := (List.take_append_drop count framer.accumulator).symm
  unfold cut reanchor
  split
  · exact ⟨hsplit, hne, hframe.le.trans hle, rfl, rfl, rfl, rfl, rfl, rfl, rfl⟩
  · exact ⟨hsplit, hne, hframe.le.trans hle, rfl, rfl, rfl, rfl, rfl, rfl, rfl⟩

end PointStreamFramer

variable [FloatArith F]

/-- The points of an invocation as they enter the accumulator. -/
def Invocation.points (invocation : Invocation τ F) : List (Stamped τ F) :=
  (sanitizeLaserPoints invocation.batch).map (⟨invocation.callback, ·⟩)

namespace PointStreamFramer

theorem extractOneFrame_spec {framer : PointStreamFramer τ F}
    (hnominal : 1 ≤ framer.nominalFrameSize) (hne : framer.accumulator ≠ []) :
    ∃ framer' frame, framer.extractOneFrame = some (framer', some frame) ∧
      Cut framer framer' frame := by
  obtain ⟨first, rest, hacc⟩ := List.exists_cons_of_ne_nil hne
  have hlength := List.length_pos_iff.mpr hne
  -- setting the anchor changes none of what a cut speaks of
  obtain ⟨anchored, hanchored, hcut⟩ : ∃ anchored : PointStreamFramer τ F,
      anchored = (if framer.anchorSet then framer
        else { framer with
          anchorX := first.point.x, anchorY := first.point.y, anchorSet := true }) ∧
      ∀ framer' frame, Cut anchored framer' frame → Cut framer framer' frame := by
    refine ⟨_, rfl, fun framer' frame h => ?_⟩
    split at h
    · exact h
    · exact ⟨h.accumulator, h.frame_ne, h.length_le, h.preparedFrames, h.preparedPointCount,
        h.nominalFrameSize, h.maxFrameSize, h.totalPointsConsumed, h.invocations, h.returned⟩
  have hsame : anchored.accumulator = framer.accumulator ∧
      anchored.nominalFrameSize = framer.nominalFrameSize := by
    rw [hanchored]
    split <;> exact ⟨rfl, rfl⟩
  obtain ⟨k, hk, hmax, hlen⟩ := findNaturalBoundary_spec (anchored.accumulator.map (·.point))
    anchored.nominalFrameSize anchored.maxFrameSize anchored.consecutiveForceEmits
    anchored.anchorX anchored.anchorY
  rw [List.length_map] at hlen
  have hforced : 0 < Nat.min anchored.nominalFrameSize anchored.accumulator.length ∧
      Nat.min anchored.nominalFrameSize anchored.accumulator.length ≤
        anchored.accumulator.length ∧
      Nat.min anchored.nominalFrameSize anchored.accumulator.length ≤
        Nat.max anchored.maxFrameSize anchored.nominalFrameSize := by
    rw [hsame.1, hsame.2]
    exact ⟨Nat.lt_min.mpr ⟨hnominal, hlength⟩, Nat.min_le_right _ _,
      (Nat.min_le_left _ _).trans (Nat.le_max_right _ _)⟩
  unfold extractOneFrame
  rw [hacc]
  simp only
  rw [← hacc, ← hanchored, hk]
  by_cases hpos : 0 < k
  · have h := cut_spec anchored 0 hpos hlen (hmax.trans (Nat.le_max_left _ _))
    refine ⟨_, _, ?_, hcut _ _ h⟩
    simp only [if_pos hpos, List.isEmpty_iff, h.frame_ne, if_false]
  · have h := cut_spec anchored (anchored.consecutiveForceEmits + 1) hforced.1 hforced.2.1
      hforced.2.2
    refine ⟨_, _, ?_, hcut _ _ h⟩
    simp only [if_neg hpos, List.isEmpty_iff, h.frame_ne, if_false]

/-! ## The moves of the framer -/

/-- The framer pulls points, or cuts a frame and puts it among the prepared ones. -/
inductive Move (callback : RequestPointsCallback τ F) (templateRequest : PointFillRequest) :
    PointStreamFramer τ F → PointStreamFramer τ F → Prop
  | pull (framer : PointStreamFramer τ F) (count : ℕ) (hcount : count ≠ 0) :
      Move callback templateRequest framer (framer.pullPoints callback templateRequest count)
  | prepare {framer framer' : PointStreamFramer τ F} {frame : List (Stamped τ F)}
      (h : Cut framer framer' frame) :
      Move callback templateRequest framer
        { framer' with
          preparedPointCount := framer'.preparedPointCount + frame.length
          preparedFrames := framer'.preparedFrames ++ [frame] }

/-- A sequence of moves. -/
abbrev Moves (callback : RequestPointsCallback τ F) (templateRequest : PointFillRequest) :
    PointStreamFramer τ F → PointStreamFramer τ F → Prop :=
  Relation.ReflTransGen (Move callback templateRequest)

variable {callback : RequestPointsCallback τ F} {templateRequest : PointFillRequest}

/-- **What every move preserves, a sequence of moves preserves.** -/
theorem Moves.invariant {I : PointStreamFramer τ F → Prop}
    (hmove : ∀ framer framer', I framer → Move callback templateRequest framer framer' → I framer')
    {framer framer' : PointStreamFramer τ F} (h : I framer)
    (hmoves : Moves callback templateRequest framer framer') : I framer' := by
  induction hmoves with
  | refl => exact h
  | tail _ hm ih => exact hmove _ _ ih hm

theorem Move.nominalFrameSize_eq {framer framer' : PointStreamFramer τ F}
    (h : Move callback templateRequest framer framer') :
    framer'.nominalFrameSize = framer.nominalFrameSize := by
  cases h with
  | pull count hcount => simp [pullPoints, hcount]
  | prepare h => exact h.nominalFrameSize

/-- **Preparing frames** returns, by moves. -/
theorem ensurePreparedFrames_spec (desiredReadyFrames : ℕ) {framer : PointStreamFramer τ F}
    (hnominal : 1 ≤ framer.nominalFrameSize) :
    ∃ framer', framer.ensurePreparedFrames callback templateRequest desiredReadyFrames =
      some framer' ∧ Moves callback templateRequest framer framer' := by
  refine run_total
    (I := fun g => 1 ≤ g.nominalFrameSize ∧ Moves callback templateRequest framer g)
    (fun g => desiredReadyFrames - g.preparedFrames.length) ?_ ⟨hnominal, .refl⟩ (by omega)
  rintro g ⟨hg, hmoves⟩
  unfold preparePass
  split
  · exact PassSpec.done g rfl hmoves
  · rename_i hmore
    set pulled := g.pullPoints callback templateRequest g.pullCount with hpulled
    have hpull : Moves callback templateRequest g pulled := by
      by_cases hcount : g.pullCount = 0
      · rw [hpulled, pullPoints, if_pos hcount]
      · exact .single (.pull g g.pullCount hcount)
    have hsame : pulled.nominalFrameSize = g.nominalFrameSize ∧
        pulled.preparedFrames = g.preparedFrames := by
      rw [hpulled, pullPoints]
      split <;> exact ⟨rfl, rfl⟩
    simp only
    split
    · exact PassSpec.done pulled rfl (hmoves.trans hpull)
    · rename_i hne
      have hnominal : 1 ≤ pulled.nominalFrameSize := hsame.1.symm ▸ hg
      obtain ⟨g', frame, hextract, hcut⟩ := extractOneFrame_spec hnominal (by simpa using hne)
      have hprepare := (hmoves.trans hpull).tail (.prepare hcut)
      simp only [hextract]
      refine PassSpec.again _ rfl ⟨⟨?_, hprepare⟩, ?_⟩
      · show 1 ≤ g'.nominalFrameSize
        rw [hcut.nominalFrameSize, hsame.1]
        exact hg
      · show desiredReadyFrames - (g'.preparedFrames ++ [frame]).length < _
        rw [hcut.preparedFrames, hsame.2, List.length_append, List.length_singleton]
        omega

/-- **The specification of `extractFrame`**: after some moves it hands out the first prepared frame,
or nothing where there is none. -/
theorem extractFrame_spec (callback : RequestPointsCallback τ F)
    (templateRequest : PointFillRequest) {framer : PointStreamFramer τ F}
    (hnominal : 1 ≤ framer.nominalFrameSize) :
    ∃ ready, Moves callback templateRequest framer ready ∧
      ((ready.preparedFrames = [] ∧
          framer.extractFrame (some callback) templateRequest = some (ready, none)) ∨
        ∃ front rest, ready.preparedFrames = front :: rest ∧
          framer.extractFrame (some callback) templateRequest =
            some (ready.handOut front rest, if front.isEmpty then none else some front)) := by
  obtain ⟨ready, hensure, hmoves⟩ :=
    ensurePreparedFrames_spec (1 + preparedFrameReserveCount) hnominal
  refine ⟨ready, hmoves, ?_⟩
  cases hprepared : ready.preparedFrames with
  | nil => exact Or.inl ⟨rfl, by simp only [extractFrame, hensure, hprepared]⟩
  | cons front rest =>
    exact Or.inr ⟨front, rest, rfl, by simp only [extractFrame, hensure, hprepared]⟩

/-! ## Conservation -/

/-- The points returned, prepared and accumulated are those the callback produced. -/
structure Conserved (emitted : List (Stamped τ F)) (framer : PointStreamFramer τ F) : Prop where
  nominal : 1 ≤ framer.nominalFrameSize
  points : emitted ++ framer.preparedFrames.flatten ++ framer.accumulator =
    framer.invocations.flatMap Invocation.points
  count : framer.preparedPointCount = (framer.preparedFrames.map List.length).sum
  frame_ne : ∀ frame ∈ framer.preparedFrames, frame ≠ []

theorem Conserved.move {emitted : List (Stamped τ F)} {framer framer' : PointStreamFramer τ F}
    (h : Conserved emitted framer) (hmove : Move callback templateRequest framer framer') :
    Conserved emitted framer' := by
  have hnominal : 1 ≤ framer'.nominalFrameSize := hmove.nominalFrameSize_eq ▸ h.nominal
  cases hmove with
  | pull count hcount =>
    refine ⟨hnominal, ?_, ?_, ?_⟩
    · simp only [pullPoints, if_neg hcount, List.flatMap_append, ← h.points]
      simp [Invocation.points, List.append_assoc]
    · simpa only [pullPoints, if_neg hcount] using h.count
    · simpa only [pullPoints, if_neg hcount] using h.frame_ne
  | @prepare g frame hcut =>
    refine ⟨hnominal, ?_, ?_, ?_⟩
    · show emitted ++ (g.preparedFrames ++ [frame]).flatten ++ g.accumulator =
        g.invocations.flatMap Invocation.points
      rw [hcut.preparedFrames, hcut.invocations, ← h.points, hcut.accumulator]
      simp [List.append_assoc]
    · show g.preparedPointCount + frame.length =
        ((g.preparedFrames ++ [frame]).map List.length).sum
      rw [hcut.preparedFrames, hcut.preparedPointCount, h.count]
      simp
    · intro f hf
      have hf : f ∈ g.preparedFrames ++ [frame] := hf
      rw [hcut.preparedFrames] at hf
      rcases List.mem_append.mp hf with hf | hf
      · exact h.frame_ne f hf
      · exact (List.mem_singleton.mp hf) ▸ hcut.frame_ne

/-- **A call of `extractFrame`** returns and conserves the points. -/
theorem Conserved.extractFrame {emitted : List (Stamped τ F)} {framer : PointStreamFramer τ F}
    (h : Conserved emitted framer) (callback : Option (RequestPointsCallback τ F))
    (templateRequest : PointFillRequest) :
    ∃ framer' frame, framer.extractFrame callback templateRequest = some (framer', frame) ∧
      Conserved (emitted ++ frame.getD []) framer' := by
  cases callback with
  | none => exact ⟨framer, none, rfl, by simpa using h⟩
  | some callback =>
    obtain ⟨ready, hmoves, hresult⟩ := extractFrame_spec callback templateRequest h.nominal
    have hready := Moves.invariant (fun _ _ => Conserved.move) h hmoves
    rcases hresult with ⟨-, hextract⟩ | ⟨front, rest, hprepared, hextract⟩
    · exact ⟨ready, none, hextract, by simpa using hready⟩
    · have hne : front ≠ [] := hready.frame_ne front (by simp [hprepared])
      rw [if_neg (by simpa using hne)] at hextract
      refine ⟨_, some front, hextract, hready.nominal, ?_, ?_, ?_⟩
      · have := hready.points
        rw [hprepared] at this
        simpa [handOut, List.append_assoc] using this
      · have := hready.count
        rw [hprepared, List.map_cons, List.sum_cons] at this
        show ready.preparedPointCount - front.length = (rest.map List.length).sum
        omega
      · exact fun f hf => hready.frame_ne f (by simp [hprepared, show f ∈ rest from hf])

/-! ## Runs -/

/-- A call as a step. It observes the frame returned. -/
def step (framer : PointStreamFramer τ F) (call : FramingCall τ F) :
    Option (PointStreamFramer τ F × List (List (Stamped τ F))) :=
  match (framer.configure call).extractFrame call.callback call.templateRequest with
  | none => none
  | some (framer, frame) => some (framer, frame.toList)

theorem Conserved.configure {emitted : List (Stamped τ F)} {framer : PointStreamFramer τ F}
    (h : Conserved emitted framer) (call : FramingCall τ F) :
    Conserved emitted (framer.configure call) where
  nominal := framer.one_le_configure call
  points := h.points
  count := h.count
  frame_ne := h.frame_ne

/-- **One call returns and conserves the points.** -/
theorem Conserved.step {emitted : List (Stamped τ F)} {framer : PointStreamFramer τ F}
    (h : Conserved emitted framer) (call : FramingCall τ F) :
    ∃ framer' frames, step framer call = some (framer', frames) ∧
      Conserved (emitted ++ frames.flatten) framer' := by
  obtain ⟨framer', frame, hextract, h'⟩ :=
    (h.configure call).extractFrame call.callback call.templateRequest
  refine ⟨framer', frame.toList, by simp only [PointStreamFramer.step, hextract], ?_⟩
  cases frame with
  | none => simpa using h'
  | some points => simpa using h'

/-- What one call conserves, a run of calls conserves. -/
theorem Conserved.run {emitted : List (Stamped τ F)} {framer : PointStreamFramer τ F}
    (h : Conserved emitted framer) (calls : List (FramingCall τ F)) :
    ∃ framer' frames, Runs.run PointStreamFramer.step framer calls = some (framer', frames) ∧
      Conserved (emitted ++ frames.flatten) framer' := by
  induction calls generalizing emitted framer with
  | nil => exact ⟨framer, [], rfl, by simpa using h⟩
  | cons call calls ih =>
    obtain ⟨framer₁, frames₁, hstep, h₁⟩ := h.step call
    obtain ⟨framer₂, frames₂, hrun, h₂⟩ := ih h₁
    exact ⟨framer₂, frames₁ ++ frames₂,
      Runs.run_cons_eq_some.mpr ⟨framer₁, _, _, hstep, hrun, rfl⟩,
      by rwa [List.flatten_append, ← List.append_assoc]⟩

theorem conserved_new : Conserved [] (new : PointStreamFramer τ F) where
  nominal := by simp [new]
  points := rfl
  count := rfl
  frame_ne := fun frame hframe => absurd hframe List.not_mem_nil

/-- **The framer conserves points**: every run of calls returns, the frames returned, the prepared
frames and the accumulator are together the points the callbacks produced, in order, and the cached
count is that of the prepared points. -/
theorem conservation (calls : List (FramingCall τ F)) :
    ∃ framer frames, Runs.run step new calls = some (framer, frames) ∧
      frames.flatten ++ framer.preparedFrames.flatten ++ framer.accumulator =
        framer.invocations.flatMap Invocation.points ∧
      framer.preparedPointCount = (framer.preparedFrames.map List.length).sum := by
  obtain ⟨framer, frames, hrun, h⟩ := conserved_new.run calls
  exact ⟨framer, frames, hrun, h.points, h.count⟩

end PointStreamFramer

end LiberaLaser
