import LiberaLaser.Core.Controller.CallbackSwitch
import LiberaLaser.Core.Framer.Progress

/-!
# What the framer hands out next

The first prepared frame is handed out where there is one, and otherwise a frame that is cut off
the accumulator, once the callback has been asked for more points. So the state before a call tells
whether a frame comes out (`extractFrame_none`), and whose points it is made of
(`extractFrame_some`).
-/

namespace LiberaLaser.PointStreamFramer

open Loop

variable {τ F : Type} [FloatArith F]

/-- There is nothing to make a frame of: no frame is prepared, nothing is left in the accumulator,
and the callback produces nothing. -/
def Dry (callback : RequestPointsCallback τ F) (templateRequest : PointFillRequest)
    (framer : PointStreamFramer τ F) : Prop :=
  framer.preparedFrames.isEmpty ∧
    (framer.pullPoints callback templateRequest framer.pullCount).accumulator.isEmpty

/-- The points that are handed out next were produced by one callback. -/
def HoldsFor (owner : τ) (framer : PointStreamFramer τ F) : Prop :=
  ∀ p ∈ framer.preparedFrames.head?.getD framer.accumulator, p.stamp = owner

instance (callback : RequestPointsCallback τ F) (templateRequest : PointFillRequest)
    (framer : PointStreamFramer τ F) : Decidable (Dry callback templateRequest framer) :=
  inferInstanceAs (Decidable (_ ∧ _))

instance [DecidableEq τ] (owner : τ) (framer : PointStreamFramer τ F) :
    Decidable (HoldsFor owner framer) :=
  inferInstanceAs (Decidable (∀ p ∈ _, _))

variable {callback : RequestPointsCallback τ F} {templateRequest : PointFillRequest}
  {framer framer' ready : PointStreamFramer τ F}

/-- Frames are prepared behind the first one. -/
theorem Moves.head_preparedFrames {front : List (Stamped τ F)}
    (h : framer.preparedFrames.head? = some front)
    (hmoves : Moves callback templateRequest framer framer') :
    framer'.preparedFrames.head? = some front := by
  refine Moves.invariant (I := fun g => g.preparedFrames.head? = some front) ?_ h hmoves
  intro g g' hg hmove
  cases hmove with
  | pull count hcount => simpa only [pullPoints, if_neg hcount] using hg
  | @prepare g' frame hcut =>
    change (g'.preparedFrames ++ [frame]).head? = some front
    rw [hcut.preparedFrames, List.head?_append, hg]
    rfl

/-- No frame is prepared exactly where there is nothing to make one of. -/
theorem prepared_eq_nil_iff_dry (hnominal : 1 ≤ framer.nominalFrameSize)
    (hensure : framer.ensurePreparedFrames callback templateRequest
      (1 + preparedFrameReserveCount) = some ready) :
    ready.preparedFrames = [] ↔ Dry callback templateRequest framer := by
  rw [prepared_eq_nil_iff hnominal hensure, Dry, List.isEmpty_iff, List.isEmpty_iff]

/-- **No frame comes out** only where there is nothing to make one of. -/
theorem extractFrame_none (hnominal : 1 ≤ framer.nominalFrameSize)
    (hframes : ∀ frame ∈ framer.preparedFrames, frame ≠ [])
    (h : framer.extractFrame (some callback) templateRequest = some (framer', none)) :
    Dry callback templateRequest framer := by
  obtain ⟨ready, hensure, hmoves⟩ : ∃ ready, framer.ensurePreparedFrames callback templateRequest
      (1 + preparedFrameReserveCount) = some ready ∧
        Moves callback templateRequest framer ready :=
    ensurePreparedFrames_spec (1 + preparedFrameReserveCount) hnominal
  have hnone : ready.preparedFrames = [] := by
    simp only [extractFrame, hensure] at h
    split at h
    · assumption
    · rename_i front rest hprepared
      have hne : front ≠ [] :=
        LaserController.frame_ne_of_moves hframes hmoves front (by simp [hprepared])
      simp [hne] at h
  exact (prepared_eq_nil_iff_dry hnominal hensure).mp hnone

/-- Where there is nothing to make a frame of, none comes out. -/
theorem extractFrame_of_dry (hnominal : 1 ≤ framer.nominalFrameSize)
    (hdry : Dry callback templateRequest framer) {frame : Option (List (Stamped τ F))}
    (h : framer.extractFrame (some callback) templateRequest = some (framer', frame)) :
    frame = none := by
  obtain ⟨ready, hensure, -⟩ : ∃ ready, framer.ensurePreparedFrames callback templateRequest
      (1 + preparedFrameReserveCount) = some ready ∧
        Moves callback templateRequest framer ready :=
    ensurePreparedFrames_spec (1 + preparedFrameReserveCount) hnominal
  have hready := (prepared_eq_nil_iff_dry hnominal hensure).mpr hdry
  simp only [extractFrame, hensure, hready] at h
  exact (Prod.mk.inj (Option.some.inj h)).2.symm

/-- **The frame that comes out** belongs to the callback that the framer holds points for. -/
theorem extractFrame_some (hnominal : 1 ≤ framer.nominalFrameSize)
    (hholds : HoldsFor callback.id framer) {frame : List (Stamped τ F)}
    (h : framer.extractFrame (some callback) templateRequest = some (framer', some frame)) :
    frame ≠ [] ∧ ∀ p ∈ frame, p.stamp = callback.id := by
  obtain ⟨ready, hmoves, hresult⟩ := extractFrame_spec callback templateRequest hnominal
  rcases hresult with ⟨-, hnone⟩ | ⟨front, rest, hprepared, hfront⟩
  · rw [h] at hnone
    cases hnone
  · have hframe : front ≠ [] ∧ front = frame := by
      rw [h, Option.some.injEq, Prod.mk.injEq] at hfront
      split at hfront
      · exact absurd hfront.2 (by simp)
      · rename_i hne
        exact ⟨by simpa using hne, (Option.some.inj hfront.2).symm⟩
    obtain ⟨hne, rfl⟩ := hframe
    refine ⟨hne, ?_⟩
    cases hwaiting : framer.preparedFrames with
    | nil =>
      -- the frame is cut off the accumulator
      have howned : OwnedBy callback.id framer := by
        simp only [HoldsFor, hwaiting, List.head?_nil, Option.getD_none] at hholds
        exact ⟨hholds, by simp [hwaiting]⟩
      exact (howned.extractFrame hnominal h).2
    | cons first others =>
      have hhead := hmoves.head_preparedFrames
        (show framer.preparedFrames.head? = some first by rw [hwaiting, List.head?_cons])
      rw [hprepared, List.head?_cons, Option.some.injEq] at hhead
      simpa only [HoldsFor, hwaiting, List.head?_cons, Option.getD_some, hhead] using hholds

/-- Prepared frames are never empty, after an extraction either. -/
theorem frame_ne_of_extractFrame (hnominal : 1 ≤ framer.nominalFrameSize)
    (hframes : ∀ frame ∈ framer.preparedFrames, frame ≠ []) {frame : Option (List (Stamped τ F))}
    (h : framer.extractFrame (some callback) templateRequest = some (framer', frame)) :
    ∀ frame ∈ framer'.preparedFrames, frame ≠ [] := by
  obtain ⟨ready, hmoves, hresult⟩ := extractFrame_spec callback templateRequest hnominal
  have hready := LaserController.frame_ne_of_moves hframes hmoves
  rcases hresult with ⟨-, hnone⟩ | ⟨front, rest, hprepared, hfront⟩
  · obtain ⟨rfl, -⟩ := Prod.mk.inj (Option.some.inj (h.symm.trans hnone))
    exact hready
  · obtain ⟨rfl, -⟩ := Prod.mk.inj (Option.some.inj (h.symm.trans hfront))
    intro other hother
    refine hready other ?_
    rw [hprepared]
    exact List.mem_cons_of_mem _ hother

end LiberaLaser.PointStreamFramer
