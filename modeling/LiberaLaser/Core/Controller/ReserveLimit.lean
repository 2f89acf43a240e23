import LiberaLaser.Core.Controller.CallbackMode

/-!
# The size of a frame cut from a callback's points

The framer cuts frames no longer than the maximum of the request it is working for, but it keeps one
frame in reserve, and hands it out to the next request whatever that one's maximum is. So the size
limit holds along a run exactly when every request finds a reserve that fits it.
-/

namespace LiberaLaser.LaserController

open PointStreamFramer Runs

variable {τ F D : Type}

/-- The frame in reserve, if there is one, fits the request. -/
def ReserveFits (_ : List (FrameReply F)) (c : LaserController τ F D) : FrameCall → Prop
  | .setPointRate _ => True
  | .requestFrame request _ =>
    ∀ frame ∈ c.pointStreamFramer.preparedFrames.head?,
      frame.length ≤ request.maximumPointsRequired

/-- A request of the call names a maximum. -/
def NamesMaximum : FrameCall → Prop
  | .setPointRate _ => True
  | .requestFrame request _ => 0 < request.maximumPointsRequired

instance (tr : List (FrameReply F)) (c : LaserController τ F D) :
    ∀ call, Decidable (ReserveFits tr c call)
  | .setPointRate _ => inferInstanceAs (Decidable True)
  | .requestFrame _ _ =>
    inferInstanceAs (Decidable (∀ frame ∈ c.pointStreamFramer.preparedFrames.head?, _))

/-- A request that names a maximum asks the framer for some size within it. -/
theorem preferredFrameSize_le {request : FrameFillRequest} (h : 0 < request.maximumPointsRequired) :
    0 < request.preferredFrameSize ∧
      request.preferredFrameSize ≤ request.maximumPointsRequired := by
  simp only [FrameFillRequest.preferredFrameSize, if_pos h]
  refine ⟨Nat.lt_min.mpr ⟨?_, h⟩, Nat.min_le_right _ _⟩
  split_ifs <;> omega

variable [FloatArith D]

/-- The frames cut for a request that names a maximum stay within it. -/
theorem configured_sizes {request : FrameFillRequest} (h : 0 < request.maximumPointsRequired)
    (context : RequestContext) (callback : RequestPointsCallback τ F) (c : LaserController τ F D) :
    Nat.max (c.configured request context callback).maxFrameSize
      (c.configured request context callback).nominalFrameSize = request.maximumPointsRequired := by
  obtain ⟨hpos, hle⟩ := preferredFrameSize_le h
  have hmax : (c.configured request context callback).maxFrameSize =
      Nat.max request.maximumPointsRequired 1 := by
    simp only [configured, configure, framingCall, if_pos h]
    rfl
  have hnominal : (c.configured request context callback).nominalFrameSize =
      Nat.max request.preferredFrameSize 1 := rfl
  rw [hmax, hnominal]
  show max (max request.maximumPointsRequired 1) (max request.preferredFrameSize 1) = _
  omega

variable [FloatArith F]

/-- Frames are prepared behind those that are there, and are no longer than the framer's sizes. -/
theorem prepared_of_moves {callback : RequestPointsCallback τ F} {template : PointFillRequest}
    {framer framer' : PointStreamFramer τ F} (hmoves : Moves callback template framer framer') :
    ∃ added, framer'.preparedFrames = framer.preparedFrames ++ added ∧
      ∀ frame ∈ added, frame.length ≤ Nat.max framer.maxFrameSize framer.nominalFrameSize := by
  have hsizes : ∃ added, framer'.preparedFrames = framer.preparedFrames ++ added ∧
      framer'.maxFrameSize = framer.maxFrameSize ∧
      framer'.nominalFrameSize = framer.nominalFrameSize ∧
      ∀ frame ∈ added, frame.length ≤ Nat.max framer.maxFrameSize framer.nominalFrameSize := by
    refine Moves.invariant
      (I := fun g => ∃ added, g.preparedFrames = framer.preparedFrames ++ added ∧
      g.maxFrameSize = framer.maxFrameSize ∧ g.nominalFrameSize = framer.nominalFrameSize ∧
      ∀ frame ∈ added, frame.length ≤ Nat.max framer.maxFrameSize framer.nominalFrameSize)
      ?_ ⟨[], (List.append_nil _).symm, rfl, rfl, by simp⟩ hmoves
    rintro g g' ⟨added, hadded, hmax, hnominal, hle⟩ hmove
    cases hmove with
    | pull count hcount =>
      exact ⟨added, by simpa only [pullPoints, if_neg hcount] using hadded,
        by simpa only [pullPoints, if_neg hcount] using hmax,
        by simpa only [pullPoints, if_neg hcount] using hnominal, hle⟩
    | @prepare g' frame hcut =>
      refine ⟨added ++ [frame], ?_, hcut.maxFrameSize.trans hmax,
        hcut.nominalFrameSize.trans hnominal, ?_⟩
      · show g'.preparedFrames ++ [frame] = _
        rw [hcut.preparedFrames, hadded, List.append_assoc]
      · intro f hf
        rcases List.mem_append.mp hf with hf | hf
        · exact hle f hf
        · rw [List.mem_singleton.mp hf, ← hmax, ← hnominal]
          exact hcut.length_le
  obtain ⟨added, hadded, -, -, hle⟩ := hsizes
  exact ⟨added, hadded, hle⟩

/-- **One call** returns frames within their maximum exactly when the reserve fits. -/
theorem CallbackMode.replies_fit {callback : RequestPointsCallback τ F}
    {c c' : LaserController τ F D} (h : CallbackMode callback c) {call : FrameCall}
    (hmax : NamesMaximum call) (tr : List (FrameReply F)) {replies : List (FrameReply F)}
    (hstep : LaserController.step c call = some (c', replies)) :
    (∀ reply ∈ replies, reply.points.length ≤ reply.maximum) ↔ ReserveFits tr c call := by
  cases call with
  | setPointRate pointRateValue =>
    simp only [LaserController.step, Option.some.injEq, Prod.mk.injEq] at hstep
    obtain ⟨-, rfl⟩ := hstep
    exact iff_of_true (by simp) trivial
  | requestFrame request context =>
    obtain ⟨c₁, replies₁, hstep₁, hanswer, -⟩ := h.requestFrame request context
    rw [hstep₁, Option.some.injEq, Prod.mk.injEq] at hstep
    obtain ⟨rfl, rfl⟩ := hstep
    have hmax : 0 < request.maximumPointsRequired := hmax
    generalize c₁.pointStreamFramer = framer' at hanswer
    cases hanswer with
    | declined hsize =>
      have := (preferredFrameSize_le hmax).1
      omega
    | dry hmoves hprepared =>
      obtain ⟨added, hadded, -⟩ := prepared_of_moves hmoves
      have hnone : c.pointStreamFramer.preparedFrames = [] := by
        rw [hprepared] at hadded
        exact (List.append_eq_nil_iff.mp hadded.symm).1
      exact iff_of_true (by simp) (by simp [ReserveFits, hnone])
    | @handed ready front rest points hmoves hprepared hlength =>
      obtain ⟨added, hadded, hle⟩ := prepared_of_moves hmoves
      rw [configured_sizes hmax] at hle
      have hadded : front :: rest = c.pointStreamFramer.preparedFrames ++ added :=
        hprepared ▸ hadded
      simp only [List.mem_singleton, forall_eq, hlength, ReserveFits]
      cases hreserve : c.pointStreamFramer.preparedFrames with
      | nil =>
        rw [hreserve, List.nil_append] at hadded
        exact iff_of_true (hle front (by simp [← hadded])) (by simp)
      | cons frame frames =>
        rw [hreserve, List.cons_append, List.cons.injEq] at hadded
        simp [hadded.1]

/-- **The size limit of callback mode**: the calls of a run return, and every frame is within the
maximum of its request if and only if every request found a reserve that fits. -/
theorem replies_within_maximum (stage : OutputStage F D) (callback : RequestPointsCallback τ F)
    (calls : List FrameCall) (hmax : ∀ call ∈ calls, NamesMaximum call) :
    ∃ c replies, run step (started stage callback) calls = some (c, replies) ∧
      ((∀ reply ∈ replies, reply.points.length ≤ reply.maximum) ↔
        Along step ReserveFits [] (started stage callback) calls) := by
  suffices key : ∀ (c : LaserController τ F D) (tr : List (FrameReply F)),
      CallbackMode callback c → ∃ c' replies, run step c calls = some (c', replies) ∧
        ((∀ reply ∈ replies, reply.points.length ≤ reply.maximum) ↔
          Along step ReserveFits tr c calls) from
    key _ [] (callbackMode_started stage callback)
  induction calls with
  | nil => exact fun c tr h => ⟨c, [], rfl, iff_of_true (by simp) trivial⟩
  | cons call calls ih =>
    intro c tr h
    obtain ⟨c₁, r₁, hstep, h₁⟩ := h.step call
    obtain ⟨c₂, r₂, hrun, hiff⟩ :=
      ih (fun l hl => hmax l (List.mem_cons_of_mem _ hl)) c₁ (tr ++ r₁) h₁
    refine ⟨c₂, r₁ ++ r₂, run_cons_eq_some.mpr ⟨c₁, r₁, r₂, hstep, hrun, rfl⟩, ?_⟩
    have hfit := h.replies_fit (hmax call List.mem_cons_self) tr hstep
    simp only [List.mem_append, or_imp, forall_and, hfit, hiff, Along, hstep]

/-! ## A reserve that does not fit -/

/-- An idle output stage. -/
def idleStage : OutputStage ℚ ℚ := .new

/-- The maximum shrinks from four points to two. -/
def shrinkingMaximum : List FrameCall :=
  [.requestFrame { maximumPointsRequired := 4 } noLatency,
    .requestFrame { maximumPointsRequired := 2 } noLatency]

/-- The second request receives four points, where it allows two. -/
theorem reply_exceeds_maximum : ∃ c replies,
    run step (started idleStage (obliging ())) shrinkingMaximum = some (c, replies) ∧
      ∃ reply ∈ replies, reply.maximum = 2 ∧ reply.points.length = 4 := by
  have hreply : (run step (started idleStage (obliging ())) shrinkingMaximum).map
      (fun r => r.2.any fun reply => reply.maximum = 2 ∧ reply.points.length = 4) = some true := by
    decide +kernel
  obtain ⟨⟨c, replies⟩, hrun, hreply⟩ := Option.map_eq_some_iff.mp hreply
  exact ⟨c, replies, hrun, by simpa using hreply⟩

/-- Requests of one size receive frames of that size. -/
theorem replies_within_maximum_when_steady : ∃ c replies,
    run step (started idleStage (obliging ())) [
      .requestFrame { maximumPointsRequired := 2 } noLatency,
      .requestFrame { maximumPointsRequired := 2 } noLatency] = some (c, replies) ∧
      ∀ reply ∈ replies, reply.points.length ≤ reply.maximum := by
  obtain ⟨c, replies, hrun, hiff⟩ := replies_within_maximum idleStage (obliging ())
    [.requestFrame { maximumPointsRequired := 2 } noLatency,
      .requestFrame { maximumPointsRequired := 2 } noLatency] (by simp [NamesMaximum])
  exact ⟨c, replies, hrun, hiff.mpr (by decide +kernel)⟩

end LiberaLaser.LaserController
