import LiberaLaser.Core.Controller.ReserveLimit

/-!
# The point index a callback sees

A backend puts the number of points it has received so far into every frame request, and the framer
adds the number of points it has pulled so far. Each of the two counts the points already returned,
so that an invocation receives an index that is ahead of the points produced by those already
returned: the indices are contiguous only until the first frame is returned.
-/

namespace LiberaLaser

open PointStreamFramer Runs

variable {τ F D : Type}

/-- The number of points that some invocations produced. -/
def produced (invocations : List (Invocation τ F)) : ℕ :=
  (invocations.map fun invocation => invocation.batch.length).sum

@[simp] theorem produced_append (l l' : List (Invocation τ F)) :
    produced (l ++ l') = produced l + produced l' := by
  simp [produced]

theorem produced_singleton (invocation : Invocation τ F) :
    produced [invocation] = invocation.batch.length := by
  simp [produced]

namespace PointStreamFramer

/-- The count of consumed points, and the index that each invocation received. -/
structure Indexed (framer : PointStreamFramer τ F) : Prop where
  consumed : framer.totalPointsConsumed = produced framer.invocations % 2 ^ 64
  index : ∀ before invocation after, framer.invocations = before ++ invocation :: after →
    invocation.request.currentPointIndex = (invocation.returned + produced before) % 2 ^ 64

theorem Indexed.configure {framer : PointStreamFramer τ F} (h : Indexed framer)
    (call : FramingCall τ F) : Indexed (framer.configure call) :=
  ⟨h.consumed, h.index⟩

theorem Indexed.handOut {framer : PointStreamFramer τ F} (h : Indexed framer)
    (front : List (Stamped τ F)) (rest : List (List (Stamped τ F))) :
    Indexed (framer.handOut front rest) :=
  ⟨h.consumed, h.index⟩

variable [FloatArith F] {callback : RequestPointsCallback τ F} {template : PointFillRequest}

/-- **What one move preserves**, where the request carries the number of points returned. -/
theorem Indexed.move {framer framer' : PointStreamFramer τ F} (h : Indexed framer)
    (htemplate : template.currentPointIndex = framer.returned % 2 ^ 64)
    (hmove : Move callback template framer framer') :
    Indexed framer' ∧ framer'.returned = framer.returned := by
  cases hmove with
  | prepare hcut =>
    refine ⟨⟨?_, fun before invocation after heq => h.index before invocation after ?_⟩,
      hcut.returned⟩
    · show _ = produced _ % 2 ^ 64
      rw [hcut.totalPointsConsumed, hcut.invocations]
      exact h.consumed
    · rw [← hcut.invocations]
      exact heq
  | pull count hcount =>
    simp only [pullPoints, if_neg hcount]
    refine ⟨⟨?_, fun before invocation after heq => ?_⟩, trivial⟩
    · simp only [produced_append, produced_singleton, h.consumed, Nat.mod_add_mod]
    · rcases concat_eq_append_cons heq with ⟨-, rfl, hbefore⟩ | ⟨after', -, hbefore⟩
      · show (template.currentPointIndex + framer.totalPointsConsumed) % 2 ^ 64 = _
        rw [htemplate, h.consumed, ← Nat.add_mod, hbefore]
      · exact h.index before invocation after' hbefore

theorem Indexed.moves {framer framer' : PointStreamFramer τ F} (h : Indexed framer)
    (htemplate : template.currentPointIndex = framer.returned % 2 ^ 64)
    (hmoves : Moves callback template framer framer') :
    Indexed framer' ∧ framer'.returned = framer.returned := by
  refine Moves.invariant (I := fun g => Indexed g ∧ g.returned = framer.returned)
    (fun g g' hg hmove => ?_) ⟨h, rfl⟩ hmoves
  obtain ⟨hindexed, hreturned⟩ := hg.1.move (hg.2 ▸ htemplate) hmove
  exact ⟨hindexed, hreturned.trans hg.2⟩

end PointStreamFramer

namespace LaserController

/-- The request carries the number of points in the frames returned so far. -/
def CarriesReturned (tr : List (FrameReply F)) (_ : LaserController τ F D) : FrameCall → Prop
  | .setPointRate _ => True
  | .requestFrame request _ => request.currentPointIndex = returnedPoints tr % 2 ^ 64

instance (tr : List (FrameReply F)) (c : LaserController τ F D) :
    ∀ call, Decidable (CarriesReturned tr c call)
  | .setPointRate _ => inferInstanceAs (Decidable True)
  | .requestFrame request _ =>
    inferInstanceAs (Decidable (request.currentPointIndex = returnedPoints tr % 2 ^ 64))

variable [FloatArith F] [FloatArith D]

/-- The invariant of runs whose requests carry the number of points returned. -/
structure IndexInv (callback : RequestPointsCallback τ F) (tr : List (FrameReply F))
    (c : LaserController τ F D) : Prop where
  mode : CallbackMode callback c
  indexed : Indexed c.pointStreamFramer
  returned : c.pointStreamFramer.returned = returnedPoints tr

theorem indexInv_started (stage : OutputStage F D) (callback : RequestPointsCallback τ F) :
    IndexInv callback [] (started stage callback) where
  mode := callbackMode_started stage callback
  indexed := ⟨rfl, fun before invocation after heq => by simp [started, setPointCallback, new,
    resetPointCallbackAdapterState, PointStreamFramer.new, PointStreamFramer.reset] at heq⟩
  returned := rfl

/-- **What one call preserves.** -/
theorem IndexInv.step {callback : RequestPointsCallback τ F} {tr : List (FrameReply F)}
    {c c' : LaserController τ F D} {call : FrameCall} {replies : List (FrameReply F)}
    (h : IndexInv callback tr c) (hcarries : CarriesReturned tr c call)
    (hstep : step c call = some (c', replies)) : IndexInv callback (tr ++ replies) c' := by
  cases call with
  | setPointRate pointRateValue =>
    simp only [LaserController.step, Option.some.injEq, Prod.mk.injEq] at hstep
    obtain ⟨rfl, rfl⟩ := hstep
    exact ⟨⟨h.mode.source, h.mode.installed, h.mode.frame_ne⟩, h.indexed,
      by simpa using h.returned⟩
  | requestFrame request context =>
    obtain ⟨c₁, replies₁, hstep₁, hanswer, hmode⟩ := h.mode.requestFrame request context
    rw [hstep₁, Option.some.injEq, Prod.mk.injEq] at hstep
    obtain ⟨rfl, rfl⟩ := hstep
    have hconfigured : Indexed (c.configured request context callback) := h.indexed.configure _
    have hreturned₀ : (c.configured request context callback).returned = returnedPoints tr :=
      (PointStreamFramer.configure_returned _ _).trans h.returned
    have htemplate : request.templateRequest.currentPointIndex =
        (c.configured request context callback).returned % 2 ^ 64 := by
      rw [hreturned₀]
      exact hcarries
    suffices hframer : Indexed c₁.pointStreamFramer ∧
        c₁.pointStreamFramer.returned = returnedPoints (tr ++ replies₁) from
      ⟨hmode, hframer.1, hframer.2⟩
    generalize c₁.pointStreamFramer = framer' at hanswer
    cases hanswer with
    | declined hsize => exact ⟨h.indexed, by simpa using h.returned⟩
    | dry hmoves hprepared =>
      obtain ⟨hindexed, hreturned⟩ := hconfigured.moves htemplate hmoves
      exact ⟨hindexed, by simpa using hreturned.trans hreturned₀⟩
    | @handed ready front rest points hmoves hprepared hlength =>
      obtain ⟨hindexed, hreturned⟩ := hconfigured.moves htemplate hmoves
      refine ⟨hindexed.handOut front rest, ?_⟩
      change ready.returned + front.length = _
      rw [hreturned, hreturned₀, returnedPoints_append, ← hlength]
      rfl

/-- **The index a callback sees**: along a run whose requests carry the number of points returned so
far, an invocation receives the number of points produced before it if and only if no point was
returned before it, to the width of the index. -/
theorem index_eq_produced_iff (stage : OutputStage F D) (callback : RequestPointsCallback τ F)
    (calls : List FrameCall)
    (hcarries : Along step CarriesReturned [] (started stage callback) calls) :
    ∃ c replies, run step (started stage callback) calls = some (c, replies) ∧
      c.pointStreamFramer.returned = returnedPoints replies ∧
      ∀ before invocation after,
        c.pointStreamFramer.invocations = before ++ invocation :: after →
        (invocation.request.currentPointIndex = produced before % 2 ^ 64 ↔
          invocation.returned % 2 ^ 64 = 0) := by
  obtain ⟨c, replies, hrun, -⟩ :=
    run_total (fun c call (h : CallbackMode callback c) => h.step call)
      (callbackMode_started stage callback) calls
  have hinv : IndexInv callback ([] ++ replies) c := by
    refine run_invariant ?_ (indexInv_started stage callback) hcarries hrun
    exact fun tr c call c' replies h hG hstep => h.step hG hstep
  refine ⟨c, replies, hrun, hinv.returned, fun before invocation after heq => ?_⟩
  rw [hinv.indexed.index before invocation after heq]
  omega

/-! ## An index that runs ahead -/

/-- Two requests for one point each. -/
def singlePoints : List FrameCall :=
  [.requestFrame { maximumPointsRequired := 1 } noLatency,
    .requestFrame { maximumPointsRequired := 1, currentPointIndex := 1 } noLatency]

/-- The first request pulls two points and returns one; the invocation for the second request is
then told to start at point 3, where two points have been produced. -/
theorem index_runs_ahead :
    Along step CarriesReturned [] (started idleStage (obliging ())) singlePoints ∧
    ∃ c replies, run step (started idleStage (obliging ())) singlePoints = some (c, replies) ∧
      ∃ before invocation after, c.pointStreamFramer.invocations = before ++ invocation :: after ∧
        invocation.request.currentPointIndex = 3 ∧ produced before = 2 := by
  have hindices : (run step (started idleStage (obliging ())) singlePoints).map (fun r =>
      r.1.pointStreamFramer.invocations.map fun invocation =>
        (invocation.request.currentPointIndex, invocation.batch.length)) =
      some [(0, 1), (1, 1), (3, 1)] := by
    decide +kernel
  obtain ⟨⟨c, replies⟩, hrun, hindices⟩ := Option.map_eq_some_iff.mp hindices
  obtain ⟨i₀, l₀, hl, h₀, hrest⟩ := List.map_eq_cons_iff.mp hindices
  obtain ⟨i₁, l₁, rfl, h₁, hrest⟩ := List.map_eq_cons_iff.mp hrest
  obtain ⟨i₂, l₂, rfl, h₂, hrest⟩ := List.map_eq_cons_iff.mp hrest
  simp only [Prod.mk.injEq] at h₀ h₁ h₂
  exact ⟨by decide +kernel, c, replies, hrun, [i₀, i₁], i₂, l₂, hl, h₂.1,
    by simp [produced, h₀.2, h₁.2]⟩

/-- The second invocation for the first request starts at point 1, where one has been produced. -/
theorem index_follows_first_batch : ∃ c replies, run step (started idleStage (obliging ()))
    [.requestFrame { maximumPointsRequired := 1 } noLatency] = some (c, replies) ∧
      ∃ first second after, c.pointStreamFramer.invocations = first :: second :: after ∧
        second.request.currentPointIndex = 1 := by
  obtain ⟨c, replies, hrun, -, hiff⟩ := index_eq_produced_iff idleStage (obliging ())
    [.requestFrame { maximumPointsRequired := 1 } noLatency] (by decide +kernel)
  have hinvocations : (run step (started idleStage (obliging ()))
      [.requestFrame { maximumPointsRequired := 1 } noLatency]).map (fun r =>
        r.1.pointStreamFramer.invocations.map fun invocation =>
          (invocation.batch.length, invocation.returned)) = some [(1, 0), (1, 0)] := by
    decide +kernel
  rw [hrun, Option.map_some, Option.some.injEq] at hinvocations
  obtain ⟨first, rest, hl, h₁, hrest⟩ := List.map_eq_cons_iff.mp hinvocations
  obtain ⟨second, after, rfl, h₂, -⟩ := List.map_eq_cons_iff.mp hrest
  have hproduced : produced [first] = 1 := by simp [produced, (Prod.mk.inj h₁).1]
  refine ⟨c, replies, hrun, first, second, after, hl, ?_⟩
  have hindex := (hiff [first] second after hl).mpr (by rw [(Prod.mk.inj h₂).2, Nat.zero_mod])
  rw [hproduced] at hindex
  exact hindex

end LaserController

end LiberaLaser
