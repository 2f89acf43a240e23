import LiberaLaser.Core.Scheduler.System
import LiberaLaser.Foundations.Playback
import Mathlib.Data.List.Infix

/-!
# The scheduler plays frames in order

Seen from its content points, the scheduler is a player of the submitted frames: what it emits is a
sequence of whole traversals in submission order, of which only the last may be unfinished, and a
frame that is passed over was skipped as stale. Every move is some steps of the player
(`Plays.move`), and so is every call but a reset (`Plays.run`).
-/

namespace LiberaLaser

/-- The origin is a point of a submitted frame. -/
def Origin.isContent : Origin → Bool
  | .content _ _ => true
  | _ => false

namespace FrameScheduler

open Playback Runs

variable {F : Type}

/-- The content points of some output. -/
def contents (o : List (Emitted F)) : List (Emitted F) := o.filter (·.stamp.isContent)

@[simp] theorem contents_append (o o' : List (Emitted F)) :
    contents (o ++ o') = contents o ++ contents o' := List.filter_append _ _

/-- The points of the frame submitted as number `serial`, from the first to the last. -/
def traversal (submitted : List (Frame F)) (serial : ℕ) : List (Emitted F) :=
  match submitted[serial]? with
  | none => []
  | some frame => frame.points.mapIdx fun j p => ⟨.content serial j, p⟩

/-- What is known of a frame's traversal. -/
theorem traversal_eq {submitted : List (Frame F)} {f : QueuedFrame F}
    (h : (submitted[f.serial]?).map (·.points) = some f.points) :
    traversal submitted f.serial = f.points.mapIdx fun j p => ⟨.content f.serial j, p⟩ := by
  obtain ⟨frame, hframe, hpoints⟩ := Option.map_eq_some_iff.mp h
  simp only [traversal, hframe, hpoints]

/-- A chunk is a piece of the traversal. -/
theorem chunk_eq {submitted : List (Frame F)} {f : QueuedFrame F}
    (h : (submitted[f.serial]?).map (·.points) = some f.points) (k : ℕ) :
    f.chunk k = ((traversal submitted f.serial).drop f.nextPoint).take k := by
  rw [traversal_eq h, QueuedFrame.chunk]
  apply List.ext_getElem?
  intro j
  simp only [List.getElem?_mapIdx, List.getElem?_take, List.getElem?_drop]
  split <;> rfl

theorem contents_chunk (f : QueuedFrame F) (k : ℕ) : contents (f.chunk k) = f.chunk k := by
  refine List.filter_eq_self.mpr fun p hp => ?_
  obtain ⟨index, hstamp⟩ := stamp_of_mem_chunk hp
  rw [hstamp]
  rfl

@[simp] theorem contents_transitions (points : List (LaserPoint F)) :
    contents (transitions points) = [] := by
  refine List.filter_eq_nil_iff.mpr fun p hp => ?_
  simp [stamp_of_mem_transitions hp, Origin.isContent]

@[simp] theorem contents_blanks [FloatArith F] (n : ℕ) :
    contents (blanks n : List (Emitted F)) = [] :=
  List.filter_eq_nil_iff.mpr fun p hp => by simp [List.eq_of_mem_replicate hp, Origin.isContent]

/-! ## The player behind a scheduler -/

/-- The frame under way: the front frame, once it was played. -/
def underWay : List (QueuedFrame F) → Option (ℕ × ℕ)
  | [] => none
  | f :: _ => if f.playCount = 0 then none else some (f.serial, f.nextPoint)

/-- The player stands where the scheduler does. -/
structure Plays (P : Player ℕ) (s : FrameScheduler F) : Prop where
  current : P.current = underWay s.frameQueue
  skipped : P.skipped = s.skipped
  bounded : ∀ i ∈ P.finished ++ P.skipped, i < s.submitted.length
  finished : ∀ i ∈ P.finished, ∀ f ∈ s.frameQueue ++ s.pendingFrames,
    i ≤ f.serial ∧ (f.playCount = 0 → i < f.serial)
  passed : ∀ i ∈ P.skipped, ∀ f ∈ s.frameQueue ++ s.pendingFrames, i < f.serial
  accounted : ∀ i < s.submitted.length, i ∈ P.finished ∨ i ∈ P.skipped ∨
    ∃ f ∈ s.frameQueue ++ s.pendingFrames, f.serial = i

theorem plays_init : Plays {} ({} : FrameScheduler F) where
  current := rfl
  skipped := rfl
  bounded := by simp
  finished := by simp
  passed := by simp
  accounted := by simp

/-- The frame under way when the front frame was never played. -/
theorem underWay_fresh {q : List (QueuedFrame F)} (h : ∀ f ∈ q.head?, f.playCount = 0) :
    underWay q = none := by
  cases q with
  | nil => rfl
  | cons f rest => exact if_pos (h f rfl)

/-- Every frame that is not at the front is fresh. -/
theorem Wf.fresh_of_tail {s : FrameScheduler F} (h : Wf s) {f : QueuedFrame F}
    {rest : List (QueuedFrame F)} (hq : s.frameQueue = f :: rest) :
    ∀ g ∈ rest ++ s.pendingFrames, Fresh g := by
  simpa [hq] using h.fresh

/-- The frames behind the front one were submitted later. -/
theorem Wf.serial_lt_of_tail {s : FrameScheduler F} (h : Wf s) {f : QueuedFrame F}
    {rest : List (QueuedFrame F)} (hq : s.frameQueue = f :: rest) :
    ∀ g ∈ rest ++ s.pendingFrames, f.serial < g.serial := by
  have horder := h.order
  simp only [hq, List.cons_append, List.map_cons, List.pairwise_cons, List.mem_map] at horder
  exact fun g hg => horder.1 g.serial ⟨g, hg, rfl⟩

/-- Every frame submitted before the front one was finished or skipped. -/
theorem Plays.earlier {P : Player ℕ} {s : FrameScheduler F} (h : Plays P s) (hs : Wf s)
    {f : QueuedFrame F} {rest : List (QueuedFrame F)} (hq : s.frameQueue = f :: rest) :
    ∀ i < f.serial, i ∈ P.finished ∨ i ∈ P.skipped := by
  intro i hi
  have hlt := hs.serial_lt (f := f) (by simp [hq])
  rcases h.accounted i (by omega) with hi' | hi' | ⟨g, hg, rfl⟩
  · exact Or.inl hi'
  · exact Or.inr hi'
  · rw [hq, List.cons_append, List.mem_cons] at hg
    rcases hg with rfl | hg
    · omega
    · have := hs.serial_lt_of_tail hq g hg
      omega

section Steps

variable {P : Player ℕ} {s : FrameScheduler F} {S : List (Frame F)} {f : QueuedFrame F}
  {rest : List (QueuedFrame F)}

/-- What was submitted stays the same when more is submitted. -/
theorem Wf.recorded_of_prefix (hs : Wf s) (hS : s.submitted <+: S)
    (hq : s.frameQueue = f :: rest) : (S[f.serial]?).map (·.points) = some f.points := by
  have hlt := hs.serial_lt (f := f) (by simp [hq])
  rw [← hs.recorded f (by simp [hq]), List.prefix_iff_getElem?.mp hS f.serial hlt,
    List.getElem?_eq_getElem hlt]

theorem length_traversal (h : (S[f.serial]?).map (·.points) = some f.points) :
    (traversal S f.serial).length = f.points.length := by
  rw [traversal_eq h, List.length_mapIdx]

/-- The player finishes the front frame. -/
theorem Plays.finish (h : Plays P s) (hs : Wf s) (hS : s.submitted <+: S)
    (hq : s.frameQueue = f :: rest) (hend : f.nextPoint = f.points.length) :
    Step (traversal S) P []
      { P with finished := P.finished ++ [f.serial], current := none } := by
  have hpos := (hs.front f rest hq).playCount_pos hend.ge
  refine Step.finish ?_
  rw [h.current, hq, length_traversal (hs.recorded_of_prefix hS hq), ← hend]
  exact if_neg (by omega)

/-- The player starts the front frame. -/
theorem Plays.start (h : Plays P s) (hs : Wf s) (hq : s.frameQueue = f :: rest)
    {finished : List ℕ} (hfinished : P.finished ⊆ finished) (hlast : ∀ i ∈ finished, i ≤ f.serial) :
    Step (traversal S) { P with finished := finished, current := none } []
      { P with finished := finished, current := some (f.serial, 0) } := by
  refine Step.start f.serial rfl hlast (fun hmem => ?_) fun i hi => ?_
  · have := h.passed f.serial hmem f (by simp [hq])
    omega
  · exact (h.earlier hs hq i hi).imp_left fun hi => hfinished hi

/-- The player stands where the scheduler does once the finished front frame is gone. -/
theorem Plays.dropFront (h : Plays P s) (hs : Wf s) (hq : s.frameQueue = f :: rest)
    (T : List (LaserPoint F)) :
    Plays { P with finished := P.finished ++ [f.serial], current := none }
      { s with frameQueue := rest, pendingTransitionPoints := T } where
  current := by
    refine (underWay_fresh fun g hg => ?_).symm
    exact (hs.fresh_of_tail hq g (List.mem_append_left _ (List.mem_of_mem_head? hg))).playCount_eq
  skipped := h.skipped
  bounded := by
    intro i hi
    have hlt := hs.serial_lt (f := f) (by simp [hq])
    simp only [List.mem_append, List.mem_singleton] at hi
    rcases hi with (hi | rfl) | hi
    · exact h.bounded i (List.mem_append_left _ hi)
    · exact hlt
    · exact h.bounded i (List.mem_append_right _ hi)
  finished := by
    intro i hi g hg
    have hlt := hs.serial_lt_of_tail hq g hg
    rcases List.mem_append.mp hi with hi | hi
    · have := (h.finished i hi f (by simp [hq])).1
      omega
    · rw [List.mem_singleton.mp hi]
      omega
  passed := fun i hi g hg => h.passed i hi g (by rw [hq]; exact List.mem_cons_of_mem _ hg)
  accounted := by
    intro i hi
    rcases h.accounted i hi with hi | hi | ⟨g, hg, rfl⟩
    · exact Or.inl (List.mem_append_left _ hi)
    · exact Or.inr (Or.inl hi)
    · rw [hq, List.cons_append, List.mem_cons] at hg
      rcases hg with rfl | hg
      · exact Or.inl (by simp)
      · exact Or.inr (Or.inr ⟨g, hg, rfl⟩)

/-- The player stands where the scheduler does once a played state of the front frame replaces it.
-/
theorem Plays.replaceFront (h : Plays P s) (hq : s.frameQueue = f :: rest)
    {f' : QueuedFrame F} (hserial : f'.serial = f.serial) (hplay : f'.playCount ≠ 0)
    (T : List (LaserPoint F)) {finished : List ℕ}
    (hfinished : ∀ i ∈ finished, i ∈ P.finished ∨ i = f.serial)
    (hkept : P.finished ⊆ finished) (hs : Wf s) :
    Plays { P with finished := finished, current := some (f.serial, f'.nextPoint) }
      { s with frameQueue := f' :: rest, pendingTransitionPoints := T } where
  current := by
    rw [← hserial]
    exact (if_neg hplay).symm
  skipped := h.skipped
  bounded := by
    intro i hi
    have hlt := hs.serial_lt (f := f) (by simp [hq])
    rcases List.mem_append.mp hi with hi | hi
    · rcases hfinished i hi with hi | rfl
      · exact h.bounded i (List.mem_append_left _ hi)
      · exact hlt
    · exact h.bounded i (List.mem_append_right _ hi)
  finished := by
    intro i hi g hg
    rw [List.cons_append, List.mem_cons] at hg
    rcases hg with rfl | hg
    · refine ⟨?_, fun h0 => absurd h0 hplay⟩
      rw [hserial]
      rcases hfinished i hi with hi | rfl
      · exact (h.finished i hi f (by simp [hq])).1
      · exact le_rfl
    · have hlt := hs.serial_lt_of_tail hq g hg
      rcases hfinished i hi with hi | rfl
      · have := (h.finished i hi f (by simp [hq])).1
        omega
      · omega
  passed := by
    intro i hi g hg
    rw [List.cons_append, List.mem_cons] at hg
    rcases hg with rfl | hg
    · rw [hserial]
      exact h.passed i hi f (by simp [hq])
    · exact h.passed i hi g (by rw [hq]; exact List.mem_cons_of_mem _ hg)
  accounted := by
    intro i hi
    rcases h.accounted i hi with hi | hi | ⟨g, hg, rfl⟩
    · exact Or.inl (hkept hi)
    · exact Or.inr (Or.inl hi)
    · rw [hq, List.cons_append, List.mem_cons] at hg
      rcases hg with rfl | hg
      · exact Or.inr (Or.inr ⟨f', by simp, hserial⟩)
      · exact Or.inr (Or.inr ⟨g, List.mem_cons_of_mem _ hg, rfl⟩)

/-- A scheduler with the same frames. -/
theorem Plays.sameFrames (h : Plays P s) {s' : FrameScheduler F}
    (hframes : s'.frameQueue ++ s'.pendingFrames = s.frameQueue ++ s.pendingFrames)
    (hway : underWay s'.frameQueue = underWay s.frameQueue) (hskipped : s'.skipped = s.skipped)
    (hsubmitted : s'.submitted = s.submitted) : Plays P s' where
  current := h.current.trans hway.symm
  skipped := h.skipped.trans hskipped.symm
  bounded := hsubmitted ▸ h.bounded
  finished := hframes ▸ h.finished
  passed := hframes ▸ h.passed
  accounted := by rw [hframes, hsubmitted]; exact h.accounted

/-- Skipping the front frame. -/
theorem Plays.skip (h : Plays P s) (hs : Wf s) (hq : s.frameQueue = f :: rest)
    (hplay : f.playCount = 0) :
    Step (traversal S) P [] { P with skipped := P.skipped ++ [f.serial] } ∧
      Plays { P with skipped := P.skipped ++ [f.serial] }
        { s with frameQueue := rest, skipped := s.skipped ++ [f.serial] } := by
  have hidle : P.current = none := by
    rw [h.current, hq]
    exact if_pos hplay
  have hmem : f ∈ s.frameQueue ++ s.pendingFrames := by simp [hq]
  have htail : ∀ g ∈ rest ++ s.pendingFrames, g ∈ s.frameQueue ++ s.pendingFrames :=
    fun g hg => by rw [hq]; exact List.mem_cons_of_mem _ hg
  refine ⟨Step.skip f.serial hidle fun hi => ?_, ?_, ?_, ?_, ?_, ?_, ?_⟩
  · have := (h.finished f.serial hi f hmem).2 hplay
    omega
  · show P.current = _
    rw [hidle, underWay_fresh fun g hg => ?_]
    exact (hs.fresh_of_tail hq g (List.mem_append_left _ (List.mem_of_mem_head? hg))).playCount_eq
  · exact congrArg (· ++ [f.serial]) h.skipped
  · intro i hi
    rw [← List.append_assoc, List.mem_append, List.mem_singleton] at hi
    rcases hi with hi | rfl
    · exact h.bounded i hi
    · exact hs.serial_lt hmem
  · exact fun i hi g hg => h.finished i hi g (htail g hg)
  · intro i hi g hg
    rcases List.mem_append.mp hi with hi | hi
    · exact h.passed i hi g (htail g hg)
    · rw [List.mem_singleton.mp hi]
      exact hs.serial_lt_of_tail hq g hg
  · intro i hi
    rcases h.accounted i hi with hi | hi | ⟨g, hg, rfl⟩
    · exact Or.inl hi
    · exact Or.inr (Or.inl (List.mem_append_left _ hi))
    · rw [hq, List.cons_append, List.mem_cons] at hg
      rcases hg with rfl | hg
      · exact Or.inr (Or.inl (by simp))
      · exact Or.inr (Or.inr ⟨g, hg, rfl⟩)

/-- Skipping frames of the front, while one is left. -/
theorem Plays.skips (h : Plays P s) (hs : Wf s) {dropped : List (QueuedFrame F)}
    {g : QueuedFrame F} (hq : s.frameQueue = dropped ++ g :: rest)
    (hplay : ∀ f ∈ dropped, f.playCount = 0) :
    ∃ P', Steps (traversal S) P [] P' ∧ Plays P' { s with
      frameQueue := g :: rest
      skipped := s.skipped ++ dropped.map (·.serial) } := by
  induction dropped generalizing P s with
  | nil =>
    rw [List.nil_append] at hq
    rw [List.map_nil, List.append_nil, ← hq]
    exact ⟨P, Steps.refl P, h⟩
  | cons d ds ih =>
    obtain ⟨hstep, hplays⟩ := h.skip (S := S) hs hq (hplay d List.mem_cons_self)
    obtain ⟨P', hsteps, hplays'⟩ := ih hplays
      (((hs.dropFront (T := s.pendingTransitionPoints) hq fun _ => by simp)).setSkipped _) rfl
      fun f hf => hplay f (List.mem_cons_of_mem _ hf)
    refine ⟨P', hstep.steps.trans hsteps, ?_⟩
    rw [List.map_cons, List.append_cons]
    exact hplays'

/-- Playing points of the front frame. -/
theorem Plays.play (h : Plays P s) (hs : Wf s) (hS : s.submitted <+: S)
    (hq : s.frameQueue = f :: rest) {f' : QueuedFrame F} {k : ℕ}
    (hk : f.nextPoint + k ≤ f.points.length) (hf' : Played f f' k) :
    ∃ P', Steps (traversal S) P (f.chunk k) P' ∧ Plays P' { s with frameQueue := f' :: rest } := by
  have hrecorded := hs.recorded_of_prefix hS hq
  have hstart : Steps (traversal S) P [] { P with current := some (f.serial, f.nextPoint) } := by
    by_cases hplay : f.playCount = 0
    · have hidle : P.current = none := by
        rw [h.current, hq]
        exact if_pos hplay
      have hstep := (h.start (S := S) hs hq (List.Subset.refl P.finished)
        fun i hi => (h.finished i hi f (by simp [hq])).1).steps
      rwa [← hidle, ← (hs.front f rest hq).cursor_eq hplay] at hstep
    · have hcurrent : P.current = some (f.serial, f.nextPoint) := by
        rw [h.current, hq]
        exact if_neg hplay
      rw [← hcurrent]
      exact Steps.refl P
  refine ⟨{ P with current := some (f.serial, f'.nextPoint) }, ?_,
    h.replaceFront hq hf'.serial (by have := hf'.playCount; omega) s.pendingTransitionPoints
      (fun i hi => Or.inl hi) (List.Subset.refl _) hs⟩
  rw [hf'.nextPoint, chunk_eq hrecorded]
  exact hstart.trans (Step.play k rfl (by rw [length_traversal hrecorded]; exact hk)).steps

end Steps

/-- A submission leaves the player where it is. -/
theorem Plays.submits {P : Player ℕ} {s s' : FrameScheduler F} (h : Plays P s) (hs : Submits s s') :
    Plays P s' := by
  cases hs with
  | rejected => exact h
  | accepted points time hne =>
    have hlt : ∀ i ∈ P.finished ++ P.skipped, i < s.submitted.length := h.bounded
    refine ⟨h.current, h.skipped, fun i hi => ?_, fun i hi f hf => ?_, fun i hi f hf => ?_,
      fun i hi => ?_⟩
    · have := hlt i hi
      simp only [acceptFrame, List.length_append, List.length_singleton]
      omega
    · simp only [acceptFrame, ← List.append_assoc, List.mem_append, List.mem_singleton] at hf
      rcases hf with hf | rfl
      · exact h.finished i hi f (List.mem_append.mpr hf)
      · have := hlt i (List.mem_append_left _ hi)
        exact ⟨this.le, fun _ => this⟩
    · simp only [acceptFrame, ← List.append_assoc, List.mem_append, List.mem_singleton] at hf
      rcases hf with hf | rfl
      · exact h.passed i hi f (List.mem_append.mpr hf)
      · exact hlt i (List.mem_append_right _ hi)
    · simp only [acceptFrame, List.length_append, List.length_singleton] at hi
      simp only [acceptFrame, ← List.append_assoc]
      rcases Nat.lt_succ_iff_lt_or_eq.mp hi with hi | rfl
      · rcases h.accounted i hi with hi | hi | ⟨f, hf, rfl⟩
        · exact Or.inl hi
        · exact Or.inr (Or.inl hi)
        · exact Or.inr (Or.inr ⟨f, List.mem_append_left _ hf, rfl⟩)
      · exact Or.inr (Or.inr ⟨_, List.mem_append_right _ (List.mem_singleton_self _), rfl⟩)

/-- The frames played have been submitted. -/
theorem Plays.played_lt {P : Player ℕ} {s : FrameScheduler F} (h : Plays P s) (hs : Wf s) :
    ∀ i ∈ P.played, i < s.submitted.length := by
  intro i hi
  rcases List.mem_append.mp hi with hi | hi
  · exact h.bounded i (List.mem_append_left _ hi)
  · rw [h.current] at hi
    cases hq : s.frameQueue with
    | nil => simp [hq, underWay] at hi
    | cons f rest =>
      rw [hq, underWay] at hi
      split at hi
      · cases hi
      · obtain rfl : i = f.serial := by simpa using hi
        exact hs.serial_lt (by simp [hq])

variable [FloatArith F]

/-- **Every move is some steps of the player.** -/
theorem Plays.move {A : Licence F} {P : Player ℕ} {s s' : FrameScheduler F}
    {sofar o : List (Emitted F)} {S : List (Frame F)} (h : Plays P s) (hs : Wf s)
    (hS : s.submitted <+: S) (hm : Move A sofar s o s') :
    ∃ P', Steps (traversal S) P (contents o) P' ∧ Plays P' s' := by
  cases hm with
  | drain =>
    refine ⟨P, Steps.refl P, h.sameFrames (by simp [drainPendingFramesUnsafe]) ?_ rfl rfl⟩
    cases hq : s.frameQueue with
    | nil =>
      refine underWay_fresh fun g hg => (hs.fresh g ?_).playCount_eq
      simp only [drainPendingFramesUnsafe, hq, List.nil_append] at hg
      exact List.mem_append_right _ (List.mem_of_mem_head? hg)
    | cons f rest => simp only [drainPendingFramesUnsafe, hq, List.cons_append, underWay]
  | transition k =>
    rw [contents_transitions]
    exact ⟨P, Steps.refl P, h.sameFrames rfl rfl rfl rfl⟩
  | skip hA hsofar hq hplay =>
    exact h.skips hs hq hplay
  | blank n hT =>
    rw [contents_blanks]
    exact ⟨P, Steps.refl P, h⟩
  | play hq hT hk hfirst hf' =>
    rw [contents_chunk]
    exact h.play hs hS hq hk hf'
  | advance hq hT hend hlast hfirst =>
    exact ⟨_, (h.finish hs hS hq hend).steps, h.dropFront hs hq _⟩
  | @restart f f' rest T hq hT hend hf' hbridge =>
    have hstart := h.start (S := S) hs hq (List.subset_append_left P.finished [f.serial])
      fun i hi => by
        rcases List.mem_append.mp hi with hi | hi
        · exact (h.finished i hi f (by simp [hq])).1
        · exact (List.mem_singleton.mp hi).le
    refine ⟨_, (h.finish hs hS hq hend).steps.quiet hstart, ?_⟩
    rw [← hf'.nextPoint]
    refine h.replaceFront hq hf'.serial (by have := hf'.playCount; omega) T (fun i hi => ?_)
      (List.subset_append_left _ _) hs
    exact (List.mem_append.mp hi).imp_right List.mem_singleton.mp
  | expire n hn hq hT hend =>
    rw [contents_blanks]
    exact ⟨_, (h.finish hs hS hq hend).steps, h.dropFront hs hq s.pendingTransitionPoints⟩
  | discard n hn =>
    rw [contents_blanks]
    exact ⟨P, Steps.refl P, h.sameFrames rfl rfl rfl rfl⟩

/-- No move submits anything. -/
theorem Moves.submitted_eq {A : Licence F} {s s' : FrameScheduler F} {o : List (Emitted F)}
    (hm : Moves A s o s') : s'.submitted = s.submitted := by
  induction hm with
  | refl => rfl
  | tail _ hmove ih =>
    rw [← ih]
    cases hmove <;> rfl

theorem Plays.moves {A : Licence F} {P : Player ℕ} {s s' : FrameScheduler F} {o : List (Emitted F)}
    {S : List (Frame F)} (h : Plays P s) (hs : Wf s) (hS : s.submitted <+: S)
    (hm : Moves A s o s') : ∃ P', Steps (traversal S) P (contents o) P' ∧ Plays P' s' := by
  induction hm with
  | refl => exact ⟨P, Steps.refl P, h⟩
  | tail hm hmove ih =>
    obtain ⟨P₁, hsteps₁, h₁⟩ := ih
    obtain ⟨P₂, hsteps₂, h₂⟩ := h₁.move (hm.wf hs) (hm.submitted_eq ▸ hS) hmove
    refine ⟨P₂, ?_, h₂⟩
    rw [contents_append]
    exact hsteps₁.trans hsteps₂

/-! ## Whole runs -/

/-- A call keeps what was submitted. -/
theorem submitted_prefix_of_step {D : Type} [FloatArith D] {s s' : FrameScheduler F} {call : Call F}
    {o : List (Emitted F)} (hs : Wf s) (h : step D s call = some (s', o)) :
    s.submitted <+: s'.submitted := by
  rcases step_cases (A := .all) hs (fun _ _ _ => trivial) (fun _ => trivial) h with
    ⟨hsub, -⟩ | hmoves | ⟨-, rfl, -⟩
  · cases hsub with
    | rejected => exact List.prefix_refl _
    | accepted points time hne => exact List.prefix_append _ _
  · rw [hmoves.submitted_eq]
  · exact List.prefix_refl _

theorem submitted_prefix_of_run {D : Type} [FloatArith D] {calls : List (Call F)}
    {s s' : FrameScheduler F} {o : List (Emitted F)} (hs : Wf s)
    (hrun : Runs.run (step D) s calls = some (s', o)) : s.submitted <+: s'.submitted := by
  have hinv : Wf s' ∧ s.submitted <+: s'.submitted := by
    refine run_invariant (I := fun _ t => Wf t ∧ s.submitted <+: t.submitted)
      (G := fun _ _ _ => True) ?_ ⟨hs, List.prefix_refl _⟩
      (Along.of_forall (fun _ _ => trivial) [] s) hrun
    rintro tr t call t' o ⟨ht, hprefix⟩ - hstep
    exact ⟨step_wf ht hstep, hprefix.trans (submitted_prefix_of_step ht hstep)⟩
  exact hinv.2

/-- **A run of calls without a reset is a run of the player.** -/
theorem Plays.run {D : Type} [FloatArith D] {calls : List (Call F)} (hreset : .reset ∉ calls)
    {P : Player ℕ} {s s' : FrameScheduler F} {o : List (Emitted F)} (h : Plays P s) (hs : Wf s)
    (hrun : Runs.run (step D) s calls = some (s', o)) :
    ∃ P', Steps (traversal s'.submitted) P (contents o) P' ∧ Plays P' s' := by
  induction calls generalizing P s o with
  | nil =>
    simp only [run_nil, Option.some.injEq, Prod.mk.injEq] at hrun
    obtain ⟨rfl, rfl⟩ := hrun
    exact ⟨P, Steps.refl P, h⟩
  | cons call calls ih =>
    obtain ⟨s₁, o₁, o₂, hstep, hrest, rfl⟩ := run_cons_eq_some.mp hrun
    simp only [List.mem_cons, not_or] at hreset
    have hprefix := submitted_prefix_of_run hs hrun
    have hs₁ := step_wf hs hstep
    rw [contents_append]
    rcases step_cases (A := .all) hs (fun _ _ _ => trivial) (fun _ => trivial) hstep with
      ⟨hsub, rfl⟩ | hmoves | ⟨rfl, -⟩
    · obtain ⟨P', hsteps, hplays⟩ := ih hreset.2 (h.submits hsub) hs₁ hrest
      exact ⟨P', hsteps, hplays⟩
    · obtain ⟨P₁, hsteps₁, h₁⟩ := h.moves hs hprefix hmoves
      obtain ⟨P', hsteps₂, hplays⟩ := ih hreset.2 h₁ hs₁ hrest
      exact ⟨P', hsteps₁.trans hsteps₂, hplays⟩
    · exact absurd rfl hreset.1

/-- **Order and completeness of the traversals**: the calls of a run without a reset return, and the
content points they emit are whole traversals of the submitted frames in submission order, followed
by the beginning of one more; a frame that comes before one that was played was played to its end or
skipped as stale, and a frame that was skipped is never played. -/
theorem plays_in_submission_order (D : Type) [FloatArith D] (calls : List (Call F))
    (hreset : .reset ∉ calls) :
    ∃ s out, Runs.run (step D) {} calls = some (s, out) ∧
      ∃ P : Player ℕ, contents out = P.output (traversal s.submitted) ∧ P.Ordered ∧
        P.skipped = s.skipped ∧ ∀ i ∈ P.played, i < s.submitted.length := by
  obtain ⟨s, out, hrun, hs⟩ :=
    run_total (fun s call (hs : Wf s) => step_total D hs call) wf_init calls
  obtain ⟨P, hsteps, hplays⟩ := plays_init.run hreset wf_init hrun
  obtain ⟨houtput, hordered⟩ := hsteps.playback
  exact ⟨s, out, hrun, P, houtput.symm, hordered, hplays.skipped, hplays.played_lt hs⟩

/-- The first frame is played and held, and the second follows once it has ended again. -/
theorem plays_two_frames_in_order : ∃ s out,
    Runs.run (step ℚ) {} [.enqueueFrame (pointsAt 0 2) 0,
      .fillPoints { maximumPointsRequired := 3, minimumPointsRequired := 3 } 30000 0 (fun _ => 7),
      .enqueueFrame (pointsAt 0 2) 0,
      .fillPoints { maximumPointsRequired := 3, minimumPointsRequired := 3 } 30000 0 (fun _ => 7)] =
      some (s, out) ∧
      ∃ P : Player ℕ, contents out = P.output (traversal s.submitted) ∧ P.Ordered ∧
        P.skipped = s.skipped ∧ ∀ i ∈ P.played, i < s.submitted.length :=
  plays_in_submission_order ℚ _ (by simp)

end FrameScheduler

end LiberaLaser
