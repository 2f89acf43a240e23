import LiberaLaser.Core.Scheduler.Model

/-!
# The scheduler invariant

Every frame held by the scheduler has points, only the front frame has been played, and a
transition left over from an earlier call leads to a front frame whose cursor is at its start.
The frames stand in submission order, and their points are those that were submitted.
-/

namespace LiberaLaser.FrameScheduler

variable {F : Type}

/-- A frame that may stand at the front of the queue. -/
structure FrameOk (f : QueuedFrame F) : Prop where
  points_ne : f.points ≠ []
  cursor_le : f.nextPoint ≤ f.points.length
  cursor_eq : f.playCount = 0 → f.nextPoint = 0

/-- A frame that was never played. -/
structure Fresh (f : QueuedFrame F) : Prop where
  points_ne : f.points ≠ []
  cursor_eq : f.nextPoint = 0
  playCount_eq : f.playCount = 0

theorem Fresh.ok {f : QueuedFrame F} (h : Fresh f) : FrameOk f where
  points_ne := h.points_ne
  cursor_le := by rw [h.cursor_eq]; exact Nat.zero_le _
  cursor_eq := fun _ => h.cursor_eq

/-- The invariant of the scheduler. -/
structure Wf (s : FrameScheduler F) : Prop where
  front : ∀ f rest, s.frameQueue = f :: rest → FrameOk f
  fresh : ∀ f ∈ s.frameQueue.tail ++ s.pendingFrames, Fresh f
  bridge : s.pendingTransitionPoints ≠ [] → ∃ f rest, s.frameQueue = f :: rest ∧ f.nextPoint = 0
  order : ((s.frameQueue ++ s.pendingFrames).map (·.serial)).Pairwise (· < ·)
  recorded : ∀ f ∈ s.frameQueue ++ s.pendingFrames,
    (s.submitted[f.serial]?).map (·.points) = some f.points

theorem wf_init : Wf ({} : FrameScheduler F) where
  front := by simp
  fresh := by simp
  bridge := by simp
  order := by simp
  recorded := by simp

theorem Wf.serial_lt {s : FrameScheduler F} (h : Wf s) {f : QueuedFrame F}
    (hf : f ∈ s.frameQueue ++ s.pendingFrames) : f.serial < s.submitted.length := by
  have hr := h.recorded f hf
  by_contra hlt
  rw [List.getElem?_eq_none (by omega)] at hr
  cases hr

/-- No frame is empty or has its cursor past its end, and only the front frame of the queue can have
been played. -/
structure FramesOk (s : FrameScheduler F) : Prop where
  points_ne : ∀ f ∈ s.frameQueue ++ s.pendingFrames, f.points ≠ []
  cursor_le : ∀ f ∈ s.frameQueue ++ s.pendingFrames, f.nextPoint ≤ f.points.length
  unplayed : ∀ f ∈ s.frameQueue.tail ++ s.pendingFrames, f.nextPoint = 0 ∧ f.playCount = 0

theorem Wf.framesOk {s : FrameScheduler F} (h : Wf s) : FramesOk s := by
  have hok : ∀ f ∈ s.frameQueue ++ s.pendingFrames, FrameOk f := by
    intro f hf
    cases hqueue : s.frameQueue with
    | nil =>
      rw [hqueue, List.nil_append] at hf
      exact (h.fresh f (List.mem_append_right _ hf)).ok
    | cons front rest =>
      rw [hqueue, List.cons_append] at hf
      rcases List.mem_cons.mp hf with rfl | hf
      · exact h.front f rest hqueue
      · refine (h.fresh f ?_).ok
        rw [hqueue]
        exact hf
  exact ⟨fun f hf => (hok f hf).points_ne, fun f hf => (hok f hf).cursor_le,
    fun f hf => ⟨(h.fresh f hf).cursor_eq, (h.fresh f hf).playCount_eq⟩⟩

/-! ## Submission keeps the invariant -/

/-- A frame submitted with points and the default playback fields. -/
structure Submittable (frame : Frame F) : Prop where
  points_ne : frame.points ≠ []
  cursor_eq : frame.nextPoint = 0
  playCount_eq : frame.playCount = 0

theorem Wf.acceptFrame {s : FrameScheduler F} (h : Wf s) {frame : Frame F}
    (hf : Submittable frame) : Wf (s.acceptFrame frame) where
  front := h.front
  fresh := by
    intro f hmem
    simp only [FrameScheduler.acceptFrame, ← List.append_assoc, List.mem_append,
      List.mem_singleton] at hmem
    rcases hmem with hmem | rfl
    · exact h.fresh f (List.mem_append.mpr hmem)
    · exact ⟨hf.points_ne, hf.cursor_eq, hf.playCount_eq⟩
  bridge := h.bridge
  order := by
    simp only [FrameScheduler.acceptFrame, ← List.append_assoc]
    rw [List.map_append, List.pairwise_append]
    refine ⟨h.order, by simp, ?_⟩
    intro a ha b hb
    obtain ⟨f, hmem, rfl⟩ := List.mem_map.mp ha
    simp only [List.map_cons, List.map_nil, List.mem_singleton] at hb
    exact hb ▸ h.serial_lt hmem
  recorded := by
    intro f hmem
    simp only [FrameScheduler.acceptFrame, ← List.append_assoc] at hmem ⊢
    rcases List.mem_append.mp hmem with hmem | hmem
    · rw [List.getElem?_append_left (h.serial_lt hmem)]
      exact h.recorded f hmem
    · obtain rfl := List.mem_singleton.mp hmem
      simp

/-- A submission: the queue and the transition stay, and one frame may join the pending frames. -/
inductive Submits (s : FrameScheduler F) : FrameScheduler F → Prop
  | rejected : Submits s s
  | accepted (points : List (LaserPoint F)) (time : TimePoint) (hne : points ≠ []) :
      Submits s (s.acceptFrame { points := points, time := time })

theorem Submits.wf {s s' : FrameScheduler F} (hs : Wf s) (h : Submits s s') : Wf s' := by
  cases h with
  | rejected => exact hs
  | accepted points time hne => exact hs.acceptFrame ⟨hne, rfl, rfl⟩

/-- The frame is left, or it has points and is accepted. -/
def MayAccept (frame : Frame F) (s s' : FrameScheduler F) : Prop :=
  s' = s ∨ frame.points ≠ [] ∧ s' = s.acceptFrame frame

theorem mayAccept_enqueueFrame (frame : Frame F) (s : FrameScheduler F) :
    MayAccept frame s (s.enqueueFrame frame).1 := by
  unfold enqueueFrame
  split
  · exact Or.inl rfl
  · rename_i hne
    exact Or.inr ⟨by simpa using hne, rfl⟩

theorem mayAccept_tryEnqueueFrameIfReady (frame : Frame F) (budget floor : ℕ) (lockFree : Bool)
    (s : FrameScheduler F) :
    MayAccept frame s (s.tryEnqueueFrameIfReady frame budget floor lockFree).1 := by
  unfold tryEnqueueFrameIfReady
  split
  · exact Or.inl rfl
  · rename_i hne
    split
    · exact Or.inl rfl
    · split
      · exact Or.inl rfl
      · exact Or.inr ⟨by simpa using hne, rfl⟩

theorem MayAccept.submits {points : List (LaserPoint F)} {time : TimePoint}
    {s s' : FrameScheduler F} (h : MayAccept { points := points, time := time } s s') :
    Submits s s' := by
  rcases h with rfl | ⟨hne, rfl⟩
  · exact Submits.rejected
  · exact Submits.accepted points time hne

theorem MayAccept.mem_submitted {frame : Frame F} {s s' : FrameScheduler F}
    (h : MayAccept frame s s') :
    ∀ submission ∈ s'.submitted, submission ∈ s.submitted ∨ submission = frame := by
  intro submission hsubmission
  rcases h with rfl | ⟨-, rfl⟩
  · exact Or.inl hsubmission
  · exact (List.mem_append.mp hsubmission).imp_right List.mem_singleton.mp

theorem wf_reset (s : FrameScheduler F) : Wf s.reset where
  front := by simp [FrameScheduler.reset]
  fresh := by simp [FrameScheduler.reset]
  bridge := by simp [FrameScheduler.reset]
  order := by simp [FrameScheduler.reset]
  recorded := by simp [FrameScheduler.reset]

/-! ## The start of a fill call keeps the invariant -/

theorem Wf.drainPendingFrames {s : FrameScheduler F} (h : Wf s) :
    Wf s.drainPendingFramesUnsafe where
  front := by
    intro f rest hq
    cases hs : s.frameQueue with
    | nil =>
      rw [drainPendingFramesUnsafe, hs, List.nil_append] at hq
      have hp : s.pendingFrames = f :: rest := hq
      exact (h.fresh f (by simp [hp])).ok
    | cons g gs =>
      rw [drainPendingFramesUnsafe, hs, List.cons_append, List.cons.injEq] at hq
      exact hq.1 ▸ h.front g gs hs
  fresh := by
    intro f hmem
    simp only [drainPendingFramesUnsafe, List.append_nil] at hmem
    apply h.fresh
    cases hs : s.frameQueue with
    | nil =>
      rw [hs, List.nil_append] at hmem
      exact List.mem_append_right _ (List.mem_of_mem_tail hmem)
    | cons g gs => simpa [hs] using hmem
  bridge := by
    intro hT
    obtain ⟨f, rest, hq, hc⟩ := h.bridge hT
    exact ⟨f, rest ++ s.pendingFrames, by simp [drainPendingFramesUnsafe, hq], hc⟩
  order := by simpa [drainPendingFramesUnsafe] using h.order
  recorded := by simpa [drainPendingFramesUnsafe] using h.recorded

/-! ## Changes at the front of the queue -/

section Front

variable {s : FrameScheduler F} {f : QueuedFrame F} {rest : List (QueuedFrame F)}

/-- The front frame may be replaced by a state of the same frame. -/
theorem Wf.replaceFront (h : Wf s) (hq : s.frameQueue = f :: rest) {f' : QueuedFrame F}
    {T : List (LaserPoint F)} (hok : FrameOk f') (hpoints : f'.points = f.points)
    (hserial : f'.serial = f.serial) (hT : T ≠ [] → f'.nextPoint = 0) :
    Wf { s with frameQueue := f' :: rest, pendingTransitionPoints := T } where
  front := by
    intro g gs hg
    obtain ⟨rfl, -⟩ := List.cons.inj hg
    exact hok
  fresh := by
    intro g hg
    exact h.fresh g (by simpa [hq] using hg)
  bridge := fun hne => ⟨f', rest, rfl, hT hne⟩
  order := by
    have := h.order
    simp only [hq, List.cons_append, List.map_cons] at this ⊢
    rwa [hserial]
  recorded := by
    intro g hg
    rcases List.mem_cons.mp hg with rfl | hg
    · rw [hserial, hpoints]
      exact h.recorded f (by simp [hq])
    · exact h.recorded g (by rw [hq]; exact List.mem_cons_of_mem _ hg)

/-- The front frame may be dropped. -/
theorem Wf.dropFront (h : Wf s) (hq : s.frameQueue = f :: rest) {T : List (LaserPoint F)}
    (hT : T ≠ [] → rest ≠ []) :
    Wf { s with frameQueue := rest, pendingTransitionPoints := T } where
  front := by
    intro g gs hg
    have hg : rest = g :: gs := hg
    exact (h.fresh g (by simp [hq, hg])).ok
  fresh := by
    intro g hg
    refine h.fresh g ?_
    simp only [hq, List.tail_cons]
    rcases List.mem_append.mp hg with hg | hg
    · exact List.mem_append_left _ (List.mem_of_mem_tail hg)
    · exact List.mem_append_right _ hg
  bridge := by
    intro hne
    obtain ⟨g, gs, rfl⟩ := List.exists_cons_of_ne_nil (hT hne)
    exact ⟨g, gs, rfl, (h.fresh g (by simp [hq])).cursor_eq⟩
  order := by
    have := h.order
    simp only [hq, List.cons_append, List.map_cons] at this
    exact this.of_cons
  recorded := by
    intro g hg
    exact h.recorded g (by rw [hq]; exact List.mem_cons_of_mem _ hg)

/-- Frames may be dropped from the front while one is left. -/
theorem Wf.dropFrames (h : Wf s) {dropped : List (QueuedFrame F)} {g : QueuedFrame F}
    (hq : s.frameQueue = dropped ++ g :: rest) : Wf { s with frameQueue := g :: rest } := by
  induction dropped generalizing s with
  | nil =>
    rw [List.nil_append] at hq
    rw [← hq]
    exact h
  | cons d ds ih =>
    set s₁ := { s with frameQueue := ds ++ g :: rest } with hs₁
    have hdrop : Wf s₁ := h.dropFront hq fun _ => by simp
    exact ih (s := s₁) hdrop rfl

theorem Wf.setTransition (h : Wf s) {T : List (LaserPoint F)}
    (hT : T ≠ [] → s.pendingTransitionPoints ≠ []) :
    Wf { s with pendingTransitionPoints := T } where
  front := h.front
  fresh := h.fresh
  bridge := fun hne => h.bridge (hT hne)
  order := h.order
  recorded := h.recorded

/-- The record of skipped frames plays no part. -/
theorem Wf.setSkipped (h : Wf s) (skipped : List ℕ) : Wf { s with skipped := skipped } where
  front := h.front
  fresh := h.fresh
  bridge := h.bridge
  order := h.order
  recorded := h.recorded

/-- A frame at its end has been played. -/
theorem FrameOk.playCount_pos (h : FrameOk f) (hend : f.points.length ≤ f.nextPoint) :
    0 < f.playCount := by
  have hpos := List.length_pos_iff.mpr h.points_ne
  rcases Nat.eq_zero_or_pos f.playCount with h0 | h0
  · have := h.cursor_eq h0
    omega
  · exact h0

end Front

/-- The points of a chunk are content of the frame. -/
theorem stamp_of_mem_chunk {f : QueuedFrame F} {k : ℕ} {p : Emitted F} (hp : p ∈ f.chunk k) :
    ∃ index, p.stamp = .content f.serial index := by
  obtain ⟨j, hj⟩ := List.mem_iff_getElem?.mp hp
  simp only [QueuedFrame.chunk, List.getElem?_mapIdx, Option.map_eq_some_iff] at hj
  obtain ⟨q, -, rfl⟩ := hj
  exact ⟨_, rfl⟩

theorem length_chunk (f : QueuedFrame F) (k : ℕ) (hk : f.nextPoint + k ≤ f.points.length) :
    (f.chunk k).length = k := by
  simp only [QueuedFrame.chunk, List.length_mapIdx, List.length_take, List.length_drop]
  omega

/-- Skipping drops some frames of the front that were never played. -/
theorem skipStaleFrames_spec (t : TimePoint) (q : List (QueuedFrame F)) :
    ∃ dropped, q = dropped ++ skipStaleFrames t q ∧
      staleSerials t q = dropped.map (·.serial) ∧ ∀ f ∈ dropped, f.playCount = 0 := by
  fun_induction skipStaleFrames t q with
  | case1 => exact ⟨[], rfl, rfl, by simp⟩
  | case2 f => exact ⟨[], rfl, rfl, by simp⟩
  | case3 f g rest hplay => exact ⟨[], rfl, by simp only [staleSerials, if_pos hplay]; rfl, by simp⟩
  | case4 f g rest hplay hdue =>
    exact ⟨[], rfl, by simp only [staleSerials, if_neg hplay, if_pos hdue]; rfl, by simp⟩
  | case5 f g rest hplay hdue ih =>
    obtain ⟨dropped, hq, hserials, hfresh⟩ := ih
    refine ⟨f :: dropped, by rw [List.cons_append, ← hq], ?_, ?_⟩
    · simp only [staleSerials, if_neg hplay, if_neg hdue, hserials, List.map_cons]
    · intro d hd
      rcases List.mem_cons.mp hd with rfl | hd
      · simpa using hplay
      · exact hfresh d hd

theorem skipStaleFrames_ne_nil (t : TimePoint) {q : List (QueuedFrame F)} (hq : q ≠ []) :
    skipStaleFrames t q ≠ [] := by
  fun_induction skipStaleFrames t q <;> simp_all

end LiberaLaser.FrameScheduler
