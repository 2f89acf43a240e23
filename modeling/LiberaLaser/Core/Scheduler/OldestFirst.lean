import LiberaLaser.Core.Scheduler.Traversals

/-!
# The first content of a queue

From a moment on where the scheduler holds only frames submitted since some frame, what it emits
first is the start of the oldest of these that was not skipped as stale. Every move keeps this
(`OldestFirst.move`), and so does every submission.
-/

namespace LiberaLaser.FrameScheduler

variable {F : Type}

/-- The frames submitted from number `serial` on, none of which was played: each one is held, or it
was skipped as stale. -/
structure Waiting (serial : ℕ) (s : FrameScheduler F) : Prop where
  fresh : ∀ f ∈ s.frameQueue ++ s.pendingFrames, Fresh f
  since : ∀ f ∈ s.frameQueue ++ s.pendingFrames, serial ≤ f.serial
  held : ∀ m, serial ≤ m → m < s.submitted.length →
    m ∈ s.skipped ∨ m ∈ (s.frameQueue ++ s.pendingFrames).map (·.serial)

/-- Every frame from `serial` on before the frame `n` was skipped as stale. -/
def SkippedUpTo (serial n : ℕ) (s : FrameScheduler F) : Prop :=
  serial ≤ n ∧ ∀ m, serial ≤ m → m < n → m ∈ s.skipped

/-- The content among the points `o` starts with the oldest frame submitted from `serial` on that
was not skipped. -/
def OldestFirst (serial : ℕ) (o : List (Emitted F)) (s : FrameScheduler F) : Prop :=
  match (contents o).head? with
  | none => Waiting serial s
  | some p => ∃ n, p.stamp = .content n 0 ∧ SkippedUpTo serial n s

theorem SkippedUpTo.mono {serial n : ℕ} {s s' : FrameScheduler F} (h : SkippedUpTo serial n s)
    (hskipped : ∀ m ∈ s.skipped, m ∈ s'.skipped) : SkippedUpTo serial n s' :=
  ⟨h.1, fun m hm hlt => hskipped m (h.2 m hm hlt)⟩

/-- Before any content the frames wait. -/
theorem oldestFirst_of_waiting {serial : ℕ} {o : List (Emitted F)} {s : FrameScheduler F}
    (ho : contents o = []) (h : Waiting serial s) : OldestFirst serial o s := by
  rw [OldestFirst, ho]
  exact h

theorem OldestFirst.waiting {serial : ℕ} {o : List (Emitted F)} {s : FrameScheduler F}
    (ho : contents o = []) (h : OldestFirst serial o s) : Waiting serial s := by
  rw [OldestFirst, ho] at h
  exact h

/-- Once there is content, more output changes nothing. -/
theorem OldestFirst.append {serial : ℕ} {o : List (Emitted F)} {s s' : FrameScheduler F}
    (h : OldestFirst serial o s) (o' : List (Emitted F)) (ho : contents o ≠ [])
    (hskipped : ∀ m ∈ s.skipped, m ∈ s'.skipped) : OldestFirst serial (o ++ o') s' := by
  obtain ⟨p, ps, hp⟩ := List.exists_cons_of_ne_nil ho
  rw [OldestFirst, hp] at h
  rw [OldestFirst, contents_append, hp]
  obtain ⟨n, hstamp, hbefore⟩ := h
  exact ⟨n, hstamp, hbefore.mono hskipped⟩

/-! ## Submissions -/

theorem Waiting.acceptFrame {serial : ℕ} {s : FrameScheduler F} (h : Waiting serial s)
    (hserial : serial ≤ s.submitted.length) {frame : Frame F} (hf : Submittable frame) :
    Waiting serial (s.acceptFrame frame) where
  fresh := by
    intro f hmem
    simp only [FrameScheduler.acceptFrame, ← List.append_assoc] at hmem
    rcases List.mem_append.mp hmem with hmem | hmem
    · exact h.fresh f hmem
    · obtain rfl := List.mem_singleton.mp hmem
      exact ⟨hf.points_ne, hf.cursor_eq, hf.playCount_eq⟩
  since := by
    intro f hmem
    simp only [FrameScheduler.acceptFrame, ← List.append_assoc] at hmem
    rcases List.mem_append.mp hmem with hmem | hmem
    · exact h.since f hmem
    · obtain rfl := List.mem_singleton.mp hmem
      exact hserial
  held := by
    intro m hm hlt
    simp only [FrameScheduler.acceptFrame, ← List.append_assoc, List.map_append,
      List.length_append, List.length_singleton] at hlt ⊢
    rcases Nat.lt_succ_iff_lt_or_eq.mp hlt with hlt | rfl
    · rcases h.held m hm hlt with hskip | hheld
      · exact Or.inl hskip
      · rw [List.map_append] at hheld
        exact Or.inr (List.mem_append_left _ hheld)
    · exact Or.inr (List.mem_append_right _ (by simp))

theorem OldestFirst.submits {serial : ℕ} {o : List (Emitted F)} {s s' : FrameScheduler F}
    (h : OldestFirst serial o s) (hserial : serial ≤ s.submitted.length) (hs : Submits s s') :
    OldestFirst serial o s' := by
  cases hs with
  | rejected => exact h
  | accepted points time hne =>
    by_cases ho : contents o = []
    · exact oldestFirst_of_waiting ho ((h.waiting ho).acceptFrame hserial ⟨hne, rfl, rfl⟩)
    · have hlater : OldestFirst serial (o ++ [])
          (s.acceptFrame { points := points, time := time }) := h.append [] ho fun m hm => hm
      rwa [List.append_nil] at hlater

/-! ## The front frame -/

/-- A fresh front frame is not finished. -/
theorem Waiting.unfinished {serial : ℕ} {s : FrameScheduler F} (h : Waiting serial s)
    {f : QueuedFrame F} {rest : List (QueuedFrame F)} (hq : s.frameQueue = f :: rest) :
    f.nextPoint ≠ f.points.length := by
  have hfresh := h.fresh f (by simp [hq])
  have hpos := List.length_pos_iff.mpr hfresh.points_ne
  rw [hfresh.cursor_eq]
  exact hpos.ne

/-- The front frame is the oldest one that was not skipped. -/
theorem Waiting.front {serial : ℕ} {s : FrameScheduler F} (h : Waiting serial s) (hs : Wf s)
    {f : QueuedFrame F} {rest : List (QueuedFrame F)} (hq : s.frameQueue = f :: rest) :
    SkippedUpTo serial f.serial s := by
  have hmem : f ∈ s.frameQueue ++ s.pendingFrames := by simp [hq]
  refine ⟨h.since f hmem, fun m hm hlt => ?_⟩
  rcases h.held m hm (hlt.trans (hs.serial_lt hmem)) with hskip | hheld
  · exact hskip
  · -- every frame held comes after the front one
    have horder := hs.order
    rw [hq, List.cons_append, List.map_cons] at horder hheld
    rcases List.mem_cons.mp hheld with rfl | hlater
    · omega
    · have := List.rel_of_pairwise_cons horder hlater
      omega

theorem contents_chunk_head {f : QueuedFrame F} {k : ℕ} (hcursor : f.nextPoint = 0)
    (hne : f.points ≠ []) (hk : 0 < k) :
    ∃ p ps, contents (f.chunk k) = p :: ps ∧ p.stamp = .content f.serial 0 := by
  obtain ⟨q, qs, hpoints⟩ := List.exists_cons_of_ne_nil hne
  obtain ⟨j, rfl⟩ := Nat.exists_eq_succ_of_ne_zero hk.ne'
  rw [contents_chunk, QueuedFrame.chunk, hcursor, hpoints, List.drop_zero, List.take_succ_cons,
    List.mapIdx_cons]
  exact ⟨_, _, rfl, rfl⟩

/-! ## An empty scheduler -/

/-- Nothing is held: no pending frame, no queued frame, and no transition points. -/
structure Empty (s : FrameScheduler F) : Prop where
  pending : s.pendingFrames = []
  queue : s.frameQueue = []
  transition : s.pendingTransitionPoints = []

theorem empty_init : Empty ({} : FrameScheduler F) := ⟨rfl, rfl, rfl⟩

theorem empty_reset (s : FrameScheduler F) : Empty s.reset := ⟨rfl, rfl, rfl⟩

theorem Empty.acceptFrame_waiting {s : FrameScheduler F} (h : Empty s) {frame : Frame F}
    (hf : Submittable frame) : Waiting s.submitted.length (s.acceptFrame frame) := by
  refine Waiting.acceptFrame ⟨?_, ?_, fun m hm hlt => ?_⟩ le_rfl hf
  · simp [h.pending, h.queue]
  · simp [h.pending, h.queue]
  · omega

theorem Empty.queuedPointCount {s : FrameScheduler F} (h : Empty s) (floor : ℕ) :
    s.queuedPointCountUnsafe floor = 0 := by
  simp [queuedPointCountUnsafe, h.pending, h.queue]

/-! ## Moves -/

variable [FloatArith F]

theorem Move.skipped_subset {A : Licence F} {s s' : FrameScheduler F} {sofar o : List (Emitted F)}
    (hm : Move A sofar s o s') : ∀ m ∈ s.skipped, m ∈ s'.skipped := by
  cases hm with
  | skip hA hsofar hq hplay => exact fun m hm => List.mem_append_left _ hm
  | _ => exact fun m hm => hm

/-- **Every move starts with the oldest frame** that was not skipped. -/
theorem OldestFirst.move {A : Licence F} {serial : ℕ} {tr sofar o : List (Emitted F)}
    {s s' : FrameScheduler F} (hs : Wf s) (h : OldestFirst serial tr s)
    (hm : Move A sofar s o s') : OldestFirst serial (tr ++ o) s' := by
  by_cases htr : contents tr = []
  swap
  · exact h.append o htr hm.skipped_subset
  have hwait := h.waiting htr
  have hquiet : ∀ o : List (Emitted F), contents o = [] → contents (tr ++ o) = [] :=
    fun o ho => by rw [contents_append, htr, ho, List.append_nil]
  cases hm with
  | drain =>
    refine oldestFirst_of_waiting (hquiet _ rfl) ⟨?_, ?_, ?_⟩
    · simpa [drainPendingFramesUnsafe] using hwait.fresh
    · simpa [drainPendingFramesUnsafe] using hwait.since
    · simpa [drainPendingFramesUnsafe] using hwait.held
  | transition k =>
    exact oldestFirst_of_waiting (hquiet _ (contents_transitions _))
      ⟨hwait.fresh, hwait.since, hwait.held⟩
  | @skip dropped g rest hA hsofar hq hplay =>
    have hkept : ∀ f ∈ g :: rest ++ s.pendingFrames, f ∈ s.frameQueue ++ s.pendingFrames := by
      intro f hf
      rw [hq, List.append_assoc]
      exact List.mem_append_right _ hf
    refine oldestFirst_of_waiting (hquiet _ rfl)
      ⟨fun f hf => hwait.fresh f (hkept f hf), fun f hf => hwait.since f (hkept f hf), ?_⟩
    intro m hm hlt
    show m ∈ s.skipped ++ dropped.map (·.serial) ∨ m ∈ (g :: rest ++ s.pendingFrames).map (·.serial)
    rcases hwait.held m hm hlt with hskip | hheld
    · exact Or.inl (List.mem_append_left _ hskip)
    · rw [hq, List.append_assoc, List.map_append] at hheld
      rcases List.mem_append.mp hheld with hdropped | hheld
      · exact Or.inl (List.mem_append_right _ hdropped)
      · exact Or.inr hheld
  | blank n hT => exact oldestFirst_of_waiting (hquiet _ (contents_blanks n)) hwait
  | @play f f' rest k hq hT hk hfirst hf' =>
    have hfresh := hwait.fresh f (by simp [hq])
    obtain ⟨p, ps, hchunk, hstamp⟩ :=
      contents_chunk_head hfresh.cursor_eq hfresh.points_ne (hfirst hfresh.playCount_eq)
    rw [OldestFirst, contents_append, htr, List.nil_append, hchunk]
    exact ⟨f.serial, hstamp, hwait.front hs hq⟩
  | advance hq hT hend hlast hfirst => exact absurd hend (hwait.unfinished hq)
  | restart hq hT hend hf' hbridge => exact absurd hend (hwait.unfinished hq)
  | expire n hn hq hT hend => exact absurd hend (hwait.unfinished hq)
  | discard n hn =>
    exact oldestFirst_of_waiting (hquiet _ (contents_blanks n))
      ⟨hwait.fresh, hwait.since, hwait.held⟩

/-- **A whole fill call starts with the oldest frame** that was not skipped. -/
theorem OldestFirst.moves {A : Licence F} {serial : ℕ} {tr o : List (Emitted F)}
    {s s' : FrameScheduler F} (hs : Wf s) (h : OldestFirst serial tr s) (hm : Moves A s o s') :
    OldestFirst serial (tr ++ o) s' := by
  refine (Moves.invariant (I := fun tr s => Wf s ∧ OldestFirst serial tr s) tr
    (fun sofar s o s' hI hmove => ⟨hmove.wf hI.1, ?_⟩) ⟨hs, h⟩ hm).2
  rw [← List.append_assoc]
  exact hI.2.move hI.1 hmove

/-- An empty scheduler stays empty. -/
theorem Empty.moves {A : Licence F} {s s' : FrameScheduler F} {o : List (Emitted F)}
    (h : Empty s) (hm : Moves A s o s') : Empty s' := by
  refine Moves.invariant (I := fun _ s => Empty s) [] ?_ h hm
  intro sofar s o s' hs hmove
  have hqueue := hs.queue
  cases hmove with
  | drain => exact ⟨rfl, by simp [drainPendingFramesUnsafe, hs.queue, hs.pending], hs.transition⟩
  | transition k => exact ⟨hs.pending, hs.queue, by simp [hs.transition]⟩
  | skip hA hsofar hq hplay => simp [hqueue] at hq
  | blank n hT => exact hs
  | play hq | advance hq | restart hq | expire _ _ hq => simp [hqueue] at hq
  | discard n hn => exact ⟨hs.pending, hs.queue, rfl⟩

end LiberaLaser.FrameScheduler
