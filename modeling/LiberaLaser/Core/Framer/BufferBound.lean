import LiberaLaser.Core.Framer.Conservation

/-!
# The backlog of the framer

A pull asks for what the search window lacks or for what the backlog across the transport and the
framer lacks, whichever is more. While the callbacks produce no more points than they are asked for,
the framer buffers no more than its target or two frames of the maximum size, again whichever is
more, and keeps one prepared frame between the calls (`backlog_bounded`).

The three counts that make up the backlog are added in a `size_t`. The transport's count comes from
an `int` and the others count points in memory, so the sum fits; here that is a condition on the
calls.
-/

namespace LiberaLaser

open Loop

variable {τ F : Type}

/-- The callback never produces more points than it is asked for. It may produce fewer. -/
def RequestPointsCallback.Frugal (callback : RequestPointsCallback τ F) : Prop :=
  ∀ invocation request,
    (callback.produce invocation request).length ≤ request.maximumPointsRequired

namespace PointStreamFramer

/-- The most points that the framer may buffer. -/
def backlogLimit (virtualBufferTarget maxFrameSize : ℕ) : ℕ :=
  max virtualBufferTarget (2 * maxFrameSize)

/-- The points buffered are within the limit, and so is every prepared frame within its own. -/
structure Bounded (V M : ℕ) (framer : PointStreamFramer τ F) : Prop where
  count : framer.preparedPointCount = (framer.preparedFrames.map List.length).sum
  frame_le : ∀ frame ∈ framer.preparedFrames, frame.length ≤ M
  buffered_le : framer.bufferedPointCount ≤ backlogLimit V M

/-- The framer during a call: its settings, and the bounds. -/
structure Working (V M : ℕ) (framer : PointStreamFramer τ F) : Prop extends Bounded V M framer where
  nominal_pos : 1 ≤ framer.nominalFrameSize
  nominal_le : framer.nominalFrameSize ≤ M
  max_eq : framer.maxFrameSize = M
  target_eq : framer.virtualBufferTarget = V
  fits : framer.transportBufferedPoints + backlogLimit V M < 2 ^ 64

/-- The framer between calls: at most one frame in reserve, and the bounds. -/
structure Resting (V M : ℕ) (framer : PointStreamFramer τ F) : Prop extends Bounded V M framer where
  reserve_le : framer.preparedFrames.length ≤ preparedFrameReserveCount

variable {V M : ℕ} {framer : PointStreamFramer τ F}

theorem Bounded.preparedPointCount_le (h : Bounded V M framer)
    (hlength : framer.preparedFrames.length ≤ 1) : framer.preparedPointCount ≤ M := by
  rw [h.count]
  cases hprepared : framer.preparedFrames with
  | nil => exact Nat.zero_le _
  | cons front rest =>
    rw [hprepared, List.length_cons] at hlength
    obtain rfl : rest = [] := List.length_eq_zero_iff.mp (by omega)
    simpa using h.frame_le front (by simp [hprepared])

/-- A call with the settings `N`, `M` and `V`, a callback that produces no more than it is asked
for, and a transport whose points and the limit fit into a `size_t` together. -/
structure Steady (N M V : ℕ) (call : FramingCall τ F) : Prop where
  nominalFrameSize_eq : call.nominalFrameSize = N
  maxFrameSize_eq : call.maxFrameSize = M
  virtualBufferTarget_eq : call.virtualBufferTarget = V
  frugal : ∀ callback ∈ call.callback, callback.Frugal
  fits : call.transportBufferedPoints + backlogLimit V (max M 1) < 2 ^ 64

/-- The setters turn a size of zero into one. -/
theorem Resting.configure {N : ℕ} (h : Resting V (max M 1) framer) {call : FramingCall τ F}
    (hcall : Steady N M V call) (hsizes : N ≤ M) :
    Working V (max M 1) (framer.configure call) where
  count := h.count
  frame_le := h.frame_le
  buffered_le := h.buffered_le
  nominal_pos := framer.one_le_configure call
  nominal_le := by
    show max call.nominalFrameSize 1 ≤ max M 1
    rw [hcall.nominalFrameSize_eq]
    omega
  max_eq := congrArg (Nat.max · 1) hcall.maxFrameSize_eq
  target_eq := hcall.virtualBufferTarget_eq
  fits := hcall.fits

/-- Cutting a frame leaves the prepared frames and the targets alone. -/
theorem cut_keeps (count consecutiveForceEmits : ℕ) (framer : PointStreamFramer τ F) :
    (framer.cut count consecutiveForceEmits).1.preparedFrames = framer.preparedFrames ∧
      (framer.cut count consecutiveForceEmits).1.virtualBufferTarget =
        framer.virtualBufferTarget ∧
      (framer.cut count consecutiveForceEmits).1.transportBufferedPoints =
        framer.transportBufferedPoints := by
  unfold cut reanchor
  split <;> exact ⟨rfl, rfl, rfl⟩

variable [FloatArith F]

theorem extractOneFrame_keeps {framer' : PointStreamFramer τ F}
    {frame : Option (List (Stamped τ F))} (h : framer.extractOneFrame = some (framer', frame)) :
    framer'.preparedFrames = framer.preparedFrames ∧
      framer'.virtualBufferTarget = framer.virtualBufferTarget ∧
      framer'.transportBufferedPoints = framer.transportBufferedPoints := by
  unfold extractOneFrame at h
  split at h
  · cases h
    exact ⟨rfl, rfl, rfl⟩
  · dsimp only at h
    split at h
    · cases h
    · split at h <;>
      · simp only [Option.some.injEq, Prod.mk.injEq] at h
        rw [← h.1]
        refine (cut_keeps _ _ _).imp (·.trans ?_) (·.imp (·.trans ?_) (·.trans ?_)) <;>
          (split <;> rfl)

/-- A pull fills the accumulator and leaves the prepared frames and the settings alone. -/
theorem pullPoints_keeps (callback : RequestPointsCallback τ F)
    (templateRequest : PointFillRequest) (count : ℕ) (framer : PointStreamFramer τ F) :
    (framer.pullPoints callback templateRequest count).preparedFrames = framer.preparedFrames ∧
    (framer.pullPoints callback templateRequest count).preparedPointCount =
      framer.preparedPointCount ∧
    (framer.pullPoints callback templateRequest count).nominalFrameSize =
      framer.nominalFrameSize ∧
    (framer.pullPoints callback templateRequest count).maxFrameSize = framer.maxFrameSize ∧
    (framer.pullPoints callback templateRequest count).virtualBufferTarget =
      framer.virtualBufferTarget ∧
    (framer.pullPoints callback templateRequest count).transportBufferedPoints =
      framer.transportBufferedPoints := by
  unfold pullPoints
  split <;> exact ⟨rfl, rfl, rfl, rfl, rfl, rfl⟩

theorem length_pullPoints_le {callback : RequestPointsCallback τ F} (hfrugal : callback.Frugal)
    (templateRequest : PointFillRequest) (count : ℕ) (framer : PointStreamFramer τ F) :
    (framer.pullPoints callback templateRequest count).accumulator.length ≤
      framer.accumulator.length + count := by
  unfold pullPoints
  split
  · exact Nat.le_add_right _ _
  · rw [List.length_append, List.length_map, length_sanitizeLaserPoints]
    exact Nat.add_le_add_left (hfrugal _ _) _

/-- **A pull stays within the limit** where at most one frame is prepared: the search window and one
prepared frame fill two frames, and the backlog that is lacking is lacking of the target. -/
theorem Working.pullCount_le (h : Working V M framer)
    (hlength : framer.preparedFrames.length ≤ 1) :
    framer.accumulator.length + framer.pullCount + framer.preparedPointCount ≤
      backlogLimit V M := by
  have hprepared := h.preparedPointCount_le hlength
  have hbuffered := h.buffered_le
  have hfits := h.fits
  rw [bufferedPointCount] at hbuffered
  have hlookahead : ∀ n, Nat.min n framer.maxFrameSize ≤ M :=
    fun n => (Nat.min_le_right _ _).trans h.max_eq.le
  obtain ⟨lookahead, hle, hcount⟩ : ∃ lookahead ≤ M,
      framer.pullCount = max (lookahead - framer.accumulator.length)
        (max V lookahead - (framer.transportBufferedPoints + framer.preparedPointCount +
          framer.accumulator.length) % 2 ^ 64) := by
    unfold pullCount
    rw [h.target_eq]
    split
    · exact ⟨_, hlookahead _, rfl⟩
    · exact ⟨_, hlookahead _, rfl⟩
  have hmod : (framer.transportBufferedPoints + framer.preparedPointCount +
      framer.accumulator.length) % 2 ^ 64 = framer.transportBufferedPoints +
        framer.preparedPointCount + framer.accumulator.length := Nat.mod_eq_of_lt (by omega)
  rw [hmod] at hcount
  rw [backlogLimit] at hbuffered hfits ⊢
  omega

/-- A pull keeps the bounds. -/
theorem Working.pullPoints (h : Working V M framer) {callback : RequestPointsCallback τ F}
    (hfrugal : callback.Frugal) (templateRequest : PointFillRequest)
    (hlength : framer.preparedFrames.length ≤ 1) :
    Working V M (framer.pullPoints callback templateRequest framer.pullCount) := by
  obtain ⟨hprepared, hcount, hnominal, hmax, htarget, htransport⟩ :=
    pullPoints_keeps callback templateRequest framer.pullCount framer
  refine ⟨⟨?_, ?_, ?_⟩, ?_, ?_, ?_, ?_, ?_⟩
  · rw [hcount, hprepared]
    exact h.count
  · rw [hprepared]
    exact h.frame_le
  · have hpull := length_pullPoints_le hfrugal templateRequest framer.pullCount framer
    have hroom := h.pullCount_le hlength
    rw [bufferedPointCount, hcount]
    omega
  · exact hnominal ▸ h.nominal_pos
  · exact hnominal ▸ h.nominal_le
  · exact hmax.trans h.max_eq
  · exact htarget.trans h.target_eq
  · exact htransport ▸ h.fits

/-- A frame that is cut and prepared stays in the framer. -/
theorem Working.prepare (h : Working V M framer) {framer' : PointStreamFramer τ F}
    {frame : List (Stamped τ F)} (hextract : framer.extractOneFrame = some (framer', some frame))
    (hcut : Cut framer framer' frame) :
    Working V M { framer' with
      preparedPointCount := framer'.preparedPointCount + frame.length
      preparedFrames := framer'.preparedFrames ++ [frame] } := by
  obtain ⟨-, htarget, htransport⟩ := extractOneFrame_keeps hextract
  have hframe : frame.length ≤ M := by
    have hle := hcut.length_le
    rw [h.max_eq] at hle
    exact hle.trans (Nat.max_le.mpr ⟨le_rfl, h.nominal_le⟩)
  refine ⟨⟨?_, ?_, ?_⟩, ?_, ?_, ?_, ?_, ?_⟩
  · show framer'.preparedPointCount + frame.length =
      ((framer'.preparedFrames ++ [frame]).map List.length).sum
    rw [hcut.preparedPointCount, hcut.preparedFrames, h.count]
    simp
  · intro f hf
    rcases List.mem_append.mp hf with hf | hf
    · exact h.frame_le f (hcut.preparedFrames ▸ hf)
    · exact List.mem_singleton.mp hf ▸ hframe
  · have hbuffered := h.buffered_le
    rw [bufferedPointCount, hcut.accumulator, List.length_append,
      ← hcut.preparedPointCount] at hbuffered
    show framer'.accumulator.length + (framer'.preparedPointCount + frame.length) ≤ _
    omega
  · exact hcut.nominalFrameSize ▸ h.nominal_pos
  · exact hcut.nominalFrameSize ▸ h.nominal_le
  · exact hcut.maxFrameSize.trans h.max_eq
  · exact htarget.trans h.target_eq
  · exact htransport ▸ h.fits

/-! ## A call keeps the bounds -/

/-- **A pass keeps the bounds**, and a second frame is the last that is prepared. -/
theorem Working.preparePass (h : Working V M framer) {callback : RequestPointsCallback τ F}
    (hfrugal : callback.Frugal) (templateRequest : PointFillRequest)
    (hlength : framer.preparedFrames.length ≤ 2) :
    PassSpec (preparePass callback templateRequest 2 framer)
      (fun framer' => (Working V M framer' ∧ framer'.preparedFrames.length ≤ 2) ∧
        2 - framer'.preparedFrames.length < 2 - framer.preparedFrames.length)
      (fun framer' => Working V M framer' ∧ framer'.preparedFrames.length ≤ 2) := by
  unfold PointStreamFramer.preparePass
  split
  · exact PassSpec.done _ rfl ⟨h, hlength⟩
  · rename_i hmore
    have hpulled := h.pullPoints hfrugal templateRequest (by omega)
    have hprepared := (pullPoints_keeps callback templateRequest framer.pullCount framer).1
    simp only
    split
    · exact PassSpec.done _ rfl ⟨hpulled, hprepared ▸ hlength⟩
    · rename_i hne
      obtain ⟨cut, frame, hextract, hcut⟩ :=
        extractOneFrame_spec hpulled.nominal_pos (by simpa using hne)
      have hframes : (cut.preparedFrames ++ [frame]).length = framer.preparedFrames.length + 1 := by
        rw [hcut.preparedFrames, hprepared, List.length_append, List.length_singleton]
      simp only [hextract]
      refine PassSpec.again _ rfl ⟨⟨hpulled.prepare hextract hcut, ?_⟩, ?_⟩
      · show (cut.preparedFrames ++ [frame]).length ≤ 2
        omega
      · show 2 - (cut.preparedFrames ++ [frame]).length < _
        omega

theorem Working.ensurePreparedFrames (h : Working V M framer)
    {callback : RequestPointsCallback τ F} (hfrugal : callback.Frugal)
    (templateRequest : PointFillRequest) (hlength : framer.preparedFrames.length ≤ 2) :
    ∃ ready, framer.ensurePreparedFrames callback templateRequest
        (1 + preparedFrameReserveCount) = some ready ∧
      Working V M ready ∧ ready.preparedFrames.length ≤ 2 :=
  run_total (I := fun g => Working V M g ∧ g.preparedFrames.length ≤ 2)
    (fun g => 2 - g.preparedFrames.length)
    (fun _ hg => hg.1.preparePass hfrugal templateRequest hg.2) ⟨h, hlength⟩
    (by show _ < 2 + 1; omega)

/-- **A call** leaves the bounds and one frame in reserve. -/
theorem Working.extractFrame (h : Working V M framer)
    {callback : Option (RequestPointsCallback τ F)}
    (hfrugal : ∀ callback' ∈ callback, callback'.Frugal) (templateRequest : PointFillRequest)
    (hlength : framer.preparedFrames.length ≤ preparedFrameReserveCount)
    {framer' : PointStreamFramer τ F} {frame : Option (List (Stamped τ F))}
    (hextract : framer.extractFrame callback templateRequest = some (framer', frame)) :
    Resting V M framer' := by
  cases callback with
  | none =>
    cases hextract
    exact ⟨h.toBounded, hlength⟩
  | some callback =>
    have hlength' : framer.preparedFrames.length ≤ 2 := hlength.trans (by decide)
    obtain ⟨ready, hensure, hready, hreadyLength⟩ :=
      h.ensurePreparedFrames (hfrugal callback rfl) templateRequest hlength'
    simp only [PointStreamFramer.extractFrame, hensure] at hextract
    cases hprepared : ready.preparedFrames with
    | nil =>
      rw [hprepared] at hextract
      cases hextract
      exact ⟨hready.toBounded, by simp [hprepared]⟩
    | cons front rest =>
      rw [hprepared] at hextract
      cases hextract
      have hcount : ready.preparedPointCount = front.length + (rest.map List.length).sum := by
        rw [hready.count, hprepared, List.map_cons, List.sum_cons]
      refine ⟨⟨?_, ?_, ?_⟩, ?_⟩
      · show ready.preparedPointCount - front.length = (rest.map List.length).sum
        omega
      · exact fun f hf => hready.frame_le f (hprepared ▸ List.mem_cons_of_mem _ hf)
      · have hbuffered := hready.buffered_le
        rw [bufferedPointCount] at hbuffered
        show ready.accumulator.length + (ready.preparedPointCount - front.length) ≤ _
        omega
      · rw [hprepared, List.length_cons] at hreadyLength
        exact Nat.le_of_succ_le_succ hreadyLength

/-! ## Runs -/

theorem resting_new (V M : ℕ) : Resting V M (new : PointStreamFramer τ F) where
  count := rfl
  frame_le := fun _ hframe => absurd hframe List.not_mem_nil
  buffered_le := Nat.zero_le _
  reserve_le := Nat.zero_le _

/-- **The backlog is bounded**: with fixed settings, whatever the transport holds and however few
points the callbacks produce, the framer buffers at most its target or two frames of the maximum
size, and holds at most two prepared frames. Only counts of the transport are left out that wrap
around when they are added to the buffered points; its caller passes an `int`. -/
theorem backlog_bounded {N M V : ℕ} (hsizes : N ≤ M) (calls : List (FramingCall τ F))
    (hsteady : ∀ call ∈ calls, Steady N M V call) :
    ∃ framer frames, Runs.run step new calls = some (framer, frames) ∧
      framer.bufferedPointCount ≤ max V (2 * max M 1) ∧ framer.preparedFrames.length ≤ 2 := by
  obtain ⟨framer, frames, hrun, -⟩ := conserved_new.run (τ := τ) (F := F) calls
  have hresting : Resting V (max M 1) framer := by
    refine Runs.run_invariant (I := fun _ framer => Resting V (max M 1) framer)
      (G := fun _ _ call => Steady N M V call) (fun _ g call _ _ hg hcall hstep => ?_)
      (resting_new V (max M 1)) (Runs.Along.of_forall hsteady [] _) hrun
    rw [step] at hstep
    cases hextract : (g.configure call).extractFrame call.callback call.templateRequest with
    | none => simp [hextract] at hstep
    | some r =>
      rw [hextract] at hstep
      cases hstep
      exact (hg.configure hcall hsizes).extractFrame hcall.frugal call.templateRequest
        hg.reserve_le hextract
  exact ⟨framer, frames, hrun, hresting.buffered_le, hresting.reserve_le.trans (by decide)⟩

/-- A callback that produces at most three points at a time. -/
def trickle : RequestPointsCallback Unit ℚ where
  id := ()
  produce _ request := List.replicate (min request.maximumPointsRequired 3) default

/-- A call for frames of two to four points, with a target of five points. -/
def trickleCall (transportBufferedPoints : ℕ) : FramingCall Unit ℚ where
  nominalFrameSize := 2
  maxFrameSize := 4
  virtualBufferTarget := 5
  transportBufferedPoints := transportBufferedPoints
  callback := some trickle
  templateRequest := {}

theorem backlog_bounded_trickle : ∃ framer frames,
    Runs.run step new [trickleCall 0, trickleCall 7] = some (framer, frames) ∧
      framer.bufferedPointCount ≤ max 5 (2 * max 4 1) ∧ framer.preparedFrames.length ≤ 2 := by
  have hfrugal : trickle.Frugal := fun _ request => by
    rw [trickle, List.length_replicate]
    exact Nat.min_le_left _ _
  have hsteady : ∀ transportBufferedPoints ≤ 7,
      Steady 2 4 5 (trickleCall transportBufferedPoints) := fun transportBufferedPoints hle =>
    ⟨rfl, rfl, rfl, by simpa [trickleCall] using hfrugal, by
      have hlimit : backlogLimit 5 (max 4 1) = 8 := by decide
      show transportBufferedPoints + backlogLimit 5 (max 4 1) < 2 ^ 64
      omega⟩
  exact backlog_bounded (show 2 ≤ 4 by decide) [trickleCall 0, trickleCall 7] (by
    simp only [List.mem_cons, List.not_mem_nil, or_false, forall_eq_or_imp, forall_eq]
    exact ⟨hsteady 0 (Nat.zero_le 7), hsteady 7 le_rfl⟩)

end PointStreamFramer

end LiberaLaser
