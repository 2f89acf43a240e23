import LiberaLaser.Core.Scheduler.FirstContent
import LiberaLaser.Core.Transport.BufferEstimator
import Mathlib.Algebra.Order.Field.Rat
import Mathlib.Tactic.GCongr
import Mathlib.Tactic.Positivity

/-!
# Scheduled frames start on time

Between the call in which a frame came to the front of the queue and the one that plays it, the
estimated render times may move either way, and transition points may come. As every call starts
frames on time by its own estimate, so does every run (`frames_never_start_early`).
-/

namespace LiberaLaser.FrameScheduler

open FloatArith BufferEstimator

variable {F : Type} {s s' : FrameScheduler F} {tr o out : List (Emitted F)}

/-! ## Whole runs -/

/-- A call and the points it handed out. -/
structure Report (F : Type) where
  call : Call F
  points : List (Emitted F)

/-- A frame that was scheduled for `time` may start at output index `k` of the call. -/
def Call.OnTime (D : Type) [FloatArith D] (k : ℕ) (time : TimePoint) : Call F → Prop
  | .fillPoints request pointRateValue _ clock =>
    time = 0 ∨ time ≤ (estimatedRenderTime request.estimatedFirstPointRenderTime clock).1 +
      bufferedDuration D k pointRateValue
  | .fillFrame request _ clock => request.advanceWhenAvailable = false →
    time = 0 ∨ time ≤ (estimatedRenderTime request.estimatedFirstPointRenderTime clock).1
  | _ => True

/-- Every first content point of the reports is on time by the frames submitted. -/
def AllOnTime (D : Type) [FloatArith D] (submitted : List (Frame F)) (trace : List (Report F)) :
    Prop :=
  ∀ before report after, trace = before ++ report :: after →
    ∀ k p serial, report.points[k]? = some p → p.stamp.serial = some serial →
      ¬ Heard serial (before.flatMap Report.points ++ report.points.take k) →
        ∃ frame, submitted[serial]? = some frame ∧ report.call.OnTime D k frame.time

/-- More points play for longer. Rounded and exact arithmetic agree in this. -/
structure MonotoneDurations (D : Type) [FloatArith D] : Prop where
  nonneg : ∀ k rate, 0 ≤ bufferedDuration D k rate
  mono : ∀ {j k} rate, j ≤ k → bufferedDuration D j rate ≤ bufferedDuration D k rate

/-- Unplayed frames still have the time they were submitted with. -/
def Timed (s : FrameScheduler F) : Prop :=
  ∀ f ∈ s.frameQueue ++ s.pendingFrames, f.playCount = 0 →
    (s.submitted[f.serial]?).map Frame.time = some f.time

variable {D : Type} [FloatArith D]

theorem time_of_due {f : QueuedFrame F} {t : TimePoint} (h : frameIsDueAt f t = true) :
    f.time = 0 ∨ f.time ≤ t := by
  simpa [frameIsDueAt] using h

theorem DueBy.time (hD : MonotoneDurations D) {f : QueuedFrame F} {t : TimePoint}
    {pointRateValue k : ℕ} (h : DueBy D t pointRateValue k f) :
    f.time = 0 ∨ f.time ≤ t + bufferedDuration D k pointRateValue := by
  rcases h with h | ⟨j, hj, h⟩
  · exact (time_of_due h).imp_right fun hle =>
      hle.trans (le_add_of_nonneg_right (hD.nonneg k pointRateValue))
  · exact (time_of_due h).imp_right fun hle =>
      hle.trans (Int.add_le_add_left (hD.mono pointRateValue hj) t)

/-- What holds of a run after its reports. -/
structure OnTimeInv (D : Type) [FloatArith D] (trace : List (Report F)) (s : FrameScheduler F) :
    Prop where
  wf : Wf s
  timed : Timed s
  tracked : Tracked s (trace.flatMap Report.points) s
  onTime : AllOnTime D s.submitted trace

theorem OnTimeInv.init : OnTimeInv D [] ({} : FrameScheduler F) where
  wf := wf_init
  timed := by simp [Timed]
  tracked := ⟨by simp, by simp⟩
  onTime := by
    intro before report after hsplit
    simp at hsplit

variable [FloatArith F]

/-- The system with its calls in view. -/
def reportStep (D : Type) [FloatArith D] (s : FrameScheduler F) (call : Call F) :
    Option (FrameScheduler F × List (Report F)) :=
  (step D s call).map fun r => (r.1, [⟨call, r.2⟩])

/-- The content of a call is that of frames submitted before it. -/
theorem Moves.serial_lt {A : Licence F} (hs : Wf s) (hm : Moves A s o s') :
    ∀ p ∈ o, ∀ serial, p.stamp.serial = some serial → serial < s.submitted.length := by
  have hall : Wf s' ∧ s'.submitted = s.submitted ∧
      ∀ p ∈ o, ∀ serial, p.stamp.serial = some serial → serial < s.submitted.length := by
    refine Moves.invariant (I := fun o' s' => Wf s' ∧ s'.submitted = s.submitted ∧
      ∀ p ∈ o', ∀ serial, p.stamp.serial = some serial → serial < s.submitted.length) []
      ?_ ⟨hs, rfl, by simp⟩ hm
    rintro sofar t o t' ⟨ht, hsub, hold⟩ hmove
    refine ⟨hmove.wf ht, by rw [← hsub]; cases hmove <;> rfl, ?_⟩
    intro p hp serial hserial
    rcases List.mem_append.mp (show p ∈ sofar ++ o from hp) with hp | hp
    · exact hold p hp serial hserial
    · cases hmove with
      | play hq =>
        obtain rfl := Option.some.inj ((mem_chunk hp).1.symm.trans hserial)
        exact hsub ▸ ht.serial_lt (by simp [hq])
      | transition k =>
        rw [contentless_transitions _ p hp] at hserial
        cases hserial
      | blank | expire | discard =>
        rw [contentless_blanks _ p hp] at hserial
        cases hserial
      | drain | skip | advance | restart => cases hp
  exact hall.2.2

/-- **The first content points of a call** are on time. -/
theorem onTime_of_step (hD : MonotoneDurations D) {call : Call F} (hs : Wf s) (htimed : Timed s)
    (htracked : Tracked s tr s) (h : step D s call = some (s', out)) {k serial : ℕ} {p : Emitted F}
    (hp : out[k]? = some p) (hserial : p.stamp.serial = some serial)
    (hfirst : ¬ Heard serial (tr ++ out.take k)) :
    ∃ frame, s.submitted[serial]? = some frame ∧ call.OnTime D k frame.time := by
  have hframe : ∀ f ∈ s.frameQueue ++ s.pendingFrames, f.serial = serial →
      ∃ frame, s.submitted[serial]? = some frame ∧ frame.time = f.time := by
    rintro f hf rfl
    have hplay : f.playCount = 0 := by
      by_contra hplay
      exact hfirst ((htracked.heard f hf hplay).append _)
    exact Option.map_eq_some_iff.mp (htimed f hf hplay)
  cases call with
  | enqueueFrame points time =>
    simp only [step, Option.some.injEq, Prod.mk.injEq] at h
    rw [← h.2] at hp
    cases hp
  | tryEnqueueFrameIfReady points time budget floor lockFree =>
    simp only [step, Option.some.injEq, Prod.mk.injEq] at h
    rw [← h.2] at hp
    cases hp
  | fillPoints request rate hold clock =>
    obtain ⟨f, hf, rfl, hdue⟩ := fillPoints_firstsDue hs htracked h k p serial hp hserial hfirst
    obtain ⟨frame, hget, htime⟩ := hframe f hf rfl
    exact ⟨frame, hget, by rw [htime]; exact hdue.time hD⟩
  | fillFrame request hold clock =>
    simp only [step] at h
    split at h
    · cases h
    · rename_i s₁ frame hfill
      simp only [Option.some.injEq, Prod.mk.injEq] at h
      obtain ⟨-, rfl⟩ := h
      by_cases hadvance : request.advanceWhenAvailable = false
      · obtain ⟨f, hf, rfl, hdue⟩ :=
          fillFrame_firstsDue hs htracked hadvance hfill k p serial hp hserial hfirst
        obtain ⟨frame, hget, htime⟩ := hframe f hf rfl
        exact ⟨frame, hget, fun _ => by rw [htime]; exact time_of_due hdue⟩
      · obtain ⟨s₂, frame₂, hfill₂, hmoves, -⟩ := fillFrame_spec (A := .all) request hold clock hs
          (fun _ _ _ => trivial) (fun _ => trivial)
        obtain ⟨rfl, rfl⟩ := Prod.mk.inj (Option.some.inj (hfill.symm.trans hfill₂))
        have hlt := hmoves.serial_lt hs p (List.mem_of_getElem? hp) serial hserial
        exact ⟨_, List.getElem?_eq_getElem hlt, fun h => absurd h hadvance⟩
  | reset =>
    simp only [step, Option.some.injEq, Prod.mk.injEq] at h
    rw [← h.2] at hp
    cases hp

/-- A call keeps the times of the frames, and hears the frames it plays. -/
theorem tracked_of_step {call : Call F} (hs : Wf s) (htimed : Timed s) (htracked : Tracked s tr s)
    (h : step D s call = some (s', out)) : Timed s' ∧ Tracked s' (tr ++ out) s' := by
  rcases step_cases (A := .all) hs (fun _ _ _ => trivial) (fun _ => trivial) h with
    ⟨hsub, rfl⟩ | hmoves | ⟨-, rfl, rfl⟩
  · rw [List.append_nil]
    cases hsub with
    | rejected => exact ⟨htimed, htracked⟩
    | accepted points time hne =>
      have hmem : ∀ f ∈ s.frameQueue ++ (s.pendingFrames ++
          [{ points := points, time := time, serial := s.submitted.length }]),
          f ∈ s.frameQueue ++ s.pendingFrames ∨
            f = { points := points, time := time, serial := s.submitted.length } := by
        intro f hf
        rw [← List.append_assoc] at hf
        exact (List.mem_append.mp hf).imp_right List.mem_singleton.mp
      refine ⟨fun f hf hplay => ?_, fun f hf _ => hf, fun f hf hplay => ?_⟩
      · rcases hmem f hf with hf | rfl
        · rw [acceptFrame, List.getElem?_append_left (hs.serial_lt hf)]
          exact htimed f hf hplay
        · simp [acceptFrame]
      · rcases hmem f hf with hf | rfl
        · exact htracked.heard f hf hplay
        · exact absurd rfl hplay
  · have hafter := htracked.moves hs hmoves
    refine ⟨fun f hf hplay => ?_, fun f hf _ => hf, hafter.heard⟩
    rw [hmoves.submitted_eq]
    exact htimed f (hafter.kept f hf hplay) hplay
  · exact ⟨by simp [Timed, FrameScheduler.reset], by simp [FrameScheduler.reset],
      by simp [FrameScheduler.reset]⟩

theorem OnTimeInv.step (hD : MonotoneDurations D) {trace o : List (Report F)} {call : Call F}
    (h : OnTimeInv D trace s) (hstep : reportStep D s call = some (s', o)) :
    OnTimeInv D (trace ++ o) s' := by
  obtain ⟨⟨s₁, out⟩, hcall, hreport⟩ := Option.map_eq_some_iff.mp hstep
  obtain ⟨rfl, rfl⟩ := Prod.mk.inj hreport
  obtain ⟨htimed', htracked'⟩ := tracked_of_step h.wf h.timed h.tracked hcall
  obtain ⟨more, hmore⟩ := submitted_prefix_of_step h.wf hcall
  have hkeep : ∀ {serial : ℕ} {frame : Frame F}, s.submitted[serial]? = some frame →
      s₁.submitted[serial]? = some frame := by
    intro serial frame hget
    rw [← hmore, List.getElem?_append_left (List.getElem?_eq_some_iff.mp hget).1]
    exact hget
  refine ⟨step_wf h.wf hcall, htimed', by simpa using htracked', ?_⟩
  intro before report after hsplit k p serial hp hserial hfirst
  rcases Runs.concat_eq_append_cons hsplit with ⟨rfl, rfl, rfl⟩ | ⟨after', rfl, rfl⟩
  · obtain ⟨frame, hget, htime⟩ :=
      onTime_of_step hD h.wf h.timed h.tracked hcall hp hserial hfirst
    exact ⟨frame, hkeep hget, htime⟩
  · obtain ⟨frame, hget, htime⟩ := h.onTime before report after' rfl k p serial hp hserial hfirst
    exact ⟨frame, hkeep hget, htime⟩

/-- **Scheduled frames never start early**: in every run of calls, the first content point that a
frame ever emits is at an output index whose projected render time has reached the scheduled time,
whether the frame came to the front in this call or in an earlier one. -/
theorem frames_never_start_early (hD : MonotoneDurations D) {calls : List (Call F)}
    {trace : List (Report F)} (hrun : Runs.run (reportStep D) {} calls = some (s, trace)) :
    AllOnTime D s.submitted trace := by
  have hany : Runs.Along (reportStep D) (fun _ _ _ => True) [] {} calls :=
    Runs.Along.of_forall (fun _ _ => trivial) [] _
  have hinv : OnTimeInv D ([] ++ trace) s :=
    Runs.run_invariant (I := OnTimeInv D) (fun _ _ _ _ _ h _ hstep => h.step hD hstep) .init hany
      hrun
  exact hinv.onTime

/-! ## Exact durations -/

theorem bufferedDuration_rat (k rate : ℕ) :
    bufferedDuration ℚ k rate = ((k : ℚ) * 1000000000 / rate).floor := by
  have hnonneg : (0 : ℚ) ≤ (k : ℚ) * 1000 / rate := by positivity
  have hmillis : (pointsToMillis k rate * 1000000.0 : ℚ) = (k : ℚ) * 1000000000 / rate := by
    unfold pointsToMillis
    split
    · rename_i h
      rcases h with rfl | rfl <;> norm_num
    · have hmax :
          (FloatArith.max (ofNat k * 1000.0 / ofNat rate) 0.0 : ℚ) = (k : ℚ) * 1000 / rate := by
        norm_num [FloatArith.max, FloatArith.lt, FloatArith.ofNat, not_lt.mpr hnonneg]
      rw [hmax]
      norm_num
      ring
  rw [bufferedDuration, hmillis]
  exact trunc_of_nonneg (by positivity)

theorem monotoneDurations_rat : MonotoneDurations ℚ where
  nonneg k rate := by
    rw [bufferedDuration_rat]
    exact Rat.le_floor_iff.mpr (by push_cast; positivity)
  mono {j k} rate h := by
    rw [bufferedDuration_rat, bufferedDuration_rat]
    have hcast : (j : ℚ) ≤ k := by exact_mod_cast h
    refine Rat.floor_monotone ?_
    gcongr

/-- The second frame is due a millisecond after the request, at thirty points of the first one. -/
theorem second_frame_on_time : ∃ (s : FrameScheduler ℚ) (trace : List (Report ℚ)),
    Runs.run (reportStep ℚ) {}
      [.enqueueFrame (pointsAt 0 20) 0, .enqueueFrame (pointsAt 0 20) 1001000000,
        .fillPoints { minimumPointsRequired := 60, maximumPointsRequired := 60,
                      estimatedFirstPointRenderTime := 1000000000 } 30000 0 (fun _ => 0)] =
        some (s, trace) ∧ (trace.flatMap Report.points).length = 60 ∧
      AllOnTime ℚ s.submitted trace := by
  have hlength : ((Runs.run (reportStep ℚ) {}
      [.enqueueFrame (pointsAt 0 20) 0, .enqueueFrame (pointsAt 0 20) 1001000000,
        .fillPoints { minimumPointsRequired := 60, maximumPointsRequired := 60,
                      estimatedFirstPointRenderTime := 1000000000 } 30000 0 (fun _ => 0)]).map
        fun r => (r.2.flatMap Report.points).length) = some 60 := by decide +kernel
  obtain ⟨⟨s, trace⟩, hrun, hpoints⟩ := Option.map_eq_some_iff.mp hlength
  exact ⟨s, trace, hrun, hpoints, frames_never_start_early monotoneDurations_rat hrun⟩

end LiberaLaser.FrameScheduler
