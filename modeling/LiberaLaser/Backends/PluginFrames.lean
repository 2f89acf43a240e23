import LiberaLaser.Core.Transport.FrameTransport

/-!
# Frame-ingester plugins

The worker of a plugin asks the controller when the next frame can play, adds the delay that the
plugin reports for its own buffers, and notes the frame with the sum. The note is where the next
projection starts from, so that the delay comes in once for every frame since the buffers last ran
dry (`delay_counted_once_iff`). The requests for points and the calls of the plugin are left out but
for what a pass reads from them.
-/

namespace LiberaLaser

open FloatArith FrameTransportEstimate SingleServer

/-- The state of the worker. -/
structure PluginController where
  frameTransportEstimate : FrameTransportEstimate := {}
  smoothedSendFrameMicros : ℤ := 0
  currentPointIndex : ℕ := 0
  deriving DecidableEq

/-- What a pass reads: the clock, the delay that the plugin reports in nanoseconds, the number of
points of the frame, how long it took to send, the clock again for the note, and the point rate. -/
structure PluginPass where
  now : TimePoint
  estimatedFirstPointRenderDelayNs : ℕ
  sentPointCount : ℕ
  measuredSendMicros : ℤ
  noteNow : TimePoint
  rate : ℕ

namespace PluginController

/-- The render time that the controller projects. -/
def projectedRender (pass : PluginPass) (c : PluginController) : TimePoint :=
  c.frameTransportEstimate.projectedNextWriteRenderTime pass.now (c.smoothedSendFrameMicros * 1000)

/-- The render time that the frame is requested for. -/
def estimatedFirstPointRenderTime (pass : PluginPass) (c : PluginController) : TimePoint :=
  if 0 < pass.estimatedFirstPointRenderDelayNs then
    c.projectedRender pass + pass.estimatedFirstPointRenderDelayNs
  else c.projectedRender pass

def smoothSendFrameMicros (smoothed measured : ℤ) : ℤ :=
  if smoothed = 0 then measured else (smoothed * 3 + measured).tdiv 4

/-- A pass whose frame is sent. An empty frame is not. -/
def sendFrame (D : Type) [FloatArith D] (pass : PluginPass) (c : PluginController) :
    PluginController :=
  if pass.sentPointCount = 0 then c
  else
    { frameTransportEstimate :=
        -- the note that bounds no carry-over
        c.frameTransportEstimate.noteFrameTransportSubmissionBounded D pass.sentPointCount
          (c.estimatedFirstPointRenderTime pass) pass.rate (2 ^ 64 - 1) pass.rate pass.noteNow
      smoothedSendFrameMicros :=
        smoothSendFrameMicros c.smoothedSendFrameMicros pass.measuredSendMicros
      currentPointIndex := c.currentPointIndex + pass.sentPointCount }

/-- The worker after a number of passes. -/
def after (D : Type) [FloatArith D] (c : PluginController) (passes : ℕ → PluginPass) :
    ℕ → PluginController
  | 0 => c
  | k + 1 => (after D c passes k).sendFrame D (passes k)

/-- The render time estimated for a frame. -/
def estimate (c : PluginController) (passes : ℕ → PluginPass) (k : ℕ) : TimePoint :=
  (c.after ℚ passes k).estimatedFirstPointRenderTime (passes k)

/-- A run at a constant point rate, with a constant lead and delay: every frame has points, and the
clock reads times after the epoch. -/
structure SteadyRun (passes : ℕ → PluginPass) (rate lead delay n : ℕ) : Prop where
  rate_pos : 0 < rate
  rate_lt : rate < 500000
  rate_eq : ∀ k < n, (passes k).rate = rate
  lead_eq : ∀ k < n, (passes k).measuredSendMicros = lead
  delay_eq : ∀ k < n, (passes k).estimatedFirstPointRenderDelayNs = delay
  points_pos : ∀ k < n, 0 < (passes k).sentPointCount
  now_pos : ∀ k < n, 0 < (passes k).now

/-- The worker before its first frame, once it knows the lead. -/
def fresh (lead : ℕ) : PluginController where
  smoothedSendFrameMicros := lead

variable {passes : ℕ → PluginPass} {rate lead delay n : ℕ}

theorem smoothSendFrameMicros_self (lead : ℕ) : smoothSendFrameMicros lead lead = lead := by
  unfold smoothSendFrameMicros
  split
  · rfl
  · rw [show (lead : ℤ) * 3 + lead = lead * 4 by ring]
    exact Int.mul_tdiv_cancel _ (by decide)

theorem estimatedFirstPointRenderTime_eq (pass : PluginPass) (c : PluginController) :
    c.estimatedFirstPointRenderTime pass =
      c.projectedRender pass + pass.estimatedFirstPointRenderDelayNs := by
  unfold estimatedFirstPointRenderTime
  split
  · rfl
  · rename_i h
    rw [Nat.eq_zero_of_not_pos h, Nat.cast_zero, add_zero]

/-- When frame `k` arrives at the device. -/
def arrival (passes : ℕ → PluginPass) (lead : ℕ) (k : ℕ) : TimePoint :=
  (passes k).now + lead * 1000

/-- How long frame `k` plays. -/
def playout (passes : ℕ → PluginPass) (rate : ℕ) (k : ℕ) : Duration :=
  playoutDuration (passes k).sentPointCount rate

/-- When frame `k` is noted to play, if the frames start at the times `s`: the delay counts, and so
does a late note. -/
def notedTime (passes : ℕ → PluginPass) (delay : ℕ) (s : ℕ → TimePoint) (k : ℕ) : TimePoint :=
  max (s k + delay) (passes k).noteNow

/-- The points that the note of frame `k` leaves, if the frames start at the times `s`: those of the
frame, and what the conversion to an `int` makes of the gap before it. -/
def notedPoints (passes : ℕ → PluginPass) (rate delay : ℕ) (s : ℕ → TimePoint) : ℕ → ℕ
  | 0 => (passes 0).sentPointCount
  | k + 1 => (passes (k + 1)).sentPointCount +
      wrappedPoints (notedPoints passes rate delay s k) rate
        (notedTime passes delay s (k + 1) - notedTime passes delay s k)

/-- When frame `k` is taken to have played out, if the frames start at the times `s`. -/
def notedFinish (passes : ℕ → PluginPass) (rate delay k : ℕ) (s : ℕ → TimePoint) : TimePoint :=
  notedTime passes delay s k + playoutDuration (notedPoints passes rate delay s k) rate

/-- The estimate that the frames before frame `k` leave, if they start at the times `s`. -/
def notedEstimate (passes : ℕ → PluginPass) (rate delay : ℕ) (s : ℕ → TimePoint) :
    ℕ → FrameTransportEstimate
  | 0 => {}
  | k + 1 =>
    { snapshotPoints := notedPoints passes rate delay s k
      snapshotTime := notedTime passes delay s k
      pointRate := rate
      valid := true }

theorem sentPointCount_le_notedPoints (s : ℕ → TimePoint) (k : ℕ) :
    (passes k).sentPointCount ≤ notedPoints passes rate delay s k := by
  cases k with
  | zero => exact le_rfl
  | succ k => exact Nat.le_add_right _ _

/-- When a frame is taken to have played out depends on the starts so far. -/
theorem causal_notedFinish : Causal (notedFinish passes rate delay) := by
  intro k s s' h
  have htime : ∀ j ≤ k, notedTime passes delay s j = notedTime passes delay s' j :=
    fun j hj => by rw [notedTime, notedTime, h j hj]
  have hpoints : ∀ j ≤ k,
      notedPoints passes rate delay s j = notedPoints passes rate delay s' j := by
    intro j
    induction j with
    | zero => exact fun _ => rfl
    | succ j ih =>
      intro hj
      rw [notedPoints, notedPoints, ih (Nat.le_of_succ_le hj), htime j (Nat.le_of_succ_le hj),
        htime (j + 1) hj]
  rw [notedFinish, notedFinish, htime k le_rfl, hpoints k le_rfl]

/-- When the worker projects the frames to play. -/
def projected (passes : ℕ → PluginPass) (lead k : ℕ) : TimePoint :=
  ((fresh lead).after ℚ passes k).projectedRender (passes k)

/-- A steady worker keeps the lead that it has measured. -/
theorem SteadyRun.smoothed (h : SteadyRun passes rate lead delay n) {k : ℕ} (hk : k ≤ n) :
    ((fresh lead).after ℚ passes k).smoothedSendFrameMicros = lead := by
  induction k with
  | zero => rfl
  | succ k ih =>
    rw [after, PluginController.sendFrame, if_neg (h.points_pos k hk).ne']
    simp only [ih (Nat.le_of_succ_le hk), h.lead_eq k hk, smoothSendFrameMicros_self]

theorem SteadyRun.projected_pos (h : SteadyRun passes rate lead delay n) {k : ℕ} (hk : k < n) :
    0 < projected passes lead k := by
  have hlead : (0 : Duration) ≤ ((fresh lead).after ℚ passes k).smoothedSendFrameMicros * 1000 := by
    rw [h.smoothed hk.le]
    positivity
  calc (0 : TimePoint)
      < (passes k).now + ((fresh lead).after ℚ passes k).smoothedSendFrameMicros * 1000 :=
        add_pos_of_pos_of_nonneg (h.now_pos k hk) hlead
    _ ≤ projected passes lead k := le_projectedNextWriteRenderTime _ _

theorem SteadyRun.estimate_eq (h : SteadyRun passes rate lead delay n) {k : ℕ} (hk : k < n) :
    (fresh lead).estimate passes k = projected passes lead k + delay := by
  rw [estimate, estimatedFirstPointRenderTime_eq, h.delay_eq k hk]
  rfl

theorem notedTime_pos {s : ℕ → TimePoint} {k : ℕ} (h : 0 < s k) : 0 < notedTime passes delay s k :=
  (add_pos_of_pos_of_nonneg h (Int.natCast_nonneg _)).trans_le (le_max_left _ _)

/-- What a note carries over from the frame before it. -/
theorem carryOverPoints_noted {s : ℕ → TimePoint} {k : ℕ} (hrate : 0 < rate) (hlt : rate < 500000)
    (hpoints : 0 < (passes k).sentPointCount) (hpos : 0 < s k)
    (hdrained : notedFinish passes rate delay k s ≤ s (k + 1)) :
    (notedEstimate passes rate delay s (k + 1)).carryOverPoints ℚ (notedTime passes delay s (k + 1))
        (2 ^ 64 - 1) =
      wrappedPoints (notedPoints passes rate delay s k) rate
        (notedTime passes delay s (k + 1) - notedTime passes delay s k) := by
  have hplaying : (notedEstimate passes rate delay s (k + 1)).Playing :=
    ⟨rfl, hpoints.trans_le (sentPointCount_le_notedPoints s k), hrate, hlt, notedTime_pos hpos⟩
  have hdelay : s (k + 1) ≤ notedTime passes delay s (k + 1) :=
    (le_add_of_nonneg_right (Int.natCast_nonneg _)).trans (le_max_left _ _)
  rw [carryOverPoints_of_drained hplaying (hdrained.trans hdelay)]
  exact Nat.min_eq_left ((wrappedPoints_lt _ _ _).le.trans (by decide))

/-- A steady worker projects from what the frame before was noted with. -/
theorem SteadyRun.projected_succ (h : SteadyRun passes rate lead delay n) {k : ℕ} (hk : k + 1 ≤ n)
    (hnoted : ((fresh lead).after ℚ passes (k + 1)).frameTransportEstimate =
      notedEstimate passes rate delay (projected passes lead) (k + 1)) :
    projected passes lead (k + 1) =
      max (notedFinish passes rate delay k (projected passes lead))
        (arrival passes lead (k + 1)) := by
  rw [projected, projectedRender, projectedNextWriteRenderTime, hnoted, h.smoothed hk]
  simp only [notedEstimate, Bool.not_true, h.rate_pos.ne', decide_false, Bool.or_false,
    Bool.false_eq_true, if_false, drainCompleteTime]
  rfl

/-- **A frame of a steady run** is noted with its points and what wraps in the gap before it, to
play from the estimated time on. -/
theorem SteadyRun.noted (h : SteadyRun passes rate lead delay n) {k : ℕ} (hk : k ≤ n) :
    ((fresh lead).after ℚ passes k).frameTransportEstimate =
      notedEstimate passes rate delay (projected passes lead) k := by
  induction k with
  | zero => rfl
  | succ k ih =>
    have hbefore := ih (Nat.le_of_succ_le hk)
    have hpos : 0 < projected passes lead k + delay :=
      add_pos_of_pos_of_nonneg (h.projected_pos hk) (Int.natCast_nonneg _)
    have hestimate : ((fresh lead).after ℚ passes k).estimatedFirstPointRenderTime (passes k) =
        projected passes lead k + delay := h.estimate_eq hk
    have hnoteTime : noteTime (projected passes lead k + delay) (passes k).noteNow =
        notedTime passes delay (projected passes lead) k := le_noteTime hpos
    have hpoints : (passes k).sentPointCount +
        (notedEstimate passes rate delay (projected passes lead) k).carryOverPoints ℚ
          (notedTime passes delay (projected passes lead) k) (2 ^ 64 - 1) =
          notedPoints passes rate delay (projected passes lead) k := by
      cases k with
      | zero => rfl
      | succ k =>
        have hk' := Nat.lt_of_succ_lt hk
        rw [carryOverPoints_noted h.rate_pos h.rate_lt (h.points_pos k hk') (h.projected_pos hk')
          ((le_max_left _ _).trans_eq (h.projected_succ (Nat.le_of_succ_le hk) hbefore).symm)]
        rfl
    rw [after, PluginController.sendFrame, if_neg (h.points_pos k hk).ne']
    simp only [hbefore, hestimate, h.rate_eq k hk, noteFrameTransportSubmissionBounded, hnoteTime,
      hpoints, if_neg (h.points_pos k hk).ne', if_neg h.rate_pos.ne']
    rfl

/-- A steady worker serves the frames one after the other. -/
theorem SteadyRun.serves (h : SteadyRun passes rate lead delay n) :
    Serves (arrival passes lead) (notedFinish passes rate delay) n (projected passes lead) where
  zero _ := rfl
  succ _ hk := h.projected_succ hk.le (h.noted hk.le)

/-- When the frames play if every one plays when it has arrived and the one before it has played. -/
def playStarts (passes : ℕ → PluginPass) (rate lead : ℕ) : ℕ → TimePoint :=
  starts (arrival passes lead) fun k s => s + playout passes rate k

/-- The next arrival hides the delay, a late note and points too many, or there is none of them. -/
theorem max_notedFinish_iff {a s note duration longer : ℤ} (delay : ℕ) (h : duration ≤ longer) :
    max (max (s + delay) note + longer) a = max (s + duration) a ↔
      (delay = 0 ∧ note ≤ s ∧ longer = duration) ∨ max (s + delay) note + longer ≤ a := by
  omega

/-- **When the delay is counted once**: in a run at a constant rate, lead and delay, every frame is
estimated to play at the delay after its start exactly if at every frame after the first, the delay
is zero, the frame before it was noted by its start and no gap has wrapped, or the frame before it
is over by the time this one arrives, even with the delay counted twice and what has wrapped. -/
theorem delay_counted_once_iff (h : SteadyRun passes rate lead delay n) :
    (∀ k < n, (fresh lead).estimate passes k = playStarts passes rate lead k + delay) ↔
      ∀ k, k + 1 < n →
        (delay = 0 ∧ (passes k).noteNow ≤ playStarts passes rate lead k ∧
          playoutDuration (notedPoints passes rate delay (playStarts passes rate lead) k) rate =
            playout passes rate k) ∨
          notedFinish passes rate delay k (playStarts passes rate lead) ≤
            arrival passes lead (k + 1) := by
  have hstarts : (∀ k < n, (fresh lead).estimate passes k =
      playStarts passes rate lead k + delay) ↔
        ∀ k < n, projected passes lead k = playStarts passes rate lead k := by
    refine forall₂_congr fun k hk => ?_
    rw [h.estimate_eq hk]
    exact add_left_inj _
  rw [hstarts]
  refine (h.serves.eq_starts_iff causal_notedFinish).trans (forall₂_congr fun k _ => ?_)
  exact max_notedFinish_iff _ (playoutDuration_mono (sentPointCount_le_notedPoints _ k) rate)

/-- Frames of ten milliseconds for a device behind another five milliseconds, submitted every so
many milliseconds. -/
def everyMillis (period k : ℕ) : PluginPass where
  now := 1000000000 + k * period * 1000000
  estimatedFirstPointRenderDelayNs := 5000000
  sentPointCount := 300
  measuredSendMicros := 1000
  noteNow := 1001000000 + k * period * 1000000
  rate := 30000

theorem steadyRun_everyMillis (period n : ℕ) :
    SteadyRun (everyMillis period) 30000 1000 5000000 n where
  rate_pos := by decide
  rate_lt := by decide
  rate_eq _ _ := rfl
  lead_eq _ _ := rfl
  delay_eq _ _ := rfl
  points_pos _ _ := by simp only [everyMillis]; omega
  now_pos k _ := by
    change (0 : ℤ) < 1000000000 + k * period * 1000000
    positivity

/-- With twenty milliseconds from frame to frame there is time for the delay. -/
theorem delay_counted_once_every_20 :
    (fresh 1000).estimate (everyMillis 20) 2 =
      playStarts (everyMillis 20) 30000 1000 2 + 5000000 := by
  refine (delay_counted_once_iff (steadyRun_everyMillis 20 3)).mpr ?_ 2 (by decide)
  intro k hk
  obtain rfl | rfl : k = 0 ∨ k = 1 := by omega
  · exact Or.inr (by decide +kernel)
  · exact Or.inr (by decide +kernel)

/-- **The delay accumulates**: with five milliseconds from frame to frame the second frame is
estimated to play the delay late. -/
theorem delay_accumulates :
    ¬ ∀ (passes : ℕ → PluginPass) (rate lead delay n : ℕ),
      SteadyRun passes rate lead delay n →
      ∀ k < n, (fresh lead).estimate passes k = playStarts passes rate lead k + delay := by
  intro h
  exact absurd (h _ _ _ _ _ (steadyRun_everyMillis 5 2) 1 (by decide)) (by decide +kernel)

end PluginController

end LiberaLaser
