import LiberaLaser.Core.Scheduler.System
import LiberaLaser.Foundations.Gaps

/-!
# Blanked jumps between frames

Where a frame starts far from where the previous one ended, the scheduler puts the whole transition
between the two, over as many calls as it takes. Two things go wrong. A call may skip the frame that
the transition leads to, for a frame that starts elsewhere; and a frame call with an empty blank
frame leaves a frame or a transition behind without a trace. In a run without these every jump is
bridged by its own transition (`jumps_bridged`).
-/

namespace LiberaLaser

open FloatArith Gaps Runs

/-- The frame an origin belongs to. -/
def Origin.serial : Origin → Option ℕ
  | .content serial _ => some serial
  | _ => none

/-- Content points are the marks of the output, transition points its fillers, and blanks its
breaks. -/
def Origin.kind : Origin → Kind
  | .content _ _ => .mark
  | .transition => .filler
  | .blank => .cut

namespace FrameScheduler

variable {F : Type}

/-- The kind of an output point. -/
def kind (p : Emitted F) : Kind := p.stamp.kind

/-- What is known of the points of a chunk. -/
theorem mem_chunk {f : QueuedFrame F} {k : ℕ} {p : Emitted F} (hp : p ∈ f.chunk k) :
    p.stamp.serial = some f.serial ∧ kind p = .mark := by
  obtain ⟨index, hstamp⟩ := stamp_of_mem_chunk hp
  exact ⟨by rw [hstamp]; rfl, by rw [kind, hstamp]; rfl⟩

/-- The points of a chunk by their position. -/
theorem getElem?_chunk {f : QueuedFrame F} {k j : ℕ} (hj : j < k) :
    (f.chunk k)[j]? =
      (f.points[f.nextPoint + j]?).map (⟨.content f.serial (f.nextPoint + j), ·⟩) := by
  simp only [QueuedFrame.chunk, List.getElem?_mapIdx, List.getElem?_take, List.getElem?_drop,
    if_pos hj]

theorem kind_transitions (points : List (LaserPoint F)) :
    ∀ p ∈ (transitions points : List (Emitted F)), kind p = .filler := by
  intro p hp
  rw [kind, stamp_of_mem_transitions hp]
  rfl

variable [FloatArith F]

theorem kind_blanks (n : ℕ) : ∀ p ∈ (blanks n : List (Emitted F)), kind p = .cut := by
  intro p hp
  rw [List.eq_of_mem_replicate hp]
  rfl

/-- Two successive content points with the transition points between them. Where they belong to
different frames and stand far apart, the whole transition from the one to the other is between
them; and whatever transition is between them is that one. -/
def Bridged (p : Emitted F) (between : List (Emitted F)) (q : Emitted F) : Prop :=
  (p.stamp.serial ≠ q.stamp.serial → farApart p.point q.point = true →
    between.map (·.point) = generateTransitionPoints p.point q.point) ∧
  (between ≠ [] → between.map (·.point) = generateTransitionPoints p.point q.point)

instance [DecidableEq F] (p : Emitted F) (between : List (Emitted F)) (q : Emitted F) :
    Decidable (Bridged p between q) :=
  inferInstanceAs (Decidable (_ ∧ _))

/-- What is awaiting leads to the front frame, by way of the transition points still pending: the
frame is under way, it starts again, or it comes next. -/
inductive Leads (f : QueuedFrame F) (pending : List (LaserPoint F)) (p : Emitted F) :
    List (Emitted F) → Prop
  | playing (hcursor : 0 < f.nextPoint) (hserial : p.stamp.serial = some f.serial)
      (hpoint : f.points[f.nextPoint - 1]? = some p.point) : Leads f pending p []
  | again {between : List (Emitted F)} {first : LaserPoint F} (hplay : 0 < f.playCount)
      (hcursor : f.nextPoint = 0) (hserial : p.stamp.serial = some f.serial)
      (hfirst : f.points.head? = some first)
      (htotal : between.map (·.point) ++ pending = [] ∨
        between.map (·.point) ++ pending = generateTransitionPoints p.point first) :
      Leads f pending p between
  | next {between : List (Emitted F)} {first : LaserPoint F} (hplay : f.playCount = 0)
      (hfirst : f.points.head? = some first)
      (htotal : between.map (·.point) ++ pending = bridge p.point first) : Leads f pending p between

section Leads

variable {f : QueuedFrame F} {T : List (LaserPoint F)} {p : Emitted F} {between : List (Emitted F)}

/-- A transition that is emitted is no longer pending. -/
theorem Leads.transition (h : Leads f T p between) (k : ℕ) (hT : T ≠ [] → f.nextPoint = 0) :
    Leads f (T.drop k) p (between ++ transitions (T.take k)) := by
  have hpoints : (between ++ transitions (T.take k)).map (·.point) ++ T.drop k =
      between.map (·.point) ++ T := by
    simp [transitions, Function.comp_def, List.append_assoc]
  cases h with
  | playing hcursor hserial hpoint =>
    have hnil : T = [] := by
      by_contra hne
      have := hT hne
      omega
    rw [hnil, List.take_nil, List.drop_nil]
    exact .playing hcursor hserial hpoint
  | again hplay hcursor hserial hfirst htotal =>
    exact .again hplay hcursor hserial hfirst (hpoints ▸ htotal)
  | next hplay hfirst htotal => exact .next hplay hfirst (hpoints.trans htotal)

/-- A frame that starts where the same transition leads may take the place of the next frame. -/
theorem Leads.skip (h : Leads f T p between) (hok : FrameOk f) (hplay : f.playCount = 0)
    {g : QueuedFrame F} (hg : Fresh g) (hsame : ∀ a ∈ f.points.head?, ∀ b ∈ g.points.head?,
      bridge p.point a = bridge p.point b) : Leads g T p between := by
  have hcursor := hok.cursor_eq hplay
  cases h with
  | playing hpos => omega
  | again hpos => omega
  | next _ hfirst htotal =>
    obtain ⟨b, bs, hb⟩ := List.exists_cons_of_ne_nil hg.points_ne
    have hhead : g.points.head? = some b := by rw [hb]; rfl
    exact .next hg.playCount_eq hhead (htotal.trans (hsame _ hfirst _ hhead))

/-- The point awaiting before a finished frame is its last. -/
theorem Leads.finished (h : Leads f T p between) (hok : FrameOk f)
    (hend : f.nextPoint = f.points.length) :
    between = [] ∧ p.stamp.serial = some f.serial ∧ f.points.getLast? = some p.point := by
  have hsize := List.length_pos_iff.mpr hok.points_ne
  cases h with
  | playing hcursor hserial hpoint =>
    refine ⟨rfl, hserial, ?_⟩
    rw [List.getLast?_eq_getElem?, ← hend]
    exact hpoint
  | again _ hcursor => omega
  | next hplay =>
    have := hok.cursor_eq hplay
    omega

/-- **A point played from the front frame is joined to what is awaiting.** -/
theorem Leads.bridged (h : Leads f [] p between) (hok : FrameOk f) {q : Emitted F}
    (hserial : q.stamp.serial = some f.serial)
    (hpoint : f.points[f.nextPoint]? = some q.point) : Bridged p between q := by
  cases h with
  | playing hcursor hp =>
    exact ⟨fun hne => absurd (hp.trans hserial.symm) hne, fun hne => absurd rfl hne⟩
  | again _ hcursor hp hfirst htotal =>
    rw [hcursor, ← List.head?_eq_getElem?, hfirst, Option.some.injEq] at hpoint
    rw [List.append_nil, hpoint] at htotal
    refine ⟨fun hne => absurd (hp.trans hserial.symm) hne, fun hne => htotal.resolve_left ?_⟩
    simpa using hne
  | next hplay hfirst htotal =>
    rw [hok.cursor_eq hplay, ← List.head?_eq_getElem?, hfirst, Option.some.injEq] at hpoint
    rw [List.append_nil, hpoint, bridge] at htotal
    refine ⟨fun _ hfar => by rw [htotal, if_pos hfar], fun hne => ?_⟩
    split at htotal
    · exact htotal
    · exact absurd (List.map_eq_nil_iff.mp htotal) hne

end Leads

/-! ## The invariant -/

/-- Every jump of the output is bridged, and what is awaiting at its end leads to the front
frame. -/
structure JumpInv (tr : List (Emitted F)) (s : FrameScheduler F) : Prop where
  wf : Wf s
  joined : Joined kind Bridged tr
  leads : ∀ p between, awaiting kind tr = some (p, between) →
    ∃ f rest, s.frameQueue = f :: rest ∧ Leads f s.pendingTransitionPoints p between

/-- What a call needs a licence for when the output so far is `tr`. -/
def jumpLicence (tr : List (Emitted F)) : Licence F where
  skip f g := ∀ p between, awaiting kind tr = some (p, between) →
    ∀ a ∈ f.points.head?, ∀ b ∈ g.points.head?, bridge p.point a = bridge p.point b
  silent := awaiting kind tr = none

section Moves

variable {tr sofar o : List (Emitted F)} {s s' : FrameScheduler F} {f : QueuedFrame F}
  {rest : List (QueuedFrame F)}

/-- What is awaiting leads to a given front frame. -/
theorem JumpInv.front (h : JumpInv tr s) (hq : s.frameQueue = f :: rest) {p : Emitted F}
    {between : List (Emitted F)} (hw : awaiting kind tr = some (p, between)) :
    Leads f s.pendingTransitionPoints p between := by
  obtain ⟨g, gs, hg, hleads⟩ := h.leads p between hw
  obtain ⟨rfl, -⟩ := List.cons.inj (hq.symm.trans hg)
  exact hleads

/-- Blank points end what is awaiting. -/
theorem JumpInv.blanks (h : JumpInv tr s) (hs' : Wf s') {n : ℕ} (hn : 0 < n) :
    JumpInv (tr ++ blanks n) s' where
  wf := hs'
  joined := joined_append_of_no_mark h.joined fun p hp => by simp [kind_blanks n p hp]
  leads := by
    intro p between hw
    have hne : (FrameScheduler.blanks n : List (Emitted F)) ≠ [] :=
      List.length_pos_iff.mp (by rw [length_blanks]; exact hn)
    rw [awaiting_append_cuts hne (kind_blanks n)] at hw
    cases hw

/-- Blank points end what is awaiting; without any, nothing was. -/
theorem JumpInv.leave (h : JumpInv (tr ++ sofar) s) (hs' : Wf s') {n : ℕ}
    (hn : 0 < n ∨ (jumpLicence tr).silent ∧ sofar = []) :
    JumpInv (tr ++ (sofar ++ FrameScheduler.blanks n)) s' := by
  rw [← List.append_assoc]
  rcases Nat.eq_zero_or_pos n with rfl | hpos
  · obtain ⟨hnone, rfl⟩ := hn.resolve_left (lt_irrefl 0)
    have hnone : awaiting kind tr = none := hnone
    refine ⟨hs', by simpa [FrameScheduler.blanks] using h.joined, fun p between hw => ?_⟩
    rw [FrameScheduler.blanks, List.replicate_zero, List.append_nil, List.append_nil, hnone] at hw
    cases hw
  · exact h.blanks hs' hpos

/-- Points of the front frame are played. -/
theorem JumpInv.play (h : JumpInv tr s) (hq : s.frameQueue = f :: rest)
    (hT : s.pendingTransitionPoints = []) {f' : QueuedFrame F} {k : ℕ}
    (hk : f.nextPoint + k ≤ f.points.length) (hfirst : f.playCount = 0 → 0 < k)
    (hf' : Played f f' k) (hs' : Wf { s with frameQueue := f' :: rest }) :
    JumpInv (tr ++ f.chunk k) { s with frameQueue := f' :: rest } := by
  have hok := h.wf.front f rest hq
  have hmarks : ∀ p ∈ f.chunk k, kind p = .mark := fun p hp => (mem_chunk hp).2
  have hlength := length_chunk f k hk
  refine ⟨hs', joined_append_marks h.joined hmarks (fun p hp q hq => ?_)
    fun q hhead p between hw => ?_, fun p between hw => ⟨f', rest, rfl, ?_⟩⟩
  · exact ⟨fun hne => absurd ((mem_chunk hp).1.trans (mem_chunk hq).1.symm) hne,
      fun hne => absurd rfl hne⟩
  · have hpos : 0 < k := by
      rw [← hlength]
      exact List.length_pos_of_mem (List.mem_of_mem_head? hhead)
    rw [Option.mem_def, List.head?_eq_getElem?, getElem?_chunk hpos, Option.map_eq_some_iff]
      at hhead
    obtain ⟨point, hpoint, rfl⟩ := hhead
    exact (hT ▸ h.front hq hw).bridged hok rfl hpoint
  · rcases Nat.eq_zero_or_pos k with rfl | hpos
    · -- nothing was played, and the frame had been played before
      have hplay : f.playCount ≠ 0 := fun h0 => lt_irrefl 0 (hfirst h0)
      have hnil : f.chunk 0 = [] := List.length_eq_zero_iff.mp hlength
      rw [hnil, List.append_nil] at hw
      cases h.front hq hw with
      | playing hcursor hserial hpoint =>
        exact .playing (by rw [hf'.nextPoint]; exact hcursor) (by rw [hf'.serial]; exact hserial)
          (by rw [hf'.points, hf'.nextPoint]; exact hpoint)
      | again _ hcursor hserial hhead htotal =>
        exact .again hf'.playCount (by rw [hf'.nextPoint]; exact hcursor)
          (by rw [hf'.serial]; exact hserial) (by rw [hf'.points]; exact hhead) htotal
      | next h0 => exact absurd h0 hplay
    · obtain ⟨j, rfl⟩ : ∃ j, k = j + 1 := ⟨k - 1, by omega⟩
      have hpoint : f.points[f.nextPoint + j]? = some f.points[f.nextPoint + j] :=
        List.getElem?_eq_getElem (by omega)
      have hlast : (f.chunk (j + 1)).getLast? =
          some ⟨.content f.serial (f.nextPoint + j), f.points[f.nextPoint + j]⟩ := by
        rw [List.getLast?_eq_getElem?, hlength, Nat.add_sub_cancel,
          getElem?_chunk (Nat.lt_succ_self j), hpoint]
        rfl
      rw [awaiting_append_marks hlast hmarks, Option.some.injEq, Prod.mk.injEq] at hw
      obtain ⟨rfl, rfl⟩ := hw
      refine .playing (by rw [hf'.nextPoint]; omega) (by rw [hf'.serial]; rfl) ?_
      rw [hf'.points, hf'.nextPoint, ← Nat.add_assoc, Nat.add_sub_cancel]
      exact hpoint

/-- **Every move keeps the jumps bridged**, where those that need a licence have one. -/
theorem JumpInv.move (h : JumpInv (tr ++ sofar) s) (hm : Move (jumpLicence tr) sofar s o s') :
    JumpInv (tr ++ (sofar ++ o)) s' := by
  have hs' := hm.wf h.wf
  cases hm with
  | drain =>
    rw [List.append_nil]
    refine ⟨hs', h.joined, fun p between hw => ?_⟩
    obtain ⟨f, rest, hq, hleads⟩ := h.leads p between hw
    exact ⟨f, rest ++ s.pendingFrames, by simp [drainPendingFramesUnsafe, hq], hleads⟩
  | transition k =>
    rw [← List.append_assoc]
    refine ⟨hs', joined_append_of_no_mark h.joined fun p hp => by simp [kind_transitions _ p hp],
      fun p between hw => ?_⟩
    rw [awaiting_append_fillers (kind_transitions _), Option.map_eq_some_iff] at hw
    obtain ⟨⟨p', between'⟩, hw, heq⟩ := hw
    obtain ⟨rfl, rfl⟩ := Prod.mk.inj heq
    obtain ⟨f, rest, hq, hleads⟩ := h.leads _ _ hw
    refine ⟨f, rest, hq, hleads.transition k fun hne => ?_⟩
    obtain ⟨g, gs, hg, hcursor⟩ := h.wf.bridge hne
    obtain ⟨rfl, -⟩ := List.cons.inj (hq.symm.trans hg)
    exact hcursor
  | @skip dropped g rest hA hsofar hq hplay =>
    rw [List.append_nil]
    refine ⟨hs', h.joined, fun p between hw => ⟨g, rest, rfl, ?_⟩⟩
    cases dropped with
    | nil => exact h.front hq hw
    | cons d ds =>
      -- the call has emitted transition points only, so the same point is awaiting as before it
      have hfill : ∀ x ∈ sofar, kind x = .filler := fun x hx => by rw [kind, hsofar x hx]; rfl
      have hwas := hw
      rw [awaiting_append_fillers hfill, Option.map_eq_some_iff] at hwas
      obtain ⟨⟨p', between'⟩, hwas, heq⟩ := hwas
      obtain ⟨rfl, -⟩ := Prod.mk.inj heq
      have hg : Fresh g := h.wf.fresh g (by simp [hq])
      exact (h.front hq hw).skip (h.wf.front d _ hq) (hplay d List.mem_cons_self) hg
        (hA d rfl _ _ hwas)
  | @blank n hT =>
    rcases Nat.eq_zero_or_pos n with rfl | hpos
    · rw [FrameScheduler.blanks, List.replicate_zero, List.append_nil]
      exact h
    · rw [← List.append_assoc]
      exact h.blanks hs' hpos
  | play hq hT hk hfirst hf' =>
    rw [← List.append_assoc]
    exact h.play hq hT hk hfirst hf' hs'
  | @advance f g rest lastPoint firstPoint hq hT hend hlast hfirst =>
    rw [List.append_nil]
    refine ⟨hs', h.joined, fun p between hw => ⟨g, rest, rfl, ?_⟩⟩
    obtain ⟨rfl, -, hpoint⟩ := (h.front hq hw).finished (h.wf.front f _ hq) hend
    obtain rfl := Option.some.inj (hpoint.symm.trans hlast)
    exact .next (h.wf.fresh g (by simp [hq])).playCount_eq hfirst rfl
  | @restart f f' rest T hq hT hend hf' hbridge =>
    rw [List.append_nil]
    refine ⟨hs', h.joined, fun p between hw => ⟨f', rest, rfl, ?_⟩⟩
    have hok := h.wf.front f _ hq
    obtain ⟨rfl, hserial, hpoint⟩ := (h.front hq hw).finished hok hend
    obtain ⟨first, points, hpoints⟩ := List.exists_cons_of_ne_nil hok.points_ne
    have hhead : f.points.head? = some first := by rw [hpoints]; rfl
    refine .again hf'.playCount hf'.nextPoint (by rw [hf'.serial]; exact hserial)
      (by rw [hf'.points]; exact hhead) (hbridge.imp id ?_)
    rintro ⟨lastPoint, firstPoint, hlast, hfirst, rfl⟩
    obtain rfl := Option.some.inj (hpoint.symm.trans hlast)
    obtain rfl := Option.some.inj (hhead.symm.trans hfirst)
    rfl
  | expire n hn hq hT hend => exact h.leave hs' hn
  | discard n hn => exact h.leave hs' hn

end Moves

/-! ## Runs -/

/-- While a content point is awaiting, the call leaves nothing behind silently, and skips a frame
only for one that the same transition leads to. -/
def KeepsJump (tr : List (Emitted F)) (s : FrameScheduler F) (call : Call F) : Prop :=
  ∀ p between, awaiting kind tr = some (p, between) →
    ¬ LeavesSilently s call ∧ ∀ f g, Skips s f g call →
      ∀ a ∈ f.points.head?, ∀ b ∈ g.points.head?, bridge p.point a = bridge p.point b

/-- Before the first content point every call keeps the jumps. -/
theorem keepsJump_nil (s : FrameScheduler F) (call : Call F) : KeepsJump [] s call := by
  intro p between hw
  cases hw

theorem jumpInv_init : JumpInv [] ({} : FrameScheduler F) where
  wf := wf_init
  joined := joined_nil
  leads := by simp

/-- **What one call preserves.** -/
theorem JumpInv.step {D : Type} [FloatArith D] {tr o : List (Emitted F)} {s s' : FrameScheduler F}
    {call : Call F} (h : JumpInv tr s) (hkeeps : KeepsJump tr s call) (hreset : call ≠ .reset)
    (hstep : step D s call = some (s', o)) : JumpInv (tr ++ o) s' := by
  have hs' := step_wf h.wf hstep
  have hskip : ∀ f g, Skips s f g call → (jumpLicence tr).skip f g :=
    fun f g hskips p between hw => (hkeeps p between hw).2 f g hskips
  have hsilent : LeavesSilently s call → (jumpLicence tr).silent := by
    intro hleaves
    show awaiting kind tr = none
    cases hw : awaiting kind tr with
    | none => rfl
    | some w => exact absurd hleaves (hkeeps w.1 w.2 hw).1
  rcases step_cases h.wf hskip hsilent hstep with ⟨hsub, rfl⟩ | hmoves | ⟨rfl, -⟩
  · rw [List.append_nil]
    refine ⟨hs', h.joined, fun p between hw => ?_⟩
    cases hsub with
    | rejected => exact h.leads p between hw
    | accepted points time hne => exact h.leads p between hw
  · refine Moves.invariant (I := JumpInv) tr (fun sofar s o s' h hm => h.move hm) h hmoves
  · exact absurd rfl hreset

/-- **Jumps are bridged**: in a run without a reset whose calls keep the jumps, two successive
content points of different frames that stand far apart, with no blank between them, have the whole
transition from the one to the other between them, and no frame follows a transition to another
one. -/
theorem jumps_bridged (D : Type) [FloatArith D] (calls : List (Call F)) (hreset : .reset ∉ calls)
    (hkeeps : Along (step D) KeepsJump [] {} calls) :
    ∃ s out, Runs.run (step D) {} calls = some (s, out) ∧ Joined kind Bridged out := by
  obtain ⟨s, out, hrun, -⟩ :=
    run_total (fun s call (hs : Wf s) => step_total D hs call) wf_init calls
  have hcalls : ∀ call ∈ calls, call ≠ .reset := by
    rintro _ hcall rfl
    exact hreset hcall
  have hguard := hkeeps.and (Along.of_forall hcalls _ _)
  have hinv : JumpInv ([] ++ out) s := by
    refine run_invariant ?_ jumpInv_init hguard hrun
    exact fun tr s call s' o h hG hstep => h.step hG.1 hG.2 hstep
  exact ⟨s, out, hrun, hinv.joined⟩

/-! ## A jump bridged towards another frame -/

/-- The first frame is played and a bridge to the second one is begun; then the second one is
skipped for a third. -/
def successorSkipped : List (Call ℚ) :=
  [.enqueueFrame (pointsAt 0 1) 0, .enqueueFrame (pointsAt (1 / 4) 5) 100,
    .fillPoints { minimumPointsRequired := 1, maximumPointsRequired := 1,
                  estimatedFirstPointRenderTime := 50 } 30000 0 (fun _ => 0),
    .fillPoints { minimumPointsRequired := 2, maximumPointsRequired := 2,
                  estimatedFirstPointRenderTime := 100 } 30000 0 (fun _ => 0),
    .enqueueFrame (pointsAt 1 1) 110,
    .fillPoints { minimumPointsRequired := 9, maximumPointsRequired := 9,
                  estimatedFirstPointRenderTime := 120 } 30000 0 (fun _ => 0)]

/-- The third frame starts straight after the bridge to the second one. -/
theorem jump_bridged_elsewhere : ∃ s out, .reset ∉ successorSkipped ∧
    Runs.run (step ℚ) {} successorSkipped = some (s, out) ∧ ¬ Joined kind Bridged out := by
  have hjoined : (Runs.run (step ℚ) {} successorSkipped).map
      (fun r => decide (Joined kind Bridged r.2)) = some false := by decide +kernel
  obtain ⟨⟨s, out⟩, hrun, hout⟩ := Option.map_eq_some_iff.mp hjoined
  exact ⟨s, out, by simp [successorSkipped], hrun, of_decide_eq_false hout⟩

/-- One call plays both frames with the bridge between them. -/
theorem jumps_bridged_in_one_call : ∃ s out, Runs.run (step ℚ) {}
    [.enqueueFrame (pointsAt 0 1) 0, .enqueueFrame (pointsAt (1 / 4) 5) 100,
      .fillPoints { minimumPointsRequired := 16, maximumPointsRequired := 16,
                    estimatedFirstPointRenderTime := 50 } 30000 0 (fun _ => 0)] = some (s, out) ∧
      Joined kind Bridged out := by
  refine jumps_bridged ℚ _ (by simp) ?_
  refine along_cons.mpr ⟨keepsJump_nil _ _, fun s₁ o₁ h₁ => ?_⟩
  simp only [step, Option.some.injEq, Prod.mk.injEq] at h₁
  obtain ⟨rfl, rfl⟩ := h₁
  refine along_cons.mpr ⟨keepsJump_nil _ _, fun s₂ o₂ h₂ => ?_⟩
  simp only [step, Option.some.injEq, Prod.mk.injEq] at h₂
  obtain ⟨rfl, rfl⟩ := h₂
  exact along_cons.mpr ⟨keepsJump_nil _ _, fun _ _ _ => trivial⟩

end FrameScheduler

end LiberaLaser
