import LiberaLaser.Core.Controller.Switching

/-!
# A callback switch takes effect

After `setPointCallback` has returned, a request that starts should deliver points of the new
callback only. The switch empties the framer, and every request that starts later copies the new
callback. But
a request that copied the earlier callback before the switch may extract after it: it then pulls
points of the earlier callback into the emptied framer, and leaves some of them in reserve. Runs
without such an extraction deliver what they should.
-/

namespace LiberaLaser

open LaserController PointStreamFramer Runs

variable {τ F D : Type}

namespace PointStreamFramer

/-- Every point in the framer was produced by one callback. -/
structure OwnedBy (owner : τ) (framer : PointStreamFramer τ F) : Prop where
  accumulator : ∀ p ∈ framer.accumulator, p.stamp = owner
  prepared : ∀ frame ∈ framer.preparedFrames, ∀ p ∈ frame, p.stamp = owner

theorem OwnedBy.configure {owner : τ} {framer : PointStreamFramer τ F} (h : OwnedBy owner framer)
    (call : FramingCall τ F) : OwnedBy owner (framer.configure call) :=
  ⟨h.accumulator, h.prepared⟩

variable [FloatArith F]

theorem ownedBy_reset (owner : τ) (framer : PointStreamFramer τ F) :
    OwnedBy owner framer.reset where
  accumulator := fun _ hp => absurd hp List.not_mem_nil
  prepared := fun _ hf => absurd hf List.not_mem_nil

theorem OwnedBy.move {callback : RequestPointsCallback τ F} {template : PointFillRequest}
    {framer framer' : PointStreamFramer τ F} (h : OwnedBy callback.id framer)
    (hmove : Move callback template framer framer') : OwnedBy callback.id framer' := by
  cases hmove with
  | pull count hcount =>
    simp only [pullPoints, if_neg hcount]
    refine ⟨fun p hp => ?_, h.prepared⟩
    rcases List.mem_append.mp hp with hp | hp
    · exact h.accumulator p hp
    · obtain ⟨q, -, rfl⟩ := List.mem_map.mp hp
      rfl
  | @prepare g frame hcut =>
    have hacc : ∀ p ∈ frame ++ g.accumulator, p.stamp = callback.id :=
      hcut.accumulator ▸ h.accumulator
    refine ⟨fun p hp => hacc p (List.mem_append_right _ hp), fun f hf => ?_⟩
    have hf : f ∈ g.preparedFrames ++ [frame] := hf
    rw [hcut.preparedFrames] at hf
    rcases List.mem_append.mp hf with hf | hf
    · exact h.prepared f hf
    · rw [List.mem_singleton.mp hf]
      exact fun p hp => hacc p (List.mem_append_left _ hp)

/-- **An extraction with the callback that the framer belongs to** keeps it so, and returns points
of that callback. -/
theorem OwnedBy.extractFrame {callback : RequestPointsCallback τ F} {template : PointFillRequest}
    {framer framer' : PointStreamFramer τ F} {frame : Option (List (Stamped τ F))}
    (h : OwnedBy callback.id framer) (hnominal : 1 ≤ framer.nominalFrameSize)
    (hextract : framer.extractFrame (some callback) template = some (framer', frame)) :
    OwnedBy callback.id framer' ∧ ∀ p ∈ frame.getD [], p.stamp = callback.id := by
  obtain ⟨ready, hmoves, hresult⟩ := extractFrame_spec callback template hnominal
  have hready := Moves.invariant (fun _ _ => OwnedBy.move) h hmoves
  rcases hresult with ⟨-, hnone⟩ | ⟨front, rest, hprepared, hfront⟩
  · rw [hnone, Option.some.injEq, Prod.mk.injEq] at hextract
    obtain ⟨rfl, rfl⟩ := hextract
    exact ⟨hready, fun p hp => absurd hp List.not_mem_nil⟩
  · rw [hfront, Option.some.injEq, Prod.mk.injEq] at hextract
    obtain ⟨rfl, rfl⟩ := hextract
    have hfront := hready.prepared front (by simp [hprepared])
    refine ⟨⟨hready.accumulator, fun f hf => hready.prepared f ?_⟩, fun p hp => hfront p ?_⟩
    · rw [hprepared]
      exact List.mem_cons_of_mem _ hf
    · split at hp
      · exact absurd hp List.not_mem_nil
      · exact hp

end PointStreamFramer

namespace SourceSection

/-- What a section makes of the source, the callback and the owner of the framer. -/
def settle (a : ContentSource × Option (RequestPointsCallback τ F) × Option τ) :
    SourceSection τ F → ContentSource × Option (RequestPointsCallback τ F) × Option τ
  | .resetScheduler => a
  | .resetFramer owner => (a.1, a.2.1, owner)
  | .storeCallback callback => (a.1, callback, a.2.2)
  | .activate source => (source, a.2.1, a.2.2)

end SourceSection

namespace Switching

/-- The source, the callback and the owner of the framer. -/
def current (s : Switching τ F D) : ContentSource × Option (RequestPointsCallback τ F) × Option τ :=
  (s.controller.activeSource, s.controller.requestPointsCallback, s.owner)

/-- The same once the call that holds the content mutex has returned. -/
def destined (s : Switching τ F D) :
    ContentSource × Option (RequestPointsCallback τ F) × Option τ :=
  (s.holder.getD []).foldl SourceSection.settle s.current

/-- The callback is installed, and nothing but a reset of the framer is under way. -/
structure Installed (callback : RequestPointsCallback τ F) (s : Switching τ F D) : Prop where
  current : s.current = (.pointCallback, some callback, some callback.id)
  held : ∀ sections ∈ s.holder, ∀ current ∈ sections,
    current = .resetFramer (some callback.id)

/-- The framer belongs to its owner, if it has one. -/
def Owned (s : Switching τ F D) : Prop :=
  ∀ owner ∈ s.owner, OwnedBy owner s.controller.pointStreamFramer

/-- A worker's request was entered after the callback was installed. -/
def RequestsFrom (callback : RequestPointsCallback τ F) : WorkerRequest τ F → Prop
  | .idle => True
  | .entered _ _ source => source = .pointCallback
  | .copied _ _ copied => copied = callback

/-- The step does not extract with a callback other than the one that the framer belongs to. -/
def UsesOwner (_ : List (Delivery τ F)) (s : Switching τ F D) : SwitchStep τ F → Prop
  | .work worker =>
    match s.workers worker with
    | .copied _ _ callback => ∀ owner ∈ s.owner, callback.id = owner
    | _ => True
  | _ => True

instance [DecidableEq τ] (tr : List (Delivery τ F)) (s : Switching τ F D) :
    ∀ l, Decidable (UsesOwner tr s l)
  | .work worker =>
    match h : s.workers worker with
    | .idle => isTrue (by simp only [UsesOwner, h])
    | .entered _ _ _ => isTrue (by simp only [UsesOwner, h])
    | .copied _ _ callback =>
      decidable_of_iff (∀ owner ∈ s.owner, callback.id = owner) (by simp only [UsesOwner, h])
  | .snapshot _ _ _ | .call _ | .proceed | .release => isTrue trivial

/-- The step begins no call, or one that only clears what was prefetched. -/
def KeepsSource (l : SwitchStep τ F) : Prop :=
  ∀ call, l = .call call → call = .clearPointCallbackPrefetch

/-- A worker's own steps decide about its request. -/
theorem requestsFrom_setWorker {callback : RequestPointsCallback τ F} {worker v : ℕ}
    {stage : WorkerRequest τ F} {s : Switching τ F D}
    (hs : RequestsFrom callback (s.workers worker))
    (hstage : v = worker → RequestsFrom callback stage) :
    RequestsFrom callback ((s.setWorker v stage).workers worker) := by
  simp only [setWorker]
  split
  · rename_i heq
    exact hstage heq.symm
  · exact hs

variable [FloatArith F]

theorem current_runSection (current : SourceSection τ F) (rest : List (SourceSection τ F))
    (s : Switching τ F D) : (s.runSection current rest).current = current.settle s.current := by
  cases current <;> rfl

variable [FloatArith D]

/-- The controller after an extraction differs in the framer alone. -/
theorem extractFrame_eq {c c' : LaserController τ F D} {request : FrameFillRequest}
    {context : RequestContext} {callback : RequestPointsCallback τ F}
    {frame : Option (List (Stamped τ F))}
    (h : c.extractFrame request context callback = some (c', frame)) :
    ∃ framer, (c.configured request context callback).extractFrame (some callback)
      request.templateRequest = some (framer, frame) ∧
      c' = { c with pointStreamFramer := framer } := by
  simp only [LaserController.extractFrame] at h
  split at h
  · cases h
  · rename_i framer frame' hextract
    simp only [Option.some.injEq, Prod.mk.injEq] at h
    obtain ⟨rfl, rfl⟩ := h
    exact ⟨framer, hextract, rfl⟩

/-- An extraction with the callback that the framer belongs to. -/
theorem extractFrame_ownedBy {c c' : LaserController τ F D} {request : FrameFillRequest}
    {context : RequestContext} {callback : RequestPointsCallback τ F}
    {frame : Option (List (Stamped τ F))} (h : OwnedBy callback.id c.pointStreamFramer)
    (hextract : c.extractFrame request context callback = some (c', frame)) :
    OwnedBy callback.id c'.pointStreamFramer ∧ ∀ p ∈ frame.getD [], p.stamp = callback.id := by
  obtain ⟨framer, hframer, rfl⟩ := extractFrame_eq hextract
  have hconfigured : OwnedBy callback.id (c.configured request context callback) := h.configure _
  exact hconfigured.extractFrame (Nat.le_max_right _ _) hframer

/-- Only a new call changes what is destined. -/
theorem destined_step {s s' : Switching τ F D} {l : SwitchStep τ F} {o : List (Delivery τ F)}
    (hcall : ∀ call, l ≠ .call call) (h : step s l = some (s', o)) : s'.destined = s.destined := by
  cases step_cases h with
  | snapshot worker request context hw hfree => rfl
  | none worker hw => rfl
  | queued worker hw hfill => rfl
  | copy worker hw hcallback => rfl
  | extract worker hw hextract =>
    obtain ⟨framer, -, rfl⟩ := extractFrame_eq hextract
    rfl
  | call call hfree => exact absurd rfl (hcall call)
  | proceed hheld =>
    simp only [destined, current_runSection, hheld]
    rfl
  | release hheld => simp only [destined, hheld]; rfl

/-- **The framer stays with its owner.** -/
theorem Owned.step {s s' : Switching τ F D} {l : SwitchStep τ F} {tr o : List (Delivery τ F)}
    (hs : Owned s) (huses : UsesOwner tr s l) (h : step s l = some (s', o)) : Owned s' := by
  cases step_cases h with
  | snapshot worker request context hw hfree => exact hs
  | none worker hw => exact hs
  | queued worker hw hfill => exact hs
  | copy worker hw hcallback => exact hs
  | extract worker hw hextract =>
    intro owner howner
    simp only [UsesOwner, hw] at huses
    obtain rfl := huses owner howner
    exact (extractFrame_ownedBy (hs _ howner) hextract).1
  | call call hfree => exact hs
  | @proceed current rest hheld =>
    cases current with
    | resetFramer owner => exact fun owner _ => ownedBy_reset owner _
    | resetScheduler => exact hs
    | storeCallback callback => exact hs
    | activate source => exact hs
  | release hheld => exact hs

/-- **The callback stays installed** until the next switch. -/
theorem Installed.step {callback : RequestPointsCallback τ F} {s s' : Switching τ F D}
    {l : SwitchStep τ F} {o : List (Delivery τ F)} (hs : Installed callback s)
    (hkeeps : KeepsSource l) (h : step s l = some (s', o)) : Installed callback s' := by
  cases step_cases h with
  | snapshot worker request context hw hfree => exact ⟨hs.current, hs.held⟩
  | none worker hw => exact ⟨hs.current, hs.held⟩
  | queued worker hw hfill => exact ⟨hs.current, hs.held⟩
  | copy worker hw hcallback => exact ⟨hs.current, hs.held⟩
  | extract worker hw hextract =>
    obtain ⟨framer, -, rfl⟩ := extractFrame_eq hextract
    exact ⟨hs.current, hs.held⟩
  | call call hfree =>
    obtain rfl := hkeeps call rfl
    have hcurrent := hs.current
    simp only [Switching.current, Prod.mk.injEq] at hcurrent
    refine ⟨hs.current, fun sections hsections current hmem => ?_⟩
    obtain rfl := Option.some.inj hsections
    simpa only [SourceCall.sections, hcurrent.1, if_true, hcurrent.2.1, Option.map_some,
      List.mem_singleton] using hmem
  | @proceed current rest hheld =>
    have hreset := hs.held _ hheld current List.mem_cons_self
    refine ⟨?_, fun sections hsections section' hmem => ?_⟩
    · rw [current_runSection, hs.current, hreset]
      rfl
    · obtain rfl := Option.some.inj hsections
      exact hs.held _ hheld section' (List.mem_cons_of_mem _ hmem)
  | release hheld => exact ⟨hs.current, fun _ hsections => absurd hsections (by simp)⟩

/-! ## Requests after the switch -/

/-- The invariant of a run after the switch, about one worker and the frames it receives. -/
structure SwitchedInv (callback : RequestPointsCallback τ F) (worker : ℕ)
    (tr : List (Delivery τ F)) (s : Switching τ F D) : Prop where
  installed : Installed callback s
  owned : Owned s
  request : RequestsFrom callback (s.workers worker)
  delivered : ∀ delivery ∈ tr, delivery.worker = worker →
    ∀ p ∈ delivery.frame, p.stamp = some callback.id

/-- **What one step preserves.** -/
theorem SwitchedInv.step {callback : RequestPointsCallback τ F} {worker : ℕ}
    {tr o : List (Delivery τ F)} {s s' : Switching τ F D} {l : SwitchStep τ F}
    (hs : SwitchedInv callback worker tr s) (hkeeps : KeepsSource l) (huses : UsesOwner tr s l)
    (h : step s l = some (s', o)) : SwitchedInv callback worker (tr ++ o) s' := by
  have hcurrent := hs.installed.current
  simp only [Switching.current, Prod.mk.injEq] at hcurrent
  obtain ⟨hsource, hcallback, howner⟩ := hcurrent
  suffices hrest : RequestsFrom callback (s'.workers worker) ∧
      ∀ delivery ∈ o, delivery.worker = worker →
        ∀ p ∈ delivery.frame, p.stamp = some callback.id by
    refine ⟨hs.installed.step hkeeps h, hs.owned.step huses h, hrest.1, fun delivery hd => ?_⟩
    rcases List.mem_append.mp hd with hd | hd
    · exact hs.delivered delivery hd
    · exact hrest.2 delivery hd
  cases step_cases h with
  | snapshot v request context hw hfree =>
    exact ⟨requestsFrom_setWorker hs.request fun _ => hsource, by simp⟩
  | none v hw => exact ⟨requestsFrom_setWorker hs.request fun _ => trivial, by simp⟩
  | queued v hw hfill =>
    refine ⟨requestsFrom_setWorker hs.request fun _ => trivial, ?_⟩
    intro delivery hd hworker
    obtain rfl := List.mem_singleton.mp hd
    -- the worker's request found the callback as the source
    have hreq := hs.request
    rw [← show v = worker from hworker, hw] at hreq
    cases hreq
  | @copy v request context copied hw hcopied =>
    refine ⟨requestsFrom_setWorker hs.request fun _ => ?_, by simp⟩
    exact Option.some.inj (hcopied.symm.trans hcallback)
  | @extract v request context copied hw controller frame hextract =>
    refine ⟨requestsFrom_setWorker hs.request fun _ => trivial, ?_⟩
    intro delivery hd hworker p hp
    obtain rfl := List.mem_singleton.mp hd
    have hreq := hs.request
    rw [← show v = worker from hworker, hw] at hreq
    obtain rfl : copied = callback := hreq
    obtain ⟨q, hq, rfl⟩ := List.mem_map.mp hp
    exact congrArg some ((extractFrame_ownedBy (hs.owned _ howner) hextract).2 q hq)
  | call call hfree => exact ⟨hs.request, by simp⟩
  | proceed hheld => exact ⟨hs.request, by simp⟩
  | release hheld => exact ⟨hs.request, by simp⟩

/-! ## The switch -/

/-- A run in which `setPointCallback` has returned and no other switch has begun since. -/
inductive Switched (callback : RequestPointsCallback τ F) : List (SwitchStep τ F) → Prop
  | intro (before during after : List (SwitchStep τ F)) (hreturn : .release ∉ during)
      (hafter : ∀ l ∈ after, KeepsSource l) :
      Switched callback (before ++ .call (.setPointCallback (some callback)) ::
        (during ++ .release :: after))

/-- While the call holds the content mutex, what it leads to stays the same. -/
theorem destined_during {s s' : Switching τ F D} {steps : List (SwitchStep τ F)}
    {o : List (Delivery τ F)} (hheld : s.holder ≠ none) (hreturn : .release ∉ steps)
    (h : run step s steps = some (s', o)) : s'.destined = s.destined := by
  have hsteps : ∀ l ∈ steps, l ≠ .release := fun l hl heq => hreturn (heq ▸ hl)
  have hinv : s'.destined = s.destined ∧ s'.holder ≠ none := by
    refine run_invariant (I := fun _ s' => s'.destined = s.destined ∧ s'.holder ≠ none)
      (G := fun _ _ l => l ≠ .release) ?_ ⟨rfl, hheld⟩ (Along.of_forall hsteps [] s) h
    rintro tr s₁ l s₂ o₁ ⟨hdestined, hheld⟩ hl hstep
    have hcall : ∀ call, l ≠ .call call := by
      rintro call rfl
      cases step_cases hstep with
      | call call hfree => exact hheld hfree
    refine ⟨(destined_step hcall hstep).trans hdestined, ?_⟩
    cases step_cases hstep with
    | snapshot worker request context hw hfree => exact absurd hfree hheld
    | none worker hw => exact hheld
    | queued worker hw hfill => exact hheld
    | copy worker hw hcallback => exact hheld
    | extract worker hw hextract => exact hheld
    | call call hfree => exact absurd hfree hheld
    | proceed hheld => exact Option.some_ne_none _
    | release hheld => exact absurd rfl hl
  exact hinv.1

/-- **A switch installs its callback**, whatever the workers do meanwhile. -/
theorem installed_of_switched {callback : RequestPointsCallback τ F} {s s' : Switching τ F D}
    {steps : List (SwitchStep τ F)} {o : List (Delivery τ F)} (hswitched : Switched callback steps)
    (h : run step s steps = some (s', o)) : Installed callback s' := by
  obtain ⟨before, during, after, hreturn, hafter⟩ := hswitched
  obtain ⟨s₁, o₁, _, -, h, -⟩ := run_append_eq_some.mp h
  obtain ⟨s₂, o₂, _, hcall, h, -⟩ := run_cons_eq_some.mp h
  obtain ⟨s₃, o₃, _, hduring, h, -⟩ := run_append_eq_some.mp h
  obtain ⟨s₄, o₄, _, hrelease, h, -⟩ := run_cons_eq_some.mp h
  have hdestined : s₃.destined = (.pointCallback, some callback, some callback.id) := by
    cases step_cases hcall with
    | call call hfree =>
      exact destined_during (Option.some_ne_none _) hreturn hduring
  have hinstalled : Installed callback s₄ := by
    cases step_cases hrelease with
    | release hheld =>
      refine ⟨?_, fun _ hsections => absurd hsections (by simp)⟩
      rw [← hdestined, destined, hheld]
      rfl
  exact run_invariant (I := fun _ s => Installed callback s) (G := fun _ _ l => KeepsSource l)
    (fun _ _ _ _ _ hs hkeeps hstep => hs.step hkeeps hstep) hinstalled
    (Along.of_forall hafter [] s₄) h

/-- **A callback switch takes effect**: where no step extracts with a callback other than the one
that the framer belongs to, a request that starts after `setPointCallback` has returned, and until
another switch begins, delivers points of the new callback only. -/
theorem delivers_installed_callback (c : LaserController τ F D)
    (callback : RequestPointsCallback τ F) (worker : ℕ) (request : FrameFillRequest)
    (context : RequestContext) {steps pass : List (SwitchStep τ F)}
    {s s' : Switching τ F D} {o o' : List (Delivery τ F)} (hswitched : Switched callback steps)
    (hpass : ∀ l ∈ pass, KeepsSource l)
    (hrun : run step { controller := c } steps = some (s, o))
    (hrequest : run step s (.snapshot worker request context :: pass) = some (s', o'))
    (huses : Along step UsesOwner [] { controller := c }
      (steps ++ .snapshot worker request context :: pass)) :
    ∀ delivery ∈ o', delivery.worker = worker →
      ∀ p ∈ delivery.frame, p.stamp = some callback.id := by
  rw [along_append] at huses
  have howned : Owned s := by
    refine run_invariant (I := fun _ s => Owned s) ?_ ?_ huses.1 hrun
    · exact fun _ _ _ _ _ hs huses hstep => hs.step huses hstep
    · exact fun owner howner => absurd howner (by simp)
  have hidle : s.workers worker = .idle := by
    obtain ⟨s₁, o₁, -, hsnapshot, -⟩ := run_cons_eq_some.mp hrequest
    cases step_cases hsnapshot with
    | snapshot worker request context hw hfree => exact hw
  have hstart : SwitchedInv callback worker [] s :=
    ⟨installed_of_switched hswitched hrun, howned, by rw [hidle]; trivial, by simp⟩
  have hguard := (huses.2 s o hrun).and
    (Along.of_forall (P := KeepsSource) (fun l hl => by
      rcases List.mem_cons.mp hl with rfl | hl
      · exact fun call heq => by cases heq
      · exact hpass l hl) _ _)
  obtain ⟨o₁, heq, hinv⟩ := run_invariant
    (I := fun tr s => ∃ o₁, tr = [] ++ o ++ o₁ ∧ SwitchedInv callback worker o₁ s)
    (fun tr s l s' o₂ hs hG hstep => by
      obtain ⟨o₁, rfl, hs⟩ := hs
      exact ⟨o₁ ++ o₂, by rw [List.append_assoc], hs.step hG.2 hG.1 hstep⟩)
    ⟨[], (List.append_nil _).symm, hstart⟩ hguard hrequest
  rw [List.append_cancel_left heq]
  exact hinv.delivered

/-! ## An extraction with the earlier callback -/

/-- A controller with the first callback installed. -/
def firstInstalled : LaserController ℕ ℚ ℚ := started .new (obliging 1)

/-- A request for one point. -/
def onePoint : FrameFillRequest := { maximumPointsRequired := 1 }

/-- The worker copies the first callback, the second one is installed, and the worker extracts. -/
def lateExtraction : List (SwitchStep ℕ ℚ) :=
  [.snapshot 0 onePoint noLatency, .work 0] ++
    .call (.setPointCallback (some (obliging 2))) ::
      ([.proceed, .proceed, .proceed, .proceed] ++ .release :: [.work 0])

theorem switched_lateExtraction : Switched (obliging 2) lateExtraction :=
  .intro _ _ _ (by simp) (by
    intro l hl call heq
    rw [List.mem_singleton.mp hl] at heq
    cases heq)

/-- The next request of the worker delivers a point of the first callback. -/
theorem delivers_earlier_callback : ∃ (s : Switching ℕ ℚ ℚ) (s' : Switching ℕ ℚ ℚ)
    (o o' : List (Delivery ℕ ℚ)), Switched (obliging 2) lateExtraction ∧
      run step { controller := firstInstalled } lateExtraction = some (s, o) ∧
      run step s [.snapshot 0 onePoint noLatency, .work 0, .work 0] =
        some (s', o') ∧
      ∃ delivery ∈ o', delivery.worker = 0 ∧ ∃ p ∈ delivery.frame, p.stamp = some 1 := by
  have hdelivered : ((run step { controller := firstInstalled } lateExtraction).bind fun r =>
      run step r.1 [.snapshot 0 onePoint noLatency, .work 0, .work 0]).map (·.2) =
      some [⟨0, [⟨some 1, default⟩]⟩] := by decide +kernel
  obtain ⟨⟨s', o'⟩, hrequest, rfl⟩ := Option.map_eq_some_iff.mp hdelivered
  obtain ⟨⟨s, o⟩, hrun, hrequest⟩ := Option.bind_eq_some_iff.mp hrequest
  exact ⟨s, s', o, _, switched_lateExtraction, hrun, hrequest, _, List.mem_singleton_self _, rfl,
    _, List.mem_singleton_self _, rfl⟩

/-- Without a request in flight, the switch takes effect. -/
theorem delivers_installed_callback_between_requests : ∃ (s : Switching ℕ ℚ ℚ)
    (s' : Switching ℕ ℚ ℚ) (o o' : List (Delivery ℕ ℚ)),
      run step { controller := firstInstalled } ([] ++
        .call (.setPointCallback (some (obliging 2))) ::
          ([.proceed, .proceed, .proceed, .proceed] ++ .release :: [])) = some (s, o) ∧
      run step s [.snapshot 0 onePoint noLatency, .work 0, .work 0] =
        some (s', o') ∧
      ∀ delivery ∈ o', delivery.worker = 0 → ∀ p ∈ delivery.frame, p.stamp = some 2 := by
  have hrun : ((run step { controller := firstInstalled } ([] ++
        .call (.setPointCallback (some (obliging 2))) ::
          ([.proceed, .proceed, .proceed, .proceed] ++ .release :: []))).bind fun r =>
      run step r.1 [.snapshot 0 onePoint noLatency, .work 0, .work 0]).isSome := by
    decide +kernel
  obtain ⟨⟨s', o'⟩, hrequest⟩ := Option.isSome_iff_exists.mp hrun
  obtain ⟨⟨s, o⟩, hrun, hrequest⟩ := Option.bind_eq_some_iff.mp hrequest
  have hkeeps : ∀ l ∈ ([.work 0, .work 0] : List (SwitchStep ℕ ℚ)), KeepsSource l := by
    intro l hl call heq
    obtain rfl : l = .work 0 := by simpa using hl
    cases heq
  exact ⟨s, s', o, o', hrun, hrequest, delivers_installed_callback firstInstalled (obliging 2) 0
    onePoint noLatency (.intro _ _ _ (by simp) (by simp)) hkeeps hrun hrequest
    (by decide +kernel)⟩

end Switching

end LiberaLaser
