import LiberaLaser.Core.LaserPoint
import LiberaLaser.Foundations.Loop

/-!
# The search for a natural frame boundary

`findNaturalBoundary` looks for a place to cut the accumulated points: a blanked point close to
where the frame began (a loop closure), or the start of the outgoing blank travel after a blank run
that returned to the first lit point (a frame transition). It scores both kinds and weighs the best
of each. Every read of the accumulator that the source does not guard has no result here past its
end; `findNaturalBoundary_spec` shows that the search always returns, and cuts no later than the end
of its window.
-/

namespace LiberaLaser.PointStreamFramer

open FloatArith Loop

variable {F : Type}

/-- A cut position and its score. -/
structure Candidate (F : Type) where
  index : ℕ
  score : F

theorem index_ite_le {c : Prop} [Decidable c] {x y : Candidate F} {n : ℕ} (hx : x.index ≤ n)
    (hy : y.index ≤ n) : (if c then x else y).index ≤ n := by
  split
  · exact hx
  · exact hy

variable [FloatArith F]

def liberationMinBlankRunPoints : ℕ := 4

def liberationHomeThreshold : F := 0.03

def liberationTransitionDistanceThreshold : F := 0.15

def liberationBoundaryScoreThreshold : F := 0.55

def liberationBlankRunScoreTarget : F := 64.0

def liberationHomeDwellScoreTarget : F := 8.0

def distanceThreshold : F := 0.3

def blankThreshold : F := 0.01

def searchWindowMinFactor : F := 0.5

def forceEmitFallbackCount : ℕ := 3

/-- `std::numeric_limits<float>::max()`. -/
def floatMax : F := 340282346638528859811704183484516925440.0

def isBlanked (p : LaserPoint F) : Bool := lt (p.r + p.g + p.b) blankThreshold

def distanceBetween (a b : LaserPoint F) : F :=
  let dx := a.x - b.x
  let dy := a.y - b.y
  sqrt (dx * dx + dy * dy)

def forgivingSizeScore (candidateIndex nominalFrameSize : ℕ) : F :=
  if nominalFrameSize = 0 then 0.0
  else
    let sizeRatio : F := ofNat candidateIndex / ofNat nominalFrameSize
    1.0 - clamp (FloatArith.abs (sizeRatio - 1.0) * 0.35) 0.0 1.0

/-- No cut yet. -/
def Candidate.none : Candidate F := { index := 0, score := -1.0 }

/-! ## Loop closures -/

/-- Score the point at `i` as the last blanked point of a frame that closes on the anchor. -/
def loopCandidate (accumulator : List (LaserPoint F)) (nominalFrameSize : ℕ) (anchorX anchorY : F)
    (best : Candidate F) (i : ℕ) : Option (Candidate F) :=
  match accumulator[i]? with
  | none => none
  | some p =>
    if !isBlanked p then some best
    else
      let dx := p.x - anchorX
      let dy := p.y - anchorY
      let dist := sqrt (dx * dx + dy * dy)
      let positionScore := 1.0 - clamp (dist / distanceThreshold) 0.0 1.0
      if le positionScore 0.0 then some best
      else
        let sizeRatio : F := ofNat i / ofNat nominalFrameSize
        let sizeScore := 1.0 - FloatArith.abs (sizeRatio - 1.0)
        let gapEndBonus : F := if accumulator[i + 1]?.any (!isBlanked ·) then 1.0 else 0.0
        let score := positionScore * 0.6 + sizeScore * 0.3 + gapEndBonus * 0.1
        some (if lt best.score score then { index := i + 1, score := score } else best)

/-- The best loop closure of the window. -/
def bestLoop (accumulator : List (LaserPoint F)) (nominalFrameSize windowStart windowEnd : ℕ)
    (anchorX anchorY : F) : Option (Candidate F) :=
  (List.range' windowStart (windowEnd - windowStart)).foldlM
    (loopCandidate accumulator nominalFrameSize anchorX anchorY) Candidate.none

/-! ## Frame transitions -/

/-- The first lit point of the next `count` points from `i` on. -/
def findFirstLit (accumulator : List (LaserPoint F)) : ℕ → ℕ → Option (Option (LaserPoint F))
  | _, 0 => some none
  | i, count + 1 =>
    match accumulator[i]? with
    | none => none
    | some p => if !isBlanked p then some (some p) else findFirstLit accumulator (i + 1) count

/-- The end of the run of blanked points from `i` on. -/
def blankRunEnd (accumulator : List (LaserPoint F)) (i : ℕ) : ℕ :=
  i + ((accumulator.drop i).takeWhile isBlanked).length

/-- The last of the points of a run that are closest to home, and its distance. -/
def closestHome (accumulator : List (LaserPoint F)) (frameHome : LaserPoint F)
    (runStart runEnd : ℕ) : Option (Candidate F) :=
  (List.range' runStart (runEnd - runStart)).foldlM
    (fun closest i =>
      match accumulator[i]? with
      | none => none
      | some p =>
        let distanceToHome := distanceBetween p frameHome
        some (if le distanceToHome closest.score then { index := i, score := distanceToHome }
          else closest))
    { index := runStart, score := floatMax }

/-- Walk back from an index while the point before it is near home. -/
def firstNearHome (accumulator : List (LaserPoint F)) (frameHome : LaserPoint F) (runStart : ℕ) :
    ℕ → Option ℕ
  | 0 => some 0
  | i + 1 =>
    if runStart < i + 1 then
      match accumulator[i]? with
      | none => none
      | some p =>
        if le (distanceBetween p frameHome) liberationHomeThreshold then
          firstNearHome accumulator frameHome runStart i
        else some (i + 1)
    else some (i + 1)

/-- Walk on from an index, at most `count` points, while the point after it is near home. -/
def lastNearHome (accumulator : List (LaserPoint F)) (frameHome : LaserPoint F) :
    ℕ → ℕ → Option ℕ
  | i, 0 => some i
  | i, count + 1 =>
    match accumulator[i + 1]? with
    | none => none
    | some p =>
      if le (distanceBetween p frameHome) liberationHomeThreshold then
        lastNearHome accumulator frameHome (i + 1) count
      else some i

/-- Score a blank run as the move between two frames. -/
def transitionCandidate (accumulator : List (LaserPoint F)) (nominalFrameSize : ℕ)
    (windowStart windowEnd : ℕ) (frameHome : LaserPoint F) (runStart runEnd : ℕ)
    (best : Candidate F) : Option (Candidate F) := do
  let closest ← closestHome accumulator frameHome runStart runEnd
  if le closest.score liberationHomeThreshold then
    let firstNearHomeIndex ← firstNearHome accumulator frameHome runStart closest.index
    let lastNearHomeIndex ←
      lastNearHome accumulator frameHome closest.index (runEnd - 1 - closest.index)
    let splitIndex := lastNearHomeIndex
    let nearHomePointCount := lastNearHomeIndex - firstNearHomeIndex + 1
    let returnedToHome := runStart < firstNearHomeIndex
    let runTail ← accumulator[runEnd - 1]?
    let nextLit ← accumulator[runEnd]?
    let departureDistance :=
      FloatArith.max (distanceBetween runTail frameHome) (distanceBetween nextLit frameHome)
    if windowStart ≤ splitIndex ∧ splitIndex < windowEnd ∧ 0 < splitIndex ∧
        lastNearHomeIndex + 1 < runEnd ∧
        le liberationTransitionDistanceThreshold departureDistance then
      let homeScore := 1.0 - clamp (closest.score / liberationHomeThreshold) 0.0 1.0
      let travelScore :=
        clamp (departureDistance / liberationTransitionDistanceThreshold) 0.0 1.0
      let sizeScore := forgivingSizeScore splitIndex nominalFrameSize
      let runLengthScore :=
        clamp (ofNat (runEnd - runStart) / liberationBlankRunScoreTarget) 0.0 1.0
      let homeDwellScore :=
        clamp (ofNat nearHomePointCount / liberationHomeDwellScoreTarget) 0.0 1.0
      let returnScore : F := if returnedToHome then 1.0 else 0.0
      let score := homeScore * 0.25 + travelScore * 0.20 + sizeScore * 0.20 +
        runLengthScore * 0.10 + homeDwellScore * 0.15 + returnScore * 0.10
      return if le liberationBoundaryScoreThreshold score ∧ lt best.score score then
          { index := splitIndex, score := score }
        else best
    else return best
  else return best

/-- The loop state of the search for a blank run. -/
structure RunSearch (F : Type) where
  runStart : ℕ
  best : Candidate F

/-- One pass of the search: step over a lit point, or score the blank run that starts here. -/
def transitionPass (accumulator : List (LaserPoint F)) (nominalFrameSize : ℕ)
    (windowStart windowEnd : ℕ) (frameHome : LaserPoint F) (st : RunSearch F) :
    Option (Pass (RunSearch F) (Candidate F)) :=
  if windowEnd ≤ st.runStart then some (.done st.best)
  else
    match accumulator[st.runStart]? with
    | none => none
    | some p =>
      if !isBlanked p then some (.again { st with runStart := st.runStart + 1 })
      else
        let runEnd := blankRunEnd accumulator (st.runStart + 1)
        let overlapsSearchWindow := windowStart < runEnd ∧ st.runStart < windowEnd
        let hasFollowingLit := accumulator[runEnd]?.any (!isBlanked ·)
        if overlapsSearchWindow ∧ hasFollowingLit ∧
            liberationMinBlankRunPoints ≤ runEnd - st.runStart then
          match transitionCandidate accumulator nominalFrameSize windowStart windowEnd frameHome
              st.runStart runEnd st.best with
          | none => none
          | some best => some (.again { runStart := runEnd, best := best })
        else some (.again { st with runStart := runEnd })

/-- The best transition that a blank run overlapping the window makes from the first lit point. -/
def bestTransition (accumulator : List (LaserPoint F))
    (nominalFrameSize windowStart windowEnd : ℕ) : Option (Candidate F) :=
  match findFirstLit accumulator 0 windowEnd with
  | none => none
  | some none => some Candidate.none
  | some (some frameHome) =>
    run (transitionPass accumulator nominalFrameSize windowStart windowEnd frameHome)
      (windowEnd + 1) { runStart := 0, best := Candidate.none }

/-! ## The search -/

/-- Weigh the best loop closure against the best transition. -/
def chooseBoundary (loop transition : Candidate F) : ℕ :=
  let hasLoopBoundary := 0 < loop.index ∧ le 0.3 loop.score
  let hasTransitionBoundary :=
    0 < transition.index ∧ le liberationBoundaryScoreThreshold transition.score
  if hasLoopBoundary ∧ hasTransitionBoundary then
    if loop.index < transition.index then loop.index
    else if transition.index < loop.index ∧ le (loop.score - 0.15) transition.score then
      transition.index
    else loop.index
  else if hasTransitionBoundary then transition.index
  else if hasLoopBoundary then loop.index
  else 0

/-- The search begins closer to the nominal size after too many forced cuts. -/
def searchWindowStart (F : Type) [FloatArith F] (nominalFrameSize consecutiveForceEmits : ℕ) : ℕ :=
  let minFactor : F :=
    if forceEmitFallbackCount ≤ consecutiveForceEmits then 0.9 else searchWindowMinFactor
  toSize (ofNat nominalFrameSize * minFactor)

/-- The index to cut the accumulator at, or `0` where there is no natural boundary. -/
def findNaturalBoundary (accumulator : List (LaserPoint F))
    (nominalFrameSize maxFrameSize consecutiveForceEmits : ℕ) (anchorX anchorY : F) : Option ℕ :=
  if accumulator.length < 2 then some 0
  else
    let windowStart := searchWindowStart F nominalFrameSize consecutiveForceEmits
    let windowEnd := Nat.min maxFrameSize accumulator.length
    if windowEnd ≤ windowStart then some 0
    else do
      let loop ← bestLoop accumulator nominalFrameSize windowStart windowEnd anchorX anchorY
      let transition ← bestTransition accumulator nominalFrameSize windowStart windowEnd
      some (chooseBoundary loop transition)

/-! ## The search returns -/

section Total

variable {accumulator : List (LaserPoint F)} {frameHome : LaserPoint F}
  {nominalFrameSize windowStart windowEnd runStart runEnd : ℕ}

theorem loopCandidate_spec (anchorX anchorY : F) {best : Candidate F} {i : ℕ}
    (hi : i < windowEnd) (hwindow : windowEnd ≤ accumulator.length)
    (hbest : best.index ≤ windowEnd) :
    ∃ best', loopCandidate accumulator nominalFrameSize anchorX anchorY best i = some best' ∧
      best'.index ≤ windowEnd := by
  have hget : accumulator[i]? = some accumulator[i] := List.getElem?_eq_getElem _
  simp only [loopCandidate, hget]
  split
  · exact ⟨best, rfl, hbest⟩
  · split
    · exact ⟨best, rfl, hbest⟩
    · exact ⟨_, rfl, index_ite_le hi hbest⟩

theorem findFirstLit_spec {i count : ℕ} (h : i + count ≤ accumulator.length) :
    ∃ r, findFirstLit accumulator i count = some r := by
  induction count generalizing i with
  | zero => exact ⟨none, rfl⟩
  | succ count ih =>
    have hget : accumulator[i]? = some accumulator[i] := List.getElem?_eq_getElem _
    simp only [findFirstLit, hget]
    split
    · exact ⟨_, rfl⟩
    · exact ih (by omega)

theorem le_blankRunEnd (accumulator : List (LaserPoint F)) (i : ℕ) :
    i ≤ blankRunEnd accumulator i := Nat.le_add_right _ _

theorem closestHome_spec (frameHome : LaserPoint F) (hrun : runStart < runEnd)
    (hend : runEnd ≤ accumulator.length) :
    ∃ closest, closestHome accumulator frameHome runStart runEnd = some closest ∧
      runStart ≤ closest.index ∧ closest.index < runEnd := by
  refine foldlM_total (I := fun closest : Candidate F =>
    runStart ≤ closest.index ∧ closest.index < runEnd) ?_ ⟨le_rfl, hrun⟩
  intro i hi closest hclosest
  obtain ⟨hle, hlt⟩ := List.mem_range'_1.mp hi
  have hget : accumulator[i]? = some accumulator[i] := List.getElem?_eq_getElem (by omega)
  simp only [hget]
  refine ⟨_, rfl, ?_⟩
  split
  · show runStart ≤ i ∧ i < runEnd
    omega
  · exact hclosest

theorem firstNearHome_spec (frameHome : LaserPoint F) (runStart : ℕ) {i : ℕ}
    (h : i ≤ accumulator.length) :
    ∃ k, firstNearHome accumulator frameHome runStart i = some k := by
  induction i with
  | zero => exact ⟨0, rfl⟩
  | succ i ih =>
    have hget : accumulator[i]? = some accumulator[i] := List.getElem?_eq_getElem _
    simp only [firstNearHome, hget]
    split
    · split
      · exact ih (by omega)
      · exact ⟨_, rfl⟩
    · exact ⟨_, rfl⟩

theorem lastNearHome_spec (frameHome : LaserPoint F) {i count : ℕ}
    (h : i + count < accumulator.length) :
    ∃ k, lastNearHome accumulator frameHome i count = some k := by
  induction count generalizing i with
  | zero => exact ⟨i, rfl⟩
  | succ count ih =>
    have hget : accumulator[i + 1]? = some accumulator[i + 1] := List.getElem?_eq_getElem _
    simp only [lastNearHome, hget]
    split
    · exact ih (by omega)
    · exact ⟨_, rfl⟩

/-- Scoring a run that ends before the accumulator does returns, and a new cut lies in the
window. -/
theorem transitionCandidate_spec (nominalFrameSize windowStart : ℕ) (frameHome : LaserPoint F)
    {best : Candidate F} (hrun : runStart < runEnd)
    (hend : runEnd < accumulator.length) (hbest : best.index ≤ windowEnd) :
    ∃ best', transitionCandidate accumulator nominalFrameSize windowStart windowEnd frameHome
      runStart runEnd best = some best' ∧ best'.index ≤ windowEnd := by
  obtain ⟨closest, hclosest, -, hlt⟩ := closestHome_spec frameHome hrun hend.le
  obtain ⟨first, hfirst⟩ := firstNearHome_spec frameHome runStart (hlt.le.trans hend.le)
  obtain ⟨last, hlast⟩ : ∃ k, lastNearHome accumulator frameHome closest.index
      (runEnd - 1 - closest.index) = some k := lastNearHome_spec frameHome (by omega)
  have htail : accumulator[runEnd - 1]? = some accumulator[runEnd - 1] :=
    List.getElem?_eq_getElem _
  have hnext : accumulator[runEnd]? = some accumulator[runEnd] := List.getElem?_eq_getElem _
  simp only [transitionCandidate, hclosest, hfirst, hlast, htail, hnext, Option.bind_eq_bind,
    Option.bind_some]
  split
  · split
    · rename_i hcut
      exact ⟨_, rfl, index_ite_le hcut.2.1.le hbest⟩
    · exact ⟨best, rfl, hbest⟩
  · exact ⟨best, rfl, hbest⟩

/-- One pass returns, keeps the cut in the window and moves on. -/
theorem transitionPass_spec {st : RunSearch F} (hwindow : windowEnd ≤ accumulator.length)
    (hbest : st.best.index ≤ windowEnd) :
    PassSpec
      (transitionPass accumulator nominalFrameSize windowStart windowEnd frameHome st)
      (fun st' => st'.best.index ≤ windowEnd ∧
        windowEnd - st'.runStart < windowEnd - st.runStart)
      (fun best => best.index ≤ windowEnd) := by
  unfold transitionPass
  split
  · exact PassSpec.done _ rfl hbest
  · rename_i hstart
    have hget : accumulator[st.runStart]? = some accumulator[st.runStart] :=
      List.getElem?_eq_getElem _
    have hrun := le_blankRunEnd accumulator (st.runStart + 1)
    simp only [hget]
    split
    · exact PassSpec.again _ rfl ⟨hbest, by show windowEnd - (st.runStart + 1) < _; omega⟩
    · split
      · rename_i hscore
        have hend : blankRunEnd accumulator (st.runStart + 1) < accumulator.length := by
          by_contra hge
          have hlit := hscore.2.1
          rw [List.getElem?_eq_none (by omega)] at hlit
          simp at hlit
        obtain ⟨best, hcand, hle⟩ := transitionCandidate_spec nominalFrameSize windowStart frameHome
          (show st.runStart < blankRunEnd accumulator (st.runStart + 1) by omega) hend hbest
        simp only [hcand]
        exact PassSpec.again _ rfl ⟨hle, by show windowEnd - blankRunEnd _ _ < _; omega⟩
      · exact PassSpec.again _ rfl ⟨hbest, by show windowEnd - blankRunEnd _ _ < _; omega⟩

theorem bestLoop_spec (nominalFrameSize windowStart : ℕ) (anchorX anchorY : F)
    (hwindow : windowEnd ≤ accumulator.length) :
    ∃ best, bestLoop accumulator nominalFrameSize windowStart windowEnd anchorX anchorY =
      some best ∧ best.index ≤ windowEnd := by
  refine foldlM_total (I := fun best : Candidate F => best.index ≤ windowEnd) ?_ (Nat.zero_le _)
  intro i hi best hbest
  obtain ⟨hle, hlt⟩ := List.mem_range'_1.mp hi
  exact loopCandidate_spec anchorX anchorY (by omega) hwindow hbest

theorem bestTransition_spec (nominalFrameSize windowStart : ℕ)
    (hwindow : windowEnd ≤ accumulator.length) :
    ∃ best, bestTransition accumulator nominalFrameSize windowStart windowEnd = some best ∧
      best.index ≤ windowEnd := by
  obtain ⟨firstLit, hfirst⟩ : ∃ r, findFirstLit accumulator 0 windowEnd = some r :=
    findFirstLit_spec (by omega)
  simp only [bestTransition, hfirst]
  cases firstLit with
  | none => exact ⟨Candidate.none, rfl, Nat.zero_le _⟩
  | some frameHome =>
    exact run_total (I := fun st : RunSearch F => st.best.index ≤ windowEnd)
      (fun st => windowEnd - st.runStart) (fun st hst => transitionPass_spec hwindow hst)
      (Nat.zero_le _) (by show windowEnd - 0 < windowEnd + 1; omega)

theorem chooseBoundary_le {loop transition : Candidate F} (hloop : loop.index ≤ windowEnd)
    (htransition : transition.index ≤ windowEnd) :
    chooseBoundary loop transition ≤ windowEnd := by
  simp only [chooseBoundary]
  split
  · split
    · exact hloop
    · split
      · exact htransition
      · exact hloop
  · split
    · exact htransition
    · split
      · exact hloop
      · exact Nat.zero_le _

end Total

/-- **The search for a boundary** returns, and cuts within the frame limit and the accumulator. -/
theorem findNaturalBoundary_spec (accumulator : List (LaserPoint F))
    (nominalFrameSize maxFrameSize consecutiveForceEmits : ℕ) (anchorX anchorY : F) :
    ∃ k, findNaturalBoundary accumulator nominalFrameSize maxFrameSize consecutiveForceEmits
      anchorX anchorY = some k ∧ k ≤ maxFrameSize ∧ k ≤ accumulator.length := by
  unfold findNaturalBoundary
  split
  · exact ⟨0, rfl, Nat.zero_le _, Nat.zero_le _⟩
  dsimp only
  split
  · exact ⟨0, rfl, Nat.zero_le _, Nat.zero_le _⟩
  have hmax : Nat.min maxFrameSize accumulator.length ≤ maxFrameSize := Nat.min_le_left _ _
  have hlength : Nat.min maxFrameSize accumulator.length ≤ accumulator.length :=
    Nat.min_le_right _ _
  obtain ⟨loop, hloop, hloopLe⟩ := bestLoop_spec nominalFrameSize
    (searchWindowStart F nominalFrameSize consecutiveForceEmits) anchorX anchorY hlength
  obtain ⟨transition, htransition, htransitionLe⟩ := bestTransition_spec nominalFrameSize
    (searchWindowStart F nominalFrameSize consecutiveForceEmits) hlength
  have hle := chooseBoundary_le hloopLe htransitionLe
  refine ⟨chooseBoundary loop transition, ?_, hle.trans hmax, hle.trans hlength⟩
  simp only [hloop, htransition, Option.bind_eq_bind, Option.bind_some]

end LiberaLaser.PointStreamFramer
