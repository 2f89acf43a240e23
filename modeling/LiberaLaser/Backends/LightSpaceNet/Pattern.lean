import LiberaLaser.Core.Controller.Model

/-!
# LightSpaceNet patterns

The device replays the pattern that was uploaded last, so that a pattern is a whole frame. A dark
frame is padded up to the point limit. A frame with more points than that keeps a prefix, and a dark
run of points leads from there to where the frame ends. The pattern never has more points than the
limit, and it is blank where the frame was.
-/

namespace LiberaLaser

open FloatArith

namespace LightSpaceNet

variable {F : Type}

/-! ## Limits -/

def minPointRate : ℕ := 1000

def defaultPointRate : ℕ := 30000

def maxPointRate : ℕ := 30000

def maxCurrentPatternPacketBytes : ℕ := 5120

def maxSourceFramePoints : ℕ := 700

def clampPointRate (pointRate : ℕ) : ℕ :=
  if pointRate = 0 then defaultPointRate
  else if pointRate < minPointRate then minPointRate
  else if maxPointRate < pointRate then maxPointRate
  else pointRate

/-- The number of bytes of a packet; none where the length fields cannot hold it. -/
def packetSize (payloadSize : ℕ) : ℕ :=
  if 0xFFFF < 20 + payloadSize ∨ 0xFFFF < payloadSize then 0 else 20 + payloadSize

/-- The number of bytes of the packet that uploads a pattern: a count, and seven bytes a point. -/
def pointStreamPacketSize (pointCount : ℕ) : ℕ :=
  packetSize (2 + Nat.min pointCount 0xFFFF * 7)

/-- **Patterns within the limits** are never refused. -/
theorem pointStreamPacketSize_le {n : ℕ} (h : n ≤ maxSourceFramePoints) :
    pointStreamPacketSize n ≠ 0 ∧ pointStreamPacketSize n ≤ maxCurrentPatternPacketBytes := by
  have hn : n ≤ 700 := h
  have hmin : Nat.min n 0xFFFF = n := Nat.min_eq_left (by omega)
  rw [pointStreamPacketSize, packetSize, hmin, if_neg (by omega)]
  exact ⟨by omega, show _ ≤ 5120 by omega⟩

variable [FloatArith F]

/-! ## Blank patterns -/

/-- A point whose colours are too dark to count. -/
def Dim (p : LaserPoint F) : Prop :=
  lt 0.001 p.r = false ∧ lt 0.001 p.g = false ∧ lt 0.001 p.b = false

instance (p : LaserPoint F) : Decidable (Dim p) := inferInstanceAs (Decidable (_ ∧ _ ∧ _))

/-- Black is below the threshold. Rounded and exact arithmetic agree in this. -/
def BlackIsDim (F : Type) [FloatArith F] : Prop := lt (0.001 : F) 0.0 = false

def patternPointsAreBlank (points : List (LaserPoint F)) : Bool :=
  points.all fun point => !(lt 0.001 point.r || lt 0.001 point.g || lt 0.001 point.b)

theorem patternPointsAreBlank_iff {points : List (LaserPoint F)} :
    patternPointsAreBlank points = true ↔ ∀ p ∈ points, Dim p := by
  simp [patternPointsAreBlank, Dim, and_assoc]

theorem dim_of_dark (hblack : BlackIsDim F) {p : LaserPoint F} (h : p.Dark) : Dim p := by
  obtain ⟨hr, hg, hb⟩ := h
  rw [Dim, hr, hg, hb]
  exact ⟨hblack, hblack, hblack⟩

def makeBlankPatternPoints (pointCount : ℕ) : List (LaserPoint F) :=
  List.replicate pointCount { (default : LaserPoint F) with i := 0.0 }

def makeBlankPatternAtPoint (anchor : LaserPoint F) (pointCount : ℕ) : List (LaserPoint F) :=
  List.replicate pointCount
    { (default : LaserPoint F) with
      x := anchor.x, y := anchor.y, r := 0.0, g := 0.0, b := 0.0, i := 0.0 }

def padBlankPatternToPointLimit (points : List (LaserPoint F)) (patternPointLimit : ℕ) :
    List (LaserPoint F) :=
  match points.getLast? with
  | none => points
  | some last =>
    if patternPointLimit ≤ points.length || !patternPointsAreBlank points then points
    else makeBlankPatternAtPoint last patternPointLimit

theorem dark_makeBlankPatternPoints (n : ℕ) :
    ∀ p ∈ (makeBlankPatternPoints n : List (LaserPoint F)), p.Dark := by
  intro p hp
  rw [List.eq_of_mem_replicate hp]
  exact ⟨rfl, rfl, rfl⟩

theorem dark_makeBlankPatternAtPoint (anchor : LaserPoint F) (n : ℕ) :
    ∀ p ∈ makeBlankPatternAtPoint anchor n, p.Dark := by
  intro p hp
  rw [List.eq_of_mem_replicate hp]
  exact ⟨rfl, rfl, rfl⟩

/-- Padding fills a blank pattern up to the limit, and leaves every other pattern alone. -/
theorem padBlankPatternToPointLimit_spec (points : List (LaserPoint F)) (limit : ℕ) :
    padBlankPatternToPointLimit points limit = points ∨
      points ≠ [] ∧ points.length < limit ∧
        ∃ anchor, padBlankPatternToPointLimit points limit =
          makeBlankPatternAtPoint anchor limit := by
  unfold padBlankPatternToPointLimit
  split
  · exact Or.inl rfl
  · rename_i last hlast
    split
    · exact Or.inl rfl
    · rename_i hpads
      refine Or.inr ⟨?_, ?_, last, rfl⟩
      · rintro rfl
        cases hlast
      · simp only [Bool.or_eq_true, decide_eq_true_eq, not_or] at hpads
        omega

/-! ## The blank tail -/

def blankTravelSpacing : F := 2.0 * 0.02

def minBlankTravelPointCount : ℕ := 2

def maxBlankTravelPointCount : ℕ := 128

/-- `static_cast<std::size_t>(std::ceil(a))`. -/
def ceilToSize (a : F) : ℕ := if lt (ofNat (toSize a)) a then toSize a + 1 else toSize a

def cubicEaseInOut (t : F) : F := FrameScheduler.cubicEaseInOut t

/-- How many points the dark run between two points takes. -/
def blankTravelPointCount (source target : LaserPoint F) : ℕ :=
  let dx := sanitizeSignedUnitValue target.x - sanitizeSignedUnitValue source.x
  let dy := sanitizeSignedUnitValue target.y - sanitizeSignedUnitValue source.y
  let distance := sqrt (dx * dx + dy * dy)
  let travelSegments := ceilToSize (distance / blankTravelSpacing)
  Nat.min maxBlankTravelPointCount (Nat.max (travelSegments + 1) minBlankTravelPointCount)

def appendBlankTravelPoints (output : List (LaserPoint F)) (source target : LaserPoint F)
    (pointCount : ℕ) : List (LaserPoint F) :=
  let dx := target.x - source.x
  let dy := target.y - source.y
  output ++ (List.range pointCount).map fun i =>
    let t : F := ofNat i / ofNat (Nat.max (pointCount - 1) 1)
    let eased := cubicEaseInOut t
    { source with
      x := source.x + dx * eased
      y := source.y + dy * eased
      r := 0.0
      g := 0.0
      b := 0.0
      i := 0.0 }

/-- The length of the tail depends on where it starts, and so on itself: the tail is adjusted until
it stays the same, for some rounds at most. -/
def adjustBlankTail (desiredBlankTailCount : ℕ → ℕ) : ℕ → ℕ → ℕ
  | 0, blankTailCount => blankTailCount
  | rounds + 1, blankTailCount =>
    if desiredBlankTailCount blankTailCount = blankTailCount then blankTailCount
    else adjustBlankTail desiredBlankTailCount rounds (desiredBlankTailCount blankTailCount)

theorem adjustBlankTail_le {desired : ℕ → ℕ} {bound : ℕ} (hdesired : ∀ n, desired n ≤ bound)
    (rounds : ℕ) {n : ℕ} (hn : n ≤ bound) : adjustBlankTail desired rounds n ≤ bound := by
  induction rounds generalizing n with
  | zero => exact hn
  | succ rounds ih =>
    rw [adjustBlankTail]
    split
    · exact hn
    · exact ih (hdesired n)

/-- The length of the blank tail of a pattern with too many points. -/
def fittedBlankTailCount (points : List (LaserPoint F)) (maximumPointCount : ℕ)
    (h : maximumPointCount < points.length) : ℕ :=
  let finalPoint := points.getLast (List.length_pos_iff.mp (by omega))
  let blankTailCount := fun lastVisiblePoint =>
    Nat.min (blankTravelPointCount lastVisiblePoint finalPoint) (maximumPointCount - 1)
  adjustBlankTail
    (fun tail => blankTailCount (points.get ⟨maximumPointCount - tail - 1, by omega⟩)) 8
    (blankTailCount (points.get ⟨maximumPointCount - 2, by omega⟩))

def fitCurrentPatternToPointLimit (points : List (LaserPoint F)) (maximumPointCount : ℕ) :
    List (LaserPoint F) :=
  if h : points.length ≤ maximumPointCount then points
  else if maximumPointCount = 0 then []
  else
    have hlt : maximumPointCount < points.length := by omega
    let finalPoint := points.getLast (List.length_pos_iff.mp (by omega))
    if maximumPointCount = 1 then [{ finalPoint.blank with i := 0.0 }]
    else
      let blankTailCount := fittedBlankTailCount points maximumPointCount hlt
      let visiblePointCount := maximumPointCount - blankTailCount
      appendBlankTravelPoints (points.take visiblePointCount)
        (points.get ⟨visiblePointCount - 1, by omega⟩) finalPoint blankTailCount

theorem length_appendBlankTravelPoints (output : List (LaserPoint F))
    (source target : LaserPoint F) (n : ℕ) :
    (appendBlankTravelPoints output source target n).length = output.length + n := by
  simp [appendBlankTravelPoints]

/-- The points of the run are dark. -/
theorem mem_appendBlankTravelPoints {output : List (LaserPoint F)} {source target p : LaserPoint F}
    {n : ℕ} (hp : p ∈ appendBlankTravelPoints output source target n) : p ∈ output ∨ p.Dark := by
  rcases List.mem_append.mp hp with hp | hp
  · exact Or.inl hp
  · obtain ⟨i, -, rfl⟩ := List.mem_map.mp hp
    exact Or.inr ⟨rfl, rfl, rfl⟩

theorem fittedBlankTailCount_le (points : List (LaserPoint F)) (maximum : ℕ)
    (h : maximum < points.length) : fittedBlankTailCount points maximum h ≤ maximum - 1 := by
  unfold fittedBlankTailCount
  refine adjustBlankTail_le (fun n => ?_) 8 ?_
  · exact Nat.min_le_right _ _
  · exact Nat.min_le_right _ _

/-- **A fitted pattern** has as many points as the limit allows. -/
theorem length_fitCurrentPatternToPointLimit (points : List (LaserPoint F)) (limit : ℕ) :
    (fitCurrentPatternToPointLimit points limit).length = Nat.min points.length limit := by
  unfold fitCurrentPatternToPointLimit
  split
  · rename_i h
    exact (Nat.min_eq_left h).symm
  · rename_i h
    have hmin : Nat.min points.length limit = limit := Nat.min_eq_right (by omega)
    rw [hmin]
    split
    · rename_i hzero
      exact hzero.symm
    · rename_i hpos
      dsimp only
      split
      · rename_i hone
        exact hone.symm
      · have hle := fittedBlankTailCount_le points limit (by omega)
        rw [length_appendBlankTravelPoints, List.length_take]
        omega

theorem mem_fitCurrentPatternToPointLimit {points : List (LaserPoint F)} {limit : ℕ}
    {p : LaserPoint F} (hp : p ∈ fitCurrentPatternToPointLimit points limit) :
    p ∈ points ∨ p.Dark := by
  unfold fitCurrentPatternToPointLimit at hp
  split at hp
  · exact Or.inl hp
  · split at hp
    · exact absurd hp List.not_mem_nil
    · dsimp only at hp
      split at hp
      · obtain rfl := List.mem_singleton.mp hp
        exact Or.inr ⟨rfl, rfl, rfl⟩
      · exact (mem_appendBlankTravelPoints hp).imp_left List.mem_of_mem_take

/-! ## The current pattern -/

/-- The pattern that is uploaded for the points of a frame. -/
def currentPattern (patternPointLimit : ℕ) (points : List (LaserPoint F)) :
    List (LaserPoint F) :=
  let pointsToSend := padBlankPatternToPointLimit points patternPointLimit
  if patternPointLimit < pointsToSend.length then
    padBlankPatternToPointLimit (fitCurrentPatternToPointLimit pointsToSend patternPointLimit)
      patternPointLimit
  else pointsToSend

theorem length_padBlankPatternToPointLimit_le {points : List (LaserPoint F)} {limit : ℕ}
    (h : points.length ≤ limit) : (padBlankPatternToPointLimit points limit).length ≤ limit := by
  rcases padBlankPatternToPointLimit_spec points limit with hsame | ⟨-, -, anchor, hblank⟩
  · rwa [hsame]
  · rw [hblank, makeBlankPatternAtPoint, List.length_replicate]

/-- **The pattern keeps to the limit.** -/
theorem length_currentPattern_le (limit : ℕ) (points : List (LaserPoint F)) :
    (currentPattern limit points).length ≤ limit := by
  unfold currentPattern
  dsimp only
  split
  · refine length_padBlankPatternToPointLimit_le ?_
    rw [length_fitCurrentPatternToPointLimit]
    exact Nat.min_le_right _ _
  · omega

theorem dim_padBlankPatternToPointLimit (hblack : BlackIsDim F) {points : List (LaserPoint F)}
    {limit : ℕ} (h : ∀ p ∈ points, Dim p) :
    ∀ p ∈ padBlankPatternToPointLimit points limit, Dim p := by
  rcases padBlankPatternToPointLimit_spec points limit with hsame | ⟨-, -, anchor, hblank⟩
  · rwa [hsame]
  · rw [hblank]
    exact fun p hp => dim_of_dark hblack (dark_makeBlankPatternAtPoint anchor limit p hp)

/-- **The pattern of a blank frame is blank.** -/
theorem patternPointsAreBlank_currentPattern (hblack : BlackIsDim F) {limit : ℕ}
    {points : List (LaserPoint F)} (h : ∀ p ∈ points, Dim p) :
    patternPointsAreBlank (currentPattern limit points) = true := by
  refine patternPointsAreBlank_iff.mpr ?_
  have hpadded : ∀ p ∈ padBlankPatternToPointLimit points limit, Dim p :=
    dim_padBlankPatternToPointLimit hblack h
  unfold currentPattern
  dsimp only
  split
  · refine dim_padBlankPatternToPointLimit hblack fun p hp => ?_
    rcases mem_fitCurrentPatternToPointLimit hp with hp | hdark
    · exact hpadded p hp
    · exact dim_of_dark hblack hdark
  · exact hpadded

end LightSpaceNet

end LiberaLaser
