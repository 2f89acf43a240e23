import LiberaLaser.Backends.LightSpaceNet.Pattern
import LiberaLaser.Core.ExactArith

/-!
# Fitting a pattern to a point limit

A pattern with too many points keeps a prefix, and a dark run of points leads from its last point to
where the pattern ends. The run is interpolated from its first point to its last, so that a run of
one point stays where it starts. There is such a run where the limit is two
(`fitCurrentPatternToPointLimit_fits_iff`).
-/

namespace LiberaLaser.LightSpaceNet

open FloatArith

variable {F : Type} [FloatArith F]

/-- Within the limit a pattern is the same. Beyond it, as many points as the limit allows keep a
prefix, are dark from there on, and end where the pattern ends. -/
structure FitsLimit (points : List (LaserPoint F)) (limit : ℕ) (fitted : List (LaserPoint F)) :
    Prop where
  same : points.length ≤ limit → fitted = points
  full : limit < points.length → fitted.length = limit
  dark : limit < points.length → ∃ n < limit, fitted.take n = points.take n ∧
    ∀ p ∈ fitted.drop n, p.Dark ∧ p.i = 0.0
  reaches : limit < points.length → ∃ final ∈ points.getLast?, ∃ p ∈ fitted.getLast?,
    p.Dark ∧ p.i = 0.0 ∧ p.x = final.x ∧ p.y = final.y

/-! ## The length of the tail -/

theorem le_adjustBlankTail {desired : ℕ → ℕ} {bound : ℕ} (hdesired : ∀ n, bound ≤ desired n)
    (rounds : ℕ) {n : ℕ} (hn : bound ≤ n) : bound ≤ adjustBlankTail desired rounds n := by
  induction rounds generalizing n with
  | zero => exact hn
  | succ rounds ih =>
    rw [adjustBlankTail]
    split
    · exact hn
    · exact ih (hdesired n)

theorem two_le_blankTravelPointCount (source target : LaserPoint F) :
    2 ≤ blankTravelPointCount source target := by
  simp only [blankTravelPointCount, maxBlankTravelPointCount, minBlankTravelPointCount,
    Nat.min_def, Nat.max_def]
  split_ifs
  all_goals omega

/-- The tail has two points where the limit leaves room for them. -/
theorem le_fittedBlankTailCount (points : List (LaserPoint F)) (maximum : ℕ)
    (h : maximum < points.length) :
    min 2 (maximum - 1) ≤ fittedBlankTailCount points maximum h := by
  have hcount (p target : LaserPoint F) :
      min 2 (maximum - 1) ≤ Nat.min (blankTravelPointCount p target) (maximum - 1) :=
    min_le_min_right _ (two_le_blankTravelPointCount p target)
  unfold fittedBlankTailCount
  exact le_adjustBlankTail (fun _ => hcount _ _) 8 (hcount _ _)

/-! ## The tail -/

/-- A point of the dark run. -/
def blankTravelPoint (source target : LaserPoint F) (n i : ℕ) : LaserPoint F :=
  let eased := cubicEaseInOut (ofNat i / ofNat (Nat.max (n - 1) 1) : F)
  { source with
    x := source.x + (target.x - source.x) * eased
    y := source.y + (target.y - source.y) * eased
    r := 0.0
    g := 0.0
    b := 0.0
    i := 0.0 }

theorem appendBlankTravelPoints_eq (output : List (LaserPoint F)) (source target : LaserPoint F)
    (n : ℕ) : appendBlankTravelPoints output source target n =
      output ++ (List.range n).map (blankTravelPoint source target n) :=
  rfl

theorem getLast?_appendBlankTravelPoints (output : List (LaserPoint F))
    (source target : LaserPoint F) (n : ℕ) :
    (appendBlankTravelPoints output source target (n + 1)).getLast? =
      some (blankTravelPoint source target (n + 1) n) := by
  rw [appendBlankTravelPoints_eq, List.range_succ, List.map_append, List.map_singleton,
    ← List.append_assoc, List.getLast?_concat]

section Exact

variable {K : Type} [Field K] [LinearOrder K] [IsStrictOrderedRing K]

/-- A run of one point stays where it starts. -/
theorem blankTravelPoint_one (arith : ExactArith F K) (source target : LaserPoint F) :
    (blankTravelPoint source target 1 0).x = source.x ∧
      (blankTravelPoint source target 1 0).y = source.y := by
  have ht : arith.val (ofNat 0 / ofNat (Nat.max (1 - 1) 1) : F) = 0 := by
    rw [arith.val_div, arith.val_ofNat, Nat.cast_zero, zero_div]
  have heased := arith.val_cubicEaseInOut_zero ht
  constructor
  · apply arith.injective
    simp only [blankTravelPoint, cubicEaseInOut, arith.val_add, arith.val_mul, heased, mul_zero,
      add_zero]
  · apply arith.injective
    simp only [blankTravelPoint, cubicEaseInOut, arith.val_add, arith.val_mul, heased, mul_zero,
      add_zero]

/-- A longer run reaches its end. -/
theorem blankTravelPoint_last (arith : ExactArith F K) (source target : LaserPoint F) {n : ℕ}
    (hn : 0 < n) : (blankTravelPoint source target (n + 1) n).x = target.x ∧
      (blankTravelPoint source target (n + 1) n).y = target.y := by
  have hmax : Nat.max (n + 1 - 1) 1 = n := Nat.max_eq_left hn
  have hne : (n : K) ≠ 0 := Nat.cast_ne_zero.mpr (Nat.pos_iff_ne_zero.mp hn)
  have ht : arith.val (ofNat n / ofNat (Nat.max (n + 1 - 1) 1) : F) = 1 := by
    rw [hmax, arith.val_div, arith.val_ofNat, div_self hne]
  have heased := arith.val_cubicEaseInOut_one ht
  constructor
  · apply arith.injective
    simp only [blankTravelPoint, cubicEaseInOut, arith.val_add, arith.val_mul, arith.val_sub,
      heased, mul_one, add_sub_cancel]
  · apply arith.injective
    simp only [blankTravelPoint, cubicEaseInOut, arith.val_add, arith.val_mul, arith.val_sub,
      heased, mul_one, add_sub_cancel]

end Exact

/-! ## Fitted patterns -/

variable {points : List (LaserPoint F)} {limit : ℕ}

/-- A pattern that is fitted by a prefix and a dark run. -/
theorem fitCurrentPatternToPointLimit_eq (hlimit : 2 ≤ limit) (h : limit < points.length) :
    ∃ visible tail, ∃ source ∈ points[visible]?, ∃ final ∈ points.getLast?,
      visible + 1 + (tail + 1) = limit ∧ (tail = 0 ↔ limit = 2) ∧
      fitCurrentPatternToPointLimit points limit =
        appendBlankTravelPoints (points.take (visible + 1)) source final (tail + 1) := by
  have hle := fittedBlankTailCount_le points limit h
  have hge := le_fittedBlankTailCount points limit h
  obtain ⟨tail, htail⟩ : ∃ tail, fittedBlankTailCount points limit h = tail + 1 :=
    Nat.exists_eq_succ_of_ne_zero (by omega)
  have hvisible : limit - (tail + 1) - 1 < points.length := by omega
  have hne : points ≠ [] := List.length_pos_iff.mp (by omega)
  refine ⟨limit - (tail + 1) - 1, tail, _, List.getElem?_eq_getElem hvisible, _,
    List.getLast?_eq_some_getLast hne, by omega, by omega, ?_⟩
  · have hcount : limit - (tail + 1) - 1 + 1 = limit - (tail + 1) := by omega
    rw [fitCurrentPatternToPointLimit, dif_neg (by omega), if_neg (by omega)]
    simp only [htail, if_neg (show limit ≠ 1 by omega), hcount, List.get_eq_getElem]

theorem fitsLimit_single (h : 1 < points.length) :
    FitsLimit points 1 (fitCurrentPatternToPointLimit points 1) := by
  have hne : points ≠ [] := List.length_pos_iff.mp (by omega)
  have hfitted : fitCurrentPatternToPointLimit points 1 =
      [{ (points.getLast hne).blank with i := 0.0 }] := by
    rw [fitCurrentPatternToPointLimit, dif_neg (by omega), if_neg one_ne_zero, if_pos rfl]
  rw [hfitted]
  refine ⟨fun hle => absurd hle (by omega), fun _ => rfl, fun _ => ⟨0, zero_lt_one, rfl, ?_⟩,
    fun _ => ⟨_, List.getLast?_eq_some_getLast hne, _, rfl, ⟨rfl, rfl, rfl⟩, rfl, rfl, rfl⟩⟩
  intro p hp
  obtain rfl := List.mem_singleton.mp hp
  exact ⟨⟨rfl, rfl, rfl⟩, rfl⟩

theorem fitsLimit_append (hlong : limit < points.length) {visible tail : ℕ}
    {source final : LaserPoint F} (hsum : visible + 1 + (tail + 1) = limit)
    (hfinal : final ∈ points.getLast?)
    (hreaches : (blankTravelPoint source final (tail + 1) tail).x = final.x ∧
      (blankTravelPoint source final (tail + 1) tail).y = final.y) :
    FitsLimit points limit
      (appendBlankTravelPoints (points.take (visible + 1)) source final (tail + 1)) := by
  have hlength : (points.take (visible + 1)).length = visible + 1 :=
    List.length_take_of_le (by omega)
  refine ⟨fun hle => absurd hle (by omega), fun _ => ?_, fun _ => ⟨visible + 1, by omega, ?_, ?_⟩,
    fun _ => ⟨final, hfinal, _, getLast?_appendBlankTravelPoints _ _ _ _, ⟨rfl, rfl, rfl⟩, rfl,
      hreaches⟩⟩
  · rw [length_appendBlankTravelPoints, hlength, hsum]
  · rw [appendBlankTravelPoints_eq, List.take_left' hlength]
  · intro p hp
    rw [appendBlankTravelPoints_eq, List.drop_left' hlength] at hp
    obtain ⟨i, -, rfl⟩ := List.mem_map.mp hp
    exact ⟨⟨rfl, rfl, rfl⟩, rfl⟩

/-- **When a fitted pattern ends where it should**: exactly when the limit is not two, or there are
no more than two points, or the first point is where the last one is. -/
theorem fitCurrentPatternToPointLimit_fits_iff {K : Type} [Field K] [LinearOrder K]
    [IsStrictOrderedRing K] (arith : ExactArith F K) (points : List (LaserPoint F)) {limit : ℕ}
    (hlimit : 1 ≤ limit) :
    FitsLimit points limit (fitCurrentPatternToPointLimit points limit) ↔
      (limit = 2 → 2 < points.length → ∀ first ∈ points.head?, ∀ final ∈ points.getLast?,
        first.x = final.x ∧ first.y = final.y) := by
  constructor
  · intro hfits htwo hlong first hfirst final hfinal
    have hlt : limit < points.length := by omega
    obtain ⟨visible, tail, source, hsource, target, htarget, hsum, htail, heq⟩ :=
      fitCurrentPatternToPointLimit_eq (by omega) hlt
    obtain rfl : tail = 0 := htail.mpr htwo
    obtain rfl : visible = 0 := by omega
    obtain ⟨final', hfinal', p, hp, -, -, hx, hy⟩ := hfits.reaches hlt
    rw [heq, getLast?_appendBlankTravelPoints, Option.mem_some_iff] at hp
    obtain rfl := Option.mem_unique hfinal' hfinal
    obtain rfl : source = first := by
      rw [List.head?_eq_getElem?] at hfirst
      exact Option.mem_unique hsource hfirst
    obtain ⟨hx', hy'⟩ := blankTravelPoint_one arith source target
    rw [hp] at hx' hy'
    exact ⟨hx'.symm.trans hx, hy'.symm.trans hy⟩
  · intro hsame
    by_cases hlong : limit < points.length
    · obtain rfl | htwo : limit = 1 ∨ 2 ≤ limit := by omega
      · exact fitsLimit_single hlong
      obtain ⟨visible, tail, source, hsource, final, hfinal, hsum, htail, heq⟩ :=
        fitCurrentPatternToPointLimit_eq htwo hlong
      rw [heq]
      refine fitsLimit_append hlong hsum hfinal ?_
      by_cases hzero : tail = 0
      · obtain rfl := hzero
        have hlimit2 := htail.mp rfl
        obtain rfl : visible = 0 := by omega
        have hfirst : source ∈ points.head? := by
          rw [List.head?_eq_getElem?]
          exact hsource
        obtain ⟨hx, hy⟩ := hsame hlimit2 (by omega) source hfirst final hfinal
        obtain ⟨hx', hy'⟩ := blankTravelPoint_one arith source final
        exact ⟨hx'.trans hx, hy'.trans hy⟩
      · exact blankTravelPoint_last arith source final (Nat.pos_of_ne_zero hzero)
    · have hle := Nat.not_lt.mp hlong
      exact ⟨fun _ => dif_pos hle, fun h => absurd h hlong, fun h => absurd h hlong,
        fun h => absurd h hlong⟩

/-! ## A short line -/

def lineEnd (position : ℚ) : LaserPoint ℚ := { (default : LaserPoint ℚ) with x := position, r := 1 }

/-- With a limit of three a line is fitted. -/
theorem line_fits_three : FitsLimit [lineEnd 0, lineEnd (1 / 3), lineEnd (2 / 3), lineEnd 1] 3
    (fitCurrentPatternToPointLimit
      [lineEnd 0, lineEnd (1 / 3), lineEnd (2 / 3), lineEnd 1] 3) :=
  (fitCurrentPatternToPointLimit_fits_iff ExactArith.rat _ (by decide)).mpr nofun

/-- With a limit of two it ends where it starts. -/
theorem line_stays_at_start :
    fitCurrentPatternToPointLimit [lineEnd 0, lineEnd (1 / 2), lineEnd 1] 2 =
      [lineEnd 0, { lineEnd 0 with r := 0, i := 0 }] ∧
    ¬FitsLimit [lineEnd 0, lineEnd (1 / 2), lineEnd 1] 2
      (fitCurrentPatternToPointLimit [lineEnd 0, lineEnd (1 / 2), lineEnd 1] 2) := by
  have hfitted : fitCurrentPatternToPointLimit [lineEnd 0, lineEnd (1 / 2), lineEnd 1] 2 =
      [lineEnd 0, { lineEnd 0 with r := 0, i := 0 }] := by decide +kernel
  refine ⟨hfitted, fun h => ?_⟩
  rw [hfitted] at h
  obtain ⟨final, hfinal, p, hp, -, -, hx, -⟩ := h.reaches (by decide)
  obtain rfl := Option.mem_some_iff.mp hfinal
  obtain rfl := Option.mem_some_iff.mp hp
  exact absurd hx (by decide +kernel)

end LiberaLaser.LightSpaceNet
