import Mathlib.Algebra.Ring.Nat
import Mathlib.Data.Rat.Defs
import Mathlib.Data.Nat.Sqrt

/-!
# Laser points and the arithmetic they are computed with

The core computes with `float` coordinates and colours and with `double` durations. `FloatArith`
lists the operations it uses of such a type and assumes no law of them, so that whatever is
proved over an arbitrary `FloatArith` holds of the rounded arithmetic of the hardware, infinities
and NaNs included. The exact instance on `ℚ` lets the definitions be evaluated.
-/

namespace LiberaLaser

/-- The operations of a C++ floating type used by the core. -/
class FloatArith (F : Type) extends Add F, Sub F, Mul F, Div F, Neg F, OfScientific F where
  /-- The operator `<`. -/
  lt : F → F → Bool
  /-- The operator `<=`. -/
  le : F → F → Bool
  sqrt : F → F
  isFinite : F → Bool
  /-- `static_cast` from an unsigned integer. -/
  ofNat : ℕ → F
  /-- `static_cast` to a signed integer. -/
  trunc : F → ℤ
  /-- `std::llround`. -/
  llround : F → ℤ

namespace FloatArith

variable {F : Type} [FloatArith F]

/-- `static_cast<std::size_t>`. -/
def toSize (a : F) : ℕ := (trunc a).toNat

/-- `std::max`. -/
def max (a b : F) : F := if lt a b then b else a

/-- `std::clamp`. -/
def clamp (a lo hi : F) : F := if lt a lo then lo else if lt hi a then hi else a

/-- `std::abs`. -/
def abs (a : F) : F := if lt a 0.0 then -a else a

/-- Exact rational arithmetic. The square root is exact on squares. -/
instance : FloatArith ℚ where
  lt a b := decide (a < b)
  le a b := decide (a ≤ b)
  sqrt a := mkRat (Nat.sqrt a.num.toNat) (Nat.sqrt a.den)
  isFinite _ := true
  ofNat n := n
  trunc a := a.num.tdiv a.den
  llround a := if 0 ≤ a then (a + 1 / 2).floor else -(1 / 2 - a).floor

end FloatArith

open FloatArith

/-- A single point to be sent to a laser controller. -/
structure LaserPoint (F : Type) where
  x : F
  y : F
  r : F
  g : F
  b : F
  i : F
  u1 : F
  u2 : F
  deriving DecidableEq

namespace LaserPoint

variable {F : Type} [FloatArith F]

/-- `LaserPoint{}`: dark, at the centre, with full legacy intensity. -/
instance : Inhabited (LaserPoint F) :=
  ⟨{ x := 0.0, y := 0.0, r := 0.0, g := 0.0, b := 0.0, i := 1.0, u1 := 0.0, u2 := 0.0 }⟩

/-- A point whose three colour channels are zero. -/
def Dark (p : LaserPoint F) : Prop := p.r = 0.0 ∧ p.g = 0.0 ∧ p.b = 0.0

/-- A point with light in some colour channel. -/
def Lit (p : LaserPoint F) : Prop := ¬ p.Dark

instance [DecidableEq F] (p : LaserPoint F) : Decidable p.Dark :=
  inferInstanceAs (Decidable (_ ∧ _ ∧ _))

instance [DecidableEq F] (p : LaserPoint F) : Decidable p.Lit := inferInstanceAs (Decidable (¬ _))

@[simp] theorem dark_default : (default : LaserPoint F).Dark := ⟨rfl, rfl, rfl⟩

/-- The assignment of black to the colour channels. -/
def blank (p : LaserPoint F) : LaserPoint F := { p with r := 0.0, g := 0.0, b := 0.0 }

@[simp] theorem dark_blank (p : LaserPoint F) : p.blank.Dark := ⟨rfl, rfl, rfl⟩

/-- The assignment of the colour channels of another point. -/
def withColourOf (p c : LaserPoint F) : LaserPoint F := { p with r := c.r, g := c.g, b := c.b }

@[simp] theorem dark_withColourOf {p c : LaserPoint F} : (p.withColourOf c).Dark ↔ c.Dark := Iff.rfl

end LaserPoint

/-! ## Sanitising -/

section Sanitize

variable {F : Type} [FloatArith F]

/-- A value in the signed unit range. -/
def sanitizeSignedUnitValue (value : F) : F :=
  if !isFinite value then 0.0 else clamp value (-1.0) 1.0

/-- A value in the unit range. -/
def sanitizeUnitValue (value : F) : F :=
  if !isFinite value then 0.0 else clamp value 0.0 1.0

/-- Non-finite values become zero. -/
def sanitizeFiniteValue (value : F) : F := if isFinite value then value else 0.0

/-- A point with a non-finite position is moved to the centre and blanked; otherwise only its
non-finite channels are cleared. -/
def sanitizeLaserPoint (point : LaserPoint F) : LaserPoint F :=
  if !isFinite point.x || !isFinite point.y then
    { x := 0.0, y := 0.0, r := 0.0, g := 0.0, b := 0.0, i := 0.0, u1 := 0.0, u2 := 0.0 }
  else
    { point with
      r := sanitizeFiniteValue point.r
      g := sanitizeFiniteValue point.g
      b := sanitizeFiniteValue point.b
      i := sanitizeFiniteValue point.i
      u1 := sanitizeFiniteValue point.u1
      u2 := sanitizeFiniteValue point.u2 }

def sanitizeLaserPoints (points : List (LaserPoint F)) : List (LaserPoint F) :=
  points.map sanitizeLaserPoint

@[simp] theorem length_sanitizeLaserPoints (points : List (LaserPoint F)) :
    (sanitizeLaserPoints points).length = points.length := List.length_map _

end Sanitize

/-- A point together with a stamp saying where it comes from. The source's buffers hold bare
points; the stamp is a history variable, written where a point enters a buffer and read by no
definition that models source code. -/
structure Stamped (τ F : Type) where
  stamp : τ
  point : LaserPoint F
  deriving DecidableEq

/-- `steady_clock` instants, in ticks since the epoch; `time_point{}` is `0`. -/
abbrev TimePoint := ℤ

/-- `steady_clock` durations, in ticks. -/
abbrev Duration := ℤ

/-- A request for points, as the point-ingester backends make it. -/
structure PointFillRequest where
  minimumPointsRequired : ℕ := 0
  maximumPointsRequired : ℕ := 0
  estimatedFirstPointRenderTime : TimePoint := 0
  currentPointIndex : ℕ := 0
  allowShortRead : Bool := false
  deriving DecidableEq

end LiberaLaser
