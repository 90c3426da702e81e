import Ssim.Analysis.Types

/-!
# The wafer map

A grid of heights over the wafer.  Every fit gives two rays from the centre, one at its
angle and one at the opposite angle.  A cell inside the wafer gets a height between the
heights of the rays on either side of it.
-/

namespace Ssim.Analysis

/-- The constant `kPi` and the library functions that the map needs. -/
class Geometry (R : Type) where
  pi : R
  hypot : R → R → R
  atan2 : R → R → R
  ceil : R → Int
  /-- The height of the cells outside the wafer. -/
  nan : R

structure DirectedRay (R : Type) where
  angleRad : R
  a : R
  /-- The sign of the direction is in `b`. -/
  b : R
  c : R
  deriving Repr, DecidableEq

structure WaferMap (R : Type) where
  width : Int
  height : Int
  gridMm : R
  diameterM : R
  /-- Row after row. -/
  heightsM : List R
  deriving Repr, DecidableEq

section Map

variable {R : Type} [Zero R] [Add R] [Sub R] [Mul R] [Div R] [Neg R] [OfScientific R] [IntCast R]
  [LT R] [DecidableLT R] [LE R] [DecidableLE R] [Geometry R]

/-- A loop whose body ran this often over doubles does not change its variable any more. -/
def turnLimit : Nat := 2 ^ 64

/-- `while (theta < 0.0) theta += 2.0 * kPi`. -/
def raiseAngle : Nat → R → R
  | 0, theta => theta
  | turns + 1, theta =>
      if theta < 0 then raiseAngle turns (theta + 2.0 * Geometry.pi) else theta

/-- `while (theta >= 2.0 * kPi) theta -= 2.0 * kPi`. -/
def lowerAngle : Nat → R → R
  | 0, theta => theta
  | turns + 1, theta =>
      if 2.0 * Geometry.pi ≤ theta then lowerAngle turns (theta - 2.0 * Geometry.pi) else theta

def normalizeAngle (theta : R) : R :=
  lowerAngle turnLimit (raiseAngle turnLimit theta)

def evalRay (ray : DirectedRay R) (rM : R) : R :=
  ray.a * rM * rM + ray.b * rM + ray.c

/-- The two rays of every valid fit. -/
def directedRays (fits : List (LineFitResult R)) : List (DirectedRay R) :=
  (fits.filter (·.valid)).flatMap fun fit =>
    [⟨normalizeAngle fit.angleRad, fit.a, fit.b, fit.c⟩,
      ⟨normalizeAngle (fit.angleRad + Geometry.pi), fit.a, -fit.b, fit.c⟩]

/-- By angle. -/
def sortRays (rays : List (DirectedRay R)) : List (DirectedRay R) :=
  rays.mergeSort fun x y => !decide (y.angleRad < x.angleRad)

/-- The height at `rM` and `theta`, between two of the sorted rays. -/
def interpolateRays (first : DirectedRay R) (rays : List (DirectedRay R)) (rM theta : R) : R :=
  let hiIdx := (rays.takeWhile (·.angleRad < theta)).length
  let loIdx := if hiIdx = 0 then rays.length - 1 else hiIdx - 1
  let lo := rays.getD loIdx first
  let hi := rays.getD (hiIdx % rays.length) first
  let span := hi.angleRad - lo.angleRad
  let offset := theta - lo.angleRad
  let span := if hiIdx = rays.length then span + 2.0 * Geometry.pi else span
  let offset := if offset < 0 then offset + 2.0 * Geometry.pi else offset
  let frac := if 0 < span then offset / span else 0
  let zLo := evalRay lo rM
  let zHi := evalRay hi rM
  zLo + frac * (zHi - zLo)

/-- The cell in column `i` and row `j`. -/
def cellHeight (rays : List (DirectedRay R)) (radiusMm gridMm : R) (halfN : Int) (j i : Nat) : R :=
  match rays with
  | [] => Geometry.nan
  | first :: _ =>
      let yMm := ((j - halfN : Int) : R) * gridMm
      let xMm := ((i - halfN : Int) : R) * gridMm
      let rMm := Geometry.hypot xMm yMm
      if radiusMm < rMm then
        Geometry.nan
      else
        let rM := rMm / 1000.0
        let theta := normalizeAngle (Geometry.atan2 yMm xMm)
        interpolateRays first rays rM theta

def buildWaferMap (fits : List (LineFitResult R)) (diameterM gridMm : R) : WaferMap R :=
  let radiusMm := diameterM * 1000.0 / 2.0
  let halfN := Geometry.ceil (radiusMm / gridMm)
  let width := 2 * halfN + 1
  let rays := sortRays (directedRays fits)
  { width := width
    height := width
    gridMm := gridMm
    diameterM := diameterM
    heightsM :=
      (List.range width.toNat).flatMap fun j =>
        (List.range width.toNat).map fun i => cellHeight rays radiusMm gridMm halfN j i }

end Map

end Ssim.Analysis
