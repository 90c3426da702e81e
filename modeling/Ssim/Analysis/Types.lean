import Mathlib.Data.List.MinMax
import Mathlib.Algebra.Order.Field.Basic
import Mathlib.Data.Rat.Cast.OfScientific

/-!
# Data of the analysis

The shapes that flow between the stages of the pipeline.  The numbers are of any
type with the operations that the stages use and no laws, so that the definitions
hold for doubles as they do for rational or real numbers.  Laws are assumed only by
the theorems that speak of exact arithmetic.
-/

namespace Ssim.Analysis

/-- The library functions that the stages call on numbers. -/
class Elementary (R : Type) where
  sqrt : R → R
  isnan : R → Bool
  isfinite : R → Bool

section Functions

variable {R : Type} [LT R] [DecidableLT R]

/-- `std::abs`. -/
def absolute [Zero R] [Neg R] (x : R) : R :=
  if x < 0 then -x else x

/-- `std::min`: the first argument unless the second is smaller. -/
def smaller (x y : R) : R :=
  if y < x then y else x

/-- `std::max`: the first argument unless it is smaller than the second. -/
def larger (x y : R) : R :=
  if x < y then y else x

/-- `std::lower_bound` of a sorted vector, as an index: how many values are below. -/
def lowerBound (values : List R) (value : R) : Nat :=
  (values.takeWhile (· < value)).length

/-- `std::upper_bound` of a sorted vector, as an index: how many values are not above. -/
def upperBound (values : List R) (value : R) : Nat :=
  (values.takeWhile fun other => !decide (value < other)).length

end Functions

/-- One line's raw scan data.  A height that is not a number marks a dropped sample. -/
structure LineSamples (R : Type) where
  angleRad : R
  sM : List R
  zM : List R

inductive SampleFlag where
  | kept
  | edgeExcluded
  | outlier
  | dropped
  deriving Repr, DecidableEq

structure FilteredSample (R : Type) where
  sM : R
  zM : R
  flag : SampleFlag
  deriving Repr, DecidableEq

structure FilterResult (R : Type) where
  angleRad : R
  /-- Every input sample, each tagged. -/
  samples : List (FilteredSample R)
  removedCount : Nat
  removedFraction : R
  deriving Repr, DecidableEq

structure LineFitResult (R : Type) where
  angleRad : R
  a : R
  b : R
  c : R
  curvaturePerM : R
  seCurvaturePerM : R
  residualRmsM : R
  nUsed : Nat
  valid : Bool
  deriving Repr, DecidableEq

/-- How many samples are not kept. -/
def countRemoved {R : Type} (samples : List (FilteredSample R)) : Nat :=
  samples.countP (·.flag ≠ .kept)

end Ssim.Analysis
