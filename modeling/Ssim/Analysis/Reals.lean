import Ssim.Analysis.WaferMap
import Mathlib.Analysis.SpecialFunctions.Complex.Arg
import Mathlib.Analysis.Real.Sqrt

/-!
# Exact arithmetic over the reals

The library functions as functions of real numbers.  Every real number is a finite
number; the height of a cell outside the wafer stands for nothing.
-/

namespace Ssim.Analysis

noncomputable instance : Elementary ℝ where
  sqrt := Real.sqrt
  isnan _ := false
  isfinite _ := true

noncomputable instance : Geometry ℝ where
  pi := Real.pi
  hypot x y := √(x ^ 2 + y ^ 2)
  atan2 y x := Complex.arg ⟨x, y⟩
  ceil := Int.ceil
  nan := 0

end Ssim.Analysis
