import Mathlib.LinearAlgebra.Matrix.ToLinearEquiv
import Mathlib.LinearAlgebra.Matrix.NonsingularInverse
import Mathlib.Algebra.Order.BigOperators.Group.List
import Mathlib.Algebra.Order.Ring.Defs
import Mathlib.Tactic.LinearCombination
import Mathlib.Tactic.Ring

/-!
# Linear least squares

Points carry features, a vector each, and a value.  A vector of coefficients predicts
the value of a point by its dot product with the features.  The normal matrix is
regular exactly if no nonzero vector is orthogonal to the features of all points, and
then the solution of the normal equations is the unique vector with the smallest
sum of squared residuals.
-/

namespace Ssim.Library.LeastSquares

set_option linter.unusedSectionVars false

open Matrix

variable {P K ι : Type*} [Field K] [LinearOrder K] [IsStrictOrderedRing K] [Fintype ι]
  (features : P → ι → K) (value : P → K)

/-- The sums of the products of two features. -/
def normalMatrix (points : List P) : Matrix ι ι K :=
  .of fun i j => (points.map fun p => features p i * features p j).sum

/-- The sums of the products of a feature and the value. -/
def normalVector (points : List P) : ι → K :=
  fun i => (points.map fun p => features p i * value p).sum

/-- The sum of the squared residuals of a vector of coefficients. -/
def squaredResiduals (points : List P) (coefficients : ι → K) : K :=
  (points.map fun p => (value p - features p ⬝ᵥ coefficients) ^ 2).sum

/-- Only the zero vector is orthogonal to the features of all points. -/
def Independent (points : List P) : Prop :=
  ∀ vector : ι → K, (∀ p ∈ points, features p ⬝ᵥ vector = 0) → vector = 0

variable {features value} {points : List P}

theorem sum_sq_eq_zero {f : P → K} :
    (points.map fun p => f p ^ 2).sum = 0 ↔ ∀ p ∈ points, f p = 0 := by
  induction points with
  | nil => simp
  | cons p points ih =>
      have rest : 0 ≤ (points.map fun p => f p ^ 2).sum := by
        refine List.sum_nonneg fun x member => ?_
        obtain ⟨q, _, rfl⟩ := List.mem_map.mp member
        exact sq_nonneg (f q)
      rw [List.map_cons, List.sum_cons, add_eq_zero_iff_of_nonneg (sq_nonneg _) rest, ih,
        List.forall_mem_cons, sq_eq_zero_iff]

theorem normalMatrix_cons (p : P) :
    normalMatrix features (p :: points) =
      vecMulVec (features p) (features p) + normalMatrix features points := by
  ext i j
  simp [normalMatrix, vecMulVec_apply]

theorem normalMatrix_mulVec (vector : ι → K) :
    normalMatrix features points *ᵥ vector =
      (points.map fun p => (features p ⬝ᵥ vector) • features p).sum := by
  induction points with
  | nil =>
      ext i
      simp [normalMatrix, mulVec, dotProduct]
  | cons p points ih =>
      rw [normalMatrix_cons, add_mulVec, ih, List.map_cons, List.sum_cons]
      congr 1
      ext i
      simp only [mulVec, dotProduct, vecMulVec_apply, Pi.smul_apply, smul_eq_mul, Finset.sum_mul]
      exact Finset.sum_congr rfl fun j _ => by ring

theorem dotProduct_list_sum (vector : ι → K) (vectors : List (ι → K)) :
    vector ⬝ᵥ vectors.sum = (vectors.map (vector ⬝ᵥ ·)).sum := by
  induction vectors with
  | nil => simp
  | cons first rest ih => rw [List.sum_cons, dotProduct_add, ih, List.map_cons, List.sum_cons]

/-- The quadratic form of the normal matrix is a sum of squares. -/
theorem dotProduct_normalMatrix (vector : ι → K) :
    vector ⬝ᵥ normalMatrix features points *ᵥ vector =
      (points.map fun p => (features p ⬝ᵥ vector) ^ 2).sum := by
  rw [normalMatrix_mulVec, dotProduct_list_sum, List.map_map]
  congr 1
  refine List.map_congr_left fun p _ => ?_
  rw [Function.comp_apply, dotProduct_smul, dotProduct_comm, smul_eq_mul, sq]

/-- The normal matrix kills exactly the vectors orthogonal to all features. -/
theorem normalMatrix_mulVec_eq_zero {vector : ι → K} :
    normalMatrix features points *ᵥ vector = 0 ↔ ∀ p ∈ points, features p ⬝ᵥ vector = 0 := by
  constructor
  · intro killed
    have squares := @dotProduct_normalMatrix P K ι _ _ _ _ features points vector
    rw [killed, dotProduct_zero] at squares
    exact sum_sq_eq_zero.mp squares.symm
  · intro orthogonal
    rw [normalMatrix_mulVec]
    refine List.sum_eq_zero fun x member => ?_
    obtain ⟨p, here, rfl⟩ := List.mem_map.mp member
    rw [orthogonal p here, zero_smul]

theorem det_normalMatrix_ne_zero [DecidableEq ι] :
    (normalMatrix features points).det ≠ 0 ↔ Independent features points := by
  rw [Ne, ← exists_mulVec_eq_zero_iff]
  constructor
  · intro regular vector orthogonal
    by_contra nonzero
    exact regular ⟨vector, nonzero, normalMatrix_mulVec_eq_zero.mpr orthogonal⟩
  · rintro independent ⟨vector, nonzero, killed⟩
    exact nonzero (independent vector (normalMatrix_mulVec_eq_zero.mp killed))

theorem normalVector_eq :
    normalVector features value points =
      (points.map fun p => value p • features p).sum := by
  induction points with
  | nil =>
      ext i
      simp [normalVector]
  | cons p points ih =>
      rw [List.map_cons, List.sum_cons, ← ih]
      ext i
      simp [normalVector, mul_comm]

/-- The residuals of a solution of the normal equations are orthogonal to all predictions. -/
theorem residuals_orthogonal {solution : ι → K}
    (solves : normalMatrix features points *ᵥ solution = normalVector features value points)
    (vector : ι → K) :
    (points.map fun p =>
      (value p - features p ⬝ᵥ solution) * (features p ⬝ᵥ vector)).sum = 0 := by
  have predicted : vector ⬝ᵥ normalMatrix features points *ᵥ solution =
      (points.map fun p => (features p ⬝ᵥ solution) * (features p ⬝ᵥ vector)).sum := by
    rw [normalMatrix_mulVec, dotProduct_list_sum, List.map_map]
    congr 1
    refine List.map_congr_left fun p _ => ?_
    rw [Function.comp_apply, dotProduct_smul, dotProduct_comm vector, smul_eq_mul]
  have measured : vector ⬝ᵥ normalVector features value points =
      (points.map fun p => value p * (features p ⬝ᵥ vector)).sum := by
    rw [normalVector_eq, dotProduct_list_sum, List.map_map]
    congr 1
    refine List.map_congr_left fun p _ => ?_
    rw [Function.comp_apply, dotProduct_smul, dotProduct_comm vector, smul_eq_mul]
  have split : (points.map fun p => value p * (features p ⬝ᵥ vector)).sum =
      (points.map fun p =>
        (value p - features p ⬝ᵥ solution) * (features p ⬝ᵥ vector)).sum +
      (points.map fun p => (features p ⬝ᵥ solution) * (features p ⬝ᵥ vector)).sum := by
    rw [← List.sum_map_add]
    congr 1
    refine List.map_congr_left fun p _ => ?_
    ring
  rw [← measured, ← predicted, solves] at split
  exact right_eq_add.mp split

theorem squaredResiduals_eq {solution : ι → K}
    (solves : normalMatrix features points *ᵥ solution = normalVector features value points)
    (coefficients : ι → K) :
    squaredResiduals features value points coefficients =
      squaredResiduals features value points solution +
        (points.map fun p => (features p ⬝ᵥ (coefficients - solution)) ^ 2).sum := by
  have cross := residuals_orthogonal solves (coefficients - solution)
  have pointwise : ∀ p, (value p - features p ⬝ᵥ coefficients) ^ 2 =
      (value p - features p ⬝ᵥ solution) ^ 2 +
        (features p ⬝ᵥ (coefficients - solution)) ^ 2 +
        -2 * ((value p - features p ⬝ᵥ solution) *
          (features p ⬝ᵥ (coefficients - solution))) := by
    intro p
    rw [dotProduct_sub]
    ring
  simp only [squaredResiduals, pointwise, List.sum_map_add, List.sum_map_mul_left, cross,
    mul_zero, add_zero]

/-- The solution of the normal equations is the unique minimiser. -/
theorem unique_minimiser {solution : ι → K}
    (solves : normalMatrix features points *ᵥ solution = normalVector features value points)
    (independent : Independent features points) (coefficients : ι → K) :
    squaredResiduals features value points solution ≤
        squaredResiduals features value points coefficients ∧
      (squaredResiduals features value points coefficients =
        squaredResiduals features value points solution → coefficients = solution) := by
  have split := squaredResiduals_eq solves coefficients
  constructor
  · rw [split]
    refine le_add_of_nonneg_right (List.sum_nonneg fun x member => ?_)
    obtain ⟨p, _, rfl⟩ := List.mem_map.mp member
    exact sq_nonneg _
  · intro same
    rw [split, add_eq_left] at same
    exact sub_eq_zero.mp (independent _ (sum_sq_eq_zero.mp same))

/-- The inverse of a regular normal matrix is positive on the diagonal. -/
theorem normalMatrix_inv_pos [DecidableEq ι] (independent : Independent features points)
    (i : ι) : 0 < (normalMatrix features points)⁻¹ i i := by
  have regular : IsUnit (normalMatrix features points).det :=
    (det_normalMatrix_ne_zero.mpr independent).isUnit
  have image : normalMatrix features points *ᵥ (normalMatrix features points)⁻¹.col i =
      Pi.single i 1 := by
    rw [← mulVec_single_one, mulVec_mulVec, mul_nonsing_inv _ regular, one_mulVec]
  have form := @dotProduct_normalMatrix P K ι _ _ _ _ features points
    ((normalMatrix features points)⁻¹.col i)
  rw [image, dotProduct_single_one, col_apply] at form
  have nonneg : 0 ≤ (normalMatrix features points)⁻¹ i i := by
    rw [form]
    refine List.sum_nonneg fun x member => ?_
    obtain ⟨p, _, rfl⟩ := List.mem_map.mp member
    exact sq_nonneg _
  refine lt_of_le_of_ne nonneg fun zero => ?_
  -- a diagonal entry that vanishes makes its column orthogonal to all features
  rw [← zero] at form
  rw [independent _ (sum_sq_eq_zero.mp form.symm), mulVec_zero] at image
  exact zero_ne_one ((congrFun image i).trans (Pi.single_eq_same i 1))

end Ssim.Library.LeastSquares
