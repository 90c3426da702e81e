import Ssim.Analysis.Types
import Ssim.Library.LeastSquares
import Mathlib.Data.Finset.Card
import Mathlib.Data.Rat.Sqrt
import Mathlib.Algebra.Order.Ring.Rat
import Mathlib.LinearAlgebra.Matrix.Notation
import Mathlib.Tactic.NormNum.OfScientific

/-!
# The fit of a line

A parabola through the kept samples of a line, by Cramer's rule on the normal
equations of the power sums.  In exact arithmetic the fit is the least-squares
parabola: it exists exactly for three distinct positions, and what was filtered out
has no part in it.
-/

namespace Ssim.Analysis

open Library Matrix

section Fit

variable {R : Type} [Zero R] [Add R] [Sub R] [Mul R] [Div R]

def det3 (m : Nat → Nat → R) : R :=
  m 0 0 * (m 1 1 * m 2 2 - m 1 2 * m 2 1) -
    m 0 1 * (m 1 0 * m 2 2 - m 1 2 * m 2 0) +
    m 0 2 * (m 1 0 * m 2 1 - m 1 1 * m 2 0)

/-- Cramer's rule: column `col` of `m` is replaced by `rhs`. -/
def cramerSolve (m : Nat → Nat → R) (rhs : Nat → R) (col : Nat) (detM : R) : R :=
  det3 (fun r c => if c = col then rhs r else m r c) / detM

/-- The sums of the powers of the positions and of their products with the heights. -/
structure PowerSums (R : Type) where
  s0 : R
  s1 : R
  s2 : R
  s3 : R
  s4 : R
  t0 : R
  t1 : R
  t2 : R
  n : Nat

namespace PowerSums

def empty : PowerSums R :=
  ⟨0, 0, 0, 0, 0, 0, 0, 0, 0⟩

def addSample [OfScientific R] (sums : PowerSums R) (sample : FilteredSample R) : PowerSums R :=
  if sample.flag ≠ .kept then
    sums
  else
    let s := sample.sM
    let z := sample.zM
    let sSq := s * s
    { s0 := sums.s0 + 1.0
      s1 := sums.s1 + s
      s2 := sums.s2 + sSq
      s3 := sums.s3 + sSq * s
      s4 := sums.s4 + sSq * sSq
      t0 := sums.t0 + z
      t1 := sums.t1 + s * z
      t2 := sums.t2 + sSq * z
      n := sums.n + 1 }

def ofSamples [OfScientific R] (samples : List (FilteredSample R)) : PowerSums R :=
  samples.foldl addSample empty

/-- Symmetric, with a row and a column for the square, the position and one. -/
def matrix (sums : PowerSums R) (r c : Nat) : R :=
  ([[sums.s4, sums.s3, sums.s2],
    [sums.s3, sums.s2, sums.s1],
    [sums.s2, sums.s1, sums.s0]].getD r []).getD c 0

def rhs (sums : PowerSums R) (r : Nat) : R :=
  [sums.t2, sums.t1, sums.t0].getD r 0

/-- The determinant of the matrix without its first row and column. -/
def cofactor00 (sums : PowerSums R) : R :=
  sums.s2 * sums.s0 - sums.s1 * sums.s1

end PowerSums

/-- Add the squared residual of a kept sample. -/
def addResidual (a b c : R) (rss : R) (sample : FilteredSample R) : R :=
  if sample.flag ≠ .kept then
    rss
  else
    let s := sample.sM
    let predicted := a * s * s + b * s + c
    let residual := sample.zM - predicted
    rss + residual * residual

variable [OfScientific R] [NatCast R] [LT R] [DecidableLT R] [BEq R] [Elementary R]

def seCurvature (sums : PowerSums R) (detM rss : R) : R :=
  let sigmaSq := rss / ((sums.n - 3 : Nat) : R)
  let varA := sigmaSq * sums.cofactor00 / detM
  2.0 * Elementary.sqrt (if 0 < varA then varA else 0)

def fitLine (filtered : FilterResult R) : LineFitResult R :=
  let sums := PowerSums.ofSamples filtered.samples
  let result : LineFitResult R :=
    { angleRad := filtered.angleRad
      a := 0
      b := 0
      c := 0
      curvaturePerM := 0
      seCurvaturePerM := 0
      residualRmsM := 0
      nUsed := sums.n
      valid := false }
  if sums.n < 3 then
    result
  else
    let detM := det3 sums.matrix
    if detM == 0 then
      result
    else
      let a := cramerSolve sums.matrix sums.rhs 0 detM
      let b := cramerSolve sums.matrix sums.rhs 1 detM
      let c := cramerSolve sums.matrix sums.rhs 2 detM
      let rss := filtered.samples.foldl (addResidual a b c) 0
      { result with
        a := a
        b := b
        c := c
        curvaturePerM := 2.0 * a
        seCurvaturePerM := if 3 < sums.n then seCurvature sums detM rss else 0
        residualRmsM := Elementary.sqrt (rss / (sums.n : R))
        valid := true }

end Fit

/-- The kept samples, in order. -/
def keptOf {R : Type} (samples : List (FilteredSample R)) : List (FilteredSample R) :=
  samples.filter (·.flag = .kept)

/-! ## Only the kept samples -/

section Kept

variable {R : Type} [Zero R] [Add R] [Sub R] [Mul R] [Div R] [OfScientific R]
  [NatCast R] [LT R] [DecidableLT R] [BEq R] [Elementary R]

omit [Div R] [NatCast R] [LT R] [DecidableLT R] [BEq R] [Elementary R] [Sub R] in
theorem ofSamples_keptOf (samples : List (FilteredSample R)) :
    PowerSums.ofSamples (keptOf samples) = PowerSums.ofSamples samples := by
  rw [PowerSums.ofSamples, keptOf, List.foldl_filter]
  congr 1
  funext sums sample
  by_cases kept : sample.flag = .kept <;> simp [PowerSums.addSample, kept]

omit [Div R] [NatCast R] [LT R] [DecidableLT R] [BEq R] [Elementary R] [OfScientific R] in
theorem addResidual_keptOf (a b c : R) (samples : List (FilteredSample R)) :
    (keptOf samples).foldl (addResidual a b c) 0 = samples.foldl (addResidual a b c) 0 := by
  rw [keptOf, List.foldl_filter]
  congr 1
  funext rss sample
  by_cases kept : sample.flag = .kept <;> simp [addResidual, kept]

/-- Samples that are not kept have no part in the fit, in any arithmetic. -/
theorem fitLine_congr {filtered other : FilterResult R}
    (angle : other.angleRad = filtered.angleRad)
    (kept : keptOf other.samples = keptOf filtered.samples) :
    fitLine other = fitLine filtered := by
  unfold fitLine
  rw [angle, ← ofSamples_keptOf, kept, ofSamples_keptOf]
  simp only [← addResidual_keptOf _ _ _ other.samples, kept, addResidual_keptOf]

end Kept

/-! ## The least-squares parabola -/

section Exact

variable {R : Type} [Field R] [LinearOrder R] [IsStrictOrderedRing R]

/-- What a parabola predicts from: the square, the position and one. -/
def parabolaFeatures (sample : FilteredSample R) : Fin 3 → R :=
  ![sample.sM * sample.sM, sample.sM, 1]

set_option linter.unusedSectionVars false

/-- The rows and columns of an array with three of each. -/
def toMatrix (m : Nat → Nat → R) : Matrix (Fin 3) (Fin 3) R :=
  .of fun r c => m r c

theorem det3_eq_det (m : Nat → Nat → R) : det3 m = (toMatrix m).det := by
  rw [det3, det_fin_three]
  simp only [toMatrix, of_apply, Fin.val_zero, Fin.val_one, Fin.val_two]
  ring

theorem cramerSolve_eq (m : Nat → Nat → R) (rhs : Nat → R) (col : Fin 3) :
    cramerSolve m rhs col (det3 m) =
      (toMatrix m).det⁻¹ * (toMatrix m).cramer (fun r => rhs r) col := by
  rw [cramerSolve, det3_eq_det, det3_eq_det, cramer_apply, div_eq_inv_mul]
  congr 2
  ext r c
  by_cases here : c = col
  · simp [toMatrix, here]
  · simp [toMatrix, here, Fin.val_ne_of_ne here]

/-- Cramer's rule solves the equations of a regular matrix. -/
theorem mulVec_cramerSolve {m : Nat → Nat → R} (regular : (toMatrix m).det ≠ 0)
    (rhs : Nat → R) :
    (toMatrix m *ᵥ fun col : Fin 3 => cramerSolve m rhs col (det3 m)) =
      fun r : Fin 3 => rhs r := by
  have solution : (fun col : Fin 3 => cramerSolve m rhs col (det3 m)) =
      (toMatrix m).det⁻¹ • (toMatrix m).cramer fun r => rhs r :=
    funext fun col => cramerSolve_eq m rhs col
  rw [solution, mulVec_smul, mulVec_cramer, smul_smul, inv_mul_cancel₀ regular, one_smul]

section Sums

variable {kept : List (FilteredSample R)}

/-- The power sums of kept samples, added to earlier ones. -/
theorem foldl_addSample (all : ∀ sample ∈ kept, sample.flag = .kept) (sums : PowerSums R) :
    kept.foldl PowerSums.addSample sums =
      { s0 := sums.s0 + (kept.map fun _ => 1).sum
        s1 := sums.s1 + (kept.map (·.sM)).sum
        s2 := sums.s2 + (kept.map fun p => p.sM * p.sM).sum
        s3 := sums.s3 + (kept.map fun p => p.sM * p.sM * p.sM).sum
        s4 := sums.s4 + (kept.map fun p => p.sM * p.sM * (p.sM * p.sM)).sum
        t0 := sums.t0 + (kept.map (·.zM)).sum
        t1 := sums.t1 + (kept.map fun p => p.sM * p.zM).sum
        t2 := sums.t2 + (kept.map fun p => p.sM * p.sM * p.zM).sum
        n := sums.n + kept.length } := by
  induction kept generalizing sums with
  | nil => simp
  | cons sample kept ih =>
      have one : (1.0 : R) = 1 := by norm_num
      rw [List.foldl_cons, ih fun p member => all p (List.mem_cons_of_mem _ member)]
      simp only [PowerSums.addSample, all sample List.mem_cons_self, ne_eq, not_true_eq_false,
        if_false, List.map_cons, List.sum_cons, List.length_cons, add_assoc, one,
        Nat.add_comm 1]

theorem ofSamples_n (all : ∀ sample ∈ kept, sample.flag = .kept) :
    (PowerSums.ofSamples kept).n = kept.length := by
  rw [PowerSums.ofSamples, foldl_addSample all]
  exact Nat.zero_add _

theorem ofSamples_matrix (all : ∀ sample ∈ kept, sample.flag = .kept) :
    toMatrix (PowerSums.ofSamples kept).matrix =
      LeastSquares.normalMatrix parabolaFeatures kept := by
  rw [PowerSums.ofSamples, foldl_addSample all]
  ext i j
  fin_cases i <;> fin_cases j <;>
    simp [toMatrix, PowerSums.matrix, PowerSums.empty, LeastSquares.normalMatrix,
      parabolaFeatures, mul_assoc]

theorem ofSamples_rhs (all : ∀ sample ∈ kept, sample.flag = .kept) :
    (fun r : Fin 3 => (PowerSums.ofSamples kept).rhs r) =
      LeastSquares.normalVector parabolaFeatures (·.zM) kept := by
  rw [PowerSums.ofSamples, foldl_addSample all]
  ext i
  fin_cases i <;>
    simp [PowerSums.rhs, PowerSums.empty, LeastSquares.normalVector, parabolaFeatures]

theorem foldl_addResidual (all : ∀ sample ∈ kept, sample.flag = .kept) (a b c rss : R) :
    kept.foldl (addResidual a b c) rss =
      rss + LeastSquares.squaredResiduals parabolaFeatures (·.zM) kept ![a, b, c] := by
  induction kept generalizing rss with
  | nil => simp [LeastSquares.squaredResiduals]
  | cons sample kept ih =>
      rw [List.foldl_cons, ih fun p member => all p (List.mem_cons_of_mem _ member)]
      simp only [addResidual, all sample List.mem_cons_self, ne_eq, not_true_eq_false,
        if_false, LeastSquares.squaredResiduals, List.map_cons, List.sum_cons, parabolaFeatures,
        dotProduct, Fin.sum_univ_three]
      simp
      ring

/-- For all pairs of numbers there is a further position, if the features are independent. -/
theorem exists_further_position (independent : LeastSquares.Independent parabolaFeatures kept)
    (x y : R) : ∃ z ∈ kept.map (·.sM), z ≠ x ∧ z ≠ y := by
  by_contra none
  push Not at none
  -- the parabola with roots `x` and `y` vanishes at all positions
  have vanishes := independent ![1, -(x + y), x * y] fun p member => by
    have root : (p.sM - x) * (p.sM - y) = 0 := by
      by_cases first : p.sM = x
      · rw [first, sub_self, zero_mul]
      · rw [none p.sM (List.mem_map_of_mem member) first, sub_self, mul_zero]
    simp only [parabolaFeatures, dotProduct, Fin.sum_univ_three]
    simp
    linear_combination root
  exact one_ne_zero (congrFun vanishes 0)

/-- A parabola with three roots is zero. -/
theorem independent_iff :
    LeastSquares.Independent parabolaFeatures kept ↔
      3 ≤ (kept.map (·.sM)).toFinset.card := by
  constructor
  · intro independent
    obtain ⟨x, hasX, _⟩ := exists_further_position independent 0 0
    obtain ⟨y, hasY, yx, _⟩ := exists_further_position independent x x
    obtain ⟨z, hasZ, zx, zy⟩ := exists_further_position independent x y
    refine Finset.two_lt_card.mpr ⟨x, ?_, y, ?_, z, ?_, yx.symm, zx.symm, zy.symm⟩ <;>
      exact List.mem_toFinset.mpr ‹_›
  · intro many vector orthogonal
    obtain ⟨x, hasX, y, hasY, z, hasZ, xy, xz, yz⟩ := Finset.two_lt_card.mp many
    have root : ∀ s ∈ (kept.map (·.sM)).toFinset,
        vector 0 * s ^ 2 + vector 1 * s + vector 2 = 0 := by
      intro s member
      obtain ⟨p, here, rfl⟩ := List.mem_map.mp (List.mem_toFinset.mp member)
      have zero := orthogonal p here
      simp only [parabolaFeatures, dotProduct, Fin.sum_univ_three] at zero
      simp at zero
      linear_combination zero
    have rootX := root x hasX
    have rootY := root y hasY
    have rootZ := root z hasZ
    have slopeY : vector 0 * (x + y) + vector 1 = 0 :=
      (mul_eq_zero.mp (show (x - y) * _ = 0 by linear_combination rootX - rootY)).resolve_left
        (sub_ne_zero.mpr xy)
    have slopeZ : vector 0 * (x + z) + vector 1 = 0 :=
      (mul_eq_zero.mp (show (x - z) * _ = 0 by linear_combination rootX - rootZ)).resolve_left
        (sub_ne_zero.mpr xz)
    have square : vector 0 = 0 :=
      (mul_eq_zero.mp (show (y - z) * _ = 0 by linear_combination slopeY - slopeZ)).resolve_left
        (sub_ne_zero.mpr yz)
    have linear : vector 1 = 0 := by linear_combination slopeY - (x + y) * square
    have constant : vector 2 = 0 := by linear_combination rootX - x ^ 2 * square - x * linear
    ext i
    fin_cases i
    · exact square
    · exact linear
    · exact constant

end Sums

/-- The sum of the squared residuals of a parabola. -/
def parabolaRss (kept : List (FilteredSample R)) (a b c : R) : R :=
  (kept.map fun p => (p.zM - a * p.sM ^ 2 - b * p.sM - c) ^ 2).sum

theorem parabolaRss_eq (kept : List (FilteredSample R)) (a b c : R) :
    parabolaRss kept a b c =
      LeastSquares.squaredResiduals parabolaFeatures (·.zM) kept ![a, b, c] := by
  rw [parabolaRss, LeastSquares.squaredResiduals]
  congr 1
  refine List.map_congr_left fun p _ => ?_
  simp only [parabolaFeatures, dotProduct, Fin.sum_univ_three]
  simp
  ring

variable [Elementary R] {filtered : FilterResult R}

theorem keptOf_kept (samples : List (FilteredSample R)) :
    ∀ sample ∈ keptOf samples, sample.flag = .kept := by
  intro sample member
  simpa using (List.mem_filter.mp member).2

theorem det3_matrix (samples : List (FilteredSample R)) :
    det3 (PowerSums.ofSamples samples).matrix =
      (LeastSquares.normalMatrix parabolaFeatures (keptOf samples)).det := by
  rw [det3_eq_det, ← ofSamples_keptOf, ofSamples_matrix (keptOf_kept samples)]

theorem fitLine_nUsed : (fitLine filtered).nUsed = (keptOf filtered.samples).length := by
  have count : (PowerSums.ofSamples filtered.samples).n = (keptOf filtered.samples).length := by
    rw [← ofSamples_keptOf, ofSamples_n (keptOf_kept _)]
  unfold fitLine
  dsimp only
  split
  · exact count
  · split
    · exact count
    · exact count

/-- What the fit is when there is one. -/
theorem fitLine_eq (independent :
    LeastSquares.Independent parabolaFeatures (keptOf filtered.samples)) :
    let sums := PowerSums.ofSamples filtered.samples
    let a := cramerSolve sums.matrix sums.rhs 0 (det3 sums.matrix)
    let b := cramerSolve sums.matrix sums.rhs 1 (det3 sums.matrix)
    let c := cramerSolve sums.matrix sums.rhs 2 (det3 sums.matrix)
    let rss := parabolaRss (keptOf filtered.samples) a b c
    fitLine filtered =
      { angleRad := filtered.angleRad
        a := a
        b := b
        c := c
        curvaturePerM := 2 * a
        seCurvaturePerM := if 3 < sums.n then seCurvature sums (det3 sums.matrix) rss else 0
        residualRmsM := Elementary.sqrt (rss / (sums.n : R))
        nUsed := sums.n
        valid := true } := by
  intro sums a b c rss
  have regular : (det3 sums.matrix == 0) = false := by
    rw [beq_eq_false_iff_ne, det3_matrix]
    exact LeastSquares.det_normalMatrix_ne_zero.mpr independent
  have enough : ¬ sums.n < 3 := by
    have count : sums.n = (keptOf filtered.samples).length := by
      rw [← ofSamples_n (keptOf_kept filtered.samples), ofSamples_keptOf]
    have distinct := independent_iff.mp independent
    have bound := List.toFinset_card_le ((keptOf filtered.samples).map (·.sM))
    rw [List.length_map] at bound
    omega
  have residuals : filtered.samples.foldl (addResidual a b c) 0 = rss := by
    rw [← addResidual_keptOf, foldl_addResidual (keptOf_kept _), zero_add, ← parabolaRss_eq]
  have two : (2.0 : R) = 2 := by norm_num
  unfold fitLine
  simp only [← two]
  rw [if_neg enough, if_neg (by rw [regular]; exact Bool.false_ne_true), residuals]

theorem fitLine_valid_iff :
    (fitLine filtered).valid = true ↔
      LeastSquares.Independent parabolaFeatures (keptOf filtered.samples) := by
  constructor
  · intro valid
    rw [← LeastSquares.det_normalMatrix_ne_zero, ← det3_matrix]
    intro singular
    unfold fitLine at valid
    dsimp only at valid
    rw [singular] at valid
    split at valid
    · exact Bool.false_ne_true valid
    · simp at valid
  · intro independent
    rw [fitLine_eq independent]

/-- The fit solves the normal equations. -/
theorem fitLine_solves (independent :
    LeastSquares.Independent parabolaFeatures (keptOf filtered.samples)) :
    LeastSquares.normalMatrix parabolaFeatures (keptOf filtered.samples) *ᵥ
        ![(fitLine filtered).a, (fitLine filtered).b, (fitLine filtered).c] =
      LeastSquares.normalVector parabolaFeatures (·.zM) (keptOf filtered.samples) := by
  have all := keptOf_kept filtered.samples
  have regular := LeastSquares.det_normalMatrix_ne_zero.mpr independent
  rw [← ofSamples_matrix all, ofSamples_keptOf] at regular ⊢
  have solution : ![(fitLine filtered).a, (fitLine filtered).b, (fitLine filtered).c] =
      fun col : Fin 3 => cramerSolve (PowerSums.ofSamples filtered.samples).matrix
        (PowerSums.ofSamples filtered.samples).rhs col
        (det3 (PowerSums.ofSamples filtered.samples).matrix) := by
    rw [fitLine_eq independent]
    ext col
    fin_cases col <;> rfl
  rw [← ofSamples_rhs all, ofSamples_keptOf, solution]
  exact mulVec_cramerSolve regular _

/-- The fit is the unique parabola with the smallest residuals. -/
theorem fitLine_minimal (independent :
    LeastSquares.Independent parabolaFeatures (keptOf filtered.samples)) (a b c : R) :
    let kept := keptOf filtered.samples
    let fit := fitLine filtered
    parabolaRss kept fit.a fit.b fit.c ≤ parabolaRss kept a b c ∧
      (parabolaRss kept a b c = parabolaRss kept fit.a fit.b fit.c →
        a = fit.a ∧ b = fit.b ∧ c = fit.c) := by
  intro kept fit
  have minimal := LeastSquares.unique_minimiser (fitLine_solves independent) independent
    ![a, b, c]
  rw [← parabolaRss_eq, ← parabolaRss_eq] at minimal
  refine ⟨minimal.1, fun same => ?_⟩
  have vectors := minimal.2 same
  exact ⟨congrFun vectors 0, congrFun vectors 1, congrFun vectors 2⟩

theorem parabolaRss_nonneg (kept : List (FilteredSample R)) (a b c : R) :
    0 ≤ parabolaRss kept a b c := by
  refine List.sum_nonneg fun x member => ?_
  obtain ⟨p, _, rfl⟩ := List.mem_map.mp member
  exact sq_nonneg _

/-- A parabola whose samples are kept is found again, with no residual. -/
theorem fitLine_exact (independent :
    LeastSquares.Independent parabolaFeatures (keptOf filtered.samples)) {a b c : R}
    (exactly : ∀ p ∈ keptOf filtered.samples, p.zM = a * p.sM ^ 2 + b * p.sM + c) :
    (fitLine filtered).valid = true ∧ (fitLine filtered).curvaturePerM = 2 * a ∧
      (fitLine filtered).residualRmsM = Elementary.sqrt 0 := by
  have none : parabolaRss (keptOf filtered.samples) a b c = 0 := by
    refine List.sum_eq_zero fun x member => ?_
    obtain ⟨p, here, rfl⟩ := List.mem_map.mp member
    rw [exactly p here]
    ring
  have minimal := fitLine_minimal independent a b c
  have same : parabolaRss (keptOf filtered.samples) (fitLine filtered).a (fitLine filtered).b
      (fitLine filtered).c = 0 :=
    le_antisymm (minimal.1.trans_eq none) (parabolaRss_nonneg _ _ _ _)
  have found := (minimal.2 (none.trans same.symm)).1
  rw [fitLine_eq independent] at same found ⊢
  dsimp only at same found ⊢
  exact ⟨rfl, by rw [← found], by rw [same, zero_div]⟩

/-- The factor of the variance is a diagonal entry of the inverse normal matrix. -/
theorem cofactor00_div_det (filtered : FilterResult R) :
    (PowerSums.ofSamples filtered.samples).cofactor00 /
        det3 (PowerSums.ofSamples filtered.samples).matrix =
      (LeastSquares.normalMatrix parabolaFeatures (keptOf filtered.samples))⁻¹ 0 0 := by
  have all := keptOf_kept filtered.samples
  rw [← ofSamples_matrix all, ofSamples_keptOf, det3_eq_det, inv_def, Matrix.smul_apply,
    adjugate_fin_three, Ring.inverse_eq_inv', smul_eq_mul, div_eq_inv_mul]
  congr 1

theorem seCurvature_eq {sums : PowerSums R} {detM rss : R} (many : 3 < sums.n)
    (residuals : 0 ≤ rss) (factor : 0 ≤ sums.cofactor00 / detM) :
    seCurvature sums detM rss =
      2 * Elementary.sqrt (rss / ((sums.n : R) - 3) * (sums.cofactor00 / detM)) := by
  have count : ((sums.n - 3 : Nat) : R) = (sums.n : R) - 3 := by
    rw [Nat.cast_sub (Nat.le_of_lt many), Nat.cast_ofNat]
  have freedom : (0 : R) < (sums.n : R) - 3 := sub_pos.mpr (by exact_mod_cast many)
  have variance : 0 ≤ rss / ((sums.n : R) - 3) * (sums.cofactor00 / detM) :=
    mul_nonneg (div_nonneg residuals (le_of_lt freedom)) factor
  have two : (2.0 : R) = 2 := by norm_num
  rw [seCurvature, count, mul_div_assoc, two]
  split
  · rfl
  next zero => rw [le_antisymm (not_lt.mp zero) variance]

/--
The fit is the least-squares parabola.  In exact arithmetic, for every filtered line: there
is a fit exactly if the kept samples have three distinct positions; it is then the
unique parabola with the smallest sum of squared residuals over them; samples that are not
kept change nothing; and with more than three kept samples the factor of the variance is
the first entry of the inverse normal matrix, which is positive.
-/
theorem fit_is_least_squares (filtered : FilterResult R) :
    let kept := keptOf filtered.samples
    let fit := fitLine filtered
    (fit.valid = true ↔ 3 ≤ (kept.map (·.sM)).toFinset.card) ∧
      (fit.valid = true → ∀ a b c,
        parabolaRss kept fit.a fit.b fit.c ≤ parabolaRss kept a b c ∧
          (parabolaRss kept a b c = parabolaRss kept fit.a fit.b fit.c →
            a = fit.a ∧ b = fit.b ∧ c = fit.c)) ∧
      fit.nUsed = kept.length ∧
      (∀ other : FilterResult R, other.angleRad = filtered.angleRad →
        keptOf other.samples = kept → fitLine other = fit) ∧
      (fit.valid = true → 3 < fit.nUsed →
        let sums := PowerSums.ofSamples filtered.samples
        let factor := (LeastSquares.normalMatrix parabolaFeatures kept)⁻¹ 0 0
        sums.cofactor00 / det3 sums.matrix = factor ∧ 0 < factor ∧
          fit.seCurvaturePerM = 2 * Elementary.sqrt
            (parabolaRss kept fit.a fit.b fit.c / ((fit.nUsed : R) - 3) * factor)) := by
  intro kept fit
  refine ⟨fitLine_valid_iff.trans independent_iff, fun valid a b c => ?_, fitLine_nUsed,
    fun other angle same => fitLine_congr angle same, fun valid many => ?_⟩
  · exact fitLine_minimal (fitLine_valid_iff.mp valid) a b c
  · have independent := fitLine_valid_iff.mp valid
    have positive := LeastSquares.normalMatrix_inv_pos independent 0
    have factor := cofactor00_div_det filtered
    refine ⟨factor, positive, ?_⟩
    rw [← factor] at positive ⊢
    change 3 < (fitLine filtered).nUsed at many
    change (fitLine filtered).seCurvaturePerM = 2 * Elementary.sqrt (parabolaRss kept
      (fitLine filtered).a (fitLine filtered).b (fitLine filtered).c /
        (((fitLine filtered).nUsed : R) - 3) * _)
    rw [fitLine_eq independent] at many ⊢
    dsimp only at many ⊢
    rw [if_pos many, seCurvature_eq many (parabolaRss_nonneg _ _ _ _) (le_of_lt positive)]

end Exact

/-- Rational numbers, with the roots of the squares. -/
instance : Elementary ℚ where
  sqrt := Rat.sqrt
  isnan _ := false
  isfinite _ := true

/-- Four samples of a parabola, and one that was dropped. -/
def sampledParabola : FilterResult ℚ where
  angleRad := 0
  samples := [⟨-1, 1, .kept⟩, ⟨0, 0, .kept⟩, ⟨5, 7, .dropped⟩, ⟨1, 1, .kept⟩, ⟨2, 4, .kept⟩]
  removedCount := 1
  removedFraction := 1 / 5

theorem fit_is_least_squares_parabola :
    (fitLine sampledParabola).valid = true ∧ (fitLine sampledParabola).a = 1 ∧
      0 < (LeastSquares.normalMatrix parabolaFeatures (keptOf sampledParabola.samples))⁻¹ 0 0 := by
  obtain ⟨valid, _, _, _, factor⟩ := fit_is_least_squares sampledParabola
  have fits := valid.mpr (by decide +kernel)
  exact ⟨fits, by decide +kernel, (factor fits (by decide +kernel)).2.1⟩

end Ssim.Analysis
