import Ssim.Analysis.Pipeline
import Ssim.Analysis.Reals
import Mathlib.RingTheory.RootsOfUnity.Complex
import Mathlib.Analysis.SpecialFunctions.Trigonometric.Basic

/-!
# The wafer model

The simulated truth of a wafer and its height along a scan line.  Without noise and
faults the pipeline recovers the truth exactly: every line is a parabola, whatever
samples the filters keep, and over lines at even angles the anisotropy averages out.
-/

namespace Ssim.Hw

open Analysis

/-- The library functions that the forward model calls. -/
class Circular (R : Type) where
  cos : R → R
  sin : R → R

structure WaferTruth (R : Type) where
  stressPa : R
  initialCurvaturePerM : R
  tiltX : R
  tiltY : R
  anisotropy : R
  filmCurvaturePerM : R
  totalCurvaturePerM : R
  kxPerM : R
  kyPerM : R
  diameterM : R

section Model

variable {R : Type} [Add R] [Sub R] [Mul R] [Div R] [OfScientific R] [Circular R]

def waferTruth (config : WaferConfig R) : WaferTruth R :=
  let sigmaPa := config.truth.stressMpa * 1e6
  let tFM := config.filmThicknessUm * 1e-6
  let tSM := config.thicknessUm * 1e-6
  let mSPa := config.biaxialModulusGpa * 1e9
  let filmCurvaturePerM := 6.0 * sigmaPa * tFM / (mSPa * tSM * tSM)
  let totalCurvaturePerM := config.truth.initialCurvature1PerM + filmCurvaturePerM
  { stressPa := sigmaPa
    initialCurvaturePerM := config.truth.initialCurvature1PerM
    tiltX := config.truth.tiltXUmPerMm * 1e-3
    tiltY := config.truth.tiltYUmPerMm * 1e-3
    anisotropy := config.truth.anisotropy
    filmCurvaturePerM := filmCurvaturePerM
    totalCurvaturePerM := totalCurvaturePerM
    kxPerM := totalCurvaturePerM * (1.0 - config.truth.anisotropy / 2.0)
    kyPerM := totalCurvaturePerM * (1.0 + config.truth.anisotropy / 2.0)
    diameterM := config.diameterMm * 1e-3 }

namespace WaferTruth

def curvatureAtM (truth : WaferTruth R) (thetaRad : R) : R :=
  let c := Circular.cos thetaRad
  let s := Circular.sin thetaRad
  truth.kxPerM * c * c + truth.kyPerM * s * s

def heightM (truth : WaferTruth R) (thetaRad sM : R) : R :=
  let tiltAlongLine := truth.tiltX * Circular.cos thetaRad + truth.tiltY * Circular.sin thetaRad
  let k := truth.curvatureAtM thetaRad
  tiltAlongLine * sM + 0.5 * k * sM * sM

end WaferTruth

/-- The angle of a line among so many. -/
def lineAngle [NatCast R] [Geometry R] (lines line : Nat) : R :=
  Geometry.pi * (line : R) / (lines : R)

/-- A line scanned at these positions, without noise and faults. -/
def scanLine [NatCast R] [Geometry R] (config : WaferConfig R) (lines line : Nat)
    (positions : List R) : LineSamples R :=
  let theta := lineAngle lines line
  ⟨theta, positions, positions.map ((waferTruth config).heightM theta)⟩

end Model

/-! ## One line -/

section Line

variable {R : Type} [Field R] [LinearOrder R] [IsStrictOrderedRing R] [Elementary R] [Geometry R]
  [Circular R]

/-- Whatever the filters keep of a line lies on its parabola. -/
theorem kept_on_parabola (config : Config R) (lines line : Nat) (positions : List R) :
    let truth := waferTruth config.wafer
    let theta : R := lineAngle lines line
    ∀ p ∈ keptOf (filterLine config (scanLine config.wafer lines line positions)).samples,
      p.zM = truth.curvatureAtM theta / 2 * p.sM ^ 2 +
        (truth.tiltX * Circular.cos theta + truth.tiltY * Circular.sin theta) * p.sM + 0 := by
  intro truth theta p member
  have point : p.point ∈
      (filterLine config (scanLine config.wafer lines line positions)).samples.map
        FilteredSample.point :=
    List.mem_map_of_mem (List.mem_filter.mp member).1
  rw [filterLine, applyOutlierRejection_points] at point
  have scanned := applyEdgeExclusion_points _ _ _ point
  simp only [scanLine, ← List.map_prod_left_eq_zip] at scanned
  obtain ⟨s, _, same⟩ := List.mem_map.mp scanned
  have height : p.zM = truth.heightM theta p.sM := by
    obtain ⟨rfl, computed⟩ := Prod.mk.inj same
    exact computed.symm
  have half : (0.5 : R) = 1 / 2 := by norm_num
  rw [height, WaferTruth.heightM, half]
  ring

/-- A line that keeps three distinct positions gives its curvature, with no residual. -/
theorem fitLine_scanned (config : Config R) (lines line : Nat) (positions : List R)
    (enough : 3 ≤ ((keptOf (filterLine config
      (scanLine config.wafer lines line positions)).samples).map (·.sM)).toFinset.card) :
    let fit := fitLine (filterLine config (scanLine config.wafer lines line positions))
    fit.valid = true ∧
      fit.curvaturePerM = (waferTruth config.wafer).curvatureAtM (lineAngle lines line) ∧
      fit.residualRmsM = Elementary.sqrt 0 := by
  intro fit
  obtain ⟨valid, curvature, residual⟩ := fitLine_exact (independent_iff.mpr enough)
    (kept_on_parabola config lines line positions)
  refine ⟨valid, ?_, residual⟩
  change (fitLine _).curvaturePerM = _
  rw [curvature]
  ring

end Line

/-! ## All lines -/

section Mean

variable {R : Type} [Field R] [LinearOrder R] [IsStrictOrderedRing R]

omit [IsStrictOrderedRing R] in
theorem foldl_add_sum {fits : List (LineFitResult R)} (valid : ∀ fit ∈ fits, fit.valid = true)
    (scan : CurvatureScan R) :
    (fits.foldl CurvatureScan.add scan).sum = scan.sum + (fits.map (·.curvaturePerM)).sum := by
  induction fits generalizing scan with
  | nil => simp
  | cons fit fits ih =>
      rw [List.foldl_cons, ih fun other member => valid other (List.mem_cons_of_mem _ member),
        CurvatureScan.add, if_pos (valid fit List.mem_cons_self), List.map_cons, List.sum_cons,
        add_assoc]

omit [IsStrictOrderedRing R] in
/-- The mean curvature of valid fits. -/
theorem combineLines_mean {fits : List (LineFitResult R)} (some : fits ≠ [])
    (valid : ∀ fit ∈ fits, fit.valid = true) :
    (combineLines fits).meanCurvaturePerM =
      (fits.map (·.curvaturePerM)).sum / (fits.length : R) := by
  have count : (fits.foldl CurvatureScan.add ⟨0, 0, 0, true, 0⟩).nLines = fits.length := by
    rw [foldl_add_nLines, Nat.zero_add, List.countP_eq_length.mpr valid]
  unfold combineLines
  dsimp only
  rw [if_neg (by rw [count]; exact fun none => some (List.length_eq_zero_iff.mp none)), count,
    foldl_add_sum valid, zero_add]

end Mean

/-! ## Recovery -/

noncomputable instance : Circular ℝ where
  cos := Real.cos
  sin := Real.sin

/-- The double angles of the lines go around the circle evenly. -/
theorem sum_cos_double {lines : Nat} (many : 2 ≤ lines) :
    ((List.range lines).map fun line => Real.cos (2 * lineAngle lines line)).sum = 0 := by
  have roots := (Complex.isPrimitiveRoot_exp lines (by omega)).geom_sum_eq_zero many
  have parts := congrArg Complex.re roots
  rw [Complex.re_sum, Complex.zero_re] at parts
  rw [← List.sum_toFinset _ List.nodup_range, List.toFinset_range, ← parts]
  refine Finset.sum_congr rfl fun line _ => ?_
  have angle : (Complex.exp (2 * Real.pi * Complex.I / lines)) ^ line =
      Complex.exp (((2 * lineAngle lines line : ℝ) : ℂ) * Complex.I) := by
    rw [← Complex.exp_nat_mul]
    congr 1
    simp only [lineAngle, Geometry.pi]
    push_cast
    ring
  rw [angle, Complex.exp_ofReal_mul_I_re]

/-- The curvature at an angle differs from the total curvature by the anisotropy. -/
theorem curvatureAtM_eq (config : WaferConfig ℝ) (theta : ℝ) :
    (waferTruth config).curvatureAtM theta =
      (waferTruth config).totalCurvaturePerM -
        (waferTruth config).totalCurvaturePerM * (config.truth.anisotropy / 2) *
          Real.cos (2 * theta) := by
  have one : (1.0 : ℝ) = 1 := by norm_num
  have two : (2.0 : ℝ) = 2 := by norm_num
  have kx : (waferTruth config).kxPerM =
      (waferTruth config).totalCurvaturePerM * (1 - config.truth.anisotropy / 2) := by
    rw [← one, ← two]
    rfl
  have ky : (waferTruth config).kyPerM =
      (waferTruth config).totalCurvaturePerM * (1 + config.truth.anisotropy / 2) := by
    rw [← one, ← two]
    rfl
  have circle := Real.sin_sq_add_cos_sq theta
  simp only [WaferTruth.curvatureAtM, kx, ky, Circular.cos, Circular.sin, Real.cos_two_mul]
  linear_combination
    ((waferTruth config).totalCurvaturePerM * (1 + config.truth.anisotropy / 2)) * circle

/-- The mean curvature of lines at even angles is the total curvature. -/
theorem mean_curvature (config : WaferConfig ℝ) {lines : Nat} (many : 2 ≤ lines) :
    ((List.range lines).map fun line =>
        (waferTruth config).curvatureAtM (lineAngle lines line)).sum / (lines : ℝ) =
      (waferTruth config).totalCurvaturePerM := by
  have sum : ((List.range lines).map fun line =>
      (waferTruth config).curvatureAtM (lineAngle lines line)).sum =
        lines * (waferTruth config).totalCurvaturePerM := by
    have split : (fun line : Nat => (waferTruth config).curvatureAtM (lineAngle lines line)) =
        fun line => (waferTruth config).totalCurvaturePerM +
          -((waferTruth config).totalCurvaturePerM * (config.truth.anisotropy / 2)) *
            Real.cos (2 * lineAngle lines line) := by
      funext line
      rw [curvatureAtM_eq]
      ring
    rw [split, List.sum_map_add, List.sum_map_mul_left, sum_cos_double many]
    simp
  have nonzero : (lines : ℝ) ≠ 0 := Nat.cast_ne_zero.mpr (by omega)
  rw [sum, mul_div_cancel_left₀ _ nonzero]

/-- Stoney's equation undoes the forward model. -/
theorem stress_of_total_curvature (config : Config ℝ) (thickness : 0 < config.wafer.thicknessUm)
    (filmThickness : 0 < config.wafer.filmThicknessUm)
    (modulus : 0 < config.wafer.biaxialModulusGpa) :
    config.stressOf (waferTruth config.wafer).totalCurvaturePerM =
      (waferTruth config.wafer).stressPa := by
  simp only [Config.stressOf, stoneyStressPa, waferTruth]
  norm_num
  field_simp

/--
Measurement recovers the simulated truth.  In exact arithmetic, for every configuration
with positive thicknesses and modulus and every two or more lines at even angles, scanned at
any positions without noise and faults: if every line keeps three distinct positions, the
stress is the true one, and every line has its curvature and no residual.
-/
theorem measurement_recovers_truth (config : Config ℝ)
    (thickness : 0 < config.wafer.thicknessUm)
    (filmThickness : 0 < config.wafer.filmThicknessUm)
    (modulus : 0 < config.wafer.biaxialModulusGpa)
    {lines : Nat} (many : 2 ≤ lines) (positions : Nat → List ℝ)
    (enough : ∀ line < lines, 3 ≤ ((keptOf (filterLine config
      (scanLine config.wafer lines line (positions line))).samples).map (·.sM)).toFinset.card) :
    let result := runPipeline config
      ((List.range lines).map fun line => scanLine config.wafer lines line (positions line))
    result.stressPa = (waferTruth config.wafer).stressPa ∧
      ∀ line < lines, ∃ fit, result.lineFits[line]? = some fit ∧ fit.residualRmsM = 0 ∧
        fit.curvaturePerM = (waferTruth config.wafer).curvatureAtM (lineAngle lines line) := by
  intro result
  have fits : result.lineFits = (List.range lines).map fun line =>
      fitLine (filterLine config (scanLine config.wafer lines line (positions line))) := by
    change (List.map _ (List.map _ (List.map _ _))) = _
    rw [List.map_map, List.map_map]
    rfl
  have fitted : ∀ line < lines, _ := fun line inside =>
    fitLine_scanned config lines line (positions line) (enough line inside)
  have valid : ∀ fit ∈ result.lineFits, fit.valid = true := by
    intro fit member
    rw [fits] at member
    obtain ⟨line, inside, rfl⟩ := List.mem_map.mp member
    exact (fitted line (List.mem_range.mp inside)).1
  have some : result.lineFits ≠ [] := by
    rw [fits]
    simp only [ne_eq, List.map_eq_nil_iff, List.range_eq_nil]
    omega
  have curvatures : result.lineFits.map (·.curvaturePerM) = (List.range lines).map fun line =>
      (waferTruth config.wafer).curvatureAtM (lineAngle lines line) := by
    rw [fits, List.map_map]
    exact List.map_congr_left fun line inside => (fitted line (List.mem_range.mp inside)).2.1
  have count : result.lineFits.length = lines := by
    rw [fits, List.length_map, List.length_range]
  constructor
  · change config.stressOf (combineLines result.lineFits).meanCurvaturePerM = _
    rw [combineLines_mean some valid, curvatures, count, mean_curvature config.wafer many]
    exact stress_of_total_curvature config thickness filmThickness modulus
  · intro line inside
    refine ⟨_, by rw [fits, List.getElem?_map, List.getElem?_range inside]; rfl, ?_,
      (fitted line inside).2.1⟩
    exact (fitted line inside).2.2.trans Real.sqrt_zero

/-- A film of a stress of one Pascal, with all lengths one metre and a modulus of one Pascal. -/
noncomputable def unitConfig : Config ℝ :=
  { (Config.default : Config ℝ) with
    wafer := ⟨300, 1e6, 1e6, 1e-9, ⟨1e-6, 0, 0, 0, 0⟩⟩
    edgeExclusionMm := 0 }

theorem scanLine_unit (line : Nat) :
    scanLine unitConfig.wafer 2 line [-1, 0, 1] =
      ⟨lineAngle 2 line, [-1, 0, 1], [3, 0, 3]⟩ := by
  have circle := Real.sin_sq_add_cos_sq (lineAngle 2 line)
  simp [scanLine, waferTruth, unitConfig, WaferTruth.heightM, WaferTruth.curvatureAtM,
    Circular.cos, Circular.sin]
  norm_num
  nlinarith

/-- A window with the heights 3, 0 and 3 has the deviation zero and flags nothing. -/
theorem step_unit {window : Window ℝ} {k : Nat} (madK : ℝ)
    (slides : window.slide [3, 0, 3] 40 k = ⟨[0, 3, 3], 0, 3⟩)
    (samples : List (FilteredSample ℝ)) :
    Rejection.step [0, 1, 2] [3, 0, 3] madK 40 ⟨window, samples⟩ k =
      ⟨⟨[0, 3, 3], 0, 3⟩, samples⟩ := by
  have middle : sortedMedian [(0 : ℝ), 3, 3] = 3 := by norm_num [sortedMedian]
  have deviation : medianAbsDeviation [(0 : ℝ), 3, 3] 3 = 0 := by
    norm_num [medianAbsDeviation, DeviationScan.take, lowerBound]
  simp [Rejection.step, slides, middle, deviation, exceeds]

theorem kept_unit (line : Nat) :
    (keptOf (filterLine unitConfig
      (scanLine unitConfig.wafer 2 line [-1, 0, 1])).samples).map (·.sM) = [-1, 0, 1] := by
  have enters : Window.slide [3, 0, 3] 40 (Window.fresh : Window ℝ) 0 = ⟨[0, 3, 3], 0, 3⟩ := by
    norm_num [Window.slide, Window.fresh, Window.enter, upperBound]
  have stays : ∀ k ≤ 2, Window.slide [3, 0, 3] 40 (⟨[0, 3, 3], 0, 3⟩ : Window ℝ) k =
      ⟨[0, 3, 3], 0, 3⟩ := by
    intro k inside
    have early : ¬ 40 < k := by omega
    simp [Window.slide, early]
  have edges : applyEdgeExclusion ⟨lineAngle 2 line, [-1, 0, 1], [3, 0, 3]⟩
      unitConfig.edgeExclusionMm = (⟨lineAngle 2 line,
        [⟨-1, 3, .kept⟩, ⟨0, 0, .kept⟩, ⟨1, 3, .kept⟩], 0, 0⟩ : FilterResult ℝ) := by
    norm_num [applyEdgeExclusion, minElement, maxElement, edgeFlag, Elementary.isnan, unitConfig,
      countRemoved]
  rw [scanLine_unit, filterLine, edges]
  simp [applyOutlierRejection, keptSamples, defaultWindowRadius, List.range_succ,
    FilterResult.recount, step_unit _ enters, step_unit _ (stays 1 (by decide)),
    step_unit _ (stays 2 (by decide)), keptOf]

theorem measurement_recovers_truth_unit :
    (runPipeline unitConfig ((List.range 2).map fun line =>
      scanLine unitConfig.wafer 2 line [-1, 0, 1])).stressPa = 1 := by
  have recovered := (measurement_recovers_truth unitConfig (by norm_num [unitConfig])
    (by norm_num [unitConfig]) (by norm_num [unitConfig]) (Nat.le_refl 2) (fun _ => [-1, 0, 1])
    fun line _ => by rw [kept_unit]; norm_num).1
  rw [recovered]
  norm_num [waferTruth, unitConfig]

end Ssim.Hw
