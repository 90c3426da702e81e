import Ssim.Analysis.Filters
import Ssim.Analysis.LineFit
import Ssim.Analysis.WaferMap

/-!
# The pipeline

From the lines of a wafer to its stress.  The lines are filtered and fitted one by one,
their curvatures are averaged, and Stoney's equation gives the stress.  The quality gates
then decide whether it is reported.  This is the serial pipeline; the pool of threads that
filters and fits the lines is in a module of its own.
-/

namespace Ssim.Analysis

/-! ## Configuration -/

structure WaferTruthConfig (R : Type) where
  stressMpa : R
  initialCurvature1PerM : R
  tiltXUmPerMm : R
  tiltYUmPerMm : R
  anisotropy : R
  deriving Repr, DecidableEq

structure WaferConfig (R : Type) where
  diameterMm : R
  thicknessUm : R
  filmThicknessUm : R
  biaxialModulusGpa : R
  truth : WaferTruthConfig R
  deriving Repr, DecidableEq

structure AnalysisConfig (R : Type) where
  outlierMadK : R
  outlierFractionAlarm : R
  fitRmsLimitUm : R
  stressSpecLowMpa : R
  stressSpecHighMpa : R
  stressPlausibleLowMpa : R
  stressPlausibleHighMpa : R
  mapGridMm : R
  deriving Repr, DecidableEq

/-- The part of the configuration that the analysis reads. -/
structure Config (R : Type) where
  wafer : WaferConfig R
  /-- Of the scan. -/
  edgeExclusionMm : R
  analysis : AnalysisConfig R
  deriving Repr, DecidableEq

section Defaults

variable {R : Type} [Neg R] [OfScientific R]

def WaferConfig.default : WaferConfig R where
  diameterMm := 300.0
  thicknessUm := 775.0
  filmThicknessUm := 1.0
  biaxialModulusGpa := 180.5
  truth := ⟨-180.0, 0.002, 0.8, -0.3, 0.05⟩

def AnalysisConfig.default : AnalysisConfig R where
  outlierMadK := 6.0
  outlierFractionAlarm := 0.01
  fitRmsLimitUm := 2.0
  stressSpecLowMpa := -400.0
  stressSpecHighMpa := 400.0
  stressPlausibleLowMpa := -5000.0
  stressPlausibleHighMpa := 5000.0
  mapGridMm := 1.0

def Config.default : Config R :=
  ⟨.default, 3.0, .default⟩

end Defaults

section Validation

variable {R : Type} [Zero R] [Neg R] [OfScientific R] [LT R] [DecidableLT R] [LE R]
  [DecidableLE R] [BEq R]

/-- `range_error` is returned for the value. -/
def outOfRange (value lo hi : R) : Bool :=
  value < lo || hi < value

/-- What `validate` checks of the fields that the analysis reads. -/
def Config.accepted (config : Config R) : Bool :=
  let wafer := config.wafer
  let analysis := config.analysis
  !outOfRange config.edgeExclusionMm 0 20.0 &&
    (wafer.diameterMm == 100.0 || wafer.diameterMm == 150.0 || wafer.diameterMm == 200.0 ||
      wafer.diameterMm == 300.0) &&
    !decide (wafer.thicknessUm ≤ 0) &&
    !decide (wafer.filmThicknessUm ≤ 0) &&
    !decide (wafer.biaxialModulusGpa ≤ 0) &&
    !outOfRange analysis.fitRmsLimitUm 0.1 50.0 &&
    !outOfRange analysis.stressSpecLowMpa (-5000.0) 5000.0 &&
    !outOfRange analysis.stressSpecHighMpa (-5000.0) 5000.0 &&
    !decide (analysis.stressSpecHighMpa < analysis.stressSpecLowMpa) &&
    !decide (analysis.outlierMadK ≤ 0) &&
    !outOfRange analysis.outlierFractionAlarm 0 1.0 &&
    !decide (analysis.mapGridMm ≤ 0)

end Validation

/-! ## Lines combined -/

structure CombinedResult (R : Type) where
  meanCurvaturePerM : R
  anisotropy : R
  nLines : Nat
  deriving Repr, DecidableEq

/-- The loop over the fits: the sum and the extremes of the curvatures so far. -/
structure CurvatureScan (R : Type) where
  sum : R
  lo : R
  hi : R
  first : Bool
  nLines : Nat

inductive QualityIssue where
  | none
  | poorFit
  | implausible
  deriving Repr, DecidableEq

structure QualityGateResult where
  issue : QualityIssue
  outOfSpec : Bool
  deriving Repr, DecidableEq

section Stages

variable {R : Type} [Zero R] [Add R] [Sub R] [Mul R] [Div R] [OfScientific R] [NatCast R]
  [LT R] [DecidableLT R] [BEq R]

def CurvatureScan.add (scan : CurvatureScan R) (fit : LineFitResult R) : CurvatureScan R :=
  if fit.valid then
    { sum := scan.sum + fit.curvaturePerM
      lo := if scan.first then fit.curvaturePerM else smaller scan.lo fit.curvaturePerM
      hi := if scan.first then fit.curvaturePerM else larger scan.hi fit.curvaturePerM
      first := false
      nLines := scan.nLines + 1 }
  else
    scan

def combineLines (fits : List (LineFitResult R)) : CombinedResult R :=
  let scan := fits.foldl CurvatureScan.add ⟨0, 0, 0, true, 0⟩
  if scan.nLines = 0 then
    ⟨0, 0, 0⟩
  else
    let meanCurvaturePerM := scan.sum / (scan.nLines : R)
    { meanCurvaturePerM := meanCurvaturePerM
      anisotropy :=
        if meanCurvaturePerM == 0 then 0 else (scan.hi - scan.lo) / meanCurvaturePerM
      nLines := scan.nLines }

def stoneyStressPa (kMeanPerM k0PerM biaxialModulusPa substrateThicknessM filmThicknessM : R) : R :=
  biaxialModulusPa * substrateThicknessM * substrateThicknessM * (kMeanPerM - k0PerM) /
    (6.0 * filmThicknessM)

/-- The sum of the squares of the standard errors, and how many there are. -/
def addStandardError (sums : R × Nat) (fit : LineFitResult R) : R × Nat :=
  if fit.valid then
    (sums.1 + fit.seCurvaturePerM * fit.seCurvaturePerM, sums.2 + 1)
  else
    sums

def stressUncertaintyPa [Elementary R] (fits : List (LineFitResult R))
    (biaxialModulusPa substrateThicknessM filmThicknessM : R) : R :=
  let sums := fits.foldl addStandardError (0, 0)
  if sums.2 = 0 then
    0
  else
    let seKMean := Elementary.sqrt sums.1 / (sums.2 : R)
    biaxialModulusPa * substrateThicknessM * substrateThicknessM * seKMean /
      (6.0 * filmThicknessM)

def evaluateQuality [Elementary R] (maxFitRmsM fitRmsLimitM stressPa plausibleLowPa
    plausibleHighPa specLowPa specHighPa : R) : QualityGateResult :=
  if fitRmsLimitM < maxFitRmsM then
    ⟨.poorFit, false⟩
  else if !Elementary.isfinite stressPa || stressPa < plausibleLowPa || plausibleHighPa < stressPa
  then
    ⟨ QualityIssue.implausible, false⟩
  else
    ⟨.none, stressPa < specLowPa || specHighPa < stressPa⟩

end Stages

section Combined

variable {R : Type} [Zero R] [Add R] [Sub R] [Div R] [NatCast R] [LT R] [DecidableLT R] [BEq R]

omit [Zero R] [Sub R] [Div R] [NatCast R] [BEq R] in
theorem foldl_add_nLines (fits : List (LineFitResult R)) (scan : CurvatureScan R) :
    (fits.foldl CurvatureScan.add scan).nLines = scan.nLines + fits.countP (·.valid) := by
  induction fits generalizing scan with
  | nil => simp
  | cons fit fits ih =>
      rw [List.foldl_cons, ih, List.countP_cons, CurvatureScan.add]
      by_cases valid : fit.valid = true
      · rw [if_pos valid, if_pos valid]
        dsimp only
        omega
      · rw [if_neg valid, if_neg valid]
        omega

theorem combineLines_nLines (fits : List (LineFitResult R)) :
    (combineLines fits).nLines = fits.countP (·.valid) := by
  have count := foldl_add_nLines fits ⟨0, 0, 0, true, 0⟩
  rw [Nat.zero_add] at count
  unfold combineLines
  dsimp only
  split
  next none => rw [← count, none]
  next => exact count

/-- Without a valid fit the mean curvature keeps its default. -/
theorem combineLines_none {fits : List (LineFitResult R)}
    (none : ∀ fit ∈ fits, fit.valid = false) : combineLines fits = ⟨0, 0, 0⟩ := by
  have count : fits.countP (·.valid) = 0 :=
    List.countP_eq_zero.mpr fun fit member => by rw [none fit member]; exact Bool.false_ne_true
  unfold combineLines
  dsimp only
  rw [if_pos (by rw [foldl_add_nLines, count])]

end Combined

/-! ## The whole pipeline -/

structure PipelineResult (R : Type) where
  filteredLines : List (FilterResult R)
  lineFits : List (LineFitResult R)
  combined : CombinedResult R
  stressPa : R
  stressUncPa : R
  maxFitRmsM : R
  removedFractionOverall : R
  outlierRemovedFraction : R
  anyDropout : Bool
  quality : QualityGateResult
  map : WaferMap R
  deriving Repr, DecidableEq

section Run

variable {R : Type} [Zero R] [Add R] [Sub R] [Mul R] [Div R] [Neg R] [OfScientific R] [NatCast R]
  [IntCast R] [LT R] [DecidableLT R] [LE R] [DecidableLE R] [BEq R] [Elementary R] [Geometry R]

/-- The samples on either side of a kept one that its median is taken over. -/
def defaultWindowRadius : Int := 40

/-- The filters of one line. -/
def filterLine (config : Config R) (line : LineSamples R) : FilterResult R :=
  applyOutlierRejection (applyEdgeExclusion line config.edgeExclusionMm)
    config.analysis.outlierMadK defaultWindowRadius

/-- The worst residual of the valid fits. -/
def maxFitRms (fits : List (LineFitResult R)) : R :=
  fits.foldl (fun worst fit => if fit.valid then larger worst fit.residualRmsM else worst) 0

/-- The gates on a residual and a stress, with the limits of the configuration. -/
def Config.qualityOf (config : Config R) (maxFitRmsM stressPa : R) : QualityGateResult :=
  evaluateQuality maxFitRmsM (config.analysis.fitRmsLimitUm * 1e-6) stressPa
    (config.analysis.stressPlausibleLowMpa * 1e6) (config.analysis.stressPlausibleHighMpa * 1e6)
    (config.analysis.stressSpecLowMpa * 1e6) (config.analysis.stressSpecHighMpa * 1e6)

/-- The stress of a mean curvature. -/
def Config.stressOf (config : Config R) (meanCurvaturePerM : R) : R :=
  stoneyStressPa meanCurvaturePerM config.wafer.truth.initialCurvature1PerM
    (config.wafer.biaxialModulusGpa * 1e9) (config.wafer.thicknessUm * 1e-6)
    (config.wafer.filmThicknessUm * 1e-6)

/-- A count over all samples, as a fraction of them. -/
def fractionOf (count total : Nat) : R :=
  if 0 < total then (count : R) / (total : R) else 0

/-- What is made of the filtered lines and their fits, serially and in the order of the lines. -/
def aggregate (config : Config R) (filteredLines : List (FilterResult R))
    (lineFits : List (LineFitResult R)) : PipelineResult R :=
  let samples := filteredLines.flatMap (·.samples)
  let totalRemoved := (filteredLines.map (·.removedCount)).sum
  let totalOutliers := samples.countP (·.flag = .outlier)
  let maxFitRmsM := maxFitRms lineFits
  let combined := combineLines lineFits
  let stressPa := config.stressOf combined.meanCurvaturePerM
  let quality := config.qualityOf maxFitRmsM stressPa
  { filteredLines := filteredLines
    lineFits := lineFits
    combined := combined
    stressPa := stressPa
    stressUncPa := stressUncertaintyPa lineFits (config.wafer.biaxialModulusGpa * 1e9)
      (config.wafer.thicknessUm * 1e-6) (config.wafer.filmThicknessUm * 1e-6)
    maxFitRmsM := maxFitRmsM
    removedFractionOverall := fractionOf totalRemoved samples.length
    outlierRemovedFraction := fractionOf totalOutliers samples.length
    anyDropout := samples.any (·.flag = .dropped)
    quality := quality
    map :=
      if quality.issue = .none then
        buildWaferMap lineFits (config.wafer.diameterMm * 1e-3) config.analysis.mapGridMm
      else
        ⟨0, 0, 0, 0, []⟩ }

/-- `run_pipeline` on a single thread. -/
def runPipeline (config : Config R) (lines : List (LineSamples R)) : PipelineResult R :=
  let filteredLines := lines.map (filterLine config)
  aggregate config filteredLines (filteredLines.map fitLine)

/-! ## No number without a measurement -/

omit [Add R] [Sub R] [Mul R] [Div R] [Neg R] [OfScientific R] [NatCast R] [IntCast R] [LE R]
  [DecidableLE R] [BEq R] [Elementary R] [Geometry R] in
/-- Without a valid fit the worst residual keeps its default. -/
theorem maxFitRms_none {fits : List (LineFitResult R)}
    (none : ∀ fit ∈ fits, fit.valid = false) : maxFitRms fits = 0 := by
  induction fits with
  | nil => rfl
  | cons fit fits ih =>
      have rest := ih fun other member => none other (List.mem_cons_of_mem _ member)
      rw [maxFitRms, List.foldl_cons, none fit List.mem_cons_self]
      exact rest

/--
When a reported number is a measured one.  In any arithmetic, for every configuration and
list of lines: a result that passes the gates has a valid fit exactly if one of the lines
gives a valid fit, or the gates stop the stress of the default mean curvature zero.
-/
theorem number_measured_iff (config : Config R) (lines : List (LineSamples R)) :
    let result := runPipeline config lines
    (result.quality.issue = .none →
        1 ≤ result.combined.nLines ∧ ∃ fit ∈ result.lineFits, fit.valid = true) ↔
      (∃ line ∈ lines, (fitLine (filterLine config line)).valid = true) ∨
        (config.qualityOf 0 (config.stressOf 0)).issue ≠ .none := by
  intro result
  have fits : result.lineFits = lines.map fun line => fitLine (filterLine config line) :=
    List.map_map
  have lineCount : result.combined.nLines = result.lineFits.countP (·.valid) :=
    combineLines_nLines _
  have quality : result.quality = config.qualityOf (maxFitRms result.lineFits)
      (config.stressOf (combineLines result.lineFits).meanCurvaturePerM) := rfl
  constructor
  · intro measured
    by_cases fitted : ∃ line ∈ lines, (fitLine (filterLine config line)).valid = true
    · exact .inl fitted
    · right
      intro passes
      have none : ∀ fit ∈ result.lineFits, fit.valid = false := by
        intro fit member
        rw [fits] at member
        obtain ⟨line, here, rfl⟩ := List.mem_map.mp member
        exact Bool.eq_false_iff.mpr fun valid => fitted ⟨line, here, valid⟩
      rw [quality, maxFitRms_none none, combineLines_none none] at measured
      obtain ⟨_, fit, member, valid⟩ := measured passes
      rw [none fit member] at valid
      exact Bool.false_ne_true valid
  · rintro (⟨line, here, valid⟩ | stopped) passes
    · have member : fitLine (filterLine config line) ∈ result.lineFits := by
        rw [fits]
        exact List.mem_map_of_mem here
      refine ⟨?_, _, member, valid⟩
      rw [lineCount]
      exact List.countP_pos_iff.mpr ⟨_, member, valid⟩
    · by_contra unmeasured
      have none : ∀ fit ∈ result.lineFits, fit.valid = false := by
        intro fit member
        refine Bool.eq_false_iff.mpr fun valid => unmeasured ⟨?_, fit, member, valid⟩
        rw [lineCount]
        exact List.countP_pos_iff.mpr ⟨fit, member, valid⟩
      rw [quality, maxFitRms_none none, combineLines_none none] at passes
      exact stopped passes

end Run

/-- Rational numbers, with the angles of the points on the axes. -/
instance : Geometry ℚ where
  pi := 3.14159265358979323846
  hypot x y := Rat.sqrt (x * x + y * y)
  atan2 y x :=
    if y = 0 then
      if x < 0 then 3.14159265358979323846 else 0
    else
      if 0 < y then 3.14159265358979323846 / 2 else -3.14159265358979323846 / 2
  ceil := Rat.ceil
  nan := 0

/-- A line with two samples, both within the excluded edges. -/
def twoSamples : LineSamples ℚ := ⟨0, [-0.15, 0.15], [0, 0]⟩

/-- With the default configuration no line is fitted, and a stress of −36 MPa passes the gates. -/
theorem unmeasured_number_passes :
    let config : Config ℚ := .default
    let result := runPipeline config [twoSamples]
    config.accepted = true ∧ result.quality.issue = .none ∧ result.combined.nLines = 0 ∧
      (∀ fit ∈ result.lineFits, fit.valid = false) ∧ result.stressPa = -216825625 / 6 := by
  decide +kernel

end Ssim.Analysis
