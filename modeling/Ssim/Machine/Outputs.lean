import Ssim.Machine.Runtime
import Ssim.Core.Result
import Ssim.Analysis.Pipeline

/-!
# The outputs of a wafer

What `process_wafer` does with the result of the analysis of a run that is not aborted: it
tells the controller of an alarm or of none, publishes the result if there is no alarm, and
writes the summary.  The summary decides by itself whether it carries a number.  A number
goes to the event bus as a double.
-/

namespace Ssim.Machine

open Ssim.Core
open Ssim.Analysis (Elementary Geometry Config LineSamples runPipeline filterLine fitLine
  fractionOf maxFitRms combineLines stressUncertaintyPa)

/-! ## The summary -/

structure WaferRunMeta (R : Type) where
  runId : Text
  waferId : Text
  slot : Int
  cassetteId : Text
  seed : UInt64
  truthStressMpa : R
  scanMs : Int
  analysisMs : Int

/-- The `result` of a summary; `none` is null. -/
structure SummaryResult (R : Type) where
  stressMpa : Option R
  stressUncMpa : Option R
  meanCurvature1PerM : Option R
  anisotropy : Option R
  fitRmsUmMax : Option R
  removedFraction : Option R
  outOfSpec : Bool
  deriving DecidableEq

structure Summary (R : Type) where
  runId : Text
  waferId : Text
  slot : Int
  cassetteId : Text
  result : SummaryResult R
  /-- Of `simulation_truth`, with the seed. -/
  truthStressMpa : Option R
  seed : UInt64
  scanMs : Int
  analysisMs : Int
  alarms : List Text
  deriving DecidableEq

/-- The directory of a wafer: what the file system allows, and the summary in it. -/
structure WaferDirectory (R : Type) where
  /-- `create_directories` reports no error. -/
  created : Bool
  /-- A file can be opened for writing. -/
  opens : Bool
  /-- The CSV files and the map are written without an error. -/
  othersWritten : Bool
  /-- The path of the summary. -/
  path : String
  summary : Option (Summary R)

/-- A directory that is writable and new. -/
def WaferDirectory.fresh {R : Type} (othersWritten : Bool) (path : String) : WaferDirectory R :=
  ⟨true, true, othersWritten, path, none⟩

def writeErrorExitCode : Nat := 3

section Outputs

variable {R : Type} [Zero R] [Add R] [Sub R] [Mul R] [Div R] [Neg R] [OfScientific R] [NatCast R]
  [IntCast R] [LT R] [DecidableLT R] [LE R] [DecidableLE R] [BEq R] [Elementary R] [Geometry R]

/-- `dump` writes a number that is not finite as null. -/
def dumped (value : R) : Option R :=
  if Elementary.isfinite value then some value else none

def summaryOf (result : Analysis.PipelineResult R) (run : WaferRunMeta R) : Summary R :=
  let hasNumber : Bool := result.quality.issue = .none
  { runId := run.runId
    waferId := run.waferId
    slot := run.slot
    cassetteId := run.cassetteId
    result :=
      { stressMpa := if hasNumber then dumped (result.stressPa * 1e-6) else none
        stressUncMpa := if hasNumber then dumped (result.stressUncPa * 1e-6) else none
        meanCurvature1PerM := dumped result.combined.meanCurvaturePerM
        anisotropy := dumped result.combined.anisotropy
        fitRmsUmMax := dumped (result.maxFitRmsM * 1e6)
        removedFraction := dumped result.removedFractionOverall
        outOfSpec := result.quality.outOfSpec }
    truthStressMpa := dumped run.truthStressMpa
    seed := run.seed
    scanMs := run.scanMs
    analysisMs := run.analysisMs
    alarms := [] }

/-- A summary that is there is never written again. -/
def writeJsonSummary (directory : WaferDirectory R) (result : Analysis.PipelineResult R)
    (run : WaferRunMeta R) : Result (WaferDirectory R) :=
  if directory.summary.isSome then
    .error ⟨writeErrorExitCode, "summary.json already exists: " ++ directory.path⟩
  else if !directory.opens then
    .error ⟨writeErrorExitCode, "cannot open for writing: " ++ directory.path⟩
  else
    .ok { directory with summary := some (summaryOf result run) }

/-! ## The end of `process_wafer` -/

def issueSeen : Analysis.QualityIssue → QualityIssue
  | .none => .none
  | .poorFit => .poorFit
  | Analysis.QualityIssue.implausible => QualityIssue.implausible

/-- What the runtime reads of the result of the pipeline. -/
def resultSeen (double : R → Double) (config : Config R) (result : Analysis.PipelineResult R) :
    PipelineResult where
  issue := issueSeen result.quality.issue
  outOfSpec := result.quality.outOfSpec
  outliersHigh := config.analysis.outlierFractionAlarm < result.outlierRemovedFraction
  anyDropout := result.anyDropout
  stressMpa := double (result.stressPa * 1e-6)
  stressUncMpa := double (result.stressUncPa * 1e-6)
  curvaturePerM := double result.combined.meanCurvaturePerM
  fitRmsUm := double (result.maxFitRmsM * 1e6)

/-- The result on the event bus, unless there is an alarm. -/
def PipelineResult.published (result : PipelineResult) (waferId : Text) :
    Option WaferResultReady :=
  if result.raised.isNone then some (result.ready waferId) else none

/-- What `process_wafer` knows of its run and measures itself. -/
structure RunContext where
  runId : Text
  waferId : Text
  cassetteId : Text
  seed : UInt64
  analysisMs : Int

def RunContext.runMeta (context : RunContext) (config : Config R) : WaferRunMeta R where
  runId := context.runId
  waferId := context.waferId
  slot := 1
  cassetteId := context.cassetteId
  seed := context.seed
  truthStressMpa := config.wafer.truth.stressMpa
  scanMs := 0
  analysisMs := context.analysisMs

/-- What a run leaves behind. -/
structure WaferOutputs (R : Type) where
  raised : Option (AlarmId × Text)
  published : Option WaferResultReady
  directory : WaferDirectory R
  /-- Of the event `WaferOutputsWritten`. -/
  ok : Bool

/-- `process_wafer` from the analysis on, for a run that is not aborted. -/
def processWafer (double : R → Double) (config : Config R) (context : RunContext)
    (directory : WaferDirectory R) (lines : List (LineSamples R)) : WaferOutputs R :=
  let result := runPipeline config lines
  let seen := resultSeen double config result
  let published := seen.published context.waferId
  if !directory.created then
    ⟨seen.raised, published, directory, false⟩
  else
    let others := if result.quality.issue = .none then directory.othersWritten else true
    match writeJsonSummary directory result (context.runMeta config) with
    | .error _ => ⟨seen.raised, published, directory, false⟩
    | .ok written => ⟨seen.raised, published, written, others⟩

omit [Zero R] [Add R] [Sub R] [Div R] [Neg R] [NatCast R] [IntCast R] [LE R] [DecidableLE R]
  [BEq R] [Elementary R] [Geometry R] in
/-- The processing thread publishes what is said here, and then waits for the next wafer. -/
theorem workerStep_published {runtime : MachineRuntime} {run : Nat} {waferId : Text}
    {double : R → Double} {config : Config R} {result : Analysis.PipelineResult R}
    (worker : runtime.worker = .publishing run waferId (resultSeen double config result))
    (other : PipelineResult) :
    runtime.workerStep other = some { runtime with
      worker := .idle
      history := runtime.history ++
        ((resultSeen double config result).published waferId).toList.map (.resultReady run) } := by
  rw [MachineRuntime.workerStep, worker]
  dsimp only
  rw [PipelineResult.published]
  split
  · rfl
  · rw [Option.toList_none, List.map_nil, List.append_nil]

/-! ## The two results -/

/-- The summary is written, and what it reports is what is published. -/
def WaferOutputs.Agree (double : R → Double) (outputs : WaferOutputs R) : Prop :=
  ∃ summary, outputs.directory.summary = some summary ∧
    (outputs.published.isSome = true ↔ summary.result.stressMpa.isSome = true) ∧
    (∀ ready, outputs.published = some ready →
      summary.result.stressMpa.map double = some ready.stressMpa ∧
        summary.result.stressUncMpa.map double = some ready.stressUncMpa ∧
        summary.result.outOfSpec = ready.outOfSpec) ∧
    (outputs.raised.isSome = true → outputs.published = none ∧
      summary.result.stressMpa = none ∧ summary.result.stressUncMpa = none)

/-- A sample of the line was dropped. -/
def dropout (line : LineSamples R) : Bool :=
  (line.sM.zip line.zM).any fun point => Elementary.isnan point.2

/-- The filters flag a larger fraction of the samples as outliers than is allowed. -/
def spikeRateHigh (config : Config R) (lines : List (LineSamples R)) : Bool :=
  let samples := (lines.map (filterLine config)).flatMap (·.samples)
  config.analysis.outlierFractionAlarm <
    fractionOf (samples.countP (·.flag = .outlier)) samples.length

def fitsOf (config : Config R) (lines : List (LineSamples R)) : List (Analysis.LineFitResult R) :=
  (lines.map (filterLine config)).map fitLine

/-- The quality gates stop the fits of the lines. -/
def gated (config : Config R) (lines : List (LineSamples R)) : Bool :=
  let fits := fitsOf config lines
  (config.qualityOf (maxFitRms fits) (config.stressOf (combineLines fits).meanCurvaturePerM)).issue
    ≠ .none

/-- The uncertainty that the fits of the lines give is a number. -/
def uncertaintyFinite (config : Config R) (lines : List (LineSamples R)) : Bool :=
  Elementary.isfinite (stressUncertaintyPa (fitsOf config lines)
    (config.wafer.biaxialModulusGpa * 1e9) (config.wafer.thicknessUm * 1e-6)
    (config.wafer.filmThicknessUm * 1e-6) * 1e-6)

end Outputs

section Agreement

variable {R : Type} [Zero R] [Add R] [Sub R] [Mul R] [Div R] [Neg R] [OfScientific R] [NatCast R]
  [IntCast R] [LT R] [DecidableLT R] [LE R] [DecidableLE R] [BEq R] [Elementary R] [Geometry R]

omit [IntCast R] [BEq R] [Geometry R] in
theorem filterLine_dropped (config : Config R) (line : LineSamples R) :
    (filterLine config line).samples.any Analysis.FilteredSample.isDropped = dropout line := by
  have flags := Analysis.applyOutlierRejection_dropped
    (Analysis.applyEdgeExclusion line config.edgeExclusionMm) config.analysis.outlierMadK
    Analysis.defaultWindowRadius
  rw [Analysis.applyEdgeExclusion_dropped] at flags
  have some := congrArg (List.any · id) flags
  rw [List.any_map, List.any_map] at some
  exact some

/-- The pipeline reports a dropout exactly if a sample was dropped. -/
theorem runPipeline_anyDropout (config : Config R) (lines : List (LineSamples R)) :
    (runPipeline config lines).anyDropout = lines.any dropout := by
  change ((lines.map (filterLine config)).flatMap (·.samples)).any
    Analysis.FilteredSample.isDropped = _
  rw [List.any_flatMap, List.any_map]
  exact congrArg _ (funext fun line => filterLine_dropped config line)

theorem runPipeline_gated (config : Config R) (lines : List (LineSamples R)) :
    gated config lines = true ↔ (runPipeline config lines).quality.issue ≠ .none :=
  decide_eq_true_iff

omit [Zero R] [Add R] [Sub R] [Div R] [Neg R] [NatCast R] [IntCast R] [LE R] [DecidableLE R]
  [BEq R] [Geometry R] in
/-- A stress that passes the gates is a number. -/
theorem isfinite_of_passed {config : Config R} {maxFitRmsM stressPa : R}
    (passed : (config.qualityOf maxFitRmsM stressPa).issue = .none) :
    Elementary.isfinite stressPa = true := by
  unfold Config.qualityOf Analysis.evaluateQuality at passed
  split at passed
  · cases passed
  · split at passed
    · cases passed
    next inWindow =>
      simp only [Bool.or_eq_true, not_or, Bool.not_eq_true, Bool.not_eq_false'] at inWindow
      exact inWindow.1.1

omit [Zero R] [Add R] [Sub R] [Div R] [Neg R] [NatCast R] [IntCast R] [LE R] [DecidableLE R]
  [BEq R] [Elementary R] [Geometry R] in
/-- There is no alarm exactly if the gates, the outliers and the dropouts are all in order. -/
theorem raised_isNone {double : R → Double} {config : Config R}
    {result : Analysis.PipelineResult R} :
    (resultSeen double config result).raised.isNone = true ↔
      result.quality.issue = .none ∧
        ¬ config.analysis.outlierFractionAlarm < result.outlierRemovedFraction ∧
        result.anyDropout = false := by
  unfold PipelineResult.raised resultSeen issueSeen
  cases result.quality.issue with
  | poorFit => simp
  | implausible => simp
  | none =>
      dsimp only
      split <;> simp_all

/-- In a new directory the summary is written. -/
theorem processWafer_fresh (double : R → Double) (config : Config R) (context : RunContext)
    (othersWritten : Bool) (path : String) (lines : List (LineSamples R)) :
    let result := runPipeline config lines
    let outputs := processWafer double config context (.fresh othersWritten path) lines
    outputs.raised = (resultSeen double config result).raised ∧
      outputs.published = (resultSeen double config result).published context.waferId ∧
      outputs.directory.summary = some (summaryOf result (context.runMeta config)) :=
  ⟨rfl, rfl, rfl⟩

section Result

variable {double : R → Double} {config : Config R} {result : Analysis.PipelineResult R}
  {outputs : WaferOutputs R} {waferId : Text} {run : WaferRunMeta R}

omit [Zero R] [Add R] [Sub R] [Div R] [Neg R] [NatCast R] [IntCast R] [LE R] [DecidableLE R]
  [BEq R] [Geometry R]

theorem agree_of_gated (failed : result.quality.issue ≠ .none)
    (published : outputs.published = (resultSeen double config result).published waferId)
    (stored : outputs.directory.summary = some (summaryOf result run)) : outputs.Agree double := by
  have none : outputs.published = none := by
    rw [published, PipelineResult.published,
      if_neg fun silent => failed (raised_isNone.mp silent).1]
  have noNumber : decide (result.quality.issue = .none) = false := decide_eq_false failed
  refine ⟨_, stored, ?_, ?_, fun _ => ⟨none, ?_, ?_⟩⟩
  · simp [none, summaryOf, noNumber]
  · intro ready some
    rw [none] at some
    cases some
  · simp [summaryOf, noNumber]
  · simp [summaryOf, noNumber]

theorem agree_iff_of_passed (passed : result.quality.issue = .none)
    (finite : Elementary.isfinite (result.stressPa * 1e-6) = true)
    (raised : outputs.raised = (resultSeen double config result).raised)
    (published : outputs.published = (resultSeen double config result).published waferId)
    (stored : outputs.directory.summary = some (summaryOf result run)) :
    outputs.Agree double ↔
      (resultSeen double config result).raised.isNone = true ∧
        Elementary.isfinite (result.stressUncPa * 1e-6) = true := by
  have number : (summaryOf result run).result.stressMpa = some (result.stressPa * 1e-6) := by
    simp [summaryOf, passed, dumped, finite]
  have uncertainty : (summaryOf result run).result.stressUncMpa =
      dumped (result.stressUncPa * 1e-6) := by
    simp [summaryOf, passed]
  constructor
  · rintro ⟨summary, found, both, same, _⟩
    obtain rfl := Option.some.inj (stored.symm.trans found)
    -- the summary has a number, so there is a published one, and no alarm
    have some := both.mpr (by rw [number]; rfl)
    rw [published, PipelineResult.published] at some
    split at some
    next silent =>
      refine ⟨silent, ?_⟩
      have carried := (same _ (by rw [published, PipelineResult.published, if_pos silent])).2.1
      rw [uncertainty, dumped] at carried
      split at carried
      next isNumber => exact isNumber
      next => cases carried
    next => cases some
  · rintro ⟨silent, isNumber⟩
    have ready : outputs.published = some ((resultSeen double config result).ready waferId) := by
      rw [published, PipelineResult.published, if_pos silent]
    refine ⟨_, stored, ?_, ?_, ?_⟩
    · rw [ready, number]
      exact Iff.rfl
    · intro other same
      obtain rfl := Option.some.inj (ready.symm.trans same)
      rw [number, uncertainty, dumped, if_pos isNumber]
      exact ⟨rfl, rfl, rfl⟩
    · intro alarmed
      rw [raised] at alarmed
      rw [Option.isNone_iff_eq_none.mp silent] at alarmed
      cases alarmed

end Result

/--
When the published result and the stored one agree.  In any arithmetic in which a
millionth of a finite number is finite, for every configuration, run and list of lines, in
a directory that is writable and new: exactly if the quality gates stop the result, or no
sample was dropped, the outliers are not too many and the uncertainty is finite.
-/
theorem published_agrees_with_summary_iff
    (scaled : ∀ value : R, Elementary.isfinite value = true →
      Elementary.isfinite (value * 1e-6) = true)
    (double : R → Double) (config : Config R) (context : RunContext) (othersWritten : Bool)
    (path : String) (lines : List (LineSamples R)) :
    (processWafer double config context (.fresh othersWritten path) lines).Agree double ↔
      gated config lines = true ∨
        lines.any dropout = false ∧ spikeRateHigh config lines = false ∧
          uncertaintyFinite config lines = true := by
  obtain ⟨raised, published, stored⟩ :=
    processWafer_fresh double config context othersWritten path lines
  by_cases passed : (runPipeline config lines).quality.issue = .none
  · have notGated : ¬ gated config lines = true := fun stopped =>
      (runPipeline_gated config lines).mp stopped passed
    rw [agree_iff_of_passed passed (scaled _ (isfinite_of_passed passed)) raised published stored,
      raised_isNone, runPipeline_anyDropout, or_iff_right notGated]
    constructor
    · rintro ⟨⟨_, few, whole⟩, finite⟩
      exact ⟨whole, decide_eq_false few, finite⟩
    · rintro ⟨whole, few, finite⟩
      exact ⟨⟨passed, of_decide_eq_false few, whole⟩, finite⟩
  · exact iff_of_true (agree_of_gated passed published stored)
      (.inl ((runPipeline_gated config lines).mpr passed))

end Agreement

/-! ## A spike -/

/-- A line over 8 cm with a curvature, and a height of its own in the middle. -/
def bowedLine (curvaturePerM middle : ℚ) : LineSamples ℚ where
  angleRad := 0
  sM := [-0.04, -0.03, -0.02, -0.01, 0, 0.01, 0.02, 0.03, 0.04]
  zM := [-0.04, -0.03, -0.02, -0.01].map (fun s => curvaturePerM / 2 * s * s) ++ [middle] ++
    [0.01, 0.02, 0.03, 0.04].map (fun s => curvaturePerM / 2 * s * s)

def firstWafer : RunContext where
  runId := .ofString "20260921-153012"
  waferId := .ofString "W001"
  cassetteId := .ofString "C001"
  seed := 12345
  analysisMs := 41

/-- The doubles of zero and of the initial curvature. -/
def doubleOf (value : ℚ) : Double :=
  if value = 0.002 then 0x3F60624DD2F1A9FC else 0

def firstWaferOutputs (middle : ℚ) : WaferOutputs ℚ :=
  processWafer doubleOf .default firstWafer (.fresh true "W001/summary.json")
    [bowedLine 0.002 middle]

/-- One spike among nine samples: the alarm stops the event, and the summary has a stress. -/
theorem alarmed_wafer_stores_number :
    (Config.default : Config ℚ).accepted = true ∧
      (firstWaferOutputs 0.001).raised.map Prod.fst = some .sensorSpikeRateHigh ∧
      (firstWaferOutputs 0.001).published = none ∧
      (firstWaferOutputs 0.001).directory.summary.map (·.result.stressMpa) = some (some 0) ∧
      ¬ (firstWaferOutputs 0.001).Agree doubleOf := by
  have published : (firstWaferOutputs 0.001).published = none := by decide +kernel
  have stored : (firstWaferOutputs 0.001).directory.summary.map (·.result.stressMpa) =
      some (some 0) := by decide +kernel
  refine ⟨by decide +kernel, by decide +kernel, published, stored, ?_⟩
  rintro ⟨summary, found, both, _⟩
  rw [found] at stored
  have number : summary.result.stressMpa = some 0 := Option.some.inj stored
  rw [published, number] at both
  exact absurd (both.mpr rfl) Bool.false_ne_true

/-- Without the spike both carry the stress. -/
theorem published_agrees_with_summary_smooth :
    (firstWaferOutputs 0).published.isSome = true ∧ (firstWaferOutputs 0).Agree doubleOf := by
  refine ⟨by decide +kernel, ?_⟩
  refine (published_agrees_with_summary_iff (fun _ _ => rfl) doubleOf .default firstWafer true
    "W001/summary.json" [bowedLine 0.002 0]).mpr (.inr ⟨?_, ?_, ?_⟩)
  · decide +kernel
  · decide +kernel
  · decide +kernel

end Ssim.Machine
