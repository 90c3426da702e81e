import Ssim.Core.Json

/-!
# Configuration

A JSON document becomes a configuration section by section: a key that is absent keeps
its default, an unknown one is a warning, and a value of the wrong type is an error.
The result is then checked against its ranges.
-/

namespace Ssim.Core

open Library.Rounding

def kConfigErrorExitCode : Nat := 2

structure ConfigError where
  code : Nat
  message : Text
  deriving Repr, DecidableEq

/-! ## Sections -/

structure MachineConfig where
  model : Text := .ofString "SSIM-128"
  softrev : Text := .ofString "0.1.0"

structure WaferTruthConfig where
  stressMpa : Binary64 := .ofRat (-180)
  initialCurvature1PerM : Binary64 := .ofRat 0.002
  tiltXUmPerMm : Binary64 := .ofRat 0.8
  tiltYUmPerMm : Binary64 := .ofRat (-0.3)
  anisotropy : Binary64 := .ofRat 0.05

structure WaferConfig where
  diameterMm : Binary64 := .ofRat 300
  thicknessUm : Binary64 := .ofRat 775
  filmThicknessUm : Binary64 := .ofRat 1
  biaxialModulusGpa : Binary64 := .ofRat 180.5
  truth : WaferTruthConfig := {}
  seed : UInt64 := 12345

structure ScanConfig where
  lines : Int32 := 6
  pointsPerMm : Int32 := 40
  speedMmPerS : Binary64 := .ofRat 150
  realtimeFactor : Binary64 := .ofRat 1
  edgeExclusionMm : Binary64 := .ofRat 3

structure NoiseConfig where
  sigmaUm : Binary64 := .ofRat 0.5

structure FaultConfig where
  wafer : Text := []
  type : Text := []
  rate : Binary64 := .ofRat 0
  amplitudeUm : Binary64 := .ofRat 0
  lengthSamples : Int32 := 1
  driftUmPerS : Binary64 := .ofRat 0
  saturationLimitUm : Binary64 := .ofRat 0
  stallDurationS : Binary64 := .ofRat 0

structure AnalysisConfig where
  outlierMadK : Binary64 := .ofRat 6
  outlierFractionAlarm : Binary64 := .ofRat 0.01
  fitRmsLimitUm : Binary64 := .ofRat 2
  stressSpecLowMpa : Binary64 := .ofRat (-400)
  stressSpecHighMpa : Binary64 := .ofRat 400
  stressPlausibleLowMpa : Binary64 := .ofRat (-5000)
  stressPlausibleHighMpa : Binary64 := .ofRat 5000
  mapGridMm : Binary64 := .ofRat 1
  threads : Int32 := 0

structure CassetteConfig where
  id : Text := .ofString "C001"
  slots : Int32 := 25

structure CommConfig where
  enabled : Bool := true
  bind : Text := .ofString "127.0.0.1"
  port : Int32 := 5000
  deviceId : Int32 := 0
  allowHostOnline : Bool := true
  t3S : Binary64 := .ofRat 45
  t5S : Binary64 := .ofRat 10
  t6S : Binary64 := .ofRat 5
  t7S : Binary64 := .ofRat 10
  t8S : Binary64 := .ofRat 5
  linktestS : Binary64 := .ofRat 60
  maxFrameBytes : UInt64 := 1048576

structure OutputConfig where
  dir : Text := .ofString "results"
  saveSamples : Bool := true
  sampleDecimation : Int32 := 10

structure Config where
  machine : MachineConfig := {}
  wafer : WaferConfig := {}
  scan : ScanConfig := {}
  noise : NoiseConfig := {}
  faults : List FaultConfig := []
  analysis : AnalysisConfig := {}
  cassette : CassetteConfig := {}
  comm : CommConfig := {}
  output : OutputConfig := {}

structure ConfigLoadResult where
  config : Config
  warnings : List Text

/-! ## Reading -/

section Load

variable (library : JsonLibrary)

def rejected {α : Type} (message : Text) : Except ConfigError α :=
  .error ⟨kConfigErrorExitCode, message⟩

/-- A section, and the warnings about its keys. -/
abbrev Loaded (α : Type) := α × List Text

/-- A warning for every key of an object that is not known. -/
def checkUnknownKeys (object : Json) (path : Text) (knownKeys : List Text) : List Text :=
  (object.keys.filter fun key => !knownKeys.contains key).map fun key =>
    Text.ofString "unknown key: " ++ path ++ Text.ofString "." ++ key

/-- An exception of the library ends the load. -/
def caught {α : Type} : Except Text α → Except ConfigError α
  | .ok value => .ok value
  | .error what => rejected (Text.ofString "config parse error: " ++ what)

def getOr {α : Type} (get : Json → Except Text α) (object : Json) (key : String)
    (defaultValue : α) : Except ConfigError α :=
  match object.find? (.ofString key) with
  | some value => caught (get value)
  | none => .ok defaultValue

/-- A section that is absent keeps its defaults. -/
def loadSection {α : Type} (object : Json) (key : String) (current : α)
    (load : Json → α → Except ConfigError (Loaded α)) : Except ConfigError (Loaded α) :=
  match object.find? (.ofString key) with
  | some value => load value current
  | none => .ok (current, [])

def machineKeys : List Text := ["model", "softrev"].map .ofString

def loadMachine (m : Json) (machine : MachineConfig) :
    Except ConfigError (Loaded MachineConfig) := do
  let model ← getOr (getString library) m "model" machine.model
  let softrev ← getOr (getString library) m "softrev" machine.softrev
  return (⟨model, softrev⟩, checkUnknownKeys m (.ofString "machine") machineKeys)

def truthKeys : List Text :=
  ["stress_mpa", "initial_curvature_1_per_m", "tilt_x_um_per_mm", "tilt_y_um_per_mm",
    "anisotropy"].map .ofString

def loadTruth (t : Json) (truth : WaferTruthConfig) :
    Except ConfigError (Loaded WaferTruthConfig) := do
  let stressMpa ← getOr (getDouble library) t "stress_mpa" truth.stressMpa
  let initialCurvature ←
    getOr (getDouble library) t "initial_curvature_1_per_m" truth.initialCurvature1PerM
  let tiltX ← getOr (getDouble library) t "tilt_x_um_per_mm" truth.tiltXUmPerMm
  let tiltY ← getOr (getDouble library) t "tilt_y_um_per_mm" truth.tiltYUmPerMm
  let anisotropy ← getOr (getDouble library) t "anisotropy" truth.anisotropy
  return (⟨stressMpa, initialCurvature, tiltX, tiltY, anisotropy⟩,
    checkUnknownKeys t (.ofString "wafer.truth") truthKeys)

def waferKeys : List Text :=
  ["diameter_mm", "thickness_um", "film_thickness_um", "biaxial_modulus_gpa", "truth",
    "seed"].map .ofString

def loadWafer (w : Json) (wafer : WaferConfig) : Except ConfigError (Loaded WaferConfig) := do
  let diameterMm ← getOr (getDouble library) w "diameter_mm" wafer.diameterMm
  let thicknessUm ← getOr (getDouble library) w "thickness_um" wafer.thicknessUm
  let filmThicknessUm ← getOr (getDouble library) w "film_thickness_um" wafer.filmThicknessUm
  let biaxialModulusGpa ←
    getOr (getDouble library) w "biaxial_modulus_gpa" wafer.biaxialModulusGpa
  let seed ← getOr (getSize library) w "seed" wafer.seed
  let truth ← loadSection w "truth" wafer.truth (loadTruth library)
  return (⟨diameterMm, thicknessUm, filmThicknessUm, biaxialModulusGpa, truth.1, seed⟩,
    checkUnknownKeys w (.ofString "wafer") waferKeys ++ truth.2)

def scanKeys : List Text :=
  ["lines", "points_per_mm", "speed_mm_per_s", "realtime_factor",
    "edge_exclusion_mm"].map .ofString

def loadScan (s : Json) (scan : ScanConfig) : Except ConfigError (Loaded ScanConfig) := do
  let lines ← getOr (getInt library) s "lines" scan.lines
  let pointsPerMm ← getOr (getInt library) s "points_per_mm" scan.pointsPerMm
  let speedMmPerS ← getOr (getDouble library) s "speed_mm_per_s" scan.speedMmPerS
  let realtimeFactor ← getOr (getDouble library) s "realtime_factor" scan.realtimeFactor
  let edgeExclusionMm ← getOr (getDouble library) s "edge_exclusion_mm" scan.edgeExclusionMm
  return (⟨lines, pointsPerMm, speedMmPerS, realtimeFactor, edgeExclusionMm⟩,
    checkUnknownKeys s (.ofString "scan") scanKeys)

def noiseKeys : List Text := ["sigma_um"].map .ofString

def loadNoise (n : Json) (noise : NoiseConfig) : Except ConfigError (Loaded NoiseConfig) := do
  let sigmaUm ← getOr (getDouble library) n "sigma_um" noise.sigmaUm
  return (⟨sigmaUm⟩, checkUnknownKeys n (.ofString "noise") noiseKeys)

def faultKeys : List Text :=
  ["wafer", "type", "rate", "amplitude_um", "length_samples", "drift_um_per_s",
    "saturation_limit_um", "stall_duration_s"].map .ofString

def loadFault (item : Json) (fc : FaultConfig) : Except ConfigError (Loaded FaultConfig) := do
  let wafer ← getOr (getString library) item "wafer" fc.wafer
  let type ← getOr (getString library) item "type" fc.type
  let rate ← getOr (getDouble library) item "rate" fc.rate
  let amplitudeUm ← getOr (getDouble library) item "amplitude_um" fc.amplitudeUm
  let lengthSamples ← getOr (getInt library) item "length_samples" fc.lengthSamples
  let driftUmPerS ← getOr (getDouble library) item "drift_um_per_s" fc.driftUmPerS
  let saturationLimitUm ←
    getOr (getDouble library) item "saturation_limit_um" fc.saturationLimitUm
  let stallDurationS ← getOr (getDouble library) item "stall_duration_s" fc.stallDurationS
  return (⟨wafer, type, rate, amplitudeUm, lengthSamples, driftUmPerS, saturationLimitUm,
      stallDurationS⟩,
    checkUnknownKeys item (.ofString "faults[]") faultKeys)

/-- Each entry of the array makes a fault. -/
def loadFaultItems : List Json → Except ConfigError (Loaded (List FaultConfig))
  | [] => .ok ([], [])
  | item :: items => do
      let fault ← loadFault library item {}
      let faults ← loadFaultItems items
      return (fault.1 :: faults.1, fault.2 ++ faults.2)

def loadFaults (f : Json) (faults : List FaultConfig) :
    Except ConfigError (Loaded (List FaultConfig)) :=
  match f with
  | .array items => do
      let loaded ← loadFaultItems library items
      return (faults ++ loaded.1, loaded.2)
  | _ => rejected (.ofString "faults must be an array")

def analysisKeys : List Text :=
  ["outlier_mad_k", "outlier_fraction_alarm", "fit_rms_limit_um", "stress_spec_mpa",
    "stress_plausible_mpa", "map_grid_mm", "threads"].map .ofString

/-- A field that is written as `[low, high]`. -/
def getPair (object : Json) (key : String) (defaultLow defaultHigh : Binary64) :
    Except ConfigError (Binary64 × Binary64) :=
  match object.find? (.ofString key) with
  | none => .ok (defaultLow, defaultHigh)
  | some (.array [first, second]) => do
      let low ← caught (getDouble library first)
      let high ← caught (getDouble library second)
      return (low, high)
  | some _ =>
      rejected (Text.ofString "analysis." ++ .ofString key ++
        Text.ofString " must be a [low, high] array")

def loadAnalysis (a : Json) (analysis : AnalysisConfig) :
    Except ConfigError (Loaded AnalysisConfig) := do
  let outlierMadK ← getOr (getDouble library) a "outlier_mad_k" analysis.outlierMadK
  let outlierFractionAlarm ←
    getOr (getDouble library) a "outlier_fraction_alarm" analysis.outlierFractionAlarm
  let fitRmsLimitUm ← getOr (getDouble library) a "fit_rms_limit_um" analysis.fitRmsLimitUm
  let spec ← getPair library a "stress_spec_mpa" analysis.stressSpecLowMpa
    analysis.stressSpecHighMpa
  let limits ← getPair library a "stress_plausible_mpa" analysis.stressPlausibleLowMpa
    analysis.stressPlausibleHighMpa
  let mapGridMm ← getOr (getDouble library) a "map_grid_mm" analysis.mapGridMm
  let threads ← getOr (getInt library) a "threads" analysis.threads
  return (⟨outlierMadK, outlierFractionAlarm, fitRmsLimitUm, spec.1, spec.2, limits.1,
      limits.2, mapGridMm, threads⟩,
    checkUnknownKeys a (.ofString "analysis") analysisKeys)

def cassetteKeys : List Text := ["id", "slots"].map .ofString

def loadCassette (c : Json) (cassette : CassetteConfig) :
    Except ConfigError (Loaded CassetteConfig) := do
  let id ← getOr (getString library) c "id" cassette.id
  let slots ← getOr (getInt library) c "slots" cassette.slots
  return (⟨id, slots⟩, checkUnknownKeys c (.ofString "cassette") cassetteKeys)

def commKeys : List Text :=
  ["enabled", "bind", "port", "device_id", "allow_host_online", "t3_s", "t5_s", "t6_s", "t7_s",
    "t8_s", "linktest_s", "max_frame_bytes"].map .ofString

def loadComm (c : Json) (comm : CommConfig) : Except ConfigError (Loaded CommConfig) := do
  let enabled ← getOr (getBool library) c "enabled" comm.enabled
  let bind ← getOr (getString library) c "bind" comm.bind
  let port ← getOr (getInt library) c "port" comm.port
  let deviceId ← getOr (getInt library) c "device_id" comm.deviceId
  let allowHostOnline ← getOr (getBool library) c "allow_host_online" comm.allowHostOnline
  let t3S ← getOr (getDouble library) c "t3_s" comm.t3S
  let t5S ← getOr (getDouble library) c "t5_s" comm.t5S
  let t6S ← getOr (getDouble library) c "t6_s" comm.t6S
  let t7S ← getOr (getDouble library) c "t7_s" comm.t7S
  let t8S ← getOr (getDouble library) c "t8_s" comm.t8S
  let linktestS ← getOr (getDouble library) c "linktest_s" comm.linktestS
  let maxFrameBytes ← getOr (getSize library) c "max_frame_bytes" comm.maxFrameBytes
  return (⟨enabled, bind, port, deviceId, allowHostOnline, t3S, t5S, t6S, t7S, t8S, linktestS,
      maxFrameBytes⟩,
    checkUnknownKeys c (.ofString "comm") commKeys)

def outputKeys : List Text := ["dir", "save_samples", "sample_decimation"].map .ofString

def loadOutput (o : Json) (output : OutputConfig) :
    Except ConfigError (Loaded OutputConfig) := do
  let dir ← getOr (getString library) o "dir" output.dir
  let saveSamples ← getOr (getBool library) o "save_samples" output.saveSamples
  let sampleDecimation ← getOr (getInt library) o "sample_decimation" output.sampleDecimation
  return (⟨dir, saveSamples, sampleDecimation⟩,
    checkUnknownKeys o (.ofString "output") outputKeys)

/-! ## Ranges -/

def rangeError (field : String) (value low high : Binary64) : ConfigError :=
  ⟨kConfigErrorExitCode, Text.ofString field ++ Text.ofString " = " ++ library.shown value ++
    Text.ofString " is out of range [" ++ library.shown low ++ Text.ofString ", " ++
    library.shown high ++ Text.ofString "]"⟩

/-- The error for a value outside its range. -/
def outside (field : String) (value low high : Binary64) : Option ConfigError :=
  if value.value < low.value ∨ high.value < value.value then
    some (rangeError library field value low high)
  else none

/-- The error of a condition that must not hold. -/
def refuse (condition : Prop) [Decidable condition] (message : String) : Option ConfigError :=
  if condition then some ⟨kConfigErrorExitCode, .ofString message⟩ else none

/-- An `int` as the `double` it is compared and shown as. -/
def ofInt (value : Int32) : Binary64 := .ofRat value.toInt

/-- The first failed check. -/
def validate (config : Config) : Option ConfigError :=
  [ outside library "scan.lines" (ofInt config.scan.lines) (.ofRat 1) (.ofRat 32),
    outside library "scan.points_per_mm" (ofInt config.scan.pointsPerMm) (.ofRat 10) (.ofRat 80),
    outside library "scan.edge_exclusion_mm" config.scan.edgeExclusionMm (.ofRat 0) (.ofRat 20),
    refuse (config.scan.realtimeFactor.value < 0) "scan.realtime_factor must be >= 0",
    refuse (config.scan.speedMmPerS.value ≤ 0) "scan.speed_mm_per_s must be > 0",
    refuse (config.wafer.diameterMm.value ≠ 100 ∧ config.wafer.diameterMm.value ≠ 150 ∧
        config.wafer.diameterMm.value ≠ 200 ∧ config.wafer.diameterMm.value ≠ 300)
      "wafer.diameter_mm must be one of 100, 150, 200, 300 (FR-SCN-1)",
    refuse (config.wafer.thicknessUm.value ≤ 0) "wafer.thickness_um must be > 0",
    refuse (config.wafer.filmThicknessUm.value ≤ 0) "wafer.film_thickness_um must be > 0",
    refuse (config.wafer.biaxialModulusGpa.value ≤ 0) "wafer.biaxial_modulus_gpa must be > 0",
    refuse (config.noise.sigmaUm.value < 0) "noise.sigma_um must be >= 0",
    outside library "analysis.fit_rms_limit_um" config.analysis.fitRmsLimitUm (.ofRat 0.1)
      (.ofRat 50),
    outside library "analysis.stress_spec_mpa[0]" config.analysis.stressSpecLowMpa
      (.ofRat (-5000)) (.ofRat 5000),
    outside library "analysis.stress_spec_mpa[1]" config.analysis.stressSpecHighMpa
      (.ofRat (-5000)) (.ofRat 5000),
    refuse (config.analysis.stressSpecHighMpa.value < config.analysis.stressSpecLowMpa.value)
      "analysis.stress_spec_mpa low must not exceed high",
    refuse (config.analysis.outlierMadK.value ≤ 0) "analysis.outlier_mad_k must be > 0",
    outside library "analysis.outlier_fraction_alarm" config.analysis.outlierFractionAlarm
      (.ofRat 0) (.ofRat 1),
    refuse (config.analysis.mapGridMm.value ≤ 0) "analysis.map_grid_mm must be > 0",
    refuse (config.analysis.threads.toInt < 0)
      "analysis.threads must be >= 0 (0 means automatic)",
    outside library "cassette.slots" (ofInt config.cassette.slots) (.ofRat 1) (.ofRat 25),
    outside library "comm.port" (ofInt config.comm.port) (.ofRat 1) (.ofRat 65535),
    refuse (config.comm.t3S.value ≤ 0 ∨ config.comm.t5S.value ≤ 0 ∨ config.comm.t6S.value ≤ 0 ∨
        config.comm.t7S.value ≤ 0 ∨ config.comm.t8S.value ≤ 0 ∨ config.comm.linktestS.value ≤ 0)
      "comm timers (t3_s, t5_s, t6_s, t7_s, t8_s, linktest_s) must be > 0",
    refuse (config.comm.maxFrameBytes = 0) "comm.max_frame_bytes must be > 0",
    refuse (config.output.sampleDecimation.toInt < 1) "output.sample_decimation must be >= 1"
  ].findSome? id

/-! ## Loading -/

def configKeys : List Text :=
  ["machine", "wafer", "scan", "noise", "faults", "analysis", "cassette", "comm",
    "output"].map .ofString

/-- The sections in the order of the document format. -/
def loadSections (raw : Json) (config : Config) : Except ConfigError (Loaded Config) := do
  let machine ← loadSection raw "machine" config.machine (loadMachine library)
  let wafer ← loadSection raw "wafer" config.wafer (loadWafer library)
  let scan ← loadSection raw "scan" config.scan (loadScan library)
  let noise ← loadSection raw "noise" config.noise (loadNoise library)
  let faults ← loadSection raw "faults" config.faults (loadFaults library)
  let analysis ← loadSection raw "analysis" config.analysis (loadAnalysis library)
  let cassette ← loadSection raw "cassette" config.cassette (loadCassette library)
  let comm ← loadSection raw "comm" config.comm (loadComm library)
  let output ← loadSection raw "output" config.output (loadOutput library)
  return (⟨machine.1, wafer.1, scan.1, noise.1, faults.1, analysis.1, cassette.1, comm.1,
      output.1⟩,
    checkUnknownKeys raw [] configKeys ++ machine.2 ++ wafer.2 ++ scan.2 ++ noise.2 ++
      faults.2 ++ analysis.2 ++ cassette.2 ++ comm.2 ++ output.2)

def loadConfigFromJson (raw : Json) : Except ConfigError ConfigLoadResult :=
  if raw.isObject = false then rejected (.ofString "config root must be a JSON object")
  else
    match loadSections library raw {} with
    | .error reason => .error reason
    | .ok (config, warnings) =>
        match validate library config with
        | some reason => .error reason
        | none => .ok ⟨config, warnings⟩

theorem loadConfigFromJson_eq_ok {raw : Json} {config : Config} {warnings : List Text}
    (loaded : loadConfigFromJson library raw = .ok ⟨config, warnings⟩) :
    loadSections library raw {} = .ok (config, warnings) ∧ validate library config = none := by
  unfold loadConfigFromJson at loaded
  split at loaded
  next => exact absurd loaded (by simp [rejected])
  next =>
      split at loaded
      next => exact absurd loaded (by simp)
      next sections =>
          split at loaded
          next => exact absurd loaded (by simp)
          next valid =>
              cases loaded
              exact ⟨sections, valid⟩

end Load

end Ssim.Core
