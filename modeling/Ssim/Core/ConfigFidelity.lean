import Ssim.Core.Config

/-!
# What a configuration keeps of its document

A document is carried by a configuration if every value in it is the value of the field
of the same name, and every other field has its default.  An accepted document without
warnings can still be lost in part: a section that is no object contains no keys, and a
number is converted to its field's type whether it fits or not.
-/

namespace Ssim.Core

open Library.Rounding

/-! ## Configurations as trees of named values -/

inductive FieldValue where
  | text (value : Text)
  | flag (value : Bool)
  | real (value : Binary64)
  | int (value : Int32)
  | size (value : UInt64)
  | pair (low high : Binary64)

/-- Named values, sections, and lists of sections with the defaults of an entry. -/
inductive Shape where
  | value (value : FieldValue)
  | record (fields : List (Text × Shape))
  | list (entry : Shape) (entries : List Shape)

/-- The value of the field is the value in the document. -/
def FieldValue.Is (json : Json) : FieldValue → Prop
  | text value => json = .string value
  | flag value => json = .boolean value
  | real value => json.number? = some value.value
  | int value => json.number? = some (value.toInt : ℚ)
  | size value => json.number? = some (value.toNat : ℚ)
  | pair low high => ∃ first second, json = .array [first, second] ∧
      first.number? = some low.value ∧ second.number? = some high.value

/-- A number in the document is one that the type of the field has. -/
def FieldValue.Fits (json : Json) : FieldValue → Prop
  | text _ | flag _ => True
  | real _ => ∃ value : Binary64, json.number? = some value.value
  | int _ => ∃ value : Int32, json.number? = some (value.toInt : ℚ)
  | size _ => ∃ value : UInt64, json.number? = some (value.toNat : ℚ)
  | pair _ _ => ∀ items, json = .array items → ∀ item ∈ items,
      ∃ value : Binary64, item.number? = some value.value

mutual

/-- The tree holds what the document says, and the defaults where it says nothing. -/
def Carries : (defaults : Shape) → Json → Shape → Prop
  | .value _, json, .value value => value.Is json
  | .record defaults, json, .record fields =>
      json.isObject = true ∧ (∀ key ∈ json.keys, key ∈ fields.map Prod.fst) ∧
        CarriesFields defaults json fields
  | .list entry _, json, .list _ entries =>
      ∃ items, json = .array items ∧
        List.Forall₂ (fun item shape => Carries entry item shape) items entries
  | _, _, _ => False

def CarriesFields : List (Text × Shape) → Json → List (Text × Shape) → Prop
  | [], _, [] => True
  | (key, default) :: defaults, json, (name, shape) :: fields =>
      name = key ∧ (∀ value, json.find? key = some value → Carries default value shape) ∧
        (json.find? key = none → shape = default) ∧ CarriesFields defaults json fields
  | _, _, _ => False

end

mutual

/-- Every section in the document is an object, and every number fits its field. -/
def Fits : (defaults : Shape) → Json → Prop
  | .value value, json => value.Fits json
  | .record defaults, json => json.isObject = true ∧ FitsFields defaults json
  | .list entry _, json => ∀ items, json = .array items → ∀ item ∈ items, Fits entry item

def FitsFields : List (Text × Shape) → Json → Prop
  | [], _ => True
  | (key, default) :: defaults, json =>
      (∀ value, json.find? key = some value → Fits default value) ∧ FitsFields defaults json

end

theorem fitsFields_iff {defaults : List (Text × Shape)} {json : Json} :
    FitsFields defaults json ↔
      ∀ entry ∈ defaults, ∀ value, json.find? entry.1 = some value → Fits entry.2 value := by
  induction defaults with
  | nil => simp [FitsFields]
  | cons entry defaults ih =>
      obtain ⟨key, default⟩ := entry
      rw [FitsFields, List.forall_mem_cons, ih]

/-- A value under its key. -/
def named (key : String) (value : FieldValue) : Text × Shape := (.ofString key, .value value)

def MachineConfig.shape (machine : MachineConfig) : Shape :=
  .record [named "model" (.text machine.model), named "softrev" (.text machine.softrev)]

def WaferTruthConfig.shape (truth : WaferTruthConfig) : Shape :=
  .record [named "stress_mpa" (.real truth.stressMpa),
    named "initial_curvature_1_per_m" (.real truth.initialCurvature1PerM),
    named "tilt_x_um_per_mm" (.real truth.tiltXUmPerMm),
    named "tilt_y_um_per_mm" (.real truth.tiltYUmPerMm),
    named "anisotropy" (.real truth.anisotropy)]

def WaferConfig.shape (wafer : WaferConfig) : Shape :=
  .record [named "diameter_mm" (.real wafer.diameterMm),
    named "thickness_um" (.real wafer.thicknessUm),
    named "film_thickness_um" (.real wafer.filmThicknessUm),
    named "biaxial_modulus_gpa" (.real wafer.biaxialModulusGpa),
    (.ofString "truth", wafer.truth.shape),
    named "seed" (.size wafer.seed)]

def ScanConfig.shape (scan : ScanConfig) : Shape :=
  .record [named "lines" (.int scan.lines), named "points_per_mm" (.int scan.pointsPerMm),
    named "speed_mm_per_s" (.real scan.speedMmPerS),
    named "realtime_factor" (.real scan.realtimeFactor),
    named "edge_exclusion_mm" (.real scan.edgeExclusionMm)]

def NoiseConfig.shape (noise : NoiseConfig) : Shape :=
  .record [named "sigma_um" (.real noise.sigmaUm)]

def FaultConfig.shape (fault : FaultConfig) : Shape :=
  .record [named "wafer" (.text fault.wafer), named "type" (.text fault.type),
    named "rate" (.real fault.rate), named "amplitude_um" (.real fault.amplitudeUm),
    named "length_samples" (.int fault.lengthSamples),
    named "drift_um_per_s" (.real fault.driftUmPerS),
    named "saturation_limit_um" (.real fault.saturationLimitUm),
    named "stall_duration_s" (.real fault.stallDurationS)]

def faultsShape (faults : List FaultConfig) : Shape :=
  .list (FaultConfig.shape {}) (faults.map FaultConfig.shape)

def AnalysisConfig.shape (analysis : AnalysisConfig) : Shape :=
  .record [named "outlier_mad_k" (.real analysis.outlierMadK),
    named "outlier_fraction_alarm" (.real analysis.outlierFractionAlarm),
    named "fit_rms_limit_um" (.real analysis.fitRmsLimitUm),
    named "stress_spec_mpa" (.pair analysis.stressSpecLowMpa analysis.stressSpecHighMpa),
    named "stress_plausible_mpa"
      (.pair analysis.stressPlausibleLowMpa analysis.stressPlausibleHighMpa),
    named "map_grid_mm" (.real analysis.mapGridMm), named "threads" (.int analysis.threads)]

def CassetteConfig.shape (cassette : CassetteConfig) : Shape :=
  .record [named "id" (.text cassette.id), named "slots" (.int cassette.slots)]

def CommConfig.shape (comm : CommConfig) : Shape :=
  .record [named "enabled" (.flag comm.enabled), named "bind" (.text comm.bind),
    named "port" (.int comm.port), named "device_id" (.int comm.deviceId),
    named "allow_host_online" (.flag comm.allowHostOnline), named "t3_s" (.real comm.t3S),
    named "t5_s" (.real comm.t5S), named "t6_s" (.real comm.t6S), named "t7_s" (.real comm.t7S),
    named "t8_s" (.real comm.t8S), named "linktest_s" (.real comm.linktestS),
    named "max_frame_bytes" (.size comm.maxFrameBytes)]

def OutputConfig.shape (output : OutputConfig) : Shape :=
  .record [named "dir" (.text output.dir), named "save_samples" (.flag output.saveSamples),
    named "sample_decimation" (.int output.sampleDecimation)]

def Config.shape (config : Config) : Shape :=
  .record [(.ofString "machine", config.machine.shape), (.ofString "wafer", config.wafer.shape),
    (.ofString "scan", config.scan.shape), (.ofString "noise", config.noise.shape),
    (.ofString "faults", faultsShape config.faults),
    (.ofString "analysis", config.analysis.shape), (.ofString "cassette", config.cassette.shape),
    (.ofString "comm", config.comm.shape), (.ofString "output", config.output.shape)]

/-! ## Conversions -/

/-- The converted value is the one in the document exactly if the type has that one. -/
def Exact {α : Type} (get : Json → Except Text α) (wrap : α → FieldValue) : Prop :=
  ∀ json value default, get json = .ok value → ((wrap value).Is json ↔ (wrap default).Fits json)

section Conversions

variable (library : JsonLibrary)

theorem getString_exact : Exact (getString library) .text := by
  intro json value default got
  cases json with
  | string text =>
      rw [getString, Except.ok.injEq] at got
      simp [FieldValue.Is, FieldValue.Fits, got]
  | _ => exact absurd got (by simp [getString])

theorem getBool_exact : Exact (getBool library) .flag := by
  intro json value default got
  cases json with
  | boolean flag =>
      rw [getBool, Except.ok.injEq] at got
      simp [FieldValue.Is, FieldValue.Fits, got]
  | _ => exact absurd got (by simp [getBool])

theorem ofRat_exact (x : ℚ) :
    x = (Binary64.ofRat x).value ↔ ∃ value : Binary64, x = value.value := by
  constructor
  · intro same
    exact ⟨_, same⟩
  · rintro ⟨value, rfl⟩
    rw [Binary64.ofRat_value_eq]

theorem getDouble_exact : Exact (getDouble library) .real := by
  intro json value default got
  cases json with
  | integer number | unsigned number =>
      rw [getDouble, Except.ok.injEq] at got
      subst got
      simpa only [FieldValue.Is, FieldValue.Fits, Json.number?, Option.some.injEq] using
        ofRat_exact _
  | float number =>
      rw [getDouble, Except.ok.injEq] at got
      subst got
      simp only [FieldValue.Is, FieldValue.Fits, Json.number?, true_iff]
      exact ⟨number, rfl⟩
  | _ => exact absurd got (by simp [getDouble])

theorem truncate_intCast (number : Int) : truncate (number : ℚ) = number := by
  unfold truncate
  split
  · exact Int.floor_intCast number
  · exact Int.ceil_intCast number

theorem int32_range (number : Int32) : -2 ^ 31 ≤ number.toInt ∧ number.toInt < 2 ^ 31 :=
  ⟨number.le_toInt, number.toInt_lt⟩

theorem getInt_exact : Exact (getInt library) .int := by
  intro json value default got
  constructor
  · intro same
    exact ⟨value, same⟩
  · rintro ⟨number, same⟩
    -- A number of the type comes through every branch of the cast.
    suffices value = number by rw [this]; exact same
    have range := int32_range number
    cases json with
    | integer other =>
        simp only [Json.number?, Option.some.injEq, Int.cast_inj] at same
        rw [getInt, Except.ok.injEq, same, Int32.ofInt_toInt] at got
        exact got.symm
    | unsigned other =>
        simp only [Json.number?, Option.some.injEq] at same
        have equal : (other.toNat : Int) = number.toInt := by exact_mod_cast same
        rw [getInt, Except.ok.injEq, equal, Int32.ofInt_toInt] at got
        exact got.symm
    | float other =>
        simp only [Json.number?, Option.some.injEq] at same
        simp only [getInt, same, truncate_intCast, if_pos range, Int32.ofInt_toInt,
          Except.ok.injEq] at got
        exact got.symm
    | _ => exact absurd same (by simp [Json.number?])

theorem ofInt_toNat (number : UInt64) : UInt64.ofInt (number.toNat : Int) = number := by
  have range := number.toNat_lt
  apply UInt64.toNat_inj.mp
  simp only [UInt64.ofInt, UInt64.toNat_ofNat']
  omega

theorem getSize_exact : Exact (getSize library) .size := by
  intro json value default got
  constructor
  · intro same
    exact ⟨value, same⟩
  · rintro ⟨number, same⟩
    suffices value = number by rw [this]; exact same
    have range := number.toNat_lt
    cases json with
    | integer other =>
        simp only [Json.number?, Option.some.injEq] at same
        have equal : other.toInt = (number.toNat : Int) := by exact_mod_cast same
        rw [getSize, Except.ok.injEq, equal, ofInt_toNat] at got
        exact got.symm
    | unsigned other =>
        simp only [Json.number?, Option.some.injEq, Nat.cast_inj] at same
        rw [getSize, Except.ok.injEq] at got
        rw [← got]
        exact UInt64.toNat_inj.mp same
    | float other =>
        simp only [Json.number?, Option.some.injEq] at same
        have whole : truncate other.value = (number.toNat : Int) := by
          rw [same]
          exact truncate_intCast number.toNat
        simp only [getSize, whole] at got
        rw [if_pos ⟨by omega, by omega⟩, Except.ok.injEq, ofInt_toNat] at got
        exact got.symm
    | _ => exact absurd same (by simp [Json.number?])

end Conversions

/-! ## Sections -/

/-- What the document says of a field, if anything, is in the tree exactly if it fits. -/
def Settled (json : Json) (default field : Text × Shape) : Prop :=
  field.1 = default.1 ∧
    (((∀ value, json.find? field.1 = some value → Carries default.2 value field.2) ∧
        (json.find? field.1 = none → field.2 = default.2)) ↔
      ∀ value, json.find? field.1 = some value → Fits default.2 value)

theorem settled_of_absent {json : Json} {key : Text} {default : Shape}
    (absent : json.find? key = none) : Settled json (key, default) (key, default) := by
  refine ⟨rfl, ?_⟩
  simp [absent]

theorem settled_of_present {json value : Json} {key : Text} {default shape : Shape}
    (present : json.find? key = some value)
    (same : Carries default value shape ↔ Fits default value) :
    Settled json (key, default) (key, shape) := by
  refine ⟨rfl, ?_⟩
  simpa [present] using same

theorem carriesFields_iff {json : Json} {defaults fields : List (Text × Shape)}
    (settled : List.Forall₂ (Settled json) defaults fields) :
    CarriesFields defaults json fields ↔ FitsFields defaults json := by
  induction settled with
  | nil => simp [CarriesFields, FitsFields]
  | @cons default field defaults fields head tail ih =>
      obtain ⟨key, default⟩ := default
      obtain ⟨name, shape⟩ := field
      obtain ⟨sameName, same⟩ := head
      dsimp only at sameName same
      subst sameName
      rw [CarriesFields, FitsFields, ← same, ih]
      tauto

theorem checkUnknownKeys_eq_nil {object : Json} {path : Text} {knownKeys : List Text} :
    checkUnknownKeys object path knownKeys = [] ↔ ∀ key ∈ object.keys, key ∈ knownKeys := by
  simp [checkUnknownKeys]

/-- A section without unknown keys is carried exactly if its document fits. -/
theorem record_iff {json : Json} {path : Text} {knownKeys : List Text}
    {defaults fields : List (Text × Shape)} (known : checkUnknownKeys json path knownKeys = [])
    (names : fields.map Prod.fst = knownKeys)
    (settled : List.Forall₂ (Settled json) defaults fields) :
    Carries (.record defaults) json (.record fields) ↔ Fits (.record defaults) json := by
  rw [Carries, Fits, carriesFields_iff settled, names]
  have keys := checkUnknownKeys_eq_nil.mp known
  tauto

theorem bind_eq_ok {ε α β : Type} {x : Except ε α} {f : α → Except ε β} {r : β} :
    x >>= f = .ok r ↔ ∃ a, x = .ok a ∧ f a = .ok r := by
  cases x with
  | error reason => simp [bind, Except.bind]
  | ok value => simp [bind, Except.bind]

theorem pure_eq_ok {α : Type} {value loaded : α} {warnings : List Text} :
    (pure (value, warnings) : Except ConfigError (Loaded α)) = .ok (loaded, []) ↔
      value = loaded ∧ warnings = [] := by
  simp [pure, Except.pure]

theorem caught_eq_ok {α : Type} {got : Except Text α} {value : α} :
    caught got = .ok value ↔ got = .ok value := by
  cases got with
  | error what => simp [caught, rejected]
  | ok other => simp [caught]

theorem getOr_settled {α : Type} {get : Json → Except Text α} {wrap : α → FieldValue}
    (exactly : Exact get wrap) {json : Json} {key : String} {default value : α}
    (got : getOr get json key default = .ok value) :
    Settled json (named key (wrap default)) (named key (wrap value)) := by
  unfold getOr at got
  cases found : json.find? (.ofString key) with
  | none =>
      rw [found] at got
      cases got
      exact settled_of_absent found
  | some item =>
      rw [found] at got
      refine settled_of_present found ?_
      rw [Carries, Fits]
      exact exactly item value default (caught_eq_ok.mp got)

/-- A section loaded without warnings is carried exactly if its document fits. -/
def LoadsExactly {α : Type} (load : Json → Except ConfigError (Loaded α)) (default : Shape)
    (shape : α → Shape) : Prop :=
  ∀ json loaded, load json = .ok (loaded, []) →
    (Carries default json (shape loaded) ↔ Fits default json)

theorem loadSection_settled {α : Type} {load : Json → α → Except ConfigError (Loaded α)}
    {current : α} {shape : α → Shape}
    (exactly : LoadsExactly (load · current) (shape current) shape) {json : Json} {key : String}
    {loaded : α} (section_ : loadSection json key current load = .ok (loaded, [])) :
    Settled json (.ofString key, shape current) (.ofString key, shape loaded) := by
  unfold loadSection at section_
  cases found : json.find? (.ofString key) with
  | none =>
      rw [found] at section_
      cases section_
      exact settled_of_absent found
  | some item =>
      rw [found] at section_
      exact settled_of_present found (exactly item loaded section_)

section Sections

variable (library : JsonLibrary)

theorem loadMachine_exact (machine : MachineConfig) :
    LoadsExactly (loadMachine library · machine) machine.shape MachineConfig.shape := by
  intro json loaded got
  simp only [loadMachine, bind_eq_ok, pure_eq_ok] at got
  obtain ⟨model, gotModel, softrev, gotSoftrev, rfl, known⟩ := got
  exact record_iff known rfl (.cons (getOr_settled (getString_exact library) gotModel)
    (.cons (getOr_settled (getString_exact library) gotSoftrev) .nil))

theorem loadTruth_exact (truth : WaferTruthConfig) :
    LoadsExactly (loadTruth library · truth) truth.shape WaferTruthConfig.shape := by
  intro json loaded got
  simp only [loadTruth, bind_eq_ok, pure_eq_ok] at got
  obtain ⟨stress, gotStress, curvature, gotCurvature, tiltX, gotTiltX, tiltY, gotTiltY,
    anisotropy, gotAnisotropy, rfl, known⟩ := got
  have real := getDouble_exact library
  exact record_iff known rfl (.cons (getOr_settled real gotStress)
    (.cons (getOr_settled real gotCurvature) (.cons (getOr_settled real gotTiltX)
    (.cons (getOr_settled real gotTiltY) (.cons (getOr_settled real gotAnisotropy) .nil)))))

theorem loadWafer_exact (wafer : WaferConfig) :
    LoadsExactly (loadWafer library · wafer) wafer.shape WaferConfig.shape := by
  intro json loaded got
  simp only [loadWafer, bind_eq_ok, pure_eq_ok, List.append_eq_nil_iff] at got
  obtain ⟨diameter, gotDiameter, thickness, gotThickness, film, gotFilm, modulus, gotModulus,
    seed, gotSeed, ⟨truth, warnings⟩, gotTruth, rfl, known, none⟩ := got
  dsimp only at none
  subst none
  have real := getDouble_exact library
  exact record_iff known rfl (.cons (getOr_settled real gotDiameter)
    (.cons (getOr_settled real gotThickness) (.cons (getOr_settled real gotFilm)
    (.cons (getOr_settled real gotModulus)
    (.cons (loadSection_settled (loadTruth_exact library wafer.truth) gotTruth)
    (.cons (getOr_settled (getSize_exact library) gotSeed) .nil))))))

theorem loadScan_exact (scan : ScanConfig) :
    LoadsExactly (loadScan library · scan) scan.shape ScanConfig.shape := by
  intro json loaded got
  simp only [loadScan, bind_eq_ok, pure_eq_ok] at got
  obtain ⟨lines, gotLines, points, gotPoints, speed, gotSpeed, factor, gotFactor, edge, gotEdge,
    rfl, known⟩ := got
  have int := getInt_exact library
  have real := getDouble_exact library
  exact record_iff known rfl (.cons (getOr_settled int gotLines)
    (.cons (getOr_settled int gotPoints) (.cons (getOr_settled real gotSpeed)
    (.cons (getOr_settled real gotFactor) (.cons (getOr_settled real gotEdge) .nil)))))

theorem loadNoise_exact (noise : NoiseConfig) :
    LoadsExactly (loadNoise library · noise) noise.shape NoiseConfig.shape := by
  intro json loaded got
  simp only [loadNoise, bind_eq_ok, pure_eq_ok] at got
  obtain ⟨sigma, gotSigma, rfl, known⟩ := got
  exact record_iff known rfl (.cons (getOr_settled (getDouble_exact library) gotSigma) .nil)

theorem loadFault_exact (fault : FaultConfig) :
    LoadsExactly (loadFault library · fault) fault.shape FaultConfig.shape := by
  intro json loaded got
  simp only [loadFault, bind_eq_ok, pure_eq_ok] at got
  obtain ⟨wafer, gotWafer, type, gotType, rate, gotRate, amplitude, gotAmplitude, length,
    gotLength, drift, gotDrift, limit, gotLimit, stall, gotStall, rfl, known⟩ := got
  have text := getString_exact library
  have real := getDouble_exact library
  exact record_iff known rfl (.cons (getOr_settled text gotWafer)
    (.cons (getOr_settled text gotType) (.cons (getOr_settled real gotRate)
    (.cons (getOr_settled real gotAmplitude)
    (.cons (getOr_settled (getInt_exact library) gotLength)
    (.cons (getOr_settled real gotDrift) (.cons (getOr_settled real gotLimit)
    (.cons (getOr_settled real gotStall) .nil))))))))

theorem loadFaultItems_exact {items : List Json} {faults : List FaultConfig}
    (got : loadFaultItems library items = .ok (faults, [])) :
    List.Forall₂ (fun item fault => Carries (FaultConfig.shape {}) item fault) items
        (faults.map FaultConfig.shape) ↔
      ∀ item ∈ items, Fits (FaultConfig.shape {}) item := by
  induction items generalizing faults with
  | nil =>
      cases got
      simp
  | cons item items ih =>
      simp only [loadFaultItems, bind_eq_ok, pure_eq_ok, List.append_eq_nil_iff] at got
      obtain ⟨⟨fault, own⟩, gotFault, ⟨others, theirs⟩, gotOthers, rfl, noOwn, noTheirs⟩ := got
      dsimp only at noOwn noTheirs
      subst noOwn noTheirs
      have first := loadFault_exact library {} item fault gotFault
      rw [List.map_cons, List.forall₂_cons, List.forall_mem_cons, first, ih gotOthers]

theorem loadFaults_exact :
    LoadsExactly (loadFaults library · []) (faultsShape []) faultsShape := by
  intro json loaded got
  cases json with
  | array items =>
      simp only [loadFaults, bind_eq_ok, pure_eq_ok, List.nil_append] at got
      obtain ⟨⟨faults, warnings⟩, gotItems, same, none⟩ := got
      dsimp only at same none
      subst same none
      simpa [faultsShape, Carries, Fits] using loadFaultItems_exact library gotItems
  | _ => exact absurd got (by simp [loadFaults, rejected])

theorem getPair_settled {json : Json} {key : String} {low high : Binary64}
    {pair : Binary64 × Binary64} (got : getPair library json key low high = .ok pair) :
    Settled json (named key (.pair low high)) (named key (.pair pair.1 pair.2)) := by
  unfold getPair at got
  split at got
  next absent =>
      cases got
      exact settled_of_absent absent
  next first second present =>
      simp only [bind_eq_ok, caught_eq_ok] at got
      obtain ⟨lowest, gotLowest, highest, gotHighest, same⟩ := got
      cases same
      have atLowest := getDouble_exact library first lowest low gotLowest
      have atHighest := getDouble_exact library second highest high gotHighest
      refine settled_of_present present ?_
      simp only [FieldValue.Is, FieldValue.Fits] at atLowest atHighest
      simp [Carries, Fits, FieldValue.Is, FieldValue.Fits, atLowest, atHighest]
  next => exact absurd got (by simp [rejected])

theorem loadAnalysis_exact (analysis : AnalysisConfig) :
    LoadsExactly (loadAnalysis library · analysis) analysis.shape AnalysisConfig.shape := by
  intro json loaded got
  simp only [loadAnalysis, bind_eq_ok, pure_eq_ok] at got
  obtain ⟨factor, gotFactor, fraction, gotFraction, limit, gotLimit, spec, gotSpec, bounds,
    gotBounds, grid, gotGrid, threads, gotThreads, rfl, known⟩ := got
  have real := getDouble_exact library
  exact record_iff known rfl (.cons (getOr_settled real gotFactor)
    (.cons (getOr_settled real gotFraction) (.cons (getOr_settled real gotLimit)
    (.cons (getPair_settled library gotSpec) (.cons (getPair_settled library gotBounds)
    (.cons (getOr_settled real gotGrid)
    (.cons (getOr_settled (getInt_exact library) gotThreads) .nil)))))))

theorem loadCassette_exact (cassette : CassetteConfig) :
    LoadsExactly (loadCassette library · cassette) cassette.shape CassetteConfig.shape := by
  intro json loaded got
  simp only [loadCassette, bind_eq_ok, pure_eq_ok] at got
  obtain ⟨id, gotId, slots, gotSlots, rfl, known⟩ := got
  exact record_iff known rfl (.cons (getOr_settled (getString_exact library) gotId)
    (.cons (getOr_settled (getInt_exact library) gotSlots) .nil))

theorem loadComm_exact (comm : CommConfig) :
    LoadsExactly (loadComm library · comm) comm.shape CommConfig.shape := by
  intro json loaded got
  simp only [loadComm, bind_eq_ok, pure_eq_ok] at got
  obtain ⟨enabled, gotEnabled, bind, gotBind, port, gotPort, deviceId, gotDeviceId, allow,
    gotAllow, t3, gotT3, t5, gotT5, t6, gotT6, t7, gotT7, t8, gotT8, linktest, gotLinktest, bytes,
    gotBytes, rfl, known⟩ := got
  have flag := getBool_exact library
  have int := getInt_exact library
  have real := getDouble_exact library
  exact record_iff known rfl (.cons (getOr_settled flag gotEnabled)
    (.cons (getOr_settled (getString_exact library) gotBind) (.cons (getOr_settled int gotPort)
    (.cons (getOr_settled int gotDeviceId) (.cons (getOr_settled flag gotAllow)
    (.cons (getOr_settled real gotT3) (.cons (getOr_settled real gotT5)
    (.cons (getOr_settled real gotT6) (.cons (getOr_settled real gotT7)
    (.cons (getOr_settled real gotT8) (.cons (getOr_settled real gotLinktest)
    (.cons (getOr_settled (getSize_exact library) gotBytes) .nil))))))))))))

theorem loadOutput_exact (output : OutputConfig) :
    LoadsExactly (loadOutput library · output) output.shape OutputConfig.shape := by
  intro json loaded got
  simp only [loadOutput, bind_eq_ok, pure_eq_ok] at got
  obtain ⟨dir, gotDir, save, gotSave, decimation, gotDecimation, rfl, known⟩ := got
  exact record_iff known rfl (.cons (getOr_settled (getString_exact library) gotDir)
    (.cons (getOr_settled (getBool_exact library) gotSave)
    (.cons (getOr_settled (getInt_exact library) gotDecimation) .nil)))

/-! ## The document -/

theorem loadSections_exact :
    LoadsExactly (loadSections library · {}) (Config.shape {}) Config.shape := by
  intro json loaded got
  simp only [loadSections, bind_eq_ok, pure_eq_ok, List.append_eq_nil_iff, and_assoc] at got
  obtain ⟨⟨machine, _⟩, gotMachine, ⟨wafer, _⟩, gotWafer, ⟨scan, _⟩, gotScan, ⟨noise, _⟩, gotNoise,
    ⟨faults, _⟩, gotFaults, ⟨analysis, _⟩, gotAnalysis, ⟨cassette, _⟩, gotCassette, ⟨comm, _⟩,
    gotComm, ⟨output, _⟩, gotOutput, same, known, none⟩ := got
  dsimp only at none
  obtain ⟨rfl, rfl, rfl, rfl, rfl, rfl, rfl, rfl, rfl⟩ := none
  subst same
  have atFaults : Settled json (.ofString "faults", faultsShape [])
      (.ofString "faults", faultsShape faults) :=
    loadSection_settled (loadFaults_exact library) gotFaults
  exact record_iff known rfl
    (.cons (loadSection_settled (loadMachine_exact library {}) gotMachine)
    (.cons (loadSection_settled (loadWafer_exact library {}) gotWafer)
    (.cons (loadSection_settled (loadScan_exact library {}) gotScan)
    (.cons (loadSection_settled (loadNoise_exact library {}) gotNoise)
    (.cons atFaults (.cons (loadSection_settled (loadAnalysis_exact library {}) gotAnalysis)
    (.cons (loadSection_settled (loadCassette_exact library {}) gotCassette)
    (.cons (loadSection_settled (loadComm_exact library {}) gotComm)
    (.cons (loadSection_settled (loadOutput_exact library {}) gotOutput) .nil)))))))))

/-- A document loaded without warnings is carried exactly if its sections are objects and its
numbers are of the types of their fields. -/
theorem document_carried_iff {raw : Json} {config : Config}
    (loaded : loadConfigFromJson library raw = .ok ⟨config, []⟩) :
    Carries (Config.shape {}) raw config.shape ↔ Fits (Config.shape {}) raw :=
  loadSections_exact library raw config (loadConfigFromJson_eq_ok library loaded).1

end Sections

theorem four_lines_carried :
    Carries (Config.shape {})
        (.object [(.ofString "scan", .object [(.ofString "lines", .integer 4)])])
        (Config.shape { scan := { lines := 4 } }) ↔
      Fits (Config.shape {})
        (.object [(.ofString "scan", .object [(.ofString "lines", .integer 4)])]) := by
  refine document_carried_iff sampleLibrary ?_
  have sections : loadSections sampleLibrary
      (.object [(.ofString "scan", .object [(.ofString "lines", .integer 4)])]) {} =
      .ok ({ scan := { lines := 4 } }, []) := by rfl
  have valid : validate sampleLibrary { scan := { lines := 4 } } = none := by decide +kernel
  simp [loadConfigFromJson, Json.isObject, sections, valid]

/-- `{"scan": 5}` and `{"comm": {"device_id": 4294967296}}` both load as the defaults. -/
theorem section_ignored_and_number_wrapped :
    (loadConfigFromJson sampleLibrary (.object [(.ofString "scan", .integer 5)]) = .ok ⟨{}, []⟩ ∧
      ¬ Carries (Config.shape {}) (.object [(.ofString "scan", .integer 5)])
        (Config.shape {})) ∧
    loadConfigFromJson sampleLibrary
        (.object [(.ofString "comm", .object [(.ofString "device_id", .integer 4294967296)])]) =
      .ok ⟨{}, []⟩ ∧
      ¬ Carries (Config.shape {})
        (.object [(.ofString "comm", .object [(.ofString "device_id", .integer 4294967296)])])
        (Config.shape {}) := by
  have valid : validate sampleLibrary {} = none := by decide +kernel
  refine ⟨⟨?_, ?_⟩, ?_, ?_⟩
  · have sections : loadSections sampleLibrary (.object [(.ofString "scan", .integer 5)]) {} =
        .ok ({}, []) := by rfl
    simp [loadConfigFromJson, Json.isObject, sections, valid]
  · intro carried
    have fields := (loadSections_exact sampleLibrary _ {} (by rfl)).mp carried
    have scan := fitsFields_iff.mp fields.2 _ (.tail _ (.tail _ (.head _))) _ (by rfl)
    cases scan.1
  · have sections : loadSections sampleLibrary
        (.object [(.ofString "comm", .object [(.ofString "device_id", .integer 4294967296)])]) {} =
        .ok ({}, []) := by rfl
    simp [loadConfigFromJson, Json.isObject, sections, valid]
  · intro carried
    have fields := (loadSections_exact sampleLibrary _ {} (by rfl)).mp carried
    have comm := fitsFields_iff.mp fields.2 (.ofString "comm", CommConfig.shape {})
      (by simp) _ (by rfl)
    have deviceId := fitsFields_iff.mp comm.2 (named "device_id" (.int 0))
      (by simp) _ (by rfl)
    obtain ⟨value, same⟩ := deviceId
    have whole : (4294967296 : Int) = value.toInt := by
      simpa [Json.number?, ← Int.cast_inj (α := ℚ)] using same
    have range := int32_range value
    omega

end Ssim.Core
