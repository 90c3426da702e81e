import Ssim.Core.Config
import Ssim.Library.DoubleRounding
import Ssim.Hsms.StreamSplits
import Ssim.Hsms.Session
import Ssim.Gem.Service
import Ssim.Analysis.Pipeline

/-!
# What the machine makes of its configuration

The sessions, the server and the GEM service take their settings from the configuration,
in types of their own, and the wafer map its size.  The ranges that a configuration is
checked against do not keep every setting within those types.
-/

namespace Ssim.Machine

open Ssim.Core
open Library.Rounding
open Hsms (SessionConfig Duration SType makeControlFrame encodeFrame kHeaderSize kLengthFieldSize)
open Hsms.FrameDecoder (nextFrame nextFrame_encodeFrame nextFrame_of_badLength BadLength)
open Gem (GemConfig)
open Analysis (LineFitResult WaferMap Geometry buildWaferMap)

/-! ## Conversions -/

/-- No result where the standard leaves it open. -/
def llround (x : Binary64) : Option Int :=
  let whole := roundHalfAway x.value
  if -2 ^ 63 ≤ whole ∧ whole < 2 ^ 63 then some whole else none

/-- In milliseconds. -/
def secondsToDuration (seconds : Binary64) : Option Duration := llround (seconds * 1000.0)

def sessionConfigFrom (comm : CommConfig) : Option SessionConfig := do
  let t3 ← secondsToDuration comm.t3S
  let t6 ← secondsToDuration comm.t6S
  let t7 ← secondsToDuration comm.t7S
  let t8 ← secondsToDuration comm.t8S
  let linktestInterval ← secondsToDuration comm.linktestS
  return { t3 := t3, t6 := t6, t7 := t7, t8 := t8, linktestInterval := linktestInterval
           maxFrameBytes := comm.maxFrameBytes.toNat
           deviceId := UInt16.ofInt comm.deviceId.toInt }

structure ServerConfig where
  bind : Text := .ofString "127.0.0.1"
  /-- 0 lets the system choose. -/
  port : UInt16 := 5000
  session : SessionConfig := {}
  tickInterval : Duration := 20

def serverConfigFrom (comm : CommConfig) : Option ServerConfig := do
  let session ← sessionConfigFrom comm
  return { bind := comm.bind, port := UInt16.ofInt comm.port.toInt, session := session }

def gemConfigFrom (config : Config) : GemConfig where
  identity := ⟨config.machine.model, config.machine.softrev⟩
  deviceId := UInt16.ofInt config.comm.deviceId.toInt
  allowHostOnline := config.comm.allowHostOnline
  numLines := config.scan.lines.toInt

/-- The library functions that the map needs, over doubles. -/
structure MapLibrary where
  pi : Binary64
  hypot : Binary64 → Binary64 → Binary64
  atan2 : Binary64 → Binary64 → Binary64
  nan : Binary64

@[reducible]
def MapLibrary.geometry (library : MapLibrary) : Geometry Binary64 where
  pi := library.pi
  hypot := library.hypot
  atan2 := library.atan2
  ceil x := ⌈x.value⌉
  nan := library.nan

/-- The map of a wafer, as the pipeline builds it. -/
def waferMap (library : MapLibrary) (config : Config) (fits : List (LineFitResult Binary64)) :
    WaferMap Binary64 :=
  letI := library.geometry
  buildWaferMap fits (config.wafer.diameterMm * 1e-3) config.analysis.mapGridMm

/-! ## What a configuration keeps -/

/-- At least a millisecond, and within half a millisecond of the seconds. -/
structure TimerKept (seconds : Binary64) (duration : Duration) : Prop where
  positive : 1 ≤ duration
  near : |(duration : ℚ) - 1000 * seconds.value| ≤ 1 / 2

/-- The decoder takes frames without a body. -/
def AdmitsControlFrames (maxFrameBytes : Nat) : Prop :=
  ∀ stype systemBytes byte2 byte3 bytes,
    encodeFrame (makeControlFrame stype systemBytes byte2 byte3) = .ok bytes →
      nextFrame maxFrameBytes bytes =
        .ok (some (makeControlFrame stype systemBytes byte2 byte3, []))

structure SessionKept (comm : CommConfig) (session : SessionConfig) : Prop where
  deviceId : (session.deviceId.toNat : Int) = comm.deviceId.toInt
  t3 : TimerKept comm.t3S session.t3
  t6 : TimerKept comm.t6S session.t6
  t7 : TimerKept comm.t7S session.t7
  t8 : TimerKept comm.t8S session.t8
  linktest : TimerKept comm.linktestS session.linktestInterval
  frames : AdmitsControlFrames session.maxFrameBytes

/-- The half-width and the width are `int`s and the number of cells is a `std::size_t`. -/
def MapFits (map : WaferMap Binary64) : Prop :=
  ∃ halfN width : Int32, ∃ cells : UInt64, map.width = 2 * halfN.toInt + 1 ∧
    map.width = width.toInt ∧ map.width * map.height = cells.toNat

structure ConversionsKept (library : MapLibrary) (config : Config) : Prop where
  session : ∃ session, sessionConfigFrom config.comm = some session ∧
    SessionKept config.comm session
  server : ∃ server, serverConfigFrom config.comm = some server ∧
    (server.port.toNat : Int) = config.comm.port.toInt
  gem : ((gemConfigFrom config).deviceId.toNat : Int) = config.comm.deviceId.toInt
  map : ∀ fits, MapFits (waferMap library config fits)

/-- At least half a millisecond, within 64 bits and half a millisecond of a double, and not
rounded upwards to a half by that. -/
structure TimerSafe (seconds : Binary64) : Prop where
  positive : 1 / 2 ≤ 1000 * seconds.value
  bounded : 1000 * seconds.value < 2 ^ 63 - 2 ^ 9
  near : ∃ double : Binary64, |double.value - 1000 * seconds.value| ≤ 1 / 2
  noHalf : ¬ ∃ whole : ℤ, 1000 * seconds.value < whole + 1 / 2 ∧
    round binary64 (1000 * seconds.value) = whole + 1 / 2

structure ConversionsSafe (config : Config) : Prop where
  deviceId : 0 ≤ config.comm.deviceId.toInt ∧ config.comm.deviceId.toInt ≤ 65535
  t3 : TimerSafe config.comm.t3S
  t6 : TimerSafe config.comm.t6S
  t7 : TimerSafe config.comm.t7S
  t8 : TimerSafe config.comm.t8S
  linktest : TimerSafe config.comm.linktestS
  maxFrameBytes : 10 ≤ config.comm.maxFrameBytes.toNat
  mapGrid : config.wafer.diameterMm.value / 2 ≤
    (2 ^ 30 - 1 + 2 ^ (-24 : ℤ)) * config.analysis.mapGridMm.value

/-! ## Timers -/

/-- The product before it is rounded to an integer. -/
def milliseconds (seconds : Binary64) : ℚ := round binary64 (1000 * seconds.value)

theorem value_mul_thousand (seconds : Binary64) :
    (seconds * 1000.0).value = milliseconds seconds := by
  have thousand : (1000.0 : Binary64).value = 1000 := by decide +kernel
  rw [Binary64.value_mul, thousand, mul_comm, milliseconds]

theorem secondsToDuration_eq_some {seconds : Binary64} {duration : Duration} :
    secondsToDuration seconds = some duration ↔
      roundHalfAway (milliseconds seconds) = duration ∧ -2 ^ 63 ≤ duration ∧
        duration < 2 ^ 63 := by
  unfold secondsToDuration llround
  rw [value_mul_thousand]
  dsimp only
  split
  next range =>
    constructor
    · rintro ⟨rfl⟩
      exact ⟨rfl, range⟩
    · rintro ⟨rfl, -⟩
      rfl
  next range =>
    constructor
    · intro none
      cases none
    · rintro ⟨rfl, inside⟩
      exact absurd inside range

theorem half_le_milliseconds {seconds : Binary64} (positive : 1 / 2 ≤ 1000 * seconds.value) :
    1 / 2 ≤ milliseconds seconds :=
  le_round binary64 ⟨1, -1, by decide, by decide, by norm_num⟩ positive

theorem milliseconds_lt_iff (seconds : Binary64) :
    milliseconds seconds < 2 ^ 63 ↔ 1000 * seconds.value < 2 ^ 63 - 2 ^ 9 := by
  rw [← not_le, ← not_le, not_iff_not]
  constructor
  · intro rounded
    have last : Representable binary64 (2 ^ 63 - 2 ^ 10) :=
      ⟨2 ^ 53 - 1, 10, by decide, by decide, by norm_num⟩
    have middle := le_two_mul_of_le_round binary64 rounded (by norm_num) last
    norm_num at middle ⊢
    linarith
  · intro le
    have limit : round binary64 (2 ^ 63 - 2 ^ 9) = 2 ^ 63 := by decide +kernel
    rw [← limit]
    exact round_mono binary64 le

theorem milliseconds_near_iff (seconds : Binary64) :
    |milliseconds seconds - 1000 * seconds.value| ≤ 1 / 2 ↔
      ∃ double : Binary64, |double.value - 1000 * seconds.value| ≤ 1 / 2 := by
  constructor
  · intro near
    exact ⟨Binary64.ofRat (1000 * seconds.value), near⟩
  · rintro ⟨double, near⟩
    exact le_trans (round_nearest binary64 _ double.isDouble) near

/-- A timer is kept exactly if its seconds are safe. -/
theorem timer_kept_iff (seconds : Binary64) :
    (∃ duration, secondsToDuration seconds = some duration ∧ TimerKept seconds duration) ↔
      TimerSafe seconds := by
  have least : binary64.least ≤ -1 := by decide
  have large : (2 : ℤ) ^ (binary64.precision - 1) < 2 ^ 63 := by decide
  have representable : Representable binary64 (milliseconds seconds) :=
    round_representable binary64 _
  constructor
  · rintro ⟨duration, converted, kept⟩
    obtain ⟨same, -, top⟩ := secondsToDuration_eq_some.mp converted
    have one : (1 : ℚ) ≤ duration := by exact_mod_cast kept.positive
    have positive : 1 / 2 ≤ 1000 * seconds.value := by
      have distance := (abs_le.mp kept.near).2
      linarith
    have near := kept.near
    rw [← same] at near
    obtain ⟨first, noHalf⟩ :=
      (roundHalfAway_round_error binary64 least (by linarith)).mp near
    have half := half_le_milliseconds positive
    have below := (roundHalfAway_lt_iff binary64 (by linarith) representable large).mp (same ▸ top)
    exact ⟨positive, (milliseconds_lt_iff seconds).mp (by exact_mod_cast below),
      (milliseconds_near_iff seconds).mp first, noHalf⟩
  · intro safe
    have half := half_le_milliseconds safe.positive
    have one := one_le_roundHalfAway.mpr half
    have near := (roundHalfAway_round_error binary64 least (by linarith [safe.positive])).mpr
      ⟨(milliseconds_near_iff seconds).mpr safe.near, safe.noHalf⟩
    have bounded : milliseconds seconds < ((2 ^ 63 : ℤ) : ℚ) := by
      exact_mod_cast (milliseconds_lt_iff seconds).mpr safe.bounded
    have below := (roundHalfAway_lt_iff binary64 (by linarith) representable large).mpr bounded
    have bottom : -2 ^ 63 ≤ roundHalfAway (milliseconds seconds) := by omega
    exact ⟨_, secondsToDuration_eq_some.mpr ⟨rfl, bottom, below⟩, one, near⟩

/-! ## Sessions -/

theorem toNat_ofInt_eq_iff (number : Int) :
    ((UInt16.ofInt number).toNat : Int) = number ↔ 0 ≤ number ∧ number ≤ 65535 := by
  simp only [UInt16.ofInt, UInt16.toNat_ofNat']
  omega

theorem admitsControlFrames_iff (maxFrameBytes : Nat) :
    AdmitsControlFrames maxFrameBytes ↔ kHeaderSize ≤ maxFrameBytes := by
  constructor
  · intro admits
    by_contra small
    have bad : BadLength maxFrameBytes [0, 0, 0, 10, 0xFF, 0xFF, 0, 0, 0, 5, 0, 0, 0, 0] :=
      ⟨by decide, .inr (show maxFrameBytes < kHeaderSize by omega)⟩
    obtain ⟨reason, refused⟩ := nextFrame_of_badLength bad
    have read := admits .linktestReq 0 0 0 _ rfl
    exact absurd (refused.symm.trans read) (by simp)
  · intro enough stype systemBytes byte2 byte3 bytes encoded
    have read := nextFrame_encodeFrame encoded enough []
    rwa [List.append_nil] at read

theorem sessionConfigFrom_eq_some {comm : CommConfig} {session : SessionConfig} :
    sessionConfigFrom comm = some session ↔
      ∃ t3 t6 t7 t8 linktest, secondsToDuration comm.t3S = some t3 ∧
        secondsToDuration comm.t6S = some t6 ∧ secondsToDuration comm.t7S = some t7 ∧
        secondsToDuration comm.t8S = some t8 ∧ secondsToDuration comm.linktestS = some linktest ∧
        session = { t3 := t3, t6 := t6, t7 := t7, t8 := t8, linktestInterval := linktest
                    maxFrameBytes := comm.maxFrameBytes.toNat
                    deviceId := UInt16.ofInt comm.deviceId.toInt } := by
  simp only [sessionConfigFrom, Option.bind_eq_bind, Option.bind_eq_some_iff, Option.pure_def,
    Option.some.injEq]
  constructor
  · rintro ⟨t3, at3, t6, at6, t7, at7, t8, at8, linktest, atLinktest, same⟩
    exact ⟨t3, t6, t7, t8, linktest, at3, at6, at7, at8, atLinktest, same.symm⟩
  · rintro ⟨t3, t6, t7, t8, linktest, at3, at6, at7, at8, atLinktest, same⟩
    exact ⟨t3, at3, t6, at6, t7, at7, t8, at8, linktest, atLinktest, same.symm⟩

theorem session_kept_iff (comm : CommConfig) :
    (∃ session, sessionConfigFrom comm = some session ∧ SessionKept comm session) ↔
      (0 ≤ comm.deviceId.toInt ∧ comm.deviceId.toInt ≤ 65535) ∧ TimerSafe comm.t3S ∧
        TimerSafe comm.t6S ∧ TimerSafe comm.t7S ∧ TimerSafe comm.t8S ∧
        TimerSafe comm.linktestS ∧ 10 ≤ comm.maxFrameBytes.toNat := by
  constructor
  · rintro ⟨session, made, kept⟩
    obtain ⟨t3, t6, t7, t8, linktest, at3, at6, at7, at8, atLinktest, rfl⟩ :=
      sessionConfigFrom_eq_some.mp made
    exact ⟨(toNat_ofInt_eq_iff _).mp kept.deviceId, (timer_kept_iff _).mp ⟨t3, at3, kept.t3⟩,
      (timer_kept_iff _).mp ⟨t6, at6, kept.t6⟩, (timer_kept_iff _).mp ⟨t7, at7, kept.t7⟩,
      (timer_kept_iff _).mp ⟨t8, at8, kept.t8⟩,
      (timer_kept_iff _).mp ⟨linktest, atLinktest, kept.linktest⟩,
      (admitsControlFrames_iff _).mp kept.frames⟩
  · rintro ⟨deviceId, t3, t6, t7, t8, linktest, frames⟩
    obtain ⟨d3, at3, kept3⟩ := (timer_kept_iff _).mpr t3
    obtain ⟨d6, at6, kept6⟩ := (timer_kept_iff _).mpr t6
    obtain ⟨d7, at7, kept7⟩ := (timer_kept_iff _).mpr t7
    obtain ⟨d8, at8, kept8⟩ := (timer_kept_iff _).mpr t8
    obtain ⟨interval, atInterval, keptInterval⟩ := (timer_kept_iff _).mpr linktest
    refine ⟨_, sessionConfigFrom_eq_some.mpr
      ⟨d3, d6, d7, d8, interval, at3, at6, at7, at8, atInterval, rfl⟩, ?_⟩
    exact ⟨(toNat_ofInt_eq_iff _).mpr deviceId, kept3, kept6, kept7, kept8, keptInterval,
      (admitsControlFrames_iff _).mpr frames⟩

/-! ## Accepted configurations -/

theorem refuse_eq_none {condition : Prop} [Decidable condition] {message : String} :
    refuse condition message = none ↔ ¬ condition := by
  simp [refuse]

theorem outside_eq_none {library : JsonLibrary} {field : String} {value low high : Binary64} :
    outside library field value low high = none ↔
      low.value ≤ value.value ∧ value.value ≤ high.value := by
  simp [outside]

theorem value_ofInt (number : Int32) : (ofInt number).value = number.toInt := by
  have low := number.le_toInt
  have high := number.toInt_lt
  refine round_of_representable binary64 (representable_intCast binary64 (by decide) ?_)
  rw [abs_le]
  constructor <;> simp only [binary64] <;> omega

/-- What the conversions rely on. -/
structure Accepted (config : Config) : Prop where
  diameter : config.wafer.diameterMm.value = 100 ∨ config.wafer.diameterMm.value = 150 ∨
    config.wafer.diameterMm.value = 200 ∨ config.wafer.diameterMm.value = 300
  grid : 0 < config.analysis.mapGridMm.value
  port : 1 ≤ config.comm.port.toInt ∧ config.comm.port.toInt ≤ 65535

theorem accepted_of_validate {library : JsonLibrary} {config : Config}
    (valid : validate library config = none) : Accepted config := by
  simp only [validate, List.findSome?_eq_none_iff, List.forall_mem_cons, id, refuse_eq_none,
    outside_eq_none, value_ofInt] at valid
  obtain ⟨-, -, -, -, -, diameter, -, -, -, -, -, -, -, -, -, -, grid, -, -, port, -⟩ := valid
  have one : (Binary64.ofRat 1).value = 1 := by decide +kernel
  have last : (Binary64.ofRat 65535).value = 65535 := by decide +kernel
  rw [one, last] at port
  refine ⟨by tauto, by linarith, ?_⟩
  exact ⟨by exact_mod_cast port.1, by exact_mod_cast port.2⟩

/-! ## The map -/

/-- The radius that the map computes from a diameter is exact. -/
theorem radius_exact {diameterMm : Binary64} (diameter : diameterMm.value = 100 ∨
    diameterMm.value = 150 ∨ diameterMm.value = 200 ∨ diameterMm.value = 300) :
    (diameterMm * 1e-3 * 1000.0 / 2.0 : Binary64).value = diameterMm.value / 2 := by
  have small : (1e-3 : Binary64).value = round binary64 (1 / 1000) := by decide +kernel
  have thousand : (1000.0 : Binary64).value = 1000 := by decide +kernel
  have two : (2.0 : Binary64).value = 2 := by decide +kernel
  simp only [Binary64.value_div, Binary64.value_mul, small, thousand, two]
  rcases diameter with same | same | same | same
  · rw [same]
    decide +kernel
  · rw [same]
    decide +kernel
  · rw [same]
    decide +kernel
  · rw [same]
    decide +kernel

theorem round_le_limit_iff (x : ℚ) :
    round binary64 x ≤ 2 ^ 30 - 1 ↔ x ≤ 2 ^ 30 - 1 + 2 ^ (-24 : ℤ) := by
  constructor
  · intro rounded
    have next : Representable binary64 (2 ^ 30 - 1 + 2 ^ (-23 : ℤ)) :=
      ⟨2 ^ 53 - 2 ^ 23 + 1, -23, by decide, by decide, by norm_num⟩
    have middle := two_mul_le_of_round_le binary64 rounded (by norm_num) next
    norm_num at middle ⊢
    linarith
  · intro le
    have limit : round binary64 (2 ^ 30 - 1 + 2 ^ (-24 : ℤ)) = 2 ^ 30 - 1 := by decide +kernel
    rw [← limit]
    exact round_mono binary64 le

theorem mapFits_iff {map : WaferMap Binary64} {halfN : Int} (nonneg : 0 ≤ halfN)
    (width : map.width = 2 * halfN + 1) (height : map.height = map.width) :
    MapFits map ↔ halfN ≤ 2 ^ 30 - 1 := by
  constructor
  · rintro ⟨-, width', -, -, same, -⟩
    have top := width'.toInt_lt
    omega
  · intro le
    have cells : (2 * halfN + 1) * (2 * halfN + 1) ≤ (2 ^ 31 - 1) * (2 ^ 31 - 1) :=
      mul_le_mul (by omega) (by omega) (by omega) (by omega)
    have positive : 0 ≤ (2 * halfN + 1) * (2 * halfN + 1) := mul_self_nonneg _
    refine ⟨Int32.ofInt halfN, Int32.ofInt (2 * halfN + 1),
      UInt64.ofNat ((2 * halfN + 1) * (2 * halfN + 1)).toNat, ?_, ?_, ?_⟩
    · rw [Int32.toInt_ofInt_of_le (by omega) (by omega), width]
    · rw [Int32.toInt_ofInt_of_le (by omega) (by omega), width]
    · rw [height, width, UInt64.toNat_ofNat']
      omega

theorem map_fits_iff (library : MapLibrary) {config : Config} (accepted : Accepted config) :
    (∀ fits, MapFits (waferMap library config fits)) ↔
      config.wafer.diameterMm.value / 2 ≤
        (2 ^ 30 - 1 + 2 ^ (-24 : ℤ)) * config.analysis.mapGridMm.value := by
  have radius : 0 ≤ config.wafer.diameterMm.value / 2 := by
    rcases accepted.diameter with same | same | same | same <;> rw [same] <;> norm_num
  have quotient : 0 ≤ round binary64
      (config.wafer.diameterMm.value / 2 / config.analysis.mapGridMm.value) :=
    le_round binary64 ⟨0, 0, by decide, by decide, by norm_num⟩
      (div_nonneg radius (le_of_lt accepted.grid))
  have width : ∀ fits, (waferMap library config fits).width = 2 * ⌈round binary64
      (config.wafer.diameterMm.value / 2 / config.analysis.mapGridMm.value)⌉ + 1 := by
    intro fits
    rw [← radius_exact accepted.diameter]
    rfl
  have fitting : ∀ fits, MapFits (waferMap library config fits) ↔ round binary64
      (config.wafer.diameterMm.value / 2 / config.analysis.mapGridMm.value) ≤ 2 ^ 30 - 1 := by
    intro fits
    rw [mapFits_iff (Int.ceil_nonneg quotient) (width fits) rfl, Int.ceil_le]
    norm_num
  rw [← div_le_iff₀ accepted.grid, ← round_le_limit_iff]
  constructor
  · intro every
    exact (fitting []).mp (every [])
  · intro le fits
    exact (fitting fits).mpr le

/-! ## The conversions -/

/-- The conversions keep an accepted configuration exactly if its device id has 16 bits, its
timers are safe, a control frame is not too long and the map is not too wide. -/
theorem conversions_kept_iff (library : JsonLibrary) (mapLibrary : MapLibrary) {raw : Json}
    {result : ConfigLoadResult} (accepted : loadConfigFromJson library raw = .ok result) :
    ConversionsKept mapLibrary result.config ↔ ConversionsSafe result.config := by
  have ranges := accepted_of_validate (loadConfigFromJson_eq_ok library accepted).2
  have sessions := session_kept_iff result.config.comm
  have maps := map_fits_iff mapLibrary ranges
  constructor
  · intro kept
    obtain ⟨deviceId, t3, t6, t7, t8, linktest, frames⟩ := sessions.mp kept.session
    exact ⟨deviceId, t3, t6, t7, t8, linktest, frames, maps.mp kept.map⟩
  · intro safe
    have session := sessions.mpr ⟨safe.deviceId, safe.t3, safe.t6, safe.t7, safe.t8, safe.linktest,
      safe.maxFrameBytes⟩
    refine ⟨session, ?_, (toNat_ofInt_eq_iff _).mpr safe.deviceId, maps.mpr safe.mapGrid⟩
    obtain ⟨made, conversion, -⟩ := session
    refine ⟨_, by simp only [serverConfigFrom, conversion]; rfl, ?_⟩
    exact (toNat_ofInt_eq_iff _).mpr ⟨by linarith [ranges.port.1], ranges.port.2⟩

theorem timerSafe_of_exact {seconds : Binary64}
    (same : round binary64 (1000 * seconds.value) = 1000 * seconds.value)
    (positive : 1 / 2 ≤ 1000 * seconds.value)
    (bounded : 1000 * seconds.value < 2 ^ 63 - 2 ^ 9) : TimerSafe seconds := by
  refine ⟨positive, bounded, (milliseconds_near_iff seconds).mp ?_, ?_⟩
  · rw [milliseconds, same, sub_self, abs_zero]
    norm_num
  · rintro ⟨whole, less, half⟩
    rw [same] at half
    exact absurd less (half ▸ lt_irrefl _)

/-- The functions of the rationals, rounded. -/
def sampleMapLibrary : MapLibrary where
  pi := .ofRat Geometry.pi
  hypot x y := .ofRat (Geometry.hypot x.value y.value)
  atan2 y x := .ofRat (Geometry.atan2 y.value x.value)
  nan := 0

theorem default_conversions_kept : ConversionsKept sampleMapLibrary {} := by
  have accepted : loadConfigFromJson sampleLibrary (.object []) = .ok ⟨{}, []⟩ := by
    have sections : loadSections sampleLibrary (.object []) {} = .ok ({}, []) := by rfl
    have valid : validate sampleLibrary {} = none := by decide +kernel
    simp [loadConfigFromJson, Json.isObject, sections, valid]
  refine (conversions_kept_iff sampleLibrary sampleMapLibrary accepted).mpr ?_
  refine ⟨by decide, ?_, ?_, ?_, ?_, ?_, by decide, by decide +kernel⟩ <;>
    exact timerSafe_of_exact (by decide +kernel) (by decide +kernel) (by decide +kernel)

/-- `{"comm": {"device_id": 65536}}` is accepted, and the machine answers to device 0. -/
theorem wide_device_id_accepted :
    loadConfigFromJson sampleLibrary
        (.object [(.ofString "comm", .object [(.ofString "device_id", .integer 65536)])]) =
      .ok ⟨{ comm := { deviceId := 65536 } }, []⟩ ∧
    (gemConfigFrom { comm := { deviceId := 65536 } }).deviceId = 0 ∧
      ¬ ConversionsKept sampleMapLibrary { comm := { deviceId := 65536 } } := by
  refine ⟨?_, by decide, ?_⟩
  · have sections : loadSections sampleLibrary
        (.object [(.ofString "comm", .object [(.ofString "device_id", .integer 65536)])]) {} =
        .ok ({ comm := { deviceId := 65536 } }, []) := by rfl
    have valid : validate sampleLibrary { comm := { deviceId := 65536 } } = none := by
      decide +kernel
    simp [loadConfigFromJson, Json.isObject, sections, valid]
  · intro kept
    exact absurd kept.gem (by decide)

end Ssim.Machine
