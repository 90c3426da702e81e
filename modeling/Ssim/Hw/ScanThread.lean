import Mathlib.Algebra.Order.Floor.Ring
import Ssim.Core.Controller
import Ssim.Hw.FaultInjector
import Ssim.Hw.WaferModel

/-!
# The scan thread

One wafer is scanned line by line and point by point.  What the thread finds outside, the flag that
asks it to stop, the noise of the laser, the clock, the draws of the fault injectors and whether
the sample queue takes a block, may be anything; what it reports is well formed all the same.
-/

namespace Ssim.Hw

open Core (AlarmId Text)
open Analysis (Geometry)

/-- A scanned line; a height is missing where the sample was dropped. -/
structure SampleBlock (R : Type) where
  lineIndex : Nat
  angleRad : R
  positionsM : List R
  heightsM : List (Option R)
  deriving DecidableEq

inductive ScanEffect (R : Type) where
  | progress (percent : R)
  | setAlarm (id : AlarmId) (reason : Text)
  | clearAlarm (id : AlarmId)
  | push (block : SampleBlock R)
  | stopped
  | linesComplete (waferId : Text)
  deriving DecidableEq

structure ScanSettings (R : Type) where
  wafer : WaferTruth R
  lines : Nat
  pointsPerMm : R

/-- What the thread finds, by line and point, by sample, or by sample and injector. -/
structure ScanWorld (R : Type) where
  aborts : Nat → Nat → Bool
  noise : Nat → R
  elapsedS : Nat → Nat → R
  draws : Nat → Nat → Draws
  pushed : Nat → Bool

section Model

variable {R : Type} [Field R] [LinearOrder R] [IsStrictOrderedRing R] [FloorRing R] [Geometry R]
  [Circular R]

/-- The conversion of a double to an integer. -/
def castToInt (x : R) : Int :=
  if 0 ≤ x then ⌊x⌋ else ⌈x⌉

namespace ScanSettings

variable (settings : ScanSettings R)

def radiusM : R :=
  settings.wafer.diameterM / 2.0

def nPoints : Int :=
  castToInt (settings.radiusM * 2.0 * 1000.0 * settings.pointsPerMm) + 1

def position (point : Nat) : R :=
  -settings.radiusM + 2.0 * settings.radiusM * (point : R) / ((settings.nPoints - 1 : Int) : R)

/-- The share of the wafer that is done, in percent. -/
def progressAt (line points : Nat) : R :=
  100 * ((line : R) + (points : R) / (settings.nPoints : R)) / (settings.lines : R)

def theta (line : Nat) : R :=
  lineAngle settings.lines line

end ScanSettings

def stallAlarm : List (ScanEffect R) :=
  [.setAlarm .scanStall (.ofString "stage stall fault triggered"), .clearAlarm .scanStall]

variable (world : ScanWorld R)

variable (settings : ScanSettings R)

end Model

/-! ## Progress -/

def percents {R : Type} (effects : List (ScanEffect R)) : List R :=
  effects.filterMap fun
    | .progress percent => some percent
    | _ => none

theorem percents_append {R : Type} (before after : List (ScanEffect R)) :
    percents (before ++ after) = percents before ++ percents after :=
  List.filterMap_append

section Calm

variable {R : Type}

/-- What is reported along a line: progress, and stalls whose alarm is cleared at once. -/
inductive Calm : List (ScanEffect R) → Prop where
  | nil : Calm []
  | progress {percent : R} {rest : List (ScanEffect R)} (later : Calm rest) :
      Calm (.progress percent :: rest)
  | stall {rest : List (ScanEffect R)} (later : Calm rest) : Calm (stallAlarm ++ rest)

theorem Calm.append {before after : List (ScanEffect R)} (calm : Calm before)
    (later : Calm after) : Calm (before ++ after) := by
  induction calm with
  | nil => exact later
  | progress _ ih => exact .progress ih
  | stall _ ih =>
      rw [List.append_assoc]
      exact .stall ih

/-- What is reported for one line. -/
structure LineReport (R : Type) where
  points : List (ScanEffect R)
  percent : R
  block : SampleBlock R
  overflow : Bool

def LineReport.effects (report : LineReport R) : List (ScanEffect R) :=
  report.points ++ [.progress report.percent, .push report.block] ++
    if report.overflow then
      [.setAlarm .queueOverflow (.ofString "sample queue full, block dropped")]
    else []

theorem percents_effects (report : LineReport R) :
    percents report.effects = percents report.points ++ [report.percent] := by
  unfold LineReport.effects
  split <;> simp [percents, List.filterMap_append]

end Calm

section Progress

variable {R : Type} [Field R] [LinearOrder R] [FloorRing R] {settings : ScanSettings R}

/-- A scan of some lines with two or more points each. -/
structure ScanSettings.Valid (settings : ScanSettings R) : Prop where
  lines : 1 ≤ settings.lines
  points : 2 ≤ settings.nPoints
  wide : 0 < settings.wafer.diameterM

variable [IsStrictOrderedRing R]

namespace ScanSettings.Valid

variable (valid : settings.Valid)
include valid

theorem lines_pos : (0 : R) < settings.lines :=
  Nat.cast_pos.mpr valid.lines

theorem points_pos : (0 : R) < settings.nPoints :=
  Int.cast_pos.mpr (by have := valid.points; omega)

theorem progressAt_mono (line : Nat) {points more : Nat} (further : points ≤ more) :
    settings.progressAt line points ≤ settings.progressAt line more := by
  have lines := valid.lines_pos
  have all := valid.points_pos
  have cast : (points : R) ≤ more := Nat.cast_le.mpr further
  unfold ScanSettings.progressAt
  gcongr

/-- All points of a line are the beginning of the next one. -/
theorem progressAt_all (line : Nat) :
    settings.progressAt line settings.nPoints.toNat = settings.progressAt (line + 1) 0 := by
  have all := valid.points_pos
  have count : ((settings.nPoints.toNat : Nat) : R) = settings.nPoints := by
    have whole : ((settings.nPoints.toNat : Nat) : Int) = settings.nPoints :=
      Int.toNat_of_nonneg (by have := valid.points; omega)
    rw [← whole]
    push_cast
    rfl
  unfold ScanSettings.progressAt
  rw [count, div_self all.ne']
  push_cast
  ring

theorem progressAt_le (line : Nat) (inside : line ≤ settings.lines) :
    settings.progressAt line 0 ≤ 100 := by
  have lines := valid.lines_pos
  have cast : (line : R) ≤ settings.lines := Nat.cast_le.mpr inside
  unfold ScanSettings.progressAt
  rw [div_le_iff₀ lines, Nat.cast_zero, zero_div, add_zero]
  gcongr

theorem progressAt_next (line : Nat) :
    settings.progressAt line 0 ≤ settings.progressAt (line + 1) 0 := by
  rw [← valid.progressAt_all line]
  exact valid.progressAt_mono line (Nat.zero_le _)

end ScanSettings.Valid

end Progress

section Rising

variable {R : Type} [Field R] [LinearOrder R]

/-- The percents of some effects rise from one whole percent to another. -/
structure Rising (before after : Int) (effects : List (ScanEffect R)) : Prop where
  sorted : (percents effects).Pairwise (· ≤ ·)
  above : ∀ percent ∈ percents effects, (before : R) + 1 ≤ percent
  below : ∀ percent ∈ percents effects, percent ≤ after
  forward : before ≤ after

theorem Rising.nothing (before : Int) : Rising before before ([] : List (ScanEffect R)) where
  sorted := .nil
  above := by simp [percents]
  below := by simp [percents]
  forward := le_rfl

theorem Rising.silent {before after : Int} {effects quiet : List (ScanEffect R)}
    (rising : Rising before after effects) (silent : percents quiet = []) :
    Rising before after (quiet ++ effects) := by
  have same : percents (quiet ++ effects) = percents effects := by
    rw [percents_append, silent, List.nil_append]
  exact ⟨same ▸ rising.sorted, same ▸ rising.above, same ▸ rising.below, rising.forward⟩

variable [IsStrictOrderedRing R]

theorem Rising.append {before middle after : Int} {first second : List (ScanEffect R)}
    (rising : Rising before middle first) (later : Rising middle after second) :
    Rising before after (first ++ second) := by
  have start : (before : R) ≤ middle := Int.cast_le.mpr rising.forward
  have finish : (middle : R) ≤ after := Int.cast_le.mpr later.forward
  refine ⟨?_, ?_, ?_, rising.forward.trans later.forward⟩
  · rw [percents_append]
    refine List.pairwise_append.mpr
      ⟨rising.sorted, later.sorted, fun low inFirst high inSecond => ?_⟩
    have belowMiddle := rising.below low inFirst
    have aboveMiddle := later.above high inSecond
    linarith
  · intro percent isPercent
    rw [percents_append] at isPercent
    rcases List.mem_append.mp isPercent with inFirst | inSecond
    · exact rising.above percent inFirst
    · have aboveMiddle := later.above percent inSecond
      linarith
  · intro percent isPercent
    rw [percents_append] at isPercent
    rcases List.mem_append.mp isPercent with inFirst | inSecond
    · have belowMiddle := rising.below percent inFirst
      linarith
    · exact later.below percent inSecond

end Rising

/-! ## Points -/

section Points

variable {R : Type} [Field R] [LinearOrder R] [IsStrictOrderedRing R] [FloorRing R]
  {settings : ScanSettings R}

variable [Geometry R] [Circular R] {world : ScanWorld R}

/-- Nothing disturbs the samples of a scan. -/
def Undisturbed (world : ScanWorld R) (injectors : List (FaultInjector R)) : Prop :=
  injectors = [] ∧ ∀ sample, world.noise sample = 0

/-- The block of a line has its first so many points, and its heights unless they are disturbed. -/
structure Holds (settings : ScanSettings R) (world : ScanWorld R)
    (injectors : List (FaultInjector R)) (line count : Nat) (report : LineReport R) : Prop where
  calm : Calm report.points
  index : report.block.lineIndex = line
  angle : report.block.angleRad = settings.theta line
  positions : report.block.positionsM = (List.range count).map settings.position
  heights : report.block.heightsM.length = count
  passed : ∀ point < count, world.aborts line point = false
  clean : Undisturbed world injectors → report.block.heightsM =
    report.block.positionsM.map fun s => some (settings.wafer.heightM (settings.theta line) s)

/-- A line that has been scanned to its end. -/
structure WholeLine (settings : ScanSettings R) (world : ScanWorld R)
    (injectors : List (FaultInjector R)) (line : Nat) (report : LineReport R) : Prop where
  holds : Holds settings world injectors line settings.nPoints.toNat report
  percent : report.percent = 100 * ((line + 1 : Nat) : R) / (settings.lines : R)
  overflow : report.overflow = !world.pushed line

/-- A line that an abort has cut. -/
structure CutLine (settings : ScanSettings R) (world : ScanWorld R)
    (injectors : List (FaultInjector R)) (line : Nat) (report : LineReport R) : Prop where
  holds : ∃ count, count < settings.nPoints.toNat ∧ world.aborts line count = true ∧
    Holds settings world injectors line count report
  percent : report.percent = 100 * (line : R) / (settings.lines : R)
  overflow : report.overflow = false

omit [IsStrictOrderedRing R] [Geometry R] [Circular R] in
/-- The percent at the end of a line, among the percents of progress. -/
theorem progressAt_zero (line : Nat) :
    settings.progressAt line 0 = 100 * (line : R) / (settings.lines : R) := by
  simp [ScanSettings.progressAt]

/-- The reports of a scan from some line on: whole lines, and perhaps one that is cut. -/
structure Scanned (settings : ScanSettings R) (world : ScanWorld R)
    (injectors : List (FaultInjector R)) (first count : Nat) (effects : List (ScanEffect R))
    (aborted : Bool) (reports : List (LineReport R)) (cut : Option (LineReport R)) : Prop where
  effects_eq : effects = reports.flatMap LineReport.effects ++ (cut.map LineReport.effects).getD []
  whole : ∀ number report, reports[number]? = some report →
    WholeLine settings world injectors (first + number) report
  ended : cut = none → reports.length = count ∧ aborted = false
  abandoned : ∀ report, cut = some report → reports.length < count ∧ aborted = true ∧
    CutLine settings world injectors (first + reports.length) report
  rising : (percents (reports.flatMap LineReport.effects ++
    (cut.map LineReport.points).getD [])).Pairwise (· ≤ ·)
  low : ∀ percent ∈ percents effects, settings.progressAt first 0 ≤ percent
  high : ∀ percent ∈ percents effects, percent ≤ 100

omit [IsStrictOrderedRing R] in
/-- Injectors that are still there, or disturb nothing. -/
theorem WholeLine.congr {injectors others : List (FaultInjector R)} {line : Nat}
    {report : LineReport R} (whole : WholeLine settings world injectors line report)
    (same : Undisturbed world others → Undisturbed world injectors) :
    WholeLine settings world others line report :=
  ⟨{ whole.holds with clean := fun undisturbed => whole.holds.clean (same undisturbed) },
    whole.percent, whole.overflow⟩

omit [IsStrictOrderedRing R] in
theorem CutLine.congr {injectors others : List (FaultInjector R)} {line : Nat}
    {report : LineReport R} (cut : CutLine settings world injectors line report)
    (same : Undisturbed world others → Undisturbed world injectors) :
    CutLine settings world others line report := by
  obtain ⟨count, short, stops, holds⟩ := cut.holds
  exact ⟨⟨count, short, stops,
    { holds with clean := fun undisturbed => holds.clean (same undisturbed) }⟩,
    cut.percent, cut.overflow⟩

/-- The progress within a line lies between that of its ends, and rises. -/
structure Within (settings : ScanSettings R) (line : Nat) (report : LineReport R) : Prop where
  sorted : (percents report.points).Pairwise (· ≤ ·)
  low : ∀ percent ∈ percents report.points, settings.progressAt line 0 ≤ percent
  high : ∀ percent ∈ percents report.points, percent ≤ settings.progressAt (line + 1) 0

/-- A whole line before the rest of the scan. -/
theorem Scanned.cons (valid : settings.Valid) {injectors others : List (FaultInjector R)}
    {first count : Nat} {effects : List (ScanEffect R)} {aborted : Bool}
    {report : LineReport R} {reports : List (LineReport R)} {cut : Option (LineReport R)}
    (inside : first + (count + 1) ≤ settings.lines)
    (same : Undisturbed world injectors → Undisturbed world others)
    (whole : WholeLine settings world injectors first report)
    (within : Within settings first report)
    (later : Scanned settings world others (first + 1) count effects aborted reports cut) :
    Scanned settings world injectors first (count + 1) (report.effects ++ effects) aborted
      (report :: reports) cut := by
  have top := valid.progressAt_le (first + 1) (by omega)
  have forward := valid.progressAt_next first
  have ending : report.percent = settings.progressAt (first + 1) 0 := by
    rw [whole.percent, progressAt_zero]
  have laterLow : ∀ percent ∈ percents (reports.flatMap LineReport.effects ++
      (cut.map LineReport.points).getD []), settings.progressAt (first + 1) 0 ≤ percent := by
    intro percent isPercent
    refine later.low percent ?_
    rw [later.effects_eq]
    rw [percents_append] at isPercent ⊢
    refine List.mem_append.mpr ((List.mem_append.mp isPercent).imp_right fun inCut => ?_)
    cases cut with
    | none => cases inCut
    | some last =>
        rw [Option.map_some, Option.getD_some, percents_effects]
        exact List.mem_append_left _ inCut
  have percentsAll : ∀ percent ∈ percents (report.effects ++ effects),
      percent ∈ percents report.points ∨ percent = settings.progressAt (first + 1) 0 ∨
        percent ∈ percents effects := by
    intro percent isPercent
    rw [percents_append, percents_effects, ending, List.append_assoc] at isPercent
    rcases List.mem_append.mp isPercent with inPoints | rest
    · exact .inl inPoints
    · exact .inr (List.mem_cons.mp rest)
  exact
    { effects_eq := by
        rw [List.flatMap_cons, List.append_assoc, ← later.effects_eq]
      whole := fun number other found => by
        cases number with
        | zero =>
            obtain rfl := Option.some.inj found
            exact whole
        | succ number =>
            have line := later.whole number other found
            rw [Nat.add_assoc, Nat.add_comm 1] at line
            exact line.congr same
      ended := fun isNone => by
        obtain ⟨length, goes⟩ := later.ended isNone
        exact ⟨congrArg (· + 1) length, goes⟩
      abandoned := fun last isCut => by
        obtain ⟨short, aborted, cutLine⟩ := later.abandoned last isCut
        rw [Nat.add_assoc, Nat.add_comm 1] at cutLine
        exact ⟨Nat.succ_lt_succ short, aborted, cutLine.congr same⟩
      rising := by
        rw [List.flatMap_cons, List.append_assoc, percents_append, percents_effects,
          List.append_assoc, List.singleton_append, ending]
        refine List.pairwise_append.mpr ⟨within.sorted,
          List.pairwise_cons.mpr ⟨laterLow, later.rising⟩, ?_⟩
        intro low isLow high isHigh
        refine (within.high low isLow).trans ?_
        rcases List.mem_cons.mp isHigh with rfl | inLater
        · exact le_rfl
        · exact laterLow high inLater
      low := fun percent isPercent => by
        rcases percentsAll percent isPercent with inPoints | rfl | inLater
        · exact within.low percent inPoints
        · exact forward
        · exact forward.trans (later.low percent inLater)
      high := fun percent isPercent => by
        rcases percentsAll percent isPercent with inPoints | rfl | inLater
        · exact (within.high percent inPoints).trans top
        · exact top
        · exact later.high percent inLater }

end Points

end Ssim.Hw
