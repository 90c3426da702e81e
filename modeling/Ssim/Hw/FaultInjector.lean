import Mathlib.Algebra.Order.Field.Basic
import Mathlib.Algebra.Order.Ring.Int
import Mathlib.Data.Rat.Cast.OfScientific

/-!
# The fault injector

One kind of fault on a stream of samples.  The random engine is asked at most twice for a sample,
and its answers are inputs here.  A fault that comes in runs disturbs, from each sample at which it
is triggered, as many samples as its length says, and no other.
-/

namespace Ssim.Hw

inductive FaultType where
  | spike
  | burst
  | dropout
  | stuck
  | drift
  | saturation
  | stageStall
  deriving Repr, DecidableEq

structure FaultSpec (R : Type) where
  type : FaultType
  amplitudeUm : R
  lengthSamples : Int
  driftUmPerS : R
  saturationLimitUm : R

structure FaultSample (R : Type) where
  /-- Nothing where the sample is dropped. -/
  heightM : Option R
  stageStall : Bool := false
  deriving DecidableEq

/-- What the random engine answers for one sample, if it is asked. -/
structure Draws where
  trigger : Bool
  positive : Bool
  deriving Repr, DecidableEq

structure FaultInjector (R : Type) where
  spec : FaultSpec R
  runRemaining : Nat
  stuckValueM : R

section Model

variable {R : Type} [Field R] [LinearOrder R]

/-- `std::clamp`. -/
def clamp (value low high : R) : R :=
  if value < low then low else if high < value then high else value

namespace FaultSpec

def runLength (spec : FaultSpec R) : Nat :=
  (max 1 spec.lengthSamples).toNat

def offset (spec : FaultSpec R) (draws : Draws) (height : R) : R :=
  height + (if draws.positive then 1 else -1) * spec.amplitudeUm * 1e-6

end FaultSpec

namespace FaultInjector

def fresh (spec : FaultSpec R) : FaultInjector R :=
  ⟨spec, 0, 0⟩

/-- A run begins where none is going on. -/
def trigger (injector : FaultInjector R) (draws : Draws) (clean : R) : FaultInjector R :=
  if injector.runRemaining = 0 ∧ draws.trigger = true then
    { injector with
      runRemaining := injector.spec.runLength
      stuckValueM := if injector.spec.type = .stuck then clean else injector.stuckValueM }
  else injector

/-- The sample of a run, and the run after it. -/
def inRun (injector : FaultInjector R) (clean : R) (faulty : Option R) :
    FaultSample R × FaultInjector R :=
  if injector.runRemaining > 0 then
    (⟨faulty, false⟩, { injector with runRemaining := injector.runRemaining - 1 })
  else
    (⟨some clean, false⟩, injector)

def apply (injector : FaultInjector R) (draws : Draws) (elapsedS clean : R) :
    FaultSample R × FaultInjector R :=
  let spec := injector.spec
  match spec.type with
  | .spike =>
      (⟨some (if draws.trigger then spec.offset draws clean else clean), false⟩, injector)
  | .burst => (injector.trigger draws clean).inRun clean (some (spec.offset draws clean))
  | .dropout => (injector.trigger draws clean).inRun clean none
  | .stuck =>
      let triggered := injector.trigger draws clean
      triggered.inRun clean (some triggered.stuckValueM)
  | .drift => (⟨some (clean + spec.driftUmPerS * 1e-6 * elapsedS), false⟩, injector)
  | .saturation =>
      let limitM := spec.saturationLimitUm * 1e-6
      (⟨some (clamp clean (-limitM) limitM), false⟩, injector)
  | .stageStall => (⟨some clean, draws.trigger⟩, injector)

end FaultInjector

/-! ## Runs of faults -/

/-- A sample, as it is read and as it is passed on. -/
structure Sampled (R : Type) where
  draws : Draws
  clean : R
  passed : FaultSample R

def FaultInjector.samples (injector : FaultInjector R) :
    List (Draws × R × R) → List (Sampled R)
  | [] => []
  | (draws, elapsedS, clean) :: rest =>
      ⟨draws, clean, (injector.apply draws elapsedS clean).1⟩ ::
        (injector.apply draws elapsedS clean).2.samples rest

/-- What a run makes of a sample, when `first` is the height at which it began. -/
def FaultSpec.hits (spec : FaultSpec R) (first : R) (sample : Sampled R) : Prop :=
  match spec.type with
  | .burst => sample.passed = ⟨some (spec.offset sample.draws sample.clean), false⟩
  | .dropout => sample.passed = ⟨none, false⟩
  | .stuck => sample.passed = ⟨some first, false⟩
  | _ => False

/-- The samples between the runs are as they were read, and each run has its full length. -/
inductive Episodes (spec : FaultSpec R) : List (Sampled R) → Prop where
  | nil : Episodes spec []
  | clean {sample : Sampled R} {rest : List (Sampled R)} (calm : sample.draws.trigger = false)
      (passed : sample.passed = ⟨some sample.clean, false⟩) (later : Episodes spec rest) :
      Episodes spec (sample :: rest)
  | run {sample : Sampled R} {block rest : List (Sampled R)}
      (triggered : sample.draws.trigger = true)
      (hit : ∀ other ∈ sample :: block, spec.hits sample.clean other)
      (whole : block.length + 1 = spec.runLength) (later : Episodes spec rest) :
      Episodes spec (sample :: (block ++ rest))
  /-- The last run ends with the stream. -/
  | cut {sample : Sampled R} {block : List (Sampled R)} (triggered : sample.draws.trigger = true)
      (hit : ∀ other ∈ sample :: block, spec.hits sample.clean other)
      (short : block.length + 1 < spec.runLength) :
      Episodes spec (sample :: block)

namespace FaultInjector

variable {spec : FaultSpec R} {injector : FaultInjector R}

/-- The kinds that come in runs. -/
def RunsOf (type : FaultType) : Prop :=
  type = .burst ∨ type = .dropout ∨ type = .stuck

omit [Field R] [LinearOrder R] in
theorem one_le_runLength (spec : FaultSpec R) : 1 ≤ spec.runLength := by
  unfold FaultSpec.runLength
  omega

/-- Inside a run a sample is hit, and nothing is drawn for the beginning of a run. -/
theorem apply_inside (inRuns : RunsOf injector.spec.type) {left : Nat}
    (inside : injector.runRemaining = left + 1) (draws : Draws) (elapsedS clean : R) :
    injector.spec.hits injector.stuckValueM
        ⟨draws, clean, (injector.apply draws elapsedS clean).1⟩ ∧
      (injector.apply draws elapsedS clean).2 = { injector with runRemaining := left } := by
  have still : injector.trigger draws clean = injector := by
    simp [trigger, inside]
  rcases inRuns with type | type | type <;>
    simp [apply, type, still, inRun, inside, FaultSpec.hits]

theorem apply_calm (inRuns : RunsOf injector.spec.type) (outside : injector.runRemaining = 0)
    {draws : Draws} (calm : draws.trigger = false) (elapsedS clean : R) :
    injector.apply draws elapsedS clean = (⟨some clean, false⟩, injector) := by
  have still : injector.trigger draws clean = injector := by
    simp [trigger, calm]
  rcases inRuns with type | type | type <;> simp [apply, type, still, inRun, outside]

theorem apply_triggered (inRuns : RunsOf injector.spec.type) (outside : injector.runRemaining = 0)
    {draws : Draws} (triggered : draws.trigger = true) (elapsedS clean : R) :
    injector.spec.hits clean ⟨draws, clean, (injector.apply draws elapsedS clean).1⟩ ∧
      (injector.apply draws elapsedS clean).2.spec = injector.spec ∧
      (injector.apply draws elapsedS clean).2.runRemaining = injector.spec.runLength - 1 ∧
      (injector.spec.type = .stuck →
        (injector.apply draws elapsedS clean).2.stuckValueM = clean) := by
  have positive : 0 < injector.spec.runLength := one_le_runLength _
  rcases inRuns with type | type | type <;>
    simp [apply, type, trigger, outside, triggered, inRun, FaultSpec.hits, positive]

/-- The rest of a run, and what follows it. -/
theorem samples_inside (inRuns : RunsOf injector.spec.type) {left : Nat}
    (inside : injector.runRemaining = left) (inputs : List (Draws × R × R)) :
    ∃ block rest, injector.samples inputs = block ++ rest ∧
      (∀ sample ∈ block, injector.spec.hits injector.stuckValueM sample) ∧
      ((block.length = left ∧
          rest = samples { injector with runRemaining := 0 } (inputs.drop left)) ∨
        (block.length < left ∧ rest = [])) := by
  induction left generalizing injector inputs with
  | zero =>
      have same : { injector with runRemaining := 0 } = injector := by rw [← inside]
      exact ⟨[], injector.samples inputs, rfl, by simp, .inl ⟨rfl, by rw [same, List.drop_zero]⟩⟩
  | succ left ih =>
      cases inputs with
      | nil => exact ⟨[], [], rfl, by simp, .inr ⟨Nat.succ_pos left, rfl⟩⟩
      | cons input inputs =>
          obtain ⟨draws, elapsedS, clean⟩ := input
          obtain ⟨hit, after⟩ := apply_inside inRuns inside draws elapsedS clean
          have same : RunsOf ({ injector with runRemaining := left } : FaultInjector R).spec.type :=
            inRuns
          obtain ⟨block, rest, split, hits, ends⟩ := ih same rfl inputs
          refine
            ⟨⟨draws, clean, (injector.apply draws elapsedS clean).1⟩ :: block, rest, ?_, ?_, ?_⟩
          · simp only [samples, after, split, List.cons_append]
          · rintro sample (_ | ⟨_, inBlock⟩)
            · exact hit
            · exact hits sample inBlock
          · simp only [List.length_cons]
            rcases ends with ⟨length, next⟩ | ⟨short, none⟩
            · exact .inl ⟨by omega, next⟩
            · exact .inr ⟨by omega, none⟩

omit [LinearOrder R] in
/-- Without a stuck value, what a run does to a sample does not depend on where it began. -/
theorem hits_congr {first other : R} (same : spec.type = .stuck → first = other)
    {sample : Sampled R} (hit : spec.hits first sample) : spec.hits other sample := by
  unfold FaultSpec.hits at hit ⊢
  cases type : spec.type with
  | stuck =>
      simp only [type] at hit ⊢
      rw [← same type]
      exact hit
  | burst | dropout =>
      simp only [type] at hit ⊢
      exact hit
  | spike | drift | saturation | stageStall => simp only [type] at hit

variable (injector) in
theorem episodes_of_outside (inRuns : RunsOf injector.spec.type)
    (outside : injector.runRemaining = 0) (inputs : List (Draws × R × R)) :
    Episodes injector.spec (injector.samples inputs) := by
  induction length : inputs.length using Nat.strong_induction_on generalizing injector inputs with
  | _ length ih =>
    cases inputs with
    | nil => exact .nil
    | cons input inputs =>
        obtain ⟨draws, elapsedS, clean⟩ := input
        simp only [List.length_cons] at length
        cases drawn : draws.trigger with
        | false =>
            have passed := apply_calm inRuns outside drawn elapsedS clean
            simp only [samples, passed]
            exact .clean drawn rfl (ih inputs.length (by omega) injector inRuns outside inputs rfl)
        | true =>
            obtain ⟨hit, spec, remaining, stuck⟩ :=
              apply_triggered inRuns outside drawn elapsedS clean
            simp only [samples]
            generalize injector.apply draws elapsedS clean = applied at hit spec remaining stuck
            have positive := one_le_runLength injector.spec
            obtain ⟨block, rest, split, hits, ends⟩ :=
              samples_inside (spec ▸ inRuns) remaining inputs
            rw [split]
            rw [spec] at hits
            have hitAll : ∀ other ∈ (⟨draws, clean, applied.1⟩ : Sampled R) :: block,
                injector.spec.hits clean other := by
              rintro other (_ | ⟨_, inBlock⟩)
              · exact hit
              · exact hits_congr stuck (hits other inBlock)
            rcases ends with ⟨whole, rfl⟩ | ⟨short, rfl⟩
            · refine .run drawn hitAll (by omega) ?_
              have later := ih (inputs.drop (injector.spec.runLength - 1)).length
                (by rw [List.length_drop]; omega) { applied.2 with runRemaining := 0 }
                (spec ▸ inRuns) rfl _ rfl
              exact spec ▸ later
            · rw [List.append_nil]
              exact .cut drawn hitAll (by omega)

/--
Whatever the random engine draws, a burst, a dropout or a stuck sensor disturbs the full length of
a run from each sample that triggers it, and no sample outside its runs.
-/
theorem faults_come_in_runs (spec : FaultSpec R) (inRuns : RunsOf spec.type)
    (inputs : List (Draws × R × R)) : Episodes spec ((fresh spec).samples inputs) :=
  episodes_of_outside (fresh spec) inRuns rfl inputs

/-- Two samples are dropped from the second on, and the third trigger meets the end. -/
theorem faults_come_in_runs_dropout :
    ((fresh (⟨.dropout, 0, 2, 0, 0⟩ : FaultSpec ℚ)).samples
      [(⟨false, false⟩, 0, 5), (⟨true, false⟩, 0, 6), (⟨true, false⟩, 0, 7),
        (⟨true, false⟩, 0, 8)]).map (·.passed.heightM) = [some 5, none, none, none] ∧
      Episodes (⟨.dropout, 0, 2, 0, 0⟩ : FaultSpec ℚ)
        ((fresh (⟨.dropout, 0, 2, 0, 0⟩ : FaultSpec ℚ)).samples
          [(⟨false, false⟩, 0, 5), (⟨true, false⟩, 0, 6), (⟨true, false⟩, 0, 7),
            (⟨true, false⟩, 0, 8)]) :=
  ⟨by decide, faults_come_in_runs _ (.inr (.inl rfl)) _⟩

end FaultInjector

end Model

end Ssim.Hw
