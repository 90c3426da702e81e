import Ssim.Core.Controller
import Ssim.Library.Runs

/-!
# The machine runtime

Four kinds of threads: clients with their commands, the controller thread, the
scan thread and the processing thread.  The controller thread takes one closure
at a time; it changes its own state first and then does, one after the other,
what the closure publishes and asks of the scan driver.  The thread that handed
in the closure waits until that is done.

Runs are counted by the accepted Start commands.  The count with which blocks,
jobs and threads are marked here is not in the program, where one run cannot be
told from another.
-/

namespace Ssim.Machine

open Ssim.Core

/-! ## Data -/

structure RuntimeConfig where
  /-- Lines of a scan. -/
  lines : Nat
  /-- Points of a line. -/
  points : Nat
  deriving Repr, DecidableEq

/-- One scanned line, and the run that scanned it. -/
structure SampleBlock where
  run : Nat
  line : Nat
  deriving Repr, DecidableEq

inductive WorkItem where
  | processWafer (run : Nat) (waferId : Text)
  | discardSamples (run : Nat)
  deriving Repr, DecidableEq

inductive QualityIssue where
  | none
  | poorFit
  | implausible
  deriving Repr, DecidableEq

/-- What the runtime reads of the result of the analysis. -/
structure PipelineResult where
  issue : QualityIssue
  outOfSpec : Bool
  /-- The removed fraction exceeds its limit. -/
  outliersHigh : Bool
  anyDropout : Bool
  stressMpa : Double
  stressUncMpa : Double
  curvaturePerM : Double
  fitRmsUm : Double
  deriving Repr, DecidableEq

namespace PipelineResult

/-- Quality failures first, then sensor health. -/
def raised (result : PipelineResult) : Option (AlarmId × Text) :=
  match result.issue with
  | .poorFit => some (.fitQualityPoor, .ofString "fit residual RMS exceeds fit_rms_limit_um")
  | QualityIssue.implausible =>
      some ( AlarmId.stressImplausible,
        .ofString "stress non-finite or outside the plausibility window")
  | .none =>
      if result.outliersHigh then
        some (.sensorSpikeRateHigh, .ofString "removed fraction exceeds outlier_fraction_alarm")
      else if result.anyDropout then
        some (.sensorDropout, .ofString "dropout gap present")
      else
        none

def ready (result : PipelineResult) (waferId : Text) : WaferResultReady where
  waferId := waferId
  slot := 1
  stressMpa := result.stressMpa
  stressUncMpa := result.stressUncMpa
  curvaturePerM := result.curvaturePerM
  fitRmsUm := result.fitRmsUm
  outOfSpec := result.outOfSpec

/-- What the processing thread tells the controller. -/
def closure (result : PipelineResult) : Closure :=
  .processingResult result.outOfSpec result.stressMpa (result.raised.map Prod.fst)
    ((result.raised.map Prod.snd).getD []) false

end PipelineResult

/-! ## Threads -/

inductive Caller where
  | client
  | scan
  | worker
  deriving Repr, DecidableEq

/-- The closure that the controller thread runs: what is left to do, and who waits for it. -/
structure Call where
  effects : List Effect
  caller : Caller
  deriving Repr, DecidableEq

inductive ScanThread where
  /-- Nothing has been started. -/
  | absent
  | scanning (run : Nat) (waferId : Text) (line point : Nat)
  | pushing (run : Nat) (waferId : Text) (line : Nat) (aborted : Bool)
  /-- In `on_stopped`. -/
  | stopped (run : Nat)
  /-- In `on_lines_complete`: before, in and after the call of the controller. -/
  | completing (run : Nat) (waferId : Text)
  | notifying (run : Nat) (waferId : Text)
  | handingOver (run : Nat) (waferId : Text)
  /-- The last job is pushed, and the thread is about to end. -/
  | leaving
  | exited
  deriving Repr, DecidableEq

inductive Worker where
  | idle
  | discarding (run : Nat)
  /-- In `process_wafer`, popping the blocks of the scan. -/
  | collecting (run : Nat) (waferId : Text) (blocks : List SampleBlock)
  /-- Before the state is read for the first time. -/
  | checking (run : Nat) (waferId : Text) (blocks : List SampleBlock)
  | analysing (run : Nat) (waferId : Text) (blocks : List SampleBlock)
  /-- In the call with the result, which the controller has accepted or not. -/
  | notifying (run : Nat) (waferId : Text) (result : PipelineResult) (accepted : Bool)
  /-- Before the state is read again. -/
  | deciding (run : Nat) (waferId : Text) (result : PipelineResult) (accepted : Bool)
  | publishing (run : Nat) (waferId : Text) (result : PipelineResult)
  /-- Before the call that reports the stage as stopped, from `process_wafer` or a discard. -/
  | stopping (run : Nat) (processing : Bool)
  | reporting
  deriving Repr, DecidableEq

/-- What has happened, for statements about whole runs. -/
inductive Mark where
  /-- The controller has accepted the result of a run. -/
  | accepted (run : Nat)
  /-- `process_wafer` of a run has published its result. -/
  | resultReady (run : Nat) (result : WaferResultReady)
  /-- `process_wafer` of a run has ended the state Stopping of a run. -/
  | stopped (run stoppedRun : Nat)
  deriving Repr, DecidableEq

structure MachineRuntime where
  config : RuntimeConfig
  controller : Controller
  call : Option Call
  abortRequested : Bool
  scan : ScanThread
  samples : List SampleBlock
  jobs : List WorkItem
  worker : Worker
  /-- The accepted Start commands so far; the last of them is the current run. -/
  runs : Nat
  history : List Mark
  deriving DecidableEq

namespace MachineRuntime

def fresh (config : RuntimeConfig) : MachineRuntime where
  config := config
  controller := .fresh
  call := none
  abortRequested := false
  scan := .absent
  samples := []
  jobs := []
  worker := .idle
  runs := 0
  history := []

def sampleCapacity (runtime : MachineRuntime) : Nat :=
  runtime.config.lines + 1

def jobCapacity : Nat := 8

def record (runtime : MachineRuntime) (mark : Mark) : MachineRuntime :=
  { runtime with history := runtime.history ++ [mark] }

/-! ## The controller thread -/

/-- The controller thread takes a closure; the outcome says what it has answered. -/
def beginCall (runtime : MachineRuntime) (closure : Closure) (caller : Caller) :
    Option (Controller.Outcome × MachineRuntime) :=
  match runtime.call with
  | some _ => none
  | none =>
      let outcome := runtime.controller.runClosure closure
      some (outcome, { runtime with
        controller := outcome.next
        call := some ⟨outcome.effects, caller⟩ })

def command (runtime : MachineRuntime) (command : Command) : Option MachineRuntime :=
  (runtime.beginCall (.command command) .client).map fun (outcome, runtime) =>
    if command.payload.isStart && outcome.result.toBool then
      { runtime with runs := runtime.runs + 1 }
    else
      runtime

/-- The waiting thread goes on. -/
def endCall (runtime : MachineRuntime) : Caller → MachineRuntime
  | .client => runtime
  | .scan =>
      match runtime.scan with
      | .notifying run waferId => { runtime with scan := .handingOver run waferId }
      | _ => runtime
  | .worker =>
      match runtime.worker with
      | .notifying run waferId result accepted =>
          { runtime with worker := .deciding run waferId result accepted }
      | .reporting => { runtime with worker := .idle }
      | _ => runtime

/-- The scan thread at the start of a line, or after the last one. -/
def atLine (runtime : MachineRuntime) (run : Nat) (waferId : Text) (line : Nat) : ScanThread :=
  if line < runtime.config.lines then
    .scanning run waferId line 0
  else
    .completing run waferId

/-- The driver joins the previous scan thread before it starts the next. -/
def startScan (runtime : MachineRuntime) (waferId : Text) : Option MachineRuntime :=
  match runtime.scan with
  | .absent | .exited =>
      some { runtime with
        abortRequested := false, scan := runtime.atLine runtime.runs waferId 0 }
  | _ => none

/-- The next thing that the closure does, or its end. -/
def proceed (runtime : MachineRuntime) : Option MachineRuntime :=
  match runtime.call with
  | none => none
  | some ⟨[], caller⟩ => some ({ runtime with call := none }.endCall caller)
  | some ⟨effect :: effects, caller⟩ =>
      let runtime := { runtime with call := some ⟨effects, caller⟩ }
      match effect with
      | .publish _ => some runtime
      | .startScan waferId => runtime.startScan waferId
      | .requestAbort => some { runtime with abortRequested := true }

/-! ## The scan thread -/

/-- A job is pushed once there is room. -/
def pushJob (runtime : MachineRuntime) (item : WorkItem) : Option MachineRuntime :=
  if runtime.jobs.length < jobCapacity then
    some { runtime with jobs := runtime.jobs ++ [item] }
  else
    none

/-- The abort flag is looked at before every point; the block of an aborted line is pushed too. -/
def scanStep (runtime : MachineRuntime) : Option MachineRuntime :=
  match runtime.scan with
  | .scanning run waferId line point =>
      if point < runtime.config.points then
        if runtime.abortRequested then
          some { runtime with scan := .pushing run waferId line true }
        else
          some { runtime with scan := .scanning run waferId line (point + 1) }
      else
        some { runtime with scan := .pushing run waferId line false }
  | .pushing run waferId line aborted =>
      if runtime.samples.length < runtime.sampleCapacity then
        some { runtime with
          samples := runtime.samples ++ [⟨run, line⟩]
          scan := if aborted then .stopped run else runtime.atLine run waferId (line + 1) }
      else
        none
  | .stopped run => { runtime with scan := .leaving }.pushJob (.discardSamples run)
  | .completing run waferId =>
      (runtime.beginCall (.scanComplete waferId) .scan).map fun (_, runtime) =>
        { runtime with scan := .notifying run waferId }
  | .handingOver run waferId =>
      { runtime with scan := .leaving }.pushJob (.processWafer run waferId)
  | .leaving => some { runtime with scan := .exited }
  | .absent | .notifying _ _ | .exited => none

/-! ## The processing thread -/

/-- The call that reports the stage as stopped. -/
def reportStopped (runtime : MachineRuntime) (run : Nat) (processing : Bool) :
    Option MachineRuntime :=
  (runtime.beginCall .stageStopped .worker).map fun (outcome, runtime) =>
    let runtime := { runtime with worker := .reporting }
    if processing && outcome.result.toBool then
      runtime.record (.stopped run runtime.runs)
    else
      runtime

/-- The call with the result of the analysis. -/
def reportResult (runtime : MachineRuntime) (run : Nat) (waferId : Text)
    (result : PipelineResult) : Option MachineRuntime :=
  (runtime.beginCall result.closure .worker).map fun (outcome, runtime) =>
    let runtime :=
      { runtime with worker := .notifying run waferId result outcome.result.toBool }
    if result.raised.isNone && outcome.result.toBool then
      runtime.record (.accepted run)
    else
      runtime

/-- One step of `worker_loop`; the result is what the analysis finds, where it is run. -/
def workerStep (runtime : MachineRuntime) (result : PipelineResult) : Option MachineRuntime :=
  match runtime.worker with
  | .idle =>
      match runtime.jobs with
      | [] => none
      | .processWafer run waferId :: jobs =>
          some { runtime with jobs := jobs, worker := .collecting run waferId [] }
      | .discardSamples run :: jobs =>
          some { runtime with jobs := jobs, worker := .discarding run }
  | .discarding run =>
      match runtime.samples with
      | [] => some { runtime with worker := .stopping run false }
      | _ :: samples => some { runtime with samples := samples }
  | .collecting run waferId blocks =>
      if blocks.length < runtime.config.lines then
        match runtime.samples with
        | [] => none
        | block :: samples =>
            some { runtime with
              samples := samples, worker := .collecting run waferId (blocks ++ [block]) }
      else
        some { runtime with worker := .checking run waferId blocks }
  | .checking run waferId blocks =>
      if runtime.controller.state = .stopping then
        some { runtime with worker := .stopping run true }
      else
        some { runtime with worker := .analysing run waferId blocks }
  | .analysing run waferId _ => runtime.reportResult run waferId result
  | .deciding run waferId result _ =>
      if runtime.controller.state = .stopping then
        some { runtime with worker := .stopping run true }
      else
        some { runtime with worker := .publishing run waferId result }
  | .publishing run waferId result =>
      let runtime := { runtime with worker := .idle }
      if result.raised.isNone then
        some (runtime.record (.resultReady run (result.ready waferId)))
      else
        some runtime
  | .stopping run processing => runtime.reportStopped run processing
  | .notifying _ _ _ _ | .reporting => none

inductive Input where
  /-- A client's command is taken by the controller thread. -/
  | command (command : Command)
  | controller
  | scan
  | worker (result : PipelineResult)
  deriving Repr, DecidableEq

/-- One step of one thread; `none` if the thread waits. -/
def step (runtime : MachineRuntime) : Input → Option MachineRuntime
  | .command command => runtime.command command
  | .controller => runtime.proceed
  | .scan => runtime.scanStep
  | .worker result => runtime.workerStep result

end MachineRuntime

end Ssim.Machine
