import Ssim.Core.ControllerSteps
import Ssim.Machine.Runtime

/-!
# What a step does

Every step of every thread, with its guard and the state after it.  The invariants
of the runtime go by these cases and do not look into the step function again.
-/

namespace Ssim.Machine

open Ssim.Core

namespace MachineRuntime

/-- The controller thread has taken a closure and has all of its effects before it. -/
def answering (runtime : MachineRuntime) (outcome : Controller.Outcome) (caller : Caller) :
    MachineRuntime :=
  { runtime with controller := outcome.next, call := some ⟨outcome.effects, caller⟩ }

inductive Does (runtime : MachineRuntime) : Input → MachineRuntime → Prop where
  -- The controller thread.
  | commanded (command : Command) (outcome : Controller.Outcome) (idle : runtime.call = none)
      (answered : runtime.controller.runClosure (.command command) = outcome) :
      Does runtime (.command command) { runtime.answering outcome .client with
        runs := if command.payload.isStart && outcome.result.toBool then runtime.runs + 1
          else runtime.runs }
  | published (event : Event) (effects : List Effect) (caller : Caller)
      (busy : runtime.call = some ⟨.publish event :: effects, caller⟩) :
      Does runtime .controller { runtime with call := some ⟨effects, caller⟩ }
  | abortAsked (effects : List Effect) (caller : Caller)
      (busy : runtime.call = some ⟨.requestAbort :: effects, caller⟩) :
      Does runtime .controller { runtime with
        call := some ⟨effects, caller⟩, abortRequested := true }
  | scanStarted (waferId : Text) (effects : List Effect) (caller : Caller)
      (busy : runtime.call = some ⟨.startScan waferId :: effects, caller⟩)
      (joined : runtime.scan = .absent ∨ runtime.scan = .exited) :
      Does runtime .controller { runtime with
        call := some ⟨effects, caller⟩, abortRequested := false
        scan := runtime.atLine runtime.runs waferId 0 }
  | scanAnswered (run : Nat) (waferId : Text) (busy : runtime.call = some ⟨[], .scan⟩)
      (scan : runtime.scan = .notifying run waferId) :
      Does runtime .controller { runtime with call := none, scan := .handingOver run waferId }
  | resultAnswered (run : Nat) (waferId : Text) (result : PipelineResult) (accepted : Bool)
      (busy : runtime.call = some ⟨[], .worker⟩)
      (worker : runtime.worker = .notifying run waferId result accepted) :
      Does runtime .controller { runtime with
        call := none, worker := .deciding run waferId result accepted }
  | stopAnswered (busy : runtime.call = some ⟨[], .worker⟩) (worker : runtime.worker = .reporting) :
      Does runtime .controller { runtime with call := none, worker := .idle }
  | callEnded (caller : Caller) (busy : runtime.call = some ⟨[], caller⟩)
      (noResult : caller = .worker → ∀ run waferId result accepted,
        runtime.worker ≠ .notifying run waferId result accepted) :
      Does runtime .controller { runtime with call := none }
  -- The scan thread.
  | measured (run : Nat) (waferId : Text) (line point : Nat)
      (scan : runtime.scan = .scanning run waferId line point)
      (more : point < runtime.config.points) (clear : runtime.abortRequested = false) :
      Does runtime .scan { runtime with scan := .scanning run waferId line (point + 1) }
  | interrupted (run : Nat) (waferId : Text) (line point : Nat)
      (scan : runtime.scan = .scanning run waferId line point)
      (more : point < runtime.config.points) (abort : runtime.abortRequested = true) :
      Does runtime .scan { runtime with scan := .pushing run waferId line true }
  | lineDone (run : Nat) (waferId : Text) (line point : Nat)
      (scan : runtime.scan = .scanning run waferId line point)
      (last : ¬ point < runtime.config.points) :
      Does runtime .scan { runtime with scan := .pushing run waferId line false }
  | linePushed (run : Nat) (waferId : Text) (line : Nat) (aborted : Bool)
      (scan : runtime.scan = .pushing run waferId line aborted)
      (room : runtime.samples.length < runtime.sampleCapacity) :
      Does runtime .scan { runtime with
        samples := runtime.samples ++ [⟨run, line⟩]
        scan := if aborted then .stopped run else runtime.atLine run waferId (line + 1) }
  | discardHandedOver (run : Nat) (scan : runtime.scan = .stopped run)
      (room : runtime.jobs.length < jobCapacity) :
      Does runtime .scan { runtime with
        scan := .leaving, jobs := runtime.jobs ++ [.discardSamples run] }
  | scanReported (run : Nat) (waferId : Text) (outcome : Controller.Outcome)
      (scan : runtime.scan = .completing run waferId) (idle : runtime.call = none)
      (answered : runtime.controller.runClosure (.scanComplete waferId) = outcome) :
      Does runtime .scan { runtime.answering outcome .scan with scan := .notifying run waferId }
  | waferHandedOver (run : Nat) (waferId : Text) (scan : runtime.scan = .handingOver run waferId)
      (room : runtime.jobs.length < jobCapacity) :
      Does runtime .scan { runtime with
        scan := .leaving, jobs := runtime.jobs ++ [.processWafer run waferId] }
  | scanExited (scan : runtime.scan = .leaving) :
      Does runtime .scan { runtime with scan := .exited }
  -- The processing thread.
  | waferTaken (run : Nat) (waferId : Text) (jobs : List WorkItem) (result : PipelineResult)
      (worker : runtime.worker = .idle)
      (queued : runtime.jobs = .processWafer run waferId :: jobs) :
      Does runtime (.worker result) { runtime with
        jobs := jobs, worker := .collecting run waferId [] }
  | discardTaken (run : Nat) (jobs : List WorkItem) (result : PipelineResult)
      (worker : runtime.worker = .idle) (queued : runtime.jobs = .discardSamples run :: jobs) :
      Does runtime (.worker result) { runtime with jobs := jobs, worker := .discarding run }
  | blockDiscarded (run : Nat) (block : SampleBlock) (samples : List SampleBlock)
      (result : PipelineResult) (worker : runtime.worker = .discarding run)
      (queue : runtime.samples = block :: samples) :
      Does runtime (.worker result) { runtime with samples := samples }
  | allDiscarded (run : Nat) (result : PipelineResult) (worker : runtime.worker = .discarding run)
      (queue : runtime.samples = []) :
      Does runtime (.worker result) { runtime with worker := .stopping run false }
  | blockCollected (run : Nat) (waferId : Text) (blocks : List SampleBlock) (block : SampleBlock)
      (samples : List SampleBlock) (result : PipelineResult)
      (worker : runtime.worker = .collecting run waferId blocks)
      (more : blocks.length < runtime.config.lines) (queue : runtime.samples = block :: samples) :
      Does runtime (.worker result) { runtime with
        samples := samples, worker := .collecting run waferId (blocks ++ [block]) }
  | allCollected (run : Nat) (waferId : Text) (blocks : List SampleBlock) (result : PipelineResult)
      (worker : runtime.worker = .collecting run waferId blocks)
      (all : ¬ blocks.length < runtime.config.lines) :
      Does runtime (.worker result) { runtime with worker := .checking run waferId blocks }
  | stopSeen (run : Nat) (waferId : Text) (blocks : List SampleBlock) (result : PipelineResult)
      (worker : runtime.worker = .checking run waferId blocks)
      (stopping : runtime.controller.state = .stopping) :
      Does runtime (.worker result) { runtime with worker := .stopping run true }
  | noStopSeen (run : Nat) (waferId : Text) (blocks : List SampleBlock) (result : PipelineResult)
      (worker : runtime.worker = .checking run waferId blocks)
      (other : runtime.controller.state ≠ .stopping) :
      Does runtime (.worker result) { runtime with worker := .analysing run waferId blocks }
  | resultReported (run : Nat) (waferId : Text) (blocks : List SampleBlock)
      (result : PipelineResult) (outcome : Controller.Outcome)
      (worker : runtime.worker = .analysing run waferId blocks) (idle : runtime.call = none)
      (answered : runtime.controller.runClosure result.closure = outcome) :
      Does runtime (.worker result) { runtime.answering outcome .worker with
        worker := .notifying run waferId result outcome.result.toBool
        history := if result.raised.isNone && outcome.result.toBool then
            runtime.history ++ [.accepted run]
          else runtime.history }
  | resultDropped (run : Nat) (waferId : Text) (found : PipelineResult) (accepted : Bool)
      (result : PipelineResult) (worker : runtime.worker = .deciding run waferId found accepted)
      (stopping : runtime.controller.state = .stopping) :
      Does runtime (.worker result) { runtime with worker := .stopping run true }
  | resultKept (run : Nat) (waferId : Text) (found : PipelineResult) (accepted : Bool)
      (result : PipelineResult) (worker : runtime.worker = .deciding run waferId found accepted)
      (other : runtime.controller.state ≠ .stopping) :
      Does runtime (.worker result) { runtime with worker := .publishing run waferId found }
  | resultPublished (run : Nat) (waferId : Text) (found result : PipelineResult)
      (worker : runtime.worker = .publishing run waferId found) :
      Does runtime (.worker result) { runtime with
        worker := .idle
        history := if found.raised.isNone then
            runtime.history ++ [.resultReady run (found.ready waferId)]
          else runtime.history }
  | stopReported (run : Nat) (processing : Bool) (result : PipelineResult)
      (outcome : Controller.Outcome) (worker : runtime.worker = .stopping run processing)
      (idle : runtime.call = none)
      (answered : runtime.controller.runClosure .stageStopped = outcome) :
      Does runtime (.worker result) { runtime.answering outcome .worker with
        worker := .reporting
        history := if processing && outcome.result.toBool then
            runtime.history ++ [.stopped run runtime.runs]
          else runtime.history }

/-! ## One step -/

variable {runtime next : MachineRuntime}

theorem beginCall_eq_some {closure : Closure} {caller : Caller} {outcome : Controller.Outcome}
    (begun : runtime.beginCall closure caller = some (outcome, next)) :
    runtime.call = none ∧ runtime.controller.runClosure closure = outcome ∧
      next = runtime.answering outcome caller := by
  unfold beginCall at begun
  split at begun
  · cases begun
  next free =>
    obtain ⟨rfl, rfl⟩ := Prod.mk.inj (Option.some.inj begun)
    exact ⟨free, rfl, rfl⟩

theorem does_command {command : Command} (taken : runtime.command command = some next) :
    runtime.Does (.command command) next := by
  obtain ⟨⟨outcome, called⟩, begun, rfl⟩ := Option.map_eq_some_iff.mp taken
  obtain ⟨idle, answered, rfl⟩ := beginCall_eq_some begun
  have does := Does.commanded command outcome idle answered
  dsimp only
  split
  next started =>
    rw [if_pos started] at does
    exact does
  next other =>
    rw [if_neg other] at does
    exact does

theorem does_endCall {caller : Caller} (busy : runtime.call = some ⟨[], caller⟩) :
    runtime.Does .controller ({ runtime with call := none }.endCall caller) := by
  unfold endCall
  cases caller with
  | client => exact .callEnded .client busy nofun
  | scan =>
      dsimp only
      split
      next run waferId scan => exact .scanAnswered run waferId busy scan
      · exact .callEnded .scan busy nofun
  | worker =>
      dsimp only
      split
      next run waferId result accepted worker =>
        exact .resultAnswered run waferId result accepted busy worker
      next worker => exact .stopAnswered busy worker
      next other _ => exact .callEnded .worker busy fun _ => other

theorem does_proceed (taken : runtime.proceed = some next) : runtime.Does .controller next := by
  unfold proceed at taken
  split at taken
  · cases taken
  next caller busy => exact Option.some.inj taken ▸ does_endCall busy
  next effect effects caller busy =>
    dsimp only at taken
    split at taken
    next event => exact Option.some.inj taken ▸ .published event effects caller busy
    next waferId =>
      unfold startScan at taken
      split at taken
      next scan =>
        exact Option.some.inj taken ▸ .scanStarted waferId effects caller busy (.inl scan)
      next scan =>
        exact Option.some.inj taken ▸ .scanStarted waferId effects caller busy (.inr scan)
      · cases taken
    · exact Option.some.inj taken ▸ .abortAsked effects caller busy

theorem pushJob_eq_some {item : WorkItem} (pushed : runtime.pushJob item = some next) :
    runtime.jobs.length < jobCapacity ∧ next = { runtime with jobs := runtime.jobs ++ [item] } := by
  unfold pushJob at pushed
  split at pushed
  next room => exact ⟨room, (Option.some.inj pushed).symm⟩
  · cases pushed

theorem does_scanStep (taken : runtime.scanStep = some next) : runtime.Does .scan next := by
  unfold scanStep at taken
  split at taken
  next run waferId line point scan =>
    split at taken
    next more =>
      split at taken
      next abort =>
        exact Option.some.inj taken ▸ .interrupted run waferId line point scan more abort
      next clear =>
        exact Option.some.inj taken ▸
          .measured run waferId line point scan more (Bool.eq_false_iff.mpr clear)
    next last => exact Option.some.inj taken ▸ .lineDone run waferId line point scan last
  next run waferId line aborted scan =>
    split at taken
    next room => exact Option.some.inj taken ▸ .linePushed run waferId line aborted scan room
    · cases taken
  next run scan =>
    obtain ⟨room, rfl⟩ := pushJob_eq_some taken
    exact .discardHandedOver run scan room
  next run waferId scan =>
    obtain ⟨⟨outcome, called⟩, begun, rfl⟩ := Option.map_eq_some_iff.mp taken
    obtain ⟨idle, answered, rfl⟩ := beginCall_eq_some begun
    exact .scanReported run waferId outcome scan idle answered
  next run waferId scan =>
    obtain ⟨room, rfl⟩ := pushJob_eq_some taken
    exact .waferHandedOver run waferId scan room
  next scan => exact Option.some.inj taken ▸ .scanExited scan
  all_goals cases taken

theorem does_reportStopped {run : Nat} {processing : Bool} (result : PipelineResult)
    (worker : runtime.worker = .stopping run processing)
    (taken : runtime.reportStopped run processing = some next) :
    runtime.Does (.worker result) next := by
  obtain ⟨⟨outcome, called⟩, begun, rfl⟩ := Option.map_eq_some_iff.mp taken
  obtain ⟨idle, answered, rfl⟩ := beginCall_eq_some begun
  have does := Does.stopReported run processing result outcome worker idle answered
  dsimp only
  split
  next marked =>
    rw [if_pos marked] at does
    exact does
  next silent =>
    rw [if_neg silent] at does
    exact does

theorem does_reportResult {run : Nat} {waferId : Text} {blocks : List SampleBlock}
    {result : PipelineResult} (worker : runtime.worker = .analysing run waferId blocks)
    (taken : runtime.reportResult run waferId result = some next) :
    runtime.Does (.worker result) next := by
  obtain ⟨⟨outcome, called⟩, begun, rfl⟩ := Option.map_eq_some_iff.mp taken
  obtain ⟨idle, answered, rfl⟩ := beginCall_eq_some begun
  have does := Does.resultReported run waferId blocks result outcome worker idle answered
  dsimp only
  split
  next marked =>
    rw [if_pos marked] at does
    exact does
  next silent =>
    rw [if_neg silent] at does
    exact does

theorem does_workerStep {result : PipelineResult} (taken : runtime.workerStep result = some next) :
    runtime.Does (.worker result) next := by
  unfold workerStep at taken
  split at taken
  next worker =>
    split at taken
    · cases taken
    next run waferId jobs queued =>
      exact Option.some.inj taken ▸ .waferTaken run waferId jobs result worker queued
    next run jobs queued =>
      exact Option.some.inj taken ▸ .discardTaken run jobs result worker queued
  next run worker =>
    split at taken
    next queue => exact Option.some.inj taken ▸ .allDiscarded run result worker queue
    next block samples queue =>
      exact Option.some.inj taken ▸ .blockDiscarded run block samples result worker queue
  next run waferId blocks worker =>
    split at taken
    next more =>
      split at taken
      · cases taken
      next block samples queue =>
        exact Option.some.inj taken ▸
          .blockCollected run waferId blocks block samples result worker more queue
    next all => exact Option.some.inj taken ▸ .allCollected run waferId blocks result worker all
  next run waferId blocks worker =>
    split at taken
    next stopping =>
      exact Option.some.inj taken ▸ .stopSeen run waferId blocks result worker stopping
    next other => exact Option.some.inj taken ▸ .noStopSeen run waferId blocks result worker other
  next run waferId blocks worker => exact does_reportResult worker taken
  next run waferId found accepted worker =>
    split at taken
    next stopping =>
      exact Option.some.inj taken ▸
        .resultDropped run waferId found accepted result worker stopping
    next other =>
      exact Option.some.inj taken ▸ .resultKept run waferId found accepted result worker other
  next run waferId found worker =>
    have does := Does.resultPublished run waferId found result worker
    dsimp only at taken
    split at taken
    next plain =>
      rw [if_pos plain] at does
      exact Option.some.inj taken ▸ does
    next raised =>
      rw [if_neg raised] at does
      exact Option.some.inj taken ▸ does
  next run processing worker => exact does_reportStopped result worker taken
  all_goals cases taken

theorem does_step {input : Input} (taken : runtime.step input = some next) :
    runtime.Does input next := by
  cases input with
  | command command => exact does_command taken
  | controller => exact does_proceed taken
  | scan => exact does_scanStep taken
  | worker result => exact does_workerStep taken

end MachineRuntime

end Ssim.Machine
