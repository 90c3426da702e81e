import Ssim.Core.ControllerCalls
import Ssim.Machine.Steps

/-!
# Custody of the current run

While the machine is scanning, processing or stopping, exactly one place has the
current run: a Start that has not started its scan thread yet, the scan thread, a
job in the queue, or the processing thread.  It is handed on from one to the next
and given up where the controller goes back to Idle or to Alarm.  The processing
thread can overlook that it has given up its run: it decides by a state that it
reads after the call.  `Custody` holds along every run in which no Abort is
accepted while it is about to read that state.
-/

namespace Ssim.Machine

open Ssim.Core
open Ssim.Core.Controller (Outcome Publishes CommandEffect)

/-- The run that a scan thread has still to hand on. -/
def ScanThread.holds : ScanThread → Option Nat
  | .scanning run _ _ _ | .pushing run _ _ _ | .stopped run => some run
  | .completing run _ | .notifying run _ | .handingOver run _ => some run
  | .absent | .leaving | .exited => none

/-- The states in which a scan thread can be where it is. -/
def ScanThread.Fits (abortRequested : Bool) (state : ProcessState) : ScanThread → Prop
  | .scanning _ _ _ _ | .completing _ _ =>
      state = .scanning ∧ abortRequested = false ∨ state = .stopping
  | .pushing _ _ _ aborted =>
      state = .scanning ∧ abortRequested = false ∧ aborted = false ∨ state = .stopping
  | .stopped _ => state = .stopping
  | .notifying _ _ | .handingOver _ _ => state = .processing ∨ state = .stopping
  | .absent | .leaving | .exited => True

def WorkItem.run : WorkItem → Nat
  | .processWafer run _ | .discardSamples run => run

def WorkItem.Fits (state : ProcessState) : WorkItem → Prop
  | .processWafer _ _ => state = .processing ∨ state = .stopping
  | .discardSamples _ => state = .stopping

/-- The run that the processing thread has to end; an accepted result has ended it. -/
def Worker.holds : Worker → Option Nat
  | .discarding run | .stopping run _ => some run
  | .collecting run _ _ | .checking run _ _ | .analysing run _ _ => some run
  | .notifying run _ _ accepted | .deciding run _ _ accepted => if accepted then none else some run
  | .idle | .publishing _ _ _ | .reporting => none

def Worker.Fits (state : ProcessState) : Worker → Prop
  | .discarding _ | .stopping _ _ => state = .stopping
  | .collecting _ _ _ | .checking _ _ _ | .analysing _ _ _ =>
      state = .processing ∨ state = .stopping
  | .notifying _ _ _ accepted | .deciding _ _ _ accepted => accepted = false ↔ state = .stopping
  | .idle | .publishing _ _ _ | .reporting => True

def Worker.notifies : Worker → Bool
  | .notifying _ _ _ _ => true
  | _ => false

/-- A thread that holds no run fits any state, but the decision may not find Stopping. -/
theorem ScanThread.fits_of_free {scan : ScanThread} (free : scan.holds = none) (abort : Bool)
    (state : ProcessState) : scan.Fits abort state := by
  cases scan with
  | absent | leaving | exited => trivial
  | _ => cases free

theorem Worker.fits_of_free {worker : Worker} (free : worker.holds = none) {state : ProcessState}
    (other : state ≠ .stopping) : worker.Fits state := by
  cases worker with
  | notifying run waferId result accepted | deciding run waferId result accepted =>
      cases accepted with
      | true => simp [Fits, other]
      | false => cases free
  | idle | publishing | reporting => trivial
  | _ => cases free

/-- An Abort finds every scan thread where it can be. -/
theorem ScanThread.Fits.stopping {scan : ScanThread} {abort : Bool} {state : ProcessState}
    (fits : scan.Fits abort state) (after : Bool) : scan.Fits after .stopping := by
  cases scan with
  | absent | leaving | exited => trivial
  | stopped => rfl
  | _ => exact .inr rfl

theorem WorkItem.Fits.stopping (item : WorkItem) : item.Fits .stopping := by
  cases item with
  | processWafer => exact .inr rfl
  | discardSamples => rfl

namespace MachineRuntime

def state (runtime : MachineRuntime) : ProcessState :=
  runtime.controller.fsm.state

/-- What the controller thread has still to do. -/
def effects (runtime : MachineRuntime) : List Effect :=
  match runtime.call with
  | none => []
  | some call => call.effects

/-- How many scan threads the effects start. -/
def starts (effects : List Effect) : Nat :=
  effects.countP fun
    | .startScan _ => true
    | _ => false

/-- The run, once for every place that has it. -/
def holders (runtime : MachineRuntime) : List Nat :=
  List.replicate (starts runtime.effects) runtime.runs ++ runtime.scan.holds.toList ++
    runtime.jobs.map WorkItem.run ++ runtime.worker.holds.toList

/-- The states in which a run is under way. -/
def underway : ProcessState → Bool
  | .scanning | .processing | .stopping => true
  | .idle | .alarm => false

structure Custody (runtime : MachineRuntime) : Prop where
  shown : runtime.controller.StateShown
  holders : runtime.holders = if underway runtime.state then [runtime.runs] else []
  starting : 0 < starts runtime.effects → runtime.state = .scanning
  aborting : Effect.requestAbort ∈ runtime.effects → runtime.state = .stopping
  scan : runtime.scan.Fits runtime.abortRequested runtime.state
  jobs : ∀ item ∈ runtime.jobs, item.Fits runtime.state
  worker : runtime.worker.Fits runtime.state
  waiting : runtime.worker.notifies = true → ∃ effects, runtime.call = some ⟨effects, .worker⟩

theorem custody_fresh (config : RuntimeConfig) : (fresh config).Custody where
  shown := rfl
  holders := rfl
  starting := by simp [effects, fresh, starts]
  aborting := by simp [effects, fresh]
  scan := trivial
  jobs := by simp [fresh]
  worker := trivial
  waiting := by simp [fresh, Worker.notifies]

/-! ## One holder -/

theorem holders_length (runtime : MachineRuntime) :
    runtime.holders.length = starts runtime.effects + runtime.scan.holds.toList.length +
      runtime.jobs.length + runtime.worker.holds.toList.length := by
  simp only [holders, List.length_append, List.length_replicate, List.length_map]

theorem eq_none_of_length {held : Option Nat} (none : held.toList.length = 0) : held = .none :=
  Option.toList_eq_nil_iff.mp (List.length_eq_zero_iff.mp none)

theorem forall_jobs_of_nil {jobs : List WorkItem} {P : WorkItem → Prop} (none : jobs = []) :
    ∀ item ∈ jobs, P item := by
  rw [none]
  nofun

/-- Without a holder every place is free. -/
theorem free_of_holders_nil {runtime : MachineRuntime} (none : runtime.holders = []) :
    starts runtime.effects = 0 ∧ runtime.scan.holds = .none ∧ runtime.jobs = [] ∧
      runtime.worker.holds = .none := by
  have length := runtime.holders_length
  rw [none, List.length_nil] at length
  exact ⟨by omega, eq_none_of_length (by omega), List.length_eq_zero_iff.mp (by omega),
    eq_none_of_length (by omega)⟩

namespace Custody

variable {runtime : MachineRuntime} (custody : runtime.Custody)

include custody

theorem length_le_one : starts runtime.effects + runtime.scan.holds.toList.length +
    runtime.jobs.length + runtime.worker.holds.toList.length ≤ 1 := by
  rw [← holders_length, custody.holders]
  split <;> simp

theorem eq_of_mem_holders {run : Nat} (member : run ∈ runtime.holders) : run = runtime.runs := by
  rw [custody.holders] at member
  split at member
  · exact List.mem_singleton.mp member
  · cases member

/-- The scan thread has the run: no other place does, and it is the current one. -/
theorem scan_holds {run : Nat} (held : runtime.scan.holds = some run) :
    run = runtime.runs ∧ starts runtime.effects = 0 ∧ runtime.jobs = [] ∧
      runtime.worker.holds = none := by
  have length := custody.length_le_one
  simp only [held, Option.toList_some, List.length_singleton] at length
  exact ⟨custody.eq_of_mem_holders (by simp [MachineRuntime.holders, held]), by omega,
    List.length_eq_zero_iff.mp (by omega), eq_none_of_length (by omega)⟩

theorem job_holds {item : WorkItem} {jobs : List WorkItem} (queued : runtime.jobs = item :: jobs) :
    item.run = runtime.runs ∧ starts runtime.effects = 0 ∧ runtime.scan.holds = none ∧
      jobs = [] ∧ runtime.worker.holds = none := by
  have length := custody.length_le_one
  simp only [queued, List.length_cons] at length
  exact ⟨custody.eq_of_mem_holders (by simp [MachineRuntime.holders, queued]), by omega,
    eq_none_of_length (by omega), List.length_eq_zero_iff.mp (by omega),
    eq_none_of_length (by omega)⟩

theorem worker_holds {run : Nat} (held : runtime.worker.holds = some run) :
    run = runtime.runs ∧ starts runtime.effects = 0 ∧ runtime.scan.holds = none ∧
      runtime.jobs = [] := by
  have length := custody.length_le_one
  simp only [held, Option.toList_some, List.length_singleton] at length
  exact ⟨custody.eq_of_mem_holders (by simp [MachineRuntime.holders, held]), by omega,
    eq_none_of_length (by omega), List.length_eq_zero_iff.mp (by omega)⟩

theorem start_holds (starting : 0 < starts runtime.effects) :
    starts runtime.effects = 1 ∧ runtime.scan.holds = none ∧ runtime.jobs = [] ∧
      runtime.worker.holds = none := by
  have length := custody.length_le_one
  exact ⟨by omega, eq_none_of_length (by omega), List.length_eq_zero_iff.mp (by omega),
    eq_none_of_length (by omega)⟩

end Custody

/-! ## Calls of the controller -/

theorem starts_of_publishes {effects : List Effect} (publishes : Publishes effects) :
    starts effects = 0 := by
  refine List.countP_eq_zero.mpr fun effect member => ?_
  obtain ⟨event, rfl⟩ := publishes effect member
  simp

theorem no_abort_of_publishes {effects : List Effect} (publishes : Publishes effects) :
    Effect.requestAbort ∉ effects := by
  intro member
  obtain ⟨event, equal⟩ := publishes _ member
  cases equal

theorem starts_pos_of_subset {first second : List Effect} (subset : first ⊆ second)
    (starting : 0 < starts first) : 0 < starts second := by
  obtain ⟨effect, member, starts⟩ := List.countP_pos_iff.mp starting
  exact List.countP_pos_iff.mpr ⟨effect, subset member, starts⟩

/-- The holders while the controller thread starts no scan. -/
theorem holders_of_no_start {runtime : MachineRuntime} (none : starts runtime.effects = 0) :
    runtime.holders = runtime.scan.holds.toList ++ runtime.jobs.map WorkItem.run ++
      runtime.worker.holds.toList := by
  simp [holders, none]

/-- The controller thread has taken a closure that only publishes. -/
theorem custody_of_moves {next : MachineRuntime} {outcome : Outcome} {after : ProcessState}
    {caller : Caller} (moves : outcome.Moves after) (controller : next.controller = outcome.next)
    (call : next.call = some ⟨outcome.effects, caller⟩)
    (holders : next.scan.holds.toList ++ next.jobs.map WorkItem.run ++
      next.worker.holds.toList = if underway after then [next.runs] else [])
    (scan : next.scan.Fits next.abortRequested after) (jobs : ∀ item ∈ next.jobs, item.Fits after)
    (worker : next.worker.Fits after)
    (waiting : next.worker.notifies = true → caller = .worker) : next.Custody := by
  have state : next.state = after := by rw [MachineRuntime.state, controller, moves.state]
  have effects : next.effects = outcome.effects := by rw [MachineRuntime.effects, call]
  have none : starts next.effects = 0 := by
    rw [effects]
    exact starts_of_publishes moves.publishes
  refine ⟨by rw [controller]; exact moves.shown, ?_, fun starting => by omega, fun aborting => ?_,
    by rw [state]; exact scan, by rw [state]; exact jobs, by rw [state]; exact worker, ?_⟩
  · rw [holders_of_no_start none, state, holders]
  · rw [effects] at aborting
    exact absurd aborting (no_abort_of_publishes moves.publishes)
  · intro notifies
    exact ⟨outcome.effects, waiting notifies ▸ call⟩

/-- Without a call under way there is nothing left to do, and no one waits. -/
theorem Custody.free {runtime : MachineRuntime} (custody : runtime.Custody)
    (none : runtime.call = none) :
    starts runtime.effects = 0 ∧ runtime.worker.notifies = false := by
  constructor
  · rw [effects, none]
    rfl
  · by_contra waits
    obtain ⟨effects, call⟩ := custody.waiting (by simpa using waits)
    rw [none] at call
    cases call

/-- An Abort would be accepted while the processing thread is about to read the state again. -/
def interruptsDecision (runtime : MachineRuntime) : Input → Bool
  | .command ⟨.abort, source⟩ =>
      match runtime.worker with
      | .deciding _ _ _ _ => (runtime.controller.handleCommand ⟨.abort, source⟩).result.toBool
      | _ => false
  | _ => false

/-- An accepted Abort finds the processing thread where it can be, unless it interrupts it. -/
theorem Custody.worker_of_abort {runtime : MachineRuntime} (custody : runtime.Custody)
    {source : CommandSource} (idle : runtime.call = none)
    (active : runtime.state = .scanning ∨ runtime.state = .processing)
    (calm : runtime.interruptsDecision (.command ⟨.abort, source⟩) = false)
    (accepted : (runtime.controller.handleCommand ⟨.abort, source⟩).result.toBool = true) :
    runtime.worker.Fits .stopping := by
  have fits := custody.worker
  have noWait := (custody.free idle).2
  have other : runtime.state ≠ .stopping := by
    rcases active with scanning | processing
    · simp [scanning]
    · simp [processing]
  cases worker : runtime.worker with
  | discarding run | stopping run processing => rfl
  | collecting run waferId blocks | checking run waferId blocks | analysing run waferId blocks =>
      exact .inr rfl
  | notifying run waferId result answer =>
      rw [worker] at noWait
      cases noWait
  | deciding run waferId result answer =>
      simp only [interruptsDecision, worker] at calm
      rw [accepted] at calm
      cases calm
  | idle | publishing run waferId result | reporting => trivial

theorem custody_command {runtime : MachineRuntime} {command : Command} {outcome : Outcome}
    (custody : runtime.Custody)
    (calm : runtime.interruptsDecision (.command command) = false) (idle : runtime.call = none)
    (answered : runtime.controller.runClosure (.command command) = outcome) :
    Custody { runtime.answering outcome .client with
      runs := if command.payload.isStart && outcome.result.toBool then runtime.runs + 1
        else runtime.runs } := by
  obtain ⟨noStart, noWait⟩ := custody.free idle
  have holders := custody.holders
  rw [holders_of_no_start noStart] at holders
  obtain ⟨payload, source⟩ := command
  have effect := Controller.handleCommand_effect custody.shown ⟨payload, source⟩
  rw [show runtime.controller.handleCommand ⟨payload, source⟩ = outcome from answered] at effect
  dsimp only [answering] at effect ⊢
  cases effect with
  | kept _ _ moves notStarted =>
      rw [if_neg (by simp [notStarted])]
      exact custody_of_moves moves rfl rfl holders custody.scan custody.jobs custody.worker
        (fun notifies => nomatch noWait.symm.trans notifies)
  | started waferId slot _ isIdle accepted state shown events publishes effects =>
      have inactive : underway runtime.state = false := by rw [MachineRuntime.state, isIdle]; rfl
      have free := custody.holders
      rw [if_neg (by simp [inactive])] at free
      obtain ⟨_, scan, jobs, worker⟩ := free_of_holders_nil free
      rw [if_pos (by simp [CommandPayload.isStart, accepted])]
      have one : starts outcome.effects = 1 := by
        have events : starts events = 0 := starts_of_publishes publishes
        rw [effects]
        simpa [starts] using events
      refine ⟨shown, ?_, fun _ => state, fun aborting => ?_, ScanThread.fits_of_free scan _ _, ?_,
        Worker.fits_of_free worker (by rw [MachineRuntime.state, state]; simp), ?_⟩
      · simp [MachineRuntime.holders, MachineRuntime.effects, one, scan, jobs, worker,
          MachineRuntime.state, state, underway]
      · have member : Effect.requestAbort ∈ events ++ [Effect.startScan waferId] :=
          effects ▸ aborting
        exact absurd (by simpa using member) (no_abort_of_publishes publishes)
      · exact forall_jobs_of_nil jobs
      · intro notifies
        cases noWait.symm.trans notifies
  | aborted _ active accepted state shown events publishes effects =>
      rw [if_neg (by simp [CommandPayload.isStart])]
      have before : underway runtime.state = true := by
        rcases active with scanning | processing
        · rw [MachineRuntime.state, scanning]; rfl
        · rw [MachineRuntime.state, processing]; rfl
      have noStarts : starts outcome.effects = 0 := by
        have events : starts events = 0 := starts_of_publishes publishes
        rw [effects]
        simpa [starts] using events
      refine ⟨shown, ?_, fun starting => ?_, fun _ => state, ?_, ?_, ?_, ?_⟩
      · refine (holders_of_no_start (by exact noStarts)).trans ?_
        rw [MachineRuntime.state, state]
        exact holders.trans (by rw [before]; rfl)
      · have starting : 0 < starts outcome.effects := starting
        omega
      · rw [MachineRuntime.state, state]
        exact custody.scan.stopping _
      · intro item _
        rw [MachineRuntime.state, state]
        exact WorkItem.Fits.stopping item
      · rw [MachineRuntime.state, state]
        exact custody.worker_of_abort idle active calm
          (by rw [← answered] at accepted; exact accepted)
      · intro notifies
        cases noWait.symm.trans notifies
  | cleared _ alarm moves =>
      rw [if_neg (by simp [CommandPayload.isStart])]
      have inactive : underway runtime.state = false := by rw [MachineRuntime.state, alarm]; rfl
      have free := custody.holders
      rw [if_neg (by simp [inactive])] at free
      obtain ⟨_, scan, jobs, worker⟩ := free_of_holders_nil free
      refine custody_of_moves moves rfl rfl ?_ (ScanThread.fits_of_free scan _ _) ?_
        (Worker.fits_of_free worker (by simp))
        (fun notifies => nomatch noWait.symm.trans notifies)
      · simp [scan, jobs, worker, underway]
      · exact forall_jobs_of_nil jobs

/-! ## Steps that leave the controller's state -/

/-- The run is handed on, or stays where it is. -/
theorem Custody.handOn {runtime next : MachineRuntime} (custody : runtime.Custody)
    (controller : next.controller = runtime.controller) (runs : next.runs = runtime.runs)
    (holders : next.holders = runtime.holders) (effects : next.effects ⊆ runtime.effects)
    (scan : next.scan.Fits next.abortRequested runtime.state)
    (jobs : ∀ item ∈ next.jobs, item.Fits runtime.state) (worker : next.worker.Fits runtime.state)
    (waiting : next.worker.notifies = true → ∃ effects, next.call = some ⟨effects, .worker⟩) :
    next.Custody := by
  have state : next.state = runtime.state := by
    rw [MachineRuntime.state, controller, MachineRuntime.state]
  refine ⟨by rw [controller]; exact custody.shown, ?_, fun starting => ?_, fun aborting => ?_, ?_,
    ?_, ?_, waiting⟩
  · rw [holders, custody.holders, state, runs]
  · rw [state]
    exact custody.starting (starts_pos_of_subset effects starting)
  · rw [state]
    exact custody.aborting (effects aborting)
  · rw [state]
    exact scan
  · rw [state]
    exact jobs
  · rw [state]
    exact worker

theorem effects_of_call {runtime : MachineRuntime} {call : Call} (busy : runtime.call = some call) :
    runtime.effects = call.effects := by
  rw [effects, busy]

/-- The call ends, and the thread that has waited for it goes on from the same run. -/
theorem Custody.endCall {runtime next : MachineRuntime} {caller : Caller}
    (custody : runtime.Custody) (busy : runtime.call = some ⟨[], caller⟩)
    (controller : next.controller = runtime.controller) (runs : next.runs = runtime.runs)
    (idle : next.call = none) (jobs : next.jobs = runtime.jobs)
    (flag : next.abortRequested = runtime.abortRequested)
    (scan : next.scan.holds = runtime.scan.holds)
    (scanFits : next.scan.Fits runtime.abortRequested runtime.state)
    (worker : next.worker.holds = runtime.worker.holds)
    (workerFits : next.worker.Fits runtime.state) (free : next.worker.notifies = false) :
    next.Custody := by
  have none : runtime.effects = [] := effects_of_call busy
  have noEffects : next.effects = [] := by rw [effects, idle]
  refine custody.handOn controller runs ?_ (by rw [noEffects]; exact List.nil_subset _)
    (flag ▸ scanFits) (by rw [jobs]; exact custody.jobs) workerFits
    (fun notifies => by rw [free] at notifies; cases notifies)
  rw [holders_of_no_start (by rw [noEffects]; rfl), holders_of_no_start (by rw [none]; rfl), scan,
    jobs, worker]

/-- While a call for another thread ends, the processing thread does not wait for one. -/
theorem Custody.not_notifies {runtime : MachineRuntime} {effects : List Effect} {caller : Caller}
    (custody : runtime.Custody) (busy : runtime.call = some ⟨effects, caller⟩)
    (other : caller ≠ .worker) : runtime.worker.notifies = false := by
  refine eq_false_of_ne_true fun notifies => other ?_
  obtain ⟨rest, call⟩ := custody.waiting notifies
  rw [busy] at call
  exact congrArg Call.caller (Option.some.inj call)

theorem holds_atLine (runtime : MachineRuntime) (run : Nat) (waferId : Text) (line : Nat) :
    (runtime.atLine run waferId line).holds = some run := by
  unfold atLine
  split <;> rfl

theorem fits_atLine (runtime : MachineRuntime) (run : Nat) (waferId : Text) (line : Nat)
    {abort : Bool} {state : ProcessState}
    (fits : state = .scanning ∧ abort = false ∨ state = .stopping) :
    (runtime.atLine run waferId line).Fits abort state := by
  unfold atLine
  split <;> exact fits

/-- The thread that has handed in the closure waits until its end. -/
theorem Custody.stillWaits {runtime : MachineRuntime} {effect : Effect} {effects : List Effect}
    {caller : Caller} (custody : runtime.Custody)
    (busy : runtime.call = some ⟨effect :: effects, caller⟩)
    (notifies : runtime.worker.notifies = true) :
    ∃ rest, some (Call.mk effects caller) = some ⟨rest, .worker⟩ := by
  obtain ⟨_, call⟩ := custody.waiting notifies
  rw [busy] at call
  obtain ⟨_, rfl⟩ := Call.mk.inj (Option.some.inj call)
  exact ⟨effects, rfl⟩

/-- The controller thread is done with an effect that starts no scan. -/
theorem Custody.dropEffect {runtime : MachineRuntime} {effect : Effect} {effects : List Effect}
    {caller : Caller} (custody : runtime.Custody)
    (busy : runtime.call = some ⟨effect :: effects, caller⟩)
    (same : starts (effect :: effects) = starts effects) {flag : Bool}
    (fits : runtime.scan.Fits flag runtime.state) :
    Custody { runtime with call := some ⟨effects, caller⟩, abortRequested := flag } := by
  have all : runtime.effects = effect :: effects := effects_of_call busy
  refine custody.handOn rfl rfl ?_ ?_ fits custody.jobs custody.worker (custody.stillWaits busy)
  · simp only [MachineRuntime.holders, all, same]
    rfl
  · rw [all]
    exact List.subset_cons_self _ _

theorem custody_scanStarted {runtime : MachineRuntime} {waferId : Text} {effects : List Effect}
    {caller : Caller} (custody : runtime.Custody)
    (busy : runtime.call = some ⟨.startScan waferId :: effects, caller⟩) :
    Custody { runtime with
      call := some ⟨effects, caller⟩, abortRequested := false
      scan := runtime.atLine runtime.runs waferId 0 } := by
  have all : runtime.effects = .startScan waferId :: effects := effects_of_call busy
  have starting : 0 < starts runtime.effects := by simp [all, starts]
  obtain ⟨one, scan, jobs, worker⟩ := custody.start_holds starting
  have rest : starts effects = 0 := by simpa [all, starts] using one
  refine custody.handOn rfl rfl ?_ ?_ ?_ custody.jobs custody.worker (custody.stillWaits busy)
  · rw [holders_of_no_start (by exact rest)]
    simp [MachineRuntime.holders, one, scan, jobs, worker, holds_atLine]
  · rw [all]
    exact List.subset_cons_self _ _
  · exact fits_atLine _ _ _ _ (.inl ⟨custody.starting starting, rfl⟩)

/-! ## The scan thread -/

/-- The scan thread goes on with its run. -/
theorem Custody.scanGoesOn {runtime : MachineRuntime} (custody : runtime.Custody)
    (scan : ScanThread) (holds : scan.holds = runtime.scan.holds)
    (fits : scan.Fits runtime.abortRequested runtime.state) (samples : List SampleBlock) :
    Custody { runtime with scan := scan, samples := samples } := by
  refine custody.handOn rfl rfl ?_ (List.Subset.refl _) fits custody.jobs custody.worker
    custody.waiting
  simp only [MachineRuntime.holders, MachineRuntime.effects, holds]

/-- The scan thread hands its run to the queue. -/
theorem custody_handOver {runtime : MachineRuntime} (custody : runtime.Custody)
    (item : WorkItem) (held : runtime.scan.holds = some item.run)
    (fits : item.Fits runtime.state) :
    Custody { runtime with scan := .leaving, jobs := runtime.jobs ++ [item] } := by
  obtain ⟨_, noStart, jobs, worker⟩ := custody.scan_holds held
  refine custody.handOn rfl rfl ?_ (List.Subset.refl _) trivial ?_ custody.worker
    custody.waiting
  · rw [holders_of_no_start noStart]
    refine (holders_of_no_start (by exact noStart)).trans ?_
    rw [held, jobs, worker]
    rfl
  · intro other member
    rw [show runtime.jobs = [] from jobs, List.nil_append, List.mem_singleton] at member
    exact member ▸ fits

/-- The scan thread has pushed a line, and goes to the next one or stops. -/
theorem custody_linePushed {runtime : MachineRuntime} {run line : Nat} {waferId : Text}
    {aborted : Bool} (custody : runtime.Custody)
    (scan : runtime.scan = .pushing run waferId line aborted) (samples : List SampleBlock) :
    Custody { runtime with
      samples := samples
      scan := if aborted then .stopped run else runtime.atLine run waferId (line + 1) } := by
  have fits := custody.scan
  rw [scan] at fits
  cases aborted with
  | true =>
      have stopping : runtime.state = .stopping := by
        rcases fits with ⟨_, _, impossible⟩ | stopping
        · cases impossible
        · exact stopping
      exact custody.scanGoesOn (.stopped run) (by rw [scan]; rfl) stopping _
  | false =>
      refine custody.scanGoesOn _ (by rw [scan]; exact holds_atLine _ _ _ _)
        (fits_atLine _ _ _ _ ?_) _
      rcases fits with ⟨scanning, clear, _⟩ | stopping
      · exact .inl ⟨scanning, clear⟩
      · exact .inr stopping

/-- The scan thread reports its lines: Scanning ends, and Stopping stays. -/
theorem custody_scanReported {runtime : MachineRuntime} {run : Nat} {waferId : Text}
    {outcome : Outcome} (custody : runtime.Custody)
    (scan : runtime.scan = .completing run waferId) (idle : runtime.call = none)
    (answered : runtime.controller.runClosure (.scanComplete waferId) = outcome) :
    Custody { runtime.answering outcome .scan with scan := .notifying run waferId } := by
  have fits := custody.scan
  rw [scan] at fits
  obtain ⟨current, _, jobs, worker⟩ := custody.scan_holds (by rw [scan]; rfl)
  have noWait := (custody.free idle).2
  have moves := Controller.notifyScanComplete_moves waferId custody.shown
  rw [show runtime.controller.notifyScanComplete waferId = outcome from answered] at moves
  have after : (if runtime.controller.fsm.state = .scanning then ProcessState.processing
      else runtime.controller.fsm.state) = .processing ∧ runtime.state = .scanning ∨
      (if runtime.controller.fsm.state = .scanning then ProcessState.processing
        else runtime.controller.fsm.state) = .stopping ∧ runtime.state = .stopping := by
    rcases fits with ⟨scanning, _⟩ | stopping
    · exact .inl ⟨if_pos scanning, scanning⟩
    · refine .inr ⟨?_, stopping⟩
      rw [show runtime.controller.fsm.state = .stopping from stopping]
      rfl
  generalize (if runtime.controller.fsm.state = .scanning then ProcessState.processing
    else runtime.controller.fsm.state) = state at moves after
  refine custody_of_moves moves rfl rfl ?_ ?_ (forall_jobs_of_nil jobs) ?_
    (fun notifies => by cases noWait.symm.trans notifies)
  · rcases after with ⟨rfl, _⟩ | ⟨rfl, _⟩ <;>
      simp [answering, ScanThread.holds, jobs, worker, underway, current]
  · rcases after with ⟨rfl, _⟩ | ⟨rfl, _⟩
    · exact .inl rfl
    · exact .inr rfl
  · rcases after with ⟨rfl, _⟩ | ⟨rfl, same⟩
    · exact Worker.fits_of_free worker (by simp)
    · exact same ▸ custody.worker

/-! ## The processing thread -/

/-- The processing thread goes on with its run, or without one. -/
theorem Custody.workerGoesOn {runtime : MachineRuntime} (custody : runtime.Custody)
    (worker : Worker) (holds : worker.holds = runtime.worker.holds)
    (fits : worker.Fits runtime.state) (free : worker.notifies = false)
    (samples : List SampleBlock) (history : List Mark) :
    Custody { runtime with worker := worker, samples := samples, history := history } := by
  refine custody.handOn rfl rfl ?_ (List.Subset.refl _) custody.scan custody.jobs fits
    (fun notifies => by rw [free] at notifies; cases notifies)
  simp only [MachineRuntime.holders, MachineRuntime.effects, holds]

/-- The processing thread takes a run from the queue. -/
theorem Custody.takeJob {runtime : MachineRuntime} (custody : runtime.Custody) {item : WorkItem}
    {jobs : List WorkItem} (queued : runtime.jobs = item :: jobs) (worker : Worker)
    (holds : worker.holds = some item.run) (fits : worker.Fits runtime.state)
    (free : worker.notifies = false) :
    Custody { runtime with jobs := jobs, worker := worker } := by
  obtain ⟨_, noStart, scan, rest, before⟩ := custody.job_holds queued
  refine custody.handOn rfl rfl ?_ (List.Subset.refl _) custody.scan ?_ fits
    (fun notifies => by rw [free] at notifies; cases notifies)
  · rw [holders_of_no_start noStart]
    refine (holders_of_no_start (by exact noStart)).trans ?_
    simp [queued, rest, scan, before, holds]
  · intro other member
    rw [show jobs = [] from rest] at member
    cases member

/-- The processing thread reports that the stage has stopped: of the current run. -/
theorem custody_stopReported {runtime : MachineRuntime} {run : Nat} {processing : Bool}
    {outcome : Outcome} (custody : runtime.Custody)
    (worker : runtime.worker = .stopping run processing)
    (answered : runtime.controller.runClosure .stageStopped = outcome) (history : List Mark) :
    Custody { runtime.answering outcome .worker with
      worker := .reporting, history := history } := by
  have stopping : runtime.state = .stopping := by
    have fits := custody.worker
    rw [worker] at fits
    exact fits
  obtain ⟨_, _, scan, jobs⟩ := custody.worker_holds (show _ = some run by rw [worker]; rfl)
  have moves := (Controller.notifyStageStopped_of_stopping stopping).2
  rw [show runtime.controller.notifyStageStopped = outcome from answered] at moves
  refine custody_of_moves moves rfl rfl ?_ (ScanThread.fits_of_free scan _ _)
    (forall_jobs_of_nil jobs) trivial (fun _ => rfl)
  simp [answering, scan, jobs, Worker.holds, underway]

/-- The result ends the run, or is rejected because the run is being stopped. -/
theorem custody_resultReported {runtime : MachineRuntime} {run : Nat} {waferId : Text}
    {blocks : List SampleBlock} {result : PipelineResult} {outcome : Outcome}
    (custody : runtime.Custody) (worker : runtime.worker = .analysing run waferId blocks)
    (answered : runtime.controller.runClosure result.closure = outcome) (history : List Mark) :
    Custody { runtime.answering outcome .worker with
      worker := .notifying run waferId result outcome.result.toBool, history := history } := by
  have fits := custody.worker
  rw [worker] at fits
  obtain ⟨current, _, scan, jobs⟩ := custody.worker_holds (show _ = some run by rw [worker]; rfl)
  have answered : runtime.controller.notifyProcessingResult result.outOfSpec result.stressMpa
      (result.raised.map Prod.fst) ((result.raised.map Prod.snd).getD []) false = outcome :=
    answered
  rcases fits with processing | stopping
  · have accepted := Controller.notifyProcessingResult_of_processing processing
      result.outOfSpec result.stressMpa (result.raised.map Prod.fst)
      ((result.raised.map Prod.snd).getD [])
    rw [answered] at accepted
    refine custody_of_moves accepted.2 rfl rfl ?_ (ScanThread.fits_of_free scan _ _)
      (forall_jobs_of_nil jobs) ?_ (fun _ => rfl)
    · rw [accepted.1]
      split <;> simp [answering, scan, jobs, Worker.holds, underway]
    · rw [accepted.1]
      refine Worker.fits_of_free rfl ?_
      split <;> simp
  · have rejected := Controller.notifyProcessingResult_of_stopping custody.shown stopping
      result.outOfSpec result.stressMpa (result.raised.map Prod.fst)
      ((result.raised.map Prod.snd).getD [])
    rw [answered] at rejected
    refine custody_of_moves rejected.2 rfl rfl ?_ (ScanThread.fits_of_free scan _ _)
      (forall_jobs_of_nil jobs) ?_ (fun _ => rfl)
    · simp [answering, scan, jobs, Worker.holds, underway, rejected.1, current]
    · rw [rejected.1]
      exact ⟨fun _ => rfl, fun _ => rfl⟩

/-- The state that is read tells whether the result was accepted. -/
theorem Custody.accepted_iff {runtime : MachineRuntime} {run : Nat} {waferId : Text}
    {result : PipelineResult} {accepted : Bool} (custody : runtime.Custody)
    (worker : runtime.worker = .deciding run waferId result accepted) :
    accepted = false ↔ runtime.controller.state = .stopping := by
  have fits := custody.worker
  rw [worker] at fits
  rw [custody.shown]
  exact fits

theorem Custody.accepted_of_other {runtime : MachineRuntime} {run : Nat} {waferId : Text}
    {result : PipelineResult} {accepted : Bool} (custody : runtime.Custody)
    (worker : runtime.worker = .deciding run waferId result accepted)
    (other : runtime.controller.state ≠ .stopping) : accepted = true := by
  by_contra rejected
  exact other ((custody.accepted_iff worker).mp (by simpa using rejected))

/-! ## One step -/

theorem custody_step {runtime next : MachineRuntime} {input : Input} (custody : runtime.Custody)
    (calm : runtime.interruptsDecision input = false) (taken : runtime.step input = some next) :
    next.Custody := by
  have scanFits := custody.scan
  have workerFits := custody.worker
  cases does_step taken with
  | commanded command outcome idle answered => exact custody_command custody calm idle answered
  | published event effects caller busy =>
      exact custody.dropEffect busy (by simp [starts]) custody.scan
  | abortAsked effects caller busy =>
      have stopping : runtime.state = .stopping :=
        custody.aborting (by simp [effects_of_call busy])
      refine custody.dropEffect busy (by simp [starts]) ?_
      rw [stopping] at scanFits ⊢
      exact scanFits.stopping _
  | scanStarted waferId effects caller busy => exact custody_scanStarted custody busy
  | scanAnswered run waferId busy scan =>
      rw [scan] at scanFits
      exact custody.endCall busy rfl rfl rfl rfl rfl (by rw [scan]; rfl) scanFits rfl workerFits
        (custody.not_notifies busy nofun)
  | resultAnswered run waferId result accepted busy worker =>
      rw [worker] at workerFits
      exact custody.endCall busy rfl rfl rfl rfl rfl rfl scanFits (by rw [worker]; rfl) workerFits
        rfl
  | stopAnswered busy worker =>
      exact custody.endCall busy rfl rfl rfl rfl rfl rfl scanFits (by rw [worker]; rfl) trivial rfl
  | callEnded caller busy noResult =>
      refine custody.endCall busy rfl rfl rfl rfl rfl rfl scanFits rfl workerFits ?_
      by_cases own : caller = .worker
      · cases worker : runtime.worker with
        | notifying run waferId result accepted =>
            exact absurd worker (noResult own run waferId result accepted)
        | _ => rfl
      · exact custody.not_notifies busy own
  | measured run waferId line point scan =>
      rw [scan] at scanFits
      exact custody.scanGoesOn (.scanning run waferId line (point + 1)) (by rw [scan]; rfl) scanFits
        runtime.samples
  | interrupted run waferId line point scan more abort =>
      rw [scan] at scanFits
      -- The flag is set only after the state is Stopping.
      have stopping : runtime.state = .stopping := by
        rcases scanFits with ⟨_, clear⟩ | stopping
        · rw [clear] at abort
          cases abort
        · exact stopping
      exact custody.scanGoesOn (.pushing run waferId line true) (by rw [scan]; rfl)
        (.inr stopping) runtime.samples
  | lineDone run waferId line point scan =>
      rw [scan] at scanFits
      refine custody.scanGoesOn (.pushing run waferId line false) (by rw [scan]; rfl) ?_
        runtime.samples
      rcases scanFits with ⟨scanning, clear⟩ | stopping
      · exact .inl ⟨scanning, clear, rfl⟩
      · exact .inr stopping
  | linePushed run waferId line aborted scan => exact custody_linePushed custody scan _
  | discardHandedOver run scan =>
      rw [scan] at scanFits
      exact custody_handOver custody (.discardSamples run) (by rw [scan]; rfl) scanFits
  | scanReported run waferId outcome scan idle answered =>
      exact custody_scanReported custody scan idle answered
  | waferHandedOver run waferId scan =>
      rw [scan] at scanFits
      exact custody_handOver custody (.processWafer run waferId) (by rw [scan]; rfl) scanFits
  | scanExited scan =>
      exact custody.scanGoesOn .exited (by rw [scan]; rfl) trivial runtime.samples
  | waferTaken run waferId jobs result worker queued =>
      have item := custody.jobs (.processWafer run waferId) (by simp [queued])
      exact custody.takeJob queued (.collecting run waferId []) rfl item rfl
  | discardTaken run jobs result worker queued =>
      have item := custody.jobs (.discardSamples run) (by simp [queued])
      exact custody.takeJob queued (.discarding run) rfl item rfl
  | blockDiscarded run block samples result worker =>
      exact custody.workerGoesOn runtime.worker rfl workerFits (by rw [worker]; rfl) _ _
  | allDiscarded run result worker =>
      rw [worker] at workerFits
      exact custody.workerGoesOn (.stopping run false) (by rw [worker]; rfl) workerFits rfl _ _
  | blockCollected run waferId blocks block samples result worker =>
      rw [worker] at workerFits
      exact custody.workerGoesOn (.collecting run waferId (blocks ++ [block]))
        (by rw [worker]; rfl) workerFits rfl _ _
  | allCollected run waferId blocks result worker =>
      rw [worker] at workerFits
      exact custody.workerGoesOn (.checking run waferId blocks) (by rw [worker]; rfl) workerFits rfl
        _ _
  | stopSeen run waferId blocks result worker stopping =>
      exact custody.workerGoesOn (.stopping run true) (by rw [worker]; rfl)
        (custody.shown.symm.trans stopping) rfl _ _
  | noStopSeen run waferId blocks result worker =>
      rw [worker] at workerFits
      exact custody.workerGoesOn (.analysing run waferId blocks) (by rw [worker]; rfl) workerFits
        rfl _ _
  | resultReported run waferId blocks result outcome worker idle answered =>
      exact custody_resultReported custody worker answered _
  | resultDropped run waferId found accepted result worker stopping =>
      -- The state is Stopping, so the result was rejected and the run is still this one.
      have rejected : accepted = false := (custody.accepted_iff worker).mpr stopping
      exact custody.workerGoesOn (.stopping run true) (by rw [worker, rejected]; rfl)
        (custody.shown.symm.trans stopping) rfl _ _
  | resultKept run waferId found accepted result worker other =>
      have answered : accepted = true := custody.accepted_of_other worker other
      exact custody.workerGoesOn (.publishing run waferId found) (by rw [worker, answered]; rfl)
        trivial rfl _ _
  | resultPublished run waferId found result worker =>
      exact custody.workerGoesOn .idle (by rw [worker]; rfl) trivial rfl _ _
  | stopReported run processing result outcome worker idle answered =>
      exact custody_stopReported custody worker answered _

end MachineRuntime

end Ssim.Machine
