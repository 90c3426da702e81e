import Ssim.Machine.Results

/-!
# Runs do not meet

All runs share one queue of sample blocks and one scan thread.  While `Custody`
holds, the queue has nothing but blocks of the current run, so `process_wafer` pops
exactly the lines of its own scan and a discard pops nothing of a later one; and a
Start finds the previous scan thread past its last call, so the driver's join does
not wait for a thread that waits for the controller.
-/

namespace Ssim.Machine

open Ssim.Core
open Library.Runs

/-! ## Traffic of the sample queue -/

inductive Traffic where
  /-- A scan thread has pushed a block. -/
  | pushed (run : Nat) (block : SampleBlock)
  /-- `process_wafer` of a run has popped a block. -/
  | collected (run : Nat) (block : SampleBlock)
  /-- The discard that a run has requested has popped a block. -/
  | discarded (run : Nat) (block : SampleBlock)
  deriving Repr, DecidableEq

namespace Traffic

def pushedBy? (run : Nat) : Traffic → Option SampleBlock
  | pushed other block => if other = run then some block else none
  | _ => none

def collectedBy? (run : Nat) : Traffic → Option SampleBlock
  | collected other block => if other = run then some block else none
  | _ => none

end Traffic

/-- The blocks that the scan thread of a run has pushed, in order. -/
def pushedBy (run : Nat) (log : List Traffic) : List SampleBlock :=
  log.filterMap (Traffic.pushedBy? run)

/-- The blocks that `process_wafer` of a run has popped, in order. -/
def collectedBy (run : Nat) (log : List Traffic) : List SampleBlock :=
  log.filterMap (Traffic.collectedBy? run)

/-- The first lines of a run. -/
def linesOf (run count : Nat) : List SampleBlock :=
  (List.range count).map fun line => ⟨run, line⟩

theorem linesOf_succ (run count : Nat) :
    linesOf run (count + 1) = linesOf run count ++ [⟨run, count⟩] := by
  simp [linesOf, List.range_succ]

@[simp]
theorem length_linesOf (run count : Nat) : (linesOf run count).length = count := by
  simp [linesOf]

section

variable (run other : Nat) (block : SampleBlock) (log : List Traffic)

@[simp]
theorem pushedBy_collected :
    pushedBy run (log ++ [.collected other block]) = pushedBy run log := by
  simp [pushedBy, Traffic.pushedBy?]

@[simp]
theorem pushedBy_discarded :
    pushedBy run (log ++ [.discarded other block]) = pushedBy run log := by
  simp [pushedBy, Traffic.pushedBy?]

@[simp]
theorem collectedBy_pushed :
    collectedBy run (log ++ [.pushed other block]) = collectedBy run log := by
  simp [collectedBy, Traffic.collectedBy?]

@[simp]
theorem collectedBy_discarded :
    collectedBy run (log ++ [.discarded other block]) = collectedBy run log := by
  simp [collectedBy, Traffic.collectedBy?]

@[simp]
theorem pushedBy_pushed :
    pushedBy run (log ++ [.pushed run block]) = pushedBy run log ++ [block] := by
  simp [pushedBy, Traffic.pushedBy?]

@[simp]
theorem collectedBy_collected :
    collectedBy run (log ++ [.collected run block]) = collectedBy run log ++ [block] := by
  simp [collectedBy, Traffic.collectedBy?]

variable {run other}

theorem pushedBy_pushed_of_ne (different : other ≠ run) :
    pushedBy run (log ++ [.pushed other block]) = pushedBy run log := by
  simp [pushedBy, Traffic.pushedBy?, different]

theorem collectedBy_collected_of_ne (different : other ≠ run) :
    collectedBy run (log ++ [.collected other block]) = collectedBy run log := by
  simp [collectedBy, Traffic.collectedBy?, different]

end

/-! ## Where the blocks of a run are -/

/-- The queue has the first lines of a run; they are all it has pushed, and none is popped. -/
structure Untouched (run count : Nat) (samples : List SampleBlock) (log : List Traffic) :
    Prop where
  queued : samples = linesOf run count
  pushed : pushedBy run log = linesOf run count
  collected : collectedBy run log = []

/-- The queue has nothing but blocks of a run. -/
def Own (run : Nat) (samples : List SampleBlock) (log : List Traffic) : Prop :=
  ∀ block ∈ samples, block ∈ pushedBy run log

theorem Untouched.own {run count : Nat} {samples : List SampleBlock} {log : List Traffic}
    (untouched : Untouched run count samples log) : Own run samples log := by
  intro block member
  rw [untouched.pushed, ← untouched.queued]
  exact member

/-- One line more. -/
theorem Untouched.push {run line : Nat} {samples : List SampleBlock} {log : List Traffic}
    (untouched : Untouched run line samples log) :
    Untouched run (line + 1) (samples ++ [⟨run, line⟩]) (log ++ [.pushed run ⟨run, line⟩]) := by
  refine ⟨?_, ?_, ?_⟩
  · rw [untouched.queued, linesOf_succ]
  · rw [pushedBy_pushed, untouched.pushed, linesOf_succ]
  · rw [collectedBy_pushed, untouched.collected]

def ScanThread.Tracks (lines : Nat) (samples : List SampleBlock) (log : List Traffic) :
    ScanThread → Prop
  | .scanning run _ line _ | .pushing run _ line _ =>
      line < lines ∧ Untouched run line samples log
  | .stopped run => Own run samples log
  | .completing run _ | .notifying run _ | .handingOver run _ => Untouched run lines samples log
  | .absent | .leaving | .exited => True

def WorkItem.Tracks (lines : Nat) (samples : List SampleBlock) (log : List Traffic) :
    WorkItem → Prop
  | .processWafer run _ => Untouched run lines samples log
  | .discardSamples run => Own run samples log

def Worker.Tracks (lines : Nat) (samples : List SampleBlock) (log : List Traffic) :
    Worker → Prop
  | .discarding run => Own run samples log
  | .collecting run _ blocks =>
      blocks ++ samples = linesOf run lines ∧ pushedBy run log = linesOf run lines ∧
        collectedBy run log = blocks
  | .checking run _ blocks | .analysing run _ blocks =>
      samples = [] ∧ blocks = linesOf run lines ∧ pushedBy run log = blocks ∧
        collectedBy run log = blocks
  | .stopping _ _ => samples = []
  | .notifying _ _ _ accepted | .deciding _ _ _ accepted => accepted = false → samples = []
  | .idle | .publishing _ _ _ | .reporting => True

/-- The processing thread is popping the blocks of this run. -/
def Worker.collects (run : Nat) : Worker → Bool
  | .collecting other _ _ => other = run
  | _ => false

theorem ScanThread.tracks_of_free {scan : ScanThread} (free : scan.holds = none) (lines : Nat)
    (samples : List SampleBlock) (log : List Traffic) : scan.Tracks lines samples log := by
  cases scan with
  | absent | leaving | exited => trivial
  | _ => cases free

theorem Worker.tracks_of_free {worker : Worker} (free : worker.holds = none) (lines : Nat)
    (samples : List SampleBlock) (log : List Traffic) : worker.Tracks lines samples log := by
  cases worker with
  | notifying run waferId result accepted | deciding run waferId result accepted =>
      cases accepted with
      | true => nofun
      | false => cases free
  | idle | publishing | reporting => trivial
  | _ => cases free

/-- In `on_lines_complete`, with a call of the controller that is not answered yet. -/
def ScanThread.notifies : ScanThread → Bool
  | .completing _ _ | .notifying _ _ => true
  | _ => false

theorem ScanThread.notifies_of_free {scan : ScanThread} (free : scan.holds = none) :
    scan.notifies = false := by
  cases scan with
  | completing | notifying => cases free
  | _ => rfl

/-- What `process_wafer` of a run has popped: nothing, or all that its scan has pushed. -/
def Settled (lines : Nat) (log : List Traffic) (run : Nat) : Prop :=
  collectedBy run log = [] ∨
    (collectedBy run log = linesOf run lines ∧ pushedBy run log = linesOf run lines)

namespace MachineRuntime

/-- What a step does to the sample queue. -/
def traffic (runtime : MachineRuntime) : Input → List Traffic
  | .scan =>
      match runtime.scan with
      | .pushing run _ line _ =>
          if runtime.samples.length < runtime.sampleCapacity then
            [.pushed run ⟨run, line⟩]
          else
            []
      | _ => []
  | .worker _ =>
      match runtime.worker with
      | .discarding run => runtime.samples.head?.toList.map (.discarded run)
      | .collecting run _ blocks =>
          if blocks.length < runtime.config.lines then
            runtime.samples.head?.toList.map (.collected run)
          else
            []
      | _ => []
  | .command _ | .controller => []

/-- The run is not started yet. -/
def notStarted (runtime : MachineRuntime) (run : Nat) : Prop :=
  runtime.runs < run ∨ run = runtime.runs ∧ 0 < starts runtime.effects

structure Isolated (log : List Traffic) (runtime : MachineRuntime) : Prop where
  scan : runtime.scan.Tracks runtime.config.lines runtime.samples log
  jobs : ∀ item ∈ runtime.jobs, item.Tracks runtime.config.lines runtime.samples log
  worker : runtime.worker.Tracks runtime.config.lines runtime.samples log
  free : runtime.scan.holds = none → runtime.jobs = [] → runtime.worker.holds = none →
    runtime.samples = []
  settled : ∀ run, runtime.worker.collects run = false → Settled runtime.config.lines log run
  unused : ∀ run, runtime.notStarted run → pushedBy run log = [] ∧ collectedBy run log = []
  discarded : ∀ run block, Traffic.discarded run block ∈ log → block ∈ pushedBy run log

theorem isolated_fresh (config : RuntimeConfig) : Isolated [] (fresh config) where
  scan := trivial
  jobs := nofun
  worker := trivial
  free := fun _ _ _ => rfl
  settled := fun _ _ => .inl rfl
  unused := fun _ _ => ⟨rfl, rfl⟩
  discarded := nofun

/-- A step that leaves the sample queue alone. -/
theorem Isolated.goOn {log : List Traffic} {runtime next : MachineRuntime}
    (isolated : Isolated log runtime) (config : next.config = runtime.config)
    (samples : next.samples = runtime.samples)
    (scan : next.scan.Tracks runtime.config.lines runtime.samples log)
    (jobs : ∀ item ∈ next.jobs, item.Tracks runtime.config.lines runtime.samples log)
    (worker : next.worker.Tracks runtime.config.lines runtime.samples log)
    (free : next.scan.holds = none → next.jobs = [] → next.worker.holds = none →
      runtime.samples = [])
    (settled : ∀ run, next.worker.collects run = false → Settled runtime.config.lines log run)
    (unused : ∀ run, next.notStarted run → runtime.notStarted run) : Isolated log next := by
  refine ⟨?_, ?_, ?_, ?_, ?_, ?_, isolated.discarded⟩
  · rw [config, samples]
    exact scan
  · rw [config, samples]
    exact jobs
  · rw [config, samples]
    exact worker
  · rw [samples]
    exact free
  · rw [config]
    exact settled
  · intro run fresh
    exact isolated.unused run (unused run fresh)

/-- The threads and the jobs stay as they are. -/
theorem Isolated.keep {log : List Traffic} {runtime next : MachineRuntime}
    (isolated : Isolated log runtime) (config : next.config = runtime.config)
    (samples : next.samples = runtime.samples) (scan : next.scan = runtime.scan)
    (jobs : next.jobs = runtime.jobs) (worker : next.worker = runtime.worker)
    (unused : ∀ run, next.notStarted run → runtime.notStarted run) : Isolated log next := by
  refine isolated.goOn config samples ?_ ?_ ?_ ?_ ?_ unused
  · rw [scan]
    exact isolated.scan
  · rw [jobs]
    exact isolated.jobs
  · rw [worker]
    exact isolated.worker
  · rw [scan, jobs, worker]
    exact isolated.free
  · rw [worker]
    exact isolated.settled

/-- The scan thread goes on with its run, or without one. -/
theorem Isolated.scanGoesOn {log : List Traffic} {runtime next : MachineRuntime}
    (isolated : Isolated log runtime) (config : next.config = runtime.config)
    (samples : next.samples = runtime.samples) (jobs : next.jobs = runtime.jobs)
    (worker : next.worker = runtime.worker) (holds : next.scan.holds = runtime.scan.holds)
    (tracks : next.scan.Tracks runtime.config.lines runtime.samples log)
    (unused : ∀ run, next.notStarted run → runtime.notStarted run) : Isolated log next := by
  refine isolated.goOn config samples tracks ?_ ?_ ?_ ?_ unused
  · rw [jobs]
    exact isolated.jobs
  · rw [worker]
    exact isolated.worker
  · rw [holds, jobs, worker]
    exact isolated.free
  · rw [worker]
    exact isolated.settled

/-- The processing thread goes on; where it gives up its run, the queue is empty. -/
theorem Isolated.workerGoesOn {log : List Traffic} {runtime next : MachineRuntime}
    (isolated : Isolated log runtime) (config : next.config = runtime.config)
    (samples : next.samples = runtime.samples) (scan : next.scan = runtime.scan)
    (jobs : next.jobs = runtime.jobs)
    (tracks : next.worker.Tracks runtime.config.lines runtime.samples log)
    (free : next.worker.holds = none → runtime.worker.holds = none ∨ runtime.samples = [])
    (collects : ∀ run, runtime.worker.collects run = false)
    (unused : ∀ run, next.notStarted run → runtime.notStarted run) : Isolated log next := by
  refine isolated.goOn config samples ?_ ?_ tracks ?_ ?_ unused
  · rw [scan]
    exact isolated.scan
  · rw [jobs]
    exact isolated.jobs
  · rw [scan, jobs]
    intro noScan noJobs noWorker
    rcases free noWorker with before | empty
    · exact isolated.free noScan noJobs before
    · exact empty
  · intro run _
    exact isolated.settled run (collects run)

/-! ## The controller thread -/

/-- Only an accepted Start starts a scan. -/
theorem starts_runClosure (controller : Controller) (closure : Closure)
    (other : ∀ waferId slot source, closure = .command ⟨.start waferId slot, source⟩ →
      (controller.runClosure closure).result.toBool = false) :
    starts (controller.runClosure closure).effects = 0 := by
  have announced := starts_of_publishes (Controller.publishes_announced controller closure)
  have does := Controller.does_runClosure controller closure
  generalize controller.runClosure closure = outcome at does other
  cases does with
  | rejected => exact announced
  | started waferId slot source => cases other waferId slot source rfl
  | faulted _ id reason =>
      have set := starts_of_publishes (Controller.publishes_set controller.alarms id reason)
      simp_all [starts, Controller.change]
  | resulted => simp_all [starts, Controller.change]
  | _ => simp [starts, Controller.change]

theorem notStarted_of_no_start {runtime next : MachineRuntime} (runs : next.runs = runtime.runs)
    (none : starts next.effects = 0) (run : Nat) (fresh : next.notStarted run) :
    runtime.notStarted run := by
  rcases fresh with later | ⟨_, starting⟩
  · exact .inl (runs ▸ later)
  · omega

theorem isolated_command {log : List Traffic} {runtime : MachineRuntime} {command : Command}
    {outcome : Controller.Outcome} (isolated : Isolated log runtime)
    (answered : runtime.controller.runClosure (.command command) = outcome) :
    Isolated log { runtime.answering outcome .client with
      runs := if command.payload.isStart && outcome.result.toBool then runtime.runs + 1
        else runtime.runs } := by
  split
  · refine isolated.keep rfl rfl rfl rfl rfl fun run fresh => .inl ?_
    rcases fresh with later | ⟨now, _⟩
    · exact Nat.lt_of_succ_lt later
    · rw [now]
      exact Nat.lt_succ_self _
  next notStarted =>
    refine isolated.keep rfl rfl rfl rfl rfl (notStarted_of_no_start rfl ?_)
    change starts outcome.effects = 0
    rw [← answered]
    refine starts_runClosure runtime.controller (.command command) ?_
    rintro waferId slot source equal
    obtain rfl := Closure.command.inj equal
    rw [answered]
    simpa [CommandPayload.isStart] using notStarted

theorem tracks_atLine (runtime : MachineRuntime) {run line : Nat} {samples : List SampleBlock}
    {log : List Traffic} (waferId : Text) (within : line ≤ runtime.config.lines)
    (untouched : Untouched run line samples log) :
    (runtime.atLine run waferId line).Tracks runtime.config.lines samples log := by
  unfold atLine
  split
  next more => exact ⟨more, untouched⟩
  next last =>
    have all : line = runtime.config.lines := by omega
    exact all ▸ untouched

/-- The controller thread is done with an effect. -/
theorem notStarted_of_rest {runtime next : MachineRuntime} {effect : Effect}
    {effects : List Effect} {caller : Caller}
    (busy : runtime.call = some ⟨effect :: effects, caller⟩) (runs : next.runs = runtime.runs)
    (rest : next.effects = effects) (run : Nat) (fresh : next.notStarted run) :
    runtime.notStarted run := by
  rcases fresh with later | ⟨now, starting⟩
  · exact .inl (runs ▸ later)
  · rw [rest] at starting
    refine .inr ⟨runs ▸ now, starts_pos_of_subset ?_ starting⟩
    rw [effects_of_call busy]
    exact List.subset_cons_self _ _

/-- A scan thread is started: the queue is empty, and its run has not had one before. -/
theorem isolated_scanStarted {log : List Traffic} {runtime : MachineRuntime} {waferId : Text}
    {effects : List Effect} {caller : Caller} (custody : runtime.Custody)
    (isolated : Isolated log runtime)
    (busy : runtime.call = some ⟨.startScan waferId :: effects, caller⟩) :
    Isolated log { runtime with
      call := some ⟨effects, caller⟩, abortRequested := false
      scan := runtime.atLine runtime.runs waferId 0 } := by
  have starting : 0 < starts runtime.effects := by simp [effects_of_call busy, starts]
  obtain ⟨_, scan, jobs, worker⟩ := custody.start_holds starting
  have empty : runtime.samples = [] := isolated.free scan jobs worker
  obtain ⟨pushed, collected⟩ := isolated.unused runtime.runs (.inr ⟨rfl, starting⟩)
  refine isolated.goOn rfl rfl ?_ isolated.jobs isolated.worker ?_ isolated.settled
    (notStarted_of_rest busy rfl rfl)
  · exact tracks_atLine _ waferId (Nat.zero_le _) ⟨empty, pushed, collected⟩
  · intro free
    cases (holds_atLine _ _ _ _).symm.trans free

/-! ## The scan thread -/

/-- A run that has a holder is started. -/
theorem ne_of_notStarted {runtime : MachineRuntime} {current run : Nat}
    (same : current = runtime.runs) (none : starts runtime.effects = 0)
    (fresh : runtime.notStarted run) : current ≠ run := by
  rcases fresh with later | ⟨_, starting⟩ <;> omega

/-- The scan thread of a run pushes its next line. -/
theorem isolated_linePushed {log : List Traffic} {runtime : MachineRuntime} {run line : Nat}
    {waferId : Text} {aborted : Bool} (custody : runtime.Custody)
    (isolated : Isolated log runtime) (scan : runtime.scan = .pushing run waferId line aborted) :
    Isolated (log ++ [.pushed run ⟨run, line⟩]) { runtime with
      samples := runtime.samples ++ [⟨run, line⟩]
      scan := if aborted then .stopped run else runtime.atLine run waferId (line + 1) } := by
  obtain ⟨current, noStart, jobs, worker⟩ :=
    custody.scan_holds (show runtime.scan.holds = some run by rw [scan]; rfl)
  obtain ⟨within, untouched⟩ :
      line < runtime.config.lines ∧ Untouched run line runtime.samples log := by
    have tracks := isolated.scan
    rw [scan] at tracks
    exact tracks
  refine ⟨?_, ?_, ?_, ?_, ?_, ?_, ?_⟩
  · cases aborted with
    | true => exact untouched.push.own
    | false => exact tracks_atLine runtime waferId within untouched.push
  · exact forall_jobs_of_nil jobs
  · exact Worker.tracks_of_free worker _ _ _
  · intro free
    cases aborted with
    | true => cases free
    | false => cases (holds_atLine _ _ _ _).symm.trans free
  · intro other idle
    rw [Settled, collectedBy_pushed]
    by_cases same : run = other
    · exact .inl (same ▸ untouched.collected)
    · rw [pushedBy_pushed_of_ne _ _ same]
      exact isolated.settled other idle
  · intro other fresh
    rw [collectedBy_pushed, pushedBy_pushed_of_ne _ _ (ne_of_notStarted current noStart fresh)]
    exact isolated.unused other fresh
  · intro other block member
    have before : Traffic.discarded other block ∈ log := by simpa using member
    rw [pushedBy, List.filterMap_append]
    exact List.mem_append_left _ (isolated.discarded other block before)

/-- The scan thread hands its run to the queue. -/
theorem isolated_handOver {log : List Traffic} {runtime : MachineRuntime}
    (custody : runtime.Custody) (isolated : Isolated log runtime) (item : WorkItem)
    (held : runtime.scan.holds = some item.run)
    (tracks : item.Tracks runtime.config.lines runtime.samples log) :
    Isolated log { runtime with scan := .leaving, jobs := runtime.jobs ++ [item] } := by
  obtain ⟨_, _, jobs, _⟩ := custody.scan_holds held
  refine isolated.goOn rfl rfl trivial ?_ isolated.worker ?_ isolated.settled fun _ fresh => fresh
  · intro other member
    rw [show runtime.jobs = [] from jobs, List.nil_append, List.mem_singleton] at member
    exact member ▸ tracks
  · intro _ none
    simp at none

/-! ## The processing thread -/

/-- The processing thread takes the only job. -/
theorem Isolated.takeJob {log : List Traffic} {runtime : MachineRuntime} {item : WorkItem}
    {jobs : List WorkItem} (custody : runtime.Custody) (isolated : Isolated log runtime)
    (idle : runtime.worker = .idle) (queued : runtime.jobs = item :: jobs) (worker : Worker)
    (holds : worker.holds = some item.run)
    (tracks : worker.Tracks runtime.config.lines runtime.samples log) :
    Isolated log { runtime with jobs := jobs, worker := worker } := by
  obtain ⟨_, _, _, rest, _⟩ := custody.job_holds queued
  refine isolated.goOn rfl rfl isolated.scan ?_ tracks ?_ ?_ fun _ fresh => fresh
  · intro other member
    rw [show jobs = [] from rest] at member
    cases member
  · intro _ _ free
    rw [holds] at free
    cases free
  · intro run _
    exact isolated.settled run (by rw [idle]; rfl)

/-- A discard pops a block of the run that has requested it. -/
theorem isolated_discard {log : List Traffic} {runtime : MachineRuntime} {run : Nat}
    {block : SampleBlock} {samples : List SampleBlock} (custody : runtime.Custody)
    (isolated : Isolated log runtime) (worker : runtime.worker = .discarding run)
    (queue : runtime.samples = block :: samples) :
    Isolated (log ++ [.discarded run block]) { runtime with samples := samples } := by
  obtain ⟨_, _, scan, jobs⟩ :=
    custody.worker_holds (show runtime.worker.holds = some run by rw [worker]; rfl)
  have own : Own run (block :: samples) log := by
    have tracks := isolated.worker
    rw [worker, queue] at tracks
    exact tracks
  refine ⟨ScanThread.tracks_of_free scan _ _ _, ?_, ?_, ?_, ?_, ?_, ?_⟩
  · exact forall_jobs_of_nil jobs
  · dsimp only
    rw [worker]
    intro other member
    rw [pushedBy_discarded]
    exact own other (List.mem_cons_of_mem _ member)
  · intro _ _ free
    have held : runtime.worker.holds = none := free
    rw [worker] at held
    cases held
  · intro other idle
    rw [Settled, collectedBy_discarded, pushedBy_discarded]
    exact isolated.settled other idle
  · intro other fresh
    rw [collectedBy_discarded, pushedBy_discarded]
    exact isolated.unused other fresh
  · intro other popped member
    rw [pushedBy_discarded]
    rcases List.mem_append.mp member with before | now
    · exact isolated.discarded other popped before
    · obtain ⟨rfl, rfl⟩ := Traffic.discarded.inj (List.mem_singleton.mp now)
      exact own popped List.mem_cons_self

/-- `process_wafer` pops the next line of its run. -/
theorem isolated_collect {log : List Traffic} {runtime : MachineRuntime} {run : Nat}
    {waferId : Text} {block : SampleBlock} {blocks samples : List SampleBlock}
    (custody : runtime.Custody) (isolated : Isolated log runtime)
    (worker : runtime.worker = .collecting run waferId blocks)
    (queue : runtime.samples = block :: samples) :
    Isolated (log ++ [.collected run block]) { runtime with
      samples := samples, worker := .collecting run waferId (blocks ++ [block]) } := by
  obtain ⟨current, noStart, scan, jobs⟩ :=
    custody.worker_holds (show runtime.worker.holds = some run by rw [worker]; rfl)
  obtain ⟨whole, pushed, collected⟩ :
      blocks ++ block :: samples = linesOf run runtime.config.lines ∧
        pushedBy run log = linesOf run runtime.config.lines ∧ collectedBy run log = blocks := by
    have tracks := isolated.worker
    rw [worker, queue] at tracks
    exact tracks
  refine ⟨ScanThread.tracks_of_free scan _ _ _, ?_, ⟨?_, ?_, ?_⟩, ?_, ?_, ?_, ?_⟩
  · exact forall_jobs_of_nil jobs
  · rw [List.append_assoc]
    exact whole
  · rw [pushedBy_collected, pushed]
  · rw [collectedBy_collected, collected]
  · intro _ _ free
    cases free
  · intro other idle
    have different : run ≠ other := of_decide_eq_false idle
    rw [Settled, pushedBy_collected, collectedBy_collected_of_ne _ _ different]
    exact isolated.settled other (by rw [worker]; exact idle)
  · intro other fresh
    rw [pushedBy_collected,
      collectedBy_collected_of_ne _ _ (ne_of_notStarted current noStart fresh)]
    exact isolated.unused other fresh
  · intro other popped member
    rw [pushedBy_collected]
    exact isolated.discarded other popped (by simpa using member)

/-- `process_wafer` has popped every line, and the queue is empty. -/
theorem isolated_collected {log : List Traffic} {runtime : MachineRuntime} {run : Nat}
    {waferId : Text} {blocks : List SampleBlock} (isolated : Isolated log runtime)
    (worker : runtime.worker = .collecting run waferId blocks)
    (all : ¬ blocks.length < runtime.config.lines) :
    Isolated log { runtime with worker := .checking run waferId blocks } := by
  obtain ⟨whole, pushed, collected⟩ :
      blocks ++ runtime.samples = linesOf run runtime.config.lines ∧
        pushedBy run log = linesOf run runtime.config.lines ∧ collectedBy run log = blocks := by
    have tracks := isolated.worker
    rw [worker] at tracks
    exact tracks
  have empty : runtime.samples = [] := by
    have length := congrArg List.length whole
    rw [List.length_append, length_linesOf] at length
    exact List.length_eq_zero_iff.mp (by omega)
  rw [empty, List.append_nil] at whole
  refine isolated.goOn rfl rfl isolated.scan isolated.jobs
    ⟨empty, whole, pushed.trans whole.symm, collected⟩ (fun _ _ free => nomatch free) ?_
    fun _ fresh => fresh
  intro other _
  by_cases same : run = other
  · subst same
    exact .inr ⟨collected.trans whole, pushed⟩
  · exact isolated.settled other (by rw [worker]; exact decide_eq_false same)

theorem isolated_resultReported {log : List Traffic} {runtime : MachineRuntime} {run : Nat}
    {waferId : Text} {blocks : List SampleBlock} {result : PipelineResult}
    {outcome : Controller.Outcome} (isolated : Isolated log runtime)
    (worker : runtime.worker = .analysing run waferId blocks)
    (answered : runtime.controller.runClosure result.closure = outcome) (history : List Mark) :
    Isolated log { runtime.answering outcome .worker with
      worker := .notifying run waferId result outcome.result.toBool, history := history } := by
  subst answered
  have empty : runtime.samples = [] := by
    have tracks := isolated.worker
    rw [worker] at tracks
    exact tracks.1
  have none : starts (runtime.controller.runClosure result.closure).effects = 0 :=
    starts_runClosure _ _ nofun
  exact isolated.workerGoesOn rfl rfl rfl rfl (fun _ => empty) (fun _ => .inr empty)
    (fun _ => by rw [worker]; rfl) (notStarted_of_no_start rfl none)

theorem isolated_stopReported {log : List Traffic} {runtime : MachineRuntime} {run : Nat}
    {processing : Bool} {outcome : Controller.Outcome} (isolated : Isolated log runtime)
    (worker : runtime.worker = .stopping run processing)
    (answered : runtime.controller.runClosure .stageStopped = outcome) (history : List Mark) :
    Isolated log { runtime.answering outcome .worker with
      worker := .reporting, history := history } := by
  subst answered
  have empty : runtime.samples = [] := by
    have tracks := isolated.worker
    rw [worker] at tracks
    exact tracks
  have none : starts (runtime.controller.runClosure .stageStopped).effects = 0 :=
    starts_runClosure _ _ nofun
  exact isolated.workerGoesOn rfl rfl rfl rfl trivial (fun _ => .inr empty)
    (fun _ => by rw [worker]; rfl) (notStarted_of_no_start rfl none)

/-! ## One step -/

/-- A step that neither pushes nor pops. -/
theorem Isolated.quiet {log : List Traffic} {runtime next : MachineRuntime} {input : Input}
    (isolated : Isolated log next) (none : runtime.traffic input = []) :
    Isolated (log ++ runtime.traffic input) next := by
  rw [none, List.append_nil]
  exact isolated

theorem isolated_scan {log : List Traffic} {runtime next : MachineRuntime}
    (custody : runtime.Custody) (isolated : Isolated log runtime)
    (does : runtime.Does .scan next) : Isolated (log ++ runtime.traffic .scan) next := by
  have tracks := isolated.scan
  cases does with
  | measured run waferId line point scan | interrupted run waferId line point scan
  | lineDone run waferId line point scan =>
      rw [scan] at tracks
      refine Isolated.quiet ?_ (by rw [traffic, scan])
      exact isolated.scanGoesOn rfl rfl rfl rfl (by rw [scan]; rfl) tracks fun _ fresh => fresh
  | linePushed run waferId line aborted scan room =>
      rw [show runtime.traffic .scan = [.pushed run ⟨run, line⟩] by
        rw [traffic, scan]
        exact if_pos room]
      exact isolated_linePushed custody isolated scan
  | discardHandedOver run scan =>
      rw [scan] at tracks
      refine Isolated.quiet ?_ (by rw [traffic, scan])
      exact isolated_handOver custody isolated (.discardSamples run) (by rw [scan]; rfl) tracks
  | scanReported run waferId outcome scan idle answered =>
      rw [scan] at tracks
      subst answered
      refine Isolated.quiet ?_ (by rw [traffic, scan])
      exact isolated.scanGoesOn rfl rfl rfl rfl (by rw [scan]; rfl) tracks
        (notStarted_of_no_start rfl (starts_runClosure _ _ nofun))
  | waferHandedOver run waferId scan =>
      rw [scan] at tracks
      refine Isolated.quiet ?_ (by rw [traffic, scan])
      exact isolated_handOver custody isolated (.processWafer run waferId) (by rw [scan]; rfl)
        tracks
  | scanExited scan =>
      refine Isolated.quiet ?_ (by rw [traffic, scan])
      exact isolated.scanGoesOn rfl rfl rfl rfl (by rw [scan]; rfl) trivial fun _ fresh => fresh

theorem isolated_worker {log : List Traffic} {runtime next : MachineRuntime}
    {result : PipelineResult} (custody : runtime.Custody) (isolated : Isolated log runtime)
    (does : runtime.Does (.worker result) next) :
    Isolated (log ++ runtime.traffic (.worker result)) next := by
  have tracks := isolated.worker
  cases does with
  | waferTaken run waferId jobs _ worker queued =>
      have untouched : Untouched run runtime.config.lines runtime.samples log :=
        isolated.jobs (.processWafer run waferId) (by simp [queued])
      refine Isolated.quiet ?_ (by rw [traffic, worker])
      exact isolated.takeJob custody worker queued _ rfl
        ⟨untouched.queued, untouched.pushed, untouched.collected⟩
  | discardTaken run jobs _ worker queued =>
      have own : Own run runtime.samples log :=
        isolated.jobs (.discardSamples run) (by simp [queued])
      refine Isolated.quiet ?_ (by rw [traffic, worker])
      exact isolated.takeJob custody worker queued _ rfl own
  | blockDiscarded run block samples _ worker queue =>
      rw [show runtime.traffic (.worker result) = [.discarded run block] by
        rw [traffic, worker, queue]
        rfl]
      exact isolated_discard custody isolated worker queue
  | allDiscarded run _ worker queue =>
      refine Isolated.quiet ?_ (by rw [traffic, worker, queue]; rfl)
      exact isolated.workerGoesOn rfl rfl rfl rfl queue nofun (fun _ => by rw [worker]; rfl)
        fun _ fresh => fresh
  | blockCollected run waferId blocks block samples _ worker more queue =>
      rw [show runtime.traffic (.worker result) = [.collected run block] by
        rw [traffic, worker, queue]
        exact if_pos more]
      exact isolated_collect custody isolated worker queue
  | allCollected run waferId blocks _ worker all =>
      refine Isolated.quiet ?_ (by rw [traffic, worker]; exact if_neg all)
      exact isolated_collected isolated worker all
  | stopSeen run waferId blocks _ worker =>
      rw [worker] at tracks
      refine Isolated.quiet ?_ (by rw [traffic, worker])
      exact isolated.workerGoesOn rfl rfl rfl rfl tracks.1 nofun (fun _ => by rw [worker]; rfl)
        fun _ fresh => fresh
  | noStopSeen run waferId blocks _ worker =>
      rw [worker] at tracks
      refine Isolated.quiet ?_ (by rw [traffic, worker])
      exact isolated.workerGoesOn rfl rfl rfl rfl tracks nofun (fun _ => by rw [worker]; rfl)
        fun _ fresh => fresh
  | resultReported run waferId blocks _ outcome worker idle answered =>
      refine Isolated.quiet ?_ (by rw [traffic, worker])
      exact isolated_resultReported isolated worker answered _
  | resultDropped run waferId found accepted _ worker stopping =>
      -- The state is Stopping, so the run is still this one, and its queue is empty.
      have rejected : accepted = false := (custody.accepted_iff worker).mpr stopping
      rw [worker] at tracks
      refine Isolated.quiet ?_ (by rw [traffic, worker])
      exact isolated.workerGoesOn rfl rfl rfl rfl (tracks rejected) nofun
        (fun _ => by rw [worker]; rfl) fun _ fresh => fresh
  | resultKept run waferId found accepted _ worker other =>
      have answered : accepted = true := custody.accepted_of_other worker other
      refine Isolated.quiet ?_ (by rw [traffic, worker])
      exact isolated.workerGoesOn rfl rfl rfl rfl trivial
        (fun _ => .inl (by rw [worker, answered]; rfl)) (fun _ => by rw [worker]; rfl)
        fun _ fresh => fresh
  | resultPublished run waferId found _ worker =>
      refine Isolated.quiet ?_ (by rw [traffic, worker])
      exact isolated.workerGoesOn rfl rfl rfl rfl trivial (fun _ => .inl (by rw [worker]; rfl))
        (fun _ => by rw [worker]; rfl) fun _ fresh => fresh
  | stopReported run processing _ outcome worker idle answered =>
      refine Isolated.quiet ?_ (by rw [traffic, worker])
      exact isolated_stopReported isolated worker answered _

theorem isolated_controller {log : List Traffic} {runtime next : MachineRuntime}
    (custody : runtime.Custody) (isolated : Isolated log runtime)
    (does : runtime.Does .controller next) : Isolated log next := by
  have scanTracks := isolated.scan
  have workerTracks := isolated.worker
  cases does with
  | published event effects caller busy | abortAsked effects caller busy =>
      exact isolated.keep rfl rfl rfl rfl rfl (notStarted_of_rest busy rfl rfl)
  | scanStarted waferId effects caller busy => exact isolated_scanStarted custody isolated busy
  | scanAnswered run waferId busy scan =>
      rw [scan] at scanTracks
      exact isolated.scanGoesOn rfl rfl rfl rfl (by rw [scan]; rfl) scanTracks
        (notStarted_of_no_start rfl rfl)
  | resultAnswered run waferId result accepted busy worker =>
      rw [worker] at workerTracks
      exact isolated.workerGoesOn rfl rfl rfl rfl workerTracks (fun free => .inl (worker ▸ free))
        (fun _ => by rw [worker]; rfl) (notStarted_of_no_start rfl rfl)
  | stopAnswered busy worker =>
      exact isolated.workerGoesOn rfl rfl rfl rfl trivial (fun _ => .inl (by rw [worker]; rfl))
        (fun _ => by rw [worker]; rfl) (notStarted_of_no_start rfl rfl)
  | callEnded caller busy =>
      exact isolated.keep rfl rfl rfl rfl rfl (notStarted_of_no_start rfl rfl)

theorem isolated_step {log : List Traffic} {runtime next : MachineRuntime} {input : Input}
    (custody : runtime.Custody) (isolated : Isolated log runtime)
    (taken : runtime.step input = some next) : Isolated (log ++ runtime.traffic input) next := by
  have does := does_step taken
  cases input with
  | command command =>
      cases does with
      | commanded _ outcome idle answered =>
      refine Isolated.quiet ?_ rfl
      exact isolated_command isolated answered
  | controller =>
      refine Isolated.quiet ?_ rfl
      exact isolated_controller custody isolated does
  | scan => exact isolated_scan custody isolated does
  | worker result => exact isolated_worker custody isolated does

/-! ## The join -/

/-- The next thing that the controller thread does is to join the previous scan thread. -/
def joins (runtime : MachineRuntime) : Bool :=
  match runtime.effects with
  | .startScan _ :: _ => true
  | _ => false

/--
The controller thread is in the join of the driver, and the scan thread it waits
for is in `notify_scan_complete`, which the controller thread would have to serve.
-/
def joinDeadlock (runtime : MachineRuntime) : Bool :=
  runtime.joins && runtime.scan.notifies

theorem Custody.not_joinDeadlock {runtime : MachineRuntime} (custody : runtime.Custody) :
    runtime.joinDeadlock = false := by
  unfold joinDeadlock joins
  split
  next waferId effects all =>
    have starting : 0 < starts runtime.effects := by simp [all, starts]
    obtain ⟨_, scan, _, _⟩ := custody.start_holds starting
    rw [ScanThread.notifies_of_free scan]
    rfl
  · rfl

end MachineRuntime

/--
Along every run in which no Abort is accepted while the processing thread is about
to read the state again, `process_wafer` pops exactly the lines that the scan of
its own run has pushed, in their order, and a discard pops only blocks of the run
that has requested it.
-/
theorem samples_of_own_run (config : RuntimeConfig) (inputs : List MachineRuntime.Input)
    (runtime : MachineRuntime)
    (calm : Meets MachineRuntime.step (fun state input => state.interruptsDecision input = false)
      (.fresh config) inputs)
    (reached : run MachineRuntime.step (.fresh config) inputs = some runtime) :
    let log := trace MachineRuntime.step MachineRuntime.traffic (.fresh config) inputs
    (∀ run, runtime.worker.collects run = false →
      collectedBy run log = [] ∨ (collectedBy run log = linesOf run runtime.config.lines ∧
        pushedBy run log = linesOf run runtime.config.lines)) ∧
      (∀ run waferId blocks, runtime.worker = .collecting run waferId blocks →
        collectedBy run log = blocks ∧ blocks <+: linesOf run runtime.config.lines ∧
          pushedBy run log = linesOf run runtime.config.lines) ∧
      (∀ run waferId blocks, runtime.worker = .checking run waferId blocks ∨
          runtime.worker = .analysing run waferId blocks →
        blocks = linesOf run runtime.config.lines ∧ collectedBy run log = blocks ∧
          pushedBy run log = blocks) ∧
      ∀ run block, Traffic.discarded run block ∈ log → block ∈ pushedBy run log := by
  intro log
  obtain ⟨_, isolated⟩ := trace_of_meets
    (fun state input => MachineRuntime.interruptsDecision state input = false)
    (fun log (runtime : MachineRuntime) => runtime.Custody ∧ runtime.Isolated log)
    (fun held met taken => ⟨MachineRuntime.custody_step held.1 met taken,
      MachineRuntime.isolated_step held.1 held.2 taken⟩)
    ⟨MachineRuntime.custody_fresh config, MachineRuntime.isolated_fresh config⟩ calm reached
  have tracks := isolated.worker
  refine ⟨isolated.settled, ?_, ?_, isolated.discarded⟩
  · intro run waferId blocks place
    rw [place] at tracks
    obtain ⟨whole, pushed, collected⟩ := tracks
    exact ⟨collected, ⟨_, whole⟩, pushed⟩
  · rintro run waferId blocks (place | place)
    · rw [place] at tracks
      obtain ⟨_, all, pushed, collected⟩ := tracks
      exact ⟨all, collected, pushed⟩
    · rw [place] at tracks
      obtain ⟨_, all, pushed, collected⟩ := tracks
      exact ⟨all, collected, pushed⟩

/--
The first wafer's `process_wafer` ends the stop of the second one, so the third is
started while the second scan thread still runs, and the discard of the second
pops a block of the third.
-/
def eatingInputs : List MachineRuntime.Input :=
  overtakingInputs ++ List.replicate 3 .controller ++ List.replicate 4 .scan ++ startInputs [3] ++
    List.replicate 3 .scan ++ List.replicate 3 (.worker cleanResult)

theorem discard_pops_block_of_later_run :
    ∃ runtime, run MachineRuntime.step (.fresh ⟨1, 1⟩) eatingInputs = some runtime ∧
      ∃ run block, Traffic.discarded run block ∈
          trace MachineRuntime.step MachineRuntime.traffic (.fresh ⟨1, 1⟩) eatingInputs ∧
        block ∉ pushedBy run
          (trace MachineRuntime.step MachineRuntime.traffic (.fresh ⟨1, 1⟩) eatingInputs) := by
  have taken : (run MachineRuntime.step (.fresh ⟨1, 1⟩) eatingInputs).isSome = true := by
    decide +kernel
  obtain ⟨runtime, reached⟩ := Option.isSome_iff_exists.mp taken
  exact ⟨runtime, reached, 2, ⟨3, 0⟩, by decide +kernel, by decide +kernel⟩

/-- A wafer of one line with one point, up to the analysis. -/
def collectedInputs : List MachineRuntime.Input :=
  startInputs [1] ++ List.replicate 4 .scan ++ List.replicate 3 .controller ++ [.scan, .scan] ++
    List.replicate 3 (.worker cleanResult)

theorem samples_of_own_run_first :
    ∃ runtime blocks, run MachineRuntime.step (.fresh ⟨1, 1⟩) collectedInputs = some runtime ∧
      runtime.worker = .checking 1 [1] blocks ∧ blocks = linesOf 1 runtime.config.lines := by
  have checked : (run (guarded MachineRuntime.step fun state input =>
      state.interruptsDecision input = false) (.fresh ⟨1, 1⟩) collectedInputs).any
      (fun runtime => runtime.worker = .checking 1 [1] [⟨1, 0⟩]) = true := by
    decide +kernel
  obtain ⟨runtime, guarded, facts⟩ := (Option.any_eq_true _ _).mp checked
  obtain ⟨reached, calm⟩ := run_of_guarded guarded
  have worker := of_decide_eq_true facts
  obtain ⟨_, _, popped, _⟩ := samples_of_own_run ⟨1, 1⟩ _ runtime calm reached
  exact ⟨runtime, _, reached, worker, (popped 1 [1] _ (.inl worker)).1⟩

/--
Along every run in which no Abort is accepted while the processing thread is about
to read the state again, the controller thread never joins a scan thread that waits
for it.
-/
theorem join_does_not_deadlock (config : RuntimeConfig) (inputs : List MachineRuntime.Input)
    (runtime : MachineRuntime)
    (calm : Meets MachineRuntime.step (fun state input => state.interruptsDecision input = false)
      (.fresh config) inputs)
    (reached : run MachineRuntime.step (.fresh config) inputs = some runtime) :
    runtime.joinDeadlock = false := by
  have custody := invariant_of_meets
    (fun state input => MachineRuntime.interruptsDecision state input = false)
    MachineRuntime.Custody MachineRuntime.custody_step (MachineRuntime.custody_fresh config) calm
    reached
  exact custody.not_joinDeadlock

/--
The first wafer's `process_wafer` ends the stop of the second one, so the third is
started before the second scan thread has reported its lines.
-/
def lockingInputs : List MachineRuntime.Input :=
  answeredInputs ++ startInputs [2] ++ List.replicate 3 .scan ++
    .command ⟨.abort, .ui⟩ :: List.replicate 3 .controller ++
    List.replicate 2 (.worker cleanResult) ++ List.replicate 3 .controller ++
    .command ⟨.start [3] 1, .ui⟩ :: List.replicate 2 .controller

/-- Neither thread can go on. -/
theorem join_waits_for_waiting_thread :
    ∃ runtime, run MachineRuntime.step (.fresh ⟨1, 1⟩) lockingInputs = some runtime ∧
      runtime.joinDeadlock = true ∧ runtime.step .controller = none ∧
      runtime.step .scan = none := by
  have checked : (run MachineRuntime.step (.fresh ⟨1, 1⟩) lockingInputs).any
      (fun runtime => runtime.joinDeadlock = true ∧ runtime.step .controller = none ∧
        runtime.step .scan = none) = true := by
    decide +kernel
  obtain ⟨runtime, reached, facts⟩ := (Option.any_eq_true _ _).mp checked
  exact ⟨runtime, reached, of_decide_eq_true facts⟩

/-- The second wafer is started after the result of the first one: the join is over. -/
theorem join_does_not_deadlock_second :
    ∃ runtime, run MachineRuntime.step (.fresh ⟨1, 1⟩)
        (answeredInputs ++ .command ⟨.start [2] 1, .ui⟩ :: List.replicate 2 .controller) =
          some runtime ∧
      runtime.joins = true ∧ runtime.joinDeadlock = false := by
  have checked : (run (guarded MachineRuntime.step fun state input =>
      state.interruptsDecision input = false) (.fresh ⟨1, 1⟩)
        (answeredInputs ++ .command ⟨.start [2] 1, .ui⟩ :: List.replicate 2 .controller)).any
      (fun runtime => runtime.joins) = true := by
    decide +kernel
  obtain ⟨runtime, guarded, joins⟩ := (Option.any_eq_true _ _).mp checked
  obtain ⟨reached, calm⟩ := run_of_guarded guarded
  exact ⟨runtime, reached, joins, join_does_not_deadlock ⟨1, 1⟩ _ runtime calm reached⟩

end Ssim.Machine
