import Ssim.Machine.Custody

/-!
# Published results

The processing thread publishes the result of a run exactly if the controller has
accepted it, and the stop that it reports is the stop of its own run.  Both rest
on the state that it reads after the call with the result: the state tells whether
the result was accepted as long as no later run has been aborted by then.
-/

namespace Ssim.Machine

open Ssim.Core
open Library.Runs

/-- The processing thread has an accepted result of this run, which it is yet to publish. -/
def Worker.owes (run : Nat) : Worker → Bool
  | .notifying other _ result accepted | .deciding other _ result accepted =>
      other = run && accepted && result.raised.isNone
  | .publishing other _ result => other = run && result.raised.isNone
  | _ => false

namespace MachineRuntime

/-- Accepted results are published or owed, and no others are; stops are of the own run. -/
structure Accounts (runtime : MachineRuntime) : Prop where
  owed : ∀ run, runtime.worker.owes run = true → Mark.accepted run ∈ runtime.history
  published : ∀ run result, Mark.resultReady run result ∈ runtime.history →
    Mark.accepted run ∈ runtime.history
  settled : ∀ run, Mark.accepted run ∈ runtime.history →
    runtime.worker.owes run = true ∨ ∃ result, Mark.resultReady run result ∈ runtime.history
  own : ∀ run stoppedRun, Mark.stopped run stoppedRun ∈ runtime.history → stoppedRun = run

theorem accounts_fresh (config : RuntimeConfig) : (fresh config).Accounts :=
  ⟨by simp [fresh, Worker.owes], by simp [fresh], by simp [fresh], by simp [fresh]⟩

/-- A step that neither marks anything nor touches what is owed. -/
theorem Accounts.same {runtime next : MachineRuntime} (accounts : runtime.Accounts)
    (history : next.history = runtime.history)
    (owes : ∀ run, next.worker.owes run = runtime.worker.owes run) : next.Accounts := by
  refine ⟨fun run owed => ?_, fun run result => ?_, fun run => ?_, fun run stoppedRun => ?_⟩
  · rw [history]
    exact accounts.owed run ((owes run).symm.trans owed)
  · rw [history]
    exact accounts.published run result
  · rw [history, owes]
    exact accounts.settled run
  · rw [history]
    exact accounts.own run stoppedRun

/-- A step with one more mark. -/
theorem Accounts.mark {runtime next : MachineRuntime} (accounts : runtime.Accounts) (mark : Mark)
    (history : next.history = runtime.history ++ [mark])
    (owed : ∀ run, next.worker.owes run = true →
      mark = .accepted run ∨ runtime.worker.owes run = true)
    (published : ∀ run result, mark = .resultReady run result →
      Mark.accepted run ∈ runtime.history)
    (settled : ∀ run, mark = .accepted run ∨ runtime.worker.owes run = true →
      next.worker.owes run = true ∨ ∃ result, mark = .resultReady run result)
    (own : ∀ run stoppedRun, mark = .stopped run stoppedRun → stoppedRun = run) :
    next.Accounts := by
  have member {other : Mark} : other ∈ next.history ↔ other ∈ runtime.history ∨ mark = other := by
    rw [history, List.mem_append, List.mem_singleton, eq_comm]
  refine ⟨fun run owes => ?_, fun run result ready => ?_, fun run accepted => ?_,
    fun run stoppedRun stopped => ?_⟩
  · rcases owed run owes with now | before
    · exact member.mpr (.inr now)
    · exact member.mpr (.inl (accounts.owed run before))
  · rcases member.mp ready with before | now
    · exact member.mpr (.inl (accounts.published run result before))
    · exact member.mpr (.inl (published run result now))
  · have due : (mark = .accepted run ∨ runtime.worker.owes run = true) ∨
        ∃ result, Mark.resultReady run result ∈ runtime.history := by
      rcases member.mp accepted with before | now
      · exact (accounts.settled run before).imp .inr id
      · exact .inl (.inl now)
    rcases due with due | ⟨result, ready⟩
    · exact (settled run due).imp id fun ⟨result, now⟩ => ⟨result, member.mpr (.inr now)⟩
    · exact .inr ⟨result, member.mpr (.inl ready)⟩
  · rcases member.mp stopped with before | now
    · exact accounts.own run stoppedRun before
    · exact own run stoppedRun now

/-- An accepted result is marked, and owed from then on. -/
theorem accounts_resultReported {runtime : MachineRuntime} {run : Nat} {waferId : Text}
    {result : PipelineResult} {outcome : Controller.Outcome} (accounts : runtime.Accounts)
    (nothing : ∀ other, runtime.worker.owes other = false) :
    Accounts { runtime.answering outcome .worker with
      worker := .notifying run waferId result outcome.result.toBool
      history := if result.raised.isNone && outcome.result.toBool then
          runtime.history ++ [.accepted run]
        else runtime.history } := by
  have owes (other : Nat) :
      (Worker.notifying run waferId result outcome.result.toBool).owes other =
        (decide (run = other) && (result.raised.isNone && outcome.result.toBool)) := by
    rw [Worker.owes, Bool.and_assoc, Bool.and_comm outcome.result.toBool]
  split
  next accepted =>
    refine accounts.mark (.accepted run) rfl (fun other owed => .inl ?_)
      (fun _ _ impossible => (by cases impossible)) (fun other due => .inl ?_)
      (fun _ _ impossible => (by cases impossible))
    · have equal : run = other := by
        have owed := (owes other).symm.trans owed
        simp only [Bool.and_eq_true, decide_eq_true_eq] at owed
        exact owed.1
      rw [equal]
    · refine (owes other).trans ?_
      rw [accepted, Bool.and_true]
      rcases due with now | before
      · exact decide_eq_true (Mark.accepted.inj now)
      · rw [nothing] at before
        cases before
  next refused =>
    refine accounts.same rfl fun other => (owes other).trans ?_
    rw [nothing, eq_false_of_ne_true refused, Bool.and_false]

/-- The stop that `process_wafer` reports is the stop of its own run. -/
theorem accounts_stopReported {runtime : MachineRuntime} {run : Nat} {processing : Bool}
    {outcome : Controller.Outcome} (custody : runtime.Custody) (accounts : runtime.Accounts)
    (worker : runtime.worker = .stopping run processing) :
    Accounts { runtime.answering outcome .worker with
      worker := .reporting
      history := if processing && outcome.result.toBool then
          runtime.history ++ [.stopped run runtime.runs]
        else runtime.history } := by
  have current : run = runtime.runs := (custody.worker_holds (by rw [worker]; rfl)).1
  have nothing (other : Nat) : runtime.worker.owes other = false := by rw [worker]; rfl
  split
  · refine accounts.mark (.stopped run runtime.runs) rfl (fun other owed => (by cases owed))
      (fun _ _ impossible => (by cases impossible)) (fun other due => ?_) ?_
    · rcases due with impossible | before
      · cases impossible
      · rw [nothing] at before
        cases before
    · rintro other stoppedRun equal
      obtain ⟨rfl, rfl⟩ := Mark.stopped.inj equal
      exact current.symm
  · exact accounts.same rfl fun other => (nothing other).symm

/-- What is owed is published. -/
theorem accounts_resultPublished {runtime : MachineRuntime} {run : Nat} {waferId : Text}
    {result : PipelineResult} (accounts : runtime.Accounts)
    (worker : runtime.worker = .publishing run waferId result) :
    Accounts { runtime with
      worker := .idle
      history := if result.raised.isNone then
          runtime.history ++ [.resultReady run (result.ready waferId)]
        else runtime.history } := by
  have owes (other : Nat) :
      runtime.worker.owes other = (decide (run = other) && result.raised.isNone) := by
    rw [worker, Worker.owes]
  split
  next plain =>
    refine accounts.mark (.resultReady run (result.ready waferId)) rfl
      (fun other owed => (by cases owed)) (fun other ready equal => ?_) (fun other due => .inr ?_)
      (fun _ _ impossible => (by cases impossible))
    · obtain ⟨rfl, _⟩ := Mark.resultReady.inj equal
      exact accounts.owed run (by rw [owes, plain]; simp)
    · rcases due with impossible | before
      · cases impossible
      · rw [owes, plain, Bool.and_true] at before
        exact ⟨_, by rw [of_decide_eq_true before]⟩
  next raised =>
    refine accounts.same rfl fun other => ?_
    rw [owes, eq_false_of_ne_true raised, Bool.and_false]
    rfl

theorem accounts_step {runtime next : MachineRuntime} {input : Input} (custody : runtime.Custody)
    (accounts : runtime.Accounts) (taken : runtime.step input = some next) : next.Accounts := by
  cases does_step taken with
  | commanded | published | abortAsked | scanStarted | scanAnswered | callEnded =>
      exact accounts.same rfl fun _ => rfl
  | measured | interrupted | lineDone | linePushed | discardHandedOver | scanReported
  | waferHandedOver | scanExited => exact accounts.same rfl fun _ => rfl
  | blockDiscarded => exact accounts.same rfl fun _ => rfl
  | resultAnswered _ _ _ _ _ worker | stopAnswered _ worker =>
      exact accounts.same rfl fun _ => by rw [worker]; rfl
  | waferTaken _ _ _ _ worker | discardTaken _ _ _ worker | allDiscarded _ _ worker =>
      exact accounts.same rfl fun _ => by rw [worker]; rfl
  | blockCollected _ _ _ _ _ _ worker | allCollected _ _ _ _ worker =>
      exact accounts.same rfl fun _ => by rw [worker]; rfl
  | stopSeen _ _ _ _ worker | noStopSeen _ _ _ _ worker =>
      exact accounts.same rfl fun _ => by rw [worker]; rfl
  | resultReported run waferId blocks result outcome worker =>
      exact accounts_resultReported accounts fun _ => by rw [worker]; rfl
  | resultDropped run waferId found accepted result worker stopping =>
      have rejected : accepted = false := (custody.accepted_iff worker).mpr stopping
      refine accounts.same rfl fun _ => ?_
      rw [worker, rejected]
      simp [Worker.owes]
  | resultKept run waferId found accepted result worker other =>
      have answered : accepted = true := custody.accepted_of_other worker other
      refine accounts.same rfl fun _ => ?_
      rw [worker, answered]
      simp [Worker.owes]
  | resultPublished run waferId found result worker =>
      exact accounts_resultPublished accounts worker
  | stopReported run processing result outcome worker =>
      exact accounts_stopReported custody accounts worker

end MachineRuntime

/--
Along every run in which no Abort is accepted while the processing thread is about
to read the state again, a result is published if and only if the controller has
accepted it, and a stop that `process_wafer` reports is the stop of its own run.
-/
theorem result_published_iff_accepted (config : RuntimeConfig)
    (inputs : List MachineRuntime.Input) (runtime : MachineRuntime)
    (calm : Meets MachineRuntime.step (fun state input => state.interruptsDecision input = false)
      (.fresh config) inputs)
    (reached : run MachineRuntime.step (.fresh config) inputs = some runtime) :
    (∀ run, runtime.worker.owes run = false →
      ((∃ result, Mark.resultReady run result ∈ runtime.history) ↔
        Mark.accepted run ∈ runtime.history)) ∧
      ∀ run stoppedRun, Mark.stopped run stoppedRun ∈ runtime.history → stoppedRun = run := by
  obtain ⟨_, accounts⟩ := invariant_of_meets
    (fun state input => MachineRuntime.interruptsDecision state input = false)
    (fun runtime : MachineRuntime => runtime.Custody ∧ runtime.Accounts)
    (fun held met taken => ⟨MachineRuntime.custody_step held.1 met taken,
      MachineRuntime.accounts_step held.1 held.2 taken⟩)
    ⟨MachineRuntime.custody_fresh config, MachineRuntime.accounts_fresh config⟩ calm reached
  refine ⟨fun run nothing => ⟨?_, fun accepted => ?_⟩, accounts.own⟩
  · rintro ⟨result, ready⟩
    exact accounts.published run result ready
  · rcases accounts.settled run accepted with owes | ready
    · rw [nothing] at owes
      cases owes
    · exact ready

/-! ## Two wafers -/

/-- An analysis without a complaint. -/
def cleanResult : PipelineResult := ⟨.none, false, false, false, 0, 0, 0, 0⟩

/-- The operator starts a wafer, and the controller thread starts the scan thread. -/
def startInputs (waferId : Text) : List MachineRuntime.Input :=
  .command ⟨.start waferId 1, .ui⟩ :: List.replicate 4 .controller

/-- A wafer of one line with one point, up to the answer of the controller to its result. -/
def answeredInputs : List MachineRuntime.Input :=
  startInputs [1] ++ List.replicate 4 .scan ++ List.replicate 3 .controller ++ [.scan, .scan] ++
    List.replicate 5 (.worker cleanResult) ++ List.replicate 3 .controller

/-- A second wafer is started and aborted before the processing thread reads the state. -/
def overtakingInputs : List MachineRuntime.Input :=
  answeredInputs ++ startInputs [2] ++ .command ⟨.abort, .ui⟩ :: List.replicate 3 .controller ++
    List.replicate 2 (.worker cleanResult)

/-- The accepted result of the first wafer is dropped, and the stop of the second one is ended. -/
theorem accepted_result_dropped :
    ∃ runtime, run MachineRuntime.step (.fresh ⟨1, 1⟩) overtakingInputs = some runtime ∧
      runtime.worker.owes 1 = false ∧ Mark.accepted 1 ∈ runtime.history ∧
      (¬ ∃ result, Mark.resultReady 1 result ∈ runtime.history) ∧
      Mark.stopped 1 2 ∈ runtime.history := by
  have checked : (run MachineRuntime.step (.fresh ⟨1, 1⟩) overtakingInputs).any
      (fun runtime => runtime.worker = .reporting ∧
        runtime.history = [.accepted 1, .stopped 1 2]) = true := by decide +kernel
  obtain ⟨runtime, reached, facts⟩ := (Option.any_eq_true _ _).mp checked
  obtain ⟨worker, history⟩ := of_decide_eq_true facts
  refine ⟨runtime, reached, ?_, ?_, ?_, ?_⟩
  · rw [worker]
    rfl
  · simp [history]
  · simp [history]
  · simp [history]

/-- Without the second wafer the result is published. -/
theorem result_published_iff_accepted_clean :
    ∃ runtime, run MachineRuntime.step (.fresh ⟨1, 1⟩)
        (answeredInputs ++ List.replicate 2 (.worker cleanResult)) = some runtime ∧
      Mark.accepted 1 ∈ runtime.history ∧
      ∃ result, Mark.resultReady 1 result ∈ runtime.history := by
  have checked : (run (guarded MachineRuntime.step fun state input =>
      state.interruptsDecision input = false) (.fresh ⟨1, 1⟩)
        (answeredInputs ++ List.replicate 2 (.worker cleanResult))).any
      (fun runtime => runtime.worker = .idle ∧ Mark.accepted 1 ∈ runtime.history) = true := by
    decide +kernel
  obtain ⟨runtime, guarded, facts⟩ := (Option.any_eq_true _ _).mp checked
  obtain ⟨worker, accepted⟩ := of_decide_eq_true facts
  obtain ⟨reached, calm⟩ := run_of_guarded guarded
  refine ⟨runtime, reached, accepted, ?_⟩
  exact ((result_published_iff_accepted ⟨1, 1⟩ _ runtime calm reached).1 1
    (by rw [worker]; rfl)).mpr accepted

end Ssim.Machine
