import Ssim.Core.Queue
import Ssim.Library.Runs
import Mathlib.Algebra.BigOperators.Group.Finset.Basic
import Mathlib.Algebra.Order.BigOperators.Group.Multiset
import Mathlib.Data.Multiset.AddSub
import Mathlib.Data.Fintype.BigOperators
import Mathlib.Tactic.Abel

/-!
# The pool of fit threads

One owning thread calls `for_each_index` again and again, and the workers run the jobs.  A
step is what a thread does under one mutex, or one notification.  A thread whose condition
does not hold sleeps on its condition variable until it is notified or wakes up
spuriously, and then looks again.  `notify_one` wakes one of the sleeping threads,
whichever.  The functions of a call share a memory; in the program each of them writes only
the slot of its own index.
-/

namespace Ssim.Analysis

open Core Library

/-- A call of `for_each_index`. -/
structure IndexCall (σ : Type) where
  count : Nat
  fn : Nat → σ → σ

/-- The call that a job belongs to, and its index. -/
structure Job where
  call : Nat
  index : Nat
  deriving Repr, DecidableEq

inductive CallerStage where
  /-- Before the push of an index, or at the end of the loop. -/
  | pushing (call index : Nat)
  /-- Asleep on `not_full_`. -/
  | full (call index : Nat)
  /-- The job is pushed, and `not_empty_` is to be notified. -/
  | notifying (call index : Nat)
  /-- Before the look at `remaining`. -/
  | waiting (call : Nat)
  /-- Asleep on `done_cv`. -/
  | asleep (call : Nat)
  deriving Repr, DecidableEq

inductive WorkerStage where
  | popping
  /-- Asleep on `not_empty_`. -/
  | empty
  /-- The job is popped, and `not_full_` is to be notified. -/
  | notifying (job : Job)
  | running (job : Job)
  /-- The function has returned, and `remaining` is to be counted down. -/
  | finishing (job : Job)
  /-- The queue is closed and drained. -/
  | exited
  deriving Repr, DecidableEq

namespace CallerStage

/-- The call that the caller is in. -/
def call : CallerStage → Nat
  | pushing call _ | full call _ | notifying call _ | waiting call | asleep call => call

/-- Asleep on a condition variable. -/
def sleeps : CallerStage → Bool
  | full _ _ | asleep _ => true
  | _ => false

/-- How many of the indices of the call are pushed, out of so many. -/
def pushed (count : Nat) : CallerStage → Nat
  | pushing _ index | full _ index => index
  | notifying _ index => index + 1
  | waiting _ | asleep _ => count

end CallerStage

namespace WorkerStage

/-- The job whose function is still to be called. -/
def unrun : WorkerStage → Multiset Job
  | notifying job | running job => {job}
  | _ => 0

/-- Neither asleep nor gone. -/
def awake : WorkerStage → Bool
  | empty | exited => false
  | _ => true

/-- The job that is still to be counted down. -/
def held : WorkerStage → Multiset Job
  | notifying job | running job | finishing job => {job}
  | _ => 0

end WorkerStage

structure FitThreadPool (σ : Type) (n : Nat) where
  jobs : BoundedQueue Job
  memory : σ
  /-- The counter of every call, in the frame of the call. -/
  remaining : Nat → Nat
  caller : CallerStage
  workers : Fin n → WorkerStage
  /-- The functions that have been called, in order. -/
  called : List Job

/-- Which thread takes the next step. -/
inductive Turn (n : Nat) where
  | caller
  /-- The caller notifies `not_empty_`, which wakes this worker if any sleeps there. -/
  | notify (woken : Fin n)
  | worker (number : Fin n)
  | spuriousCaller
  | spuriousWorker (number : Fin n)
  deriving DecidableEq

def Turn.spurious {n : Nat} : Turn n → Bool
  | spuriousCaller | spuriousWorker _ => true
  | _ => false

def jobQueueCapacity : Nat := 256

def countOf {σ : Type} (calls : List (IndexCall σ)) (call : Nat) : Nat :=
  (calls[call]?.map (·.count)).getD 0

namespace FitThreadPool

variable {σ : Type} {n : Nat} (calls : List (IndexCall σ))

/-- The caller enters a call: its counter starts at the number of indices. -/
def enter (pool : FitThreadPool σ n) (call : Nat) : FitThreadPool σ n :=
  { pool with
    caller := .pushing call 0
    remaining := Function.update pool.remaining call (countOf calls call) }

def fresh (memory : σ) : FitThreadPool σ n :=
  enter calls
    { jobs := .fresh jobQueueCapacity .block
      memory := memory
      remaining := fun _ => 0
      caller := .pushing 0 0
      workers := fun _ => .popping
      called := [] } 0

/-- All calls have returned. -/
def finished (pool : FitThreadPool σ n) : Bool :=
  match pool.caller with
  | .pushing call _ => calls.length ≤ call
  | _ => false

def setWorker (pool : FitThreadPool σ n) (number : Fin n) (stage : WorkerStage) :
    FitThreadPool σ n :=
  { pool with workers := Function.update pool.workers number stage }

/-- The caller wakes up and looks again. -/
def wakeCaller (pool : FitThreadPool σ n) : FitThreadPool σ n :=
  match pool.caller with
  | .full call index => { pool with caller := .pushing call index }
  | .asleep call => { pool with caller := .waiting call }
  | _ => pool

def callerStep (pool : FitThreadPool σ n) : Option (FitThreadPool σ n) :=
  match pool.caller with
  | .pushing call index =>
      if calls.length ≤ call then
        none
      else if index < countOf calls call then
        match pool.jobs.push ⟨call, index⟩ with
        | none => some { pool with caller := .full call index }
        | some (true, jobs) => some { pool with jobs := jobs, caller := .notifying call index }
        | some (false, jobs) => some { pool with jobs := jobs, caller := .pushing call (index + 1) }
      else
        some { pool with caller := .waiting call }
  | .waiting call =>
      if pool.remaining call = 0 then
        some (pool.enter calls (call + 1))
      else
        some { pool with caller := .asleep call }
  | .full _ _ | .notifying _ _ | .asleep _ => none

/-- One of the workers asleep on `not_empty_` is woken, if there is one. -/
def notifyStep (pool : FitThreadPool σ n) (woken : Fin n) : Option (FitThreadPool σ n) :=
  match pool.caller with
  | .notifying call index =>
      let pool := { pool with caller := .pushing call (index + 1) }
      if pool.workers woken = .empty then
        some (pool.setWorker woken .popping)
      else if ∃ number, pool.workers number = .empty then
        none
      else
        some pool
  | _ => none

def workerStep (pool : FitThreadPool σ n) (number : Fin n) : Option (FitThreadPool σ n) :=
  match pool.workers number with
  | .popping =>
      match pool.jobs.pop with
      | none => some (pool.setWorker number .empty)
      | some (none, jobs) => some ({ pool with jobs := jobs }.setWorker number .exited)
      | some (some job, jobs) => some ({ pool with jobs := jobs }.setWorker number (.notifying job))
  | .notifying job =>
      let woken := match pool.caller with
        | .full _ _ => pool.wakeCaller
        | _ => pool
      some (woken.setWorker number (.running job))
  | .running job =>
      match calls[job.call]? with
      | none => none
      | some call =>
          some ({ pool with
            memory := call.fn job.index pool.memory
            called := pool.called ++ [job] }.setWorker number (.finishing job))
  | .finishing job =>
      let left := pool.remaining job.call - 1
      let counted := { pool with remaining := Function.update pool.remaining job.call left }
      let woken :=
        if left = 0 ∧ pool.caller = .asleep job.call then counted.wakeCaller else counted
      some (woken.setWorker number .popping)
  | .empty | .exited => none

/-- One step of the pool; `none` where the thread cannot take it. -/
def step (pool : FitThreadPool σ n) : Turn n → Option (FitThreadPool σ n)
  | .caller => pool.callerStep calls
  | .notify woken => pool.notifyStep woken
  | .worker number => pool.workerStep calls number
  | .spuriousCaller => some pool.wakeCaller
  | .spuriousWorker number =>
      if pool.workers number = .empty then some (pool.setWorker number .popping) else none

/-! ## What a step does -/

/-- The steps, for a queue that is open and blocks, and whether they are spurious. -/
inductive Does (pool : FitThreadPool σ n) : Bool → FitThreadPool σ n → Prop where
  | blocked (call index : Nat) (caller : pool.caller = .pushing call index)
      (more : index < countOf calls call) (noRoom : pool.jobs.capacity ≤ pool.jobs.items.length) :
      Does pool false { pool with caller := .full call index }
  | pushed (call index : Nat) (caller : pool.caller = .pushing call index)
      (more : index < countOf calls call) :
      Does pool false { pool with
        jobs := { pool.jobs with items := pool.jobs.items ++ [⟨call, index⟩] }
        caller := .notifying call index }
  | pushedAll (call index : Nat) (caller : pool.caller = .pushing call index)
      (inside : call < calls.length) (noMore : countOf calls call ≤ index) :
      Does pool false { pool with caller := .waiting call }
  | returned (call : Nat) (caller : pool.caller = .waiting call)
      (none : pool.remaining call = 0) : Does pool false (pool.enter calls (call + 1))
  | slept (call : Nat) (caller : pool.caller = .waiting call)
      (some : pool.remaining call ≠ 0) : Does pool false { pool with caller := .asleep call }
  | notified (call index : Nat) (woken : Fin n) (caller : pool.caller = .notifying call index)
      (asleep : pool.workers woken = .empty) :
      Does pool false ({ pool with caller := .pushing call (index + 1) }.setWorker woken .popping)
  | unheard (call index : Nat) (caller : pool.caller = .notifying call index)
      (awake : ∀ number, pool.workers number ≠ .empty) :
      Does pool false { pool with caller := .pushing call (index + 1) }
  | foundNone (number : Fin n) (worker : pool.workers number = .popping)
      (none : pool.jobs.items = []) : Does pool false (pool.setWorker number .empty)
  | found (number : Fin n) (job : Job) (rest : List Job) (worker : pool.workers number = .popping)
      (first : pool.jobs.items = job :: rest) :
      Does pool false ({ pool with jobs := { pool.jobs with items := rest } }.setWorker number
        (.notifying job))
  | notifiedCaller (number : Fin n) (job : Job) (worker : pool.workers number = .notifying job)
      (call index : Nat) (caller : pool.caller = .full call index) :
      Does pool false ({ pool with caller := .pushing call index }.setWorker number (.running job))
  | notifiedNone (number : Fin n) (job : Job) (worker : pool.workers number = .notifying job)
      (caller : ∀ call index, pool.caller ≠ .full call index) :
      Does pool false (pool.setWorker number (.running job))
  | ran (number : Fin n) (job : Job) (worker : pool.workers number = .running job)
      (call : IndexCall σ) (known : calls[job.call]? = some call) :
      Does pool false ({ pool with
        memory := call.fn job.index pool.memory
        called := pool.called ++ [job] }.setWorker number (.finishing job))
  | counted (number : Fin n) (job : Job) (worker : pool.workers number = .finishing job)
      (caller : pool.remaining job.call - 1 = 0 → pool.caller ≠ .asleep job.call) :
      Does pool false ({ pool with
        remaining := Function.update pool.remaining job.call
          (pool.remaining job.call - 1) }.setWorker number .popping)
  | countedLast (number : Fin n) (job : Job) (worker : pool.workers number = .finishing job)
      (caller : pool.caller = .asleep job.call) :
      Does pool false ({ pool with
        caller := .waiting job.call
        remaining := Function.update pool.remaining job.call
          (pool.remaining job.call - 1) }.setWorker number .popping)
  | wokeFull (call index : Nat) (caller : pool.caller = .full call index) :
      Does pool true { pool with caller := .pushing call index }
  | wokeAsleep (call : Nat) (caller : pool.caller = .asleep call) :
      Does pool true { pool with caller := .waiting call }
  | wokeWorker (number : Fin n) (asleep : pool.workers number = .empty) :
      Does pool true (pool.setWorker number .popping)
  | stayed : Does pool true pool

section Steps

variable {calls} {pool next : FitThreadPool σ n} {spurious : Bool}

theorem does_callerStep (open_ : pool.jobs.closed = false) (blocks : pool.jobs.policy = .block)
    (taken : pool.callerStep calls = some next) : Does calls pool false next := by
  unfold callerStep at taken
  split at taken
  next call index caller =>
    split at taken
    · cases taken
    next inside =>
      split at taken
      next more =>
        cases push : pool.jobs.push ⟨call, index⟩ with
        | none =>
            rw [push] at taken
            obtain rfl := Option.some.inj taken
            exact .blocked call index caller more (BoundedQueue.push_eq_none push)
        | some answer =>
            obtain ⟨accepted, jobs⟩ := answer
            rw [push] at taken
            obtain ⟨isClosed, _⟩ | ⟨_, _, rfl, rfl⟩ := BoundedQueue.push_eq_some blocks push
            · rw [open_] at isClosed
              cases isClosed
            · obtain rfl := Option.some.inj taken
              exact .pushed call index caller more
      next noMore =>
        obtain rfl := Option.some.inj taken
        exact .pushedAll call index caller (Nat.not_le.mp inside) (Nat.not_lt.mp noMore)
  next call caller =>
    split at taken
    next none =>
      obtain rfl := Option.some.inj taken
      exact .returned call caller none
    next some =>
      obtain rfl := Option.some.inj taken
      exact .slept call caller some
  all_goals cases taken

theorem does_notifyStep {woken : Fin n} (taken : pool.notifyStep woken = some next) :
    Does calls pool false next := by
  unfold notifyStep at taken
  split at taken
  next call index caller =>
    dsimp only at taken
    split at taken
    next asleep =>
      obtain rfl := Option.some.inj taken
      exact .notified call index woken caller asleep
    next =>
      split at taken
      · cases taken
      next awake =>
        obtain rfl := Option.some.inj taken
        exact .unheard call index caller fun number asleep => awake ⟨number, asleep⟩
  · cases taken

theorem does_wakeCaller : Does calls pool true pool.wakeCaller := by
  unfold wakeCaller
  split
  next call index caller => exact .wokeFull call index caller
  next call caller => exact .wokeAsleep call caller
  · exact .stayed

theorem does_workerStep {number : Fin n} (open_ : pool.jobs.closed = false)
    (taken : pool.workerStep calls number = some next) : Does calls pool false next := by
  unfold workerStep at taken
  split at taken
  next worker =>
    cases pop : pool.jobs.pop with
    | none =>
        rw [pop] at taken
        obtain rfl := Option.some.inj taken
        exact .foundNone number worker (BoundedQueue.pop_eq_none pop)
    | some answer =>
        obtain ⟨found, jobs⟩ := answer
        rw [pop] at taken
        obtain ⟨job, rfl, first, same⟩ | ⟨_, _, isClosed, _⟩ := BoundedQueue.pop_eq_some pop
        · obtain rfl := Option.some.inj taken
          rw [same]
          exact .found number job jobs.items worker first
        · rw [open_] at isClosed
          cases isClosed
  next job worker =>
    obtain rfl := Option.some.inj taken
    split
    next call index caller =>
      rw [wakeCaller, caller]
      exact .notifiedCaller number job worker call index caller
    next caller => exact .notifiedNone number job worker caller
  next job worker =>
    split at taken
    · cases taken
    next call known =>
      obtain rfl := Option.some.inj taken
      exact .ran number job worker call known
  next job worker =>
    obtain rfl := Option.some.inj taken
    split
    next last =>
      simp only [wakeCaller, last.2]
      exact .countedLast number job worker last.2
    next more => exact .counted number job worker fun none asleep => more ⟨none, asleep⟩
  all_goals cases taken

theorem does_step {turn : Turn n} (open_ : pool.jobs.closed = false)
    (blocks : pool.jobs.policy = .block) (taken : pool.step calls turn = some next) :
    Does calls pool turn.spurious next := by
  cases turn with
  | caller => exact does_callerStep open_ blocks taken
  | notify woken => exact does_notifyStep taken
  | worker number => exact does_workerStep open_ taken
  | spuriousCaller =>
      obtain rfl := Option.some.inj taken
      exact does_wakeCaller
  | spuriousWorker number =>
      change (if pool.workers number = .empty then _ else _) = _ at taken
      split at taken
      next asleep =>
        obtain rfl := Option.some.inj taken
        exact .wokeWorker number asleep
      · cases taken

end Steps

/-! ## Accounts of the jobs -/

/-- What all workers have together. -/
def total {M : Type} [AddCommMonoid M] (f : WorkerStage → M) (workers : Fin n → WorkerStage) : M :=
  ∑ number, f (workers number)

/-- The jobs of the calls so far that have been pushed. -/
def pushedJobs (stage : CallerStage) : List Job :=
  (List.range stage.call).flatMap (fun call => (List.range (countOf calls call)).map (Job.mk call))
    ++ (List.range (stage.pushed (countOf calls stage.call))).map (Job.mk stage.call)

/-- Every job that is pushed is in the queue, with a worker, or called; the counter counts. -/
structure Accounts (pool : FitThreadPool σ n) : Prop where
  isOpen : pool.jobs.closed = false
  blocks : pool.jobs.policy = .block
  capacity : pool.jobs.capacity = jobQueueCapacity
  jobs : (pool.jobs.items : Multiset Job) + total WorkerStage.unrun pool.workers + pool.called =
    pushedJobs calls pool.caller
  queued : ∀ job ∈ pool.jobs.items, job.call = pool.caller.call
  held : ∀ number, ∀ job ∈ (pool.workers number).held, job.call = pool.caller.call
  pushed : pool.caller.pushed (countOf calls pool.caller.call) ≤ countOf calls pool.caller.call
  remaining : pool.remaining pool.caller.call =
    countOf calls pool.caller.call - pool.caller.pushed (countOf calls pool.caller.call) +
      pool.jobs.items.length + (total WorkerStage.held pool.workers).card

section Total

variable {M : Type} [AddCancelCommMonoid M] {f : WorkerStage → M}
  {workers : Fin n → WorkerStage} {number : Fin n} {stage : WorkerStage}

theorem total_update : total f (Function.update workers number stage) + f (workers number) =
    total f workers + f stage := by
  have before : total f workers =
      f (workers number) + ∑ other ∈ Finset.univ.erase number, f (workers other) :=
    (Finset.add_sum_erase _ (fun other => f (workers other)) (Finset.mem_univ number)).symm
  have after : total f (Function.update workers number stage) =
      f stage + ∑ other ∈ Finset.univ.erase number, f (workers other) := by
    rw [total, ← Finset.add_sum_erase _ _ (Finset.mem_univ number), Function.update_self]
    congr 1
    refine Finset.sum_congr rfl fun other member => ?_
    rw [Function.update_of_ne (Finset.ne_of_mem_erase member)]
  rw [before, after]
  abel

theorem total_keep (same : f stage = f (workers number)) :
    total f (Function.update workers number stage) = total f workers := by
  have update := @total_update n M _ f workers number stage
  rw [same] at update
  exact add_right_cancel update

theorem total_gain (none : f (workers number) = 0) :
    total f (Function.update workers number stage) = total f workers + f stage := by
  have update := @total_update n M _ f workers number stage
  rwa [none, add_zero] at update

theorem total_lose (none : f stage = 0) :
    total f (Function.update workers number stage) + f (workers number) = total f workers := by
  have update := @total_update n M _ f workers number stage
  rwa [none, add_zero] at update

omit [AddCancelCommMonoid M] in
theorem held_update {P : Job → Prop} (new : ∀ job ∈ stage.held, P job)
    (old : ∀ other, ∀ job ∈ (workers other).held, P job) :
    ∀ other, ∀ job ∈ (Function.update workers number stage other).held, P job := by
  intro other
  by_cases same : other = number
  · subst same
    rwa [Function.update_self]
  · rw [Function.update_of_ne same]
    exact old other

end Total

section Accounts

variable {calls} {pool next : FitThreadPool σ n} {spurious : Bool}

/-- The caller moves within its call and pushes nothing. -/
theorem Accounts.moveCaller (accounts : pool.Accounts calls) {stage : CallerStage}
    (call : stage.call = pool.caller.call)
    (pushed : stage.pushed (countOf calls stage.call) =
      pool.caller.pushed (countOf calls pool.caller.call)) :
    Accounts calls { pool with caller := stage } where
  isOpen := accounts.isOpen
  blocks := accounts.blocks
  capacity := accounts.capacity
  jobs := by
    have same : pushedJobs calls stage = pushedJobs calls pool.caller := by
      rw [pushedJobs, pushed, call, pushedJobs]
    rw [same]
    exact accounts.jobs
  queued := by
    rw [call]
    exact accounts.queued
  held := by
    rw [call]
    exact accounts.held
  pushed := by
    dsimp only
    rw [pushed, call]
    exact accounts.pushed
  remaining := by
    dsimp only
    rw [pushed, call]
    exact accounts.remaining

/-- A worker moves and keeps its job. -/
theorem Accounts.moveWorker (accounts : pool.Accounts calls) {number : Fin n}
    {stage : WorkerStage} (unrun : stage.unrun = (pool.workers number).unrun)
    (held : stage.held = (pool.workers number).held) :
    Accounts calls (pool.setWorker number stage) where
  isOpen := accounts.isOpen
  blocks := accounts.blocks
  capacity := accounts.capacity
  jobs := by
    rw [setWorker, total_keep unrun]
    exact accounts.jobs
  queued := accounts.queued
  held := held_update (by rw [held]; exact accounts.held number) accounts.held
  pushed := accounts.pushed
  remaining := by
    rw [setWorker, total_keep held]
    exact accounts.remaining

theorem Accounts.push (accounts : pool.Accounts calls) {call index : Nat}
    (caller : pool.caller = .pushing call index) (more : index < countOf calls call) :
    Accounts calls { pool with
      jobs := { pool.jobs with items := pool.jobs.items ++ [⟨call, index⟩] }
      caller := .notifying call index } where
  isOpen := accounts.isOpen
  blocks := accounts.blocks
  capacity := accounts.capacity
  jobs := by
    have before := accounts.jobs
    rw [caller] at before
    have grown : pushedJobs calls (.notifying call index) =
        pushedJobs calls (.pushing call index) ++ [⟨call, index⟩] := by
      simp only [pushedJobs, CallerStage.call, CallerStage.pushed, List.range_succ, List.map_append,
        List.append_assoc, List.map_cons, List.map_nil]
    change ((pool.jobs.items ++ [⟨call, index⟩] : List Job) : Multiset Job) + _ + _ = _
    rw [grown, ← Multiset.coe_add, ← Multiset.coe_add, ← before]
    dsimp only
    abel
  queued := by
    intro job member
    have queued := accounts.queued
    rw [caller] at queued
    obtain old | new := List.mem_append.mp member
    · exact queued job old
    · rw [List.mem_singleton.mp new]
      rfl
  held := by
    have held := accounts.held
    rw [caller] at held
    exact held
  pushed := more
  remaining := by
    have remaining := accounts.remaining
    rw [caller] at remaining
    simp only [CallerStage.call, CallerStage.pushed, List.length_append, List.length_cons,
      List.length_nil] at remaining ⊢
    omega

theorem Accounts.pop (accounts : pool.Accounts calls) {number : Fin n} {job : Job}
    {rest : List Job} (worker : pool.workers number = .popping)
    (first : pool.jobs.items = job :: rest) :
    Accounts calls ({ pool with jobs := { pool.jobs with items := rest } }.setWorker number
      (.notifying job)) where
  isOpen := accounts.isOpen
  blocks := accounts.blocks
  capacity := accounts.capacity
  jobs := by
    have before := accounts.jobs
    rw [first, ← Multiset.cons_coe, ← Multiset.singleton_add] at before
    rw [setWorker, total_gain (by rw [worker]; rfl)]
    change (rest : Multiset Job) + (_ + {job}) + _ = _
    rw [← before]
    abel
  queued := fun other member => accounts.queued other (by
    rw [first]
    exact List.mem_cons_of_mem _ member)
  held := by
    refine held_update (fun other member => ?_) accounts.held
    rw [Multiset.mem_singleton.mp member]
    exact accounts.queued job (by rw [first]; exact List.mem_cons_self)
  pushed := accounts.pushed
  remaining := by
    have remaining := accounts.remaining
    rw [first, List.length_cons] at remaining
    have gained : total WorkerStage.held (Function.update pool.workers number (.notifying job)) =
        total WorkerStage.held pool.workers + {job} := total_gain (by rw [worker]; rfl)
    simp only [setWorker, gained, Multiset.card_add, Multiset.card_singleton]
    omega

theorem Accounts.run (accounts : pool.Accounts calls) {number : Fin n} {job : Job}
    (worker : pool.workers number = .running job) (memory : σ) :
    Accounts calls ({ pool with
      memory := memory
      called := pool.called ++ [job] }.setWorker number (.finishing job)) where
  isOpen := accounts.isOpen
  blocks := accounts.blocks
  capacity := accounts.capacity
  jobs := by
    have before := accounts.jobs
    have lost := @total_lose n _ _ WorkerStage.unrun pool.workers number (.finishing job) rfl
    rw [worker] at lost
    change _ + {job} = _ at lost
    rw [← lost] at before
    change (pool.jobs.items : Multiset Job) +
      total WorkerStage.unrun (Function.update pool.workers number (.finishing job)) +
      ((pool.called ++ [job] : List Job) : Multiset Job) = pushedJobs calls pool.caller
    rw [← before, ← Multiset.coe_add, Multiset.coe_singleton]
    abel
  queued := accounts.queued
  held := held_update (fun other member => accounts.held number other (by
    rw [worker]
    exact member)) accounts.held
  pushed := accounts.pushed
  remaining := by
    rw [setWorker, total_keep (by rw [worker]; rfl)]
    exact accounts.remaining

theorem Accounts.count (accounts : pool.Accounts calls) {number : Fin n} {job : Job}
    (worker : pool.workers number = .finishing job) :
    Accounts calls ({ pool with
      remaining := Function.update pool.remaining job.call
        (pool.remaining job.call - 1) }.setWorker number .popping) where
  isOpen := accounts.isOpen
  blocks := accounts.blocks
  capacity := accounts.capacity
  jobs := by
    rw [setWorker, total_keep (by rw [worker]; rfl)]
    exact accounts.jobs
  queued := accounts.queued
  held := held_update (fun other member => absurd member (Multiset.notMem_zero other))
    accounts.held
  pushed := accounts.pushed
  remaining := by
    have here : job.call = pool.caller.call := accounts.held number job (by
      rw [worker]
      exact Multiset.mem_singleton_self job)
    have remaining := accounts.remaining
    have lost := @total_lose n _ _ WorkerStage.held pool.workers number .popping rfl
    rw [worker] at lost
    change _ + {job} = _ at lost
    rw [← lost, Multiset.card_add, Multiset.card_singleton] at remaining
    simp only [setWorker, here, Function.update_self]
    omega

/-- Nothing is left of a call that returns. -/
theorem Accounts.none_left (accounts : pool.Accounts calls) {call : Nat}
    (caller : pool.caller = .waiting call) (none : pool.remaining call = 0) :
    pool.jobs.items = [] ∧ ∀ number, (pool.workers number).held = 0 := by
  have remaining := accounts.remaining
  rw [caller] at remaining
  simp only [CallerStage.call, CallerStage.pushed, none] at remaining
  have free : (total WorkerStage.held pool.workers).card = 0 := by omega
  refine ⟨List.length_eq_zero_iff.mp (by omega), fun number => ?_⟩
  have part := congrArg Multiset.card
    (@total_lose n _ _ WorkerStage.held pool.workers number .popping rfl)
  rw [Multiset.card_add, free] at part
  exact Multiset.card_eq_zero.mp (by omega)

theorem Accounts.return (accounts : pool.Accounts calls) {call : Nat}
    (caller : pool.caller = .waiting call) (none : pool.remaining call = 0) :
    Accounts calls (pool.enter calls (call + 1)) := by
  obtain ⟨drained, free⟩ := accounts.none_left caller none
  refine ⟨accounts.isOpen, accounts.blocks, accounts.capacity, ?_, ?_, ?_, Nat.zero_le _, ?_⟩
  · have before := accounts.jobs
    rw [caller] at before
    have same : pushedJobs calls (.pushing (call + 1) 0) = pushedJobs calls (.waiting call) := by
      simp [pushedJobs, CallerStage.call, CallerStage.pushed, List.range_succ]
    change _ = (pushedJobs calls (.pushing (call + 1) 0) : Multiset Job)
    rw [same]
    exact before
  · intro job member
    change job ∈ pool.jobs.items at member
    rw [drained] at member
    cases member
  · intro number job member
    change job ∈ (pool.workers number).held at member
    rw [free number] at member
    exact absurd member (Multiset.notMem_zero job)
  · have empty : total WorkerStage.held pool.workers = 0 :=
      Finset.sum_eq_zero fun number _ => free number
    change Function.update pool.remaining (call + 1) (countOf calls (call + 1)) (call + 1) =
      countOf calls (call + 1) - 0 + pool.jobs.items.length +
        (total WorkerStage.held pool.workers).card
    rw [Function.update_self, drained, empty]
    rfl

theorem accounts_fresh (memory : σ) :
    Accounts calls (fresh calls memory : FitThreadPool σ n) := by
  have idle : ∀ f : WorkerStage → Multiset Job, f .popping = 0 →
      total f (fun _ : Fin n => .popping) = 0 :=
    fun f none => Finset.sum_eq_zero fun _ _ => none
  refine ⟨rfl, rfl, rfl, ?_, ?_, ?_, Nat.zero_le _, ?_⟩
  · change (_ : Multiset Job) + total WorkerStage.unrun (fun _ : Fin n => .popping) + _ = _
    rw [idle _ rfl]
    rfl
  · intro job member
    cases member
  · intro number job member
    exact absurd member (Multiset.notMem_zero job)
  · change Function.update (fun _ => 0) 0 (countOf calls 0) 0 =
      countOf calls 0 - 0 + 0 + (total WorkerStage.held (fun _ : Fin n => .popping)).card
    rw [idle _ rfl, Function.update_self]
    rfl

theorem Accounts.does (accounts : pool.Accounts calls) (taken : Does calls pool spurious next) :
    next.Accounts calls := by
  cases taken with
  | blocked call index caller more noRoom =>
      exact accounts.moveCaller (by rw [caller]; rfl) (by rw [caller]; rfl)
  | pushed call index caller more => exact accounts.push caller more
  | pushedAll call index caller inside noMore =>
      have bound := accounts.pushed
      rw [caller] at bound
      exact accounts.moveCaller (by rw [caller]; rfl) (by
        rw [caller]
        exact Nat.le_antisymm noMore bound)
  | returned call caller none => exact accounts.return caller none
  | slept call caller some => exact accounts.moveCaller (by rw [caller]; rfl) (by rw [caller]; rfl)
  | notified call index woken caller asleep =>
      have moved : Accounts calls { pool with caller := .pushing call (index + 1) } :=
        accounts.moveCaller (by rw [caller]; rfl) (by rw [caller]; rfl)
      exact moved.moveWorker (by rw [asleep]; rfl) (by rw [asleep]; rfl)
  | unheard call index caller awake =>
      exact accounts.moveCaller (by rw [caller]; rfl) (by rw [caller]; rfl)
  | foundNone number worker none =>
      exact accounts.moveWorker (by rw [worker]; rfl) (by rw [worker]; rfl)
  | found number job rest worker first => exact accounts.pop worker first
  | notifiedCaller number job worker call index caller =>
      have moved : Accounts calls { pool with caller := .pushing call index } :=
        accounts.moveCaller (by rw [caller]; rfl) (by rw [caller]; rfl)
      exact moved.moveWorker (by rw [worker]; rfl) (by rw [worker]; rfl)
  | notifiedNone number job worker caller =>
      exact accounts.moveWorker (by rw [worker]; rfl) (by rw [worker]; rfl)
  | ran number job worker call known => exact accounts.run worker _
  | counted number job worker caller => exact accounts.count worker
  | countedLast number job worker caller =>
      exact (accounts.count worker).moveCaller (by rw [setWorker, caller]; rfl)
        (by rw [setWorker, caller]; rfl)
  | wokeFull call index caller =>
      exact accounts.moveCaller (by rw [caller]; rfl) (by rw [caller]; rfl)
  | wokeAsleep call caller =>
      exact accounts.moveCaller (by rw [caller]; rfl) (by rw [caller]; rfl)
  | wokeWorker number asleep =>
      exact accounts.moveWorker (by rw [asleep]; rfl) (by rw [asleep]; rfl)
  | stayed => exact accounts

end Accounts

/-! ## No notification is lost -/

/-- Whoever sleeps has a reason, or is about to be notified. -/
structure Wakeful (pool : FitThreadPool σ n) : Prop where
  heard : pool.jobs.items ≠ [] → (∃ call index, pool.caller = .notifying call index) ∨
    ∃ number, (pool.workers number).awake = true
  room : ∀ call index, pool.caller = .full call index →
    pool.jobs.capacity ≤ pool.jobs.items.length ∨ ∃ number job, pool.workers number = .notifying job
  counting : ∀ call, pool.caller = .asleep call → pool.remaining call ≠ 0

section Wakeful

variable {calls} {pool next : FitThreadPool σ n} {spurious : Bool}

theorem awake_of_ne {stage : WorkerStage} (notEmpty : stage ≠ .empty)
    (present : stage ≠ .exited) : stage.awake = true := by
  cases stage with
  | empty => exact absurd rfl notEmpty
  | exited => exact absurd rfl present
  | popping | notifying job | running job | finishing job => rfl

theorem present_update {workers : Fin n → WorkerStage} {number : Fin n} {stage : WorkerStage}
    (present : ∀ other, workers other ≠ .exited) (stays : stage ≠ .exited) (other : Fin n) :
    Function.update workers number stage other ≠ .exited := by
  by_cases same : other = number
  · subst same
    rwa [Function.update_self]
  · rw [Function.update_of_ne same]
    exact present other

/-- No worker leaves while the queue is open. -/
theorem present_does (present : ∀ number, pool.workers number ≠ .exited)
    (taken : Does calls pool spurious next) : ∀ number, next.workers number ≠ .exited := by
  cases taken with
  | blocked | pushed | pushedAll | returned | slept | unheard | wokeFull | wokeAsleep | stayed =>
      exact present
  | notified | foundNone | found | notifiedCaller | notifiedNone | ran | counted | countedLast
  | wokeWorker => exact present_update present (by simp)

/-- The worker that has taken the step is awake. -/
theorem awake_setWorker {number : Fin n} {stage : WorkerStage} (awake : stage.awake = true) :
    ∃ other, ((pool.setWorker number stage).workers other).awake = true := by
  refine ⟨number, ?_⟩
  change (Function.update pool.workers number stage number).awake = true
  rwa [Function.update_self]

/-- A caller that does not sleep waits for nothing. -/
theorem wakeful_of_awake (awake : pool.caller.sleeps = false)
    (heard : pool.jobs.items ≠ [] → (∃ call index, pool.caller = .notifying call index) ∨
      ∃ number, (pool.workers number).awake = true) : pool.Wakeful where
  heard := heard
  room := by
    intro call index full
    rw [full] at awake
    cases awake
  counting := by
    intro call asleep
    rw [asleep] at awake
    cases awake

/-- A caller that is not about to notify has left a worker awake. -/
theorem Wakeful.worker_awake (wakeful : pool.Wakeful)
    (quiet : ∀ call index, pool.caller ≠ .notifying call index) (items : pool.jobs.items ≠ []) :
    ∃ number, (pool.workers number).awake = true :=
  (wakeful.heard items).resolve_left fun ⟨call, index, notifying⟩ => quiet call index notifying

/-- Another worker that is about to notify the caller still is. -/
theorem Wakeful.room_setWorker (wakeful : pool.Wakeful) {number : Fin n} {stage : WorkerStage}
    (quiet : ∀ job, pool.workers number ≠ .notifying job) {call index : Nat}
    (full : pool.caller = .full call index) :
    pool.jobs.capacity ≤ pool.jobs.items.length ∨
      ∃ other job, (pool.setWorker number stage).workers other = .notifying job := by
  obtain noRoom | ⟨other, job, notifying⟩ := wakeful.room call index full
  · exact .inl noRoom
  · have different : other ≠ number := by
      rintro rfl
      exact quiet job notifying
    refine .inr ⟨other, job, ?_⟩
    change Function.update pool.workers number stage other = _
    rwa [Function.update_of_ne different]

/-- A worker that is not about to notify does something else and stays awake. -/
theorem Wakeful.moveWorker (wakeful : pool.Wakeful) {number : Fin n} {stage : WorkerStage}
    (quiet : ∀ job, pool.workers number ≠ .notifying job) (awake : stage.awake = true) :
    (pool.setWorker number stage).Wakeful where
  heard _ := .inr (awake_setWorker awake)
  room := fun _ _ full => wakeful.room_setWorker quiet full
  counting := wakeful.counting

theorem wakeful_fresh (some : 0 < n) (memory : σ) :
    (fresh calls memory : FitThreadPool σ n).Wakeful :=
  wakeful_of_awake rfl fun _ => .inr ⟨⟨0, some⟩, rfl⟩

theorem Wakeful.does (some : 0 < n) (accounts : pool.Accounts calls)
    (present : ∀ number, pool.workers number ≠ .exited) (wakeful : pool.Wakeful)
    (taken : Does calls pool spurious next) : next.Wakeful := by
  cases taken with
  | blocked call index caller more noRoom =>
      constructor
      · intro items
        exact .inr (wakeful.worker_awake (by rw [caller]; simp) items)
      · intro _ _ _
        exact .inl noRoom
      · intro other asleep
        cases asleep
  | pushed call index caller more =>
      exact wakeful_of_awake rfl fun _ => .inl ⟨call, index, rfl⟩
  | pushedAll call index caller inside noMore =>
      exact wakeful_of_awake rfl fun items =>
        .inr (wakeful.worker_awake (by rw [caller]; simp) items)
  | returned call caller none =>
      exact wakeful_of_awake rfl fun items => absurd (accounts.none_left caller none).1 items
  | slept call caller some =>
      constructor
      · intro items
        exact .inr (wakeful.worker_awake (by rw [caller]; simp) items)
      · intro other index full
        cases full
      · intro other asleep
        obtain rfl := CallerStage.asleep.inj asleep
        exact some
  | notified call index woken caller asleep =>
      exact wakeful_of_awake rfl fun _ => .inr (awake_setWorker rfl)
  | unheard call index caller awake =>
      exact wakeful_of_awake rfl fun _ => .inr ⟨⟨0, some⟩, awake_of_ne (awake _) (present _)⟩
  | foundNone number worker none =>
      constructor
      · intro items
        exact absurd none items
      · intro call index full
        exact wakeful.room_setWorker (by rw [worker]; simp) full
      · exact wakeful.counting
  | found number job rest worker first =>
      constructor
      · intro _
        exact .inr (awake_setWorker rfl)
      · intro _ _ _
        refine .inr ⟨number, job, ?_⟩
        exact Function.update_self ..
      · exact wakeful.counting
  | notifiedCaller number job worker call index caller =>
      exact wakeful_of_awake rfl fun _ => .inr (awake_setWorker rfl)
  | notifiedNone number job worker caller =>
      constructor
      · intro _
        exact .inr (awake_setWorker rfl)
      · intro call index full
        exact absurd full (caller call index)
      · exact wakeful.counting
  | ran number job worker call known =>
      have same : Wakeful { pool with
          memory := call.fn job.index pool.memory
          called := pool.called ++ [job] } := ⟨wakeful.heard, wakeful.room, wakeful.counting⟩
      exact same.moveWorker (by rw [worker]; simp) rfl
  | counted number job worker caller =>
      have same : Wakeful { pool with
          remaining := Function.update pool.remaining job.call
            (pool.remaining job.call - 1) } := by
        refine ⟨wakeful.heard, wakeful.room, fun call asleep => ?_⟩
        change Function.update pool.remaining job.call _ call ≠ 0
        by_cases here : call = job.call
        · subst here
          rw [Function.update_self]
          exact fun none => caller none asleep
        · rw [Function.update_of_ne here]
          exact wakeful.counting call asleep
      exact same.moveWorker (by rw [worker]; simp) rfl
  | countedLast number job worker caller =>
      exact wakeful_of_awake rfl fun _ => .inr (awake_setWorker rfl)
  | wokeFull call index caller =>
      exact wakeful_of_awake rfl fun items =>
        .inr (wakeful.worker_awake (by rw [caller]; simp) items)
  | wokeAsleep call caller =>
      exact wakeful_of_awake rfl fun items =>
        .inr (wakeful.worker_awake (by rw [caller]; simp) items)
  | wokeWorker number asleep => exact wakeful.moveWorker (by rw [asleep]; simp) rfl
  | stayed => exact wakeful

end Wakeful

/-! ## All runs -/

structure Sound (pool : FitThreadPool σ n) : Prop where
  accounts : pool.Accounts calls
  present : ∀ number, pool.workers number ≠ .exited
  wakeful : pool.Wakeful

section Sound

variable {calls} {pool next : FitThreadPool σ n} {spurious : Bool}

theorem sound_fresh (some : 0 < n) (memory : σ) :
    (fresh calls memory : FitThreadPool σ n).Sound calls where
  accounts := accounts_fresh memory
  present := by
    intro number exited
    cases exited
  wakeful := wakeful_fresh some memory

theorem Sound.step (some : 0 < n) (sound : pool.Sound calls) {turn : Turn n}
    (taken : pool.step calls turn = .some next) : next.Sound calls := by
  have does := does_step sound.accounts.isOpen sound.accounts.blocks taken
  exact ⟨sound.accounts.does does, present_does sound.present does,
    sound.wakeful.does some sound.accounts sound.present does⟩

theorem sound_run (some : 0 < n) {memory : σ} {turns : List (Turn n)}
    (reached : Runs.run (FitThreadPool.step calls) (fresh calls memory) turns = .some pool) :
    pool.Sound calls :=
  Runs.invariant (Sound calls) (fun sound taken => sound.step some taken) (sound_fresh some memory)
    reached

theorem mem_pushedJobs {stage : CallerStage} {job : Job} :
    job ∈ pushedJobs calls stage ↔
      job.call < stage.call ∧ job.index < countOf calls job.call ∨
        job.call = stage.call ∧ job.index < stage.pushed (countOf calls stage.call) := by
  obtain ⟨call, index⟩ := job
  simp only [pushedJobs, List.mem_append, List.mem_flatMap, List.mem_range, List.mem_map,
    Job.mk.injEq]
  constructor
  · rintro (⟨_, before, _, inside, rfl, rfl⟩ | ⟨_, inside, rfl, rfl⟩)
    · exact .inl ⟨before, inside⟩
    · exact .inr ⟨rfl, inside⟩
  · rintro (⟨before, inside⟩ | ⟨rfl, inside⟩)
    · exact .inl ⟨call, before, index, inside, rfl, rfl⟩
    · exact .inr ⟨index, inside, rfl, rfl⟩

theorem pushedJobs_nodup (stage : CallerStage) : (pushedJobs calls stage).Nodup := by
  have row : ∀ call count, ((List.range count).map (Job.mk call)).Nodup := fun call count =>
    List.nodup_range.map fun _ _ same => (Job.mk.inj same).2
  refine List.Nodup.append ?_ (row _ _) ?_
  · refine List.nodup_flatMap.mpr ⟨fun call _ => row call _, ?_⟩
    refine List.nodup_range.imp fun different job member other => different ?_
    obtain ⟨_, _, rfl⟩ := List.mem_map.mp member
    obtain ⟨_, _, same⟩ := List.mem_map.mp other
    exact (Job.mk.inj same).1.symm
  · intro job member other
    obtain ⟨call, before, inside⟩ := List.mem_flatMap.mp member
    obtain ⟨_, _, rfl⟩ := List.mem_map.mp inside
    obtain ⟨_, _, same⟩ := List.mem_map.mp other
    have here := (Job.mk.inj same).1
    have earlier := List.mem_range.mp before
    omega

theorem mem_held_of_unrun {stage : WorkerStage} {job : Job} (member : job ∈ stage.unrun) :
    job ∈ stage.held := by
  cases stage with
  | notifying other | running other => exact member
  | popping | empty | finishing other | exited => exact absurd member (Multiset.notMem_zero job)

/-- The functions of a call that has returned have been called exactly once for each index. -/
theorem Sound.count_called (sound : pool.Sound calls) {call : Nat}
    (past : call < pool.caller.call) (index : Nat) :
    pool.called.count ⟨call, index⟩ = if index < countOf calls call then 1 else 0 := by
  have whole := congrArg (Multiset.count ⟨call, index⟩) sound.accounts.jobs
  have notQueued : (⟨call, index⟩ : Job) ∉ pool.jobs.items := fun member =>
    absurd (sound.accounts.queued _ member) (Nat.ne_of_lt past)
  have notHeld : (⟨call, index⟩ : Job) ∉ total WorkerStage.unrun pool.workers := by
    intro member
    obtain ⟨number, _, inside⟩ := Multiset.mem_sum.mp member
    exact absurd (sound.accounts.held number _ (mem_held_of_unrun inside)) (Nat.ne_of_lt past)
  rw [Multiset.count_add, Multiset.count_add, Multiset.coe_count, Multiset.coe_count,
    Multiset.coe_count, List.count_eq_zero.mpr notQueued, Multiset.count_eq_zero.mpr notHeld,
    Nat.zero_add] at whole
  rw [whole]
  split
  next inside =>
    exact List.count_eq_one_of_mem (pushedJobs_nodup _)
      (mem_pushedJobs.mpr (.inl ⟨past, inside⟩))
  next outside =>
    refine List.count_eq_zero.mpr fun member => ?_
    obtain ⟨_, inside⟩ | ⟨here, _⟩ := mem_pushedJobs.mp member
    · exact outside inside
    · exact absurd here (Nat.ne_of_lt past)

/-- A job that runs is one of the call that the caller is in. -/
theorem Sound.running_inside (sound : pool.Sound calls) {number : Fin n} {job : Job}
    (worker : pool.workers number = .running job) :
    job.call = pool.caller.call ∧ job.index < countOf calls job.call := by
  have unrun : job ∈ (pool.workers number).unrun := by
    rw [worker]
    exact Multiset.mem_singleton_self job
  have here := sound.accounts.held number job (mem_held_of_unrun unrun)
  have member : job ∈ total WorkerStage.unrun pool.workers :=
    Multiset.mem_sum.mpr ⟨number, Finset.mem_univ _, unrun⟩
  have pushed : job ∈ (pushedJobs calls pool.caller : Multiset Job) := by
    rw [← sound.accounts.jobs]
    exact Multiset.mem_add.mpr (.inl (Multiset.mem_add.mpr (.inr member)))
  refine ⟨here, ?_⟩
  obtain ⟨_, inside⟩ | ⟨_, inside⟩ := mem_pushedJobs.mp (Multiset.mem_coe.mp pushed)
  · exact inside
  · rw [here]
    exact Nat.lt_of_lt_of_le inside sound.accounts.pushed

theorem exists_call_of_lt_countOf {call index : Nat} (inside : index < countOf calls call) :
    ∃ found, calls[call]? = some found := by
  unfold countOf at inside
  cases known : calls[call]? with
  | none =>
      rw [known] at inside
      exact absurd inside (Nat.not_lt_zero _)
  | some found => exact ⟨found, rfl⟩

/-- A worker that is awake can take a step. -/
theorem Sound.worker_steps (sound : pool.Sound calls) {number : Fin n}
    (awake : (pool.workers number).awake = true) :
    (pool.workerStep calls number).isSome = true := by
  unfold workerStep
  cases worker : pool.workers number with
  | popping =>
      dsimp only
      split <;> rfl
  | empty =>
      rw [worker] at awake
      cases awake
  | notifying job => rfl
  | running job =>
      obtain ⟨call, known⟩ := exists_call_of_lt_countOf (sound.running_inside worker).2
      dsimp only
      rw [known]
      rfl
  | finishing job => rfl
  | exited => exact absurd worker (sound.present number)

/-- As long as not all calls have returned, the caller or a worker can take a step. -/
theorem Sound.no_deadlock (some : 0 < n) (sound : pool.Sound calls)
    (busy : pool.finished calls = false) :
    ∃ turn : Turn n, turn.spurious = false ∧ (pool.step calls turn).isSome = true := by
  have workerSteps : (∃ number, (pool.workers number).awake = true) →
      ∃ turn : Turn n, turn.spurious = false ∧ (pool.step calls turn).isSome = true :=
    fun ⟨number, awake⟩ => ⟨.worker number, rfl, sound.worker_steps awake⟩
  cases caller : pool.caller with
  | pushing call index =>
      refine ⟨.caller, rfl, ?_⟩
      have inside : ¬ calls.length ≤ call := by
        rw [finished, caller] at busy
        simpa using busy
      simp only [FitThreadPool.step, callerStep, caller, if_neg inside]
      split
      · split <;> rfl
      · rfl
  | waiting call =>
      refine ⟨.caller, rfl, ?_⟩
      simp only [FitThreadPool.step, callerStep, caller]
      split <;> rfl
  | notifying call index =>
      by_cases sleeping : ∃ number, pool.workers number = .empty
      · obtain ⟨number, asleep⟩ := sleeping
        refine ⟨.notify number, rfl, ?_⟩
        simp [FitThreadPool.step, notifyStep, caller, asleep]
      · refine ⟨.notify ⟨0, some⟩, rfl, ?_⟩
        have awake : pool.workers ⟨0, some⟩ ≠ .empty := fun asleep => sleeping ⟨_, asleep⟩
        simp only [FitThreadPool.step, notifyStep, caller, if_neg awake, if_neg sleeping]
        rfl
  | full call index =>
      -- a full queue is not empty, so a worker is awake to take from it
      obtain noRoom | ⟨number, job, notifying⟩ := sound.wakeful.room call index caller
      · have items : pool.jobs.items ≠ [] := by
          intro none
          rw [none, sound.accounts.capacity] at noRoom
          exact absurd noRoom (by decide)
        exact workerSteps (sound.wakeful.worker_awake (by rw [caller]; simp) items)
      · exact workerSteps ⟨number, by rw [notifying]; rfl⟩
  | asleep call =>
      -- what remains is in the queue or with a worker
      by_cases items : pool.jobs.items = []
      · have remaining := sound.accounts.remaining
        have counting := sound.wakeful.counting call caller
        rw [caller, items] at remaining
        simp only [CallerStage.call, CallerStage.pushed, List.length_nil] at remaining
        have held : total WorkerStage.held pool.workers ≠ 0 := fun none => by
          rw [none, Multiset.card_zero] at remaining
          omega
        obtain ⟨number, _, nonzero⟩ := Finset.exists_ne_zero_of_sum_ne_zero held
        refine workerSteps ⟨number, awake_of_ne (fun asleep => ?_) (sound.present number)⟩
        rw [asleep] at nonzero
        exact nonzero rfl
      · exact workerSteps (sound.wakeful.worker_awake (by rw [caller]; simp) items)

end Sound

/-! ## Every call returns -/

/-- An upper bound for the steps that a worker takes before it sleeps or pops again. -/
def workerWork : WorkerStage → Nat
  | .empty | .exited => 0
  | .popping => 1
  | .finishing _ => 3
  | .running _ => 4
  | .notifying _ => 6

/-- An upper bound for the steps of the calls from this one on. -/
def callsWork (call : Nat) : Nat :=
  ((calls.drop call).map fun call => 9 * call.count + 2).sum

def callerWork : CallerStage → Nat
  | .pushing call index =>
      if call < calls.length then
        9 * (countOf calls call - index) + 2 + callsWork calls (call + 1)
      else
        0
  | .full call index => 9 * (countOf calls call - index) + 1 + callsWork calls (call + 1)
  | .notifying call index => 9 * (countOf calls call - (index + 1)) + 4 + callsWork calls (call + 1)
  | .waiting call => callsWork calls (call + 1) + 1
  | .asleep call => callsWork calls (call + 1)

/-- An upper bound for the steps that are left, without spurious wake-ups. -/
def work (pool : FitThreadPool σ n) : Nat :=
  callerWork calls pool.caller + 6 * pool.jobs.items.length + total workerWork pool.workers

section Work

variable {calls} {pool next : FitThreadPool σ n}

theorem callsWork_eq {call : Nat} (inside : call < calls.length) :
    callsWork calls call = 9 * countOf calls call + 2 + callsWork calls (call + 1) := by
  have count : countOf calls call = calls[call].count := by
    rw [countOf, List.getElem?_eq_getElem inside]
    rfl
  rw [callsWork, List.drop_eq_getElem_cons inside, List.map_cons, List.sum_cons, count]
  rfl

/-- Entering a call does not add work. -/
theorem callerWork_enter (calls : List (IndexCall σ)) (call : Nat) :
    callerWork calls (.pushing call 0) ≤ callsWork calls call := by
  rw [callerWork]
  split
  next inside => rw [callsWork_eq inside, Nat.sub_zero]
  next => exact Nat.zero_le _

theorem callerWork_pushing_le (calls : List (IndexCall σ)) (call index : Nat) :
    callerWork calls (.pushing call index) ≤
      9 * (countOf calls call - index) + 2 + callsWork calls (call + 1) := by
  rw [callerWork]
  split
  · exact Nat.le_refl _
  · exact Nat.zero_le _

theorem lt_length_of_lt_countOf {call index : Nat} (inside : index < countOf calls call) :
    call < calls.length := by
  obtain ⟨found, known⟩ := exists_call_of_lt_countOf inside
  exact (List.getElem?_eq_some_iff.mp known).1

/-- Every step does some of the work that is left. -/
theorem work_lt (taken : Does calls pool false next) : next.work calls < pool.work calls := by
  have update := @total_update n Nat _ workerWork pool.workers
  cases taken with
  | blocked call index caller more noRoom =>
      have inside := lt_length_of_lt_countOf more
      simp only [work, caller, callerWork, if_pos inside]
      omega
  | pushed call index caller more =>
      have inside := lt_length_of_lt_countOf more
      simp only [work, caller, callerWork, if_pos inside, List.length_append, List.length_cons,
        List.length_nil]
      omega
  | pushedAll call index caller inside noMore =>
      simp only [work, caller, callerWork, if_pos inside]
      omega
  | returned call caller none =>
      have entered := callerWork_enter calls (call + 1)
      change callerWork calls (.pushing (call + 1) 0) + _ + _ < _
      simp only [work, enter, caller, callerWork] at entered ⊢
      omega
  | slept call caller some =>
      simp only [work, caller, callerWork]
      omega
  | notified call index woken caller asleep =>
      have pushing := callerWork_pushing_le calls call (index + 1)
      have woke := @update woken .popping
      rw [asleep] at woke
      simp only [work, setWorker, caller, callerWork, workerWork] at pushing woke ⊢
      omega
  | unheard call index caller awake =>
      have pushing := callerWork_pushing_le calls call (index + 1)
      simp only [work, caller, callerWork] at pushing ⊢
      omega
  | foundNone number worker none =>
      have moved := @update number .empty
      rw [worker] at moved
      simp only [work, setWorker, workerWork] at moved ⊢
      omega
  | found number job rest worker first =>
      have moved := @update number (.notifying job)
      rw [worker] at moved
      simp only [work, setWorker, workerWork, first, List.length_cons] at moved ⊢
      omega
  | notifiedCaller number job worker call index caller =>
      have pushing := callerWork_pushing_le calls call index
      have moved := @update number (.running job)
      rw [worker] at moved
      simp only [work, setWorker, caller, callerWork, workerWork] at pushing moved ⊢
      omega
  | notifiedNone number job worker caller =>
      have moved := @update number (.running job)
      rw [worker] at moved
      simp only [work, setWorker, workerWork] at moved ⊢
      omega
  | ran number job worker call known =>
      have moved := @update number (.finishing job)
      rw [worker] at moved
      simp only [work, setWorker, workerWork] at moved ⊢
      omega
  | counted number job worker caller =>
      have moved := @update number .popping
      rw [worker] at moved
      simp only [work, setWorker, workerWork] at moved ⊢
      omega
  | countedLast number job worker caller =>
      have moved := @update number .popping
      rw [worker] at moved
      simp only [work, setWorker, caller, callerWork, workerWork] at moved ⊢
      omega

/-- A spurious wake-up costs one more look. -/
theorem work_spurious (taken : Does calls pool true next) :
    next.work calls ≤ pool.work calls + 1 := by
  cases taken with
  | wokeFull call index caller =>
      have pushing := callerWork_pushing_le calls call index
      simp only [work, caller, callerWork] at pushing ⊢
      omega
  | wokeAsleep call caller =>
      simp only [work, caller, callerWork]
      omega
  | wokeWorker number asleep =>
      have woke := @total_update n Nat _ workerWork pool.workers number .popping
      rw [asleep] at woke
      simp only [work, setWorker, workerWork] at woke ⊢
      omega
  | stayed => exact Nat.le_succ _

/-- The steps of a run are bounded, up to the spurious wake-ups. -/
theorem steps_bounded (some : 0 < n) {memory : σ} {turns : List (Turn n)}
    (reached : Runs.run (FitThreadPool.step calls) (fresh calls memory) turns = .some pool) :
    turns.countP (fun turn => !turn.spurious) + pool.work calls ≤
      callsWork calls 0 + n + turns.countP (·.spurious) := by
  induction turns using List.reverseRecOn generalizing pool with
  | nil =>
      obtain rfl := Option.some.inj reached
      have entered := callerWork_enter calls 0
      have workers : total workerWork (fun _ : Fin n => .popping) = n := by
        simp [total, workerWork]
      change 0 + (callerWork calls (.pushing 0 0) + 6 * 0 +
        total workerWork fun _ : Fin n => .popping) ≤ _
      rw [workers, List.countP_nil]
      omega
  | append_singleton before turn ih =>
      rw [Runs.run_concat] at reached
      obtain ⟨middle, first, last⟩ := Option.bind_eq_some_iff.mp reached
      have bounded := ih first
      have sound := sound_run some first
      have does := does_step sound.accounts.isOpen sound.accounts.blocks last
      rw [List.countP_append, List.countP_append, List.countP_singleton, List.countP_singleton]
      cases kind : turn.spurious with
      | false =>
          rw [kind] at does
          have less := work_lt does
          simp only [Bool.not_false, if_true, Bool.false_eq_true, if_false]
          omega
      | true =>
          rw [kind] at does
          have more := work_spurious does
          simp only [Bool.not_true, Bool.false_eq_true, if_false, if_true]
          omega

end Work

end FitThreadPool

end Ssim.Analysis
