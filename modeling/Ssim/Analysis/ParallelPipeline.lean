import Ssim.Analysis.FitPool
import Ssim.Analysis.Pipeline

/-!
# The pipeline on the pool

`run_pipeline` filters the lines in one call of `for_each_index` and fits them in another.
Each function writes the slot of its own line, so whatever the order of the steps, the
result is that of the serial pipeline.
-/

namespace Ssim.Analysis

open Library

/-- The vectors that the jobs write to. -/
structure PipelineMemory (R : Type) where
  filteredLines : List (FilterResult R)
  lineFits : List (LineFitResult R)

section Parallel

variable {R : Type} [Zero R] [Add R] [Sub R] [Mul R] [Div R] [Neg R] [OfScientific R] [NatCast R]
  [IntCast R] [LT R] [DecidableLT R] [LE R] [DecidableLE R] [BEq R] [Elementary R] [Geometry R]

/-- The vectors as they are resized, with a value in every slot. -/
def PipelineMemory.fresh (count : Nat) : PipelineMemory R where
  filteredLines := List.replicate count ⟨0, [], 0, 0⟩
  lineFits := List.replicate count ⟨0, 0, 0, 0, 0, 0, 0, 0, false⟩

/-- Filters line `i` into its slot. -/
def filterJob (config : Config R) (lines : List (LineSamples R)) (i : Nat)
    (memory : PipelineMemory R) : PipelineMemory R :=
  match lines[i]? with
  | none => memory
  | some line =>
      { memory with filteredLines := memory.filteredLines.set i (filterLine config line) }

/-- Fits line `i` into its slot. -/
def fitJob (i : Nat) (memory : PipelineMemory R) : PipelineMemory R :=
  match memory.filteredLines[i]? with
  | none => memory
  | some filtered => { memory with lineFits := memory.lineFits.set i (fitLine filtered) }

/-- The two calls of `run_pipeline`. -/
def pipelineCalls (config : Config R) (lines : List (LineSamples R)) :
    List (IndexCall (PipelineMemory R)) :=
  [⟨lines.length, filterJob config lines⟩, ⟨lines.length, fitJob⟩]

/-- The slot of a line, which is written once the line has been filtered. -/
def filterSlot (config : Config R) (called : List Job) (i : Nat) (line : LineSamples R) :
    FilterResult R :=
  if ⟨0, i⟩ ∈ called then filterLine config line else ⟨0, [], 0, 0⟩

/-- The slot of a line, which is written once the line has been fitted. -/
def fitSlot (config : Config R) (called : List Job) (i : Nat) (line : LineSamples R) :
    LineFitResult R :=
  if ⟨1, i⟩ ∈ called then fitLine (filterLine config line) else ⟨0, 0, 0, 0, 0, 0, 0, 0, false⟩

/-- The vectors after the functions that have been called, in any order. -/
def memoryAfter (config : Config R) (lines : List (LineSamples R)) (called : List Job) :
    PipelineMemory R where
  filteredLines := lines.mapIdx (filterSlot config called)
  lineFits := lines.mapIdx (fitSlot config called)

/-! ## One function more is called -/

/-- One slot more is written. -/
theorem mapIdx_set {α β : Type} {items : List α} {i : Nat} {item : α} {before after : Nat → α → β}
    (here : items[i]? = some item) (other : ∀ j, j ≠ i → before j = after j) :
    (items.mapIdx before).set i (after i item) = items.mapIdx after := by
  refine List.ext_getElem? fun j => ?_
  rw [List.getElem?_set, List.length_mapIdx, List.getElem?_mapIdx, List.getElem?_mapIdx]
  by_cases same : i = j
  · subst same
    rw [if_pos rfl, if_pos (List.getElem?_eq_some_iff.mp here).1, here]
    rfl
  · rw [if_neg same, other j (Ne.symm same)]

section Run

variable {config : Config R} {lines : List (LineSamples R)} {n : Nat}
  {pool next : FitThreadPool (PipelineMemory R) n}

omit [IntCast R] [Geometry R]

theorem memoryAfter_nil : memoryAfter config lines [] = .fresh lines.length := by
  simp [memoryAfter, filterSlot, fitSlot, PipelineMemory.fresh, List.mapIdx_eq_replicate_iff]

omit [BEq R] in
theorem filterSlot_concat {called : List Job} {job : Job} {i : Nat} (different : ⟨0, i⟩ ≠ job) :
    filterSlot config called i = filterSlot config (called ++ [job]) i := by
  funext line
  simp [filterSlot, different]

theorem fitSlot_concat {called : List Job} {job : Job} {i : Nat} (different : ⟨1, i⟩ ≠ job) :
    fitSlot config called i = fitSlot config (called ++ [job]) i := by
  funext line
  simp [fitSlot, different]

theorem filterJob_memoryAfter {called : List Job} {i : Nat} (inside : i < lines.length) :
    filterJob config lines i (memoryAfter config lines called) =
      memoryAfter config lines (called ++ [⟨0, i⟩]) := by
  have here : lines[i]? = some lines[i] := List.getElem?_eq_getElem inside
  have kept : fitSlot config called = fitSlot config (called ++ [⟨0, i⟩]) :=
    funext fun j => fitSlot_concat (by simp)
  have value : filterSlot config (called ++ [⟨0, i⟩]) i lines[i] = filterLine config lines[i] := by
    simp [filterSlot]
  have written : (lines.mapIdx (filterSlot config called)).set i (filterLine config lines[i]) =
      lines.mapIdx (filterSlot config (called ++ [⟨0, i⟩])) := by
    rw [← value]
    exact mapIdx_set here fun j different => filterSlot_concat (by simpa using different)
  simp only [filterJob, here, memoryAfter, written, kept]

theorem fitJob_memoryAfter {called : List Job} {i : Nat} (inside : i < lines.length)
    (filtered : ⟨0, i⟩ ∈ called) :
    fitJob i (memoryAfter config lines called) =
      memoryAfter config lines (called ++ [⟨1, i⟩]) := by
  have here : lines[i]? = some lines[i] := List.getElem?_eq_getElem inside
  have kept : filterSlot config called = filterSlot config (called ++ [⟨1, i⟩]) :=
    funext fun j => filterSlot_concat (by simp)
  have slot : (lines.mapIdx (filterSlot config called))[i]? =
      some (filterLine config lines[i]) := by
    rw [List.getElem?_mapIdx, here]
    simp [filterSlot, filtered]
  have value : fitSlot config (called ++ [⟨1, i⟩]) i lines[i] =
      fitLine (filterLine config lines[i]) := by
    simp [fitSlot]
  have written :
      (lines.mapIdx (fitSlot config called)).set i (fitLine (filterLine config lines[i])) =
        lines.mapIdx (fitSlot config (called ++ [⟨1, i⟩])) := by
    rw [← value]
    exact mapIdx_set here fun j different => fitSlot_concat (by simpa using different)
  simp only [fitJob, memoryAfter, slot, written, ← kept]

/-! ## All runs -/

theorem countOf_pipelineCalls {call : Nat} (early : call < 2) :
    countOf (pipelineCalls config lines) call = lines.length := by
  obtain rfl | rfl : call = 0 ∨ call = 1 := by omega
  · rfl
  · rfl

/-- The function of a call that has returned has been called for every line. -/
theorem mem_called (sound : pool.Sound (pipelineCalls config lines)) {call index : Nat}
    (early : call < 2) (past : call < pool.caller.call) (inside : index < lines.length) :
    ⟨call, index⟩ ∈ pool.called := by
  have once := sound.count_called past index
  rw [countOf_pipelineCalls early, if_pos inside] at once
  exact List.count_pos_iff.mp (once ▸ Nat.one_pos)

/-- The function of a job that runs writes the slot of its line. -/
theorem fn_memoryAfter (sound : pool.Sound (pipelineCalls config lines)) {number : Fin n}
    {job : Job} {call : IndexCall (PipelineMemory R)}
    (worker : pool.workers number = .running job)
    (known : (pipelineCalls config lines)[job.call]? = some call) :
    call.fn job.index (memoryAfter config lines pool.called) =
      memoryAfter config lines (pool.called ++ [job]) := by
  obtain ⟨here, inside⟩ := sound.running_inside worker
  obtain ⟨which, index⟩ := job
  have early : which < 2 := (List.getElem?_eq_some_iff.mp known).1
  rw [countOf_pipelineCalls early] at inside
  obtain rfl | rfl : which = 0 ∨ which = 1 := by omega
  · obtain rfl := Option.some.inj known
    exact filterJob_memoryAfter inside
  · obtain rfl := Option.some.inj known
    -- the first call has returned, so the line has been filtered
    have past : 0 < pool.caller.call := by
      rw [← here]
      exact Nat.one_pos
    exact fitJob_memoryAfter inside (mem_called sound (by omega) past inside)

theorem memory_does (sound : pool.Sound (pipelineCalls config lines)) {spurious : Bool}
    (memory : pool.memory = memoryAfter config lines pool.called)
    (does : FitThreadPool.Does (pipelineCalls config lines) pool spurious next) :
    next.memory = memoryAfter config lines next.called := by
  cases does with
  | ran number job worker call known =>
      change call.fn job.index pool.memory = memoryAfter config lines (pool.called ++ [job])
      rw [memory]
      exact fn_memoryAfter sound worker known
  | _ => exact memory

/-- The vectors are always as the functions called so far have left them. -/
theorem memory_run (some : 0 < n) {turns : List (Turn n)}
    (reached : Runs.run (FitThreadPool.step (pipelineCalls config lines))
      (.fresh (pipelineCalls config lines) (.fresh lines.length)) turns = .some pool) :
    pool.memory = memoryAfter config lines pool.called := by
  induction turns using List.reverseRecOn generalizing pool with
  | nil =>
      obtain rfl := Option.some.inj reached
      exact memoryAfter_nil.symm
  | append_singleton before turn ih =>
      rw [Runs.run_concat] at reached
      obtain ⟨middle, first, last⟩ := Option.bind_eq_some_iff.mp reached
      have sound := FitThreadPool.sound_run some first
      exact memory_does sound (ih first)
        (FitThreadPool.does_step sound.accounts.isOpen sound.accounts.blocks last)

/-- Once both calls have returned, every line has been filtered and fitted. -/
theorem memoryAfter_finished (sound : pool.Sound (pipelineCalls config lines))
    (finished : pool.finished (pipelineCalls config lines) = true) :
    memoryAfter config lines pool.called =
      ⟨lines.map (filterLine config), (lines.map (filterLine config)).map fitLine⟩ := by
  have past : 2 ≤ pool.caller.call := by
    unfold FitThreadPool.finished at finished
    split at finished
    next call index caller =>
      rw [caller]
      exact of_decide_eq_true finished
    next => exact absurd finished Bool.false_ne_true
  have slots : ∀ call i, call < 2 → i < lines.length → ⟨call, i⟩ ∈ pool.called :=
    fun call i early inside => mem_called sound early (Nat.lt_of_lt_of_le early past) inside
  have filtered : lines.mapIdx (filterSlot config pool.called) = lines.map (filterLine config) := by
    refine List.ext_getElem (by simp) fun i inside _ => ?_
    rw [List.length_mapIdx] at inside
    rw [List.getElem_mapIdx, List.getElem_map, filterSlot, if_pos (slots 0 i (by omega) inside)]
  have fitted : lines.mapIdx (fitSlot config pool.called) =
      (lines.map (filterLine config)).map fitLine := by
    refine List.ext_getElem (by simp) fun i inside _ => ?_
    rw [List.length_mapIdx] at inside
    rw [List.getElem_mapIdx, List.getElem_map, List.getElem_map, fitSlot,
      if_pos (slots 1 i (by omega) inside)]
  rw [memoryAfter, filtered, fitted]

end Run

/-- `run_pipeline` with a pool of threads, in one order of its steps, if it has returned. -/
def runPipelineOn (config : Config R) (lines : List (LineSamples R)) {n : Nat}
    (turns : List (Turn n)) : Option (PipelineResult R) := do
  let calls := pipelineCalls config lines
  let pool ← Runs.run (FitThreadPool.step calls) (.fresh calls (.fresh lines.length)) turns
  if pool.finished calls then
    some (aggregate config pool.memory.filteredLines pool.memory.lineFits)
  else
    none

/--
The pool and the pipeline on it.  For every number of workers, all calls and every order of
the steps: the function of a call that has returned has been called exactly once for each
index, as long as a call has not returned some thread can take a step that is no spurious
wake-up, and such steps are bounded by the calls and the spurious wake-ups.  When the
pipeline returns, whatever the order, its result is that of a single thread.
-/
theorem parallel_pipeline_eq_serial {workers : Nat} (some : 0 < workers) :
    (∀ (σ : Type) (calls : List (IndexCall σ)) (memory : σ) (turns : List (Turn workers))
        (pool : FitThreadPool σ workers),
      Runs.run (FitThreadPool.step calls) (.fresh calls memory) turns = .some pool →
        (∀ call index, call < pool.caller.call →
          pool.called.count ⟨call, index⟩ = if index < countOf calls call then 1 else 0) ∧
        (pool.finished calls = false →
          ∃ turn : Turn workers, turn.spurious = false ∧ (pool.step calls turn).isSome = true) ∧
        turns.countP (fun turn => !turn.spurious) ≤
          FitThreadPool.callsWork calls 0 + workers + turns.countP (·.spurious)) ∧
      ∀ (config : Config R) (lines : List (LineSamples R)) (turns : List (Turn workers))
        (result : PipelineResult R),
        runPipelineOn config lines turns = .some result → result = runPipeline config lines := by
  constructor
  · intro σ calls memory turns pool reached
    have sound := FitThreadPool.sound_run some reached
    have bounded := FitThreadPool.steps_bounded some reached
    refine ⟨fun call index past => sound.count_called past index,
      fun busy => sound.no_deadlock some busy, ?_⟩
    omega
  · intro config lines turns result returned
    unfold runPipelineOn at returned
    obtain ⟨pool, reached, last⟩ := Option.bind_eq_some_iff.mp returned
    split at last
    next finished =>
      have sound := FitThreadPool.sound_run some reached
      obtain rfl := Option.some.inj last
      rw [memory_run some reached, memoryAfter_finished sound finished]
      rfl
    next => cases last

end Parallel

/-- One worker: it is woken, it wakes the caller, and the caller sleeps until the count is zero. -/
def oneWorkerTurns : List (Turn 1) :=
  [.worker 0, .caller, .notify 0, .worker 0, .worker 0, .worker 0, .caller, .caller, .worker 0,
    .caller, .worker 0, .caller, .notify 0, .worker 0, .worker 0, .worker 0, .worker 0, .caller,
    .caller]

/-- One worker and one line: the pool returns, with the result of a single thread. -/
theorem parallel_pipeline_one_line :
    ∃ result : PipelineResult ℚ,
      runPipelineOn .default [twoSamples] oneWorkerTurns = some result ∧
        result = runPipeline .default [twoSamples] := by
  have returned : (runPipelineOn (R := ℚ) .default [twoSamples] oneWorkerTurns).isSome = true := by
    decide +kernel
  obtain ⟨result, whole⟩ := Option.isSome_iff_exists.mp returned
  exact ⟨result, whole,
    (parallel_pipeline_eq_serial Nat.one_pos).2 .default [twoSamples] oneWorkerTurns result whole⟩

end Ssim.Analysis
