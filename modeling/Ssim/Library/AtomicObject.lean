import Mathlib.Logic.Function.Basic
import Ssim.Library.Runs

/-!
# Atomic objects

An object that any number of threads call.  A thread invokes a call, the call takes effect at one
moment, by the sequential step function of the object, and the thread gets the answer of that
moment.  An implementation is linearizable where every history of it, what its threads invoke and
are answered, is a history of the atomic object.
-/

namespace Ssim.Library.AtomicObject

open Runs

variable {Thread Call Answer State : Type*}

inductive Event (Thread Call Answer : Type*) where
  | invoked (thread : Thread) (call : Call)
  | performed (thread : Thread) (call : Call) (answer : Answer)
  | answered (thread : Thread) (answer : Answer)
  deriving Repr, DecidableEq

/-- Seen by the thread that calls. -/
def Event.visible : Event Thread Call Answer → Bool
  | performed _ _ _ => false
  | _ => true

/-- The call that takes effect, and what it answers. -/
def Event.effect : Event Thread Call Answer → Option (Call × Answer)
  | performed _ call answer => some (call, answer)
  | _ => none

inductive Status (Call Answer : Type*) where
  | idle
  | pending (call : Call)
  /-- The call has taken effect. -/
  | done (answer : Answer)
  deriving Repr, DecidableEq

inductive Moment (Thread Call : Type*) where
  | invoke (thread : Thread) (call : Call)
  | perform (thread : Thread)
  | answer (thread : Thread)
  deriving Repr, DecidableEq

structure Object (Thread Call Answer State : Type*) where
  state : State
  status : Thread → Status Call Answer

/-- No thread has a call under way. -/
def fresh (state : State) : Object Thread Call Answer State :=
  ⟨state, fun _ => .idle⟩

section Steps

variable (sequential : State → Call → Option (Answer × State))

def observe (object : Object Thread Call Answer State) :
    Moment Thread Call → List (Event Thread Call Answer)
  | .invoke thread call => [.invoked thread call]
  | .perform thread =>
      match object.status thread with
      | .pending call =>
          ((sequential object.state call).map fun result =>
            .performed thread call result.1).toList
      | _ => []
  | .answer thread =>
      match object.status thread with
      | .done answer => [.answered thread answer]
      | _ => []

variable {sequential} {object : Object Thread Call Answer State} {thread : Thread}

theorem observe_perform {call : Call} {answer : Answer} {state : State}
    (pending : object.status thread = .pending call)
    (effect : sequential object.state call = some (answer, state)) :
    observe sequential object (.perform thread) = [.performed thread call answer] := by
  simp only [observe, pending, effect, Option.map_some, Option.toList_some]

theorem observe_answer {answer : Answer} (done : object.status thread = .done answer) :
    observe sequential object (.answer thread) = [.answered thread answer] := by
  simp only [observe, done]

variable [DecidableEq Thread]

def Object.go (object : Object Thread Call Answer State) (thread : Thread)
    (status : Status Call Answer) : Object Thread Call Answer State :=
  { object with status := Function.update object.status thread status }

variable (sequential)

def step (object : Object Thread Call Answer State) :
    Moment Thread Call → Option (Object Thread Call Answer State)
  | .invoke thread call =>
      match object.status thread with
      | .idle => some (object.go thread (.pending call))
      | _ => none
  | .perform thread =>
      match object.status thread with
      | .pending call =>
          (sequential object.state call).map fun result =>
            { object.go thread (.done result.1) with state := result.2 }
      | _ => none
  | .answer thread =>
      match object.status thread with
      | .done _ => some (object.go thread .idle)
      | _ => none

/-- What the threads see of the moments. -/
def history (object : Object Thread Call Answer State) (moments : List (Moment Thread Call)) :
    List (Event Thread Call Answer) :=
  (trace (step sequential) (observe sequential) object moments).filter Event.visible

/-- The calls that take effect, in order. -/
def effects (object : Object Thread Call Answer State) (moments : List (Moment Thread Call)) :
    List (Call × Answer) :=
  (trace (step sequential) (observe sequential) object moments).filterMap Event.effect

/-! ## One moment -/

variable {sequential}

theorem step_invoke (call : Call) (idle : object.status thread = .idle) :
    step sequential object (.invoke thread call) = some (object.go thread (.pending call)) := by
  simp only [step, idle]

theorem step_perform {call : Call} {answer : Answer} {state : State}
    (pending : object.status thread = .pending call)
    (effect : sequential object.state call = some (answer, state)) :
    step sequential object (.perform thread) =
      some { object.go thread (.done answer) with state := state } := by
  simp only [step, pending, effect, Option.map_some]

theorem step_answer {answer : Answer} (done : object.status thread = .done answer) :
    step sequential object (.answer thread) = some (object.go thread .idle) := by
  simp only [step, done]

/-! ## Whole runs -/

theorem history_cons {next : Object Thread Call Answer State} {moment : Moment Thread Call}
    (taken : step sequential object moment = some next) (moments : List (Moment Thread Call)) :
    history sequential object (moment :: moments) =
      (observe sequential object moment).filter Event.visible ++
        history sequential next moments := by
  simp only [history, trace, taken, List.filter_append]

theorem history_append {middle : Object Thread Call Answer State}
    {before after : List (Moment Thread Call)}
    (reached : run (step sequential) object before = some middle) :
    history sequential object (before ++ after) =
      history sequential object before ++ history sequential middle after := by
  induction before generalizing object with
  | nil =>
      obtain rfl := Option.some.inj reached
      rfl
  | cons first rest ih =>
      rw [run_cons] at reached
      obtain ⟨next, taken, later⟩ := Option.bind_eq_some_iff.mp reached
      rw [List.cons_append, history_cons taken, history_cons taken, ih later, List.append_assoc]

/--
A step function whose every step some moments of the atomic object simulate, with the same view
for the threads, is linearizable.
-/
theorem linearizable {Implementation Input : Type*}
    {implement : Implementation → Input → Option Implementation}
    {view : Implementation → Input → List (Event Thread Call Answer)}
    (Related : Implementation → Object Thread Call Answer State → Prop)
    (simulated : ∀ {state input next object}, Related state object →
      implement state input = some next → ∃ moments after,
        run (step sequential) object moments = some after ∧
        history sequential object moments = view state input ∧ Related next after)
    {start finish : Implementation} {inputs : List Input} (related : Related start object)
    (reached : run implement start inputs = some finish) :
    ∃ moments after, run (step sequential) object moments = some after ∧
      history sequential object moments = trace implement view start inputs ∧
      Related finish after := by
  induction inputs generalizing start object with
  | nil =>
      obtain rfl := Option.some.inj reached
      exact ⟨[], object, rfl, rfl, related⟩
  | cons input inputs ih =>
      rw [run_cons] at reached
      obtain ⟨next, taken, later⟩ := Option.bind_eq_some_iff.mp reached
      obtain ⟨first, middle, moved, seen, nextRelated⟩ := simulated related taken
      obtain ⟨rest, after, finished, seenLater, lastRelated⟩ := ih nextRelated later
      refine ⟨first ++ rest, after, ?_, ?_, lastRelated⟩
      · rw [run_append, moved]
        exact finished
      · rw [history_append moved, seen, seenLater]
        simp only [trace, taken]

/-- What the effects so far and the state have to do with each other, in every run. -/
theorem effects_invariant (Inv : List (Call × Answer) → State → Prop)
    (preserved : ∀ {before state call answer next}, Inv before state →
      sequential state call = some (answer, next) → Inv (before ++ [(call, answer)]) next)
    {after : Object Thread Call Answer State} {moments : List (Moment Thread Call)}
    (initial : Inv [] object.state)
    (reached : run (step sequential) object moments = some after) :
    Inv (effects sequential object moments) after.state := by
  unfold effects
  refine trace_of_meets (fun _ _ => True)
    (fun events (current : Object Thread Call Answer State) =>
      Inv (events.filterMap Event.effect) current.state) ?_ initial (fun _ _ _ _ _ _ => trivial)
    reached
  intro events current moment next holds _ taken
  rw [List.filterMap_append]
  cases moment with
  | invoke thread call =>
      simp only [step] at taken
      split at taken
      · obtain rfl := Option.some.inj taken
        rw [show List.filterMap Event.effect (observe sequential current (.invoke thread call)) = []
          from rfl, List.append_nil]
        exact holds
      · cases taken
  | perform thread =>
      simp only [step] at taken
      split at taken
      next call pending =>
        obtain ⟨⟨answer, state⟩, effect, rfl⟩ := Option.map_eq_some_iff.mp taken
        rw [observe_perform pending effect]
        exact preserved holds effect
      · cases taken
  | answer thread =>
      simp only [step] at taken
      split at taken
      next answer done =>
        obtain rfl := Option.some.inj taken
        rw [observe_answer done]
        rw [show List.filterMap Event.effect
          [(.answered thread answer : Event Thread Call Answer)] = [] from rfl, List.append_nil]
        exact holds
      · cases taken

end Steps

end Ssim.Library.AtomicObject
