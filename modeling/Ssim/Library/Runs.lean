import Mathlib.Data.Option.Basic
import Mathlib.Data.List.Induction

/-!
# Runs of partial step functions

A system takes an input in a state and reaches the next state, or takes no step.
`run` feeds a list of inputs.  The rules below reduce a statement about every run
to the start and to one step: a plain invariant, an invariant that also shows
that every step is taken, and an invariant of the runs whose steps all meet a
condition.
-/

namespace Ssim.Library.Runs

variable {State Input : Type*} (step : State → Input → Option State)

/-- The state after all inputs, if every step is taken. -/
def run (start : State) (inputs : List Input) : Option State :=
  inputs.foldlM step start

@[simp]
theorem run_nil (start : State) : run step start [] = some start :=
  rfl

theorem run_cons (start : State) (input : Input) (inputs : List Input) :
    run step start (input :: inputs) = (step start input).bind (run step · inputs) :=
  rfl

/-- A run goes through the state its front part reaches. -/
theorem run_append (start : State) (before after : List Input) :
    run step start (before ++ after) = (run step start before).bind (run step · after) :=
  List.foldlM_append

theorem run_concat (start : State) (before : List Input) (input : Input) :
    run step start (before ++ [input]) = (run step start before).bind (step · input) := by
  rw [run_append]
  refine Option.bind_congr fun middle _ => ?_
  rw [run_cons]
  cases step middle input <;> rfl

/-! ## Rules -/

/-- Every step of the run from `start` meets the condition in the state it is taken. -/
def Meets (condition : State → Input → Prop) (start : State) (inputs : List Input) : Prop :=
  ∀ before input after state, inputs = before ++ input :: after →
    run step start before = some state → condition state input

variable {step}

theorem Meets.front {condition : State → Input → Prop} {start : State}
    {inputs more : List Input} (meets : Meets step condition start (inputs ++ more)) :
    Meets step condition start inputs := by
  rintro before input after state rfl reached
  exact meets before input (after ++ more) state (by simp) reached

/-- The step function that takes only steps that meet a decidable condition. -/
def guarded (step : State → Input → Option State) (condition : State → Input → Prop)
    [∀ state input, Decidable (condition state input)] (state : State) (input : Input) :
    Option State :=
  if condition state input then step state input else none

/-- A guarded run is a run, and its steps all meet the condition. -/
theorem run_of_guarded {condition : State → Input → Prop}
    [∀ state input, Decidable (condition state input)] {start finish : State}
    {inputs : List Input} (reached : run (guarded step condition) start inputs = some finish) :
    run step start inputs = some finish ∧ Meets step condition start inputs := by
  induction inputs generalizing start with
  | nil => exact ⟨reached, fun before input after state whole => by simp at whole⟩
  | cons first rest ih =>
      rw [run_cons] at reached
      obtain ⟨next, taken, later⟩ := Option.bind_eq_some_iff.mp reached
      unfold guarded at taken
      split at taken
      next met =>
        obtain ⟨whole, meets⟩ := ih later
        refine ⟨by rw [run_cons, taken]; exact whole, ?_⟩
        intro before input after state split front
        cases before with
        | nil =>
            obtain ⟨rfl, rfl⟩ := List.cons.inj split
            rw [run_nil] at front
            exact Option.some.inj front ▸ met
        | cons head before =>
            obtain ⟨rfl, rfl⟩ := List.cons.inj split
            rw [run_cons, taken] at front
            exact meets before input after state rfl front
      · cases taken

/--
A relation between the inputs so far and the state: what the start has and every
step that meets the condition preserves, the run preserves.
-/
theorem history_of_meets (condition : State → Input → Prop)
    (Inv : List Input → State → Prop)
    (preserved : ∀ {before state input next}, Inv before state → condition state input →
      step state input = some next → Inv (before ++ [input]) next)
    {start finish : State} {inputs : List Input} (initial : Inv [] start)
    (meets : Meets step condition start inputs)
    (reached : run step start inputs = some finish) : Inv inputs finish := by
  induction inputs using List.reverseRecOn generalizing finish with
  | nil =>
      rw [run_nil] at reached
      exact Option.some.inj reached ▸ initial
  | append_singleton before input ih =>
      rw [run_concat] at reached
      obtain ⟨middle, first, last⟩ := Option.bind_eq_some_iff.mp reached
      exact preserved (ih meets.front first) (meets before input [] middle rfl first) last

theorem invariant_of_meets (condition : State → Input → Prop) (Inv : State → Prop)
    (preserved : ∀ {state input next}, Inv state → condition state input →
      step state input = some next → Inv next)
    {start finish : State} {inputs : List Input} (initial : Inv start)
    (meets : Meets step condition start inputs)
    (reached : run step start inputs = some finish) : Inv finish :=
  history_of_meets condition (fun _ state => Inv state) preserved initial meets reached

theorem invariant (Inv : State → Prop)
    (preserved : ∀ {state input next}, Inv state → step state input = some next → Inv next)
    {start finish : State} {inputs : List Input} (initial : Inv start)
    (reached : run step start inputs = some finish) : Inv finish :=
  invariant_of_meets (fun _ _ => True) Inv
    (fun holds _ taken => preserved holds taken) initial (fun _ _ _ _ _ _ => trivial) reached

/-- Where the invariant makes every step possible, every run is taken to its end. -/
theorem total (Inv : State → Prop)
    (preserved : ∀ state input, Inv state → ∃ next, step state input = some next ∧ Inv next)
    {start : State} (initial : Inv start) (inputs : List Input) :
    ∃ finish, run step start inputs = some finish ∧ Inv finish := by
  induction inputs generalizing start with
  | nil => exact ⟨start, rfl, initial⟩
  | cons input inputs ih =>
      obtain ⟨next, taken, holds⟩ := preserved start input initial
      obtain ⟨finish, reached, kept⟩ := ih holds
      exact ⟨finish, by rw [run_cons, taken]; exact reached, kept⟩

/-! ## Traces -/

section Traces

variable {Event : Type*} (step) (observe : State → Input → List Event)

/-- What is observed along a run, step by step. -/
def trace : State → List Input → List Event
  | _, [] => []
  | state, input :: inputs =>
      observe state input ++
        match step state input with
        | none => []
        | some next => trace next inputs

variable {step observe}

theorem trace_concat {start middle : State} {before : List Input}
    (reached : run step start before = some middle) (input : Input) :
    trace step observe start (before ++ [input]) =
      trace step observe start before ++ observe middle input := by
  induction before generalizing start with
  | nil =>
      obtain rfl := Option.some.inj reached
      simp only [List.nil_append, trace]
      split <;> simp
  | cons first rest ih =>
      rw [run_cons] at reached
      obtain ⟨next, taken, later⟩ := Option.bind_eq_some_iff.mp reached
      simp only [List.cons_append, trace, taken, ih later, List.append_assoc]

/-- A relation between what has been observed and the state. -/
theorem trace_of_meets (condition : State → Input → Prop) (Inv : List Event → State → Prop)
    (preserved : ∀ {events state input next}, Inv events state → condition state input →
      step state input = some next → Inv (events ++ observe state input) next)
    {start finish : State} {inputs : List Input} (initial : Inv [] start)
    (meets : Meets step condition start inputs)
    (reached : run step start inputs = some finish) :
    Inv (trace step observe start inputs) finish := by
  induction inputs using List.reverseRecOn generalizing finish with
  | nil =>
      rw [run_nil] at reached
      exact Option.some.inj reached ▸ initial
  | append_singleton before input ih =>
      rw [run_concat] at reached
      obtain ⟨middle, first, last⟩ := Option.bind_eq_some_iff.mp reached
      rw [trace_concat first]
      exact preserved (ih meets.front first) (meets before input [] middle rfl first) last

end Traces

/-! ## Batches -/

section Batches

variable {Settled : Type*} (absorb : State → Input → State)

/-- Every input of a batch passes a test in the state in which it is absorbed. -/
def along (test : State → Input → Bool) : State → List Input → Bool
  | _, [] => true
  | state, input :: inputs => test state input && along test (absorb state input) inputs

variable {absorb}

/--
A batch absorbs its inputs first and settles once at its end.  Where absorbing a
further input and settling is settling and receiving that input alone, it ends as
if every input had been received alone.
-/
theorem settle_batch (settle : State → Option Settled)
    (receive : Settled → Input → Option Settled) {test : State → Input → Bool}
    (Inv : State → Prop)
    (kept : ∀ state input, Inv state → test state input = true → Inv (absorb state input))
    (commutes : ∀ state input, Inv state → test state input = true →
      settle (absorb state input) = (settle state).bind (receive · input))
    {state : State} {inputs : List Input} (initial : Inv state)
    (passed : along absorb test state inputs = true) :
    settle (inputs.foldl absorb state) = (settle state).bind (run receive · inputs) := by
  induction inputs generalizing state with
  | nil =>
      rw [List.foldl_nil]
      cases settle state <;> rfl
  | cons input inputs ih =>
      simp only [along, Bool.and_eq_true] at passed
      rw [List.foldl_cons, ih (kept state input initial passed.1) passed.2,
        commutes state input initial passed.1, Option.bind_assoc]
      rfl

end Batches

end Ssim.Library.Runs
