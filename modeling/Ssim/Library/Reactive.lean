import Mathlib.Data.List.Induction

/-!
# Reactive machines

A reactive machine takes every input: it answers, emits effects in order and is in
its next state.  The rules below lift what one input does to a whole run: a plain
invariant, an invariant of the state and the trace so far, and the deletion of
inputs that the machine ignores.
-/

namespace Ssim.Library.Reactive

structure Machine (State Input Answer Effect : Type*) where
  answer : State → Input → Answer
  next : State → Input → State
  emit : State → Input → List Effect

namespace Machine

variable {State Input Answer Effect : Type*} (machine : Machine State Input Answer Effect)

/-- The state after all inputs. -/
def after (start : State) (inputs : List Input) : State :=
  inputs.foldl machine.next start

/-- What is emitted along a run. -/
def trace : State → List Input → List Effect
  | _, [] => []
  | state, input :: inputs => machine.emit state input ++ trace (machine.next state input) inputs

def answers : State → List Input → List Answer
  | _, [] => []
  | state, input :: inputs =>
      machine.answer state input :: answers (machine.next state input) inputs

@[simp]
theorem after_nil (start : State) : machine.after start [] = start :=
  rfl

@[simp]
theorem after_cons (start : State) (input : Input) (inputs : List Input) :
    machine.after start (input :: inputs) = machine.after (machine.next start input) inputs :=
  rfl

theorem after_concat (start : State) (inputs : List Input) (input : Input) :
    machine.after start (inputs ++ [input]) =
      machine.next (machine.after start inputs) input := by
  rw [after, List.foldl_append]
  rfl

theorem trace_concat (start : State) (inputs : List Input) (input : Input) :
    machine.trace start (inputs ++ [input]) =
      machine.trace start inputs ++ machine.emit (machine.after start inputs) input := by
  induction inputs generalizing start with
  | nil => simp [trace]
  | cons first rest ih =>
      rw [List.cons_append, trace, trace, ih, List.append_assoc]
      rfl

/-! ## Invariants -/

/-- What the start has and every input keeps, every run keeps. -/
theorem invariant (Inv : State → Prop)
    (kept : ∀ state input, Inv state → Inv (machine.next state input))
    {start : State} (initial : Inv start) (inputs : List Input) :
    Inv (machine.after start inputs) := by
  induction inputs generalizing start with
  | nil => exact initial
  | cons input inputs ih => exact ih (kept start input initial)

/-- A relation between the trace and the state, for runs of inputs that meet a condition. -/
theorem trace_invariant (condition : Input → Prop) (Inv : List Effect → State → Prop)
    (kept : ∀ emitted state input, Inv emitted state → condition input →
      Inv (emitted ++ machine.emit state input) (machine.next state input))
    {start : State} (initial : Inv [] start) {inputs : List Input}
    (meets : ∀ input ∈ inputs, condition input) :
    Inv (machine.trace start inputs) (machine.after start inputs) := by
  induction inputs using List.reverseRecOn with
  | nil => exact initial
  | append_singleton before input ih =>
      rw [trace_concat, after_concat]
      refine kept _ _ _ (ih ?_) (meets input (by simp))
      intro earlier member
      exact meets earlier (List.mem_append_left _ member)

/-! ## Deletion -/

section Deletion

variable (drop : State → Input → Bool)

/-- The inputs that are left when those that are to be dropped are deleted. -/
def kept : State → List Input → List Input
  | _, [] => []
  | state, input :: inputs =>
      if drop state input then
        kept (machine.next state input) inputs
      else
        input :: kept (machine.next state input) inputs

/-- The answers to the inputs that are left. -/
def keptAnswers : State → List Input → List Answer
  | _, [] => []
  | state, input :: inputs =>
      if drop state input then
        keptAnswers (machine.next state input) inputs
      else
        machine.answer state input :: keptAnswers (machine.next state input) inputs

variable {machine drop}

/-- Where dropped inputs are ignored, the run without them is the run with them. -/
theorem run_kept
    (ignored : ∀ state input, drop state input = true →
      machine.next state input = state ∧ machine.emit state input = [])
    (start : State) (inputs : List Input) :
    machine.answers start (machine.kept drop start inputs) =
        machine.keptAnswers drop start inputs ∧
      machine.trace start (machine.kept drop start inputs) = machine.trace start inputs ∧
      machine.after start (machine.kept drop start inputs) = machine.after start inputs := by
  induction inputs generalizing start with
  | nil => exact ⟨rfl, rfl, rfl⟩
  | cons input inputs ih =>
      obtain ⟨answers, trace, after⟩ := ih (machine.next start input)
      cases dropped : drop start input with
      | true =>
          obtain ⟨same, silent⟩ := ignored start input dropped
          rw [same] at answers trace after
          simp only [kept, keptAnswers, Machine.trace, after_cons, dropped, if_true, same, silent,
            List.nil_append]
          exact ⟨answers, trace, after⟩
      | false =>
          simp only [kept, keptAnswers, Machine.answers, Machine.trace, after_cons, dropped,
            Bool.false_eq_true, if_false]
          exact ⟨congrArg _ answers, congrArg _ trace, after⟩

end Deletion

end Machine

end Ssim.Library.Reactive
