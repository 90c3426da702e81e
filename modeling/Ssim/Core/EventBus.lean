import Mathlib.Data.List.Basic
import Mathlib.Logic.Function.Basic

/-!
# The event bus

Subscriptions by event type, and the threads that subscribe, unsubscribe and publish.  A handler
is any sequence of further calls by its thread, so a thread has a stack of the calls it is in.
Each critical section is one step; a thread that waits takes no step until it may.
-/

namespace Ssim.Core

/-- What a thread is in the middle of; `EventType` stands for the type index of an event. -/
inductive BusFrame (EventType : Type) where
  | publish (type : EventType)
  /-- The copied subscribers that are still to be called. -/
  | visit (pending : List Nat)
  /-- Counted as running; the handler has not started. -/
  | enter (id : Nat) (pending : List Nat)
  /-- In the handler; `left` once an unsubscribe inside it did not wait for it. -/
  | run (id : Nat) (pending : List Nat) (left : Bool)
  /-- The handler has ended, and is still counted as running. -/
  | leave (id : Nat) (pending : List Nat)
  | lookup (id : Nat)
  /-- Out of the lists; not yet marked as removed. -/
  | mark (id : Nat)
  | wait (id : Nat)
  deriving Repr, DecidableEq

structure Subscriber where
  running : Nat
  removed : Bool
  deriving Repr, DecidableEq

structure EventBus (Thread EventType : Type) where
  subscribersByType : EventType → Option (List Nat)
  typeById : Nat → Option EventType
  nextId : Nat
  /-- The subscribers that were made, also those out of the lists. -/
  subscribers : Nat → Subscriber
  callStack : Thread → List (BusFrame EventType)

namespace BusFrame

variable {EventType : Type}

/-- The handlers that a thread is inside of: its `t_executing`. -/
def executing (stack : List (BusFrame EventType)) : List Nat :=
  stack.filterMap fun
    | run id _ _ => some id
    | _ => none

/-- An unsubscribe inside these handlers has not waited for them. -/
def leaveBehind (id : Nat) (stack : List (BusFrame EventType)) : List (BusFrame EventType) :=
  stack.map fun
    | run other pending left => run other pending (left || other == id)
    | frame => frame

end BusFrame

namespace EventBus

variable {Thread EventType : Type} [DecidableEq Thread] [DecidableEq EventType]

def fresh : EventBus Thread EventType where
  subscribersByType := fun _ => none
  typeById := fun _ => none
  nextId := 1
  subscribers := fun _ => ⟨0, false⟩
  callStack := fun _ => []

section Steps

variable (bus : EventBus Thread EventType)

/-- `subscribers_by_type_[type]` -/
def listOf (type : EventType) : List Nat :=
  (bus.subscribersByType type).getD []

def setList (type : EventType) (ids : List Nat) : EventBus Thread EventType :=
  { bus with subscribersByType := Function.update bus.subscribersByType type (some ids) }

def setStack (thread : Thread) (stack : List (BusFrame EventType)) :
    EventBus Thread EventType :=
  { bus with callStack := Function.update bus.callStack thread stack }

def setSubscriber (id : Nat) (subscriber : Subscriber) : EventBus Thread EventType :=
  { bus with subscribers := Function.update bus.subscribers id subscriber }

/-- A thread calls from outside or from a handler. -/
def mayCall (thread : Thread) : Bool :=
  match bus.callStack thread with
  | [] => true
  | .run _ _ _ :: _ => true
  | _ => false

def subscribe (type : EventType) : EventBus Thread EventType :=
  { bus.setList type (bus.listOf type ++ [bus.nextId]) with
    typeById := Function.update bus.typeById bus.nextId (some type)
    nextId := bus.nextId + 1
    subscribers := Function.update bus.subscribers bus.nextId ⟨0, false⟩ }

/-- The subscriber that an unsubscribe takes out of the lists. -/
def finds (id : Nat) : Option EventType :=
  (bus.typeById id).filter fun type => id ∈ bus.listOf type

def unlist (id : Nat) : EventBus Thread EventType :=
  match bus.typeById id with
  | none => bus
  | some type =>
      { bus.setList type ((bus.listOf type).erase id) with
        typeById := Function.update bus.typeById id none }

/-- The next step of the call that the thread is in. -/
def advance (thread : Thread) (below : List (BusFrame EventType)) :
    BusFrame EventType → Option (EventBus Thread EventType)
  | .publish type =>
      match bus.subscribersByType type with
      | none => some (bus.setStack thread below)
      | some ids => some (bus.setStack thread (.visit ids :: below))
  | .visit [] => some (bus.setStack thread below)
  | .visit (id :: pending) =>
      let subscriber := bus.subscribers id
      if subscriber.removed then
        some (bus.setStack thread (.visit pending :: below))
      else
        some ((bus.setSubscriber id { subscriber with running := subscriber.running + 1 }).setStack
          thread (.enter id pending :: below))
  | .enter id pending => some (bus.setStack thread (.run id pending false :: below))
  | .run id pending _ => some (bus.setStack thread (.leave id pending :: below))
  | .leave id pending =>
      let subscriber := bus.subscribers id
      some ((bus.setSubscriber id { subscriber with running := subscriber.running - 1 }).setStack
        thread (.visit pending :: below))
  | .lookup id =>
      match bus.finds id with
      | none => some ((bus.unlist id).setStack thread below)
      | some _ => some ((bus.unlist id).setStack thread (.mark id :: below))
  | .mark id =>
      let marked := bus.setSubscriber id { bus.subscribers id with removed := true }
      if id ∈ BusFrame.executing below then
        some (marked.setStack thread (BusFrame.leaveBehind id below))
      else
        some (marked.setStack thread (.wait id :: below))
  | .wait id =>
      if (bus.subscribers id).running = 0 then some (bus.setStack thread below) else none

end Steps

/-! ## The system -/

inductive Action (EventType : Type) where
  | subscribe (type : EventType)
  | unsubscribe (id : Nat)
  | publish (type : EventType)
  /-- The next step of a call; in a handler, its return. -/
  | advance
  /-- The handler throws: the copied subscribers that are left are not called. -/
  | throw
  deriving Repr, DecidableEq

def step (bus : EventBus Thread EventType) (input : Thread × Action EventType) :
    Option (EventBus Thread EventType) :=
  match input.2, bus.callStack input.1 with
  | .subscribe type, _ => if bus.mayCall input.1 then some (bus.subscribe type) else none
  | .unsubscribe id, stack =>
      if bus.mayCall input.1 then some (bus.setStack input.1 (.lookup id :: stack)) else none
  | .publish type, stack =>
      if bus.mayCall input.1 then some (bus.setStack input.1 (.publish type :: stack)) else none
  | .advance, frame :: below => bus.advance input.1 below frame
  | .advance, [] => none
  | .throw, .run id _ _ :: below => some (bus.setStack input.1 (.leave id [] :: below))
  | .throw, _ => none

end EventBus

end Ssim.Core
