import Mathlib.Data.List.Basic

/-!
# The bounded queue

A queue with a mutex: each operation is one atomic step on its contents.  An
operation that waits for a condition takes no step until the condition holds.
-/

namespace Ssim.Core

inductive BackpressurePolicy where
  /-- A push to a full queue waits for room or for the end of the queue. -/
  | block
  /-- A push to a full queue is dropped and counted. -/
  | dropNewest
  deriving Repr, DecidableEq

structure BoundedQueue (α : Type) where
  capacity : Nat
  policy : BackpressurePolicy
  items : List α
  dropped : Nat
  closed : Bool

namespace BoundedQueue

variable {α : Type}

def fresh (capacity : Nat) (policy : BackpressurePolicy) : BoundedQueue α :=
  ⟨capacity, policy, [], 0, false⟩

/-- Whether the item was taken, and the queue; `none` while the push waits. -/
def push (queue : BoundedQueue α) (item : α) : Option (Bool × BoundedQueue α) :=
  if queue.closed then
    some (false, queue)
  else if queue.items.length ≥ queue.capacity then
    match queue.policy with
    | .dropNewest => some (false, { queue with dropped := queue.dropped + 1 })
    | .block => none
  else
    some (true, { queue with items := queue.items ++ [item] })

/-- The first item, or nothing for ever once the queue is closed; `none` while the pop waits. -/
def pop (queue : BoundedQueue α) : Option (Option α × BoundedQueue α) :=
  match queue.items with
  | item :: items => some (some item, { queue with items := items })
  | [] => if queue.closed then some (none, queue) else none

def close (queue : BoundedQueue α) : BoundedQueue α :=
  { queue with closed := true }

/-- A push to a queue that blocks. -/
theorem push_eq_some {queue next : BoundedQueue α} {item : α} {taken : Bool}
    (blocks : queue.policy = .block) (pushed : queue.push item = some (taken, next)) :
    (queue.closed = true ∧ taken = false ∧ next = queue) ∨
      (queue.closed = false ∧ queue.items.length < queue.capacity ∧ taken = true ∧
        next = { queue with items := queue.items ++ [item] }) := by
  unfold push at pushed
  split at pushed
  next closed =>
    obtain ⟨rfl, rfl⟩ := Prod.mk.inj (Option.some.inj pushed)
    exact .inl ⟨closed, rfl, rfl⟩
  next closed =>
    split at pushed
    · rw [blocks] at pushed
      cases pushed
    next room =>
      obtain ⟨rfl, rfl⟩ := Prod.mk.inj (Option.some.inj pushed)
      exact .inr ⟨by simpa using closed, Nat.not_le.mp room, rfl, rfl⟩

/-- A push waits only at a full queue. -/
theorem push_eq_none {queue : BoundedQueue α} {item : α} (waits : queue.push item = none) :
    queue.capacity ≤ queue.items.length := by
  unfold push at waits
  split at waits
  · cases waits
  · split at waits
    · assumption
    · cases waits

/-- A pop waits only at an empty queue. -/
theorem pop_eq_none {queue : BoundedQueue α} (waits : queue.pop = none) : queue.items = [] := by
  unfold pop at waits
  split at waits
  · cases waits
  · assumption

theorem pop_eq_some {queue next : BoundedQueue α} {found : Option α}
    (popped : queue.pop = some (found, next)) :
    (∃ item, found = some item ∧ queue.items = item :: next.items ∧
        next = { queue with items := next.items }) ∨
      (found = none ∧ queue.items = [] ∧ queue.closed = true ∧ next = queue) := by
  unfold pop at popped
  split at popped
  next item items holds =>
    obtain ⟨rfl, rfl⟩ := Prod.mk.inj (Option.some.inj popped)
    exact .inl ⟨item, rfl, holds, rfl⟩
  next empty =>
    split at popped
    next closed =>
      obtain ⟨rfl, rfl⟩ := Prod.mk.inj (Option.some.inj popped)
      exact .inr ⟨rfl, empty, closed, rfl⟩
    · cases popped

end BoundedQueue

end Ssim.Core
