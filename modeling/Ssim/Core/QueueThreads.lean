import Mathlib.Data.Fintype.Basic
import Ssim.Core.RingRefinement
import Ssim.Library.AtomicObject
import Ssim.Library.WaitingRoom

/-!
# The bounded queue and its threads

The queue as its threads run it: what a call does while it has the mutex is one step, a wait
lets the mutex go in the step in which it falls asleep, and the notifications come afterwards,
without the mutex.  A notification of one wakes any of the sleepers, and a sleeper may wake for
no reason.
-/

namespace Ssim.Core

open Library

variable {Thread α : Type}

/-- Where a thread is in a call. -/
inductive QueuePoint (α : Type) where
  | idle
  /-- Has not taken the mutex yet. -/
  | calling (call : QueueCall α)
  | pushAsleep (item : α)
  | pushWoken (item : α)
  | popAsleep
  | popWoken
  /-- Before `not_empty_.notify_one()`. -/
  | notifyEmpty (answer : QueueAnswer α)
  /-- Before `not_full_.notify_one()`. -/
  | notifyFull (answer : QueueAnswer α)
  /-- Before `not_empty_.notify_all()`. -/
  | notifyAllEmpty
  /-- Before `not_full_.notify_all()`. -/
  | notifyAllFull
  | returning (answer : QueueAnswer α)
  deriving Repr, DecidableEq

namespace BoundedQueue

/-- Takes the item, with the mutex. -/
def accept (queue : BoundedQueue α) (item : α) : QueuePoint α × BoundedQueue α :=
  (.notifyEmpty (.pushed true), { queue with items := queue.items ++ [item] })

/-- From the predicate of the wait in `push` on. -/
def pushWait (queue : BoundedQueue α) (item : α) : QueuePoint α × BoundedQueue α :=
  if queue.items.length < queue.capacity ∨ queue.closed = true then
    if queue.closed then (.returning (.pushed false), queue) else queue.accept item
  else
    (.pushAsleep item, queue)

def pushEnter (queue : BoundedQueue α) (item : α) : QueuePoint α × BoundedQueue α :=
  if queue.closed then
    (.returning (.pushed false), queue)
  else if queue.items.length ≥ queue.capacity then
    match queue.policy with
    | .dropNewest => (.returning (.pushed false), { queue with dropped := queue.dropped + 1 })
    | .block => queue.pushWait item
  else
    queue.accept item

/-- From the predicate of the wait in `pop` on. -/
def popWait (queue : BoundedQueue α) : QueuePoint α × BoundedQueue α :=
  if queue.items.isEmpty = false ∨ queue.closed = true then
    match queue.items with
    | [] => (.returning (.popped none), queue)
    | item :: items => (.notifyFull (.popped (some item)), { queue with items := items })
  else
    (.popAsleep, queue)

def enter (queue : BoundedQueue α) : QueueCall α → QueuePoint α × BoundedQueue α
  | .push item => queue.pushEnter item
  | .pop => queue.popWait
  | .close => (.notifyAllEmpty, { queue with closed := true })
  | .size => (.returning (.size queue.items.length), queue)
  | .droppedCount => (.returning (.droppedCount queue.dropped), queue)
  | .closed => (.returning (.closed queue.closed), queue)

end BoundedQueue

namespace QueuePoint

def sleepsEmpty : QueuePoint α → Bool
  | popAsleep => true
  | _ => false

def sleepsFull : QueuePoint α → Bool
  | pushAsleep _ => true
  | _ => false

def woken : QueuePoint α → QueuePoint α
  | pushAsleep item => pushWoken item
  | popAsleep => popWoken
  | point => point

end QueuePoint

structure SharedQueue (Thread α : Type) where
  queue : BoundedQueue α
  point : Thread → QueuePoint α

inductive QueueMove (Thread α : Type) where
  | call (thread : Thread) (call : QueueCall α)
  /-- The thread goes on with its call, as far as the next release, notification or return. -/
  | go (thread : Thread)
  /-- The thread notifies one sleeper, or nobody where nobody sleeps. -/
  | notify (thread : Thread) (sleeper : Option Thread)
  /-- A sleeper wakes without a notification. -/
  | wake (thread : Thread)
  deriving Repr, DecidableEq

namespace SharedQueue

def fresh (capacity : Nat) (policy : BackpressurePolicy) : SharedQueue Thread α :=
  ⟨BoundedQueue.fresh capacity policy, fun _ => .idle⟩

/-- Every thread that sleeps on a condition variable wakes. -/
def wakeAll (shared : SharedQueue Thread α) (sleeps : QueuePoint α → Bool) :
    SharedQueue Thread α :=
  { shared with
    point := fun thread =>
      if sleeps (shared.point thread) then (shared.point thread).woken else shared.point thread }

variable [DecidableEq Thread]

def goTo (shared : SharedQueue Thread α) (thread : Thread) (point : QueuePoint α) :
    SharedQueue Thread α :=
  { shared with point := Function.update shared.point thread point }

def enter (shared : SharedQueue Thread α) (thread : Thread)
    (result : QueuePoint α × BoundedQueue α) : SharedQueue Thread α :=
  { shared.goTo thread result.1 with queue := result.2 }

variable [Fintype Thread]

def wakeOne (shared : SharedQueue Thread α) (sleeps : QueuePoint α → Bool) :
    Option Thread → Option (SharedQueue Thread α)
  | some sleeper =>
      if sleeps (shared.point sleeper) then
        some (shared.goTo sleeper (shared.point sleeper).woken)
      else none
  | none => if ∀ thread, sleeps (shared.point thread) = false then some shared else none

def step (shared : SharedQueue Thread α) : QueueMove Thread α → Option (SharedQueue Thread α)
  | .call thread call =>
      match shared.point thread with
      | .idle => some (shared.goTo thread (.calling call))
      | _ => none
  | .go thread =>
      match shared.point thread with
      | .calling call => some (shared.enter thread (shared.queue.enter call))
      | .pushWoken item => some (shared.enter thread (shared.queue.pushWait item))
      | .popWoken => some (shared.enter thread shared.queue.popWait)
      | .notifyAllEmpty =>
          some ((shared.wakeAll QueuePoint.sleepsEmpty).goTo thread .notifyAllFull)
      | .notifyAllFull =>
          some ((shared.wakeAll QueuePoint.sleepsFull).goTo thread (.returning .done))
      | .returning _ => some (shared.goTo thread .idle)
      | _ => none
  | .notify thread sleeper =>
      match shared.point thread with
      | .notifyEmpty answer =>
          (shared.goTo thread (.returning answer)).wakeOne QueuePoint.sleepsEmpty sleeper
      | .notifyFull answer =>
          (shared.goTo thread (.returning answer)).wakeOne QueuePoint.sleepsFull sleeper
      | _ => none
  | .wake thread =>
      if (shared.point thread).sleepsEmpty || (shared.point thread).sleepsFull then
        some (shared.goTo thread (shared.point thread).woken)
      else none

/-- What the callers see of a move. -/
def observe (shared : SharedQueue Thread α) :
    QueueMove Thread α → List (AtomicObject.Event Thread (QueueCall α) (QueueAnswer α))
  | .call thread call => [.invoked thread call]
  | .go thread =>
      match shared.point thread with
      | .returning answer => [.answered thread answer]
      | _ => []
  | _ => []

end SharedQueue

/-! ## What a move can do -/

/-- What a thread that has the mutex does with the queue, for its call. -/
inductive Entered (queue : BoundedQueue α) :
    QueueCall α → QueuePoint α → BoundedQueue α → Prop where
  | refused {item : α} (isClosed : queue.closed = true) :
      Entered queue (.push item) (.returning (.pushed false)) queue
  | dropped {item : α} (isOpen : queue.closed = false)
      (full : queue.capacity ≤ queue.items.length) (drops : queue.policy = .dropNewest) :
      Entered queue (.push item) (.returning (.pushed false))
        { queue with dropped := queue.dropped + 1 }
  | accepted {item : α} (isOpen : queue.closed = false)
      (room : queue.items.length < queue.capacity) :
      Entered queue (.push item) (.notifyEmpty (.pushed true))
        { queue with items := queue.items ++ [item] }
  | pushSleeps {item : α} (isOpen : queue.closed = false)
      (full : queue.capacity ≤ queue.items.length) (blocks : queue.policy = .block) :
      Entered queue (.push item) (.pushAsleep item) queue
  | popped {item : α} {items : List α} (first : queue.items = item :: items) :
      Entered queue .pop (.notifyFull (.popped (some item))) { queue with items := items }
  | drained (empty : queue.items = []) (isClosed : queue.closed = true) :
      Entered queue .pop (.returning (.popped none)) queue
  | popSleeps (empty : queue.items = []) (isOpen : queue.closed = false) :
      Entered queue .pop .popAsleep queue
  | closes : Entered queue .close .notifyAllEmpty { queue with closed := true }
  | size : Entered queue .size (.returning (.size queue.items.length)) queue
  | droppedCount : Entered queue .droppedCount (.returning (.droppedCount queue.dropped)) queue
  | closed : Entered queue .closed (.returning (.closed queue.closed)) queue

namespace BoundedQueue

variable (queue : BoundedQueue α)

theorem pushWait_entered (blocks : queue.policy = .block) (item : α) :
    Entered queue (.push item) (queue.pushWait item).1 (queue.pushWait item).2 := by
  unfold pushWait
  cases isClosed : queue.closed with
  | true => simpa using Entered.refused isClosed
  | false =>
      simp only [Bool.false_eq_true, or_false, if_false]
      split
      next room => exact .accepted isClosed room
      next full => exact .pushSleeps isClosed (Nat.not_lt.mp full) blocks

theorem pushEnter_entered (item : α) :
    Entered queue (.push item) (queue.pushEnter item).1 (queue.pushEnter item).2 := by
  unfold pushEnter
  split
  next isClosed => exact .refused isClosed
  next isOpen =>
    rw [Bool.not_eq_true] at isOpen
    split
    next full =>
      split
      next drops => exact .dropped isOpen full drops
      next blocks => exact queue.pushWait_entered blocks item
    next room => exact .accepted isOpen (Nat.not_le.mp room)

theorem popWait_entered : Entered queue .pop queue.popWait.1 queue.popWait.2 := by
  unfold popWait
  cases holds : queue.items with
  | nil =>
      cases isClosed : queue.closed with
      | true => simpa using Entered.drained holds isClosed
      | false => simpa using Entered.popSleeps holds isClosed
  | cons item items => simpa using Entered.popped holds

theorem enter_entered (call : QueueCall α) :
    Entered queue call (queue.enter call).1 (queue.enter call).2 := by
  cases call with
  | push item => exact queue.pushEnter_entered item
  | pop => exact queue.popWait_entered
  | close => exact .closes
  | size => exact .size
  | droppedCount => exact .droppedCount
  | closed => exact .closed

end BoundedQueue

/-- The call that a thread is about to try with the mutex. -/
def QueuePoint.tries : QueuePoint α → Option (QueueCall α)
  | calling call => some call
  | pushWoken item => some (.push item)
  | popWoken => some .pop
  | _ => none

namespace SharedQueue

variable [DecidableEq Thread]

inductive Moved (shared : SharedQueue Thread α) :
    QueueMove Thread α → SharedQueue Thread α → Prop where
  | call {thread : Thread} (call : QueueCall α) (idle : shared.point thread = .idle) :
      Moved shared (.call thread call) (shared.goTo thread (.calling call))
  | tried {thread : Thread} {call : QueueCall α} {point : QueuePoint α} {queue : BoundedQueue α}
      (tries : (shared.point thread).tries = some call)
      (entered : Entered shared.queue call point queue) :
      Moved shared (.go thread) (shared.enter thread (point, queue))
  | allEmpty {thread : Thread} (closing : shared.point thread = .notifyAllEmpty) :
      Moved shared (.go thread)
        ((shared.wakeAll QueuePoint.sleepsEmpty).goTo thread .notifyAllFull)
  | allFull {thread : Thread} (closing : shared.point thread = .notifyAllFull) :
      Moved shared (.go thread)
        ((shared.wakeAll QueuePoint.sleepsFull).goTo thread (.returning .done))
  | returned {thread : Thread} {answer : QueueAnswer α}
      (returning : shared.point thread = .returning answer) :
      Moved shared (.go thread) (shared.goTo thread .idle)
  | oneEmpty {thread sleeper : Thread} {answer : QueueAnswer α}
      (notifying : shared.point thread = .notifyEmpty answer)
      (asleep : shared.point sleeper = .popAsleep) :
      Moved shared (.notify thread (some sleeper))
        ((shared.goTo thread (.returning answer)).goTo sleeper .popWoken)
  | nobodyEmpty {thread : Thread} {answer : QueueAnswer α}
      (notifying : shared.point thread = .notifyEmpty answer)
      (nobody : ∀ other, (shared.point other).sleepsEmpty = false) :
      Moved shared (.notify thread none) (shared.goTo thread (.returning answer))
  | oneFull {thread sleeper : Thread} {answer : QueueAnswer α} {item : α}
      (notifying : shared.point thread = .notifyFull answer)
      (asleep : shared.point sleeper = .pushAsleep item) :
      Moved shared (.notify thread (some sleeper))
        ((shared.goTo thread (.returning answer)).goTo sleeper (.pushWoken item))
  | nobodyFull {thread : Thread} {answer : QueueAnswer α}
      (notifying : shared.point thread = .notifyFull answer)
      (nobody : ∀ other, (shared.point other).sleepsFull = false) :
      Moved shared (.notify thread none) (shared.goTo thread (.returning answer))
  | popWakes {thread : Thread} (asleep : shared.point thread = .popAsleep) :
      Moved shared (.wake thread) (shared.goTo thread .popWoken)
  | pushWakes {thread : Thread} {item : α} (asleep : shared.point thread = .pushAsleep item) :
      Moved shared (.wake thread) (shared.goTo thread (.pushWoken item))

theorem goTo_point_of_ne {shared : SharedQueue Thread α} {thread other : Thread}
    {point : QueuePoint α} (different : other ≠ thread) :
    (shared.goTo thread point).point other = shared.point other :=
  Function.update_of_ne different _ _

@[simp]
theorem goTo_point_self {shared : SharedQueue Thread α} {thread : Thread}
    {point : QueuePoint α} : (shared.goTo thread point).point thread = point :=
  Function.update_self _ _ _

variable [Fintype Thread]

theorem wakeOne_cases {shared next : SharedQueue Thread α} {thread : Thread}
    {sleeps : QueuePoint α → Bool} {answer : QueueAnswer α} {sleeper : Option Thread}
    (calm : sleeps (.returning answer) = false) (busy : sleeps (shared.point thread) = false)
    (woke : (shared.goTo thread (.returning answer)).wakeOne sleeps sleeper = some next) :
    (∃ other, sleeper = some other ∧ sleeps (shared.point other) = true ∧
        next = (shared.goTo thread (.returning answer)).goTo other (shared.point other).woken) ∨
      (sleeper = none ∧ (∀ other, sleeps (shared.point other) = false) ∧
        next = shared.goTo thread (.returning answer)) := by
  cases sleeper with
  | some other =>
      simp only [wakeOne] at woke
      split at woke
      next asleep =>
        have different : other ≠ thread := by
          rintro rfl
          simp [calm] at asleep
        rw [goTo_point_of_ne different] at asleep woke
        exact .inl ⟨other, rfl, asleep, (Option.some.inj woke).symm⟩
      · cases woke
  | none =>
      simp only [wakeOne] at woke
      split at woke
      next nobody =>
        refine .inr ⟨rfl, fun other => ?_, (Option.some.inj woke).symm⟩
        by_cases same : other = thread
        · rw [same, busy]
        · rw [← nobody other, goTo_point_of_ne same]
      · cases woke

/-- A thread that has slept in `push` belongs to a queue that blocks. -/
def Blocking (shared : SharedQueue Thread α) : Prop :=
  ∀ thread item, shared.point thread = .pushAsleep item ∨ shared.point thread = .pushWoken item →
    shared.queue.policy = .block

theorem step_moved {shared next : SharedQueue Thread α} {move : QueueMove Thread α}
    (blocking : shared.Blocking) (taken : shared.step move = some next) :
    Moved shared move next := by
  cases move with
  | call thread call =>
      simp only [step] at taken
      split at taken
      next idle => exact Option.some.inj taken ▸ .call call idle
      · cases taken
  | go thread =>
      simp only [step] at taken
      split at taken
      next call calling =>
        exact Option.some.inj taken ▸
          .tried (by rw [calling]; rfl) (shared.queue.enter_entered call)
      next item woken =>
        exact Option.some.inj taken ▸ .tried (by rw [woken]; rfl)
          (shared.queue.pushWait_entered (blocking thread item (.inr woken)) item)
      next woken =>
        exact Option.some.inj taken ▸ .tried (by rw [woken]; rfl) shared.queue.popWait_entered
      next closing => exact Option.some.inj taken ▸ .allEmpty closing
      next closing => exact Option.some.inj taken ▸ .allFull closing
      next answer returning => exact Option.some.inj taken ▸ .returned returning
      · cases taken
  | notify thread sleeper =>
      simp only [step] at taken
      split at taken
      next answer notifying =>
        obtain ⟨other, rfl, asleep, rfl⟩ | ⟨rfl, nobody, rfl⟩ :=
          wakeOne_cases rfl (by rw [notifying]; rfl) taken
        · have sleeps : shared.point other = .popAsleep := by
            cases point : shared.point other <;> simp_all [QueuePoint.sleepsEmpty]
          rw [sleeps]
          exact .oneEmpty notifying sleeps
        · exact .nobodyEmpty notifying nobody
      next answer notifying =>
        obtain ⟨other, rfl, asleep, rfl⟩ | ⟨rfl, nobody, rfl⟩ :=
          wakeOne_cases rfl (by rw [notifying]; rfl) taken
        · obtain ⟨item, sleeps⟩ : ∃ item, shared.point other = .pushAsleep item := by
            cases point : shared.point other <;> simp_all [QueuePoint.sleepsFull]
          rw [sleeps]
          exact .oneFull notifying sleeps
        · exact .nobodyFull notifying nobody
      · cases taken
  | wake thread =>
      simp only [step] at taken
      split at taken
      next asleep =>
        obtain rfl := Option.some.inj taken
        cases point : shared.point thread with
        | popAsleep => exact .popWakes point
        | pushAsleep item => exact .pushWakes point
        | _ => simp [point, QueuePoint.sleepsEmpty, QueuePoint.sleepsFull] at asleep
      · cases taken

end SharedQueue

end Ssim.Core
