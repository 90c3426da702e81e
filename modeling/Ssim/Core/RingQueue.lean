import Mathlib.Logic.Function.Basic
import Ssim.Core.Queue

/-!
# The ring queue

A ring of slots with two indices that only grow: the producer writes `head`, the consumer writes
`tail`, and each keeps a copy of the other's index that may be old.  Indices have 64 bits and
wrap.  A side that finds no room or no item spins, then parks on a mutex and a condition variable
after it has set its waiting flag.

Every access to an atomic variable, a slot, the mutex or a condition variable is a step of its
own.  The steps of the producer, the consumer and any number of closing threads interleave.
-/

namespace Ssim.Core

/-! ## The ring -/

structure Ring (α : Type) where
  capacity : UInt64
  mask : UInt64
  slots : UInt64 → Option α
  /-- The next slot to fill. -/
  head : UInt64
  /-- The producer's copy of the tail. -/
  cachedTail : UInt64
  /-- The next slot to empty. -/
  tail : UInt64
  /-- The consumer's copy of the head. -/
  cachedHead : UInt64

/-- Double until the number is reached; beyond `2 ^ 63` the doubling never ends. -/
def roundUp : Nat → UInt64 → UInt64 → Option UInt64
  | 0, _, _ => none
  | fuel + 1, power, n => if power < n then roundUp fuel (power <<< 1) n else some power

/-- After 64 doublings the power is zero and stays zero. -/
def roundUpToPowerOfTwo (n : UInt64) : Option UInt64 :=
  roundUp 65 1 n

namespace Ring

variable {α : Type}

def fresh (capacity : UInt64) : Option (Ring α) := do
  let capacity := max 1 capacity
  let size ← roundUpToPowerOfTwo capacity
  some
    { capacity := capacity
      mask := size - 1
      slots := fun _ => none
      head := 0
      cachedTail := 0
      tail := 0
      cachedHead := 0 }

section Operations

variable (ring : Ring α)

/-- Full as far as the producer's copy of the tail says. -/
def looksFull : Bool :=
  ring.head - ring.cachedTail ≥ ring.capacity

def loadTail : Ring α :=
  { ring with cachedTail := ring.tail }

def emplace (item : α) : Ring α :=
  { ring with slots := Function.update ring.slots (ring.head &&& ring.mask) (some item) }

def storeHead : Ring α :=
  { ring with head := ring.head + 1 }

/-- Empty as far as the consumer's copy of the head says. -/
def looksEmpty : Bool :=
  ring.tail == ring.cachedHead

def loadHead : Ring α :=
  { ring with cachedHead := ring.head }

def front : Option α :=
  ring.slots (ring.tail &&& ring.mask)

def reset : Ring α :=
  { ring with slots := Function.update ring.slots (ring.tail &&& ring.mask) none }

def storeTail : Ring α :=
  { ring with tail := ring.tail + 1 }

def hasSpace : Bool :=
  ring.head - ring.tail < ring.capacity

def hasItem : Bool :=
  ring.head != ring.tail

def size : UInt64 :=
  min (ring.head - ring.tail) ring.capacity

end Operations

end Ring

/-! ## Program points -/

def kSpinTries : Nat := 64

/-- From where the producer tries to push. -/
inductive PushAttempt where
  | first
  | spinning (spin : Nat)
  | locked
  deriving Repr, DecidableEq

inductive PushPoint where
  | loadClosed
  | tryPush (attempt : PushAttempt)
  | loadTail (attempt : PushAttempt)
  | emplace (attempt : PushAttempt)
  | storeHead (attempt : PushAttempt)
  | drop
  | spinClosed (spin : Nat)
  | lock
  | setWaiting
  /-- The predicate of the wait reads `closed`, then the indices. -/
  | waitClosed
  | waitSpace
  /-- The predicate was false: release the mutex and sleep. -/
  | wait
  | asleep
  /-- Notified, or awake for no reason: take the mutex and try the predicate again. -/
  | woken
  | clearWaiting
  | lockedClosed
  | unlockRefused
  | unlockPushed
  | wakeLoad
  | wakeLock
  | wakeUnlock
  | wakeNotify
  deriving Repr, DecidableEq

inductive Producer (α : Type) where
  | idle
  | pushing (point : PushPoint) (item : α)
  deriving Repr, DecidableEq

/-- From where the consumer tries to pop. -/
inductive PopAttempt where
  | spinning (spin : Nat)
  | locked (wasClosed : Bool)
  deriving Repr, DecidableEq

inductive PopPoint (α : Type) where
  | tryPop (attempt : PopAttempt)
  | loadHead (attempt : PopAttempt)
  | moveSlot (attempt : PopAttempt)
  | resetSlot (attempt : PopAttempt) (item : α)
  | storeTail (attempt : PopAttempt) (item : α)
  | lock
  | loadClosed
  | unlockEmpty
  | setWaiting
  | waitClosed
  | waitItem
  | wait
  | asleep
  | woken
  | clearWaiting
  | unlockPopped (item : α)
  | wakeLoad (item : α)
  | wakeLock (item : α)
  | wakeUnlock (item : α)
  | wakeNotify (item : α)
  deriving Repr, DecidableEq

inductive Consumer (α : Type) where
  | idle
  | popping (point : PopPoint α)
  deriving Repr, DecidableEq

/-- A thread in `close`, after its store to `closed`. -/
inductive Closer where
  | idle
  | lock
  | unlock
  | notifyEmpty
  | notifyFull
  deriving Repr, DecidableEq

inductive QueueThread where
  | producer
  | consumer
  | closer (number : Nat)
  deriving Repr, DecidableEq

/-! ## The queue -/

structure RingQueue (α : Type) where
  ring : Ring α
  policy : BackpressurePolicy
  producerWaiting : Bool
  consumerWaiting : Bool
  closed : Bool
  dropped : Nat
  mutex : Option QueueThread
  producer : Producer α
  consumer : Consumer α
  closers : Nat → Closer
  /-- The items that a store to `head` has made visible, in order. -/
  accepted : List α
  /-- The items that a store to `tail` has given up, in order. -/
  taken : List α
  /-- What the calls of `push` and `pop` returned. -/
  pushes : List (α × Bool)
  pops : List (Option α)

namespace RingQueue

variable {α : Type}

def initial (policy : BackpressurePolicy) (ring : Ring α) : RingQueue α where
  ring := ring
  policy := policy
  producerWaiting := false
  consumerWaiting := false
  closed := false
  dropped := 0
  mutex := none
  producer := .idle
  consumer := .idle
  closers := fun _ => .idle
  accepted := []
  taken := []
  pushes := []
  pops := []

def fresh (capacity : UInt64) (policy : BackpressurePolicy) : Option (RingQueue α) :=
  (Ring.fresh capacity).map (initial policy)

section Steps

variable (queue : RingQueue α)

def pushAt (point : PushPoint) (item : α) : RingQueue α :=
  { queue with producer := .pushing point item }

def pushReturns (item : α) (answer : Bool) : RingQueue α :=
  { queue with producer := .idle, pushes := queue.pushes ++ [(item, answer)] }

def popAt (point : PopPoint α) : RingQueue α :=
  { queue with consumer := .popping point }

def popReturns (answer : Option α) : RingQueue α :=
  { queue with consumer := .idle, pops := queue.pops ++ [answer] }

/-- The mutex for a thread; a thread waits while another one has it. -/
def acquire (thread : QueueThread) : Option (RingQueue α) :=
  match queue.mutex with
  | none => some { queue with mutex := some thread }
  | some _ => none

def release : RingQueue α :=
  { queue with mutex := none }

/-- A sleeper on `not_empty_` wakes. -/
def notifyEmpty : RingQueue α :=
  match queue.consumer with
  | .popping .asleep => queue.popAt .woken
  | _ => queue

/-- A sleeper on `not_full_` wakes. -/
def notifyFull : RingQueue α :=
  match queue.producer with
  | .pushing .asleep item => queue.pushAt .woken item
  | _ => queue

/-! ## The producer -/

/-- Where an attempt that found no room goes on. -/
def pushFailed : PushAttempt → PushPoint
  | .first =>
      match queue.policy with
      | .dropNewest => .drop
      | .block => .spinClosed 0
  | .spinning spin => if spin + 1 < kSpinTries then .spinClosed (spin + 1) else .lock
  | .locked => .setWaiting

def pushPlaced : PushAttempt → PushPoint
  | .locked => .unlockPushed
  | _ => .wakeLoad

def pushStep (item : α) : PushPoint → Option (RingQueue α)
  | .loadClosed =>
      some (if queue.closed then queue.pushReturns item false
        else queue.pushAt (.tryPush .first) item)
  | .tryPush attempt =>
      some (queue.pushAt (if queue.ring.looksFull then .loadTail attempt else .emplace attempt) item)
  | .loadTail attempt =>
      let queue := { queue with ring := queue.ring.loadTail }
      some (queue.pushAt
        (if queue.ring.looksFull then queue.pushFailed attempt else .emplace attempt) item)
  | .emplace attempt =>
      some ({ queue with ring := queue.ring.emplace item }.pushAt (.storeHead attempt) item)
  | .storeHead attempt =>
      some ({ queue with
        ring := queue.ring.storeHead
        accepted := queue.accepted ++ [item] }.pushAt (pushPlaced attempt) item)
  | .drop => some ({ queue with dropped := queue.dropped + 1 }.pushReturns item false)
  | .spinClosed spin =>
      some (if queue.closed then queue.pushReturns item false
        else queue.pushAt (.tryPush (.spinning spin)) item)
  | .lock => (queue.acquire .producer).map (·.pushAt .setWaiting item)
  | .setWaiting => some ({ queue with producerWaiting := true }.pushAt .waitClosed item)
  | .waitClosed => some (queue.pushAt (if queue.closed then .clearWaiting else .waitSpace) item)
  | .waitSpace => some (queue.pushAt (if queue.ring.hasSpace then .clearWaiting else .wait) item)
  | .wait => some (queue.release.pushAt .asleep item)
  | .asleep => none
  | .woken => (queue.acquire .producer).map (·.pushAt .waitClosed item)
  | .clearWaiting => some ({ queue with producerWaiting := false }.pushAt .lockedClosed item)
  | .lockedClosed =>
      some (queue.pushAt (if queue.closed then .unlockRefused else .tryPush .locked) item)
  | .unlockRefused => some (queue.release.pushReturns item false)
  | .unlockPushed => some (queue.release.pushAt .wakeLoad item)
  | .wakeLoad =>
      some (if queue.consumerWaiting then queue.pushAt .wakeLock item
        else queue.pushReturns item true)
  | .wakeLock => (queue.acquire .producer).map (·.pushAt .wakeUnlock item)
  | .wakeUnlock => some (queue.release.pushAt .wakeNotify item)
  | .wakeNotify => some (queue.notifyEmpty.pushReturns item true)

/-! ## The consumer -/

def popFailed : PopAttempt → PopPoint α
  | .spinning spin => if spin + 1 < kSpinTries then .tryPop (.spinning (spin + 1)) else .lock
  | .locked wasClosed => if wasClosed then .unlockEmpty else .setWaiting

def popTaken (item : α) : PopAttempt → PopPoint α
  | .locked _ => .unlockPopped item
  | .spinning _ => .wakeLoad item

/-- Reading an empty slot is undefined: no step. -/
def popStep : PopPoint α → Option (RingQueue α)
  | .tryPop attempt =>
      some (queue.popAt (if queue.ring.looksEmpty then .loadHead attempt else .moveSlot attempt))
  | .loadHead attempt =>
      let queue := { queue with ring := queue.ring.loadHead }
      some (queue.popAt (if queue.ring.looksEmpty then popFailed attempt else .moveSlot attempt))
  | .moveSlot attempt => queue.ring.front.map fun item => queue.popAt (.resetSlot attempt item)
  | .resetSlot attempt item =>
      some ({ queue with ring := queue.ring.reset }.popAt (.storeTail attempt item))
  | .storeTail attempt item =>
      some ({ queue with
        ring := queue.ring.storeTail
        taken := queue.taken ++ [item] }.popAt (popTaken item attempt))
  | .lock => (queue.acquire .consumer).map (·.popAt .loadClosed)
  | .loadClosed => some (queue.popAt (.tryPop (.locked queue.closed)))
  | .unlockEmpty => some (queue.release.popReturns none)
  | .setWaiting => some ({ queue with consumerWaiting := true }.popAt .waitClosed)
  | .waitClosed => some (queue.popAt (if queue.closed then .clearWaiting else .waitItem))
  | .waitItem => some (queue.popAt (if queue.ring.hasItem then .clearWaiting else .wait))
  | .wait => some (queue.release.popAt .asleep)
  | .asleep => none
  | .woken => (queue.acquire .consumer).map (·.popAt .waitClosed)
  | .clearWaiting => some ({ queue with consumerWaiting := false }.popAt .loadClosed)
  | .unlockPopped item => some (queue.release.popAt (.wakeLoad item))
  | .wakeLoad item =>
      some (if queue.producerWaiting then queue.popAt (.wakeLock item)
        else queue.popReturns (some item))
  | .wakeLock item => (queue.acquire .consumer).map (·.popAt (.wakeUnlock item))
  | .wakeUnlock item => some (queue.release.popAt (.wakeNotify item))
  | .wakeNotify item => some (queue.notifyFull.popReturns (some item))

/-! ## Closing threads -/

def closeAt (number : Nat) (point : Closer) : RingQueue α :=
  { queue with closers := Function.update queue.closers number point }

def closeStep (number : Nat) : Closer → Option (RingQueue α)
  | .idle => none
  | .lock => (queue.acquire (.closer number)).map (·.closeAt number .unlock)
  | .unlock => some (queue.release.closeAt number .notifyEmpty)
  | .notifyEmpty => some (queue.notifyEmpty.closeAt number .notifyFull)
  | .notifyFull => some (queue.notifyFull.closeAt number .idle)

end Steps

/-! ## The system -/

inductive Input (α : Type) where
  /-- The producer calls `push`, and takes a step. -/
  | push (item : α)
  | producer
  | pop
  | consumer
  /-- A thread calls `close`: the store to `closed`. -/
  | close (number : Nat)
  | closer (number : Nat)
  /-- A sleeper wakes for no reason. -/
  | wakeProducer
  | wakeConsumer
  deriving Repr, DecidableEq

def step (queue : RingQueue α) : Input α → Option (RingQueue α)
  | .push item =>
      match queue.producer with
      | .idle => some (queue.pushAt .loadClosed item)
      | .pushing _ _ => none
  | .producer =>
      match queue.producer with
      | .idle => none
      | .pushing point item => queue.pushStep item point
  | .pop =>
      match queue.consumer with
      | .idle => some (queue.popAt (.tryPop (.spinning 0)))
      | .popping _ => none
  | .consumer =>
      match queue.consumer with
      | .idle => none
      | .popping point => queue.popStep point
  | .close number =>
      match queue.closers number with
      | .idle => some ({ queue with closed := true }.closeAt number .lock)
      | _ => none
  | .closer number => queue.closeStep number (queue.closers number)
  | .wakeProducer => some queue.notifyFull
  | .wakeConsumer => some queue.notifyEmpty

/-- A step that locks is taken when the mutex is free. -/
theorem acquire_map_eq_some {queue next : RingQueue α} {thread : QueueThread}
    {after : RingQueue α → RingQueue α} :
    (queue.acquire thread).map after = some next ↔
      queue.mutex = none ∧ next = after { queue with mutex := some thread } := by
  unfold acquire
  split
  next free => simp [free, eq_comm]
  next held => simp [held]

/-- Who takes a step, and what it is. -/
theorem step_cases {queue next : RingQueue α} {input : Input α}
    (taken : queue.step input = some next) :
    (∃ item, input = .push item ∧ queue.producer = .idle ∧
        next = queue.pushAt .loadClosed item) ∨
      (∃ point item, input = .producer ∧ queue.producer = .pushing point item ∧
        queue.pushStep item point = some next) ∨
      (input = .pop ∧ queue.consumer = .idle ∧ next = queue.popAt (.tryPop (.spinning 0))) ∨
      (∃ point, input = .consumer ∧ queue.consumer = .popping point ∧
        queue.popStep point = some next) ∨
      (∃ number, input = .close number ∧ queue.closers number = .idle ∧
        next = { queue with closed := true }.closeAt number .lock) ∨
      (∃ number, input = .closer number ∧
        queue.closeStep number (queue.closers number) = some next) ∨
      (input = .wakeProducer ∧ next = queue.notifyFull) ∨
      (input = .wakeConsumer ∧ next = queue.notifyEmpty) := by
  cases input with
  | push item =>
      cases producer : queue.producer with
      | idle => exact .inl ⟨item, rfl, rfl, by simpa [step, producer, eq_comm] using taken⟩
      | pushing point other => simp [step, producer] at taken
  | producer =>
      cases producer : queue.producer with
      | idle => simp [step, producer] at taken
      | pushing point item =>
          exact .inr (.inl ⟨point, item, rfl, rfl, by simpa [step, producer] using taken⟩)
  | pop =>
      cases consumer : queue.consumer with
      | idle =>
          exact .inr (.inr (.inl ⟨rfl, rfl, by simpa [step, consumer, eq_comm] using taken⟩))
      | popping point => simp [step, consumer] at taken
  | consumer =>
      cases consumer : queue.consumer with
      | idle => simp [step, consumer] at taken
      | popping point =>
          exact .inr (.inr (.inr (.inl ⟨point, rfl, rfl, by simpa [step, consumer] using taken⟩)))
  | close number =>
      cases closer : queue.closers number <;> simp only [step, closer] at taken
      case idle =>
        exact .inr (.inr (.inr (.inr (.inl ⟨number, rfl, closer, (Option.some.inj taken).symm⟩))))
      all_goals cases taken
  | closer number => exact .inr (.inr (.inr (.inr (.inr (.inl ⟨number, rfl, taken⟩)))))
  | wakeProducer =>
      exact .inr (.inr (.inr (.inr (.inr (.inr (.inl ⟨rfl, (Option.some.inj taken).symm⟩))))))
  | wakeConsumer =>
      exact .inr (.inr (.inr (.inr (.inr (.inr (.inr ⟨rfl, (Option.some.inj taken).symm⟩))))))

end RingQueue

end Ssim.Core
