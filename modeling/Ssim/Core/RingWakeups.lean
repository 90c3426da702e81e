import Ssim.Core.RingData
import Ssim.Library.Parking

/-!
# Wake-ups of the ring queue

The producer and the consumer as the two sides that park: the producer waits for space, the
consumer for an item.  Whoever sleeps although there is space or an item, or although the queue
is closed, is about to be notified.
-/

namespace Ssim.Core

open Library.Parking (Side Stage Owner System)

variable {α : Type}

/-! ## Stages -/

def PushAttempt.stage : PushAttempt → Stage
  | .locked => .holding
  | _ => .running

def PushPoint.stage : PushPoint → Stage
  | .tryPush attempt | .loadTail attempt | .emplace attempt | .storeHead attempt => attempt.stage
  | .setWaiting | .lockedClosed | .unlockRefused => .holding
  | .waitClosed | .clearWaiting => .flagged
  | .waitSpace => .checked
  | .wait => .committed
  | .asleep => .asleep
  | .woken => .woken
  | .unlockPushed => .announcing
  | .wakeLoad => .wakeLoad
  | .wakeLock => .wakeLock
  | .wakeUnlock => .wakeUnlock
  | .wakeNotify => .wakeNotify
  | .loadClosed | .drop | .spinClosed _ | .lock => .running

def Producer.stage : Producer α → Stage
  | .idle => .running
  | .pushing point _ => point.stage

@[simp]
theorem Producer.stage_idle : (Producer.idle : Producer α).stage = .running :=
  rfl

@[simp]
theorem Producer.stage_pushing (point : PushPoint) (item : α) :
    (Producer.pushing point item).stage = point.stage :=
  rfl

def PopAttempt.stage : PopAttempt → Stage
  | .locked _ => .holding
  | .spinning _ => .running

def PopPoint.stage : PopPoint α → Stage
  | .tryPop attempt | .loadHead attempt | .moveSlot attempt | .resetSlot attempt _
  | .storeTail attempt _ => attempt.stage
  | .loadClosed | .unlockEmpty | .setWaiting => .holding
  | .waitClosed | .clearWaiting => .flagged
  | .waitItem => .checked
  | .wait => .committed
  | .asleep => .asleep
  | .woken => .woken
  | .unlockPopped _ => .announcing
  | .wakeLoad _ => .wakeLoad
  | .wakeLock _ => .wakeLock
  | .wakeUnlock _ => .wakeUnlock
  | .wakeNotify _ => .wakeNotify
  | .lock => .running

def Consumer.stage : Consumer α → Stage
  | .idle => .running
  | .popping point => point.stage

@[simp]
theorem Consumer.stage_idle : (Consumer.idle : Consumer α).stage = .running :=
  rfl

@[simp]
theorem Consumer.stage_popping (point : PopPoint α) :
    (Consumer.popping point).stage = point.stage :=
  rfl

theorem Producer.eq_asleep {producer : Producer α} (asleep : producer.stage = .asleep) :
    ∃ item, producer = .pushing .asleep item := by
  rcases producer with _ | ⟨point, item⟩
  · cases asleep
  · refine ⟨item, ?_⟩
    rcases point with _ | attempt | attempt | attempt | attempt <;>
      first
        | rfl
        | cases asleep
        | cases attempt <;> cases asleep

theorem Consumer.eq_asleep {consumer : Consumer α} (asleep : consumer.stage = .asleep) :
    consumer = .popping .asleep := by
  rcases consumer with _ | point
  · cases asleep
  · rcases point with attempt | attempt | attempt | attempt | attempt <;>
      first
        | rfl
        | cases asleep
        | cases attempt <;> cases asleep

/-- The producer parks on the left, the consumer on the right. -/
def QueueThread.owner : QueueThread → Owner
  | .producer => .side .left
  | .consumer => .side .right
  | .closer number => .closer number

def Closer.stage : Closer → Library.Parking.Closer
  | .idle => .notify []
  | .lock => .lock
  | .unlock => .unlock
  | .notifyEmpty => .notify [.right, .left]
  | .notifyFull => .notify [.left]

namespace RingQueue

def parking (queue : RingQueue α) : System where
  mutex := queue.mutex.map QueueThread.owner
  closed := queue.closed
  stage := Side.both queue.producer.stage queue.consumer.stage
  waiting := Side.both queue.producerWaiting queue.consumerWaiting
  ready := Side.both queue.ring.hasSpace queue.ring.hasItem
  closers := fun number => (queue.closers number).stage

/-! ## Steps -/

section Moves

variable (queue : RingQueue α)

theorem pushAt_parking (point : PushPoint) (item : α) :
    (queue.pushAt point item).parking = queue.parking.go .left point.stage := by
  simp [parking, pushAt, System.go]

theorem pushReturns_parking (item : α) (answer : Bool) :
    (queue.pushReturns item answer).parking = queue.parking.go .left .running := by
  simp [parking, pushReturns, System.go]

theorem popAt_parking (point : PopPoint α) :
    (queue.popAt point).parking = queue.parking.go .right point.stage := by
  simp [parking, popAt, System.go]

theorem popReturns_parking (answer : Option α) :
    (queue.popReturns answer).parking = queue.parking.go .right .running := by
  simp [parking, popReturns, System.go]

theorem notifyEmpty_parking : queue.notifyEmpty.parking = queue.parking.wake .right := by
  unfold notifyEmpty System.wake
  split
  next asleep =>
    rw [popAt_parking, if_pos (by simp [parking, Side.both, asleep, PopPoint.stage])]
    rfl
  next awake => exact (if_neg fun asleep => awake (Consumer.eq_asleep asleep)).symm

theorem notifyFull_parking : queue.notifyFull.parking = queue.parking.wake .left := by
  unfold notifyFull System.wake
  split
  next item asleep =>
    rw [pushAt_parking, if_pos (by simp [parking, Side.both, asleep, PushPoint.stage])]
    rfl
  next awake =>
    refine (if_neg fun asleep => ?_).symm
    obtain ⟨item, asleep⟩ := Producer.eq_asleep asleep
    exact awake item asleep

theorem producerWaiting_parking (waiting : Bool) :
    { queue with producerWaiting := waiting }.parking = queue.parking.mark .left waiting := by
  simp [parking, System.mark]

theorem consumerWaiting_parking (waiting : Bool) :
    { queue with consumerWaiting := waiting }.parking = queue.parking.mark .right waiting := by
  simp [parking, System.mark]

theorem closeAt_parking (number : Nat) (closer : Closer) :
    (queue.closeAt number closer).parking = queue.parking.closeAt number closer.stage := by
  have same : (fun other => (Function.update queue.closers number closer other).stage) =
      Function.update (fun other => (queue.closers other).stage) number closer.stage := by
    funext other
    exact Function.apply_update (fun _ => Closer.stage) queue.closers number closer other
  simp [parking, closeAt, System.closeAt, same]

theorem pushFailed_stage (attempt : PushAttempt) :
    (queue.pushFailed attempt).stage = attempt.stage := by
  cases attempt with
  | first =>
      cases policy : queue.policy <;>
        simp [pushFailed, policy, PushPoint.stage, PushAttempt.stage]
  | spinning spin =>
      rw [pushFailed]
      split <;> rfl
  | locked => rfl

end Moves

theorem popFailed_stage (attempt : PopAttempt) :
    (popFailed attempt : PopPoint α).stage = attempt.stage := by
  cases attempt with
  | spinning spin =>
      rw [popFailed]
      split <;> rfl
  | locked wasClosed => cases wasClosed <;> rfl

/-- A store to the head is an announcement. -/
theorem park_storeHead {queue : RingQueue α} {attempt : PushAttempt} {item : α}
    (stage : queue.parking.stage .left = attempt.stage) (accepted : List α) :
    queue.parking.Step ({ queue with
      ring := queue.ring.storeHead
      accepted := accepted }.pushAt (pushPlaced attempt) item).parking := by
  rw [pushAt_parking]
  cases attempt with
  | first => exact .announce .left _ stage
  | spinning spin => exact .announce .left _ stage
  | locked => exact .announceHolding .left _ stage

theorem park_storeTail {queue : RingQueue α} {attempt : PopAttempt} {item : α}
    (stage : queue.parking.stage .right = attempt.stage) (taken : List α) :
    queue.parking.Step ({ queue with
      ring := queue.ring.storeTail
      taken := taken }.popAt (popTaken item attempt)).parking := by
  rw [popAt_parking]
  cases attempt with
  | spinning spin => exact .announce .right _ stage
  | locked wasClosed => exact .announceHolding .right _ stage

theorem park_pushStep {queue next : RingQueue α} {point : PushPoint} {item : α}
    (pushing : queue.producer = .pushing point item)
    (taken : queue.pushStep item point = some next) :
    queue.parking.Step next.parking := by
  have stage : queue.parking.stage .left = point.stage := by
    simp [parking, Side.both, pushing]
  cases point with
  | loadClosed =>
      obtain rfl := Option.some.inj taken
      split
      · rw [pushReturns_parking]
        exact System.step_go_self stage
      · rw [pushAt_parking]
        exact System.step_go_self stage
  | tryPush attempt =>
      obtain rfl := Option.some.inj taken
      rw [pushAt_parking]
      split <;> exact System.step_go_self stage
  | loadTail attempt =>
      obtain rfl := Option.some.inj taken
      rw [pushAt_parking]
      split
      · rw [pushFailed_stage]
        exact System.step_go_self stage
      · exact System.step_go_self stage
  | emplace attempt =>
      obtain rfl := Option.some.inj taken
      rw [pushAt_parking]
      exact System.step_go_self stage
  | storeHead attempt =>
      obtain rfl := Option.some.inj taken
      exact park_storeHead stage _
  | drop =>
      obtain rfl := Option.some.inj taken
      rw [pushReturns_parking]
      exact System.step_go_self stage
  | spinClosed spin =>
      obtain rfl := Option.some.inj taken
      split
      · rw [pushReturns_parking]
        exact System.step_go_self stage
      · rw [pushAt_parking]
        exact System.step_go_self stage
  | lock =>
      obtain ⟨free, rfl⟩ := acquire_map_eq_some.mp taken
      rw [pushAt_parking]
      exact .lock .left stage (by simp [parking, free])
  | setWaiting =>
      obtain rfl := Option.some.inj taken
      rw [pushAt_parking, producerWaiting_parking queue true]
      exact .set .left stage
  | waitClosed =>
      obtain rfl := Option.some.inj taken
      rw [pushAt_parking]
      split
      next => exact System.step_go_self stage
      next isOpen => exact .check .left stage (eq_false_of_ne_true isOpen)
  | waitSpace =>
      obtain rfl := Option.some.inj taken
      rw [pushAt_parking]
      split
      next => exact .pass .left stage
      next full => exact .commit .left stage (by simpa [parking, Side.both] using full)
  | wait =>
      obtain rfl := Option.some.inj taken
      rw [pushAt_parking]
      exact .sleep .left stage
  | asleep => cases taken
  | woken =>
      obtain ⟨free, rfl⟩ := acquire_map_eq_some.mp taken
      rw [pushAt_parking]
      exact .retake .left stage (by simp [parking, free])
  | clearWaiting =>
      obtain rfl := Option.some.inj taken
      rw [pushAt_parking, producerWaiting_parking queue false]
      exact .clear .left stage
  | lockedClosed =>
      obtain rfl := Option.some.inj taken
      rw [pushAt_parking]
      split <;> exact System.step_go_self stage
  | unlockRefused =>
      obtain rfl := Option.some.inj taken
      rw [pushReturns_parking]
      exact .unlock .left stage
  | unlockPushed =>
      obtain rfl := Option.some.inj taken
      rw [pushAt_parking]
      exact .announced .left stage
  | wakeLoad =>
      obtain rfl := Option.some.inj taken
      split
      next waiting =>
        rw [pushAt_parking]
        exact .seen .left stage waiting
      next awake =>
        rw [pushReturns_parking]
        exact .unseen .left stage (by simpa [parking, Side.both, Side.other] using awake)
  | wakeLock =>
      obtain ⟨free, rfl⟩ := acquire_map_eq_some.mp taken
      rw [pushAt_parking]
      exact .wakeLock .left stage (by simp [parking, free])
  | wakeUnlock =>
      obtain rfl := Option.some.inj taken
      rw [pushAt_parking]
      exact .wakeUnlock .left stage
  | wakeNotify =>
      obtain rfl := Option.some.inj taken
      rw [pushReturns_parking, notifyEmpty_parking]
      exact .wakeNotify .left stage

theorem park_popStep {queue next : RingQueue α} {point : PopPoint α}
    (popping : queue.consumer = .popping point) (taken : queue.popStep point = some next) :
    queue.parking.Step next.parking := by
  have stage : queue.parking.stage .right = point.stage := by
    simp [parking, Side.both, popping]
  cases point with
  | tryPop attempt =>
      obtain rfl := Option.some.inj taken
      rw [popAt_parking]
      split <;> exact System.step_go_self stage
  | loadHead attempt =>
      obtain rfl := Option.some.inj taken
      rw [popAt_parking]
      split
      · rw [popFailed_stage]
        exact System.step_go_self stage
      · exact System.step_go_self stage
  | moveSlot attempt =>
      obtain ⟨item, -, rfl⟩ := Option.map_eq_some_iff.mp taken
      rw [popAt_parking]
      exact System.step_go_self stage
  | resetSlot attempt item =>
      obtain rfl := Option.some.inj taken
      rw [popAt_parking]
      exact System.step_go_self stage
  | storeTail attempt item =>
      obtain rfl := Option.some.inj taken
      exact park_storeTail stage _
  | lock =>
      obtain ⟨free, rfl⟩ := acquire_map_eq_some.mp taken
      rw [popAt_parking]
      exact .lock .right stage (by simp [parking, free])
  | loadClosed =>
      obtain rfl := Option.some.inj taken
      rw [popAt_parking]
      exact System.step_go_self stage
  | unlockEmpty =>
      obtain rfl := Option.some.inj taken
      rw [popReturns_parking]
      exact .unlock .right stage
  | setWaiting =>
      obtain rfl := Option.some.inj taken
      rw [popAt_parking, consumerWaiting_parking queue true]
      exact .set .right stage
  | waitClosed =>
      obtain rfl := Option.some.inj taken
      rw [popAt_parking]
      split
      next => exact System.step_go_self stage
      next isOpen => exact .check .right stage (eq_false_of_ne_true isOpen)
  | waitItem =>
      obtain rfl := Option.some.inj taken
      rw [popAt_parking]
      split
      next => exact .pass .right stage
      next empty => exact .commit .right stage (by simpa [parking, Side.both] using empty)
  | wait =>
      obtain rfl := Option.some.inj taken
      rw [popAt_parking]
      exact .sleep .right stage
  | asleep => cases taken
  | woken =>
      obtain ⟨free, rfl⟩ := acquire_map_eq_some.mp taken
      rw [popAt_parking]
      exact .retake .right stage (by simp [parking, free])
  | clearWaiting =>
      obtain rfl := Option.some.inj taken
      rw [popAt_parking, consumerWaiting_parking queue false]
      exact .clear .right stage
  | unlockPopped item =>
      obtain rfl := Option.some.inj taken
      rw [popAt_parking]
      exact .announced .right stage
  | wakeLoad item =>
      obtain rfl := Option.some.inj taken
      split
      next waiting =>
        rw [popAt_parking]
        exact .seen .right stage waiting
      next awake =>
        rw [popReturns_parking]
        exact .unseen .right stage (by simpa [parking, Side.both, Side.other] using awake)
  | wakeLock item =>
      obtain ⟨free, rfl⟩ := acquire_map_eq_some.mp taken
      rw [popAt_parking]
      exact .wakeLock .right stage (by simp [parking, free])
  | wakeUnlock item =>
      obtain rfl := Option.some.inj taken
      rw [popAt_parking]
      exact .wakeUnlock .right stage
  | wakeNotify item =>
      obtain rfl := Option.some.inj taken
      rw [popReturns_parking, notifyFull_parking]
      exact .wakeNotify .right stage

theorem park_closeStep {queue next : RingQueue α} {number : Nat} {point : Closer}
    (closer : queue.closers number = point) (taken : queue.closeStep number point = some next) :
    queue.parking.Step next.parking := by
  have stage : queue.parking.closers number = point.stage := by
    simp [parking, closer]
  cases point with
  | idle => cases taken
  | lock =>
      obtain ⟨free, rfl⟩ := acquire_map_eq_some.mp taken
      rw [closeAt_parking]
      exact .closeLock number stage (by simp [parking, free])
  | unlock =>
      obtain rfl := Option.some.inj taken
      rw [closeAt_parking]
      exact .closeUnlock number _ stage (fun side => by cases side <;> simp)
  | notifyEmpty =>
      obtain rfl := Option.some.inj taken
      rw [closeAt_parking, notifyEmpty_parking]
      exact .closeNotify number .right _ stage
  | notifyFull =>
      obtain rfl := Option.some.inj taken
      rw [closeAt_parking, notifyFull_parking]
      exact .closeNotify number .left _ stage

/-- Every step of the queue is a step of its two parking sides and the closing threads. -/
theorem step_parking {queue next : RingQueue α} {input : Input α}
    (taken : queue.step input = some next) : queue.parking.Step next.parking := by
  rcases step_cases taken with ⟨item, -, idle, rfl⟩ | ⟨point, item, -, pushing, taken⟩ |
    ⟨-, idle, rfl⟩ | ⟨point, -, popping, taken⟩ | ⟨number, -, idle, rfl⟩ | ⟨number, -, taken⟩ |
    ⟨-, rfl⟩ | ⟨-, rfl⟩
  · rw [pushAt_parking]
    exact System.step_go_self (by simp [parking, Side.both, idle, PushPoint.stage])
  · exact park_pushStep pushing taken
  · rw [popAt_parking]
    exact System.step_go_self
      (by simp [parking, Side.both, idle, PopPoint.stage, PopAttempt.stage])
  · exact park_popStep popping taken
  · rw [closeAt_parking]
    exact .close number (by simp [parking, idle, Closer.stage])
  · exact park_closeStep rfl taken
  · rw [notifyFull_parking]
    exact .spurious .left
  · rw [notifyEmpty_parking]
    exact .spurious .right

theorem fresh_sound {capacity : UInt64} {policy : BackpressurePolicy} {start : RingQueue α}
    (made : fresh capacity policy = some start) : start.parking.Sound := by
  obtain ⟨ring, -, rfl⟩ := Option.map_eq_some_iff.mp made
  refine ⟨⟨fun side => ?_, fun number => ?_, fun side => ?_⟩, fun side => ?_⟩
  · cases side <;> simp [parking, initial, Side.both, Stage.holds]
  · simp [parking, initial, Closer.stage]
  · cases side <;> rfl
  · exact System.covered_of_awake (by cases side <;> rfl)

theorem run_sound {start finish : RingQueue α} {inputs : List (Input α)}
    (sound : start.parking.Sound)
    (reached : Library.Runs.run step start inputs = some finish) : finish.parking.Sound :=
  Library.Runs.invariant (fun queue => queue.parking.Sound)
    (fun holds taken => (step_parking taken).sound holds) sound reached

end RingQueue

/-! ## Who notifies -/

/-- The input that lets a thread take its next step. -/
def QueueThread.own : QueueThread → RingQueue.Input α
  | .producer => .producer
  | .consumer => .consumer
  | .closer number => .closer number

/-- The steps before the producer notifies a consumer whose flag is set. -/
def PushPoint.untilNotify : PushPoint → Option Nat
  | .unlockPushed => some 4
  | .wakeLoad => some 3
  | .wakeLock => some 2
  | .wakeUnlock => some 1
  | .wakeNotify => some 0
  | _ => none

/-- The steps before the consumer notifies a producer whose flag is set. -/
def PopPoint.untilNotify : PopPoint α → Option Nat
  | .unlockPopped _ => some 4
  | .wakeLoad _ => some 3
  | .wakeLock _ => some 2
  | .wakeUnlock _ => some 1
  | .wakeNotify _ => some 0
  | _ => none

def Closer.untilNotifyEmpty : Closer → Option Nat
  | .lock => some 2
  | .unlock => some 1
  | .notifyEmpty => some 0
  | _ => none

def Closer.untilNotifyFull : Closer → Option Nat
  | .lock => some 3
  | .unlock => some 2
  | .notifyEmpty => some 1
  | .notifyFull => some 0
  | .idle => none

namespace RingQueue

/-- The own steps of a thread before it notifies `not_empty_`. -/
def untilNotifyEmpty (queue : RingQueue α) : QueueThread → Option Nat
  | .producer =>
      match queue.producer with
      | .idle => none
      | .pushing point _ => point.untilNotify
  | .consumer => none
  | .closer number => (queue.closers number).untilNotifyEmpty

/-- The own steps of a thread before it notifies `not_full_`. -/
def untilNotifyFull (queue : RingQueue α) : QueueThread → Option Nat
  | .producer => none
  | .consumer =>
      match queue.consumer with
      | .idle => none
      | .popping point => point.untilNotify
  | .closer number => (queue.closers number).untilNotifyFull

/--
The thread is at a point from which it will notify.  Each own step brings it closer or is the
notification, no step of another thread leads it away, and it waits for nothing but the mutex,
whose owner can go on.
-/
structure WillNotify (untilNotify : RingQueue α → Option Nat) (woken : RingQueue α → Prop)
    (thread : QueueThread) (queue : RingQueue α) : Prop where
  steps : (untilNotify queue).isSome = true
  advances : ∀ next, queue.step thread.own = some next →
    (untilNotify queue = some 0 ∧ woken next) ∨
      ∃ steps, untilNotify queue = some (steps + 1) ∧ untilNotify next = some steps
  undisturbed : ∀ input next, input ≠ thread.own → queue.step input = some next →
    untilNotify next = untilNotify queue
  enabled : (∃ next, queue.step thread.own = some next) ∨
    ∃ owner, owner ≠ thread ∧ queue.mutex = some owner ∧ ∃ next, queue.step owner.own = some next

/-! ## The owner of the mutex goes on -/

theorem pushStep_of_holds (queue : RingQueue α) (item : α) {point : PushPoint}
    (holds : point.stage.holds = true) : ∃ next, queue.pushStep item point = some next := by
  cases point with
  | lock => cases holds
  | asleep => cases holds
  | woken => cases holds
  | wakeLock => cases holds
  | _ => exact ⟨_, rfl⟩

theorem popStep_of_holds {queue : RingQueue α} (consistent : RingView.Consistent queue.view)
    {point : PopPoint α} (popping : queue.consumer = .popping point)
    (holds : point.stage.holds = true) : ∃ next, queue.popStep point = some next := by
  cases point with
  | moveSlot attempt =>
      have reading : queue.view.consumer.reading = true := by
        simp [view, popping, PopPoint.phase, PopPhase.reading]
      obtain ⟨item, front, -⟩ := consistent.front_slot reading
      exact ⟨_, Option.map_eq_some_iff.mpr ⟨item, front, rfl⟩⟩
  | lock => cases holds
  | asleep => cases holds
  | woken => cases holds
  | wakeLock => cases holds
  | _ => exact ⟨_, rfl⟩

theorem owner_steps {queue : RingQueue α} (consistent : RingView.Consistent queue.view)
    (sound : queue.parking.Sound) {owner : QueueThread} (owns : queue.mutex = some owner) :
    ∃ next, queue.step owner.own = some next := by
  have owned := sound.owned
  have parked : queue.parking.mutex = some owner.owner := by simp [parking, owns]
  cases owner with
  | producer =>
      have holds := (owned.side .left).mp parked
      cases producer : queue.producer with
      | idle => simp [parking, Side.both, producer, Stage.holds] at holds
      | pushing point item =>
          obtain ⟨next, taken⟩ := queue.pushStep_of_holds item
            (by simpa [parking, Side.both, producer] using holds)
          exact ⟨next, by simpa [QueueThread.own, step, producer] using taken⟩
  | consumer =>
      have holds := (owned.side .right).mp parked
      cases consumer : queue.consumer with
      | idle => simp [parking, Side.both, consumer, Stage.holds] at holds
      | popping point =>
          obtain ⟨next, taken⟩ := popStep_of_holds consistent consumer
            (by simpa [parking, Side.both, consumer] using holds)
          exact ⟨next, by simpa [QueueThread.own, step, consumer] using taken⟩
  | closer number =>
      have unlock := (owned.closer number).mp parked
      cases closer : queue.closers number <;> simp [parking, closer, Closer.stage] at unlock
      exact ⟨queue.release.closeAt number .notifyEmpty, by
        simp [QueueThread.own, step, closer, closeStep]⟩

/-! ## Other threads do not lead a thread away -/

/-- Another thread does nothing to the consumer but wake it. -/
def ConsumerKept (queue next : RingQueue α) : Prop :=
  next.consumer = queue.consumer ∨
    (queue.consumer = .popping .asleep ∧ next.consumer = .popping .woken)

/-- Another thread does nothing to the producer but wake it. -/
def ProducerKept (queue next : RingQueue α) : Prop :=
  next.producer = queue.producer ∨
    ∃ item, queue.producer = .pushing .asleep item ∧ next.producer = .pushing .woken item

theorem ConsumerKept.untilNotify {queue next : RingQueue α} (kept : ConsumerKept queue next) :
    next.untilNotifyFull .consumer = queue.untilNotifyFull .consumer := by
  rcases kept with same | ⟨asleep, woken⟩
  · simp [untilNotifyFull, same]
  · simp [untilNotifyFull, asleep, woken, PopPoint.untilNotify]

theorem ProducerKept.untilNotify {queue next : RingQueue α} (kept : ProducerKept queue next) :
    next.untilNotifyEmpty .producer = queue.untilNotifyEmpty .producer := by
  rcases kept with same | ⟨item, asleep, woken⟩
  · simp [untilNotifyEmpty, same]
  · simp [untilNotifyEmpty, asleep, woken, PushPoint.untilNotify]

theorem notifyEmpty_frame (queue : RingQueue α) :
    ∃ consumer, queue.notifyEmpty = { queue with consumer := consumer } ∧
      ConsumerKept queue { queue with consumer := consumer } := by
  unfold notifyEmpty
  split
  next asleep => exact ⟨.popping .woken, rfl, .inr ⟨asleep, rfl⟩⟩
  next => exact ⟨queue.consumer, rfl, .inl rfl⟩

theorem notifyFull_frame (queue : RingQueue α) :
    ∃ producer, queue.notifyFull = { queue with producer := producer } ∧
      ProducerKept queue { queue with producer := producer } := by
  unfold notifyFull
  split
  next item asleep => exact ⟨.pushing .woken item, rfl, .inr ⟨item, asleep, rfl⟩⟩
  next => exact ⟨queue.producer, rfl, .inl rfl⟩

theorem pushStep_frame {queue next : RingQueue α} {point : PushPoint} {item : α}
    (taken : queue.pushStep item point = some next) :
    (next.closers = queue.closers ∧ next.closed = queue.closed ∧ next.pops = queue.pops) ∧
      ConsumerKept queue next := by
  cases point with
  | lock | woken | wakeLock =>
      obtain ⟨-, rfl⟩ := acquire_map_eq_some.mp taken
      exact ⟨⟨rfl, rfl, rfl⟩, .inl rfl⟩
  | asleep => cases taken
  | loadClosed | spinClosed | wakeLoad =>
      obtain rfl := Option.some.inj taken
      split <;> exact ⟨⟨rfl, rfl, rfl⟩, .inl rfl⟩
  | wakeNotify =>
      obtain rfl := Option.some.inj taken
      obtain ⟨consumer, notified, kept⟩ := queue.notifyEmpty_frame
      rw [notified]
      exact ⟨⟨rfl, rfl, rfl⟩, kept⟩
  | _ =>
      obtain rfl := Option.some.inj taken
      exact ⟨⟨rfl, rfl, rfl⟩, .inl rfl⟩

theorem popStep_frame {queue next : RingQueue α} {point : PopPoint α}
    (taken : queue.popStep point = some next) :
    (next.closers = queue.closers ∧ next.closed = queue.closed ∧ next.pushes = queue.pushes ∧
      next.accepted = queue.accepted ∧ next.dropped = queue.dropped ∧
      next.policy = queue.policy) ∧ ProducerKept queue next := by
  cases point with
  | lock | woken | wakeLock =>
      obtain ⟨-, rfl⟩ := acquire_map_eq_some.mp taken
      exact ⟨⟨rfl, rfl, rfl, rfl, rfl, rfl⟩, .inl rfl⟩
  | moveSlot attempt =>
      obtain ⟨item, -, rfl⟩ := Option.map_eq_some_iff.mp taken
      exact ⟨⟨rfl, rfl, rfl, rfl, rfl, rfl⟩, .inl rfl⟩
  | asleep => cases taken
  | wakeLoad item =>
      obtain rfl := Option.some.inj taken
      split <;> exact ⟨⟨rfl, rfl, rfl, rfl, rfl, rfl⟩, .inl rfl⟩
  | wakeNotify item =>
      obtain rfl := Option.some.inj taken
      obtain ⟨producer, notified, kept⟩ := queue.notifyFull_frame
      rw [notified]
      exact ⟨⟨rfl, rfl, rfl, rfl, rfl, rfl⟩, kept⟩
  | _ =>
      obtain rfl := Option.some.inj taken
      exact ⟨⟨rfl, rfl, rfl, rfl, rfl, rfl⟩, .inl rfl⟩

theorem closeStep_frame {queue next : RingQueue α} {number : Nat} {point : Closer}
    (taken : queue.closeStep number point = some next) :
    (∀ other ≠ number, next.closers other = queue.closers other) ∧
      (next.ring = queue.ring ∧ next.closed = queue.closed ∧ next.pops = queue.pops) ∧
      ProducerKept queue next ∧ ConsumerKept queue next := by
  cases point with
  | idle => cases taken
  | lock =>
      obtain ⟨-, rfl⟩ := acquire_map_eq_some.mp taken
      exact ⟨fun other different => Function.update_of_ne different _ _, ⟨rfl, rfl, rfl⟩,
        .inl rfl, .inl rfl⟩
  | unlock =>
      obtain rfl := Option.some.inj taken
      exact ⟨fun other different => Function.update_of_ne different _ _, ⟨rfl, rfl, rfl⟩,
        .inl rfl, .inl rfl⟩
  | notifyEmpty =>
      obtain rfl := Option.some.inj taken
      obtain ⟨consumer, notified, kept⟩ := queue.notifyEmpty_frame
      rw [notified]
      exact ⟨fun other different => Function.update_of_ne different _ _, ⟨rfl, rfl, rfl⟩,
        .inl rfl, kept⟩
  | notifyFull =>
      obtain rfl := Option.some.inj taken
      obtain ⟨producer, notified, kept⟩ := queue.notifyFull_frame
      rw [notified]
      exact ⟨fun other different => Function.update_of_ne different _ _, ⟨rfl, rfl, rfl⟩,
        kept, .inl rfl⟩

theorem producer_undisturbed {queue next : RingQueue α} {input : Input α}
    (other : input ≠ .producer) (taken : queue.step input = some next) :
    next.untilNotifyEmpty .producer = queue.untilNotifyEmpty .producer := by
  rcases step_cases taken with ⟨item, -, idle, rfl⟩ | ⟨point, item, rfl, -, -⟩ |
    ⟨-, idle, rfl⟩ | ⟨point, -, popping, taken⟩ | ⟨number, -, idle, rfl⟩ | ⟨number, -, taken⟩ |
    ⟨-, rfl⟩ | ⟨-, rfl⟩
  · simp [untilNotifyEmpty, pushAt, idle, PushPoint.untilNotify]
  · exact absurd rfl other
  · rfl
  · exact (popStep_frame taken).2.untilNotify
  · rfl
  · exact (closeStep_frame taken).2.2.1.untilNotify
  · obtain ⟨producer, notified, kept⟩ := queue.notifyFull_frame
    rw [notified]
    exact kept.untilNotify
  · obtain ⟨consumer, notified, -⟩ := queue.notifyEmpty_frame
    rw [notified]
    rfl

theorem consumer_undisturbed {queue next : RingQueue α} {input : Input α}
    (other : input ≠ .consumer) (taken : queue.step input = some next) :
    next.untilNotifyFull .consumer = queue.untilNotifyFull .consumer := by
  rcases step_cases taken with ⟨item, -, idle, rfl⟩ | ⟨point, item, -, pushing, taken⟩ |
    ⟨-, idle, rfl⟩ | ⟨point, rfl, -, -⟩ | ⟨number, -, idle, rfl⟩ | ⟨number, -, taken⟩ |
    ⟨-, rfl⟩ | ⟨-, rfl⟩
  · rfl
  · exact (pushStep_frame taken).2.untilNotify
  · simp [untilNotifyFull, popAt, idle, PopPoint.untilNotify]
  · exact absurd rfl other
  · rfl
  · exact (closeStep_frame taken).2.2.2.untilNotify
  · obtain ⟨producer, notified, -⟩ := queue.notifyFull_frame
    rw [notified]
    rfl
  · obtain ⟨consumer, notified, kept⟩ := queue.notifyEmpty_frame
    rw [notified]
    exact kept.untilNotify

theorem closer_undisturbed {queue next : RingQueue α} {input : Input α} {number : Nat}
    (other : input ≠ .closer number) (closing : queue.closers number ≠ .idle)
    (taken : queue.step input = some next) : next.closers number = queue.closers number := by
  rcases step_cases taken with ⟨item, -, idle, rfl⟩ | ⟨point, item, -, pushing, taken⟩ |
    ⟨-, idle, rfl⟩ | ⟨point, -, popping, taken⟩ | ⟨started, -, idle, rfl⟩ | ⟨moved, rfl, taken⟩ |
    ⟨-, rfl⟩ | ⟨-, rfl⟩
  · rfl
  · rw [(pushStep_frame taken).1.1]
  · rfl
  · rw [(popStep_frame taken).1.1]
  · have different : number ≠ started := fun same => closing (same ▸ idle)
    exact Function.update_of_ne different _ _
  · have different : number ≠ moved := fun same => other (same ▸ rfl)
    exact (closeStep_frame taken).1 number different
  · obtain ⟨producer, notified, -⟩ := queue.notifyFull_frame
    rw [notified]
  · obtain ⟨consumer, notified, -⟩ := queue.notifyEmpty_frame
    rw [notified]

/-! ## Threads that will notify -/

theorem enabled_of_free {queue : RingQueue α} (consistent : RingView.Consistent queue.view)
    (sound : queue.parking.Sound) {thread : QueueThread}
    (free : queue.mutex = none ∨ queue.mutex = some thread →
      ∃ next, queue.step thread.own = some next) :
    (∃ next, queue.step thread.own = some next) ∨
      ∃ owner, owner ≠ thread ∧ queue.mutex = some owner ∧
        ∃ next, queue.step owner.own = some next := by
  cases mutex : queue.mutex with
  | none => exact .inl (free (.inl mutex))
  | some owner =>
      by_cases same : owner = thread
      · exact .inl (free (.inr (same ▸ mutex)))
      · exact .inr ⟨owner, same, rfl, owner_steps consistent sound mutex⟩

theorem pushStep_advances {queue next : RingQueue α} {point : PushPoint} {item : α}
    (asleep : queue.consumer = .popping .asleep) (waiting : queue.consumerWaiting = true)
    (steps : point.untilNotify.isSome = true) (taken : queue.pushStep item point = some next) :
    (point.untilNotify = some 0 ∧ next.consumer = .popping .woken) ∨
      ∃ steps, point.untilNotify = some (steps + 1) ∧
        next.untilNotifyEmpty .producer = some steps := by
  cases point with
  | unlockPushed =>
      obtain rfl := Option.some.inj taken
      exact .inr ⟨3, rfl, rfl⟩
  | wakeLoad =>
      obtain rfl := Option.some.inj taken
      rw [if_pos waiting]
      exact .inr ⟨2, rfl, rfl⟩
  | wakeLock =>
      obtain ⟨-, rfl⟩ := acquire_map_eq_some.mp taken
      exact .inr ⟨1, rfl, rfl⟩
  | wakeUnlock =>
      obtain rfl := Option.some.inj taken
      exact .inr ⟨0, rfl, rfl⟩
  | wakeNotify =>
      obtain rfl := Option.some.inj taken
      exact .inl ⟨rfl, by simp [pushReturns, notifyEmpty, asleep, popAt]⟩
  | _ => cases steps

theorem producer_willNotify {queue : RingQueue α} (consistent : RingView.Consistent queue.view)
    (sound : queue.parking.Sound) (asleep : queue.consumer = .popping .asleep)
    (steps : (queue.untilNotifyEmpty .producer).isSome = true) :
    WillNotify (·.untilNotifyEmpty .producer) (·.consumer = .popping .woken) .producer queue := by
  have waiting : queue.consumerWaiting = true := by
    simpa [parking, Side.both, asleep, PopPoint.stage, Stage.waits] using sound.owned.flag .right
  cases producer : queue.producer with
  | idle => simp [untilNotifyEmpty, producer] at steps
  | pushing point item =>
      have here : queue.untilNotifyEmpty .producer = point.untilNotify := by
        simp [untilNotifyEmpty, producer]
      have own : queue.step QueueThread.producer.own = queue.pushStep item point := by
        simp [QueueThread.own, step, producer]
      refine ⟨steps, fun next taken => ?_, fun _ _ => producer_undisturbed,
        enabled_of_free consistent sound fun free => ?_⟩
      · rw [here] at steps ⊢
        exact pushStep_advances asleep waiting steps (own ▸ taken)
      · rw [own]
        rw [here] at steps
        cases point with
        | wakeLock =>
            have outside : queue.mutex ≠ some .producer := fun owns => by
              have holds := (sound.owned.side .left).mp (by simp [parking, owns, QueueThread.owner])
              simp [parking, Side.both, producer, PushPoint.stage, Stage.holds] at holds
            have free := free.resolve_right outside
            exact ⟨_, acquire_map_eq_some.mpr ⟨free, rfl⟩⟩
        | unlockPushed | wakeLoad | wakeUnlock | wakeNotify => exact ⟨_, rfl⟩
        | _ => cases steps

theorem popStep_advances {queue next : RingQueue α} {point : PopPoint α} {item : α}
    (asleep : queue.producer = .pushing .asleep item) (waiting : queue.producerWaiting = true)
    (steps : point.untilNotify.isSome = true) (taken : queue.popStep point = some next) :
    (point.untilNotify = some 0 ∧ next.producer = .pushing .woken item) ∨
      ∃ steps, point.untilNotify = some (steps + 1) ∧
        next.untilNotifyFull .consumer = some steps := by
  cases point with
  | unlockPopped found =>
      obtain rfl := Option.some.inj taken
      exact .inr ⟨3, rfl, rfl⟩
  | wakeLoad found =>
      obtain rfl := Option.some.inj taken
      rw [if_pos waiting]
      exact .inr ⟨2, rfl, rfl⟩
  | wakeLock found =>
      obtain ⟨-, rfl⟩ := acquire_map_eq_some.mp taken
      exact .inr ⟨1, rfl, rfl⟩
  | wakeUnlock found =>
      obtain rfl := Option.some.inj taken
      exact .inr ⟨0, rfl, rfl⟩
  | wakeNotify found =>
      obtain rfl := Option.some.inj taken
      exact .inl ⟨rfl, by simp [popReturns, notifyFull, asleep, pushAt]⟩
  | _ => cases steps

theorem consumer_willNotify {queue : RingQueue α} (consistent : RingView.Consistent queue.view)
    (sound : queue.parking.Sound) {item : α} (asleep : queue.producer = .pushing .asleep item)
    (steps : (queue.untilNotifyFull .consumer).isSome = true) :
    WillNotify (·.untilNotifyFull .consumer) (·.producer = .pushing .woken item) .consumer
      queue := by
  have waiting : queue.producerWaiting = true := by
    simpa [parking, Side.both, asleep, PushPoint.stage, Stage.waits] using sound.owned.flag .left
  cases consumer : queue.consumer with
  | idle => simp [untilNotifyFull, consumer] at steps
  | popping point =>
      have here : queue.untilNotifyFull .consumer = point.untilNotify := by
        simp [untilNotifyFull, consumer]
      have own : queue.step QueueThread.consumer.own = queue.popStep point := by
        simp [QueueThread.own, step, consumer]
      refine ⟨steps, fun next taken => ?_, fun _ _ => consumer_undisturbed,
        enabled_of_free consistent sound fun free => ?_⟩
      · rw [here] at steps ⊢
        exact popStep_advances asleep waiting steps (own ▸ taken)
      · rw [own]
        rw [here] at steps
        cases point with
        | wakeLock found =>
            have outside : queue.mutex ≠ some .consumer := fun owns => by
              have holds := (sound.owned.side .right).mp
                (by simp [parking, owns, QueueThread.owner])
              simp [parking, Side.both, consumer, PopPoint.stage, Stage.holds] at holds
            have free := free.resolve_right outside
            exact ⟨_, acquire_map_eq_some.mpr ⟨free, rfl⟩⟩
        | unlockPopped | wakeLoad | wakeUnlock | wakeNotify => exact ⟨_, rfl⟩
        | _ => cases steps

theorem closer_enabled {queue : RingQueue α} (consistent : RingView.Consistent queue.view)
    (sound : queue.parking.Sound) {number : Nat} (closing : queue.closers number ≠ .idle) :
    (∃ next, queue.step (QueueThread.closer number).own = some next) ∨
      ∃ owner, owner ≠ .closer number ∧ queue.mutex = some owner ∧
        ∃ next, queue.step owner.own = some next := by
  refine enabled_of_free consistent sound fun free => ?_
  show ∃ next, queue.closeStep number (queue.closers number) = some next
  cases closer : queue.closers number with
  | idle => exact absurd closer closing
  | lock =>
      have outside : queue.mutex ≠ some (.closer number) := fun owns => by
        have unlock := (sound.owned.closer number).mp
          (by simp [parking, owns, QueueThread.owner])
        simp [parking, closer, Closer.stage] at unlock
      have free := free.resolve_right outside
      exact ⟨_, acquire_map_eq_some.mpr ⟨free, rfl⟩⟩
  | _ => exact ⟨_, rfl⟩

/-- One step of a closing thread that has not returned. -/
theorem closeStep_advances {queue next : RingQueue α} {number : Nat} {point : Closer}
    (taken : queue.closeStep number point = some next) :
    (point = .lock ∧ next.closers number = .unlock) ∨
      (point = .unlock ∧ next.closers number = .notifyEmpty) ∨
      (point = .notifyEmpty ∧ next.closers number = .notifyFull ∧
        (queue.consumer = .popping .asleep → next.consumer = .popping .woken)) ∨
      (point = .notifyFull ∧ next.closers number = .idle ∧
        ∀ item, queue.producer = .pushing .asleep item →
          next.producer = .pushing .woken item) := by
  cases point with
  | idle => cases taken
  | lock =>
      obtain ⟨_, acquired, rfl⟩ := Option.map_eq_some_iff.mp taken
      exact .inl ⟨rfl, by simp [closeAt]⟩
  | unlock =>
      obtain rfl := Option.some.inj taken
      exact .inr (.inl ⟨rfl, by simp [closeAt]⟩)
  | notifyEmpty =>
      obtain rfl := Option.some.inj taken
      refine .inr (.inr (.inl ⟨rfl, by simp [closeAt], fun asleep => ?_⟩))
      simp [closeAt, notifyEmpty, asleep, popAt]
  | notifyFull =>
      obtain rfl := Option.some.inj taken
      refine .inr (.inr (.inr ⟨rfl, by simp [closeAt], fun item asleep => ?_⟩))
      simp [closeAt, notifyFull, asleep, pushAt]

theorem closer_willNotifyEmpty {queue : RingQueue α}
    (consistent : RingView.Consistent queue.view) (sound : queue.parking.Sound)
    (asleep : queue.consumer = .popping .asleep) {number : Nat}
    (steps : (queue.untilNotifyEmpty (.closer number)).isSome = true) :
    WillNotify (·.untilNotifyEmpty (.closer number)) (·.consumer = .popping .woken)
      (.closer number) queue := by
  have closing : queue.closers number ≠ .idle := fun idle => by
    simp [untilNotifyEmpty, idle, Closer.untilNotifyEmpty] at steps
  refine ⟨steps, fun next taken => ?_, fun input next other taken => ?_,
    closer_enabled consistent sound closing⟩
  · simp only [untilNotifyEmpty] at steps ⊢
    rcases closeStep_advances taken with ⟨here, goes⟩ | ⟨here, goes⟩ | ⟨here, -, wakes⟩ |
      ⟨here, -, -⟩
    · exact .inr ⟨1, by rw [here]; rfl, by rw [goes]; rfl⟩
    · exact .inr ⟨0, by rw [here]; rfl, by rw [goes]; rfl⟩
    · exact .inl ⟨by rw [here]; rfl, wakes asleep⟩
    · rw [here] at steps
      cases steps
  · exact congrArg Closer.untilNotifyEmpty (closer_undisturbed other closing taken)

theorem closer_willNotifyFull {queue : RingQueue α}
    (consistent : RingView.Consistent queue.view) (sound : queue.parking.Sound) {item : α}
    (asleep : queue.producer = .pushing .asleep item) {number : Nat}
    (steps : (queue.untilNotifyFull (.closer number)).isSome = true) :
    WillNotify (·.untilNotifyFull (.closer number)) (·.producer = .pushing .woken item)
      (.closer number) queue := by
  have closing : queue.closers number ≠ .idle := fun idle => by
    simp [untilNotifyFull, idle, Closer.untilNotifyFull] at steps
  refine ⟨steps, fun next taken => ?_, fun input next other taken => ?_,
    closer_enabled consistent sound closing⟩
  · simp only [untilNotifyFull]
    rcases closeStep_advances taken with ⟨here, goes⟩ | ⟨here, goes⟩ | ⟨here, goes, -⟩ |
      ⟨here, -, wakes⟩
    · exact .inr ⟨2, by rw [here]; rfl, by rw [goes]; rfl⟩
    · exact .inr ⟨1, by rw [here]; rfl, by rw [goes]; rfl⟩
    · exact .inr ⟨0, by rw [here]; rfl, by rw [goes]; rfl⟩
    · exact .inl ⟨by rw [here]; rfl, wakes item asleep⟩
  · exact congrArg Closer.untilNotifyFull (closer_undisturbed other closing taken)

/-! ## No wake-up is lost -/

theorem producer_untilNotify {queue : RingQueue α}
    (wakes : (queue.parking.stage .left).wakes = true) :
    (queue.untilNotifyEmpty .producer).isSome = true := by
  simp only [parking, Side.both] at wakes
  cases producer : queue.producer with
  | idle => simp [producer, Stage.wakes] at wakes
  | pushing point item =>
      rw [producer, Producer.stage_pushing] at wakes
      simp only [untilNotifyEmpty, producer]
      cases point with
      | tryPush attempt | loadTail attempt | emplace attempt | storeHead attempt =>
          cases attempt <;> cases wakes
      | unlockPushed | wakeLoad | wakeLock | wakeUnlock | wakeNotify => rfl
      | _ => cases wakes

theorem consumer_untilNotify {queue : RingQueue α}
    (wakes : (queue.parking.stage .right).wakes = true) :
    (queue.untilNotifyFull .consumer).isSome = true := by
  simp only [parking, Side.both] at wakes
  cases consumer : queue.consumer with
  | idle => simp [consumer, Stage.wakes] at wakes
  | popping point =>
      rw [consumer, Consumer.stage_popping] at wakes
      simp only [untilNotifyFull, consumer]
      cases point with
      | tryPop attempt | loadHead attempt | moveSlot attempt | resetSlot attempt
      | storeTail attempt => cases attempt <;> cases wakes
      | unlockPopped | wakeLoad | wakeLock | wakeUnlock | wakeNotify => rfl
      | _ => cases wakes

/--
Whoever sleeps although there is an item, or space, or although the queue is closed, sleeps only
until a thread that is on its way notifies it.
-/
theorem no_lost_wake_up {capacity : UInt64} {policy : BackpressurePolicy}
    {start queue : RingQueue α} {inputs : List (Input α)}
    (made : fresh capacity policy = some start)
    (reached : Library.Runs.run step start inputs = some queue) :
    (queue.consumer = .popping .asleep → queue.ring.hasItem = true ∨ queue.closed = true →
      ∃ thread, WillNotify (·.untilNotifyEmpty thread) (·.consumer = .popping .woken) thread
        queue) ∧
    ∀ item, queue.producer = .pushing .asleep item →
      queue.ring.hasSpace = true ∨ queue.closed = true →
      ∃ thread, WillNotify (·.untilNotifyFull thread) (·.producer = .pushing .woken item) thread
        queue := by
  have consistent := run_consistent (fresh_consistent made) reached
  have sound := run_sound (fresh_sound made) reached
  constructor
  · intro asleep need
    have stage : queue.parking.stage .right = .asleep := by
      simp [parking, Side.both, asleep, PopPoint.stage]
    have covered := sound.covered .right
    rcases need with item | closed
    · exact ⟨.producer, producer_willNotify consistent sound asleep
        (producer_untilNotify (covered.asleep_ready stage item))⟩
    · obtain ⟨number, notifies⟩ := covered.asleep_closed stage closed
      refine ⟨.closer number, closer_willNotifyEmpty consistent sound asleep ?_⟩
      cases closer : queue.closers number <;>
        simp [parking, closer, Closer.stage, Library.Parking.Closer.notifies] at notifies <;>
        simp [untilNotifyEmpty, closer, Closer.untilNotifyEmpty]
  · intro item asleep need
    have stage : queue.parking.stage .left = .asleep := by
      simp [parking, Side.both, asleep, PushPoint.stage]
    have covered := sound.covered .left
    rcases need with space | closed
    · exact ⟨.consumer, consumer_willNotify consistent sound asleep
        (consumer_untilNotify (covered.asleep_ready stage space))⟩
    · obtain ⟨number, notifies⟩ := covered.asleep_closed stage closed
      refine ⟨.closer number, closer_willNotifyFull consistent sound asleep ?_⟩
      cases closer : queue.closers number <;>
        simp [parking, closer, Closer.stage, Library.Parking.Closer.notifies] at notifies <;>
        simp [untilNotifyFull, closer, Closer.untilNotifyFull]

/-- The consumer finds nothing, spins, parks and sleeps; then an item is pushed. -/
def sleepThenPush : List (Input Nat) :=
  .pop :: List.replicate 136 .consumer ++ .push 7 :: List.replicate 4 .producer

theorem no_lost_wake_up_push :
    ∃ start queue : RingQueue Nat, fresh 1 .block = some start ∧
      Library.Runs.run step start sleepThenPush = some queue ∧
      queue.consumer = .popping .asleep ∧ queue.ring.hasItem = true ∧
      ∃ thread, WillNotify (·.untilNotifyEmpty thread) (·.consumer = .popping .woken) thread
        queue := by
  have test : ((fresh 1 .block : Option (RingQueue Nat)).bind
      (Library.Runs.run step · sleepThenPush)).any
        (fun queue => queue.consumer == .popping .asleep && queue.ring.hasItem) = true := by
    decide +kernel
  obtain ⟨queue, run, passed⟩ := (Option.any_eq_true _ _).mp test
  obtain ⟨start, made, reached⟩ := Option.bind_eq_some_iff.mp run
  simp only [Bool.and_eq_true, beq_iff_eq] at passed
  exact ⟨start, queue, made, reached, passed.1, passed.2,
    (no_lost_wake_up made reached).1 passed.1 (.inl passed.2)⟩

end RingQueue

end Ssim.Core
