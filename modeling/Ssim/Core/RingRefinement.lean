import Ssim.Core.RingClosing

/-!
# The ring queue as a bounded queue

Calls made one after the other return what the bounded queue returns, as long as the bounded
queue does not wait.  The items of concurrent calls are kept in order, within the capacity, and
none is lost when the producer closes the queue.
-/

namespace Ssim.Core

open RingView (Consistent)
open Library.Parking (Side Stage)

variable {α : Type}

/-! ## Calls one after the other -/

inductive QueueCall (α : Type) where
  | push (item : α)
  | pop
  | close
  | size
  | droppedCount
  | closed
  deriving Repr, DecidableEq

inductive QueueAnswer (α : Type) where
  | pushed (taken : Bool)
  | popped (found : Option α)
  | done
  | size (count : Nat)
  | droppedCount (count : Nat)
  | closed (isClosed : Bool)
  deriving Repr, DecidableEq

/-- `none` while the call waits. -/
def BoundedQueue.call (queue : BoundedQueue α) :
    QueueCall α → Option (QueueAnswer α × BoundedQueue α)
  | .push item => (queue.push item).map fun result => (.pushed result.1, result.2)
  | .pop => queue.pop.map fun result => (.popped result.1, result.2)
  | .close => some (.done, queue.close)
  | .size => some (.size queue.items.length, queue)
  | .droppedCount => some (.droppedCount queue.dropped, queue)
  | .closed => some (.closed queue.closed, queue)

namespace RingQueue

def closerIdle (number : Nat) (queue : RingQueue α) : Bool :=
  match queue.closers number with
  | .idle => true
  | _ => false

/-- The steps of the call, to its return. -/
def call (queue : RingQueue α) : QueueCall α → Option (QueueAnswer α × RingQueue α)
  | .push item => do
      let queue ← queue.step (.push item)
      let queue ← untilIdle producerIdle .producer callSteps queue
      let push ← queue.pushes.getLast?
      some (.pushed push.2, queue)
  | .pop => do
      let queue ← queue.step .pop
      let queue ← untilIdle consumerIdle .consumer callSteps queue
      let found ← queue.pops.getLast?
      some (.popped found, queue)
  | .close => do
      let queue ← queue.step (.close 0)
      let queue ← untilIdle (closerIdle 0) (.closer 0) callSteps queue
      some (.done, queue)
  | .size => some (.size queue.ring.size.toNat, queue)
  | .droppedCount => some (.droppedCount queue.dropped, queue)
  | .closed => some (.closed queue.closed, queue)

end RingQueue

/-- The answers of a sequential program, if no call waits. -/
def runCalls {Queue : Type} (call : Queue → QueueCall α → Option (QueueAnswer α × Queue))
    (queue : Queue) : List (QueueCall α) → Option (List (QueueAnswer α))
  | [] => some []
  | first :: rest => do
      let (answer, queue) ← call queue first
      let answers ← runCalls call queue rest
      some (answer :: answers)

/-! ## The relation between the two queues -/

namespace RingQueue

/-- No call is under way. -/
structure Settled (queue : RingQueue α) : Prop where
  consistent : Consistent queue.view
  sound : queue.parking.Sound
  producer : queue.producer = .idle
  consumer : queue.consumer = .idle
  closers : ∀ number, queue.closers number = .idle

structure Related (bounded : BoundedQueue α) (queue : RingQueue α) : Prop where
  settled : Settled queue
  capacity : bounded.capacity = queue.ring.capacity.toNat
  policy : bounded.policy = queue.policy
  items : bounded.items = queue.accepted.drop queue.taken.length
  dropped : bounded.dropped = queue.dropped
  closed : bounded.closed = queue.closed

section Related

variable {bounded after : BoundedQueue α} {queue finish : RingQueue α}

theorem Related.hasItem_iff (related : Related bounded queue) :
    queue.ring.hasItem = true ↔ bounded.items ≠ [] := by
  rw [RingQueue.hasItem_iff related.settled.consistent, related.items, Ne, List.drop_eq_nil_iff,
    Nat.not_le]

theorem Related.hasSpace_iff (related : Related bounded queue) :
    queue.ring.hasSpace = true ↔ bounded.items.length < bounded.capacity := by
  rw [RingQueue.hasSpace_iff related.settled.consistent, related.items, related.capacity,
    List.length_drop]

/-- A thread's own steps from a settled queue to a settled queue. -/
theorem Settled.of_run (settled : Settled queue) {inputs : List (Input α)}
    (reached : Library.Runs.run step queue inputs = some finish)
    (producer : finish.producer = .idle) (consumer : finish.consumer = .idle)
    (closers : ∀ number, finish.closers number = .idle) : Settled finish :=
  ⟨run_consistent settled.consistent reached, run_sound settled.sound reached, producer, consumer,
    closers⟩

theorem run_of_call {idle : RingQueue α → Bool} {first own : Input α} {middle : RingQueue α}
    {fuel : Nat} (started : queue.step first = some middle)
    (returned : untilIdle idle own fuel middle = some finish) :
    ∃ steps, Library.Runs.run step queue (first :: List.replicate steps own) = some finish := by
  obtain ⟨steps, reached⟩ := run_of_untilIdle returned
  exact ⟨steps, by rw [Library.Runs.run_cons, started]; exact reached⟩

/-! ## Pop -/

/-- A pop of a settled queue that need not wait. -/
theorem Settled.pop (settled : Settled queue)
    (sure : queue.closed = true ∨ queue.ring.hasItem = true) :
    ∃ finish steps, queue.call .pop = some (.popped queue.due, finish) ∧
      Library.Runs.run step queue (.pop :: List.replicate steps .consumer) = some finish ∧
      Settled finish ∧ PopFrame queue finish ∧ finish.pops = queue.pops ++ [queue.due] ∧
      finish.taken = queue.taken ++ queue.due.toList := by
  have started : queue.step .pop = some (queue.popAt (.tryPop (.spinning 0))) := by
    simp [step, settled.consumer]
  have draining : Draining (queue.popAt (.tryPop (.spinning 0))) :=
    { consistent := (step_view started).consistent settled.consistent
      sound := (step_parking started).sound settled.sound
      producer := settled.producer
      closers := settled.closers
      sure := sure.imp_right .inl
      ended := by simp [popAt] }
  have due : (queue.popAt (.tryPop (.spinning 0))).due = queue.due := by
    simp [RingQueue.due, popAt, settled.consumer, PopPoint.phase]
  obtain ⟨finish, returned, idle, pops, frame⟩ := draining.returns rfl (rank_lt_callSteps _ _)
  rw [due] at pops
  have frame : PopFrame queue finish :=
    ⟨frame.closers, frame.closed, frame.producer, frame.pushes, frame.accepted, frame.dropped,
      frame.policy⟩
  obtain ⟨steps, reached⟩ := run_of_call started returned
  have finished := settled.of_run reached (frame.producer.trans settled.producer) idle
    (by rw [frame.closers]; exact settled.closers)
  have pops : finish.pops = queue.pops ++ [queue.due] := pops
  refine ⟨finish, steps, ?_, reached, finished, frame, pops, ?_⟩
  · simp [call, started, returned, pops]
  · have before := settled.consistent.received
    have later := finished.consistent.received
    simp only [view, settled.consumer, idle, Consumer.phase_idle, PopPhase.unanswered,
      List.append_nil] at before later
    rw [← later, ← before, pops, List.reduceOption_append]
    cases queue.due <;> rfl

theorem Related.pop (related : Related bounded queue) {found : Option α}
    (popped : bounded.pop = some (found, after)) :
    ∃ finish, queue.call .pop = some (.popped found, finish) ∧ Related after finish := by
  have settled := related.settled
  have due : queue.due = bounded.items.head? := by
    rw [due_of_not_holding (by simp [settled.consumer, PopPhase.unanswered]), related.items,
      List.head?_drop]
  rcases BoundedQueue.pop_eq_some popped with ⟨item, rfl, cut, same⟩ | ⟨rfl, empty, closed, rfl⟩
  · have item : queue.ring.hasItem = true := related.hasItem_iff.mpr (by simp [cut])
    obtain ⟨finish, _, called, reached, finished, frame, -, taken⟩ := settled.pop (.inr item)
    rw [due, cut, List.head?_cons] at called taken
    refine ⟨finish, called, finished, ?_, ?_, ?_, ?_, ?_⟩
    · rw [same, run_capacity reached]
      exact related.capacity
    · rw [same, frame.policy]
      exact related.policy
    · have rest : after.items = bounded.items.tail := by rw [cut]; rfl
      rw [rest, related.items, taken, frame.accepted, List.tail_drop]
      simp
    · rw [same, frame.dropped]
      exact related.dropped
    · rw [same, frame.closed]
      exact related.closed
  · obtain ⟨finish, _, called, reached, finished, frame, -, taken⟩ :=
      settled.pop (.inl (related.closed ▸ closed))
    rw [due, empty, List.head?_nil] at called taken
    refine ⟨finish, called, finished, ?_, ?_, ?_, ?_, ?_⟩
    · rw [run_capacity reached]
      exact related.capacity
    · rw [frame.policy]
      exact related.policy
    · rw [taken, frame.accepted]
      simpa using related.items
    · rw [frame.dropped]
      exact related.dropped
    · rw [frame.closed]
      exact related.closed

/-! ## Push -/

/-- What a push leaves as it is. -/
structure PushFrame (queue finish : RingQueue α) : Prop where
  closers : finish.closers = queue.closers
  closed : finish.closed = queue.closed
  consumer : finish.consumer = queue.consumer
  taken : finish.taken = queue.taken
  policy : finish.policy = queue.policy

theorem untilIdle_push {next : RingQueue α} {point : PushPoint} {item : α}
    (pushing : queue.producer = .pushing point item)
    (taken : queue.pushStep item point = some next) (fuel : Nat) :
    untilIdle producerIdle .producer (fuel + 1) queue =
      untilIdle producerIdle .producer fuel next :=
  untilIdle_of_step (by simp [producerIdle, pushing]) (by simpa [step, pushing] using taken) fuel

/-- A push that has found a slot returns `true`. -/
theorem emplace_returns {item : α} (pushing : queue.producer = .pushing (.emplace .first) item)
    (awake : queue.consumerWaiting = false) (fuel : Nat) :
    ∃ finish, untilIdle producerIdle .producer (fuel + 3) queue = some finish ∧
      finish.producer = .idle ∧ finish.pushes = queue.pushes ++ [(item, true)] ∧
      finish.accepted = queue.accepted ++ [item] ∧ finish.dropped = queue.dropped ∧
      PushFrame queue finish := by
  have placed : queue.pushStep item (.emplace .first) =
      some ({ queue with ring := queue.ring.emplace item }.pushAt (.storeHead .first) item) :=
    rfl
  have stored : ({ queue with ring := queue.ring.emplace item }.pushAt (.storeHead .first)
      item).pushStep item (.storeHead .first) =
        some ({ queue with
          ring := (queue.ring.emplace item).storeHead
          accepted := queue.accepted ++ [item] }.pushAt .wakeLoad item) :=
    rfl
  have returned : ({ queue with
      ring := (queue.ring.emplace item).storeHead
      accepted := queue.accepted ++ [item] }.pushAt .wakeLoad item).pushStep item .wakeLoad =
        some ({ queue with
          ring := (queue.ring.emplace item).storeHead
          accepted := queue.accepted ++ [item] }.pushReturns item true) := by
    simp [pushStep, pushAt, pushReturns, awake]
  rw [untilIdle_push pushing placed, untilIdle_push rfl stored, untilIdle_push rfl returned,
    untilIdle_of_idle rfl]
  exact ⟨_, rfl, rfl, rfl, rfl, rfl, ⟨rfl, rfl, rfl, rfl, rfl⟩⟩

theorem loadTail_looksFull (ring : Ring α) : ring.loadTail.looksFull = !ring.hasSpace := by
  simp [Ring.looksFull, Ring.loadTail, Ring.hasSpace, ← decide_not]

theorem Settled.looksFull (settled : Settled queue) (full : queue.ring.hasSpace = false) :
    queue.ring.looksFull = true := by
  by_contra roomy
  obtain ⟨seen, old, -, room⟩ :=
    settled.consistent.room_of_looksFull (eq_false_of_ne_true roomy)
  have space := RingQueue.hasSpace_iff settled.consistent
  have order := settled.consistent.taken_le
  rw [full] at space
  simp only [view] at old room order
  simp only [Bool.false_eq_true, false_iff] at space
  omega

theorem Settled.awake (settled : Settled queue) : queue.consumerWaiting = false := by
  simpa [parking, Side.both, settled.consumer, Stage.waits] using settled.sound.owned.flag .right

theorem Settled.push_started (settled : Settled queue) (item : α) :
    queue.step (.push item) = some (queue.pushAt .loadClosed item) := by
  simp [step, settled.producer]

/-- A push to an open queue with space. -/
theorem Settled.push_space (settled : Settled queue) (isOpen : queue.closed = false)
    (space : queue.ring.hasSpace = true) (item : α) :
    ∃ finish, untilIdle producerIdle .producer callSteps (queue.pushAt .loadClosed item) =
        some finish ∧
      finish.producer = .idle ∧ finish.pushes = queue.pushes ++ [(item, true)] ∧
      finish.accepted = queue.accepted ++ [item] ∧ finish.dropped = queue.dropped ∧
      PushFrame queue finish := by
  have opened : (queue.pushAt .loadClosed item).pushStep item .loadClosed =
      some (queue.pushAt (.tryPush .first) item) := by
    simp [pushStep, pushAt, isOpen]
  rw [show callSteps = 142 + 1 from rfl, untilIdle_push rfl opened]
  cases looks : queue.ring.looksFull with
  | false =>
      have found : (queue.pushAt (.tryPush .first) item).pushStep item (.tryPush .first) =
          some (queue.pushAt (.emplace .first) item) := by
        simp [pushStep, pushAt, looks]
      rw [untilIdle_push rfl found]
      obtain ⟨finish, returned, idle, pushes, accepted, dropped, frame⟩ :=
        @emplace_returns α (queue.pushAt (.emplace .first) item) item rfl settled.awake 138
      exact ⟨finish, returned, idle, pushes, accepted, dropped,
        ⟨frame.closers, frame.closed, frame.consumer, frame.taken, frame.policy⟩⟩
  | true =>
      have stale : (queue.pushAt (.tryPush .first) item).pushStep item (.tryPush .first) =
          some (queue.pushAt (.loadTail .first) item) := by
        simp [pushStep, pushAt, looks]
      have found : (queue.pushAt (.loadTail .first) item).pushStep item (.loadTail .first) =
          some ({ queue with ring := queue.ring.loadTail }.pushAt (.emplace .first) item) := by
        simp [pushStep, pushAt, loadTail_looksFull, space]
      rw [untilIdle_push rfl stale, untilIdle_push rfl found]
      obtain ⟨finish, returned, idle, pushes, accepted, dropped, frame⟩ :=
        @emplace_returns α
          ({ queue with ring := queue.ring.loadTail }.pushAt (.emplace .first) item) item rfl
          settled.awake 137
      exact ⟨finish, returned, idle, pushes, accepted, dropped,
        ⟨frame.closers, frame.closed, frame.consumer, frame.taken, frame.policy⟩⟩

/-- A push to an open queue without space that drops. -/
theorem Settled.push_full (settled : Settled queue) (isOpen : queue.closed = false)
    (full : queue.ring.hasSpace = false) (drops : queue.policy = .dropNewest) (item : α) :
    ∃ finish, untilIdle producerIdle .producer callSteps (queue.pushAt .loadClosed item) =
        some finish ∧
      finish.producer = .idle ∧ finish.pushes = queue.pushes ++ [(item, false)] ∧
      finish.accepted = queue.accepted ∧ finish.dropped = queue.dropped + 1 ∧
      PushFrame queue finish := by
  have opened : (queue.pushAt .loadClosed item).pushStep item .loadClosed =
      some (queue.pushAt (.tryPush .first) item) := by
    simp [pushStep, pushAt, isOpen]
  have looks : (queue.pushAt (.tryPush .first) item).pushStep item (.tryPush .first) =
      some (queue.pushAt (.loadTail .first) item) := by
    simp [pushStep, pushAt, settled.looksFull full]
  have fails : (queue.pushAt (.loadTail .first) item).pushStep item (.loadTail .first) =
      some ({ queue with ring := queue.ring.loadTail }.pushAt .drop item) := by
    simp [pushStep, pushAt, loadTail_looksFull, full, pushFailed, drops]
  have returned : ({ queue with ring := queue.ring.loadTail }.pushAt .drop item).pushStep item
      .drop = some ({ queue with
        ring := queue.ring.loadTail
        dropped := queue.dropped + 1 }.pushReturns item false) :=
    rfl
  rw [show callSteps = 139 + 4 from rfl, untilIdle_push rfl opened, untilIdle_push rfl looks,
    untilIdle_push rfl fails, untilIdle_push rfl returned, untilIdle_of_idle rfl]
  exact ⟨_, rfl, rfl, rfl, rfl, rfl, ⟨rfl, rfl, rfl, rfl, rfl⟩⟩

theorem Settled.push_closed (isClosed : queue.closed = true) (item : α) :
    untilIdle producerIdle .producer callSteps (queue.pushAt .loadClosed item) =
      some (queue.pushReturns item false) := by
  have refused : (queue.pushAt .loadClosed item).pushStep item .loadClosed =
      some (queue.pushReturns item false) := by
    simp [pushStep, pushAt, pushReturns, isClosed]
  rw [show callSteps = 142 + 1 from rfl, untilIdle_push rfl refused, untilIdle_of_idle rfl]

/-- What a push that returns makes of a settled queue. -/
theorem Related.of_push (related : Related bounded queue) {item : α} {answer : Bool}
    (returned : untilIdle producerIdle .producer callSteps (queue.pushAt .loadClosed item) =
      some finish)
    (idle : finish.producer = .idle) (pushes : finish.pushes = queue.pushes ++ [(item, answer)])
    (frame : PushFrame queue finish)
    (items : after.items = finish.accepted.drop queue.taken.length)
    (dropped : after.dropped = finish.dropped)
    (same : after = { bounded with items := after.items, dropped := after.dropped }) :
    queue.call (.push item) = some (.pushed answer, finish) ∧ Related after finish := by
  have settled := related.settled
  have started := settled.push_started item
  obtain ⟨steps, reached⟩ := run_of_call started returned
  refine ⟨by simp [call, started, returned, pushes], settled.of_run reached idle
    (frame.consumer.trans settled.consumer) (by rw [frame.closers]; exact settled.closers),
    ?_, ?_, by rw [frame.taken]; exact items, dropped, ?_⟩
  · rw [same, run_capacity reached]
    exact related.capacity
  · rw [same, frame.policy]
    exact related.policy
  · rw [same, frame.closed]
    exact related.closed

theorem Related.push (related : Related bounded queue) {item : α} {answer : Bool}
    (pushed : bounded.push item = some (answer, after)) :
    ∃ finish, queue.call (.push item) = some (.pushed answer, finish) ∧ Related after finish := by
  have settled := related.settled
  unfold BoundedQueue.push at pushed
  split at pushed
  next isClosed =>
    obtain ⟨rfl, rfl⟩ := Prod.mk.inj (Option.some.inj pushed)
    exact ⟨_, related.of_push (Settled.push_closed (related.closed ▸ isClosed) item) rfl rfl
      ⟨rfl, rfl, rfl, rfl, rfl⟩ related.items related.dropped rfl⟩
  next isOpen =>
    have isOpen : queue.closed = false := related.closed ▸ eq_false_of_ne_true isOpen
    split at pushed
    next full =>
      split at pushed
      next drops =>
        obtain ⟨rfl, rfl⟩ := Prod.mk.inj (Option.some.inj pushed)
        have full : queue.ring.hasSpace = false :=
          eq_false_of_ne_true fun space => Nat.not_lt.mpr full (related.hasSpace_iff.mp space)
        obtain ⟨finish, returned, idle, pushes, accepted, dropped, frame⟩ :=
          settled.push_full isOpen full (related.policy ▸ drops) item
        exact ⟨finish, related.of_push returned idle pushes frame
          (by rw [accepted]; exact related.items) (by rw [dropped, related.dropped]) rfl⟩
      next => cases pushed
    next room =>
      obtain ⟨rfl, rfl⟩ := Prod.mk.inj (Option.some.inj pushed)
      have space : queue.ring.hasSpace = true := related.hasSpace_iff.mpr (Nat.not_le.mp room)
      obtain ⟨finish, returned, idle, pushes, accepted, dropped, frame⟩ :=
        settled.push_space isOpen space item
      refine ⟨finish, related.of_push returned idle pushes frame ?_
        (by rw [dropped, related.dropped]) rfl⟩
      have order : queue.taken.length ≤ queue.accepted.length := settled.consistent.taken_le
      rw [accepted, List.drop_append_of_le_length order, related.items]

/-! ## Close and the observers -/

theorem untilIdle_close {next : RingQueue α} {number : Nat} {point : Closer}
    (here : queue.closers number = point) (busy : point ≠ .idle)
    (taken : queue.closeStep number point = some next) (fuel : Nat) :
    untilIdle (closerIdle number) (.closer number) (fuel + 1) queue =
      untilIdle (closerIdle number) (.closer number) fuel next := by
  refine untilIdle_of_step ?_ (by simpa [step, here] using taken) fuel
  cases point <;> simp_all [closerIdle]

theorem Settled.free (settled : Settled queue) : queue.mutex = none :=
  free_of_outside settled.sound (by rw [settled.producer]; rfl)
    (by rw [settled.consumer]; rfl) settled.closers

theorem Related.close (related : Related bounded queue) :
    ∃ finish, queue.call .close = some (.done, finish) ∧ Related bounded.close finish := by
  have settled := related.settled
  have free := settled.free
  have started : queue.step (.close 0) = some ({ queue with closed := true }.closeAt 0 .lock) := by
    simp [step, settled.closers]
  have locked : ({ queue with closed := true }.closeAt 0 .lock).closeStep 0 .lock =
      some ({ queue with closed := true, mutex := some (.closer 0) }.closeAt 0 .unlock) := by
    simp [closeStep, acquire, closeAt, free]
  have unlocked : ({ queue with
      closed := true, mutex := some (.closer 0) }.closeAt 0 .unlock).closeStep 0 .unlock =
        some ({ queue with closed := true, mutex := none }.closeAt 0 .notifyEmpty) := by
    simp [closeStep, release, closeAt]
  have empty : ({ queue with
      closed := true, mutex := none }.closeAt 0 .notifyEmpty).closeStep 0 .notifyEmpty =
        some ({ queue with closed := true, mutex := none }.closeAt 0 .notifyFull) := by
    simp [closeStep, notifyEmpty, closeAt, settled.consumer]
  have full : ({ queue with
      closed := true, mutex := none }.closeAt 0 .notifyFull).closeStep 0 .notifyFull =
        some ({ queue with closed := true, mutex := none }.closeAt 0 .idle) := by
    simp [closeStep, notifyFull, closeAt, settled.producer]
  have returned : untilIdle (closerIdle 0) (.closer 0) callSteps
      ({ queue with closed := true }.closeAt 0 .lock) =
        some ({ queue with closed := true, mutex := none }.closeAt 0 .idle) := by
    rw [show callSteps = 139 + 4 from rfl, untilIdle_close (by simp [closeAt]) (by simp) locked,
      untilIdle_close (by simp [closeAt]) (by simp) unlocked,
      untilIdle_close (by simp [closeAt]) (by simp) empty,
      untilIdle_close (by simp [closeAt]) (by simp) full, untilIdle_of_idle]
    simp [closerIdle, closeAt]
  obtain ⟨steps, reached⟩ := run_of_call started returned
  have idle : ∀ number, Function.update queue.closers 0 .idle number = .idle := by
    intro number
    by_cases same : number = 0
    · rw [same, Function.update_self]
    · rw [Function.update_of_ne same, settled.closers]
  exact ⟨_, by simp [RingQueue.call, started, returned],
    settled.of_run reached settled.producer settled.consumer idle, related.capacity,
    related.policy, related.items, related.dropped, rfl⟩

theorem Related.size (related : Related bounded queue) :
    queue.ring.size.toNat = bounded.items.length := by
  have consistent := related.settled.consistent
  have order : queue.taken.length ≤ queue.accepted.length := consistent.taken_le
  have room : queue.accepted.length + _ ≤ queue.taken.length + queue.ring.capacity.toNat :=
    consistent.accepted_le
  have bounded : queue.ring.capacity.toNat ≤ 2 ^ 63 := consistent.capacity_le
  have head : queue.ring.head = UInt64.ofNat queue.accepted.length := consistent.head
  have tail : queue.ring.tail = UInt64.ofNat queue.taken.length := consistent.tail
  have distance := Library.RingIndex.toNat_sub order (by omega)
  have within : queue.ring.head - queue.ring.tail ≤ queue.ring.capacity := by
    rw [UInt64.le_iff_toNat_le, head, tail, distance]
    omega
  have least : queue.ring.size = queue.ring.head - queue.ring.tail := if_pos within
  rw [least, head, tail, distance, related.items, List.length_drop]

/-- A call of the bounded queue that does not wait returns the same from the ring queue. -/
theorem Related.call (related : Related bounded queue) {call : QueueCall α}
    {answer : QueueAnswer α} (called : bounded.call call = some (answer, after)) :
    ∃ finish, queue.call call = some (answer, finish) ∧ Related after finish := by
  cases call with
  | push item =>
      obtain ⟨⟨taken, next⟩, pushed, same⟩ := Option.map_eq_some_iff.mp called
      obtain ⟨rfl, rfl⟩ := Prod.mk.inj same
      exact related.push pushed
  | pop =>
      obtain ⟨⟨found, next⟩, popped, same⟩ := Option.map_eq_some_iff.mp called
      obtain ⟨rfl, rfl⟩ := Prod.mk.inj same
      exact related.pop popped
  | close =>
      obtain ⟨rfl, rfl⟩ := Prod.mk.inj (Option.some.inj called)
      exact related.close
  | size =>
      obtain ⟨rfl, rfl⟩ := Prod.mk.inj (Option.some.inj called)
      exact ⟨queue, by simp [RingQueue.call, related.size], related⟩
  | droppedCount =>
      obtain ⟨rfl, rfl⟩ := Prod.mk.inj (Option.some.inj called)
      exact ⟨queue, by simp [RingQueue.call, related.dropped], related⟩
  | closed =>
      obtain ⟨rfl, rfl⟩ := Prod.mk.inj (Option.some.inj called)
      exact ⟨queue, by simp [RingQueue.call, related.closed], related⟩

theorem Related.runCalls (related : Related bounded queue) {calls : List (QueueCall α)}
    {answers : List (QueueAnswer α)}
    (ran : runCalls BoundedQueue.call bounded calls = some answers) :
    runCalls RingQueue.call queue calls = some answers := by
  induction calls generalizing bounded queue answers with
  | nil => exact ran
  | cons first rest ih =>
      obtain ⟨⟨answer, after⟩, called, later⟩ := Option.bind_eq_some_iff.mp ran
      obtain ⟨more, ranRest, same⟩ := Option.bind_eq_some_iff.mp later
      obtain ⟨finish, ringCalled, kept⟩ := related.call called
      obtain rfl := Option.some.inj same
      simp [Core.runCalls, ringCalled, ih kept ranRest]

end Related

/-! ## Concurrent calls -/

/-- The items whose push returned `true`, or is to. -/
def acceptedPushes (queue : RingQueue α) : List α :=
  granted queue.pushes ++ queue.producer.phase.unanswered

/-- Order, slots and capacity. -/
structure Safe (capacity : UInt64) (queue : RingQueue α) : Prop where
  ordered : queue.pops.reduceOption <+: queue.acceptedPushes
  /-- No slot is overwritten while it is full. -/
  emplaces : ∀ attempt item, queue.producer = .pushing (.emplace attempt) item →
    queue.ring.slots (queue.ring.head &&& queue.ring.mask) = none
  /-- No slot is read while it is empty. -/
  moves : ∀ attempt, queue.consumer = .popping (.moveSlot attempt) →
    ∃ item, queue.ring.slots (queue.ring.tail &&& queue.ring.mask) = some item
  /-- No more slots are full than the capacity says. -/
  held : ∀ full : Finset UInt64,
    (∀ key ∈ full, key ≤ queue.ring.mask ∧ (queue.ring.slots key).isSome = true) →
    full.card ≤ capacity.toNat

section Safe

variable {queue finish : RingQueue α}

theorem acceptedPushes_eq (consistent : Consistent queue.view) :
    queue.acceptedPushes = queue.accepted :=
  consistent.granted

theorem safe_of_consistent (consistent : Consistent queue.view) :
    Safe queue.ring.capacity queue where
  ordered := by
    rw [acceptedPushes_eq consistent]
    exact List.IsPrefix.trans ⟨_, consistent.received⟩ consistent.order
  emplaces attempt item pushing := by
    have free : queue.view.producer = .free item := by
      simp [view, pushing, PushPoint.phase]
    exact consistent.free_slot free
  moves attempt popping := by
    obtain ⟨item, front, -⟩ := consistent.front_slot
      (by simp [view, popping, PopPoint.phase, PopPhase.reading])
    exact ⟨item, front⟩
  held full filled := by
    obtain ⟨bits, ones⟩ := consistent.shape.ones
    have count := consistent.window.card_le ones filled
    have room := consistent.accepted_le
    rw [List.length_append] at count
    simp only [view] at count room
    omega

/-! ## The end of the items -/

/-- All accepted items, and then nothing. -/
def Complete (accepted : List α) (pops : List (Option α)) : Prop :=
  ∃ nothings, pops = accepted.map some ++ List.replicate (nothings + 1) none

theorem complete_of_none (consistent : Consistent queue.view) (ending : Ending queue)
    (member : none ∈ queue.pops) : Complete queue.accepted queue.pops := by
  obtain ⟨-, empty, resting⟩ := ending.ended (.inr member)
  obtain ⟨nothings, shape⟩ := ending.shape
  have all : queue.pops.reduceOption = queue.accepted := by
    have received := consistent.received
    simp only [view, resting, PopPhase.unanswered, List.append_nil] at received
    rw [received]
    refine consistent.order.eq_of_length_le ?_
    have iff := hasItem_iff consistent
    simp only [empty, Bool.false_eq_true, false_iff, Nat.not_lt] at iff
    exact iff
  rw [all] at shape
  cases nothings with
  | zero =>
      rw [shape] at member
      simp at member
  | succ nothings => exact ⟨nothings, shape⟩

/-- Only the consumer takes steps. -/
def ConsumerOnly (inputs : List (Input α)) : Prop :=
  ∀ input ∈ inputs, input = .pop ∨ input = .consumer

theorem ConsumerOnly.closesIdle {inputs : List (Input α)} (only : ConsumerOnly inputs)
    (queue : RingQueue α) : Library.Runs.Meets step ClosesIdle queue inputs := by
  rintro before input after state rfl - number rfl
  have either := only (.close number) (by simp)
  simp at either

theorem ConsumerOnly.calls (first : Input α) (is : first = .pop ∨ first = .consumer)
    (steps : Nat) : ConsumerOnly (first :: List.replicate steps .consumer) := by
  intro input member
  rcases List.mem_cons.mp member with rfl | member
  · exact is
  · exact .inr (List.eq_of_mem_replicate member)

/-- Pops of a closed queue end with nothing. -/
theorem Settled.drains (settled : Settled queue) (closed : queue.closed = true) {left : Nat}
    (count : queue.accepted.length - queue.taken.length = left) :
    ∃ inputs finish, ConsumerOnly inputs ∧ Library.Runs.run step queue inputs = some finish ∧
      finish.accepted = queue.accepted ∧ none ∈ finish.pops := by
  induction left generalizing queue with
  | zero =>
      obtain ⟨finish, steps, -, reached, -, frame, pops, -⟩ := settled.pop (.inl closed)
      refine ⟨_, finish, ConsumerOnly.calls .pop (.inl rfl) steps, reached, frame.accepted, ?_⟩
      have due : queue.due = none := by
        rw [due_of_not_holding (by simp [settled.consumer, PopPhase.unanswered]),
          List.getElem?_eq_none (by omega)]
      rw [pops, due]
      simp
  | succ left ih =>
      obtain ⟨middle, steps, -, reached, between, frame, pops, taken⟩ := settled.pop (.inl closed)
      have bound : queue.taken.length < queue.accepted.length := by omega
      have due : queue.due = some queue.accepted[queue.taken.length] := by
        rw [due_of_not_holding (by simp [settled.consumer, PopPhase.unanswered]),
          List.getElem?_eq_getElem bound]
      rw [due] at taken
      obtain ⟨inputs, finish, only, later, accepted, member⟩ := ih between
        (frame.closed.trans closed) (by rw [frame.accepted, taken]; simp; omega)
      refine ⟨(.pop :: List.replicate steps .consumer) ++ inputs, finish, ?_, ?_,
        accepted.trans frame.accepted, member⟩
      · intro input member
        rcases List.mem_append.mp member with front | back
        · exact ConsumerOnly.calls .pop (.inl rfl) steps input front
        · exact only input back
      · rw [Library.Runs.run_append, reached]
        exact later

/-- What the end of the items is when the producer closes the queue. -/
structure Delivers (queue : RingQueue α) : Prop where
  /-- Nothing is returned only after every accepted item. -/
  ended : none ∈ queue.pops → Complete queue.acceptedPushes queue.pops
  /-- After the close a pop that is under way returns. -/
  returns : queue.closed = true → queue.producer = .idle →
    (∀ number, queue.closers number = .idle) →
    (untilIdle consumerIdle .consumer callSteps queue).isSome = true
  /-- After the close the consumer gets every accepted item and then nothing. -/
  drains : queue.closed = true → queue.producer = .idle →
    (∀ number, queue.closers number = .idle) →
    ∃ inputs finish, ConsumerOnly inputs ∧ Library.Runs.run step queue inputs = some finish ∧
      Complete queue.acceptedPushes finish.pops

/-- The pop that is under way, if any, returns. -/
theorem settles (consistent : Consistent queue.view) (sound : queue.parking.Sound)
    (ending : Ending queue) (closed : queue.closed = true) (producer : queue.producer = .idle)
    (closers : ∀ number, queue.closers number = .idle) :
    ∃ finish, untilIdle consumerIdle .consumer callSteps queue = some finish ∧
      finish.consumer = .idle ∧ PopFrame queue finish := by
  cases consumer : queue.consumer with
  | idle =>
      exact ⟨queue, untilIdle_of_idle (by simp [consumerIdle, consumer]) callSteps, consumer,
        ⟨rfl, rfl, rfl, rfl, rfl, rfl, rfl⟩⟩
  | popping point =>
      have draining : Draining queue :=
        ⟨consistent, sound, producer, closers, .inl closed,
          fun here => (ending.ended (.inl here)).2.1⟩
      obtain ⟨finish, returned, idle, -, frame⟩ :=
        draining.returns consumer (rank_lt_callSteps _ point)
      exact ⟨finish, returned, idle, frame⟩

theorem delivers_of_ending (consistent : Consistent queue.view) (sound : queue.parking.Sound)
    (ending : Ending queue) : Delivers queue where
  ended member := by
    rw [acceptedPushes_eq consistent]
    exact complete_of_none consistent ending member
  returns closed producer closers := by
    obtain ⟨finish, returned, -⟩ := settles consistent sound ending closed producer closers
    rw [returned]
    rfl
  drains closed producer closers := by
    obtain ⟨middle, returned, idle, frame⟩ :=
      settles consistent sound ending closed producer closers
    obtain ⟨steps, reached⟩ := run_of_untilIdle returned
    have settled : Settled middle :=
      ⟨run_consistent consistent reached, run_sound sound reached,
        frame.producer.trans producer, idle, by rw [frame.closers]; exact closers⟩
    obtain ⟨inputs, finish, only, later, accepted, member⟩ :=
      settled.drains (frame.closed.trans closed) rfl
    have whole : Library.Runs.run step queue (List.replicate steps .consumer ++ inputs) =
        some finish := by
      rw [Library.Runs.run_append, reached]
      exact later
    have consumerOnly : ConsumerOnly (List.replicate steps .consumer ++ inputs) := by
      intro input member
      rcases List.mem_append.mp member with front | back
      · exact .inr (List.eq_of_mem_replicate front)
      · exact only input back
    refine ⟨_, finish, consumerOnly, whole, ?_⟩
    have complete := complete_of_none (run_consistent consistent whole)
      (run_ending consistent ending (consumerOnly.closesIdle queue) whole) member
    rwa [accepted, frame.accepted, ← acceptedPushes_eq consistent] at complete

end Safe

theorem fresh_related {capacity : UInt64} (positive : 1 ≤ capacity)
    {policy : BackpressurePolicy} {start : RingQueue α}
    (made : fresh capacity policy = some start) :
    Related (.fresh capacity.toNat policy) start ∧ start.ring.capacity = capacity := by
  have consistent := fresh_consistent made
  have sound := fresh_sound made
  obtain ⟨ring, ringMade, rfl⟩ := Option.map_eq_some_iff.mp made
  obtain ⟨mask, rfl, -⟩ := Ring.shape_of_fresh ringMade
  have least : max 1 capacity = capacity := if_pos positive
  rw [least] at consistent sound ⊢
  exact ⟨⟨⟨consistent, sound, rfl, rfl, fun _ => rfl⟩, rfl, rfl, rfl, rfl, rfl⟩, rfl⟩

/--
The ring queue implements the bounded queue: in every interleaving the items keep their order,
their slots and the capacity; when the producer closes the queue the consumer gets every item and
then nothing; and calls one after the other return what the bounded queue returns.
-/
theorem ring_queue_implements_bounded_queue (capacity : UInt64) (positive : 1 ≤ capacity)
    (bounded : capacity.toNat ≤ 2 ^ 63) (policy : BackpressurePolicy) :
    ∃ start : RingQueue α, fresh capacity policy = some start ∧
      (∀ inputs queue, Library.Runs.run step start inputs = some queue → Safe capacity queue) ∧
      (∀ inputs queue, Library.Runs.Meets step ClosesIdle start inputs →
        Library.Runs.run step start inputs = some queue → Delivers queue) ∧
      ∀ calls answers,
        runCalls BoundedQueue.call (.fresh capacity.toNat policy) calls = some answers →
        runCalls RingQueue.call start calls = some answers := by
  obtain ⟨mask, returned, -⟩ := Ring.fresh_eq_some (α := α) bounded
  have made : fresh capacity policy = some (initial policy (.empty (max 1 capacity) mask)) :=
    Option.map_eq_some_iff.mpr ⟨_, returned, rfl⟩
  have consistent := fresh_consistent made
  have sound := fresh_sound made
  obtain ⟨related, same⟩ := fresh_related positive made
  refine ⟨_, made, fun inputs queue reached => ?_, fun inputs queue idle reached => ?_,
    fun calls answers ran => related.runCalls ran⟩
  · have safe := safe_of_consistent (run_consistent consistent reached)
    rwa [run_capacity reached, same] at safe
  · exact delivers_of_ending (run_consistent consistent reached) (run_sound sound reached)
      (run_ending consistent (fresh_ending made) idle reached)

/-- A ring whose capacity is not a power of two. -/
theorem ring_queue_implements_bounded_queue_three :
    (1 : UInt64) ≤ 3 ∧ (3 : UInt64).toNat ≤ 2 ^ 63 ∧
      ∃ start : RingQueue Nat, fresh 3 .block = some start ∧
        (∀ inputs queue, Library.Runs.run step start inputs = some queue → Safe 3 queue) ∧
        (∀ inputs queue, Library.Runs.Meets step ClosesIdle start inputs →
          Library.Runs.run step start inputs = some queue → Delivers queue) ∧
        ∀ calls answers,
          runCalls BoundedQueue.call (.fresh (3 : UInt64).toNat .block) calls = some answers →
          runCalls RingQueue.call start calls = some answers :=
  ⟨by decide, by decide,
    ring_queue_implements_bounded_queue 3 (by decide) (by decide) .block⟩

end RingQueue

end Ssim.Core
