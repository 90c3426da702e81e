import Ssim.Core.QueueThreads

/-!
# The bounded queue is linearizable and loses no wake-up

Every run of the threads looks to them as if each call took effect at one moment, on the queue
whose operations are atomic.  Where no thread can go on, the only calls under way are those that
have to wait: pops of an empty open queue and pushes to a full one.
-/

namespace Ssim.Core

open Library Runs
open AtomicObject (Object Moment Status Event)
open WaitingRoom (Room)

variable {Thread α : Type}

/-! ## The atomic queue -/

/-- Where the atomic call of the thread is. -/
def QueuePoint.status : QueuePoint α → Status (QueueCall α) (QueueAnswer α)
  | idle => .idle
  | calling call => .pending call
  | pushAsleep item | pushWoken item => .pending (.push item)
  | popAsleep | popWoken => .pending .pop
  | notifyEmpty answer | notifyFull answer | returning answer => .done answer
  | notifyAllEmpty | notifyAllFull => .done .done

namespace QueuePoint

theorem status_woken (point : QueuePoint α) : point.woken.status = point.status := by
  cases point <;> rfl

theorem status_of_tries {point : QueuePoint α} {call : QueueCall α}
    (tries : point.tries = some call) : point.status = .pending call := by
  cases point with
  | calling | pushWoken | popWoken =>
      cases tries
      rfl
  | _ => cases tries

end QueuePoint

/-- What the thread does with the mutex is the atomic call, or nothing while the call waits. -/
theorem Entered.effect {queue next : BoundedQueue α} {call : QueueCall α} {point : QueuePoint α}
    (entered : Entered queue call point next) :
    (∃ answer, point.status = .done answer ∧ queue.call call = some (answer, next)) ∨
      (point.status = .pending call ∧ next = queue) := by
  cases entered with
  | refused isClosed =>
      exact .inl ⟨_, rfl, by simp [BoundedQueue.call, BoundedQueue.push, isClosed]⟩
  | dropped isOpen full drops =>
      exact .inl ⟨_, rfl, by simp [BoundedQueue.call, BoundedQueue.push, isOpen, full, drops]⟩
  | accepted isOpen room =>
      exact .inl ⟨_, rfl, by
        simp [BoundedQueue.call, BoundedQueue.push, isOpen, Nat.not_le.mpr room]⟩
  | pushSleeps => exact .inr ⟨rfl, rfl⟩
  | popped first => exact .inl ⟨_, rfl, by simp [BoundedQueue.call, BoundedQueue.pop, first]⟩
  | drained empty isClosed =>
      exact .inl ⟨_, rfl, by simp [BoundedQueue.call, BoundedQueue.pop, empty, isClosed]⟩
  | popSleeps => exact .inr ⟨rfl, rfl⟩
  | closes | size | droppedCount | closed => exact .inl ⟨_, rfl, rfl⟩

namespace SharedQueue

/-- The queue without what its threads do about waiting. -/
def object (shared : SharedQueue Thread α) :
    Object Thread (QueueCall α) (QueueAnswer α) (BoundedQueue α) :=
  ⟨shared.queue, fun thread => (shared.point thread).status⟩

theorem object_wakeAll (shared : SharedQueue Thread α) (sleeps : QueuePoint α → Bool) :
    (shared.wakeAll sleeps).object = shared.object := by
  simp only [object, wakeAll, Object.mk.injEq, true_and]
  funext thread
  split
  · exact QueuePoint.status_woken _
  · rfl

variable {shared next : SharedQueue Thread α} {move : QueueMove Thread α}

theorem observe_tried {thread : Thread} {call : QueueCall α}
    (tries : (shared.point thread).tries = some call) :
    shared.observe (.go thread) = [] := by
  cases point : shared.point thread <;> simp_all [observe, QueuePoint.tries]

variable [DecidableEq Thread]

/-- A step that only the implementation sees. -/
theorem simulated_nothing (quiet : shared.observe move = []) (same : next.object = shared.object) :
    ∃ moments, run (AtomicObject.step BoundedQueue.call) shared.object moments =
        some next.object ∧
      AtomicObject.history BoundedQueue.call shared.object moments = shared.observe move :=
  ⟨[], by rw [same]; rfl, by rw [quiet]; rfl⟩

theorem object_goTo (thread : Thread) (point : QueuePoint α) :
    (shared.goTo thread point).object = shared.object.go thread point.status := by
  simp only [object, goTo, Object.go, Object.mk.injEq, true_and]
  funext other
  by_cases same : other = thread
  · rw [same, Function.update_self, Function.update_self]
  · rw [Function.update_of_ne same, Function.update_of_ne same]

theorem object_goTo_same {thread : Thread} {point : QueuePoint α}
    (same : point.status = (shared.point thread).status) :
    (shared.goTo thread point).object = shared.object := by
  rw [object_goTo, same]
  simp only [Object.go]
  exact congrArg (Object.mk _) (Function.update_eq_self thread _)

/-- A thread returns with its answer, and wakes one that sleeps. -/
theorem object_notify {thread sleeper : Thread} {answer : QueueAnswer α}
    (notifies : (shared.point thread).status = .done answer) (different : sleeper ≠ thread) :
    ((shared.goTo thread (.returning answer)).goTo sleeper (shared.point sleeper).woken).object =
      shared.object := by
  have returned : (shared.goTo thread (.returning answer)).object = shared.object :=
    object_goTo_same notifies.symm
  rw [object_goTo_same, returned]
  rw [goTo_point_of_ne different, QueuePoint.status_woken]


theorem Moved.simulated (moved : Moved shared move next) :
    ∃ moments, run (AtomicObject.step BoundedQueue.call) shared.object moments =
        some next.object ∧
      AtomicObject.history BoundedQueue.call shared.object moments = shared.observe move := by
  cases moved with
  | @call thread call idle =>
      have isIdle : shared.object.status thread = .idle := by simp [object, idle, QueuePoint.status]
      have taken : AtomicObject.step BoundedQueue.call shared.object (.invoke thread call) = _ :=
        AtomicObject.step_invoke call isIdle
      refine ⟨[.invoke thread call], ?_, ?_⟩
      · rw [run_cons, taken, object_goTo]
        rfl
      · rw [AtomicObject.history_cons taken]
        rfl
  | @tried thread call point queue tries entered =>
      have pending : shared.object.status thread = .pending call := QueuePoint.status_of_tries tries
      obtain ⟨answer, done, effect⟩ | ⟨waits, rfl⟩ := entered.effect
      · have taken := AtomicObject.step_perform pending effect
        refine ⟨[.perform thread], ?_, ?_⟩
        · rw [run_cons, taken, ← done, ← object_goTo]
          rfl
        · rw [AtomicObject.history_cons taken, AtomicObject.observe_perform pending effect,
            observe_tried tries]
          rfl
      · refine simulated_nothing (observe_tried tries) (object_goTo_same ?_)
        exact waits.trans pending.symm
  | @allEmpty thread closing =>
      refine simulated_nothing (by simp [observe, closing]) ?_
      rw [object_goTo_same, object_wakeAll]
      simp [wakeAll, closing, QueuePoint.sleepsEmpty, QueuePoint.status]
  | @allFull thread closing =>
      refine simulated_nothing (by simp [observe, closing]) ?_
      rw [object_goTo_same, object_wakeAll]
      simp [wakeAll, closing, QueuePoint.sleepsFull, QueuePoint.status]
  | @returned thread answer returning =>
      have done : shared.object.status thread = .done answer := by
        simp [object, returning, QueuePoint.status]
      have taken : AtomicObject.step BoundedQueue.call shared.object (.answer thread) = _ :=
        AtomicObject.step_answer done
      refine ⟨[.answer thread], ?_, ?_⟩
      · rw [run_cons, taken, object_goTo]
        rfl
      · rw [AtomicObject.history_cons taken, AtomicObject.observe_answer done]
        simp only [observe, returning]
        rfl
  | @oneEmpty thread sleeper answer notifying asleep =>
      refine simulated_nothing rfl ?_
      rw [show (.popWoken : QueuePoint α) = (shared.point sleeper).woken by rw [asleep]; rfl]
      refine object_notify (by rw [notifying]; rfl) ?_
      rintro rfl
      rw [asleep] at notifying
      cases notifying
  | @oneFull thread sleeper answer item notifying asleep =>
      refine simulated_nothing rfl ?_
      rw [show .pushWoken item = (shared.point sleeper).woken by rw [asleep]; rfl]
      refine object_notify (by rw [notifying]; rfl) ?_
      rintro rfl
      rw [asleep] at notifying
      cases notifying
  | nobodyEmpty notifying | nobodyFull notifying =>
      exact simulated_nothing rfl (object_goTo_same (by rw [notifying]; rfl))
  | popWakes asleep | pushWakes asleep =>
      exact simulated_nothing rfl (object_goTo_same (by rw [asleep]; rfl))

end SharedQueue

/-! ## The two waiting rooms -/

namespace QueuePoint

def emptyStage : QueuePoint α → WaitingRoom.Stage
  | popAsleep => .asleep
  | popWoken => .awake
  | notifyEmpty _ => .notifying
  | notifyAllEmpty => .closing
  | _ => .outside

def fullStage : QueuePoint α → WaitingRoom.Stage
  | pushAsleep _ => .asleep
  | pushWoken _ => .awake
  | notifyFull _ => .notifying
  | notifyAllEmpty | notifyAllFull => .closing
  | _ => .outside

end QueuePoint

namespace SharedQueue

/-- Where pops wait for items. -/
def notEmpty (shared : SharedQueue Thread α) : Room Thread :=
  ⟨shared.queue.items.length, shared.queue.closed, fun thread => (shared.point thread).emptyStage⟩

/-- Where pushes wait for free places. -/
def notFull (shared : SharedQueue Thread α) : Room Thread :=
  ⟨shared.queue.capacity - shared.queue.items.length, shared.queue.closed,
    fun thread => (shared.point thread).fullStage⟩

variable {shared next : SharedQueue Thread α}

theorem notEmpty_wakeAll :
    (shared.wakeAll QueuePoint.sleepsEmpty).notEmpty = shared.notEmpty.wakeAll := by
  simp only [notEmpty, wakeAll, Room.wakeAll, Room.mk.injEq, true_and]
  funext thread
  cases shared.point thread <;> rfl

variable (shared) in
theorem notEmpty_wakeAll_full :
    (shared.wakeAll QueuePoint.sleepsFull).notEmpty = shared.notEmpty := by
  simp only [notEmpty, wakeAll, Room.mk.injEq, true_and]
  funext thread
  cases shared.point thread <;> rfl

theorem notFull_wakeAll :
    (shared.wakeAll QueuePoint.sleepsFull).notFull = shared.notFull.wakeAll := by
  simp only [notFull, wakeAll, Room.wakeAll, Room.mk.injEq, true_and]
  funext thread
  cases shared.point thread <;> rfl

variable (shared) in
theorem notFull_wakeAll_empty :
    (shared.wakeAll QueuePoint.sleepsEmpty).notFull = shared.notFull := by
  simp only [notFull, wakeAll, Room.mk.injEq, true_and]
  funext thread
  cases shared.point thread <;> rfl

variable {thread : Thread} {point : QueuePoint α} {move : QueueMove Thread α}

/-- A thread that tries a call is awake in the room of its call, or stands outside. -/
theorem emptyStage_of_tries {call : QueueCall α}
    (tries : (shared.point thread).tries = some call) :
    shared.notEmpty.stage thread = .outside ∨
      (call = .pop ∧ shared.notEmpty.stage thread = .awake) := by
  unfold notEmpty
  cases at_ : shared.point thread with
  | popWoken =>
      rw [at_] at tries
      exact .inr ⟨(Option.some.inj tries).symm, by simp [at_, QueuePoint.emptyStage]⟩
  | calling | pushWoken => exact .inl (by simp [at_, QueuePoint.emptyStage])
  | _ => simp [at_, QueuePoint.tries] at tries

theorem fullStage_of_tries {call : QueueCall α}
    (tries : (shared.point thread).tries = some call) :
    shared.notFull.stage thread = .outside ∨
      ((∃ item, call = .push item) ∧ shared.notFull.stage thread = .awake) := by
  unfold notFull
  cases at_ : shared.point thread with
  | pushWoken item =>
      rw [at_] at tries
      exact .inr ⟨⟨item, (Option.some.inj tries).symm⟩, by simp [at_, QueuePoint.fullStage]⟩
  | calling | popWoken => exact .inl (by simp [at_, QueuePoint.fullStage])
  | _ => simp [at_, QueuePoint.tries] at tries

variable [DecidableEq Thread]

theorem update_stage {β : Type} (stage : QueuePoint α → β) :
    (fun other => stage (Function.update shared.point thread point other)) =
      Function.update (fun other => stage (shared.point other)) thread (stage point) := by
  funext other
  by_cases same : other = thread
  · rw [same, Function.update_self, Function.update_self]
  · rw [Function.update_of_ne same, Function.update_of_ne same]

theorem notEmpty_goTo :
    (shared.goTo thread point).notEmpty = shared.notEmpty.go thread point.emptyStage := by
  simp only [notEmpty, goTo, Room.go, update_stage]

theorem notFull_goTo :
    (shared.goTo thread point).notFull = shared.notFull.go thread point.fullStage := by
  simp only [notFull, goTo, Room.go, update_stage]

theorem notEmpty_enter (queue : BoundedQueue α) :
    (shared.enter thread (point, queue)).notEmpty =
      { shared.notEmpty.go thread point.emptyStage with
        tokens := queue.items.length, closed := queue.closed } := by
  simp only [notEmpty, enter, goTo, Room.go, update_stage]

theorem notFull_enter (queue : BoundedQueue α) :
    (shared.enter thread (point, queue)).notFull =
      { shared.notFull.go thread point.fullStage with
        tokens := queue.capacity - queue.items.length, closed := queue.closed } := by
  simp only [notFull, enter, goTo, Room.go, update_stage]

theorem notEmpty_same (same : point.emptyStage = (shared.point thread).emptyStage) :
    (shared.goTo thread point).notEmpty = shared.notEmpty := by
  rw [notEmpty_goTo, same]
  exact congrArg (Room.mk _ _) (Function.update_eq_self thread _)

theorem notFull_same (same : point.fullStage = (shared.point thread).fullStage) :
    (shared.goTo thread point).notFull = shared.notFull := by
  rw [notFull_goTo, same]
  exact congrArg (Room.mk _ _) (Function.update_eq_self thread _)

theorem notEmpty_tried {call : QueueCall α} {queue : BoundedQueue α}
    (tries : (shared.point thread).tries = some call)
    (entered : Entered shared.queue call point queue) :
    shared.notEmpty.Step (shared.enter thread (point, queue)).notEmpty := by
  have free : shared.notEmpty.stage thread = .outside ∨ shared.notEmpty.stage thread = .awake :=
    (emptyStage_of_tries tries).imp_right And.right
  have outside (other : call ≠ .pop) : shared.notEmpty.stage thread = .outside :=
    (emptyStage_of_tries tries).resolve_right fun isPop => other isPop.1
  have unmoved (other : call ≠ .pop) :
      shared.notEmpty.go thread .outside = shared.notEmpty := by
    rw [← outside other]
    exact congrArg (Room.mk _ _) (Function.update_eq_self thread _)
  rw [notEmpty_enter]
  cases entered with
  | refused | dropped | pushSleeps | size | droppedCount | closed =>
      simp only [QueuePoint.emptyStage]
      rw [unmoved (by simp)]
      exact .elsewhere
  | accepted =>
      simp only [List.length_append, List.length_singleton]
      exact .bring (outside (by simp))
  | popped first => exact .take (by simp [notEmpty, first]) free
  | drained empty isClosed => exact .leave (.inl isClosed) free
  | popSleeps empty isOpen => exact .sleep (by simp [notEmpty, empty]) isOpen free
  | closes => exact .close (outside (by simp))

theorem notFull_tried {call : QueueCall α} {queue : BoundedQueue α}
    (within : shared.queue.items.length ≤ shared.queue.capacity)
    (tries : (shared.point thread).tries = some call)
    (entered : Entered shared.queue call point queue) :
    shared.notFull.Step (shared.enter thread (point, queue)).notFull := by
  have free : shared.notFull.stage thread = .outside ∨ shared.notFull.stage thread = .awake :=
    (fullStage_of_tries tries).imp_right And.right
  have outside (other : ∀ item, call ≠ .push item) : shared.notFull.stage thread = .outside :=
    (fullStage_of_tries tries).resolve_right fun isPush => isPush.1.elim other
  have unmoved (other : ∀ item, call ≠ .push item) :
      shared.notFull.go thread .outside = shared.notFull := by
    rw [← outside other]
    exact congrArg (Room.mk _ _) (Function.update_eq_self thread _)
  rw [notFull_enter]
  cases entered with
  | drained | popSleeps | size | droppedCount | closed =>
      simp only [QueuePoint.fullStage]
      rw [unmoved (by simp)]
      exact .elsewhere
  | dropped isOpen full => exact .leave (.inr (by simp only [notFull]; omega)) free
  | accepted isOpen room =>
      refine .take ?_ free
      simp only [notFull, List.length_append, List.length_singleton]
      omega
  | popped first =>
      simp only [first, List.length_cons] at within
      rw [show shared.queue.capacity - _ = shared.notFull.tokens + 1 by
        simp only [notFull, first, List.length_cons]
        omega]
      exact .bring (outside (by simp))
  | refused isClosed => exact .leave (.inl isClosed) free
  | pushSleeps isOpen full => exact .sleep (by simp only [notFull]; omega) isOpen free
  | closes => exact .close (outside (by simp))

theorem Moved.notEmpty_step (moved : Moved shared move next) :
    shared.notEmpty.Step next.notEmpty := by
  have unmoved {base : SharedQueue Thread α} {thread : Thread} {point : QueuePoint α}
      (same : point.emptyStage = (base.point thread).emptyStage) :
      base.notEmpty.Step (base.goTo thread point).notEmpty := by
    rw [notEmpty_same same]
    exact .elsewhere
  cases moved with
  | call call idle => exact unmoved (by rw [idle]; rfl)
  | tried tries entered => exact notEmpty_tried tries entered
  | allEmpty closing =>
      rw [notEmpty_goTo, notEmpty_wakeAll]
      exact .notifyAll (by simp [notEmpty, closing, QueuePoint.emptyStage])
  | allFull closing =>
      rw [← notEmpty_wakeAll_full shared]
      exact unmoved (by simp [wakeAll, closing, QueuePoint.sleepsFull, QueuePoint.emptyStage])
  | returned returning => exact unmoved (by rw [returning]; rfl)
  | oneEmpty notifying asleep =>
      rw [notEmpty_goTo, notEmpty_goTo]
      exact .notify (by simp [notEmpty, notifying, QueuePoint.emptyStage])
        (by simp [notEmpty, asleep, QueuePoint.emptyStage])
  | nobodyEmpty notifying nobody =>
      rw [notEmpty_goTo]
      refine .notifyNobody (by simp [notEmpty, notifying, QueuePoint.emptyStage]) fun other => ?_
      have awake := nobody other
      simp only [notEmpty]
      cases at_ : shared.point other <;> simp_all [QueuePoint.emptyStage, QueuePoint.sleepsEmpty]
  | @oneFull thread sleeper answer item notifying asleep =>
      have different : sleeper ≠ thread := by
        rintro rfl
        rw [asleep] at notifying
        cases notifying
      rw [notEmpty_same, notEmpty_same]
      · exact .elsewhere
      · rw [notifying]
        rfl
      · rw [goTo_point_of_ne different, asleep]
        rfl
  | nobodyFull notifying => exact unmoved (by rw [notifying]; rfl)
  | popWakes asleep =>
      rw [notEmpty_goTo]
      exact .wake (by simp [notEmpty, asleep, QueuePoint.emptyStage])
  | pushWakes asleep => exact unmoved (by rw [asleep]; rfl)

theorem Moved.notFull_step (within : shared.queue.items.length ≤ shared.queue.capacity)
    (moved : Moved shared move next) : shared.notFull.Step next.notFull := by
  have unmoved {base : SharedQueue Thread α} {thread : Thread} {point : QueuePoint α}
      (same : point.fullStage = (base.point thread).fullStage) :
      base.notFull.Step (base.goTo thread point).notFull := by
    rw [notFull_same same]
    exact .elsewhere
  cases moved with
  | call call idle => exact unmoved (by rw [idle]; rfl)
  | tried tries entered => exact notFull_tried within tries entered
  | allEmpty closing =>
      rw [← notFull_wakeAll_empty shared]
      exact unmoved (by simp [wakeAll, closing, QueuePoint.sleepsEmpty, QueuePoint.fullStage])
  | allFull closing =>
      rw [notFull_goTo, notFull_wakeAll]
      exact .notifyAll (by simp [notFull, closing, QueuePoint.fullStage])
  | returned returning => exact unmoved (by rw [returning]; rfl)
  | @oneEmpty thread sleeper answer notifying asleep =>
      have different : sleeper ≠ thread := by
        rintro rfl
        rw [asleep] at notifying
        cases notifying
      rw [notFull_same, notFull_same]
      · exact .elsewhere
      · rw [notifying]
        rfl
      · rw [goTo_point_of_ne different, asleep]
        rfl
  | nobodyEmpty notifying => exact unmoved (by rw [notifying]; rfl)
  | oneFull notifying asleep =>
      rw [notFull_goTo, notFull_goTo]
      exact .notify (by simp [notFull, notifying, QueuePoint.fullStage])
        (by simp [notFull, asleep, QueuePoint.fullStage])
  | nobodyFull notifying nobody =>
      rw [notFull_goTo]
      refine .notifyNobody (by simp [notFull, notifying, QueuePoint.fullStage]) fun other => ?_
      have awake := nobody other
      simp only [notFull]
      cases at_ : shared.point other <;> simp_all [QueuePoint.fullStage, QueuePoint.sleepsFull]
  | popWakes asleep => exact unmoved (by rw [asleep]; rfl)
  | pushWakes asleep =>
      rw [notFull_goTo]
      exact .wake (by simp [notFull, asleep, QueuePoint.fullStage])

end SharedQueue

/-! ## What the effects come to -/

/-- The items that pushes have brought into the queue. -/
def pushedItems (effects : List (QueueCall α × QueueAnswer α)) : List α :=
  effects.filterMap fun
    | (.push item, .pushed true) => some item
    | _ => none

def poppedItems (effects : List (QueueCall α × QueueAnswer α)) : List α :=
  effects.filterMap fun
    | (_, .popped found) => found
    | _ => none

def refusedPushes (effects : List (QueueCall α × QueueAnswer α)) : Nat :=
  effects.countP fun
    | (_, .pushed taken) => !taken
    | _ => false

/-- The queue hands out what it took, in order, and ends only when it is closed and drained. -/
structure Fifo (capacity : Nat) (policy : BackpressurePolicy)
    (effects : List (QueueCall α × QueueAnswer α)) (queue : BoundedQueue α) : Prop where
  capacity_eq : queue.capacity = capacity
  policy_eq : queue.policy = policy
  order : pushedItems effects = poppedItems effects ++ queue.items
  within : queue.items.length ≤ capacity
  ended : (.pop, .popped none) ∈ effects → queue.closed = true ∧ queue.items = []
  dropped : queue.closed = false → queue.dropped = refusedPushes effects
  blocked : policy = .block → queue.dropped = 0

theorem fresh_fifo (capacity : Nat) (policy : BackpressurePolicy) :
    Fifo capacity policy [] (BoundedQueue.fresh capacity policy : BoundedQueue α) where
  capacity_eq := rfl
  policy_eq := rfl
  order := rfl
  within := Nat.zero_le _
  ended := by simp
  dropped := fun _ => rfl
  blocked := fun _ => rfl

section Effects

variable {effects : List (QueueCall α × QueueAnswer α)} {queue next : BoundedQueue α}
  {capacity : Nat} {policy : BackpressurePolicy} {call : QueueCall α} {answer : QueueAnswer α}

theorem pushedItems_concat :
    pushedItems (effects ++ [(call, answer)]) =
      pushedItems effects ++ pushedItems [(call, answer)] :=
  List.filterMap_append

theorem poppedItems_concat :
    poppedItems (effects ++ [(call, answer)]) =
      poppedItems effects ++ poppedItems [(call, answer)] :=
  List.filterMap_append

theorem refusedPushes_concat :
    refusedPushes (effects ++ [(call, answer)]) =
      refusedPushes effects + refusedPushes [(call, answer)] :=
  List.countP_append

/-- An answer that moves no item and tells no end. -/
theorem Fifo.quiet (fifo : Fifo capacity policy effects queue)
    (pushed : pushedItems [(call, answer)] = []) (popped : poppedItems [(call, answer)] = [])
    (refused : refusedPushes [(call, answer)] = 0)
    (goesOn : (call, answer) ≠ (.pop, .popped none)) :
    Fifo capacity policy (effects ++ [(call, answer)]) queue where
  capacity_eq := fifo.capacity_eq
  policy_eq := fifo.policy_eq
  order := by
    rw [pushedItems_concat, poppedItems_concat, pushed, popped, List.append_nil, List.append_nil,
      fifo.order]
  within := fifo.within
  ended := fun isEnd => fifo.ended (by
    rcases List.mem_append.mp isEnd with before | last
    · exact before
    · exact absurd (List.mem_singleton.mp last).symm goesOn)
  dropped := fun isOpen => by
    rw [refusedPushes_concat, refused, Nat.add_zero, fifo.dropped isOpen]
  blocked := fifo.blocked

theorem Fifo.push (fifo : Fifo capacity policy effects queue) {item : α} {taken : Bool}
    (pushed : queue.push item = some (taken, next)) :
    Fifo capacity policy (effects ++ [(.push item, .pushed taken)]) next := by
  have later : (.pop, .popped none) ∈ effects ++ [(QueueCall.push item, .pushed taken)] →
      (.pop, .popped none) ∈ effects := by
    intro isEnd
    simpa using isEnd
  unfold BoundedQueue.push at pushed
  split at pushed
  next isClosed =>
    obtain ⟨rfl, rfl⟩ := Prod.mk.inj (Option.some.inj pushed)
    refine ⟨fifo.capacity_eq, fifo.policy_eq, ?_, fifo.within,
      fun isEnd => fifo.ended (later isEnd), fun isOpen => ?_, fifo.blocked⟩
    · rw [pushedItems_concat, poppedItems_concat, fifo.order]
      simp [pushedItems, poppedItems]
    · rw [isClosed] at isOpen
      cases isOpen
  next isOpen =>
    split at pushed
    next full =>
      split at pushed
      next drops =>
        obtain ⟨rfl, rfl⟩ := Prod.mk.inj (Option.some.inj pushed)
        refine ⟨fifo.capacity_eq, fifo.policy_eq, ?_, fifo.within,
          fun isEnd => fifo.ended (later isEnd), fun stillOpen => ?_, fun blocks => ?_⟩
        · rw [pushedItems_concat, poppedItems_concat, fifo.order]
          simp [pushedItems, poppedItems]
        · rw [refusedPushes_concat, ← fifo.dropped stillOpen]
          simp [refusedPushes]
        · rw [fifo.policy_eq, blocks] at drops
          cases drops
      · cases pushed
    next room =>
      obtain ⟨rfl, rfl⟩ := Prod.mk.inj (Option.some.inj pushed)
      rw [fifo.capacity_eq] at room
      refine ⟨fifo.capacity_eq, fifo.policy_eq, ?_, ?_, fun isEnd => ?_, fun stillOpen => ?_,
        fifo.blocked⟩
      · rw [pushedItems_concat, poppedItems_concat, fifo.order]
        simp [pushedItems, poppedItems]
      · simp only [List.length_append, List.length_singleton]
        omega
      · exact absurd (fifo.ended (later isEnd)).1 isOpen
      · rw [refusedPushes_concat, ← fifo.dropped stillOpen]
        simp [refusedPushes]

theorem Fifo.pop (fifo : Fifo capacity policy effects queue) {found : Option α}
    (popped : queue.pop = some (found, next)) :
    Fifo capacity policy (effects ++ [(.pop, .popped found)]) next := by
  obtain ⟨item, rfl, first, changed⟩ | ⟨rfl, empty, isClosed, rfl⟩ :=
    BoundedQueue.pop_eq_some popped
  · rw [changed]
    refine ⟨fifo.capacity_eq, fifo.policy_eq, ?_, ?_, fun isEnd => ?_, fun isOpen => ?_,
      fifo.blocked⟩
    · rw [pushedItems_concat, poppedItems_concat, fifo.order, first]
      simp [pushedItems, poppedItems]
    · have within := fifo.within
      simp only [first, List.length_cons] at within
      exact Nat.le_of_succ_le within
    · have ended := fifo.ended (by simpa using isEnd)
      simp [first] at ended
    · rw [refusedPushes_concat, ← fifo.dropped isOpen]
      simp [refusedPushes]
  · refine ⟨fifo.capacity_eq, fifo.policy_eq, ?_, fifo.within, fun _ => ⟨isClosed, empty⟩,
      fun isOpen => ?_, fifo.blocked⟩
    · rw [pushedItems_concat, poppedItems_concat, fifo.order]
      simp [pushedItems, poppedItems]
    · rw [isClosed] at isOpen
      cases isOpen

theorem Fifo.effect (fifo : Fifo capacity policy effects queue)
    (called : queue.call call = some (answer, next)) :
    Fifo capacity policy (effects ++ [(call, answer)]) next := by
  cases call with
  | push item =>
      obtain ⟨⟨taken, after⟩, pushed, same⟩ := Option.map_eq_some_iff.mp called
      obtain ⟨rfl, rfl⟩ := Prod.mk.inj same
      exact fifo.push pushed
  | pop =>
      obtain ⟨⟨found, after⟩, popped, same⟩ := Option.map_eq_some_iff.mp called
      obtain ⟨rfl, rfl⟩ := Prod.mk.inj same
      exact fifo.pop popped
  | close =>
      obtain ⟨rfl, rfl⟩ := Prod.mk.inj (Option.some.inj called)
      have kept : Fifo capacity policy (effects ++ [(.close, .done)]) queue :=
        fifo.quiet rfl rfl rfl (by simp)
      exact ⟨kept.capacity_eq, kept.policy_eq, kept.order, kept.within,
        fun isEnd => ⟨rfl, (kept.ended isEnd).2⟩,
        fun isOpen => by simp [BoundedQueue.close] at isOpen, kept.blocked⟩
  | size | droppedCount | closed =>
      obtain ⟨rfl, rfl⟩ := Prod.mk.inj (Option.some.inj called)
      exact fifo.quiet rfl rfl rfl (by simp)

end Effects

namespace SharedQueue

variable {shared next : SharedQueue Thread α}

/-! ## Every reachable state -/

theorem Blocking.wakeAll (blocking : shared.Blocking) (sleeps : QueuePoint α → Bool) :
    (shared.wakeAll sleeps).Blocking := by
  intro thread item waits
  simp only [SharedQueue.wakeAll] at waits
  split at waits
  · refine blocking thread item ?_
    cases at_ : shared.point thread <;> simp_all [QueuePoint.woken]
  · exact blocking thread item waits

variable [DecidableEq Thread]

/-- A point that is not inside the wait of a push. -/
theorem Blocking.goTo (blocking : shared.Blocking) {thread : Thread} {point : QueuePoint α}
    (outside : ∀ item, point = .pushAsleep item ∨ point = .pushWoken item →
      shared.queue.policy = .block) : (shared.goTo thread point).Blocking := by
  intro other item waits
  by_cases same : other = thread
  · rw [same, goTo_point_self] at waits
    exact outside item waits
  · rw [goTo_point_of_ne same] at waits
    exact blocking other item waits

/-- No move changes the capacity or the policy, or overfills the queue. -/
theorem Moved.queue_kept (within : shared.queue.items.length ≤ shared.queue.capacity)
    (moved : Moved shared move next) :
    next.queue.capacity = shared.queue.capacity ∧ next.queue.policy = shared.queue.policy ∧
      next.queue.items.length ≤ next.queue.capacity := by
  cases moved with
  | tried tries entered =>
      cases entered with
      | accepted isOpen room => exact ⟨rfl, rfl, by simpa [enter] using Nat.succ_le_of_lt room⟩
      | popped first =>
          simp only [first, List.length_cons] at within
          exact ⟨rfl, rfl, Nat.le_of_succ_le within⟩
      | _ => exact ⟨rfl, rfl, within⟩
  | _ => exact ⟨rfl, rfl, within⟩

theorem Moved.blocking (blocking : shared.Blocking) (moved : Moved shared move next) :
    next.Blocking := by
  cases moved with
  | @tried thread call point queue tries entered =>
      have policy : queue.policy = shared.queue.policy := by cases entered <;> rfl
      have waits : (shared.goTo thread point).Blocking := blocking.goTo fun item waits => by
        cases entered with
        | pushSleeps isOpen full blocks => exact blocks
        | _ => simp at waits
      intro other item asleep
      exact policy.trans (waits other item asleep)
  | allEmpty | allFull => exact (blocking.wakeAll _).goTo (by simp)
  | oneEmpty => exact (blocking.goTo (by simp)).goTo (by simp)
  | @oneFull thread sleeper answer item notifying asleep =>
      exact (blocking.goTo (by simp)).goTo fun _ _ => blocking sleeper item (.inl asleep)
  | @pushWakes thread item asleep =>
      exact blocking.goTo fun _ _ => blocking thread item (.inl asleep)
  | _ => exact blocking.goTo (by simp)

variable [Fintype Thread]

structure Kept (capacity : Nat) (policy : BackpressurePolicy) (shared : SharedQueue Thread α) :
    Prop where
  capacity_eq : shared.queue.capacity = capacity
  policy_eq : shared.queue.policy = policy
  within : shared.queue.items.length ≤ capacity
  blocking : shared.Blocking
  notEmpty : shared.notEmpty.Sound
  notFull : shared.notFull.Sound

variable {capacity : Nat} {policy : BackpressurePolicy} {move : QueueMove Thread α}

omit [DecidableEq Thread] in
theorem kept_fresh : (fresh capacity policy : SharedQueue Thread α).Kept capacity policy where
  capacity_eq := rfl
  policy_eq := rfl
  within := Nat.zero_le _
  blocking := fun _ _ asleep => by rcases asleep with asleep | asleep <;> cases asleep
  notEmpty := .of_awake fun _ => by simp [notEmpty, fresh, QueuePoint.emptyStage]
  notFull := .of_awake fun _ => by simp [notFull, fresh, QueuePoint.fullStage]

theorem Kept.step (kept : shared.Kept capacity policy) (taken : shared.step move = some next) :
    next.Kept capacity policy := by
  have moved := step_moved kept.blocking taken
  have within : shared.queue.items.length ≤ shared.queue.capacity :=
    kept.capacity_eq ▸ kept.within
  obtain ⟨capacity_eq, policy_eq, stillWithin⟩ := moved.queue_kept within
  have same := capacity_eq.trans kept.capacity_eq
  exact ⟨same, policy_eq.trans kept.policy_eq, same ▸ stillWithin, moved.blocking kept.blocking,
    moved.notEmpty_step.sound kept.notEmpty, (moved.notFull_step within).sound kept.notFull⟩

theorem kept_of_run {start finish : SharedQueue Thread α} {moves : List (QueueMove Thread α)}
    (kept : start.Kept capacity policy) (reached : run step start moves = some finish) :
    finish.Kept capacity policy :=
  Runs.invariant (Kept capacity policy) (fun kept taken => kept.step taken) kept reached

/--
Any number of threads use the queue: what they see is a history of the queue whose calls each take
effect at one moment, and these effects are those of a bounded queue that is first in, first out.
-/
theorem shared_queue_linearizable {finish : SharedQueue Thread α}
    {moves : List (QueueMove Thread α)}
    (reached : run step (fresh capacity policy) moves = some finish) :
    ∃ moments : List (AtomicObject.Moment Thread (QueueCall α)),
      run (AtomicObject.step BoundedQueue.call)
          (AtomicObject.fresh (BoundedQueue.fresh capacity policy)) moments =
        some finish.object ∧
      AtomicObject.history BoundedQueue.call
          (AtomicObject.fresh (BoundedQueue.fresh capacity policy)) moments =
        trace step observe (fresh capacity policy) moves ∧
      Fifo capacity policy
        (AtomicObject.effects BoundedQueue.call
          (AtomicObject.fresh (BoundedQueue.fresh capacity policy)) moments)
        finish.queue := by
  have simulated : ∀ {state : SharedQueue Thread α} {move next object},
      state.Kept capacity policy ∧ object = state.object → step state move = some next →
        ∃ moments after, run (AtomicObject.step BoundedQueue.call) object moments = some after ∧
          AtomicObject.history BoundedQueue.call object moments = observe state move ∧
          next.Kept capacity policy ∧ after = next.object := by
    rintro state move next object ⟨kept, rfl⟩ taken
    obtain ⟨moments, moved, seen⟩ := (step_moved kept.blocking taken).simulated
    exact ⟨moments, next.object, moved, seen, kept.step taken, rfl⟩
  obtain ⟨moments, after, moved, seen, -, rfl⟩ :=
    AtomicObject.linearizable
      (fun (shared : SharedQueue Thread α) object =>
        shared.Kept capacity policy ∧ object = shared.object)
      simulated ⟨kept_fresh, rfl⟩ reached
  exact ⟨moments, moved, seen,
    AtomicObject.effects_invariant (Fifo capacity policy)
      (fun fifo called => fifo.effect called) (fresh_fifo capacity policy) moved⟩

/-- A pop sleeps until another thread has pushed an item. -/
def popThenPush : List (QueueMove Bool Nat) :=
  [.call false .pop, .go false, .call true (.push 7), .go true, .notify true (some false), .go false, .go true,
    .notify false none, .go false]

theorem shared_queue_linearizable_pop :
    ∃ finish, run step (fresh 1 .block) popThenPush = some finish ∧
      trace step observe (fresh 1 .block) popThenPush =
        [.invoked false .pop, .invoked true (.push 7), .answered true (.pushed true),
          .answered false (.popped (some 7))] ∧
      ∃ moments, run (AtomicObject.step BoundedQueue.call)
          (AtomicObject.fresh (BoundedQueue.fresh 1 .block)) moments = some finish.object := by
  obtain ⟨finish, reached⟩ := Option.isSome_iff_exists.mp
    (show (run step (fresh 1 .block) popThenPush).isSome = true by decide)
  obtain ⟨moments, moved, seen, fifo⟩ := shared_queue_linearizable reached
  exact ⟨finish, reached, by decide, moments, moved⟩

end SharedQueue

end Ssim.Core
