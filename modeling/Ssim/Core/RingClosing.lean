import Ssim.Core.RingWakeups

/-!
# Closing the ring queue

The end of the items: when the queue is closed only while no push is under way, the consumer gets
every accepted item and then nothing.  A pop that has something to return, or is to return
nothing, returns after a bounded number of steps of the consumer alone.
-/

namespace Ssim.Core

variable {α : Type}

namespace RingQueue

open RingView (Consistent)
open Library.Parking (Side Stage)

theorem hasItem_iff {queue : RingQueue α} (consistent : Consistent queue.view) :
    queue.ring.hasItem = true ↔ queue.taken.length < queue.accepted.length := by
  have order := consistent.taken_le
  have room := consistent.accepted_le
  have bounded := consistent.capacity_le
  have head : queue.ring.head = UInt64.ofNat queue.accepted.length := consistent.head
  have tail : queue.ring.tail = UInt64.ofNat queue.taken.length := consistent.tail
  simp only [view] at order room bounded
  have same := Library.RingIndex.ofNat_eq_iff order (by omega)
  rw [Ring.hasItem, bne_iff_ne, head, tail, ne_comm, Ne, same]
  omega

theorem hasSpace_iff {queue : RingQueue α} (consistent : Consistent queue.view) :
    queue.ring.hasSpace = true ↔
      queue.accepted.length - queue.taken.length < queue.ring.capacity.toNat := by
  have order := consistent.taken_le
  have room := consistent.accepted_le
  have bounded := consistent.capacity_le
  have head : queue.ring.head = UInt64.ofNat queue.accepted.length := consistent.head
  have tail : queue.ring.tail = UInt64.ofNat queue.taken.length := consistent.tail
  simp only [view] at order room bounded
  have distance := Library.RingIndex.toNat_sub order (by omega)
  rw [Ring.hasSpace, decide_eq_true_iff, UInt64.lt_iff_toNat_lt, head, tail, distance]

/-! ## The end of the items -/

/-- The queue is closed only while no push is under way. -/
def ClosesIdle (queue : RingQueue α) (input : Input α) : Prop :=
  ∀ number, input = .close number → queue.producer = .idle

/-- The consumer has found the queue closed, and then looks for an item. -/
def sawClosed : PopPoint α → Bool
  | .tryPop (.locked true) | .loadHead (.locked true) => true
  | _ => false

structure Ending (queue : RingQueue α) : Prop where
  quiet : queue.closed = true →
    queue.producer = .idle ∨ ∃ item, queue.producer = .pushing .loadClosed item
  saw : ∀ point, queue.consumer = .popping point → sawClosed point = true → queue.closed = true
  ended : queue.consumer = .popping .unlockEmpty ∨ none ∈ queue.pops →
    queue.closed = true ∧ queue.ring.hasItem = false ∧ queue.consumer.phase = .resting
  shape : ∃ nothings,
    queue.pops = queue.pops.reduceOption.map some ++ List.replicate nothings none

section Ending

variable {queue next : RingQueue α}

/-- Nothing that another thread does is seen by the consumer but a wake-up. -/
theorem Ending.others (ending : Ending queue) (kept : ConsumerKept queue next)
    (closes : queue.closed = true → next.closed = true)
    (quiet : next.closed = true →
      next.producer = .idle ∨ ∃ item, next.producer = .pushing .loadClosed item)
    (item : queue.closed = true → next.ring.hasItem = queue.ring.hasItem)
    (pops : next.pops = queue.pops) : Ending next := by
  refine ⟨quiet, fun point popping saw => ?_, fun ended => ?_, by rw [pops]; exact ending.shape⟩
  · rcases kept with same | ⟨-, woken⟩
    · exact closes (ending.saw point (same ▸ popping) saw)
    · rw [woken] at popping
      cases popping
      cases saw
  · rw [pops] at ended
    have before : queue.consumer = .popping .unlockEmpty ∨ none ∈ queue.pops := by
      rcases kept with same | ⟨-, woken⟩
      · rwa [same] at ended
      · exact .inr (ended.resolve_left (by simp [woken]))
    obtain ⟨isClosed, empty, resting⟩ := ending.ended before
    refine ⟨closes isClosed, (item isClosed).trans empty, ?_⟩
    rcases kept with same | ⟨-, woken⟩
    · rw [same]
      exact resting
    · rw [woken]
      rfl

theorem Ending.quiet_of_kept (ending : Ending queue) (closed : next.closed = queue.closed)
    (kept : ProducerKept queue next) (isClosed : next.closed = true) :
    next.producer = .idle ∨ ∃ item, next.producer = .pushing .loadClosed item := by
  rw [closed] at isClosed
  rcases kept with same | ⟨item, asleep, -⟩
  · rw [same]
    exact ending.quiet isClosed
  · have quiet := ending.quiet isClosed
    simp [asleep] at quiet

/-- The consumer goes on within a pop. -/
theorem Ending.own (ending : Ending queue) {point : PopPoint α}
    (goes : next.consumer = .popping point) (closed : next.closed = queue.closed)
    (producer : next.producer = queue.producer) (pops : next.pops = queue.pops)
    (saw : sawClosed point = true → queue.closed = true)
    (unlock : point = .unlockEmpty → queue.closed = true ∧ next.ring.hasItem = false)
    (after : none ∈ queue.pops →
      next.ring.hasItem = queue.ring.hasItem ∧ point.phase = .resting) : Ending next := by
  refine ⟨ending.quiet_of_kept closed (.inl producer), fun other popping => ?_, fun ended => ?_,
    by rw [pops]; exact ending.shape⟩
  · rw [goes] at popping
    cases popping
    rw [closed]
    exact saw
  · rw [goes, pops] at ended
    rw [closed, goes]
    rcases ended with here | member
    · cases here
      exact ⟨(unlock rfl).1, (unlock rfl).2, rfl⟩
    · obtain ⟨isClosed, empty, -⟩ := ending.ended (.inr member)
      exact ⟨isClosed, (after member).1.trans empty, (after member).2⟩

/-- A pop returns an item. -/
theorem Ending.popped (ending : Ending queue) {item : α}
    (holding : queue.consumer.phase = .holding item) (goes : next.consumer = .idle)
    (closed : next.closed = queue.closed) (kept : ProducerKept queue next)
    (pops : next.pops = queue.pops ++ [some item]) : Ending next := by
  have before : none ∉ queue.pops := fun member => by
    have resting := (ending.ended (.inr member)).2.2
    rw [holding] at resting
    cases resting
  refine ⟨ending.quiet_of_kept closed kept, by simp [goes], fun ended => ?_, ⟨0, ?_⟩⟩
  · rw [goes, pops] at ended
    simp [before] at ended
  · obtain ⟨nothings, shape⟩ := ending.shape
    have none : nothings = 0 := by
      by_contra positive
      refine before ?_
      rw [shape]
      exact List.mem_append_right _ (List.mem_replicate.mpr ⟨positive, rfl⟩)
    rw [none, List.replicate_zero, List.append_nil] at shape
    rw [pops, List.reduceOption_append, List.map_append, ← shape, List.replicate_zero,
      List.append_nil]
    rfl

/-- A pop returns nothing. -/
theorem Ending.nothing (ending : Ending queue) (here : queue.consumer = .popping .unlockEmpty) :
    Ending (queue.release.popReturns none) := by
  obtain ⟨closed, empty, -⟩ := ending.ended (.inl here)
  refine ⟨ending.quiet, by simp [popReturns], fun _ => ⟨closed, empty, rfl⟩, ?_⟩
  obtain ⟨nothings, shape⟩ := ending.shape
  refine ⟨nothings + 1, ?_⟩
  have items : (queue.pops ++ [none]).reduceOption = queue.pops.reduceOption := by
    simp [List.reduceOption_append]
  show queue.pops ++ [none] = (queue.pops ++ [none]).reduceOption.map some ++ _
  rw [items, List.replicate_succ', ← List.append_assoc, ← shape]

/-- An item that looks to be there is there. -/
theorem hasItem_of_looksEmpty (consistent : Consistent queue.view)
    (filled : queue.ring.looksEmpty = false) : queue.ring.hasItem = true := by
  obtain ⟨seen, old, -, after⟩ := consistent.item_of_looksEmpty filled
  exact (hasItem_iff consistent).mpr (Nat.lt_of_lt_of_le after old)

theorem loadHead_looksEmpty (ring : Ring α) : ring.loadHead.looksEmpty = !ring.hasItem := by
  rw [Ring.hasItem, bne, Bool.not_not]
  exact BEq.comm

theorem sawClosed_loadHead (attempt : PopAttempt) :
    sawClosed (.loadHead attempt : PopPoint α) = sawClosed (.tryPop attempt : PopPoint α) := by
  rcases attempt with spin | wasClosed
  · rfl
  · cases wasClosed <;> rfl

theorem sawClosed_popFailed (attempt : PopAttempt) :
    sawClosed (popFailed attempt : PopPoint α) = false := by
  rcases attempt with spin | wasClosed
  · rw [popFailed]
    split <;> rfl
  · cases wasClosed <;> rfl

/-- Only an attempt that has found the queue closed ends the items. -/
theorem sawClosed_of_unlockEmpty {attempt : PopAttempt}
    (ends : (popFailed attempt : PopPoint α) = .unlockEmpty) :
    sawClosed (.loadHead attempt : PopPoint α) = true := by
  rcases attempt with spin | wasClosed
  · rw [popFailed] at ends
    split at ends <;> cases ends
  · cases wasClosed
    · cases ends
    · rfl

theorem Ending.not_ended (ending : Ending queue) (item : queue.ring.hasItem = true) :
    none ∉ queue.pops := fun member => by
  have empty := (ending.ended (.inr member)).2.1
  rw [item] at empty
  cases empty

theorem Ending.not_ended_of_phase (ending : Ending queue)
    (busy : queue.consumer.phase ≠ .resting) : none ∉ queue.pops :=
  fun member => busy (ending.ended (.inr member)).2.2

/-- The consumer goes on, has no item and does not look for one. -/
theorem Ending.rests (ending : Ending queue) {point : PopPoint α}
    (goes : next.consumer = .popping point) (closed : next.closed = queue.closed)
    (producer : next.producer = queue.producer) (pops : next.pops = queue.pops)
    (ring : next.ring = queue.ring) (looks : sawClosed point = false)
    (goesOn : point ≠ .unlockEmpty) (resting : point.phase = .resting) : Ending next :=
  ending.own goes closed producer pops (by simp [looks]) (fun here => absurd here goesOn)
    (fun _ => ⟨by rw [ring], resting⟩)

/-- The consumer goes on with an item. -/
theorem Ending.busy (ending : Ending queue) {point : PopPoint α}
    (busy : queue.consumer.phase ≠ .resting) (goes : next.consumer = .popping point)
    (closed : next.closed = queue.closed) (producer : next.producer = queue.producer)
    (pops : next.pops = queue.pops) (looks : sawClosed point = false)
    (goesOn : point ≠ .unlockEmpty) : Ending next :=
  ending.own goes closed producer pops (by simp [looks]) (fun here => absurd here goesOn)
    (fun member => absurd member (ending.not_ended_of_phase busy))

theorem Ending.popStep (ending : Ending queue) (consistent : Consistent queue.view)
    {point : PopPoint α} (popping : queue.consumer = .popping point)
    (taken : queue.popStep point = some next) : Ending next := by
  have phase : queue.consumer.phase = point.phase := by rw [popping]; rfl
  cases point with
  | tryPop attempt =>
      obtain rfl := Option.some.inj taken
      refine ending.own rfl rfl rfl rfl (fun saw => ?_) (fun here => ?_) (fun member => ⟨rfl, ?_⟩)
      · refine ending.saw _ popping ?_
        split at saw
        · rwa [sawClosed_loadHead] at saw
        · cases saw
      · split at here <;> cases here
      · split
        next => rfl
        next filled =>
          exact absurd member (ending.not_ended
            (hasItem_of_looksEmpty consistent (eq_false_of_ne_true filled)))
  | loadHead attempt =>
      obtain rfl := Option.some.inj taken
      have looks := loadHead_looksEmpty queue.ring
      refine ending.own rfl rfl rfl rfl (fun saw => ?_) (fun here => ?_) (fun member => ⟨rfl, ?_⟩)
      · split at saw
        · rw [sawClosed_popFailed] at saw
          cases saw
        · cases saw
      · split at here
        next empty =>
          refine ⟨ending.saw _ popping (sawClosed_of_unlockEmpty here), ?_⟩
          have none : queue.ring.hasItem = false := by simpa [empty] using looks
          exact none
        next => cases here
      · split
        next => exact popFailed_phase attempt
        next filled =>
          exact absurd member (ending.not_ended (by simpa [filled] using looks))
  | moveSlot attempt =>
      obtain ⟨item, -, rfl⟩ := Option.map_eq_some_iff.mp taken
      exact ending.busy (by simp [phase, PopPoint.phase]) rfl rfl rfl rfl rfl (by simp)
  | resetSlot attempt item =>
      obtain rfl := Option.some.inj taken
      exact ending.busy (by simp [phase, PopPoint.phase]) rfl rfl rfl rfl rfl (by simp)
  | storeTail attempt item =>
      obtain rfl := Option.some.inj taken
      refine ending.busy (by simp [phase, PopPoint.phase]) rfl rfl rfl rfl ?_ ?_
      · cases attempt <;> rfl
      · cases attempt <;> simp [popTaken]
  | lock =>
      obtain ⟨-, rfl⟩ := acquire_map_eq_some.mp taken
      exact ending.rests rfl rfl rfl rfl rfl rfl (by simp) rfl
  | loadClosed =>
      obtain rfl := Option.some.inj taken
      refine ending.own rfl rfl rfl rfl (fun saw => ?_) (by simp) (fun _ => ⟨rfl, rfl⟩)
      cases closed : queue.closed with
      | false => simp [closed, sawClosed] at saw
      | true => rfl
  | unlockEmpty =>
      obtain rfl := Option.some.inj taken
      exact ending.nothing popping
  | setWaiting =>
      obtain rfl := Option.some.inj taken
      exact ending.rests rfl rfl rfl rfl rfl rfl (by simp) rfl
  | waitClosed =>
      obtain rfl := Option.some.inj taken
      split <;> exact ending.rests rfl rfl rfl rfl rfl rfl (by simp) rfl
  | waitItem =>
      obtain rfl := Option.some.inj taken
      split <;> exact ending.rests rfl rfl rfl rfl rfl rfl (by simp) rfl
  | wait =>
      obtain rfl := Option.some.inj taken
      exact ending.rests rfl rfl rfl rfl rfl rfl (by simp) rfl
  | asleep => cases taken
  | woken =>
      obtain ⟨-, rfl⟩ := acquire_map_eq_some.mp taken
      exact ending.rests rfl rfl rfl rfl rfl rfl (by simp) rfl
  | clearWaiting =>
      obtain rfl := Option.some.inj taken
      exact ending.rests rfl rfl rfl rfl rfl rfl (by simp) rfl
  | unlockPopped item =>
      obtain rfl := Option.some.inj taken
      exact ending.busy (by simp [phase, PopPoint.phase]) rfl rfl rfl rfl rfl (by simp)
  | wakeLoad item =>
      obtain rfl := Option.some.inj taken
      split
      · exact ending.busy (by simp [phase, PopPoint.phase]) rfl rfl rfl rfl rfl (by simp)
      · exact ending.popped phase rfl rfl (.inl rfl) rfl
  | wakeLock item =>
      obtain ⟨-, rfl⟩ := acquire_map_eq_some.mp taken
      exact ending.busy (by simp [phase, PopPoint.phase]) rfl rfl rfl rfl rfl (by simp)
  | wakeUnlock item =>
      obtain rfl := Option.some.inj taken
      exact ending.busy (by simp [phase, PopPoint.phase]) rfl rfl rfl rfl rfl (by simp)
  | wakeNotify item =>
      obtain rfl := Option.some.inj taken
      obtain ⟨producer, notified, kept⟩ := queue.notifyFull_frame
      rw [notified]
      exact ending.popped phase rfl rfl kept rfl

theorem Ending.pushStep (ending : Ending queue) {point : PushPoint} {item : α}
    (pushing : queue.producer = .pushing point item)
    (taken : queue.pushStep item point = some next) : Ending next := by
  obtain ⟨⟨-, closed, pops⟩, kept⟩ := pushStep_frame taken
  cases isClosed : queue.closed with
  | true =>
      -- Only a push that is about to find the queue closed is under way.
      obtain ⟨other, here⟩ := (ending.quiet isClosed).resolve_left (by simp [pushing])
      obtain ⟨rfl, rfl⟩ := Producer.pushing.inj (pushing.symm.trans here)
      have refused : next = queue.pushReturns item false := by
        simpa [RingQueue.pushStep, isClosed, eq_comm] using taken
      rw [refused]
      exact ending.others (.inl rfl) id (fun _ => .inl rfl) (fun _ => rfl) rfl
  | false =>
      rw [isClosed] at closed
      exact ending.others kept (by simp [isClosed]) (by simp [closed]) (by simp [isClosed]) pops

/-- Every step that does not close the queue while a push is under way. -/
theorem Ending.step (ending : Ending queue) (consistent : Consistent queue.view)
    {input : Input α} (idle : ClosesIdle queue input) (taken : queue.step input = some next) :
    Ending next := by
  rcases step_cases taken with ⟨item, -, -, rfl⟩ | ⟨point, item, -, pushing, taken⟩ |
    ⟨-, -, rfl⟩ | ⟨point, -, popping, taken⟩ | ⟨number, rfl, -, rfl⟩ | ⟨number, -, taken⟩ |
    ⟨-, rfl⟩ | ⟨-, rfl⟩
  · exact ending.others (.inl rfl) id (fun _ => .inr ⟨item, rfl⟩) (fun _ => rfl) rfl
  · exact ending.pushStep pushing taken
  · exact ending.rests rfl rfl rfl rfl rfl rfl (by simp) rfl
  · exact ending.popStep consistent popping taken
  · exact ending.others (.inl rfl) (fun _ => rfl) (fun _ => .inl (idle number rfl))
      (fun _ => rfl) rfl
  · obtain ⟨-, ⟨ring, closed, pops⟩, producer, consumer⟩ := closeStep_frame taken
    exact ending.others consumer (by simp [closed]) (ending.quiet_of_kept closed producer)
      (by simp [ring]) pops
  · obtain ⟨producer, notified, kept⟩ := queue.notifyFull_frame
    rw [notified]
    exact ending.others (.inl rfl) id (ending.quiet_of_kept rfl kept) (fun _ => rfl) rfl
  · obtain ⟨consumer, notified, kept⟩ := queue.notifyEmpty_frame
    rw [notified]
    exact ending.others kept id ending.quiet (fun _ => rfl) rfl

end Ending

theorem fresh_ending {capacity : UInt64} {policy : BackpressurePolicy} {start : RingQueue α}
    (made : fresh capacity policy = some start) : Ending start := by
  obtain ⟨ring, -, rfl⟩ := Option.map_eq_some_iff.mp made
  exact ⟨by simp [initial], by simp [initial], by simp [initial], ⟨0, rfl⟩⟩

theorem run_ending {start finish : RingQueue α} {inputs : List (Input α)}
    (consistent : Consistent start.view) (ending : Ending start)
    (idle : Library.Runs.Meets step ClosesIdle start inputs)
    (reached : Library.Runs.run step start inputs = some finish) : Ending finish :=
  (Library.Runs.invariant_of_meets ClosesIdle
    (fun queue => Consistent queue.view ∧ Ending queue)
    (fun holds idle taken =>
      ⟨(step_view taken).consistent holds.1, holds.2.step holds.1 idle taken⟩)
    ⟨consistent, ending⟩ idle reached).2

/-! ## The consumer alone -/

/-- What the pop that is under way, or the next one, is to return. -/
def due (queue : RingQueue α) : Option α :=
  match queue.consumer.phase with
  | .holding item => some item
  | _ => queue.accepted[queue.taken.length]?

/-- No other thread is in a call, and a pop need not wait. -/
structure Draining (queue : RingQueue α) : Prop where
  consistent : Consistent queue.view
  sound : queue.parking.Sound
  producer : queue.producer = .idle
  closers : ∀ number, queue.closers number = .idle
  sure : queue.closed = true ∨ queue.ring.hasItem = true ∨
    ∃ item, queue.consumer.phase = .holding item
  ended : queue.consumer = .popping .unlockEmpty → queue.ring.hasItem = false

/-- More than the steps of the consumer before the pop returns. -/
def rank (item : Bool) : PopPoint α → Nat
  | .wakeNotify _ | .unlockEmpty => 1
  | .wakeUnlock _ => 2
  | .wakeLock _ => 3
  | .wakeLoad _ => 4
  | .unlockPopped _ => 5
  | .storeTail _ _ => 6
  | .resetSlot _ _ => 7
  | .moveSlot _ => 8
  | .loadHead (.locked true) => 9
  | .tryPop (.locked true) => 10
  | .loadClosed => 11
  | .clearWaiting | .lock => 12
  | .waitItem => 13
  | .waitClosed => 14
  | .setWaiting | .woken => 15
  -- An attempt that fails now goes through the wait and finds the queue closed.
  | .loadHead (.locked false) => if item then 9 else 16
  | .tryPop (.locked false) => if item then 10 else 17
  | .loadHead (.spinning spin) => 2 * (kSpinTries - spin) + 13
  | .tryPop (.spinning spin) => 2 * (kSpinTries - spin) + 14
  | .wait | .asleep => 0

section Draining

variable {queue next : RingQueue α} {point after : PopPoint α}

/-- Nobody is where it has the mutex. -/
theorem free_of_outside (sound : queue.parking.Sound)
    (producer : queue.producer.stage.holds = false)
    (consumer : queue.consumer.stage.holds = false)
    (closers : ∀ number, queue.closers number = .idle) : queue.mutex = none := by
  have owned := sound.owned
  cases mutex : queue.mutex with
  | none => rfl
  | some owner =>
      have parked : queue.parking.mutex = some owner.owner := by simp [parking, mutex]
      cases owner with
      | producer =>
          have holds := (owned.side .left).mp parked
          simp [parking, Side.both, producer] at holds
      | consumer =>
          have holds := (owned.side .right).mp parked
          simp [parking, Side.both, consumer] at holds
      | closer number =>
          have unlock := (owned.closer number).mp parked
          simp [parking, closers, Closer.stage] at unlock

theorem Draining.free (draining : Draining queue) (popping : queue.consumer = .popping point)
    (outside : point.stage.holds = false) : queue.mutex = none :=
  free_of_outside draining.sound (by rw [draining.producer]; rfl)
    (by rw [popping]; exact outside) draining.closers

theorem Draining.not_waiting (draining : Draining queue) : queue.producerWaiting = false := by
  simpa [parking, Side.both, draining.producer, Stage.waits] using
    draining.sound.owned.flag .left

/-- The consumer is not about to sleep in vain. -/
theorem Draining.not_parked (draining : Draining queue) (popping : queue.consumer = .popping point)
    (parked : point = .wait ∨ point = .asleep) : False := by
  have covered := draining.sound.covered .right
  have quiet : queue.parking.stage (Side.other .right) = .running := by
    simp [parking, Side.both, Side.other, draining.producer]
  have resting : ∀ item, queue.consumer.phase ≠ .holding item := by
    rcases parked with rfl | rfl <;> simp [popping, PopPoint.phase]
  have stage : queue.parking.stage .right = .committed ∨ queue.parking.stage .right = .asleep := by
    rcases parked with rfl | rfl <;> simp [parking, Side.both, popping, PopPoint.stage]
  rcases draining.sure with closed | item | ⟨item, holding⟩
  · rcases stage with committed | asleep
    · obtain ⟨number, lock⟩ := covered.checked (.inr committed) closed
      simp [parking, draining.closers, Closer.stage] at lock
    · obtain ⟨number, notifies⟩ := covered.asleep_closed asleep closed
      simp [parking, draining.closers, Closer.stage, Library.Parking.Closer.notifies] at notifies
  · rcases stage with committed | asleep
    · have outside := covered.committed committed item
      rw [quiet] at outside
      cases outside
    · have wakes := covered.asleep_ready asleep item
      rw [quiet] at wakes
      cases wakes
  · exact resting item holding

/-- At the check for an item the queue is open, or closing threads are under way. -/
theorem Draining.hasItem_of_waitItem (draining : Draining queue)
    (popping : queue.consumer = .popping .waitItem) : queue.ring.hasItem = true := by
  rcases draining.sure with closed | item | ⟨item, holding⟩
  · have stage : queue.parking.stage .right = .checked := by
      simp [parking, Side.both, popping, PopPoint.stage]
    obtain ⟨number, lock⟩ := (draining.sound.covered .right).checked (.inl stage) closed
    simp [parking, draining.closers, Closer.stage] at lock
  · exact item
  · simp [popping, PopPoint.phase] at holding

theorem Draining.goes (draining : Draining queue) (popping : queue.consumer = .popping point)
    (taken : queue.popStep point = some next) (goes : next.consumer = .popping after)
    (sure : next.closed = true ∨ next.ring.hasItem = true ∨
      ∃ item, next.consumer.phase = .holding item)
    (ended : after = .unlockEmpty → next.ring.hasItem = false) : Draining next := by
  have stepped : queue.step .consumer = some next := by simpa [step, popping] using taken
  obtain ⟨⟨closers, -⟩, kept⟩ := popStep_frame taken
  refine ⟨(step_view stepped).consistent draining.consistent,
    (step_parking stepped).sound draining.sound, ?_, ?_, sure, fun here => ?_⟩
  · rcases kept with same | ⟨item, asleep, -⟩
    · rw [same]
      exact draining.producer
    · rw [draining.producer] at asleep
      cases asleep
  · rw [closers]
    exact draining.closers
  · rw [goes] at here
    exact ended (Consumer.popping.inj here)

theorem due_of_not_holding (empty : queue.consumer.phase.unanswered = []) :
    queue.due = queue.accepted[queue.taken.length]? := by
  unfold due
  split
  next item holding => simp [holding, PopPhase.unanswered] at empty
  next => rfl

theorem due_of_holding {item : α} (holding : queue.consumer.phase = .holding item) :
    queue.due = some item := by
  simp [due, holding]

/-- The pop returns what is due, or goes on and is closer to its return. -/
def Advances (queue next : RingQueue α) (point : PopPoint α) : Prop :=
  (next.consumer = .idle ∧ next.pops = queue.pops ++ [queue.due]) ∨
    ∃ after, next.consumer = .popping after ∧ Draining next ∧ next.due = queue.due ∧
      next.pops = queue.pops ∧ rank next.ring.hasItem after < rank queue.ring.hasItem point

/-- The consumer goes on and has no item yet. -/
theorem Draining.seeks (draining : Draining queue) (popping : queue.consumer = .popping point)
    (taken : queue.popStep point = some next) (goes : next.consumer = .popping after)
    (item : next.ring.hasItem = queue.ring.hasItem) (same : next.taken = queue.taken)
    (pops : next.pops = queue.pops) (empty : point.phase.unanswered = [])
    (still : after.phase.unanswered = [])
    (less : rank queue.ring.hasItem after < rank queue.ring.hasItem point)
    (ended : after = .unlockEmpty → queue.ring.hasItem = false) : Advances queue next point := by
  obtain ⟨⟨-, closed, -, accepted, -⟩, -⟩ := popStep_frame taken
  refine .inr ⟨after, goes, draining.goes popping taken goes ?_ (by rwa [item]), ?_, pops, by
    rwa [item]⟩
  · rw [closed, item]
    rcases draining.sure with closed | item | ⟨held, holding⟩
    · exact .inl closed
    · exact .inr (.inl item)
    · rw [popping, Consumer.phase_popping] at holding
      simp [holding, PopPhase.unanswered] at empty
  · rw [due_of_not_holding (by rw [goes]; exact still),
      due_of_not_holding (by rw [popping]; exact empty), accepted, same]

/-- The consumer goes on with the item that it has taken. -/
theorem Draining.holds (draining : Draining queue) (popping : queue.consumer = .popping point)
    (taken : queue.popStep point = some next) (goes : next.consumer = .popping after)
    (pops : next.pops = queue.pops) {item : α} (holding : point.phase = .holding item)
    (still : after.phase = .holding item) {steps : Nat} (here : ∀ any, rank any point = steps + 1)
    (there : ∀ any, rank any after = steps) : Advances queue next point := by
  refine .inr ⟨after, goes, draining.goes popping taken goes
    (.inr (.inr ⟨item, by rw [goes]; exact still⟩)) (fun ends => ?_), ?_, pops, ?_⟩
  · rw [ends] at still
    cases still
  · rw [due_of_holding (by rw [goes]; exact still), due_of_holding (by rw [popping]; exact holding)]
  · rw [here, there]
    exact Nat.lt_succ_self steps

theorem Draining.storeTail (draining : Draining queue) {attempt : PopAttempt} {item : α}
    (popping : queue.consumer = .popping (.storeTail attempt item))
    (taken : queue.popStep (.storeTail attempt item) = some next) :
    Advances queue next (.storeTail attempt item) := by
  have phase : queue.view.consumer = .emptied item := by
    simp [view, popping, PopPoint.phase]
  have expected : queue.accepted[queue.taken.length]? = some item :=
    draining.consistent.found item (.inr phase)
  have still := popTaken_phase attempt item
  have here : queue.due = some item := by
    rw [due_of_not_holding (by simp [popping, PopPoint.phase, PopPhase.unanswered]), expected]
  have goes : next.consumer = .popping (popTaken item attempt) := by
    obtain rfl := Option.some.inj taken
    rfl
  refine .inr ⟨popTaken item attempt, goes, draining.goes popping taken goes
    (.inr (.inr ⟨item, by rw [goes]; exact still⟩)) (fun ends => ?_), ?_, ?_, ?_⟩
  · rw [ends] at still
    cases still
  · rw [here, due_of_holding (by rw [goes]; exact still)]
  · obtain rfl := Option.some.inj taken
    rfl
  · cases attempt <;> simp [popTaken, rank]

theorem rank_loadHead (item : Bool) (attempt : PopAttempt) :
    rank item (.tryPop attempt : PopPoint α) = rank item (.loadHead attempt : PopPoint α) + 1 := by
  rcases attempt with spin | wasClosed
  · rfl
  · cases wasClosed <;> cases item <;> rfl

theorem rank_moveSlot (item : Bool) (attempt : PopAttempt) :
    rank item (.moveSlot attempt : PopPoint α) < rank item (.loadHead attempt : PopPoint α) := by
  rcases attempt with spin | wasClosed
  · simp only [rank]
    omega
  · cases wasClosed <;> cases item <;> simp [rank]

theorem rank_popFailed (attempt : PopAttempt) :
    rank false (popFailed attempt : PopPoint α) < rank false (.loadHead attempt : PopPoint α) := by
  rcases attempt with spin | wasClosed
  · rw [popFailed]
    split
    next more =>
      simp only [rank]
      omega
    next =>
      simp only [rank]
      omega
  · cases wasClosed <;> simp [popFailed, rank]

theorem Draining.popStep (draining : Draining queue) (popping : queue.consumer = .popping point) :
    ∃ next, queue.popStep point = some next ∧ Advances queue next point := by
  cases point with
  | tryPop attempt =>
      refine ⟨_, rfl, draining.seeks popping rfl rfl rfl rfl rfl rfl ?_ ?_ ?_⟩
      · split <;> rfl
      · have next := rank_moveSlot (α := α) queue.ring.hasItem attempt
        have more := rank_loadHead (α := α) queue.ring.hasItem attempt
        split <;> omega
      · split <;> simp
  | loadHead attempt =>
      have looks := loadHead_looksEmpty queue.ring
      refine ⟨_, rfl, draining.seeks popping rfl rfl rfl rfl rfl rfl ?_ ?_ ?_⟩
      · split
        · rw [popFailed_phase]
          rfl
        · rfl
      · split
        next empty =>
          have none : queue.ring.hasItem = false := by simpa [empty] using looks
          rw [none]
          exact rank_popFailed attempt
        next => exact rank_moveSlot _ attempt
      · split
        next empty => exact fun _ => by simpa [empty] using looks
        next => simp
  | moveSlot attempt =>
      have reading : queue.view.consumer.reading = true := by
        simp [view, popping, PopPoint.phase, PopPhase.reading]
      obtain ⟨item, front, -⟩ := draining.consistent.front_slot reading
      have taken : queue.popStep (.moveSlot attempt) =
          some (queue.popAt (.resetSlot attempt item)) :=
        Option.map_eq_some_iff.mpr ⟨item, front, rfl⟩
      exact ⟨_, taken, draining.seeks popping taken rfl rfl rfl rfl rfl rfl (by simp [rank])
        (by simp)⟩
  | resetSlot attempt item =>
      exact ⟨_, rfl, draining.seeks popping rfl rfl rfl rfl rfl rfl rfl (by simp [rank]) (by simp)⟩
  | storeTail attempt item => exact ⟨_, rfl, draining.storeTail popping rfl⟩
  | lock =>
      have free := draining.free popping rfl
      have taken : queue.popStep .lock =
          some ({ queue with mutex := some .consumer }.popAt .loadClosed) :=
        acquire_map_eq_some.mpr ⟨free, rfl⟩
      exact ⟨_, taken, draining.seeks popping taken rfl rfl rfl rfl rfl rfl (by simp [rank])
        (by simp)⟩
  | loadClosed =>
      refine ⟨_, rfl, draining.seeks popping rfl rfl rfl rfl rfl rfl rfl ?_ (by simp)⟩
      rcases draining.sure with closed | item | ⟨item, holding⟩
      · simp [closed, rank]
      · cases queue.closed <;> simp [item, rank]
      · simp [popping, PopPoint.phase] at holding
  | unlockEmpty =>
      refine ⟨_, rfl, .inl ⟨rfl, ?_⟩⟩
      have empty := draining.ended popping
      have all : queue.accepted.length ≤ queue.taken.length := by
        have iff := hasItem_iff draining.consistent
        rw [empty] at iff
        simpa using iff
      have nothing : queue.due = none := by
        rw [due_of_not_holding (by simp [popping, PopPoint.phase, PopPhase.unanswered]),
          List.getElem?_eq_none all]
      rw [nothing]
      rfl
  | setWaiting =>
      exact ⟨_, rfl, draining.seeks popping rfl rfl rfl rfl rfl rfl rfl (by simp [rank]) (by simp)⟩
  | waitClosed =>
      refine ⟨_, rfl, draining.seeks popping rfl rfl rfl rfl rfl rfl ?_ ?_ ?_⟩
      · split <;> rfl
      · split <;> simp [rank]
      · split <;> simp
  | waitItem =>
      have item := draining.hasItem_of_waitItem popping
      have taken : queue.popStep .waitItem = some (queue.popAt .clearWaiting) := by
        simp [RingQueue.popStep, item]
      exact ⟨_, taken, draining.seeks popping taken rfl rfl rfl rfl rfl rfl (by simp [rank])
        (by simp)⟩
  | wait => exact absurd (.inl rfl) (draining.not_parked popping)
  | asleep => exact absurd (.inr rfl) (draining.not_parked popping)
  | woken =>
      have free := draining.free popping rfl
      have taken : queue.popStep .woken =
          some ({ queue with mutex := some .consumer }.popAt .waitClosed) :=
        acquire_map_eq_some.mpr ⟨free, rfl⟩
      exact ⟨_, taken, draining.seeks popping taken rfl rfl rfl rfl rfl rfl (by simp [rank])
        (by simp)⟩
  | clearWaiting =>
      exact ⟨_, rfl, draining.seeks popping rfl rfl rfl rfl rfl rfl rfl (by simp [rank]) (by simp)⟩
  | unlockPopped item =>
      exact ⟨_, rfl, draining.holds popping rfl rfl rfl rfl rfl (fun _ => rfl) (fun _ => rfl)⟩
  | wakeLoad item =>
      have taken : queue.popStep (.wakeLoad item) = some (queue.popReturns (some item)) := by
        simp [RingQueue.popStep, draining.not_waiting]
      have due : queue.due = some item := due_of_holding (by simp [popping, PopPoint.phase])
      exact ⟨_, taken, .inl ⟨rfl, by rw [due]; rfl⟩⟩
  | wakeLock item =>
      have free := draining.free popping rfl
      have taken : queue.popStep (.wakeLock item) =
          some ({ queue with mutex := some .consumer }.popAt (.wakeUnlock item)) :=
        acquire_map_eq_some.mpr ⟨free, rfl⟩
      exact ⟨_, taken, draining.holds popping taken rfl rfl rfl rfl (fun _ => rfl) (fun _ => rfl)⟩
  | wakeUnlock item =>
      exact ⟨_, rfl, draining.holds popping rfl rfl rfl rfl rfl (fun _ => rfl) (fun _ => rfl)⟩
  | wakeNotify item =>
      obtain ⟨producer, notified, -⟩ := queue.notifyFull_frame
      have due : queue.due = some item := due_of_holding (by simp [popping, PopPoint.phase])
      exact ⟨_, rfl, .inl ⟨rfl, by rw [notified, due]; rfl⟩⟩

end Draining

/-! ## Whole calls -/

/-- Steps of one thread until it has returned. -/
def untilIdle (idle : RingQueue α → Bool) (own : Input α) : Nat → RingQueue α → Option (RingQueue α)
  | 0, queue => if idle queue then some queue else none
  | fuel + 1, queue =>
      if idle queue then some queue else (queue.step own).bind (untilIdle idle own fuel)

def producerIdle (queue : RingQueue α) : Bool :=
  match queue.producer with
  | .idle => true
  | .pushing _ _ => false

def consumerIdle (queue : RingQueue α) : Bool :=
  match queue.consumer with
  | .idle => true
  | .popping _ => false

theorem untilIdle_of_idle {idle : RingQueue α → Bool} {own : Input α} {queue : RingQueue α}
    (returned : idle queue = true) (fuel : Nat) : untilIdle idle own fuel queue = some queue := by
  cases fuel <;> simp [untilIdle, returned]

theorem untilIdle_of_step {idle : RingQueue α → Bool} {own : Input α} {queue next : RingQueue α}
    (busy : idle queue = false) (taken : queue.step own = some next) (fuel : Nat) :
    untilIdle idle own (fuel + 1) queue = untilIdle idle own fuel next := by
  simp [untilIdle, busy, taken]

/-- A call that returns has taken a run of the thread's own steps. -/
theorem run_of_untilIdle {idle : RingQueue α → Bool} {own : Input α} {queue finish : RingQueue α}
    {fuel : Nat} (returned : untilIdle idle own fuel queue = some finish) :
    ∃ steps, Library.Runs.run step queue (List.replicate steps own) = some finish := by
  induction fuel generalizing queue with
  | zero =>
      simp only [untilIdle] at returned
      split at returned
      · exact ⟨0, returned⟩
      · cases returned
  | succ fuel ih =>
      simp only [untilIdle] at returned
      split at returned
      · exact ⟨0, returned⟩
      · obtain ⟨next, taken, later⟩ := Option.bind_eq_some_iff.mp returned
        obtain ⟨steps, reached⟩ := ih later
        refine ⟨steps + 1, ?_⟩
        rw [List.replicate_succ, Library.Runs.run_cons, taken]
        exact reached

/-- What a pop leaves as it is. -/
structure PopFrame (queue finish : RingQueue α) : Prop where
  closers : finish.closers = queue.closers
  closed : finish.closed = queue.closed
  producer : finish.producer = queue.producer
  pushes : finish.pushes = queue.pushes
  accepted : finish.accepted = queue.accepted
  dropped : finish.dropped = queue.dropped
  policy : finish.policy = queue.policy

theorem Draining.frame {queue next : RingQueue α} (draining : Draining queue) {point : PopPoint α}
    (taken : queue.popStep point = some next) : PopFrame queue next := by
  obtain ⟨⟨closers, closed, pushes, accepted, dropped, policy⟩, kept⟩ := popStep_frame taken
  refine ⟨closers, closed, kept.resolve_right ?_, pushes, accepted, dropped, policy⟩
  simp [draining.producer]

/-- A pop that need not wait returns what is due. -/
theorem Draining.returns {queue : RingQueue α} (draining : Draining queue) {point : PopPoint α}
    (popping : queue.consumer = .popping point) {fuel : Nat}
    (enough : rank queue.ring.hasItem point < fuel) :
    ∃ finish, untilIdle consumerIdle .consumer fuel queue = some finish ∧
      finish.consumer = .idle ∧ finish.pops = queue.pops ++ [queue.due] ∧
      PopFrame queue finish := by
  induction fuel generalizing queue point with
  | zero => omega
  | succ fuel ih =>
      have busy : queue.consumerIdle = false := by simp [consumerIdle, popping]
      obtain ⟨next, taken, advances⟩ := draining.popStep popping
      have stepped : queue.step .consumer = some next := by simpa [step, popping] using taken
      have frame := draining.frame taken
      rw [untilIdle_of_step busy stepped]
      rcases advances with ⟨idle, pops⟩ | ⟨after, goes, still, due, pops, less⟩
      · exact ⟨next, untilIdle_of_idle (by simp [consumerIdle, idle]) fuel, idle, pops, frame⟩
      · obtain ⟨finish, returned, idle, answered, rest⟩ := ih still goes (by omega)
        refine ⟨finish, returned, idle, by rw [answered, pops, due], ?_⟩
        exact ⟨rest.closers.trans frame.closers, rest.closed.trans frame.closed,
          rest.producer.trans frame.producer, rest.pushes.trans frame.pushes,
          rest.accepted.trans frame.accepted, rest.dropped.trans frame.dropped,
          rest.policy.trans frame.policy⟩

/-- The steps that are enough for every call that need not wait. -/
def callSteps : Nat := 143

theorem rank_lt_callSteps (item : Bool) (point : PopPoint α) : rank item point < callSteps := by
  cases point with
  | tryPop attempt | loadHead attempt =>
      rcases attempt with spin | wasClosed
      · simp only [rank, kSpinTries, callSteps]
        omega
      · cases wasClosed <;> cases item <;> simp [rank, callSteps]
  | _ => simp [rank, callSteps]

end RingQueue

end Ssim.Core
