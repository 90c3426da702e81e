import Mathlib.Algebra.Order.BigOperators.Group.Finset
import Ssim.Core.QueueSharing

/-!
# Progress of the bounded queue

A move that continues a call brings the calls nearer to their end, also where it wakes a sleeper
that finds nothing and sleeps again.  So the calls under way settle, and what is asleep then waits
for what only a new call can bring.
-/

namespace Ssim.Core

open Library Runs

variable {Thread α : Type}

/-- The moves that a thread in a call may still cause, its own and those of whom it wakes. -/
def QueuePoint.weight (threads : Nat) : QueuePoint α → Nat
  | idle => 0
  | returning _ => 1
  | notifyEmpty _ | notifyFull _ => 3
  | pushAsleep _ | popAsleep => 3
  | pushWoken _ | popWoken => 4
  | notifyAllFull => threads + 2
  | notifyAllEmpty => 2 * threads + 3
  | calling _ => 2 * threads + 5

namespace QueuePoint

theorem weight_le (threads : Nat) (point : QueuePoint α) :
    point.weight threads ≤ 2 * threads + 5 := by
  cases point <;> simp only [weight] <;> omega

theorem weight_woken (threads : Nat) (point : QueuePoint α) :
    point.woken.weight threads ≤ point.weight threads + 1 := by
  cases point <;> simp [woken, weight]

end QueuePoint

/-- What a thread does with the mutex brings its call forward. -/
theorem Entered.weight_lt {queue next : BoundedQueue α} {call : QueueCall α}
    {before after : QueuePoint α} (threads : Nat) (tries : before.tries = some call)
    (entered : Entered queue call after next) :
    after.weight threads < before.weight threads := by
  cases before with
  | calling =>
      cases entered <;> simp only [QueuePoint.weight] <;> omega
  | pushWoken | popWoken =>
      obtain rfl := Option.some.inj tries
      cases entered <;> simp [QueuePoint.weight]
  | _ => cases tries

/-- The move of a thread in a call, and not a wake-up for no reason. -/
def QueueMove.continues : QueueMove Thread α → Bool
  | go _ | notify _ _ => true
  | call _ _ | wake _ => false

namespace SharedQueue

variable [Fintype Thread]

def remaining (shared : SharedQueue Thread α) : Nat :=
  ∑ thread, (shared.point thread).weight (Fintype.card Thread)

theorem remaining_le (shared : SharedQueue Thread α) :
    shared.remaining ≤ Fintype.card Thread * (2 * Fintype.card Thread + 5) := by
  have each := Finset.sum_le_card_nsmul Finset.univ
    (fun thread => (shared.point thread).weight (Fintype.card Thread))
    (2 * Fintype.card Thread + 5) fun thread _ => QueuePoint.weight_le _ _
  simpa [remaining] using each

theorem remaining_wakeAll (shared : SharedQueue Thread α) (sleeps : QueuePoint α → Bool) :
    (shared.wakeAll sleeps).remaining ≤ shared.remaining + Fintype.card Thread := by
  have each : ∀ thread, ((shared.wakeAll sleeps).point thread).weight (Fintype.card Thread) ≤
      (shared.point thread).weight (Fintype.card Thread) + 1 := by
    intro thread
    simp only [wakeAll]
    split
    · exact QueuePoint.weight_woken _ _
    · exact Nat.le_succ _
  calc (shared.wakeAll sleeps).remaining
      ≤ ∑ thread, ((shared.point thread).weight (Fintype.card Thread) + 1) :=
        Finset.sum_le_sum fun thread _ => each thread
    _ = shared.remaining + Fintype.card Thread := by
        rw [Finset.sum_add_distrib]
        simp [remaining]

variable [DecidableEq Thread] {shared next : SharedQueue Thread α} {move : QueueMove Thread α}

variable (shared) in
theorem remaining_goTo (thread : Thread) (point : QueuePoint α) :
    (shared.goTo thread point).remaining + (shared.point thread).weight (Fintype.card Thread) =
      shared.remaining + point.weight (Fintype.card Thread) :=
  WaitingRoom.sum_update shared.point (QueuePoint.weight (Fintype.card Thread)) thread point

theorem Moved.remaining_lt (moved : Moved shared move next) (continues : move.continues = true) :
    next.remaining < shared.remaining := by
  have one {base : SharedQueue Thread α} {thread : Thread} {point : QueuePoint α}
      (nearer : point.weight (Fintype.card Thread) <
        (base.point thread).weight (Fintype.card Thread)) :
      (base.goTo thread point).remaining < base.remaining := by
    have moved := remaining_goTo base thread point
    omega
  cases moved with
  | call | popWakes | pushWakes => cases continues
  | tried tries entered => exact one (entered.weight_lt _ tries)
  | @allEmpty thread closing =>
      have woken := remaining_wakeAll shared QueuePoint.sleepsEmpty
      have moved := remaining_goTo (shared.wakeAll QueuePoint.sleepsEmpty) thread
        .notifyAllFull
      simp [wakeAll, closing, QueuePoint.sleepsEmpty, QueuePoint.weight] at moved woken ⊢
      omega
  | @allFull thread closing =>
      have woken := remaining_wakeAll shared QueuePoint.sleepsFull
      have moved := remaining_goTo (shared.wakeAll QueuePoint.sleepsFull) thread
        (.returning .done)
      simp [wakeAll, closing, QueuePoint.sleepsFull, QueuePoint.weight] at moved woken ⊢
      omega
  | returned returning => exact one (by simp [returning, QueuePoint.weight])
  | @oneEmpty thread sleeper answer notifying asleep =>
      have different : sleeper ≠ thread := by
        rintro rfl
        rw [asleep] at notifying
        cases notifying
      have first := remaining_goTo shared thread (.returning answer)
      have second := remaining_goTo (shared.goTo thread (.returning answer)) sleeper
        .popWoken
      rw [goTo_point_of_ne different] at second
      simp only [notifying, asleep, QueuePoint.weight] at first second
      omega
  | @oneFull thread sleeper answer item notifying asleep =>
      have different : sleeper ≠ thread := by
        rintro rfl
        rw [asleep] at notifying
        cases notifying
      have first := remaining_goTo shared thread (.returning answer)
      have second := remaining_goTo (shared.goTo thread (.returning answer)) sleeper
        (.pushWoken item)
      rw [goTo_point_of_ne different] at second
      simp only [notifying, asleep, QueuePoint.weight] at first second
      omega
  | nobodyEmpty notifying | nobodyFull notifying =>
      exact one (by simp [notifying, QueuePoint.weight])

variable {capacity : Nat} {policy : BackpressurePolicy}

theorem Kept.continuation_ends {last : SharedQueue Thread α} {more : List (QueueMove Thread α)}
    (kept : shared.Kept capacity policy) (continues : ∀ move ∈ more, move.continues = true)
    (reached : run SharedQueue.step shared more = some last) :
    more.length + last.remaining ≤ shared.remaining := by
  induction more generalizing shared with
  | nil =>
      obtain rfl := Option.some.inj reached
      simp
  | cons move more ih =>
      rw [run_cons] at reached
      obtain ⟨next, taken, later⟩ := Option.bind_eq_some_iff.mp reached
      have nearer := (step_moved kept.blocking taken).remaining_lt
        (continues move List.mem_cons_self)
      have rest := ih (kept.step taken) (fun other inMore =>
        continues other (List.mem_cons_of_mem _ inMore)) later
      simp only [List.length_cons]
      omega

/-- No call under way can go on. -/
def Stuck (shared : SharedQueue Thread α) : Prop :=
  ∀ move, move.continues = true → shared.step move = none

theorem exists_wakeOne (shared : SharedQueue Thread α) (sleeps : QueuePoint α → Bool) :
    ∃ sleeper, (shared.wakeOne sleeps sleeper).isSome = true := by
  by_cases nobody : ∀ thread, sleeps (shared.point thread) = false
  · exact ⟨none, by simp only [wakeOne, nobody, implies_true, if_true, Option.isSome_some]⟩
  · obtain ⟨sleeper, asleep⟩ := not_forall.mp nobody
    rw [Bool.not_eq_false] at asleep
    exact ⟨some sleeper, by simp only [wakeOne, asleep, if_true, Option.isSome_some]⟩

theorem Stuck.waits (stuck : shared.Stuck) (thread : Thread) :
    shared.point thread = .idle ∨ shared.point thread = .popAsleep ∨
      ∃ item, shared.point thread = .pushAsleep item := by
  have still := stuck (.go thread) rfl
  cases at_ : shared.point thread with
  | idle => exact .inl rfl
  | popAsleep => exact .inr (.inl rfl)
  | pushAsleep item => exact .inr (.inr ⟨item, rfl⟩)
  | notifyEmpty answer =>
      obtain ⟨sleeper, wakes⟩ :=
        exists_wakeOne (shared.goTo thread (.returning answer)) QueuePoint.sleepsEmpty
      have silent := stuck (.notify thread sleeper) rfl
      simp only [step, at_] at silent
      simp [silent] at wakes
  | notifyFull answer =>
      obtain ⟨sleeper, wakes⟩ :=
        exists_wakeOne (shared.goTo thread (.returning answer)) QueuePoint.sleepsFull
      have silent := stuck (.notify thread sleeper) rfl
      simp only [step, at_] at silent
      simp [silent] at wakes
  | _ => simp [step, at_] at still

/-- Whoever still waits, waits for what only a new call can bring. -/
structure Calm (shared : SharedQueue Thread α) : Prop where
  waits : ∀ thread, shared.point thread = .idle ∨ shared.point thread = .popAsleep ∨
    ∃ item, shared.point thread = .pushAsleep item
  pops : ∀ thread, shared.point thread = .popAsleep →
    shared.queue.closed = false ∧ shared.queue.items = []
  pushes : ∀ thread item, shared.point thread = .pushAsleep item →
    shared.queue.closed = false ∧ shared.queue.policy = .block ∧
      shared.queue.items.length = shared.queue.capacity

theorem Kept.calm_of_stuck (kept : shared.Kept capacity policy) (stuck : shared.Stuck) :
    shared.Calm := by
  have quietEmpty : shared.notEmpty.Quiet := fun thread => by
    rcases stuck.waits thread with at_ | at_ | ⟨item, at_⟩ <;>
      simp [SharedQueue.notEmpty, at_, QueuePoint.emptyStage]
  have quietFull : shared.notFull.Quiet := fun thread => by
    rcases stuck.waits thread with at_ | at_ | ⟨item, at_⟩ <;>
      simp [SharedQueue.notFull, at_, QueuePoint.fullStage]
  refine ⟨stuck.waits, fun thread asleep => ?_, fun thread item asleep => ?_⟩
  · obtain ⟨isOpen, none⟩ := kept.notEmpty.asleep_of_quiet quietEmpty
      (show shared.notEmpty.stage thread = .asleep by
        simp [SharedQueue.notEmpty, asleep, QueuePoint.emptyStage])
    exact ⟨isOpen, List.length_eq_zero_iff.mp none⟩
  · obtain ⟨isOpen, none⟩ := kept.notFull.asleep_of_quiet quietFull
      (show shared.notFull.stage thread = .asleep by
        simp [SharedQueue.notFull, asleep, QueuePoint.fullStage])
    have within := kept.within
    rw [← kept.capacity_eq] at within
    exact ⟨isOpen, kept.blocking thread item (.inl asleep),
      Nat.le_antisymm within (Nat.sub_eq_zero_iff_le.mp none)⟩

/--
From every state that the threads reach, the calls under way settle within a bounded number of
moves, and every call that is then still waiting has to.
-/
theorem shared_queue_settles {finish last : SharedQueue Thread α}
    {moves more : List (QueueMove Thread α)}
    (reached : run step (fresh capacity policy) moves = some finish)
    (continues : ∀ move ∈ more, move.continues = true)
    (continued : run step finish more = some last) :
    more.length ≤ Fintype.card Thread * (2 * Fintype.card Thread + 5) ∧
      (last.Stuck → last.Calm) := by
  have kept := kept_of_run kept_fresh reached
  have ends := kept.continuation_ends continues continued
  have bound := finish.remaining_le
  exact ⟨by omega, (kept_of_run kept continued).calm_of_stuck⟩

/-- A pop of a fresh queue has found nothing. -/
def popSleeps : SharedQueue Bool Nat :=
  ((fresh 1 .block).goTo false (.calling .pop)).enter false (.popAsleep, BoundedQueue.fresh 1 .block)

theorem popSleeps_stuck : popSleeps.Stuck := by
  intro move continues
  cases move with
  | call | wake => cases continues
  | go thread => cases thread <;> rfl
  | notify thread sleeper => cases thread <;> rfl

theorem shared_queue_settles_pop : popSleeps.Calm ∧ popSleeps.point false = .popAsleep := by
  let called : SharedQueue Bool Nat := (fresh 1 .block).goTo false (.calling .pop)
  have began : run step (fresh 1 .block) [.call false .pop] = some called := rfl
  have slept : run step called [.go false] = some popSleeps := rfl
  have settled := shared_queue_settles began (by decide) slept
  exact ⟨settled.2 popSleeps_stuck, rfl⟩

end SharedQueue

end Ssim.Core
