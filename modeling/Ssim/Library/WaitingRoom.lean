import Mathlib.Algebra.BigOperators.Fin
import Mathlib.Logic.Function.Basic

/-!
# Waiting rooms

A condition variable with a mutex, for any number of threads.  Threads come for tokens; one that
finds none, while the room is open, goes to sleep in the same step.  Whoever brings a token
notifies one sleeper afterwards, outside the mutex, and whoever closes the room notifies all.  A
sleeper may also wake for no reason, and a thread that is awake looks again before it leaves.

`Sound` holds in every state that is reached: the tokens that a sleeper might take are all spoken
for by threads that are awake or about to notify.
-/

namespace Ssim.Library.WaitingRoom

/-! ## Sums over threads -/

/-- A sum over all threads, when one of them changes. -/
theorem sum_update {Thread β : Type*} [Fintype Thread] [DecidableEq Thread] (stage : Thread → β)
    (weight : β → Nat) (thread : Thread) (value : β) :
    ∑ other, weight (Function.update stage thread value other) + weight (stage thread) =
      ∑ other, weight (stage other) + weight value := by
  have mine := Finset.add_sum_erase Finset.univ
    (fun other => weight (Function.update stage thread value other)) (Finset.mem_univ thread)
  have before := Finset.add_sum_erase Finset.univ (fun other => weight (stage other))
    (Finset.mem_univ thread)
  have others : ∑ other ∈ Finset.univ.erase thread,
      weight (Function.update stage thread value other) =
        ∑ other ∈ Finset.univ.erase thread, weight (stage other) :=
    Finset.sum_congr rfl fun other isOther => by
      rw [Function.update_of_ne (Finset.ne_of_mem_erase isOther)]
  simp only [Function.update_self] at mine
  omega

/-! ## The room -/

inductive Stage where
  /-- Has nothing to do with the room, or has just come. -/
  | outside
  | asleep
  /-- Has been woken and has not looked again. -/
  | awake
  /-- Has brought a token and is about to notify one sleeper. -/
  | notifying
  /-- Has closed the room and is about to notify all sleepers. -/
  | closing
  deriving Repr, DecidableEq

/-- Whether the thread is going to see to a token. -/
def Stage.coming : Stage → Nat
  | awake | notifying => 1
  | _ => 0

structure Room (Thread : Type*) where
  tokens : Nat
  closed : Bool
  stage : Thread → Stage

namespace Room

variable {Thread : Type*}

def wakeAll (room : Room Thread) : Room Thread :=
  { room with stage := fun thread =>
      match room.stage thread with
      | .asleep => .awake
      | stage => stage }

theorem wakeAll_awake (room : Room Thread) (sleeper : Thread) :
    room.wakeAll.stage sleeper ≠ .asleep := by
  simp only [wakeAll]
  cases room.stage sleeper <;> simp

variable [DecidableEq Thread]

def go (room : Room Thread) (thread : Thread) (stage : Stage) : Room Thread :=
  { room with stage := Function.update room.stage thread stage }

inductive Step (room : Room Thread) : Room Thread → Prop where
  | sleep {thread : Thread} (empty : room.tokens = 0) (isOpen : room.closed = false)
      (free : room.stage thread = .outside ∨ room.stage thread = .awake) :
      Step room (room.go thread .asleep)
  | take {thread : Thread} {tokens : Nat} (some : room.tokens = tokens + 1)
      (free : room.stage thread = .outside ∨ room.stage thread = .awake) :
      Step room { room.go thread .outside with tokens := tokens }
  | leave {thread : Thread} (nothing : room.closed = true ∨ room.tokens = 0)
      (free : room.stage thread = .outside ∨ room.stage thread = .awake) :
      Step room (room.go thread .outside)
  | bring {thread : Thread} (free : room.stage thread = .outside) :
      Step room { room.go thread .notifying with tokens := room.tokens + 1 }
  | notify {thread sleeper : Thread} (notifying : room.stage thread = .notifying)
      (asleep : room.stage sleeper = .asleep) :
      Step room ((room.go thread .outside).go sleeper .awake)
  | notifyNobody {thread : Thread} (notifying : room.stage thread = .notifying)
      (nobody : ∀ other, room.stage other ≠ .asleep) :
      Step room (room.go thread .outside)
  | wake {thread : Thread} (asleep : room.stage thread = .asleep) :
      Step room (room.go thread .awake)
  | close {thread : Thread} (free : room.stage thread = .outside) :
      Step room { room.go thread .closing with closed := true }
  | notifyAll {thread : Thread} (closing : room.stage thread = .closing) :
      Step room (room.wakeAll.go thread .outside)
  /-- A step of a thread that does not concern the room. -/
  | elsewhere : Step room room

variable {room next : Room Thread} {thread : Thread} {stage : Stage}

theorem stage_go_of_ne {other : Thread} (different : other ≠ thread) :
    (room.go thread stage).stage other = room.stage other :=
  Function.update_of_ne different _ _

@[simp]
theorem stage_go_self : (room.go thread stage).stage thread = stage :=
  Function.update_self _ _ _

/-- Who sleeps after one thread has moved, sleeps before, or is that thread. -/
theorem asleep_of_go {sleeper : Thread} (awake : stage ≠ .asleep)
    (asleep : (room.go thread stage).stage sleeper = .asleep) :
    sleeper ≠ thread ∧ room.stage sleeper = .asleep := by
  have different : sleeper ≠ thread := by
    rintro rfl
    rw [stage_go_self] at asleep
    exact awake asleep
  exact ⟨different, stage_go_of_ne different ▸ asleep⟩

variable [Fintype Thread]

def coming (room : Room Thread) : Nat :=
  ∑ thread, (room.stage thread).coming

structure Sound (room : Room Thread) : Prop where
  served : room.closed = false → ∀ sleeper, room.stage sleeper = .asleep →
    room.tokens ≤ room.coming
  dismissed : room.closed = true → ∀ sleeper, room.stage sleeper = .asleep →
    ∃ closer, room.stage closer = .closing

omit [DecidableEq Thread] in
theorem Sound.of_awake (awake : ∀ thread, room.stage thread ≠ .asleep) : Sound room :=
  ⟨fun _ sleeper asleep => absurd asleep (awake sleeper),
    fun _ sleeper asleep => absurd asleep (awake sleeper)⟩

variable (room thread stage) in
theorem coming_go :
    (room.go thread stage).coming + (room.stage thread).coming = room.coming + stage.coming :=
  sum_update room.stage Stage.coming thread stage

/-- A thread that is not about to notify all moves, and does not go to sleep. -/
theorem Sound.dismissed_go (sound : Sound room) (awake : stage ≠ .asleep)
    (quiet : room.stage thread ≠ .closing) (isClosed : room.closed = true) (sleeper : Thread)
    (asleep : (room.go thread stage).stage sleeper = .asleep) :
    ∃ closer, (room.go thread stage).stage closer = .closing := by
  obtain ⟨closer, closing⟩ := sound.dismissed isClosed sleeper (asleep_of_go awake asleep).2
  have different : closer ≠ thread := by
    rintro rfl
    exact quiet closing
  exact ⟨closer, by rw [stage_go_of_ne different, closing]⟩

theorem Step.sound (taken : Step room next) (sound : Sound room) : Sound next := by
  cases taken with
  | sleep empty isOpen free =>
      refine ⟨fun _ _ _ => ?_, fun isClosed => ?_⟩
      · simp only [go, empty, Nat.zero_le]
      · simp [go, isOpen] at isClosed
  | @take thread tokens more free =>
      have quiet : room.stage thread ≠ .closing := by
        rcases free with free | free <;> simp [free]
      have atMost : (room.stage thread).coming ≤ 1 := by
        rcases free with free | free <;> simp [free, Stage.coming]
      refine ⟨fun isOpen sleeper asleep => ?_, fun isClosed sleeper asleep => ?_⟩
      · have enough := sound.served isOpen sleeper (asleep_of_go (by simp) asleep).2
        have moved := coming_go room thread .outside
        rw [show Stage.outside.coming = 0 from rfl] at moved
        show tokens ≤ (room.go thread .outside).coming
        omega
      · exact sound.dismissed_go (by simp) quiet isClosed sleeper asleep
  | @leave thread nothing free =>
      have quiet : room.stage thread ≠ .closing := by
        rcases free with free | free <;> simp [free]
      refine ⟨fun isOpen _ _ => ?_, fun isClosed sleeper asleep => ?_⟩
      · obtain isClosed | empty := nothing
        · simp [go, isClosed] at isOpen
        · simp only [go, empty, Nat.zero_le]
      · exact sound.dismissed_go (by simp) quiet isClosed sleeper asleep
  | @bring thread free =>
      refine ⟨fun isOpen sleeper asleep => ?_, fun isClosed sleeper asleep => ?_⟩
      · have enough := sound.served isOpen sleeper (asleep_of_go (by simp) asleep).2
        have moved := coming_go room thread .notifying
        simp only [free, Stage.coming] at moved
        show room.tokens + 1 ≤ (room.go thread .notifying).coming
        omega
      · exact sound.dismissed_go (by simp) (by simp [free]) isClosed sleeper asleep
  | @notify thread sleeper notifying asleep =>
      have different : sleeper ≠ thread := by
        rintro rfl
        rw [asleep] at notifying
        cases notifying
      refine ⟨fun isOpen other otherAsleep => ?_, fun isClosed other otherAsleep => ?_⟩
      · have kept := (asleep_of_go (by simp) (asleep_of_go (by simp) otherAsleep).2).2
        have enough := sound.served isOpen other kept
        have first := coming_go room thread .outside
        have second := coming_go (room.go thread .outside) sleeper .awake
        rw [stage_go_of_ne different] at second
        simp only [notifying, asleep, Stage.coming] at first second
        show room.tokens ≤ ((room.go thread .outside).go sleeper .awake).coming
        omega
      · have kept := (asleep_of_go (by simp) (asleep_of_go (by simp) otherAsleep).2).2
        obtain ⟨closer, closing⟩ := sound.dismissed isClosed other kept
        refine ⟨closer, ?_⟩
        rw [stage_go_of_ne, stage_go_of_ne, closing]
        · rintro rfl
          simp [closing] at notifying
        · rintro rfl
          simp [closing] at asleep
  | @notifyNobody thread notifying nobody =>
      refine .of_awake fun sleeper asleep => ?_
      exact nobody sleeper (asleep_of_go (by simp) asleep).2
  | @wake thread asleep =>
      refine ⟨fun isOpen sleeper sleeps => ?_, fun isClosed sleeper sleeps => ?_⟩
      · have enough := sound.served isOpen sleeper (asleep_of_go (by simp) sleeps).2
        have moved := coming_go room thread .awake
        simp only [asleep, Stage.coming] at moved
        show room.tokens ≤ (room.go thread .awake).coming
        omega
      · exact sound.dismissed_go (by simp) (by simp [asleep]) isClosed sleeper sleeps
  | @close thread free =>
      refine ⟨fun isOpen => ?_, fun _ _ _ => ⟨thread, stage_go_self⟩⟩
      simp at isOpen
  | @notifyAll thread closing =>
      refine .of_awake fun sleeper asleep => ?_
      exact wakeAll_awake room sleeper (asleep_of_go (by simp) asleep).2
  | elsewhere => exact sound

/-- Nobody is awake or about to notify. -/
def Quiet (room : Room Thread) : Prop :=
  ∀ thread, room.stage thread = .outside ∨ room.stage thread = .asleep

omit [DecidableEq Thread] in
/-- Where the room is quiet, a thread sleeps only while it has a reason to. -/
theorem Sound.asleep_of_quiet (sound : Sound room) (quiet : Quiet room)
    (asleep : room.stage thread = .asleep) : room.closed = false ∧ room.tokens = 0 := by
  have isOpen : room.closed = false := by
    by_contra isClosed
    obtain ⟨closer, closing⟩ := sound.dismissed (by simpa using isClosed) thread asleep
    rcases quiet closer with calm | calm <;> simp [calm] at closing
  refine ⟨isOpen, Nat.le_zero.mp ?_⟩
  have none : room.coming = 0 := Finset.sum_eq_zero fun other _ => by
    rcases quiet other with calm | calm <;> simp [calm, Stage.coming]
  rw [← none]
  exact sound.served isOpen thread asleep

end Room

end Ssim.Library.WaitingRoom
