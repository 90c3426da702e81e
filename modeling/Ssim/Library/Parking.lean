import Mathlib.Data.List.Basic
import Mathlib.Logic.Function.Basic

/-!
# Parking

Two sides share a mutex.  Each waits for a condition of its own, which only the other side makes
true.  A side that has to wait takes the mutex, sets its flag, checks whether the system is closed
and whether its condition holds, and only then releases the mutex and sleeps.  A side that may
have made the other's condition true announces it: it reads the other's flag, and if it is set,
takes and releases the mutex and notifies.  Any number of threads close the system: the store,
then the mutex, then a notification for each side.

`Sound` holds in every state that is reached: whoever sleeps while it need not is about to be
notified.
-/

namespace Ssim.Library.Parking

inductive Side where
  | left
  | right
  deriving DecidableEq

def Side.other : Side → Side
  | left => right
  | right => left

namespace Side

@[simp]
theorem other_other (side : Side) : side.other.other = side := by
  cases side <;> rfl

@[simp]
theorem other_ne (side : Side) : side.other ≠ side := by
  cases side <;> simp [other]

theorem eq_or_other (side mover : Side) : side = mover ∨ side = mover.other := by
  cases side <;> cases mover <;> simp [other]

section Both

variable {β : Type*} (onLeft onRight : β)

/-- A value for each side. -/
def both : Side → β
  | left => onLeft
  | right => onRight

@[simp]
theorem update_both_left (value : β) :
    Function.update (both onLeft onRight) left value = both value onRight := by
  funext side
  cases side <;> rfl

@[simp]
theorem update_both_right (value : β) :
    Function.update (both onLeft onRight) right value = both onLeft value := by
  funext side
  cases side <;> rfl

end Both

end Side

inductive Stage where
  | running
  /-- Has the mutex, and its flag is not set. -/
  | holding
  /-- Has the mutex, and its flag is set. -/
  | flagged
  /-- Has found the system open. -/
  | checked
  /-- Has found its condition false, too, and is about to sleep. -/
  | committed
  | asleep
  | woken
  /-- Has made the other's condition true while it has the mutex. -/
  | announcing
  | wakeLoad
  | wakeLock
  | wakeUnlock
  | wakeNotify
  deriving DecidableEq

inductive Closer where
  | lock
  | unlock
  /-- The sides that are still to be notified; none while the thread does not close. -/
  | notify (sides : List Side)
  deriving DecidableEq

inductive Owner where
  | side (side : Side)
  | closer (number : Nat)
  deriving DecidableEq

namespace Stage

def holds : Stage → Bool
  | holding | flagged | checked | committed | announcing | wakeUnlock => true
  | _ => false

def waits : Stage → Bool
  | flagged | checked | committed | asleep | woken => true
  | _ => false

/-- About to notify the other side, if its flag is set. -/
def wakes : Stage → Bool
  | announcing | wakeLoad | wakeLock | wakeUnlock | wakeNotify => true
  | _ => false

/-- Has checked, or sleeps. -/
def parked : Stage → Bool
  | checked | committed | asleep => true
  | _ => false

/-- About to notify the other side, and has not taken the mutex for it. -/
def outside : Stage → Bool
  | wakeLoad | wakeLock => true
  | _ => false

theorem wakes_of_outside {stage : Stage} (isOutside : stage.outside = true) :
    stage.wakes = true := by
  cases stage <;> simp_all [outside, wakes]

end Stage

def Closer.notifies (side : Side) : Closer → Bool
  | lock | unlock => true
  | notify sides => side ∈ sides

structure System where
  mutex : Option Owner
  closed : Bool
  stage : Side → Stage
  waiting : Side → Bool
  /-- The condition that a side waits for. -/
  ready : Side → Bool
  closers : Nat → Closer

namespace System

def go (system : System) (side : Side) (stage : Stage) : System :=
  { system with stage := Function.update system.stage side stage }

def mark (system : System) (side : Side) (waiting : Bool) : System :=
  { system with waiting := Function.update system.waiting side waiting }

def own (system : System) (owner : Option Owner) : System :=
  { system with mutex := owner }

def closeAt (system : System) (number : Nat) (closer : Closer) : System :=
  { system with closers := Function.update system.closers number closer }

def wake (system : System) (side : Side) : System :=
  if system.stage side = .asleep then system.go side .woken else system

theorem wake_of_awake {system : System} {side : Side} (awake : system.stage side ≠ .asleep) :
    system.wake side = system :=
  if_neg awake

theorem wake_stage_of_ne {system : System} {side other : Side} (different : other ≠ side) :
    (system.wake side).stage other = system.stage other := by
  unfold wake
  split
  · exact Function.update_of_ne different _ _
  · rfl

theorem wake_stage_ne_asleep {system : System} {side : Side} :
    (system.wake side).stage side ≠ .asleep := by
  unfold wake
  split
  · simp [go]
  · assumption

inductive Step (system : System) : System → Prop where
  | stutter : Step system system
  | lock (side : Side) : system.stage side = .running → system.mutex = none →
      Step system ((system.own (some (.side side))).go side .holding)
  | unlock (side : Side) : system.stage side = .holding →
      Step system ((system.own none).go side .running)
  | set (side : Side) : system.stage side = .holding →
      Step system ((system.mark side true).go side .flagged)
  | clear (side : Side) : system.stage side = .flagged →
      Step system ((system.mark side false).go side .holding)
  | check (side : Side) : system.stage side = .flagged → system.closed = false →
      Step system (system.go side .checked)
  | commit (side : Side) : system.stage side = .checked → system.ready side = false →
      Step system (system.go side .committed)
  | pass (side : Side) : system.stage side = .checked → Step system (system.go side .flagged)
  | sleep (side : Side) : system.stage side = .committed →
      Step system ((system.own none).go side .asleep)
  | retake (side : Side) : system.stage side = .woken → system.mutex = none →
      Step system ((system.own (some (.side side))).go side .flagged)
  | announce (side : Side) (ready : Side → Bool) : system.stage side = .running →
      Step system ({ system with ready := ready }.go side .wakeLoad)
  | announceHolding (side : Side) (ready : Side → Bool) : system.stage side = .holding →
      Step system ({ system with ready := ready }.go side .announcing)
  | announced (side : Side) : system.stage side = .announcing →
      Step system ((system.own none).go side .wakeLoad)
  | seen (side : Side) : system.stage side = .wakeLoad → system.waiting side.other = true →
      Step system (system.go side .wakeLock)
  | unseen (side : Side) : system.stage side = .wakeLoad → system.waiting side.other = false →
      Step system (system.go side .running)
  | wakeLock (side : Side) : system.stage side = .wakeLock → system.mutex = none →
      Step system ((system.own (some (.side side))).go side .wakeUnlock)
  | wakeUnlock (side : Side) : system.stage side = .wakeUnlock →
      Step system ((system.own none).go side .wakeNotify)
  | wakeNotify (side : Side) : system.stage side = .wakeNotify →
      Step system ((system.wake side.other).go side .running)
  | spurious (side : Side) : Step system (system.wake side)
  | close (number : Nat) : system.closers number = .notify [] →
      Step system ({ system with closed := true }.closeAt number .lock)
  | closeLock (number : Nat) : system.closers number = .lock → system.mutex = none →
      Step system ((system.own (some (.closer number))).closeAt number .unlock)
  | closeUnlock (number : Nat) (sides : List Side) : system.closers number = .unlock →
      (∀ side, side ∈ sides) → Step system ((system.own none).closeAt number (.notify sides))
  | closeNotify (number : Nat) (side : Side) (sides : List Side) :
      system.closers number = .notify (side :: sides) →
      Step system ((system.wake side).closeAt number (.notify sides))

/-- A side that stays where it is. -/
theorem step_go_self {system : System} {side : Side} {stage : Stage}
    (same : system.stage side = stage) : Step system (system.go side stage) := by
  have unchanged : system.go side stage = system := by
    simp [go, ← same]
  rw [unchanged]
  exact .stutter

/-- Who has the mutex, and who waits. -/
structure Owned (system : System) : Prop where
  side : ∀ side, system.mutex = some (.side side) ↔ (system.stage side).holds = true
  closer : ∀ number, system.mutex = some (.closer number) ↔ system.closers number = .unlock
  flag : ∀ side, system.waiting side = (system.stage side).waits

/-- Who will notify the side when it sleeps although it need not. -/
structure Covered (system : System) (side : Side) : Prop where
  checked : system.stage side = .checked ∨ system.stage side = .committed →
    system.closed = true → ∃ number, system.closers number = .lock
  committed : system.stage side = .committed → system.ready side = true →
    (system.stage side.other).outside = true
  asleep_closed : system.stage side = .asleep → system.closed = true →
    ∃ number, (system.closers number).notifies side = true
  asleep_ready : system.stage side = .asleep → system.ready side = true →
    (system.stage side.other).wakes = true

structure Sound (system : System) : Prop where
  owned : Owned system
  covered : ∀ side, Covered system side

/-! ## The mutex and the flags -/

section Owned

variable {system : System} {side : Side} {stage : Stage}

theorem Owned.keep (owned : Owned system) (holds : stage.holds = (system.stage side).holds)
    (waits : stage.waits = (system.stage side).waits) : Owned (system.go side stage) := by
  refine ⟨fun other => ?_, owned.closer, fun other => ?_⟩ <;>
    by_cases same : other = side
  · subst same
    simpa [go, holds] using owned.side other
  · simpa [go, same] using owned.side other
  · subst same
    simpa [go, waits] using owned.flag other
  · simpa [go, same] using owned.flag other

theorem Owned.take (owned : Owned system) (free : system.mutex = none)
    (holds : stage.holds = true) (waits : stage.waits = (system.stage side).waits) :
    Owned ((system.own (some (.side side))).go side stage) := by
  refine ⟨fun other => ?_, fun number => ?_, fun other => ?_⟩
  · by_cases same : other = side
    · subst same
      simp [go, own, holds]
    · have none := owned.side other
      simpa [go, own, same, Ne.symm same, free] using none
  · simpa [go, own, free] using owned.closer number
  · by_cases same : other = side
    · subst same
      simpa [go, own, waits] using owned.flag other
    · simpa [go, own, same] using owned.flag other

theorem Owned.drop (owned : Owned system) (held : (system.stage side).holds = true)
    (holds : stage.holds = false) (waits : stage.waits = (system.stage side).waits) :
    Owned ((system.own none).go side stage) := by
  have owner : system.mutex = some (.side side) := (owned.side side).mpr held
  refine ⟨fun other => ?_, fun number => ?_, fun other => ?_⟩
  · by_cases same : other = side
    · subst same
      simp [go, own, holds]
    · have none := owned.side other
      simpa [go, own, same, Ne.symm same, owner] using none
  · simpa [go, own, owner] using owned.closer number
  · by_cases same : other = side
    · subst same
      simpa [go, own, waits] using owned.flag other
    · simpa [go, own, same] using owned.flag other

theorem Owned.mark (owned : Owned system) (holds : stage.holds = (system.stage side).holds) :
    Owned ((system.mark side stage.waits).go side stage) := by
  refine ⟨fun other => ?_, owned.closer, fun other => ?_⟩ <;>
    by_cases same : other = side
  · subst same
    simpa [go, System.mark, holds] using owned.side other
  · simpa [go, System.mark, same] using owned.side other
  · subst same
    simp [go, System.mark]
  · simpa [go, System.mark, same] using owned.flag other

theorem Owned.wake (owned : Owned system) : Owned (system.wake side) := by
  unfold System.wake
  split
  next asleep => exact owned.keep (by rw [asleep]; rfl) (by rw [asleep]; rfl)
  next => exact owned

theorem Owned.close (owned : Owned system) {number : Nat} {closer : Closer}
    (before : system.closers number ≠ .unlock) (after : closer ≠ .unlock) :
    Owned (system.closeAt number closer) := by
  refine ⟨owned.side, fun other => ?_, owned.flag⟩
  by_cases same : other = number
  · subst same
    simpa [closeAt, after, before] using owned.closer other
  · simpa [closeAt, same] using owned.closer other

theorem Owned.closeLock (owned : Owned system) {number : Nat} (free : system.mutex = none) :
    Owned ((system.own (some (.closer number))).closeAt number .unlock) := by
  refine ⟨fun side => ?_, fun other => ?_, owned.flag⟩
  · simpa [closeAt, own, free] using owned.side side
  · by_cases same : other = number
    · subst same
      simp [closeAt, own]
    · have none := owned.closer other
      simpa [closeAt, own, same, Ne.symm same, free] using none

theorem Owned.closeUnlock (owned : Owned system) {number : Nat} {sides : List Side}
    (unlock : system.closers number = .unlock) :
    Owned ((system.own none).closeAt number (.notify sides)) := by
  have owner : system.mutex = some (.closer number) := (owned.closer number).mpr unlock
  refine ⟨fun side => ?_, fun other => ?_, owned.flag⟩
  · simpa [closeAt, own, owner] using owned.side side
  · by_cases same : other = number
    · subst same
      simp [closeAt, own]
    · have none := owned.closer other
      simpa [closeAt, own, same, Ne.symm same, owner] using none

/-- The other side has the mutex, so this one has not. -/
theorem Owned.not_holds (owned : Owned system) (side : Side)
    (held : (system.stage side).holds = true) :
    (system.stage side.other).holds = false := by
  have owner : system.mutex = some (.side side) := (owned.side side).mpr held
  have other := owned.side side.other
  rw [owner] at other
  simpa [(Side.other_ne side).symm] using other

theorem Owned.not_holds_of_free (owned : Owned system) (side : Side)
    (free : system.mutex = none) :
    (system.stage side).holds = false := by
  simpa [free] using owned.side side

end Owned

/-! ## Who notifies -/

section Covered

variable {system next : System} {side : Side}

/-- A side that is awake needs no notification. -/
theorem covered_of_awake (awake : (system.stage side).parked = false) : Covered system side := by
  constructor <;> intro at_stage
  · rcases at_stage with here | here <;> simp [here, Stage.parked] at awake
  all_goals simp [at_stage, Stage.parked] at awake

/-- What the other side does to this one. -/
theorem Covered.frame (covered : Covered system side)
    (stage : next.stage side = system.stage side) (closed : next.closed = system.closed)
    (closers : next.closers = system.closers)
    (committed : system.stage side = .committed → next.ready side = true →
      (next.stage side.other).outside = true)
    (asleep : system.stage side = .asleep → next.ready side = true →
      (next.stage side.other).wakes = true) : Covered next side where
  checked := by
    rw [stage, closed, closers]
    exact covered.checked
  committed := by
    rw [stage]
    exact committed
  asleep_closed := by
    rw [stage, closed, closers]
    exact covered.asleep_closed
  asleep_ready := by
    rw [stage]
    exact asleep

/-- The other side was not about to notify, and makes nothing ready. -/
theorem Covered.frame_quiet (covered : Covered system side)
    (stage : next.stage side = system.stage side) (closed : next.closed = system.closed)
    (closers : next.closers = system.closers) (ready : next.ready side = system.ready side)
    (quiet : (system.stage side.other).wakes = false) : Covered next side := by
  refine covered.frame stage closed closers (fun here now => ?_) (fun here now => ?_)
  · have wakes := Stage.wakes_of_outside (covered.committed here (ready ▸ now))
    rw [quiet] at wakes
    cases wakes
  · have wakes := covered.asleep_ready here (ready ▸ now)
    rw [quiet] at wakes
    cases wakes

/-- A closing thread goes on, and nothing else changes for the side. -/
theorem Covered.closing (covered : Covered system side) {number : Nat} {closer : Closer}
    (stage : next.stage = system.stage) (closed : next.closed = system.closed)
    (ready : next.ready = system.ready)
    (closers : next.closers = Function.update system.closers number closer)
    (locking : (system.stage side).holds = true → system.closers number ≠ .lock)
    (notifies : system.stage side = .asleep → (system.closers number).notifies side = true →
      closer.notifies side = true) : Covered next side where
  checked := by
    rw [stage, closed, closers]
    intro here open_
    obtain ⟨witness, lock⟩ := covered.checked here open_
    have holds : (system.stage side).holds = true := by
      rcases here with here | here <;> rw [here] <;> rfl
    have different : witness ≠ number := fun same => locking holds (same ▸ lock)
    exact ⟨witness, by rwa [Function.update_of_ne different]⟩
  committed := by
    rw [stage, ready]
    exact covered.committed
  asleep_closed := by
    rw [stage, closed, closers]
    intro here open_
    obtain ⟨witness, will⟩ := covered.asleep_closed here open_
    by_cases same : witness = number
    · subst same
      exact ⟨witness, by simpa using notifies here will⟩
    · exact ⟨witness, by rwa [Function.update_of_ne same]⟩
  asleep_ready := by
    rw [stage, ready]
    exact covered.asleep_ready

theorem covered_wake (covered : Covered system side) : Covered (system.wake side) side := by
  unfold wake
  split
  · exact covered_of_awake (by simp [go, Stage.parked])
  · exact covered

end Covered

/-! ## Steps -/

section Steps

variable {system base next : System} {mover : Side} {stage : Stage}

theorem sound_of_sides (owned : Owned next) (mine : Covered next mover)
    (theirs : Covered next mover.other) : Sound next := by
  refine ⟨owned, fun side => ?_⟩
  rcases side.eq_or_other mover with rfl | rfl
  · exact mine
  · exact theirs

theorem go_other : (base.go mover stage).stage mover.other = base.stage mover.other := by
  simp [go]

theorem covered_go (awake : stage.parked = false) : Covered (base.go mover stage) mover :=
  covered_of_awake (by simpa [go] using awake)

/-- A side that was not about to notify goes on, and makes nothing ready. -/
theorem Sound.quiet (sound : Sound system) (owned : Owned (base.go mover stage))
    (mine : Covered (base.go mover stage) mover) (quiet : (system.stage mover).wakes = false)
    (stages : base.stage = system.stage) (closed : base.closed = system.closed)
    (closers : base.closers = system.closers) (ready : base.ready = system.ready) :
    Sound (base.go mover stage) := by
  refine sound_of_sides owned mine ?_
  refine (sound.covered mover.other).frame_quiet (go_other.trans (by rw [stages])) closed closers
    (congrFun ready _) ?_
  rwa [Side.other_other]

/-- A side that may notify goes on. -/
theorem Sound.waking (sound : Sound system) (owned : Owned (base.go mover stage))
    (awake : stage.parked = false)
    (committed : system.stage mover.other = .committed → base.ready mover.other = true →
      stage.outside = true)
    (asleep : system.stage mover.other = .asleep → base.ready mover.other = true →
      stage.wakes = true)
    (stages : base.stage = system.stage) (closed : base.closed = system.closed)
    (closers : base.closers = system.closers) : Sound (base.go mover stage) := by
  have mine : (base.go mover stage).stage mover = stage := by simp [go]
  refine sound_of_sides owned (covered_go awake) ?_
  refine (sound.covered mover.other).frame (go_other.trans (by rw [stages])) closed closers ?_ ?_
  · rw [Side.other_other, mine]
    exact committed
  · rw [Side.other_other, mine]
    exact asleep

theorem Sound.wake (sound : Sound system) (side : Side) : Sound (system.wake side) := by
  refine sound_of_sides sound.owned.wake (covered_wake (sound.covered side)) ?_
  by_cases asleep : system.stage side = .asleep
  · have covered := sound.covered side.other
    have quiet : (system.stage side.other.other).wakes = false := by
      rw [Side.other_other, asleep]
      rfl
    refine covered.frame_quiet (wake_stage_of_ne (Side.other_ne side)) ?_ ?_ ?_ quiet <;>
      simp [System.wake, asleep, go]
  · rw [wake_of_awake asleep]
    exact sound.covered side.other

/-- Every step keeps every side covered. -/
theorem Step.sound (taken : Step system next) (sound : Sound system) : Sound next := by
  have owned := sound.owned
  cases taken with
  | stutter => exact sound
  | lock mover running free =>
      exact sound.quiet (owned.take free rfl (by rw [running]; rfl)) (covered_go rfl)
        (by rw [running]; rfl) rfl rfl rfl rfl
  | unlock mover holding =>
      exact sound.quiet (owned.drop (by rw [holding]; rfl) rfl (by rw [holding]; rfl))
        (covered_go rfl) (by rw [holding]; rfl) rfl rfl rfl rfl
  | set mover holding =>
      exact sound.quiet (owned.mark (by rw [holding]; rfl)) (covered_go rfl)
        (by rw [holding]; rfl) rfl rfl rfl rfl
  | clear mover flagged =>
      exact sound.quiet (owned.mark (by rw [flagged]; rfl)) (covered_go rfl)
        (by rw [flagged]; rfl) rfl rfl rfl rfl
  | check mover flagged isOpen =>
      refine sound.quiet (owned.keep (by rw [flagged]; rfl) (by rw [flagged]; rfl)) ?_
        (by rw [flagged]; rfl) rfl rfl rfl rfl
      constructor <;> simp [go, isOpen]
  | commit mover checked notReady =>
      refine sound.quiet (owned.keep (by rw [checked]; rfl) (by rw [checked]; rfl)) ?_
        (by rw [checked]; rfl) rfl rfl rfl rfl
      have closing := (sound.covered mover).checked (.inl checked)
      exact ⟨fun _ => closing, by simp [go, notReady], by simp [go], by simp [go]⟩
  | pass mover checked =>
      exact sound.quiet (owned.keep (by rw [checked]; rfl) (by rw [checked]; rfl))
        (covered_go rfl) (by rw [checked]; rfl) rfl rfl rfl rfl
  | sleep mover committed =>
      refine sound.quiet (owned.drop (by rw [committed]; rfl) rfl (by rw [committed]; rfl)) ?_
        (by rw [committed]; rfl) rfl rfl rfl rfl
      -- Whoever announced since the checks has not reached the mutex yet.
      have covered := sound.covered mover
      refine ⟨by simp [go], by simp [go], fun _ isClosed => ?_, fun _ ready => ?_⟩
      · obtain ⟨number, lock⟩ := covered.checked (.inr committed) isClosed
        exact ⟨number, by simp [go, own, lock, Closer.notifies]⟩
      · rw [go_other]
        exact Stage.wakes_of_outside (covered.committed committed ready)
  | retake mover woken free =>
      exact sound.quiet (owned.take free rfl (by rw [woken]; rfl)) (covered_go rfl)
        (by rw [woken]; rfl) rfl rfl rfl rfl
  | announce mover ready running =>
      have renewed : Owned { system with ready := ready } :=
        ⟨owned.side, owned.closer, owned.flag⟩
      exact sound.waking (renewed.keep (by rw [running]; rfl) (by rw [running]; rfl)) rfl
        (fun _ _ => rfl) (fun _ _ => rfl) rfl rfl rfl
  | announceHolding mover ready holding =>
      have renewed : Owned { system with ready := ready } :=
        ⟨owned.side, owned.closer, owned.flag⟩
      have alone := owned.not_holds mover (by rw [holding]; rfl)
      refine sound.waking (renewed.keep (by rw [holding]; rfl) (by rw [holding]; rfl)) rfl
        (fun committed _ => ?_) (fun _ _ => rfl) rfl rfl rfl
      rw [committed] at alone
      cases alone
  | announced mover announcing =>
      exact sound.waking (owned.drop (by rw [announcing]; rfl) rfl (by rw [announcing]; rfl)) rfl
        (fun _ _ => rfl) (fun _ _ => rfl) rfl rfl rfl
  | seen mover wakeLoad waiting =>
      exact sound.waking (owned.keep (by rw [wakeLoad]; rfl) (by rw [wakeLoad]; rfl)) rfl
        (fun _ _ => rfl) (fun _ _ => rfl) rfl rfl rfl
  | unseen mover wakeLoad waiting =>
      -- A side that is about to sleep, or sleeps, has its flag set.
      have flag := owned.flag mover.other
      rw [waiting] at flag
      refine sound.waking (owned.keep (by rw [wakeLoad]; rfl) (by rw [wakeLoad]; rfl)) rfl
        (fun committed => ?_) (fun asleep => ?_) rfl rfl rfl
      · rw [committed] at flag
        cases flag
      · rw [asleep] at flag
        cases flag
  | wakeLock mover wakeLock free =>
      have alone := owned.not_holds_of_free mover.other free
      refine sound.waking (owned.take free rfl (by rw [wakeLock]; rfl)) rfl
        (fun committed _ => ?_) (fun _ _ => rfl) rfl rfl rfl
      rw [committed] at alone
      cases alone
  | wakeUnlock mover wakeUnlock =>
      have alone := owned.not_holds mover (by rw [wakeUnlock]; rfl)
      refine sound.waking (owned.drop (by rw [wakeUnlock]; rfl) rfl (by rw [wakeUnlock]; rfl)) rfl
        (fun committed _ => ?_) (fun _ _ => rfl) rfl rfl rfl
      rw [committed] at alone
      cases alone
  | wakeNotify mover wakeNotify =>
      have mine : (system.wake mover.other).stage mover = .wakeNotify := by
        rw [← wakeNotify]
        exact wake_stage_of_ne (Side.other_ne mover).symm
      refine sound_of_sides (owned.wake.keep (by rw [mine]; rfl) (by rw [mine]; rfl))
        (covered_go rfl) ?_
      by_cases asleep : system.stage mover.other = .asleep
      · exact covered_of_awake (by simp [go, wake, asleep, Stage.parked])
      · rw [wake_of_awake asleep]
        refine (sound.covered mover.other).frame go_other rfl rfl (fun committed ready => ?_)
          (fun here => absurd here asleep)
        have outside := (sound.covered mover.other).committed committed ready
        rw [Side.other_other, wakeNotify] at outside
        cases outside
  | spurious side => exact sound.wake side
  | close number idle =>
      have renewed : Owned { system with closed := true } := ⟨owned.side, owned.closer, owned.flag⟩
      refine ⟨renewed.close (by simp [idle]) (by simp), fun side => ?_⟩
      have covered := sound.covered side
      exact ⟨fun _ _ => ⟨number, by simp [closeAt]⟩, covered.committed,
        fun _ _ => ⟨number, by simp [closeAt, Closer.notifies]⟩, covered.asleep_ready⟩
  | closeLock number lock free =>
      refine ⟨owned.closeLock free, fun side => ?_⟩
      have alone := owned.not_holds_of_free side free
      refine (sound.covered side).closing rfl rfl rfl rfl (fun holds => ?_) (fun _ _ => rfl)
      rw [alone] at holds
      cases holds
  | closeUnlock number sides unlock all =>
      refine ⟨owned.closeUnlock unlock, fun side => ?_⟩
      exact (sound.covered side).closing rfl rfl rfl rfl (by simp [unlock])
        (fun _ _ => by simp [Closer.notifies, all])
  | closeNotify number side sides notify =>
      have woken := sound.wake side
      have unchanged : (system.wake side).closers number = .notify (side :: sides) := by
        rw [← notify]
        unfold wake
        split <;> rfl
      refine ⟨woken.owned.close (by simp [unchanged]) (by simp), fun other => ?_⟩
      refine (woken.covered other).closing rfl rfl rfl rfl (by simp [unchanged])
        (fun asleep will => ?_)
      have different : other ≠ side := by
        rintro rfl
        exact wake_stage_ne_asleep asleep
      simpa [unchanged, Closer.notifies, different] using will

end Steps

end System

end Ssim.Library.Parking
