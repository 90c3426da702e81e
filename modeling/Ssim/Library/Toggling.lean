import Mathlib.Data.List.Induction
import Mathlib.Data.Nat.Bits
import Mathlib.Logic.Function.Basic

/-!
# Announced changes of a toggle

A toggle starts off and many threads flip it.  Each change is announced later, by the thread that
made it.  The announcements alternate as long as no announcement overtakes an older one.
-/

namespace Ssim.Library.Toggling

/-! ## Alternation -/

/-- The values go back and forth, from `first` on. -/
def alternates : Bool → List Bool → Bool
  | _, [] => true
  | first, value :: rest => value == first && alternates (!first) rest

theorem alternates_concat (first : Bool) (values : List Bool) (value : Bool) :
    alternates first (values ++ [value]) =
      (alternates first values && value == (first ^^ values.length.bodd)) := by
  induction values generalizing first with
  | nil => simp [alternates]
  | cons head rest ih =>
      rw [List.cons_append, alternates, ih, alternates, Bool.and_assoc, List.length_cons,
        Nat.bodd_succ]
      cases first <;> cases rest.length.bodd <;> rfl

/-- Values that alternate from on end with on when there is an odd number of them. -/
theorem getLast_of_alternates {values : List Bool} (alternate : alternates true values = true) :
    values.getLast? = some true ↔ values.length.bodd = true := by
  induction values using List.reverseRecOn with
  | nil => simp
  | append_singleton front value =>
      rw [alternates_concat, Bool.and_eq_true, beq_iff_eq] at alternate
      rw [List.getLast?_concat, Option.some_inj, alternate.2, List.length_append]
      simp

/-! ## The toggle -/

/-- What is known of the toggle; a change is named by the number of changes before it. -/
@[ext]
structure Toggle (Thread : Type*) where
  changes : Nat
  /-- The changes that a thread has to announce, the next one first. -/
  pending : Thread → List Nat
  announced : List Bool

namespace Toggle

variable {Thread : Type*} [DecidableEq Thread]

def change (toggle : Toggle Thread) (thread : Thread) : Toggle Thread where
  changes := toggle.changes + 1
  pending := Function.update toggle.pending thread (toggle.changes :: toggle.pending thread)
  announced := toggle.announced

/-- Every other change, from the first on, turns it on. -/
def announce (toggle : Toggle Thread) (thread : Thread) (position : Nat) (rest : List Nat) :
    Toggle Thread where
  changes := toggle.changes
  pending := Function.update toggle.pending thread rest
  announced := toggle.announced ++ [!position.bodd]

@[simp]
theorem change_pending (toggle : Toggle Thread) (thread : Thread) : (toggle.change thread).pending =
    Function.update toggle.pending thread (toggle.changes :: toggle.pending thread) :=
  rfl

@[simp]
theorem announce_pending (toggle : Toggle Thread) (thread : Thread) (position : Nat)
    (rest : List Nat) : (toggle.announce thread position rest).pending =
      Function.update toggle.pending thread rest :=
  rfl

/-- A step of the thread; an announcement does not overtake an older one. -/
inductive Step (thread : Thread) : Toggle Thread → Toggle Thread → Prop
  | stay (toggle : Toggle Thread) : Step thread toggle toggle
  | change (toggle : Toggle Thread) : Step thread toggle (toggle.change thread)
  | announce (toggle : Toggle Thread) (position : Nat) (rest : List Nat)
      (top : toggle.pending thread = position :: rest)
      (oldest : ∀ other, ∀ older ∈ toggle.pending other, position ≤ older) :
      Step thread toggle (toggle.announce thread position rest)

/-- The change is waiting to be announced. -/
def Waiting (toggle : Toggle Thread) (position : Nat) : Prop :=
  toggle.announced.length ≤ position ∧ position < toggle.changes

instance (toggle : Toggle Thread) (position : Nat) : Decidable (toggle.Waiting position) :=
  inferInstanceAs (Decidable (_ ∧ _))

/-- Each change that is waiting is pending once, at its owner. -/
structure Owned (toggle : Toggle Thread) (owner : Nat → Option Thread) : Prop where
  assigned : ∀ position, toggle.Waiting position → ∃ thread, owner position = some thread
  counted : ∀ thread position, (toggle.pending thread).count position =
    if toggle.Waiting position ∧ owner position = some thread then 1 else 0

structure Ordered (toggle : Toggle Thread) : Prop where
  alternate : alternates true toggle.announced = true
  bounded : toggle.announced.length ≤ toggle.changes
  owned : ∃ owner, Owned toggle owner

theorem Ordered.initial : Ordered (⟨0, fun _ => [], []⟩ : Toggle Thread) where
  alternate := rfl
  bounded := Nat.le_refl 0
  owned := by
    refine ⟨fun _ => none, fun position waiting => ?_, fun thread position => by simp⟩
    exact absurd waiting.2 (Nat.not_lt_zero position)

section Steps

variable {toggle next : Toggle Thread} {thread : Thread}

theorem Owned.waiting {owner : Nat → Option Thread} (owned : Owned toggle owner) {position : Nat}
    (held : position ∈ toggle.pending thread) : toggle.Waiting position := by
  have counted := owned.counted thread position
  by_contra outside
  rw [if_neg fun both => outside both.1, List.count_eq_zero] at counted
  exact counted held

theorem Owned.held {owner : Nat → Option Thread} (owned : Owned toggle owner) {position : Nat}
    (waiting : toggle.Waiting position) : ∃ thread, position ∈ toggle.pending thread := by
  obtain ⟨thread, own⟩ := owned.assigned position waiting
  have counted := owned.counted thread position
  rw [if_pos ⟨waiting, own⟩] at counted
  exact ⟨thread, List.count_pos_iff.mp (counted ▸ Nat.one_pos)⟩

/-- The change that is announced is the first one that was not. -/
theorem Ordered.position_eq (ordered : Ordered toggle) {position : Nat}
    (held : position ∈ toggle.pending thread)
    (oldest : ∀ other, ∀ older ∈ toggle.pending other, position ≤ older) :
    position = toggle.announced.length := by
  obtain ⟨owner, owned⟩ := ordered.owned
  have waiting := owned.waiting held
  obtain ⟨other, first⟩ : ∃ other, toggle.announced.length ∈ toggle.pending other :=
    owned.held ⟨Nat.le_refl _, Nat.lt_of_le_of_lt waiting.1 waiting.2⟩
  exact Nat.le_antisymm (oldest other _ first) waiting.1

theorem count_update {positions : List Nat} {position : Nat}
    (same : positions.count position = (toggle.pending thread).count position) (other : Thread) :
    (Function.update toggle.pending thread positions other).count position =
      (toggle.pending other).count position := by
  by_cases own : other = thread
  · rw [own, Function.update_self, same]
  · rw [Function.update_of_ne own]

theorem Owned.change {owner : Nat → Option Thread} (owned : Owned toggle owner)
    (bounded : toggle.announced.length ≤ toggle.changes) (thread : Thread) :
    Owned (toggle.change thread) (Function.update owner toggle.changes (some thread)) where
  assigned := by
    rintro position ⟨lower, upper⟩
    by_cases new : position = toggle.changes
    · exact ⟨thread, by rw [new, Function.update_self]⟩
    · rw [Function.update_of_ne new]
      exact owned.assigned position ⟨lower, Nat.lt_of_le_of_ne (Nat.lt_succ_iff.mp upper) new⟩
  counted := by
    intro other position
    have before := owned.counted other position
    by_cases new : position = toggle.changes
    · -- the new change: pending nowhere before, and once now
      subst new
      rw [if_neg fun both => Nat.lt_irrefl _ both.1.2] at before
      rw [change_pending, Function.update_self]
      by_cases own : other = thread
      · rw [own, Function.update_self, List.count_cons_self, ← own, before,
          if_pos ⟨⟨bounded, Nat.lt_succ_self _⟩, rfl⟩]
      · rw [Function.update_of_ne own, before,
          if_neg fun both => own (Option.some.inj both.2).symm]
    · have same : (toggle.change thread).Waiting position ↔ toggle.Waiting position := by
        refine and_congr_right fun _ => ?_
        show position < toggle.changes + 1 ↔ position < toggle.changes
        omega
      rw [Function.update_of_ne new]
      simp only [same]
      exact (count_update (List.count_cons_of_ne (Ne.symm new)) other).trans before

theorem Owned.announce {owner : Nat → Option Thread} (owned : Owned toggle owner) {rest : List Nat}
    (top : toggle.pending thread = toggle.announced.length :: rest) :
    Owned (toggle.announce thread toggle.announced.length rest) owner where
  assigned := by
    rintro position ⟨lower, upper⟩
    refine owned.assigned position ⟨?_, upper⟩
    exact Nat.le_trans (by simp [Toggle.announce]) lower
  counted := by
    intro other position
    have before := owned.counted other position
    by_cases first : position = toggle.announced.length
    · -- the change that is announced: pending at its thread only, and nowhere now
      subst first
      have own := owned.counted thread toggle.announced.length
      rw [top, List.count_cons_self] at own
      split at own
      next held =>
        have announced : ¬ (toggle.announce thread toggle.announced.length rest).Waiting
            toggle.announced.length := by
          rintro ⟨lower, -⟩
          rw [Toggle.announce, List.length_append, List.length_singleton] at lower
          omega
        rw [if_neg fun both => announced both.1, announce_pending]
        by_cases same : other = thread
        · rw [same, Function.update_self]
          exact Nat.succ.inj own
        · rw [Function.update_of_ne same, before,
            if_neg fun both => same (Option.some.inj (both.2.symm.trans held.2))]
      next => cases own
    · have same : (toggle.announce thread toggle.announced.length rest).Waiting position ↔
          toggle.Waiting position := by
        refine and_congr_left fun _ => ?_
        rw [Toggle.announce, List.length_append, List.length_singleton]
        omega
      simp only [same]
      refine (count_update ?_ other).trans before
      rw [top, List.count_cons_of_ne (Ne.symm first)]

theorem Ordered.step (ordered : Ordered toggle) (taken : Step thread toggle next) :
    Ordered next := by
  obtain ⟨owner, owned⟩ := ordered.owned
  cases taken with
  | stay => exact ordered
  | change =>
      exact ⟨ordered.alternate, Nat.le_succ_of_le ordered.bounded, _,
        owned.change ordered.bounded thread⟩
  | announce position rest top oldest =>
      have held : position ∈ toggle.pending thread := top ▸ List.mem_cons_self
      have waiting := owned.waiting held
      obtain rfl := ordered.position_eq held oldest
      refine ⟨?_, ?_, owner, owned.announce top⟩
      · rw [Toggle.announce, alternates_concat, ordered.alternate]
        simp
      · rw [Toggle.announce, List.length_append]
        exact waiting.2

/-- Once nothing is pending, the last announcement is about the toggle as it is. -/
theorem Ordered.last (ordered : Ordered toggle) (done : ∀ thread, toggle.pending thread = []) :
    toggle.announced.getLast? = some true ↔ toggle.changes.bodd = true := by
  obtain ⟨owner, owned⟩ := ordered.owned
  have all : toggle.announced.length = toggle.changes := by
    refine Nat.le_antisymm ordered.bounded (Nat.not_lt.mp fun missing => ?_)
    obtain ⟨thread, held⟩ := owned.held ⟨Nat.le_refl _, missing⟩
    rw [done thread] at held
    cases held
  rw [getLast_of_alternates ordered.alternate, all]

end Steps

end Toggle

end Ssim.Library.Toggling
