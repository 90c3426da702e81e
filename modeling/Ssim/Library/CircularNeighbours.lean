import Mathlib.Algebra.Order.Field.Basic
import Mathlib.Tactic.Linarith
import Mathlib.Tactic.Ring

/-!
# Neighbours on a circle

Items lie on a circle of some length.  A place on it lies between the nearest item strictly
behind it and the nearest item at it or ahead of it.  The interpolation at the place goes
linearly from the value of the one to the value of the other.
-/

namespace Ssim.Library.CircularNeighbours

variable {α K : Type*} [Field K] [LinearOrder K] [IsStrictOrderedRing K]
  (period : K) (angle value : α → K) (items : List α) (place : K)

/-- How far a place is ahead of an angle, going around if it is not ahead of it. -/
def behind (mark : K) : K :=
  if mark < place then place - mark else place - mark + period

/-- How far an angle is ahead of a place, going around if it is behind it. -/
def ahead (mark : K) : K :=
  if place ≤ mark then mark - place else mark - place + period

/-- The two neighbours of a place. -/
structure Brackets (lo hi : α) : Prop where
  lo_mem : lo ∈ items
  hi_mem : hi ∈ items
  nearest_behind : ∀ item ∈ items, behind period place (angle lo) ≤ behind period place (angle item)
  nearest_ahead : ∀ item ∈ items, ahead period place (angle hi) ≤ ahead period place (angle item)

/-- Linear between the neighbours. -/
def interpolated (lo hi : α) : K :=
  value lo + behind period place (angle lo) /
    (behind period place (angle lo) + ahead period place (angle hi)) * (value hi - value lo)

variable {period angle value items place} {lo hi : α}

section Distances

variable {first second : K}

theorem behind_pos (inside : 0 ≤ place) (below : first < period) :
    0 < behind period place first := by
  unfold behind
  split <;> linarith

theorem ahead_nonneg (inside : place < period) (above : 0 ≤ first) :
    0 ≤ ahead period place first := by
  unfold ahead
  split <;> linarith

theorem behind_injective (firstAbove : 0 ≤ first) (firstBelow : first < period)
    (secondAbove : 0 ≤ second) (secondBelow : second < period)
    (same : behind period place first = behind period place second) : first = second := by
  unfold behind at same
  split at same <;> split at same <;> linarith

theorem ahead_injective (firstAbove : 0 ≤ first) (firstBelow : first < period)
    (secondAbove : 0 ≤ second) (secondBelow : second < period)
    (same : ahead period place first = ahead period place second) : first = second := by
  unfold ahead at same
  split at same <;> split at same <;> linarith

end Distances

section Circle

variable (above : ∀ item ∈ items, 0 ≤ angle item) (below : ∀ item ∈ items, angle item < period)

include above below

/-- Items with different angles have one pair of neighbours. -/
theorem Brackets.unique
    (distinct : ∀ first ∈ items, ∀ second ∈ items, angle first = angle second → first = second)
    {otherLo otherHi : α} (brackets : Brackets period angle items place lo hi)
    (others : Brackets period angle items place otherLo otherHi) :
    lo = otherLo ∧ hi = otherHi := by
  have sameBehind := le_antisymm (brackets.nearest_behind _ others.lo_mem)
    (others.nearest_behind _ brackets.lo_mem)
  have sameAhead := le_antisymm (brackets.nearest_ahead _ others.hi_mem)
    (others.nearest_ahead _ brackets.hi_mem)
  constructor
  · exact distinct _ brackets.lo_mem _ others.lo_mem
      (behind_injective (above _ brackets.lo_mem) (below _ brackets.lo_mem)
        (above _ others.lo_mem) (below _ others.lo_mem) sameBehind)
  · exact distinct _ brackets.hi_mem _ others.hi_mem
      (ahead_injective (above _ brackets.hi_mem) (below _ brackets.hi_mem)
        (above _ others.hi_mem) (below _ others.hi_mem) sameAhead)

/-- Neighbours on either side, with no item between them. -/
theorem brackets_inside (loMem : lo ∈ items) (hiMem : hi ∈ items) (behindPlace : angle lo < place)
    (aheadPlace : place ≤ angle hi)
    (adjacent : ∀ item ∈ items, angle item ≤ angle lo ∨ angle hi ≤ angle item) :
    Brackets period angle items place lo hi := by
  have hiBelow := below hi hiMem
  have loAbove := above lo loMem
  refine ⟨loMem, hiMem, fun item member => ?_, fun item member => ?_⟩ <;>
    have itemAbove := above item member <;>
    have itemBelow := below item member <;>
    obtain low | high := adjacent item member
  · rw [behind, behind, if_pos behindPlace, if_pos (low.trans_lt behindPlace)]
    linarith
  · rw [behind, behind, if_pos behindPlace, if_neg (not_lt.mpr (aheadPlace.trans high))]
    linarith
  · rw [ahead, ahead, if_pos aheadPlace, if_neg (not_le.mpr (low.trans_lt behindPlace))]
    linarith
  · rw [ahead, ahead, if_pos aheadPlace, if_pos (aheadPlace.trans high)]
    linarith

/-- Before the first item or after the last one, the neighbours are the last and the first. -/
theorem brackets_around (loMem : lo ∈ items) (hiMem : hi ∈ items)
    (extremes : ∀ item ∈ items, angle hi ≤ angle item ∧ angle item ≤ angle lo)
    (outside : place ≤ angle hi ∨ angle lo < place) :
    Brackets period angle items place lo hi := by
  refine ⟨loMem, hiMem, fun item member => ?_, fun item member => ?_⟩ <;>
    obtain ⟨least, most⟩ := extremes item member <;>
    have loBelow := below lo loMem <;>
    have hiAbove := above hi hiMem <;>
    obtain early | late := outside
  · rw [behind, behind, if_neg (not_lt.mpr (early.trans (least.trans most))),
      if_neg (not_lt.mpr (early.trans least))]
    linarith
  · rw [behind, behind, if_pos late, if_pos (most.trans_lt late)]
    linarith
  · rw [ahead, ahead, if_pos early, if_pos (early.trans least)]
    linarith
  · rw [ahead, ahead, if_neg (not_le.mpr ((least.trans most).trans_lt late)),
      if_neg (not_le.mpr (most.trans_lt late))]
    linarith

variable (inside : 0 ≤ place) (within : place < period)

include inside within

theorem Brackets.interpolated_between (brackets : Brackets period angle items place lo hi) :
    min (value lo) (value hi) ≤ interpolated period angle value place lo hi ∧
      interpolated period angle value place lo hi ≤ max (value lo) (value hi) := by
  have back := behind_pos inside (below _ brackets.lo_mem)
  have front := ahead_nonneg within (above _ brackets.hi_mem)
  have nonneg : 0 ≤ behind period place (angle lo) /
      (behind period place (angle lo) + ahead period place (angle hi)) :=
    div_nonneg back.le (by linarith)
  have atMost : behind period place (angle lo) /
      (behind period place (angle lo) + ahead period place (angle hi)) ≤ 1 :=
    (div_le_one (by linarith)).mpr (by linarith)
  unfold interpolated
  obtain rising | falling := le_total (value lo) (value hi)
  · rw [min_eq_left rising, max_eq_right rising]
    constructor <;> nlinarith
  · rw [min_eq_right falling, max_eq_left falling]
    constructor <;> nlinarith

/-- At an item the interpolation is the value of that item. -/
theorem Brackets.interpolated_at
    (distinct : ∀ first ∈ items, ∀ second ∈ items, angle first = angle second → first = second)
    (brackets : Brackets period angle items place lo hi) {item : α} (member : item ∈ items)
    (here : angle item = place) :
    interpolated period angle value place lo hi = value item := by
  have back := behind_pos inside (below _ brackets.lo_mem)
  have reached : ahead period place (angle item) = 0 := by
    rw [ahead, if_pos here.ge, here, sub_self]
  have zero : ahead period place (angle hi) = 0 :=
    le_antisymm ((brackets.nearest_ahead item member).trans_eq reached)
      (ahead_nonneg within (above _ brackets.hi_mem))
  have same : hi = item := distinct _ brackets.hi_mem _ member
    (ahead_injective (above _ brackets.hi_mem) (below _ brackets.hi_mem) (above _ member)
      (below _ member) (zero.trans reached.symm))
  rw [interpolated, zero, add_zero, div_self back.ne', one_mul, same]
  ring

end Circle

end Ssim.Library.CircularNeighbours
