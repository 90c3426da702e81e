import Mathlib.Data.Nat.Basic
import Mathlib.Logic.Function.Basic
import Mathlib.Order.Interval.Finset.Nat

/-!
# Rings indexed by counters that wrap

Two counters that only grow are kept in 64 bits.  What is computed from them is what the
counters themselves would give, as long as the distance between them fits into 64 bits.

The low bits of a counter number a slot.  A window is as long as the ring, so it names every slot
once; it holds the items whose counters lie in it.
-/

namespace Ssim.Library.RingIndex

/-! ## Distances -/

theorem toNat_sub {front back : Nat} (order : back ≤ front) (near : front - back < 2 ^ 64) :
    (UInt64.ofNat front - UInt64.ofNat back).toNat = front - back := by
  rw [UInt64.toNat_sub, UInt64.toNat_ofNat', UInt64.toNat_ofNat']
  omega

theorem ofNat_eq_iff {front back : Nat} (order : back ≤ front) (near : front - back < 2 ^ 64) :
    UInt64.ofNat back = UInt64.ofNat front ↔ back = front := by
  refine ⟨fun same => ?_, fun same => by rw [same]⟩
  have distance := toNat_sub order near
  rw [same, UInt64.sub_self, UInt64.toNat_zero] at distance
  omega

/-! ## Slots -/

/-- The slot that a counter names. -/
def slot (mask : UInt64) (count : Nat) : UInt64 :=
  UInt64.ofNat count &&& mask

/-- A mask of all ones. -/
structure Ones (mask : UInt64) (bits : Nat) : Prop where
  value : mask.toNat + 1 = 2 ^ bits
  fits : bits ≤ 64

theorem Ones.slot_toNat {mask : UInt64} {bits : Nat} (ones : Ones mask bits) (count : Nat) :
    (slot mask count).toNat = count % (mask.toNat + 1) := by
  have value : mask.toNat = 2 ^ bits - 1 := Nat.eq_sub_of_add_eq ones.value
  have divides : 2 ^ bits ∣ 2 ^ 64 := Nat.pow_dvd_pow 2 ones.fits
  rw [slot, UInt64.toNat_and, value, Nat.and_two_pow_sub_one_eq_mod, UInt64.toNat_ofNat',
    Nat.mod_mod_of_dvd _ divides, ← value, ones.value]

/-- Counters less than a round apart name different slots. -/
theorem Ones.slot_injective {mask : UInt64} {bits : Nat} (ones : Ones mask bits)
    {front back : Nat} (order : back ≤ front) (near : front - back ≤ mask.toNat)
    (same : slot mask back = slot mask front) : back = front := by
  have remainders : back % (mask.toNat + 1) = front % (mask.toNat + 1) := by
    rw [← ones.slot_toNat, ← ones.slot_toNat, same]
  have divides : mask.toNat + 1 ∣ front - back :=
    Nat.dvd_of_mod_eq_zero (Nat.sub_mod_eq_zero_of_mod_eq remainders.symm)
  have zero : front - back = 0 := Nat.eq_zero_of_dvd_of_lt divides (Nat.lt_succ_of_le near)
  omega

theorem Ones.slot_next_round {mask : UInt64} {bits : Nat} (ones : Ones mask bits) (count : Nat) :
    slot mask (count + (mask.toNat + 1)) = slot mask count := by
  apply UInt64.toNat_inj.mp
  rw [ones.slot_toNat, ones.slot_toNat, Nat.add_mod_right]

/-- Every slot is named within a round. -/
theorem Ones.exists_slot {mask : UInt64} {bits : Nat} (ones : Ones mask bits) (low : Nat)
    {key : UInt64} (inside : key ≤ mask) :
    ∃ offset ≤ mask.toNat, slot mask (low + offset) = key := by
  have bound : key.toNat < mask.toNat + 1 :=
    Nat.lt_succ_of_le (UInt64.le_iff_toNat_le.mp inside)
  have rest : low % (mask.toNat + 1) < mask.toNat + 1 := Nat.mod_lt _ (Nat.succ_pos _)
  have split : (mask.toNat + 1) * (low / (mask.toNat + 1)) + low % (mask.toNat + 1) = low :=
    Nat.div_add_mod ..
  rcases Nat.lt_or_ge key.toNat (low % (mask.toNat + 1)) with before | after
  · refine ⟨key.toNat + (mask.toNat + 1) - low % (mask.toNat + 1), by omega, ?_⟩
    apply UInt64.toNat_inj.mp
    have value : low + (key.toNat + (mask.toNat + 1) - low % (mask.toNat + 1)) =
        key.toNat + (mask.toNat + 1) * (low / (mask.toNat + 1) + 1) := by
      rw [Nat.mul_succ]
      omega
    rw [ones.slot_toNat, value, Nat.add_mul_mod_self_left, Nat.mod_eq_of_lt bound]
  · refine ⟨key.toNat - low % (mask.toNat + 1), by omega, ?_⟩
    apply UInt64.toNat_inj.mp
    have value : low + (key.toNat - low % (mask.toNat + 1)) =
        key.toNat + (mask.toNat + 1) * (low / (mask.toNat + 1)) := by
      omega
    rw [ones.slot_toNat, value, Nat.add_mul_mod_self_left, Nat.mod_eq_of_lt bound]

/-! ## Windows -/

variable {α : Type*}

/-- From `low` on for one round, every slot holds the item of its counter, if there is one. -/
def Window (mask : UInt64) (slots : UInt64 → Option α) (low : Nat) (items : List α) : Prop :=
  ∀ offset ≤ mask.toNat, slots (slot mask (low + offset)) = items[low + offset]?

theorem window_empty (mask : UInt64) : Window mask (fun _ => (none : Option α)) 0 [] := by
  intro offset _
  simp

theorem Window.at {mask : UInt64} {slots : UInt64 → Option α} {low : Nat} {items : List α}
    (window : Window mask slots low items) {count : Nat} (after : low ≤ count)
    (near : count - low ≤ mask.toNat) : slots (slot mask count) = items[count]? := by
  have held := window (count - low) near
  rwa [Nat.add_sub_cancel' after] at held

/-- No more slots are full than there are items in the window. -/
theorem Window.card_le {mask : UInt64} {bits : Nat} (ones : Ones mask bits)
    {slots : UInt64 → Option α} {low : Nat} {items : List α}
    (window : Window mask slots low items) {full : Finset UInt64}
    (filled : ∀ key ∈ full, key ≤ mask ∧ (slots key).isSome = true) :
    full.card ≤ items.length - low := by
  have named : full ⊆ (Finset.Ico low items.length).image (slot mask) := by
    intro key member
    obtain ⟨inside, holds⟩ := filled key member
    obtain ⟨offset, near, rfl⟩ := ones.exists_slot low inside
    have before : low + offset < items.length := by
      simpa [window offset near] using holds
    exact Finset.mem_image_of_mem _ (Finset.mem_Ico.mpr ⟨Nat.le_add_right low offset, before⟩)
  calc full.card
      ≤ ((Finset.Ico low items.length).image (slot mask)).card := Finset.card_le_card named
    _ ≤ (Finset.Ico low items.length).card := Finset.card_image_le
    _ = items.length - low := Nat.card_Ico low items.length

/-- The slot behind the last item takes the next one. -/
theorem Window.place {mask : UInt64} {bits : Nat} (ones : Ones mask bits)
    {slots : UInt64 → Option α} {low : Nat} {items : List α}
    (window : Window mask slots low items) (after : low ≤ items.length)
    (room : items.length - low ≤ mask.toNat) (item : α) :
    Window mask (Function.update slots (slot mask items.length) (some item)) low
      (items ++ [item]) := by
  intro offset near
  by_cases last : low + offset = items.length
  · rw [last, Function.update_self, List.getElem?_concat_length]
  · have different : slot mask (low + offset) ≠ slot mask items.length := by
      intro same
      rcases Nat.le_total (low + offset) items.length with before | behind
      · exact last (ones.slot_injective before (by omega) same)
      · exact last (ones.slot_injective behind (by omega) same.symm).symm
    rw [Function.update_of_ne different, window offset near]
    rcases Nat.lt_or_gt_of_ne last with before | behind
    · rw [List.getElem?_append_left before]
    · rw [List.getElem?_eq_none (by omega), List.getElem?_eq_none (by simp; omega)]

/-- The slot of the first item is emptied, and the window starts behind it. -/
theorem Window.clear {mask : UInt64} {bits : Nat} (ones : Ones mask bits)
    {slots : UInt64 → Option α} {low : Nat} {items : List α}
    (window : Window mask slots low items) (short : items.length ≤ low + (mask.toNat + 1)) :
    Window mask (Function.update slots (slot mask low) none) (low + 1) items := by
  intro offset near
  rw [Nat.add_assoc]
  by_cases round : offset = mask.toNat
  · rw [round, Nat.add_comm 1, ones.slot_next_round, Function.update_self,
      List.getElem?_eq_none short]
  · have different : slot mask (low + (1 + offset)) ≠ slot mask low := by
      intro same
      have zero := ones.slot_injective (Nat.le_add_right low (1 + offset)) (by omega) same.symm
      omega
    rw [Function.update_of_ne different, window (1 + offset) (by omega)]

end Ssim.Library.RingIndex
