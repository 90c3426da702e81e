import Mathlib.Data.Int.Log
import Mathlib.Data.Rat.Floor
import Mathlib.Algebra.Order.Field.Power
import Mathlib.Tactic.FieldSimp
import Mathlib.Tactic.Linarith
import Mathlib.Tactic.NormNum
import Mathlib.Tactic.Positivity
import Mathlib.Tactic.Ring

/-!
# Rounding to binary floating-point numbers

Finite floating-point numbers are rationals with a short numerator over a power of
two.  Rounding goes to the nearest of them, and to the even one of two.  Exponents
have no upper bound here: what would overflow is a large number.
-/

namespace Ssim.Library.Rounding

/-! ## Rounding to integers -/

/-- The nearest integer, the even one of two. -/
def roundHalfEven (x : ℚ) : ℤ :=
  if x - ⌊x⌋ < 1 / 2 then ⌊x⌋
  else if 1 / 2 < x - ⌊x⌋ then ⌊x⌋ + 1
  else if ⌊x⌋ % 2 = 0 then ⌊x⌋
  else ⌊x⌋ + 1

theorem roundHalfEven_cases (x : ℚ) :
    roundHalfEven x = ⌊x⌋ ∧ x - ⌊x⌋ ≤ 1 / 2 ∨ roundHalfEven x = ⌊x⌋ + 1 ∧ 1 / 2 ≤ x - ⌊x⌋ := by
  unfold roundHalfEven
  split
  next below => exact .inl ⟨rfl, le_of_lt below⟩
  next above =>
    split
    next beyond => exact .inr ⟨rfl, le_of_lt beyond⟩
    next within =>
      split
      next => exact .inl ⟨rfl, not_lt.mp within⟩
      next => exact .inr ⟨rfl, not_lt.mp above⟩

theorem roundHalfEven_error (x : ℚ) : |(roundHalfEven x : ℚ) - x| ≤ 1 / 2 := by
  have low := Int.floor_le x
  have high := Int.lt_floor_add_one x
  rw [abs_le]
  rcases roundHalfEven_cases x with ⟨same, near⟩ | ⟨same, near⟩
  · rw [same]
    constructor <;> linarith
  · rw [same]
    push_cast
    constructor <;> linarith

theorem roundHalfEven_le {x : ℚ} {bound : ℤ} (le : x ≤ bound) : roundHalfEven x ≤ bound := by
  rcases roundHalfEven_cases x with ⟨same, -⟩ | ⟨same, near⟩
  · rw [same]
    exact Int.floor_le_iff.mpr (lt_of_le_of_lt le (by linarith))
  · rw [same]
    have below : (⌊x⌋ : ℚ) < bound := by linarith
    exact_mod_cast below

theorem le_roundHalfEven {x : ℚ} {bound : ℤ} (le : bound ≤ x) : bound ≤ roundHalfEven x := by
  have floor := Int.le_floor.mpr le
  rcases roundHalfEven_cases x with ⟨same, -⟩ | ⟨same, -⟩
  · rw [same]
    exact floor
  · rw [same]
    omega

/-- No integer is nearer. -/
theorem roundHalfEven_nearest (x : ℚ) (other : ℤ) :
    |(roundHalfEven x : ℚ) - x| ≤ |(other : ℚ) - x| := by
  by_cases same : other = roundHalfEven x
  · rw [same]
  · have apart : (1 : ℚ) ≤ |(other : ℚ) - roundHalfEven x| := by
      have positive : 1 ≤ |other - roundHalfEven x| := Int.one_le_abs (sub_ne_zero.mpr same)
      exact_mod_cast positive
    have error := roundHalfEven_error x
    have triangle := abs_sub_le (other : ℚ) x (roundHalfEven x)
    rw [abs_sub_comm x] at triangle
    linarith

/-! ## Formats -/

/-- The digits of a numerator and the least exponent. -/
structure Format where
  precision : ℕ
  least : ℤ
  positive : 0 < precision

/-- Double precision. -/
def binary64 : Format := ⟨53, -1074, by decide⟩

section Round

variable (format : Format)

def Representable (x : ℚ) : Prop :=
  ∃ numerator exponent : ℤ, |numerator| ≤ 2 ^ format.precision ∧ format.least ≤ exponent ∧
    x = numerator * 2 ^ exponent

/-- The exponent of the last place at a number. -/
def lastPlace (x : ℚ) : ℤ := max (Int.log 2 |x| + 1 - format.precision) format.least

def round (x : ℚ) : ℚ := roundHalfEven (x / 2 ^ lastPlace format x) * 2 ^ lastPlace format x

theorem abs_lt_lastPlace (x : ℚ) : |x| < 2 ^ format.precision * 2 ^ lastPlace format x := by
  have below : |x| < (2 : ℚ) ^ (Int.log 2 |x| + 1) := Int.lt_zpow_succ_log_self (by decide) |x|
  have enough : Int.log 2 |x| + 1 ≤ format.precision + lastPlace format x := by
    have place := le_max_left (Int.log 2 |x| + 1 - format.precision) format.least
    unfold lastPlace
    omega
  calc |x| < (2 : ℚ) ^ (Int.log 2 |x| + 1) := below
    _ ≤ 2 ^ ((format.precision : ℤ) + lastPlace format x) :=
        zpow_le_zpow_right₀ (by norm_num) enough
    _ = 2 ^ format.precision * 2 ^ lastPlace format x := by
        rw [zpow_add₀ (by norm_num), zpow_natCast]

theorem round_representable (x : ℚ) : Representable format (round format x) := by
  have positive : (0 : ℚ) < 2 ^ lastPlace format x := by positivity
  have small := abs_lt_lastPlace format x
  refine ⟨_, _, ?_, le_max_right _ _, rfl⟩
  have range : |x / 2 ^ lastPlace format x| < 2 ^ format.precision := by
    rw [abs_div, abs_of_pos positive, div_lt_iff₀ positive]
    exact small
  rw [abs_lt] at range
  rw [abs_le]
  constructor
  · refine le_roundHalfEven ?_
    push_cast
    linarith
  · refine roundHalfEven_le ?_
    push_cast
    linarith

/-- Multiples of the last place are no nearer. -/
theorem round_nearest_multiple (x : ℚ) (numerator : ℤ) :
    |round format x - x| ≤ |(numerator : ℚ) * 2 ^ lastPlace format x - x| := by
  have positive : (0 : ℚ) < 2 ^ lastPlace format x := by positivity
  have scaled : ∀ n : ℤ, |(n : ℚ) * 2 ^ lastPlace format x - x| =
      |(n : ℚ) - x / 2 ^ lastPlace format x| * 2 ^ lastPlace format x := by
    intro n
    rw [← abs_of_pos positive, ← abs_mul, abs_of_pos positive]
    congr 1
    field_simp
  rw [round, scaled, scaled]
  exact mul_le_mul_of_nonneg_right (roundHalfEven_nearest _ numerator) (le_of_lt positive)

/-- The power of two just below a number is a multiple of its last place. -/
theorem round_nearest_power {x : ℚ} (nonzero : x ≠ 0)
    (place : lastPlace format x = Int.log 2 |x| + 1 - format.precision) :
    |round format x - x| ≤ |x| - 2 ^ Int.log 2 |x| := by
  have power : (2 : ℚ) ^ Int.log 2 |x| ≤ |x| :=
    Int.zpow_log_le_self (by decide) (abs_pos.mpr nonzero)
  have multiple : (2 : ℚ) ^ (format.precision - 1) * 2 ^ lastPlace format x =
      2 ^ Int.log 2 |x| := by
    have positive := format.positive
    rw [← zpow_natCast, ← zpow_add₀ (by norm_num), place]
    congr 1
    omega
  rcases le_total 0 x with nonneg | nonpos
  · have near := round_nearest_multiple format x (2 ^ (format.precision - 1))
    push_cast at near
    rw [multiple] at near
    rw [abs_of_nonneg nonneg] at power near ⊢
    rwa [abs_of_nonpos (show 2 ^ Int.log 2 x - x ≤ 0 by linarith), neg_sub] at near
  · have near := round_nearest_multiple format x (-2 ^ (format.precision - 1))
    push_cast at near
    rw [neg_mul, multiple] at near
    rw [abs_of_nonpos nonpos] at power near ⊢
    rw [abs_of_nonneg (show 0 ≤ -2 ^ Int.log 2 (-x) - x by linarith)] at near
    linarith

/-- No representable number is nearer. -/
theorem round_nearest (x : ℚ) {other : ℚ} (representable : Representable format other) :
    |round format x - x| ≤ |other - x| := by
  obtain ⟨numerator, exponent, small, least, rfl⟩ := representable
  by_cases coarse : lastPlace format x ≤ exponent
  · obtain ⟨shift, same⟩ := Int.le.dest coarse
    have multiple : (numerator : ℚ) * 2 ^ exponent =
        ((numerator * 2 ^ shift : ℤ) : ℚ) * 2 ^ lastPlace format x := by
      push_cast
      rw [← same, zpow_add₀ (by norm_num), zpow_natCast]
      ring
    rw [multiple]
    exact round_nearest_multiple format x _
  · by_cases zero : x = 0
    · have exact : round format 0 = 0 := by simp [round, roundHalfEven]
      rw [zero, exact, sub_self, abs_zero]
      exact abs_nonneg _
    -- The other number is too short to lie beyond the power of two below `x`.
    · have place : lastPlace format x = Int.log 2 |x| + 1 - format.precision := by
        unfold lastPlace at coarse ⊢
        omega
      have near := round_nearest_power format zero place
      have bound : |(numerator : ℚ) * 2 ^ exponent| ≤ 2 ^ Int.log 2 |x| := by
        have short : |(numerator : ℚ)| ≤ 2 ^ format.precision := by exact_mod_cast small
        rw [abs_mul, abs_of_pos (show (0 : ℚ) < 2 ^ exponent by positivity)]
        calc |(numerator : ℚ)| * 2 ^ exponent
            ≤ 2 ^ format.precision * 2 ^ exponent :=
              mul_le_mul_of_nonneg_right short (by positivity)
          _ = 2 ^ ((format.precision : ℤ) + exponent) := by
              rw [zpow_add₀ (by norm_num), zpow_natCast]
          _ ≤ 2 ^ Int.log 2 |x| := zpow_le_zpow_right₀ (by norm_num) (by omega)
      have apart := abs_sub_abs_le_abs_sub x ((numerator : ℚ) * 2 ^ exponent)
      rw [abs_sub_comm] at apart
      linarith

theorem round_of_representable {x : ℚ} (representable : Representable format x) :
    round format x = x := by
  have near := round_nearest format x representable
  rw [sub_self, abs_zero] at near
  exact sub_eq_zero.mp (abs_nonpos_iff.mp near)

/-- What is nearer than a smaller number lies beyond their midpoint. -/
theorem add_le_of_nearer {near other x : ℚ} (less : other < near)
    (nearer : |near - x| ≤ |other - x|) : near + other ≤ 2 * x := by
  have squares := sq_le_sq.mpr nearer
  by_contra beyond
  have positive := mul_pos (sub_pos.mpr less) (sub_pos.mpr (not_le.mp beyond))
  linarith [positive, squares, show (near - other) * (near + other - 2 * x) =
    (near - x) ^ 2 - (other - x) ^ 2 by ring]

/-- What is rounded to a number or below lies below the middle of it and every greater one. -/
theorem two_mul_le_of_round_le {x low high : ℚ} (rounded : round format x ≤ low)
    (less : low < high) (representable : Representable format high) : 2 * x ≤ low + high := by
  have nearest := round_nearest format x representable
  rw [← abs_neg, ← abs_neg (high - x), neg_sub', neg_sub'] at nearest
  have above := add_le_of_nearer (neg_lt_neg (lt_of_le_of_lt rounded less)) nearest
  linarith

/-- What is rounded to a number or above lies above the middle of it and every smaller one. -/
theorem le_two_mul_of_le_round {x low high : ℚ} (rounded : high ≤ round format x)
    (less : low < high) (representable : Representable format low) : low + high ≤ 2 * x := by
  have nearest := round_nearest format x representable
  have above := add_le_of_nearer (lt_of_lt_of_le less rounded) nearest
  linarith

/-- Rounding keeps the order. -/
theorem round_mono {x y : ℚ} (le : x ≤ y) : round format x ≤ round format y := by
  by_contra greater
  rw [not_le] at greater
  have first := round_nearest format x (round_representable format y)
  have second := round_nearest format y (round_representable format x)
  have above := add_le_of_nearer greater first
  rw [← abs_neg, ← abs_neg (round format x - y), neg_sub', neg_sub'] at second
  have below := add_le_of_nearer (neg_lt_neg greater) second
  have same : x = y := by linarith
  rw [same] at greater
  exact lt_irrefl _ greater

theorem round_le {x bound : ℚ} (representable : Representable format bound) (le : x ≤ bound) :
    round format x ≤ bound := by
  have mono := round_mono format le
  rwa [round_of_representable format representable] at mono

theorem le_round {x bound : ℚ} (representable : Representable format bound) (le : bound ≤ x) :
    bound ≤ round format x := by
  have mono := round_mono format le
  rwa [round_of_representable format representable] at mono

end Round

/-! ## Doubles -/

/-- A finite double. -/
@[ext]
structure Binary64 where
  value : ℚ
  isDouble : Representable binary64 value

instance : DecidableEq Binary64 := fun first second =>
  decidable_of_iff (first.value = second.value) Binary64.ext_iff.symm

/-- The double nearest to a number. -/
def Binary64.ofRat (x : ℚ) : Binary64 := ⟨round binary64 x, round_representable binary64 x⟩

@[simp]
theorem Binary64.ofRat_value_eq (x : Binary64) : Binary64.ofRat x.value = x :=
  Binary64.ext (round_of_representable binary64 x.isDouble)

/-! Arithmetic is exact and then rounded. -/

instance : Zero Binary64 := ⟨.ofRat 0⟩
instance : Add Binary64 := ⟨fun x y => .ofRat (x.value + y.value)⟩
instance : Sub Binary64 := ⟨fun x y => .ofRat (x.value - y.value)⟩
instance : Mul Binary64 := ⟨fun x y => .ofRat (x.value * y.value)⟩
instance : Div Binary64 := ⟨fun x y => .ofRat (x.value / y.value)⟩
instance : Neg Binary64 := ⟨fun x => .ofRat (-x.value)⟩
instance : IntCast Binary64 := ⟨fun whole => .ofRat whole⟩
instance : OfScientific Binary64 := ⟨fun digits negative exponent =>
  .ofRat (OfScientific.ofScientific digits negative exponent)⟩
instance : LE Binary64 := ⟨fun x y => x.value ≤ y.value⟩
instance : LT Binary64 := ⟨fun x y => x.value < y.value⟩
instance : DecidableLE Binary64 := fun x y => inferInstanceAs (Decidable (x.value ≤ y.value))
instance : DecidableLT Binary64 := fun x y => inferInstanceAs (Decidable (x.value < y.value))

theorem Binary64.value_mul (x y : Binary64) :
    (x * y).value = round binary64 (x.value * y.value) := rfl

theorem Binary64.value_div (x y : Binary64) :
    (x / y).value = round binary64 (x.value / y.value) := rfl

end Ssim.Library.Rounding
