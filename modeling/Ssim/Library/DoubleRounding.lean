import Ssim.Library.Rounding

/-!
# Rounding twice

A number is rounded to a floating-point number and that to an integer.  The integer is
within a half of the number except where the first rounding reaches a half upwards, and
where the floating-point numbers are further apart than the integers.
-/

namespace Ssim.Library.Rounding

/-- The nearest integer, and of two the one away from zero. -/
def roundHalfAway (x : ℚ) : ℤ := if 0 ≤ x then ⌊x + 1 / 2⌋ else ⌈x - 1 / 2⌉

theorem roundHalfAway_intCast (whole : ℤ) : roundHalfAway whole = whole := by
  unfold roundHalfAway
  split
  · rw [Int.floor_eq_iff]
    constructor <;> linarith
  · rw [Int.ceil_eq_iff]
    constructor <;> linarith

theorem one_le_roundHalfAway {x : ℚ} : 1 ≤ roundHalfAway x ↔ 1 / 2 ≤ x := by
  unfold roundHalfAway
  split
  next =>
    rw [Int.le_floor]
    push_cast
    constructor <;> intro _ <;> linarith
  next negative =>
    have notPositive : ⌈x - 1 / 2⌉ ≤ 0 := Int.ceil_le.mpr (by push_cast; linarith)
    constructor
    · intro _
      omega
    · intro _
      linarith

section Twice

variable (format : Format)

theorem representable_intCast (least : format.least ≤ 0) {whole : ℤ}
    (small : |whole| ≤ 2 ^ format.precision) : Representable format whole :=
  ⟨whole, 0, small, least, by simp⟩

theorem representable_add_half (least : format.least ≤ -1) {whole : ℤ}
    (small : |2 * whole + 1| ≤ 2 ^ format.precision) :
    Representable format (whole + 1 / 2) := by
  refine ⟨2 * whole + 1, -1, small, least, ?_⟩
  rw [zpow_neg_one]
  push_cast
  ring

/-- Fractions take up a digit. -/
theorem integer_or_small {x : ℚ} (representable : Representable format x) :
    (∃ whole : ℤ, x = whole) ∨ |x| < 2 ^ (format.precision - 1) := by
  obtain ⟨numerator, exponent, small, -, rfl⟩ := representable
  by_cases whole : 0 ≤ exponent
  · left
    refine ⟨numerator * 2 ^ exponent.toNat, ?_⟩
    push_cast
    rw [← zpow_natCast, Int.toNat_of_nonneg whole]
  · have short : |(numerator : ℚ)| ≤ 2 ^ format.precision := by exact_mod_cast small
    have bound : |(numerator : ℚ) * 2 ^ exponent| ≤ 2 ^ (format.precision - 1) := by
      have positive := format.positive
      rw [abs_mul, abs_of_pos (show (0 : ℚ) < 2 ^ exponent by positivity)]
      calc |(numerator : ℚ)| * 2 ^ exponent
          ≤ 2 ^ format.precision * 2 ^ (-1 : ℤ) := by
            refine mul_le_mul short (zpow_le_zpow_right₀ (by norm_num) (by omega)) ?_ ?_
              <;> positivity
        _ = 2 ^ (format.precision - 1) := by
            rw [← zpow_natCast, ← zpow_natCast, ← zpow_add₀ (by norm_num)]
            congr 1
            omega
    rcases bound.lt_or_eq with below | reached
    · exact .inr below
    · left
      rcases abs_eq (by positivity) |>.mp reached with same | same
      · exact ⟨2 ^ (format.precision - 1), by rw [same]; push_cast; rfl⟩
      · exact ⟨-2 ^ (format.precision - 1), by rw [same]; push_cast; rfl⟩

/-- A fraction lies between two integers, and those and the half between are representable. -/
theorem fraction_cases (least : format.least ≤ -1) {x : ℚ} (nonneg : 0 ≤ x)
    (representable : Representable format x) (fraction : ¬ ∃ whole : ℤ, x = whole) :
    ∃ whole : ℤ, (whole : ℚ) < x ∧ x < whole + 1 ∧ Representable format whole ∧
      Representable format (whole + 1 / 2) ∧ Representable format (whole + 1) := by
  have small := (integer_or_small format representable).resolve_left fraction
  rw [abs_of_nonneg nonneg] at small
  have low := Int.floor_le x
  have high := Int.lt_floor_add_one x
  have start : 0 ≤ ⌊x⌋ := Int.floor_nonneg.mpr nonneg
  have positive := format.positive
  have double : (2 : ℤ) ^ format.precision = 2 * 2 ^ (format.precision - 1) := by
    rw [← pow_succ']
    congr 1
    omega
  have below : ⌊x⌋ < 2 ^ (format.precision - 1) := by
    have cast : (⌊x⌋ : ℚ) < 2 ^ (format.precision - 1) := lt_of_le_of_lt low small
    exact_mod_cast cast
  refine ⟨⌊x⌋, lt_of_le_of_ne low fun same => fraction ⟨_, same.symm⟩, high,
    representable_intCast format (by omega) (abs_le.mpr ⟨by omega, by omega⟩),
    representable_add_half format least (abs_le.mpr ⟨by omega, by omega⟩), ?_⟩
  have next : Representable format ((⌊x⌋ + 1 : ℤ) : ℚ) :=
    representable_intCast format (by omega) (abs_le.mpr ⟨by omega, by omega⟩)
  push_cast at next
  exact next

/-- Of a fraction the second rounding takes the nearer neighbour, and above a half the upper. -/
theorem roundHalfAway_between {x : ℚ} {whole : ℤ} (nonneg : 0 ≤ whole) (low : whole ≤ x)
    (high : x < whole + 1) :
    roundHalfAway x = if x < whole + 1 / 2 then whole else whole + 1 := by
  have positive : (0 : ℚ) ≤ x := le_trans (by exact_mod_cast nonneg) low
  unfold roundHalfAway
  rw [if_pos positive, Int.floor_eq_iff]
  split
  · constructor <;> linarith
  · push_cast
    constructor <;> linarith

/-- A number rounded to a fraction lies between the same integers. -/
theorem between_of_round {x : ℚ} {whole : ℤ} (low : whole < round format x)
    (high : round format x < whole + 1) (atLow : Representable format whole)
    (atHigh : Representable format (whole + 1)) : (whole : ℚ) < x ∧ x < whole + 1 := by
  constructor
  · by_contra le
    have bound := round_le format atLow (not_lt.mp le)
    linarith
  · by_contra le
    have bound := le_round format atHigh (not_lt.mp le)
    linarith

/-- There is one half between two integers. -/
theorem eq_of_half_between {x : ℚ} {whole other : ℤ} (low : whole < x) (high : x < whole + 1)
    (half : x = other + 1 / 2) : other = whole := by
  have upper : other < whole + 1 := by
    have cast : (other : ℚ) < whole + 1 := by linarith
    exact_mod_cast cast
  have lower : whole < other + 1 := by
    have cast : (whole : ℚ) < other + 1 := by linarith
    exact_mod_cast cast
  omega

/-- The first rounding keeps the side of the half, but may reach the half from below. -/
theorem round_error_of_fraction {x : ℚ} {whole : ℤ} (start : 0 ≤ whole)
    (low : whole < round format x) (high : round format x < whole + 1)
    (beyond : whole < x) (within : x < whole + 1)
    (atHalf : Representable format (whole + 1 / 2)) :
    |(roundHalfAway (round format x) : ℚ) - x| ≤ 1 / 2 ↔
      |round format x - x| ≤ 1 / 2 ∧ ¬ (x < whole + 1 / 2 ∧ round format x = whole + 1 / 2) := by
  rw [roundHalfAway_between start (le_of_lt low) high]
  rcases lt_or_ge x (whole + 1 / 2) with below | above
  · have bound := round_le format atHalf (le_of_lt below)
    rcases lt_or_eq_of_le bound with less | reached
    · rw [if_pos less]
      constructor
      · intro _
        exact ⟨abs_le.mpr ⟨by linarith, by linarith⟩, fun half => by linarith [half.2]⟩
      · intro _
        exact abs_le.mpr ⟨by linarith, by linarith⟩
    · rw [if_neg (by linarith)]
      constructor
      · intro near
        have far := (abs_le.mp near).2
        push_cast at far
        linarith
      · rintro ⟨-, none⟩
        exact absurd ⟨below, reached⟩ none
  · have bound := le_round format atHalf above
    rw [if_neg (by linarith)]
    constructor
    · intro _
      exact ⟨abs_le.mpr ⟨by linarith, by linarith⟩, fun half => by linarith [half.1]⟩
    · intro _
      push_cast
      exact abs_le.mpr ⟨by linarith, by linarith⟩

theorem roundHalfAway_round_error (least : format.least ≤ -1) {x : ℚ} (nonneg : 0 ≤ x) :
    |(roundHalfAway (round format x) : ℚ) - x| ≤ 1 / 2 ↔
      |round format x - x| ≤ 1 / 2 ∧
        ¬ ∃ whole : ℤ, x < whole + 1 / 2 ∧ round format x = whole + 1 / 2 := by
  by_cases integer : ∃ whole : ℤ, round format x = whole
  · obtain ⟨whole, same⟩ := integer
    have noHalf : ¬ ∃ other : ℤ, x < other + 1 / 2 ∧ round format x = other + 1 / 2 := by
      rintro ⟨other, -, half⟩
      have twice : (2 * whole : ℚ) = 2 * other + 1 := by linarith
      have odd : 2 * whole = 2 * other + 1 := by exact_mod_cast twice
      omega
    rw [same, roundHalfAway_intCast, and_iff_left (same ▸ noHalf)]
  · have zero : Representable format ((0 : ℤ) : ℚ) :=
      representable_intCast format (by omega) (by simp)
    rw [Int.cast_zero] at zero
    have above := le_round format zero nonneg
    obtain ⟨whole, low, high, atLow, atHalf, atHigh⟩ :=
      fraction_cases format least above (round_representable format x) integer
    have start : 0 ≤ whole := by
      have cast : (-1 : ℚ) < whole := by linarith
      have integers : (-1 : ℤ) < whole := by exact_mod_cast cast
      omega
    obtain ⟨beyond, within⟩ := between_of_round format low high atLow atHigh
    have onlyHalf : (∃ other : ℤ, x < other + 1 / 2 ∧ round format x = other + 1 / 2) ↔
        x < whole + 1 / 2 ∧ round format x = whole + 1 / 2 := by
      constructor
      · rintro ⟨other, less, half⟩
        exact eq_of_half_between low high half ▸ ⟨less, half⟩
      · intro half
        exact ⟨whole, half⟩
    rw [onlyHalf]
    exact round_error_of_fraction format start low high beyond within atHalf

/-- The second rounding stays below an integer that the first one stayed below. -/
theorem roundHalfAway_lt_iff {x : ℚ} (nonneg : 0 ≤ x) (representable : Representable format x)
    {bound : ℤ} (large : 2 ^ (format.precision - 1) < bound) :
    roundHalfAway x < bound ↔ x < bound := by
  rcases integer_or_small format representable with ⟨whole, rfl⟩ | small
  · rw [roundHalfAway_intCast]
    exact Int.cast_lt.symm
  · rw [abs_of_nonneg nonneg] at small
    have below : x < bound := lt_trans small (by exact_mod_cast large)
    refine iff_of_true ?_ below
    unfold roundHalfAway
    rw [if_pos nonneg, Int.floor_lt]
    have next : (2 : ℤ) ^ (format.precision - 1) + 1 ≤ bound := large
    have cast : (2 : ℚ) ^ (format.precision - 1) + 1 ≤ bound := by exact_mod_cast next
    linarith

end Twice

end Ssim.Library.Rounding
