import Mathlib.Data.Nat.Digits.Lemmas

/-!
# Numerals

Positional numerals as lists of ASCII bytes, the most significant digit first, in
any base up to 36.  The letters of both cases stand for the digits from ten on; a
printed numeral uses the upper case and has no leading zero.
-/

namespace Ssim.Library.Numerals

/-! ## Digits -/

def digitByte (value : Nat) : UInt8 :=
  if value < 10 then UInt8.ofNat (48 + value) else UInt8.ofNat (55 + value)

def digitValue (byte : UInt8) : Option Nat :=
  if 48 ≤ byte ∧ byte ≤ 57 then some (byte.toNat - 48)
  else if 65 ≤ byte ∧ byte ≤ 90 then some (byte.toNat - 55)
  else if 97 ≤ byte ∧ byte ≤ 122 then some (byte.toNat - 87)
  else none

def isDigit (base : Nat) (byte : UInt8) : Bool :=
  match digitValue byte with
  | some value => decide (value < base)
  | none => false

theorem digitByte_toNat {value : Nat} (small : value < 36) :
    (digitByte value).toNat = if value < 10 then 48 + value else 55 + value := by
  unfold digitByte
  split
  · exact UInt8.toNat_ofNat_of_lt' (by change 48 + value < 256; omega)
  · exact UInt8.toNat_ofNat_of_lt' (by change 55 + value < 256; omega)

theorem digitValue_digitByte {value : Nat} (small : value < 36) :
    digitValue (digitByte value) = some value := by
  have bits := digitByte_toNat small
  unfold digitValue
  simp only [UInt8.le_iff_toNat_le, UInt8.reduceToNat]
  by_cases decimal : value < 10
  · rw [if_pos decimal] at bits
    rw [if_pos ⟨by omega, by omega⟩, bits]
    simp
  · rw [if_neg decimal] at bits
    rw [if_neg (by omega), if_pos ⟨by omega, by omega⟩, bits]
    simp

theorem isDigit_iff {base : Nat} {byte : UInt8} :
    isDigit base byte = true ↔ ∃ value, digitValue byte = some value ∧ value < base := by
  unfold isDigit
  cases digitValue byte with
  | none => simp
  | some value => simp

theorem isDigit_digitByte {base value : Nat} (small : base ≤ 36) (below : value < base) :
    isDigit base (digitByte value) = true :=
  isDigit_iff.mpr ⟨value, digitValue_digitByte (Nat.lt_of_lt_of_le below small), below⟩

theorem isDigit_mono {base other : Nat} (le : base ≤ other) {byte : UInt8}
    (digit : isDigit base byte = true) : isDigit other byte = true := by
  obtain ⟨value, found, below⟩ := isDigit_iff.mp digit
  exact isDigit_iff.mpr ⟨value, found, Nat.lt_of_lt_of_le below le⟩

/-- The decimal digits are the ten bytes from `0` to `9`. -/
theorem isDigit_ten {byte : UInt8} :
    isDigit 10 byte = true ↔ 48 ≤ byte.toNat ∧ byte.toNat ≤ 57 := by
  rw [isDigit_iff]
  unfold digitValue
  simp only [UInt8.le_iff_toNat_le, UInt8.reduceToNat]
  constructor
  · rintro ⟨value, found, below⟩
    split at found
    · assumption
    · split at found
      · simp only [Option.some.injEq] at found
        omega
      · split at found
        · simp only [Option.some.injEq] at found
          omega
        · simp at found
  · intro range
    rw [if_pos range]
    exact ⟨_, rfl, by omega⟩

/-! ## Values -/

/-- The value of a word of digits. -/
def value (base : Nat) (word : List UInt8) : Nat :=
  word.foldl (fun sum byte => sum * base + (digitValue byte).getD 0) 0

@[simp]
theorem value_nil (base : Nat) : value base [] = 0 := rfl

theorem value_concat (base : Nat) (word : List UInt8) (byte : UInt8) :
    value base (word ++ [byte]) = value base word * base + (digitValue byte).getD 0 := by
  simp [value]

/-- A larger base gives no smaller value. -/
theorem value_mono {base other : Nat} (le : base ≤ other) (word : List UInt8) :
    value base word ≤ value other word := by
  induction word using List.reverseRecOn with
  | nil => simp
  | append_singleton word byte ih =>
      rw [value_concat, value_concat]
      exact Nat.add_le_add_right (Nat.mul_le_mul ih le) _

/-! ## Printing -/

/-- The digits of a number from the most significant on; zero has one digit. -/
def numeral (base number : Nat) : List UInt8 :=
  if number = 0 then [48] else (base.digits number).reverse.map digitByte

theorem value_map_digitByte {base : Nat} (digits : List Nat)
    (small : ∀ digit ∈ digits, digit < 36) :
    value base (digits.reverse.map digitByte) = Nat.ofDigits base digits := by
  induction digits with
  | nil => simp
  | cons digit digits ih =>
      rw [List.reverse_cons, List.map_append, List.map_singleton, value_concat,
        ih fun other member => small other (List.mem_cons_of_mem _ member),
        digitValue_digitByte (small digit List.mem_cons_self), Option.getD_some, Nat.ofDigits_cons]
      ring

theorem value_numeral {base : Nat} (large : 2 ≤ base) (small : base ≤ 36) (number : Nat) :
    value base (numeral base number) = number := by
  unfold numeral
  split
  next zero => simp [zero, value, digitValue]
  next positive =>
    rw [value_map_digitByte _ fun digit member =>
        Nat.lt_of_lt_of_le (Nat.digits_lt_base large member) small]
    exact Nat.ofDigits_digits base number

theorem numeral_isDigit {base : Nat} (large : 2 ≤ base) (small : base ≤ 36) (number : Nat) :
    ∀ byte ∈ numeral base number, isDigit base byte = true := by
  intro byte member
  unfold numeral at member
  split at member
  next zero =>
    rw [List.mem_singleton] at member
    subst member
    exact isDigit_digitByte small (show 0 < base by omega)
  next positive =>
    simp only [List.mem_map, List.mem_reverse] at member
    obtain ⟨digit, inside, rfl⟩ := member
    exact isDigit_digitByte small (Nat.digits_lt_base large inside)

theorem numeral_ne_nil (base number : Nat) : numeral base number ≠ [] := by
  unfold numeral
  split
  next => simp
  next positive => simp [Nat.digits_eq_nil_iff_eq_zero, positive]

theorem numeral_length_le {base number count : Nat} (large : 2 ≤ base) (positive : 0 < count)
    (below : number < base ^ count) : (numeral base number).length ≤ count := by
  unfold numeral
  split
  next => exact positive
  next =>
    rw [List.length_map, List.length_reverse]
    exact (Nat.digits_length_le_iff large number).mpr below

/-- Only the numeral of zero starts with a zero. -/
theorem numeral_head {base number : Nat} (large : 2 ≤ base) (small : base ≤ 36)
    (positive : number ≠ 0) : (numeral base number).head? ≠ some 48 := by
  unfold numeral
  rw [if_neg positive, List.head?_map, List.head?_reverse]
  have nonempty : base.digits number ≠ [] := Nat.digits_ne_nil_iff_ne_zero.mpr positive
  rw [List.getLast?_eq_getLast_of_ne_nil nonempty, Option.map_some]
  intro same
  have leading := Nat.getLast_digit_ne_zero base positive
  have below := Nat.digits_lt_base large (List.getLast_mem nonempty)
  have bits := congrArg UInt8.toNat (Option.some.inj same)
  rw [digitByte_toNat (Nat.lt_of_lt_of_le below small)] at bits
  change _ = 48 at bits
  split at bits
  · omega
  · omega

/-! ## Signed numerals -/

/-- A number in base ten, a minus sign in front of a negative one. -/
def signedNumeral (number : Int) : List UInt8 :=
  if number < 0 then 45 :: numeral 10 number.natAbs else numeral 10 number.natAbs

end Ssim.Library.Numerals
