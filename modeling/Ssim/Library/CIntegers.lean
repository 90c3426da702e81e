import Mathlib.Data.List.TakeWhile
import Ssim.Library.Numerals

/-!
# Integer conversions of the C library

`strtoll` and `strtoull` with base 0: white space, a sign, and then an integer
constant whose first characters choose the base, ten unless it starts with a zero.
A value out of range saturates and sets `errno`.
-/

namespace Ssim.Library.CIntegers

open Numerals

/-- `isspace` of the C locale. -/
def isSpace (byte : UInt8) : Bool := byte = 32 || (9 ≤ byte && byte ≤ 13)

/-- What a string function sees of a string: everything before the first zero byte. -/
def cString (text : List UInt8) : List UInt8 := text.takeWhile fun byte => byte ≠ 0

/-- A converted value, the text from `end` on, and whether `errno` is `ERANGE`. -/
structure Conversion (α : Type) where
  value : α
  rest : List UInt8
  rangeError : Bool
  deriving DecidableEq

/-- The value of the leading digits, and what follows them. -/
def digitsOf (base : Nat) (text : List UInt8) : Nat × List UInt8 :=
  (value base (text.takeWhile (isDigit base)), text.dropWhile (isDigit base))

/-- What stands after `0x`, where a hex digit does. -/
def afterHexMark : List UInt8 → Option (List UInt8)
  | zero :: mark :: digit :: rest =>
      if zero = 48 ∧ (mark = 120 ∨ mark = 88) ∧ isDigit 16 digit = true then some (digit :: rest)
      else none
  | _ => none

/-- The value of a leading integer constant, and what follows it. -/
def constant (text : List UInt8) : Option (Nat × List UInt8) :=
  match afterHexMark text with
  | some digits => some (digitsOf 16 digits)
  | none =>
      match text with
      | [] => none
      | byte :: _ =>
          if byte = 48 then some (digitsOf 8 text)
          else if isDigit 10 byte then some (digitsOf 10 text)
          else none

/-- Whether there is a minus sign, and what follows the sign. -/
def sign : List UInt8 → Bool × List UInt8
  | [] => (false, [])
  | byte :: rest =>
      if byte = 45 then (true, rest) else if byte = 43 then (false, rest) else (false, byte :: rest)

def saturateSigned (negative : Bool) (magnitude : Nat) (rest : List UInt8) : Conversion Int :=
  if negative then
    if magnitude ≤ 2 ^ 63 then ⟨-(magnitude : Int), rest, false⟩ else ⟨-2 ^ 63, rest, true⟩
  else if magnitude < 2 ^ 63 then ⟨magnitude, rest, false⟩ else ⟨2 ^ 63 - 1, rest, true⟩

/-- A negated unsigned value wraps. -/
def saturateUnsigned (negative : Bool) (magnitude : Nat) (rest : List UInt8) : Conversion Nat :=
  if magnitude < 2 ^ 64 then
    ⟨if negative then (2 ^ 64 - magnitude) % 2 ^ 64 else magnitude, rest, false⟩
  else ⟨2 ^ 64 - 1, rest, true⟩

/-- `none` where no conversion is performed: the value is then 0 and `end` is the start. -/
def strtoll (text : List UInt8) : Option (Conversion Int) :=
  let (negative, body) := sign (text.dropWhile isSpace)
  (constant body).map fun (magnitude, rest) => saturateSigned negative magnitude rest

def strtoull (text : List UInt8) : Option (Conversion Nat) :=
  let (negative, body) := sign (text.dropWhile isSpace)
  (constant body).map fun (magnitude, rest) => saturateUnsigned negative magnitude rest

theorem saturateSigned_minus {magnitude : Nat} (fits : magnitude ≤ 2 ^ 63) (rest : List UInt8) :
    saturateSigned true magnitude rest = ⟨-(magnitude : Int), rest, false⟩ := by
  rw [saturateSigned, if_pos rfl, if_pos fits]

theorem saturateSigned_plus {magnitude : Nat} (fits : magnitude < 2 ^ 63) (rest : List UInt8) :
    saturateSigned false magnitude rest = ⟨magnitude, rest, false⟩ := by
  rw [saturateSigned, if_neg (by simp), if_pos fits]

theorem saturateUnsigned_plus {magnitude : Nat} (fits : magnitude < 2 ^ 64) (rest : List UInt8) :
    saturateUnsigned false magnitude rest = ⟨magnitude, rest, false⟩ := by
  rw [saturateUnsigned, if_pos fits, if_neg (by simp)]

theorem saturateSigned_large {magnitude : Nat} (large : ¬magnitude < 2 ^ 63)
    (rest : List UInt8) : saturateSigned false magnitude rest = ⟨2 ^ 63 - 1, rest, true⟩ := by
  rw [saturateSigned, if_neg (by simp), if_neg large]

theorem saturateUnsigned_large {magnitude : Nat} (large : ¬magnitude < 2 ^ 64) (negative : Bool)
    (rest : List UInt8) : saturateUnsigned negative magnitude rest = ⟨2 ^ 64 - 1, rest, true⟩ := by
  rw [saturateUnsigned, if_neg large]

/-! ## Words of digits -/

theorem digitsOf_all {base : Nat} {word : List UInt8}
    (digits : ∀ byte ∈ word, isDigit base byte = true) :
    digitsOf base word = (value base word, []) := by
  rw [digitsOf, List.takeWhile_eq_self_iff.mpr digits, List.dropWhile_eq_nil_iff.mpr digits]

theorem afterHexMark_digits {word : List UInt8} (digits : ∀ byte ∈ word, isDigit 10 byte = true) :
    afterHexMark word = none := by
  cases word with
  | nil => rfl
  | cons zero word =>
      cases word with
      | nil => rfl
      | cons mark word =>
          have range := isDigit_ten.mp (digits mark (by simp))
          have mark_ne : ¬(mark = 120 ∨ mark = 88) := by
            rintro (rfl | rfl)
            · exact absurd range (by decide)
            · exact absurd range (by decide)
          cases word with
          | nil => rfl
          | cons digit word =>
              rw [afterHexMark, if_neg]
              exact fun all => mark_ne all.2.1

/-- Without a zero in front the word is read in base ten. -/
theorem constant_decimal {byte : UInt8} {word : List UInt8}
    (digits : ∀ other ∈ byte :: word, isDigit 10 other = true) (leading : byte ≠ 48) :
    constant (byte :: word) = some (value 10 (byte :: word), []) := by
  rw [constant, afterHexMark_digits digits]
  simp only
  rw [if_neg leading, if_pos (digits byte List.mem_cons_self), digitsOf_all digits]

/-- With a zero in front it is read in base eight, up to the first other digit. -/
theorem constant_leading_zero {word : List UInt8} (digits : ∀ byte ∈ word, isDigit 10 byte = true) :
    constant (48 :: word) = some (digitsOf 8 (48 :: word)) := by
  have all : ∀ byte ∈ (48 :: word : List UInt8), isDigit 10 byte = true := by
    intro byte member
    rcases List.mem_cons.mp member with rfl | inside
    · decide
    · exact digits byte inside
  rw [constant, afterHexMark_digits all]
  rfl

theorem constant_hex {word : List UInt8} (nonempty : word ≠ [])
    (digits : ∀ byte ∈ word, isDigit 16 byte = true) :
    constant (48 :: 120 :: word) = some (value 16 word, []) := by
  cases word with
  | nil => exact absurd rfl nonempty
  | cons digit word =>
      have mark : afterHexMark (48 :: 120 :: digit :: word) = some (digit :: word) := by
        rw [afterHexMark, if_pos ⟨rfl, .inl rfl, digits digit List.mem_cons_self⟩]
      rw [constant, mark]
      simp only
      rw [digitsOf_all digits]

theorem constant_numeral (number : Nat) : constant (numeral 10 number) = some (number, []) := by
  have digits := numeral_isDigit (by decide : 2 ≤ 10) (by decide) number
  have same := value_numeral (by decide : 2 ≤ 10) (by decide) number
  by_cases zero : number = 0
  · subst zero
    rfl
  · have head := numeral_head (by decide : 2 ≤ 10) (by decide) zero
    cases word : numeral 10 number with
    | nil => exact absurd word (numeral_ne_nil 10 number)
    | cons byte tail =>
        rw [word] at digits same head
        rw [constant_decimal digits (fun leading => head (by rw [leading]; rfl)), same]

/-! ## Signs -/

theorem sign_digit {byte : UInt8} {word : List UInt8} (digit : isDigit 10 byte = true) :
    sign ((byte :: word).dropWhile isSpace) = (false, byte :: word) := by
  have range := isDigit_ten.mp digit
  have space : isSpace byte = false := by
    simp only [isSpace, Bool.or_eq_false_iff, Bool.and_eq_false_iff, decide_eq_false_iff_not,
      UInt8.le_iff_toNat_le, UInt8.reduceToNat]
    refine ⟨?_, by omega⟩
    rintro rfl
    exact absurd range (by decide)
  have minus : byte ≠ 45 := by
    rintro rfl
    exact absurd range (by decide)
  have plus : byte ≠ 43 := by
    rintro rfl
    exact absurd range (by decide)
  rw [List.dropWhile_cons_of_neg (by simp [space]), sign, if_neg minus, if_neg plus]

theorem strtoll_digit {byte : UInt8} {word : List UInt8} (digit : isDigit 10 byte = true) :
    strtoll (byte :: word) =
      (constant (byte :: word)).map fun parts => saturateSigned false parts.1 parts.2 := by
  rw [strtoll, sign_digit digit]

theorem strtoull_digit {byte : UInt8} {word : List UInt8} (digit : isDigit 10 byte = true) :
    strtoull (byte :: word) =
      (constant (byte :: word)).map fun parts => saturateUnsigned false parts.1 parts.2 := by
  rw [strtoull, sign_digit digit]

theorem strtoll_minus (body : List UInt8) :
    strtoll (45 :: body) =
      (constant body).map fun parts => saturateSigned true parts.1 parts.2 := by
  rfl

/-- A string without a zero byte is seen whole. -/
theorem cString_eq_self {text : List UInt8} (nonzero : ∀ byte ∈ text, byte ≠ 0) :
    cString text = text :=
  List.takeWhile_eq_self_iff.mpr fun byte member => by simpa using nonzero byte member

end Ssim.Library.CIntegers
