import Ssim.HostSim.CanonicalText

/-!
# Decimal literals

The numbers of a script go through `strtoll` and `strtoull` with base 0, so a leading
zero makes a literal octal.  A word of decimal digits means its base-ten value only
where that makes no difference.
-/

namespace Ssim.HostSim

open Core Secs2 Library.Numerals Library.CIntegers Library.PrefixParser

/-! ## Script numbers -/

/-- A 32-bit number of a script; `errno` is not looked at. -/
def parseUint (text : Text) : Option UInt32 :=
  if text = [] ∨ text.head? = some 45 then none
  else
    match strtoull (cString text) with
    -- Nothing is converted: the end is the start, and the value is 0.
    | none => if cString text = [] then some 0 else none
    | some converted =>
        if converted.rest ≠ [] ∨ 0xFFFFFFFF < converted.value then none
        else some (UInt32.ofNat converted.value)

/-- `S6F11` is stream 6 and function 11. -/
def parseSf (word : Text) : Option (UInt32 × UInt32) :=
  if word.length < 4 ∨ (word.head? ≠ some 83 ∧ word.head? ≠ some 115) then none
  else
    match word.findIdx? fun byte => byte = 70 ∨ byte = 102 with
    | none => none
    | some f =>
        if f < 2 then none
        else
          match parseUint ((word.drop 1).take (f - 1)), parseUint (word.drop (f + 1)) with
          | some stream, some function =>
              if 127 < stream ∨ 255 < function then none else some (stream, function)
          | _, _ => none

/-! ## Array types -/

/-- The types whose elements are written as integers. -/
inductive IntegerType where
  | binary
  | i1
  | i2
  | i4
  | i8
  | u1
  | u2
  | u4
  | u8
  deriving Repr, DecidableEq

namespace IntegerType

def format : IntegerType → Format
  | binary => .binary
  | i1 => .i1
  | i2 => .i2
  | i4 => .i4
  | i8 => .i8
  | u1 => .u1
  | u2 => .u2
  | u4 => .u4
  | u8 => .u8

/-- The greatest value of the type. -/
def greatest : IntegerType → Nat
  | binary | u1 => 2 ^ 8 - 1
  | u2 => 2 ^ 16 - 1
  | u4 => 2 ^ 32 - 1
  | u8 => 2 ^ 64 - 1
  | i1 => 2 ^ 7 - 1
  | i2 => 2 ^ 15 - 1
  | i4 => 2 ^ 31 - 1
  | i8 => 2 ^ 63 - 1

/-- The array with one element. -/
def element (type : IntegerType) (number : Nat) : TypedArray :=
  match type with
  | binary => .binary [UInt8.ofNat number]
  | i1 => .i1 [Int8.ofInt number]
  | i2 => .i2 [Int16.ofInt number]
  | i4 => .i4 [Int32.ofInt number]
  | i8 => .i8 [Int64.ofInt number]
  | u1 => .u1 [UInt8.ofNat number]
  | u2 => .u2 [UInt16.ofNat number]
  | u4 => .u4 [UInt32.ofNat number]
  | u8 => .u8 [UInt64.ofNat number]

/-- The word inside `T[...]`. -/
def text (type : IntegerType) (word : Text) : Text := type.format.name ++ 91 :: (word ++ [93])

end IntegerType

/-- The word denotes its base-ten value if the type has it, and is rejected otherwise. -/
def LiteralMeans (floats : FloatLibrary) (type : IntegerType) (word : Text) : Prop :=
  if value 10 word ≤ type.greatest then
    parseItem floats (type.text word) = .ok (.array (type.element (value 10 word)))
  else ∃ reason, parseItem floats (type.text word) = .error reason

def UintMeans (word : Text) : Prop :=
  parseUint word =
    if value 10 word ≤ 2 ^ 32 - 1 then some (UInt32.ofNat (value 10 word)) else none

/-- If the word has a leading zero, it is below eight or, in base eight, out of range; or it
is no octal number, and out of range in base ten. -/
def OctalHarmless (greatest : Nat) (word : Text) : Prop :=
  word.head? = some 48 →
    if word.all (isDigit 8) then value 10 word < 8 ∨ greatest < value 8 word
    else greatest < value 10 word

/-! ## What the conversions make of digits -/

/-- The number that base detection reads from a whole word of digits. -/
def literalValue (word : Text) : Option Nat :=
  if word.head? = some 48 then if word.all (isDigit 8) then some (value 8 word) else none
  else some (value 10 word)

/-- The number where it is in range. -/
def within (greatest number : Nat) : Option Nat := if number ≤ greatest then some number else none

theorem le_of_within {greatest number : Nat} {read : Option Nat}
    (kept : read.bind (within greatest) = some number) : number ≤ greatest := by
  obtain ⟨other, -, inRange⟩ := Option.bind_eq_some_iff.mp kept
  unfold within at inRange
  split at inRange
  next below =>
    rw [← Option.some.inj inRange]
    exact below
  next => exact absurd inRange (by simp)

theorem constant_digits {word : Text} (nonempty : word ≠ [])
    (digits : ∀ byte ∈ word, isDigit 10 byte = true) :
    ∃ number rest, constant word = some (number, rest) ∧
      literalValue word = if rest = [] then some number else none := by
  cases word with
  | nil => exact absurd rfl nonempty
  | cons byte word =>
      by_cases leading : byte = 48
      · subst leading
        have tail : ∀ other ∈ word, isDigit 10 other = true := fun other member =>
          digits other (List.mem_cons_of_mem _ member)
        refine ⟨_, _, constant_leading_zero tail, ?_⟩
        rw [literalValue, List.head?_cons, if_pos rfl]
        by_cases octal : (48 :: word).all (isDigit 8) = true
        · have all : ∀ other ∈ 48 :: word, isDigit 8 other = true := List.all_eq_true.mp octal
          have whole := digitsOf_all all
          rw [digitsOf, Prod.mk.injEq] at whole
          rw [if_pos octal, if_pos whole.2, whole.1]
        · rw [if_neg octal, if_neg]
          intro none
          exact octal (List.all_eq_true.mpr (List.dropWhile_eq_nil_iff.mp none))
      · refine ⟨_, _, constant_decimal digits leading, ?_⟩
        rw [literalValue, if_neg (by simpa using leading), if_pos rfl]

theorem isWord_digits {word : Text} (nonempty : word ≠ [])
    (digits : ∀ byte ∈ word, isDigit 10 byte = true) : IsWord word :=
  ⟨nonempty, fun byte member => isWordByte_of_isDigit (by decide) (digits byte member)⟩

section Digits

variable {word : Text} (nonempty : word ≠ []) (digits : ∀ byte ∈ word, isDigit 10 byte = true)
include nonempty digits

theorem strtoull_digits :
    strtoull (cString word) =
      (constant word).map fun parts => saturateUnsigned false parts.1 parts.2 := by
  rw [cString_word (isWord_digits nonempty digits)]
  cases word with
  | nil => exact absurd rfl nonempty
  | cons byte word => exact strtoull_digit (digits byte List.mem_cons_self)

theorem strtoll_digits :
    strtoll (cString word) =
      (constant word).map fun parts => saturateSigned false parts.1 parts.2 := by
  rw [cString_word (isWord_digits nonempty digits)]
  cases word with
  | nil => exact absurd rfl nonempty
  | cons byte word => exact strtoll_digit (digits byte List.mem_cons_self)

theorem head_digits : word.head? ≠ some 45 := by
  cases word with
  | nil => simp
  | cons byte word =>
      have digit := digits byte List.mem_cons_self
      rw [List.head?_cons, Ne, Option.some.injEq]
      rintro rfl
      exact absurd digit (by decide)

theorem parseUnsigned_digits {greatest : Nat} (wide : greatest < 2 ^ 64) :
    parseUnsigned greatest word = (literalValue word).bind (within greatest) := by
  obtain ⟨number, rest, read, literal⟩ := constant_digits nonempty digits
  rw [parseUnsigned, if_neg (head_digits nonempty digits), strtoull_digits nonempty digits, read,
    literal]
  simp only [Option.map_some]
  by_cases whole : rest = []
  · rw [if_pos whole, whole, Option.bind_some, within]
    by_cases fits : number < 2 ^ 64
    · by_cases below : number ≤ greatest
      · simp [saturateUnsigned_plus fits, below, Nat.not_lt.mpr below]
      · simp [saturateUnsigned_plus fits, below, Nat.lt_of_not_le below]
    · have above : ¬number ≤ greatest := by omega
      simp [saturateUnsigned_large fits, above]
  · rw [if_neg whole]
    by_cases fits : number < 2 ^ 64
    · simp [saturateUnsigned_plus fits, whole]
    · simp [saturateUnsigned_large fits, whole]

theorem parseSigned_digits {least : Int} {greatest : Nat} (low : least ≤ 0)
    (high : greatest < 2 ^ 63) :
    parseSigned least greatest word =
      ((literalValue word).bind (within greatest)).map Int.ofNat := by
  obtain ⟨number, rest, read, literal⟩ := constant_digits nonempty digits
  rw [parseSigned, strtoll_digits nonempty digits, read, literal]
  simp only [Option.map_some]
  by_cases whole : rest = []
  · rw [if_pos whole, whole, Option.bind_some, within]
    by_cases fits : number < 2 ^ 63
    · have above : ¬(number : Int) < least := by omega
      by_cases below : number ≤ greatest
      · simp [saturateSigned_plus fits, above, below, Nat.not_lt.mpr below]
      · simp [saturateSigned_plus fits, below, Nat.lt_of_not_le below]
    · have above : ¬number ≤ greatest := by omega
      simp [saturateSigned_large fits, above]
  · rw [if_neg whole]
    by_cases fits : number < 2 ^ 63
    · simp [saturateSigned_plus fits, whole]
    · simp [saturateSigned_large fits, whole]

theorem parseUint_digits :
    parseUint word =
      ((literalValue word).bind (within (2 ^ 32 - 1))).map UInt32.ofNat := by
  obtain ⟨number, rest, read, literal⟩ := constant_digits nonempty digits
  rw [parseUint, if_neg (by simp [nonempty, head_digits nonempty digits]),
    strtoull_digits nonempty digits, read, literal]
  simp only [Option.map_some]
  by_cases whole : rest = []
  · rw [if_pos whole, whole, Option.bind_some, within]
    by_cases fits : number < 2 ^ 64
    · by_cases below : number ≤ 2 ^ 32 - 1
      · have small : ¬0xFFFFFFFF < number := by omega
        simp [saturateUnsigned_plus fits, small]
      · have large : 0xFFFFFFFF < number := by omega
        simp [saturateUnsigned_plus fits, large]
    · have large : 0xFFFFFFFF < number := by omega
      simp [saturateUnsigned_large fits, large]
  · rw [if_neg whole]
    by_cases fits : number < 2 ^ 64
    · simp [saturateUnsigned_plus fits, whole]
    · simp [saturateUnsigned_large fits, whole]

end Digits

/-! ## Arrays of one literal -/

/-- An array is read, or refused, as its words are. -/
theorem parseItem_array (floats : FloatLibrary) {format : Format} {words : List Text} {body : Text}
    (numbers : format ≠ .ascii ∧ format ≠ .list ∧ format ≠ .jis8) (spaced : Spaced words body)
    (isWord : ∀ word ∈ words, IsWord word) :
    (∀ data, readArray floats format words = .ok data →
      parseItem floats (format.name ++ 91 :: (body ++ [93])) = .ok (.array data)) ∧
      ∀ badWord, readArray floats format words = .error badWord →
        ∃ reason, parseItem floats (format.name ++ 91 :: (body ++ [93])) = .error reason := by
  obtain ⟨byte, after, start, plain⟩ := spaced.skipSpace (startsWord isWord) []
  have read := readWords_spaced spaced isWord []
  have head : ∀ size, parseHead floats false size (format.name ++ 91 :: (body ++ [93])) =
      (parseArray floats size format (skipSpace (body ++ [93]))).map fun array =>
        (some (.exact array.1), array.2) := by
    intro size
    refine (parseHead_bracket floats size numbers.2.2 _).trans ?_
    refine (parseBracket_plain size _ start plain).trans ?_
    refine (if_neg numbers.2.1).trans ?_
    cases parseArray floats size format (skipSpace (body ++ [93])) with
    | error reason => rfl
    | ok array => rfl
  constructor
  · intro data values
    simp only [parseItem, parseAll, parseNode, head, parseArray, readWords_skipSpace, read, values,
      numbers, false_and, or_self, if_false]
    rfl
  · intro badWord values
    simp only [parseItem, parseAll, parseNode, head, parseArray, readWords_skipSpace, read, values,
      numbers, false_and, or_self, if_false]
    exact ⟨_, rfl⟩

/-- Reading one element is reading its word. -/
theorem collect_one {α : Type} (parse : Text → Option α) (word : Text) :
    collect parse [word] =
      match parse word with
      | none => .error word
      | some value => .ok [value] := by
  rw [collect]
  cases parse word with
  | none => rfl
  | some value => rfl

section OneLiteral

variable {word : Text} (nonempty : word ≠ []) (digits : ∀ byte ∈ word, isDigit 10 byte = true)
include nonempty digits

theorem collect_unsigned_literal {greatest : Nat} (wide : greatest < 2 ^ 64)
    (make : List Nat → TypedArray) :
    (collect (parseUnsigned greatest) [word]).map make =
      match (literalValue word).bind (within greatest) with
      | none => .error word
      | some number => .ok (make [number]) := by
  rw [collect_one, parseUnsigned_digits nonempty digits wide]
  cases (literalValue word).bind (within greatest) with
  | none => rfl
  | some number => rfl

theorem collect_signed_literal {least top : Int} {greatest : Nat} (low : least ≤ 0)
    (high : greatest < 2 ^ 63) (same : top = greatest) (make : List Int → TypedArray) :
    (collect (parseSigned least top) [word]).map make =
      match (literalValue word).bind (within greatest) with
      | none => .error word
      | some number => .ok (make [Int.ofNat number]) := by
  rw [collect_one, same, parseSigned_digits nonempty digits low high]
  cases (literalValue word).bind (within greatest) with
  | none => rfl
  | some number => rfl

/-- An array of one literal holds what base detection reads, where that is in range. -/
theorem readArray_literal (floats : FloatLibrary) (type : IntegerType) :
    readArray floats type.format [word] =
      match (literalValue word).bind (within type.greatest) with
      | none => .error word
      | some number => .ok (type.element number) := by
  cases type with
  | binary | u1 | u2 | u4 | u8 =>
      exact collect_unsigned_literal nonempty digits (by decide) _
  | i1 | i2 | i4 | i8 =>
      exact collect_signed_literal nonempty digits (by decide) (by decide)
        (by norm_num [IntegerType.greatest]) _

end OneLiteral

/-- In range, the element tells its value. -/
theorem element_injective {type : IntegerType} {first second : Nat}
    (below : first ≤ type.greatest) (belowSecond : second ≤ type.greatest)
    (same : type.element first = type.element second) : first = second := by
  have unsigned : ∀ {α : Type} (toNat : α → Nat) (ofNat : Nat → α),
      (∀ number ≤ type.greatest, toNat (ofNat number) = number) → ofNat first = ofNat second →
        first = second := by
    intro α toNat ofNat inverse equal
    rw [← inverse first below, equal, inverse second belowSecond]
  cases type with
  | binary | u1 =>
      simp only [IntegerType.element, TypedArray.binary.injEq, TypedArray.u1.injEq,
        List.cons.injEq, and_true] at same
      exact unsigned UInt8.toNat UInt8.ofNat
        (fun number fits => UInt8.toNat_ofNat_of_lt' (Nat.lt_succ_of_le fits)) same
  | u2 =>
      simp only [IntegerType.element, TypedArray.u2.injEq, List.cons.injEq, and_true] at same
      exact unsigned UInt16.toNat UInt16.ofNat
        (fun number fits => UInt16.toNat_ofNat_of_lt' (Nat.lt_succ_of_le fits)) same
  | u4 =>
      simp only [IntegerType.element, TypedArray.u4.injEq, List.cons.injEq, and_true] at same
      exact unsigned UInt32.toNat UInt32.ofNat
        (fun number fits => UInt32.toNat_ofNat_of_lt' (Nat.lt_succ_of_le fits)) same
  | u8 =>
      simp only [IntegerType.element, TypedArray.u8.injEq, List.cons.injEq, and_true] at same
      exact unsigned UInt64.toNat UInt64.ofNat
        (fun number fits => UInt64.toNat_ofNat_of_lt' (Nat.lt_succ_of_le fits)) same
  | i1 =>
      simp only [IntegerType.element, TypedArray.i1.injEq, List.cons.injEq, and_true] at same
      refine unsigned (fun value => value.toInt.toNat) (fun number => Int8.ofInt number) ?_ same
      intro number fits
      simp only [IntegerType.greatest] at fits
      rw [Int8.toInt_ofInt_of_le (by omega) (by omega), Int.toNat_natCast]
  | i2 =>
      simp only [IntegerType.element, TypedArray.i2.injEq, List.cons.injEq, and_true] at same
      refine unsigned (fun value => value.toInt.toNat) (fun number => Int16.ofInt number) ?_ same
      intro number fits
      simp only [IntegerType.greatest] at fits
      rw [Int16.toInt_ofInt_of_le (by omega) (by omega), Int.toNat_natCast]
  | i4 =>
      simp only [IntegerType.element, TypedArray.i4.injEq, List.cons.injEq, and_true] at same
      refine unsigned (fun value => value.toInt.toNat) (fun number => Int32.ofInt number) ?_ same
      intro number fits
      simp only [IntegerType.greatest] at fits
      rw [Int32.toInt_ofInt_of_le (by omega) (by omega), Int.toNat_natCast]
  | i8 =>
      simp only [IntegerType.element, TypedArray.i8.injEq, List.cons.injEq, and_true] at same
      refine unsigned (fun value => value.toInt.toNat) (fun number => Int64.ofInt number) ?_ same
      intro number fits
      simp only [IntegerType.greatest] at fits
      rw [Int64.toInt_ofInt_of_le (by omega) (by omega), Int.toNat_natCast]

/-! ## When a literal is decimal -/

/-- The two bases agree below eight only. -/
theorem value_eight_iff {word : Text} (octal : ∀ byte ∈ word, isDigit 8 byte = true) :
    value 8 word = value 10 word ↔ value 10 word < 8 := by
  cases word using List.reverseRecOn with
  | nil => simp
  | append_singleton word byte =>
      obtain ⟨digit, found, below⟩ := isDigit_iff.mp (octal byte (by simp))
      have larger := value_mono (by decide : 8 ≤ 10) word
      rw [value_concat, value_concat, found, Option.getD_some]
      omega

/-- What is read is the base-ten value, or nothing where that is out of range. -/
theorem literalValue_iff (greatest : Nat) (word : Text) :
    (literalValue word).bind (within greatest) = within greatest (value 10 word) ↔
      OctalHarmless greatest word := by
  unfold literalValue OctalHarmless
  by_cases leading : word.head? = some 48
  · rw [if_pos leading]
    simp only [leading, true_implies]
    have larger := value_mono (by decide : 8 ≤ 10) word
    by_cases octal : word.all (isDigit 8) = true
    · rw [if_pos octal, if_pos octal, Option.bind_some, within, within,
        ← value_eight_iff (List.all_eq_true.mp octal)]
      by_cases fits : value 8 word ≤ greatest
      · rw [if_pos fits]
        by_cases fitsTen : value 10 word ≤ greatest
        · rw [if_pos fitsTen, Option.some.injEq]
          omega
        · rw [if_neg fitsTen]
          simp only [reduceCtorEq, false_iff]
          omega
      · rw [if_neg fits, if_neg (by omega)]
        simp only [true_iff]
        omega
    · rw [if_neg octal, if_neg octal, Option.bind_none, within]
      split
      next fits =>
        simp only [reduceCtorEq, false_iff]
        omega
      next large =>
        simp only [true_iff]
        omega
  · rw [if_neg leading]
    simp [leading]

theorem spaced_one (word : Text) : Spaced [word] word := by
  have none : Blank [] := by simp [Blank]
  have one : Spaced [word] ([] ++ (word ++ [])) := .cons none (.nil none) (.inl rfl)
  rw [List.nil_append, List.append_nil] at one
  exact one

theorem literalMeans_iff (floats : FloatLibrary) (type : IntegerType) {word : Text}
    (nonempty : word ≠ []) (digits : ∀ byte ∈ word, isDigit 10 byte = true) :
    LiteralMeans floats type word ↔
      (literalValue word).bind (within type.greatest) = within type.greatest (value 10 word) := by
  have numbers : type.format ≠ .ascii ∧ type.format ≠ .list ∧ type.format ≠ .jis8 := by
    cases type <;> decide
  have isWord : ∀ other ∈ [word], IsWord other := by
    intro other member
    rw [List.mem_singleton.mp member]
    exact isWord_digits nonempty digits
  obtain ⟨accepted, refused⟩ := parseItem_array floats numbers (spaced_one word) isWord
  have array := readArray_literal nonempty digits floats type
  unfold LiteralMeans IntegerType.text
  cases read : (literalValue word).bind (within type.greatest) with
  | none =>
      rw [read] at array
      obtain ⟨reason, failed⟩ := refused word array
      rw [failed, within]
      split
      next => simp
      next => simp
  | some number =>
      rw [read] at array
      have done := accepted _ array
      have fits := le_of_within read
      rw [done, within]
      split
      next below =>
        simp only [Except.ok.injEq, Item.array.injEq, Option.some.injEq]
        constructor
        · exact element_injective fits below
        · intro same
          rw [same]
      next => simp

theorem uintMeans_iff {word : Text} (nonempty : word ≠ [])
    (digits : ∀ byte ∈ word, isDigit 10 byte = true) :
    UintMeans word ↔
      (literalValue word).bind (within (2 ^ 32 - 1)) = within (2 ^ 32 - 1) (value 10 word) := by
  have inRange : ∀ {number : Nat}, number ≤ 2 ^ 32 - 1 →
      (UInt32.ofNat number).toNat = number := fun fits =>
    UInt32.toNat_ofNat_of_lt' (Nat.lt_succ_of_le fits)
  rw [UintMeans, parseUint_digits nonempty digits]
  cases read : (literalValue word).bind (within (2 ^ 32 - 1)) with
  | none =>
      rw [within]
      split
      next => simp
      next => simp
  | some number =>
      have fits := le_of_within read
      rw [within]
      split
      next below =>
        simp only [Option.map_some, Option.some.injEq]
        constructor
        · intro same
          rw [← inRange fits, same, inRange below]
        · intro same
          rw [same]
      next => simp

/-- The two numbers of `SxFy` are script numbers. -/
theorem parseSf_digits {stream function : Text} (streamWord : stream ≠ [])
    (functionWord : function ≠ []) (digits : ∀ byte ∈ stream, isDigit 10 byte = true) :
    parseSf (83 :: (stream ++ 70 :: function)) =
      match parseUint stream, parseUint function with
      | some stream, some function =>
          if 127 < stream ∨ 255 < function then none else some (stream, function)
      | _, _ => none := by
  have plain : ∀ byte ∈ stream, ¬(byte = 70 ∨ byte = 102) := by
    intro byte member
    have digit := digits byte member
    rintro (rfl | rfl)
    · exact absurd digit (by decide)
    · exact absurd digit (by decide)
  have long : ¬((83 :: (stream ++ 70 :: function)).length < 4 ∨
      (83 :: (stream ++ 70 :: function)).head? ≠ some 83 ∧
        (83 :: (stream ++ 70 :: function)).head? ≠ some 115) := by
    have first := List.length_pos_iff.mpr streamWord
    have second := List.length_pos_iff.mpr functionWord
    simp only [List.length_cons, List.length_append, List.head?_cons]
    simp
    omega
  have found : (83 :: (stream ++ 70 :: function)).findIdx?
      (fun byte => decide (byte = 70 ∨ byte = 102)) = some (stream.length + 1) := by
    have none : stream.findIdx? (fun byte => decide (byte = 70 ∨ byte = 102)) = none := by
      rw [List.findIdx?_eq_none_iff]
      intro byte member
      exact decide_eq_false (plain byte member)
    rw [List.findIdx?_cons, List.findIdx?_append, none]
    simp [List.findIdx?_cons]
  have positive := List.length_pos_iff.mpr streamWord
  rw [parseSf, if_neg long, found]
  simp only
  rw [if_neg (by omega)]
  simp

/-- A word of digits means its base-ten value, in an array of any integer type and as a
script number, exactly if it is not read as a different octal number. -/
theorem decimal_literal_iff (floats : FloatLibrary) {word : Text} (nonempty : word ≠ [])
    (digits : ∀ byte ∈ word, isDigit 10 byte = true) :
    (∀ type, LiteralMeans floats type word ↔ OctalHarmless type.greatest word) ∧
      (UintMeans word ↔ OctalHarmless (2 ^ 32 - 1) word) := by
  constructor
  · intro type
    rw [literalMeans_iff floats type nonempty digits, literalValue_iff]
  · rw [uintMeans_iff nonempty digits, literalValue_iff]

theorem decimal_literal_ten :
    (∀ type, LiteralMeans ⟨fun _ => none, fun _ => 0⟩ type (Text.ofString "10") ↔
      OctalHarmless type.greatest (Text.ofString "10")) ∧
      (UintMeans (Text.ofString "10") ↔ OctalHarmless (2 ^ 32 - 1) (Text.ofString "10")) :=
  decimal_literal_iff ⟨fun _ => none, fun _ => 0⟩ (by decide) (List.all_eq_true.mp (by decide))

/-- `010` is eight in an array and as a script number, and `08` is refused. -/
theorem leading_zero_is_octal :
    parseItem ⟨fun _ => none, fun _ => 0⟩ (IntegerType.text .u1 (Text.ofString "010")) =
        .ok (.array (.u1 [8])) ∧
      parseUint (Text.ofString "010") = some 8 ∧
      ¬LiteralMeans ⟨fun _ => none, fun _ => 0⟩ .u1 (Text.ofString "010") ∧
      ¬LiteralMeans ⟨fun _ => none, fun _ => 0⟩ .u1 (Text.ofString "08") ∧
      ¬UintMeans (Text.ofString "010") := by
  refine ⟨by rfl, by decide, ?_, ?_, ?_⟩
  · rw [literalMeans_iff _ _ (by decide) (List.all_eq_true.mp (by decide)), literalValue_iff]
    simp only [OctalHarmless]
    decide
  · rw [literalMeans_iff _ _ (by decide) (List.all_eq_true.mp (by decide)), literalValue_iff]
    simp only [OctalHarmless]
    decide
  · rw [uintMeans_iff (by decide) (List.all_eq_true.mp (by decide)), literalValue_iff]
    simp only [OctalHarmless]
    decide

end Ssim.HostSim
