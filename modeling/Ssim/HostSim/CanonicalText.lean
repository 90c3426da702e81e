import Mathlib.Data.List.DropRight
import Ssim.HostSim.PatternText
import Ssim.Secs2.TextDump

/-!
# Canonical texts

The texts that stand for an item: a name and, between brackets, entries or numbers
with white space between them, or a quoted string.  Integers are written in base ten
without leading zeros or in base sixteen after `0x`.  Reading any of them gives the item back.
-/

namespace Ssim.HostSim

open Core Secs2 Library.Numerals Library.CIntegers Library.PrefixParser

/-! ## What stands between brackets -/

def Blank (text : Text) : Prop := ∀ byte ∈ text, isSpace byte = true

/-- Words with white space between any two of them, and around them if one likes. -/
inductive Spaced : List Text → Text → Prop where
  | nil {blanks : Text} (blank : Blank blanks) : Spaced [] blanks
  | cons {blanks word tail : Text} {words : List Text} (blank : Blank blanks)
      (rest : Spaced words tail)
      (apart : words = [] ∨ ∃ space after, tail = space :: after ∧ isSpace space = true) :
      Spaced (word :: words) (blanks ++ (word ++ tail))

/-- A word with one blank in front of each. -/
theorem spaced_flatMap (words : List Text) :
    Spaced words (words.flatMap fun word => 32 :: word) := by
  induction words with
  | nil => exact .nil (by simp [Blank])
  | cons word words ih =>
      have blank : Blank [32] := by
        intro byte member
        rw [List.mem_singleton.mp member]
        decide
      refine Spaced.cons blank ih ?_
      cases words with
      | nil => exact .inl rfl
      | cons next words => exact .inr ⟨32, _, rfl, by decide⟩

/-- Letters, digits and a minus sign. -/
def isWordByte (byte : UInt8) : Bool := isAlnum byte || byte = 45

def IsWord (word : Text) : Prop := word ≠ [] ∧ ∀ byte ∈ word, isWordByte byte = true

theorem isWordByte_cases {byte : UInt8} (inside : isWordByte byte = true) :
    byte.toNat = 45 ∨ 48 ≤ byte.toNat ∧ byte.toNat ≤ 57 ∨ 65 ≤ byte.toNat ∧ byte.toNat ≤ 90 ∨
      97 ≤ byte.toNat ∧ byte.toNat ≤ 122 := by
  rw [isWordByte, Bool.or_eq_true, isAlnum, isDigit_iff] at inside
  rcases inside with ⟨value, found, -⟩ | minus
  · unfold digitValue at found
    simp only [UInt8.le_iff_toNat_le, UInt8.reduceToNat] at found
    split at found
    next range => exact .inr (.inl range)
    next =>
      split at found
      next range => exact .inr (.inr (.inl range))
      next =>
        split at found
        next range => exact .inr (.inr (.inr range))
        next => exact absurd found (by simp)
  · rw [of_decide_eq_true minus]
    exact .inl rfl

/-- A byte of a word ends no word and is no wildcard. -/
theorem isWordByte_plain {byte : UInt8} (inside : isWordByte byte = true) :
    byte ≠ 0 ∧ byte ≠ 42 ∧ byte ≠ 93 ∧ isSpace byte = false ∧ isSeparator byte = false := by
  have range := isWordByte_cases inside
  have other : ∀ value : UInt8, value.toNat < 45 ∨ value.toNat = 93 → byte ≠ value := by
    rintro value outside rfl
    omega
  have space : isSpace byte = false := by
    simp only [isSpace, Bool.or_eq_false_iff, Bool.and_eq_false_iff, decide_eq_false_iff_not,
      UInt8.le_iff_toNat_le, UInt8.reduceToNat]
    exact ⟨other 32 (by decide), by omega⟩
  refine ⟨other 0 (by decide), other 42 (by decide), other 93 (by decide), space, ?_⟩
  rw [isSeparator, space, Bool.false_or, decide_eq_false_iff_not]
  exact other 44 (by decide)

/-! ## Reading words -/

theorem readWords_blank {blanks : Text} (blank : Blank blanks) (rest : Text) :
    readWords [] (blanks ++ rest) = readWords [] rest := by
  induction blanks with
  | nil => rfl
  | cons byte blanks ih =>
      have space := blank byte List.mem_cons_self
      have bracket : byte ≠ 93 := by
        rintro rfl
        exact absurd space (by decide)
      rw [List.cons_append, readWords, if_neg bracket, if_pos (by simp [isSeparator, space]),
        ih fun other member => blank other (List.mem_cons_of_mem _ member)]
      simp [pushWord]

theorem readWords_word {word : Text} (inside : ∀ byte ∈ word, isWordByte byte = true)
    (current rest : Text) :
    readWords current (word ++ rest) = readWords (current ++ word) rest := by
  induction word generalizing current with
  | nil => simp
  | cons byte word ih =>
      obtain ⟨-, -, bracket, -, separator⟩ := isWordByte_plain (inside byte List.mem_cons_self)
      rw [List.cons_append, readWords, if_neg bracket, if_neg (by simp [separator]),
        ih (fun other member => inside other (List.mem_cons_of_mem _ member)), List.append_assoc]
      rfl

/-- White space or the bracket ends a word. -/
theorem readWords_end {byte : UInt8} (ends : isSpace byte = true ∨ byte = 93) (word rest : Text) :
    readWords word (byte :: rest) =
      (readWords [] (byte :: rest)).map fun parts => (pushWord word parts.1, parts.2) := by
  rw [readWords, readWords]
  by_cases bracket : byte = 93
  · rw [if_pos bracket, if_pos bracket]
    rfl
  · have space := ends.resolve_right bracket
    rw [if_neg bracket, if_neg bracket, if_pos (by simp [isSeparator, space]),
      if_pos (by simp [isSeparator, space]), Option.map_map]
    rfl

/-- After a word comes white space or the bracket. -/
theorem Spaced.ends {words : List Text} {tail : Text} (spaced : Spaced words tail)
    (apart : words = [] ∨ ∃ space after, tail = space :: after ∧ isSpace space = true)
    (rest : Text) :
    ∃ byte after, tail ++ 93 :: rest = byte :: after ∧ (isSpace byte = true ∨ byte = 93) := by
  rcases apart with rfl | ⟨space, after, rfl, isBlank⟩
  · cases spaced with
    | nil blank =>
        cases tail with
        | nil => exact ⟨93, rest, rfl, .inr rfl⟩
        | cons byte tail => exact ⟨byte, _, rfl, .inl (blank byte List.mem_cons_self)⟩
  · exact ⟨space, _, rfl, .inl isBlank⟩

theorem readWords_spaced {words : List Text} {text : Text} (spaced : Spaced words text)
    (isWord : ∀ word ∈ words, IsWord word) (rest : Text) :
    readWords [] (text ++ 93 :: rest) = some (words, rest) := by
  induction spaced with
  | nil blank =>
      rw [readWords_blank blank]
      rfl
  | @cons blanks word tail words blank others apart ih =>
      have first := isWord word List.mem_cons_self
      have later := ih fun other member => isWord other (List.mem_cons_of_mem _ member)
      obtain ⟨byte, after, same, stops⟩ := others.ends apart rest
      rw [List.append_assoc, List.append_assoc, readWords_blank blank,
        readWords_word first.2, List.nil_append, same, readWords_end stops, ← same, later]
      simp [pushWord, first.1]

/-! ## Numbers -/

/-- A number in base ten, or in base sixteen after `0x`. -/
def NaturalWord (number : Nat) (word : Text) : Prop :=
  word = numeral 10 number ∨
    ∃ digits, word = 48 :: 120 :: digits ∧ digits ≠ [] ∧
      (∀ byte ∈ digits, isDigit 16 byte = true) ∧ value 16 digits = number

/-- The same with a minus sign in front of a negative number. -/
def IntegerWord (number : Int) (word : Text) : Prop :=
  ∃ digits, NaturalWord number.natAbs digits ∧
    word = if number < 0 then 45 :: digits else digits

def BooleanWord (byte : UInt8) (word : Text) : Prop :=
  byte = 1 ∧ (word = Text.ofString "1" ∨ word = Text.ofString "true") ∨
    byte = 0 ∧ (word = Text.ofString "0" ∨ word = Text.ofString "false")

theorem NaturalWord.constant {number : Nat} {word : Text} (natural : NaturalWord number word) :
    constant word = some (number, []) := by
  rcases natural with rfl | ⟨digits, rfl, nonempty, hex, same⟩
  · exact constant_numeral number
  · rw [constant_hex nonempty hex, same]

theorem NaturalWord.head {number : Nat} {word : Text} (natural : NaturalWord number word) :
    ∃ byte rest, word = byte :: rest ∧ isDigit 10 byte = true := by
  rcases natural with rfl | ⟨digits, rfl, -⟩
  · have decimal := numeral_isDigit (by decide : 2 ≤ 10) (by decide) number
    cases word : numeral 10 number with
    | nil => exact absurd word (numeral_ne_nil 10 number)
    | cons byte rest =>
        rw [word] at decimal
        exact ⟨byte, rest, rfl, decimal byte List.mem_cons_self⟩
  · exact ⟨48, _, rfl, by decide⟩

theorem isWordByte_of_isDigit {base : Nat} {byte : UInt8} (small : base ≤ 36)
    (digit : isDigit base byte = true) : isWordByte byte = true := by
  rw [isWordByte, isAlnum, isDigit_mono small digit, Bool.true_or]

theorem NaturalWord.isWord {number : Nat} {word : Text} (natural : NaturalWord number word) :
    IsWord word := by
  constructor
  · obtain ⟨byte, rest, rfl, -⟩ := natural.head
    simp
  · rcases natural with rfl | ⟨digits, rfl, -, hex, -⟩
    · intro byte member
      exact isWordByte_of_isDigit (by decide)
        (numeral_isDigit (by decide : 2 ≤ 10) (by decide) number byte member)
    · intro byte member
      simp only [List.mem_cons] at member
      rcases member with rfl | rfl | inside
      · decide
      · decide
      · exact isWordByte_of_isDigit (by decide) (hex byte inside)

theorem IntegerWord.isWord {number : Int} {word : Text} (integer : IntegerWord number word) :
    IsWord word := by
  obtain ⟨digits, natural, rfl⟩ := integer
  split
  next =>
    refine ⟨by simp, fun byte member => ?_⟩
    rcases List.mem_cons.mp member with rfl | inside
    · decide
    · exact natural.isWord.2 byte inside
  next => exact natural.isWord

theorem BooleanWord.isWord {byte : UInt8} {word : Text} (boolean : BooleanWord byte word) :
    IsWord word := by
  rcases boolean with ⟨-, rfl | rfl⟩ | ⟨-, rfl | rfl⟩
  all_goals exact ⟨by decide, List.all_eq_true.mp (by decide)⟩

theorem cString_word {word : Text} (isWord : IsWord word) : cString word = word :=
  cString_eq_self fun byte member => (isWordByte_plain (isWord.2 byte member)).1

theorem parseUnsigned_naturalWord {number greatest : Nat} {word : Text}
    (natural : NaturalWord number word) (fits : number ≤ greatest) (wide : greatest < 2 ^ 64) :
    parseUnsigned greatest word = some number := by
  have seen := cString_word natural.isWord
  have read := natural.constant
  obtain ⟨byte, rest, rfl, digit⟩ := natural.head
  have minus : (byte :: rest).head? ≠ some 45 := by
    rw [List.head?_cons, Ne, Option.some.injEq]
    rintro rfl
    exact absurd digit (by decide)
  have converted : strtoull (byte :: rest) = some ⟨number, [], false⟩ := by
    rw [strtoull_digit digit, read, Option.map_some,
      saturateUnsigned_plus (Nat.lt_of_le_of_lt fits wide)]
  rw [parseUnsigned, if_neg minus, seen, converted]
  simp [Nat.not_lt.mpr fits]

theorem parseSigned_integerWord {number least greatest : Int} {word : Text}
    (integer : IntegerWord number word) (above : least ≤ number) (below : number ≤ greatest)
    (low : -2 ^ 63 ≤ least) (high : greatest < 2 ^ 63) :
    parseSigned least greatest word = some number := by
  have seen := cString_word integer.isWord
  obtain ⟨digits, natural, same⟩ := integer
  have read := natural.constant
  have converted : strtoll word = some ⟨number, [], false⟩ := by
    by_cases negative : number < 0
    · have magnitude : -(number.natAbs : Int) = number := by omega
      have fits : number.natAbs ≤ 2 ^ 63 := by omega
      rw [same, if_pos negative, strtoll_minus, read, Option.map_some,
        saturateSigned_minus fits, magnitude]
    · have magnitude : (number.natAbs : Int) = number := by omega
      have fits : number.natAbs < 2 ^ 63 := by omega
      obtain ⟨byte, rest, found, digit⟩ := natural.head
      rw [found] at read same
      rw [same, if_neg negative, strtoll_digit digit, read, Option.map_some,
        saturateSigned_plus fits, magnitude]
  have range : ¬(number < least ∨ greatest < number) := by omega
  rw [parseSigned, seen, converted]
  simp [range]

theorem parseBoolean_booleanWord {byte : UInt8} {word : Text} (boolean : BooleanWord byte word) :
    parseBoolean word = some byte := by
  rcases boolean with ⟨rfl, rfl | rfl⟩ | ⟨rfl, rfl | rfl⟩
  · decide
  · decide
  · decide
  · decide

theorem collect_forall₂ {α : Type} {parse : Text → Option α} {values : List α} {words : List Text}
    (each : List.Forall₂ (fun value word => parse word = some value) values words) :
    collect parse words = .ok values := by
  induction each with
  | nil => rfl
  | cons head _ ih => rw [collect, head, ih]

/-! ## Arrays -/

/-- The words stand for the elements, one for one. -/
def ElementWords : TypedArray → List Text → Prop
  | .binary values, words | .u1 values, words =>
      List.Forall₂ (fun value word => NaturalWord value.toNat word) values words
  | .boolean values, words => List.Forall₂ BooleanWord values words
  | .i1 values, words => List.Forall₂ (fun value word => IntegerWord value.toInt word) values words
  | .i2 values, words => List.Forall₂ (fun value word => IntegerWord value.toInt word) values words
  | .i4 values, words => List.Forall₂ (fun value word => IntegerWord value.toInt word) values words
  | .i8 values, words => List.Forall₂ (fun value word => IntegerWord value.toInt word) values words
  | .u2 values, words => List.Forall₂ (fun value word => NaturalWord value.toNat word) values words
  | .u4 values, words => List.Forall₂ (fun value word => NaturalWord value.toNat word) values words
  | .u8 values, words => List.Forall₂ (fun value word => NaturalWord value.toNat word) values words
  | .ascii _, _ | .f4 _, _ | .f8 _, _ => False

theorem isWord_of_forall₂ {α : Type} {relation : α → Text → Prop} {values : List α}
    {words : List Text} (each : List.Forall₂ relation values words)
    (isWord : ∀ value word, relation value word → IsWord word) :
    ∀ word ∈ words, IsWord word := by
  induction each with
  | nil => simp
  | cons head _ ih =>
      intro word member
      rcases List.mem_cons.mp member with rfl | inside
      · exact isWord _ _ head
      · exact ih word inside

theorem ElementWords.isWord {data : TypedArray} {words : List Text}
    (elements : ElementWords data words) : ∀ word ∈ words, IsWord word := by
  cases data with
  | ascii text | f4 values | f8 values => exact elements.elim
  | boolean values => exact isWord_of_forall₂ elements fun _ _ => BooleanWord.isWord
  | i1 values | i2 values | i4 values | i8 values =>
      exact isWord_of_forall₂ elements fun _ _ => IntegerWord.isWord
  | binary values | u1 values | u2 values | u4 values | u8 values =>
      exact isWord_of_forall₂ elements fun _ _ => NaturalWord.isWord

theorem collect_unsigned {α : Type} {toNat : α → Nat} {greatest : Nat} {values : List α}
    {words : List Text} (fits : ∀ value, toNat value ≤ greatest) (wide : greatest < 2 ^ 64)
    (each : List.Forall₂ (fun value word => NaturalWord (toNat value) word) values words) :
    collect (parseUnsigned greatest) words = .ok (values.map toNat) := by
  refine collect_forall₂ (List.forall₂_map_left_iff.mpr (each.imp fun value word natural => ?_))
  exact parseUnsigned_naturalWord natural (fits value) wide

theorem collect_signed {α : Type} {toInt : α → Int} {least greatest : Int} {values : List α}
    {words : List Text} (fits : ∀ value, least ≤ toInt value ∧ toInt value ≤ greatest)
    (low : -2 ^ 63 ≤ least) (high : greatest < 2 ^ 63)
    (each : List.Forall₂ (fun value word => IntegerWord (toInt value) word) values words) :
    collect (parseSigned least greatest) words = .ok (values.map toInt) := by
  refine collect_forall₂ (List.forall₂_map_left_iff.mpr (each.imp fun value word integer => ?_))
  exact parseSigned_integerWord integer (fits value).1 (fits value).2 low high

/-- The narrowing conversion of a value that fits gives the element back. -/
theorem narrowed_ok {α β : Type} {number : α → β} {narrow : β → α} {values : List α}
    {outcome : Except Text (List β)} {make : List α → TypedArray}
    (read : outcome = .ok (values.map number)) (inverse : ∀ value, narrow (number value) = value) :
    (outcome.map fun numbers => make (numbers.map narrow)) = .ok (make values) := by
  have same : (values.map number).map narrow = values := by
    rw [List.map_map]
    exact (List.map_congr_left fun value _ => inverse value).trans (List.map_id _)
  rw [read, Except.map, same]

theorem readArray_elementWords (floats : FloatLibrary) {data : TypedArray} {words : List Text}
    (elements : ElementWords data words) : readArray floats data.format words = .ok data := by
  cases data with
  | ascii text | f4 values | f8 values => exact elements.elim
  | boolean values =>
      have read := collect_forall₂ (elements.imp fun _ _ => parseBoolean_booleanWord)
      simp only [TypedArray.format, readArray, read, Except.map]
  | binary values | u1 values =>
      exact narrowed_ok (collect_unsigned (fun value => Nat.le_of_lt_succ value.toNat_lt)
        (by decide) elements) fun value => UInt8.ofNat_toNat
  | u2 values =>
      exact narrowed_ok (collect_unsigned (fun value => Nat.le_of_lt_succ value.toNat_lt)
        (by decide) elements) fun value => UInt16.ofNat_toNat
  | u4 values =>
      exact narrowed_ok (collect_unsigned (fun value => Nat.le_of_lt_succ value.toNat_lt)
        (by decide) elements) fun value => UInt32.ofNat_toNat
  | u8 values =>
      exact narrowed_ok (collect_unsigned (fun value => Nat.le_of_lt_succ value.toNat_lt)
        (by decide) elements) fun value => UInt64.ofNat_toNat
  | i1 values =>
      exact narrowed_ok (collect_signed (fun value => ⟨value.le_toInt, value.toInt_le⟩)
        (by decide) (by decide) elements) fun value => Int8.ofInt_toInt value
  | i2 values =>
      exact narrowed_ok (collect_signed (fun value => ⟨value.le_toInt, value.toInt_le⟩)
        (by decide) (by decide) elements) fun value => Int16.ofInt_toInt value
  | i4 values =>
      exact narrowed_ok (collect_signed (fun value => ⟨value.le_toInt, value.toInt_le⟩)
        (by decide) (by decide) elements) fun value => Int32.ofInt_toInt value
  | i8 values =>
      exact narrowed_ok (collect_signed (fun value => ⟨value.le_toInt, value.toInt_le⟩)
        (by decide) (by decide) elements) fun value => Int64.ofInt_toInt value

/-! ## Items -/

/-- A quote or a backslash in a string gets a backslash. -/
def quoteByte (byte : UInt8) : Text := if byte = 34 ∨ byte = 92 then [92, byte] else [byte]

/-- The text of a non-list item. -/
def ArrayText (data : TypedArray) (text : Text) : Prop :=
  match data with
  | .ascii value =>
      text = Format.ascii.name ++ 34 :: (value.flatMap quoteByte ++ [34])
  | data =>
      ∃ words body, ElementWords data words ∧ Spaced words body ∧
        text = data.format.name ++ 91 :: (body ++ [93])

mutual

/-- The text stands for the item. -/
def CanonicalText : Item → Text → Prop
  | .array data, text => ArrayText data text
  | .list items, text =>
      ∃ texts body, CanonicalTexts items texts ∧ Spaced texts body ∧
        text = Format.list.name ++ 91 :: (body ++ [93])

def CanonicalTexts : List Item → List Text → Prop
  | [], [] => True
  | item :: items, text :: texts => CanonicalText item text ∧ CanonicalTexts items texts
  | _, _ => False

end

theorem CanonicalTexts.of_text {items : List Item} {texts : List Text}
    (canonical : CanonicalTexts items texts) :
    ∀ text ∈ texts, ∃ item ∈ items, CanonicalText item text := by
  induction texts generalizing items with
  | nil => simp
  | cons text texts ih =>
      cases items with
      | nil => exact canonical.elim
      | cons item items =>
          intro other member
          rcases List.mem_cons.mp member with rfl | inside
          · exact ⟨item, List.mem_cons_self, canonical.1⟩
          · obtain ⟨found, among, stands⟩ := ih canonical.2 other inside
            exact ⟨found, List.mem_cons_of_mem _ among, stands⟩

theorem CanonicalTexts.of_item {items : List Item} {texts : List Text}
    (canonical : CanonicalTexts items texts) :
    ∀ item ∈ items, ∃ text ∈ texts, CanonicalText item text := by
  induction items generalizing texts with
  | nil => simp
  | cons item items ih =>
      cases texts with
      | nil => exact canonical.elim
      | cons text texts =>
          intro other member
          rcases List.mem_cons.mp member with rfl | inside
          · exact ⟨text, List.mem_cons_self, canonical.1⟩
          · obtain ⟨found, among, stands⟩ := ih canonical.2 other inside
            exact ⟨found, List.mem_cons_of_mem _ among, stands⟩

/-- No text stands for an item with floating-point numbers. -/
theorem floatFree_of_canonicalText {item : Item} :
    ∀ text, CanonicalText item text → FloatFree item := by
  induction item using Item.induct with
  | array data =>
      intro text canonical
      rw [floatFree_array]
      cases data with
      | f4 values | f8 values =>
          obtain ⟨words, body, elements, -⟩ := canonical
          exact elements.elim
      | _ => simp [TypedArray.format]
  | list items ih =>
      rintro text ⟨texts, body, entries, -⟩
      rw [floatFree_list]
      intro item member
      obtain ⟨text, -, canonical⟩ := entries.of_item item member
      exact ih item member text canonical

section Reading

variable (floats : FloatLibrary) (size : Nat)

theorem parseString_quoted (text rest : Text) :
    parseString size false (text.flatMap quoteByte ++ 34 :: rest) = .ok (text, rest) := by
  induction text with
  | nil => rfl
  | cons byte text ih =>
      rw [List.flatMap_cons, List.append_assoc]
      by_cases special : byte = 34 ∨ byte = 92
      · rw [quoteByte, if_pos special]
        rcases special with rfl | rfl
        · simp [parseString, ih]
        · simp [parseString, ih]
      · rw [quoteByte, if_neg special]
        rw [not_or] at special
        simp [parseString, special, ih]

/-- A name in front of a bracket leads to what the bracket holds. -/
theorem parseHead_bracket {format : Format} (supported : format ≠ .jis8) (inner : Text) :
    parseHead floats false size (format.name ++ 91 :: inner) =
      parseBracket false size format inner fun rest =>
        if format = .list then .ok (none, rest)
        else
          match parseArray floats size format rest with
          | .error reason => .error reason
          | .ok (item, rest) => .ok (some (.exact item), rest) := by
  cases format with
  | jis8 => exact absurd rfl supported
  | _ => rfl

theorem parseHead_quoted (text rest : Text) :
    parseHead floats false size
        (Format.ascii.name ++ 34 :: (text.flatMap quoteByte ++ 34 :: rest)) =
      .ok (some (.exact (.ascii text)), rest) := by
  generalize after : text.flatMap quoteByte ++ 34 :: rest = tail
  have read : parseString size false tail = .ok (text, rest) :=
    after ▸ parseString_quoted size text rest
  have start : skipSpace (Format.ascii.name ++ 34 :: tail) = 65 :: 34 :: tail := rfl
  have name : (65 :: 34 :: tail).takeWhile isAlnum = [65] := rfl
  have quoted : (65 :: 34 :: tail).dropWhile isAlnum = 34 :: tail := rfl
  have found : formatFromName [65] = some .ascii := rfl
  simp [parseHead, start, name, quoted, found, read]

theorem skipSpace_blank {blanks : Text} (blank : Blank blanks) (rest : Text) :
    skipSpace (blanks ++ rest) = skipSpace rest := by
  rw [skipSpace, List.dropWhile_append_of_pos blank, skipSpace]

theorem skipSpace_stop {byte : UInt8} {rest : Text} (stop : isSpace byte = false) :
    skipSpace (byte :: rest) = byte :: rest := by
  rw [skipSpace, List.dropWhile_cons_of_neg (by simp [stop])]

/-- The words behind the white space start with the first of them, or with the bracket. -/
theorem Spaced.skipSpace {words : List Text} {body : Text} (spaced : Spaced words body)
    (isWord : ∀ word ∈ words, ∃ byte after, word = byte :: after ∧ isWordByte byte = true)
    (rest : Text) :
    ∃ byte after, HostSim.skipSpace (body ++ 93 :: rest) = byte :: after ∧ byte ≠ 42 := by
  cases spaced with
  | nil blank =>
      rw [skipSpace_blank blank]
      exact ⟨93, rest, rfl, by decide⟩
  | @cons blanks word tail words blank others apart =>
      obtain ⟨byte, after, rfl, inside⟩ := isWord word List.mem_cons_self
      obtain ⟨-, star, -, space, -⟩ := isWordByte_plain inside
      rw [List.append_assoc, skipSpace_blank blank, List.append_assoc, List.cons_append,
        skipSpace_stop space]
      exact ⟨byte, _, rfl, star⟩

theorem parseBracket_plain {format : Format} {rest : Text} {byte : UInt8} {after : Text}
    (content : Text → Except SyntaxError (Option Pattern × Text))
    (start : skipSpace rest = byte :: after) (plain : byte ≠ 42) :
    parseBracket false size format rest content = content (skipSpace rest) := by
  unfold parseBracket
  split
  next other same =>
    rw [start, List.cons.injEq] at same
    exact absurd same.1 plain
  next => rfl

theorem readWords_skipSpace (rest : Text) : readWords [] (skipSpace rest) = readWords [] rest := by
  have split := List.takeWhile_append_dropWhile (p := isSpace) (l := rest)
  have blank : Blank (rest.takeWhile isSpace) := fun byte member => List.mem_takeWhile_imp member
  have read := readWords_blank blank (rest.dropWhile isSpace)
  rw [split] at read
  exact read.symm

theorem parseArray_spaced {data : TypedArray} {words : List Text} {body : Text}
    (elements : ElementWords data words) (spaced : Spaced words body) (rest : Text) :
    parseArray floats size data.format (skipSpace (body ++ 93 :: rest)) =
      .ok (.array data, rest) := by
  have read := readWords_spaced spaced elements.isWord rest
  have values := readArray_elementWords floats elements
  have supported : data.format ≠ .ascii ∧ data.format ≠ .list ∧ data.format ≠ .jis8 := by
    cases data with
    | ascii text => exact elements.elim
    | _ => simp [TypedArray.format]
  rw [parseArray, readWords_skipSpace, read]
  simp only
  rw [if_neg (by simp [supported]), if_neg (by simp [supported]), values]

/-- A node read from the text, whatever follows it, is a pattern for the item. -/
def ReadsAs (item : Item) (text : Text) : Prop :=
  ∃ pattern, toItem pattern = item ∧ ∀ (fuel : Nat) (rest : Text), 2 * text.length < fuel →
    parseNode floats false size fuel (text ++ rest) = .ok (pattern, rest)

theorem parseNode_of_head {item : Item} {text : Text}
    (head : ∀ rest, parseHead floats false size (text ++ rest) =
      .ok (some (.exact item), rest)) : ReadsAs floats size item text := by
  refine ⟨.exact item, rfl, fun fuel rest enough => ?_⟩
  cases fuel with
  | zero => omega
  | succ fuel => rw [parseNode, head]

theorem startsWord {words : List Text} (isWord : ∀ word ∈ words, IsWord word) :
    ∀ word ∈ words, ∃ byte after, word = byte :: after ∧ isWordByte byte = true := by
  intro word member
  obtain ⟨nonempty, inside⟩ := isWord word member
  cases word with
  | nil => exact absurd rfl nonempty
  | cons byte after => exact ⟨byte, after, rfl, inside byte List.mem_cons_self⟩

theorem readsAs_array {data : TypedArray} {text : Text} (canonical : ArrayText data text) :
    ReadsAs floats size (.array data) text := by
  refine parseNode_of_head floats size fun rest => ?_
  have numbers : (∃ words body, ElementWords data words ∧ Spaced words body ∧
      text = data.format.name ++ 91 :: (body ++ [93])) →
        parseHead floats false size (text ++ rest) = .ok (some (.exact (.array data)), rest) := by
    rintro ⟨words, body, elements, spaced, rfl⟩
    obtain ⟨byte, after, start, plain⟩ := spaced.skipSpace (startsWord elements.isWord) rest
    have read := parseArray_spaced floats size elements spaced rest
    have whole : data.format.name ++ 91 :: (body ++ [93]) ++ rest =
        data.format.name ++ 91 :: (body ++ 93 :: rest) := by simp
    have supported : data.format ≠ .jis8 := by
      cases data <;> simp [TypedArray.format]
    rw [whole, parseHead_bracket floats size supported,
      parseBracket_plain size _ start plain, if_neg data.format_ne_list, read]
  cases data with
  | ascii value =>
      have whole : text ++ rest =
          Format.ascii.name ++ 34 :: (value.flatMap quoteByte ++ 34 :: rest) := by
        rw [ArrayText] at canonical
        rw [canonical]
        simp
      rw [whole]
      exact parseHead_quoted floats size value rest
  | _ => exact numbers canonical

theorem CanonicalText.head {item : Item} {text : Text} (canonical : CanonicalText item text) :
    ∃ byte after, text = byte :: after ∧ isWordByte byte = true := by
  have named : ∀ (format : Format) (rest : Text),
      ∃ byte after, format.name ++ rest = byte :: after ∧ isWordByte byte = true := by
    intro format rest
    cases format <;> exact ⟨_, _, rfl, by decide⟩
  cases item with
  | list items =>
      obtain ⟨texts, body, -, -, rfl⟩ := canonical
      exact named _ _
  | array data =>
      cases data with
      | ascii value =>
          rw [CanonicalText, ArrayText] at canonical
          rw [canonical]
          exact named _ _
      | _ =>
          obtain ⟨words, body, -, -, rfl⟩ := canonical
          exact named _ _

theorem parseList_skipSpace (fuel : Nat) (rest : Text) :
    parseList floats false size fuel (skipSpace rest) = parseList floats false size fuel rest := by
  have twice : skipSpace (skipSpace rest) = skipSpace rest := List.dropWhile_idempotent _ rest
  cases fuel with
  | zero => rfl
  | succ fuel => rw [parseList, parseList, twice]

/-- The entries of a list are read one by one, up to its bracket. -/
theorem parseList_spaced {items : List Item} {texts : List Text} {body : Text}
    (spaced : Spaced texts body) (canonical : CanonicalTexts items texts)
    (reads : ∀ item ∈ items, ∀ text, CanonicalText item text → ReadsAs floats size item text) :
    ∃ children, toItems children = items ∧
      ∀ (fuel : Nat) (rest : Text), 2 * body.length + 1 < fuel →
        parseList floats false size fuel (body ++ 93 :: rest) = .ok (children, rest) := by
  induction spaced generalizing items with
  | @nil blanks blank =>
      cases items with
      | cons item items => exact canonical.elim
      | nil =>
          refine ⟨[], rfl, fun fuel rest enough => ?_⟩
          cases fuel with
          | zero => omega
          | succ fuel =>
              have bracket : skipSpace (blanks ++ 93 :: rest) = 93 :: rest := by
                rw [skipSpace_blank blank, skipSpace_stop (by decide)]
              rw [parseList, bracket]
              rfl
  | @cons blanks text tail texts blank _ _ ih =>
      cases items with
      | nil => exact canonical.elim
      | cons item items =>
          obtain ⟨first, later⟩ := canonical
          obtain ⟨byte, after, start, inside⟩ := first.head
          obtain ⟨pattern, same, node⟩ := reads item List.mem_cons_self text first
          obtain ⟨children, sameChildren, list⟩ := ih later fun other member =>
            reads other (List.mem_cons_of_mem _ member)
          refine ⟨pattern :: children, by rw [toItems, same, sameChildren], ?_⟩
          intro fuel rest enough
          cases fuel with
          | zero => omega
          | succ fuel =>
              obtain ⟨-, -, bracket, space, -⟩ := isWordByte_plain inside
              have skipped : skipSpace (blanks ++ (text ++ tail) ++ 93 :: rest) =
                  text ++ (tail ++ 93 :: rest) := by
                rw [List.append_assoc, skipSpace_blank blank, List.append_assoc, start,
                  List.cons_append, skipSpace_stop space]
              simp only [List.length_append] at enough
              have nonempty : 0 < text.length := by
                rw [start]
                exact Nat.succ_pos _
              have child := node fuel (tail ++ 93 :: rest) (by omega)
              have entries := list fuel rest (by omega)
              rw [parseList, skipped]
              split
              next none => exact absurd none (by simp [start])
              next closed =>
                rw [start, List.cons_append, List.cons.injEq] at closed
                exact absurd closed.1 bracket
              next =>
                rw [child]
                simp only [entries]

theorem readsAs_canonical {item : Item} :
    ∀ text, CanonicalText item text → ReadsAs floats size item text := by
  induction item using Item.induct with
  | array data => exact fun text canonical => readsAs_array floats size canonical
  | list items ih =>
      rintro text ⟨texts, body, entries, spaced, rfl⟩
      obtain ⟨children, same, list⟩ := parseList_spaced floats size spaced entries ih
      refine ⟨.list children, by rw [toItem, same], fun fuel rest enough => ?_⟩
      have starts : ∀ text ∈ texts, ∃ byte after, text = byte :: after ∧
          isWordByte byte = true := by
        intro text member
        obtain ⟨item, -, canonical⟩ := entries.of_text text member
        exact canonical.head
      obtain ⟨byte, after, start, plain⟩ := spaced.skipSpace starts rest
      have whole : Format.list.name ++ 91 :: (body ++ [93]) ++ rest =
          Format.list.name ++ 91 :: (body ++ 93 :: rest) := by simp
      cases fuel with
      | zero => omega
      | succ fuel =>
          simp only [List.length_append, List.length_cons, List.length_nil] at enough
          rw [whole, parseNode, parseHead_bracket floats size (by decide),
            parseBracket_plain size _ start plain, if_pos rfl]
          simp only [parseList_skipSpace]
          rw [list fuel rest (by omega)]

end Reading

/-- A canonical text is read as the item it stands for. -/
theorem parseItem_canonical (floats : FloatLibrary) {item : Item} {text : Text}
    (canonical : CanonicalText item text) : parseItem floats text = .ok item := by
  obtain ⟨pattern, same, node⟩ := readsAs_canonical floats text.length text canonical
  have read := node (2 * text.length + 1) [] (Nat.lt_succ_self _)
  rw [List.append_nil] at read
  have all : parseAll floats false text = .ok pattern := by
    rw [parseAll, read]
    rfl
  rw [parseItem, all, ← same]
  rfl

/-! ## Every item without floating-point numbers has a text -/

theorem integerWord_signedNumeral (number : Int) : IntegerWord number (signedNumeral number) :=
  ⟨numeral 10 number.natAbs, .inl rfl, rfl⟩

theorem exists_elementWords {data : TypedArray} (other : data.format ≠ .ascii)
    (floatFree : data.format ≠ .f4 ∧ data.format ≠ .f8)
    (canonical : ∀ values, data = .boolean values → ∀ byte ∈ values, byte = 0 ∨ byte = 1) :
    ∃ words, ElementWords data words := by
  have written : ∀ {α : Type} {relation : α → Text → Prop} {values : List α} (write : α → Text),
      (∀ value ∈ values, relation value (write value)) →
        List.Forall₂ relation values (values.map write) := by
    intro α relation values write each
    rw [List.forall₂_map_right_iff]
    exact List.forall₂_same.mpr each
  cases data with
  | ascii text => exact absurd rfl other
  | f4 values => exact absurd rfl floatFree.1
  | f8 values => exact absurd rfl floatFree.2
  | boolean values =>
      refine ⟨_, written (fun byte => if byte = 1 then Text.ofString "1" else Text.ofString "0") ?_⟩
      intro byte member
      rcases canonical values rfl byte member with rfl | rfl
      · exact .inr ⟨rfl, .inl rfl⟩
      · exact .inl ⟨rfl, .inl rfl⟩
  | i1 values | i2 values | i4 values | i8 values =>
      exact ⟨_, written (fun value => signedNumeral value.toInt) fun value _ =>
        integerWord_signedNumeral _⟩
  | binary values | u1 values | u2 values | u4 values | u8 values =>
      exact ⟨_, written (fun value => numeral 10 value.toNat) fun value _ => .inl rfl⟩

theorem exists_canonicalText {item : Item} (floatFree : FloatFree item)
    (canonical : item.BooleansCanonical) : ∃ text, CanonicalText item text := by
  induction item using Item.induct with
  | array data =>
      by_cases string : data.format = .ascii
      · cases data with
        | ascii value => exact ⟨_, rfl⟩
        | _ => simp [TypedArray.format] at string
      · have bytes : ∀ values, data = .boolean values → ∀ byte ∈ values, byte = 0 ∨ byte = 1 := by
          rintro values rfl
          exact canonical values (by simp [Item.boolean, Item.parts])
        obtain ⟨words, elements⟩ := exists_elementWords string (floatFree_array.mp floatFree) bytes
        refine ⟨data.format.name ++ 91 :: ((words.flatMap fun word => 32 :: word) ++ [93]), ?_⟩
        cases data with
        | ascii value => exact absurd rfl string
        | _ => exact ⟨words, _, elements, spaced_flatMap words, rfl⟩
  | list items ih =>
      have inner := floatFree_list.mp floatFree
      have booleans := Item.booleansCanonical_list.mp canonical
      have entries : ∃ texts, CanonicalTexts items texts := by
        clear floatFree canonical
        induction items with
        | nil => exact ⟨[], trivial⟩
        | cons item items tail =>
            obtain ⟨text, first⟩ := ih item List.mem_cons_self (inner item List.mem_cons_self)
              (booleans item List.mem_cons_self)
            obtain ⟨texts, rest⟩ := tail
              (fun other member => ih other (List.mem_cons_of_mem _ member))
              (fun other member => inner other (List.mem_cons_of_mem _ member))
              fun other member => booleans other (List.mem_cons_of_mem _ member)
            exact ⟨text :: texts, first, rest⟩
      obtain ⟨texts, entries⟩ := entries
      exact ⟨_, texts, _, entries, spaced_flatMap texts, rfl⟩

/-- The item language is faithful: canonical texts are read as their items, and the text
of any item without floating-point numbers is a pattern for this item alone. -/
theorem item_language_faithful (floats : FloatLibrary) :
    (∀ item, FloatFree item → item.BooleansCanonical → ∃ text, CanonicalText item text) ∧
      (∀ item text, CanonicalText item text → parseItem floats text = .ok item ∧
        ∃ pattern, parsePattern floats text = .ok pattern ∧
          ∀ other, matchesItem pattern other = true ↔ other = item) ∧
      ∀ item text, parseItem floats text = .ok item → FloatFree item →
        ∃ pattern, parsePattern floats text = .ok pattern ∧
          ∀ other, matchesItem pattern other = true ↔ other = item := by
  have accepted : ∀ item text, parseItem floats text = .ok item → FloatFree item →
      ∃ pattern, parsePattern floats text = .ok pattern ∧
        ∀ other, matchesItem pattern other = true ↔ other = item := by
    intro item text read floatFree
    obtain ⟨pattern, wild, all⟩ := parsePattern_of_parseItem floats read
    refine ⟨pattern, wild, fun other => ?_⟩
    rw [all other]
    exact equalItems_iff floatFree
  refine ⟨fun item => exists_canonicalText, ?_, accepted⟩
  intro item text canonical
  have read := parseItem_canonical floats canonical
  exact ⟨read, accepted item text read (floatFree_of_canonicalText text canonical)⟩

end Ssim.HostSim
