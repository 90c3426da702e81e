import Ssim.Core.Controller
import Ssim.Library.Numerals
import Ssim.Secs2.Message

/-!
# Text dumps

The readable text of an item or a message for logs and the message trace.  Long
arrays, strings and lists are cut with a note, except for `BOOLEAN` arrays, whose
loop has no limit.  Every other part of a dump is short whatever the item holds,
and no byte of a dump can end the line it is written to.

How the C library prints a floating-point number is a parameter.
-/

namespace Ssim.Secs2

open Core Library.Numerals

/-- Array elements or list entries shown. -/
def kDumpMaxElements : Nat := 16

/-- `ASCII` characters shown. -/
def kDumpMaxChars : Nat := 64

/-- The texts of `"%.9g"` for a `float` and of `"%.17g"` for a `double`, from their bits. -/
structure NumberFormats where
  f4 : UInt32 → Text
  f8 : UInt64 → Text

def Format.name : Format → Text
  | .list => Text.ofString "L"
  | .binary => Text.ofString "B"
  | .boolean => Text.ofString "BOOLEAN"
  | .ascii => Text.ofString "A"
  | .jis8 => Text.ofString "J"
  | .i8 => Text.ofString "I8"
  | .i1 => Text.ofString "I1"
  | .i2 => Text.ofString "I2"
  | .i4 => Text.ofString "I4"
  | .f8 => Text.ofString "F8"
  | .f4 => Text.ofString "F4"
  | .u8 => Text.ofString "U8"
  | .u1 => Text.ofString "U1"
  | .u2 => Text.ofString "U2"
  | .u4 => Text.ofString "U4"

/-- The text of a size, a 64-bit number. -/
def sizeText (size : Nat) : Text := numeral 10 (size % 2 ^ 64)

/-- `"%02X"` of a byte. -/
def hexText (byte : UInt8) : Text :=
  [digitByte (byte.toNat / 16), digitByte (byte.toNat % 16)]

/-! ## Strings -/

/-- A quote or a backslash gets a backslash; a byte that does not print gets its hex code. -/
def escapeByte (byte : UInt8) : Text :=
  if byte = 34 ∨ byte = 92 then [92, byte]
  else if 32 ≤ byte ∧ byte ≤ 126 then [byte]
  else 92 :: 120 :: hexText byte

def appendAscii (text : Text) : Text :=
  34 :: ((text.take kDumpMaxChars).flatMap escapeByte ++
    ((if kDumpMaxChars < text.length then Text.ofString "..." else []) ++ [34]))

/-! ## Numbers -/

/-- `snprintf` leaves at most 39 characters in the buffer of 40. -/
def appendNumber (printed : Text) : Text := printed.take 39

/-- The note after a cut array or list. -/
def cutNote (count : Nat) (unit : Text) : Text :=
  Text.ofString " ... (" ++ sizeText count ++ unit

/-- The first elements, each after a blank, and the note if there are more. -/
def appendShown {α : Type} (element : α → Text) (unit : Text) (values : List α) : Text :=
  (values.take kDumpMaxElements).flatMap (fun value => 32 :: element value) ++
    if kDumpMaxElements < values.length then cutNote values.length unit else []

def appendArray {α : Type} (printed : α → Text) (values : List α) : Text :=
  appendShown (fun value => appendNumber (printed value)) (Text.ofString " total)") values

def appendBinary (values : List UInt8) : Text :=
  appendShown (fun byte => Text.ofString "0x" ++ hexText byte) (Text.ofString " total)") values

def booleanText (byte : UInt8) : Text :=
  if byte ≠ 0 then Text.ofString "true" else Text.ofString "false"

/-- The loop over a `BOOLEAN` array shows every element. -/
def appendBoolean (values : List UInt8) : Text :=
  values.flatMap fun byte => 32 :: booleanText byte

/-! ## Items and messages -/

section Dump

variable (formats : NumberFormats)

def appendData : TypedArray → Text
  | .ascii text => 32 :: appendAscii text
  | .binary values => appendBinary values
  | .boolean values => appendBoolean values
  | .i1 values => appendArray (fun value => signedNumeral value.toInt) values
  | .i2 values => appendArray (fun value => signedNumeral value.toInt) values
  | .i4 values => appendArray (fun value => signedNumeral value.toInt) values
  | .i8 values => appendArray (fun value => signedNumeral value.toInt) values
  | .u1 values => appendArray (fun value => numeral 10 value.toNat) values
  | .u2 values => appendArray (fun value => numeral 10 value.toNat) values
  | .u4 values => appendArray (fun value => numeral 10 value.toNat) values
  | .u8 values => appendArray (fun value => numeral 10 value.toNat) values
  | .f4 values => appendArray formats.f4 values
  | .f8 values => appendArray formats.f8 values

mutual

def appendItem : Item → Text
  | .list items =>
      60 :: (Format.list.name ++ Text.ofString " [" ++ sizeText items.length ++
        Text.ofString "]" ++ appendEntries kDumpMaxElements items ++
        (if kDumpMaxElements < items.length then cutNote items.length (Text.ofString " entries)")
          else []) ++ [62])
  | .array data => 60 :: (data.format.name ++ appendData formats data ++ [62])

/-- At most `count` entries of a list, each after a blank. -/
def appendEntries (count : Nat) : List Item → Text
  | [] => []
  | item :: items =>
      match count with
      | 0 => []
      | count + 1 => 32 :: appendItem item ++ appendEntries count items

end

def Item.toText (item : Item) : Text := appendItem formats item

def Message.toText (message : Message) : Text :=
  Text.ofString "S" ++ numeral 10 message.stream.toNat ++ Text.ofString "F" ++
    numeral 10 message.function.toNat ++ (if message.wBit then Text.ofString " W" else []) ++
    match message.body with
    | none => []
    | some body => 32 :: appendItem formats body

theorem appendEntries_eq_flatMap (count : Nat) (items : List Item) :
    appendEntries formats count items =
      (items.take count).flatMap fun item => 32 :: appendItem formats item := by
  induction items generalizing count with
  | nil => simp [appendEntries]
  | cons item items ih =>
      cases count with
      | zero => simp [appendEntries]
      | succ count => simp [appendEntries, ih]

end Dump

/-! ## Every byte prints -/

/-- Every byte is a printable ASCII character. -/
def Printable (text : Text) : Prop :=
  ∀ byte ∈ text, 32 ≤ byte.toNat ∧ byte.toNat ≤ 126

instance (text : Text) : Decidable (Printable text) :=
  List.decidableBAll (fun byte : UInt8 => 32 ≤ byte.toNat ∧ byte.toNat ≤ 126) text

@[simp]
theorem printable_nil : Printable [] := by
  simp [Printable]

@[simp]
theorem printable_cons {byte : UInt8} {text : Text} :
    Printable (byte :: text) ↔ (32 ≤ byte.toNat ∧ byte.toNat ≤ 126) ∧ Printable text := by
  simp [Printable]

@[simp]
theorem printable_append {text other : Text} :
    Printable (text ++ other) ↔ Printable text ∧ Printable other :=
  List.forall_mem_append

theorem printable_flatMap {α : Type} {values : List α} {render : α → Text}
    (each : ∀ value ∈ values, Printable (render value)) : Printable (values.flatMap render) := by
  intro byte member
  obtain ⟨value, inside, rendered⟩ := List.mem_flatMap.mp member
  exact each value inside byte rendered

theorem printable_take {text : Text} (count : Nat) (printable : Printable text) :
    Printable (text.take count) :=
  fun byte member => printable byte (List.mem_of_mem_take member)

theorem printable_ite {condition : Prop} [Decidable condition] {text : Text}
    (printable : Printable text) : Printable (if condition then text else []) := by
  split
  · exact printable
  · exact printable_nil

theorem digitByte_printable {value : Nat} (small : value < 36) :
    32 ≤ (digitByte value).toNat ∧ (digitByte value).toNat ≤ 126 := by
  rw [digitByte_toNat small]
  split <;> omega

theorem printable_numeral (number : Nat) : Printable (numeral 10 number) := by
  intro byte member
  have range := isDigit_ten.mp (numeral_isDigit (by decide) (by decide) number byte member)
  omega

theorem printable_signedNumeral (number : Int) : Printable (signedNumeral number) := by
  unfold signedNumeral
  split
  · exact printable_cons.mpr ⟨by decide, printable_numeral _⟩
  · exact printable_numeral _

theorem printable_hexText (byte : UInt8) : Printable (hexText byte) := by
  have below := byte.toNat_lt
  unfold hexText
  simp only [printable_cons, printable_nil, and_true]
  exact ⟨digitByte_printable (by omega), digitByte_printable (by omega)⟩

theorem printable_escapeByte (byte : UInt8) : Printable (escapeByte byte) := by
  unfold escapeByte
  split
  next special =>
    rcases special with rfl | rfl
    · decide
    · decide
  next =>
    split
    next range => simpa [Printable, UInt8.le_iff_toNat_le] using range
    next =>
      rw [printable_cons, printable_cons]
      exact ⟨by decide, by decide, printable_hexText byte⟩

theorem printable_appendAscii (text : Text) : Printable (appendAscii text) := by
  unfold appendAscii
  rw [printable_cons, printable_append, printable_append]
  refine ⟨by decide, printable_flatMap fun byte _ => printable_escapeByte byte, ?_, by decide⟩
  exact printable_ite (by decide)

theorem printable_cutNote (count : Nat) {unit : Text} (printable : Printable unit) :
    Printable (cutNote count unit) := by
  unfold cutNote
  rw [printable_append, printable_append]
  exact ⟨⟨by decide, printable_numeral _⟩, printable⟩

theorem printable_appendShown {α : Type} {element : α → Text} {unit : Text} (values : List α)
    (elements : ∀ value, Printable (element value)) (printable : Printable unit) :
    Printable (appendShown element unit values) := by
  unfold appendShown
  rw [printable_append]
  constructor
  · exact printable_flatMap fun value _ => printable_cons.mpr ⟨by decide, elements value⟩
  · exact printable_ite (printable_cutNote _ printable)

theorem printable_appendArray {α : Type} {printed : α → Text} (values : List α)
    (elements : ∀ value, Printable (printed value)) : Printable (appendArray printed values) :=
  printable_appendShown values (fun value => printable_take 39 (elements value)) (by decide)

theorem printable_appendBinary (values : List UInt8) : Printable (appendBinary values) := by
  refine printable_appendShown values (fun byte => ?_) (by decide)
  exact printable_append.mpr ⟨by decide, printable_hexText byte⟩

theorem printable_appendBoolean (values : List UInt8) : Printable (appendBoolean values) := by
  refine printable_flatMap fun byte _ => printable_cons.mpr ⟨by decide, ?_⟩
  unfold booleanText
  split
  · decide
  · decide

theorem printable_formatName (format : Format) : Printable format.name := by
  cases format <;> decide

/-- The C library prints floating-point numbers in printable characters. -/
structure NumberFormats.AllPrintable (formats : NumberFormats) : Prop where
  f4 : ∀ bits, Printable (formats.f4 bits)
  f8 : ∀ bits, Printable (formats.f8 bits)

theorem printable_appendData {formats : NumberFormats} (numbers : formats.AllPrintable)
    (data : TypedArray) : Printable (appendData formats data) := by
  cases data with
  | ascii text => exact printable_cons.mpr ⟨by decide, printable_appendAscii text⟩
  | binary values => exact printable_appendBinary values
  | boolean values => exact printable_appendBoolean values
  | f4 values => exact printable_appendArray values numbers.f4
  | f8 values => exact printable_appendArray values numbers.f8
  | i1 values | i2 values | i4 values | i8 values =>
      exact printable_appendArray values fun value => printable_signedNumeral _
  | u1 values | u2 values | u4 values | u8 values =>
      exact printable_appendArray values fun value => printable_numeral _

theorem printable_appendItem {formats : NumberFormats} (numbers : formats.AllPrintable)
    (item : Item) : Printable (appendItem formats item) := by
  induction item using Item.induct with
  | array data =>
      simp only [appendItem, printable_cons, printable_append, printable_nil]
      exact ⟨by decide, ⟨printable_formatName _, printable_appendData numbers data⟩, by decide⟩
  | list items ih =>
      simp only [appendItem, appendEntries_eq_flatMap, printable_cons, printable_append,
        printable_nil]
      have entries : Printable ((items.take kDumpMaxElements).flatMap
          fun item => 32 :: appendItem formats item) := by
        refine printable_flatMap fun item member => printable_cons.mpr ⟨by decide, ?_⟩
        exact ih item (List.mem_of_mem_take member)
      refine ⟨by decide, ⟨⟨⟨⟨⟨by decide, by decide⟩, ?_⟩, by decide⟩, entries⟩, ?_⟩, by decide⟩
      · exact printable_numeral _
      · exact printable_ite (printable_cutNote _ (by decide))

theorem printable_messageText {formats : NumberFormats} (numbers : formats.AllPrintable)
    (message : Message) : Printable (message.toText formats) := by
  unfold Message.toText
  simp only [printable_append]
  refine ⟨⟨⟨⟨⟨by decide, printable_numeral _⟩, by decide⟩, printable_numeral _⟩, ?_⟩, ?_⟩
  · exact printable_ite (by decide)
  · cases message.body with
    | none => exact printable_nil
    | some body => exact printable_cons.mpr ⟨by decide, printable_appendItem numbers body⟩

/-! ## Reading a quoted string back -/

/-- The index of the first quote that no backslash stands before. -/
def firstUnescapedQuote : (escaped : Bool) → Text → Option Nat
  | _, [] => none
  | true, _ :: rest => (firstUnescapedQuote false rest).map (· + 1)
  | false, byte :: rest =>
      if byte = 34 then some 0 else (firstUnescapedQuote (byte = 92) rest).map (· + 1)

/-- The first byte of an escaped text, and what follows it. -/
def readEscaped : Text → Option (UInt8 × Text)
  | [] => none
  | byte :: rest =>
      if byte ≠ 92 then some (byte, rest)
      else
        match rest with
        | [] => none
        | kind :: rest =>
            if kind ≠ 120 then some (kind, rest)
            else
              match rest with
              | high :: low :: rest =>
                  (digitValue high).bind fun high => (digitValue low).map fun low =>
                    (UInt8.ofNat (16 * high + low), rest)
              | _ => none

theorem readEscaped_escapeByte (byte : UInt8) (rest : Text) :
    readEscaped (escapeByte byte ++ rest) = some (byte, rest) := by
  have below := byte.toNat_lt
  unfold escapeByte
  split
  next special =>
    have plain : byte ≠ 120 := by
      rcases special with rfl | rfl
      · decide
      · decide
    simp [readEscaped, plain]
  next ordinary =>
    rw [not_or] at ordinary
    split
    next => simp [readEscaped, ordinary.2]
    next =>
      have high := digitValue_digitByte (show byte.toNat / 16 < 36 by omega)
      have low := digitValue_digitByte (show byte.toNat % 16 < 36 by omega)
      have whole : UInt8.ofNat (16 * (byte.toNat / 16) + byte.toNat % 16) = byte := by
        rw [Nat.div_add_mod, UInt8.ofNat_toNat]
      simp [readEscaped, hexText, high, low, -UInt8.ofNat_add, whole]

/-- Escaped bytes decode in one way. -/
theorem flatMap_escapeByte_injective {text other : Text}
    (same : text.flatMap escapeByte = other.flatMap escapeByte) : text = other := by
  induction text generalizing other with
  | nil =>
      cases other with
      | nil => rfl
      | cons byte other =>
          have read := readEscaped_escapeByte byte (other.flatMap escapeByte)
          rw [← List.flatMap_cons, ← same] at read
          simp [readEscaped] at read
  | cons byte text ih =>
      have first := readEscaped_escapeByte byte (text.flatMap escapeByte)
      rw [← List.flatMap_cons, same] at first
      cases other with
      | nil => simp [readEscaped] at first
      | cons head other =>
          have second := readEscaped_escapeByte head (other.flatMap escapeByte)
          rw [← List.flatMap_cons, first, Option.some.injEq, Prod.mk.injEq] at second
          rw [second.1, ih second.2]

theorem firstUnescapedQuote_plain {byte : UInt8} (quote : byte ≠ 34) (backslash : byte ≠ 92)
    (rest : Text) :
    firstUnescapedQuote false (byte :: rest) = (firstUnescapedQuote false rest).map (· + 1) := by
  simp [firstUnescapedQuote, quote, backslash]

theorem firstUnescapedQuote_pair (byte : UInt8) (rest : Text) :
    firstUnescapedQuote false (92 :: byte :: rest) =
      (firstUnescapedQuote false rest).map (· + 2) := by
  simp [firstUnescapedQuote, Function.comp_def]

theorem digitByte_plain {value : Nat} (small : value < 36) :
    digitByte value ≠ 34 ∧ digitByte value ≠ 92 := by
  have bits := digitByte_toNat small
  constructor
  · intro same
    rw [same] at bits
    change 34 = _ at bits
    split at bits <;> omega
  · intro same
    rw [same] at bits
    change 92 = _ at bits
    split at bits <;> omega

/-- The scan for a quote passes over an escaped byte. -/
theorem firstUnescapedQuote_escapeByte (byte : UInt8) (rest : Text) :
    firstUnescapedQuote false (escapeByte byte ++ rest) =
      (firstUnescapedQuote false rest).map (· + (escapeByte byte).length) := by
  have below := byte.toNat_lt
  unfold escapeByte
  split
  next => exact firstUnescapedQuote_pair byte rest
  next ordinary =>
    rw [not_or] at ordinary
    split
    next => exact firstUnescapedQuote_plain ordinary.1 ordinary.2 rest
    next =>
      have high := digitByte_plain (show byte.toNat / 16 < 36 by omega)
      have low := digitByte_plain (show byte.toNat % 16 < 36 by omega)
      simp only [hexText, List.cons_append, List.nil_append]
      rw [firstUnescapedQuote_pair, firstUnescapedQuote_plain high.1 high.2,
        firstUnescapedQuote_plain low.1 low.2, Option.map_map, Option.map_map]
      rfl

theorem firstUnescapedQuote_escaped (text rest : Text) :
    firstUnescapedQuote false (text.flatMap escapeByte ++ rest) =
      (firstUnescapedQuote false rest).map (· + (text.flatMap escapeByte).length) := by
  induction text with
  | nil => simp
  | cons byte text ih =>
      rw [List.flatMap_cons, List.append_assoc, firstUnescapedQuote_escapeByte, ih,
        Option.map_map, List.length_append]
      congr 1
      funext index
      simp only [Function.comp_apply]
      omega

/-- What stands between the quotes of a dumped string. -/
def quotedPart (text : Text) : Text :=
  (text.take kDumpMaxChars).flatMap escapeByte ++
    if kDumpMaxChars < text.length then Text.ofString "..." else []

theorem appendAscii_eq (text : Text) : appendAscii text = 34 :: (quotedPart text ++ [34]) := by
  rw [appendAscii, quotedPart, List.append_assoc]

/-- The closing quote is the first one that is not escaped, whatever follows it. -/
theorem firstUnescapedQuote_quotedPart (text rest : Text) :
    firstUnescapedQuote false (quotedPart text ++ 34 :: rest) = some (quotedPart text).length := by
  unfold quotedPart
  rw [List.append_assoc, firstUnescapedQuote_escaped, List.length_append]
  split
  next =>
    have dots : firstUnescapedQuote false (Text.ofString "..." ++ 34 :: rest) = some 3 := by
      simp [Text.ofString, firstUnescapedQuote]
    rw [dots, Option.map_some, Nat.add_comm]
    rfl
  next => simp [firstUnescapedQuote]

theorem quotedPart_of_short {text : Text} (short : text.length ≤ kDumpMaxChars) :
    quotedPart text = text.flatMap escapeByte := by
  rw [quotedPart, List.take_of_length_le short, if_neg (by omega), List.append_nil]

theorem appendAscii_injective {text other : Text} (short : text.length ≤ kDumpMaxChars)
    (shortOther : other.length ≤ kDumpMaxChars) (same : appendAscii text = appendAscii other) :
    text = other := by
  rw [appendAscii_eq, appendAscii_eq, List.cons.injEq, List.append_left_inj,
    quotedPart_of_short short, quotedPart_of_short shortOther] at same
  exact flatMap_escapeByte_injective same.2

/-- A dump cannot forge log lines: every byte prints, short strings are told apart, and a
quoted string ends where a reader of its escapes sees it end. -/
theorem dump_cannot_forge {formats : NumberFormats} (numbers : formats.AllPrintable) :
    (∀ item : Item, Printable (item.toText formats)) ∧
      (∀ message : Message, Printable (message.toText formats)) ∧
      (∀ text other : Text, text.length ≤ kDumpMaxChars → other.length ≤ kDumpMaxChars →
        (appendAscii text = appendAscii other ↔ text = other)) ∧
      ∀ text : Text, ∃ inner, appendAscii text = 34 :: (inner ++ [34]) ∧
        ∀ rest, firstUnescapedQuote false (inner ++ 34 :: rest) = some inner.length := by
  refine ⟨printable_appendItem numbers, printable_messageText numbers, ?_, ?_⟩
  · intro text other short shortOther
    constructor
    · exact appendAscii_injective short shortOther
    · intro same
      rw [same]
  · intro text
    exact ⟨quotedPart text, appendAscii_eq text, firstUnescapedQuote_quotedPart text⟩

theorem dump_of_one_cannot_forge :
    Printable ((Item.list [Item.f4 0x3F800000]).toText
      ⟨fun _ => Text.ofString "1", fun _ => Text.ofString "1"⟩) := by
  have one : Printable (Text.ofString "1") := by decide
  exact (dump_cannot_forge ⟨fun _ => one, fun _ => one⟩).1 _

end Ssim.Secs2
