import Ssim.Core.Controller
import Ssim.Library.CIntegers
import Ssim.Library.PrefixParser
import Ssim.Secs2.Item

/-!
# Items and patterns in host scripts

The text of an item is read by recursive descent with one cursor: each parser takes
what is left of the text and hands back what it did not read.  The patterns of a
script use the same parser, with wildcards allowed.  A list is matched entry by
entry and an array as a whole.

How the C library reads and narrows floating-point numbers is a parameter.
-/

namespace Ssim.HostSim

open Core Secs2 Library.Numerals Library.CIntegers Library.PrefixParser

def kErrPatternSyntax : Nat := 600

structure SyntaxError where
  code : Nat
  message : Text
  deriving Repr, DecidableEq

inductive Pattern where
  | anyItem
  | anyOfFormat (format : Format)
  | anyList
  | list (children : List Pattern)
  | exact (item : Item)

/-- `strtod`, and the conversion of a `double` to a `float`, on bit patterns. -/
structure FloatLibrary where
  strtod : Text → Option (Conversion UInt64)
  toFloat : UInt64 → UInt32

/-! ## Words -/

/-- `isalnum` of the C locale. -/
def isAlnum (byte : UInt8) : Bool := isDigit 36 byte

def formatFromName (name : Text) : Option Format :=
  if name = Text.ofString "L" then some .list
  else if name = Text.ofString "B" then some .binary
  else if name = Text.ofString "BOOLEAN" ∨ name = Text.ofString "BOOL" then some .boolean
  else if name = Text.ofString "A" then some .ascii
  else if name = Text.ofString "I1" then some .i1
  else if name = Text.ofString "I2" then some .i2
  else if name = Text.ofString "I4" then some .i4
  else if name = Text.ofString "I8" then some .i8
  else if name = Text.ofString "U1" then some .u1
  else if name = Text.ofString "U2" then some .u2
  else if name = Text.ofString "U4" then some .u4
  else if name = Text.ofString "U8" then some .u8
  else if name = Text.ofString "F4" then some .f4
  else if name = Text.ofString "F8" then some .f8
  else none

def isSeparator (byte : UInt8) : Bool := isSpace byte || byte = 44

/-- The word read so far, unless it is empty, in front of the later ones. -/
def pushWord (current : Text) (words : List Text) : List Text :=
  if current = [] then words else current :: words

/-- The words up to `]`, and what follows it; `none` if the text ends first. -/
def readWords : (current : Text) → Text → Option (List Text × Text)
  | _, [] => none
  | current, byte :: rest =>
      if byte = 93 then some (pushWord current [], rest)
      else if isSeparator byte then
        (readWords [] rest).map fun parts => (pushWord current parts.1, parts.2)
      else readWords (current ++ [byte]) rest

/-- A signed number in the range of its type. -/
def parseSigned (least greatest : Int) (word : Text) : Option Int :=
  match strtoll (cString word) with
  | none => none
  | some converted =>
      if converted.rangeError = true ∨ converted.rest ≠ [] then none
      else if converted.value < least ∨ greatest < converted.value then none
      else some converted.value

def parseUnsigned (greatest : Nat) (word : Text) : Option Nat :=
  if word.head? = some 45 then none
  else
    match strtoull (cString word) with
    | none => none
    | some converted =>
        if converted.rangeError = true ∨ converted.rest ≠ [] then none
        else if greatest < converted.value then none
        else some converted.value

def parseBoolean (word : Text) : Option UInt8 :=
  if word = Text.ofString "true" ∨ word = Text.ofString "1" then some 1
  else if word = Text.ofString "false" ∨ word = Text.ofString "0" then some 0
  else none

def parseFloat (floats : FloatLibrary) (word : Text) : Option UInt64 :=
  match floats.strtod (cString word) with
  | none => none
  | some converted =>
      if converted.rangeError = true ∨ converted.rest ≠ [] then none else some converted.value

/-- Reads every word, or stops at the first bad one. -/
def collect {α : Type} (parse : Text → Option α) : List Text → Except Text (List α)
  | [] => .ok []
  | word :: words =>
      match parse word with
      | none => .error word
      | some value =>
          match collect parse words with
          | .error badWord => .error badWord
          | .ok values => .ok (value :: values)

/-! ## The parser -/

section Parser

variable (floats : FloatLibrary) (wild : Bool) (size : Nat)

/-- A failure where `rest` is left of a text of `size` bytes. -/
def fail {α : Type} (what : Text) (rest : Text) : Except SyntaxError α :=
  .error ⟨kErrPatternSyntax,
    what ++ Text.ofString " (at character " ++ numeral 10 (size - rest.length + 1) ++
      Text.ofString ")"⟩

def skipSpace (rest : Text) : Text := rest.dropWhile isSpace

/-- The rest of a string after its opening quote, or after a backslash in it. -/
def parseString : (escaped : Bool) → StepParser UInt8 SyntaxError Text
  | false, [] => fail size (Text.ofString "a string is not closed") []
  | true, [] => fail size (Text.ofString "a string ends in a backslash") []
  | true, byte :: rest =>
      if byte ≠ 34 ∧ byte ≠ 92 then
        fail size (Text.ofString "only \\\" and \\\\ are escapes") rest
      else
        match parseString false rest with
        | .error reason => .error reason
        | .ok (text, rest) => .ok (byte :: text, rest)
  | false, byte :: rest =>
      if byte = 34 then .ok ([], rest)
      else if byte = 92 then parseString true rest
      else
        match parseString false rest with
        | .error reason => .error reason
        | .ok (text, rest) => .ok (byte :: text, rest)

/-- The elements of an array, or the bad word among them. -/
def readArray (format : Format) (words : List Text) : Except Text TypedArray :=
  match format with
  | .binary => (collect (parseUnsigned 255) words).map fun values =>
      .binary (values.map UInt8.ofNat)
  | .boolean => (collect parseBoolean words).map .boolean
  | .i1 => (collect (parseSigned (-2 ^ 7) (2 ^ 7 - 1)) words).map fun values =>
      .i1 (values.map Int8.ofInt)
  | .i2 => (collect (parseSigned (-2 ^ 15) (2 ^ 15 - 1)) words).map fun values =>
      .i2 (values.map Int16.ofInt)
  | .i4 => (collect (parseSigned (-2 ^ 31) (2 ^ 31 - 1)) words).map fun values =>
      .i4 (values.map Int32.ofInt)
  | .i8 => (collect (parseSigned (-2 ^ 63) (2 ^ 63 - 1)) words).map fun values =>
      .i8 (values.map Int64.ofInt)
  | .u1 => (collect (parseUnsigned (2 ^ 8 - 1)) words).map fun values =>
      .u1 (values.map UInt8.ofNat)
  | .u2 => (collect (parseUnsigned (2 ^ 16 - 1)) words).map fun values =>
      .u2 (values.map UInt16.ofNat)
  | .u4 => (collect (parseUnsigned (2 ^ 32 - 1)) words).map fun values =>
      .u4 (values.map UInt32.ofNat)
  | .u8 => (collect (parseUnsigned (2 ^ 64 - 1)) words).map fun values =>
      .u8 (values.map UInt64.ofNat)
  | .f4 => (collect (parseFloat floats) words).map fun values =>
      .f4 (values.map floats.toFloat)
  | .f8 => (collect (parseFloat floats) words).map .f8
  -- Handled by the caller.
  | .list | .jis8 | .ascii => .ok (.ascii [])

/-- An array after its opening bracket. -/
def parseArray (format : Format) (rest : Text) : Except SyntaxError (Item × Text) :=
  match readWords [] rest with
  | none => fail size (Text.ofString "an array is not closed") []
  | some (words, rest) =>
      if format = .ascii ∧ words ≠ [] then
        fail size (Text.ofString "write a string as A\"text\"") rest
      else if format = .list ∨ format = .jis8 then
        fail size (Text.ofString "unsupported item type") rest
      else
        match readArray floats format words with
        | .error badWord =>
            fail size (Text.ofString "'" ++ badWord ++
              Text.ofString "' is not a valid value for this type") rest
        | .ok data => .ok (.array data, rest)

/-- After the opening bracket: a wildcard, or the bracket's content by `content`. -/
def parseBracket (format : Format) (rest : Text)
    (content : Text → Except SyntaxError (Option Pattern × Text)) :
    Except SyntaxError (Option Pattern × Text) :=
  match skipSpace rest with
  | 42 :: rest =>
      if wild = false then
        fail size (Text.ofString "wildcards are only allowed in patterns") (42 :: rest)
      else
        match skipSpace rest with
        | 93 :: rest =>
            .ok (some (if format = .list then .anyList else .anyOfFormat format), rest)
        | rest => fail size (Text.ofString "']' is expected after '*'") rest
  | rest => content rest

/-- A node up to where it is complete, or, with `none`, up to the entries of a list. -/
def parseHead (rest : Text) : Except SyntaxError (Option Pattern × Text) :=
  match skipSpace rest with
  | [] => fail size (Text.ofString "an item is missing") []
  | 42 :: rest =>
      if wild = false then
        fail size (Text.ofString "wildcards are only allowed in patterns") (42 :: rest)
      else .ok (some .anyItem, rest)
  | start =>
      let name := start.takeWhile isAlnum
      let rest := start.dropWhile isAlnum
      if name = [] then fail size (Text.ofString "an item type is expected") rest
      else
        match formatFromName name with
        | none =>
            fail size (Text.ofString "unknown item type '" ++ name ++ Text.ofString "'") rest
        | some format =>
            match rest with
            | 34 :: rest =>
                if format = .ascii then
                  match parseString size false rest with
                  | .error reason => .error reason
                  | .ok (text, rest) => .ok (some (.exact (.ascii text)), rest)
                else fail size (Text.ofString "'[' is expected after " ++ name) (34 :: rest)
            | 91 :: rest =>
                parseBracket wild size format rest fun rest =>
                  if format = .list then .ok (none, rest)
                  else
                    match parseArray floats size format rest with
                    | .error reason => .error reason
                    | .ok (item, rest) => .ok (some (.exact item), rest)
            | rest => fail size (Text.ofString "'[' is expected after " ++ name) rest

/-- Stands for a recursion that is cut short; the text has too few bytes for that. -/
def outOfFuel {α : Type} : Except SyntaxError α := .error ⟨0, []⟩

mutual

def parseNode : (fuel : Nat) → StepParser UInt8 SyntaxError Pattern
  | 0, _ => outOfFuel
  | fuel + 1, rest =>
      match parseHead floats wild size rest with
      | .error reason => .error reason
      | .ok (some pattern, rest) => .ok (pattern, rest)
      | .ok (none, rest) =>
          match parseList fuel rest with
          | .error reason => .error reason
          | .ok (children, rest) => .ok (.list children, rest)

/-- The entries of a list up to its closing bracket. -/
def parseList : (fuel : Nat) → StepParser UInt8 SyntaxError (List Pattern)
  | 0, _ => outOfFuel
  | fuel + 1, rest =>
      match skipSpace rest with
      | [] => fail size (Text.ofString "a list is not closed") []
      | 93 :: rest => .ok ([], rest)
      | rest =>
          match parseNode fuel rest with
          | .error reason => .error reason
          | .ok (child, rest) =>
              match parseList fuel rest with
              | .error reason => .error reason
              | .ok (children, rest) => .ok (child :: children, rest)

end

end Parser

def parseAll (floats : FloatLibrary) (wild : Bool) (text : Text) : Except SyntaxError Pattern :=
  match parseNode floats wild text.length (2 * text.length + 1) text with
  | .error reason => .error reason
  | .ok (pattern, rest) =>
      match skipSpace rest with
      | [] => .ok pattern
      | rest => fail text.length (Text.ofString "unexpected text after the item") rest

mutual

/-- A wildcard would become an empty list. -/
def toItem : Pattern → Item
  | .exact item => item
  | .list children => .list (toItems children)
  | .anyItem | .anyOfFormat _ | .anyList => .list []

def toItems : List Pattern → List Item
  | [] => []
  | child :: children => toItem child :: toItems children

end

def parseItem (floats : FloatLibrary) (text : Text) : Except SyntaxError Item :=
  (parseAll floats false text).map toItem

def parsePattern (floats : FloatLibrary) (text : Text) : Except SyntaxError Pattern :=
  parseAll floats true text

/-! ## Matching -/

/-- `==` of two floating-point numbers: no NaN equals anything, and the zeros are equal. -/
def floatEq (infinity magnitudeMask first second : Nat) : Bool :=
  let magnitude := fun bits => bits &&& magnitudeMask
  decide (magnitude first ≤ infinity) && decide (magnitude second ≤ infinity) &&
    (decide (first = second) || (magnitude first = 0 && magnitude second = 0))

def floatEq32 (first second : UInt32) : Bool :=
  floatEq 0x7F800000 0x7FFFFFFF first.toNat second.toNat

def floatEq64 (first second : UInt64) : Bool :=
  floatEq 0x7FF0000000000000 0x7FFFFFFFFFFFFFFF first.toNat second.toNat

def equalData : TypedArray → TypedArray → Bool
  | .f4 values, .f4 others => values.isEqv others floatEq32
  | .f8 values, .f8 others => values.isEqv others floatEq64
  | data, other => decide (data = other)

mutual

/-- `==` of two items. -/
def equalItems : Item → Item → Bool
  | .list items, .list others => equalLists items others
  | .array data, .array other => equalData data other
  | _, _ => false

def equalLists : List Item → List Item → Bool
  | [], [] => true
  | item :: items, other :: others => equalItems item other && equalLists items others
  | _, _ => false

end

mutual

def matchesItem : Pattern → Item → Bool
  | .anyItem, _ => true
  | .anyOfFormat format, item => item.format = format
  | .anyList, item => item.isList
  | .exact expected, item => equalItems item expected
  | .list children, .list items => matchesItems children items
  | .list _, .array _ => false

/-- The entries match one by one, and there are as many of them. -/
def matchesItems : List Pattern → List Item → Bool
  | [], [] => true
  | child :: children, item :: items => matchesItem child item && matchesItems children items
  | _, _ => false

end

/-- No part of the item holds floating-point numbers. -/
def FloatFree (item : Item) : Prop :=
  ∀ part ∈ item.parts, part.format ≠ .f4 ∧ part.format ≠ .f8

theorem floatFree_list {items : List Item} :
    FloatFree (.list items) ↔ ∀ item ∈ items, FloatFree item := by
  simp only [FloatFree, Item.parts, List.mem_cons, forall_eq_or_imp, Item.mem_partsAll]
  constructor
  · rintro ⟨-, inner⟩ item member part inside
    exact inner part ⟨item, member, inside⟩
  · intro inner
    refine ⟨by simp [Item.format], ?_⟩
    rintro part ⟨item, member, inside⟩
    exact inner item member part inside

theorem floatFree_array {data : TypedArray} :
    FloatFree (.array data) ↔ data.format ≠ .f4 ∧ data.format ≠ .f8 := by
  simp [FloatFree, Item.parts, Item.format]

theorem equalData_iff {data other : TypedArray}
    (floatFree : other.format ≠ .f4 ∧ other.format ≠ .f8) :
    equalData data other = true ↔ data = other := by
  cases other with
  | f4 values => exact absurd rfl floatFree.1
  | f8 values => exact absurd rfl floatFree.2
  | _ => cases data <;> simp [equalData]

/-- Without floating-point numbers `==` is equality. -/
theorem equalItems_iff {item other : Item} (floatFree : FloatFree other) :
    equalItems item other = true ↔ item = other := by
  induction other using Item.induct generalizing item with
  | array data =>
      cases item with
      | list items => simp [equalItems]
      | array other =>
          rw [equalItems, equalData_iff (floatFree_array.mp floatFree), Item.array.injEq]
  | list others ih =>
      cases item with
      | array data => simp [equalItems]
      | list items =>
          have inner := floatFree_list.mp floatFree
          rw [equalItems, Item.list.injEq]
          clear floatFree
          induction others generalizing items with
          | nil => cases items <;> simp [equalLists]
          | cons other others tail =>
              cases items with
              | nil => simp [equalLists]
              | cons item items =>
                  have head : equalItems item other = true ↔ item = other :=
                    ih other List.mem_cons_self (inner other List.mem_cons_self)
                  have rest : equalLists items others = true ↔ items = others :=
                    tail (fun entry member => ih entry (List.mem_cons_of_mem _ member))
                      items fun entry member => inner entry (List.mem_cons_of_mem _ member)
                  rw [equalLists, Bool.and_eq_true, head, rest, List.cons.injEq]

end Ssim.HostSim
