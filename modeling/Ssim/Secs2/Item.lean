import Ssim.Core.Result
import Ssim.Library.BigEndian

/-!
# SECS-II data items

An item is a list or a typed array.  `Binary`, `BOOLEAN` and `U1` all hold one
byte per element, so the constructor, and not the element type, tells them
apart.  An `F4` or `F8` element is its 32- or 64-bit pattern, and the text of an
`ASCII` item is its bytes.
-/

namespace Ssim.Secs2

open Library.BigEndian

/-- Format codes; `jis8` is recognised but unsupported. -/
inductive Format where
  | list
  | binary
  | boolean
  | ascii
  | jis8
  | i8
  | i1
  | i2
  | i4
  | f8
  | f4
  | u8
  | u1
  | u2
  | u4
  deriving Repr, DecidableEq

namespace Format

/-- The enumerator's value: the octal code of the format, written in hex. -/
def code : Format → Nat
  | list => 0x00
  | binary => 0x08
  | boolean => 0x09
  | ascii => 0x10
  | jis8 => 0x11
  | i8 => 0x18
  | i1 => 0x19
  | i2 => 0x1A
  | i4 => 0x1C
  | f8 => 0x20
  | f4 => 0x24
  | u8 => 0x28
  | u1 => 0x29
  | u2 => 0x2A
  | u4 => 0x2C

end Format

/-- Bytes per element, or 0 for a list. -/
def elementSize : Format → Nat
  | .list => 0
  | .binary | .boolean | .ascii | .jis8 | .i1 | .u1 => 1
  | .i2 | .u2 => 2
  | .i4 | .u4 | .f4 => 4
  | .i8 | .u8 | .f8 => 8

def isSupported (format : Format) : Bool :=
  format ≠ .jis8

/-- The storage of a non-list item. -/
inductive TypedArray where
  | binary (values : List UInt8)
  | boolean (values : List UInt8)
  | ascii (text : List UInt8)
  | i1 (values : List Int8)
  | i2 (values : List Int16)
  | i4 (values : List Int32)
  | i8 (values : List Int64)
  | u1 (values : List UInt8)
  | u2 (values : List UInt16)
  | u4 (values : List UInt32)
  | u8 (values : List UInt64)
  | f4 (values : List UInt32)
  | f8 (values : List UInt64)
  deriving Repr, DecidableEq

inductive Item where
  | list (items : List Item)
  | array (data : TypedArray)
  deriving Repr

/-! ## Element types on the wire -/

instance : WireElement UInt8 where
  width := 1
  width_pos := by decide
  toBits := UInt8.toNat
  ofBits := UInt8.ofNat
  toBits_lt value := value.toNat_lt
  ofBits_toBits value := UInt8.ofNat_toNat
  toBits_ofBits _ fits := UInt8.toNat_ofNat_of_lt' fits

instance : WireElement UInt16 where
  width := 2
  width_pos := by decide
  toBits := UInt16.toNat
  ofBits := UInt16.ofNat
  toBits_lt value := value.toNat_lt
  ofBits_toBits value := UInt16.ofNat_toNat
  toBits_ofBits _ fits := UInt16.toNat_ofNat_of_lt' fits

instance : WireElement UInt32 where
  width := 4
  width_pos := by decide
  toBits := UInt32.toNat
  ofBits := UInt32.ofNat
  toBits_lt value := value.toNat_lt
  ofBits_toBits value := UInt32.ofNat_toNat
  toBits_ofBits _ fits := UInt32.toNat_ofNat_of_lt' fits

instance : WireElement UInt64 where
  width := 8
  width_pos := by decide
  toBits := UInt64.toNat
  ofBits := UInt64.ofNat
  toBits_lt value := value.toNat_lt
  ofBits_toBits value := UInt64.ofNat_toNat
  toBits_ofBits _ fits := UInt64.toNat_ofNat_of_lt' fits

-- A signed element goes through its unsigned twin of the same width.

instance : WireElement Int8 where
  width := 1
  width_pos := by decide
  toBits value := value.toUInt8.toNat
  ofBits bits := (UInt8.ofNat bits).toInt8
  toBits_lt value := value.toUInt8.toNat_lt
  ofBits_toBits value := by rw [UInt8.ofNat_toNat]; rfl
  toBits_ofBits _ fits := UInt8.toNat_ofNat_of_lt' fits

instance : WireElement Int16 where
  width := 2
  width_pos := by decide
  toBits value := value.toUInt16.toNat
  ofBits bits := (UInt16.ofNat bits).toInt16
  toBits_lt value := value.toUInt16.toNat_lt
  ofBits_toBits value := by rw [UInt16.ofNat_toNat]; rfl
  toBits_ofBits _ fits := UInt16.toNat_ofNat_of_lt' fits

instance : WireElement Int32 where
  width := 4
  width_pos := by decide
  toBits value := value.toUInt32.toNat
  ofBits bits := (UInt32.ofNat bits).toInt32
  toBits_lt value := value.toUInt32.toNat_lt
  ofBits_toBits value := by rw [UInt32.ofNat_toNat]; rfl
  toBits_ofBits _ fits := UInt32.toNat_ofNat_of_lt' fits

instance : WireElement Int64 where
  width := 8
  width_pos := by decide
  toBits value := value.toUInt64.toNat
  ofBits bits := (UInt64.ofNat bits).toInt64
  toBits_lt value := value.toUInt64.toNat_lt
  ofBits_toBits value := by rw [UInt64.ofNat_toNat]; rfl
  toBits_ofBits _ fits := UInt64.toNat_ofNat_of_lt' fits

namespace TypedArray

def format : TypedArray → Format
  | binary _ => .binary
  | boolean _ => .boolean
  | ascii _ => .ascii
  | i1 _ => .i1
  | i2 _ => .i2
  | i4 _ => .i4
  | i8 _ => .i8
  | u1 _ => .u1
  | u2 _ => .u2
  | u4 _ => .u4
  | u8 _ => .u8
  | f4 _ => .f4
  | f8 _ => .f8

/-- Number of elements (`ASCII`: characters). -/
def count : TypedArray → Nat
  | binary values | boolean values | ascii values | u1 values => values.length
  | i1 values => values.length
  | i2 values => values.length
  | i4 values => values.length
  | i8 values => values.length
  | u2 values => values.length
  | u4 values | f4 values => values.length
  | u8 values | f8 values => values.length

/-- The elements as they lie on the wire, one after the other, big-endian. -/
def dataBytes : TypedArray → List UInt8
  | binary values | boolean values | ascii values | u1 values => values
  | i1 values => appendArray values
  | i2 values => appendArray values
  | i4 values => appendArray values
  | i8 values => appendArray values
  | u2 values => appendArray values
  | u4 values | f4 values => appendArray values
  | u8 values | f8 values => appendArray values

/-- A `BOOLEAN` byte as the encoder emits it. -/
def normalizeBoolean (byte : UInt8) : UInt8 :=
  if byte ≠ 0 then 1 else 0

/-- Every `BOOLEAN` element becomes 0 or 1; all other arrays stay as they are. -/
def normalize : TypedArray → TypedArray
  | boolean values => .boolean (values.map normalizeBoolean)
  | other => other

@[simp]
theorem normalize_format (data : TypedArray) : data.normalize.format = data.format := by
  cases data <;> rfl

theorem format_ne_list (data : TypedArray) : data.format ≠ .list := by
  cases data <;> simp [format]

theorem format_supported (data : TypedArray) : isSupported data.format = true := by
  cases data <;> rfl

/-- The data bytes number exactly the count times the element size. -/
theorem dataBytes_length (data : TypedArray) :
    data.dataBytes.length = data.count * elementSize data.format := by
  cases data <;> simp [dataBytes, count, format, elementSize, WireElement.width]

@[simp]
theorem normalize_count (data : TypedArray) : data.normalize.count = data.count := by
  cases data <;> simp [normalize, count]

end TypedArray

namespace Item

def format : Item → Format
  | list _ => .list
  | array data => data.format

def isList : Item → Bool
  | list _ => true
  | array _ => false

/-- Number of list entries or array elements. -/
def count : Item → Nat
  | list items => items.length
  | array data => data.count

def binary (values : List UInt8) : Item := .array (.binary values)
def boolean (values : List UInt8) : Item := .array (.boolean values)
def ascii (text : List UInt8) : Item := .array (.ascii text)
def u1 (value : UInt8) : Item := .array (.u1 [value])
def u2 (value : UInt16) : Item := .array (.u2 [value])
def u4 (value : UInt32) : Item := .array (.u4 [value])
def f4 (value : UInt32) : Item := .array (.f4 [value])

/-- Induction over items: a list is handled with its entries already known. -/
@[elab_as_elim]
theorem induct {motive : Item → Prop}
    (array : ∀ data, motive (.array data))
    (list : ∀ items, (∀ item ∈ items, motive item) → motive (.list items)) :
    ∀ item, motive item
  | .array data => array data
  | .list items => list items fun item _ => induct array list item

mutual

/-- Decide equality of two items, entry by entry for lists. -/
def decEq : (first second : Item) → Decidable (first = second)
  | list items, list others =>
      match decEqList items others with
      | isTrue same => isTrue (by rw [same])
      | isFalse different => isFalse (by simpa using different)
  | list _, array _ => isFalse (by simp)
  | array _, list _ => isFalse (by simp)
  | array data, array other =>
      match decidable_of_iff (data = other) (by simp) with
      | isTrue same => isTrue same
      | isFalse different => isFalse different

def decEqList : (first second : List Item) → Decidable (first = second)
  | [], [] => isTrue rfl
  | [], _ :: _ => isFalse (by simp)
  | _ :: _, [] => isFalse (by simp)
  | item :: items, other :: others =>
      match decEq item other, decEqList items others with
      | isTrue sameHead, isTrue sameTail => isTrue (by rw [sameHead, sameTail])
      | isFalse different, _ => isFalse (by simp [different])
      | _, isFalse different => isFalse (by simp [different])

end

instance : DecidableEq Item := decEq

mutual

/-- The item with every `BOOLEAN` element replaced by 0 or 1. -/
def normalize : Item → Item
  | list items => .list (normalizeAll items)
  | array data => .array data.normalize

def normalizeAll : List Item → List Item
  | [] => []
  | item :: items => item.normalize :: normalizeAll items

end

theorem normalizeAll_eq_map (items : List Item) : normalizeAll items = items.map normalize := by
  induction items with
  | nil => rfl
  | cons item items ih => simp [normalizeAll, ih]

mutual

/-- The longest chain of lists inside one another. -/
def nesting : Item → Nat
  | list items => nestingAll items + 1
  | array _ => 0

def nestingAll : List Item → Nat
  | [] => 0
  | item :: items => max item.nesting (nestingAll items)

end

theorem nestingAll_le {items : List Item} {bound : Nat} :
    nestingAll items ≤ bound ↔ ∀ item ∈ items, item.nesting ≤ bound := by
  induction items with
  | nil => simp [nestingAll]
  | cons item items ih => simp [nestingAll, ih]

mutual

/-- The item itself and everything inside it. -/
def parts : Item → List Item
  | list items => .list items :: partsAll items
  | array data => [.array data]

def partsAll : List Item → List Item
  | [] => []
  | item :: items => item.parts ++ partsAll items

end

theorem mem_partsAll {items : List Item} {part : Item} :
    part ∈ partsAll items ↔ ∃ item ∈ items, part ∈ item.parts := by
  induction items with
  | nil => simp [partsAll]
  | cons item items ih => simp [partsAll, ih]

/-- What the length field of the item's header has to hold: entries or data bytes. -/
def headerLength : Item → Nat
  | list items => items.length
  | array data => data.count * elementSize data.format

/-- Every list count and every array's byte length, at any depth, is at most `bound`. -/
def LengthsWithin (bound : Nat) (item : Item) : Prop :=
  ∀ part ∈ item.parts, part.headerLength ≤ bound

theorem lengthsWithin_array {bound : Nat} {data : TypedArray} :
    LengthsWithin bound (.array data) ↔ data.count * elementSize data.format ≤ bound := by
  simp [LengthsWithin, parts, headerLength]

theorem lengthsWithin_list {bound : Nat} {items : List Item} :
    LengthsWithin bound (.list items) ↔
      items.length ≤ bound ∧ ∀ item ∈ items, LengthsWithin bound item := by
  simp only [LengthsWithin, parts, List.mem_cons, forall_eq_or_imp, headerLength, mem_partsAll]
  constructor
  · rintro ⟨count, inner⟩
    exact ⟨count, fun item member part inside => inner part ⟨item, member, inside⟩⟩
  · rintro ⟨count, inner⟩
    exact ⟨count, fun part ⟨item, member, inside⟩ => inner item member part inside⟩

/-- Every `BOOLEAN` element, at any depth, is 0 or 1. -/
def BooleansCanonical (item : Item) : Prop :=
  ∀ values, boolean values ∈ item.parts → ∀ byte ∈ values, byte = 0 ∨ byte = 1

theorem booleansCanonical_list {items : List Item} :
    BooleansCanonical (.list items) ↔ ∀ item ∈ items, BooleansCanonical item := by
  simp only [BooleansCanonical, boolean, parts, List.mem_cons, reduceCtorEq, false_or, mem_partsAll]
  constructor
  · intro all item member values inside
    exact all values ⟨item, member, inside⟩
  · rintro all values ⟨item, member, inside⟩
    exact all item member values inside

/-- An item whose `BOOLEAN` elements are already 0 or 1 is unchanged. -/
theorem normalize_eq_self {item : Item} (canonical : item.BooleansCanonical) :
    item.normalize = item := by
  induction item using induct with
  | array data =>
      cases data with
      | boolean values =>
          have elements := canonical values (by simp [boolean, parts])
          have same : values.map TypedArray.normalizeBoolean = values := by
            refine (List.map_congr_left fun byte member => ?_).trans (List.map_id _)
            rcases elements byte member with zero | one
            · simp [zero, TypedArray.normalizeBoolean]
            · simp [one, TypedArray.normalizeBoolean]
          simp [normalize, TypedArray.normalize, same]
      | _ => rfl
  | list items ih =>
      have inner := booleansCanonical_list.mp canonical
      have same : items.map normalize = items :=
        (List.map_congr_left fun item member => ih item member (inner item member)).trans
          (List.map_id _)
      rw [normalize, normalizeAll_eq_map, same]

end Item

end Ssim.Secs2
