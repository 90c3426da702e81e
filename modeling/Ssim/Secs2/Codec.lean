import Ssim.Library.PrefixParser
import Ssim.Secs2.Item

/-!
# The SECS-II item codec

An item starts with a header: a format byte, which is the format code shifted
left twice joined with the number of length bytes, and the big-endian length.
For a list the length counts entries, otherwise data bytes.  The decoder's
reader is the list of the bytes still to be read.
-/

namespace Ssim.Secs2

open Ssim.Core (Error Result)
open Library.BigEndian
open Library.PrefixParser (repeatCount)

def kErrTruncated : Nat := 300
def kErrBadLengthBytes : Nat := 301
def kErrUnsupportedFormat : Nat := 302
def kErrBadLength : Nat := 303
def kErrListCountTooLarge : Nat := 304
def kErrTooDeep : Nat := 305
def kErrTrailingBytes : Nat := 306
def kErrTooLong : Nat := 307

/-- At most 32 lists inside one another. -/
def kMaxNestingDepth : Nat := 32

/-- Largest value three length bytes can hold. -/
def kMaxItemLength : Nat := 0xFFFFFF

def parseFormat : Nat → Result Format
  | 0x00 => .ok .list
  | 0x08 => .ok .binary
  | 0x09 => .ok .boolean
  | 0x10 => .ok .ascii
  | 0x18 => .ok .i8
  | 0x19 => .ok .i1
  | 0x1A => .ok .i2
  | 0x1C => .ok .i4
  | 0x20 => .ok .f8
  | 0x24 => .ok .f4
  | 0x28 => .ok .u8
  | 0x29 => .ok .u1
  | 0x2A => .ok .u2
  | 0x2C => .ok .u4
  | 0x11 => .error ⟨kErrUnsupportedFormat, "JIS-8 items are not supported"⟩
  | _ => .error ⟨kErrUnsupportedFormat, "unknown SECS-II format code"⟩

/-! ## Decoding -/

/-- The array a format and its data bytes stand for. -/
def buildArray (format : Format) (bytes : List UInt8) : Item :=
  let n := bytes.length / elementSize format
  match format with
  | .binary => .array (.binary bytes)
  | .boolean => .array (.boolean bytes)
  | .ascii => .array (.ascii bytes)
  | .u1 => .array (.u1 bytes)
  | .i1 => .array (.i1 (collect n bytes))
  | .i2 => .array (.i2 (collect n bytes))
  | .i4 => .array (.i4 (collect n bytes))
  | .i8 => .array (.i8 (collect n bytes))
  | .u2 => .array (.u2 (collect n bytes))
  | .u4 => .array (.u4 (collect n bytes))
  | .u8 => .array (.u8 (collect n bytes))
  | .f4 => .array (.f4 (collect n bytes))
  | .f8 => .array (.f8 (collect n bytes))
  | .list | .jis8 => .list []

/-- The format byte and the length field at the front of an item. -/
def decodeHeader : List UInt8 → Result ((Format × Nat) × List UInt8)
  | [] => .error ⟨kErrTruncated, "no item header"⟩
  | formatByte :: reader =>
      let lengthBytes := formatByte.toNat &&& 0x03
      if lengthBytes = 0 then
        .error ⟨kErrBadLengthBytes, "item header has zero length bytes"⟩
      else
        match parseFormat (formatByte.toNat >>> 2) with
        | .error reason => .error reason
        | .ok format =>
            if lengthBytes > reader.length then
              .error ⟨kErrTruncated, "item length is cut off"⟩
            else
              .ok ((format, loadBe (reader.take lengthBytes)), reader.drop lengthBytes)

/-- The data of a non-list item of `length` bytes. -/
def decodeData (format : Format) (length : Nat) (reader : List UInt8) :
    Result (Item × List UInt8) :=
  if length > reader.length then
    .error ⟨kErrTruncated, "item data is cut off"⟩
  else if length % elementSize format ≠ 0 then
    .error ⟨kErrBadLength, "item length is not a multiple of its element size"⟩
  else
    .ok (buildArray format (reader.take length), reader.drop length)

/-- The entries of a list of `length` items, each read by `child`. -/
def decodeEntries (child : List UInt8 → Result (Item × List UInt8)) (length : Nat)
    (reader : List UInt8) : Result (Item × List UInt8) :=
  -- Every item needs a format byte and a length byte, so more entries than
  -- half the remaining bytes cannot be there.
  if length > reader.length / 2 then
    .error ⟨kErrListCountTooLarge, "list count exceeds the bytes that remain"⟩
  else
    match repeatCount child length reader with
    | .error reason => .error reason
    | .ok (items, reader) => .ok (.list items, reader)

/-- Read one item, with `entries` reading the entries of a list once its count is known. -/
def decodeWith (entries : Nat → List UInt8 → Result (Item × List UInt8))
    (reader : List UInt8) : Result (Item × List UInt8) :=
  match decodeHeader reader with
  | .error reason => .error reason
  | .ok ((format, length), reader) =>
      if format = .list then
        entries length reader
      else
        decodeData format length reader

/--
`decode_at_depth` by the nesting levels that are still allowed, which is
`kMaxNestingDepth - depth`: a list at no remaining level is too deep.
-/
def decodeLevels : Nat → List UInt8 → Result (Item × List UInt8)
  | 0 => decodeWith fun _ _ => .error ⟨kErrTooDeep, "list nesting deeper than 32"⟩
  | levels + 1 => decodeWith (decodeEntries (decodeLevels levels))

def decodeAtDepth (depth : Nat) : List UInt8 → Result (Item × List UInt8) :=
  decodeLevels (kMaxNestingDepth - depth)

structure Decoded where
  item : Item
  consumed : Nat
  deriving DecidableEq

/-- The first item and the number of bytes it used; what follows is left alone. -/
def decodeItem (bytes : List UInt8) : Result Decoded :=
  match decodeAtDepth 0 bytes with
  | .error reason => .error reason
  | .ok (item, reader) => .ok ⟨item, bytes.length - reader.length⟩

/-- A whole message body: exactly one item. -/
def decodeBody (bytes : List UInt8) : Result Item :=
  match decodeItem bytes with
  | .error reason => .error reason
  | .ok decoded =>
      if decoded.consumed ≠ bytes.length then
        .error ⟨kErrTrailingBytes, "bytes left after the item"⟩
      else
        .ok decoded.item

/-! ## Encoding -/

def formatByte (format : Format) (lengthBytes : Nat) : UInt8 :=
  UInt8.ofNat ((format.code <<< 2) ||| lengthBytes)

/-- The fewest length bytes that hold `length`. -/
def lengthBytesFor (length : Nat) : Nat :=
  if length > 0xFFFF then 3 else if length > 0xFF then 2 else 1

def encodeHeader (format : Format) (length : Nat) (out : List UInt8) : Result (List UInt8) :=
  if length > kMaxItemLength then
    .error ⟨kErrTooLong, "item too long for three length bytes"⟩
  else
    let lengthBytes := lengthBytesFor length
    .ok (out ++ formatByte format lengthBytes :: storeBe lengthBytes length)

/-- The data bytes as they are emitted: a `BOOLEAN` element is written as 0 or 1. -/
def emitData : TypedArray → List UInt8
  | .ascii text => text
  | .binary values | .u1 values => values
  | .boolean values => values.map fun byte => if byte ≠ 0 then 1 else 0
  | .i1 values => appendArray values
  | .i2 values => appendArray values
  | .i4 values => appendArray values
  | .i8 values => appendArray values
  | .u2 values => appendArray values
  | .u4 values => appendArray values
  | .u8 values => appendArray values
  | .f4 values => appendArray values
  | .f8 values => appendArray values

mutual

def encodeAtDepth (item : Item) (depth : Nat) (out : List UInt8) : Result (List UInt8) :=
  match item with
  | .list items =>
      if depth ≥ kMaxNestingDepth then
        .error ⟨kErrTooDeep, "list nesting deeper than 32"⟩
      else
        match encodeHeader .list items.length out with
        | .error reason => .error reason
        | .ok out => encodeEntries items (depth + 1) out
  | .array data =>
      if isSupported data.format = false then
        .error ⟨kErrUnsupportedFormat, "cannot encode this format"⟩
      else
        match encodeHeader data.format (data.count * elementSize data.format) out with
        | .error reason => .error reason
        | .ok out => .ok (out ++ emitData data)

def encodeEntries (items : List Item) (depth : Nat) (out : List UInt8) : Result (List UInt8) :=
  match items with
  | [] => .ok out
  | child :: items =>
      match encodeAtDepth child depth out with
      | .error reason => .error reason
      | .ok out => encodeEntries items depth out

end

def encode (item : Item) : Result (List UInt8) :=
  encodeAtDepth item 0 []

end Ssim.Secs2
