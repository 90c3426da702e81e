import Ssim.Secs2.Item

/-!
# Accessors of an item

`as_list`, `as_ascii` and `as_array` read the alternative of the variant they name, and
throw when the item holds another one.  `Binary`, `BOOLEAN` and `U1` items all hold a
vector of bytes; `F4` and `F8` items hold floating-point vectors, which no reader here
asks for.
-/

namespace Ssim.Secs2

open Ssim.Core (Error Result)

/-- What ends the caller: a wrong alternative, an index past the end, an empty optional. -/
inductive Thrown where
  | badVariantAccess
  | outOfRange
  | badOptionalAccess
  deriving Repr, DecidableEq

/-- A computation whose accesses may throw. -/
abbrev Access := Except Thrown

namespace Access

variable {α β : Type}

@[simp]
theorem ok_bind (value : α) (rest : α → Access β) : (Except.ok value >>= rest) = rest value :=
  rfl

@[simp]
theorem pure_eq (value : α) : (pure value : Access α) = .ok value :=
  rfl

/-- `operator[]` of a vector. -/
def element (values : List α) (index : Nat) : Access α :=
  match values[index]? with
  | some value => .ok value
  | none => .error .outOfRange

@[simp]
theorem element_zero (value : α) (values : List α) : element (value :: values) 0 = .ok value :=
  rfl

@[simp]
theorem element_succ (value : α) (values : List α) (index : Nat) :
    element (value :: values) (index + 1) = element values index := by
  simp [element]

/-- `operator*` of an optional. -/
def deref : Option α → Access α
  | some value => .ok value
  | none => .error .badOptionalAccess

@[simp]
theorem deref_some (value : α) : deref (some value) = .ok value :=
  rfl

/-- `Result::value`. -/
def value : Result α → Access α
  | .ok value => .ok value
  | .error _ => .error .badVariantAccess

@[simp]
theorem value_ok (found : α) : value (.ok found) = .ok found :=
  rfl

end Access

/-- The vector of `α` that an array keeps, if that is its alternative. -/
class StoredElement (α : Type) where
  held : TypedArray → Option (List α)

instance : StoredElement UInt8 where
  held
    | .binary values | .boolean values | .u1 values => some values
    | _ => none

instance : StoredElement UInt16 where
  held
    | .u2 values => some values
    | _ => none

instance : StoredElement UInt32 where
  held
    | .u4 values => some values
    | _ => none

instance : StoredElement UInt64 where
  held
    | .u8 values => some values
    | _ => none

instance : StoredElement Int8 where
  held
    | .i1 values => some values
    | _ => none

instance : StoredElement Int16 where
  held
    | .i2 values => some values
    | _ => none

instance : StoredElement Int32 where
  held
    | .i4 values => some values
    | _ => none

instance : StoredElement Int64 where
  held
    | .i8 values => some values
    | _ => none

namespace Item

def asList : Item → Access (List Item)
  | list items => .ok items
  | array _ => .error .badVariantAccess

def asAscii : Item → Access (List UInt8)
  | array (.ascii text) => .ok text
  | _ => .error .badVariantAccess

def asArray (α : Type) [StoredElement α] : Item → Access (List α)
  | list _ => .error .badVariantAccess
  | array data =>
      match StoredElement.held data with
      | some values => .ok values
      | none => .error .badVariantAccess

@[simp]
theorem asList_list (items : List Item) : (list items).asList = .ok items :=
  rfl

@[simp]
theorem asAscii_ascii (text : List UInt8) : (array (.ascii text)).asAscii = .ok text :=
  rfl

@[simp]
theorem asArray_binary (values : List UInt8) :
    (array (.binary values)).asArray UInt8 = .ok values :=
  rfl

end Item

end Ssim.Secs2
