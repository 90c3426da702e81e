import Ssim.Core.Controller
import Ssim.Library.Rounding

/-!
# JSON values

A parsed document: an object is a map from keys to values, and a number is held as a
signed, an unsigned or a floating-point number.  A conversion to an arithmetic type
converts between these with a C++ cast; what such a cast leaves open is a parameter.
-/

namespace Ssim.Core

open Library.Rounding

inductive Json where
  | null
  | boolean (value : Bool)
  | integer (value : Int64)
  | unsigned (value : UInt64)
  | float (value : Binary64)
  | string (text : Text)
  | array (items : List Json)
  | object (entries : List (Text × Json))

namespace Json

def isObject : Json → Bool
  | object _ => true
  | _ => false

/-- The keys of an object, in the order of the map. -/
def keys : Json → List Text
  | object entries => entries.map Prod.fst
  | _ => []

/-- The value at a key; only an object contains any. -/
def find? (json : Json) (key : Text) : Option Json :=
  match json with
  | object entries => (entries.find? fun entry => entry.1 = key).map Prod.snd
  | _ => none

/-- The number that the value is. -/
def number? : Json → Option ℚ
  | integer value => some value.toInt
  | unsigned value => some value.toNat
  | float value => some value.value
  | _ => none

end Json

/-- What the JSON library and the C++ casts add. -/
structure JsonLibrary where
  /-- `what()` of the exception for a value that is not of the expected type. -/
  typeError : (expected : Text) → Json → Text
  /-- A conversion of a boolean to an `int` that does not throw. -/
  intOfBoolean : Bool → Option Int32
  /-- The casts of a `double` out of the range of the type. -/
  intOfDouble : Binary64 → Int32
  sizeOfDouble : Binary64 → UInt64
  /-- `operator<<` of a `double`. -/
  shown : Binary64 → Text

/-- Casts as the common processors do them; nothing is shown. -/
def sampleLibrary : JsonLibrary where
  typeError _ _ := []
  intOfBoolean value := some (if value then 1 else 0)
  intOfDouble _ := Int32.minValue
  sizeOfDouble _ := 9223372036854775808
  shown _ := []

/-- Towards zero. -/
def truncate (x : ℚ) : Int := if 0 ≤ x then ⌊x⌋ else ⌈x⌉

section Get

variable (library : JsonLibrary)

def getString : Json → Except Text Text
  | .string text => .ok text
  | json => .error (library.typeError (Text.ofString "string") json)

def getBool : Json → Except Text Bool
  | .boolean value => .ok value
  | json => .error (library.typeError (Text.ofString "boolean") json)

def getDouble : Json → Except Text Binary64
  | .integer value => .ok (Binary64.ofRat value.toInt)
  | .unsigned value => .ok (Binary64.ofRat value.toNat)
  | .float value => .ok value
  | json => .error (library.typeError (Text.ofString "number") json)

/-- `get<int>()`: an integer out of range wraps. -/
def getInt : Json → Except Text Int32
  | .integer value => .ok (Int32.ofInt value.toInt)
  | .unsigned value => .ok (Int32.ofInt value.toNat)
  | .float value =>
      let truncated := truncate value.value
      if -2 ^ 31 ≤ truncated ∧ truncated < 2 ^ 31 then .ok (Int32.ofInt truncated)
      else .ok (library.intOfDouble value)
  | .boolean value =>
      match library.intOfBoolean value with
      | some number => .ok number
      | none => .error (library.typeError (Text.ofString "number") (.boolean value))
  | json => .error (library.typeError (Text.ofString "number") json)

/-- `get<std::uint64_t>()` and `get<std::size_t>()`. -/
def getSize : Json → Except Text UInt64
  | .integer value => .ok (UInt64.ofInt value.toInt)
  | .unsigned value => .ok value
  | .float value =>
      let truncated := truncate value.value
      if 0 ≤ truncated ∧ truncated < 2 ^ 64 then .ok (UInt64.ofInt truncated)
      else .ok (library.sizeOfDouble value)
  | json => .error (library.typeError (Text.ofString "number") json)

end Get

end Ssim.Core
