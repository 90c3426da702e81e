import Mathlib.Data.Nat.Bitwise
import Mathlib.Tactic.Ring

/-!
# Big-endian byte strings

A natural number is stored in a fixed number of bytes, most significant byte
first, by shifting; it is loaded again by shifting the accumulated value left
and joining the next byte.  `WireElement` collects what a fixed-width element
type needs so that arrays of it can be stored and loaded element by element.
-/

namespace Ssim.Library.BigEndian

/-! ## One number -/

/-- The `width` big-endian bytes of `value`; higher bits are dropped. -/
def storeBe : Nat → Nat → List UInt8
  | 0, _ => []
  | width + 1, value => UInt8.ofNat (value >>> (width * 8)) :: storeBe width value

/-- One round of the loading loop: shift left and join the next byte. -/
def pushByte (value : Nat) (byte : UInt8) : Nat :=
  (value <<< 8) ||| byte.toNat

def loadBe (bytes : List UInt8) : Nat :=
  bytes.foldl pushByte 0

@[simp]
theorem storeBe_length (width value : Nat) : (storeBe width value).length = width := by
  induction width with
  | zero => rfl
  | succ width ih => simp [storeBe, ih]

theorem pushByte_eq (value : Nat) (byte : UInt8) :
    pushByte value byte = value * 256 + byte.toNat := by
  have small : byte.toNat < 2 ^ 8 := byte.toNat_lt
  rw [pushByte, ← Nat.shiftLeft_add_eq_or_of_lt small, Nat.shiftLeft_eq]

/-- Loading after an accumulated value scales that value by the bytes still to come. -/
theorem foldl_pushByte (bytes : List UInt8) (value : Nat) :
    bytes.foldl pushByte value = value * 256 ^ bytes.length + loadBe bytes := by
  induction bytes generalizing value with
  | nil => simp [loadBe]
  | cons byte rest ih =>
      simp only [List.foldl_cons, List.length_cons, loadBe]
      rw [ih (pushByte value byte), ih (pushByte 0 byte), pushByte_eq, pushByte_eq, pow_succ]
      ring

@[simp]
theorem loadBe_nil : loadBe [] = 0 := rfl

theorem loadBe_cons (byte : UInt8) (rest : List UInt8) :
    loadBe (byte :: rest) = byte.toNat * 256 ^ rest.length + loadBe rest := by
  have start : pushByte 0 byte = byte.toNat := by
    rw [pushByte_eq, Nat.zero_mul, Nat.zero_add]
  rw [loadBe, List.foldl_cons, start, foldl_pushByte]

theorem loadBe_lt (bytes : List UInt8) : loadBe bytes < 256 ^ bytes.length := by
  induction bytes with
  | nil => simp
  | cons byte rest ih =>
      have small : byte.toNat + 1 ≤ 256 := byte.toNat_lt
      have scaled := Nat.mul_le_mul_right (256 ^ rest.length) small
      rw [loadBe_cons, List.length_cons, pow_succ, Nat.mul_comm (256 ^ rest.length)]
      rw [Nat.add_mul, Nat.one_mul] at scaled
      omega

/-- What is loaded back is the stored number without its dropped high bits. -/
theorem loadBe_storeBe_mod (width value : Nat) :
    loadBe (storeBe width value) = value % 256 ^ width := by
  induction width with
  | zero => simp [storeBe, Nat.mod_one]
  | succ width ih =>
      have power : 2 ^ (width * 8) = 256 ^ width := by
        rw [Nat.mul_comm, Nat.pow_mul]
      have byte : (UInt8.ofNat (value >>> (width * 8))).toNat = value / 256 ^ width % 256 := by
        rw [UInt8.toNat_ofNat', Nat.shiftRight_eq_div_pow, power]
      rw [storeBe, loadBe_cons, ih, byte, storeBe_length, pow_succ, Nat.mod_mul]
      ring

theorem loadBe_storeBe {width value : Nat} (fits : value < 256 ^ width) :
    loadBe (storeBe width value) = value := by
  rw [loadBe_storeBe_mod, Nat.mod_eq_of_lt fits]

/-- Two byte strings of one length that load to the same number are equal. -/
theorem loadBe_injective {first second : List UInt8} (lengths : first.length = second.length)
    (values : loadBe first = loadBe second) : first = second := by
  induction first generalizing second with
  | nil => exact (List.length_eq_zero_iff.mp lengths.symm).symm
  | cons byte rest ih =>
      cases second with
      | nil => simp at lengths
      | cons other tail =>
          have sameLength : rest.length = tail.length := by simpa using lengths
          rw [loadBe_cons, loadBe_cons, sameLength] at values
          have restLt := loadBe_lt rest
          have tailLt := loadBe_lt tail
          rw [sameLength] at restLt
          have sameByte : byte.toNat = other.toNat := by
            have quotients := congrArg (· / 256 ^ tail.length) values
            simpa [Nat.mul_add_div (Nat.pow_pos (by decide : 0 < 256)), Nat.mul_comm,
              Nat.div_eq_of_lt restLt, Nat.div_eq_of_lt tailLt] using quotients
          have sameRest : loadBe rest = loadBe tail := by
            rw [sameByte] at values
            omega
          rw [UInt8.toNat_inj.mp sameByte, ih sameLength sameRest]

theorem storeBe_loadBe (bytes : List UInt8) : storeBe bytes.length (loadBe bytes) = bytes :=
  loadBe_injective (storeBe_length _ _) (loadBe_storeBe (loadBe_lt bytes))

/-! ## Fixed-width elements -/

/--
An element type of `width` bytes: its bit pattern as a natural number, and the
element a pattern stands for.  The two directions are inverse below `256 ^ width`.
-/
class WireElement (α : Type) where
  width : Nat
  width_pos : 0 < width
  toBits : α → Nat
  ofBits : Nat → α
  toBits_lt : ∀ value, toBits value < 256 ^ width
  ofBits_toBits : ∀ value, ofBits (toBits value) = value
  toBits_ofBits : ∀ bits, bits < 256 ^ width → toBits (ofBits bits) = bits

section Elements

variable {α : Type} [WireElement α]

def elementToBytes (value : α) : List UInt8 :=
  storeBe (WireElement.width α) (WireElement.toBits value)

def elementFromBytes (bytes : List UInt8) : α :=
  WireElement.ofBits (loadBe bytes)

@[simp]
theorem elementToBytes_length (value : α) :
    (elementToBytes value).length = WireElement.width α :=
  storeBe_length _ _

theorem elementFromBytes_elementToBytes (value : α) :
    elementFromBytes (elementToBytes value) = value := by
  rw [elementFromBytes, elementToBytes, loadBe_storeBe (WireElement.toBits_lt value),
    WireElement.ofBits_toBits]

theorem elementToBytes_elementFromBytes {bytes : List UInt8}
    (length : bytes.length = WireElement.width α) :
    elementToBytes (elementFromBytes bytes : α) = bytes := by
  have fits : loadBe bytes < 256 ^ WireElement.width α := length ▸ loadBe_lt bytes
  rw [elementToBytes, elementFromBytes, WireElement.toBits_ofBits _ fits, ← length,
    storeBe_loadBe]

/-- Store an array: its elements one after the other. -/
def appendArray (values : List α) : List UInt8 :=
  values.flatMap elementToBytes

/-- Load `count` elements from consecutive positions. -/
def collect : Nat → List UInt8 → List α
  | 0, _ => []
  | count + 1, bytes =>
      elementFromBytes (bytes.take (WireElement.width α)) ::
        collect count (bytes.drop (WireElement.width α))

@[simp]
theorem appendArray_length (values : List α) :
    (appendArray values).length = values.length * WireElement.width α := by
  induction values with
  | nil => simp [appendArray]
  | cons value rest ih =>
      simp only [appendArray, List.flatMap_cons, List.length_append, List.length_cons] at ih ⊢
      rw [ih, elementToBytes_length, Nat.add_mul, Nat.one_mul, Nat.add_comm]

theorem collect_appendArray (values : List α) (rest : List UInt8) :
    collect values.length (appendArray values ++ rest) = values := by
  induction values with
  | nil => rfl
  | cons value tail ih =>
      have split : appendArray (value :: tail) ++ rest =
          elementToBytes value ++ (appendArray tail ++ rest) := by
        simp [appendArray]
      have width : (elementToBytes value).length = WireElement.width α :=
        elementToBytes_length value
      rw [split, List.length_cons, collect, ← width, List.take_left, List.drop_left, ih,
        elementFromBytes_elementToBytes]

theorem appendArray_injective {values others : List α}
    (same : appendArray values = appendArray others) : values = others := by
  have lengths := congrArg List.length same
  rw [appendArray_length, appendArray_length] at lengths
  have counts := Nat.eq_of_mul_eq_mul_right (WireElement.width_pos (α := α)) lengths
  have loaded := collect_appendArray values []
  rw [same, counts, collect_appendArray] at loaded
  exact loaded.symm

theorem appendArray_collect (count : Nat) {bytes : List UInt8}
    (length : bytes.length = count * WireElement.width α) :
    appendArray (collect count bytes : List α) = bytes := by
  induction count generalizing bytes with
  | zero =>
      rw [Nat.zero_mul] at length
      rw [List.length_eq_zero_iff.mp length]
      rfl
  | succ count ih =>
      rw [Nat.add_mul, Nat.one_mul] at length
      have head : (bytes.take (WireElement.width α)).length = WireElement.width α := by
        rw [List.length_take, length]
        omega
      have tail : (bytes.drop (WireElement.width α)).length = count * WireElement.width α := by
        rw [List.length_drop, length]
        omega
      have unfolded : appendArray (collect (count + 1) bytes : List α) =
          elementToBytes (elementFromBytes (bytes.take (WireElement.width α)) : α) ++
            appendArray (collect count (bytes.drop (WireElement.width α)) : List α) := by
        simp [appendArray, collect]
      rw [unfolded, elementToBytes_elementFromBytes head, ih tail, List.take_append_drop]

end Elements

end Ssim.Library.BigEndian
