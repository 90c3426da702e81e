import Ssim.Secs2.TextDump

/-!
# The length of text dumps

A dump shows a part of an item capped when it shows at most so many of its elements,
with the note about the others.  Every format does but `BOOLEAN`, which shows all.  A
dump whose parts are all capped is bounded by the nesting of the item alone.
-/

namespace Ssim.Secs2

open Core Library.Numerals

mutual

/-- The item and the entries, at any depth, that a dump of it shows. -/
def Item.renderedParts : Item → List Item
  | .list items => .list items :: renderedEntries kDumpMaxElements items
  | .array data => [.array data]

def Item.renderedEntries (count : Nat) : List Item → List Item
  | [] => []
  | item :: items =>
      match count with
      | 0 => []
      | count + 1 => item.renderedParts ++ renderedEntries count items

end

theorem Item.mem_renderedEntries {count : Nat} {items : List Item} {part : Item} :
    part ∈ Item.renderedEntries count items ↔
      ∃ item ∈ items.take count, part ∈ item.renderedParts := by
  induction items generalizing count with
  | nil => simp [Item.renderedEntries]
  | cons item items ih =>
      cases count with
      | zero => simp [Item.renderedEntries]
      | succ count => simp [Item.renderedEntries, ih]

/-! ## Capped parts -/

section Caps

variable (formats : NumberFormats)

/-- The texts of all elements, characters or entries, one after the other. -/
def elementTexts : Item → List Text
  | .list items => items.map fun item => 32 :: item.toText formats
  | .array (.ascii text) => text.map escapeByte
  | .array (.binary values) => values.map fun byte => 32 :: (Text.ofString "0x" ++ hexText byte)
  | .array (.boolean values) => values.map fun byte => 32 :: booleanText byte
  | .array (.i1 values) => values.map fun value => 32 :: appendNumber (signedNumeral value.toInt)
  | .array (.i2 values) => values.map fun value => 32 :: appendNumber (signedNumeral value.toInt)
  | .array (.i4 values) => values.map fun value => 32 :: appendNumber (signedNumeral value.toInt)
  | .array (.i8 values) => values.map fun value => 32 :: appendNumber (signedNumeral value.toInt)
  | .array (.u1 values) => values.map fun value => 32 :: appendNumber (numeral 10 value.toNat)
  | .array (.u2 values) => values.map fun value => 32 :: appendNumber (numeral 10 value.toNat)
  | .array (.u4 values) => values.map fun value => 32 :: appendNumber (numeral 10 value.toNat)
  | .array (.u8 values) => values.map fun value => 32 :: appendNumber (numeral 10 value.toNat)
  | .array (.f4 values) => values.map fun value => 32 :: appendNumber (formats.f4 value)
  | .array (.f8 values) => values.map fun value => 32 :: appendNumber (formats.f8 value)

/-- How many elements, characters or entries a dump may show. -/
def dumpLimit : Item → Nat
  | .array (.ascii _) => kDumpMaxChars
  | _ => kDumpMaxElements

/-- What a dump says where it does not show everything. -/
def noteOf : Item → Text
  | .array (.ascii _) => Text.ofString "..."
  | .list items => cutNote items.length (Text.ofString " entries)")
  | .array data => cutNote data.count (Text.ofString " total)")

def opening : Item → Text
  | .list items =>
      60 :: (Format.list.name ++ Text.ofString " [" ++ sizeText items.length ++ Text.ofString "]")
  | .array (.ascii text) => 60 :: ((TypedArray.ascii text).format.name ++ [32, 34])
  | .array data => 60 :: data.format.name

def closing : Item → Text
  | .array (.ascii _) => [34, 62]
  | _ => [62]

/-- The dump shows some front of the elements within the limit, then the note if there are
more. -/
def Capped (item : Item) : Prop :=
  ∃ shown ≤ dumpLimit item,
    item.toText formats =
      opening item ++ ((elementTexts formats item).take shown).flatten ++
        (if shown < (elementTexts formats item).length then noteOf item else []) ++ closing item

end Caps

theorem shown_eq {α : Type} (render : α → Text) (values : List α) (limit : Nat) (note : Text) :
    (values.take limit).flatMap render ++ (if limit < values.length then note else []) =
      ((values.map render).take limit).flatten ++
        (if limit < (values.map render).length then note else []) := by
  rw [List.flatMap_def, List.map_take, List.length_map]

section Capped

variable {formats : NumberFormats}

theorem capped_list (items : List Item) : Capped formats (.list items) := by
  refine ⟨kDumpMaxElements, Nat.le_refl _, ?_⟩
  have shown := shown_eq (fun item => 32 :: appendItem formats item) items kDumpMaxElements
    (cutNote items.length (Text.ofString " entries)"))
  simp only [Item.toText, appendItem, appendEntries_eq_flatMap, opening, closing, noteOf,
    elementTexts, List.cons_append, List.append_assoc] at shown ⊢
  rw [← List.append_assoc (List.flatMap _ _), shown]
  simp only [List.append_assoc]
  rfl

theorem capped_array {data : TypedArray} (other : data.format ≠ .boolean) :
    Capped formats (.array data) := by
  refine ⟨dumpLimit (.array data), Nat.le_refl _, ?_⟩
  cases data with
  | boolean values => exact absurd rfl other
  | ascii text =>
      have shown := shown_eq escapeByte text kDumpMaxChars (Text.ofString "...")
      simp only [Item.toText, appendItem, appendData, appendAscii, opening, closing, noteOf,
        elementTexts, dumpLimit, List.cons_append, List.append_assoc] at shown ⊢
      rw [← List.append_assoc (List.flatMap _ _), shown]
      simp
  | _ =>
      simp only [Item.toText, appendItem, appendData, appendArray, appendBinary, appendShown,
        shown_eq, opening, closing, noteOf, elementTexts, dumpLimit, TypedArray.count,
        List.cons_append, List.append_assoc]
      rfl

/-- No element of a `BOOLEAN` array looks like the start of a note. -/
theorem booleanText_ne_note (byte : UInt8) (rest : Text) (count : Nat) (unit : Text) :
    32 :: booleanText byte ++ rest ≠ cutNote count unit := by
  unfold booleanText cutNote
  split
  · simp [Text.ofString]
  · simp [Text.ofString]

theorem capped_boolean {values : List UInt8} :
    Capped formats (Item.boolean values) ↔ values.length ≤ kDumpMaxElements := by
  constructor
  · rintro ⟨shown, within, same⟩
    by_contra long
    have fewer : shown < values.length := Nat.lt_of_le_of_lt within (Nat.lt_of_not_le long)
    -- What is left of the elements would have to be the note.
    simp only [Item.boolean, Item.toText, appendItem, appendData, appendBoolean, opening, closing,
      noteOf, elementTexts, List.length_map, if_pos fewer, List.cons_append, List.append_assoc,
      List.cons.injEq, true_and, List.append_cancel_left_eq, List.flatMap_def] at same
    rw [← List.append_assoc (List.flatten _), List.append_cancel_right_eq] at same
    have whole := congrArg List.flatten
      (List.take_append_drop shown (values.map fun byte => 32 :: booleanText byte))
    rw [← whole, List.flatten_append, List.append_cancel_left_eq, ← List.map_drop,
      List.drop_eq_getElem_cons fewer, List.map_cons, List.flatten_cons] at same
    exact booleanText_ne_note _ _ _ _ same
  · intro short
    refine ⟨kDumpMaxElements, Nat.le_refl _, ?_⟩
    simp only [Item.boolean, Item.toText, appendItem, appendData, appendBoolean, opening, closing,
      elementTexts, List.length_map, if_neg (Nat.not_lt.mpr short), List.append_nil,
      List.take_of_length_le (show (values.map _).length ≤ kDumpMaxElements by simpa using short),
      List.flatMap_def, List.cons_append]

end Capped

/-! ## Lengths -/

theorem flatMap_length_le {α : Type} {values : List α} {render : α → Text} {bound : Nat}
    (each : ∀ value ∈ values, (render value).length ≤ bound) :
    (values.flatMap render).length ≤ values.length * bound := by
  induction values with
  | nil => simp
  | cons value values ih =>
      have head := each value List.mem_cons_self
      have tail := ih fun other member => each other (List.mem_cons_of_mem _ member)
      rw [List.flatMap_cons, List.length_append, List.length_cons, Nat.succ_mul]
      omega

/-- A dump shows at most `limit` values, so it is as long as that many of them. -/
theorem flatMap_take_length_le {α : Type} {values : List α} {render : α → Text}
    {bound : Nat} (limit : Nat)
    (each : ∀ value ∈ values.take limit, (render value).length ≤ bound) :
    ((values.take limit).flatMap render).length ≤ limit * bound :=
  Nat.le_trans (flatMap_length_le each)
    (Nat.mul_le_mul_right bound (List.length_take_le limit values))

theorem sizeText_length_le (size : Nat) : (sizeText size).length ≤ 20 :=
  numeral_length_le (by decide) (by decide) (by omega)

theorem escapeByte_length_le (byte : UInt8) : (escapeByte byte).length ≤ 4 := by
  unfold escapeByte
  split
  · simp
  · split <;> simp [hexText]

theorem appendNumber_length_le (printed : Text) : (appendNumber printed).length ≤ 39 :=
  List.length_take_le 39 printed

theorem booleanText_length_le (byte : UInt8) : (booleanText byte).length ≤ 5 := by
  unfold booleanText
  split <;> decide

theorem cutNote_length_le (count : Nat) (unit : Text) :
    (cutNote count unit).length ≤ 26 + unit.length := by
  have size := sizeText_length_le count
  have front : (Text.ofString " ... (").length = 6 := by decide
  rw [cutNote, List.length_append, List.length_append]
  omega

theorem note_length_le {condition : Prop} [Decidable condition] (note : Text) :
    (if condition then note else []).length ≤ note.length := by
  split <;> simp

theorem appendShown_length_le {α : Type} {element : α → Text} {unit : Text} {bound : Nat}
    (values : List α) (each : ∀ value, (element value).length ≤ bound) :
    (appendShown element unit values).length ≤ 16 * (bound + 1) + (26 + unit.length) := by
  unfold appendShown
  rw [List.length_append]
  refine Nat.add_le_add ?_ (Nat.le_trans (note_length_le _) (cutNote_length_le _ unit))
  refine flatMap_take_length_le 16 fun value _ => ?_
  rw [List.length_cons]
  exact Nat.succ_le_succ (each value)

theorem appendArray_length_le {α : Type} (printed : α → Text) (values : List α) :
    (appendArray printed values).length ≤ 673 := by
  have unit : (Text.ofString " total)").length = 7 := by decide
  have shown := @appendShown_length_le α (fun value => appendNumber (printed value))
    (Text.ofString " total)") 39 values fun value => appendNumber_length_le _
  unfold appendArray
  omega

theorem appendBinary_length_le (values : List UInt8) : (appendBinary values).length ≤ 673 := by
  have unit : (Text.ofString " total)").length = 7 := by decide
  have shown := @appendShown_length_le UInt8 (fun byte => Text.ofString "0x" ++ hexText byte)
    (Text.ofString " total)") 4 values fun byte => Nat.le_refl 4
  unfold appendBinary
  omega

theorem appendAscii_length_le (text : Text) : (appendAscii text).length ≤ 261 := by
  have shown := @flatMap_take_length_le UInt8 text escapeByte 4 kDumpMaxChars
    fun byte _ => escapeByte_length_le byte
  have note := @note_length_le (kDumpMaxChars < text.length) _ (Text.ofString "...")
  have dots : (Text.ofString "...").length = 3 := by decide
  have limit : kDumpMaxChars = 64 := rfl
  rw [appendAscii, List.length_cons, List.length_append, List.length_append]
  simp only [List.length_singleton]
  omega

theorem appendBoolean_length_le {values : List UInt8} (short : values.length ≤ kDumpMaxElements) :
    (appendBoolean values).length ≤ 96 := by
  have shown := @flatMap_length_le UInt8 values (fun byte => 32 :: booleanText byte) 6
    fun byte _ => Nat.succ_le_succ (booleanText_length_le byte)
  have limit : kDumpMaxElements = 16 := rfl
  unfold appendBoolean
  omega

theorem formatName_length_le (format : Format) :
    format.name.length ≤ if format = .boolean then 7 else 2 := by
  cases format <;> decide

/-- The dump of an array is bounded, a `BOOLEAN` one if it is short. -/
theorem array_length_le (formats : NumberFormats) {data : TypedArray}
    (short : ∀ values, data = .boolean values → values.length ≤ kDumpMaxElements) :
    (Item.toText formats (.array data)).length ≤ 677 := by
  have name := formatName_length_le data.format
  have body : (if data.format = .boolean then 7 else 2) + (appendData formats data).length ≤
      675 := by
    cases data with
    | boolean values =>
        have bound := appendBoolean_length_le (short values rfl)
        simp only [TypedArray.format, if_true, appendData]
        omega
    | ascii text =>
        have bound := appendAscii_length_le text
        simp [TypedArray.format, appendData]
        omega
    | binary values => exact Nat.add_le_add_left (appendBinary_length_le values) 2
    | _ => exact Nat.add_le_add_left (appendArray_length_le _ _) 2
  simp only [Item.toText, appendItem, List.length_cons, List.length_append, List.length_nil]
  omega

/-- The longest a dump of an item with so many lists inside one another can be. -/
def dumpBound : (nesting : Nat) → Nat
  | 0 => 677
  | nesting + 1 => 16 * (dumpBound nesting + 1) + 61

theorem dumpBound_mono {first second : Nat} (le : first ≤ second) :
    dumpBound first ≤ dumpBound second := by
  induction le with
  | refl => exact Nat.le_refl _
  | step le ih =>
      rw [dumpBound]
      omega

/-- Every `BOOLEAN` array that a dump shows is short enough to be shown whole. -/
def BooleansShort (item : Item) : Prop :=
  ∀ values, Item.boolean values ∈ item.renderedParts → values.length ≤ kDumpMaxElements

theorem booleansShort_entry {items : List Item} (short : BooleansShort (.list items)) :
    ∀ item ∈ items.take kDumpMaxElements, BooleansShort item := by
  intro item member values inside
  refine short values ?_
  rw [Item.renderedParts]
  exact List.mem_cons_of_mem _ (Item.mem_renderedEntries.mpr ⟨item, member, inside⟩)

theorem list_length_le (formats : NumberFormats) {items : List Item} {bound : Nat}
    (each : ∀ item ∈ items.take kDumpMaxElements, (item.toText formats).length ≤ bound) :
    (Item.toText formats (.list items)).length ≤ 16 * (bound + 1) + 61 := by
  have entries : ((items.take kDumpMaxElements).flatMap
      fun item => 32 :: appendItem formats item).length ≤ 16 * (bound + 1) :=
    flatMap_take_length_le 16 fun item member => Nat.succ_le_succ (each item member)
  have size := sizeText_length_le items.length
  have note := Nat.le_trans
    (@note_length_le (kDumpMaxElements < items.length) _
      (cutNote items.length (Text.ofString " entries)")))
    (cutNote_length_le items.length (Text.ofString " entries)"))
  have fixed : Format.list.name.length = 1 ∧ (Text.ofString " [").length = 2 ∧
      (Text.ofString "]").length = 1 ∧ (Text.ofString " entries)").length = 9 := by decide
  simp only [Item.toText, appendItem, appendEntries_eq_flatMap, List.length_cons,
    List.length_append, List.length_nil]
  omega

theorem toText_length_le (formats : NumberFormats) {item : Item} (short : BooleansShort item) :
    (item.toText formats).length ≤ dumpBound item.nesting := by
  induction item using Item.induct with
  | array data =>
      refine array_length_le formats fun values same => short values ?_
      rw [same, Item.renderedParts]
      exact List.mem_singleton_self _
  | list items ih =>
      refine list_length_le formats fun item member => ?_
      have shown := List.mem_of_mem_take member
      have inside := Item.nestingAll_le.mp (Nat.le_refl _) item shown
      exact Nat.le_trans (ih item shown (booleansShort_entry short item member))
        (dumpBound_mono inside)

/-- Every part is shown capped, and the whole is bounded by the nesting. -/
structure DumpBounded (formats : NumberFormats) (item : Item) : Prop where
  parts : ∀ part ∈ item.renderedParts, Capped formats part
  length : (item.toText formats).length ≤ dumpBound item.nesting

/-- A dump is bounded exactly if every `BOOLEAN` array it shows has at most 16 elements. -/
theorem dumpBounded_iff (formats : NumberFormats) (item : Item) :
    DumpBounded formats item ↔
      ∀ values, Item.boolean values ∈ item.renderedParts → values.length ≤ kDumpMaxElements := by
  constructor
  · intro bounded values inside
    exact capped_boolean.mp (bounded.parts _ inside)
  · intro short
    refine ⟨fun part inside => ?_, toText_length_le formats short⟩
    cases part with
    | list items => exact capped_list items
    | array data =>
        cases data with
        | boolean values => exact capped_boolean.mpr (short values inside)
        | _ => exact capped_array (by simp [TypedArray.format])

theorem appendBoolean_replicate_length (count : Nat) :
    (appendBoolean (List.replicate count 1)).length = 5 * count := by
  induction count with
  | zero => rfl
  | succ count ih =>
      have head : (32 :: booleanText 1).length = 5 := by decide
      rw [appendBoolean, List.replicate_succ, List.flatMap_cons, List.length_append, head]
      rw [appendBoolean] at ih
      omega

/-- The dump of a `BOOLEAN` array grows with the array, and seventeen elements are too many. -/
theorem boolean_dump_unbounded :
    (¬∀ formats : NumberFormats, ∃ bound, ∀ item : Item, item.isList = false →
      (item.toText formats).length ≤ bound) ∧
      ¬DumpBounded ⟨fun _ => [], fun _ => []⟩ (Item.boolean (List.replicate 17 1)) := by
  constructor
  · intro bounded
    obtain ⟨bound, all⟩ := bounded ⟨fun _ => [], fun _ => []⟩
    have long := all (Item.boolean (List.replicate (bound + 1) 1)) rfl
    have body := appendBoolean_replicate_length (bound + 1)
    simp only [Item.boolean, Item.toText, appendItem, appendData, List.length_cons,
      List.length_append, List.length_nil] at long
    omega
  · intro bounded
    have capped := bounded.parts (Item.boolean (List.replicate 17 1)) (List.mem_singleton_self _)
    have short := capped_boolean.mp capped
    rw [List.length_replicate] at short
    exact absurd short (by decide)

end Ssim.Secs2
