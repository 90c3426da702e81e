import Mathlib.Data.List.Forall2
import Ssim.Secs2.Grammar

/-!
# SECS-II round trip

`wireBytes` is the encoding of an item as a byte string of its own, with no
output buffer and no limits.  The encoder succeeds exactly within the limits and
then appends it, and within the limits it derives the normalized item in the
grammar, so the decoder reads it back whatever follows.
-/

namespace Ssim.Secs2

open Library.BigEndian

def wireHeader (format : Format) (length : Nat) : List UInt8 :=
  formatByte format (lengthBytesFor length) :: storeBe (lengthBytesFor length) length

mutual

def wireBytes : Item → List UInt8
  | .list items => wireHeader .list items.length ++ wireBytesAll items
  | .array data => wireHeader data.format (data.count * elementSize data.format) ++ emitData data

def wireBytesAll : List Item → List UInt8
  | [] => []
  | item :: items => wireBytes item ++ wireBytesAll items

end

/-! ## The encoder appends the wire bytes -/

theorem encodeHeader_eq_ok {format : Format} {length : Nat} {out result : List UInt8} :
    encodeHeader format length out = .ok result ↔
      length ≤ kMaxItemLength ∧ result = out ++ wireHeader format length := by
  unfold encodeHeader
  split
  · constructor
    · intro found
      cases found
    · rintro ⟨within, _⟩
      omega
  · constructor
    · intro found
      exact ⟨by omega, (Except.ok.inj found).symm⟩
    · rintro ⟨_, rfl⟩
      rfl

theorem encodeEntries_eq_ok {items : List Item} {depth : Nat}
    (each : ∀ item ∈ items, ∀ out result, encodeAtDepth item depth out = .ok result ↔
      depth + item.nesting ≤ kMaxNestingDepth ∧ item.LengthsWithin kMaxItemLength ∧
        result = out ++ wireBytes item) (out result : List UInt8) :
    encodeEntries items depth out = .ok result ↔
      (∀ item ∈ items, depth + item.nesting ≤ kMaxNestingDepth ∧
        item.LengthsWithin kMaxItemLength) ∧ result = out ++ wireBytesAll items := by
  induction items generalizing out with
  | nil =>
      rw [encodeEntries, wireBytesAll, List.append_nil]
      exact ⟨fun found => ⟨by simp, (Except.ok.inj found).symm⟩, fun ⟨_, same⟩ => by rw [same]⟩
  | cons child items ih =>
      have first := each child List.mem_cons_self
      have rest := ih fun item member => each item (List.mem_cons_of_mem child member)
      rw [encodeEntries, List.forall_mem_cons, wireBytesAll, ← List.append_assoc]
      constructor
      · intro found
        split at found
        · cases found
        next middle here =>
          obtain ⟨nesting, lengths, rfl⟩ := (first out middle).mp here
          obtain ⟨others, same⟩ := (rest _).mp found
          exact ⟨⟨⟨nesting, lengths⟩, others⟩, same⟩
      · rintro ⟨⟨⟨nesting, lengths⟩, others⟩, same⟩
        rw [(first out _).mpr ⟨nesting, lengths, rfl⟩]
        exact (rest _).mpr ⟨others, same⟩

/-- The encoder's limits are the nesting and length limits, and its output is appended. -/
theorem encodeAtDepth_eq_ok (item : Item) {depth : Nat} (within : depth ≤ kMaxNestingDepth)
    (out result : List UInt8) :
    encodeAtDepth item depth out = .ok result ↔
      depth + item.nesting ≤ kMaxNestingDepth ∧ item.LengthsWithin kMaxItemLength ∧
        result = out ++ wireBytes item := by
  induction item using Item.induct generalizing depth out result with
  | array data =>
      rw [encodeAtDepth, if_neg (by simp [data.format_supported]), Item.lengthsWithin_array,
        Item.nesting, wireBytes, ← List.append_assoc]
      constructor
      · intro found
        split at found
        · cases found
        next middle header =>
          obtain ⟨fits, rfl⟩ := encodeHeader_eq_ok.mp header
          exact ⟨within, fits, (Except.ok.inj found).symm⟩
      · rintro ⟨_, fits, rfl⟩
        rw [encodeHeader_eq_ok.mpr ⟨fits, rfl⟩]
  | list items ih =>
      rw [encodeAtDepth, Item.lengthsWithin_list, Item.nesting, wireBytes, ← List.append_assoc]
      split
      next tooDeep =>
        constructor
        · intro found
          cases found
        · rintro ⟨_, _⟩
          omega
      next shallow =>
        have deeper : depth + 1 ≤ kMaxNestingDepth := by omega
        have entries := encodeEntries_eq_ok fun item member => ih item member deeper
        have nested : depth + (Item.nestingAll items + 1) ≤ kMaxNestingDepth ↔
            ∀ item ∈ items, depth + 1 + item.nesting ≤ kMaxNestingDepth := by
          have bound := @Item.nestingAll_le items (kMaxNestingDepth - (depth + 1))
          constructor
          · intro small item member
            have := bound.mp (by omega) item member
            omega
          · intro small
            have := bound.mpr fun item member => by have := small item member; omega
            omega
        rw [nested]
        constructor
        · intro found
          split at found
          · cases found
          next middle header =>
            obtain ⟨fits, rfl⟩ := encodeHeader_eq_ok.mp header
            obtain ⟨all, same⟩ := (entries _ _).mp found
            exact ⟨fun item member => (all item member).1,
              ⟨fits, fun item member => (all item member).2⟩, same⟩
        · rintro ⟨nesting, ⟨fits, lengths⟩, same⟩
          rw [encodeHeader_eq_ok.mpr ⟨fits, rfl⟩]
          exact (entries _ _).mpr
            ⟨fun item member => ⟨nesting item member, lengths item member⟩, same⟩

theorem encode_eq_ok {item : Item} {bytes : List UInt8} :
    encode item = .ok bytes ↔
      item.nesting ≤ kMaxNestingDepth ∧ item.LengthsWithin kMaxItemLength ∧
        bytes = wireBytes item := by
  have all := encodeAtDepth_eq_ok item (Nat.zero_le kMaxNestingDepth) [] bytes
  rwa [Nat.zero_add, List.nil_append] at all

/-! ## The wire bytes derive the normalized item -/

theorem wireHeader_isHeader {format : Format} {length : Nat} (supported : isSupported format = true)
    (fits : length ≤ kMaxItemLength) :
    IsHeader format length (storeBe (lengthBytesFor length) length) (wireHeader format length) := by
  have holds : 1 ≤ lengthBytesFor length ∧ lengthBytesFor length ≤ 3 ∧
      length < 256 ^ lengthBytesFor length := by
    unfold kMaxItemLength at fits
    unfold lengthBytesFor
    split
    · omega
    · split <;> omega
  exact ⟨supported, by simpa using holds.1, by simpa using holds.2.1, loadBe_storeBe holds.2.2,
    by rw [storeBe_length]; rfl⟩

theorem emitData_eq (data : TypedArray) : emitData data = data.normalize.dataBytes := by
  cases data <;> rfl

theorem emitData_length (data : TypedArray) :
    (emitData data).length = data.count * elementSize data.format := by
  rw [emitData_eq, TypedArray.dataBytes_length, TypedArray.normalize_count,
    TypedArray.normalize_format]

theorem itemAt_wireBytes (item : Item) {depth : Nat}
    (nesting : depth + item.nesting ≤ kMaxNestingDepth)
    (lengths : item.LengthsWithin kMaxItemLength) :
    ItemAt depth (wireBytes item) item.normalize := by
  induction item using Item.induct generalizing depth with
  | array data =>
      have fits := Item.lengthsWithin_array.mp lengths
      have header := wireHeader_isHeader data.format_supported fits
      have whole : elementSize data.format ∣ (emitData data).length :=
        emitData_length data ▸ Nat.dvd_mul_left _ _
      rw [← emitData_length, ← data.normalize_format] at header
      rw [← data.normalize_format] at whole
      rw [wireBytes, Item.normalize, ← emitData_length, ← data.normalize_format]
      exact .array header whole (emitData_eq data).symm
  | list items ih =>
      obtain ⟨fits, inner⟩ := Item.lengthsWithin_list.mp lengths
      rw [Item.nesting] at nesting
      have shallow : depth < kMaxNestingDepth := by omega
      have each : ∀ item ∈ items, ItemAt (depth + 1) (wireBytes item) item.normalize := by
        intro item member
        have bound := Item.nestingAll_le.mp (Nat.le_refl (Item.nestingAll items)) item member
        exact ih item member (by omega) (inner item member)
      have entries : ItemsAt (depth + 1) items.length (wireBytesAll items)
          (Item.normalizeAll items) := by
        clear ih inner lengths fits nesting
        induction items with
        | nil => exact .nil
        | cons item items ih =>
            exact .cons (each item List.mem_cons_self)
              (ih fun other member => each other (List.mem_cons_of_mem item member))
      rw [wireBytes, Item.normalize]
      exact .list (wireHeader_isHeader rfl fits) shallow entries

/-- The encoding of an item derives the item, normalized. -/
theorem itemAt_of_encode {item : Item} {bytes : List UInt8} (encoded : encode item = .ok bytes) :
    ItemAt 0 bytes item.normalize := by
  obtain ⟨nesting, lengths, rfl⟩ := encode_eq_ok.mp encoded
  exact itemAt_wireBytes item (by omega) lengths

theorem decodeBody_encode {item : Item} {bytes : List UInt8} (encoded : encode item = .ok bytes) :
    decodeBody bytes = .ok item.normalize :=
  decodeBody_eq_ok.mpr (itemAt_of_encode encoded)

/--
Encoding succeeds exactly within the nesting and length limits; what it emits is
read back from the front of any longer input, in full, as the item with its
`BOOLEAN` elements normalized, and as the item itself if they were 0 or 1.
-/
theorem encode_decode_roundTrip (item : Item) (rest : List UInt8) :
    ((∃ bytes, encode item = .ok bytes) ↔
      item.nesting ≤ kMaxNestingDepth ∧ item.LengthsWithin kMaxItemLength) ∧
    (∀ bytes, encode item = .ok bytes →
      decodeItem (bytes ++ rest) = .ok ⟨item.normalize, bytes.length⟩) ∧
    (∀ bytes, encode item = .ok bytes → item.BooleansCanonical →
      decodeBody bytes = .ok item) := by
  refine ⟨⟨?_, ?_⟩, ?_, ?_⟩
  · rintro ⟨bytes, found⟩
    obtain ⟨nesting, lengths, _⟩ := encode_eq_ok.mp found
    exact ⟨nesting, lengths⟩
  · rintro ⟨nesting, lengths⟩
    exact ⟨wireBytes item, encode_eq_ok.mpr ⟨nesting, lengths, rfl⟩⟩
  · intro bytes found
    refine decodeItem_eq_ok.mpr ⟨by simp, ?_⟩
    rw [List.take_left]
    exact itemAt_of_encode found
  · intro bytes found canonical
    rw [decodeBody_encode found, Item.normalize_eq_self canonical]

/-! ## Sizes -/

/-- The encoder treats the items alike: they differ at most in the values of their elements. -/
structure Item.SameSize (first second : Item) : Prop where
  nesting : first.nesting = second.nesting
  lengths : first.LengthsWithin kMaxItemLength ↔ second.LengthsWithin kMaxItemLength
  wire : (wireBytes first).length = (wireBytes second).length

theorem Item.SameSize.refl (item : Item) : item.SameSize item :=
  ⟨rfl, Iff.rfl, rfl⟩

theorem Item.SameSize.array {first second : TypedArray} (format : first.format = second.format)
    (count : first.count = second.count) : Item.SameSize (.array first) (.array second) where
  nesting := rfl
  lengths := by rw [Item.lengthsWithin_array, Item.lengthsWithin_array, format, count]
  wire := by
    rw [wireBytes, wireBytes, List.length_append, List.length_append, emitData_length,
      emitData_length, format, count]

theorem Item.SameSize.list {firsts seconds : List Item}
    (each : List.Forall₂ Item.SameSize firsts seconds) :
    Item.SameSize (.list firsts) (.list seconds) := by
  have nesting : Item.nestingAll firsts = Item.nestingAll seconds := by
    induction each with
    | nil => rfl
    | cons same _ ih => rw [Item.nestingAll, Item.nestingAll, same.nesting, ih]
  have lengths : (∀ item ∈ firsts, item.LengthsWithin kMaxItemLength) ↔
      ∀ item ∈ seconds, item.LengthsWithin kMaxItemLength := by
    clear nesting
    induction each with
    | nil => simp
    | cons same _ ih => rw [List.forall_mem_cons, List.forall_mem_cons, same.lengths, ih]
  have wire : (wireBytesAll firsts).length = (wireBytesAll seconds).length := by
    clear nesting lengths
    induction each with
    | nil => rfl
    | cons same _ ih =>
        rw [wireBytesAll, wireBytesAll, List.length_append, List.length_append, same.wire, ih]
  refine ⟨by rw [Item.nesting, Item.nesting, nesting], ?_, ?_⟩
  · rw [Item.lengthsWithin_list, Item.lengthsWithin_list, each.length_eq, lengths]
  · rw [wireBytes, wireBytes, List.length_append, List.length_append, each.length_eq, wire]

/-- Items of the same size are both encoded, in as many bytes, or both refused. -/
theorem Item.SameSize.encode {first second : Item} (same : first.SameSize second)
    (accepted : Nat → Prop) :
    (∃ bytes, encode first = .ok bytes ∧ accepted bytes.length) ↔
      ∃ bytes, encode second = .ok bytes ∧ accepted bytes.length := by
  simp only [encode_eq_ok, same.nesting, same.lengths]
  constructor
  · rintro ⟨_, ⟨nesting, lengths, rfl⟩, fits⟩
    exact ⟨_, ⟨nesting, lengths, rfl⟩, same.wire ▸ fits⟩
  · rintro ⟨_, ⟨nesting, lengths, rfl⟩, fits⟩
    exact ⟨_, ⟨nesting, lengths, rfl⟩, same.wire ▸ fits⟩

end Ssim.Secs2
