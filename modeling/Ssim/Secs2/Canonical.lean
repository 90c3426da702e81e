import Ssim.Secs2.RoundTrip

/-!
# Canonical encodings

The decoder also accepts length fields that are longer than they need to be, at every
level, and `BOOLEAN` bytes other than 0 and 1.  What it accepts is within the limits of the
encoder, and encoding it again gives the shortest byte string that stands for the item, the
same one for all items that differ only in how their `BOOLEAN` elements are written.
-/

namespace Ssim.Secs2

open Library.BigEndian

/-! ## What is accepted is within the limits -/

theorem lengthBytesFor_le {length count : Nat} (shortest : 1 ≤ count) (longest : count ≤ 3)
    (below : length < 256 ^ count) : length ≤ kMaxItemLength ∧ lengthBytesFor length ≤ count := by
  unfold kMaxItemLength lengthBytesFor
  obtain rfl | rfl | rfl : count = 1 ∨ count = 2 ∨ count = 3 := by omega
  · rw [if_neg (by omega), if_neg (by omega)]
    omega
  · rw [if_neg (by omega)]
    split <;> omega
  · constructor
    · omega
    · split
      · omega
      · split <;> omega

/-- The encoder needs no longer a header than an accepted one. -/
theorem wireHeader_length_le {format : Format} {length : Nat} {lengthField header : List UInt8}
    (isHeader : IsHeader format length lengthField header) :
    length ≤ kMaxItemLength ∧ (wireHeader format length).length ≤ header.length := by
  have below := loadBe_lt lengthField
  rw [isHeader.value] at below
  obtain ⟨fits, short⟩ := lengthBytesFor_le isHeader.shortest isHeader.longest below
  refine ⟨fits, ?_⟩
  rw [isHeader.bytes, wireHeader, List.length_cons, List.length_cons, storeBe_length]
  exact Nat.succ_le_succ short

/-- The item is encoded at a depth, in at most so many bytes. -/
structure EncodesWithin (depth size : Nat) (item : Item) : Prop where
  nesting : depth + item.nesting ≤ kMaxNestingDepth
  lengths : item.LengthsWithin kMaxItemLength
  size : (wireBytes item).length ≤ size

/-- The entries of a list, if each of them is encoded in at most its own bytes. -/
theorem encodesWithin_entries {depth count : Nat} {body : List UInt8} {items : List Item}
    (entries : ItemsAt depth count body items)
    (each : ∀ item ∈ items, ∀ bytes, ItemAt depth bytes item →
      EncodesWithin depth bytes.length item) :
    items.length = count ∧ (wireBytesAll items).length ≤ body.length ∧
      ∀ item ∈ items, depth + item.nesting ≤ kMaxNestingDepth ∧
        item.LengthsWithin kMaxItemLength := by
  induction items generalizing count body with
  | nil =>
      cases entries
      exact ⟨rfl, Nat.le_refl _, by simp⟩
  | cons item items ih =>
      cases entries with
      | cons first rest =>
          have here := each item List.mem_cons_self _ first
          obtain ⟨length, size, others⟩ :=
            ih rest fun other member => each other (List.mem_cons_of_mem item member)
          refine ⟨by rw [List.length_cons, length], ?_,
            List.forall_mem_cons.mpr ⟨⟨here.nesting, here.lengths⟩, others⟩⟩
          rw [wireBytesAll, List.length_append, List.length_append]
          exact Nat.add_le_add here.size size

theorem encodesWithin_of_itemAt (item : Item) {depth : Nat} {bytes : List UInt8}
    (within : depth ≤ kMaxNestingDepth) (derived : ItemAt depth bytes item) :
    EncodesWithin depth bytes.length item := by
  induction item using Item.induct generalizing depth bytes with
  | array data =>
      cases derived with
      | array head whole elements =>
          obtain ⟨fits, short⟩ := wireHeader_length_le head
          have length := data.dataBytes_length
          rw [elements] at length
          rw [length] at fits short
          refine ⟨within, Item.lengthsWithin_array.mpr fits, ?_⟩
          rw [wireBytes, List.length_append, List.length_append, emitData_length, length]
          exact Nat.add_le_add_right short _
  | list items ih =>
      cases derived with
      | list head shallow entries =>
          obtain ⟨fits, short⟩ := wireHeader_length_le head
          obtain ⟨rfl, size, inner⟩ := encodesWithin_entries entries
            fun item member bytes at_ => ih item member shallow at_
          have nested := @Item.nestingAll_le items (kMaxNestingDepth - (depth + 1))
          have bound := nested.mpr fun item member => by
            have := (inner item member).1
            omega
          refine ⟨?_, Item.lengthsWithin_list.mpr ⟨fits, fun item member => (inner item member).2⟩,
            ?_⟩
          · rw [Item.nesting]
            omega
          · rw [wireBytes, List.length_append, List.length_append]
            exact Nat.add_le_add short size

/-! ## Normalized items -/

theorem emitData_normalize (data : TypedArray) : emitData data.normalize = emitData data := by
  cases data with
  | boolean values =>
      simp only [TypedArray.normalize, emitData, List.map_map]
      refine List.map_congr_left fun byte _ => ?_
      by_cases zero : byte = 0
      · simp [zero, TypedArray.normalizeBoolean]
      · simp [zero, TypedArray.normalizeBoolean]
  | _ => rfl

theorem normalize_sameSize (item : Item) : item.normalize.SameSize item := by
  induction item using Item.induct with
  | array data => exact .array data.normalize_format data.normalize_count
  | list items ih =>
      rw [Item.normalize, Item.normalizeAll_eq_map]
      refine .list ?_
      induction items with
      | nil => exact .nil
      | cons item items rest =>
          exact .cons (ih item List.mem_cons_self)
            (rest fun other member => ih other (List.mem_cons_of_mem item member))

theorem wireBytes_normalize (item : Item) : wireBytes item.normalize = wireBytes item := by
  induction item using Item.induct with
  | array data =>
      rw [Item.normalize, wireBytes, wireBytes, data.normalize_format, data.normalize_count,
        emitData_normalize]
  | list items ih =>
      have all : wireBytesAll (items.map Item.normalize) = wireBytesAll items := by
        induction items with
        | nil => rfl
        | cons item items rest =>
            rw [List.map_cons, wireBytesAll, wireBytesAll, ih item List.mem_cons_self,
              rest fun other member => ih other (List.mem_cons_of_mem item member)]
      rw [Item.normalize, Item.normalizeAll_eq_map, wireBytes, wireBytes, List.length_map, all]

/-- The encoder does not tell an item from its normalized form. -/
theorem encode_normalize {item : Item} {bytes : List UInt8} (encoded : encode item = .ok bytes) :
    encode item.normalize = .ok bytes := by
  obtain ⟨nesting, lengths, rfl⟩ := encode_eq_ok.mp encoded
  have same := normalize_sameSize item
  exact encode_eq_ok.mpr
    ⟨same.nesting ▸ nesting, same.lengths.mpr lengths, (wireBytes_normalize item).symm⟩

theorem encode_of_decodeBody {bytes : List UInt8} {item : Item}
    (decoded : decodeBody bytes = .ok item) :
    ∃ canonical, encode item = .ok canonical ∧ canonical.length ≤ bytes.length := by
  have within := encodesWithin_of_itemAt item (Nat.zero_le _) (decodeBody_eq_ok.mp decoded)
  have nesting := within.nesting
  rw [Nat.zero_add] at nesting
  exact ⟨wireBytes item, encode_eq_ok.mpr ⟨nesting, within.lengths, rfl⟩, within.size⟩

/-- Two encodings are equal exactly if the items are equal once they are normalized. -/
theorem encode_inj {first second : Item} {firstBytes secondBytes : List UInt8}
    (encoded : encode first = .ok firstBytes) (also : encode second = .ok secondBytes) :
    firstBytes = secondBytes ↔ first.normalize = second.normalize := by
  constructor
  · rintro rfl
    exact Except.ok.inj ((decodeBody_encode encoded).symm.trans (decodeBody_encode also))
  · intro same
    have normalized := encode_normalize encoded
    rw [same, encode_normalize also] at normalized
    exact (Except.ok.inj normalized).symm

/--
Encoding what the decoder accepts gives a canonical form.  For every accepted byte string
the item is encoded, in no more bytes, which are decoded to the item with its `BOOLEAN`
elements normalized, and that item is encoded to the same bytes again.  The encodings of
two accepted byte strings are equal exactly if the decoded items are equal once normalized.
-/
theorem reencoding_is_canonical (bytes : List UInt8) (item : Item)
    (decoded : decodeBody bytes = .ok item) :
    (∃ canonical, encode item = .ok canonical ∧ canonical.length ≤ bytes.length ∧
      decodeBody canonical = .ok item.normalize ∧ encode item.normalize = .ok canonical) ∧
    ∀ other second, decodeBody other = .ok second →
      (encode item = encode second ↔ item.normalize = second.normalize) := by
  obtain ⟨canonical, encoded, short⟩ := encode_of_decodeBody decoded
  refine ⟨⟨canonical, encoded, short, decodeBody_encode encoded, encode_normalize encoded⟩, ?_⟩
  intro other second also
  obtain ⟨otherCanonical, otherEncoded, _⟩ := encode_of_decodeBody also
  rw [encoded, otherEncoded, ← encode_inj encoded otherEncoded]
  exact ⟨Except.ok.inj, congrArg _⟩

/-- A `BOOLEAN` item with two length bytes and the byte 7, and the shortest one. -/
theorem reencoding_is_canonical_boolean :
    decodeBody [0x26, 0, 1, 7] = .ok (.boolean [7]) ∧ encode (.boolean [7]) = .ok [0x25, 1, 1] ∧
      encode (.boolean [7]) = encode (.boolean [1]) := by
  have first : decodeBody [0x26, 0, 1, 7] = .ok (.boolean [7]) := rfl
  have second : decodeBody [0x25, 1, 1] = .ok (.boolean [1]) := rfl
  exact ⟨first, rfl, ((reencoding_is_canonical _ _ first).2 _ _ second).mpr rfl⟩

end Ssim.Secs2
