import Ssim.Secs2.Codec

/-!
# The SECS-II item grammar

The grammar says which byte strings are items at a nesting depth, without saying
how they are read: a header with one, two or three length bytes (not necessarily
the fewest), then the data of an array, or the entries of a list one level
deeper.  The strict decoder is sound and complete for it.
-/

namespace Ssim.Secs2

open Library.BigEndian
open Library.PrefixParser

/-- A format byte and the big-endian length `length` in one to three bytes. -/
structure IsHeader (format : Format) (length : Nat) (lengthField header : List UInt8) : Prop where
  supported : isSupported format = true
  shortest : 1 ≤ lengthField.length
  longest : lengthField.length ≤ 3
  value : loadBe lengthField = length
  bytes : header = formatByte format lengthField.length :: lengthField

mutual

/-- The byte string is the item, at a nesting depth. -/
inductive ItemAt : Nat → List UInt8 → Item → Prop where
  | array {depth : Nat} {lengthField header data : List UInt8} {typed : TypedArray}
      (head : IsHeader typed.format data.length lengthField header)
      (whole : elementSize typed.format ∣ data.length)
      (elements : typed.dataBytes = data) :
      ItemAt depth (header ++ data) (.array typed)
  | list {depth count : Nat} {lengthField header body : List UInt8} {items : List Item}
      (head : IsHeader .list count lengthField header)
      (shallow : depth < kMaxNestingDepth)
      (entries : ItemsAt (depth + 1) count body items) :
      ItemAt depth (header ++ body) (.list items)

/-- The byte string is `count` items one after the other, all at a nesting depth. -/
inductive ItemsAt : Nat → Nat → List UInt8 → List Item → Prop where
  | nil {depth : Nat} : ItemsAt depth 0 [] []
  | cons {depth count : Nat} {used tail : List UInt8} {item : Item} {items : List Item}
      (first : ItemAt depth used item) (rest : ItemsAt depth count tail items) :
      ItemsAt depth (count + 1) (used ++ tail) (item :: items)

end

theorem itemsAt_iff_sequence {depth count : Nat} {bytes : List UInt8} {items : List Item} :
    ItemsAt depth count bytes items ↔ Sequence (ItemAt depth) count bytes items := by
  constructor
  · intro entries
    induction count generalizing bytes items with
    | zero =>
        cases entries
        exact .nil
    | succ count ih =>
        cases entries with
        | cons first rest => exact .cons first (ih rest)
  · intro entries
    induction entries with
    | nil => exact .nil
    | cons first _ ih => exact .cons first ih

/-! ## The header -/

theorem parseFormat_eq_ok {code : Nat} {format : Format} :
    parseFormat code = .ok format ↔ code = format.code ∧ isSupported format = true := by
  constructor
  · intro found
    unfold parseFormat at found
    split at found <;> cases found <;> exact ⟨rfl, rfl⟩
  · rintro ⟨rfl, supported⟩
    cases format <;> first | rfl | cases supported

theorem formatByte_toNat {format : Format} {lengthBytes : Nat} (small : lengthBytes < 4) :
    (formatByte format lengthBytes).toNat = format.code * 4 + lengthBytes := by
  have code : format.code ≤ 0x2C := by cases format <;> decide
  have joined : format.code <<< 2 ||| lengthBytes = format.code * 4 + lengthBytes := by
    rw [← Nat.shiftLeft_add_eq_or_of_lt (by omega), Nat.shiftLeft_eq]
  rw [formatByte, joined, UInt8.toNat_ofNat_of_lt']
  change _ < 256
  omega

/-- The two low bits of a byte are its length-byte count and the rest its code. -/
theorem eq_formatByte_iff {byte : UInt8} {format : Format} {lengthBytes : Nat}
    (small : lengthBytes < 4) :
    byte = formatByte format lengthBytes ↔
      byte.toNat &&& 0x03 = lengthBytes ∧ byte.toNat >>> 2 = format.code := by
  have low : byte.toNat &&& 0x03 = byte.toNat % 4 := Nat.and_two_pow_sub_one_eq_mod byte.toNat 2
  have high : byte.toNat >>> 2 = byte.toNat / 4 := Nat.shiftRight_eq_div_pow byte.toNat 2
  rw [low, high, ← UInt8.toNat_inj, formatByte_toNat small]
  omega

/-- The header reader accepts exactly the headers of the grammar. -/
theorem decodeHeader_eq_ok {input rest : List UInt8} {format : Format} {length : Nat} :
    decodeHeader input = .ok ((format, length), rest) ↔
      ∃ lengthField header, input = header ++ rest ∧
        IsHeader format length lengthField header := by
  cases input with
  | nil =>
      constructor
      · intro found
        cases found
      · rintro ⟨lengthField, header, split, isHeader⟩
        rw [isHeader.bytes] at split
        cases split
  | cons byte reader =>
      have low : byte.toNat &&& 0x03 < 4 := Nat.and_lt_two_pow _ (by decide : 3 < 2 ^ 2)
      constructor
      · intro found
        simp only [decodeHeader] at found
        split at found
        · cases found
        next nonzero =>
          split at found
          · cases found
          next parsed =>
            split at found
            · cases found
            next enough =>
              obtain ⟨same, rfl⟩ := Prod.mk.inj (Except.ok.inj found)
              obtain ⟨rfl, rfl⟩ := Prod.mk.inj same
              obtain ⟨code, supported⟩ := parseFormat_eq_ok.mp parsed
              have taken : (reader.take (byte.toNat &&& 0x03)).length = byte.toNat &&& 0x03 := by
                rw [List.length_take]
                omega
              refine ⟨reader.take (byte.toNat &&& 0x03), _, ?_, ⟨supported, ?_, ?_, rfl, rfl⟩⟩
              · rw [taken, ← (eq_formatByte_iff low).mpr ⟨rfl, code⟩, List.cons_append,
                  List.take_append_drop]
              · omega
              · omega
      · rintro ⟨lengthField, header, split, isHeader⟩
        rw [isHeader.bytes, List.cons_append] at split
        obtain ⟨here, rfl⟩ := List.cons.inj split
        have small : lengthField.length < 4 := by have := isHeader.longest; omega
        obtain ⟨count, code⟩ := (eq_formatByte_iff small).mp here
        have parsed := parseFormat_eq_ok.mpr ⟨code, isHeader.supported⟩
        have nonzero : lengthField.length ≠ 0 := by have := isHeader.shortest; omega
        simp [decodeHeader, count, parsed, nonzero, isHeader.value]

/-! ## Array data -/

/-- Data bytes of whole elements are the elements of the array built from them. -/
theorem buildArray_spec {format : Format} {data : List UInt8} (notList : format ≠ .list)
    (supported : isSupported format = true) (whole : elementSize format ∣ data.length) :
    ∃ typed, buildArray format data = .array typed ∧ typed.format = format ∧
      typed.dataBytes = data := by
  have exact : data.length / elementSize format * elementSize format = data.length :=
    Nat.div_mul_cancel whole
  cases format with
  | list => exact absurd rfl notList
  | jis8 => cases supported
  | binary | boolean | ascii | u1 => exact ⟨_, rfl, rfl, rfl⟩
  | i1 | i2 | i4 | i8 | u2 | u4 | u8 | f4 | f8 =>
      exact ⟨_, rfl, rfl, appendArray_collect _ exact.symm⟩

/-- An array is determined by its format and its data bytes. -/
theorem typedArray_ext {first second : TypedArray} (formats : first.format = second.format)
    (bytes : first.dataBytes = second.dataBytes) : first = second := by
  cases first <;> cases second <;> first
    | cases formats; done
    | exact congrArg _ (appendArray_injective bytes)
    | exact congrArg _ bytes

theorem decodeData_eq_ok {format : Format} {length : Nat} {input rest : List UInt8} {item : Item}
    (notList : format ≠ .list) (supported : isSupported format = true) :
    decodeData format length input = .ok (item, rest) ↔
      ∃ data typed, input = data ++ rest ∧ data.length = length ∧ elementSize format ∣ length ∧
        item = .array typed ∧ typed.format = format ∧ typed.dataBytes = data := by
  constructor
  · intro found
    simp only [decodeData] at found
    split at found
    · cases found
    next enough =>
      split at found
      · cases found
      next whole =>
        obtain ⟨rfl, rfl⟩ := Prod.mk.inj (Except.ok.inj found)
        have taken : (input.take length).length = length := by
          rw [List.length_take]
          omega
        have divides : elementSize format ∣ length := Nat.dvd_of_mod_eq_zero (not_not.mp whole)
        obtain ⟨typed, built, formatEq, bytes⟩ :=
          buildArray_spec notList supported (taken.symm ▸ divides)
        exact ⟨_, typed, (List.take_append_drop _ _).symm, taken, divides, built, formatEq, bytes⟩
  · rintro ⟨data, typed, rfl, rfl, divides, rfl, formatEq, bytes⟩
    obtain ⟨other, built, otherFormat, otherBytes⟩ :=
      buildArray_spec notList supported divides
    have same : other = typed :=
      typedArray_ext (otherFormat.trans formatEq.symm) (otherBytes.trans bytes.symm)
    simp [decodeData, Nat.mod_eq_zero_of_dvd divides, built, same]

/-! ## Items -/

/-- Every item takes a format byte and at least one length byte. -/
theorem two_le_itemAt {depth : Nat} {bytes : List UInt8} {item : Item}
    (derived : ItemAt depth bytes item) : 2 ≤ bytes.length := by
  have header : ∀ {format length lengthField head}, IsHeader format length lengthField head →
      2 ≤ head.length := by
    intro format length lengthField head isHeader
    have := isHeader.shortest
    rw [isHeader.bytes, List.length_cons]
    omega
  cases derived with
  | array head => have := header head; rw [List.length_append]; omega
  | list head => have := header head; rw [List.length_append]; omega

/-- The bodies a list may have at a nesting depth, as the list they stand for. -/
def ListBody (depth count : Nat) (body : List UInt8) (item : Item) : Prop :=
  depth < kMaxNestingDepth ∧ ∃ items, item = .list items ∧ ItemsAt (depth + 1) count body items

theorem decodeWith_sound {depth : Nat}
    {entries : Nat → List UInt8 → Core.Result (Item × List UInt8)}
    (lists : ∀ count, Sound (ListBody depth count) (entries count)) :
    Sound (ItemAt depth) (decodeWith entries) := by
  intro input item rest found
  simp only [decodeWith] at found
  split at found
  · cases found
  next format length reader header =>
    obtain ⟨lengthField, head, rfl, isHeader⟩ := decodeHeader_eq_ok.mp header
    split at found
    next isList =>
      subst isList
      obtain ⟨body, rfl, shallow, items, rfl, all⟩ := lists length _ _ _ found
      exact ⟨head ++ body, (List.append_assoc _ _ _).symm, .list isHeader shallow all⟩
    next notList =>
      obtain ⟨data, typed, rfl, rfl, whole, rfl, rfl, bytes⟩ :=
        (decodeData_eq_ok notList isHeader.supported).mp found
      exact ⟨head ++ data, (List.append_assoc _ _ _).symm, .array isHeader whole bytes⟩

theorem decodeWith_complete {depth : Nat}
    {entries : Nat → List UInt8 → Core.Result (Item × List UInt8)}
    (lists : ∀ count, Complete (ListBody depth count) (entries count)) :
    Complete (ItemAt depth) (decodeWith entries) := by
  intro used item rest derived
  cases derived with
  | @array _ lengthField header data typed head whole elements =>
      have read := decodeHeader_eq_ok.mpr
        ⟨lengthField, header, List.append_assoc header data rest, head⟩
      have notList := typed.format_ne_list
      simp only [decodeWith, read, if_neg notList]
      exact (decodeData_eq_ok notList head.supported).mpr
        ⟨data, typed, rfl, rfl, whole, rfl, rfl, elements⟩
  | @list _ count lengthField header body items head shallow all =>
      have read := decodeHeader_eq_ok.mpr
        ⟨lengthField, header, List.append_assoc header body rest, head⟩
      simp only [decodeWith, read, if_true]
      exact lists count body _ rest ⟨shallow, items, rfl, all⟩

theorem decodeEntries_sound {depth count : Nat}
    {child : List UInt8 → Core.Result (Item × List UInt8)}
    (shallow : depth < kMaxNestingDepth) (sound : Sound (ItemAt (depth + 1)) child) :
    Sound (ListBody depth count) (decodeEntries child count) := by
  intro input item rest found
  simp only [decodeEntries] at found
  split at found
  · cases found
  · split at found
    · cases found
    next items reader entries =>
      obtain ⟨rfl, rfl⟩ := Prod.mk.inj (Except.ok.inj found)
      obtain ⟨body, rfl, sequence⟩ := sound.repeatCount count _ _ _ entries
      exact ⟨body, rfl, shallow, items, rfl, itemsAt_iff_sequence.mpr sequence⟩

theorem decodeEntries_complete {depth count : Nat}
    {child : List UInt8 → Core.Result (Item × List UInt8)}
    (complete : Complete (ItemAt (depth + 1)) child) :
    Complete (ListBody depth count) (decodeEntries child count) := by
  rintro body item rest ⟨shallow, items, rfl, all⟩
  have sequence := itemsAt_iff_sequence.mp all
  -- The early count check never bites: each entry takes two bytes.
  have room : ¬ count > (body ++ rest).length / 2 := by
    have least := sequence.length_used (fun _ _ => two_le_itemAt)
    rw [List.length_append]
    omega
  have entries := complete.repeatCount count _ _ rest sequence
  simp only [decodeEntries, if_neg room, entries]

theorem decodeLevels_sound {levels depth : Nat} (total : depth + levels = kMaxNestingDepth) :
    Sound (ItemAt depth) (decodeLevels levels) := by
  induction levels generalizing depth with
  | zero =>
      refine decodeWith_sound fun count input item rest found => ?_
      cases found
  | succ levels ih =>
      exact decodeWith_sound fun count => decodeEntries_sound (by omega) (ih (by omega))

theorem decodeLevels_complete {levels depth : Nat} (total : depth + levels = kMaxNestingDepth) :
    Complete (ItemAt depth) (decodeLevels levels) := by
  induction levels generalizing depth with
  | zero =>
      refine decodeWith_complete fun count body item rest listBody => ?_
      have shallow := listBody.1
      omega
  | succ levels ih =>
      exact decodeWith_complete fun count => decodeEntries_complete (ih (by omega))

theorem decodeAtDepth_sound {depth : Nat} (within : depth ≤ kMaxNestingDepth) :
    Sound (ItemAt depth) (decodeAtDepth depth) :=
  decodeLevels_sound (by omega)

theorem decodeAtDepth_complete {depth : Nat} (within : depth ≤ kMaxNestingDepth) :
    Complete (ItemAt depth) (decodeAtDepth depth) :=
  decodeLevels_complete (by omega)

/-- A prefix of `consumed` bytes derives the item exactly when the decoder returns both. -/
theorem decodeItem_eq_ok {bytes : List UInt8} {item : Item} {consumed : Nat} :
    decodeItem bytes = .ok ⟨item, consumed⟩ ↔
      consumed ≤ bytes.length ∧ ItemAt 0 (bytes.take consumed) item := by
  constructor
  · intro found
    simp only [decodeItem] at found
    split at found
    · cases found
    next value rest read =>
      obtain ⟨rfl, rfl⟩ := Decoded.mk.inj (Except.ok.inj found)
      obtain ⟨used, rfl, derived⟩ := decodeAtDepth_sound (Nat.zero_le _) _ _ _ read
      have length : (used ++ rest).length - rest.length = used.length := by simp
      rw [length, List.take_left]
      exact ⟨by simp, derived⟩
  · rintro ⟨within, derived⟩
    have read := decodeAtDepth_complete (Nat.zero_le _) _ _ (bytes.drop consumed) derived
    rw [List.take_append_drop] at read
    have length : bytes.length - (bytes.length - consumed) = consumed := by omega
    simp [decodeItem, read, length]

theorem decodeBody_eq_ok {bytes : List UInt8} {item : Item} :
    decodeBody bytes = .ok item ↔ ItemAt 0 bytes item := by
  have whole : decodeItem bytes = .ok ⟨item, bytes.length⟩ ↔ ItemAt 0 bytes item := by
    simp [decodeItem_eq_ok]
  rw [← whole]
  constructor
  · intro found
    simp only [decodeBody] at found
    split at found
    · cases found
    next decoded read =>
      split at found
      · cases found
      next all =>
        rw [read, ← Except.ok.inj found, ← not_not.mp all]
  · intro found
    simp [decodeBody, found]

/--
The strict decoder accepts exactly the item grammar: it returns an item and a
length iff that prefix derives the item, such a prefix and item are unique, and
a whole body is accepted iff all of it derives the item.
-/
theorem decode_accepts_exactly_the_grammar (bytes : List UInt8) :
    (∀ item consumed, decodeItem bytes = .ok ⟨item, consumed⟩ ↔
      consumed ≤ bytes.length ∧ ItemAt 0 (bytes.take consumed) item) ∧
    (∀ item other consumed length,
      consumed ≤ bytes.length ∧ ItemAt 0 (bytes.take consumed) item →
      length ≤ bytes.length ∧ ItemAt 0 (bytes.take length) other →
      consumed = length ∧ item = other) ∧
    (∀ item, decodeBody bytes = .ok item ↔ ItemAt 0 bytes item) := by
  refine ⟨fun item consumed => decodeItem_eq_ok, ?_, fun item => decodeBody_eq_ok⟩
  intro item other consumed length first second
  have one := decodeItem_eq_ok.mpr first
  rw [decodeItem_eq_ok.mpr second] at one
  obtain ⟨sameItem, sameLength⟩ := Decoded.mk.inj (Except.ok.inj one)
  exact ⟨sameLength.symm, sameItem.symm⟩

end Ssim.Secs2
