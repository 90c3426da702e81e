import Ssim.Hsms.Frame

/-!
# Frame streams

`scan` is the decoding loop run to its end on one buffer.  Scanning a longer
buffer continues where the scan of a front part stopped, so a stream gives the
same frames however it is cut into chunks, and an encoded frame is read back
from the front of any buffer.
-/

namespace Ssim.Hsms.FrameDecoder

open Ssim.Core (Error Result)
open Library.BigEndian

/-! ## The loop run to its end -/

def scan (maxFrameBytes : Nat) (buffer : List UInt8) : Result (List Frame × List UInt8) :=
  decodeLoop maxFrameBytes buffer.length buffer

/-- A frame is found once its length is within the limits and all its bytes are there. -/
theorem nextFrame_eq_some {maxFrameBytes : Nat} {buffer rest : List UInt8} {frame : Frame} :
    nextFrame maxFrameBytes buffer = .ok (some (frame, rest)) ↔
      kHeaderSize ≤ loadBe (buffer.take kLengthFieldSize) ∧
        loadBe (buffer.take kLengthFieldSize) ≤ maxFrameBytes ∧
        kLengthFieldSize + loadBe (buffer.take kLengthFieldSize) ≤ buffer.length ∧
        ⟨headerFrom ((buffer.drop kLengthFieldSize).take (loadBe (buffer.take kLengthFieldSize))),
          ((buffer.drop kLengthFieldSize).take
            (loadBe (buffer.take kLengthFieldSize))).drop kHeaderSize⟩ = frame ∧
        buffer.drop (kLengthFieldSize + loadBe (buffer.take kLengthFieldSize)) = rest := by
  constructor
  · intro found
    simp only [nextFrame] at found
    split at found
    · cases found
    next =>
      split at found
      · cases found
      next longEnough =>
        split at found
        · cases found
        next notTooLong =>
          split at found
          · cases found
          next complete =>
            obtain ⟨same, tail⟩ := Prod.mk.inj (Option.some.inj (Except.ok.inj found))
            exact ⟨Nat.le_of_not_lt longEnough, Nat.le_of_not_lt notTooLong,
              Nat.le_of_not_lt complete, same, tail⟩
  · rintro ⟨longEnough, notTooLong, complete, rfl, rfl⟩
    rw [nextFrame, if_neg (by omega)]
    simp only [if_neg (Nat.not_lt.mpr longEnough), if_neg (Nat.not_lt.mpr notTooLong),
      if_neg (Nat.not_lt.mpr complete)]

/-- A frame takes its length field and its header, so the rest is shorter. -/
theorem nextFrame_shorter {maxFrameBytes : Nat} {buffer rest : List UInt8} {frame : Frame}
    (found : nextFrame maxFrameBytes buffer = .ok (some (frame, rest))) :
    rest.length < buffer.length := by
  obtain ⟨-, -, complete, -, rfl⟩ := nextFrame_eq_some.mp found
  rw [List.length_drop]
  unfold kLengthFieldSize at *
  omega

/-- Once there are as many rounds as bytes, more rounds change nothing. -/
theorem decodeLoop_rounds {maxFrameBytes rounds others : Nat} {buffer : List UInt8}
    (enough : buffer.length ≤ rounds) (more : buffer.length ≤ others) :
    decodeLoop maxFrameBytes rounds buffer = decodeLoop maxFrameBytes others buffer := by
  have empty : ∀ count, decodeLoop maxFrameBytes count [] = .ok ([], []) := by
    intro count
    cases count <;> rfl
  induction rounds generalizing others buffer with
  | zero => rw [List.length_eq_zero_iff.mp (Nat.le_zero.mp enough), empty, empty]
  | succ rounds ih =>
      cases others with
      | zero => rw [List.length_eq_zero_iff.mp (Nat.le_zero.mp more), empty, empty]
      | succ others =>
          simp only [decodeLoop]
          split
          · rfl
          · rfl
          next frame rest found =>
            have shorter := nextFrame_shorter found
            rw [ih (by omega : rest.length ≤ rounds) (by omega : rest.length ≤ others)]

/-- The scan by its next frame. -/
theorem scan_eq (maxFrameBytes : Nat) (buffer : List UInt8) :
    scan maxFrameBytes buffer =
      match nextFrame maxFrameBytes buffer with
      | .error reason => .error reason
      | .ok none => .ok ([], buffer)
      | .ok (some (frame, rest)) =>
          match scan maxFrameBytes rest with
          | .error reason => .error reason
          | .ok (frames, rest) => .ok (frame :: frames, rest) := by
  have one : scan maxFrameBytes buffer = decodeLoop maxFrameBytes (buffer.length + 1) buffer :=
    decodeLoop_rounds (Nat.le_refl _) (Nat.le_succ _)
  rw [one, decodeLoop]
  cases found : nextFrame maxFrameBytes buffer with
  | error reason => rfl
  | ok outcome =>
      cases outcome with
      | none => rfl
      | some next =>
          have shorter := nextFrame_shorter found
          have same : decodeLoop maxFrameBytes buffer.length next.2 = scan maxFrameBytes next.2 :=
            decodeLoop_rounds (Nat.le_of_lt shorter) (Nat.le_refl _)
          cases later : scan maxFrameBytes next.2 with
          | error reason => simp only [same, later]
          | ok found => simp only [same, later]

theorem scan_of_none {maxFrameBytes : Nat} {buffer : List UInt8}
    (waiting : nextFrame maxFrameBytes buffer = .ok none) :
    scan maxFrameBytes buffer = .ok ([], buffer) := by
  rw [scan_eq, waiting]

theorem scan_of_some {maxFrameBytes : Nat} {buffer rest : List UInt8} {frame : Frame}
    (found : nextFrame maxFrameBytes buffer = .ok (some (frame, rest))) :
    scan maxFrameBytes buffer =
      (scan maxFrameBytes rest).map fun result => (frame :: result.1, result.2) := by
  rw [scan_eq]
  cases later : scan maxFrameBytes rest <;> simp [found, later, Except.map]

/-! ## Longer buffers -/

/-- A frame at the front is the same frame when more bytes follow. -/
theorem nextFrame_append {maxFrameBytes : Nat} {buffer rest : List UInt8} {frame : Frame}
    (found : nextFrame maxFrameBytes buffer = .ok (some (frame, rest))) (more : List UInt8) :
    nextFrame maxFrameBytes (buffer ++ more) = .ok (some (frame, rest ++ more)) := by
  obtain ⟨longEnough, notTooLong, complete, rfl, rfl⟩ := nextFrame_eq_some.mp found
  have front : (buffer ++ more).take kLengthFieldSize = buffer.take kLengthFieldSize :=
    List.take_append_of_le_length (by omega)
  have content : ((buffer ++ more).drop kLengthFieldSize).take
      (loadBe (buffer.take kLengthFieldSize)) =
        (buffer.drop kLengthFieldSize).take (loadBe (buffer.take kLengthFieldSize)) := by
    rw [List.drop_append_of_le_length (by omega),
      List.take_append_of_le_length (by rw [List.length_drop]; omega)]
  rw [nextFrame_eq_some, front, content, List.drop_append_of_le_length complete,
    List.length_append]
  exact ⟨longEnough, notTooLong, Nat.le_add_right_of_le complete, rfl, rfl⟩

theorem nextFrame_error_append {maxFrameBytes : Nat} {buffer : List UInt8} {reason : Error}
    (bad : nextFrame maxFrameBytes buffer = .error reason) (more : List UInt8) :
    nextFrame maxFrameBytes (buffer ++ more) = .error reason := by
  simp only [nextFrame] at bad
  split at bad
  · cases bad
  next hasLength =>
    have front : (buffer ++ more).take kLengthFieldSize = buffer.take kLengthFieldSize :=
      List.take_append_of_le_length (by omega)
    have total : (buffer ++ more).length = buffer.length + more.length := List.length_append
    rw [nextFrame, if_neg (by omega)]
    simp only [front]
    split at bad
    next short =>
      rw [if_pos short]
      exact bad
    next longEnough =>
      rw [if_neg longEnough]
      split at bad
      next long =>
        rw [if_pos long]
        exact bad
      next notTooLong =>
        split at bad
        · cases bad
        · cases bad

/-- A scan that succeeded goes on with the bytes it left over. -/
theorem scan_append {maxFrameBytes : Nat} {buffer rest : List UInt8} {frames : List Frame}
    (done : scan maxFrameBytes buffer = .ok (frames, rest)) (more : List UInt8) :
    scan maxFrameBytes (buffer ++ more) =
      (scan maxFrameBytes (rest ++ more)).map fun result => (frames ++ result.1, result.2) := by
  induction frames generalizing buffer with
  | nil =>
      -- Nothing was decoded, so the scan stopped where it started.
      have same : rest = buffer := by
        rw [scan_eq] at done
        split at done
        · cases done
        · exact (Prod.mk.inj (Except.ok.inj done)).2.symm
        · split at done
          · cases done
          · cases done
      rw [same]
      cases scan maxFrameBytes (buffer ++ more) <;> rfl
  | cons frame frames ih =>
      rw [scan_eq] at done
      split at done
      · cases done
      · cases done
      next head tail found =>
        split at done
        · cases done
        next others last continued =>
          obtain ⟨same, rfl⟩ := Prod.mk.inj (Except.ok.inj done)
          obtain ⟨rfl, rfl⟩ := List.cons.inj same
          rw [scan_of_some (nextFrame_append found more), ih continued]
          cases scan maxFrameBytes (last ++ more) <;> rfl

/-- A bad length field is found whatever follows it. -/
theorem scan_error_append {maxFrameBytes : Nat} {buffer : List UInt8} {reason : Error}
    (bad : scan maxFrameBytes buffer = .error reason) (more : List UInt8) :
    scan maxFrameBytes (buffer ++ more) = .error reason := by
  induction size : buffer.length using Nat.strong_induction_on generalizing buffer with
  | h size ih =>
      rw [scan_eq] at bad
      split at bad
      next found => rw [scan_eq, nextFrame_error_append found, ← bad]
      · cases bad
      next frame rest found =>
        split at bad
        next later =>
          have shorter := size ▸ nextFrame_shorter found
          obtain rfl := Except.error.inj bad
          rw [scan_of_some (nextFrame_append found more), ih _ shorter later rfl]
          rfl
        · cases bad

/-- What a scan leaves over holds no complete frame. -/
theorem scan_rest {maxFrameBytes : Nat} {buffer rest : List UInt8} {frames : List Frame}
    (done : scan maxFrameBytes buffer = .ok (frames, rest)) :
    scan maxFrameBytes rest = .ok ([], rest) := by
  induction frames generalizing buffer with
  | nil =>
      rw [scan_eq] at done
      split at done
      · cases done
      next waiting =>
        obtain ⟨_, rfl⟩ := Prod.mk.inj (Except.ok.inj done)
        exact scan_of_none waiting
      · split at done
        · cases done
        · cases done
  | cons frame frames ih =>
      rw [scan_eq] at done
      split at done
      · cases done
      · cases done
      · split at done
        · cases done
        next continued =>
          obtain ⟨same, rfl⟩ := Prod.mk.inj (Except.ok.inj done)
          obtain ⟨rfl, rfl⟩ := List.cons.inj same
          exact ih continued

/-! ## Chunks -/

/-- Feed chunks in order until the first error: the frames returned, that error, the decoder. -/
def feedAll (decoder : FrameDecoder) : List (List UInt8) → List Frame × Option Error × FrameDecoder
  | [] => ([], none, decoder)
  | chunk :: chunks =>
      match decoder.feed chunk with
      | (.error reason, decoder) => ([], some reason, decoder)
      | (.ok frames, decoder) =>
          let rest := decoder.feedAll chunks
          (frames ++ rest.1, rest.2)

theorem feed_of_scan {decoder : FrameDecoder} {bytes rest : List UInt8} {frames : List Frame}
    (alive : decoder.failed = false)
    (done : scan decoder.maxFrameBytes (decoder.buffer ++ bytes) = .ok (frames, rest)) :
    decoder.feed bytes = (.ok frames, { decoder with buffer := rest }) := by
  rw [scan] at done
  simp only [feed, alive, Bool.false_eq_true, if_false, done]

theorem feed_of_scan_error {decoder : FrameDecoder} {bytes : List UInt8} {reason : Error}
    (alive : decoder.failed = false)
    (bad : scan decoder.maxFrameBytes (decoder.buffer ++ bytes) = .error reason) :
    decoder.feed bytes = (.error reason,
      { decoder with buffer := decoder.buffer ++ bytes, failed := true, error := reason }) := by
  rw [scan] at bad
  simp only [feed, alive, Bool.false_eq_true, if_false, bad]

/-- However a scannable stream is cut, the chunks give its frames and leave its rest. -/
theorem feedAll_of_scan {decoder : FrameDecoder} {chunks : List (List UInt8)}
    {rest : List UInt8} {frames : List Frame} (alive : decoder.failed = false)
    (settled : scan decoder.maxFrameBytes decoder.buffer = .ok ([], decoder.buffer))
    (done : scan decoder.maxFrameBytes (decoder.buffer ++ chunks.flatten) = .ok (frames, rest)) :
    decoder.feedAll chunks = (frames, none, { decoder with buffer := rest }) := by
  induction chunks generalizing decoder frames with
  | nil =>
      rw [List.flatten_nil, List.append_nil, settled] at done
      obtain ⟨rfl, rfl⟩ := Prod.mk.inj (Except.ok.inj done)
      rfl
  | cons chunk chunks ih =>
      rw [List.flatten_cons, ← List.append_assoc] at done
      cases first : scan decoder.maxFrameBytes (decoder.buffer ++ chunk) with
      | error reason =>
          -- A bad length stays bad with more bytes behind it.
          rw [scan_error_append first] at done
          cases done
      | ok result =>
          obtain ⟨early, middle⟩ := result
          have continued := scan_append first chunks.flatten
          rw [done] at continued
          cases later : scan decoder.maxFrameBytes (middle ++ chunks.flatten) with
          | error reason =>
              rw [later] at continued
              cases continued
          | ok tail =>
              rw [later] at continued
              obtain ⟨rfl, rfl⟩ := Prod.mk.inj (Except.ok.inj continued)
              have others := @ih { decoder with buffer := middle } _ alive (scan_rest first) later
              simp only [feedAll, feed_of_scan alive first, others]

/-! ## Encoded frames -/

theorem headerBytes_length (header : Header) : (headerBytes header).length = kHeaderSize := by
  simp [headerBytes, kHeaderSize]

theorem headerFrom_headerBytes (header : Header) (body : List UInt8) :
    headerFrom (headerBytes header ++ body) = header := by
  have session : (storeBe 2 header.sessionId.toNat).length = 2 := storeBe_length _ _
  have system : (storeBe 4 header.systemBytes.toNat).length = 4 := storeBe_length _ _
  have first : loadBe (storeBe 2 header.sessionId.toNat) = header.sessionId.toNat :=
    loadBe_storeBe header.sessionId.toNat_lt
  have last : loadBe (storeBe 4 header.systemBytes.toNat) = header.systemBytes.toNat :=
    loadBe_storeBe header.systemBytes.toNat_lt
  obtain ⟨s0, s1, sessionEq⟩ := List.length_eq_two.mp session
  simp only [headerBytes, headerFrom, sessionEq] at first ⊢
  simp [first, system, last]

/-- An encoded frame within the limit is the next frame of every buffer it starts. -/
theorem nextFrame_encodeFrame {maxFrameBytes : Nat} {frame : Frame} {bytes : List UInt8}
    (encoded : encodeFrame frame = .ok bytes)
    (fits : kHeaderSize + frame.body.length ≤ maxFrameBytes) (rest : List UInt8) :
    nextFrame maxFrameBytes (bytes ++ rest) = .ok (some (frame, rest)) := by
  simp only [encodeFrame] at encoded
  split at encoded
  · cases encoded
  next small =>
    have length : (storeBe 4 (kHeaderSize + frame.body.length)).length = kLengthFieldSize :=
      storeBe_length _ _
    have value : loadBe (storeBe 4 (kHeaderSize + frame.body.length)) =
        kHeaderSize + frame.body.length := loadBe_storeBe (by omega)
    have header := headerBytes_length frame.header
    rw [← Except.ok.inj encoded]
    have total : (storeBe 4 (kHeaderSize + frame.body.length) ++ headerBytes frame.header ++
        frame.body ++ rest).length =
          kLengthFieldSize + (kHeaderSize + frame.body.length) + rest.length := by
      simp only [List.length_append, length, header]
      omega
    have front : (storeBe 4 (kHeaderSize + frame.body.length) ++ headerBytes frame.header ++
        frame.body ++ rest).take kLengthFieldSize =
          storeBe 4 (kHeaderSize + frame.body.length) := by
      rw [List.append_assoc, List.append_assoc, ← length, List.take_left]
    have content : ((storeBe 4 (kHeaderSize + frame.body.length) ++ headerBytes frame.header ++
        frame.body ++ rest).drop kLengthFieldSize).take (kHeaderSize + frame.body.length) =
          headerBytes frame.header ++ frame.body := by
      rw [List.append_assoc, List.append_assoc, ← length, List.drop_left, ← header,
        ← List.append_assoc, ← List.length_append, List.take_left]
    have behind : (storeBe 4 (kHeaderSize + frame.body.length) ++ headerBytes frame.header ++
        frame.body ++ rest).drop (kLengthFieldSize + (kHeaderSize + frame.body.length)) =
          rest := by
      rw [← length, ← header, ← List.length_append, ← List.length_append, ← List.append_assoc,
        List.drop_left]
    have body : (headerBytes frame.header ++ frame.body).drop kHeaderSize = frame.body := by
      rw [← header, List.drop_left]
    rw [nextFrame_eq_some, front, value, content, behind, body, headerFrom_headerBytes, total]
    exact ⟨Nat.le_add_right _ _, fits, Nat.le_add_right _ _, rfl, rfl⟩

/-! ## Streams of frames -/

/-- The bytes of well-formed frames, one after the other, none above the limit. -/
inductive Encodes (maxFrameBytes : Nat) : List Frame → List UInt8 → Prop where
  | nil : Encodes maxFrameBytes [] []
  | cons {frame : Frame} {frames : List Frame} {bytes stream : List UInt8}
      (encoded : encodeFrame frame = .ok bytes)
      (fits : kHeaderSize + frame.body.length ≤ maxFrameBytes)
      (later : Encodes maxFrameBytes frames stream) :
      Encodes maxFrameBytes (frame :: frames) (bytes ++ stream)

theorem scan_of_encodes {maxFrameBytes : Nat} {frames : List Frame} {stream : List UInt8}
    (encodes : Encodes maxFrameBytes frames stream) :
    scan maxFrameBytes stream = .ok (frames, []) := by
  induction encodes with
  | nil => rfl
  | cons encoded fits later ih =>
      rw [scan_of_some (nextFrame_encodeFrame encoded fits _), ih]
      rfl

/-- The front of such a stream completes the first of its frames. -/
theorem scan_of_front {maxFrameBytes : Nat} {frames : List Frame} {front stream : List UInt8}
    (encodes : Encodes maxFrameBytes frames stream) (isFront : front <+: stream) :
    ∃ done rest, scan maxFrameBytes front = .ok (done, rest) ∧ done <+: frames := by
  obtain ⟨more, rfl⟩ := isFront
  have whole := scan_of_encodes encodes
  cases found : scan maxFrameBytes front with
  | error reason =>
      rw [scan_error_append found more] at whole
      cases whole
  | ok result =>
      obtain ⟨done, rest⟩ := result
      rw [scan_append found more] at whole
      refine ⟨done, rest, rfl, ?_⟩
      cases later : scan maxFrameBytes (rest ++ more) with
      | error reason =>
          rw [later] at whole
          cases whole
      | ok last =>
          rw [later] at whole
          exact ⟨last.1, congrArg Prod.fst (Except.ok.inj whole)⟩

end Ssim.Hsms.FrameDecoder
