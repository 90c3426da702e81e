import Ssim.Hsms.FrameStream

/-!
# Splits of a byte stream

However a stream of frames is cut, the decoder has returned exactly the frames that
are complete in what it was fed, and holds back exactly the bytes of an unfinished one.
A stream with a bad length field is refused in every split, but the feed that meets the
bad length drops the frames that it has completed itself.
-/

namespace Ssim.Hsms.FrameDecoder

open Ssim.Core (Error Result)
open Library.BigEndian

/-! ## Sizes -/

/-- The bytes of an encoded frame. -/
def frameSize (frame : Frame) : Nat :=
  kLengthFieldSize + (kHeaderSize + frame.body.length)

def streamSize (frames : List Frame) : Nat :=
  (frames.map frameSize).sum

/-- The frames that lie completely in the first `count` bytes of their stream. -/
def completeIn : List Frame → Nat → List Frame
  | [], _ => []
  | frame :: frames, count =>
      if frameSize frame ≤ count then
        frame :: completeIn frames (count - frameSize frame)
      else
        []

/-- The first `count` bytes of the stream end strictly inside a frame. -/
def EndsInside (frames : List Frame) (count : Nat) : Prop :=
  ∃ before frame after, frames = before ++ frame :: after ∧ streamSize before < count ∧
    count < streamSize before + frameSize frame

theorem not_endsInside_nil (count : Nat) : ¬ EndsInside [] count := by
  rintro ⟨before, frame, after, same, -, -⟩
  simp at same

/-- Behind its first frame, a stream ends inside a frame as its tail does. -/
theorem endsInside_cons {frame : Frame} {frames : List Frame} {count : Nat}
    (complete : frameSize frame ≤ count) :
    EndsInside (frame :: frames) count ↔ EndsInside frames (count - frameSize frame) := by
  constructor
  · rintro ⟨_ | ⟨first, before⟩, inside, after, same, begun, unfinished⟩
    · obtain ⟨rfl, rfl⟩ := List.cons.inj same
      simp only [streamSize, List.map_nil, List.sum_nil] at unfinished
      omega
    · obtain ⟨rfl, rfl⟩ := List.cons.inj same
      simp only [streamSize, List.map_cons, List.sum_cons] at begun unfinished
      exact ⟨before, inside, after, rfl, by simp only [streamSize]; omega,
        by simp only [streamSize]; omega⟩
  · rintro ⟨before, inside, after, rfl, begun, unfinished⟩
    refine ⟨frame :: before, inside, after, rfl, ?_, ?_⟩
    · simp only [streamSize, List.map_cons, List.sum_cons] at begun ⊢
      omega
    · simp only [streamSize, List.map_cons, List.sum_cons] at unfinished ⊢
      omega

/-- Within the first frame, a stream ends inside a frame unless it is empty. -/
theorem endsInside_first {frame : Frame} {frames : List Frame} {count : Nat}
    (unfinished : count < frameSize frame) : EndsInside (frame :: frames) count ↔ 0 < count := by
  constructor
  · rintro ⟨before, inside, after, same, begun, -⟩
    omega
  · intro begun
    exact ⟨[], frame, frames, rfl, by simpa [streamSize] using begun,
      by simpa [streamSize] using unfinished⟩

/-! ## Fronts of a stream -/

theorem encodeFrame_length {frame : Frame} {bytes : List UInt8}
    (encoded : encodeFrame frame = .ok bytes) : bytes.length = frameSize frame := by
  simp only [encodeFrame] at encoded
  split at encoded
  · cases encoded
  · rw [← Except.ok.inj encoded]
    simp [headerBytes_length, frameSize, kLengthFieldSize]

/-- A proper front of an encoded frame is waited for. -/
theorem nextFrame_of_part {maxFrameBytes : Nat} {frame : Frame} {bytes part : List UInt8}
    (encoded : encodeFrame frame = .ok bytes)
    (fits : kHeaderSize + frame.body.length ≤ maxFrameBytes) (isFront : part <+: bytes)
    (unfinished : part.length < bytes.length) : nextFrame maxFrameBytes part = .ok none := by
  obtain ⟨more, rfl⟩ := isFront
  have whole := nextFrame_encodeFrame encoded fits []
  rw [List.append_nil] at whole
  cases found : nextFrame maxFrameBytes part with
  | error reason =>
      rw [nextFrame_error_append found more] at whole
      cases whole
  | ok outcome =>
      cases outcome with
      | none => rfl
      | some next =>
          rw [nextFrame_append found more] at whole
          have rest := (Prod.mk.inj (Option.some.inj (Except.ok.inj whole))).2
          obtain ⟨-, rfl⟩ := List.append_eq_nil_iff.mp rest
          simp at unfinished

/-- The scan of a front of a stream: its complete frames, and a rest if it ends inside one. -/
theorem scan_front {maxFrameBytes : Nat} {frames : List Frame} {front stream : List UInt8}
    (encodes : Encodes maxFrameBytes frames stream) (isFront : front <+: stream) :
    ∃ rest, scan maxFrameBytes front = .ok (completeIn frames front.length, rest) ∧
      (rest ≠ [] ↔ EndsInside frames front.length) := by
  induction encodes generalizing front with
  | nil =>
      obtain rfl := List.prefix_nil.mp isFront
      exact ⟨[], rfl, by simp [not_endsInside_nil]⟩
  | @cons frame frames bytes stream encoded fits later ih =>
      have size := encodeFrame_length encoded
      by_cases complete : frameSize frame ≤ front.length
      · obtain ⟨behind, rfl⟩ : bytes <+: front :=
          List.prefix_of_prefix_length_le (List.prefix_append bytes stream) isFront (by omega)
        have shorter : (bytes ++ behind).length - frameSize frame = behind.length := by
          rw [List.length_append]
          omega
        obtain ⟨rest, scanned, inside⟩ := ih ((List.prefix_append_right_inj bytes).mp isFront)
        refine ⟨rest, ?_, ?_⟩
        · rw [scan_of_some (nextFrame_encodeFrame encoded fits behind), scanned, completeIn,
            if_pos complete, shorter]
          rfl
        · rw [endsInside_cons complete, shorter]
          exact inside
      · have part : front <+: bytes :=
          List.prefix_of_prefix_length_le isFront (List.prefix_append bytes stream) (by omega)
        refine ⟨front, ?_, ?_⟩
        · rw [scan_of_none (nextFrame_of_part encoded fits part (by omega)), completeIn,
            if_neg complete]
        · rw [endsInside_first (by omega), List.length_pos_iff]

/-! ## What stays buffered -/

/-- What is waited for is an unfinished length field, or less than a frame within the limit. -/
theorem length_of_nextFrame_none {maxFrameBytes : Nat} {buffer : List UInt8}
    (waiting : nextFrame maxFrameBytes buffer = .ok none) :
    buffer.length < kLengthFieldSize + maxFrameBytes := by
  simp only [nextFrame] at waiting
  split at waiting
  next short => omega
  next =>
    split at waiting
    · cases waiting
    · split at waiting
      · cases waiting
      next notTooLong =>
        split at waiting
        next incomplete => omega
        next => cases waiting

theorem nextFrame_of_scan {maxFrameBytes : Nat} {buffer rest : List UInt8}
    (done : scan maxFrameBytes buffer = .ok ([], rest)) :
    nextFrame maxFrameBytes buffer = .ok none := by
  rw [scan_eq] at done
  split at done
  · cases done
  next waiting => exact waiting
  · split at done
    · cases done
    · cases done

theorem feed_buffer_lt {decoder after : FrameDecoder} {bytes : List UInt8} {frames : List Frame}
    (fed : decoder.feed bytes = (.ok frames, after)) :
    after.buffer.length < kLengthFieldSize + decoder.maxFrameBytes := by
  simp only [feed] at fed
  split at fed
  · cases fed
  · split at fed
    · cases fed
    next scanned =>
      obtain ⟨-, rfl⟩ := Prod.mk.inj fed
      exact length_of_nextFrame_none (nextFrame_of_scan (scan_rest scanned))

/-! ## Streams of frames, however they are cut -/

/-- Frames within the limit, and within 32 bits, have a stream. -/
theorem exists_encodes {maxFrameBytes : Nat} {frames : List Frame}
    (fit : ∀ frame ∈ frames, kHeaderSize + frame.body.length ≤ maxFrameBytes ∧
      kHeaderSize + frame.body.length < 2 ^ 32) :
    ∃ stream, Encodes maxFrameBytes frames stream := by
  induction frames with
  | nil => exact ⟨[], .nil⟩
  | cons frame frames ih =>
      obtain ⟨head, tail⟩ := List.forall_mem_cons.mp fit
      obtain ⟨stream, encodes⟩ := ih tail
      exact ⟨_, .cons (if_neg (by omega)) head.1 encodes⟩

theorem fresh_feedAll_of_scan {maxFrameBytes : Nat} {chunks : List (List UInt8)}
    {rest : List UInt8} {frames : List Frame}
    (done : scan maxFrameBytes chunks.flatten = .ok (frames, rest)) :
    (fresh maxFrameBytes).feedAll chunks =
      (frames, none, { fresh maxFrameBytes with buffer := rest }) :=
  feedAll_of_scan rfl rfl done

/--
However the stream of frames is cut into chunks, no feed reports an error; after any
number of chunks the frames returned are those complete in the bytes fed, in order, and
the decoder holds a part exactly when those bytes end inside a frame.  After a successful
feed of any bytes, less than a length field and a largest frame stays buffered.
-/
theorem frame_stream_round_trip (maxFrameBytes : Nat) :
    (∀ frames : List Frame,
      (∀ frame ∈ frames, kHeaderSize + frame.body.length ≤ maxFrameBytes ∧
        kHeaderSize + frame.body.length < 2 ^ 32) →
      ∃ stream, Encodes maxFrameBytes frames stream ∧
        ∀ chunks : List (List UInt8), chunks.flatten = stream → ∀ count,
          ∃ decoder,
            (fresh maxFrameBytes).feedAll (chunks.take count) =
              (completeIn frames (chunks.take count).flatten.length, none, decoder) ∧
            (decoder.hasPartial = true ↔
              EndsInside frames (chunks.take count).flatten.length)) ∧
    ∀ (decoder after : FrameDecoder) (bytes : List UInt8) (frames : List Frame),
      decoder.maxFrameBytes = maxFrameBytes → decoder.feed bytes = (.ok frames, after) →
        after.buffer.length < kLengthFieldSize + maxFrameBytes := by
  refine ⟨fun frames fit => ?_, ?_⟩
  · obtain ⟨stream, encodes⟩ := exists_encodes fit
    refine ⟨stream, encodes, fun chunks whole count => ?_⟩
    have isFront : (chunks.take count).flatten <+: stream := by
      refine ⟨(chunks.drop count).flatten, ?_⟩
      rw [← List.flatten_append, List.take_append_drop, whole]
    obtain ⟨rest, scanned, inside⟩ := scan_front encodes isFront
    refine ⟨_, fresh_feedAll_of_scan scanned, ?_⟩
    rw [← inside, hasPartial]
    simp
  · rintro decoder after bytes frames rfl fed
    exact feed_buffer_lt fed

/-- A stream of two control frames, none of it fed yet. -/
theorem frame_stream_round_trip_control :
    ∃ stream, Encodes 10 [makeControlFrame .linktestReq 1 0 0, makeControlFrame .selectReq 2 0 0]
      stream ∧ ∃ decoder, (fresh 10).feedAll [] = ([], none, decoder) ∧
        decoder.hasPartial = false := by
  obtain ⟨stream, encodes, feeds⟩ := (frame_stream_round_trip 10).1
    [makeControlFrame .linktestReq 1 0 0, makeControlFrame .selectReq 2 0 0] (by
      simp [makeControlFrame, kHeaderSize])
  obtain ⟨decoder, fed, inside⟩ := feeds [stream] (by simp) 0
  refine ⟨stream, encodes, decoder, fed, ?_⟩
  obtain ⟨-, -, rfl⟩ := fed
  rfl

/-! ## Streams with a bad length field -/

/-- The bytes begin with a length below the header or above the limit. -/
def BadLength (maxFrameBytes : Nat) (bytes : List UInt8) : Prop :=
  kLengthFieldSize ≤ bytes.length ∧
    (loadBe (bytes.take kLengthFieldSize) < kHeaderSize ∨
      maxFrameBytes < loadBe (bytes.take kLengthFieldSize))

theorem nextFrame_of_badLength {maxFrameBytes : Nat} {bytes : List UInt8}
    (bad : BadLength maxFrameBytes bytes) :
    ∃ reason, nextFrame maxFrameBytes bytes = .error reason := by
  obtain ⟨complete, outside⟩ := bad
  simp only [nextFrame, if_neg (by omega : ¬ bytes.length < kLengthFieldSize)]
  split
  · exact ⟨_, rfl⟩
  · rw [if_pos (by omega)]
    exact ⟨_, rfl⟩

theorem badLength_of_nextFrame {maxFrameBytes : Nat} {bytes : List UInt8} {reason : Error}
    (refused : nextFrame maxFrameBytes bytes = .error reason) :
    BadLength maxFrameBytes bytes := by
  simp only [nextFrame] at refused
  split at refused
  · cases refused
  next complete =>
    refine ⟨by omega, ?_⟩
    split at refused
    next short => exact .inl short
    next =>
      split at refused
      next long => exact .inr long
      next =>
        split at refused
        · cases refused
        · cases refused

theorem headerBytes_headerFrom {bytes : List UInt8} (complete : kHeaderSize ≤ bytes.length) :
    headerBytes (headerFrom bytes) = bytes.take kHeaderSize := by
  obtain ⟨front, back, rfl, ten⟩ : ∃ front back, bytes = front ++ back ∧ front.length = 10 :=
    ⟨bytes.take 10, bytes.drop 10, (List.take_append_drop 10 bytes).symm, by
      simpa [kHeaderSize] using complete⟩
  obtain ⟨b0, b1, b2, b3, b4, b5, b6, b7, b8, b9, rfl⟩ : ∃ b0 b1 b2 b3 b4 b5 b6 b7 b8 b9,
      [b0, b1, b2, b3, b4, b5, b6, b7, b8, b9] = front := by
    simpa [List.length_eq_succ_iff] using ten
  have session : (UInt16.ofNat (loadBe [b0, b1])).toNat = loadBe [b0, b1] :=
    UInt16.toNat_ofNat_of_lt' (by simpa using loadBe_lt [b0, b1])
  have system : (UInt32.ofNat (loadBe [b6, b7, b8, b9])).toNat = loadBe [b6, b7, b8, b9] :=
    UInt32.toNat_ofNat_of_lt' (by simpa using loadBe_lt [b6, b7, b8, b9])
  have first : storeBe 2 (loadBe [b0, b1]) = [b0, b1] := storeBe_loadBe [b0, b1]
  have last : storeBe 4 (loadBe [b6, b7, b8, b9]) = [b6, b7, b8, b9] :=
    storeBe_loadBe [b6, b7, b8, b9]
  simp [headerBytes, headerFrom, kHeaderSize, session, system, first, last]

/-- A length field and the bytes it counts are the encoding of the frame read from them. -/
theorem encodeFrame_of_content {field content : List UInt8}
    (four : field.length = kLengthFieldSize) (counts : loadBe field = content.length)
    (header : kHeaderSize ≤ content.length) :
    encodeFrame ⟨headerFrom content, content.drop kHeaderSize⟩ = .ok (field ++ content) := by
  have small : content.length < 256 ^ 4 := by
    rw [← counts, ← show field.length = 4 from four]
    exact loadBe_lt field
  have stored : storeBe 4 content.length = field := by
    rw [← counts, ← show field.length = 4 from four]
    exact storeBe_loadBe field
  have length : kHeaderSize + (content.drop kHeaderSize).length = content.length := by
    rw [List.length_drop]
    omega
  simp only [encodeFrame, length]
  rw [if_neg (by omega), headerBytes_headerFrom header, stored, List.append_assoc,
    List.take_append_drop]

/-- A frame that is found is the encoding of that frame. -/
theorem encodes_of_nextFrame {maxFrameBytes : Nat} {buffer rest : List UInt8} {frame : Frame}
    (found : nextFrame maxFrameBytes buffer = .ok (some (frame, rest))) :
    ∃ bytes, encodeFrame frame = .ok bytes ∧ kHeaderSize + frame.body.length ≤ maxFrameBytes ∧
      buffer = bytes ++ rest := by
  obtain ⟨longEnough, notTooLong, complete, rfl, rfl⟩ := nextFrame_eq_some.mp found
  have field : (buffer.take kLengthFieldSize).length = kLengthFieldSize := by
    rw [List.length_take]
    omega
  have content : ((buffer.drop kLengthFieldSize).take
      (loadBe (buffer.take kLengthFieldSize))).length =
        loadBe (buffer.take kLengthFieldSize) := by
    rw [List.length_take, List.length_drop]
    omega
  refine ⟨_, encodeFrame_of_content field content.symm (by omega), ?_, ?_⟩
  · rw [List.length_drop, content]
    omega
  · rw [← List.drop_drop, List.append_assoc, List.take_append_drop, List.take_append_drop]

/-- A scan that succeeds has cut the buffer into the encodings of its frames and a rest. -/
theorem encodes_of_scan {maxFrameBytes : Nat} {buffer rest : List UInt8} {frames : List Frame}
    (done : scan maxFrameBytes buffer = .ok (frames, rest)) :
    ∃ front, Encodes maxFrameBytes frames front ∧ buffer = front ++ rest := by
  induction frames generalizing buffer with
  | nil =>
      rw [scan_of_none (nextFrame_of_scan done)] at done
      obtain ⟨-, rfl⟩ := Prod.mk.inj (Except.ok.inj done)
      exact ⟨[], .nil, rfl⟩
  | cons frame frames ih =>
      rw [scan_eq] at done
      split at done
      · cases done
      · cases done
      next found =>
        split at done
        · cases done
        next continued =>
          obtain ⟨same, rfl⟩ := Prod.mk.inj (Except.ok.inj done)
          obtain ⟨rfl, rfl⟩ := List.cons.inj same
          obtain ⟨bytes, encoded, fits, rfl⟩ := encodes_of_nextFrame found
          obtain ⟨front, encodes, rfl⟩ := ih continued
          exact ⟨bytes ++ front, .cons encoded fits encodes, by rw [List.append_assoc]⟩

/-- Behind the encodings of frames, a scan goes on with the rest. -/
theorem scan_encodes_append {maxFrameBytes : Nat} {frames : List Frame} {front : List UInt8}
    (encodes : Encodes maxFrameBytes frames front) (rest : List UInt8) :
    scan maxFrameBytes (front ++ rest) =
      (scan maxFrameBytes rest).map fun result => (frames ++ result.1, result.2) := by
  rw [scan_append (scan_of_encodes encodes) rest, List.nil_append]

/-- A scan that fails has cut the buffer into encodings of frames and a bad length. -/
theorem badLength_of_scan {maxFrameBytes : Nat} {buffer : List UInt8} {reason : Error}
    (refused : scan maxFrameBytes buffer = .error reason) :
    ∃ frames front tail, Encodes maxFrameBytes frames front ∧ buffer = front ++ tail ∧
      BadLength maxFrameBytes tail := by
  induction size : buffer.length using Nat.strong_induction_on generalizing buffer with
  | h size ih =>
      rw [scan_eq] at refused
      split at refused
      next bad => exact ⟨[], [], buffer, .nil, rfl, badLength_of_nextFrame bad⟩
      · cases refused
      next frame rest found =>
        split at refused
        next later =>
          have shorter := size ▸ nextFrame_shorter found
          obtain rfl := Except.error.inj refused
          obtain ⟨bytes, encoded, fits, rfl⟩ := encodes_of_nextFrame found
          obtain ⟨frames, front, tail, encodes, rfl, bad⟩ := ih _ shorter later rfl
          exact ⟨frame :: frames, bytes ++ front, tail, .cons encoded fits encodes,
            by rw [List.append_assoc], bad⟩
        · cases refused

theorem scan_of_badLength {maxFrameBytes : Nat} {frames : List Frame} {front tail : List UInt8}
    (encodes : Encodes maxFrameBytes frames front) (bad : BadLength maxFrameBytes tail) :
    ∃ reason, scan maxFrameBytes (front ++ tail) = .error reason := by
  obtain ⟨reason, refused⟩ := nextFrame_of_badLength bad
  refine ⟨reason, ?_⟩
  rw [scan_encodes_append encodes, scan_eq, refused]
  rfl

/-- A split of a refused stream: the chunks before the one that meets the bad length count. -/
theorem feedAll_of_scan_error {decoder : FrameDecoder} {chunks : List (List UInt8)}
    {reason : Error} (alive : decoder.failed = false)
    (settled : scan decoder.maxFrameBytes decoder.buffer = .ok ([], decoder.buffer))
    (refused : scan decoder.maxFrameBytes (decoder.buffer ++ chunks.flatten) = .error reason) :
    ∃ earlier chunk later done rest, chunks = earlier ++ chunk :: later ∧
      scan decoder.maxFrameBytes (decoder.buffer ++ earlier.flatten) = .ok (done, rest) ∧
      scan decoder.maxFrameBytes (decoder.buffer ++ (earlier ++ [chunk]).flatten) =
        .error reason ∧
      (decoder.feedAll chunks).1 = done ∧ (decoder.feedAll chunks).2.1 = some reason := by
  induction chunks generalizing decoder with
  | nil =>
      rw [List.flatten_nil, List.append_nil, settled] at refused
      cases refused
  | cons chunk chunks ih =>
      cases first : scan decoder.maxFrameBytes (decoder.buffer ++ chunk) with
      | error found =>
          have same := scan_error_append first chunks.flatten
          rw [List.append_assoc, ← List.flatten_cons, refused] at same
          obtain rfl := Except.error.inj same
          refine ⟨[], chunk, chunks, [], decoder.buffer, rfl, by simpa using settled, ?_, ?_⟩
          · simpa using first
          · simp [feedAll, feed_of_scan_error alive first]
      | ok result =>
          obtain ⟨early, middle⟩ := result
          have continued := scan_append first chunks.flatten
          rw [List.append_assoc, ← List.flatten_cons, refused] at continued
          cases later : scan decoder.maxFrameBytes (middle ++ chunks.flatten) with
          | ok tail =>
              rw [later] at continued
              cases continued
          | error found =>
              rw [later] at continued
              obtain rfl := Except.error.inj continued
              obtain ⟨earlier, last, others, done, rest, rfl, scanned, stopped, frames, outcome⟩ :=
                @ih { decoder with buffer := middle } alive (scan_rest first) later
              refine ⟨chunk :: earlier, last, others, early ++ done, rest, rfl, ?_, ?_, ?_⟩
              · rw [List.flatten_cons, ← List.append_assoc, scan_append first, scanned]
                rfl
              · rw [List.cons_append, List.flatten_cons, ← List.append_assoc, scan_append first,
                  stopped]
                rfl
              · simp only [feedAll, feed_of_scan alive first]
                exact ⟨by rw [frames], outcome⟩

theorem fresh_feedAll_of_scan_error {maxFrameBytes : Nat} {chunks : List (List UInt8)}
    {reason : Error} (refused : scan maxFrameBytes chunks.flatten = .error reason) :
    ∃ earlier chunk later done rest, chunks = earlier ++ chunk :: later ∧
      scan maxFrameBytes earlier.flatten = .ok (done, rest) ∧
      scan maxFrameBytes (earlier ++ [chunk]).flatten = .error reason ∧
      ((fresh maxFrameBytes).feedAll chunks).1 = done ∧
      ((fresh maxFrameBytes).feedAll chunks).2.1 = some reason :=
  @feedAll_of_scan_error (fresh maxFrameBytes) chunks reason rfl rfl refused

theorem encodes_unique {maxFrameBytes : Nat} {frames : List Frame} {front other : List UInt8}
    (encodes : Encodes maxFrameBytes frames front)
    (again : Encodes maxFrameBytes frames other) : front = other := by
  induction encodes generalizing other with
  | nil =>
      cases again
      rfl
  | cons encoded fits later ih =>
      cases again with
      | cons encodedAgain fitsAgain laterAgain =>
          rw [encoded] at encodedAgain
          rw [Except.ok.inj encodedAgain, ih laterAgain]

/-- A part of a stream that is scanned ends before the fourth byte of the bad length. -/
theorem scanned_before_badLength {maxFrameBytes : Nat} {frames done : List Frame}
    {front tail part rest : List UInt8} (encodes : Encodes maxFrameBytes frames front)
    (bad : BadLength maxFrameBytes tail) (isFront : part <+: front ++ tail)
    (scanned : scan maxFrameBytes part = .ok (done, rest)) :
    part.length < front.length + kLengthFieldSize := by
  by_contra beyond
  obtain ⟨begun, rfl⟩ : front <+: part :=
    List.prefix_of_prefix_length_le (List.prefix_append front tail) isFront (by omega)
  rw [List.length_append] at beyond
  obtain ⟨more, rfl⟩ := (List.prefix_append_right_inj front).mp isFront
  have stillBad : BadLength maxFrameBytes begun := by
    obtain ⟨-, outside⟩ := bad
    rw [List.take_append_of_le_length (by omega)] at outside
    exact ⟨by omega, outside⟩
  obtain ⟨reason, refused⟩ := scan_of_badLength encodes stillBad
  rw [refused] at scanned
  cases scanned

/-- A cut between the last frame and the fourth byte of the bad length brings out all frames. -/
theorem scan_at_badLength {maxFrameBytes : Nat} {frames : List Frame} {front tail part : List UInt8}
    (encodes : Encodes maxFrameBytes frames front) (isFront : part <+: front ++ tail)
    (behind : front.length ≤ part.length)
    (before : part.length < front.length + kLengthFieldSize) :
    ∃ rest, scan maxFrameBytes part = .ok (frames, rest) := by
  obtain ⟨begun, rfl⟩ : front <+: part :=
    List.prefix_of_prefix_length_le (List.prefix_append front tail) isFront behind
  rw [List.length_append] at before
  have waiting : nextFrame maxFrameBytes begun = .ok none := by
    rw [nextFrame, if_pos (by omega)]
  exact ⟨begun, by rw [scan_encodes_append encodes, scan_of_none waiting]; simp [Except.map]⟩

/-- Some chunk ends behind the frames and before the fourth byte that follows them. -/
def CutsBehind (front : List UInt8) (chunks : List (List UInt8)) : Prop :=
  ∃ count, front.length ≤ (chunks.take count).flatten.length ∧
    (chunks.take count).flatten.length < front.length + kLengthFieldSize

/-- A split returns all frames before the bad length exactly when it cuts there. -/
theorem returns_all_iff {maxFrameBytes : Nat} {frames : List Frame} {front tail : List UInt8}
    (encodes : Encodes maxFrameBytes frames front) (bad : BadLength maxFrameBytes tail)
    {chunks : List (List UInt8)} (whole : chunks.flatten = front ++ tail) :
    ((fresh maxFrameBytes).feedAll chunks).1 = frames ↔ CutsBehind front chunks := by
  obtain ⟨reason, refused⟩ := scan_of_badLength encodes bad
  rw [← whole] at refused
  obtain ⟨earlier, chunk, later, done, rest, rfl, scanned, stopped, returned, -⟩ :=
    fresh_feedAll_of_scan_error refused
  have isFront : earlier.flatten <+: front ++ tail :=
    ⟨(chunk :: later).flatten, by rw [← List.flatten_append, whole]⟩
  have before := scanned_before_badLength encodes bad isFront scanned
  rw [returned]
  constructor
  · rintro rfl
    obtain ⟨bytes, again, cut⟩ := encodes_of_scan scanned
    obtain rfl := encodes_unique encodes again
    refine ⟨earlier.length, ?_, ?_⟩
    · rw [List.take_left, cut, List.length_append]
      omega
    · rwa [List.take_left]
  · rintro ⟨count, behind, early⟩
    -- A later cut would lie behind the bad length, so this one is no later than `earlier`.
    have notLater : count ≤ earlier.length := by
      by_contra beyond
      have isPart : ((earlier ++ chunk :: later).take count).flatten <+: front ++ tail := by
        refine ⟨((earlier ++ chunk :: later).drop count).flatten, ?_⟩
        rw [← List.flatten_append, List.take_append_drop, whole]
      obtain ⟨left, found⟩ := scan_at_badLength encodes isPart behind early
      have cut : (earlier ++ chunk :: later).take count =
          earlier ++ [chunk] ++ later.take (count - earlier.length - 1) := by
        obtain ⟨others, rfl⟩ := Nat.exists_eq_add_of_lt (Nat.lt_of_not_le beyond)
        rw [Nat.add_assoc, List.take_length_add_append, List.take_succ_cons]
        simp
      rw [cut, List.flatten_append, scan_error_append stopped] at found
      cases found
    have longer : ((earlier ++ chunk :: later).take count).flatten.length ≤
        earlier.flatten.length := by
      rw [List.take_append_of_le_length notLater]
      conv_rhs => rw [← List.take_append_drop count earlier, List.flatten_append]
      rw [List.length_append]
      omega
    obtain ⟨left, found⟩ := scan_at_badLength encodes isFront (by omega) before
    rw [scanned] at found
    exact (Prod.mk.inj (Except.ok.inj found)).1

/-- The outcome of a split is the outcome of the whole stream. -/
theorem feedAll_outcome (maxFrameBytes : Nat) (chunks : List (List UInt8)) :
    ((fresh maxFrameBytes).feedAll chunks).2.1 =
      match scan maxFrameBytes chunks.flatten with
      | .error reason => some reason
      | .ok _ => none := by
  cases scanned : scan maxFrameBytes chunks.flatten with
  | error reason =>
      obtain ⟨_, _, _, _, _, -, -, -, -, outcome⟩ := fresh_feedAll_of_scan_error scanned
      exact outcome
  | ok result => rw [fresh_feedAll_of_scan scanned]

/-- The two splits return the same frames and end with the same outcome. -/
def SplitsAgree (maxFrameBytes : Nat) (chunks others : List (List UInt8)) : Prop :=
  ((fresh maxFrameBytes).feedAll chunks).1 = ((fresh maxFrameBytes).feedAll others).1 ∧
    ((fresh maxFrameBytes).feedAll chunks).2.1 = ((fresh maxFrameBytes).feedAll others).2.1

/-- A bad length field comes behind at least one complete frame. -/
def BadLengthBehindFrame (maxFrameBytes : Nat) (stream : List UInt8) : Prop :=
  ∃ frames front tail, frames ≠ [] ∧ Encodes maxFrameBytes frames front ∧
    stream = front ++ tail ∧ BadLength maxFrameBytes tail

/--
All splits of a stream agree exactly when no bad length field comes behind a complete
frame.  All splits of any stream end with the same outcome, and a split of a stream with a
bad length returns every frame before it exactly when some chunk ends behind these frames
and before the fourth byte of the bad length.
-/
theorem splits_agree_iff (maxFrameBytes : Nat) (stream : List UInt8) :
    ((∀ chunks others : List (List UInt8), chunks.flatten = stream → others.flatten = stream →
      SplitsAgree maxFrameBytes chunks others) ↔ ¬ BadLengthBehindFrame maxFrameBytes stream) ∧
    (∀ chunks others : List (List UInt8), chunks.flatten = stream → others.flatten = stream →
      ((fresh maxFrameBytes).feedAll chunks).2.1 = ((fresh maxFrameBytes).feedAll others).2.1) ∧
    ∀ frames front tail, Encodes maxFrameBytes frames front → BadLength maxFrameBytes tail →
      stream = front ++ tail → ∀ chunks : List (List UInt8), chunks.flatten = stream →
        (((fresh maxFrameBytes).feedAll chunks).1 = frames ↔ CutsBehind front chunks) := by
  have outcomes : ∀ chunks others : List (List UInt8), chunks.flatten = stream →
      others.flatten = stream → ((fresh maxFrameBytes).feedAll chunks).2.1 =
        ((fresh maxFrameBytes).feedAll others).2.1 := by
    rintro chunks others rfl same
    rw [feedAll_outcome, feedAll_outcome, same]
  refine ⟨⟨?_, ?_⟩, outcomes, ?_⟩
  · -- The whole stream in one chunk against a cut right behind the frames.
    rintro agree ⟨frames, front, tail, some, encodes, rfl, bad⟩
    obtain ⟨same, -⟩ := agree [front ++ tail] [front, tail] (by simp) (by simp)
    have cut : ((fresh maxFrameBytes).feedAll [front, tail]).1 = frames :=
      (returns_all_iff encodes bad (by simp)).mpr ⟨1, by simp, by simp [kLengthFieldSize]⟩
    obtain ⟨reason, refused⟩ := scan_of_badLength encodes bad
    have none : ((fresh maxFrameBytes).feedAll [front ++ tail]).1 = [] := by
      rw [feedAll, @feed_of_scan_error (fresh maxFrameBytes) (front ++ tail) reason rfl refused]
    exact some (by rw [← cut, ← same, none])
  · intro first chunks others whole again
    refine ⟨?_, outcomes chunks others whole again⟩
    cases scanned : scan maxFrameBytes stream with
    | ok result =>
        rw [fresh_feedAll_of_scan (whole ▸ scanned), fresh_feedAll_of_scan (again ▸ scanned)]
    | error reason =>
        obtain ⟨frames, front, tail, encodes, cut, bad⟩ := badLength_of_scan scanned
        have none : frames = [] := by
          by_contra some
          exact first ⟨frames, front, tail, some, encodes, cut, bad⟩
        subst none
        cases encodes
        have cutsBehind : ∀ cuts, CutsBehind [] cuts := fun cuts =>
          ⟨0, by simp, by simp [kLengthFieldSize]⟩
        rw [(returns_all_iff .nil bad (whole.trans cut)).mpr (cutsBehind chunks),
          (returns_all_iff .nil bad (again.trans cut)).mpr (cutsBehind others)]
  · rintro frames front tail encodes bad rfl chunks whole
    exact returns_all_iff encodes bad whole

/-- A Linktest.req and a length of 0: in one chunk the request is lost. -/
theorem completed_frame_is_dropped :
    ¬ ∀ (maxFrameBytes : Nat) (chunks others : List (List UInt8)),
      chunks.flatten = others.flatten → SplitsAgree maxFrameBytes chunks others := by
  intro agree
  have same := (agree 10 [[0, 0, 0, 10, 255, 255, 0, 0, 0, 5, 0, 0, 0, 1, 0, 0, 0, 0]]
    [[0, 0, 0, 10, 255, 255, 0, 0, 0, 5, 0, 0, 0, 1], [0, 0, 0, 0]] rfl).1
  exact absurd same (by decide)

end Ssim.Hsms.FrameDecoder
