import Mathlib.Data.List.Forall2
import Ssim.Hsms.FrameStream
import Ssim.Library.Correspondence

/-!
# Frames on a byte channel

A byte channel conveys the frames of a frame channel.  The reader's decoder has taken
some of the bytes, and holds those of a frame that is not complete yet.  Reading any
number of bytes takes a number of frames, unless one is above the reader's limit.
-/

namespace Ssim.Hsms

open Ssim.Core (Error Result)
open FrameDecoder
open Library (Channel)
open Library.BigEndian

/-- The greatest length that a length field can hold. -/
def kMaxLength : Nat := 0xFFFFFFFF

/-- The complete frames at the front of a stream. -/
def framesOf (bytes : List UInt8) : List Frame :=
  match scan kMaxLength bytes with
  | .error _ => []
  | .ok (frames, _) => frames

/-- Each vector is the encoding of its frame. -/
def EncodesEach (frames : List Frame) (vectors : List (List UInt8)) : Prop :=
  List.Forall₂ (fun frame bytes => encodeFrame frame = .ok bytes) frames vectors

/-! ## Streams -/

theorem FrameDecoder.Encodes.append {maxFrameBytes : Nat} {frames others : List Frame}
    {stream more : List UInt8} (first : Encodes maxFrameBytes frames stream)
    (second : Encodes maxFrameBytes others more) :
    Encodes maxFrameBytes (frames ++ others) (stream ++ more) := by
  induction first with
  | nil => exact second
  | cons encoded fits _ ih =>
      rw [List.cons_append, List.append_assoc]
      exact .cons encoded fits ih

/-- A frame that can be encoded has a length that fits its field. -/
theorem length_of_encodeFrame {frame : Frame} {bytes : List UInt8}
    (encoded : encodeFrame frame = .ok bytes) : kHeaderSize + frame.body.length ≤ kMaxLength := by
  simp only [encodeFrame] at encoded
  split at encoded
  · cases encoded
  next fits => exact Nat.le_of_not_lt fits

theorem EncodesEach.flatten {frames : List Frame} {vectors : List (List UInt8)}
    (encoded : EncodesEach frames vectors) : Encodes kMaxLength frames vectors.flatten := by
  induction encoded with
  | nil => exact .nil
  | cons one _ ih => exact .cons one (length_of_encodeFrame one) ih

theorem EncodesEach.append {frames others : List Frame} {vectors more : List (List UInt8)}
    (first : EncodesEach frames vectors) (second : EncodesEach others more) :
    EncodesEach (frames ++ others) (vectors ++ more) :=
  List.rel_append first second

theorem EncodesEach.singleton {frame : Frame} {bytes : List UInt8}
    (encoded : encodeFrame frame = .ok bytes) : EncodesEach [frame] [bytes] :=
  .cons encoded .nil

/-- A length field never exceeds the greatest length. -/
theorem nextFrame_unlimited {maxFrameBytes : Nat} {buffer : List UInt8}
    {found : Option (Frame × List UInt8)} (next : nextFrame maxFrameBytes buffer = .ok found) :
    nextFrame kMaxLength buffer = .ok found := by
  have bound : loadBe (buffer.take kLengthFieldSize) ≤ kMaxLength := by
    have small := loadBe_lt (buffer.take kLengthFieldSize)
    have few : (buffer.take kLengthFieldSize).length ≤ 4 := List.length_take_le _ _
    have power : 256 ^ (buffer.take kLengthFieldSize).length ≤ 256 ^ 4 :=
      Nat.pow_le_pow_right (by decide) few
    unfold kMaxLength
    omega
  unfold nextFrame at next ⊢
  dsimp only at next ⊢
  rw [if_neg (Nat.not_lt.mpr bound)]
  split at next
  next short =>
    rw [if_pos short]
    exact next
  next long =>
    rw [if_neg long]
    split at next
    · cases next
    next longEnough =>
      rw [if_neg longEnough]
      split at next
      · cases next
      · exact next

theorem scan_unlimited {maxFrameBytes : Nat} {frames : List Frame} {buffer rest : List UInt8}
    (done : scan maxFrameBytes buffer = .ok (frames, rest)) :
    scan kMaxLength buffer = .ok (frames, rest) := by
  induction frames generalizing buffer with
  | nil =>
      rw [scan_eq] at done
      split at done
      · cases done
      next waiting =>
        obtain ⟨_, rfl⟩ := Prod.mk.inj (Except.ok.inj done)
        exact scan_of_none (nextFrame_unlimited waiting)
      · split at done <;> cases done
  | cons frame frames ih =>
      rw [scan_eq] at done
      split at done
      · cases done
      · cases done
      next head tail found =>
        split at done
        · cases done
        next later =>
          obtain ⟨same, rfl⟩ := Prod.mk.inj (Except.ok.inj done)
          obtain ⟨rfl, rfl⟩ := List.cons.inj same
          rw [scan_of_some (nextFrame_unlimited found), ih later]
          rfl

/-- What a reader with some limit makes of the front of a stream of frames. -/
theorem scan_of_stream {maxFrameBytes : Nat} {frames : List Frame} {front more : List UInt8}
    (encodes : Encodes kMaxLength frames (front ++ more)) :
    (∃ reason, scan maxFrameBytes front = .error reason) ∨
      ∃ count rest, scan maxFrameBytes front = .ok (frames.take count, rest) ∧
        Encodes kMaxLength (frames.drop count) (rest ++ more) := by
  induction frames generalizing front with
  | nil =>
      generalize empty : front ++ more = stream at encodes
      cases encodes
      obtain ⟨rfl, rfl⟩ := List.append_eq_nil_iff.mp empty
      exact .inr ⟨0, [], rfl, .nil⟩
  | cons frame frames ih =>
      cases next : nextFrame maxFrameBytes front with
      | error reason =>
          refine .inl ⟨reason, ?_⟩
          rw [scan_eq, next]
      | ok found =>
          cases found with
          | none => exact .inr ⟨0, front, scan_of_none next, encodes⟩
          | some found =>
              obtain ⟨other, rest⟩ := found
              -- The frame that is found is the first of the stream.
              have whole := nextFrame_append (nextFrame_unlimited next) more
              generalize split : front ++ more = stream at encodes whole
              cases encodes with
              | cons encoded fits later =>
                  rw [nextFrame_encodeFrame encoded fits] at whole
                  obtain ⟨rfl, rfl⟩ := Prod.mk.inj (Option.some.inj (Except.ok.inj whole))
                  rw [scan_of_some next]
                  rcases ih later with ⟨reason, failed⟩ | ⟨count, left, done, ahead⟩
                  · exact .inl ⟨reason, by rw [failed]; rfl⟩
                  · exact .inr ⟨count + 1, left, by rw [done]; rfl, ahead⟩

/-! ## Channels -/

/-- The bytes that were written are those of the frames that were. -/
def Whole (bytes : Channel UInt8) (frames : Channel Frame) : Prop :=
  scan kMaxLength bytes.posted = .ok (frames.posted, [])

/-- The decoder has read what was taken; ahead of it are the frames on their way. -/
structure Conveys (decoder : FrameDecoder) (bytes : Channel UInt8) (frames : Channel Frame) :
    Prop where
  alive : decoder.failed = false
  read : scan kMaxLength bytes.taken = .ok (frames.taken, decoder.buffer)
  ahead : Encodes kMaxLength frames.waiting (decoder.buffer ++ bytes.waiting)

variable {decoder : FrameDecoder} {bytes : Channel UInt8} {frames : Channel Frame}

theorem conveys_empty (maxFrameBytes : Nat) : Conveys (.fresh maxFrameBytes) .empty .empty :=
  ⟨rfl, rfl, .nil⟩

theorem Whole.framesOf (whole : Whole bytes frames) : framesOf bytes.posted = frames.posted := by
  rw [Hsms.framesOf, whole]

theorem Whole.post (whole : Whole bytes frames) {more : List Frame} {vectors : List (List UInt8)}
    (encoded : EncodesEach more vectors) :
    Whole (bytes.post vectors.flatten) (frames.post more) := by
  unfold Whole at *
  rw [Channel.posted_post, Channel.posted_post, scan_append whole, List.nil_append,
    scan_of_encodes encoded.flatten]
  rfl

theorem Whole.take (whole : Whole bytes frames) (size count : Nat) :
    Whole (bytes.take size) (frames.take count) := by
  rw [Whole, Channel.posted_take, Channel.posted_take]
  exact whole

theorem Conveys.whole (conveys : Conveys decoder bytes frames) : Whole bytes frames := by
  rw [Whole, Channel.posted, scan_append conveys.read, scan_of_encodes conveys.ahead]
  rfl

theorem Conveys.framesOf_taken (conveys : Conveys decoder bytes frames) :
    framesOf bytes.taken = frames.taken := by
  rw [framesOf, conveys.read]

/-- The frames read are the first of those written. -/
theorem framesOf_taken_front (whole : Whole bytes frames) :
    framesOf bytes.taken <+: frames.posted := by
  unfold framesOf
  cases done : scan kMaxLength bytes.taken with
  | error reason => exact List.nil_prefix
  | ok found =>
      obtain ⟨early, rest⟩ := found
      unfold Whole at whole
      rw [Channel.posted, scan_append done] at whole
      cases later : scan kMaxLength (rest ++ bytes.waiting) with
      | error reason =>
          rw [later] at whole
          cases whole
      | ok last =>
          rw [later] at whole
          exact ⟨last.1, congrArg Prod.fst (Except.ok.inj whole)⟩

theorem Conveys.post (conveys : Conveys decoder bytes frames) {more : List Frame}
    {vectors : List (List UInt8)} (encoded : EncodesEach more vectors) :
    Conveys decoder (bytes.post vectors.flatten) (frames.post more) := by
  refine ⟨conveys.alive, conveys.read, ?_⟩
  rw [Channel.post_waiting, Channel.post_waiting, ← List.append_assoc]
  exact conveys.ahead.append encoded.flatten

/-- Reading some bytes takes some frames, or ends with a frame that is too long. -/
theorem Conveys.feed (conveys : Conveys decoder bytes frames) (size : Nat) :
    (∃ reason after, decoder.feed (bytes.waiting.take size) = (.error reason, after)) ∨
      ∃ count after,
        decoder.feed (bytes.waiting.take size) = (.ok (frames.waiting.take count), after) ∧
          Conveys after (bytes.take size) (frames.take count) := by
  have stream := conveys.ahead
  rw [← List.take_append_drop size bytes.waiting, ← List.append_assoc] at stream
  have scanned := @scan_of_stream decoder.maxFrameBytes _ _ _ stream
  rcases scanned with ⟨reason, failed⟩ | ⟨count, rest, done, ahead⟩
  · exact .inl ⟨reason, _, feed_of_scan_error conveys.alive failed⟩
  · refine .inr ⟨count, _, feed_of_scan conveys.alive done, conveys.alive, ?_, ahead⟩
    rw [Channel.take, scan_append conveys.read, scan_unlimited done]
    rfl

/-- Once all bytes are read, no frame is on its way. -/
theorem Conveys.drained (conveys : Conveys decoder bytes frames) (read : bytes.waiting = []) :
    frames.waiting = [] := by
  have ahead := conveys.ahead
  rw [read, List.append_nil] at ahead
  have nothing := scan_rest conveys.read
  rw [scan_of_encodes ahead] at nothing
  exact congrArg Prod.fst (Except.ok.inj nothing)

end Ssim.Hsms
