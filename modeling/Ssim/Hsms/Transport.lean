import Ssim.Hsms.FrameStream
import Ssim.Hsms.SystemBytes
import Ssim.Secs2.RoundTrip

/-!
# Message transport

What the session queues for a message is one encoded data frame.  Any frame
decoder with at least the session's limit reads it back, however it is cut, and
the frame turns back into the message up to `BOOLEAN` normalization.
-/

namespace Ssim.Hsms

open Ssim.Core (Error Result)

/-! ## Stream, function and W-bit -/

theorem and_or_right (first second mask : UInt8) :
    (first ||| second) &&& mask = (first &&& mask) ||| (second &&& mask) := by
  rw [← UInt8.toBitVec_inj]
  exact BitVec.and_or_distrib_right

theorem and_0x7F_of_le {stream : UInt8} (small : stream ≤ 127) : stream &&& 0x7F = stream := by
  have bound : stream.toNat ≤ 127 := small
  apply UInt8.toNat_inj.mp
  rw [UInt8.toNat_and]
  exact (Nat.and_two_pow_sub_one_eq_mod stream.toNat 7).trans (Nat.mod_eq_of_lt (by omega))

section DataFrame

variable (sessionId : UInt16) (stream function : UInt8) (wBit : Bool) (systemBytes : UInt32)
  (body : List UInt8)

theorem makeDataFrame_stream :
    (makeDataFrame sessionId stream function wBit systemBytes body).header.stream =
      stream &&& 0x7F := by
  change ((stream &&& 0x7F) ||| (if wBit then 0x80 else 0)) &&& 0x7F = _
  have apart : (0x80 : UInt8) &&& 0x7F = 0 := rfl
  rw [and_or_right, UInt8.and_assoc]
  cases wBit <;> simp [apart]

theorem makeDataFrame_wBit :
    (makeDataFrame sessionId stream function wBit systemBytes body).header.wBit = wBit := by
  change decide (((stream &&& 0x7F) ||| (if wBit then 0x80 else 0)) &&& 0x80 ≠ 0) = wBit
  have apart : (0x7F : UInt8) &&& 0x80 = 0 := rfl
  rw [and_or_right, UInt8.and_assoc]
  cases wBit <;> simp [apart]

end DataFrame

/-! ## Bodies -/

/-- An encoded item is never empty, so an empty body means that there is no item. -/
theorem encode_ne_nil {item : Secs2.Item} {bytes : List UInt8}
    (encoded : Secs2.encode item = .ok bytes) : bytes ≠ [] := by
  obtain ⟨_, _, rfl⟩ := Secs2.encode_eq_ok.mp encoded
  cases item <;> simp [Secs2.wireBytes, Secs2.wireHeader]

/-- The data frame of a message with an encoded body turns back into the message. -/
theorem toMessage_makeDataFrame {message : Secs2.Message} {body : List UInt8}
    (small : message.stream ≤ 127) (encoded : Session.encodeBody message = .ok body)
    (sessionId : UInt16) (systemBytes : UInt32) :
    toMessage (makeDataFrame sessionId message.stream message.function message.wBit systemBytes
      body) = .ok message.normalize := by
  have stream := makeDataFrame_stream sessionId message.stream message.function message.wBit
    systemBytes body
  have wBit := makeDataFrame_wBit sessionId message.stream message.function message.wBit
    systemBytes body
  rw [and_0x7F_of_le small] at stream
  have isData : ¬ (makeDataFrame sessionId message.stream message.function message.wBit
      systemBytes body).header.stype ≠ SType.data.toByte := by simp [makeDataFrame]
  have function : (makeDataFrame sessionId message.stream message.function message.wBit
      systemBytes body).header.function = message.function := rfl
  have content : (makeDataFrame sessionId message.stream message.function message.wBit
      systemBytes body).body = body := rfl
  rw [toMessage, if_neg isData, stream, wBit, function, content]
  cases present : message.body with
  | none =>
      rw [Session.encodeBody, present] at encoded
      rw [← Except.ok.inj encoded]
      simp [Secs2.Message.normalize, present]
  | some item =>
      rw [Session.encodeBody, present] at encoded
      have whole := Secs2.decodeBody_encode encoded
      have nonempty := encode_ne_nil encoded
      simp [nonempty, whole, Secs2.Message.normalize, present]

/-! ## Queued messages -/

namespace Session

/-- What `queueData` appends: one frame within the limits, holding the encoded body. -/
theorem queueData_eq_ok {session : Session} {message : Secs2.Message} {system : UInt32}
    {out result : SessionOutput} (queued : session.queueData message system out = .ok result) :
    ∃ body bytes, encodeBody message = .ok body ∧
      kHeaderSize + body.length ≤ session.config.maxFrameBytes ∧
      encodeFrame (makeDataFrame session.config.deviceId message.stream message.function
        message.wBit system body) = .ok bytes ∧
      result = { out with toSend := out.toSend ++ [bytes] } := by
  simp only [queueData] at queued
  split at queued
  · cases queued
  next body encoded =>
    split at queued
    · cases queued
    next fits =>
      split at queued
      · cases queued
      next bytes framed =>
        exact ⟨body, bytes, encoded, by omega, framed, (Except.ok.inj queued).symm⟩

/--
The one byte vector appended to the output gives exactly one frame, in any
chunking and at any limit at least the session's: the frame with these system
bytes and the configured device id that turns back into the message.
-/
def Transports (session : Session) (message : Secs2.Message) (system : UInt32)
    (out result : SessionOutput) : Prop :=
  ∃ bytes, result = { out with toSend := out.toSend ++ [bytes] } ∧
    ∀ limit, session.config.maxFrameBytes ≤ limit → ∀ chunks : List (List UInt8),
      chunks.flatten = bytes →
      ∃ frame, (FrameDecoder.fresh limit).feedAll chunks =
          ([frame], none, FrameDecoder.fresh limit) ∧
        frame.header.systemBytes = system ∧
        frame.header.sessionId = session.config.deviceId ∧
        toMessage frame = .ok message.normalize

theorem queueData_transports {session : Session} {message : Secs2.Message} {system : UInt32}
    {out result : SessionOutput} (small : message.stream ≤ 127)
    (queued : session.queueData message system out = .ok result) :
    session.Transports message system out result := by
  obtain ⟨body, bytes, encoded, fits, framed, rfl⟩ := queueData_eq_ok queued
  refine ⟨bytes, rfl, ?_⟩
  rintro limit larger chunks rfl
  have next := FrameDecoder.nextFrame_encodeFrame framed
    (show kHeaderSize + body.length ≤ limit by omega) []
  rw [List.append_nil] at next
  have empty : FrameDecoder.scan limit [] = .ok ([], []) := rfl
  have scanned := FrameDecoder.scan_of_some next
  rw [empty] at scanned
  have alive : (FrameDecoder.fresh limit).failed = false := rfl
  have fed := FrameDecoder.feedAll_of_scan alive empty scanned
  exact ⟨_, fed, rfl, rfl, toMessage_makeDataFrame small encoded _ _⟩

end Session

/--
End-to-end transport.  A message sent from a selected session, as a request or as
a reply, reaches a peer's decoder as exactly one frame that holds the message; a
reply has its W-bit cleared.
-/
theorem message_transport (session : Session) (selected : session.state = .selected)
    (message : Secs2.Message) (small : message.stream ≤ 127) (out : SessionOutput) :
    (∀ now system next result,
      session.sendRequest now message out = some (.ok system, next, result) →
        session.Transports message system out result) ∧
    (∀ system result, session.sendReply system message out = (.ok (), result) →
      session.Transports { message with wBit := false } system out result) := by
  constructor
  · intro now system next result sent
    rw [Session.sendRequest, if_neg (by simp [selected])] at sent
    split at sent
    · cases sent
    · rw [Option.map_eq_some_iff] at sent
      obtain ⟨⟨bytes, allocated⟩, found, same⟩ := sent
      obtain ⟨_, _, _, generator, rfl⟩ := Session.allocateSystemBytes_eq_some found
      dsimp only at same
      split at same
      · cases same
      next queued =>
        obtain ⟨ok, rest⟩ := Prod.mk.inj same
        obtain ⟨_, rfl⟩ := Prod.mk.inj rest
        obtain rfl := Except.ok.inj ok
        exact Session.queueData_transports small queued
  · intro system result sent
    rw [Session.sendReply, if_neg (by simp [selected])] at sent
    split at sent
    · cases sent
    next queued =>
      obtain ⟨_, rfl⟩ := Prod.mk.inj sent
      exact Session.queueData_transports small queued

/-- The equipment's S1F13 from a session that has just been selected. -/
theorem message_transport_s1f13 :
    ∃ next result, { Session.fresh {} with state := .selected }.sendRequest 0
        ⟨1, 13, true, some (.list [])⟩ {} = some (.ok 1, next, result) ∧
      { Session.fresh {} with state := .selected }.Transports ⟨1, 13, true, some (.list [])⟩ 1 {}
        result :=
  ⟨_, _, rfl, (message_transport { Session.fresh {} with state := .selected } rfl
    ⟨1, 13, true, some (.list [])⟩ (by decide) {}).1 0 1 _ _ rfl⟩

end Ssim.Hsms
