import Ssim.Gem.Answers
import Mathlib.Algebra.Order.BigOperators.Group.List

/-!
# Sizes of status replies

A status request may pack many SVIDs into one array, so a request within the limit
for bodies can ask for a reply beyond the limit for frames.  The session refuses
such a reply and the host gets no answer.  The size of the reply is the sum of the
sizes of the values asked for, which decides exactly when it is sent.
-/

namespace Ssim.Secs2

/-- The bytes of the header of an item with this length. -/
def headerSize (length : Nat) : Nat :=
  1 + lengthBytesFor length

@[simp]
theorem wireHeader_length (format : Format) (length : Nat) :
    (wireHeader format length).length = headerSize length := by
  simp [wireHeader, headerSize, Nat.add_comm]

theorem wireBytes_array_length (data : TypedArray) :
    (wireBytes (.array data)).length =
      headerSize (data.count * elementSize data.format) +
        data.count * elementSize data.format := by
  rw [wireBytes, List.length_append, wireHeader_length, emitData_length]

theorem wireBytes_list_length (items : List Item) :
    (wireBytes (.list items)).length =
      headerSize items.length + (items.map fun item => (wireBytes item).length).sum := by
  have entries : (wireBytesAll items).length =
      (items.map fun item => (wireBytes item).length).sum := by
    induction items with
    | nil => rfl
    | cons item items ih =>
        rw [wireBytesAll, List.length_append, ih, List.map_cons, List.sum_cons]
  rw [wireBytes, List.length_append, wireHeader_length, entries]

/-- No length inside an item exceeds the bytes of the whole. -/
theorem lengthsWithin_of_wireBytes {item : Item} {bound : Nat}
    (fits : (wireBytes item).length ≤ bound) : item.LengthsWithin bound := by
  induction item using Item.induct with
  | array data =>
      rw [wireBytes_array_length] at fits
      exact Item.lengthsWithin_array.mpr (by omega)
  | list items ih =>
      rw [wireBytes_list_length] at fits
      refine Item.lengthsWithin_list.mpr ⟨?_, fun item member => ih item member ?_⟩
      · have each : ∀ size ∈ items.map fun item => (wireBytes item).length, 1 ≤ size := by
          intro size member
          obtain ⟨item, _, rfl⟩ := List.mem_map.mp member
          cases item with
          | array data =>
              rw [wireBytes_array_length, headerSize]
              omega
          | list items =>
              rw [wireBytes_list_length, headerSize]
              omega
        have counted := List.card_nsmul_le_sum _ 1 each
        rw [List.length_map, nsmul_one, Nat.cast_id] at counted
        omega
      · have part := List.single_le_sum (fun _ _ => Nat.zero_le _) _
          (List.mem_map_of_mem (f := fun item => (wireBytes item).length) member)
        omega

end Ssim.Secs2

namespace Ssim.Hsms.Session

open Secs2 (wireBytes)

/-- A reply that is not nested too deeply is sent exactly if it fits into a frame. -/
theorem sendReply_accepts_iff {session : Session} (isSelected : session.state = .selected)
    (limit : session.config.maxFrameBytes ≤ Secs2.kMaxItemLength) {message : Secs2.Message}
    {item : Secs2.Item} (body : message.body = some item)
    (shallow : item.nesting ≤ Secs2.kMaxNestingDepth) (system : UInt32) (out : SessionOutput) :
    (∃ bytes, session.sendReply system message out =
        (.ok (), { out with toSend := out.toSend ++ [bytes] })) ↔
      kHeaderSize + (wireBytes item).length ≤ session.config.maxFrameBytes := by
  have inside : ¬ session.state ≠ .selected := by simpa using isSelected
  rw [sendReply, if_neg inside]
  constructor
  · rintro ⟨bytes, sent⟩
    split at sent
    · cases (Prod.mk.inj sent).1
    next queued =>
      obtain ⟨encoded, _, isBody, fits, _⟩ := queueData_eq_ok queued
      simp only [encodeBody, body] at isBody
      obtain ⟨_, _, rfl⟩ := Secs2.encode_eq_ok.mp isBody
      exact fits
  · intro fits
    have encoded : Secs2.encode item = .ok (wireBytes item) :=
      Secs2.encode_eq_ok.mpr
        ⟨shallow, Secs2.lengthsWithin_of_wireBytes (by omega), rfl⟩
    have small : ¬ kHeaderSize + (wireBytes item).length > 0xFFFFFFFF := by
      unfold Secs2.kMaxItemLength at limit
      omega
    obtain ⟨bytes, framed⟩ : ∃ bytes, encodeFrame (makeDataFrame session.config.deviceId
        message.stream message.function false system (wireBytes item)) = .ok bytes :=
      ⟨_, if_neg small⟩
    refine ⟨bytes, ?_⟩
    simp only [queueData, encodeBody, body, encoded, if_neg (Nat.not_lt.mpr fits), framed]

end Ssim.Hsms.Session

namespace Ssim.Gem

open Ssim.Core (Error Result)
open Hsms (Frame Session SessionOutput TimePoint kHeaderSize)
open Secs2 (Item Message headerSize wireBytes kMaxItemLength)

/-- The SVIDs that a request asks for; an empty request asks for all there are. -/
def requestedSvids (svids : List UInt32) : List UInt32 :=
  if svids.isEmpty then statusVariables else svids

namespace Handler

/-- The bytes that the value of a status variable takes in a reply. -/
def statusValueSize (handler : Handler) (svid : UInt32) : Nat :=
  let text (length : Nat) := headerSize length + length
  if svid = kSvidCurrentWaferId then
    text handler.api.snapshot.waferId.length
  else if svid = kSvidSoftwareRevision then
    text handler.gem.config.identity.softrev.length
  else if svid ∈ [kSvidControlState, kSvidProcessState, kSvidCurrentSlot] then
    3
  else if svid = kSvidActiveAlarmCount then
    4
  else if svid ∈ [kSvidScanProgressPercent, kSvidLastStressMpa, kSvidLastCurvature,
      kSvidLastFitRmsUm, kSvidUptimeSeconds, kSvidWafersProcessed] then
    6
  else
    2

/-- The bytes of the body of the reply to a status request. -/
def statusReplySize (handler : Handler) (svids : List UInt32) : Nat :=
  headerSize (requestedSvids svids).length +
    ((requestedSvids svids).map handler.statusValueSize).sum

/-- An unknown SVID has an empty list for its value. -/
theorem statusValue_unknown (handler : Handler) (now : TimePoint) {svid : UInt32}
    (unknown : svid ∉ statusVariables) : handler.statusValue now svid = .list [] := by
  simp only [statusVariables, List.mem_cons, List.not_mem_nil, or_false, not_or] at unknown
  simp only [statusValue, unknown, if_false]

theorem statusValue_length (handler : Handler) (now : TimePoint) (svid : UInt32) :
    (wireBytes (handler.statusValue now svid)).length = handler.statusValueSize svid := by
  have ascii : ∀ text, (wireBytes (.ascii text)).length = headerSize text.length + text.length := by
    intro text
    have size := Secs2.wireBytes_array_length (.ascii text)
    rwa [show Secs2.TypedArray.count (.ascii text) * Secs2.elementSize _ = text.length from
      Nat.mul_one _] at size
  by_cases known : svid ∈ statusVariables
  · simp only [statusVariables, List.mem_cons, List.not_mem_nil, or_false] at known
    rcases known with rfl | rfl | rfl | rfl | rfl | rfl | rfl | rfl | rfl | rfl | rfl | rfl
    all_goals first
      | exact Secs2.wireBytes_array_length _
      | exact ascii _
  · rw [handler.statusValue_unknown now known]
    simp only [statusVariables, List.mem_cons, List.not_mem_nil, or_false, not_or] at known
    simp only [statusValueSize, List.mem_cons, List.not_mem_nil, or_false, known, if_false]
    rfl

theorem statusValue_nesting (handler : Handler) (now : TimePoint) (svid : UInt32) :
    (handler.statusValue now svid).nesting ≤ 1 := by
  by_cases known : svid ∈ statusVariables
  · simp only [statusVariables, List.mem_cons, List.not_mem_nil, or_false] at known
    rcases known with rfl | rfl | rfl | rfl | rfl | rfl | rfl | rfl | rfl | rfl | rfl | rfl
    all_goals exact Nat.zero_le 1
  · rw [handler.statusValue_unknown now known]
    exact Nat.le_refl 1

/-- The body of the reply: one value for each SVID that was asked for, in this order. -/
def statusReply (handler : Handler) (now : TimePoint) (svids : List UInt32) : Message :=
  makeS1f4 ((requestedSvids svids).map (handler.statusValue now))

theorem statusReply_length (handler : Handler) (now : TimePoint) (svids : List UInt32) :
    (wireBytes (.list ((requestedSvids svids).map (handler.statusValue now)))).length =
      handler.statusReplySize svids := by
  rw [Secs2.wireBytes_list_length, List.length_map, List.map_map, statusReplySize]
  congr 2
  exact List.map_congr_left fun svid _ => handler.statusValue_length now svid

theorem statusReply_nesting (handler : Handler) (now : TimePoint) (svids : List UInt32) :
    (Item.list ((requestedSvids svids).map (handler.statusValue now))).nesting ≤
      Secs2.kMaxNestingDepth := by
  have values : Item.nestingAll ((requestedSvids svids).map (handler.statusValue now)) ≤ 1 := by
    refine Item.nestingAll_le.mpr fun item member => ?_
    obtain ⟨svid, _, rfl⟩ := List.mem_map.mp member
    exact handler.statusValue_nesting now svid
  rw [Item.nesting, Secs2.kMaxNestingDepth]
  omega

end Handler

/-! ## Status requests -/

/-- A frame with a well-formed status request that the equipment accepts and has to answer. -/
structure StatusRequest (config : GemConfig) (frame : Frame) (svids : List UInt32) : Prop where
  device : frame.header.sessionId = config.deviceId
  short : frame.body.length ≤ config.maxBodyBytes
  wanted : frame.header.wBit = true
  parsed : ∃ body, Hsms.toMessage frame = .ok ⟨1, 3, true, body⟩ ∧ parseSvidBody body = .ok svids

namespace Handler

theorem onData_statusRequest {handler : Handler} {frame : Frame} {svids : List UInt32}
    (request : StatusRequest handler.gem.config frame svids) (now : TimePoint) :
    (handler.onData now ⟨frame, none⟩).tasks =
      handler.tasks ++ [.reply frame.header.systemBytes (handler.statusReply now svids)] := by
  obtain ⟨body, message, parsed⟩ := request.parsed
  have checked : equipmentFactory.check ⟨1, 3, true, body⟩ = .ok := by
    have accepted : accepts parseSvidBody body = true := by
      rw [accepts, parsed]
      rfl
    have found : equipmentFactory.find? 1 3 =
        some ⟨1, 3, "S1F3", accepts parseSvidBody⟩ := rfl
    rw [Secs2.MessageFactory.check, found]
    exact if_pos accepted
  have handled : handler.handleMessage now frame ⟨1, 3, true, body⟩ =
      handler.handleStatusRequest now frame ⟨1, 3, true, body⟩ := rfl
  have status : parseS1f3 ⟨1, 3, true, body⟩ = .ok svids := parsed
  simp only [onData, if_neg (not_not.mpr request.device), if_neg (Nat.not_lt.mpr request.short),
    message, checked, handled, handleStatusRequest, status, reply, if_pos request.wanted]
  rfl

end Handler

/--
When a status request is answered.  The equipment posts one reply whose body has one
value for each SVID asked for, in this order, and an empty list for an unknown one.
The session sends the reply, as one frame, exactly if the sizes of these values and
the two headers fit into a frame.
-/
theorem status_request_answered_iff (session : Session) (isSelected : session.state = .selected)
    (frameLimit : session.config.maxFrameBytes = 1048576) (handler : Handler)
    (frame : Frame) (svids : List UInt32)
    (request : StatusRequest handler.gem.config frame svids) (now : TimePoint)
    (out : SessionOutput) :
    ∃ reply, (handler.onData now ⟨frame, none⟩).tasks =
        handler.tasks ++ [.reply frame.header.systemBytes reply] ∧
      reply.body = some (.list ((requestedSvids svids).map (handler.statusValue now))) ∧
      (∀ svid ∉ statusVariables, handler.statusValue now svid = .list []) ∧
      ((∃ bytes, session.sendReply frame.header.systemBytes reply out =
          (.ok (), { out with toSend := out.toSend ++ [bytes] })) ↔
        kHeaderSize + handler.statusReplySize svids ≤ 1048576) := by
  refine ⟨_, Handler.onData_statusRequest request now, rfl,
    fun svid unknown => handler.statusValue_unknown now unknown, ?_⟩
  rw [← handler.statusReply_length now svids, ← frameLimit]
  refine Session.sendReply_accepts_iff isSelected ?_ rfl (handler.statusReply_nesting now svids) _ _
  rw [frameLimit]
  decide

/-- The equipment as it is started, with system bytes 7 in the header of the request. -/
def startedHandler : Handler :=
  ⟨.fresh defaultGem 0, .fresh, []⟩

def statusHeader : Hsms.Header :=
  ⟨0, 0x81, 3, 0, 0, 7⟩

/-- An empty request asks for all status variables and is answered. -/
theorem status_request_answered_iff_all :
    ∃ bytes, Session.sendReply { Session.fresh {} with state := .selected } 7
        (startedHandler.statusReply 0 []) {} = (.ok (), { toSend := [bytes] }) := by
  have request : StatusRequest startedHandler.gem.config ⟨statusHeader, [1, 0]⟩ [] :=
    ⟨rfl, by decide, by decide, some (.list []), by rfl, rfl⟩
  obtain ⟨reply, posted, _, _, sent⟩ := status_request_answered_iff
    { Session.fresh {} with state := .selected } rfl rfl startedHandler _ [] request 0 {}
  obtain rfl : startedHandler.statusReply 0 [] = reply := by
    have other := Handler.onData_statusRequest request 0
    rw [posted] at other
    simpa using other.symm
  exact sent.mpr (by decide)

/-- A request that asks for the wafer id this many times, in one array. -/
def packedRequest (count : Nat) : Item :=
  .list [.array (.u2 (List.replicate count kSvidCurrentWaferId.toUInt16))]

theorem packedRequest_length (count : Nat) :
    (wireBytes (packedRequest count)).length = 2 + (headerSize (count * 2) + count * 2) := by
  rw [packedRequest, Secs2.wireBytes_list_length, List.map_singleton, List.sum_singleton,
    Secs2.wireBytes_array_length]
  simp only [Secs2.TypedArray.count, List.length_replicate]
  rfl

theorem parseSvidBody_packedRequest (count : Nat) :
    parseSvidBody (some (packedRequest count)) =
      .ok (List.replicate count kSvidCurrentWaferId) := by
  simp [parseSvidBody, packedRequest, parseSvids, collectUints, kSvidCurrentWaferId]

/-- The equipment with a wafer id of 32 characters. -/
def longWaferHandler : Handler :=
  { startedHandler with api :=
      { startedHandler.api with controller :=
          { startedHandler.api.controller with currentWaferId := List.replicate 32 65 } } }

theorem statusReplySize_packed {count : Nat} (some : 0 < count) :
    longWaferHandler.statusReplySize (List.replicate count kSvidCurrentWaferId) =
      headerSize count + count * 34 := by
  have nonempty : requestedSvids (List.replicate count kSvidCurrentWaferId) =
      List.replicate count kSvidCurrentWaferId := by
    rw [requestedSvids, if_neg (by simp; omega)]
  have each : longWaferHandler.statusValueSize kSvidCurrentWaferId = 34 := by decide
  rw [Handler.statusReplySize, nonempty, List.length_replicate, List.map_replicate,
    List.sum_replicate, each]
  rfl

/-- The encoding of a packed request is one that the equipment accepts. -/
theorem statusRequest_packed {count : Nat} (short : count ≤ 32765) :
    StatusRequest longWaferHandler.gem.config ⟨statusHeader, wireBytes (packedRequest count)⟩
      (List.replicate count kSvidCurrentWaferId) := by
  have size := packedRequest_length count
  have small : (wireBytes (packedRequest count)).length ≤ 65536 := by
    have fewLengthBytes : Secs2.lengthBytesFor (count * 2) ≤ 2 := by
      unfold Secs2.lengthBytesFor
      rw [if_neg (by omega)]
      split <;> omega
    rw [size, headerSize]
    omega
  have encoded : Secs2.encode (packedRequest count) = .ok (wireBytes (packedRequest count)) := by
    have shallow : (packedRequest count).nesting = 1 := rfl
    refine Secs2.encode_eq_ok.mpr ⟨?_, Secs2.lengthsWithin_of_wireBytes ?_, rfl⟩
    · rw [shallow]
      decide
    · exact Nat.le_trans small (by decide)
  have message : Hsms.toMessage ⟨statusHeader, wireBytes (packedRequest count)⟩ =
      .ok ⟨1, 3, true, some (packedRequest count)⟩ := by
    have full : (wireBytes (packedRequest count)).isEmpty = false := by
      rw [List.isEmpty_eq_false_iff]
      exact Hsms.encode_ne_nil encoded
    have decoded := Secs2.decodeBody_encode encoded
    rw [show (packedRequest count).normalize = packedRequest count from rfl] at decoded
    have isData : ¬ statusHeader.stype ≠ Hsms.SType.data.toByte := by decide
    rw [Hsms.toMessage, if_neg isData, if_neg (by simp [full])]
    dsimp only
    rw [decoded]
    rfl
  have wanted : statusHeader.wBit = true := by decide
  exact ⟨rfl, small, wanted, some (packedRequest count), message,
    parseSvidBody_packedRequest count⟩

/--
A request of 65535 bytes, within the limit for bodies, asks for a reply of 1114013
bytes.  The reply is posted, and the session refuses it.
-/
theorem packed_status_request_unanswered :
    ∃ frame svids reply, frame.body.length = 65535 ∧ svids.length = 32765 ∧
      longWaferHandler.api.snapshot.waferId.length = 32 ∧
      StatusRequest longWaferHandler.gem.config frame svids ∧
      (longWaferHandler.onData 0 ⟨frame, none⟩).tasks = [.reply 7 reply] ∧
      ∀ out, ¬ ∃ bytes, Session.sendReply { Session.fresh {} with state := .selected } 7 reply out =
        (.ok (), { out with toSend := out.toSend ++ [bytes] }) := by
  have request := statusRequest_packed (Nat.le_refl 32765)
  refine ⟨_, _, _, packedRequest_length 32765, List.length_replicate, by decide, request,
    Handler.onData_statusRequest request 0, fun out sent => ?_⟩
  have fits := (Session.sendReply_accepts_iff rfl (by decide) rfl
    (longWaferHandler.statusReply_nesting 0 _) 7 out).mp sent
  rw [longWaferHandler.statusReply_length 0, statusReplySize_packed (by decide)] at fits
  exact absurd fits (by decide)

end Ssim.Gem
