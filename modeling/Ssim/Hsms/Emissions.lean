import Ssim.Hsms.SessionInvariant
import Ssim.Hsms.StreamSplits

/-!
# What a session sends

Every byte vector that a session puts out carries exactly one legal frame.  Data frames
come from requests and replies made while the session is selected, and the control frames
that answer the peer are paired with the frames received, each of which has at most one.
-/

namespace Ssim.Hsms

open Ssim.Core (Error Result)
open Library.Runs (run invariant)

/-- A fresh decoder reads this frame from the bytes and has nothing left over. -/
def Carries (maxFrameBytes : Nat) (bytes : List UInt8) (frame : Frame) : Prop :=
  ∃ decoder, (FrameDecoder.fresh maxFrameBytes).feed bytes = (.ok [frame], decoder) ∧
    decoder.hasPartial = false

theorem carries_of_encodeFrame {maxFrameBytes : Nat} {frame : Frame} {bytes : List UInt8}
    (encoded : encodeFrame frame = .ok bytes)
    (fits : kHeaderSize + frame.body.length ≤ maxFrameBytes) :
    Carries maxFrameBytes bytes frame := by
  have encodes : FrameDecoder.Encodes maxFrameBytes [frame] (bytes ++ []) :=
    .cons encoded fits .nil
  rw [List.append_nil] at encodes
  exact ⟨_, FrameDecoder.feed_of_scan rfl (FrameDecoder.scan_of_encodes encodes), rfl⟩

/-- The STypes that the session sends: no Select.req, Deselect.req or Separate.req. -/
def Frame.LegalOutgoing (frame : Frame) : Prop :=
  frame.header.ptype = 0 ∧ frame.header.stype ∈ ([0, 2, 4, 5, 6, 7] : List UInt8)

/-- Select.rsp, Deselect.rsp, Linktest.rsp or Reject.req. -/
def Frame.isResponse (frame : Frame) : Bool :=
  frame.header.stype ∈ ([2, 4, 6, 7] : List UInt8)

/--
The response carries the system bytes of its cause.  A request is answered by its own
response, and any other frame by Reject.req.
-/
def Answers (cause response : Frame) : Prop :=
  response.header.systemBytes = cause.header.systemBytes ∧
    response.header.stype = match cause.kind with
      | some .selectReq => SType.selectRsp.toByte
      | some .deselectReq => SType.deselectRsp.toByte
      | some .linktestReq => SType.linktestRsp.toByte
      | _ => SType.rejectReq.toByte

theorem Answers.isResponse {cause response : Frame} (answers : Answers cause response) :
    response.isResponse = true := by
  obtain ⟨-, stype⟩ := answers
  unfold Frame.isResponse
  rw [stype]
  split <;> rfl

namespace Session

/-! ## Control frames -/

theorem sendControl_toSend (stype : SType) (systemBytes : UInt32) (byte2 byte3 : UInt8)
    (out : SessionOutput) :
    ∃ bytes, encodeFrame (makeControlFrame stype systemBytes byte2 byte3) = .ok bytes ∧
      (sendControl stype systemBytes byte2 byte3 out).toSend = out.toSend ++ [bytes] :=
  ⟨_, rfl, rfl⟩

/-- The bytes answer the frame: they carry one control frame that does. -/
def Answered (maxFrameBytes : Nat) (cause : Frame) (bytes : List UInt8) : Prop :=
  ∃ response, Carries maxFrameBytes bytes response ∧ response.LegalOutgoing ∧
    Answers cause response

theorem answered_of_sendControl {maxFrameBytes : Nat} (room : kHeaderSize ≤ maxFrameBytes)
    {cause : Frame} {stype : SType} {byte2 byte3 : UInt8} {out : SessionOutput}
    (answers : Answers cause (makeControlFrame stype cause.header.systemBytes byte2 byte3)) :
    ∃ bytes, Answered maxFrameBytes cause bytes ∧
      (sendControl stype cause.header.systemBytes byte2 byte3 out).toSend =
        out.toSend ++ [bytes] := by
  obtain ⟨bytes, encoded, sent⟩ := sendControl_toSend stype cause.header.systemBytes byte2 byte3 out
  refine ⟨bytes, ⟨_, carries_of_encodeFrame encoded ?_, ⟨rfl, ?_⟩, answers⟩, sent⟩
  · simpa [makeControlFrame] using room
  · have response := answers.isResponse
    simp only [Frame.isResponse, decide_eq_true_eq] at response
    simp only [List.mem_cons, List.not_mem_nil, or_false] at response ⊢
    tauto

/-- A received frame is answered by one control frame or by none. -/
theorem handleFrame_toSend {maxFrameBytes : Nat} (room : kHeaderSize ≤ maxFrameBytes)
    (session : Session) (now : TimePoint) (frame : Frame) (out : SessionOutput) :
    (session.handleFrame now frame out).2.toSend = out.toSend ∨
      ∃ bytes, Answered maxFrameBytes frame bytes ∧
        (session.handleFrame now frame out).2.toSend = out.toSend ++ [bytes] := by
  unfold handleFrame
  dsimp only
  split
  next foreign =>
    exact .inr (answered_of_sendControl room ⟨rfl, by simp [Frame.kind, foreign]; rfl⟩)
  next native =>
    have kind : frame.kind = stypeFromByte frame.header.stype := by rw [Frame.kind, if_neg native]
    split
    next unknown =>
      exact .inr (answered_of_sendControl room ⟨rfl, by rw [kind, unknown]; rfl⟩)
    next isData =>
      unfold handleData
      dsimp only
      split
      · exact .inr (answered_of_sendControl room ⟨rfl, by rw [kind, isData]; rfl⟩)
      · split
        · exact .inl rfl
        · exact .inl rfl
    next isSelect =>
      unfold handleSelectReq
      split
      · exact .inr (answered_of_sendControl room ⟨rfl, by rw [kind, isSelect]; rfl⟩)
      · exact .inr (answered_of_sendControl room ⟨rfl, by rw [kind, isSelect]; rfl⟩)
    next isDeselect =>
      unfold handleDeselectReq
      split
      · exact .inr (answered_of_sendControl room ⟨rfl, by rw [kind, isDeselect]; rfl⟩)
      · exact .inr (answered_of_sendControl room ⟨rfl, by rw [kind, isDeselect]; rfl⟩)
    next isLinktest =>
      exact .inr (answered_of_sendControl room ⟨rfl, by rw [kind, isLinktest]; rfl⟩)
    next isRsp =>
      split
      · exact .inl rfl
      · exact .inr (answered_of_sendControl room ⟨rfl, by rw [kind, isRsp]; rfl⟩)
    next isRsp => exact .inr (answered_of_sendControl room ⟨rfl, by rw [kind, isRsp]; rfl⟩)
    next isRsp => exact .inr (answered_of_sendControl room ⟨rfl, by rw [kind, isRsp]; rfl⟩)
    next => exact .inl rfl
    next => exact .inl rfl

/-- The answers to the frames of one read, in order, each to a frame of its own. -/
theorem handleFrames_toSend {maxFrameBytes : Nat} (room : kHeaderSize ≤ maxFrameBytes)
    (session : Session) (now : TimePoint) (frames : List Frame) (out : SessionOutput) :
    ∃ causes sent, causes.Sublist frames ∧ List.Forall₂ (Answered maxFrameBytes) causes sent ∧
      (session.handleFrames now out frames).2.toSend = out.toSend ++ sent := by
  induction frames generalizing session out with
  | nil => exact ⟨[], [], .slnil, .nil, by simp [handleFrames]⟩
  | cons frame frames ih =>
      have first := handleFrame_toSend room session now frame out
      simp only [handleFrames]
      generalize session.handleFrame now frame out = handled at first ⊢
      split
      next closed =>
        rcases first with silent | ⟨bytes, answered, sent⟩
        · exact ⟨[], [], List.nil_sublist _, .nil, by rw [silent, List.append_nil]⟩
        · exact ⟨[frame], [bytes], List.singleton_sublist.mpr List.mem_cons_self,
            .cons answered .nil, sent⟩
      next =>
        obtain ⟨causes, others, inside, pairs, later⟩ := ih handled.1 handled.2
        rcases first with silent | ⟨bytes, answered, sent⟩
        · exact ⟨causes, others, inside.cons frame, pairs, by rw [later, silent]⟩
        · exact ⟨frame :: causes, bytes :: others, inside.cons_cons frame, .cons answered pairs,
            by rw [later, sent, List.append_assoc]; rfl⟩

/-! ## Data frames -/

/-- One data frame, well within the limit. -/
def IsDataFrame (maxFrameBytes : Nat) (bytes : List UInt8) : Prop :=
  ∃ frame, Carries maxFrameBytes bytes frame ∧ frame.header.ptype = 0 ∧ frame.header.stype = 0

theorem queueData_toSend {session : Session} {message : Secs2.Message} {system : UInt32}
    {out result : SessionOutput} (queued : session.queueData message system out = .ok result) :
    ∃ bytes, IsDataFrame session.config.maxFrameBytes bytes ∧
      result.toSend = out.toSend ++ [bytes] := by
  obtain ⟨body, bytes, -, fits, encoded, rfl⟩ := queueData_eq_ok queued
  exact ⟨bytes, ⟨_, carries_of_encodeFrame encoded fits, rfl, rfl⟩, rfl⟩

theorem sendRequest_toSend {session : Session} {now : TimePoint} {message : Secs2.Message}
    {out : SessionOutput} {result : Result UInt32 × Session × SessionOutput}
    (sent : session.sendRequest now message out = some result) :
    result.2.2.toSend = out.toSend ∨ session.state = .selected ∧
      ∃ bytes, IsDataFrame session.config.maxFrameBytes bytes ∧
        result.2.2.toSend = out.toSend ++ [bytes] := by
  unfold sendRequest at sent
  split at sent
  · obtain rfl := Option.some.inj sent
    exact .inl rfl
  next isSelected =>
    split at sent
    · obtain rfl := Option.some.inj sent
      exact .inl rfl
    next room =>
      obtain ⟨⟨system, allocated⟩, found, rfl⟩ := Option.map_eq_some_iff.mp sent
      obtain ⟨-, -, -, generator, rfl⟩ := allocateSystemBytes_eq_some found
      dsimp only
      split
      · exact .inl rfl
      next queued => exact .inr ⟨by simpa using isSelected, queueData_toSend queued⟩

theorem sendReply_toSend (session : Session) (systemBytes : UInt32) (message : Secs2.Message)
    (out : SessionOutput) :
    (session.sendReply systemBytes message out).2.toSend = out.toSend ∨
      session.state = .selected ∧ ∃ bytes, IsDataFrame session.config.maxFrameBytes bytes ∧
        (session.sendReply systemBytes message out).2.toSend = out.toSend ++ [bytes] := by
  unfold sendReply
  split
  · exact .inl rfl
  next isSelected =>
    split
    · exact .inl rfl
    next queued => exact .inr ⟨by simpa using isSelected, queueData_toSend queued⟩

/-! ## Every call of every run -/

/-- The frames that the bytes of a call complete, as the session's decoder returns them. -/
def received (session : Session) : SessionCall → List Frame
  | .onBytes _ bytes =>
      match (session.decoder.feed bytes).1 with
      | .error _ => []
      | .ok frames => frames
  | _ => []

/--
What a call sends is legal: each byte vector carries one frame, of a legal SType.  A data
frame is sent only by a request or a reply, while selected.  The responses are caused by
frames that the call has received, each by one of its own.
-/
structure LegalOutput (maxFrameBytes : Nat) (session : Session) (input : SessionCall)
    (out : SessionOutput) (sent : List Frame) : Prop where
  carried : List.Forall₂ (Carries maxFrameBytes) out.toSend sent
  legal : ∀ frame ∈ sent, frame.LegalOutgoing
  data : ∀ frame ∈ sent, frame.header.stype = 0 → session.state = .selected ∧
    ((∃ now message, input = .sendRequest now message) ∨
      ∃ systemBytes message, input = .sendReply systemBytes message)
  responses : ∃ causes, causes.Sublist (session.received input) ∧
    List.Forall₂ Answers causes (sent.filter Frame.isResponse)

theorem legalOutput_silent {maxFrameBytes : Nat} {session : Session} {input : SessionCall}
    {out : SessionOutput} (silent : out.toSend = []) :
    LegalOutput maxFrameBytes session input out [] where
  carried := silent ▸ .nil
  legal := by simp
  data := by simp
  responses := ⟨[], List.nil_sublist _, .nil⟩

/-- The frames that the answers carry. -/
theorem carried_of_answered {maxFrameBytes : Nat} {causes : List Frame} {sent : List (List UInt8)}
    (answered : List.Forall₂ (Answered maxFrameBytes) causes sent) :
    ∃ frames, List.Forall₂ (Carries maxFrameBytes) sent frames ∧
      List.Forall₂ Answers causes frames ∧
      ∀ frame ∈ frames, frame.LegalOutgoing ∧ frame.isResponse = true := by
  induction answered with
  | nil => exact ⟨[], .nil, .nil, by simp⟩
  | cons head _ ih =>
      obtain ⟨response, carries, legal, answers⟩ := head
      obtain ⟨frames, carried, allAnswer, allLegal⟩ := ih
      exact ⟨response :: frames, .cons carries carried, .cons answers allAnswer,
        List.forall_mem_cons.mpr ⟨⟨legal, answers.isResponse⟩, allLegal⟩⟩

theorem legalOutput_answers {maxFrameBytes : Nat} {session : Session} {input : SessionCall}
    {out : SessionOutput} {causes : List Frame}
    (inside : causes.Sublist (session.received input))
    (answered : List.Forall₂ (Answered maxFrameBytes) causes out.toSend) :
    ∃ sent, LegalOutput maxFrameBytes session input out sent := by
  obtain ⟨sent, carried, answers, legal⟩ := carried_of_answered answered
  refine ⟨sent, carried, fun frame member => (legal frame member).1, ?_, causes, inside, ?_⟩
  · intro frame member isData
    have response := (legal frame member).2
    simp [Frame.isResponse, isData] at response
  · rw [List.filter_eq_self.mpr fun frame member => (legal frame member).2]
    exact answers

theorem legalOutput_data {maxFrameBytes : Nat} {session : Session} {input : SessionCall}
    {out : SessionOutput} {bytes : List UInt8} (isSelected : session.state = .selected)
    (sends : (∃ now message, input = .sendRequest now message) ∨
      ∃ systemBytes message, input = .sendReply systemBytes message)
    (isData : IsDataFrame maxFrameBytes bytes) (sent : out.toSend = [bytes]) :
    ∃ frames, LegalOutput maxFrameBytes session input out frames := by
  obtain ⟨frame, carries, ptype, stype⟩ := isData
  refine ⟨[frame], sent ▸ .cons carries .nil, ?_, fun _ _ _ => ⟨isSelected, sends⟩, [],
    List.nil_sublist _, ?_⟩
  · simp [Frame.LegalOutgoing, ptype, stype]
  · simp [Frame.isResponse, stype]

/-- A read sends answers to frames that it has received. -/
theorem onBytes_toSend {maxFrameBytes : Nat} (room : kHeaderSize ≤ maxFrameBytes)
    (session : Session) (now : TimePoint) (bytes : List UInt8) :
    ∃ causes, causes.Sublist (session.received (.onBytes now bytes)) ∧
      List.Forall₂ (Answered maxFrameBytes) causes (session.onBytes now bytes).2.toSend := by
  have effect := onBytes_effect session now bytes
  generalize session.onBytes now bytes = result at effect ⊢
  cases effect with
  | offline idle => exact ⟨[], List.nil_sublist _, .nil⟩
  | framingError connected reason decoder fed => exact ⟨[], List.nil_sublist _, .nil⟩
  | handled connected frames decoder fed next out done =>
      obtain ⟨causes, sent, inside, answered, toSend⟩ :=
        handleFrames_toSend room { session with lastActivity := now, decoder := decoder } now
          frames {}
      rw [done, List.nil_append] at toSend
      refine ⟨causes, ?_, toSend ▸ answered⟩
      simpa [received, fed] using inside

theorem legalOutput_call {session next : Session} {input : SessionCall} {out : SessionOutput}
    (room : kHeaderSize ≤ session.config.maxFrameBytes)
    (called : session.call input = some (next, out)) :
    ∃ sent, LegalOutput session.config.maxFrameBytes session input out sent := by
  cases input with
  | onConnect now =>
      have silent : (session.onConnect now).2.toSend = [] := by
        unfold onConnect
        split <;> rfl
      rw [Option.some.inj called] at silent
      exact ⟨[], legalOutput_silent silent⟩
  | onBytes now bytes =>
      obtain ⟨causes, inside, answered⟩ := onBytes_toSend room session now bytes
      rw [Option.some.inj called] at answered
      exact legalOutput_answers inside answered
  | onTick now =>
      have effect := onTick_effect called
      cases effect with
      | offline => exact ⟨[], legalOutput_silent rfl⟩
      | closed => exact ⟨[], legalOutput_silent rfl⟩
      | swept => exact ⟨[], legalOutput_silent rfl⟩
      | linktest isSelected none system generator unused =>
          obtain ⟨bytes, encoded, sent⟩ := sendControl_toSend .linktestReq system 0 0
            { timedOut := expired now session.transactions.toList }
          refine ⟨[makeControlFrame .linktestReq system 0 0],
            sent ▸ .cons (carries_of_encodeFrame encoded room) .nil, ?_, ?_, [],
            List.nil_sublist _, ?_⟩
          · simp [Frame.LegalOutgoing, makeControlFrame, SType.toByte]
          · simp [makeControlFrame, SType.toByte]
          · simp [Frame.isResponse, makeControlFrame, SType.toByte]
  | onDisconnect =>
      obtain ⟨-, rfl⟩ := Prod.mk.inj (Option.some.inj called)
      exact ⟨[], legalOutput_silent rfl⟩
  | sendRequest now message =>
      obtain ⟨result, requested, same⟩ := Option.map_eq_some_iff.mp called
      obtain ⟨-, rfl⟩ := Prod.mk.inj same
      rcases sendRequest_toSend requested with silent | ⟨isSelected, bytes, isData, sent⟩
      · exact ⟨[], legalOutput_silent silent⟩
      · exact legalOutput_data isSelected (.inl ⟨now, message, rfl⟩) isData sent
  | sendReply systemBytes message =>
      obtain ⟨-, rfl⟩ := Prod.mk.inj (Option.some.inj called)
      rcases sendReply_toSend session systemBytes message {} with
        silent | ⟨isSelected, bytes, isData, sent⟩
      · exact ⟨[], legalOutput_silent silent⟩
      · exact legalOutput_data isSelected (.inr ⟨systemBytes, message, rfl⟩) isData sent

/--
Whatever calls a session has seen, what its next call sends are legal frames: one to a byte
vector, data only from requests and replies while selected, and at most one response to each
frame received, with the system bytes of that frame.
-/
theorem session_emits_legal_frames {config : SessionConfig} (room : 10 ≤ config.maxFrameBytes)
    {calls : List SessionCall} {session next : Session} {input : SessionCall}
    {out : SessionOutput} (reached : run advance (fresh config) calls = some session)
    (called : session.call input = some (next, out)) :
    ∃ sent, LegalOutput config.maxFrameBytes session input out sent := by
  have same : session.config = config :=
    invariant (fun session : Session => session.config = config)
      (fun holds taken => (advance_config taken).trans holds) rfl reached
  rw [← same] at room ⊢
  exact legalOutput_call room called

/-- A Select.req on a new connection is answered by Select.rsp with its system bytes. -/
theorem session_emits_legal_frames_select :
    ∃ session next : Session, ∃ out : SessionOutput,
      run advance (fresh {}) [.onConnect 0] = some session ∧
      session.call (.onBytes 1 [0, 0, 0, 10, 255, 255, 0, 0, 0, 1, 0, 0, 0, 7]) =
        some (next, out) ∧
      out.toSend = [[0, 0, 0, 10, 255, 255, 0, 0, 0, 2, 0, 0, 0, 7]] ∧
      ∃ sent, LegalOutput 1048576 session
        (.onBytes 1 [0, 0, 0, 10, 255, 255, 0, 0, 0, 1, 0, 0, 0, 7]) out sent := by
  refine ⟨_, _, _, rfl, rfl, by decide, ?_⟩
  exact @session_emits_legal_frames {} (by decide) [.onConnect 0] _ _ _ _ rfl rfl

end Session

end Ssim.Hsms
