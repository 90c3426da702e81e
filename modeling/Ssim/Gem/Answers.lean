import Ssim.Gem.HostMessages
import Ssim.Hsms.FrameStream

/-!
# Answers to the host

A message of the host is answered at most once.  It is refused with one message of
stream 9, for the first of six causes in a fixed order, or it is handed on; then the
handler of its function posts one reply if the message has asked for one.  The
events of the command that a message gives post their tasks before the reply.
-/

namespace Ssim.Gem

open Ssim.Core (Error Result CommandPayload ControlMode MachineApi)
open Hsms (Frame Header Delivery TimePoint)
open Secs2 (Item Message Entry Validation)

/-! ## Causes of a refusal -/

/--
The body is empty or one item.  The session delivers data messages only; any other
frame counts as one whose body does not decode.
-/
def decodes (frame : Frame) : Bool :=
  frame.header.stype = Hsms.SType.data.toByte &&
    (frame.body.isEmpty || (Secs2.decodeBody frame.body).toBool)

/-- The item in the body. -/
def itemOf (frame : Frame) : Option Item :=
  if frame.body.isEmpty then none else (Secs2.decodeBody frame.body).toOption

/-- A message of this stream is registered. -/
def knownStream (stream : UInt8) : Bool :=
  Handler.equipmentFactory.entries.any fun entry => entry.stream = stream

/-- The function of stream 9 for the first cause that applies. -/
def s9Function (config : GemConfig) (frame : Frame) : Option UInt8 :=
  if frame.header.sessionId ≠ config.deviceId then
    some 1
  else if frame.body.length > config.maxBodyBytes then
    some 11
  else if !decodes frame then
    some 7
  else if !knownStream frame.header.stream then
    some 3
  else
    match Handler.equipmentFactory.find? frame.header.stream frame.header.function with
    | none => some 5
    | some entry => if entry.check (itemOf frame) then none else some 7

theorem toMessage_eq (frame : Frame) :
    if decodes frame then
      Hsms.toMessage frame = .ok
        ⟨frame.header.stream, frame.header.function, frame.header.wBit, itemOf frame⟩
    else
      ∃ reason, Hsms.toMessage frame = .error reason := by
  unfold Hsms.toMessage decodes itemOf
  by_cases data : frame.header.stype = Hsms.SType.data.toByte
  · rw [if_neg (not_not.mpr data)]
    by_cases empty : frame.body.isEmpty = true
    · simp [data, empty]
    · cases Secs2.decodeBody frame.body with
      | error reason => simp [data, empty, Except.toBool]
      | ok item => simp [data, empty, Except.toBool, Except.toOption]
  · rw [if_pos data, if_neg (by simp [data])]
    exact ⟨_, rfl⟩

/-- A message has the stream and the function of its header. -/
theorem named_of_toMessage {frame : Frame} {message : Message}
    (decoded : Hsms.toMessage frame = .ok message) :
    message.stream = frame.header.stream ∧ message.function = frame.header.function := by
  have parsed := toMessage_eq frame
  split at parsed
  · obtain rfl := Except.ok.inj (decoded.symm.trans parsed)
    exact ⟨rfl, rfl⟩
  · obtain ⟨reason, failed⟩ := parsed
    cases decoded.symm.trans failed

/-- A registered message is one of a known stream. -/
theorem knownStream_of_find? {stream function : UInt8} {entry : Entry}
    (found : Handler.equipmentFactory.find? stream function = some entry) :
    knownStream stream = true := by
  have member := List.mem_of_find?_eq_some found
  have named := List.find?_some found
  simp only [Bool.and_eq_true, decide_eq_true_eq] at named
  exact List.any_eq_true.mpr ⟨entry, member, decide_eq_true named.1⟩

/-- The check of the catalogue, in the order of its causes. -/
theorem check_eq (message : Message) :
    Handler.equipmentFactory.check message =
      if !knownStream message.stream then
        .unknownStream
      else
        match Handler.equipmentFactory.find? message.stream message.function with
        | none => .unknownFunction
        | some entry => if entry.check message.body then .ok else .illegalData := by
  unfold Secs2.MessageFactory.check
  cases found : Handler.equipmentFactory.find? message.stream message.function with
  | some entry =>
      rw [knownStream_of_find? found]
      rfl
  | none =>
      cases known : knownStream message.stream with
      | true => exact if_pos known
      | false => exact if_neg (ne_true_of_eq_false known)

theorem fault_eq_s9Function (config : GemConfig) (frame : Frame) :
    fault config frame = s9Function config frame := by
  unfold fault s9Function
  have parsed := toMessage_eq frame
  split
  · rfl
  · split
    · rfl
    · cases decoded : decodes frame with
      | false =>
          rw [decoded] at parsed
          obtain ⟨reason, failed⟩ := parsed
          rw [failed]
          rfl
      | true =>
          rw [decoded, if_pos rfl] at parsed
          rw [parsed]
          dsimp only
          rw [check_eq]
          cases knownStream frame.header.stream with
          | false => rfl
          | true =>
              cases Handler.equipmentFactory.find? frame.header.stream frame.header.function with
              | none => rfl
              | some entry =>
                  dsimp only [Bool.not_true]
                  cases entry.check (itemOf frame) <;> rfl

/-! ## Handlers -/

/-- The tasks are those of events: neither a reply nor a request. -/
def Raised (tasks : List Task) : Prop :=
  ∀ task ∈ tasks, ∃ event, Task.ofEvent event = some task

theorem raised_ofEvents (events : List Core.Event) : Raised (events.filterMap Task.ofEvent) := by
  intro task member
  obtain ⟨event, _, posted⟩ := List.mem_filterMap.mp member
  exact ⟨event, posted⟩

/-- The reply to a message, if it has asked for one. -/
def replies (frame : Frame) (message : Message) : List Task :=
  if frame.header.wBit then [.reply frame.header.systemBytes message] else []

/-- A message of the host that is accepted and has a reply, and the reply. -/
def Pairs (request reply : Message) : Prop :=
  request.function.toNat % 2 = 1 ∧ reply.stream = request.stream ∧
    reply.function.toNat = request.function.toNat + 1

namespace Handler

/-- Some events are raised, and then one reply is posted if the message has asked for it. -/
def Answers (handler next : Handler) (frame : Frame) (reply : Message) : Prop :=
  ∃ events, Raised events ∧ next.tasks = handler.tasks ++ events ++ replies frame reply

variable (handler : Handler)

theorem tasks_reply (frame : Frame) (message : Message) :
    (handler.reply frame message).tasks = handler.tasks ++ replies frame message := by
  unfold reply replies
  split
  · rfl
  · exact (List.append_nil _).symm

theorem answers_reply (frame : Frame) (message : Message) :
    handler.Answers (handler.reply frame message) frame message :=
  ⟨[], nofun, by rw [tasks_reply, List.append_nil]⟩

/-- A command is submitted, and its answer goes into the reply. -/
theorem answers_submit (payload : CommandPayload) (frame : Frame) (message : Message) :
    handler.Answers ((handler.submit payload).2.reply frame message) frame message :=
  ⟨_, raised_ofEvents _, tasks_reply _ frame message⟩

theorem answers_handleOnlineRequest (frame : Frame) :
    ∃ onlack, handler.Answers (handler.handleOnlineRequest frame) frame (makeS1f18 onlack) := by
  unfold handleOnlineRequest
  split
  · exact ⟨_, handler.answers_reply frame _⟩
  · split
    · exact ⟨_, handler.answers_reply frame _⟩
    · exact ⟨_, handler.answers_submit _ frame _⟩

theorem answers_handleRemoteCommand (frame : Frame) {message : Message} {command : RemoteCommand}
    (parsed : parseS2f41 message = .ok command) :
    handler.Answers (handler.handleRemoteCommand frame message) frame
      (makeS2f42 (handler.executeCommand command).1 (handler.executeCommand command).2.1) := by
  unfold handleRemoteCommand
  rw [parsed]
  dsimp only
  rw [executeCommand_handler]
  cases remotePayload handler.api command with
  | none => exact handler.answers_reply frame _
  | some payload => exact handler.answers_submit payload frame _

theorem answers_handleStatusRequest (now : TimePoint) (frame : Frame) {message : Message}
    {svids : List UInt32} (parsed : parseS1f3 message = .ok svids) :
    ∃ values, handler.Answers (handler.handleStatusRequest now frame message) frame
      (makeS1f4 values) := by
  unfold handleStatusRequest
  rw [parsed]
  exact ⟨_, handler.answers_reply frame _⟩

end Handler

/-- A body that the catalogue accepts parses. -/
theorem eq_ok_of_accepts {α : Type} {parser : Option Item → Result α} {body : Option Item}
    (accepted : accepts parser body = true) : ∃ value, parser body = .ok value := by
  unfold accepts at accepted
  cases parsed : parser body with
  | error reason =>
      rw [parsed] at accepted
      cases accepted
  | ok value => exact ⟨value, rfl⟩

/-- The messages that the catalogue accepts, with what its check has found. -/
theorem registered_of_check {message : Message}
    (checked : Handler.equipmentFactory.check message = .ok) :
    ∃ entry ∈ Handler.equipmentFactory.entries, entry.stream = message.stream ∧
      entry.function = message.function ∧ entry.check message.body = true := by
  unfold Secs2.MessageFactory.check at checked
  split at checked
  next entry found =>
    have named := List.find?_some found
    simp only [Bool.and_eq_true, decide_eq_true_eq] at named
    refine ⟨entry, List.mem_of_find?_eq_some found, named.1, named.2, ?_⟩
    by_contra refused
    rw [if_neg refused] at checked
    cases checked
  · split at checked <;> cases checked

theorem equipmentFactory_entries : Handler.equipmentFactory.entries =
    [⟨6, 12, "S6F12", accepts parseAckBody⟩, ⟨5, 2, "S5F2", accepts parseAckBody⟩,
      ⟨2, 41, "S2F41", accepts parseCommandBody⟩, ⟨1, 17, "S1F17", noBody⟩,
      ⟨1, 15, "S1F15", noBody⟩, ⟨1, 13, "S1F13", commRequestOk⟩,
      ⟨1, 3, "S1F3", accepts parseSvidBody⟩, ⟨1, 1, "S1F1", noBody⟩] :=
  rfl

namespace Handler

/-- A message that the catalogue accepts is a request that is replied to, or a stray answer. -/
theorem answers_handleMessage (handler : Handler) (now : TimePoint) (frame : Frame)
    {message : Message} (checked : equipmentFactory.check message = .ok) :
    (∃ reply, Pairs message reply ∧
      handler.Answers (handler.handleMessage now frame message) frame reply) ∨
      (message.function.toNat % 2 = 0 ∧ handler.handleMessage now frame message = handler) := by
  obtain ⟨entry, member, stream, function, accepted⟩ := registered_of_check checked
  obtain ⟨messageStream, messageFunction, wBit, body⟩ := message
  dsimp only at stream function accepted
  subst stream function
  rw [equipmentFactory_entries] at member
  simp only [List.mem_cons, List.not_mem_nil, or_false] at member
  rcases member with rfl | rfl | rfl | rfl | rfl | rfl | rfl | rfl
  · exact .inr ⟨by simp, rfl⟩
  · exact .inr ⟨by simp, rfl⟩
  · obtain ⟨command, parsed⟩ := eq_ok_of_accepts accepted
    exact .inl ⟨makeS2f42 _ _, ⟨by simp, rfl, by simp [makeS2f42]⟩,
      handler.answers_handleRemoteCommand frame
        (show parseS2f41 ⟨2, 41, wBit, body⟩ = .ok command from parsed)⟩
  · obtain ⟨onlack, answers⟩ := handler.answers_handleOnlineRequest frame
    exact .inl ⟨makeS1f18 onlack, ⟨by simp, rfl, by simp [makeS1f18]⟩, answers⟩
  · exact .inl ⟨makeS1f16 kOflackOk, ⟨by simp, rfl, by simp [makeS1f16]⟩,
      handler.answers_submit _ frame _⟩
  · exact .inl ⟨makeS1f14 _ _, ⟨by simp, rfl, by simp [makeS1f14]⟩, answers_reply _ frame _⟩
  · obtain ⟨svids, parsed⟩ := eq_ok_of_accepts accepted
    obtain ⟨values, answers⟩ := handler.answers_handleStatusRequest now frame
      (show parseS1f3 ⟨1, 3, wBit, body⟩ = .ok svids from parsed)
    exact .inl ⟨makeS1f4 values, ⟨by simp, rfl, by simp [makeS1f4]⟩, answers⟩
  · exact .inl ⟨makeS1f2 _, ⟨by simp, rfl, by simp [makeS1f2]⟩, handler.answers_reply frame _⟩

end Handler

/-! ## One answer -/

/-- The header on the wire: what `encode_frame` writes after the length. -/
theorem headerBytes_of_encodeFrame {frame : Frame} {wire : List UInt8}
    (encoded : Hsms.encodeFrame frame = .ok wire) :
    (wire.drop Hsms.kLengthFieldSize).take Hsms.kHeaderSize = Hsms.headerBytes frame.header := by
  unfold Hsms.encodeFrame at encoded
  dsimp only at encoded
  split at encoded
  · cases encoded
  · obtain rfl := Except.ok.inj encoded
    have header := Hsms.FrameDecoder.headerBytes_length frame.header
    rw [List.append_assoc, List.drop_left' (by simp [Hsms.kLengthFieldSize]),
      List.take_left' header]

/--
A delivery that answers a request of ours posts nothing.  Every other delivery posts
the tasks of events and then at most one answer.  A message that is refused has one
request of stream 9 for an answer, with the ten header bytes of its frame as they are
on the wire, and raises no events.  A message that is not refused has one reply or
none: one, with its system bytes, its stream and the next function, if the W-bit is
set and the function is odd; none if the W-bit is clear.
-/
theorem every_request_answered_once (handler : Handler) (now : TimePoint) (delivery : Delivery) :
    (∀ systemBytes, delivery.replyTo = some systemBytes →
      (handler.onData now delivery).tasks = handler.tasks) ∧
      (delivery.replyTo = none → ∃ events answers : List Task, Raised events ∧
        (handler.onData now delivery).tasks = handler.tasks ++ events ++ answers ∧
        (∀ function, s9Function handler.gem.config delivery.frame = some function →
          events = [] ∧ ∃ header, answers = [.request (makeS9 function header)] ∧
            header = Hsms.headerBytes delivery.frame.header ∧
            ∀ wire, Hsms.encodeFrame delivery.frame = .ok wire →
              header = (wire.drop 4).take 10) ∧
        (s9Function handler.gem.config delivery.frame = none → answers = [] ∨
          ∃ reply, answers = [.reply delivery.frame.header.systemBytes reply] ∧
            reply.stream = delivery.frame.header.stream ∧
            reply.function.toNat = delivery.frame.header.function.toNat + 1) ∧
        (delivery.frame.header.wBit = true →
          delivery.frame.header.function.toNat % 2 = 1 → answers.length = 1) ∧
        (delivery.frame.header.wBit = false → ∀ task ∈ answers, task.isReply = false)) := by
  refine ⟨fun systemBytes answer => ?_, fun primary => ?_⟩
  · rw [handler.onData_answer now answer]
  · have handled := handler.onData_primary now primary
    rw [fault_eq_s9Function] at handled
    cases refusal : s9Function handler.gem.config delivery.frame with
    | some function =>
        rw [refusal] at handled
        rw [handled]
        refine ⟨[], [.request (makeS9 function (Hsms.headerBytes delivery.frame.header))], nofun,
          by rw [List.append_nil]; rfl, ?_, nofun, fun _ _ => rfl, ?_⟩
        · intro other same
          obtain rfl := Option.some.inj same
          refine ⟨rfl, _, rfl, rfl, fun wire encoded => ?_⟩
          exact (headerBytes_of_encodeFrame encoded).symm
        · intro _ task member
          rw [List.mem_singleton.mp member]
          rfl
    | none =>
        rw [refusal] at handled
        obtain ⟨message, decoded, checked, handled⟩ := handled
        have named := named_of_toMessage decoded
        rw [handled]
        rcases handler.answers_handleMessage now delivery.frame checked with
          ⟨reply, ⟨odd, stream, function⟩, events, raised, tasks⟩ | ⟨even, same⟩
        · rw [named.1] at stream
          rw [named.2] at function
          refine ⟨events, replies delivery.frame reply, raised, tasks, nofun, fun _ => ?_, ?_, ?_⟩
          · unfold replies
            split
            · exact .inr ⟨reply, rfl, stream, function⟩
            · exact .inl rfl
          · intro wBit _
            rw [replies, if_pos wBit]
            rfl
          · intro clear
            rw [replies, if_neg (by simp [clear])]
            nofun
        · rw [same]
          refine ⟨[], [], nofun, by simp, nofun, fun _ => .inl rfl, fun _ odd => ?_, nofun⟩
          rw [← named.2] at odd
          omega

end Ssim.Gem
