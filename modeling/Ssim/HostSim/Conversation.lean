import Ssim.HostSim.Runner
import Ssim.Hsms.Obligations

/-!
# A host and the equipment

The runner of a script and a session of the equipment, connected by two byte channels.
Bytes are read in pieces of any size, and the steps of the two sides interleave in any
order.  With auto-ack on the host answers every event, alarm and Linktest at once.

Each step of the conversation is a run of a correspondence in which the equipment asks
and the host answers, so what holds of every correspondence holds here.
-/

namespace Ssim.HostSim

open Core (Text Result Error)
open Gem Hsms Secs2
open Library (Channel Correspondence PostalRules)
open Std (ExtTreeMap)

/-! ## What the host answers -/

/-- The message that acknowledges an event or an alarm that asks for a reply. -/
def acknowledgement (message : Message) : Option Message :=
  if message.wBit then
    if message.stream = 6 ∧ message.function = 11 then some (makeS6f12 kAckAccepted)
    else if message.stream = 5 ∧ message.function = 1 then some (makeS5f2 kAckAccepted)
    else none
  else none

/-- The encoded body of both acknowledgements. -/
def ackBody : List UInt8 := [0x21, 1, kAckAccepted]

/-- The frame that a host with auto-ack on writes for a frame that it receives. -/
def answerTo (frame : Frame) : Option Frame :=
  if frame.header.stype ≠ 0 then
    if stypeFromByte frame.header.stype = some .linktestReq then
      some (makeControlFrame .linktestRsp frame.header.systemBytes 0 0)
    else none
  else
    match toMessage frame with
    | .error _ => none
    | .ok message => (acknowledgement message).map fun ack =>
        makeDataFrame frame.header.sessionId ack.stream ack.function false
          frame.header.systemBytes ackBody

/-- A Linktest.rsp, or a data message with the even number of a reply. -/
def isAnswer (frame : Frame) : Bool :=
  frame.kind = some .linktestRsp || frame.kind = some .data && frame.header.function % 2 = 0

/-- The equipment asks, and the host answers. -/
def hostRules : PostalRules Frame Frame Frame Owed where
  reply := answerTo
  label := fun frame => if isAnswer frame then some frame else none
  settles := Frame.settles

theorem encodeBody_ack {message ack : Message} (acks : acknowledgement message = some ack) :
    Session.encodeBody ack = .ok ackBody ∧ ack.function % 2 = 0 := by
  unfold acknowledgement at acks
  split at acks
  · split at acks
    · obtain rfl := Option.some.inj acks
      exact ⟨rfl, rfl⟩
    · split at acks
      · obtain rfl := Option.some.inj acks
        exact ⟨rfl, rfl⟩
      · cases acks
  · cases acks

/-- What the host answers with is an answer. -/
theorem isAnswer_of_answerTo {frame answer : Frame} (answered : answerTo frame = some answer) :
    isAnswer answer = true := by
  unfold answerTo at answered
  split at answered
  · split at answered
    · obtain rfl := Option.some.inj answered
      rfl
    · cases answered
  · split at answered
    · cases answered
    · obtain ⟨ack, acks, rfl⟩ := Option.map_eq_some_iff.mp answered
      have even : (makeDataFrame frame.header.sessionId ack.stream ack.function false
          frame.header.systemBytes ackBody).header.function % 2 = 0 := (encodeBody_ack acks).2
      simp only [isAnswer, Bool.or_eq_true, Bool.and_eq_true, decide_eq_true_eq]
      exact .inr ⟨rfl, even⟩

theorem label_answers (frames : List Frame) :
    (frames.filterMap answerTo).filterMap hostRules.label = frames.filterMap hostRules.reply := by
  induction frames with
  | nil => rfl
  | cons frame frames ih =>
      cases answered : answerTo frame with
      | none => simpa [List.filterMap_cons, answered, hostRules] using ih
      | some answer =>
          have isOne := isAnswer_of_answerTo answered
          simpa [List.filterMap_cons, answered, hostRules, isOne] using ih

/-! ## What the runner writes -/

namespace Runner

/-- A frame that the runner writes reaches an open socket as its encoding. -/
theorem written_of_open {runner : Runner} (isOpen : runner.client.isOpen = true) {frame : Frame}
    {bytes : List UInt8} (encoded : encodeFrame frame = .ok bytes) :
    runner.written frame = [bytes] := by
  simp [written, sendFrame, encoded, HostClient.sendBytes, isOpen]

theorem written_encodes (runner : Runner) (frame : Frame) :
    runner.written frame = [] ∨
      ∃ bytes, encodeFrame frame = .ok bytes ∧ runner.written frame = [bytes] := by
  unfold written sendFrame
  cases encoded : encodeFrame frame with
  | error reason => exact .inl rfl
  | ok bytes =>
      simp only [HostClient.sendBytes]
      cases isOpen : runner.client.isOpen with
      | false => exact .inl rfl
      | true => exact .inr ⟨bytes, rfl, rfl⟩

theorem encodeFrame_ack (sessionId : UInt16) (stream function : UInt8) (systemBytes : UInt32) :
    ∃ bytes, encodeFrame (makeDataFrame sessionId stream function false systemBytes ackBody) =
      .ok bytes :=
  ⟨_, rfl⟩

theorem reply_sent {runner : Runner} (isOpen : runner.client.isOpen = true) (frame : Frame)
    {ack : Message} (encoded : Session.encodeBody ack = .ok ackBody) :
    EncodesEach [makeDataFrame frame.header.sessionId ack.stream ack.function false
      frame.header.systemBytes ackBody] (runner.reply frame ack) := by
  obtain ⟨bytes, framed⟩ := encodeFrame_ack frame.header.sessionId ack.stream ack.function
    frame.header.systemBytes
  unfold reply
  simp only [encoded, written_of_open isOpen framed]
  exact .singleton framed

theorem acknowledge_sent {runner : Runner} (isOpen : runner.client.isOpen = true)
    (acks : runner.autoAck = true) (frame : Frame) (message : Message) :
    EncodesEach ((acknowledgement message).map fun ack =>
      makeDataFrame frame.header.sessionId ack.stream ack.function false
        frame.header.systemBytes ackBody).toList (runner.acknowledge frame message) := by
  unfold acknowledge acknowledgement
  rw [acks]
  cases message.wBit with
  | false => exact .nil
  | true =>
      simp only [and_self, if_true]
      split
      · exact reply_sent isOpen frame rfl
      · split
        · exact reply_sent isOpen frame rfl
        · exact .nil

/-- With auto-ack on and an open socket, the answer is what is written. -/
theorem onFrame_sent {runner : Runner} (isOpen : runner.client.isOpen = true)
    (acks : runner.autoAck = true) (frame : Frame) :
    EncodesEach (answerTo frame).toList (runner.onFrame frame).2 := by
  unfold onFrame answerTo
  split
  next control =>
    dsimp only
    split
    · rw [written_of_open isOpen rfl]
      exact .singleton rfl
    · exact .nil
  next data =>
    cases decoded : toMessage frame with
    | error reason => exact .nil
    | ok message => exact acknowledge_sent isOpen acks frame message

@[simp]
theorem onFrame_client (runner : Runner) (frame : Frame) :
    (runner.onFrame frame).1.client = runner.client := by
  unfold onFrame
  split
  · rfl
  · split <;> rfl

@[simp]
theorem onFrame_autoAck (runner : Runner) (frame : Frame) :
    (runner.onFrame frame).1.autoAck = runner.autoAck := by
  unfold onFrame
  split
  · rfl
  · split <;> rfl

@[simp]
theorem onFrames_client (runner : Runner) (frames : List Frame) :
    (runner.onFrames frames).1.client = runner.client := by
  induction frames generalizing runner with
  | nil => rfl
  | cons frame frames ih => exact (ih _).trans (onFrame_client runner frame)

@[simp]
theorem onFrames_autoAck (runner : Runner) (frames : List Frame) :
    (runner.onFrames frames).1.autoAck = runner.autoAck := by
  induction frames generalizing runner with
  | nil => rfl
  | cons frame frames ih => exact (ih _).trans (onFrame_autoAck runner frame)

theorem onFrames_sent {runner : Runner} (isOpen : runner.client.isOpen = true)
    (acks : runner.autoAck = true) (frames : List Frame) :
    EncodesEach (frames.filterMap answerTo) (runner.onFrames frames).2 := by
  induction frames generalizing runner with
  | nil => exact .nil
  | cons frame frames ih =>
      have first := onFrame_sent isOpen acks frame
      have rest := @ih (runner.onFrame frame).1 (by simpa using isOpen) (by simpa using acks)
      have whole := first.append rest
      rw [List.filterMap_cons]
      cases answered : answerTo frame with
      | none => simpa [answered, onFrames] using whole
      | some answer => simpa [answered, onFrames] using whole

end Runner

/-! ## The two sides -/

/-- The messages for which the equipment asks for a reply: events and alarms. -/
def IsReport (message : Message) : Prop :=
  (message.stream = 6 ∧ message.function = 11) ∨ (message.stream = 5 ∧ message.function = 1)

structure Conversation where
  host : Runner
  equipment : Session
  toHost : Channel UInt8
  toEquipment : Channel UInt8

namespace Conversation

/-- A new connection, at any time in the life of either side. -/
def connect (host : Runner) (equipment : Session) (now : TimePoint) : Conversation where
  host := { host with client := .connected, closed := false, queue := [], control := [] }
  equipment := (equipment.onConnect now).1
  toHost := .empty
  toEquipment := .empty

/-- The host has acted, and has written these vectors. -/
def hostActs (talk : Conversation) (acted : Runner × List (List UInt8)) : Conversation :=
  { talk with host := acted.1, toEquipment := talk.toEquipment.post acted.2.flatten }

/-- The equipment has acted, with this output. -/
def equipmentActs (talk : Conversation) (acted : Session × SessionOutput) : Conversation :=
  { talk with equipment := acted.1, toHost := talk.toHost.post acted.2.toSend.flatten }

/-- The host reads the next bytes. -/
def hostTakes (talk : Conversation) (size : Nat) : Conversation :=
  { talk with toHost := talk.toHost.take size }.hostActs
    (talk.host.pump (.bytes (talk.toHost.waiting.take size)))

/-- The equipment reads the next bytes. -/
def equipmentTakes (talk : Conversation) (now : TimePoint) (size : Nat) : Conversation :=
  { talk with toEquipment := talk.toEquipment.take size }.equipmentActs
    (talk.equipment.onBytes now (talk.toEquipment.waiting.take size))

inductive Step (talk : Conversation) : Conversation → Prop where
  | hostReads (size : Nat) (atMost : size ≤ kReadBuffer) (alive : talk.host.client.isAlive = true) :
      Step talk (talk.hostTakes size)
  /-- A read that gets nothing: it times out or fails, or the socket is closed. -/
  | hostWaits (arrival : Arrival) (nothing : arrival = .timeout ∨ arrival = .failed) :
      Step talk (talk.hostActs (talk.host.pump arrival))
  /-- A frame that the script writes of its own accord. -/
  | hostWrites (frame : Frame) (own : isAnswer frame = false) :
      Step talk (talk.hostActs (talk.host, talk.host.written frame))
  /-- What the runner keeps for itself changes. -/
  | hostGoesOn (next : Runner) (client : next.client = talk.host.client)
      (autoAck : next.autoAck = talk.host.autoAck) :
      Step talk (talk.hostActs (next, []))
  | hostCloses :
      Step talk (talk.hostActs
        ({ talk.host with client := talk.host.client.close, closed := true }, []))
  | equipmentReads (now : TimePoint) (size : Nat)
      (connected : talk.equipment.state ≠ .notConnected) :
      Step talk (talk.equipmentTakes now size)
  /-- A tick, a request, a reply or the loss of the socket. -/
  | equipmentCalls (input : SessionCall) (ordinary : input.Ordinary IsReport)
      (connected : talk.equipment.state ≠ .notConnected) (acted : Session × SessionOutput)
      (called : talk.equipment.call input = some acted) :
      Step talk (talk.equipmentActs acted)

def Run : Conversation → Conversation → Prop := Relation.ReflTransGen Step

/-! ## The correspondences -/

/-- The host asks for responses to its control requests. -/
def equipmentRules : PostalRules Frame Frame (SType × UInt32) Empty where
  reply := Frame.requests
  label := Frame.responds
  settles := fun _ _ => False

/-- The frames that were written to either side. -/
structure Mail where
  toHost : Channel Frame
  toEquipment : Channel Frame

/-- The equipment asks for answers to its reports and its Linktests. -/
def Mail.asked (mail : Mail) (owed : Set Owed) : Correspondence Frame Frame Owed :=
  ⟨mail.toHost, mail.toEquipment, owed⟩

def Mail.requested (mail : Mail) : Correspondence Frame Frame Empty :=
  ⟨mail.toEquipment, mail.toHost, ∅⟩

/-- The byte channels convey the mail, as far as the two sides still read. -/
structure Agrees (talk : Conversation) (mail : Mail) : Prop where
  autoAck : talk.host.autoAck = true
  session : talk.equipment.Invariant
  wholeToHost : Whole talk.toHost mail.toHost
  wholeToEquipment : Whole talk.toEquipment mail.toEquipment
  hostReads : talk.host.client.isAlive = true →
    Conveys talk.host.client.decoder talk.toHost mail.toHost
  equipmentReads : talk.equipment.state ≠ .notConnected →
    Conveys talk.equipment.decoder talk.toEquipment mail.toEquipment

/-- Some next mail agrees, and both correspondences run to it. -/
def Follows (talk next : Conversation) (mail : Mail) : Prop :=
  ∃ later, next.Agrees later ∧
    Correspondence.Run hostRules (mail.asked talk.equipment.owes)
      (later.asked next.equipment.owes) ∧
    Correspondence.Run equipmentRules mail.requested later.requested

variable {talk : Conversation} {mail : Mail}

/-! ## Steps of the host -/

/-- The host writes nothing, and reads nothing that it can still use. -/
theorem Agrees.hostQuiet (agrees : talk.Agrees mail) {next : Runner} {toHost : Channel UInt8}
    (posted : toHost.posted = talk.toHost.posted) (autoAck : next.autoAck = talk.host.autoAck)
    (reads : next.client.isAlive = true → Conveys next.client.decoder toHost mail.toHost) :
    talk.Follows ({ talk with toHost := toHost }.hostActs (next, [])) mail := by
  refine ⟨mail, ⟨autoAck.trans agrees.autoAck, agrees.session, ?_, ?_, reads, ?_⟩, .refl, .refl⟩
  · rw [Whole, hostActs, posted]
    exact agrees.wholeToHost
  · simpa [hostActs] using agrees.wholeToEquipment
  · simpa [hostActs] using agrees.equipmentReads

/-- The host takes some frames, and writes the answers to them. -/
theorem Agrees.hostAnswers (agrees : talk.Agrees mail) {next : Runner} {toHost : Channel UInt8}
    {sent : List (List UInt8)} {count : Nat} (autoAck : next.autoAck = talk.host.autoAck)
    (encoded : EncodesEach ((mail.toHost.waiting.take count).filterMap answerTo) sent)
    (conveys : Conveys next.client.decoder toHost (mail.toHost.take count)) :
    talk.Follows ({ talk with toHost := toHost }.hostActs (next, sent)) mail := by
  refine ⟨⟨mail.toHost.take count,
      mail.toEquipment.post ((mail.toHost.waiting.take count).filterMap answerTo)⟩,
    ⟨autoAck.trans agrees.autoAck, agrees.session, conveys.whole,
      agrees.wholeToEquipment.post encoded, fun _ => conveys,
      fun connected => (agrees.equipmentReads connected).post encoded⟩,
    .single (.answer count _ (label_answers _)), ?_⟩
  exact .tail (.single (.settle count ∅ fun _ debt => debt.elim))
    (.ask _ ∅ fun _ debt => debt.elim)

theorem Agrees.hostReads_follows (agrees : talk.Agrees mail) (size : Nat)
    (alive : talk.host.client.isAlive = true) :
    talk.Follows (talk.hostTakes size) mail := by
  unfold hostTakes
  have isOpen : talk.host.client.isOpen = true := by
    unfold HostClient.isAlive at alive
    exact (Bool.and_eq_true_iff.mp alive).1
  rcases (agrees.hostReads alive).feed size with
    ⟨reason, after, failed⟩ | ⟨count, after, fed, conveys⟩
  · have pumped : talk.host.pump (.bytes (talk.toHost.waiting.take size)) =
        ({ talk.host with
          client := { talk.host.client with decoder := after, closed := true }
          closed := true }, []) := by
      simp [Runner.pump, HostClient.read, alive, failed, Runner.onFrames]
    rw [pumped]
    exact agrees.hostQuiet (Channel.posted_take _ _) rfl fun alive => by
      simp [HostClient.isAlive] at alive
  · have pumped : talk.host.pump (.bytes (talk.toHost.waiting.take size)) =
        { talk.host with client := { talk.host.client with decoder := after } }.onFrames
          (mail.toHost.waiting.take count) := by
      simp [Runner.pump, HostClient.read, alive, fed]
    rw [pumped]
    have sent := @Runner.onFrames_sent
      { talk.host with client := { talk.host.client with decoder := after } } isOpen
      agrees.autoAck (mail.toHost.waiting.take count)
    refine agrees.hostAnswers (Runner.onFrames_autoAck _ _) sent ?_
    rw [Runner.onFrames_client]
    exact conveys

/-- Without bytes, at most the client is closed. -/
theorem Agrees.hostWaits_follows (agrees : talk.Agrees mail) {arrival : Arrival}
    (nothing : arrival = .timeout ∨ arrival = .failed) :
    talk.Follows (talk.hostActs (talk.host.pump arrival)) mail := by
  have pumped : (talk.host.pump arrival).2 = [] ∧
      (talk.host.pump arrival).1.autoAck = talk.host.autoAck ∧
      ((talk.host.pump arrival).1.client.isAlive = true →
        (talk.host.pump arrival).1.client = talk.host.client) := by
    unfold Runner.pump HostClient.read
    cases alive : talk.host.client.isAlive with
    | false => exact ⟨rfl, rfl, fun _ => rfl⟩
    | true =>
        rcases nothing with rfl | rfl
        · exact ⟨rfl, rfl, fun _ => rfl⟩
        · refine ⟨rfl, rfl, fun alive => ?_⟩
          simp [Runner.onFrames, HostClient.isAlive] at alive
  obtain ⟨silent, autoAck, client⟩ := pumped
  have same : talk.host.pump arrival = ((talk.host.pump arrival).1, []) := by rw [← silent]
  rw [same]
  refine agrees.hostQuiet rfl autoAck fun alive => ?_
  have kept := client alive
  rw [kept] at alive ⊢
  exact agrees.hostReads alive

theorem label_own {frame : Frame} (own : isAnswer frame = false) :
    [frame].filterMap hostRules.label = [] := by
  simp [hostRules, own]

theorem Agrees.hostWrites_follows (agrees : talk.Agrees mail) {frame : Frame}
    (own : isAnswer frame = false) :
    talk.Follows (talk.hostActs (talk.host, talk.host.written frame)) mail := by
  rcases talk.host.written_encodes frame with silent | ⟨bytes, encoded, sent⟩
  · rw [silent]
    exact agrees.hostQuiet rfl rfl agrees.hostReads
  · have each : EncodesEach [frame] (talk.host.written frame) := by
      rw [sent]
      exact .singleton encoded
    refine ⟨⟨mail.toHost, mail.toEquipment.post [frame]⟩,
      ⟨agrees.autoAck, agrees.session, agrees.wholeToHost, agrees.wholeToEquipment.post each,
        agrees.hostReads, fun connected => (agrees.equipmentReads connected).post each⟩,
      ?_, .single (.ask [frame] ∅ fun _ debt => debt.elim)⟩
    have taken : mail.toHost.take 0 = mail.toHost := by simp [Channel.take]
    have step : Correspondence.Step hostRules (mail.asked talk.equipment.owes) _ :=
      .answer 0 [frame] (label_own own)
    simp only [Mail.asked, taken] at step
    exact .single step

/-! ## Steps of the equipment -/

/-- The equipment takes some frames and writes some, and may ask. -/
theorem Agrees.equipmentSpeaks (agrees : talk.Agrees mail) {next : Session} {out : SessionOutput}
    {toEquipment : Channel UInt8} {count : Nat} {written : List Frame}
    (invariant : next.Invariant) (adds : ({} : SessionOutput).Adds written out)
    (posted : toEquipment.posted = talk.toEquipment.posted)
    (reads : next.state ≠ .notConnected →
      Conveys next.decoder toEquipment (mail.toEquipment.take count))
    (responses : written.filterMap Frame.responds =
      (mail.toEquipment.waiting.take count).filterMap Frame.requests)
    (owes : ∀ owed ∈ next.owes,
      owed ∈ talk.equipment.owes ∧
          ¬ Correspondence.Settled hostRules (mail.toEquipment.waiting.take count) owed ∨
        Correspondence.Asks hostRules written owed) :
    talk.Follows ({ talk with toEquipment := toEquipment }.equipmentActs (next, out)) mail := by
  obtain ⟨vectors, encoded, sent⟩ := adds
  rw [List.nil_append] at sent
  refine ⟨⟨mail.toHost.post written, mail.toEquipment.take count⟩,
    ⟨agrees.autoAck, invariant, ?_, ?_, fun alive => ?_, reads⟩, ?_,
    .single (.answer count written responses)⟩
  · simp only [equipmentActs, sent]
    exact agrees.wholeToHost.post encoded
  · rw [Whole, Channel.posted_take]
    simp only [equipmentActs, posted]
    exact agrees.wholeToEquipment
  · simp only [equipmentActs, sent]
    exact (agrees.hostReads alive).post encoded
  · -- What the frames settle is settled first; then the new debts are opened.
    have settle : Correspondence.Step hostRules (mail.asked talk.equipment.owes) _ :=
      .settle count { owed | owed ∈ talk.equipment.owes ∧
        ¬ Correspondence.Settled hostRules (mail.toEquipment.waiting.take count) owed }
        fun _ debt => debt
    exact .tail (.single settle) (.ask written next.owes owes)

/-- Only answers settle anything. -/
theorem settles_of_settled {frames : List Frame} {owed : Owed}
    (settled : Correspondence.Settled hostRules frames owed) :
    ∃ frame ∈ frames, frame.settles owed := by
  obtain ⟨frame, member, answer, labelled, settles⟩ := settled
  simp only [hostRules] at labelled settles
  split at labelled
  · obtain rfl := Option.some.inj labelled
    exact ⟨frame, member, settles⟩
  · cases labelled

/-- The host answers every question that the equipment asks. -/
theorem asks_of_question {frames : List Frame} {frame : Frame} {owed : Owed}
    (member : frame ∈ frames) (question : Session.Question IsReport frame owed) :
    Correspondence.Asks hostRules frames owed := by
  cases question with
  | linktest systemBytes => exact ⟨_, member, _, rfl, rfl, rfl⟩
  | request message report deviceId systemBytes body encoded =>
      have small : ({ message with wBit := true } : Message).stream ≤ 127 := by
        show message.stream ≤ 127
        rcases report with ⟨stream, -⟩ | ⟨stream, -⟩ <;> rw [stream] <;> decide
      have decoded := toMessage_makeDataFrame small encoded deviceId systemBytes
      have acks : ∃ ack, acknowledgement ({ message with wBit := true } : Message).normalize =
          some ack := by
        rcases report with ⟨stream, function⟩ | ⟨stream, function⟩
        · exact ⟨_, by simp [acknowledgement, Message.normalize, stream, function]; rfl⟩
        · exact ⟨_, by simp [acknowledgement, Message.normalize, stream, function]; rfl⟩
      obtain ⟨ack, acks⟩ := acks
      have answered : answerTo (makeDataFrame deviceId message.stream message.function true
          systemBytes body) =
            some (makeDataFrame deviceId ack.stream ack.function false systemBytes ackBody) := by
        have isData : ¬ (makeDataFrame deviceId message.stream message.function true systemBytes
          body).header.stype ≠ 0 := not_not.mpr rfl
        rw [answerTo, if_neg isData, decoded]
        simp only [acks, Option.map_some]
        rfl
      exact ⟨_, member, _, answered, rfl, (encodeBody_ack acks).2, rfl⟩

theorem Agrees.equipmentReads_follows (agrees : talk.Agrees mail) (now : TimePoint) (size : Nat)
    (connected : talk.equipment.state ≠ .notConnected) :
    talk.Follows (talk.equipmentTakes now size) mail := by
  unfold equipmentTakes
  obtain ⟨invariant, closes⟩ :=
    Session.invariant_onBytes agrees.session now (talk.toEquipment.waiting.take size)
  have effect := talk.equipment.onBytes_effect now (talk.toEquipment.waiting.take size)
  generalize talk.equipment.onBytes now (talk.toEquipment.waiting.take size) = result
    at invariant closes effect ⊢
  have posted : (talk.toEquipment.take size).posted = talk.toEquipment.posted :=
    Channel.posted_take _ _
  cases effect with
  | offline idle => exact absurd idle connected
  | framingError _ reason decoder fed =>
      have idle := closes rfl
      have responses : ([] : List Frame).filterMap Frame.responds =
          (mail.toEquipment.waiting.take 0).filterMap Frame.requests := rfl
      exact agrees.equipmentSpeaks invariant (.nothing rfl) posted
        (fun alive => absurd idle alive) responses
        fun owed owes => absurd owes (invariant.owes_nothing idle owed)
  | handled _ frames decoder fed next out done =>
      rcases (agrees.equipmentReads connected).feed size with
        ⟨reason, after, failed⟩ | ⟨count, after, taken, conveys⟩
      · rw [fed] at failed
        cases failed
      · rw [fed] at taken
        obtain ⟨same, rfl⟩ : frames = mail.toEquipment.waiting.take count ∧ after = decoder := by
          obtain ⟨same, decoders⟩ := Prod.mk.inj taken
          exact ⟨Except.ok.inj same, decoders.symm⟩
        subst same
        have link := agrees.session.toLinkInvariant.fed connected now fed
        have handles := Session.handleFrames_handles link connected now
          (mail.toEquipment.waiting.take count) (show ({} : SessionOutput).close = false from rfl)
        rw [done] at handles
        obtain ⟨handled, written, adds, responses, all⟩ := handles.writes
        cases closed : out.close with
        | true =>
            simp only [closed, if_true] at invariant closes ⊢
            have idle := closes trivial
            rw [List.take_take] at responses
            exact agrees.equipmentSpeaks invariant adds posted (fun alive => absurd idle alive)
              responses fun owed owes => absurd owes (invariant.owes_nothing idle owed)
        | false =>
            simp only [closed, Bool.false_eq_true, if_false] at invariant closes ⊢
            rw [all closed] at responses
            refine agrees.equipmentSpeaks invariant adds posted (fun _ => ?_) responses
              fun owed owes => .inl ?_
            · have same : (next.updateT8 now).decoder = after := handles.decoder closed
              rwa [same]
            · have before : owed ∈ next.owes := by
                cases owed <;> exact owes
              obtain ⟨old, unsettled⟩ := handles.owes owed before
              have old : owed ∈ talk.equipment.owes := by
                cases owed <;> exact old
              refine ⟨old, fun settled => ?_⟩
              obtain ⟨frame, member, settles⟩ := settles_of_settled settled
              exact unsettled frame member settles

theorem Agrees.equipmentCalls_follows (agrees : talk.Agrees mail) {input : SessionCall}
    (ordinary : input.Ordinary IsReport) (connected : talk.equipment.state ≠ .notConnected)
    {acted : Session × SessionOutput} (called : talk.equipment.call input = some acted) :
    talk.Follows (talk.equipmentActs acted) mail := by
  obtain ⟨next, out⟩ := acted
  have asks := Session.call_asks connected ordinary called
  obtain ⟨written, adds, responses, owes⟩ := asks.writes
  have taken : mail.toEquipment.take 0 = mail.toEquipment := by simp [Channel.take]
  have responses : written.filterMap Frame.responds =
      (mail.toEquipment.waiting.take 0).filterMap Frame.requests := responses
  refine agrees.equipmentSpeaks (Session.invariant_call agrees.session called).1 adds rfl
    (fun alive => ?_) responses fun owed member => ?_
  · obtain ⟨-, decoder⟩ := asks.decoder alive
    rw [taken, decoder]
    exact agrees.equipmentReads connected
  · rcases owes owed member with old | ⟨frame, among, question⟩
    · refine .inl ⟨old, fun answered => ?_⟩
      obtain ⟨_, among, _⟩ := answered
      cases among
    · exact .inr (asks_of_question among question)

/-! ## Runs -/

theorem Agrees.step (agrees : talk.Agrees mail) {next : Conversation} (step : Step talk next) :
    talk.Follows next mail := by
  cases step with
  | hostReads size _ alive => exact agrees.hostReads_follows size alive
  | hostWaits arrival nothing => exact agrees.hostWaits_follows nothing
  | hostWrites frame own => exact agrees.hostWrites_follows own
  | hostGoesOn next client autoAck =>
      refine agrees.hostQuiet rfl autoAck fun alive => ?_
      rw [client] at alive ⊢
      exact agrees.hostReads alive
  | hostCloses =>
      exact agrees.hostQuiet rfl rfl fun alive => by
        simp [HostClient.isAlive, HostClient.close] at alive
  | equipmentReads now size connected => exact agrees.equipmentReads_follows now size connected
  | equipmentCalls input ordinary connected acted called =>
      exact agrees.equipmentCalls_follows ordinary connected called

theorem Agrees.run (agrees : talk.Agrees mail) {next : Conversation} (run : Run talk next) :
    talk.Follows next mail := by
  induction run with
  | refl => exact ⟨mail, agrees, .refl, .refl⟩
  | tail _ step ih =>
      obtain ⟨middle, agreed, asked, requested⟩ := ih
      obtain ⟨later, agrees, askedOn, requestedOn⟩ := agreed.step step
      exact ⟨later, agrees, asked.trans askedOn, requested.trans requestedOn⟩

def Mail.empty : Mail := ⟨.empty, .empty⟩

theorem agrees_connect {host : Runner} {equipment : Session} (acks : host.autoAck = true)
    (invariant : equipment.Invariant) (idle : equipment.state = .notConnected) (now : TimePoint) :
    (connect host equipment now).Agrees .empty where
  autoAck := acks
  session := (Session.invariant_onConnect invariant now).1
  wholeToHost := rfl
  wholeToEquipment := rfl
  hostReads := fun _ => conveys_empty _
  equipmentReads := fun _ => by
    rw [connect, Session.onConnect_of_idle idle]
    exact conveys_empty _

theorem owes_connect (host : Runner) {equipment : Session} (idle : equipment.state = .notConnected)
    (now : TimePoint) : (connect host equipment now).equipment.owes = ∅ := by
  refine Set.eq_empty_iff_forall_notMem.mpr fun owed owes => ?_
  rw [connect, Session.onConnect_of_idle idle] at owes
  cases owed with
  | reply systemBytes => exact ExtTreeMap.not_mem_empty owes
  | linktest systemBytes => cases owes

theorem label_filter (frames : List Frame) :
    frames.filterMap hostRules.label = frames.filter isAnswer := by
  rw [← List.filterMap_eq_filter]
  rfl

/-- A session that waits for nothing has no open request and no pending Linktest. -/
theorem nothing_owed {session : Session} (nothing : session.owes = ∅) :
    session.transactions = ∅ ∧ session.pendingLinktest = none := by
  have free (owed : Owed) : owed ∉ session.owes := by
    rw [nothing]
    exact Set.notMem_empty owed
  constructor
  · exact ExtTreeMap.eq_empty_iff_forall_not_mem.mpr fun system => free (.reply system)
  · exact Option.eq_none_iff_forall_ne_some.mpr fun system => free (.linktest system)

/-- All bytes have been read, and both sides still read. -/
structure Quiet (talk : Conversation) : Prop where
  toHost : talk.toHost.waiting = []
  toEquipment : talk.toEquipment.waiting = []
  hostReads : talk.host.client.isAlive = true
  equipmentReads : talk.equipment.state ≠ .notConnected

/--
A host with auto-ack on and the equipment, in any interleaving and any chunking.  The
answers that the equipment has read are those to the first of its reports and Linktests,
in order, and the responses that the host has read are those to the first of its control
requests.  Once all bytes are read, every one of them is answered, and the equipment
waits for nothing.
-/
theorem host_answers_equipment {config : SessionConfig} {earlier : List SessionCall}
    {host : Runner} {equipment : Session} {now : TimePoint} {talk : Conversation}
    (reached : Library.Runs.run Session.advance (.fresh config) earlier = some equipment)
    (idle : equipment.state = .notConnected) (acks : host.autoAck = true)
    (run : Run (connect host equipment now) talk) :
    (framesOf talk.toEquipment.taken).filter isAnswer <+:
        (framesOf talk.toHost.posted).filterMap answerTo ∧
      (framesOf talk.toHost.taken).filterMap Frame.responds <+:
        (framesOf talk.toEquipment.posted).filterMap Frame.requests ∧
      (talk.Quiet →
        (framesOf talk.toEquipment.taken).filter isAnswer =
            (framesOf talk.toHost.posted).filterMap answerTo ∧
          (framesOf talk.toHost.taken).filterMap Frame.responds =
            (framesOf talk.toEquipment.posted).filterMap Frame.requests ∧
          talk.equipment.transactions = ∅ ∧ talk.equipment.pendingLinktest = none) := by
  have invariant := Session.invariant_of_run reached
  obtain ⟨mail, agrees, asked, requested⟩ := (agrees_connect acks invariant idle now).run run
  rw [owes_connect host idle] at asked
  have hostSound := Correspondence.sound_start.run asked
  have equipmentSound := Correspondence.sound_start.run requested
  have toHost := agrees.wholeToHost.framesOf
  have toEquipment := agrees.wholeToEquipment.framesOf
  rw [toHost, toEquipment]
  refine ⟨?_, ?_, fun quiet => ?_⟩
  · have front := framesOf_taken_front agrees.wholeToEquipment
    rw [← label_filter]
    exact (front.filterMap _).trans hostSound.posted_front
  · have front := framesOf_taken_front agrees.wholeToHost
    exact (front.filterMap _).trans equipmentSound.posted_front
  · have hostReads := agrees.hostReads quiet.hostReads
    have equipmentReads := agrees.equipmentReads quiet.equipmentReads
    have noQuestions := hostReads.drained quiet.toHost
    have noLetters := equipmentReads.drained quiet.toEquipment
    obtain ⟨answers, nothing⟩ := hostSound.settled noQuestions noLetters
    obtain ⟨responses, -⟩ := equipmentSound.settled noLetters noQuestions
    rw [hostReads.framesOf_taken, equipmentReads.framesOf_taken, ← label_filter]
    exact ⟨answers, responses, nothing_owed nothing⟩

/-- The host selects: the request is written, read and answered, and the answer is read. -/
theorem host_answers_equipment_select :
    ∃ talk, Run (connect { deviceId := 0 } (.fresh {}) 0) talk ∧ talk.Quiet ∧
      (framesOf talk.toHost.taken).filterMap Frame.responds = [(.selectRsp, 1)] ∧
      talk.equipment.transactions = ∅ := by
  let start := connect { deviceId := 0 } (.fresh {}) 0
  let asked := start.hostActs (start.host, start.host.written (makeControlFrame .selectReq 1 0 0))
  let selected := asked.equipmentTakes 0 14
  have run : Run start (selected.hostTakes 14) :=
    .tail (.tail (.single (.hostWrites (makeControlFrame .selectReq 1 0 0) rfl))
      (.equipmentReads 0 14 (by decide +kernel))) (.hostReads 14 (by decide) (by decide +kernel))
  have quiet : (selected.hostTakes 14).Quiet :=
    ⟨by decide +kernel, by decide +kernel, by decide +kernel, by decide +kernel⟩
  have requests : (framesOf (selected.hostTakes 14).toEquipment.posted).filterMap Frame.requests =
      [(.selectRsp, 1)] := by decide +kernel
  have reached : Library.Runs.run Session.advance (.fresh {}) [] = some (.fresh {}) := rfl
  obtain ⟨-, -, settled⟩ := host_answers_equipment reached rfl rfl run
  obtain ⟨-, responses, nothing, -⟩ := settled quiet
  exact ⟨_, run, quiet, responses.trans requests, nothing⟩

end Conversation

end Ssim.HostSim
