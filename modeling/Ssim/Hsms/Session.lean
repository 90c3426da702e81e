import Ssim.Hsms.Frame
import Std.Data.ExtTreeMap

/-!
# The HSMS session

The session of the passive entity: its connection state, its timers, the frame
decoder and the transactions it has open.  It touches no clock and no socket.
Every call takes the current time and the session, and returns the next session
together with what the caller has to send, deliver, report or close.

A time point counts nanoseconds of the steady clock and a duration milliseconds.
`allocateSystemBytes` contains the only unbounded loop.  It returns `none` when
the search of the source never ends, and the calls that allocate do likewise.
-/

namespace Ssim.Hsms

open Ssim.Core (Error Result)
open Std (ExtTreeMap)

abbrev TimePoint := Int
abbrev Duration := Int

/-- A time point a duration later. -/
def TimePoint.after (now : TimePoint) (duration : Duration) : TimePoint :=
  now + duration * 1000000

/-! ## Connection state -/

inductive ConnectionState where
  | notConnected
  | notSelected
  | selected
  deriving Repr, DecidableEq

namespace ConnectionState

def toString : ConnectionState → String
  | notConnected => "NOT_CONNECTED"
  | notSelected => "NOT_SELECTED"
  | selected => "SELECTED"

end ConnectionState

inductive ConnectionTrigger where
  | connect
  | select
  | deselect
  | disconnect
  | t7Timeout
  deriving Repr, DecidableEq

namespace ConnectionTrigger

def toString : ConnectionTrigger → String
  | connect => "Connect"
  | select => "Select"
  | deselect => "Deselect"
  | disconnect => "Disconnect"
  | t7Timeout => "T7Timeout"

end ConnectionTrigger

def kReasonIllegalConnectionTransition : Nat := 450

/-- The next connection state, or the reason why the trigger is illegal. -/
def ConnectionState.apply (state : ConnectionState) (trigger : ConnectionTrigger) :
    Result ConnectionState :=
  let (legal, next) : Bool × ConnectionState :=
    match trigger with
    | .connect => (state = .notConnected, .notSelected)
    | .select => (state = .notSelected, .selected)
    | .deselect => (state = .selected, .notSelected)
    | .disconnect => (state ≠ .notConnected, .notConnected)
    | .t7Timeout => (state = .notSelected, .notConnected)
  if legal then
    .ok next
  else
    .error ⟨kReasonIllegalConnectionTransition,
      trigger.toString ++ " is not allowed in " ++ state.toString⟩

/-! ## Timers, configuration and outputs -/

structure Timer where
  deadline : Option TimePoint
  deriving Repr, DecidableEq

namespace Timer

def stopped : Timer := ⟨none⟩

def started (now : TimePoint) (duration : Duration) : Timer := ⟨some (now.after duration)⟩

def running (timer : Timer) : Bool := timer.deadline.isSome

def expired (timer : Timer) (now : TimePoint) : Bool :=
  match timer.deadline with
  | none => false
  | some deadline => now ≥ deadline

end Timer

def kRejectSTypeNotSupported : UInt8 := 1
def kRejectPTypeNotSupported : UInt8 := 2
def kRejectTransactionNotOpen : UInt8 := 3
def kRejectEntityNotSelected : UInt8 := 4

def kSelectOk : UInt8 := 0
def kSelectAlreadyActive : UInt8 := 1
def kDeselectOk : UInt8 := 0
def kDeselectNotSelected : UInt8 := 1

def kErrNotSelected : Nat := 410
def kErrTooManyTransactions : Nat := 411
def kErrMessageTooLarge : Nat := 412

structure SessionConfig where
  t3 : Duration := 45000
  t6 : Duration := 5000
  t7 : Duration := 10000
  t8 : Duration := 5000
  linktestInterval : Duration := 60000
  maxFrameBytes : Nat := 1048576
  maxOpenTransactions : Nat := 256
  deviceId : UInt16 := 0
  firstSystemBytes : UInt32 := 1

/-- A data message for the layer above, and the open request it answers, if any. -/
structure Delivery where
  frame : Frame
  replyTo : Option UInt32
  deriving Repr, DecidableEq

structure SessionOutput where
  toSend : List (List UInt8) := []
  deliveries : List Delivery := []
  timedOut : List UInt32 := []
  close : Bool := false
  closeReason : String := ""
  deriving DecidableEq

structure Session where
  config : SessionConfig
  state : ConnectionState
  decoder : FrameDecoder
  t7 : Timer
  t8 : Timer
  t6 : Timer
  lastActivity : TimePoint
  pendingLinktest : Option UInt32
  /-- System bytes of every open request and its T3 deadline. -/
  transactions : ExtTreeMap UInt32 TimePoint
  nextSystemBytes : UInt32

namespace Session

def fresh (config : SessionConfig) : Session where
  config := config
  state := .notConnected
  decoder := .fresh config.maxFrameBytes
  t7 := .stopped
  t8 := .stopped
  t6 := .stopped
  lastActivity := 0
  pendingLinktest := none
  transactions := ∅
  nextSystemBytes := config.firstSystemBytes

/-- Apply a trigger to the connection state; an illegal one changes nothing. -/
def fire (session : Session) (trigger : ConnectionTrigger) : Session :=
  match session.state.apply trigger with
  | .error _ => session
  | .ok state => { session with state := state }

def openTransactions (session : Session) : Nat :=
  session.transactions.size

def resetLinkState (session : Session) : Session :=
  { session with
    t7 := .stopped
    t8 := .stopped
    t6 := .stopped
    pendingLinktest := none
    transactions := ∅
    decoder := .fresh session.config.maxFrameBytes }

def onConnect (session : Session) (now : TimePoint) : Session × SessionOutput :=
  match session.state.apply .connect with
  | .error _ => (session, {})
  | .ok state =>
      let session := { session with state := state }.resetLinkState
      ({ session with lastActivity := now, t7 := .started now session.config.t7 }, {})

def onDisconnect (session : Session) : Session :=
  match session.state.apply .disconnect with
  | .error _ => session
  | .ok state => { session with state := state }.resetLinkState

def closeConnection (session : Session) (reason : String) (out : SessionOutput) :
    Session × SessionOutput :=
  (session.onDisconnect, { out with close := true, closeReason := reason })

/-! ## Incoming bytes -/

/-- Queue a control frame.  It has no body, so its encoding is always there. -/
def sendControl (stype : SType) (systemBytes : UInt32) (byte2 byte3 : UInt8)
    (out : SessionOutput) : SessionOutput :=
  match encodeFrame (makeControlFrame stype systemBytes byte2 byte3) with
  | .error _ => out
  | .ok bytes => { out with toSend := out.toSend ++ [bytes] }

/-- Byte 2 names what was rejected: the SType, or the PType if that was the problem. -/
def reject (offending : Frame) (reason : UInt8) (out : SessionOutput) : SessionOutput :=
  let what :=
    if reason = kRejectPTypeNotSupported then offending.header.ptype else offending.header.stype
  sendControl .rejectReq offending.header.systemBytes what reason out

/-- End the Linktest with these system bytes, if it is the pending one. -/
def endLinktest (session : Session) (systemBytes : UInt32) : Session :=
  if session.pendingLinktest = some systemBytes then
    { session with pendingLinktest := none, t6 := .stopped }
  else
    session

def handleData (session : Session) (frame : Frame) (out : SessionOutput) :
    Session × SessionOutput :=
  let system := frame.header.systemBytes
  if session.state ≠ .selected then
    (session, reject frame kRejectEntityNotSelected out)
  -- Replies have even function numbers, so a host request that reuses one of
  -- our system bytes is not taken for a reply.
  else if frame.header.function % 2 = 0 ∧ system ∈ session.transactions then
    ({ session with transactions := session.transactions.erase system },
      { out with deliveries := out.deliveries ++ [⟨frame, some system⟩] })
  else
    (session, { out with deliveries := out.deliveries ++ [⟨frame, none⟩] })

def handleSelectReq (session : Session) (system : UInt32) (out : SessionOutput) :
    Session × SessionOutput :=
  if session.state = .notSelected then
    ({ session.fire .select with t7 := .stopped },
      sendControl .selectRsp system 0 kSelectOk out)
  else
    (session, sendControl .selectRsp system 0 kSelectAlreadyActive out)

def handleDeselectReq (session : Session) (now : TimePoint) (system : UInt32)
    (out : SessionOutput) : Session × SessionOutput :=
  if session.state = .selected then
    ({ session.fire .deselect with
        transactions := ∅, t7 := .started now session.config.t7 },
      sendControl .deselectRsp system 0 kDeselectOk out)
  else
    (session, sendControl .deselectRsp system 0 kDeselectNotSelected out)

def handleFrame (session : Session) (now : TimePoint) (frame : Frame) (out : SessionOutput) :
    Session × SessionOutput :=
  let system := frame.header.systemBytes
  if frame.header.ptype ≠ 0 then
    (session, reject frame kRejectPTypeNotSupported out)
  else
    match stypeFromByte frame.header.stype with
    | none => (session, reject frame kRejectSTypeNotSupported out)
    | some .data => session.handleData frame out
    | some .selectReq => session.handleSelectReq system out
    | some .deselectReq => session.handleDeselectReq now system out
    | some .linktestReq => (session, sendControl .linktestRsp system 0 0 out)
    | some .linktestRsp =>
        if session.pendingLinktest = some system then
          (session.endLinktest system, out)
        else
          (session, reject frame kRejectTransactionNotOpen out)
    -- The machine never sends Select.req or Deselect.req.
    | some .selectRsp => (session, reject frame kRejectTransactionNotOpen out)
    | some .deselectRsp => (session, reject frame kRejectTransactionNotOpen out)
    -- The peer refused something we sent: end that transaction.
    | some .rejectReq =>
        let session := session.endLinktest system
        ({ session with transactions := session.transactions.erase system }, out)
    | some .separateReq => session.closeConnection "Separate.req received" out

/-- The frames of one read.  A frame that closes the connection discards the rest. -/
def handleFrames (session : Session) (now : TimePoint) (out : SessionOutput) :
    List Frame → Session × SessionOutput
  | [] => (session, out)
  | frame :: frames =>
      let (session, out) := session.handleFrame now frame out
      if out.close then (session, out) else session.handleFrames now out frames

/-- T8 runs only while a frame is unfinished, and restarts whenever more of it arrives. -/
def updateT8 (session : Session) (now : TimePoint) : Session :=
  { session with
    t8 := if session.decoder.hasPartial then .started now session.config.t8 else .stopped }

def onBytes (session : Session) (now : TimePoint) (bytes : List UInt8) :
    Session × SessionOutput :=
  if session.state = .notConnected then
    (session, {})
  else
    let session := { session with lastActivity := now }
    match session.decoder.feed bytes with
    | (.error reason, decoder) =>
        { session with decoder := decoder }.closeConnection
          ("framing error: " ++ reason.message) {}
    | (.ok frames, decoder) =>
        let (session, out) := { session with decoder := decoder }.handleFrames now {} frames
        if out.close then (session, out) else (session.updateT8 now, out)

/-! ## System bytes -/

/-- In use by an open transaction or by the pending Linktest. -/
def inUse (session : Session) (candidate : UInt32) : Bool :=
  session.transactions.contains candidate || session.pendingLinktest = some candidate

/-- The search loop for a bounded number of rounds: the system bytes and the next candidate. -/
def searchSystemBytes (inUse : UInt32 → Bool) : Nat → UInt32 → Option (UInt32 × UInt32)
  | 0, _ => none
  | rounds + 1, candidate =>
      if candidate = 0 ∨ inUse candidate then
        searchSystemBytes inUse rounds (candidate + 1)
      else
        some (candidate, candidate + 1)

/--
The source searches in an endless loop.  After 2^32 rounds the candidates repeat
and nothing else has changed, so a search that has not ended by then never ends.
-/
def allocateSystemBytes (session : Session) : Option (UInt32 × Session) :=
  (searchSystemBytes session.inUse (2 ^ 32) session.nextSystemBytes).map fun found =>
    (found.1, { session with nextSystemBytes := found.2 })

/-! ## Time -/

/-- T3: report every expired request once, in the order of the system bytes, and forget it. -/
def expireTransactions (now : TimePoint) :
    List (UInt32 × TimePoint) → ExtTreeMap UInt32 TimePoint × List UInt32 →
      ExtTreeMap UInt32 TimePoint × List UInt32
  | [], result => result
  | (system, deadline) :: rest, (transactions, timedOut) =>
      if now ≥ deadline then
        expireTransactions now rest (transactions.erase system, timedOut ++ [system])
      else
        expireTransactions now rest (transactions, timedOut)

/-- The T3 sweep and the Linktest of a tick at which no link timer has expired. -/
def tickConnected (session : Session) (now : TimePoint) : Option (Session × SessionOutput) :=
  let (transactions, timedOut) :=
    expireTransactions now session.transactions.toList (session.transactions, [])
  let session := { session with transactions := transactions }
  let out : SessionOutput := { timedOut := timedOut }
  if session.state = .selected ∧ session.pendingLinktest = none ∧
      now - session.lastActivity ≥ session.config.linktestInterval * 1000000 then
    session.allocateSystemBytes.map fun (system, session) =>
      ({ session with
          pendingLinktest := some system
          t6 := .started now session.config.t6
          lastActivity := now },
        sendControl .linktestReq system 0 0 out)
  else
    some (session, out)

def onTick (session : Session) (now : TimePoint) : Option (Session × SessionOutput) :=
  if session.state = .notConnected then
    some (session, {})
  else if session.state = .notSelected ∧ session.t7.expired now then
    some ((session.fire .t7Timeout).resetLinkState,
      { close := true, closeReason := "T7 timeout: not selected in time" })
  else if session.t8.expired now then
    some (session.closeConnection "T8 timeout: frame stalled" {})
  else if session.pendingLinktest.isSome ∧ session.t6.expired now then
    some (session.closeConnection "T6 timeout: no Linktest.rsp" {})
  else
    session.tickConnected now

/-! ## Outgoing messages -/

/-- The encoded body of a message; a message without a body has no body bytes. -/
def encodeBody (message : Secs2.Message) : Result (List UInt8) :=
  match message.body with
  | none => .ok []
  | some item => Secs2.encode item

def queueData (session : Session) (message : Secs2.Message) (systemBytes : UInt32)
    (out : SessionOutput) : Result SessionOutput :=
  match encodeBody message with
  | .error reason => .error reason
  | .ok body =>
      if kHeaderSize + body.length > session.config.maxFrameBytes then
        .error ⟨kErrMessageTooLarge, "message exceeds the maximum frame size"⟩
      else
        let frame := makeDataFrame session.config.deviceId message.stream message.function
          message.wBit systemBytes body
        match encodeFrame frame with
        | .error reason => .error reason
        | .ok bytes => .ok { out with toSend := out.toSend ++ [bytes] }

/-- Open a transaction for a message that wants a reply, and note the activity. -/
def noteSent (session : Session) (now : TimePoint) (message : Secs2.Message) (system : UInt32) :
    Session :=
  { session with
    transactions :=
      if message.wBit then
        session.transactions.insert system (now.after session.config.t3)
      else
        session.transactions
    lastActivity := now }

def sendRequest (session : Session) (now : TimePoint) (message : Secs2.Message)
    (out : SessionOutput) : Option (Result UInt32 × Session × SessionOutput) :=
  if session.state ≠ .selected then
    some (.error ⟨kErrNotSelected, "data messages can only be sent while selected"⟩, session, out)
  else if message.wBit ∧ session.transactions.size ≥ session.config.maxOpenTransactions then
    some (.error ⟨kErrTooManyTransactions, "too many open transactions"⟩, session, out)
  else
    session.allocateSystemBytes.map fun (system, session) =>
      match session.queueData message system out with
      | .error reason => (.error reason, session, out)
      | .ok out => (.ok system, session.noteSent now message system, out)

/-- A reply never asks for another reply. -/
def sendReply (session : Session) (systemBytes : UInt32) (message : Secs2.Message)
    (out : SessionOutput) : Result Unit × SessionOutput :=
  if session.state ≠ .selected then
    (.error ⟨kErrNotSelected, "data messages can only be sent while selected"⟩, out)
  else
    match session.queueData { message with wBit := false } systemBytes out with
    | .error reason => (.error reason, out)
    | .ok out => (.ok (), out)

end Session

end Ssim.Hsms
