import Ssim.Gem.Messages
import Ssim.HostSim.Pattern
import Ssim.Hsms.Session
import Ssim.Secs2.TextDump

/-!
# The script runner

The active side of a connection: a client that reads frames with a bounded wait, and
the runner of a script over it.  Data messages go into a queue, control messages into
another one, and a waiting command takes the first that suits it.

What the script meets comes as a list of moments: how a bounded read ends, that the
deadline of a wait has passed, and how a connection attempt ends.  A run whose moments
are used up is `waiting`.  The comparisons of floating-point numbers are a parameter,
and the lines of the trace are left out.
-/

namespace Ssim.HostSim

open Core (Text Result Error)
open Gem Hsms Secs2
open Library.Numerals (numeral)

/-! ## The client -/

def kMaxFrame : Nat := 16 * 1024 * 1024

/-- The size of the buffer of one read. -/
def kReadBuffer : Nat := 4096

def kErrSendFailed : Nat := 603

inductive ReadStatus where
  | frames
  | timeout
  | closed
  deriving Repr, DecidableEq

/-- How a read with a bounded wait ends. -/
inductive Arrival where
  | timeout
  | failed
  | bytes (received : List UInt8)

structure HostClient where
  isOpen : Bool
  closed : Bool
  decoder : FrameDecoder

namespace HostClient

def fresh : HostClient := ⟨false, false, .fresh kMaxFrame⟩

def connected : HostClient := ⟨true, false, .fresh kMaxFrame⟩

def close (client : HostClient) : HostClient := { client with isOpen := false }

/-- The socket is open and has not failed. -/
def isAlive (client : HostClient) : Bool := client.isOpen && !client.closed

/-- What an open socket is given to write is written. -/
def sendBytes (client : HostClient) (bytes : List UInt8) : Result (List (List UInt8)) :=
  if client.isOpen then .ok [bytes] else .error ⟨kErrSendFailed, "not connected"⟩

/-- A failed read and bytes that are no frames both end the connection. -/
def read (client : HostClient) (arrival : Arrival) : ReadStatus × List Frame × HostClient :=
  if !client.isAlive then (.closed, [], client)
  else
    match arrival with
    | .timeout => (.timeout, [], client)
    | .failed => (.closed, [], { client with closed := true })
    | .bytes received =>
        match client.decoder.feed received with
        | (.error _, decoder) => (.closed, [], { client with decoder := decoder, closed := true })
        | (.ok frames, decoder) => (.frames, frames, { client with decoder := decoder })

end HostClient

/-! ## Commands -/

inductive Assertion where
  | within (center tolerance : Core.Double)
  | isNumber (equal : Bool) (number : Core.Double)
  | isText (equal : Bool) (value : Text)

inductive Action where
  | connect (host : Text) (port : UInt16)
  | select (status : Option Nat)
  | deselect (status : Option Nat)
  | linktest
  | separate
  | send (stream function : Nat) (wBit : Option Bool) (device : Option Nat) (body : Option Item)
  | expect (stream function : Nat) (pattern : Option Pattern) (timeout : Nat)
  | expectNo (stream function timeout : Nat)
  | waitEvent (id : UInt32) (filters : List (Text × Text)) (timeout : Nat)
  | waitAlarm (id : UInt32) (set : Bool) (timeout : Nat)
  | expectClosed (timeout : Nat)
  | expectStatus (id : UInt32) (pattern : Option Pattern) (timeout : Nat)
  | assert (field : Text) (assertion : Assertion)
  | autoAck (flag : Bool)
  | sleep (duration : Nat)
  | raw (bytes : List UInt8)
  | disconnect

structure Command where
  line : Nat
  text : Text
  action : Action

/-- Comparisons of an item with what a script wrote. -/
structure Comparisons where
  /-- The number of the item is the one that the text denotes, up to 1e-9. -/
  near : Item → Text → Bool
  /-- Why the item fails the assertion, if it does. -/
  refutes : Text → Assertion → Item → Option Text

/-! ## The runner -/

structure Received where
  frame : Frame
  message : Message
  deriving DecidableEq

structure Runner where
  deviceId : UInt16
  client : HostClient := .fresh
  queue : List Received := []
  control : List Frame := []
  autoAck : Bool := true
  closed : Bool := true
  nextSys : UInt32 := 1
  lastEvent : Option EventReport := none
  lastAlarm : Option AlarmReport := none

inductive Moment where
  | arrival (arrival : Arrival)
  /-- The clock has been read: has the deadline passed? -/
  | clock (passed : Bool)
  | connection (outcome : Except Text Unit)

inductive Verdict (α : Type) where
  | done (value : α)
  | failed (why : Text)
  | waiting
  deriving DecidableEq

/-- What a piece of the script ends with, what it wrote, and the moments it left. -/
structure Outcome (α : Type) where
  verdict : Verdict α
  runner : Runner
  sent : List (List UInt8)
  rest : List Moment

namespace Outcome

variable {α β : Type}

/-- The outcome behind what was written before. -/
def after (sent : List (List UInt8)) (outcome : Outcome α) : Outcome α :=
  { outcome with sent := sent ++ outcome.sent }

def andThen (outcome : Outcome α) (next : α → Runner → List Moment → Outcome β) : Outcome β :=
  match outcome.verdict with
  | .done value => (next value outcome.runner outcome.rest).after outcome.sent
  | .failed why => ⟨.failed why, outcome.runner, outcome.sent, outcome.rest⟩
  | .waiting => ⟨.waiting, outcome.runner, outcome.sent, outcome.rest⟩

end Outcome

def text (string : String) : Text := Text.ofString string

def sfName (stream function : Nat) : Text :=
  text "S" ++ numeral 10 stream ++ text "F" ++ numeral 10 function

namespace Runner

def done (runner : Runner) (rest : List Moment) : Outcome Unit := ⟨.done (), runner, [], rest⟩

def fail {α : Type} (runner : Runner) (why : Text) (rest : List Moment) : Outcome α :=
  ⟨.failed why, runner, [], rest⟩

/-! ## Plumbing -/

/-- The byte vectors that are written, or why nothing is. -/
def sendFrame (runner : Runner) (frame : Frame) : Result (List (List UInt8)) :=
  match encodeFrame frame with
  | .error reason => .error reason
  | .ok bytes => runner.client.sendBytes bytes

/-- What is written where a failure is ignored. -/
def written (runner : Runner) (frame : Frame) : List (List UInt8) :=
  match runner.sendFrame frame with
  | .error _ => []
  | .ok sent => sent

def reply (runner : Runner) (request : Frame) (message : Message) : List (List UInt8) :=
  match Session.encodeBody message with
  | .error _ => []
  | .ok body =>
      runner.written (makeDataFrame request.header.sessionId message.stream message.function false
        request.header.systemBytes body)

/-- The acknowledgement of an event or an alarm that asks for one. -/
def acknowledge (runner : Runner) (frame : Frame) (message : Message) : List (List UInt8) :=
  if runner.autoAck ∧ message.wBit then
    if message.stream = 6 ∧ message.function = 11 then
      runner.reply frame (makeS6f12 kAckAccepted)
    else if message.stream = 5 ∧ message.function = 1 then
      runner.reply frame (makeS5f2 kAckAccepted)
    else []
  else []

/-- A control message is kept as it is; a data message that cannot be decoded is dropped. -/
def onFrame (runner : Runner) (frame : Frame) : Runner × List (List UInt8) :=
  if frame.header.stype ≠ 0 then
    ({ runner with control := runner.control ++ [frame] },
      if stypeFromByte frame.header.stype = some .linktestReq then
        runner.written (makeControlFrame .linktestRsp frame.header.systemBytes 0 0)
      else [])
  else
    match toMessage frame with
    | .error _ => (runner, [])
    | .ok message =>
        ({ runner with queue := runner.queue ++ [⟨frame, message⟩] },
          runner.acknowledge frame message)

def onFrames (runner : Runner) : List Frame → Runner × List (List UInt8)
  | [] => (runner, [])
  | frame :: frames =>
      let (runner, sent) := runner.onFrame frame
      let (runner, more) := runner.onFrames frames
      (runner, sent ++ more)

def pump (runner : Runner) (arrival : Arrival) : Runner × List (List UInt8) :=
  match runner.client.read arrival with
  | (status, frames, client) =>
      let (runner, sent) := { runner with client := client }.onFrames frames
      (if status = .closed then { runner with closed := true } else runner, sent)

end Runner

/-- The first entry that suits, and the others in their order. -/
def takeFirst {α : Type} (suits : α → Bool) : List α → Option (α × List α)
  | [] => none
  | entry :: entries =>
      if suits entry then some (entry, entries)
      else (takeFirst suits entries).map fun found => (found.1, entry :: found.2)

namespace Runner

def waitMessage (suits : Received → Bool) (timeout : Nat) (what : Text) (runner : Runner)
    (moments : List Moment) : Outcome Received :=
  match takeFirst suits runner.queue with
  | some (received, queue) => ⟨.done received, { runner with queue := queue }, [], moments⟩
  | none =>
      if runner.closed then
        runner.fail (text "the connection closed while waiting for " ++ what) moments
      else
        match moments with
        | .clock true :: rest =>
            runner.fail (text "timed out after " ++ numeral 10 timeout ++
              text " ms waiting for " ++ what) rest
        | .arrival arrival :: rest =>
            let (runner, sent) := runner.pump arrival
            (waitMessage suits timeout what runner rest).after sent
        | .clock false :: rest => waitMessage suits timeout what runner rest
        | .connection _ :: _ | [] => ⟨.waiting, runner, [], moments⟩

def waitControl (stype : SType) (sys : UInt32) (runner : Runner) (moments : List Moment) :
    Outcome Frame :=
  let suits (frame : Frame) : Bool :=
    frame.header.stype = stype.toByte ∧ frame.header.systemBytes = sys
  match takeFirst suits runner.control with
  | some (frame, control) => ⟨.done frame, { runner with control := control }, [], moments⟩
  | none =>
      if runner.closed then
        runner.fail (text "the connection closed while waiting for " ++ text stype.toString) moments
      else
        match moments with
        | .clock true :: rest =>
            runner.fail (text "timed out waiting for " ++ text stype.toString) rest
        | .arrival arrival :: rest =>
            let (runner, sent) := runner.pump arrival
            (waitControl stype sys runner rest).after sent
        | .clock false :: rest => waitControl stype sys runner rest
        | .connection _ :: _ | [] => ⟨.waiting, runner, [], moments⟩

def matchesBody (pattern : Option Pattern) (message : Message) : Bool :=
  match pattern, message.body with
  | none, _ => true
  | some .anyItem, none => true
  | some _, none => false
  | some pattern, some body => matchesItem pattern body

def bodyText (formats : NumberFormats) (message : Message) : Text :=
  match message.body with
  | none => text "(no body)"
  | some body => body.toText formats

/-- The system bytes of the next primary message. -/
def allocateSys (runner : Runner) : Runner := { runner with nextSys := runner.nextSys + 1 }

/-- Write a frame; where that fails, the command does. -/
def send (runner : Runner) (frame : Frame) (moments : List Moment) : Outcome Unit :=
  match runner.sendFrame frame with
  | .error reason => runner.fail (text reason.message) moments
  | .ok sent => ⟨.done (), runner, sent, moments⟩

/-! ## Commands -/

def doConnect (runner : Runner) : List Moment → Outcome Unit
  | .connection (.ok ()) :: rest =>
      { runner with client := .connected, closed := false, queue := [], control := [] }.done rest
  | .connection (.error why) :: rest => { runner with client := .fresh }.fail why rest
  | moments => ⟨.waiting, runner, [], moments⟩

def doHandshake (request response : SType) (expected : Nat) (runner : Runner)
    (moments : List Moment) : Outcome Unit :=
  let sys := runner.nextSys
  (runner.allocateSys.send (makeControlFrame request sys 0 0) moments).andThen
    fun _ runner moments => (waitControl response sys runner moments).andThen
      fun rsp runner moments =>
        if response ≠ .linktestRsp ∧ rsp.header.byte3.toNat ≠ expected then
          runner.fail (text response.toString ++ text " status " ++
            numeral 10 rsp.header.byte3.toNat ++ text ", expected " ++ numeral 10 expected) moments
        else runner.done moments

/-- Primary messages ask for a reply unless the script says otherwise. -/
def doSend (stream function : Nat) (wBit : Option Bool) (device : Option Nat) (body : Option Item)
    (runner : Runner) (moments : List Moment) : Outcome Unit :=
  let message : Message :=
    ⟨UInt8.ofNat stream, UInt8.ofNat function, wBit.getD (function % 2 = 1), body⟩
  match Session.encodeBody message with
  | .error reason => runner.fail (text reason.message) moments
  | .ok body =>
      let sessionId := UInt16.ofNat (device.getD runner.deviceId.toNat)
      runner.allocateSys.send (makeDataFrame sessionId message.stream message.function message.wBit
        runner.nextSys body) moments

/-- The stream and the function of an awaited message. -/
def isMessage (stream function : Nat) (received : Received) : Bool :=
  received.message.stream.toNat = stream ∧ received.message.function.toNat = function

def doExpect (formats : NumberFormats) (stream function : Nat) (pattern : Option Pattern)
    (timeout : Nat) (runner : Runner) (moments : List Moment) : Outcome Unit :=
  (waitMessage (isMessage stream function) timeout (sfName stream function) runner moments).andThen
    fun received runner moments =>
      if matchesBody pattern received.message then runner.done moments
      else
        runner.fail (sfName stream function ++ text " arrived but its body " ++
          bodyText formats received.message ++ text " does not match the pattern") moments

/-- Where no such message comes in time, or the connection closes, all is well. -/
def doExpectNo (formats : NumberFormats) (stream function timeout : Nat) (runner : Runner)
    (moments : List Moment) : Outcome Unit :=
  let waited :=
    waitMessage (isMessage stream function) timeout (sfName stream function) runner moments
  match waited.verdict with
  | .done received =>
      { waited with
        verdict := .failed (text "unexpected " ++ received.message.toText formats) }
  | .failed _ => { waited with verdict := .done () }
  | .waiting => { waited with verdict := .waiting }

/-- The field of the first report that has one of this name. -/
def findEventField (event : EventReport) (name : Text) : Option Item :=
  event.reports.findSome? (fun report =>
    ((reportFields report.rptid).findIdx? (fun field => text field = name)).map
      fun index => report.values[index]?) |>.join

/-- The text of a string, `true` or `false`, or the number. -/
def itemEqualsText (comparisons : Comparisons) (item : Item) (wanted : Text) : Bool :=
  match item with
  | .array (.ascii value) => value = wanted
  | .array (.boolean []) => false
  | .array (.boolean (byte :: _)) => decide (byte ≠ 0) = decide (wanted = text "true")
  | item => comparisons.near item wanted

/-- The event that a wait for an event takes from a message. -/
def eventOf (comparisons : Comparisons) (id : UInt32) (filters : List (Text × Text))
    (received : Received) : Option EventReport :=
  if received.message.stream ≠ 6 ∨ received.message.function ≠ 11 then none
  else
    match parseS6f11 received.message with
    | .error _ => none
    | .ok event =>
        if event.ceid = id ∧ filters.all fun (field, wanted) =>
            (findEventField event field).any (itemEqualsText comparisons · wanted) then some event
        else none

def doWaitEvent (comparisons : Comparisons) (id : UInt32) (filters : List (Text × Text))
    (timeout : Nat) (runner : Runner) (moments : List Moment) : Outcome Unit :=
  let what := text "event " ++ numeral 10 id.toNat ++ text " " ++ text (ceidName id) ++
    filters.flatMap fun (field, wanted) => text " " ++ field ++ text "=" ++ wanted
  (waitMessage (fun received => (eventOf comparisons id filters received).isSome) timeout what
    runner moments).andThen fun received runner moments =>
      { runner with lastEvent := eventOf comparisons id filters received }.done moments

def alarmOf (id : UInt32) (set : Bool) (received : Received) : Option AlarmReport :=
  if received.message.stream ≠ 5 ∨ received.message.function ≠ 1 then none
  else
    match parseS5f1 received.message with
    | .error _ => none
    | .ok alarm =>
        if alarm.alid = id ∧ decide (alarm.alcd &&& kAlcdSetBit ≠ 0) = set then some alarm
        else none

def doWaitAlarm (id : UInt32) (set : Bool) (timeout : Nat) (runner : Runner)
    (moments : List Moment) : Outcome Unit :=
  let what := text "alarm " ++ numeral 10 id.toNat ++ text (if set then " set" else " clear")
  (waitMessage (fun received => (alarmOf id set received).isSome) timeout what
    runner moments).andThen fun received runner moments =>
      { runner with lastAlarm := alarmOf id set received }.done moments

def doExpectClosed (runner : Runner) (moments : List Moment) : Outcome Unit :=
  if runner.closed then runner.done moments
  else
    match moments with
    | .clock true :: rest => runner.fail (text "the machine did not close the connection") rest
    | .arrival arrival :: rest =>
        let (runner, sent) := runner.pump arrival
        (doExpectClosed runner rest).after sent
    | .clock false :: rest => doExpectClosed runner rest
    | .connection _ :: _ | [] => ⟨.waiting, runner, [], moments⟩

/-- Sleeps while still reading, so events keep being acknowledged. -/
def doSleep (runner : Runner) (moments : List Moment) : Outcome Unit :=
  match moments with
  | .clock true :: rest => runner.done rest
  | .arrival arrival :: rest =>
      if runner.client.isAlive && !runner.closed then
        let (runner, sent) := runner.pump arrival
        (doSleep runner rest).after sent
      -- Only the clock ends a sleep without a connection.
      else ⟨.waiting, runner, [], moments⟩
  | .clock false :: rest => doSleep runner rest
  | .connection _ :: _ | [] => ⟨.waiting, runner, [], moments⟩

/-- The single value that an S1F4 reports. -/
def statusValue (received : Received) : Option Item :=
  match received.message.body with
  | some (.list [value]) => some value
  | _ => none

/-- Ask until the value matches.  Every round reads the clock, so it ends with the moments. -/
def askStatus (formats : NumberFormats) (id : UInt32) (pattern : Option Pattern) :
    (rounds : Nat) → (last : Text) → Runner → List Moment → Outcome Unit
  | 0, _, runner, moments => ⟨.waiting, runner, [], moments⟩
  | rounds + 1, last, runner, moments =>
      let sys := runner.nextSys
      let ask := makeS1f3 [id]
      let body := match Session.encodeBody ask with
        | .error _ => []
        | .ok body => body
      let suits (received : Received) : Bool :=
        received.frame.header.systemBytes = sys ∧ received.message.stream = 1 ∧
          received.message.function = 4
      (runner.allocateSys.send (makeDataFrame runner.deviceId 1 3 true sys body) moments).andThen
        fun _ runner moments => (waitMessage suits 5000 (text "S1F4") runner moments).andThen
          fun received runner moments =>
            let value := statusValue received
            let last := (value.map (Item.toText formats)).getD last
            if (match pattern, value with
                | some pattern, some value => matchesItem pattern value
                | _, _ => false) then runner.done moments
            else
              match moments with
              | .clock true :: rest =>
                  runner.fail (text "status variable " ++ numeral 10 id.toNat ++ text " was " ++
                    last ++ text ", never matched the pattern") rest
              | .clock false :: rest =>
                  (doSleep runner rest).andThen fun _ runner moments =>
                    askStatus formats id pattern rounds last runner moments
              | moments => ⟨.waiting, runner, [], moments⟩

def doExpectStatus (formats : NumberFormats) (id : UInt32) (pattern : Option Pattern)
    (runner : Runner) (moments : List Moment) : Outcome Unit :=
  askStatus formats id pattern (moments.length + 1) (text "(no answer)") runner moments

/-- The value that an assertion is about, or why there is none. -/
def assertedValue (field : Text) (runner : Runner) : Except Text Item :=
  let name := field.drop 6
  if field.take 6 = text "event." then
    match runner.lastEvent with
    | none => .error (text "no event yet: use wait-event before asserting on event.*")
    | some event =>
        match findEventField event name with
        | none => .error (text "the last event has no field " ++ name)
        | some value => .ok value
  else
    match runner.lastAlarm with
    | none => .error (text "no alarm yet: use wait-alarm before asserting on alarm.*")
    | some alarm =>
        if name = text "ALID" then .ok (.u4 alarm.alid)
        else if name = text "ALCD" then .ok (.u1 alarm.alcd)
        else if name = text "ALTX" then .ok (.ascii alarm.altx)
        else .error (text "unknown alarm field " ++ name ++ text " (ALID, ALCD, ALTX)")

def doAssert (comparisons : Comparisons) (field : Text) (assertion : Assertion) (runner : Runner)
    (moments : List Moment) : Outcome Unit :=
  match assertedValue field runner with
  | .error why => runner.fail why moments
  | .ok value =>
      match comparisons.refutes field assertion value with
      | none => runner.done moments
      | some why => runner.fail why moments

def doRaw (bytes : List UInt8) (runner : Runner) (moments : List Moment) : Outcome Unit :=
  match runner.client.sendBytes bytes with
  | .error reason => runner.fail (text reason.message) moments
  | .ok sent => ⟨.done (), runner, sent, moments⟩

section Script

variable (formats : NumberFormats) (comparisons : Comparisons)

def execute (action : Action) (runner : Runner) (moments : List Moment) : Outcome Unit :=
  match action with
  | .connect _ _ => runner.doConnect moments
  | .select status => doHandshake .selectReq .selectRsp (status.getD 0) runner moments
  | .deselect status => doHandshake .deselectReq .deselectRsp (status.getD 0) runner moments
  | .linktest => doHandshake .linktestReq .linktestRsp 0 runner moments
  | .separate =>
      runner.allocateSys.send (makeControlFrame .separateReq runner.nextSys 0 0) moments
  | .send stream function wBit device body =>
      doSend stream function wBit device body runner moments
  | .expect stream function pattern timeout =>
      doExpect formats stream function pattern timeout runner moments
  | .expectNo stream function timeout =>
      doExpectNo formats stream function timeout runner moments
  | .waitEvent id filters timeout => doWaitEvent comparisons id filters timeout runner moments
  | .waitAlarm id set timeout => doWaitAlarm id set timeout runner moments
  | .expectClosed _ => doExpectClosed runner moments
  | .expectStatus id pattern _ => doExpectStatus formats id pattern runner moments
  | .assert field assertion => doAssert comparisons field assertion runner moments
  | .autoAck flag => { runner with autoAck := flag }.done moments
  | .sleep _ => doSleep runner moments
  | .raw bytes => doRaw bytes runner moments
  | .disconnect => { runner with client := runner.client.close, closed := true }.done moments

structure RunResult where
  ok : Bool
  failedLine : Nat
  message : Text
  deriving DecidableEq

/-- The first command that fails ends the run; the client is closed either way. -/
def run (runner : Runner) : List Command → List Moment → Outcome RunResult
  | [], moments =>
      ⟨.done ⟨true, 0, []⟩, { runner with client := runner.client.close }, [], moments⟩
  | command :: commands, moments =>
      let outcome := execute formats comparisons command.action runner moments
      match outcome.verdict with
      | .done _ => (run outcome.runner commands outcome.rest).after outcome.sent
      | .failed why =>
          { outcome with
            verdict := .done ⟨false, command.line, command.text ++ text ": " ++ why⟩
            runner := { outcome.runner with client := outcome.runner.client.close } }
      | .waiting => { outcome with verdict := .waiting }

end Script

end Runner

end Ssim.HostSim
