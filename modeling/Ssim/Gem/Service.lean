import Ssim.Core.MachineApi
import Ssim.Gem.Messages
import Ssim.Hsms.Session

/-!
# The GEM service

The service turns host messages into commands of the machine, and events and
alarms of the machine into messages to the host.  It runs on the I/O thread: what
it sends, and what the bus subscriptions hand to it, are tasks at the end of that
thread's queue.  `Handler` is the service together with the machine and the queue.

A double becomes a single-precision element by the hardware's rounding.
-/

namespace Ssim.Gem

open Ssim.Core (Error Result Text Double CommandSource CommandPayload ControlMode ProcessState
  AlarmId Event WaferResultReady MachineApi)
open Hsms (Header Frame Delivery ConnectionState TimePoint)
open Secs2 (Item Message MessageFactory Validation)
open Std (ExtTreeMap)

inductive CommState where
  | notCommunicating
  | communicating
  deriving Repr, DecidableEq

structure GemConfig where
  identity : Identity
  deviceId : UInt16 := 0
  allowHostOnline : Bool := true
  maxBodyBytes : Nat := 65536
  numLines : Int := 6

def kHost : CommandSource := .secsGem

def controlCode : ControlMode → UInt8
  | .offline => 0
  | .onlineLocal => 1
  | .onlineRemote => 2

def processCode : ProcessState → UInt8
  | .idle => 0
  | .scanning => 1
  | .processing => 2
  | .alarm => 3
  | .stopping => 4

/-- The bit pattern of a double converted to single precision. -/
def toSingle (value : Double) : UInt32 :=
  (Float.ofBits value).toFloat32.toBits

/-- The low byte of an integer. -/
def lowByte (value : Int) : UInt8 :=
  UInt8.ofNat (value % 256).toNat

/-- 1 to 32 letters, digits, underscores and hyphens. -/
def validWaferId (id : Text) : Bool :=
  !id.isEmpty && id.length ≤ 32 && id.all fun byte =>
    (65 ≤ byte && byte ≤ 90) || (97 ≤ byte && byte ≤ 122) || (48 ≤ byte && byte ≤ 57) ||
      byte = 95 || byte = 45

def knownAlid (alid : UInt32) : Bool :=
  1001 ≤ alid && alid ≤ 1008

def asU32 : Item → Option UInt32
  | .array (.u1 [value]) => some (UInt32.ofNat value.toNat)
  | .array (.u2 [value]) => some (UInt32.ofNat value.toNat)
  | .array (.u4 [value]) => some value
  | _ => none

/-! ## Tasks of the I/O thread -/

inductive Task where
  | request (message : Message)
  | reply (systemBytes : UInt32) (message : Message)
  | processStateChanged (after : ProcessState)
  | controlStateChanged (after : ControlMode)
  | scanStarted (waferId : Text) (slot : Int)
  | result (wafer : WaferResultReady)
  | runAborted
  | alarm (set : Bool) (id : AlarmId) (text : Text)
  deriving DecidableEq

/-- The task that a bus subscription of the service posts for an event. -/
def Task.ofEvent : Event → Option Task
  | .stateChanged _ after => some (.processStateChanged after)
  | .controlStateChanged _ after => some (.controlStateChanged after)
  | .scanStarted waferId slot => some (.scanStarted waferId slot)
  | .waferResultReady wafer => some (.result wafer)
  | .runAborted _ => some .runAborted
  | .alarmSet id reason => some (.alarm true id reason)
  | .alarmCleared id => some (.alarm false id id.toText)
  | _ => none

structure GemService where
  config : GemConfig
  started : TimePoint
  comm : CommState
  nextDataid : UInt32
  wafersProcessed : UInt32
  preferredOnlineMode : ControlMode
  /-- What was sent with the system bytes of an open request. -/
  openRequests : ExtTreeMap UInt32 Header

def GemService.fresh (config : GemConfig) (started : TimePoint) : GemService where
  config := config
  started := started
  comm := .notCommunicating
  nextDataid := 1
  wafersProcessed := 0
  preferredOnlineMode := .onlineLocal
  openRequests := ∅

/-- The service, the machine it commands and the queue of the I/O thread. -/
structure Handler where
  gem : GemService
  api : MachineApi
  tasks : List Task

namespace Handler

def post (handler : Handler) (task : Task) : Handler :=
  { handler with tasks := handler.tasks ++ [task] }

/-- Run a command of the host; its events post their tasks before it returns. -/
def submit (handler : Handler) (payload : CommandPayload) : Result ProcessState × Handler :=
  let (result, api, events) := handler.api.submit payload kHost
  (result, { handler with api := api, tasks := handler.tasks ++ events.filterMap Task.ofEvent })

/-! ## Sending -/

/-- A message that did not ask for a reply gets none. -/
def reply (handler : Handler) (request : Frame) (message : Message) : Handler :=
  if request.header.wBit then
    handler.post (.reply request.header.systemBytes message)
  else
    handler

def sendRequest (handler : Handler) (message : Message) : Handler :=
  handler.post (.request message)

/-- Called once the request is sent: remember it if it wants a reply. -/
def onSent (handler : Handler) (message : Message) (systemBytes : UInt32) : Handler :=
  if message.wBit then
    let header : Header :=
      { sessionId := handler.gem.config.deviceId
        byte2 := (message.stream &&& 0x7F) ||| 0x80
        byte3 := message.function
        ptype := 0
        stype := 0
        systemBytes := systemBytes }
    { handler with gem :=
        { handler.gem with openRequests := handler.gem.openRequests.insert systemBytes header } }
  else
    handler

def sendS9 (handler : Handler) (function : UInt8) (offending : Header) : Handler :=
  handler.sendRequest (makeS9 function (Hsms.headerBytes offending))

/-- Events raised while not communicating are dropped. -/
def sendEvent (handler : Handler) (ceid : UInt32) (reports : List Report) : Handler :=
  if handler.gem.comm ≠ .communicating then
    handler
  else
    { handler with gem :=
        { handler.gem with nextDataid := handler.gem.nextDataid + 1 } }.sendRequest
      (makeS6f11 ⟨handler.gem.nextDataid, ceid, reports⟩)

def sendAlarm (handler : Handler) (alcd : UInt8) (alid : UInt32) (text : Text) : Handler :=
  if handler.gem.comm ≠ .communicating then
    handler
  else
    handler.sendRequest (makeS5f1 ⟨alcd, alid, text⟩)

/-! ## Events and alarms -/

def statesReport (control : ControlMode) (process : ProcessState) : List Report :=
  [⟨kRptidStates, [.u1 (controlCode control), .u1 (processCode process)]⟩]

def onProcessStateChanged (handler : Handler) (after : ProcessState) : Handler :=
  handler.sendEvent kCeidProcessStateChanged
    (statesReport handler.api.snapshot.controlMode after)

def onControlStateChanged (handler : Handler) (after : ControlMode) : Handler :=
  let handler :=
    if after ≠ .offline then
      { handler with gem := { handler.gem with preferredOnlineMode := after } }
    else
      handler
  handler.sendEvent kCeidControlStateChanged
    (statesReport after handler.api.snapshot.processState)

def onScanStarted (handler : Handler) (waferId : Text) (slot : Int) : Handler :=
  handler.sendEvent kCeidWaferScanStarted
    [⟨kRptidScanStarted,
      [.ascii waferId, .u1 (lowByte slot), .u1 (lowByte handler.gem.config.numLines)]⟩]

def resultReport (result : WaferResultReady) : List Report :=
  [⟨kRptidWaferResult,
    [.ascii result.waferId, .u1 (lowByte result.slot), .f4 (toSingle result.stressMpa),
      .f4 (toSingle result.stressUncMpa), .f4 (toSingle result.curvaturePerM),
      .f4 (toSingle result.fitRmsUm), .boolean [if result.outOfSpec then 1 else 0]]⟩]

def onResult (handler : Handler) (result : WaferResultReady) : Handler :=
  let handler :=
    { handler with gem :=
        { handler.gem with wafersProcessed := handler.gem.wafersProcessed + 1 } }
  let handler := handler.sendEvent kCeidWaferScanComplete (resultReport result)
  if result.outOfSpec then
    handler.sendEvent kCeidWaferOutOfSpec (resultReport result)
  else
    handler

def onRunAborted (handler : Handler) : Handler :=
  handler.sendEvent kCeidRunAborted
    (statesReport handler.api.snapshot.controlMode handler.api.snapshot.processState)

def onAlarm (handler : Handler) (set : Bool) (id : AlarmId) (text : Text) : Handler :=
  handler.sendAlarm ((if set then kAlcdSetBit else 0) ||| kAlarmCategory)
    (UInt32.ofNat id.toNat) text

/-! ## Host messages -/

def statusValue (handler : Handler) (now : TimePoint) (svid : UInt32) : Item :=
  let snap := handler.api.snapshot
  let stress (field : WaferResultReady → Double) : UInt32 :=
    match snap.lastResult with
    | some result => toSingle (field result)
    | none => 0
  if svid = kSvidControlState then .u1 (controlCode snap.controlMode)
  else if svid = kSvidProcessState then .u1 (processCode snap.processState)
  else if svid = kSvidCurrentWaferId then .ascii snap.waferId
  else if svid = kSvidCurrentSlot then .u1 1
  else if svid = kSvidScanProgressPercent then .f4 (toSingle snap.progressPercent)
  else if svid = kSvidLastStressMpa then .f4 (stress WaferResultReady.stressMpa)
  else if svid = kSvidLastCurvature then .f4 (stress WaferResultReady.curvaturePerM)
  else if svid = kSvidLastFitRmsUm then .f4 (stress WaferResultReady.fitRmsUm)
  else if svid = kSvidActiveAlarmCount then
    .u2 (UInt16.ofNat handler.api.controller.alarms.activeCount)
  else if svid = kSvidSoftwareRevision then .ascii handler.gem.config.identity.softrev
  else if svid = kSvidUptimeSeconds then
    .u4 (UInt32.ofNat ((now - handler.gem.started).tdiv 1000000000).toNat)
  else if svid = kSvidWafersProcessed then .u4 handler.gem.wafersProcessed
  else .list []

/-- The catalogue has accepted the body, so it parses. -/
def handleStatusRequest (handler : Handler) (now : TimePoint) (frame : Frame)
    (message : Message) : Handler :=
  match parseS1f3 message with
  | .error _ => handler
  | .ok svids =>
      let svids := if svids.isEmpty then statusVariables else svids
      handler.reply frame (makeS1f4 (svids.map (handler.statusValue now)))

def handleOfflineRequest (handler : Handler) (frame : Frame) : Handler :=
  let (_, handler) := handler.submit (.setControlMode .offline)
  handler.reply frame (makeS1f16 kOflackOk)

/-- Back to the online mode that the operator last used. -/
def handleOnlineRequest (handler : Handler) (frame : Frame) : Handler :=
  if !handler.gem.config.allowHostOnline then
    handler.reply frame (makeS1f18 kOnlackNotAllowed)
  else if handler.api.snapshot.controlMode ≠ .offline then
    handler.reply frame (makeS1f18 kOnlackAlreadyOnline)
  else
    let (result, handler) := handler.submit (.setControlMode handler.gem.preferredOnlineMode)
    handler.reply frame (makeS1f18 (if result.toBool then kOnlackAccepted else kOnlackNotAllowed))

/-! ## Remote commands -/

def kStart : Text := .ofString "START"
def kStop : Text := .ofString "STOP"
def kAbort : Text := .ofString "ABORT"
def kClearAlarm : Text := .ofString "CLEAR_ALARM"
def kWaferId : Text := .ofString "WAFER_ID"
def kCassetteId : Text := .ofString "CASSETTE_ID"
def kAlid : Text := .ofString "ALID"

/-- What the loop over the parameters has found so far. -/
structure ParamScan where
  acks : List ParamAck := []
  paramsOk : Bool := true
  waferId : Option Text := none

/-- Acknowledge a parameter that is refused. -/
def ParamScan.refuse (scan : ParamScan) (name : Text) (cpack : UInt8) : ParamScan :=
  { scan with acks := scan.acks ++ [⟨name, cpack⟩], paramsOk := false }

def scanParam (rcmd : Text) (scan : ParamScan) (param : CommandParam) : ParamScan :=
  if rcmd = kStart ∧ param.name = kWaferId then
    if scan.waferId.isSome then
      scan.refuse param.name kCpackIllegalValue
    else
      match param.value with
      | .array (.ascii id) =>
          if validWaferId id then
            { scan with acks := scan.acks ++ [⟨param.name, kCpackOk⟩], waferId := some id }
          else
            scan.refuse param.name kCpackIllegalValue
      | _ => scan.refuse param.name kCpackIllegalFormat
  else if rcmd = kStart ∧ param.name = kCassetteId then
    scan.refuse param.name kCpackIllegalValue
  else if rcmd = kClearAlarm ∧ param.name = kAlid then
    match asU32 param.value with
    | none => scan.refuse param.name kCpackIllegalFormat
    | some alid =>
        if knownAlid alid then
          { scan with acks := scan.acks ++ [⟨param.name, kCpackOk⟩] }
        else
          scan.refuse param.name kCpackIllegalValue
  else
    scan.refuse param.name kCpackUnknownName

/-- The command, if its name is known; `START` takes the wafer of the parameters. -/
def commandPayload (rcmd : Text) (waferId : Option Text) : CommandPayload :=
  if rcmd = kStart then .start (waferId.getD []) 1
  else if rcmd = kStop then .stop
  else if rcmd = kAbort then .abort
  else .clearAlarm

/-- HCACK, the CPACKs and the handler after the command. -/
def executeCommand (handler : Handler) (command : RemoteCommand) :
    UInt8 × List ParamAck × Handler :=
  let rcmd := command.rcmd
  if rcmd ≠ kStart ∧ rcmd ≠ kStop ∧ rcmd ≠ kAbort ∧ rcmd ≠ kClearAlarm then
    (kHcackUnknownCommand, [], handler)
  else if handler.api.snapshot.controlMode ≠ .onlineRemote then
    (kHcackCannotPerformNow, [], handler)
  else
    let scan := command.params.foldl (scanParam rcmd) {}
    if !scan.paramsOk ∨ (rcmd = kStart ∧ scan.waferId.isNone) then
      (kHcackInvalidParameter, scan.acks, handler)
    else
      match handler.submit (commandPayload rcmd scan.waferId) with
      | (.error _, handler) => (kHcackCannotPerformNow, scan.acks, handler)
      | (.ok _, handler) =>
          (if rcmd = kStart then kHcackAcceptedLater else kHcackDone, scan.acks, handler)

def handleRemoteCommand (handler : Handler) (frame : Frame) (message : Message) : Handler :=
  match parseS2f41 message with
  | .error _ => handler
  | .ok command =>
      let (hcack, acks, handler) := handler.executeCommand command
      handler.reply frame (makeS2f42 hcack acks)

/-! ## Deliveries -/

/-- S5F2 and S6F12 that match no open request are stray acknowledgements: ignored. -/
def handleMessage (handler : Handler) (now : TimePoint) (frame : Frame) (message : Message) :
    Handler :=
  if message.stream = 1 ∧ message.function = 1 then
    handler.reply frame (makeS1f2 handler.gem.config.identity)
  else if message.stream = 1 ∧ message.function = 13 then
    { handler with gem := { handler.gem with comm := .communicating } }.reply frame
      (makeS1f14 kCommackAccepted handler.gem.config.identity)
  else if message.stream = 1 ∧ message.function = 3 then
    handler.handleStatusRequest now frame message
  else if message.stream = 1 ∧ message.function = 15 then
    handler.handleOfflineRequest frame
  else if message.stream = 1 ∧ message.function = 17 then
    handler.handleOnlineRequest frame
  else if message.stream = 2 ∧ message.function = 41 then
    handler.handleRemoteCommand frame message
  else
    handler

def equipmentFactory : MessageFactory :=
  registerEquipmentCatalogue .empty

def onData (handler : Handler) (now : TimePoint) (delivery : Delivery) : Handler :=
  let frame := delivery.frame
  match delivery.replyTo with
  | some systemBytes =>
      { handler with gem :=
          { handler.gem with openRequests := handler.gem.openRequests.erase systemBytes } }
  | none =>
      if frame.header.sessionId ≠ handler.gem.config.deviceId then
        handler.sendS9 1 frame.header
      else if frame.body.length > handler.gem.config.maxBodyBytes then
        handler.sendS9 11 frame.header
      else
        match Hsms.toMessage frame with
        | .error _ => handler.sendS9 7 frame.header
        | .ok message =>
            match equipmentFactory.check message with
            | .ok => handler.handleMessage now frame message
            | .unknownStream => handler.sendS9 3 frame.header
            | .unknownFunction => handler.sendS9 5 frame.header
            | .illegalData => handler.sendS9 7 frame.header

/-- Losing the selected state ends communication and forgets the open requests. -/
def onSessionState (handler : Handler) (state : ConnectionState) : Handler :=
  if state ≠ .selected then
    { handler with gem := { handler.gem with comm := .notCommunicating, openRequests := ∅ } }
  else
    handler

/-- T3 expired for a request of ours: S9F9 carries the header that was sent. -/
def onTransactionTimeout (handler : Handler) (systemBytes : UInt32) : Handler :=
  match handler.gem.openRequests[systemBytes]? with
  | none => handler
  | some sent =>
      { handler with gem :=
          { handler.gem with
            openRequests := handler.gem.openRequests.erase systemBytes } }.sendS9 9 sent

end Handler

end Ssim.Gem
