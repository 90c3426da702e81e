import Ssim.Core.ProcessStateMachine

/-!
# The controller

What the controller thread does with one command or notification: a function of
the controller that returns its answer, the next controller and, in order, what
it publishes on the event bus and asks of the scan driver.  The closures of the
inbox run one after the other, so this is one atomic step of the machine.

A string is its bytes, and a double is its 64-bit pattern.
-/

namespace Ssim.Core

abbrev Text := List UInt8

/-- The bytes of a string of ASCII characters. -/
def Text.ofString (text : String) : Text :=
  text.toList.map fun char => UInt8.ofNat char.toNat

abbrev Double := UInt64

/-! ## Commands -/

inductive CommandSource where
  | ui
  | cli
  | secsGem
  deriving Repr, DecidableEq

inductive ControlMode where
  | offline
  | onlineLocal
  | onlineRemote
  deriving Repr, DecidableEq

inductive CommandPayload where
  | start (waferId : Text) (slot : Int)
  | stop
  | abort
  | clearAlarm
  | setControlMode (mode : ControlMode)
  deriving Repr, DecidableEq

def CommandPayload.isStart : CommandPayload → Bool
  | .start _ _ => true
  | _ => false

structure Command where
  payload : CommandPayload
  source : CommandSource
  deriving Repr, DecidableEq

/-! ## Alarms and events -/

inductive AlarmId where
  | sensorSpikeRateHigh
  | sensorDropout
  | fitQualityPoor
  | scanStall
  | processingTimeout
  | queueOverflow
  | stressImplausible
  deriving Repr, DecidableEq

namespace AlarmId

/-- The ALID. -/
def toNat : AlarmId → Nat
  | sensorSpikeRateHigh => 1001
  | sensorDropout => 1002
  | fitQualityPoor => 1003
  | scanStall => 1004
  | processingTimeout => 1005
  | queueOverflow => 1006
  | stressImplausible => 1007

def toText : AlarmId → Text
  | sensorSpikeRateHigh => .ofString "SensorSpikeRateHigh"
  | sensorDropout => .ofString "SensorDropout"
  | fitQualityPoor => .ofString "FitQualityPoor"
  | scanStall => .ofString "ScanStall"
  | processingTimeout => .ofString "ProcessingTimeout"
  | queueOverflow => .ofString "QueueOverflow"
  | stressImplausible => .ofString "StressImplausible"

end AlarmId

structure WaferResultReady where
  waferId : Text
  slot : Int
  stressMpa : Double
  stressUncMpa : Double
  curvaturePerM : Double
  fitRmsUm : Double
  outOfSpec : Bool
  deriving Repr, DecidableEq

/-- What is published on the event bus. -/
inductive Event where
  | scanStarted (waferId : Text) (slot : Int)
  | scanProgress (waferId : Text) (percent : Double)
  | scanLinesComplete (waferId : Text)
  | scanComplete (waferId : Text) (slot : Int) (outOfSpec : Bool)
  | waferResultReady (result : WaferResultReady)
  | waferOutOfSpec (waferId : Text) (stressMpa : Double)
  | runAborted (waferId : Text)
  | alarmSet (id : AlarmId) (reason : Text)
  | alarmCleared (id : AlarmId)
  | stateChanged (before after : ProcessState)
  | controlStateChanged (before after : ControlMode)
  deriving Repr, DecidableEq

/-- What the controller does to the outside: publish an event or call the scan driver. -/
inductive Effect where
  | publish (event : Event)
  | startScan (waferId : Text)
  | requestAbort
  deriving Repr, DecidableEq

/-- The active alarms and their reasons, in the order they are cleared in. -/
abbrev AlarmManager := List (AlarmId × Text)

namespace AlarmManager

def isActive (alarms : AlarmManager) (id : AlarmId) : Bool :=
  alarms.any fun alarm => alarm.1 = id

def activeCount (alarms : AlarmManager) : Nat :=
  alarms.length

/-- Only an alarm that is not active is recorded and announced. -/
def set (alarms : AlarmManager) (id : AlarmId) (reason : Text) : AlarmManager × List Effect :=
  if alarms.isActive id then
    (alarms, [])
  else
    (alarms ++ [(id, reason)], [.publish (.alarmSet id reason)])

def clearAll (alarms : AlarmManager) : AlarmManager × List Effect :=
  ([], alarms.map fun alarm => .publish (.alarmCleared alarm.1))

end AlarmManager

/-! ## The controller -/

/-- An online-remote machine is started by the host, any other by the operator. -/
def controlAllowsStart (mode : ControlMode) (source : CommandSource) : Bool :=
  if mode = .onlineRemote then source = .secsGem else source ≠ .secsGem

def controlAllowsHostCommand (mode : ControlMode) (source : CommandSource) : Bool :=
  source ≠ .secsGem || mode = .onlineRemote

/-- The host may go offline, or leave offline; the operator may set any mode. -/
def controlAllowsSetMode (requested current : ControlMode) (source : CommandSource) : Bool :=
  if source ≠ .secsGem then true else requested = .offline || current = .offline

structure Controller where
  fsm : ProcessStateMachine
  /-- The published copy of the process state. -/
  state : ProcessState
  controlMode : ControlMode
  hasActiveAlarm : Bool
  currentWaferId : Text
  alarms : AlarmManager
  deriving Repr, DecidableEq

namespace Controller

def fresh : Controller where
  fsm := .initial
  state := .idle
  controlMode := .onlineLocal
  hasActiveAlarm := false
  currentWaferId := []
  alarms := []

/-- The answer of the controller thread, the controller after it and its effects in order. -/
structure Outcome where
  result : Result ProcessState
  next : Controller
  effects : List Effect

/-- Apply a trigger; a change of the state is published. -/
def transition (controller : Controller) (trigger : ProcessTrigger) (guards : TransitionGuards) :
    Outcome :=
  match controller.fsm.apply trigger guards with
  | .error reason => ⟨.error reason, controller, []⟩
  | .ok fsm =>
      if fsm.state ≠ controller.fsm.state then
        ⟨.ok fsm.state, { controller with fsm := fsm, state := fsm.state },
          [.publish (.stateChanged controller.fsm.state fsm.state)]⟩
      else
        ⟨.ok fsm.state, { controller with fsm := fsm }, []⟩

/-- What follows a transition that was not rejected. -/
def Outcome.onSuccess (outcome : Outcome) (action : Controller → Controller × List Effect) :
    Outcome :=
  match outcome.result with
  | .error _ => outcome
  | .ok _ =>
      let (next, effects) := action outcome.next
      { outcome with next := next, effects := outcome.effects ++ effects }

def hostDenied (controller : Controller) : Outcome :=
  ⟨.error ⟨kReasonControlStateDenied, "host commands need Online-Remote"⟩, controller, []⟩

/-- Note that an alarm is active, and record it. -/
def raiseAlarm (id : AlarmId) (reason : Text) (controller : Controller) :
    Controller × List Effect :=
  let (alarms, effects) := controller.alarms.set id reason
  ({ controller with hasActiveAlarm := true, alarms := alarms }, effects)

def handleCommand (controller : Controller) (command : Command) : Outcome :=
  match command.payload with
  | .start waferId slot =>
      let guards : TransitionGuards :=
        { controlAllowsStart := controlAllowsStart controller.controlMode command.source
          hasActiveAlarm := controller.hasActiveAlarm
          waferValid := !waferId.isEmpty }
      (controller.transition .start guards).onSuccess fun controller =>
        ({ controller with currentWaferId := waferId },
          [.publish (.scanStarted waferId slot), .startScan waferId])
  | .stop =>
      if !controlAllowsHostCommand controller.controlMode command.source then
        controller.hostDenied
      else
        controller.transition .stop {}
  | .abort =>
      if !controlAllowsHostCommand controller.controlMode command.source then
        controller.hostDenied
      else
        (controller.transition .abort {}).onSuccess fun controller =>
          (controller, [.requestAbort])
  | .clearAlarm =>
      if !controlAllowsHostCommand controller.controlMode command.source then
        controller.hostDenied
      else
        (controller.transition .clearAlarm { alarmCauseCleared := true }).onSuccess
          fun controller =>
            let (alarms, effects) := controller.alarms.clearAll
            ({ controller with hasActiveAlarm := false, alarms := alarms }, effects)
  | .setControlMode mode =>
      if !controlAllowsSetMode mode controller.controlMode command.source then
        ⟨.error ⟨kReasonControlStateDenied, "SetControlMode denied for this source"⟩, controller,
          []⟩
      else
        ⟨.ok controller.state, { controller with controlMode := mode },
          [.publish (.controlStateChanged controller.controlMode mode)]⟩

def notifyScanComplete (controller : Controller) (waferId : Text) : Outcome :=
  let outcome := controller.transition .linesComplete {}
  { outcome with effects := .publish (.scanLinesComplete waferId) :: outcome.effects }

/-- A raised alarm takes precedence: no number is reported then. -/
def notifyProcessingResult (controller : Controller) (outOfSpec : Bool) (stressMpa : Double)
    (raisedAlarmId : Option AlarmId) (alarmReason : Text) (moreWafersPending : Bool) : Outcome :=
  match raisedAlarmId with
  | some id => (controller.transition .fault {}).onSuccess (raiseAlarm id alarmReason)
  | none =>
      let waferId := controller.currentWaferId
      let flagged : List Effect :=
        if outOfSpec then [.publish (.waferOutOfSpec waferId stressMpa)] else []
      let outcome :=
        (controller.transition .resultReady { moreWafersPending := moreWafersPending }).onSuccess
          fun controller => (controller, [.publish (.scanComplete waferId 0 outOfSpec)])
      { outcome with effects := flagged ++ outcome.effects }

def notifyFault (controller : Controller) (id : AlarmId) (reason : Text) : Outcome :=
  (controller.transition .fault {}).onSuccess (raiseAlarm id reason)

def notifyStageStopped (controller : Controller) : Outcome :=
  (controller.transition .stageStopped {}).onSuccess fun controller =>
    (controller, [.publish (.runAborted controller.currentWaferId)])

end Controller

/-! ## Closures of the inbox -/

/-- What another thread hands to the controller thread. -/
inductive Closure where
  | command (command : Command)
  | scanComplete (waferId : Text)
  | processingResult (outOfSpec : Bool) (stressMpa : Double) (raisedAlarmId : Option AlarmId)
      (alarmReason : Text) (moreWafersPending : Bool)
  | fault (id : AlarmId) (reason : Text)
  | stageStopped
  deriving Repr, DecidableEq

namespace Controller

def runClosure (controller : Controller) : Closure → Outcome
  | .command command => controller.handleCommand command
  | .scanComplete waferId => controller.notifyScanComplete waferId
  | .processingResult outOfSpec stressMpa raisedAlarmId alarmReason moreWafersPending =>
      controller.notifyProcessingResult outOfSpec stressMpa raisedAlarmId alarmReason
        moreWafersPending
  | .fault id reason => controller.notifyFault id reason
  | .stageStopped => controller.notifyStageStopped

end Controller

end Ssim.Core
