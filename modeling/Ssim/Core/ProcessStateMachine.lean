import Ssim.Core.Result

/-!
# The process state machine

Transitions of the process state, with the guards that the controller evaluates
beforehand.  A rejected trigger leaves the machine as it was.
-/

namespace Ssim.Core

inductive ProcessState where
  | idle
  | scanning
  | processing
  | alarm
  | stopping
  deriving Repr, DecidableEq

inductive ProcessTrigger where
  | start
  | linesComplete
  | stop
  | abort
  | fault
  | resultReady
  | clearAlarm
  | stageStopped
  deriving Repr, DecidableEq

def kReasonIllegalTransition : Nat := 100
def kReasonControlStateDenied : Nat := 101
def kReasonActiveAlarm : Nat := 102
def kReasonInvalidWafer : Nat := 103
def kReasonAlarmNotCleared : Nat := 104

structure TransitionGuards where
  controlAllowsStart : Bool := true
  hasActiveAlarm : Bool := false
  waferValid : Bool := true
  moreWafersPending : Bool := false
  alarmCauseCleared : Bool := true

structure ProcessStateMachine where
  state : ProcessState
  stopAfterWafer : Bool
  deriving Repr, DecidableEq

namespace ProcessStateMachine

def initial : ProcessStateMachine := ⟨.idle, false⟩

/-- The machine in another state; the flag stays. -/
def enter (machine : ProcessStateMachine) (state : ProcessState) : ProcessStateMachine :=
  { machine with state := state }

def apply (machine : ProcessStateMachine) (trigger : ProcessTrigger) (guards : TransitionGuards) :
    Result ProcessStateMachine :=
  match machine.state with
  | .idle =>
      if trigger ≠ .start then
        .error ⟨kReasonIllegalTransition, "Idle only accepts Start"⟩
      else if !guards.controlAllowsStart then
        .error ⟨kReasonControlStateDenied, "Start denied by control state"⟩
      else if guards.hasActiveAlarm then
        .error ⟨kReasonActiveAlarm, "Start denied: an alarm is active"⟩
      else if !guards.waferValid then
        .error ⟨kReasonInvalidWafer, "Start denied: no valid wafer or cassette"⟩
      else
        .ok ⟨.scanning, false⟩
  | .scanning =>
      match trigger with
      | .linesComplete => .ok (machine.enter .processing)
      -- A same-state action: the run ends after this wafer.
      | .stop => .ok { machine with stopAfterWafer := true }
      | .abort => .ok (machine.enter .stopping)
      | .fault => .ok (machine.enter .alarm)
      | _ =>
          .error ⟨kReasonIllegalTransition,
            "Scanning only accepts LinesComplete, Stop, Abort, Fault"⟩
  | .processing =>
      match trigger with
      | .resultReady =>
          if guards.moreWafersPending && !machine.stopAfterWafer then
            .ok (machine.enter .scanning)
          else
            .ok ⟨.idle, false⟩
      | .fault => .ok (machine.enter .alarm)
      | .abort => .ok (machine.enter .stopping)
      | _ =>
          .error ⟨kReasonIllegalTransition, "Processing only accepts ResultReady, Fault, Abort"⟩
  | .alarm =>
      if trigger ≠ .clearAlarm then
        .error ⟨kReasonIllegalTransition, "Alarm only accepts ClearAlarm"⟩
      else if !guards.alarmCauseCleared then
        .error ⟨kReasonAlarmNotCleared, "ClearAlarm denied: cause still present"⟩
      else
        .ok (machine.enter .idle)
  | .stopping =>
      if trigger ≠ .stageStopped then
        .error ⟨kReasonIllegalTransition, "Stopping only accepts StageStopped"⟩
      else
        .ok ⟨.idle, false⟩

end ProcessStateMachine

end Ssim.Core
