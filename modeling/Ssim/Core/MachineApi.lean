import Ssim.Core.Controller

/-!
# The machine API

The facade in front of the controller: commands tagged with their source, and a
snapshot that subscriptions to the event bus keep current.
-/

namespace Ssim.Core

structure MachineApi where
  controller : Controller
  progressPercent : Double
  lastResult : Option WaferResultReady
  deriving DecidableEq

structure MachineSnapshot where
  processState : ProcessState
  controlMode : ControlMode
  alarmActive : Bool
  progressPercent : Double
  waferId : Text
  lastResult : Option WaferResultReady

namespace MachineApi

def fresh : MachineApi := ⟨.fresh, 0, none⟩

/-- The subscriptions of the snapshot. -/
def observe (api : MachineApi) : Event → MachineApi
  | .scanProgress _ percent => { api with progressPercent := percent }
  | .scanStarted _ _ => { api with progressPercent := 0 }
  | .waferResultReady result => { api with lastResult := some result }
  | _ => api

/-- The events among the effects, in the order they are published. -/
def published (effects : List Effect) : List Event :=
  effects.filterMap fun
    | .publish event => some event
    | _ => none

/-- Run a command on the controller thread: its answer, the machine, the published events. -/
def submit (api : MachineApi) (payload : CommandPayload) (source : CommandSource) :
    Result ProcessState × MachineApi × List Event :=
  let outcome := api.controller.handleCommand ⟨payload, source⟩
  let events := published outcome.effects
  (outcome.result, events.foldl observe { api with controller := outcome.next }, events)

def snapshot (api : MachineApi) : MachineSnapshot where
  processState := api.controller.state
  controlMode := api.controller.controlMode
  alarmActive := api.controller.hasActiveAlarm
  progressPercent := api.progressPercent
  waferId := api.controller.currentWaferId
  lastResult := api.lastResult

end MachineApi

end Ssim.Core
