import Ssim.Core.ControllerSteps

/-!
# Rejected inputs and the control rules

An input that is rejected leaves the controller as it was and asks nothing of the
scan driver.  So the commands that the control rules deny could as well not have
been given: the run without them gives the same answers, events and driver calls.
-/

namespace Ssim.Core

/-- A result that is flagged out of spec, which is published before the result is checked. -/
def Closure.flagged : Closure → Bool
  | .processingResult outOfSpec _ none _ _ => outOfSpec
  | _ => false

namespace Controller

/-! ## Rejected inputs -/

/--
A rejected input changes nothing and calls no driver.  It publishes nothing but the
ScanLinesComplete by which the end of the scan is reported; of a result that is
flagged out of spec this says nothing.
-/
theorem rejected_input_has_no_effect (controller : Controller) (closure : Closure)
    (reason : Error) (rejected : machine.answer controller closure = .error reason) :
    machine.next controller closure = controller ∧
      (∀ waferId, Effect.startScan waferId ∉ machine.emit controller closure) ∧
      Effect.requestAbort ∉ machine.emit controller closure ∧
      (∀ waferId, closure = .scanComplete waferId →
        machine.emit controller closure = [.publish (.scanLinesComplete waferId)]) ∧
      ((∀ waferId, closure ≠ .scanComplete waferId) → closure.flagged = false →
        machine.emit controller closure = []) := by
  have refused : controller.accepts closure = false := by
    rw [← runClosure_toBool, show (controller.runClosure closure).result = _ from rejected]
    rfl
  obtain ⟨same, effects⟩ := controller.runClosure_of_refused refused
  have emitted : machine.emit controller closure = controller.announced closure := effects
  rw [emitted]
  refine ⟨same, ?_, ?_, ?_, ?_⟩
  · intro waferId member
    unfold announced at member
    split at member <;> simp at member
  · intro member
    unfold announced at member
    split at member <;> simp at member
  · rintro waferId rfl
    rfl
  · intro other plain
    cases closure with
    | scanComplete waferId => exact absurd rfl (other waferId)
    | processingResult outOfSpec stressMpa raisedAlarmId alarmReason moreWafersPending =>
        cases raisedAlarmId with
        | some id => cases outOfSpec <;> rfl
        | none =>
            cases outOfSpec with
            | true => cases plain
            | false => rfl
    | _ => rfl

/-- A scan that ends after its abort: the closure is rejected, and yet an event is published. -/
theorem late_scan_complete_is_published :
    ∃ controller reason,
      controller = machine.after .fresh
        [.command ⟨.start [87] 1, .ui⟩, .command ⟨.abort, .ui⟩] ∧
      machine.answer controller (.scanComplete [87]) = .error reason ∧
      machine.emit controller (.scanComplete [87]) = [.publish (.scanLinesComplete [87])] :=
  ⟨_, ⟨kReasonIllegalTransition, "Stopping only accepts StageStopped"⟩, rfl, by decide, by decide⟩

/-- A second Start is rejected without a trace. -/
theorem rejected_input_has_no_effect_start :
    ∃ controller, controller = machine.after .fresh [.command ⟨.start [87] 1, .ui⟩] ∧
      machine.next controller (.command ⟨.start [88] 2, .cli⟩) = controller ∧
      machine.emit controller (.command ⟨.start [88] 2, .cli⟩) = [] := by
  have rejected : machine.answer (machine.after .fresh [.command ⟨.start [87] 1, .ui⟩])
      (.command ⟨.start [88] 2, .cli⟩) = .error ⟨kReasonIllegalTransition,
        "Scanning only accepts LinesComplete, Stop, Abort, Fault"⟩ := by decide
  obtain ⟨same, _, _, _, silent⟩ := rejected_input_has_no_effect _ _ _ rejected
  exact ⟨_, rfl, same, silent nofun rfl⟩

/-! ## The control rules -/

/-- The commands that the control mode denies to their source. -/
def denied (controller : Controller) : Closure → Bool
  | .command ⟨.start _ _, source⟩ =>
      if source = .secsGem then
        controller.controlMode ≠ .onlineRemote
      else
        controller.controlMode = .onlineRemote
  | .command ⟨.setControlMode mode, source⟩ =>
      source = .secsGem && controller.controlMode ≠ .offline && mode ≠ .offline
  | .command ⟨_, source⟩ => source = .secsGem && controller.controlMode ≠ .onlineRemote
  | _ => false

/-- A denied command is ignored. -/
theorem ignored_of_denied {controller : Controller} {closure : Closure}
    (denied : controller.denied closure = true) :
    machine.next controller closure = controller ∧ machine.emit controller closure = [] := by
  have refused : controller.accepts closure = false ∧ controller.announced closure = [] := by
    cases closure with
    | command command =>
        obtain ⟨payload, source⟩ := command
        refine ⟨?_, rfl⟩
        cases payload with
        | start waferId slot =>
            cases source <;> simp_all [Controller.denied, accepts, controlAllowsStart]
        | setControlMode mode => simp_all [Controller.denied, accepts, controlAllowsSetMode]
        | _ => simp_all [Controller.denied, accepts, controlAllowsHostCommand]
    | _ => cases denied
  obtain ⟨same, effects⟩ := controller.runClosure_of_refused refused.1
  exact ⟨same, effects.trans refused.2⟩

/--
The commands that the control rules deny can be deleted from a run: the answers to
all other inputs, the events and driver calls in their order, and the controller
at the end are the same.
-/
theorem denied_commands_do_not_interfere (controller : Controller) (closures : List Closure) :
    machine.answers controller (machine.kept denied controller closures) =
        machine.keptAnswers denied controller closures ∧
      machine.trace controller (machine.kept denied controller closures) =
        machine.trace controller closures ∧
      machine.after controller (machine.kept denied controller closures) =
        machine.after controller closures :=
  Library.Reactive.Machine.run_kept (fun _ _ => ignored_of_denied) controller closures

end Controller

end Ssim.Core
