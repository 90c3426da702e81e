import Ssim.Core.Controller
import Ssim.Library.Reactive

/-!
# Steps and runs of the controller

Everything that one closure can do to the controller, in one relation: it is
rejected, or it is one of the transitions of the process state machine with the
events and the driver calls that belong to it.  What holds along every run of
closures follows from the cases of this relation.
-/

namespace Ssim.Core

open Library.Reactive (Machine)

/-- The alarm that a closure raises. -/
def Closure.raises : Closure → Option (AlarmId × Text)
  | .fault id reason => some (id, reason)
  | .processingResult _ _ (some id) reason _ => some (id, reason)
  | _ => none

namespace Controller

/-- The published copy is the state of the machine. -/
def StateShown (controller : Controller) : Prop :=
  controller.state = controller.fsm.state

/-- Nothing but events. -/
def Publishes (effects : List Effect) : Prop :=
  ∀ effect ∈ effects, ∃ event, effect = .publish event

/-- The closures that neither the control rules nor the process state machine reject. -/
def accepts (controller : Controller) : Closure → Bool
  | .command ⟨.start waferId _, source⟩ =>
      controller.fsm.state = .idle && controlAllowsStart controller.controlMode source &&
        !controller.hasActiveAlarm && !waferId.isEmpty
  | .command ⟨.stop, source⟩ =>
      controlAllowsHostCommand controller.controlMode source && controller.fsm.state = .scanning
  | .command ⟨.abort, source⟩ =>
      controlAllowsHostCommand controller.controlMode source &&
        (controller.fsm.state = .scanning || controller.fsm.state = .processing)
  | .command ⟨.clearAlarm, source⟩ =>
      controlAllowsHostCommand controller.controlMode source && controller.fsm.state = .alarm
  | .command ⟨.setControlMode mode, source⟩ =>
      controlAllowsSetMode mode controller.controlMode source
  | .scanComplete _ => controller.fsm.state = .scanning
  | .processingResult _ _ none _ _ => controller.fsm.state = .processing
  | .processingResult _ _ (some _) _ _ | .fault _ _ =>
      controller.fsm.state = .scanning || controller.fsm.state = .processing
  | .stageStopped => controller.fsm.state = .stopping

/-- What a closure publishes before it is checked. -/
def announced (controller : Controller) : Closure → List Effect
  | .scanComplete waferId => [.publish (.scanLinesComplete waferId)]
  | .processingResult true stressMpa none _ _ =>
      [.publish (.waferOutOfSpec controller.currentWaferId stressMpa)]
  | _ => []

/-- The controller after a transition of the process state machine. -/
def moved (controller : Controller) (fsm : ProcessStateMachine) : Controller :=
  { controller with fsm := fsm, state := fsm.state }

/-- The change of state, as it is published. -/
def change (controller : Controller) (after : ProcessState) : Effect :=
  .publish (.stateChanged controller.fsm.state after)

/-- A scan or its analysis is going on. -/
def Busy (controller : Controller) : Prop :=
  controller.fsm.state = .scanning ∨ controller.fsm.state = .processing

theorem Busy.ne {controller : Controller} {state : ProcessState} (busy : controller.Busy)
    (notScanning : state ≠ .scanning) (notProcessing : state ≠ .processing) :
    state ≠ controller.fsm.state := by
  rintro rfl
  rcases busy with scanning | processing
  · exact notScanning scanning
  · exact notProcessing processing

inductive Does (controller : Controller) : Closure → Outcome → Prop where
  | rejected (closure : Closure) (reason : Error) (refused : controller.accepts closure = false) :
      Does controller closure ⟨.error reason, controller, controller.announced closure⟩
  | started (waferId : Text) (slot : Int) (source : CommandSource)
      (accepted : controller.accepts (.command ⟨.start waferId slot, source⟩) = true)
      (idle : controller.fsm.state = .idle) (clear : controller.hasActiveAlarm = false) :
      Does controller (.command ⟨.start waferId slot, source⟩)
        ⟨.ok .scanning, { controller.moved ⟨.scanning, false⟩ with currentWaferId := waferId },
          [controller.change .scanning, .publish (.scanStarted waferId slot),
            .startScan waferId]⟩
  | stopNoted (source : CommandSource)
      (accepted : controller.accepts (.command ⟨.stop, source⟩) = true)
      (scanning : controller.fsm.state = .scanning) :
      Does controller (.command ⟨.stop, source⟩)
        ⟨.ok .scanning,
          { controller with fsm := { controller.fsm with stopAfterWafer := true } }, []⟩
  | aborted (source : CommandSource)
      (accepted : controller.accepts (.command ⟨.abort, source⟩) = true)
      (busy : controller.Busy) :
      Does controller (.command ⟨.abort, source⟩)
        ⟨.ok .stopping, controller.moved (controller.fsm.enter .stopping),
          [controller.change .stopping, .requestAbort]⟩
  | cleared (source : CommandSource)
      (accepted : controller.accepts (.command ⟨.clearAlarm, source⟩) = true)
      (alarm : controller.fsm.state = .alarm) :
      Does controller (.command ⟨.clearAlarm, source⟩)
        ⟨.ok .idle,
          { controller.moved (controller.fsm.enter .idle) with
            hasActiveAlarm := false, alarms := [] },
          controller.change .idle ::
            controller.alarms.map fun alarm => .publish (.alarmCleared alarm.1)⟩
  | modeSet (mode : ControlMode) (source : CommandSource)
      (accepted : controller.accepts (.command ⟨.setControlMode mode, source⟩) = true) :
      Does controller (.command ⟨.setControlMode mode, source⟩)
        ⟨.ok controller.state, { controller with controlMode := mode },
          [.publish (.controlStateChanged controller.controlMode mode)]⟩
  | linesDone (waferId : Text) (accepted : controller.accepts (.scanComplete waferId) = true)
      (scanning : controller.fsm.state = .scanning) :
      Does controller (.scanComplete waferId)
        ⟨.ok .processing, controller.moved (controller.fsm.enter .processing),
          [.publish (.scanLinesComplete waferId), controller.change .processing]⟩
  | faulted (closure : Closure) (id : AlarmId) (reason : Text)
      (raises : closure.raises = some (id, reason))
      (accepted : controller.accepts closure = true) (busy : controller.Busy) :
      Does controller closure
        ⟨.ok .alarm, (raiseAlarm id reason (controller.moved (controller.fsm.enter .alarm))).1,
          controller.change .alarm :: (controller.alarms.set id reason).2⟩
  | resulted (outOfSpec : Bool) (stressMpa : Double) (alarmReason : Text)
      (moreWafersPending : Bool) (fsm : ProcessStateMachine)
      (accepted : controller.accepts
        (.processingResult outOfSpec stressMpa none alarmReason moreWafersPending) = true)
      (processing : controller.fsm.state = .processing)
      (after : fsm = if moreWafersPending && !controller.fsm.stopAfterWafer then
        controller.fsm.enter .scanning else ⟨.idle, false⟩) :
      Does controller (.processingResult outOfSpec stressMpa none alarmReason moreWafersPending)
        ⟨.ok fsm.state, controller.moved fsm,
          controller.announced
              (.processingResult outOfSpec stressMpa none alarmReason moreWafersPending) ++
            [controller.change fsm.state,
              .publish (.scanComplete controller.currentWaferId 0 outOfSpec)]⟩
  | stageStopped (accepted : controller.accepts .stageStopped = true)
      (stopping : controller.fsm.state = .stopping) :
      Does controller .stageStopped
        ⟨.ok .idle, controller.moved ⟨.idle, false⟩,
          [controller.change .idle, .publish (.runAborted controller.currentWaferId)]⟩

theorem publishes_announced (controller : Controller) (closure : Closure) :
    Publishes (controller.announced closure) := by
  unfold announced
  split <;> simp [Publishes]

theorem publishes_set (alarms : AlarmManager) (id : AlarmId) (reason : Text) :
    Publishes (alarms.set id reason).2 := by
  unfold AlarmManager.set
  split <;> simp [Publishes]

/-! ## One closure -/

/-- A trigger that the state does not take. -/
theorem apply_eq_error {machine : ProcessStateMachine} (trigger : ProcessTrigger)
    (guards : TransitionGuards)
    (illegal : match trigger with
      | .start => machine.state ≠ .idle
      | .linesComplete | .stop => machine.state ≠ .scanning
      | .abort | .fault => machine.state ≠ .scanning ∧ machine.state ≠ .processing
      | .resultReady => machine.state ≠ .processing
      | .clearAlarm => machine.state ≠ .alarm
      | .stageStopped => machine.state ≠ .stopping) :
    ∃ reason, machine.apply trigger guards = .error reason := by
  unfold ProcessStateMachine.apply
  cases state : machine.state <;> cases trigger <;> simp_all

/-- Start has guards besides. -/
theorem apply_start_eq_error (machine : ProcessStateMachine) (allowed active valid : Bool)
    (refused : (machine.state = .idle && allowed && !active && valid) = false) :
    ∃ reason, machine.apply .start
      { controlAllowsStart := allowed, hasActiveAlarm := active, waferValid := valid } =
        .error reason := by
  by_cases idle : machine.state = .idle
  · unfold ProcessStateMachine.apply
    rw [idle]
    dsimp only
    split
    · exact ⟨_, rfl⟩
    · split
      · exact ⟨_, rfl⟩
      · split
        · exact ⟨_, rfl⟩
        · split
          · exact ⟨_, rfl⟩
          · simp_all
  · exact apply_eq_error .start _ idle

/-- Abort and Fault are taken while a scan or its analysis is going on. -/
theorem apply_of_busy {machine : ProcessStateMachine} (guards : TransitionGuards)
    (busy : machine.state = .scanning ∨ machine.state = .processing) :
    machine.apply .abort guards = .ok (machine.enter .stopping) ∧
      machine.apply .fault guards = .ok (machine.enter .alarm) := by
  unfold ProcessStateMachine.apply
  rcases busy with state | state
  · rw [state]
    exact ⟨rfl, rfl⟩
  · rw [state]
    exact ⟨rfl, rfl⟩

theorem transition_eq_error {controller : Controller} {trigger : ProcessTrigger}
    {guards : TransitionGuards}
    (rejected : ∃ reason, controller.fsm.apply trigger guards = .error reason) :
    ∃ reason, controller.transition trigger guards = ⟨.error reason, controller, []⟩ := by
  obtain ⟨reason, rejected⟩ := rejected
  refine ⟨reason, ?_⟩
  unfold transition
  rw [rejected]

theorem transition_eq_ok {controller : Controller} {trigger : ProcessTrigger}
    {guards : TransitionGuards} {fsm : ProcessStateMachine}
    (accepted : controller.fsm.apply trigger guards = .ok fsm)
    (other : fsm.state ≠ controller.fsm.state) :
    controller.transition trigger guards =
      ⟨.ok fsm.state, controller.moved fsm, [controller.change fsm.state]⟩ := by
  unfold transition
  rw [accepted]
  exact if_pos other

theorem Outcome.onSuccess_result (outcome : Outcome)
    (action : Controller → Controller × List Effect) :
    (outcome.onSuccess action).result = outcome.result := by
  unfold Outcome.onSuccess
  split <;> rfl

variable (controller : Controller)

theorem does_start (waferId : Text) (slot : Int) (source : CommandSource) :
    controller.Does (.command ⟨.start waferId slot, source⟩)
      (controller.handleCommand ⟨.start waferId slot, source⟩) := by
  unfold handleCommand
  dsimp only
  cases accepted : controller.accepts (.command ⟨.start waferId slot, source⟩) with
  | true =>
      obtain ⟨⟨⟨idle, allowed⟩, clear⟩, named⟩ : ((controller.fsm.state = .idle ∧
          controlAllowsStart controller.controlMode source = true) ∧
            controller.hasActiveAlarm = false) ∧ waferId.isEmpty = false := by
        simpa [accepts] using accepted
      have applied : controller.fsm.apply .start
          { controlAllowsStart := controlAllowsStart controller.controlMode source
            hasActiveAlarm := controller.hasActiveAlarm
            waferValid := !waferId.isEmpty } = .ok ⟨.scanning, false⟩ := by
        unfold ProcessStateMachine.apply
        simp [idle, allowed, clear, named]
      rw [transition_eq_ok applied (by simp [idle])]
      exact .started waferId slot source accepted idle clear
  | false =>
      obtain ⟨reason, rejected⟩ := transition_eq_error
        (apply_start_eq_error controller.fsm _ controller.hasActiveAlarm (!waferId.isEmpty)
          accepted)
      rw [rejected]
      exact .rejected _ reason accepted

theorem does_stop (source : CommandSource) :
    controller.Does (.command ⟨.stop, source⟩) (controller.handleCommand ⟨.stop, source⟩) := by
  unfold handleCommand
  dsimp only
  cases allowed : controlAllowsHostCommand controller.controlMode source with
  | false => exact .rejected _ _ (by simp [accepts, allowed])
  | true =>
      by_cases scanning : controller.fsm.state = .scanning
      · have applied : controller.fsm.apply .stop {} =
            .ok { controller.fsm with stopAfterWafer := true } := by
          unfold ProcessStateMachine.apply
          simp [scanning]
        have noted : controller.transition .stop {} =
            ⟨.ok .scanning,
              { controller with fsm := { controller.fsm with stopAfterWafer := true } }, []⟩ := by
          unfold transition
          rw [applied]
          simp [scanning]
        rw [noted]
        exact .stopNoted source (by simp [accepts, allowed, scanning]) scanning
      · obtain ⟨reason, rejected⟩ := transition_eq_error (apply_eq_error .stop {} scanning)
        rw [rejected]
        exact .rejected _ reason (by simp [accepts, scanning])

theorem does_abort (source : CommandSource) :
    controller.Does (.command ⟨.abort, source⟩) (controller.handleCommand ⟨.abort, source⟩) := by
  unfold handleCommand
  dsimp only
  cases allowed : controlAllowsHostCommand controller.controlMode source with
  | false => exact .rejected _ _ (by simp [accepts, allowed])
  | true =>
      by_cases busy : controller.Busy
      · rw [transition_eq_ok (apply_of_busy {} busy).1 (busy.ne nofun nofun)]
        exact .aborted source (by simpa [accepts, allowed, Busy] using busy) busy
      · obtain ⟨reason, rejected⟩ :=
          transition_eq_error (apply_eq_error .abort {} (not_or.mp busy))
        rw [rejected]
        exact .rejected _ reason (by simp [accepts, not_or.mp busy])

theorem does_clearAlarm (source : CommandSource) :
    controller.Does (.command ⟨.clearAlarm, source⟩)
      (controller.handleCommand ⟨.clearAlarm, source⟩) := by
  unfold handleCommand
  dsimp only
  cases allowed : controlAllowsHostCommand controller.controlMode source with
  | false => exact .rejected _ _ (by simp [accepts, allowed])
  | true =>
      by_cases alarm : controller.fsm.state = .alarm
      · have applied : controller.fsm.apply .clearAlarm { alarmCauseCleared := true } =
            .ok (controller.fsm.enter .idle) := by
          unfold ProcessStateMachine.apply
          simp [alarm]
        rw [transition_eq_ok applied (by simp [alarm, ProcessStateMachine.enter])]
        exact .cleared source (by simp [accepts, allowed, alarm]) alarm
      · obtain ⟨reason, rejected⟩ :=
          transition_eq_error (apply_eq_error .clearAlarm { alarmCauseCleared := true } alarm)
        rw [rejected]
        exact .rejected _ reason (by simp [accepts, alarm])

theorem does_setControlMode (mode : ControlMode) (source : CommandSource) :
    controller.Does (.command ⟨.setControlMode mode, source⟩)
      (controller.handleCommand ⟨.setControlMode mode, source⟩) := by
  unfold handleCommand
  dsimp only
  cases allowed : controlAllowsSetMode mode controller.controlMode source with
  | false => exact .rejected _ _ allowed
  | true => exact .modeSet mode source allowed

theorem does_scanComplete (waferId : Text) :
    controller.Does (.scanComplete waferId) (controller.notifyScanComplete waferId) := by
  unfold notifyScanComplete
  by_cases scanning : controller.fsm.state = .scanning
  · have applied : controller.fsm.apply .linesComplete {} =
        .ok (controller.fsm.enter .processing) := by
      unfold ProcessStateMachine.apply
      simp [scanning]
    rw [transition_eq_ok applied (by simp [scanning, ProcessStateMachine.enter])]
    exact .linesDone waferId (by simp [accepts, scanning]) scanning
  · obtain ⟨reason, rejected⟩ :=
      transition_eq_error (apply_eq_error .linesComplete {} scanning)
    rw [rejected]
    exact .rejected _ reason (by simp [accepts, scanning])

/-- A closure that raises an alarm. -/
theorem does_fault {closure : Closure} {id : AlarmId} {reason : Text}
    (raises : closure.raises = some (id, reason)) (silent : controller.announced closure = [])
    (accepted : controller.accepts closure = true ↔ controller.Busy) :
    controller.Does closure
      ((controller.transition .fault {}).onSuccess (raiseAlarm id reason)) := by
  by_cases busy : controller.Busy
  · rw [transition_eq_ok (apply_of_busy {} busy).2 (busy.ne nofun nofun)]
    exact .faulted closure id reason raises (accepted.mpr busy) busy
  · obtain ⟨refusal, rejected⟩ := transition_eq_error (apply_eq_error .fault {} (not_or.mp busy))
    rw [rejected]
    have refused := Does.rejected closure refusal
      (Bool.eq_false_iff.mpr fun granted => busy (accepted.mp granted))
    rwa [silent] at refused

theorem does_result (outOfSpec : Bool) (stressMpa : Double) (alarmReason : Text)
    (moreWafersPending : Bool) :
    controller.Does (.processingResult outOfSpec stressMpa none alarmReason moreWafersPending)
      (controller.notifyProcessingResult outOfSpec stressMpa none alarmReason
        moreWafersPending) := by
  have announced : controller.announced
      (.processingResult outOfSpec stressMpa none alarmReason moreWafersPending) =
        if outOfSpec then [.publish (.waferOutOfSpec controller.currentWaferId stressMpa)]
        else [] := by
    cases outOfSpec <;> rfl
  unfold notifyProcessingResult
  dsimp only
  rw [← announced]
  by_cases processing : controller.fsm.state = .processing
  · obtain ⟨fsm, after⟩ : ∃ fsm, fsm =
        if moreWafersPending && !controller.fsm.stopAfterWafer then
          controller.fsm.enter .scanning
        else
          ⟨.idle, false⟩ := ⟨_, rfl⟩
    have applied : controller.fsm.apply .resultReady
        { moreWafersPending := moreWafersPending } = .ok fsm := by
      unfold ProcessStateMachine.apply
      rw [processing, after]
      dsimp only
      split <;> rfl
    have other : fsm.state ≠ controller.fsm.state := by
      rw [processing, after]
      split <;> simp [ProcessStateMachine.enter]
    rw [transition_eq_ok applied other]
    exact .resulted outOfSpec stressMpa alarmReason moreWafersPending fsm
      (by simp [accepts, processing]) processing after
  · obtain ⟨reason, rejected⟩ := transition_eq_error
      (apply_eq_error .resultReady { moreWafersPending := moreWafersPending } processing)
    rw [rejected]
    have refused := Does.rejected
      (.processingResult outOfSpec stressMpa none alarmReason moreWafersPending) reason
      (show controller.accepts _ = false by simp [accepts, processing])
    rwa [← List.append_nil (controller.announced _)] at refused

theorem does_stageStopped : controller.Does .stageStopped controller.notifyStageStopped := by
  unfold notifyStageStopped
  by_cases stopping : controller.fsm.state = .stopping
  · have applied : controller.fsm.apply .stageStopped {} = .ok ⟨.idle, false⟩ := by
      unfold ProcessStateMachine.apply
      simp [stopping]
    rw [transition_eq_ok applied (by simp [stopping])]
    exact .stageStopped (by simp [accepts, stopping]) stopping
  · obtain ⟨reason, rejected⟩ :=
      transition_eq_error (apply_eq_error .stageStopped {} stopping)
    rw [rejected]
    exact .rejected _ reason (by simp [accepts, stopping])

/-- What the controller thread does with a closure. -/
theorem does_runClosure (closure : Closure) :
    controller.Does closure (controller.runClosure closure) := by
  cases closure with
  | command command =>
      obtain ⟨payload, source⟩ := command
      cases payload with
      | start waferId slot => exact controller.does_start waferId slot source
      | stop => exact controller.does_stop source
      | abort => exact controller.does_abort source
      | clearAlarm => exact controller.does_clearAlarm source
      | setControlMode mode => exact controller.does_setControlMode mode source
  | scanComplete waferId => exact controller.does_scanComplete waferId
  | processingResult outOfSpec stressMpa raisedAlarmId alarmReason moreWafersPending =>
      cases raisedAlarmId with
      | none => exact controller.does_result outOfSpec stressMpa alarmReason moreWafersPending
      | some id =>
          refine controller.does_fault rfl ?_ (by simp [accepts, Busy])
          cases outOfSpec <;> rfl
  | fault id reason => exact controller.does_fault rfl rfl (by simp [accepts, Busy])
  | stageStopped => exact controller.does_stageStopped

/-- A closure is answered with an error exactly if it is not accepted. -/
theorem runClosure_toBool (closure : Closure) :
    (controller.runClosure closure).result.toBool = controller.accepts closure := by
  have does := controller.does_runClosure closure
  generalize controller.runClosure closure = outcome at does
  cases does with
  | rejected closure reason refused => exact refused.symm
  | faulted closure id reason raises accepted => exact accepted.symm
  | started waferId slot source accepted => exact accepted.symm
  | modeSet mode source accepted => exact accepted.symm
  | linesDone waferId accepted => exact accepted.symm
  | resulted _ _ _ _ _ accepted => exact accepted.symm
  | stopNoted source accepted => exact accepted.symm
  | aborted source accepted => exact accepted.symm
  | cleared source accepted => exact accepted.symm
  | stageStopped accepted => exact accepted.symm

/-- Then it changes nothing. -/
theorem runClosure_of_refused {closure : Closure}
    (refused : controller.accepts closure = false) :
    (controller.runClosure closure).next = controller ∧
      (controller.runClosure closure).effects = controller.announced closure := by
  have answered := controller.runClosure_toBool closure
  have does := controller.does_runClosure closure
  generalize controller.runClosure closure = outcome at does answered
  rw [refused] at answered
  cases does with
  | rejected closure reason => exact ⟨rfl, rfl⟩
  | _ => cases answered

/-! ## Runs -/

/-- The controller thread: it runs the closures of the inbox one after the other. -/
def machine : Machine Controller Closure (Result ProcessState) Effect where
  answer controller closure := (controller.runClosure closure).result
  next controller closure := (controller.runClosure closure).next
  emit controller closure := (controller.runClosure closure).effects

end Controller

end Ssim.Core
