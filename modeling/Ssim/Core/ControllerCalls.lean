import Ssim.Core.ControllerSteps

/-!
# What the closures of the controller do

One lemma for each closure: the state it leads to, what it publishes and what it
asks of the scan driver; and that only SetControlMode touches the control mode.
-/

namespace Ssim.Core

namespace Controller

/-! ## The process state -/

/-- The outcome leads to a state and does no more than publish. -/
structure Outcome.Moves (outcome : Outcome) (after : ProcessState) : Prop where
  state : outcome.next.fsm.state = after
  shown : outcome.next.StateShown
  publishes : Publishes outcome.effects

/-- A refused closure leaves the state. -/
theorem moves_of_refused {controller : Controller} (shown : controller.StateShown)
    (closure : Closure) (reason : Error) :
    Outcome.Moves ⟨.error reason, controller, controller.announced closure⟩
      controller.fsm.state :=
  ⟨rfl, shown, controller.publishes_announced closure⟩

theorem notifyScanComplete_moves {controller : Controller} (waferId : Text)
    (shown : controller.StateShown) :
    (controller.notifyScanComplete waferId).Moves
      (if controller.fsm.state = .scanning then .processing else controller.fsm.state) := by
  have does := controller.does_scanComplete waferId
  generalize controller.notifyScanComplete waferId = outcome at does ⊢
  cases does with
  | rejected _ reason refused =>
      rw [if_neg (of_decide_eq_false refused)]
      exact moves_of_refused shown _ reason
  | linesDone _ accepted scanning =>
      rw [if_pos scanning]
      exact ⟨rfl, rfl, by simp [Publishes, change]⟩
  | faulted _ id reason raises => cases raises

/-- In the state Processing a result is accepted, an alarm in place of it too. -/
theorem notifyProcessingResult_of_processing {controller : Controller}
    (processing : controller.fsm.state = .processing) (outOfSpec : Bool) (stressMpa : Double)
    (raisedAlarmId : Option AlarmId) (alarmReason : Text) :
    (controller.notifyProcessingResult outOfSpec stressMpa raisedAlarmId alarmReason
        false).result.toBool = true ∧
      (controller.notifyProcessingResult outOfSpec stressMpa raisedAlarmId alarmReason
        false).Moves (if raisedAlarmId.isSome then .alarm else .idle) := by
  have does := controller.does_runClosure
    (.processingResult outOfSpec stressMpa raisedAlarmId alarmReason false)
  rw [runClosure] at does
  generalize controller.notifyProcessingResult outOfSpec stressMpa raisedAlarmId alarmReason
    false = outcome at does ⊢
  cases does with
  | rejected _ reason refused => cases raisedAlarmId <;> simp [accepts, processing] at refused
  | faulted _ id reason raises =>
      cases raisedAlarmId with
      | none => cases raises
      | some raised =>
          refine ⟨rfl, rfl, rfl, ?_⟩
          exact List.forall_mem_cons.mpr ⟨⟨_, rfl⟩, publishes_set _ _ _⟩
  | resulted _ _ _ _ fsm accepted _ after =>
      obtain rfl : fsm = ⟨.idle, false⟩ := after
      refine ⟨rfl, rfl, rfl, ?_⟩
      exact List.forall_mem_append.mpr ⟨publishes_announced _ _, by simp [change]⟩

/-- In the state Stopping it is rejected. -/
theorem notifyProcessingResult_of_stopping {controller : Controller}
    (shown : controller.StateShown) (stopping : controller.fsm.state = .stopping)
    (outOfSpec : Bool) (stressMpa : Double) (raisedAlarmId : Option AlarmId)
    (alarmReason : Text) :
    (controller.notifyProcessingResult outOfSpec stressMpa raisedAlarmId alarmReason
        false).result.toBool = false ∧
      (controller.notifyProcessingResult outOfSpec stressMpa raisedAlarmId alarmReason
        false).Moves .stopping := by
  have does := controller.does_runClosure
    (.processingResult outOfSpec stressMpa raisedAlarmId alarmReason false)
  rw [runClosure] at does
  generalize controller.notifyProcessingResult outOfSpec stressMpa raisedAlarmId alarmReason
    false = outcome at does ⊢
  cases does with
  | rejected _ reason refused =>
      have moves := moves_of_refused shown
        (.processingResult outOfSpec stressMpa raisedAlarmId alarmReason false) reason
      rw [stopping] at moves
      exact ⟨rfl, moves⟩
  | faulted _ id reason raises accepted busy => exact absurd stopping.symm (busy.ne nofun nofun)
  | resulted _ _ _ _ fsm accepted processing =>
      rw [processing] at stopping
      cases stopping

theorem notifyStageStopped_of_stopping {controller : Controller}
    (stopping : controller.fsm.state = .stopping) :
    controller.notifyStageStopped.result.toBool = true ∧
      controller.notifyStageStopped.Moves .idle := by
  have does := controller.does_stageStopped
  generalize controller.notifyStageStopped = outcome at does ⊢
  cases does with
  | rejected _ reason refused => exact absurd stopping (of_decide_eq_false refused)
  | faulted _ id reason raises => cases raises
  | stageStopped accepted => exact ⟨rfl, rfl, rfl, by simp [Publishes, change]⟩

/-! ## Commands -/

/-- Everything that a command does to the process state and asks of the scan driver. -/
inductive CommandEffect (controller : Controller) : CommandPayload → Outcome → Prop where
  | kept (payload : CommandPayload) (outcome : Outcome)
      (moves : outcome.Moves controller.fsm.state)
      (notStarted : (payload.isStart && outcome.result.toBool) = false) :
      CommandEffect controller payload outcome
  | started (waferId : Text) (slot : Int) (outcome : Outcome)
      (idle : controller.fsm.state = .idle) (accepted : outcome.result.toBool = true)
      (state : outcome.next.fsm.state = .scanning) (shown : outcome.next.StateShown)
      (events : List Effect) (publishes : Publishes events)
      (effects : outcome.effects = events ++ [.startScan waferId]) :
      CommandEffect controller (.start waferId slot) outcome
  | aborted (outcome : Outcome)
      (underway : controller.fsm.state = .scanning ∨ controller.fsm.state = .processing)
      (accepted : outcome.result.toBool = true)
      (state : outcome.next.fsm.state = .stopping) (shown : outcome.next.StateShown)
      (events : List Effect) (publishes : Publishes events)
      (effects : outcome.effects = events ++ [.requestAbort]) :
      CommandEffect controller .abort outcome
  | cleared (outcome : Outcome) (alarm : controller.fsm.state = .alarm)
      (moves : outcome.Moves .idle) : CommandEffect controller .clearAlarm outcome

theorem handleCommand_effect {controller : Controller} (shown : controller.StateShown)
    (command : Command) :
    CommandEffect controller command.payload (controller.handleCommand command) := by
  have does := controller.does_runClosure (.command command)
  rw [runClosure] at does
  generalize controller.handleCommand command = outcome at does ⊢
  cases does with
  | rejected _ reason refused =>
      exact .kept _ _ (moves_of_refused shown _ reason) (Bool.and_false _)
  | started waferId slot source accepted idle =>
      exact .started waferId slot _ idle rfl rfl rfl
        [controller.change .scanning, .publish (.scanStarted waferId slot)]
        (by simp [Publishes, change]) rfl
  | stopNoted source accepted scanning =>
      exact .kept _ _ ⟨rfl, shown, by simp [Publishes]⟩ rfl
  | aborted source accepted busy =>
      exact .aborted _ busy rfl rfl rfl [controller.change .stopping] (by simp [Publishes, change])
        rfl
  | cleared source accepted alarm =>
      refine .cleared _ alarm ⟨rfl, rfl, List.forall_mem_cons.mpr ⟨⟨_, rfl⟩, ?_⟩⟩
      intro effect member
      obtain ⟨alarm, _, rfl⟩ := List.mem_map.mp member
      exact ⟨_, rfl⟩
  | modeSet mode source accepted => exact .kept _ _ ⟨rfl, shown, by simp [Publishes]⟩ rfl
  | faulted _ id reason raises => cases raises

/-! ## The control mode -/

/-- The mode stays, and no change of it is published. -/
def Outcome.KeepsMode (controller : Controller) (outcome : Outcome) : Prop :=
  outcome.next.controlMode = controller.controlMode ∧
    ∀ before after, Effect.publish (.controlStateChanged before after) ∉ outcome.effects

/-- Only a SetControlMode command touches the mode. -/
theorem keepsMode_runClosure (controller : Controller) (closure : Closure)
    (other : ∀ mode source, closure ≠ .command ⟨.setControlMode mode, source⟩) :
    (controller.runClosure closure).KeepsMode controller := by
  have quiet (before after : ControlMode) :
      Effect.publish (.controlStateChanged before after) ∉ controller.announced closure := by
    unfold announced
    split <;> simp
  have does := controller.does_runClosure closure
  generalize controller.runClosure closure = outcome at does ⊢
  cases does with
  | rejected => exact ⟨rfl, quiet⟩
  | modeSet mode source => exact absurd rfl (other mode source)
  | faulted _ id reason =>
      refine ⟨rfl, fun before after => ?_⟩
      unfold AlarmManager.set
      split <;> simp [change]
  | resulted =>
      refine ⟨rfl, fun before after member => ?_⟩
      rcases List.mem_append.mp member with early | late
      · exact quiet before after early
      · simp [change] at late
  | _ => exact ⟨rfl, by simp [change]⟩

theorem keepsMode_handleCommand (controller : Controller) (command : Command)
    (other : ∀ mode, command.payload ≠ .setControlMode mode) :
    (controller.handleCommand command).KeepsMode controller := by
  refine controller.keepsMode_runClosure (.command command) fun mode source same => ?_
  obtain rfl := Closure.command.inj same
  exact other mode rfl

end Controller

end Ssim.Core
