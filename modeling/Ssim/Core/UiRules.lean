import Ssim.Core.Alarms

/-!
# What the panel offers

The panel enables its buttons by a table of its own, from a snapshot of the machine.  In every
state that the machine reaches, a button is enabled exactly if the controller would take the
command, and what is offered in a machine at rest stays acceptable until the next command.
-/

namespace Ssim.Core

structure ActionRules where
  canStart : Bool := false
  canStop : Bool := false
  canAbort : Bool := false
  canClearAlarm : Bool := false
  canChangeMode : Bool := false
  deriving Repr, DecidableEq

def rulesFor (state : ProcessState) (mode : ControlMode) (alarmActive : Bool) : ActionRules where
  canStart := state = .idle && !alarmActive && mode ≠ .onlineRemote
  canStop := state = .scanning
  canAbort := state = .scanning || state = .processing
  canClearAlarm := state = .alarm
  canChangeMode := state = .idle || state = .alarm

def Closure.isCommand : Closure → Bool
  | .command _ => true
  | _ => false

namespace Controller

/-- The rules for a snapshot of the controller. -/
def offered (controller : Controller) : ActionRules :=
  rulesFor controller.state controller.controlMode controller.hasActiveAlarm

/-- The controller takes the command from the panel. -/
def takes (controller : Controller) (payload : CommandPayload) : Bool :=
  (machine.answer controller (.command ⟨payload, .ui⟩)).toBool

/-- The buttons that are enabled are those whose commands would be taken. -/
structure OffersTaken (controller : Controller) : Prop where
  start : ∀ waferId slot, waferId ≠ [] →
    controller.takes (.start waferId slot) = controller.offered.canStart
  stop : controller.takes .stop = controller.offered.canStop
  abort : controller.takes .abort = controller.offered.canAbort
  clearAlarm : controller.takes .clearAlarm = controller.offered.canClearAlarm
  changeMode : ∀ mode, controller.offered.canChangeMode = true →
    controller.takes (.setControlMode mode) = true

variable {controller : Controller}

theorem takes_eq_accepts (payload : CommandPayload) :
    controller.takes payload = controller.accepts (.command ⟨payload, .ui⟩) :=
  controller.runClosure_toBool _

theorem controlAllowsStart_ui (mode : ControlMode) :
    controlAllowsStart mode .ui = decide (mode ≠ .onlineRemote) := by
  cases mode <;> rfl

theorem AlarmsAgree.offersTaken (agree : controller.AlarmsAgree) : controller.OffersTaken where
  start waferId slot named := by
    have present : waferId.isEmpty = false := by
      cases waferId with
      | nil => exact absurd rfl named
      | cons => rfl
    rw [takes_eq_accepts]
    simp only [accepts, offered, rulesFor, agree.shown, controlAllowsStart_ui, present,
      Bool.not_false, Bool.and_true]
    cases controller.hasActiveAlarm <;> simp
  stop := by
    rw [takes_eq_accepts]
    simp [accepts, offered, rulesFor, agree.shown, controlAllowsHostCommand]
  abort := by
    rw [takes_eq_accepts]
    simp [accepts, offered, rulesFor, agree.shown, controlAllowsHostCommand]
  clearAlarm := by
    rw [takes_eq_accepts]
    simp [accepts, offered, rulesFor, agree.shown, controlAllowsHostCommand]
  changeMode mode _ := by
    rw [takes_eq_accepts]
    simp [accepts, controlAllowsSetMode]

/-- A machine at rest refuses every report of the driver and of the analysis. -/
theorem AlarmsAgree.next_of_rest (agree : controller.AlarmsAgree)
    (rest : controller.offered.canChangeMode = true) {report : Closure}
    (isReport : report.isCommand = false) : machine.next controller report = controller := by
  have state : controller.fsm.state = .idle ∨ controller.fsm.state = .alarm := by
    simpa [offered, rulesFor, agree.shown] using rest
  refine (runClosure_of_refused controller ?_).1
  cases report with
  | command => cases isReport
  | processingResult outOfSpec stressMpa raisedAlarmId =>
      cases raisedAlarmId <;> rcases state with state | state <;> simp [accepts, state]
  | _ => rcases state with state | state <;> simp [accepts, state]

theorem AlarmsAgree.after_of_rest (agree : controller.AlarmsAgree)
    (rest : controller.offered.canChangeMode = true) {reports : List Closure}
    (areReports : ∀ report ∈ reports, report.isCommand = false) :
    machine.after controller reports = controller := by
  induction reports with
  | nil => rfl
  | cons report reports ih =>
      rw [Library.Reactive.Machine.after_cons,
        agree.next_of_rest rest (areReports report List.mem_cons_self)]
      exact ih fun other inReports => areReports other (List.mem_cons_of_mem _ inReports)

/--
In every state that the machine reaches, the panel offers what the controller takes.  Start,
ClearAlarm and the modes are offered to a machine at rest only, and whatever is reported before
the operator presses the button, the machine is then still the one that the panel has shown.
-/
theorem panel_offers_what_is_taken (closures reports : List Closure)
    (areReports : ∀ report ∈ reports, report.isCommand = false) :
    (machine.after .fresh closures).OffersTaken ∧
      ((machine.after .fresh closures).offered.canStart = true ∨
          (machine.after .fresh closures).offered.canClearAlarm = true ∨
          (machine.after .fresh closures).offered.canChangeMode = true →
        machine.after (machine.after .fresh closures) reports = machine.after .fresh closures) := by
  have agree := alarmsAgree_after closures
  refine ⟨agree.offersTaken, fun offers => ?_⟩
  refine agree.after_of_rest ?_ areReports
  rcases offers with start | clear | change
  · simp only [offered, rulesFor, Bool.and_eq_true] at start ⊢
    simp [start.1.1]
  · simp only [offered, rulesFor] at clear ⊢
    simp [clear]
  · exact change

/-- The alarm of a stalled scan can be cleared, also when the scan thread reports afterwards. -/
theorem panel_offers_what_is_taken_alarm :
    ∃ controller,
      controller = machine.after .fresh
        [.command ⟨.start [87] 1, .ui⟩, .fault .scanStall []] ∧
      controller.offered.canClearAlarm = true ∧ controller.OffersTaken ∧
      machine.after controller [.stageStopped, .scanComplete [87]] = controller := by
  obtain ⟨offers, stays⟩ := panel_offers_what_is_taken
    [.command ⟨.start [87] 1, .ui⟩, .fault .scanStall []] [.stageStopped, .scanComplete [87]]
    (by simp [Closure.isCommand])
  exact ⟨_, rfl, by decide, offers, stays (.inr (.inl (by decide)))⟩

end Controller

end Ssim.Core
