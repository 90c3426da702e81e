import Ssim.Core.ControllerSteps
import Ssim.Library.Runs

/-!
# Alarms

Three things say that the machine is in alarm: the state of the process state
machine, the flag of the controller and the recorded alarms.  They agree after
every input, as long as only the controller records and clears alarms.  A fault is
recorded where the process state machine takes it, and from then on until a
ClearAlarm is accepted.
-/

namespace Ssim.Core

open Library.Runs (along)

def AlarmManager.anyActive (alarms : AlarmManager) : Bool :=
  !alarms.isEmpty

namespace Controller

/-! ## Agreement -/

structure AlarmsAgree (controller : Controller) : Prop where
  shown : controller.state = controller.fsm.state
  flagged : controller.hasActiveAlarm = true ↔ controller.fsm.state = .alarm
  recorded : controller.alarms.anyActive = true ↔ controller.fsm.state = .alarm

theorem alarmsAgree_fresh : AlarmsAgree .fresh :=
  ⟨rfl, by decide, by decide⟩

/-- A transition that neither enters nor leaves the state Alarm. -/
theorem AlarmsAgree.outside {controller : Controller} (agree : controller.AlarmsAgree)
    (fsm : ProcessStateMachine) (before : controller.fsm.state ≠ .alarm)
    (after : fsm.state ≠ .alarm) : (controller.moved fsm).AlarmsAgree := by
  constructor
  · rfl
  · exact iff_of_false (fun active => before (agree.flagged.mp active)) after
  · exact iff_of_false (fun active => before (agree.recorded.mp active)) after

theorem anyActive_set (alarms : AlarmManager) (id : AlarmId) (reason : Text) :
    (alarms.set id reason).1.anyActive = true := by
  unfold AlarmManager.set
  split
  next active =>
    cases alarms with
    | nil => cases active
    | cons alarm alarms => rfl
  · simp [AlarmManager.anyActive]

theorem alarmsAgree_next {controller : Controller} (closure : Closure)
    (agree : controller.AlarmsAgree) : (machine.next controller closure).AlarmsAgree := by
  have does := controller.does_runClosure closure
  change (controller.runClosure closure).next.AlarmsAgree
  generalize controller.runClosure closure = outcome at does
  cases does with
  | rejected => exact agree
  | started waferId slot source accepted idle clear =>
      obtain ⟨shown, flagged, recorded⟩ :=
        agree.outside ⟨.scanning, false⟩ (by simp [idle]) (by simp)
      exact ⟨shown, flagged, recorded⟩
  | stopNoted source accepted scanning =>
      exact ⟨agree.shown, agree.flagged, agree.recorded⟩
  | aborted source accepted busy =>
      have calm : .alarm ≠ controller.fsm.state := busy.ne (by simp) (by simp)
      exact agree.outside _ calm.symm (by simp [ProcessStateMachine.enter])
  | cleared source accepted alarm =>
      exact ⟨rfl, by simp [moved, ProcessStateMachine.enter],
        by simp [moved, ProcessStateMachine.enter, AlarmManager.anyActive]⟩
  | modeSet mode source accepted => exact ⟨agree.shown, agree.flagged, agree.recorded⟩
  | linesDone waferId accepted scanning =>
      exact agree.outside _ (by simp [scanning]) (by simp [ProcessStateMachine.enter])
  | faulted closure id reason raises accepted busy =>
      exact ⟨rfl, iff_of_true rfl rfl, iff_of_true (anyActive_set _ _ _) rfl⟩
  | resulted outOfSpec stressMpa alarmReason moreWafersPending fsm accepted processing after =>
      refine agree.outside _ (by simp [processing]) ?_
      rw [after]
      split <;> simp [ProcessStateMachine.enter]
  | stageStopped accepted stopping =>
      exact agree.outside _ (by simp [stopping]) (by simp)

theorem alarmsAgree_after (closures : List Closure) :
    (machine.after .fresh closures).AlarmsAgree :=
  machine.invariant AlarmsAgree (fun _ closure => alarmsAgree_next closure) alarmsAgree_fresh
    closures

/-- The flag is a reason to reject Start in the state Idle only. -/
theorem apply_start_reason {machine : ProcessStateMachine} {guards : TransitionGuards}
    {reason : Error} (clear : machine.state = .idle → guards.hasActiveAlarm = false)
    (rejected : machine.apply .start guards = .error reason) :
    reason.code ≠ kReasonActiveAlarm := by
  unfold ProcessStateMachine.apply at rejected
  split at rejected
  next idle =>
    rw [clear idle] at rejected
    split at rejected
    · obtain rfl := Except.error.inj rejected
      nofun
    · split at rejected
      · obtain rfl := Except.error.inj rejected
        nofun
      · split at rejected
        next impossible => cases impossible
        · split at rejected
          · obtain rfl := Except.error.inj rejected
            nofun
          · cases rejected
  all_goals
    obtain rfl := Except.error.inj rejected
    nofun

/-- Start is not rejected for an alarm: the state rejects it before. -/
theorem start_reason {controller : Controller} (agree : controller.AlarmsAgree) (waferId : Text)
    (slot : Int) (source : CommandSource) {reason : Error}
    (rejected : machine.answer controller (.command ⟨.start waferId slot, source⟩) =
      .error reason) : reason.code ≠ kReasonActiveAlarm := by
  have clear : controller.fsm.state = .idle → controller.hasActiveAlarm = false := by
    intro idle
    refine Bool.eq_false_iff.mpr fun active => ?_
    rw [agree.flagged.mp active] at idle
    cases idle
  have answered : machine.answer controller (.command ⟨.start waferId slot, source⟩) =
      (controller.transition .start
        { controlAllowsStart := controlAllowsStart controller.controlMode source
          hasActiveAlarm := controller.hasActiveAlarm
          waferValid := !waferId.isEmpty }).result :=
    Outcome.onSuccess_result _ _
  rw [answered, transition] at rejected
  split at rejected
  next applied =>
    obtain rfl := Except.error.inj rejected
    exact apply_start_reason clear applied
  · split at rejected <;> cases rejected

/-- A scan is started in the state Idle, and then the state is Scanning. -/
theorem idle_of_startScan {controller : Controller} {closure : Closure} {waferId : Text}
    (starts : Effect.startScan waferId ∈ machine.emit controller closure) :
    controller.fsm.state = .idle ∧ (machine.next controller closure).fsm.state = .scanning := by
  have noStart {effects : List Effect} (publishes : Publishes effects) :
      Effect.startScan waferId ∉ effects := by
    intro member
    obtain ⟨event, equal⟩ := publishes _ member
    cases equal
  have does := controller.does_runClosure closure
  change Effect.startScan waferId ∈ (controller.runClosure closure).effects at starts
  change _ ∧ (controller.runClosure closure).next.fsm.state = .scanning
  generalize controller.runClosure closure = outcome at does starts
  cases does with
  | rejected => exact absurd starts (noStart (controller.publishes_announced closure))
  | started waferId slot source accepted idle => exact ⟨idle, rfl⟩
  | faulted =>
      rcases List.mem_cons.mp starts with equal | later
      · cases equal
      · exact absurd later (noStart (publishes_set _ _ _))
  | resulted =>
      rcases List.mem_append.mp starts with early | late
      · exact absurd early (noStart (controller.publishes_announced _))
      · simp [change] at late
  | _ => simp [change] at starts

/--
After every sequence of commands and notifications: the process state machine is
in Alarm if and only if the flag is set, if and only if an alarm is recorded, and
the published state is that of the process state machine.  So Start is never
rejected for an active alarm, and no scan starts while an alarm is active.
-/
theorem alarms_agree (closures : List Closure) :
    let controller := machine.after .fresh closures
    (controller.fsm.state = .alarm ↔ controller.hasActiveAlarm = true) ∧
      (controller.hasActiveAlarm = true ↔ controller.alarms.anyActive = true) ∧
      controller.state = controller.fsm.state ∧
      (∀ waferId slot source message,
        machine.answer controller (.command ⟨.start waferId slot, source⟩) ≠
          .error ⟨kReasonActiveAlarm, message⟩) ∧
      ∀ closure waferId, Effect.startScan waferId ∈ machine.emit controller closure →
        controller.alarms.anyActive = false ∧
          (machine.next controller closure).alarms.anyActive = false := by
  intro controller
  have agree : controller.AlarmsAgree := alarmsAgree_after closures
  have calm {other : Controller} (agree : other.AlarmsAgree) {state : ProcessState}
      (same : other.fsm.state = state) (outside : state ≠ .alarm) :
      other.alarms.anyActive = false := by
    refine Bool.eq_false_iff.mpr fun active => outside ?_
    rw [← same]
    exact agree.recorded.mp active
  refine ⟨agree.flagged.symm, agree.flagged.trans agree.recorded.symm, agree.shown, ?_, ?_⟩
  · intro waferId slot source message rejected
    exact start_reason agree waferId slot source rejected rfl
  · intro closure waferId starts
    obtain ⟨idle, scanning⟩ := idle_of_startScan starts
    exact ⟨calm agree idle nofun, calm (alarmsAgree_next closure agree) scanning nofun⟩

/-! ## Faults -/

/-- A ClearAlarm that is accepted. -/
def clearsAlarms (controller : Controller) : Closure → Bool
  | .command ⟨.clearAlarm, source⟩ =>
      (machine.answer controller (.command ⟨.clearAlarm, source⟩)).toBool
  | _ => false

/--
What is promised of a fault: when the call returns the alarm is active, it has been
announced unless it was active before, and it stays active until a ClearAlarm is
accepted.
-/
structure FaultKept (controller : Controller) (id : AlarmId) (reason : Text) : Prop where
  active : (machine.next controller (.fault id reason)).alarms.isActive id = true
  announced : controller.alarms.isActive id = false →
    Effect.publish (.alarmSet id reason) ∈ machine.emit controller (.fault id reason)
  stays : ∀ closures,
    along machine.next (fun state closure => !state.clearsAlarms closure)
      (machine.next controller (.fault id reason)) closures = true →
    (machine.after (machine.next controller (.fault id reason)) closures).alarms.isActive id = true

theorem isActive_set {alarms : AlarmManager} {id other : AlarmId} {reason : Text}
    (active : alarms.isActive id = true ∨ other = id) :
    (alarms.set other reason).1.isActive id = true := by
  unfold AlarmManager.set
  split
  next already =>
    rcases active with before | rfl
    · exact before
    · exact already
  · rcases active with before | rfl
    · simp only [AlarmManager.isActive, List.any_append, Bool.or_eq_true]
      exact .inl before
    · simp [AlarmManager.isActive]

/-- Nothing but an accepted ClearAlarm makes an alarm inactive. -/
theorem isActive_next {controller : Controller} {closure : Closure} {id : AlarmId}
    (active : controller.alarms.isActive id = true)
    (kept : controller.clearsAlarms closure = false) :
    (machine.next controller closure).alarms.isActive id = true := by
  have does := controller.does_runClosure closure
  change (controller.runClosure closure).next.alarms.isActive id = true
  generalize controller.runClosure closure = outcome at does ⊢
  cases does with
  | cleared source accepted =>
      have answered : controller.clearsAlarms (.command ⟨.clearAlarm, source⟩) = _ :=
        controller.runClosure_toBool (.command ⟨.clearAlarm, source⟩)
      rw [accepted, kept] at answered
      cases answered
  | faulted => exact isActive_set (.inl active)
  | _ => exact active

theorem isActive_after {controller : Controller} {id : AlarmId}
    (active : controller.alarms.isActive id = true) {closures : List Closure}
    (kept : along machine.next (fun state closure => !state.clearsAlarms closure) controller
      closures = true) :
    (machine.after controller closures).alarms.isActive id = true := by
  induction closures generalizing controller with
  | nil => exact active
  | cons closure closures ih =>
      simp only [along, Bool.and_eq_true, Bool.not_eq_true'] at kept
      exact ih (isActive_next active kept.1) kept.2

/--
A fault is kept if and only if the process state machine takes it, or its alarm is
active already.  In the states Idle, Stopping and Alarm it is rejected, and its
alarm is not recorded.
-/
theorem fault_kept_iff (controller : Controller) (id : AlarmId) (reason : Text) :
    controller.FaultKept id reason ↔
      controller.fsm.state = .scanning ∨ controller.fsm.state = .processing ∨
        controller.alarms.isActive id = true := by
  rw [← or_assoc]
  constructor
  · intro promised
    by_cases busy : controller.Busy
    · exact .inl busy
    · have refused : controller.accepts (.fault id reason) = false := by
        simpa [accepts, Busy] using busy
      have active := promised.active
      rw [show machine.next controller (.fault id reason) = controller from
        (controller.runClosure_of_refused refused).1] at active
      exact .inr active
  · intro known
    have does := controller.does_runClosure (.fault id reason)
    have active : (machine.next controller (.fault id reason)).alarms.isActive id = true ∧
        (controller.alarms.isActive id = false →
          Effect.publish (.alarmSet id reason) ∈ machine.emit controller (.fault id reason)) := by
      change (controller.runClosure (.fault id reason)).next.alarms.isActive id = true ∧
        (_ → _ ∈ (controller.runClosure (.fault id reason)).effects)
      generalize controller.runClosure (.fault id reason) = outcome at does ⊢
      cases does with
      | rejected _ reason refused =>
          have idle : ¬ controller.Busy := by simpa [accepts, Busy] using refused
          have before := known.resolve_left idle
          refine ⟨before, fun inactive => ?_⟩
          rw [before] at inactive
          cases inactive
      | faulted _ other text raises accepted busy =>
          obtain ⟨rfl, rfl⟩ := Prod.mk.inj (Option.some.inj raises)
          refine ⟨isActive_set (.inr rfl), fun inactive => List.mem_cons_of_mem _ ?_⟩
          simp [AlarmManager.set, inactive]
    exact ⟨active.1, active.2, fun closures => isActive_after active.1⟩

/-- A fault in the state Idle is lost. -/
theorem fault_lost_when_idle :
    ¬ FaultKept (machine.after .fresh []) .scanStall [83] := by
  intro promised
  have active : AlarmManager.isActive (machine.next .fresh (.fault .scanStall [83])).alarms
      .scanStall = true := promised.active
  exact absurd active (by decide)

end Controller

end Ssim.Core
