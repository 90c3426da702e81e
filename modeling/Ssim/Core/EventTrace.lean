import Ssim.Core.Alarms
import Ssim.Library.Ledger

/-!
# The event trace of the controller

The milestones of a run are its changes of state, the start of a scan on the bus
and at the driver, and the two ways in which a run is reported as over.  Every
input adds one of a few groups of them.  A ledger with a single entry, the wafer
that is under way, justifies each milestone: a run is opened by ScanStarted and
closed by ScanComplete, by RunAborted or by the entry into Alarm.
-/

namespace Ssim.Core

open Library.Ledger (Rules)

/-! ## Milestones -/

inductive Milestone where
  | changed (before after : ProcessState)
  | started (waferId : Text)
  /-- The driver is called to start a scan. -/
  | driven (waferId : Text)
  | completed (waferId : Text)
  | aborted (waferId : Text)
  deriving Repr, DecidableEq

def Effect.milestone : Effect → Option Milestone
  | .publish (.stateChanged before after) => some (.changed before after)
  | .publish (.scanStarted waferId _) => some (.started waferId)
  | .startScan waferId => some (.driven waferId)
  | .publish (.scanComplete waferId _ _) => some (.completed waferId)
  | .publish (.runAborted waferId) => some (.aborted waferId)
  | _ => none

def milestones (effects : List Effect) : List Milestone :=
  effects.filterMap Effect.milestone

namespace Milestone

def change? : Milestone → Option (ProcessState × ProcessState)
  | changed before after => some (before, after)
  | _ => none

def started? : Milestone → Option Text
  | started waferId => some waferId
  | _ => none

def driven? : Milestone → Option Text
  | driven waferId => some waferId
  | _ => none

def completed? : Milestone → Option Text
  | completed waferId => some waferId
  | _ => none

def aborted? : Milestone → Option Text
  | aborted waferId => some waferId
  | _ => none

/-- ScanComplete, RunAborted or the entry into Alarm. -/
def endsRun : Milestone → Bool
  | completed _ | aborted _ => true
  | changed _ after => after = .alarm
  | _ => false

end Milestone

/-- The changes of state lead from one state to another, and none of them is a loop. -/
def Chain : ProcessState → List (ProcessState × ProcessState) → ProcessState → Prop
  | first, [], last => first = last
  | first, (before, after) :: rest, last => before = first ∧ after ≠ before ∧ Chain after rest last

theorem Chain.append {first middle last : ProcessState}
    {before after : List (ProcessState × ProcessState)} (one : Chain first before middle)
    (two : Chain middle after last) : Chain first (before ++ after) last := by
  induction before generalizing first with
  | nil => exact one ▸ two
  | cons change rest ih => exact ⟨one.1, one.2.1, ih one.2.2⟩

/-- The wafer of the latest ScanStarted. -/
def LatestStart (log : List Milestone) (waferId : Text) : Prop :=
  ∃ before after, log = before ++ .started waferId :: after ∧
    ∀ milestone ∈ after, milestone.started? = none

/-- A closure that announces no further wafer; there is no cassette loop yet. -/
def Closure.single : Closure → Bool
  | .processingResult _ _ _ _ moreWafersPending => !moreWafersPending
  | _ => true

namespace Controller

/-! ## What one input adds -/

/-- The groups of milestones, with the states and the wafer that they lead from and to. -/
inductive Advances (controller next : Controller) : List Milestone → Prop where
  | still (state : next.fsm.state = controller.fsm.state)
      (wafer : next.currentWaferId = controller.currentWaferId) : Advances controller next []
  | started (waferId : Text) (idle : controller.fsm.state = .idle)
      (state : next.fsm.state = .scanning) (wafer : next.currentWaferId = waferId) :
      Advances controller next [.changed .idle .scanning, .started waferId, .driven waferId]
  | linesDone (scanning : controller.fsm.state = .scanning) (state : next.fsm.state = .processing)
      (wafer : next.currentWaferId = controller.currentWaferId) :
      Advances controller next [.changed .scanning .processing]
  | stopping (busy : controller.Busy) (state : next.fsm.state = .stopping)
      (wafer : next.currentWaferId = controller.currentWaferId) :
      Advances controller next [.changed controller.fsm.state .stopping]
  | faulted (busy : controller.Busy) (state : next.fsm.state = .alarm) :
      Advances controller next [.changed controller.fsm.state .alarm]
  | cleared (alarm : controller.fsm.state = .alarm) (state : next.fsm.state = .idle) :
      Advances controller next [.changed .alarm .idle]
  | completed (processing : controller.fsm.state = .processing) (state : next.fsm.state = .idle) :
      Advances controller next
        [.changed .processing .idle, .completed controller.currentWaferId]
  | aborted (stopping : controller.fsm.state = .stopping) (state : next.fsm.state = .idle) :
      Advances controller next [.changed .stopping .idle, .aborted controller.currentWaferId]

theorem milestones_append (first second : List Effect) :
    milestones (first ++ second) = milestones first ++ milestones second :=
  List.filterMap_append

theorem milestones_change (controller : Controller) (after : ProcessState)
    (effects : List Effect) :
    milestones (controller.change after :: effects) =
      .changed controller.fsm.state after :: milestones effects :=
  rfl

theorem milestones_announced (controller : Controller) (closure : Closure) :
    milestones (controller.announced closure) = [] := by
  unfold announced
  split <;> rfl

theorem milestones_set (alarms : AlarmManager) (id : AlarmId) (reason : Text) :
    milestones (alarms.set id reason).2 = [] := by
  unfold AlarmManager.set
  split <;> rfl

theorem advances (controller : Controller) {closure : Closure} (single : closure.single = true) :
    Advances controller (machine.next controller closure)
      (milestones (machine.emit controller closure)) := by
  have does := controller.does_runClosure closure
  change Advances controller (controller.runClosure closure).next
    (milestones (controller.runClosure closure).effects)
  generalize controller.runClosure closure = outcome at does ⊢
  cases does with
  | rejected =>
      dsimp only
      rw [milestones_announced]
      exact .still rfl rfl
  | started waferId slot source accepted idle =>
      rw [milestones, change, idle]
      exact .started waferId idle rfl rfl
  | stopNoted source accepted scanning => exact .still rfl rfl
  | aborted source accepted busy => exact .stopping busy rfl rfl
  | cleared source accepted alarm =>
      have quiet : milestones (controller.alarms.map fun alarm =>
          .publish (.alarmCleared alarm.1)) = [] := by
        simp [milestones, Effect.milestone]
      dsimp only
      rw [milestones_change, quiet, alarm]
      exact .cleared alarm rfl
  | modeSet => exact .still rfl rfl
  | linesDone waferId accepted scanning =>
      rw [milestones, change, scanning]
      exact .linesDone scanning rfl rfl
  | faulted _ id reason raises accepted busy =>
      dsimp only
      rw [milestones_change, milestones_set]
      exact .faulted busy rfl
  | resulted outOfSpec stressMpa alarmReason moreWafersPending fsm accepted processing after =>
      rw [show moreWafersPending = false by simpa [Closure.single] using single] at after ⊢
      obtain rfl : fsm = ⟨.idle, false⟩ := after
      dsimp only
      rw [milestones_append, milestones_announced, List.nil_append, milestones_change, processing]
      exact .completed processing rfl
  | stageStopped accepted stopping =>
      rw [milestones, change, stopping]
      exact .aborted stopping rfl

/-! ## The law of one input -/

/-- The milestones of one input, by the change of state among them. -/
structure StepLaw (controller next : Controller) (log : List Milestone) : Prop where
  chain : Chain controller.fsm.state (log.filterMap Milestone.change?) next.fsm.state
  started : log.filterMap Milestone.started? =
    if .changed .idle .scanning ∈ log then [next.currentWaferId] else []
  driven : log.filterMap Milestone.driven? = log.filterMap Milestone.started?
  completed : log.filterMap Milestone.completed? =
    if .changed .processing .idle ∈ log then [controller.currentWaferId] else []
  aborted : log.filterMap Milestone.aborted? =
    if .changed .stopping .idle ∈ log then [controller.currentWaferId] else []

theorem Advances.stepLaw {controller next : Controller} {log : List Milestone}
    (advance : Advances controller next log) : StepLaw controller next log := by
  cases advance with
  | still state wafer => exact ⟨state.symm, rfl, rfl, rfl, rfl⟩
  | started waferId idle state wafer =>
      refine ⟨⟨idle.symm, nofun, state.symm⟩, ?_, rfl, rfl, rfl⟩
      rw [if_pos (by simp), wafer]
      rfl
  | linesDone scanning state wafer => exact ⟨⟨scanning.symm, nofun, state.symm⟩, rfl, rfl, rfl, rfl⟩
  | stopping busy state wafer =>
      have other : .stopping ≠ controller.fsm.state := busy.ne nofun nofun
      exact ⟨⟨rfl, other, state.symm⟩, by simp [Milestone.started?], rfl,
        by simp [Milestone.completed?], by simp [Milestone.aborted?]⟩
  | faulted busy state =>
      have other : .alarm ≠ controller.fsm.state := busy.ne nofun nofun
      exact ⟨⟨rfl, other, state.symm⟩, by simp [Milestone.started?], rfl,
        by simp [Milestone.completed?], by simp [Milestone.aborted?]⟩
  | cleared alarm state => exact ⟨⟨alarm.symm, nofun, state.symm⟩, rfl, rfl, rfl, rfl⟩
  | completed processing state => exact ⟨⟨processing.symm, nofun, state.symm⟩, rfl, rfl, rfl, rfl⟩
  | aborted stopping state => exact ⟨⟨stopping.symm, nofun, state.symm⟩, rfl, rfl, rfl, rfl⟩

/-! ## The wafer under way -/

/-- A run is opened by ScanStarted, and only an open run ends; its end names its wafer. -/
def runRules : Rules Milestone Unit Text where
  opens milestone _ := milestone.started?
  closes milestone _ := milestone.endsRun
  justified ledger
    | .started _ => ledger () = none
    | .completed waferId | .aborted waferId => ledger () = some waferId
    | .changed _ after => after = .alarm → ledger () ≠ none
    | .driven _ => True
  opens_unused := by
    rintro ledger milestone ⟨⟩ waferId just opened
    cases milestone with
    | started => exact just
    | _ => cases opened

/-- The wafer of the run that is neither completed nor aborted nor in alarm. -/
def wafer (controller : Controller) (_ : Unit) : Option Text :=
  match controller.fsm.state with
  | .scanning | .processing | .stopping => some controller.currentWaferId
  | .idle | .alarm => none

theorem onlyOpen_runRules {ledger : Unit → Option Text} {milestone : Milestone}
    (just : runRules.justified ledger milestone)
    (ends : runRules.closes milestone () = true) : ledger () ≠ none := by
  cases milestone with
  | completed waferId => exact fun none => nomatch none.symm.trans just
  | aborted waferId => exact fun none => nomatch none.symm.trans just
  | changed before after => exact just (of_decide_eq_true ends)
  | started | driven => cases ends

theorem wafer_of_underway {controller : Controller}
    (underway : controller.Busy ∨ controller.fsm.state = .stopping) :
    controller.wafer = fun _ => some controller.currentWaferId := by
  funext
  unfold wafer
  rcases underway with (scanning | processing) | stopping
  · rw [scanning]
  · rw [processing]
  · rw [stopping]

theorem wafer_of_ended {controller : Controller}
    (ended : controller.fsm.state = .idle ∨ controller.fsm.state = .alarm) :
    controller.wafer = fun _ => none := by
  funext
  unfold wafer
  rcases ended with idle | alarm
  · rw [idle]
  · rw [alarm]

/-- Each group of milestones is justified by the wafer under way, and leads to the next one. -/
theorem Advances.follows {controller next : Controller} {log : List Milestone}
    (advance : Advances controller next log) :
    runRules.Follows controller.wafer log next.wafer := by
  cases advance with
  | still state wafer =>
      have same : next.wafer = controller.wafer := by
        unfold Controller.wafer
        rw [state, wafer]
      rw [same]
      exact .nil _
  | started waferId idle state wafer =>
      rw [wafer_of_ended (.inl idle), wafer_of_underway (.inl (.inl state)), wafer]
      exact .cons nofun (.cons rfl (.single trivial rfl))
  | linesDone scanning state wafer =>
      rw [wafer_of_underway (.inl (.inl scanning)), wafer_of_underway (.inl (.inr state)), wafer]
      exact .single nofun rfl
  | stopping busy state wafer =>
      rw [wafer_of_underway (.inl busy), wafer_of_underway (.inr state), wafer]
      exact .single nofun rfl
  | faulted busy state =>
      rw [wafer_of_underway (.inl busy), wafer_of_ended (.inr state)]
      exact .single (fun _ => nofun) rfl
  | cleared alarm state =>
      rw [wafer_of_ended (.inr alarm), wafer_of_ended (.inl state)]
      exact .single nofun rfl
  | completed processing state =>
      rw [wafer_of_underway (.inl (.inr processing)), wafer_of_ended (.inl state)]
      exact .cons nofun (.single rfl rfl)
  | aborted stopping state =>
      rw [wafer_of_underway (.inr stopping), wafer_of_ended (.inl state)]
      exact .cons nofun (.single rfl rfl)

/-! ## Runs -/

/-- The changes form a chain, and the milestones follow the wafer under way. -/
structure Traced (log : List Milestone) (controller : Controller) : Prop where
  chain : Chain .idle (log.filterMap Milestone.change?) controller.fsm.state
  follows : runRules.Follows (fun _ => none) log controller.wafer

theorem traced_after {closures : List Closure} (single : ∀ closure ∈ closures, closure.single) :
    Traced (milestones (machine.trace .fresh closures)) (machine.after .fresh closures) := by
  have initial : Traced (milestones []) .fresh :=
    ⟨show ProcessState.idle = .idle from rfl, .nil _⟩
  refine machine.trace_invariant (fun closure => closure.single = true)
    (fun effects controller => Traced (milestones effects) controller) ?_ initial single
  intro effects controller closure traced single
  have advance := controller.advances single
  rw [milestones_append]
  constructor
  · rw [List.filterMap_append]
    exact traced.chain.append advance.stepLaw.chain
  · exact traced.follows.append advance.follows

/-- The end of a run names the wafer of the latest ScanStarted. -/
theorem Traced.latestStart {log past future : List Milestone} {controller : Controller}
    (traced : Traced log controller) {milestone : Milestone} {waferId : Text}
    (names : milestone = .completed waferId ∨ milestone = .aborted waferId)
    (split : log = past ++ milestone :: future) : LatestStart past waferId := by
  have follows := traced.follows
  rw [split] at follows
  obtain ⟨middle, before, just, _⟩ := follows.at_event
  have isOpen : middle () = some waferId := by
    rcases names with rfl | rfl
    · exact just
    · exact just
  rcases before.opened_of_open isOpen with
    ⟨impossible, _⟩ | ⟨front, opening, back, rfl, opened, unended⟩
  · cases impossible
  · obtain ⟨ledger, _, _, rest⟩ := before.at_event
    have started : opening = .started waferId := by
      cases opening with
      | started other => exact congrArg _ (Option.some.inj opened)
      | _ => cases opened
    subst started
    exact ⟨front, back, rfl, rest.not_opened rfl unended⟩

/-- Between two consecutive starts exactly one run ends. -/
theorem Traced.ends_once {log past middle future : List Milestone} {controller : Controller}
    (traced : Traced log controller) {first second : Text}
    (split : log = past ++ .started first :: (middle ++ .started second :: future))
    (consecutive : ∀ milestone ∈ middle, milestone.started? = none) :
    middle.countP Milestone.endsRun = 1 := by
  have follows := traced.follows
  rw [split] at follows
  obtain ⟨ledger, _, _, rest⟩ := follows.at_event
  obtain ⟨last, between, closed, _⟩ := rest.at_event
  have isOpen : runRules.post ledger (.started first) () ≠ none := nofun
  exact between.closed_once onlyOpen_runRules isOpen closed consecutive

/--
The event trace of every run from a fresh controller, without cassettes.  The
changes of state lead from Idle to the published state.  By one input a scan is
started exactly on Idle to Scanning, on the bus and at the driver, with the wafer
that is then the current one; ScanComplete is published exactly on Processing to
Idle, and RunAborted exactly on Stopping to Idle; both name the wafer of the latest
ScanStarted.  Between two consecutive ScanStarted exactly one run ends.
-/
theorem event_trace (closures : List Closure)
    (single : ∀ closure ∈ closures, closure.single = true) :
    let log := milestones (machine.trace .fresh closures)
    Chain .idle (log.filterMap Milestone.change?) (machine.after .fresh closures).state ∧
      (∀ before closure later, closures = before ++ closure :: later →
        StepLaw (machine.after .fresh before)
          (machine.after .fresh (before ++ [closure]))
          (milestones (machine.emit (machine.after .fresh before) closure))) ∧
      (∀ past milestone future waferId, log = past ++ milestone :: future →
        milestone = .completed waferId ∨ milestone = .aborted waferId →
        LatestStart past waferId) ∧
      ∀ past middle future first second,
        log = past ++ .started first :: (middle ++ .started second :: future) →
        (∀ milestone ∈ middle, milestone.started? = none) →
        middle.countP Milestone.endsRun = 1 := by
  intro log
  have traced : Traced log (machine.after .fresh closures) := traced_after single
  refine ⟨?_, ?_, ?_, ?_⟩
  · rw [(alarmsAgree_after closures).shown]
    exact traced.chain
  · rintro before closure later rfl
    rw [machine.after_concat]
    exact ((machine.after .fresh before).advances (single closure (by simp))).stepLaw
  · intro past milestone future waferId split names
    exact traced.latestStart names split
  · intro past middle future first second split consecutive
    exact traced.ends_once split consecutive

/-- A wafer is scanned and analysed, and the next one is started. -/
def twoWafers : List Closure :=
  [.command ⟨.start [1] 1, .ui⟩, .scanComplete [1], .processingResult false 0 none [] false,
    .command ⟨.start [2] 1, .ui⟩]

theorem event_trace_two_wafers :
    (∀ closure ∈ twoWafers, closure.single = true) ∧
      Chain .idle ((milestones (machine.trace .fresh twoWafers)).filterMap Milestone.change?)
        (machine.after .fresh twoWafers).state ∧
      List.countP Milestone.endsRun
        [.driven [1], .changed .scanning .processing, .changed .processing .idle, .completed [1],
          .changed .idle .scanning] = 1 := by
  have single : ∀ closure ∈ twoWafers, closure.single = true := by decide
  obtain ⟨chain, _, _, once⟩ := event_trace twoWafers single
  exact ⟨single, chain, once [.changed .idle .scanning] _ [.driven [2]] [1] [2] (by decide)
    (by decide)⟩

end Controller

end Ssim.Core
