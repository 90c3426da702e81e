import Ssim.Gem.HostMessages
import Ssim.Gem.Sendings
import Ssim.Gem.Steps

/-!
# The equipment, one frame at a time

A second, smaller model: what the host's frames make of the connection state, the
communication state, the open requests and the machine, without time, bytes or
the contents of messages.  `receive` takes a frame in a read of its own, and all
that is posted for it is done before the next frame.

A read of the server takes many frames at once.  It absorbs them one after the
other, tells the service at its end whether the state has changed, and only then
the tasks are run.  `harmless` says when a frame may be absorbed behind others of
the same read: settling after it is settling before it and receiving it alone.
-/

namespace Ssim.Gem

open Ssim.Core (ControlMode MachineApi)
open Hsms (Frame Session SessionConfig ConnectionState)
open Secs2 (Message)
open Library.Runs

/-! ## The equipment -/

structure Equipment where
  config : SessionConfig
  gemConfig : GemConfig
  state : ConnectionState
  comm : CommState
  preferred : ControlMode
  api : MachineApi
  /-- What is left to do, replies apart. -/
  tasks : List Task
  table : RequestTable

namespace Equipment

def requests (equipment : Equipment) : List Sending :=
  requestsOf equipment.config equipment.tasks

def raised (equipment : Equipment) : List Sending :=
  raisedBy equipment.config equipment.gemConfig equipment.tasks

/-- An event posts its request behind those that wait already. -/
def outgoing (equipment : Equipment) : List Sending :=
  equipment.requests ++ if equipment.comm = .communicating then equipment.raised else []

/-- A data message that answers no open request. -/
def deliver (equipment : Equipment) (frame : Frame) : Equipment :=
  let (api, posted) := react equipment.gemConfig equipment.preferred equipment.api frame
  { equipment with
    comm := if establishes equipment.gemConfig frame then .communicating else equipment.comm
    api := api
    tasks := equipment.tasks ++ posted }

/-- A frame of a read, before the service is told the state and the tasks are run. -/
def absorb (equipment : Equipment) (frame : Frame) : Equipment :=
  let systemBytes := frame.header.systemBytes
  match frame.kind, equipment.state with
  | some .data, .selected =>
      if frame.header.function % 2 = 0 ∧ systemBytes ∈ equipment.table.transactions then
        { equipment with table := equipment.table.close true systemBytes }
      else
        equipment.deliver frame
  | some .selectReq, .notSelected => { equipment with state := .selected }
  | some .deselectReq, .selected =>
      { equipment with
        state := .notSelected, table := { equipment.table with transactions := ∅ } }
  | some .rejectReq, _ => { equipment with table := equipment.table.close false systemBytes }
  | some .separateReq, _ =>
      { equipment with
        state := .notConnected, table := { equipment.table with transactions := ∅ } }
  | _, _ => equipment

/-- The service is told the state, if it is not the one it was told last. -/
def notified (told : ConnectionState) (equipment : Equipment) : Equipment :=
  if lost told equipment.state then
    { equipment with
      comm := .notCommunicating, table := { equipment.table with openRequests := ∅ } }
  else
    equipment

/-- All tasks are run; requests are sent only while the link is selected. -/
def settle (equipment : Equipment) : Option Equipment :=
  if equipment.state = .selected then
    (equipment.table.sendAll equipment.config.maxOpenTransactions equipment.gemConfig.deviceId
      equipment.outgoing).map fun table => { equipment with table := table, tasks := [] }
  else
    some { equipment with tasks := [] }

/-- A frame in a read of its own. -/
def receive (equipment : Equipment) (frame : Frame) : Option Equipment :=
  ((equipment.absorb frame).notified equipment.state).settle

/-! ## Frames that may be absorbed behind others -/

/-- There is nothing that the loss of the link would end. -/
def silent (equipment : Equipment) : Bool :=
  equipment.comm = .notCommunicating && equipment.table.openRequests.isEmpty

/-- The requests that wait do not get these system bytes, and do not need their room. -/
def spares (equipment : Equipment) (answered : Bool) (systemBytes : UInt32) : Bool :=
  equipment.outgoing.isEmpty ||
    systemBytes ∉ (equipment.table.close answered systemBytes).issued
        equipment.config.maxOpenTransactions equipment.gemConfig.deviceId equipment.outgoing &&
      (systemBytes ∉ equipment.table.transactions ||
        equipment.table.transactions.size + equipment.outgoing.countP Sending.wBit ≤
          equipment.config.maxOpenTransactions)

/-- A delivered message may be handled before the requests that wait are sent. -/
def defers (equipment : Equipment) (frame : Frame) : Bool :=
  if (fault equipment.gemConfig frame).isSome then
    -- S9 would be sent before the events that were raised earlier.
    equipment.comm ≠ .communicating || equipment.raised.isEmpty
  else
    -- S1F13 would let the events through that were raised before it.
    !establishes equipment.gemConfig frame || equipment.comm = .communicating ||
      equipment.raised.isEmpty

/-- The frame may be absorbed behind those before it, in a read that began in the state told. -/
def harmless (told : ConnectionState) (equipment : Equipment) (frame : Frame) : Bool :=
  let systemBytes := frame.header.systemBytes
  match frame.kind, equipment.state with
  | some .data, .selected =>
      if frame.header.function % 2 = 0 ∧ systemBytes ∈ equipment.table.transactions then
        equipment.spares true systemBytes
      else
        (frame.header.function % 2 ≠ 0 ||
          systemBytes ∉ equipment.table.issued equipment.config.maxOpenTransactions
            equipment.gemConfig.deviceId equipment.outgoing) &&
          equipment.defers frame
  -- The service does not learn of a state that is again the one it was told.
  | some .selectReq, .notSelected =>
      equipment.outgoing.isEmpty && (told ≠ .selected || equipment.silent)
  | some .deselectReq, .selected =>
      equipment.outgoing.isEmpty && (told ≠ .notSelected || equipment.silent)
  | some .rejectReq, .selected => equipment.spares false systemBytes
  | some .separateReq, _ => false
  | _, _ => true

/-! ## Settling -/

variable {equipment : Equipment} {told : ConnectionState} {frame : Frame}

theorem settle_of_idle (idle : equipment.tasks = []) : equipment.settle = some equipment := by
  obtain ⟨config, gemConfig, state, comm, preferred, api, tasks, table⟩ := equipment
  dsimp only at idle
  subst idle
  unfold settle outgoing
  split <;> simp [requests, raised, requestsOf, raisedBy]

theorem settle_outside (outside : equipment.state ≠ .selected) :
    equipment.settle = some { equipment with tasks := [] } :=
  if_neg outside

theorem settle_selected (isSelected : equipment.state = .selected) :
    equipment.settle =
      (equipment.table.sendAll equipment.config.maxOpenTransactions equipment.gemConfig.deviceId
        equipment.outgoing).map fun table => { equipment with table := table, tasks := [] } :=
  if_pos isSelected

theorem settle_of_nothing (nothing : equipment.outgoing = []) :
    equipment.settle = some { equipment with tasks := [] } := by
  unfold settle
  split
  · rw [nothing]
    rfl
  · rfl

@[simp]
theorem notified_self : equipment.notified equipment.state = equipment :=
  if_neg (not_lost_self _)

/-- A selected link is no loss. -/
theorem notified_selected (isSelected : equipment.state = .selected) :
    equipment.notified told = equipment :=
  if_neg fun loss => loss.2 isSelected

theorem silent_iff :
    equipment.silent = true ↔
      equipment.comm = .notCommunicating ∧ equipment.table.openRequests = ∅ := by
  simp [silent]

/-- Where there is nothing to end, a loss changes nothing. -/
theorem notified_silent (silent : equipment.silent = true) :
    equipment.notified told = equipment := by
  obtain ⟨comm, requests⟩ := silent_iff.mp silent
  obtain ⟨config, gemConfig, state, was, preferred, api, tasks, transactions, opened, next⟩ :=
    equipment
  dsimp only at comm requests
  subst comm requests
  unfold notified
  split <;> rfl

/-! ## One frame behind others -/

/-- The session is connected, and so it was when the read began. -/
def Connected (told : ConnectionState) (equipment : Equipment) : Prop :=
  told ≠ .notConnected ∧ equipment.state ≠ .notConnected

theorem connected_absorb (connected : equipment.Connected told)
    (may : harmless told equipment frame = true) : (equipment.absorb frame).Connected told := by
  refine ⟨connected.1, ?_⟩
  unfold absorb
  unfold harmless at may
  dsimp only
  split
  · split
    · exact connected.2
    · exact connected.2
  · simp
  · simp
  · exact connected.2
  next isSeparate => simp [isSeparate] at may
  · exact connected.2

theorem settle_eq_some {settled : Equipment} (done : equipment.settle = some settled) :
    settled.state = equipment.state ∧ settled.tasks = [] := by
  unfold settle at done
  split at done
  · obtain ⟨table, _, rfl⟩ := Option.map_eq_some_iff.mp done
    exact ⟨rfl, rfl⟩
  · obtain rfl := Option.some.inj done
    exact ⟨rfl, rfl⟩

@[simp]
theorem notified_state : (equipment.notified told).state = equipment.state := by
  unfold notified
  split <;> rfl

/-- A frame that keeps the state and posts nothing does what it does, and no more. -/
theorem receive_of_absorb {next : Equipment} (idle : next.tasks = [])
    (state : next.state = equipment.state) (absorbed : equipment.absorb frame = next) :
    equipment.receive frame = some next := by
  rw [receive, absorbed, ← state, notified_self, settle_of_idle idle]

theorem commutes_of_quiet
    (quiet : ∀ other : Equipment, other.state = equipment.state → other.absorb frame = other) :
    ((equipment.absorb frame).notified told).settle =
      ((equipment.notified told).settle).bind (receive · frame) := by
  rw [quiet equipment rfl]
  cases done : (equipment.notified told).settle with
  | none => rfl
  | some settled =>
      obtain ⟨state, idle⟩ := settle_eq_some done
      rw [notified_state] at state
      exact (receive_of_absorb idle rfl (quiet settled state)).symm

/-- The end of a transaction that the requests that wait are spared. -/
theorem sendAll_spared {answered : Bool} {systemBytes : UInt32}
    (spared : equipment.spares answered systemBytes = true) :
    (equipment.table.close answered systemBytes).sendAll equipment.config.maxOpenTransactions
        equipment.gemConfig.deviceId equipment.outgoing =
      (equipment.table.sendAll equipment.config.maxOpenTransactions
        equipment.gemConfig.deviceId equipment.outgoing).map
          (RequestTable.close · answered systemBytes) := by
  simp only [spares, Bool.or_eq_true, Bool.and_eq_true, List.isEmpty_iff, decide_eq_true_eq]
    at spared
  rcases spared with nothing | ⟨unissued, room⟩
  · rw [nothing]
    rfl
  · refine RequestTable.sendAll_close (fun member => ?_) unissued
    exact room.resolve_left (not_not.mpr member)

/-- A frame that only ends a transaction. -/
theorem commutes_of_close {answered : Bool} (isSelected : equipment.state = .selected)
    (spared : equipment.spares answered frame.header.systemBytes = true)
    (closes : ∀ table, (frame.header.systemBytes ∈ equipment.table.transactions →
        frame.header.systemBytes ∈ table.transactions) →
      ∀ tasks, absorb { equipment with table := table, tasks := tasks } frame =
        { equipment with
          table := table.close answered frame.header.systemBytes, tasks := tasks }) :
    ((equipment.absorb frame).notified told).settle =
      ((equipment.notified told).settle).bind (receive · frame) := by
  have absorbed := closes equipment.table id equipment.tasks
  have after : (equipment.absorb frame).state = .selected := by rw [absorbed]; exact isSelected
  rw [notified_selected after, notified_selected isSelected, settle_selected after,
    settle_selected isSelected, absorbed]
  change ((equipment.table.close answered frame.header.systemBytes).sendAll
    equipment.config.maxOpenTransactions equipment.gemConfig.deviceId equipment.outgoing).map _ = _
  rw [sendAll_spared spared]
  cases sent : equipment.table.sendAll equipment.config.maxOpenTransactions
      equipment.gemConfig.deviceId equipment.outgoing with
  | none => rfl
  | some table =>
      have kept := closes table (RequestTable.mem_sendAll_of_mem sent) []
      refine (receive_of_absorb ?_ ?_ kept).symm <;> rfl

/-! ## Deliveries -/

theorem establishes_of_fault {config : GemConfig} (refused : (fault config frame).isSome) :
    establishes config frame = false := by
  unfold fault at refused
  unfold establishes
  by_cases device : frame.header.sessionId = config.deviceId
  · by_cases short : frame.body.length ≤ config.maxBodyBytes
    · rw [if_neg (not_not.mpr device), if_neg (by omega)] at refused
      cases parsed : Hsms.toMessage frame with
      | error reason => simp
      | ok message =>
          rw [parsed] at refused
          cases checked : Handler.equipmentFactory.check message with
          | ok => simp [checked] at refused
          | _ => simp [checked]
    · simp [short]
  · simp [device]

/-- A message that is not refused posts no request. -/
theorem requestsOf_react {config : SessionConfig} {gem : GemConfig} {preferred : ControlMode}
    {api : MachineApi} (fine : fault gem frame = none) :
    requestsOf config (react gem preferred api frame).2 = [] := by
  have none : (react gem preferred api frame).2.filterMap Task.message = [] := by
    refine List.filterMap_eq_nil_iff.mpr fun task posted => ?_
    obtain ⟨event, same⟩ := ofEvent_of_mem_react fine posted
    cases event <;> cases same <;> rfl
  rw [requestsOf, none]
  rfl

/-- What is posted for a message is sent behind all that waits. -/
theorem outgoing_deliver (last : equipment.defers frame = true) :
    (equipment.deliver frame).outgoing =
      equipment.outgoing ++ (deliver { equipment with tasks := [] } frame).outgoing := by
  unfold defers at last
  simp only [outgoing, requests, raised, deliver, requestsOf_append, raisedBy_append,
    List.nil_append]
  cases refused : fault equipment.gemConfig frame with
  | some function =>
      have silent := establishes_of_fault (by rw [refused]; rfl : (fault equipment.gemConfig
        frame).isSome)
      have raises : raisedBy equipment.config equipment.gemConfig
          (react equipment.gemConfig equipment.preferred equipment.api frame).2 = [] := by
        rw [react, refused]
        rfl
      rw [refused] at last
      simp only [Option.isSome_some, if_true, raised, Bool.or_eq_true, decide_eq_true_eq,
        List.isEmpty_iff] at last
      rw [silent, raises]
      simp only [Bool.false_eq_true, if_false, List.append_nil, ite_self]
      split
      next talks => rw [last.resolve_left (not_not.mpr talks), List.append_nil, List.append_nil]
      · rw [List.append_nil, List.append_nil]
  | none =>
      rw [refused] at last
      simp only [Option.isSome_none, Bool.false_eq_true, if_false, raised, Bool.or_eq_true,
        decide_eq_true_eq, List.isEmpty_iff, Bool.not_eq_true'] at last
      rw [requestsOf_react refused, List.append_nil, List.nil_append, List.append_assoc]
      congr 1
      by_cases establish : establishes equipment.gemConfig frame = true
      · rw [if_pos establish, if_pos rfl, if_pos rfl]
        rcases last with (silent | talks) | nothing
        · rw [establish] at silent
          cases silent
        · rw [if_pos talks]
        · rw [nothing, ite_self]
      · rw [if_neg establish]
        split
        · rfl
        · rfl

theorem commutes_of_deliver (isData : frame.kind = some .data)
    (isSelected : equipment.state = .selected)
    (unmatched : ¬ (frame.header.function % 2 = 0 ∧
      frame.header.systemBytes ∈ equipment.table.transactions))
    (unissued : frame.header.function % 2 ≠ 0 ∨
      frame.header.systemBytes ∉ equipment.table.issued equipment.config.maxOpenTransactions
        equipment.gemConfig.deviceId equipment.outgoing)
    (last : equipment.defers frame = true) :
    ((equipment.absorb frame).notified told).settle =
      ((equipment.notified told).settle).bind (receive · frame) := by
  have delivered (table : RequestTable) (tasks : List Task)
      (stray : ¬ (frame.header.function % 2 = 0 ∧
        frame.header.systemBytes ∈ table.transactions)) :
      absorb { equipment with table := table, tasks := tasks } frame =
        deliver { equipment with table := table, tasks := tasks } frame := by
    simp only [absorb, isData, isSelected]
    exact if_neg stray
  have absorbed := delivered equipment.table equipment.tasks unmatched
  have after : (equipment.absorb frame).state = .selected := by rw [absorbed]; exact isSelected
  rw [notified_selected after, notified_selected isSelected, settle_selected after,
    settle_selected isSelected, absorbed]
  change (equipment.table.sendAll equipment.config.maxOpenTransactions
    equipment.gemConfig.deviceId (equipment.deliver frame).outgoing).map _ = _
  rw [outgoing_deliver last, RequestTable.sendAll_append]
  cases sent : equipment.table.sendAll equipment.config.maxOpenTransactions
      equipment.gemConfig.deviceId equipment.outgoing with
  | none => rfl
  | some table =>
      have stray : ¬ (frame.header.function % 2 = 0 ∧
          frame.header.systemBytes ∈ table.transactions) := by
        rintro ⟨even, member⟩
        rw [RequestTable.mem_of_sendAll sent (unissued.resolve_left (not_not.mpr even))] at member
        exact unmatched ⟨even, member⟩
      simp only [Option.bind_some, Option.map_some]
      have still : (deliver { equipment with table := table, tasks := [] } frame).state =
          .selected := isSelected
      rw [receive, delivered table [] stray, notified_selected still, settle_selected still]
      rfl

/-! ## Changes of the link -/

theorem commutes_of_select (isSelect : frame.kind = some .selectReq)
    (before : equipment.state = .notSelected) (began : told ≠ .notConnected)
    (nothing : equipment.outgoing = [])
    (shown : told ≠ .selected ∨ equipment.silent = true) :
    ((equipment.absorb frame).notified told).settle =
      ((equipment.notified told).settle).bind (receive · frame) := by
  have selects (tasks : List Task) : absorb { equipment with tasks := tasks } frame =
      { equipment with state := .selected, tasks := tasks } := by
    simp only [absorb, isSelect, before]
  have unchanged : equipment.notified told = equipment := by
    cases told with
    | notConnected => exact absurd rfl began
    | notSelected =>
        rw [← before]
        exact notified_self
    | selected => exact notified_silent (shown.resolve_left (not_not.mpr rfl))
  have absorbed : equipment.absorb frame = { equipment with state := .selected } :=
    selects equipment.tasks
  have alone : receive { equipment with tasks := [] } frame =
      some { equipment with state := .selected, tasks := [] } := by
    rw [receive, selects, notified_selected rfl, settle_of_idle rfl]
  rw [unchanged, settle_of_nothing nothing, Option.bind_some, alone, absorbed,
    notified_selected rfl]
  exact settle_of_nothing nothing

theorem commutes_of_deselect (isDeselect : frame.kind = some .deselectReq)
    (before : equipment.state = .selected) (began : told ≠ .notConnected)
    (nothing : equipment.outgoing = [])
    (shown : told ≠ .notSelected ∨ equipment.silent = true) :
    ((equipment.absorb frame).notified told).settle =
      ((equipment.notified told).settle).bind (receive · frame) := by
  have deselects (tasks : List Task) : absorb { equipment with tasks := tasks } frame =
      { equipment with
        state := .notSelected, tasks := tasks
        table := { equipment.table with transactions := ∅ } } := by
    simp only [absorb, isDeselect, before]
  have absorbed : equipment.absorb frame =
      { equipment with
        state := .notSelected, table := { equipment.table with transactions := ∅ } } :=
    deselects equipment.tasks
  have ends : lost .selected .notSelected := by decide
  have alone : receive { equipment with tasks := [] } frame =
      some { equipment with
        state := .notSelected, comm := .notCommunicating, tasks := []
        table := ⟨∅, ∅, equipment.table.nextSystemBytes⟩ } := by
    rw [receive, deselects]
    simp only [notified, before, ends, if_true]
    exact settle_of_idle rfl
  rw [notified_selected before, settle_of_nothing nothing, Option.bind_some, alone, absorbed]
  cases told with
  | notConnected => exact absurd rfl began
  | selected =>
      simp only [notified, ends, if_true]
      exact settle_outside (by simp)
  | notSelected =>
      obtain ⟨comm, requests⟩ := silent_iff.mp (shown.resolve_left (not_not.mpr rfl))
      rw [notified, if_neg (not_lost_self _), settle_outside (by simp)]
      simp only [comm, requests]

/-- A Reject.req outside the selected state, where nothing is sent. -/
theorem commutes_of_reject_outside (isReject : frame.kind = some .rejectReq)
    (outside : equipment.state ≠ .selected) :
    ((equipment.absorb frame).notified told).settle =
      ((equipment.notified told).settle).bind (receive · frame) := by
  have closes (other : Equipment) : other.absorb frame =
      { other with table := other.table.close false frame.header.systemBytes } := by
    simp only [absorb, isReject]
  have swaps : (equipment.absorb frame).notified told =
      (equipment.notified told).absorb frame := by
    rw [closes, closes]
    unfold notified
    split <;> rfl
  have idle : ((equipment.notified told).absorb frame).state ≠ .selected := by
    rw [closes]
    exact fun isSelected => outside (notified_state.symm.trans isSelected)
  rw [swaps, settle_outside idle, settle_outside (by rwa [notified_state]), Option.bind_some,
    closes]
  have alone := closes { equipment.notified told with tasks := [] }
  refine (receive_of_absorb ?_ ?_ alone).symm <;> rfl

/-- A harmless frame: settling after it is settling before it and receiving it alone. -/
theorem settle_absorb (connected : equipment.Connected told)
    (may : harmless told equipment frame = true) :
    ((equipment.absorb frame).notified told).settle =
      ((equipment.notified told).settle).bind (receive · frame) := by
  obtain ⟨began, alive⟩ := connected
  unfold harmless at may
  dsimp only at may
  split at may
  next isData isSelected =>
    split at may
    next answers =>
      refine commutes_of_close isSelected may fun table kept tasks => ?_
      simp only [absorb, isData, isSelected]
      exact if_pos ⟨answers.1, kept answers.2⟩
    next unmatched =>
      simp only [Bool.and_eq_true, Bool.or_eq_true, decide_eq_true_eq] at may
      exact commutes_of_deliver isData isSelected unmatched may.1 may.2
  next isSelect before =>
    simp only [Bool.and_eq_true, Bool.or_eq_true, decide_eq_true_eq, List.isEmpty_iff] at may
    exact commutes_of_select isSelect before began may.1 may.2
  next isDeselect before =>
    simp only [Bool.and_eq_true, Bool.or_eq_true, decide_eq_true_eq, List.isEmpty_iff] at may
    exact commutes_of_deselect isDeselect before began may.1 may.2
  next isReject isSelected =>
    refine commutes_of_close isSelected may fun table kept tasks => ?_
    simp only [absorb, isReject]
  · cases may
  next notSeparate notData notSelect notDeselect notReject =>
    by_cases isReject : frame.kind = some .rejectReq
    · exact commutes_of_reject_outside isReject (notReject isReject)
    · refine commutes_of_quiet fun other same => ?_
      rw [← same] at notData notSelect notDeselect
      unfold absorb
      split
      next isData isSelected => exact (notData isData isSelected).elim
      next isSelect before => exact (notSelect isSelect before).elim
      next isDeselect isSelected => exact (notDeselect isDeselect isSelected).elim
      next found => exact absurd found isReject
      next isSeparate => exact (notSeparate isSeparate).elim
      · rfl

/-- A read of harmless frames ends as if each of them had come in a read of its own. -/
theorem settle_read {frames : List Frame} (alive : equipment.state ≠ .notConnected)
    (idle : equipment.tasks = [])
    (orderly : along absorb (harmless equipment.state) equipment frames = true) :
    ((frames.foldl absorb equipment).notified equipment.state).settle =
      run receive equipment frames := by
  have batch := settle_batch (fun last => (last.notified equipment.state).settle) receive
    (Connected equipment.state)
    (fun _ _ connected may => connected_absorb connected may)
    (fun _ _ connected may => settle_absorb connected may) ⟨alive, alive⟩ orderly
  rwa [notified_self, settle_of_idle idle, Option.bind_some] at batch

end Equipment

end Ssim.Gem
