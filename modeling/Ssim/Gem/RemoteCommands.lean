import Ssim.Core.ControllerSteps
import Ssim.Gem.HostMessages

/-!
# Remote commands

S2F41 names a command and its parameters.  Every parameter is acknowledged; the
command is given to the machine if all of them are accepted, and at most once.  A
wafer id that passes is a name of 1 to 32 plain characters, and it is the only
parameter of its START.
-/

namespace Ssim.Gem

open Ssim.Core (Error Result Text CommandPayload ControlMode ProcessState Controller MachineApi)
open Hsms (Frame)
open Secs2 (Item Message)

/-! ## Wafer ids -/

/-- Letters, digits, underscore and hyphen. -/
def waferCharacters : Text :=
  .ofString "ABCDEFGHIJKLMNOPQRSTUVWXYZabcdefghijklmnopqrstuvwxyz0123456789_-"

/-- What may become the name of a directory. -/
structure IsWaferId (id : Text) : Prop where
  nonempty : 1 ≤ id.length
  short : id.length ≤ 32
  plain : ∀ byte ∈ id, byte ∈ waferCharacters

/-- The ranges of the check have no other characters. -/
theorem mem_waferCharacters {byte : UInt8}
    (inRange : ((65 ≤ byte && byte ≤ 90) || (97 ≤ byte && byte ≤ 122) ||
      (48 ≤ byte && byte ≤ 57) || byte = 95 || byte = 45) = true) : byte ∈ waferCharacters := by
  have all : ∀ value < 256, (65 ≤ value ∧ value ≤ 90) ∨ (97 ≤ value ∧ value ≤ 122) ∨
      (48 ≤ value ∧ value ≤ 57) ∨ value = 95 ∨ value = 45 →
        value ∈ waferCharacters.map UInt8.toNat := by
    decide +kernel
  have within : byte.toNat ∈ waferCharacters.map UInt8.toNat := by
    refine all byte.toNat byte.toNat_lt ?_
    simpa [UInt8.le_iff_toNat_le, ← UInt8.toNat_inj, or_assoc] using inRange
  obtain ⟨other, member, same⟩ := List.mem_map.mp within
  exact UInt8.toNat_inj.mp same ▸ member

theorem isWaferId_of_valid {id : Text} (valid : validWaferId id = true) : IsWaferId id := by
  unfold validWaferId at valid
  rw [Bool.and_eq_true, Bool.and_eq_true, List.all_eq_true] at valid
  obtain ⟨⟨nonempty, short⟩, plain⟩ := valid
  refine ⟨?_, of_decide_eq_true short, fun byte member => mem_waferCharacters (plain byte member)⟩
  cases id with
  | nil => cases nonempty
  | cons => exact Nat.le_add_left _ _

/-! ## Parameters -/

namespace Handler

/-- Everything that the loop does with one parameter. -/
inductive Takes (rcmd : Text) (scan : ParamScan) : CommandParam → ParamScan → Prop where
  | refused (param : CommandParam) (cpack : UInt8) (bad : cpack ≠ kCpackOk) :
      Takes rcmd scan param (scan.refuse param.name cpack)
  | wafer (id : Text) (start : rcmd = kStart) (first : scan.waferId = none)
      (valid : validWaferId id = true) :
      Takes rcmd scan ⟨kWaferId, .ascii id⟩
        { scan with acks := scan.acks ++ [⟨kWaferId, kCpackOk⟩], waferId := some id }
  | alarm (param : CommandParam) (other : rcmd ≠ kStart) :
      Takes rcmd scan param { scan with acks := scan.acks ++ [⟨param.name, kCpackOk⟩] }

theorem takes_scanParam (rcmd : Text) (scan : ParamScan) (param : CommandParam) :
    Takes rcmd scan param (scanParam rcmd scan param) := by
  unfold scanParam
  split
  next named =>
    split
    · exact .refused param _ (by decide)
    next first =>
      split
      next id value =>
        split
        next valid =>
          obtain ⟨name, item⟩ := param
          obtain ⟨start, rfl⟩ := named
          dsimp only at value
          subst value
          exact .wafer id start (by simpa using first) valid
        · exact .refused param _ (by decide)
      · exact .refused param _ (by decide)
  · split
    · exact .refused param _ (by decide)
    · split
      next named =>
        have other : rcmd ≠ kStart := by
          rw [named.1]
          decide
        split
        · exact .refused param _ (by decide)
        · split
          · exact .alarm param other
          · exact .refused param _ (by decide)
      · exact .refused param _ (by decide)

/-- What the loop has found in the parameters so far. -/
structure Found (rcmd : Text) (params : List CommandParam) (scan : ParamScan) : Prop where
  names : scan.acks.map ParamAck.name = params.map CommandParam.name
  ok : scan.paramsOk = true ↔ ∀ ack ∈ scan.acks, ack.cpack = kCpackOk
  wafer : rcmd = kStart →
    (scan.waferId.isSome = true ↔
      ∃ ack ∈ scan.acks, ack.name = kWaferId ∧ ack.cpack = kCpackOk)
  single : rcmd = kStart → scan.paramsOk = true →
    (scan.waferId = none ∧ params = []) ∨
      ∃ id, scan.waferId = some id ∧ params = [⟨kWaferId, .ascii id⟩] ∧ validWaferId id = true

theorem found_nil (rcmd : Text) : Found rcmd [] {} where
  names := rfl
  ok := ⟨fun _ => nofun, fun _ => rfl⟩
  wafer := fun _ => ⟨nofun, nofun⟩
  single := fun _ _ => .inl ⟨rfl, rfl⟩

theorem Found.concat {rcmd : Text} {params : List CommandParam} {scan next : ParamScan}
    {param : CommandParam} (found : Found rcmd params scan) (takes : Takes rcmd scan param next) :
    Found rcmd (params ++ [param]) next := by
  cases takes with
  | refused _ cpack bad =>
      refine ⟨?_, ?_, ?_, ?_⟩
      · simp [ParamScan.refuse, found.names]
      · simp [ParamScan.refuse, bad]
      · intro start
        rw [show (scan.refuse param.name cpack).waferId = scan.waferId from rfl, found.wafer start]
        simp [ParamScan.refuse, bad]
      · intro _ fine
        cases fine
  | wafer id start first valid =>
      refine ⟨?_, ?_, ?_, ?_⟩
      · simp [found.names]
      · rw [List.forall_mem_append, List.forall_mem_singleton, and_iff_left rfl]
        exact found.ok
      · simp
      · intro _ fine
        rcases found.single start fine with ⟨_, rfl⟩ | ⟨other, given, _⟩
        · exact .inr ⟨id, rfl, rfl, valid⟩
        · rw [first] at given
          cases given
  | alarm _ other =>
      refine ⟨?_, ?_, ?_, ?_⟩
      · simp [found.names]
      · rw [List.forall_mem_append, List.forall_mem_singleton, and_iff_left rfl]
        exact found.ok
      · intro start
        exact absurd start other
      · intro start
        exact absurd start other

theorem found_scan (rcmd : Text) (params : List CommandParam) :
    Found rcmd params (params.foldl (scanParam rcmd) {}) := by
  induction params using List.reverseRecOn with
  | nil => exact found_nil rcmd
  | append_singleton params param ih =>
      rw [List.foldl_append]
      exact ih.concat (takes_scanParam rcmd _ param)

/-- The test that follows the loop, in terms of the acknowledgements. -/
theorem Found.invalid_iff {rcmd : Text} {params : List CommandParam} {scan : ParamScan}
    (found : Found rcmd params scan) :
    (!scan.paramsOk ∨ (rcmd = kStart ∧ scan.waferId.isNone)) ↔
      (∃ ack ∈ scan.acks, ack.cpack ≠ 0) ∨
        (rcmd = kStart ∧ ¬ ∃ ack ∈ scan.acks, ack.name = kWaferId ∧ ack.cpack = 0) := by
  refine or_congr ?_ (and_congr_right fun start => ?_)
  · rw [Bool.not_eq_true', ← Bool.not_eq_true, found.ok]
    simp [kCpackOk]
  · rw [← Option.not_isSome, Bool.not_eq_true', ← Bool.not_eq_true, found.wafer start]
    rfl

/-- A START that passes the test has its wafer for its only parameter. -/
theorem Found.start {rcmd : Text} {params : List CommandParam} {scan : ParamScan}
    (found : Found rcmd params scan) (start : rcmd = kStart)
    (fine : ¬ (!scan.paramsOk ∨ (rcmd = kStart ∧ scan.waferId.isNone))) :
    params = [⟨kWaferId, .ascii (scan.waferId.getD [])⟩] ∧ IsWaferId (scan.waferId.getD []) := by
  obtain ⟨ok, given⟩ := not_or.mp fine
  rcases found.single start (by simpa using ok) with ⟨missing, _⟩ | ⟨id, found, only, valid⟩
  · exact absurd ⟨start, by simp [missing]⟩ given
  · rw [found]
    exact ⟨only, isWaferId_of_valid valid⟩

/-! ## Calls of the machine -/

/-- `execute_command` with the machine left open: what takes a command and answers it. -/
def executeCommandWith {State : Type}
    (submit : CommandPayload → State → Result ProcessState × State) (mode : ControlMode)
    (command : RemoteCommand) (state : State) : UInt8 × List ParamAck × State :=
  let rcmd := command.rcmd
  if rcmd ≠ kStart ∧ rcmd ≠ kStop ∧ rcmd ≠ kAbort ∧ rcmd ≠ kClearAlarm then
    (kHcackUnknownCommand, [], state)
  else if mode ≠ .onlineRemote then
    (kHcackCannotPerformNow, [], state)
  else
    let scan := command.params.foldl (scanParam rcmd) {}
    if !scan.paramsOk ∨ (rcmd = kStart ∧ scan.waferId.isNone) then
      (kHcackInvalidParameter, scan.acks, state)
    else
      match submit (commandPayload rcmd scan.waferId) state with
      | (.error _, state) => (kHcackCannotPerformNow, scan.acks, state)
      | (.ok _, state) =>
          (if rcmd = kStart then kHcackAcceptedLater else kHcackDone, scan.acks, state)

theorem executeCommand_eq_with (handler : Handler) (command : RemoteCommand) :
    handler.executeCommand command =
      executeCommandWith (fun payload handler => submit handler payload)
        handler.api.snapshot.controlMode command handler := by
  unfold executeCommand executeCommandWith
  dsimp only
  split
  · rfl
  · split
    · rfl
    · split
      · rfl
      · generalize handler.submit _ = answer
        obtain ⟨result, after⟩ := answer
        cases result <;> rfl

/-- A command is submitted, and the call is written down. -/
def submitRecorded (payload : CommandPayload) (state : Handler × List CommandPayload) :
    Result ProcessState × Handler × List CommandPayload :=
  ((state.1.submit payload).1, (state.1.submit payload).2, state.2 ++ [payload])

/-- HCACK, the CPACKs, the handler after the command and the calls of the machine. -/
def executeRecorded (handler : Handler) (command : RemoteCommand) :
    UInt8 × List ParamAck × Handler × List CommandPayload :=
  executeCommandWith submitRecorded handler.api.snapshot.controlMode command (handler, [])

/-- What is seen of the machine runs as the machine does. -/
theorem executeCommandWith_map {First Second : Type}
    (first : CommandPayload → First → Result ProcessState × First)
    (second : CommandPayload → Second → Result ProcessState × Second) (view : First → Second)
    (same : ∀ payload state,
      second payload (view state) = ((first payload state).1, view (first payload state).2))
    (mode : ControlMode) (command : RemoteCommand) (state : First) :
    executeCommandWith second mode command (view state) =
      ((executeCommandWith first mode command state).1,
        (executeCommandWith first mode command state).2.1,
        view (executeCommandWith first mode command state).2.2) := by
  unfold executeCommandWith
  dsimp only
  split
  · rfl
  · split
    · rfl
    · split
      · rfl
      · rw [same]
        generalize first _ state = answer
        obtain ⟨result, after⟩ := answer
        cases result <;> rfl

/-- Writing down the calls changes nothing else. -/
theorem executeCommand_of_recorded {handler next : Handler} {command : RemoteCommand}
    {hcack : UInt8} {acks : List ParamAck} {calls : List CommandPayload}
    (recorded : handler.executeRecorded command = (hcack, acks, next, calls)) :
    handler.executeCommand command = (hcack, acks, next) := by
  have seen := executeCommandWith_map submitRecorded
    (fun payload handler => submit handler payload) Prod.fst (fun _ _ => rfl)
    handler.api.snapshot.controlMode command (handler, [])
  rw [show executeCommandWith submitRecorded _ command (handler, []) = _ from recorded] at seen
  rw [executeCommand_eq_with]
  exact seen

/-- A command that the machine rejects leaves it as it was. -/
theorem submit_rejected {handler : Handler} {payload : CommandPayload} {reason : Error}
    (rejected : (handler.submit payload).1 = .error reason) :
    (handler.submit payload).2 = handler ∧
      (handler.api.controller.handleCommand ⟨payload, kHost⟩).effects = [] := by
  have answered := handler.api.controller.runClosure_toBool (.command ⟨payload, kHost⟩)
  rw [show (handler.api.controller.runClosure (.command ⟨payload, kHost⟩)).result = .error reason
    from rejected] at answered
  obtain ⟨same, silent⟩ := handler.api.controller.runClosure_of_refused answered.symm
  have same : (handler.api.controller.handleCommand ⟨payload, kHost⟩).next =
      handler.api.controller := same
  have silent : (handler.api.controller.handleCommand ⟨payload, kHost⟩).effects = [] := silent
  refine ⟨?_, silent⟩
  unfold submit MachineApi.submit
  simp [same, silent, MachineApi.published]

/-! ## Execution -/

/-- The commands that are known. -/
def remoteCommands : List Text :=
  [kStart, kStop, kAbort, kClearAlarm]

/-- The call of the machine for a command. -/
inductive Matches : Text → CommandPayload → Prop where
  | start (waferId : Text) : Matches kStart (.start waferId 1)
  | stop : Matches kStop .stop
  | abort : Matches kAbort .abort
  | clearAlarm : Matches kClearAlarm .clearAlarm

theorem matches_commandPayload {rcmd : Text} (known : rcmd ∈ remoteCommands)
    (waferId : Option Text) : Matches rcmd (commandPayload rcmd waferId) := by
  simp only [remoteCommands, List.mem_cons, List.not_mem_nil, or_false] at known
  rcases known with rfl | rfl | rfl | rfl
  · exact .start _
  · exact .stop
  · exact .abort
  · exact .clearAlarm

/-- Only START starts a wafer: the one that the parameters name. -/
theorem eq_of_commandPayload_start {rcmd waferId : Text} {given : Option Text} {slot : Int}
    (known : rcmd ∈ remoteCommands) (start : commandPayload rcmd given = .start waferId slot) :
    rcmd = kStart ∧ given.getD [] = waferId := by
  have found := matches_commandPayload known given
  rw [start] at found
  cases found with
  | start => exact ⟨rfl, (CommandPayload.start.inj start).1⟩

/--
What is to be said of an S2F41, with the machine that it finds, the HCACK and the
CPACKs of its S2F42, the machine after it and the calls of the machine.
-/
structure Executes (handler : Handler) (command : RemoteCommand) (hcack : UInt8)
    (acks : List ParamAck) (next : Handler) (calls : List CommandPayload) : Prop where
  replied : ∀ frame message, parseS2f41 message = .ok command →
    handler.handleRemoteCommand frame message = next.reply frame (makeS2f42 hcack acks)
  unknown : hcack = 1 ↔ command.rcmd ∉ remoteCommands
  notRemote : command.rcmd ∈ remoteCommands → handler.api.controller.controlMode ≠ .onlineRemote →
    hcack = 2 ∧ acks = []
  names : command.rcmd ∈ remoteCommands → handler.api.controller.controlMode = .onlineRemote →
    acks.map ParamAck.name = command.params.map CommandParam.name
  invalid : command.rcmd ∈ remoteCommands → handler.api.controller.controlMode = .onlineRemote →
    (hcack = 3 ↔ (∃ ack ∈ acks, ack.cpack ≠ 0) ∨
      (command.rcmd = kStart ∧ ¬ ∃ ack ∈ acks, ack.name = kWaferId ∧ ack.cpack = 0))
  once : command.rcmd ∈ remoteCommands → handler.api.controller.controlMode = .onlineRemote →
    hcack ≠ 3 → ∃ payload, calls = [payload] ∧ Matches command.rcmd payload
  never : command.rcmd ∉ remoteCommands ∨ handler.api.controller.controlMode ≠ .onlineRemote ∨
    hcack = 3 → calls = []
  started : ∀ waferId slot, .start waferId slot ∈ calls →
    command.rcmd = kStart ∧ command.params = [⟨kWaferId, .ascii waferId⟩] ∧ IsWaferId waferId
  unchanged : hcack ≠ 0 → hcack ≠ 4 → next = handler ∧ ∀ payload ∈ calls,
    (handler.api.controller.handleCommand ⟨payload, kHost⟩).effects = []

theorem replied_of_recorded {handler next : Handler} {command : RemoteCommand} {hcack : UInt8}
    {acks : List ParamAck} {calls : List CommandPayload}
    (recorded : handler.executeRecorded command = (hcack, acks, next, calls)) (frame : Frame)
    (message : Message) (parsed : parseS2f41 message = .ok command) :
    handler.handleRemoteCommand frame message = next.reply frame (makeS2f42 hcack acks) := by
  unfold handleRemoteCommand
  rw [parsed]
  dsimp only
  rw [executeCommand_of_recorded recorded]

section Exits

variable {handler : Handler} {command : RemoteCommand}

theorem not_unknown_iff {rcmd : Text} :
    ¬ (rcmd ≠ kStart ∧ rcmd ≠ kStop ∧ rcmd ≠ kAbort ∧ rcmd ≠ kClearAlarm) ↔
      rcmd ∈ remoteCommands := by
  simp only [remoteCommands, List.mem_cons, List.not_mem_nil, or_false]
  tauto

theorem executes_unknown (unknown : command.rcmd ∉ remoteCommands) :
    handler.executeRecorded command = (1, [], handler, []) ∧
      handler.Executes command 1 [] handler [] := by
  have recorded : handler.executeRecorded command = (1, [], handler, []) :=
    if_pos (not_not.mp (mt not_unknown_iff.mp unknown))
  refine ⟨recorded, replied_of_recorded recorded, ⟨fun _ => unknown, fun _ => rfl⟩, ?_, ?_, ?_, ?_,
    fun _ => rfl, fun _ _ member => absurd member List.not_mem_nil,
    fun _ _ => ⟨rfl, fun _ member => absurd member List.not_mem_nil⟩⟩
  all_goals exact fun known => absurd known unknown

theorem executes_notRemote (known : command.rcmd ∈ remoteCommands)
    (other : handler.api.controller.controlMode ≠ .onlineRemote) :
    handler.executeRecorded command = (2, [], handler, []) ∧
      handler.Executes command 2 [] handler [] := by
  have recorded : handler.executeRecorded command = (2, [], handler, []) :=
    (if_neg (not_unknown_iff.mpr known)).trans (if_pos other)
  refine ⟨recorded, replied_of_recorded recorded,
    ⟨fun unknown => absurd unknown (by decide), fun unknown => absurd known unknown⟩,
    fun _ _ => ⟨rfl, rfl⟩, ?_, ?_, ?_, fun _ => rfl,
    fun _ _ member => absurd member List.not_mem_nil,
    fun _ _ => ⟨rfl, fun _ member => absurd member List.not_mem_nil⟩⟩
  all_goals exact fun _ remote => absurd remote other

theorem executeRecorded_remote (known : command.rcmd ∈ remoteCommands)
    (remote : handler.api.controller.controlMode = .onlineRemote) {scan : ParamScan}
    (scanned : command.params.foldl (scanParam command.rcmd) {} = scan) :
    handler.executeRecorded command =
      if !scan.paramsOk ∨ (command.rcmd = kStart ∧ scan.waferId.isNone) then
        (kHcackInvalidParameter, scan.acks, handler, [])
      else
        (match (handler.submit (commandPayload command.rcmd scan.waferId)).1 with
          | .error _ => kHcackCannotPerformNow
          | .ok _ => if command.rcmd = kStart then kHcackAcceptedLater else kHcackDone,
          scan.acks, (handler.submit (commandPayload command.rcmd scan.waferId)).2,
          [commandPayload command.rcmd scan.waferId]) := by
  subst scanned
  have mode : handler.api.snapshot.controlMode = .onlineRemote := remote
  unfold executeRecorded executeCommandWith
  dsimp only
  rw [if_neg (not_unknown_iff.mpr known), if_neg (not_not.mpr mode)]
  split
  · rfl
  · unfold submitRecorded
    generalize handler.submit _ = answer
    obtain ⟨result, next⟩ := answer
    cases result <;> rfl

theorem executes_invalid (known : command.rcmd ∈ remoteCommands)
    (remote : handler.api.controller.controlMode = .onlineRemote) {scan : ParamScan}
    (scanned : command.params.foldl (scanParam command.rcmd) {} = scan)
    (bad : !scan.paramsOk ∨ (command.rcmd = kStart ∧ scan.waferId.isNone)) :
    handler.executeRecorded command = (3, scan.acks, handler, []) ∧
      handler.Executes command 3 scan.acks handler [] := by
  have found := scanned ▸ found_scan command.rcmd command.params
  have recorded : handler.executeRecorded command = (3, scan.acks, handler, []) := by
    rw [executeRecorded_remote known remote scanned, if_pos bad]
    rfl
  refine ⟨recorded, replied_of_recorded recorded,
    ⟨fun unknown => absurd unknown (by decide), fun unknown => absurd known unknown⟩,
    fun _ other => absurd remote other, fun _ _ => found.names, fun _ _ => ?_,
    fun _ _ valid => absurd rfl valid, fun _ => rfl,
    fun _ _ member => absurd member List.not_mem_nil,
    fun _ _ => ⟨rfl, fun _ member => absurd member List.not_mem_nil⟩⟩
  exact ⟨fun _ => found.invalid_iff.mp bad, fun _ => rfl⟩

/-- The machine is called, and HCACK says what it has answered. -/
theorem executes_submitted (known : command.rcmd ∈ remoteCommands)
    (remote : handler.api.controller.controlMode = .onlineRemote) {scan : ParamScan}
    (scanned : command.params.foldl (scanParam command.rcmd) {} = scan)
    (fine : ¬ (!scan.paramsOk ∨ (command.rcmd = kStart ∧ scan.waferId.isNone))) :
    ∃ hcack, handler.executeRecorded command = (hcack, scan.acks,
        (handler.submit (commandPayload command.rcmd scan.waferId)).2,
        [commandPayload command.rcmd scan.waferId]) ∧
      handler.Executes command hcack scan.acks
        (handler.submit (commandPayload command.rcmd scan.waferId)).2
        [commandPayload command.rcmd scan.waferId] := by
  have found := scanned ▸ found_scan command.rcmd command.params
  have recorded (hcack : UInt8)
      (answer : (match (handler.submit (commandPayload command.rcmd scan.waferId)).1 with
        | .error _ => kHcackCannotPerformNow
        | .ok _ => if command.rcmd = kStart then kHcackAcceptedLater else kHcackDone) = hcack) :
      handler.executeRecorded command = (hcack, scan.acks,
        (handler.submit (commandPayload command.rcmd scan.waferId)).2,
        [commandPayload command.rcmd scan.waferId]) := by
    rw [executeRecorded_remote known remote scanned, if_neg fine, answer]
  -- What does not depend on the answer, as long as HCACK tells it from the other exits.
  have executes (hcack : UInt8) (named : hcack ≠ 1) (valid : hcack ≠ 3)
      (called : handler.executeRecorded command = (hcack, scan.acks,
        (handler.submit (commandPayload command.rcmd scan.waferId)).2,
        [commandPayload command.rcmd scan.waferId]))
      (unchanged : hcack ≠ 0 → hcack ≠ 4 →
        ∃ reason, (handler.submit (commandPayload command.rcmd scan.waferId)).1 = .error reason) :
      handler.Executes command hcack scan.acks
        (handler.submit (commandPayload command.rcmd scan.waferId)).2
        [commandPayload command.rcmd scan.waferId] := by
    refine ⟨replied_of_recorded called,
      ⟨fun unknown => absurd unknown named, fun unknown => absurd known unknown⟩,
      fun _ other => absurd remote other, fun _ _ => found.names, fun _ _ => ?_, fun _ _ _ => ?_,
      ?_, fun waferId slot member => ?_, fun notDone notLater => ?_⟩
    · exact ⟨fun invalid => absurd invalid valid,
        fun invalid => absurd (found.invalid_iff.mpr invalid) fine⟩
    · exact ⟨_, rfl, matches_commandPayload known _⟩
    · rintro (unknown | other | invalid)
      · exact absurd known unknown
      · exact absurd remote other
      · exact absurd invalid valid
    · obtain ⟨start, rfl⟩ := eq_of_commandPayload_start known (List.mem_singleton.mp member).symm
      obtain ⟨only, wafer⟩ := found.start start fine
      exact ⟨start, only, wafer⟩
    · obtain ⟨reason, rejected⟩ := unchanged notDone notLater
      obtain ⟨same, silent⟩ := submit_rejected rejected
      refine ⟨same, fun payload member => ?_⟩
      rw [List.mem_singleton.mp member]
      exact silent
  cases answer : (handler.submit (commandPayload command.rcmd scan.waferId)).1 with
  | error reason =>
      have called := recorded 2 (by rw [answer]; rfl)
      exact ⟨2, called, executes 2 (by decide) (by decide) called fun _ _ => ⟨reason, answer⟩⟩
  | ok state =>
      by_cases start : command.rcmd = kStart
      · have called := recorded 4 (by rw [answer]; exact if_pos start)
        exact ⟨4, called, executes 4 (by decide) (by decide) called
          fun _ notLater => absurd rfl notLater⟩
      · have called := recorded 0 (by rw [answer]; exact if_neg start)
        exact ⟨0, called, executes 0 (by decide) (by decide) called
          fun notDone _ => absurd rfl notDone⟩

end Exits

/--
HCACK 1 answers an unknown command and 2, without CPACKs, a command outside
Online-Remote.  In Online-Remote every parameter has its CPACK, HCACK is 3 exactly if
one of them is not 0 or a START has no wafer, and otherwise the machine is called
once, with the command of that name.  The wafer of a START is its only parameter, as
it was sent.  Unless HCACK is 0 or 4, nothing is changed and the driver is not called.
-/
theorem remote_command_executed (handler : Handler) (command : RemoteCommand) :
    ∃ hcack acks next calls,
      handler.executeRecorded command = (hcack, acks, next, calls) ∧
      handler.Executes command hcack acks next calls := by
  by_cases known : command.rcmd ∈ remoteCommands
  · by_cases remote : handler.api.controller.controlMode = .onlineRemote
    · generalize scanned : command.params.foldl (scanParam command.rcmd) {} = scan
      by_cases bad : !scan.paramsOk ∨ (command.rcmd = kStart ∧ scan.waferId.isNone)
      · exact ⟨3, scan.acks, handler, [], executes_invalid known remote scanned bad⟩
      · obtain ⟨hcack, executed⟩ := executes_submitted known remote scanned bad
        exact ⟨hcack, scan.acks, _, _, executed⟩
    · exact ⟨2, [], handler, [], executes_notRemote known remote⟩
  · exact ⟨1, [], handler, [], executes_unknown known⟩

end Handler

end Ssim.Gem
