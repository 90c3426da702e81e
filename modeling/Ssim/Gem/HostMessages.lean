import Ssim.Gem.Effects

/-!
# What a host message makes of the machine

A message of the host is refused with stream 9, or it is handed on; then at most
one command of the machine is submitted for it, and the events of that command
post their tasks.  Replies apart, this is all that a delivery does to the machine
and to the queue, and it depends on nothing but the configuration, the online
mode that the service prefers and the machine.
-/

namespace Ssim.Gem

open Ssim.Core (Error Result CommandPayload ControlMode MachineApi)
open Hsms (Frame Header Delivery TimePoint)
open Secs2 (Message)

/-! ## Work -/

def Task.isReply : Task → Bool
  | .reply _ _ => true
  | _ => false

/-- The tasks that are more than an answer to the host. -/
def work (tasks : List Task) : List Task :=
  tasks.filter fun task => !task.isReply

theorem work_append (first second : List Task) :
    work (first ++ second) = work first ++ work second :=
  List.filter_append _ _

theorem work_ofEvents (events : List Core.Event) :
    work (events.filterMap Task.ofEvent) = events.filterMap Task.ofEvent := by
  refine List.filter_eq_self.mpr fun task member => ?_
  obtain ⟨event, _, posted⟩ := List.mem_filterMap.mp member
  cases event <;> cases posted <;> rfl

namespace Handler

/-- The second handler has the machine and the work of the first. -/
structure SameWork (handler next : Handler) : Prop where
  api : next.api = handler.api
  work : Gem.work next.tasks = Gem.work handler.tasks

theorem SameWork.refl (handler : Handler) : handler.SameWork handler :=
  ⟨rfl, rfl⟩

theorem sameWork_reply (handler : Handler) (request : Frame) (message : Message) :
    handler.SameWork (handler.reply request message) := by
  unfold reply
  split
  · exact ⟨rfl, by simp [post, Gem.work, Task.isReply]⟩
  · exact .refl handler

/-- The handler after a command, if there is one to submit. -/
def submitted (handler : Handler) : Option CommandPayload → Handler
  | none => handler
  | some payload => (handler.submit payload).2

/-- The command of an S2F41 that passes every check. -/
def remotePayload (api : MachineApi) (command : RemoteCommand) : Option CommandPayload :=
  let rcmd := command.rcmd
  let scan := command.params.foldl (scanParam rcmd) {}
  if rcmd ≠ kStart ∧ rcmd ≠ kStop ∧ rcmd ≠ kAbort ∧ rcmd ≠ kClearAlarm then
    none
  else if api.snapshot.controlMode ≠ .onlineRemote then
    none
  else if !scan.paramsOk ∨ (rcmd = kStart ∧ scan.waferId.isNone) then
    none
  else
    some (commandPayload rcmd scan.waferId)

/-- The command that is submitted for a message. -/
def hostCommand (config : GemConfig) (preferred : ControlMode) (api : MachineApi)
    (message : Message) : Option CommandPayload :=
  if message.stream = 1 ∧ message.function = 15 then
    some (.setControlMode .offline)
  else if message.stream = 1 ∧ message.function = 17 then
    if config.allowHostOnline ∧ api.snapshot.controlMode = .offline then
      some (.setControlMode preferred)
    else
      none
  else if message.stream = 2 ∧ message.function = 41 then
    match parseS2f41 message with
    | .error _ => none
    | .ok command => remotePayload api command
  else
    none

variable (handler : Handler)

theorem sameWork_handleStatusRequest (now : TimePoint) (frame : Frame) (message : Message) :
    handler.SameWork (handler.handleStatusRequest now frame message) := by
  unfold handleStatusRequest
  split
  · exact .refl handler
  · exact handler.sameWork_reply _ _

theorem sameWork_handleOnlineRequest (frame : Frame) :
    (handler.submitted
      (if handler.gem.config.allowHostOnline ∧ handler.api.snapshot.controlMode = .offline then
        some (.setControlMode handler.gem.preferredOnlineMode)
      else
        none)).SameWork (handler.handleOnlineRequest frame) := by
  unfold handleOnlineRequest
  by_cases allowed : handler.gem.config.allowHostOnline = true
  · by_cases offline : handler.api.snapshot.controlMode = .offline
    · rw [if_pos ⟨allowed, offline⟩, if_neg (by simp [allowed]), if_neg (not_not.mpr offline)]
      exact sameWork_reply _ _ _
    · rw [if_neg fun both => offline both.2, if_neg (by simp [allowed]), if_pos offline]
      exact sameWork_reply _ _ _
  · rw [if_neg fun both => allowed both.1, if_pos (by simpa using allowed)]
    exact sameWork_reply _ _ _

theorem executeCommand_handler (command : RemoteCommand) :
    (handler.executeCommand command).2.2 =
      handler.submitted (remotePayload handler.api command) := by
  unfold executeCommand remotePayload
  dsimp only
  split
  · rfl
  · split
    · rfl
    · split
      · rfl
      · simp only [submitted]
        split
        next failed => rw [failed]
        next done => rw [done]

theorem sameWork_handleRemoteCommand (frame : Frame) (message : Message) :
    (handler.submitted
      (match parseS2f41 message with
      | .error _ => none
      | .ok command => remotePayload handler.api command)).SameWork
      (handler.handleRemoteCommand frame message) := by
  unfold handleRemoteCommand
  cases parseS2f41 message with
  | error reason => exact .refl handler
  | ok command =>
      dsimp only
      rw [← executeCommand_handler]
      exact sameWork_reply _ _ _

/-- Replies apart, a message does what its command does. -/
theorem sameWork_handleMessage (now : TimePoint) (frame : Frame) (message : Message) :
    (handler.submitted
      (hostCommand handler.gem.config handler.gem.preferredOnlineMode handler.api message)).SameWork
      (handler.handleMessage now frame message) := by
  unfold handleMessage
  by_cases identity : message.stream = 1 ∧ message.function = 1
  · rw [if_pos identity]
    simp only [hostCommand, identity]
    exact sameWork_reply _ _ _
  rw [if_neg identity]
  by_cases establish : message.stream = 1 ∧ message.function = 13
  · rw [if_pos establish]
    simp only [hostCommand, establish]
    obtain ⟨api, same⟩ := sameWork_reply
      { handler with gem := { handler.gem with comm := .communicating } } frame
      (makeS1f14 kCommackAccepted handler.gem.config.identity)
    exact ⟨api, same⟩
  rw [if_neg establish]
  by_cases status : message.stream = 1 ∧ message.function = 3
  · rw [if_pos status]
    simp only [hostCommand, status]
    exact handler.sameWork_handleStatusRequest _ _ _
  rw [if_neg status]
  unfold hostCommand
  split
  · exact sameWork_reply _ _ _
  · split
    · exact handler.sameWork_handleOnlineRequest frame
    · split
      · exact handler.sameWork_handleRemoteCommand frame message
      · exact .refl handler

end Handler

/-! ## Deliveries -/

/-- The command that is submitted for a message that is not refused. -/
def frameCommand (config : GemConfig) (preferred : ControlMode) (api : MachineApi)
    (frame : Frame) : Option CommandPayload :=
  match Hsms.toMessage frame with
  | .error _ => none
  | .ok message => Handler.hostCommand config preferred api message

/-- The machine after a message, and the work that is posted for it. -/
def react (config : GemConfig) (preferred : ControlMode) (api : MachineApi) (frame : Frame) :
    MachineApi × List Task :=
  match fault config frame with
  | some function => (api, [.request (makeS9 function (Hsms.headerBytes frame.header))])
  | none =>
      match frameCommand config preferred api frame with
      | none => (api, [])
      | some payload =>
          let (_, api, events) := api.submit payload kHost
          (api, events.filterMap Task.ofEvent)

/-- A message that is not refused raises events only. -/
theorem ofEvent_of_mem_react {config : GemConfig} {preferred : ControlMode} {api : MachineApi}
    {frame : Frame} (fine : fault config frame = none) {task : Task}
    (posted : task ∈ (react config preferred api frame).2) :
    ∃ event, Task.ofEvent event = some task := by
  unfold react at posted
  rw [fine] at posted
  dsimp only at posted
  split at posted
  · cases posted
  · obtain ⟨event, _, same⟩ := List.mem_filterMap.mp posted
    exact ⟨event, same⟩

namespace Handler

/-- Replies apart, a delivery does to the machine and to the queue what `react` says. -/
theorem onData_react (handler : Handler) (now : TimePoint) {delivery : Delivery}
    (primary : delivery.replyTo = none) :
    (handler.onData now delivery).api =
        (react handler.gem.config handler.gem.preferredOnlineMode handler.api delivery.frame).1 ∧
      work (handler.onData now delivery).tasks =
        work handler.tasks ++
          (react handler.gem.config handler.gem.preferredOnlineMode handler.api
            delivery.frame).2 := by
  have handled := handler.onData_primary now primary
  unfold react
  cases refusal : fault handler.gem.config delivery.frame with
  | some function =>
      rw [refusal] at handled
      rw [handled]
      refine ⟨rfl, ?_⟩
      rw [sendS9, sendRequest, post, work_append]
      rfl
  | none =>
      rw [refusal] at handled
      obtain ⟨message, parsed, _, handled⟩ := handled
      obtain ⟨api, same⟩ := handler.sameWork_handleMessage now delivery.frame message
      rw [handled, api, same, frameCommand, parsed]
      dsimp only
      cases hostCommand handler.gem.config handler.gem.preferredOnlineMode handler.api
          message with
      | none => exact ⟨rfl, (List.append_nil _).symm⟩
      | some payload =>
          refine ⟨rfl, ?_⟩
          simp only [submitted, submit]
          rw [work_append, work_ofEvents]

end Handler

end Ssim.Gem
