import Ssim.Core.ControllerCalls
import Ssim.Gem.Threads

/-!
# Who decides between Local and Remote

The operator's choice of an online mode stands in two places: the mode of the
controller, and the mode that the service goes back to on S1F17.  The service is
told of a change by a task, so its copy follows behind.  `ControlView` is the two
places and what is on its way between them, `ControlStep` what any step of any
thread does to it.  The host raises its own authority exactly where S1F17 takes
the copy for the choice while a newer one is still on its way.
-/

namespace Ssim.Gem

open Ssim.Core (Event Effect Closure Command CommandPayload CommandSource ControlMode Controller
  ControlMode MachineApi)
open Hsms (Frame Header Delivery SessionConfig SessionOutput ConnectionState TimePoint)
open Secs2 (Message)
open Library.Runs

structure ControlView where
  mode : ControlMode
  preferred : ControlMode
  /-- The online modes that the service has still to be told, in order. -/
  awaiting : List ControlMode

/-- The mode, unless it is the offline one. -/
def onlineMode (mode : ControlMode) : Option ControlMode :=
  if mode = .offline then none else some mode

def Task.onlineMode : Task → Option ControlMode
  | .controlStateChanged after => Gem.onlineMode after
  | _ => none

/-- The online modes that the tasks tell the service. -/
def onlineModes (tasks : List Task) : List ControlMode :=
  tasks.filterMap Task.onlineMode

theorem onlineModes_append (first second : List Task) :
    onlineModes (first ++ second) = onlineModes first ++ onlineModes second :=
  List.filterMap_append

theorem ne_offline_of_mem_onlineModes {tasks : List Task} {mode : ControlMode}
    (member : mode ∈ onlineModes tasks) : mode ≠ .offline := by
  obtain ⟨task, _, told⟩ := List.mem_filterMap.mp member
  cases task with
  | controlStateChanged after =>
      simp only [Task.onlineMode, onlineMode] at told
      split at told
      · cases told
      next online => exact Option.some.inj told ▸ online
  | _ => cases told

/-- Events without a change of the control mode tell the service no mode. -/
theorem onlineModes_ofEvents {events : List Event}
    (none : ∀ before after, Event.controlStateChanged before after ∉ events) :
    onlineModes (events.filterMap Task.ofEvent) = [] := by
  refine List.filterMap_eq_nil_iff.mpr fun task member => ?_
  obtain ⟨event, posted, told⟩ := List.mem_filterMap.mp member
  cases event with
  | controlStateChanged before after => exact absurd posted (none before after)
  | _ => cases told <;> rfl

theorem published_of_keepsMode {controller : Controller} {outcome : Controller.Outcome}
    (keeps : outcome.KeepsMode controller) (before after : ControlMode) :
    Event.controlStateChanged before after ∉ MachineApi.published outcome.effects := by
  intro member
  obtain ⟨effect, among, event⟩ := List.mem_filterMap.mp member
  cases effect with
  | publish found =>
      obtain rfl := Option.some.inj event
      exact keeps.2 before after among
  | _ => cases event

/-- A change of the control mode tells the service the mode, if it is an online one. -/
theorem onlineModes_controlStateChanged (before mode : ControlMode) :
    onlineModes ((MachineApi.published [.publish (.controlStateChanged before mode)]).filterMap
      Task.ofEvent) = (onlineMode mode).toList := by
  simp only [MachineApi.published, onlineModes, List.filterMap_cons, List.filterMap_nil,
    Task.ofEvent, Task.onlineMode]
  cases onlineMode mode <;> rfl

/-! ## The service -/

namespace Handler

/-- What a handler of the service knows, with nothing being published. -/
def control (handler : Handler) : ControlView :=
  ⟨handler.api.controller.controlMode, handler.gem.preferredOnlineMode, onlineModes handler.tasks⟩

variable (handler : Handler)

theorem post_control {task : Task} (other : task.onlineMode = none) :
    (handler.post task).control = handler.control := by
  simp [control, post, onlineModes, other]

@[simp]
theorem reply_control (request : Frame) (message : Message) :
    (handler.reply request message).control = handler.control := by
  unfold reply
  split
  · exact handler.post_control rfl
  · rfl

@[simp]
theorem sendRequest_control (message : Message) :
    (handler.sendRequest message).control = handler.control :=
  handler.post_control rfl

@[simp]
theorem sendS9_control (function : UInt8) (offending : Header) :
    (handler.sendS9 function offending).control = handler.control :=
  handler.sendRequest_control _

@[simp]
theorem sendEvent_control (ceid : UInt32) (reports : List Report) :
    (handler.sendEvent ceid reports).control = handler.control := by
  unfold sendEvent
  split
  · rfl
  · exact sendRequest_control _ _

@[simp]
theorem onSent_control (message : Message) (systemBytes : UInt32) :
    (handler.onSent message systemBytes).control = handler.control := by
  unfold onSent
  split <;> rfl

@[simp]
theorem onSessionState_control (state : ConnectionState) :
    (handler.onSessionState state).control = handler.control := by
  unfold onSessionState
  split <;> rfl

theorem onTimeouts_control (systems : List UInt32) :
    (systems.foldl onTransactionTimeout handler).control = handler.control := by
  induction systems generalizing handler with
  | nil => rfl
  | cons system systems ih =>
      refine (ih _).trans ?_
      unfold onTransactionTimeout
      split
      · rfl
      · exact sendS9_control _ _ _

theorem onAlarm_control (set : Bool) (id : Core.AlarmId) (text : Core.Text) :
    (handler.onAlarm set id text).control = handler.control := by
  unfold onAlarm sendAlarm
  split
  · rfl
  · exact handler.sendRequest_control _

theorem onResult_control (wafer : Core.WaferResultReady) :
    (handler.onResult wafer).control = handler.control := by
  unfold onResult
  dsimp only
  split
  · rw [sendEvent_control, sendEvent_control]
    rfl
  · rw [sendEvent_control]
    rfl

/-- The service takes over an online mode that it is told. -/
theorem onControlStateChanged_control (after : ControlMode) :
    (handler.onControlStateChanged after).control =
      { handler.control with
        preferred := (onlineMode after).getD handler.gem.preferredOnlineMode } := by
  unfold onControlStateChanged
  dsimp only
  rw [sendEvent_control, onlineMode]
  split <;> simp_all [control]

/-! ## Commands of the host -/

theorem observe_controller (api : MachineApi) (events : List Event) :
    (events.foldl MachineApi.observe api).controller = api.controller := by
  induction events generalizing api with
  | nil => rfl
  | cons event events ih =>
      refine (ih _).trans ?_
      cases event <;> rfl

theorem submit_control_of_keepsMode {payload : CommandPayload}
    (other : ∀ mode, payload ≠ .setControlMode mode) :
    (handler.submit payload).2.control = handler.control := by
  have keeps := handler.api.controller.keepsMode_handleCommand ⟨payload, kHost⟩ other
  simp only [control, submit, MachineApi.submit, observe_controller, onlineModes_append,
    onlineModes_ofEvents (published_of_keepsMode keeps), List.append_nil, keeps.1]

/-- A mode that is set is on its way to the service. -/
theorem submit_setControlMode_control {mode : ControlMode}
    (allowed : Core.controlAllowsSetMode mode handler.api.controller.controlMode kHost = true) :
    (handler.submit (.setControlMode mode)).2.control =
      ⟨mode, handler.gem.preferredOnlineMode,
        handler.control.awaiting ++ (onlineMode mode).toList⟩ := by
  simp only [control, submit, MachineApi.submit, observe_controller, onlineModes_append,
    Controller.handleCommand, allowed, Bool.not_true, Bool.false_eq_true, if_false,
    onlineModes_controlStateChanged]

/-- The controller refuses the command of an S1F17 if the machine is online again by then. -/
theorem goOnline_control (frame : Frame) :
    (handler.goOnline frame).control =
      if Core.controlAllowsSetMode handler.control.preferred handler.control.mode kHost then
        ⟨handler.control.preferred, handler.control.preferred,
          handler.control.awaiting ++ (onlineMode handler.control.preferred).toList⟩
      else
        handler.control := by
  unfold goOnline
  dsimp only
  rw [reply_control]
  split
  next allowed => exact handler.submit_setControlMode_control allowed
  next refused =>
    have refused : Core.controlAllowsSetMode handler.gem.preferredOnlineMode
        handler.api.controller.controlMode kHost = false := Bool.eq_false_of_not_eq_true refused
    simp [control, submit, MachineApi.submit, Controller.handleCommand, refused,
      MachineApi.published]

theorem handleOfflineRequest_control (frame : Frame) :
    (handler.handleOfflineRequest frame).control = { handler.control with mode := .offline } := by
  unfold handleOfflineRequest
  rw [reply_control, submit_setControlMode_control handler rfl]
  simp [control, onlineMode]

/-- A remote command is never one for the control mode. -/
theorem commandPayload_keepsMode (rcmd : Core.Text) (waferId : Option Core.Text)
    (mode : ControlMode) : commandPayload rcmd waferId ≠ .setControlMode mode := by
  unfold commandPayload
  split
  · simp
  · split
    · simp
    · split <;> simp

theorem executeCommand_control (command : RemoteCommand) :
    (handler.executeCommand command).2.2.control = handler.control := by
  obtain same | ⟨waferId, submitted⟩ := handler.executeCommand_submits command
  · rw [same]
  · rw [submitted]
    exact handler.submit_control_of_keepsMode (commandPayload_keepsMode command.rcmd waferId)

theorem handleRemoteCommand_control (frame : Frame) (message : Message) :
    (handler.handleRemoteCommand frame message).control = handler.control := by
  unfold handleRemoteCommand
  split
  · rfl
  · exact (reply_control _ _ _).trans (handler.executeCommand_control _)

theorem handleStatusRequest_control (now : TimePoint) (frame : Frame) (message : Message) :
    (handler.handleStatusRequest now frame message).control = handler.control := by
  unfold handleStatusRequest
  split
  · rfl
  · exact reply_control _ _ _

/-- S1F17 that fails a check of its handler is only answered. -/
theorem handleOnlineRequest_control {message : Message} (frame : Frame)
    (stream : message.stream = 1) (function : message.function = 17)
    (stays : handler.mayGoOnline message = false) :
    (handler.handleOnlineRequest frame).control = handler.control := by
  unfold handleOnlineRequest
  split
  · exact reply_control _ _ _
  next allowed =>
    split
    · exact reply_control _ _ _
    next offline => simp_all [mayGoOnline]

/-- Before S1F17 submits its command, a message can only take the machine offline. -/
theorem handleMessage_control {message : Message} (now : TimePoint) (frame : Frame)
    (stays : handler.mayGoOnline message = false) :
    (handler.handleMessage now frame message).control = handler.control ∨
      (handler.handleMessage now frame message).control =
        { handler.control with mode := .offline } := by
  unfold handleMessage
  split
  · exact .inl (reply_control _ _ _)
  · split
    · exact .inl (reply_control _ _ _)
    · split
      · exact .inl (handler.handleStatusRequest_control now frame message)
      · split
        · exact .inr (handler.handleOfflineRequest_control frame)
        · split
          next online =>
            exact .inl (handler.handleOnlineRequest_control frame online.1 online.2 stays)
          · split
            · exact .inl (handler.handleRemoteCommand_control frame message)
            · exact .inl rfl

theorem onData_control (now : TimePoint) (delivery : Delivery)
    (stays : ∀ message, hostMessage handler.gem.config delivery = some message →
      handler.mayGoOnline message = false) :
    (handler.onData now delivery).control = handler.control ∨
      (handler.onData now delivery).control = { handler.control with mode := .offline } := by
  cases accepted : hostMessage handler.gem.config delivery with
  | some message =>
      rw [onData_of_hostMessage now accepted]
      exact handler.handleMessage_control now delivery.frame (stays message accepted)
  | none =>
      left
      cases replyTo : delivery.replyTo with
      | some systemBytes =>
          rw [handler.onData_answer now replyTo]
          rfl
      | none =>
          have handled := handler.onData_primary now replyTo
          cases refusal : fault handler.gem.config delivery.frame with
          | some function =>
              rw [refusal] at handled
              rw [handled, sendS9_control]
          | none =>
              rw [refusal] at handled
              obtain ⟨message, parsed, _⟩ := handled
              rw [hostMessage_eq_some_iff.mpr ⟨replyTo, refusal, parsed⟩] at accepted
              cases accepted

end Handler

/-! ## Handlers that deliver nothing -/

/-- The service is told the oldest mode on its way, or nothing. -/
def ControlView.Told (before after : ControlView) : Prop :=
  after = before ∨ ∃ mode awaiting, before.awaiting = mode :: awaiting ∧
    after = ⟨before.mode, mode, awaiting⟩

namespace System

theorem notifyState_control (system : System) :
    system.notifyState.handler.control = system.handler.control := by
  unfold notifyState
  split
  · exact Handler.onSessionState_control _ _
  · rfl

theorem closeSocket_control (system : System) :
    system.closeSocket.handler.control = system.handler.control :=
  notifyState_control _

theorem apply_control (system : System) (now : TimePoint) {out : SessionOutput}
    (silent : out.deliveries = []) :
    (system.apply now out).handler.control = system.handler.control := by
  have told := notifyState_control
    { server := system.server.enqueue out
      handler := out.timedOut.foldl Handler.onTransactionTimeout system.handler }
  rw [Handler.onTimeouts_control] at told
  unfold apply
  rw [silent]
  dsimp only [List.foldl_nil]
  split
  · exact (closeSocket_control _).trans told
  · exact told

theorem accept_control (system : System) (now : TimePoint) :
    (system.accept now).handler.control = system.handler.control := by
  have silent : (system.session.onConnect now).2 = {} := by
    by_cases idle : system.session.state = .notConnected
    · rw [Hsms.Session.onConnect_of_idle idle]
    · rw [Hsms.Session.onConnect_of_connected idle]
  unfold accept
  split
  · rfl
  · exact apply_control _ now (by rw [silent])

theorem tick_control {system next : System} {now : TimePoint}
    (ticked : system.tick now = some next) : next.handler.control = system.handler.control := by
  unfold tick at ticked
  split at ticked
  · rw [← Option.some.inj ticked]
  · obtain ⟨⟨session, out⟩, called, rfl⟩ := Option.map_eq_some_iff.mp ticked
    refine apply_control _ now ?_
    cases Hsms.Session.onTick_effect called <;> rfl

theorem runRequest_control {system next : System} {now : TimePoint} {message : Message}
    (ran : system.runRequest now message = some next) :
    next.handler.control = system.handler.control := by
  unfold runRequest at ran
  split at ran
  · rw [← Option.some.inj ran]
  · obtain ⟨⟨sent, session, out⟩, requested, rfl⟩ := Option.map_eq_some_iff.mp ran
    have silent : out.deliveries = [] := by
      cases Hsms.Session.sendRequest_effect requested <;> rfl
    dsimp only
    split
    · exact apply_control _ now silent
    · rw [Handler.onSent_control]
      exact apply_control _ now silent

theorem runReply_control (system : System) (now : TimePoint) (systemBytes : UInt32)
    (message : Message) :
    (system.runReply now systemBytes message).handler.control = system.handler.control := by
  unfold runReply
  split
  · rfl
  · obtain ⟨sent, only⟩ := system.session.sendReply_output systemBytes message {}
    rw [only]
    exact apply_control _ now rfl

/-- Only the task of a change of the control mode is about it. -/
theorem runTask_control {system next : System} {now : TimePoint} {task : Task}
    (ran : system.runTask now task = some next) :
    next.handler.control =
      { system.handler.control with
        preferred := task.onlineMode.getD system.handler.gem.preferredOnlineMode } := by
  cases task with
  | request message => exact runRequest_control ran
  | reply systemBytes message =>
      obtain rfl := Option.some.inj ran
      exact system.runReply_control now systemBytes message
  | processStateChanged after =>
      obtain rfl := Option.some.inj ran
      exact Handler.sendEvent_control _ _ _
  | controlStateChanged after =>
      obtain rfl := Option.some.inj ran
      exact system.handler.onControlStateChanged_control after
  | scanStarted waferId slot =>
      obtain rfl := Option.some.inj ran
      exact Handler.sendEvent_control _ _ _
  | result wafer =>
      obtain rfl := Option.some.inj ran
      exact system.handler.onResult_control wafer
  | runAborted =>
      obtain rfl := Option.some.inj ran
      exact Handler.sendEvent_control _ _ _
  | alarm set id text =>
      obtain rfl := Option.some.inj ran
      exact system.handler.onAlarm_control set id text

theorem operationFailed_control (system : System) (generation : Nat) :
    (system.operationFailed generation).handler.control = system.handler.control := by
  unfold operationFailed
  split
  · rfl
  · exact closeSocket_control _

theorem step_control {system next : System} {input : Input}
    (delivers : ∀ operation now bytes, input ≠ .read operation now bytes)
    (own : ∀ api events, input ≠ .machine api events)
    (taken : system.step input = some next) :
    system.handler.control.Told next.handler.control := by
  cases input with
  | accept now =>
      obtain rfl := Option.some.inj taken
      exact .inl (system.accept_control now)
  | read operation now bytes => exact absurd rfl (delivers operation now bytes)
  | readFailed operation =>
      obtain ⟨⟨generation, before⟩, found, rfl⟩ := Option.map_eq_some_iff.mp taken
      obtain ⟨_, _, same⟩ := Option.map_eq_some_iff.mp found
      obtain ⟨_, rfl⟩ := Prod.mk.inj same
      exact .inl (operationFailed_control _ generation)
  | written operation =>
      obtain ⟨⟨generation, before⟩, found, rfl⟩ := Option.map_eq_some_iff.mp taken
      obtain ⟨_, _, same⟩ := Option.map_eq_some_iff.mp found
      obtain ⟨_, rfl⟩ := Prod.mk.inj same
      left
      simp only [writeCompleted]
      split <;> rfl
  | writeFailed operation =>
      obtain ⟨⟨generation, before⟩, found, rfl⟩ := Option.map_eq_some_iff.mp taken
      obtain ⟨_, _, same⟩ := Option.map_eq_some_iff.mp found
      obtain ⟨_, rfl⟩ := Prod.mk.inj same
      exact .inl (operationFailed_control _ generation)
  | tick now => exact .inl (tick_control taken)
  | task now =>
      simp only [step] at taken
      split at taken
      · cases taken
      next task tasks queue =>
        have ran := runTask_control taken
        cases told : task.onlineMode with
        | none =>
            left
            rw [ran, told]
            simp [Handler.control, queue, onlineModes, told]
        | some mode =>
            right
            refine ⟨mode, onlineModes tasks, ?_, ?_⟩
            · simp [Handler.control, queue, onlineModes, told]
            · rw [ran, told]
              rfl
  | stop =>
      obtain rfl := Option.some.inj taken
      exact .inl (closeSocket_control _)
  | machine api events => exact absurd rfl (own api events)

end System

/-! ## Every step of every thread -/

namespace Threads

def control (threads : Threads) : ControlView :=
  ⟨threads.handler.api.controller.controlMode, threads.handler.gem.preferredOnlineMode,
    onlineModes (threads.handler.tasks ++ threads.publishing.filterMap Task.ofEvent)⟩

/-- An online mode that the operator sets with this step. -/
def Input.choice : Input → Option ControlMode
  | .closure (.command ⟨.setControlMode mode, _⟩) => onlineMode mode
  | _ => none

/-- The online mode that the operator has set last. -/
def operatorChoice (inputs : List Input) : Option ControlMode :=
  (inputs.filterMap Input.choice).getLast?

end Threads

/-- What a step does to the control mode and its copies. -/
inductive ControlStep (before : ControlView) : Threads.Input → ControlView → Prop where
  | told (input : Threads.Input) (after : ControlView) (none : input.choice = none)
      (told : before.Told after) : ControlStep before input after
  | operator (mode : ControlMode) (source : CommandSource) :
      ControlStep before (.closure (.command ⟨.setControlMode mode, source⟩))
        ⟨mode, before.preferred, before.awaiting ++ (onlineMode mode).toList⟩
  | hostOffline : ControlStep before .deliver { before with mode := .offline }
  | hostOnline
      (allowed : Core.controlAllowsSetMode before.preferred before.mode kHost = true) :
      ControlStep before .goOnline
        ⟨before.preferred, before.preferred,
          before.awaiting ++ (onlineMode before.preferred).toList⟩

theorem ControlStep.same {before after : ControlView} {input : Threads.Input}
    (none : input.choice = none) (equal : after = before) : ControlStep before input after :=
  .told input after none (.inl equal)

namespace Threads

theorem control_eq (threads : Threads) :
    threads.control =
      { threads.handler.control with
        awaiting := threads.handler.control.awaiting ++
          onlineModes (threads.publishing.filterMap Task.ofEvent) } := by
  simp only [control, Handler.control, onlineModes_append]

theorem control_of_idle {threads : Threads} (idle : threads.publishing = []) :
    threads.control = threads.handler.control := by
  simp [control, idle, Handler.control]

/-- While the controller thread publishes nothing, the handler decides. -/
theorem control_of_handler {threads next : Threads}
    (handler : next.handler.control = threads.handler.control)
    (publishing : next.publishing = threads.publishing) : next.control = threads.control := by
  rw [control_eq, control_eq, handler, publishing]

theorem runClosure_eq_some {threads next : Threads} {closure : Closure}
    (ran : threads.runClosure closure = some next) :
    threads.publishing = [] ∧ (∀ payload, closure ≠ .command ⟨payload, .secsGem⟩) ∧
      next.handler = { threads.handler with api :=
        { threads.handler.api with
          controller := (threads.handler.api.controller.runClosure closure).next } } ∧
      next.publishing = MachineApi.published
        (threads.handler.api.controller.runClosure closure).effects := by
  unfold runClosure at ran
  split at ran
  · cases ran
  next idle =>
    split at ran
    · cases ran
    next operator =>
      obtain rfl := Option.some.inj ran
      exact ⟨by simpa using idle, fun payload host => operator payload host, rfl, rfl⟩

theorem runClosure_control {threads next : Threads} {closure : Closure}
    (ran : threads.runClosure closure = some next) :
    ControlStep threads.control (.closure closure) next.control := by
  obtain ⟨idle, operator, handler, publishing⟩ := runClosure_eq_some ran
  by_cases isMode : ∃ mode source, closure = .command ⟨.setControlMode mode, source⟩
  · obtain ⟨mode, source, rfl⟩ := isMode
    have allowed : Core.controlAllowsSetMode mode threads.handler.api.controller.controlMode
        source = true := by
      have operator : source ≠ .secsGem := fun host => operator _ (by rw [host])
      simp [Core.controlAllowsSetMode, operator]
    have after : next.control = ⟨mode, threads.control.preferred,
        threads.control.awaiting ++ (onlineMode mode).toList⟩ := by
      rw [control_of_idle idle, control_eq, handler, publishing]
      simp only [Controller.runClosure, Controller.handleCommand, allowed, Bool.not_true,
        Bool.false_eq_true, if_false, onlineModes_controlStateChanged, Handler.control]
    rw [after]
    exact .operator mode source
  · have other : ∀ mode source, closure ≠ .command ⟨.setControlMode mode, source⟩ :=
      fun mode source equal => isMode ⟨mode, source, equal⟩
    have keeps := threads.handler.api.controller.keepsMode_runClosure closure other
    have none : (Input.closure closure).choice = none := by
      unfold Input.choice
      split
      next mode source equal => exact absurd (Input.closure.inj equal) (other mode source)
      · rfl
    refine .same none ?_
    rw [control_of_idle idle, control_eq, handler, publishing,
      onlineModes_ofEvents (published_of_keepsMode keeps)]
    simp [Handler.control, keeps.1]

theorem publish_control {threads next : Threads} (published : threads.publish = some next) :
    next.control = threads.control := by
  unfold publish at published
  split at published
  · cases published
  next event publishing queue =>
    obtain rfl := Option.some.inj published
    have observed : (threads.handler.api.observe event).controller =
        threads.handler.api.controller := Handler.observe_controller _ [event]
    have posted : (event :: publishing).filterMap Task.ofEvent =
        (Task.ofEvent event).toList ++ publishing.filterMap Task.ofEvent := by
      cases told : Task.ofEvent event <;> simp [told]
    simp only [control, withHandler, handler] at observed ⊢
    rw [observed, queue, posted, List.append_assoc]

theorem beginRead_control {threads next : Threads} {operation : Nat} {now : TimePoint}
    {bytes : List UInt8} (begun : threads.beginRead operation now bytes = some next) :
    next.control = threads.control := by
  unfold beginRead at begun
  split at begun
  next generation system idle taken =>
    obtain ⟨_, _, same⟩ := Option.map_eq_some_iff.mp taken
    obtain ⟨_, rfl⟩ := Prod.mk.inj same
    split at begun
    · obtain rfl := Option.some.inj begun
      exact control_of_handler rfl rfl
    · obtain rfl := Option.some.inj begun
      exact control_of_handler rfl rfl
  · cases begun

theorem deliver_control {threads next : Threads} (delivered : threads.deliver = some next) :
    ControlStep threads.control .deliver next.control := by
  unfold deliver at delivered
  split at delivered
  next read _ =>
    split at delivered
    · cases delivered
    next delivery deliveries _ =>
      have handled (stays : ∀ message,
          Handler.hostMessage threads.handler.gem.config delivery = some message →
            threads.handler.mayGoOnline message = false) :
          ControlStep threads.control .deliver (control
            { threads.withHandler (threads.handler.onData read.now delivery) with
              io := .delivering { read with deliveries := deliveries } }) := by
        rcases threads.handler.onData_control read.now delivery stays with same | offline
        · exact .same rfl (control_of_handler same rfl)
        · have after : control
              { threads.withHandler (threads.handler.onData read.now delivery) with
                io := .delivering { read with deliveries := deliveries } } =
                  { threads.control with mode := .offline } := by
            rw [control_eq, control_eq]
            simp only [withHandler, handler] at offline ⊢
            rw [offline]
          rw [after]
          exact .hostOffline
      dsimp only at delivered
      split at delivered
      next foreign =>
        obtain rfl := Option.some.inj delivered
        exact handled fun message accepted => by rw [foreign] at accepted; cases accepted
      next message accepted =>
        split at delivered
        · obtain rfl := Option.some.inj delivered
          exact .same rfl (control_of_handler rfl rfl)
        next stays =>
          split at delivered
          · cases delivered
          · obtain rfl := Option.some.inj delivered
            refine handled fun other also => ?_
            rw [accepted] at also
            exact Option.some.inj also ▸ Bool.eq_false_of_not_eq_true stays
  · cases delivered

theorem goOnline_control {threads next : Threads} (went : threads.goOnline = some next) :
    ControlStep threads.control .goOnline next.control := by
  unfold goOnline at went
  split at went
  next frame read _ idle =>
    obtain rfl := Option.some.inj went
    have after := threads.handler.goOnline_control frame
    rw [← control_of_idle idle] at after
    have equal : control { threads.withHandler (threads.handler.goOnline frame) with
        io := .delivering read } = (threads.handler.goOnline frame).control :=
      control_of_idle idle
    rw [equal, after]
    split
    next allowed => exact .hostOnline allowed
    · exact .same rfl rfl
  · cases went

theorem finish_control {threads next : Threads} (finished : threads.finish = some next) :
    next.control = threads.control := by
  unfold finish at finished
  split at finished
  next generation now out _ =>
    obtain rfl := Option.some.inj finished
    refine control_of_handler ?_ rfl
    have told := System.notifyState_control
      { threads.system with
        handler := out.timedOut.foldl Handler.onTransactionTimeout threads.handler }
    rw [Handler.onTimeouts_control] at told
    dsimp only [handler] at told ⊢
    split
    · split
      · exact (System.closeSocket_control _).trans told
      · exact (System.closeSocket_control _).trans told
    · split
      · exact told
      · exact told
  · cases finished

theorem handle_control {threads next : Threads} {input : System.Input}
    (handled : threads.handle input = some next) :
    ControlStep threads.control (.handle input) next.control := by
  unfold handle at handled
  split at handled
  · cases handled
  · cases handled
  next delivers own =>
    obtain ⟨system, taken, rfl⟩ := Option.map_eq_some_iff.mp handled
    refine .told _ _ rfl ?_
    rcases System.step_control delivers own taken with same | ⟨mode, awaiting, first, after⟩
    · exact .inl (control_of_handler same rfl)
    · refine .inr
        ⟨mode, awaiting ++ onlineModes (threads.publishing.filterMap Task.ofEvent), ?_, ?_⟩
      · rw [control_eq]
        exact congrArg (· ++ _) first
      · rw [control_eq, control_eq]
        simp only [handler] at after ⊢
        rw [after]
  · cases handled

theorem step_control {threads next : Threads} {input : Input}
    (taken : threads.step input = some next) :
    ControlStep threads.control input next.control := by
  cases input with
  | closure closure => exact runClosure_control taken
  | publish => exact .same rfl (publish_control taken)
  | read operation now bytes => exact .same rfl (beginRead_control taken)
  | deliver => exact deliver_control taken
  | goOnline => exact goOnline_control taken
  | finish => exact .same rfl (finish_control taken)
  | handle input => exact handle_control taken

end Threads

/-! ## The choice of the operator -/

namespace ControlView

/-- The mode that the service will go back to once it has been told everything. -/
def latest (view : ControlView) : ControlMode :=
  view.awaiting.getLast?.getD view.preferred

/-- The machine is not remote, and nothing on its way makes it so. -/
def NotRemote (view : ControlView) : Prop :=
  view.mode ≠ .onlineRemote ∧ view.latest ≠ .onlineRemote

theorem latest_told {before after : ControlView} (told : before.Told after) :
    after.mode = before.mode ∧ after.latest = before.latest := by
  rcases told with rfl | ⟨mode, awaiting, first, rfl⟩
  · exact ⟨rfl, rfl⟩
  · simp [latest, first, List.getLast?_cons]

theorem latest_append (mode preferred new : ControlMode) (awaiting : List ControlMode) :
    latest ⟨mode, preferred, awaiting ++ (onlineMode new).toList⟩ =
      (onlineMode new).getD (latest ⟨mode, preferred, awaiting⟩) := by
  cases onlineMode new <;> simp [latest]

/-- S1F17 would go back to Remote, and Local is on its way to the service. -/
def stale (view : ControlView) : Bool :=
  view.mode = .offline && view.preferred = .onlineRemote &&
    view.awaiting.getLast? = some .onlineLocal

end ControlView

namespace Threads

/-- S1F17 submits its command while the service has not been told of a choice of Local. -/
def usesStaleMode (threads : Threads) : Input → Bool
  | .goOnline => threads.control.stale
  | _ => false

theorem operatorChoice_concat (inputs : List Input) (input : Input) :
    operatorChoice (inputs ++ [input]) = input.choice.or (operatorChoice inputs) := by
  cases chosen : input.choice <;>
    simp [operatorChoice, List.filterMap_append, chosen]

end Threads

theorem notRemote_step {view after : ControlView} {input : Threads.Input}
    (online : ∀ mode ∈ view.awaiting, mode ≠ .offline)
    (fresh : input = .goOnline → view.stale = false) (holds : view.NotRemote)
    (other : input.choice ≠ some .onlineRemote) (taken : ControlStep view input after) :
    after.NotRemote := by
  cases taken with
  | told _ _ _ told =>
      obtain ⟨mode, latest⟩ := ControlView.latest_told told
      exact ⟨mode ▸ holds.1, latest ▸ holds.2⟩
  | operator mode source =>
      have notRemote : mode ≠ .onlineRemote := by
        rintro rfl
        exact other rfl
      refine ⟨notRemote, ?_⟩
      rw [ControlView.latest_append]
      cases mode with
      | offline => exact holds.2
      | onlineLocal => simp [onlineMode]
      | onlineRemote => exact absurd rfl notRemote
  | hostOffline => exact ⟨by simp, holds.2⟩
  | hostOnline allowed =>
      have notRemote : view.preferred ≠ .onlineRemote := by
        intro remote
        have offline : view.mode = .offline := by
          simpa [Core.controlAllowsSetMode, remote, kHost] using allowed
        cases last : view.awaiting.getLast? with
        | none => exact holds.2 (by simp [ControlView.latest, last, remote])
        | some mode =>
            have latest : mode ≠ .onlineRemote := by
              simpa [ControlView.latest, last] using holds.2
            have isOnline := online mode (List.mem_of_getLast? last)
            have isLocal : mode = .onlineLocal := by
              cases mode <;> simp_all
            simpa [ControlView.stale, offline, remote, last, isLocal] using fresh rfl
      refine ⟨notRemote, ?_⟩
      rw [ControlView.latest_append]
      cases preferred : view.preferred with
      | offline => simpa [onlineMode, ControlView.latest, preferred] using holds.2
      | onlineLocal => simp [onlineMode]
      | onlineRemote => exact absurd preferred notRemote

/-- A choice of Local takes effect at once, whatever was before. -/
theorem notRemote_of_choice {view after : ControlView} {input : Threads.Input}
    (chosen : input.choice = some .onlineLocal) (taken : ControlStep view input after) :
    after.NotRemote := by
  cases taken with
  | told _ _ none _ =>
      rw [none] at chosen
      cases chosen
  | operator mode source =>
      cases mode with
      | offline => cases chosen
      | onlineLocal =>
          refine ⟨by simp, ?_⟩
          rw [ControlView.latest_append]
          simp [onlineMode]
      | onlineRemote => cases chosen
  | hostOffline => cases chosen
  | hostOnline _ => cases chosen

/--
Once the operator has chosen Local, the machine is not remote until the operator
chooses Remote: along every run in which no S1F17 submits its command while a
choice of Local is on its way to a service that would still go back to Remote.
-/
theorem host_never_raises_authority (session : SessionConfig) (gem : GemConfig)
    (started : TimePoint) (api : MachineApi) (inputs : List Threads.Input) (threads : Threads)
    (fresh : Meets Threads.step (fun state input => state.usesStaleMode input = false)
      (Threads.start session gem started api) inputs)
    (reached : run Threads.step (Threads.start session gem started api) inputs = some threads) :
    Threads.operatorChoice inputs = some .onlineLocal →
      threads.system.handler.api.controller.controlMode ≠ .onlineRemote := by
  have holds := history_of_meets (fun state input => Threads.usesStaleMode state input = false)
    (fun before threads => Threads.operatorChoice before = some .onlineLocal →
      threads.control.NotRemote)
    (fun {before state input next} held met taken chosen => by
      rw [Threads.operatorChoice_concat] at chosen
      cases choice : input.choice with
      | some mode =>
          rw [choice] at chosen
          exact notRemote_of_choice (choice.trans chosen) (Threads.step_control taken)
      | none =>
          rw [choice] at chosen
          refine notRemote_step (fun mode member => ne_offline_of_mem_onlineModes member) ?_
            (held chosen) (by rw [choice]; simp) (Threads.step_control taken)
          rintro rfl
          exact met)
    (fun chosen => by cases chosen) fresh reached
  exact fun chosen => (holds chosen).1

/-- The host has connected and selected; the operator has chosen Remote, and the service is told of
it. -/
def remoteInputs : List Threads.Input :=
  [.handle (.accept 0), .read 0 1 (controlBytes .selectReq 1), .finish,
    .closure (.command ⟨.setControlMode .onlineRemote, .ui⟩), .publish, .handle (.task 2)]

/-- The operator chooses Local; a read with S1F15 and S1F17 comes before the task that tells so. -/
def overtakenInputs : List Threads.Input :=
  remoteInputs ++ [.closure (.command ⟨.setControlMode .onlineLocal, .ui⟩), .publish,
    .read 0 3 (requestBytes 1 15 2 ++ requestBytes 1 17 3), .deliver, .deliver, .goOnline]

/-- The host gets back to Remote after the operator has chosen Local. -/
theorem host_raises_its_authority :
    ∃ threads, run Threads.step (Threads.start {} defaultGem 0 .fresh) overtakenInputs =
        some threads ∧
      Threads.operatorChoice overtakenInputs = some .onlineLocal ∧
      threads.system.handler.api.controller.controlMode = .onlineRemote := by
  have checked : (run Threads.step (Threads.start {} defaultGem 0 .fresh) overtakenInputs).any
      (fun threads => threads.system.handler.api.controller.controlMode = .onlineRemote) =
        true := by decide +kernel
  obtain ⟨threads, reached, remote⟩ := (Option.any_eq_true _ _).mp checked
  exact ⟨threads, reached, by decide, by simpa using remote⟩

/-- The same messages after that task bring the machine back to Local. -/
def toldInputs : List Threads.Input :=
  remoteInputs ++ [.closure (.command ⟨.setControlMode .onlineLocal, .ui⟩), .publish,
    .handle (.task 3), .read 0 4 (requestBytes 1 15 2 ++ requestBytes 1 17 3), .deliver, .deliver,
    .goOnline]

theorem host_never_raises_authority_told :
    ∃ threads, run Threads.step (Threads.start {} defaultGem 0 .fresh) toldInputs =
        some threads ∧
      Threads.operatorChoice toldInputs = some .onlineLocal ∧
      threads.system.handler.api.controller.controlMode ≠ .onlineRemote := by
  have checked : (run (guarded Threads.step fun state input => state.usesStaleMode input = false)
      (Threads.start {} defaultGem 0 .fresh) toldInputs).isSome = true := by decide +kernel
  obtain ⟨threads, guarded⟩ := Option.isSome_iff_exists.mp checked
  obtain ⟨reached, fresh⟩ := run_of_guarded guarded
  have chosen : Threads.operatorChoice toldInputs = some .onlineLocal := by decide
  exact ⟨threads, reached, chosen, host_never_raises_authority {} defaultGem 0 .fresh toldInputs
    threads fresh reached chosen⟩

end Ssim.Gem
