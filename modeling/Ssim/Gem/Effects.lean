import Ssim.Gem.Server
import Ssim.Hsms.LinkView

/-!
# What the service does to its own state

Every handler of the service, by what it does to the communication state and to
the open requests.  All other effects are tasks and commands of the machine.
-/

namespace Ssim.Gem

open Ssim.Core (Error Result CommandPayload ControlMode ProcessState AlarmId)
open Hsms (Header Frame Delivery ConnectionState TimePoint)
open Secs2 (Item Message)
open Std (ExtTreeMap)

namespace Handler

variable (handler : Handler)

@[simp]
theorem post_gem (task : Task) : (handler.post task).gem = handler.gem := rfl

@[simp]
theorem submit_gem (payload : CommandPayload) :
    (handler.submit payload).2.gem = handler.gem := rfl

@[simp]
theorem reply_gem (request : Frame) (message : Message) :
    (handler.reply request message).gem = handler.gem := by
  unfold reply
  split <;> rfl

@[simp]
theorem sendRequest_gem (message : Message) : (handler.sendRequest message).gem = handler.gem := rfl

@[simp]
theorem sendS9_gem (function : UInt8) (offending : Header) :
    (handler.sendS9 function offending).gem = handler.gem := rfl

@[simp]
theorem handleStatusRequest_gem (now : TimePoint) (frame : Frame) (message : Message) :
    (handler.handleStatusRequest now frame message).gem = handler.gem := by
  unfold handleStatusRequest
  split
  · rfl
  · simp

@[simp]
theorem handleOfflineRequest_gem (frame : Frame) :
    (handler.handleOfflineRequest frame).gem = handler.gem := by
  simp [handleOfflineRequest]

@[simp]
theorem handleOnlineRequest_gem (frame : Frame) :
    (handler.handleOnlineRequest frame).gem = handler.gem := by
  unfold handleOnlineRequest
  split
  · simp
  · split <;> simp

/-- A remote command submits its own command or none. -/
theorem executeCommand_submits (command : RemoteCommand) :
    (handler.executeCommand command).2.2 = handler ∨
      ∃ waferId, (handler.executeCommand command).2.2 =
        (handler.submit (commandPayload command.rcmd waferId)).2 := by
  unfold executeCommand
  dsimp only
  split
  · exact .inl rfl
  · split
    · exact .inl rfl
    · split
      · exact .inl rfl
      · refine .inr ⟨(command.params.foldl (scanParam command.rcmd) {}).waferId, ?_⟩
        split
        next failed => rw [failed]
        next done => rw [done]

theorem executeCommand_gem (command : RemoteCommand) :
    (handler.executeCommand command).2.2.gem = handler.gem := by
  obtain same | ⟨waferId, submitted⟩ := handler.executeCommand_submits command
  · rw [same]
  · rw [submitted, submit_gem]

@[simp]
theorem handleRemoteCommand_gem (frame : Frame) (message : Message) :
    (handler.handleRemoteCommand frame message).gem = handler.gem := by
  unfold handleRemoteCommand
  split
  · rfl
  · simp [executeCommand_gem]

/-- Only S1F13 changes the state of the service. -/
theorem handleMessage_gem (now : TimePoint) (frame : Frame) (message : Message) :
    (handler.handleMessage now frame message).gem =
      if message.stream = 1 ∧ message.function = 13 then
        { handler.gem with comm := .communicating }
      else
        handler.gem := by
  unfold handleMessage
  by_cases isS1f13 : message.stream = 1 ∧ message.function = 13
  · obtain ⟨stream, function⟩ := isS1f13
    simp [stream, function]
  · rw [if_neg isS1f13, if_neg isS1f13]
    split
    · simp
    · split
      · simp
      · split
        · simp
        · split
          · simp
          · split <;> simp

end Handler

/-! ## Deliveries -/

/-- The function of stream 9 that a message is refused with. -/
def fault (config : GemConfig) (frame : Frame) : Option UInt8 :=
  if frame.header.sessionId ≠ config.deviceId then
    some 1
  else if frame.body.length > config.maxBodyBytes then
    some 11
  else
    match Hsms.toMessage frame with
    | .error _ => some 7
    | .ok message =>
        match Handler.equipmentFactory.check message with
        | .ok => none
        | .unknownStream => some 3
        | .unknownFunction => some 5
        | .illegalData => some 7

theorem fault_eq_none_iff {config : GemConfig} {frame : Frame} :
    fault config frame = none ↔ frame.header.sessionId = config.deviceId ∧
      frame.body.length ≤ config.maxBodyBytes ∧
      ∃ message, Hsms.toMessage frame = .ok message ∧
        Handler.equipmentFactory.check message = .ok := by
  unfold fault
  by_cases device : frame.header.sessionId = config.deviceId
  · by_cases short : frame.body.length ≤ config.maxBodyBytes
    · rw [if_neg (not_not.mpr device), if_neg (by omega)]
      cases Hsms.toMessage frame with
      | error reason => simp
      | ok message =>
          cases checked : Handler.equipmentFactory.check message <;>
            simp [checked, device, short]
    · rw [if_neg (not_not.mpr device), if_pos (by omega)]
      simp [short]
  · rw [if_pos device]
    simp [device]

namespace Handler

/-- A reply closes its request. -/
theorem onData_answer (handler : Handler) (now : TimePoint) {delivery : Delivery}
    {systemBytes : UInt32} (answer : delivery.replyTo = some systemBytes) :
    handler.onData now delivery =
      { handler with gem :=
          { handler.gem with openRequests := handler.gem.openRequests.erase systemBytes } } := by
  rw [onData, answer]

/-- A message is refused, or it is handed on. -/
theorem onData_primary (handler : Handler) (now : TimePoint) {delivery : Delivery}
    (primary : delivery.replyTo = none) :
    match fault handler.gem.config delivery.frame with
    | some function =>
        handler.onData now delivery = handler.sendS9 function delivery.frame.header
    | none =>
        ∃ message, Hsms.toMessage delivery.frame = .ok message ∧
          equipmentFactory.check message = .ok ∧
          handler.onData now delivery = handler.handleMessage now delivery.frame message := by
  unfold onData fault
  rw [primary]
  dsimp only
  by_cases device : delivery.frame.header.sessionId ≠ handler.gem.config.deviceId
  · rw [if_pos device, if_pos device]
  rw [if_neg device, if_neg device]
  by_cases long : delivery.frame.body.length > handler.gem.config.maxBodyBytes
  · rw [if_pos long, if_pos long]
  rw [if_neg long, if_neg long]
  cases parsed : Hsms.toMessage delivery.frame with
  | error reason => rfl
  | ok message =>
      dsimp only
      cases checked : equipmentFactory.check message with
      | unknownStream | unknownFunction | illegalData => rfl
      | ok => exact ⟨message, rfl, checked, rfl⟩

end Handler

/-- An S1F13 that the service accepts. -/
def establishes (config : GemConfig) (frame : Frame) : Bool :=
  frame.header.sessionId = config.deviceId && frame.body.length ≤ config.maxBodyBytes &&
    match Hsms.toMessage frame with
    | .error _ => false
    | .ok message =>
        message.stream = 1 && message.function = 13 &&
          Handler.equipmentFactory.check message = .ok

theorem establishes_iff {config : GemConfig} {frame : Frame} :
    establishes config frame = true ↔ fault config frame = none ∧
      ∃ message, Hsms.toMessage frame = .ok message ∧ message.stream = 1 ∧
        message.function = 13 := by
  rw [fault_eq_none_iff, establishes]
  cases Hsms.toMessage frame with
  | error reason => simp
  | ok message =>
      simp only [Bool.and_eq_true, decide_eq_true_eq, Except.ok.injEq, exists_eq_left']
      tauto

/-- A delivery that makes the service communicate. -/
def establishing (config : GemConfig) (delivery : Delivery) : Bool :=
  delivery.replyTo.isNone && establishes config delivery.frame

namespace Handler

variable (handler : Handler)

/-- A reply closes its request; any other message matters only if it is an accepted S1F13. -/
theorem onData_gem (now : TimePoint) (delivery : Delivery) :
    (handler.onData now delivery).gem =
      match delivery.replyTo with
      | some systemBytes =>
          { handler.gem with openRequests := handler.gem.openRequests.erase systemBytes }
      | none =>
          if establishes handler.gem.config delivery.frame then
            { handler.gem with comm := .communicating }
          else
            handler.gem := by
  cases replyTo : delivery.replyTo with
  | some systemBytes => rw [handler.onData_answer now replyTo]
  | none =>
      dsimp only
      have handled := handler.onData_primary now replyTo
      cases refusal : fault handler.gem.config delivery.frame with
      | some function =>
          rw [refusal] at handled
          rw [handled, if_neg, sendS9_gem]
          intro accepted
          rw [(establishes_iff.mp accepted).1] at refusal
          cases refusal
      | none =>
          rw [refusal] at handled
          obtain ⟨message, parsed, _, handled⟩ := handled
          rw [handled, handleMessage_gem]
          refine if_congr ?_ rfl rfl
          rw [establishes_iff, and_iff_right refusal, parsed]
          simp

theorem onData_config (now : TimePoint) (delivery : Delivery) :
    (handler.onData now delivery).gem.config = handler.gem.config := by
  rw [onData_gem]
  split
  · rfl
  · split <;> rfl

theorem onData_comm (now : TimePoint) (delivery : Delivery) :
    (handler.onData now delivery).gem.comm =
      if establishing handler.gem.config delivery then .communicating else handler.gem.comm := by
  rw [onData_gem, establishing]
  cases delivery.replyTo with
  | some systemBytes => rfl
  | none => cases establishes handler.gem.config delivery.frame <;> rfl

theorem onData_mem_openRequests (now : TimePoint) (delivery : Delivery) (key : UInt32) :
    key ∈ (handler.onData now delivery).gem.openRequests ↔
      delivery.replyTo ≠ some key ∧ key ∈ handler.gem.openRequests := by
  rw [onData_gem]
  cases delivery.replyTo with
  | some systemBytes => simp [ExtTreeMap.mem_erase]
  | none =>
      dsimp only
      split <;> simp

/-! ## Deliveries and expiries of one call -/

/-- The deliveries of one call, in order. -/
def onDeliveries (now : TimePoint) (deliveries : List Delivery) : Handler :=
  deliveries.foldl (fun handler delivery => handler.onData now delivery) handler

theorem onDeliveries_config (now : TimePoint) (deliveries : List Delivery) :
    (handler.onDeliveries now deliveries).gem.config = handler.gem.config := by
  induction deliveries generalizing handler with
  | nil => rfl
  | cons delivery deliveries ih => exact (ih _).trans (handler.onData_config now delivery)

theorem onDeliveries_comm (now : TimePoint) (deliveries : List Delivery) :
    (handler.onDeliveries now deliveries).gem.comm =
      if deliveries.any (establishing handler.gem.config) then
        .communicating
      else
        handler.gem.comm := by
  induction deliveries generalizing handler with
  | nil => rfl
  | cons delivery deliveries ih =>
      refine (ih _).trans ?_
      rw [onData_config, onData_comm, List.any_cons]
      cases establishing handler.gem.config delivery <;> simp

theorem onDeliveries_mem_openRequests (now : TimePoint) (deliveries : List Delivery)
    (key : UInt32) :
    key ∈ (handler.onDeliveries now deliveries).gem.openRequests ↔
      (∀ delivery ∈ deliveries, delivery.replyTo ≠ some key) ∧
        key ∈ handler.gem.openRequests := by
  induction deliveries generalizing handler with
  | nil => simp [onDeliveries]
  | cons delivery deliveries ih =>
      refine (ih _).trans ?_
      rw [onData_mem_openRequests, List.forall_mem_cons]
      tauto

/-- The expired requests of one call, in order. -/
def onTimeouts (systems : List UInt32) : Handler :=
  systems.foldl onTransactionTimeout handler

theorem onTransactionTimeout_link (system : UInt32) :
    (handler.onTransactionTimeout system).gem.comm = handler.gem.comm ∧
      (handler.onTransactionTimeout system).gem.config = handler.gem.config ∧
      ∀ key, key ∈ (handler.onTransactionTimeout system).gem.openRequests ↔
        system ≠ key ∧ key ∈ handler.gem.openRequests := by
  unfold onTransactionTimeout
  split
  next absent =>
    refine ⟨rfl, rfl, fun key => ⟨fun member => ⟨?_, member⟩, And.right⟩⟩
    rintro rfl
    rw [ExtTreeMap.mem_iff_isSome_getElem?, absent] at member
    cases member
  next sent present => simp [ExtTreeMap.mem_erase]

theorem onTimeouts_link (systems : List UInt32) :
    (handler.onTimeouts systems).gem.comm = handler.gem.comm ∧
      (handler.onTimeouts systems).gem.config = handler.gem.config ∧
      ∀ key, key ∈ (handler.onTimeouts systems).gem.openRequests ↔
        key ∉ systems ∧ key ∈ handler.gem.openRequests := by
  induction systems generalizing handler with
  | nil => simp [onTimeouts]
  | cons system systems ih =>
      obtain ⟨comm, config, keys⟩ := handler.onTransactionTimeout_link system
      obtain ⟨laterComm, laterConfig, laterKeys⟩ := ih (handler.onTransactionTimeout system)
      refine ⟨laterComm.trans comm, laterConfig.trans config, fun key => ?_⟩
      refine (laterKeys key).trans ?_
      rw [keys, List.mem_cons, not_or, ne_comm]
      tauto

/-! ## Events and alarms -/

/-- Sending an event changes neither the communication state nor the open requests. -/
theorem sendEvent_link (ceid : UInt32) (reports : List Report) :
    (handler.sendEvent ceid reports).gem.comm = handler.gem.comm ∧
      (handler.sendEvent ceid reports).gem.config = handler.gem.config ∧
      (handler.sendEvent ceid reports).gem.openRequests = handler.gem.openRequests := by
  unfold sendEvent
  split <;> exact ⟨rfl, rfl, rfl⟩

theorem sendAlarm_gem (alcd : UInt8) (alid : UInt32) (text : Core.Text) :
    (handler.sendAlarm alcd alid text).gem = handler.gem := by
  unfold sendAlarm
  split <;> rfl

theorem onControlStateChanged_link (after : ControlMode) :
    (handler.onControlStateChanged after).gem.comm = handler.gem.comm ∧
      (handler.onControlStateChanged after).gem.config = handler.gem.config ∧
      (handler.onControlStateChanged after).gem.openRequests = handler.gem.openRequests := by
  unfold onControlStateChanged
  dsimp only
  split <;> exact sendEvent_link _ _ _

theorem onResult_link (wafer : Core.WaferResultReady) :
    (handler.onResult wafer).gem.comm = handler.gem.comm ∧
      (handler.onResult wafer).gem.config = handler.gem.config ∧
      (handler.onResult wafer).gem.openRequests = handler.gem.openRequests := by
  unfold onResult
  dsimp only
  have first := sendEvent_link { handler with gem :=
      { handler.gem with wafersProcessed := handler.gem.wafersProcessed + 1 } }
    kCeidWaferScanComplete (resultReport wafer)
  split
  · obtain ⟨comm, config, requests⟩ := sendEvent_link _ kCeidWaferOutOfSpec (resultReport wafer)
    exact ⟨comm.trans first.1, config.trans first.2.1, requests.trans first.2.2⟩
  · exact first

end Handler

end Ssim.Gem
