import Ssim.Gem.ControlAuthority
import Ssim.Gem.RequestTable
import Ssim.Secs2.RoundTrip

/-!
# The requests that a task stands for

A request in the queue is sent as it is.  An event or an alarm posts its requests
when its task is run, and only while the service communicates.  How a request is
sent depends on its shape alone: neither the number of an event nor the states it
reports change that, so the requests of a task are known before it is run.
-/

namespace Ssim.Gem

open Ssim.Core (ControlMode ProcessState Text)
open Hsms (Session SessionConfig)
open Secs2 (Item Message)

/-! ## Requests by their shape -/

/-- The body can be encoded, and the frame is not too long. -/
def fits (config : SessionConfig) (message : Message) : Bool :=
  match Session.encodeBody message with
  | .error _ => false
  | .ok body =>
      Hsms.kHeaderSize + body.length ≤ config.maxFrameBytes &&
        Hsms.kHeaderSize + body.length ≤ 0xFFFFFFFF

def sending (config : SessionConfig) (message : Message) : Sending :=
  ⟨message.stream, message.function, message.wBit, fits config message⟩

def Task.message : Task → Option Message
  | .request message => some message
  | _ => none

/-- The requests among the tasks. -/
def requestsOf (config : SessionConfig) (tasks : List Task) : List Sending :=
  (tasks.filterMap Task.message).map (sending config)

namespace Handler

/-- The handler of an event or an alarm that a bus subscription has posted. -/
def onEvent (handler : Handler) : Task → Handler
  | .request _ => handler
  | .reply _ _ => handler
  | .processStateChanged after => handler.onProcessStateChanged after
  | .controlStateChanged after => handler.onControlStateChanged after
  | .scanStarted waferId slot => handler.onScanStarted waferId slot
  | .result wafer => handler.onResult wafer
  | .runAborted => handler.onRunAborted
  | .alarm set id text => handler.onAlarm set id text

/-- A service that communicates and has nothing to do. -/
def talking (config : GemConfig) : Handler :=
  ⟨{ GemService.fresh config 0 with comm := .communicating }, .fresh, []⟩

end Handler

/-- The requests that the events among the tasks post while the service communicates. -/
def raisedBy (config : SessionConfig) (gem : GemConfig) (tasks : List Task) : List Sending :=
  tasks.flatMap fun task => requestsOf config ((Handler.talking gem).onEvent task).tasks

theorem requestsOf_append (config : SessionConfig) (before after : List Task) :
    requestsOf config (before ++ after) = requestsOf config before ++ requestsOf config after := by
  simp [requestsOf]

theorem raisedBy_append (config : SessionConfig) (gem : GemConfig) (before after : List Task) :
    raisedBy config gem (before ++ after) =
      raisedBy config gem before ++ raisedBy config gem after :=
  List.flatMap_append

/-! ## The shape of an event does not depend on its values -/

/-- As many reports, with values of the same sizes. -/
def SameReports (first second : List Report) : Prop :=
  List.Forall₂ (fun one other => List.Forall₂ Item.SameSize one.values other.values) first second

theorem SameReports.refl (reports : List Report) : SameReports reports reports :=
  List.forall₂_same.mpr fun _ _ => List.forall₂_same.mpr fun _ _ => .refl _

theorem fits_of_sameSize {config : SessionConfig} {stream function : UInt8} {wBit : Bool}
    {first second : Item} (same : first.SameSize second) :
    fits config ⟨stream, function, wBit, some first⟩ =
      fits config ⟨stream, function, wBit, some second⟩ := by
  have fitting (item : Item) : fits config ⟨stream, function, wBit, some item⟩ = true ↔
      ∃ bytes, Secs2.encode item = .ok bytes ∧
        (Hsms.kHeaderSize + bytes.length ≤ config.maxFrameBytes ∧
          Hsms.kHeaderSize + bytes.length ≤ 0xFFFFFFFF) := by
    unfold fits Session.encodeBody
    cases encoded : Secs2.encode item <;> simp [encoded]
  rw [Bool.eq_iff_iff, fitting, fitting]
  exact same.encode fun length => Hsms.kHeaderSize + length ≤ config.maxFrameBytes ∧
    Hsms.kHeaderSize + length ≤ 0xFFFFFFFF

/-- Neither the number of an event nor the values of its reports matter for how it is sent. -/
theorem sending_makeS6f11 {first second : List Report} (config : SessionConfig)
    (dataid other ceid : UInt32) (same : SameReports first second) :
    sending config (makeS6f11 ⟨dataid, ceid, first⟩) =
      sending config (makeS6f11 ⟨other, ceid, second⟩) := by
  have number : Item.SameSize (.u4 dataid) (.u4 other) := .array rfl rfl
  have reports : Item.SameSize
      (.list (first.map fun report => .list [.u4 report.rptid, .list report.values]))
      (.list (second.map fun report => .list [.u4 report.rptid, .list report.values])) := by
    refine .list (List.forall₂_map_left_iff.mpr (List.forall₂_map_right_iff.mpr ?_))
    refine same.imp fun one two values => ?_
    exact .list (.cons (.array rfl rfl) (.cons (.list values) .nil))
  unfold sending makeS6f11
  rw [fits_of_sameSize (.list (.cons number (.cons (.refl _) (.cons reports .nil))))]

theorem sameReports_states (control other : ControlMode) (process another : ProcessState) :
    SameReports (Handler.statesReport control process) (Handler.statesReport other another) :=
  .cons (.cons (.array rfl rfl) (.cons (.array rfl rfl) .nil)) .nil

theorem requestsOf_requests (config : SessionConfig) (messages : List Message) :
    requestsOf config (messages.map Task.request) = messages.map (sending config) := by
  simp [requestsOf, Task.message, List.filterMap_map, Function.comp_def]

namespace Handler

/-- The next handler has posted these requests, and prefers this mode. -/
structure Posts (handler next : Handler) (preferred : ControlMode) (messages : List Message) :
    Prop where
  config : next.gem.config = handler.gem.config
  comm : next.gem.comm = handler.gem.comm
  preferred : next.gem.preferredOnlineMode = preferred
  openRequests : next.gem.openRequests = handler.gem.openRequests
  api : next.api = handler.api
  tasks : next.tasks = handler.tasks ++ messages.map Task.request

theorem Posts.trans {first second third : Handler} {preferred other : ControlMode}
    {messages later : List Message} (one : first.Posts second preferred messages)
    (two : second.Posts third other later) : first.Posts third other (messages ++ later) where
  config := two.config.trans one.config
  comm := two.comm.trans one.comm
  preferred := two.preferred
  openRequests := two.openRequests.trans one.openRequests
  api := two.api.trans one.api
  tasks := by rw [two.tasks, one.tasks, List.map_append, List.append_assoc]

/-- The message of an event, unless the service does not communicate. -/
def eventMessages (handler : Handler) (ceid : UInt32) (reports : List Report) : List Message :=
  if handler.gem.comm = .communicating then
    [makeS6f11 ⟨handler.gem.nextDataid, ceid, reports⟩]
  else
    []

theorem posts_sendEvent (handler : Handler) (ceid : UInt32) (reports : List Report) :
    handler.Posts (handler.sendEvent ceid reports) handler.gem.preferredOnlineMode
      (handler.eventMessages ceid reports) := by
  unfold sendEvent eventMessages
  by_cases talks : handler.gem.comm = .communicating
  · rw [if_neg (not_not.mpr talks), if_pos talks]
    exact ⟨rfl, rfl, rfl, rfl, rfl, rfl⟩
  · rw [if_pos talks, if_neg talks]
    exact ⟨rfl, rfl, rfl, rfl, rfl, (List.append_nil _).symm⟩

/-- While the service communicates, an event is sent like one of another service. -/
theorem sending_eventMessages {handler other : Handler} (config : SessionConfig) (ceid : UInt32)
    {reports others : List Report} (same : SameReports reports others)
    (talks : handler.gem.comm = .communicating) (too : other.gem.comm = .communicating) :
    (handler.eventMessages ceid reports).map (sending config) =
      (other.eventMessages ceid others).map (sending config) := by
  rw [eventMessages, eventMessages, if_pos talks, if_pos too]
  simp only [List.map_cons, List.map_nil]
  rw [sending_makeS6f11 config _ _ ceid same]

theorem eventMessages_silent {handler : Handler} (silent : handler.gem.comm ≠ .communicating)
    (ceid : UInt32) (reports : List Report) : handler.eventMessages ceid reports = [] :=
  if_neg silent

/-- The mode that the service prefers once it has been told. -/
def preferredAfter (handler : Handler) (task : Task) : ControlMode :=
  task.onlineMode.getD handler.gem.preferredOnlineMode

theorem posts_onControlStateChanged (handler : Handler) (after : ControlMode) :
    handler.Posts (handler.onControlStateChanged after)
      (handler.preferredAfter (.controlStateChanged after))
      (handler.eventMessages kCeidControlStateChanged
        (statesReport after handler.api.snapshot.processState)) := by
  by_cases offline : after = .offline
  · subst offline
    exact posts_sendEvent _ _ _
  · simp only [onControlStateChanged, preferredAfter, Task.onlineMode, onlineMode, offline, ne_eq,
      not_false_eq_true, if_true, if_false, Option.getD_some]
    obtain ⟨config, comm, preferred, openRequests, api, tasks⟩ := posts_sendEvent
      { handler with gem := { handler.gem with preferredOnlineMode := after } }
      kCeidControlStateChanged (statesReport after handler.api.snapshot.processState)
    exact ⟨config, comm, preferred, openRequests, api, tasks⟩

/-- The messages of a result, and of one that is out of specification. -/
def resultMessages (handler : Handler) (wafer : Core.WaferResultReady) : List Message :=
  let complete := handler.sendEvent kCeidWaferScanComplete (resultReport wafer)
  handler.eventMessages kCeidWaferScanComplete (resultReport wafer) ++
    if wafer.outOfSpec then
      complete.eventMessages kCeidWaferOutOfSpec (resultReport wafer)
    else
      []

theorem posts_onResult (handler : Handler) (wafer : Core.WaferResultReady) :
    handler.Posts (handler.onResult wafer) handler.gem.preferredOnlineMode
      (resultMessages { handler with gem :=
        { handler.gem with wafersProcessed := handler.gem.wafersProcessed + 1 } } wafer) := by
  have counted : handler.Posts { handler with gem :=
      { handler.gem with wafersProcessed := handler.gem.wafersProcessed + 1 } }
      handler.gem.preferredOnlineMode [] := ⟨rfl, rfl, rfl, rfl, rfl, (List.append_nil _).symm⟩
  have complete := counted.trans (posts_sendEvent _ kCeidWaferScanComplete (resultReport wafer))
  unfold onResult resultMessages
  dsimp only
  split
  · have both := complete.trans (posts_sendEvent _ kCeidWaferOutOfSpec (resultReport wafer))
    rw [complete.preferred] at both
    exact both
  · rw [List.append_nil]
    exact complete

/-- The messages of an alarm, unless the service does not communicate. -/
def alarmMessages (handler : Handler) (set : Bool) (id : Core.AlarmId) (text : Text) :
    List Message :=
  if handler.gem.comm = .communicating then
    [makeS5f1 ⟨(if set then kAlcdSetBit else 0) ||| kAlarmCategory, UInt32.ofNat id.toNat, text⟩]
  else
    []

theorem posts_onAlarm (handler : Handler) (set : Bool) (id : Core.AlarmId) (text : Text) :
    handler.Posts (handler.onAlarm set id text) handler.gem.preferredOnlineMode
      (handler.alarmMessages set id text) := by
  unfold onAlarm sendAlarm alarmMessages
  by_cases talks : handler.gem.comm = .communicating
  · rw [if_neg (not_not.mpr talks), if_pos talks]
    exact ⟨rfl, rfl, rfl, rfl, rfl, rfl⟩
  · rw [if_pos talks, if_neg talks]
    exact ⟨rfl, rfl, rfl, rfl, rfl, (List.append_nil _).symm⟩

/-- The messages that the handler of a task posts. -/
def messagesOf (handler : Handler) : Task → List Message
  | .request _ => []
  | .reply _ _ => []
  | .processStateChanged after =>
      handler.eventMessages kCeidProcessStateChanged
        (statesReport handler.api.snapshot.controlMode after)
  | .controlStateChanged after =>
      handler.eventMessages kCeidControlStateChanged
        (statesReport after handler.api.snapshot.processState)
  | .scanStarted waferId slot =>
      handler.eventMessages kCeidWaferScanStarted
        [⟨kRptidScanStarted,
          [.ascii waferId, .u1 (lowByte slot), .u1 (lowByte handler.gem.config.numLines)]⟩]
  | .result wafer =>
      resultMessages { handler with gem :=
        { handler.gem with wafersProcessed := handler.gem.wafersProcessed + 1 } } wafer
  | .runAborted =>
      handler.eventMessages kCeidRunAborted
        (statesReport handler.api.snapshot.controlMode handler.api.snapshot.processState)
  | .alarm set id text => handler.alarmMessages set id text

theorem posts_onEvent (handler : Handler) (task : Task) :
    handler.Posts (handler.onEvent task) (handler.preferredAfter task)
      (handler.messagesOf task) := by
  cases task with
  | request message => exact ⟨rfl, rfl, rfl, rfl, rfl, (List.append_nil _).symm⟩
  | reply systemBytes message => exact ⟨rfl, rfl, rfl, rfl, rfl, (List.append_nil _).symm⟩
  | processStateChanged after => exact posts_sendEvent _ _ _
  | controlStateChanged after => exact posts_onControlStateChanged _ _
  | scanStarted waferId slot => exact posts_sendEvent _ _ _
  | result wafer => exact posts_onResult _ _
  | runAborted => exact posts_sendEvent _ _ _
  | alarm set id text => exact posts_onAlarm _ _ _ _

theorem messagesOf_silent {handler : Handler} (silent : handler.gem.comm ≠ .communicating)
    (task : Task) : handler.messagesOf task = [] := by
  cases task with
  | result wafer => simp [messagesOf, resultMessages, eventMessages, sendEvent_link, silent]
  | alarm set id text => exact if_neg silent
  | request message => rfl
  | reply systemBytes message => rfl
  | _ => exact eventMessages_silent silent _ _

/-- While both communicate, two services post alike for the same task. -/
theorem sending_messagesOf {handler other : Handler} (config : SessionConfig)
    (gem : other.gem.config = handler.gem.config)
    (talks : handler.gem.comm = .communicating) (too : other.gem.comm = .communicating)
    (task : Task) :
    (handler.messagesOf task).map (sending config) =
      (other.messagesOf task).map (sending config) := by
  cases task with
  | request message => rfl
  | reply systemBytes message => rfl
  | processStateChanged after =>
      exact sending_eventMessages config _ (sameReports_states _ _ _ _) talks too
  | controlStateChanged after =>
      exact sending_eventMessages config _ (sameReports_states _ _ _ _) talks too
  | scanStarted waferId slot =>
      simp only [messagesOf, gem]
      exact sending_eventMessages config _ (.refl _) talks too
  | result wafer =>
      simp only [messagesOf, resultMessages, List.map_append]
      congr 1
      · exact sending_eventMessages config _ (.refl _) talks too
      · split
        · exact sending_eventMessages config _ (.refl _)
            ((sendEvent_link _ _ _).1.trans talks) ((sendEvent_link _ _ _).1.trans too)
        · rfl
  | runAborted => exact sending_eventMessages config _ (sameReports_states _ _ _ _) talks too
  | alarm set id text =>
      rw [messagesOf, messagesOf, alarmMessages, alarmMessages, if_pos talks, if_pos too]

/-- While the service communicates, what a task posts is what `raisedBy` says. -/
theorem raisedBy_singleton {handler : Handler} (config : SessionConfig)
    (talks : handler.gem.comm = .communicating) (task : Task) :
    raisedBy config handler.gem.config [task] =
      (handler.messagesOf task).map (sending config) := by
  have posted := (posts_onEvent (talking handler.gem.config) task).tasks
  have nothing : (talking handler.gem.config).tasks = [] := rfl
  rw [raisedBy, List.flatMap_singleton, posted, nothing, List.nil_append, requestsOf_requests]
  exact @sending_messagesOf (talking handler.gem.config) handler config rfl rfl talks task

end Handler

end Ssim.Gem
