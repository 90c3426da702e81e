import Ssim.Gem.Equipment

/-!
# The server refines the equipment

`System.equipment` forgets time, bytes and the contents of messages.  A read of
the server absorbs its frames and tells the service the state; a task of the queue
does a part of settling.  What is left to settle stays the same from one task to
the next, in whatever order writes are completed in between.
-/

namespace Ssim.Gem

open Ssim.Core (ControlMode MachineApi)
open Hsms (Frame Delivery Session SessionConfig SessionOutput ConnectionState TimePoint LinkView)
open Secs2 (Message)
open Library.Runs
open Std (ExtTreeMap)

/-! ## Transactions without their deadlines -/

def keysOf (transactions : ExtTreeMap UInt32 TimePoint) : ExtTreeMap UInt32 Unit :=
  transactions.map fun _ _ => ()

@[simp]
theorem mem_keysOf {transactions : ExtTreeMap UInt32 TimePoint} {key : UInt32} :
    key ∈ keysOf transactions ↔ key ∈ transactions :=
  ExtTreeMap.mem_map

@[simp]
theorem keysOf_empty : keysOf ∅ = ∅ :=
  ExtTreeMap.ext_mem_unit fun key => by simp

theorem keysOf_erase (transactions : ExtTreeMap UInt32 TimePoint) (key : UInt32) :
    keysOf (transactions.erase key) = (keysOf transactions).erase key :=
  ExtTreeMap.ext_mem_unit fun other => by simp [ExtTreeMap.mem_erase]

theorem keysOf_insert (transactions : ExtTreeMap UInt32 TimePoint) (key : UInt32)
    (deadline : TimePoint) :
    keysOf (transactions.insert key deadline) = (keysOf transactions).insert key () :=
  ExtTreeMap.ext_mem_unit fun other => by simp [ExtTreeMap.mem_insert]

namespace Equipment

/-- The equipment of a link, a generator of system bytes and a handler. -/
def of (config : SessionConfig) (view : LinkView) (next : UInt32) (handler : Handler) :
    Equipment where
  config := config
  gemConfig := handler.gem.config
  state := view.state
  comm := handler.gem.comm
  preferred := handler.gem.preferredOnlineMode
  api := handler.api
  tasks := work handler.tasks
  table := ⟨keysOf view.transactions, handler.gem.openRequests, next⟩

/-! ## Frames -/

variable {config : SessionConfig} {view : LinkView} {next : UInt32} {handler : Handler}

/-- A delivery that answers no request. -/
theorem deliver_of (now : TimePoint) (frame : Frame) :
    (of config view next handler).deliver frame =
      of config view next (handler.onData now ⟨frame, none⟩) := by
  obtain ⟨api, posted⟩ := handler.onData_react now (show (⟨frame, none⟩ : Delivery).replyTo = none
    from rfl)
  have gem := handler.onData_gem now ⟨frame, none⟩
  dsimp only at gem api posted
  unfold deliver of
  rw [api, posted, gem]
  dsimp only
  split <;> rfl

/-- The frames of a read do to the equipment what the session and the service do. -/
theorem absorb_of (now : TimePoint) (frame : Frame) :
    (of config view next handler).absorb frame =
      of config (view.after frame).1 next (handler.onDeliveries now (view.after frame).2) := by
  unfold absorb
  dsimp only
  split
  next isData isSelected =>
    have isSelected : view.state = .selected := isSelected
    have member : frame.header.systemBytes ∈ (of config view next handler).table.transactions ↔
        frame.header.systemBytes ∈ view.transactions := mem_keysOf
    simp only [LinkView.after, isData, isSelected, member]
    split
    · unfold Handler.onDeliveries
      rw [List.foldl_cons, List.foldl_nil, Handler.onData_answer handler now rfl]
      simp [of, LinkView.erase, RequestTable.close, keysOf_erase]
    · exact deliver_of now frame
  next isSelect before =>
    have before : view.state = .notSelected := before
    simp only [LinkView.after, isSelect, before]
    rfl
  next isDeselect before =>
    have before : view.state = .selected := before
    simp only [LinkView.after, isDeselect, before]
    simp [of, LinkView.closed, Handler.onDeliveries]
  next isReject =>
    simp only [LinkView.after, isReject]
    simp [of, LinkView.erase, RequestTable.close, keysOf_erase, Handler.onDeliveries]
  next isSeparate =>
    simp only [LinkView.after, isSeparate]
    simp [of, LinkView.closed, Handler.onDeliveries]
  next notReject notSeparate notData notSelect notDeselect =>
    have quiet : view.after frame = (view, []) := by
      unfold LinkView.after
      dsimp only
      split
      next isData isSelected => exact (notData isData isSelected).elim
      next isSelect before => exact (notSelect isSelect before).elim
      next isDeselect before => exact (notDeselect isDeselect before).elim
      next isReject => exact (notReject isReject).elim
      next isSeparate => exact (notSeparate isSeparate).elim
      · rfl
    rw [quiet]
    rfl

theorem foldl_absorb_of (now : TimePoint) {frames : List Frame}
    (stays : (view.afterAll frames).1.state ≠ .notConnected) :
    frames.foldl absorb (of config view next handler) =
      of config (view.afterAll frames).1 next
        (handler.onDeliveries now (view.afterAll frames).2) := by
  induction frames generalizing view handler with
  | nil => rfl
  | cons frame frames ih =>
      rw [List.foldl_cons, absorb_of now]
      simp only [LinkView.afterAll] at stays ⊢
      split at stays
      next closed => exact absurd closed stays
      next connected =>
        rw [if_neg connected, ih stays]
        simp [Handler.onDeliveries]

end Equipment

namespace System

/-- What of the server decides how it goes on. -/
def equipment (system : System) : Equipment :=
  .of system.session.config system.session.view system.session.nextSystemBytes system.handler

theorem equipment_of_sameLink {system : System} {server : Server}
    (same : system.server.SameLink server) :
    equipment { system with server := server } = system.equipment := by
  have session : System.session { system with server := server } = system.session := same.session
  rw [equipment, equipment, session]

theorem equipment_notifyState (system : System) :
    system.notifyState.equipment = system.equipment.notified system.server.notifiedState := by
  unfold notifyState Handler.onSessionState Equipment.notified
  have state : system.equipment.state = system.session.state := rfl
  rw [state]
  by_cases new : system.session.state ≠ system.server.notifiedState
  · by_cases outside : system.session.state ≠ .selected
    · have loss : lost system.server.notifiedState system.session.state := ⟨new, outside⟩
      rw [if_pos new, if_pos outside, if_pos loss]
      rfl
    · have kept : ¬ lost system.server.notifiedState system.session.state :=
        fun loss => outside loss.2
      rw [if_pos new, if_neg outside, if_neg kept]
      rfl
  · have kept : ¬ lost system.server.notifiedState system.session.state := fun loss => new loss.1
    rw [if_neg new, if_neg kept]

/-! ## A read -/

/-- A read that leaves the link open absorbs its frames and tells the service the state. -/
theorem equipment_receive {system before : System} (linked : system.Linked)
    (same : system.server.SameLink before.server) (handler : before.handler = system.handler)
    (now : TimePoint) {bytes : List UInt8} (alive : system.session.state ≠ .notConnected)
    (stays : (system.session.readView bytes).1.state ≠ .notConnected) :
    (before.receive now bytes).equipment =
      ((system.session.completed bytes).foldl Equipment.absorb system.equipment).notified
        system.session.state := by
  have session : before.session = system.session := same.session
  have told : before.server.notifiedState = system.session.state :=
    same.notified.trans linked.notified
  obtain ⟨view, deliveries, timedOut, closes⟩ := Session.onBytes_view linked.session alive now bytes
  have source := Session.sameSource_onBytes linked.session alive now bytes
  have configured := Session.onBytes_config system.session now bytes
  unfold receive
  rw [session]
  generalize system.session.onBytes now bytes = result at *
  obtain ⟨after, out⟩ := result
  dsimp only at view deliveries timedOut closes source configured ⊢
  have kept := (before.withSession after).server.sameLink_enqueue out
  have passed : ((before.withSession after).passedOn now out).equipment =
      .of system.session.config (system.session.readView bytes).1
        system.session.nextSystemBytes
        (system.handler.onDeliveries now (system.session.readView bytes).2) := by
    have sameSession : ((before.withSession after).passedOn now out).session = after :=
      kept.session
    have seen : ((before.withSession after).passedOn now out).handler =
        system.handler.onDeliveries now (system.session.readView bytes).2 := by
      simp only [passedOn, handled, withSession, deliveries, timedOut, handler]
      rfl
    rw [equipment, sameSession, seen, view, configured, source.generator]
  rw [apply_eq, if_neg fun closed => stays (closes.mp closed), equipment_notifyState, passed,
    show ((before.withSession after).passedOn now out).server.notifiedState =
      before.server.notifiedState from kept.notified, told]
  have read := Session.readView_of_open stays
  rw [read] at stays ⊢
  rw [equipment, Equipment.foldl_absorb_of now stays]

/-! ## Tasks -/

/-- An output with nothing but bytes to send changes nothing. -/
theorem equipment_apply {system : System}
    (told : system.server.notifiedState = system.session.state) (now : TimePoint)
    (out : SessionOutput) (quiet : out.deliveries = [] ∧ out.timedOut = [] ∧ out.close = false) :
    (system.apply now out).equipment = system.equipment := by
  obtain ⟨deliveries, timedOut, isOpen⟩ := quiet
  have kept := system.server.sameLink_enqueue out
  have seen : system.passedOn now out = { system with server := system.server.enqueue out } := by
    simp only [passedOn, handled, deliveries, timedOut]
    rfl
  have same := equipment_of_sameLink kept
  rw [apply_eq, isOpen, if_neg (by simp), seen, equipment_notifyState, same, kept.notified, told]
  exact Equipment.notified_self

theorem equipment_runReply {system : System}
    (told : system.server.notifiedState = system.session.state) (now : TimePoint)
    (systemBytes : UInt32) (message : Message) :
    (system.runReply now systemBytes message).equipment = system.equipment := by
  unfold runReply
  split
  · rfl
  · obtain ⟨sent, only⟩ := system.session.sendReply_output systemBytes message {}
    rw [only]
    exact equipment_apply told now _ ⟨rfl, rfl, rfl⟩

/-- A message that fits is queued, whatever its system bytes are. -/
theorem queueData_of_fits {session : Session} {message : Message} (systemBytes : UInt32) :
    if fits session.config message then
      ∃ bytes, session.queueData message systemBytes {} = .ok { toSend := [bytes] }
    else
      ∃ reason, session.queueData message systemBytes {} = .error reason := by
  unfold fits Session.queueData
  cases Session.encodeBody message with
  | error reason => exact ⟨reason, rfl⟩
  | ok body =>
      simp only [Bool.and_eq_true, decide_eq_true_eq, Hsms.encodeFrame, Hsms.makeDataFrame,
        gt_iff_lt, ← Nat.not_le]
      by_cases frame : Hsms.kHeaderSize + body.length ≤ session.config.maxFrameBytes
      · by_cases field : Hsms.kHeaderSize + body.length ≤ 0xFFFFFFFF
        · simp [frame, field]
        · simp [frame, field]
      · simp [frame]

/-- The search of the session is that of the table. -/
theorem allocate_equipment {system : System} (noLinktest : system.session.pendingLinktest = none) :
    system.session.allocateSystemBytes = system.equipment.table.allocate.map fun found =>
      (found.1, { system.session with nextSystemBytes := found.2 }) := by
  have inUse : system.session.inUse = system.equipment.table.transactions.contains := by
    funext candidate
    simp [Session.inUse, noLinktest, equipment, Equipment.of, keysOf]
  rw [Session.allocateSystemBytes, inUse]
  rfl

theorem equipment_onSent (system : System) (config : SessionConfig) (message : Message)
    (systemBytes : UInt32) :
    equipment { system with handler := system.handler.onSent message systemBytes } =
      { system.equipment with table :=
          { system.equipment.table with
            openRequests :=
              if message.wBit then
                system.equipment.table.openRequests.insert systemBytes
                  (RequestTable.requestHeader system.equipment.gemConfig.deviceId
                    (sending config message) systemBytes)
              else
                system.equipment.table.openRequests } } := by
  unfold Handler.onSent
  cases message.wBit <;> rfl

/-- A request that the table sends is sent, and open afterwards on both sides. -/
theorem equipment_runRequest {system next : System}
    (told : system.server.notifiedState = system.session.state)
    (connected : system.server.connected = true)
    (isSelected : system.session.state = .selected)
    (noLinktest : system.session.pendingLinktest = none) {now : TimePoint} {message : Message}
    (ran : system.runRequest now message = some next) :
    ∃ table, system.equipment.table.send system.session.config.maxOpenTransactions
        system.handler.gem.config.deviceId (sending system.session.config message) = some table ∧
      next.equipment = { system.equipment with table := table } := by
  unfold runRequest at ran
  rw [if_neg (by simp [connected])] at ran
  obtain ⟨⟨sent, session, out⟩, requested, rfl⟩ := Option.map_eq_some_iff.mp ran
  unfold Session.sendRequest at requested
  rw [if_neg (not_not.mpr isSelected)] at requested
  have size : system.equipment.table.transactions.size = system.session.transactions.size :=
    ExtTreeMap.size_map
  unfold RequestTable.send RequestTable.refuses
  rw [size]
  split at requested
  next full =>
    obtain ⟨rfl, rfl, rfl⟩ := by simpa using requested
    rw [if_pos (by simpa [sending] using full)]
    exact ⟨_, rfl, equipment_apply told now {} ⟨rfl, rfl, rfl⟩⟩
  next room =>
    rw [if_neg (by simpa [sending] using room)]
    rw [allocate_equipment noLinktest, Option.map_map] at requested
    obtain ⟨⟨systemBytes, generator⟩, found, done⟩ := Option.map_eq_some_iff.mp requested
    refine ⟨_, by rw [found]; rfl, ?_⟩
    have queued := @queueData_of_fits { system.session with nextSystemBytes := generator } message
      systemBytes
    simp only [Function.comp_apply] at done
    dsimp only at queued ⊢
    have toldAfter (session : Session) (same : session.state = system.session.state) :
        (system.withSession session).server.notifiedState =
          (system.withSession session).session.state := told.trans same.symm
    cases fitting : fits system.session.config message with
    | false =>
        rw [fitting, if_neg (by simp)] at queued
        obtain ⟨reason, failed⟩ := queued
        rw [failed] at done
        obtain ⟨rfl, same⟩ := Prod.mk.inj done
        obtain ⟨rfl, rfl⟩ := Prod.mk.inj same
        refine (equipment_apply (toldAfter { system.session with nextSystemBytes := generator } rfl)
          now {} ⟨rfl, rfl, rfl⟩).trans ?_
        rw [RequestTable.note, if_neg (by simp [sending, fitting])]
        rfl
    | true =>
        rw [fitting, if_pos rfl] at queued
        obtain ⟨bytes, queued⟩ := queued
        rw [queued] at done
        obtain ⟨rfl, same⟩ := Prod.mk.inj done
        obtain ⟨rfl, rfl⟩ := Prod.mk.inj same
        have applied := equipment_apply (toldAfter (Session.noteSent
          { system.session with nextSystemBytes := generator } now message systemBytes) rfl) now
          { toSend := [bytes] } ⟨rfl, rfl, rfl⟩
        dsimp only
        rw [equipment_onSent _ system.session.config, applied, RequestTable.note]
        cases wanted : message.wBit with
        | false =>
            rw [if_neg (by simp), if_neg (by simp [sending, wanted])]
            simp [Session.noteSent, wanted, withSession, equipment, System.session, Equipment.of,
              Session.view]
        | true =>
            rw [if_pos rfl, if_pos ⟨by simp [sending, fitting], by simp [sending, wanted]⟩]
            simp [Session.noteSent, wanted, withSession, equipment, System.session, Equipment.of,
              Session.view, keysOf_insert]

theorem equipment_runRequest_outside {system next : System}
    (told : system.server.notifiedState = system.session.state)
    (outside : system.session.state ≠ .selected) {now : TimePoint} {message : Message}
    (ran : system.runRequest now message = some next) : next.equipment = system.equipment := by
  unfold runRequest at ran
  split at ran
  · rw [← Option.some.inj ran]
  · rw [Session.sendRequest, if_pos outside] at ran
    rw [← Option.some.inj ran]
    exact equipment_apply told now {} ⟨rfl, rfl, rfl⟩

/-- Without its first task, the queue has the rest of the work. -/
theorem settle_request {equipment : Equipment} {message : Message} {tasks : List Task}
    (isSelected : equipment.state = .selected)
    (waiting : equipment.tasks = .request message :: tasks) {table : RequestTable}
    (sent : equipment.table.send equipment.config.maxOpenTransactions
      equipment.gemConfig.deviceId (sending equipment.config message) = some table) :
    equipment.settle = Equipment.settle { equipment with table := table, tasks := tasks } := by
  have outgoing : equipment.outgoing = sending equipment.config message ::
      Equipment.outgoing { equipment with table := table, tasks := tasks } := by
    simp only [Equipment.outgoing, Equipment.requests, Equipment.raised, waiting]
    rfl
  have later : Equipment.settle { equipment with table := table, tasks := tasks } = _ :=
    Equipment.settle_selected isSelected
  rw [Equipment.settle_selected isSelected, outgoing, later, RequestTable.sendAll,
    List.foldlM_cons, sent]
  rfl

/-- Running an event leaves as much to send as before. -/
theorem settle_event {equipment next : Equipment} {task : Task} {tasks : List Task}
    {messages : List Message} (event : task.message = none)
    (waiting : equipment.tasks = task :: tasks)
    (raises : equipment.comm = .communicating →
      raisedBy equipment.config equipment.gemConfig [task] =
        messages.map (sending equipment.config))
    (silent : equipment.comm ≠ .communicating → messages = [])
    (after : next = { equipment with tasks := tasks ++ messages.map Task.request }) :
    equipment.settle = next.settle := by
  subst after
  have nothing : raisedBy equipment.config equipment.gemConfig (messages.map Task.request) = [] :=
    List.flatMap_eq_nil_iff.mpr fun task posted => by
      obtain ⟨message, _, rfl⟩ := List.mem_map.mp posted
      rfl
  have own : requestsOf equipment.config (task :: tasks) = requestsOf equipment.config tasks := by
    simp [requestsOf, event]
  have outgoing : equipment.outgoing =
      Equipment.outgoing { equipment with tasks := tasks ++ messages.map Task.request } := by
    simp only [Equipment.outgoing, Equipment.requests, Equipment.raised, waiting, own,
      requestsOf_append, raisedBy_append, requestsOf_requests, nothing, List.append_nil]
    by_cases talks : equipment.comm = .communicating
    · rw [if_pos talks, if_pos talks, ← raises talks, List.append_assoc]
      rw [← List.singleton_append, raisedBy_append]
    · rw [if_neg talks, if_neg talks, silent talks]
      simp
  unfold Equipment.settle
  rw [outgoing]

/-- The modes that the service has still to be told are the one it prefers. -/
def ToldModes (handler : Handler) : Prop :=
  ∀ mode ∈ handler.control.awaiting, mode = handler.control.preferred

theorem settle_onEvent {system : System} {task : Task} {rest : List Task}
    (queue : system.handler.tasks = task :: rest) (modes : ToldModes system.handler)
    (isEvent : task.message = none) (noReply : task.isReply = false) :
    Equipment.settle (equipment
      { system with handler := ({ system.handler with tasks := rest } : Handler).onEvent task }) =
      system.equipment.settle := by
  have waiting : system.equipment.tasks = task :: work rest := by
    have tasks : system.equipment.tasks = work (task :: rest) := congrArg work queue
    rw [tasks, work, List.filter_cons_of_pos (by simp [noReply])]
    rfl
  have preferred : Handler.preferredAfter { system.handler with tasks := rest } task =
      system.handler.gem.preferredOnlineMode := by
    unfold Handler.preferredAfter
    cases told : task.onlineMode with
    | none => rfl
    | some mode =>
        refine modes mode ?_
        change mode ∈ onlineModes system.handler.tasks
        rw [queue, onlineModes, List.filterMap_cons_some told]
        exact List.mem_cons_self
  obtain ⟨config, comm, mode, openRequests, api, tasks⟩ :=
    Handler.posts_onEvent { system.handler with tasks := rest } task
  have requests (messages : List Message) :
      work (messages.map Task.request) = messages.map Task.request :=
    List.filter_eq_self.mpr fun posted member => by
      obtain ⟨message, _, rfl⟩ := List.mem_map.mp member
      rfl
  refine (settle_event isEvent waiting
    (fun talks => @Handler.raisedBy_singleton { system.handler with tasks := rest }
      system.session.config talks task)
    (fun silent => @Handler.messagesOf_silent { system.handler with tasks := rest } silent task)
    ?_).symm
  unfold equipment Equipment.of
  simp only [config, comm, mode, preferred, openRequests, api, tasks, work_append, requests]
  rfl

/-- The rest of the queue. -/
def popped (system : System) (rest : List Task) : System :=
  { system with handler := { system.handler with tasks := rest } }

theorem equipment_popped (system : System) (rest : List Task) :
    (system.popped rest).equipment = { system.equipment with tasks := work rest } :=
  rfl

theorem settle_runRequest {system next : System} {now : TimePoint} {message : Message}
    {rest : List Task} (linked : system.Linked)
    (noLinktest : system.session.pendingLinktest = none)
    (queue : system.handler.tasks = .request message :: rest)
    (ran : (system.popped rest).runRequest now message = some next) :
    next.equipment.settle = system.equipment.settle := by
  have waiting : system.equipment.tasks = .request message :: work rest :=
    (congrArg work queue).trans rfl
  by_cases isSelected : system.session.state = .selected
  · have connected : system.server.connected = true :=
      linked.socket.mpr (by rw [isSelected]; decide)
    obtain ⟨table, sent, same⟩ :=
      @equipment_runRequest (system.popped rest) next linked.notified connected isSelected
        noLinktest now message ran
    rw [same, equipment_popped]
    exact (settle_request isSelected waiting sent).symm
  · have same := @equipment_runRequest_outside (system.popped rest) next linked.notified isSelected
      now message ran
    have outside : system.equipment.state ≠ .selected := isSelected
    rw [same, equipment_popped, Equipment.settle_outside outside]
    exact Equipment.settle_outside outside

theorem settle_runReply {system : System} {now : TimePoint} {systemBytes : UInt32}
    {message : Message} {rest : List Task} (linked : system.Linked)
    (queue : system.handler.tasks = .reply systemBytes message :: rest) :
    ((system.popped rest).runReply now systemBytes message).equipment.settle =
      system.equipment.settle := by
  have waiting : system.equipment.tasks = work rest := (congrArg work queue).trans rfl
  have same := @equipment_runReply (system.popped rest) linked.notified now systemBytes message
  rw [same, equipment_popped, ← waiting]

theorem runTask_event (system : System) (now : TimePoint) {task : Task}
    (isEvent : task.message = none) (noReply : task.isReply = false) :
    system.runTask now task = some { system with handler := system.handler.onEvent task } := by
  cases task with
  | request message => cases isEvent
  | reply systemBytes message => cases noReply
  | _ => rfl

/-- What is left to settle stays the same when the first task is run. -/
theorem settle_task {system next : System} {now : TimePoint} (linked : system.Linked)
    (noLinktest : system.session.pendingLinktest = none) (modes : ToldModes system.handler)
    (taken : system.step (.task now) = some next) :
    next.equipment.settle = system.equipment.settle := by
  simp only [step] at taken
  split at taken
  · cases taken
  next task rest queue =>
    cases isReply : task.isReply with
    | true =>
        cases task with
        | reply systemBytes message =>
            have ran : some ((system.popped rest).runReply now systemBytes message) = some next :=
              taken
            rw [← Option.some.inj ran, settle_runReply linked queue]
        | _ => cases isReply
    | false =>
        cases isRequest : task.message with
        | some message =>
            cases task with
            | request message => exact settle_runRequest linked noLinktest queue taken
            | _ => cases isRequest
        | none =>
            rw [runTask_event _ now isRequest isReply] at taken
            rw [← Option.some.inj taken]
            exact settle_onEvent queue modes isRequest isReply

end System

end Ssim.Gem
