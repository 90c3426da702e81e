import Ssim.Gem.Refinement

/-!
# How a stream is cut into reads

A host sends frames on one connection.  The bytes arrive in any reads, and after
each of them the posted tasks are run to completion.  The connection state at the
end depends on the frames alone.  The communication state and the open requests
do so as well, as long as no read hands on a frame that may not be absorbed behind
those before it.
-/

namespace Ssim.Gem

open Ssim.Core (ControlMode MachineApi)
open Hsms (Frame Delivery Session SessionConfig SessionOutput ConnectionState TimePoint LinkView
  FrameDecoder)
open Library.Runs
open Std (ExtTreeMap)

namespace System

/-! ## Cuttings -/

/-- A read of the open connection with nothing left to do, or a part of doing it. -/
def takesPart (system : System) : Input → Bool
  | .read operation _ _ =>
      system.server.pendingReads[operation]? = some system.server.generation &&
        system.server.connected && system.handler.tasks.isEmpty
  | .task _ => true
  | .written _ => true
  | _ => false

def Input.bytes : Input → List UInt8
  | .read _ _ bytes => bytes
  | _ => []

/-- All bytes that were read. -/
def received (inputs : List Input) : List UInt8 :=
  inputs.flatMap Input.bytes

/--
A run that receives a stream and does nothing else: every byte of it, or all up to
the end of the connection.
-/
structure Cutting (system : System) (stream : List UInt8) (inputs : List Input)
    (final : System) : Prop where
  reached : run step system inputs = some final
  part : Meets step (fun state input => state.takesPart input = true) system inputs
  front : received inputs <+: stream
  whole : final.server.connected = true → received inputs = stream
  drained : final.handler.tasks = []

/--
The read closes the connection, or each of its frames may be absorbed behind those
before it.
-/
def orderly (system : System) : Input → Bool
  | .read _ _ bytes =>
      (system.session.readView bytes).1.state = .notConnected ||
        along Equipment.absorb (Equipment.harmless system.session.state) system.equipment
          (system.session.completed bytes)
  | _ => true

/-! ## What a host message tells the service of its mode -/

theorem toldModes_onData {handler : Handler} (modes : ToldModes handler) (now : TimePoint)
    (delivery : Delivery) : ToldModes (handler.onData now delivery) := by
  have kept {next : Handler} (awaiting : next.control.awaiting = handler.control.awaiting)
      (preferred : next.control.preferred = handler.control.preferred) : ToldModes next := by
    intro mode member
    exact (modes mode (awaiting ▸ member)).trans preferred.symm
  by_cases stays : ∀ message, Handler.hostMessage handler.gem.config delivery = some message →
      handler.mayGoOnline message = false
  · rcases handler.onData_control now delivery stays with same | same
    · exact kept (by rw [same]) (by rw [same])
    · exact kept (by rw [same]) (by rw [same])
  · simp only [not_forall, Bool.not_eq_false] at stays
    obtain ⟨message, accepted, online⟩ := stays
    rw [Handler.onData_eq_goOnline now accepted online]
    have control := handler.goOnline_control delivery.frame
    split at control
    · intro mode awaiting
      rw [control] at awaiting ⊢
      rcases List.mem_append.mp awaiting with earlier | new
      · exact modes mode earlier
      · unfold onlineMode at new
        split at new
        · cases new
        · exact List.mem_singleton.mp new
    · exact kept (by rw [control]) (by rw [control])

theorem toldModes_onDeliveries {handler : Handler} (modes : ToldModes handler) (now : TimePoint)
    (deliveries : List Delivery) : ToldModes (handler.onDeliveries now deliveries) := by
  induction deliveries generalizing handler with
  | nil => exact modes
  | cons delivery deliveries ih => exact ih (toldModes_onData modes now delivery)

theorem toldModes_of_told {before after : Handler} (modes : ToldModes before)
    (told : before.control.Told after.control) : ToldModes after := by
  intro mode awaiting
  rcases told with same | ⟨newest, rest, queue, same⟩
  · rw [same] at awaiting ⊢
    exact modes mode awaiting
  · rw [same] at awaiting ⊢
    have first := modes newest (queue ▸ List.mem_cons_self)
    exact (modes mode (queue ▸ List.mem_cons_of_mem newest awaiting)).trans first.symm

/-! ## One step of a cutting -/

/-- An output does not change the session, unless it closes a connection that is not over. -/
theorem apply_session {system : System} (now : TimePoint) {out : SessionOutput}
    (closes : out.close = true → system.session.state = .notConnected) :
    (system.apply now out).session = system.session := by
  have told : (system.passedOn now out).notifyState.session = system.session := by
    rw [System.session, notifyState_server]
    exact (system.server.sameLink_enqueue out).session
  rw [apply_eq]
  split
  next closed =>
    rw [System.session, closeSocket_server, told, Session.onDisconnect_of_idle (closes closed)]
  · exact told

theorem apply_handler_control {system : System} (now : TimePoint) (out : SessionOutput) :
    (system.apply now out).handler.control = (system.handled now out).control := by
  rw [apply_eq]
  split
  · rw [closeSocket_control, notifyState_control]
    rfl
  · rw [notifyState_control]
    rfl

/-- A completed read of the current connection is `receive`, and starts the next read. -/
theorem step_read {system next : System} {operation : Nat} {now : TimePoint} {bytes : List UInt8}
    (current : system.server.pendingReads[operation]? = some system.server.generation)
    (taken : system.step (.read operation now bytes) = some next) :
    ∃ before : System, system.server.SameLink before.server ∧ before.handler = system.handler ∧
      (before.receive now bytes).server.SameLink next.server ∧
      next.handler = (before.receive now bytes).handler := by
  obtain ⟨⟨generation, before⟩, found, rfl⟩ := Option.map_eq_some_iff.mp taken
  obtain ⟨pending, same, handler⟩ := takeRead_eq_some found
  rw [current] at pending
  obtain rfl := Option.some.inj pending
  refine ⟨before, same, handler, ?_⟩
  simp only [readCompleted, same.generation, ne_eq, not_true, if_false]
  split
  · exact ⟨Server.sameLink_readNext _, rfl⟩
  · exact ⟨⟨rfl, rfl, rfl, rfl⟩, rfl⟩

theorem session_receive {system before : System} (linked : system.Linked)
    (same : system.server.SameLink before.server) (now : TimePoint) (bytes : List UInt8) :
    (before.receive now bytes).session = (system.session.onBytes now bytes).1 := by
  have session : before.session = system.session := same.session
  unfold receive
  rw [session]
  exact apply_session now (Session.invariant_onBytes linked.session now bytes).2

theorem toldModes_receive {system before : System} (linked : system.Linked)
    (same : system.server.SameLink before.server) (handler : before.handler = system.handler)
    (alive : system.session.state ≠ .notConnected) (modes : ToldModes system.handler)
    (now : TimePoint) (bytes : List UInt8) : ToldModes (before.receive now bytes).handler := by
  have session : before.session = system.session := same.session
  have timedOut := (Session.onBytes_view linked.session alive now bytes).2.2.1
  unfold receive
  rw [session]
  generalize system.session.onBytes now bytes = result at timedOut
  obtain ⟨after, out⟩ := result
  dsimp only at timedOut ⊢
  have delivered := toldModes_onDeliveries modes now out.deliveries
  have seen : (before.withSession after).handled now out =
      system.handler.onDeliveries now out.deliveries := by
    simp only [handled, withSession, handler, timedOut]
    rfl
  unfold ToldModes at delivered ⊢
  rwa [apply_handler_control, seen]

/-- The connection state, the decoder and the Linktest are the same. -/
structure SameInput (session next : Session) : Prop where
  state : next.state = session.state
  decoder : next.decoder = session.decoder
  linktest : next.pendingLinktest = session.pendingLinktest

theorem sameInput_runTask {system next : System} {now : TimePoint} {task : Task}
    (ran : system.runTask now task = some next) : SameInput system.session next.session := by
  cases isReply : task.isReply with
  | true =>
      cases task with
      | reply systemBytes message =>
          rw [← Option.some.inj ran, runReply]
          split
          · exact ⟨rfl, rfl, rfl⟩
          · obtain ⟨sent, only⟩ := system.session.sendReply_output systemBytes message {}
            rw [only, apply_session now (fun closed => by cases closed)]
            exact ⟨rfl, rfl, rfl⟩
      | _ => cases isReply
  | false =>
      cases isRequest : task.message with
      | none =>
          rw [runTask_event _ now isRequest isReply] at ran
          rw [← Option.some.inj ran]
          exact ⟨rfl, rfl, rfl⟩
      | some message =>
          cases task with
          | request message =>
              have ran : system.runRequest now message = some next := ran
              unfold runRequest at ran
              split at ran
              · rw [← Option.some.inj ran]
                exact ⟨rfl, rfl, rfl⟩
              · obtain ⟨⟨sent, session, out⟩, requested, rfl⟩ := Option.map_eq_some_iff.mp ran
                cases Session.sendRequest_effect requested with
                | failed reason generator =>
                    dsimp only
                    rw [apply_session now (fun closed => by cases closed)]
                    exact ⟨rfl, rfl, rfl⟩
                | sent isSelected systemBytes generator room nonzero unused notLinktest bytes =>
                    change SameInput _ (System.session (System.apply _ now _))
                    rw [apply_session now (fun closed => by cases closed)]
                    exact ⟨rfl, rfl, rfl⟩
          | _ => cases isRequest

/-! ## A run that receives a stream -/

theorem received_concat (inputs : List Input) (input : Input) :
    received (inputs ++ [input]) = received inputs ++ input.bytes := by
  simp [received]

/-- The decoder with these bytes of an unfinished frame. -/
def decoderWith (config : SessionConfig) (rest : List UInt8) : FrameDecoder :=
  { FrameDecoder.fresh config.maxFrameBytes with buffer := rest }

/-- The bytes so far have completed some frames, and the session is where these lead. -/
structure Following (config : SessionConfig) (start : ConnectionState) (inputs : List Input)
    (system : System) : Prop where
  linked : system.Linked
  configured : system.session.config = config
  linktest : system.session.pendingLinktest = none
  modes : ToldModes system.handler
  silent : system.session.state = .notConnected →
    system.handler.gem.comm = .notCommunicating ∧ system.handler.gem.openRequests = ∅
  decoded : ∃ done rest,
    FrameDecoder.scan config.maxFrameBytes (received inputs) = .ok (done, rest) ∧
      system.session.state = done.foldl LinkView.nextState start ∧
      (system.session.state ≠ .notConnected → system.session.decoder = decoderWith config rest)

/-- More of a stream of well-formed frames completes more frames. -/
theorem feed_of_front {config : SessionConfig} {frames done : List Frame}
    {stream before bytes rest : List UInt8}
    (encodes : FrameDecoder.Encodes config.maxFrameBytes frames stream)
    (front : before ++ bytes <+: stream)
    (scanned : FrameDecoder.scan config.maxFrameBytes before = .ok (done, rest)) :
    ∃ more left, (decoderWith config rest).feed bytes = (.ok more, decoderWith config left) ∧
      FrameDecoder.scan config.maxFrameBytes (before ++ bytes) = .ok (done ++ more, left) := by
  obtain ⟨all, left, found, _⟩ := FrameDecoder.scan_of_front encodes front
  have whole := found
  rw [FrameDecoder.scan_append scanned] at found
  cases later : FrameDecoder.scan config.maxFrameBytes (rest ++ bytes) with
  | error reason =>
      rw [later] at found
      cases found
  | ok result =>
      rw [later] at found
      obtain ⟨rfl, rfl⟩ := Prod.mk.inj (Except.ok.inj found)
      exact ⟨result.1, result.2, FrameDecoder.feed_of_scan rfl later, whole⟩

theorem openRequests_eq_empty {requests : ExtTreeMap UInt32 Hsms.Header}
    (none : ∀ key, key ∉ requests) : requests = ∅ :=
  ExtTreeMap.ext_getElem? fun key => by
    rw [ExtTreeMap.getElem?_eq_none (none key)]
    simp

/-- A step that closes the connection leaves the service silent. -/
theorem silent_of_lost {system next : System} {input : Input} (link : StepLink system input next)
    (loss : lost system.session.state next.session.state)
    (gone : next.session.state ≠ .selected) :
    next.handler.gem.comm = .notCommunicating ∧ next.handler.gem.openRequests = ∅ := by
  obtain ⟨_, _, deliveries, timedOut, opened, session, gem⟩ := link
  have none : opened = none := by
    generalize after : next.session.view = view at session
    cases session with
    | opened => exact absurd (congrArg LinkView.state after) gone
    | _ => rfl
  refine ⟨by rw [gem.comm, if_pos loss], openRequests_eq_empty fun key => ?_⟩
  rw [gem.keys, none]
  simp [loss]

theorem following_read {config : SessionConfig} {began : ConnectionState} {frames : List Frame}
    {stream : List UInt8} {inputs : List Input} {system next : System} {operation : Nat}
    {now : TimePoint} {bytes : List UInt8}
    (encodes : FrameDecoder.Encodes config.maxFrameBytes frames stream)
    (follows : Following config began inputs system)
    (part : system.takesPart (.read operation now bytes) = true)
    (front : received (inputs ++ [.read operation now bytes]) <+: stream)
    (taken : system.step (.read operation now bytes) = some next) :
    Following config began (inputs ++ [.read operation now bytes]) next := by
  simp only [takesPart, Bool.and_eq_true, decide_eq_true_eq] at part
  obtain ⟨⟨current, connected⟩, _⟩ := part
  have linked := follows.linked
  have alive := linked.socket.mp connected
  have link := step_link linked taken
  obtain ⟨before, same, handler, sameAfter, handlerAfter⟩ := step_read current taken
  have session : next.session = (system.session.onBytes now bytes).1 :=
    sameAfter.session.trans (session_receive linked same now bytes)
  have source := Session.sameSource_onBytes linked.session alive now bytes
  rw [← session] at source
  obtain ⟨done, rest, scanned, state, decoder⟩ := follows.decoded
  rw [received_concat, Input.bytes] at front
  obtain ⟨more, left, fed, whole⟩ := feed_of_front encodes front scanned
  rw [← decoder alive] at fed
  have after : next.session.state = more.foldl LinkView.nextState system.session.state := by
    have view := (Session.onBytes_view linked.session alive now bytes).1
    rw [← session, Session.readView, fed] at view
    exact (congrArg LinkView.state view).trans (LinkView.afterAll_state _ _)
  refine ⟨link.1, link.2.1.trans follows.configured, source.linktest follows.linktest, ?_, ?_, ?_⟩
  · rw [handlerAfter]
    exact toldModes_receive linked same handler alive follows.modes now bytes
  · intro gone
    refine silent_of_lost link ⟨fun equal => alive (equal.symm.trans gone), ?_⟩ ?_ <;> simp [gone]
  · refine ⟨done ++ more, left, by rw [received_concat]; exact whole, ?_, fun stays => ?_⟩
    · rw [after, state, List.foldl_append]
    · rw [source.decoder stays]
      exact congrArg Prod.snd fed

/-- Between two reads nothing is received, and the session stays where it is. -/
theorem following_of_sameInput {config : SessionConfig} {began : ConnectionState}
    {inputs : List Input} {input : Input} {system next : System}
    (follows : Following config began inputs system)
    (quiet : input.bytes = []) (same : SameInput system.session next.session)
    (modes : ToldModes next.handler) (taken : system.step input = some next)
    (noRead : ∀ operation now bytes, input ≠ .read operation now bytes) :
    Following config began (inputs ++ [input]) next := by
  have link := step_link follows.linked taken
  have nothing : received (inputs ++ [input]) = received inputs := by
    rw [received_concat, quiet, List.append_nil]
  refine ⟨link.1, link.2.1.trans follows.configured, same.linktest.trans follows.linktest, modes,
    fun gone => ?_, ?_⟩
  · -- The connection was closed before, so that this step has nothing to tell the service.
    rw [same.state] at gone
    obtain ⟨comm, requests⟩ := follows.silent gone
    obtain ⟨_, _, deliveries, timedOut, opened, session, gem⟩ := link
    have kept : ¬ lost system.session.state next.session.state := fun loss => loss.1 same.state
    have none : deliveries = [] ∧ opened = none := by
      generalize next.session.view = view at session
      cases session with
      | read operation now bytes => exact absurd rfl (noRead operation now bytes)
      | opened _ isSelected => exact absurd (gone.symm.trans isSelected) (by decide)
      | _ => exact ⟨rfl, rfl⟩
    obtain ⟨rfl, rfl⟩ := none
    refine ⟨?_, openRequests_eq_empty fun key => ?_⟩
    · rw [gem.comm, if_neg kept]
      exact comm
    · rw [gem.keys, requests]
      simp
  · rw [nothing, same.state, same.decoder]
    exact follows.decoded

theorem sameInput_task {system next : System} {now : TimePoint}
    (taken : system.step (.task now) = some next) : SameInput system.session next.session := by
  simp only [step] at taken
  split at taken
  · cases taken
  next task rest queue => exact @sameInput_runTask (system.popped rest) next now task taken

/-- A completed write changes neither the session nor the service. -/
theorem step_written {system next : System} {operation : Nat}
    (taken : system.step (.written operation) = some next) :
    next.session = system.session ∧ next.handler = system.handler := by
  obtain ⟨⟨generation, before⟩, found, rfl⟩ := Option.map_eq_some_iff.mp taken
  obtain ⟨same, handler⟩ := takeWrite_eq_some found
  simp only [writeCompleted]
  split
  · exact ⟨same.session, handler⟩
  · exact ⟨(Server.sameLink_writeNext _).session.trans same.session, handler⟩

theorem following_step {config : SessionConfig} {began : ConnectionState} {frames : List Frame}
    {stream : List UInt8} {inputs : List Input} {system next : System} {input : Input}
    (encodes : FrameDecoder.Encodes config.maxFrameBytes frames stream)
    (follows : Following config began inputs system) (part : system.takesPart input = true)
    (front : received (inputs ++ [input]) <+: stream)
    (taken : system.step input = some next) : Following config began (inputs ++ [input]) next := by
  cases input with
  | read operation now bytes => exact following_read encodes follows part front taken
  | task now =>
      have told := step_control (by simp) (by simp) taken
      exact following_of_sameInput follows rfl (sameInput_task taken)
        (toldModes_of_told follows.modes told) taken (by simp)
  | written operation =>
      obtain ⟨session, handler⟩ := step_written taken
      have same : SameInput system.session next.session := by
        rw [session]
        exact ⟨rfl, rfl, rfl⟩
      exact following_of_sameInput follows rfl same (by rw [handler]; exact follows.modes) taken
        (by simp)
  | _ => cases part

/-- What is left to settle leads where the frames so far lead, one at a time. -/
def Settles (config : SessionConfig) (first : Equipment) (inputs : List Input) (system : System) :
    Prop :=
  system.session.state ≠ .notConnected → ∀ done rest,
    FrameDecoder.scan config.maxFrameBytes (received inputs) = .ok (done, rest) →
      system.equipment.settle = run Equipment.receive first done

theorem settles_read {config : SessionConfig} {began : ConnectionState} {first : Equipment}
    {frames : List Frame} {stream : List UInt8} {inputs : List Input} {system next : System}
    {operation : Nat} {now : TimePoint} {bytes : List UInt8}
    (encodes : FrameDecoder.Encodes config.maxFrameBytes frames stream)
    (follows : Following config began inputs system) (settles : Settles config first inputs system)
    (part : system.takesPart (.read operation now bytes) = true)
    (orderly : system.orderly (.read operation now bytes) = true)
    (front : received (inputs ++ [.read operation now bytes]) <+: stream)
    (taken : system.step (.read operation now bytes) = some next) :
    Settles config first (inputs ++ [.read operation now bytes]) next := by
  simp only [takesPart, Bool.and_eq_true, decide_eq_true_eq, List.isEmpty_iff] at part
  obtain ⟨⟨current, connected⟩, idle⟩ := part
  have alive := follows.linked.socket.mp connected
  obtain ⟨before, same, handler, sameAfter, handlerAfter⟩ := step_read current taken
  have session : next.session = (before.receive now bytes).session := sameAfter.session
  intro stays all left scanned
  obtain ⟨done, rest, earlier, _, decoder⟩ := follows.decoded
  rw [received_concat, Input.bytes] at front scanned
  obtain ⟨more, _, fed, whole⟩ := feed_of_front encodes front earlier
  rw [← decoder alive] at fed
  rw [whole] at scanned
  obtain ⟨rfl, _⟩ := Prod.mk.inj (Except.ok.inj scanned)
  have view := (Session.onBytes_view follows.linked.session alive now bytes).1
  rw [← session_receive follows.linked same now bytes, ← session] at view
  have isOpen : (system.session.readView bytes).1.state ≠ .notConnected := by
    rw [← view]
    exact stays
  have completed : system.session.completed bytes = more := by
    rw [Session.completed, fed]
  have harmless : along Equipment.absorb (Equipment.harmless system.equipment.state)
      system.equipment more = true := by
    simp only [System.orderly, Bool.or_eq_true, decide_eq_true_eq, completed] at orderly
    exact orderly.resolve_left isOpen
  have nothing : system.equipment.tasks = [] := congrArg work idle
  have reached := settles alive done rest earlier
  rw [Equipment.settle_of_idle nothing] at reached
  have read : next.equipment = (more.foldl Equipment.absorb system.equipment).notified
      system.equipment.state := by
    rw [equipment, session, handlerAfter]
    have received := equipment_receive follows.linked same handler now alive isOpen
    rw [completed] at received
    exact received
  rw [read, Equipment.settle_read alive nothing harmless, run_append, ← reached,
    Option.bind_some]

theorem settles_step {config : SessionConfig} {began : ConnectionState} {first : Equipment}
    {frames : List Frame} {stream : List UInt8} {inputs : List Input} {system next : System}
    {input : Input}
    (encodes : FrameDecoder.Encodes config.maxFrameBytes frames stream)
    (follows : Following config began inputs system) (settles : Settles config first inputs system)
    (part : system.takesPart input = true) (orderly : system.orderly input = true)
    (front : received (inputs ++ [input]) <+: stream)
    (taken : system.step input = some next) : Settles config first (inputs ++ [input]) next := by
  cases input with
  | read operation now bytes =>
      exact settles_read encodes follows settles part orderly front taken
  | task now =>
      intro stays done rest scanned
      rw [received_concat, show (Input.task now).bytes = [] from rfl, List.append_nil] at scanned
      rw [settle_task follows.linked follows.linktest follows.modes taken]
      exact settles ((sameInput_task taken).state ▸ stays) done rest scanned
  | written operation =>
      obtain ⟨session, handler⟩ := step_written taken
      intro stays done rest scanned
      rw [received_concat, show (Input.written operation).bytes = [] from rfl, List.append_nil]
        at scanned
      rw [equipment, session, handler]
      exact settles (session ▸ stays) done rest scanned
  | _ => cases part

/-! ## The start and the end -/

/-- A connection between two frames, with nothing left to do and no Linktest pending. -/
structure AtRest (system : System) : Prop where
  connected : system.server.connected = true
  decoder : system.session.decoder = .fresh system.session.config.maxFrameBytes
  linktest : system.session.pendingLinktest = none
  drained : system.handler.tasks = []

theorem notifyState_tasks (system : System) :
    system.notifyState.handler.tasks = system.handler.tasks := by
  unfold notifyState Handler.onSessionState
  split
  · split <;> rfl
  · rfl

/-- So is a connection that was just accepted. -/
theorem atRest_accept {system : System} (linked : system.Linked)
    (free : system.server.connected = false) (idle : system.handler.tasks = [])
    (now : TimePoint) : (system.accept now).AtRest := by
  have gone : system.session.state = .notConnected := by
    by_contra alive
    exact Bool.false_ne_true (free.symm.trans (linked.socket.mpr alive))
  have connect := Session.onConnect_of_idle gone now
  have session : (system.accept now).session = (system.session.onConnect now).1 := by
    rw [accept, if_neg (by simp [free]), connect]
    exact (Server.sameLink_readNext _).session.trans
      (apply_session now (fun closed => by cases closed))
  have tasks : (system.accept now).handler.tasks = [] := by
    rw [accept, if_neg (by simp [free]), connect]
    exact (notifyState_tasks _).trans idle
  rw [connect] at session
  refine ⟨(stepLink_accept linked now).1.socket.mpr ?_, ?_, ?_, tasks⟩
  · rw [session]
    simp [Session.resetLinkState]
  · rw [session]
    rfl
  · rw [session]
    rfl

theorem following_of_atRest {system : System} (linked : system.Linked) (rest : system.AtRest) :
    Following system.session.config system.session.state [] system where
  linked := linked
  configured := rfl
  linktest := rest.linktest
  modes mode awaiting := by
    have queued : mode ∈ onlineModes system.handler.tasks := awaiting
    rw [rest.drained] at queued
    cases queued
  silent gone := absurd gone (linked.socket.mp rest.connected)
  decoded := ⟨[], [], rfl, rfl, fun _ => rest.decoder⟩

/-- Where a cutting ends. -/
theorem following_of_cutting {start final : System} {config : SessionConfig}
    {frames : List Frame} {stream : List UInt8} {inputs : List Input}
    (encodes : FrameDecoder.Encodes config.maxFrameBytes frames stream)
    (initial : Following config start.session.state [] start)
    (cutting : Cutting start stream inputs final) :
    Following config start.session.state inputs final := by
  have holds := history_of_meets (fun state input => System.takesPart state input = true)
    (fun before state => received before <+: stream →
      Following config start.session.state before state)
    (fun {before state input next} held part taken front => by
      have earlier : received before <+: stream :=
        (List.prefix_append _ _).trans (received_concat before input ▸ front)
      exact following_step encodes (held earlier) part front taken)
    (fun _ => initial) cutting.part cutting.reached
  exact holds cutting.front

theorem settles_of_cutting {start final : System} {config : SessionConfig}
    {frames : List Frame} {stream : List UInt8} {inputs : List Input}
    (encodes : FrameDecoder.Encodes config.maxFrameBytes frames stream)
    (initial : Following config start.session.state [] start) (idle : start.handler.tasks = [])
    (cutting : Cutting start stream inputs final)
    (harmless : Meets step (fun state input => state.orderly input = true) start inputs) :
    Settles config start.equipment inputs final := by
  have both : Meets step (fun state input => state.takesPart input = true ∧
      state.orderly input = true) start inputs :=
    fun before input after state whole reached =>
      ⟨cutting.part before input after state whole reached,
        harmless before input after state whole reached⟩
  have settled : Settles config start.equipment [] start := by
    intro _ done rest scanned
    obtain ⟨rfl, _⟩ := Prod.mk.inj (Except.ok.inj scanned)
    exact Equipment.settle_of_idle (congrArg work idle)
  have holds := history_of_meets
    (fun state input => System.takesPart state input = true ∧ System.orderly state input = true)
    (fun before state => received before <+: stream →
      Following config start.session.state before state ∧
        Settles config start.equipment before state)
    (fun {before state input next} held met taken front => by
      have earlier : received before <+: stream :=
        (List.prefix_append _ _).trans (received_concat before input ▸ front)
      obtain ⟨follows, settles⟩ := held earlier
      exact ⟨following_step encodes follows met.1 front taken,
        settles_step encodes follows settles met.1 met.2 front taken⟩)
    (fun _ => ⟨initial, settled⟩) both cutting.reached
  exact (holds cutting.front).2

/-- The state at the end is the one all frames lead to. -/
theorem state_of_cutting {start final : System} {config : SessionConfig} {frames : List Frame}
    {stream : List UInt8} {inputs : List Input}
    (encodes : FrameDecoder.Encodes config.maxFrameBytes frames stream)
    (cutting : Cutting start stream inputs final)
    (follows : Following config start.session.state inputs final) :
    final.session.state = frames.foldl LinkView.nextState start.session.state := by
  obtain ⟨done, rest, scanned, state, _⟩ := follows.decoded
  by_cases alive : final.session.state = .notConnected
  · obtain ⟨all, left, found, isFront⟩ := FrameDecoder.scan_of_front encodes cutting.front
    rw [scanned] at found
    obtain ⟨rfl, _⟩ := Prod.mk.inj (Except.ok.inj found)
    obtain ⟨more, rfl⟩ := isFront
    rw [List.foldl_append, ← state, alive, LinkView.foldl_nextState_closed]
  · have whole := cutting.whole (follows.linked.socket.mpr alive)
    rw [whole, FrameDecoder.scan_of_encodes encodes] at scanned
    obtain ⟨rfl, _⟩ := Prod.mk.inj (Except.ok.inj scanned)
    exact state

/-- An orderly cutting of a connection that stays open ends where the frames lead one at a time. -/
theorem equipment_of_cutting {start final : System} {config : SessionConfig}
    {frames : List Frame} {stream : List UInt8} {inputs : List Input}
    (encodes : FrameDecoder.Encodes config.maxFrameBytes frames stream)
    (initial : Following config start.session.state [] start) (idle : start.handler.tasks = [])
    (cutting : Cutting start stream inputs final)
    (harmless : Meets step (fun state input => state.orderly input = true) start inputs)
    (alive : final.session.state ≠ .notConnected) :
    some final.equipment = run Equipment.receive start.equipment frames := by
  have follows := following_of_cutting encodes initial cutting
  have scanned := FrameDecoder.scan_of_encodes encodes
  rw [← cutting.whole (follows.linked.socket.mpr alive)] at scanned
  rw [← settles_of_cutting encodes initial idle cutting harmless alive frames [] scanned]
  exact (Equipment.settle_of_idle (congrArg work cutting.drained)).symm

end System

/--
Any two ways of cutting the frames of a host into reads end in the same connection
state.  If in both of them every read that leaves the connection open has only
frames that may be absorbed behind those before them, they also end in the same
communication state and with the same open requests.
-/
theorem cutting_does_not_matter (session : SessionConfig) (gem : GemConfig) (started : TimePoint)
    (api : MachineApi) (earlier : List System.Input) (start : System)
    (reached : run System.step (System.start session gem started api) earlier = some start)
    (rest : start.AtRest) (frames : List Frame) (stream : List UInt8)
    (encodes : FrameDecoder.Encodes session.maxFrameBytes frames stream)
    (firstInputs secondInputs : List System.Input) (first second : System)
    (one : start.Cutting stream firstInputs first)
    (other : start.Cutting stream secondInputs second) :
    first.session.state = second.session.state ∧
      (Meets System.step (fun state input => state.orderly input = true) start firstInputs →
        Meets System.step (fun state input => state.orderly input = true) start secondInputs →
        first.handler.gem.comm = second.handler.gem.comm ∧
          first.handler.gem.openRequests = second.handler.gem.openRequests) := by
  obtain ⟨linked, rfl⟩ := invariant
    (fun system : System => system.Linked ∧ system.session.config = session)
    (fun held taken =>
      ⟨(System.step_link held.1 taken).1, (System.step_link held.1 taken).2.1.trans held.2⟩)
    ⟨System.linked_start session gem started api, rfl⟩ reached
  have initial := System.following_of_atRest linked rest
  have firstFollows := System.following_of_cutting encodes initial one
  have secondFollows := System.following_of_cutting encodes initial other
  have state : first.session.state = second.session.state :=
    (System.state_of_cutting encodes one firstFollows).trans
      (System.state_of_cutting encodes other secondFollows).symm
  refine ⟨state, fun firstHarmless secondHarmless => ?_⟩
  by_cases gone : first.session.state = .notConnected
  · obtain ⟨comm, requests⟩ := firstFollows.silent gone
    obtain ⟨sameComm, sameRequests⟩ := secondFollows.silent (state ▸ gone)
    exact ⟨comm.trans sameComm.symm, requests.trans sameRequests.symm⟩
  · -- Both have settled what the frames lead to, one at a time.
    have same : first.equipment = second.equipment := Option.some.inj
      ((System.equipment_of_cutting encodes initial rest.drained one firstHarmless gone).trans
        (System.equipment_of_cutting encodes initial rest.drained other secondHarmless
          (state ▸ gone)).symm)
    exact ⟨congrArg Equipment.comm same,
      congrArg (fun equipment => equipment.table.openRequests) same⟩

/-! ## Two hosts -/

/-- The equipment of the default configuration with a connection that was just accepted. -/
def accepted : System :=
  (System.start {} defaultGem 0 .fresh).accept 0

theorem System.cutting_of_guarded {start final : System} {stream : List UInt8}
    {inputs : List System.Input}
    (taken : run (guarded System.step fun state input => state.takesPart input = true) start
      inputs = some final)
    (whole : System.received inputs = stream) (drained : final.handler.tasks = []) :
    start.Cutting stream inputs final := by
  obtain ⟨reached, part⟩ := run_of_guarded taken
  exact ⟨reached, part, whole ▸ List.prefix_refl _, fun _ => whole, drained⟩

/-- Select.req, S1F13 and Deselect.req. -/
def deselectingFrames : List Frame :=
  [Hsms.makeControlFrame .selectReq 1 0 0, Hsms.makeDataFrame 0 1 13 true 2 [],
    Hsms.makeControlFrame .deselectReq 3 0 0]

def deselectingStream : List UInt8 :=
  controlBytes .selectReq 1 ++ (requestBytes 1 13 2 ++ (controlBytes .deselectReq 3 ++ []))

theorem encodes_deselectingStream :
    FrameDecoder.Encodes 1048576 deselectingFrames deselectingStream :=
  .cons (by decide) (by decide) (.cons (by decide) (by decide) (.cons (by decide) (by decide) .nil))

/-- In one read the service ends communicating, in three reads it does not. -/
theorem cutting_changes_communication :
    FrameDecoder.Encodes 1048576 deselectingFrames deselectingStream ∧
      ∃ firstInputs secondInputs first second,
        accepted.Cutting deselectingStream firstInputs first ∧
        accepted.Cutting deselectingStream secondInputs second ∧
        first.handler.gem.comm ≠ second.handler.gem.comm := by
  have one : (run (guarded System.step fun state input => state.takesPart input = true) accepted
      [.read 0 1 deselectingStream, .task 2]).any (fun system =>
        system.handler.tasks = [] ∧ system.handler.gem.comm = .communicating) = true := by
    decide +kernel
  have three : (run (guarded System.step fun state input => state.takesPart input = true) accepted
      [.read 0 1 (controlBytes .selectReq 1), .read 0 2 (requestBytes 1 13 2), .task 3,
        .read 0 4 (controlBytes .deselectReq 3)]).any (fun system =>
        system.handler.tasks = [] ∧ system.handler.gem.comm = .notCommunicating) = true := by
    decide +kernel
  obtain ⟨first, firstTaken, firstFacts⟩ := (Option.any_eq_true _ _).mp one
  obtain ⟨second, secondTaken, secondFacts⟩ := (Option.any_eq_true _ _).mp three
  simp only [decide_eq_true_eq] at firstFacts secondFacts
  refine ⟨encodes_deselectingStream, _, _, first, second,
    System.cutting_of_guarded firstTaken (by decide) firstFacts.1,
    System.cutting_of_guarded secondTaken (by decide) secondFacts.1, ?_⟩
  rw [firstFacts.2, secondFacts.2]
  decide

/-- Select.req, S1F13 and S1F15. -/
def goingOfflineFrames : List Frame :=
  [Hsms.makeControlFrame .selectReq 1 0 0, Hsms.makeDataFrame 0 1 13 true 2 [],
    Hsms.makeDataFrame 0 1 15 true 3 []]

def goingOfflineStream : List UInt8 :=
  controlBytes .selectReq 1 ++ (requestBytes 1 13 2 ++ (requestBytes 1 15 3 ++ []))

theorem encodes_goingOfflineStream :
    FrameDecoder.Encodes 1048576 goingOfflineFrames goingOfflineStream :=
  .cons (by decide) (by decide) (.cons (by decide) (by decide) (.cons (by decide) (by decide) .nil))

def offlineInOneRead : List System.Input :=
  [.read 0 1 goingOfflineStream, .task 2, .task 3, .task 4, .task 5]

def offlineInThreeReads : List System.Input :=
  [.read 0 1 (controlBytes .selectReq 1), .read 0 2 (requestBytes 1 13 2), .task 3,
    .read 0 4 (requestBytes 1 15 3), .task 5, .task 6, .task 7]

/-- In one read and in three: the event of the new control mode is open with the system bytes 1. -/
theorem cutting_does_not_matter_offline :
    ∃ first second, accepted.Cutting goingOfflineStream offlineInOneRead first ∧
      accepted.Cutting goingOfflineStream offlineInThreeReads second ∧
      1 ∈ first.handler.gem.openRequests ∧
      first.handler.gem.comm = second.handler.gem.comm ∧
      first.handler.gem.openRequests = second.handler.gem.openRequests := by
  have one : (run (guarded System.step fun state input =>
      state.takesPart input = true ∧ state.orderly input = true) accepted offlineInOneRead).any
        (fun system => system.handler.tasks = [] ∧
          (1 : UInt32) ∈ system.handler.gem.openRequests) = true := by
    decide +kernel
  have three : (run (guarded System.step fun state input =>
      state.takesPart input = true ∧ state.orderly input = true) accepted offlineInThreeReads).any
        (fun system => system.handler.tasks = []) = true := by
    decide +kernel
  obtain ⟨first, firstTaken, firstFacts⟩ := (Option.any_eq_true _ _).mp one
  obtain ⟨second, secondTaken, secondFacts⟩ := (Option.any_eq_true _ _).mp three
  simp only [decide_eq_true_eq] at firstFacts secondFacts
  obtain ⟨firstReached, firstMeets⟩ := run_of_guarded firstTaken
  obtain ⟨secondReached, secondMeets⟩ := run_of_guarded secondTaken
  have firstCutting : accepted.Cutting goingOfflineStream offlineInOneRead first :=
    ⟨firstReached, fun before input after state whole reached =>
      (firstMeets before input after state whole reached).1, by decide, fun _ => by decide,
      firstFacts.1⟩
  have secondCutting : accepted.Cutting goingOfflineStream offlineInThreeReads second :=
    ⟨secondReached, fun before input after state whole reached =>
      (secondMeets before input after state whole reached).1, by decide, fun _ => by decide,
      secondFacts⟩
  refine ⟨first, second, firstCutting, secondCutting, firstFacts.2, ?_⟩
  exact (cutting_does_not_matter {} defaultGem 0 .fresh [.accept 0] accepted rfl
    (System.atRest_accept (System.linked_start {} defaultGem 0 .fresh) rfl rfl 0)
    goingOfflineFrames goingOfflineStream encodes_goingOfflineStream offlineInOneRead
    offlineInThreeReads first second firstCutting secondCutting).2
    (fun before input after state whole reached =>
      (firstMeets before input after state whole reached).2)
    (fun before input after state whole reached =>
      (secondMeets before input after state whole reached).2)

end Ssim.Gem
