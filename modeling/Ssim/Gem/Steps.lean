import Ssim.Gem.Effects

/-!
# One handler of the I/O thread

`SessionStep` lists what a handler can do to the link of the session, and what of
it reaches the service: deliveries, expired requests, a request that was sent.
`GemStep` says what the service makes of that.  `step_link` inverts every handler
into such a pair.
-/

namespace Ssim.Gem

open Ssim.Core (Error Result)
open Hsms (Session SessionConfig SessionOutput ConnectionState TimePoint Delivery LinkView)
open Secs2 (Message)
open Std (ExtTreeMap)

/-- What a handler does to the link, and what it passes on to the service. -/
inductive SessionStep (system : System) :
    System.Input → LinkView → List Delivery → List UInt32 → Option UInt32 → Prop where
  | quiet (input : System.Input) : SessionStep system input system.session.view [] [] none
  | connected (now : TimePoint) (before : system.session.state = .notConnected) :
      SessionStep system (.accept now) (.closed .notSelected) [] [] none
  | disconnected (input : System.Input) :
      SessionStep system input (.closed .notConnected) [] [] none
  | read (operation : Nat) (now : TimePoint) (bytes : List UInt8)
      (current : system.server.pendingReads[operation]? = some system.server.generation)
      (before : system.session.state ≠ .notConnected) :
      SessionStep system (.read operation now bytes) (system.session.readView bytes).1
        (system.session.readView bytes).2 [] none
  | swept (now : TimePoint) (before : system.session.state ≠ .notConnected) :
      SessionStep system (.tick now) ⟨system.session.state, system.session.swept now⟩ []
        (Session.expired now system.session.transactions.toList) none
  | opened (input : System.Input) (isSelected : system.session.state = .selected)
      (systemBytes : UInt32) (deadline : TimePoint) :
      SessionStep system input
        ⟨.selected, system.session.transactions.insert systemBytes deadline⟩ [] []
        (some systemBytes)

/-- The service learns of a state that is not the selected one only when it is new. -/
def lost (before after : ConnectionState) : Prop :=
  after ≠ before ∧ after ≠ .selected

instance (before after : ConnectionState) : Decidable (lost before after) :=
  inferInstanceAs (Decidable (_ ∧ _))

theorem not_lost_self (state : ConnectionState) : ¬ lost state state :=
  fun loss => loss.1 rfl

/-- What the service makes of it. -/
structure GemStep (before after : ConnectionState) (gem next : GemService)
    (deliveries : List Delivery) (timedOut : List UInt32) (opened : Option UInt32) : Prop where
  config : next.config = gem.config
  comm : next.comm =
    if lost before after then .notCommunicating
    else if deliveries.any (establishing gem.config) then .communicating
    else gem.comm
  keys : ∀ key, key ∈ next.openRequests ↔
    opened = some key ∨
      ¬ lost before after ∧ (∀ delivery ∈ deliveries, delivery.replyTo ≠ some key) ∧
        key ∉ timedOut ∧ key ∈ gem.openRequests

/-- A handler that passes nothing on leaves the service alone. -/
theorem GemStep.same {state : ConnectionState} {gem next : GemService}
    (comm : next.comm = gem.comm) (config : next.config = gem.config)
    (requests : next.openRequests = gem.openRequests) :
    GemStep state state gem next [] [] none where
  config := config
  comm := by simp [not_lost_self, comm]
  keys key := by simp [not_lost_self, requests]

/-- Remembering a request that was sent opens it. -/
theorem GemStep.insert {before after : ConnectionState} {gem next : GemService}
    {deliveries : List Delivery} {timedOut : List UInt32}
    (step : GemStep before after gem next deliveries timedOut none) (systemBytes : UInt32)
    (header : Hsms.Header) :
    GemStep before after gem
      { next with openRequests := next.openRequests.insert systemBytes header } deliveries timedOut
      (some systemBytes) where
  config := step.config
  comm := step.comm
  keys key := by
    rw [ExtTreeMap.mem_insert, step.keys]
    simp

/-! ## Reading and writing change no link state -/

/-- The servers differ only in what is queued and pending. -/
structure Server.SameLink (server next : Server) : Prop where
  session : next.session = server.session
  connected : next.connected = server.connected
  generation : next.generation = server.generation
  notified : next.notifiedState = server.notifiedState

theorem Server.SameLink.trans {first second third : Server} (one : first.SameLink second)
    (two : second.SameLink third) : first.SameLink third :=
  ⟨two.session.trans one.session, two.connected.trans one.connected,
    two.generation.trans one.generation, two.notified.trans one.notified⟩

theorem Server.sameLink_writeNext (server : Server) : server.SameLink server.writeNext := by
  unfold Server.writeNext
  split <;> exact ⟨rfl, rfl, rfl, rfl⟩

theorem Server.sameLink_readNext (server : Server) : server.SameLink server.readNext := by
  unfold Server.readNext
  split <;> exact ⟨rfl, rfl, rfl, rfl⟩

theorem Server.sameLink_enqueue (server : Server) (out : SessionOutput) :
    server.SameLink (server.enqueue out) := by
  unfold Server.enqueue
  dsimp only
  split
  · obtain ⟨session, connected, generation, notified⟩ :=
      Server.sameLink_writeNext { server with writeQueue := server.writeQueue ++ out.toSend }
    exact ⟨session, connected, generation, notified⟩
  · exact ⟨rfl, rfl, rfl, rfl⟩

namespace System

/-- The socket, the session and the state told last agree. -/
structure Linked (system : System) : Prop where
  session : system.session.Invariant
  notified : system.server.notifiedState = system.session.state
  socket : system.server.connected = true ↔ system.session.state ≠ .notConnected

theorem linked_start (session : SessionConfig) (gem : GemConfig) (started : TimePoint)
    (api : Core.MachineApi) : (start session gem started api).Linked where
  session := Session.invariant_fresh session
  notified := rfl
  socket := by simp [start, Server.fresh, System.session, Session.fresh]

theorem Linked.of_sameLink {system : System} (linked : system.Linked) {server : Server}
    (same : system.server.SameLink server) (handler : Handler) :
    Linked { server := server, handler := handler } := by
  obtain ⟨session, notified, socket⟩ := linked
  unfold System.session at session notified socket
  rw [← same.session] at session notified socket
  rw [← same.notified] at notified
  rw [← same.connected] at socket
  exact ⟨session, notified, socket⟩

/-! ## Notification and close -/

theorem notifyState_server (system : System) :
    system.notifyState.server =
      { system.server with notifiedState := system.session.state } := by
  unfold notifyState
  split
  · rfl
  next same =>
    have same : system.session.state = system.server.notifiedState := by simpa using same
    rw [same]

/-- The service forgets its link state exactly on a loss. -/
theorem notifyState_gem (system : System) :
    system.notifyState.handler.gem =
      if lost system.server.notifiedState system.session.state then
        { system.handler.gem with comm := .notCommunicating, openRequests := ∅ }
      else
        system.handler.gem := by
  unfold notifyState Handler.onSessionState
  by_cases new : system.session.state ≠ system.server.notifiedState
  · by_cases outside : system.session.state ≠ .selected
    · have loss : lost system.server.notifiedState system.session.state := ⟨new, outside⟩
      rw [if_pos new, if_pos outside, if_pos loss]
    · have kept : ¬ lost system.server.notifiedState system.session.state :=
        fun loss => outside loss.2
      rw [if_pos new, if_neg outside, if_neg kept]
  · have kept : ¬ lost system.server.notifiedState system.session.state := fun loss => new loss.1
    rw [if_neg new, if_neg kept]

theorem closeSocket_server (system : System) :
    system.closeSocket.server =
      { system.server with
        connected := false
        generation := system.server.generation + 1
        writeQueue := []
        writing := false
        session := system.session.onDisconnect
        notifiedState := system.session.onDisconnect.state } := by
  rw [closeSocket, notifyState_server]
  rfl

theorem closeSocket_gem (system : System) :
    system.closeSocket.handler.gem =
      if lost system.server.notifiedState system.session.onDisconnect.state then
        { system.handler.gem with comm := .notCommunicating, openRequests := ∅ }
      else
        system.handler.gem := by
  rw [closeSocket, notifyState_gem]
  rfl

theorem linked_closeSocket {system : System} (kept : system.session.Invariant) :
    system.closeSocket.Linked := by
  have session : system.closeSocket.session = system.session.onDisconnect := by
    rw [System.session, closeSocket_server]
  have gone : system.session.onDisconnect.Invariant ∧
      system.session.onDisconnect.state = .notConnected := by
    by_cases idle : system.session.state = .notConnected
    · rw [Session.onDisconnect_of_idle idle]
      exact ⟨kept, idle⟩
    · exact Session.invariant_onDisconnect idle
  refine ⟨session ▸ gone.1, ?_, ?_⟩
  · rw [session, closeSocket_server]
  · rw [session, closeSocket_server]
    simp [gone.2]

/-! ## The output of a session call -/

/-- What the service has seen of an output before the state is told. -/
def handled (system : System) (now : TimePoint) (out : SessionOutput) : Handler :=
  (system.handler.onDeliveries now out.deliveries).onTimeouts out.timedOut

/-- The system in which the state is told. -/
def passedOn (system : System) (now : TimePoint) (out : SessionOutput) : System :=
  { server := system.server.enqueue out, handler := system.handled now out }

theorem apply_eq (system : System) (now : TimePoint) (out : SessionOutput) :
    system.apply now out =
      if out.close then
        (system.passedOn now out).notifyState.closeSocket
      else
        (system.passedOn now out).notifyState :=
  rfl

/-- The state before told apart, an output does to the service what it says. -/
theorem apply_link (system : System) (now : TimePoint) {out : SessionOutput}
    (kept : system.session.Invariant)
    (closes : out.close = true → system.session.state = .notConnected)
    (socket : system.server.connected = true ∧ out.close = false ↔
      system.session.state ≠ .notConnected) :
    (system.apply now out).Linked ∧ (system.apply now out).session = system.session ∧
      (system.apply now out).handler.gem =
        if lost system.server.notifiedState system.session.state then
          { (system.handled now out).gem with comm := .notCommunicating, openRequests := ∅ }
        else
          (system.handled now out).gem := by
  have same := system.server.sameLink_enqueue out
  have session : (system.passedOn now out).session = system.session := same.session
  have server := notifyState_server (system.passedOn now out)
  have gem := notifyState_gem (system.passedOn now out)
  rw [session, show (system.passedOn now out).server.notifiedState = system.server.notifiedState
    from same.notified] at gem
  have after : (system.passedOn now out).notifyState.session = system.session := by
    rw [System.session, server]
    exact session
  have told :
      (system.passedOn now out).notifyState.server.notifiedState = system.session.state := by
    rw [server, session]
  rw [apply_eq]
  split
  next closed =>
    have idle := closes closed
    have gone : system.session.onDisconnect = system.session := Session.onDisconnect_of_idle idle
    refine ⟨linked_closeSocket (after ▸ kept), ?_, ?_⟩
    · rw [System.session, closeSocket_server, after, gone]
    · rw [closeSocket_gem, after, gone, told, if_neg (not_lost_self _)]
      exact gem
  next stillOpen =>
    refine ⟨⟨after ▸ kept, ?_, ?_⟩, after, gem⟩
    · rw [told, after]
    · have connected : (system.passedOn now out).notifyState.server.connected =
          system.server.connected := by
        rw [server]
        exact same.connected
      rw [connected, after, ← socket]
      simp [Bool.eq_false_of_not_eq_true stillOpen]

/-- What the service makes of an output. -/
theorem gemStep_apply (system : System) (now : TimePoint) {out : SessionOutput}
    (kept : system.session.Invariant)
    (closes : out.close = true → system.session.state = .notConnected)
    (socket : system.server.connected = true ∧ out.close = false ↔
      system.session.state ≠ .notConnected) :
    GemStep system.server.notifiedState system.session.state system.handler.gem
      (system.apply now out).handler.gem out.deliveries out.timedOut none := by
  obtain ⟨_, _, gem⟩ := apply_link system now kept closes socket
  obtain ⟨comm, config, keys⟩ :=
    (system.handler.onDeliveries now out.deliveries).onTimeouts_link out.timedOut
  rw [Handler.onDeliveries_comm] at comm
  rw [Handler.onDeliveries_config] at config
  rw [gem]
  unfold handled
  by_cases loss : lost system.server.notifiedState system.session.state
  · rw [if_pos loss]
    exact ⟨config, by rw [if_pos loss], fun key => by simp [loss]⟩
  · rw [if_neg loss]
    refine ⟨config, by rw [comm, if_neg loss], fun key => ?_⟩
    rw [keys, Handler.onDeliveries_mem_openRequests]
    simp only [reduceCtorEq, false_or, loss, not_false_eq_true, true_and]
    tauto

/-! ## Every handler -/

/-- What a handler has done: to the link, and from there to the service. -/
def StepLink (system : System) (input : Input) (next : System) : Prop :=
  next.Linked ∧ next.session.config = system.session.config ∧ ∃ deliveries timedOut opened,
    SessionStep system input next.session.view deliveries timedOut opened ∧
    GemStep system.session.state next.session.state system.handler.gem next.handler.gem
      deliveries timedOut opened

/-- A handler that changes neither the session nor the link state of the service. -/
theorem StepLink.quiet {system next : System} {input : Input} (linked : system.Linked)
    (same : system.server.SameLink next.server)
    (comm : next.handler.gem.comm = system.handler.gem.comm)
    (config : next.handler.gem.config = system.handler.gem.config)
    (requests : next.handler.gem.openRequests = system.handler.gem.openRequests) :
    StepLink system input next := by
  have session : next.session = system.session := same.session
  refine ⟨linked.of_sameLink same next.handler, by rw [session], [], [], none, ?_, ?_⟩
  · rw [session]
    exact .quiet input
  · rw [session]
    exact .same comm config requests

/-- Reading and writing more afterwards changes nothing of it. -/
theorem StepLink.of_sameLink {system middle : System} {input : Input}
    (link : StepLink system input middle) {server : Server}
    (same : middle.server.SameLink server) :
    StepLink system input { middle with server := server } := by
  obtain ⟨linked, config, deliveries, timedOut, opened, session, gem⟩ := link
  have equal : System.session { middle with server := server } = middle.session := same.session
  refine ⟨linked.of_sameLink same middle.handler, by rw [equal, config], deliveries, timedOut,
    opened, ?_, ?_⟩
  · rw [equal]
    exact session
  · rw [equal]
    exact gem

/-- A call of the session whose output is passed on. -/
theorem StepLink.call {system : System} {input : Input} (base : System) (now : TimePoint)
    {out : SessionOutput} (kept : base.session.Invariant)
    (closes : out.close = true → base.session.state = .notConnected)
    (socket : base.server.connected = true ∧ out.close = false ↔
      base.session.state ≠ .notConnected)
    (told : base.server.notifiedState = system.session.state)
    (gem : base.handler.gem = system.handler.gem)
    (config : base.session.config = system.session.config)
    (session : SessionStep system input base.session.view out.deliveries out.timedOut none) :
    StepLink system input (base.apply now out) := by
  obtain ⟨linked, same, _⟩ := apply_link base now kept closes socket
  have step := gemStep_apply base now kept closes socket
  rw [told, gem] at step
  refine ⟨linked, by rw [same, config], out.deliveries, out.timedOut, none, ?_, ?_⟩
  · rw [same]
    exact session
  · rw [same]
    exact step

/-- A call of the session that has opened a transaction, which the service remembers. -/
theorem StepLink.opened {system : System} (base : System) (now : TimePoint) {out : SessionOutput}
    (kept : base.session.Invariant)
    (closes : out.close = true → base.session.state = .notConnected)
    (socket : base.server.connected = true ∧ out.close = false ↔
      base.session.state ≠ .notConnected)
    (told : base.server.notifiedState = system.session.state)
    (gem : base.handler.gem = system.handler.gem)
    (config : base.session.config = system.session.config)
    (silent : out.deliveries = [] ∧ out.timedOut = [])
    {message : Message} (wanted : message.wBit = true) {systemBytes : UInt32}
    (isSelected : system.session.state = .selected) (deadline : TimePoint)
    (view : base.session.view =
      ⟨.selected, system.session.transactions.insert systemBytes deadline⟩) (input : Input) :
    StepLink system input
      { base.apply now out with
        handler := (base.apply now out).handler.onSent message systemBytes } := by
  obtain ⟨linked, same, _⟩ := apply_link base now kept closes socket
  have step := gemStep_apply base now kept closes socket
  rw [told, gem, silent.1, silent.2] at step
  refine ⟨linked.of_sameLink ⟨rfl, rfl, rfl, rfl⟩ _, (congrArg Session.config same).trans config,
    [], [], some systemBytes, ?_, ?_⟩
  · change SessionStep system input (base.apply now out).session.view [] [] (some systemBytes)
    rw [same, view]
    exact .opened input isSelected systemBytes deadline
  · change GemStep _ (base.apply now out).session.state _ _ _ _ _
    rw [same, Handler.onSent, if_pos wanted]
    exact step.insert systemBytes _

theorem stepLink_closeSocket {system before : System} (linked : system.Linked)
    (same : system.server.SameLink before.server) (gem : before.handler.gem = system.handler.gem)
    (input : Input) : StepLink system input before.closeSocket := by
  have unchanged : before.session = system.session := same.session
  have session : before.closeSocket.session = system.session.onDisconnect := by
    rw [System.session, closeSocket_server, unchanged]
  refine ⟨linked_closeSocket (unchanged ▸ linked.session), ?_, [], [], none, ?_⟩
  · rw [session, Session.onDisconnect_config]
  rw [session, closeSocket_gem, unchanged, same.notified, linked.notified, gem]
  by_cases idle : system.session.state = .notConnected
  · rw [Session.onDisconnect_of_idle idle, if_neg (not_lost_self _)]
    exact ⟨.quiet input, .same rfl rfl rfl⟩
  · have gone := Session.view_onDisconnect idle
    have state : system.session.onDisconnect.state = .notConnected :=
      congrArg LinkView.state gone
    have loss : lost system.session.state system.session.onDisconnect.state := by
      rw [state]
      exact ⟨fun same => idle same.symm, by simp⟩
    rw [gone, if_pos loss]
    exact ⟨.disconnected input, rfl, by rw [if_pos loss], fun key => by simp [loss]⟩

theorem stepLink_accept {system : System} (linked : system.Linked) (now : TimePoint) :
    StepLink system (.accept now) (system.accept now) := by
  unfold accept
  split
  · exact .quiet linked ⟨rfl, rfl, rfl, rfl⟩ rfl rfl rfl
  next free =>
    have idle : system.session.state = .notConnected := by
      by_contra connected
      exact free (linked.socket.mpr connected)
    have kept := (Session.invariant_onConnect linked.session now).1
    have view : (system.session.onConnect now).1.view = .closed .notSelected := by
      rw [Session.onConnect_of_idle idle]
      rfl
    have silent : (system.session.onConnect now).2 = {} := by
      rw [Session.onConnect_of_idle idle]
    have config : (system.session.onConnect now).1.config = system.session.config := by
      rw [Session.onConnect_of_idle idle]
      rfl
    generalize system.session.onConnect now = result at kept view silent config
    obtain ⟨session, out⟩ := result
    dsimp only at kept view silent config ⊢
    subst silent
    have state : session.state = .notSelected := congrArg LinkView.state view
    refine (StepLink.call
      { system with server :=
        { system.server with
          connected := true, generation := system.server.generation + 1, session := session } }
      now kept (fun closed => by cases closed) (by simp [System.session, state]) linked.notified rfl
      config ?_).of_sameLink (Server.sameLink_readNext _)
    change SessionStep system (.accept now) session.view [] [] none
    rw [view]
    exact .connected now idle

/-- Bytes of the current connection; without one they are ignored. -/
theorem stepLink_receive {system before : System} (linked : system.Linked)
    (same : system.server.SameLink before.server) (gem : before.handler.gem = system.handler.gem)
    (operation : Nat) (now : TimePoint) (bytes : List UInt8)
    (current : system.server.pendingReads[operation]? = some system.server.generation) :
    StepLink system (.read operation now bytes) (before.receive now bytes) := by
  have session : before.session = system.session := same.session
  have told : before.server.notifiedState = system.session.state :=
    same.notified.trans linked.notified
  have kept := Session.invariant_onBytes linked.session now bytes
  unfold receive
  rw [session]
  by_cases idle : system.session.state = .notConnected
  · have nothing : system.session.onBytes now bytes = (system.session, {}) := by
      rw [Session.onBytes, if_pos idle]
    have closed : before.server.connected = false := by
      rw [same.connected]
      simpa [idle] using linked.socket
    rw [nothing] at kept ⊢
    refine .call (before.withSession system.session) now kept.1 kept.2 ?_ told gem rfl (.quiet _)
    change before.server.connected = true ∧ false = false ↔ system.session.state ≠ .notConnected
    simp [closed, idle]
  · obtain ⟨view, deliveries, timedOut, closes⟩ :=
      Session.onBytes_view linked.session idle now bytes
    have connected : before.server.connected = true := by
      rw [same.connected]
      exact linked.socket.mpr idle
    have state : (system.session.onBytes now bytes).1.state =
        (system.session.readView bytes).1.state := congrArg LinkView.state view
    refine .call (before.withSession (system.session.onBytes now bytes).1) now kept.1 kept.2 ?_ told
      gem (Session.onBytes_config system.session now bytes) ?_
    · change before.server.connected = true ∧ (system.session.onBytes now bytes).2.close = false ↔
        (system.session.onBytes now bytes).1.state ≠ .notConnected
      rw [state, Ne, ← closes]
      simp [connected]
    · change SessionStep system _ (system.session.onBytes now bytes).1.view
        (system.session.onBytes now bytes).2.deliveries
        (system.session.onBytes now bytes).2.timedOut none
      rw [view, deliveries, timedOut]
      exact .read operation now bytes current idle

theorem stepLink_readCompleted {system before : System} (linked : system.Linked)
    (same : system.server.SameLink before.server) (gem : before.handler.gem = system.handler.gem)
    {operation generation : Nat}
    (pending : system.server.pendingReads[operation]? = some generation)
    (now : TimePoint) (bytes : List UInt8) :
    StepLink system (.read operation now bytes) (before.readCompleted generation now bytes) := by
  unfold readCompleted
  split
  · exact .quiet linked same (by rw [gem]) (by rw [gem]) (by rw [gem])
  next isCurrent =>
    have current : generation = system.server.generation := by
      rw [← same.generation]
      simpa using isCurrent
    have received := stepLink_receive linked same gem operation now bytes (current ▸ pending)
    dsimp only
    split
    · exact received.of_sameLink (Server.sameLink_readNext _)
    · exact received

theorem stepLink_operationFailed {system before : System} (linked : system.Linked)
    (same : system.server.SameLink before.server) (gem : before.handler.gem = system.handler.gem)
    (generation : Nat) (input : Input) :
    StepLink system input (before.operationFailed generation) := by
  unfold operationFailed
  split
  · exact .quiet linked same (by rw [gem]) (by rw [gem]) (by rw [gem])
  · exact stepLink_closeSocket linked same gem input

theorem stepLink_tick {system next : System} {now : TimePoint} (linked : system.Linked)
    (ticked : system.tick now = some next) : StepLink system (.tick now) next := by
  unfold tick at ticked
  split at ticked
  · obtain rfl := Option.some.inj ticked
    exact .quiet linked ⟨rfl, rfl, rfl, rfl⟩ rfl rfl rfl
  next free =>
    have connected : system.server.connected = true := by simpa using free
    have alive := linked.socket.mp connected
    obtain ⟨⟨session, out⟩, called, rfl⟩ := Option.map_eq_some_iff.mp ticked
    obtain ⟨kept, closes⟩ := Session.invariant_onTick linked.session called
    cases Session.onTick_effect called with
    | offline idle => exact absurd idle alive
    | closed _ reason =>
        have view := Session.view_onDisconnect alive
        refine .call (system.withSession system.session.onDisconnect) now kept closes ?_
          linked.notified rfl (Session.onDisconnect_config _) ?_
        · change system.server.connected = true ∧ true = false ↔
            system.session.onDisconnect.state ≠ .notConnected
          rw [show system.session.onDisconnect.state = .notConnected from
            congrArg LinkView.state view]
          simp
        · change SessionStep system (.tick now) system.session.onDisconnect.view [] [] none
          rw [view]
          exact .disconnected _
    | swept =>
        refine .call (system.withSession { system.session with
          transactions := system.session.swept now }) now kept closes ?_ linked.notified rfl rfl
          (.swept now alive)
        change system.server.connected = true ∧ false = false ↔ system.session.state ≠ .notConnected
        simp [connected, alive]
    | linktest isSelected none bytes generator unused =>
        refine .call (system.withSession _) now kept closes ?_ linked.notified rfl rfl
          (.swept now alive)
        change system.server.connected = true ∧ false = false ↔ system.session.state ≠ .notConnected
        simp [connected, alive]

/-- A posted request: refused, sent, or sent and remembered. -/
theorem stepLink_runRequest {system before next : System} {now : TimePoint} {message : Message}
    (linked : system.Linked) (same : system.server.SameLink before.server)
    (gem : before.handler.gem = system.handler.gem)
    (ran : before.runRequest now message = some next) (input : Input) :
    StepLink system input next := by
  have unchanged : before.session = system.session := same.session
  unfold runRequest at ran
  split at ran
  · obtain rfl := Option.some.inj ran
    exact .quiet linked same (by rw [gem]) (by rw [gem]) (by rw [gem])
  next free =>
    have connected : before.server.connected = true := by simpa using free
    have alive : system.session.state ≠ .notConnected :=
      linked.socket.mp (same.connected ▸ connected)
    have told : before.server.notifiedState = system.session.state :=
      same.notified.trans linked.notified
    obtain ⟨⟨sent, session, out⟩, requested, rfl⟩ := Option.map_eq_some_iff.mp ran
    rw [unchanged] at requested
    obtain ⟨kept, closes⟩ := Session.invariant_sendRequest linked.session requested
    cases Session.sendRequest_effect requested with
    | failed reason generator =>
        refine .call (before.withSession _) now kept (fun closed => by cases closed) ?_ told gem rfl
          (.quiet input)
        change before.server.connected = true ∧ false = false ↔ system.session.state ≠ .notConnected
        simp [connected, alive]
    | sent isSelected systemBytes generator room nonzero unused notLinktest bytes =>
        have socket : before.server.connected = true ∧ false = false ↔
            system.session.state ≠ .notConnected := by simp [connected, alive]
        have silent : ({ toSend := [] ++ [bytes] } : SessionOutput).close = true →
            system.session.state = .notConnected := fun closed => by cases closed
        dsimp only
        cases wanted : message.wBit with
        | false =>
            have forgotten (handler : Handler) : handler.onSent message systemBytes = handler := by
              simp [Handler.onSent, wanted]
            rw [forgotten]
            refine .call (before.withSession _) now kept silent socket told gem rfl ?_
            simp only [withSession, System.session, Session.noteSent, wanted]
            exact .quiet input
        | true =>
            refine .opened (before.withSession _) now kept silent socket told gem rfl ⟨rfl, rfl⟩
              wanted isSelected (now.after system.session.config.t3) ?_ input
            simp only [withSession, System.session, Session.noteSent, wanted, if_true]
            rw [Session.view, ← isSelected]
            rfl

theorem stepLink_runReply {system before : System} (linked : system.Linked)
    (same : system.server.SameLink before.server) (gem : before.handler.gem = system.handler.gem)
    (now : TimePoint) (systemBytes : UInt32) (message : Message) (input : Input) :
    StepLink system input (before.runReply now systemBytes message) := by
  have unchanged : before.session = system.session := same.session
  unfold runReply
  split
  · exact .quiet linked same (by rw [gem]) (by rw [gem]) (by rw [gem])
  next free =>
    have connected : before.server.connected = true := by simpa using free
    have alive : system.session.state ≠ .notConnected :=
      linked.socket.mp (same.connected ▸ connected)
    obtain ⟨sent, only⟩ := before.session.sendReply_output systemBytes message {}
    rw [only]
    refine .call before now (unchanged ▸ linked.session) (fun closed => by cases closed) ?_
      (same.notified.trans linked.notified) gem (by rw [unchanged]) ?_
    · rw [unchanged]
      simp [connected, alive]
    · rw [unchanged]
      exact .quiet input

theorem stepLink_runTask {system before next : System} {now : TimePoint} {task : Task}
    (linked : system.Linked) (same : system.server.SameLink before.server)
    (gem : before.handler.gem = system.handler.gem)
    (ran : before.runTask now task = some next) (input : Input) : StepLink system input next := by
  cases task with
  | request message => exact stepLink_runRequest linked same gem ran input
  | reply systemBytes message =>
      obtain rfl := Option.some.inj ran
      exact stepLink_runReply linked same gem now systemBytes message input
  | processStateChanged after =>
      obtain rfl := Option.some.inj ran
      obtain ⟨comm, config, requests⟩ := before.handler.sendEvent_link kCeidProcessStateChanged
        (Handler.statesReport before.handler.api.snapshot.controlMode after)
      exact .quiet linked same (gem ▸ comm) (gem ▸ config) (gem ▸ requests)
  | controlStateChanged after =>
      obtain rfl := Option.some.inj ran
      obtain ⟨comm, config, requests⟩ := before.handler.onControlStateChanged_link after
      exact .quiet linked same (gem ▸ comm) (gem ▸ config) (gem ▸ requests)
  | scanStarted waferId slot =>
      obtain rfl := Option.some.inj ran
      obtain ⟨comm, config, requests⟩ := before.handler.sendEvent_link kCeidWaferScanStarted _
      exact .quiet linked same (gem ▸ comm) (gem ▸ config) (gem ▸ requests)
  | result wafer =>
      obtain rfl := Option.some.inj ran
      obtain ⟨comm, config, requests⟩ := before.handler.onResult_link wafer
      exact .quiet linked same (gem ▸ comm) (gem ▸ config) (gem ▸ requests)
  | runAborted =>
      obtain rfl := Option.some.inj ran
      obtain ⟨comm, config, requests⟩ := before.handler.sendEvent_link kCeidRunAborted _
      exact .quiet linked same (gem ▸ comm) (gem ▸ config) (gem ▸ requests)
  | alarm set id text =>
      obtain rfl := Option.some.inj ran
      have kept : (before.handler.onAlarm set id text).gem = system.handler.gem :=
        (before.handler.sendAlarm_gem _ _ _).trans gem
      exact .quiet linked same (by rw [kept]) (by rw [kept]) (by rw [kept])

theorem takeRead_eq_some {system before : System} {operation generation : Nat}
    (taken : system.takeRead operation = some (generation, before)) :
    system.server.pendingReads[operation]? = some generation ∧
      system.server.SameLink before.server ∧ before.handler = system.handler := by
  obtain ⟨found, pending, same⟩ := Option.map_eq_some_iff.mp taken
  obtain ⟨rfl, rfl⟩ := Prod.mk.inj same
  exact ⟨pending, ⟨rfl, rfl, rfl, rfl⟩, rfl⟩

theorem takeWrite_eq_some {system before : System} {operation generation : Nat}
    (taken : system.takeWrite operation = some (generation, before)) :
    system.server.SameLink before.server ∧ before.handler = system.handler := by
  obtain ⟨found, pending, same⟩ := Option.map_eq_some_iff.mp taken
  obtain ⟨_, rfl⟩ := Prod.mk.inj same
  exact ⟨⟨rfl, rfl, rfl, rfl⟩, rfl⟩

/-- Everything a handler can do, to the link and to the service. -/
theorem step_link {system next : System} {input : Input} (linked : system.Linked)
    (taken : system.step input = some next) : StepLink system input next := by
  cases input with
  | accept now =>
      obtain rfl := Option.some.inj taken
      exact stepLink_accept linked now
  | read operation now bytes =>
      obtain ⟨⟨generation, before⟩, found, rfl⟩ := Option.map_eq_some_iff.mp taken
      obtain ⟨pending, same, handler⟩ := takeRead_eq_some found
      exact stepLink_readCompleted linked same (by rw [handler]) pending now bytes
  | readFailed operation =>
      obtain ⟨⟨generation, before⟩, found, rfl⟩ := Option.map_eq_some_iff.mp taken
      obtain ⟨pending, same, handler⟩ := takeRead_eq_some found
      exact stepLink_operationFailed linked same (by rw [handler]) generation _
  | written operation =>
      obtain ⟨⟨generation, before⟩, found, rfl⟩ := Option.map_eq_some_iff.mp taken
      obtain ⟨same, handler⟩ := takeWrite_eq_some found
      simp only [writeCompleted]
      split
      · exact .quiet linked same (by rw [handler]) (by rw [handler]) (by rw [handler])
      · have popped : before.server.SameLink
            { before.server with writeQueue := before.server.writeQueue.tail } :=
          ⟨rfl, rfl, rfl, rfl⟩
        exact .quiet linked (same.trans (popped.trans (Server.sameLink_writeNext _)))
          (by rw [handler]) (by rw [handler]) (by rw [handler])
  | writeFailed operation =>
      obtain ⟨⟨generation, before⟩, found, rfl⟩ := Option.map_eq_some_iff.mp taken
      obtain ⟨same, handler⟩ := takeWrite_eq_some found
      exact stepLink_operationFailed linked same (by rw [handler]) generation _
  | tick now => exact stepLink_tick linked taken
  | task now =>
      simp only [step] at taken
      split at taken
      · cases taken
      · refine stepLink_runTask linked ?_ ?_ taken _
        · exact ⟨rfl, rfl, rfl, rfl⟩
        · rfl
  | stop =>
      obtain rfl := Option.some.inj taken
      exact stepLink_closeSocket linked ⟨rfl, rfl, rfl, rfl⟩ rfl _
  | machine api events =>
      obtain rfl := Option.some.inj taken
      exact .quiet linked ⟨rfl, rfl, rfl, rfl⟩ rfl rfl rfl

end System

end Ssim.Gem
