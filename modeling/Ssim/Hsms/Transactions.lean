import Ssim.Hsms.SessionInvariant
import Ssim.Library.Ledger

/-!
# The life of a transaction

A recording of a session keeps the outputs of all calls and a history of what
concerns transactions: requests sent, deliveries, T3 expiries, incoming Reject.req
frames and the loss of the selected state.  The open transactions are the ledger
of that history, and every event of it is justified by the ledger it meets.
-/

namespace Ssim.Hsms

open Ssim.Core (Error Result)
open Std (ExtTreeMap)
open Library.Runs
open Library.Ledger

/-! ## Histories -/

inductive SessionEvent where
  /-- A W-bit request was sent. -/
  | opened (system : UInt32) (deadline : TimePoint)
  /-- A data message was delivered in this connection state. -/
  | delivered (state : ConnectionState) (delivery : Delivery)
  /-- A tick at this time reported the expiry of T3. -/
  | timedOut (now : TimePoint) (system : UInt32)
  /-- A Reject.req with these system bytes was received. -/
  | rejectReceived (system : UInt32)
  /-- The session left the selected state. -/
  | linkLost

namespace SessionEvent

def delivery? : SessionEvent → Option Delivery
  | delivered _ delivery => some delivery
  | _ => none

def timedOut? : SessionEvent → Option UInt32
  | timedOut _ system => some system
  | _ => none

def opens : SessionEvent → UInt32 → Option TimePoint
  | opened system deadline, key => if system = key then some deadline else none
  | _, _ => none

/-- Whether the event ends the transaction with these system bytes. -/
def closes : SessionEvent → UInt32 → Bool
  | opened _ _, _ => false
  | delivered _ delivery, key => delivery.replyTo = some key
  | timedOut _ system, key => system = key
  | rejectReceived system, key => system = key
  | linkLost, _ => true

/-- When an event may occur, by the open transactions and their deadlines. -/
def Justified (ledger : UInt32 → Option TimePoint) : SessionEvent → Prop
  | opened system _ => ledger system = none
  | delivered state delivery =>
      state = .selected ∧ delivery.frame.kind = some .data ∧
        ∀ system, delivery.replyTo = some system →
          (ledger system).isSome ∧ delivery.frame.header.function % 2 = 0 ∧
            delivery.frame.header.systemBytes = system
  | timedOut now system => ∃ deadline, ledger system = some deadline ∧ deadline ≤ now
  | rejectReceived _ => True
  | linkLost => True

theorem opens_eq_some {event : SessionEvent} {key : UInt32} {deadline : TimePoint} :
    event.opens key = some deadline ↔ event = .opened key deadline := by
  cases event with
  | opened system other =>
      simp only [opens, opened.injEq]
      constructor
      · intro found
        split at found
        next same => exact ⟨same, Option.some.inj found⟩
        · cases found
      · rintro ⟨rfl, rfl⟩
        exact if_pos rfl
  | _ => simp [opens]

theorem unused_of_opens {ledger : UInt32 → Option TimePoint} {event : SessionEvent}
    {key : UInt32} {deadline : TimePoint} (just : Justified ledger event)
    (opened : event.opens key = some deadline) : ledger key = none := by
  obtain rfl := opens_eq_some.mp opened
  exact just

/-- Transactions are opened and closed by these rules. -/
def rules : Rules SessionEvent UInt32 TimePoint where
  opens := opens
  closes := closes
  justified := Justified
  opens_unused := unused_of_opens

end SessionEvent

namespace Session

/-! ## What a call adds to the history -/

def linkLoss (before after : Session) : List SessionEvent :=
  if before.state = .selected ∧ after.state ≠ .selected then [.linkLost] else []

def frameEvents (session : Session) (now : TimePoint) (frame : Frame) : List SessionEvent :=
  let (next, out) := session.handleFrame now frame {}
  out.deliveries.map (.delivered session.state) ++
    (if frame.kind = some .rejectReq then [.rejectReceived frame.header.systemBytes] else []) ++
    session.linkLoss next

def framesEvents (session : Session) (now : TimePoint) : List Frame → List SessionEvent
  | [] => []
  | frame :: frames =>
      let (next, out) := session.handleFrame now frame {}
      session.frameEvents now frame ++ (if out.close then [] else next.framesEvents now frames)

def callEvents (session : Session) (input : SessionCall) (next : Session) (out : SessionOutput) :
    List SessionEvent :=
  match input with
  | .onBytes now bytes =>
      if session.state = .notConnected then
        []
      else
        match session.decoder.feed bytes with
        | (.error _, _) => session.linkLoss next
        | (.ok frames, decoder) =>
            { session with lastActivity := now, decoder := decoder }.framesEvents now frames
  | .onTick now => out.timedOut.map (.timedOut now) ++ session.linkLoss next
  | .sendRequest now message =>
      match session.sendRequest now message {} with
      | some (.ok system, _, _) =>
          if message.wBit then [.opened system (now.after session.config.t3)] else []
      | _ => []
  | .onConnect _ => session.linkLoss next
  | .onDisconnect => session.linkLoss next
  | .sendReply _ _ => session.linkLoss next

end Session

/-- A session, the outputs of its calls and their history. -/
structure Recording where
  session : Session
  outputs : List SessionOutput
  history : List SessionEvent

namespace Recording

def start (config : SessionConfig) : Recording :=
  ⟨.fresh config, [], []⟩

def record (recording : Recording) (input : SessionCall) : Option Recording :=
  (recording.session.call input).map fun (next, out) =>
    ⟨next, recording.outputs ++ [out],
      recording.history ++ recording.session.callEvents input next out⟩

end Recording

namespace Session

/-! ## One step -/

/-- The open transactions as a ledger. -/
def ledgerOf (transactions : ExtTreeMap UInt32 TimePoint) (system : UInt32) : Option TimePoint :=
  transactions[system]?

theorem ledgerOf_empty : ledgerOf ∅ = fun _ => none := by
  funext system
  exact ExtTreeMap.getElem?_empty

theorem ledgerOf_erase (transactions : ExtTreeMap UInt32 TimePoint) (system : UInt32) :
    ledgerOf (transactions.erase system) =
      fun key => if system = key then none else ledgerOf transactions key := by
  funext key
  simp only [ledgerOf, ExtTreeMap.getElem?_erase, Std.compare_eq_iff_eq]

theorem linkLoss_of_state_eq {session next : Session} (same : next.state = session.state) :
    session.linkLoss next = [] := by
  simp [linkLoss, same]

/-- Where the transactions are dropped, the loss of the link accounts for it. -/
theorem follows_linkLoss {session next : Session} (holds : session.LinkInvariant)
    (outside : next.state ≠ .selected) (dropped : next.transactions = ∅) :
    SessionEvent.rules.Follows (ledgerOf session.transactions) (session.linkLoss next)
      (ledgerOf next.transactions) := by
  rw [dropped, ledgerOf_empty, linkLoss]
  split
  · exact .single trivial rfl
  next kept =>
    have before : session.state ≠ .selected := fun selected => kept ⟨selected, outside⟩
    rw [holds.openInSelected before, ledgerOf_empty]
    exact .nil _

/-- One frame: its events lead from the transactions before it to those after it. -/
theorem follows_frameEvents {session : Session} (holds : session.LinkInvariant)
    (connected : session.state ≠ .notConnected) (now : TimePoint) (frame : Frame) :
    SessionEvent.rules.Follows (ledgerOf session.transactions) (session.frameEvents now frame)
      (ledgerOf (session.handleFrame now frame {}).1.transactions) := by
  have effect := session.handleFrame_effect now frame {}
  unfold frameEvents
  generalize session.handleFrame now frame {} = result at effect
  cases effect with
  | answered stype byte2 byte3 quiet =>
      have other : frame.kind ≠ some .rejectReq := by
        intro isReject
        simp [Frame.QuietIn, isReject] at quiet
      suffices step : SessionEvent.rules.Follows (ledgerOf session.transactions) []
          (ledgerOf session.transactions) by
        simpa [linkLoss, other] using step
      exact .nil _
  | delivered isData isSelected unmatched =>
      suffices step : SessionEvent.rules.Follows (ledgerOf session.transactions)
          [.delivered session.state ⟨frame, none⟩] (ledgerOf session.transactions) by
        simpa [linkLoss, isData] using step
      refine .single ⟨isSelected, isData, fun system reply => by cases reply⟩ ?_
      funext key
      simp [Rules.post, SessionEvent.rules, SessionEvent.opens, SessionEvent.closes]
  | matched isData isSelected even isOpen =>
      suffices step : SessionEvent.rules.Follows (ledgerOf session.transactions)
          [.delivered session.state ⟨frame, some frame.header.systemBytes⟩]
          (fun key =>
            if frame.header.systemBytes = key then none else ledgerOf session.transactions key) by
        rw [← ledgerOf_erase] at step
        simpa [linkLoss, isData] using step
      refine .single ⟨isSelected, isData, ?_⟩ ?_
      · rintro system reply
        obtain rfl := Option.some.inj reply
        exact ⟨ExtTreeMap.mem_iff_isSome_getElem?.mp isOpen, even, rfl⟩
      · funext key
        simp [Rules.post, SessionEvent.rules, SessionEvent.opens, SessionEvent.closes]
  | selected isSelect before =>
      suffices step : SessionEvent.rules.Follows (ledgerOf session.transactions) []
          (ledgerOf session.transactions) by
        simpa [linkLoss, isSelect, before] using step
      exact .nil _
  | deselected isDeselect before =>
      have outside : { session with
          state := .notSelected
          transactions := ∅
          t7 := .started now session.config.t7 }.state ≠ .selected := by simp
      have lost := follows_linkLoss holds outside rfl
      simpa [isDeselect] using lost
  | linktestEnded isRsp pending =>
      suffices step : SessionEvent.rules.Follows (ledgerOf session.transactions) []
          (ledgerOf session.transactions) by
        simpa [linkLoss, isRsp] using step
      exact .nil _
  | refused isReject =>
      suffices step : SessionEvent.rules.Follows (ledgerOf session.transactions)
          [.rejectReceived frame.header.systemBytes]
          (fun key =>
            if frame.header.systemBytes = key then none else ledgerOf session.transactions key) by
        rw [← ledgerOf_erase] at step
        simpa [linkLoss, isReject] using step
      refine .single trivial ?_
      funext key
      simp [Rules.post, SessionEvent.rules, SessionEvent.opens, SessionEvent.closes]
  | separated isSeparate =>
      have gone := onDisconnect_of_connected connected
      have lost := follows_linkLoss holds
        (show session.onDisconnect.state ≠ .selected by rw [gone]; simp [resetLinkState])
        (by rw [gone]; rfl)
      simpa [isSeparate, closeConnection] using lost

/-- The induction is over the frames of the read; a close ends both sides. -/
theorem follows_framesEvents {session : Session} (holds : session.LinkInvariant)
    (connected : session.state ≠ .notConnected) (now : TimePoint) (frames : List Frame)
    {out : SessionOutput} (isOpen : out.close = false) :
    SessionEvent.rules.Follows (ledgerOf session.transactions) (session.framesEvents now frames)
      (ledgerOf (session.handleFrames now out frames).1.transactions) := by
  induction frames generalizing session out with
  | nil => exact .nil _
  | cons frame frames ih =>
      have first := follows_frameEvents holds connected now frame
      have after := handleFrame_afterFrames holds connected now frame isOpen
      obtain ⟨same, _, _, closes⟩ := session.handleFrame_output now frame out
      rw [isOpen, Bool.false_or] at closes
      simp only [framesEvents, handleFrames, ← closes, ← same]
      rw [← same] at first
      split
      next closed =>
        rw [List.append_nil]
        exact first
      next stillOpen =>
        have stillOpen := Bool.eq_false_of_not_eq_true stillOpen
        exact first.append (ih after.link (after.connected stillOpen) stillOpen)

/-! ## The history shows the outputs -/

theorem linkLoss_observed (session next : Session) :
    (session.linkLoss next).filterMap SessionEvent.delivery? = [] ∧
      (session.linkLoss next).filterMap SessionEvent.timedOut? = [] := by
  unfold linkLoss
  split <;> exact ⟨rfl, rfl⟩

theorem delivered_observed (state : ConnectionState) (deliveries : List Delivery) :
    (deliveries.map (SessionEvent.delivered state)).filterMap SessionEvent.delivery? =
        deliveries ∧
      (deliveries.map (SessionEvent.delivered state)).filterMap SessionEvent.timedOut? = [] := by
  simp only [List.filterMap_map]
  exact ⟨List.filterMap_some, List.filterMap_eq_nil_iff.mpr fun _ _ => rfl⟩

theorem frameEvents_observed (session : Session) (now : TimePoint) (frame : Frame) :
    (session.frameEvents now frame).filterMap SessionEvent.delivery? =
        (session.handleFrame now frame {}).2.deliveries ∧
      (session.frameEvents now frame).filterMap SessionEvent.timedOut? = [] := by
  obtain ⟨shown, silent⟩ := delivered_observed session.state
    (session.handleFrame now frame {}).2.deliveries
  obtain ⟨lost, lostSilent⟩ := session.linkLoss_observed (session.handleFrame now frame {}).1
  simp only [frameEvents, List.filterMap_append, shown, silent, lost, lostSilent]
  split <;> simp [SessionEvent.delivery?, SessionEvent.timedOut?]

theorem framesEvents_observed (session : Session) (now : TimePoint) (frames : List Frame)
    {out : SessionOutput} (isOpen : out.close = false) :
    (session.handleFrames now out frames).2.deliveries =
        out.deliveries ++ (session.framesEvents now frames).filterMap SessionEvent.delivery? ∧
      (session.handleFrames now out frames).2.timedOut =
        out.timedOut ++ (session.framesEvents now frames).filterMap SessionEvent.timedOut? := by
  induction frames generalizing session out with
  | nil => simp [handleFrames, framesEvents]
  | cons frame frames ih =>
      obtain ⟨shown, silent⟩ := session.frameEvents_observed now frame
      obtain ⟨same, deliveries, timedOut, closes⟩ := session.handleFrame_output now frame out
      rw [isOpen, Bool.false_or] at closes
      simp only [framesEvents, handleFrames, ← closes, ← same, List.filterMap_append, shown,
        silent]
      split
      · simp [deliveries, timedOut]
      next stillOpen =>
        obtain ⟨later, laterOut⟩ := ih (session.handleFrame now frame out).1
          (Bool.eq_false_of_not_eq_true stillOpen)
        simp [later, laterOut, deliveries, timedOut]

/-! ## The calls -/

/-- Different expired transactions can be reported one after the other. -/
theorem follows_timedOut {now : TimePoint} {ledger : UInt32 → Option TimePoint}
    {systems : List UInt32} (distinct : systems.Nodup)
    (due : ∀ system ∈ systems, ∃ deadline, ledger system = some deadline ∧ deadline ≤ now) :
    SessionEvent.rules.Follows ledger (systems.map (.timedOut now))
      (fun key => if key ∈ systems then none else ledger key) := by
  induction systems generalizing ledger with
  | nil =>
      simp only [List.map_nil, List.not_mem_nil, if_false]
      exact .nil _
  | cons system systems ih =>
      rw [List.nodup_cons] at distinct
      rw [List.forall_mem_cons] at due
      have post : SessionEvent.rules.post ledger (.timedOut now system) =
          fun key => if system = key then none else ledger key := by
        funext key
        simp [Rules.post, SessionEvent.rules, SessionEvent.opens, SessionEvent.closes]
      refine .cons due.1 ?_
      rw [post]
      have later : ∀ other ∈ systems, ∃ deadline,
          (if system = other then none else ledger other) = some deadline ∧ deadline ≤ now := by
        intro other member
        rw [if_neg (show system ≠ other from fun same => distinct.1 (same ▸ member))]
        exact due.2 other member
      convert ih distinct.2 later using 2 with key
      by_cases same : key = system
      · simp [same]
      · simp [same, Ne.symm same]

theorem follows_swept (session : Session) (now : TimePoint) :
    SessionEvent.rules.Follows (ledgerOf session.transactions)
      ((expired now session.transactions.toList).map (.timedOut now))
      (ledgerOf (session.swept now)) := by
  have due : ∀ system ∈ expired now session.transactions.toList, ∃ deadline,
      ledgerOf session.transactions system = some deadline ∧ deadline ≤ now :=
    fun system member => mem_expired_toList.mp member
  convert follows_timedOut (expired_nodup now session.transactions) due using 1
  funext key
  exact expireTransactions_getElem? now _ _ _ key

theorem follows_onConnect {session : Session} (holds : session.Invariant) (now : TimePoint) :
    SessionEvent.rules.Follows (ledgerOf session.transactions)
      (session.linkLoss (session.onConnect now).1)
      (ledgerOf (session.onConnect now).1.transactions) := by
  by_cases idle : session.state = .notConnected
  · rw [onConnect_of_idle idle]
    exact follows_linkLoss holds.toLinkInvariant (by simp [resetLinkState]) rfl
  · rw [onConnect_of_connected idle, linkLoss_of_state_eq rfl]
    exact .nil _

theorem follows_onDisconnect {session : Session} (holds : session.Invariant) :
    SessionEvent.rules.Follows (ledgerOf session.transactions)
      (session.linkLoss session.onDisconnect) (ledgerOf session.onDisconnect.transactions) := by
  by_cases idle : session.state = .notConnected
  · rw [onDisconnect_of_idle idle, linkLoss_of_state_eq rfl]
    exact .nil _
  · rw [onDisconnect_of_connected idle]
    exact follows_linkLoss holds.toLinkInvariant (by simp [resetLinkState]) rfl

theorem follows_onBytes {session : Session} (holds : session.Invariant) (now : TimePoint)
    (bytes : List UInt8) :
    SessionEvent.rules.Follows (ledgerOf session.transactions)
      (session.callEvents (.onBytes now bytes) (session.onBytes now bytes).1
        (session.onBytes now bytes).2)
      (ledgerOf (session.onBytes now bytes).1.transactions) := by
  have effect := session.onBytes_effect now bytes
  generalize session.onBytes now bytes = result at effect
  cases effect with
  | offline idle =>
      simp only [callEvents, if_pos idle]
      exact .nil _
  | framingError connected reason decoder fed =>
      have before : { session with lastActivity := now, decoder := decoder }.state ≠
          .notConnected := connected
      simp only [callEvents, if_neg connected, fed, closeConnection,
        onDisconnect_of_connected before]
      exact follows_linkLoss holds.toLinkInvariant (by simp [resetLinkState]) rfl
  | handled connected frames decoder fed next out done =>
      have steps := follows_framesEvents (holds.toLinkInvariant.fed connected now fed) connected
        now frames (show ({} : SessionOutput).close = false from rfl)
      rw [done] at steps
      simp only [callEvents, if_neg connected, fed]
      split
      · exact steps
      · exact steps

theorem follows_onTick {session next : Session} {out : SessionOutput} {now : TimePoint}
    (holds : session.Invariant) (ticked : session.onTick now = some (next, out)) :
    SessionEvent.rules.Follows (ledgerOf session.transactions)
      (out.timedOut.map (.timedOut now) ++ session.linkLoss next)
      (ledgerOf next.transactions) := by
  cases onTick_effect ticked with
  | offline idle =>
      rw [linkLoss_of_state_eq rfl]
      exact .nil _
  | closed connected reason => exact follows_onDisconnect holds
  | swept => simpa [linkLoss] using session.follows_swept now
  | linktest => simpa [linkLoss] using session.follows_swept now

theorem follows_sendRequest {session : Session} {now : TimePoint} {message : Secs2.Message}
    {result : Result UInt32 × Session × SessionOutput}
    (sent : session.sendRequest now message {} = some result) (next : Session)
    (out : SessionOutput) :
    SessionEvent.rules.Follows (ledgerOf session.transactions)
      (session.callEvents (.sendRequest now message) next out)
      (ledgerOf result.2.1.transactions) := by
  simp only [callEvents, sent]
  cases sendRequest_effect sent with
  | failed reason generator => exact .nil _
  | sent isSelected system generator room nonzero unused notLinktest bytes =>
      simp only [noteSent]
      split
      next wanted =>
        refine .single (ExtTreeMap.getElem?_eq_none unused) ?_
        funext key
        simp only [Rules.post, SessionEvent.rules, SessionEvent.opens, SessionEvent.closes,
          ledgerOf, ExtTreeMap.getElem?_insert, Std.compare_eq_iff_eq]
        split <;> simp
      next unwanted => exact .nil _

/-- The events of a call lead from the transactions before it to those after it. -/
theorem follows_callEvents {session next : Session} {out : SessionOutput} {input : SessionCall}
    (holds : session.Invariant) (called : session.call input = some (next, out)) :
    SessionEvent.rules.Follows (ledgerOf session.transactions)
      (session.callEvents input next out) (ledgerOf next.transactions) := by
  cases input with
  | onConnect now =>
      obtain rfl : (session.onConnect now).1 = next := congrArg Prod.fst (Option.some.inj called)
      exact follows_onConnect holds now
  | onBytes now bytes =>
      obtain rfl : (session.onBytes now bytes).1 = next :=
        congrArg Prod.fst (Option.some.inj called)
      obtain rfl : (session.onBytes now bytes).2 = out :=
        congrArg Prod.snd (Option.some.inj called)
      exact follows_onBytes holds now bytes
  | onTick now => exact follows_onTick holds called
  | onDisconnect =>
      obtain rfl : session.onDisconnect = next := congrArg Prod.fst (Option.some.inj called)
      exact follows_onDisconnect holds
  | sendRequest now message =>
      obtain ⟨result, requested, same⟩ := Option.map_eq_some_iff.mp called
      obtain ⟨rfl, rfl⟩ := Prod.mk.inj same
      exact follows_sendRequest requested _ _
  | sendReply systemBytes message =>
      obtain rfl : session = next := congrArg Prod.fst (Option.some.inj called)
      simp only [callEvents]
      rw [linkLoss_of_state_eq rfl]
      exact .nil _

theorem timedOut_observed (now : TimePoint) (systems : List UInt32) :
    (systems.map (SessionEvent.timedOut now)).filterMap SessionEvent.delivery? = [] ∧
      (systems.map (SessionEvent.timedOut now)).filterMap SessionEvent.timedOut? = systems := by
  simp only [List.filterMap_map]
  exact ⟨List.filterMap_eq_nil_iff.mpr fun _ _ => rfl, List.filterMap_some⟩

/-- The deliveries and expiries among the events of a call are those of its output. -/
theorem callEvents_observed {session next : Session} {out : SessionOutput} {input : SessionCall}
    (called : session.call input = some (next, out)) :
    (session.callEvents input next out).filterMap SessionEvent.delivery? = out.deliveries ∧
      (session.callEvents input next out).filterMap SessionEvent.timedOut? = out.timedOut := by
  have lost := session.linkLoss_observed next
  cases input with
  | onConnect now =>
      obtain rfl : (session.onConnect now).2 = out := congrArg Prod.snd (Option.some.inj called)
      simp only [callEvents, onConnect]
      split
      · exact lost
      · exact lost
  | onBytes now bytes =>
      have effect := session.onBytes_effect now bytes
      rw [Option.some.inj called] at effect
      cases effect with
      | offline idle => simp [callEvents, idle]
      | framingError connected reason decoder fed =>
          simp only [callEvents, if_neg connected, fed]
          exact lost
      | handled connected frames decoder fed after out done =>
          have shown := framesEvents_observed
            { session with lastActivity := now, decoder := decoder } now frames
            (show ({} : SessionOutput).close = false from rfl)
          rw [done] at shown
          simpa [callEvents, connected, fed, eq_comm] using shown
  | onTick now =>
      obtain ⟨silent, shown⟩ := timedOut_observed now out.timedOut
      simp only [callEvents, List.filterMap_append, silent, shown, lost]
      refine ⟨?_, List.append_nil _⟩
      cases onTick_effect called <;> rfl
  | onDisconnect =>
      obtain rfl : {} = out := congrArg Prod.snd (Option.some.inj called)
      exact lost
  | sendRequest now message =>
      obtain ⟨result, requested, same⟩ := Option.map_eq_some_iff.mp called
      obtain ⟨rfl, rfl⟩ := Prod.mk.inj same
      simp only [callEvents, requested]
      cases sendRequest_effect requested with
      | failed => exact ⟨rfl, rfl⟩
      | sent =>
          dsimp only
          split <;> exact ⟨rfl, rfl⟩
  | sendReply systemBytes message =>
      obtain ⟨sent, only⟩ := session.sendReply_output systemBytes message {}
      obtain rfl : (session.sendReply systemBytes message {}).2 = out :=
        congrArg Prod.snd (Option.some.inj called)
      rw [only]
      exact lost

end Session

/-! ## Whole runs -/

namespace Recording

/-- What every recording of a run from a fresh session satisfies. -/
structure Faithful (recording : Recording) : Prop where
  invariant : recording.session.Invariant
  follows : SessionEvent.rules.Follows (fun _ => none) recording.history
    (Session.ledgerOf recording.session.transactions)
  deliveries : recording.history.filterMap SessionEvent.delivery? =
    recording.outputs.flatMap SessionOutput.deliveries
  timedOut : recording.history.filterMap SessionEvent.timedOut? =
    recording.outputs.flatMap SessionOutput.timedOut

theorem faithful_start (config : SessionConfig) : (start config).Faithful where
  invariant := Session.invariant_fresh config
  follows := by
    rw [start, Session.fresh, Session.ledgerOf_empty]
    exact .nil _
  deliveries := rfl
  timedOut := rfl

theorem faithful_record {recording next : Recording} {input : SessionCall}
    (holds : recording.Faithful) (taken : recording.record input = some next) :
    next.Faithful := by
  obtain ⟨⟨after, out⟩, called, rfl⟩ := Option.map_eq_some_iff.mp taken
  obtain ⟨deliveries, timedOut⟩ := Session.callEvents_observed called
  exact {
    invariant := (Session.invariant_call holds.invariant called).1
    follows := holds.follows.append (Session.follows_callEvents holds.invariant called)
    deliveries := by simp [holds.deliveries, deliveries]
    timedOut := by simp [holds.timedOut, timedOut] }

theorem faithful_of_run {config : SessionConfig} {calls : List SessionCall}
    {recording : Recording} (reached : run record (start config) calls = some recording) :
    recording.Faithful :=
  invariant Faithful faithful_record (faithful_start config) reached

end Recording

/-! ## Outcomes -/

/-- How a transaction can have ended, if it has. -/
inductive Outcome where
  | stillOpen
  | matched (frame : Frame)
  | timedOut (now : TimePoint)
  | cancelled
  | dropped

/--
The outcome of a transaction with these system bytes and this deadline, by the
events after its opening: the first one that closes it decides.
-/
def Outcome.Of (session : Session) (system : UInt32) (deadline : TimePoint)
    (later : List SessionEvent) : Outcome → Prop
  | stillOpen =>
      later.find? (·.closes system) = none ∧ session.transactions[system]? = some deadline
  | matched frame =>
      later.find? (·.closes system) = some (.delivered .selected ⟨frame, some system⟩) ∧
        frame.kind = some .data ∧ frame.header.function % 2 = 0 ∧
        frame.header.systemBytes = system
  | timedOut now => later.find? (·.closes system) = some (.timedOut now system) ∧ deadline ≤ now
  | cancelled => later.find? (·.closes system) = some (.rejectReceived system)
  | dropped => later.find? (·.closes system) = some .linkLost

theorem Outcome.Of.unique {session : Session} {system : UInt32} {deadline : TimePoint}
    {later : List SessionEvent} {one two : Outcome} (first : one.Of session system deadline later)
    (second : two.Of session system deadline later) : one = two := by
  unfold Outcome.Of at first second
  generalize later.find? (·.closes system) = closing at first second
  cases one <;> cases two <;> simp_all

/-- An answer that ends a transaction: its reply or its expiry. -/
def SessionEvent.answers (system : UInt32) : SessionEvent → Prop
  | delivered _ delivery => delivery.replyTo = some system
  | timedOut _ expired => expired = system
  | _ => False

/-- After an answer the transaction is not open. -/
theorem SessionEvent.post_of_answers {event : SessionEvent} {system : UInt32}
    {ledger : UInt32 → Option TimePoint} (answer : event.answers system) :
    rules.post ledger event system = none := by
  cases event <;> simp_all [answers, closes, opens, rules, Rules.post]

/-- Only an open transaction is answered. -/
theorem SessionEvent.open_of_answers {event : SessionEvent} {system : UInt32}
    {ledger : UInt32 → Option TimePoint} (just : rules.justified ledger event)
    (answer : event.answers system) : ∃ deadline, ledger system = some deadline := by
  cases event with
  | delivered state delivery => exact Option.isSome_iff_exists.mp (just.2.2 system answer).1
  | timedOut now expired =>
      obtain ⟨deadline, isOpen, _⟩ := just
      exact ⟨deadline, answer ▸ isOpen⟩
  | _ => exact answer.elim

/-- The first event that closes an open transaction decides its outcome. -/
theorem Outcome.exists_of_follows {session : Session} {system : UInt32} {deadline : TimePoint}
    {ledger : UInt32 → Option TimePoint} {later : List SessionEvent}
    (isOpen : ledger system = some deadline)
    (follows : SessionEvent.rules.Follows ledger later (Session.ledgerOf session.transactions)) :
    ∃ outcome : Outcome, outcome.Of session system deadline later := by
  cases found : later.find? (·.closes system) with
  | none => exact ⟨.stillOpen, found, follows.open_of_find?_eq_none isOpen found⟩
  | some event =>
      obtain ⟨middle, current, just⟩ := follows.justified_of_find?_eq_some isOpen found
      have closing := List.find?_some found
      cases event with
      | opened other date => cases closing
      | delivered state delivery =>
          obtain ⟨frame, replyTo⟩ := delivery
          obtain rfl : replyTo = some system := by simpa [SessionEvent.closes] using closing
          obtain ⟨rfl, isData, reply⟩ := just
          obtain ⟨_, even, same⟩ := reply system rfl
          exact ⟨.matched frame, found, isData, even, same⟩
      | timedOut now expired =>
          obtain rfl : expired = system := by simpa [SessionEvent.closes] using closing
          obtain ⟨date, isDue, passed⟩ := just
          obtain rfl : deadline = date := Option.some.inj (current.symm.trans isDue)
          exact ⟨.timedOut now, found, passed⟩
      | rejectReceived refused =>
          obtain rfl : refused = system := by simpa [SessionEvent.closes] using closing
          exact ⟨.cancelled, found⟩
      | linkLost => exact ⟨.dropped, found⟩

/-- A data frame with an odd function leaves the open transactions alone. -/
theorem Session.transactions_of_odd {frame : Frame} (isData : frame.kind = some .data)
    (odd : frame.header.function % 2 = 1) (session : Session) (now : TimePoint)
    (out : SessionOutput) :
    (session.handleFrame now frame out).1.transactions = session.transactions := by
  have effect := session.handleFrame_effect now frame out
  generalize session.handleFrame now frame out = result at effect
  cases effect with
  | matched _ _ even _ =>
      rw [odd] at even
      cases even
  | answered => rfl
  | delivered => rfl
  | selected isSelect => simp [isData] at isSelect
  | deselected isDeselect => simp [isData] at isDeselect
  | linktestEnded => rfl
  | refused isReject => simp [isData] at isReject
  | separated isSeparate => simp [isData] at isSeparate

/--
Every transaction has exactly one outcome.  In the history of any run, whose
deliveries and expiries are those of the calls' outputs, each opened transaction
is still open, matched, timed out, cancelled or dropped, and only one of these;
between two answers with the same system bytes there is another opening; a
delivery names only a transaction that is open; and an odd function closes none.
-/
theorem transaction_has_exactly_one_outcome (config : SessionConfig) (calls : List SessionCall)
    (recording : Recording)
    (reached : run Recording.record (Recording.start config) calls = some recording) :
    (recording.history.filterMap SessionEvent.delivery? =
        recording.outputs.flatMap SessionOutput.deliveries ∧
      recording.history.filterMap SessionEvent.timedOut? =
        recording.outputs.flatMap SessionOutput.timedOut) ∧
    (∀ before system deadline later,
      recording.history = before ++ .opened system deadline :: later →
        ∃! outcome : Outcome, outcome.Of recording.session system deadline later) ∧
    (∀ before first between second later system,
      recording.history = before ++ first :: (between ++ second :: later) →
        first.answers system → second.answers system →
          ∃ deadline, .opened system deadline ∈ between) ∧
    (∀ before state frame system later,
      recording.history = before ++ .delivered state ⟨frame, some system⟩ :: later →
        ∃ earlier deadline since, before = earlier ++ .opened system deadline :: since ∧
          ∀ event ∈ since, event.closes system = false) ∧
    (∀ (session : Session) (now : TimePoint) (frame : Frame) (out : SessionOutput),
      frame.kind = some .data → frame.header.function % 2 = 1 →
        (session.handleFrame now frame out).1.transactions = session.transactions) := by
  have faithful := Recording.faithful_of_run reached
  refine ⟨⟨faithful.deliveries, faithful.timedOut⟩, ?_, ?_, ?_, ?_⟩
  · intro before system deadline later whole
    have follows := faithful.follows
    rw [whole] at follows
    obtain ⟨middle, _, _, rest⟩ := follows.at_event
    have isOpen : SessionEvent.rules.post middle (.opened system deadline) system =
        some deadline := by simp [Rules.post, SessionEvent.rules, SessionEvent.opens]
    obtain ⟨outcome, holds⟩ := Outcome.exists_of_follows isOpen rest
    exact ⟨outcome, holds, fun other also => also.unique holds⟩
  · intro before first between second later system whole answer again
    have follows := faithful.follows
    rw [whole] at follows
    obtain ⟨start, _, just, rest⟩ := follows.at_event
    obtain ⟨finish, steps, justAgain, _⟩ := rest.at_event
    obtain ⟨deadline, isOpen⟩ := SessionEvent.open_of_answers justAgain again
    -- The first answer closed the transaction, so it can only be open again by an opening.
    rcases steps.opened_of_open isOpen with ⟨stale, _⟩ | ⟨front, event, back, rfl, opened, _⟩
    · rw [SessionEvent.post_of_answers answer] at stale
      cases stale
    · exact ⟨deadline, by simp [SessionEvent.opens_eq_some.mp opened]⟩
  · intro before state frame system later whole
    have follows := faithful.follows
    rw [whole] at follows
    obtain ⟨middle, past, just, _⟩ := follows.at_event
    have answer : (SessionEvent.delivered state ⟨frame, some system⟩).answers system := rfl
    obtain ⟨deadline, isOpen⟩ := SessionEvent.open_of_answers just answer
    rcases past.opened_of_open isOpen with
      ⟨impossible, _⟩ | ⟨earlier, event, since, rfl, opened, kept⟩
    · cases impossible
    · exact ⟨earlier, deadline, since, by rw [SessionEvent.opens_eq_some.mp opened], kept⟩
  · intro session now frame out isData odd
    exact session.transactions_of_odd isData odd now out

/-- Select.req, the equipment's request S1F13, and its reply S1F14. -/
def requestAndReply : List SessionCall :=
  [.onConnect 0, .onBytes 1 [0, 0, 0, 10, 0xFF, 0xFF, 0, 0, 0, 1, 0, 0, 0, 9],
    .sendRequest 2 ⟨1, 13, true, none⟩,
    .onBytes 3 [0, 0, 0, 10, 0, 0, 1, 14, 0, 0, 0, 0, 0, 1]]

theorem transaction_has_exactly_one_outcome_reply :
    ∃ recording later,
      run Recording.record (Recording.start {}) requestAndReply = some recording ∧
      recording.history = .opened 1 45000000002 :: later ∧
      ∃! outcome : Outcome, outcome.Of recording.session 1 45000000002 later :=
  ⟨_, _, rfl, rfl, (transaction_has_exactly_one_outcome {} requestAndReply _ rfl).2.1 [] 1
    45000000002 _ rfl⟩

end Ssim.Hsms
