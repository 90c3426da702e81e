import Ssim.Hsms.Transport
import Ssim.Library.Runs

/-!
# Calls of a session

The entry points of a session as inputs of one step function, and what each of
them can do.  `FrameEffect`, `TickEffect` and `RequestEffect` list everything that
one incoming frame, one tick and one request can do to a session and its output.
-/

namespace Ssim.Hsms

open Ssim.Core (Error Result)
open Std (ExtTreeMap)

/-- The SType of a frame that the session dispatches on; `none` is rejected as a whole. -/
def Frame.kind (frame : Frame) : Option SType :=
  if frame.header.ptype ≠ 0 then none else stypeFromByte frame.header.stype

/-- A frame that can only be answered in this state, by one control frame. -/
def Frame.QuietIn (frame : Frame) (state : ConnectionState) : Prop :=
  match frame.kind with
  | some .data => state ≠ .selected
  | some .selectReq => state ≠ .notSelected
  | some .deselectReq => state ≠ .selected
  | some .rejectReq => False
  | some .separateReq => False
  | _ => True

/-! ## Calls -/

inductive SessionCall where
  | onConnect (now : TimePoint)
  | onBytes (now : TimePoint) (bytes : List UInt8)
  | onTick (now : TimePoint)
  | onDisconnect
  | sendRequest (now : TimePoint) (message : Secs2.Message)
  | sendReply (systemBytes : UInt32) (message : Secs2.Message)

namespace Session

/-- One call with an output of its own; `none` if the call never returns. -/
def call (session : Session) : SessionCall → Option (Session × SessionOutput)
  | .onConnect now => some (session.onConnect now)
  | .onBytes now bytes => some (session.onBytes now bytes)
  | .onTick now => session.onTick now
  | .onDisconnect => some (session.onDisconnect, {})
  | .sendRequest now message =>
      (session.sendRequest now message {}).map fun result => (result.2.1, result.2.2)
  | .sendReply systemBytes message => some (session, (session.sendReply systemBytes message {}).2)

/-- The session after a call. -/
def advance (session : Session) (input : SessionCall) : Option Session :=
  (session.call input).map Prod.fst

/-! ## One incoming frame -/

/-- Everything that `handleFrame` can return. -/
inductive FrameEffect (session : Session) (now : TimePoint) (frame : Frame) (out : SessionOutput) :
    Session × SessionOutput → Prop where
  /-- One control frame in answer and no other effect. -/
  | answered (stype : SType) (byte2 byte3 : UInt8)
      (quiet : frame.QuietIn session.state) :
      FrameEffect session now frame out
        (session, sendControl stype frame.header.systemBytes byte2 byte3 out)
  /-- A data message that answers no open request. -/
  | delivered (isData : frame.kind = some .data) (isSelected : session.state = .selected)
      (unmatched : ¬ (frame.header.function % 2 = 0 ∧
        frame.header.systemBytes ∈ session.transactions)) :
      FrameEffect session now frame out
        (session, { out with deliveries := out.deliveries ++ [⟨frame, none⟩] })
  /-- The reply to an open request. -/
  | matched (isData : frame.kind = some .data) (isSelected : session.state = .selected)
      (even : frame.header.function % 2 = 0)
      (isOpen : frame.header.systemBytes ∈ session.transactions) :
      FrameEffect session now frame out
        ({ session with transactions := session.transactions.erase frame.header.systemBytes },
          { out with deliveries :=
              out.deliveries ++ [⟨frame, some frame.header.systemBytes⟩] })
  | selected (isSelect : frame.kind = some .selectReq) (before : session.state = .notSelected) :
      FrameEffect session now frame out
        ({ session with state := .selected, t7 := .stopped },
          sendControl .selectRsp frame.header.systemBytes 0 kSelectOk out)
  | deselected (isDeselect : frame.kind = some .deselectReq) (before : session.state = .selected) :
      FrameEffect session now frame out
        ({ session with
            state := .notSelected, transactions := ∅, t7 := .started now session.config.t7 },
          sendControl .deselectRsp frame.header.systemBytes 0 kDeselectOk out)
  /-- The answer to the pending Linktest. -/
  | linktestEnded (isRsp : frame.kind = some .linktestRsp)
      (pending : session.pendingLinktest = some frame.header.systemBytes) :
      FrameEffect session now frame out
        ({ session with pendingLinktest := none, t6 := .stopped }, out)
  /-- The peer refused what was sent with these system bytes. -/
  | refused (isReject : frame.kind = some .rejectReq) :
      FrameEffect session now frame out
        ({ session.endLinktest frame.header.systemBytes with
            transactions := session.transactions.erase frame.header.systemBytes }, out)
  | separated (isSeparate : frame.kind = some .separateReq) :
      FrameEffect session now frame out
        (session.closeConnection "Separate.req received" out)

@[simp]
theorem endLinktest_transactions (session : Session) (system : UInt32) :
    (session.endLinktest system).transactions = session.transactions := by
  unfold endLinktest
  split <;> rfl

@[simp]
theorem endLinktest_state (session : Session) (system : UInt32) :
    (session.endLinktest system).state = session.state := by
  unfold endLinktest
  split <;> rfl

theorem handleFrame_effect (session : Session) (now : TimePoint) (frame : Frame)
    (out : SessionOutput) :
    FrameEffect session now frame out (session.handleFrame now frame out) := by
  unfold handleFrame
  dsimp only
  split
  next foreign => exact .answered _ _ _ (by simp [Frame.QuietIn, Frame.kind, foreign])
  next native =>
    have kind : frame.kind = stypeFromByte frame.header.stype := by rw [Frame.kind, if_neg native]
    split
    next unknown => exact .answered _ _ _ (by simp [Frame.QuietIn, kind, unknown])
    next isData =>
      rw [← kind] at isData
      unfold handleData
      dsimp only
      split
      next outside => exact .answered _ _ _ (by simpa [Frame.QuietIn, isData] using outside)
      next isSelected =>
        have isSelected : session.state = .selected := by simpa using isSelected
        split
        next reply => exact .matched isData isSelected reply.1 reply.2
        next unmatched => exact .delivered isData isSelected unmatched
    next isSelect =>
      rw [← kind] at isSelect
      unfold handleSelectReq
      split
      next before =>
        simp only [fire, ConnectionState.apply, before]
        exact .selected isSelect before
      next outside => exact .answered _ _ _ (by simpa [Frame.QuietIn, isSelect] using outside)
    next isDeselect =>
      rw [← kind] at isDeselect
      unfold handleDeselectReq
      split
      next before =>
        simp only [fire, ConnectionState.apply, before]
        exact .deselected isDeselect before
      next outside => exact .answered _ _ _ (by simpa [Frame.QuietIn, isDeselect] using outside)
    next isLinktest => exact .answered _ _ _ (by simp [Frame.QuietIn, kind, isLinktest])
    next isRsp =>
      split
      next pending =>
        rw [endLinktest, if_pos pending]
        exact .linktestEnded (kind.trans isRsp) pending
      · exact .answered _ _ _ (by simp [Frame.QuietIn, kind, isRsp])
    next isRsp => exact .answered _ _ _ (by simp [Frame.QuietIn, kind, isRsp])
    next isRsp => exact .answered _ _ _ (by simp [Frame.QuietIn, kind, isRsp])
    next isReject =>
      simp only [endLinktest_transactions]
      exact .refused (kind.trans isReject)
    next isSeparate => exact .separated (kind.trans isSeparate)

section SendControl

variable (stype : SType) (systemBytes : UInt32) (byte2 byte3 : UInt8) (out : SessionOutput)

@[simp]
theorem sendControl_deliveries :
    (sendControl stype systemBytes byte2 byte3 out).deliveries = out.deliveries := rfl

@[simp]
theorem sendControl_timedOut :
    (sendControl stype systemBytes byte2 byte3 out).timedOut = out.timedOut := rfl

@[simp]
theorem sendControl_close :
    (sendControl stype systemBytes byte2 byte3 out).close = out.close := rfl

end SendControl

/--
The session after a frame does not depend on the output so far, and the frame only
adds to it.
-/
theorem handleFrame_output (session : Session) (now : TimePoint) (frame : Frame)
    (out : SessionOutput) :
    (session.handleFrame now frame out).1 = (session.handleFrame now frame {}).1 ∧
      (session.handleFrame now frame out).2.deliveries =
        out.deliveries ++ (session.handleFrame now frame {}).2.deliveries ∧
      (session.handleFrame now frame out).2.timedOut = out.timedOut ∧
      (session.handleFrame now frame out).2.close =
        (out.close || (session.handleFrame now frame {}).2.close) := by
  by_cases foreign : frame.header.ptype ≠ 0
  · simp [handleFrame, foreign, reject]
  · simp only [handleFrame, if_neg foreign]
    cases stypeFromByte frame.header.stype with
    | none => simp [reject]
    | some stype =>
        cases stype with
        | data =>
            simp only [handleData]
            split
            · simp [reject]
            · split <;> simp
        | selectReq =>
            simp only [handleSelectReq]
            split <;> simp
        | deselectReq =>
            simp only [handleDeselectReq]
            split <;> simp
        | linktestReq => simp
        | linktestRsp =>
            dsimp only
            split <;> simp [reject]
        | selectRsp => simp [reject]
        | deselectRsp => simp [reject]
        | rejectReq => simp
        | separateReq => simp [closeConnection]

/-- Frames never report an expiry. -/
theorem handleFrames_timedOut (session : Session) (now : TimePoint) (frames : List Frame)
    (out : SessionOutput) : (session.handleFrames now out frames).2.timedOut = out.timedOut := by
  induction frames generalizing session out with
  | nil => rfl
  | cons frame frames ih =>
      have same := (session.handleFrame_output now frame out).2.2.1
      simp only [handleFrames]
      split
      · exact same
      · rw [ih, same]

/-! ## One read -/

/-- Everything that `onBytes` can return. -/
inductive BytesEffect (session : Session) (now : TimePoint) (bytes : List UInt8) :
    Session × SessionOutput → Prop where
  | offline (idle : session.state = .notConnected) : BytesEffect session now bytes (session, {})
  | framingError (connected : session.state ≠ .notConnected) (reason : Error)
      (decoder : FrameDecoder) (fed : session.decoder.feed bytes = (.error reason, decoder)) :
      BytesEffect session now bytes
        ({ session with lastActivity := now, decoder := decoder }.closeConnection
          ("framing error: " ++ reason.message) {})
  /-- The frames that the bytes complete are handled; T8 follows unless one of them closes. -/
  | handled (connected : session.state ≠ .notConnected) (frames : List Frame)
      (decoder : FrameDecoder) (fed : session.decoder.feed bytes = (.ok frames, decoder))
      (next : Session) (out : SessionOutput)
      (done : { session with lastActivity := now, decoder := decoder }.handleFrames now {} frames =
        (next, out)) :
      BytesEffect session now bytes (if out.close then next else next.updateT8 now, out)

theorem onBytes_effect (session : Session) (now : TimePoint) (bytes : List UInt8) :
    BytesEffect session now bytes (session.onBytes now bytes) := by
  unfold onBytes
  split
  next idle => exact .offline idle
  next connected =>
    dsimp only
    split
    next reason decoder fed => exact .framingError connected reason decoder fed
    next frames decoder fed =>
      have handled : BytesEffect session now bytes _ :=
        .handled connected frames decoder fed _ _ rfl
      split
      next closed =>
        rw [if_pos closed] at handled
        exact handled
      next stillOpen =>
        rw [if_neg stillOpen] at handled
        exact handled

/-! ## The T3 sweep -/

/-- The system bytes of the entries whose deadline has come. -/
def expired (now : TimePoint) (entries : List (UInt32 × TimePoint)) : List UInt32 :=
  (entries.filter fun entry => now ≥ entry.2).map Prod.fst

theorem expired_cons (now : TimePoint) (entry : UInt32 × TimePoint)
    (entries : List (UInt32 × TimePoint)) :
    expired now (entry :: entries) =
      if now ≥ entry.2 then entry.1 :: expired now entries else expired now entries := by
  unfold expired
  split
  next due => rw [List.filter_cons_of_pos (by simpa using due), List.map_cons]
  next pending => rw [List.filter_cons_of_neg (by simpa using pending)]

theorem expireTransactions_timedOut (now : TimePoint) (entries : List (UInt32 × TimePoint))
    (transactions : ExtTreeMap UInt32 TimePoint) (timedOut : List UInt32) :
    (expireTransactions now entries (transactions, timedOut)).2 =
      timedOut ++ expired now entries := by
  induction entries generalizing transactions timedOut with
  | nil => simp [expireTransactions, expired]
  | cons entry entries ih =>
      rw [expireTransactions, expired_cons]
      split <;> simp [ih]

theorem expireTransactions_getElem? (now : TimePoint) (entries : List (UInt32 × TimePoint))
    (transactions : ExtTreeMap UInt32 TimePoint) (timedOut : List UInt32) (system : UInt32) :
    (expireTransactions now entries (transactions, timedOut)).1[system]? =
      if system ∈ expired now entries then none else transactions[system]? := by
  induction entries generalizing transactions timedOut with
  | nil => simp [expireTransactions, expired]
  | cons entry entries ih =>
      rw [expireTransactions, expired_cons]
      split
      next due =>
        rw [ih, ExtTreeMap.getElem?_erase]
        by_cases same : system = entry.1
        · simp [same]
        · simp [same, Ne.symm same]
      · rw [ih]

theorem expired_nodup (now : TimePoint) (transactions : ExtTreeMap UInt32 TimePoint) :
    (expired now transactions.toList).Nodup := by
  refine List.Nodup.sublist (List.filter_sublist.map _) ?_
  rw [ExtTreeMap.map_fst_toList_eq_keys]
  exact ExtTreeMap.nodup_keys

/-- A request is expired in the sweep of all open ones exactly if its deadline has come. -/
theorem mem_expired_toList {now : TimePoint} {transactions : ExtTreeMap UInt32 TimePoint}
    {system : UInt32} :
    system ∈ expired now transactions.toList ↔
      ∃ deadline, transactions[system]? = some deadline ∧ deadline ≤ now := by
  simp only [expired, List.mem_map, List.mem_filter, decide_eq_true_eq, Prod.exists,
    ExtTreeMap.mem_toList_iff_getElem?_eq_some]
  constructor
  · rintro ⟨key, deadline, ⟨isOpen, due⟩, rfl⟩
    exact ⟨deadline, isOpen, due⟩
  · rintro ⟨deadline, isOpen, due⟩
    exact ⟨system, deadline, ⟨isOpen, due⟩, rfl⟩

/-- The open requests that a sweep leaves. -/
def swept (session : Session) (now : TimePoint) : ExtTreeMap UInt32 TimePoint :=
  (expireTransactions now session.transactions.toList (session.transactions, [])).1

theorem swept_getElem?_eq_some {session : Session} {now deadline : TimePoint} {system : UInt32} :
    (session.swept now)[system]? = some deadline ↔
      session.transactions[system]? = some deadline ∧ now < deadline := by
  rw [swept, expireTransactions_getElem?]
  split
  next due =>
    obtain ⟨other, isOpen, passed⟩ := mem_expired_toList.mp due
    rw [isOpen]
    constructor
    · intro impossible
      cases impossible
    · rintro ⟨same, later⟩
      obtain rfl := Option.some.inj same
      exact absurd later (Int.not_lt.mpr passed)
  next kept =>
    constructor
    · intro isOpen
      refine ⟨isOpen, ?_⟩
      by_contra passed
      exact kept (mem_expired_toList.mpr ⟨deadline, isOpen, Int.not_lt.mp passed⟩)
    · exact And.left

/-! ## One tick -/

/-- Everything that `onTick` can return. -/
inductive TickEffect (session : Session) (now : TimePoint) : Session × SessionOutput → Prop where
  | offline (idle : session.state = .notConnected) : TickEffect session now (session, {})
  /-- T7, T8 or T6 has expired. -/
  | closed (connected : session.state ≠ .notConnected) (reason : String) :
      TickEffect session now (session.closeConnection reason {})
  /-- The expired requests are reported. -/
  | swept (connected : session.state ≠ .notConnected) :
      TickEffect session now ({ session with transactions := session.swept now },
        { timedOut := expired now session.transactions.toList })
  /-- The expired requests are reported, and a Linktest starts. -/
  | linktest (isSelected : session.state = .selected)
      (none : session.pendingLinktest = none) (system generator : UInt32)
      (unused : system ∉ session.swept now) :
      TickEffect session now
        ({ session with
            transactions := session.swept now
            nextSystemBytes := generator
            pendingLinktest := some system
            t6 := .started now session.config.t6
            lastActivity := now },
          sendControl .linktestReq system 0 0
            { timedOut := expired now session.transactions.toList })

theorem onDisconnect_of_connected {session : Session} (connected : session.state ≠ .notConnected) :
    session.onDisconnect = { session with state := .notConnected }.resetLinkState := by
  simp [onDisconnect, ConnectionState.apply, connected]

theorem onDisconnect_of_idle {session : Session} (idle : session.state = .notConnected) :
    session.onDisconnect = session := by
  simp [onDisconnect, ConnectionState.apply, idle]

theorem onConnect_of_idle {session : Session} (idle : session.state = .notConnected)
    (now : TimePoint) :
    session.onConnect now =
      ({ { session with state := .notSelected }.resetLinkState with
          lastActivity := now, t7 := .started now session.config.t7 }, {}) := by
  simp [onConnect, ConnectionState.apply, idle, resetLinkState]

theorem onConnect_of_connected {session : Session} (connected : session.state ≠ .notConnected)
    (now : TimePoint) : session.onConnect now = (session, {}) := by
  simp [onConnect, ConnectionState.apply, connected]

/-- The sweep reports and forgets the expired requests before the Linktest is considered. -/
theorem tickConnected_eq (session : Session) (now : TimePoint) :
    session.tickConnected now =
      if session.state = .selected ∧ session.pendingLinktest = none ∧
          now - session.lastActivity ≥ session.config.linktestInterval * 1000000 then
        ({ session with transactions := session.swept now } : Session).allocateSystemBytes.map
          fun (system, allocated) =>
            ({ allocated with
                pendingLinktest := some system
                t6 := .started now allocated.config.t6
                lastActivity := now },
              sendControl .linktestReq system 0 0
                { timedOut := expired now session.transactions.toList })
      else
        some ({ session with transactions := session.swept now },
          { timedOut := expired now session.transactions.toList }) := by
  have reported := expireTransactions_timedOut now session.transactions.toList
    session.transactions []
  rw [List.nil_append] at reported
  unfold tickConnected
  dsimp only
  rw [reported]
  rfl

theorem tickConnected_effect {session : Session} {now : TimePoint}
    {result : Session × SessionOutput} (connected : session.state ≠ .notConnected)
    (ticked : session.tickConnected now = some result) : TickEffect session now result := by
  rw [tickConnected_eq] at ticked
  split at ticked
  next idle =>
    obtain ⟨⟨system, allocated⟩, found, rfl⟩ := Option.map_eq_some_iff.mp ticked
    obtain ⟨_, unused, _, generator, rfl⟩ := allocateSystemBytes_eq_some found
    exact .linktest idle.1 idle.2.1 system generator unused
  · obtain rfl := Option.some.inj ticked
    exact .swept connected

theorem onTick_effect {session : Session} {now : TimePoint} {result : Session × SessionOutput}
    (ticked : session.onTick now = some result) : TickEffect session now result := by
  unfold onTick at ticked
  split at ticked
  next idle =>
    obtain rfl := Option.some.inj ticked
    exact .offline idle
  next connected =>
    split at ticked
    next late =>
      obtain rfl := Option.some.inj ticked
      have same : (session.fire .t7Timeout).resetLinkState = session.onDisconnect := by
        rw [onDisconnect_of_connected connected]
        simp [fire, ConnectionState.apply, late.1]
      rw [same]
      exact .closed connected _
    · split at ticked
      · obtain rfl := Option.some.inj ticked
        exact .closed connected _
      · split at ticked
        · obtain rfl := Option.some.inj ticked
          exact .closed connected _
        · exact tickConnected_effect connected ticked

/-! ## One request -/

/-- Everything that `sendRequest` can return. -/
inductive RequestEffect (session : Session) (now : TimePoint) (message : Secs2.Message)
    (out : SessionOutput) : Result UInt32 × Session × SessionOutput → Prop where
  /-- Nothing is sent; an allocation may have moved the generator. -/
  | failed (reason : Error) (generator : UInt32) :
      RequestEffect session now message out
        (.error reason, { session with nextSystemBytes := generator }, out)
  | sent (isSelected : session.state = .selected) (system generator : UInt32)
      (room : message.wBit = true →
        session.transactions.size < session.config.maxOpenTransactions)
      (nonzero : system ≠ 0) (unused : system ∉ session.transactions)
      (notLinktest : session.pendingLinktest ≠ some system) (bytes : List UInt8) :
      RequestEffect session now message out
        (.ok system, { session with nextSystemBytes := generator }.noteSent now message system,
          { out with toSend := out.toSend ++ [bytes] })

theorem sendRequest_effect {session : Session} {now : TimePoint} {message : Secs2.Message}
    {out : SessionOutput} {result : Result UInt32 × Session × SessionOutput}
    (sent : session.sendRequest now message out = some result) :
    RequestEffect session now message out result := by
  unfold sendRequest at sent
  split at sent
  · obtain rfl := Option.some.inj sent
    exact .failed _ session.nextSystemBytes
  next isSelected =>
    split at sent
    · obtain rfl := Option.some.inj sent
      exact .failed _ session.nextSystemBytes
    next room =>
      obtain ⟨⟨system, allocated⟩, found, rfl⟩ := Option.map_eq_some_iff.mp sent
      obtain ⟨nonzero, unused, notLinktest, generator, rfl⟩ := allocateSystemBytes_eq_some found
      dsimp only
      split
      · exact .failed _ generator
      next queued =>
        obtain ⟨_, bytes, _, _, _, rfl⟩ := queueData_eq_ok queued
        refine .sent (by simpa using isSelected) system generator ?_ nonzero unused notLinktest
          bytes
        intro wanted
        simpa [wanted] using room

/-- A reply only adds to what there is to send. -/
theorem sendReply_output (session : Session) (systemBytes : UInt32) (message : Secs2.Message)
    (out : SessionOutput) :
    ∃ sent, (session.sendReply systemBytes message out).2 = { out with toSend := sent } := by
  unfold sendReply
  split
  · exact ⟨out.toSend, rfl⟩
  · split
    · exact ⟨out.toSend, rfl⟩
    next queued =>
      obtain ⟨_, bytes, _, _, _, rfl⟩ := queueData_eq_ok queued
      exact ⟨_, rfl⟩

end Session

end Ssim.Hsms
