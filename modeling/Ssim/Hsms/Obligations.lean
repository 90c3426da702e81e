import Ssim.Hsms.Emissions
import Ssim.Hsms.FrameLink

/-!
# What a session owes and is owed

A session waits for replies to its requests and for the answer to its Linktest.  Every
call writes whole frames.  A frame that is handled ends the waiting that it settles, and
a control request gets its response before the next frame is looked at.
-/

namespace Ssim.Hsms

open Ssim.Core (Error Result)
open Std (ExtTreeMap)

/-- What a session waits for. -/
inductive Owed where
  | reply (systemBytes : UInt32)
  | linktest (systemBytes : UInt32)
  deriving Repr, DecidableEq

/-- Not a read and no new connection; only allowed messages ask for a reply. -/
def SessionCall.Ordinary (allowed : Secs2.Message → Prop) : SessionCall → Prop
  | .onConnect _ => False
  | .onBytes _ _ => False
  | .sendRequest _ message => message.wBit = true → allowed message
  | _ => True

namespace Frame

/-- The frame is what a session with this debt waits for. -/
def settles (frame : Frame) : Owed → Prop
  | .reply systemBytes =>
      frame.kind = some .data ∧ frame.header.function % 2 = 0 ∧
        frame.header.systemBytes = systemBytes
  | .linktest systemBytes =>
      frame.kind = some .linktestRsp ∧ frame.header.systemBytes = systemBytes

/-- The response that a control request asks for, and its system bytes. -/
def requests (frame : Frame) : Option (SType × UInt32) :=
  match frame.kind with
  | some .selectReq => some (.selectRsp, frame.header.systemBytes)
  | some .deselectReq => some (.deselectRsp, frame.header.systemBytes)
  | some .linktestReq => some (.linktestRsp, frame.header.systemBytes)
  | _ => none

/-- The response that a frame is. -/
def responds (frame : Frame) : Option (SType × UInt32) :=
  match frame.kind with
  | some .selectRsp => some (.selectRsp, frame.header.systemBytes)
  | some .deselectRsp => some (.deselectRsp, frame.header.systemBytes)
  | some .linktestRsp => some (.linktestRsp, frame.header.systemBytes)
  | _ => none

end Frame

namespace SessionOutput

/-- These frames are what the output adds to an earlier one. -/
def Adds (out : SessionOutput) (frames : List Frame) (result : SessionOutput) : Prop :=
  ∃ vectors, EncodesEach frames vectors ∧ result.toSend = out.toSend ++ vectors

theorem Adds.nothing {out result : SessionOutput} (same : result.toSend = out.toSend) :
    out.Adds [] result :=
  ⟨[], .nil, by rw [same, List.append_nil]⟩

theorem Adds.trans {out middle result : SessionOutput} {frames others : List Frame}
    (first : out.Adds frames middle) (second : middle.Adds others result) :
    out.Adds (frames ++ others) result := by
  obtain ⟨vectors, encoded, sent⟩ := first
  obtain ⟨more, later, after⟩ := second
  exact ⟨vectors ++ more, encoded.append later, by rw [after, sent, List.append_assoc]⟩

end SessionOutput

namespace Session

theorem invariant_of_run {config : SessionConfig} {calls : List SessionCall} {session : Session}
    (reached : Library.Runs.run advance (fresh config) calls = some session) :
    session.Invariant := by
  refine Library.Runs.invariant Session.Invariant (fun kept taken => ?_)
    (invariant_fresh config) reached
  obtain ⟨⟨after, out⟩, called, rfl⟩ := Option.map_eq_some_iff.mp taken
  exact (invariant_call kept called).1

/-- What the session waits for. -/
def owes (session : Session) : Set Owed := fun owed =>
  match owed with
  | .reply systemBytes => systemBytes ∈ session.transactions
  | .linktest systemBytes => session.pendingLinktest = some systemBytes

@[simp]
theorem reply_mem_owes {session : Session} {systemBytes : UInt32} :
    .reply systemBytes ∈ session.owes ↔ systemBytes ∈ session.transactions :=
  Iff.rfl

@[simp]
theorem linktest_mem_owes {session : Session} {systemBytes : UInt32} :
    .linktest systemBytes ∈ session.owes ↔ session.pendingLinktest = some systemBytes :=
  Iff.rfl

theorem adds_sendControl (stype : SType) (systemBytes : UInt32) (byte2 byte3 : UInt8)
    (out : SessionOutput) :
    out.Adds [makeControlFrame stype systemBytes byte2 byte3]
      (sendControl stype systemBytes byte2 byte3 out) :=
  ⟨_, .singleton rfl, rfl⟩

/-! ## One incoming frame -/

/-- What a frame makes a session write and leaves it to wait for. -/
structure Handles (session : Session) (frame : Frame) (out : SessionOutput)
    (result : Session × SessionOutput) : Prop where
  writes : ∃ frames, out.Adds frames result.2 ∧
    frames.filterMap Frame.responds = frame.requests.toList
  owes : ∀ owed ∈ result.1.owes, owed ∈ session.owes ∧ ¬ frame.settles owed
  decoder : result.2.close = false → result.1.decoder = session.decoder

section Handles

variable {session : Session} {frame : Frame} {out : SessionOutput}

theorem responds_makeControlFrame (stype : SType) (systemBytes : UInt32) (byte2 byte3 : UInt8) :
    (makeControlFrame stype systemBytes byte2 byte3).responds =
      match stype with
      | .selectRsp => some (.selectRsp, systemBytes)
      | .deselectRsp => some (.deselectRsp, systemBytes)
      | .linktestRsp => some (.linktestRsp, systemBytes)
      | _ => none := by
  cases stype <;> rfl

/-- One control frame in answer. -/
theorem Handles.answered (stype : SType) (byte2 byte3 : UInt8) {next : Session}
    (response : (makeControlFrame stype frame.header.systemBytes byte2 byte3).responds =
      frame.requests)
    (owes : ∀ owed ∈ next.owes, owed ∈ session.owes ∧ ¬ frame.settles owed)
    (decoder : next.decoder = session.decoder) :
    session.Handles frame out
      (next, sendControl stype frame.header.systemBytes byte2 byte3 out) := by
  refine ⟨⟨_, adds_sendControl _ _ _ _ _, ?_⟩, owes, fun _ => decoder⟩
  rw [List.filterMap_cons, response]
  cases frame.requests <;> rfl

/-- No answer at all. -/
theorem Handles.silent {next : Session} {result : SessionOutput}
    (same : result.toSend = out.toSend) (silent : frame.requests = none)
    (owes : ∀ owed ∈ next.owes, owed ∈ session.owes ∧ ¬ frame.settles owed)
    (decoder : result.close = false → next.decoder = session.decoder) :
    session.Handles frame out (next, result) :=
  ⟨⟨[], .nothing same, by rw [silent]; rfl⟩, owes, decoder⟩

/-- A frame that is neither data nor a response to a Linktest settles nothing. -/
theorem not_settles (notData : frame.kind ≠ some .data) (notRsp : frame.kind ≠ some .linktestRsp)
    (owed : Owed) : ¬ frame.settles owed := by
  cases owed with
  | reply systemBytes => exact fun settles => notData settles.1
  | linktest systemBytes => exact fun settles => notRsp settles.1

/-- The end of the pending Linktest, if it has these system bytes. -/
theorem owes_endLinktest {systemBytes : UInt32} {owed : Owed}
    (owes : owed ∈ (session.endLinktest systemBytes).owes) : owed ∈ session.owes := by
  cases owed with
  | reply other => simpa using owes
  | linktest other =>
      unfold endLinktest at owes
      split at owes
      · cases owes
      · exact owes

/-- A session that is not connected waits for nothing. -/
theorem LinkInvariant.owes_nothing (holds : session.LinkInvariant)
    (idle : session.state = .notConnected) (owed : Owed) : owed ∉ session.owes := by
  cases owed with
  | reply systemBytes =>
      change systemBytes ∉ session.transactions
      rw [holds.openInSelected (by simp [idle])]
      exact ExtTreeMap.not_mem_empty
  | linktest systemBytes =>
      intro pending
      rw [linktest_mem_owes, (holds.idle idle).2.1] at pending
      cases pending

theorem owes_onDisconnect {owed : Owed} (owes : owed ∈ session.onDisconnect.owes) :
    owed ∈ session.owes := by
  by_cases idle : session.state = .notConnected
  · rwa [onDisconnect_of_idle idle] at owes
  · obtain ⟨closed, state⟩ := invariant_onDisconnect idle
    exact absurd owes (closed.toLinkInvariant.owes_nothing state owed)

end Handles

theorem handleData_handles {session : Session} {frame : Frame} {out : SessionOutput}
    (holds : session.LinkInvariant) (isData : frame.kind = some .data) :
    session.Handles frame out (session.handleData frame out) := by
  have silent : frame.requests = none := by rw [Frame.requests, isData]
  have notRsp (systemBytes : UInt32) : ¬ frame.settles (.linktest systemBytes) := by
    rintro ⟨kind, -⟩
    rw [isData] at kind
    cases kind
  unfold handleData
  dsimp only
  split
  next outside =>
    refine .answered .rejectReq _ _ (silent ▸ rfl) (fun owed owes => ⟨owes, ?_⟩) rfl
    cases owed with
    | reply systemBytes =>
        -- Outside the selected state no request is open.
        have none := holds.openInSelected outside
        rw [reply_mem_owes, none] at owes
        exact absurd owes ExtTreeMap.not_mem_empty
    | linktest systemBytes => exact notRsp systemBytes
  · split
    next reply =>
      refine .silent rfl silent (fun owed owes => ?_) fun _ => rfl
      cases owed with
      | reply systemBytes =>
          obtain ⟨apart, member⟩ := ExtTreeMap.mem_erase.mp owes
          refine ⟨member, fun settles => apart ?_⟩
          rw [settles.2.2, Std.compare_self]
      | linktest systemBytes => exact ⟨owes, notRsp systemBytes⟩
    next unmatched =>
      refine .silent rfl silent (fun owed owes => ⟨owes, ?_⟩) fun _ => rfl
      cases owed with
      | reply systemBytes =>
          rintro ⟨-, even, rfl⟩
          exact unmatched ⟨even, owes⟩
      | linktest systemBytes => exact notRsp systemBytes

theorem handleFrame_handles {session : Session} (holds : session.LinkInvariant)
    (now : TimePoint) (frame : Frame) (out : SessionOutput) :
    session.Handles frame out (session.handleFrame now frame out) := by
  unfold handleFrame
  dsimp only
  split
  next foreign =>
    have kind : frame.kind = none := by rw [Frame.kind, if_pos foreign]
    exact .answered .rejectReq _ _ (by rw [Frame.requests, kind]; rfl)
      (fun owed owes => ⟨owes, not_settles (by simp [kind]) (by simp [kind]) owed⟩) rfl
  next native =>
    have kind : frame.kind = stypeFromByte frame.header.stype := by rw [Frame.kind, if_neg native]
    split
    next unknown =>
      have kind := kind.trans unknown
      exact .answered .rejectReq _ _ (by rw [Frame.requests, kind]; rfl)
        (fun owed owes => ⟨owes, not_settles (by simp [kind]) (by simp [kind]) owed⟩) rfl
    next isData => exact handleData_handles holds (kind.trans isData)
    next isSelect =>
      have kind := kind.trans isSelect
      have requests : frame.requests = some (.selectRsp, frame.header.systemBytes) := by
        rw [Frame.requests, kind]
      have kept : ∀ owed, ¬ frame.settles owed :=
        not_settles (by simp [kind]) (by simp [kind])
      unfold handleSelectReq
      split
      next before =>
        refine .answered .selectRsp _ _ (requests ▸ rfl) (fun owed owes => ⟨?_, kept owed⟩) ?_
        · cases owed <;> simpa [fire, ConnectionState.apply, before] using owes
        · simp [fire, ConnectionState.apply, before]
      · exact .answered .selectRsp _ _ (requests ▸ rfl) (fun owed owes => ⟨owes, kept owed⟩) rfl
    next isDeselect =>
      have kind := kind.trans isDeselect
      have requests : frame.requests = some (.deselectRsp, frame.header.systemBytes) := by
        rw [Frame.requests, kind]
      have kept : ∀ owed, ¬ frame.settles owed :=
        not_settles (by simp [kind]) (by simp [kind])
      unfold handleDeselectReq
      split
      next before =>
        refine .answered .deselectRsp _ _ (requests ▸ rfl) (fun owed owes => ⟨?_, kept owed⟩) ?_
        · cases owed with
          | reply systemBytes => exact absurd owes ExtTreeMap.not_mem_empty
          | linktest systemBytes =>
              simpa [fire, ConnectionState.apply, before] using owes
        · simp [fire, ConnectionState.apply, before]
      · exact .answered .deselectRsp _ _ (requests ▸ rfl) (fun owed owes => ⟨owes, kept owed⟩) rfl
    next isLinktest =>
      have kind := kind.trans isLinktest
      exact .answered .linktestRsp _ _ (by rw [Frame.requests, kind]; rfl)
        (fun owed owes => ⟨owes, not_settles (by simp [kind]) (by simp [kind]) owed⟩) rfl
    next isRsp =>
      have kind := kind.trans isRsp
      have requests : frame.requests = none := by rw [Frame.requests, kind]
      have notData (systemBytes : UInt32) : ¬ frame.settles (.reply systemBytes) := by
        rintro ⟨isData, -⟩
        rw [kind] at isData
        cases isData
      split
      next pending =>
        refine .silent rfl requests (fun owed owes => ?_) fun _ => ?_
        · cases owed with
          | reply systemBytes => exact ⟨owes_endLinktest owes, notData systemBytes⟩
          | linktest systemBytes =>
              rw [endLinktest, if_pos pending] at owes
              cases owes
        · rw [endLinktest, if_pos pending]
      next other =>
        refine .answered .rejectReq _ _ (requests ▸ rfl) (fun owed owes => ⟨owes, ?_⟩) rfl
        cases owed with
        | reply systemBytes => exact notData systemBytes
        | linktest systemBytes =>
            rintro ⟨-, rfl⟩
            exact other owes
    next isRsp =>
      have kind := kind.trans isRsp
      exact .answered .rejectReq _ _ (by rw [Frame.requests, kind]; rfl)
        (fun owed owes => ⟨owes, not_settles (by simp [kind]) (by simp [kind]) owed⟩) rfl
    next isRsp =>
      have kind := kind.trans isRsp
      exact .answered .rejectReq _ _ (by rw [Frame.requests, kind]; rfl)
        (fun owed owes => ⟨owes, not_settles (by simp [kind]) (by simp [kind]) owed⟩) rfl
    next isReject =>
      have kind := kind.trans isReject
      refine .silent rfl (by rw [Frame.requests, kind]) (fun owed owes => ⟨?_, ?_⟩) fun _ => ?_
      · have before : owed ∈ (session.endLinktest frame.header.systemBytes).owes := by
          cases owed with
          | reply systemBytes => exact (ExtTreeMap.mem_erase.mp owes).2
          | linktest systemBytes => exact owes
        exact owes_endLinktest before
      · exact not_settles (by simp [kind]) (by simp [kind]) owed
      · unfold endLinktest
        split <;> rfl
    next isSeparate =>
      have kind := kind.trans isSeparate
      refine .silent rfl (by rw [Frame.requests, kind]) (fun owed owes => ⟨?_, ?_⟩)
        fun stillOpen => by cases stillOpen
      · exact owes_onDisconnect owes
      · exact not_settles (by simp [kind]) (by simp [kind]) owed

/-! ## One read -/

/--
What the frames of a read make a session write, and leave it to wait for.  The frames
behind one that closes the connection are dropped; nothing is waited for then.
-/
structure HandlesAll (session : Session) (frames : List Frame) (out : SessionOutput)
    (result : Session × SessionOutput) : Prop where
  writes : ∃ count written, out.Adds written result.2 ∧
    written.filterMap Frame.responds = (frames.take count).filterMap Frame.requests ∧
    (result.2.close = false → frames.take count = frames)
  owes : ∀ owed ∈ result.1.owes, owed ∈ session.owes ∧ ∀ frame ∈ frames, ¬ frame.settles owed
  decoder : result.2.close = false → result.1.decoder = session.decoder

/-- The induction is over the frames; a close leaves a session that waits for nothing. -/
theorem handleFrames_handles {session : Session} (holds : session.LinkInvariant)
    (connected : session.state ≠ .notConnected) (now : TimePoint) (frames : List Frame)
    {out : SessionOutput} (isOpen : out.close = false) :
    session.HandlesAll frames out (session.handleFrames now out frames) := by
  induction frames generalizing session out with
  | nil =>
      exact ⟨⟨0, [], .nothing rfl, rfl, fun _ => rfl⟩, fun owed owes => ⟨owes, by simp⟩,
        fun _ => rfl⟩
  | cons frame frames ih =>
      have first := handleFrame_handles holds now frame out
      have after := handleFrame_afterFrames holds connected now frame isOpen
      obtain ⟨early, adds, responses⟩ := first.writes
      simp only [handleFrames]
      split
      next closed =>
        refine ⟨⟨1, early, adds, ?_, fun stillOpen => ?_⟩, fun owed owes => ?_, first.decoder⟩
        · rw [responses, List.take_succ_cons, List.take_zero]
          cases requests : frame.requests <;> simp [requests]
        · rw [closed] at stillOpen
          cases stillOpen
        · obtain ⟨kept, idle⟩ := after.closed closed
          exact absurd owes (kept.toLinkInvariant.owes_nothing idle owed)
      next stillOpen =>
        have stillOpen := Bool.eq_false_of_not_eq_true stillOpen
        have rest := ih after.link (after.connected stillOpen) stillOpen
        obtain ⟨count, late, addsLate, answers, all⟩ := rest.writes
        refine ⟨⟨count + 1, early ++ late, adds.trans addsLate, ?_, fun later => ?_⟩,
          fun owed owes => ?_, fun later => ?_⟩
        · rw [List.filterMap_append, responses, answers, List.take_succ_cons,
            List.filterMap_cons]
          cases frame.requests <;> rfl
        · rw [List.take_succ_cons, all later]
        · obtain ⟨middle, unsettled⟩ := rest.owes owed owes
          obtain ⟨before, notThis⟩ := first.owes owed middle
          exact ⟨before, List.forall_mem_cons.mpr ⟨notThis, unsettled⟩⟩
        · exact (rest.decoder later).trans (first.decoder stillOpen)

/-! ## The other calls -/

/-- A frame that opens a debt: a Linktest, or a request of an allowed message. -/
inductive Question (allowed : Secs2.Message → Prop) : Frame → Owed → Prop where
  | linktest (systemBytes : UInt32) :
      Question allowed (makeControlFrame .linktestReq systemBytes 0 0) (.linktest systemBytes)
  | request (message : Secs2.Message) (permitted : allowed message) (deviceId : UInt16)
      (systemBytes : UInt32) (body : List UInt8) (encoded : encodeBody message = .ok body) :
      Question allowed
        (makeDataFrame deviceId message.stream message.function true systemBytes body)
        (.reply systemBytes)

/-- What an ordinary call adds to what is written and waited for. -/
structure Asks (allowed : Secs2.Message → Prop) (session next : Session) (out : SessionOutput) :
    Prop where
  writes : ∃ written, ({} : SessionOutput).Adds written out ∧
    written.filterMap Frame.responds = [] ∧
    ∀ owed ∈ next.owes, owed ∈ session.owes ∨ ∃ frame ∈ written, Question allowed frame owed
  decoder : next.state ≠ .notConnected →
    session.state ≠ .notConnected ∧ next.decoder = session.decoder

section Calls

variable {allowed : Secs2.Message → Prop} {session next : Session} {out : SessionOutput}

/-- Nothing is written, and nothing new is waited for. -/
theorem Asks.quiet (silent : out.toSend = [])
    (owes : ∀ owed ∈ next.owes, owed ∈ session.owes)
    (decoder : next.state ≠ .notConnected →
      session.state ≠ .notConnected ∧ next.decoder = session.decoder) :
    session.Asks allowed next out :=
  ⟨⟨[], .nothing silent, rfl, fun owed member => .inl (owes owed member)⟩, decoder⟩

/-- One frame is written. -/
theorem Asks.wrote {frame : Frame} {bytes : List UInt8} (encoded : encodeFrame frame = .ok bytes)
    (sent : out.toSend = [bytes]) (noResponse : frame.responds = none)
    (owes : ∀ owed ∈ next.owes, owed ∈ session.owes ∨ Question allowed frame owed)
    (decoder : next.state ≠ .notConnected →
      session.state ≠ .notConnected ∧ next.decoder = session.decoder) :
    session.Asks allowed next out := by
  refine ⟨⟨[frame], ⟨[bytes], .singleton encoded, sent⟩, ?_, fun owed member => ?_⟩, decoder⟩
  · rw [List.filterMap_cons, noResponse]
    rfl
  · exact (owes owed member).imp_right fun question => ⟨frame, List.mem_singleton_self _, question⟩

theorem Asks.closed (connected : session.state ≠ .notConnected) (reason : String) :
    session.Asks allowed session.onDisconnect { close := true, closeReason := reason } := by
  obtain ⟨-, idle⟩ := invariant_onDisconnect connected
  exact .quiet rfl (fun _ owes => owes_onDisconnect owes) fun alive => absurd idle alive

theorem onTick_asks {now : TimePoint} (connected : session.state ≠ .notConnected)
    (ticked : session.onTick now = some (next, out)) : session.Asks allowed next out := by
  cases onTick_effect ticked with
  | offline idle => exact absurd idle connected
  | closed _ reason => exact .closed connected reason
  | swept =>
      refine .quiet rfl (fun owed owes => ?_) fun _ => ⟨connected, rfl⟩
      cases owed with
      | reply systemBytes => exact mem_of_mem_swept owes
      | linktest systemBytes => exact owes
  | linktest isSelected none system generator unused =>
      obtain ⟨bytes, framed, sent⟩ := sendControl_toSend .linktestReq system 0 0
        { timedOut := expired now session.transactions.toList }
      refine .wrote framed sent rfl (fun owed owes => ?_) fun _ => ⟨connected, rfl⟩
      cases owed with
      | reply systemBytes => exact .inl (mem_of_mem_swept owes)
      | linktest systemBytes =>
          obtain rfl := Option.some.inj owes
          exact .inr (.linktest system)

theorem responds_makeDataFrame (sessionId : UInt16) (stream function : UInt8) (wBit : Bool)
    (systemBytes : UInt32) (body : List UInt8) :
    (makeDataFrame sessionId stream function wBit systemBytes body).responds = none :=
  rfl

theorem sendRequest_asks {now : TimePoint} {message : Secs2.Message}
    {result : Result UInt32} (permitted : message.wBit = true → allowed message)
    (sent : session.sendRequest now message {} = some (result, next, out)) :
    session.Asks allowed next out := by
  unfold sendRequest at sent
  split at sent
  · obtain ⟨-, rfl, rfl⟩ := by simpa using sent
    exact .quiet rfl (fun _ owes => owes) fun alive => ⟨alive, rfl⟩
  · split at sent
    · obtain ⟨-, rfl, rfl⟩ := by simpa using sent
      exact .quiet rfl (fun _ owes => owes) fun alive => ⟨alive, rfl⟩
    · obtain ⟨⟨system, allocated⟩, found, same⟩ := Option.map_eq_some_iff.mp sent
      obtain ⟨-, -, -, generator, rfl⟩ := allocateSystemBytes_eq_some found
      dsimp only at same
      split at same
      · obtain ⟨-, rfl, rfl⟩ := by simpa using same
        exact .quiet rfl (fun _ owes => owes) fun alive => ⟨alive, rfl⟩
      next queued =>
        obtain ⟨body, bytes, encoded, -, framed, rfl⟩ := queueData_eq_ok queued
        obtain ⟨-, rfl, rfl⟩ := by simpa using same
        refine .wrote framed rfl rfl (fun owed owes => ?_) fun alive => ⟨alive, rfl⟩
        cases owed with
        | linktest systemBytes => exact .inl owes
        | reply systemBytes =>
            rw [reply_mem_owes, noteSent] at owes
            cases wanted : message.wBit with
            | false =>
                rw [wanted] at owes
                exact .inl owes
            | true =>
                rw [wanted, if_pos rfl, ExtTreeMap.mem_insert, Std.compare_eq_iff_eq] at owes
                rcases owes with rfl | before
                · exact .inr (.request message (permitted wanted) _ _ body encoded)
                · exact .inl before

theorem sendReply_asks (systemBytes : UInt32) (message : Secs2.Message) :
    session.Asks allowed session (session.sendReply systemBytes message {}).2 := by
  have same : session.state ≠ .notConnected →
      session.state ≠ .notConnected ∧ session.decoder = session.decoder := fun alive => ⟨alive, rfl⟩
  unfold sendReply
  split
  · exact .quiet rfl (fun _ owes => owes) same
  · split
    · exact .quiet rfl (fun _ owes => owes) same
    next queued =>
      obtain ⟨body, bytes, -, -, framed, rfl⟩ := queueData_eq_ok queued
      exact .wrote framed rfl rfl (fun _ owes => .inl owes) same

/-- An ordinary call: the frames that it writes ask for whatever is newly waited for. -/
theorem call_asks {input : SessionCall} (connected : session.state ≠ .notConnected)
    (ordinary : input.Ordinary allowed) (called : session.call input = some (next, out)) :
    session.Asks allowed next out := by
  cases input with
  | onConnect now => exact ordinary.elim
  | onBytes now bytes => exact ordinary.elim
  | onTick now => exact onTick_asks connected called
  | onDisconnect =>
      obtain ⟨rfl, rfl⟩ := Prod.mk.inj (Option.some.inj called)
      obtain ⟨-, idle⟩ := invariant_onDisconnect connected
      exact .quiet rfl (fun _ owes => owes_onDisconnect owes) fun alive => absurd idle alive
  | sendRequest now message =>
      obtain ⟨⟨result, after, made⟩, sent, same⟩ := Option.map_eq_some_iff.mp called
      obtain ⟨rfl, rfl⟩ := Prod.mk.inj same
      exact sendRequest_asks ordinary sent
  | sendReply systemBytes message =>
      obtain ⟨rfl, rfl⟩ := Prod.mk.inj (Option.some.inj called)
      exact sendReply_asks systemBytes message

end Calls

end Session

end Ssim.Hsms
