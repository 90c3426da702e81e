import Ssim.Hsms.SessionCalls

/-!
# The session invariant

Timers, decoder, pending Linktest and open transactions agree with the connection
state after every call.  While the frames of one read are handled only T8 lags
behind, so the part without T8 is carried through the loop over the frames.
-/

namespace Ssim.Hsms

open Ssim.Core (Error Result)
open Std (ExtTreeMap)
open Library.Runs

@[simp]
theorem Timer.running_stopped : Timer.stopped.running = false := rfl

@[simp]
theorem Timer.running_started (now : TimePoint) (duration : Duration) :
    (Timer.started now duration).running = true := rfl

namespace Session

/-- What holds also between two frames of one read. -/
structure LinkInvariant (session : Session) : Prop where
  t7Runs : session.t7.running = true ↔ session.state = .notSelected
  decoderAlive : session.state ≠ .notConnected → session.decoder.failed = false
  t6Runs : session.t6.running = true ↔ session.pendingLinktest.isSome = true
  openInSelected : session.state ≠ .selected → session.transactions = ∅
  openBounded : session.openTransactions ≤ session.config.maxOpenTransactions
  openNonzero : 0 ∉ session.transactions
  openNotLinktest : ∀ system ∈ session.transactions, session.pendingLinktest ≠ some system
  idle : session.state = .notConnected →
    session.t8.running = false ∧ session.pendingLinktest = none ∧ session.decoder.buffer = []

/-- What holds after every call. -/
structure Invariant (session : Session) : Prop extends LinkInvariant session where
  t8Runs : session.t8.running = true ↔ session.decoder.hasPartial = true

/-! ## The closed session -/

theorem invariant_resetLinkState {session : Session} (idle : session.state = .notConnected) :
    session.resetLinkState.Invariant where
  t7Runs := by simp [resetLinkState, idle]
  decoderAlive := fun _ => rfl
  t6Runs := by simp [resetLinkState]
  openInSelected := fun _ => rfl
  openBounded := Nat.zero_le _
  openNonzero := ExtTreeMap.not_mem_empty
  openNotLinktest := fun _ member => absurd member ExtTreeMap.not_mem_empty
  idle := fun _ => ⟨rfl, rfl, rfl⟩
  t8Runs := by simp [resetLinkState, FrameDecoder.fresh, FrameDecoder.hasPartial]

theorem invariant_fresh (config : SessionConfig) : (fresh config).Invariant :=
  have idle : (fresh config).state = .notConnected := rfl
  invariant_resetLinkState idle

/-- A disconnect of a connected session leaves the closed one, whatever was there before. -/
theorem invariant_onDisconnect {session : Session} (connected : session.state ≠ .notConnected) :
    session.onDisconnect.Invariant ∧ session.onDisconnect.state = .notConnected := by
  rw [onDisconnect_of_connected connected]
  exact ⟨invariant_resetLinkState rfl, rfl⟩

@[simp]
theorem onDisconnect_config (session : Session) : session.onDisconnect.config = session.config := by
  unfold onDisconnect
  split <;> rfl

/-! ## Smaller sets of open transactions -/

/-- Ending transactions keeps the invariant. -/
theorem LinkInvariant.fewer {session : Session} (holds : session.LinkInvariant)
    {transactions : ExtTreeMap UInt32 TimePoint}
    (smaller : transactions.size ≤ session.transactions.size)
    (subset : ∀ system ∈ transactions, system ∈ session.transactions) :
    { session with transactions := transactions }.LinkInvariant where
  t7Runs := holds.t7Runs
  decoderAlive := holds.decoderAlive
  t6Runs := holds.t6Runs
  openInSelected := by
    intro outside
    apply ExtTreeMap.eq_empty_iff_forall_not_mem.mpr
    intro system member
    have before := subset system member
    rw [holds.openInSelected outside] at before
    exact ExtTreeMap.not_mem_empty before
  openBounded := Nat.le_trans smaller holds.openBounded
  openNonzero := fun member => holds.openNonzero (subset 0 member)
  openNotLinktest := fun system member => holds.openNotLinktest system (subset system member)
  idle := holds.idle

theorem LinkInvariant.erase {session : Session} (holds : session.LinkInvariant)
    (system : UInt32) :
    { session with transactions := session.transactions.erase system }.LinkInvariant :=
  holds.fewer ExtTreeMap.size_erase_le fun _ member => (ExtTreeMap.mem_erase.mp member).2

theorem size_expireTransactions_le (now : TimePoint) (entries : List (UInt32 × TimePoint))
    (transactions : ExtTreeMap UInt32 TimePoint) (timedOut : List UInt32) :
    (expireTransactions now entries (transactions, timedOut)).1.size ≤ transactions.size := by
  induction entries generalizing transactions timedOut with
  | nil => exact Nat.le_refl _
  | cons entry entries ih =>
      rw [expireTransactions]
      split
      · exact Nat.le_trans (ih _ _) ExtTreeMap.size_erase_le
      · exact ih _ _

theorem mem_of_mem_swept {session : Session} {now : TimePoint} {system : UInt32}
    (member : system ∈ session.swept now) : system ∈ session.transactions := by
  rw [ExtTreeMap.mem_iff_isSome_getElem?, Option.isSome_iff_exists] at member ⊢
  obtain ⟨deadline, kept⟩ := member
  exact ⟨deadline, (swept_getElem?_eq_some.mp kept).1⟩

theorem LinkInvariant.sweep {session : Session} (holds : session.LinkInvariant)
    (now : TimePoint) : { session with transactions := session.swept now }.LinkInvariant :=
  holds.fewer (size_expireTransactions_le now _ _ _) fun _ member => mem_of_mem_swept member

/-- Ending the pending Linktest keeps the invariant. -/
theorem LinkInvariant.withoutLinktest {session : Session} (holds : session.LinkInvariant) :
    { session with pendingLinktest := none, t6 := .stopped }.LinkInvariant where
  t7Runs := holds.t7Runs
  decoderAlive := holds.decoderAlive
  t6Runs := by simp
  openInSelected := holds.openInSelected
  openBounded := holds.openBounded
  openNonzero := holds.openNonzero
  openNotLinktest := by simp
  idle := fun offline => ⟨(holds.idle offline).1, rfl, (holds.idle offline).2.2⟩

theorem LinkInvariant.endLinktest {session : Session} (holds : session.LinkInvariant)
    (system : UInt32) : (session.endLinktest system).LinkInvariant := by
  unfold Session.endLinktest
  split
  · exact holds.withoutLinktest
  · exact holds

/-! ## One read -/

/-- What the frames of a read leave: a closed session, or a connected one where T8 may lag. -/
structure AfterFrames (result : Session × SessionOutput) : Prop where
  link : result.1.LinkInvariant
  closed : result.2.close = true → result.1.Invariant ∧ result.1.state = .notConnected
  connected : result.2.close = false → result.1.state ≠ .notConnected

theorem AfterFrames.stillConnected {result : Session × SessionOutput}
    (link : result.1.LinkInvariant) (isOpen : result.2.close = false)
    (connected : result.1.state ≠ .notConnected) : AfterFrames result :=
  ⟨link, fun closed => by simp [isOpen] at closed, fun _ => connected⟩

theorem handleFrame_afterFrames {session : Session} (holds : session.LinkInvariant)
    (connected : session.state ≠ .notConnected) (now : TimePoint) (frame : Frame)
    {out : SessionOutput} (isOpen : out.close = false) :
    AfterFrames (session.handleFrame now frame out) := by
  have effect := session.handleFrame_effect now frame out
  generalize session.handleFrame now frame out = result at effect
  cases effect with
  | answered => exact .stillConnected holds isOpen connected
  | delivered => exact .stillConnected holds isOpen connected
  | matched => exact .stillConnected (holds.erase _) isOpen connected
  | selected isSelect before =>
      exact .stillConnected ⟨by simp, fun _ => holds.decoderAlive connected, holds.t6Runs, by simp,
        holds.openBounded, holds.openNonzero, holds.openNotLinktest, by simp⟩ isOpen (by simp)
  | deselected isDeselect before =>
      exact .stillConnected ⟨by simp, fun _ => holds.decoderAlive connected, holds.t6Runs,
        fun _ => rfl, Nat.zero_le _, ExtTreeMap.not_mem_empty,
        fun _ member => absurd member ExtTreeMap.not_mem_empty, by simp⟩ isOpen (by simp)
  | linktestEnded => exact .stillConnected holds.withoutLinktest isOpen connected
  | refused =>
      have kept := (holds.endLinktest frame.header.systemBytes).erase frame.header.systemBytes
      rw [endLinktest_transactions] at kept
      exact .stillConnected kept isOpen (by rwa [endLinktest_state])
  | separated =>
      obtain ⟨closed, idle⟩ := invariant_onDisconnect connected
      exact ⟨closed.toLinkInvariant, fun _ => ⟨closed, idle⟩, fun stillOpen => by cases stillOpen⟩

/-- The induction is over the frames; a close ends it with the closed session. -/
theorem handleFrames_afterFrames {session : Session} (holds : session.LinkInvariant)
    (connected : session.state ≠ .notConnected) (now : TimePoint) (frames : List Frame)
    {out : SessionOutput} (isOpen : out.close = false) :
    AfterFrames (session.handleFrames now out frames) := by
  induction frames generalizing session out with
  | nil => exact .stillConnected holds isOpen connected
  | cons frame frames ih =>
      have first := handleFrame_afterFrames holds connected now frame isOpen
      simp only [handleFrames]
      split
      · exact first
      next stillOpen =>
        have stillOpen := Bool.eq_false_of_not_eq_true stillOpen
        exact ih first.link (first.connected stillOpen) stillOpen

theorem invariant_updateT8 {session : Session} (holds : session.LinkInvariant)
    (connected : session.state ≠ .notConnected) (now : TimePoint) :
    (session.updateT8 now).Invariant where
  t7Runs := holds.t7Runs
  decoderAlive := holds.decoderAlive
  t6Runs := holds.t6Runs
  openInSelected := holds.openInSelected
  openBounded := holds.openBounded
  openNonzero := holds.openNonzero
  openNotLinktest := holds.openNotLinktest
  idle := fun offline => absurd offline connected
  t8Runs := by
    simp only [updateT8]
    split
    next waiting => simp [waiting]
    next settled => simp [settled]

theorem feed_ok_failed {decoder next : FrameDecoder} {bytes : List UInt8} {frames : List Frame}
    (fed : decoder.feed bytes = (.ok frames, next)) : next.failed = false := by
  unfold FrameDecoder.feed at fed
  split at fed
  · cases fed
  next alive =>
    dsimp only at fed
    split at fed
    · cases fed
    · obtain ⟨_, rfl⟩ := Prod.mk.inj fed
      simpa using alive

/-- The frames of a read start from a session that differs in the decoder only. -/
theorem LinkInvariant.fed {session : Session} (holds : session.LinkInvariant)
    (connected : session.state ≠ .notConnected) (now : TimePoint) {bytes : List UInt8}
    {frames : List Frame} {decoder : FrameDecoder}
    (fed : session.decoder.feed bytes = (.ok frames, decoder)) :
    { session with lastActivity := now, decoder := decoder }.LinkInvariant :=
  { holds with
    decoderAlive := fun _ => feed_ok_failed fed
    idle := fun offline => absurd offline connected }

theorem invariant_onBytes {session : Session} (holds : session.Invariant) (now : TimePoint)
    (bytes : List UInt8) :
    (session.onBytes now bytes).1.Invariant ∧
      ((session.onBytes now bytes).2.close = true →
        (session.onBytes now bytes).1.state = .notConnected) := by
  have effect := session.onBytes_effect now bytes
  generalize session.onBytes now bytes = result at effect
  cases effect with
  | offline idle => exact ⟨holds, fun _ => idle⟩
  | framingError connected reason decoder fed =>
      have before : { session with lastActivity := now, decoder := decoder }.state ≠
          .notConnected := connected
      obtain ⟨closed, idle⟩ := invariant_onDisconnect before
      exact ⟨closed, fun _ => idle⟩
  | handled connected frames decoder fed next out done =>
      have after := handleFrames_afterFrames (holds.toLinkInvariant.fed connected now fed) connected
        now frames (show ({} : SessionOutput).close = false from rfl)
      rw [done] at after
      split
      next closed => exact ⟨(after.closed closed).1, fun _ => (after.closed closed).2⟩
      next stillOpen =>
        have status := after.connected (Bool.eq_false_of_not_eq_true stillOpen)
        exact ⟨invariant_updateT8 after.link status now, fun closed => absurd closed stillOpen⟩

/-! ## The other calls -/

theorem invariant_onConnect {session : Session} (holds : session.Invariant) (now : TimePoint) :
    (session.onConnect now).1.Invariant ∧ (session.onConnect now).2.close = false := by
  by_cases idle : session.state = .notConnected
  · rw [onConnect_of_idle idle]
    exact ⟨⟨⟨by simp [resetLinkState], fun _ => rfl, by simp [resetLinkState], fun _ => rfl,
      Nat.zero_le _, ExtTreeMap.not_mem_empty,
      fun _ member => absurd member ExtTreeMap.not_mem_empty, by simp [resetLinkState]⟩,
      by simp [resetLinkState, FrameDecoder.fresh, FrameDecoder.hasPartial]⟩, rfl⟩
  · rw [onConnect_of_connected idle]
    exact ⟨holds, rfl⟩

theorem invariant_onTick {session : Session} (holds : session.Invariant) {now : TimePoint}
    {result : Session × SessionOutput} (ticked : session.onTick now = some result) :
    result.1.Invariant ∧ (result.2.close = true → result.1.state = .notConnected) := by
  cases onTick_effect ticked with
  | offline idle => exact ⟨holds, fun _ => idle⟩
  | closed connected reason =>
      obtain ⟨closed, idle⟩ := invariant_onDisconnect connected
      exact ⟨closed, fun _ => idle⟩
  | swept => exact ⟨⟨holds.sweep now, holds.t8Runs⟩, fun closed => by simp at closed⟩
  | linktest isSelected none system generator unused =>
      have link := holds.sweep now
      refine ⟨⟨⟨link.t7Runs, link.decoderAlive, by simp, link.openInSelected, link.openBounded,
        link.openNonzero, ?_, by simp [isSelected]⟩, holds.t8Runs⟩, fun closed => by simp at closed⟩
      rintro other member same
      obtain rfl := Option.some.inj same
      exact unused member

theorem invariant_sendRequest {session : Session} (holds : session.Invariant) {now : TimePoint}
    {message : Secs2.Message} {out : SessionOutput}
    {result : Result UInt32 × Session × SessionOutput}
    (sent : session.sendRequest now message out = some result) :
    result.2.1.Invariant ∧ result.2.2.close = out.close := by
  cases sendRequest_effect sent with
  | failed reason generator => exact ⟨{ holds with }, rfl⟩
  | sent isSelected system generator room nonzero unused notLinktest bytes =>
      refine ⟨?_, rfl⟩
      unfold noteSent
      cases wanted : message.wBit with
      | false => exact { holds with }
      | true =>
          have grown : (session.transactions.insert system (now.after session.config.t3)).size ≤
              session.transactions.size + 1 := ExtTreeMap.size_insert_le
          have space := room wanted
          refine ⟨⟨holds.t7Runs, holds.decoderAlive, holds.t6Runs, ?_, ?_, ?_, ?_, holds.idle⟩,
            holds.t8Runs⟩
          · exact fun outside => absurd isSelected outside
          · change (session.transactions.insert system _).size ≤ _
            exact Nat.le_trans grown space
          · simpa [ExtTreeMap.mem_insert] using ⟨nonzero, holds.openNonzero⟩
          · intro other member
            rw [if_pos rfl, ExtTreeMap.mem_insert, Std.compare_eq_iff_eq] at member
            rcases member with rfl | before
            · exact notLinktest
            · exact holds.openNotLinktest other before

/-! ## The configuration and the end of every call -/

theorem handleFrame_config (session : Session) (now : TimePoint) (frame : Frame)
    (out : SessionOutput) : (session.handleFrame now frame out).1.config = session.config := by
  have effect := session.handleFrame_effect now frame out
  generalize session.handleFrame now frame out = result at effect
  cases effect with
  | refused =>
      unfold Session.endLinktest
      split <;> rfl
  | separated => exact onDisconnect_config session
  | _ => rfl

theorem handleFrames_config (session : Session) (now : TimePoint) (frames : List Frame)
    (out : SessionOutput) : (session.handleFrames now out frames).1.config = session.config := by
  induction frames generalizing session out with
  | nil => rfl
  | cons frame frames ih =>
      simp only [handleFrames]
      split
      · exact handleFrame_config session now frame out
      · rw [ih, handleFrame_config]

theorem onBytes_config (session : Session) (now : TimePoint) (bytes : List UInt8) :
    (session.onBytes now bytes).1.config = session.config := by
  have effect := session.onBytes_effect now bytes
  generalize session.onBytes now bytes = result at effect
  cases effect with
  | offline => rfl
  | framingError => exact onDisconnect_config _
  | handled connected frames decoder fed next out done =>
      have same := handleFrames_config { session with lastActivity := now, decoder := decoder } now
        frames {}
      rw [done] at same
      split
      · exact same
      · exact same

/-- No call changes the configuration. -/
theorem advance_config {session next : Session} {input : SessionCall}
    (taken : session.advance input = some next) : next.config = session.config := by
  obtain ⟨⟨after, out⟩, called, rfl⟩ := Option.map_eq_some_iff.mp taken
  cases input with
  | onConnect now =>
      obtain rfl := congrArg Prod.fst (Option.some.inj called)
      unfold onConnect
      split <;> rfl
  | onBytes now bytes =>
      obtain rfl := congrArg Prod.fst (Option.some.inj called)
      exact onBytes_config session now bytes
  | onTick now =>
      cases onTick_effect called with
      | closed => exact onDisconnect_config session
      | _ => rfl
  | onDisconnect =>
      obtain rfl := congrArg Prod.fst (Option.some.inj called)
      exact onDisconnect_config session
  | sendRequest now message =>
      obtain ⟨⟨result, state, sent⟩, requested, same⟩ := Option.map_eq_some_iff.mp called
      obtain rfl := congrArg Prod.fst same
      cases sendRequest_effect requested <;> rfl
  | sendReply systemBytes message =>
      obtain rfl := congrArg Prod.fst (Option.some.inj called)
      rfl

theorem onTick_total {session : Session} (room : session.openTransactions + 3 ≤ 2 ^ 32)
    (now : TimePoint) : ∃ result, session.onTick now = some result := by
  have fewer : (session.swept now).size ≤ session.openTransactions :=
    size_expireTransactions_le now _ _ _
  have left : { session with transactions := session.swept now }.openTransactions + 3 ≤ 2 ^ 32 := by
    change (session.swept now).size + 3 ≤ 2 ^ 32
    omega
  obtain ⟨system, next, found⟩ := allocateSystemBytes_total left
  have swept : ∃ result, session.tickConnected now = some result := by
    unfold Session.swept at found
    unfold tickConnected
    dsimp only
    rw [found]
    split
    · exact ⟨_, rfl⟩
    · exact ⟨_, rfl⟩
  unfold onTick
  split
  · exact ⟨_, rfl⟩
  · split
    · exact ⟨_, rfl⟩
    · split
      · exact ⟨_, rfl⟩
      · split
        · exact ⟨_, rfl⟩
        · exact swept

theorem sendRequest_total {session : Session} (room : session.openTransactions + 3 ≤ 2 ^ 32)
    (now : TimePoint) (message : Secs2.Message) (out : SessionOutput) :
    ∃ result, session.sendRequest now message out = some result := by
  obtain ⟨system, next, found⟩ := allocateSystemBytes_total room
  unfold sendRequest
  rw [found]
  split
  · exact ⟨_, rfl⟩
  · split
    · exact ⟨_, rfl⟩
    · exact ⟨_, rfl⟩

/-- With fewer open transactions than system bytes every call returns. -/
theorem call_total {session : Session} (holds : session.Invariant)
    (small : session.config.maxOpenTransactions < 2 ^ 32 - 2) (input : SessionCall) :
    ∃ result, session.call input = some result := by
  have room : session.openTransactions + 3 ≤ 2 ^ 32 := by
    have few := holds.openBounded
    omega
  cases input with
  | onTick now => exact onTick_total room now
  | sendRequest now message =>
      obtain ⟨result, requested⟩ := sendRequest_total room now message {}
      exact ⟨_, by rw [call, requested]; rfl⟩
  | _ => exact ⟨_, rfl⟩

theorem invariant_call {session : Session} (holds : session.Invariant) {input : SessionCall}
    {next : Session} {out : SessionOutput} (called : session.call input = some (next, out)) :
    next.Invariant ∧ (out.close = true → next.state = .notConnected) := by
  cases input with
  | onConnect now =>
      obtain ⟨kept, stillOpen⟩ := invariant_onConnect holds now
      rw [Option.some.inj called] at kept stillOpen
      exact ⟨kept, fun closed => absurd (stillOpen.symm.trans closed) Bool.false_ne_true⟩
  | onBytes now bytes =>
      have kept := invariant_onBytes holds now bytes
      rw [Option.some.inj called] at kept
      exact kept
  | onTick now => exact invariant_onTick holds called
  | onDisconnect =>
      obtain ⟨rfl, rfl⟩ := Prod.mk.inj (Option.some.inj called)
      by_cases connected : session.state = .notConnected
      · rw [onDisconnect_of_idle connected]
        exact ⟨holds, fun closed => by cases closed⟩
      · exact ⟨(invariant_onDisconnect connected).1, fun closed => by cases closed⟩
  | sendRequest now message =>
      obtain ⟨result, requested, same⟩ := Option.map_eq_some_iff.mp called
      obtain ⟨rfl, rfl⟩ := Prod.mk.inj same
      obtain ⟨kept, unchanged⟩ := invariant_sendRequest holds requested
      exact ⟨kept, fun closed => by simp [unchanged] at closed⟩
  | sendReply systemBytes message =>
      obtain ⟨rfl, rfl⟩ := Prod.mk.inj (Option.some.inj called)
      obtain ⟨sent, only⟩ := session.sendReply_output systemBytes message {}
      refine ⟨holds, fun closed => ?_⟩
      rw [only] at closed
      cases closed

/-- Every run of calls from a fresh session ends, in a state that satisfies the invariant. -/
theorem run_fresh {config : SessionConfig} (small : config.maxOpenTransactions < 2 ^ 32 - 2)
    (calls : List SessionCall) :
    ∃ session, run advance (fresh config) calls = some session ∧
      session.config = config ∧ session.Invariant := by
  refine total (fun session : Session => session.config = config ∧ session.Invariant) ?_
    ⟨rfl, invariant_fresh config⟩ calls
  rintro session input ⟨rfl, holds⟩
  obtain ⟨⟨next, out⟩, called⟩ := call_total holds small input
  have taken : session.advance input = some next := by rw [advance, called]; rfl
  exact ⟨next, taken, advance_config taken, (invariant_call holds called).1⟩

end Session

/--
The representation invariant.  In every run of calls from a fresh session, each
call returns, the session it leaves satisfies the invariant, and if its output
asks to close then the session is disconnected.
-/
theorem session_representation_invariant (config : SessionConfig)
    (small : config.maxOpenTransactions < 2 ^ 32 - 2) (calls : List SessionCall)
    (input : SessionCall) :
    ∃ before after out, run Session.advance (Session.fresh config) calls = some before ∧
      before.call input = some (after, out) ∧
      (after.t7.running = true ↔ after.state = .notSelected) ∧
      (after.t8.running = true ↔ after.decoder.hasPartial = true) ∧
      (after.state ≠ .notConnected → after.decoder.failed = false) ∧
      (after.t6.running = true ↔ after.pendingLinktest.isSome = true) ∧
      (after.transactions ≠ ∅ → after.state = .selected) ∧
      after.openTransactions ≤ config.maxOpenTransactions ∧
      0 ∉ after.transactions ∧
      (∀ system ∈ after.transactions, after.pendingLinktest ≠ some system) ∧
      (after.state = .notConnected →
        after.t7.running = false ∧ after.t8.running = false ∧ after.t6.running = false ∧
          after.transactions = ∅ ∧ after.pendingLinktest = none ∧ after.decoder.buffer = []) ∧
      (out.close = true → after.state = .notConnected) := by
  obtain ⟨before, reached, same, holds⟩ := Session.run_fresh small calls
  obtain ⟨⟨after, out⟩, called⟩ := Session.call_total holds (by rw [same]; exact small) input
  obtain ⟨kept, closes⟩ := Session.invariant_call holds called
  have taken : before.advance input = some after := by rw [Session.advance, called]; rfl
  have unchanged : after.config = config := (Session.advance_config taken).trans same
  refine ⟨before, after, out, reached, called, kept.t7Runs, kept.t8Runs, kept.decoderAlive,
    kept.t6Runs, ?_, ?_, kept.openNonzero, kept.openNotLinktest, ?_, closes⟩
  · intro nonempty
    by_contra outside
    exact nonempty (kept.openInSelected outside)
  · rw [← unchanged]
    exact kept.openBounded
  · intro idle
    obtain ⟨t8, pending, buffer⟩ := kept.idle idle
    refine ⟨?_, t8, ?_, kept.openInSelected (by simp [idle]), pending, buffer⟩
    · simpa [idle] using kept.t7Runs
    · simpa [pending] using kept.t6Runs

/-- After the first connect T7 runs and the session waits for its selection. -/
theorem session_representation_invariant_connect :
    ∃ after out, (Session.fresh {}).call (.onConnect 0) = some (after, out) ∧
      after.state = .notSelected ∧ after.t7.running = true := by
  obtain ⟨before, after, out, reached, called, t7, _⟩ :=
    session_representation_invariant {} (by decide) [] (.onConnect 0)
  obtain rfl : Session.fresh {} = before := Option.some.inj reached
  have waiting : after.state = .notSelected :=
    congrArg (fun result : Session × SessionOutput => result.1.state) (Option.some.inj called).symm
  exact ⟨after, out, called, waiting, t7.mpr waiting⟩

/-! ## Allocation -/

/-- Opening a transaction under other system bytes leaves an open one as it is. -/
theorem Session.getElem?_noteSent {session : Session} {system key : UInt32}
    (different : system ≠ key) (now : TimePoint) (message : Secs2.Message) :
    (session.noteSent now message system).transactions[key]? = session.transactions[key]? := by
  unfold noteSent
  dsimp only
  split
  · rw [Std.ExtTreeMap.getElem?_insert, if_neg]
    exact fun same => different (Std.LawfulEqCmp.eq_of_compare same)
  · rfl

/--
The allocation of system bytes.  In every session that is reached, wherever the generator
stands, the search ends within three rounds more than there are open transactions.  What
it finds is not zero, not open and not the pending Linktest, so the request that is
opened under it leaves every open transaction as it was.
-/
theorem allocated_system_bytes_fresh (config : SessionConfig)
    (small : config.maxOpenTransactions < 2 ^ 32 - 2) (calls : List SessionCall)
    (session : Session) (reached : run Session.advance (Session.fresh config) calls = some session)
    (start : UInt32) :
    ∃ system next,
      Session.searchSystemBytes session.inUse (session.openTransactions + 3) start =
        some (system, next) ∧
      { session with nextSystemBytes := start }.allocateSystemBytes =
        some (system, { session with nextSystemBytes := next }) ∧
      system ≠ 0 ∧ system ∉ session.transactions ∧ session.pendingLinktest ≠ some system ∧
      ∀ now message, ∀ key ∈ session.transactions,
        ({ session with nextSystemBytes := next }.noteSent now message system).transactions[key]? =
          session.transactions[key]? := by
  obtain ⟨other, also, same, holds⟩ := Session.run_fresh small calls
  obtain rfl := Option.some.inj (also.symm.trans reached)
  have few := holds.openBounded
  rw [same] at few
  have room : other.openTransactions + 3 ≤ 2 ^ 32 := by omega
  obtain ⟨system, next, found⟩ :=
    Session.searchSystemBytes_total other start (Nat.le_refl _) room
  have allocated : { other with nextSystemBytes := start }.allocateSystemBytes =
      some (system, { other with nextSystemBytes := next }) := by
    have long := Session.searchSystemBytes_of_le room found
    rw [Session.allocateSystemBytes]
    exact Option.map_eq_some_iff.mpr ⟨_, long, rfl⟩
  obtain ⟨nonzero, unused, notLinktest, _⟩ := Session.allocateSystemBytes_eq_some allocated
  refine ⟨system, next, found, allocated, nonzero, unused, notLinktest, ?_⟩
  intro now message key member
  refine Session.getElem?_noteSent ?_ now message
  rintro rfl
  exact unused member

/-- A connected session with the generator at zero, which is skipped. -/
theorem allocated_system_bytes_after_wrap :
    let session := ((Session.fresh {}).onConnect 0).1
    ∃ system next, { session with nextSystemBytes := 0 }.allocateSystemBytes =
      some (system, { session with nextSystemBytes := next }) ∧ system = 1 ∧ next = 2 := by
  intro session
  have reached : run Session.advance (Session.fresh {}) [.onConnect 0] = some session := rfl
  obtain ⟨system, next, found, allocated, _⟩ :=
    allocated_system_bytes_fresh {} (by decide) [.onConnect 0] session reached 0
  have second : Session.searchSystemBytes session.inUse (session.openTransactions + 3) 0 =
      some (1, 2) := by
    decide +kernel
  obtain ⟨rfl, rfl⟩ := Prod.mk.inj (Option.some.inj (found.symm.trans second))
  exact ⟨1, 2, allocated, rfl, rfl⟩

end Ssim.Hsms
