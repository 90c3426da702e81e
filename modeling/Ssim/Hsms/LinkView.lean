import Ssim.Hsms.SessionInvariant

/-!
# What the frames of a read do to a link

A link view is the part of a session that the layer above depends on: the
connection state and the open transactions.  A frame changes the view and may be
delivered, by its kind alone.  Handling the frames of a read refines this.
-/

namespace Ssim.Hsms

open Ssim.Core (Error Result)
open Std (ExtTreeMap)

structure LinkView where
  state : ConnectionState
  transactions : ExtTreeMap UInt32 TimePoint

namespace LinkView

/-- A link that is not selected has no open transactions. -/
def closed (state : ConnectionState) : LinkView := ⟨state, ∅⟩

def erase (view : LinkView) (system : UInt32) : LinkView :=
  { view with transactions := view.transactions.erase system }

/-- The view after a frame, and the delivery of a data message in the selected state. -/
def after (view : LinkView) (frame : Frame) : LinkView × List Delivery :=
  let system := frame.header.systemBytes
  match frame.kind, view.state with
  | some .data, .selected =>
      if frame.header.function % 2 = 0 ∧ system ∈ view.transactions then
        (view.erase system, [⟨frame, some system⟩])
      else
        (view, [⟨frame, none⟩])
  | some .selectReq, .notSelected => ({ view with state := .selected }, [])
  | some .deselectReq, .selected => (closed .notSelected, [])
  | some .rejectReq, _ => (view.erase system, [])
  | some .separateReq, _ => (closed .notConnected, [])
  | _, _ => (view, [])

/-- The frames of one read; what follows a Separate.req is discarded. -/
def afterAll (view : LinkView) : List Frame → LinkView × List Delivery
  | [] => (view, [])
  | frame :: frames =>
      let (next, deliveries) := view.after frame
      if next.state = .notConnected then
        (next, deliveries)
      else
        let (last, later) := next.afterAll frames
        (last, deliveries ++ later)

/-! ## The connection state alone -/

/-- The connection state after a frame; a closed connection stays closed. -/
def nextState (state : ConnectionState) (frame : Frame) : ConnectionState :=
  match frame.kind, state with
  | some .selectReq, .notSelected => .selected
  | some .deselectReq, .selected => .notSelected
  | some .separateReq, _ => .notConnected
  | _, state => state

theorem after_state (view : LinkView) (frame : Frame) :
    (view.after frame).1.state = nextState view.state frame := by
  unfold after nextState
  dsimp only
  split
  next isData isSelected =>
    simp only [isData, isSelected]
    split
    · exact isSelected
    · exact isSelected
  next isSelect before => simp only [isSelect, before]
  next isDeselect before =>
    simp only [isDeselect, before]
    rfl
  next isReject =>
    simp only [isReject]
    rfl
  next isSeparate =>
    simp only [isSeparate]
    rfl
  next notReject notSeparate _ notSelect notDeselect =>
    split
    next isSelect before => exact (notSelect isSelect before).elim
    next isDeselect before => exact (notDeselect isDeselect before).elim
    next isSeparate => exact (notSeparate isSeparate).elim
    · rfl

theorem foldl_nextState_closed (frames : List Frame) :
    frames.foldl nextState .notConnected = .notConnected := by
  induction frames with
  | nil => rfl
  | cons frame frames ih =>
      have stays : nextState .notConnected frame = .notConnected := by
        unfold nextState
        split
        next impossible => cases impossible
        next impossible => cases impossible
        · rfl
        · rfl
      rw [List.foldl_cons, stays, ih]

/-- The state after the frames of a read does not depend on what is open. -/
theorem afterAll_state (view : LinkView) (frames : List Frame) :
    (view.afterAll frames).1.state = frames.foldl nextState view.state := by
  induction frames generalizing view with
  | nil => rfl
  | cons frame frames ih =>
      rw [List.foldl_cons, ← after_state]
      simp only [afterAll]
      split
      next closed => rw [closed, foldl_nextState_closed]
      · exact ih _

/-! ## Dropped transactions -/

/-- The frame ends an open transaction although it is no reply to it. -/
def drops (view : LinkView) (frame : Frame) : Bool :=
  match frame.kind, view.state with
  | some .rejectReq, _ => frame.header.systemBytes ∈ view.transactions
  | some .deselectReq, .selected => !view.transactions.isEmpty
  | _, _ => false

/-- Some frame of a read does. -/
def dropsAny (view : LinkView) : List Frame → Bool
  | [] => false
  | frame :: frames => view.drops frame || (view.after frame).1.dropsAny frames

/-- Frames never open a transaction. -/
theorem mem_of_mem_after {view : LinkView} {frame : Frame} {key : UInt32}
    (member : key ∈ (view.after frame).1.transactions) : key ∈ view.transactions := by
  unfold after at member
  dsimp only at member
  split at member
  · split at member
    · exact (ExtTreeMap.mem_erase.mp member).2
    · exact member
  · exact member
  · exact absurd member ExtTreeMap.not_mem_empty
  · exact (ExtTreeMap.mem_erase.mp member).2
  · exact absurd member ExtTreeMap.not_mem_empty
  · exact member

theorem mem_of_mem_afterAll {view : LinkView} {frames : List Frame} {key : UInt32}
    (member : key ∈ (view.afterAll frames).1.transactions) : key ∈ view.transactions := by
  induction frames generalizing view with
  | nil => exact member
  | cons frame frames ih =>
      simp only [afterAll] at member
      split at member
      · exact mem_of_mem_after member
      · exact mem_of_mem_after (ih member)

/-- A frame that drops nothing ends exactly the transaction that it answers. -/
theorem mem_transactions_after {view : LinkView} {frame : Frame}
    (kept : view.drops frame = false) (stays : (view.after frame).1.state ≠ .notConnected)
    (key : UInt32) :
    key ∈ (view.after frame).1.transactions ↔
      (∀ delivery ∈ (view.after frame).2, delivery.replyTo ≠ some key) ∧
        key ∈ view.transactions := by
  unfold after at stays ⊢
  unfold drops at kept
  dsimp only at stays ⊢
  split at stays
  · split
    · simp [erase, ExtTreeMap.mem_erase]
    · simp
  · simp
  next isDeselect isSelected =>
    rw [isDeselect, isSelected] at kept
    have empty : view.transactions = ∅ := ExtTreeMap.isEmpty_iff.mp (by simpa using kept)
    simp [closed, empty]
  next isReject =>
    rw [isReject] at kept
    have absent : frame.header.systemBytes ∉ view.transactions := by simpa using kept
    simp only [erase, ExtTreeMap.mem_erase]
    constructor
    · exact fun member => ⟨by simp, member.2⟩
    · rintro ⟨_, member⟩
      exact ⟨fun same => absent (Std.compare_eq_iff_eq.mp same ▸ member), member⟩
  · exact absurd rfl stays
  · simp

theorem mem_transactions_afterAll {view : LinkView} {frames : List Frame}
    (kept : view.dropsAny frames = false)
    (stays : (view.afterAll frames).1.state ≠ .notConnected) (key : UInt32) :
    key ∈ (view.afterAll frames).1.transactions ↔
      (∀ delivery ∈ (view.afterAll frames).2, delivery.replyTo ≠ some key) ∧
        key ∈ view.transactions := by
  induction frames generalizing view with
  | nil => simp [afterAll]
  | cons frame frames ih =>
      simp only [dropsAny, Bool.or_eq_false_iff] at kept
      simp only [afterAll] at stays ⊢
      split at stays
      next closed => exact absurd closed stays
      next connected =>
        rw [if_neg connected, ih kept.2 stays, mem_transactions_after kept.1 connected,
          List.forall_mem_append]
        tauto

end LinkView

namespace Session

def view (session : Session) : LinkView :=
  ⟨session.state, session.transactions⟩

@[simp]
theorem view_state (session : Session) : session.view.state = session.state := rfl

@[simp]
theorem view_transactions (session : Session) :
    session.view.transactions = session.transactions := rfl

theorem view_onDisconnect {session : Session} (connected : session.state ≠ .notConnected) :
    session.onDisconnect.view = .closed .notConnected := by
  rw [onDisconnect_of_connected connected]
  rfl

/-- One frame does to the view what its kind says, and closes when it is a Separate.req. -/
theorem handleFrame_view {session : Session} (connected : session.state ≠ .notConnected)
    (now : TimePoint) (frame : Frame) {out : SessionOutput} (isOpen : out.close = false) :
    (session.handleFrame now frame out).1.view = (session.view.after frame).1 ∧
      (session.handleFrame now frame out).2.deliveries =
        out.deliveries ++ (session.view.after frame).2 ∧
      ((session.handleFrame now frame out).2.close = true ↔
        (session.view.after frame).1.state = .notConnected) := by
  have effect := session.handleFrame_effect now frame out
  generalize session.handleFrame now frame out = result at effect
  cases effect with
  | answered stype byte2 byte3 quiet =>
      have same : session.view.after frame = (session.view, []) := by
        unfold LinkView.after
        unfold Frame.QuietIn at quiet
        cases state : session.state <;> split at quiet <;> simp_all [view]
      rw [same]
      exact ⟨rfl, by simp, by simpa [isOpen] using connected⟩
  | delivered isData isSelected unmatched =>
      simp [LinkView.after, isData, isSelected, view, unmatched, isOpen]
  | matched isData isSelected even isMember =>
      simp [LinkView.after, LinkView.erase, isData, isSelected, view, even, isMember, isOpen]
  | selected isSelect before => simp [LinkView.after, isSelect, before, view, isOpen]
  | deselected isDeselect before =>
      simp [LinkView.after, LinkView.closed, isDeselect, before, view, isOpen]
  | linktestEnded isRsp pending => simp [LinkView.after, isRsp, view, isOpen, connected]
  | refused isReject =>
      simp [LinkView.after, LinkView.erase, isReject, view, isOpen, connected]
  | separated isSeparate =>
      have gone := view_onDisconnect connected
      simp only [closeConnection, gone, LinkView.after, isSeparate]
      simp [LinkView.closed]

/-- The frames of a read refine the view of them. -/
theorem handleFrames_view {session : Session} (holds : session.LinkInvariant)
    (connected : session.state ≠ .notConnected) (now : TimePoint) (frames : List Frame)
    {out : SessionOutput} (isOpen : out.close = false) :
    (session.handleFrames now out frames).1.view = (session.view.afterAll frames).1 ∧
      (session.handleFrames now out frames).2.deliveries =
        out.deliveries ++ (session.view.afterAll frames).2 ∧
      ((session.handleFrames now out frames).2.close = true ↔
        (session.view.afterAll frames).1.state = .notConnected) := by
  induction frames generalizing session out with
  | nil => simp [handleFrames, LinkView.afterAll, isOpen, view, connected]
  | cons frame frames ih =>
      obtain ⟨same, shown, closes⟩ := handleFrame_view connected now frame isOpen
      have after := handleFrame_afterFrames holds connected now frame isOpen
      simp only [handleFrames, LinkView.afterAll]
      by_cases closed : (session.view.after frame).1.state = .notConnected
      · rw [if_pos closed, if_pos (closes.mpr closed)]
        exact ⟨same, shown, closes⟩
      · have stillOpen : (session.handleFrame now frame out).2.close = false :=
          Bool.eq_false_of_not_eq_true fun isClosed => closed (closes.mp isClosed)
        obtain ⟨last, later, ends⟩ := ih after.link (after.connected stillOpen) stillOpen
        rw [if_neg closed, if_neg (by simp [stillOpen]), ← same]
        exact ⟨last, by rw [later, shown, List.append_assoc], ends⟩

/-- What a read does to the view: a framing error closes the connection. -/
def readView (session : Session) (bytes : List UInt8) : LinkView × List Delivery :=
  match (session.decoder.feed bytes).1 with
  | .error _ => (.closed .notConnected, [])
  | .ok frames => session.view.afterAll frames

/-- The frames that a read completes; none after a framing error. -/
def completed (session : Session) (bytes : List UInt8) : List Frame :=
  match (session.decoder.feed bytes).1 with
  | .error _ => []
  | .ok frames => frames

theorem readView_of_open {session : Session} {bytes : List UInt8}
    (stays : (session.readView bytes).1.state ≠ .notConnected) :
    session.readView bytes = session.view.afterAll (session.completed bytes) := by
  unfold readView at stays ⊢
  unfold completed
  split at stays
  · exact absurd rfl stays
  · rfl

theorem mem_of_mem_readView {session : Session} {bytes : List UInt8} {key : UInt32}
    (member : key ∈ (session.readView bytes).1.transactions) : key ∈ session.transactions := by
  unfold readView at member
  split at member
  · exact absurd member ExtTreeMap.not_mem_empty
  · exact LinkView.mem_of_mem_afterAll member

/-- A read that drops nothing and leaves the link up ends exactly what it answers. -/
theorem mem_transactions_readView {session : Session} {bytes : List UInt8}
    (kept : session.view.dropsAny (session.completed bytes) = false)
    (stays : (session.readView bytes).1.state ≠ .notConnected) (key : UInt32) :
    key ∈ (session.readView bytes).1.transactions ↔
      (∀ delivery ∈ (session.readView bytes).2, delivery.replyTo ≠ some key) ∧
        key ∈ session.transactions := by
  have view := readView_of_open stays
  rw [view] at stays ⊢
  exact LinkView.mem_transactions_afterAll kept stays key

theorem onBytes_view {session : Session} (holds : session.Invariant)
    (connected : session.state ≠ .notConnected) (now : TimePoint) (bytes : List UInt8) :
    (session.onBytes now bytes).1.view = (session.readView bytes).1 ∧
      (session.onBytes now bytes).2.deliveries = (session.readView bytes).2 ∧
      (session.onBytes now bytes).2.timedOut = [] ∧
      ((session.onBytes now bytes).2.close = true ↔
        (session.readView bytes).1.state = .notConnected) := by
  have effect := session.onBytes_effect now bytes
  generalize session.onBytes now bytes = result at effect
  cases effect with
  | offline idle => exact absurd idle connected
  | framingError _ reason decoder fed =>
      have before : { session with lastActivity := now, decoder := decoder }.state ≠
          .notConnected := connected
      simp only [readView, fed]
      exact ⟨view_onDisconnect before, rfl, rfl, by simp [closeConnection, LinkView.closed]⟩
  | handled _ frames decoder fed next out done =>
      have refines := handleFrames_view (holds.toLinkInvariant.fed connected now fed) connected
        now frames (show ({} : SessionOutput).close = false from rfl)
      have silent := handleFrames_timedOut
        { session with lastActivity := now, decoder := decoder } now frames {}
      rw [done] at refines silent
      simp only [readView, fed]
      have same : (if out.close = true then next else next.updateT8 now).view = next.view := by
        split <;> rfl
      rw [same]
      obtain ⟨after, shown, closes⟩ := refines
      rw [List.nil_append] at shown
      exact ⟨after, shown, silent, closes⟩

/-! ## What a read leaves alone -/

/-- No system bytes are taken, no Linktest is begun, and the decoder is that of an open link. -/
structure SameSource (session next : Session) : Prop where
  generator : next.nextSystemBytes = session.nextSystemBytes
  linktest : session.pendingLinktest = none → next.pendingLinktest = none
  decoder : next.state ≠ .notConnected → next.decoder = session.decoder

theorem SameSource.refl (session : Session) : session.SameSource session :=
  ⟨rfl, id, fun _ => rfl⟩

theorem SameSource.closed (session : Session) {next : Session}
    (generator : next.nextSystemBytes = session.nextSystemBytes)
    (gone : next.state = .notConnected) (linktest : next.pendingLinktest = none) :
    session.SameSource next :=
  ⟨generator, fun _ => linktest, fun connected => absurd gone connected⟩

theorem sameSource_onDisconnect {session : Session} (connected : session.state ≠ .notConnected) :
    session.SameSource session.onDisconnect := by
  rw [onDisconnect_of_connected connected]
  exact .closed session rfl rfl rfl

theorem sameSource_handleFrame {session : Session} (connected : session.state ≠ .notConnected)
    (now : TimePoint) (frame : Frame) (out : SessionOutput) :
    session.SameSource (session.handleFrame now frame out).1 := by
  have effect := session.handleFrame_effect now frame out
  generalize session.handleFrame now frame out = result at effect
  cases effect with
  | linktestEnded => exact ⟨rfl, fun _ => rfl, fun _ => rfl⟩
  | refused =>
      unfold endLinktest
      split
      · exact ⟨rfl, fun _ => rfl, fun _ => rfl⟩
      · exact ⟨rfl, id, fun _ => rfl⟩
  | separated => exact sameSource_onDisconnect connected
  | _ => exact ⟨rfl, id, fun _ => rfl⟩

theorem sameSource_handleFrames {session : Session} (holds : session.LinkInvariant)
    (connected : session.state ≠ .notConnected) (now : TimePoint) (frames : List Frame)
    {out : SessionOutput} (isOpen : out.close = false) :
    session.SameSource (session.handleFrames now out frames).1 := by
  induction frames generalizing session out with
  | nil => exact .refl session
  | cons frame frames ih =>
      have first := sameSource_handleFrame connected now frame out
      have after := handleFrame_afterFrames holds connected now frame isOpen
      simp only [handleFrames]
      split
      · exact first
      next stillOpen =>
        have stillOpen := Bool.eq_false_of_not_eq_true stillOpen
        have later := ih after.link (after.connected stillOpen) stillOpen
        refine ⟨later.generator.trans first.generator,
          fun none => later.linktest (first.linktest none), fun stays => ?_⟩
        rw [later.decoder stays, first.decoder (after.connected stillOpen)]

/-- A read that leaves the link open leaves the decoder as feeding it does. -/
theorem sameSource_onBytes {session : Session} (holds : session.Invariant)
    (connected : session.state ≠ .notConnected) (now : TimePoint) (bytes : List UInt8) :
    SameSource { session with decoder := (session.decoder.feed bytes).2 }
      (session.onBytes now bytes).1 := by
  have effect := session.onBytes_effect now bytes
  generalize session.onBytes now bytes = result at effect
  cases effect with
  | offline idle => exact absurd idle connected
  | framingError _ reason decoder fed =>
      have before : { session with lastActivity := now, decoder := decoder }.state ≠
          .notConnected := connected
      simp only [closeConnection, onDisconnect_of_connected before]
      exact .closed _ rfl rfl rfl
  | handled _ frames decoder fed next out done =>
      have handled := sameSource_handleFrames (holds.toLinkInvariant.fed connected now fed)
        connected now frames (show ({} : SessionOutput).close = false from rfl)
      rw [done] at handled
      obtain ⟨generator, linktest, source⟩ := handled
      dsimp only
      split
      · exact ⟨generator, linktest, fun stays => by rw [source stays, fed]⟩
      · exact ⟨generator, linktest, fun stays => by rw [fed]; exact source stays⟩

end Session

end Ssim.Hsms
