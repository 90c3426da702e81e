import Ssim.Hsms.SessionInvariant
import Mathlib.Logic.Equiv.Basic
import Mathlib.Data.List.Perm.Basic
import Mathlib.Data.List.Dedup

/-!
# Sessions up to the choice of system bytes

Two sessions that differ only in the system bytes they have chosen behave alike.
A renaming maps the system bytes in use by one to those in use by the other.  Both
allocate when one does, perhaps different system bytes, and the renaming is then
extended by that pair.  So a failed send, which can only move the generator of
system bytes, has no other effect on whatever comes later.
-/

namespace Ssim.Hsms

open Ssim.Core (Error Result)
open Std (ExtTreeMap)

/-! ## Renamings -/

/-- A renaming of system bytes.  Zero is never allocated and keeps its name. -/
structure Renaming where
  perm : Equiv.Perm UInt32
  fixes_zero : perm 0 = 0

namespace Renaming

def identity : Renaming := ⟨.refl _, rfl⟩

theorem nonzero (names : Renaming) {system : UInt32} (nonzero : system ≠ 0) :
    names.perm system ≠ 0 := by
  rw [← names.fixes_zero]
  exact names.perm.injective.ne nonzero

/-- Send one more name to the other, and what was sent there to where the name went. -/
def extend (names : Renaming) {system other : UInt32} (nonzero : system ≠ 0)
    (alsoNonzero : other ≠ 0) : Renaming where
  perm := names.perm.trans (Equiv.swap (names.perm system) other)
  fixes_zero := by
    rw [Equiv.trans_apply, names.fixes_zero]
    exact Equiv.swap_apply_of_ne_of_ne (names.nonzero nonzero).symm alsoNonzero.symm

theorem extend_self (names : Renaming) {system other : UInt32} (nonzero : system ≠ 0)
    (alsoNonzero : other ≠ 0) :
    (names.extend nonzero alsoNonzero).perm system = other :=
  Equiv.swap_apply_left _ _

theorem extend_of_ne (names : Renaming) {system other kept : UInt32} (nonzero : system ≠ 0)
    (alsoNonzero : other ≠ 0) (apart : kept ≠ system) (alsoApart : names.perm kept ≠ other) :
    (names.extend nonzero alsoNonzero).perm kept = names.perm kept :=
  Equiv.swap_apply_of_ne_of_ne (names.perm.injective.ne apart) alsoApart

end Renaming

def Frame.rename (frame : Frame) (names : Renaming) : Frame :=
  { frame with
    header := { frame.header with systemBytes := names.perm frame.header.systemBytes } }

def Delivery.rename (delivery : Delivery) (names : Renaming) : Delivery :=
  ⟨delivery.frame.rename names, delivery.replyTo.map names.perm⟩

/-- The encodings of two frames that differ in their system bytes only. -/
def FrameBytesRenamed (names : Renaming) (bytes others : List UInt8) : Prop :=
  ∃ frame : Frame, encodeFrame frame = .ok bytes ∧ encodeFrame (frame.rename names) = .ok others

/--
Outputs that differ in system bytes only.  Deliveries and expiries are about system
bytes in use before the call; expiries are listed in the order of these.
-/
structure SessionOutput.Renamed (before after : Renaming) (out other : SessionOutput) : Prop where
  toSend : List.Forall₂ (FrameBytesRenamed after) out.toSend other.toSend
  deliveries : other.deliveries = out.deliveries.map (·.rename before)
  timedOut : other.timedOut.Perm (out.timedOut.map before.perm)
  close : other.close = out.close
  closeReason : other.closeReason = out.closeReason

namespace Session

/-- Sessions that differ in the system bytes in use or received, and in the generator only. -/
structure Renamed (names : Renaming) (session other : Session) : Prop where
  config : other.config = session.config
  state : other.state = session.state
  hasPartial : other.decoder.hasPartial = session.decoder.hasPartial
  t7 : other.t7 = session.t7
  t8 : other.t8 = session.t8
  t6 : other.t6 = session.t6
  lastActivity : other.lastActivity = session.lastActivity
  pendingLinktest : other.pendingLinktest = session.pendingLinktest.map names.perm
  transactions : ∀ system : UInt32,
    other.transactions[names.perm system]? = session.transactions[system]?

/-! ## Calls and their answers -/

/-- What a call returns to its caller besides its output. -/
inductive Returned where
  | nothing
  | request (result : Result UInt32)
  | reply (result : Result Unit)

def Returned.rename (names : Renaming) : Returned → Returned
  | .request (.ok system) => .request (.ok (names.perm system))
  | returned => returned

/-- One call, with the result of a send; `none` if the call never returns. -/
def respond (session : Session) : SessionCall → Option (Returned × Session × SessionOutput)
  | .onConnect now => some (.nothing, session.onConnect now)
  | .onBytes now bytes => some (.nothing, session.onBytes now bytes)
  | .onTick now => (session.onTick now).map fun result => (.nothing, result)
  | .onDisconnect => some (.nothing, session.onDisconnect, {})
  | .sendRequest now message =>
      (session.sendRequest now message {}).map fun result => (.request result.1, result.2)
  | .sendReply systemBytes message =>
      let (result, out) := session.sendReply systemBytes message {}
      some (.reply result, session, out)

/-- The frames that two reads complete are the same up to the renaming. -/
def FeedRenamed (names : Renaming) :
    Result (List Frame) × FrameDecoder → Result (List Frame) × FrameDecoder → Prop
  | (.error reason, _), (.error other, _) => other = reason
  | (.ok frames, decoder), (.ok others, after) =>
      others = frames.map (·.rename names) ∧ after.hasPartial = decoder.hasPartial
  | _, _ => False

/-- The same call of both sessions; what comes from the host carries the renamed system bytes. -/
inductive CallRenamed (names : Renaming) (session other : Session) :
    SessionCall → SessionCall → Prop where
  | onConnect (now : TimePoint) :
      CallRenamed names session other (.onConnect now) (.onConnect now)
  | onBytes (now : TimePoint) (bytes others : List UInt8)
      (fed : FeedRenamed names (session.decoder.feed bytes) (other.decoder.feed others)) :
      CallRenamed names session other (.onBytes now bytes) (.onBytes now others)
  | onTick (now : TimePoint) : CallRenamed names session other (.onTick now) (.onTick now)
  | onDisconnect : CallRenamed names session other .onDisconnect .onDisconnect
  | sendRequest (now : TimePoint) (message : Secs2.Message) :
      CallRenamed names session other (.sendRequest now message) (.sendRequest now message)
  | sendReply (systemBytes : UInt32) (message : Secs2.Message) :
      CallRenamed names session other (.sendReply systemBytes message)
        (.sendReply (names.perm systemBytes) message)

/-- The renamings agree on the system bytes that the session has in use, but for those dropped. -/
def AgreeOn (session : Session) (dropped : List UInt32) (names other : Renaming) : Prop :=
  ∀ system, session.inUse system = true → system ∉ dropped →
    other.perm system = names.perm system

/--
For this many further calls the sessions cannot be told apart, up to the choice of
system bytes.  Before every call the renaming may be changed outside of what is in
use; a call that allocates extends it.
-/
def Alike : Nat → Renaming → Session → Session → Prop
  | 0, _, _, _ => True
  | calls + 1, names, session, other =>
      ∀ before, session.AgreeOn [] names before →
        ∀ input also, CallRenamed before session other input also →
          (session.respond input = none ∧ other.respond also = none) ∨
            ∃ after returned next out otherNext otherOut,
              session.AgreeOn out.timedOut before after ∧
              session.respond input = some (returned, next, out) ∧
              other.respond also = some (returned.rename after, otherNext, otherOut) ∧
              out.Renamed before after otherOut ∧ Alike calls after next otherNext

/-! ## What a renaming keeps -/

namespace Renamed

variable {names : Renaming} {session other : Session}

theorem refl (session : Session) (generator : UInt32) :
    Renamed .identity { session with nextSystemBytes := generator } session :=
  ⟨rfl, rfl, rfl, rfl, rfl, rfl, rfl, Option.map_id'.symm, fun _ => rfl⟩

theorem mem_transactions (similar : Renamed names session other) (system : UInt32) :
    names.perm system ∈ other.transactions ↔ system ∈ session.transactions := by
  rw [ExtTreeMap.mem_iff_isSome_getElem?, ExtTreeMap.mem_iff_isSome_getElem?,
    similar.transactions]

theorem size (similar : Renamed names session other) :
    other.transactions.size = session.transactions.size := by
  have keys : other.transactions.keys.Perm (session.transactions.keys.map names.perm) := by
    refine (List.perm_ext_iff_of_nodup ExtTreeMap.nodup_keys
      (ExtTreeMap.nodup_keys.map names.perm.injective)).mpr fun system => ?_
    obtain ⟨before, rfl⟩ := names.perm.surjective system
    rw [ExtTreeMap.mem_keys, similar.mem_transactions,
      List.mem_map_of_injective names.perm.injective, ExtTreeMap.mem_keys]
  have lengths := keys.length_eq
  rwa [List.length_map, ExtTreeMap.length_keys, ExtTreeMap.length_keys] at lengths

theorem pendingLinktest_eq (similar : Renamed names session other) (system : UInt32) :
    other.pendingLinktest = some (names.perm system) ↔ session.pendingLinktest = some system := by
  rw [similar.pendingLinktest]
  exact (Option.map_injective names.perm.injective).eq_iff' rfl

theorem inUse (similar : Renamed names session other) (system : UInt32) :
    other.inUse (names.perm system) = session.inUse system := by
  have open_iff : other.transactions.contains (names.perm system) =
      session.transactions.contains system := by
    rw [Bool.eq_iff_iff, ExtTreeMap.contains_iff_mem, ExtTreeMap.contains_iff_mem]
    exact similar.mem_transactions system
  simp only [Session.inUse, open_iff, similar.pendingLinktest_eq]

/-- What a renaming does outside of the system bytes in use makes no difference. -/
theorem agree (similar : Renamed names session other) {after : Renaming}
    (same : session.AgreeOn [] names after) : Renamed after session other := by
  have used : ∀ {system : UInt32} {deadline : TimePoint},
      session.transactions[system]? = some deadline → after.perm system = names.perm system := by
    intro system deadline found
    refine same system ?_ List.not_mem_nil
    have member : system ∈ session.transactions := by
      rw [ExtTreeMap.mem_iff_isSome_getElem?, found]
      rfl
    rw [Session.inUse, ExtTreeMap.contains_iff_mem.mpr member, Bool.true_or]
  refine { similar with pendingLinktest := ?_, transactions := fun system => ?_ }
  · rw [similar.pendingLinktest]
    cases pending : session.pendingLinktest with
    | none => rfl
    | some system =>
        have known := same system (by rw [Session.inUse, pending]; simp) List.not_mem_nil
        rw [Option.map_some, Option.map_some, known]
  · obtain ⟨before, named⟩ := names.perm.surjective (after.perm system)
    rw [← named, similar.transactions]
    cases found : session.transactions[before]? with
    | some deadline =>
        rw [← used found] at named
        rw [← after.perm.injective named, found]
    | none =>
        cases also : session.transactions[system]? with
        | none => rfl
        | some deadline =>
            rw [used also] at named
            rw [names.perm.injective named, also] at found
            cases found

theorem erase (similar : Renamed names session other) (system : UInt32) :
    Renamed names { session with transactions := session.transactions.erase system }
      { other with transactions := other.transactions.erase (names.perm system) } := by
  refine { similar with transactions := fun key => ?_ }
  simp only [ExtTreeMap.getElem?_erase, Std.compare_eq_iff_eq, names.perm.injective.eq_iff,
    similar.transactions]

theorem cleared (similar : Renamed names session other) :
    Renamed names { session with transactions := ∅ } { other with transactions := ∅ } :=
  { similar with transactions := fun _ => by simp }

theorem resetLinkState (similar : Renamed names session other) :
    Renamed names session.resetLinkState other.resetLinkState :=
  ⟨similar.config, similar.state, rfl, rfl, rfl, rfl, similar.lastActivity, rfl, fun _ => by
    simp [Session.resetLinkState]⟩

theorem fire (similar : Renamed names session other) (trigger : ConnectionTrigger) :
    Renamed names (session.fire trigger) (other.fire trigger) := by
  unfold Session.fire
  rw [similar.state]
  cases session.state.apply trigger with
  | error reason => exact similar
  | ok state => exact { similar with state := rfl }

theorem onDisconnect (similar : Renamed names session other) :
    Renamed names session.onDisconnect other.onDisconnect := by
  have fired := (similar.fire .disconnect).resetLinkState
  unfold Session.fire at fired
  unfold Session.onDisconnect
  rw [similar.state] at *
  cases next : session.state.apply .disconnect with
  | error reason => exact similar
  | ok state =>
      rw [next] at fired
      exact fired

/-- A disconnect leaves nothing of the decoder, the timers and the transactions. -/
theorem closed (connected : session.state ≠ .notConnected)
    (alsoConnected : other.state ≠ .notConnected) (config : other.config = session.config)
    (lastActivity : other.lastActivity = session.lastActivity) :
    Renamed names session.onDisconnect other.onDisconnect := by
  rw [onDisconnect_of_connected connected, onDisconnect_of_connected alsoConnected]
  exact ⟨config, rfl, rfl, rfl, rfl, rfl, lastActivity, rfl, fun _ => by
    simp [Session.resetLinkState]⟩

theorem endLinktest (similar : Renamed names session other) (system : UInt32) :
    Renamed names (session.endLinktest system) (other.endLinktest (names.perm system)) := by
  unfold Session.endLinktest
  simp only [similar.pendingLinktest_eq]
  split
  · exact { similar with t6 := rfl, pendingLinktest := rfl }
  · exact similar

theorem updateT8 (similar : Renamed names session other) (now : TimePoint) :
    Renamed names (session.updateT8 now) (other.updateT8 now) := by
  refine { similar with t8 := ?_ }
  simp only [Session.updateT8, similar.hasPartial, similar.config]

end Renamed

end Session

namespace SessionOutput.Renamed

variable {before after : Renaming} {out other : SessionOutput}

theorem empty (before after : Renaming) : SessionOutput.Renamed before after {} {} :=
  ⟨.nil, rfl, .refl _, rfl, rfl⟩

/-- One more frame to send, the same up to its system bytes. -/
theorem send (alike : out.Renamed before after other) {bytes others : List UInt8}
    (frame : FrameBytesRenamed after bytes others) :
    SessionOutput.Renamed before after { out with toSend := out.toSend ++ [bytes] }
      { other with toSend := other.toSend ++ [others] } :=
  { alike with toSend := List.rel_append alike.toSend (.cons frame .nil) }

theorem sendControl (alike : out.Renamed before after other) (stype : SType) (system : UInt32)
    (byte2 byte3 : UInt8) :
    SessionOutput.Renamed before after (Session.sendControl stype system byte2 byte3 out)
      (Session.sendControl stype (after.perm system) byte2 byte3 other) :=
  alike.send ⟨makeControlFrame stype system byte2 byte3, rfl, rfl⟩

theorem reject (alike : out.Renamed before after other) (frame : Frame) (reason : UInt8) :
    SessionOutput.Renamed before after (Session.reject frame reason out)
      (Session.reject (frame.rename after) reason other) :=
  alike.sendControl _ _ _ _

theorem deliver (alike : out.Renamed before after other) (delivery : Delivery) :
    SessionOutput.Renamed before after { out with deliveries := out.deliveries ++ [delivery] }
      { other with deliveries := other.deliveries ++ [delivery.rename before] } :=
  { alike with deliveries := by simp [alike.deliveries] }

end SessionOutput.Renamed

namespace Session

section Steps

variable {names : Renaming} {session other : Session} {out otherOut : SessionOutput}

/-! ## Incoming frames -/

/-- Both results of a step are the same up to the renaming. -/
def BothRenamed (names : Renaming) (result other : Session × SessionOutput) : Prop :=
  Renamed names result.1 other.1 ∧ result.2.Renamed names names other.2

/-- Two branchings on equivalent conditions are related if their branches are. -/
theorem rel_ite {First Second : Type} {related : First → Second → Prop} {holds also : Prop}
    [Decidable holds] [Decidable also] {yes no : First} {otherYes otherNo : Second}
    (same : also ↔ holds) (onYes : holds → related yes otherYes)
    (onNo : ¬ holds → related no otherNo) :
    related (if holds then yes else no) (if also then otherYes else otherNo) := by
  by_cases taken : holds
  · rw [if_pos taken, if_pos (same.mpr taken)]
    exact onYes taken
  · rw [if_neg taken, if_neg (mt same.mp taken)]
    exact onNo taken

theorem handleData_renamed (similar : Renamed names session other)
    (alike : out.Renamed names names otherOut) (frame : Frame) :
    BothRenamed names (session.handleData frame out)
      (other.handleData (frame.rename names) otherOut) := by
  unfold handleData
  refine rel_ite (by rw [similar.state]) (fun _ => ⟨similar, alike.reject frame _⟩) fun _ => ?_
  refine rel_ite (and_congr_right' (similar.mem_transactions _)) (fun _ => ?_) fun _ => ?_
  · exact ⟨similar.erase _, alike.deliver ⟨frame, some frame.header.systemBytes⟩⟩
  · exact ⟨similar, alike.deliver ⟨frame, none⟩⟩

theorem handleSelectReq_renamed (similar : Renamed names session other)
    (alike : out.Renamed names names otherOut) (system : UInt32) :
    BothRenamed names (session.handleSelectReq system out)
      (other.handleSelectReq (names.perm system) otherOut) := by
  unfold handleSelectReq
  refine rel_ite (by rw [similar.state]) (fun _ => ?_) fun _ => ?_
  · exact ⟨{ similar.fire .select with t7 := rfl }, alike.sendControl _ _ _ _⟩
  · exact ⟨similar, alike.sendControl _ _ _ _⟩

theorem handleDeselectReq_renamed (similar : Renamed names session other)
    (alike : out.Renamed names names otherOut) (now : TimePoint) (system : UInt32) :
    BothRenamed names (session.handleDeselectReq now system out)
      (other.handleDeselectReq now (names.perm system) otherOut) := by
  unfold handleDeselectReq
  refine rel_ite (by rw [similar.state]) (fun _ => ?_) fun _ => ?_
  · refine ⟨{ (similar.fire .deselect).cleared with t7 := ?_ }, alike.sendControl _ _ _ _⟩
    exact congrArg (fun config : SessionConfig => Timer.started now config.t7) similar.config
  · exact ⟨similar, alike.sendControl _ _ _ _⟩

theorem closeConnection_renamed (similar : Renamed names session other)
    (alike : out.Renamed names names otherOut) (reason : String) :
    BothRenamed names (session.closeConnection reason out)
      (other.closeConnection reason otherOut) :=
  ⟨similar.onDisconnect, { alike with close := rfl, closeReason := rfl }⟩

theorem handleFrame_renamed (similar : Renamed names session other)
    (alike : out.Renamed names names otherOut) (now : TimePoint) (frame : Frame) :
    BothRenamed names (session.handleFrame now frame out)
      (other.handleFrame now (frame.rename names) otherOut) := by
  unfold handleFrame
  refine rel_ite Iff.rfl (fun _ => ⟨similar, alike.reject frame _⟩) fun _ => ?_
  have stype : (frame.rename names).header.stype = frame.header.stype := rfl
  rw [stype]
  cases stypeFromByte frame.header.stype with
  | none => exact ⟨similar, alike.reject frame _⟩
  | some stype =>
      cases stype with
      | data => exact handleData_renamed similar alike frame
      | selectReq => exact handleSelectReq_renamed similar alike _
      | deselectReq => exact handleDeselectReq_renamed similar alike now _
      | linktestReq => exact ⟨similar, alike.sendControl _ _ _ _⟩
      | linktestRsp =>
          refine rel_ite (similar.pendingLinktest_eq _) (fun _ => ?_) fun _ => ?_
          · exact ⟨similar.endLinktest _, alike⟩
          · exact ⟨similar, alike.reject frame _⟩
      | selectRsp => exact ⟨similar, alike.reject frame _⟩
      | deselectRsp => exact ⟨similar, alike.reject frame _⟩
      | rejectReq => exact ⟨(similar.endLinktest _).erase _, alike⟩
      | separateReq => exact closeConnection_renamed similar alike _

/-- The induction is over the frames; a frame that closes one session closes the other. -/
theorem handleFrames_renamed (similar : Renamed names session other)
    (alike : out.Renamed names names otherOut) (now : TimePoint) (frames : List Frame) :
    BothRenamed names (session.handleFrames now out frames)
      (other.handleFrames now otherOut (frames.map (·.rename names))) := by
  induction frames generalizing session other out otherOut with
  | nil => exact ⟨similar, alike⟩
  | cons frame frames ih =>
      have first := handleFrame_renamed similar alike now frame
      simp only [List.map_cons, handleFrames, first.2.close]
      split
      · exact first
      · exact ih first.1 first.2

theorem onBytes_renamed (similar : Renamed names session other) (now : TimePoint)
    {bytes others : List UInt8}
    (fed : FeedRenamed names (session.decoder.feed bytes) (other.decoder.feed others)) :
    BothRenamed names (session.onBytes now bytes) (other.onBytes now others) := by
  unfold onBytes
  refine rel_ite (by rw [similar.state]) (fun _ => ⟨similar, .empty names names⟩)
    fun connected => ?_
  dsimp only
  generalize session.decoder.feed bytes = result at fed
  generalize other.decoder.feed others = otherResult at fed
  obtain ⟨first, decoder⟩ := result
  obtain ⟨second, after⟩ := otherResult
  cases first with
  | error reason =>
      cases second with
      | ok frames => exact fed.elim
      | error same =>
          obtain rfl : same = reason := fed
          refine ⟨?_, { SessionOutput.Renamed.empty names names with
            close := rfl, closeReason := rfl }⟩
          exact .closed connected (by rwa [similar.state]) similar.config rfl
  | ok frames =>
      cases second with
      | error reason => exact fed.elim
      | ok renamed =>
          obtain ⟨rfl, sameRest⟩ := fed
          have noted : Renamed names { session with lastActivity := now, decoder := decoder }
              { other with lastActivity := now, decoder := after } :=
            { similar with lastActivity := rfl, hasPartial := sameRest }
          have handled := handleFrames_renamed noted (.empty names names) now frames
          exact rel_ite (by rw [handled.2.close]) (fun _ => handled)
            fun _ => ⟨handled.1.updateT8 now, handled.2⟩

/-! ## Allocation -/

/-- Only a session that uses all system bytes but zero searches in vain. -/
theorem allocateSystemBytes_eq_none {session : Session} :
    session.allocateSystemBytes = none ↔
      ∀ system : UInt32, system = 0 ∨ session.inUse system = true := by
  rw [allocateSystemBytes, Option.map_eq_none_iff]
  constructor
  · intro ended system
    refine searchSystemBytes_eq_none ended system (List.mem_map.mpr
      ⟨(system - session.nextSystemBytes).toNat, List.mem_range.mpr (UInt32.toNat_lt _), ?_⟩)
    rw [UInt32.ofNat_toNat, UInt32.add_comm, UInt32.sub_add_cancel]
  · intro used
    cases found : searchSystemBytes session.inUse (2 ^ 32) session.nextSystemBytes with
    | none => rfl
    | some result =>
        obtain ⟨nonzero, unused⟩ := searchSystemBytes_eq_some found
        rcases used result.1 with zero | inUse
        · exact absurd zero nonzero
        · rw [inUse] at unused
          cases unused

theorem allocateSystemBytes_unused {session next : Session} {system : UInt32}
    (found : session.allocateSystemBytes = some (system, next)) :
    system ≠ 0 ∧ session.inUse system = false ∧
      ∃ generator, next = { session with nextSystemBytes := generator } := by
  obtain ⟨nonzero, unused, notLinktest, moved⟩ := allocateSystemBytes_eq_some found
  refine ⟨nonzero, ?_, moved⟩
  have closed : session.transactions.contains system = false :=
    Bool.eq_false_of_not_eq_true (mt ExtTreeMap.contains_iff_mem.mp unused)
  simpa [inUse, closed] using notLinktest

/-- Both sessions allocate or neither does; the renaming is extended by the new pair. -/
theorem allocateSystemBytes_renamed (similar : Renamed names session other) :
    (session.allocateSystemBytes = none ∧ other.allocateSystemBytes = none) ∨
      ∃ after system generator otherGenerator,
        session.AgreeOn [] names after ∧ session.inUse system = false ∧
        session.allocateSystemBytes =
          some (system, { session with nextSystemBytes := generator }) ∧
        other.allocateSystemBytes =
          some (after.perm system, { other with nextSystemBytes := otherGenerator }) := by
  cases found : session.allocateSystemBytes with
  | none =>
      refine .inl ⟨rfl, allocateSystemBytes_eq_none.mpr fun system => ?_⟩
      obtain ⟨before, rfl⟩ := names.perm.surjective system
      rcases allocateSystemBytes_eq_none.mp found before with rfl | used
      · exact .inl names.fixes_zero
      · exact .inr ((similar.inUse before).trans used)
  | some result =>
      obtain ⟨system, next⟩ := result
      obtain ⟨nonzero, unused, generator, rfl⟩ := allocateSystemBytes_unused found
      cases also : other.allocateSystemBytes with
      | none =>
          rcases allocateSystemBytes_eq_none.mp also (names.perm system) with zero | used
          · exact absurd zero (names.nonzero nonzero)
          · rw [similar.inUse, unused] at used
            cases used
      | some otherResult =>
          obtain ⟨otherSystem, otherNext⟩ := otherResult
          obtain ⟨alsoNonzero, alsoUnused, otherGenerator, rfl⟩ := allocateSystemBytes_unused also
          refine .inr ⟨names.extend nonzero alsoNonzero, system, generator, otherGenerator, ?_,
            unused, rfl, by rw [names.extend_self]⟩
          intro kept used _
          refine names.extend_of_ne nonzero alsoNonzero ?_ ?_
          · rintro rfl
            rw [used] at unused
            cases unused
          · rintro rfl
            rw [similar.inUse, used] at alsoUnused
            cases alsoUnused

/-! ## Time -/

theorem mem_expired_renamed (similar : Renamed names session other) (now : TimePoint)
    (system : UInt32) :
    names.perm system ∈ expired now other.transactions.toList ↔
      system ∈ expired now session.transactions.toList := by
  simp only [mem_expired_toList, similar.transactions]

/-- Both sessions report the same expiries, each in the order of its own system bytes. -/
theorem expired_renamed (similar : Renamed names session other) (now : TimePoint) :
    (expired now other.transactions.toList).Perm
      ((expired now session.transactions.toList).map names.perm) := by
  refine (List.perm_ext_iff_of_nodup (expired_nodup now _)
    ((expired_nodup now _).map names.perm.injective)).mpr fun system => ?_
  obtain ⟨before, rfl⟩ := names.perm.surjective system
  rw [mem_expired_renamed similar, List.mem_map_of_injective names.perm.injective]

theorem Renamed.sweep (similar : Renamed names session other) (now : TimePoint) :
    Renamed names { session with transactions := session.swept now }
      { other with transactions := other.swept now } := by
  refine { similar with transactions := fun system => Option.ext fun deadline => ?_ }
  change (other.swept now)[_]? = _ ↔ (session.swept now)[_]? = _
  rw [swept_getElem?_eq_some, swept_getElem?_eq_some, similar.transactions]

/--
Neither call returns, or both do, and the results are the same up to a renaming that
agrees with the given one on what stays in use.
-/
def ResultsRenamed (names : Renaming) (session : Session)
    (result other : Option (Session × SessionOutput)) : Prop :=
  (result = none ∧ other = none) ∨
    ∃ after next out otherNext otherOut, session.AgreeOn out.timedOut names after ∧
      result = some (next, out) ∧ other = some (otherNext, otherOut) ∧
      out.Renamed names after otherOut ∧ Renamed after next otherNext

theorem ResultsRenamed.both {finish otherFinish : Session × SessionOutput}
    (both : BothRenamed names finish otherFinish) :
    ResultsRenamed names session (some finish) (some otherFinish) :=
  .inr ⟨names, _, _, _, _, fun _ _ _ => rfl, rfl, rfl, both.2, both.1⟩

/-- What is in use and has not expired is still in use after the sweep. -/
theorem inUse_swept {now : TimePoint} {system : UInt32} (used : session.inUse system = true)
    (kept : system ∉ expired now session.transactions.toList) :
    ({ session with transactions := session.swept now } : Session).inUse system = true := by
  simp only [inUse, Bool.or_eq_true, ExtTreeMap.contains_iff_mem] at *
  refine used.imp_left fun isOpen => ?_
  rw [ExtTreeMap.mem_iff_isSome_getElem?] at *
  obtain ⟨deadline, found⟩ := Option.isSome_iff_exists.mp isOpen
  refine Option.isSome_iff_exists.mpr ⟨deadline, swept_getElem?_eq_some.mpr ⟨found, ?_⟩⟩
  exact Int.not_le.mp fun due => kept (mem_expired_toList.mpr ⟨deadline, found, due⟩)

theorem tickConnected_renamed (similar : Renamed names session other) (now : TimePoint) :
    ResultsRenamed names session (session.tickConnected now) (other.tickConnected now) := by
  have reports : ∀ after : Renaming, SessionOutput.Renamed names after
      { timedOut := expired now session.transactions.toList }
      { timedOut := expired now other.transactions.toList } := fun after =>
    { SessionOutput.Renamed.empty names after with timedOut := expired_renamed similar now }
  have noLinktest : other.pendingLinktest = none ↔ session.pendingLinktest = none := by
    rw [similar.pendingLinktest, Option.map_eq_none_iff]
  rw [tickConnected_eq, tickConnected_eq]
  refine rel_ite ?_ (fun idle => ?_) fun _ => .both ⟨similar.sweep now, reports names⟩
  · rw [similar.state, noLinktest, similar.lastActivity, similar.config]
  rcases allocateSystemBytes_renamed (similar.sweep now) with ⟨none, alsoNone⟩ |
    ⟨after, system, generator, otherGenerator, agree, _, found, also⟩
  · exact .inl ⟨by rw [none]; rfl, by rw [alsoNone]; rfl⟩
  rw [found, also]
  refine .inr ⟨after, _, _, _, _, ?_, rfl, rfl, (reports after).sendControl _ _ _ _, ?_⟩
  · exact fun kept used stays => agree kept (inUse_swept used stays) List.not_mem_nil
  · have swept := (similar.sweep now).agree agree
    refine { swept with t6 := ?_, lastActivity := rfl, pendingLinktest := rfl }
    exact congrArg (fun config : SessionConfig => Timer.started now config.t6) similar.config

theorem onTick_renamed (similar : Renamed names session other) (now : TimePoint) :
    ResultsRenamed names session (session.onTick now) (other.onTick now) := by
  have closed : ∀ reason, ResultsRenamed names session
      (some (session.closeConnection reason {})) (some (other.closeConnection reason {})) :=
    fun reason => .both (closeConnection_renamed similar (.empty names names) reason)
  unfold onTick
  refine rel_ite (by rw [similar.state]) (fun _ => .both ⟨similar, .empty names names⟩) fun _ => ?_
  refine rel_ite (by rw [similar.state, similar.t7]) (fun _ => .both ⟨?_, ?_⟩) fun _ => ?_
  · exact (similar.fire .t7Timeout).resetLinkState
  · exact { SessionOutput.Renamed.empty names names with close := rfl, closeReason := rfl }
  refine rel_ite (by rw [similar.t8]) (fun _ => closed _) fun _ => ?_
  refine rel_ite ?_ (fun _ => closed _) fun _ => tickConnected_renamed similar now
  rw [similar.pendingLinktest, similar.t6, Option.isSome_map]

/-! ## Sends -/

theorem encodeFrame_rename (frame : Frame) (names : Renaming) :
    (∃ reason, encodeFrame frame = .error reason ∧
        encodeFrame (frame.rename names) = .error reason) ∨
      ∃ bytes others, encodeFrame frame = .ok bytes ∧
        encodeFrame (frame.rename names) = .ok others := by
  have body : (frame.rename names).body = frame.body := rfl
  unfold encodeFrame
  rw [body]
  dsimp only
  split
  · exact .inl ⟨_, rfl, rfl⟩
  · exact .inr ⟨_, _, rfl, rfl⟩

/-- Whether a message can be queued, and with which error, does not depend on the system bytes. -/
theorem queueData_renamed {before after : Renaming} (config : other.config = session.config)
    (alike : out.Renamed before after otherOut) (message : Secs2.Message) (system : UInt32) :
    (∃ reason, session.queueData message system out = .error reason ∧
        other.queueData message (after.perm system) otherOut = .error reason) ∨
      ∃ sent otherSent, session.queueData message system out = .ok sent ∧
        other.queueData message (after.perm system) otherOut = .ok otherSent ∧
        sent.Renamed before after otherSent := by
  unfold queueData
  rw [config]
  cases encodeBody message with
  | error reason => exact .inl ⟨reason, rfl, rfl⟩
  | ok body =>
      dsimp only
      split
      · exact .inl ⟨_, rfl, rfl⟩
      have renamed : makeDataFrame session.config.deviceId message.stream message.function
          message.wBit (after.perm system) body =
          (makeDataFrame session.config.deviceId message.stream message.function message.wBit
            system body).rename after := rfl
      rw [renamed]
      rcases encodeFrame_rename (makeDataFrame session.config.deviceId message.stream
        message.function message.wBit system body) after with
        ⟨reason, failed, alsoFailed⟩ | ⟨bytes, others, encoded, alsoEncoded⟩
      · exact .inl ⟨reason, by rw [failed], by rw [alsoFailed]⟩
      · refine .inr ⟨_, _, by rw [encoded], by rw [alsoEncoded], ?_⟩
        exact alike.send ⟨_, encoded, alsoEncoded⟩

theorem noteSent_renamed (similar : Renamed names session other) (now : TimePoint)
    (message : Secs2.Message) (system : UInt32) :
    Renamed names (session.noteSent now message system)
      (other.noteSent now message (names.perm system)) := by
  refine { similar with lastActivity := rfl, transactions := fun key => ?_ }
  unfold noteSent
  dsimp only
  split
  · simp only [ExtTreeMap.getElem?_insert, Std.compare_eq_iff_eq, names.perm.injective.eq_iff,
      similar.transactions, similar.config]
  · exact similar.transactions key

/-! ## Every call -/

/-- As `ResultsRenamed`, with what the calls return to their callers. -/
def AnswersRenamed (names : Renaming) (session : Session)
    (answer other : Option (Returned × Session × SessionOutput)) : Prop :=
  (answer = none ∧ other = none) ∨
    ∃ after returned next out otherNext otherOut, session.AgreeOn out.timedOut names after ∧
      answer = some (returned, next, out) ∧
      other = some (returned.rename after, otherNext, otherOut) ∧
      out.Renamed names after otherOut ∧ Renamed after next otherNext

theorem AnswersRenamed.both {next otherNext : Session} {out otherOut : SessionOutput}
    (both : BothRenamed names (next, out) (otherNext, otherOut)) {returned otherReturned : Returned}
    (same : otherReturned = returned.rename names) :
    AnswersRenamed names session (some (returned, next, out))
      (some (otherReturned, otherNext, otherOut)) :=
  .inr ⟨names, returned, next, out, otherNext, otherOut, fun _ _ _ => rfl, rfl, by rw [same],
    both.2, both.1⟩

theorem sendRequest_renamed (similar : Renamed names session other) (now : TimePoint)
    (message : Secs2.Message) :
    AnswersRenamed names session (session.respond (.sendRequest now message))
      (other.respond (.sendRequest now message)) := by
  have refused : ∀ reason : Error, AnswersRenamed names session
      (some (.request (.error reason), session, {})) (some (.request (.error reason), other, {})) :=
    fun reason => .both ⟨similar, .empty names names⟩ rfl
  by_cases outside : session.state ≠ .selected
  · simpa [respond, sendRequest, similar.state, outside] using refused _
  have alsoInside : ¬ other.state ≠ .selected := by rwa [similar.state]
  by_cases full : message.wBit ∧ session.transactions.size ≥ session.config.maxOpenTransactions
  · simpa [respond, sendRequest, similar.state, outside, similar.size, similar.config, full]
      using refused _
  have alsoRoom : ¬ (message.wBit ∧
      other.transactions.size ≥ other.config.maxOpenTransactions) := by
    rwa [similar.size, similar.config]
  rw [respond, respond, sendRequest, sendRequest, if_neg outside, if_neg alsoInside, if_neg full,
    if_neg alsoRoom]
  rcases allocateSystemBytes_renamed similar with ⟨none, alsoNone⟩ |
    ⟨after, system, generator, otherGenerator, agree, _, found, also⟩
  · exact .inl ⟨by rw [none]; rfl, by rw [alsoNone]; rfl⟩
  right
  have alike : Renamed after { session with nextSystemBytes := generator }
      { other with nextSystemBytes := otherGenerator } :=
    { similar.agree agree with }
  have kept : ∀ dropped, session.AgreeOn dropped names after :=
    fun dropped key used _ => agree key used List.not_mem_nil
  rw [found, also, Option.map_some, Option.map_some, Option.map_some, Option.map_some]
  dsimp only
  rcases queueData_renamed alike.config (.empty names after) message system with
    ⟨reason, failed, alsoFailed⟩ | ⟨sent, otherSent, queued, alsoQueued, renamed⟩
  · rw [failed, alsoFailed]
    exact ⟨after, _, _, _, _, _, kept _, rfl, rfl, .empty names after, alike⟩
  · rw [queued, alsoQueued]
    exact ⟨after, _, _, _, _, _, kept _, rfl, rfl, renamed,
      noteSent_renamed alike now message system⟩

theorem sendReply_renamed (similar : Renamed names session other) (system : UInt32)
    (message : Secs2.Message) :
    AnswersRenamed names session (session.respond (.sendReply system message))
      (other.respond (.sendReply (names.perm system) message)) := by
  have refused : ∀ reason : Error, AnswersRenamed names session
      (some (.reply (.error reason), session, {})) (some (.reply (.error reason), other, {})) :=
    fun reason => .both ⟨similar, .empty names names⟩ rfl
  by_cases outside : session.state ≠ .selected
  · simpa [respond, sendReply, similar.state, outside] using refused _
  have alsoInside : ¬ other.state ≠ .selected := by rwa [similar.state]
  rw [respond, respond, sendReply, sendReply, if_neg outside, if_neg alsoInside]
  rcases queueData_renamed similar.config (.empty names names) { message with wBit := false }
    system with ⟨reason, failed, alsoFailed⟩ | ⟨sent, otherSent, queued, alsoQueued, renamed⟩
  · rw [failed, alsoFailed]
    exact refused reason
  · rw [queued, alsoQueued]
    exact .both ⟨similar, renamed⟩ rfl

theorem onConnect_renamed (similar : Renamed names session other) (now : TimePoint) :
    BothRenamed names (session.onConnect now) (other.onConnect now) := by
  by_cases idle : session.state = .notConnected
  · rw [onConnect_of_idle idle, onConnect_of_idle (similar.state.trans idle)]
    have waiting : Renamed names { session with state := .notSelected }
        { other with state := .notSelected } := { similar with state := rfl }
    refine ⟨{ waiting.resetLinkState with lastActivity := rfl, t7 := ?_ }, .empty names names⟩
    exact congrArg (fun config : SessionConfig => Timer.started now config.t7) similar.config
  · rw [onConnect_of_connected idle, onConnect_of_connected (by rwa [similar.state])]
    exact ⟨similar, .empty names names⟩

/-- Corresponding calls of sessions that differ in system bytes only are answered alike. -/
theorem respond_renamed (similar : Renamed names session other) {input also : SessionCall}
    (same : CallRenamed names session other input also) :
    AnswersRenamed names session (session.respond input) (other.respond also) := by
  cases same with
  | onConnect now => exact .both (onConnect_renamed similar now) rfl
  | onBytes now bytes others fed => exact .both (onBytes_renamed similar now fed) rfl
  | onTick now =>
      rcases onTick_renamed similar now with ⟨none, alsoNone⟩ |
        ⟨after, next, out, otherNext, otherOut, kept, ticked, alsoTicked, renamed, alike⟩
      · exact .inl ⟨by rw [respond, none]; rfl, by rw [respond, alsoNone]; rfl⟩
      · exact .inr ⟨after, .nothing, next, out, otherNext, otherOut, kept,
          by rw [respond, ticked]; rfl, by rw [respond, alsoTicked]; rfl, renamed, alike⟩
  | onDisconnect => exact .both ⟨similar.onDisconnect, .empty names names⟩ rfl
  | sendRequest now message => exact sendRequest_renamed similar now message
  | sendReply system message => exact sendReply_renamed similar system message

/-- The induction is over the number of further calls. -/
theorem Renamed.alike (similar : Renamed names session other) (calls : Nat) :
    Alike calls names session other := by
  induction calls generalizing names session other with
  | zero => trivial
  | succ calls ih =>
      intro before agree input also same
      rcases respond_renamed (similar.agree agree) same with never |
        ⟨after, returned, next, out, otherNext, otherOut, kept, answer, otherAnswer, renamed,
          further⟩
      · exact .inl never
      · exact .inr ⟨after, returned, next, out, otherNext, otherOut, kept, answer, otherAnswer,
          renamed, ih further⟩

end Steps

/-- `respond` is `call` with the result of a send. -/
theorem call_eq_respond (session : Session) (input : SessionCall) :
    session.call input = (session.respond input).map Prod.snd := by
  cases input with
  | onTick now => simp [call, respond, Function.comp_def]
  | sendRequest now message => simp [call, respond, Function.comp_def]
  | _ => rfl

end Session

/--
Failed sends leave the session intact.  A request or reply that returns an error adds
nothing to the output and changes at most the generator of system bytes.  Every
later sequence of calls is answered as if the failed send had not been made, up to
the choice of system bytes.
-/
theorem failed_sends_leave_no_trace (session : Session) (message : Secs2.Message)
    (out : SessionOutput) :
    (∀ now reason next sent,
      session.sendRequest now message out = some (.error reason, next, sent) →
        sent = out ∧ next = { session with nextSystemBytes := next.nextSystemBytes } ∧
          ∀ calls, Session.Alike calls .identity next session) ∧
    ∀ systemBytes reason sent,
      session.sendReply systemBytes message out = (.error reason, sent) →
        sent = out ∧ session.advance (.sendReply systemBytes message) = some session := by
  constructor
  · intro now reason next sent failed
    cases Session.sendRequest_effect failed with
    | failed reason generator =>
        exact ⟨rfl, rfl, (Session.Renamed.refl session generator).alike⟩
  · intro systemBytes reason sent failed
    refine ⟨?_, rfl⟩
    unfold Session.sendReply at failed
    split at failed
    · exact (Prod.mk.inj failed).2.symm
    · split at failed
      · exact (Prod.mk.inj failed).2.symm
      · cases (Prod.mk.inj failed).1

/-- A body of two bytes where a frame has room for none: system bytes 1 are lost, nothing else. -/
theorem failed_sends_leave_no_trace_too_large :
    ∃ reason next, ({ Session.fresh { maxFrameBytes := 10 } with state := .selected } :
        Session).sendRequest 0 { stream := 1, function := 1, wBit := true, body := some (.list []) }
          {} = some (.error reason, next, {}) ∧ reason.code = kErrMessageTooLarge ∧
      next.nextSystemBytes = 2 ∧
      ∀ calls, Session.Alike calls .identity next
        { Session.fresh { maxFrameBytes := 10 } with state := .selected } := by
  have failed : ({ Session.fresh { maxFrameBytes := 10 } with state := .selected } :
      Session).sendRequest 0 { stream := 1, function := 1, wBit := true, body := some (.list []) }
        {} = some (.error ⟨kErrMessageTooLarge, "message exceeds the maximum frame size"⟩,
          { Session.fresh { maxFrameBytes := 10 } with state := .selected, nextSystemBytes := 2 },
          {}) := by rfl
  refine ⟨_, _, failed, rfl, rfl, ?_⟩
  exact ((failed_sends_leave_no_trace _ _ _).1 _ _ _ _ failed).2.2

end Ssim.Hsms
