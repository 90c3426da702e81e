import Ssim.Gem.Steps
import Ssim.Library.Runs

/-!
# Agreement of the service with the session

The service mirrors two things of the session: it communicates only on a selected
link, and its open requests are the open transactions.  Both hold along every run
whose reads do not pass a change of the link by the service.  A read does, when
the state told before and after it is the same although the link has been another
one in between.
-/

namespace Ssim.Gem

open Hsms (Session SessionConfig ConnectionState TimePoint LinkView)
open Library.Runs
open Std (ExtTreeMap)

namespace System

/-! ## Communication -/

/--
The read begins and ends in the state NOT_SELECTED, and in between, while the link
is selected, it carries an S1F13 that the service accepts.
-/
def hidesSession (system : System) : Input → Bool
  | .read operation _ bytes =>
      system.server.pendingReads[operation]? = some system.server.generation &&
        system.session.state = .notSelected &&
        (system.session.readView bytes).1.state = .notSelected &&
        (system.session.readView bytes).2.any (establishing system.handler.gem.config)
  | _ => false

/-- The service communicates only while the session is selected. -/
def CommFollowsLink (system : System) : Prop :=
  system.handler.gem.comm = .communicating → system.session.state = .selected

theorem commFollowsLink_step {system next : System} {input : Input} (linked : system.Linked)
    (follows : system.CommFollowsLink) (visible : system.hidesSession input = false)
    (taken : system.step input = some next) : next.CommFollowsLink := by
  obtain ⟨_, _, deliveries, timedOut, opened, session, gem⟩ := step_link linked taken
  intro talking
  by_contra outside
  rw [gem.comm] at talking
  split at talking
  · cases talking
  next kept =>
    -- The state is the one before, so communication could only start in this step.
    have same : next.session.state = system.session.state := by
      by_contra new
      exact kept ⟨new, outside⟩
    have silent : system.handler.gem.comm ≠ .communicating :=
      fun before => outside (same.trans (follows before))
    split at talking
    next established =>
      generalize after : next.session.view = view at session
      cases session with
      | read operation now bytes current before =>
          have view : (system.session.readView bytes).1.state = system.session.state :=
            (congrArg LinkView.state after).symm.trans same
          have waiting : system.session.state = .notSelected := by
            cases state : system.session.state with
            | notConnected => exact absurd state before
            | notSelected => rfl
            | selected => exact absurd (same.trans state) outside
          rw [waiting] at view
          simp [hidesSession, current, waiting, view, established] at visible
      | _ => cases established
    · exact silent talking

end System

/--
Communication follows the link along every run in which no read hides a selected
session with an accepted S1F13 between two NOT_SELECTED states.
-/
theorem communicating_only_while_selected (session : SessionConfig) (gem : GemConfig)
    (started : TimePoint) (api : Core.MachineApi) (inputs : List System.Input) (system : System)
    (visible : Meets System.step (fun state input => state.hidesSession input = false)
      (System.start session gem started api) inputs)
    (reached : run System.step (System.start session gem started api) inputs = some system) :
    system.handler.gem.comm = .communicating → system.session.state = .selected := by
  have holds := invariant_of_meets (fun state input => System.hidesSession state input = false)
    (fun system : System => system.Linked ∧ system.CommFollowsLink)
    (fun held met taken =>
      ⟨(System.step_link held.1 taken).1, System.commFollowsLink_step held.1 held.2 met taken⟩)
    ⟨System.linked_start session gem started api, fun talking => by cases talking⟩ visible reached
  exact holds.2

/-- Select.req, S1F13 and Deselect.req in one read leave the service communicating. -/
theorem communicating_while_not_selected :
    ∃ system, run System.step (System.start {} defaultGem 0 .fresh)
        [.accept 0, .read 0 1
          (controlBytes .selectReq 1 ++ requestBytes 1 13 2 ++ controlBytes .deselectReq 3)] =
          some system ∧
      system.handler.gem.comm = .communicating ∧ system.session.state = .notSelected :=
  ⟨_, rfl, by decide, by decide⟩

/-- Select.req and S1F13 in two reads: the service communicates, and the link is selected. -/
def establishedInputs : List System.Input :=
  [.accept 0, .read 0 1 (controlBytes .selectReq 1), .read 0 2 (requestBytes 1 13 2)]

theorem communicating_only_while_selected_established :
    ∃ system, run System.step (System.start {} defaultGem 0 .fresh) establishedInputs =
        some system ∧
      system.handler.gem.comm = .communicating ∧ system.session.state = .selected := by
  have checked : (run (guarded System.step fun state input => state.hidesSession input = false)
      (System.start {} defaultGem 0 .fresh) establishedInputs).any
        (fun system => system.handler.gem.comm = .communicating) = true := by decide +kernel
  obtain ⟨system, guarded, talking⟩ := (Option.any_eq_true _ _).mp checked
  obtain ⟨reached, visible⟩ := run_of_guarded guarded
  have talking : system.handler.gem.comm = .communicating := by simpa using talking
  exact ⟨system, reached, talking, communicating_only_while_selected {} defaultGem 0 .fresh
    establishedInputs system visible reached talking⟩

/-! ## Open requests -/

namespace System

/--
The read begins and ends in the state SELECTED, and it carries a Reject.req for an
open transaction or, while transactions are open, a Deselect.req.
-/
def hidesDrop (system : System) : Input → Bool
  | .read operation _ bytes =>
      system.server.pendingReads[operation]? = some system.server.generation &&
        system.session.state = .selected &&
        (system.session.readView bytes).1.state = .selected &&
        system.session.view.dropsAny (system.session.completed bytes)
  | _ => false

/-- The open requests of the service are the open transactions of the session. -/
def SameOpen (system : System) : Prop :=
  ∀ key, key ∈ system.handler.gem.openRequests ↔ key ∈ system.session.transactions

/-- Outside the selected state both are empty. -/
theorem sameOpen_outside {system next : System} {input : Input} (linked : system.Linked)
    (same : system.SameOpen) (link : StepLink system input next)
    (outside : next.session.state ≠ .selected) : next.SameOpen := by
  obtain ⟨linkedNext, _, deliveries, timedOut, opened, session, gem⟩ := link
  have none : opened = none := by
    generalize after : next.session.view = view at session
    cases session with
    | opened =>
        have selected : next.session.state = .selected := congrArg LinkView.state after
        exact absurd selected outside
    | _ => rfl
  intro key
  rw [linkedNext.session.openInSelected outside, gem.keys, none]
  constructor
  · rintro (impossible | ⟨kept, _, _, isOpen⟩)
    · cases impossible
    · have before : system.session.state ≠ .selected := by
        intro selected
        exact kept ⟨fun equal => outside (equal.trans selected), outside⟩
      rw [same key, linked.session.openInSelected before] at isOpen
      exact isOpen
  · intro member
    exact absurd member ExtTreeMap.not_mem_empty

theorem mem_swept {session : Session} {now : TimePoint} {key : UInt32} :
    key ∈ session.swept now ↔
      key ∉ Session.expired now session.transactions.toList ∧ key ∈ session.transactions := by
  simp only [ExtTreeMap.mem_iff_isSome_getElem?, Option.isSome_iff_exists,
    Session.swept_getElem?_eq_some, Session.mem_expired_toList]
  constructor
  · rintro ⟨deadline, isOpen, later⟩
    refine ⟨?_, deadline, isOpen⟩
    rintro ⟨other, alsoOpen, due⟩
    rw [isOpen] at alsoOpen
    exact absurd due (Int.not_le.mpr (Option.some.inj alsoOpen ▸ later))
  · rintro ⟨notDue, deadline, isOpen⟩
    exact ⟨deadline, isOpen, Int.not_le.mp fun due => notDue ⟨deadline, isOpen, due⟩⟩

theorem sameOpen_step {system next : System} {input : Input} (linked : system.Linked)
    (same : system.SameOpen) (shown : system.hidesDrop input = false)
    (taken : system.step input = some next) : next.SameOpen := by
  have link := step_link linked taken
  by_cases selected : next.session.state = .selected
  · obtain ⟨_, _, deliveries, timedOut, opened, session, gem⟩ := link
    have kept : ¬ lost system.session.state next.session.state := fun loss => loss.2 selected
    generalize after : next.session.view = view at session
    have state : view.state = .selected := by rw [← after]; exact selected
    intro key
    rw [gem.keys, same key, show next.session.transactions = view.transactions from
      congrArg LinkView.transactions after]
    cases session with
    | quiet => simp [kept]
    | connected => cases state
    | disconnected => cases state
    | swept => simp [kept, mem_swept]
    | opened _ isSelected systemBytes deadline => simp [kept, ExtTreeMap.mem_insert]
    | read operation now bytes current before =>
        by_cases already : system.session.state = .selected
        · have drops : system.session.view.dropsAny (system.session.completed bytes) = false := by
            simpa [hidesDrop, current, already, state] using shown
          rw [Session.mem_transactions_readView drops (by simp [state])]
          simp [kept]
        · -- Nothing was open before, and a read opens nothing.
          have empty := linked.session.openInSelected already
          simp only [empty, ExtTreeMap.not_mem_empty, and_false, or_false, reduceCtorEq, false_iff]
          intro member
          have earlier := Session.mem_of_mem_readView member
          rw [empty] at earlier
          exact ExtTreeMap.not_mem_empty earlier
  · exact sameOpen_outside linked same link selected

end System

theorem size_eq_of_same_keys {α β : Type} {first : ExtTreeMap UInt32 α}
    {second : ExtTreeMap UInt32 β} (same : ∀ key, key ∈ first ↔ key ∈ second) :
    first.size = second.size := by
  have perm : first.keys.Perm second.keys := by
    refine (List.perm_ext_iff_of_nodup first.nodup_keys second.nodup_keys).mpr fun key => ?_
    simp only [ExtTreeMap.mem_keys, same]
  rw [← ExtTreeMap.length_keys, ← ExtTreeMap.length_keys, perm.length_eq]

/--
The open requests are the open transactions along every run in which no read hides
the end of an open transaction that is no reply.
-/
theorem open_requests_are_transactions (session : SessionConfig) (gem : GemConfig)
    (started : TimePoint) (api : Core.MachineApi) (inputs : List System.Input) (system : System)
    (shown : Meets System.step (fun state input => state.hidesDrop input = false)
      (System.start session gem started api) inputs)
    (reached : run System.step (System.start session gem started api) inputs = some system) :
    (∀ key, key ∈ system.handler.gem.openRequests ↔ key ∈ system.session.transactions) ∧
      system.handler.gem.openRequests.size ≤ session.maxOpenTransactions := by
  obtain ⟨linked, config, same⟩ := invariant_of_meets
    (fun state input => System.hidesDrop state input = false)
    (fun system : System =>
      system.Linked ∧ system.session.config = session ∧ system.SameOpen)
    (fun held met taken =>
      ⟨(System.step_link held.1 taken).1, (System.step_link held.1 taken).2.1.trans held.2.1,
        System.sameOpen_step held.1 held.2.2 met taken⟩)
    ⟨System.linked_start session gem started api, rfl, fun key => by
      simp [System.start, GemService.fresh, System.session, Server.fresh, Session.fresh]⟩
    shown reached
  refine ⟨same, ?_⟩
  rw [size_eq_of_same_keys same, ← config]
  exact linked.session.openBounded

/-- The service communicates and has sent an event, which is open with the system bytes 1. -/
def eventInputs : List System.Input :=
  establishedInputs ++
    [.machine .fresh [.controlStateChanged .onlineLocal .onlineRemote], .task 3, .task 4, .task 5]

/-- A Reject.req for the event ends the transaction, and the service keeps the request. -/
theorem request_outlives_its_transaction :
    ∃ system, run System.step (System.start {} defaultGem 0 .fresh)
        (eventInputs ++ [.read 0 6 (controlBytes .rejectReq 1)]) = some system ∧
      1 ∈ system.handler.gem.openRequests ∧ 1 ∉ system.session.transactions := by
  have checked : (run System.step (System.start {} defaultGem 0 .fresh)
      (eventInputs ++ [.read 0 6 (controlBytes .rejectReq 1)])).any
        (fun system => (1 : UInt32) ∈ system.handler.gem.openRequests ∧
          (1 : UInt32) ∉ system.session.transactions) = true := by decide +kernel
  obtain ⟨system, reached, facts⟩ := (Option.any_eq_true _ _).mp checked
  exact ⟨system, reached, by simpa using facts⟩

/-- While the event is open, it is so on both sides. -/
theorem open_requests_are_transactions_event :
    ∃ system, run System.step (System.start {} defaultGem 0 .fresh) eventInputs = some system ∧
      1 ∈ system.session.transactions ∧ 1 ∈ system.handler.gem.openRequests := by
  have checked : (run (guarded System.step fun state input => state.hidesDrop input = false)
      (System.start {} defaultGem 0 .fresh) eventInputs).any
        (fun system => (1 : UInt32) ∈ system.session.transactions) = true := by decide +kernel
  obtain ⟨system, guarded, member⟩ := (Option.any_eq_true _ _).mp checked
  obtain ⟨reached, shown⟩ := run_of_guarded guarded
  have member : (1 : UInt32) ∈ system.session.transactions := by simpa using member
  exact ⟨system, reached, member, ((open_requests_are_transactions {} defaultGem 0 .fresh
    eventInputs system shown reached).1 1).mpr member⟩

end Ssim.Gem
