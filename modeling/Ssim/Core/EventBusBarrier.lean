import Mathlib.Data.Fintype.Basic
import Ssim.Core.EventBus
import Ssim.Library.Rundown
import Ssim.Library.Runs

/-!
# Unsubscribing as a barrier

Each subscription is a resource that publishing threads enter and that an unsubscribe takes out
of service.  The wait of an unsubscribe is a barrier unless it is skipped: by a call that no
longer finds the subscription while another call is still on its way, and by a handler that
unsubscribes itself while another thread runs it as well.
-/

set_option linter.unusedSectionVars false

namespace Ssim.Core

open Library.Rundown (Call Service Resource)
open Library.Runs (run Meets guarded run_of_guarded)

namespace BusFrame

variable {EventType : Type}

/-- What the frame does with one subscription. -/
def call (id : Nat) : BusFrame EventType → Option Call
  | .enter other _ => if other = id then some .enter else none
  | .run other _ left => if other = id then some (.inside left) else none
  | .leave other _ => if other = id then some .leave else none
  | .mark other => if other = id then some .mark else none
  | .wait other => if other = id then some .wait else none
  | .publish _ | .visit _ | .lookup _ => none

/-- The subscriptions that the frame refers to. -/
def ids : BusFrame EventType → List Nat
  | .visit pending => pending
  | .enter id pending | .run id pending _ | .leave id pending => id :: pending
  | .mark id | .wait id => [id]
  | .publish _ | .lookup _ => []

def isRun : BusFrame EventType → Bool
  | .run _ _ _ => true
  | _ => false

/-- The handler runs or is about to. -/
def calling (id : Nat) : BusFrame EventType → Bool
  | .enter other _ | .run other _ _ => other == id
  | _ => false

/-- An unsubscribe that has not returned, or the handler that it was called from. -/
def unsubscribing (id : Nat) : BusFrame EventType → Bool
  | .mark other | .wait other => other == id
  | .run other _ left => left && other == id
  | _ => false

/-- A frame that was left behind refers to what it did before. -/
theorem of_mem_leaveBehind {id : Nat} {stack : List (BusFrame EventType)}
    {frame : BusFrame EventType} (held : frame ∈ leaveBehind id stack) :
    ∃ old ∈ stack, frame.ids = old.ids ∧ frame.isRun = old.isRun := by
  obtain ⟨old, member, rfl⟩ := List.mem_map.mp held
  exact ⟨old, member, by cases old <;> exact ⟨rfl, rfl⟩⟩

theorem call_leaveBehind (id : Nat) (stack : List (BusFrame EventType)) :
    (leaveBehind id stack).filterMap (call id) =
      (stack.filterMap (call id)).map Call.leaveBehind := by
  unfold leaveBehind
  rw [List.filterMap_map, List.map_filterMap]
  refine List.filterMap_congr fun frame _ => ?_
  cases frame with
  | run other pending left =>
      by_cases own : other = id <;> simp [call, own, Call.leaveBehind]
  | enter other | leave other | mark other | wait other =>
      by_cases own : other = id <;> simp [call, own, Call.leaveBehind]
  | publish | visit | lookup => rfl

theorem call_leaveBehind_of_ne {id other : Nat} (different : id ≠ other)
    (stack : List (BusFrame EventType)) :
    (leaveBehind other stack).filterMap (call id) = stack.filterMap (call id) := by
  unfold leaveBehind
  rw [List.filterMap_map]
  refine List.filterMap_congr fun frame _ => ?_
  cases frame with
  | run runs pending left =>
      by_cases own : runs = id
      · simp [call, own, different]
      · simp [call, own]
  | _ => rfl

theorem isInside_of_isRun {stack : List (BusFrame EventType)} (nested : stack.all isRun)
    (id : Nat) : (stack.filterMap (call id)).all Call.isInside := by
  refine List.all_eq_true.mpr fun inside held => ?_
  obtain ⟨frame, member, same⟩ := List.mem_filterMap.mp held
  have runs := List.all_eq_true.mp nested frame member
  cases frame with
  | run other pending left =>
      obtain ⟨-, same⟩ := Option.ite_none_right_eq_some.mp same
      exact Option.some.inj same ▸ rfl
  | _ => cases runs

theorem eq_mark {id : Nat} {frame : BusFrame EventType} (marks : frame.call id = some .mark) :
    frame = .mark id := by
  cases frame with
  | mark other =>
      obtain ⟨rfl, -⟩ := Option.ite_none_right_eq_some.mp marks
      rfl
  | enter | run | leave | wait => cases (Option.ite_none_right_eq_some.mp marks).2
  | publish | visit | lookup => cases marks

theorem calling_of_call {id : Nat} {frame : BusFrame EventType} {call : Call}
    (same : frame.call id = some call)
    (runs : call = .enter ∨ ∃ left, call = .inside left) : frame.calling id = true := by
  cases frame with
  | enter other | run other =>
      obtain ⟨rfl, -⟩ := Option.ite_none_right_eq_some.mp same
      exact beq_self_eq_true _
  | leave other | mark other | wait other =>
      obtain ⟨-, same⟩ := Option.ite_none_right_eq_some.mp same
      cases same
      simp at runs
  | publish | visit | lookup => cases same

theorem of_not_unsubscribing {id : Nat} {frame : BusFrame EventType} {call : Call}
    (absent : frame.unsubscribing id = false) (same : frame.call id = some call) :
    call.removes = false ∧ call ≠ .inside true := by
  cases frame with
  | enter other | leave other =>
      obtain ⟨-, same⟩ := Option.ite_none_right_eq_some.mp same
      cases same
      exact ⟨rfl, Call.noConfusion⟩
  | run other pending left =>
      obtain ⟨rfl, inside⟩ := Option.ite_none_right_eq_some.mp same
      obtain rfl := Option.some.inj inside
      cases left with
      | false => exact ⟨rfl, by simp⟩
      | true => simp [unsubscribing] at absent
  | mark other | wait other =>
      obtain ⟨rfl, -⟩ := Option.ite_none_right_eq_some.mp same
      simp [unsubscribing] at absent
  | publish | visit | lookup => cases same

/-- The thread is in the handler. -/
theorem any_isInside (id : Nat) (stack : List (BusFrame EventType)) :
    (stack.filterMap (call id)).any Call.isInside = decide (id ∈ executing stack) := by
  induction stack with
  | nil => rfl
  | cons frame below ih =>
      cases frame with
      | run other pending left =>
          by_cases own : other = id
          · simp [call, executing, own, Call.isInside]
          · simpa [call, executing, own, Ne.symm own] using ih
      | enter other | leave other | mark other | wait other =>
          by_cases own : other = id
          · simpa [call, executing, own, Call.isInside] using ih
          · simpa [call, executing, own] using ih
      | publish | visit | lookup => simpa [call, executing] using ih

end BusFrame

namespace EventBus

variable {Thread EventType : Type} [DecidableEq Thread] [DecidableEq EventType]

/-! ## The barrier -/

section Barrier

variable (bus : EventBus Thread EventType)

/-- `subscribe` has returned the id. -/
def issued (id : Nat) : Prop :=
  0 < id ∧ id < bus.nextId

instance (id : Nat) : Decidable (bus.issued id) :=
  inferInstanceAs (Decidable (_ ∧ _))

/-- The next step of the thread is the return of `unsubscribe(id)`. -/
def returns (thread : Thread) (id : Nat) : Bool :=
  match bus.callStack thread with
  | .lookup other :: _ => other == id && (bus.finds id).isNone
  | .mark other :: below => other == id && (BusFrame.executing below).contains id
  | .wait other :: _ => other == id && (bus.subscribers id).running == 0
  | _ => false

/-- The next step of the thread starts a run of the handler. -/
def starts (thread : Thread) (id : Nat) : Bool :=
  match bus.callStack thread with
  | .enter other _ :: _ => other == id
  | _ => false

/-- The handler runs on no other thread, and no run of it starts any more. -/
structure Barrier (thread : Thread) (id : Nat) : Prop where
  quiet : ∀ other, other ≠ thread → id ∉ BusFrame.executing (bus.callStack other)
  ended : ∀ inputs later other, run step bus inputs = some later → later.starts other id = false

/-- What the next step of a call needs, so that no unsubscribe returns too early. -/
def unracedCall (thread : Thread) : List (BusFrame EventType) → Prop
  | .lookup id :: _ => bus.issued id → bus.finds id = none →
      ∀ other, other ≠ thread → ∀ frame ∈ bus.callStack other, frame.unsubscribing id = false
  | .mark id :: below => id ∈ BusFrame.executing below →
      ∀ other, other ≠ thread → ∀ frame ∈ bus.callStack other, frame.calling id = false
  | _ => True

/--
An unsubscribe that no longer finds the subscription comes after the one that took it out, and a
handler unsubscribes itself only when no other thread calls it.
-/
def Unraced : Thread × Action EventType → Prop
  | (thread, .advance) => bus.unracedCall thread (bus.callStack thread)
  | _ => True

instance [Fintype Thread] (thread : Thread) (stack : List (BusFrame EventType)) :
    Decidable (bus.unracedCall thread stack) :=
  match stack with
  | .lookup _ :: _ => inferInstanceAs (Decidable (_ → _))
  | .mark _ :: _ => inferInstanceAs (Decidable (_ → _))
  | [] | .publish _ :: _ | .visit _ :: _ | .enter _ _ :: _ | .run _ _ _ :: _ | .leave _ _ :: _
  | .wait _ :: _ => inferInstanceAs (Decidable True)

instance [Fintype Thread] (input : Thread × Action EventType) : Decidable (bus.Unraced input) :=
  match input with
  | (thread, .advance) => inferInstanceAs (Decidable (bus.unracedCall thread _))
  | (_, .subscribe _) | (_, .unsubscribe _) | (_, .publish _) | (_, .throw) =>
      inferInstanceAs (Decidable True)

end Barrier

/-! ## Steps -/

variable {bus next : EventBus Thread EventType} {thread : Thread} {action : Action EventType}

/-- A call begins from outside or in a handler. -/
theorem isRun_of_mayCall (may : bus.mayCall thread)
    (nested : (bus.callStack thread).tail.all BusFrame.isRun) :
    (bus.callStack thread).all BusFrame.isRun := by
  unfold mayCall at may
  split at may
  next none => rw [none]; rfl
  next id pending left below top =>
    rw [top] at nested ⊢
    rw [List.all_cons, Bool.and_eq_true]
    exact ⟨rfl, nested⟩
  next => cases may

theorem step_cases (taken : step bus (thread, action) = some next) :
    (∃ type, bus.mayCall thread ∧ next = bus.subscribe type) ∨
    (∃ frame : BusFrame EventType, frame.ids = [] ∧ (∀ id, frame.call id = none) ∧
      bus.mayCall thread ∧ next = bus.setStack thread (frame :: bus.callStack thread)) ∨
    (∃ frame below, action = .advance ∧ bus.callStack thread = frame :: below ∧
      bus.advance thread below frame = some next) ∨
    (∃ id pending left below, bus.callStack thread = .run id pending left :: below ∧
      next = bus.setStack thread (.leave id [] :: below)) := by
  cases action with
  | subscribe type =>
      obtain ⟨may, same⟩ := Option.ite_none_right_eq_some.mp taken
      exact .inl ⟨type, may, (Option.some.inj same).symm⟩
  | unsubscribe id =>
      obtain ⟨may, same⟩ := Option.ite_none_right_eq_some.mp taken
      exact .inr (.inl ⟨.lookup id, rfl, fun _ => rfl, may, (Option.some.inj same).symm⟩)
  | publish type =>
      obtain ⟨may, same⟩ := Option.ite_none_right_eq_some.mp taken
      exact .inr (.inl ⟨.publish type, rfl, fun _ => rfl, may, (Option.some.inj same).symm⟩)
  | advance =>
      unfold step at taken
      dsimp only at taken
      cases stack : bus.callStack thread with
      | nil =>
          rw [stack] at taken
          cases taken
      | cons frame below =>
          rw [stack] at taken
          exact .inr (.inr (.inl ⟨frame, below, rfl, rfl, taken⟩))
  | throw =>
      unfold step at taken
      dsimp only at taken
      cases stack : bus.callStack thread with
      | nil =>
          rw [stack] at taken
          cases taken
      | cons frame below =>
          rw [stack] at taken
          cases frame with
          | run id pending left =>
              exact .inr (.inr (.inr ⟨id, pending, left, below, rfl, (Option.some.inj taken).symm⟩))
          | _ => cases taken

/-! ## Known subscriptions -/

/-- The bus refers to issued ids only, and a thread goes on only in its last call. -/
structure Known (bus : EventBus Thread EventType) : Prop where
  positive : 0 < bus.nextId
  frames : ∀ thread, ∀ frame ∈ bus.callStack thread, ∀ id ∈ frame.ids, bus.issued id
  lists : ∀ type, ∀ id ∈ bus.listOf type, bus.issued id
  types : ∀ id type, bus.typeById id = some type → id ∈ bus.listOf type
  nested : ∀ thread, (bus.callStack thread).tail.all BusFrame.isRun

theorem Known.fresh : Known (fresh : EventBus Thread EventType) where
  positive := Nat.one_pos
  frames := by simp [EventBus.fresh]
  lists := by simp [EventBus.fresh, listOf]
  types := by simp [EventBus.fresh]
  nested := fun _ => rfl

theorem Known.setStack (known : Known bus) {stack : List (BusFrame EventType)}
    (frames : ∀ frame ∈ stack, ∀ id ∈ frame.ids, bus.issued id)
    (nested : stack.tail.all BusFrame.isRun) : Known (bus.setStack thread stack) where
  positive := known.positive
  frames := (Function.forall_update_iff bus.callStack
    fun _ stack => ∀ frame ∈ stack, ∀ id ∈ frame.ids, bus.issued id).mpr
      ⟨frames, fun other _ => known.frames other⟩
  lists := known.lists
  types := known.types
  nested := (Function.forall_update_iff bus.callStack
    fun _ stack => stack.tail.all BusFrame.isRun).mpr
      ⟨nested, fun other _ => known.nested other⟩

/-- The top frame is followed by one that refers to the same subscriptions. -/
theorem Known.replace (known : Known bus) {frame : BusFrame EventType}
    {below : List (BusFrame EventType)} (top : bus.callStack thread = frame :: below)
    (after : BusFrame EventType) (ids : ∀ id ∈ after.ids, bus.issued id) :
    Known (bus.setStack thread (after :: below)) := by
  have frames := known.frames thread
  have nested := known.nested thread
  rw [top] at frames nested
  exact known.setStack (List.forall_mem_cons.mpr ⟨ids, (List.forall_mem_cons.mp frames).2⟩) nested

/-- The top frame is done. -/
theorem Known.pop (known : Known bus) {frame : BusFrame EventType}
    {below : List (BusFrame EventType)} (top : bus.callStack thread = frame :: below) :
    Known (bus.setStack thread below) := by
  have frames := known.frames thread
  have nested := known.nested thread
  rw [top] at frames nested
  refine known.setStack (List.forall_mem_cons.mp frames).2
    (List.all_eq_true.mpr fun frame held => ?_)
  exact List.all_eq_true.mp nested frame (List.mem_of_mem_tail held)

theorem Known.leaveBehind (known : Known bus) (id : Nat) {frame : BusFrame EventType}
    {below : List (BusFrame EventType)} (top : bus.callStack thread = frame :: below) :
    Known (bus.setStack thread (BusFrame.leaveBehind id below)) := by
  have frames := known.frames thread
  have nested := known.nested thread
  rw [top] at frames nested
  refine known.setStack (fun frame held => ?_) (List.all_eq_true.mpr fun frame held => ?_)
  · obtain ⟨old, member, same, -⟩ := BusFrame.of_mem_leaveBehind held
    exact same ▸ frames old (List.mem_cons_of_mem _ member)
  · obtain ⟨old, member, -, same⟩ := BusFrame.of_mem_leaveBehind (List.mem_of_mem_tail held)
    exact same ▸ List.all_eq_true.mp nested old member

theorem Known.setSubscriber (known : Known bus) (id : Nat) (subscriber : Subscriber) :
    Known (bus.setSubscriber id subscriber) where
  positive := known.positive
  frames := known.frames
  lists := known.lists
  types := known.types
  nested := known.nested

theorem listOf_setList (bus : EventBus Thread EventType) (type : EventType) (ids : List Nat) :
    (bus.setList type ids).listOf = Function.update bus.listOf type ids := by
  funext other
  exact Function.apply_update (fun _ ids => ids.getD []) bus.subscribersByType type (some ids) other

@[simp]
theorem unlist_nextId (bus : EventBus Thread EventType) (id : Nat) :
    (bus.unlist id).nextId = bus.nextId := by
  unfold EventBus.unlist
  split <;> rfl

@[simp]
theorem unlist_subscribers (bus : EventBus Thread EventType) (id : Nat) :
    (bus.unlist id).subscribers = bus.subscribers := by
  unfold EventBus.unlist
  split <;> rfl

@[simp]
theorem unlist_callStack (bus : EventBus Thread EventType) (id : Nat) :
    (bus.unlist id).callStack = bus.callStack := by
  unfold EventBus.unlist
  split <;> rfl

@[simp]
theorem unlist_typeById (bus : EventBus Thread EventType) (id : Nat) :
    (bus.unlist id).typeById = Function.update bus.typeById id none := by
  unfold EventBus.unlist
  split
  next missing => rw [← missing, Function.update_eq_self]
  next => rfl

theorem Known.finds_eq (known : Known bus) (id : Nat) : bus.finds id = bus.typeById id := by
  unfold finds
  cases found : bus.typeById id with
  | none => rfl
  | some type => exact Option.filter_some_pos (decide_eq_true (known.types id type found))

theorem Known.issued_of_found (known : Known bus) {id : Nat} {type : EventType}
    (found : bus.typeById id = some type) : bus.issued id :=
  known.lists type id (known.types id type found)

theorem Known.unlist (known : Known bus) (id : Nat) : Known (bus.unlist id) := by
  unfold EventBus.unlist
  split
  next => exact known
  next type listed =>
    refine ⟨known.positive, known.frames, ?_, fun other kind found => ?_, known.nested⟩
    · change ∀ kind, ∀ other ∈ (bus.setList type _).listOf kind, _
      rw [listOf_setList]
      refine (Function.forall_update_iff bus.listOf
        fun _ ids => ∀ other ∈ ids, bus.issued other).mpr
          ⟨fun other held => ?_, fun kind _ => known.lists kind⟩
      exact known.lists type other (List.mem_of_mem_erase held)
    · change other ∈ (bus.setList type _).listOf kind
      change Function.update bus.typeById id none other = some kind at found
      have different : other ≠ id := by
        rintro rfl
        rw [Function.update_self] at found
        cases found
      rw [Function.update_of_ne different] at found
      have held := known.types other kind found
      rw [listOf_setList]
      by_cases same : kind = type
      · rw [same, Function.update_self]
        exact (List.mem_erase_of_ne different).mpr (same ▸ held)
      · rw [Function.update_of_ne same]
        exact held

theorem Known.subscribe (known : Known bus) (type : EventType) : Known (bus.subscribe type) := by
  have later : ∀ id, bus.issued id → (bus.subscribe type).issued id :=
    fun id issued => ⟨issued.1, Nat.lt_succ_of_lt issued.2⟩
  refine ⟨Nat.succ_pos _, fun thread frame held id refers =>
    later id (known.frames thread frame held id refers), ?_, fun id kind found => ?_, known.nested⟩
  · change ∀ kind, ∀ id ∈ (bus.setList type _).listOf kind, _
    rw [listOf_setList]
    refine (Function.forall_update_iff bus.listOf
      fun _ ids => ∀ id ∈ ids, (bus.subscribe type).issued id).mpr
        ⟨fun id held => ?_, fun kind _ id held => later id (known.lists kind id held)⟩
    rcases List.mem_append.mp held with held | held
    · exact later id (known.lists type id held)
    · rw [List.mem_singleton.mp held]
      exact ⟨known.positive, Nat.lt_succ_self _⟩
  · change id ∈ (bus.setList type _).listOf kind
    change Function.update bus.typeById bus.nextId (some type) id = some kind at found
    rw [listOf_setList]
    by_cases same : kind = type
    · rw [same, Function.update_self, List.mem_append, List.mem_singleton]
      by_cases new : id = bus.nextId
      · exact .inr new
      · rw [Function.update_of_ne new] at found
        exact .inl (same ▸ known.types id kind found)
    · have old : id ≠ bus.nextId := by
        rintro rfl
        rw [Function.update_self] at found
        exact same (Option.some.inj found).symm
      rw [Function.update_of_ne old] at found
      rw [Function.update_of_ne same]
      exact known.types id kind found

theorem Known.advance (known : Known bus) {frame : BusFrame EventType}
    {below : List (BusFrame EventType)} (top : bus.callStack thread = frame :: below)
    (taken : bus.advance thread below frame = some next) : Known next := by
  have refers : ∀ id ∈ frame.ids, bus.issued id :=
    known.frames thread frame (top ▸ List.mem_cons_self)
  cases frame with
  | publish type =>
      rw [EventBus.advance] at taken
      split at taken
      next =>
        cases taken
        exact known.pop top
      next ids found =>
        cases taken
        refine known.replace top (.visit ids) fun id held => ?_
        exact known.lists type id (by rw [listOf, found]; exact held)
  | visit pending =>
      cases pending with
      | nil =>
          cases taken
          exact known.pop top
      | cons id pending =>
          rw [EventBus.advance] at taken
          split at taken
          next =>
            cases taken
            exact known.replace top (.visit pending) fun id held =>
              refers id (List.mem_cons_of_mem _ held)
          next =>
            cases taken
            exact (known.setSubscriber id _).replace top (.enter id pending) refers
  | enter id pending =>
      cases taken
      exact known.replace top (.run id pending false) refers
  | run id pending left =>
      cases taken
      exact known.replace top (.leave id pending) refers
  | leave id pending =>
      cases taken
      exact (known.setSubscriber id _).replace top (.visit pending) fun id held =>
        refers id (List.mem_cons_of_mem _ held)
  | lookup id =>
      have unlisted := known.unlist id
      have same : (bus.unlist id).callStack thread = .lookup id :: below := by
        rw [unlist_callStack, top]
      rw [EventBus.advance] at taken
      split at taken
      next =>
        cases taken
        exact unlisted.pop same
      next type found =>
        cases taken
        rw [known.finds_eq] at found
        have issued := known.issued_of_found found
        refine unlisted.replace same (.mark id) fun other member => ?_
        rw [List.mem_singleton.mp member]
        exact ⟨issued.1, bus.unlist_nextId id ▸ issued.2⟩
  | mark id =>
      rw [EventBus.advance] at taken
      split at taken
      next =>
        cases taken
        exact (known.setSubscriber id _).leaveBehind id top
      next =>
        cases taken
        exact (known.setSubscriber id _).replace top (.wait id) refers
  | wait id =>
      obtain ⟨-, same⟩ := Option.ite_none_right_eq_some.mp taken
      cases same
      exact known.pop top

theorem Known.step (known : Known bus) (taken : step bus (thread, action) = some next) :
    Known next := by
  have frames := known.frames thread
  rcases step_cases taken with ⟨type, -, rfl⟩ | ⟨frame, none, -, may, rfl⟩ |
    ⟨frame, below, -, top, taken⟩ | ⟨id, pending, left, below, top, rfl⟩
  · exact known.subscribe type
  · refine known.setStack (List.forall_mem_cons.mpr ⟨by simp [none], frames⟩) ?_
    exact isRun_of_mayCall may (known.nested thread)
  · exact known.advance top taken
  · refine known.replace top (.leave id []) fun other held => ?_
    rw [top] at frames
    exact frames _ List.mem_cons_self other (List.mem_cons.mpr (.inl (List.mem_singleton.mp held)))

/-! ## One subscription -/

/-- The service of a subscription, by the next id and the type it is listed under. -/
def service (id nextId : Nat) (type : Option EventType) : Service :=
  if 0 < id ∧ id < nextId then if type.isSome then .offered else .withdrawn else .unknown

/-- The subscription as a resource. -/
def view (bus : EventBus Thread EventType) (id : Nat) : Resource Thread where
  service := service id bus.nextId (bus.typeById id)
  running := (bus.subscribers id).running
  removed := (bus.subscribers id).removed
  calls := fun thread => (bus.callStack thread).filterMap (BusFrame.call id)

theorem service_of_issued {id : Nat} (issued : bus.issued id) (type : Option EventType) :
    service id bus.nextId type = if type.isSome then .offered else .withdrawn :=
  if_pos issued

theorem view_setStack (stack : List (BusFrame EventType)) (id : Nat) :
    (bus.setStack thread stack).view id =
      (bus.view id).setCalls thread (stack.filterMap (BusFrame.call id)) := by
  have same : (fun other => (Function.update bus.callStack thread stack other).filterMap
      (BusFrame.call id)) = Function.update (fun other => (bus.callStack other).filterMap
        (BusFrame.call id)) thread (stack.filterMap (BusFrame.call id)) := by
    funext other
    exact Function.apply_update (fun _ => List.filterMap (BusFrame.call id)) bus.callStack thread
      stack other
  simp [view, setStack, Resource.setCalls, same]

theorem view_setSubscriber (id : Nat) (subscriber : Subscriber) :
    (bus.setSubscriber id subscriber).view id =
      { bus.view id with running := subscriber.running, removed := subscriber.removed } := by
  simp [view, setSubscriber]

theorem view_setSubscriber_of_ne {other id : Nat} (different : id ≠ other)
    (subscriber : Subscriber) : (bus.setSubscriber other subscriber).view id = bus.view id := by
  simp [view, setSubscriber, different]

theorem view_unlist_of_ne {other id : Nat} (different : id ≠ other) :
    (bus.unlist other).view id = bus.view id := by
  simp [view, different]

theorem view_unlist {id : Nat} (issued : bus.issued id) :
    (bus.unlist id).view id = { bus.view id with service := .withdrawn } := by
  simp [view, service_of_issued issued]

theorem service_succ {id nextId : Nat} (different : id ≠ nextId) (type : Option EventType) :
    service id (nextId + 1) type = service id nextId type := by
  have same : (0 < id ∧ id < nextId + 1) ↔ (0 < id ∧ id < nextId) := by omega
  simp only [service, same]

theorem view_subscribe_of_ne (type : EventType) {id : Nat} (different : id ≠ bus.nextId) :
    (bus.subscribe type).view id = bus.view id := by
  simp [view, EventBus.subscribe, setList, different, service_succ different]

theorem view_subscribe (known : Known bus) (type : EventType) :
    (bus.subscribe type).view bus.nextId =
      { bus.view bus.nextId with service := .offered, running := 0, removed := false } := by
  simp [view, EventBus.subscribe, setList, service, known.positive]

theorem view_calls {frame : BusFrame EventType} {below : List (BusFrame EventType)}
    (top : bus.callStack thread = frame :: below) (id : Nat) :
    (bus.view id).calls thread = (frame.call id).toList ++ below.filterMap (BusFrame.call id) := by
  show (bus.callStack thread).filterMap (BusFrame.call id) = _
  rw [top]
  cases same : frame.call id with
  | none => rw [List.filterMap_cons_none same]; rfl
  | some call => rw [List.filterMap_cons_some same]; rfl

/-- An id that was not issued has no calls. -/
theorem Known.calls_eq_nil (known : Known bus) {id : Nat} (unissued : ¬ bus.issued id)
    (thread : Thread) : (bus.view id).calls thread = [] := by
  refine List.filterMap_eq_nil_iff.mpr fun frame held => ?_
  have refers := known.frames thread frame held
  have absent : id ∉ frame.ids := fun member => unissued (refers id member)
  cases frame <;> simp_all [BusFrame.call, BusFrame.ids, eq_comm]

theorem stay_of_same {stack : List (BusFrame EventType)} {id : Nat}
    (same : (bus.view id).calls thread = stack.filterMap (BusFrame.call id)) :
    Resource.Step thread (bus.view id) ((bus.setStack thread stack).view id) := by
  rw [view_setStack, ← same, Resource.setCalls_self]
  exact .stay _

theorem stay_of_ne {id other : Nat} (different : id ≠ other) (subscriber : Subscriber)
    {stack : List (BusFrame EventType)}
    (same : (bus.view id).calls thread = stack.filterMap (BusFrame.call id)) :
    Resource.Step thread (bus.view id)
      (((bus.setSubscriber other subscriber).setStack thread stack).view id) := by
  rw [view_setStack, view_setSubscriber_of_ne different, ← same, Resource.setCalls_self]
  exact .stay _

section Moves

variable {below : List (BusFrame EventType)} (id : Nat)

theorem visit_view {other : Nat} {pending : List Nat}
    (top : bus.callStack thread = .visit (other :: pending) :: below)
    (nested : (below.filterMap (BusFrame.call id)).all Call.isInside)
    (taken : bus.advance thread below (.visit (other :: pending)) = some next) :
    Resource.Step thread (bus.view id) (next.view id) := by
  have calls := view_calls top id
  rw [EventBus.advance] at taken
  split at taken
  next =>
    cases taken
    exact stay_of_same calls
  next inService =>
    cases taken
    rcases eq_or_ne id other with rfl | different
    · have after : (.enter id pending :: below).filterMap (BusFrame.call id) =
          .enter :: (bus.view id).calls thread := by simp [BusFrame.call, calls]
      rw [view_setStack, view_setSubscriber, after]
      exact .enter _ (Bool.not_eq_true _ ▸ inService) (calls ▸ nested)
    · refine stay_of_ne different _ ?_
      simpa [BusFrame.call, different.symm] using calls

theorem leave_view {other : Nat} {pending : List Nat}
    (top : bus.callStack thread = .leave other pending :: below)
    (taken : bus.advance thread below (.leave other pending) = some next) :
    Resource.Step thread (bus.view id) (next.view id) := by
  have calls := view_calls top id
  have after : (.visit pending :: below).filterMap (BusFrame.call id) =
      below.filterMap (BusFrame.call id) := rfl
  cases taken
  rcases eq_or_ne id other with rfl | different
  · rw [view_setStack, view_setSubscriber, after]
    exact .leave _ _ (by simpa [BusFrame.call] using calls)
  · refine stay_of_ne different _ ?_
    rw [after]
    simpa [BusFrame.call, different.symm] using calls

/-- Steps of the handler itself. -/
theorem handler_view {frame after : BusFrame EventType}
    (top : bus.callStack thread = frame :: below)
    (move : (frame.call id = none ∧ after.call id = none) ∨
      (frame.call id = some .enter ∧ after.call id = some (.inside false)) ∨
      ∃ left, frame.call id = some (.inside left) ∧ after.call id = some .leave) :
    Resource.Step thread (bus.view id) ((bus.setStack thread (after :: below)).view id) := by
  have calls := view_calls top id
  rcases move with ⟨before, after⟩ | ⟨before, after⟩ | ⟨left, before, after⟩
  · refine stay_of_same ?_
    rw [calls, before, List.filterMap_cons_none after]
    rfl
  · rw [view_setStack, List.filterMap_cons_some after]
    exact .start _ _ (by rw [calls, before]; rfl)
  · rw [view_setStack, List.filterMap_cons_some after]
    exact .finish _ left _ (by rw [calls, before]; rfl)

theorem lookup_view (known : Known bus) {other : Nat}
    (top : bus.callStack thread = .lookup other :: below)
    (nested : (below.filterMap (BusFrame.call id)).all Call.isInside)
    (taken : bus.advance thread below (.lookup other) = some next) :
    Resource.Step thread (bus.view id) (next.view id) := by
  have calls := view_calls top id
  rw [EventBus.advance, known.finds_eq] at taken
  split at taken
  next missing =>
    cases taken
    have same : (bus.unlist other).view id = bus.view id := by
      rw [EventBus.unlist, missing]
    rw [← same] at calls ⊢
    exact stay_of_same calls
  next type found =>
    cases taken
    have issued := known.issued_of_found found
    rcases eq_or_ne id other with rfl | different
    · have after : (.mark id :: below).filterMap (BusFrame.call id) =
          .mark :: (bus.view id).calls thread := by simp [BusFrame.call, calls]
      rw [view_setStack, view_unlist issued, after]
      refine .withdraw _ ?_ (calls ▸ nested)
      show service id bus.nextId (bus.typeById id) = .offered
      rw [service_of_issued issued, found]
      rfl
    · rw [← view_unlist_of_ne different] at calls ⊢
      refine stay_of_same ?_
      simpa [BusFrame.call, different.symm] using calls

theorem mark_view {other : Nat} (top : bus.callStack thread = .mark other :: below)
    (taken : bus.advance thread below (.mark other) = some next) :
    Resource.Step thread (bus.view id) (next.view id) := by
  have calls := view_calls top id
  rw [EventBus.advance] at taken
  split at taken
  next own =>
    cases taken
    rcases eq_or_ne id other with rfl | different
    · rw [view_setStack, view_setSubscriber, BusFrame.call_leaveBehind]
      refine .markInside _ _ (by simpa [BusFrame.call] using calls) ?_
      rw [BusFrame.any_isInside, decide_eq_true_iff]
      exact own
    · refine stay_of_ne different _ ?_
      rw [BusFrame.call_leaveBehind_of_ne different]
      simpa [BusFrame.call, different.symm] using calls
  next =>
    cases taken
    rcases eq_or_ne id other with rfl | different
    · have after : (.wait id :: below).filterMap (BusFrame.call id) =
          .wait :: below.filterMap (BusFrame.call id) := by simp [BusFrame.call]
      rw [view_setStack, view_setSubscriber, after]
      exact .markOutside _ _ (by simpa [BusFrame.call] using calls)
    · refine stay_of_ne different _ ?_
      simpa [BusFrame.call, different.symm] using calls

theorem wait_view {other : Nat} (top : bus.callStack thread = .wait other :: below)
    (taken : bus.advance thread below (.wait other) = some next) :
    Resource.Step thread (bus.view id) (next.view id) := by
  have calls := view_calls top id
  obtain ⟨idle, same⟩ := Option.ite_none_right_eq_some.mp taken
  cases same
  rcases eq_or_ne id other with rfl | different
  · rw [view_setStack]
    exact .waited _ _ (by simpa [BusFrame.call] using calls) idle
  · refine stay_of_same ?_
    simpa [BusFrame.call, different.symm] using calls

theorem Known.advance_view (known : Known bus) {frame : BusFrame EventType}
    (top : bus.callStack thread = frame :: below)
    (taken : bus.advance thread below frame = some next) :
    Resource.Step thread (bus.view id) (next.view id) := by
  have nested := known.nested thread
  rw [top] at nested
  replace nested := BusFrame.isInside_of_isRun nested id
  have calls := view_calls top id
  cases frame with
  | publish type =>
      rw [EventBus.advance] at taken
      split at taken <;> cases taken <;> exact stay_of_same calls
  | visit pending =>
      cases pending with
      | nil =>
          cases taken
          exact stay_of_same calls
      | cons other pending => exact visit_view id top nested taken
  | enter other pending =>
      cases taken
      refine handler_view id top ?_
      by_cases own : other = id <;> simp [BusFrame.call, own]
  | run other pending left =>
      cases taken
      refine handler_view id top ?_
      by_cases own : other = id <;> simp [BusFrame.call, own]
  | leave other pending => exact leave_view id top taken
  | lookup other => exact lookup_view id known top nested taken
  | mark other => exact mark_view id top taken
  | wait other => exact wait_view id top taken

end Moves

/-- A step of the bus is a step of each subscription. -/
theorem Known.step_view (known : Known bus) (taken : EventBus.step bus (thread, action) = some next)
    (id : Nat) : Resource.Step thread (bus.view id) (next.view id) := by
  rcases step_cases taken with ⟨type, -, rfl⟩ | ⟨frame, -, none, -, rfl⟩ |
    ⟨frame, below, -, top, taken⟩ | ⟨other, pending, left, below, top, rfl⟩
  · by_cases new : id = bus.nextId
    · subst new
      have unissued : ¬ bus.issued bus.nextId := fun issued => Nat.lt_irrefl _ issued.2
      rw [view_subscribe known]
      exact .offer _ (if_neg unissued) (known.calls_eq_nil unissued)
    · rw [view_subscribe_of_ne type new]
      exact .stay _
  · refine stay_of_same ?_
    rw [List.filterMap_cons_none (none id)]
    rfl
  · exact known.advance_view id top taken
  · refine handler_view id top ?_
    by_cases own : other = id <;> simp [BusFrame.call, own]

/-! ## Runs -/

/-- A thread about to mark a subscription is in the middle of its unsubscribe. -/
theorem Known.top_of_mark (known : Known bus) {id : Nat} {rest : List Call}
    (calls : (bus.view id).calls thread = .mark :: rest) :
    ∃ below, bus.callStack thread = .mark id :: below ∧
      rest = below.filterMap (BusFrame.call id) := by
  have nested := known.nested thread
  cases stack : bus.callStack thread with
  | nil =>
      change (bus.callStack thread).filterMap (BusFrame.call id) = _ at calls
      rw [stack] at calls
      cases calls
  | cons frame below =>
      rw [stack] at nested
      rw [view_calls stack id] at calls
      cases same : frame.call id with
      | none =>
          -- the calls below the top are in handlers
          have inside := BusFrame.isInside_of_isRun nested id
          rw [same, Option.toList_none, List.nil_append] at calls
          rw [List.tail_cons, calls] at inside
          cases inside
      | some call =>
          rw [same, Option.toList_some, List.singleton_append] at calls
          obtain ⟨rfl, rfl⟩ := List.cons.inj calls
          exact ⟨below, by rw [BusFrame.eq_mark same], rfl⟩

theorem outside_of_not_calling {other : Thread} {id : Nat}
    (none : ∀ frame ∈ bus.callStack other, frame.calling id = false) :
    (bus.view id).Outside other where
  unentered := fun held => by
    obtain ⟨frame, member, same⟩ := List.mem_filterMap.mp held
    cases (none frame member).symm.trans (BusFrame.calling_of_call same (.inl rfl))
  uninside := fun left held => by
    obtain ⟨frame, member, same⟩ := List.mem_filterMap.mp held
    cases (none frame member).symm.trans (BusFrame.calling_of_call same (.inr ⟨left, rfl⟩))

theorem Known.alone (known : Known bus) (unraced : bus.Unraced (thread, action))
    (taken : EventBus.step bus (thread, action) = some next) (id : Nat) :
    (bus.view id).Alone thread := by
  intro rest calls inside other different
  obtain ⟨below, top, rfl⟩ := known.top_of_mark calls
  rcases step_cases taken with ⟨_, may, -⟩ | ⟨_, -, -, may, -⟩ | ⟨frame, _, rfl, -, -⟩ |
    ⟨_, _, _, _, runs, -⟩
  · rw [mayCall, top] at may
    cases may
  · rw [mayCall, top] at may
    cases may
  · rw [BusFrame.any_isInside, decide_eq_true_iff] at inside
    have call : bus.unracedCall thread (bus.callStack thread) := unraced
    rw [top] at call
    exact outside_of_not_calling (call inside other different)
  · cases top.symm.trans runs

/-- What every run keeps whose steps are not raced. -/
structure Guarded (bus : EventBus Thread EventType) : Prop where
  known : Known bus
  sound : ∀ id, (bus.view id).Sound

theorem Guarded.fresh : Guarded (fresh : EventBus Thread EventType) where
  known := .fresh
  sound := fun id => by
    have unissued : ¬ (EventBus.fresh : EventBus Thread EventType).issued id :=
      fun issued => Nat.not_lt.mpr issued.1 issued.2
    exact .unknown (if_neg unissued) rfl fun _ => rfl

theorem Guarded.step (guarded : Guarded bus) (unraced : bus.Unraced (thread, action))
    (taken : EventBus.step bus (thread, action) = some next) : Guarded next where
  known := guarded.known.step taken
  sound := fun id => (guarded.sound id).step (guarded.known.alone unraced taken id)
    (guarded.known.step_view taken id)

theorem run_guarded {inputs : List (Thread × Action EventType)}
    (meets : Meets step Unraced fresh inputs) (reached : run step fresh inputs = some bus) :
    Guarded bus :=
  Library.Runs.invariant_of_meets Unraced Guarded
    (fun guarded unraced taken => guarded.step unraced taken) .fresh meets reached

/-- No handler starts once the subscription is settled. -/
theorem Known.run_settled (known : Known bus) {id : Nat} (settled : (bus.view id).Settled)
    {inputs : List (Thread × Action EventType)} {later : EventBus Thread EventType}
    (reached : run EventBus.step bus inputs = some later) : (later.view id).Settled := by
  have kept : Known later ∧ (later.view id).Settled :=
    Library.Runs.invariant (fun bus => Known bus ∧ (bus.view id).Settled)
      (fun holds taken => ⟨holds.1.step taken, holds.2.step (holds.1.step_view taken id)⟩)
      ⟨known, settled⟩ reached
  exact kept.2

theorem starts_of_settled {id : Nat} (settled : (bus.view id).Settled) (thread : Thread) :
    bus.starts thread id = false := by
  have unentered := settled.unentered thread
  unfold starts
  split
  next other pending below top =>
    rw [view_calls top id] at unentered
    refine beq_false_of_ne fun own => unentered ?_
    simp [BusFrame.call, own]
  next => rfl

theorem not_mem_executing {id : Nat} {other : Thread}
    (outside : ∀ left, .inside left ∉ (bus.view id).calls other) :
    id ∉ BusFrame.executing (bus.callStack other) := by
  rw [← decide_eq_false_iff_not, ← BusFrame.any_isInside, List.any_eq_false]
  intro call held inside
  cases call with
  | inside left => exact outside left held
  | enter | leave | mark | wait => cases inside

/-- A settled subscription that no other thread is in. -/
theorem Known.barrier (known : Known bus) {id : Nat} (settled : (bus.view id).Settled)
    (outside : ∀ other, other ≠ thread → ∀ left, .inside left ∉ (bus.view id).calls other) :
    bus.Barrier thread id where
  quiet := fun other different => not_mem_executing (outside other different)
  ended := fun _ _ other reached => starts_of_settled (known.run_settled settled reached) other

/-! ## The three returns -/

section Returns

variable {id : Nat} {below : List (BusFrame EventType)}

theorem Guarded.settled_of_missing (guarded : Guarded bus) (issued : bus.issued id)
    (top : bus.callStack thread = .lookup id :: below) (missing : bus.typeById id = none)
    (others : ∀ other, other ≠ thread → ∀ frame ∈ bus.callStack other,
      frame.unsubscribing id = false) : (bus.view id).Settled := by
  have withdrawn : (bus.view id).service = .withdrawn := by
    show service id bus.nextId (bus.typeById id) = .withdrawn
    rw [service_of_issued issued, missing]
    rfl
  rcases (guarded.sound id).settled withdrawn with ⟨closer, removing⟩ | settled
  · obtain ⟨call, held, removes⟩ := List.any_eq_true.mp removing
    by_cases own : closer = thread
    · have nested := guarded.known.nested thread
      rw [top] at nested
      rw [own, view_calls top id] at held
      have inside := List.all_eq_true.mp (BusFrame.isInside_of_isRun nested id) call held
      cases call <;> cases removes <;> cases inside
    · obtain ⟨frame, member, same⟩ := List.mem_filterMap.mp held
      have kept := (BusFrame.of_not_unsubscribing (others closer own frame member) same).1
      cases kept.symm.trans removes
  · exact settled

theorem Guarded.outside_of_missing (settled : (bus.view id).Settled)
    (others : ∀ other, other ≠ thread → ∀ frame ∈ bus.callStack other,
      frame.unsubscribing id = false) (other : Thread) (different : other ≠ thread) (left : Bool) :
    .inside left ∉ (bus.view id).calls other := by
  cases left with
  | false => exact settled.left other
  | true =>
      intro held
      obtain ⟨frame, member, same⟩ := List.mem_filterMap.mp held
      exact (BusFrame.of_not_unsubscribing (others other different frame member) same).2 rfl

theorem Guarded.settled_of_own (guarded : Guarded bus)
    (top : bus.callStack thread = .mark id :: below) (own : id ∈ BusFrame.executing below)
    (alone : ∀ other, other ≠ thread → (bus.view id).Outside other)
    (taken : bus.advance thread below (.mark id) = some next) : (next.view id).Settled := by
  rw [EventBus.advance, if_pos own] at taken
  cases taken
  rw [view_setStack, view_setSubscriber, BusFrame.call_leaveBehind]
  refine (guarded.sound id).settled_of_markInside ?_ alone
  simpa [BusFrame.call] using view_calls top id

theorem Guarded.settled_of_idle (guarded : Guarded bus)
    (top : bus.callStack thread = .wait id :: below) (idle : (bus.subscribers id).running = 0) :
    (bus.view id).Settled := by
  have calls : (bus.view id).calls thread = .wait :: below.filterMap (BusFrame.call id) := by
    simpa [BusFrame.call] using view_calls top id
  exact (guarded.sound id).settled_of_waited calls idle

end Returns

/--
In a run whose unsubscribes are not raced, the handler runs on no other thread when an unsubscribe
returns, and no run of it starts afterwards.
-/
theorem unsubscribe_is_barrier {before : List (Thread × Action EventType)} {id : Nat}
    (meets : Meets step Unraced fresh (before ++ [(thread, .advance)]))
    (reached : run step fresh before = some bus)
    (taken : step bus (thread, .advance) = some next) (issued : bus.issued id)
    (returns : bus.returns thread id) : next.Barrier thread id := by
  have guarded := run_guarded meets.front reached
  have unraced : bus.unracedCall thread (bus.callStack thread) :=
    meets before (thread, .advance) [] bus rfl reached
  have known := guarded.known.step taken
  have moved := guarded.known.step_view taken id
  -- the calls of the other threads are those before the step
  have barrier (settled : (next.view id).Settled) (outside : ∀ other, other ≠ thread →
      ∀ left, .inside left ∉ (bus.view id).calls other) : next.Barrier thread id :=
    known.barrier settled fun other different =>
      moved.calls_of_ne different ▸ outside other different
  unfold EventBus.returns at returns
  split at returns
  next removed below top =>
    rw [Bool.and_eq_true, beq_iff_eq] at returns
    obtain ⟨rfl, missing⟩ := returns
    rw [top] at unraced
    have others := unraced issued (Option.isNone_iff_eq_none.mp missing)
    rw [guarded.known.finds_eq, Option.isNone_iff_eq_none] at missing
    have settled := guarded.settled_of_missing issued top missing others
    exact barrier (settled.step moved) (Guarded.outside_of_missing settled others)
  next removed below top =>
    rw [Bool.and_eq_true, beq_iff_eq, List.contains_iff_mem] at returns
    obtain ⟨rfl, own⟩ := returns
    rw [top] at unraced
    have alone : ∀ other, other ≠ thread → (bus.view removed).Outside other :=
      fun other different => outside_of_not_calling (unraced own other different)
    have advanced : bus.advance thread below (.mark removed) = some next := by
      rw [← taken, step]
      dsimp only
      rw [top]
    exact barrier (guarded.settled_of_own top own alone advanced) fun other different =>
      (alone other different).uninside
  next removed below top =>
    rw [Bool.and_eq_true, beq_iff_eq, beq_iff_eq] at returns
    obtain ⟨rfl, idle⟩ := returns
    exact barrier ((guarded.settled_of_idle top idle).step moved) fun other _ =>
      ((guarded.sound removed).outside_of_idle idle other).uninside
  next => cases returns

/-- A thread is in the handler while another unsubscribes it. -/
def waitedFor : List (Fin 2 × Action Unit) :=
  [(0, .subscribe ()), (1, .publish ()), (1, .advance), (1, .advance), (1, .advance),
    (0, .unsubscribe 1), (0, .advance), (0, .advance), (1, .advance), (1, .advance)]

theorem unsubscribe_is_barrier_waited :
    ∃ bus next, run step fresh waitedFor = some bus ∧ bus.issued 1 ∧ bus.returns 0 1 = true ∧
      step bus (0, .advance) = some next ∧ next.Barrier 0 1 := by
  have test : (run (guarded step Unraced) fresh waitedFor).any (fun bus =>
      decide (bus.issued 1) && bus.returns 0 1 &&
        (guarded step Unraced bus (0, .advance)).isSome) = true := by
    decide
  obtain ⟨bus, first, passed⟩ := (Option.any_eq_true _ _).mp test
  simp only [Bool.and_eq_true, decide_eq_true_iff] at passed
  obtain ⟨⟨issued, returns⟩, last⟩ := passed
  obtain ⟨next, last⟩ := Option.isSome_iff_exists.mp last
  have whole : run (guarded step Unraced) fresh (waitedFor ++ [(0, .advance)]) = some next := by
    rw [Library.Runs.run_concat, first]
    exact last
  have reached := (run_of_guarded first).1
  obtain ⟨finished, meets⟩ := run_of_guarded whole
  rw [Library.Runs.run_concat, reached] at finished
  exact ⟨bus, next, reached, issued, returns, finished,
    unsubscribe_is_barrier meets reached finished issued returns⟩

/-! ## Unsubscribes that return early -/

/-- The state before the return and the one after it, in which another thread is in the handler. -/
theorem exists_early {inputs : List (Thread × Action EventType)} {other : Thread} {id : Nat}
    (different : other ≠ thread)
    (test : (run step fresh inputs).any (fun bus =>
      decide (bus.issued id) && bus.returns thread id &&
        (step bus (thread, .advance)).any fun next =>
          (BusFrame.executing (next.callStack other)).contains id) = true) :
    ∃ bus next, run step fresh inputs = some bus ∧ bus.issued id ∧ bus.returns thread id = true ∧
      step bus (thread, .advance) = some next ∧ ¬ next.Barrier thread id := by
  obtain ⟨bus, reached, passed⟩ := (Option.any_eq_true _ _).mp test
  simp only [Bool.and_eq_true, decide_eq_true_iff] at passed
  obtain ⟨⟨issued, returns⟩, last⟩ := passed
  obtain ⟨next, taken, runs⟩ := (Option.any_eq_true _ _).mp last
  refine ⟨bus, next, reached, issued, returns, taken, fun barrier => ?_⟩
  exact barrier.quiet other different (List.contains_iff_mem.mp runs)

/-- Thread 1 is in the handler; thread 0 has taken the subscription out before thread 2 looks. -/
def secondUnsubscribe : List (Fin 3 × Action Unit) :=
  [(0, .subscribe ()), (1, .publish ()), (1, .advance), (1, .advance), (1, .advance),
    (2, .unsubscribe 1), (0, .unsubscribe 1), (0, .advance)]

/-- Threads 1 and 2 are in the handler, and thread 2 unsubscribes it there. -/
def ownUnsubscribe : List (Fin 3 × Action Unit) :=
  [(0, .subscribe ()), (1, .publish ()), (1, .advance), (1, .advance), (1, .advance),
    (2, .publish ()), (2, .advance), (2, .advance), (2, .advance), (2, .unsubscribe 1),
    (2, .advance)]

theorem unsubscribe_returns_early :
    (∃ bus next, run step fresh secondUnsubscribe = some bus ∧ bus.issued 1 ∧
      bus.returns 2 1 = true ∧ step bus (2, .advance) = some next ∧ ¬ next.Barrier 2 1) ∧
    ∃ bus next, run step fresh ownUnsubscribe = some bus ∧ bus.issued 1 ∧
      bus.returns 2 1 = true ∧ step bus (2, .advance) = some next ∧ ¬ next.Barrier 2 1 := by
  constructor
  · exact exists_early (show (1 : Fin 3) ≠ 2 by decide) (by decide)
  · exact exists_early (show (1 : Fin 3) ≠ 2 by decide) (by decide)

end EventBus

end Ssim.Core
