import Mathlib.Data.Fintype.Basic
import Ssim.Core.Controller
import Ssim.Library.Runs
import Ssim.Library.Toggling

/-!
# Announcements of alarms

The alarm manager as many threads call it.  A call changes the active alarms under the lock, and
publishes what it changed after it has released the lock.  The handlers of an announcement run in
the thread that publishes it, and may call the alarm manager again.
-/

namespace Ssim.Core

open Library.Runs (run Meets guarded run_of_guarded)
open Library.Toggling (Toggle alternates)

/-! ## Calls -/

namespace AlarmManager

def clear (alarms : AlarmManager) (id : AlarmId) : AlarmManager × List Effect :=
  (alarms.filter fun alarm => alarm.1 ≠ id,
    if alarms.isActive id then [.publish (.alarmCleared id)] else [])

end AlarmManager

inductive AlarmCall where
  | set (id : AlarmId) (reason : Text)
  | clear (id : AlarmId)
  /-- With the active alarms in the order the map lists them. -/
  | clearAll (listed : AlarmManager)
  deriving Repr, DecidableEq

/-- What a call does under the lock, and what it is to publish. -/
def AlarmCall.update (alarms : AlarmManager) : AlarmCall → Option (AlarmManager × List Effect)
  | .set id reason => some (alarms.set id reason)
  | .clear id => some (alarms.clear id)
  | .clearAll listed => if listed.Perm alarms then some listed.clearAll else none

namespace Event

def alarm : Event → Option AlarmId
  | .alarmSet id _ => some id
  | .alarmCleared id => some id
  | _ => none

def isSet : Event → Bool
  | .alarmSet _ _ => true
  | _ => false

end Event

/-- The events about one alarm. -/
def eventsOf (id : AlarmId) (events : List Event) : List Event :=
  events.filter fun event => event.alarm = some id

def Effect.event : Effect → Option Event
  | .publish event => some event
  | _ => none

/-! ## Threads -/

/-- An event to publish, with the number of earlier changes of its alarm. -/
structure Announcement where
  event : Event
  position : Nat
  deriving Repr, DecidableEq

/-- A call after its update; `handling` while the handlers of its last announcement run. -/
structure AlarmFrame where
  pending : List Announcement
  handling : Bool
  deriving Repr, DecidableEq

structure AlarmSystem (Thread : Type) where
  alarms : AlarmManager
  /-- How often each alarm was set or cleared. -/
  changes : AlarmId → Nat
  callStack : Thread → List AlarmFrame
  published : List Event

namespace AlarmSystem

variable {Thread : Type} [DecidableEq Thread]

def fresh : AlarmSystem Thread where
  alarms := []
  changes := fun _ => 0
  callStack := fun _ => []
  published := []

section Steps

variable (system : AlarmSystem Thread)

/-- A thread calls from outside or from a handler. -/
def mayCall (thread : Thread) : Bool :=
  match system.callStack thread with
  | [] => true
  | frame :: _ => frame.handling

def setStack (thread : Thread) (stack : List AlarmFrame) : AlarmSystem Thread :=
  { system with callStack := Function.update system.callStack thread stack }

def announcement (event : Event) : Announcement where
  event := event
  position := (event.alarm.map system.changes).getD 0

/-- The update of a call. -/
def change (thread : Thread) (alarms : AlarmManager) (effects : List Effect) :
    AlarmSystem Thread :=
  let events := effects.filterMap Effect.event
  { alarms := alarms
    changes := fun id => system.changes id + (eventsOf id events).length
    callStack := Function.update system.callStack thread
      (⟨events.map system.announcement, false⟩ :: system.callStack thread)
    published := system.published }

end Steps

inductive Action where
  | call (call : AlarmCall)
  | publish
  /-- The handlers of the last announcement are done. -/
  | handled
  | done
  deriving Repr, DecidableEq

def step (system : AlarmSystem Thread) (input : Thread × Action) : Option (AlarmSystem Thread) :=
  match input.2, system.callStack input.1 with
  | .call call, _ =>
      if system.mayCall input.1 then
        (call.update system.alarms).map fun (alarms, effects) =>
          system.change input.1 alarms effects
      else
        none
  | .publish, ⟨next :: pending, false⟩ :: below =>
      some { system.setStack input.1 (⟨pending, true⟩ :: below) with
        published := system.published ++ [next.event] }
  | .handled, ⟨pending, true⟩ :: below =>
      some (system.setStack input.1 (⟨pending, false⟩ :: below))
  | .done, ⟨[], false⟩ :: below => some (system.setStack input.1 below)
  | _, _ => none

/-! ## Order -/

/-- The announcements about an alarm: whether each says that it is set. -/
def announcementsOf (id : AlarmId) (events : List Event) : List Bool :=
  (eventsOf id events).map Event.isSet

/-- Every call has returned. -/
def Returned (system : AlarmSystem Thread) : Prop :=
  ∀ thread, system.callStack thread = []

/-- No announcement of the same alarm that is still to come is about an earlier change. -/
def oldest (system : AlarmSystem Thread) (next : Announcement) : Prop :=
  ∀ thread, ∀ frame ∈ system.callStack thread, ∀ other ∈ frame.pending,
    other.event.alarm = next.event.alarm → next.position ≤ other.position

def inOrderCall (system : AlarmSystem Thread) : List AlarmFrame → Prop
  | ⟨next :: _, _⟩ :: _ => system.oldest next
  | _ => True

/-- What is published does not overtake an announcement of the same alarm. -/
def InOrder (system : AlarmSystem Thread) : Thread × Action → Prop
  | (thread, .publish) => system.inOrderCall (system.callStack thread)
  | _ => True

section Decidable

variable [Fintype Thread] (system : AlarmSystem Thread)

instance (next : Announcement) : Decidable (system.oldest next) :=
  inferInstanceAs (Decidable (∀ _, _))

instance (stack : List AlarmFrame) : Decidable (system.inOrderCall stack) :=
  match stack with
  | ⟨next :: _, _⟩ :: _ => inferInstanceAs (Decidable (system.oldest next))
  | [] | ⟨[], _⟩ :: _ => inferInstanceAs (Decidable True)

instance (input : Thread × Action) : Decidable (system.InOrder input) :=
  match input with
  | (_, .publish) => inferInstanceAs (Decidable (system.inOrderCall _))
  | (_, .call _) | (_, .handled) | (_, .done) => inferInstanceAs (Decidable True)

end Decidable

/-- The announcements of an alarm go back and forth, and the last one is true in the end. -/
structure Truthful (system : AlarmSystem Thread) (id : AlarmId) : Prop where
  alternate : alternates true (announcementsOf id system.published) = true
  last : system.Returned →
    ((announcementsOf id system.published).getLast? = some true ↔
      system.alarms.isActive id = true)

end AlarmSystem

/-! ## What a call changes -/

/-- A call announces the alarms that it changes, each once. -/
structure Updated (alarms next : AlarmManager) (events : List Event) : Prop where
  distinct : (next.map Prod.fst).Nodup
  about : ∀ event ∈ events, ∃ id, event.alarm = some id
  changed : ∀ id, (next.isActive id = alarms.isActive id ∧ eventsOf id events = []) ∨
    ∃ event, next.isActive id = !alarms.isActive id ∧ eventsOf id events = [event] ∧
      event.isSet = next.isActive id

theorem isActive_iff (alarms : AlarmManager) (id : AlarmId) :
    alarms.isActive id = true ↔ id ∈ alarms.map Prod.fst := by
  simp [AlarmManager.isActive]

theorem Updated.set {alarms : AlarmManager} (distinct : (alarms.map Prod.fst).Nodup)
    (id : AlarmId) (reason : Text) :
    Updated alarms (alarms.set id reason).1
      ((alarms.set id reason).2.filterMap Effect.event) := by
  unfold AlarmManager.set
  split
  next active => exact ⟨distinct, by simp, fun other => .inl ⟨rfl, rfl⟩⟩
  next inactive =>
    refine ⟨?_, by simp [Effect.event, Event.alarm], fun other => ?_⟩
    · rw [isActive_iff] at inactive
      rw [List.map_append, List.map_singleton, List.nodup_append_comm]
      exact List.nodup_cons.mpr ⟨inactive, distinct⟩
    · by_cases own : id = other
      · subst own
        refine .inr ⟨.alarmSet id reason, ?_, ?_, ?_⟩
        · rw [Bool.eq_false_iff.mpr inactive]
          simp [AlarmManager.isActive]
        · simp [eventsOf, Effect.event, Event.alarm]
        · simp [AlarmManager.isActive, Event.isSet]
      · refine .inl ⟨?_, ?_⟩
        · simp [AlarmManager.isActive, own]
        · simp [eventsOf, Effect.event, Event.alarm, own]

theorem Updated.clear {alarms : AlarmManager} (distinct : (alarms.map Prod.fst).Nodup)
    (id : AlarmId) :
    Updated alarms (alarms.clear id).1 ((alarms.clear id).2.filterMap Effect.event) := by
  have others {other : AlarmId} (different : id ≠ other) :
      (alarms.clear id).1.isActive other = alarms.isActive other := by
    rw [Bool.eq_iff_iff, isActive_iff, isActive_iff]
    simp [AlarmManager.clear, Ne.symm different]
  have own : (alarms.clear id).1.isActive id = false := by
    simp [AlarmManager.clear, AlarmManager.isActive]
  have kept : ((alarms.clear id).1.map Prod.fst).Nodup :=
    (List.filter_sublist.map Prod.fst).nodup distinct
  cases active : alarms.isActive id with
  | false =>
      have events : (alarms.clear id).2.filterMap Effect.event = [] := by
        simp [AlarmManager.clear, active]
      rw [events]
      refine ⟨kept, by simp, fun other => .inl ⟨?_, rfl⟩⟩
      by_cases same : id = other
      · rw [← same, own, active]
      · exact others same
  | true =>
      have events : (alarms.clear id).2.filterMap Effect.event = [.alarmCleared id] := by
        simp [AlarmManager.clear, active, Effect.event]
      rw [events]
      refine ⟨kept, by simp [Event.alarm], fun other => ?_⟩
      by_cases same : id = other
      · subst same
        refine .inr ⟨.alarmCleared id, by rw [own, active]; rfl, ?_, own.symm⟩
        simp [eventsOf, Event.alarm]
      · exact .inl ⟨others same, by simp [eventsOf, Event.alarm, same]⟩

theorem clearAll_events (listed : AlarmManager) :
    listed.clearAll.2.filterMap Effect.event =
      (listed.map Prod.fst).map Event.alarmCleared := by
  rw [AlarmManager.clearAll, List.filterMap_map, List.map_map, ← List.filterMap_eq_map]
  rfl

theorem eventsOf_alarmCleared (ids : List AlarmId) (id : AlarmId) :
    eventsOf id (ids.map Event.alarmCleared) =
      List.replicate (ids.count id) (.alarmCleared id) := by
  induction ids with
  | nil => rfl
  | cons other ids ih =>
      by_cases same : other = id
      · rw [same, List.count_cons_self, List.replicate_succ, ← ih]
        simp [eventsOf, Event.alarm]
      · rw [List.count_cons_of_ne same, ← ih]
        simp [eventsOf, Event.alarm, same]

theorem Updated.clearAll {alarms listed : AlarmManager}
    (distinct : (alarms.map Prod.fst).Nodup) (same : listed.Perm alarms) :
    Updated alarms listed.clearAll.1 (listed.clearAll.2.filterMap Effect.event) := by
  rw [clearAll_events]
  refine ⟨List.nodup_nil, fun event held => ?_, fun id => ?_⟩
  · obtain ⟨id, -, rfl⟩ := List.mem_map.mp held
    exact ⟨id, rfl⟩
  · rw [eventsOf_alarmCleared, (same.map Prod.fst).count_eq]
    cases active : alarms.isActive id with
    | false =>
        have absent : id ∉ alarms.map Prod.fst := by
          rw [← isActive_iff, active]
          exact Bool.false_ne_true
        exact .inl ⟨rfl, by rw [List.count_eq_zero.mpr absent]; rfl⟩
    | true =>
        have once := List.count_eq_one_of_mem distinct ((isActive_iff alarms id).mp active)
        exact .inr ⟨.alarmCleared id, rfl, by rw [once]; rfl, rfl⟩

theorem AlarmCall.updated {call : AlarmCall} {alarms next : AlarmManager} {effects : List Effect}
    (distinct : (alarms.map Prod.fst).Nodup) (taken : call.update alarms = some (next, effects)) :
    Updated alarms next (effects.filterMap Effect.event) := by
  cases call with
  | set id reason =>
      obtain ⟨rfl, rfl⟩ := Prod.mk.inj (Option.some.inj taken)
      exact .set distinct id reason
  | clear id =>
      obtain ⟨rfl, rfl⟩ := Prod.mk.inj (Option.some.inj taken)
      exact .clear distinct id
  | clearAll listed =>
      obtain ⟨same, taken⟩ := Option.ite_none_right_eq_some.mp taken
      obtain ⟨rfl, rfl⟩ := Prod.mk.inj (Option.some.inj taken)
      exact .clearAll distinct same

namespace AlarmSystem

variable {Thread : Type} [DecidableEq Thread] {system next : AlarmSystem Thread} {thread : Thread}
  {action : Action}

/-! ## Steps -/

theorem step_cases (taken : step system (thread, action) = some next) :
    (∃ (call : AlarmCall) (alarms : AlarmManager) (effects : List Effect),
      call.update system.alarms = some (alarms, effects) ∧
        next = system.change thread alarms effects) ∨
    (∃ first pending below, action = .publish ∧
      system.callStack thread = ⟨first :: pending, false⟩ :: below ∧
      next = { system.setStack thread (⟨pending, true⟩ :: below) with
        published := system.published ++ [first.event] }) ∨
    (∃ pending below, system.callStack thread = ⟨pending, true⟩ :: below ∧
      next = system.setStack thread (⟨pending, false⟩ :: below)) ∨
    (∃ below, system.callStack thread = ⟨[], false⟩ :: below ∧
      next = system.setStack thread below) := by
  unfold step at taken
  dsimp only at taken
  cases action with
  | call call =>
      obtain ⟨-, taken⟩ := Option.ite_none_right_eq_some.mp taken
      obtain ⟨⟨alarms, effects⟩, updated, same⟩ := Option.map_eq_some_iff.mp taken
      exact .inl ⟨call, alarms, effects, updated, same.symm⟩
  | publish =>
      rcases stack : system.callStack thread with _ | ⟨⟨_ | ⟨first, pending⟩, _ | _⟩, below⟩ <;>
        rw [stack] at taken <;> cases taken
      exact .inr (.inl ⟨first, pending, below, rfl, rfl, rfl⟩)
  | handled =>
      rcases stack : system.callStack thread with _ | ⟨⟨pending, _ | _⟩, below⟩ <;>
        rw [stack] at taken <;> cases taken
      exact .inr (.inr (.inl ⟨pending, below, rfl, rfl⟩))
  | done =>
      rcases stack : system.callStack thread with _ | ⟨⟨_ | ⟨first, pending⟩, _ | _⟩, below⟩ <;>
        rw [stack] at taken <;> cases taken
      exact .inr (.inr (.inr ⟨below, rfl, rfl⟩))

structure Consistent (system : AlarmSystem Thread) : Prop where
  distinct : (system.alarms.map Prod.fst).Nodup
  active : ∀ id, system.alarms.isActive id = (system.changes id).bodd
  kinds : ∀ thread, ∀ frame ∈ system.callStack thread, ∀ entry ∈ frame.pending,
    entry.event.isSet = !entry.position.bodd

omit [DecidableEq Thread] in
theorem Consistent.fresh : Consistent (fresh : AlarmSystem Thread) where
  distinct := List.nodup_nil
  active := by simp [AlarmSystem.fresh, AlarmManager.isActive]
  kinds := by simp [AlarmSystem.fresh]

theorem Consistent.change (consistent : Consistent system) {alarms : AlarmManager}
    {effects : List Effect}
    (updated : Updated system.alarms alarms (effects.filterMap Effect.event)) (thread : Thread) :
    Consistent (system.change thread alarms effects) := by
  refine ⟨updated.distinct, fun id => ?_, ?_⟩
  · show alarms.isActive id =
      (system.changes id + (eventsOf id (effects.filterMap Effect.event)).length).bodd
    rcases updated.changed id with ⟨same, none⟩ | ⟨event, toggled, one, -⟩
    · rw [none, same, consistent.active]
      rfl
    · rw [one, toggled, consistent.active]
      exact (Nat.bodd_succ _).symm
  · refine (Function.forall_update_iff system.callStack fun _ stack => ∀ frame ∈ stack,
      ∀ entry ∈ frame.pending, entry.event.isSet = !entry.position.bodd).mpr
        ⟨List.forall_mem_cons.mpr ⟨fun entry held => ?_, consistent.kinds thread⟩,
          fun other _ => consistent.kinds other⟩
    obtain ⟨event, member, rfl⟩ := List.mem_map.mp held
    obtain ⟨id, about⟩ := updated.about event member
    have held : event ∈ eventsOf id (effects.filterMap Effect.event) :=
      List.mem_filter.mpr ⟨member, decide_eq_true about⟩
    rcases updated.changed id with ⟨-, none⟩ | ⟨other, toggled, one, kind⟩
    · rw [none] at held
      cases held
    · rw [one, List.mem_singleton] at held
      rw [announcement, held, kind, toggled, consistent.active, ← held, about]
      rfl

/-- Nothing is pending that was not. -/
theorem Consistent.setStack (consistent : Consistent system) {stack : List AlarmFrame}
    (fewer : ∀ frame ∈ stack, ∀ entry ∈ frame.pending,
      ∃ before ∈ system.callStack thread, entry ∈ before.pending) (published : List Event) :
    Consistent { system.setStack thread stack with published := published } := by
  refine ⟨consistent.distinct, consistent.active, ?_⟩
  refine (Function.forall_update_iff system.callStack fun _ stack => ∀ frame ∈ stack,
    ∀ entry ∈ frame.pending, entry.event.isSet = !entry.position.bodd).mpr
      ⟨fun frame held entry member => ?_, fun other _ => consistent.kinds other⟩
  obtain ⟨before, old, pending⟩ := fewer frame held entry member
  exact consistent.kinds thread before old entry pending

theorem Consistent.step (consistent : Consistent system)
    (taken : step system (thread, action) = some next) : Consistent next := by
  rcases step_cases taken with ⟨call, alarms, effects, updated, rfl⟩ |
    ⟨first, pending, below, -, top, rfl⟩ | ⟨pending, below, top, rfl⟩ | ⟨below, top, rfl⟩
  · exact consistent.change (call.updated consistent.distinct updated) thread
  · refine consistent.setStack (fun frame held entry member => ?_) _
    rw [top]
    rcases List.mem_cons.mp held with rfl | held
    · exact ⟨_, List.mem_cons_self, List.mem_cons_of_mem _ member⟩
    · exact ⟨frame, List.mem_cons_of_mem _ held, member⟩
  · refine consistent.setStack (fun frame held entry member => ?_) _
    rw [top]
    rcases List.mem_cons.mp held with rfl | held
    · exact ⟨_, List.mem_cons_self, member⟩
    · exact ⟨frame, List.mem_cons_of_mem _ held, member⟩
  · refine consistent.setStack (fun frame held entry member => ?_) _
    rw [top]
    exact ⟨frame, List.mem_cons_of_mem _ held, member⟩

/-! ## One alarm -/

/-- The announcements of an alarm that a thread has to make, by their changes. -/
def pendingOf (id : AlarmId) (stack : List AlarmFrame) : List Nat :=
  ((stack.flatMap AlarmFrame.pending).filter fun entry => entry.event.alarm = some id).map
    Announcement.position

def toggle (system : AlarmSystem Thread) (id : AlarmId) : Toggle Thread where
  changes := system.changes id
  pending := fun thread => pendingOf id (system.callStack thread)
  announced := announcementsOf id system.published

theorem pending_setStack (system : AlarmSystem Thread) (id : AlarmId) (thread : Thread)
    (stack : List AlarmFrame) :
    (fun other => pendingOf id (Function.update system.callStack thread stack other)) =
      Function.update (system.toggle id).pending thread (pendingOf id stack) := by
  funext other
  exact Function.apply_update (fun _ => pendingOf id) system.callStack thread stack other

theorem pendingOf_cons (id : AlarmId) (frame : AlarmFrame) (below : List AlarmFrame) :
    pendingOf id (frame :: below) =
      (frame.pending.filter fun entry => entry.event.alarm = some id).map Announcement.position ++
        pendingOf id below := by
  simp [pendingOf]

omit [DecidableEq Thread] in
theorem pendingOf_announcements (events : List Event) (id : AlarmId) :
    ((events.map system.announcement).filter fun entry => entry.event.alarm = some id).map
      Announcement.position = (eventsOf id events).map fun _ => system.changes id := by
  rw [List.filter_map, List.map_map]
  refine List.map_congr_left fun event held => ?_
  have about : event.alarm = some id := of_decide_eq_true (List.mem_filter.mp held).2
  show (event.alarm.map system.changes).getD 0 = system.changes id
  rw [about, Option.map_some, Option.getD_some]

theorem change_toggle {alarms : AlarmManager} {effects : List Effect}
    (updated : Updated system.alarms alarms (effects.filterMap Effect.event)) (id : AlarmId) :
    Toggle.Step thread (system.toggle id) ((system.change thread alarms effects).toggle id) := by
  have pending := system.pending_setStack id thread
    (⟨(effects.filterMap Effect.event).map system.announcement, false⟩ ::
      system.callStack thread)
  rw [pendingOf_cons, pendingOf_announcements] at pending
  rcases updated.changed id with ⟨-, none⟩ | ⟨event, -, one, -⟩
  · rw [none] at pending
    have same : (system.change thread alarms effects).toggle id = system.toggle id := by
      refine Toggle.ext ?_ (pending.trans (Function.update_eq_self _ _)) rfl
      show system.changes id + (eventsOf id (effects.filterMap Effect.event)).length = _
      rw [none]
      rfl
    rw [same]
    exact .stay _
  · rw [one] at pending
    have same : (system.change thread alarms effects).toggle id =
        (system.toggle id).change thread := by
      refine Toggle.ext ?_ pending rfl
      show system.changes id + (eventsOf id (effects.filterMap Effect.event)).length = _
      rw [one]
      rfl
    rw [same]
    exact .change _

/-- A step that neither changes nor publishes anything about the alarm. -/
theorem stay_of_pending {stack : List AlarmFrame} {published : List Event} {id : AlarmId}
    (same : pendingOf id stack = (system.toggle id).pending thread)
    (announced : announcementsOf id published = announcementsOf id system.published) :
    Toggle.Step thread (system.toggle id)
      ({ system.setStack thread stack with published := published }.toggle id) := by
  have pending := system.pending_setStack id thread stack
  rw [same, Function.update_eq_self] at pending
  have unchanged : { system.setStack thread stack with published := published }.toggle id =
      system.toggle id := Toggle.ext rfl pending announced
  rw [unchanged]
  exact .stay _

omit [DecidableEq Thread] in
theorem oldest.position_le {first : Announcement} (oldest : system.oldest first) {id : AlarmId}
    (about : first.event.alarm = some id) (other : Thread) :
    ∀ older ∈ (system.toggle id).pending other, first.position ≤ older := by
  intro older held
  obtain ⟨entry, member, rfl⟩ := List.mem_map.mp held
  obtain ⟨member, same⟩ := List.mem_filter.mp member
  obtain ⟨frame, framed, pending⟩ := List.mem_flatMap.mp member
  exact oldest other frame framed entry pending ((of_decide_eq_true same).trans about.symm)

theorem Consistent.publish_toggle (consistent : Consistent system) {first : Announcement}
    {pending : List Announcement} {below : List AlarmFrame}
    (top : system.callStack thread = ⟨first :: pending, false⟩ :: below)
    (oldest : system.oldest first) (id : AlarmId) :
    Toggle.Step thread (system.toggle id)
      ({ system.setStack thread (⟨pending, true⟩ :: below) with
        published := system.published ++ [first.event] }.toggle id) := by
  have before : (system.toggle id).pending thread =
      pendingOf id (⟨first :: pending, false⟩ :: below) := by
    rw [← top]
    rfl
  by_cases about : first.event.alarm = some id
  · have kind : first.event.isSet = !first.position.bodd :=
      consistent.kinds thread _ (top ▸ List.mem_cons_self) first List.mem_cons_self
    have next : (system.toggle id).pending thread =
        first.position :: pendingOf id (⟨pending, true⟩ :: below) := by
      rw [before, pendingOf_cons, pendingOf_cons, List.filter_cons_of_pos (by simpa using about)]
      rfl
    have announced : announcementsOf id (system.published ++ [first.event]) =
        announcementsOf id system.published ++ [!first.position.bodd] := by
      simp [announcementsOf, eventsOf, about, kind]
    have same : { system.setStack thread (⟨pending, true⟩ :: below) with
        published := system.published ++ [first.event] }.toggle id =
          (system.toggle id).announce thread first.position
            (pendingOf id (⟨pending, true⟩ :: below)) :=
      Toggle.ext rfl (system.pending_setStack id thread _) announced
    rw [same]
    exact .announce _ _ _ next (oldest.position_le about)
  · refine stay_of_pending ?_ ?_
    · rw [before, pendingOf_cons, pendingOf_cons, List.filter_cons_of_neg (by simpa using about)]
    · simp [announcementsOf, eventsOf, about]

theorem Consistent.step_toggle (consistent : Consistent system)
    (inOrder : system.InOrder (thread, action))
    (taken : AlarmSystem.step system (thread, action) = some next) (id : AlarmId) :
    Toggle.Step thread (system.toggle id) (next.toggle id) := by
  rcases step_cases taken with ⟨call, alarms, effects, updated, rfl⟩ |
    ⟨first, pending, below, rfl, top, rfl⟩ | ⟨pending, below, top, rfl⟩ | ⟨below, top, rfl⟩
  · exact change_toggle (call.updated consistent.distinct updated) id
  · have oldest : system.inOrderCall (system.callStack thread) := inOrder
    rw [top] at oldest
    exact consistent.publish_toggle top oldest id
  · refine stay_of_pending ?_ rfl
    show _ = pendingOf id (system.callStack thread)
    rw [top]
    rfl
  · refine stay_of_pending ?_ rfl
    show _ = pendingOf id (system.callStack thread)
    rw [top]
    rfl

/-! ## Runs -/

structure Tracked (system : AlarmSystem Thread) : Prop where
  consistent : Consistent system
  ordered : ∀ id, (system.toggle id).Ordered

theorem run_tracked {inputs : List (Thread × Action)} (meets : Meets step InOrder fresh inputs)
    (reached : run step fresh inputs = some system) : Tracked system :=
  Library.Runs.invariant_of_meets InOrder Tracked
    (fun tracked inOrder taken => ⟨tracked.consistent.step taken, fun id =>
      (tracked.ordered id).step (tracked.consistent.step_toggle inOrder taken id)⟩)
    ⟨.fresh, fun _ => .initial⟩ meets reached

/--
In a run in which no announcement overtakes an older one of the same alarm, the announcements of
each alarm alternate from set on, and once all calls have returned the last one says whether the
alarm is active.
-/
theorem announcements_are_truthful {inputs : List (Thread × Action)}
    (meets : Meets step InOrder fresh inputs) (reached : run step fresh inputs = some system)
    (id : AlarmId) : system.Truthful id := by
  obtain ⟨consistent, ordered⟩ := run_tracked meets reached
  refine ⟨(ordered id).alternate, fun returned => ?_⟩
  rw [consistent.active]
  refine (ordered id).last fun thread => ?_
  show pendingOf id (system.callStack thread) = []
  rw [returned thread]
  rfl

/-- A second thread clears the alarm before the first has announced it, and announces that later. -/
def clearedInOrder : List (Bool × Action) :=
  [(false, .call (.set .scanStall [83])), (true, .call (.clear .scanStall)), (false, .publish),
    (true, .publish), (true, .handled), (true, .done), (false, .handled), (false, .done)]

theorem announcements_are_truthful_cleared :
    ∃ system, run step fresh clearedInOrder = some system ∧
      announcementsOf .scanStall system.published = [true, false] ∧
      system.Truthful .scanStall := by
  have test : (run (guarded step InOrder) fresh clearedInOrder).any (fun system =>
      announcementsOf .scanStall system.published == [true, false]) = true := by
    decide
  obtain ⟨system, taken, passed⟩ := (Option.any_eq_true _ _).mp test
  obtain ⟨reached, meets⟩ := run_of_guarded taken
  exact ⟨system, reached, beq_iff_eq.mp passed, announcements_are_truthful meets reached _⟩

/-- A second thread clears the alarm and announces that before the first has announced it. -/
def overtaken : List (Bool × Action) :=
  [(false, .call (.set .scanStall [83])), (true, .call (.clear .scanStall)), (true, .publish),
    (true, .handled), (true, .done), (false, .publish), (false, .handled), (false, .done)]

/-- All calls have returned, the last announcement says set, and the alarm is not active. -/
theorem announcement_overtaken :
    ∃ system, run step fresh overtaken = some system ∧ system.Returned ∧
      announcementsOf .scanStall system.published = [false, true] ∧
      system.alarms.isActive .scanStall = false ∧ ¬ system.Truthful .scanStall := by
  have test : (run step fresh overtaken).any (fun system =>
      (system.callStack false).isEmpty && (system.callStack true).isEmpty &&
        announcementsOf .scanStall system.published == [false, true] &&
          !system.alarms.isActive .scanStall) = true := by
    decide
  obtain ⟨system, reached, passed⟩ := (Option.any_eq_true _ _).mp test
  simp only [Bool.and_eq_true, List.isEmpty_iff, beq_iff_eq, Bool.not_eq_true'] at passed
  obtain ⟨⟨⟨first, second⟩, announced⟩, inactive⟩ := passed
  have returned : system.Returned := Bool.forall_bool.mpr ⟨first, second⟩
  refine ⟨system, reached, returned, announced, inactive, fun truthful => ?_⟩
  have alternate := truthful.alternate
  rw [announced] at alternate
  cases alternate

end AlarmSystem

end Ssim.Core
