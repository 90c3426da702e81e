import Mathlib.Data.List.Basic
import Mathlib.Data.Multiset.Count
import Mathlib.Data.Multiset.AddSub

/-!
# Rundown of a shared resource

Threads enter a resource and leave it, and it counts who is inside.  One thread takes it out of
service: it withdraws the resource, marks it as removed, and waits until the count is zero,
except when it is inside itself.  Each thread has a stack of what it does with the resource.
-/

namespace Ssim.Library.Rundown

/-! ## Counting -/

section Tally

variable {Thread : Type*} [DecidableEq Thread]

/-- The total counts every thread as often as `count` says. -/
def Tally (total : Nat) (count : Thread → Nat) : Prop :=
  ∃ holders : Multiset Thread, holders.card = total ∧ ∀ thread, holders.count thread = count thread

theorem Tally.zero : Tally 0 (fun _ : Thread => 0) :=
  ⟨0, rfl, Multiset.count_zero⟩

theorem Tally.of_zero {count : Thread → Nat} (tally : Tally 0 count) (thread : Thread) :
    count thread = 0 := by
  obtain ⟨holders, none, counted⟩ := tally
  rw [← counted thread, Multiset.card_eq_zero.mp none, Multiset.count_zero]

theorem Tally.congr {total : Nat} {count other : Thread → Nat} (tally : Tally total count)
    (same : ∀ thread, other thread = count thread) : Tally total other := by
  obtain ⟨holders, card, counted⟩ := tally
  exact ⟨holders, card, fun thread => (counted thread).trans (same thread).symm⟩

theorem Tally.more {total : Nat} {count other : Thread → Nat} (tally : Tally total count)
    (thread : Thread) (added : other thread = count thread + 1)
    (kept : ∀ next, next ≠ thread → other next = count next) : Tally (total + 1) other := by
  obtain ⟨holders, card, counted⟩ := tally
  refine ⟨thread ::ₘ holders, by rw [Multiset.card_cons, card], fun next => ?_⟩
  by_cases same : next = thread
  · rw [same, Multiset.count_cons_self, counted, added]
  · rw [Multiset.count_cons_of_ne same, counted, kept next same]

theorem Tally.less {total : Nat} {count other : Thread → Nat} (tally : Tally total count)
    (thread : Thread) (taken : count thread = other thread + 1)
    (kept : ∀ next, next ≠ thread → other next = count next) : Tally (total - 1) other := by
  obtain ⟨holders, card, counted⟩ := tally
  have holds : thread ∈ holders := by
    rw [← Multiset.count_pos, counted, taken]
    exact Nat.succ_pos _
  refine ⟨holders.erase thread, by rw [Multiset.card_erase_of_mem holds, card]; rfl, fun next => ?_⟩
  by_cases same : next = thread
  · rw [same, Multiset.count_erase_self, counted, taken, Nat.add_sub_cancel]
  · rw [Multiset.count_erase_of_ne same, counted, kept next same]

end Tally

/-! ## The resource -/

/-- What a thread does with the resource. -/
inductive Call where
  | enter
  /-- Inside; `left` once the thread itself took the resource out of service. -/
  | inside (left : Bool)
  | leave
  | mark
  | wait
  deriving Repr, DecidableEq

namespace Call

/-- Counted by the resource. -/
def counts : Call → Bool
  | enter | inside _ | leave => true
  | mark | wait => false

def isInside : Call → Bool
  | inside _ => true
  | _ => false

/-- On the way to take the resource out of service. -/
def removes : Call → Bool
  | mark | wait => true
  | _ => false

def leaveBehind : Call → Call
  | inside _ => inside true
  | call => call

@[simp]
theorem counts_leaveBehind (call : Call) : call.leaveBehind.counts = call.counts := by
  cases call <;> rfl

@[simp]
theorem isInside_leaveBehind (call : Call) : call.leaveBehind.isInside = call.isInside := by
  cases call <;> rfl

end Call

inductive Service where
  | unknown
  | offered
  | withdrawn
  deriving Repr, DecidableEq

structure Resource (Thread : Type*) where
  service : Service
  running : Nat
  removed : Bool
  calls : Thread → List Call

namespace Resource

variable {Thread : Type*} [DecidableEq Thread]

def setCalls (resource : Resource Thread) (thread : Thread) (calls : List Call) :
    Resource Thread :=
  { resource with calls := Function.update resource.calls thread calls }

@[simp]
theorem setCalls_calls (resource : Resource Thread) (thread : Thread) (calls : List Call) :
    (resource.setCalls thread calls).calls = Function.update resource.calls thread calls :=
  rfl

@[simp]
theorem setCalls_self (resource : Resource Thread) (thread : Thread) :
    resource.setCalls thread (resource.calls thread) = resource := by
  simp [setCalls]

/-- How often the thread is counted. -/
def flights (resource : Resource Thread) (thread : Thread) : Nat :=
  (resource.calls thread).countP Call.counts

/-- The thread is taking the resource out of service. -/
def removing (resource : Resource Thread) (thread : Thread) : Bool :=
  (resource.calls thread).any Call.removes

/-- One step of the thread; what it does next is on top of its calls. -/
inductive Step (thread : Thread) : Resource Thread → Resource Thread → Prop
  | stay (resource : Resource Thread) : Step thread resource resource
  | offer (resource : Resource Thread) (unknown : resource.service = .unknown)
      (unused : ∀ other, resource.calls other = []) :
      Step thread resource { resource with service := .offered, running := 0, removed := false }
  | enter (resource : Resource Thread) (inService : resource.removed = false)
      (nested : (resource.calls thread).all Call.isInside) :
      Step thread resource
        ({ resource with running := resource.running + 1 }.setCalls thread
          (.enter :: resource.calls thread))
  | start (resource : Resource Thread) (rest : List Call)
      (top : resource.calls thread = .enter :: rest) :
      Step thread resource (resource.setCalls thread (.inside false :: rest))
  | finish (resource : Resource Thread) (left : Bool) (rest : List Call)
      (top : resource.calls thread = .inside left :: rest) :
      Step thread resource (resource.setCalls thread (.leave :: rest))
  | leave (resource : Resource Thread) (rest : List Call)
      (top : resource.calls thread = .leave :: rest) :
      Step thread resource
        ({ resource with running := resource.running - 1 }.setCalls thread rest)
  | withdraw (resource : Resource Thread) (offered : resource.service = .offered)
      (nested : (resource.calls thread).all Call.isInside) :
      Step thread resource
        ({ resource with service := .withdrawn }.setCalls thread (.mark :: resource.calls thread))
  | markInside (resource : Resource Thread) (rest : List Call)
      (top : resource.calls thread = .mark :: rest) (own : rest.any Call.isInside) :
      Step thread resource
        ({ resource with removed := true }.setCalls thread (rest.map Call.leaveBehind))
  | markOutside (resource : Resource Thread) (rest : List Call)
      (top : resource.calls thread = .mark :: rest) :
      Step thread resource ({ resource with removed := true }.setCalls thread (.wait :: rest))
  | waited (resource : Resource Thread) (rest : List Call)
      (top : resource.calls thread = .wait :: rest) (idle : resource.running = 0) :
      Step thread resource (resource.setCalls thread rest)

/-! ## What the steps preserve -/

/-- Nobody enters any more; whoever is inside has been left behind by its own thread. -/
structure Settled (resource : Resource Thread) : Prop where
  withdrawn : resource.service = .withdrawn
  removed : resource.removed = true
  unentered : ∀ thread, .enter ∉ resource.calls thread
  left : ∀ thread, .inside false ∉ resource.calls thread

structure Sound (resource : Resource Thread) : Prop where
  counted : Tally resource.running resource.flights
  nested : ∀ thread, (resource.calls thread).tail.all Call.isInside
  known : ∀ thread, resource.removing thread → resource.service = .withdrawn
  marked : ∀ thread, .wait ∈ resource.calls thread → resource.removed = true
  settled : resource.service = .withdrawn →
    (∃ thread, resource.removing thread) ∨ Settled resource

/-- The thread neither enters nor is inside. -/
structure Outside (resource : Resource Thread) (thread : Thread) : Prop where
  unentered : .enter ∉ resource.calls thread
  uninside : ∀ left, .inside left ∉ resource.calls thread

/-- A thread that marks the resource from inside is the only one there. -/
def Alone (resource : Resource Thread) (thread : Thread) : Prop :=
  ∀ rest, resource.calls thread = .mark :: rest → rest.any Call.isInside →
    ∀ other, other ≠ thread → resource.Outside other

variable {resource next : Resource Thread} {thread : Thread}

theorem Step.calls_of_ne (taken : Step thread resource next) {other : Thread}
    (different : other ≠ thread) : next.calls other = resource.calls other := by
  cases taken with
  | stay | offer => rfl
  | _ => exact Function.update_of_ne different _ _

/-- It stays settled when one thread's calls change and neither kind is among the new ones. -/
theorem Settled.update (settled : Settled resource) {calls : List Call}
    (withdrawn : next.service = .withdrawn) (removed : next.removed = true)
    (changed : next.calls = Function.update resource.calls thread calls)
    (unentered : .enter ∉ calls) (left : .inside false ∉ calls) : Settled next where
  withdrawn := withdrawn
  removed := removed
  unentered := by
    rw [changed, Function.forall_update_iff resource.calls fun _ calls => .enter ∉ calls]
    exact ⟨unentered, fun other _ => settled.unentered other⟩
  left := by
    rw [changed, Function.forall_update_iff resource.calls fun _ calls => .inside false ∉ calls]
    exact ⟨left, fun other _ => settled.left other⟩

theorem leaveBehind_ne_enter {rest : List Call} (unentered : .enter ∉ rest) :
    .enter ∉ rest.map Call.leaveBehind := by
  intro member
  obtain ⟨call, held, same⟩ := List.mem_map.mp member
  cases call with
  | enter => exact unentered held
  | inside | leave | mark | wait => cases same

theorem leaveBehind_ne_inside (rest : List Call) :
    .inside false ∉ rest.map Call.leaveBehind := by
  intro member
  obtain ⟨call, -, same⟩ := List.mem_map.mp member
  cases call <;> cases same

theorem Settled.step (settled : Settled resource) (taken : Step thread resource next) :
    Settled next := by
  have unentered := settled.unentered thread
  have left := settled.left thread
  cases taken with
  | stay => exact settled
  | offer unknown => cases unknown.symm.trans settled.withdrawn
  | enter inService => cases inService.symm.trans settled.removed
  | start rest top =>
      rw [top] at unentered
      exact absurd List.mem_cons_self unentered
  | finish _ rest top =>
      rw [top, List.mem_cons, not_or] at unentered left
      exact settled.update settled.withdrawn settled.removed rfl (by simpa using unentered.2)
        (by simpa using left.2)
  | leave rest top =>
      rw [top, List.mem_cons, not_or] at unentered left
      exact settled.update settled.withdrawn settled.removed rfl unentered.2 left.2
  | withdraw offered => cases offered.symm.trans settled.withdrawn
  | markInside rest top =>
      rw [top, List.mem_cons, not_or] at unentered
      exact settled.update settled.withdrawn rfl rfl (leaveBehind_ne_enter unentered.2)
        (leaveBehind_ne_inside rest)
  | markOutside rest top =>
      rw [top, List.mem_cons, not_or] at unentered left
      exact settled.update settled.withdrawn rfl rfl (by simpa using unentered.2)
        (by simpa using left.2)
  | waited rest top =>
      rw [top, List.mem_cons, not_or] at unentered left
      exact settled.update settled.withdrawn settled.removed rfl unentered.2 left.2

/-- What holds of the calls of every thread, and of the new calls of one. -/
theorem forall_update {property : List Call → Prop} {calls : List Call}
    (others : ∀ other, property (resource.calls other)) (own : property calls) (other : Thread) :
    property (Function.update resource.calls thread calls other) :=
  (Function.forall_update_iff resource.calls fun _ calls => property calls).mpr
    ⟨own, fun other _ => others other⟩ other

theorem Sound.step_nested (sound : Sound resource) (taken : Step thread resource next)
    (other : Thread) : (next.calls other).tail.all Call.isInside := by
  have own := sound.nested thread
  have update (calls : List Call) :=
    @forall_update _ _ resource thread (·.tail.all Call.isInside) calls sound.nested
  cases taken with
  | stay | offer => exact sound.nested other
  | enter _ nested => exact update (.enter :: resource.calls thread) nested other
  | withdraw _ nested => exact update (.mark :: resource.calls thread) nested other
  | start rest top =>
      rw [top] at own
      exact update (.inside false :: rest) own other
  | finish _ rest top =>
      rw [top] at own
      exact update (.leave :: rest) own other
  | markOutside rest top =>
      rw [top] at own
      exact update (.wait :: rest) own other
  | leave rest top | waited rest top _ =>
      rw [top, List.tail_cons] at own
      refine update rest (List.all_eq_true.mpr fun call held => ?_) other
      exact List.all_eq_true.mp own call (List.mem_of_mem_tail held)
  | markInside rest top =>
      rw [top, List.tail_cons] at own
      refine update (rest.map Call.leaveBehind) (List.all_eq_true.mpr fun call held => ?_) other
      obtain ⟨call, member, rfl⟩ := List.mem_map.mp (List.mem_of_mem_tail held)
      rw [Call.isInside_leaveBehind]
      exact List.all_eq_true.mp own call member

theorem Sound.step_known (sound : Sound resource) (taken : Step thread resource next)
    (other : Thread) : next.removing other → next.service = .withdrawn := by
  have own := sound.known thread
  unfold removing at own
  have update (calls : List Call) := @forall_update _ _ resource thread
    (·.any Call.removes → resource.service = .withdrawn) calls sound.known
  cases taken with
  | stay => exact sound.known other
  | offer _ unused => simp [removing, unused other]
  | withdraw => exact fun _ => rfl
  | enter => exact update (.enter :: resource.calls thread) own other
  | start rest top =>
      rw [top] at own
      exact update (.inside false :: rest) own other
  | finish _ rest top =>
      rw [top] at own
      exact update (.leave :: rest) own other
  | leave rest top =>
      rw [top] at own
      exact update rest own other
  | markInside rest top | markOutside rest top | waited rest top =>
      rw [top] at own
      exact update _ (fun _ => own rfl) other

theorem Sound.step_marked (sound : Sound resource) (taken : Step thread resource next)
    (other : Thread) : .wait ∈ next.calls other → next.removed = true := by
  have own := sound.marked thread
  have update (calls : List Call) := @forall_update _ _ resource thread
    (.wait ∈ · → resource.removed = true) calls sound.marked
  cases taken with
  | stay => exact sound.marked other
  | offer _ unused => simp [unused other]
  | markInside | markOutside => exact fun _ => rfl
  | enter => exact update (.enter :: resource.calls thread) (by simpa using own) other
  | withdraw => exact update (.mark :: resource.calls thread) (by simpa using own) other
  | start rest top =>
      rw [top] at own
      exact update (.inside false :: rest) (by simpa using own) other
  | finish _ rest top =>
      rw [top] at own
      exact update (.leave :: rest) (by simpa using own) other
  | leave rest top | waited rest top =>
      rw [top] at own
      exact update rest (fun held => own (List.mem_cons_of_mem _ held)) other

theorem flights_of_ne {other : Thread} {calls : List Call} (different : other ≠ thread) :
    (Function.update resource.calls thread calls other).countP Call.counts =
      resource.flights other := by
  rw [Function.update_of_ne different, flights]

theorem flights_of_same {calls : List Call}
    (same : calls.countP Call.counts = resource.flights thread) (other : Thread) :
    (Function.update resource.calls thread calls other).countP Call.counts =
      resource.flights other := by
  by_cases own : other = thread
  · rw [own, Function.update_self, same]
  · exact flights_of_ne own

theorem Sound.step_counted (sound : Sound resource) (taken : Step thread resource next) :
    Tally next.running next.flights := by
  have counted := sound.counted
  have own : resource.flights thread = (resource.calls thread).countP Call.counts := rfl
  have same (calls : List Call) := @flights_of_same _ _ resource thread calls
  cases taken with
  | stay => exact counted
  | offer _ unused => exact Tally.zero.congr fun other => by simp [flights, unused other]
  | enter =>
      refine counted.more thread ?_ fun other different => flights_of_ne different
      rw [own, flights, setCalls_calls, Function.update_self, List.countP_cons_of_pos rfl]
  | leave rest top =>
      refine counted.less thread ?_ fun other different => flights_of_ne different
      rw [own, top, flights, setCalls_calls, Function.update_self, List.countP_cons_of_pos rfl]
  | start rest top | finish _ rest top | markOutside rest top | waited rest top =>
      exact counted.congr (same _ (by rw [own, top]; rfl))
  | withdraw => exact counted.congr (same _ rfl)
  | markInside rest top =>
      refine counted.congr (same _ ?_)
      rw [own, top, List.countP_cons_of_neg Bool.false_ne_true, List.countP_map]
      simp only [Function.comp_def, Call.counts_leaveBehind]

theorem Sound.outside_of_idle (sound : Sound resource) (idle : resource.running = 0)
    (other : Thread) : resource.Outside other := by
  have counted := sound.counted
  rw [idle] at counted
  have none := List.countP_eq_zero.mp (counted.of_zero other)
  exact ⟨fun held => none .enter held rfl, fun left held => none (.inside left) held rfl⟩

theorem Sound.settled_of_waited (sound : Sound resource) {rest : List Call}
    (top : resource.calls thread = .wait :: rest) (idle : resource.running = 0) :
    Settled resource where
  withdrawn := sound.known thread (by simp [removing, top, Call.removes])
  removed := sound.marked thread (by simp [top])
  unentered := fun other => (sound.outside_of_idle idle other).unentered
  left := fun other => (sound.outside_of_idle idle other).uninside false

theorem Sound.settled_of_markInside (sound : Sound resource) {rest : List Call}
    (top : resource.calls thread = .mark :: rest)
    (alone : ∀ other, other ≠ thread → resource.Outside other) :
    Settled ({ resource with removed := true }.setCalls thread (rest.map Call.leaveBehind)) where
  withdrawn := sound.known thread (by simp [removing, top, Call.removes])
  removed := rfl
  unentered := by
    refine (Function.forall_update_iff resource.calls fun _ calls => .enter ∉ calls).mpr
      ⟨leaveBehind_ne_enter fun held => ?_,
        fun other different => (alone other different).unentered⟩
    have nested := sound.nested thread
    rw [top] at nested
    cases List.all_eq_true.mp nested .enter held
  left := by
    refine (Function.forall_update_iff resource.calls fun _ calls => .inside false ∉ calls).mpr
      ⟨leaveBehind_ne_inside rest, fun other different => (alone other different).uninside false⟩

/-- Whoever takes the resource out of service goes on to do so. -/
theorem removing_update {calls : List Call}
    (own : (resource.calls thread).any Call.removes → calls.any Call.removes)
    (removing : ∃ closer, resource.removing closer) :
    ∃ closer, (Function.update resource.calls thread calls closer).any Call.removes := by
  obtain ⟨closer, removing⟩ := removing
  refine ⟨closer, ?_⟩
  by_cases same : closer = thread
  · rw [same, Function.update_self]
    exact own (same ▸ removing)
  · rw [Function.update_of_ne same]
    exact removing

theorem Sound.step_settled (sound : Sound resource) (alone : Alone resource thread)
    (taken : Step thread resource next) (withdrawn : next.service = .withdrawn) :
    (∃ closer, next.removing closer) ∨ Settled next := by
  have before : resource.service = .withdrawn →
      (∃ closer, resource.removing closer) ∨ Settled next :=
    fun withdrawn => (sound.settled withdrawn).imp_right fun settled => settled.step taken
  cases taken with
  | stay => exact before withdrawn
  | offer => cases withdrawn
  | enter => exact (before withdrawn).imp_left (removing_update id)
  | start rest top | finish _ rest top | leave rest top | markOutside rest top =>
      exact (before withdrawn).imp_left (removing_update (by rw [top]; exact id))
  | withdraw => exact .inl ⟨thread, by simp [removing, Call.removes]⟩
  | markInside rest top own => exact .inr (sound.settled_of_markInside top (alone rest top own))
  | waited rest top idle =>
      exact .inr ((sound.settled_of_waited top idle).step (.waited resource rest top idle))

theorem Sound.step (sound : Sound resource) (alone : Alone resource thread)
    (taken : Step thread resource next) : Sound next where
  counted := sound.step_counted taken
  nested := sound.step_nested taken
  known := sound.step_known taken
  marked := sound.step_marked taken
  settled := sound.step_settled alone taken

/-- Nobody has used it yet. -/
theorem Sound.unknown {resource : Resource Thread} (unknown : resource.service = .unknown)
    (idle : resource.running = 0) (unused : ∀ thread, resource.calls thread = []) :
    Sound resource where
  counted := idle ▸ Tally.zero.congr fun thread => by simp [flights, unused thread]
  nested := fun thread => by simp [unused thread]
  known := fun thread => by simp [removing, unused thread]
  marked := fun thread => by simp [unused thread]
  settled := fun withdrawn => by cases unknown.symm.trans withdrawn

end Resource

end Ssim.Library.Rundown
