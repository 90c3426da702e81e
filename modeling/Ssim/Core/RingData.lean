import Mathlib.Data.List.ReduceOption
import Ssim.Core.RingQueue
import Ssim.Library.RingIndex
import Ssim.Library.Runs

/-!
# The items in the ring

What the producer and the consumer do to the slots and the indices, without the parking.  The
indices count the accepted and the taken items, and a window of the ring holds what lies between
them.
-/

namespace Ssim.Core

open Library.RingIndex (Ones Window slot)

/-! ## The size of the ring -/

theorem toNat_two_pow {exponent : Nat} (small : exponent ≤ 63) :
    (UInt64.ofNat (2 ^ exponent)).toNat = 2 ^ exponent := by
  rw [UInt64.toNat_ofNat']
  exact Nat.mod_eq_of_lt (Nat.pow_lt_pow_right (by decide) (Nat.lt_succ_of_le small))

theorem two_pow_double (exponent : Nat) :
    UInt64.ofNat (2 ^ exponent) <<< 1 = UInt64.ofNat (2 ^ (exponent + 1)) := by
  apply UInt64.toNat_inj.mp
  rw [UInt64.toNat_shiftLeft, UInt64.toNat_ofNat', UInt64.toNat_ofNat', Nat.shiftLeft_eq,
    Nat.pow_succ]
  exact Nat.mod_mul_mod (2 ^ exponent) 2 (2 ^ 64)

theorem roundUp_eq_some {n : UInt64} (bounded : n.toNat ≤ 2 ^ 63) {fuel exponent : Nat}
    (small : exponent ≤ 63) (enough : 63 < fuel + exponent) :
    ∃ bits ≤ 63, roundUp fuel (UInt64.ofNat (2 ^ exponent)) n = some (UInt64.ofNat (2 ^ bits)) ∧
      n.toNat ≤ 2 ^ bits := by
  induction fuel generalizing exponent with
  | zero => omega
  | succ fuel ih =>
      unfold roundUp
      split
      next less =>
        have below : 2 ^ exponent < 2 ^ 63 := by
          have less := UInt64.lt_iff_toNat_lt.mp less
          rw [toNat_two_pow small] at less
          omega
        have grows : exponent < 63 := (Nat.pow_lt_pow_iff_right (by decide)).mp below
        rw [two_pow_double]
        exact ih grows (by omega)
      next reached =>
        refine ⟨exponent, small, rfl, ?_⟩
        rw [← toNat_two_pow small]
        exact UInt64.le_iff_toNat_le.mp (UInt64.not_lt.mp reached)

/-- No power of two in 64 bits reaches the number, and zero does not either. -/
theorem roundUp_eq_none {n : UInt64} (large : 2 ^ 63 < n.toNat) {fuel exponent : Nat}
    (short : fuel + exponent ≤ 65) : roundUp fuel (UInt64.ofNat (2 ^ exponent)) n = none := by
  induction fuel generalizing exponent with
  | zero => rfl
  | succ fuel ih =>
      have less : UInt64.ofNat (2 ^ exponent) < n := by
        apply UInt64.lt_iff_toNat_lt.mpr
        rcases Nat.lt_or_ge 63 exponent with top | small
        · obtain rfl : exponent = 64 := by omega
          exact Nat.lt_of_le_of_lt (by decide) large
        · rw [toNat_two_pow small]
          exact Nat.lt_of_le_of_lt (Nat.pow_le_pow_right (by decide) small) large
      rw [roundUp, if_pos less, two_pow_double]
      exact ih (by omega)

namespace Ring

variable {α : Type}

/-- The ring has a slot for every item of its capacity. -/
structure Shape (capacity mask : UInt64) : Prop where
  ones : ∃ bits, Ones mask bits
  small : mask.toNat < 2 ^ 63
  fits : capacity.toNat ≤ mask.toNat + 1

def empty (capacity mask : UInt64) : Ring α :=
  ⟨capacity, mask, fun _ => none, 0, 0, 0, 0⟩

theorem fresh_eq_some {capacity : UInt64} (bounded : capacity.toNat ≤ 2 ^ 63) :
    ∃ mask, Ring.fresh capacity = some (empty (max 1 capacity) mask : Ring α) ∧
      Shape (max 1 capacity) mask := by
  have fits : (max 1 capacity).toNat ≤ 2 ^ 63 := by
    change (if 1 ≤ capacity then capacity else 1).toNat ≤ 2 ^ 63
    split
    · exact bounded
    · decide
  obtain ⟨bits, small, rounded, reaches⟩ :=
    roundUp_eq_some fits (Nat.zero_le 63) (show 63 < 65 + 0 by decide)
  have top : 2 ^ bits ≤ 2 ^ 63 := Nat.pow_le_pow_right (by decide) small
  have mask : (UInt64.ofNat (2 ^ bits) - 1).toNat + 1 = 2 ^ bits := by
    have size :=
      Library.RingIndex.toNat_sub Nat.one_le_two_pow (show 2 ^ bits - 1 < 2 ^ 64 by omega)
    rw [show (1 : UInt64) = UInt64.ofNat 1 from rfl, size]
    exact Nat.sub_add_cancel Nat.one_le_two_pow
  refine ⟨UInt64.ofNat (2 ^ bits) - 1, ?_, ⟨bits, mask, by omega⟩, by omega, by omega⟩
  simp only [Ring.fresh, roundUpToPowerOfTwo]
  rw [show (1 : UInt64) = UInt64.ofNat (2 ^ 0) from rfl] at rounded ⊢
  rw [rounded]
  rfl

/-- The constructor of a ring that is too large does not return. -/
theorem fresh_eq_none {capacity : UInt64} (large : 2 ^ 63 < capacity.toNat) :
    (Ring.fresh capacity : Option (Ring α)) = none := by
  have least : max 1 capacity = capacity :=
    if_pos (UInt64.le_iff_toNat_le.mpr (Nat.le_of_lt (Nat.lt_of_le_of_lt (by decide) large)))
  have never := roundUp_eq_none large (show 65 + 0 ≤ 65 by decide)
  simp only [Ring.fresh, least, roundUpToPowerOfTwo]
  rw [show (1 : UInt64) = UInt64.ofNat (2 ^ 0) from rfl, never]
  rfl

theorem shape_of_fresh {capacity : UInt64} {ring : Ring α}
    (made : Ring.fresh capacity = some ring) :
    ∃ mask, ring = empty (max 1 capacity) mask ∧ Shape (max 1 capacity) mask := by
  rcases Nat.lt_or_ge (2 ^ 63) capacity.toNat with large | bounded
  · rw [fresh_eq_none large] at made
    cases made
  · obtain ⟨mask, returned, shape⟩ := fresh_eq_some (α := α) bounded
    exact ⟨mask, Option.some.inj (made.symm.trans returned), shape⟩

end Ring

/-! ## Phases -/

inductive PushPhase (α : Type) where
  | resting
  /-- A slot was found free. -/
  | free (item : α)
  | placed (item : α)
  /-- The head is stored, and the push has not returned. -/
  | announced (item : α)

inductive PopPhase (α : Type) where
  | resting
  | ready
  | found (item : α)
  | emptied (item : α)
  /-- The tail is stored, and the pop has not returned. -/
  | holding (item : α)

variable {α : Type}

def PushPoint.phase (item : α) : PushPoint → PushPhase α
  | .emplace _ => .free item
  | .storeHead _ => .placed item
  | .unlockPushed | .wakeLoad | .wakeLock | .wakeUnlock | .wakeNotify => .announced item
  | _ => .resting

def Producer.phase : Producer α → PushPhase α
  | .idle => .resting
  | .pushing point item => point.phase item

@[simp]
theorem Producer.phase_idle : (Producer.idle : Producer α).phase = .resting :=
  rfl

@[simp]
theorem Producer.phase_pushing (point : PushPoint) (item : α) :
    (Producer.pushing point item).phase = point.phase item :=
  rfl

def PopPoint.phase : PopPoint α → PopPhase α
  | .moveSlot _ => .ready
  | .resetSlot _ item => .found item
  | .storeTail _ item => .emptied item
  | .unlockPopped item | .wakeLoad item | .wakeLock item | .wakeUnlock item
  | .wakeNotify item => .holding item
  | _ => .resting

def Consumer.phase : Consumer α → PopPhase α
  | .idle => .resting
  | .popping point => point.phase

@[simp]
theorem Consumer.phase_idle : (Consumer.idle : Consumer α).phase = .resting :=
  rfl

@[simp]
theorem Consumer.phase_popping (point : PopPoint α) :
    (Consumer.popping point).phase = point.phase :=
  rfl

/-- What is in a slot before the head is stored. -/
def PushPhase.unseen : PushPhase α → List α
  | .placed item => [item]
  | _ => []

def PushPhase.unanswered : PushPhase α → List α
  | .announced item => [item]
  | _ => []

/-- The slots that are empty before the tail is stored. -/
def PopPhase.removed : PopPhase α → Nat
  | .emptied _ => 1
  | _ => 0

/-- The consumer has seen an item, and its slot is full. -/
def PopPhase.reading : PopPhase α → Bool
  | .ready | .found _ => true
  | _ => false

def PopPhase.unanswered : PopPhase α → List α
  | .holding item => [item]
  | _ => []

/-! ## Views -/

structure RingView (α : Type) where
  ring : Ring α
  accepted : List α
  taken : List α
  pushes : List (α × Bool)
  pops : List (Option α)
  producer : PushPhase α
  consumer : PopPhase α

def RingQueue.view (queue : RingQueue α) : RingView α where
  ring := queue.ring
  accepted := queue.accepted
  taken := queue.taken
  pushes := queue.pushes
  pops := queue.pops
  producer := queue.producer.phase
  consumer := queue.consumer.phase

/-- The items whose push returned `true`. -/
def granted (pushes : List (α × Bool)) : List α :=
  pushes.filterMap fun push => if push.2 then some push.1 else none

namespace RingView

inductive Step (view : RingView α) : RingView α → Prop where
  | stutter : Step view view
  | full : view.producer = .resting → Step view { view with ring := view.ring.loadTail }
  | room (item : α) (ring : Ring α) : view.producer = .resting →
      ring = view.ring ∨ ring = view.ring.loadTail → ring.looksFull = false →
      Step view { view with ring := ring, producer := .free item }
  | emplace (item : α) : view.producer = .free item →
      Step view { view with ring := view.ring.emplace item, producer := .placed item }
  | storeHead (item : α) : view.producer = .placed item →
      Step view { view with
        ring := view.ring.storeHead
        accepted := view.accepted ++ [item]
        producer := .announced item }
  | pushed (item : α) : view.producer = .announced item →
      Step view { view with producer := .resting, pushes := view.pushes ++ [(item, true)] }
  | refused (item : α) : view.producer = .resting →
      Step view { view with pushes := view.pushes ++ [(item, false)] }
  | empty : view.consumer = .resting → Step view { view with ring := view.ring.loadHead }
  | ready (ring : Ring α) : view.consumer = .resting →
      ring = view.ring ∨ ring = view.ring.loadHead → ring.looksEmpty = false →
      Step view { view with ring := ring, consumer := .ready }
  | found (item : α) : view.consumer = .ready → view.ring.front = some item →
      Step view { view with consumer := .found item }
  | reset (item : α) : view.consumer = .found item →
      Step view { view with ring := view.ring.reset, consumer := .emptied item }
  | storeTail (item : α) : view.consumer = .emptied item →
      Step view { view with
        ring := view.ring.storeTail
        taken := view.taken ++ [item]
        consumer := .holding item }
  | popped (item : α) : view.consumer = .holding item →
      Step view { view with consumer := .resting, pops := view.pops ++ [some item] }
  | nothing : view.consumer = .resting → Step view { view with pops := view.pops ++ [none] }

/-- The indices count the items, and the slots hold what lies between them. -/
structure Consistent (view : RingView α) : Prop where
  shape : Ring.Shape view.ring.capacity view.ring.mask
  head : view.ring.head = UInt64.ofNat view.accepted.length
  tail : view.ring.tail = UInt64.ofNat view.taken.length
  order : view.taken <+: view.accepted
  /-- The producer's copy is at most old, and leaves no more room than there is. -/
  cachedTail : ∃ seen ≤ view.taken.length, view.ring.cachedTail = UInt64.ofNat seen ∧
    view.accepted.length + view.producer.unseen.length ≤ seen + view.ring.capacity.toNat
  /-- The consumer's copy is at most old. -/
  cachedHead : ∃ seen ≤ view.accepted.length, view.ring.cachedHead = UInt64.ofNat seen ∧
    view.taken.length + view.consumer.removed ≤ seen
  window : Window view.ring.mask view.ring.slots (view.taken.length + view.consumer.removed)
    (view.accepted ++ view.producer.unseen)
  free : ∀ item, view.producer = .free item → view.ring.looksFull = false
  reading : view.consumer.reading = true → view.ring.looksEmpty = false
  found : ∀ item, view.consumer = .found item ∨ view.consumer = .emptied item →
    view.accepted[view.taken.length]? = some item
  granted : granted view.pushes ++ view.producer.unanswered = view.accepted
  received : view.pops.reduceOption ++ view.consumer.unanswered = view.taken

namespace Consistent

variable {view : RingView α} (holds : Consistent view)

include holds

theorem taken_le : view.taken.length ≤ view.accepted.length :=
  holds.order.length_le

theorem accepted_le :
    view.accepted.length + view.producer.unseen.length ≤
      view.taken.length + view.ring.capacity.toNat := by
  obtain ⟨seen, old, -, room⟩ := holds.cachedTail
  omega

theorem capacity_le : view.ring.capacity.toNat ≤ 2 ^ 63 := by
  have small := holds.shape.small
  have fits := holds.shape.fits
  omega

theorem head_slot :
    view.ring.head &&& view.ring.mask = slot view.ring.mask view.accepted.length := by
  rw [holds.head]
  rfl

theorem tail_slot : view.ring.tail &&& view.ring.mask = slot view.ring.mask view.taken.length := by
  rw [holds.tail]
  rfl

/-- A ring that looks not full has room for one more item behind the copy of the tail. -/
theorem room_of_looksFull (roomy : view.ring.looksFull = false) :
    ∃ seen ≤ view.taken.length, view.ring.cachedTail = UInt64.ofNat seen ∧
      view.accepted.length + 1 ≤ seen + view.ring.capacity.toNat := by
  obtain ⟨seen, old, copy, room⟩ := holds.cachedTail
  refine ⟨seen, old, copy, ?_⟩
  have order := holds.taken_le
  have bounded := holds.capacity_le
  have distance : (UInt64.ofNat view.accepted.length - UInt64.ofNat seen).toNat =
      view.accepted.length - seen :=
    Library.RingIndex.toNat_sub (by omega) (by omega)
  have less := of_decide_eq_false roomy
  rw [ge_iff_le, UInt64.not_le, UInt64.lt_iff_toNat_lt, holds.head, copy, distance] at less
  omega

/-- A ring that looks not empty has an item that the consumer has not taken. -/
theorem item_of_looksEmpty (filled : view.ring.looksEmpty = false) :
    ∃ seen ≤ view.accepted.length, view.ring.cachedHead = UInt64.ofNat seen ∧
      view.taken.length + 1 ≤ seen := by
  obtain ⟨seen, old, copy, after⟩ := holds.cachedHead
  refine ⟨seen, old, copy, ?_⟩
  have different : view.taken.length ≠ seen := by
    intro same
    have unequal : view.ring.tail ≠ view.ring.cachedHead := by simpa [Ring.looksEmpty] using filled
    rw [holds.tail, copy, same] at unequal
    exact unequal rfl
  omega

/-- The slot that the producer is to fill is empty. -/
theorem free_slot {item : α} (free : view.producer = .free item) :
    view.ring.slots (view.ring.head &&& view.ring.mask) = none := by
  obtain ⟨seen, old, -, room⟩ := holds.room_of_looksFull (holds.free item free)
  have before : view.taken.length + view.consumer.removed ≤ view.accepted.length := by
    obtain ⟨seen, old, -, after⟩ := holds.cachedHead
    omega
  have fits := holds.shape.fits
  have unseen : view.producer.unseen = [] := by rw [free]; rfl
  rw [holds.head_slot, holds.window.at before (by omega), unseen, List.append_nil,
    List.getElem?_eq_none (Nat.le_refl _)]

/-- The slot that the consumer is to read holds the next item. -/
theorem front_slot (reading : view.consumer.reading = true) :
    ∃ item, view.ring.front = some item ∧ view.accepted[view.taken.length]? = some item := by
  obtain ⟨seen, old, -, after⟩ := holds.item_of_looksEmpty (holds.reading reading)
  have removed : view.consumer.removed = 0 := by
    cases phase : view.consumer <;> simp_all [PopPhase.reading, PopPhase.removed]
  have next : view.taken.length < view.accepted.length := by omega
  have window := holds.window
  rw [removed, Nat.add_zero] at window
  have held := window.at (Nat.le_refl view.taken.length) (by omega)
  rw [List.getElem?_append_left next, ← holds.tail_slot] at held
  exact ⟨view.accepted[view.taken.length], held.trans (List.getElem?_eq_getElem next),
    List.getElem?_eq_getElem next⟩

/-! ## Steps of the producer -/

theorem loadTail (resting : view.producer = .resting) :
    Consistent { view with ring := view.ring.loadTail } where
  shape := holds.shape
  head := holds.head
  tail := holds.tail
  order := holds.order
  cachedTail := ⟨view.taken.length, Nat.le_refl _, holds.tail, holds.accepted_le⟩
  cachedHead := holds.cachedHead
  window := holds.window
  free := by simp [resting]
  reading := holds.reading
  found := holds.found
  granted := holds.granted
  received := holds.received

theorem find_free (resting : view.producer = .resting) (item : α)
    (roomy : view.ring.looksFull = false) :
    Consistent { view with producer := .free item } := by
  have unseen : view.producer.unseen = [] := by rw [resting]; rfl
  have unanswered : view.producer.unanswered = [] := by rw [resting]; rfl
  have cachedTail := holds.cachedTail
  have window := holds.window
  have granted := holds.granted
  rw [unseen] at cachedTail window
  rw [unanswered] at granted
  exact { holds with cachedTail, window, granted, free := fun _ _ => roomy }

theorem emplace {item : α} (free : view.producer = .free item) :
    Consistent { view with ring := view.ring.emplace item, producer := .placed item } := by
  have unseen : view.producer.unseen = [] := by rw [free]; rfl
  have unanswered : view.producer.unanswered = [] := by rw [free]; rfl
  have granted := holds.granted
  have window := holds.window
  obtain ⟨bits, ones⟩ := holds.shape.ones
  obtain ⟨seen, old, -, room⟩ := holds.room_of_looksFull (holds.free item free)
  have before : view.taken.length + view.consumer.removed ≤ view.accepted.length := by
    obtain ⟨seen, old, -, after⟩ := holds.cachedHead
    omega
  have fits := holds.shape.fits
  rw [unanswered] at granted
  rw [unseen, List.append_nil] at window
  refine { holds with
    cachedTail := holds.room_of_looksFull (holds.free item free)
    granted := granted
    free := by simp
    window := ?_ }
  show Window view.ring.mask (Function.update _ (view.ring.head &&& view.ring.mask) _) _ _
  rw [holds.head_slot]
  exact window.place ones before (by omega) item

theorem storeHead {item : α} (placed : view.producer = .placed item) :
    Consistent { view with
      ring := view.ring.storeHead
      accepted := view.accepted ++ [item]
      producer := .announced item } := by
  have unseen : view.producer.unseen = [item] := by rw [placed]; rfl
  have unanswered : view.producer.unanswered = [] := by rw [placed]; rfl
  have window := holds.window
  have granted := holds.granted
  rw [unseen] at window
  rw [unanswered, List.append_nil] at granted
  refine { holds with
    head := ?_
    order := holds.order.trans (List.prefix_append _ _)
    cachedTail := ?_
    cachedHead := ?_
    window := by simpa [PushPhase.unseen, Ring.storeHead] using window
    free := by simp
    found := ?_
    granted := by rw [granted]; rfl }
  · show view.ring.head + 1 = _
    rw [holds.head, List.length_append, UInt64.ofNat_add]
    rfl
  · obtain ⟨seen, old, copy, room⟩ := holds.cachedTail
    rw [unseen] at room
    exact ⟨seen, old, copy, by simpa [PushPhase.unseen, Ring.storeHead] using room⟩
  · obtain ⟨seen, old, copy, after⟩ := holds.cachedHead
    exact ⟨seen, by simp; omega, copy, after⟩
  · intro next reading
    have next := holds.found next reading
    obtain ⟨bound, -⟩ := List.getElem?_eq_some_iff.mp next
    rw [List.getElem?_append_left bound, next]

theorem push_returns {item : α} (announced : view.producer = .announced item) :
    Consistent { view with producer := .resting, pushes := view.pushes ++ [(item, true)] } := by
  have unseen : view.producer.unseen = [] := by rw [announced]; rfl
  have unanswered : view.producer.unanswered = [item] := by rw [announced]; rfl
  have cachedTail := holds.cachedTail
  have window := holds.window
  have granted := holds.granted
  rw [unseen] at cachedTail window
  rw [unanswered] at granted
  exact { holds with
    cachedTail, window
    free := by simp
    granted := by simpa [Core.granted, PushPhase.unanswered] using granted }

theorem push_refused (item : α) :
    Consistent { view with pushes := view.pushes ++ [(item, false)] } :=
  { holds with granted := by simpa [Core.granted] using holds.granted }

/-! ## Steps of the consumer -/

theorem loadHead (resting : view.consumer = .resting) :
    Consistent { view with ring := view.ring.loadHead } := by
  have removed : view.consumer.removed = 0 := by rw [resting]; rfl
  exact { holds with
    cachedHead := ⟨view.accepted.length, Nat.le_refl _, holds.head, by
      rw [removed]
      exact holds.taken_le⟩
    reading := by simp [resting, PopPhase.reading] }

theorem find_item (resting : view.consumer = .resting) (filled : view.ring.looksEmpty = false) :
    Consistent { view with consumer := .ready } := by
  have removed : view.consumer.removed = 0 := by rw [resting]; rfl
  have unanswered : view.consumer.unanswered = [] := by rw [resting]; rfl
  have cachedHead := holds.cachedHead
  have window := holds.window
  have received := holds.received
  rw [removed] at cachedHead window
  rw [unanswered] at received
  exact { holds with cachedHead, window, received, reading := fun _ => filled, found := by simp }

theorem find_front (ready : view.consumer = .ready) {item : α}
    (front : view.ring.front = some item) :
    Consistent { view with consumer := .found item } := by
  have removed : view.consumer.removed = 0 := by rw [ready]; rfl
  have unanswered : view.consumer.unanswered = [] := by rw [ready]; rfl
  have reading : view.consumer.reading = true := by rw [ready]; rfl
  have cachedHead := holds.cachedHead
  have window := holds.window
  have received := holds.received
  rw [removed] at cachedHead window
  rw [unanswered] at received
  obtain ⟨next, held, expected⟩ := holds.front_slot reading
  obtain rfl : next = item := Option.some.inj (held.symm.trans front)
  exact { holds with
    cachedHead, window, received
    reading := fun _ => holds.reading reading
    found := by simpa using expected }

theorem reset {item : α} (found : view.consumer = .found item) :
    Consistent { view with ring := view.ring.reset, consumer := .emptied item } := by
  have removed : view.consumer.removed = 0 := by rw [found]; rfl
  have unanswered : view.consumer.unanswered = [] := by rw [found]; rfl
  have reading : view.consumer.reading = true := by rw [found]; rfl
  have window := holds.window
  have received := holds.received
  have expected := holds.found item (.inl found)
  obtain ⟨bits, ones⟩ := holds.shape.ones
  have short := holds.accepted_le
  have fits := holds.shape.fits
  rw [removed, Nat.add_zero] at window
  rw [unanswered] at received
  refine { holds with
    cachedHead := holds.item_of_looksEmpty (holds.reading reading)
    window := ?_
    reading := by simp [PopPhase.reading]
    found := by simpa using expected
    received := received }
  show Window view.ring.mask (Function.update _ (view.ring.tail &&& view.ring.mask) _) _ _
  rw [holds.tail_slot]
  exact window.clear ones (by rw [List.length_append]; omega)

theorem storeTail {item : α} (emptied : view.consumer = .emptied item) :
    Consistent { view with
      ring := view.ring.storeTail
      taken := view.taken ++ [item]
      consumer := .holding item } := by
  have removed : view.consumer.removed = 1 := by rw [emptied]; rfl
  have unanswered : view.consumer.unanswered = [] := by rw [emptied]; rfl
  have cachedHead := holds.cachedHead
  have window := holds.window
  have received := holds.received
  have expected := holds.found item (.inr emptied)
  rw [removed] at cachedHead window
  rw [unanswered, List.append_nil] at received
  refine { holds with
    tail := ?_
    order := ?_
    cachedTail := ?_
    cachedHead := by simpa [PopPhase.removed, Ring.storeTail] using cachedHead
    window := by simpa [PopPhase.removed, Ring.storeTail] using window
    reading := by simp [PopPhase.reading]
    found := by simp
    received := by rw [received]; rfl }
  · show view.ring.tail + 1 = _
    rw [holds.tail, List.length_append, UInt64.ofNat_add]
    rfl
  · have whole := List.prefix_iff_eq_take.mp holds.order
    have next : view.accepted.take (view.taken.length + 1) = view.taken ++ [item] := by
      rw [List.take_add_one, ← whole, expected]
      rfl
    exact next ▸ List.take_prefix _ _
  · obtain ⟨seen, old, copy, room⟩ := holds.cachedTail
    exact ⟨seen, by simp; omega, copy, room⟩

theorem pop_returns {item : α} (holding : view.consumer = .holding item) :
    Consistent { view with consumer := .resting, pops := view.pops ++ [some item] } := by
  have removed : view.consumer.removed = 0 := by rw [holding]; rfl
  have unanswered : view.consumer.unanswered = [item] := by rw [holding]; rfl
  have cachedHead := holds.cachedHead
  have window := holds.window
  have received := holds.received
  rw [removed] at cachedHead window
  rw [unanswered] at received
  exact { holds with
    cachedHead, window
    reading := by simp [PopPhase.reading]
    found := by simp
    received := by simpa [List.reduceOption_append, PopPhase.unanswered] using received }

theorem pop_nothing : Consistent { view with pops := view.pops ++ [none] } :=
  { holds with received := by simpa [List.reduceOption_append] using holds.received }

end Consistent

theorem Step.capacity {view next : RingView α} (taken : Step view next) :
    next.ring.capacity = view.ring.capacity := by
  cases taken with
  | room item ring resting loaded roomy => rcases loaded with rfl | rfl <;> rfl
  | ready ring resting loaded filled => rcases loaded with rfl | rfl <;> rfl
  | _ => rfl

/-- Every step keeps the items and the indices consistent. -/
theorem Step.consistent {view next : RingView α} (holds : Consistent view)
    (taken : Step view next) : Consistent next := by
  cases taken with
  | stutter => exact holds
  | full resting => exact holds.loadTail resting
  | room item ring resting loaded roomy =>
      rcases loaded with rfl | rfl
      · exact holds.find_free resting item roomy
      · exact (holds.loadTail resting).find_free resting item roomy
  | emplace item free => exact holds.emplace free
  | storeHead item placed => exact holds.storeHead placed
  | pushed item announced => exact holds.push_returns announced
  | refused item resting => exact holds.push_refused item
  | empty resting => exact holds.loadHead resting
  | ready ring resting loaded filled =>
      rcases loaded with rfl | rfl
      · exact holds.find_item resting filled
      · exact (holds.loadHead resting).find_item resting filled
  | found item ready front => exact holds.find_front ready front
  | reset item found => exact holds.reset found
  | storeTail item emptied => exact holds.storeTail emptied
  | popped item holding => exact holds.pop_returns holding
  | nothing resting => exact holds.pop_nothing

end RingView

/-! ## Steps of the queue -/

namespace RingQueue

open RingView (Step Consistent)

theorem notifyEmpty_view (queue : RingQueue α) : queue.notifyEmpty.view = queue.view := by
  unfold notifyEmpty
  split
  next asleep => simp [view, popAt, asleep, PopPoint.phase]
  next => rfl

theorem notifyFull_view (queue : RingQueue α) : queue.notifyFull.view = queue.view := by
  unfold notifyFull
  split
  next asleep => simp [view, pushAt, asleep, PushPoint.phase]
  next => rfl

/-- A producer that goes on in the same phase does nothing to the items. -/
theorem step_pushAt {queue : RingQueue α} {point : PushPoint} {item : α}
    (same : queue.producer.phase = point.phase item) :
    Step queue.view (queue.pushAt point item).view := by
  have stutters : (queue.pushAt point item).view = queue.view := by
    simp [view, pushAt, same]
  rw [stutters]
  exact .stutter

theorem step_pushReturns_true {queue : RingQueue α} {item : α}
    (announced : queue.producer.phase = .announced item) :
    Step queue.view (queue.pushReturns item true).view :=
  .pushed item announced

theorem step_pushReturns_false {queue : RingQueue α} {item : α}
    (resting : queue.producer.phase = .resting) :
    Step queue.view (queue.pushReturns item false).view := by
  have same : (queue.pushReturns item false).view =
      { queue.view with pushes := queue.view.pushes ++ [(item, false)] } := by
    simp [view, pushReturns, resting]
  rw [same]
  exact .refused item resting

theorem pushFailed_phase (queue : RingQueue α) (attempt : PushAttempt) (item : α) :
    (queue.pushFailed attempt).phase item = .resting := by
  cases attempt with
  | first => cases policy : queue.policy <;> simp [pushFailed, policy, PushPoint.phase]
  | spinning spin =>
      rw [pushFailed]
      split <;> rfl
  | locked => rfl

theorem pushPlaced_phase (attempt : PushAttempt) (item : α) :
    (pushPlaced attempt).phase item = .announced item := by
  cases attempt <;> rfl

theorem step_loadTail {queue : RingQueue α} {point : PushPoint} {item : α}
    (resting : queue.producer.phase = .resting) (rests : point.phase item = .resting) :
    Step queue.view ({ queue with ring := queue.ring.loadTail }.pushAt point item).view := by
  have same : ({ queue with ring := queue.ring.loadTail }.pushAt point item).view =
      { queue.view with ring := queue.view.ring.loadTail } := by
    simp [view, pushAt, resting, rests]
  rw [same]
  exact .full resting

theorem step_pushStep {queue next : RingQueue α} {point : PushPoint} {item : α}
    (pushing : queue.producer = .pushing point item)
    (taken : queue.pushStep item point = some next) :
    Step queue.view next.view := by
  have phase : queue.producer.phase = point.phase item := by rw [pushing]; rfl
  cases point with
  | loadClosed =>
      obtain rfl := Option.some.inj taken
      split
      · exact step_pushReturns_false phase
      · exact step_pushAt phase
  | tryPush attempt =>
      obtain rfl := Option.some.inj taken
      split
      next => exact step_pushAt phase
      next roomy => exact .room item queue.ring phase (.inl rfl) (by simpa using roomy)
  | loadTail attempt =>
      obtain rfl := Option.some.inj taken
      split
      next => exact step_loadTail phase (pushFailed_phase _ attempt item)
      next roomy => exact .room item queue.ring.loadTail phase (.inr rfl) (by simpa using roomy)
  | emplace attempt =>
      obtain rfl := Option.some.inj taken
      exact .emplace item phase
  | storeHead attempt =>
      obtain rfl := Option.some.inj taken
      have stored : Step queue.view { queue.view with
          ring := queue.ring.storeHead
          accepted := queue.accepted ++ [item]
          producer := .announced item } := .storeHead item phase
      rw [← pushPlaced_phase attempt item] at stored
      exact stored
  | drop =>
      obtain rfl := Option.some.inj taken
      exact @step_pushReturns_false _ { queue with dropped := queue.dropped + 1 } item phase
  | spinClosed spin =>
      obtain rfl := Option.some.inj taken
      split
      · exact step_pushReturns_false phase
      · exact step_pushAt phase
  | lock =>
      obtain ⟨-, rfl⟩ := acquire_map_eq_some.mp taken
      exact step_pushAt phase
  | setWaiting =>
      obtain rfl := Option.some.inj taken
      exact step_pushAt phase
  | waitClosed =>
      obtain rfl := Option.some.inj taken
      split <;> exact step_pushAt phase
  | waitSpace =>
      obtain rfl := Option.some.inj taken
      split <;> exact step_pushAt phase
  | wait =>
      obtain rfl := Option.some.inj taken
      exact step_pushAt phase
  | asleep => cases taken
  | woken =>
      obtain ⟨-, rfl⟩ := acquire_map_eq_some.mp taken
      exact step_pushAt phase
  | clearWaiting =>
      obtain rfl := Option.some.inj taken
      exact step_pushAt phase
  | lockedClosed =>
      obtain rfl := Option.some.inj taken
      split <;> exact step_pushAt phase
  | unlockRefused =>
      obtain rfl := Option.some.inj taken
      exact step_pushReturns_false phase
  | unlockPushed =>
      obtain rfl := Option.some.inj taken
      exact step_pushAt phase
  | wakeLoad =>
      obtain rfl := Option.some.inj taken
      split
      · exact step_pushAt phase
      · exact step_pushReturns_true phase
  | wakeLock =>
      obtain ⟨-, rfl⟩ := acquire_map_eq_some.mp taken
      exact step_pushAt phase
  | wakeUnlock =>
      obtain rfl := Option.some.inj taken
      exact step_pushAt phase
  | wakeNotify =>
      obtain rfl := Option.some.inj taken
      have notified := queue.notifyEmpty_view
      rw [← notified]
      exact step_pushReturns_true ((congrArg RingView.producer notified).trans phase)

/-- A consumer that goes on in the same phase does nothing to the items. -/
theorem step_popAt {queue : RingQueue α} {point : PopPoint α}
    (same : queue.consumer.phase = point.phase) : Step queue.view (queue.popAt point).view := by
  have stutters : (queue.popAt point).view = queue.view := by
    simp [view, popAt, same]
  rw [stutters]
  exact .stutter

theorem step_popReturns_none {queue : RingQueue α} (resting : queue.consumer.phase = .resting) :
    Step queue.view (queue.popReturns none).view := by
  have same : (queue.popReturns none).view =
      { queue.view with pops := queue.view.pops ++ [none] } := by
    simp [view, popReturns, resting]
  rw [same]
  exact .nothing resting

theorem popFailed_phase (attempt : PopAttempt) :
    (popFailed attempt : PopPoint α).phase = .resting := by
  cases attempt with
  | spinning spin =>
      rw [popFailed]
      split <;> rfl
  | locked wasClosed => cases wasClosed <;> rfl

theorem popTaken_phase (attempt : PopAttempt) (item : α) :
    (popTaken item attempt).phase = .holding item := by
  cases attempt <;> rfl

theorem step_loadHead {queue : RingQueue α} {point : PopPoint α}
    (resting : queue.consumer.phase = .resting) (rests : point.phase = .resting) :
    Step queue.view ({ queue with ring := queue.ring.loadHead }.popAt point).view := by
  have same : ({ queue with ring := queue.ring.loadHead }.popAt point).view =
      { queue.view with ring := queue.view.ring.loadHead } := by
    simp [view, popAt, resting, rests]
  rw [same]
  exact .empty resting

theorem step_popStep {queue next : RingQueue α} {point : PopPoint α}
    (popping : queue.consumer = .popping point) (taken : queue.popStep point = some next) :
    Step queue.view next.view := by
  have phase : queue.consumer.phase = point.phase := by rw [popping]; rfl
  cases point with
  | tryPop attempt =>
      obtain rfl := Option.some.inj taken
      split
      next => exact step_popAt phase
      next filled => exact .ready queue.ring phase (.inl rfl) (by simpa using filled)
  | loadHead attempt =>
      obtain rfl := Option.some.inj taken
      split
      next => exact step_loadHead phase (popFailed_phase attempt)
      next filled => exact .ready queue.ring.loadHead phase (.inr rfl) (by simpa using filled)
  | moveSlot attempt =>
      obtain ⟨item, front, rfl⟩ := Option.map_eq_some_iff.mp taken
      exact .found item phase front
  | resetSlot attempt item =>
      obtain rfl := Option.some.inj taken
      exact .reset item phase
  | storeTail attempt item =>
      obtain rfl := Option.some.inj taken
      have stored : Step queue.view { queue.view with
          ring := queue.ring.storeTail
          taken := queue.taken ++ [item]
          consumer := .holding item } := .storeTail item phase
      rw [← popTaken_phase attempt item] at stored
      exact stored
  | lock =>
      obtain ⟨-, rfl⟩ := acquire_map_eq_some.mp taken
      exact step_popAt phase
  | loadClosed =>
      obtain rfl := Option.some.inj taken
      exact step_popAt phase
  | unlockEmpty =>
      obtain rfl := Option.some.inj taken
      exact @step_popReturns_none _ queue.release phase
  | setWaiting =>
      obtain rfl := Option.some.inj taken
      exact step_popAt phase
  | waitClosed =>
      obtain rfl := Option.some.inj taken
      split <;> exact step_popAt phase
  | waitItem =>
      obtain rfl := Option.some.inj taken
      split <;> exact step_popAt phase
  | wait =>
      obtain rfl := Option.some.inj taken
      exact step_popAt phase
  | asleep => cases taken
  | woken =>
      obtain ⟨-, rfl⟩ := acquire_map_eq_some.mp taken
      exact step_popAt phase
  | clearWaiting =>
      obtain rfl := Option.some.inj taken
      exact step_popAt phase
  | unlockPopped item =>
      obtain rfl := Option.some.inj taken
      exact step_popAt phase
  | wakeLoad item =>
      obtain rfl := Option.some.inj taken
      split
      · exact step_popAt phase
      · exact .popped item phase
  | wakeLock item =>
      obtain ⟨-, rfl⟩ := acquire_map_eq_some.mp taken
      exact step_popAt phase
  | wakeUnlock item =>
      obtain rfl := Option.some.inj taken
      exact step_popAt phase
  | wakeNotify item =>
      obtain rfl := Option.some.inj taken
      have notified := queue.notifyFull_view
      rw [← notified]
      exact .popped item ((congrArg RingView.consumer notified).trans phase)

theorem closeStep_view {queue next : RingQueue α} {number : Nat} {point : Closer}
    (taken : queue.closeStep number point = some next) : next.view = queue.view := by
  cases point with
  | idle => cases taken
  | lock =>
      obtain ⟨-, rfl⟩ := acquire_map_eq_some.mp taken
      rfl
  | unlock =>
      obtain rfl := Option.some.inj taken
      rfl
  | notifyEmpty =>
      obtain rfl := Option.some.inj taken
      exact queue.notifyEmpty_view
  | notifyFull =>
      obtain rfl := Option.some.inj taken
      exact queue.notifyFull_view

/-- Every step of the queue is a step of its view. -/
theorem step_view {queue next : RingQueue α} {input : Input α}
    (taken : queue.step input = some next) : Step queue.view next.view := by
  rcases step_cases taken with ⟨item, -, idle, rfl⟩ | ⟨point, item, -, pushing, taken⟩ |
    ⟨-, idle, rfl⟩ | ⟨point, -, popping, taken⟩ | ⟨number, -, idle, rfl⟩ | ⟨number, -, taken⟩ |
    ⟨-, rfl⟩ | ⟨-, rfl⟩
  · exact step_pushAt (by rw [idle]; rfl)
  · exact step_pushStep pushing taken
  · exact step_popAt (by rw [idle]; rfl)
  · exact step_popStep popping taken
  · exact .stutter
  · rw [closeStep_view taken]
    exact .stutter
  · rw [notifyFull_view]
    exact .stutter
  · rw [notifyEmpty_view]
    exact .stutter

theorem fresh_consistent {capacity : UInt64} {policy : BackpressurePolicy} {start : RingQueue α}
    (made : fresh capacity policy = some start) : Consistent start.view := by
  obtain ⟨ring, ringMade, rfl⟩ := Option.map_eq_some_iff.mp made
  obtain ⟨mask, rfl, shape⟩ := Ring.shape_of_fresh ringMade
  exact
    { shape := shape
      head := rfl
      tail := rfl
      order := List.prefix_rfl
      cachedTail := ⟨0, Nat.le_refl 0, rfl, Nat.zero_le _⟩
      cachedHead := ⟨0, Nat.le_refl 0, rfl, Nat.le_refl 0⟩
      window := Library.RingIndex.window_empty mask
      free := by simp [view, initial]
      reading := by simp [view, initial, PopPhase.reading]
      found := by simp [view, initial]
      granted := rfl
      received := rfl }

/-- In every state that is reached the items and the indices are consistent. -/
theorem run_consistent {start finish : RingQueue α} {inputs : List (Input α)}
    (consistent : Consistent start.view)
    (reached : Library.Runs.run step start inputs = some finish) : Consistent finish.view :=
  Library.Runs.invariant (fun queue => Consistent queue.view)
    (fun holds taken => (step_view taken).consistent holds) consistent reached

theorem run_capacity {start finish : RingQueue α} {inputs : List (Input α)}
    (reached : Library.Runs.run step start inputs = some finish) :
    finish.ring.capacity = start.ring.capacity :=
  Library.Runs.invariant (fun queue => queue.ring.capacity = start.ring.capacity)
    (fun same taken => (step_view taken).capacity.trans same) rfl reached

end RingQueue

end Ssim.Core
