import Mathlib.Data.List.Infix
import Mathlib.Data.List.Induction

/-!
# Outboxes with generations

An outbox queues items and hands them over one at a time.  The item that is in flight stays
at the front of the queue until its completion removes it.  A new generation starts with an
empty queue; what older generations have in flight completes later and is ignored.

The moves of an outbox say what was queued and what was handed over, and in which generation.
`Sound` holds of every outbox that these operations make.
-/

namespace Ssim.Library

variable {α : Type*}

inductive Move (α : Type*) where
  | queued (generation : Nat) (item : α)
  | handed (generation : Nat) (item : α)

namespace Move

def generation : Move α → Nat
  | queued generation _ | handed generation _ => generation

/-- What the moves queued in one generation, in order. -/
def queuedIn (generation : Nat) (moves : List (Move α)) : List α :=
  moves.filterMap fun
    | queued other item => if other = generation then some item else none
    | handed _ _ => none

/-- What the moves handed over in one generation, in order. -/
def handedIn (generation : Nat) (moves : List (Move α)) : List α :=
  moves.filterMap fun
    | queued _ _ => none
    | handed other item => if other = generation then some item else none

/-- Whatever is handed over is the next of the items that its generation has queued. -/
def Orderly (moves : List (Move α)) : Prop :=
  ∀ before generation item after, moves = before ++ handed generation item :: after →
    handedIn generation before ++ [item] <+: queuedIn generation before

section Append

variable (generation : Nat) (moves more : List (Move α))

theorem queuedIn_append :
    queuedIn generation (moves ++ more) = queuedIn generation moves ++ queuedIn generation more :=
  List.filterMap_append

theorem handedIn_append :
    handedIn generation (moves ++ more) = handedIn generation moves ++ handedIn generation more :=
  List.filterMap_append

end Append

theorem queuedIn_map_queued (generation : Nat) (items : List α) :
    queuedIn generation (items.map (queued generation)) = items := by
  simp [queuedIn, List.filterMap_map]

theorem handedIn_map_queued (generation other : Nat) (items : List α) :
    handedIn generation (items.map (queued other)) = [] := by
  simp [handedIn, List.filterMap_map]

theorem queuedIn_handed (generation other : Nat) (item : α) :
    queuedIn generation [handed other item] = [] :=
  rfl

theorem handedIn_handed (generation : Nat) (item : α) :
    handedIn generation [handed generation item] = [item] := by
  simp [handedIn]

/-- A generation that no move belongs to has neither queued nor handed over anything. -/
theorem in_of_later {generation : Nat} {moves : List (Move α)}
    (past : ∀ move ∈ moves, move.generation < generation) :
    queuedIn generation moves = [] ∧ handedIn generation moves = [] := by
  induction moves with
  | nil => exact ⟨rfl, rfl⟩
  | cons move moves ih =>
      obtain ⟨first, rest⟩ := List.forall_mem_cons.mp past
      obtain ⟨queuedNone, handedNone⟩ := ih rest
      cases move with
      | queued other item =>
          have different : other ≠ generation := Nat.ne_of_lt first
          exact ⟨by simpa [queuedIn, different] using queuedNone,
            by simpa [handedIn] using handedNone⟩
      | handed other item =>
          have different : other ≠ generation := Nat.ne_of_lt first
          exact ⟨by simpa [queuedIn] using queuedNone,
            by simpa [handedIn, different] using handedNone⟩

theorem Orderly.append_queued {moves : List (Move α)} (orderly : Orderly moves)
    (generation : Nat) (items : List α) : Orderly (moves ++ items.map (queued generation)) := by
  induction items using List.reverseRecOn with
  | nil => simpa using orderly
  | append_singleton items last ih =>
      intro before other item after split
      rw [List.map_append, ← List.append_assoc] at split
      rcases List.eq_nil_or_concat after with rfl | ⟨front, move, rfl⟩
      · obtain ⟨-, impossible⟩ := List.append_inj' split rfl
        simp at impossible
      · rw [List.concat_eq_append, ← List.cons_append, ← List.append_assoc] at split
        exact ih before other item front (List.append_inj' split rfl).1

theorem Orderly.append_handed {moves : List (Move α)} (orderly : Orderly moves)
    {generation : Nat} {item : α}
    (next : handedIn generation moves ++ [item] <+: queuedIn generation moves) :
    Orderly (moves ++ [handed generation item]) := by
  intro before other given after split
  rcases List.eq_nil_or_concat after with rfl | ⟨front, move, rfl⟩
  · obtain ⟨rfl, same⟩ := List.append_inj' split rfl
    obtain ⟨rfl, rfl⟩ : generation = other ∧ item = given := by simpa using same
    exact next
  · rw [List.concat_eq_append, ← List.cons_append, ← List.append_assoc] at split
    exact orderly before other given front (List.append_inj' split rfl).1

/-- Within one generation the items are handed over in the order they were queued. -/
theorem Orderly.handedIn_prefix {moves : List (Move α)} (orderly : Orderly moves)
    (generation : Nat) : handedIn generation moves <+: queuedIn generation moves := by
  induction moves using List.reverseRecOn with
  | nil => exact List.prefix_rfl
  | append_singleton moves move ih =>
      have earlier : Orderly moves := fun before other item after split =>
        orderly before other item (after ++ [move]) (by simp [split])
      rw [queuedIn_append, handedIn_append]
      cases move with
      | queued other item =>
          have none : handedIn generation [queued other item] = [] := rfl
          rw [none, List.append_nil]
          exact (ih earlier).trans (List.prefix_append _ _)
      | handed other item =>
          rw [queuedIn_handed, List.append_nil]
          by_cases same : other = generation
          · subst same
            rw [handedIn_handed]
            exact orderly moves other item [] rfl
          · have none : handedIn generation [handed other item] = [] := by
              simp [handedIn, same]
            rw [none, List.append_nil]
            exact ih earlier

end Move

/-! ## Outboxes -/

structure Outbox (α : Type*) where
  generation : Nat
  queue : List α
  writing : Bool
  /-- What was handed over and has not completed, with its generation. -/
  inFlight : List (Nat × α)
  moves : List (Move α)

namespace Outbox

def put (box : Outbox α) (items : List α) : Outbox α :=
  { box with
    queue := box.queue ++ items
    moves := box.moves ++ items.map (.queued box.generation) }

/-- Hand over the front of the queue, if there is one. -/
def send (box : Outbox α) : Outbox α :=
  match box.queue with
  | [] => { box with writing := false }
  | front :: _ =>
      { box with
        writing := true
        inFlight := box.inFlight ++ [(box.generation, front)]
        moves := box.moves ++ [.handed box.generation front] }

/-- Send unless something is in flight already. -/
def wake (box : Outbox α) : Outbox α :=
  if !box.queue.isEmpty && !box.writing then box.send else box

/-- A completion takes the operation out of flight. -/
def take (box : Outbox α) (operation : Nat) : Outbox α :=
  { box with inFlight := box.inFlight.eraseIdx operation }

/-- What is in flight has arrived: remove it and send the next. -/
def sent (box : Outbox α) : Outbox α :=
  { box with queue := box.queue.tail }.send

/-- A new generation has nothing queued. -/
def renew (box : Outbox α) : Outbox α :=
  { box with generation := box.generation + 1, queue := [], writing := false }

@[simp]
theorem send_generation (box : Outbox α) : box.send.generation = box.generation := by
  unfold send
  split <;> rfl

@[simp]
theorem wake_generation (box : Outbox α) : box.wake.generation = box.generation := by
  unfold wake
  split
  · exact box.send_generation
  · rfl

/-- What the current generation has handed over and not yet removed. -/
def current (box : Outbox α) : List α :=
  if box.writing then box.queue.take 1 else []

structure Sound (box : Outbox α) : Prop where
  flights : ∀ flight ∈ box.inFlight, flight.1 ≤ box.generation
  history : ∀ move ∈ box.moves, move.generation ≤ box.generation
  orderly : Move.Orderly box.moves
  /-- The items removed so far, and what else was queued and handed over. -/
  balance : ∃ done, Move.queuedIn box.generation box.moves = done ++ box.queue ∧
    Move.handedIn box.generation box.moves = done ++ box.current
  flying : box.inFlight.filter (fun flight => flight.1 = box.generation) =
    box.current.map (box.generation, ·)
  busy : box.writing = true → box.queue ≠ []

theorem sound_fresh : Sound (⟨0, [], false, [], []⟩ : Outbox α) where
  flights := by simp
  history := by simp
  orderly := by simp [Move.Orderly]
  balance := ⟨[], rfl, rfl⟩
  flying := rfl
  busy := by simp

theorem Sound.renew {box : Outbox α} (sound : Sound box) : Sound box.renew := by
  have past : ∀ move ∈ box.moves, move.generation < box.generation + 1 := fun move member =>
    Nat.lt_succ_of_le (sound.history move member)
  obtain ⟨noneQueued, noneHanded⟩ := Move.in_of_later past
  refine ⟨?_, ?_, sound.orderly, ⟨[], noneQueued, noneHanded⟩, ?_, by simp [Outbox.renew]⟩
  · intro flight member
    exact Nat.le_succ_of_le (sound.flights flight member)
  · intro move member
    exact Nat.le_succ_of_le (sound.history move member)
  · refine List.filter_eq_nil_iff.mpr fun flight member => ?_
    have old := sound.flights flight member
    have late : flight.1 ≠ box.generation + 1 := by omega
    exact fun same => late (of_decide_eq_true same)

theorem Sound.put {box : Outbox α} (sound : Sound box) (items : List α) :
    Sound (box.put items) := by
  obtain ⟨done, queued, handed⟩ := sound.balance
  have same : (box.put items).current = box.current := by
    unfold current Outbox.put
    dsimp only
    split
    next writing =>
      obtain ⟨front, rest, cut⟩ := List.exists_cons_of_ne_nil (sound.busy writing)
      rw [cut]
      rfl
    next => rfl
  refine ⟨sound.flights, ?_, sound.orderly.append_queued _ _, ⟨done, ?_, ?_⟩, ?_, ?_⟩
  · intro move member
    rcases List.mem_append.mp member with old | new
    · exact sound.history move old
    · obtain ⟨item, -, rfl⟩ := List.mem_map.mp new
      exact Nat.le_refl _
  · simp only [Outbox.put, Move.queuedIn_append, queued, Move.queuedIn_map_queued,
      List.append_assoc]
  · rw [same, ← handed]
    simp only [Outbox.put, Move.handedIn_append, Move.handedIn_map_queued, List.append_nil]
  · rw [same]
    exact sound.flying
  · intro writing
    exact List.append_ne_nil_of_left_ne_nil (sound.busy writing) items

/-- Sending is sound when nothing of this generation is in flight. -/
theorem Sound.send {box : Outbox α} (sound : Sound box) (idle : box.current = []) :
    Sound box.send := by
  obtain ⟨done, queued, handed⟩ := sound.balance
  have landed := sound.flying
  rw [idle, List.append_nil] at handed
  rw [idle, List.map_nil] at landed
  unfold Outbox.send
  split
  next empty =>
    refine ⟨sound.flights, sound.history, sound.orderly, ⟨done, queued, ?_⟩, ?_, by simp⟩
    · simpa [current] using handed
    · simpa [current] using landed
  next front rest cut =>
    refine ⟨?_, ?_, ?_, ⟨done, ?_, ?_⟩, ?_, by simp [cut]⟩
    · simpa [or_imp, forall_and] using sound.flights
    · simpa [or_imp, forall_and, Move.generation] using sound.history
    · refine sound.orderly.append_handed ?_
      rw [queued, handed, cut]
      exact ⟨rest, by simp⟩
    · simp [Move.queuedIn_append, Move.queuedIn_handed, queued]
    · simp [Move.handedIn_append, Move.handedIn_handed, handed, current, cut]
    · simp [landed, current, cut]

theorem Sound.wake {box : Outbox α} (sound : Sound box) : Sound box.wake := by
  unfold Outbox.wake
  split
  next idle =>
    refine sound.send ?_
    simp only [Bool.and_eq_true, Bool.not_eq_true'] at idle
    simp [current, idle.2]
  next => exact sound

/-! ## Completions -/

/-- The list around one of its elements. -/
theorem split_at {entries : List α} {index : Nat} {entry : α}
    (found : entries[index]? = some entry) :
    ∃ before after, entries = before ++ entry :: after ∧
      entries.eraseIdx index = before ++ after := by
  obtain ⟨bound, rfl⟩ := List.getElem?_eq_some_iff.mp found
  refine ⟨entries.take index, entries.drop (index + 1), ?_, List.eraseIdx_eq_take_drop_succ ..⟩
  rw [← List.drop_eq_getElem_cons bound, List.take_append_drop]

/-- A completion may come together with the end of its generation. -/
theorem Sound.take_renew {box : Outbox α} (sound : Sound box) (operation : Nat) :
    Sound (box.take operation).renew := by
  have renewed := sound.renew
  refine ⟨?_, renewed.history, renewed.orderly, renewed.balance, ?_, renewed.busy⟩
  · intro flight member
    exact renewed.flights flight (List.mem_of_mem_eraseIdx member)
  · have flying := List.filter_eq_nil_iff.mp renewed.flying
    exact List.filter_eq_nil_iff.mpr fun flight member =>
      flying flight (List.mem_of_mem_eraseIdx member)

/-- A completion of an older generation leaves the outbox sound. -/
theorem Sound.take_stale {box : Outbox α} (sound : Sound box) {operation generation : Nat}
    {item : α} (found : box.inFlight[operation]? = some (generation, item))
    (stale : generation ≠ box.generation) : Sound (box.take operation) := by
  obtain ⟨before, after, whole, rest⟩ := split_at found
  refine ⟨?_, sound.history, sound.orderly, sound.balance, ?_, sound.busy⟩
  · intro flight member
    exact sound.flights flight (List.mem_of_mem_eraseIdx member)
  · have flying := sound.flying
    rw [whole, List.filter_append, List.filter_cons_of_neg (by simpa using stale),
      ← List.filter_append, ← rest] at flying
    exact flying

/-- The completion of the current generation's flight is that of the front of the queue. -/
theorem Sound.take_current {box : Outbox α} (sound : Sound box) {operation : Nat} {item : α}
    (found : box.inFlight[operation]? = some (box.generation, item)) :
    Sound (box.take operation).sent := by
  obtain ⟨before, after, whole, rest⟩ := split_at found
  obtain ⟨done, queued, handed⟩ := sound.balance
  have flying := sound.flying
  rw [whole, List.filter_append, List.filter_cons_of_pos (by simp)] at flying
  -- One flight of this generation means that the front of the queue is in flight.
  obtain ⟨front, behind, cut, writing⟩ : ∃ front behind, box.queue = front :: behind ∧
      box.writing = true := by
    unfold current at flying
    split at flying
    next writing =>
      cases cut : box.queue with
      | nil => simp [cut] at flying
      | cons front behind => exact ⟨front, behind, rfl, writing⟩
    next => simp at flying
  have current : box.current = [front] := by simp [current, cut, writing]
  rw [current] at flying handed
  have alone : (before ++ after).filter (fun flight => flight.1 = box.generation) = [] := by
    have length := congrArg List.length flying
    simp only [List.length_append, List.length_cons, List.map_cons, List.map_nil,
      List.length_nil] at length
    rw [List.filter_append, List.append_eq_nil_iff, ← List.length_eq_zero_iff,
      ← List.length_eq_zero_iff]
    omega
  have landed : Sound { box.take operation with queue := behind, writing := false } := by
    refine ⟨?_, sound.history, sound.orderly, ⟨done ++ [front], ?_, ?_⟩, ?_, by simp⟩
    · intro flight member
      exact sound.flights flight (List.mem_of_mem_eraseIdx member)
    · simpa [Outbox.take, cut] using queued
    · simpa [Outbox.take, Outbox.current] using handed
    · simpa [Outbox.take, Outbox.current, rest] using alone
  have same : (box.take operation).sent =
      { box.take operation with queue := behind, writing := false }.send := by
    unfold sent Outbox.send
    simp only [Outbox.take, cut, List.tail_cons]
  rw [same]
  exact landed.send (by simp [Outbox.current])

/-- At most one flight of the current generation. -/
theorem Sound.one_flight {box : Outbox α} (sound : Sound box) :
    (box.inFlight.filter fun flight => flight.1 = box.generation).length ≤ 1 := by
  rw [sound.flying, List.length_map, current]
  split
  · exact List.length_take_le 1 box.queue
  · simp

end Outbox

end Ssim.Library
