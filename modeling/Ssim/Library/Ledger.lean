import Mathlib.Data.List.Basic

/-!
# Ledgers

A ledger maps keys to the values of what is open under them.  Events open keys and
close them.  `Follows` relates two ledgers by a history whose events are all
justified by the ledger they meet.  Over such a history an opened key stays open
until the first event that closes it, and a closed key is open again only after
another opening.
-/

namespace Ssim.Library.Ledger

/-- What the events of a history do to a ledger, and when they may occur. -/
structure Rules (Event Key Value : Type*) where
  opens : Event → Key → Option Value
  closes : Event → Key → Bool
  justified : (Key → Option Value) → Event → Prop
  /-- Only a key that is not open is opened. -/
  opens_unused : ∀ {ledger event key value}, justified ledger event →
    opens event key = some value → ledger key = none

variable {Event Key Value : Type*} (rules : Rules Event Key Value)

namespace Rules

/-- The ledger after an event. -/
def post (ledger : Key → Option Value) (event : Event) (key : Key) : Option Value :=
  (rules.opens event key).or (if rules.closes event key then none else ledger key)

inductive Follows : (Key → Option Value) → List Event → (Key → Option Value) → Prop
  | nil (ledger) : Follows ledger [] ledger
  | cons {ledger event events last} (just : rules.justified ledger event)
      (rest : Follows (rules.post ledger event) events last) :
      Follows ledger (event :: events) last

variable {rules}

theorem Follows.single {ledger last : Key → Option Value} {event : Event}
    (just : rules.justified ledger event) (same : rules.post ledger event = last) :
    rules.Follows ledger [event] last :=
  .cons just (same ▸ .nil _)

theorem Follows.append {first middle last : Key → Option Value} {before after : List Event}
    (one : rules.Follows first before middle) (two : rules.Follows middle after last) :
    rules.Follows first (before ++ after) last := by
  induction one with
  | nil => exact two
  | cons just _ ih => exact .cons just (ih two)

/-- A history can be stopped anywhere. -/
theorem Follows.split {first last : Key → Option Value} {before after : List Event}
    (whole : rules.Follows first (before ++ after) last) :
    ∃ middle, rules.Follows first before middle ∧ rules.Follows middle after last := by
  induction before generalizing first with
  | nil => exact ⟨first, .nil _, whole⟩
  | cons event events ih =>
      cases whole with
      | cons just rest =>
          obtain ⟨middle, one, two⟩ := ih rest
          exact ⟨middle, .cons just one, two⟩

/-- The ledger that an event of a history meets justifies it. -/
theorem Follows.at_event {first last : Key → Option Value} {before after : List Event}
    {event : Event} (whole : rules.Follows first (before ++ event :: after) last) :
    ∃ middle, rules.Follows first before middle ∧ rules.justified middle event ∧
      rules.Follows (rules.post middle event) after last := by
  obtain ⟨middle, one, two⟩ := whole.split
  cases two with
  | cons just rest => exact ⟨middle, one, just, rest⟩

/-- While nothing closes it, an open key keeps its value. -/
theorem Follows.stays {first last : Key → Option Value} {events : List Event} {key : Key}
    {value : Value} (history : rules.Follows first events last) (isOpen : first key = some value)
    (untouched : ∀ event ∈ events, rules.closes event key = false) : last key = some value := by
  induction history with
  | nil => exact isOpen
  | @cons ledger event events last just rest ih =>
      rw [List.forall_mem_cons] at untouched
      refine ih ?_ untouched.2
      cases opened : rules.opens event key with
      | none => simp [post, opened, untouched.1, isOpen]
      | some other =>
          have unused := rules.opens_unused just opened
          rw [isOpen] at unused
          cases unused

/-- A key that is open at the end was open at the start or has been opened. -/
theorem Follows.opened_of_open {first last : Key → Option Value} {events : List Event}
    {key : Key} {value : Value} (history : rules.Follows first events last)
    (isOpen : last key = some value) :
    (first key = some value ∧ ∀ event ∈ events, rules.closes event key = false) ∨
      ∃ before event after, events = before ++ event :: after ∧
        rules.opens event key = some value ∧
        ∀ later ∈ after, rules.closes later key = false := by
  induction history with
  | nil => exact .inl ⟨isOpen, by simp⟩
  | @cons ledger event events last just rest ih =>
      rcases ih isOpen with ⟨atStart, untouched⟩ | ⟨before, opening, after, rfl, opened, untouched⟩
      · cases opened : rules.opens event key with
        | some other =>
            refine .inr ⟨[], event, events, rfl, ?_, untouched⟩
            simpa [post, opened] using atStart
        | none =>
            cases closed : rules.closes event key with
            | true => simp [post, opened, closed] at atStart
            | false =>
                refine .inl ⟨by simpa [post, opened, closed] using atStart, ?_⟩
                exact List.forall_mem_cons.mpr ⟨closed, untouched⟩
      · exact .inr ⟨event :: before, opening, after, rfl, opened, untouched⟩

/-- A key that no event closes is still open at the end. -/
theorem Follows.open_of_find?_eq_none {first last : Key → Option Value} {events : List Event}
    {key : Key} {value : Value} (history : rules.Follows first events last)
    (isOpen : first key = some value) (found : events.find? (rules.closes · key) = none) :
    last key = some value := by
  refine history.stays isOpen fun event member => ?_
  simpa using List.find?_eq_none.mp found event member

/-- The first event that closes an open key meets it with its value. -/
theorem Follows.justified_of_find?_eq_some {first last : Key → Option Value}
    {events : List Event} {key : Key} {value : Value} {event : Event}
    (history : rules.Follows first events last) (isOpen : first key = some value)
    (found : events.find? (rules.closes · key) = some event) :
    ∃ middle, middle key = some value ∧ rules.justified middle event := by
  obtain ⟨_, before, after, rfl, untouched⟩ := List.find?_eq_some_iff_append.mp found
  obtain ⟨middle, one, just, _⟩ := history.at_event
  exact ⟨middle, one.stays isOpen (by simpa using untouched), just⟩

/-- While nothing closes it, an open key is not opened again. -/
theorem Follows.not_opened {first last : Key → Option Value} {events : List Event} {key : Key}
    {value : Value} (history : rules.Follows first events last) (isOpen : first key = some value)
    (untouched : ∀ event ∈ events, rules.closes event key = false) :
    ∀ event ∈ events, rules.opens event key = none := by
  intro event member
  obtain ⟨before, after, rfl⟩ := List.append_of_mem member
  obtain ⟨middle, one, just, _⟩ := history.at_event
  have still : middle key = some value :=
    one.stays isOpen fun earlier front => untouched earlier (List.mem_append_left _ front)
  cases opened : rules.opens event key with
  | none => rfl
  | some other =>
      have unused := rules.opens_unused just opened
      rw [still] at unused
      cases unused

section ClosedOnce

variable {key : Key}
  (onlyOpen : ∀ {ledger event}, rules.justified ledger event → rules.closes event key = true →
    ledger key ≠ none)
include onlyOpen

/-- A key that is not open, and is not opened, is not closed. -/
theorem Follows.not_closed {first last : Key → Option Value} {events : List Event}
    (history : rules.Follows first events last) (unused : first key = none)
    (unopened : ∀ event ∈ events, rules.opens event key = none) :
    events.countP (rules.closes · key) = 0 := by
  induction history with
  | nil => rfl
  | @cons ledger event events last just rest ih =>
      rw [List.forall_mem_cons] at unopened
      have untouched : rules.closes event key = false :=
        Bool.eq_false_iff.mpr fun closes => onlyOpen just closes unused
      have after : rules.post ledger event key = none := by
        simp [post, unopened.1, untouched, unused]
      rw [List.countP_cons_of_neg (by simp [untouched]), ih after unopened.2]

/-- A key that is open first, and not at the end, is closed exactly once if it is not reopened. -/
theorem Follows.closed_once {first last : Key → Option Value} {events : List Event}
    (history : rules.Follows first events last) (isOpen : first key ≠ none)
    (closed : last key = none) (unopened : ∀ event ∈ events, rules.opens event key = none) :
    events.countP (rules.closes · key) = 1 := by
  induction history with
  | nil => exact absurd closed isOpen
  | @cons ledger event events last just rest ih =>
      rw [List.forall_mem_cons] at unopened
      cases closes : rules.closes event key with
      | true =>
          have after : rules.post ledger event key = none := by
            simp [post, unopened.1, closes]
          rw [List.countP_cons_of_pos (by simp [closes]),
            rest.not_closed onlyOpen after unopened.2]
      | false =>
          have after : rules.post ledger event key ≠ none := by
            simpa [post, unopened.1, closes] using isOpen
          rw [List.countP_cons_of_neg (by simp [closes]), ih after closed unopened.2]

end ClosedOnce

end Rules

end Ssim.Library.Ledger
