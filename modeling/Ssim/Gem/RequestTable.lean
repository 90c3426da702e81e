import Ssim.Gem.Service
import Ssim.Hsms.SystemBytes

/-!
# The requests that are open

What the session and the service remember of the requests they have sent: the
system bytes of the open transactions, what was sent with the system bytes of an
open request, and the generator.  `send` does to it what a posted request does,
of which only the shape matters.  Requests are sent the same way before and after
a transaction is closed, as long as they need neither its room nor its system
bytes.
-/

namespace Ssim.Gem

open Hsms (Header SessionConfig Session)
open Secs2 (Message)
open Std (ExtTreeMap)

/-- A request, as far as it matters for what is open once it is sent. -/
structure Sending where
  stream : UInt8
  function : UInt8
  wBit : Bool
  /-- The body can be encoded, and the frame is not too long. -/
  fits : Bool
  deriving DecidableEq

structure RequestTable where
  transactions : ExtTreeMap UInt32 Unit
  openRequests : ExtTreeMap UInt32 Header
  nextSystemBytes : UInt32

namespace RequestTable

/-- What is remembered of a request that was sent. -/
def requestHeader (deviceId : UInt16) (sending : Sending) (systemBytes : UInt32) : Header where
  sessionId := deviceId
  byte2 := (sending.stream &&& 0x7F) ||| 0x80
  byte3 := sending.function
  ptype := 0
  stype := 0
  systemBytes := systemBytes

/-- A request that wants a reply is open on both sides. -/
def note (table : RequestTable) (deviceId : UInt16) (sending : Sending) (systemBytes : UInt32) :
    RequestTable :=
  if sending.fits ∧ sending.wBit then
    { table with
      transactions := table.transactions.insert systemBytes ()
      openRequests := table.openRequests.insert systemBytes
        (requestHeader deviceId sending systemBytes) }
  else
    table

/-- There are too many transactions for a request that opens one. -/
def refuses (table : RequestTable) (limit : Nat) (sending : Sending) : Bool :=
  sending.wBit && table.transactions.size ≥ limit

/-- The system bytes that a request gets, and the next candidate. -/
def allocate (table : RequestTable) : Option (UInt32 × UInt32) :=
  Session.searchSystemBytes table.transactions.contains (2 ^ 32) table.nextSystemBytes

/-- `none` if the search for system bytes never ends. -/
def send (limit : Nat) (deviceId : UInt16) (table : RequestTable) (sending : Sending) :
    Option RequestTable :=
  if table.refuses limit sending then
    some table
  else
    table.allocate.map fun found =>
      { table with nextSystemBytes := found.2 }.note deviceId sending found.1

def sendAll (limit : Nat) (deviceId : UInt16) (table : RequestTable) (sendings : List Sending) :
    Option RequestTable :=
  sendings.foldlM (send limit deviceId) table

/-- The system bytes that a request gets, if it is not refused. -/
def given (limit : Nat) (table : RequestTable) (sending : Sending) : Option UInt32 :=
  if table.refuses limit sending then none else table.allocate.map Prod.fst

/-- The system bytes that requests get, one after the other. -/
def issued (limit : Nat) (deviceId : UInt16) : RequestTable → List Sending → List UInt32
  | _, [] => []
  | table, sending :: sendings =>
      (table.given limit sending).toList ++
        (table.send limit deviceId sending).elim [] (issued limit deviceId · sendings)

/-- A transaction ends; only a reply is told to the service. -/
def close (table : RequestTable) (answered : Bool) (systemBytes : UInt32) : RequestTable :=
  { table with
    transactions := table.transactions.erase systemBytes
    openRequests :=
      if answered then table.openRequests.erase systemBytes else table.openRequests }

/-! ## Sending -/

variable {limit : Nat} {deviceId : UInt16} {table next : RequestTable} {systemBytes : UInt32}

@[simp]
theorem sendAll_nil : table.sendAll limit deviceId [] = some table :=
  rfl

theorem sendAll_append (before after : List Sending) :
    table.sendAll limit deviceId (before ++ after) =
      (table.sendAll limit deviceId before).bind (sendAll limit deviceId · after) :=
  List.foldlM_append

theorem mem_note {deviceId : UInt16} {sending : Sending} {given key : UInt32} :
    key ∈ (table.note deviceId sending given).transactions ↔
      (sending.fits = true ∧ sending.wBit = true ∧ given = key) ∨ key ∈ table.transactions := by
  unfold note
  split
  next opened => simp [ExtTreeMap.mem_insert, opened]
  next kept =>
    constructor
    · exact .inr
    · rintro (⟨fits, wanted, _⟩ | member)
      · exact absurd ⟨fits, wanted⟩ kept
      · exact member

theorem size_note_le (table : RequestTable) (deviceId : UInt16) (sending : Sending)
    (given : UInt32) :
    (table.note deviceId sending given).transactions.size ≤
      table.transactions.size + if sending.wBit then 1 else 0 := by
  unfold note
  split
  next opened =>
    rw [if_pos opened.2]
    exact ExtTreeMap.size_insert_le
  · exact Nat.le_add_right _ _

/-- A request is refused, or it gets its system bytes. -/
theorem send_eq_some {sending : Sending} (sent : table.send limit deviceId sending = some next) :
    next = table ∧ table.given limit sending = none ∨
      ∃ found : UInt32 × UInt32, table.given limit sending = some found.1 ∧
        next = { table with nextSystemBytes := found.2 }.note deviceId sending found.1 := by
  unfold send at sent
  unfold given
  split at sent
  next refused => exact .inl ⟨(Option.some.inj sent).symm, if_pos refused⟩
  next taken =>
    obtain ⟨found, allocated, rfl⟩ := Option.map_eq_some_iff.mp sent
    exact .inr ⟨found, by rw [if_neg taken, allocated]; rfl, rfl⟩

theorem not_mem_issued_cons {sending : Sending} {sendings : List Sending}
    (sent : table.send limit deviceId sending = some next) :
    systemBytes ∉ table.issued limit deviceId (sending :: sendings) ↔
      table.given limit sending ≠ some systemBytes ∧
        systemBytes ∉ next.issued limit deviceId sendings := by
  simp [issued, sent]

/-- The transactions afterwards are those before and those that got their system bytes. -/
theorem mem_of_sendAll {sendings : List Sending}
    (sent : table.sendAll limit deviceId sendings = some next)
    (unissued : systemBytes ∉ table.issued limit deviceId sendings) :
    systemBytes ∈ next.transactions ↔ systemBytes ∈ table.transactions := by
  induction sendings generalizing table with
  | nil =>
      obtain rfl := Option.some.inj sent
      exact Iff.rfl
  | cons sending sendings ih =>
      obtain ⟨middle, first, later⟩ := Option.bind_eq_some_iff.mp sent
      obtain ⟨here, rest⟩ := (not_mem_issued_cons first).mp unissued
      rw [ih later rest]
      rcases send_eq_some first with ⟨rfl, _⟩ | ⟨found, given, rfl⟩
      · exact Iff.rfl
      · rw [mem_note]
        constructor
        · rintro (⟨_, _, rfl⟩ | member)
          · exact absurd given here
          · exact member
        · exact .inr

theorem mem_sendAll_of_mem {sendings : List Sending}
    (sent : table.sendAll limit deviceId sendings = some next)
    (member : systemBytes ∈ table.transactions) : systemBytes ∈ next.transactions := by
  induction sendings generalizing table with
  | nil => exact Option.some.inj sent ▸ member
  | cons sending sendings ih =>
      obtain ⟨middle, first, later⟩ := Option.bind_eq_some_iff.mp sent
      rcases send_eq_some first with ⟨rfl, _⟩ | ⟨found, _, rfl⟩
      · exact ih later member
      · exact ih later (mem_note.mpr (.inr member))

/-! ## Closing before and after -/

/-- A search that does not find the system bytes that were freed finds what it found before. -/
theorem search_of_freed {inUse : UInt32 → Bool} {freed : UInt32} {rounds : Nat}
    {candidate : UInt32}
    (other : ∀ after, Session.searchSystemBytes (fun used => inUse used && used ≠ freed) rounds
      candidate ≠ some (freed, after)) :
    Session.searchSystemBytes inUse rounds candidate =
      Session.searchSystemBytes (fun used => inUse used && used ≠ freed) rounds candidate := by
  induction rounds generalizing candidate with
  | zero => rfl
  | succ rounds ih =>
      simp only [Session.searchSystemBytes] at other ⊢
      by_cases skipped : candidate = 0 ∨ (inUse candidate && decide (candidate ≠ freed)) = true
      · have inUseToo : candidate = 0 ∨ inUse candidate = true :=
          skipped.imp id fun both => ((Bool.and_eq_true _ _).mp both).1
        rw [if_pos skipped] at other ⊢
        rw [if_pos inUseToo]
        exact ih other
      · rw [if_neg skipped] at other ⊢
        have different : candidate ≠ freed := fun same => other (candidate + 1) (by rw [same])
        rw [if_neg fun used => skipped (used.imp id fun isUsed => by simp [isUsed, different])]

theorem mem_close {answered : Bool} {key : UInt32} :
    key ∈ (table.close answered systemBytes).transactions ↔
      systemBytes ≠ key ∧ key ∈ table.transactions := by
  simp [close, ExtTreeMap.mem_erase]

theorem allocate_close {answered : Bool}
    (other : ∀ after, (table.close answered systemBytes).allocate ≠ some (systemBytes, after)) :
    table.allocate = (table.close answered systemBytes).allocate := by
  have contains : (table.close answered systemBytes).transactions.contains =
      fun used => table.transactions.contains used && used ≠ systemBytes := by
    funext used
    rw [Bool.eq_iff_iff, ExtTreeMap.contains_iff_mem, mem_close, Bool.and_eq_true,
      ExtTreeMap.contains_iff_mem, decide_eq_true_eq, and_comm, ne_comm]
  unfold allocate at other ⊢
  rw [contains] at other ⊢
  exact search_of_freed other

theorem note_close (table : RequestTable) {answered : Bool} (sending : Sending) {given : UInt32}
    (different : given ≠ systemBytes) :
    (table.close answered systemBytes).note deviceId sending given =
      (table.note deviceId sending given).close answered systemBytes := by
  unfold note
  split
  · simp only [close, mk.injEq, and_true]
    constructor
    · refine ExtTreeMap.ext_mem_unit fun key => ?_
      simp only [ExtTreeMap.mem_insert, ExtTreeMap.mem_erase, Std.compare_eq_iff_eq, ne_eq]
      constructor
      · rintro (rfl | ⟨other, member⟩)
        · exact ⟨different.symm, .inl rfl⟩
        · exact ⟨other, .inr member⟩
      · rintro ⟨other, same | member⟩
        · exact .inl same
        · exact .inr ⟨other, member⟩
    · cases answered with
      | false => rfl
      | true =>
          refine ExtTreeMap.ext_getElem? fun key => ?_
          simp only [if_true, ExtTreeMap.getElem?_insert, ExtTreeMap.getElem?_erase,
            Std.compare_eq_iff_eq]
          by_cases same : given = key
          · subst same
            simp [different.symm]
          · simp [same]
  · rfl

theorem refuses_close {answered : Bool} {sending : Sending}
    (room : systemBytes ∈ table.transactions → table.refuses limit sending = false) :
    (table.close answered systemBytes).refuses limit sending = table.refuses limit sending := by
  by_cases member : systemBytes ∈ table.transactions
  · have shrinks : (table.close answered systemBytes).transactions.size ≤
        table.transactions.size := ExtTreeMap.size_erase_le
    have before := room member
    rw [before]
    unfold refuses at before ⊢
    simp only [Bool.and_eq_false_iff, decide_eq_false_iff_not, ge_iff_le, not_le] at before ⊢
    exact before.imp id (Nat.lt_of_le_of_lt shrinks)
  · have same : (table.close answered systemBytes).transactions = table.transactions :=
      ExtTreeMap.ext_mem_unit fun key => by
        rw [mem_close]
        exact ⟨And.right, fun isOpen => ⟨fun equal => member (equal ▸ isOpen), isOpen⟩⟩
    rw [refuses, refuses, same]

/-- One request, before and after: it gets the same system bytes. -/
theorem send_close {answered : Bool} {sending : Sending} (deviceId : UInt16)
    (room : systemBytes ∈ table.transactions → table.refuses limit sending = false)
    (other : (table.close answered systemBytes).given limit sending ≠ some systemBytes) :
    (table.close answered systemBytes).given limit sending = table.given limit sending ∧
      (table.close answered systemBytes).send limit deviceId sending =
        (table.send limit deviceId sending).map (close · answered systemBytes) := by
  unfold given at other ⊢
  unfold send
  rw [refuses_close room] at other ⊢
  split
  · exact ⟨rfl, rfl⟩
  next taken =>
    rw [if_neg taken] at other
    have different (after : UInt32) :
        (table.close answered systemBytes).allocate ≠ some (systemBytes, after) :=
      fun found => other (by rw [found]; rfl)
    rw [← allocate_close different] at other ⊢
    refine ⟨rfl, ?_⟩
    cases found : table.allocate with
    | none => rfl
    | some result =>
        rw [found] at other
        have apart : result.1 ≠ systemBytes := fun same => other (congrArg some same)
        exact congrArg some (note_close { table with nextSystemBytes := result.2 } sending apart)

/-- All requests, before and after. -/
theorem sendAll_close {answered : Bool} {sendings : List Sending}
    (room : systemBytes ∈ table.transactions →
      table.transactions.size + sendings.countP Sending.wBit ≤ limit)
    (unissued : systemBytes ∉ (table.close answered systemBytes).issued limit deviceId sendings) :
    (table.close answered systemBytes).sendAll limit deviceId sendings =
      (table.sendAll limit deviceId sendings).map (close · answered systemBytes) := by
  induction sendings generalizing table with
  | nil => rfl
  | cons sending sendings ih =>
      have accepted : systemBytes ∈ table.transactions → table.refuses limit sending = false := by
        intro member
        have bound := room member
        cases wanted : sending.wBit with
        | false => simp [refuses, wanted]
        | true =>
            rw [List.countP_cons_of_pos wanted] at bound
            simp only [refuses, wanted, Bool.true_and, decide_eq_false_iff_not]
            omega
      have other : (table.close answered systemBytes).given limit sending ≠ some systemBytes :=
        fun same => unissued (by simp [issued, same])
      obtain ⟨sameBytes, first⟩ := send_close deviceId accepted other
      simp only [sendAll, List.foldlM_cons] at ih ⊢
      rw [first]
      cases sent : table.send limit deviceId sending with
      | none => rfl
      | some next =>
          rw [sent] at first
          obtain ⟨_, rest⟩ := (not_mem_issued_cons first).mp unissued
          refine ih (fun member => ?_) rest
          rw [sameBytes] at other
          rcases send_eq_some sent with ⟨rfl, _⟩ | ⟨found, given, rfl⟩
          · have bound := room member
            rw [List.countP_cons] at bound
            omega
          · -- The request was not given these system bytes, so they were in use before it.
            rcases mem_note.mp member with ⟨_, _, same⟩ | earlier
            · exact absurd (same ▸ given) other
            · have bound := room earlier
              have grown := size_note_le { table with nextSystemBytes := found.2 } deviceId sending
                found.1
              rw [List.countP_cons] at bound
              dsimp only at grown
              omega

end RequestTable

end Ssim.Gem
