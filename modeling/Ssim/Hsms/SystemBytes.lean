import Ssim.Hsms.Session
import Mathlib.Data.List.Perm.Subperm
import Mathlib.Data.List.Nodup

/-!
# System-bytes allocation

The search tries consecutive candidates.  Only zero, the open transactions and
the pending Linktest are skipped, so by counting it ends after at most two more
rounds than there are open transactions, plus the one that succeeds.
-/

namespace Ssim.Hsms.Session

/-- The candidates of the first `rounds` rounds. -/
def candidates (start : UInt32) (rounds : Nat) : List UInt32 :=
  (List.range rounds).map fun round => start + UInt32.ofNat round

theorem candidates_nodup (start : UInt32) {rounds : Nat} (within : rounds ≤ 2 ^ 32) :
    (candidates start rounds).Nodup := by
  refine List.Nodup.map_on ?_ List.nodup_range
  intro first firstMem second secondMem same
  have firstLt : first < 2 ^ 32 := by have := List.mem_range.mp firstMem; omega
  have secondLt : second < 2 ^ 32 := by have := List.mem_range.mp secondMem; omega
  have offsets : UInt32.ofNat first = UInt32.ofNat second := (UInt32.add_right_inj start).mp same
  have values := congrArg UInt32.toNat offsets
  rwa [UInt32.toNat_ofNat_of_lt' firstLt, UInt32.toNat_ofNat_of_lt' secondLt] at values

theorem candidates_succ (start : UInt32) (rounds : Nat) :
    candidates start (rounds + 1) = start :: candidates (start + 1) rounds := by
  simp only [candidates, List.range_succ_eq_map, List.map_cons, List.map_map]
  refine congrArg₂ List.cons (by simp) (List.map_congr_left fun round _ => ?_)
  simp only [Function.comp_apply]
  rw [UInt32.add_assoc]
  congr 1
  apply UInt32.toNat_inj.mp
  simp [Nat.add_comm]

/-- A search without a result has skipped every one of its candidates. -/
theorem searchSystemBytes_eq_none {inUse : UInt32 → Bool} {rounds : Nat} {start : UInt32}
    (ended : searchSystemBytes inUse rounds start = none) :
    ∀ candidate ∈ candidates start rounds, candidate = 0 ∨ inUse candidate = true := by
  induction rounds generalizing start with
  | zero => simp [candidates]
  | succ rounds ih =>
      rw [searchSystemBytes] at ended
      split at ended
      next skipped =>
        rw [candidates_succ]
        exact List.forall_mem_cons.mpr ⟨skipped, ih ended⟩
      · cases ended

/-- What the search finds is not zero and not in use. -/
theorem searchSystemBytes_eq_some {inUse : UInt32 → Bool} {rounds : Nat}
    {start system next : UInt32}
    (found : searchSystemBytes inUse rounds start = some (system, next)) :
    system ≠ 0 ∧ inUse system = false := by
  induction rounds generalizing start with
  | zero => cases found
  | succ rounds ih =>
      rw [searchSystemBytes] at found
      split at found
      · exact ih found
      next usable =>
        obtain ⟨rfl, _⟩ := Prod.mk.inj (Option.some.inj found)
        exact ⟨fun zero => usable (.inl zero), by simpa using fun used => usable (.inr used)⟩

/-- Zero, the pending Linktest and the open transactions are all that is ever skipped. -/
def skippable (session : Session) : List UInt32 :=
  0 :: (session.pendingLinktest.toList ++ session.transactions.keys)

theorem skippable_length (session : Session) :
    session.skippable.length ≤ session.openTransactions + 2 := by
  have pending : session.pendingLinktest.toList.length ≤ 1 := by
    cases session.pendingLinktest <;> simp
  rw [skippable, List.length_cons, List.length_append, Std.ExtTreeMap.length_keys]
  unfold openTransactions
  omega

theorem searchSystemBytes_total (session : Session) (start : UInt32) {rounds : Nat}
    (enough : session.openTransactions + 3 ≤ rounds) (within : rounds ≤ 2 ^ 32) :
    ∃ system next, searchSystemBytes session.inUse rounds start = some (system, next) := by
  cases found : searchSystemBytes session.inUse rounds start with
  | some result => exact ⟨result.1, result.2, rfl⟩
  | none =>
      have inside : candidates start rounds ⊆ session.skippable := by
        intro candidate member
        rcases searchSystemBytes_eq_none found candidate member with zero | used
        · simp [skippable, zero]
        · simp only [inUse, Bool.or_eq_true, decide_eq_true_eq] at used
          rcases used with isOpen | pending
          · have key := Std.ExtTreeMap.mem_keys.mpr (Std.ExtTreeMap.contains_iff_mem.mp isOpen)
            simp [skippable, key]
          · simp [skippable, pending]
      have counted := (List.subperm_of_subset (candidates_nodup start within) inside).length_le
      have bound := session.skippable_length
      simp only [candidates, List.length_map, List.length_range] at counted
      omega

/-- A search that ends does not depend on how many rounds were left. -/
theorem searchSystemBytes_of_le {inUse : UInt32 → Bool} {rounds more : Nat}
    {start : UInt32} {result : UInt32 × UInt32} (enough : rounds ≤ more)
    (found : searchSystemBytes inUse rounds start = some result) :
    searchSystemBytes inUse more start = some result := by
  induction rounds generalizing more start with
  | zero => cases found
  | succ rounds ih =>
      obtain ⟨fewer, rfl⟩ : ∃ fewer, more = fewer + 1 := ⟨more - 1, by omega⟩
      rw [searchSystemBytes] at found ⊢
      split at found
      next skipped =>
        rw [if_pos skipped]
        exact ih (by omega) found
      next usable =>
        rw [if_neg usable]
        exact found

theorem allocateSystemBytes_total {session : Session}
    (room : session.openTransactions + 3 ≤ 2 ^ 32) :
    ∃ system next, session.allocateSystemBytes = some (system, next) := by
  obtain ⟨system, next, found⟩ :=
    searchSystemBytes_total session session.nextSystemBytes room (Nat.le_refl _)
  exact ⟨system, _, by rw [allocateSystemBytes, found]; rfl⟩

/-- Allocated system bytes are fresh, and only the generator has moved. -/
theorem allocateSystemBytes_eq_some {session next : Session} {system : UInt32}
    (found : session.allocateSystemBytes = some (system, next)) :
    system ≠ 0 ∧ system ∉ session.transactions ∧ session.pendingLinktest ≠ some system ∧
      ∃ generator, next = { session with nextSystemBytes := generator } := by
  rw [allocateSystemBytes, Option.map_eq_some_iff] at found
  obtain ⟨⟨bytes, generator⟩, searched, same⟩ := found
  obtain ⟨rfl, rfl⟩ := Prod.mk.inj same
  obtain ⟨nonzero, unused⟩ := searchSystemBytes_eq_some searched
  simp only [inUse, Bool.or_eq_false_iff, decide_eq_false_iff_not] at unused
  refine ⟨nonzero, ?_, unused.2, generator, rfl⟩
  intro isOpen
  rw [Std.ExtTreeMap.contains_iff_mem.mpr isOpen] at unused
  exact absurd unused.1 (by decide)

end Ssim.Hsms.Session
