import Mathlib.Data.List.Basic

/-!
# Prefix parsers and grammars

A step parser consumes a prefix of its input and hands back the rest.  It is
sound for a grammar when every prefix it consumed derives the value it returned,
and complete when it reads every derivation, whatever follows it.  The two
together make derivations unique, and both are inherited by counted repetition.
-/

namespace Ssim.Library.PrefixParser

abbrev Grammar (τ α : Type) := List τ → α → Prop

abbrev StepParser (τ ε α : Type) := List τ → Except ε (α × List τ)

variable {τ ε α : Type}

def Sound (grammar : Grammar τ α) (parser : StepParser τ ε α) : Prop :=
  ∀ input value rest, parser input = .ok (value, rest) →
    ∃ used, input = used ++ rest ∧ grammar used value

def Complete (grammar : Grammar τ α) (parser : StepParser τ ε α) : Prop :=
  ∀ used value rest, grammar used value → parser (used ++ rest) = .ok (value, rest)

/-- Derivations of a completely parsed grammar that start one input agree. -/
theorem Complete.unique {grammar : Grammar τ α} {parser : StepParser τ ε α}
    (complete : Complete grammar parser) {used other rest tail : List τ} {value result : α}
    (first : grammar used value) (second : grammar other result)
    (same : used ++ rest = other ++ tail) : used = other ∧ value = result := by
  have one := complete used value rest first
  have two := complete other result tail second
  rw [same, two] at one
  have parts := Prod.mk.inj (Except.ok.inj one)
  refine ⟨?_, parts.1.symm⟩
  rw [parts.2] at same
  exact List.append_cancel_right same

/-! ## Counted repetition -/

/-- `count` derivations one after the other. -/
inductive Sequence (grammar : Grammar τ α) : Nat → List τ → List α → Prop where
  | nil : Sequence grammar 0 [] []
  | cons {count : Nat} {used tail : List τ} {value : α} {values : List α}
      (head : grammar used value) (rest : Sequence grammar count tail values) :
      Sequence grammar (count + 1) (used ++ tail) (value :: values)

/-- Run a parser `count` times and collect its values in order. -/
def repeatCount (parser : StepParser τ ε α) : Nat → StepParser τ ε (List α)
  | 0, input => .ok ([], input)
  | count + 1, input =>
      match parser input with
      | .error reason => .error reason
      | .ok (value, input) =>
          match repeatCount parser count input with
          | .error reason => .error reason
          | .ok (values, input) => .ok (value :: values, input)

/-- If every derivation takes at least `size` tokens, a sequence takes `size` for each. -/
theorem Sequence.length_used {grammar : Grammar τ α} {size count : Nat} {used : List τ}
    {values : List α} (least : ∀ used value, grammar used value → size ≤ used.length)
    (sequence : Sequence grammar count used values) : count * size ≤ used.length := by
  induction sequence with
  | nil => simp
  | cons head rest ih =>
      have here := least _ _ head
      rw [List.length_append, Nat.add_mul, Nat.one_mul]
      omega

theorem Sound.repeatCount {grammar : Grammar τ α} {parser : StepParser τ ε α}
    (sound : Sound grammar parser) (count : Nat) :
    Sound (Sequence grammar count) (repeatCount parser count) := by
  induction count with
  | zero =>
      intro input values rest found
      obtain ⟨rfl, rfl⟩ := Prod.mk.inj (Except.ok.inj found)
      exact ⟨[], rfl, .nil⟩
  | succ count ih =>
      intro input values rest found
      simp only [PrefixParser.repeatCount] at found
      split at found
      · cases found
      next value middle here =>
        split at found
        · cases found
        next tail last there =>
          obtain ⟨rfl, rfl⟩ := Prod.mk.inj (Except.ok.inj found)
          obtain ⟨used, rfl, head⟩ := sound _ _ _ here
          obtain ⟨after, rfl, others⟩ := ih _ _ _ there
          exact ⟨used ++ after, (List.append_assoc _ _ _).symm, .cons head others⟩

theorem Complete.repeatCount {grammar : Grammar τ α} {parser : StepParser τ ε α}
    (complete : Complete grammar parser) (count : Nat) :
    Complete (Sequence grammar count) (repeatCount parser count) := by
  intro used values rest sequence
  induction sequence with
  | nil => rfl
  | cons head tail ih =>
      rw [List.append_assoc]
      simp [PrefixParser.repeatCount, complete _ _ _ head, ih]

end Ssim.Library.PrefixParser
