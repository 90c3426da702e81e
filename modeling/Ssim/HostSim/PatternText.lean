import Ssim.HostSim.Pattern

/-!
# The text of items

The parser always comes to an end within its fuel, and each call of it consumes
something.  What it accepts without wildcards it accepts with them, as the same
pattern, and that pattern matches the parsed item only.
-/

namespace Ssim.HostSim

open Core Secs2 Library.Numerals Library.CIntegers Library.PrefixParser

/-! ## Progress -/

/-- A failure is a syntax error, and a success leaves less of the text. -/
def Consumes {α : Type} (rest : Text) : Except SyntaxError (α × Text) → Prop
  | .error reason => reason.code = kErrPatternSyntax
  | .ok (_, next) => next.length < rest.length

theorem fail_consumes {α : Type} (size : Nat) (what at_ rest : Text) :
    Consumes rest (fail size what at_ : Except SyntaxError (α × Text)) :=
  rfl

theorem Consumes.mono {α : Type} {rest other : Text} {outcome : Except SyntaxError (α × Text)}
    (consumes : Consumes rest outcome) (le : rest.length ≤ other.length) :
    Consumes other outcome := by
  cases outcome with
  | error reason => exact consumes
  | ok parts => exact Nat.lt_of_lt_of_le consumes le

theorem Consumes.code_of_error {α : Type} {rest : Text} {outcome : Except SyntaxError (α × Text)}
    {reason : SyntaxError} (consumes : Consumes rest outcome) (failed : outcome = .error reason) :
    reason.code = kErrPatternSyntax := by
  rw [failed] at consumes
  exact consumes

theorem Consumes.lt_of_ok {α : Type} {rest next : Text} {outcome : Except SyntaxError (α × Text)}
    {value : α} (consumes : Consumes rest outcome) (done : outcome = .ok (value, next)) :
    next.length < rest.length := by
  rw [done] at consumes
  exact consumes

theorem skipSpace_length_le (rest : Text) : (skipSpace rest).length ≤ rest.length :=
  (List.dropWhile_suffix _).length_le

theorem parseString_consumes (size : Nat) (escaped : Bool) (rest : Text) :
    Consumes rest (parseString size escaped rest) := by
  induction rest generalizing escaped with
  | nil => cases escaped <;> exact fail_consumes _ _ _ _
  | cons byte rest ih =>
      have read := ih false
      cases escaped with
      | true =>
          rw [parseString]
          split
          next => exact fail_consumes _ _ _ _
          next =>
            generalize parseString size false rest = outcome at read ⊢
            cases outcome with
            | error reason => exact read
            | ok string => exact Nat.lt_succ_of_lt read
      | false =>
          rw [parseString]
          split
          next => exact Nat.lt_succ_self _
          next =>
            split
            next => exact (ih true).mono (Nat.le_succ _)
            next =>
              generalize parseString size false rest = outcome at read ⊢
              cases outcome with
              | error reason => exact read
              | ok string => exact Nat.lt_succ_of_lt read

theorem readWords_length_lt {current rest next : Text} {words : List Text}
    (read : readWords current rest = some (words, next)) : next.length < rest.length := by
  induction rest generalizing current words with
  | nil => simp [readWords] at read
  | cons byte rest ih =>
      rw [readWords] at read
      split at read
      next =>
        simp only [Option.some.injEq, Prod.mk.injEq] at read
        rw [← read.2]
        exact Nat.lt_succ_self _
      next =>
        split at read
        next =>
          obtain ⟨⟨others, last⟩, later, same⟩ := Option.map_eq_some_iff.mp read
          simp only [Prod.mk.injEq] at same
          rw [same.2] at later
          exact Nat.lt_succ_of_lt (ih later)
        next =>
          exact Nat.lt_succ_of_lt (ih read)

section Progress

variable (floats : FloatLibrary) (wild : Bool) (size : Nat)

theorem parseArray_consumes (format : Format) (rest : Text) :
    Consumes rest (parseArray floats size format rest) := by
  unfold parseArray
  split
  next => exact fail_consumes _ _ _ _
  next words next read =>
    split
    next => exact fail_consumes _ _ _ _
    next =>
      split
      next => exact fail_consumes _ _ _ _
      next =>
        split
        next => exact fail_consumes _ _ _ _
        next => exact readWords_length_lt read

theorem parseBracket_consumes {format : Format} {rest : Text}
    {content : Text → Except SyntaxError (Option Pattern × Text)}
    (consumes : ∀ inner : Text, Consumes (91 :: inner) (content inner)) :
    Consumes (91 :: rest) (parseBracket wild size format rest content) := by
  have skipped := skipSpace_length_le rest
  unfold parseBracket
  split
  next after same =>
    rw [same] at skipped
    split
    next => exact fail_consumes _ _ _ _
    next =>
      have again := skipSpace_length_le after
      split
      next last closed =>
        rw [closed] at again
        simp only [Consumes, List.length_cons] at again skipped ⊢
        omega
      next => exact fail_consumes _ _ _ _
  next => exact (consumes _).mono (Nat.succ_le_succ skipped)

theorem parseHead_consumes (rest : Text) :
    Consumes rest (parseHead floats wild size rest) := by
  have skipped := skipSpace_length_le rest
  unfold parseHead
  split
  next => exact fail_consumes _ _ _ _
  next after same =>
    rw [same] at skipped
    split
    next => exact fail_consumes _ _ _ _
    next => exact skipped
  next =>
    have named := (List.dropWhile_suffix (l := skipSpace rest) isAlnum).length_le
    dsimp only
    split
    next => exact fail_consumes _ _ _ _
    next =>
      split
      next => exact fail_consumes _ _ _ _
      next format _ =>
        split
        next quoted same =>
          rw [same] at named
          have read := parseString_consumes size false quoted
          split
          next =>
            split
            next reason failed => exact read.code_of_error failed
            next text next done =>
              have shorter := read.lt_of_ok done
              simp only [Consumes, List.length_cons] at named ⊢
              omega
          next => exact fail_consumes _ _ _ _
        next bracketed same =>
          rw [same] at named
          refine (parseBracket_consumes wild size fun inner => ?_).mono (Nat.le_trans named skipped)
          split
          next => exact Nat.lt_succ_self _
          next =>
            have read := parseArray_consumes floats size format inner
            split
            next reason failed => exact read.code_of_error failed
            next item next done => exact Nat.lt_succ_of_lt (read.lt_of_ok done)
        next => exact fail_consumes _ _ _ _

/-- With more fuel than text the recursion is never cut short. -/
theorem parseNode_consumes (fuel : Nat) :
    (∀ rest : Text, 2 * rest.length < fuel → Consumes rest (parseNode floats wild size fuel rest)) ∧
      ∀ rest : Text, 2 * rest.length + 1 < fuel →
        Consumes rest (parseList floats wild size fuel rest) := by
  induction fuel with
  | zero =>
      constructor
      · intro rest enough
        omega
      · intro rest enough
        omega
  | succ fuel ih =>
      obtain ⟨node, list⟩ := ih
      constructor
      · intro rest enough
        have head := parseHead_consumes floats wild size rest
        rw [parseNode]
        split
        next reason failed => exact head.code_of_error failed
        next pattern next read => exact head.lt_of_ok read
        next next read =>
          have shorter := head.lt_of_ok read
          have entries := list next (by omega)
          split
          next reason failed => exact entries.code_of_error failed
          next children last done => exact Nat.lt_trans (entries.lt_of_ok done) shorter
      · intro rest enough
        have skipped := skipSpace_length_le rest
        rw [parseList]
        split
        next => exact fail_consumes _ _ _ _
        next after same =>
          rw [same] at skipped
          exact skipped
        next =>
          have child := node (skipSpace rest) (by omega)
          split
          next reason failed => exact child.code_of_error failed
          next pattern next read =>
            have shorter := child.lt_of_ok read
            have entries := list next (by omega)
            split
            next reason failed => exact entries.code_of_error failed
            next children last done =>
              have least := entries.lt_of_ok done
              simp only [Consumes]
              omega

/-- Every failure of the parser is a syntax error. -/
theorem parseAll_error {text : Text} {reason : SyntaxError}
    (failed : parseAll floats wild text = .error reason) : reason.code = kErrPatternSyntax := by
  have node := (parseNode_consumes floats wild text.length (2 * text.length + 1)).1 text
    (Nat.lt_succ_self _)
  unfold parseAll at failed
  split at failed
  next other stopped =>
    rw [← Except.error.inj failed]
    exact node.code_of_error stopped
  next pattern next read =>
    split at failed
    next => exact absurd failed (by simp)
    next =>
      rw [← Except.error.inj failed]

end Progress

/-! ## Items are patterns -/

mutual

/-- The pattern has no wildcards. -/
def Pattern.Plain : Pattern → Prop
  | .exact _ => True
  | .list children => PlainAll children
  | .anyItem | .anyOfFormat _ | .anyList => False

def Pattern.PlainAll : List Pattern → Prop
  | [] => True
  | child :: children => child.Plain ∧ PlainAll children

end

mutual

/-- A pattern without wildcards matches what equals its item. -/
theorem matchesItem_plain :
    (pattern : Pattern) → pattern.Plain → (item : Item) →
      matchesItem pattern item = equalItems item (toItem pattern)
  | .exact _, _, _ => by rw [matchesItem, toItem]
  | .list children, plain, .list items => by
      rw [matchesItem, toItem, equalItems, matchesItems_plain children plain items]
  | .list _, _, .array _ => by simp [matchesItem, toItem, equalItems]
  | .anyItem, plain, _ => plain.elim
  | .anyOfFormat _, plain, _ => plain.elim
  | .anyList, plain, _ => plain.elim

theorem matchesItems_plain :
    (children : List Pattern) → Pattern.PlainAll children → (items : List Item) →
      matchesItems children items = equalLists items (toItems children)
  | [], _, [] => rfl
  | [], _, _ :: _ => rfl
  | _ :: _, _, [] => rfl
  | child :: children, plain, item :: items => by
      rw [matchesItems, toItems, equalLists, matchesItem_plain child plain.1 item,
        matchesItems_plain children plain.2 items]

end

section Wildcards

variable (floats : FloatLibrary) (size : Nat)

theorem parseBracket_wild {format : Format} {rest next : Text} {node : Option Pattern}
    {content : Text → Except SyntaxError (Option Pattern × Text)}
    (read : parseBracket false size format rest content = .ok (node, next)) :
    parseBracket true size format rest content = .ok (node, next) ∧
      ∃ inner, content inner = .ok (node, next) := by
  unfold parseBracket at read ⊢
  split at read
  next =>
    rw [if_pos rfl] at read
    exact absurd read (by simp [fail])
  next => exact ⟨read, _, read⟩

/-- What is read without wildcards is the entry to a list, or an item. -/
def PlainHead (node : Option Pattern) : Prop :=
  ∀ pattern, node = some pattern → pattern.Plain

theorem plainHead_exact (item : Item) : PlainHead (some (.exact item)) := by
  intro pattern same
  rw [← Option.some.inj same]
  trivial

theorem plainHead_none : PlainHead none := by
  intro pattern same
  cases same

theorem parseHead_wild {rest next : Text} {node : Option Pattern}
    (read : parseHead floats false size rest = .ok (node, next)) :
    parseHead floats true size rest = .ok (node, next) ∧ PlainHead node := by
  unfold parseHead at read ⊢
  split at read
  next => exact absurd read (by simp [fail])
  next =>
    rw [if_pos rfl] at read
    exact absurd read (by simp [fail])
  next =>
    dsimp only at read ⊢
    split at read
    next => exact absurd read (by simp [fail])
    next named =>
      rw [if_neg named]
      split at read
      next => exact absurd read (by simp [fail])
      next format _ =>
        split at read
        next =>
          refine ⟨read, ?_⟩
          split at read
          next =>
            split at read
            next => exact absurd read (by simp)
            next =>
              simp only [Except.ok.injEq, Prod.mk.injEq] at read
              rw [← read.1]
              exact plainHead_exact _
          next => exact absurd read (by simp [fail])
        next =>
          obtain ⟨wild, inner, content⟩ := parseBracket_wild size read
          refine ⟨wild, ?_⟩
          split at content
          next =>
            simp only [Except.ok.injEq, Prod.mk.injEq] at content
            rw [← content.1]
            exact plainHead_none
          next =>
            split at content
            next => exact absurd content (by simp)
            next =>
              simp only [Except.ok.injEq, Prod.mk.injEq] at content
              rw [← content.1]
              exact plainHead_exact _
        next => exact absurd read (by simp [fail])

/-- What is accepted without wildcards is the same plain pattern with them. -/
theorem parseNode_wild (fuel : Nat) :
    (∀ (rest next : Text) (pattern : Pattern),
      parseNode floats false size fuel rest = .ok (pattern, next) →
        parseNode floats true size fuel rest = .ok (pattern, next) ∧ pattern.Plain) ∧
      ∀ (rest next : Text) (children : List Pattern),
        parseList floats false size fuel rest = .ok (children, next) →
          parseList floats true size fuel rest = .ok (children, next) ∧
            Pattern.PlainAll children := by
  induction fuel with
  | zero =>
      constructor
      · intro rest next pattern read
        exact absurd read (by simp [parseNode, outOfFuel])
      · intro rest next children read
        exact absurd read (by simp [parseList, outOfFuel])
  | succ fuel ih =>
      obtain ⟨node, list⟩ := ih
      constructor
      · intro rest next pattern read
        rw [parseNode] at read ⊢
        split at read
        next => exact absurd read (by simp)
        next leaf last head =>
          obtain ⟨wild, plain⟩ := parseHead_wild floats size head
          simp only [Except.ok.injEq, Prod.mk.injEq] at read
          rw [wild, ← read.1, ← read.2]
          exact ⟨rfl, plain leaf rfl⟩
        next after head =>
          obtain ⟨wild, -⟩ := parseHead_wild floats size head
          rw [wild]
          split at read
          next => exact absurd read (by simp)
          next children last entries =>
            obtain ⟨same, plain⟩ := list _ _ _ entries
            simp only [Except.ok.injEq, Prod.mk.injEq] at read
            rw [← read.1, ← read.2]
            simp only [same, true_and]
            exact plain
      · intro rest next children read
        rw [parseList] at read ⊢
        split at read
        next => exact absurd read (by simp [fail])
        next =>
          simp only [Except.ok.injEq, Prod.mk.injEq] at read
          rw [← read.1, ← read.2]
          exact ⟨rfl, trivial⟩
        next =>
          split at read
          next => exact absurd read (by simp)
          next child after first =>
            obtain ⟨sameFirst, plainFirst⟩ := node _ _ _ first
            rw [sameFirst]
            split at read
            next => exact absurd read (by simp)
            next others last entries =>
              obtain ⟨same, plain⟩ := list _ _ _ entries
              simp only [Except.ok.injEq, Prod.mk.injEq] at read
              rw [← read.1, ← read.2]
              simp only [same, true_and]
              exact ⟨plainFirst, plain⟩

theorem parseAll_wild {text : Text} {pattern : Pattern}
    (read : parseAll floats false text = .ok pattern) :
    parseAll floats true text = .ok pattern ∧ pattern.Plain := by
  unfold parseAll at read ⊢
  split at read
  next => exact absurd read (by simp)
  next other rest node =>
    obtain ⟨wild, plain⟩ := (parseNode_wild floats text.length _).1 _ _ _ node
    rw [wild]
    split at read
    next done =>
      simp only [done]
      rw [← Except.ok.inj read]
      exact ⟨rfl, plain⟩
    next => exact absurd read (by simp [fail])

/-- The text of an item is a pattern that matches what equals the item. -/
theorem parsePattern_of_parseItem {text : Text} {item : Item}
    (read : parseItem floats text = .ok item) :
    ∃ pattern, parsePattern floats text = .ok pattern ∧
      ∀ other, matchesItem pattern other = equalItems other item := by
  unfold parseItem at read
  cases parsed : parseAll floats false text with
  | error reason =>
      rw [parsed] at read
      exact absurd read (by simp [Except.map])
  | ok pattern =>
      rw [parsed] at read
      obtain ⟨wild, plain⟩ := parseAll_wild floats parsed
      refine ⟨pattern, wild, fun other => ?_⟩
      rw [matchesItem_plain pattern plain, Except.ok.inj read]

end Wildcards

end Ssim.HostSim
