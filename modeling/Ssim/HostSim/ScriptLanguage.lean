import Ssim.HostSim.ScriptLines

/-!
# The language of scripts

What a script line may look like, written as relations: white space and a comment around
a command, variables for parts of it, words, options, numbers and durations.  Every
script of this language is accepted, and each command means what it spells.

The texts of items and patterns are those that their own parser reads.
-/

namespace Ssim.HostSim

open Core (Text Double)
open Secs2
open Library.CIntegers
open Library.Numerals

/-! ## Words of a line -/

def SpaceFree (word : Text) : Prop := ∀ byte ∈ word, isSpace byte = false

/-- No white space at either end. -/
structure Trimmed (line : Text) : Prop where
  head : ∀ byte ∈ line.head?, isSpace byte = false
  last : ∀ byte ∈ line.getLast?, isSpace byte = false

/-- A word at the front of a line, and the rest of the line behind white space. -/
inductive Leads : Text → Text → Text → Prop where
  | alone (word : Text) : Leads word [] word
  | more {word blanks rest : Text} (blank : Blank blanks) (apart : blanks ≠ [])
      (some : rest ≠ []) : Leads word rest (word ++ (blanks ++ rest))

theorem trimmed_nil : Trimmed [] :=
  ⟨(fun _ member => by cases member), (fun _ member => by cases member)⟩

theorem dropWhile_of_head {line : Text} (head : ∀ byte ∈ line.head?, isSpace byte = false) :
    line.dropWhile isSpace = line := by
  cases line with
  | nil => rfl
  | cons byte line => exact List.dropWhile_cons_of_neg (by simp [head byte rfl])

theorem dropWhile_blank {blanks : Text} (blank : Blank blanks) (rest : Text) :
    (blanks ++ rest).dropWhile isSpace = rest.dropWhile isSpace :=
  List.dropWhile_append_of_pos blank

theorem blank_nil : Blank [] := fun _ member => by cases member

/-- White space around a line goes. -/
theorem trim_blank {lead line trail : Text} (before : Blank lead) (trimmed : Trimmed line)
    (after : Blank trail) : trim (lead ++ (line ++ trail)) = line := by
  cases line with
  | nil =>
      have all : (lead ++ ([] ++ trail)).dropWhile isSpace = [] := by
        rw [dropWhile_blank before, List.nil_append]
        exact List.dropWhile_eq_nil_iff.mpr after
      rw [trim, all]
      rfl
  | cons byte line =>
      have head : ∀ other ∈ (byte :: line ++ trail).head?, isSpace other = false := trimmed.head
      have reversed : Blank trail.reverse := fun other member =>
        after other (List.mem_reverse.mp member)
      rw [trim, dropWhile_blank before, dropWhile_of_head head, List.reverse_append,
        dropWhile_blank reversed, dropWhile_of_head, List.reverse_reverse]
      intro other member
      rw [List.head?_reverse] at member
      exact trimmed.last other member

theorem trim_self {line : Text} (trimmed : Trimmed line) : trim line = line := by
  have around := trim_blank blank_nil trimmed blank_nil
  rwa [List.append_nil] at around

theorem splitWord_leads {word rest line : Text} (leads : Leads word rest line)
    (spaceFree : SpaceFree word) (trimmed : Trimmed rest) : splitWord line = (word, rest) := by
  have inside : ∀ byte ∈ word, (!isSpace byte) = true := fun byte member => by
    simp [spaceFree byte member]
  induction leads with
  | alone =>
      rw [splitWord, List.takeWhile_eq_self_iff.mpr inside, List.dropWhile_eq_nil_iff.mpr inside]
      rfl
  | @more blanks rest blank apart some =>
      cases blanks with
      | nil => exact absurd rfl apart
      | cons space blanks =>
          have isBlank := blank space List.mem_cons_self
          have stops : (!isSpace space) = false := by simp [isBlank]
          have around := trim_blank blank trimmed blank_nil
          rw [List.append_nil] at around
          rw [splitWord, List.cons_append, List.takeWhile_append_of_pos inside,
            List.takeWhile_cons_of_neg (by simp [stops]), List.append_nil,
            List.dropWhile_append_of_pos inside, List.dropWhile_cons_of_neg (by simp [stops])]
          exact congrArg _ around

theorem Trimmed.of_spaceFree {word : Text} (spaceFree : SpaceFree word) : Trimmed word where
  head := fun byte member => spaceFree byte (List.mem_of_mem_head? member)
  last := fun byte member => spaceFree byte (List.mem_of_getLast? member)

theorem Leads.trimmed {word rest line : Text} (leads : Leads word rest line) (nonempty : word ≠ [])
    (spaceFree : SpaceFree word) (trimmed : Trimmed rest) : Trimmed line := by
  cases leads with
  | alone => exact .of_spaceFree spaceFree
  | more blank apart some =>
      refine ⟨fun byte member => ?_, fun byte member => ?_⟩
      · rw [List.head?_append_of_ne_nil _ nonempty] at member
        exact (Trimmed.of_spaceFree spaceFree).head byte member
      · rw [← List.append_assoc, List.getLast?_append_of_ne_nil _ some] at member
        exact trimmed.last byte member

/-! ## Comments and variables -/

/-- Strings are closed, and there is no `#` outside of them. -/
inductive Closed : (inString : Bool) → Text → Prop where
  | nil : Closed false []
  | escaped {byte : UInt8} {rest : Text} (closed : Closed true rest) :
      Closed true (92 :: byte :: rest)
  | quote {inString : Bool} {rest : Text} (closed : Closed (!inString) rest) :
      Closed inString (34 :: rest)
  | plain {inString : Bool} {byte : UInt8} {rest : Text} (other : byte ≠ 34)
      (noEscape : ¬(byte = 92 ∧ inString = true)) (noComment : ¬(byte = 35 ∧ inString = false))
      (closed : Closed inString rest) : Closed inString (byte :: rest)

theorem stripComment_cons {inString : Bool} {byte : UInt8}
    (outside : ¬(byte = 92 ∧ inString = true)) (rest : Text) :
    stripComment inString (byte :: rest) =
      if byte = 34 then byte :: stripComment (!inString) rest
      else if byte = 35 ∧ inString = false then []
      else byte :: stripComment inString rest := by
  rw [stripComment.eq_def]
  exact if_neg outside

theorem stripComment_closed {inString : Bool} {line : Text} (closed : Closed inString line)
    (rest : Text) :
    stripComment inString (line ++ rest) = line ++ stripComment false rest := by
  induction closed with
  | nil => rfl
  | escaped _ ih =>
      rw [List.cons_append, List.cons_append, stripComment, if_pos ⟨rfl, rfl⟩, ih]
      rfl
  | quote _ ih =>
      rw [List.cons_append, stripComment_cons fun escape => absurd escape.1 (by decide),
        if_pos rfl, ih]
      rfl
  | plain other noEscape noComment _ ih =>
      rw [List.cons_append, stripComment_cons noEscape, if_neg other, if_neg noComment, ih]
      rfl

/-- The line with its variables replaced. -/
inductive Expands (vars : Text → Option Text) : Text → Text → Prop where
  | nil : Expands vars [] []
  | plain {byte : UInt8} {rest line : Text} (other : byte ≠ 36) (expands : Expands vars rest line) :
      Expands vars (byte :: rest) (byte :: line)
  | expanded {name value rest line : Text} (named : name ≠ [])
      (nameBytes : ∀ byte ∈ name, isNameByte byte = true)
      (ends : ∀ byte ∈ rest.head?, isNameByte byte = false) (found : vars name = some value)
      (expands : Expands vars rest line) : Expands vars (36 :: (name ++ rest)) (value ++ line)

theorem variableOf_some {vars : Text → Option Text} {name value : Text} (named : name ≠ [])
    (found : vars name = some value) : variableOf vars name = .ok value := by
  rw [variableOf, if_neg named, found]

theorem substitute_name {vars : Text → Option Text} {more : Text}
    (nameBytes : ∀ byte ∈ more, isNameByte byte = true) (name rest : Text) :
    substitute vars (some name) (more ++ rest) = substitute vars (some (name ++ more)) rest := by
  induction more generalizing name with
  | nil => simp
  | cons byte more ih =>
      rw [List.cons_append, substitute, if_pos (nameBytes byte List.mem_cons_self),
        ih fun other member => nameBytes other (List.mem_cons_of_mem _ member),
        List.append_assoc, List.singleton_append]

theorem substitute_expands {vars : Text → Option Text} {stripped line : Text}
    (expands : Expands vars stripped line) : substitute vars none stripped = .ok line := by
  induction expands with
  | nil => rfl
  | plain other _ ih =>
      rw [substitute, if_neg other, ih]
      rfl
  | @expanded name value rest line named nameBytes ends found _ ih =>
      rw [substitute, if_pos rfl, substitute_name nameBytes, List.nil_append]
      cases rest with
      | nil =>
          obtain rfl : [] = line := Except.ok.inj ih
          rw [substitute, variableOf_some named found, List.append_nil]
      | cons byte rest =>
          have stops := ends byte rfl
          rw [substitute, if_neg (by simp [stops]), variableOf_some named found]
          rw [substitute] at ih
          dsimp only
          split
          next sign =>
            rw [if_pos sign] at ih
            rw [ih]
            rfl
          next other =>
            rw [if_neg other] at ih
            obtain ⟨later, read, rfl⟩ := Except.map_ok ih
            rw [read]
            rfl


/-! ## Numbers and options -/

/-- A number, as the library reads it, and its unit. -/
inductive DurationWord (numbers : ScriptNumbers) : Nat → Text → Prop where
  | mk {spelled unit : Text} {countsMilliseconds : Bool} {value : Double}
      (units : unit = text "ms" ∧ countsMilliseconds = true ∨
        (unit = text "s" ∨ unit = []) ∧ countsMilliseconds = false)
      (read : parseDouble numbers spelled = some value)
      (digit : ∀ byte ∈ spelled.getLast?, isDigit 10 byte = true)
      (spaceFree : SpaceFree spelled) (positive : numbers.isNegative value = false)
      (small : numbers.isTooLong value = false) :
      DurationWord numbers (numbers.milliseconds countsMilliseconds value) (spelled ++ unit)

/-- A word that is an option, and what it sets. -/
inductive OptionWord (numbers : ScriptNumbers) : Text → (Options → Options) → Prop where
  | nowait : OptionWord numbers (text "nowait") fun options => { options with wBit := some false }
  | wBit : OptionWord numbers (text "W") fun options => { options with wBit := some true }
  | timeout {duration : Nat} {word : Text} (spelled : DurationWord numbers duration word) :
      OptionWord numbers (text "timeout=" ++ word) fun options =>
        { options with timeout := some duration }
  | device {number : Nat} {word : Text} (natural : NaturalWord number word)
      (inRange : number ≤ 65535) :
      OptionWord numbers (text "device=" ++ word) fun options =>
        { options with device := some number }
  | status {number : Nat} {word : Text} (natural : NaturalWord number word)
      (inRange : number ≤ 255) :
      OptionWord numbers (text "status=" ++ word) fun options =>
        { options with status := some number }

/-- What follows the options does not look like one. -/
structure NoOption (line : Text) : Prop where
  nowait : (splitWord line).1 ≠ text "nowait"
  wBit : (splitWord line).1 ≠ text "W"
  timeout : startsWith (text "timeout=") (splitWord line).1 = false
  device : startsWith (text "device=") (splitWord line).1 = false
  status : startsWith (text "status=") (splitWord line).1 = false

/-- Options in any order, and the text after them; the last of a kind counts. -/
inductive OptionsThen (numbers : ScriptNumbers) (left : Text) :
    Options → Text → Options → Prop where
  | done {options : Options} (other : NoOption left) : OptionsThen numbers left options left options
  | option {options final : Options} {word tail line : Text} {change : Options → Options}
      (isOption : OptionWord numbers word change) (leads : Leads word tail line)
      (trimmed : Trimmed tail) (rest : OptionsThen numbers left (change options) tail final) :
      OptionsThen numbers left options line final

section Numbers

variable {numbers : ScriptNumbers}

theorem parseUint_naturalWord {number : Nat} {word : Text} (natural : NaturalWord number word)
    (fits : number < 2 ^ 32) : parseUint word = some (UInt32.ofNat number) := by
  have seen := cString_word natural.isWord
  have read := natural.constant
  obtain ⟨byte, rest, rfl, digit⟩ := natural.head
  have plain : ¬(byte :: rest = [] ∨ (byte :: rest).head? = some 45) := by
    rintro (empty | minus)
    · cases empty
    · obtain rfl := Option.some.inj minus
      exact absurd digit (by decide)
  have converted : strtoull (byte :: rest) = some ⟨number, [], false⟩ := by
    rw [strtoull_digit digit, read, Option.map_some, saturateUnsigned_plus (by omega)]
  have small : ¬(([] : Text) ≠ [] ∨ 0xFFFFFFFF < number) := by
    rintro (some | large)
    · exact some rfl
    · omega
  rw [parseUint, if_neg plain, seen, converted]
  exact if_neg small

theorem parseBounded_naturalWord {number greatest : Nat} {why word : Text}
    (natural : NaturalWord number word) (inRange : number ≤ greatest) (fits : greatest < 2 ^ 32) :
    parseBounded greatest why word = .ok number := by
  have same : (UInt32.ofNat number).toNat = number := UInt32.toNat_ofNat_of_lt' (by
    change number < 2 ^ 32
    omega)
  rw [parseBounded, parseUint_naturalWord natural (by omega)]
  dsimp only
  rw [same, if_neg (Nat.not_lt.mpr inRange)]

theorem NaturalWord.spaceFree {number : Nat} {word : Text} (natural : NaturalWord number word) :
    SpaceFree word := by
  intro byte member
  obtain ⟨-, -, -, space, -⟩ := isWordByte_plain (natural.isWord.2 byte member)
  exact space

theorem durationParts_word {spelled unit : Text} {countsMilliseconds : Bool}
    (units : unit = text "ms" ∧ countsMilliseconds = true ∨
      (unit = text "s" ∨ unit = []) ∧ countsMilliseconds = false)
    (nonempty : spelled ≠ []) (digit : ∀ byte ∈ spelled.getLast?, isDigit 10 byte = true) :
    durationParts (spelled ++ unit) = (countsMilliseconds, spelled) := by
  obtain ⟨front, last, rfl⟩ := (List.eq_nil_or_concat spelled).resolve_left nonempty
  rw [List.concat_eq_append] at *
  have digit := digit last (by simp)
  have milliseconds : text "ms" = [109, 115] := by decide
  -- A word that ends in `ms` has these two bytes at its end.
  have ending (word : Text) (ends : word.drop (word.length - 2) = text "ms") :
      word = word.take (word.length - 2) ++ [109, 115] := by
    rw [← milliseconds, ← ends, List.take_append_drop]
  rcases units with ⟨rfl, rfl⟩ | ⟨rfl | rfl, rfl⟩
  · have size : (front ++ [last] ++ [109, 115]).length - 2 = (front ++ [last]).length := by simp
    rw [milliseconds, durationParts, milliseconds, if_pos]
    · rw [size, List.take_left]
    · rw [size, List.drop_left]
      exact ⟨by simp, rfl⟩
  · have seconds : text "s" = [115] := by decide
    rw [durationParts, seconds, if_neg, if_pos (by simp)]
    · simp
    · rintro ⟨-, ends⟩
      have same := congrArg List.dropLast (ending _ ends)
      rw [List.dropLast_concat] at same
      have final : last = 109 := by simpa using congrArg List.getLast? same
      rw [final] at digit
      exact absurd digit (by decide)
  · rw [List.append_nil, durationParts, if_neg, if_neg]
    · intro second
      have final : last = 115 := by simpa using second
      rw [final] at digit
      exact absurd digit (by decide)
    · rintro ⟨-, ends⟩
      have final : last = 115 := by simpa using congrArg List.getLast? (ending _ ends)
      rw [final] at digit
      exact absurd digit (by decide)

theorem parseDuration_word {duration : Nat} {word : Text}
    (spelled : DurationWord numbers duration word) : parseDuration numbers word = .ok duration := by
  cases spelled with
  | @mk spelled unit countsMilliseconds value units read digit _ positive small =>
      have nonempty : spelled ≠ [] := by
        rintro rfl
        cases read
      rw [parseDuration, durationParts_word units nonempty digit]
      simp [read, positive, small]

theorem startsWith_self (start word : Text) : startsWith start (start ++ word) = true := by
  simp [startsWith]

theorem startsWith_head {start word : Text} {byte other : UInt8} (starts : start.head? = some byte)
    (begins : word.head? = some other) (differ : byte ≠ other) :
    startsWith start word = false := by
  cases start with
  | nil => cases starts
  | cons first start =>
      cases word with
      | nil => cases begins
      | cons second word =>
          obtain rfl := Option.some.inj starts
          obtain rfl := Option.some.inj begins
          have apart : second ≠ first := differ.symm
          simp [startsWith, apart]

theorem ne_of_head {word other : Text} {byte : UInt8} (begins : word.head? = some byte)
    (differ : other.head? ≠ some byte) : word ≠ other := by
  rintro rfl
  exact differ begins

theorem takeOption_word {word : Text} {change : Options → Options}
    (isOption : OptionWord numbers word change) (options : Options) :
    takeOption numbers word options = .ok (some (change options)) := by
  cases isOption with
  | nowait => exact if_pos rfl
  | wBit => exact (if_neg (by decide)).trans (if_pos rfl)
  | @timeout duration word spelled =>
      have begins : (text "timeout=" ++ word).head? = some 116 := rfl
      rw [takeOption, if_neg (ne_of_head begins (by decide)),
        if_neg (ne_of_head begins (by decide)), if_pos (startsWith_self _ _)]
      have dropped : (text "timeout=" ++ word).drop 8 = word := rfl
      rw [dropped, parseDuration_word spelled]
      rfl
  | @device number word natural inRange =>
      have begins : (text "device=" ++ word).head? = some 100 := rfl
      rw [takeOption, if_neg (ne_of_head begins (by decide)),
        if_neg (ne_of_head begins (by decide)),
        if_neg (by simp [@startsWith_head (text "timeout=") _ 116 100 rfl begins (by decide)]),
        if_pos (startsWith_self _ _)]
      have dropped : (text "device=" ++ word).drop 7 = word := rfl
      rw [dropped, parseBounded_naturalWord natural inRange (by decide)]
      rfl
  | @status number word natural inRange =>
      have begins : (text "status=" ++ word).head? = some 115 := rfl
      rw [takeOption, if_neg (ne_of_head begins (by decide)),
        if_neg (ne_of_head begins (by decide)),
        if_neg (by simp [@startsWith_head (text "timeout=") _ 116 115 rfl begins (by decide)]),
        if_neg (by simp [@startsWith_head (text "device=") _ 100 115 rfl begins (by decide)]),
        if_pos (startsWith_self _ _)]
      have dropped : (text "status=" ++ word).drop 7 = word := rfl
      rw [dropped, parseBounded_naturalWord natural inRange (by decide)]
      rfl

theorem takeOption_other {line : Text} (other : NoOption line) (options : Options) :
    takeOption numbers (splitWord line).1 options = .ok none := by
  rw [takeOption, if_neg other.nowait, if_neg other.wBit, if_neg (by simp [other.timeout]),
    if_neg (by simp [other.device]), if_neg (by simp [other.status])]

theorem SpaceFree.append {word more : Text} (first : SpaceFree word) (second : SpaceFree more) :
    SpaceFree (word ++ more) := by
  intro byte member
  rcases List.mem_append.mp member with inside | inside
  · exact first byte inside
  · exact second byte inside

theorem spaceFree_of_all {word : Text} (all : word.all (fun byte => !isSpace byte) = true) :
    SpaceFree word := by
  intro byte member
  simpa using List.all_eq_true.mp all byte member

theorem DurationWord.spaceFree {duration : Nat} {word : Text}
    (spelled : DurationWord numbers duration word) : SpaceFree word := by
  cases spelled with
  | mk units _ _ spaceFree _ _ =>
      refine spaceFree.append ?_
      rcases units with ⟨rfl, -⟩ | ⟨rfl | rfl, -⟩
      · exact spaceFree_of_all (by decide)
      · exact spaceFree_of_all (by decide)
      · exact spaceFree_of_all (by decide)

theorem OptionWord.spaceFree {word : Text} {change : Options → Options}
    (isOption : OptionWord numbers word change) : SpaceFree word := by
  cases isOption with
  | nowait => exact spaceFree_of_all (by decide)
  | wBit => exact spaceFree_of_all (by decide)
  | timeout spelled => exact (spaceFree_of_all (by decide)).append spelled.spaceFree
  | device natural inRange => exact (spaceFree_of_all (by decide)).append natural.spaceFree
  | status natural inRange => exact (spaceFree_of_all (by decide)).append natural.spaceFree

theorem OptionWord.ne_nil {word : Text} {change : Options → Options}
    (isOption : OptionWord numbers word change) : word ≠ [] := by
  cases isOption with
  | nowait => decide
  | wBit => decide
  | timeout | device | status => exact fun empty => by cases empty

theorem takeOptions_then {line left : Text} {options final : Options}
    (taken : OptionsThen numbers left options line final) :
    takeOptions numbers line options = .ok (left, final) := by
  induction taken with
  | done other =>
      rw [takeOptions]
      split
      · rfl
      · rw [takeOption_other other]
  | @option options final word tail line change isOption leads trimmed _ ih =>
      have split := splitWord_leads leads isOption.spaceFree trimmed
      rw [takeOptions, split, if_neg isOption.ne_nil]
      dsimp only
      rw [takeOption_word isOption]
      exact ih

theorem OptionsThen.trimmed {line left : Text} {options final : Options}
    (taken : OptionsThen numbers left options line final) (trimmed : Trimmed line) :
    Trimmed left := by
  induction taken with
  | done => exact trimmed
  | option _ _ tail _ ih => exact ih tail

end Numbers

/-! ## Commands -/

/-- `SxFy`, with decimal numbers. -/
def MessageWord (stream function : Nat) (word : Text) : Prop :=
  stream ≤ 127 ∧ function ≤ 255 ∧ word = 83 :: (numeral 10 stream ++ 70 :: numeral 10 function)

/-- `FIELD=VALUE`, or with quotes around the value. -/
inductive FilterWord : Text × Text → Text → Prop where
  | plain {field value : Text} (named : field ≠ []) (nonempty : value ≠ [])
      (noEquals : 61 ∉ field) (bare : unquote value = none) :
      FilterWord (field, value) (field ++ 61 :: value)
  | quoted {field value : Text} (named : field ≠ []) (noEquals : 61 ∉ field) :
      FilterWord (field, value) (field ++ 61 :: (34 :: (value ++ [34])))

/-- One or two hexadecimal digits, with or without `0x`. -/
def HexWord (byte : UInt8) (word : Text) : Prop :=
  ∃ digits, digits ≠ [] ∧ (∀ digit ∈ digits, isDigit 16 digit = true) ∧
    value 16 digits = byte.toNat ∧ (word = digits ∨ word = text "0x" ++ digits)

section Commands

variable (numbers : ScriptNumbers)

/-- The text of an optional item. -/
def ItemText (body : Option Item) (itemText : Text) : Prop :=
  body = none ∧ itemText = [] ∨
    ∃ item, body = some item ∧ itemText ≠ [] ∧
      parseItem numbers.toFloatLibrary itemText = .ok item

def PatternText (pattern : Option Pattern) (itemText : Text) : Prop :=
  pattern = none ∧ itemText = [] ∨
    ∃ wanted, pattern = some wanted ∧ itemText ≠ [] ∧
      parsePattern numbers.toFloatLibrary itemText = .ok wanted

/-- The message, the options and the text after them. -/
structure MessageLine (stream function : Nat) (options : Options) (left rest : Text) : Prop where
  spelled : ∃ word after, MessageWord stream function word ∧ Leads word after rest ∧
    Trimmed after ∧ OptionsThen numbers left {} after options

/-- A comparison of an assertion. -/
inductive ComparedText : (equal : Bool) → Assertion → Text → Prop where
  | quoted {equal : Bool} {value : Text} :
      ComparedText equal (.isText equal value) (34 :: (value ++ [34]))
  | number {equal : Bool} {number : Double} {operand : Text} (nonempty : operand ≠ [])
      (bare : unquote operand = none) (read : parseDouble numbers operand = some number) :
      ComparedText equal (.isNumber equal number) operand
  | plain {equal : Bool} {operand : Text} (nonempty : operand ≠ []) (bare : unquote operand = none)
      (other : parseDouble numbers operand = none) :
      ComparedText equal (.isText equal operand) operand

/-- What an assertion asks of its field. -/
inductive AssertionText : Assertion → Text → Prop where
  | within {center tolerance : Double} {centerWord toleranceText operand line blanks : Text}
      (leads : Leads (text "within") operand line) (trimmed : Trimmed operand)
      (first : Leads centerWord (text "+-" ++ (blanks ++ toleranceText)) operand)
      (spaceFree : SpaceFree centerWord) (blank : Blank blanks)
      (tight : Trimmed toleranceText) (nonempty : toleranceText ≠ [])
      (centered : parseDouble numbers centerWord = some center)
      (read : parseDouble numbers toleranceText = some tolerance)
      (positive : numbers.isNegative tolerance = false) :
      AssertionText (.within center tolerance) line
  | equal {assertion : Assertion} {operand line : Text}
      (leads : Leads (text "==") operand line) (trimmed : Trimmed operand)
      (compared : ComparedText numbers true assertion operand) : AssertionText assertion line
  | differs {assertion : Assertion} {operand line : Text}
      (leads : Leads (text "!=") operand line) (trimmed : Trimmed operand)
      (compared : ComparedText numbers false assertion operand) : AssertionText assertion line

/-- What may stand after a verb, and the command that it makes. -/
inductive Arguments : Text → Action → Text → Prop where
  | connect {host word : Text} {port : UInt16} (natural : NaturalWord port.toNat word) :
      Arguments (text "connect") (.connect host port) (host ++ 58 :: word)
  | select {rest : Text} {options : Options} (taken : OptionsThen numbers [] {} rest options) :
      Arguments (text "select") (.select options.status) rest
  | deselect {rest : Text} {options : Options} (taken : OptionsThen numbers [] {} rest options) :
      Arguments (text "deselect") (.deselect options.status) rest
  | linktest : Arguments (text "linktest") .linktest []
  | separate : Arguments (text "separate") .separate []
  | disconnect : Arguments (text "disconnect") .disconnect []
  | send {stream function : Nat} {options : Options} {left rest : Text} {body : Option Item}
      (message : MessageLine numbers stream function options left rest)
      (item : ItemText numbers body left) :
      Arguments (text "send") (.send stream function options.wBit options.device body) rest
  | expect {stream function : Nat} {options : Options} {left rest : Text}
      {pattern : Option Pattern} (message : MessageLine numbers stream function options left rest)
      (body : PatternText numbers pattern left) :
      Arguments (text "expect")
        (.expect stream function pattern (options.timeout.getD kDefaultTimeout)) rest
  | expectNo {stream function : Nat} {options : Options} {rest : Text}
      (message : MessageLine numbers stream function options [] rest) :
      Arguments (text "expect-no") (.expectNo stream function (options.timeout.getD 1000)) rest
  | waitEvent {id : UInt32} {word after left rest : Text} {options : Options}
      {words : List Text} {filters : List (Text × Text)} (natural : NaturalWord id.toNat word)
      (leads : Leads word after rest) (trimmed : Trimmed after)
      (taken : OptionsThen numbers left {} after options) (spaced : Spaced words left)
      (spaceFree : ∀ word ∈ words, SpaceFree word)
      (spelled : List.Forall₂ FilterWord filters words) :
      Arguments (text "wait-event")
        (.waitEvent id filters (options.timeout.getD kDefaultTimeout)) rest
  | waitAlarm {id : UInt32} {set : Bool} {word after last rest : Text} {options : Options}
      (natural : NaturalWord id.toNat word) (leads : Leads word after rest)
      (trimmed : Trimmed after) (second : Leads (text (if set then "set" else "clear")) last after)
      (tight : Trimmed last) (taken : OptionsThen numbers [] {} last options) :
      Arguments (text "wait-alarm")
        (.waitAlarm id set (options.timeout.getD kDefaultTimeout)) rest
  | expectClosed {rest : Text} {options : Options}
      (taken : OptionsThen numbers [] {} rest options) :
      Arguments (text "expect-closed")
        (.expectClosed (options.timeout.getD kDefaultTimeout)) rest
  | expectStatus {id : UInt32} {word after left rest : Text} {options : Options}
      {pattern : Pattern} (natural : NaturalWord id.toNat word) (leads : Leads word after rest)
      (trimmed : Trimmed after) (taken : OptionsThen numbers left {} after options)
      (body : parsePattern numbers.toFloatLibrary left = .ok pattern) :
      Arguments (text "expect-status")
        (.expectStatus id (some pattern) (options.timeout.getD kDefaultTimeout)) rest
  | assert {field after rest : Text} {assertion : Assertion}
      (named : startsWith (text "event.") field = true ∨ startsWith (text "alarm.") field = true)
      (spaceFree : SpaceFree field) (leads : Leads field after rest) (trimmed : Trimmed after)
      (spelled : AssertionText numbers assertion after) :
      Arguments (text "assert") (.assert field assertion) rest
  | autoAck {flag : Bool} :
      Arguments (text "auto-ack") (.autoAck flag) (text (if flag then "on" else "off"))
  | sleep {duration : Nat} {word : Text} (spelled : DurationWord numbers duration word) :
      Arguments (text "sleep") (.sleep duration) word
  | raw {bytes : List UInt8} {words : List Text} {rest : Text} (nonempty : bytes ≠ [])
      (spaced : Spaced words rest) (spelled : List.Forall₂ HexWord bytes words) :
      Arguments (text "raw") (.raw bytes) rest

/-- The line of a command. -/
inductive Spells : Action → Text → Prop where
  | mk {verb rest line : Text} {action : Action} (leads : Leads verb rest line)
      (trimmed : Trimmed rest) (arguments : Arguments numbers verb action rest) :
      Spells action line

end Commands

section Reading

variable {numbers : ScriptNumbers}

theorem toNat_ofNat {number : Nat} (fits : number < 2 ^ 32) :
    (UInt32.ofNat number).toNat = number :=
  UInt32.toNat_ofNat_of_lt' fits

theorem ofNat_toNat (number : UInt32) : UInt32.ofNat number.toNat = number := by simp

theorem parseId {id : UInt32} {word after rest : Text} (natural : NaturalWord id.toNat word)
    (leads : Leads word after rest) (trimmed : Trimmed after) :
    parseUint (splitWord rest).1 = some id ∧ (splitWord rest).2 = after := by
  rw [splitWord_leads leads natural.spaceFree trimmed]
  refine ⟨?_, rfl⟩
  rw [parseUint_naturalWord natural id.toNat_lt, ofNat_toNat]

theorem numeral_naturalWord (number : Nat) : NaturalWord number (numeral 10 number) := .inl rfl

theorem parseSf_word {stream function : Nat} {word : Text}
    (spelled : MessageWord stream function word) :
    parseSf word = some (UInt32.ofNat stream, UInt32.ofNat function) ∧ SpaceFree word := by
  obtain ⟨small, short, rfl⟩ := spelled
  have streamSame := @toNat_ofNat stream (by omega)
  have functionSame := @toNat_ofNat function (by omega)
  have digits := numeral_isDigit (by decide : 2 ≤ 10) (by decide) stream
  refine ⟨?_, ?_⟩
  · rw [parseSf_digits (numeral_ne_nil 10 stream) (numeral_ne_nil 10 function) digits,
      parseUint_naturalWord (numeral_naturalWord stream) (by omega),
      parseUint_naturalWord (numeral_naturalWord function) (by omega)]
    dsimp only
    rw [if_neg]
    simp only [not_or, UInt32.not_lt, UInt32.le_iff_toNat_le, UInt32.reduceToNat, streamSame,
      functionSame]
    exact ⟨small, short⟩
  · refine (spaceFree_of_all (by decide) : SpaceFree [83]).append ?_
    refine (numeral_naturalWord stream).spaceFree.append ?_
    exact (spaceFree_of_all (by decide) : SpaceFree [70]).append
      (numeral_naturalWord function).spaceFree

theorem parseMessage_line {verb left rest : Text} {stream function : Nat} {options : Options}
    (line : MessageLine numbers stream function options left rest) :
    parseMessage numbers verb rest = .ok (stream, function, options, left) := by
  obtain ⟨word, after, message, leads, trimmed, taken⟩ := line.spelled
  obtain ⟨read, spaceFree⟩ := parseSf_word message
  obtain ⟨small, short, -⟩ := message
  rw [parseMessage, splitWord_leads leads spaceFree trimmed]
  dsimp only
  rw [read]
  dsimp only
  rw [takeOptions_then taken]
  have streamSame := @toNat_ofNat stream (by omega)
  have functionSame := @toNat_ofNat function (by omega)
  simp only [Except.map, streamSame, functionSame, trim_self (taken.trimmed trimmed)]

theorem splitLast_append {byte : UInt8} {after : Text} (absent : byte ∉ after) (before : Text) :
    splitLast byte (before ++ byte :: after) = some (before, after) := by
  have none : splitLast byte after = none := by
    induction after with
    | nil => rfl
    | cons head after ih =>
        have other : head ≠ byte := fun same => absent (by simp [same])
        rw [splitLast, ih fun member => absent (List.mem_cons_of_mem _ member)]
        exact if_neg other
  induction before with
  | nil =>
      rw [List.nil_append, splitLast, none]
      exact if_pos rfl
  | cons head before ih => rw [List.cons_append, splitLast, ih]

theorem NaturalWord.noColon {number : Nat} {word : Text} (natural : NaturalWord number word) :
    58 ∉ word := by
  intro member
  have inside := natural.isWord.2 58 member
  exact absurd inside (by decide)

theorem parseConnect_port {host word : Text} {port : UInt16}
    (natural : NaturalWord port.toNat word) :
    parseConnect (host ++ 58 :: word) = .ok (.connect host port) := by
  have inRange : port.toNat ≤ 65535 := Nat.le_of_lt_succ port.toNat_lt
  rw [parseConnect, splitLast_append natural.noColon]
  dsimp only
  rw [parseBounded_naturalWord natural inRange (by decide)]
  simp [Except.map]

theorem parseHandshake_options {verb rest : Text} {build : Option Nat → Action}
    {options : Options} (taken : OptionsThen numbers [] {} rest options) :
    parseHandshake numbers verb build rest = .ok (build options.status) := by
  rw [parseHandshake, takeOptions_then taken]
  exact if_neg fun some => some rfl

theorem parseTimeout_options {why rest : Text} {options : Options}
    (taken : OptionsThen numbers [] {} rest options) :
    parseTimeout numbers why rest = .ok (options.timeout.getD kDefaultTimeout) := by
  rw [parseTimeout, takeOptions_then taken]
  exact if_neg fun some => some rfl

theorem parseSend_line {stream function : Nat} {options : Options} {left rest : Text}
    {body : Option Item} (message : MessageLine numbers stream function options left rest)
    (item : ItemText numbers body left) :
    parseSend numbers rest = .ok (.send stream function options.wBit options.device body) := by
  rw [parseSend, parseMessage_line message]
  rcases item with ⟨rfl, rfl⟩ | ⟨found, rfl, nonempty, read⟩
  · exact if_pos rfl
  · refine (if_neg nonempty).trans ?_
    rw [read]

theorem parseOptionalPattern_text {pattern : Option Pattern} {left : Text}
    (body : PatternText numbers pattern left) :
    parseOptionalPattern numbers left = .ok pattern := by
  rcases body with ⟨rfl, rfl⟩ | ⟨wanted, rfl, nonempty, read⟩
  · exact if_pos rfl
  · rw [parseOptionalPattern, if_neg nonempty, read]

theorem unquote_quoted (value : Text) : unquote (34 :: (value ++ [34])) = some value := by
  have ends : (34 :: (value ++ [34]) : Text).getLast? = some 34 := by
    rw [← List.cons_append, List.getLast?_concat]
  rw [unquote, if_pos ⟨by simp, rfl, ends⟩]
  simp

theorem parseFilter_word {filter : Text × Text} {word : Text} (spelled : FilterWord filter word) :
    parseFilter word = some filter := by
  have split {field : Text} (noEquals : 61 ∉ field) (rest : Text) :
      (field ++ 61 :: rest).takeWhile (fun byte => decide (byte ≠ 61)) = field ∧
        ((field ++ 61 :: rest).dropWhile fun byte => decide (byte ≠ 61)).drop 1 = rest := by
    have inside : ∀ byte ∈ field, decide (byte ≠ 61) = true := by
      intro byte member
      refine decide_eq_true fun same => noEquals ?_
      rw [← same]
      exact member
    rw [List.takeWhile_append_of_pos inside, List.dropWhile_append_of_pos inside]
    simp
  cases spelled with
  | plain named nonempty noEquals bare =>
      obtain ⟨fieldSame, valueSame⟩ := split noEquals _
      rw [parseFilter, fieldSame, valueSame, if_neg (by simp [named, nonempty]), bare]
      rfl
  | @quoted field value named noEquals =>
      obtain ⟨fieldSame, valueSame⟩ := split noEquals (34 :: (value ++ [34]))
      rw [parseFilter, fieldSame, valueSame, if_neg (by simp [named]), unquote_quoted]
      rfl

theorem wordsFrom_word {word : Text} (spaceFree : SpaceFree word) (current rest : Text) :
    wordsFrom current (word ++ rest) = wordsFrom (current ++ word) rest := by
  induction word generalizing current with
  | nil => simp
  | cons byte word ih =>
      have inside := spaceFree byte List.mem_cons_self
      rw [List.cons_append, wordsFrom, if_neg (by simp [inside]),
        ih fun other member => spaceFree other (List.mem_cons_of_mem _ member),
        List.append_assoc, List.singleton_append]

theorem wordsFrom_blank {blanks : Text} (blank : Blank blanks) (rest : Text) :
    wordsFrom [] (blanks ++ rest) = wordsFrom [] rest := by
  induction blanks with
  | nil => rfl
  | cons byte blanks ih =>
      rw [List.cons_append, wordsFrom, if_pos (blank byte List.mem_cons_self), pushWord, if_pos rfl,
        ih fun other member => blank other (List.mem_cons_of_mem _ member)]

theorem wordsFrom_spaced {words : List Text} {line : Text} (spaced : Spaced words line)
    (spaceFree : ∀ word ∈ words, SpaceFree word) (nonempty : ∀ word ∈ words, word ≠ []) :
    wordsFrom [] line = words := by
  induction spaced with
  | @nil blanks blank =>
      have all := wordsFrom_blank blank []
      rw [List.append_nil] at all
      rw [all]
      rfl
  | @cons blanks word tail words blank others apart ih =>
      have some := nonempty word List.mem_cons_self
      have later := ih (fun other member => spaceFree other (List.mem_cons_of_mem _ member))
        fun other member => nonempty other (List.mem_cons_of_mem _ member)
      rw [wordsFrom_blank blank, wordsFrom_word (spaceFree word List.mem_cons_self),
        List.nil_append]
      cases tail with
      | nil =>
          obtain rfl : [] = words := later
          rw [wordsFrom, pushWord, if_neg some]
      | cons byte tail =>
          have isBlank : isSpace byte = true := by
            rcases apart with rfl | ⟨space, after, same, isBlank⟩
            · cases others with
              | nil blank => exact blank byte List.mem_cons_self
            · rw [(List.cons.inj same).1]
              exact isBlank
          rw [wordsFrom, if_pos isBlank] at later ⊢
          rw [pushWord, if_pos rfl] at later
          rw [later, pushWord, if_neg some]

theorem FilterWord.ne_nil {filter : Text × Text} {word : Text} (spelled : FilterWord filter word) :
    word ≠ [] := by
  cases spelled <;> simp

theorem parseFilters_words {filters : List (Text × Text)} {words : List Text}
    (spelled : List.Forall₂ FilterWord filters words) : parseFilters words = .ok filters := by
  induction spelled with
  | nil => rfl
  | cons first _ ih =>
      rw [parseFilters, parseFilter_word first, ih]
      rfl

theorem parseHexByte_word {byte : UInt8} {word : Text} (spelled : HexWord byte word) :
    parseHexByte word = some byte := by
  obtain ⟨digits, nonempty, hex, same, form⟩ := spelled
  have natural : NaturalWord byte.toNat (text "0x" ++ digits) :=
    .inr ⟨digits, rfl, nonempty, hex, same⟩
  have marks : text "0x" = [48, 120] := by decide
  have marked : (if startsWith (text "0x") word then word else text "0x" ++ word) =
      text "0x" ++ digits := by
    rcases form with rfl | rfl
    · have plain : startsWith (text "0x") word = false := by
        cases word with
        | nil => exact absurd rfl nonempty
        | cons first word =>
            cases word with
            | nil => simp [startsWith, marks]
            | cons second word =>
                have digit := hex second (by simp)
                have other : second ≠ 120 := by
                  rintro rfl
                  exact absurd digit (by decide)
                simp [startsWith, marks, other]
      rw [plain]
      rfl
    · rw [startsWith_self]
      rfl
  have small : byte.toNat < 256 := byte.toNat_lt
  rw [parseHexByte, marked, parseUint_naturalWord natural (by omega)]
  dsimp only
  rw [if_neg, toNat_ofNat (by omega)]
  · simp
  · rw [UInt32.not_lt, UInt32.le_iff_toNat_le, toNat_ofNat (by omega)]
    exact Nat.le_of_lt_succ small

theorem HexWord.spaceFree {byte : UInt8} {word : Text} (spelled : HexWord byte word) :
    SpaceFree word := by
  obtain ⟨digits, nonempty, hex, same, form⟩ := spelled
  have plain : SpaceFree digits := by
    intro digit member
    obtain ⟨-, -, -, space, -⟩ :=
      isWordByte_plain (isWordByte_of_isDigit (by decide) (hex digit member))
    exact space
  rcases form with rfl | rfl
  · exact plain
  · exact (spaceFree_of_all (by decide)).append plain

theorem HexWord.ne_nil {byte : UInt8} {word : Text} (spelled : HexWord byte word) : word ≠ [] := by
  obtain ⟨digits, nonempty, -, -, rfl | rfl⟩ := spelled
  · exact nonempty
  · exact fun empty => by cases empty

/-- What holds of each word that stands for something. -/
theorem forall_of_forall₂ {α : Type} {relation : α → Text → Prop} {holds : Text → Prop}
    {values : List α} {words : List Text} (each : List.Forall₂ relation values words)
    (implied : ∀ {value word}, relation value word → holds word) : ∀ word ∈ words, holds word := by
  induction each with
  | nil => exact fun word member => by cases member
  | cons related _ ih =>
      intro word member
      rcases List.mem_cons.mp member with rfl | inside
      · exact implied related
      · exact ih word inside

theorem parseRaw_words {bytes : List UInt8} {words : List Text} {rest : Text}
    (nonempty : bytes ≠ []) (spaced : Spaced words rest)
    (spelled : List.Forall₂ HexWord bytes words) : parseRaw rest = .ok (.raw bytes) := by
  have found := wordsFrom_spaced spaced (forall_of_forall₂ spelled HexWord.spaceFree)
    (forall_of_forall₂ spelled HexWord.ne_nil)
  have read : collect parseHexByte words = .ok bytes :=
    collect_forall₂ (spelled.imp fun _ _ => parseHexByte_word)
  rw [parseRaw, found, read]
  cases bytes with
  | nil => exact absurd rfl nonempty
  | cons byte bytes => rfl

theorem parseCompared_operand {equal : Bool} {assertion : Assertion} {operand : Text}
    (compared : ComparedText numbers equal assertion operand) :
    parseCompared numbers equal operand = .ok assertion := by
  cases compared with
  | quoted => rw [parseCompared, if_neg (by simp), unquote_quoted]
  | number nonempty bare read => rw [parseCompared, if_neg nonempty, bare, read]
  | plain nonempty bare other => rw [parseCompared, if_neg nonempty, bare, other]

theorem parseAssert_text {field after rest : Text} {assertion : Assertion}
    (named : startsWith (text "event.") field = true ∨ startsWith (text "alarm.") field = true)
    (spaceFree : SpaceFree field) (leads : Leads field after rest) (trimmed : Trimmed after)
    (spelled : AssertionText numbers assertion after) :
    parseAssert numbers rest = .ok (.assert field assertion) := by
  have isField :
      ¬(!startsWith (text "event.") field && !startsWith (text "alarm.") field) = true := by
    rcases named with event | alarm
    · simp [event]
    · simp [alarm]
  rw [parseAssert, splitWord_leads leads spaceFree trimmed]
  dsimp only
  rw [if_neg isField]
  cases spelled with
  | @within center tolerance centerWord toleranceText operand line blanks leads trimmed first
      spaceFree blank tight nonempty centered read positive =>
      have bounds : Trimmed (text "+-" ++ (blanks ++ toleranceText)) := by
        refine ⟨fun byte member => ?_, fun byte member => ?_⟩
        · obtain rfl := Option.some.inj member
          decide
        · rw [← List.append_assoc, List.getLast?_append_of_ne_nil _ nonempty] at member
          exact tight.last byte member
      have around := trim_blank blank tight blank_nil
      rw [List.append_nil] at around
      have dropped :
          (text "+-" ++ (blanks ++ toleranceText)).drop 2 = blanks ++ toleranceText := rfl
      rw [splitWord_leads leads (spaceFree_of_all (by decide)) trimmed]
      dsimp only
      rw [if_pos rfl, parseWithin, splitWord_leads first spaceFree bounds]
      dsimp only
      rw [trim_self bounds, startsWith_self, if_pos rfl, dropped, around, centered, read]
      simp [positive, Except.map]
  | equal leads trimmed compared =>
      rw [splitWord_leads leads (spaceFree_of_all (by decide)) trimmed]
      dsimp only
      rw [if_neg (by decide), if_pos rfl, parseCompared_operand compared]
      rfl
  | differs leads trimmed compared =>
      rw [splitWord_leads leads (spaceFree_of_all (by decide)) trimmed]
      dsimp only
      rw [if_neg (by decide), if_neg (by decide), if_pos rfl, parseCompared_operand compared]
      rfl

theorem parseWaitEvent_words {id : UInt32} {word after left rest : Text} {options : Options}
    {words : List Text} {filters : List (Text × Text)} (natural : NaturalWord id.toNat word)
    (leads : Leads word after rest) (trimmed : Trimmed after)
    (taken : OptionsThen numbers left {} after options) (spaced : Spaced words left)
    (spaceFree : ∀ word ∈ words, SpaceFree word)
    (spelled : List.Forall₂ FilterWord filters words) :
    parseWaitEvent numbers rest =
      .ok (.waitEvent id filters (options.timeout.getD kDefaultTimeout)) := by
  obtain ⟨read, behind⟩ := parseId natural leads trimmed
  have found := wordsFrom_spaced spaced spaceFree (forall_of_forall₂ spelled FilterWord.ne_nil)
  rw [parseWaitEvent, read, behind, takeOptions_then taken]
  dsimp only
  rw [found, parseFilters_words spelled]
  rfl

theorem parseWaitAlarm_words {id : UInt32} {set : Bool} {word after last rest : Text}
    {options : Options} (natural : NaturalWord id.toNat word) (leads : Leads word after rest)
    (trimmed : Trimmed after) (second : Leads (text (if set then "set" else "clear")) last after)
    (tight : Trimmed last) (taken : OptionsThen numbers [] {} last options) :
    parseWaitAlarm numbers rest =
      .ok (.waitAlarm id set (options.timeout.getD kDefaultTimeout)) := by
  obtain ⟨read, behind⟩ := parseId natural leads trimmed
  have plain : SpaceFree (text (if set then "set" else "clear")) := by
    cases set <;> exact spaceFree_of_all (by decide)
  rw [parseWaitAlarm, read, behind, splitWord_leads second plain tight]
  dsimp only
  rw [parseTimeout_options taken]
  cases set with
  | true => rfl
  | false => rfl

theorem parseExpectStatus_words {id : UInt32} {word after left rest : Text} {options : Options}
    {pattern : Pattern} (natural : NaturalWord id.toNat word) (leads : Leads word after rest)
    (trimmed : Trimmed after) (taken : OptionsThen numbers left {} after options)
    (body : parsePattern numbers.toFloatLibrary left = .ok pattern) :
    parseExpectStatus numbers rest =
      .ok (.expectStatus id (some pattern) (options.timeout.getD kDefaultTimeout)) := by
  obtain ⟨read, behind⟩ := parseId natural leads trimmed
  rw [parseExpectStatus, read, behind, takeOptions_then taken]
  dsimp only
  rw [trim_self (taken.trimmed trimmed), body]

/-- A verb and its arguments are read as the command that they spell. -/
theorem parseVerb_arguments {verb rest : Text} {action : Action}
    (arguments : Arguments numbers verb action rest) :
    parseVerb numbers verb rest = .ok action ∧ SpaceFree verb := by
  cases arguments with
  | connect natural => exact ⟨parseConnect_port natural, spaceFree_of_all (by decide)⟩
  | select taken => exact ⟨parseHandshake_options taken, spaceFree_of_all (by decide)⟩
  | deselect taken => exact ⟨parseHandshake_options taken, spaceFree_of_all (by decide)⟩
  | linktest => exact ⟨rfl, spaceFree_of_all (by decide)⟩
  | separate => exact ⟨rfl, spaceFree_of_all (by decide)⟩
  | disconnect => exact ⟨rfl, spaceFree_of_all (by decide)⟩
  | send message item => exact ⟨parseSend_line message item, spaceFree_of_all (by decide)⟩
  | expect message body =>
      refine ⟨?_, spaceFree_of_all (by decide)⟩
      have read : parseVerb numbers (text "expect") rest = parseExpect numbers rest := rfl
      rw [read, parseExpect, parseMessage_line message]
      dsimp only
      rw [parseOptionalPattern_text body]
      rfl
  | expectNo message =>
      refine ⟨?_, spaceFree_of_all (by decide)⟩
      have read : parseVerb numbers (text "expect-no") rest = parseExpectNo numbers rest := rfl
      rw [read, parseExpectNo, parseMessage_line message]
      rfl
  | waitEvent natural leads trimmed taken spaced spaceFree spelled =>
      exact ⟨parseWaitEvent_words natural leads trimmed taken spaced spaceFree spelled,
        spaceFree_of_all (by decide)⟩
  | waitAlarm natural leads trimmed second tight taken =>
      exact ⟨parseWaitAlarm_words natural leads trimmed second tight taken,
        spaceFree_of_all (by decide)⟩
  | expectClosed taken =>
      refine ⟨?_, spaceFree_of_all (by decide)⟩
      have read : parseVerb numbers (text "expect-closed") rest =
          (parseTimeout numbers (text "bad expect-closed options") rest).map .expectClosed := rfl
      rw [read, parseTimeout_options taken]
      rfl
  | expectStatus natural leads trimmed taken body =>
      exact ⟨parseExpectStatus_words natural leads trimmed taken body,
        spaceFree_of_all (by decide)⟩
  | assert named spaceFree leads trimmed spelled =>
      exact ⟨parseAssert_text named spaceFree leads trimmed spelled, spaceFree_of_all (by decide)⟩
  | @autoAck flag =>
      refine ⟨?_, spaceFree_of_all (by decide)⟩
      cases flag <;> rfl
  | sleep spelled =>
      refine ⟨?_, spaceFree_of_all (by decide)⟩
      have read : parseVerb numbers (text "sleep") rest =
          (parseDuration numbers rest).map .sleep := rfl
      rw [read, parseDuration_word spelled]
      rfl
  | raw nonempty spaced spelled =>
      exact ⟨parseRaw_words nonempty spaced spelled, spaceFree_of_all (by decide)⟩

theorem parseCommand_spells {action : Action} {line : Text} (spells : Spells numbers action line) :
    parseCommand numbers line = .ok action := by
  obtain ⟨leads, trimmed, arguments⟩ := spells
  obtain ⟨read, spaceFree⟩ := parseVerb_arguments arguments
  rw [parseCommand, splitWord_leads leads spaceFree trimmed]
  exact read

end Reading

/-! ## Scripts -/

/-- White space, and a comment if one likes. -/
def Ending (line : Text) : Prop :=
  ∃ blanks, Blank blanks ∧ (line = blanks ∨ ∃ comment, line = blanks ++ 35 :: comment)

section Scripts

variable (numbers : ScriptNumbers) (vars : Text → Option Text)

/-- A line with a command, as it stands in the script and with its variables replaced. -/
structure CommandLine (stripped : Text) (action : Action) (rawLine : Text) : Prop where
  apart : ∃ lead trail, Blank lead ∧ Ending trail ∧ rawLine = lead ++ (stripped ++ trail)
  trimmed : Trimmed stripped
  nonempty : stripped ≠ []
  closed : Closed false stripped
  spelled : ∃ line, Expands vars stripped line ∧ Spells numbers action line

/-- The scripts from a line on, with their commands. -/
inductive ScriptText : Nat → List Command → Text → Prop where
  | nil (number : Nat) : ScriptText number [] []
  | blank {number : Nat} {commands : List Command} {line rest : Text} (single : 10 ∉ line)
      (ending : Ending line) (later : ScriptText (number + 1) commands rest) :
      ScriptText number commands (line ++ 10 :: rest)
  | command {number : Nat} {commands : List Command} {stripped rawLine rest : Text}
      {action : Action} (single : 10 ∉ rawLine)
      (line : CommandLine numbers vars stripped action rawLine)
      (later : ScriptText (number + 1) commands rest) :
      ScriptText number (⟨number, stripped, action⟩ :: commands) (rawLine ++ 10 :: rest)

end Scripts

variable {numbers : ScriptNumbers} {vars : Text → Option Text}

/-- Without quotes and `#` there is nothing to close. -/
theorem closed_plain {line : Text} (noQuote : 34 ∉ line) (noSign : 35 ∉ line) :
    Closed false line := by
  induction line with
  | nil => exact .nil
  | cons byte line ih =>
      have quote : byte ≠ 34 := fun same => noQuote (by simp [same])
      have sign : byte ≠ 35 := fun same => noSign (by simp [same])
      refine .plain quote (by simp) (fun comment => sign comment.1) (ih ?_ ?_)
      · exact fun member => noQuote (List.mem_cons_of_mem _ member)
      · exact fun member => noSign (List.mem_cons_of_mem _ member)

theorem closed_blank {blanks : Text} (blank : Blank blanks) : Closed false blanks :=
  closed_plain (fun member => absurd (blank 34 member) (by decide))
    fun member => absurd (blank 35 member) (by decide)

/-- What is left of the end of a line is white space. -/
theorem stripComment_ending {line : Text} (ending : Ending line) :
    Blank (stripComment false line) := by
  obtain ⟨blanks, blank, rfl | ⟨comment, rfl⟩⟩ := ending
  · have whole := stripComment_closed (closed_blank blank) []
    rw [List.append_nil] at whole
    rw [whole]
    simpa [stripComment] using blank
  · have comment : stripComment false (35 :: comment) = [] :=
      (stripComment_cons (by decide) _).trans ((if_neg (by decide)).trans (if_pos ⟨rfl, rfl⟩))
    rw [stripComment_closed (closed_blank blank), comment, List.append_nil]
    exact blank

theorem parseLine_ending {line : Text} (ending : Ending line) (number : Nat) :
    parseLine numbers vars number line = .ok none := by
  have nothing := trim_blank blank_nil trimmed_nil (stripComment_ending ending)
  rw [List.nil_append, List.nil_append] at nothing
  rw [parseLine, nothing]
  rfl

theorem parseLine_command {stripped rawLine : Text} {action : Action}
    (line : CommandLine numbers vars stripped action rawLine) (number : Nat) :
    parseLine numbers vars number rawLine = .ok (some ⟨number, stripped, action⟩) := by
  obtain ⟨lead, trail, before, after, rfl⟩ := line.apart
  obtain ⟨expanded, expands, spells⟩ := line.spelled
  have comment : stripComment false (lead ++ (stripped ++ trail)) =
      lead ++ (stripped ++ stripComment false trail) := by
    rw [stripComment_closed (closed_blank before), stripComment_closed line.closed]
  rw [parseLine, comment, trim_blank before line.trimmed (stripComment_ending after),
    if_neg line.nonempty, substitute_expands expands]
  dsimp only
  rw [parseCommand_spells spells]
  rfl

theorem parseLines_text {number : Nat} {commands : List Command} {script : Text}
    (spelled : ScriptText numbers vars number commands script) :
    parseLines numbers vars number (scriptLines script) = .ok commands := by
  induction spelled with
  | nil => rfl
  | blank single ending _ ih =>
      rw [scriptLines_line single, parseLines, parseLine_ending ending, ih]
      rfl
  | command single line _ ih =>
      rw [scriptLines_line single, parseLines, parseLine_command line, ih]
      rfl

/--
Every script of the language is accepted and means what it spells: each line with a
command is that command, under the number of the line and with the line as its text,
whatever the white space, the comments, the variables and the order of the options.
No script spells anything else.
-/
theorem script_language_accepted {commands : List Command} {script : Text}
    (spelled : ScriptText numbers vars 1 commands script) :
    parseScript numbers vars script = .ok commands ∧
      ∀ others, ScriptText numbers vars 1 others script → others = commands := by
  refine ⟨parseLines_text spelled, fun others also => ?_⟩
  exact Except.ok.inj ((parseLines_text also).symm.trans (parseLines_text spelled))

/-- What has no variable stays as it is. -/
theorem expands_append {front rest line : Text} (plain : 36 ∉ front)
    (expands : Expands vars rest line) : Expands vars (front ++ rest) (front ++ line) := by
  induction front with
  | nil => exact expands
  | cons byte front ih =>
      have other : byte ≠ 36 := fun same => plain (by simp [same])
      exact .plain other (ih fun member => plain (List.mem_cons_of_mem _ member))

/-- A host and a port with a variable, a comment, an empty line and a duration. -/
theorem script_language_accepted_connect :
    ∃ numbers vars, parseScript numbers vars (text "connect h:$PORT # host\n\nsleep 2s\n") =
      .ok [⟨1, text "connect h:$PORT", .connect (text "h") 5000⟩,
        ⟨3, text "sleep 2s", .sleep 2000⟩] := by
  let numbers : ScriptNumbers :=
    { strtod := fun word => if word = [50] then some ⟨0x4000000000000000, [], false⟩ else none
      toFloat := fun _ => 0
      isNegative := fun number => 0x8000000000000000 ≤ number
      isTooLong := fun _ => false
      milliseconds := fun countsMilliseconds _ => if countsMilliseconds then 2 else 2000 }
  let vars (name : Text) : Option Text := if name = text "PORT" then some (text "5000") else none
  have space : Blank [32] := fun byte member => by rw [List.mem_singleton.mp member]; rfl
  have expandsPort : Expands vars (text "connect h:$PORT") (text "connect h:5000") := by
    have port : Expands vars (36 :: (text "PORT" ++ [])) (text "5000" ++ []) :=
      .expanded (by decide) (List.all_eq_true.mp (by decide)) (fun _ member => by cases member)
        (by decide) .nil
    have whole := @expands_append vars (text "connect h:") _ _ (by decide) port
    have stripped : text "connect h:" ++ 36 :: (text "PORT" ++ []) = text "connect h:$PORT" := by
      decide
    have line : text "connect h:" ++ (text "5000" ++ []) = text "connect h:5000" := by decide
    rwa [stripped, line] at whole
  have expandsSleep : Expands vars (text "sleep 2s") (text "sleep 2s") := by
    have whole := @expands_append vars (text "sleep 2s") _ _ (by decide) .nil
    rwa [List.append_nil] at whole
  have connects : Spells numbers (.connect (text "h") 5000) (text "connect h:5000") := by
    have leads : Leads (text "connect") (text "h:5000") _ := .more space (by decide) (by decide)
    have line : text "connect" ++ ([32] ++ text "h:5000") = text "connect h:5000" := by decide
    have port : NaturalWord (5000 : UInt16).toNat (text "5000") := .inl (by decide +kernel)
    have rest : text "h" ++ 58 :: text "5000" = text "h:5000" := by decide
    rw [line, ← rest] at leads
    refine .mk leads (.of_spaceFree (spaceFree_of_all (by decide))) (.connect port)
  have sleeps : Spells numbers (.sleep 2000) (text "sleep 2s") := by
    have leads : Leads (text "sleep") ([50] ++ text "s") _ := .more space (by decide) (by decide)
    have line : text "sleep" ++ ([32] ++ ([50] ++ text "s")) = text "sleep 2s" := by decide
    have two : parseDouble numbers [50] = some 0x4000000000000000 := by decide
    have duration : DurationWord numbers 2000 ([50] ++ text "s") :=
      .mk (.inr ⟨.inl rfl, rfl⟩) two
        (fun byte member => by rw [← Option.some.inj member]; decide)
        (spaceFree_of_all (by decide)) (by decide) rfl
    rw [line] at leads
    exact .mk leads (.of_spaceFree (spaceFree_of_all (by decide))) (.sleep duration)
  have portTrimmed : Trimmed (text "connect h:$PORT") := by
    have leads : Leads (text "connect") (text "h:$PORT") _ := .more space (by decide) (by decide)
    have line : text "connect" ++ ([32] ++ text "h:$PORT") = text "connect h:$PORT" := by decide
    rw [line] at leads
    exact leads.trimmed (by decide) (spaceFree_of_all (by decide))
      (.of_spaceFree (spaceFree_of_all (by decide)))
  have sleepTrimmed : Trimmed (text "sleep 2s") := by
    have leads : Leads (text "sleep") (text "2s") _ := .more space (by decide) (by decide)
    have line : text "sleep" ++ ([32] ++ text "2s") = text "sleep 2s" := by decide
    rw [line] at leads
    exact leads.trimmed (by decide) (spaceFree_of_all (by decide))
      (.of_spaceFree (spaceFree_of_all (by decide)))
  have first : CommandLine numbers vars (text "connect h:$PORT") (.connect (text "h") 5000)
      (text "connect h:$PORT # host") := {
    apart := ⟨[], text " # host", blank_nil, ⟨[32], space, .inr ⟨text " host", by decide⟩⟩,
      by decide⟩
    trimmed := portTrimmed
    nonempty := by decide
    closed := closed_plain (by decide) (by decide)
    spelled := ⟨_, expandsPort, connects⟩ }
  have third : CommandLine numbers vars (text "sleep 2s") (.sleep 2000) (text "sleep 2s") := {
    apart := ⟨[], [], blank_nil, ⟨[], blank_nil, .inl rfl⟩, by decide⟩
    trimmed := sleepTrimmed
    nonempty := by decide
    closed := closed_plain (by decide) (by decide)
    spelled := ⟨_, expandsSleep, sleeps⟩ }
  have last : ScriptText numbers vars 3 _ _ := .command (by decide) third (.nil 4)
  have second : ScriptText numbers vars 2 _ ([] ++ 10 :: _) :=
    .blank (by decide) ⟨[], blank_nil, .inl rfl⟩ last
  have script : ScriptText numbers vars 1 _ _ := .command (by decide) first second
  have same : text "connect h:$PORT # host" ++ 10 :: ([] ++ 10 :: (text "sleep 2s" ++ 10 :: [])) =
      text "connect h:$PORT # host\n\nsleep 2s\n" := by decide
  rw [same] at script
  exact ⟨numbers, vars, (script_language_accepted script).1⟩

end Ssim.HostSim
