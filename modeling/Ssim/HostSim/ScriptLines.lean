import Ssim.HostSim.Script

/-!
# Scripts, line by line

Each line is read on its own.  What is accepted has numbers in their ranges and quotes
its own line; what is refused names the first line that cannot be read.  A script behind
another one is read as if it stood alone, with later line numbers.
-/

namespace Ssim.HostSim

open Core (Text)
open Library.CIntegers (isSpace)

/-! ## Lines -/

theorem scriptLines_append (front back : Text) :
    scriptLines (front ++ 10 :: back) = scriptLines (front ++ [10]) ++ scriptLines back := by
  induction front with
  | nil => rfl
  | cons byte front ih =>
      rw [List.cons_append, scriptLines, ih]
      split
      next newline => simp [scriptLines, newline]
      next other =>
        rw [List.cons_append, scriptLines, if_neg other]
        have some : scriptLines (front ++ [10]) ≠ [] := by
          cases front with
          | nil => simp [scriptLines]
          | cons head front =>
              rw [List.cons_append, scriptLines]
              split
              · simp
              · split <;> simp
        cases first : scriptLines (front ++ [10]) with
        | nil => exact absurd first some
        | cons line lines => rfl

/-- A line without a newline, and the newline. -/
theorem scriptLines_line {line : Text} (single : 10 ∉ line) (rest : Text) :
    scriptLines (line ++ 10 :: rest) = line :: scriptLines rest := by
  induction line with
  | nil => rfl
  | cons byte line ih =>
      have other : byte ≠ 10 := fun newline => single (by simp [newline])
      rw [List.cons_append, scriptLines, if_neg other,
        ih fun member => single (List.mem_cons_of_mem _ member)]

/-- A newline at the end adds a blank line, or none. -/
theorem scriptLines_newline (script : Text) :
    scriptLines (script ++ [10]) = scriptLines script ∨
      scriptLines (script ++ [10]) = scriptLines script ++ [[]] := by
  induction script with
  | nil => exact .inr rfl
  | cons byte script ih =>
      rw [List.cons_append, scriptLines, scriptLines]
      rcases ih with same | blank
      · exact .inl (by rw [same])
      · rw [blank]
        split
        · exact .inr rfl
        · cases scriptLines script with
          | nil => exact .inl rfl
          | cons line lines => exact .inr rfl

/-! ## Commands in their ranges -/

/-- What the parser guarantees of a command. -/
def Action.WellFormed (numbers : ScriptNumbers) : Action → Prop
  | .select status | .deselect status => ∀ number ∈ status, number ≤ 255
  | .send stream function _ device _ =>
      (stream ≤ 127 ∧ function ≤ 255) ∧ ∀ number ∈ device, number ≤ 65535
  | .expect stream function _ _ | .expectNo stream function _ => stream ≤ 127 ∧ function ≤ 255
  | .waitEvent _ filters _ => ∀ filter ∈ filters, filter.1 ≠ []
  | .expectStatus _ pattern _ => pattern.isSome = true
  | .assert field assertion =>
      (startsWith (text "event.") field = true ∨ startsWith (text "alarm.") field = true) ∧
        ∀ center tolerance, assertion = .within center tolerance →
          numbers.isNegative tolerance = false
  | .raw bytes => bytes ≠ []
  | _ => True

variable {numbers : ScriptNumbers} {vars : Text → Option Text}

theorem parseBounded_le {greatest number : Nat} {why word : Text}
    (read : parseBounded greatest why word = .ok number) : number ≤ greatest := by
  unfold parseBounded at read
  split at read
  · cases read
  · split at read
    · cases read
    next inRange =>
      obtain rfl := Except.ok.inj read
      exact Nat.not_lt.mp inRange

/-- The numbers of the options are in their ranges. -/
structure Options.InRange (options : Options) : Prop where
  device : ∀ number ∈ options.device, number ≤ 65535
  status : ∀ number ∈ options.status, number ≤ 255

theorem Except.map_ok {ε α β : Type} {f : α → β} {outcome : Except ε α} {result : β}
    (mapped : outcome.map f = .ok result) : ∃ value, outcome = .ok value ∧ f value = result := by
  cases outcome with
  | error reason => cases mapped
  | ok value => exact ⟨value, rfl, Except.ok.inj mapped⟩

/-- The branch that was taken. -/
theorem branch_of_ite {α : Type} {condition : Prop} [Decidable condition] {left right result : α}
    (same : (if condition then left else right) = result) : left = result ∨ right = result := by
  split at same
  · exact .inl same
  · exact .inr same

theorem takeOption_inRange {word : Text} {options next : Options} (inRange : options.InRange)
    (taken : takeOption numbers word options = .ok (some next)) : next.InRange := by
  unfold takeOption at taken
  split at taken
  · obtain rfl := Option.some.inj (Except.ok.inj taken)
    exact ⟨inRange.device, inRange.status⟩
  split at taken
  · obtain rfl := Option.some.inj (Except.ok.inj taken)
    exact ⟨inRange.device, inRange.status⟩
  split at taken
  · obtain ⟨timeout, -, same⟩ := Except.map_ok taken
    obtain rfl := Option.some.inj same
    exact ⟨inRange.device, inRange.status⟩
  split at taken
  · obtain ⟨device, read, same⟩ := Except.map_ok taken
    obtain rfl := Option.some.inj same
    refine ⟨fun number member => ?_, inRange.status⟩
    obtain rfl := Option.some.inj member
    exact parseBounded_le read
  split at taken
  · obtain ⟨status, read, same⟩ := Except.map_ok taken
    obtain rfl := Option.some.inj same
    refine ⟨inRange.device, fun number member => ?_⟩
    obtain rfl := Option.some.inj member
    exact parseBounded_le read
  · cases taken

theorem takeOptions_inRange {line left : Text} {options final : Options}
    (inRange : options.InRange) (taken : takeOptions numbers line options = .ok (left, final)) :
    final.InRange := by
  induction line, options using takeOptions.induct numbers with
  | case1 line options ends =>
      rw [takeOptions, if_pos ends] at taken
      obtain ⟨-, rfl⟩ := Prod.mk.inj (Except.ok.inj taken)
      exact inRange
  | case2 line options more why failed =>
      rw [takeOptions, if_neg more, failed] at taken
      cases taken
  | case3 line options more none =>
      rw [takeOptions, if_neg more, none] at taken
      obtain ⟨-, rfl⟩ := Prod.mk.inj (Except.ok.inj taken)
      exact inRange
  | case4 line options more next found ih =>
      rw [takeOptions, if_neg more, found] at taken
      exact ih (takeOption_inRange inRange found) taken

theorem fresh_inRange : ({} : Options).InRange :=
  ⟨(fun _ member => by cases member), (fun _ member => by cases member)⟩

theorem parseSf_le {word : Text} {stream function : UInt32}
    (read : parseSf word = some (stream, function)) :
    stream.toNat ≤ 127 ∧ function.toNat ≤ 255 := by
  unfold parseSf at read
  split at read
  · cases read
  split at read
  · cases read
  split at read
  · cases read
  split at read
  next first second _ _ =>
    split at read
    · cases read
    next inRange =>
      obtain ⟨rfl, rfl⟩ := Prod.mk.inj (Option.some.inj read)
      simp only [not_or, UInt32.not_lt, UInt32.le_iff_toNat_le, UInt32.reduceToNat] at inRange
      exact inRange
  · cases read

theorem parseMessage_inRange {verb rest left : Text} {stream function : Nat} {options : Options}
    (read : parseMessage numbers verb rest = .ok (stream, function, options, left)) :
    (stream ≤ 127 ∧ function ≤ 255) ∧ options.InRange := by
  unfold parseMessage at read
  split at read
  · cases read
  next first second named =>
    obtain ⟨⟨taken, final⟩, done, same⟩ := Except.map_ok read
    simp only [Prod.mk.injEq] at same
    obtain ⟨rfl, rfl, rfl, rfl⟩ := same
    exact ⟨parseSf_le named, takeOptions_inRange fresh_inRange done⟩

theorem parseHandshake_wellFormed {verb rest : Text} {build : Option Nat → Action}
    {action : Action} (read : parseHandshake numbers verb build rest = .ok action) :
    ∃ options : Options, options.InRange ∧ action = build options.status := by
  unfold parseHandshake at read
  split at read
  · cases read
  next left options taken =>
    split at read
    · cases read
    · exact ⟨options, takeOptions_inRange fresh_inRange taken, (Except.ok.inj read).symm⟩

theorem parseSend_wellFormed {rest : Text} {action : Action}
    (read : parseSend numbers rest = .ok action) : action.WellFormed numbers := by
  unfold parseSend at read
  split at read
  · cases read
  next stream function options left message =>
    obtain ⟨small, inRange⟩ := parseMessage_inRange message
    split at read
    · obtain rfl := Except.ok.inj read
      exact ⟨small, inRange.device⟩
    · split at read
      · cases read
      · obtain rfl := Except.ok.inj read
        exact ⟨small, inRange.device⟩

theorem parseExpect_wellFormed {rest : Text} {action : Action}
    (read : parseExpect numbers rest = .ok action) : action.WellFormed numbers := by
  unfold parseExpect at read
  split at read
  · cases read
  next message =>
    obtain ⟨pattern, -, rfl⟩ := Except.map_ok read
    exact (parseMessage_inRange message).1

theorem parseExpectNo_wellFormed {rest : Text} {action : Action}
    (read : parseExpectNo numbers rest = .ok action) : action.WellFormed numbers := by
  unfold parseExpectNo at read
  split at read
  · cases read
  next message =>
    obtain ⟨pattern, -, rfl⟩ := Except.map_ok read
    exact (parseMessage_inRange message).1

theorem parseFilters_named {words : List Text} {filters : List (Text × Text)}
    (read : parseFilters words = .ok filters) : ∀ filter ∈ filters, filter.1 ≠ [] := by
  induction words generalizing filters with
  | nil =>
      obtain rfl := Except.ok.inj read
      intro filter member
      cases member
  | cons word words ih =>
      unfold parseFilters at read
      split at read
      · cases read
      next filter found =>
        obtain ⟨others, later, rfl⟩ := Except.map_ok read
        intro other member
        rcases List.mem_cons.mp member with rfl | inside
        · unfold parseFilter at found
          dsimp only at found
          split at found
          · cases found
          next named =>
            obtain rfl := Option.some.inj found
            exact fun empty => named (.inl empty)
        · exact ih later other inside

theorem parseWaitEvent_wellFormed {rest : Text} {action : Action}
    (read : parseWaitEvent numbers rest = .ok action) : action.WellFormed numbers := by
  unfold parseWaitEvent at read
  split at read
  · cases read
  · split at read
    · cases read
    · obtain ⟨filters, named, rfl⟩ := Except.map_ok read
      exact parseFilters_named named

theorem parseWaitAlarm_wellFormed {rest : Text} {action : Action}
    (read : parseWaitAlarm numbers rest = .ok action) : action.WellFormed numbers := by
  unfold parseWaitAlarm at read
  dsimp only at read
  split at read
  · cases read
  · split at read
    · cases read
    · obtain ⟨timeout, -, rfl⟩ := Except.map_ok read
      trivial

theorem parseExpectStatus_wellFormed {rest : Text} {action : Action}
    (read : parseExpectStatus numbers rest = .ok action) : action.WellFormed numbers := by
  unfold parseExpectStatus at read
  split at read
  · cases read
  · split at read
    · cases read
    · split at read
      · cases read
      · obtain rfl := Except.ok.inj read
        rfl

theorem parseWithin_tolerance {operand : Text} {assertion : Assertion}
    (read : parseWithin numbers operand = .ok assertion) :
    ∀ center tolerance, assertion = .within center tolerance →
      numbers.isNegative tolerance = false := by
  unfold parseWithin at read
  dsimp only at read
  split at read
  · split at read
    · split at read
      · cases read
      next positive =>
        rintro center tolerance rfl
        obtain ⟨rfl, rfl⟩ := Assertion.within.inj (Except.ok.inj read)
        exact Bool.eq_false_of_not_eq_true positive
    · cases read
  · cases read

theorem parseCompared_text {equal : Bool} {operand : Text} {assertion : Assertion}
    (read : parseCompared numbers equal operand = .ok assertion) (center tolerance : Core.Double) :
    assertion ≠ .within center tolerance := by
  unfold parseCompared at read
  split at read
  · cases read
  · split at read
    · obtain rfl := Except.ok.inj read
      exact fun same => by cases same
    · split at read
      · obtain rfl := Except.ok.inj read
        exact fun same => by cases same
      · obtain rfl := Except.ok.inj read
        exact fun same => by cases same

theorem parseAssert_wellFormed {rest : Text} {action : Action}
    (read : parseAssert numbers rest = .ok action) : action.WellFormed numbers := by
  unfold parseAssert at read
  dsimp only at read
  split at read
  · cases read
  next named =>
    have named : startsWith (text "event.") (splitWord rest).1 = true ∨
        startsWith (text "alarm.") (splitWord rest).1 = true := by
      simpa only [Bool.and_eq_true, Bool.not_eq_true', not_and_or, Bool.not_eq_false] using named
    split at read
    · obtain ⟨assertion, within, rfl⟩ := Except.map_ok read
      exact ⟨named, parseWithin_tolerance within⟩
    split at read
    · obtain ⟨assertion, compared, rfl⟩ := Except.map_ok read
      exact ⟨named, fun center tolerance same =>
        absurd same (parseCompared_text compared center tolerance)⟩
    split at read
    · obtain ⟨assertion, compared, rfl⟩ := Except.map_ok read
      exact ⟨named, fun center tolerance same =>
        absurd same (parseCompared_text compared center tolerance)⟩
    · cases read

theorem parseRaw_wellFormed {rest : Text} {action : Action} (read : parseRaw rest = .ok action) :
    action.WellFormed numbers := by
  unfold parseRaw at read
  split at read
  · cases read
  · cases read
  next bytes some _ =>
    obtain rfl := Except.ok.inj read
    exact some

/-- What is accepted is in its ranges. -/
theorem parseCommand_wellFormed {line : Text} {action : Action}
    (read : parseCommand numbers line = .ok action) : action.WellFormed numbers := by
  unfold parseCommand parseVerb at read
  rcases branch_of_ite read with connect | read
  · unfold parseConnect at connect
    split at connect
    · cases connect
    · obtain ⟨port, -, rfl⟩ := Except.map_ok connect
      trivial
  rcases branch_of_ite read with select | read
  · obtain ⟨options, inRange, rfl⟩ := parseHandshake_wellFormed select
    exact inRange.status
  rcases branch_of_ite read with deselect | read
  · obtain ⟨options, inRange, rfl⟩ := parseHandshake_wellFormed deselect
    exact inRange.status
  rcases branch_of_ite read with linktest | read
  · obtain rfl := Except.ok.inj linktest
    trivial
  rcases branch_of_ite read with separate | read
  · obtain rfl := Except.ok.inj separate
    trivial
  rcases branch_of_ite read with disconnect | read
  · obtain rfl := Except.ok.inj disconnect
    trivial
  rcases branch_of_ite read with send | read
  · exact parseSend_wellFormed send
  rcases branch_of_ite read with expect | read
  · exact parseExpect_wellFormed expect
  rcases branch_of_ite read with expectNo | read
  · exact parseExpectNo_wellFormed expectNo
  rcases branch_of_ite read with waitEvent | read
  · exact parseWaitEvent_wellFormed waitEvent
  rcases branch_of_ite read with waitAlarm | read
  · exact parseWaitAlarm_wellFormed waitAlarm
  rcases branch_of_ite read with expectClosed | read
  · obtain ⟨timeout, -, rfl⟩ := Except.map_ok expectClosed
    trivial
  rcases branch_of_ite read with expectStatus | read
  · exact parseExpectStatus_wellFormed expectStatus
  rcases branch_of_ite read with assert | read
  · exact parseAssert_wellFormed assert
  rcases branch_of_ite read with autoAck | read
  · unfold parseAutoAck at autoAck
    rcases branch_of_ite autoAck with on | autoAck
    · obtain rfl := Except.ok.inj on
      trivial
    rcases branch_of_ite autoAck with off | neither
    · obtain rfl := Except.ok.inj off
      trivial
    · cases neither
  rcases branch_of_ite read with sleep | read
  · obtain ⟨timeout, -, rfl⟩ := Except.map_ok sleep
    trivial
  rcases branch_of_ite read with bytes | unknown
  · exact parseRaw_wellFormed bytes
  · cases unknown

/-! ## Scripts -/

/-- What a line that holds a command says about it. -/
theorem parseLine_some {number : Nat} {rawLine : Text} {command : Command}
    (read : parseLine numbers vars number rawLine = .ok (some command)) :
    command.line = number ∧ command.text = trim (stripComment false rawLine) ∧
      command.action.WellFormed numbers := by
  unfold parseLine at read
  dsimp only at read
  split at read
  · cases read
  · split at read
    · cases read
    · obtain ⟨action, parsed, same⟩ := Except.map_ok read
      obtain rfl := Option.some.inj same
      exact ⟨rfl, rfl, parseCommand_wellFormed parsed⟩

theorem parseLines_append (number : Nat) (front back : List Text) :
    parseLines numbers vars number (front ++ back) =
      match parseLines numbers vars number front with
      | .error reason => .error reason
      | .ok first =>
          (parseLines numbers vars (number + front.length) back).map (first ++ ·) := by
  induction front generalizing number with
  | nil =>
      simp only [List.nil_append, parseLines, List.length_nil, Nat.add_zero]
      cases parseLines numbers vars number back <;> rfl
  | cons line front ih =>
      rw [List.cons_append, parseLines, parseLines]
      cases parseLine numbers vars number line with
      | error why => rfl
      | ok found =>
          have later : number + 1 + front.length = number + (line :: front).length := by
            simp only [List.length_cons]
            omega
          simp only [ih (number + 1), later]
          cases parseLines numbers vars (number + 1) front with
          | error reason => rfl
          | ok first =>
              cases parseLines numbers vars (number + (line :: front).length) back with
              | error reason => rfl
              | ok second => simp [Except.map]

/-- Each command comes from a line of its own, and they stand in the order of the lines. -/
structure FromLines (numbers : ScriptNumbers) (number : Nat) (lines : List Text)
    (commands : List Command) : Prop where
  ordered : commands.Pairwise fun command later => command.line < later.line
  quoted : ∀ command ∈ commands, ∃ rawLine, number ≤ command.line ∧
    lines[command.line - number]? = some rawLine ∧
    command.text = trim (stripComment false rawLine) ∧ command.action.WellFormed numbers

theorem parseLines_ok {number : Nat} {lines : List Text} {commands : List Command}
    (read : parseLines numbers vars number lines = .ok commands) :
    FromLines numbers number lines commands := by
  induction lines generalizing number commands with
  | nil =>
      obtain rfl := Except.ok.inj read
      exact ⟨.nil, fun command member => by cases member⟩
  | cons line lines ih =>
      unfold parseLines at read
      split at read
      · cases read
      next found here =>
        obtain ⟨others, later, rfl⟩ := Except.map_ok read
        obtain ⟨ordered, quoted⟩ := ih later
        have quoted : ∀ command ∈ others, ∃ rawLine, number < command.line ∧
            (line :: lines)[command.line - number]? = some rawLine ∧
            command.text = trim (stripComment false rawLine) ∧
            command.action.WellFormed numbers := by
          intro command member
          obtain ⟨rawLine, after, among, facts⟩ := quoted command member
          refine ⟨rawLine, after, ?_, facts⟩
          have next : command.line - number = command.line - (number + 1) + 1 := by omega
          rw [next, List.getElem?_cons_succ]
          exact among
        cases found with
        | none =>
            refine ⟨ordered, fun command member => ?_⟩
            obtain ⟨rawLine, after, facts⟩ := quoted command member
            exact ⟨rawLine, Nat.le_of_lt after, facts⟩
        | some first =>
            obtain ⟨rfl, quotes, wellFormed⟩ := parseLine_some here
            refine ⟨.cons (fun command member => ?_) ordered, fun command member => ?_⟩
            · obtain ⟨rawLine, after, -⟩ := quoted command member
              exact after
            · rcases List.mem_cons.mp member with rfl | inside
              · exact ⟨line, Nat.le_refl _, by simp, quotes, wellFormed⟩
              · obtain ⟨rawLine, after, facts⟩ := quoted command inside
                exact ⟨rawLine, Nat.le_of_lt after, facts⟩

/-- The first line that cannot be read. -/
theorem parseLines_error {number : Nat} {lines : List Text} {reason : SyntaxError}
    (failed : parseLines numbers vars number lines = .error reason) :
    ∃ before line after why first, lines = before ++ line :: after ∧
      parseLines numbers vars number before = .ok first ∧
      parseLine numbers vars (number + before.length) line = .error why ∧
      reason = syntaxError (number + before.length) why := by
  induction lines generalizing number with
  | nil => cases failed
  | cons line lines ih =>
      unfold parseLines at failed
      split at failed
      next why bad =>
        exact ⟨[], line, lines, why, [], rfl, rfl, bad, (Except.error.inj failed).symm⟩
      next found here =>
        cases later : parseLines numbers vars (number + 1) lines with
        | ok others =>
            rw [later] at failed
            cases failed
        | error other =>
            rw [later] at failed
            obtain rfl := Except.error.inj failed
            obtain ⟨before, bad, after, why, first, rfl, read, isBad, same⟩ := ih later
            have next : number + 1 + before.length = number + (line :: before).length := by
              simp only [List.length_cons]
              omega
            rw [next] at isBad same
            refine ⟨line :: before, bad, after, why, found.toList ++ first, rfl, ?_, isBad, same⟩
            rw [parseLines, here, read]
            rfl

/-- A blank line holds no command. -/
theorem parseLines_blank (number : Nat) : parseLines numbers vars number [[]] = .ok [] := rfl

theorem parseScript_newline (script : Text) :
    parseLines numbers vars 1 (scriptLines (script ++ [10])) = parseScript numbers vars script := by
  unfold parseScript
  rcases scriptLines_newline script with same | blank
  · rw [same]
  · rw [blank, parseLines_append]
    cases parseLines numbers vars 1 (scriptLines script) with
    | error reason => rfl
    | ok first => simp [parseLines_blank, Except.map]

/--
A script that is accepted has commands in their ranges, each on a line of its own that it
quotes, in the order of the lines.  One that is refused has a first line that cannot be
read, and the error names it.  A script in front of another one decides first; behind it
the other is read as it stands, with later line numbers.
-/
theorem script_read_line_by_line (numbers : ScriptNumbers) (vars : Text → Option Text)
    (script : Text) :
    (∀ commands, parseScript numbers vars script = .ok commands →
        FromLines numbers 1 (scriptLines script) commands) ∧
      (∀ reason, parseScript numbers vars script = .error reason →
        ∃ before line after why first, scriptLines script = before ++ line :: after ∧
          parseLines numbers vars 1 before = .ok first ∧
          parseLine numbers vars (1 + before.length) line = .error why ∧
          reason = syntaxError (1 + before.length) why) ∧
      ∀ more, parseScript numbers vars (script ++ 10 :: more) =
        match parseScript numbers vars script with
        | .error reason => .error reason
        | .ok first =>
            (parseLines numbers vars (1 + (scriptLines (script ++ [10])).length)
              (scriptLines more)).map (first ++ ·) := by
  refine ⟨fun _ read => parseLines_ok read, fun _ failed => parseLines_error failed,
    fun more => ?_⟩
  rw [← parseScript_newline script, parseScript, scriptLines_append, parseLines_append]

end Ssim.HostSim
