import Ssim.HostSim.Literals
import Ssim.HostSim.Runner

/-!
# The script parser

A script has one command a line.  A line loses its comment, its outer white space and
its variables, and is then read word by word.  The first line that cannot be read ends
the parse with an error that names it.

How the C library reads a floating-point number, and the arithmetic of durations, are
parameters.
-/

namespace Ssim.HostSim

open Core (Text Double)
open Secs2
open Library.CIntegers (Conversion isSpace cString)
open Library.Numerals (numeral)

def kErrScriptSyntax : Nat := 601

/-- What a script needs of the floating-point numbers. -/
structure ScriptNumbers extends FloatLibrary where
  isNegative : Double → Bool
  /-- Above an hour, in milliseconds. -/
  isTooLong : Double → Bool
  /-- The whole milliseconds, where the number counts milliseconds or seconds. -/
  milliseconds : (countsMilliseconds : Bool) → Double → Nat

/-- An error of the line with this number. -/
def syntaxError (line : Nat) (what : Text) : SyntaxError :=
  ⟨kErrScriptSyntax, text "line " ++ numeral 10 line ++ text ": " ++ what⟩

/-! ## Lines and words -/

/-- The lines of a text; an empty piece after the last newline is none. -/
def scriptLines : Text → List Text
  | [] => []
  | byte :: rest =>
      if byte = 10 then [] :: scriptLines rest
      else
        match scriptLines rest with
        | [] => [[byte]]
        | line :: lines => (byte :: line) :: lines

def trim (line : Text) : Text :=
  ((line.dropWhile isSpace).reverse.dropWhile isSpace).reverse

/-- Removes a comment: a `#` that is not inside a string. -/
def stripComment : (inString : Bool) → Text → Text
  | _, [] => []
  | inString, byte :: rest =>
      if byte = 92 ∧ inString = true then
        match rest with
        | [] => [byte]
        | escaped :: rest => byte :: escaped :: stripComment inString rest
      else if byte = 34 then byte :: stripComment (!inString) rest
      else if byte = 35 ∧ inString = false then []
      else byte :: stripComment inString rest

def isNameByte (byte : UInt8) : Bool := isAlnum byte || byte = 95

def variableOf (vars : Text → Option Text) (name : Text) : Except Text Text :=
  match if name = [] then none else vars name with
  | some value => .ok value
  | none => .error (text "unknown variable $" ++ name)

/-- Replaces the variables; `name` is the one whose name is being read. -/
def substitute (vars : Text → Option Text) : (name : Option Text) → Text → Except Text Text
  | none, [] => .ok []
  | some name, [] => variableOf vars name
  | none, byte :: rest =>
      if byte = 36 then substitute vars (some []) rest
      else (substitute vars none rest).map (byte :: ·)
  | some name, byte :: rest =>
      if isNameByte byte then substitute vars (some (name ++ [byte])) rest
      else
        match variableOf vars name with
        | .error why => .error why
        | .ok value =>
            if byte = 36 then (substitute vars (some []) rest).map (value ++ ·)
            else (substitute vars none rest).map fun line => value ++ byte :: line

/-- The first word, and the rest of the line after it. -/
def splitWord (line : Text) : Text × Text :=
  (line.takeWhile fun byte => !isSpace byte, trim (line.dropWhile fun byte => !isSpace byte))

/-- The words that a stream reads. -/
def wordsFrom : (current : Text) → Text → List Text
  | current, [] => pushWord current []
  | current, byte :: rest =>
      if isSpace byte then pushWord current (wordsFrom [] rest)
      else wordsFrom (current ++ [byte]) rest

/-- What stands before and after the last byte of this value. -/
def splitLast (byte : UInt8) : Text → Option (Text × Text)
  | [] => none
  | head :: tail =>
      match splitLast byte tail with
      | some (before, after) => some (head :: before, after)
      | none => if head = byte then some ([], tail) else none

/-- A value between quotes loses them. -/
def unquote (value : Text) : Option Text :=
  if 2 ≤ value.length ∧ value.head? = some 34 ∧ value.getLast? = some 34 then
    some ((value.drop 1).take (value.length - 2))
  else none

section Parser

variable (numbers : ScriptNumbers)

/-! ## Numbers and options -/

def parseDouble (word : Text) : Option Double :=
  if word = [] then none
  else
    match numbers.strtod (cString word) with
    -- Nothing is converted: the end is the start, and the value is 0.
    | none => if cString word = [] then some 0 else none
    | some converted => if converted.rest = [] then some converted.value else none

/-- The unit of a duration, and its number; a bare number is seconds. -/
def durationParts (word : Text) : Bool × Text :=
  if 2 < word.length ∧ word.drop (word.length - 2) = text "ms" then
    (true, word.take (word.length - 2))
  else if word.getLast? = some 115 then (false, word.dropLast)
  else (false, word)

def parseDuration (word : Text) : Except Text Nat :=
  let parts := durationParts word
  match parseDouble numbers parts.2 with
  | none => .error (text "bad duration '" ++ word ++ text "'")
  | some value =>
      if numbers.isNegative value ∨ numbers.isTooLong value then
        .error (text "bad duration '" ++ word ++ text "'")
      else .ok (numbers.milliseconds parts.1 value)

structure Options where
  timeout : Option Nat := none
  device : Option Nat := none
  status : Option Nat := none
  wBit : Option Bool := none

/-- A number of an option in its range. -/
def parseBounded (greatest : Nat) (why : Text) (word : Text) : Except Text Nat :=
  match parseUint word with
  | none => .error why
  | some number => if greatest < number.toNat then .error why else .ok number.toNat

def startsWith (start word : Text) : Bool := word.take start.length = start

/-- The options behind this word, or `none` where the word is no option. -/
def takeOption (word : Text) (options : Options) : Except Text (Option Options) :=
  if word = text "nowait" then .ok (some { options with wBit := some false })
  else if word = text "W" then .ok (some { options with wBit := some true })
  else if startsWith (text "timeout=") word then
    (parseDuration numbers (word.drop 8)).map fun timeout =>
      some { options with timeout := some timeout }
  else if startsWith (text "device=") word then
    (parseBounded 65535 (text "bad device id") (word.drop 7)).map fun device =>
      some { options with device := some device }
  else if startsWith (text "status=") word then
    (parseBounded 255 (text "bad status") (word.drop 7)).map fun status =>
      some { options with status := some status }
  else .ok none

theorem trim_length_le (line : Text) : (trim line).length ≤ line.length := by
  have outer := (line.dropWhile isSpace).reverse.dropWhile_sublist isSpace |>.length_le
  have inner := line.dropWhile_sublist isSpace |>.length_le
  rw [List.length_reverse] at outer
  rw [trim, List.length_reverse]
  omega

/-- A word is taken off the line. -/
theorem splitWord_length_lt {line : Text} (found : (splitWord line).1 ≠ []) :
    (splitWord line).2.length < line.length := by
  have whole := congrArg List.length
    (List.takeWhile_append_dropWhile (p := fun byte => !isSpace byte) (l := line))
  have nonempty := List.length_pos_iff.mpr found
  have short := trim_length_le (line.dropWhile fun byte => !isSpace byte)
  rw [List.length_append] at whole
  unfold splitWord at nonempty ⊢
  dsimp only at nonempty ⊢
  omega

/-- The leading options, and the text after them. -/
def takeOptions (line : Text) (options : Options) : Except Text (Text × Options) :=
  if (splitWord line).1 = [] then .ok (line, options)
  else
    match takeOption numbers (splitWord line).1 options with
    | .error why => .error why
    | .ok none => .ok (line, options)
    | .ok (some next) => takeOptions (splitWord line).2 next
termination_by line.length
decreasing_by exact splitWord_length_lt (by assumption)

/-! ## Commands -/

def kDefaultTimeout : Nat := 5000

def parseConnect (rest : Text) : Except Text Action :=
  match splitLast 58 rest with
  | none => .error (text "connect needs HOST:PORT")
  | some (host, port) =>
      (parseBounded 65535 (text "connect needs HOST:PORT") port).map fun port =>
        .connect host (UInt16.ofNat port)

def parseHandshake (verb : Text) (action : Option Nat → Action) (rest : Text) :
    Except Text Action :=
  match takeOptions numbers rest {} with
  | .error why => .error why
  | .ok (left, options) =>
      if trim left ≠ [] then .error (text "unexpected text after " ++ verb)
      else .ok (action options.status)

/-- The stream, the function, the options and the text after them. -/
def parseMessage (verb rest : Text) : Except Text (Nat × Nat × Options × Text) :=
  match parseSf (splitWord rest).1 with
  | none => .error (verb ++ text " needs a message such as S1F13")
  | some (stream, function) =>
      (takeOptions numbers (splitWord rest).2 {}).map fun (left, options) =>
        (stream.toNat, function.toNat, options, trim left)

def parseSend (rest : Text) : Except Text Action :=
  match parseMessage numbers (text "send") rest with
  | .error why => .error why
  | .ok (stream, function, options, itemText) =>
      if itemText = [] then .ok (.send stream function options.wBit options.device none)
      else
        match parseItem numbers.toFloatLibrary itemText with
        | .error reason => .error reason.message
        | .ok item => .ok (.send stream function options.wBit options.device (some item))

/-- No text, or a pattern. -/
def parseOptionalPattern (itemText : Text) : Except Text (Option Pattern) :=
  if itemText = [] then .ok none
  else
    match parsePattern numbers.toFloatLibrary itemText with
    | .error reason => .error reason.message
    | .ok pattern => .ok (some pattern)

def parseExpect (rest : Text) : Except Text Action :=
  match parseMessage numbers (text "expect") rest with
  | .error why => .error why
  | .ok (stream, function, options, itemText) =>
      (parseOptionalPattern numbers itemText).map fun pattern =>
        .expect stream function pattern (options.timeout.getD kDefaultTimeout)

/-- A pattern is read, and then not used. -/
def parseExpectNo (rest : Text) : Except Text Action :=
  match parseMessage numbers (text "expect-no") rest with
  | .error why => .error why
  | .ok (stream, function, options, itemText) =>
      (parseOptionalPattern numbers itemText).map fun _ =>
        .expectNo stream function (options.timeout.getD 1000)

/-- `FIELD=VALUE`, with or without quotes around the value. -/
def parseFilter (word : Text) : Option (Text × Text) :=
  let field := word.takeWhile fun byte => byte ≠ 61
  let value := (word.dropWhile fun byte => byte ≠ 61).drop 1
  if field = [] ∨ value = [] then none else some (field, (unquote value).getD value)

def parseFilters : List Text → Except Text (List (Text × Text))
  | [] => .ok []
  | word :: words =>
      match parseFilter word with
      | none => .error (text "wait-event filters look like FIELD=VALUE")
      | some filter => (parseFilters words).map (filter :: ·)

def parseWaitEvent (rest : Text) : Except Text Action :=
  match parseUint (splitWord rest).1 with
  | none => .error (text "wait-event needs a CEID")
  | some id =>
      match takeOptions numbers (splitWord rest).2 {} with
      | .error why => .error why
      | .ok (left, options) =>
          (parseFilters (wordsFrom [] left)).map fun filters =>
            .waitEvent id filters (options.timeout.getD kDefaultTimeout)

/-- The timeout of a line that has nothing but options left. -/
def parseTimeout (why : Text) (rest : Text) : Except Text Nat :=
  match takeOptions numbers rest {} with
  | .error _ => .error why
  | .ok (left, options) =>
      if trim left ≠ [] then .error why else .ok (options.timeout.getD kDefaultTimeout)

def parseWaitAlarm (rest : Text) : Except Text Action :=
  let after := (splitWord rest).2
  let state := (splitWord after).1
  match parseUint (splitWord rest).1 with
  | none => .error (text "wait-alarm needs ALID and set|clear")
  | some id =>
      if state ≠ text "set" ∧ state ≠ text "clear" then
        .error (text "wait-alarm needs ALID and set|clear")
      else
        (parseTimeout numbers (text "bad wait-alarm options") (splitWord after).2).map
          (.waitAlarm id (decide (state = text "set")))

def parseExpectStatus (rest : Text) : Except Text Action :=
  match parseUint (splitWord rest).1 with
  | none => .error (text "expect-status needs an SVID")
  | some id =>
      match takeOptions numbers (splitWord rest).2 {} with
      | .error why => .error why
      | .ok (left, options) =>
          match parsePattern numbers.toFloatLibrary (trim left) with
          | .error reason => .error reason.message
          | .ok pattern =>
              .ok (.expectStatus id (some pattern) (options.timeout.getD kDefaultTimeout))

def parseWithin (operand : Text) : Except Text Assertion :=
  let tolerance := trim (splitWord operand).2
  if startsWith (text "+-") tolerance then
    match parseDouble numbers (splitWord operand).1,
      parseDouble numbers (trim (tolerance.drop 2)) with
    | some center, some tolerance =>
        if numbers.isNegative tolerance then .error (text "within needs numbers")
        else .ok (.within center tolerance)
    | _, _ => .error (text "within needs numbers")
  else .error (text "within needs CENTER +-TOLERANCE")

/-- A quoted text, a number, or a text as it stands. -/
def parseCompared (equal : Bool) (operand : Text) : Except Text Assertion :=
  if operand = [] then .error (text "a value is missing")
  else
    match unquote operand with
    | some value => .ok (.isText equal value)
    | none =>
        match parseDouble numbers operand with
        | some number => .ok (.isNumber equal number)
        | none => .ok (.isText equal operand)

def parseAssert (rest : Text) : Except Text Action :=
  let field := (splitWord rest).1
  let op := (splitWord (splitWord rest).2).1
  let operand := (splitWord (splitWord rest).2).2
  if !startsWith (text "event.") field && !startsWith (text "alarm.") field then
    .error (text "assert needs event.FIELD or alarm.FIELD")
  else if op = text "within" then (parseWithin numbers operand).map (.assert field)
  else if op = text "==" then (parseCompared numbers true operand).map (.assert field)
  else if op = text "!=" then (parseCompared numbers false operand).map (.assert field)
  else .error (text "assert supports within, == and !=")

def parseAutoAck (rest : Text) : Except Text Action :=
  if rest = text "on" then .ok (.autoAck true)
  else if rest = text "off" then .ok (.autoAck false)
  else .error (text "auto-ack needs on or off")

def parseHexByte (word : Text) : Option UInt8 :=
  match parseUint (if startsWith (text "0x") word then word else text "0x" ++ word) with
  | none => none
  | some number => if 255 < number then none else some (UInt8.ofNat number.toNat)

def parseRaw (rest : Text) : Except Text Action :=
  match collect parseHexByte (wordsFrom [] rest) with
  | .error _ => .error (text "raw needs hex bytes")
  | .ok [] => .error (text "raw needs at least one byte")
  | .ok bytes => .ok (.raw bytes)

/-- The command with this verb and this rest of its line. -/
def parseVerb (verb rest : Text) : Except Text Action :=
  if verb = text "connect" then parseConnect rest
  else if verb = text "select" then parseHandshake numbers verb .select rest
  else if verb = text "deselect" then parseHandshake numbers verb .deselect rest
  else if verb = text "linktest" then .ok .linktest
  else if verb = text "separate" then .ok .separate
  else if verb = text "disconnect" then .ok .disconnect
  else if verb = text "send" then parseSend numbers rest
  else if verb = text "expect" then parseExpect numbers rest
  else if verb = text "expect-no" then parseExpectNo numbers rest
  else if verb = text "wait-event" then parseWaitEvent numbers rest
  else if verb = text "wait-alarm" then parseWaitAlarm numbers rest
  else if verb = text "expect-closed" then
    (parseTimeout numbers (text "bad expect-closed options") rest).map .expectClosed
  else if verb = text "expect-status" then parseExpectStatus numbers rest
  else if verb = text "assert" then parseAssert numbers rest
  else if verb = text "auto-ack" then parseAutoAck rest
  else if verb = text "sleep" then (parseDuration numbers rest).map .sleep
  else if verb = text "raw" then parseRaw rest
  else .error (text "unknown command '" ++ verb ++ text "'")

def parseCommand (line : Text) : Except Text Action :=
  parseVerb numbers (splitWord line).1 (splitWord line).2

/-! ## Scripts -/

variable (vars : Text → Option Text)

/-- The command of a line, if it has one. -/
def parseLine (number : Nat) (rawLine : Text) : Except Text (Option Command) :=
  let stripped := trim (stripComment false rawLine)
  if stripped = [] then .ok none
  else
    match substitute vars none stripped with
    | .error why => .error why
    | .ok line => (parseCommand numbers line).map fun action => some ⟨number, stripped, action⟩

/-- The commands of lines that are numbered from here on. -/
def parseLines : (number : Nat) → List Text → Except SyntaxError (List Command)
  | _, [] => .ok []
  | number, rawLine :: rawLines =>
      match parseLine numbers vars number rawLine with
      | .error why => .error (syntaxError number why)
      | .ok found => (parseLines (number + 1) rawLines).map (found.toList ++ ·)

def parseScript (script : Text) : Except SyntaxError (List Command) :=
  parseLines numbers vars 1 (scriptLines script)

end Parser

end Ssim.HostSim
