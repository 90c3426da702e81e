import Ssim.Gem.Answers
import Ssim.Secs2.Accessors

/-!
# Accesses to host data

The predicates, parsers and handlers of host messages once more, statement by statement,
with every `as_list`, `as_ascii`, `as_array`, `operator[]`, `value()` and `operator*`
written out as an access that may throw.  Each one returns what the definition without
accesses returns, so none of the accesses it makes throws.
-/

namespace Ssim.Gem.Accesses

open Ssim.Core (Error Result Text ControlMode ProcessState)
open Hsms (Header Frame Delivery TimePoint)
open Secs2 (Item TypedArray Message Validation MessageFactory Entry Access)
open Secs2.Access (element deref value ok_bind element_zero element_succ deref_some)

/-! ## Item predicates -/

def isList (item : Item) (n : Nat) : Bool :=
  item.isList && item.count == n

def isAscii (item : Item) : Bool :=
  item.format == .ascii

def isByte (item : Item) : Bool :=
  item.format == .binary && item.count == 1

/-- An item is a list of two entries, or the test says that it is not. -/
theorem pair_cases (item : Item) :
    (∃ first second, item = .list [first, second]) ∨
      (isList item 2 = false ∧ ∀ first second, item ≠ .list [first, second]) := by
  rcases item with (_ | ⟨first, _ | ⟨second, _ | ⟨third, rest⟩⟩⟩) | data
  · simp [isList, Item.count]
  · simp [isList, Item.count]
  · simp
  · simp [isList, Item.count]
  · simp [isList, Item.isList]

theorem empty_cases (item : Item) :
    item = .list [] ∨ (isList item 0 = false ∧ item ≠ .list []) := by
  rcases item with (_ | ⟨first, rest⟩) | data
  · simp
  · simp [isList, Item.count]
  · simp [isList, Item.isList]

theorem triple_cases (item : Item) :
    (∃ first second third, item = .list [first, second, third]) ∨
      (isList item 3 = false ∧ ∀ first second third, item ≠ .list [first, second, third]) := by
  rcases item with (_ | ⟨first, _ | ⟨second, _ | ⟨third, _ | ⟨fourth, rest⟩⟩⟩⟩) | data
  · simp [isList, Item.count]
  · simp [isList, Item.count]
  · simp [isList, Item.count]
  · simp
  · simp [isList, Item.count]
  · simp [isList, Item.isList]

theorem ascii_cases (item : Item) :
    (∃ text, item = .array (.ascii text)) ∨
      (isAscii item = false ∧ ∀ text, item ≠ .array (.ascii text)) := by
  rcases item with items | data
  · simp [isAscii, Item.format]
  · cases data <;> simp [isAscii, Item.format, TypedArray.format]

theorem byte_cases (item : Item) :
    (∃ byte, item = .array (.binary [byte])) ∨
      (isByte item = false ∧ ∀ byte, item ≠ .array (.binary [byte])) := by
  rcases item with items | data
  · simp [isByte, Item.format]
  · cases data with
    | binary values =>
        rcases values with _ | ⟨byte, _ | ⟨next, rest⟩⟩ <;>
          simp [isByte, Item.count, TypedArray.count]
    | _ => simp [isByte, Item.format, TypedArray.format]

@[simp]
theorem isList_list (items : List Item) (n : Nat) :
    isList (.list items) n = (items.length == n) := by
  simp [isList, Item.isList, Item.count]

@[simp]
theorem isAscii_ascii (text : Text) : isAscii (.array (.ascii text)) = true :=
  rfl

@[simp]
theorem isByte_byte (byte : UInt8) : isByte (.array (.binary [byte])) = true :=
  rfl

/-! ## Integer items -/

def collectUints (item : Item) : Access (Option (List Nat)) :=
  match item.format with
  | .u1 => do return some ((← item.asArray UInt8).map UInt8.toNat)
  | .u2 => do return some ((← item.asArray UInt16).map UInt16.toNat)
  | .u4 => do return some ((← item.asArray UInt32).map UInt32.toNat)
  | .u8 => do return some ((← item.asArray UInt64).map UInt64.toNat)
  | .i1 => do return nonnegative ((← item.asArray Int8).map Int8.toInt)
  | .i2 => do return nonnegative ((← item.asArray Int16).map Int16.toInt)
  | .i4 => do return nonnegative ((← item.asArray Int32).map Int32.toInt)
  | .i8 => do return nonnegative ((← item.asArray Int64).map Int64.toInt)
  | _ => return none

theorem collectUints_eq (item : Item) : collectUints item = .ok (Gem.collectUints item) := by
  cases item with
  | list items => rfl
  | array data => cases data <;> rfl

def oneU32 (item : Item) : Access (Option UInt32) := do
  match ← collectUints item with
  | none => return none
  | some values =>
      if values.length ≠ 1 then
        return none
      if (← element values 0) > 0xFFFFFFFF then
        return none
      return some (UInt32.ofNat (← element values 0))

theorem oneU32_eq (item : Item) : oneU32 item = .ok (Gem.oneU32 item) := by
  unfold oneU32 Gem.oneU32
  rw [collectUints_eq]
  rcases Gem.collectUints item with _ | values
  · rfl
  · rcases values with _ | ⟨value, _ | ⟨next, rest⟩⟩
    · rfl
    · by_cases large : value > 0xFFFFFFFF
      · simp [large]
      · simp [large]
    · simp

/-! ## Body parsers -/

def parseCommandParams : List Item → Access (Result (List CommandParam))
  | [] => return .ok []
  | pair :: pairs => do
      if !isList pair 2 then
        return .error (illegal "each parameter must be L2\x7bCPNAME A, CPVAL\x7d")
      if !isAscii (← element (← pair.asList) 0) then
        return .error (illegal "each parameter must be L2\x7bCPNAME A, CPVAL\x7d")
      let name ← (← element (← pair.asList) 0).asAscii
      let value ← element (← pair.asList) 1
      match ← parseCommandParams pairs with
      | .error reason => return .error reason
      | .ok params => return .ok (⟨name, value⟩ :: params)

def parseCommandBody : Option Item → Access (Result RemoteCommand)
  | none => return .error (illegal "S2F41 must be L2")
  | some body => do
      if !isList body 2 then
        return .error (illegal "S2F41 must be L2")
      let top ← body.asList
      if !isAscii (← element top 0) then
        return .error (illegal "RCMD must be ASCII")
      if !(← element top 1).isList then
        return .error (illegal "S2F41 parameters must be a list")
      let rcmd ← (← element top 0).asAscii
      match ← parseCommandParams (← (← element top 1).asList) with
      | .error reason => return .error reason
      | .ok params => return .ok ⟨rcmd, params⟩

theorem parseCommandParams_eq (pairs : List Item) :
    parseCommandParams pairs = .ok (Gem.parseCommandParams pairs) := by
  induction pairs with
  | nil => rfl
  | cons pair pairs ih =>
      unfold parseCommandParams
      rcases pair_cases pair with ⟨name, value, rfl⟩ | ⟨shape, other⟩
      · rcases ascii_cases name with ⟨name, rfl⟩ | ⟨format, other⟩
        · simp only [Gem.parseCommandParams, ih]
          cases Gem.parseCommandParams pairs <;> rfl
        · simp [format, Gem.parseCommandParams, other]
      · simp [shape, Gem.parseCommandParams, other]

theorem parseCommandBody_eq (body : Option Item) :
    parseCommandBody body = .ok (Gem.parseCommandBody body) := by
  rcases body with _ | body
  · rfl
  · unfold parseCommandBody
    rcases pair_cases body with ⟨rcmd, params, rfl⟩ | ⟨shape, other⟩
    · rcases ascii_cases rcmd with ⟨rcmd, rfl⟩ | ⟨format, other⟩
      · cases params with
        | list pairs =>
            simp only [Gem.parseCommandBody, Item.asList_list, Item.asAscii_ascii, ok_bind,
              element_zero, element_succ, parseCommandParams_eq]
            cases Gem.parseCommandParams pairs <;> rfl
        | array data => rfl
      · simp [format, Gem.parseCommandBody]
    · simp [shape, Gem.parseCommandBody, other]

def parseSvids : List Item → Access (Result (List UInt32))
  | [] => return .ok []
  | item :: items => do
      match ← collectUints item with
      | none => return .error (illegal "SVID must be an integer")
      | some values =>
          if values.any (· > 0xFFFFFFFF) then
            return .error (illegal "SVID out of range")
          match ← parseSvids items with
          | .error reason => return .error reason
          | .ok svids => return .ok (values.map UInt32.ofNat ++ svids)

def parseSvidBody : Option Item → Access (Result (List UInt32))
  | none => return .error (illegal "S1F3 must be a list of SVIDs")
  | some body => do
      if !body.isList then
        return .error (illegal "S1F3 must be a list of SVIDs")
      parseSvids (← body.asList)

theorem parseSvids_eq (items : List Item) : parseSvids items = .ok (Gem.parseSvids items) := by
  induction items with
  | nil => rfl
  | cons item items ih =>
      simp only [parseSvids, Gem.parseSvids, collectUints_eq, ok_bind, ih]
      rcases Gem.collectUints item with _ | values
      · rfl
      · dsimp only
        split
        · rfl
        · cases Gem.parseSvids items <;> rfl

theorem parseSvidBody_eq (body : Option Item) :
    parseSvidBody body = .ok (Gem.parseSvidBody body) := by
  rcases body with _ | body
  · rfl
  · cases body with
    | list items => exact parseSvids_eq items
    | array data => rfl

def parseReports : List Item → Access (Result (List Report))
  | [] => return .ok []
  | report :: reports => do
      if !isList report 2 then
        return .error (illegal "each report must be L2\x7bRPTID, values\x7d")
      match ← oneU32 (← element (← report.asList) 0) with
      | none => return .error (illegal "bad report")
      | some rptid =>
          if !(← element (← report.asList) 1).isList then
            return .error (illegal "bad report")
          let values ← (← element (← report.asList) 1).asList
          match ← parseReports reports with
          | .error reason => return .error reason
          | .ok reports => return .ok (⟨rptid, values⟩ :: reports)

def parseEventBody : Option Item → Access (Result EventReport)
  | none => return .error (illegal "S6F11 must be L3")
  | some body => do
      if !isList body 3 then
        return .error (illegal "S6F11 must be L3")
      let top ← body.asList
      let dataid ← oneU32 (← element top 0)
      let ceid ← oneU32 (← element top 1)
      if dataid.isNone || ceid.isNone then
        return .error (illegal "DATAID and CEID must be integers")
      if !(← element top 2).isList then
        return .error (illegal "S6F11 reports must be a list")
      let dataid ← deref dataid
      let ceid ← deref ceid
      match ← parseReports (← (← element top 2).asList) with
      | .error reason => return .error reason
      | .ok reports => return .ok ⟨dataid, ceid, reports⟩

theorem parseReports_eq (reports : List Item) :
    parseReports reports = .ok (Gem.parseReports reports) := by
  induction reports with
  | nil => rfl
  | cons report reports ih =>
      unfold parseReports
      rcases pair_cases report with ⟨rptid, values, rfl⟩ | ⟨shape, other⟩
      · cases known : Gem.oneU32 rptid with
        | none => simp [oneU32_eq, Gem.parseReports, known]
        | some id =>
            cases values with
            | list values =>
                simp only [Gem.parseReports, Item.asList_list, ok_bind, element_zero,
                  element_succ, oneU32_eq, known, ih]
                cases Gem.parseReports reports <;> rfl
            | array data => simp [oneU32_eq, Gem.parseReports, known, Item.isList]
      · simp [shape, Gem.parseReports]

theorem parseEventBody_eq (body : Option Item) :
    parseEventBody body = .ok (Gem.parseEventBody body) := by
  rcases body with _ | body
  · rfl
  · unfold parseEventBody
    rcases triple_cases body with ⟨dataid, ceid, reports, rfl⟩ | ⟨shape, other⟩
    · cases knownData : Gem.oneU32 dataid with
      | none => simp [oneU32_eq, Gem.parseEventBody, knownData]
      | some data =>
          cases knownEvent : Gem.oneU32 ceid with
          | none => simp [oneU32_eq, Gem.parseEventBody, knownData, knownEvent]
          | some event =>
              cases reports with
              | list reports =>
                  simp only [Gem.parseEventBody, Item.asList_list, ok_bind, element_zero,
                    element_succ, oneU32_eq, deref_some, knownData, knownEvent, parseReports_eq]
                  cases Gem.parseReports reports <;> rfl
              | array data =>
                  simp [oneU32_eq, Gem.parseEventBody, knownData, knownEvent, Item.isList]
    · simp [shape, Gem.parseEventBody, other]

def parseAlarmBody : Option Item → Access (Result AlarmReport)
  | none => return .error (illegal "S5F1 must be L3")
  | some body => do
      if !isList body 3 then
        return .error (illegal "S5F1 must be L3")
      let top ← body.asList
      let alid ← oneU32 (← element top 1)
      if !isByte (← element top 0) then
        return .error (illegal "S5F1 must be L3\x7bALCD B, ALID U4, ALTX A\x7d")
      if alid.isNone then
        return .error (illegal "S5F1 must be L3\x7bALCD B, ALID U4, ALTX A\x7d")
      if !isAscii (← element top 2) then
        return .error (illegal "S5F1 must be L3\x7bALCD B, ALID U4, ALTX A\x7d")
      let alcd ← element (← (← element top 0).asArray UInt8) 0
      return .ok ⟨alcd, ← deref alid, ← (← element top 2).asAscii⟩

theorem parseAlarmBody_eq (body : Option Item) :
    parseAlarmBody body = .ok (Gem.parseAlarmBody body) := by
  rcases body with _ | body
  · rfl
  · unfold parseAlarmBody
    rcases triple_cases body with ⟨alcd, alid, altx, rfl⟩ | ⟨shape, other⟩
    · rcases byte_cases alcd with ⟨alcd, rfl⟩ | ⟨byte, other⟩
      · cases known : Gem.oneU32 alid with
        | none => simp [oneU32_eq, Gem.parseAlarmBody, known]
        | some id =>
            rcases ascii_cases altx with ⟨altx, rfl⟩ | ⟨text, other⟩
            · simp [oneU32_eq, Gem.parseAlarmBody, known]
            · simp [oneU32_eq, Gem.parseAlarmBody, known, text, other]
      · simp [oneU32_eq, Gem.parseAlarmBody, byte, other]
    · simp [shape, Gem.parseAlarmBody, other]

def parseParamAcks : List Item → Access (Result (List ParamAck))
  | [] => return .ok []
  | pair :: pairs => do
      if !isList pair 2 then
        return .error (illegal "each entry must be L2\x7bCPNAME A, CPACK B\x7d")
      if !isAscii (← element (← pair.asList) 0) then
        return .error (illegal "each entry must be L2\x7bCPNAME A, CPACK B\x7d")
      if !isByte (← element (← pair.asList) 1) then
        return .error (illegal "each entry must be L2\x7bCPNAME A, CPACK B\x7d")
      let name ← (← element (← pair.asList) 0).asAscii
      let cpack ← element (← (← element (← pair.asList) 1).asArray UInt8) 0
      match ← parseParamAcks pairs with
      | .error reason => return .error reason
      | .ok params => return .ok (⟨name, cpack⟩ :: params)

def parseCommandAckBody : Option Item → Access (Result CommandAck)
  | none => return .error (illegal "S2F42 must be L2\x7bHCACK B, list\x7d")
  | some body => do
      if !isList body 2 then
        return .error (illegal "S2F42 must be L2\x7bHCACK B, list\x7d")
      if !isByte (← element (← body.asList) 0) then
        return .error (illegal "S2F42 must be L2\x7bHCACK B, list\x7d")
      if !(← element (← body.asList) 1).isList then
        return .error (illegal "S2F42 must be L2\x7bHCACK B, list\x7d")
      let hcack ← element (← (← element (← body.asList) 0).asArray UInt8) 0
      match ← parseParamAcks (← (← element (← body.asList) 1).asList) with
      | .error reason => return .error reason
      | .ok params => return .ok ⟨hcack, params⟩

theorem parseParamAcks_eq (pairs : List Item) :
    parseParamAcks pairs = .ok (Gem.parseParamAcks pairs) := by
  induction pairs with
  | nil => rfl
  | cons pair pairs ih =>
      unfold parseParamAcks
      rcases pair_cases pair with ⟨name, cpack, rfl⟩ | ⟨shape, other⟩
      · rcases ascii_cases name with ⟨name, rfl⟩ | ⟨text, other⟩
        · rcases byte_cases cpack with ⟨cpack, rfl⟩ | ⟨byte, other⟩
          · simp only [Gem.parseParamAcks, ih]
            cases Gem.parseParamAcks pairs <;> rfl
          · simp [byte, Gem.parseParamAcks, other]
        · simp [text, Gem.parseParamAcks, other]
      · simp [shape, Gem.parseParamAcks, other]

theorem parseCommandAckBody_eq (body : Option Item) :
    parseCommandAckBody body = .ok (Gem.parseCommandAckBody body) := by
  rcases body with _ | body
  · rfl
  · unfold parseCommandAckBody
    rcases pair_cases body with ⟨hcack, params, rfl⟩ | ⟨shape, other⟩
    · rcases byte_cases hcack with ⟨hcack, rfl⟩ | ⟨byte, other⟩
      · cases params with
        | list pairs =>
            simp only [Gem.parseCommandAckBody, Item.asList_list, Item.asArray_binary, ok_bind,
              element_zero, element_succ, parseParamAcks_eq]
            cases Gem.parseParamAcks pairs <;> rfl
        | array data => rfl
      · simp [byte, Gem.parseCommandAckBody, other]
    · simp [shape, Gem.parseCommandAckBody, other]

def parseAckBody : Option Item → Access (Result UInt8)
  | none => return .error (illegal "acknowledge must be one binary byte")
  | some body => do
      if !isByte body then
        return .error (illegal "acknowledge must be one binary byte")
      return .ok (← element (← body.asArray UInt8) 0)

theorem parseAckBody_eq (body : Option Item) :
    parseAckBody body = .ok (Gem.parseAckBody body) := by
  rcases body with _ | body
  · rfl
  · rcases byte_cases body with ⟨ack, rfl⟩ | ⟨byte, other⟩
    · rfl
    · simp [parseAckBody, byte, Gem.parseAckBody, other]

/-! ## Shapes without a parser -/

def identityOk (item : Item) : Access Bool := do
  if !isList item 2 then
    return false
  if !isAscii (← element (← item.asList) 0) then
    return false
  return isAscii (← element (← item.asList) 1)

def commRequestOk : Option Item → Access Bool
  | none => return true
  | some body => do
      if isList body 0 then
        return true
      if !isList body 2 then
        return false
      if !isAscii (← element (← body.asList) 0) then
        return false
      return isAscii (← element (← body.asList) 1)

def s1f14Ok : Option Item → Access Bool
  | none => return false
  | some body => do
      if !isList body 2 then
        return false
      if !isByte (← element (← body.asList) 0) then
        return false
      if isList (← element (← body.asList) 1) 0 then
        return true
      identityOk (← element (← body.asList) 1)

theorem identityOk_eq (item : Item) : identityOk item = .ok (Gem.identityOk item) := by
  unfold identityOk
  rcases pair_cases item with ⟨model, softrev, rfl⟩ | ⟨shape, other⟩
  · rcases ascii_cases model with ⟨model, rfl⟩ | ⟨text, other⟩
    · rcases ascii_cases softrev with ⟨softrev, rfl⟩ | ⟨text, other⟩
      · rfl
      · simp [text, Gem.identityOk, other]
    · simp [text, Gem.identityOk, other]
  · simp [shape, Gem.identityOk, other]

theorem commRequestOk_eq (body : Option Item) :
    commRequestOk body = .ok (Gem.commRequestOk body) := by
  rcases body with _ | body
  · rfl
  · rcases empty_cases body with rfl | ⟨shape, other⟩
    · rfl
    · have same : commRequestOk (some body) = identityOk body := by
        simp [commRequestOk, identityOk, shape]
      rw [same, identityOk_eq, Gem.commRequestOk]
      simpa using other

theorem s1f14Ok_eq (body : Option Item) : s1f14Ok body = .ok (Gem.s1f14Ok body) := by
  rcases body with _ | body
  · rfl
  · unfold s1f14Ok
    rcases pair_cases body with ⟨commack, identity, rfl⟩ | ⟨shape, other⟩
    · rcases byte_cases commack with ⟨commack, rfl⟩ | ⟨byte, other⟩
      · rcases empty_cases identity with rfl | ⟨shape, other⟩
        · rfl
        · simp [shape, identityOk_eq, Gem.s1f14Ok]
      · simp [byte, Gem.s1f14Ok, other]
    · simp [shape, Gem.s1f14Ok, other]

/-! ## Catalogues -/

/-- A registered message whose body check may throw. -/
structure Registration where
  stream : UInt8
  function : UInt8
  name : String
  check : Option Item → Access Bool

def registerMessage (stream function : UInt8) (name : String) (check : Option Item → Access Bool)
    (registered : List Registration) : List Registration :=
  ⟨stream, function, name, check⟩ ::
    registered.filter fun entry => !(entry.stream = stream && entry.function = function)

/-- `MessageFactory::check`; the body check runs on the body as it came. -/
def check (registered : List Registration) (message : Message) : Access Validation :=
  match registered.find? fun entry =>
      entry.stream = message.stream && entry.function = message.function with
  | some entry => do
      if ← entry.check message.body then
        return .ok
      return .illegalData
  | none =>
      if registered.any fun entry => entry.stream = message.stream then
        return .unknownFunction
      else
        return .unknownStream

/-- `has_value()` of what a parser returns. -/
def accepts {α : Type} (parser : Option Item → Access (Result α)) (body : Option Item) :
    Access Bool := do
  return (← parser body).toBool

def equipmentCatalogue : List Registration :=
  []
    |> registerMessage 1 1 "S1F1" (fun body => return noBody body)
    |> registerMessage 1 3 "S1F3" (accepts parseSvidBody)
    |> registerMessage 1 13 "S1F13" commRequestOk
    |> registerMessage 1 15 "S1F15" (fun body => return noBody body)
    |> registerMessage 1 17 "S1F17" (fun body => return noBody body)
    |> registerMessage 2 41 "S2F41" (accepts parseCommandBody)
    |> registerMessage 5 2 "S5F2" (accepts parseAckBody)
    |> registerMessage 6 12 "S6F12" (accepts parseAckBody)

def hostCatalogue : List Registration :=
  []
    |> registerMessage 1 2 "S1F2" (fun body => body.elim (return false) identityOk)
    |> registerMessage 1 4 "S1F4" (fun body => return body.any Item.isList)
    |> registerMessage 1 14 "S1F14" s1f14Ok
    |> registerMessage 1 16 "S1F16" (accepts parseAckBody)
    |> registerMessage 1 18 "S1F18" (accepts parseAckBody)
    |> registerMessage 2 42 "S2F42" (accepts parseCommandAckBody)
    |> registerMessage 5 1 "S5F1" (accepts parseAlarmBody)
    |> registerMessage 6 11 "S6F11" (accepts parseEventBody)
    |> registerMessage 9 1 "S9F1" (fun body => return s9Ok body)
    |> registerMessage 9 3 "S9F3" (fun body => return s9Ok body)
    |> registerMessage 9 5 "S9F5" (fun body => return s9Ok body)
    |> registerMessage 9 7 "S9F7" (fun body => return s9Ok body)
    |> registerMessage 9 9 "S9F9" (fun body => return s9Ok body)
    |> registerMessage 9 11 "S9F11" (fun body => return s9Ok body)

/-- The two entries are for the same message, and the check makes no throwing access. -/
def Agrees (registration : Registration) (entry : Entry) : Prop :=
  registration.stream = entry.stream ∧ registration.function = entry.function ∧
    ∀ body, registration.check body = .ok (entry.check body)

/-- Entry by entry, the registrations agree with the factory's. -/
def Mirrors (registered : List Registration) (factory : MessageFactory) : Prop :=
  List.Forall₂ Agrees registered factory.entries

theorem mirrors_empty : Mirrors [] .empty :=
  .nil

theorem Mirrors.registerMessage {registered : List Registration} {factory : MessageFactory}
    (mirrors : Mirrors registered factory) (stream function : UInt8) (name : String)
    {check : Option Item → Access Bool} {bodyCheck : Secs2.BodyCheck}
    (same : ∀ body, check body = .ok (bodyCheck body)) :
    Mirrors (Accesses.registerMessage stream function name check registered)
      (factory.registerMessage stream function name bodyCheck) := by
  refine .cons ⟨rfl, rfl, same⟩ ?_
  refine List.rel_filter ?_ mirrors
  intro registration entry ⟨sameStream, sameFunction, _⟩
  simp [sameStream, sameFunction]

theorem check_never_throws {registered : List Registration} {entries : List Entry}
    (agree : List.Forall₂ Agrees registered entries) {registration : Registration}
    (member : registration ∈ registered) (body : Option Item) :
    ∃ accepted, registration.check body = .ok accepted := by
  induction agree with
  | nil => simp at member
  | @cons _ entry _ _ head _ ih =>
      rcases List.mem_cons.mp member with rfl | inTail
      · exact ⟨entry.check body, head.2.2 body⟩
      · exact ih inTail

theorem find_rel {registered : List Registration} {entries : List Entry}
    (agree : List.Forall₂ Agrees registered entries) (stream function : UInt8) :
    Option.Rel Agrees
      (registered.find? fun entry => entry.stream = stream && entry.function = function)
      (entries.find? fun entry => entry.stream = stream && entry.function = function) := by
  induction agree with
  | nil => exact .none
  | @cons registration entry registered entries head tail ih =>
      simp only [List.find?_cons, head.1, head.2.1]
      split
      · exact .some head
      · exact ih

theorem any_stream_eq {registered : List Registration} {entries : List Entry}
    (agree : List.Forall₂ Agrees registered entries) (stream : UInt8) :
    (registered.any fun entry => entry.stream = stream) =
      entries.any fun entry => entry.stream = stream := by
  induction agree with
  | nil => rfl
  | cons head tail ih => simp [head.1, ih]

theorem Mirrors.check_eq {registered : List Registration} {factory : MessageFactory}
    (mirrors : Mirrors registered factory) (message : Message) :
    check registered message = .ok (factory.check message) := by
  unfold check MessageFactory.check MessageFactory.find?
  rw [any_stream_eq mirrors]
  have related := find_rel mirrors message.stream message.function
  generalize registered.find? _ = registration at related ⊢
  generalize factory.entries.find? _ = entry at related ⊢
  cases related with
  | none =>
      dsimp only
      split <;> rfl
  | some agrees =>
      simp only [agrees.2.2, ok_bind]
      split <;> rfl

theorem accepts_eq {α : Type} {parser : Option Item → Access (Result α)}
    {bare : Option Item → Result α} (same : ∀ body, parser body = .ok (bare body))
    (body : Option Item) : accepts parser body = .ok (Gem.accepts bare body) := by
  simp [accepts, Gem.accepts, same]

theorem equipmentCatalogue_mirrors : Mirrors equipmentCatalogue Handler.equipmentFactory :=
  mirrors_empty
    |>.registerMessage 1 1 "S1F1" (fun _ => rfl)
    |>.registerMessage 1 3 "S1F3" (accepts_eq parseSvidBody_eq)
    |>.registerMessage 1 13 "S1F13" commRequestOk_eq
    |>.registerMessage 1 15 "S1F15" (fun _ => rfl)
    |>.registerMessage 1 17 "S1F17" (fun _ => rfl)
    |>.registerMessage 2 41 "S2F41" (accepts_eq parseCommandBody_eq)
    |>.registerMessage 5 2 "S5F2" (accepts_eq parseAckBody_eq)
    |>.registerMessage 6 12 "S6F12" (accepts_eq parseAckBody_eq)

theorem hostCatalogue_mirrors : Mirrors hostCatalogue (registerHostCatalogue .empty) :=
  mirrors_empty
    |>.registerMessage 1 2 "S1F2" (fun body => by cases body <;> simp [identityOk_eq])
    |>.registerMessage 1 4 "S1F4" (fun _ => rfl)
    |>.registerMessage 1 14 "S1F14" s1f14Ok_eq
    |>.registerMessage 1 16 "S1F16" (accepts_eq parseAckBody_eq)
    |>.registerMessage 1 18 "S1F18" (accepts_eq parseAckBody_eq)
    |>.registerMessage 2 42 "S2F42" (accepts_eq parseCommandAckBody_eq)
    |>.registerMessage 5 1 "S5F1" (accepts_eq parseAlarmBody_eq)
    |>.registerMessage 6 11 "S6F11" (accepts_eq parseEventBody_eq)
    |>.registerMessage 9 1 "S9F1" (fun _ => rfl)
    |>.registerMessage 9 3 "S9F3" (fun _ => rfl)
    |>.registerMessage 9 5 "S9F5" (fun _ => rfl)
    |>.registerMessage 9 7 "S9F7" (fun _ => rfl)
    |>.registerMessage 9 9 "S9F9" (fun _ => rfl)
    |>.registerMessage 9 11 "S9F11" (fun _ => rfl)

/-! ## Handlers -/

def asU32 (item : Item) : Access (Option UInt32) :=
  match item.format with
  | .u1 => do
      if item.count = 1 then
        return some (UInt32.ofNat (← element (← item.asArray UInt8) 0).toNat)
      return none
  | .u2 => do
      if item.count = 1 then
        return some (UInt32.ofNat (← element (← item.asArray UInt16) 0).toNat)
      return none
  | .u4 => do
      if item.count = 1 then
        return some (← element (← item.asArray UInt32) 0)
      return none
  | _ => return none

theorem asU32_eq (item : Item) : asU32 item = .ok (Gem.asU32 item) := by
  rcases item with items | data
  · rfl
  · cases data with
    | u1 values | u2 values | u4 values =>
        rcases values with _ | ⟨value, _ | ⟨next, rest⟩⟩
        · rfl
        · rfl
        · rfl
    | _ => rfl

def handleStatusRequest (handler : Handler) (now : TimePoint) (frame : Frame)
    (message : Message) : Access Handler := do
  let svids ← value (← parseSvidBody message.body)
  let svids := if svids.isEmpty then statusVariables else svids
  return handler.reply frame (makeS1f4 (svids.map (handler.statusValue now)))

def scanParam (rcmd : Text) (scan : Handler.ParamScan) (param : CommandParam) :
    Access Handler.ParamScan := do
  if rcmd = Handler.kStart ∧ param.name = Handler.kWaferId then
    if scan.waferId.isSome then
      return scan.refuse param.name kCpackIllegalValue
    else if param.value.format ≠ .ascii then
      return scan.refuse param.name kCpackIllegalFormat
    else if !validWaferId (← param.value.asAscii) then
      return scan.refuse param.name kCpackIllegalValue
    else
      let id ← param.value.asAscii
      return { scan with acks := scan.acks ++ [⟨param.name, kCpackOk⟩], waferId := some id }
  else if rcmd = Handler.kStart ∧ param.name = Handler.kCassetteId then
    return scan.refuse param.name kCpackIllegalValue
  else if rcmd = Handler.kClearAlarm ∧ param.name = Handler.kAlid then
    let alid ← asU32 param.value
    if alid.isNone then
      return scan.refuse param.name kCpackIllegalFormat
    else if !knownAlid (← deref alid) then
      return scan.refuse param.name kCpackIllegalValue
    else
      return { scan with acks := scan.acks ++ [⟨param.name, kCpackOk⟩] }
  else
    return scan.refuse param.name kCpackUnknownName

theorem scanParam_eq (rcmd : Text) (scan : Handler.ParamScan) (param : CommandParam) :
    scanParam rcmd scan param = .ok (Handler.scanParam rcmd scan param) := by
  unfold scanParam Handler.scanParam
  split
  · split
    · rfl
    · rcases ascii_cases param.value with ⟨id, text⟩ | ⟨text, other⟩
      · simp only [text, Item.format, TypedArray.format, Item.asAscii_ascii, ok_bind]
        cases validWaferId id <;> rfl
      · have format : param.value.format ≠ .ascii := by simpa [isAscii] using text
        simp [format]
  · split
    · rfl
    · split
      · rw [asU32_eq]
        cases Gem.asU32 param.value with
        | none => rfl
        | some alid => cases known : knownAlid alid <;> simp [known]
      · rfl

/-- The loop over the parameters. -/
def scanParams (rcmd : Text) (scan : Handler.ParamScan) :
    List CommandParam → Access Handler.ParamScan
  | [] => return scan
  | param :: params => do scanParams rcmd (← scanParam rcmd scan param) params

theorem scanParams_eq (rcmd : Text) (scan : Handler.ParamScan) (params : List CommandParam) :
    scanParams rcmd scan params = .ok (params.foldl (Handler.scanParam rcmd) scan) := by
  induction params generalizing scan with
  | nil => rfl
  | cons param params ih =>
      rw [scanParams, scanParam_eq, ok_bind, ih]
      rfl

def commandPayload (rcmd : Text) (waferId : Option Text) : Access Ssim.Core.CommandPayload := do
  if rcmd = Handler.kStart then
    return .start (← deref waferId) 1
  else if rcmd = Handler.kStop then
    return .stop
  else if rcmd = Handler.kAbort then
    return .abort
  else
    return .clearAlarm

def executeCommand (handler : Handler) (command : RemoteCommand) :
    Access (UInt8 × List ParamAck × Handler) := do
  let rcmd := command.rcmd
  if rcmd ≠ Handler.kStart ∧ rcmd ≠ Handler.kStop ∧ rcmd ≠ Handler.kAbort ∧
      rcmd ≠ Handler.kClearAlarm then
    return (kHcackUnknownCommand, [], handler)
  if handler.api.snapshot.controlMode ≠ .onlineRemote then
    return (kHcackCannotPerformNow, [], handler)
  let scan ← scanParams rcmd {} command.params
  if !scan.paramsOk ∨ (rcmd = Handler.kStart ∧ scan.waferId.isNone) then
    return (kHcackInvalidParameter, scan.acks, handler)
  match handler.submit (← commandPayload rcmd scan.waferId) with
  | (.error _, handler) => return (kHcackCannotPerformNow, scan.acks, handler)
  | (.ok _, handler) =>
      return (if rcmd = Handler.kStart then kHcackAcceptedLater else kHcackDone,
        scan.acks, handler)

theorem commandPayload_eq {rcmd : Text} {waferId : Option Text}
    (given : ¬ (rcmd = Handler.kStart ∧ waferId.isNone)) :
    commandPayload rcmd waferId = .ok (Handler.commandPayload rcmd waferId) := by
  unfold commandPayload Handler.commandPayload
  by_cases start : rcmd = Handler.kStart
  · cases waferId with
    | none => exact absurd ⟨start, rfl⟩ given
    | some id => simp [start]
  · simp only [if_neg start]
    split
    · rfl
    · split <;> rfl

theorem executeCommand_eq (handler : Handler) (command : RemoteCommand) :
    executeCommand handler command = .ok (handler.executeCommand command) := by
  unfold executeCommand Handler.executeCommand
  simp only [scanParams_eq, ok_bind]
  split
  · rfl
  · split
    · rfl
    · split
      · rfl
      · next valid =>
          rw [commandPayload_eq fun missing => valid (.inr missing)]
          simp only [ok_bind]
          rcases handler.submit _ with ⟨_ | _, after⟩
          · rfl
          · rfl

def handleRemoteCommand (handler : Handler) (frame : Frame) (message : Message) :
    Access Handler := do
  let command ← value (← parseCommandBody message.body)
  let (hcack, acks, handler) ← executeCommand handler command
  return handler.reply frame (makeS2f42 hcack acks)

def handleMessage (handler : Handler) (now : TimePoint) (frame : Frame) (message : Message) :
    Access Handler :=
  if message.stream = 1 ∧ message.function = 1 then
    return handler.reply frame (makeS1f2 handler.gem.config.identity)
  else if message.stream = 1 ∧ message.function = 13 then
    return { handler with gem := { handler.gem with comm := .communicating } }.reply frame
      (makeS1f14 kCommackAccepted handler.gem.config.identity)
  else if message.stream = 1 ∧ message.function = 3 then
    handleStatusRequest handler now frame message
  else if message.stream = 1 ∧ message.function = 15 then
    return handler.handleOfflineRequest frame
  else if message.stream = 1 ∧ message.function = 17 then
    return handler.handleOnlineRequest frame
  else if message.stream = 2 ∧ message.function = 41 then
    handleRemoteCommand handler frame message
  else
    return handler

def onData (handler : Handler) (now : TimePoint) (delivery : Delivery) : Access Handler := do
  let frame := delivery.frame
  match delivery.replyTo with
  | some systemBytes =>
      return { handler with gem :=
          { handler.gem with openRequests := handler.gem.openRequests.erase systemBytes } }
  | none =>
      if frame.header.sessionId ≠ handler.gem.config.deviceId then
        return handler.sendS9 1 frame.header
      if frame.body.length > handler.gem.config.maxBodyBytes then
        return handler.sendS9 11 frame.header
      let message := Hsms.toMessage frame
      if !message.toBool then
        return handler.sendS9 7 frame.header
      match ← check equipmentCatalogue (← value message) with
      | .ok => handleMessage handler now frame (← value message)
      | .unknownStream => return handler.sendS9 3 frame.header
      | .unknownFunction => return handler.sendS9 5 frame.header
      | .illegalData => return handler.sendS9 7 frame.header

/-! ## No access throws -/

/-- A body that the catalogue accepts for S1F3 or S2F41 has a value when it is parsed. -/
theorem parses_of_check {message : Message}
    (checked : Handler.equipmentFactory.check message = .ok) :
    (message.stream = 1 ∧ message.function = 3 →
      ∃ svids, Gem.parseSvidBody message.body = .ok svids) ∧
      (message.stream = 2 ∧ message.function = 41 →
        ∃ command, Gem.parseCommandBody message.body = .ok command) := by
  obtain ⟨entry, member, stream, function, accepted⟩ := registered_of_check checked
  rw [equipmentFactory_entries] at member
  rw [← stream, ← function]
  simp only [List.mem_cons, List.not_mem_nil, or_false] at member
  rcases member with rfl | rfl | rfl | rfl | rfl | rfl | rfl | rfl
  · simp
  · simp
  · exact ⟨by simp, fun _ => eq_ok_of_accepts accepted⟩
  · simp
  · simp
  · simp
  · exact ⟨fun _ => eq_ok_of_accepts accepted, by simp⟩
  · simp

theorem handleMessage_eq (handler : Handler) (now : TimePoint) (frame : Frame)
    {message : Message} (checked : Handler.equipmentFactory.check message = .ok) :
    handleMessage handler now frame message =
      .ok (handler.handleMessage now frame message) := by
  obtain ⟨status, command⟩ := parses_of_check checked
  unfold handleMessage Handler.handleMessage
  split
  · rfl
  · split
    · rfl
    · split
      next named =>
        obtain ⟨svids, parsed⟩ := status named
        simp [handleStatusRequest, Handler.handleStatusRequest, parseSvidBody_eq, parseS1f3,
          parsed]
      next =>
        split
        · rfl
        · split
          · rfl
          · split
            next named =>
              obtain ⟨command, parsed⟩ := command named
              simp [handleRemoteCommand, Handler.handleRemoteCommand, parseCommandBody_eq,
                parseS2f41, executeCommand_eq, parsed]
            next => rfl

theorem onData_eq (handler : Handler) (now : TimePoint) (delivery : Delivery) :
    onData handler now delivery = .ok (handler.onData now delivery) := by
  unfold onData Handler.onData
  cases delivery.replyTo with
  | some systemBytes => rfl
  | none =>
      dsimp only
      split
      · rfl
      · split
        · rfl
        · cases Hsms.toMessage delivery.frame with
          | error reason => rfl
          | ok message =>
              simp only [Secs2.Access.value_ok, ok_bind, equipmentCatalogue_mirrors.check_eq]
              cases checked : Handler.equipmentFactory.check message with
              | ok => exact handleMessage_eq handler now delivery.frame checked
              | _ => rfl

/--
Whatever a delivery holds, handling it makes no throwing access.  A body that the
equipment's catalogue accepts for S1F3 or S2F41 is parsed to a value.  The body checks of
both catalogues and the parsers make no throwing access on any body, and the remote command
handler on any command.
-/
theorem host_data_never_throws :
    (∀ handler now delivery, onData handler now delivery = .ok (handler.onData now delivery)) ∧
    (∀ message, check equipmentCatalogue message = .ok .ok →
      (message.stream = 1 ∧ message.function = 3 →
        ∃ svids, (parseSvidBody message.body >>= value) = .ok svids) ∧
      (message.stream = 2 ∧ message.function = 41 →
        ∃ command, (parseCommandBody message.body >>= value) = .ok command)) ∧
    (∀ registration ∈ equipmentCatalogue ++ hostCatalogue, ∀ body,
      ∃ accepted, registration.check body = .ok accepted) ∧
    (∀ body,
      parseCommandBody body = .ok (Gem.parseCommandBody body) ∧
      parseSvidBody body = .ok (Gem.parseSvidBody body) ∧
      parseEventBody body = .ok (Gem.parseEventBody body) ∧
      parseAlarmBody body = .ok (Gem.parseAlarmBody body) ∧
      parseCommandAckBody body = .ok (Gem.parseCommandAckBody body) ∧
      parseAckBody body = .ok (Gem.parseAckBody body)) ∧
    ∀ handler command, executeCommand handler command = .ok (handler.executeCommand command) := by
  refine ⟨onData_eq, fun message checked => ?_, fun registration member body => ?_,
    fun body => ⟨parseCommandBody_eq body, parseSvidBody_eq body, parseEventBody_eq body,
      parseAlarmBody_eq body, parseCommandAckBody_eq body, parseAckBody_eq body⟩,
    executeCommand_eq⟩
  · rw [equipmentCatalogue_mirrors.check_eq] at checked
    obtain ⟨status, command⟩ := parses_of_check (Except.ok.inj checked)
    refine ⟨fun named => ?_, fun named => ?_⟩
    · obtain ⟨svids, parsed⟩ := status named
      exact ⟨svids, by simp [parseSvidBody_eq, parsed]⟩
    · obtain ⟨command, parsed⟩ := command named
      exact ⟨command, by simp [parseCommandBody_eq, parsed]⟩
  · rcases List.mem_append.mp member with equipment | host
    · exact check_never_throws equipmentCatalogue_mirrors equipment body
    · exact check_never_throws hostCatalogue_mirrors host body

theorem host_data_never_throws_s1f3 :
    ∃ svids, (parseSvidBody (makeS1f3 []).body >>= value) = .ok svids :=
  (host_data_never_throws.2.1 (makeS1f3 []) rfl).1 ⟨rfl, rfl⟩

end Ssim.Gem.Accesses
