import Ssim.Core.Controller
import Ssim.Gem.Identifiers
import Ssim.Secs2.Message

/-!
# GEM messages

Builders and parsers of the GEM subset, and the two catalogues that tell a message
factory what each side understands.  The body checks of the catalogues use the
same parsers.
-/

namespace Ssim.Gem

open Ssim.Core (Error Result Text)
open Secs2 (Item TypedArray Message MessageFactory)

def kErrIllegalData : Nat := 500

def illegal (what : String) : Error :=
  ⟨kErrIllegalData, what⟩

structure Identity where
  model : Text
  softrev : Text
  deriving DecidableEq

structure CommandParam where
  name : Text
  value : Item
  deriving DecidableEq

structure RemoteCommand where
  rcmd : Text
  params : List CommandParam
  deriving DecidableEq

structure ParamAck where
  name : Text
  cpack : UInt8
  deriving DecidableEq

structure CommandAck where
  hcack : UInt8
  params : List ParamAck
  deriving DecidableEq

structure Report where
  rptid : UInt32
  values : List Item
  deriving DecidableEq

structure EventReport where
  dataid : UInt32
  ceid : UInt32
  reports : List Report
  deriving DecidableEq

structure AlarmReport where
  alcd : UInt8
  alid : UInt32
  altx : Text
  deriving DecidableEq

/-! ## Builders -/

def identityItem (identity : Identity) : Item :=
  .list [.ascii identity.model, .ascii identity.softrev]

def makeS1f1 : Message := ⟨1, 1, true, none⟩

def makeS1f2 (identity : Identity) : Message := ⟨1, 2, false, some (identityItem identity)⟩

def makeS1f13 : Message := ⟨1, 13, true, some (.list [])⟩

def makeS1f14 (commack : UInt8) (identity : Identity) : Message :=
  ⟨1, 14, false, some (.list [.binary [commack], identityItem identity])⟩

def makeS1f3 (svids : List UInt32) : Message := ⟨1, 3, true, some (.list (svids.map Item.u4))⟩

def makeS1f4 (values : List Item) : Message := ⟨1, 4, false, some (.list values)⟩

def makeS1f15 : Message := ⟨1, 15, true, none⟩

def makeS1f16 (oflack : UInt8) : Message := ⟨1, 16, false, some (.binary [oflack])⟩

def makeS1f17 : Message := ⟨1, 17, true, none⟩

def makeS1f18 (onlack : UInt8) : Message := ⟨1, 18, false, some (.binary [onlack])⟩

def makeS2f41 (command : RemoteCommand) : Message :=
  ⟨2, 41, true, some (.list [.ascii command.rcmd,
    .list (command.params.map fun param => .list [.ascii param.name, param.value])])⟩

def makeS2f42 (hcack : UInt8) (params : List ParamAck) : Message :=
  ⟨2, 42, false, some (.list [.binary [hcack],
    .list (params.map fun param => .list [.ascii param.name, .binary [param.cpack]])])⟩

def makeS5f1 (alarm : AlarmReport) : Message :=
  ⟨5, 1, true, some (.list [.binary [alarm.alcd], .u4 alarm.alid, .ascii alarm.altx])⟩

def makeS5f2 (ackc5 : UInt8) : Message := ⟨5, 2, false, some (.binary [ackc5])⟩

def makeS6f11 (event : EventReport) : Message :=
  ⟨6, 11, true, some (.list [.u4 event.dataid, .u4 event.ceid,
    .list (event.reports.map fun report => .list [.u4 report.rptid, .list report.values])])⟩

def makeS6f12 (ackc6 : UInt8) : Message := ⟨6, 12, false, some (.binary [ackc6])⟩

/-- The body is the ten header bytes of the message being complained about. -/
def makeS9 (function : UInt8) (headerBytes : List UInt8) : Message :=
  ⟨9, function, false, some (.binary headerBytes)⟩

/-! ## Parsers -/

/-- The elements of a signed array, unless one is negative. -/
def nonnegative (values : List Int) : Option (List Nat) :=
  if values.any (· < 0) then none else some (values.map Int.toNat)

/-- Every element of an integer item; `none` for a negative one or another format. -/
def collectUints : Item → Option (List Nat)
  | .array (.u1 values) => some (values.map UInt8.toNat)
  | .array (.u2 values) => some (values.map UInt16.toNat)
  | .array (.u4 values) => some (values.map UInt32.toNat)
  | .array (.u8 values) => some (values.map UInt64.toNat)
  | .array (.i1 values) => nonnegative (values.map Int8.toInt)
  | .array (.i2 values) => nonnegative (values.map Int16.toInt)
  | .array (.i4 values) => nonnegative (values.map Int32.toInt)
  | .array (.i8 values) => nonnegative (values.map Int64.toInt)
  | _ => none

def oneU32 (item : Item) : Option UInt32 :=
  match collectUints item with
  | some [value] => if value > 0xFFFFFFFF then none else some (UInt32.ofNat value)
  | _ => none

def parseCommandParams : List Item → Result (List CommandParam)
  | [] => .ok []
  | .list [.array (.ascii name), value] :: pairs =>
      match parseCommandParams pairs with
      | .error reason => .error reason
      | .ok params => .ok (⟨name, value⟩ :: params)
  | _ :: _ => .error (illegal "each parameter must be L2\x7bCPNAME A, CPVAL\x7d")

def parseCommandBody : Option Item → Result RemoteCommand
  | some (.list [rcmd, params]) =>
      match rcmd with
      | .array (.ascii name) =>
          match params with
          | .list pairs =>
              match parseCommandParams pairs with
              | .error reason => .error reason
              | .ok params => .ok ⟨name, params⟩
          | _ => .error (illegal "S2F41 parameters must be a list")
      | _ => .error (illegal "RCMD must be ASCII")
  | _ => .error (illegal "S2F41 must be L2")

def parseSvids : List Item → Result (List UInt32)
  | [] => .ok []
  | item :: items =>
      match collectUints item with
      | none => .error (illegal "SVID must be an integer")
      | some values =>
          if values.any (· > 0xFFFFFFFF) then
            .error (illegal "SVID out of range")
          else
            match parseSvids items with
            | .error reason => .error reason
            | .ok svids => .ok (values.map UInt32.ofNat ++ svids)

def parseSvidBody : Option Item → Result (List UInt32)
  | some (.list items) => parseSvids items
  | _ => .error (illegal "S1F3 must be a list of SVIDs")

def parseReports : List Item → Result (List Report)
  | [] => .ok []
  | .list [rptid, values] :: reports =>
      match oneU32 rptid, values with
      | some rptid, .list values =>
          match parseReports reports with
          | .error reason => .error reason
          | .ok reports => .ok (⟨rptid, values⟩ :: reports)
      | _, _ => .error (illegal "bad report")
  | _ :: _ => .error (illegal "each report must be L2\x7bRPTID, values\x7d")

def parseEventBody : Option Item → Result EventReport
  | some (.list [dataid, ceid, reports]) =>
      match oneU32 dataid, oneU32 ceid with
      | some dataid, some ceid =>
          match reports with
          | .list reports =>
              match parseReports reports with
              | .error reason => .error reason
              | .ok reports => .ok ⟨dataid, ceid, reports⟩
          | _ => .error (illegal "S6F11 reports must be a list")
      | _, _ => .error (illegal "DATAID and CEID must be integers")
  | _ => .error (illegal "S6F11 must be L3")

def parseAlarmBody : Option Item → Result AlarmReport
  | some (.list [alcd, alid, altx]) =>
      match alcd, oneU32 alid, altx with
      | .array (.binary [alcd]), some alid, .array (.ascii altx) => .ok ⟨alcd, alid, altx⟩
      | _, _, _ => .error (illegal "S5F1 must be L3\x7bALCD B, ALID U4, ALTX A\x7d")
  | _ => .error (illegal "S5F1 must be L3")

def parseParamAcks : List Item → Result (List ParamAck)
  | [] => .ok []
  | .list [.array (.ascii name), .array (.binary [cpack])] :: pairs =>
      match parseParamAcks pairs with
      | .error reason => .error reason
      | .ok params => .ok (⟨name, cpack⟩ :: params)
  | _ :: _ => .error (illegal "each entry must be L2\x7bCPNAME A, CPACK B\x7d")

def parseCommandAckBody : Option Item → Result CommandAck
  | some (.list [.array (.binary [hcack]), .list pairs]) =>
      match parseParamAcks pairs with
      | .error reason => .error reason
      | .ok params => .ok ⟨hcack, params⟩
  | _ => .error (illegal "S2F42 must be L2\x7bHCACK B, list\x7d")

def parseAckBody : Option Item → Result UInt8
  | some (.array (.binary [ack])) => .ok ack
  | _ => .error (illegal "acknowledge must be one binary byte")

def parseS2f41 (message : Message) : Result RemoteCommand := parseCommandBody message.body
def parseS2f42 (message : Message) : Result CommandAck := parseCommandAckBody message.body
def parseS1f3 (message : Message) : Result (List UInt32) := parseSvidBody message.body
def parseS6f11 (message : Message) : Result EventReport := parseEventBody message.body
def parseS5f1 (message : Message) : Result AlarmReport := parseAlarmBody message.body
def parseAck (message : Message) : Result UInt8 := parseAckBody message.body

/-! ## Catalogues -/

def accepts {α : Type} (parser : Option Item → Result α) (body : Option Item) : Bool :=
  (parser body).toBool

def noBody (body : Option Item) : Bool :=
  body.isNone

def identityOk : Item → Bool
  | .list [.array (.ascii _), .array (.ascii _)] => true
  | _ => false

/-- S1F13 from a host: nothing, an empty list, or the equipment-style `L2{A,A}`. -/
def commRequestOk : Option Item → Bool
  | none => true
  | some (.list []) => true
  | some item => identityOk item

def s1f14Ok : Option Item → Bool
  | some (.list [.array (.binary [_]), .list []]) => true
  | some (.list [.array (.binary [_]), identity]) => identityOk identity
  | _ => false

def s9Ok : Option Item → Bool
  | some (.array (.binary bytes)) => bytes.length = 10
  | _ => false

/-- What the machine accepts from a host. -/
def registerEquipmentCatalogue (factory : MessageFactory) : MessageFactory :=
  factory
    |>.registerMessage 1 1 "S1F1" noBody
    |>.registerMessage 1 3 "S1F3" (accepts parseSvidBody)
    |>.registerMessage 1 13 "S1F13" commRequestOk
    |>.registerMessage 1 15 "S1F15" noBody
    |>.registerMessage 1 17 "S1F17" noBody
    |>.registerMessage 2 41 "S2F41" (accepts parseCommandBody)
    |>.registerMessage 5 2 "S5F2" (accepts parseAckBody)
    |>.registerMessage 6 12 "S6F12" (accepts parseAckBody)

/-- What a host accepts from the machine. -/
def registerHostCatalogue (factory : MessageFactory) : MessageFactory :=
  factory
    |>.registerMessage 1 2 "S1F2" (fun body => body.any identityOk)
    |>.registerMessage 1 4 "S1F4" (fun body => body.any Item.isList)
    |>.registerMessage 1 14 "S1F14" s1f14Ok
    |>.registerMessage 1 16 "S1F16" (accepts parseAckBody)
    |>.registerMessage 1 18 "S1F18" (accepts parseAckBody)
    |>.registerMessage 2 42 "S2F42" (accepts parseCommandAckBody)
    |>.registerMessage 5 1 "S5F1" (accepts parseAlarmBody)
    |>.registerMessage 6 11 "S6F11" (accepts parseEventBody)
    |>.registerMessage 9 1 "S9F1" s9Ok
    |>.registerMessage 9 3 "S9F3" s9Ok
    |>.registerMessage 9 5 "S9F5" s9Ok
    |>.registerMessage 9 7 "S9F7" s9Ok
    |>.registerMessage 9 9 "S9F9" s9Ok
    |>.registerMessage 9 11 "S9F11" s9Ok

end Ssim.Gem
