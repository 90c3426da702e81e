import Ssim.Gem.Answers
import Ssim.Secs2.RoundTrip

/-!
# Builders, parsers and catalogues agree

What a builder makes, its parser reads back, and the side it is meant for accepts it.
The wire changes a message only where a `BOOLEAN` element is neither 0 nor 1, and a
builder applied to normalized data makes the normalized message, so both facts hold
after the wire because they hold before it.
-/

namespace Ssim.Gem

open Ssim.Core (Error Result Text)
open Secs2 (Item TypedArray Message MessageFactory encode decodeBody)

/-! ## The wire -/

/-- The body is encoded, and what arrives is decoded. -/
def overTheWire (message : Message) : Result Message :=
  match message.body with
  | none => .ok message
  | some item =>
      match encode item with
      | .error reason => .error reason
      | .ok bytes =>
          match decodeBody bytes with
          | .error reason => .error reason
          | .ok item => .ok { message with body := some item }

/-- The codec refuses no body of the message. -/
def Encodable (message : Message) : Prop :=
  ∀ item, message.body = some item → ∃ bytes, encode item = .ok bytes

theorem overTheWire_eq {message : Message} (encodable : Encodable message) :
    overTheWire message = .ok message.normalize := by
  obtain ⟨stream, function, wBit, body⟩ := message
  cases body with
  | none => rfl
  | some item =>
      obtain ⟨bytes, encoded⟩ := encodable item rfl
      simp [overTheWire, encoded, Secs2.decodeBody_encode encoded, Message.normalize]

/-! ## Normalized data -/

@[simp]
theorem normalize_ascii (text : Text) : (Item.ascii text).normalize = .ascii text :=
  rfl

@[simp]
theorem normalize_binary (bytes : List UInt8) : (Item.binary bytes).normalize = .binary bytes :=
  rfl

@[simp]
theorem normalize_u4 (value : UInt32) : (Item.u4 value).normalize = .u4 value :=
  rfl

@[simp]
theorem normalize_list (items : List Item) :
    (Item.list items).normalize = .list (items.map Item.normalize) := by
  rw [Item.normalize, Item.normalizeAll_eq_map]

def CommandParam.normalize (param : CommandParam) : CommandParam :=
  { param with value := param.value.normalize }

def RemoteCommand.normalize (command : RemoteCommand) : RemoteCommand :=
  { command with params := command.params.map CommandParam.normalize }

def Report.normalize (report : Report) : Report :=
  { report with values := report.values.map Item.normalize }

def EventReport.normalize (event : EventReport) : EventReport :=
  { event with reports := event.reports.map Report.normalize }

/-! ## Builders -/

theorem makeS1f2_normalize (identity : Identity) :
    (makeS1f2 identity).normalize = makeS1f2 identity := by
  simp [makeS1f2, identityItem, Message.normalize]

theorem makeS1f14_normalize (commack : UInt8) (identity : Identity) :
    (makeS1f14 commack identity).normalize = makeS1f14 commack identity := by
  simp [makeS1f14, identityItem, Message.normalize]

theorem makeS1f3_normalize (svids : List UInt32) :
    (makeS1f3 svids).normalize = makeS1f3 svids := by
  simp [makeS1f3, Message.normalize]

theorem makeS1f4_normalize (values : List Item) :
    (makeS1f4 values).normalize = makeS1f4 (values.map Item.normalize) := by
  simp [makeS1f4, Message.normalize]

theorem makeS2f41_normalize (command : RemoteCommand) :
    (makeS2f41 command).normalize = makeS2f41 command.normalize := by
  simp [makeS2f41, Message.normalize, RemoteCommand.normalize, CommandParam.normalize]

theorem makeS2f42_normalize (hcack : UInt8) (params : List ParamAck) :
    (makeS2f42 hcack params).normalize = makeS2f42 hcack params := by
  simp [makeS2f42, Message.normalize]

theorem makeS5f1_normalize (alarm : AlarmReport) :
    (makeS5f1 alarm).normalize = makeS5f1 alarm := by
  simp [makeS5f1, Message.normalize]

theorem makeS6f11_normalize (event : EventReport) :
    (makeS6f11 event).normalize = makeS6f11 event.normalize := by
  simp [makeS6f11, Message.normalize, EventReport.normalize, Report.normalize]

/-! ## Parsers -/

@[simp]
theorem oneU32_u4 (value : UInt32) : oneU32 (.u4 value) = some value := by
  have fits : ¬ value.toNat > 0xFFFFFFFF := by
    have := value.toNat_lt
    omega
  simp [oneU32, Item.u4, collectUints, fits]

theorem parseCommandParams_make (params : List CommandParam) :
    parseCommandParams (params.map fun param => .list [.ascii param.name, param.value]) =
      .ok params := by
  induction params with
  | nil => rfl
  | cons param params ih =>
      rw [List.map_cons, Item.ascii, parseCommandParams, ih]

theorem parseSvids_make (svids : List UInt32) : parseSvids (svids.map Item.u4) = .ok svids := by
  induction svids with
  | nil => rfl
  | cons svid svids ih =>
      have fits : ¬ svid.toNat > 0xFFFFFFFF := by
        have := svid.toNat_lt
        omega
      simp [parseSvids, Item.u4, collectUints, fits, ih]

theorem parseReports_make (reports : List Report) :
    parseReports (reports.map fun report => .list [.u4 report.rptid, .list report.values]) =
      .ok reports := by
  induction reports with
  | nil => rfl
  | cons report reports ih => simp [parseReports, ih]

theorem parseParamAcks_make (params : List ParamAck) :
    parseParamAcks (params.map fun param => .list [.ascii param.name, .binary [param.cpack]]) =
      .ok params := by
  induction params with
  | nil => rfl
  | cons param params ih =>
      rw [List.map_cons, Item.ascii, Item.binary, parseParamAcks, ih]

theorem parseS2f41_make (command : RemoteCommand) :
    parseS2f41 (makeS2f41 command) = .ok command := by
  have params := parseCommandParams_make command.params
  simp only [Item.ascii] at params
  simp [parseS2f41, makeS2f41, parseCommandBody, Item.ascii, params]

theorem parseS1f3_make (svids : List UInt32) : parseS1f3 (makeS1f3 svids) = .ok svids :=
  parseSvids_make svids

theorem parseS6f11_make (event : EventReport) : parseS6f11 (makeS6f11 event) = .ok event := by
  simp [parseS6f11, makeS6f11, parseEventBody, parseReports_make]

theorem parseS5f1_make (alarm : AlarmReport) : parseS5f1 (makeS5f1 alarm) = .ok alarm := by
  simp [parseS5f1, makeS5f1, parseAlarmBody, Item.binary, Item.ascii]

theorem parseS2f42_make (ack : CommandAck) :
    parseS2f42 (makeS2f42 ack.hcack ack.params) = .ok ack := by
  have params := parseParamAcks_make ack.params
  simp only [Item.ascii, Item.binary] at params
  simp [parseS2f42, makeS2f42, parseCommandAckBody, Item.binary, Item.ascii, params]

/-! ## Catalogues -/

/-- What a host sends to the equipment. -/
inductive EquipmentInbound : Message → Prop where
  | s1f1 : EquipmentInbound makeS1f1
  | s1f3 (svids : List UInt32) : EquipmentInbound (makeS1f3 svids)
  | s1f13 : EquipmentInbound makeS1f13
  | s1f15 : EquipmentInbound makeS1f15
  | s1f17 : EquipmentInbound makeS1f17
  | s2f41 (command : RemoteCommand) : EquipmentInbound (makeS2f41 command)
  | s5f2 (ackc5 : UInt8) : EquipmentInbound (makeS5f2 ackc5)
  | s6f12 (ackc6 : UInt8) : EquipmentInbound (makeS6f12 ackc6)

/-- What the equipment sends to a host. -/
inductive HostInbound : Message → Prop where
  | s1f2 (identity : Identity) : HostInbound (makeS1f2 identity)
  | s1f4 (values : List Item) : HostInbound (makeS1f4 values)
  | s1f14 (commack : UInt8) (identity : Identity) : HostInbound (makeS1f14 commack identity)
  | s1f16 (oflack : UInt8) : HostInbound (makeS1f16 oflack)
  | s1f18 (onlack : UInt8) : HostInbound (makeS1f18 onlack)
  | s2f42 (hcack : UInt8) (params : List ParamAck) : HostInbound (makeS2f42 hcack params)
  | s5f1 (alarm : AlarmReport) : HostInbound (makeS5f1 alarm)
  | s6f11 (event : EventReport) : HostInbound (makeS6f11 event)
  | s9 {function : UInt8} {headerBytes : List UInt8}
      (named : function ∈ ([1, 3, 5, 7, 9, 11] : List UInt8)) (ten : headerBytes.length = 10) :
      HostInbound (makeS9 function headerBytes)

theorem EquipmentInbound.normalize {message : Message} (inbound : EquipmentInbound message) :
    EquipmentInbound message.normalize := by
  cases inbound with
  | s1f1 => exact .s1f1
  | s1f3 svids =>
      rw [makeS1f3_normalize]
      exact .s1f3 svids
  | s1f13 => exact .s1f13
  | s1f15 => exact .s1f15
  | s1f17 => exact .s1f17
  | s2f41 command =>
      rw [makeS2f41_normalize]
      exact .s2f41 command.normalize
  | s5f2 ackc5 => exact .s5f2 ackc5
  | s6f12 ackc6 => exact .s6f12 ackc6

theorem HostInbound.normalize {message : Message} (inbound : HostInbound message) :
    HostInbound message.normalize := by
  cases inbound with
  | s1f2 identity =>
      rw [makeS1f2_normalize]
      exact .s1f2 identity
  | s1f4 values =>
      rw [makeS1f4_normalize]
      exact .s1f4 _
  | s1f14 commack identity =>
      rw [makeS1f14_normalize]
      exact .s1f14 commack identity
  | s1f16 oflack => exact .s1f16 oflack
  | s1f18 onlack => exact .s1f18 onlack
  | s2f42 hcack params =>
      rw [makeS2f42_normalize]
      exact .s2f42 hcack params
  | s5f1 alarm =>
      rw [makeS5f1_normalize]
      exact .s5f1 alarm
  | s6f11 event =>
      rw [makeS6f11_normalize]
      exact .s6f11 event.normalize
  | s9 named ten => exact .s9 named ten

theorem accepts_of_ok {α : Type} {parser : Option Item → Result α} {body : Option Item}
    {value : α} (parsed : parser body = .ok value) : accepts parser body = true := by
  rw [accepts, parsed]
  rfl

theorem EquipmentInbound.check {message : Message} (inbound : EquipmentInbound message) :
    Handler.equipmentFactory.check message = .ok := by
  cases inbound with
  | s1f1 => rfl
  | s1f3 svids => exact if_pos (accepts_of_ok (parseS1f3_make svids))
  | s1f13 => rfl
  | s1f15 => rfl
  | s1f17 => rfl
  | s2f41 command => exact if_pos (accepts_of_ok (parseS2f41_make command))
  | s5f2 ackc5 => rfl
  | s6f12 ackc6 => rfl

/-- The factory of a host. -/
def hostFactory : MessageFactory :=
  registerHostCatalogue .empty

theorem HostInbound.check {message : Message} (inbound : HostInbound message) :
    hostFactory.check message = .ok := by
  cases inbound with
  | s1f2 identity => rfl
  | s1f4 values => rfl
  | s1f14 commack identity => rfl
  | s1f16 oflack => rfl
  | s1f18 onlack => rfl
  | s2f42 hcack params => exact if_pos (accepts_of_ok (parseS2f42_make ⟨hcack, params⟩))
  | s5f1 alarm => exact if_pos (accepts_of_ok (parseS5f1_make alarm))
  | s6f11 event => exact if_pos (accepts_of_ok (parseS6f11_make event))
  | @s9 function headerBytes named ten =>
      have body : s9Ok (makeS9 function headerBytes).body = true := by
        simp [makeS9, Item.binary, s9Ok, ten]
      simp only [List.mem_cons, List.not_mem_nil, or_false] at named
      rcases named with rfl | rfl | rfl | rfl | rfl | rfl
      all_goals exact if_pos body

/-! ## Agreement -/

/--
The parser reads back what the builder was given, and after the wire, which the message
passes whenever its body is encoded, the same with its `BOOLEAN` elements normalized.
-/
def RoundTrips {α : Type} (build : α → Message) (parse : Message → Result α)
    (normalize : α → α) : Prop :=
  ∀ value, parse (build value) = .ok value ∧
    (Encodable (build value) → ∃ received, overTheWire (build value) = .ok received ∧
      parse received = .ok (normalize value))

/-- The factory accepts the message, and what arrives of it whenever its body is encoded. -/
def AcceptedBy (factory : MessageFactory) (message : Message) : Prop :=
  factory.check message = .ok ∧
    (Encodable message → ∃ received, overTheWire message = .ok received ∧
      factory.check received = .ok)

theorem roundTrips_of_normalize {α : Type} {build : α → Message} {parse : Message → Result α}
    {normalize : α → α} (parsed : ∀ value, parse (build value) = .ok value)
    (normalized : ∀ value, (build value).normalize = build (normalize value)) :
    RoundTrips build parse normalize := by
  refine fun value => ⟨parsed value, fun encodable => ?_⟩
  refine ⟨_, overTheWire_eq encodable, ?_⟩
  rw [normalized, parsed]

/--
Each parser reads back what its builder made, and each catalogue accepts what the
builders make for its side, before the wire and after it.
-/
theorem builders_and_parsers_agree :
    RoundTrips makeS2f41 parseS2f41 RemoteCommand.normalize ∧
    RoundTrips (fun ack : CommandAck => makeS2f42 ack.hcack ack.params) parseS2f42 id ∧
    RoundTrips makeS1f3 parseS1f3 id ∧
    RoundTrips makeS6f11 parseS6f11 EventReport.normalize ∧
    RoundTrips makeS5f1 parseS5f1 id ∧
    (∀ build ∈ [makeS1f16, makeS1f18, makeS5f2, makeS6f12], RoundTrips build parseAck id) ∧
    (∀ message, EquipmentInbound message → AcceptedBy Handler.equipmentFactory message) ∧
    ∀ message, HostInbound message → AcceptedBy hostFactory message := by
  refine ⟨roundTrips_of_normalize parseS2f41_make makeS2f41_normalize,
    roundTrips_of_normalize parseS2f42_make fun ack => makeS2f42_normalize ack.hcack ack.params,
    roundTrips_of_normalize parseS1f3_make makeS1f3_normalize,
    roundTrips_of_normalize parseS6f11_make makeS6f11_normalize,
    roundTrips_of_normalize parseS5f1_make makeS5f1_normalize, ?_, ?_, ?_⟩
  · intro build member
    simp only [List.mem_cons, List.not_mem_nil, or_false] at member
    rcases member with rfl | rfl | rfl | rfl
    all_goals exact roundTrips_of_normalize (fun _ => rfl) fun _ => rfl
  · exact fun message inbound => ⟨inbound.check, fun encodable =>
      ⟨_, overTheWire_eq encodable, inbound.normalize.check⟩⟩
  · exact fun message inbound => ⟨inbound.check, fun encodable =>
      ⟨_, overTheWire_eq encodable, inbound.normalize.check⟩⟩

/-- A `BOOLEAN` parameter of 5 arrives as 1. -/
theorem builders_and_parsers_agree_boolean :
    ∃ received, overTheWire (makeS2f41 ⟨[71], [⟨[80], .boolean [5]⟩]⟩) = .ok received ∧
      parseS2f41 received = .ok ⟨[71], [⟨[80], .boolean [1]⟩]⟩ := by
  refine (builders_and_parsers_agree.1 ⟨[71], [⟨[80], .boolean [5]⟩]⟩).2 ?_
  intro item same
  obtain rfl := Option.some.inj same
  exact ⟨[1, 2, 65, 1, 71, 1, 1, 1, 2, 65, 1, 80, 37, 1, 1], rfl⟩

end Ssim.Gem
