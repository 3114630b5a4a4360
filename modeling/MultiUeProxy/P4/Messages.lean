import MultiUeProxy.Lib.TlvChoice
import MultiUeProxy.P4.Indications
import MultiUeProxy.P5.Message

/-!
# P4 messages

`nfapi_p4_message_pack` and `nfapi_p4_message_unpack` of `nfapi_p4.c` with the encoders and decoders
of the seventeen messages. There are requests, responses and indications for each of five
procedures. The encoder of a request goes by its RAT type to select one of the members of a union,
and the decoder has entries for all of them. Some of the decoders compare the RAT type with the
member that was there (`RequestFormat.checked`), and that of a system information request leaves
NB-IoT out.

The encoders and decoders of a procedure differ in the fields they know. `RequestFormat` and
`ReportFormat` say which ones, under the names of the source.
-/

set_option autoImplicit false
set_option relaxedAutoImplicit false

namespace MultiUeProxy.P4

open Lib.Execution Lib.ByteCursor Lib.ByteWriter Lib.TlvCodec Lib.InPlace Lib.TaggedParts
  Lib.TlvRecord Lib.TlvChoice P5.Message
open Lib.ByteCursor.Pull (Tl)

/-! ### Fields -/

/-- The tagged fields of P4 messages. -/
inductive P4Field where
  | lteRssiRequest | utranRssiRequest | geranRssiRequest | nbIotRssiRequest
  | rssiIndication
  | lteCellSearchRequest | utranCellSearchRequest | geranCellSearchRequest | nbIotCellSearchRequest
  | lteCellSearchIndication | utranCellSearchIndication | geranCellSearchIndication
  | nbIotCellSearchIndication
  | pnfCellSearchState
  | lteBroadcastDetectRequest | utranBroadcastDetectRequest | nbIotBroadcastDetectRequest
  | lteBroadcastDetectIndication | utranBroadcastDetectIndication | nbIotBroadcastDetectIndication
  | pnfCellBroadcastState
  | lteSystemInformationScheduleRequest | nbIotSystemInformationScheduleRequest
  | lteSystemInformationRequest | utranSystemInformationRequest | geranSystemInformationRequest
  | nbIotSystemInformationRequest
  | lteSystemInformationIndication | utranSystemInformationIndication
  | geranSystemInformationIndication | nbIotSystemInformationIndication
  deriving DecidableEq, Repr

namespace P4Field

def tag : P4Field → UInt16
  | lteRssiRequest => 0x3000
  | utranRssiRequest => 0x3001
  | geranRssiRequest => 0x3002
  | rssiIndication => 0x3003
  | lteCellSearchRequest => 0x3004
  | utranCellSearchRequest => 0x3005
  | geranCellSearchRequest => 0x3006
  | lteCellSearchIndication => 0x3007
  | utranCellSearchIndication => 0x3008
  | geranCellSearchIndication => 0x3009
  | pnfCellSearchState => 0x300A
  | lteBroadcastDetectRequest => 0x300B
  | utranBroadcastDetectRequest => 0x300C
  | lteBroadcastDetectIndication => 0x300E
  | utranBroadcastDetectIndication => 0x300F
  | pnfCellBroadcastState => 0x3010
  | lteSystemInformationScheduleRequest => 0x3011
  | lteSystemInformationRequest => 0x3014
  | utranSystemInformationRequest => 0x3015
  | geranSystemInformationRequest => 0x3016
  | lteSystemInformationIndication => 0x3018
  | utranSystemInformationIndication => 0x3019
  | geranSystemInformationIndication => 0x301A
  | nbIotRssiRequest => 0x3020
  | nbIotCellSearchRequest => 0x3021
  | nbIotCellSearchIndication => 0x3022
  | nbIotBroadcastDetectRequest => 0x3023
  | nbIotBroadcastDetectIndication => 0x3024
  | nbIotSystemInformationScheduleRequest => 0x3025
  | nbIotSystemInformationIndication => 0x3026
  | nbIotSystemInformationRequest => 0x3027

abbrev Value : P4Field → Type
  | lteRssiRequest => LteRssiRequest
  | utranRssiRequest => UtranRssiRequest
  | geranRssiRequest => GeranRssiRequest
  | nbIotRssiRequest => NbIotRssiRequest
  | rssiIndication => RssiIndicationBody
  | lteCellSearchRequest => LteCellSearchRequest
  | utranCellSearchRequest => UtranCellSearchRequest
  | geranCellSearchRequest => GeranCellSearchRequest
  | nbIotCellSearchRequest => NbIotCellSearchRequest
  | lteCellSearchIndication | utranCellSearchIndication | nbIotCellSearchIndication =>
    CellSearchIndication FoundCell
  | geranCellSearchIndication => CellSearchIndication GsmFoundCell
  | pnfCellSearchState | pnfCellBroadcastState => OpaqueData
  | lteBroadcastDetectRequest | utranBroadcastDetectRequest => CellRequest
  | nbIotBroadcastDetectRequest => NbIotBroadcastDetectRequest
  | lteBroadcastDetectIndication | nbIotBroadcastDetectIndication => BroadcastDetectIndication
  | utranBroadcastDetectIndication => UtranBroadcastDetectIndication
  | lteSystemInformationScheduleRequest => LteSystemInformationScheduleRequest
  | nbIotSystemInformationScheduleRequest => NbIotSystemInformationScheduleRequest
  | lteSystemInformationRequest => LteSystemInformationRequest
  | utranSystemInformationRequest => CellRequest
  | geranSystemInformationRequest => GeranSystemInformationRequest
  | nbIotSystemInformationRequest => NbIotSystemInformationRequest
  | lteSystemInformationIndication | nbIotSystemInformationIndication =>
    SystemInformationIndication
  | utranSystemInformationIndication | geranSystemInformationIndication => SystemInformationBlock

instance : (name : P4Field) → Inhabited name.Value
  | lteRssiRequest | utranRssiRequest | geranRssiRequest | nbIotRssiRequest | rssiIndication
  | lteCellSearchRequest | utranCellSearchRequest | geranCellSearchRequest | nbIotCellSearchRequest
  | lteCellSearchIndication | utranCellSearchIndication | geranCellSearchIndication
  | nbIotCellSearchIndication | pnfCellSearchState | pnfCellBroadcastState
  | lteBroadcastDetectRequest | utranBroadcastDetectRequest | nbIotBroadcastDetectRequest
  | lteBroadcastDetectIndication | utranBroadcastDetectIndication | nbIotBroadcastDetectIndication
  | lteSystemInformationScheduleRequest | nbIotSystemInformationScheduleRequest
  | lteSystemInformationRequest | utranSystemInformationRequest | geranSystemInformationRequest
  | nbIotSystemInformationRequest | lteSystemInformationIndication
  | utranSystemInformationIndication | geranSystemInformationIndication
  | nbIotSystemInformationIndication => ⟨{}⟩

/-- The encoder and the decoder of a field. -/
def codec : (name : P4Field) → FieldCodec (Tlv name.Value)
  | lteRssiRequest => tlvCodec lteRssiRequest.tag P4.lteRssiRequest
  | utranRssiRequest => tlvCodec utranRssiRequest.tag P4.utranRssiRequest
  | geranRssiRequest => tlvCodec geranRssiRequest.tag P4.geranRssiRequest
  | nbIotRssiRequest => tlvCodec nbIotRssiRequest.tag P4.nbIotRssiRequest
  | rssiIndication => tlvCodec rssiIndication.tag rssiIndicationBody
  | lteCellSearchRequest => tlvCodec lteCellSearchRequest.tag P4.lteCellSearchRequest
  | utranCellSearchRequest => tlvCodec utranCellSearchRequest.tag P4.utranCellSearchRequest
  | geranCellSearchRequest => tlvCodec geranCellSearchRequest.tag P4.geranCellSearchRequest
  | nbIotCellSearchRequest => tlvCodec nbIotCellSearchRequest.tag P4.nbIotCellSearchRequest
  | lteCellSearchIndication => tlvCodec lteCellSearchIndication.tag P4.lteCellSearchIndication
  | utranCellSearchIndication =>
    tlvCodec utranCellSearchIndication.tag P4.utranCellSearchIndication
  | geranCellSearchIndication =>
    tlvCodec geranCellSearchIndication.tag P4.geranCellSearchIndication
  | nbIotCellSearchIndication =>
    tlvCodec nbIotCellSearchIndication.tag P4.nbIotCellSearchIndication
  | pnfCellSearchState => opaqueData pnfCellSearchState.tag
  | lteBroadcastDetectRequest => tlvCodec lteBroadcastDetectRequest.tag cellRequest
  | utranBroadcastDetectRequest => tlvCodec utranBroadcastDetectRequest.tag cellRequest
  | nbIotBroadcastDetectRequest =>
    tlvCodec nbIotBroadcastDetectRequest.tag P4.nbIotBroadcastDetectRequest
  | lteBroadcastDetectIndication =>
    tlvCodec lteBroadcastDetectIndication.tag broadcastDetectIndication
  | utranBroadcastDetectIndication =>
    tlvCodec utranBroadcastDetectIndication.tag P4.utranBroadcastDetectIndication
  | nbIotBroadcastDetectIndication =>
    tlvCodec nbIotBroadcastDetectIndication.tag broadcastDetectIndication
  | pnfCellBroadcastState => opaqueData pnfCellBroadcastState.tag
  | lteSystemInformationScheduleRequest =>
    tlvCodec lteSystemInformationScheduleRequest.tag P4.lteSystemInformationScheduleRequest
  | nbIotSystemInformationScheduleRequest =>
    tlvCodec nbIotSystemInformationScheduleRequest.tag P4.nbIotSystemInformationScheduleRequest
  | lteSystemInformationRequest =>
    tlvCodec lteSystemInformationRequest.tag P4.lteSystemInformationRequest
  | utranSystemInformationRequest => tlvCodec utranSystemInformationRequest.tag cellRequest
  | geranSystemInformationRequest =>
    tlvCodec geranSystemInformationRequest.tag P4.geranSystemInformationRequest
  | nbIotSystemInformationRequest =>
    tlvCodec nbIotSystemInformationRequest.tag P4.nbIotSystemInformationRequest
  | lteSystemInformationIndication =>
    tlvCodec lteSystemInformationIndication.tag systemInformationIndication
  | utranSystemInformationIndication =>
    tlvCodec utranSystemInformationIndication.tag P4.utranSystemInformationIndication
  | geranSystemInformationIndication =>
    tlvCodec geranSystemInformationIndication.tag P4.geranSystemInformationIndication
  | nbIotSystemInformationIndication =>
    tlvCodec nbIotSystemInformationIndication.tag systemInformationIndication

@[simp] theorem codec_tag (name : P4Field) : name.codec.tag = name.tag := by
  cases name <;> rfl

theorem tag_ne_zero (name : P4Field) : (0 : UInt16) ≠ name.tag := by
  cases name <;> decide

end P4Field

/-- The fields of a message under these names. -/
abbrev P4Fields (names : List P4Field) : Type := (name : { name // name ∈ names }) → Tlv name.1.Value

/-- The union of the fields under these names. -/
abbrev P4Union (names : List P4Field) : Type :=
  Choice fun name : { name // name ∈ names } ↦ Tlv name.1.Value

def fieldCodec (names : List P4Field) (name : { name // name ∈ names }) :
    FieldCodec (Tlv name.1.Value) :=
  name.1.codec

/-! ### Requests -/

/-- `nfapi_rat_type_e`. No request has a case for `NFAPI_RAT_TYPE_NR`. -/
inductive RatType where
  | lte | utran | geran | nbIot
  deriving DecidableEq, Repr

def RatType.number : RatType → UInt8
  | lte => 0
  | utran => 1
  | geran => 2
  | nbIot => 3

/-- The RAT type with this number. -/
def RatType.ofNumber (number : UInt8) : Option RatType :=
  [lte, utran, geran, nbIot].find? fun rat ↦ rat.number == number

/-- What the encoder and the decoder of a request know: the members of the union that the decoder
has entries for, the member that the encoder selects for a RAT type, and the fields behind the
union. The decoder may check that the RAT type is one of a list and that its member was there. -/
structure RequestFormat where
  members : List P4Field
  member : RatType → Option { name // name ∈ members }
  others : List P4Field := []
  checked : Option (List RatType) := none
  nodup : ((members ++ others).map P4Field.tag).Nodup

/-- `pack_rssi_request` and `unpack_rssi_request`. -/
def RequestFormat.rssiRequest : RequestFormat where
  members := [.lteRssiRequest, .utranRssiRequest, .geranRssiRequest, .nbIotRssiRequest]
  member
    | .lte => some ⟨.lteRssiRequest, by decide⟩
    | .utran => some ⟨.utranRssiRequest, by decide⟩
    | .geran => some ⟨.geranRssiRequest, by decide⟩
    | .nbIot => some ⟨.nbIotRssiRequest, by decide⟩
  checked := some [.lte, .utran, .geran, .nbIot]
  nodup := by decide

/-- `pack_cell_search_request` and `unpack_cell_search_request`. -/
def RequestFormat.cellSearchRequest : RequestFormat where
  members := [.lteCellSearchRequest, .utranCellSearchRequest, .geranCellSearchRequest,
    .nbIotCellSearchRequest]
  member
    | .lte => some ⟨.lteCellSearchRequest, by decide⟩
    | .utran => some ⟨.utranCellSearchRequest, by decide⟩
    | .geran => some ⟨.geranCellSearchRequest, by decide⟩
    | .nbIot => some ⟨.nbIotCellSearchRequest, by decide⟩
  checked := some [.lte, .utran, .geran, .nbIot]
  nodup := by decide

/-- `pack_broadcast_detect_request` and `unpack_broadcast_detect_request`. -/
def RequestFormat.broadcastDetectRequest : RequestFormat where
  members := [.lteBroadcastDetectRequest, .utranBroadcastDetectRequest,
    .nbIotBroadcastDetectRequest]
  member
    | .lte => some ⟨.lteBroadcastDetectRequest, by decide⟩
    | .utran => some ⟨.utranBroadcastDetectRequest, by decide⟩
    | .geran => none
    | .nbIot => some ⟨.nbIotBroadcastDetectRequest, by decide⟩
  others := [.pnfCellSearchState]
  nodup := by decide

/-- `pack_system_information_schedule_request` and `unpack_system_information_schedule_request`. -/
def RequestFormat.systemInformationScheduleRequest : RequestFormat where
  members := [.lteSystemInformationScheduleRequest, .nbIotSystemInformationScheduleRequest]
  member
    | .lte => some ⟨.lteSystemInformationScheduleRequest, by decide⟩
    | .utran | .geran => none
    | .nbIot => some ⟨.nbIotSystemInformationScheduleRequest, by decide⟩
  others := [.pnfCellBroadcastState]
  nodup := by decide

/-- `pack_system_information_request` and `unpack_system_information_request`. The decoder does not
know NB-IoT among the RAT types. -/
def RequestFormat.systemInformationRequest : RequestFormat where
  members := [.lteSystemInformationRequest, .utranSystemInformationRequest,
    .geranSystemInformationRequest, .nbIotSystemInformationRequest]
  member
    | .lte => some ⟨.lteSystemInformationRequest, by decide⟩
    | .utran => some ⟨.utranSystemInformationRequest, by decide⟩
    | .geran => some ⟨.geranSystemInformationRequest, by decide⟩
    | .nbIot => some ⟨.nbIotSystemInformationRequest, by decide⟩
  others := [.pnfCellBroadcastState]
  checked := some [.lte, .utran, .geran]
  nodup := by decide

/-- A request behind its header. -/
structure P4Request (format : RequestFormat) (V : Type) where
  ratType : UInt8
  body : P4Union format.members
  others : P4Fields format.others
  vendorExtension : Option V

namespace RequestFormat

variable (format : RequestFormat) {V : Type}

/-- The member that the encoder selects. -/
def selected (ratType : UInt8) : Option { name // name ∈ format.members } :=
  (RatType.ofNumber ratType).bind format.member

/-- The check of the decoder, given the tag that the union begins with. -/
def agrees (ratType : UInt8) (tag : UInt16) : Bool :=
  format.checked.all fun rats ↦ rats.any fun rat ↦
    rat.number == ratType && (format.member rat).any fun name ↦ name.1.tag == tag

def packMember (limit : ℕ) (body : P4Union format.members) :
    Option { name // name ∈ format.members } → Push Unit
  | some name =>
    packTlv limit name.1.tag (body.get name).tl (name.1.codec.pack limit (body.get name))
  | none => pure ()

/-- The fields behind the union. -/
def otherParts : List (TlvPart (P4Fields format.others)) :=
  slots (fieldCodec format.others) format.others.attach

/-- The entries of the decoder. Their order does not matter, as their tags are different. -/
def table : List (TlvPart (P4Union format.members × P4Fields format.others)) :=
  both (memberParts (fieldCodec format.members) format.members.attach) format.otherParts

def pack [Tagged V] (config : Option (CodecConfig V)) (limit : ℕ) (request : P4Request format V) :
    Push Unit := do
  Push.push8 limit request.ratType
  format.packMember limit request.body (format.selected request.ratType)
  packParts limit format.otherParts request.others
  packVendorExtensionTlv config limit request.vendorExtension

def unpack (config : Option (CodecConfig V)) (limit : ℕ) : Pull (P4Request format V) := do
  let ratType ← Pull.pull8 limit
  let ((body, others), vendorExtension) ←
    (unpackTlvList config (format.table.map TlvPart.entry) limit).toPull ((.none, blank), none)
  Pull.ensure (format.agrees ratType body.tl.tag)
  return { ratType, body, others, vendorExtension }

end RequestFormat

/-! ### Responses and indications -/

/-- The fields that the encoder of a response or an indication writes, and those that the decoder has
entries for. -/
structure ReportFormat where
  packed : List P4Field
  table : List P4Field := packed
  perm : packed.Perm table
  nodup : (table.map P4Field.tag).Nodup

/-- `pack_rssi_response` and `unpack_rssi_response`, as those of all other responses. -/
def ReportFormat.response : ReportFormat where
  packed := []
  perm := by decide
  nodup := by decide

/-- `pack_rssi_indication` and `unpack_rssi_indication`. -/
def ReportFormat.rssiIndication : ReportFormat where
  packed := [.rssiIndication]
  perm := by decide
  nodup := by decide

/-- `pack_cell_search_indication` and `unpack_cell_search_indication`. -/
def ReportFormat.cellSearchIndication : ReportFormat where
  packed := [.lteCellSearchIndication, .utranCellSearchIndication, .geranCellSearchIndication,
    .pnfCellSearchState, .nbIotCellSearchIndication]
  perm := by decide
  nodup := by decide

/-- `pack_broadcast_detect_indication` and `unpack_broadcast_detect_indication`. -/
def ReportFormat.broadcastDetectIndication : ReportFormat where
  packed := [.lteBroadcastDetectIndication, .utranBroadcastDetectIndication,
    .pnfCellBroadcastState, .nbIotBroadcastDetectIndication]
  table := [.lteBroadcastDetectIndication, .utranBroadcastDetectIndication,
    .nbIotBroadcastDetectIndication, .pnfCellBroadcastState]
  perm := by decide
  nodup := by decide

/-- `pack_system_information_schedule_indication` and
`unpack_system_information_schedule_indication`. -/
def ReportFormat.systemInformationScheduleIndication : ReportFormat where
  packed := [.lteSystemInformationIndication, .nbIotSystemInformationIndication]
  perm := by decide
  nodup := by decide

/-- `pack_system_information_indication` and `unpack_system_information_indication`. -/
def ReportFormat.systemInformationIndication : ReportFormat where
  packed := [.lteSystemInformationIndication, .utranSystemInformationIndication,
    .geranSystemInformationIndication, .nbIotSystemInformationIndication]
  perm := by decide
  nodup := by decide

/-- A response or an indication behind its header. -/
structure P4Report (format : ReportFormat) (V : Type) where
  errorCode : UInt32
  fields : P4Fields format.table
  vendorExtension : Option V

namespace ReportFormat

variable (format : ReportFormat) {V : Type}

/-- The fields that the encoder writes. -/
def packedNames : List { name // name ∈ format.table } :=
  format.packed.attachWith (· ∈ format.table) fun _ h ↦ format.perm.mem_iff.mp h

def pack [Tagged V] (config : Option (CodecConfig V)) (limit : ℕ) (report : P4Report format V) :
    Push Unit := do
  Push.push32 limit report.errorCode
  packParts limit (slots (fieldCodec format.table) format.packedNames) report.fields
  packVendorExtensionTlv config limit report.vendorExtension

def unpack (config : Option (CodecConfig V)) (limit : ℕ) : Pull (P4Report format V) := do
  let errorCode ← Pull.pull32 limit
  let (fields, vendorExtension) ←
    (unpackTlvList config ((slots (fieldCodec format.table) format.table.attach).map TlvPart.entry)
      limit).toPull (blank, none)
  return { errorCode, fields, vendorExtension }

end ReportFormat

/-! ### All messages -/

/-- What is behind the header of a message. A request to stop has nothing but a vendor extension. -/
inductive MessageFormat where
  | request (format : RequestFormat)
  | report (format : ReportFormat)
  | nmmStopRequest

namespace MessageFormat

variable {V : Type}

abbrev Body (V : Type) : MessageFormat → Type
  | request format => P4Request format V
  | report format => P4Report format V
  | nmmStopRequest => Option V

def pack [Tagged V] (config : Option (CodecConfig V)) (limit : ℕ) :
    (format : MessageFormat) → format.Body V → Push Unit
  | request format, body => format.pack config limit body
  | report format, body => format.pack config limit body
  | nmmStopRequest, body => packVendorExtensionTlv config limit body

def unpack (config : Option (CodecConfig V)) (limit : ℕ) :
    (format : MessageFormat) → Pull (format.Body V)
  | request format => format.unpack config limit
  | report format => format.unpack config limit
  | nmmStopRequest => do
    let ((), vendorExtension) ← (unpackTlvList config [] limit).toPull ((), none)
    return vendorExtension

end MessageFormat

/-- The messages that the encoder and the decoder have a case for. -/
inductive P4Kind where
  | rssiRequest | rssiResponse | rssiIndication
  | cellSearchRequest | cellSearchResponse | cellSearchIndication
  | broadcastDetectRequest | broadcastDetectResponse | broadcastDetectIndication
  | systemInformationScheduleRequest | systemInformationScheduleResponse
  | systemInformationScheduleIndication
  | systemInformationRequest | systemInformationResponse | systemInformationIndication
  | nmmStopRequest | nmmStopResponse
  deriving DecidableEq, Repr

namespace P4Kind

/-- The message id. -/
def id : P4Kind → UInt16
  | rssiRequest => 0x0200
  | rssiResponse => 0x0201
  | rssiIndication => 0x0202
  | cellSearchRequest => 0x0203
  | cellSearchResponse => 0x0204
  | cellSearchIndication => 0x0205
  | broadcastDetectRequest => 0x0206
  | broadcastDetectResponse => 0x0207
  | broadcastDetectIndication => 0x0208
  | systemInformationScheduleRequest => 0x0209
  | systemInformationScheduleResponse => 0x020A
  | systemInformationScheduleIndication => 0x020B
  | systemInformationRequest => 0x020C
  | systemInformationResponse => 0x020D
  | systemInformationIndication => 0x020E
  | nmmStopRequest => 0x020F
  | nmmStopResponse => 0x0210

def format : P4Kind → MessageFormat
  | rssiRequest => .request .rssiRequest
  | rssiIndication => .report .rssiIndication
  | cellSearchRequest => .request .cellSearchRequest
  | cellSearchIndication => .report .cellSearchIndication
  | broadcastDetectRequest => .request .broadcastDetectRequest
  | broadcastDetectIndication => .report .broadcastDetectIndication
  | systemInformationScheduleRequest => .request .systemInformationScheduleRequest
  | systemInformationScheduleIndication => .report .systemInformationScheduleIndication
  | systemInformationRequest => .request .systemInformationRequest
  | systemInformationIndication => .report .systemInformationIndication
  | nmmStopRequest => .nmmStopRequest
  | rssiResponse | cellSearchResponse | broadcastDetectResponse | systemInformationScheduleResponse
  | systemInformationResponse | nmmStopResponse => .report .response

def all : List P4Kind :=
  [rssiRequest, rssiResponse, rssiIndication, cellSearchRequest, cellSearchResponse,
    cellSearchIndication, broadcastDetectRequest, broadcastDetectResponse,
    broadcastDetectIndication, systemInformationScheduleRequest,
    systemInformationScheduleResponse, systemInformationScheduleIndication,
    systemInformationRequest, systemInformationResponse, systemInformationIndication,
    nmmStopRequest, nmmStopResponse]

/-- The case for a message id. -/
def ofId (messageId : UInt16) : Option P4Kind := all.find? fun kind ↦ kind.id == messageId

@[simp] theorem ofId_id (kind : P4Kind) : ofId kind.id = some kind := by
  cases kind <;> rfl

theorem eq_id_of_ofId {messageId : UInt16} {kind : P4Kind} (h : ofId messageId = some kind) :
    messageId = kind.id := by
  have hid : (kind.id == messageId) = true :=
    @List.find?_some _ (fun kind : P4Kind ↦ kind.id == messageId) _ _ h
  exact (beq_iff_eq.mp hid).symm

end P4Kind

/-- A message whose header has its id. -/
structure P4Message (V : Type) where
  header : P5MessageHeader
  kind : P4Kind
  body : kind.format.Body V
  messageId : header.messageId = kind.id

/-- What is unpacked: a message, or what the vendor's decoder makes of one with a vendor's id. -/
inductive P4Unpacked (V W : Type) where
  | message (message : P4Message V)
  | vendor (header : P5MessageHeader) (message : W)

/-- `NFAPI_VENDOR_EXT_MSG_MIN`. -/
def vendorExtMsgMin : UInt16 := 0x0300

/-- `NFAPI_VENDOR_EXT_MSG_MAX`. -/
def vendorExtMsgMax : UInt16 := 0x03FF

section Codec

variable {V W : Type}

/-- `nfapi_p4_message_pack` for these messages. -/
def p4MessagePack [Tagged V] (config : Option (CodecConfig V)) (limit : ℕ)
    (message : P4Message V) : Outcome (Option (List UInt8)) :=
  packMessage id (message.kind.format.pack config limit message.body) limit message.header

/-- The switch of `nfapi_p4_message_unpack`. Messages with the id of a vendor go to the decoder that
the configuration has for them. -/
def unpackCase (config : Option (CodecConfig V))
    (vendorMessage : Option (P5MessageHeader → ℕ → Pull W)) (header : P5MessageHeader)
    (limit : ℕ) : Pull (P4Unpacked V W) :=
  match h : P4Kind.ofId header.messageId with
  | some kind => do
    let body ← kind.format.unpack config limit
    return .message ⟨header, kind, body, P4Kind.eq_id_of_ofId h⟩
  | none =>
    if vendorExtMsgMin ≤ header.messageId ∧ header.messageId ≤ vendorExtMsgMax then
      match vendorMessage with
      | some unpack => do
        let message ← unpack header limit
        return .vendor header message
      | none => Pull.reject
    else Pull.reject

/-- `nfapi_p4_message_unpack`. -/
def p4MessageUnpack (config : Option (CodecConfig V))
    (vendorMessage : Option (P5MessageHeader → ℕ → Pull W)) (mem : Memory) (length : ℕ) :
    Outcome (Option (P4Unpacked V W)) :=
  messageUnpack (unpackCase config vendorMessage) mem length

theorem unpackCase_of_kind {config : Option (CodecConfig V)}
    {vendorMessage : Option (P5MessageHeader → ℕ → Pull W)} {header : P5MessageHeader} {limit : ℕ}
    {kind : P4Kind} (hid : header.messageId = kind.id) :
    unpackCase config vendorMessage header limit = (do
      let body ← kind.format.unpack config limit
      return .message ⟨header, kind, body, hid⟩) := by
  unfold unpackCase
  split
  · next found h =>
    have hfound : found = kind := by
      rw [hid, P4Kind.ofId_id] at h
      exact (Option.some.inj h).symm
    subst hfound
    rfl
  · next h =>
    rw [hid, P4Kind.ofId_id] at h
    cases h

end Codec

end MultiUeProxy.P4
