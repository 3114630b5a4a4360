import Mathlib.Data.Int.Notation
import MultiUeProxy.P5.Config
import MultiUeProxy.P5.LifeCycle
import MultiUeProxy.P5.NrConfig

/-!
# Requests that do not decode

`pnf_handle_p5_message` and `pnf_nr_handle_p5_message` of `pnf.c` look for the id of a message and
give its bytes to a handler, which decodes them and says "Unpack message failed, ignoring" if that
fails. The decoders of bodies return 1 or 0, and the unpacking functions hand this on, or return -1
if they do not get to the body. The handlers ask for a result that is not negative. A request whose
body does not decode is therefore acted on with whatever was filled in: `undecodable_ignored_iff`
says when this does no harm.

A message of a vendor is unpacked by `nfapi_p5_message_unpack` as well, and handed over if the
result is 0, which is what the decoder of a vendor returns when it went through. But
`check_unpack_length` does not know the ids of vendors, so that their decoder is never asked.
-/

set_option autoImplicit false
set_option relaxedAutoImplicit false

namespace MultiUeProxy.P5

open Lib.Execution Lib.ByteCursor Lib.ByteWriter Lib.InPlace Lib.TaggedParts Lib.TlvRecord
open Message (P5MessageHeader CodecConfig pullHeader headerLength unpackTlvList unpackNrTlvList)

/-! ### Bodies -/

/-- What a decoder returns, 1 or 0, and the request as far as it was filled in. The arguments are
the length of the message and its bytes. -/
abbrev BodyDecoder : Type := ℕ → Memory → Outcome (Bool × Request)

/-- The decoder of a structure that was cleared, behind the header. -/
def fillBody {σ : Type} (cleared : σ) (fill : ℕ → Fill σ) (request : σ → Request) : BodyDecoder :=
  fun limit mem ↦
    match fill limit mem cleared headerLength with
    | .ok (went, value, _) => .ok (went, request value)
    | .error cause => .error cause

section Bodies

variable {V : Type} (config : Option (CodecConfig V))

/-- The text of the LTE decoders of the requests that have no fields. -/
def unpackLteEmpty (request : Request) : BodyDecoder :=
  fillBody ((), none) (unpackTlvList config []) fun _ ↦ request

/-- The text of the NR decoders of the requests that have no fields. -/
def unpackNrEmpty (request : Request) : BodyDecoder :=
  fillBody ((), none) (unpackNrTlvList config []) fun _ ↦ request

def unpackPnfParamRequest : BodyDecoder := unpackLteEmpty config .pnfParam

def unpackNrPnfParamRequest : BodyDecoder := unpackNrEmpty config .pnfParam

def unpackPnfStartRequest : BodyDecoder := unpackLteEmpty config .pnfStart

def unpackNrPnfStartRequest : BodyDecoder := unpackNrEmpty config .pnfStart

def unpackPnfStopRequest : BodyDecoder := unpackLteEmpty config .pnfStop

def unpackParamRequest : BodyDecoder := unpackLteEmpty config .param

def unpackNrParamRequest : BodyDecoder := unpackNrEmpty config .param

def unpackStartRequest : BodyDecoder := unpackLteEmpty config .start

def unpackNrStartRequest : BodyDecoder := unpackNrEmpty config .start

def unpackStopRequest : BodyDecoder := unpackLteEmpty config .stop

/-- `NFAPI_MAX_PHY_RF_INSTANCES`. -/
def maxPhyRfInstances : ℕ := 2

/-- `unpack_phy_rf_config_info`. Only the id of the PHY is used. -/
def unpackPhyRfConfigInfo (limit index : ℕ) : Fill PnfPhyRfConfig :=
  (Fill.pull (.pull16 limit) fun config phyId ↦
      { config with phyId := Function.update config.phyId index phyId }).andThen <|
    (Fill.pulled (.pull16 limit) fun _ ↦ .done).andThen <|
      Fill.pulled (.pull16 limit) fun _ ↦ .done

/-- `unpack_pnf_phy_rf_config_value`: `unpackarray` compares the number that was read before. -/
def unpackPnfPhyRfConfigValue (limit : ℕ) : Fill PnfPhyRfConfig :=
  (Fill.pull (.pull16 limit) fun config numberPhyRfConfigInfo ↦
      { config with numberPhyRfConfigInfo }).andThen <|
    .look fun config ↦
      if config.numberPhyRfConfigInfo.toNat > maxPhyRfInstances then .leave false
      else .loop (unpackPhyRfConfigInfo limit) config.numberPhyRfConfigInfo.toNat 0

/-- The table of the PNF_CONFIG requests. -/
def pnfPhyRfEntry : Entry PnfPhyRfConfig :=
  ⟨nfapiPnfPhyRfTag, fun tl limit ↦
    (Fill.modify fun config ↦ { config with tag := tl.tag }).andThen
      (unpackPnfPhyRfConfigValue limit)⟩

/-- The number of TLVs, which nothing else reads. -/
def pullNumTlvs {σ : Type} (limit : ℕ) : Fill σ := Fill.pulled (.pull8 limit) fun _ ↦ .done

def unpackPnfConfigRequest : BodyDecoder :=
  fillBody (⟨0, 0, fun _ ↦ 0⟩, none)
    (fun limit ↦ (pullNumTlvs limit).andThen (unpackTlvList config [pnfPhyRfEntry] limit))
    fun value ↦ .pnfConfig value.1

/-- It goes on without the number of TLVs. -/
def unpackNrPnfConfigRequest : BodyDecoder :=
  fillBody (⟨0, 0, fun _ ↦ 0⟩, none)
    (fun limit ↦
      (pullNumTlvs limit).attempt.andThen (unpackNrTlvList config [pnfPhyRfEntry] limit))
    fun value ↦ .pnfConfig value.1

/-- What the decoder of a CONFIG.request returns. -/
def unpackConfigRequestBody : BodyDecoder := fun limit mem ↦
  match unpackConfigRequest config limit mem headerLength with
  | .ok _ => .ok (true, .config)
  | .error .reject => .ok (false, .config)
  | .error (.crash cause) => .error cause

def unpackNrConfigRequestBody (lists : AllocatedLists) : BodyDecoder :=
  fillBody (lists.decoding, none) (unpackNrConfigRequest config) fun _ ↦ .config

/-- `nfapi_measurement_request_t`. -/
structure MeasurementRequest where
  dlRsTxPower : Tlv UInt16 := { value := 0 }
  receivedInterferencePower : Tlv UInt16 := { value := 0 }
  thermalNoisePower : Tlv UInt16 := { value := 0 }

/-- The table of `unpack_measurement_request`. -/
def measurementEntries : List (Entry MeasurementRequest) :=
  [⟨0x1004, fun tl limit ↦
      .component (·.dlRsTxPower) (fun request dlRsTxPower ↦ { request with dlRsTxPower })
        ((storeTl tl).andThen (unpackUint16TlvValue limit))⟩,
    ⟨0x1005, fun tl limit ↦
      .component (·.receivedInterferencePower)
        (fun request receivedInterferencePower ↦ { request with receivedInterferencePower })
        ((storeTl tl).andThen (unpackUint16TlvValue limit))⟩,
    ⟨0x1006, fun tl limit ↦
      .component (·.thermalNoisePower)
        (fun request thermalNoisePower ↦ { request with thermalNoisePower })
        ((storeTl tl).andThen (unpackUint16TlvValue limit))⟩]

def unpackMeasurementRequest : BodyDecoder :=
  fillBody ({}, none) (unpackTlvList config measurementEntries) fun _ ↦ .measurement

/-! ### Requests -/

/-- The requests that the two main loops have P5 handlers for. -/
inductive RequestKind where
  | pnfParam | pnfConfig | pnfStart | pnfStop | param | config | start | stop | measurement
  deriving DecidableEq, Repr

def RequestKind.all : List RequestKind :=
  [.pnfParam, .pnfConfig, .pnfStart, .pnfStop, .param, .config, .start, .stop, .measurement]

/-- The id of a request. -/
def requestId (protocol : Protocol) : RequestKind → UInt16
  | .pnfParam => 0x0100
  | .pnfConfig => 0x0102
  | .pnfStart => 0x0104
  | .pnfStop => 0x0106
  | .param => if protocol = .lte then 0x0108 else 0x0000
  | .config => if protocol = .lte then 0x010A else 0x0002
  | .start => if protocol = .lte then 0x010C else 0x0004
  | .stop => if protocol = .lte then 0x010E else 0x0005
  | .measurement => 0x0110

/-- The case of a `switch` over the id. -/
def requestKind (protocol : Protocol) (messageId : UInt16) : Option RequestKind :=
  RequestKind.all.find? fun kind ↦ requestId protocol kind = messageId

/-- The requests in the `switch` of `nfapi_p5_message_unpack`. -/
def lteBodyDecoder : RequestKind → BodyDecoder
  | .pnfParam => unpackPnfParamRequest config
  | .pnfConfig => unpackPnfConfigRequest config
  | .pnfStart => unpackPnfStartRequest config
  | .pnfStop => unpackPnfStopRequest config
  | .param => unpackParamRequest config
  | .config => unpackConfigRequestBody config
  | .start => unpackStartRequest config
  | .stop => unpackStopRequest config
  | .measurement => unpackMeasurementRequest config

/-- The requests in the `switch` of `nfapi_nr_p5_message_unpack`. PNF_STOP and MEASUREMENT have LTE
handlers, but there the decoders are the same. -/
def nrBodyDecoder (lists : AllocatedLists) : RequestKind → BodyDecoder
  | .pnfParam => unpackNrPnfParamRequest config
  | .pnfConfig => unpackNrPnfConfigRequest config
  | .pnfStart => unpackNrPnfStartRequest config
  | .pnfStop => unpackPnfStopRequest config
  | .param => unpackNrParamRequest config
  | .config => unpackNrConfigRequestBody config lists
  | .start => unpackNrStartRequest config
  | .stop => unpackStopRequest config
  | .measurement => unpackMeasurementRequest config

def bodyDecoder (lists : AllocatedLists) : Protocol → RequestKind → BodyDecoder
  | .lte => lteBodyDecoder config
  | .nr => nrBodyDecoder config lists

end Bodies

/-- A message as it arrives, with the memory that an NR CONFIG.request gets its lists from. -/
structure Arrival where
  bytes : List UInt8
  lists : AllocatedLists

namespace Arrival

variable (arrival : Arrival)

def mem : Memory := memoryOf arrival.bytes

def length : ℕ := arrival.bytes.length

/-- What the first bytes are read as. -/
def header : P5MessageHeader where
  phyId := Pull.word16 arrival.mem 0
  messageId := Pull.word16 arrival.mem 2
  messageLength := Pull.word16 arrival.mem 4
  spare := Pull.word16 arrival.mem 6

/-- `nfapi_p5_message_header_unpack`. -/
def p5MessageHeaderUnpack : Outcome (Option P5MessageHeader) :=
  if arrival.length < headerLength then .ok none
  else (pullHeader arrival.length).run arrival.mem 0

/-- `nfapi_p5_message_unpack` and `nfapi_nr_p5_message_unpack` for the id of a request: -1, or the
result of the decoder of the body with the message as far as it was filled in. -/
def p5MessageUnpack (decoder : BodyDecoder) : Outcome (Option (Bool × Message)) :=
  match arrival.p5MessageHeaderUnpack with
  | .ok (some header) =>
    match decoder arrival.length arrival.mem with
    | .ok (went, request) => .ok (some (went, ⟨header.phyId, request⟩))
    | .error cause => .error cause
  | .ok none => .ok none
  | .error cause => .error cause

end Arrival

/-! ### Messages of a vendor -/

/-- What an application registers for messages of a vendor, which have a type of their own. The
decoder returns 0 if it went through. -/
structure VendorMessages (σ M : Type) where
  allocateP4P5VendorExt : Option (UInt16 → Option M) := none
  unpackP4P5VendorExtension : Option (P5MessageHeader → ℕ → Memory → M → Outcome (ℤ × M)) := none
  vendorExt : Option (M → Pnf σ → Pnf σ) := none

/-- The ids that `check_unpack_length` knows a structure for. -/
def checkedIds : List UInt16 :=
  [0x0100, 0x0101, 0x0102, 0x0103, 0x0104, 0x0105, 0x0106, 0x0107, 0x0108, 0x0109, 0x010A, 0x010B,
    0x010C, 0x010D, 0x010E, 0x010F, 0x0110, 0x0111]

def vendorExtMsgMin : UInt16 := 0x0300

def vendorExtMsgMax : UInt16 := 0x03FF

section Handlers

variable {V M σ : Type}

/-- `nfapi_p5_message_unpack` for the id of a vendor. -/
def p5VendorMessageUnpack (vendor : VendorMessages σ M) (arrival : Arrival) (msg : M) :
    Outcome (ℤ × M) :=
  match arrival.p5MessageHeaderUnpack with
  | .ok (some header) =>
    if header.messageId ∈ checkedIds then
      match vendor.unpackP4P5VendorExtension with
      | some unpack => unpack header arrival.length arrival.mem msg
      | none => .ok (-1, msg)
    else .ok (-1, msg)
  | .ok none => .ok (-1, msg)
  | .error cause => .error cause

def pnfHandleVendorExtension (vendor : VendorMessages σ M) (messageId : UInt16) (arrival : Arrival)
    (pnf : Pnf σ) : Outcome (Pnf σ) :=
  match vendor.allocateP4P5VendorExt.bind fun allocate ↦ allocate messageId with
  | some msg =>
    match p5VendorMessageUnpack vendor arrival msg with
    | .ok (result, msg) =>
      .ok (if result = 0 then call (vendor.vendorExt.map fun run ↦ run msg) pnf else pnf)
    | .error cause => .error cause
  | none => .ok pnf

/-! ### From the bytes on -/

/-- What a PNF is set up with. The requests of P4 have handlers of their own. -/
structure Environment (V M σ : Type) where
  config : Option (CodecConfig V)
  callbacks : Callbacks σ
  vendor : VendorMessages σ M
  handleP4Request : Arrival → Pnf σ → Outcome (Pnf σ)

def p4RequestIds : List UInt16 := [0x0200, 0x0203, 0x0206, 0x0209, 0x020C, 0x020F]

/-- The message that a handler goes on with, if the result is not negative. -/
def requestActedOn (config : Option (CodecConfig V)) (protocol : Protocol) (kind : RequestKind)
    (arrival : Arrival) : Outcome (Option Message) :=
  match arrival.p5MessageUnpack (bodyDecoder config arrival.lists protocol kind) with
  | .ok result => .ok (result.map Prod.snd)
  | .error cause => .error cause

/-- A handler of a request, from the bytes on. -/
def handleRequest (env : Environment V M σ) (protocol : Protocol) (kind : RequestKind)
    (arrival : Arrival) (pnf : Pnf σ) : Outcome (Pnf σ) :=
  match requestActedOn env.config protocol kind arrival with
  | .ok (some msg) => .ok (handleP5Message env.callbacks protocol msg pnf)
  | .ok none => .ok pnf
  | .error cause => .error cause

/-- `pnf_handle_p5_message` and `pnf_nr_handle_p5_message`, from the bytes on. -/
def handleP5Bytes (env : Environment V M σ) (protocol : Protocol) (arrival : Arrival)
    (pnf : Pnf σ) : Outcome (Pnf σ) :=
  match arrival.p5MessageHeaderUnpack with
  | .ok (some header) =>
    match requestKind protocol header.messageId with
    | some kind => handleRequest env protocol kind arrival pnf
    | none =>
      if header.messageId ∈ p4RequestIds then env.handleP4Request arrival pnf
      else if vendorExtMsgMin ≤ header.messageId ∧ header.messageId ≤ vendorExtMsgMax then
        pnfHandleVendorExtension env.vendor header.messageId arrival pnf
      else .ok pnf
  | .ok none => .ok pnf
  | .error cause => .error cause

/-- The main loop gets one more message. -/
def receive (env : Environment V M σ) (protocol : Protocol) (reached : Outcome (Pnf σ))
    (arrival : Arrival) : Outcome (Pnf σ) :=
  reached >>= handleP5Bytes env protocol arrival

end Handlers

/-! ### Callbacks that are counted -/

/-- The data of an application, with the number of calls of callbacks. -/
structure Watched (σ : Type) where
  data : σ
  calls : ℕ

section Watched

variable {V M σ : Type}

def Pnf.unwatched (pnf : Pnf (Watched σ)) : Pnf σ :=
  ⟨pnf.state, pnf.phys, pnf.userData.data, pnf.sent⟩

def Pnf.watched (pnf : Pnf σ) (calls : ℕ) : Pnf (Watched σ) :=
  ⟨pnf.state, pnf.phys, ⟨pnf.userData, calls⟩, pnf.sent⟩

/-- A callback that is counted. -/
def watch (run : Pnf σ → Pnf σ) (pnf : Pnf (Watched σ)) : Pnf (Watched σ) :=
  (run pnf.unwatched).watched (pnf.userData.calls + 1)

def Callbacks.watched (callbacks : Callbacks σ) : Callbacks (Watched σ) where
  pnfParamReq := callbacks.pnfParamReq.map fun run msg ↦ watch (run msg)
  pnfNrParamReq := callbacks.pnfNrParamReq.map fun run msg ↦ watch (run msg)
  pnfConfigReq := callbacks.pnfConfigReq.map fun run config msg ↦ watch (run config msg)
  pnfNrConfigReq := callbacks.pnfNrConfigReq.map fun run config msg ↦ watch (run config msg)
  pnfStartReq := callbacks.pnfStartReq.map fun run msg ↦ watch (run msg)
  pnfNrStartReq := callbacks.pnfNrStartReq.map fun run msg ↦ watch (run msg)
  pnfStopReq := callbacks.pnfStopReq.map fun run msg ↦ watch (run msg)
  paramReq := callbacks.paramReq.map fun run phy msg ↦ watch (run phy msg)
  nrParamReq := callbacks.nrParamReq.map fun run phy msg ↦ watch (run phy msg)
  configReq := callbacks.configReq.map fun run phy msg ↦ watch (run phy msg)
  nrConfigReq := callbacks.nrConfigReq.map fun run phy msg ↦ watch (run phy msg)
  startReq := callbacks.startReq.map fun run phy msg ↦ watch (run phy msg)
  nrStartReq := callbacks.nrStartReq.map fun run phy msg ↦ watch (run phy msg)
  stopReq := callbacks.stopReq.map fun run phy msg ↦ watch (run phy msg)
  nrStopReq := callbacks.nrStopReq.map fun run phy msg ↦ watch (run phy msg)
  measurementReq := callbacks.measurementReq.map fun run phy msg ↦ watch (run phy msg)

def VendorMessages.watched (vendor : VendorMessages σ M) : VendorMessages (Watched σ) M where
  allocateP4P5VendorExt := vendor.allocateP4P5VendorExt
  unpackP4P5VendorExtension := vendor.unpackP4P5VendorExtension
  vendorExt := vendor.vendorExt.map fun run msg ↦ watch (run msg)

/-- What the handlers of P4 requests do is not counted. -/
def Environment.watched (env : Environment V M σ) : Environment V M (Watched σ) where
  config := env.config
  callbacks := env.callbacks.watched
  vendor := env.vendor.watched
  handleP4Request := fun arrival pnf ↦
    (env.handleP4Request arrival pnf.unwatched).map fun after ↦ after.watched pnf.userData.calls

/-! ### What is asked for, and when it holds -/

/-- The message is one for a handler of a P5 request. -/
def Arrival.IsRequest (arrival : Arrival) (protocol : Protocol) (kind : RequestKind) : Prop :=
  headerLength ≤ arrival.length ∧ requestKind protocol arrival.header.messageId = some kind

/-- The message is one of a vendor. -/
def Arrival.IsVendorMessage (arrival : Arrival) : Prop :=
  headerLength ≤ arrival.length ∧ vendorExtMsgMin ≤ arrival.header.messageId ∧
    arrival.header.messageId ≤ vendorExtMsgMax

/-- The records that are deleted if a message is acted on. -/
def deletedRecords (pnf : Pnf σ) (msg : Message) : List PhyConfig :=
  match msg.request with
  | .pnfConfig _ => if pnf.state ≠ .running then pnf.phys else []
  | _ => []

/-- The records that are created if a message is acted on. -/
def createdRecords (pnf : Pnf σ) (msg : Message) : List PhyConfig :=
  match msg.request with
  | .pnfConfig pnfPhyRfConfig => if pnf.state ≠ .running then createPhys pnfPhyRfConfig else []
  | _ => []

/-- The decoder of a vendor would go through, with a message in the memory that is allocated. -/
def VendorMessages.Decodes (vendor : VendorMessages σ M) (arrival : Arrival) : Prop :=
  ∃ allocate unpack msg decoded, vendor.allocateP4P5VendorExt = some allocate ∧
    vendor.unpackP4P5VendorExtension = some unpack ∧
      allocate arrival.header.messageId = some msg ∧
        unpack arrival.header arrival.length arrival.mem msg = .ok (0, decoded)

/-- What is asked for, of one message. A request whose body does not decode calls no callback,
deletes and creates no record, and leaves the states as they are; one whose body decodes is acted
on; and a message of a vendor is handed over exactly if it decodes. -/
structure Respected (env : Environment V M σ) (protocol : Protocol) (pnf : Pnf (Watched σ))
    (arrival : Arrival) : Prop where
  ignored : ∀ kind request, arrival.IsRequest protocol kind →
    bodyDecoder env.config arrival.lists protocol kind arrival.length arrival.mem =
      .ok (false, request) →
    (∃ after, handleP5Bytes env.watched protocol arrival pnf = .ok after ∧ Agrees after pnf) ∧
      ∀ msg, requestActedOn env.config protocol kind arrival = .ok (some msg) →
        deletedRecords pnf msg = [] ∧ createdRecords pnf msg = []
  handled : ∀ kind request, arrival.IsRequest protocol kind →
    bodyDecoder env.config arrival.lists protocol kind arrival.length arrival.mem =
      .ok (true, request) →
    handleP5Bytes env.watched protocol arrival pnf =
      .ok (handleP5Message env.watched.callbacks protocol ⟨arrival.header.phyId, request⟩ pnf)
  vendor : arrival.IsVendorMessage →
    ∃ after, handleP5Bytes env.watched protocol arrival pnf = .ok after ∧
      (after.userData.calls = pnf.userData.calls + 1 ↔
        env.vendor.vendorExt.isSome ∧ env.vendor.Decodes arrival)

/-- The states in which a request goes to the application. -/
def Admits (pnf : Pnf σ) (msg : Message) : Prop :=
  match msg.request with
  | .pnfParam => pnf.state = .idle
  | .pnfConfig _ => pnf.state ≠ .running
  | .pnfStart => pnf.state = .configured
  | .pnfStop => pnf.state = .running
  | .param => Admitted PhyState.isIdle pnf msg.phyId
  | _ => Admitted PhyState.notRunning pnf msg.phyId

/-- There is a callback for a request. -/
def Callbacks.Registered (callbacks : Callbacks σ) (protocol : Protocol) : Request → Prop
  | .pnfParam =>
    match protocol with
    | .lte => callbacks.pnfParamReq.isSome
    | .nr => callbacks.pnfNrParamReq.isSome
  | .pnfConfig _ =>
    match protocol with
    | .lte => callbacks.pnfConfigReq.isSome
    | .nr => callbacks.pnfNrConfigReq.isSome
  | .pnfStart =>
    match protocol with
    | .lte => callbacks.pnfStartReq.isSome
    | .nr => callbacks.pnfNrStartReq.isSome
  | .pnfStop => callbacks.pnfStopReq.isSome
  | .param =>
    match protocol with
    | .lte => callbacks.paramReq.isSome
    | .nr => callbacks.nrParamReq.isSome
  | .config =>
    match protocol with
    | .lte => callbacks.configReq.isSome
    | .nr => callbacks.nrConfigReq.isSome
  | .start =>
    match protocol with
    | .lte => callbacks.startReq.isSome
    | .nr => callbacks.nrStartReq.isSome
  | .stop =>
    match protocol with
    | .lte => callbacks.stopReq.isSome
    | .nr => callbacks.nrStopReq.isSome
  | .measurement => callbacks.measurementReq.isSome

/-- A message does no harm if it comes in a state in which it does not go to the application; or if
there is no callback for it, and no record before it and in it. -/
def Refused (callbacks : Callbacks σ) (protocol : Protocol) {τ : Type} (pnf : Pnf τ)
    (msg : Message) : Prop :=
  Admits pnf msg → ¬ callbacks.Registered protocol msg.request ∧ deletedRecords pnf msg = [] ∧
    createdRecords pnf msg = []

/-- The condition on a message: if it is a request whose body does not decode, then it does no harm
as far as it was filled in; and if it is one of a vendor, it would not decode, or there is no
callback for it. -/
structure Harmless (env : Environment V M σ) (protocol : Protocol) (pnf : Pnf (Watched σ))
    (arrival : Arrival) : Prop where
  request : ∀ kind request, arrival.IsRequest protocol kind →
    bodyDecoder env.config arrival.lists protocol kind arrival.length arrival.mem =
      .ok (false, request) →
    Refused env.callbacks protocol pnf ⟨arrival.header.phyId, request⟩
  vendor : arrival.IsVendorMessage →
    ¬ (env.vendor.vendorExt.isSome ∧ env.vendor.Decodes arrival)

end Watched

/-! ### Handlers that leave the state as it is -/

section Agreement

variable {σ : Type} {before pnf : Pnf (Watched σ)}

theorem agrees_self : Agrees pnf pnf := ⟨rfl, rfl, rfl⟩

/-- A callback that is called is counted. -/
theorem not_agrees_watch {run : Pnf σ → Pnf σ} (hbefore : before.userData = pnf.userData) :
    ¬ Agrees (watch run before) pnf := by
  intro hagrees
  have hcalls : before.userData.calls + 1 = pnf.userData.calls :=
    congrArg Watched.calls hagrees.userData
  rw [hbefore] at hcalls
  exact absurd hcalls (Nat.succ_ne_self _)

variable {respond : Response → Pnf (Watched σ) → Pnf (Watched σ)} {onPnf : PnfState → PnfState}
  {onPhys : UInt16 → List PhyConfig → List PhyConfig} (hsets : Sets respond onPnf onPhys)
  {msg : Message}

include hsets

theorem handlePnfRequest_agrees_iff (expected : PnfState)
    (callback : Option (Message → Pnf σ → Pnf σ)) (messageId : UInt16) :
    Agrees (handlePnfRequest expected (callback.map fun run msg ↦ watch (run msg)) respond messageId
        msg pnf) pnf ↔
      (pnf.state = expected → ¬ callback.isSome) := by
  unfold handlePnfRequest
  by_cases hstate : pnf.state = expected
  · rw [if_pos hstate, forall_prop_of_true hstate]
    cases callback with
    | none => exact iff_of_true agrees_self Bool.false_ne_true
    | some run => exact iff_of_false (not_agrees_watch rfl) (not_not_intro rfl)
  · rw [if_neg hstate]
    exact iff_of_true (hsets.agrees_of_error invalidState_ne_ok pnf) fun h ↦ absurd h hstate

theorem handlePhyRequest_agrees_iff (accepts : PhyState → Bool)
    (callback : Option (PhyConfig → Message → Pnf σ → Pnf σ)) (messageId : UInt16)
    {unknown : UInt32} (hunknown : unknown ≠ nfapiMsgOk) :
    Agrees (handlePhyRequest accepts (callback.map fun run phy msg ↦ watch (run phy msg)) respond
        messageId unknown msg pnf) pnf ↔
      (Admitted accepts pnf msg.phyId → ¬ callback.isSome) := by
  by_cases hadmitted : Admitted accepts pnf msg.phyId
  · obtain ⟨phy, -, hcall⟩ := handlePhyRequest_of_admitted hadmitted
    rw [hcall, forall_prop_of_true hadmitted]
    cases callback with
    | none => exact iff_of_true agrees_self Bool.false_ne_true
    | some run => exact iff_of_false (not_agrees_watch rfl) (not_not_intro rfl)
  · obtain ⟨error, herror, hrefused⟩ := handlePhyRequest_of_refused hadmitted hunknown
    rw [hrefused]
    exact iff_of_true (hsets.agrees_of_error herror pnf) fun h ↦ absurd h hadmitted

/-- The records are replaced before the callback is looked for. -/
theorem handlePnfConfigRequest_agrees_iff
    (callback : Option (PnfPhyRfConfig → Message → Pnf σ → Pnf σ)) (messageId : UInt16)
    (rf : PnfPhyRfConfig) :
    (Agrees (handlePnfConfigRequest (callback.map fun run rf msg ↦ watch (run rf msg)) respond
        messageId rf msg pnf) pnf ∧
      (if pnf.state ≠ .running then pnf.phys else []) = [] ∧
        (if pnf.state ≠ .running then createPhys rf else []) = []) ↔
      (pnf.state ≠ .running → ¬ callback.isSome ∧
        (if pnf.state ≠ .running then pnf.phys else []) = [] ∧
          (if pnf.state ≠ .running then createPhys rf else []) = []) := by
  unfold handlePnfConfigRequest
  by_cases hstate : pnf.state ≠ .running
  · rw [forall_prop_of_true hstate, if_pos hstate, if_pos hstate, if_pos hstate]
    cases callback with
    | none =>
      apply and_congr_left
      rintro ⟨hphys, hcreate⟩
      exact iff_of_true ⟨rfl, hcreate.trans hphys.symm, rfl⟩ Bool.false_ne_true
    | some run =>
      apply and_congr_left
      intro _
      exact iff_of_false (not_agrees_watch rfl) (not_not_intro rfl)
  · rw [if_neg hstate, if_neg hstate, if_neg hstate]
    exact iff_of_true ⟨hsets.agrees_of_error invalidState_ne_ok pnf, rfl, rfl⟩
      fun h ↦ absurd h hstate

end Agreement

section Refusal

variable {σ : Type} (callbacks : Callbacks σ) {pnf : Pnf (Watched σ)} {phyId : UInt16}

/-- For a request that touches no records, only the callback matters. -/
theorem refused_iff_of_untouched {protocol : Protocol} {msg : Message}
    (hdeleted : deletedRecords pnf msg = []) (hcreated : createdRecords pnf msg = []) :
    Refused callbacks protocol pnf msg ↔
      (Admits pnf msg → ¬ callbacks.Registered protocol msg.request) := by
  unfold Refused
  rw [and_iff_left ⟨hdeleted, hcreated⟩]

/-- A message leaves no trace exactly if it does no harm. -/
theorem handleP5Message_ignores_iff (protocol : Protocol) (msg : Message) :
    (Agrees (handleP5Message callbacks.watched protocol msg pnf) pnf ∧
        deletedRecords pnf msg = [] ∧ createdRecords pnf msg = []) ↔
      Refused callbacks protocol pnf msg := by
  obtain ⟨phyId, request⟩ := msg
  cases request with
  | pnfConfig rf =>
    cases protocol with
    | lte => exact handlePnfConfigRequest_agrees_iff (sets_pnfResponse _ _) _ _ rf
    | nr => exact handlePnfConfigRequest_agrees_iff (sets_pnfResponse _ _) _ _ rf
  | pnfParam =>
    rw [refused_iff_of_untouched callbacks rfl rfl, and_iff_left ⟨rfl, rfl⟩]
    cases protocol with
    | lte => exact handlePnfRequest_agrees_iff sets_pnfPackAndSendP5Message _ _ _
    | nr => exact handlePnfRequest_agrees_iff sets_pnfNrPackAndSendP5Message _ _ _
  | pnfStart =>
    rw [refused_iff_of_untouched callbacks rfl rfl, and_iff_left ⟨rfl, rfl⟩]
    cases protocol with
    | lte => exact handlePnfRequest_agrees_iff (sets_pnfResponse _ _) _ _ _
    | nr => exact handlePnfRequest_agrees_iff (sets_pnfResponse _ _) _ _ _
  | pnfStop =>
    rw [refused_iff_of_untouched callbacks rfl rfl, and_iff_left ⟨rfl, rfl⟩]
    cases protocol with
    | lte => exact handlePnfRequest_agrees_iff (sets_pnfResponse _ _) _ _ _
    | nr => exact handlePnfRequest_agrees_iff (sets_pnfResponse _ _) _ _ _
  | param =>
    rw [refused_iff_of_untouched callbacks rfl rfl, and_iff_left ⟨rfl, rfl⟩]
    cases protocol with
    | lte =>
      exact handlePhyRequest_agrees_iff sets_pnfPackAndSendP5Message _ _ _ invalidConfig_ne_ok
    | nr =>
      exact handlePhyRequest_agrees_iff sets_pnfNrPackAndSendP5Message _ _ _ invalidConfig_ne_ok
  | config =>
    rw [refused_iff_of_untouched callbacks rfl rfl, and_iff_left ⟨rfl, rfl⟩]
    cases protocol with
    | lte => exact handlePhyRequest_agrees_iff (sets_phyResponse _ _) _ _ _ invalidConfig_ne_ok
    | nr => exact handlePhyRequest_agrees_iff (sets_phyResponse _ _) _ _ _ invalidConfig_ne_ok
  | start =>
    rw [refused_iff_of_untouched callbacks rfl rfl, and_iff_left ⟨rfl, rfl⟩]
    cases protocol with
    | lte => exact handlePhyRequest_agrees_iff (sets_phyResponse _ _) _ _ _ invalidConfig_ne_ok
    | nr => exact handlePhyRequest_agrees_iff (sets_phyResponse _ _) _ _ _ invalidState_ne_ok
  | stop =>
    rw [refused_iff_of_untouched callbacks rfl rfl, and_iff_left ⟨rfl, rfl⟩]
    cases protocol with
    | lte => exact handlePhyRequest_agrees_iff (sets_phyResponse _ _) _ _ _ invalidConfig_ne_ok
    | nr => exact handlePhyRequest_agrees_iff (sets_phyResponse _ _) _ _ _ invalidConfig_ne_ok
  | measurement =>
    rw [refused_iff_of_untouched callbacks rfl rfl, and_iff_left ⟨rfl, rfl⟩]
    cases protocol with
    | lte =>
      exact handlePhyRequest_agrees_iff sets_pnfPackAndSendP5Message _ _ _ invalidConfig_ne_ok
    | nr => exact handlePhyRequest_agrees_iff sets_pnfPackAndSendP5Message _ _ _ invalidConfig_ne_ok

end Refusal

/-! ### Messages -/

section Messages

variable {V M σ : Type} {arrival : Arrival}

/-- A message that is long enough has a header. -/
theorem p5MessageHeaderUnpack_of_le (hlength : headerLength ≤ arrival.length) :
    arrival.p5MessageHeaderUnpack = .ok (some arrival.header) := by
  have hword : ∀ pos, pos + 2 ≤ headerLength →
      Pull.pull16 arrival.length arrival.mem pos =
        .ok (Pull.word16 arrival.mem pos, pos + 2) := by
    intro pos hpos
    have hroom : pos + 2 ≤ arrival.length := Nat.le_trans hpos hlength
    exact Pull.pull16_of_room hroom hroom
  unfold Arrival.p5MessageHeaderUnpack
  rw [if_neg (Nat.not_lt.mpr hlength), Pull.run_eq_some]
  refine ⟨8, ?_⟩
  unfold pullHeader
  rw [Pull.bind_of_ok (hword 0 (by decide)), Pull.bind_of_ok (hword 2 (by decide)),
    Pull.bind_of_ok (hword 4 (by decide)), Pull.bind_of_ok (hword 6 (by decide))]
  rfl

variable {env : Environment V M σ} {protocol : Protocol} {kind : RequestKind}

section Requests

variable {config : Option (CodecConfig V)} {went : Bool} {request : Request}
  (hrequest : arrival.IsRequest protocol kind)
  (hbody : bodyDecoder config arrival.lists protocol kind arrival.length arrival.mem =
    .ok (went, request))

include hrequest hbody

/-- Whatever the decoder of the body returns, the request is acted on. -/
theorem requestActedOn_of_body :
    requestActedOn config protocol kind arrival = .ok (some ⟨arrival.header.phyId, request⟩) := by
  unfold requestActedOn Arrival.p5MessageUnpack
  simp only [p5MessageHeaderUnpack_of_le hrequest.1, hbody]
  rfl

theorem handleP5Bytes_of_body (hconfig : env.config = config) (pnf : Pnf σ) :
    handleP5Bytes env protocol arrival pnf =
      .ok (handleP5Message env.callbacks protocol ⟨arrival.header.phyId, request⟩ pnf) := by
  subst hconfig
  unfold handleP5Bytes
  simp only [p5MessageHeaderUnpack_of_le hrequest.1, hrequest.2]
  unfold handleRequest
  simp only [requestActedOn_of_body hrequest hbody]

end Requests

/-- The ids of requests are below those of vendors. -/
theorem requestId_lt (protocol : Protocol) (kind : RequestKind) :
    requestId protocol kind < vendorExtMsgMin := by
  cases protocol <;> cases kind <;> decide

/-- The decoder of a vendor is not asked, and nothing is handed over. -/
theorem handleP5Bytes_of_vendorMessage (hvendor : arrival.IsVendorMessage) (pnf : Pnf σ) :
    handleP5Bytes env protocol arrival pnf = .ok pnf := by
  obtain ⟨hlength, hmin, hmax⟩ := hvendor
  have hkind : requestKind protocol arrival.header.messageId = none := by
    unfold requestKind
    rw [List.find?_eq_none]
    intro kind _ hid
    have hid : requestId protocol kind = arrival.header.messageId := by simpa using hid
    exact absurd (hid ▸ requestId_lt protocol kind) (UInt16.not_lt.mpr hmin)
  have hp4 : arrival.header.messageId ∉ p4RequestIds := by
    intro hmem
    have hlow : ∀ id ∈ p4RequestIds, id < vendorExtMsgMin := by
      simp [p4RequestIds, vendorExtMsgMin]
    exact absurd (hlow _ hmem) (UInt16.not_lt.mpr hmin)
  have hchecked : arrival.header.messageId ∉ checkedIds := by
    intro hmem
    have hlow : ∀ id ∈ checkedIds, id < vendorExtMsgMin := by
      simp [checkedIds, vendorExtMsgMin]
    exact absurd (hlow _ hmem) (UInt16.not_lt.mpr hmin)
  unfold handleP5Bytes
  simp only [p5MessageHeaderUnpack_of_le hlength, hkind, if_neg hp4, if_pos (And.intro hmin hmax)]
  unfold pnfHandleVendorExtension p5VendorMessageUnpack
  simp only [p5MessageHeaderUnpack_of_le hlength, if_neg hchecked]
  split
  · exact congrArg Except.ok (if_neg (by decide))
  · rfl

/-- What is asked for holds of a message exactly if it is harmless. -/
theorem respected_iff {pnf : Pnf (Watched σ)} :
    Respected env protocol pnf arrival ↔ Harmless env protocol pnf arrival := by
  have hwatched : env.watched.config = env.config := rfl
  constructor
  · intro hrespected
    constructor
    · intro kind request hrequest hbody
      obtain ⟨⟨after, hafter, hagrees⟩, hrecords⟩ := hrespected.ignored kind request hrequest hbody
      rw [handleP5Bytes_of_body hrequest hbody hwatched] at hafter
      cases hafter
      exact (handleP5Message_ignores_iff env.callbacks protocol _).mp
        ⟨hagrees, hrecords _ (requestActedOn_of_body hrequest hbody)⟩
    · intro hvendor hdecodes
      obtain ⟨after, hafter, hhanded⟩ := hrespected.vendor hvendor
      rw [handleP5Bytes_of_vendorMessage hvendor] at hafter
      cases hafter
      exact absurd (hhanded.mpr hdecodes) (Nat.ne_of_lt (Nat.lt_succ_self _))
  · intro hharmless
    refine ⟨?_, ?_, ?_⟩
    · intro kind request hrequest hbody
      obtain ⟨hagrees, hrecords⟩ := (handleP5Message_ignores_iff env.callbacks protocol _).mpr
        (hharmless.request kind request hrequest hbody)
      refine ⟨⟨_, handleP5Bytes_of_body hrequest hbody hwatched pnf, hagrees⟩, ?_⟩
      intro msg hmsg
      rw [requestActedOn_of_body hrequest hbody] at hmsg
      cases hmsg
      exact hrecords
    · intro kind request hrequest hbody
      exact handleP5Bytes_of_body hrequest hbody hwatched pnf
    · intro hvendor
      refine ⟨pnf, handleP5Bytes_of_vendorMessage hvendor pnf, ?_⟩
      exact iff_of_false (Nat.ne_of_lt (Nat.lt_succ_self _)) (hharmless.vendor hvendor)

/-- In a run, every message finds what is asked for exactly if every message is harmless in the
state that it finds. -/
theorem undecodable_ignored_iff (env : Environment V M σ) (protocol : Protocol)
    (start : Pnf (Watched σ)) (arrivals : List Arrival) :
    Along (receive env.watched protocol)
        (fun reached arrival ↦ ∀ pnf, reached = .ok pnf → Respected env protocol pnf arrival)
        (.ok start) arrivals ↔
      Along (receive env.watched protocol)
        (fun reached arrival ↦ ∀ pnf, reached = .ok pnf → Harmless env protocol pnf arrival)
        (.ok start) arrivals := by
  have hstep : ∀ (reached : Outcome (Pnf (Watched σ))) arrival, True →
      ((∀ pnf, reached = .ok pnf → Respected env protocol pnf arrival) ↔
        ∀ pnf, reached = .ok pnf → Harmless env protocol pnf arrival) := by
    intro reached arrival _
    exact forall_congr' fun pnf ↦ imp_congr_right fun _ ↦ respected_iff
  exact along_iff hstep (fun _ _ _ _ ↦ trivial) arrivals trivial

end Messages

/-- A PNF whose application leaves everything as it is. -/
def quietPnf : Environment Unit Unit Unit where
  config := none
  callbacks := { pnfConfigReq := some fun _ _ pnf ↦ pnf }
  vendor := {}
  handleP4Request := fun _ pnf ↦ .ok pnf

/-- Slots that were cleared. -/
def clearedSlots : List (List (Tlv UInt8)) := List.replicate 40 (List.replicate 14 { value := 0 })

theorem length_clearedSlots : clearedSlots.length = 40 := rfl

theorem length_of_mem_clearedSlots : ∀ symbols ∈ clearedSlots, symbols.length = 14 := by
  intro symbols hsymbols
  rw [List.eq_of_mem_replicate hsymbols, List.length_replicate]

/-- An occasion that was cleared. -/
def clearedOccasion : PrachFdOccasion where
  unusedRootSequencesList := [{ value := 0 }]

theorem length_clearedOccasion : clearedOccasion.unusedRootSequencesList.length = 1 := rfl

def quietArrival (bytes : List UInt8) : Arrival where
  bytes
  lists := ⟨clearedOccasion, clearedSlots, length_clearedOccasion, length_clearedSlots,
    length_of_mem_clearedSlots⟩

/-- A PNF_CONFIG request for the PHY 7, and one that ends behind its header. -/
def truncatedPnfConfig : List Arrival :=
  [quietArrival [0, 0, 0x01, 0x02, 0, 0, 0, 0, 1, 0x10, 0x03, 0, 8, 0, 1, 0, 7, 0, 0, 0, 0],
    quietArrival [0, 0, 0x01, 0x02, 0, 0, 0, 0]]

/-- The second request does not decode, and deletes the record of the PHY. -/
theorem truncatedPnfConfig_deletes :
    ¬ Along (receive quietPnf.watched .lte)
        (fun reached arrival ↦ ∀ pnf, reached = .ok pnf → Respected quietPnf .lte pnf arrival)
        (.ok (Pnf.initial ⟨(), 0⟩)) truncatedPnfConfig := by
  rintro ⟨-, hsecond, -⟩
  have hdeleted := ((hsecond _ rfl).ignored .pnfConfig _ ⟨by decide, by decide⟩ rfl).2 _ rfl
  cases hdeleted.1

end MultiUeProxy.P5
