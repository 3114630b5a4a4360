import MultiUeProxy.P7.NrDlTti
import MultiUeProxy.P7.NrTxData

/-!
# The NR DL_TTI and UL_DCI requests

The codec of `nfapi_p7.c` for the PDUs of a slot. A DL_TTI request has up to 32 PDUs of four types
and groups of UEs, a UL_DCI request up to twelve PDCCH PDUs.

The encoder of a DL_TTI request returns from within its loop over the groups, so that no request
with a group is packed. Its decoder reads the groups in another layout, and what it reads of them it
does not keep. `nrDownlink_roundTrips_iff` says that without groups all that is in a message
survives.
-/

set_option autoImplicit false
set_option relaxedAutoImplicit false

namespace MultiUeProxy.P7.NrDownlink

open Lib.Execution Lib.ByteCursor Lib.ByteWriter Lib.Codec Lib.InPlace Header Pack DciCodec NrPdcch
  NrDlTti
open NrTxData (pullarray32)

/-! ### DL_TTI -/

/-- The elements of `nUe` and `PduIdx` for a group. -/
structure UeGroup where
  nUe : UInt8 := 0
  pduIdx : List UInt8 := []
  deriving DecidableEq, Repr

/-- `nfapi_nr_dl_tti_request_t`. -/
structure DlTtiRequest where
  sfn : UInt16 := 0
  slot : UInt16 := 0
  nPdus : UInt8 := 0
  nGroup : UInt8 := 0
  dlTtiPduList : List DlTtiPdu := []
  groups : List UeGroup := []

instance : Inhabited DlTtiRequest := ⟨{}⟩

/-- `NFAPI_NR_MAX_DL_TTI_PDUS`. -/
def maxDlTtiPdus : ℕ := 32

/-- The size of a row of `PduIdx`, and that of the array `arr` of the decoder. -/
def maxUesPerGroup : ℕ := 12

def dlTtiPduPlace : ListPlace DlTtiRequest DlTtiPdu where
  get request := request.dlTtiPduList
  put request dlTtiPduList := { request with dlTtiPduList }
  get_put _ _ := rfl
  put_put _ _ _ := rfl
  put_get _ := rfl

/-- An element of the loop over the groups. It ends with a return from the encoder. -/
def packUeGroup (limit : ℕ) (group : UeGroup) : Push Unit := do
  attemptItems limit [.u8 group.nUe]
  packElements group.nUe.toNat (fun index ↦ Push.push32 limit index.toUInt32) group.pduIdx
  Push.reject

def dlTtiItems (request : DlTtiRequest) : List Item :=
  [.u16 request.sfn, .u16 request.slot, .u8 request.nPdus, .u8 request.nGroup]

def packDlTtiRequest (limit : ℕ) (request : DlTtiRequest) : Push Unit := do
  pushItems limit (dlTtiItems request)
  packElements request.nPdus.toNat (packDlTtiRequestBodyValue limit) request.dlTtiPduList
  packElements request.nGroup.toNat (packUeGroup limit) request.groups

def dlTtiSteps : List (Step DlTtiRequest) :=
  [.pull16 fun request sfn ↦ { request with sfn },
    .pull16 fun request slot ↦ { request with slot },
    .pull8 fun request nPdus ↦ { request with nPdus },
    .pull8 fun request nGroup ↦ { request with nGroup }]

/-- The number of UEs of each group, which are one behind the other. -/
def nUeSteps : List (Step DlTtiRequest) :=
  [.pullarray8 256 (fun request ↦ request.nGroup.toNat) fun request nUe ↦
    { request with groups := nUe.map fun nUe ↦ ⟨nUe, List.replicate nUe.toNat 0⟩ }]

/-- An element of the loop over the groups. The array has no place for more UEs than a group can
have; the words that are read into it are not used. -/
def unpackUeGroup (limit : ℕ) (group : UeGroup) : Fill DlTtiRequest :=
  if maxUesPerGroup < group.nUe.toNat then .crash .fault
  else .pull (pullarray32 maxUesPerGroup group.nUe.toNat limit) fun request _ ↦ request

def unpackGroups (limit : ℕ) : List UeGroup → Fill DlTtiRequest
  | [] => .done
  | group :: groups => (unpackUeGroup limit group).andThen (unpackGroups limit groups)

def unpackDlTtiRequest (stack : Stack) (limit : ℕ) : Fill DlTtiRequest :=
  (fillSteps limit dlTtiSteps).andThen <|
    (Fill.look fun request ↦ .loop (.elementOrBeyond maxDlTtiPdus dlTtiPduPlace {}
      (unpackDlTtiRequestBodyValue stack limit)) request.nPdus.toNat 0).andThen <|
    (Fill.modify fun request ↦
      { request with groups := List.replicate request.nGroup.toNat {} }).andThen <|
    (attemptSteps limit nUeSteps).andThen <| .look fun request ↦ unpackGroups limit request.groups

/-- The counts fit the arrays. -/
structure DlTtiRequest.Fits (request : DlTtiRequest) : Prop where
  pdus : request.dlTtiPduList.length = request.nPdus.toNat
  pdus_le : request.nPdus.toNat ≤ maxDlTtiPdus
  bodies : ∀ pdu ∈ request.dlTtiPduList, pdu.body.Fits
  groups : request.groups.length = request.nGroup.toNat
  ues : ∀ group ∈ request.groups, group.pduIdx.length = group.nUe.toNat
  ues_le : ∀ group ∈ request.groups, group.nUe.toNat ≤ maxUesPerGroup

/-- What is to arrive of a request. -/
def DlTtiRequest.content (request : DlTtiRequest) : DlTtiRequest :=
  { request with dlTtiPduList := request.dlTtiPduList.map DlTtiPdu.content }

/-- There are no groups, and all that is in the PDUs is also in the message. -/
structure DlTtiRequest.Carried (request : DlTtiRequest) : Prop where
  nGroup : request.nGroup = 0
  bodies : ∀ pdu ∈ request.dlTtiPduList, pdu.body.Carried

/-- A request without groups as it arrives. -/
def DlTtiRequest.arrived (request : DlTtiRequest) : DlTtiRequest :=
  { request with dlTtiPduList := request.dlTtiPduList.map DlTtiPdu.arrived }

def dlTtiBytes (request : DlTtiRequest) : List UInt8 :=
  itemsBytes (dlTtiItems request) ++ request.dlTtiPduList.flatMap DlTtiPdu.bytes

section DlTti

variable {limit : ℕ} {request : DlTtiRequest}

theorem DlTtiRequest.Fits.groups_eq_nil (hfits : request.Fits) (hgroups : request.nGroup = 0) :
    request.groups = [] := by
  apply List.eq_nil_of_length_eq_zero
  rw [hfits.groups, hgroups]
  rfl

theorem encodes_packDlTti (hfits : request.Fits) (hgroups : request.nGroup = 0) :
    Encodes limit (packDlTtiRequest limit request) (dlTtiBytes request) := by
  have hitems : Encodes limit (pushItems limit (dlTtiItems request))
      (itemsBytes (dlTtiItems request)) := by
    have hemits : Emits limit (pushItems limit (dlTtiItems request)) _ :=
      emits_pushItems (by simp [dlTtiItems, Item.Fits])
    exact hemits.encodes
  have hpdus : Encodes limit (packElements request.dlTtiPduList.length
      (packDlTtiRequestBodyValue limit) request.dlTtiPduList)
      (request.dlTtiPduList.flatMap DlTtiPdu.bytes) :=
    encodes_packElements fun pdu hpdu ↦ encodes_packDlTtiPdu (hfits.bodies pdu hpdu)
  have hnone : Encodes limit (packElements request.nGroup.toNat (packUeGroup limit)
      request.groups) [] := by
    rw [hgroups, hfits.groups_eq_nil hgroups]
    exact @encodes_packElements UeGroup limit (packUeGroup limit) (fun _ ↦ []) [] (by simp)
  rw [hfits.pdus] at hpdus
  unfold packDlTtiRequest dlTtiBytes
  rw [← List.append_nil (request.dlTtiPduList.flatMap DlTtiPdu.bytes)]
  infer_instance

/-- The encoder comes to no end with a group. -/
theorem fails_packDlTti (hfits : request.Fits) (hgroups : request.nGroup ≠ 0) :
    Fails (packDlTtiRequest limit request) := by
  have hreject : ∀ group, Fails (packUeGroup limit group) := by
    intro group
    have hend : Fails (Push.reject : Push Unit) := by
      intro out a next h
      cases h
    exact Fails.after fun _ ↦ Fails.after fun _ ↦ hend
  have hlength := hfits.groups
  cases hlist : request.groups with
  | nil =>
    rw [hlist] at hlength
    exact absurd (UInt8.toNat_inj.mp hlength.symm) hgroups
  | cons group groups =>
    rw [hlist] at hlength
    have hfirst : group ∈ (group :: groups).take request.nGroup.toNat := by
      rw [← hlength, List.take_length]
      exact List.mem_cons_self ..
    unfold packDlTtiRequest
    rw [hlist]
    apply Fails.after
    intro _
    apply Fails.after
    intro _
    exact (fails_forEach hfirst (hreject group)).bind

theorem fills_unpackDlTti (hfits : request.Fits) (hgroups : request.nGroup = 0) (stack : Stack) :
    Fills limit (unpackDlTtiRequest stack limit) default (dlTtiBytes request) request.arrived := by
  have hnumbers : Fills limit (fillSteps limit dlTtiSteps) default
      (itemsBytes (dlTtiItems request)) { request with dlTtiPduList := [], groups := [] } :=
    fills_fillSteps rfl
  have hall : ∀ pdu ∈ request.dlTtiPduList, Fills limit (unpackDlTtiRequestBodyValue stack limit)
      {} pdu.bytes pdu.arrived := fun pdu hpdu ↦ fills_unpackDlTtiPdu (hfits.bodies pdu hpdu) stack
  have hpdus : Fills limit (.loop (.elementOrBeyond maxDlTtiPdus dlTtiPduPlace {}
      (unpackDlTtiRequestBodyValue stack limit)) request.dlTtiPduList.length 0)
      { request with dlTtiPduList := [], groups := [] }
      (request.dlTtiPduList.flatMap DlTtiPdu.bytes) { request.arrived with groups := [] } :=
    fills_elementsOrBeyond hall rfl (hfits.pdus.trans_le hfits.pdus_le)
  rw [hfits.pdus] at hpdus
  have hnone : request.arrived.groups = [] := hfits.groups_eq_nil hgroups
  have hsame : { request.arrived with groups := [] } = request.arrived := by rw [← hnone]
  have hcount : request.arrived.nGroup.toNat = 0 := UInt8.toNat_inj.mpr hgroups
  have hclear : Fills limit (.modify fun request ↦
      { request with groups := List.replicate request.nGroup.toNat {} }) request.arrived []
      { request.arrived with groups := List.replicate request.arrived.nGroup.toNat {} } :=
    fills_modify _
  rw [hcount, List.replicate_zero, hsame] at hclear
  have hues : Fills limit (attemptSteps limit nUeSteps) request.arrived
      (itemsBytes [.array8 [] 256 0]) request.arrived := by
    apply fills_attemptSteps
    simp [applySteps, nUeSteps, Step.apply, hcount]
    exact hsame
  have hloop : Fills limit (.look fun request ↦ unpackGroups limit request.groups) request.arrived
      [] request.arrived := by
    apply Fills.look
    rw [hnone]
    exact fills_done
  have hsplit : dlTtiBytes request = itemsBytes (dlTtiItems request) ++
      (request.dlTtiPduList.flatMap DlTtiPdu.bytes ++
        ([] ++ (itemsBytes [.array8 [] 256 0] ++ []))) := by
    unfold dlTtiBytes
    simp [itemsBytes, Item.bytes]
  rw [hsame] at hpdus
  rw [hsplit]
  exact hnumbers.andThen ((Fills.look hpdus).andThen (hclear.andThen (hues.andThen hloop)))

theorem length_dlTtiBytes_le (hfits : request.Fits) : (dlTtiBytes request).length ≤ 7270 := by
  have hpdus : (request.dlTtiPduList.flatMap DlTtiPdu.bytes).length ≤
      request.dlTtiPduList.length * 227 := by
    apply length_flatMap_le
    intro pdu hpdu
    have hbody := DlTtiBody.length_bytes_le (hfits.bodies pdu hpdu)
    rw [DlTtiPdu.bytes, length_sizedBytes]
    omega
  have hnumber := hfits.pdus
  have hmax := hfits.pdus_le
  unfold maxDlTtiPdus at hmax
  have hitems : (itemsBytes (dlTtiItems request)).length = 6 := rfl
  unfold dlTtiBytes
  rw [List.length_append]
  omega

theorem DlTtiRequest.arrived_eq_content_iff :
    request.arrived = request.content ↔ ∀ pdu ∈ request.dlTtiPduList, pdu.body.Carried := by
  constructor
  · intro h pdu hpdu
    have hpdus := List.map_inj_left.mp (congrArg DlTtiRequest.dlTtiPduList h)
    exact DlTtiPdu.arrived_eq_content_iff.mp (hpdus pdu hpdu)
  · intro h
    have hpdus := List.map_inj_left.mpr fun pdu hpdu ↦
      DlTtiPdu.arrived_eq_content_iff.mpr (h pdu hpdu)
    unfold arrived content
    rw [hpdus]

end DlTti

/-! ### UL_DCI -/

/-- `nfapi_nr_ul_dci_request_pdus_t`. -/
structure UlDciPdu where
  pduType : UInt16 := 0
  pduSize : UInt16 := 0
  pdcchPdu : PdcchPdu := {}

instance : Inhabited UlDciPdu := ⟨{}⟩

/-- `nfapi_nr_ul_dci_request_t`. -/
structure UlDciRequest where
  sfn : UInt16 := 0
  slot : UInt16 := 0
  numPdus : UInt8 := 0
  ulDciPduList : List UlDciPdu := []

instance : Inhabited UlDciRequest := ⟨{}⟩

/-- `NFAPI_NR_MAX_NB_CORESETS`. -/
def maxNbCoresets : ℕ := 12

def ulDciPduPlace : ListPlace UlDciRequest UlDciPdu where
  get request := request.ulDciPduList
  put request ulDciPduList := { request with ulDciPduList }
  get_put _ _ := rfl
  put_put _ _ _ := rfl
  put_get _ := rfl

/-- The PDU is that of a DL_TTI request, whatever the type is. -/
def packUlDciPduListValue (limit : ℕ) (pdu : UlDciPdu) : Push Unit :=
  packSized limit (Push.attempt (Push.push16 limit pdu.pduType))
    (Push.attempt (Push.push16 limit pdu.pduSize)) (packDlTtiPdcchPduRel15Value limit pdu.pdcchPdu)

def ulDciItems (request : UlDciRequest) : List Item :=
  [.u16 request.sfn, .u16 request.slot, .u8 request.numPdus]

def packUlDciRequest (limit : ℕ) (request : UlDciRequest) : Push Unit := do
  pushItems limit (ulDciItems request)
  packElements request.numPdus.toNat (packUlDciPduListValue limit) request.ulDciPduList

def ulDciPduSteps : List (Step UlDciPdu) :=
  [.pull16 fun pdu pduType ↦ { pdu with pduType },
    .pull16 fun pdu pduSize ↦ { pdu with pduSize }]

def unpackUlDciPduListValue (stack : DciPayload) (limit : ℕ) : Fill UlDciPdu :=
  (attemptSteps limit ulDciPduSteps).andThen
    (.component UlDciPdu.pdcchPdu (fun pdu pdcchPdu ↦ { pdu with pdcchPdu })
      (unpackDlTtiPdcchPduRel15Value stack limit))

def ulDciSteps : List (Step UlDciRequest) :=
  [.pull16 fun request sfn ↦ { request with sfn },
    .pull16 fun request slot ↦ { request with slot },
    .pull8 fun request numPdus ↦ { request with numPdus }]

/-- The decoder of a PDU always reads the number of its DCIs, so that already the first one behind
the end of the array is an access outside of it. -/
def unpackUlDciRequest (stack : DciPayload) (limit : ℕ) : Fill UlDciRequest :=
  (fillSteps limit ulDciSteps).andThen <| .look fun request ↦
    .loop (.element maxNbCoresets ulDciPduPlace.get ulDciPduPlace.put {}
      (unpackUlDciPduListValue stack limit)) request.numPdus.toNat 0

/-- The counts fit the arrays. -/
structure UlDciRequest.Fits (request : UlDciRequest) : Prop where
  pdus : request.ulDciPduList.length = request.numPdus.toNat
  pdus_le : request.numPdus.toNat ≤ maxNbCoresets
  bodies : ∀ pdu ∈ request.ulDciPduList, pdu.pdcchPdu.Fits

/-- A PDU with the size that is packed. -/
def UlDciPdu.sized (pdu : UlDciPdu) : UlDciPdu :=
  { pdu with pduSize := (4 + (pdcchBytes pdu.pdcchPdu).length).toUInt16 }

def UlDciPdu.arrived (pdu : UlDciPdu) : UlDciPdu :=
  { pdu.sized with pdcchPdu := pdu.pdcchPdu.arrived }

/-- What is to arrive of a PDU. -/
def UlDciPdu.content (pdu : UlDciPdu) : UlDciPdu :=
  { pdu.sized with pdcchPdu := pdu.pdcchPdu.content }

def UlDciPdu.bytes (pdu : UlDciPdu) : List UInt8 :=
  sizedBytes pdu.pduType (pdcchBytes pdu.pdcchPdu)

def UlDciRequest.arrived (request : UlDciRequest) : UlDciRequest :=
  { request with ulDciPduList := request.ulDciPduList.map UlDciPdu.arrived }

/-- What is to arrive of a request. -/
def UlDciRequest.content (request : UlDciRequest) : UlDciRequest :=
  { request with ulDciPduList := request.ulDciPduList.map UlDciPdu.content }

/-- All that is in the PDUs is also in the message. -/
def UlDciRequest.Carried (request : UlDciRequest) : Prop :=
  ∀ pdu ∈ request.ulDciPduList, pdu.pdcchPdu.Carried

def ulDciBytes (request : UlDciRequest) : List UInt8 :=
  itemsBytes (ulDciItems request) ++ request.ulDciPduList.flatMap UlDciPdu.bytes

section UlDci

variable {limit : ℕ} {request : UlDciRequest}

theorem encodes_packUlDci (hfits : request.Fits) :
    Encodes limit (packUlDciRequest limit request) (ulDciBytes request) := by
  have hemits : Emits limit (pushItems limit (ulDciItems request))
      (itemsBytes (ulDciItems request)) := emits_pushItems (by simp [ulDciItems, Item.Fits])
  have hitems := hemits.encodes
  have hpdus : Encodes limit (packElements request.ulDciPduList.length
      (packUlDciPduListValue limit) request.ulDciPduList)
      (request.ulDciPduList.flatMap UlDciPdu.bytes) := by
    apply encodes_packElements
    intro pdu hpdu
    exact encodes_packSized inferInstance inferInstance (encodes_packPdcch (hfits.bodies pdu hpdu))
  rw [hfits.pdus] at hpdus
  unfold packUlDciRequest ulDciBytes
  infer_instance

theorem fills_unpackUlDciPdu {pdu : UlDciPdu} (hfits : pdu.pdcchPdu.Fits) (stack : DciPayload) :
    Fills limit (unpackUlDciPduListValue stack limit) default pdu.bytes pdu.arrived := by
  have hfront : Fills limit (attemptSteps limit ulDciPduSteps) default
      (itemsBytes [.u16 pdu.pduType, .u16 (4 + (pdcchBytes pdu.pdcchPdu).length).toUInt16])
      { pdu.sized with pdcchPdu := {} } := fills_attemptSteps rfl
  have hsplit : pdu.bytes = itemsBytes [.u16 pdu.pduType,
      .u16 (4 + (pdcchBytes pdu.pdcchPdu).length).toUInt16] ++ pdcchBytes pdu.pdcchPdu := rfl
  rw [hsplit]
  apply hfront.andThen
  exact Fills.component (fills_unpackPdcch hfits stack)

theorem fills_unpackUlDci (hfits : request.Fits) (stack : DciPayload) :
    Fills limit (unpackUlDciRequest stack limit) default (ulDciBytes request) request.arrived := by
  have hnumbers : Fills limit (fillSteps limit ulDciSteps) default
      (itemsBytes (ulDciItems request)) { request with ulDciPduList := [] } := fills_fillSteps rfl
  apply hnumbers.andThen
  apply Fills.look
  dsimp only
  rw [← hfits.pdus]
  exact fills_elements_map (fun pdu hpdu ↦ fills_unpackUlDciPdu (hfits.bodies pdu hpdu) stack)
    ulDciPduPlace.get_put ulDciPduPlace.put_put rfl (hfits.pdus.trans_le hfits.pdus_le)

theorem length_ulDciBytes_le (hfits : request.Fits) : (ulDciBytes request).length ≤ 2729 := by
  have hpdus : (request.ulDciPduList.flatMap UlDciPdu.bytes).length ≤
      request.ulDciPduList.length * 227 := by
    apply length_flatMap_le
    intro pdu hpdu
    have hbody := length_pdcchBytes_le (hfits.bodies pdu hpdu)
    rw [UlDciPdu.bytes, length_sizedBytes]
    omega
  have hnumber := hfits.pdus
  have hmax := hfits.pdus_le
  unfold maxNbCoresets at hmax
  have hitems : (itemsBytes (ulDciItems request)).length = 5 := rfl
  unfold ulDciBytes
  rw [List.length_append]
  omega

theorem UlDciPdu.arrived_eq_content_iff {pdu : UlDciPdu} :
    pdu.arrived = pdu.content ↔ pdu.pdcchPdu.Carried := by
  unfold arrived content
  rw [UlDciPdu.mk.injEq]
  exact (and_iff_right rfl).trans ((and_iff_right rfl).trans PdcchPdu.arrived_eq_content_iff)

theorem UlDciRequest.arrived_eq_content_iff :
    request.arrived = request.content ↔ request.Carried := by
  constructor
  · intro h pdu hpdu
    have hpdus := List.map_inj_left.mp (congrArg UlDciRequest.ulDciPduList h)
    exact UlDciPdu.arrived_eq_content_iff.mp (hpdus pdu hpdu)
  · intro h
    have hpdus := List.map_inj_left.mpr fun pdu hpdu ↦
      UlDciPdu.arrived_eq_content_iff.mpr (h pdu hpdu)
    unfold arrived content
    rw [hpdus]

end UlDci

/-! ### The messages -/

/-- One of the two requests. -/
inductive DownlinkRequest where
  | dlTti (request : DlTtiRequest)
  | ulDci (request : UlDciRequest)

def nrDlTtiRequest : UInt16 := 0x80

def nrUlDciRequest : UInt16 := 0x83

namespace DownlinkRequest

def messageId : DownlinkRequest → UInt16
  | dlTti _ => nrDlTtiRequest
  | ulDci _ => nrUlDciRequest

def pack (limit : ℕ) : DownlinkRequest → Push Unit
  | dlTti request => packDlTtiRequest limit request
  | ulDci request => packUlDciRequest limit request

def Fits : DownlinkRequest → Prop
  | dlTti request => request.Fits
  | ulDci request => request.Fits

/-- The request as it is to arrive: with the sizes of its PDUs and up to what is not in use, the
PTRS parameters that are not selected and what is above the bits of a payload. -/
def content : DownlinkRequest → DownlinkRequest
  | dlTti request => dlTti request.content
  | ulDci request => ulDci request.content

def Carried : DownlinkRequest → Prop
  | dlTti request => request.Carried
  | ulDci request => request.Carried

/-- There are no groups. -/
def Ungrouped : DownlinkRequest → Prop
  | dlTti request => request.nGroup = 0
  | ulDci _ => True

def arrived : DownlinkRequest → DownlinkRequest
  | dlTti request => dlTti request.arrived
  | ulDci request => ulDci request.arrived

def bytes : DownlinkRequest → List UInt8
  | dlTti request => dlTtiBytes request
  | ulDci request => ulDciBytes request

end DownlinkRequest

/-- The switch over the message id. The structure that is filled in has been set to zero. -/
def unpackDownlink (stack : Stack) (header : P7MessageHeader) (limit : ℕ) : Pull DownlinkRequest :=
  if header.messageId = nrDlTtiRequest then
    DownlinkRequest.dlTti <$> (unpackDlTtiRequest stack limit).toPull default
  else if header.messageId = nrUlDciRequest then
    DownlinkRequest.ulDci <$> (unpackUlDciRequest stack.payload limit).toPull default
  else Pull.reject

/-- `nfapi_nr_p7_message_pack` of a request in a message with this header. -/
def packMessageDownlink (limit : ℕ) (header : P7MessageHeader) (request : DownlinkRequest) :
    Outcome (Option (List UInt8)) :=
  packMessage (request.pack limit) limit { header with messageId := request.messageId }

/-- `nfapi_nr_p7_message_unpack` of a message with one of the two requests. -/
def unpackMessageDownlink (stack : Stack) : Memory → ℕ → Outcome (Option DownlinkRequest) :=
  messageUnpack (unpackDownlink stack)

/-- The request survives its codec: it is packed into a buffer that is large enough, and what is
packed is unpacked to the same, whatever is on the stack. -/
def DownlinkRequest.RoundTrips (request : DownlinkRequest) (header : P7MessageHeader) : Prop :=
  ∃ room, ∀ limit, room ≤ limit → ∃ packed,
    packMessageDownlink limit header request = .ok (some packed) ∧
      ∀ stack, unpackMessageDownlink stack (memoryOf packed) packed.length =
        .ok (some request.content)

section RoundTrip

variable {limit : ℕ} {request : DownlinkRequest}

theorem DownlinkRequest.encodes_pack (hfits : request.Fits) (hgroups : request.Ungrouped) :
    Encodes limit (request.pack limit) request.bytes := by
  cases request with
  | dlTti request => exact encodes_packDlTti hfits hgroups
  | ulDci request => exact encodes_packUlDci hfits

theorem DownlinkRequest.fails_pack (hfits : request.Fits) (hgroups : ¬ request.Ungrouped) :
    Fails (request.pack limit) := by
  cases request with
  | dlTti request => exact fails_packDlTti hfits hgroups
  | ulDci request => exact absurd trivial hgroups

theorem DownlinkRequest.length_bytes_le (hfits : request.Fits) : request.bytes.length ≤ 7270 := by
  cases request with
  | dlTti request => exact length_dlTtiBytes_le hfits
  | ulDci request => exact (length_ulDciBytes_le hfits).trans (Nat.le_of_ble_eq_true rfl)

theorem reads_unpackDownlink (hfits : request.Fits) (hgroups : request.Ungrouped) (stack : Stack)
    {header : P7MessageHeader} (hid : header.messageId = request.messageId) :
    Reads limit (unpackDownlink stack header limit) request.bytes request.arrived := by
  unfold unpackDownlink
  cases request with
  | dlTti request =>
    have heq : header.messageId = nrDlTtiRequest := hid
    rw [if_pos heq]
    exact (reads_toPull (fills_unpackDlTti hfits hgroups stack)).map
  | ulDci request =>
    have heq : header.messageId = nrUlDciRequest := hid
    have hne : header.messageId ≠ nrDlTtiRequest := by
      rw [heq]
      decide
    rw [if_neg hne, if_pos heq]
    exact (reads_toPull (fills_unpackUlDci hfits stack.payload)).map

theorem DownlinkRequest.carried_iff : request.Carried ↔
    request.Ungrouped ∧ request.arrived = request.content := by
  cases request with
  | dlTti request =>
    rw [arrived, content, dlTti.injEq, DlTtiRequest.arrived_eq_content_iff]
    exact ⟨fun h ↦ ⟨h.nGroup, h.bodies⟩, fun h ↦ ⟨h.1, h.2⟩⟩
  | ulDci request =>
    rw [arrived, content, ulDci.injEq, UlDciRequest.arrived_eq_content_iff]
    exact (and_iff_right trivial).symm

/-- Without groups a request is packed, and it arrives without what is not in the message. -/
theorem DownlinkRequest.packed_of_ungrouped (hfits : request.Fits) (hgroups : request.Ungrouped)
    (header : P7MessageHeader) (hroom : p7HeaderLength + request.bytes.length ≤ limit) :
    ∃ packed, packMessageDownlink limit header request = .ok (some packed) ∧
      ∀ stack, unpackMessageDownlink stack (memoryOf packed) packed.length =
        .ok (some request.arrived) := by
  have hlength : p7HeaderLength + request.bytes.length ≤ 0xFFFF := by
    have hbytes := length_bytes_le hfits
    unfold p7HeaderLength
    omega
  refine ⟨_, packMessage_of_encodes (encodes_pack hfits hgroups) _ hroom hlength, ?_⟩
  intro stack
  rw [length_header_append]
  apply messageUnpack_of_reads (Nat.le_of_eq (packedHeader_length hlength))
  exact reads_unpackDownlink hfits hgroups stack rfl

/-- No request with a group is packed. -/
theorem DownlinkRequest.RoundTrips.ungrouped (hfits : request.Fits) {header : P7MessageHeader}
    (h : request.RoundTrips header) : request.Ungrouped := by
  apply Classical.byContradiction
  intro hgroups
  obtain ⟨room, h⟩ := h
  obtain ⟨packed, hpack, -⟩ := h room (Nat.le_refl _)
  obtain ⟨written, hrun, -⟩ := packMessage_eq_some hpack
  have hmessage : Fails (pushMessage (request.pack room) room
      { header with messageId := request.messageId }) :=
    Fails.after fun _ ↦ DownlinkRequest.fails_pack hfits hgroups
  exact hmessage [] () written hrun

/-- What survives arrives as it is to. -/
theorem DownlinkRequest.RoundTrips.arrived_eq (hfits : request.Fits) {header : P7MessageHeader}
    (h : request.RoundTrips header) : request.arrived = request.content := by
  have hgroups := h.ungrouped hfits
  obtain ⟨room, h⟩ := h
  obtain ⟨packed, hpack, hunpack⟩ := packed_of_ungrouped hfits hgroups header
    (Nat.le_max_right room (p7HeaderLength + request.bytes.length))
  obtain ⟨packed', hpack', hunpack'⟩ := h _ (Nat.le_max_left room _)
  have hsame := hpack.symm.trans hpack'
  cases hsame
  have hresult := (hunpack ⟨.ofWord 0, 0, 0, 0, 0⟩).symm.trans (hunpack' _)
  exact Option.some.inj (Except.ok.inj hresult)

end RoundTrip

/-- A request survives its codec exactly if it has no groups and all that is in it is also in the
message. -/
theorem nrDownlink_roundTrips_iff (request : DownlinkRequest) (header : P7MessageHeader)
    (hfits : request.Fits) : request.RoundTrips header ↔ request.Carried := by
  rw [DownlinkRequest.carried_iff]
  constructor
  · intro h
    exact ⟨h.ungrouped hfits, h.arrived_eq hfits⟩
  · rintro ⟨hgroups, harrived⟩
    refine ⟨p7HeaderLength + request.bytes.length, fun limit hroom ↦ ?_⟩
    rw [← harrived]
    exact DownlinkRequest.packed_of_ungrouped hfits hgroups header hroom

/-- A request with a PDU and a group of one UE, whose it is. -/
def groupRequest : DownlinkRequest := .dlTti {
  sfn := 1
  slot := 2
  nPdus := 1
  nGroup := 1
  dlTtiPduList := [{ body := .csiRs {} }]
  groups := [{ nUe := 1, pduIdx := [0] }] }

theorem groupRequest_fits : groupRequest.Fits :=
  { pdus := rfl
    pdus_le := by decide
    bodies := by simp [DlTtiBody.Fits]
    groups := rfl
    ues := by decide
    ues_le := by decide }

theorem groupRequest_roundTrips_iff : groupRequest.RoundTrips {} ↔ groupRequest.Carried :=
  nrDownlink_roundTrips_iff groupRequest {} groupRequest_fits

/-- This request is not packed, however large the buffer is. -/
theorem groupRequest_not_roundTrips : groupRequest.Fits ∧ ¬ groupRequest.RoundTrips {} := by
  refine ⟨groupRequest_fits, fun h ↦ ?_⟩
  have hgroups : (1 : UInt8) = 0 := h.ungrouped groupRequest_fits
  exact absurd hgroups (by decide)

end MultiUeProxy.P7.NrDownlink
