import MultiUeProxy.P7.LteFrame

/-!
# The LTE TX request

`pack_tx_request` and `unpack_tx_request` of `nfapi_p7.c`. A PDU is packed from several segments,
one behind the other, and comes back with a single one.

The decoder does not use `unpack_p7_tlv_list`, as those of the indications do, but has a loop of its
own. The loop ignores a tag that is not that of the body, and goes on behind its length: it takes
what follows for the next tag. `txRequest_intact_iff` says what this means for the extension of a
vendor, which stands behind the body. Only one that is empty is skipped.
-/

set_option autoImplicit false
set_option relaxedAutoImplicit false

namespace MultiUeProxy.P7.LteTxRequest

open Lib.Execution Lib.ByteCursor Lib.ByteCursor.Pull Lib.ByteWriter Lib.Codec Lib.TlvCodec Header
open Pack LteUplink
open Lib.ByteWriter.Push (push8 push16 pusharray8)

/-- A PDU of `nfapi_tx_request_pdu_t`, with the bytes of its segments. -/
structure TxRequestPdu where
  pduLength : UInt16
  pduIndex : UInt16
  segments : List (List UInt8)
  deriving DecidableEq, Repr

/-- `nfapi_tx_request_body_t`. -/
structure TxRequestBody where
  tl : Tl := {}
  pduList : List TxRequestPdu := []
  deriving DecidableEq, Repr

/-- The extension of a vendor, with the bytes that the function of the vendor writes. -/
structure VendorExtension where
  tl : Tl
  value : List UInt8
  deriving DecidableEq, Repr

/-- `nfapi_tx_request_t`. -/
structure TxRequest where
  header : P7MessageHeader
  sfnSf : UInt16
  txRequestBody : TxRequestBody
  vendorExtension : Option VendorExtension := none
  deriving DecidableEq

def txRequest : UInt16 := 0x84
def txRequestBodyTag : UInt16 := 0x2022

/-- `NFAPI_TX_MAX_PDU`. -/
def txMaxPdu : ℕ := 100

/-- `NFAPI_TX_MAX_SEGMENTS`. -/
def txMaxSegments : ℕ := 32

/-! ### The encoder -/

def packTxRequestPdu (limit : ℕ) (pdu : TxRequestPdu) : Push Unit := do
  push16 limit pdu.pduLength
  push16 limit pdu.pduIndex
  Push.forEach (fun segment ↦ pusharray8 segment 65535 segment.length limit) pdu.segments

def packTxRequestBodyValue (limit : ℕ) (body : TxRequestBody) : Push Unit := do
  push16 limit body.pduList.length.toUInt16
  Push.forEach (packTxRequestPdu limit) body.pduList

/-- `pack_p7_vendor_extension_tlv`. -/
def packP7VendorExtensionTlv (limit : ℕ) : Option VendorExtension → Push Unit
  | none => pure ()
  | some extension =>
    packTlv limit extension.tl.tag extension.tl (Push.forEach (push8 limit) extension.value)

def packTxRequest (limit : ℕ) (request : TxRequest) : Push Unit := do
  packLteIndication txRequestBodyTag limit ⟨request.sfnSf, request.txRequestBody.tl⟩
    (packTxRequestBodyValue limit request.txRequestBody)
  packP7VendorExtensionTlv limit request.vendorExtension

/-- `nfapi_p7_message_pack`. -/
def packMessageTx (limit : ℕ) (request : TxRequest) : Outcome (Option (List UInt8)) :=
  packMessage (packTxRequest limit request) limit { request.header with messageId := txRequest }

/-! ### The decoder -/

/-- A PDU without data gets no memory, and nothing is read to it. -/
def unpackTxRequestPdu (limit : ℕ) : Pull TxRequestPdu := do
  let pduLength ← pull16 limit
  let pduIndex ← pull16 limit
  if pduLength = 0 then
    return { pduLength, pduIndex, segments := [[]] }
  else
    let segment ← pullarray8 pduLength.toNat pduLength.toNat limit
    return { pduLength, pduIndex, segments := [segment] }

def unpackTxRequestBodyValue (tl : Tl) (limit : ℕ) : Pull TxRequestBody := do
  let number ← pull16 limit
  ensure (number.toNat ≤ txMaxPdu)
  let pduList ← repeatPull (unpackTxRequestPdu limit) number.toNat
  return { tl, pduList }

/-- One iteration of the loop. -/
def unpackTxRequestTlv (limit : ℕ) (body : TxRequestBody) : Pull TxRequestBody := do
  let tl ← unpackTl limit
  if tl.tag = txRequestBodyTag then unpackTxRequestBodyValue tl limit else return body

/-- The loop goes on while the cursor is below the limit. -/
def unpackTxRequestLoop (limit : ℕ) : (bound : ℕ) → TxRequestBody → Pull TxRequestBody
  | 0, _ => crash .diverge
  | bound + 1, body => do
    let pos ← position
    if pos < limit then
      let body ← unpackTxRequestTlv limit body
      unpackTxRequestLoop limit bound body
    else
      return body

def unpackTxRequest (header : P7MessageHeader) (limit : ℕ) : Pull TxRequest := do
  let sfnSf ← pull16 limit
  let start ← position
  let txRequestBody ← unpackTxRequestLoop limit (limit - start + 1) {}
  return { header, sfnSf, txRequestBody }

/-- `nfapi_p7_message_unpack`. -/
def unpackMessageTx : Memory → ℕ → Outcome (Option TxRequest) :=
  messageUnpack fun header limit ↦
    if header.messageId = txRequest then unpackTxRequest header limit else reject

/-! ### There and back -/

/-- The length of a PDU is that of its segments. -/
structure TxRequestPdu.Fits (pdu : TxRequestPdu) : Prop where
  segments : pdu.segments.length ≤ txMaxSegments
  length : pdu.segments.flatten.length = pdu.pduLength.toNat

/-- The body is there, with at most the maximal number of PDUs, and the extension has a tag for
extensions. -/
structure TxRequest.Fits (request : TxRequest) : Prop where
  tag : request.txRequestBody.tl.tag = txRequestBodyTag
  count : request.txRequestBody.pduList.length ≤ txMaxPdu
  pdus : ∀ pdu ∈ request.txRequestBody.pduList, pdu.Fits
  extension : ∀ extension ∈ request.vendorExtension,
    vendorExtensionMinTagValue ≤ extension.tl.tag

def txRequestPduBytes (pdu : TxRequestPdu) : List UInt8 :=
  bytes16 pdu.pduLength ++ (bytes16 pdu.pduIndex ++ pdu.segments.flatten)

def txRequestBodyBytes (body : TxRequestBody) : List UInt8 :=
  bytes16 body.pduList.length.toUInt16 ++ body.pduList.flatMap txRequestPduBytes

def VendorExtension.bytes (extension : VendorExtension) : List UInt8 :=
  fieldBytes extension.tl.tag extension.value

/-- The extension is the last part of a message. -/
def TxRequest.extensionBytes (request : TxRequest) : List UInt8 :=
  match request.vendorExtension with
  | none => []
  | some extension => extension.bytes

/-- A PDU on the other side, with all its data in one segment. -/
def TxRequestPdu.arrived (pdu : TxRequestPdu) : TxRequestPdu :=
  { pdu with segments := [pdu.segments.flatten] }

/-- The body on the other side. -/
def TxRequestBody.arrived (body : TxRequestBody) : TxRequestBody where
  tl := ⟨txRequestBodyTag, (txRequestBodyBytes body).length.toUInt16⟩
  pduList := body.pduList.map TxRequestPdu.arrived

/-- The request on the other side, behind this header. -/
def TxRequest.arrived (request : TxRequest) (header : P7MessageHeader) : TxRequest where
  header
  sfnSf := request.sfnSf
  txRequestBody := request.txRequestBody.arrived

/-- The packed message is unpacked to the request. -/
def TxRequest.Survives (request : TxRequest) (packed : List UInt8) : Prop :=
  unpackMessageTx (memoryOf packed) packed.length = .ok (some (request.arrived
    (packedHeader { request.header with messageId := txRequest } packed.length.toUInt16)))

/-- The iteration of the loop that finds the extension leaves the body as it is, and ends behind the
extension, where the message ends. -/
def TxRequest.SkipsExtension (request : TxRequest) (packed : List UInt8) : Prop :=
  ∀ extension ∈ request.vendorExtension, ∀ body,
    unpackTxRequestTlv packed.length body (memoryOf packed)
      (packed.length - extension.bytes.length) = .ok (body, packed.length)

section Codec

variable {limit : ℕ} {pdu : TxRequestPdu} {body : TxRequestBody} {request : TxRequest}
  {packed : List UInt8}

theorem TxRequestPdu.Fits.segment (hfits : pdu.Fits) {segment : List UInt8}
    (hsegment : segment ∈ pdu.segments) : segment.length ≤ 65535 := by
  have hle := (List.sublist_flatten_of_mem hsegment).length_le
  have hlength := hfits.length
  have hlt := pdu.pduLength.toNat_lt
  omega

theorem emits_packTxRequestPdu (hfits : pdu.Fits) :
    Emits limit (packTxRequestPdu limit pdu) (txRequestPduBytes pdu) := by
  have hsegments := @emits_forEach limit _
    (fun segment ↦ pusharray8 segment 65535 segment.length limit) id pdu.segments
    fun segment hsegment ↦ emits_pusharray8 rfl (hfits.segment hsegment)
  rw [List.flatMap_id] at hsegments
  unfold packTxRequestPdu txRequestPduBytes
  infer_instance

theorem emits_packTxRequestBodyValue (hfits : ∀ pdu ∈ body.pduList, pdu.Fits) :
    Emits limit (packTxRequestBodyValue limit body) (txRequestBodyBytes body) := by
  have hpdus := emits_forEach fun pdu hpdu ↦ @emits_packTxRequestPdu limit pdu (hfits pdu hpdu)
  unfold packTxRequestBodyValue txRequestBodyBytes
  infer_instance

theorem emits_packP7VendorExtensionTlv (limit : ℕ) (request : TxRequest) :
    Emits limit (packP7VendorExtensionTlv limit request.vendorExtension)
      request.extensionBytes := by
  unfold TxRequest.extensionBytes
  cases request.vendorExtension with
  | none => exact (inferInstance : Emits limit (pure ()) [])
  | some extension =>
    have hvalue := @emits_forEach limit _ (push8 limit) (fun byte ↦ [byte]) extension.value
      fun _ _ ↦ inferInstance
    rw [List.flatMap_singleton'] at hvalue
    have htlv := @emits_packTlv limit _ _ extension.tl.tag extension.tl fun _ ↦ hvalue
    rwa [tlvBytes_of_tag rfl] at htlv

theorem TxRequest.Fits.emits (hfits : request.Fits) :
    Emits limit (packTxRequest limit request)
      (lteIndicationBytes txRequestBodyTag request.sfnSf
        (txRequestBodyBytes request.txRequestBody) ++ request.extensionBytes) := by
  have hbody := @emits_packTxRequestBodyValue limit _ hfits.pdus
  have htag : (⟨request.sfnSf, request.txRequestBody.tl⟩ : LteFrame).tl.tag = txRequestBodyTag :=
    hfits.tag
  have hmessage := emits_packLteIndication htag hbody
  have hextension := emits_packP7VendorExtensionTlv limit request
  unfold packTxRequest
  infer_instance

theorem reads_unpackTxRequestPdu (pdu : TxRequestPdu) (hfits : pdu.Fits) :
    Reads limit (unpackTxRequestPdu limit) (txRequestPduBytes pdu) pdu.arrived := by
  unfold unpackTxRequestPdu txRequestPduBytes TxRequestPdu.arrived
  apply Reads.bind (reads_pull16 limit pdu.pduLength)
  apply Reads.bind (reads_pull16 limit pdu.pduIndex)
  have hlength := hfits.length
  by_cases hzero : pdu.pduLength = 0
  · rw [hzero] at hlength
    have hempty : pdu.segments.flatten = [] := List.length_eq_zero_iff.mp hlength
    rw [if_pos hzero, hempty]
    exact reads_pure limit _
  · rw [if_neg hzero]
    exact (reads_pullarray8 hlength (Nat.le_refl _)).map

theorem reads_unpackTxRequestBodyValue (hcount : body.pduList.length ≤ txMaxPdu)
    (hfits : ∀ pdu ∈ body.pduList, pdu.Fits) (tl : Tl) :
    Reads limit (unpackTxRequestBodyValue tl limit) (txRequestBodyBytes body)
      ⟨tl, body.pduList.map TxRequestPdu.arrived⟩ := by
  have hnumber : body.pduList.length.toUInt16.toNat = body.pduList.length :=
    toNat_number16 (Nat.lt_of_le_of_lt hcount (by decide))
  unfold unpackTxRequestBodyValue txRequestBodyBytes
  apply Reads.bind (reads_pull16 limit body.pduList.length.toUInt16)
  rw [hnumber]
  apply reads_ensure hcount
  exact (reads_repeatPull fun pdu hpdu ↦ reads_unpackTxRequestPdu pdu (hfits pdu hpdu)).map

/-- The iteration that finds the body. -/
theorem reads_unpackTxRequestTlv (hcount : body.pduList.length ≤ txMaxPdu)
    (hfits : ∀ pdu ∈ body.pduList, pdu.Fits) (previous : TxRequestBody) :
    Reads limit (unpackTxRequestTlv limit previous)
      (fieldBytes txRequestBodyTag (txRequestBodyBytes body)) body.arrived := by
  unfold unpackTxRequestTlv fieldBytes
  rw [← List.append_assoc]
  apply Reads.bind
    (reads_unpackTl limit ⟨txRequestBodyTag, (txRequestBodyBytes body).length.toUInt16⟩)
  rw [if_pos rfl]
  exact reads_unpackTxRequestBodyValue hcount hfits _

/-- The iteration that finds another tag ends behind the length. -/
theorem unpackTxRequestTlv_other {tl : Tl} (htag : tl.tag ≠ txRequestBodyTag) :
    Reads limit (unpackTxRequestTlv limit body) (bytes16 tl.tag ++ bytes16 tl.length) body := by
  unfold unpackTxRequestTlv
  rw [← List.append_nil (bytes16 tl.tag ++ bytes16 tl.length)]
  apply Reads.bind (reads_unpackTl limit tl)
  rw [if_neg htag]
  exact reads_pure limit _

/-! The loop. -/

variable {mem : Memory} {pos bound : ℕ}

/-- An iteration whose tag and value are read. -/
theorem unpackTxRequestLoop_step {bytes : List UInt8} {body' : TxRequestBody}
    (hread : Reads limit (unpackTxRequestTlv limit body) bytes body') (hholds : Holds mem pos bytes)
    (hsome : 0 < bytes.length) (hlimit : pos + bytes.length ≤ limit) :
    unpackTxRequestLoop limit (bound + 1) body mem pos =
      unpackTxRequestLoop limit bound body' mem (pos + bytes.length) := by
  have hposition : Pull.position mem pos = .ok (pos, pos) := rfl
  have hpos : pos < limit := by omega
  rw [unpackTxRequestLoop, Pull.bind_of_ok hposition, if_pos hpos,
    Pull.bind_of_ok (hread mem pos hholds hlimit)]

/-- The end of the loop. -/
theorem unpackTxRequestLoop_done :
    unpackTxRequestLoop limit (bound + 1) body mem limit = .ok (body, limit) := by
  have hposition : Pull.position mem limit = .ok (limit, limit) := rfl
  rw [unpackTxRequestLoop, Pull.bind_of_ok hposition, if_neg (Nat.lt_irrefl limit)]
  rfl

/-- The bytes of an extension without a value. -/
theorem VendorExtension.bytes_of_nil {extension : VendorExtension} (hempty : extension.value = []) :
    extension.bytes = bytes16 extension.tl.tag ++ bytes16 0 := by
  rw [VendorExtension.bytes, fieldBytes, hempty, List.append_nil]
  rfl

theorem TxRequest.Fits.other_tag (hfits : request.Fits) {extension : VendorExtension}
    (hextension : extension ∈ request.vendorExtension) :
    extension.tl.tag ≠ txRequestBodyTag := by
  intro htag
  have hmin := hfits.extension extension hextension
  rw [htag] at hmin
  exact absurd hmin (by decide)

/-- A request is read to the end if its extension has no value. -/
theorem completes_unpackTxRequest (hfits : request.Fits) (header : P7MessageHeader)
    (hempty : ∀ extension ∈ request.vendorExtension, extension.value = []) :
    Completes limit (unpackTxRequest header limit)
      (lteIndicationBytes txRequestBodyTag request.sfnSf
        (txRequestBodyBytes request.txRequestBody) ++ request.extensionBytes)
      (request.arrived header) := by
  have hbody := fun previous ↦
    @reads_unpackTxRequestTlv limit _ hfits.count hfits.pdus previous
  have hfour := length_fieldBytes txRequestBodyTag (txRequestBodyBytes request.txRequestBody)
  unfold lteIndicationBytes
  rw [List.append_assoc]
  apply Completes.after (reads_pull16 limit request.sfnSf)
  intro mem pos hholds hlimit
  rw [holds_append] at hholds
  rw [List.length_append] at hlimit
  have hposition : Pull.position mem pos = .ok (pos, pos) := rfl
  obtain ⟨bound, hbound⟩ : ∃ bound, limit - pos + 1 = bound + 1 + 1 + 1 :=
    ⟨limit - pos - 2, by omega⟩
  have hloop : unpackTxRequestLoop limit (limit - pos + 1) {} mem pos =
      .ok (request.txRequestBody.arrived, limit) := by
    rw [hbound, unpackTxRequestLoop_step (hbody {}) hholds.1 (by omega) (by omega)]
    have hrest := hholds.2
    unfold TxRequest.extensionBytes at hrest hlimit
    cases hextension : request.vendorExtension with
    | none =>
      rw [hextension, List.length_nil, Nat.add_zero] at hlimit
      rw [hlimit]
      exact unpackTxRequestLoop_done
    | some extension =>
      rw [hextension] at hrest hlimit
      dsimp only at hrest hlimit
      rw [VendorExtension.bytes_of_nil (hempty extension hextension)] at hrest hlimit
      have htag := hfits.other_tag hextension
      have hother := @unpackTxRequestTlv_other limit request.txRequestBody.arrived
        ⟨extension.tl.tag, 0⟩ htag
      rw [unpackTxRequestLoop_step hother hrest (Nat.zero_lt_succ 3) (by dsimp only; omega),
        Nat.add_assoc, hlimit]
      exact unpackTxRequestLoop_done
  rw [Pull.bind_of_ok hposition, Pull.bind_of_ok hloop]
  rfl

/-- In a packed message, the extension stands at the end. -/
theorem TxRequest.Fits.holds_extension (hfits : request.Fits)
    (hpacked : packMessageTx limit request = .ok (some packed)) {extension : VendorExtension}
    (hextension : request.vendorExtension = some extension) :
    Holds (memoryOf packed) (packed.length - extension.bytes.length) extension.bytes ∧
      extension.bytes.length ≤ packed.length := by
  obtain ⟨-, hbytes⟩ := packMessage_of_writes_eq_some hfits.emits.writes hpacked
  rw [TxRequest.extensionBytes, hextension, ← List.append_assoc] at hbytes
  dsimp only at hbytes
  obtain ⟨front, rfl⟩ : ∃ front, packed = front ++ extension.bytes := ⟨_, hbytes⟩
  have hholds := holds_memoryOf front extension.bytes []
  rw [List.append_nil] at hholds
  rw [List.length_append, Nat.add_sub_cancel]
  exact ⟨hholds, Nat.le_add_left _ _⟩

/-- The iteration that finds the extension ends behind its length. -/
theorem TxRequest.Fits.unpack_extension (hfits : request.Fits)
    (hpacked : packMessageTx limit request = .ok (some packed)) {extension : VendorExtension}
    (hextension : request.vendorExtension = some extension) (body : TxRequestBody) :
    unpackTxRequestTlv packed.length body (memoryOf packed)
      (packed.length - extension.bytes.length) =
        .ok (body, packed.length - extension.bytes.length + 4) := by
  obtain ⟨hholds, hle⟩ := hfits.holds_extension hpacked hextension
  have hlength := length_fieldBytes extension.tl.tag extension.value
  have htag : extension.tl.tag ≠ txRequestBodyTag := hfits.other_tag hextension
  have hread := @unpackTxRequestTlv_other packed.length body
    ⟨extension.tl.tag, extension.value.length.toUInt16⟩ htag
  unfold VendorExtension.bytes at hholds hle ⊢
  rw [fieldBytes, ← List.append_assoc, holds_append] at hholds
  have hfour : (bytes16 extension.tl.tag ++ bytes16 extension.value.length.toUInt16).length = 4 :=
    rfl
  exact hread _ _ hholds.1 (by dsimp only; omega)

/-- A packed TX request comes back with the same PDUs, and what stands behind its body is skipped,
exactly if it has no extension or one without a value. -/
theorem txRequest_intact_iff (request : TxRequest) (limit : ℕ) (packed : List UInt8)
    (hfits : request.Fits) (hpacked : packMessageTx limit request = .ok (some packed)) :
    request.Survives packed ∧ request.SkipsExtension packed ↔
      ∀ extension ∈ request.vendorExtension, extension.value = [] := by
  constructor
  · rintro ⟨-, hskips⟩ extension hextension
    have hend := (hfits.unpack_extension hpacked hextension {}).symm.trans
      (hskips extension hextension {})
    have hplace : packed.length - extension.bytes.length + 4 = packed.length := by
      injection hend with hpair
      exact congrArg Prod.snd hpair
    have hle := (hfits.holds_extension hpacked hextension).2
    have hlength := length_fieldBytes extension.tl.tag extension.value
    rw [← VendorExtension.bytes] at hlength
    exact List.length_eq_zero_iff.mp (by omega)
  · intro hempty
    constructor
    · apply messageUnpack_of_writes_of_completes hfits.emits.writes hpacked
      exact completes_unpackTxRequest hfits _ hempty
    · intro extension hextension body
      rw [hfits.unpack_extension hpacked hextension]
      have hle := (hfits.holds_extension hpacked hextension).2
      have hlength := length_fieldBytes extension.tl.tag extension.value
      rw [← VendorExtension.bytes, hempty extension hextension, List.length_nil] at hlength
      rw [hlength] at hle ⊢
      rw [Nat.sub_add_cancel hle]

end Codec

/-- A request of one PDU with three bytes in two segments, and an extension with this value. -/
def threeBytes (value : List UInt8) : TxRequest where
  header := {}
  sfnSf := 21
  txRequestBody := ⟨⟨txRequestBodyTag, 0⟩, [⟨3, 0, [[1, 2], [3]]⟩]⟩
  vendorExtension := some ⟨⟨0xF000, 0⟩, value⟩

theorem threeBytes_fits (value : List UInt8) : (threeBytes value).Fits := by
  refine ⟨rfl, Nat.le_of_ble_eq_true rfl, fun pdu hpdu ↦ ?_, fun extension hextension ↦ ?_⟩
  · obtain rfl := List.mem_singleton.mp hpdu
    exact ⟨Nat.le_of_ble_eq_true rfl, rfl⟩
  · obtain rfl := Option.mem_some_iff.mp hextension
    exact UInt16.le_refl _

theorem threeBytes_intact_iff : ∃ packed,
    packMessageTx 100 (threeBytes []) = .ok (some packed) ∧
      ((threeBytes []).Survives packed ∧ (threeBytes []).SkipsExtension packed ↔
        ∀ extension ∈ (threeBytes []).vendorExtension, extension.value = []) :=
  ⟨_, rfl, txRequest_intact_iff (threeBytes []) 100 _ (threeBytes_fits []) rfl⟩

/-- With an extension of one byte, the request is not accepted. -/
theorem threeBytes_not_intact : (threeBytes [0]).Fits ∧ ∃ packed,
    packMessageTx 100 (threeBytes [0]) = .ok (some packed) ∧
      ¬ ((threeBytes [0]).Survives packed ∧ (threeBytes [0]).SkipsExtension packed) := by
  refine ⟨threeBytes_fits [0], _, rfl, fun hintact ↦ ?_⟩
  have hnone := hintact.1
  cases hnone

end MultiUeProxy.P7.LteTxRequest
