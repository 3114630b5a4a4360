import MultiUeProxy.P7.NrDownlink
import MultiUeProxy.P7.NrUlTti

/-!
# The NR downlink messages

The four requests that a gNB sends for a slot, as messages of `nfapi_nr_p7_message_pack` and
`nfapi_nr_p7_message_unpack`: the switches over the message id with a case for each of them.

A request as it arrives is not always the one that was sent, but packing it gives the same bytes
once more (`NrRequest.Good.arrived`): what is lost on the way is not in the bytes. So a message
that is unpacked and packed again is the one that came, but for its length and its checksum, which
the encoder writes anew (`repacked_of_good`).
-/

set_option autoImplicit false
set_option relaxedAutoImplicit false

namespace MultiUeProxy.P7.NrRequests

open Lib.Execution Lib.ByteCursor Lib.ByteWriter Lib.Codec Lib.InPlace Header Pack DciCodec NrPdcch
  NrDlTti NrDownlink NrUlTti NrTxData

/-! ### Packing what arrived -/

/-- Elements that have the same bytes one by one have them in a list. -/
theorem flatMap_map_of_eq {α β : Type} {f : α → α} {g : α → List β} {list : List α}
    (h : ∀ a ∈ list, g (f a) = g a) : (list.map f).flatMap g = list.flatMap g := by
  induction list with
  | nil => rfl
  | cons a list ih =>
    obtain ⟨hfirst, hrest⟩ := List.forall_mem_cons.mp h
    rw [List.map_cons, List.flatMap_cons, List.flatMap_cons, hfirst, ih hrest]

/-- The bits above a payload are not in its bytes. -/
theorem dciBytes_lowBits {payload : DciPayload} {payloadSizeBits : UInt16}
    (hbits : payloadSizeBits.toNat ≤ 64) :
    dciBytes (lowBits payload payloadSizeBits) payloadSizeBits =
      dciBytes payload payloadSizeBits := by
  have hnumber : Lib.LittleEndian.numberOf
      (dciBytes (lowBits payload payloadSizeBits) payloadSizeBits).reverse =
      Lib.LittleEndian.numberOf (dciBytes payload payloadSizeBits).reverse := by
    rw [numberOf_dciBytes hbits, numberOf_dciBytes hbits, toNat_lowBits hbits, Nat.mod_mod]
  apply List.reverse_inj.mp
  rw [← Lib.LittleEndian.bytesOf_numberOf (dciBytes payload payloadSizeBits).reverse, ← hnumber,
    List.length_reverse, length_dciBytes hbits,
    ← @length_dciBytes (lowBits payload payloadSizeBits) payloadSizeBits hbits,
    ← List.length_reverse, Lib.LittleEndian.bytesOf_numberOf]

theorem packedDci_arrived {dci : DlDciPdu} (hbits : dci.payloadSizeBits.toNat ≤ 64) :
    packedDci dci.arrived = packedDci dci := by
  show itemsBytes (dciItems dci) ++
    dciBytes (lowBits dci.payload dci.payloadSizeBits) dci.payloadSizeBits = _
  rw [dciBytes_lowBits hbits]
  rfl

theorem fits_pdcch_arrived {pdu : PdcchPdu} (hfits : pdu.Fits) : pdu.arrived.Fits := by
  constructor
  · exact hfits.resources
  · show (pdu.dciPdu.map DlDciPdu.arrived).length = pdu.numDlDci.toNat
    rw [List.length_map, hfits.number]
  · exact hfits.number_le
  · intro dci hdci
    obtain ⟨sent, hsent, rfl⟩ := List.mem_map.mp hdci
    exact hfits.payloads sent hsent

theorem pdcchBytes_arrived {pdu : PdcchPdu} (hfits : pdu.Fits) :
    pdcchBytes pdu.arrived = pdcchBytes pdu := by
  show itemsBytes (pdcchItems pdu) ++ (pdu.dciPdu.map DlDciPdu.arrived).flatMap packedDci = _
  rw [flatMap_map_of_eq fun dci hdci ↦ packedDci_arrived (hfits.payloads dci hdci)]
  rfl

theorem pdschBytes_arrived (pdu : PdschPdu) : pdschBytes pdu.arrived = pdschBytes pdu := by
  have hptrs : ptrsItems pdu.arrived = ptrsItems pdu := by
    unfold ptrsItems
    by_cases h : pdu.HasPtrs
    · have hsame : pdu.arrived.HasPtrs := h
      have hused : pdu.arrived.ptrs = pdu.ptrs := if_pos h
      rw [if_pos h, if_pos hsame, hused]
    · have hsame : ¬ pdu.arrived.HasPtrs := h
      rw [if_neg h, if_neg hsame]
  unfold pdschBytes
  rw [hptrs]
  rfl

/-- What arrives of a PDU fits as well, and has the same bytes. -/
theorem dlTtiBody_arrived {body : DlTtiBody} (hfits : body.Fits) :
    body.arrived.Fits ∧ body.arrived.pduType = body.pduType ∧
      body.arrived.bytes = body.bytes := by
  cases body with
  | pdcch pdu =>
    have hpdu : pdu.Fits := hfits
    exact ⟨fits_pdcch_arrived hpdu, rfl, pdcchBytes_arrived hpdu⟩
  | pdsch pdu =>
    have hpdu : pdu.Fits := hfits
    refine ⟨?_, rfl, pdschBytes_arrived pdu⟩
    exact { number := hpdu.number, number_le := hpdu.number_le, bitmap := hpdu.bitmap,
            precoding := hpdu.precoding }
  | csiRs pdu => exact ⟨hfits, rfl, rfl⟩
  | ssb pdu =>
    have hpdu : pdu.Fits := hfits
    refine ⟨?_, rfl, rfl⟩
    exact { payload := hpdu.payload, precoding := hpdu.precoding }
  | other pduType unknown => cases hfits

section Requests

theorem dlTti_arrived {request : DlTtiRequest} (hfits : request.Fits) :
    request.arrived.Fits ∧ dlTtiBytes request.arrived = dlTtiBytes request := by
  constructor
  · constructor
    · show (request.dlTtiPduList.map DlTtiPdu.arrived).length = request.nPdus.toNat
      rw [List.length_map, hfits.pdus]
    · exact hfits.pdus_le
    · intro pdu hpdu
      obtain ⟨sent, hsent, rfl⟩ := List.mem_map.mp hpdu
      exact (dlTtiBody_arrived (hfits.bodies sent hsent)).1
    · exact hfits.groups
    · exact hfits.ues
    · exact hfits.ues_le
  · have hpdu : ∀ pdu ∈ request.dlTtiPduList, pdu.arrived.bytes = pdu.bytes := by
      intro pdu hmem
      obtain ⟨-, htype, hbytes⟩ := dlTtiBody_arrived (hfits.bodies pdu hmem)
      show sizedBytes pdu.body.arrived.pduType pdu.body.arrived.bytes = _
      rw [htype, hbytes]
      rfl
    show itemsBytes (dlTtiItems request) ++
      (request.dlTtiPduList.map DlTtiPdu.arrived).flatMap DlTtiPdu.bytes = _
    rw [flatMap_map_of_eq hpdu]
    rfl

theorem ulDci_arrived {request : UlDciRequest} (hfits : request.Fits) :
    request.arrived.Fits ∧ ulDciBytes request.arrived = ulDciBytes request := by
  constructor
  · constructor
    · show (request.ulDciPduList.map UlDciPdu.arrived).length = request.numPdus.toNat
      rw [List.length_map, hfits.pdus]
    · exact hfits.pdus_le
    · intro pdu hpdu
      obtain ⟨sent, hsent, rfl⟩ := List.mem_map.mp hpdu
      exact fits_pdcch_arrived (hfits.bodies sent hsent)
  · have hpdu : ∀ pdu ∈ request.ulDciPduList, pdu.arrived.bytes = pdu.bytes := by
      intro pdu hmem
      show sizedBytes pdu.pduType (pdcchBytes pdu.pdcchPdu.arrived) = _
      rw [pdcchBytes_arrived (hfits.bodies pdu hmem)]
      rfl
    show itemsBytes (ulDciItems request) ++
      (request.ulDciPduList.map UlDciPdu.arrived).flatMap UlDciPdu.bytes = _
    rw [flatMap_map_of_eq hpdu]
    rfl

/-- The counts that the encoder stores are those of the PDUs, which have not changed. -/
theorem counted_content (request : UlTtiRequest) :
    request.content.counted = request.content := by
  have hcount : ∀ pduType, countOf pduType request.content = countOf pduType request := by
    intro pduType
    unfold countOf
    show UInt8.ofNat (((request.pdusList.map UlTtiPdu.content).take request.nPdus.toNat).countP
      fun pdu ↦ pdu.body.pduType = pduType) = _
    rw [← List.map_take, List.countP_map]
    rfl
  unfold UlTtiRequest.counted
  rw [hcount, hcount]
  rfl

theorem ulTti_content {request : UlTtiRequest} (hfits : request.Fits) :
    request.content.Fits ∧ ulTtiBytes request.content = ulTtiBytes request := by
  constructor
  · constructor
    · show (request.pdusList.map UlTtiPdu.content).length = request.nPdus.toNat
      rw [List.length_map, hfits.pdus]
    · intro pdu hpdu
      obtain ⟨sent, hsent, rfl⟩ := List.mem_map.mp hpdu
      exact hfits.bodies sent hsent
    · exact hfits.groups
    · exact hfits.groups_le
    · exact hfits.ues
    · exact hfits.ues_le
  · have hpdus : request.content.pdusList.flatMap UlTtiPdu.bytes =
        request.pdusList.flatMap UlTtiPdu.bytes :=
      flatMap_map_of_eq fun pdu _ ↦ rfl
    unfold ulTtiBytes
    rw [counted_content, hpdus]
    rfl

theorem tlvBytes_arrived (tlv : TxDataRequestTlv) :
    tlvBytes tlv.arrived = tlvBytes tlv := by
  show bytes16 tlv.tag ++ (bytes16 tlv.length ++
    wordBytes ((tlv.value.take tlv.words).take tlv.words)) = _
  rw [List.take_take, Nat.min_self]
  rfl

theorem pduBytes_arrived (pdu : NrPdu) : pduBytes pdu.arrived = pduBytes pdu := by
  show bytes16 pdu.pduLength ++ (bytes16 pdu.pduIndex ++
    (bytes32 (pdu.tlvs.map TxDataRequestTlv.arrived).length.toUInt32 ++
      (pdu.tlvs.map TxDataRequestTlv.arrived).flatMap tlvBytes)) = _
  rw [List.length_map, flatMap_map_of_eq fun tlv _ ↦ tlvBytes_arrived tlv]
  rfl

theorem requestBytes_arrived (request : TxDataRequest) :
    requestBytes request.arrived = requestBytes request := by
  show bytes16 request.sfn ++ (bytes16 request.slot ++
    (bytes16 (request.pduList.map NrPdu.arrived).length.toUInt16 ++
      (request.pduList.map NrPdu.arrived).flatMap pduBytes)) = _
  rw [List.length_map, flatMap_map_of_eq fun pdu _ ↦ pduBytes_arrived pdu]
  rfl

/-- The bytes of a payload that is not behind a pointer are all in the words that were moved. -/
theorem fits_tlv_arrived {tlv : TxDataRequestTlv} (hfits : tlv.Fits)
    (hinline : tlv.Inline) : tlv.arrived.Fits := by
  have hcovered := hinline.covered hfits
  refine ⟨hfits.1, ?_⟩
  show tlv.length.toNat ≤ 4 * (tlv.value.take tlv.words).length
  rw [length_take_words hcovered]
  unfold TxDataRequestTlv.words
  rcases hfits.1 with htag | htag
  · rw [if_pos htag]
    omega
  · rw [hinline htag]
    exact Nat.zero_le _

theorem txData_arrived {request : TxDataRequest} (hfits : request.Fits)
    (hinline : request.Inline) : request.arrived.Fits ∧ request.arrived.Inline := by
  have hpdu : ∀ pdu ∈ request.arrived.pduList, ∃ sent ∈ request.pduList, sent.arrived = pdu :=
    fun pdu hmem ↦ List.mem_map.mp hmem
  have htlv : ∀ pdu : NrPdu, ∀ tlv ∈ pdu.arrived.tlvs, ∃ sent ∈ pdu.tlvs, sent.arrived = tlv :=
    fun pdu tlv hmem ↦ List.mem_map.mp hmem
  constructor
  · constructor
    · show (request.pduList.map NrPdu.arrived).length ≤ maxTxRequestPdus
      rw [List.length_map]
      exact hfits.pdus
    · intro pdu hmem
      obtain ⟨sent, hsent, rfl⟩ := hpdu pdu hmem
      show (sent.tlvs.map TxDataRequestTlv.arrived).length ≤ maxTxRequestTlv
      rw [List.length_map]
      exact hfits.tlvs sent hsent
    · intro pdu hmem tlv hmem'
      obtain ⟨sent, hsent, rfl⟩ := hpdu pdu hmem
      obtain ⟨first, hfirst, rfl⟩ := htlv sent tlv hmem'
      exact fits_tlv_arrived (hfits.payloads sent hsent first hfirst)
        (hinline sent hsent first hfirst)
  · intro pdu hmem tlv hmem'
    obtain ⟨sent, hsent, rfl⟩ := hpdu pdu hmem
    obtain ⟨first, hfirst, rfl⟩ := htlv sent tlv hmem'
    exact hinline sent hsent first hfirst

end Requests

/-! ### The messages -/

/-- What is in a message of one of the four ids. -/
inductive NrRequest where
  | slot (request : DownlinkRequest)
  | ulTti (request : UlTtiRequest)
  | txData (request : TxDataRequest)

namespace NrRequest

def messageId : NrRequest → UInt16
  | slot request => request.messageId
  | ulTti _ => nrUlTtiRequest
  | txData _ => nrTxDataRequest

def sfn : NrRequest → UInt16
  | slot (.dlTti request) => request.sfn
  | slot (.ulDci request) => request.sfn
  | ulTti request => request.sfn
  | txData request => request.sfn

def slotNumber : NrRequest → UInt16
  | slot (.dlTti request) => request.slot
  | slot (.ulDci request) => request.slot
  | ulTti request => request.slot
  | txData request => request.slot

/-- The switch over the message id. -/
def pack (limit : ℕ) : NrRequest → Push Unit
  | slot request => request.pack limit
  | ulTti request => packUlTtiRequest limit request
  | txData request => packTxDataRequest limit request

/-- A request that its decoder reads: the counts fit the arrays, a DL_TTI request has no groups, the
PDUs of a UL_TTI request are SRS PDUs, and no payload of a TX_DATA request is behind a pointer. -/
def Good : NrRequest → Prop
  | slot request => request.Fits ∧ request.Ungrouped
  | ulTti request => request.Fits ∧ request.Carried
  | txData request => request.Fits ∧ request.Inline

/-- The request as it is decoded. -/
def arrived : NrRequest → NrRequest
  | slot request => slot request.arrived
  | ulTti request => ulTti request.content
  | txData request => txData request.arrived

def bytes : NrRequest → List UInt8
  | slot request => request.bytes
  | ulTti request => ulTtiBytes request
  | txData request => requestBytes request

end NrRequest

/-- A message with a request, in the structure of its id. -/
structure NrMessage where
  header : P7MessageHeader
  request : NrRequest
  isRequest : header.messageId = request.messageId

/-- `nfapi_nr_p7_message_pack`. -/
def nrP7MessagePack (limit : ℕ) (message : NrMessage) : Outcome (Option (List UInt8)) :=
  packMessage (message.request.pack limit) limit message.header

/-- The switch over the message id, as far as the requests go. The structure that is filled in has
been set to zero. -/
def unpackNrMessage (stack : Stack) (header : P7MessageHeader) (limit : ℕ) : Pull NrMessage :=
  if hid : header.messageId = nrDlTtiRequest then
    (fun request ↦ ⟨header, .slot (.dlTti request), hid⟩) <$>
      (unpackDlTtiRequest stack limit).toPull default
  else if hid : header.messageId = nrUlTtiRequest then
    (fun request ↦ ⟨header, .ulTti request, hid⟩) <$> unpackUlTtiRequest limit
  else if hid : header.messageId = nrUlDciRequest then
    (fun request ↦ ⟨header, .slot (.ulDci request), hid⟩) <$>
      (unpackUlDciRequest stack.payload limit).toPull default
  else if hid : header.messageId = nrTxDataRequest then
    (fun request ↦ ⟨header, .txData request, hid⟩) <$> unpackTxDataRequest limit
  else Pull.reject

/-- `nfapi_nr_p7_message_unpack`. -/
def nrP7MessageUnpack (stack : Stack) : Memory → ℕ → Outcome (Option NrMessage) :=
  messageUnpack (unpackNrMessage stack)

namespace NrRequest

variable {limit : ℕ} {request : NrRequest}

theorem messageId_arrived (request : NrRequest) :
    request.arrived.messageId = request.messageId := by
  cases request with
  | slot request => cases request <;> rfl
  | ulTti request => rfl
  | txData request => rfl

theorem sfn_arrived (request : NrRequest) : request.arrived.sfn = request.sfn := by
  cases request with
  | slot request => cases request <;> rfl
  | ulTti request => rfl
  | txData request => rfl

theorem slotNumber_arrived (request : NrRequest) :
    request.arrived.slotNumber = request.slotNumber := by
  cases request with
  | slot request => cases request <;> rfl
  | ulTti request => rfl
  | txData request => rfl

/-- With enough room the encoder writes the bytes of a request. -/
theorem Good.encodes_pack (h : request.Good) :
    Encodes limit (request.pack limit) request.bytes := by
  cases request with
  | slot request => exact DownlinkRequest.encodes_pack h.1 h.2
  | ulTti request => exact encodes_packUlTti h.1
  | txData request =>
    have hcovered : request.Covered := fun pdu hpdu tlv htlv ↦
      (h.2 pdu hpdu tlv htlv).covered (h.1.payloads pdu hpdu tlv htlv)
    have hemits := emits_packTxDataRequest h.1 hcovered limit
    exact hemits.encodes

/-- What arrives is good as well, and has the bytes of what was sent. -/
theorem Good.arrived (h : request.Good) :
    request.arrived.Good ∧ request.arrived.bytes = request.bytes := by
  cases request with
  | slot request =>
    cases request with
    | dlTti request =>
      have hboth := dlTti_arrived h.1
      exact ⟨⟨hboth.1, h.2⟩, hboth.2⟩
    | ulDci request =>
      have hboth := ulDci_arrived h.1
      exact ⟨⟨hboth.1, trivial⟩, hboth.2⟩
  | ulTti request =>
    have hboth := ulTti_content h.1
    refine ⟨⟨hboth.1, ?_⟩, hboth.2⟩
    intro pdu hpdu
    obtain ⟨sent, hsent, rfl⟩ := List.mem_map.mp hpdu
    exact h.2 sent hsent
  | txData request => exact ⟨txData_arrived h.1 h.2, requestBytes_arrived request⟩

end NrRequest

section Messages

variable {limit : ℕ} {request : NrRequest} {header : P7MessageHeader}

/-- The message that is decoded. -/
def arrivedMessage (header : P7MessageHeader) (request : NrRequest)
    (hid : header.messageId = request.messageId) : NrMessage :=
  ⟨header, request.arrived, hid.trans request.messageId_arrived.symm⟩

/-- The cases are those of the switch over the message id. -/
theorem reads_unpackNrMessage (h : request.Good) (hid : header.messageId = request.messageId)
    (stack : Stack) : Reads limit (unpackNrMessage stack header limit) request.bytes
      (arrivedMessage header request hid) := by
  unfold unpackNrMessage
  cases request with
  | slot request =>
    cases request with
    | dlTti request =>
      have hdl : header.messageId = nrDlTtiRequest := hid
      rw [dif_pos hdl]
      exact (reads_toPull (fills_unpackDlTti h.1 h.2 stack)).map
    | ulDci request =>
      have hdci : header.messageId = nrUlDciRequest := hid
      rw [dif_neg (by rw [hdci]; decide), dif_neg (by rw [hdci]; decide), dif_pos hdci]
      exact (reads_toPull (fills_unpackUlDci h.1 stack.payload)).map
  | ulTti request =>
    have hul : header.messageId = nrUlTtiRequest := hid
    rw [dif_neg (by rw [hul]; decide), dif_pos hul]
    exact (reads_unpackUlTti h.1 h.2).map
  | txData request =>
    have htx : header.messageId = nrTxDataRequest := hid
    rw [dif_neg (by rw [htx]; decide), dif_neg (by rw [htx]; decide), dif_neg (by rw [htx]; decide),
      dif_pos htx]
    exact (reads_unpackTxDataRequest h.1 h.2).map

/-- A message at the beginning of a buffer is decoded, whatever is behind it. -/
theorem unpacked_of_good (h : request.Good) (hid : header.messageId = request.messageId)
    (stack : Stack) {mem : Memory} (hholds : Holds mem 0 (headerBytes header ++ request.bytes))
    (hlength : header.messageLength.toNat ≤ p7HeaderLength + request.bytes.length) :
    nrP7MessageUnpack stack mem (p7HeaderLength + request.bytes.length) =
      .ok (some (arrivedMessage header request hid)) :=
  messageUnpack_of_holds hholds (Nat.le_refl _) hlength (reads_unpackNrMessage h hid stack)

/-- The message that was unpacked is packed as it came, with its length and without a checksum. -/
theorem repacked_of_good (h : request.Good) (hid : header.messageId = request.messageId)
    (hroom : p7HeaderLength + request.bytes.length ≤ limit)
    (hlong : p7HeaderLength + request.bytes.length ≤ 0xFFFF) :
    nrP7MessagePack limit (arrivedMessage header request hid) = .ok (some
      (headerBytes (packedHeader header (p7HeaderLength + request.bytes.length).toUInt16) ++
        request.bytes)) := by
  obtain ⟨hgood, hbytes⟩ := h.arrived
  have hencodes : Encodes limit (request.arrived.pack limit) request.arrived.bytes :=
    hgood.encodes_pack
  rw [hbytes] at hencodes
  exact packMessage_of_encodes hencodes header hroom hlong

/-- A TX_DATA request that is too long for the buffer is not packed. -/
theorem not_repacked_of_txData (h : request.Good) (hid : header.messageId = request.messageId)
    (htx : ∃ txData, request = .txData txData)
    (hroom : limit < p7HeaderLength + request.bytes.length) :
    nrP7MessagePack limit (arrivedMessage header request hid) = .ok none := by
  obtain ⟨txData, rfl⟩ := htx
  obtain ⟨⟨hfits, hinline⟩, -⟩ := h.arrived
  have hcovered : txData.arrived.Covered := fun pdu hpdu tlv htlv ↦
    (hinline pdu hpdu tlv htlv).covered (hfits.payloads pdu hpdu tlv htlv)
  have hwrites := (emits_packTxDataRequest hfits hcovered limit).writes
  rw [requestBytes_arrived] at hwrites
  have hpacked := packMessage_of_writes hwrites header
  rwa [if_neg fun hboth ↦ Nat.not_lt.mpr hboth.1 hroom] at hpacked

end Messages

end MultiUeProxy.P7.NrRequests
