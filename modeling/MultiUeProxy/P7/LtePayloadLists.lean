import MultiUeProxy.Lib.MarkedOffsets
import MultiUeProxy.P7.LteFrame
import MultiUeProxy.P7.Unpack

/-!
# The LTE indications with payloads behind their PDUs

The encoders of `nfapi_p7.c` for the RX_ULSCH and CQI indications. Both write all PDUs first and
then all payloads, and each PDU has a field with the offset of its payload. Before anything is
written, the encoders put the offsets into the fields that hold the marker one; a field with
another value, such as one that was decoded from a message of a UE, stays as it is.

`payloads_intact_iff` says when such an indication comes back as it was, with right offsets in the
packed body. Apart from the offsets, there is one more way to fail: in a CQI PDU with a release 8 and
a release 9 field, the encoder takes the length of the payload from the one and the decoder from the
other.
-/

set_option autoImplicit false
set_option relaxedAutoImplicit false

namespace MultiUeProxy.P7.LteUplink

open Lib.Execution Lib.ByteCursor Lib.ByteCursor.Pull Lib.ByteWriter Lib.Codec Lib.TlvCodec Header
open Lib.MarkedOffsets Pack Unpack
open Lib.ByteWriter.Push (push8 push16 push32 pusharray8)

/-! ### The encoders -/

/-- A field that holds the marker gets the offset, which then advances by the length. -/
def fillOffset (offset field length : UInt16) : UInt16 × UInt16 :=
  if field = 1 then (offset, offset + length) else (field, offset)

/-- The bytes that a PDU takes, by the fields that it has. -/
def rxPduSize (pdu : RxIndicationPdu) : UInt16 :=
  (if pdu.rxUeInformation.tl.tag = rxUeInformationTag then 4 + 6 else 0) +
    (if pdu.rxIndicationRel8.tl.tag = rxIndicationRel8Tag then 4 + 7 else 0) +
    (if pdu.rxIndicationRel9.tl.tag = rxIndicationRel9Tag then 4 + 2 else 0)

/-- The offset of the first payload: behind the number of PDUs and the PDUs. -/
def rxDataOffset (pduList : List RxIndicationPdu) : UInt16 :=
  pduList.foldl (fun offset pdu ↦ offset + rxPduSize pdu) 2

/-- Puts the offsets into the PDUs. -/
def fillRxOffsets : (offset : UInt16) → List RxIndicationPdu → List RxIndicationPdu
  | _, [] => []
  | offset, pdu :: pduList =>
    if pdu.rxIndicationRel8.tl.tag = rxIndicationRel8Tag then
      { pdu with rxIndicationRel8 := { pdu.rxIndicationRel8 with
          offset := (fillOffset offset pdu.rxIndicationRel8.offset
            pdu.rxIndicationRel8.length).1 } } ::
        fillRxOffsets (fillOffset offset pdu.rxIndicationRel8.offset
          pdu.rxIndicationRel8.length).2 pduList
    else pdu :: fillRxOffsets offset pduList

def packRxIndicationRel8Value (limit : ℕ) (value : RxIndicationRel8) : Push Unit := do
  push16 limit value.length
  push16 limit value.offset
  push8 limit value.ulCqi
  push16 limit value.timingAdvance

def packRxIndicationRel9Value (limit : ℕ) (value : RxIndicationRel9) : Push Unit :=
  push16 limit value.timingAdvanceR9

def packRxIndicationPdu (limit : ℕ) (pdu : RxIndicationPdu) : Push Unit := do
  packTlv limit rxUeInformationTag pdu.rxUeInformation.tl
    (packRxUeInformationValue limit pdu.rxUeInformation)
  packTlv limit rxIndicationRel8Tag pdu.rxIndicationRel8.tl
    (packRxIndicationRel8Value limit pdu.rxIndicationRel8)
  packTlv limit rxIndicationRel9Tag pdu.rxIndicationRel9.tl
    (packRxIndicationRel9Value limit pdu.rxIndicationRel9)

/-- The length of the payload of a PDU. -/
def RxIndicationPdu.payloadLength (pdu : RxIndicationPdu) : UInt16 :=
  if pdu.rxIndicationRel8.tl.tag = rxIndicationRel8Tag then pdu.rxIndicationRel8.length else 0

def packRxIndData (limit : ℕ) (pdu : RxIndicationPdu) : Push Unit :=
  pusharray8 pdu.rxIndData rxIndDataMax pdu.payloadLength.toNat limit

/-- All PDUs, and then all payloads. -/
def packRxPdus (limit : ℕ) (pduList : List RxIndicationPdu) : Push Unit := do
  Push.forEach (packRxIndicationPdu limit) pduList
  Push.forEach (packRxIndData limit) pduList

/-- The number of PDUs is asserted before the offsets are filled in. -/
def packRxUlschIndicationBodyValue (limit : ℕ) (pduList : List RxIndicationPdu) : Push Unit := do
  push16 limit pduList.length.toUInt16
  if pduList.length ≤ indMaxPdu then
    packRxPdus limit (fillRxOffsets (rxDataOffset pduList) pduList)
  else Push.crash .abort

/-- The bytes that a CQI PDU takes, with its instance length. -/
def cqiPduSize (pdu : CqiIndicationPdu) : UInt16 :=
  2 + (if pdu.rxUeInformation.tl.tag = rxUeInformationTag then 4 + 6 else 0) +
    (if pdu.cqiIndicationRel8.tl.tag = cqiIndicationRel8Tag then 4 + 8 else 0) +
    (if pdu.cqiIndicationRel9.tl.tag = cqiIndicationRel9Tag then
      4 + 10 + pdu.cqiIndicationRel9.numberOfCcReported.toUInt16 else 0) +
    (if pdu.ulCqiInformation.tl.tag = ulCqiInformationTag then 4 + 2 else 0)

/-- The offset of the first payload: behind the number of PDUs and the PDUs. -/
def cqiDataOffset (entries : List CqiEntry) : UInt16 :=
  entries.foldl (fun offset entry ↦ offset + cqiPduSize entry.pdu) 2

/-- Puts the offset into the release 8 field. -/
def fillCqiRel8 (offset : UInt16) (pdu : CqiIndicationPdu) : CqiIndicationPdu × UInt16 :=
  if pdu.cqiIndicationRel8.tl.tag = cqiIndicationRel8Tag then
    ({ pdu with cqiIndicationRel8 := { pdu.cqiIndicationRel8 with
        dataOffset := (fillOffset offset pdu.cqiIndicationRel8.dataOffset
          pdu.cqiIndicationRel8.length).1 } },
      (fillOffset offset pdu.cqiIndicationRel8.dataOffset pdu.cqiIndicationRel8.length).2)
  else (pdu, offset)

/-- Puts the offset into the release 9 field. -/
def fillCqiRel9 (offset : UInt16) (pdu : CqiIndicationPdu) : CqiIndicationPdu × UInt16 :=
  if pdu.cqiIndicationRel9.tl.tag = cqiIndicationRel9Tag then
    ({ pdu with cqiIndicationRel9 := { pdu.cqiIndicationRel9 with
        dataOffset := (fillOffset offset pdu.cqiIndicationRel9.dataOffset
          pdu.cqiIndicationRel9.length).1 } },
      (fillOffset offset pdu.cqiIndicationRel9.dataOffset pdu.cqiIndicationRel9.length).2)
  else (pdu, offset)

/-- Puts the offsets into the PDUs. -/
def fillCqiOffsets : (offset : UInt16) → List CqiEntry → List CqiEntry
  | _, [] => []
  | offset, entry :: entries =>
    { entry with pdu := (fillCqiRel9 (fillCqiRel8 offset entry.pdu).2
        (fillCqiRel8 offset entry.pdu).1).1 } ::
      fillCqiOffsets (fillCqiRel9 (fillCqiRel8 offset entry.pdu).2
        (fillCqiRel8 offset entry.pdu).1).2 entries

def packCqiIndicationRel8Value (limit : ℕ) (value : CqiIndicationRel8) : Push Unit := do
  push16 limit value.length
  push16 limit value.dataOffset
  push8 limit value.ulCqi
  push8 limit value.ri
  push16 limit value.timingAdvance

def packCqiIndicationRel9Value (limit : ℕ) (value : CqiIndicationRel9) : Push Unit := do
  push16 limit value.length
  push16 limit value.dataOffset
  push8 limit value.ulCqi
  push8 limit value.numberOfCcReported
  pusharray8 value.ri ccMax value.numberOfCcReported.toNat limit
  push16 limit value.timingAdvance
  push16 limit value.timingAdvanceR9

def packCqiIndicationPdu (limit : ℕ) (entry : CqiEntry) : Push Unit :=
  packInstance limit entry.pdu.instanceLength do
    packTlv limit rxUeInformationTag entry.pdu.rxUeInformation.tl
      (packRxUeInformationValue limit entry.pdu.rxUeInformation)
    packTlv limit cqiIndicationRel8Tag entry.pdu.cqiIndicationRel8.tl
      (packCqiIndicationRel8Value limit entry.pdu.cqiIndicationRel8)
    packTlv limit cqiIndicationRel9Tag entry.pdu.cqiIndicationRel9.tl
      (packCqiIndicationRel9Value limit entry.pdu.cqiIndicationRel9)
    packTlv limit ulCqiInformationTag entry.pdu.ulCqiInformation.tl
      (packUlCqiInformationValue limit entry.pdu.ulCqiInformation)

/-- The length of the payload as the encoder takes it: that of the release 9 field, if there is
one. -/
def CqiIndicationPdu.payloadLength (pdu : CqiIndicationPdu) : UInt16 :=
  if pdu.cqiIndicationRel9.tl.tag = cqiIndicationRel9Tag then pdu.cqiIndicationRel9.length
  else if pdu.cqiIndicationRel8.tl.tag = cqiIndicationRel8Tag then pdu.cqiIndicationRel8.length
  else 0

def packCqiRaw (limit : ℕ) (entry : CqiEntry) : Push Unit :=
  pusharray8 entry.raw cqiRawMaxLen entry.pdu.payloadLength.toNat limit

/-- All PDUs, and then all payloads. -/
def packCqiPdus (limit : ℕ) (entries : List CqiEntry) : Push Unit := do
  Push.forEach (packCqiIndicationPdu limit) entries
  Push.forEach (packCqiRaw limit) entries

def packCqiIndicationBodyValue (limit : ℕ) (entries : List CqiEntry) : Push Unit := do
  push16 limit entries.length.toUInt16
  if entries.length ≤ indMaxPdu then
    packCqiPdus limit (fillCqiOffsets (cqiDataOffset entries) entries)
  else Push.crash .abort

/-! ### RX_ULSCH, there and back -/

instance : Tagged RxIndicationRel8 := ⟨(·.tl), fun value tl ↦ { value with tl }, {}⟩
instance : Tagged RxIndicationRel9 := ⟨(·.tl), fun value tl ↦ { value with tl }, {}⟩
instance : Tagged CqiIndicationRel8 := ⟨(·.tl), fun value tl ↦ { value with tl }, {}⟩
instance : Tagged CqiIndicationRel9 := ⟨(·.tl), fun value tl ↦ { value with tl }, {}⟩

def rxIndicationRel8Bytes (value : RxIndicationRel8) : List UInt8 :=
  bytes16 value.length ++ (bytes16 value.offset ++ ([value.ulCqi] ++ bytes16 value.timingAdvance))

def rxIndicationRel9Bytes (value : RxIndicationRel9) : List UInt8 := bytes16 value.timingAdvanceR9

/-- A PDU has all three fields, and a payload in its buffer, of the length in its release 8
field. -/
structure RxIndicationPdu.Fits (pdu : RxIndicationPdu) : Prop where
  ue : pdu.rxUeInformation.tl.tag = rxUeInformationTag
  rel8 : pdu.rxIndicationRel8.tl.tag = rxIndicationRel8Tag
  rel9 : pdu.rxIndicationRel9.tl.tag = rxIndicationRel9Tag
  length : pdu.rxIndData.length = pdu.rxIndicationRel8.length.toNat
  max : pdu.rxIndicationRel8.length.toNat ≤ rxIndDataMax

/-- The fields of a PDU. -/
def rxIndicationPduBytes (pdu : RxIndicationPdu) : List UInt8 :=
  fieldBytes rxUeInformationTag (rxUeInformationBytes pdu.rxUeInformation) ++
  (fieldBytes rxIndicationRel8Tag (rxIndicationRel8Bytes pdu.rxIndicationRel8) ++
  fieldBytes rxIndicationRel9Tag (rxIndicationRel9Bytes pdu.rxIndicationRel9))

/-- The number of PDUs and the PDUs. -/
def rxTableBytes (pduList : List RxIndicationPdu) : List UInt8 :=
  bytes16 pduList.length.toUInt16 ++ pduList.flatMap rxIndicationPduBytes

/-- The PDU on the other side. -/
def RxIndicationPdu.arrived (pdu : RxIndicationPdu) : RxIndicationPdu where
  rxUeInformation := sent rxUeInformationTag rxUeInformationBytes pdu.rxUeInformation
  rxIndicationRel8 := sent rxIndicationRel8Tag rxIndicationRel8Bytes pdu.rxIndicationRel8
  rxIndicationRel9 := sent rxIndicationRel9Tag rxIndicationRel9Bytes pdu.rxIndicationRel9
  rxIndData := pdu.rxIndData

section Rx

variable {limit : ℕ} {pdu : RxIndicationPdu} {pduList : List RxIndicationPdu}

theorem RxIndicationPdu.Fits.payloadLength (hfits : pdu.Fits) :
    pdu.payloadLength = pdu.rxIndicationRel8.length :=
  if_pos hfits.rel8

theorem emits_packRxIndicationPdu (hfits : pdu.Fits) :
    Emits limit (packRxIndicationPdu limit pdu) (rxIndicationPduBytes pdu) := by
  have hrel8 : Emits limit (packRxIndicationRel8Value limit pdu.rxIndicationRel8)
      (rxIndicationRel8Bytes pdu.rxIndicationRel8) := by
    unfold packRxIndicationRel8Value rxIndicationRel8Bytes
    infer_instance
  have hrel9 : Emits limit (packRxIndicationRel9Value limit pdu.rxIndicationRel9)
      (rxIndicationRel9Bytes pdu.rxIndicationRel9) := by
    unfold packRxIndicationRel9Value rxIndicationRel9Bytes
    infer_instance
  unfold packRxIndicationPdu rxIndicationPduBytes
  rw [← tlvBytes_of_tag hfits.ue, ← tlvBytes_of_tag hfits.rel8, ← tlvBytes_of_tag hfits.rel9]
  infer_instance

theorem emits_packRxIndData (hfits : pdu.Fits) :
    Emits limit (packRxIndData limit pdu) pdu.rxIndData := by
  unfold packRxIndData
  rw [hfits.payloadLength]
  exact emits_pusharray8 hfits.length hfits.max

theorem emits_packRxPdus (hfits : ∀ pdu ∈ pduList, pdu.Fits) :
    Emits limit (packRxPdus limit pduList)
      (pduList.flatMap rxIndicationPduBytes ++ pduList.flatMap (·.rxIndData)) := by
  have hpdus := emits_forEach fun pdu hpdu ↦ @emits_packRxIndicationPdu limit pdu (hfits pdu hpdu)
  have hdata := emits_forEach fun pdu hpdu ↦ @emits_packRxIndData limit pdu (hfits pdu hpdu)
  unfold packRxPdus
  infer_instance

/-- A tag that has to be there, and the value behind it. -/
theorem reads_expectTl {α β : Type} {tag : UInt16} {unpack : Tl → Pull α} {f : α → Pull β}
    {bytes back : List UInt8} {a : α} {b : β}
    (hvalue : Reads limit (unpack ⟨tag, bytes.length.toUInt16⟩) bytes a)
    (hback : Reads limit (f a) back b) :
    Reads limit (do
      let tl ← expectTl tag limit
      let value ← unpack tl
      f value) (fieldBytes tag bytes ++ back) b := by
  have htl : Reads limit (expectTl tag limit) (bytes16 tag ++ bytes16 bytes.length.toUInt16)
      ⟨tag, bytes.length.toUInt16⟩ := by
    intro mem pos hholds hlimit
    have hread := reads_unpackTl limit ⟨tag, bytes.length.toUInt16⟩ mem pos hholds hlimit
    unfold expectTl
    rw [Pull.bind_of_ok hread, ensure_of_true rfl]
    rfl
  have hsplit : fieldBytes tag bytes ++ back =
      (bytes16 tag ++ bytes16 bytes.length.toUInt16) ++ (bytes ++ back) := by
    simp only [fieldBytes, List.append_assoc]
  rw [hsplit]
  apply Reads.bind htl
  exact hvalue.bind hback

theorem reads_unpackRxIndicationPdu (pdu : RxIndicationPdu) (hfits : pdu.Fits) :
    Reads limit (unpackRxIndicationPdu limit) (rxIndicationPduBytes pdu)
      { pdu.arrived with rxIndData := [] } := by
  have hue : (Tagged.tl pdu.rxUeInformation).tag = rxUeInformationTag := hfits.ue
  have hrel8 : (Tagged.tl pdu.rxIndicationRel8).tag = rxIndicationRel8Tag := hfits.rel8
  have hrel9 : (Tagged.tl pdu.rxIndicationRel9).tag = rxIndicationRel9Tag := hfits.rel9
  unfold RxIndicationPdu.arrived
  rw [sent, if_pos hue, sent, if_pos hrel8, sent, if_pos hrel9]
  unfold unpackRxIndicationPdu rxIndicationPduBytes
  apply reads_expectTl (reads_unpackRxUeInformationValue _)
  have hrel8Value : Reads limit (unpackRxIndicationRel8Value
      ⟨rxIndicationRel8Tag, (rxIndicationRel8Bytes pdu.rxIndicationRel8).length.toUInt16⟩ limit)
      (rxIndicationRel8Bytes pdu.rxIndicationRel8) _ :=
    (reads_pull16 limit _).bind <| (reads_pull16 limit _).bind <| (reads_pull8 limit _).bind
      (reads_pull16 limit _).map
  apply reads_expectTl hrel8Value
  have hrel9Value : Reads limit (unpackRxIndicationRel9Value
      ⟨rxIndicationRel9Tag, (rxIndicationRel9Bytes pdu.rxIndicationRel9).length.toUInt16⟩ limit)
      (rxIndicationRel9Bytes pdu.rxIndicationRel9) _ := (reads_pull16 limit _).map
  rw [← List.append_nil (fieldBytes rxIndicationRel9Tag _)]
  apply reads_expectTl hrel9Value
  exact reads_pure limit _

theorem reads_unpackRxIndData (pdu : RxIndicationPdu) (hfits : pdu.Fits) :
    Reads limit (unpackRxIndData limit { pdu.arrived with rxIndData := [] }) pdu.rxIndData
      pdu.arrived := by
  have hrel8 : (Tagged.tl pdu.rxIndicationRel8).tag = rxIndicationRel8Tag := hfits.rel8
  have hsent : pdu.arrived.rxIndicationRel8 = Tagged.setTl pdu.rxIndicationRel8
      ⟨rxIndicationRel8Tag, (rxIndicationRel8Bytes pdu.rxIndicationRel8).length.toUInt16⟩ :=
    if_pos hrel8
  have htag : pdu.arrived.rxIndicationRel8.tl.tag = rxIndicationRel8Tag := by
    rw [hsent]
    rfl
  have hlength : pdu.arrived.rxIndicationRel8.length = pdu.rxIndicationRel8.length := by
    rw [hsent]
    rfl
  unfold unpackRxIndData
  rw [if_pos htag, hlength]
  exact (reads_pullarray8 hfits.length hfits.max).map

/-- The body of an RX_ULSCH indication with these PDUs. -/
def rxBodyBytes (pduList : List RxIndicationPdu) : List UInt8 :=
  rxTableBytes pduList ++ pduList.flatMap (·.rxIndData)

theorem emits_packRxUlschIndicationBodyValue (hcount : pduList.length ≤ indMaxPdu)
    {filled : List RxIndicationPdu} (hfilled : fillRxOffsets (rxDataOffset pduList) pduList = filled)
    (hlength : filled.length = pduList.length) (hfits : ∀ pdu ∈ filled, pdu.Fits) :
    Emits limit (packRxUlschIndicationBodyValue limit pduList) (rxBodyBytes filled) := by
  have hpdus := @emits_packRxPdus limit filled hfits
  unfold packRxUlschIndicationBodyValue rxBodyBytes rxTableBytes
  rw [if_pos hcount, hfilled, hlength, List.append_assoc]
  infer_instance

theorem reads_unpackRxIndicationBodyValue {tag : UInt16} {body : Body RxIndicationPdu}
    (hcount : pduList.length ≤ indMaxPdu) (hlength : (rxBodyBytes pduList).length < 65536)
    (hfits : ∀ pdu ∈ pduList, pdu.Fits) :
    Reads limit (unpackRxIndicationBodyValue
      ⟨tag, (rxBodyBytes pduList).length.toUInt16⟩ limit body) (rxBodyBytes pduList)
      { tl := ⟨tag, (rxBodyBytes pduList).length.toUInt16⟩, number := pduList.length
        pduList := pduList.map RxIndicationPdu.arrived } := by
  have hnumber : pduList.length.toUInt16.toNat = pduList.length :=
    toNat_number16 (Nat.lt_of_le_of_lt hcount (by decide))
  have hpdus := @reads_repeatPull limit _ _ (unpackRxIndicationPdu limit) rxIndicationPduBytes _
    pduList fun pdu hpdu ↦ reads_unpackRxIndicationPdu pdu (hfits pdu hpdu)
  have hdata := @reads_forEach limit _ _ _ (unpackRxIndData limit) _ _ _
    pduList fun pdu hpdu ↦ reads_unpackRxIndData pdu (hfits pdu hpdu)
  unfold unpackRxIndicationBodyValue
  apply reads_ensureBody (toNat_number16 hlength)
  unfold rxBodyBytes rxTableBytes
  rw [List.append_assoc]
  apply Reads.bind (reads_pull16 limit pduList.length.toUInt16)
  rw [hnumber]
  apply reads_ensure hcount
  apply Reads.bind hpdus
  exact hdata.map

/-! The PDUs after the offsets are filled in. -/

theorem fillRxOffsets_length (offset : UInt16) (pduList : List RxIndicationPdu) :
    (fillRxOffsets offset pduList).length = pduList.length := by
  induction pduList generalizing offset with
  | nil => rfl
  | cons pdu pduList ih =>
    rw [fillRxOffsets]
    split_ifs
    · rw [List.length_cons, ih, List.length_cons]
    · rw [List.length_cons, ih, List.length_cons]

theorem fillRxOffsets_fits (hfits : ∀ pdu ∈ pduList, pdu.Fits) (offset : UInt16) :
    ∀ pdu ∈ fillRxOffsets offset pduList, pdu.Fits := by
  induction pduList generalizing offset with
  | nil => exact hfits
  | cons pdu pduList ih =>
    obtain ⟨hpdu, hrest⟩ := List.forall_mem_cons.mp hfits
    rw [fillRxOffsets, if_pos hpdu.rel8, List.forall_mem_cons]
    exact ⟨⟨hpdu.ue, hpdu.rel8, hpdu.rel9, hpdu.length, hpdu.max⟩, ih hrest _⟩

/-- The payload of a PDU, with the field for its offset. -/
def RxIndicationPdu.payload (pdu : RxIndicationPdu) : Payload :=
  ⟨[pdu.rxIndicationRel8.offset], pdu.rxIndData⟩

theorem RxIndicationPdu.Fits.entry (hfits : pdu.Fits) :
    pdu.payload.entry = ⟨[pdu.rxIndicationRel8.offset], pdu.rxIndicationRel8.length⟩ := by
  unfold Payload.entry payload
  rw [hfits.length]
  simp

/-- Filling in the offsets is that of `MarkedOffsets`. -/
theorem fillRxOffsets_entries (hfits : ∀ pdu ∈ pduList, pdu.Fits) (offset : UInt16) :
    (fillRxOffsets offset pduList).map (·.payload.entry) =
      fill offset (pduList.map (·.payload.entry)) := by
  induction pduList generalizing offset with
  | nil => rfl
  | cons pdu pduList ih =>
    obtain ⟨hpdu, hrest⟩ := List.forall_mem_cons.mp hfits
    rw [fillRxOffsets, if_pos hpdu.rel8, List.map_cons, List.map_cons, ih hrest, hpdu.entry, fill,
      fillOffset]
    by_cases hmarked : pdu.rxIndicationRel8.offset = 1
    · simp [fillFields, hmarked, Payload.entry, RxIndicationPdu.payload, hpdu.length]
    · simp [fillFields, hmarked, Payload.entry, RxIndicationPdu.payload, hpdu.length]

/-- A PDU takes 27 bytes. -/
theorem length_rxIndicationPduBytes (pdu : RxIndicationPdu) :
    (rxIndicationPduBytes pdu).length = 27 := rfl

theorem length_rxTableBytes (pduList : List RxIndicationPdu) :
    (rxTableBytes pduList).length = 2 + 27 * pduList.length := by
  have hpdus : (pduList.flatMap rxIndicationPduBytes).length = 27 * pduList.length := by
    induction pduList with
    | nil => rfl
    | cons pdu pduList ih =>
      rw [List.flatMap_cons, List.length_append, ih, length_rxIndicationPduBytes, List.length_cons]
      omega
  rw [rxTableBytes, List.length_append, length_bytes16, hpdus]

/-- The first offset is the size of the PDUs. -/
theorem toNat_rxDataOffset (hcount : pduList.length ≤ indMaxPdu)
    (hfits : ∀ pdu ∈ pduList, pdu.Fits) :
    (rxDataOffset pduList).toNat = 2 + 27 * pduList.length := by
  have hsize : pduList.map (fun pdu ↦ (rxPduSize pdu).toNat) = pduList.map fun _ ↦ 27 := by
    apply List.map_congr_left
    intro pdu hpdu
    rw [rxPduSize, if_pos (hfits pdu hpdu).ue, if_pos (hfits pdu hpdu).rel8,
      if_pos (hfits pdu hpdu).rel9]
    rfl
  have hsum : (pduList.map fun pdu ↦ (rxPduSize pdu).toNat).sum = 27 * pduList.length := by
    rw [hsize, List.map_const', List.sum_replicate_nat, Nat.mul_comm]
  have htwo : (2 : UInt16).toNat = 2 := rfl
  have hmax : pduList.length ≤ 100 := hcount
  rw [rxDataOffset, toNat_foldl_add (by rw [hsum, htwo]; omega), hsum, htwo]

end Rx

/-! ### CQI, there and back -/

def cqiIndicationRel8Bytes (value : CqiIndicationRel8) : List UInt8 :=
  bytes16 value.length ++ (bytes16 value.dataOffset ++ ([value.ulCqi] ++ ([value.ri] ++
    bytes16 value.timingAdvance)))

def cqiIndicationRel9Bytes (value : CqiIndicationRel9) : List UInt8 :=
  bytes16 value.length ++ (bytes16 value.dataOffset ++ ([value.ulCqi] ++
    ([value.numberOfCcReported] ++ (value.ri ++ (bytes16 value.timingAdvance ++
      bytes16 value.timingAdvanceR9)))))

/-- The number of reported component carriers is that of the list. -/
def CqiIndicationRel9.Fits (value : CqiIndicationRel9) : Prop :=
  value.ri.length = value.numberOfCcReported.toNat ∧ value.numberOfCcReported.toNat ≤ ccMax

/-- A PDU has a release 8 or a release 9 field or both, and a payload in its buffer. -/
structure CqiEntry.Fits (entry : CqiEntry) : Prop where
  some : entry.pdu.cqiIndicationRel8.tl.tag = cqiIndicationRel8Tag ∨
    entry.pdu.cqiIndicationRel9.tl.tag = cqiIndicationRel9Tag
  rel9 : entry.pdu.cqiIndicationRel9.tl.tag = cqiIndicationRel9Tag →
    entry.pdu.cqiIndicationRel9.Fits
  length : entry.raw.length = entry.pdu.payloadLength.toNat
  max : entry.pdu.payloadLength.toNat ≤ cqiRawMaxLen

/-- If both fields are there, they have the same length. -/
def CqiIndicationPdu.SameLengths (pdu : CqiIndicationPdu) : Prop :=
  pdu.cqiIndicationRel8.tl.tag = cqiIndicationRel8Tag →
    pdu.cqiIndicationRel9.tl.tag = cqiIndicationRel9Tag →
      pdu.cqiIndicationRel8.length = pdu.cqiIndicationRel9.length

/-- The fields of a PDU that are there. -/
def cqiIndicationPduBytes (pdu : CqiIndicationPdu) : List UInt8 :=
  tlvBytes rxUeInformationTag pdu.rxUeInformation.tl (rxUeInformationBytes pdu.rxUeInformation) ++
  (tlvBytes cqiIndicationRel8Tag pdu.cqiIndicationRel8.tl
    (cqiIndicationRel8Bytes pdu.cqiIndicationRel8) ++
  (tlvBytes cqiIndicationRel9Tag pdu.cqiIndicationRel9.tl
    (cqiIndicationRel9Bytes pdu.cqiIndicationRel9) ++
  tlvBytes ulCqiInformationTag pdu.ulCqiInformation.tl
    (ulCqiInformationBytes pdu.ulCqiInformation)))

/-- The PDU on the other side. -/
def CqiIndicationPdu.arrived (pdu : CqiIndicationPdu) : CqiIndicationPdu where
  instanceLength := (cqiIndicationPduBytes pdu).length.toUInt16
  rxUeInformation := sent rxUeInformationTag rxUeInformationBytes pdu.rxUeInformation
  cqiIndicationRel8 := sent cqiIndicationRel8Tag cqiIndicationRel8Bytes pdu.cqiIndicationRel8
  cqiIndicationRel9 := sent cqiIndicationRel9Tag cqiIndicationRel9Bytes pdu.cqiIndicationRel9
  ulCqiInformation := sent ulCqiInformationTag ulCqiInformationBytes pdu.ulCqiInformation

/-- The number of PDUs and the PDUs. -/
def cqiTableBytes (entries : List CqiEntry) : List UInt8 :=
  bytes16 entries.length.toUInt16 ++
    instancesBytes (fun entry ↦ cqiIndicationPduBytes entry.pdu) entries

/-- The body of a CQI indication with these PDUs. -/
def cqiBodyBytes (entries : List CqiEntry) : List UInt8 :=
  cqiTableBytes entries ++ entries.flatMap (·.raw)

section Cqi

variable {limit : ℕ} {entry : CqiEntry} {entries : List CqiEntry}

theorem emits_packCqiIndicationPdu (hfits : entry.Fits) :
    Emits limit (packCqiIndicationPdu limit entry)
      (instanceBytes (cqiIndicationPduBytes entry.pdu)) := by
  have hrel8 : Emits limit (packCqiIndicationRel8Value limit entry.pdu.cqiIndicationRel8)
      (cqiIndicationRel8Bytes entry.pdu.cqiIndicationRel8) := by
    unfold packCqiIndicationRel8Value cqiIndicationRel8Bytes
    infer_instance
  have hrel9 := @emits_packTlv limit (packCqiIndicationRel9Value limit entry.pdu.cqiIndicationRel9)
    (cqiIndicationRel9Bytes entry.pdu.cqiIndicationRel9) cqiIndicationRel9Tag
    entry.pdu.cqiIndicationRel9.tl fun htag ↦ by
      have hri := @emits_pusharray8 limit _ _ _ (hfits.rel9 htag).1 (hfits.rel9 htag).2
      unfold packCqiIndicationRel9Value cqiIndicationRel9Bytes
      infer_instance
  unfold packCqiIndicationPdu cqiIndicationPduBytes
  apply emits_packInstance
  infer_instance

theorem emits_packCqiRaw (hfits : entry.Fits) : Emits limit (packCqiRaw limit entry) entry.raw :=
  emits_pusharray8 hfits.length hfits.max

theorem emits_packCqiPdus (hfits : ∀ entry ∈ entries, entry.Fits) :
    Emits limit (packCqiPdus limit entries)
      (instancesBytes (fun entry ↦ cqiIndicationPduBytes entry.pdu) entries ++
        entries.flatMap (·.raw)) := by
  have hpdus := emits_forEach fun entry hentry ↦
    @emits_packCqiIndicationPdu limit entry (hfits entry hentry)
  have hraw := emits_forEach fun entry hentry ↦ @emits_packCqiRaw limit entry (hfits entry hentry)
  unfold packCqiPdus instancesBytes
  infer_instance

theorem emits_packCqiIndicationBodyValue (hcount : entries.length ≤ indMaxPdu)
    {filled : List CqiEntry} (hfilled : fillCqiOffsets (cqiDataOffset entries) entries = filled)
    (hlength : filled.length = entries.length) (hfits : ∀ entry ∈ filled, entry.Fits) :
    Emits limit (packCqiIndicationBodyValue limit entries) (cqiBodyBytes filled) := by
  have hpdus := @emits_packCqiPdus limit filled hfits
  unfold packCqiIndicationBodyValue cqiBodyBytes cqiTableBytes
  rw [if_pos hcount, hfilled, hlength, List.append_assoc]
  infer_instance

theorem reads_unpackCqiIndicationRel9Value {tl : Tl} {value : CqiIndicationRel9}
    (hfits : value.Fits) :
    Reads limit (unpackCqiIndicationRel9Value tl limit {}) (cqiIndicationRel9Bytes value)
      { value with tl } := by
  have hvalue : ({ value with tl, ri := overwrite [] value.ri } : CqiIndicationRel9) =
      { value with tl } := by rw [overwrite_nil]
  rw [← hvalue]
  apply Reads.bind (reads_pull16 limit _)
  apply Reads.bind (reads_pull16 limit _)
  apply Reads.bind (reads_pull8 limit _)
  apply Reads.bind (reads_pull8 limit _)
  apply reads_ensure hfits.2
  apply Reads.bind (reads_pullarray8 hfits.1 hfits.2)
  apply Reads.bind (reads_pull16 limit _)
  exact (reads_pull16 limit _).map

theorem readsFields_cqiIndicationPdu (hfits : entry.Fits) :
    ReadsFields cqiIndicationPduFields
      { instanceLength := (cqiIndicationPduBytes entry.pdu).length.toUInt16 }
      (cqiIndicationPduBytes entry.pdu) entry.pdu.arrived := by
  unfold CqiIndicationPdu.arrived
  generalize (cqiIndicationPduBytes entry.pdu).length.toUInt16 = instanceLength
  unfold cqiIndicationPduBytes
  apply ReadsFields.trans
  · exact readsFields_sent
      (fun (pdu : CqiIndicationPdu) field ↦ { pdu with rxUeInformation := field }) rfl rfl
      fun _ _ _ ↦ (reads_unpackRxUeInformationValue _).map
  apply ReadsFields.trans
  · exact readsFields_sent
      (fun (pdu : CqiIndicationPdu) field ↦ { pdu with cqiIndicationRel8 := field }) rfl rfl
      fun _ limit _ ↦ ((reads_pull16 limit _).bind <| (reads_pull16 limit _).bind <|
        (reads_pull8 limit _).bind <| (reads_pull8 limit _).bind (reads_pull16 limit _).map).map
  apply ReadsFields.trans
  · exact readsFields_sent
      (fun (pdu : CqiIndicationPdu) field ↦ { pdu with cqiIndicationRel9 := field }) rfl rfl
      fun htag _ _ ↦ (reads_unpackCqiIndicationRel9Value (hfits.rel9 htag)).map
  · exact readsFields_sent
      (fun (pdu : CqiIndicationPdu) field ↦ { pdu with ulCqiInformation := field }) rfl rfl
      fun _ _ _ ↦ (reads_unpackUlCqiInformationValue _).map

theorem reads_unpackCqiIndicationPdu (entry : CqiEntry) (hfits : entry.Fits)
    (hlength : (cqiIndicationPduBytes entry.pdu).length < 65536) :
    Reads limit (unpackCqiIndicationPdu limit) (instanceBytes (cqiIndicationPduBytes entry.pdu))
      entry.pdu.arrived := by
  unfold instanceBytes unpackCqiIndicationPdu
  apply Reads.bind (reads_pull16 limit (cqiIndicationPduBytes entry.pdu).length.toUInt16)
  intro mem pos hholds hlimit
  have hposition : Pull.position mem pos = .ok (pos, pos) := rfl
  rw [Pull.bind_of_ok hposition, toNat_number16 hlength]
  exact tagSwitch_of_readsFields (readsFields_cqiIndicationPdu hfits) hholds hlimit

theorem CqiIndicationPdu.arrived_rel8
    (htag : entry.pdu.cqiIndicationRel8.tl.tag = cqiIndicationRel8Tag) :
    entry.pdu.arrived.cqiIndicationRel8 = { entry.pdu.cqiIndicationRel8 with
      tl := ⟨cqiIndicationRel8Tag,
        (cqiIndicationRel8Bytes entry.pdu.cqiIndicationRel8).length.toUInt16⟩ } :=
  if_pos htag

theorem CqiIndicationPdu.arrived_no_rel8
    (htag : entry.pdu.cqiIndicationRel8.tl.tag ≠ cqiIndicationRel8Tag) :
    entry.pdu.arrived.cqiIndicationRel8 = {} :=
  if_neg htag

theorem CqiIndicationPdu.arrived_rel9
    (htag : entry.pdu.cqiIndicationRel9.tl.tag = cqiIndicationRel9Tag) :
    entry.pdu.arrived.cqiIndicationRel9 = { entry.pdu.cqiIndicationRel9 with
      tl := ⟨cqiIndicationRel9Tag,
        (cqiIndicationRel9Bytes entry.pdu.cqiIndicationRel9).length.toUInt16⟩ } :=
  if_pos htag

/-- The length of the payload as the decoder takes it: that of the release 8 field, if there is
one. -/
def CqiIndicationPdu.decodedLength (pdu : CqiIndicationPdu) : UInt16 :=
  if pdu.cqiIndicationRel8.tl.tag = cqiIndicationRel8Tag then pdu.cqiIndicationRel8.length
  else if pdu.cqiIndicationRel9.tl.tag = cqiIndicationRel9Tag then pdu.cqiIndicationRel9.length
  else 0

/-- The two lengths are the same exactly if those of both fields are. -/
theorem CqiEntry.Fits.sameLengths_iff (hfits : entry.Fits) :
    entry.pdu.SameLengths ↔ entry.pdu.arrived.decodedLength = entry.pdu.payloadLength := by
  unfold CqiIndicationPdu.SameLengths CqiIndicationPdu.decodedLength
    CqiIndicationPdu.payloadLength
  by_cases hrel8 : entry.pdu.cqiIndicationRel8.tl.tag = cqiIndicationRel8Tag
  · rw [CqiIndicationPdu.arrived_rel8 hrel8, if_pos rfl]
    by_cases hrel9 : entry.pdu.cqiIndicationRel9.tl.tag = cqiIndicationRel9Tag
    · rw [if_pos hrel9]
      exact ⟨fun h ↦ h hrel8 hrel9, fun h _ _ ↦ h⟩
    · rw [if_neg hrel9, if_pos hrel8]
      exact ⟨fun _ ↦ rfl, fun _ _ h ↦ absurd h hrel9⟩
  · have hrel9 := hfits.some.resolve_left hrel8
    rw [CqiIndicationPdu.arrived_no_rel8 hrel8, CqiIndicationPdu.arrived_rel9 hrel9,
      if_neg (by decide), if_pos rfl, if_pos hrel9]
    exact ⟨fun _ ↦ rfl, fun _ h _ ↦ absurd h hrel8⟩

theorem reads_unpackCqiRaw (entry : CqiEntry) (hfits : entry.Fits)
    (hsame : entry.pdu.SameLengths) :
    Reads limit (unpackCqiRaw limit entry.pdu.arrived) entry.raw
      { entry with pdu := entry.pdu.arrived } := by
  have hlength := hfits.sameLengths_iff.mp hsame
  have hraw : Reads limit (pullarray8 cqiRawMaxLen entry.pdu.payloadLength.toNat limit) entry.raw
      entry.raw := reads_pullarray8 hfits.length hfits.max
  rw [← hlength] at hraw
  unfold CqiIndicationPdu.decodedLength at hraw
  unfold unpackCqiRaw
  by_cases hrel8 : entry.pdu.arrived.cqiIndicationRel8.tl.tag = cqiIndicationRel8Tag
  · rw [if_pos hrel8] at hraw ⊢
    exact hraw.map
  · by_cases hrel9 : entry.pdu.arrived.cqiIndicationRel9.tl.tag = cqiIndicationRel9Tag
    · rw [if_neg hrel8, if_pos hrel9] at hraw ⊢
      exact hraw.map
    · exfalso
      rcases hfits.some with h | h
      · rw [CqiIndicationPdu.arrived_rel8 h] at hrel8
        exact hrel8 rfl
      · rw [CqiIndicationPdu.arrived_rel9 h] at hrel9
        exact hrel9 rfl

theorem reads_unpackCqiIndicationBodyValue {tag : UInt16} {body : Body CqiEntry}
    (hcount : entries.length ≤ indMaxPdu) (hlength : (cqiBodyBytes entries).length < 65536)
    (hfits : ∀ entry ∈ entries, entry.Fits) (hsame : ∀ entry ∈ entries, entry.pdu.SameLengths) :
    Reads limit (unpackCqiIndicationBodyValue
      ⟨tag, (cqiBodyBytes entries).length.toUInt16⟩ limit body) (cqiBodyBytes entries)
      { tl := ⟨tag, (cqiBodyBytes entries).length.toUInt16⟩, number := entries.length
        pduList := entries.map fun entry ↦ { entry with pdu := entry.pdu.arrived } } := by
  have hnumber : entries.length.toUInt16.toNat = entries.length :=
    toNat_number16 (Nat.lt_of_le_of_lt hcount (by decide))
  have htable : (instancesBytes (fun entry ↦ cqiIndicationPduBytes entry.pdu) entries).length <
      65536 := by
    simp only [cqiBodyBytes, cqiTableBytes, List.length_append] at hlength
    omega
  have hpdus : Reads limit (repeatPull (unpackCqiIndicationPdu limit) entries.length)
      (instancesBytes (fun entry ↦ cqiIndicationPduBytes entry.pdu) entries)
      (entries.map fun entry ↦ entry.pdu.arrived) := by
    apply reads_repeatPull
    intro entry hentry
    exact reads_unpackCqiIndicationPdu entry (hfits entry hentry) (Nat.lt_of_le_of_lt
      (@length_pduBytes_le _ (fun entry ↦ cqiIndicationPduBytes entry.pdu) _ _ hentry) htable)
  have hraw := @reads_forEach limit _ _ _ (unpackCqiRaw limit) _ _ _
    entries fun entry hentry ↦ reads_unpackCqiRaw entry (hfits entry hentry) (hsame entry hentry)
  have hsmall : ¬ entries.length > indMaxPdu := Nat.not_lt.mpr hcount
  unfold unpackCqiIndicationBodyValue
  apply reads_ensureBody (toNat_number16 hlength)
  unfold cqiBodyBytes cqiTableBytes
  rw [List.append_assoc]
  apply Reads.bind (reads_pull16 limit entries.length.toUInt16)
  rw [hnumber, if_neg hsmall]
  apply Reads.bind hpdus
  exact hraw.map

/-- The payloads of a decoded body have the lengths that the decoder takes. -/
def DecodedLengths (body : Body CqiEntry) : Prop :=
  ∀ entry ∈ body.pduList, entry.raw.length = entry.pdu.decodedLength.toNat

theorem unpackCqiIndicationBodyValue_lengths {tl : Tl} {body body' : Body CqiEntry}
    {mem : Memory} {pos last : ℕ} (hbody : DecodedLengths body)
    (h : unpackCqiIndicationBodyValue tl limit body mem pos = .ok (body', last)) :
    DecodedLengths body' := by
  have hraw : ∀ pdu pos entry last, unpackCqiRaw limit pdu mem pos = .ok (entry, last) →
      entry.raw.length = entry.pdu.decodedLength.toNat := by
    intro pdu pos entry last hentry
    unfold CqiIndicationPdu.decodedLength
    unfold unpackCqiRaw at hentry
    split_ifs at hentry with hrel8 hrel9
    · obtain ⟨raw, next, hpull, hpure⟩ := bind_eq_ok.mp hentry
      cases hpure
      rw [if_pos hrel8, pullarray8_length hpull]
    · obtain ⟨raw, next, hpull, hpure⟩ := bind_eq_ok.mp hentry
      cases hpure
      rw [if_neg hrel8, if_pos hrel9, pullarray8_length hpull]
    · cases hentry
      rw [if_neg hrel8, if_neg hrel9]
      rfl
  obtain ⟨_, next, -, hrest⟩ := bind_eq_ok.mp h
  obtain ⟨number, next, -, hrest⟩ := bind_eq_ok.mp hrest
  split_ifs at hrest with hlarge
  · cases hrest
    exact hbody
  · obtain ⟨pdus, next, hpdus, hrest⟩ := bind_eq_ok.mp hrest
    obtain ⟨pduList, next, hlist, hpure⟩ := bind_eq_ok.mp hrest
    cases hpure
    exact forEach_forall hraw hlist

/-! The PDUs after the offsets are filled in. -/

/-- Apart from the offsets, a PDU is left as it is. -/
theorem fillCqi_eq (offset : UInt16) (pdu : CqiIndicationPdu) : ∃ rel8Offset rel9Offset,
    (fillCqiRel9 (fillCqiRel8 offset pdu).2 (fillCqiRel8 offset pdu).1).1 = { pdu with
      cqiIndicationRel8 := { pdu.cqiIndicationRel8 with dataOffset := rel8Offset }
      cqiIndicationRel9 := { pdu.cqiIndicationRel9 with dataOffset := rel9Offset } } := by
  have hrel8 : ∃ rel8Offset, (fillCqiRel8 offset pdu).1 = { pdu with
      cqiIndicationRel8 := { pdu.cqiIndicationRel8 with dataOffset := rel8Offset } } := by
    unfold fillCqiRel8
    split_ifs
    · exact ⟨_, rfl⟩
    · exact ⟨pdu.cqiIndicationRel8.dataOffset, rfl⟩
  obtain ⟨rel8Offset, hrel8⟩ := hrel8
  rw [hrel8]
  unfold fillCqiRel9
  split_ifs
  · exact ⟨rel8Offset, _, rfl⟩
  · exact ⟨rel8Offset, pdu.cqiIndicationRel9.dataOffset, rfl⟩

theorem fillCqiOffsets_length (offset : UInt16) (entries : List CqiEntry) :
    (fillCqiOffsets offset entries).length = entries.length := by
  induction entries generalizing offset with
  | nil => rfl
  | cons entry entries ih => rw [fillCqiOffsets, List.length_cons, ih, List.length_cons]

/-- What does not depend on the offsets holds of all PDUs before and after they are filled in. -/
theorem fillCqiOffsets_forall {P : CqiEntry → Prop}
    (hP : ∀ entry rel8Offset rel9Offset, P { entry with pdu := { entry.pdu with
      cqiIndicationRel8 := { entry.pdu.cqiIndicationRel8 with dataOffset := rel8Offset }
      cqiIndicationRel9 := { entry.pdu.cqiIndicationRel9 with dataOffset := rel9Offset } } } ↔
        P entry) (offset : UInt16) :
    (∀ entry ∈ fillCqiOffsets offset entries, P entry) ↔ ∀ entry ∈ entries, P entry := by
  induction entries generalizing offset with
  | nil => rfl
  | cons entry entries ih =>
    obtain ⟨rel8Offset, rel9Offset, hfill⟩ := fillCqi_eq offset entry.pdu
    rw [fillCqiOffsets, hfill, List.forall_mem_cons, List.forall_mem_cons, hP, ih]

theorem fillCqiOffsets_fits (hfits : ∀ entry ∈ entries, entry.Fits) (offset : UInt16) :
    ∀ entry ∈ fillCqiOffsets offset entries, entry.Fits :=
  (fillCqiOffsets_forall (fun _ _ _ ↦ ⟨fun h ↦ ⟨h.some, h.rel9, h.length, h.max⟩,
    fun h ↦ ⟨h.some, h.rel9, h.length, h.max⟩⟩) offset).mpr hfits

theorem fillCqiOffsets_sameLengths (offset : UInt16) :
    (∀ entry ∈ fillCqiOffsets offset entries, entry.pdu.SameLengths) ↔
      ∀ entry ∈ entries, entry.pdu.SameLengths :=
  fillCqiOffsets_forall (fun _ _ _ ↦ Iff.rfl) offset

/-- The fields of a PDU for the offset of its payload. -/
def CqiIndicationPdu.offsets (pdu : CqiIndicationPdu) : List UInt16 :=
  (if pdu.cqiIndicationRel8.tl.tag = cqiIndicationRel8Tag then [pdu.cqiIndicationRel8.dataOffset]
    else []) ++
  (if pdu.cqiIndicationRel9.tl.tag = cqiIndicationRel9Tag then [pdu.cqiIndicationRel9.dataOffset]
    else [])

/-- The payload of a PDU, with the fields for its offset. -/
def CqiEntry.payload (entry : CqiEntry) : Payload := ⟨entry.pdu.offsets, entry.raw⟩

theorem CqiEntry.Fits.payload_entry (hfits : entry.Fits) :
    entry.payload.entry = ⟨entry.pdu.offsets, entry.pdu.payloadLength⟩ := by
  unfold Payload.entry CqiEntry.payload
  rw [hfits.length]
  simp

/-- One field is filled in like a list of one field. -/
theorem fillOffset_eq (offset field length : UInt16) :
    fillFields length offset [field] =
      ([(fillOffset offset field length).1], (fillOffset offset field length).2) := by
  unfold fillFields fillOffset
  split_ifs <;> rfl

/-- Both fields of a PDU are filled in one after the other. -/
theorem fillCqi_offsets (hsame : entry.pdu.SameLengths) (offset : UInt16) :
    fillFields entry.pdu.payloadLength offset entry.pdu.offsets =
      ((fillCqiRel9 (fillCqiRel8 offset entry.pdu).2
          (fillCqiRel8 offset entry.pdu).1).1.offsets,
        (fillCqiRel9 (fillCqiRel8 offset entry.pdu).2 (fillCqiRel8 offset entry.pdu).1).2) := by
  unfold CqiIndicationPdu.SameLengths at hsame
  unfold CqiIndicationPdu.offsets CqiIndicationPdu.payloadLength fillCqiRel9 fillCqiRel8
  by_cases hrel8 : entry.pdu.cqiIndicationRel8.tl.tag = cqiIndicationRel8Tag
  · by_cases hrel9 : entry.pdu.cqiIndicationRel9.tl.tag = cqiIndicationRel9Tag
    · simp only [hrel8, hrel9, if_true, fillFields_append, fillOffset_eq, hsame hrel8 hrel9]
    · simp only [hrel8, hrel9, if_true, if_false, List.append_nil, fillOffset_eq]
  · by_cases hrel9 : entry.pdu.cqiIndicationRel9.tl.tag = cqiIndicationRel9Tag
    · simp only [hrel8, hrel9, if_true, if_false, List.nil_append, fillOffset_eq]
    · simp only [hrel8, hrel9, if_false, List.nil_append]
      rfl

/-- Filling in the offsets is that of `MarkedOffsets`. -/
theorem fillCqiOffsets_entries (hfits : ∀ entry ∈ entries, entry.Fits)
    (hsame : ∀ entry ∈ entries, entry.pdu.SameLengths) (offset : UInt16) :
    (fillCqiOffsets offset entries).map (·.payload.entry) =
      fill offset (entries.map (·.payload.entry)) := by
  induction entries generalizing offset with
  | nil => rfl
  | cons entry entries ih =>
    obtain ⟨hentry, hrest⟩ := List.forall_mem_cons.mp hfits
    obtain ⟨hsameEntry, hsameRest⟩ := List.forall_mem_cons.mp hsame
    have hoffsets := fillCqi_offsets hsameEntry offset
    rw [fillCqiOffsets, List.map_cons, List.map_cons, ih hrest hsameRest, hentry.payload_entry,
      fill, hoffsets]
    congr 1
    unfold Payload.entry CqiEntry.payload
    rw [hentry.length]
    simp

/-- The bytes of a field that is there or not. -/
theorem length_tlvBytes (tag : UInt16) (tl : Tl) (value : List UInt8) :
    (tlvBytes tag tl value).length = if tl.tag = tag then 4 + value.length else 0 := by
  unfold tlvBytes
  split_ifs
  · exact length_fieldBytes tag value
  · rfl

/-- The sizes that are added up for a PDU do not wrap around. -/
theorem toNat_cqiPduSize (hfits : entry.Fits) :
    (cqiPduSize entry.pdu).toNat =
      (instanceBytes (cqiIndicationPduBytes entry.pdu)).length ∧
    (cqiPduSize entry.pdu).toNat ≤ 74 := by
  have hrel8 : (cqiIndicationRel8Bytes entry.pdu.cqiIndicationRel8).length = 8 := rfl
  have hue : (rxUeInformationBytes entry.pdu.rxUeInformation).length = 6 := rfl
  have hul : (ulCqiInformationBytes entry.pdu.ulCqiInformation).length = 2 := rfl
  have hrel9 : (cqiIndicationRel9Bytes entry.pdu.cqiIndicationRel9).length =
      10 + entry.pdu.cqiIndicationRel9.ri.length := by
    simp only [cqiIndicationRel9Bytes, List.length_append, length_bytes16, List.length_singleton]
    omega
  have hlength : (instanceBytes (cqiIndicationPduBytes entry.pdu)).length =
      2 + (if entry.pdu.rxUeInformation.tl.tag = rxUeInformationTag then 10 else 0) +
        (if entry.pdu.cqiIndicationRel8.tl.tag = cqiIndicationRel8Tag then 12 else 0) +
        (if entry.pdu.cqiIndicationRel9.tl.tag = cqiIndicationRel9Tag then
          14 + entry.pdu.cqiIndicationRel9.ri.length else 0) +
        (if entry.pdu.ulCqiInformation.tl.tag = ulCqiInformationTag then 6 else 0) := by
    simp only [instanceBytes, cqiIndicationPduBytes, List.length_append, length_bytes16,
      length_tlvBytes, hrel8, hrel9, hue, hul, ← Nat.add_assoc]
  have hsize : ∀ (tag tag' : UInt16) (size : UInt16), size.toNat ≤ 18 →
      (if tag = tag' then size else 0).toNat = (if tag = tag' then size.toNat else 0) ∧
        (if tag = tag' then size.toNat else 0) ≤ 18 := by
    intro tag tag' size hsmall
    by_cases htag : tag = tag'
    · rw [if_pos htag, if_pos htag]
      exact ⟨rfl, hsmall⟩
    · rw [if_neg htag, if_neg htag]
      exact ⟨rfl, Nat.zero_le 18⟩
  have hcc : (if entry.pdu.cqiIndicationRel9.tl.tag = cqiIndicationRel9Tag then
      4 + 10 + entry.pdu.cqiIndicationRel9.numberOfCcReported.toUInt16 else 0).toNat =
        (if entry.pdu.cqiIndicationRel9.tl.tag = cqiIndicationRel9Tag then
          14 + entry.pdu.cqiIndicationRel9.ri.length else 0) ∧
      (if entry.pdu.cqiIndicationRel9.tl.tag = cqiIndicationRel9Tag then
          14 + entry.pdu.cqiIndicationRel9.ri.length else 0) ≤ 18 := by
    by_cases htag : entry.pdu.cqiIndicationRel9.tl.tag = cqiIndicationRel9Tag
    · obtain ⟨hri, hmax⟩ := hfits.rel9 htag
      have hfour : ccMax = 4 := rfl
      have hfourteen : (4 + 10 : UInt16).toNat = 14 := rfl
      rw [if_pos htag, if_pos htag, UInt16.toNat_add, UInt8.toNat_toUInt16, hri, hfourteen]
      omega
    · rw [if_neg htag, if_neg htag]
      exact ⟨rfl, Nat.zero_le 18⟩
  obtain ⟨hsizeUe, hmaxUe⟩ := hsize entry.pdu.rxUeInformation.tl.tag rxUeInformationTag (4 + 6)
    (by decide)
  obtain ⟨hsize8, hmax8⟩ := hsize entry.pdu.cqiIndicationRel8.tl.tag cqiIndicationRel8Tag (4 + 8)
    (by decide)
  obtain ⟨hsizeUl, hmaxUl⟩ := hsize entry.pdu.ulCqiInformation.tl.tag ulCqiInformationTag (4 + 2)
    (by decide)
  have htwo : (2 : UInt16).toNat = 2 := rfl
  simp only [UInt16.reduceAdd, UInt16.reduceToNat] at hsizeUe hmaxUe hsize8 hmax8 hsizeUl hmaxUl
  rw [hlength, cqiPduSize]
  simp only [UInt16.toNat_add, UInt16.reduceAdd] at hcc ⊢
  rw [hsizeUe, hsize8, hsizeUl, hcc.1, htwo]
  omega

/-- The first offset is the size of the PDUs. -/
theorem toNat_cqiDataOffset (hcount : entries.length ≤ indMaxPdu)
    (hfits : ∀ entry ∈ entries, entry.Fits) :
    (cqiDataOffset entries).toNat = (cqiTableBytes entries).length := by
  have hsum : (entries.map fun entry ↦ (cqiPduSize entry.pdu).toNat).sum =
      (instancesBytes (fun entry ↦ cqiIndicationPduBytes entry.pdu) entries).length ∧
      (entries.map fun entry ↦ (cqiPduSize entry.pdu).toNat).sum ≤ 74 * entries.length := by
    clear hcount
    induction entries with
    | nil => exact ⟨rfl, Nat.le_refl 0⟩
    | cons entry entries ih =>
      obtain ⟨hentry, hrest⟩ := List.forall_mem_cons.mp hfits
      obtain ⟨hsize, hmax⟩ := toNat_cqiPduSize hentry
      obtain ⟨hsum, hsumMax⟩ := ih hrest
      have hcons : (instancesBytes (fun entry ↦ cqiIndicationPduBytes entry.pdu)
          (entry :: entries)).length = (instanceBytes (cqiIndicationPduBytes entry.pdu)).length +
            (instancesBytes (fun entry ↦ cqiIndicationPduBytes entry.pdu) entries).length := by
        rw [instancesBytes, List.flatMap_cons, List.length_append]
        rfl
      rw [List.map_cons, List.sum_cons, hcons, hsum, hsize, List.length_cons]
      omega
  have htwo : (2 : UInt16).toNat = 2 := rfl
  have hmax : entries.length ≤ 100 := hcount
  rw [cqiDataOffset, toNat_foldl_add (by rw [htwo]; omega), hsum.1, htwo, cqiTableBytes,
    List.length_append, length_bytes16]

/-- The size of the PDUs does not depend on the offsets. -/
theorem length_cqiTableBytes_fill (offset : UInt16) (entries : List CqiEntry) :
    (cqiTableBytes (fillCqiOffsets offset entries)).length = (cqiTableBytes entries).length := by
  have hpdus : (instancesBytes (fun entry ↦ cqiIndicationPduBytes entry.pdu)
      (fillCqiOffsets offset entries)).length =
        (instancesBytes (fun entry ↦ cqiIndicationPduBytes entry.pdu) entries).length := by
    unfold instancesBytes
    induction entries generalizing offset with
    | nil => rfl
    | cons entry entries ih =>
      obtain ⟨rel8Offset, rel9Offset, hfill⟩ := fillCqi_eq offset entry.pdu
      rw [fillCqiOffsets, hfill, List.flatMap_cons, List.flatMap_cons, List.length_append,
        List.length_append, ih]
      simp only [instanceBytes, cqiIndicationPduBytes, List.length_append, length_bytes16,
        length_tlvBytes, cqiIndicationRel8Bytes, cqiIndicationRel9Bytes]
  rw [cqiTableBytes, cqiTableBytes, List.length_append, List.length_append, hpdus, length_bytes16,
    length_bytes16]

end Cqi

/-! ### Whole messages -/

/-- A message with payloads behind its PDUs. -/
inductive PayloadMessage where
  | rxUlsch (frame : LteFrame) (pduList : List RxIndicationPdu)
  | cqi (frame : LteFrame) (entries : List CqiEntry)

namespace PayloadMessage

def messageId : PayloadMessage → UInt16
  | rxUlsch _ _ => rxUlschIndication
  | cqi _ _ => rxCqiIndication

/-- The encoder that the switch over the message id selects. -/
def encode (limit : ℕ) : PayloadMessage → Push Unit
  | rxUlsch frame pduList =>
    packLteIndication rxIndicationBodyTag limit frame (packRxUlschIndicationBodyValue limit pduList)
  | cqi frame entries =>
    packLteIndication cqiIndicationBodyTag limit frame (packCqiIndicationBodyValue limit entries)

/-- The message has its body, with at most the maximal number of PDUs, each with its payload in
its buffer. -/
def Fits : PayloadMessage → Prop
  | rxUlsch frame pduList => frame.tl.tag = rxIndicationBodyTag ∧ pduList.length ≤ indMaxPdu ∧
      ∀ pdu ∈ pduList, pdu.Fits
  | cqi frame entries => frame.tl.tag = cqiIndicationBodyTag ∧ entries.length ≤ indMaxPdu ∧
      ∀ entry ∈ entries, entry.Fits

/-- The message as the encoder leaves it in the memory, with the offsets filled in. -/
def filled : PayloadMessage → PayloadMessage
  | rxUlsch frame pduList => rxUlsch frame (fillRxOffsets (rxDataOffset pduList) pduList)
  | cqi frame entries => cqi frame (fillCqiOffsets (cqiDataOffset entries) entries)

/-- The number of PDUs and the PDUs. -/
def tableBytes : PayloadMessage → List UInt8
  | rxUlsch _ pduList => rxTableBytes pduList
  | cqi _ entries => cqiTableBytes entries

/-- The payloads of a message, with the fields for their offsets. -/
def payloads : PayloadMessage → List Payload
  | rxUlsch _ pduList => pduList.map (·.payload)
  | cqi _ entries => entries.map (·.payload)

/-- The value of the body of a packed message. -/
def bodyBytes (message : PayloadMessage) : List UInt8 :=
  message.tableBytes ++ message.payloads.flatMap (·.bytes)

/-- The indication on the other side, behind this header: with all lengths, and without what stands
in absent fields. -/
def arrived (header : P7MessageHeader) (message : PayloadMessage) : LteIndication :=
  match message with
  | rxUlsch frame pduList => .rxUlsch {
      header
      frame := ⟨frame.sfnSf, ⟨rxIndicationBodyTag, message.bodyBytes.length.toUInt16⟩⟩
      number := pduList.length
      pduList := pduList.map RxIndicationPdu.arrived }
  | cqi frame entries => .rxCqi {
      header
      frame := ⟨frame.sfnSf, ⟨cqiIndicationBodyTag, message.bodyBytes.length.toUInt16⟩⟩
      number := entries.length
      pduList := entries.map fun entry ↦ { entry with pdu := entry.pdu.arrived } }

/-- If a PDU has both fields, they have the same length. -/
def SameLengths : PayloadMessage → Prop
  | rxUlsch _ _ => True
  | cqi _ entries => ∀ entry ∈ entries, entry.pdu.SameLengths

/-- Which messages come back, with right offsets. -/
def Sound (message : PayloadMessage) : Prop :=
  message.SameLengths ∧ Ready message.tableBytes.length (message.payloads.map Payload.entry)

end PayloadMessage

/-- `nfapi_p7_message_pack`. -/
def packMessagePayloads (limit : ℕ) (header : P7MessageHeader) (message : PayloadMessage) :
    Outcome (Option (List UInt8)) :=
  packMessage (message.encode limit) limit { header with messageId := message.messageId }

/-- The packed message is unpacked to the indication, and its offsets, in the body that starts
behind the header, the time and the tag and length of the body, locate the payloads. -/
def PayloadMessage.Intact (message : PayloadMessage) (header : P7MessageHeader)
    (packed : List UInt8) : Prop :=
  nfapiP7MessageUnpack (memoryOf packed) packed.length =
    .ok (some (message.filled.arrived (packedHeader { header with messageId := message.messageId }
      packed.length.toUInt16))) ∧
  Locates (packed.drop (p7HeaderLength + 6)) message.filled.payloads

section Intact

variable {header : P7MessageHeader} {limit : ℕ} {packed : List UInt8} {frame : LteFrame}
  {message : PayloadMessage}

namespace PayloadMessage

/-- The value of the body of a message that has one. -/
def encodeBody (limit : ℕ) : PayloadMessage → Push Unit
  | rxUlsch _ pduList => packRxUlschIndicationBodyValue limit pduList
  | cqi _ entries => packCqiIndicationBodyValue limit entries

theorem Fits.emits (hfits : message.Fits) :
    Emits limit (message.encodeBody limit) message.filled.bodyBytes := by
  cases message with
  | rxUlsch frame pduList =>
    obtain ⟨-, hcount, hpdus⟩ := hfits
    have hbody := @emits_packRxUlschIndicationBodyValue limit pduList hcount _ rfl
      (fillRxOffsets_length _ _) (fillRxOffsets_fits hpdus _)
    rw [rxBodyBytes] at hbody
    unfold bodyBytes filled payloads
    rw [List.flatMap_map]
    exact hbody
  | cqi frame entries =>
    obtain ⟨-, hcount, hentries⟩ := hfits
    have hbody := @emits_packCqiIndicationBodyValue limit entries hcount _ rfl
      (fillCqiOffsets_length _ _) (fillCqiOffsets_fits hentries _)
    rw [cqiBodyBytes] at hbody
    unfold bodyBytes filled payloads
    rw [List.flatMap_map]
    exact hbody

theorem Fits.emits_encode (hfits : message.Fits) : ∃ tag sfnSf,
    Emits limit (message.encode limit) (lteIndicationBytes tag sfnSf message.filled.bodyBytes) := by
  cases message with
  | rxUlsch frame pduList => exact ⟨_, _, emits_packLteIndication hfits.1 hfits.emits⟩
  | cqi frame entries => exact ⟨_, _, emits_packLteIndication hfits.1 hfits.emits⟩

/-- A message is packed when there is room for it. -/
theorem Fits.packs (hfits : message.Fits) (header : P7MessageHeader)
    (hlimit : p7HeaderLength + (6 + message.filled.bodyBytes.length) ≤ limit)
    (hlength : p7HeaderLength + (6 + message.filled.bodyBytes.length) ≤ 0xFFFF) :
    ∃ packed, packMessagePayloads limit header message = .ok (some packed) := by
  obtain ⟨tag, sfnSf, hemits⟩ := @Fits.emits_encode limit message hfits
  rw [← length_lteIndicationBytes tag sfnSf] at hlimit hlength
  exact ⟨_, (packMessage_of_writes hemits.writes _).trans (if_pos ⟨hlimit, hlength⟩)⟩

/-- A packed message ends with the value of its body. -/
theorem Fits.body_of_packed (hfits : message.Fits)
    (hpacked : packMessagePayloads limit header message = .ok (some packed)) :
    packed.drop (p7HeaderLength + 6) = message.filled.bodyBytes ∧
      message.filled.bodyBytes.length < 65536 := by
  obtain ⟨tag, sfnSf, hemits⟩ := @Fits.emits_encode limit message hfits
  have hlength := length_body_of_packed hemits.writes hpacked
  obtain ⟨-, hbytes⟩ := packMessage_of_writes_eq_some hemits.writes hpacked
  refine ⟨?_, hlength⟩
  rw [hbytes, ← List.drop_drop]
  rfl

/-- In a message whose lengths agree, the offsets are those of `MarkedOffsets`. -/
theorem Fits.entries_filled (hfits : message.Fits) (hsame : message.SameLengths) :
    ∃ offset : UInt16, 1 < offset.toNat ∧ offset.toNat = message.tableBytes.length ∧
      message.filled.tableBytes.length = message.tableBytes.length ∧
      message.filled.payloads.map Payload.entry =
        fill offset (message.payloads.map Payload.entry) := by
  cases message with
  | rxUlsch frame pduList =>
    obtain ⟨-, hcount, hpdus⟩ := hfits
    have hoffset := toNat_rxDataOffset hcount hpdus
    have htable := length_rxTableBytes pduList
    have hfilled := length_rxTableBytes (fillRxOffsets (rxDataOffset pduList) pduList)
    have hentries := fillRxOffsets_entries hpdus (rxDataOffset pduList)
    rw [fillRxOffsets_length] at hfilled
    change List.map (Payload.entry ∘ RxIndicationPdu.payload) _ =
      fill _ (List.map (Payload.entry ∘ RxIndicationPdu.payload) _) at hentries
    rw [← List.map_map, ← List.map_map] at hentries
    exact ⟨rxDataOffset pduList, by omega, hoffset.trans htable.symm, hfilled.trans htable.symm,
      hentries⟩
  | cqi frame entries =>
    obtain ⟨-, hcount, hpdus⟩ := hfits
    have hoffset := toNat_cqiDataOffset hcount hpdus
    have hentries := fillCqiOffsets_entries hpdus hsame (cqiDataOffset entries)
    have htwo : 2 ≤ (cqiTableBytes entries).length := by
      rw [cqiTableBytes, List.length_append, length_bytes16]
      exact Nat.le_add_right _ _
    change List.map (Payload.entry ∘ CqiEntry.payload) _ =
      fill _ (List.map (Payload.entry ∘ CqiEntry.payload) _) at hentries
    rw [← List.map_map, ← List.map_map] at hentries
    exact ⟨cqiDataOffset entries, by omega, hoffset, length_cqiTableBytes_fill _ _, hentries⟩

/-- The offsets in the body of a packed message are right exactly if its offset fields are ready. -/
theorem Fits.locates_iff (hfits : message.Fits) (hsame : message.SameLengths)
    (hlength : message.filled.bodyBytes.length < 65536) :
    Locates message.filled.bodyBytes message.filled.payloads ↔
      Ready message.tableBytes.length (message.payloads.map Payload.entry) := by
  obtain ⟨offset, hmarker, hoffset, htable, hentries⟩ := hfits.entries_filled hsame
  rw [bodyBytes, List.length_append] at hlength
  have hshort : ∀ payload ∈ message.filled.payloads, payload.bytes.length < 65536 := by
    intro payload hpayload
    have hle : payload.bytes.length ≤ (message.filled.payloads.flatMap (·.bytes)).length := by
      rw [List.flatMap_def]
      exact (List.sublist_flatten_of_mem (List.mem_map_of_mem hpayload)).length_le
    omega
  have htotal := totalLength_map_entry hshort
  rw [hentries, totalLength_fill] at htotal
  rw [bodyBytes, locates_iff_right hshort, hentries, htable, ← hoffset]
  exact right_fill_iff hmarker (by omega)

/-- A message whose lengths agree comes back. -/
theorem Fits.survives (hfits : message.Fits) (hsame : message.SameLengths)
    (hpacked : packMessagePayloads limit header message = .ok (some packed)) :
    nfapiP7MessageUnpack (memoryOf packed) packed.length =
      .ok (some (message.filled.arrived (packedHeader
        { header with messageId := message.messageId } packed.length.toUInt16))) := by
  have hemits := @Fits.emits limit message hfits
  cases message with
  | rxUlsch frame pduList =>
    obtain ⟨htag, hcount, hpdus⟩ := hfits
    have hfilled := fillRxOffsets_fits hpdus (rxDataOffset pduList)
    have hlist := (fillRxOffsets_length (rxDataOffset pduList) pduList).symm ▸ hcount
    have hswitch : unpackLteUplink
        (packedHeader { header with messageId := rxUlschIndication } packed.length.toUInt16)
        packed.length = .rxUlsch <$> unpackRxIndication
          (packedHeader { header with messageId := rxUlschIndication } packed.length.toUInt16)
          packed.length := rfl
    have hbody : bodyBytes (.rxUlsch frame (fillRxOffsets (rxDataOffset pduList) pduList)) =
        rxBodyBytes (fillRxOffsets (rxDataOffset pduList) pduList) := by
      unfold bodyBytes payloads
      rw [List.flatMap_map]
      rfl
    have hunpack := messageUnpack_lteMessage htag (hbody ▸ hemits) hpacked hswitch
      fun hlength _ ↦ reads_unpackRxIndicationBodyValue hlist hlength hfilled
    rw [← hbody] at hunpack
    exact hunpack
  | cqi frame entries =>
    obtain ⟨htag, hcount, hpdus⟩ := hfits
    have hfilled := fillCqiOffsets_fits hpdus (cqiDataOffset entries)
    have hfilledSame := (fillCqiOffsets_sameLengths (cqiDataOffset entries)).mpr hsame
    have hlist := (fillCqiOffsets_length (cqiDataOffset entries) entries).symm ▸ hcount
    have hswitch : unpackLteUplink
        (packedHeader { header with messageId := rxCqiIndication } packed.length.toUInt16)
        packed.length = .rxCqi <$> unpackCqiIndication
          (packedHeader { header with messageId := rxCqiIndication } packed.length.toUInt16)
          packed.length := rfl
    have hbody : bodyBytes (.cqi frame (fillCqiOffsets (cqiDataOffset entries) entries)) =
        cqiBodyBytes (fillCqiOffsets (cqiDataOffset entries) entries) := by
      unfold bodyBytes payloads
      rw [List.flatMap_map]
      rfl
    have hunpack := messageUnpack_lteMessage htag (hbody ▸ hemits) hpacked hswitch
      fun hlength _ ↦ reads_unpackCqiIndicationBodyValue hlist hlength hfilled hfilledSame
    rw [← hbody] at hunpack
    exact hunpack

end PayloadMessage

/-- A decoded CQI indication has payloads of the lengths that the decoder takes. -/
theorem unpack_cqi_lengths {mem : Memory} {length : ℕ} {ind : Indication LteFrame CqiEntry}
    (h : nfapiP7MessageUnpack mem length = .ok (some (.rxCqi ind))) :
    DecodedLengths ⟨ind.frame.tl, ind.number, ind.pduList⟩ := by
  obtain ⟨-, header, last, -, hswitch⟩ := messageUnpack_eq_some h
  rw [unpackLteUplink] at hswitch
  split_ifs at hswitch with hharq hcrc hrx hrach hsr hcqi
  all_goals try
    obtain ⟨_, -, hother⟩ := map_eq_ok.mp hswitch
    cases hother
  · obtain ⟨_, hind, hwrap⟩ := map_eq_ok.mp hswitch
    cases hwrap
    exact (unpackLteIndication_eq_ok DecodedLengths (fun _ hentry ↦ absurd hentry List.not_mem_nil)
      (fun _ _ _ _ _ _ _ ↦ unpackCqiIndicationBodyValue_lengths) hind).2.2.2
  · cases hswitch

/-- A message that comes back has lengths that agree. -/
theorem PayloadMessage.Fits.sameLengths (hfits : message.Fits) {arrivedHeader : P7MessageHeader}
    {mem : Memory} {length : ℕ} (h : nfapiP7MessageUnpack mem length =
      .ok (some (message.filled.arrived arrivedHeader))) : message.SameLengths := by
  cases message with
  | rxUlsch frame pduList => trivial
  | cqi frame entries =>
    have hlengths := unpack_cqi_lengths h
    have hfilled := fillCqiOffsets_fits hfits.2.2 (cqiDataOffset entries)
    apply (fillCqiOffsets_sameLengths (cqiDataOffset entries)).mp
    intro entry hentry
    have hraw : entry.raw.length = entry.pdu.arrived.decodedLength.toNat :=
      hlengths _ (List.mem_map_of_mem hentry)
    rw [(hfilled entry hentry).length] at hraw
    exact (hfilled entry hentry).sameLengths_iff.mpr (UInt16.toNat_inj.mp hraw.symm)

/-- A packed RX_ULSCH or CQI indication comes back as it was, with the offset of each payload in
its PDU, exactly if no CQI PDU has two different lengths, and the offset fields can be filled in:
a field holds the marker and all PDUs with a payload in front of it have one field that does, or the
field already holds the right offset. -/
theorem payloads_intact_iff (message : PayloadMessage) (header : P7MessageHeader) (limit : ℕ)
    (packed : List UInt8) (hfits : message.Fits)
    (hpacked : packMessagePayloads limit header message = .ok (some packed)) :
    message.Intact header packed ↔ message.Sound := by
  obtain ⟨hbody, hlength⟩ := hfits.body_of_packed hpacked
  unfold PayloadMessage.Intact PayloadMessage.Sound
  rw [hbody]
  constructor
  · rintro ⟨hunpack, hlocates⟩
    have hsame := hfits.sameLengths hunpack
    exact ⟨hsame, (hfits.locates_iff hsame hlength).mp hlocates⟩
  · rintro ⟨hsame, hready⟩
    exact ⟨hfits.survives hsame hpacked, (hfits.locates_iff hsame hlength).mpr hready⟩

end Intact

/-- An RX PDU with one byte of payload. -/
def oneByteRx (offset : UInt16) (byte : UInt8) : RxIndicationPdu where
  rxUeInformation := { tl := ⟨rxUeInformationTag, 0⟩, handle := 7, rnti := 17 }
  rxIndicationRel8 := { tl := ⟨rxIndicationRel8Tag, 0⟩, length := 1, offset }
  rxIndicationRel9 := { tl := ⟨rxIndicationRel9Tag, 0⟩ }
  rxIndData := [byte]

theorem oneByteRx_fits (offset : UInt16) (byte : UInt8) : (oneByteRx offset byte).Fits :=
  ⟨rfl, rfl, rfl, rfl, Nat.le_of_ble_eq_true rfl⟩

/-- An RX_ULSCH indication of two PDUs with these offset fields. -/
def twoRx (first second : UInt16) : PayloadMessage :=
  .rxUlsch ⟨21, ⟨rxIndicationBodyTag, 0⟩⟩ [oneByteRx first 10, oneByteRx second 11]

theorem twoRx_fits (first second : UInt16) : (twoRx first second).Fits := by
  refine ⟨rfl, Nat.le_of_ble_eq_true rfl, ?_⟩
  rw [List.forall_mem_cons, List.forall_mem_cons]
  exact ⟨oneByteRx_fits first 10, oneByteRx_fits second 11,
    fun _ hpdu ↦ absurd hpdu List.not_mem_nil⟩

theorem markedRx_intact_iff : ∃ packed,
    packMessagePayloads 200 {} (twoRx 1 1) = .ok (some packed) ∧
      ((twoRx 1 1).Intact {} packed ↔ (twoRx 1 1).Sound) := by
  obtain ⟨packed, hpacked⟩ := @PayloadMessage.Fits.packs 200 _ (twoRx_fits 1 1) {}
    (by decide +kernel) (by decide +kernel)
  exact ⟨packed, hpacked, payloads_intact_iff (twoRx 1 1) {} 200 packed (twoRx_fits 1 1) hpacked⟩

/-- PDUs that were decoded from the messages of two UEs, each with its payload behind its only PDU,
keep their offsets in the message for both. -/
theorem decodedRx_not_intact : (twoRx 29 29).Fits ∧ ∃ packed,
    packMessagePayloads 200 {} (twoRx 29 29) = .ok (some packed) ∧
      ¬ (twoRx 29 29).Intact {} packed := by
  obtain ⟨packed, hpacked⟩ := @PayloadMessage.Fits.packs 200 _ (twoRx_fits 29 29) {}
    (by decide +kernel) (by decide +kernel)
  refine ⟨twoRx_fits 29 29, packed, hpacked, fun hintact ↦ ?_⟩
  obtain ⟨hbody, -⟩ := (twoRx_fits 29 29).body_of_packed hpacked
  have hfirst := hintact.2 [] (oneByteRx 29 10).payload [(oneByteRx 29 11).payload] rfl 29
    (List.mem_singleton.mpr rfl)
  rw [hbody] at hfirst
  have hlength := congrArg List.length hfirst.2
  exact absurd hlength (by decide +kernel)

end MultiUeProxy.P7.LteUplink
