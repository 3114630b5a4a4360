import MultiUeProxy.P7.Pack
import MultiUeProxy.P7.Unpack

/-!
# Packing the NR uplink indications

The encoders of `nfapi_p7.c` for the NR uplink indications, next to the decoders of `NrUplink`.

The encoders for RX_DATA, SRS and RACH look at the results of all their pushes. The UCI encoder
ignores the result for each PDU, so that a message can be packed that has lost a part of one, and
the CRC encoder ignores the results of all pushes behind the number of PDUs.
`nrUplink_survives_iff` says which messages come back as they were packed.
-/

set_option autoImplicit false
set_option relaxedAutoImplicit false

namespace MultiUeProxy.P7.NrUplink

open Lib.Execution Lib.ByteCursor Lib.ByteWriter Lib.Codec Lib.Lockstep Header Pack Unpack
open Lib.ByteWriter.Push (push8 push16 push32 pusharray8)
open Lib.ByteCursor.Pull (pull8 pull16 pull32 repeatPull attempt)

/-! ### The encoders -/

/-- The common text of the RX_DATA, CRC and UCI encoders. -/
def packNrIndication {π : Type} (packPdu : π → Push Unit) (limit : ℕ) (frame : NrFrame)
    (pduList : List π) : Push Unit := do
  push16 limit frame.sfn
  push16 limit frame.slot
  push16 limit pduList.length.toUInt16
  Push.forEach packPdu pduList

def packNrRxDataIndicationBody (limit : ℕ) (value : NrRxDataPdu) : Push Unit := do
  push32 limit value.handle
  push16 limit value.rnti
  push8 limit value.harqId
  push16 limit value.pduLength
  push8 limit value.ulCqi
  push16 limit value.timingAdvance
  push16 limit value.rssi
  pusharray8 value.pdu value.pduLength.toNat value.pduLength.toNat limit

/-- `nfapi_nr_crc_t` with the status of the code blocks behind its pointer. -/
structure NrCrcReport where
  crc : NrCrc
  cbCrcStatus : List UInt8
  deriving DecidableEq, Repr

/-- The status is pushed if there are code blocks. -/
def packCbCrcStatus (limit : ℕ) (value : NrCrcReport) : Push Unit :=
  if value.crc.numCb ≠ 0 then
    Push.attempt (pusharray8 value.cbCrcStatus (value.crc.numCb.toNat / 8 + 1)
      (value.crc.numCb.toNat / 8 + 1) limit)
  else pure ()

def packNrCrcIndicationBody (limit : ℕ) (value : NrCrcReport) : Push Unit := do
  Push.attempt (push32 limit value.crc.handle)
  Push.attempt (push16 limit value.crc.rnti)
  Push.attempt (push8 limit value.crc.harqId)
  Push.attempt (push8 limit value.crc.tbCrcStatus)
  Push.attempt (push16 limit value.crc.numCb)
  packCbCrcStatus limit value
  Push.attempt (push8 limit value.crc.ulCqi)
  Push.attempt (push16 limit value.crc.timingAdvance)
  Push.attempt (push16 limit value.crc.rssi)

/-- The bytes of a number of bits. -/
def pushBits (limit : ℕ) (bitLen : UInt16) (payload : List UInt8) : Push Unit :=
  pusharray8 payload (bitLen.toNat / 8 + 1) (bitLen.toNat / 8 + 1) limit

def packNrCrcBits (limit : ℕ) (value : NrCrcBits) : Push Unit := do
  push8 limit value.crc
  push16 limit value.bitLen
  pushBits limit value.bitLen value.payload

/-- A part of a PDU, if its bit is set. -/
def packPart (pduBitmap bit : UInt8) (limit : ℕ) (value : NrCrcBits) : Push Unit :=
  if hasPart pduBitmap bit then packNrCrcBits limit value else pure ()

def packNrSrPdu01 (limit : ℕ) (value : NrSrPdu01) : Push Unit := do
  push8 limit value.srIndication
  push8 limit value.srConfidenceLevel

def packNrHarqPdu01 (limit : ℕ) (value : NrHarqPdu01) : Push Unit := do
  push8 limit value.numHarq
  push8 limit value.harqConfidenceLevel
  Push.forEach (push8 limit) value.harqList

/-- A part behind a pointer, if its bit is set. -/
def packPointer {π : Type} (packPdu : π → Push Unit) (pduBitmap bit : UInt8) (value : Option π) :
    Push Unit :=
  if hasPart pduBitmap bit then value.elim (Push.crash .fault) packPdu else pure ()

def packNrSrPdu234 (limit : ℕ) (value : NrSrPdu234) : Push Unit := do
  push16 limit value.srBitLen
  pushBits limit value.srBitLen value.srPayload

/-- The SR part of the PDU, if its bit is set. -/
def packSr234 (pduBitmap : UInt8) (limit : ℕ) (value : NrSrPdu234) : Push Unit :=
  if hasPart pduBitmap 0 then packNrSrPdu234 limit value else pure ()

def packNrUciPucch01 (limit : ℕ) (value : NrUciPucchPduFormat01) : Push Unit := do
  push8 limit value.pduBitmap
  push32 limit value.handle
  push16 limit value.rnti
  push8 limit value.pucchFormat
  push8 limit value.ulCqi
  push16 limit value.timingAdvance
  push16 limit value.rssi
  packPointer (packNrSrPdu01 limit) value.pduBitmap 0 value.sr
  packPointer (packNrHarqPdu01 limit) value.pduBitmap 1 value.harq

def packNrUciPucch234 (limit : ℕ) (value : NrUciPucchPduFormat234) : Push Unit := do
  push8 limit value.pduBitmap
  push32 limit value.handle
  push16 limit value.rnti
  push8 limit (value.pucchFormat - 2)
  push8 limit value.ulCqi
  push16 limit value.timingAdvance
  push16 limit value.rssi
  packSr234 value.pduBitmap limit value.sr
  packPart value.pduBitmap 1 limit value.harq
  packPart value.pduBitmap 2 limit value.csiPart1
  packPart value.pduBitmap 3 limit value.csiPart2

def packNrUciPusch (limit : ℕ) (value : NrUciPuschPdu) : Push Unit := do
  push8 limit value.pduBitmap
  push32 limit value.handle
  push16 limit value.rnti
  push8 limit value.ulCqi
  push16 limit value.timingAdvance
  push16 limit value.rssi
  packPart value.pduBitmap 1 limit value.harq
  packPart value.pduBitmap 2 limit value.csiPart1
  packPart value.pduBitmap 3 limit value.csiPart2

/-- The switch over the type of a PDU, which says what is in the union. -/
def packNrUciPdu (limit : ℕ) : NrUciPdu → Push Unit
  | .pusch pdu => packNrUciPusch limit pdu
  | .pucchFormat01 pdu => packNrUciPucch01 limit pdu
  | .pucchFormat234 pdu => packNrUciPucch234 limit pdu
  | .unexpected => pure ()

def packNrUciIndicationBody (limit : ℕ) (value : NrUci) : Push Unit := do
  push16 limit value.pduType
  push16 limit value.pduSize
  -- the result of the switch is ignored
  Push.attempt (packNrUciPdu limit value.pdu)

def packNrSrsReportTlv (limit : ℕ) (value : SrsReportTlv) : Push Unit := do
  push16 limit value.tag
  push32 limit value.length
  Push.forEach (push32 limit) value.value

def packNrSrsIndicationBody (limit : ℕ) (value : NrSrsIndicationPdu) : Push Unit := do
  push32 limit value.handle
  push16 limit value.rnti
  push16 limit value.timingAdvanceOffset
  push16 limit value.timingAdvanceOffsetNsec
  push8 limit value.srsUsage
  push8 limit value.reportType
  packNrSrsReportTlv limit value.reportTlv

def packNrSrsIndication (limit : ℕ) (frame : NrSrsFrame) (pduList : List NrSrsIndicationPdu) :
    Push Unit := do
  push16 limit frame.sfn
  push16 limit frame.slot
  push16 limit frame.controlLength
  push8 limit pduList.length.toUInt8
  Push.forEach (packNrSrsIndicationBody limit) pduList

def packNrPrachPreamble (limit : ℕ) (value : NrPrachIndicationPreamble) : Push Unit := do
  push8 limit value.preambleIndex
  push16 limit value.timingAdvance
  push32 limit value.preamblePwr

def packNrRachIndicationBody (limit : ℕ) (value : NrPrachIndicationPdu) : Push Unit := do
  push16 limit value.phyCellId
  push8 limit value.symbolIndex
  push8 limit value.slotIndex
  push8 limit value.freqIndex
  push8 limit value.avgRssi
  push8 limit value.avgSnr
  push8 limit value.numPreamble
  Push.forEach (packNrPrachPreamble limit) value.preambleList

def packNrRachIndication (limit : ℕ) (frame : NrFrame) (pduList : List NrPrachIndicationPdu) :
    Push Unit := do
  push16 limit frame.sfn
  push16 limit frame.slot
  push8 limit pduList.length.toUInt8
  Push.forEach (packNrRachIndicationBody limit) pduList

/-! ### Messages -/

/-- An uplink indication to be packed. The number of its PDUs is the length of their list. -/
inductive NrUplinkMessage where
  | rxData (frame : NrFrame) (pduList : List NrRxDataPdu)
  | crc (frame : NrFrame) (crcList : List NrCrcReport)
  | uci (frame : NrFrame) (uciList : List NrUci)
  | srs (frame : NrSrsFrame) (pduList : List NrSrsIndicationPdu)
  | rach (frame : NrFrame) (pduList : List NrPrachIndicationPdu)

/-- The id of the messages that carry the indication. -/
def NrUplinkMessage.messageId : NrUplinkMessage → UInt16
  | rxData _ _ => nrRxDataIndication
  | crc _ _ => nrCrcIndication
  | uci _ _ => nrUciIndication
  | srs _ _ => nrSrsIndication
  | rach _ _ => nrRachIndication

/-- The switch over the message id. -/
def packNrUplink (limit : ℕ) : NrUplinkMessage → Push Unit
  | .rxData frame pduList =>
    packNrIndication (packNrRxDataIndicationBody limit) limit frame pduList
  | .crc frame crcList => packNrIndication (packNrCrcIndicationBody limit) limit frame crcList
  | .uci frame uciList => packNrIndication (packNrUciIndicationBody limit) limit frame uciList
  | .srs frame pduList => packNrSrsIndication limit frame pduList
  | .rach frame pduList => packNrRachIndication limit frame pduList

/-- `nfapi_nr_p7_message_pack` of an uplink indication in a message with this header. -/
def packMessageNrUplink (limit : ℕ) (header : P7MessageHeader) (message : NrUplinkMessage) :
    Outcome (Option (List UInt8)) :=
  packMessage (packNrUplink limit message) limit { header with messageId := message.messageId }

/-! ### What is to be carried over -/

def NrRxDataPdu.Fits (value : NrRxDataPdu) : Prop := value.pdu.length = value.pduLength.toNat

def NrCrcReport.Fits (value : NrCrcReport) : Prop :=
  value.crc.numCb ≠ 0 → value.cbCrcStatus.length = value.crc.numCb.toNat / 8 + 1

/-- The status that is to be reported. -/
def NrCrcReport.status (value : NrCrcReport) : List UInt8 :=
  if value.crc.numCb ≠ 0 then value.cbCrcStatus else []

def NrCrcBits.Fits (value : NrCrcBits) : Prop :=
  value.payload.length = value.bitLen.toNat / 8 + 1

def NrSrPdu234.Fits (value : NrSrPdu234) : Prop :=
  value.srPayload.length = value.srBitLen.toNat / 8 + 1

def NrHarqPdu01.Fits (value : NrHarqPdu01) : Prop :=
  value.harqList.length = value.numHarq.toNat

/-- The parts of a PDU that are there have as many bytes as their numbers of bits say. -/
structure NrUciPuschPdu.Fits (value : NrUciPuschPdu) : Prop where
  harq : hasPart value.pduBitmap 1 → value.harq.Fits
  csiPart1 : hasPart value.pduBitmap 2 → value.csiPart1.Fits
  csiPart2 : hasPart value.pduBitmap 3 → value.csiPart2.Fits

structure NrUciPucchPduFormat01.Fits (value : NrUciPucchPduFormat01) : Prop where
  sr : hasPart value.pduBitmap 0 → ∃ sr, value.sr = some sr
  harq : hasPart value.pduBitmap 1 → ∃ harq, value.harq = some harq ∧ harq.Fits

structure NrUciPucchPduFormat234.Fits (value : NrUciPucchPduFormat234) : Prop where
  sr : hasPart value.pduBitmap 0 → value.sr.Fits
  harq : hasPart value.pduBitmap 1 → value.harq.Fits
  csiPart1 : hasPart value.pduBitmap 2 → value.csiPart1.Fits
  csiPart2 : hasPart value.pduBitmap 3 → value.csiPart2.Fits

/-- The union holds the PDU that the type says. -/
def NrUci.Fits (value : NrUci) : Prop :=
  match value.pdu with
  | .pusch pdu => value.pduType = 0 ∧ pdu.Fits
  | .pucchFormat01 pdu => value.pduType = 1 ∧ pdu.Fits
  | .pucchFormat234 pdu => value.pduType = 2 ∧ pdu.Fits
  | .unexpected => value.pduType ≠ 0 ∧ value.pduType ≠ 1 ∧ value.pduType ≠ 2

/-- `value` of `nfapi_srs_report_tlv_t` has room for so many words. -/
def srsReportWords : ℕ := 16384

def NrSrsIndicationPdu.Fits (value : NrSrsIndicationPdu) : Prop :=
  value.reportTlv.value.length = value.reportTlv.length.toNat ∧
    value.reportTlv.value.length ≤ srsReportWords

def NrPrachIndicationPdu.Fits (value : NrPrachIndicationPdu) : Prop :=
  value.preambleList.length = value.numPreamble.toNat

/-- The counts of a message are the lengths of what they count. -/
def NrUplinkMessage.Fits : NrUplinkMessage → Prop
  | rxData _ pduList => pduList.length < 65536 ∧ ∀ pdu ∈ pduList, pdu.Fits
  | crc _ crcList => crcList.length < 65536 ∧ ∀ crc ∈ crcList, crc.Fits
  | uci _ uciList => uciList.length < 65536 ∧ ∀ uci ∈ uciList, uci.Fits
  | srs _ pduList => pduList.length < 256 ∧ ∀ pdu ∈ pduList, pdu.Fits
  | rach _ pduList => pduList.length < 256 ∧ ∀ pdu ∈ pduList, pdu.Fits

/-- A part that is not there is zero on the other side. -/
def selectPart (pduBitmap bit : UInt8) (value : NrCrcBits) : NrCrcBits :=
  if hasPart pduBitmap bit then value else {}

/-- A PDU with the parts that its bitmap selects. -/
def NrUciPuschPdu.selected (value : NrUciPuschPdu) : NrUciPuschPdu :=
  { value with
    harq := selectPart value.pduBitmap 1 value.harq
    csiPart1 := selectPart value.pduBitmap 2 value.csiPart1
    csiPart2 := selectPart value.pduBitmap 3 value.csiPart2 }

def NrUciPucchPduFormat01.selected (value : NrUciPucchPduFormat01) : NrUciPucchPduFormat01 :=
  { value with
    sr := if hasPart value.pduBitmap 0 then value.sr else none
    harq := if hasPart value.pduBitmap 1 then value.harq else none }

def NrUciPucchPduFormat234.selected (value : NrUciPucchPduFormat234) : NrUciPucchPduFormat234 :=
  { value with
    sr := if hasPart value.pduBitmap 0 then value.sr else {}
    harq := selectPart value.pduBitmap 1 value.harq
    csiPart1 := selectPart value.pduBitmap 2 value.csiPart1
    csiPart2 := selectPart value.pduBitmap 3 value.csiPart2 }

def NrUciPdu.selected : NrUciPdu → NrUciPdu
  | pusch pdu => pusch pdu.selected
  | pucchFormat01 pdu => pucchFormat01 pdu.selected
  | pucchFormat234 pdu => pucchFormat234 pdu.selected
  | unexpected => unexpected

def NrUci.selected (value : NrUci) : NrUci := { value with pdu := value.pdu.selected }

/-- The indication on the other side. -/
def NrUplinkMessage.received (header : P7MessageHeader) : NrUplinkMessage → NrIndication
  | rxData frame pduList => .rxData { header, frame, number := pduList.length, pduList }
  | crc frame crcList =>
    .crc { header, frame, number := crcList.length, pduList := crcList.map NrCrcReport.crc }
  | uci frame uciList =>
    .uci { header, frame, number := uciList.length, pduList := uciList.map NrUci.selected }
  | srs frame pduList => .srs { header, frame, number := pduList.length, pduList }
  | rach frame pduList => .rach { header, frame, number := pduList.length, pduList }

/-- There is no status of code blocks, as behind the null pointers on the other side. -/
def NrUplinkMessage.NoStatus : NrUplinkMessage → Prop
  | crc _ crcList => ∀ crc ∈ crcList, crc.status = []
  | _ => True

/-- The packed message is unpacked to the same indication, without an access to a place that was
not allocated. -/
def NrUplinkMessage.Survives (message : NrUplinkMessage) (header : P7MessageHeader)
    (packed : List UInt8) : Prop :=
  nfapiNrP7MessageUnpack (memoryOf packed) packed.length =
      .ok (some (message.received (packedHeader { header with messageId := message.messageId }
        packed.length.toUInt16))) ∧
    message.NoStatus

/-! ### RX_DATA, SRS and RACH -/

/-- The bytes in front of the PDUs of an RX_DATA, CRC or UCI indication. -/
def frameBytes (frame : NrFrame) (number : ℕ) : List UInt8 :=
  bytes16 frame.sfn ++ (bytes16 frame.slot ++ bytes16 number.toUInt16)

def rxDataPduBytes (value : NrRxDataPdu) : List UInt8 :=
  bytes32 value.handle ++ (bytes16 value.rnti ++ ([value.harqId] ++ (bytes16 value.pduLength ++
    ([value.ulCqi] ++ (bytes16 value.timingAdvance ++ (bytes16 value.rssi ++ value.pdu))))))

def srsReportBytes (value : SrsReportTlv) : List UInt8 :=
  bytes16 value.tag ++ (bytes32 value.length ++ value.value.flatMap bytes32)

def srsPduBytes (value : NrSrsIndicationPdu) : List UInt8 :=
  bytes32 value.handle ++ (bytes16 value.rnti ++ (bytes16 value.timingAdvanceOffset ++
    (bytes16 value.timingAdvanceOffsetNsec ++ ([value.srsUsage] ++ ([value.reportType] ++
      srsReportBytes value.reportTlv)))))

def srsBytes (frame : NrSrsFrame) (pduList : List NrSrsIndicationPdu) : List UInt8 :=
  bytes16 frame.sfn ++ (bytes16 frame.slot ++ (bytes16 frame.controlLength ++
    ([pduList.length.toUInt8] ++ pduList.flatMap srsPduBytes)))

def preambleBytes (value : NrPrachIndicationPreamble) : List UInt8 :=
  [value.preambleIndex] ++ (bytes16 value.timingAdvance ++ bytes32 value.preamblePwr)

def rachPduBytes (value : NrPrachIndicationPdu) : List UInt8 :=
  bytes16 value.phyCellId ++ ([value.symbolIndex] ++ ([value.slotIndex] ++ ([value.freqIndex] ++
    ([value.avgRssi] ++ ([value.avgSnr] ++ ([value.numPreamble] ++
      value.preambleList.flatMap preambleBytes))))))

def rachBytes (frame : NrFrame) (pduList : List NrPrachIndicationPdu) : List UInt8 :=
  bytes16 frame.sfn ++ (bytes16 frame.slot ++ ([pduList.length.toUInt8] ++
    pduList.flatMap rachPduBytes))

section Checked

variable {limit : ℕ}

theorem emits_packNrRxDataIndicationBody {value : NrRxDataPdu} (hfits : value.Fits) :
    Emits limit (packNrRxDataIndicationBody limit value) (rxDataPduBytes value) := by
  have hpdu := @emits_pusharray8 limit _ value.pduLength.toNat _ hfits (Nat.le_refl _)
  unfold packNrRxDataIndicationBody rxDataPduBytes
  infer_instance

theorem decodes_unpackNrRxDataIndicationBody {value : NrRxDataPdu} (hfits : value.Fits) :
    Decodes limit (unpackNrRxDataIndicationBody limit) (rxDataPduBytes value) value := by
  have hpdu : Decodes limit
      (Pull.pullarray8 value.pduLength.toNat value.pduLength.toNat limit) value.pdu value.pdu :=
    ⟨reads_pullarray8 hfits (Nat.le_refl _)⟩
  unfold unpackNrRxDataIndicationBody rxDataPduBytes
  infer_instance

theorem emits_packNrIndication {π : Type} {packPdu : π → Push Unit} {g : π → List UInt8}
    {frame : NrFrame} {pduList : List π}
    (hpdu : ∀ pdu ∈ pduList, Emits limit (packPdu pdu) (g pdu)) :
    Emits limit (packNrIndication packPdu limit frame pduList)
      (frameBytes frame pduList.length ++ pduList.flatMap g) := by
  have hlist := emits_forEach hpdu
  unfold packNrIndication frameBytes
  rw [List.append_assoc, List.append_assoc]
  infer_instance

theorem reads_unpackNrIndication {π ρ : Type} {unpackPdu : ℕ → Pull π} {g : ρ → List UInt8}
    {h : ρ → π} {header : P7MessageHeader} {frame : NrFrame} {pduList : List ρ}
    (hlength : pduList.length < 65536)
    (hpdu : ∀ pdu ∈ pduList, Reads limit (unpackPdu limit) (g pdu) (h pdu)) :
    Reads limit (unpackNrIndication unpackPdu header limit)
      (frameBytes frame pduList.length ++ pduList.flatMap g)
      { header, frame, number := pduList.length, pduList := pduList.map h } := by
  have hlist := reads_repeatPull hpdu
  have hnumber := toNat_number16 hlength
  unfold unpackNrIndication frameBytes
  rw [List.append_assoc, List.append_assoc]
  refine (reads_pull16 limit _).bind ((reads_pull16 limit _).bind ((reads_pull16 limit _).bind ?_))
  rw [hnumber]
  exact hlist.map

theorem emits_packNrSrsIndicationBody {value : NrSrsIndicationPdu} :
    Emits limit (packNrSrsIndicationBody limit value) (srsPduBytes value) := by
  unfold packNrSrsIndicationBody packNrSrsReportTlv srsPduBytes srsReportBytes
  infer_instance

theorem emits_packNrSrsIndication {frame : NrSrsFrame} {pduList : List NrSrsIndicationPdu} :
    Emits limit (packNrSrsIndication limit frame pduList) (srsBytes frame pduList) := by
  have hlist : Emits limit (Push.forEach (packNrSrsIndicationBody limit) pduList)
      (pduList.flatMap srsPduBytes) := emits_forEach fun _ _ ↦ emits_packNrSrsIndicationBody
  unfold packNrSrsIndication srsBytes
  infer_instance

/-- Words that are pulled one by one. -/
theorem reads_words (words : List UInt32) :
    Reads limit (repeatPull (pull32 limit) words.length) (words.flatMap bytes32) words := by
  have hwords := @reads_repeatPull limit _ _ (pull32 limit) bytes32 id words
    fun word _ ↦ reads_pull32 limit word
  rwa [List.map_id] at hwords

theorem decodes_unpackNrSrsIndicationBody {value : NrSrsIndicationPdu} (hfits : value.Fits) :
    Decodes limit (unpackNrSrsIndicationBody limit) (srsPduBytes value) value := by
  have hwords : Decodes limit (repeatPull (pull32 limit) value.reportTlv.length.toNat)
      (value.reportTlv.value.flatMap bytes32) value.reportTlv.value := by
    rw [← hfits.1]
    exact ⟨reads_words _⟩
  unfold unpackNrSrsIndicationBody unpackNrSrsReportTlv srsPduBytes srsReportBytes
  infer_instance

/-- A list with at most one PDU has room on the other side. -/
theorem reads_unpackNrSrsIndication {header : P7MessageHeader} {frame : NrSrsFrame}
    {pduList : List NrSrsIndicationPdu} (hlength : pduList.length ≤ 1)
    (hfits : ∀ pdu ∈ pduList, pdu.Fits) :
    Reads limit (unpackNrSrsIndication header limit) (srsBytes frame pduList)
      { header, frame, number := pduList.length, pduList } := by
  have hlist : Decodes limit (unpackNrSrsPdus limit pduList.length)
      (pduList.flatMap srsPduBytes) pduList := by
    match pduList with
    | [] => exact ⟨reads_pure limit []⟩
    | [pdu] =>
      have hpdu : Decodes limit (unpackNrSrsIndicationBody limit) (srsPduBytes pdu) pdu :=
        decodes_unpackNrSrsIndicationBody (hfits pdu List.mem_cons_self)
      rw [List.flatMap_cons, List.flatMap_nil, List.append_nil]
      exact ⟨hpdu.reads.map⟩
  have hnumber := toNat_number8 (Nat.lt_of_le_of_lt hlength (by decide))
  unfold unpackNrSrsIndication srsBytes
  refine (reads_pull16 limit _).bind ((reads_pull16 limit _).bind ((reads_pull16 limit _).bind
    ((reads_pull8 limit _).bind ?_)))
  rw [hnumber]
  exact hlist.reads.map

/-- The handle of a second PDU is written behind the list. -/
theorem stops_unpackNrSrsIndication {header : P7MessageHeader} {frame : NrSrsFrame}
    {pduList : List NrSrsIndicationPdu} (hlength : ¬ pduList.length ≤ 1)
    (hnumber : pduList.length < 256) (hfits : ∀ pdu ∈ pduList, pdu.Fits) :
    Stops limit (unpackNrSrsIndication header limit) (srsBytes frame pduList)
      (.crash .fault) := by
  have hlist : Stops limit (unpackNrSrsPdus limit pduList.length)
      (pduList.flatMap srsPduBytes) (.crash .fault) := by
    match pduList with
    | [] => exact absurd (Nat.zero_le 1) hlength
    | [pdu] => exact absurd (Nat.le_refl 1) hlength
    | first :: second :: others =>
      have hfirst := @decodes_unpackNrSrsIndicationBody limit first (hfits first List.mem_cons_self)
      rw [List.flatMap_cons, List.flatMap_cons, srsPduBytes.eq_1 second, List.append_assoc]
      show Stops limit (do
        let _first ← unpackNrSrsIndicationBody limit
        let _handle ← pull32 limit
        Pull.crash .fault) _ _
      refine Stops.after hfirst.reads (Stops.after (reads_pull32 limit _) ?_)
      exact fun _ _ _ _ ↦ rfl
  unfold unpackNrSrsIndication srsBytes
  refine Stops.after (reads_pull16 limit _) (Stops.after (reads_pull16 limit _)
    (Stops.after (reads_pull16 limit _) (Stops.after (reads_pull8 limit _) ?_)))
  rw [toNat_number8 hnumber]
  exact hlist.bind

theorem emits_packNrRachIndication {frame : NrFrame} {pduList : List NrPrachIndicationPdu} :
    Emits limit (packNrRachIndication limit frame pduList) (rachBytes frame pduList) := by
  have hpdu : ∀ pdu ∈ pduList,
      Emits limit (packNrRachIndicationBody limit pdu) (rachPduBytes pdu) := by
    intro pdu _
    have hpreamble : ∀ preamble ∈ pdu.preambleList,
        Emits limit (packNrPrachPreamble limit preamble) (preambleBytes preamble) := by
      intro preamble _
      unfold packNrPrachPreamble preambleBytes
      infer_instance
    have hpreambles := emits_forEach hpreamble
    unfold packNrRachIndicationBody rachPduBytes
    infer_instance
  have hlist := emits_forEach hpdu
  unfold packNrRachIndication rachBytes
  infer_instance

theorem decodes_unpackNrRachIndicationBody {value : NrPrachIndicationPdu} (hfits : value.Fits) :
    Decodes limit (unpackNrRachIndicationBody limit) (rachPduBytes value) value := by
  have hpreamble : ∀ preamble ∈ value.preambleList,
      Reads limit (unpackNrPrachPreamble limit) (preambleBytes preamble) (id preamble) := by
    intro preamble _
    have hdecodes :
        Decodes limit (unpackNrPrachPreamble limit) (preambleBytes preamble) preamble := by
      unfold unpackNrPrachPreamble preambleBytes
      infer_instance
    exact hdecodes.reads
  have hlist : Decodes limit (repeatPull (unpackNrPrachPreamble limit) value.numPreamble.toNat)
      (value.preambleList.flatMap preambleBytes) value.preambleList := by
    have hreads := reads_repeatPull hpreamble
    rw [List.map_id, hfits] at hreads
    exact ⟨hreads⟩
  unfold unpackNrRachIndicationBody rachPduBytes
  infer_instance

theorem reads_unpackNrRachIndication {header : P7MessageHeader} {frame : NrFrame}
    {pduList : List NrPrachIndicationPdu} (hlength : pduList.length < 256)
    (hfits : ∀ pdu ∈ pduList, pdu.Fits) :
    Reads limit (unpackNrRachIndication header limit) (rachBytes frame pduList)
      { header, frame, number := pduList.length, pduList } := by
  have hpdu : ∀ pdu ∈ pduList,
      Reads limit (unpackNrRachIndicationBody limit) (rachPduBytes pdu) (id pdu) :=
    fun pdu hmem ↦ (decodes_unpackNrRachIndicationBody (hfits pdu hmem)).reads
  have hlist := reads_repeatPull hpdu
  rw [List.map_id] at hlist
  unfold unpackNrRachIndication rachBytes
  refine (reads_attempt (reads_pull16 limit _)).bind ((reads_attempt (reads_pull16 limit _)).bind
    ((reads_pull8 limit _).bind ?_))
  rw [toNat_number8 hlength]
  exact hlist.map

end Checked

/-! ### UCI -/

def crcBitsBytes (value : NrCrcBits) : List UInt8 :=
  [value.crc] ++ (bytes16 value.bitLen ++ value.payload)

def partBytes (pduBitmap bit : UInt8) (value : NrCrcBits) : List UInt8 :=
  if hasPart pduBitmap bit then crcBitsBytes value else []

def sr01Bytes (value : NrSrPdu01) : List UInt8 := [value.srIndication] ++ [value.srConfidenceLevel]

def harq01Bytes (value : NrHarqPdu01) : List UInt8 :=
  [value.numHarq] ++ ([value.harqConfidenceLevel] ++ value.harqList.flatMap fun bit ↦ [bit])

def pointerBytes {π : Type} (g : π → List UInt8) (pduBitmap bit : UInt8) (value : Option π) :
    List UInt8 :=
  if hasPart pduBitmap bit then value.elim [] g else []

def sr234Bytes (pduBitmap : UInt8) (value : NrSrPdu234) : List UInt8 :=
  if hasPart pduBitmap 0 then bytes16 value.srBitLen ++ value.srPayload else []

def pucch01Bytes (value : NrUciPucchPduFormat01) : List UInt8 :=
  [value.pduBitmap] ++ (bytes32 value.handle ++ (bytes16 value.rnti ++ ([value.pucchFormat] ++
    ([value.ulCqi] ++ (bytes16 value.timingAdvance ++ (bytes16 value.rssi ++
      (pointerBytes sr01Bytes value.pduBitmap 0 value.sr ++
        pointerBytes harq01Bytes value.pduBitmap 1 value.harq)))))))

def pucch234Bytes (value : NrUciPucchPduFormat234) : List UInt8 :=
  [value.pduBitmap] ++ (bytes32 value.handle ++ (bytes16 value.rnti ++ ([value.pucchFormat - 2] ++
    ([value.ulCqi] ++ (bytes16 value.timingAdvance ++ (bytes16 value.rssi ++
      (sr234Bytes value.pduBitmap value.sr ++ (partBytes value.pduBitmap 1 value.harq ++
        (partBytes value.pduBitmap 2 value.csiPart1 ++
          partBytes value.pduBitmap 3 value.csiPart2)))))))))

def puschBytes (value : NrUciPuschPdu) : List UInt8 :=
  [value.pduBitmap] ++ (bytes32 value.handle ++ (bytes16 value.rnti ++ ([value.ulCqi] ++
    (bytes16 value.timingAdvance ++ (bytes16 value.rssi ++
      (partBytes value.pduBitmap 1 value.harq ++ (partBytes value.pduBitmap 2 value.csiPart1 ++
        partBytes value.pduBitmap 3 value.csiPart2)))))))

def uciPduBytes : NrUciPdu → List UInt8
  | .pusch pdu => puschBytes pdu
  | .pucchFormat01 pdu => pucch01Bytes pdu
  | .pucchFormat234 pdu => pucch234Bytes pdu
  | .unexpected => []

def uciBytes (value : NrUci) : List UInt8 :=
  bytes16 value.pduType ++ (bytes16 value.pduSize ++ uciPduBytes value.pdu)

/-- A part behind a pointer, if its bit is set. -/
def unpackPointer {π : Type} (unpackPdu : Pull π) (pduBitmap bit : UInt8) : Pull (Option π) :=
  if hasPart pduBitmap bit then some <$> unpackPdu else pure none

/-- The SR part of the PDU, if its bit is set. -/
def unpackSr234 (pduBitmap : UInt8) (limit : ℕ) : Pull NrSrPdu234 :=
  if hasPart pduBitmap 0 then unpackNrSrPdu234 limit else pure {}

theorem ite_bind_pull {p : Prop} [Decidable p] {α β : Type} (x y : Pull α) (f : α → Pull β) :
    ((if p then x else y) >>= f) = if p then x >>= f else y >>= f := by
  split_ifs <;> rfl

/-- The decoder with a part for each bit that it looks at. -/
theorem unpackNrUciPucch01_eq (limit : ℕ) : unpackNrUciPucch01 limit = do
    let pduBitmap ← pull8 limit
    let handle ← pull32 limit
    let rnti ← pull16 limit
    let pucchFormat ← pull8 limit
    let ulCqi ← pull8 limit
    let timingAdvance ← pull16 limit
    let rssi ← pull16 limit
    let sr ← unpackPointer (unpackNrSrPdu01 limit) pduBitmap 0
    let harq ← unpackPointer (unpackNrHarqPdu01 limit) pduBitmap 1
    return { pduBitmap, handle, rnti, pucchFormat, ulCqi, timingAdvance, rssi, sr, harq } := by
  simp only [unpackPointer, ite_bind_pull]
  rfl

theorem unpackNrUciPucch234_eq (limit : ℕ) : unpackNrUciPucch234 limit = do
    let pduBitmap ← pull8 limit
    let handle ← pull32 limit
    let rnti ← pull16 limit
    let pucchFormat ← pull8 limit
    let ulCqi ← pull8 limit
    let timingAdvance ← pull16 limit
    let rssi ← pull16 limit
    let sr ← unpackSr234 pduBitmap limit
    let harq ← unpackPart pduBitmap 1 limit
    let csiPart1 ← unpackPart pduBitmap 2 limit
    let csiPart2 ← unpackPart pduBitmap 3 limit
    return {
      pduBitmap, handle, rnti
      pucchFormat := pucchFormat + 2
      ulCqi, timingAdvance, rssi, sr, harq, csiPart1, csiPart2 } := by
  simp only [unpackSr234, ite_bind_pull]
  rfl

section Uci

variable {limit size : ℕ}

theorem mirrors_packNrCrcBits {value : NrCrcBits} (hfits : value.Fits) :
    Mirrors limit size (packNrCrcBits limit value) (unpackNrCrcBits size) (crcBitsBytes value)
      value := by
  have hpayload : Mirrors limit size (pushBits limit value.bitLen value.payload)
      (pullBits value.bitLen size) value.payload value.payload :=
    mirrors_array8 hfits (Nat.le_refl _) (Nat.le_refl _)
  unfold packNrCrcBits unpackNrCrcBits crcBitsBytes
  infer_instance

theorem mirrors_packPart {pduBitmap bit : UInt8} {value : NrCrcBits}
    (hfits : hasPart pduBitmap bit → value.Fits) :
    Mirrors limit size (packPart pduBitmap bit limit value) (unpackPart pduBitmap bit size)
      (partBytes pduBitmap bit value) (selectPart pduBitmap bit value) := by
  unfold packPart unpackPart partBytes selectPart
  split_ifs with hpart
  · exact mirrors_packNrCrcBits (hfits hpart)
  · infer_instance

theorem mirrors_packPointer {π : Type} {packPdu : π → Push Unit} {unpackPdu : Pull π}
    {g : π → List UInt8} {pduBitmap bit : UInt8} {value : Option π}
    (hpdu : hasPart pduBitmap bit → ∃ pdu, value = some pdu ∧
      Mirrors limit size (packPdu pdu) unpackPdu (g pdu) pdu) :
    Mirrors limit size (packPointer packPdu pduBitmap bit value)
      (unpackPointer unpackPdu pduBitmap bit) (pointerBytes g pduBitmap bit value)
      (if hasPart pduBitmap bit then value else none) := by
  unfold packPointer unpackPointer pointerBytes
  split_ifs with hpart
  · obtain ⟨pdu, rfl, hmirrors⟩ := hpdu hpart
    exact (inferInstance : Mirrors limit size (packPdu pdu) (some <$> unpackPdu) (g pdu) (some pdu))
  · infer_instance

theorem mirrors_packNrHarqPdu01 {value : NrHarqPdu01} (hfits : value.Fits) :
    Mirrors limit size (packNrHarqPdu01 limit value) (unpackNrHarqPdu01 size) (harq01Bytes value)
      value := by
  have hlist : Mirrors limit size (Push.forEach (push8 limit) value.harqList)
      (repeatPull (pull8 size) value.numHarq.toNat) (value.harqList.flatMap fun bit ↦ [bit])
      value.harqList := by
    have hbits := @mirrors_forEach _ limit size _ (push8 limit) (pull8 size) (fun bit ↦ [bit]) id
      value.harqList fun _ _ ↦ inferInstance
    rwa [List.map_id, hfits] at hbits
  unfold packNrHarqPdu01 unpackNrHarqPdu01 harq01Bytes
  infer_instance

theorem mirrors_packSr234 {pduBitmap : UInt8} {value : NrSrPdu234}
    (hfits : hasPart pduBitmap 0 → value.Fits) :
    Mirrors limit size (packSr234 pduBitmap limit value) (unpackSr234 pduBitmap size)
      (sr234Bytes pduBitmap value) (if hasPart pduBitmap 0 then value else {}) := by
  unfold packSr234 unpackSr234 sr234Bytes
  split_ifs with hpart
  · have hpayload : Mirrors limit size (pushBits limit value.srBitLen value.srPayload)
        (pullBits value.srBitLen size) value.srPayload value.srPayload :=
      mirrors_array8 (hfits hpart) (Nat.le_refl _) (Nat.le_refl _)
    unfold packNrSrPdu234 unpackNrSrPdu234
    infer_instance
  · infer_instance

theorem mirrors_packNrUciPucch01 {value : NrUciPucchPduFormat01} (hfits : value.Fits) :
    Mirrors limit size (packNrUciPucch01 limit value) (unpackNrUciPucch01 size)
      (pucch01Bytes value) value.selected := by
  have hsr : Mirrors limit size (packPointer (packNrSrPdu01 limit) value.pduBitmap 0 value.sr)
      (unpackPointer (unpackNrSrPdu01 size) value.pduBitmap 0)
      (pointerBytes sr01Bytes value.pduBitmap 0 value.sr)
      (if hasPart value.pduBitmap 0 then value.sr else none) := by
    apply mirrors_packPointer
    intro hpart
    obtain ⟨sr, hsr⟩ := hfits.sr hpart
    refine ⟨sr, hsr, ?_⟩
    unfold packNrSrPdu01 unpackNrSrPdu01 sr01Bytes
    infer_instance
  have hharq : Mirrors limit size
      (packPointer (packNrHarqPdu01 limit) value.pduBitmap 1 value.harq)
      (unpackPointer (unpackNrHarqPdu01 size) value.pduBitmap 1)
      (pointerBytes harq01Bytes value.pduBitmap 1 value.harq)
      (if hasPart value.pduBitmap 1 then value.harq else none) := by
    apply mirrors_packPointer
    intro hpart
    obtain ⟨harq, hharq, hlist⟩ := hfits.harq hpart
    exact ⟨harq, hharq, mirrors_packNrHarqPdu01 hlist⟩
  rw [unpackNrUciPucch01_eq]
  unfold packNrUciPucch01 pucch01Bytes NrUciPucchPduFormat01.selected
  infer_instance

theorem mirrors_packNrUciPucch234 {value : NrUciPucchPduFormat234} (hfits : value.Fits) :
    Mirrors limit size (packNrUciPucch234 limit value) (unpackNrUciPucch234 size)
      (pucch234Bytes value) value.selected := by
  have hsr := @mirrors_packSr234 limit size _ _ hfits.sr
  have hharq := @mirrors_packPart limit size _ _ _ hfits.harq
  have hcsi1 := @mirrors_packPart limit size _ _ _ hfits.csiPart1
  have hcsi2 := @mirrors_packPart limit size _ _ _ hfits.csiPart2
  have hformat : value.pucchFormat - 2 + 2 = value.pucchFormat := UInt8.sub_add_cancel _ _
  have hmirrors : Mirrors limit size (packNrUciPucch234 limit value) (unpackNrUciPucch234 size)
      (pucch234Bytes value)
      { value.selected with pucchFormat := value.pucchFormat - 2 + 2 } := by
    rw [unpackNrUciPucch234_eq]
    unfold packNrUciPucch234 pucch234Bytes NrUciPucchPduFormat234.selected
    infer_instance
  rwa [hformat] at hmirrors

theorem mirrors_packNrUciPusch {value : NrUciPuschPdu} (hfits : value.Fits) :
    Mirrors limit size (packNrUciPusch limit value) (unpackNrUciPusch size)
      (puschBytes value) value.selected := by
  have hharq := @mirrors_packPart limit size _ _ _ hfits.harq
  have hcsi1 := @mirrors_packPart limit size _ _ _ hfits.csiPart1
  have hcsi2 := @mirrors_packPart limit size _ _ _ hfits.csiPart2
  unfold packNrUciPusch unpackNrUciPusch puschBytes NrUciPuschPdu.selected
  infer_instance

theorem mirrors_packNrUciIndicationBody {value : NrUci} (hfits : value.Fits) :
    Mirrors limit size (packNrUciIndicationBody limit value) (unpackNrUciIndicationBody size)
      (uciBytes value) value.selected := by
  have hpdu : Mirrors limit size (packNrUciPdu limit value.pdu)
      (unpackNrUciPdu value.pduType size) (uciPduBytes value.pdu) value.pdu.selected := by
    unfold NrUci.Fits at hfits
    unfold unpackNrUciPdu
    cases hkind : value.pdu with
    | pusch pdu =>
      rw [hkind] at hfits
      have hmirrors := @mirrors_packNrUciPusch limit size _ hfits.2
      rw [if_pos hfits.1]
      exact (inferInstance : Mirrors limit size (packNrUciPusch limit pdu)
        (NrUciPdu.pusch <$> unpackNrUciPusch size) (puschBytes pdu) (.pusch pdu.selected))
    | pucchFormat01 pdu =>
      rw [hkind] at hfits
      have hmirrors := @mirrors_packNrUciPucch01 limit size _ hfits.2
      rw [if_neg (by rw [hfits.1]; decide), if_pos hfits.1]
      exact (inferInstance : Mirrors limit size (packNrUciPucch01 limit pdu)
        (NrUciPdu.pucchFormat01 <$> unpackNrUciPucch01 size) (pucch01Bytes pdu)
        (.pucchFormat01 pdu.selected))
    | pucchFormat234 pdu =>
      rw [hkind] at hfits
      have hmirrors := @mirrors_packNrUciPucch234 limit size _ hfits.2
      rw [if_neg (by rw [hfits.1]; decide), if_neg (by rw [hfits.1]; decide), if_pos hfits.1]
      exact (inferInstance : Mirrors limit size (packNrUciPucch234 limit pdu)
        (NrUciPdu.pucchFormat234 <$> unpackNrUciPucch234 size) (pucch234Bytes pdu)
        (.pucchFormat234 pdu.selected))
    | unexpected =>
      rw [hkind] at hfits
      rw [if_neg hfits.1, if_neg hfits.2.1, if_neg hfits.2.2]
      exact (inferInstance : Mirrors limit size (pure ()) (pure NrUciPdu.unexpected) [] _)
  unfold packNrUciIndicationBody unpackNrUciIndicationBody uciBytes NrUci.selected
  infer_instance

theorem mirrors_packNrIndication {π ρ : Type} {packPdu : ρ → Push Unit} {unpackPdu : ℕ → Pull π}
    {g : ρ → List UInt8} {h : ρ → π} {header : P7MessageHeader} {frame : NrFrame}
    {pduList : List ρ} (hlength : pduList.length < 65536)
    (hpdu : ∀ pdu ∈ pduList, Mirrors limit size (packPdu pdu) (unpackPdu size) (g pdu) (h pdu)) :
    Mirrors limit size (packNrIndication packPdu limit frame pduList)
      (unpackNrIndication unpackPdu header size)
      (frameBytes frame pduList.length ++ pduList.flatMap g)
      { header, frame, number := pduList.length, pduList := pduList.map h } := by
  have hlist : Mirrors limit size (Push.forEach packPdu pduList)
      (repeatPull (unpackPdu size) pduList.length.toUInt16.toNat) (pduList.flatMap g)
      (pduList.map h) := by
    rw [toNat_number16 hlength]
    exact mirrors_forEach hpdu
  have hmirrors : Mirrors limit size (packNrIndication packPdu limit frame pduList)
      (unpackNrIndication unpackPdu header size)
      (frameBytes frame pduList.length ++ pduList.flatMap g)
      { header, frame, number := pduList.length.toUInt16.toNat, pduList := pduList.map h } := by
    unfold packNrIndication unpackNrIndication frameBytes
    rw [List.append_assoc, List.append_assoc]
    infer_instance
  rwa [toNat_number16 hlength] at hmirrors

end Uci

/-! ### CRC -/

/-- The numbers of a PDU without code blocks, with their sizes. -/
def crcFields (crc : NrCrc) : List (ℕ × ℕ) :=
  [(4, crc.handle.toNat), (2, crc.rnti.toNat), (1, crc.harqId.toNat), (1, crc.tbCrcStatus.toNat),
    (2, crc.numCb.toNat), (1, crc.ulCqi.toNat), (2, crc.timingAdvance.toNat), (2, crc.rssi.toNat)]

section Crc

variable {limit size : ℕ}

/-- The status is pulled if there are code blocks. -/
def pullCbCrcStatus (numCb : UInt16) (limit : ℕ) : Pull Unit :=
  if numCb ≠ 0 then attempt (pullarray8IntoNull (numCb.toNat / 8 + 1) limit) () else pure ()

theorem unpackNrCrcIndicationBody_eq (limit : ℕ) : unpackNrCrcIndicationBody limit = do
    let handle ← attempt (pull32 limit) 0
    let rnti ← attempt (pull16 limit) 0
    let harqId ← attempt (pull8 limit) 0
    let tbCrcStatus ← attempt (pull8 limit) 0
    let numCb ← attempt (pull16 limit) 0
    pullCbCrcStatus numCb limit
    let ulCqi ← attempt (pull8 limit) 0
    let timingAdvance ← attempt (pull16 limit) 0
    let rssi ← attempt (pull16 limit) 0
    return { handle, rnti, harqId, tbCrcStatus, numCb, ulCqi, timingAdvance, rssi } := by
  simp only [pullCbCrcStatus, ite_bind_pull]
  rfl

/-- Without code blocks the decoder passes over the status, like the encoder. -/
theorem echoes_packCbCrcStatus {value : NrCrcReport} (hnone : value.crc.numCb = 0)
    {numCb : UInt16} (hread : numCb = 0) (out : List UInt8) :
    Echoes limit size out (packCbCrcStatus limit value) (pullCbCrcStatus numCb size) out () := by
  unfold packCbCrcStatus pullCbCrcStatus
  rw [if_neg (not_not_intro hnone), if_neg (not_not_intro hread)]
  infer_instance

/-- What is read of a number is the number if it was not cut off, or is zero. -/
theorem kept8_eq_iff {p : Prop} [Decidable p] {value : UInt8} :
    (if p then value else 0) = value ↔ p ∨ value.toNat = 0 := by
  split_ifs with h
  · exact iff_of_true rfl (Or.inl h)
  · rw [eq_comm, UInt8.toNat_inj.symm, or_iff_right h]
    rfl

theorem kept16_eq_iff {p : Prop} [Decidable p] {value : UInt16} :
    (if p then value else 0) = value ↔ p ∨ value.toNat = 0 := by
  split_ifs with h
  · exact iff_of_true rfl (Or.inl h)
  · rw [eq_comm, UInt16.toNat_inj.symm, or_iff_right h]
    rfl

theorem kept32_eq_iff {p : Prop} [Decidable p] {value : UInt32} :
    (if p then value else 0) = value ↔ p ∨ value.toNat = 0 := by
  split_ifs with h
  · exact iff_of_true rfl (Or.inl h)
  · rw [eq_comm, UInt32.toNat_inj.symm, or_iff_right h]
    rfl

theorem echoes_packNrCrcIndicationBody {value : NrCrcReport} (hnone : value.crc.numCb = 0)
    (out : List UInt8) : ∃ next crc,
      Echoes limit size out (packNrCrcIndicationBody limit value)
        (unpackNrCrcIndicationBody size) next crc ∧
      next.length = attemptsEnd limit out.length (crcFields value.crc) ∧
      (crc = value.crc ↔ CutAreZero limit out.length (crcFields value.crc)) := by
  have hstatus : ∀ (p : Prop) [Decidable p] (out : List UInt8),
      Echoes limit size out (packCbCrcStatus limit value)
        (pullCbCrcStatus (if p then value.crc.numCb else 0) size) out () := by
    intro p _ out
    apply echoes_packCbCrcStatus hnone
    rw [hnone, ite_self]
  rw [unpackNrCrcIndicationBody_eq]
  unfold packNrCrcIndicationBody
  refine ⟨_, _, inferInstance, ?_, ?_⟩
  · simp only [length_attempted, crcFields, attemptsEnd, length_bytes32, length_bytes16,
      List.length_singleton]
  · obtain ⟨handle, rnti, harqId, tbCrcStatus, numCb, ulCqi, timingAdvance, rssi⟩ := value.crc
    simp only [NrCrc.mk.injEq, kept8_eq_iff, kept16_eq_iff, kept32_eq_iff, length_attempted,
      crcFields, CutAreZero, length_bytes32, length_bytes16, List.length_singleton, and_true]

/-- The PDUs one after the other: they come back if no number that is not zero is cut off. -/
theorem echoes_crcList {crcList : List NrCrcReport} (hnone : ∀ crc ∈ crcList, crc.crc.numCb = 0)
    (out : List UInt8) : ∃ next pdus,
      Echoes limit size out (Push.forEach (packNrCrcIndicationBody limit) crcList)
        (repeatPull (unpackNrCrcIndicationBody size) crcList.length) next pdus ∧
      (pdus = crcList.map NrCrcReport.crc ↔
        CutAreZero limit out.length (crcList.flatMap fun crc ↦ crcFields crc.crc)) := by
  induction crcList generalizing out with
  | nil => exact ⟨out, [], (inferInstance : Echoes limit size out (pure ()) (pure []) out []),
      iff_of_true rfl trivial⟩
  | cons value crcList ih =>
    obtain ⟨mid, crc, hecho, hlength, hcrc⟩ :=
      @echoes_packNrCrcIndicationBody limit size value (hnone value List.mem_cons_self) out
    obtain ⟨next, pdus, hrest, hpdus⟩ :=
      ih (fun other hother ↦ hnone other (List.mem_cons_of_mem _ hother)) mid
    refine ⟨next, crc :: pdus, ?_, ?_⟩
    · rw [Push.forEach, List.length_cons, Pull.repeatPull]
      infer_instance
    · rw [List.map_cons, List.cons.injEq, List.flatMap_cons, cutAreZero_append, ← hlength, hcrc,
        hpdus]

end Crc

/-! ### There and back -/

/-- The size in bytes of the frame, with the number of PDUs, behind the header. -/
def frameLength : ℕ := 6

instance {π : Type} {packPdu : π → Push Unit} [∀ pdu, Appends (packPdu pdu)] {limit : ℕ}
    {frame : NrFrame} {pduList : List π} :
    Appends (packNrIndication packPdu limit frame pduList) := by
  unfold packNrIndication
  infer_instance

instance {limit : ℕ} {value : NrCrcReport} : Appends (packCbCrcStatus limit value) := by
  unfold packCbCrcStatus pusharray8
  infer_instance

instance {limit : ℕ} {value : NrCrcReport} : Appends (packNrCrcIndicationBody limit value) := by
  unfold packNrCrcIndicationBody
  infer_instance

/-- The frame of a packed indication found room. -/
theorem packNrIndication_room {π : Type} {packPdu : π → Push Unit} {limit : ℕ} {frame : NrFrame}
    {pduList : List π} {out next : List UInt8}
    (h : packNrIndication packPdu limit frame pduList out = (.ok (), next)) :
    out.length + frameLength ≤ limit := by
  obtain ⟨_, first, hsfn, hrest⟩ := Push.bind_eq_ok.mp h
  obtain ⟨-, rfl⟩ := Push.pushBytes_eq_ok hsfn
  obtain ⟨_, second, hslot, hrest⟩ := Push.bind_eq_ok.mp hrest
  obtain ⟨-, rfl⟩ := Push.pushBytes_eq_ok hslot
  obtain ⟨_, third, hnumber, -⟩ := Push.bind_eq_ok.mp hrest
  have hroom := (Push.pushBytes_eq_ok hnumber).1
  simp only [List.length_append, length_bytes16] at hroom
  simp only [frameLength]
  omega

/-- A packed CRC indication without code blocks is unpacked to its PDUs, up to the numbers that
were cut off. -/
theorem unpack_crc {frame : NrFrame} {crcList : List NrCrcReport} {header : P7MessageHeader}
    {limit : ℕ} {packed : List UInt8} (hlength : crcList.length < 65536)
    (hnone : ∀ crc ∈ crcList, crc.crc.numCb = 0) (hid : header.messageId = nrCrcIndication)
    (hpacked : packMessage (packNrIndication (packNrCrcIndicationBody limit) limit frame crcList)
      limit header = .ok (some packed)) :
    ∃ pdus, nfapiNrP7MessageUnpack (memoryOf packed) packed.length = .ok (some (.crc
        { header := packedHeader header packed.length.toUInt16, frame, number := crcList.length,
          pduList := pdus })) ∧
      (pdus = crcList.map NrCrcReport.crc ↔ CutAreZero limit (p7HeaderLength + frameLength)
        (crcList.flatMap fun crc ↦ crcFields crc.crc)) := by
  obtain ⟨-, -, hencode⟩ := packMessage_appends hpacked
  have hroom := packNrIndication_room hencode
  generalize hheader : headerBytes (packedHeader header packed.length.toUInt16) = out at hroom
  have hout : out.length = p7HeaderLength := hheader ▸ length_headerBytes _
  simp only [frameLength] at hroom
  have hsfn := @echoes_push16 limit packed.length out frame.sfn (by omega)
  have hslot := @echoes_push16 limit packed.length (out ++ bytes16 frame.sfn) frame.slot
    (by rw [List.length_append, length_bytes16]; omega)
  have hnumber := @echoes_push16 limit packed.length
    (out ++ bytes16 frame.sfn ++ bytes16 frame.slot) crcList.length.toUInt16
    (by simp only [List.length_append, length_bytes16]; omega)
  obtain ⟨next, pdus, hlist, hpdus⟩ := @echoes_crcList limit packed.length crcList hnone
    (out ++ bytes16 frame.sfn ++ bytes16 frame.slot ++ bytes16 crcList.length.toUInt16)
  have hplace : (out ++ bytes16 frame.sfn ++ bytes16 frame.slot ++
      bytes16 crcList.length.toUInt16).length = p7HeaderLength + frameLength := by
    simp only [List.length_append, length_bytes16, hout, frameLength]
  have hcount : crcList.length.toUInt16.toNat = crcList.length := toNat_number16 hlength
  have hechoes : Echoes limit packed.length out
      (packNrIndication (packNrCrcIndicationBody limit) limit frame crcList)
      (unpackNrCrcIndication (packedHeader header packed.length.toUInt16) packed.length) next
      { header := packedHeader header packed.length.toUInt16, frame,
        number := crcList.length.toUInt16.toNat, pduList := pdus } := by
    have hpulls : Echoes limit packed.length
        (out ++ bytes16 frame.sfn ++ bytes16 frame.slot ++ bytes16 crcList.length.toUInt16)
        (Push.forEach (packNrCrcIndicationBody limit) crcList)
        (repeatPull (unpackNrCrcIndicationBody packed.length) crcList.length.toUInt16.toNat)
        next pdus := by
      rw [hcount]
      exact hlist
    unfold packNrIndication unpackNrCrcIndication unpackNrIndication
    infer_instance
  refine ⟨pdus, ?_, hplace ▸ hpdus⟩
  have hswitch : unpackNrUplink (packedHeader header packed.length.toUInt16) packed.length =
      NrIndication.crc <$>
        unpackNrCrcIndication (packedHeader header packed.length.toUInt16) packed.length := by
    have hpackedId : (packedHeader header packed.length.toUInt16).messageId = nrCrcIndication := hid
    unfold unpackNrUplink
    rw [hpackedId, if_neg (by decide), if_pos rfl]
  subst hheader
  have hmap := hechoes.map NrIndication.crc
  rw [← hswitch, hcount] at hmap
  exact messageUnpack_of_echoes hpacked hmap

/-- Which messages come back. -/
def NrUplinkMessage.Intact (limit : ℕ) : NrUplinkMessage → Prop
  | rxData _ _ => True
  | crc _ crcList => (∀ crc ∈ crcList, crc.crc.numCb = 0) ∧
      CutAreZero limit (p7HeaderLength + frameLength)
        (crcList.flatMap fun crc ↦ crcFields crc.crc)
  | uci _ uciList =>
    p7HeaderLength + (frameLength + (uciList.flatMap uciBytes).length) ≤ limit
  | srs _ pduList => pduList.length ≤ 1
  | rach _ _ => True

section Survives

variable {header : P7MessageHeader} {limit : ℕ} {packed : List UInt8}

/-- The case of the switch over the message id for messages of this kind. -/
def NrUplinkMessage.unpack (header : P7MessageHeader) (limit : ℕ) :
    NrUplinkMessage → Pull NrIndication
  | rxData _ _ => .rxData <$> unpackNrRxDataIndication header limit
  | crc _ _ => .crc <$> unpackNrCrcIndication header limit
  | uci _ _ => .uci <$> unpackNrUciIndication header limit
  | srs _ _ => .srs <$> unpackNrSrsIndication header limit
  | rach _ _ => .rach <$> unpackNrRachIndication header limit

theorem unpackNrUplink_eq (message : NrUplinkMessage) {header : P7MessageHeader}
    (hid : header.messageId = message.messageId) (limit : ℕ) :
    unpackNrUplink header limit = message.unpack header limit := by
  unfold unpackNrUplink
  rw [hid]
  cases message <;> rfl

theorem rxData_survives {frame : NrFrame} {pduList : List NrRxDataPdu}
    (hfits : (NrUplinkMessage.rxData frame pduList).Fits)
    (hpacked : packMessageNrUplink limit header (.rxData frame pduList) = .ok (some packed)) :
    (NrUplinkMessage.rxData frame pduList).Survives header packed := by
  have hwrites := @emits_packNrIndication limit _ _ rxDataPduBytes frame pduList
    fun pdu hpdu ↦ emits_packNrRxDataIndicationBody (hfits.2 pdu hpdu)
  have hreads := @reads_unpackNrIndication packed.length _ _ unpackNrRxDataIndicationBody
    rxDataPduBytes id (packedHeader { header with messageId := nrRxDataIndication }
      packed.length.toUInt16) frame pduList hfits.1
    fun pdu hpdu ↦ (decodes_unpackNrRxDataIndicationBody (hfits.2 pdu hpdu)).reads
  rw [List.map_id] at hreads
  refine ⟨messageUnpack_of_writes hwrites.writes hpacked ?_, trivial⟩
  rw [unpackNrUplink_eq (.rxData frame pduList) rfl]
  exact hreads.map

theorem rach_survives {frame : NrFrame} {pduList : List NrPrachIndicationPdu}
    (hfits : (NrUplinkMessage.rach frame pduList).Fits)
    (hpacked : packMessageNrUplink limit header (.rach frame pduList) = .ok (some packed)) :
    (NrUplinkMessage.rach frame pduList).Survives header packed := by
  have hwrites := @emits_packNrRachIndication limit frame pduList
  refine ⟨messageUnpack_of_writes hwrites.writes hpacked ?_, trivial⟩
  rw [unpackNrUplink_eq (.rach frame pduList) rfl]
  exact (reads_unpackNrRachIndication hfits.1 hfits.2).map

theorem srs_survives_iff {frame : NrSrsFrame} {pduList : List NrSrsIndicationPdu}
    (hfits : (NrUplinkMessage.srs frame pduList).Fits)
    (hpacked : packMessageNrUplink limit header (.srs frame pduList) = .ok (some packed)) :
    (NrUplinkMessage.srs frame pduList).Survives header packed ↔ pduList.length ≤ 1 := by
  have hwrites := @emits_packNrSrsIndication limit frame pduList
  constructor
  · intro hsurvives
    apply Classical.byContradiction
    intro hlength
    have hfault : nfapiNrP7MessageUnpack (memoryOf packed) packed.length = .error .fault := by
      apply messageUnpack_of_writes_of_stops hwrites.writes hpacked
      rw [unpackNrUplink_eq (.srs frame pduList) rfl]
      exact (stops_unpackNrSrsIndication hlength hfits.1 hfits.2).bind
    have hsome := hsurvives.1
    rw [hfault] at hsome
    cases hsome
  · intro hlength
    refine ⟨messageUnpack_of_writes hwrites.writes hpacked ?_, trivial⟩
    rw [unpackNrUplink_eq (.srs frame pduList) rfl]
    exact (reads_unpackNrSrsIndication hlength hfits.2).map

theorem uci_survives_iff {frame : NrFrame} {uciList : List NrUci}
    (hfits : (NrUplinkMessage.uci frame uciList).Fits)
    (hpacked : packMessageNrUplink limit header (.uci frame uciList) = .ok (some packed)) :
    (NrUplinkMessage.uci frame uciList).Survives header packed ↔
      p7HeaderLength + (frameLength + (uciList.flatMap uciBytes).length) ≤ limit := by
  have hmirrors := @mirrors_packNrIndication limit packed.length _ _
    (packNrUciIndicationBody limit) unpackNrUciIndicationBody uciBytes NrUci.selected
    (packedHeader { header with messageId := nrUciIndication } packed.length.toUInt16) frame uciList
    hfits.1 fun uci huci ↦ mirrors_packNrUciIndicationBody (hfits.2 uci huci)
  have hmap := hmirrors.map NrIndication.uci
  have hswitch : NrIndication.uci <$> unpackNrUciIndication
      (packedHeader { header with messageId := nrUciIndication } packed.length.toUInt16)
      packed.length = unpackNrUplink
        (packedHeader { header with messageId := nrUciIndication } packed.length.toUInt16)
        packed.length := (unpackNrUplink_eq (.uci frame uciList) rfl packed.length).symm
  unfold unpackNrUciIndication at hswitch
  rw [hswitch] at hmap
  have hunpack := messageUnpack_of_mirrors hpacked hmap
  rw [List.length_append] at hunpack
  constructor
  · intro hsurvives
    apply Classical.byContradiction
    intro hcut
    have hreject := hunpack.trans (if_neg hcut)
    have hsome := hreject.symm.trans hsurvives.1
    cases hsome
  · intro hroom
    exact ⟨hunpack.trans (if_pos hroom), trivial⟩

theorem crc_survives_iff {frame : NrFrame} {crcList : List NrCrcReport}
    (hfits : (NrUplinkMessage.crc frame crcList).Fits)
    (hpacked : packMessageNrUplink limit header (.crc frame crcList) = .ok (some packed)) :
    (NrUplinkMessage.crc frame crcList).Survives header packed ↔
      (∀ crc ∈ crcList, crc.crc.numCb = 0) ∧ CutAreZero limit (p7HeaderLength + frameLength)
        (crcList.flatMap fun crc ↦ crcFields crc.crc) := by
  constructor
  · intro hsurvives
    have hnone : ∀ crc ∈ crcList, crc.crc.numCb = 0 := by
      intro crc hcrc
      apply Classical.byContradiction
      intro hblocks
      have hstatus : crc.status = [] := hsurvives.2 crc hcrc
      have hlength := hfits.2 crc hcrc hblocks
      rw [NrCrcReport.status, if_pos hblocks] at hstatus
      rw [hstatus, List.length_nil] at hlength
      omega
    obtain ⟨pdus, hunpack, hpdus⟩ := unpack_crc hfits.1 hnone rfl hpacked
    -- the two are the same CRC indication, field by field
    have hsame := hunpack.symm.trans hsurvives.1
    have hlist : pdus = crcList.map NrCrcReport.crc := by
      injection hsame with hsome
      injection hsome with hind
      injection hind with hfields
      injection hfields
    exact ⟨hnone, hpdus.mp hlist⟩
  · rintro ⟨hnone, hzero⟩
    obtain ⟨pdus, hunpack, hpdus⟩ := unpack_crc hfits.1 hnone rfl hpacked
    rw [hpdus.mpr hzero] at hunpack
    refine ⟨hunpack, fun crc hcrc ↦ ?_⟩
    rw [NrCrcReport.status, if_neg (not_not_intro (hnone crc hcrc))]

/-- A packed indication comes back as it was exactly in these cases: RX_DATA and RACH always, SRS
with at most one PDU, UCI when nothing was cut off, and CRC without code blocks when nothing but
zeros was cut off. -/
theorem nrUplink_survives_iff (message : NrUplinkMessage) (header : P7MessageHeader) (limit : ℕ)
    (packed : List UInt8) (hfits : message.Fits)
    (hpacked : packMessageNrUplink limit header message = .ok (some packed)) :
    message.Survives header packed ↔ message.Intact limit := by
  cases message with
  | rxData frame pduList => exact iff_of_true (rxData_survives hfits hpacked) trivial
  | crc frame crcList => exact crc_survives_iff hfits hpacked
  | uci frame uciList => exact uci_survives_iff hfits hpacked
  | srs frame pduList => exact srs_survives_iff hfits hpacked
  | rach frame pduList => exact iff_of_true (rach_survives hfits hpacked) trivial

end Survives

/-- A CRC indication for one transport block. -/
def crcMessage (numCb : UInt16) (cbCrcStatus : List UInt8) : NrUplinkMessage :=
  .crc ⟨1, 2⟩ [{
    crc := { handle := 1, rnti := 17, harqId := 3, tbCrcStatus := 0, numCb, ulCqi := 200,
             timingAdvance := 31, rssi := 128 }
    cbCrcStatus }]

theorem crcMessage_survives_iff : ∃ packed,
    packMessageNrUplink 37 {} (crcMessage 0 []) = .ok (some packed) ∧
      ((crcMessage 0 []).Survives {} packed ↔ (crcMessage 0 []).Intact 37) :=
  ⟨_, rfl, nrUplink_survives_iff (crcMessage 0 []) {} 37 _
    ⟨by decide, fun crc hcrc hblocks ↦ by
      rw [List.mem_singleton.mp hcrc] at hblocks
      exact absurd rfl hblocks⟩ rfl⟩

/-- The status of eight code blocks is unpacked to a null pointer. -/
theorem crcMessage_not_survives : (crcMessage 8 [255, 0]).Fits ∧ ∃ packed,
    packMessageNrUplink 100 {} (crcMessage 8 [255, 0]) = .ok (some packed) ∧
      ¬ (crcMessage 8 [255, 0]).Survives {} packed := by
  refine ⟨⟨by decide, fun crc hcrc _ ↦ ?_⟩, _, rfl, fun hsurvives ↦ ?_⟩
  · rw [List.mem_singleton.mp hcrc]
    rfl
  · have hfault := hsurvives.1
    cases hfault

end MultiUeProxy.P7.NrUplink
