import MultiUeProxy.P7.Header

/-!
# The NR uplink indications

The decoders of `nfapi_p7.c` for the NR uplink indications: RX_DATA, CRC, UCI, SRS and RACH. Each
is the SFN, the slot, a number and that many PDUs, one behind the other.

Some of the decoders do not look at what their pulls return. Such a pull is an `attempt`: without
room it leaves the cursor and the zero that `calloc` put into the field.

Two decoders write to places that have not been allocated, which is a `fault`. The CRC decoder
copies the status of code blocks to the null pointer of its PDU. The SRS decoder has one PDU
allocated, whatever the number, so that the first write to a second one is outside of the list.
-/

set_option autoImplicit false
set_option relaxedAutoImplicit false

namespace MultiUeProxy.P7.NrUplink

open Lib.Execution Lib.ByteCursor Lib.ByteCursor.Pull Header

/-- The time of an indication. -/
structure NrFrame where
  sfn : UInt16
  slot : UInt16
  deriving DecidableEq, Repr

section Indications

variable {π : Type}

/-- The common text of the RX_DATA, CRC and UCI decoders. -/
def unpackNrIndication (unpackPdu : ℕ → Pull π) (header : P7MessageHeader) (limit : ℕ) :
    Pull (Indication NrFrame π) := do
  let sfn ← pull16 limit
  let slot ← pull16 limit
  let number ← pull16 limit
  let pduList ← repeatPull (unpackPdu limit) number.toNat
  return { header, frame := ⟨sfn, slot⟩, number := number.toNat, pduList }

instance {unpackPdu : ℕ → Pull π} {header : P7MessageHeader} {limit : ℕ}
    [Orderly (unpackPdu limit)] : Orderly (unpackNrIndication unpackPdu header limit) := by
  rw [unpackNrIndication]
  infer_instance

/-- The time of a decoded indication is in the two words at the cursor, and it has as many PDUs as
its number says, which is a 16-bit number. -/
theorem unpackNrIndication_eq_ok {unpackPdu : ℕ → Pull π} {header : P7MessageHeader} {limit : ℕ}
    {mem : Memory} {pos last : ℕ} {ind : Indication NrFrame π}
    (h : unpackNrIndication unpackPdu header limit mem pos = .ok (ind, last)) :
    pos + 4 ≤ limit ∧ ind.header = header ∧ ind.frame = ⟨word16 mem pos, word16 mem (pos + 2)⟩ ∧
      ind.pduList.length = ind.number ∧ ind.number < 65536 := by
  obtain ⟨sfn, next, hsfn, hrest⟩ := bind_eq_ok.mp h
  obtain ⟨-, rfl, rfl⟩ := pull16_eq_ok hsfn
  obtain ⟨slot, next, hslot, hrest⟩ := bind_eq_ok.mp hrest
  obtain ⟨hlimit, rfl, rfl⟩ := pull16_eq_ok hslot
  obtain ⟨number, next, -, hrest⟩ := bind_eq_ok.mp hrest
  obtain ⟨pduList, next, hlist, hpure⟩ := bind_eq_ok.mp hrest
  cases hpure
  exact ⟨hlimit, rfl, rfl, repeatPull_length _ _ hlist, number.toNat_lt⟩

end Indications

/-! ### RX_DATA -/

/-- `nfapi_nr_rx_data_pdu_t`. -/
structure NrRxDataPdu where
  handle : UInt32
  rnti : UInt16
  harqId : UInt8
  pduLength : UInt16
  ulCqi : UInt8
  timingAdvance : UInt16
  rssi : UInt16
  pdu : List UInt8
  deriving DecidableEq, Repr

def unpackNrRxDataIndicationBody (limit : ℕ) : Pull NrRxDataPdu := do
  let handle ← pull32 limit
  let rnti ← pull16 limit
  let harqId ← pull8 limit
  let pduLength ← pull16 limit
  let ulCqi ← pull8 limit
  let timingAdvance ← pull16 limit
  let rssi ← pull16 limit
  let pdu ← pullarray8 pduLength.toNat pduLength.toNat limit
  return { handle, rnti, harqId, pduLength, ulCqi, timingAdvance, rssi, pdu }

def unpackNrRxDataIndication : P7MessageHeader → ℕ → Pull (Indication NrFrame NrRxDataPdu) :=
  unpackNrIndication unpackNrRxDataIndicationBody

instance {limit : ℕ} : Orderly (unpackNrRxDataIndicationBody limit) := by
  rw [unpackNrRxDataIndicationBody]
  infer_instance

instance {header : P7MessageHeader} {limit : ℕ} :
    Orderly (unpackNrRxDataIndication header limit) := by
  rw [unpackNrRxDataIndication]
  infer_instance

/-! ### CRC -/

/-- `nfapi_nr_crc_t`. Its pointer to the status of the code blocks is always null. -/
structure NrCrc where
  handle : UInt32
  rnti : UInt16
  harqId : UInt8
  tbCrcStatus : UInt8
  numCb : UInt16
  ulCqi : UInt8
  timingAdvance : UInt16
  rssi : UInt16
  deriving DecidableEq, Repr

/-- `pullarray8` with a null pointer for the array: with room for the bytes, they are copied. -/
def pullarray8IntoNull (count limit : ℕ) : Pull Unit := do
  let pos ← position
  ensure (limit < pos ∨ pos + count ≤ limit)
  crash .fault

def unpackNrCrcIndicationBody (limit : ℕ) : Pull NrCrc := do
  let handle ← attempt (pull32 limit) 0
  let rnti ← attempt (pull16 limit) 0
  let harqId ← attempt (pull8 limit) 0
  let tbCrcStatus ← attempt (pull8 limit) 0
  let numCb ← attempt (pull16 limit) 0
  if numCb ≠ 0 then
    attempt (pullarray8IntoNull (numCb.toNat / 8 + 1) limit) ()
  let ulCqi ← attempt (pull8 limit) 0
  let timingAdvance ← attempt (pull16 limit) 0
  let rssi ← attempt (pull16 limit) 0
  return { handle, rnti, harqId, tbCrcStatus, numCb, ulCqi, timingAdvance, rssi }

def unpackNrCrcIndication : P7MessageHeader → ℕ → Pull (Indication NrFrame NrCrc) :=
  unpackNrIndication unpackNrCrcIndicationBody

instance {count limit : ℕ} : Orderly (pullarray8IntoNull count limit) := by
  rw [pullarray8IntoNull]
  infer_instance

instance {limit : ℕ} : Orderly (unpackNrCrcIndicationBody limit) := by
  rw [unpackNrCrcIndicationBody]
  infer_instance

instance {header : P7MessageHeader} {limit : ℕ} :
    Orderly (unpackNrCrcIndication header limit) := by
  rw [unpackNrCrcIndication]
  infer_instance

/-! ### UCI -/

/-- `nfapi_nr_harq_pdu_2_3_4_t`, `nfapi_nr_csi_part1_pdu_t` and `nfapi_nr_csi_part2_pdu_t`: bits
with a CRC flag. -/
structure NrCrcBits where
  crc : UInt8 := 0
  bitLen : UInt16 := 0
  payload : List UInt8 := []
  deriving DecidableEq, Repr

/-- `nfapi_nr_sr_pdu_2_3_4_t`. -/
structure NrSrPdu234 where
  srBitLen : UInt16 := 0
  srPayload : List UInt8 := []
  deriving DecidableEq, Repr

/-- `nfapi_nr_sr_pdu_0_1_t`. -/
structure NrSrPdu01 where
  srIndication : UInt8
  srConfidenceLevel : UInt8
  deriving DecidableEq, Repr

/-- `nfapi_nr_harq_pdu_0_1_t`, with its list of HARQ values. -/
structure NrHarqPdu01 where
  numHarq : UInt8
  harqConfidenceLevel : UInt8
  harqList : List UInt8
  deriving DecidableEq, Repr

/-- `nfapi_nr_uci_pusch_pdu_t`. -/
structure NrUciPuschPdu where
  pduBitmap : UInt8
  handle : UInt32
  rnti : UInt16
  ulCqi : UInt8
  timingAdvance : UInt16
  rssi : UInt16
  harq : NrCrcBits
  csiPart1 : NrCrcBits
  csiPart2 : NrCrcBits
  deriving DecidableEq, Repr

/-- `nfapi_nr_uci_pucch_pdu_format_0_1_t`. -/
structure NrUciPucchPduFormat01 where
  pduBitmap : UInt8
  handle : UInt32
  rnti : UInt16
  pucchFormat : UInt8
  ulCqi : UInt8
  timingAdvance : UInt16
  rssi : UInt16
  sr : Option NrSrPdu01
  harq : Option NrHarqPdu01
  deriving DecidableEq, Repr

/-- `nfapi_nr_uci_pucch_pdu_format_2_3_4_t`. -/
structure NrUciPucchPduFormat234 where
  pduBitmap : UInt8
  handle : UInt32
  rnti : UInt16
  pucchFormat : UInt8
  ulCqi : UInt8
  timingAdvance : UInt16
  rssi : UInt16
  sr : NrSrPdu234
  harq : NrCrcBits
  csiPart1 : NrCrcBits
  csiPart2 : NrCrcBits
  deriving DecidableEq, Repr

/-- The union of `nfapi_nr_uci_t`. With an unexpected type none of its members is written. -/
inductive NrUciPdu where
  | pusch (pdu : NrUciPuschPdu)
  | pucchFormat01 (pdu : NrUciPucchPduFormat01)
  | pucchFormat234 (pdu : NrUciPucchPduFormat234)
  | unexpected
  deriving DecidableEq, Repr

/-- `nfapi_nr_uci_t`. -/
structure NrUci where
  pduType : UInt16
  pduSize : UInt16
  pdu : NrUciPdu
  deriving DecidableEq, Repr

/-- A bit of the bitmap says that a part of the PDU is there. -/
def hasPart (pduBitmap : UInt8) (bit : UInt8) : Prop := (pduBitmap >>> bit) &&& 1 ≠ 0

instance (pduBitmap bit : UInt8) : Decidable (hasPart pduBitmap bit) :=
  inferInstanceAs (Decidable (_ ≠ _))

/-- The bytes of a number of bits. -/
def pullBits (bitLen : UInt16) (limit : ℕ) : Pull (List UInt8) :=
  pullarray8 (bitLen.toNat / 8 + 1) (bitLen.toNat / 8 + 1) limit

/-- A part with a CRC flag, a number of bits and the bits. -/
def unpackNrCrcBits (limit : ℕ) : Pull NrCrcBits := do
  let crc ← pull8 limit
  let bitLen ← pull16 limit
  let payload ← pullBits bitLen limit
  return { crc, bitLen, payload }

/-- A part that is there if its bit is set, and zero otherwise. -/
def unpackPart (pduBitmap bit : UInt8) (limit : ℕ) : Pull NrCrcBits := do
  if hasPart pduBitmap bit then unpackNrCrcBits limit else return {}

def unpackNrSrPdu01 (limit : ℕ) : Pull NrSrPdu01 := do
  let srIndication ← pull8 limit
  let srConfidenceLevel ← pull8 limit
  return { srIndication, srConfidenceLevel }

def unpackNrHarqPdu01 (limit : ℕ) : Pull NrHarqPdu01 := do
  let numHarq ← pull8 limit
  let harqConfidenceLevel ← pull8 limit
  let harqList ← repeatPull (pull8 limit) numHarq.toNat
  return { numHarq, harqConfidenceLevel, harqList }

def unpackNrSrPdu234 (limit : ℕ) : Pull NrSrPdu234 := do
  let srBitLen ← pull16 limit
  let srPayload ← pullBits srBitLen limit
  return { srBitLen, srPayload }

def unpackNrUciPucch01 (limit : ℕ) : Pull NrUciPucchPduFormat01 := do
  let pduBitmap ← pull8 limit
  let handle ← pull32 limit
  let rnti ← pull16 limit
  let pucchFormat ← pull8 limit
  let ulCqi ← pull8 limit
  let timingAdvance ← pull16 limit
  let rssi ← pull16 limit
  let sr ← if hasPart pduBitmap 0 then some <$> unpackNrSrPdu01 limit else pure none
  let harq ← if hasPart pduBitmap 1 then some <$> unpackNrHarqPdu01 limit else pure none
  return { pduBitmap, handle, rnti, pucchFormat, ulCqi, timingAdvance, rssi, sr, harq }

def unpackNrUciPucch234 (limit : ℕ) : Pull NrUciPucchPduFormat234 := do
  let pduBitmap ← pull8 limit
  let handle ← pull32 limit
  let rnti ← pull16 limit
  let pucchFormat ← pull8 limit
  let ulCqi ← pull8 limit
  let timingAdvance ← pull16 limit
  let rssi ← pull16 limit
  let sr ← if hasPart pduBitmap 0 then unpackNrSrPdu234 limit else pure {}
  let harq ← unpackPart pduBitmap 1 limit
  let csiPart1 ← unpackPart pduBitmap 2 limit
  let csiPart2 ← unpackPart pduBitmap 3 limit
  return {
    pduBitmap, handle, rnti
    pucchFormat := pucchFormat + 2
    ulCqi, timingAdvance, rssi, sr, harq, csiPart1, csiPart2 }

def unpackNrUciPusch (limit : ℕ) : Pull NrUciPuschPdu := do
  let pduBitmap ← pull8 limit
  let handle ← pull32 limit
  let rnti ← pull16 limit
  let ulCqi ← pull8 limit
  let timingAdvance ← pull16 limit
  let rssi ← pull16 limit
  let harq ← unpackPart pduBitmap 1 limit
  let csiPart1 ← unpackPart pduBitmap 2 limit
  let csiPart2 ← unpackPart pduBitmap 3 limit
  return { pduBitmap, handle, rnti, ulCqi, timingAdvance, rssi, harq, csiPart1, csiPart2 }

/-- The switch over the type of a PDU. -/
def unpackNrUciPdu (pduType : UInt16) (limit : ℕ) : Pull NrUciPdu :=
  if pduType = 0 then .pusch <$> unpackNrUciPusch limit
  else if pduType = 1 then .pucchFormat01 <$> unpackNrUciPucch01 limit
  else if pduType = 2 then .pucchFormat234 <$> unpackNrUciPucch234 limit
  else pure .unexpected

def unpackNrUciIndicationBody (limit : ℕ) : Pull NrUci := do
  let pduType ← pull16 limit
  let pduSize ← pull16 limit
  let pdu ← unpackNrUciPdu pduType limit
  return { pduType, pduSize, pdu }

def unpackNrUciIndication : P7MessageHeader → ℕ → Pull (Indication NrFrame NrUci) :=
  unpackNrIndication unpackNrUciIndicationBody

instance {bitLen : UInt16} {limit : ℕ} : Orderly (pullBits bitLen limit) := by
  rw [pullBits]
  infer_instance

instance {pduBitmap bit : UInt8} {limit : ℕ} : Orderly (unpackPart pduBitmap bit limit) := by
  unfold unpackPart
  rw [unpackNrCrcBits]
  infer_instance

instance {limit : ℕ} : Orderly (unpackNrSrPdu01 limit) := by
  rw [unpackNrSrPdu01]
  infer_instance

instance {limit : ℕ} : Orderly (unpackNrHarqPdu01 limit) := by
  rw [unpackNrHarqPdu01]
  infer_instance

instance {limit : ℕ} : Orderly (unpackNrSrPdu234 limit) := by
  rw [unpackNrSrPdu234]
  infer_instance

instance {limit : ℕ} : Orderly (unpackNrUciPucch01 limit) := by
  rw [unpackNrUciPucch01]
  infer_instance

instance {limit : ℕ} : Orderly (unpackNrUciPucch234 limit) := by
  rw [unpackNrUciPucch234]
  infer_instance

instance {limit : ℕ} : Orderly (unpackNrUciPusch limit) := by
  rw [unpackNrUciPusch]
  infer_instance

instance {limit : ℕ} : Orderly (unpackNrUciIndicationBody limit) := by
  simp only [unpackNrUciIndicationBody, unpackNrUciPdu]
  infer_instance

instance {header : P7MessageHeader} {limit : ℕ} :
    Orderly (unpackNrUciIndication header limit) := by
  rw [unpackNrUciIndication]
  infer_instance

/-! ### SRS -/

/-- `nfapi_srs_report_tlv_t`. -/
structure SrsReportTlv where
  tag : UInt16
  length : UInt32
  value : List UInt32
  deriving DecidableEq, Repr

/-- `nfapi_nr_srs_indication_pdu_t`. The signed offset is the pattern of its bits. -/
structure NrSrsIndicationPdu where
  handle : UInt32
  rnti : UInt16
  timingAdvanceOffset : UInt16
  timingAdvanceOffsetNsec : UInt16
  srsUsage : UInt8
  reportType : UInt8
  reportTlv : SrsReportTlv
  deriving DecidableEq, Repr

/-- The time of an SRS indication, and the size of its control portion. -/
structure NrSrsFrame where
  sfn : UInt16
  slot : UInt16
  controlLength : UInt16
  deriving DecidableEq, Repr

/-- The report of an accepted message is shorter than the array of its values: each of them takes
four bytes of the message. -/
def unpackNrSrsReportTlv (limit : ℕ) : Pull SrsReportTlv := do
  let tag ← pull16 limit
  let length ← pull32 limit
  let value ← repeatPull (pull32 limit) length.toNat
  return { tag, length, value }

def unpackNrSrsIndicationBody (limit : ℕ) : Pull NrSrsIndicationPdu := do
  let handle ← pull32 limit
  let rnti ← pull16 limit
  let timingAdvanceOffset ← pull16 limit
  let timingAdvanceOffsetNsec ← pull16 limit
  let srsUsage ← pull8 limit
  let reportType ← pull8 limit
  let reportTlv ← unpackNrSrsReportTlv limit
  return { handle, rnti, timingAdvanceOffset, timingAdvanceOffsetNsec, srsUsage, reportType,
           reportTlv }

/-- The PDUs of an SRS indication. The list has room for the first one; the handle of the second
one is written behind it. -/
def unpackNrSrsPdus (limit : ℕ) : ℕ → Pull (List NrSrsIndicationPdu)
  | 0 => pure []
  | 1 => do return [← unpackNrSrsIndicationBody limit]
  | _ + 2 => do
    let _first ← unpackNrSrsIndicationBody limit
    let _handle ← pull32 limit
    crash .fault

def unpackNrSrsIndication (header : P7MessageHeader) (limit : ℕ) :
    Pull (Indication NrSrsFrame NrSrsIndicationPdu) := do
  let sfn ← pull16 limit
  let slot ← pull16 limit
  let controlLength ← pull16 limit
  let number ← pull8 limit
  let pduList ← unpackNrSrsPdus limit number.toNat
  return { header, frame := ⟨sfn, slot, controlLength⟩, number := number.toNat, pduList }

instance {limit : ℕ} : Orderly (unpackNrSrsReportTlv limit) := by
  rw [unpackNrSrsReportTlv]
  infer_instance

instance {limit : ℕ} : Orderly (unpackNrSrsIndicationBody limit) := by
  rw [unpackNrSrsIndicationBody]
  infer_instance

instance {limit : ℕ} : ∀ {number : ℕ}, Orderly (unpackNrSrsPdus limit number)
  | 0 => (inferInstance : Orderly (pure []))
  | 1 => (inferInstance : Orderly (do return [← unpackNrSrsIndicationBody limit]))
  | _ + 2 => by
    rw [unpackNrSrsPdus]
    infer_instance

instance {header : P7MessageHeader} {limit : ℕ} :
    Orderly (unpackNrSrsIndication header limit) := by
  rw [unpackNrSrsIndication]
  infer_instance

theorem unpackNrSrsPdus_length {limit number : ℕ} {mem : Memory} {pos last : ℕ}
    {pdus : List NrSrsIndicationPdu}
    (h : unpackNrSrsPdus limit number mem pos = .ok (pdus, last)) :
    pdus.length = number ∧ number ≤ 1 := by
  match number with
  | 0 =>
    cases h
    exact ⟨rfl, Nat.zero_le 1⟩
  | 1 =>
    obtain ⟨pdu, next, -, hpure⟩ := bind_eq_ok.mp h
    cases hpure
    exact ⟨rfl, Nat.le_refl 1⟩
  | more + 2 =>
    obtain ⟨_, next, -, hrest⟩ := bind_eq_ok.mp h
    obtain ⟨_, next, -, hcrash⟩ := bind_eq_ok.mp hrest
    cases hcrash

/-- The time of a decoded SRS indication is in the two words at the cursor, and it has at most one
PDU, as many as its number says. -/
theorem unpackNrSrsIndication_eq_ok {header : P7MessageHeader} {limit : ℕ} {mem : Memory}
    {pos last : ℕ} {ind : Indication NrSrsFrame NrSrsIndicationPdu}
    (h : unpackNrSrsIndication header limit mem pos = .ok (ind, last)) :
    pos + 4 ≤ limit ∧ ind.header = header ∧ ind.frame.sfn = word16 mem pos ∧
      ind.frame.slot = word16 mem (pos + 2) ∧ ind.pduList.length = ind.number ∧
      ind.number ≤ 1 := by
  obtain ⟨sfn, next, hsfn, hrest⟩ := bind_eq_ok.mp h
  obtain ⟨-, rfl, rfl⟩ := pull16_eq_ok hsfn
  obtain ⟨slot, next, hslot, hrest⟩ := bind_eq_ok.mp hrest
  obtain ⟨hlimit, rfl, rfl⟩ := pull16_eq_ok hslot
  obtain ⟨control, next, -, hrest⟩ := bind_eq_ok.mp hrest
  obtain ⟨number, next, -, hrest⟩ := bind_eq_ok.mp hrest
  obtain ⟨pduList, next, hlist, hpure⟩ := bind_eq_ok.mp hrest
  cases hpure
  exact ⟨hlimit, rfl, rfl, rfl, unpackNrSrsPdus_length hlist⟩

/-! ### RACH -/

/-- `nfapi_nr_prach_indication_preamble_t`. -/
structure NrPrachIndicationPreamble where
  preambleIndex : UInt8
  timingAdvance : UInt16
  preamblePwr : UInt32
  deriving DecidableEq, Repr

/-- `nfapi_nr_prach_indication_pdu_t`. -/
structure NrPrachIndicationPdu where
  phyCellId : UInt16
  symbolIndex : UInt8
  slotIndex : UInt8
  freqIndex : UInt8
  avgRssi : UInt8
  avgSnr : UInt8
  numPreamble : UInt8
  preambleList : List NrPrachIndicationPreamble
  deriving DecidableEq, Repr

/-- Only the last pull of a sequence is looked at. -/
def unpackNrPrachPreamble (limit : ℕ) : Pull NrPrachIndicationPreamble := do
  let preambleIndex ← attempt (pull8 limit) 0
  let timingAdvance ← attempt (pull16 limit) 0
  let preamblePwr ← pull32 limit
  return { preambleIndex, timingAdvance, preamblePwr }

def unpackNrRachIndicationBody (limit : ℕ) : Pull NrPrachIndicationPdu := do
  let phyCellId ← attempt (pull16 limit) 0
  let symbolIndex ← attempt (pull8 limit) 0
  let slotIndex ← attempt (pull8 limit) 0
  let freqIndex ← attempt (pull8 limit) 0
  let avgRssi ← attempt (pull8 limit) 0
  let avgSnr ← attempt (pull8 limit) 0
  let numPreamble ← pull8 limit
  let preambleList ← repeatPull (unpackNrPrachPreamble limit) numPreamble.toNat
  return { phyCellId, symbolIndex, slotIndex, freqIndex, avgRssi, avgSnr, numPreamble,
           preambleList }

/-- The SFN and the slot are attempts too: a message that ends before them is accepted with zeros
in their place if a number can be read where the pulls left the cursor. -/
def unpackNrRachIndication (header : P7MessageHeader) (limit : ℕ) :
    Pull (Indication NrFrame NrPrachIndicationPdu) := do
  let sfn ← attempt (pull16 limit) 0
  let slot ← attempt (pull16 limit) 0
  let number ← pull8 limit
  let pduList ← repeatPull (unpackNrRachIndicationBody limit) number.toNat
  return { header, frame := ⟨sfn, slot⟩, number := number.toNat, pduList }

instance {limit : ℕ} : Orderly (unpackNrPrachPreamble limit) := by
  rw [unpackNrPrachPreamble]
  infer_instance

instance {limit : ℕ} : Orderly (unpackNrRachIndicationBody limit) := by
  rw [unpackNrRachIndicationBody]
  infer_instance

instance {header : P7MessageHeader} {limit : ℕ} :
    Orderly (unpackNrRachIndication header limit) := by
  rw [unpackNrRachIndication]
  infer_instance

/-- With room for the SFN and the slot, they are the two words at the cursor. -/
theorem unpackNrRachIndication_eq_ok {header : P7MessageHeader} {limit : ℕ} {mem : Memory}
    {pos last : ℕ} {ind : Indication NrFrame NrPrachIndicationPdu} (hlimit : pos + 4 ≤ limit)
    (h : unpackNrRachIndication header limit mem pos = .ok (ind, last)) :
    ind.header = header ∧ ind.frame = ⟨word16 mem pos, word16 mem (pos + 2)⟩ := by
  obtain ⟨sfn, next, hsfn, hrest⟩ := bind_eq_ok.mp h
  obtain ⟨rfl, rfl⟩ := attempt_pull16_eq_ok (by omega) hsfn
  obtain ⟨slot, next, hslot, hrest⟩ := bind_eq_ok.mp hrest
  obtain ⟨rfl, rfl⟩ := attempt_pull16_eq_ok (by omega) hslot
  obtain ⟨number, next, -, hrest⟩ := bind_eq_ok.mp hrest
  obtain ⟨pduList, next, -, hpure⟩ := bind_eq_ok.mp hrest
  cases hpure
  exact ⟨rfl, rfl⟩

end MultiUeProxy.P7.NrUplink
