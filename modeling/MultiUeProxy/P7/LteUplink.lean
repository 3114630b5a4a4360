import MultiUeProxy.P7.Header

/-!
# The LTE uplink indications

The decoders of `nfapi_p7.c` for the uplink indications that the proxy aggregates: HARQ, CRC, SR,
RACH, RX and CQI. Each is a time and a list of tagged fields of which one, the body, holds the PDUs.
HARQ, CRC, SR and RACH bodies are lists of instances with a length of their own
(`unpackInstanceListBody`); RX and CQI bodies have their own decoders, because the payloads follow
behind all PDUs.

A structure starts as `calloc` leaves it, all zero, and a field that is not in the message keeps
that value. An array is the list of the bytes written to it; the bytes behind these are zero.

`unpackLteIndication_eq_ok` is what the proxy relies on: the time is the word behind the header,
and what the body decoder keeps of a body holds of the body of the indication.
-/

set_option autoImplicit false
set_option relaxedAutoImplicit false

namespace MultiUeProxy.P7.LteUplink

open Lib.Execution Lib.ByteCursor Lib.ByteCursor.Pull Header

/-! ### Fields of several indications -/

def rxUeInformationTag : UInt16 := 0x2038
def ulCqiInformationTag : UInt16 := 0x2052

/-- The maximum number of PDUs of an indication: `NFAPI_HARQ_IND_MAX_PDU`,
`NFAPI_CRC_IND_MAX_PDU`, `NFAPI_SR_IND_MAX_PDU`, `NFAPI_PREAMBLE_MAX_PDU`, `NFAPI_RX_IND_MAX_PDU`
and `NFAPI_CQI_IND_MAX_PDU`. -/
def indMaxPdu : ℕ := 100

/-- `nfapi_rx_ue_information`. -/
structure RxUeInformation where
  tl : Tl := {}
  handle : UInt32 := 0
  rnti : UInt16 := 0
  deriving DecidableEq, Repr

def unpackRxUeInformationValue (tl : Tl) (limit : ℕ) : Pull RxUeInformation := do
  let handle ← pull32 limit
  let rnti ← pull16 limit
  return { tl, handle, rnti }

/-- `nfapi_ul_cqi_information_t`. -/
structure UlCqiInformation where
  tl : Tl := {}
  ulCqi : UInt8 := 0
  channel : UInt8 := 0
  deriving DecidableEq, Repr

def unpackUlCqiInformationValue (tl : Tl) (limit : ℕ) : Pull UlCqiInformation := do
  let ulCqi ← pull8 limit
  let channel ← pull8 limit
  return { tl, ulCqi, channel }

instance {tl : Tl} {limit : ℕ} : Orderly (unpackRxUeInformationValue tl limit) := by
  rw [unpackRxUeInformationValue]
  infer_instance

instance {tl : Tl} {limit : ℕ} : Orderly (unpackUlCqiInformationValue tl limit) := by
  rw [unpackUlCqiInformationValue]
  infer_instance

/-! ### Indications and bodies -/

/-- The time of an indication, and the tag and length of its body. -/
structure LteFrame where
  sfnSf : UInt16
  tl : Tl
  deriving DecidableEq, Repr

/-- The body of an indication. -/
structure Body (π : Type) where
  tl : Tl := {}
  number : ℕ := 0
  pduList : List π := []

section Indications

variable {π : Type}

/-- An indication: the time, then the list of tagged fields. -/
def unpackLteIndication (bodyTag : UInt16) (unpackBody : Tl → ℕ → Body π → Pull (Body π))
    (header : P7MessageHeader) (limit : ℕ) : Pull (Indication LteFrame π) := do
  let sfnSf ← pull16 limit
  let body ← unpackP7TlvList [⟨bodyTag, unpackBody⟩] limit {}
  return { header, frame := ⟨sfnSf, body.tl⟩, number := body.number, pduList := body.pduList }

/-- The check at the start of every body: the length of the body stays below the limit. -/
def ensureBody (tl : Tl) (limit : ℕ) : Pull Unit := do
  let start ← position
  ensure (start + tl.length.toNat ≤ limit)

/-- One instance of an instance list: its length, then its fields up to that length. The end of
the instance is not compared with the limit. -/
def unpackInstance (fields : List (TlvField π)) (pdu : UInt16 → π) (limit : ℕ) : Pull π := do
  let instanceLength ← pull16 limit
  let start ← position
  unpackTlvList fields (start + instanceLength.toNat) (pdu instanceLength)

/-- The body of an indication whose PDUs are instances. The HARQ and CRC decoders assert once more
what the check of the number has made sure. -/
def unpackInstanceListBody (fields : List (TlvField π)) (pdu : UInt16 → π) (tl : Tl) (limit : ℕ)
    (_body : Body π) : Pull (Body π) := do
  ensureBody tl limit
  let number ← pull16 limit
  ensure (number.toNat ≤ indMaxPdu)
  let pduList ← repeatPull (unpackInstance fields pdu limit) number.toNat
  return { tl, number := number.toNat, pduList }

instance {tl : Tl} {limit : ℕ} : Orderly (ensureBody tl limit) := by
  rw [ensureBody]
  infer_instance

theorem unpackInstance_orderly {fields : List (TlvField π)} {pdu : UInt16 → π} {limit : ℕ}
    (hfields : ∀ field ∈ fields, ∀ tl limit value, Orderly (field.unpack tl limit value)) :
    Orderly (unpackInstance fields pdu limit) := by
  have hlist : ∀ limit value, Orderly (unpackTlvList fields limit value) := fun limit value ↦
    tlvList_orderly fun field hfield tl value ↦ hfields field hfield tl limit value
  rw [unpackInstance]
  infer_instance

theorem unpackInstanceListBody_orderly {fields : List (TlvField π)} {pdu : UInt16 → π} {tl : Tl}
    {limit : ℕ} {body : Body π}
    (hfields : ∀ field ∈ fields, ∀ tl limit value, Orderly (field.unpack tl limit value)) :
    Orderly (unpackInstanceListBody fields pdu tl limit body) := by
  have hinstance : Orderly (unpackInstance fields pdu limit) := unpackInstance_orderly hfields
  rw [unpackInstanceListBody]
  infer_instance

theorem unpackLteIndication_orderly {bodyTag : UInt16}
    {unpackBody : Tl → ℕ → Body π → Pull (Body π)} {header : P7MessageHeader} {limit : ℕ}
    (hbody : ∀ tl limit body, Orderly (unpackBody tl limit body)) :
    Orderly (unpackLteIndication bodyTag unpackBody header limit) := by
  have hlist : ∀ value, Orderly (unpackP7TlvList [⟨bodyTag, unpackBody⟩] limit value) :=
    fun value ↦ tlvList_orderly fun field hfield tl value ↦ by
      obtain rfl := List.mem_singleton.mp hfield
      exact hbody tl limit value
  rw [unpackLteIndication]
  infer_instance

/-- The number of PDUs of the body is that of its list, and not too large. -/
def Body.Counted (body : Body π) : Prop :=
  body.pduList.length = body.number ∧ body.number ≤ indMaxPdu

theorem unpackInstanceListBody_counted {fields : List (TlvField π)} {pdu : UInt16 → π} {tl : Tl}
    {limit : ℕ} {body body' : Body π} {mem : Memory} {pos last : ℕ}
    (h : unpackInstanceListBody fields pdu tl limit body mem pos = .ok (body', last)) :
    body'.Counted := by
  obtain ⟨_, next, -, hrest⟩ := bind_eq_ok.mp h
  obtain ⟨number, next, -, hrest⟩ := bind_eq_ok.mp hrest
  obtain ⟨_, next, hmax, hrest⟩ := bind_eq_ok.mp hrest
  obtain ⟨pduList, next, hlist, hpure⟩ := bind_eq_ok.mp hrest
  cases hpure
  exact ⟨repeatPull_length _ _ hlist, (ensure_eq_ok.mp hmax).1⟩

/-- The time of a decoded indication is the word at the cursor, and its body has every property
that an empty body has and the body decoder keeps. -/
theorem unpackLteIndication_eq_ok {bodyTag : UInt16}
    {unpackBody : Tl → ℕ → Body π → Pull (Body π)} (Inv : Body π → Prop) (hempty : Inv {})
    (hbody : ∀ tl limit body mem pos body' last, Inv body →
      unpackBody tl limit body mem pos = .ok (body', last) → Inv body')
    {header : P7MessageHeader} {limit : ℕ} {mem : Memory} {pos last : ℕ}
    {ind : Indication LteFrame π}
    (h : unpackLteIndication bodyTag unpackBody header limit mem pos = .ok (ind, last)) :
    pos + 2 ≤ limit ∧ ind.header = header ∧ ind.frame.sfnSf = word16 mem pos ∧
      Inv ⟨ind.frame.tl, ind.number, ind.pduList⟩ := by
  obtain ⟨sfnSf, next, htime, hrest⟩ := bind_eq_ok.mp h
  obtain ⟨hlimit, rfl, rfl⟩ := pull16_eq_ok htime
  obtain ⟨body, next, hlist, hpure⟩ := bind_eq_ok.mp hrest
  cases hpure
  refine ⟨hlimit, rfl, rfl, ?_⟩
  refine tlvList_invariant Inv _ _ limit (fun field hfield tl value mem pos value' last ↦ ?_) _
    hempty hlist
  obtain rfl := List.mem_singleton.mp hfield
  exact hbody tl limit value mem pos value' last

end Indications

/-! ### HARQ -/

def harqIndicationBodyTag : UInt16 := 0x2026

/-- `nfapi_harq_indication_tdd_ack_nackformat_e`. -/
inductive AckNackFormat where
  | bundling
  | multiplexing
  | specialBundling
  | channelSelection
  | format3
  | format4
  | format5
  deriving DecidableEq, Repr

/-- The format that a mode field stands for, if any. -/
def AckNackFormat.ofMode? (mode : UInt8) : Option AckNackFormat :=
  [bundling, multiplexing, specialBundling, channelSelection, format3, format4,
    format5][mode.toNat]?

/-- `nfapi_harq_indication_tdd_rel8_t`, with the bytes of its union. -/
structure HarqIndicationTddRel8 where
  tl : Tl := {}
  mode : UInt8 := 0
  numberOfAckNack : UInt8 := 0
  harqData : List UInt8 := []
  deriving DecidableEq, Repr

/-- `nfapi_harq_indication_tdd_rel9_t`, with the byte of each element of its array of unions. -/
structure HarqIndicationTddRel9 where
  tl : Tl := {}
  mode : UInt8 := 0
  numberOfAckNack : UInt8 := 0
  harqData : List UInt8 := []
  deriving DecidableEq, Repr

/-- `nfapi_harq_indication_tdd_rel13_t`, with the byte of each element of its array of unions. -/
structure HarqIndicationTddRel13 where
  tl : Tl := {}
  mode : UInt8 := 0
  numberOfAckNack : UInt16 := 0
  harqData : List UInt8 := []
  deriving DecidableEq, Repr

/-- `nfapi_harq_indication_fdd_rel8_t`. -/
structure HarqIndicationFddRel8 where
  tl : Tl := {}
  harqTb1 : UInt8 := 0
  harqTb2 : UInt8 := 0
  deriving DecidableEq, Repr

/-- `nfapi_harq_indication_fdd_rel9_t`. -/
structure HarqIndicationFddRel9 where
  tl : Tl := {}
  mode : UInt8 := 0
  numberOfAckNack : UInt8 := 0
  harqTbN : List UInt8 := []
  deriving DecidableEq, Repr

/-- `nfapi_harq_indication_fdd_rel13_t`. -/
structure HarqIndicationFddRel13 where
  tl : Tl := {}
  mode : UInt8 := 0
  numberOfAckNack : UInt16 := 0
  harqTbN : List UInt8 := []
  deriving DecidableEq, Repr

/-- `nfapi_harq_indication_pdu_t`. -/
structure HarqIndicationPdu where
  instanceLength : UInt16 := 0
  rxUeInformation : RxUeInformation := {}
  harqIndicationTddRel8 : HarqIndicationTddRel8 := {}
  harqIndicationTddRel9 : HarqIndicationTddRel9 := {}
  harqIndicationTddRel13 : HarqIndicationTddRel13 := {}
  harqIndicationFddRel8 : HarqIndicationFddRel8 := {}
  harqIndicationFddRel9 : HarqIndicationFddRel9 := {}
  harqIndicationFddRel13 : HarqIndicationFddRel13 := {}
  ulCqiInformation : UlCqiInformation := {}
  deriving DecidableEq, Repr

/-- `NFAPI_MAX_NUMBER_ACK_NACK_TDD`. -/
def maxNumberAckNackTdd : ℕ := 8

/-- `NFAPI_HARQ_ACK_NACK_REL9_MAX`. -/
def harqAckNackRel9Max : ℕ := 10

/-- `NFAPI_HARQ_ACK_NACK_REL13_MAX`. -/
def harqAckNackRel13Max : ℕ := 22

/-- The number of data bytes of a release 8 field, if its format is one of that release. -/
def tddRel8DataLength? (mode : UInt8) : Option ℕ :=
  match AckNackFormat.ofMode? mode with
  | some .bundling => some 2
  | some .multiplexing => some 4
  | some .specialBundling => some 1
  | some .format3 => some 0
  | some .channelSelection => some 0
  | _ => none

def unpackHarqIndicationTddRel8Value (tl : Tl) (limit : ℕ) (previous : HarqIndicationTddRel8) :
    Pull HarqIndicationTddRel8 := do
  let mode ← pull8 limit
  let numberOfAckNack ← pull8 limit
  ensure ((tddRel8DataLength? mode).isSome)
  let data ← repeatPull (pull8 limit) ((tddRel8DataLength? mode).getD 0)
  return { tl, mode, numberOfAckNack, harqData := overwrite previous.harqData data }

/-- The data bytes of release 9 and 13: one for each ACK or NACK, in a known format. -/
def unpackAckNacks (formats : List AckNackFormat) (mode : UInt8) (count limit : ℕ) :
    Pull (List UInt8) := do
  ensure (count ≤ maxNumberAckNackTdd)
  repeatPull (do
    ensure ((AckNackFormat.ofMode? mode).any (· ∈ formats))
    pull8 limit) count

def unpackHarqIndicationTddRel9Value (tl : Tl) (limit : ℕ) (previous : HarqIndicationTddRel9) :
    Pull HarqIndicationTddRel9 := do
  let mode ← pull8 limit
  let numberOfAckNack ← pull8 limit
  let data ← unpackAckNacks
    [.bundling, .multiplexing, .specialBundling, .channelSelection, .format3]
    mode numberOfAckNack.toNat limit
  return { tl, mode, numberOfAckNack, harqData := overwrite previous.harqData data }

def unpackHarqIndicationTddRel13Value (tl : Tl) (limit : ℕ) (previous : HarqIndicationTddRel13) :
    Pull HarqIndicationTddRel13 := do
  let mode ← pull8 limit
  let numberOfAckNack ← pull16 limit
  let data ← unpackAckNacks
    [.bundling, .multiplexing, .specialBundling, .channelSelection, .format3, .format4, .format5]
    mode numberOfAckNack.toNat limit
  return { tl, mode, numberOfAckNack, harqData := overwrite previous.harqData data }

def unpackHarqIndicationFddRel8Value (tl : Tl) (limit : ℕ) : Pull HarqIndicationFddRel8 := do
  let harqTb1 ← pull8 limit
  let harqTb2 ← pull8 limit
  return { tl, harqTb1, harqTb2 }

def unpackHarqIndicationFddRel9Value (tl : Tl) (limit : ℕ) (previous : HarqIndicationFddRel9) :
    Pull HarqIndicationFddRel9 := do
  let mode ← pull8 limit
  let numberOfAckNack ← pull8 limit
  let data ← pullarray8 harqAckNackRel9Max numberOfAckNack.toNat limit
  return { tl, mode, numberOfAckNack, harqTbN := overwrite previous.harqTbN data }

def unpackHarqIndicationFddRel13Value (tl : Tl) (limit : ℕ) (previous : HarqIndicationFddRel13) :
    Pull HarqIndicationFddRel13 := do
  let mode ← pull8 limit
  let numberOfAckNack ← pull16 limit
  let data ← pullarray8 harqAckNackRel13Max numberOfAckNack.toNat limit
  return { tl, mode, numberOfAckNack, harqTbN := overwrite previous.harqTbN data }

/-- The fields of a HARQ instance. -/
def harqIndicationPduFields : List (TlvField HarqIndicationPdu) :=
  [⟨rxUeInformationTag, fun tl limit pdu ↦ do
      return { pdu with rxUeInformation := ← unpackRxUeInformationValue tl limit }⟩,
    ⟨0x2027, fun tl limit pdu ↦ do
      return { pdu with harqIndicationTddRel8 :=
        ← unpackHarqIndicationTddRel8Value tl limit pdu.harqIndicationTddRel8 }⟩,
    ⟨0x2028, fun tl limit pdu ↦ do
      return { pdu with harqIndicationTddRel9 :=
        ← unpackHarqIndicationTddRel9Value tl limit pdu.harqIndicationTddRel9 }⟩,
    ⟨0x204F, fun tl limit pdu ↦ do
      return { pdu with harqIndicationTddRel13 :=
        ← unpackHarqIndicationTddRel13Value tl limit pdu.harqIndicationTddRel13 }⟩,
    ⟨0x2029, fun tl limit pdu ↦ do
      return { pdu with harqIndicationFddRel8 := ← unpackHarqIndicationFddRel8Value tl limit }⟩,
    ⟨0x202A, fun tl limit pdu ↦ do
      return { pdu with harqIndicationFddRel9 :=
        ← unpackHarqIndicationFddRel9Value tl limit pdu.harqIndicationFddRel9 }⟩,
    ⟨0x2050, fun tl limit pdu ↦ do
      return { pdu with harqIndicationFddRel13 :=
        ← unpackHarqIndicationFddRel13Value tl limit pdu.harqIndicationFddRel13 }⟩,
    ⟨ulCqiInformationTag, fun tl limit pdu ↦ do
      return { pdu with ulCqiInformation := ← unpackUlCqiInformationValue tl limit }⟩]

/-- A body without PDUs is rejected, because `nfapi_p7_allocate` returns `NULL` for a list of size
zero and the HARQ decoder does not ask for the number before. -/
def unpackHarqIndicationBodyValue (tl : Tl) (limit : ℕ) (body : Body HarqIndicationPdu) :
    Pull (Body HarqIndicationPdu) := do
  let body ← unpackInstanceListBody harqIndicationPduFields
    (fun instanceLength ↦ { instanceLength }) tl limit body
  ensure (body.number ≠ 0)
  return body

def unpackHarqIndication : P7MessageHeader → ℕ → Pull (Indication LteFrame HarqIndicationPdu) :=
  unpackLteIndication harqIndicationBodyTag unpackHarqIndicationBodyValue

theorem harqIndicationPduFields_orderly : ∀ field ∈ harqIndicationPduFields,
    ∀ tl limit pdu, Orderly (field.unpack tl limit pdu) := by
  simp only [harqIndicationPduFields, List.forall_mem_cons, List.not_mem_nil, false_implies,
    implies_true, and_true, unpackHarqIndicationTddRel8Value, unpackHarqIndicationTddRel9Value,
    unpackHarqIndicationTddRel13Value, unpackHarqIndicationFddRel8Value,
    unpackHarqIndicationFddRel9Value, unpackHarqIndicationFddRel13Value, unpackAckNacks]
  refine ⟨?_, ?_, ?_, ?_, ?_, ?_, ?_, ?_⟩ <;> exact fun tl limit pdu ↦ inferInstance

instance {header : P7MessageHeader} {limit : ℕ} : Orderly (unpackHarqIndication header limit) :=
  unpackLteIndication_orderly fun tl limit body ↦ by
    have hbody : ∀ pdu, Orderly (unpackInstanceListBody harqIndicationPduFields pdu tl limit body) :=
      fun _ ↦ unpackInstanceListBody_orderly harqIndicationPduFields_orderly
    rw [unpackHarqIndicationBodyValue]
    infer_instance

theorem unpackHarqIndicationBodyValue_counted {tl : Tl} {limit : ℕ}
    {body body' : Body HarqIndicationPdu} {mem : Memory} {pos last : ℕ}
    (h : unpackHarqIndicationBodyValue tl limit body mem pos = .ok (body', last)) :
    body'.Counted := by
  obtain ⟨instances, next, hinstances, hrest⟩ := bind_eq_ok.mp h
  obtain ⟨_, next, -, hpure⟩ := bind_eq_ok.mp hrest
  cases hpure
  exact unpackInstanceListBody_counted hinstances

/-! ### CRC -/

def crcIndicationBodyTag : UInt16 := 0x202B

/-- `nfapi_crc_indication_rel8_t`. -/
structure CrcIndicationRel8 where
  tl : Tl := {}
  crcFlag : UInt8 := 0
  deriving DecidableEq, Repr

/-- `nfapi_crc_indication_pdu_t`. -/
structure CrcIndicationPdu where
  instanceLength : UInt16 := 0
  rxUeInformation : RxUeInformation := {}
  crcIndicationRel8 : CrcIndicationRel8 := {}
  deriving DecidableEq, Repr

def unpackCrcIndicationRel8Value (tl : Tl) (limit : ℕ) : Pull CrcIndicationRel8 := do
  return { tl, crcFlag := ← pull8 limit }

/-- The fields of a CRC instance. -/
def crcIndicationPduFields : List (TlvField CrcIndicationPdu) :=
  [⟨rxUeInformationTag, fun tl limit pdu ↦ do
      return { pdu with rxUeInformation := ← unpackRxUeInformationValue tl limit }⟩,
    ⟨0x202C, fun tl limit pdu ↦ do
      return { pdu with crcIndicationRel8 := ← unpackCrcIndicationRel8Value tl limit }⟩]

def unpackCrcIndicationBodyValue : Tl → ℕ → Body CrcIndicationPdu → Pull (Body CrcIndicationPdu) :=
  unpackInstanceListBody crcIndicationPduFields fun instanceLength ↦ { instanceLength }

def unpackCrcIndication : P7MessageHeader → ℕ → Pull (Indication LteFrame CrcIndicationPdu) :=
  unpackLteIndication crcIndicationBodyTag unpackCrcIndicationBodyValue

instance {header : P7MessageHeader} {limit : ℕ} : Orderly (unpackCrcIndication header limit) :=
  unpackLteIndication_orderly fun tl limit body ↦ unpackInstanceListBody_orderly (by
    simp only [crcIndicationPduFields, List.forall_mem_cons, List.not_mem_nil, false_implies,
      implies_true, and_true, unpackCrcIndicationRel8Value]
    refine ⟨?_, ?_⟩ <;> exact fun tl limit pdu ↦ inferInstance)

/-! ### SR -/

def srIndicationBodyTag : UInt16 := 0x202D

/-- `nfapi_sr_indication_pdu_t`. -/
structure SrIndicationPdu where
  instanceLength : UInt16 := 0
  rxUeInformation : RxUeInformation := {}
  ulCqiInformation : UlCqiInformation := {}
  deriving DecidableEq, Repr

/-- The fields of an SR instance. -/
def srIndicationPduFields : List (TlvField SrIndicationPdu) :=
  [⟨rxUeInformationTag, fun tl limit pdu ↦ do
      return { pdu with rxUeInformation := ← unpackRxUeInformationValue tl limit }⟩,
    ⟨ulCqiInformationTag, fun tl limit pdu ↦ do
      return { pdu with ulCqiInformation := ← unpackUlCqiInformationValue tl limit }⟩]

def unpackSrIndicationBodyValue : Tl → ℕ → Body SrIndicationPdu → Pull (Body SrIndicationPdu) :=
  unpackInstanceListBody srIndicationPduFields fun instanceLength ↦ { instanceLength }

def unpackSrIndication : P7MessageHeader → ℕ → Pull (Indication LteFrame SrIndicationPdu) :=
  unpackLteIndication srIndicationBodyTag unpackSrIndicationBodyValue

instance {header : P7MessageHeader} {limit : ℕ} : Orderly (unpackSrIndication header limit) :=
  unpackLteIndication_orderly fun tl limit body ↦ unpackInstanceListBody_orderly (by
    simp only [srIndicationPduFields, List.forall_mem_cons, List.not_mem_nil, false_implies,
      implies_true, and_true]
    refine ⟨?_, ?_⟩ <;> exact fun tl limit pdu ↦ inferInstance)

/-! ### RACH -/

def rachIndicationBodyTag : UInt16 := 0x2031

/-- `nfapi_preamble_pdu_rel8_t`. -/
structure PreamblePduRel8 where
  tl : Tl := {}
  rnti : UInt16 := 0
  preamble : UInt8 := 0
  timingAdvance : UInt16 := 0
  deriving DecidableEq, Repr

/-- `nfapi_preamble_pdu_rel9_t`. -/
structure PreamblePduRel9 where
  tl : Tl := {}
  timingAdvanceR9 : UInt16 := 0
  deriving DecidableEq, Repr

/-- `nfapi_preamble_pdu_rel13_t`. -/
structure PreamblePduRel13 where
  tl : Tl := {}
  rachResourceType : UInt8 := 0
  deriving DecidableEq, Repr

/-- `nfapi_preamble_pdu_t`. -/
structure PreamblePdu where
  instanceLength : UInt16 := 0
  preambleRel8 : PreamblePduRel8 := {}
  preambleRel9 : PreamblePduRel9 := {}
  preambleRel13 : PreamblePduRel13 := {}
  deriving DecidableEq, Repr

def unpackPreamblePduRel8Value (tl : Tl) (limit : ℕ) : Pull PreamblePduRel8 := do
  let rnti ← pull16 limit
  let preamble ← pull8 limit
  let timingAdvance ← pull16 limit
  return { tl, rnti, preamble, timingAdvance }

def unpackPreamblePduRel9Value (tl : Tl) (limit : ℕ) : Pull PreamblePduRel9 := do
  return { tl, timingAdvanceR9 := ← pull16 limit }

def unpackPreamblePduRel13Value (tl : Tl) (limit : ℕ) : Pull PreamblePduRel13 := do
  return { tl, rachResourceType := ← pull8 limit }

/-- The fields of a preamble instance. -/
def preamblePduFields : List (TlvField PreamblePdu) :=
  [⟨0x2032, fun tl limit pdu ↦ do
      return { pdu with preambleRel8 := ← unpackPreamblePduRel8Value tl limit }⟩,
    ⟨0x2033, fun tl limit pdu ↦ do
      return { pdu with preambleRel9 := ← unpackPreamblePduRel9Value tl limit }⟩,
    ⟨0x2051, fun tl limit pdu ↦ do
      return { pdu with preambleRel13 := ← unpackPreamblePduRel13Value tl limit }⟩]

def unpackRachIndicationBodyValue : Tl → ℕ → Body PreamblePdu → Pull (Body PreamblePdu) :=
  unpackInstanceListBody preamblePduFields fun instanceLength ↦ { instanceLength }

def unpackRachIndication : P7MessageHeader → ℕ → Pull (Indication LteFrame PreamblePdu) :=
  unpackLteIndication rachIndicationBodyTag unpackRachIndicationBodyValue

instance {header : P7MessageHeader} {limit : ℕ} : Orderly (unpackRachIndication header limit) :=
  unpackLteIndication_orderly fun tl limit body ↦ unpackInstanceListBody_orderly (by
    simp only [preamblePduFields, List.forall_mem_cons, List.not_mem_nil, false_implies,
      implies_true, and_true, unpackPreamblePduRel8Value, unpackPreamblePduRel9Value,
      unpackPreamblePduRel13Value]
    refine ⟨?_, ?_, ?_⟩ <;> exact fun tl limit pdu ↦ inferInstance)

/-! ### RX -/

def rxIndicationBodyTag : UInt16 := 0x2023
def rxIndicationRel8Tag : UInt16 := 0x2024
def rxIndicationRel9Tag : UInt16 := 0x2025

/-- `nfapi_rx_indication_rel8_t`. -/
structure RxIndicationRel8 where
  tl : Tl := {}
  length : UInt16 := 0
  offset : UInt16 := 0
  ulCqi : UInt8 := 0
  timingAdvance : UInt16 := 0
  deriving DecidableEq, Repr

/-- `nfapi_rx_indication_rel9_t`. -/
structure RxIndicationRel9 where
  tl : Tl := {}
  timingAdvanceR9 : UInt16 := 0
  deriving DecidableEq, Repr

/-- `nfapi_rx_indication_pdu_t`. -/
structure RxIndicationPdu where
  rxUeInformation : RxUeInformation := {}
  rxIndicationRel8 : RxIndicationRel8 := {}
  rxIndicationRel9 : RxIndicationRel9 := {}
  rxIndData : List UInt8 := []
  deriving DecidableEq, Repr

def unpackRxIndicationRel8Value (tl : Tl) (limit : ℕ) : Pull RxIndicationRel8 := do
  let length ← pull16 limit
  let offset ← pull16 limit
  let ulCqi ← pull8 limit
  let timingAdvance ← pull16 limit
  return { tl, length, offset, ulCqi, timingAdvance }

def unpackRxIndicationRel9Value (tl : Tl) (limit : ℕ) : Pull RxIndicationRel9 := do
  return { tl, timingAdvanceR9 := ← pull16 limit }

/-- Reads a tag that has to be the given one, and the length. -/
def expectTl (tag : UInt16) (limit : ℕ) : Pull Tl := do
  let genericTl ← unpackTl limit
  ensure (genericTl.tag = tag)
  return genericTl

/-- The three fields of a PDU, in this order and all present. -/
def unpackRxIndicationPdu (limit : ℕ) : Pull RxIndicationPdu := do
  let ueTl ← expectTl rxUeInformationTag limit
  let rxUeInformation ← unpackRxUeInformationValue ueTl limit
  let rel8Tl ← expectTl rxIndicationRel8Tag limit
  let rxIndicationRel8 ← unpackRxIndicationRel8Value rel8Tl limit
  let rel9Tl ← expectTl rxIndicationRel9Tag limit
  let rxIndicationRel9 ← unpackRxIndicationRel9Value rel9Tl limit
  return { rxUeInformation, rxIndicationRel8, rxIndicationRel9 }

instance {tag : UInt16} {limit : ℕ} : Orderly (expectTl tag limit) := by
  rw [expectTl]
  infer_instance

instance {tl : Tl} {limit : ℕ} : Orderly (unpackRxIndicationRel8Value tl limit) := by
  rw [unpackRxIndicationRel8Value]
  infer_instance

instance {tl : Tl} {limit : ℕ} : Orderly (unpackRxIndicationRel9Value tl limit) := by
  rw [unpackRxIndicationRel9Value]
  infer_instance

/-- The payload of a PDU, of the length that its release 8 field says. -/
def unpackRxIndData (limit : ℕ) (pdu : RxIndicationPdu) : Pull RxIndicationPdu := do
  if pdu.rxIndicationRel8.tl.tag = rxIndicationRel8Tag then
    return { pdu with
      rxIndData := ← pullarray8 rxIndDataMax pdu.rxIndicationRel8.length.toNat limit }
  else
    return pdu

/-- The payloads follow behind all PDUs. The assertions on the number and on the index of a PDU
repeat the check of the number. -/
def unpackRxIndicationBodyValue (tl : Tl) (limit : ℕ) (_body : Body RxIndicationPdu) :
    Pull (Body RxIndicationPdu) := do
  ensureBody tl limit
  let number ← pull16 limit
  ensure (number.toNat ≤ indMaxPdu)
  let pdus ← repeatPull (unpackRxIndicationPdu limit) number.toNat
  let pduList ← forEach (unpackRxIndData limit) pdus
  return { tl, number := number.toNat, pduList }

def unpackRxIndication : P7MessageHeader → ℕ → Pull (Indication LteFrame RxIndicationPdu) :=
  unpackLteIndication rxIndicationBodyTag unpackRxIndicationBodyValue

instance {header : P7MessageHeader} {limit : ℕ} : Orderly (unpackRxIndication header limit) :=
  unpackLteIndication_orderly fun tl limit body ↦ by
    have hpdu : Orderly (unpackRxIndicationPdu limit) := by
      rw [unpackRxIndicationPdu]
      infer_instance
    have hdata : ∀ pdu, Orderly (unpackRxIndData limit pdu) := by
      intro pdu
      rw [unpackRxIndData]
      infer_instance
    rw [unpackRxIndicationBodyValue]
    infer_instance

theorem unpackRxIndicationBodyValue_counted {tl : Tl} {limit : ℕ}
    {body body' : Body RxIndicationPdu} {mem : Memory} {pos last : ℕ}
    (h : unpackRxIndicationBodyValue tl limit body mem pos = .ok (body', last)) :
    body'.Counted := by
  obtain ⟨_, next, -, hrest⟩ := bind_eq_ok.mp h
  obtain ⟨number, next, -, hrest⟩ := bind_eq_ok.mp hrest
  obtain ⟨_, next, hmax, hrest⟩ := bind_eq_ok.mp hrest
  obtain ⟨pdus, next, hpdus, hrest⟩ := bind_eq_ok.mp hrest
  obtain ⟨pduList, next, hdata, hpure⟩ := bind_eq_ok.mp hrest
  cases hpure
  exact ⟨(forEach_length _ _ hdata).trans (repeatPull_length _ _ hpdus), (ensure_eq_ok.mp hmax).1⟩

/-! ### CQI -/

def cqiIndicationBodyTag : UInt16 := 0x202E
def cqiIndicationRel8Tag : UInt16 := 0x202F
def cqiIndicationRel9Tag : UInt16 := 0x2030

/-- `NFAPI_CC_MAX`. -/
def ccMax : ℕ := 4

/-- `NFAPI_CQI_RAW_MAX_LEN`. -/
def cqiRawMaxLen : ℕ := 12

/-- `nfapi_cqi_indication_rel8_t`. -/
structure CqiIndicationRel8 where
  tl : Tl := {}
  length : UInt16 := 0
  dataOffset : UInt16 := 0
  ulCqi : UInt8 := 0
  ri : UInt8 := 0
  timingAdvance : UInt16 := 0
  deriving DecidableEq, Repr

/-- `nfapi_cqi_indication_rel9_t`. -/
structure CqiIndicationRel9 where
  tl : Tl := {}
  length : UInt16 := 0
  dataOffset : UInt16 := 0
  ulCqi : UInt8 := 0
  numberOfCcReported : UInt8 := 0
  ri : List UInt8 := []
  timingAdvance : UInt16 := 0
  timingAdvanceR9 : UInt16 := 0
  deriving DecidableEq, Repr

/-- `nfapi_cqi_indication_pdu_t`. -/
structure CqiIndicationPdu where
  instanceLength : UInt16 := 0
  rxUeInformation : RxUeInformation := {}
  cqiIndicationRel8 : CqiIndicationRel8 := {}
  cqiIndicationRel9 : CqiIndicationRel9 := {}
  ulCqiInformation : UlCqiInformation := {}
  deriving DecidableEq, Repr

/-- A CQI PDU and its entry in the list of raw PDUs. -/
structure CqiEntry where
  pdu : CqiIndicationPdu
  raw : List UInt8
  deriving DecidableEq, Repr

def unpackCqiIndicationRel8Value (tl : Tl) (limit : ℕ) : Pull CqiIndicationRel8 := do
  let length ← pull16 limit
  let dataOffset ← pull16 limit
  let ulCqi ← pull8 limit
  let ri ← pull8 limit
  let timingAdvance ← pull16 limit
  return { tl, length, dataOffset, ulCqi, ri, timingAdvance }

def unpackCqiIndicationRel9Value (tl : Tl) (limit : ℕ) (previous : CqiIndicationRel9) :
    Pull CqiIndicationRel9 := do
  let length ← pull16 limit
  let dataOffset ← pull16 limit
  let ulCqi ← pull8 limit
  let numberOfCcReported ← pull8 limit
  ensure (numberOfCcReported.toNat ≤ ccMax)
  let ri ← pullarray8 ccMax numberOfCcReported.toNat limit
  let timingAdvance ← pull16 limit
  let timingAdvanceR9 ← pull16 limit
  return {
    tl, length, dataOffset, ulCqi, numberOfCcReported
    ri := overwrite previous.ri ri
    timingAdvance, timingAdvanceR9 }

/-- The cases of the switch over the tag of a field. -/
def cqiIndicationPduFields : List (TlvField CqiIndicationPdu) :=
  [⟨rxUeInformationTag, fun tl limit pdu ↦ do
      return { pdu with rxUeInformation := ← unpackRxUeInformationValue tl limit }⟩,
    ⟨cqiIndicationRel8Tag, fun tl limit pdu ↦ do
      return { pdu with cqiIndicationRel8 := ← unpackCqiIndicationRel8Value tl limit }⟩,
    ⟨cqiIndicationRel9Tag, fun tl limit pdu ↦ do
      return { pdu with cqiIndicationRel9 :=
        ← unpackCqiIndicationRel9Value tl limit pdu.cqiIndicationRel9 }⟩,
    ⟨ulCqiInformationTag, fun tl limit pdu ↦ do
      return { pdu with ulCqiInformation := ← unpackUlCqiInformationValue tl limit }⟩]

def unpackCqiIndicationPdu (limit : ℕ) : Pull CqiIndicationPdu := do
  let instanceLength ← pull16 limit
  let start ← position
  tagSwitch cqiIndicationPduFields limit (start + instanceLength.toNat) { instanceLength }

/-- The raw PDU, of the length that the release 8 or the release 9 field says. -/
def unpackCqiRaw (limit : ℕ) (pdu : CqiIndicationPdu) : Pull CqiEntry := do
  if pdu.cqiIndicationRel8.tl.tag = cqiIndicationRel8Tag then
    return ⟨pdu, ← pullarray8 cqiRawMaxLen pdu.cqiIndicationRel8.length.toNat limit⟩
  else if pdu.cqiIndicationRel9.tl.tag = cqiIndicationRel9Tag then
    return ⟨pdu, ← pullarray8 cqiRawMaxLen pdu.cqiIndicationRel9.length.toNat limit⟩
  else
    return ⟨pdu, []⟩

/-- A number that is too large is answered with `-1`, which the list decoder takes for success:
the body then has that number and the lists it had before. -/
def unpackCqiIndicationBodyValue (tl : Tl) (limit : ℕ) (body : Body CqiEntry) :
    Pull (Body CqiEntry) := do
  ensureBody tl limit
  let number ← pull16 limit
  if number.toNat > indMaxPdu then
    return { body with tl, number := number.toNat }
  else
    let pdus ← repeatPull (unpackCqiIndicationPdu limit) number.toNat
    let pduList ← forEach (unpackCqiRaw limit) pdus
    return { tl, number := number.toNat, pduList }

def unpackCqiIndication : P7MessageHeader → ℕ → Pull (Indication LteFrame CqiEntry) :=
  unpackLteIndication cqiIndicationBodyTag unpackCqiIndicationBodyValue

instance {header : P7MessageHeader} {limit : ℕ} : Orderly (unpackCqiIndication header limit) :=
  unpackLteIndication_orderly fun tl limit body ↦ by
    have hfields : ∀ field ∈ cqiIndicationPduFields, ∀ tl pdu,
        Orderly (field.unpack tl limit pdu) := by
      simp only [cqiIndicationPduFields, List.forall_mem_cons, List.not_mem_nil, false_implies,
        implies_true, and_true, unpackCqiIndicationRel8Value, unpackCqiIndicationRel9Value]
      refine ⟨?_, ?_, ?_, ?_⟩ <;> exact fun tl pdu ↦ inferInstance
    have hswitch : ∀ stop pdu, Orderly (tagSwitch cqiIndicationPduFields limit stop pdu) :=
      fun _ _ ↦ tagSwitch_orderly hfields
    have hpdu : Orderly (unpackCqiIndicationPdu limit) := by
      rw [unpackCqiIndicationPdu]
      infer_instance
    have hraw : ∀ pdu, Orderly (unpackCqiRaw limit pdu) := by
      intro pdu
      rw [unpackCqiRaw]
      infer_instance
    rw [unpackCqiIndicationBodyValue]
    infer_instance

/-- A CQI body has a 16-bit number, and as many PDUs as it says unless it is too large. -/
theorem unpackCqiIndicationBodyValue_counted {tl : Tl} {limit : ℕ} {body body' : Body CqiEntry}
    {mem : Memory} {pos last : ℕ}
    (h : unpackCqiIndicationBodyValue tl limit body mem pos = .ok (body', last)) :
    body'.number < 65536 ∧ (body'.number ≤ indMaxPdu → body'.pduList.length = body'.number) := by
  obtain ⟨_, next, -, hrest⟩ := bind_eq_ok.mp h
  obtain ⟨number, next, -, hrest⟩ := bind_eq_ok.mp hrest
  split_ifs at hrest with hlarge
  · cases hrest
    exact ⟨number.toNat_lt, fun hsmall ↦ absurd hlarge (Nat.not_lt.mpr hsmall)⟩
  · obtain ⟨pdus, next, hpdus, hrest⟩ := bind_eq_ok.mp hrest
    obtain ⟨pduList, next, hraw, hpure⟩ := bind_eq_ok.mp hrest
    cases hpure
    exact ⟨number.toNat_lt,
      fun _ ↦ (forEach_length _ _ hraw).trans (repeatPull_length _ _ hpdus)⟩

end MultiUeProxy.P7.LteUplink
