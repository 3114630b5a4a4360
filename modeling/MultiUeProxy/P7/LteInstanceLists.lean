import MultiUeProxy.P7.LteFrame
import MultiUeProxy.P7.Unpack

/-!
# The LTE indications with instance lists

The encoders of `nfapi_p7.c` for the HARQ, CRC, SR, SRS, RACH, NB_HARQ and NRACH indications, and
the decoders of the three that are not in `LteUplink`. The body of such an indication is a list of
PDUs, and a PDU a list of optional tagged fields. In front of the fields is their length, which the
encoder puts in when it has written them. Only NRACH has no such length: its decoder takes every
PDU to be ten bytes long.

`instanceList_survives_iff` says which of these indications come back as they were packed. The
decoders of HARQ, NB_HARQ and NRACH do not accept an empty list, because they ask for the memory of
its PDUs, which is `NULL` for none.
-/

set_option autoImplicit false
set_option relaxedAutoImplicit false

namespace MultiUeProxy.P7.LteUplink

open Lib.Execution Lib.ByteCursor Lib.ByteCursor.Pull Lib.ByteWriter Lib.Codec Lib.TlvCodec Header
open Pack
open Lib.ByteWriter.Push (push8 push16 push32 pusharray8 pusharray16)

/-! ### The other three decoders -/

/-- `nfapi_srs_indication_fdd_rel8_t`. -/
structure SrsIndicationFddRel8 where
  tl : Tl := {}
  dopplerEstimation : UInt16 := 0
  timingAdvance : UInt16 := 0
  numberOfResourceBlocks : UInt8 := 0
  rbStart : UInt8 := 0
  snr : List UInt8 := []
  deriving DecidableEq, Repr

/-- `nfapi_srs_indication_fdd_rel9_t`. -/
structure SrsIndicationFddRel9 where
  tl : Tl := {}
  timingAdvanceR9 : UInt16 := 0
  deriving DecidableEq, Repr

/-- `nfapi_srs_indication_ttd_rel10_t`. -/
structure SrsIndicationTddRel10 where
  tl : Tl := {}
  upptsSymbol : UInt8 := 0
  deriving DecidableEq, Repr

/-- `nfapi_srs_indication_fdd_rel11_t`. -/
structure SrsIndicationFddRel11 where
  tl : Tl := {}
  ulRtoa : UInt16 := 0
  deriving DecidableEq, Repr

/-- An element of `subands`, with the words that are written to its channels. -/
structure Subband where
  subbandIndex : UInt8
  channel : List UInt16
  deriving DecidableEq, Repr

/-- `nfapi_tdd_channel_measurement_t`, with the subbands that are written. -/
structure TddChannelMeasurement where
  tl : Tl := {}
  numPrbPerSubband : UInt8 := 0
  numberOfSubbands : UInt8 := 0
  numAtennas : UInt8 := 0
  subands : List Subband := []
  deriving DecidableEq, Repr

/-- `nfapi_srs_indication_pdu_t`. -/
structure SrsIndicationPdu where
  instanceLength : UInt16 := 0
  rxUeInformation : RxUeInformation := {}
  srsIndicationFddRel8 : SrsIndicationFddRel8 := {}
  srsIndicationFddRel9 : SrsIndicationFddRel9 := {}
  srsIndicationTddRel10 : SrsIndicationTddRel10 := {}
  srsIndicationFddRel11 : SrsIndicationFddRel11 := {}
  tddChannelMeasurement : TddChannelMeasurement := {}
  deriving DecidableEq, Repr

/-- `nfapi_nb_harq_indication_fdd_rel13_t`. -/
structure NbHarqIndicationFddRel13 where
  tl : Tl := {}
  harqTb1 : UInt8 := 0
  deriving DecidableEq, Repr

/-- `nfapi_nb_harq_indication_pdu_t`. -/
structure NbHarqIndicationPdu where
  instanceLength : UInt16 := 0
  rxUeInformation : RxUeInformation := {}
  nbHarqIndicationFddRel13 : NbHarqIndicationFddRel13 := {}
  ulCqiInformation : UlCqiInformation := {}
  deriving DecidableEq, Repr

/-- `nfapi_nrach_indication_pdu_rel13_t`, the only member of `nfapi_nrach_indication_pdu_t`. -/
structure NrachIndicationPduRel13 where
  tl : Tl := {}
  rnti : UInt16 := 0
  initialSc : UInt8 := 0
  timingAdvance : UInt16 := 0
  nrachCeLevel : UInt8 := 0
  deriving DecidableEq, Repr

def srsIndication : UInt16 := 0x89
def nbHarqIndication : UInt16 := 0x8E
def nrachIndication : UInt16 := 0x8F

def srsIndicationBodyTag : UInt16 := 0x2034
def nbHarqIndicationBodyTag : UInt16 := 0x2063
def nrachIndicationBodyTag : UInt16 := 0x2065

/-- `NFAPI_SRS_IND_MAX_PDU`. -/
def srsIndMaxPdu : ℕ := 16

/-- `NFAPI_NUM_RB_MAX`. -/
def numRbMax : ℕ := 1000

/-- `NFAPI_MAX_NUM_SUBBANDS`. -/
def maxNumSubbands : ℕ := 13

/-- `NFAPI_MAX_NUM_PHYSICAL_ANTENNAS`. -/
def maxNumPhysicalAntennas : ℕ := 8

def unpackSrsIndicationFddRel8Value (tl : Tl) (limit : ℕ) (previous : SrsIndicationFddRel8) :
    Pull SrsIndicationFddRel8 := do
  let dopplerEstimation ← pull16 limit
  let timingAdvance ← pull16 limit
  let numberOfResourceBlocks ← pull8 limit
  let rbStart ← pull8 limit
  let snr ← pullarray8 numRbMax numberOfResourceBlocks.toNat limit
  return { tl, dopplerEstimation, timingAdvance, numberOfResourceBlocks, rbStart,
           snr := overwrite previous.snr snr }

def unpackSrsIndicationFddRel9Value (tl : Tl) (limit : ℕ) : Pull SrsIndicationFddRel9 := do
  return { tl, timingAdvanceR9 := ← pull16 limit }

def unpackSrsIndicationTddRel10Value (tl : Tl) (limit : ℕ) : Pull SrsIndicationTddRel10 := do
  return { tl, upptsSymbol := ← pull8 limit }

def unpackSrsIndicationFddRel11Value (tl : Tl) (limit : ℕ) : Pull SrsIndicationFddRel11 := do
  return { tl, ulRtoa := ← pull16 limit }

def unpackSubband (numAtennas : UInt8) (limit : ℕ) : Pull Subband := do
  let subbandIndex ← pull8 limit
  let channel ← pullarray16 maxNumPhysicalAntennas numAtennas.toNat limit
  return { subbandIndex, channel }

/-- Subbands that are written over those that are there. -/
def overwriteSubbands : List Subband → List Subband → List Subband
  | [], subbands => subbands
  | previous, [] => previous
  | before :: previous, subband :: subbands =>
    { subband with channel := subband.channel ++ before.channel.drop subband.channel.length } ::
      overwriteSubbands previous subbands

def unpackTddChannelMeasurementValue (tl : Tl) (limit : ℕ) (previous : TddChannelMeasurement) :
    Pull TddChannelMeasurement := do
  let numPrbPerSubband ← pull8 limit
  let numberOfSubbands ← pull8 limit
  let numAtennas ← pull8 limit
  ensure (numberOfSubbands.toNat ≤ maxNumSubbands)
  ensure (numAtennas.toNat ≤ maxNumPhysicalAntennas)
  let subands ← repeatPull (unpackSubband numAtennas limit) numberOfSubbands.toNat
  return { tl, numPrbPerSubband, numberOfSubbands, numAtennas,
           subands := overwriteSubbands previous.subands subands }

/-- The fields of an SRS instance. -/
def srsIndicationPduFields : List (TlvField SrsIndicationPdu) :=
  [⟨rxUeInformationTag, fun tl limit pdu ↦ do
      return { pdu with rxUeInformation := ← unpackRxUeInformationValue tl limit }⟩,
    ⟨0x2035, fun tl limit pdu ↦ do
      return { pdu with srsIndicationFddRel8 :=
        ← unpackSrsIndicationFddRel8Value tl limit pdu.srsIndicationFddRel8 }⟩,
    ⟨0x2036, fun tl limit pdu ↦ do
      return { pdu with srsIndicationFddRel9 := ← unpackSrsIndicationFddRel9Value tl limit }⟩,
    ⟨0x2037, fun tl limit pdu ↦ do
      return { pdu with srsIndicationTddRel10 := ← unpackSrsIndicationTddRel10Value tl limit }⟩,
    ⟨0x2053, fun tl limit pdu ↦ do
      return { pdu with srsIndicationFddRel11 := ← unpackSrsIndicationFddRel11Value tl limit }⟩,
    ⟨0x2054, fun tl limit pdu ↦ do
      return { pdu with tddChannelMeasurement :=
        ← unpackTddChannelMeasurementValue tl limit pdu.tddChannelMeasurement }⟩]

/-- The number of UEs has eight bits. -/
def unpackSrsIndicationBodyValue (tl : Tl) (limit : ℕ) (_body : Body SrsIndicationPdu) :
    Pull (Body SrsIndicationPdu) := do
  ensureBody tl limit
  let number ← pull8 limit
  ensure (number.toNat ≤ srsIndMaxPdu)
  let pduList ← repeatPull
    (unpackInstance srsIndicationPduFields (fun instanceLength ↦ { instanceLength }) limit)
    number.toNat
  return { tl, number := number.toNat, pduList }

def unpackSrsIndication : P7MessageHeader → ℕ → Pull (Indication LteFrame SrsIndicationPdu) :=
  unpackLteIndication srsIndicationBodyTag unpackSrsIndicationBodyValue

def unpackNbHarqIndicationFddRel13Value (tl : Tl) (limit : ℕ) :
    Pull NbHarqIndicationFddRel13 := do
  return { tl, harqTb1 := ← pull8 limit }

/-- The fields of an NB_HARQ instance. -/
def nbHarqIndicationPduFields : List (TlvField NbHarqIndicationPdu) :=
  [⟨rxUeInformationTag, fun tl limit pdu ↦ do
      return { pdu with rxUeInformation := ← unpackRxUeInformationValue tl limit }⟩,
    ⟨0x2064, fun tl limit pdu ↦ do
      return { pdu with
        nbHarqIndicationFddRel13 := ← unpackNbHarqIndicationFddRel13Value tl limit }⟩,
    ⟨ulCqiInformationTag, fun tl limit pdu ↦ do
      return { pdu with ulCqiInformation := ← unpackUlCqiInformationValue tl limit }⟩]

/-- As with HARQ, a body without PDUs is rejected. -/
def unpackNbHarqIndicationBodyValue (tl : Tl) (limit : ℕ) (body : Body NbHarqIndicationPdu) :
    Pull (Body NbHarqIndicationPdu) := do
  let body ← unpackInstanceListBody nbHarqIndicationPduFields
    (fun instanceLength ↦ { instanceLength }) tl limit body
  ensure (body.number ≠ 0)
  return body

def unpackNbHarqIndication : P7MessageHeader → ℕ → Pull (Indication LteFrame NbHarqIndicationPdu) :=
  unpackLteIndication nbHarqIndicationBodyTag unpackNbHarqIndicationBodyValue

def unpackNrachIndicationRel13Value (tl : Tl) (limit : ℕ) : Pull NrachIndicationPduRel13 := do
  let rnti ← pull16 limit
  let initialSc ← pull8 limit
  let timingAdvance ← pull16 limit
  let nrachCeLevel ← pull8 limit
  return { tl, rnti, initialSc, timingAdvance, nrachCeLevel }

/-- The field of an NRACH PDU. -/
def nrachIndicationPduFields : List (TlvField NrachIndicationPduRel13) :=
  [⟨0x2066, fun tl limit _ ↦ unpackNrachIndicationRel13Value tl limit⟩]

/-- A PDU ends four and six bytes behind its start, whatever is there. -/
def unpackNrachIndicationPdu : Pull NrachIndicationPduRel13 := do
  let start ← position
  unpackTlvList nrachIndicationPduFields (start + 4 + 6) {}

def unpackNrachIndicationBodyValue (tl : Tl) (limit : ℕ) (_body : Body NrachIndicationPduRel13) :
    Pull (Body NrachIndicationPduRel13) := do
  ensureBody tl limit
  let number ← pull8 limit
  ensure (number.toNat ≤ indMaxPdu)
  ensure (number.toNat ≠ 0)
  let pduList ← repeatPull unpackNrachIndicationPdu number.toNat
  return { tl, number := number.toNat, pduList }

def unpackNrachIndication :
    P7MessageHeader → ℕ → Pull (Indication LteFrame NrachIndicationPduRel13) :=
  unpackLteIndication nrachIndicationBodyTag unpackNrachIndicationBodyValue

/-! ### The encoders -/

/-- The bytes of the union of a release 8 field that belong to its format. An unknown format is an
error. -/
def packHarqIndicationTddRel8Value (limit : ℕ) (value : HarqIndicationTddRel8) : Push Unit := do
  push8 limit value.mode
  push8 limit value.numberOfAckNack
  Push.ensure ((tddRel8DataLength? value.mode).isSome)
  Push.forEach (push8 limit) (value.harqData.take ((tddRel8DataLength? value.mode).getD 0))

/-- One byte for each ACK or NACK, in a known format. -/
def packAckNacks (formats : List AckNackFormat) (mode : UInt8) (limit : ℕ) (data : List UInt8) :
    Push Unit :=
  Push.forEach (fun byte ↦ do
    Push.ensure ((AckNackFormat.ofMode? mode).any (· ∈ formats))
    push8 limit byte) data

def packHarqIndicationTddRel9Value (limit : ℕ) (value : HarqIndicationTddRel9) : Push Unit := do
  push8 limit value.mode
  push8 limit value.numberOfAckNack
  packAckNacks [.bundling, .multiplexing, .specialBundling, .channelSelection, .format3]
    value.mode limit value.harqData

def packHarqIndicationTddRel13Value (limit : ℕ) (value : HarqIndicationTddRel13) : Push Unit := do
  push8 limit value.mode
  push16 limit value.numberOfAckNack
  packAckNacks
    [.bundling, .multiplexing, .specialBundling, .channelSelection, .format3, .format4, .format5]
    value.mode limit value.harqData

def packHarqIndicationFddRel8Value (limit : ℕ) (value : HarqIndicationFddRel8) : Push Unit := do
  push8 limit value.harqTb1
  push8 limit value.harqTb2

def packHarqIndicationFddRel9Value (limit : ℕ) (value : HarqIndicationFddRel9) : Push Unit := do
  push8 limit value.mode
  push8 limit value.numberOfAckNack
  pusharray8 value.harqTbN harqAckNackRel9Max value.numberOfAckNack.toNat limit

def packHarqIndicationFddRel13Value (limit : ℕ) (value : HarqIndicationFddRel13) :
    Push Unit := do
  push8 limit value.mode
  push16 limit value.numberOfAckNack
  pusharray8 value.harqTbN harqAckNackRel13Max value.numberOfAckNack.toNat limit

def packHarqIndicationPdu (limit : ℕ) (pdu : HarqIndicationPdu) : Push Unit :=
  packInstance limit pdu.instanceLength do
    packTlv limit rxUeInformationTag pdu.rxUeInformation.tl
      (packRxUeInformationValue limit pdu.rxUeInformation)
    packTlv limit 0x2027 pdu.harqIndicationTddRel8.tl
      (packHarqIndicationTddRel8Value limit pdu.harqIndicationTddRel8)
    packTlv limit 0x2028 pdu.harqIndicationTddRel9.tl
      (packHarqIndicationTddRel9Value limit pdu.harqIndicationTddRel9)
    packTlv limit 0x204F pdu.harqIndicationTddRel13.tl
      (packHarqIndicationTddRel13Value limit pdu.harqIndicationTddRel13)
    packTlv limit 0x2029 pdu.harqIndicationFddRel8.tl
      (packHarqIndicationFddRel8Value limit pdu.harqIndicationFddRel8)
    packTlv limit 0x202A pdu.harqIndicationFddRel9.tl
      (packHarqIndicationFddRel9Value limit pdu.harqIndicationFddRel9)
    packTlv limit 0x2050 pdu.harqIndicationFddRel13.tl
      (packHarqIndicationFddRel13Value limit pdu.harqIndicationFddRel13)
    packTlv limit ulCqiInformationTag pdu.ulCqiInformation.tl
      (packUlCqiInformationValue limit pdu.ulCqiInformation)

def packCrcIndicationRel8Body (limit : ℕ) (value : CrcIndicationRel8) : Push Unit :=
  push8 limit value.crcFlag

def packCrcIndicationPdu (limit : ℕ) (pdu : CrcIndicationPdu) : Push Unit :=
  packInstance limit pdu.instanceLength do
    packTlv limit rxUeInformationTag pdu.rxUeInformation.tl
      (packRxUeInformationValue limit pdu.rxUeInformation)
    packTlv limit 0x202C pdu.crcIndicationRel8.tl
      (packCrcIndicationRel8Body limit pdu.crcIndicationRel8)

def packSrIndicationPdu (limit : ℕ) (pdu : SrIndicationPdu) : Push Unit :=
  packInstance limit pdu.instanceLength do
    packTlv limit rxUeInformationTag pdu.rxUeInformation.tl
      (packRxUeInformationValue limit pdu.rxUeInformation)
    packTlv limit ulCqiInformationTag pdu.ulCqiInformation.tl
      (packUlCqiInformationValue limit pdu.ulCqiInformation)

def packPreamblePduRel8Value (limit : ℕ) (value : PreamblePduRel8) : Push Unit := do
  push16 limit value.rnti
  push8 limit value.preamble
  push16 limit value.timingAdvance

def packPreamblePduRel9Value (limit : ℕ) (value : PreamblePduRel9) : Push Unit :=
  push16 limit value.timingAdvanceR9

def packPreamblePduRel13Value (limit : ℕ) (value : PreamblePduRel13) : Push Unit :=
  push8 limit value.rachResourceType

def packPreamblePdu (limit : ℕ) (pdu : PreamblePdu) : Push Unit :=
  packInstance limit pdu.instanceLength do
    packTlv limit 0x2032 pdu.preambleRel8.tl (packPreamblePduRel8Value limit pdu.preambleRel8)
    packTlv limit 0x2033 pdu.preambleRel9.tl (packPreamblePduRel9Value limit pdu.preambleRel9)
    packTlv limit 0x2051 pdu.preambleRel13.tl (packPreamblePduRel13Value limit pdu.preambleRel13)

def packSrsIndicationFddRel8Value (limit : ℕ) (value : SrsIndicationFddRel8) : Push Unit := do
  push16 limit value.dopplerEstimation
  push16 limit value.timingAdvance
  push8 limit value.numberOfResourceBlocks
  push8 limit value.rbStart
  pusharray8 value.snr numRbMax value.numberOfResourceBlocks.toNat limit

def packSrsIndicationFddRel9Value (limit : ℕ) (value : SrsIndicationFddRel9) : Push Unit :=
  push16 limit value.timingAdvanceR9

def packSrsIndicationTddRel10Value (limit : ℕ) (value : SrsIndicationTddRel10) : Push Unit :=
  push8 limit value.upptsSymbol

def packSrsIndicationFddRel11Value (limit : ℕ) (value : SrsIndicationFddRel11) : Push Unit :=
  push16 limit value.ulRtoa

def packSubband (limit : ℕ) (numAtennas : UInt8) (value : Subband) : Push Unit := do
  push8 limit value.subbandIndex
  pusharray16 value.channel maxNumPhysicalAntennas numAtennas.toNat limit

def packTddChannelMeasurementValue (limit : ℕ) (value : TddChannelMeasurement) : Push Unit := do
  push8 limit value.numPrbPerSubband
  push8 limit value.numberOfSubbands
  push8 limit value.numAtennas
  Push.forEach (packSubband limit value.numAtennas) value.subands

def packSrsIndicationPdu (limit : ℕ) (pdu : SrsIndicationPdu) : Push Unit :=
  packInstance limit pdu.instanceLength do
    packTlv limit rxUeInformationTag pdu.rxUeInformation.tl
      (packRxUeInformationValue limit pdu.rxUeInformation)
    packTlv limit 0x2035 pdu.srsIndicationFddRel8.tl
      (packSrsIndicationFddRel8Value limit pdu.srsIndicationFddRel8)
    packTlv limit 0x2036 pdu.srsIndicationFddRel9.tl
      (packSrsIndicationFddRel9Value limit pdu.srsIndicationFddRel9)
    packTlv limit 0x2037 pdu.srsIndicationTddRel10.tl
      (packSrsIndicationTddRel10Value limit pdu.srsIndicationTddRel10)
    packTlv limit 0x2053 pdu.srsIndicationFddRel11.tl
      (packSrsIndicationFddRel11Value limit pdu.srsIndicationFddRel11)
    packTlv limit 0x2054 pdu.tddChannelMeasurement.tl
      (packTddChannelMeasurementValue limit pdu.tddChannelMeasurement)

def packNbHarqIndicationFddRel13Value (limit : ℕ) (value : NbHarqIndicationFddRel13) : Push Unit :=
  push8 limit value.harqTb1

def packNbHarqIndicationPdu (limit : ℕ) (pdu : NbHarqIndicationPdu) : Push Unit :=
  packInstance limit pdu.instanceLength do
    packTlv limit rxUeInformationTag pdu.rxUeInformation.tl
      (packRxUeInformationValue limit pdu.rxUeInformation)
    packTlv limit 0x2064 pdu.nbHarqIndicationFddRel13.tl
      (packNbHarqIndicationFddRel13Value limit pdu.nbHarqIndicationFddRel13)
    packTlv limit ulCqiInformationTag pdu.ulCqiInformation.tl
      (packUlCqiInformationValue limit pdu.ulCqiInformation)

def packNrachIndicationRel13Value (limit : ℕ) (value : NrachIndicationPduRel13) : Push Unit := do
  push16 limit value.rnti
  push8 limit value.initialSc
  push16 limit value.timingAdvance
  push8 limit value.nrachCeLevel

def packNrachIndicationPdu (limit : ℕ) (pdu : NrachIndicationPduRel13) : Push Unit :=
  packTlv limit 0x2066 pdu.tl (packNrachIndicationRel13Value limit pdu)

/-- The bodies of the HARQ, SR, RACH and NB_HARQ indications. -/
def packInstanceListBody {π : Type} (packPdu : π → Push Unit) (limit : ℕ) (pduList : List π) :
    Push Unit := do
  push16 limit pduList.length.toUInt16
  Push.forEach packPdu pduList

/-- The CRC encoder asserts that the number is not too large. -/
def packCrcIndicationBodyValue (limit : ℕ) (pduList : List CrcIndicationPdu) : Push Unit := do
  push16 limit pduList.length.toUInt16
  if pduList.length ≤ indMaxPdu then Push.forEach (packCrcIndicationPdu limit) pduList
  else Push.crash .abort

/-- The bodies of the SRS and NRACH indications, with a number of eight bits. -/
def packShortListBody {π : Type} (packPdu : π → Push Unit) (limit : ℕ) (pduList : List π) :
    Push Unit := do
  push8 limit pduList.length.toUInt8
  Push.forEach packPdu pduList

/-! ### The tagged fields, there and back -/

instance : Tagged HarqIndicationTddRel8 := ⟨(·.tl), fun value tl ↦ { value with tl }, {}⟩
instance : Tagged HarqIndicationTddRel9 := ⟨(·.tl), fun value tl ↦ { value with tl }, {}⟩
instance : Tagged HarqIndicationTddRel13 := ⟨(·.tl), fun value tl ↦ { value with tl }, {}⟩
instance : Tagged HarqIndicationFddRel8 := ⟨(·.tl), fun value tl ↦ { value with tl }, {}⟩
instance : Tagged HarqIndicationFddRel9 := ⟨(·.tl), fun value tl ↦ { value with tl }, {}⟩
instance : Tagged HarqIndicationFddRel13 := ⟨(·.tl), fun value tl ↦ { value with tl }, {}⟩
instance : Tagged CrcIndicationRel8 := ⟨(·.tl), fun value tl ↦ { value with tl }, {}⟩
instance : Tagged PreamblePduRel8 := ⟨(·.tl), fun value tl ↦ { value with tl }, {}⟩
instance : Tagged PreamblePduRel9 := ⟨(·.tl), fun value tl ↦ { value with tl }, {}⟩
instance : Tagged PreamblePduRel13 := ⟨(·.tl), fun value tl ↦ { value with tl }, {}⟩
instance : Tagged SrsIndicationFddRel8 := ⟨(·.tl), fun value tl ↦ { value with tl }, {}⟩
instance : Tagged SrsIndicationFddRel9 := ⟨(·.tl), fun value tl ↦ { value with tl }, {}⟩
instance : Tagged SrsIndicationTddRel10 := ⟨(·.tl), fun value tl ↦ { value with tl }, {}⟩
instance : Tagged SrsIndicationFddRel11 := ⟨(·.tl), fun value tl ↦ { value with tl }, {}⟩
instance : Tagged TddChannelMeasurement := ⟨(·.tl), fun value tl ↦ { value with tl }, {}⟩
instance : Tagged NbHarqIndicationFddRel13 := ⟨(·.tl), fun value tl ↦ { value with tl }, {}⟩
instance : Tagged NrachIndicationPduRel13 := ⟨(·.tl), fun value tl ↦ { value with tl }, {}⟩

/-- The data of a known format has the length of the format. -/
def HarqIndicationTddRel8.Fits (value : HarqIndicationTddRel8) : Prop :=
  ∀ length, tddRel8DataLength? value.mode = some length → value.harqData.length = length

def HarqIndicationTddRel8.Supported (value : HarqIndicationTddRel8) : Prop :=
  (tddRel8DataLength? value.mode).isSome

def harqIndicationTddRel8Bytes (value : HarqIndicationTddRel8) : List UInt8 :=
  [value.mode] ++ ([value.numberOfAckNack] ++ value.harqData)

/-- The formats that the release 9 field may have. -/
def rel9Formats : List AckNackFormat :=
  [.bundling, .multiplexing, .specialBundling, .channelSelection, .format3]

/-- The formats that the release 13 field may have. -/
def rel13Formats : List AckNackFormat :=
  [.bundling, .multiplexing, .specialBundling, .channelSelection, .format3, .format4, .format5]

/-- Data of this mode is written. -/
def AckNacksSupported (formats : List AckNackFormat) (mode : UInt8) (data : List UInt8) : Prop :=
  data ≠ [] → (AckNackFormat.ofMode? mode).any (· ∈ formats)

def HarqIndicationTddRel9.Fits (value : HarqIndicationTddRel9) : Prop :=
  value.harqData.length = value.numberOfAckNack.toNat ∧
    value.numberOfAckNack.toNat ≤ maxNumberAckNackTdd

def harqIndicationTddRel9Bytes (value : HarqIndicationTddRel9) : List UInt8 :=
  [value.mode] ++ ([value.numberOfAckNack] ++ value.harqData)

def HarqIndicationTddRel13.Fits (value : HarqIndicationTddRel13) : Prop :=
  value.harqData.length = value.numberOfAckNack.toNat ∧
    value.numberOfAckNack.toNat ≤ maxNumberAckNackTdd

def harqIndicationTddRel13Bytes (value : HarqIndicationTddRel13) : List UInt8 :=
  [value.mode] ++ (bytes16 value.numberOfAckNack ++ value.harqData)

def harqIndicationFddRel8Bytes (value : HarqIndicationFddRel8) : List UInt8 :=
  [value.harqTb1] ++ [value.harqTb2]

def HarqIndicationFddRel9.Fits (value : HarqIndicationFddRel9) : Prop :=
  value.harqTbN.length = value.numberOfAckNack.toNat ∧
    value.numberOfAckNack.toNat ≤ harqAckNackRel9Max

def harqIndicationFddRel9Bytes (value : HarqIndicationFddRel9) : List UInt8 :=
  [value.mode] ++ ([value.numberOfAckNack] ++ value.harqTbN)

def HarqIndicationFddRel13.Fits (value : HarqIndicationFddRel13) : Prop :=
  value.harqTbN.length = value.numberOfAckNack.toNat ∧
    value.numberOfAckNack.toNat ≤ harqAckNackRel13Max

def harqIndicationFddRel13Bytes (value : HarqIndicationFddRel13) : List UInt8 :=
  [value.mode] ++ (bytes16 value.numberOfAckNack ++ value.harqTbN)

section HarqFields

variable {limit : ℕ} {tl : Tl}

theorem emits_packHarqIndicationTddRel8Value {value : HarqIndicationTddRel8} (hfits : value.Fits)
    (hsupported : value.Supported) :
    Emits limit (packHarqIndicationTddRel8Value limit value)
      (harqIndicationTddRel8Bytes value) := by
  obtain ⟨length, hlength⟩ := Option.isSome_iff_exists.mp hsupported
  have htake : value.harqData.take ((tddRel8DataLength? value.mode).getD 0) = value.harqData := by
    rw [hlength, Option.getD_some, ← hfits length hlength, List.take_length]
  have hdata : Emits limit (Push.forEach (push8 limit) value.harqData)
      (value.harqData.flatMap fun byte ↦ [byte]) := inferInstance
  rw [List.flatMap_singleton'] at hdata
  unfold HarqIndicationTddRel8.Supported at hsupported
  unfold packHarqIndicationTddRel8Value harqIndicationTddRel8Bytes
  rw [htake, Push.ensure_bind hsupported]
  infer_instance

theorem reads_unpackHarqIndicationTddRel8Value {value : HarqIndicationTddRel8} (hfits : value.Fits)
    (hsupported : value.Supported) :
    Reads limit (unpackHarqIndicationTddRel8Value tl limit {}) (harqIndicationTddRel8Bytes value)
      { value with tl } := by
  obtain ⟨length, hlength⟩ := Option.isSome_iff_exists.mp hsupported
  have hdata := @reads_repeatPull limit _ _ (pull8 limit) (fun byte ↦ [byte]) id value.harqData
    fun byte _ ↦ reads_pull8 limit byte
  rw [List.flatMap_singleton', List.map_id, hfits length hlength] at hdata
  apply Reads.bind (reads_pull8 limit _)
  apply Reads.bind (reads_pull8 limit _)
  unfold HarqIndicationTddRel8.Supported at hsupported
  apply reads_ensure hsupported
  rw [hlength, Option.getD_some]
  have hvalue : ({ value with tl, harqData := overwrite [] value.harqData } :
      HarqIndicationTddRel8) = { value with tl } := by rw [overwrite_nil]
  rw [← hvalue]
  exact hdata.map

/-- Every unknown mode is refused. -/
theorem fails_packHarqIndicationTddRel8Value {value : HarqIndicationTddRel8}
    (hmode : ¬ value.Supported) : Fails (packHarqIndicationTddRel8Value limit value) := by
  unfold HarqIndicationTddRel8.Supported at hmode
  exact Fails.after fun _ ↦ Fails.after fun _ ↦ (fails_ensure hmode).bind

theorem emits_packAckNacks {formats : List AckNackFormat} {mode : UInt8} {data : List UInt8}
    (hsupported : AckNacksSupported formats mode data) :
    Emits limit (packAckNacks formats mode limit data) data := by
  have hbytes : Emits limit (packAckNacks formats mode limit data)
      (data.flatMap fun byte ↦ [byte]) := by
    apply emits_forEach
    intro byte hbyte
    rw [Push.ensure_bind (hsupported (List.ne_nil_of_mem hbyte))]
    infer_instance
  rwa [List.flatMap_singleton'] at hbytes

theorem reads_unpackAckNacks {formats : List AckNackFormat} {mode : UInt8} {data : List UInt8}
    {count : ℕ} (hcount : data.length = count) (hmax : count ≤ maxNumberAckNackTdd)
    (hsupported : AckNacksSupported formats mode data) :
    Reads limit (unpackAckNacks formats mode count limit) data data := by
  subst hcount
  apply reads_ensure hmax
  have hdata := @reads_repeatPull limit _ _ (do
    ensure ((AckNackFormat.ofMode? mode).any (· ∈ formats))
    pull8 limit) (fun byte ↦ [byte]) id data
    fun byte hbyte ↦ reads_ensure (hsupported (List.ne_nil_of_mem hbyte)) (reads_pull8 limit byte)
  rwa [List.flatMap_singleton', List.map_id] at hdata

theorem fails_packAckNacks {formats : List AckNackFormat} {mode : UInt8} {data : List UInt8}
    (hmode : ¬ AckNacksSupported formats mode data) :
    Fails (packAckNacks formats mode limit data) := by
  unfold AckNacksSupported at hmode
  rw [Classical.not_imp] at hmode
  obtain ⟨byte, hbyte⟩ := List.exists_mem_of_ne_nil _ hmode.1
  exact fails_forEach hbyte (fails_ensure hmode.2).bind

theorem emits_packHarqIndicationTddRel9Value {value : HarqIndicationTddRel9}
    (hsupported : AckNacksSupported rel9Formats value.mode value.harqData) :
    Emits limit (packHarqIndicationTddRel9Value limit value)
      (harqIndicationTddRel9Bytes value) := by
  have hdata := @emits_packAckNacks limit _ _ _ hsupported
  unfold rel9Formats at hdata
  unfold packHarqIndicationTddRel9Value harqIndicationTddRel9Bytes
  infer_instance

theorem reads_unpackHarqIndicationTddRel9Value {value : HarqIndicationTddRel9} (hfits : value.Fits)
    (hsupported : AckNacksSupported rel9Formats value.mode value.harqData) :
    Reads limit (unpackHarqIndicationTddRel9Value tl limit {}) (harqIndicationTddRel9Bytes value)
      { value with tl } := by
  have hvalue : ({ value with tl, harqData := overwrite [] value.harqData } :
      HarqIndicationTddRel9) = { value with tl } := by rw [overwrite_nil]
  rw [← hvalue]
  apply Reads.bind (reads_pull8 limit _)
  apply Reads.bind (reads_pull8 limit _)
  exact (reads_unpackAckNacks hfits.1 hfits.2 hsupported).map

theorem emits_packHarqIndicationTddRel13Value {value : HarqIndicationTddRel13}
    (hsupported : AckNacksSupported rel13Formats value.mode value.harqData) :
    Emits limit (packHarqIndicationTddRel13Value limit value)
      (harqIndicationTddRel13Bytes value) := by
  have hdata := @emits_packAckNacks limit _ _ _ hsupported
  unfold rel13Formats at hdata
  unfold packHarqIndicationTddRel13Value harqIndicationTddRel13Bytes
  infer_instance

theorem reads_unpackHarqIndicationTddRel13Value {value : HarqIndicationTddRel13}
    (hfits : value.Fits) (hsupported : AckNacksSupported rel13Formats value.mode value.harqData) :
    Reads limit (unpackHarqIndicationTddRel13Value tl limit {}) (harqIndicationTddRel13Bytes value)
      { value with tl } := by
  have hvalue : ({ value with tl, harqData := overwrite [] value.harqData } :
      HarqIndicationTddRel13) = { value with tl } := by rw [overwrite_nil]
  rw [← hvalue]
  apply Reads.bind (reads_pull8 limit _)
  apply Reads.bind (reads_pull16 limit _)
  exact (reads_unpackAckNacks hfits.1 hfits.2 hsupported).map

instance {value : HarqIndicationFddRel8} :
    Emits limit (packHarqIndicationFddRel8Value limit value)
      (harqIndicationFddRel8Bytes value) := by
  unfold packHarqIndicationFddRel8Value harqIndicationFddRel8Bytes
  infer_instance

theorem reads_unpackHarqIndicationFddRel8Value (value : HarqIndicationFddRel8) :
    Reads limit (unpackHarqIndicationFddRel8Value tl limit) (harqIndicationFddRel8Bytes value)
      { value with tl } :=
  (reads_pull8 limit _).bind (reads_pull8 limit _).map

theorem emits_packHarqIndicationFddRel9Value {value : HarqIndicationFddRel9} (hfits : value.Fits) :
    Emits limit (packHarqIndicationFddRel9Value limit value)
      (harqIndicationFddRel9Bytes value) := by
  have hdata := @emits_pusharray8 limit _ _ _ hfits.1 hfits.2
  unfold packHarqIndicationFddRel9Value harqIndicationFddRel9Bytes
  infer_instance

theorem reads_unpackHarqIndicationFddRel9Value {value : HarqIndicationFddRel9}
    (hfits : value.Fits) :
    Reads limit (unpackHarqIndicationFddRel9Value tl limit {}) (harqIndicationFddRel9Bytes value)
      { value with tl } := by
  have hvalue : ({ value with tl, harqTbN := overwrite [] value.harqTbN } :
      HarqIndicationFddRel9) = { value with tl } := by rw [overwrite_nil]
  rw [← hvalue]
  apply Reads.bind (reads_pull8 limit _)
  apply Reads.bind (reads_pull8 limit _)
  exact (reads_pullarray8 hfits.1 hfits.2).map

theorem emits_packHarqIndicationFddRel13Value {value : HarqIndicationFddRel13}
    (hfits : value.Fits) :
    Emits limit (packHarqIndicationFddRel13Value limit value)
      (harqIndicationFddRel13Bytes value) := by
  have hdata := @emits_pusharray8 limit _ _ _ hfits.1 hfits.2
  unfold packHarqIndicationFddRel13Value harqIndicationFddRel13Bytes
  infer_instance

theorem reads_unpackHarqIndicationFddRel13Value {value : HarqIndicationFddRel13}
    (hfits : value.Fits) :
    Reads limit (unpackHarqIndicationFddRel13Value tl limit {}) (harqIndicationFddRel13Bytes value)
      { value with tl } := by
  have hvalue : ({ value with tl, harqTbN := overwrite [] value.harqTbN } :
      HarqIndicationFddRel13) = { value with tl } := by rw [overwrite_nil]
  rw [← hvalue]
  apply Reads.bind (reads_pull8 limit _)
  apply Reads.bind (reads_pull16 limit _)
  exact (reads_pullarray8 hfits.1 hfits.2).map

end HarqFields

/-! ### Instances -/

theorem reads_unpackInstance {π : Type} {fields : List (TlvField π)} {pdu : UInt16 → π} {limit : ℕ}
    {bytes : List UInt8} {value : π} (hlength : bytes.length < 65536)
    (hfields : ReadsFields fields (pdu bytes.length.toUInt16) bytes value) :
    Reads limit (unpackInstance fields pdu limit) (instanceBytes bytes) value := by
  unfold instanceBytes unpackInstance
  apply Reads.bind (reads_pull16 limit bytes.length.toUInt16)
  intro mem pos hholds _
  show unpackTlvList fields (pos + bytes.length.toUInt16.toNat) (pdu bytes.length.toUInt16) mem pos
    = _
  rw [toNat_number16 hlength]
  exact tlvList_of_readsFields hfields hholds

/-- The sizes of the fields of a HARQ PDU that are there. -/
structure HarqIndicationPdu.Fits (pdu : HarqIndicationPdu) : Prop where
  tddRel8 : pdu.harqIndicationTddRel8.tl.tag = 0x2027 → pdu.harqIndicationTddRel8.Fits
  tddRel9 : pdu.harqIndicationTddRel9.tl.tag = 0x2028 → pdu.harqIndicationTddRel9.Fits
  tddRel13 : pdu.harqIndicationTddRel13.tl.tag = 0x204F → pdu.harqIndicationTddRel13.Fits
  fddRel9 : pdu.harqIndicationFddRel9.tl.tag = 0x202A → pdu.harqIndicationFddRel9.Fits
  fddRel13 : pdu.harqIndicationFddRel13.tl.tag = 0x2050 → pdu.harqIndicationFddRel13.Fits

/-- The modes of the fields of a HARQ PDU that are there are known. -/
structure HarqIndicationPdu.Supported (pdu : HarqIndicationPdu) : Prop where
  tddRel8 : pdu.harqIndicationTddRel8.tl.tag = 0x2027 → pdu.harqIndicationTddRel8.Supported
  tddRel9 : pdu.harqIndicationTddRel9.tl.tag = 0x2028 →
    AckNacksSupported rel9Formats pdu.harqIndicationTddRel9.mode pdu.harqIndicationTddRel9.harqData
  tddRel13 : pdu.harqIndicationTddRel13.tl.tag = 0x204F →
    AckNacksSupported rel13Formats pdu.harqIndicationTddRel13.mode
      pdu.harqIndicationTddRel13.harqData

/-- The fields of a HARQ PDU that are there. -/
def harqIndicationPduBytes (pdu : HarqIndicationPdu) : List UInt8 :=
  tlvBytes rxUeInformationTag pdu.rxUeInformation.tl (rxUeInformationBytes pdu.rxUeInformation) ++
  (tlvBytes 0x2027 pdu.harqIndicationTddRel8.tl
    (harqIndicationTddRel8Bytes pdu.harqIndicationTddRel8) ++
  (tlvBytes 0x2028 pdu.harqIndicationTddRel9.tl
    (harqIndicationTddRel9Bytes pdu.harqIndicationTddRel9) ++
  (tlvBytes 0x204F pdu.harqIndicationTddRel13.tl
    (harqIndicationTddRel13Bytes pdu.harqIndicationTddRel13) ++
  (tlvBytes 0x2029 pdu.harqIndicationFddRel8.tl
    (harqIndicationFddRel8Bytes pdu.harqIndicationFddRel8) ++
  (tlvBytes 0x202A pdu.harqIndicationFddRel9.tl
    (harqIndicationFddRel9Bytes pdu.harqIndicationFddRel9) ++
  (tlvBytes 0x2050 pdu.harqIndicationFddRel13.tl
    (harqIndicationFddRel13Bytes pdu.harqIndicationFddRel13) ++
  tlvBytes ulCqiInformationTag pdu.ulCqiInformation.tl
    (ulCqiInformationBytes pdu.ulCqiInformation)))))))

/-- The PDU on the other side: with its lengths, and without what stands in absent fields. -/
def HarqIndicationPdu.arrived (pdu : HarqIndicationPdu) (instanceLength : UInt16) :
    HarqIndicationPdu where
  instanceLength
  rxUeInformation := sent rxUeInformationTag rxUeInformationBytes pdu.rxUeInformation
  harqIndicationTddRel8 := sent 0x2027 harqIndicationTddRel8Bytes pdu.harqIndicationTddRel8
  harqIndicationTddRel9 := sent 0x2028 harqIndicationTddRel9Bytes pdu.harqIndicationTddRel9
  harqIndicationTddRel13 := sent 0x204F harqIndicationTddRel13Bytes pdu.harqIndicationTddRel13
  harqIndicationFddRel8 := sent 0x2029 harqIndicationFddRel8Bytes pdu.harqIndicationFddRel8
  harqIndicationFddRel9 := sent 0x202A harqIndicationFddRel9Bytes pdu.harqIndicationFddRel9
  harqIndicationFddRel13 := sent 0x2050 harqIndicationFddRel13Bytes pdu.harqIndicationFddRel13
  ulCqiInformation := sent ulCqiInformationTag ulCqiInformationBytes pdu.ulCqiInformation

theorem emits_packHarqIndicationPdu {limit : ℕ} {pdu : HarqIndicationPdu} (hfits : pdu.Fits)
    (hsupported : pdu.Supported) :
    Emits limit (packHarqIndicationPdu limit pdu) (instanceBytes (harqIndicationPduBytes pdu)) := by
  have htddRel8 := @emits_packTlv limit _ _ 0x2027 pdu.harqIndicationTddRel8.tl fun htag ↦
    emits_packHarqIndicationTddRel8Value (hfits.tddRel8 htag) (hsupported.tddRel8 htag)
  have htddRel9 := @emits_packTlv limit _ _ 0x2028 pdu.harqIndicationTddRel9.tl fun htag ↦
    emits_packHarqIndicationTddRel9Value (hsupported.tddRel9 htag)
  have htddRel13 := @emits_packTlv limit _ _ 0x204F pdu.harqIndicationTddRel13.tl fun htag ↦
    emits_packHarqIndicationTddRel13Value (hsupported.tddRel13 htag)
  have hfddRel9 := @emits_packTlv limit _ _ 0x202A pdu.harqIndicationFddRel9.tl fun htag ↦
    emits_packHarqIndicationFddRel9Value (hfits.fddRel9 htag)
  have hfddRel13 := @emits_packTlv limit _ _ 0x2050 pdu.harqIndicationFddRel13.tl fun htag ↦
    emits_packHarqIndicationFddRel13Value (hfits.fddRel13 htag)
  unfold packHarqIndicationPdu harqIndicationPduBytes
  apply emits_packInstance
  infer_instance

theorem readsFields_harqIndicationPdu {pdu : HarqIndicationPdu}
    (hfits : pdu.Fits) (hsupported : pdu.Supported) (instanceLength : UInt16) :
    ReadsFields harqIndicationPduFields { instanceLength } (harqIndicationPduBytes pdu)
      (pdu.arrived instanceLength) := by
  unfold harqIndicationPduBytes
  apply ReadsFields.trans
  · exact readsFields_sent
      (fun (pdu : HarqIndicationPdu) field ↦ { pdu with rxUeInformation := field }) rfl rfl
      fun _ _ _ ↦ (reads_unpackRxUeInformationValue _).map
  apply ReadsFields.trans
  · exact readsFields_sent
      (fun (pdu : HarqIndicationPdu) field ↦ { pdu with harqIndicationTddRel8 := field }) rfl rfl
      fun htag _ _ ↦ (reads_unpackHarqIndicationTddRel8Value (hfits.tddRel8 htag)
        (hsupported.tddRel8 htag)).map
  apply ReadsFields.trans
  · exact readsFields_sent
      (fun (pdu : HarqIndicationPdu) field ↦ { pdu with harqIndicationTddRel9 := field }) rfl rfl
      fun htag _ _ ↦ (reads_unpackHarqIndicationTddRel9Value (hfits.tddRel9 htag)
        (hsupported.tddRel9 htag)).map
  apply ReadsFields.trans
  · exact readsFields_sent
      (fun (pdu : HarqIndicationPdu) field ↦ { pdu with harqIndicationTddRel13 := field }) rfl rfl
      fun htag _ _ ↦ (reads_unpackHarqIndicationTddRel13Value (hfits.tddRel13 htag)
        (hsupported.tddRel13 htag)).map
  apply ReadsFields.trans
  · exact readsFields_sent
      (fun (pdu : HarqIndicationPdu) field ↦ { pdu with harqIndicationFddRel8 := field }) rfl rfl
      fun _ _ _ ↦ (reads_unpackHarqIndicationFddRel8Value _).map
  apply ReadsFields.trans
  · exact readsFields_sent
      (fun (pdu : HarqIndicationPdu) field ↦ { pdu with harqIndicationFddRel9 := field }) rfl rfl
      fun htag _ _ ↦ (reads_unpackHarqIndicationFddRel9Value (hfits.fddRel9 htag)).map
  apply ReadsFields.trans
  · exact readsFields_sent
      (fun (pdu : HarqIndicationPdu) field ↦ { pdu with harqIndicationFddRel13 := field }) rfl rfl
      fun htag _ _ ↦ (reads_unpackHarqIndicationFddRel13Value (hfits.fddRel13 htag)).map
  · exact readsFields_sent
      (fun (pdu : HarqIndicationPdu) field ↦ { pdu with ulCqiInformation := field }) rfl rfl
      fun _ _ _ ↦ (reads_unpackUlCqiInformationValue _).map

/-- A mode that is not known stops the encoder. -/
theorem fails_packHarqIndicationPdu {limit : ℕ} {pdu : HarqIndicationPdu}
    (hmode : ¬ pdu.Supported) : Fails (packHarqIndicationPdu limit pdu) := by
  unfold packHarqIndicationPdu packInstance
  apply fails_patched
  by_cases htddRel8 : pdu.harqIndicationTddRel8.tl.tag = 0x2027 →
    pdu.harqIndicationTddRel8.Supported
  · by_cases htddRel9 : pdu.harqIndicationTddRel9.tl.tag = 0x2028 →
      AckNacksSupported rel9Formats pdu.harqIndicationTddRel9.mode
        pdu.harqIndicationTddRel9.harqData
    · have htddRel13 := Classical.not_imp.mp fun h ↦ hmode ⟨htddRel8, htddRel9, h⟩
      have hfails : Fails (packHarqIndicationTddRel13Value limit pdu.harqIndicationTddRel13) :=
        Fails.after fun _ ↦ Fails.after fun _ ↦ fails_packAckNacks htddRel13.2
      exact Fails.after fun _ ↦ Fails.after fun _ ↦ Fails.after fun _ ↦
        (fails_packTlv htddRel13.1 hfails).bind
    · rw [Classical.not_imp] at htddRel9
      have hfails : Fails (packHarqIndicationTddRel9Value limit pdu.harqIndicationTddRel9) :=
        Fails.after fun _ ↦ Fails.after fun _ ↦ fails_packAckNacks htddRel9.2
      exact Fails.after fun _ ↦ Fails.after fun _ ↦ (fails_packTlv htddRel9.1 hfails).bind
  · rw [Classical.not_imp] at htddRel8
    have hfails := @fails_packHarqIndicationTddRel8Value limit _ htddRel8.2
    exact Fails.after fun _ ↦ (fails_packTlv htddRel8.1 hfails).bind

def crcIndicationRel8Bytes (value : CrcIndicationRel8) : List UInt8 := [value.crcFlag]

/-- The fields of a CRC PDU that are there. -/
def crcIndicationPduBytes (pdu : CrcIndicationPdu) : List UInt8 :=
  tlvBytes rxUeInformationTag pdu.rxUeInformation.tl (rxUeInformationBytes pdu.rxUeInformation) ++
  tlvBytes 0x202C pdu.crcIndicationRel8.tl (crcIndicationRel8Bytes pdu.crcIndicationRel8)

/-- The PDU on the other side. -/
def CrcIndicationPdu.arrived (pdu : CrcIndicationPdu) (instanceLength : UInt16) :
    CrcIndicationPdu where
  instanceLength
  rxUeInformation := sent rxUeInformationTag rxUeInformationBytes pdu.rxUeInformation
  crcIndicationRel8 := sent 0x202C crcIndicationRel8Bytes pdu.crcIndicationRel8

/-- The fields of an SR PDU that are there. -/
def srIndicationPduBytes (pdu : SrIndicationPdu) : List UInt8 :=
  tlvBytes rxUeInformationTag pdu.rxUeInformation.tl (rxUeInformationBytes pdu.rxUeInformation) ++
  tlvBytes ulCqiInformationTag pdu.ulCqiInformation.tl (ulCqiInformationBytes pdu.ulCqiInformation)

/-- The PDU on the other side. -/
def SrIndicationPdu.arrived (pdu : SrIndicationPdu) (instanceLength : UInt16) :
    SrIndicationPdu where
  instanceLength
  rxUeInformation := sent rxUeInformationTag rxUeInformationBytes pdu.rxUeInformation
  ulCqiInformation := sent ulCqiInformationTag ulCqiInformationBytes pdu.ulCqiInformation

def preamblePduRel8Bytes (value : PreamblePduRel8) : List UInt8 :=
  bytes16 value.rnti ++ ([value.preamble] ++ bytes16 value.timingAdvance)

def preamblePduRel9Bytes (value : PreamblePduRel9) : List UInt8 := bytes16 value.timingAdvanceR9

def preamblePduRel13Bytes (value : PreamblePduRel13) : List UInt8 := [value.rachResourceType]

/-- The fields of a preamble that are there. -/
def preamblePduBytes (pdu : PreamblePdu) : List UInt8 :=
  tlvBytes 0x2032 pdu.preambleRel8.tl (preamblePduRel8Bytes pdu.preambleRel8) ++
  (tlvBytes 0x2033 pdu.preambleRel9.tl (preamblePduRel9Bytes pdu.preambleRel9) ++
  tlvBytes 0x2051 pdu.preambleRel13.tl (preamblePduRel13Bytes pdu.preambleRel13))

/-- The preamble on the other side. -/
def PreamblePdu.arrived (pdu : PreamblePdu) (instanceLength : UInt16) : PreamblePdu where
  instanceLength
  preambleRel8 := sent 0x2032 preamblePduRel8Bytes pdu.preambleRel8
  preambleRel9 := sent 0x2033 preamblePduRel9Bytes pdu.preambleRel9
  preambleRel13 := sent 0x2051 preamblePduRel13Bytes pdu.preambleRel13

def nbHarqIndicationFddRel13Bytes (value : NbHarqIndicationFddRel13) : List UInt8 := [value.harqTb1]

/-- The fields of an NB_HARQ PDU that are there. -/
def nbHarqIndicationPduBytes (pdu : NbHarqIndicationPdu) : List UInt8 :=
  tlvBytes rxUeInformationTag pdu.rxUeInformation.tl (rxUeInformationBytes pdu.rxUeInformation) ++
  (tlvBytes 0x2064 pdu.nbHarqIndicationFddRel13.tl
    (nbHarqIndicationFddRel13Bytes pdu.nbHarqIndicationFddRel13) ++
  tlvBytes ulCqiInformationTag pdu.ulCqiInformation.tl
    (ulCqiInformationBytes pdu.ulCqiInformation))

/-- The PDU on the other side. -/
def NbHarqIndicationPdu.arrived (pdu : NbHarqIndicationPdu) (instanceLength : UInt16) :
    NbHarqIndicationPdu where
  instanceLength
  rxUeInformation := sent rxUeInformationTag rxUeInformationBytes pdu.rxUeInformation
  nbHarqIndicationFddRel13 := sent 0x2064 nbHarqIndicationFddRel13Bytes pdu.nbHarqIndicationFddRel13
  ulCqiInformation := sent ulCqiInformationTag ulCqiInformationBytes pdu.ulCqiInformation

section SmallInstances

variable {limit : ℕ}

instance {value : CrcIndicationRel8} :
    Emits limit (packCrcIndicationRel8Body limit value) (crcIndicationRel8Bytes value) := by
  unfold packCrcIndicationRel8Body crcIndicationRel8Bytes
  infer_instance

theorem emits_packCrcIndicationPdu {pdu : CrcIndicationPdu} :
    Emits limit (packCrcIndicationPdu limit pdu) (instanceBytes (crcIndicationPduBytes pdu)) := by
  unfold packCrcIndicationPdu crcIndicationPduBytes
  apply emits_packInstance
  infer_instance

theorem readsFields_crcIndicationPdu {pdu : CrcIndicationPdu} (instanceLength : UInt16) :
    ReadsFields crcIndicationPduFields { instanceLength } (crcIndicationPduBytes pdu)
      (pdu.arrived instanceLength) := by
  unfold crcIndicationPduBytes
  apply ReadsFields.trans
  · exact readsFields_sent
      (fun (pdu : CrcIndicationPdu) field ↦ { pdu with rxUeInformation := field }) rfl rfl
      fun _ _ _ ↦ (reads_unpackRxUeInformationValue _).map
  · exact readsFields_sent
      (fun (pdu : CrcIndicationPdu) field ↦ { pdu with crcIndicationRel8 := field }) rfl rfl
      fun _ limit _ ↦ (reads_pull8 limit _).map.map

theorem emits_packSrIndicationPdu {pdu : SrIndicationPdu} :
    Emits limit (packSrIndicationPdu limit pdu) (instanceBytes (srIndicationPduBytes pdu)) := by
  unfold packSrIndicationPdu srIndicationPduBytes
  apply emits_packInstance
  infer_instance

theorem readsFields_srIndicationPdu {pdu : SrIndicationPdu} (instanceLength : UInt16) :
    ReadsFields srIndicationPduFields { instanceLength } (srIndicationPduBytes pdu)
      (pdu.arrived instanceLength) := by
  unfold srIndicationPduBytes
  apply ReadsFields.trans
  · exact readsFields_sent
      (fun (pdu : SrIndicationPdu) field ↦ { pdu with rxUeInformation := field }) rfl rfl
      fun _ _ _ ↦ (reads_unpackRxUeInformationValue _).map
  · exact readsFields_sent
      (fun (pdu : SrIndicationPdu) field ↦ { pdu with ulCqiInformation := field }) rfl rfl
      fun _ _ _ ↦ (reads_unpackUlCqiInformationValue _).map

instance {value : PreamblePduRel8} :
    Emits limit (packPreamblePduRel8Value limit value) (preamblePduRel8Bytes value) := by
  unfold packPreamblePduRel8Value preamblePduRel8Bytes
  infer_instance

instance {value : PreamblePduRel9} :
    Emits limit (packPreamblePduRel9Value limit value) (preamblePduRel9Bytes value) := by
  unfold packPreamblePduRel9Value preamblePduRel9Bytes
  infer_instance

instance {value : PreamblePduRel13} :
    Emits limit (packPreamblePduRel13Value limit value) (preamblePduRel13Bytes value) := by
  unfold packPreamblePduRel13Value preamblePduRel13Bytes
  infer_instance

theorem reads_unpackPreamblePduRel8Value {tl : Tl} (value : PreamblePduRel8) :
    Reads limit (unpackPreamblePduRel8Value tl limit) (preamblePduRel8Bytes value)
      { value with tl } :=
  (reads_pull16 limit _).bind <| (reads_pull8 limit _).bind (reads_pull16 limit _).map

theorem emits_packPreamblePdu {pdu : PreamblePdu} :
    Emits limit (packPreamblePdu limit pdu) (instanceBytes (preamblePduBytes pdu)) := by
  unfold packPreamblePdu preamblePduBytes
  apply emits_packInstance
  infer_instance

theorem readsFields_preamblePdu {pdu : PreamblePdu} (instanceLength : UInt16) :
    ReadsFields preamblePduFields { instanceLength } (preamblePduBytes pdu)
      (pdu.arrived instanceLength) := by
  unfold preamblePduBytes
  apply ReadsFields.trans
  · exact readsFields_sent
      (fun (pdu : PreamblePdu) field ↦ { pdu with preambleRel8 := field }) rfl rfl
      fun _ _ _ ↦ (reads_unpackPreamblePduRel8Value _).map
  apply ReadsFields.trans
  · exact readsFields_sent
      (fun (pdu : PreamblePdu) field ↦ { pdu with preambleRel9 := field }) rfl rfl
      fun _ limit _ ↦ (reads_pull16 limit _).map.map
  · exact readsFields_sent
      (fun (pdu : PreamblePdu) field ↦ { pdu with preambleRel13 := field }) rfl rfl
      fun _ limit _ ↦ (reads_pull8 limit _).map.map

instance {value : NbHarqIndicationFddRel13} :
    Emits limit (packNbHarqIndicationFddRel13Value limit value)
      (nbHarqIndicationFddRel13Bytes value) := by
  unfold packNbHarqIndicationFddRel13Value nbHarqIndicationFddRel13Bytes
  infer_instance

theorem emits_packNbHarqIndicationPdu {pdu : NbHarqIndicationPdu} :
    Emits limit (packNbHarqIndicationPdu limit pdu)
      (instanceBytes (nbHarqIndicationPduBytes pdu)) := by
  unfold packNbHarqIndicationPdu nbHarqIndicationPduBytes
  apply emits_packInstance
  infer_instance

theorem readsFields_nbHarqIndicationPdu {pdu : NbHarqIndicationPdu} (instanceLength : UInt16) :
    ReadsFields nbHarqIndicationPduFields { instanceLength } (nbHarqIndicationPduBytes pdu)
      (pdu.arrived instanceLength) := by
  unfold nbHarqIndicationPduBytes
  apply ReadsFields.trans
  · exact readsFields_sent
      (fun (pdu : NbHarqIndicationPdu) field ↦ { pdu with rxUeInformation := field }) rfl rfl
      fun _ _ _ ↦ (reads_unpackRxUeInformationValue _).map
  apply ReadsFields.trans
  · exact readsFields_sent
      (fun (pdu : NbHarqIndicationPdu) field ↦ { pdu with nbHarqIndicationFddRel13 := field })
      rfl rfl fun _ limit _ ↦ (reads_pull8 limit _).map.map
  · exact readsFields_sent
      (fun (pdu : NbHarqIndicationPdu) field ↦ { pdu with ulCqiInformation := field }) rfl rfl
      fun _ _ _ ↦ (reads_unpackUlCqiInformationValue _).map

end SmallInstances

def SrsIndicationFddRel8.Fits (value : SrsIndicationFddRel8) : Prop :=
  value.snr.length = value.numberOfResourceBlocks.toNat

def srsIndicationFddRel8Bytes (value : SrsIndicationFddRel8) : List UInt8 :=
  bytes16 value.dopplerEstimation ++ (bytes16 value.timingAdvance ++
    ([value.numberOfResourceBlocks] ++ ([value.rbStart] ++ value.snr)))

def srsIndicationFddRel9Bytes (value : SrsIndicationFddRel9) : List UInt8 :=
  bytes16 value.timingAdvanceR9

def srsIndicationTddRel10Bytes (value : SrsIndicationTddRel10) : List UInt8 := [value.upptsSymbol]

def srsIndicationFddRel11Bytes (value : SrsIndicationFddRel11) : List UInt8 := bytes16 value.ulRtoa

/-- The numbers of subbands and antennas are those of the lists. -/
structure TddChannelMeasurement.Fits (value : TddChannelMeasurement) : Prop where
  subbands : value.subands.length = value.numberOfSubbands.toNat
  maxSubbands : value.numberOfSubbands.toNat ≤ maxNumSubbands
  antennas : ∀ subband ∈ value.subands, subband.channel.length = value.numAtennas.toNat
  maxAntennas : value.numAtennas.toNat ≤ maxNumPhysicalAntennas

def subbandBytes (subband : Subband) : List UInt8 :=
  [subband.subbandIndex] ++ wordBytes16 subband.channel

def tddChannelMeasurementBytes (value : TddChannelMeasurement) : List UInt8 :=
  [value.numPrbPerSubband] ++ ([value.numberOfSubbands] ++ ([value.numAtennas] ++
    value.subands.flatMap subbandBytes))

/-- The sizes of the fields of an SRS PDU that are there. -/
structure SrsIndicationPdu.Fits (pdu : SrsIndicationPdu) : Prop where
  fddRel8 : pdu.srsIndicationFddRel8.tl.tag = 0x2035 → pdu.srsIndicationFddRel8.Fits
  tdd : pdu.tddChannelMeasurement.tl.tag = 0x2054 → pdu.tddChannelMeasurement.Fits

/-- The fields of an SRS PDU that are there. -/
def srsIndicationPduBytes (pdu : SrsIndicationPdu) : List UInt8 :=
  tlvBytes rxUeInformationTag pdu.rxUeInformation.tl (rxUeInformationBytes pdu.rxUeInformation) ++
  (tlvBytes 0x2035 pdu.srsIndicationFddRel8.tl
    (srsIndicationFddRel8Bytes pdu.srsIndicationFddRel8) ++
  (tlvBytes 0x2036 pdu.srsIndicationFddRel9.tl
    (srsIndicationFddRel9Bytes pdu.srsIndicationFddRel9) ++
  (tlvBytes 0x2037 pdu.srsIndicationTddRel10.tl
    (srsIndicationTddRel10Bytes pdu.srsIndicationTddRel10) ++
  (tlvBytes 0x2053 pdu.srsIndicationFddRel11.tl
    (srsIndicationFddRel11Bytes pdu.srsIndicationFddRel11) ++
  tlvBytes 0x2054 pdu.tddChannelMeasurement.tl
    (tddChannelMeasurementBytes pdu.tddChannelMeasurement)))))

/-- The PDU on the other side. -/
def SrsIndicationPdu.arrived (pdu : SrsIndicationPdu) (instanceLength : UInt16) :
    SrsIndicationPdu where
  instanceLength
  rxUeInformation := sent rxUeInformationTag rxUeInformationBytes pdu.rxUeInformation
  srsIndicationFddRel8 := sent 0x2035 srsIndicationFddRel8Bytes pdu.srsIndicationFddRel8
  srsIndicationFddRel9 := sent 0x2036 srsIndicationFddRel9Bytes pdu.srsIndicationFddRel9
  srsIndicationTddRel10 := sent 0x2037 srsIndicationTddRel10Bytes pdu.srsIndicationTddRel10
  srsIndicationFddRel11 := sent 0x2053 srsIndicationFddRel11Bytes pdu.srsIndicationFddRel11
  tddChannelMeasurement := sent 0x2054 tddChannelMeasurementBytes pdu.tddChannelMeasurement

section SrsInstances

variable {limit : ℕ} {tl : Tl}

theorem emits_packSrsIndicationFddRel8Value {value : SrsIndicationFddRel8} (hfits : value.Fits) :
    Emits limit (packSrsIndicationFddRel8Value limit value) (srsIndicationFddRel8Bytes value) := by
  have hmax : value.numberOfResourceBlocks.toNat ≤ numRbMax :=
    Nat.le_trans (Nat.le_of_lt value.numberOfResourceBlocks.toNat_lt) (by decide)
  have hsnr := @emits_pusharray8 limit _ _ _ hfits hmax
  unfold packSrsIndicationFddRel8Value srsIndicationFddRel8Bytes
  infer_instance

theorem reads_unpackSrsIndicationFddRel8Value {value : SrsIndicationFddRel8} (hfits : value.Fits) :
    Reads limit (unpackSrsIndicationFddRel8Value tl limit {}) (srsIndicationFddRel8Bytes value)
      { value with tl } := by
  have hmax : value.numberOfResourceBlocks.toNat ≤ numRbMax :=
    Nat.le_trans (Nat.le_of_lt value.numberOfResourceBlocks.toNat_lt) (by decide)
  have hvalue : ({ value with tl, snr := overwrite [] value.snr } : SrsIndicationFddRel8) =
      { value with tl } := by rw [overwrite_nil]
  rw [← hvalue]
  apply Reads.bind (reads_pull16 limit _)
  apply Reads.bind (reads_pull16 limit _)
  apply Reads.bind (reads_pull8 limit _)
  apply Reads.bind (reads_pull8 limit _)
  exact (reads_pullarray8 hfits hmax).map

instance {value : SrsIndicationFddRel9} :
    Emits limit (packSrsIndicationFddRel9Value limit value) (srsIndicationFddRel9Bytes value) := by
  unfold packSrsIndicationFddRel9Value srsIndicationFddRel9Bytes
  infer_instance

instance {value : SrsIndicationTddRel10} :
    Emits limit (packSrsIndicationTddRel10Value limit value)
      (srsIndicationTddRel10Bytes value) := by
  unfold packSrsIndicationTddRel10Value srsIndicationTddRel10Bytes
  infer_instance

instance {value : SrsIndicationFddRel11} :
    Emits limit (packSrsIndicationFddRel11Value limit value)
      (srsIndicationFddRel11Bytes value) := by
  unfold packSrsIndicationFddRel11Value srsIndicationFddRel11Bytes
  infer_instance

theorem emits_packTddChannelMeasurementValue {value : TddChannelMeasurement}
    (hfits : value.Fits) :
    Emits limit (packTddChannelMeasurementValue limit value)
      (tddChannelMeasurementBytes value) := by
  have hsubbands : Emits limit (Push.forEach (packSubband limit value.numAtennas) value.subands)
      (value.subands.flatMap subbandBytes) := by
    apply emits_forEach
    intro subband hsubband
    have hchannel := @emits_pusharray16 limit _ _ _ (hfits.antennas subband hsubband)
      hfits.maxAntennas
    unfold packSubband subbandBytes
    infer_instance
  unfold packTddChannelMeasurementValue tddChannelMeasurementBytes
  infer_instance

/-- Subbands that are written where there were none. -/
theorem overwriteSubbands_nil (subbands : List Subband) :
    overwriteSubbands [] subbands = subbands := by
  cases subbands <;> rfl

theorem reads_unpackTddChannelMeasurementValue {value : TddChannelMeasurement}
    (hfits : value.Fits) :
    Reads limit (unpackTddChannelMeasurementValue tl limit {}) (tddChannelMeasurementBytes value)
      { value with tl } := by
  have hsubband : ∀ subband ∈ value.subands,
      Reads limit (unpackSubband value.numAtennas limit) (subbandBytes subband) subband :=
    fun subband hsubband ↦ (reads_pull8 limit _).bind
      (reads_pullarray16 (hfits.antennas subband hsubband) hfits.maxAntennas).map
  have hsubbands := reads_repeatPull (h := id) hsubband
  rw [List.map_id, hfits.subbands] at hsubbands
  have hvalue : ({ value with tl, subands := overwriteSubbands [] value.subands } :
      TddChannelMeasurement) = { value with tl } := by rw [overwriteSubbands_nil]
  rw [← hvalue]
  apply Reads.bind (reads_pull8 limit _)
  apply Reads.bind (reads_pull8 limit _)
  apply Reads.bind (reads_pull8 limit _)
  apply reads_ensure hfits.maxSubbands
  apply reads_ensure hfits.maxAntennas
  exact hsubbands.map

theorem emits_packSrsIndicationPdu {pdu : SrsIndicationPdu} (hfits : pdu.Fits) :
    Emits limit (packSrsIndicationPdu limit pdu) (instanceBytes (srsIndicationPduBytes pdu)) := by
  have hfddRel8 := @emits_packTlv limit _ _ 0x2035 pdu.srsIndicationFddRel8.tl fun htag ↦
    emits_packSrsIndicationFddRel8Value (hfits.fddRel8 htag)
  have htdd := @emits_packTlv limit _ _ 0x2054 pdu.tddChannelMeasurement.tl fun htag ↦
    emits_packTddChannelMeasurementValue (hfits.tdd htag)
  unfold packSrsIndicationPdu srsIndicationPduBytes
  apply emits_packInstance
  infer_instance

theorem readsFields_srsIndicationPdu {pdu : SrsIndicationPdu} (hfits : pdu.Fits)
    (instanceLength : UInt16) :
    ReadsFields srsIndicationPduFields { instanceLength } (srsIndicationPduBytes pdu)
      (pdu.arrived instanceLength) := by
  unfold srsIndicationPduBytes
  apply ReadsFields.trans
  · exact readsFields_sent
      (fun (pdu : SrsIndicationPdu) field ↦ { pdu with rxUeInformation := field }) rfl rfl
      fun _ _ _ ↦ (reads_unpackRxUeInformationValue _).map
  apply ReadsFields.trans
  · exact readsFields_sent
      (fun (pdu : SrsIndicationPdu) field ↦ { pdu with srsIndicationFddRel8 := field }) rfl rfl
      fun htag _ _ ↦ (reads_unpackSrsIndicationFddRel8Value (hfits.fddRel8 htag)).map
  apply ReadsFields.trans
  · exact readsFields_sent
      (fun (pdu : SrsIndicationPdu) field ↦ { pdu with srsIndicationFddRel9 := field }) rfl rfl
      fun _ limit _ ↦ (reads_pull16 limit _).map.map
  apply ReadsFields.trans
  · exact readsFields_sent
      (fun (pdu : SrsIndicationPdu) field ↦ { pdu with srsIndicationTddRel10 := field }) rfl rfl
      fun _ limit _ ↦ (reads_pull8 limit _).map.map
  apply ReadsFields.trans
  · exact readsFields_sent
      (fun (pdu : SrsIndicationPdu) field ↦ { pdu with srsIndicationFddRel11 := field }) rfl rfl
      fun _ limit _ ↦ (reads_pull16 limit _).map.map
  · exact readsFields_sent
      (fun (pdu : SrsIndicationPdu) field ↦ { pdu with tddChannelMeasurement := field }) rfl rfl
      fun htag _ _ ↦ (reads_unpackTddChannelMeasurementValue (hfits.tdd htag)).map

end SrsInstances

/-! ### Lists of instances -/

/-- The PDUs on the other side. -/
def arrivedInstances {π : Type} (pduBytes : π → List UInt8) (arrived : π → UInt16 → π)
    (pduList : List π) : List π :=
  pduList.map fun pdu ↦ arrived pdu (pduBytes pdu).length.toUInt16

/-- The body of the indications with a number of 16 bits. -/
def instanceListBytes {π : Type} (pduBytes : π → List UInt8) (pduList : List π) : List UInt8 :=
  bytes16 pduList.length.toUInt16 ++ instancesBytes pduBytes pduList

section InstanceLists

variable {π : Type} {limit : ℕ} {packPdu : π → Push Unit} {fields : List (TlvField π)}
  {pdu : UInt16 → π} {pduBytes : π → List UInt8} {arrived : π → UInt16 → π} {pduList : List π}

theorem reads_instances (hlength : (instancesBytes pduBytes pduList).length < 65536)
    (hfields : ∀ item ∈ pduList, ∀ instanceLength,
      ReadsFields fields (pdu instanceLength) (pduBytes item)
        (arrived item instanceLength)) :
    Reads limit (repeatPull (unpackInstance fields pdu limit) pduList.length)
      (instancesBytes pduBytes pduList) (arrivedInstances pduBytes arrived pduList) := by
  apply reads_repeatPull
  intro item hitem
  exact reads_unpackInstance (Nat.lt_of_le_of_lt (length_pduBytes_le hitem) hlength)
    (hfields item hitem _)

theorem emits_packInstanceListBody
    (hpdu : ∀ item ∈ pduList, Emits limit (packPdu item) (instanceBytes (pduBytes item))) :
    Emits limit (packInstanceListBody packPdu limit pduList)
      (instanceListBytes pduBytes pduList) := by
  have hlist := emits_forEach hpdu
  unfold packInstanceListBody instanceListBytes instancesBytes
  infer_instance

theorem reads_unpackInstanceListBody {tag : UInt16} {body : Body π}
    (hlength : (instanceListBytes pduBytes pduList).length < 65536)
    (hcount : pduList.length ≤ indMaxPdu)
    (hfields : ∀ item ∈ pduList, ∀ instanceLength,
      ReadsFields fields (pdu instanceLength) (pduBytes item)
        (arrived item instanceLength)) :
    Reads limit (unpackInstanceListBody fields pdu
      ⟨tag, (instanceListBytes pduBytes pduList).length.toUInt16⟩ limit body)
      (instanceListBytes pduBytes pduList)
      { tl := ⟨tag, (instanceListBytes pduBytes pduList).length.toUInt16⟩
        number := pduList.length, pduList := arrivedInstances pduBytes arrived pduList } := by
  have hnumber : pduList.length.toUInt16.toNat = pduList.length :=
    toNat_number16 (Nat.lt_of_le_of_lt hcount (by decide))
  have hinstances := @reads_instances π limit fields pdu pduBytes arrived pduList
    (Nat.lt_of_le_of_lt (by simp [instanceListBytes]) hlength) hfields
  unfold unpackInstanceListBody
  apply reads_ensureBody (toNat_number16 hlength)
  apply Reads.bind (reads_pull16 limit pduList.length.toUInt16)
  rw [hnumber]
  apply reads_ensure hcount
  exact hinstances.map

end InstanceLists

/-- The body of an SRS indication. -/
def srsBodyBytes (pduList : List SrsIndicationPdu) : List UInt8 :=
  [pduList.length.toUInt8] ++ instancesBytes srsIndicationPduBytes pduList

def nrachIndicationRel13Bytes (value : NrachIndicationPduRel13) : List UInt8 :=
  bytes16 value.rnti ++ ([value.initialSc] ++ (bytes16 value.timingAdvance ++ [value.nrachCeLevel]))

/-- The field of an NRACH PDU, if it is there. -/
def nrachIndicationPduBytes (pdu : NrachIndicationPduRel13) : List UInt8 :=
  tlvBytes 0x2066 pdu.tl (nrachIndicationRel13Bytes pdu)

/-- The body of an NRACH indication. -/
def nrachBodyBytes (pduList : List NrachIndicationPduRel13) : List UInt8 :=
  [pduList.length.toUInt8] ++ pduList.flatMap nrachIndicationPduBytes

section ShortLists

variable {limit : ℕ} {tag : UInt16}

theorem emits_packSrsBody {pduList : List SrsIndicationPdu} (hfits : ∀ pdu ∈ pduList, pdu.Fits) :
    Emits limit (packShortListBody (packSrsIndicationPdu limit) limit pduList)
      (srsBodyBytes pduList) := by
  have hlist := emits_forEach fun pdu hpdu ↦ @emits_packSrsIndicationPdu limit pdu (hfits pdu hpdu)
  unfold packShortListBody srsBodyBytes instancesBytes
  infer_instance

theorem reads_unpackSrsIndicationBodyValue {pduList : List SrsIndicationPdu}
    {body : Body SrsIndicationPdu} (hlength : (srsBodyBytes pduList).length < 65536)
    (hcount : pduList.length ≤ srsIndMaxPdu) (hfits : ∀ pdu ∈ pduList, pdu.Fits) :
    Reads limit (unpackSrsIndicationBodyValue
      ⟨tag, (srsBodyBytes pduList).length.toUInt16⟩ limit body) (srsBodyBytes pduList)
      { tl := ⟨tag, (srsBodyBytes pduList).length.toUInt16⟩, number := pduList.length
        pduList := arrivedInstances srsIndicationPduBytes SrsIndicationPdu.arrived pduList } := by
  have hnumber : pduList.length.toUInt8.toNat = pduList.length :=
    toNat_number8 (Nat.lt_of_le_of_lt hcount (by decide))
  have hinstances := @reads_instances _ limit srsIndicationPduFields
    (fun instanceLength ↦ { instanceLength }) srsIndicationPduBytes SrsIndicationPdu.arrived
    pduList (Nat.lt_of_le_of_lt (by simp [srsBodyBytes]) hlength)
    fun pdu hpdu ↦ readsFields_srsIndicationPdu (hfits pdu hpdu)
  unfold unpackSrsIndicationBodyValue
  apply reads_ensureBody (toNat_number16 hlength)
  apply Reads.bind (reads_pull8 limit pduList.length.toUInt8)
  rw [hnumber]
  apply reads_ensure hcount
  exact hinstances.map

theorem emits_packNrachIndicationPdu {pdu : NrachIndicationPduRel13} :
    Emits limit (packNrachIndicationPdu limit pdu) (nrachIndicationPduBytes pdu) := by
  have hvalue : Emits limit (packNrachIndicationRel13Value limit pdu)
      (nrachIndicationRel13Bytes pdu) := by
    unfold packNrachIndicationRel13Value nrachIndicationRel13Bytes
    infer_instance
  exact emits_packTlv fun _ ↦ hvalue

theorem emits_packNrachBody {pduList : List NrachIndicationPduRel13} :
    Emits limit (packShortListBody (packNrachIndicationPdu limit) limit pduList)
      (nrachBodyBytes pduList) := by
  have hpdu : ∀ pdu : NrachIndicationPduRel13, Emits limit (packNrachIndicationPdu limit pdu)
      (nrachIndicationPduBytes pdu) := fun _ ↦ emits_packNrachIndicationPdu
  unfold packShortListBody nrachBodyBytes
  infer_instance

/-- A PDU with its field is ten bytes long, as its decoder takes it to be. -/
theorem reads_unpackNrachIndicationPdu {pdu : NrachIndicationPduRel13}
    (htag : pdu.tl.tag = 0x2066) :
    Reads limit unpackNrachIndicationPdu (nrachIndicationPduBytes pdu)
      (sent 0x2066 nrachIndicationRel13Bytes pdu) := by
  have hvalue : ∀ limit, Reads limit (unpackNrachIndicationRel13Value ⟨0x2066, 6⟩ limit)
      (nrachIndicationRel13Bytes pdu) { pdu with tl := ⟨0x2066, 6⟩ } := fun limit ↦
    (reads_pull16 limit _).bind <| (reads_pull8 limit _).bind <| (reads_pull16 limit _).bind
      (reads_pull8 limit _).map
  have hfield : ReadsFields nrachIndicationPduFields {}
      (bytes16 0x2066 ++ (bytes16 6 ++ nrachIndicationRel13Bytes pdu))
      { pdu with tl := ⟨0x2066, 6⟩ } := readsFields_field rfl hvalue
  have htl : (Tagged.tl pdu).tag = 0x2066 := htag
  rw [nrachIndicationPduBytes, tlvBytes, if_pos htag, sent, if_pos htl]
  intro mem pos hholds _
  exact tlvList_of_readsFields hfield hholds

/-- Without a field, the decoder reads on behind the end of the message. -/
theorem overruns_unpackNrachIndicationPdu : Overruns limit unpackNrachIndicationPdu [] := by
  intro mem pos _ hlimit hsize
  have hend : pos = limit := hlimit
  have hposition : Pull.position mem pos = .ok (pos, pos) := rfl
  have hfault : unpackTl (pos + 4 + 6) mem pos = .error (.crash .fault) :=
    Pull.bind_of_error (pull16_of_no_memory (by omega) (by omega))
  unfold unpackNrachIndicationPdu unpackTlvList tlvList
  rw [Pull.bind_of_ok hposition, Pull.bind_of_ok hposition]
  unfold tlvLoop
  rw [Pull.bind_of_ok hposition, if_pos (by omega), Pull.bind_of_error hfault]

/-- The decoder takes the fields that are there for those of the first PDUs, and has none left for
the last. -/
theorem overruns_nrachList {pduList : List NrachIndicationPduRel13} {count : ℕ}
    (hcount : pduList.countP (·.tl.tag = 0x2066) < count) :
    Overruns limit (repeatPull unpackNrachIndicationPdu count)
      (pduList.flatMap nrachIndicationPduBytes) := by
  obtain ⟨count, rfl⟩ := Nat.exists_eq_succ_of_ne_zero (Nat.ne_zero_of_lt hcount)
  induction pduList generalizing count with
  | nil => exact overruns_unpackNrachIndicationPdu.bind
  | cons pdu pduList ih =>
    rw [List.flatMap_cons]
    by_cases htag : pdu.tl.tag = 0x2066
    · have hrest : pduList.countP (·.tl.tag = 0x2066) < count := by
        rw [List.countP_cons_of_pos (by simpa using htag)] at hcount
        omega
      obtain ⟨count, rfl⟩ := Nat.exists_eq_succ_of_ne_zero (Nat.ne_zero_of_lt hrest)
      exact Overruns.after (reads_unpackNrachIndicationPdu htag) (ih count hrest).bind
    · rw [List.countP_cons_of_neg (by simpa using htag)] at hcount
      rw [nrachIndicationPduBytes, tlvBytes, if_neg htag, List.nil_append]
      exact ih count hcount

section NrachBody

variable {pduList : List NrachIndicationPduRel13} {body : Body NrachIndicationPduRel13}

theorem reads_unpackNrachIndicationBodyValue (hlength : (nrachBodyBytes pduList).length < 65536)
    (hcount : pduList.length ≤ indMaxPdu) (hsome : pduList ≠ [])
    (htags : ∀ pdu ∈ pduList, pdu.tl.tag = 0x2066) :
    Reads limit (unpackNrachIndicationBodyValue
      ⟨tag, (nrachBodyBytes pduList).length.toUInt16⟩ limit body) (nrachBodyBytes pduList)
      { tl := ⟨tag, (nrachBodyBytes pduList).length.toUInt16⟩, number := pduList.length
        pduList := pduList.map (sent 0x2066 nrachIndicationRel13Bytes) } := by
  have hnumber : pduList.length.toUInt8.toNat = pduList.length :=
    toNat_number8 (Nat.lt_of_le_of_lt hcount (by decide))
  have hzero : pduList.length ≠ 0 := fun h ↦ hsome (List.length_eq_zero_iff.mp h)
  unfold unpackNrachIndicationBodyValue
  apply reads_ensureBody (toNat_number16 hlength)
  apply Reads.bind (reads_pull8 limit pduList.length.toUInt8)
  rw [hnumber]
  apply reads_ensure hcount
  apply reads_ensure hzero
  exact (reads_repeatPull fun pdu hpdu ↦ reads_unpackNrachIndicationPdu (htags pdu hpdu)).map

theorem overruns_unpackNrachIndicationBodyValue (hlength : (nrachBodyBytes pduList).length < 65536)
    (hcount : pduList.length ≤ indMaxPdu) (htags : ¬ ∀ pdu ∈ pduList, pdu.tl.tag = 0x2066) :
    Overruns limit (unpackNrachIndicationBodyValue
      ⟨tag, (nrachBodyBytes pduList).length.toUInt16⟩ limit body) (nrachBodyBytes pduList) := by
  have hnumber : pduList.length.toUInt8.toNat = pduList.length :=
    toNat_number8 (Nat.lt_of_le_of_lt hcount (by decide))
  have hcountP : pduList.countP (·.tl.tag = 0x2066) < pduList.length := by
    apply Nat.lt_of_le_of_ne List.countP_le_length
    intro hall
    rw [List.countP_eq_length] at hall
    exact htags fun pdu hpdu ↦ by simpa using hall pdu hpdu
  have hzero : pduList.length ≠ 0 := Nat.ne_zero_of_lt hcountP
  unfold unpackNrachIndicationBodyValue
  apply overruns_ensureBody (toNat_number16 hlength)
  apply Overruns.after (reads_pull8 limit pduList.length.toUInt8)
  rw [hnumber]
  apply overruns_ensure hcount
  apply overruns_ensure hzero
  exact (overruns_nrachList hcountP).bind

theorem rejects_unpackNrachIndicationBodyValue :
    Stops limit (unpackNrachIndicationBodyValue ⟨tag, (nrachBodyBytes []).length.toUInt16⟩ limit
      body) (nrachBodyBytes []) .reject := by
  unfold unpackNrachIndicationBodyValue
  apply stops_ensureBody rfl
  apply Stops.after (reads_pull8 limit 0)
  apply stops_ensure (by decide)
  exact rejects_ensure (by decide)

end NrachBody

end ShortLists

/-- The HARQ and NB_HARQ decoders do not accept an empty list. -/
theorem rejects_instanceListBody {π : Type} {limit : ℕ} {tag : UInt16} {fields : List (TlvField π)}
    {pdu : UInt16 → π} {pduBytes : π → List UInt8} {body : Body π} :
    Stops limit (do
      let body ← unpackInstanceListBody fields pdu
        ⟨tag, (instanceListBytes pduBytes []).length.toUInt16⟩ limit body
      ensure (body.number ≠ 0)
      return body) (instanceListBytes pduBytes []) .reject := by
  have hlength : (instanceListBytes pduBytes []).length < 65536 := by
    show 2 < 65536
    decide
  have hempty := @reads_unpackInstanceListBody π limit fields pdu pduBytes (fun item _ ↦ item) []
    tag body hlength (Nat.zero_le _) fun _ hitem ↦ absurd hitem List.not_mem_nil
  intro mem pos hholds hlimit
  have hzero : ¬ ([] : List π).length ≠ 0 := not_not_intro rfl
  rw [Pull.bind_of_ok (hempty mem pos hholds hlimit), ensure_of_false hzero]
  rfl

/-! ### The messages, there and back -/

open Unpack

/-- What the switch over the message id decodes: an indication of a kind that the proxy aggregates,
or one of the other three. -/
inductive InstanceListIndication where
  | uplink (ind : LteIndication)
  | srs (ind : Indication LteFrame SrsIndicationPdu)
  | nbHarq (ind : Indication LteFrame NbHarqIndicationPdu)
  | nrach (ind : Indication LteFrame NrachIndicationPduRel13)

/-- The switch over the message id. -/
def unpackInstanceLists (header : P7MessageHeader) (limit : ℕ) : Pull InstanceListIndication :=
  if header.messageId = srsIndication then .srs <$> unpackSrsIndication header limit
  else if header.messageId = nbHarqIndication then .nbHarq <$> unpackNbHarqIndication header limit
  else if header.messageId = nrachIndication then .nrach <$> unpackNrachIndication header limit
  else .uplink <$> unpackLteUplink header limit

/-- `nfapi_p7_message_unpack`. -/
def unpackMessageInstanceList : Memory → ℕ → Outcome (Option InstanceListIndication) :=
  messageUnpack unpackInstanceLists

/-- An indication with an instance list, as it is given to `nfapi_p7_message_pack`. -/
inductive InstanceListMessage where
  | harq (frame : LteFrame) (pduList : List HarqIndicationPdu)
  | crc (frame : LteFrame) (pduList : List CrcIndicationPdu)
  | rxSr (frame : LteFrame) (pduList : List SrIndicationPdu)
  | srs (frame : LteFrame) (pduList : List SrsIndicationPdu)
  | rach (frame : LteFrame) (pduList : List PreamblePdu)
  | nbHarq (frame : LteFrame) (pduList : List NbHarqIndicationPdu)
  | nrach (frame : LteFrame) (pduList : List NrachIndicationPduRel13)

namespace InstanceListMessage

def messageId : InstanceListMessage → UInt16
  | harq _ _ => harqIndication
  | crc _ _ => crcIndication
  | rxSr _ _ => rxSrIndication
  | srs _ _ => srsIndication
  | rach _ _ => rachIndication
  | nbHarq _ _ => nbHarqIndication
  | nrach _ _ => nrachIndication

/-- The encoder that the switch over the message id selects. -/
def encode (limit : ℕ) : InstanceListMessage → Push Unit
  | harq frame pduList => packLteIndication harqIndicationBodyTag limit frame
      (packInstanceListBody (packHarqIndicationPdu limit) limit pduList)
  | crc frame pduList => packLteIndication crcIndicationBodyTag limit frame
      (packCrcIndicationBodyValue limit pduList)
  | rxSr frame pduList => packLteIndication srIndicationBodyTag limit frame
      (packInstanceListBody (packSrIndicationPdu limit) limit pduList)
  | srs frame pduList => packLteIndication srsIndicationBodyTag limit frame
      (packShortListBody (packSrsIndicationPdu limit) limit pduList)
  | rach frame pduList => packLteIndication rachIndicationBodyTag limit frame
      (packInstanceListBody (packPreamblePdu limit) limit pduList)
  | nbHarq frame pduList => packLteIndication nbHarqIndicationBodyTag limit frame
      (packInstanceListBody (packNbHarqIndicationPdu limit) limit pduList)
  | nrach frame pduList => packLteIndication nrachIndicationBodyTag limit frame
      (packShortListBody (packNrachIndicationPdu limit) limit pduList)

/-- The message has its body, the number of PDUs is at most the maximum of its kind, and the
counts in the PDUs are those of their arrays. -/
def Fits : InstanceListMessage → Prop
  | harq frame pduList => frame.tl.tag = harqIndicationBodyTag ∧ pduList.length ≤ indMaxPdu ∧
      ∀ pdu ∈ pduList, pdu.Fits
  | crc frame pduList => frame.tl.tag = crcIndicationBodyTag ∧ pduList.length ≤ indMaxPdu
  | rxSr frame pduList => frame.tl.tag = srIndicationBodyTag ∧ pduList.length ≤ indMaxPdu
  | srs frame pduList => frame.tl.tag = srsIndicationBodyTag ∧ pduList.length ≤ srsIndMaxPdu ∧
      ∀ pdu ∈ pduList, pdu.Fits
  | rach frame pduList => frame.tl.tag = rachIndicationBodyTag ∧ pduList.length ≤ indMaxPdu
  | nbHarq frame pduList => frame.tl.tag = nbHarqIndicationBodyTag ∧ pduList.length ≤ indMaxPdu
  | nrach frame pduList => frame.tl.tag = nrachIndicationBodyTag ∧ pduList.length ≤ indMaxPdu

/-- The indication on the other side, behind this header: with all lengths, and without what stands
in absent fields. -/
def arrived (header : P7MessageHeader) : InstanceListMessage → InstanceListIndication
  | harq frame pduList => .uplink <| .harq {
      header
      frame := ⟨frame.sfnSf, ⟨harqIndicationBodyTag,
        (instanceListBytes harqIndicationPduBytes pduList).length.toUInt16⟩⟩
      number := pduList.length
      pduList := arrivedInstances harqIndicationPduBytes HarqIndicationPdu.arrived pduList }
  | crc frame pduList => .uplink <| .crc {
      header
      frame := ⟨frame.sfnSf, ⟨crcIndicationBodyTag,
        (instanceListBytes crcIndicationPduBytes pduList).length.toUInt16⟩⟩
      number := pduList.length
      pduList := arrivedInstances crcIndicationPduBytes CrcIndicationPdu.arrived pduList }
  | rxSr frame pduList => .uplink <| .rxSr {
      header
      frame := ⟨frame.sfnSf, ⟨srIndicationBodyTag,
        (instanceListBytes srIndicationPduBytes pduList).length.toUInt16⟩⟩
      number := pduList.length
      pduList := arrivedInstances srIndicationPduBytes SrIndicationPdu.arrived pduList }
  | srs frame pduList => .srs {
      header
      frame := ⟨frame.sfnSf, ⟨srsIndicationBodyTag, (srsBodyBytes pduList).length.toUInt16⟩⟩
      number := pduList.length
      pduList := arrivedInstances srsIndicationPduBytes SrsIndicationPdu.arrived pduList }
  | rach frame pduList => .uplink <| .rach {
      header
      frame := ⟨frame.sfnSf, ⟨rachIndicationBodyTag,
        (instanceListBytes preamblePduBytes pduList).length.toUInt16⟩⟩
      number := pduList.length
      pduList := arrivedInstances preamblePduBytes PreamblePdu.arrived pduList }
  | nbHarq frame pduList => .nbHarq {
      header
      frame := ⟨frame.sfnSf, ⟨nbHarqIndicationBodyTag,
        (instanceListBytes nbHarqIndicationPduBytes pduList).length.toUInt16⟩⟩
      number := pduList.length
      pduList := arrivedInstances nbHarqIndicationPduBytes NbHarqIndicationPdu.arrived pduList }
  | nrach frame pduList => .nrach {
      header
      frame := ⟨frame.sfnSf, ⟨nrachIndicationBodyTag, (nrachBodyBytes pduList).length.toUInt16⟩⟩
      number := pduList.length
      pduList := pduList.map (sent 0x2066 nrachIndicationRel13Bytes) }

/-- Which messages come back. -/
def Intact : InstanceListMessage → Prop
  | harq _ pduList => pduList ≠ []
  | nbHarq _ pduList => pduList ≠ []
  | nrach _ pduList => pduList ≠ [] ∧ ∀ pdu ∈ pduList, pdu.tl.tag = 0x2066
  | _ => True

end InstanceListMessage

/-- `nfapi_p7_message_pack`. -/
def packMessageInstanceList (limit : ℕ) (header : P7MessageHeader)
    (message : InstanceListMessage) : Outcome (Option (List UInt8)) :=
  packMessage (message.encode limit) limit { header with messageId := message.messageId }

/-- The packed message is unpacked to the indication. -/
def InstanceListMessage.Survives (message : InstanceListMessage) (header : P7MessageHeader)
    (packed : List UInt8) : Prop :=
  unpackMessageInstanceList (memoryOf packed) packed.length =
    .ok (some (message.arrived (packedHeader { header with messageId := message.messageId }
      packed.length.toUInt16)))

section Survives

variable {header : P7MessageHeader} {limit : ℕ} {packed : List UInt8} {frame : LteFrame}

/-- Every message of the aggregated kinds goes to their switch. -/
theorem unpackInstanceLists_uplink {π : Type} {wrap : Indication LteFrame π → LteIndication}
    {unpack : P7MessageHeader → ℕ → Pull (Indication LteFrame π)} {id : UInt16}
    (hid : header.messageId = id)
    (hother : id ≠ srsIndication ∧ id ≠ nbHarqIndication ∧ id ≠ nrachIndication)
    (hswitch : unpackLteUplink header limit = wrap <$> unpack header limit) :
    unpackInstanceLists header limit = (fun ind ↦ .uplink (wrap ind)) <$> unpack header limit := by
  rw [unpackInstanceLists, hid, if_neg hother.1, if_neg hother.2.1, if_neg hother.2.2, hswitch,
    Pull.map_map]

theorem harq_supported {pduList : List HarqIndicationPdu}
    (htag : frame.tl.tag = harqIndicationBodyTag)
    (hpacked : packMessageInstanceList limit header (.harq frame pduList) = .ok (some packed)) :
    ∀ pdu ∈ pduList, pdu.Supported := by
  intro pdu hpdu
  apply Classical.byContradiction
  intro hmode
  have hlist : Fails (Push.forEach (packHarqIndicationPdu limit) pduList) :=
    fails_forEach hpdu (fails_packHarqIndicationPdu hmode)
  have hbody : Fails (packInstanceListBody (packHarqIndicationPdu limit) limit pduList) :=
    Fails.after fun _ ↦ hlist
  exact packMessage_of_fails (Fails.after fun _ ↦ fails_packTlv htag hbody) hpacked

/-- The check for an empty list passes when there are PDUs. -/
theorem reads_nonempty {π : Type} {x : Pull (Body π)} {bytes : List UInt8} {body : Body π}
    (hzero : body.number ≠ 0) (hx : Reads limit x bytes body) :
    Reads limit (do
      let body ← x
      ensure (body.number ≠ 0)
      return body) bytes body := by
  intro mem pos hholds hlimit
  rw [Pull.bind_of_ok (hx mem pos hholds hlimit), ensure_of_true hzero]
  rfl

theorem harq_survives_iff {pduList : List HarqIndicationPdu}
    (hfits : (InstanceListMessage.harq frame pduList).Fits)
    (hpacked : packMessageInstanceList limit header (.harq frame pduList) = .ok (some packed)) :
    (InstanceListMessage.harq frame pduList).Survives header packed ↔ pduList ≠ [] := by
  obtain ⟨htag, hcount, hpdus⟩ := hfits
  have hsupported := harq_supported htag hpacked
  have hencode := @emits_packInstanceListBody _ limit (packHarqIndicationPdu limit)
    harqIndicationPduBytes pduList fun pdu hpdu ↦
      emits_packHarqIndicationPdu (hpdus pdu hpdu) (hsupported pdu hpdu)
  have hswitch := @unpackInstanceLists_uplink
    (packedHeader { header with messageId := harqIndication } packed.length.toUInt16)
    packed.length _ .harq unpackHarqIndication harqIndication rfl (by decide) rfl
  constructor
  · rintro hsurvives rfl
    have hreject := messageUnpack_lteMessage_of_rejects htag hencode hpacked hswitch
      fun _ _ ↦ rejects_instanceListBody
    have hnone := hreject.symm.trans hsurvives
    cases hnone
  · intro hsome
    have hzero : pduList.length ≠ 0 := fun h ↦ hsome (List.length_eq_zero_iff.mp h)
    exact messageUnpack_lteMessage htag hencode hpacked hswitch fun hlength _ ↦
      reads_nonempty hzero (reads_unpackInstanceListBody hlength hcount fun pdu hpdu ↦
        readsFields_harqIndicationPdu (hpdus pdu hpdu) (hsupported pdu hpdu))

theorem nbHarq_survives_iff {pduList : List NbHarqIndicationPdu}
    (hfits : (InstanceListMessage.nbHarq frame pduList).Fits)
    (hpacked : packMessageInstanceList limit header (.nbHarq frame pduList) = .ok (some packed)) :
    (InstanceListMessage.nbHarq frame pduList).Survives header packed ↔ pduList ≠ [] := by
  have hencode := @emits_packInstanceListBody _ limit (packNbHarqIndicationPdu limit)
    nbHarqIndicationPduBytes pduList fun _ _ ↦ emits_packNbHarqIndicationPdu
  have hswitch : unpackInstanceLists
      (packedHeader { header with messageId := nbHarqIndication } packed.length.toUInt16)
      packed.length = .nbHarq <$> unpackNbHarqIndication
        (packedHeader { header with messageId := nbHarqIndication } packed.length.toUInt16)
        packed.length := rfl
  constructor
  · rintro hsurvives rfl
    have hreject := messageUnpack_lteMessage_of_rejects hfits.1 hencode hpacked hswitch
      fun _ _ ↦ rejects_instanceListBody
    have hnone := hreject.symm.trans hsurvives
    cases hnone
  · intro hsome
    have hzero : pduList.length ≠ 0 := fun h ↦ hsome (List.length_eq_zero_iff.mp h)
    exact messageUnpack_lteMessage hfits.1 hencode hpacked hswitch fun hlength _ ↦
      reads_nonempty hzero (reads_unpackInstanceListBody hlength hfits.2 fun _ _ ↦
        readsFields_nbHarqIndicationPdu)

theorem nrach_survives_iff {pduList : List NrachIndicationPduRel13}
    (hfits : (InstanceListMessage.nrach frame pduList).Fits)
    (hpacked : packMessageInstanceList limit header (.nrach frame pduList) = .ok (some packed)) :
    (InstanceListMessage.nrach frame pduList).Survives header packed ↔
      pduList ≠ [] ∧ ∀ pdu ∈ pduList, pdu.tl.tag = 0x2066 := by
  have hencode := @emits_packNrachBody limit pduList
  have hswitch : unpackInstanceLists
      (packedHeader { header with messageId := nrachIndication } packed.length.toUInt16)
      packed.length = .nrach <$> unpackNrachIndication
        (packedHeader { header with messageId := nrachIndication } packed.length.toUInt16)
        packed.length := rfl
  constructor
  · intro hsurvives
    constructor
    · rintro rfl
      have hreject := messageUnpack_lteMessage_of_rejects hfits.1 hencode hpacked hswitch
        fun _ _ ↦ rejects_unpackNrachIndicationBodyValue
      have hnone := hreject.symm.trans hsurvives
      cases hnone
    · apply Classical.byContradiction
      intro htags
      have hfault := messageUnpack_lteMessage_of_overruns hfits.1 hencode hpacked hswitch
        fun hlength _ ↦ overruns_unpackNrachIndicationBodyValue hlength hfits.2 htags
      have herror := hfault.symm.trans hsurvives
      cases herror
  · rintro ⟨hsome, htags⟩
    exact messageUnpack_lteMessage hfits.1 hencode hpacked hswitch fun hlength _ ↦
      reads_unpackNrachIndicationBodyValue hlength hfits.2 hsome htags

theorem crc_survives {pduList : List CrcIndicationPdu}
    (hfits : (InstanceListMessage.crc frame pduList).Fits)
    (hpacked : packMessageInstanceList limit header (.crc frame pduList) = .ok (some packed)) :
    (InstanceListMessage.crc frame pduList).Survives header packed := by
  have hlist : Emits limit (packCrcIndicationBodyValue limit pduList)
      (instanceListBytes crcIndicationPduBytes pduList) := by
    unfold packCrcIndicationBodyValue
    rw [if_pos hfits.2]
    exact emits_packInstanceListBody fun _ _ ↦ emits_packCrcIndicationPdu
  have hswitch := @unpackInstanceLists_uplink
    (packedHeader { header with messageId := crcIndication } packed.length.toUInt16)
    packed.length _ .crc unpackCrcIndication crcIndication rfl (by decide) rfl
  exact messageUnpack_lteMessage hfits.1 hlist hpacked hswitch fun hlength _ ↦
    reads_unpackInstanceListBody hlength hfits.2 fun _ _ ↦ readsFields_crcIndicationPdu

theorem rxSr_survives {pduList : List SrIndicationPdu}
    (hfits : (InstanceListMessage.rxSr frame pduList).Fits)
    (hpacked : packMessageInstanceList limit header (.rxSr frame pduList) = .ok (some packed)) :
    (InstanceListMessage.rxSr frame pduList).Survives header packed := by
  have hencode := @emits_packInstanceListBody _ limit (packSrIndicationPdu limit)
    srIndicationPduBytes pduList fun _ _ ↦ emits_packSrIndicationPdu
  have hswitch := @unpackInstanceLists_uplink
    (packedHeader { header with messageId := rxSrIndication } packed.length.toUInt16)
    packed.length _ .rxSr unpackSrIndication rxSrIndication rfl (by decide) rfl
  exact messageUnpack_lteMessage hfits.1 hencode hpacked hswitch fun hlength _ ↦
    reads_unpackInstanceListBody hlength hfits.2 fun _ _ ↦ readsFields_srIndicationPdu

theorem rach_survives {pduList : List PreamblePdu}
    (hfits : (InstanceListMessage.rach frame pduList).Fits)
    (hpacked : packMessageInstanceList limit header (.rach frame pduList) = .ok (some packed)) :
    (InstanceListMessage.rach frame pduList).Survives header packed := by
  have hencode := @emits_packInstanceListBody _ limit (packPreamblePdu limit)
    preamblePduBytes pduList fun _ _ ↦ emits_packPreamblePdu
  have hswitch := @unpackInstanceLists_uplink
    (packedHeader { header with messageId := rachIndication } packed.length.toUInt16)
    packed.length _ .rach unpackRachIndication rachIndication rfl (by decide) rfl
  exact messageUnpack_lteMessage hfits.1 hencode hpacked hswitch fun hlength _ ↦
    reads_unpackInstanceListBody hlength hfits.2 fun _ _ ↦ readsFields_preamblePdu

theorem srs_survives {pduList : List SrsIndicationPdu}
    (hfits : (InstanceListMessage.srs frame pduList).Fits)
    (hpacked : packMessageInstanceList limit header (.srs frame pduList) = .ok (some packed)) :
    (InstanceListMessage.srs frame pduList).Survives header packed := by
  obtain ⟨htag, hcount, hpdus⟩ := hfits
  have hencode := @emits_packSrsBody limit pduList hpdus
  have hswitch : unpackInstanceLists
      (packedHeader { header with messageId := srsIndication } packed.length.toUInt16)
      packed.length = .srs <$> unpackSrsIndication
        (packedHeader { header with messageId := srsIndication } packed.length.toUInt16)
        packed.length := rfl
  exact messageUnpack_lteMessage htag hencode hpacked hswitch fun hlength _ ↦
    reads_unpackSrsIndicationBodyValue hlength hcount hpdus

/-- A packed indication comes back as it was exactly if its decoder accepts its list: HARQ and
NB_HARQ indications need at least one PDU, NRACH indications in addition the field of every PDU, and
all others come back in any case. -/
theorem instanceList_survives_iff (message : InstanceListMessage) (header : P7MessageHeader)
    (limit : ℕ) (packed : List UInt8) (hfits : message.Fits)
    (hpacked : packMessageInstanceList limit header message = .ok (some packed)) :
    message.Survives header packed ↔ message.Intact := by
  cases message with
  | harq frame pduList => exact harq_survives_iff hfits hpacked
  | crc frame pduList => exact iff_of_true (crc_survives hfits hpacked) trivial
  | rxSr frame pduList => exact iff_of_true (rxSr_survives hfits hpacked) trivial
  | srs frame pduList => exact iff_of_true (srs_survives hfits hpacked) trivial
  | rach frame pduList => exact iff_of_true (rach_survives hfits hpacked) trivial
  | nbHarq frame pduList => exact nbHarq_survives_iff hfits hpacked
  | nrach frame pduList => exact nrach_survives_iff hfits hpacked

end Survives

/-- A HARQ indication of one PDU that has only the identity of its UE. -/
def oneHarq : InstanceListMessage :=
  .harq ⟨21, ⟨harqIndicationBodyTag, 0⟩⟩ [{
    rxUeInformation := { tl := ⟨rxUeInformationTag, 0⟩, handle := 7, rnti := 17 } }]

theorem oneHarq_fits : oneHarq.Fits := by
  refine ⟨rfl, by decide, fun pdu hpdu ↦ ?_⟩
  obtain rfl := List.mem_singleton.mp hpdu
  constructor <;> exact fun htag ↦ absurd htag (by decide)

theorem oneHarq_survives_iff : ∃ packed,
    packMessageInstanceList 100 {} oneHarq = .ok (some packed) ∧
      (oneHarq.Survives {} packed ↔ oneHarq.Intact) :=
  ⟨_, rfl, instanceList_survives_iff oneHarq {} 100 _ oneHarq_fits rfl⟩

/-- A HARQ indication without PDUs is packed, and not accepted. -/
theorem emptyHarq_not_survives :
    (InstanceListMessage.harq ⟨21, ⟨harqIndicationBodyTag, 0⟩⟩ []).Fits ∧ ∃ packed,
      packMessageInstanceList 100 {} (.harq ⟨21, ⟨harqIndicationBodyTag, 0⟩⟩ []) =
        .ok (some packed) ∧
      ¬ (InstanceListMessage.harq ⟨21, ⟨harqIndicationBodyTag, 0⟩⟩ []).Survives {} packed := by
  refine ⟨⟨rfl, by decide, fun _ hpdu ↦ absurd hpdu List.not_mem_nil⟩, _, rfl, fun hsurvives ↦ ?_⟩
  have hnone := hsurvives
  cases hnone

end MultiUeProxy.P7.LteUplink
