import MultiUeProxy.Lib.FieldWalk
import MultiUeProxy.P5.ConfigFields

/-!
# The NR configuration request

`pack_nr_config_request` and `unpack_nr_config_request` of `nfapi_p5.c`. The packer calls the encoder
of one field after the other, ignores what they return, counts the calls, and puts the number into
the first byte in the end. Grid sizes and offsets are five values in one field.

The decoder has a table of fields as other NR list decoders have. For a field that there are several
of it has an index, which goes up when the field comes: the index of the occasions goes up behind the
root sequence index. The lists of the request are allocated before anything is read: one occasion
with memory for one unused root sequence, and 40 slots with 14 symbols each.
-/

set_option autoImplicit false
set_option relaxedAutoImplicit false

namespace MultiUeProxy.P5

open Lib.Execution Lib.ByteCursor Lib.ByteWriter Lib.Codec Lib.TlvCodec Lib.InPlace Lib.TaggedParts
  Lib.TlvRecord Message
open Lib.ByteCursor.Pull (Tl)

/-! ### The request -/

/-- A field of the NR CONFIG.request that there is one of. -/
inductive NrConfigField where
  | carrierConfigDlBandwidth | carrierConfigDlFrequency | carrierConfigNumTxAnt
  | carrierConfigUplinkBandwidth | carrierConfigUplinkFrequency | carrierConfigNumRxAnt
  | carrierConfigFrequencyShift7p5khz
  | cellConfigPhyCellId | cellConfigFrameDuplexType
  | ssbConfigSsPbchPower | ssbConfigBchPayload | ssbConfigScsCommon
  | prachConfigPrachSequenceLength | prachConfigPrachSubCSpacing | prachConfigRestrictedSetConfig
  | prachConfigNumPrachFdOccasions | prachConfigPrachConfigurationIndex | prachConfigSsbPerRach
  | prachConfigPrachMultipleCarriersInABand
  | ssbTableSsbOffsetPointA | ssbTableBetaPss | ssbTableSsbPeriod | ssbTableSsbSubcarrierOffset
  | ssbTableMIB | ssbTableSsPbchMultipleCarriersInABand | ssbTableMultipleCellsSsPbchInACarrier
  | tddTableTddPeriod
  | measurementConfigRssiMeasurement
  | nfapiConfigP7VnfAddressIpv4 | nfapiConfigP7VnfAddressIpv6 | nfapiConfigP7VnfPort
  | nfapiConfigTimingWindow | nfapiConfigTimingInfoMode | nfapiConfigTimingInfoPeriod
  | nfapiConfigP7PnfAddressIpv6 | nfapiConfigP7PnfPort
  deriving DecidableEq, Repr

namespace NrConfigField

def tag : NrConfigField → UInt16
  | carrierConfigDlBandwidth => 0x1001
  | carrierConfigDlFrequency => 0x1002
  | carrierConfigNumTxAnt => 0x1005
  | carrierConfigUplinkBandwidth => 0x1006
  | carrierConfigUplinkFrequency => 0x1007
  | carrierConfigNumRxAnt => 0x100A
  | carrierConfigFrequencyShift7p5khz => 0x100B
  | cellConfigPhyCellId => 0x100C
  | cellConfigFrameDuplexType => 0x100D
  | ssbConfigSsPbchPower => 0x100E
  | ssbConfigBchPayload => 0x100F
  | ssbConfigScsCommon => 0x1010
  | prachConfigPrachSequenceLength => 0x1011
  | prachConfigPrachSubCSpacing => 0x1012
  | prachConfigRestrictedSetConfig => 0x1013
  | prachConfigNumPrachFdOccasions => 0x1014
  | prachConfigPrachConfigurationIndex => 0x1029
  | prachConfigSsbPerRach => 0x101B
  | prachConfigPrachMultipleCarriersInABand => 0x101C
  | ssbTableSsbOffsetPointA => 0x101D
  | ssbTableBetaPss => 0x101E
  | ssbTableSsbPeriod => 0x101F
  | ssbTableSsbSubcarrierOffset => 0x1020
  | ssbTableMIB => 0x1021
  | ssbTableSsPbchMultipleCarriersInABand => 0x1024
  | ssbTableMultipleCellsSsPbchInACarrier => 0x1025
  | tddTableTddPeriod => 0x1026
  | measurementConfigRssiMeasurement => 0x1028
  | nfapiConfigP7VnfAddressIpv4 => 0x0100
  | nfapiConfigP7VnfAddressIpv6 => 0x0101
  | nfapiConfigP7VnfPort => 0x0102
  | nfapiConfigTimingWindow => 0x011E
  | nfapiConfigTimingInfoMode => 0x011F
  | nfapiConfigTimingInfoPeriod => 0x0120
  | nfapiConfigP7PnfAddressIpv6 => 0x0104
  | nfapiConfigP7PnfPort => 0x0105

def kind : NrConfigField → ValueKind
  | carrierConfigDlBandwidth | carrierConfigNumTxAnt | carrierConfigUplinkBandwidth
  | carrierConfigNumRxAnt | cellConfigPhyCellId | ssbTableSsbOffsetPointA
  | nfapiConfigP7VnfPort | nfapiConfigP7PnfPort => .uint16
  | carrierConfigDlFrequency | carrierConfigUplinkFrequency | ssbConfigSsPbchPower
  | ssbTableMIB => .uint32
  | nfapiConfigP7VnfAddressIpv4 => .ipv4Address
  | nfapiConfigP7VnfAddressIpv6 | nfapiConfigP7PnfAddressIpv6 => .ipv6Address
  | _ => .uint8

end NrConfigField

/-- `nfapi_nr_num_prach_fd_occasions_t`. The number of unused root sequences is one byte, which both
sides take together with the unused byte behind it. -/
structure PrachFdOccasion where
  prachRootSequenceIndex : Tlv UInt16 := { value := 0 }
  numRootSequences : Tlv UInt8 := { value := 0 }
  k1 : Tlv UInt16 := { value := 0 }
  prachZeroCorrConf : Tlv UInt8 := { value := 0 }
  numUnusedRootSequences : Tlv UInt16 := { value := 0 }
  unusedRootSequencesList : List (Tlv UInt8) := []
  deriving DecidableEq, Repr

/-- The members of `nfapi_nr_config_request_scf_t`. The slots are `max_tdd_periodicity_list`, with
the symbols of `max_num_of_symbol_per_slot_list` in each. -/
structure NrConfigRequest where
  numTlv : UInt8 := 0
  fields : Fields NrConfigField.kind := blank
  dlK0 : Vector (Tlv UInt16) 5 := .replicate 5 { value := 0 }
  dlGridSize : Vector (Tlv UInt16) 5 := .replicate 5 { value := 0 }
  ulK0 : Vector (Tlv UInt16) 5 := .replicate 5 { value := 0 }
  ulGridSize : Vector (Tlv UInt16) 5 := .replicate 5 { value := 0 }
  numPrachFdOccasionsList : List PrachFdOccasion := []
  ssbMaskList : Vector (Tlv UInt32) 2 := .replicate 2 { value := 0 }
  ssbBeamIdList : Vector (Tlv UInt8) 64 := .replicate 64 { value := 0 }
  maxTddPeriodicityList : List (List (Tlv UInt8)) := []

/-- A field in the table of the decoder: one that there is one of, or one with several values. -/
inductive NrConfigTlv where
  | scalar (name : NrConfigField)
  | dlK0 | dlGridSize | ulK0 | ulGridSize
  | prachRootSequenceIndex | numRootSequences | k1 | prachZeroCorrConf | numUnusedRootSequences
  | unusedRootSequences | ssbMask | beamId | slotConfig
  deriving DecidableEq, Repr

namespace NrConfigTlv

def tag : NrConfigTlv → UInt16
  | scalar name => name.tag
  | dlK0 => 0x1003
  | dlGridSize => 0x1004
  | ulK0 => 0x1008
  | ulGridSize => 0x1009
  | prachRootSequenceIndex => 0x1015
  | numRootSequences => 0x1016
  | k1 => 0x1017
  | prachZeroCorrConf => 0x1018
  | numUnusedRootSequences => 0x1019
  | unusedRootSequences => 0x101A
  | ssbMask => 0x1022
  | beamId => 0x1023
  | slotConfig => 0x1027

/-- The table `unpack_fns`. -/
def table : List NrConfigTlv :=
  [.scalar .carrierConfigDlBandwidth, .scalar .carrierConfigDlFrequency, .dlGridSize, .dlK0,
    .scalar .carrierConfigNumTxAnt, .scalar .carrierConfigUplinkBandwidth,
    .scalar .carrierConfigUplinkFrequency, .ulGridSize, .ulK0, .scalar .carrierConfigNumRxAnt,
    .scalar .carrierConfigFrequencyShift7p5khz, .scalar .cellConfigPhyCellId,
    .scalar .cellConfigFrameDuplexType, .scalar .ssbConfigSsPbchPower,
    .scalar .ssbConfigBchPayload, .scalar .ssbConfigScsCommon,
    .scalar .prachConfigPrachSequenceLength, .scalar .prachConfigPrachSubCSpacing,
    .scalar .prachConfigRestrictedSetConfig, .scalar .prachConfigNumPrachFdOccasions,
    .scalar .prachConfigPrachConfigurationIndex, .prachRootSequenceIndex, .numRootSequences, .k1,
    .prachZeroCorrConf, .numUnusedRootSequences, .unusedRootSequences,
    .scalar .prachConfigSsbPerRach, .scalar .prachConfigPrachMultipleCarriersInABand,
    .scalar .ssbTableSsbOffsetPointA, .scalar .ssbTableBetaPss, .scalar .ssbTableSsbPeriod,
    .scalar .ssbTableSsbSubcarrierOffset, .scalar .ssbTableMIB, .ssbMask, .beamId,
    .scalar .ssbTableSsPbchMultipleCarriersInABand,
    .scalar .ssbTableMultipleCellsSsPbchInACarrier, .scalar .tddTableTddPeriod, .slotConfig,
    .scalar .measurementConfigRssiMeasurement, .scalar .nfapiConfigP7VnfAddressIpv4,
    .scalar .nfapiConfigP7VnfAddressIpv6, .scalar .nfapiConfigP7VnfPort,
    .scalar .nfapiConfigTimingWindow, .scalar .nfapiConfigTimingInfoMode,
    .scalar .nfapiConfigTimingInfoPeriod, .scalar .nfapiConfigP7PnfAddressIpv6,
    .scalar .nfapiConfigP7PnfPort]

theorem nodup_tags : (table.map tag).Nodup := by decide

end NrConfigTlv

/-! ### The decoder -/

namespace NrConfigRequest

/-! The places that the decoder writes to. -/

def dlK0Place : Place NrConfigRequest (Vector (Tlv UInt16) 5) :=
  .member (·.dlK0) fun request dlK0 ↦ { request with dlK0 }

def dlGridSizePlace : Place NrConfigRequest (Vector (Tlv UInt16) 5) :=
  .member (·.dlGridSize) fun request dlGridSize ↦ { request with dlGridSize }

def ulK0Place : Place NrConfigRequest (Vector (Tlv UInt16) 5) :=
  .member (·.ulK0) fun request ulK0 ↦ { request with ulK0 }

def ulGridSizePlace : Place NrConfigRequest (Vector (Tlv UInt16) 5) :=
  .member (·.ulGridSize) fun request ulGridSize ↦ { request with ulGridSize }

/-- `num_prach_fd_occasions_list[index]`. -/
def occasion (index : ℕ) : Place NrConfigRequest PrachFdOccasion :=
  Place.within (.member (·.numPrachFdOccasionsList) fun request numPrachFdOccasionsList ↦
    { request with numPrachFdOccasionsList }) (.element index)

/-- `num_prach_fd_occasions_list[index].unused_root_sequences_list[unused]`. -/
def unusedRootSequence (index unused : ℕ) : Place NrConfigRequest (Tlv UInt8) :=
  (occasion index).within <| Place.within
    (.member PrachFdOccasion.unusedRootSequencesList fun occasion unusedRootSequencesList ↦
      { occasion with unusedRootSequencesList }) (.element unused)

/-- `ssb_mask_list[index].ssb_mask`. -/
def ssbMask (index : ℕ) : Place NrConfigRequest (Tlv UInt32) :=
  Place.within (.member (·.ssbMaskList) fun request ssbMaskList ↦ { request with ssbMaskList })
    (.slot index)

/-- `ssb_beam_id_list[index].beam_id`. -/
def beamId (index : ℕ) : Place NrConfigRequest (Tlv UInt8) :=
  Place.within (.member (·.ssbBeamIdList) fun request ssbBeamIdList ↦
    { request with ssbBeamIdList }) (.slot index)

/-- `max_tdd_periodicity_list[slot].max_num_of_symbol_per_slot_list[symbol].slot_config`. -/
def slotConfig (slot symbol : ℕ) : Place NrConfigRequest (Tlv UInt8) :=
  Place.within (.member (·.maxTddPeriodicityList) fun request maxTddPeriodicityList ↦
    { request with maxTddPeriodicityList }) <|
    Place.within (.element slot) (.element symbol)

end NrConfigRequest

/-- The indices with which the decoder goes on. -/
structure NrConfigIndices where
  prachRootSeqIdx : ℕ := 0
  unusedRootSeqIdx : ℕ := 0
  ssbMaskIdx : ℕ := 0
  configBeamIdx : ℕ := 0
  tddPeriodicityIdx : ℕ := 0
  symbolPerSlotIdx : ℕ := 0
  deriving DecidableEq, Repr

/-- The next symbol, of the next slot behind the last symbol of a slot. -/
def NrConfigIndices.nextSymbol (indices : NrConfigIndices) : NrConfigIndices :=
  let symbolPerSlotIdx := (indices.symbolPerSlotIdx + 1) % 14
  if symbolPerSlotIdx = 0 then
    { indices with symbolPerSlotIdx, tddPeriodicityIdx := indices.tddPeriodicityIdx + 1 }
  else { indices with symbolPerSlotIdx }

/-- What is filled in, with the indices. -/
structure NrConfigDecoding where
  request : NrConfigRequest := {}
  indices : NrConfigIndices := {}

/-- A place in the request. -/
def inRequest {τ : Type} (place : Place NrConfigRequest τ) : Place NrConfigDecoding τ :=
  Place.within (.member (·.request) fun decoding request ↦ { decoding with request }) place

/-- Tag and length are stored. -/
def storeTl {α : Type} (tl : Tl) : Fill (Tlv α) := .modify fun field ↦ { field with tl }

def unpackUint8TlvValue (limit : ℕ) : Fill (Tlv UInt8) :=
  .pull (.pull8 limit) fun field value ↦ { field with value }

def unpackUint16TlvValue (limit : ℕ) : Fill (Tlv UInt16) :=
  .pull (.pull16 limit) fun field value ↦ { field with value }

def unpackUint32TlvValue (limit : ℕ) : Fill (Tlv UInt32) :=
  .pull (.pull32 limit) fun field value ↦ { field with value }

/-- `unpack_uint16_tlv_value` for a value of one byte: the other one goes to the byte behind it. -/
def unpackUint16IntoUint8 (limit : ℕ) : Fill (Tlv UInt8) :=
  .pull (.pull16 limit) fun field value ↦ { field with value := value.toUInt8 }

/-- A field of five values. The table has the second element of the array. -/
def fiveValues (array : Place NrConfigRequest (Vector (Tlv UInt16) 5)) (tl : Tl) (limit : ℕ) :
    Fill NrConfigDecoding :=
  (Fill.inPlace (inRequest (array.within (.slot 1))) (storeTl tl)).andThen <|
    .lastOf (fun index ↦
      .inPlace (inRequest (array.within (.slot index))) (unpackUint16TlvValue limit)) 5 0 false

/-- A field that goes to a place with an index. Tag and length are also stored in the first of these
places, which is the one that the table has. -/
def indexedField {α : Type} (first : Place NrConfigRequest (Tlv α))
    (current : NrConfigIndices → Place NrConfigRequest (Tlv α)) (unpack : ℕ → Fill (Tlv α))
    (next : NrConfigIndices → NrConfigIndices) (tl : Tl) (limit : ℕ) : Fill NrConfigDecoding :=
  (Fill.inPlace (inRequest first) (storeTl tl)).andThen <|
    (Fill.look fun decoding ↦ .inPlace (inRequest (current decoding.indices))
      ((storeTl tl).andThen (unpack limit))).thenModify
        fun decoding ↦ { decoding with indices := next decoding.indices }

/-- A member of the current occasion. -/
def occasionField {α : Type} (member : Place PrachFdOccasion (Tlv α)) (unpack : ℕ → Fill (Tlv α))
    (next : NrConfigIndices → NrConfigIndices) (tl : Tl) (limit : ℕ) : Fill NrConfigDecoding :=
  indexedField ((NrConfigRequest.occasion 0).within member)
    (fun indices ↦ (NrConfigRequest.occasion indices.prachRootSeqIdx).within member) unpack next
    tl limit

/-- The cases of the `switch` over the tag. -/
def NrConfigTlv.fill (tl : Tl) (limit : ℕ) : NrConfigTlv → Fill NrConfigDecoding
  | scalar name =>
    .component (·.request.fields)
      (fun decoding fields ↦ { decoding with request := { decoding.request with fields } })
      ((slot (field NrConfigField.tag NrConfigField.kind) name).fill tl limit)
  | dlK0 => fiveValues NrConfigRequest.dlK0Place tl limit
  | dlGridSize => fiveValues NrConfigRequest.dlGridSizePlace tl limit
  | ulK0 => fiveValues NrConfigRequest.ulK0Place tl limit
  | ulGridSize => fiveValues NrConfigRequest.ulGridSizePlace tl limit
  | prachRootSequenceIndex =>
    occasionField (.member (·.prachRootSequenceIndex) fun occasion prachRootSequenceIndex ↦
        { occasion with prachRootSequenceIndex }) unpackUint16TlvValue
      (fun indices ↦ { indices with prachRootSeqIdx := indices.prachRootSeqIdx + 1 }) tl limit
  | numRootSequences =>
    occasionField (.member (·.numRootSequences) fun occasion numRootSequences ↦
      { occasion with numRootSequences }) unpackUint8TlvValue id tl limit
  | k1 =>
    occasionField (.member (·.k1) fun occasion k1 ↦ { occasion with k1 }) unpackUint16TlvValue id
      tl limit
  | prachZeroCorrConf =>
    occasionField (.member (·.prachZeroCorrConf) fun occasion prachZeroCorrConf ↦
      { occasion with prachZeroCorrConf }) unpackUint8TlvValue id tl limit
  | numUnusedRootSequences =>
    occasionField (.member (·.numUnusedRootSequences) fun occasion numUnusedRootSequences ↦
      { occasion with numUnusedRootSequences }) unpackUint16TlvValue id tl limit
  | unusedRootSequences =>
    indexedField (NrConfigRequest.unusedRootSequence 0 0)
      (fun indices ↦
        NrConfigRequest.unusedRootSequence indices.prachRootSeqIdx indices.unusedRootSeqIdx)
      unpackUint16IntoUint8
      (fun indices ↦ { indices with unusedRootSeqIdx := indices.unusedRootSeqIdx + 1 }) tl limit
  | ssbMask =>
    indexedField (NrConfigRequest.ssbMask 0)
      (fun indices ↦ NrConfigRequest.ssbMask indices.ssbMaskIdx) unpackUint32TlvValue
      (fun indices ↦ { indices with ssbMaskIdx := indices.ssbMaskIdx + 1 }) tl limit
  | beamId =>
    indexedField (NrConfigRequest.beamId 0)
      (fun indices ↦ NrConfigRequest.beamId indices.configBeamIdx) unpackUint8TlvValue
      (fun indices ↦ { indices with configBeamIdx := indices.configBeamIdx + 1 }) tl limit
  | slotConfig =>
    indexedField (NrConfigRequest.slotConfig 0 0)
      (fun indices ↦
        NrConfigRequest.slotConfig indices.tddPeriodicityIdx indices.symbolPerSlotIdx)
      unpackUint8TlvValue NrConfigIndices.nextSymbol tl limit

def NrConfigTlv.entry (tlv : NrConfigTlv) : Entry NrConfigDecoding :=
  ⟨tlv.tag, fun tl limit ↦ tlv.fill tl limit⟩

/-- The memory that the decoder allocates, whatever is in it: one occasion with memory for one unused
root sequence, and 40 slots of 14 symbols. -/
structure AllocatedLists where
  occasion : PrachFdOccasion
  slots : List (List (Tlv UInt8))
  length_unused : occasion.unusedRootSequencesList.length = 1
  length_slots : slots.length = 40
  length_symbols : ∀ symbols ∈ slots, symbols.length = 14

/-- The request before anything is read. -/
def AllocatedLists.decoding (lists : AllocatedLists) : NrConfigDecoding :=
  { request := {
      numPrachFdOccasionsList := [lists.occasion], maxTddPeriodicityList := lists.slots } }

/-- `unpack_nr_config_request`. The loop is that of `unpack_nr_tlv_list`, for a table of its own. -/
def unpackNrConfigRequest {V : Type} (config : Option (CodecConfig V)) (limit : ℕ) :
    Fill (NrConfigDecoding × Option V) :=
  (Fill.attempt (.pull (.pull8 limit) fun decoding numTlv ↦
      ({ decoding.1 with request := { decoding.1.request with numTlv } }, decoding.2))).andThen
    (unpackNrTlvList config (NrConfigTlv.table.map NrConfigTlv.entry) limit)

end MultiUeProxy.P5
