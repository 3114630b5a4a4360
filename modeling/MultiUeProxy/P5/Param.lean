import MultiUeProxy.P5.ConfigFields
import MultiUeProxy.P5.Pnf

/-!
# The PARAM.response messages

`pack_param_response`, `pack_nr_param_response` and their decoders of `nfapi_p5.c`. Both encoders
and both decoders are tables of fields. The NR tables are the same. The LTE encoder also knows the
seven fields of EMBMS and FEMBMS, for which its decoder has no entry: a response comes back as it
was exactly when none of these is there, and the NR response always does
(`paramResponse_intact_iff`).
-/

set_option autoImplicit false
set_option relaxedAutoImplicit false

namespace MultiUeProxy.P5

open Lib.Execution Lib.ByteCursor Lib.ByteWriter Lib.Codec Lib.TlvCodec Lib.InPlace Lib.TaggedParts
  Lib.TlvRecord Message
open Lib.ByteCursor.Pull (Tl)

/-! ### EMBMS and FEMBMS -/

/-- `nfapi_embms_mbsfn_config_t`. The lists are the parts of the arrays that are in use. -/
structure EmbmsMbsfnConfig where
  numMbsfnConfig : UInt16 := 0
  radioframeAllocationPeriod : List UInt16 := []
  radioframeAllocationOffset : List UInt16 := []
  fourframesFlag : List UInt8 := []
  mbsfnSubframeconfig : List Int32 := []

instance : Inhabited EmbmsMbsfnConfig := ⟨{}⟩

def packEmbmsMbsfnConfigValue (limit : ℕ) (value : EmbmsMbsfnConfig) : Push Unit := do
  Push.push16 limit value.numMbsfnConfig
  Push.pusharray16 value.radioframeAllocationPeriod 8 value.numMbsfnConfig.toNat limit
  Push.pusharray16 value.radioframeAllocationOffset 8 value.numMbsfnConfig.toNat limit
  Push.pusharray8 value.fourframesFlag 8 value.numMbsfnConfig.toNat limit
  Push.pusharrays32 value.mbsfnSubframeconfig 8 value.numMbsfnConfig.toNat limit

def nfapiEmbmsMbsfnConfigAreaIdxTag : UInt16 := 0x0039
def nfapiEmbmsMbsfnConfigAreaIdr9Tag : UInt16 := 0x0040
def nfapiEmbmsMbsfnConfigTag : UInt16 := 0x0041
def nfapiFembmsConfigRadioframeAllocationPeriodTag : UInt16 := 0x0042
def nfapiFembmsConfigRadioframeAllocationOffsetTag : UInt16 := 0x0043
def nfapiFembmsConfigNonMbsfnFlagTag : UInt16 := 0x0044
def nfapiFembmsConfigNonMbsfnSubframeconfigTag : UInt16 := 0x0045

/-- The members `embms_sib13_config`, `embms_mbsfn_config` and `fembms_config`. -/
structure EmbmsFields where
  mbsfnAreaIdx : Tlv UInt8 := Tagged.absent
  mbsfnAreaIdR9 : Tlv UInt16 := Tagged.absent
  embmsMbsfnConfig : Tlv EmbmsMbsfnConfig := Tagged.absent
  radioframeAllocationPeriod : Tlv UInt8 := Tagged.absent
  radioframeAllocationOffset : Tlv UInt8 := Tagged.absent
  nonMbsfnConfigFlag : Tlv UInt8 := Tagged.absent
  nonMbsfnSubframeconfig : Tlv UInt16 := Tagged.absent

namespace EmbmsFields

/-- The part of `pack_param_response` between PUCCH and SRS. -/
def pack (limit : ℕ) (fields : EmbmsFields) : Push Unit := do
  packTlv limit nfapiEmbmsMbsfnConfigAreaIdxTag fields.mbsfnAreaIdx.tl
    (Push.push8 limit fields.mbsfnAreaIdx.value)
  packTlv limit nfapiEmbmsMbsfnConfigAreaIdr9Tag fields.mbsfnAreaIdR9.tl
    (Push.push16 limit fields.mbsfnAreaIdR9.value)
  packTlv limit nfapiEmbmsMbsfnConfigTag fields.embmsMbsfnConfig.tl
    (packEmbmsMbsfnConfigValue limit fields.embmsMbsfnConfig.value)
  packTlv limit nfapiFembmsConfigRadioframeAllocationPeriodTag fields.radioframeAllocationPeriod.tl
    (Push.push8 limit fields.radioframeAllocationPeriod.value)
  packTlv limit nfapiFembmsConfigRadioframeAllocationOffsetTag fields.radioframeAllocationOffset.tl
    (Push.push8 limit fields.radioframeAllocationOffset.value)
  packTlv limit nfapiFembmsConfigNonMbsfnFlagTag fields.nonMbsfnConfigFlag.tl
    (Push.push8 limit fields.nonMbsfnConfigFlag.value)
  packTlv limit nfapiFembmsConfigNonMbsfnSubframeconfigTag fields.nonMbsfnSubframeconfig.tl
    (Push.push16 limit fields.nonMbsfnSubframeconfig.value)

/-- Each field is there on both sides or on none, with the same value. -/
structure Same (sent received : EmbmsFields) : Prop where
  mbsfnAreaIdx :
    SameField nfapiEmbmsMbsfnConfigAreaIdxTag sent.mbsfnAreaIdx received.mbsfnAreaIdx
  mbsfnAreaIdR9 :
    SameField nfapiEmbmsMbsfnConfigAreaIdr9Tag sent.mbsfnAreaIdR9 received.mbsfnAreaIdR9
  embmsMbsfnConfig :
    SameField nfapiEmbmsMbsfnConfigTag sent.embmsMbsfnConfig received.embmsMbsfnConfig
  radioframeAllocationPeriod : SameField nfapiFembmsConfigRadioframeAllocationPeriodTag
    sent.radioframeAllocationPeriod received.radioframeAllocationPeriod
  radioframeAllocationOffset : SameField nfapiFembmsConfigRadioframeAllocationOffsetTag
    sent.radioframeAllocationOffset received.radioframeAllocationOffset
  nonMbsfnConfigFlag : SameField nfapiFembmsConfigNonMbsfnFlagTag sent.nonMbsfnConfigFlag
    received.nonMbsfnConfigFlag
  nonMbsfnSubframeconfig : SameField nfapiFembmsConfigNonMbsfnSubframeconfigTag
    sent.nonMbsfnSubframeconfig received.nonMbsfnSubframeconfig

/-- None of the fields is there. -/
structure Absent (fields : EmbmsFields) : Prop where
  mbsfnAreaIdx : fields.mbsfnAreaIdx.tl.tag ≠ nfapiEmbmsMbsfnConfigAreaIdxTag
  mbsfnAreaIdR9 : fields.mbsfnAreaIdR9.tl.tag ≠ nfapiEmbmsMbsfnConfigAreaIdr9Tag
  embmsMbsfnConfig : fields.embmsMbsfnConfig.tl.tag ≠ nfapiEmbmsMbsfnConfigTag
  radioframeAllocationPeriod :
    fields.radioframeAllocationPeriod.tl.tag ≠ nfapiFembmsConfigRadioframeAllocationPeriodTag
  radioframeAllocationOffset :
    fields.radioframeAllocationOffset.tl.tag ≠ nfapiFembmsConfigRadioframeAllocationOffsetTag
  nonMbsfnConfigFlag : fields.nonMbsfnConfigFlag.tl.tag ≠ nfapiFembmsConfigNonMbsfnFlagTag
  nonMbsfnSubframeconfig :
    fields.nonMbsfnSubframeconfig.tl.tag ≠ nfapiFembmsConfigNonMbsfnSubframeconfigTag

theorem same_nothing_iff (fields : EmbmsFields) : fields.Same {} ↔ fields.Absent := by
  constructor
  · intro hsame
    constructor
    · exact (sameField_absent (by decide) _).mp hsame.mbsfnAreaIdx
    · exact (sameField_absent (by decide) _).mp hsame.mbsfnAreaIdR9
    · exact (sameField_absent (by decide) _).mp hsame.embmsMbsfnConfig
    · exact (sameField_absent (by decide) _).mp hsame.radioframeAllocationPeriod
    · exact (sameField_absent (by decide) _).mp hsame.radioframeAllocationOffset
    · exact (sameField_absent (by decide) _).mp hsame.nonMbsfnConfigFlag
    · exact (sameField_absent (by decide) _).mp hsame.nonMbsfnSubframeconfig
  · intro habsent
    constructor
    · exact (sameField_absent (by decide) _).mpr habsent.mbsfnAreaIdx
    · exact (sameField_absent (by decide) _).mpr habsent.mbsfnAreaIdR9
    · exact (sameField_absent (by decide) _).mpr habsent.embmsMbsfnConfig
    · exact (sameField_absent (by decide) _).mpr habsent.radioframeAllocationPeriod
    · exact (sameField_absent (by decide) _).mpr habsent.radioframeAllocationOffset
    · exact (sameField_absent (by decide) _).mpr habsent.nonMbsfnConfigFlag
    · exact (sameField_absent (by decide) _).mpr habsent.nonMbsfnSubframeconfig

theorem pack_absent {fields : EmbmsFields} (habsent : fields.Absent) (limit : ℕ) :
    fields.pack limit = pure () := by
  unfold pack packTlv
  rw [if_neg habsent.mbsfnAreaIdx, if_neg habsent.mbsfnAreaIdR9, if_neg habsent.embmsMbsfnConfig,
    if_neg habsent.radioframeAllocationPeriod, if_neg habsent.radioframeAllocationOffset,
    if_neg habsent.nonMbsfnConfigFlag, if_neg habsent.nonMbsfnSubframeconfig]
  rfl

end EmbmsFields

/-! ### The LTE message -/

/-- What `pack_param_response` goes through before EMBMS. -/
def paramResponseFront : List LteField :=
  LteField.l1Status ++ LteField.phyCapabilities ++ LteField.subframeConfig ++ LteField.rfConfig ++
    LteField.phichConfig ++ LteField.schConfig ++ LteField.prachConfig ++ LteField.puschConfig ++
    LteField.pucchConfig

/-- And after FEMBMS. -/
def paramResponseBack : List LteField :=
  LteField.srsConfig ++ LteField.uplinkReferenceSignalConfig ++ LteField.tddFrameStructureConfig ++
    LteField.l23Config ++ LteField.nfapiConfig

/-- The table of `unpack_param_response`. -/
def paramResponseTable : List LteField :=
  LteField.l1Status ++ LteField.phyCapabilities ++ LteField.laaCapability ++
    LteField.subframeConfig ++ LteField.rfConfig ++ LteField.phichConfig ++ LteField.schConfig ++
    LteField.prachConfig ++ LteField.puschConfig ++ LteField.pucchConfig ++ LteField.srsConfig ++
    LteField.uplinkReferenceSignalConfig ++ LteField.tddFrameStructureConfig ++
    LteField.l23Config ++ LteField.nfapiConfig

/-- `nfapi_param_response_t`. -/
structure ParamResponse (V : Type) where
  errorCode : UInt8
  numTlv : UInt8
  fields : Fields LteField.kind
  embms : EmbmsFields
  vendorExtension : Option V

/-- `pack_param_response`. -/
def packParamResponse {V : Type} [Tagged V] (config : Option (CodecConfig V)) (limit : ℕ)
    (response : ParamResponse V) : Push Unit := do
  Push.push8 limit response.errorCode
  Push.push8 limit response.numTlv
  packParts limit (lteParts paramResponseFront) response.fields
  response.embms.pack limit
  packParts limit (lteParts paramResponseBack) response.fields
  packVendorExtensionTlv config limit response.vendorExtension

/-- `unpack_param_response`. The table has nothing for EMBMS, which is as it was cleared. -/
def unpackParamResponse {V : Type} (config : Option (CodecConfig V)) (limit : ℕ) :
    Pull (ParamResponse V) := do
  let errorCode ← Pull.pull8 limit
  let numTlv ← Pull.pull8 limit
  let (fields, vendorExtension) ←
    (unpackTlvList config ((lteParts paramResponseTable).map TlvPart.entry) limit).toPull
      (blank, none)
  return { errorCode, numTlv, fields, embms := {}, vendorExtension }

/-- `nfapi_p5_message_unpack` for this message. -/
def unpackParamResponseMessage {V : Type} (config : Option (CodecConfig V)) (mem : Memory)
    (length : ℕ) : Outcome (Option (ParamResponse V)) :=
  messageUnpack (caseOf nfapiParamResponse (unpackParamResponse config)) mem length

/-- The packed message is accepted, and what is unpacked is the response: the error code, the number
of fields, and each field of the encoder. -/
def ParamIntact {V : Type} (config : Option (CodecConfig V)) (response : ParamResponse V)
    (packed : List UInt8) : Prop :=
  ∃ received, unpackParamResponseMessage config (memoryOf packed) packed.length =
      .ok (some received) ∧
    received.errorCode = response.errorCode ∧ received.numTlv = response.numTlv ∧
    (∀ name ∈ paramResponseFront ++ paramResponseBack,
      SameField name.tag (response.fields name) (received.fields name)) ∧
    response.embms.Same received.embms

/-! ### The NR message -/

/-- A tagged field of the NR PARAM.response. -/
inductive NrParamField where
  | cellParamReleaseCapability | cellParamPhyState | cellParamSkipBlankDlConfig
  | cellParamSkipBlankUlConfig | cellParamNumConfigTlvsToReport
  | carrierParamCyclicPrefix | carrierParamSupportedSubcarrierSpacingsDl
  | carrierParamSupportedBandwidthDl | carrierParamSupportedSubcarrierSpacingsUl
  | carrierParamSupportedBandwidthUl
  | pdcchParamCceMappingType | pdcchParamCoresetOutsideFirst3OfOfdmSymsOfSlot
  | pdcchParamCoresetPrecoderGranularityCoreset | pdcchParamPdcchMuMimo
  | pdcchParamPdcchPrecoderCycling | pdcchParamMaxPdcchPerSlot
  | pucchParamPucchFormats | pucchParamMaxPucchsPerSlot
  | pdschParamPdschMappingType | pdschParamPdschAllocationTypes | pdschParamPdschVrbToPrbMapping
  | pdschParamPdschCbg | pdschParamPdschDmrsConfigTypes | pdschParamPdschDmrsMaxLength
  | pdschParamPdschDmrsAdditionalPos | pdschParamMaxPdschTbsPerSlot
  | pdschParamMaxNumberMimoLayersPdsch | pdschParamMaxMuMimoUsersDl
  | pdschParamPdschDataInDmrsSymbols | pdschParamPremptionSupport | pdschParamPdschNonSlotSupport
  | puschParamUciMuxUlschInPusch | puschParamUciOnlyPusch | puschParamPuschFrequencyHopping
  | puschParamPuschDmrsConfigTypes | puschParamPuschDmrsMaxLen | puschParamPuschDmrsAdditionalPos
  | puschParamPuschCbg | puschParamPuschMappingType | puschParamPuschAllocationTypes
  | puschParamPuschVrbToPrbMapping | puschParamPuschMaxPtrsPorts | puschParamMaxPduschsTbsPerSlot
  | puschParamMaxNumberMimoLayersNonCbPusch | puschParamSupportedModulationOrderUl
  | puschParamMaxMuMimoUsersUl | puschParamDftsOfdmSupport | puschParamPuschAggregationFactor
  | prachParamPrachLongFormats | prachParamPrachShortFormats | prachParamPrachRestrictedSets
  | prachParamMaxPrachFdOccasionsInASlot
  | measurementParamRssiMeasurementSupport
  | nfapiConfigP7VnfAddressIpv4 | nfapiConfigP7VnfAddressIpv6 | nfapiConfigP7VnfPort
  | nfapiConfigP7PnfAddressIpv4 | nfapiConfigP7PnfAddressIpv6 | nfapiConfigP7PnfPort
  | nfapiConfigTimingWindow | nfapiConfigTimingInfoMode | nfapiConfigTimingInfoPeriod
  deriving DecidableEq, Repr

namespace NrParamField

def tag : NrParamField → UInt16
  | cellParamReleaseCapability => 0x0001
  | cellParamPhyState => 0x0002
  | cellParamSkipBlankDlConfig => 0x0003
  | cellParamSkipBlankUlConfig => 0x0004
  | cellParamNumConfigTlvsToReport => 0x0005
  | carrierParamCyclicPrefix => 0x0006
  | carrierParamSupportedSubcarrierSpacingsDl => 0x0007
  | carrierParamSupportedBandwidthDl => 0x0008
  | carrierParamSupportedSubcarrierSpacingsUl => 0x0009
  | carrierParamSupportedBandwidthUl => 0x000A
  | pdcchParamCceMappingType => 0x000B
  | pdcchParamCoresetOutsideFirst3OfOfdmSymsOfSlot => 0x000C
  | pdcchParamCoresetPrecoderGranularityCoreset => 0x000D
  | pdcchParamPdcchMuMimo => 0x000E
  | pdcchParamPdcchPrecoderCycling => 0x000F
  | pdcchParamMaxPdcchPerSlot => 0x0010
  | pucchParamPucchFormats => 0x0011
  | pucchParamMaxPucchsPerSlot => 0x0012
  | pdschParamPdschMappingType => 0x0013
  | pdschParamPdschAllocationTypes => 0x0014
  | pdschParamPdschVrbToPrbMapping => 0x0015
  | pdschParamPdschCbg => 0x0016
  | pdschParamPdschDmrsConfigTypes => 0x0017
  | pdschParamPdschDmrsMaxLength => 0x0018
  | pdschParamPdschDmrsAdditionalPos => 0x0019
  | pdschParamMaxPdschTbsPerSlot => 0x001A
  | pdschParamMaxNumberMimoLayersPdsch => 0x001B
  | pdschParamMaxMuMimoUsersDl => 0x001D
  | pdschParamPdschDataInDmrsSymbols => 0x001E
  | pdschParamPremptionSupport => 0x001F
  | pdschParamPdschNonSlotSupport => 0x0020
  | puschParamUciMuxUlschInPusch => 0x0021
  | puschParamUciOnlyPusch => 0x0022
  | puschParamPuschFrequencyHopping => 0x0023
  | puschParamPuschDmrsConfigTypes => 0x0024
  | puschParamPuschDmrsMaxLen => 0x0025
  | puschParamPuschDmrsAdditionalPos => 0x0026
  | puschParamPuschCbg => 0x0027
  | puschParamPuschMappingType => 0x0028
  | puschParamPuschAllocationTypes => 0x0029
  | puschParamPuschVrbToPrbMapping => 0x002A
  | puschParamPuschMaxPtrsPorts => 0x002B
  | puschParamMaxPduschsTbsPerSlot => 0x002C
  | puschParamMaxNumberMimoLayersNonCbPusch => 0x002D
  | puschParamSupportedModulationOrderUl => 0x002E
  | puschParamMaxMuMimoUsersUl => 0x002F
  | puschParamDftsOfdmSupport => 0x0030
  | puschParamPuschAggregationFactor => 0x0031
  | prachParamPrachLongFormats => 0x0032
  | prachParamPrachShortFormats => 0x0033
  | prachParamPrachRestrictedSets => 0x0034
  | prachParamMaxPrachFdOccasionsInASlot => 0x0035
  | measurementParamRssiMeasurementSupport => 0x0036
  | nfapiConfigP7VnfAddressIpv4 => 0x0100
  | nfapiConfigP7VnfAddressIpv6 => 0x0101
  | nfapiConfigP7VnfPort => 0x0102
  | nfapiConfigP7PnfAddressIpv4 => 0x0103
  | nfapiConfigP7PnfAddressIpv6 => 0x0104
  | nfapiConfigP7PnfPort => 0x0105
  | nfapiConfigTimingWindow => 0x011E
  | nfapiConfigTimingInfoMode => 0x011F
  | nfapiConfigTimingInfoPeriod => 0x0120

def kind : NrParamField → ValueKind
  | cellParamReleaseCapability | cellParamPhyState | cellParamNumConfigTlvsToReport
  | carrierParamSupportedSubcarrierSpacingsDl | carrierParamSupportedBandwidthDl
  | carrierParamSupportedBandwidthUl | nfapiConfigP7VnfPort | nfapiConfigP7PnfPort => .uint16
  | nfapiConfigP7VnfAddressIpv4 | nfapiConfigP7PnfAddressIpv4 => .ipv4Address
  | nfapiConfigP7VnfAddressIpv6 | nfapiConfigP7PnfAddressIpv6 => .ipv6Address
  | _ => .uint8

def cellParam : List NrParamField :=
  [.cellParamReleaseCapability, .cellParamPhyState, .cellParamSkipBlankDlConfig,
    .cellParamSkipBlankUlConfig, .cellParamNumConfigTlvsToReport]

def carrierParam : List NrParamField :=
  [.carrierParamCyclicPrefix, .carrierParamSupportedSubcarrierSpacingsDl,
    .carrierParamSupportedBandwidthDl, .carrierParamSupportedSubcarrierSpacingsUl,
    .carrierParamSupportedBandwidthUl]

def pdcchParam : List NrParamField :=
  [.pdcchParamCceMappingType, .pdcchParamCoresetOutsideFirst3OfOfdmSymsOfSlot,
    .pdcchParamCoresetPrecoderGranularityCoreset, .pdcchParamPdcchMuMimo,
    .pdcchParamPdcchPrecoderCycling, .pdcchParamMaxPdcchPerSlot]

def pucchParam : List NrParamField := [.pucchParamPucchFormats, .pucchParamMaxPucchsPerSlot]

def pdschParam : List NrParamField :=
  [.pdschParamPdschMappingType, .pdschParamPdschAllocationTypes, .pdschParamPdschVrbToPrbMapping,
    .pdschParamPdschCbg, .pdschParamPdschDmrsConfigTypes, .pdschParamPdschDmrsMaxLength,
    .pdschParamPdschDmrsAdditionalPos, .pdschParamMaxPdschTbsPerSlot,
    .pdschParamMaxNumberMimoLayersPdsch, .pdschParamMaxMuMimoUsersDl,
    .pdschParamPdschDataInDmrsSymbols, .pdschParamPremptionSupport, .pdschParamPdschNonSlotSupport]

def puschParam : List NrParamField :=
  [.puschParamUciMuxUlschInPusch, .puschParamUciOnlyPusch, .puschParamPuschFrequencyHopping,
    .puschParamPuschDmrsConfigTypes, .puschParamPuschDmrsMaxLen, .puschParamPuschDmrsAdditionalPos,
    .puschParamPuschCbg, .puschParamPuschMappingType, .puschParamPuschAllocationTypes,
    .puschParamPuschVrbToPrbMapping, .puschParamPuschMaxPtrsPorts, .puschParamMaxPduschsTbsPerSlot,
    .puschParamMaxNumberMimoLayersNonCbPusch, .puschParamSupportedModulationOrderUl,
    .puschParamMaxMuMimoUsersUl, .puschParamDftsOfdmSupport, .puschParamPuschAggregationFactor]

def prachParam : List NrParamField :=
  [.prachParamPrachLongFormats, .prachParamPrachShortFormats, .prachParamPrachRestrictedSets,
    .prachParamMaxPrachFdOccasionsInASlot]

def measurementParam : List NrParamField := [.measurementParamRssiMeasurementSupport]

def nfapiConfig : List NrParamField :=
  [.nfapiConfigP7VnfAddressIpv4, .nfapiConfigP7VnfAddressIpv6, .nfapiConfigP7VnfPort,
    .nfapiConfigP7PnfAddressIpv4, .nfapiConfigP7PnfAddressIpv6, .nfapiConfigP7PnfPort,
    .nfapiConfigTimingWindow, .nfapiConfigTimingInfoMode, .nfapiConfigTimingInfoPeriod]

end NrParamField

/-- What `pack_nr_param_response` goes through, and the table of `unpack_nr_param_response`. -/
def nrParamResponseTable : List NrParamField :=
  NrParamField.cellParam ++ NrParamField.carrierParam ++ NrParamField.pdcchParam ++
    NrParamField.pucchParam ++ NrParamField.pdschParam ++ NrParamField.puschParam ++
    NrParamField.prachParam ++ NrParamField.measurementParam ++ NrParamField.nfapiConfig

/-- `nfapi_nr_param_response_scf_t`. -/
structure NrParamResponse (V : Type) where
  errorCode : UInt8
  numTlv : UInt8
  fields : Fields NrParamField.kind
  vendorExtension : Option V

/-- The fields of the NR message. -/
abbrev nrParamParts : List (TlvPart (Fields NrParamField.kind)) :=
  fieldParts NrParamField.tag NrParamField.kind nrParamResponseTable

/-- `pack_nr_param_response`. -/
def packNrParamResponse {V : Type} [Tagged V] (config : Option (CodecConfig V)) (limit : ℕ)
    (response : NrParamResponse V) : Push Unit := do
  Push.push8 limit response.errorCode
  Push.push8 limit response.numTlv
  packPaddedParts getTlvPadding limit nrParamParts response.fields
  packVendorExtensionTlv config limit response.vendorExtension

/-- `unpack_nr_param_response`. -/
def unpackNrParamResponse {V : Type} (config : Option (CodecConfig V)) (limit : ℕ) :
    Pull (NrParamResponse V) := do
  let errorCode ← Pull.pull8 limit
  let numTlv ← Pull.pull8 limit
  let (fields, vendorExtension) ←
    (unpackNrTlvList config (nrParamParts.map TlvPart.entry) limit).toPull (blank, none)
  return { errorCode, numTlv, fields, vendorExtension }

/-- `nfapi_nr_p5_message_unpack` for this message. -/
def unpackNrParamResponseMessage {V : Type} (config : Option (CodecConfig V)) (mem : Memory)
    (length : ℕ) : Outcome (Option (NrParamResponse V)) :=
  messageUnpack (caseOf nfapiNrPhyMsgTypeParamResponse (unpackNrParamResponse config)) mem length

/-- The packed message is accepted, and what is unpacked is the response. -/
def NrParamIntact {V : Type} (config : Option (CodecConfig V)) (response : NrParamResponse V)
    (packed : List UInt8) : Prop :=
  ∃ received, unpackNrParamResponseMessage config (memoryOf packed) packed.length =
      .ok (some received) ∧
    received.errorCode = response.errorCode ∧ received.numTlv = response.numTlv ∧
    ∀ name ∈ nrParamResponseTable,
      SameField name.tag (response.fields name) (received.fields name)

/-! ### There and back -/

theorem listed_paramResponse :
    Listed LteField.tag (paramResponseFront ++ paramResponseBack) paramResponseTable where
  nodup := by decide +kernel
  subset := by decide +kernel
  tags := by decide +kernel
  nonzero := by decide +kernel

theorem listed_nrParamResponse :
    Listed NrParamField.tag nrParamResponseTable nrParamResponseTable where
  nodup := by decide +kernel
  subset := fun _ hname ↦ hname
  tags := by decide +kernel
  nonzero := by decide +kernel

/-- The decoder never fills in EMBMS. -/
theorem embms_of_unpackParamResponse {V : Type} {config : Option (CodecConfig V)} {limit : ℕ}
    {mem : Memory} {pos last : ℕ} {received : ParamResponse V}
    (h : unpackParamResponse config limit mem pos = .ok (received, last)) :
    received.embms = {} := by
  obtain ⟨errorCode, _, _, hrest⟩ := Pull.bind_eq_ok.mp h
  obtain ⟨numTlv, _, _, hrest⟩ := Pull.bind_eq_ok.mp hrest
  obtain ⟨result, _, _, hpure⟩ := Pull.bind_eq_ok.mp hrest
  cases hpure
  rfl

section RoundTrip

variable {V : Type} [Tagged V] {config : Option (CodecConfig V)} {limit : ℕ}
  {header : P5MessageHeader} {packed : List UInt8}

theorem yields_packVendorExtensionTlv {extension? : Option V} (hnone : extension? = none) :
    Yields limit (packVendorExtensionTlv config limit extension?) [] := by
  rw [hnone]
  exact Emits.yields (inferInstance : Emits limit (pure ()) [])

theorem lteParts_append (front back : List LteField) :
    lteParts (front ++ back) = lteParts front ++ lteParts back := List.map_append

theorem partsBytes_append {σ : Type} (front back : List (TlvPart σ)) (value : σ) :
    partsBytes (front ++ back) value = partsBytes front value ++ partsBytes back value :=
  List.flatMap_append

section Lte

variable {response : ParamResponse V}

/-- A packed response has no list that is too long. -/
theorem partsFit_of_packParamResponse (hsound : response.fields.Sound)
    (hpacked : p5MessagePack (packParamResponse config limit response) limit header =
      .ok (some packed)) :
    PartsFit (lteParts (paramResponseFront ++ paramResponseBack)) response.fields := by
  rw [lteParts_append]
  apply partsFit_append.mpr
  constructor
  · apply partsFit_of_not_fails hsound
    intro hfails
    refine packMessage_of_fails ?_ hpacked
    exact Fails.after fun _ ↦ Fails.after fun _ ↦ hfails.bind
  · apply partsFit_of_not_fails hsound
    intro hfails
    refine packMessage_of_fails ?_ hpacked
    exact Fails.after fun _ ↦ Fails.after fun _ ↦ Fails.after fun _ ↦ Fails.after fun _ ↦
      hfails.bind

theorem yields_packParamResponse (hextension : response.vendorExtension = none)
    (hfits : PartsFit (lteParts (paramResponseFront ++ paramResponseBack)) response.fields)
    (habsent : response.embms.Absent) :
    Yields limit (packParamResponse config limit response)
      ([response.errorCode] ++ ([response.numTlv] ++
        partsBytes (lteParts (paramResponseFront ++ paramResponseBack)) response.fields)) := by
  rw [lteParts_append] at hfits
  obtain ⟨hfront, hback⟩ := partsFit_append.mp hfits
  have hpackFront := (@emits_packParts _ _ response.fields limit hfront).yields
  have hpackBack := (@emits_packParts _ _ response.fields limit hback).yields
  have hembms : Yields limit (response.embms.pack limit) [] := by
    rw [EmbmsFields.pack_absent habsent]
    exact Emits.yields inferInstance
  have hbytes : partsBytes (lteParts (paramResponseFront ++ paramResponseBack)) response.fields =
      partsBytes (lteParts paramResponseFront) response.fields ++
        ([] ++ (partsBytes (lteParts paramResponseBack) response.fields ++ [])) := by
    rw [List.append_nil, List.nil_append, lteParts_append, partsBytes_append]
  rw [hbytes]
  exact (yields_push8 _).bind <| (yields_push8 _).bind <| hpackFront.bind <| hembms.bind <|
    hpackBack.bind (yields_packVendorExtensionTlv hextension)

theorem paramIntact_of_absent (hid : header.messageId = nfapiParamResponse)
    (hextension : response.vendorExtension = none) (hsound : response.fields.Sound)
    (hpacked : p5MessagePack (packParamResponse config limit response) limit header =
      .ok (some packed)) (habsent : response.embms.Absent) :
    ParamIntact config response packed := by
  have hfits := partsFit_of_packParamResponse hsound hpacked
  obtain ⟨hrun, hholds, hlength, -⟩ := messageUnpack_packed hid
    (yields_packParamResponse hextension hfits habsent) hpacked
  rw [holds_append, holds_append] at hholds
  rw [List.length_append, List.length_append, ← Nat.add_assoc, ← Nat.add_assoc] at hlength
  obtain ⟨hcode, hnumber, hfields⟩ := hholds
  have hreadCode := reads_pull8 packed.length response.errorCode _ _ hcode (by omega)
  have hreadNumber := reads_pull8 packed.length response.numTlv _ _ hnumber (by omega)
  have hlist := @unpackTlvList_fields _ V _ _ _ _ _ _ config none listed_paramResponse hfits _ _
    hfields
  rw [← hlength] at hlist
  refine ⟨⟨response.errorCode, response.numTlv, _, {}, none⟩, ?_, rfl, rfl, fun name hname ↦
    sameField_arrive hname (listed_paramResponse.nonzero name (listed_paramResponse.subset name
      hname)), (EmbmsFields.same_nothing_iff _).mpr habsent⟩
  unfold unpackParamResponseMessage
  rw [hrun, Pull.run_eq_some]
  unfold unpackParamResponse
  exact ⟨_, by rw [Pull.bind_of_ok hreadCode, Pull.bind_of_ok hreadNumber,
    Pull.bind_of_ok (toPull_eq_ok.mpr hlist)]; rfl⟩

theorem paramIntact_iff (hid : header.messageId = nfapiParamResponse)
    (hextension : response.vendorExtension = none) (hsound : response.fields.Sound)
    (hpacked : p5MessagePack (packParamResponse config limit response) limit header =
      .ok (some packed)) :
    ParamIntact config response packed ↔ response.embms.Absent := by
  constructor
  · intro hintact
    obtain ⟨received, hunpack, -, -, -, hembms⟩ := hintact
    apply (EmbmsFields.same_nothing_iff _).mp
    obtain ⟨pos, last, hbody⟩ := messageUnpack_eq_some hunpack
    rwa [embms_of_unpackParamResponse hbody] at hembms
  · exact paramIntact_of_absent hid hextension hsound hpacked

end Lte

section Nr

variable {response : NrParamResponse V}

/-- The lists of the NR message are addresses. -/
theorem NrParamField.fits (name : NrParamField) (value : name.kind.Value) :
    name.kind.codec.Fits value := by
  cases name with
  | _ => trivial

theorem partsFit_nrParam (fields : Fields NrParamField.kind) :
    PartsFit nrParamParts fields := by
  intro part hpart htag
  obtain ⟨name, -, rfl⟩ := List.mem_map.mp hpart
  exact name.fits _

theorem nrParamIntact_of_packed (hid : header.messageId = nfapiNrPhyMsgTypeParamResponse)
    (hextension : response.vendorExtension = none)
    (hpacked : nrP5MessagePack (packNrParamResponse config limit response) limit header =
      .ok (some packed)) : NrParamIntact config response packed := by
  have hpackFields := @yields_packPaddedParts _ nrParamParts response.fields getTlvPadding limit
    (partsFit_nrParam _)
  have hyields : Yields limit (packNrParamResponse config limit response) ([response.errorCode] ++
      ([response.numTlv] ++ (paddedPartsBytes getTlvPadding nrParamParts response.fields ++ []))) :=
    (yields_push8 _).bind <| (yields_push8 _).bind <| hpackFields.bind
      (yields_packVendorExtensionTlv hextension)
  rw [List.append_nil] at hyields
  obtain ⟨hrun, hholds, hlength, -⟩ := messageUnpack_packed hid hyields hpacked
  rw [holds_append, holds_append] at hholds
  rw [List.length_append, List.length_append, ← Nat.add_assoc, ← Nat.add_assoc] at hlength
  obtain ⟨hcode, hnumber, hfields⟩ := hholds
  have hreadCode := reads_pull8 packed.length response.errorCode _ _ hcode (by omega)
  have hreadNumber := reads_pull8 packed.length response.numTlv _ _ hnumber (by omega)
  have hlist := @unpackNrTlvList_fields _ V _ _ _ _ _ _ config none listed_nrParamResponse
    (partsFit_nrParam _) _ _ hfields
  rw [← hlength] at hlist
  refine ⟨⟨response.errorCode, response.numTlv, _, none⟩, ?_, rfl, rfl, fun name hname ↦
    sameField_arrive hname (listed_nrParamResponse.nonzero name hname)⟩
  unfold unpackNrParamResponseMessage
  rw [hrun, Pull.run_eq_some]
  unfold unpackNrParamResponse
  exact ⟨_, by rw [Pull.bind_of_ok hreadCode, Pull.bind_of_ok hreadNumber,
    Pull.bind_of_ok (toPull_eq_ok.mpr hlist)]; rfl⟩

end Nr

/-- A packed LTE response comes back as it was exactly when it has no field of EMBMS or FEMBMS, and
a packed NR response always does. -/
theorem paramResponse_intact_iff (config : Option (CodecConfig V)) (limit : ℕ)
    (header : P5MessageHeader) (packed : List UInt8) :
    (∀ response : ParamResponse V, header.messageId = nfapiParamResponse →
      response.vendorExtension = none → response.fields.Sound →
      p5MessagePack (packParamResponse config limit response) limit header = .ok (some packed) →
      (ParamIntact config response packed ↔ response.embms.Absent)) ∧
    ∀ response : NrParamResponse V, header.messageId = nfapiNrPhyMsgTypeParamResponse →
      response.vendorExtension = none →
      nrP5MessagePack (packNrParamResponse config limit response) limit header =
        .ok (some packed) →
      NrParamIntact config response packed := by
  constructor
  · intro response hid hextension hsound hpacked
    exact paramIntact_iff hid hextension hsound hpacked
  · intro response hid hextension hpacked
    exact nrParamIntact_of_packed hid hextension hpacked

end RoundTrip

/-- An LTE response with a PHY state and these fields of EMBMS. -/
def phyStateResponse (embms : EmbmsFields) : ParamResponse (Tlv UInt8) where
  errorCode := 0
  numTlv := 1
  fields := Function.update blank .l1StatusPhyState
    ⟨⟨LteField.tag .l1StatusPhyState, 0⟩, (3 : UInt16)⟩
  embms
  vendorExtension := none

/-- An NR response with a PHY state. -/
def nrPhyStateResponse : NrParamResponse (Tlv UInt8) where
  errorCode := 0
  numTlv := 1
  fields := Function.update blank .cellParamPhyState
    ⟨⟨NrParamField.tag .cellParamPhyState, 0⟩, (3 : UInt16)⟩
  vendorExtension := none

theorem sound_phyStateResponse (embms : EmbmsFields) : (phyStateResponse embms).fields.Sound := by
  intro name
  cases name with
  | _ => trivial

/-- The responses with a PHY state come back. -/
theorem paramResponse_phy_state : ∃ packed nrPacked,
    p5MessagePack (packParamResponse none 100 (phyStateResponse {})) 100
        { messageId := nfapiParamResponse } = .ok (some packed) ∧
      ParamIntact none (phyStateResponse {}) packed ∧
      nrP5MessagePack (packNrParamResponse none 100 nrPhyStateResponse) 100
        { messageId := nfapiNrPhyMsgTypeParamResponse } = .ok (some nrPacked) ∧
      NrParamIntact none nrPhyStateResponse nrPacked :=
  ⟨_, _, rfl, ((paramResponse_intact_iff none 100 { messageId := nfapiParamResponse } _).1
      (phyStateResponse {}) rfl rfl (sound_phyStateResponse {}) rfl).mpr
        (by constructor <;> decide),
    rfl, (paramResponse_intact_iff none 100 { messageId := nfapiNrPhyMsgTypeParamResponse } _).2
      nrPhyStateResponse rfl rfl rfl⟩

/-- With the area index of EMBMS, the LTE response does not. -/
theorem paramResponse_area_idx : ∃ packed,
    p5MessagePack (packParamResponse none 100 (phyStateResponse
        { mbsfnAreaIdx := ⟨⟨nfapiEmbmsMbsfnConfigAreaIdxTag, 0⟩, 1⟩ })) 100
        { messageId := nfapiParamResponse } = .ok (some packed) ∧
      ¬ ParamIntact none (phyStateResponse
        { mbsfnAreaIdx := ⟨⟨nfapiEmbmsMbsfnConfigAreaIdxTag, 0⟩, 1⟩ }) packed := by
  refine ⟨_, rfl, ?_⟩
  intro hintact
  have habsent := (@paramIntact_iff (Tlv UInt8) _ none 100 { messageId := nfapiParamResponse } _
    (phyStateResponse _) rfl rfl (sound_phyStateResponse _) rfl).mp hintact
  exact habsent.mbsfnAreaIdx rfl

end MultiUeProxy.P5
