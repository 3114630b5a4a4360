import MultiUeProxy.P5.Message

/-!
# Fields of the parameter and configuration messages

The fields of the LTE PARAM.response and CONFIG.request are scalars, addresses and lists of bands,
each with a tag of its own. The encoders and decoders of `nfapi_p5.c` go through them in tables. The
fields are named by the structure and the member that they are in, and a structure of fields has one
under each name (`Fields`).

With a table of different tags, a list decoder gets back all fields that an encoder wrote
(`unpackTlvList_fields`, `unpackNrTlvList_fields`), and their values are those of the encoder
(`sameField_arrive`).
-/

set_option autoImplicit false
set_option relaxedAutoImplicit false

namespace MultiUeProxy.P5

open Lib.Execution Lib.ByteCursor Lib.ByteWriter Lib.Codec Lib.TlvCodec Lib.InPlace Lib.TaggedParts
  Lib.TlvRecord Message
open Lib.ByteCursor.Pull (Tl)

/-! ### Values -/

/-- `NFAPI_IPV4_ADDRESS_LENGTH`. -/
def nfapiIpv4AddressLength : ℕ := 4

/-- `NFAPI_IPV6_ADDRESS_LENGTH`. -/
def nfapiIpv6AddressLength : ℕ := 16

/-- `NFAPI_MAX_NUM_RF_BANDS`. -/
def nfapiMaxNumRfBands : ℕ := 16

/-- `NFAPI_MAX_NMM_FREQUENCY_BANDS`. -/
def nfapiMaxNmmFrequencyBands : ℕ := 32

/-- `nfapi_ipv4_address_t` and `nfapi_ipv6_address_t`. -/
structure Address (length : ℕ) where
  address : List UInt8 := List.replicate length 0
  length_address : address.length = length := by exact List.length_replicate

instance {length : ℕ} : Inhabited (Address length) := ⟨{}⟩

/-- `pack_ipv4_address_value` and its three siblings. -/
def address (length : ℕ) : ValueCodec (Address length) :=
  .ofItems (fun value ↦ [.array8 value.address length length])
    [.pullarray8 length (fun _ ↦ length) fun value address ↦
      if h : address.length = length then ⟨address, h⟩ else value]
    (fun _ ↦ True) fun value _ ↦ by
      simp [applySteps, Step.apply, value.length_address]

/-- `pack_rf_bands_value`, `pack_nmm_frequency_bands_value` and their decoders. -/
def bands (maxLen : ℕ) : ValueCodec (Counted UInt16) :=
  .ofItems (fun value ↦ [.u16 value.number, .array16 value.items maxLen value.number.toNat])
    [.pull16 fun value number ↦ { value with number },
      .pullarray16 maxLen (·.number.toNat) fun value items ↦ { value with items }]
    (Counted.Fits (fun _ ↦ True) maxLen) fun value h ↦ by
      simp [applySteps, Step.apply, h.1, h.2.1]

/-- What is behind the tag and the length of a field. -/
inductive ValueKind where
  | uint8 | uint16 | uint32 | ipv4Address | ipv6Address | rfBands | nmmFrequencyBands
  deriving DecidableEq, Repr

namespace ValueKind

abbrev Value : ValueKind → Type
  | uint8 => UInt8
  | uint16 => UInt16
  | uint32 => UInt32
  | ipv4Address => Address nfapiIpv4AddressLength
  | ipv6Address => Address nfapiIpv6AddressLength
  | rfBands | nmmFrequencyBands => Counted UInt16

instance : (kind : ValueKind) → Inhabited kind.Value
  | uint8 => ⟨0⟩
  | uint16 => ⟨0⟩
  | uint32 => ⟨0⟩
  | ipv4Address | ipv6Address | rfBands | nmmFrequencyBands => ⟨{}⟩

def codec : (kind : ValueKind) → ValueCodec kind.Value
  | uint8 => .ofItems (fun value ↦ [.u8 value]) [.pull8 fun _ value ↦ value] (fun _ ↦ True)
    fun _ _ ↦ rfl
  | uint16 => .ofItems (fun value ↦ [.u16 value]) [.pull16 fun _ value ↦ value] (fun _ ↦ True)
    fun _ _ ↦ rfl
  | uint32 => .ofItems (fun value ↦ [.u32 value]) [.pull32 fun _ value ↦ value] (fun _ ↦ True)
    fun _ _ ↦ rfl
  | ipv4Address => address nfapiIpv4AddressLength
  | ipv6Address => address nfapiIpv6AddressLength
  | rfBands => bands nfapiMaxNumRfBands
  | nmmFrequencyBands => bands nfapiMaxNmmFrequencyBands

/-- A list of bands has as many elements as are counted. -/
def Sound : (kind : ValueKind) → kind.Value → Prop
  | rfBands, value | nmmFrequencyBands, value => value.items.length = value.number.toNat
  | _, _ => True

theorem returns (kind : ValueKind) (value : kind.Value) : kind.codec.Returns value := by
  cases kind with
  | _ => trivial

end ValueKind

theorem bands_fits_or_fails {maxLen limit : ℕ} {value : Counted UInt16}
    (hsound : value.items.length = value.number.toNat) :
    (bands maxLen).Fits value ∨ Fails ((bands maxLen).pack limit value) := by
  by_cases hmax : value.number.toNat ≤ maxLen
  · exact .inl ⟨hsound, hmax, fun _ _ ↦ trivial⟩
  · refine .inr (Fails.after fun _ ↦ Fails.bind ?_)
    show Fails (Push.pusharray16 value.items maxLen value.number.toNat limit)
    unfold Push.pusharray16
    rw [if_neg (by omega)]
    exact (fails_ensure hmax).bind

/-- A list that is too long is not packed. -/
theorem ValueKind.fits_or_fails (kind : ValueKind) {value : kind.Value} (hsound : kind.Sound value)
    (limit : ℕ) : kind.codec.Fits value ∨ Fails (kind.codec.pack limit value) := by
  cases kind with
  | rfBands => exact bands_fits_or_fails hsound
  | nmmFrequencyBands => exact bands_fits_or_fails hsound
  | _ => exact .inl trivial

/-- A tagged field of the LTE PARAM.response or CONFIG.request, by its structure and its member. -/
inductive LteField where
  | l1StatusPhyState
  | phyCapabilitiesDlBandwidthSupport | phyCapabilitiesUlBandwidthSupport
  | phyCapabilitiesDlModulationSupport | phyCapabilitiesUlModulationSupport
  | phyCapabilitiesPhyAntennaCapability | phyCapabilitiesReleaseCapability
  | phyCapabilitiesMbsfnCapability
  | laaCapabilityLaaSupport | laaCapabilityPdSensingLbtSupport
  | laaCapabilityMultiCarrierLbtSupport | laaCapabilityPartialSfSupport
  | subframeConfigDuplexMode | subframeConfigPcfichPowerOffset | subframeConfigPb
  | subframeConfigDlCyclicPrefixType | subframeConfigUlCyclicPrefixType
  | rfConfigDlChannelBandwidth | rfConfigUlChannelBandwidth | rfConfigReferenceSignalPower
  | rfConfigTxAntennaPorts | rfConfigRxAntennaPorts
  | phichConfigPhichResource | phichConfigPhichDuration | phichConfigPhichPowerOffset
  | schConfigPrimarySynchronizationSignalEpreEprers
  | schConfigSecondarySynchronizationSignalEpreEprers | schConfigPhysicalCellId
  | prachConfigConfigurationIndex | prachConfigRootSequenceIndex
  | prachConfigZeroCorrelationZoneConfiguration | prachConfigHighSpeedFlag
  | prachConfigFrequencyOffset
  | puschConfigHoppingMode | puschConfigHoppingOffset | puschConfigNumberOfSubbands
  | pucchConfigDeltaPucchShift | pucchConfigNCqiRb | pucchConfigNAnCs | pucchConfigN1PucchAn
  | srsConfigBandwidthConfiguration | srsConfigMaxUpPts | srsConfigSrsSubframeConfiguration
  | srsConfigSrsAcknackSrsSimultaneousTransmission
  | uplinkReferenceSignalConfigUplinkRsHopping | uplinkReferenceSignalConfigGroupAssignment
  | uplinkReferenceSignalConfigCyclicShift1ForDrms
  | laaConfigEdThresholdLbtPdsch | laaConfigEdThresholdLbtDrs | laaConfigPdThreshold
  | laaConfigMultiCarrierType | laaConfigMultiCarrierTx | laaConfigMultiCarrierFreeze
  | laaConfigTxAntennaPortsDrs | laaConfigTxPowerDrs
  | emtcConfigPbchRepetitionsEnableR13 | emtcConfigPrachCatmRootSequenceIndex
  | emtcConfigPrachCatmZeroCorrelationZoneConfiguration | emtcConfigPrachCatmHighSpeedFlag
  | emtcConfigPrachCeLevel0Enable | emtcConfigPrachCeLevel0ConfigurationIndex
  | emtcConfigPrachCeLevel0FrequencyOffset | emtcConfigPrachCeLevel0NumberOfRepetitionsPerAttempt
  | emtcConfigPrachCeLevel0StartingSubframePeriodicity | emtcConfigPrachCeLevel0HoppingEnable
  | emtcConfigPrachCeLevel0HoppingOffset | emtcConfigPrachCeLevel1Enable
  | emtcConfigPrachCeLevel1ConfigurationIndex | emtcConfigPrachCeLevel1FrequencyOffset
  | emtcConfigPrachCeLevel1NumberOfRepetitionsPerAttempt
  | emtcConfigPrachCeLevel1StartingSubframePeriodicity | emtcConfigPrachCeLevel1HoppingEnable
  | emtcConfigPrachCeLevel1HoppingOffset | emtcConfigPrachCeLevel2Enable
  | emtcConfigPrachCeLevel2ConfigurationIndex | emtcConfigPrachCeLevel2FrequencyOffset
  | emtcConfigPrachCeLevel2NumberOfRepetitionsPerAttempt
  | emtcConfigPrachCeLevel2StartingSubframePeriodicity | emtcConfigPrachCeLevel2HoppingEnable
  | emtcConfigPrachCeLevel2HoppingOffset | emtcConfigPrachCeLevel3Enable
  | emtcConfigPrachCeLevel3ConfigurationIndex | emtcConfigPrachCeLevel3FrequencyOffset
  | emtcConfigPrachCeLevel3NumberOfRepetitionsPerAttempt
  | emtcConfigPrachCeLevel3StartingSubframePeriodicity | emtcConfigPrachCeLevel3HoppingEnable
  | emtcConfigPrachCeLevel3HoppingOffset | emtcConfigPucchIntervalUlhoppingconfigcommonmodea
  | emtcConfigPucchIntervalUlhoppingconfigcommonmodeb
  | nbIotConfigOperatingMode | nbIotConfigAnchor | nbIotConfigPrbIndex
  | nbIotConfigControlRegionSize | nbIotConfigAssumedCrsAps | nbIotConfigNprachConfig0Enabled
  | nbIotConfigNprachConfig0SfPeriodicity | nbIotConfigNprachConfig0StartTime
  | nbIotConfigNprachConfig0SubcarrierOffset | nbIotConfigNprachConfig0NumberOfSubcarriers
  | nbIotConfigNprachConfig0CpLength | nbIotConfigNprachConfig0NumberOfRepetitionsPerAttempt
  | nbIotConfigNprachConfig1Enabled | nbIotConfigNprachConfig1SfPeriodicity
  | nbIotConfigNprachConfig1StartTime | nbIotConfigNprachConfig1SubcarrierOffset
  | nbIotConfigNprachConfig1NumberOfSubcarriers | nbIotConfigNprachConfig1CpLength
  | nbIotConfigNprachConfig1NumberOfRepetitionsPerAttempt | nbIotConfigNprachConfig2Enabled
  | nbIotConfigNprachConfig2SfPeriodicity | nbIotConfigNprachConfig2StartTime
  | nbIotConfigNprachConfig2SubcarrierOffset | nbIotConfigNprachConfig2NumberOfSubcarriers
  | nbIotConfigNprachConfig2CpLength | nbIotConfigNprachConfig2NumberOfRepetitionsPerAttempt
  | nbIotConfigThreeToneBaseSequence | nbIotConfigSixToneBaseSequence
  | nbIotConfigTwelveToneBaseSequence | nbIotConfigThreeToneCyclicShift
  | nbIotConfigSixToneCyclicShift | nbIotConfigDlGapConfigEnable | nbIotConfigDlGapThreshold
  | nbIotConfigDlGapPeriodicity | nbIotConfigDlGapDurationCoefficient
  | tddFrameStructureConfigSubframeAssignment | tddFrameStructureConfigSpecialSubframePatterns
  | l23ConfigDataReportMode | l23ConfigSfnsf
  | nfapiConfigP7VnfAddressIpv4 | nfapiConfigP7VnfAddressIpv6 | nfapiConfigP7VnfPort
  | nfapiConfigP7PnfAddressIpv4 | nfapiConfigP7PnfAddressIpv6 | nfapiConfigP7PnfPort
  | nfapiConfigDlUePerSf | nfapiConfigUlUePerSf | nfapiConfigRfBands | nfapiConfigTimingWindow
  | nfapiConfigTimingInfoMode | nfapiConfigTimingInfoPeriod | nfapiConfigMaxTransmitPower
  | nfapiConfigEarfcn | nfapiConfigNmmGsmFrequencyBands | nfapiConfigNmmUmtsFrequencyBands
  | nfapiConfigNmmLteFrequencyBands | nfapiConfigNmmUplinkRssiSupported
  deriving DecidableEq, Repr

namespace LteField

def tag : LteField → UInt16
  | l1StatusPhyState => 0x00FA
  | phyCapabilitiesDlBandwidthSupport => 0x00C8
  | phyCapabilitiesUlBandwidthSupport => 0x00C9
  | phyCapabilitiesDlModulationSupport => 0x00CA
  | phyCapabilitiesUlModulationSupport => 0x00CB
  | phyCapabilitiesPhyAntennaCapability => 0x00CC
  | phyCapabilitiesReleaseCapability => 0x00CD
  | phyCapabilitiesMbsfnCapability => 0x00CE
  | laaCapabilityLaaSupport => 0x00D1
  | laaCapabilityPdSensingLbtSupport => 0x00D2
  | laaCapabilityMultiCarrierLbtSupport => 0x00D3
  | laaCapabilityPartialSfSupport => 0x00D4
  | subframeConfigDuplexMode => 0x0001
  | subframeConfigPcfichPowerOffset => 0x0002
  | subframeConfigPb => 0x0003
  | subframeConfigDlCyclicPrefixType => 0x0004
  | subframeConfigUlCyclicPrefixType => 0x0005
  | rfConfigDlChannelBandwidth => 0x000A
  | rfConfigUlChannelBandwidth => 0x000B
  | rfConfigReferenceSignalPower => 0x000C
  | rfConfigTxAntennaPorts => 0x000D
  | rfConfigRxAntennaPorts => 0x000E
  | phichConfigPhichResource => 0x0014
  | phichConfigPhichDuration => 0x0015
  | phichConfigPhichPowerOffset => 0x0016
  | schConfigPrimarySynchronizationSignalEpreEprers => 0x001E
  | schConfigSecondarySynchronizationSignalEpreEprers => 0x001F
  | schConfigPhysicalCellId => 0x0020
  | prachConfigConfigurationIndex => 0x0028
  | prachConfigRootSequenceIndex => 0x0029
  | prachConfigZeroCorrelationZoneConfiguration => 0x002A
  | prachConfigHighSpeedFlag => 0x002B
  | prachConfigFrequencyOffset => 0x002C
  | puschConfigHoppingMode => 0x0032
  | puschConfigHoppingOffset => 0x0033
  | puschConfigNumberOfSubbands => 0x0034
  | pucchConfigDeltaPucchShift => 0x003C
  | pucchConfigNCqiRb => 0x003D
  | pucchConfigNAnCs => 0x003E
  | pucchConfigN1PucchAn => 0x003F
  | srsConfigBandwidthConfiguration => 0x0046
  | srsConfigMaxUpPts => 0x0047
  | srsConfigSrsSubframeConfiguration => 0x0048
  | srsConfigSrsAcknackSrsSimultaneousTransmission => 0x0049
  | uplinkReferenceSignalConfigUplinkRsHopping => 0x0050
  | uplinkReferenceSignalConfigGroupAssignment => 0x0051
  | uplinkReferenceSignalConfigCyclicShift1ForDrms => 0x0052
  | laaConfigEdThresholdLbtPdsch => 0x0064
  | laaConfigEdThresholdLbtDrs => 0x0065
  | laaConfigPdThreshold => 0x0066
  | laaConfigMultiCarrierType => 0x0067
  | laaConfigMultiCarrierTx => 0x0068
  | laaConfigMultiCarrierFreeze => 0x0069
  | laaConfigTxAntennaPortsDrs => 0x006A
  | laaConfigTxPowerDrs => 0x006B
  | emtcConfigPbchRepetitionsEnableR13 => 0x0078
  | emtcConfigPrachCatmRootSequenceIndex => 0x0079
  | emtcConfigPrachCatmZeroCorrelationZoneConfiguration => 0x007A
  | emtcConfigPrachCatmHighSpeedFlag => 0x007B
  | emtcConfigPrachCeLevel0Enable => 0x007C
  | emtcConfigPrachCeLevel0ConfigurationIndex => 0x007D
  | emtcConfigPrachCeLevel0FrequencyOffset => 0x007E
  | emtcConfigPrachCeLevel0NumberOfRepetitionsPerAttempt => 0x007F
  | emtcConfigPrachCeLevel0StartingSubframePeriodicity => 0x0080
  | emtcConfigPrachCeLevel0HoppingEnable => 0x0081
  | emtcConfigPrachCeLevel0HoppingOffset => 0x0082
  | emtcConfigPrachCeLevel1Enable => 0x0083
  | emtcConfigPrachCeLevel1ConfigurationIndex => 0x0084
  | emtcConfigPrachCeLevel1FrequencyOffset => 0x0085
  | emtcConfigPrachCeLevel1NumberOfRepetitionsPerAttempt => 0x0086
  | emtcConfigPrachCeLevel1StartingSubframePeriodicity => 0x0087
  | emtcConfigPrachCeLevel1HoppingEnable => 0x0088
  | emtcConfigPrachCeLevel1HoppingOffset => 0x0089
  | emtcConfigPrachCeLevel2Enable => 0x008A
  | emtcConfigPrachCeLevel2ConfigurationIndex => 0x008B
  | emtcConfigPrachCeLevel2FrequencyOffset => 0x008C
  | emtcConfigPrachCeLevel2NumberOfRepetitionsPerAttempt => 0x008D
  | emtcConfigPrachCeLevel2StartingSubframePeriodicity => 0x008E
  | emtcConfigPrachCeLevel2HoppingEnable => 0x008F
  | emtcConfigPrachCeLevel2HoppingOffset => 0x0090
  | emtcConfigPrachCeLevel3Enable => 0x0091
  | emtcConfigPrachCeLevel3ConfigurationIndex => 0x0092
  | emtcConfigPrachCeLevel3FrequencyOffset => 0x0093
  | emtcConfigPrachCeLevel3NumberOfRepetitionsPerAttempt => 0x0094
  | emtcConfigPrachCeLevel3StartingSubframePeriodicity => 0x0095
  | emtcConfigPrachCeLevel3HoppingEnable => 0x0096
  | emtcConfigPrachCeLevel3HoppingOffset => 0x0097
  | emtcConfigPucchIntervalUlhoppingconfigcommonmodea => 0x0098
  | emtcConfigPucchIntervalUlhoppingconfigcommonmodeb => 0x0099
  | nbIotConfigOperatingMode => 0x00A5
  | nbIotConfigAnchor => 0x00A6
  | nbIotConfigPrbIndex => 0x00A7
  | nbIotConfigControlRegionSize => 0x00A8
  | nbIotConfigAssumedCrsAps => 0x00A9
  | nbIotConfigNprachConfig0Enabled => 0x00AA
  | nbIotConfigNprachConfig0SfPeriodicity => 0x00AB
  | nbIotConfigNprachConfig0StartTime => 0x00AC
  | nbIotConfigNprachConfig0SubcarrierOffset => 0x00AD
  | nbIotConfigNprachConfig0NumberOfSubcarriers => 0x00AE
  | nbIotConfigNprachConfig0CpLength => 0x00AF
  | nbIotConfigNprachConfig0NumberOfRepetitionsPerAttempt => 0x00B0
  | nbIotConfigNprachConfig1Enabled => 0x00B1
  | nbIotConfigNprachConfig1SfPeriodicity => 0x00B2
  | nbIotConfigNprachConfig1StartTime => 0x00B3
  | nbIotConfigNprachConfig1SubcarrierOffset => 0x00B4
  | nbIotConfigNprachConfig1NumberOfSubcarriers => 0x00B5
  | nbIotConfigNprachConfig1CpLength => 0x00B6
  | nbIotConfigNprachConfig1NumberOfRepetitionsPerAttempt => 0x00B7
  | nbIotConfigNprachConfig2Enabled => 0x00B8
  | nbIotConfigNprachConfig2SfPeriodicity => 0x00B9
  | nbIotConfigNprachConfig2StartTime => 0x00BA
  | nbIotConfigNprachConfig2SubcarrierOffset => 0x00BB
  | nbIotConfigNprachConfig2NumberOfSubcarriers => 0x00BC
  | nbIotConfigNprachConfig2CpLength => 0x00BD
  | nbIotConfigNprachConfig2NumberOfRepetitionsPerAttempt => 0x00BE
  | nbIotConfigThreeToneBaseSequence => 0x00BF
  | nbIotConfigSixToneBaseSequence => 0x00C0
  | nbIotConfigTwelveToneBaseSequence => 0x00C1
  | nbIotConfigThreeToneCyclicShift => 0x00C2
  | nbIotConfigSixToneCyclicShift => 0x00C3
  | nbIotConfigDlGapConfigEnable => 0x00C4
  | nbIotConfigDlGapThreshold => 0x00C5
  | nbIotConfigDlGapPeriodicity => 0x00C6
  | nbIotConfigDlGapDurationCoefficient => 0x00C7
  | tddFrameStructureConfigSubframeAssignment => 0x005A
  | tddFrameStructureConfigSpecialSubframePatterns => 0x005B
  | l23ConfigDataReportMode => 0x00F0
  | l23ConfigSfnsf => 0x00F1
  | nfapiConfigP7VnfAddressIpv4 => 0x0100
  | nfapiConfigP7VnfAddressIpv6 => 0x0101
  | nfapiConfigP7VnfPort => 0x0102
  | nfapiConfigP7PnfAddressIpv4 => 0x0103
  | nfapiConfigP7PnfAddressIpv6 => 0x0104
  | nfapiConfigP7PnfPort => 0x0105
  | nfapiConfigDlUePerSf => 0x010A
  | nfapiConfigUlUePerSf => 0x010B
  | nfapiConfigRfBands => 0x0114
  | nfapiConfigTimingWindow => 0x011E
  | nfapiConfigTimingInfoMode => 0x011F
  | nfapiConfigTimingInfoPeriod => 0x0120
  | nfapiConfigMaxTransmitPower => 0x0128
  | nfapiConfigEarfcn => 0x0129
  | nfapiConfigNmmGsmFrequencyBands => 0x0130
  | nfapiConfigNmmUmtsFrequencyBands => 0x0131
  | nfapiConfigNmmLteFrequencyBands => 0x0132
  | nfapiConfigNmmUplinkRssiSupported => 0x0133

def kind : LteField → ValueKind
  | nfapiConfigDlUePerSf | nfapiConfigUlUePerSf | nfapiConfigTimingWindow
  | nfapiConfigTimingInfoMode | nfapiConfigTimingInfoPeriod
  | nfapiConfigNmmUplinkRssiSupported => .uint8
  | nfapiConfigEarfcn => .uint32
  | nfapiConfigP7VnfAddressIpv4 | nfapiConfigP7PnfAddressIpv4 => .ipv4Address
  | nfapiConfigP7VnfAddressIpv6 | nfapiConfigP7PnfAddressIpv6 => .ipv6Address
  | nfapiConfigRfBands => .rfBands
  | nfapiConfigNmmGsmFrequencyBands | nfapiConfigNmmUmtsFrequencyBands
  | nfapiConfigNmmLteFrequencyBands => .nmmFrequencyBands
  | _ => .uint16

def l1Status : List LteField := [.l1StatusPhyState]

def phyCapabilities : List LteField :=
  [.phyCapabilitiesDlBandwidthSupport, .phyCapabilitiesUlBandwidthSupport,
    .phyCapabilitiesDlModulationSupport, .phyCapabilitiesUlModulationSupport,
    .phyCapabilitiesPhyAntennaCapability, .phyCapabilitiesReleaseCapability,
    .phyCapabilitiesMbsfnCapability]

def laaCapability : List LteField :=
  [.laaCapabilityLaaSupport, .laaCapabilityPdSensingLbtSupport,
    .laaCapabilityMultiCarrierLbtSupport, .laaCapabilityPartialSfSupport]

def subframeConfig : List LteField :=
  [.subframeConfigDuplexMode, .subframeConfigPcfichPowerOffset, .subframeConfigPb,
    .subframeConfigDlCyclicPrefixType, .subframeConfigUlCyclicPrefixType]

def rfConfig : List LteField :=
  [.rfConfigDlChannelBandwidth, .rfConfigUlChannelBandwidth, .rfConfigReferenceSignalPower,
    .rfConfigTxAntennaPorts, .rfConfigRxAntennaPorts]

def phichConfig : List LteField :=
  [.phichConfigPhichResource, .phichConfigPhichDuration, .phichConfigPhichPowerOffset]

def schConfig : List LteField :=
  [.schConfigPrimarySynchronizationSignalEpreEprers,
    .schConfigSecondarySynchronizationSignalEpreEprers, .schConfigPhysicalCellId]

def prachConfig : List LteField :=
  [.prachConfigConfigurationIndex, .prachConfigRootSequenceIndex,
    .prachConfigZeroCorrelationZoneConfiguration, .prachConfigHighSpeedFlag,
    .prachConfigFrequencyOffset]

def puschConfig : List LteField :=
  [.puschConfigHoppingMode, .puschConfigHoppingOffset, .puschConfigNumberOfSubbands]

def pucchConfig : List LteField :=
  [.pucchConfigDeltaPucchShift, .pucchConfigNCqiRb, .pucchConfigNAnCs, .pucchConfigN1PucchAn]

def srsConfig : List LteField :=
  [.srsConfigBandwidthConfiguration, .srsConfigMaxUpPts, .srsConfigSrsSubframeConfiguration,
    .srsConfigSrsAcknackSrsSimultaneousTransmission]

def uplinkReferenceSignalConfig : List LteField :=
  [.uplinkReferenceSignalConfigUplinkRsHopping, .uplinkReferenceSignalConfigGroupAssignment,
    .uplinkReferenceSignalConfigCyclicShift1ForDrms]

def laaConfig : List LteField :=
  [.laaConfigEdThresholdLbtPdsch, .laaConfigEdThresholdLbtDrs, .laaConfigPdThreshold,
    .laaConfigMultiCarrierType, .laaConfigMultiCarrierTx, .laaConfigMultiCarrierFreeze,
    .laaConfigTxAntennaPortsDrs, .laaConfigTxPowerDrs]

def emtcConfig : List LteField :=
  [.emtcConfigPbchRepetitionsEnableR13, .emtcConfigPrachCatmRootSequenceIndex,
    .emtcConfigPrachCatmZeroCorrelationZoneConfiguration, .emtcConfigPrachCatmHighSpeedFlag,
    .emtcConfigPrachCeLevel0Enable, .emtcConfigPrachCeLevel0ConfigurationIndex,
    .emtcConfigPrachCeLevel0FrequencyOffset, .emtcConfigPrachCeLevel0NumberOfRepetitionsPerAttempt,
    .emtcConfigPrachCeLevel0StartingSubframePeriodicity, .emtcConfigPrachCeLevel0HoppingEnable,
    .emtcConfigPrachCeLevel0HoppingOffset, .emtcConfigPrachCeLevel1Enable,
    .emtcConfigPrachCeLevel1ConfigurationIndex, .emtcConfigPrachCeLevel1FrequencyOffset,
    .emtcConfigPrachCeLevel1NumberOfRepetitionsPerAttempt,
    .emtcConfigPrachCeLevel1StartingSubframePeriodicity, .emtcConfigPrachCeLevel1HoppingEnable,
    .emtcConfigPrachCeLevel1HoppingOffset, .emtcConfigPrachCeLevel2Enable,
    .emtcConfigPrachCeLevel2ConfigurationIndex, .emtcConfigPrachCeLevel2FrequencyOffset,
    .emtcConfigPrachCeLevel2NumberOfRepetitionsPerAttempt,
    .emtcConfigPrachCeLevel2StartingSubframePeriodicity, .emtcConfigPrachCeLevel2HoppingEnable,
    .emtcConfigPrachCeLevel2HoppingOffset, .emtcConfigPrachCeLevel3Enable,
    .emtcConfigPrachCeLevel3ConfigurationIndex, .emtcConfigPrachCeLevel3FrequencyOffset,
    .emtcConfigPrachCeLevel3NumberOfRepetitionsPerAttempt,
    .emtcConfigPrachCeLevel3StartingSubframePeriodicity, .emtcConfigPrachCeLevel3HoppingEnable,
    .emtcConfigPrachCeLevel3HoppingOffset, .emtcConfigPucchIntervalUlhoppingconfigcommonmodea,
    .emtcConfigPucchIntervalUlhoppingconfigcommonmodeb]

def nbIotConfig : List LteField :=
  [.nbIotConfigOperatingMode, .nbIotConfigAnchor, .nbIotConfigPrbIndex,
    .nbIotConfigControlRegionSize, .nbIotConfigAssumedCrsAps, .nbIotConfigNprachConfig0Enabled,
    .nbIotConfigNprachConfig0SfPeriodicity, .nbIotConfigNprachConfig0StartTime,
    .nbIotConfigNprachConfig0SubcarrierOffset, .nbIotConfigNprachConfig0NumberOfSubcarriers,
    .nbIotConfigNprachConfig0CpLength, .nbIotConfigNprachConfig0NumberOfRepetitionsPerAttempt,
    .nbIotConfigNprachConfig1Enabled, .nbIotConfigNprachConfig1SfPeriodicity,
    .nbIotConfigNprachConfig1StartTime, .nbIotConfigNprachConfig1SubcarrierOffset,
    .nbIotConfigNprachConfig1NumberOfSubcarriers, .nbIotConfigNprachConfig1CpLength,
    .nbIotConfigNprachConfig1NumberOfRepetitionsPerAttempt, .nbIotConfigNprachConfig2Enabled,
    .nbIotConfigNprachConfig2SfPeriodicity, .nbIotConfigNprachConfig2StartTime,
    .nbIotConfigNprachConfig2SubcarrierOffset, .nbIotConfigNprachConfig2NumberOfSubcarriers,
    .nbIotConfigNprachConfig2CpLength, .nbIotConfigNprachConfig2NumberOfRepetitionsPerAttempt,
    .nbIotConfigThreeToneBaseSequence, .nbIotConfigSixToneBaseSequence,
    .nbIotConfigTwelveToneBaseSequence, .nbIotConfigThreeToneCyclicShift,
    .nbIotConfigSixToneCyclicShift, .nbIotConfigDlGapConfigEnable, .nbIotConfigDlGapThreshold,
    .nbIotConfigDlGapPeriodicity, .nbIotConfigDlGapDurationCoefficient]

def tddFrameStructureConfig : List LteField :=
  [.tddFrameStructureConfigSubframeAssignment, .tddFrameStructureConfigSpecialSubframePatterns]

def l23Config : List LteField := [.l23ConfigDataReportMode, .l23ConfigSfnsf]

def nfapiConfig : List LteField :=
  [.nfapiConfigP7VnfAddressIpv4, .nfapiConfigP7VnfAddressIpv6, .nfapiConfigP7VnfPort,
    .nfapiConfigP7PnfAddressIpv4, .nfapiConfigP7PnfAddressIpv6, .nfapiConfigP7PnfPort,
    .nfapiConfigDlUePerSf, .nfapiConfigUlUePerSf, .nfapiConfigRfBands, .nfapiConfigTimingWindow,
    .nfapiConfigTimingInfoMode, .nfapiConfigTimingInfoPeriod, .nfapiConfigMaxTransmitPower,
    .nfapiConfigEarfcn, .nfapiConfigNmmGsmFrequencyBands, .nfapiConfigNmmUmtsFrequencyBands,
    .nfapiConfigNmmLteFrequencyBands, .nfapiConfigNmmUplinkRssiSupported]

end LteField
/-! ### Structures of fields -/

section Fields

variable {ι V : Type} [DecidableEq ι] {tag : ι → UInt16} {kind : ι → ValueKind}
  {names table : List ι}

/-- A structure that has a field under each name. -/
abbrev Fields (kind : ι → ValueKind) : Type := (name : ι) → Tlv (kind name).Value

/-- The field with its encoder and its decoder. -/
abbrev field (tag : ι → UInt16) (kind : ι → ValueKind) (name : ι) :
    FieldCodec (Tlv (kind name).Value) := tlvCodec (tag name) (kind name).codec

/-- The fields under these names, as an encoder goes through them or a table has them. -/
def fieldParts (tag : ι → UInt16) (kind : ι → ValueKind) (names : List ι) :
    List (TlvPart (Fields kind)) := slots (field tag kind) names

/-- The names are different, they are in the table, and the tags there are different and none of
them is zero. -/
structure Listed (tag : ι → UInt16) (names table : List ι) : Prop where
  nodup : names.Nodup
  subset : ∀ name ∈ names, name ∈ table
  tags : (table.map tag).Nodup
  nonzero : ∀ name ∈ table, 0 ≠ tag name

/-- All lists of bands have as many elements as are counted. -/
def Fields.Sound (record : Fields kind) : Prop := ∀ name, (kind name).Sound (record name).value

/-- The fields of LTE messages under these names. -/
abbrev lteParts (names : List LteField) : List (TlvPart (Fields LteField.kind)) :=
  fieldParts LteField.tag LteField.kind names

variable {record : Fields kind} {config : Option (CodecConfig V)} {extension? : Option V}

theorem yields_push8 {limit : ℕ} (value : UInt8) : Yields limit (Push.push8 limit value) [value] :=
  (inferInstance : Emits limit (Push.push8 limit value) [value]).yields

/-- Fields with a list that is too long are not packed. -/
theorem partsFit_of_not_fails {limit : ℕ} (hsound : record.Sound)
    (hpack : ¬ Fails (packParts limit (fieldParts tag kind names) record)) :
    PartsFit (fieldParts tag kind names) record := by
  intro part hpart htag
  apply Classical.byContradiction
  intro hnot
  apply hpack (fails_forEach hpart _)
  obtain ⟨name, -, rfl⟩ := List.mem_map.mp hpart
  exact fails_packTlv htag (((kind name).fits_or_fails (hsound name) limit).resolve_left hnot)

theorem partsReturn_fields (names : List ι) (record : Fields kind) :
    PartsReturn (fieldParts tag kind names) record := by
  intro part hpart htag
  obtain ⟨name, -, rfl⟩ := List.mem_map.mp hpart
  exact (kind name).returns _

/-- The fields that are carried over are the same on the other side. -/
theorem sameField_arrive {name : ι} (hname : name ∈ names) (htag : 0 ≠ tag name) :
    SameField (tag name) (record name)
      (arriveParts (fieldParts tag kind names) record blank name) := by
  unfold fieldParts
  rw [arriveParts_slots, if_pos hname]
  exact sameField_sent htag _ _

/-- An LTE list decoder that ends behind the fields gets all of them back. -/
theorem unpackTlvList_fields (hlisted : Listed tag names table)
    (hfits : PartsFit (fieldParts tag kind names) record) {mem : Memory} {pos : ℕ}
    (hholds : Holds mem pos (partsBytes (fieldParts tag kind names) record)) :
    unpackTlvList config ((fieldParts tag kind table).map TlvPart.entry)
        (pos + (partsBytes (fieldParts tag kind names) record).length) mem (blank, extension?) pos =
      .ok (true, (arriveParts (fieldParts tag kind names) record blank, extension?),
        pos + (partsBytes (fieldParts tag kind names) record).length) :=
  unpackTlvList_parts (fun _ hpart ↦ find_slot hlisted.tags hlisted.subset hpart) hfits
    (partsReturn_fields names record) (clearParts_slots hlisted.nodup fun _ _ ↦ rfl) hholds

/-- An NR list decoder does as well. -/
theorem unpackNrTlvList_fields (hlisted : Listed tag names table)
    (hfits : PartsFit (fieldParts tag kind names) record) {mem : Memory} {pos : ℕ}
    (hholds : Holds mem pos
      (paddedPartsBytes getTlvPadding (fieldParts tag kind names) record)) :
    unpackNrTlvList config ((fieldParts tag kind table).map TlvPart.entry)
        (pos + (paddedPartsBytes getTlvPadding (fieldParts tag kind names) record).length) mem
        (blank, extension?) pos =
      .ok (true, (arriveParts (fieldParts tag kind names) record blank, extension?),
        pos + (paddedPartsBytes getTlvPadding (fieldParts tag kind names) record).length) :=
  unpackNrTlvList_parts (fun _ hpart ↦ find_slot hlisted.tags hlisted.subset hpart) hfits
    (partsReturn_fields names record) (clearParts_slots hlisted.nodup fun _ _ ↦ rfl) hholds

end Fields

end MultiUeProxy.P5
