import MultiUeProxy.P5.Message
import MultiUeProxy.P5.Pnf

/-!
# The LTE PNF_PARAM.response

`pack_pnf_param_response` and `unpack_pnf_param_response` of `nfapi_p5.c`, with the encoders and
decoders of the eight tagged fields. All fields but the first are counted arrays of structures,
which `packarray` and `unpackarray` go through with an element size given by hand. The sizes are
those of the C structures. `unpack_pnf_phy_rel12_value` gives the size of the whole field in place
of that of an element.

Every message with one PHY at most in that field comes back as it was, and with more PHYs the
decoder stores the second one outside of its array (`pnfParamResponse_intact_iff`).
-/

set_option autoImplicit false
set_option relaxedAutoImplicit false

namespace MultiUeProxy.P5

open Lib.Execution Lib.ByteCursor Lib.ByteWriter Lib.Codec Lib.TlvCodec Lib.InPlace Lib.TaggedParts
  Lib.TlvRecord Message
open Lib.ByteCursor.Pull (Tl)

/-! ### General -/

/-- `NFAPI_PNF_PARAM_GENERAL_LOCATION_LENGTH`. -/
def nfapiPnfParamGeneralLocationLength : ℕ := 16

/-- `NFAPI_PNF_PARAM_GENERAL_OUI_LENGTH`. -/
def nfapiPnfParamGeneralOuiLength : ℕ := 3

/-- `nfapi_pnf_param_general_t`. The list of coordinates is the part of their array that is in
use. -/
structure PnfParamGeneral where
  nfapiSyncMode : UInt8 := 0
  locationMode : UInt8 := 0
  locationCoordinatesLength : UInt16 := 0
  locationCoordinates : List UInt8 := []
  dlConfigTiming : UInt32 := 0
  txTiming : UInt32 := 0
  ulConfigTiming : UInt32 := 0
  hiDci0Timing : UInt32 := 0
  maximumNumberPhys : UInt16 := 0
  maximumTotalBandwidth : UInt16 := 0
  maximumTotalNumberDlLayers : UInt8 := 0
  maximumTotalNumberUlLayers : UInt8 := 0
  sharedBands : UInt8 := 0
  sharedPa : UInt8 := 0
  maximumTotalPower : Int16 := 0
  oui : List UInt8 := [0, 0, 0]
  deriving DecidableEq

instance : Inhabited PnfParamGeneral := ⟨{}⟩

def packPnfParamGeneralValue (value : PnfParamGeneral) : List Item :=
  [.u8 value.nfapiSyncMode, .u8 value.locationMode, .u16 value.locationCoordinatesLength,
    .array8 value.locationCoordinates nfapiPnfParamGeneralLocationLength
      value.locationCoordinatesLength.toNat,
    .u32 value.dlConfigTiming, .u32 value.txTiming, .u32 value.ulConfigTiming,
    .u32 value.hiDci0Timing, .u16 value.maximumNumberPhys, .u16 value.maximumTotalBandwidth,
    .u8 value.maximumTotalNumberDlLayers, .u8 value.maximumTotalNumberUlLayers,
    .u8 value.sharedBands, .u8 value.sharedPa, .u16 value.maximumTotalPower.toUInt16,
    .array8 value.oui nfapiPnfParamGeneralOuiLength nfapiPnfParamGeneralOuiLength]

def unpackPnfParamGeneralValue : List (Step PnfParamGeneral) :=
  [.pull8 fun value nfapiSyncMode ↦ { value with nfapiSyncMode },
    .pull8 fun value locationMode ↦ { value with locationMode },
    .pull16 fun value locationCoordinatesLength ↦ { value with locationCoordinatesLength },
    .pullarray8 nfapiPnfParamGeneralLocationLength (·.locationCoordinatesLength.toNat)
      fun value locationCoordinates ↦ { value with locationCoordinates },
    .pull32 fun value dlConfigTiming ↦ { value with dlConfigTiming },
    .pull32 fun value txTiming ↦ { value with txTiming },
    .pull32 fun value ulConfigTiming ↦ { value with ulConfigTiming },
    .pull32 fun value hiDci0Timing ↦ { value with hiDci0Timing },
    .pull16 fun value maximumNumberPhys ↦ { value with maximumNumberPhys },
    .pull16 fun value maximumTotalBandwidth ↦ { value with maximumTotalBandwidth },
    .pull8 fun value maximumTotalNumberDlLayers ↦ { value with maximumTotalNumberDlLayers },
    .pull8 fun value maximumTotalNumberUlLayers ↦ { value with maximumTotalNumberUlLayers },
    .pull8 fun value sharedBands ↦ { value with sharedBands },
    .pull8 fun value sharedPa ↦ { value with sharedPa },
    .pull16 fun value power ↦ { value with maximumTotalPower := power.toInt16 },
    .pullarray8 nfapiPnfParamGeneralOuiLength (fun _ ↦ nfapiPnfParamGeneralOuiLength)
      fun value oui ↦ { value with oui }]

/-- The lists have as many elements as are counted, and these are not too many. -/
def PnfParamGeneral.Fits (value : PnfParamGeneral) : Prop :=
  value.locationCoordinates.length = value.locationCoordinatesLength.toNat ∧
    value.locationCoordinatesLength.toNat ≤ nfapiPnfParamGeneralLocationLength ∧
    value.oui.length = nfapiPnfParamGeneralOuiLength

def pnfParamGeneral : ValueCodec PnfParamGeneral :=
  .ofItems packPnfParamGeneralValue unpackPnfParamGeneralValue PnfParamGeneral.Fits fun value h ↦ by
    obtain ⟨hlength, hmax, houi⟩ := h
    simp [applySteps, packPnfParamGeneralValue, unpackPnfParamGeneralValue, Step.apply, hlength,
      hmax, houi]

/-! ### Elements of the arrays -/

/-- `nfapi_rf_config_info_t`. -/
structure RfConfigInfo where
  rfConfigIndex : UInt16 := 0
  deriving DecidableEq, Inhabited, Repr

/-- The size of the C structure, as that of each structure below. -/
def rfConfigInfoSize : ℕ := 2

def rfConfigInfo : ValueCodec RfConfigInfo :=
  .ofItems (fun rf ↦ [.u16 rf.rfConfigIndex])
    [.pull16 fun info rfConfigIndex ↦ { info with rfConfigIndex }] (fun _ ↦ True) fun _ _ ↦ rfl

/-- `NFAPI_MAX_PNF_PHY_RF_CONFIG`. -/
def nfapiMaxPnfPhyRfConfig : ℕ := 5

/-- `NFAPI_MAX_PNF_PHY`. -/
def nfapiMaxPnfPhy : ℕ := 5

/-- `NFAPI_MAX_PNF_RF`. -/
def nfapiMaxPnfRf : ℕ := 5

/-- A counted array of RF configurations. -/
def rfConfigInfos : ValueCodec (Counted RfConfigInfo) :=
  rfConfigInfo.counted nfapiMaxPnfPhyRfConfig rfConfigInfoSize rfConfigInfoSize (by decide)

theorem fills_rfConfigInfos {limit : ℕ} {rfs : Counted RfConfigInfo}
    (hfits : rfConfigInfos.Fits rfs) :
    Fills limit (rfConfigInfos.fill limit) default (rfConfigInfos.bytes rfs) rfs :=
  rfConfigInfos.restored rfs limit hfits ⟨.inl rfl, fun _ _ ↦ trivial⟩

/-- The codec of a structure with the index of a PHY, the RF configurations it has, those that it
excludes, and plain numbers. -/
def phyWithRfs {α : Type} [Inhabited α] (index : α → UInt16) (setIndex : α → UInt16 → α)
    (rfs exclusions : α → Counted RfConfigInfo)
    (setRfs setExclusions : α → Counted RfConfigInfo → α)
    (items : α → List Item) (steps : List (Step α))
    (hrfs : ∀ i, rfs (setIndex default i) = default)
    (hexclusions : ∀ i r, exclusions (setRfs (setIndex default i) r) = default)
    (hitems : ∀ phy, ∀ item ∈ items phy, item.Fits)
    (hsteps : ∀ phy, applySteps steps (items phy) (setExclusions (setRfs (setIndex default
      (index phy)) (rfs phy)) (exclusions phy)) = some phy) : ValueCodec α where
  pack limit phy := do
    Push.push16 limit (index phy)
    rfConfigInfos.pack limit (rfs phy)
    rfConfigInfos.pack limit (exclusions phy)
    pushItems limit (items phy)
  fill limit :=
    (Fill.pull (.pull16 limit) setIndex).andThen <|
    (Fill.component rfs setRfs (rfConfigInfos.fill limit)).andThen <|
    (Fill.component exclusions setExclusions (rfConfigInfos.fill limit)).andThen
      (fillSteps limit steps)
  bytes phy := bytes16 (index phy) ++ (rfConfigInfos.bytes (rfs phy) ++
    (rfConfigInfos.bytes (exclusions phy) ++ itemsBytes (items phy)))
  Fits phy := rfConfigInfos.Fits (rfs phy) ∧ rfConfigInfos.Fits (exclusions phy)
  written phy limit hfits := by
    have hpackRfs := rfConfigInfos.written (rfs phy) limit hfits.1
    have hpackExclusions := rfConfigInfos.written (exclusions phy) limit hfits.2
    have hpackItems : Emits limit (pushItems limit (items phy)) (itemsBytes (items phy)) :=
      emits_pushItems (hitems phy)
    infer_instance
  restored phy limit hfits _ := by
    apply (fills_pull (reads_pull16 limit (index phy))).andThen
    apply Fills.andThen
    · apply Fills.component
      rw [hrfs]
      exact fills_rfConfigInfos hfits.1
    apply Fills.andThen
    · apply Fills.component
      rw [hexclusions]
      exact fills_rfConfigInfos hfits.2
    exact fills_fillSteps (hsteps phy)
  within limit := by
    have hfill := rfConfigInfos.within limit
    have hindex : Within limit (Fill.pull (.pull16 limit) setIndex) :=
      within_pull fun _ _ _ _ _ ↦ pull16_le
    infer_instance

/-- `nfapi_pnf_phy_info_t`. -/
structure PnfPhyInfo where
  phyConfigIndex : UInt16 := 0
  rfConfig : Counted RfConfigInfo := {}
  excludedRfConfig : Counted RfConfigInfo := {}
  downlinkChannelBandwidthSupported : UInt16 := 0
  uplinkChannelBandwidthSupported : UInt16 := 0
  numberOfDlLayersSupported : UInt8 := 0
  numberOfUlLayersSupported : UInt8 := 0
  maximum3gppReleaseSupported : UInt16 := 0
  nmmModesSupported : UInt8 := 0
  deriving DecidableEq, Inhabited

def pnfPhyInfoSize : ℕ := 36

/-- What `pack_pnf_phy_info` pushes behind the two arrays. -/
def pnfPhyInfoItems (phy : PnfPhyInfo) : List Item :=
  [.u16 phy.downlinkChannelBandwidthSupported, .u16 phy.uplinkChannelBandwidthSupported,
    .u8 phy.numberOfDlLayersSupported, .u8 phy.numberOfUlLayersSupported,
    .u16 phy.maximum3gppReleaseSupported, .u8 phy.nmmModesSupported]

def pnfPhyInfoSteps : List (Step PnfPhyInfo) :=
  [.pull16 fun phy downlinkChannelBandwidthSupported ↦
      { phy with downlinkChannelBandwidthSupported },
    .pull16 fun phy uplinkChannelBandwidthSupported ↦ { phy with uplinkChannelBandwidthSupported },
    .pull8 fun phy numberOfDlLayersSupported ↦ { phy with numberOfDlLayersSupported },
    .pull8 fun phy numberOfUlLayersSupported ↦ { phy with numberOfUlLayersSupported },
    .pull16 fun phy maximum3gppReleaseSupported ↦ { phy with maximum3gppReleaseSupported },
    .pull8 fun phy nmmModesSupported ↦ { phy with nmmModesSupported }]

def pnfPhyInfo : ValueCodec PnfPhyInfo :=
  phyWithRfs (·.phyConfigIndex) (fun phy phyConfigIndex ↦ { phy with phyConfigIndex })
    (·.rfConfig) (·.excludedRfConfig) (fun phy rfConfig ↦ { phy with rfConfig })
    (fun phy excludedRfConfig ↦ { phy with excludedRfConfig }) pnfPhyInfoItems
    pnfPhyInfoSteps (fun _ ↦ rfl) (fun _ _ ↦ rfl)
    (fun _ ↦ by unfold pnfPhyInfoItems; simp [Item.Fits]) fun _ ↦ rfl

/-- `nfapi_pnf_phy_rel13_nb_iot_info_t`. -/
structure PnfPhyRel13NbIotInfo where
  phyConfigIndex : UInt16 := 0
  rfConfig : Counted RfConfigInfo := {}
  excludedRfConfig : Counted RfConfigInfo := {}
  numberOfDlLayersSupported : UInt8 := 0
  numberOfUlLayersSupported : UInt8 := 0
  maximum3gppReleaseSupported : UInt16 := 0
  nmmModesSupported : UInt8 := 0
  deriving DecidableEq, Inhabited

def pnfPhyRel13NbIotInfoSize : ℕ := 32

/-- What `pack_pnf_phy_rel13_nb_iot_info` pushes behind the two arrays. -/
def pnfPhyRel13NbIotInfoItems (phy : PnfPhyRel13NbIotInfo) : List Item :=
  [.u8 phy.numberOfDlLayersSupported, .u8 phy.numberOfUlLayersSupported,
    .u16 phy.maximum3gppReleaseSupported, .u8 phy.nmmModesSupported]

def pnfPhyRel13NbIotInfoSteps : List (Step PnfPhyRel13NbIotInfo) :=
  [.pull8 fun phy numberOfDlLayersSupported ↦ { phy with numberOfDlLayersSupported },
    .pull8 fun phy numberOfUlLayersSupported ↦ { phy with numberOfUlLayersSupported },
    .pull16 fun phy maximum3gppReleaseSupported ↦ { phy with maximum3gppReleaseSupported },
    .pull8 fun phy nmmModesSupported ↦ { phy with nmmModesSupported }]

def pnfPhyRel13NbIotInfo : ValueCodec PnfPhyRel13NbIotInfo :=
  phyWithRfs (·.phyConfigIndex) (fun phy phyConfigIndex ↦ { phy with phyConfigIndex })
    (·.rfConfig) (·.excludedRfConfig) (fun phy rfConfig ↦ { phy with rfConfig })
    (fun phy excludedRfConfig ↦ { phy with excludedRfConfig }) pnfPhyRel13NbIotInfoItems
    pnfPhyRel13NbIotInfoSteps (fun _ ↦ rfl) (fun _ _ ↦ rfl)
    (fun _ ↦ by unfold pnfPhyRel13NbIotInfoItems; simp [Item.Fits]) fun _ ↦ rfl

/-- `nfapi_pnf_rf_info_t`. -/
structure PnfRfInfo where
  rfConfigIndex : UInt16 := 0
  band : UInt16 := 0
  maximumTransmitPower : Int16 := 0
  minimumTransmitPower : Int16 := 0
  numberOfAntennasSuppported : UInt8 := 0
  minimumDownlinkFrequency : UInt32 := 0
  maximumDownlinkFrequency : UInt32 := 0
  minimumUplinkFrequency : UInt32 := 0
  maximumUplinkFrequency : UInt32 := 0
  deriving DecidableEq, Inhabited

def pnfRfInfoSize : ℕ := 28

def pnfRfInfo : ValueCodec PnfRfInfo :=
  .ofItems
    (fun rf ↦ [.u16 rf.rfConfigIndex, .u16 rf.band, .u16 rf.maximumTransmitPower.toUInt16,
      .u16 rf.minimumTransmitPower.toUInt16, .u8 rf.numberOfAntennasSuppported,
      .u32 rf.minimumDownlinkFrequency, .u32 rf.maximumDownlinkFrequency,
      .u32 rf.minimumUplinkFrequency, .u32 rf.maximumUplinkFrequency])
    [.pull16 fun rf rfConfigIndex ↦ { rf with rfConfigIndex },
      .pull16 fun rf band ↦ { rf with band },
      .pull16 fun rf power ↦ { rf with maximumTransmitPower := power.toInt16 },
      .pull16 fun rf power ↦ { rf with minimumTransmitPower := power.toInt16 },
      .pull8 fun rf numberOfAntennasSuppported ↦ { rf with numberOfAntennasSuppported },
      .pull32 fun rf minimumDownlinkFrequency ↦ { rf with minimumDownlinkFrequency },
      .pull32 fun rf maximumDownlinkFrequency ↦ { rf with maximumDownlinkFrequency },
      .pull32 fun rf minimumUplinkFrequency ↦ { rf with minimumUplinkFrequency },
      .pull32 fun rf maximumUplinkFrequency ↦ { rf with maximumUplinkFrequency }]
    (fun _ ↦ True) fun _ _ ↦ rfl

/-- `nfapi_pnf_phy_rel10_info_t`. -/
structure PnfPhyRel10Info where
  phyConfigIndex : UInt16 := 0
  transmissionMode7Supported : UInt16 := 0
  transmissionMode8Supported : UInt16 := 0
  twoAntennaPortsForPucch : UInt16 := 0
  transmissionMode9Supported : UInt16 := 0
  simultaneousPucchPusch : UInt16 := 0
  fourLayerTxWithTm3AndTm4 : UInt16 := 0
  deriving DecidableEq, Inhabited

def pnfPhyRel10InfoSize : ℕ := 14

def pnfPhyRel10Info : ValueCodec PnfPhyRel10Info :=
  .ofItems
    (fun phy ↦ [.u16 phy.phyConfigIndex, .u16 phy.transmissionMode7Supported,
      .u16 phy.transmissionMode8Supported, .u16 phy.twoAntennaPortsForPucch,
      .u16 phy.transmissionMode9Supported, .u16 phy.simultaneousPucchPusch,
      .u16 phy.fourLayerTxWithTm3AndTm4])
    [.pull16 fun phy phyConfigIndex ↦ { phy with phyConfigIndex },
      .pull16 fun phy transmissionMode7Supported ↦ { phy with transmissionMode7Supported },
      .pull16 fun phy transmissionMode8Supported ↦ { phy with transmissionMode8Supported },
      .pull16 fun phy twoAntennaPortsForPucch ↦ { phy with twoAntennaPortsForPucch },
      .pull16 fun phy transmissionMode9Supported ↦ { phy with transmissionMode9Supported },
      .pull16 fun phy simultaneousPucchPusch ↦ { phy with simultaneousPucchPusch },
      .pull16 fun phy fourLayerTxWithTm3AndTm4 ↦ { phy with fourLayerTxWithTm3AndTm4 }]
    (fun _ ↦ True) fun _ _ ↦ rfl

/-- `nfapi_pnf_phy_rel11_info_t`. -/
structure PnfPhyRel11Info where
  phyConfigIndex : UInt16 := 0
  edpcchSupported : UInt16 := 0
  multiAckCsiReporting : UInt16 := 0
  pucchTxDiversity : UInt16 := 0
  ulCompSupported : UInt16 := 0
  transmissionMode5Supported : UInt16 := 0
  deriving DecidableEq, Inhabited

def pnfPhyRel11InfoSize : ℕ := 12

def pnfPhyRel11Info : ValueCodec PnfPhyRel11Info :=
  .ofItems
    (fun phy ↦ [.u16 phy.phyConfigIndex, .u16 phy.edpcchSupported, .u16 phy.multiAckCsiReporting,
      .u16 phy.pucchTxDiversity, .u16 phy.ulCompSupported, .u16 phy.transmissionMode5Supported])
    [.pull16 fun phy phyConfigIndex ↦ { phy with phyConfigIndex },
      .pull16 fun phy edpcchSupported ↦ { phy with edpcchSupported },
      .pull16 fun phy multiAckCsiReporting ↦ { phy with multiAckCsiReporting },
      .pull16 fun phy pucchTxDiversity ↦ { phy with pucchTxDiversity },
      .pull16 fun phy ulCompSupported ↦ { phy with ulCompSupported },
      .pull16 fun phy transmissionMode5Supported ↦ { phy with transmissionMode5Supported }]
    (fun _ ↦ True) fun _ _ ↦ rfl

/-- `nfapi_pnf_phy_rel12_info_t`. -/
structure PnfPhyRel12Info where
  phyConfigIndex : UInt16 := 0
  csiSubframeSet : UInt16 := 0
  enhanced4txCodebook : UInt16 := 0
  drsSupported : UInt16 := 0
  ul64qamSupported : UInt16 := 0
  transmissionMode10Supported : UInt16 := 0
  alternativeBtsIndices : UInt16 := 0
  deriving DecidableEq, Inhabited

def pnfPhyRel12InfoSize : ℕ := 14

def pnfPhyRel12Info : ValueCodec PnfPhyRel12Info :=
  .ofItems
    (fun phy ↦ [.u16 phy.phyConfigIndex, .u16 phy.csiSubframeSet, .u16 phy.enhanced4txCodebook,
      .u16 phy.drsSupported, .u16 phy.ul64qamSupported, .u16 phy.transmissionMode10Supported,
      .u16 phy.alternativeBtsIndices])
    [.pull16 fun phy phyConfigIndex ↦ { phy with phyConfigIndex },
      .pull16 fun phy csiSubframeSet ↦ { phy with csiSubframeSet },
      .pull16 fun phy enhanced4txCodebook ↦ { phy with enhanced4txCodebook },
      .pull16 fun phy drsSupported ↦ { phy with drsSupported },
      .pull16 fun phy ul64qamSupported ↦ { phy with ul64qamSupported },
      .pull16 fun phy transmissionMode10Supported ↦ { phy with transmissionMode10Supported },
      .pull16 fun phy alternativeBtsIndices ↦ { phy with alternativeBtsIndices }]
    (fun _ ↦ True) fun _ _ ↦ rfl

/-- `nfapi_pnf_phy_rel13_info_t`. -/
structure PnfPhyRel13Info where
  phyConfigIndex : UInt16 := 0
  pucchFormat4Supported : UInt16 := 0
  pucchFormat5Supported : UInt16 := 0
  moreThan5CaSupport : UInt16 := 0
  laaSupported : UInt16 := 0
  laaEndingInDwptsSupported : UInt16 := 0
  laaStartingInSecondSlotSupported : UInt16 := 0
  beamformingSupported : UInt16 := 0
  csiRsEnhancementSupported : UInt16 := 0
  drmsEnhancementSupported : UInt16 := 0
  srsEnhancementSupported : UInt16 := 0
  deriving DecidableEq, Inhabited

def pnfPhyRel13InfoSize : ℕ := 22

def pnfPhyRel13Info : ValueCodec PnfPhyRel13Info :=
  .ofItems
    (fun phy ↦ [.u16 phy.phyConfigIndex, .u16 phy.pucchFormat4Supported,
      .u16 phy.pucchFormat5Supported, .u16 phy.moreThan5CaSupport, .u16 phy.laaSupported,
      .u16 phy.laaEndingInDwptsSupported, .u16 phy.laaStartingInSecondSlotSupported,
      .u16 phy.beamformingSupported, .u16 phy.csiRsEnhancementSupported,
      .u16 phy.drmsEnhancementSupported, .u16 phy.srsEnhancementSupported])
    [.pull16 fun phy phyConfigIndex ↦ { phy with phyConfigIndex },
      .pull16 fun phy pucchFormat4Supported ↦ { phy with pucchFormat4Supported },
      .pull16 fun phy pucchFormat5Supported ↦ { phy with pucchFormat5Supported },
      .pull16 fun phy moreThan5CaSupport ↦ { phy with moreThan5CaSupport },
      .pull16 fun phy laaSupported ↦ { phy with laaSupported },
      .pull16 fun phy laaEndingInDwptsSupported ↦ { phy with laaEndingInDwptsSupported },
      .pull16 fun phy laaStartingInSecondSlotSupported ↦
        { phy with laaStartingInSecondSlotSupported },
      .pull16 fun phy beamformingSupported ↦ { phy with beamformingSupported },
      .pull16 fun phy csiRsEnhancementSupported ↦ { phy with csiRsEnhancementSupported },
      .pull16 fun phy drmsEnhancementSupported ↦ { phy with drmsEnhancementSupported },
      .pull16 fun phy srsEnhancementSupported ↦ { phy with srsEnhancementSupported }]
    (fun _ ↦ True) fun _ _ ↦ rfl

/-! ### The message -/

def nfapiPnfParamGeneralTag : UInt16 := 0x1000
def nfapiPnfPhyTag : UInt16 := 0x1001
def nfapiPnfRfTag : UInt16 := 0x1002
def nfapiPnfPhyRel10Tag : UInt16 := 0x100A
def nfapiPnfPhyRel11Tag : UInt16 := 0x100B
def nfapiPnfPhyRel12Tag : UInt16 := 0x100C
def nfapiPnfPhyRel13Tag : UInt16 := 0x100D
def nfapiPnfPhyRel13NbIotTag : UInt16 := 0x100E

/-- The tagged fields of `nfapi_pnf_param_response_t` that its encoder and its decoder know. -/
structure PnfParamFields where
  pnfParamGeneral : Tlv PnfParamGeneral := Tagged.absent
  pnfPhy : Tlv (Counted PnfPhyInfo) := Tagged.absent
  pnfRf : Tlv (Counted PnfRfInfo) := Tagged.absent
  pnfPhyRel10 : Tlv (Counted PnfPhyRel10Info) := Tagged.absent
  pnfPhyRel11 : Tlv (Counted PnfPhyRel11Info) := Tagged.absent
  pnfPhyRel12 : Tlv (Counted PnfPhyRel12Info) := Tagged.absent
  pnfPhyRel13 : Tlv (Counted PnfPhyRel13Info) := Tagged.absent
  pnfPhyRel13NbIot : Tlv (Counted PnfPhyRel13NbIotInfo) := Tagged.absent

/-- The codec of a counted array of PHYs. -/
def phys {α : Type} [Inhabited α] (info : ValueCodec α) (stride width : ℕ) (hwidth : 0 < width) :
    ValueCodec (Counted α) :=
  info.counted nfapiMaxPnfPhy stride width hwidth

/-- `pack_pnf_rf_value` does not compare the number of RFs with the length of their array. -/
def pnfRfs : ValueCodec (Counted PnfRfInfo) :=
  let checked := pnfRfInfo.counted nfapiMaxPnfRf pnfRfInfoSize pnfRfInfoSize (by decide)
  { checked with
    pack := fun limit value ↦ do
      Push.push16 limit value.number
      packElements value.number.toNat (pnfRfInfo.pack limit) value.items
    written := fun value limit hfits ↦ by
      have hitems := @emits_packElements PnfRfInfo limit _ (pnfRfInfo.pack limit)
        pnfRfInfo.bytes value.items hfits.1 fun item hitem ↦
          pnfRfInfo.written item limit (hfits.2.2 item hitem)
      exact (inferInstance : Emits limit (do
        Push.push16 limit value.number
        packElements value.number.toNat (pnfRfInfo.pack limit) value.items) _) }

/-- `sizeof(nfapi_pnf_phy_rel12_t)`, which `unpack_pnf_phy_rel12_value` takes for the size of an
element: tag, length, the number of PHYs and five of them. -/
def pnfPhyRel12Size : ℕ := 4 + 2 + nfapiMaxPnfPhy * pnfPhyRel12InfoSize

def pnfPhyRel12s : ValueCodec (Counted PnfPhyRel12Info) :=
  phys pnfPhyRel12Info pnfPhyRel12Size pnfPhyRel12InfoSize (by decide)

/-- The parts of the message up to and behind the one for release 12. -/
def pnfParamFront : List (TlvPart PnfParamFields) :=
  [.of (tlvCodec nfapiPnfParamGeneralTag pnfParamGeneral) (·.pnfParamGeneral)
      fun fields pnfParamGeneral ↦ { fields with pnfParamGeneral },
    .of (tlvCodec nfapiPnfPhyTag (phys pnfPhyInfo pnfPhyInfoSize pnfPhyInfoSize (by decide)))
      (·.pnfPhy) fun fields pnfPhy ↦ { fields with pnfPhy },
    .of (tlvCodec nfapiPnfRfTag pnfRfs) (·.pnfRf) fun fields pnfRf ↦ { fields with pnfRf },
    .of (tlvCodec nfapiPnfPhyRel10Tag
        (phys pnfPhyRel10Info pnfPhyRel10InfoSize pnfPhyRel10InfoSize (by decide)))
      (·.pnfPhyRel10) fun fields pnfPhyRel10 ↦ { fields with pnfPhyRel10 },
    .of (tlvCodec nfapiPnfPhyRel11Tag
        (phys pnfPhyRel11Info pnfPhyRel11InfoSize pnfPhyRel11InfoSize (by decide)))
      (·.pnfPhyRel11) fun fields pnfPhyRel11 ↦ { fields with pnfPhyRel11 }]

def pnfParamRel12 : TlvPart PnfParamFields :=
  .of (tlvCodec nfapiPnfPhyRel12Tag pnfPhyRel12s) (·.pnfPhyRel12)
    fun fields pnfPhyRel12 ↦ { fields with pnfPhyRel12 }

def pnfParamBack : List (TlvPart PnfParamFields) :=
  [.of (tlvCodec nfapiPnfPhyRel13Tag
        (phys pnfPhyRel13Info pnfPhyRel13InfoSize pnfPhyRel13InfoSize (by decide)))
      (·.pnfPhyRel13) fun fields pnfPhyRel13 ↦ { fields with pnfPhyRel13 },
    .of (tlvCodec nfapiPnfPhyRel13NbIotTag (phys pnfPhyRel13NbIotInfo pnfPhyRel13NbIotInfoSize
        pnfPhyRel13NbIotInfoSize (by decide)))
      (·.pnfPhyRel13NbIot) fun fields pnfPhyRel13NbIot ↦ { fields with pnfPhyRel13NbIot }]

def pnfParamParts : List (TlvPart PnfParamFields) :=
  pnfParamFront ++ pnfParamRel12 :: pnfParamBack

/-- `nfapi_pnf_param_response_t`. -/
structure PnfParamResponse (V : Type) where
  errorCode : UInt32
  fields : PnfParamFields
  vendorExtension : Option V

/-- `pack_pnf_param_response`. -/
def packPnfParamResponse {V : Type} [Tagged V] (config : Option (CodecConfig V)) (limit : ℕ)
    (response : PnfParamResponse V) : Push Unit := do
  Push.push32 limit response.errorCode
  packParts limit pnfParamParts response.fields
  packVendorExtensionTlv config limit response.vendorExtension

/-- `unpack_pnf_param_response`. -/
def unpackPnfParamResponse {V : Type} (config : Option (CodecConfig V)) (limit : ℕ) :
    Pull (PnfParamResponse V) := do
  let errorCode ← Pull.pull32 limit
  let (fields, vendorExtension) ←
    (unpackTlvList config (pnfParamParts.map TlvPart.entry) limit).toPull ({}, none)
  return { errorCode, fields, vendorExtension }

/-- `nfapi_p5_message_unpack` for this message. -/
def unpackPnfParamResponseMessage {V : Type} (config : Option (CodecConfig V)) (mem : Memory)
    (length : ℕ) : Outcome (Option (PnfParamResponse V)) :=
  messageUnpack (caseOf nfapiPnfParamResponse (unpackPnfParamResponse config)) mem length

/-! ### There and back -/

/-- Each field is there on both sides or on none, with the same value. -/
structure PnfParamFields.Same (sent received : PnfParamFields) : Prop where
  pnfParamGeneral : SameField nfapiPnfParamGeneralTag sent.pnfParamGeneral received.pnfParamGeneral
  pnfPhy : SameField nfapiPnfPhyTag sent.pnfPhy received.pnfPhy
  pnfRf : SameField nfapiPnfRfTag sent.pnfRf received.pnfRf
  pnfPhyRel10 : SameField nfapiPnfPhyRel10Tag sent.pnfPhyRel10 received.pnfPhyRel10
  pnfPhyRel11 : SameField nfapiPnfPhyRel11Tag sent.pnfPhyRel11 received.pnfPhyRel11
  pnfPhyRel12 : SameField nfapiPnfPhyRel12Tag sent.pnfPhyRel12 received.pnfPhyRel12
  pnfPhyRel13 : SameField nfapiPnfPhyRel13Tag sent.pnfPhyRel13 received.pnfPhyRel13
  pnfPhyRel13NbIot :
    SameField nfapiPnfPhyRel13NbIotTag sent.pnfPhyRel13NbIot received.pnfPhyRel13NbIot

/-- The packed message is accepted, and what is unpacked is the response. A decoder that stores an
entry outside of its array does not return. -/
def PnfParamIntact {V : Type} (config : Option (CodecConfig V)) (response : PnfParamResponse V)
    (packed : List UInt8) : Prop :=
  ∃ received, unpackPnfParamResponseMessage config (memoryOf packed) packed.length =
      .ok (some received) ∧
    received.errorCode = response.errorCode ∧ response.fields.Same received.fields

/-- The number of PHYs in the field for release 12, if it is there, is one at most. -/
def OnePhyRel12 (fields : PnfParamFields) : Prop :=
  fields.pnfPhyRel12.tl.tag = nfapiPnfPhyRel12Tag → fields.pnfPhyRel12.value.number.toNat ≤ 1

section RoundTrip

variable {V : Type} [Tagged V] {config : Option (CodecConfig V)} {limit : ℕ}
  {header : P5MessageHeader} {response : PnfParamResponse V} {packed : List UInt8}

theorem emits_packPnfParamResponse (hextension : response.vendorExtension = none)
    (hfits : PartsFit pnfParamParts response.fields) :
    Emits limit (packPnfParamResponse config limit response)
      (bytes32 response.errorCode ++ (partsBytes pnfParamParts response.fields ++ [])) := by
  have hparts := @emits_packParts _ pnfParamParts response.fields limit hfits
  have hnone : Emits limit (packVendorExtensionTlv config limit response.vendorExtension) [] := by
    rw [hextension]
    exact (inferInstance : Emits limit (pure ()) [])
  unfold packPnfParamResponse
  infer_instance

/-- The elements of all other arrays are where the decoder looks for them. -/
theorem partsReturn_pnfParamFront (fields : PnfParamFields) : PartsReturn pnfParamFront fields := by
  unfold pnfParamFront
  simp only [partsReturn_cons]
  have hall {α : Type} {items : List α} : ∀ item ∈ items, True := fun _ _ ↦ trivial
  exact ⟨fun _ ↦ trivial, fun _ ↦ ⟨.inl rfl, hall⟩, fun _ ↦ ⟨.inl rfl, hall⟩,
    fun _ ↦ ⟨.inl rfl, hall⟩, fun _ ↦ ⟨.inl rfl, hall⟩, fun _ h ↦ absurd h List.not_mem_nil⟩

theorem partsReturn_pnfParam {fields : PnfParamFields} (hone : OnePhyRel12 fields) :
    PartsReturn pnfParamParts fields := by
  have hall {α : Type} {items : List α} : ∀ item ∈ items, True := fun _ _ ↦ trivial
  apply partsReturn_append.mpr
  refine ⟨partsReturn_pnfParamFront fields, ?_⟩
  apply partsReturn_cons.mpr
  refine ⟨fun htag ↦ ⟨.inr (hone htag), hall⟩, ?_⟩
  unfold pnfParamBack
  simp only [partsReturn_cons]
  exact ⟨fun _ ↦ ⟨.inl rfl, hall⟩, fun _ ↦ ⟨.inl rfl, hall⟩,
    fun _ h ↦ absurd h List.not_mem_nil⟩

theorem nodup_pnfParamParts : (pnfParamParts.map TlvPart.tag).Nodup := by
  decide

theorem same_arrive (fields : PnfParamFields) :
    fields.Same (arriveParts pnfParamParts fields {}) where
  pnfParamGeneral := sameField_sent (by decide) _ _
  pnfPhy := sameField_sent (by decide) _ _
  pnfRf := sameField_sent (by decide) _ _
  pnfPhyRel10 := sameField_sent (by decide) _ _
  pnfPhyRel11 := sameField_sent (by decide) _ _
  pnfPhyRel12 := sameField_sent (by decide) _ _
  pnfPhyRel13 := sameField_sent (by decide) _ _
  pnfPhyRel13NbIot := sameField_sent (by decide) _ _

theorem clearParts_pnfParam (fields : PnfParamFields) : ClearParts fields pnfParamParts {} :=
  ⟨⟨rfl, rfl⟩, ⟨rfl, rfl⟩, ⟨rfl, rfl⟩, ⟨rfl, rfl⟩, ⟨rfl, rfl⟩, ⟨rfl, rfl⟩, ⟨rfl, rfl⟩, ⟨rfl, rfl⟩,
    trivial⟩

/-- What is unpacked behind the header of a packed message. -/
theorem unpackPnfParamResponse_packed (hid : header.messageId = nfapiPnfParamResponse)
    (hextension : response.vendorExtension = none)
    (hfits : PartsFit pnfParamParts response.fields)
    (hpacked : p5MessagePack (packPnfParamResponse config limit response) limit header =
      .ok (some packed)) :
    ∃ pos, Holds (memoryOf packed) pos (partsBytes pnfParamParts response.fields) ∧
      pos + (partsBytes pnfParamParts response.fields).length = packed.length ∧
      unpackPnfParamResponseMessage config (memoryOf packed) packed.length =
        Pull.run (do
          let (fields, vendorExtension) ← (unpackTlvList config (pnfParamParts.map TlvPart.entry)
            packed.length).toPull ({}, none)
          return { errorCode := response.errorCode, fields, vendorExtension })
          (memoryOf packed) pos := by
  have hyields := (@emits_packPnfParamResponse V _ config limit response hextension hfits).yields
  obtain ⟨hrun, hholds, hlength, -⟩ := messageUnpack_packed hid hyields hpacked
  rw [List.append_nil] at hholds hlength
  rw [holds_append] at hholds
  rw [List.length_append] at hlength
  have hcode := reads_pull32 packed.length response.errorCode _ _ hholds.1 (by omega)
  refine ⟨_, hholds.2, by omega, ?_⟩
  unfold unpackPnfParamResponseMessage
  rw [hrun]
  unfold unpackPnfParamResponse Pull.run
  rw [Pull.bind_of_ok hcode]

theorem pnfParamIntact_of_onePhyRel12 (hid : header.messageId = nfapiPnfParamResponse)
    (hextension : response.vendorExtension = none)
    (hfits : PartsFit pnfParamParts response.fields)
    (hpacked : p5MessagePack (packPnfParamResponse config limit response) limit header =
      .ok (some packed)) (hone : OnePhyRel12 response.fields) :
    PnfParamIntact config response packed := by
  obtain ⟨pos, hholds, hlength, hrun⟩ :=
    unpackPnfParamResponse_packed hid hextension hfits hpacked
  have hlist := @unpackTlvList_parts _ V pnfParamParts pnfParamParts response.fields {} config none
    (fun part hpart ↦ find_entry nodup_pnfParamParts hpart) hfits (partsReturn_pnfParam hone)
    (clearParts_pnfParam _) _ pos hholds
  rw [hlength] at hlist
  refine ⟨⟨response.errorCode, arriveParts pnfParamParts response.fields {}, none⟩, ?_, rfl,
    same_arrive _⟩
  rw [hrun, Pull.run_eq_some]
  exact ⟨_, Pull.bind_of_ok (toPull_eq_ok.mpr hlist)⟩

/-- With a second PHY in the field for release 12, the decoder writes outside of the array. -/
theorem unpackPnfParamResponse_fault (hid : header.messageId = nfapiPnfParamResponse)
    (hextension : response.vendorExtension = none)
    (hfits : PartsFit pnfParamParts response.fields)
    (hpacked : p5MessagePack (packPnfParamResponse config limit response) limit header =
      .ok (some packed)) (hone : ¬ OnePhyRel12 response.fields) :
    unpackPnfParamResponseMessage config (memoryOf packed) packed.length = .error .fault := by
  obtain ⟨pos, hholds, hlength, hrun⟩ :=
    unpackPnfParamResponse_packed hid hextension hfits hpacked
  obtain ⟨htag, htwo⟩ := Classical.not_imp.mp hone
  obtain ⟨hfront, hrest⟩ := partsFit_append.mp hfits
  have hrel12 : Counted.Fits pnfPhyRel12Info.Fits nfapiMaxPnfPhy
    response.fields.pnfPhyRel12.value := hrest pnfParamRel12 List.mem_cons_self htag
  have hsplit : partsBytes pnfParamParts response.fields =
      (partsBytes pnfParamFront response.fields ++
        fieldBytes pnfParamRel12.tag (pnfParamRel12.bytes response.fields)) ++
      partsBytes pnfParamBack response.fields := by
    show partsBytes (pnfParamFront ++ pnfParamRel12 :: pnfParamBack) response.fields = _
    have hpresent : (pnfParamRel12.tl response.fields).tag = pnfParamRel12.tag := htag
    unfold partsBytes
    rw [List.flatMap_append, List.flatMap_cons, tlvBytes_of_tag hpresent, List.append_assoc]
  rw [hsplit, holds_append] at hholds
  rw [hsplit, List.length_append] at hlength
  have hfind (part : TlvPart PnfParamFields) (hpart : part ∈ pnfParamParts) :=
    find_entry nodup_pnfParamParts hpart
  have hcrash : unpackTlvList config (pnfParamParts.map TlvPart.entry) packed.length
      (memoryOf packed) ({}, none) pos = .error .fault := by
    refine unpackTlvList_crash (fun part hpart ↦ hfind part (List.mem_append_left _ hpart)) hfront
      (partsReturn_pnfParamFront _) (clearParts_of_append (clearParts_pnfParam _)).1
      (hfind pnfParamRel12 (List.mem_append_right _ List.mem_cons_self)) hholds.1 (by omega) ?_
    intro next hvalue hroom
    exact TlvPart.of_crash (tlvCodec_crash
      (counted_crash (by decide) (.inl (by decide)) hrel12 (by omega) (fun _ _ ↦ trivial) hvalue
        hroom))
  rw [hrun, Pull.run, Pull.bind_of_error (by unfold Fill.toPull; rw [hcrash])]

/-- A packed response comes back as it was exactly when it has at most one PHY in the field for
release 12. -/
theorem pnfParamResponse_intact_iff (config : Option (CodecConfig V)) (limit : ℕ)
    (header : P5MessageHeader) (response : PnfParamResponse V) (packed : List UInt8)
    (hid : header.messageId = nfapiPnfParamResponse)
    (hextension : response.vendorExtension = none)
    (hfits : PartsFit pnfParamParts response.fields)
    (hpacked : p5MessagePack (packPnfParamResponse config limit response) limit header =
      .ok (some packed)) :
    PnfParamIntact config response packed ↔ OnePhyRel12 response.fields := by
  constructor
  · intro hintact
    apply Classical.byContradiction
    intro hmany
    obtain ⟨received, hunpack, -⟩ := hintact
    rw [unpackPnfParamResponse_fault hid hextension hfits hpacked hmany] at hunpack
    cases hunpack
  · exact pnfParamIntact_of_onePhyRel12 hid hextension hfits hpacked

end RoundTrip

/-- A response with these PHYs in the field for release 12 and nothing else. -/
def rel12Response (number : UInt16) (phys : List PnfPhyRel12Info) :
    PnfParamResponse (Tlv UInt8) where
  errorCode := 0
  fields := { pnfPhyRel12 := ⟨⟨nfapiPnfPhyRel12Tag, 0⟩, ⟨number, phys⟩⟩ }
  vendorExtension := none

theorem fits_rel12Response {number : UInt16} {phys : List PnfPhyRel12Info}
    (hcount : phys.length = number.toNat) (hmax : number.toNat ≤ nfapiMaxPnfPhy) :
    PartsFit pnfParamParts (rel12Response number phys).fields := by
  have hnone : PartsFit [] (rel12Response number phys).fields :=
    fun _ h ↦ absurd h List.not_mem_nil
  have habsent (tag : UInt16) (htag : (0 : UInt16) ≠ tag) {P : Prop} : (0 : UInt16) = tag → P :=
    fun h ↦ absurd h htag
  unfold pnfParamParts pnfParamFront pnfParamBack
  simp only [partsFit_append, partsFit_cons]
  exact ⟨⟨habsent nfapiPnfParamGeneralTag (by decide), habsent nfapiPnfPhyTag (by decide),
    habsent nfapiPnfRfTag (by decide), habsent nfapiPnfPhyRel10Tag (by decide),
    habsent nfapiPnfPhyRel11Tag (by decide), hnone⟩, fun _ ↦ ⟨hcount, hmax, fun _ _ ↦ trivial⟩,
    habsent nfapiPnfPhyRel13Tag (by decide), habsent nfapiPnfPhyRel13NbIotTag (by decide), hnone⟩

/-- One PHY comes back. -/
theorem pnfParamResponse_one_phy : ∃ packed,
    p5MessagePack (packPnfParamResponse none 100 (rel12Response 1 [{ drsSupported := 7 }])) 100
        { messageId := nfapiPnfParamResponse } = .ok (some packed) ∧
      PnfParamIntact none (rel12Response 1 [{ drsSupported := 7 }]) packed :=
  ⟨_, rfl, (pnfParamResponse_intact_iff none 100 { messageId := nfapiPnfParamResponse } _ _ rfl rfl
    (fits_rel12Response rfl (by decide)) rfl).mpr fun _ ↦ Nat.le_refl 1⟩

/-- Two PHYs do not. -/
theorem pnfParamResponse_two_phys : ∃ packed,
    p5MessagePack (packPnfParamResponse none 100 (rel12Response 2 [{}, { drsSupported := 7 }])) 100
        { messageId := nfapiPnfParamResponse } = .ok (some packed) ∧
      PartsFit pnfParamParts (rel12Response 2 [{}, { drsSupported := 7 }]).fields ∧
      ¬ PnfParamIntact none (rel12Response 2 [{}, { drsSupported := 7 }]) packed := by
  have hfits : PartsFit pnfParamParts (rel12Response 2 [{}, { drsSupported := 7 }]).fields :=
    fits_rel12Response rfl (by decide)
  refine ⟨_, rfl, hfits, ?_⟩
  intro hintact
  obtain ⟨received, hunpack, -⟩ := hintact
  have hfault := @unpackPnfParamResponse_fault (Tlv UInt8) _ none 100
    { messageId := nfapiPnfParamResponse } (rel12Response 2 [{}, { drsSupported := 7 }]) _ rfl rfl
    hfits rfl fun hone ↦ absurd (hone rfl) (by decide)
  rw [hfault] at hunpack
  cases hunpack

end MultiUeProxy.P5
