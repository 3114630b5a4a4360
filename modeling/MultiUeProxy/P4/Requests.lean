import Mathlib.Data.Nat.Notation
import MultiUeProxy.Lib.LoopCodec

/-!
# The values of P4 requests

The encoders and decoders of `nfapi_p4.c` for the values of the tagged fields in the requests to
measure, to search and to read system information, for each radio access technology. A value with
one list of numbers is pushed and pulled as a whole, and its decoder compares the count twice: once
itself and once in `pullarray16`. A value with a list of structures is a loop, and only the decoder
compares the count. The decoder of an NB-IoT system information request does so for the
periodicities, but not for the SI indexes of a periodicity.
-/

set_option autoImplicit false
set_option relaxedAutoImplicit false

namespace MultiUeProxy.P4

open Lib.InPlace

/-! ### Declared lengths -/

/-- `NFAPI_MAX_CARRIER_LIST`. -/
def maxCarrierList : ℕ := 32

/-- `NFAPI_MAX_RO_DL`. -/
def maxRoDl : ℕ := 8

/-- `NFAPI_MAX_PCI_LIST`. -/
def maxPciList : ℕ := 32

/-- `NFAPI_MAX_PSC_LIST`. -/
def maxPscList : ℕ := 32

/-- `NFAPI_MAX_ARFCN_LIST`. -/
def maxArfcnList : ℕ := 128

/-- `NFAPI_MAX_SI_PERIODICITY`. -/
def maxSiPeriodicity : ℕ := 8

/-- `NFAPI_MAX_SI_INDEX`. -/
def maxSiIndex : ℕ := 8

/-- The list of a value has as many elements as are counted, and not too many. -/
def Exact {α : Type} (list : List α) (count maxLen : ℕ) : Prop :=
  list.length = count ∧ count ≤ maxLen

/-! ### RSSI -/

/-- `nfapi_lte_rssi_request_t`. -/
structure LteRssiRequest where
  frequencyBandIndicator : UInt8 := 0
  measurementPeriod : UInt16 := 0
  bandwidth : UInt8 := 0
  timeout : UInt32 := 0
  numberOfEarfcns : UInt8 := 0
  earfcn : List UInt16 := []
  deriving DecidableEq, Inhabited, Repr

def packLteRssiRequestValue (value : LteRssiRequest) : List Item :=
  [.u8 value.frequencyBandIndicator, .u16 value.measurementPeriod, .u8 value.bandwidth,
    .u32 value.timeout, .u8 value.numberOfEarfcns,
    .array16 value.earfcn maxCarrierList value.numberOfEarfcns.toNat]

def unpackLteRssiRequestValue : List (Step LteRssiRequest) :=
  [.pull8 fun value frequencyBandIndicator ↦ { value with frequencyBandIndicator },
    .pull16 fun value measurementPeriod ↦ { value with measurementPeriod },
    .pull8 fun value bandwidth ↦ { value with bandwidth },
    .pull32 fun value timeout ↦ { value with timeout },
    .pull8 fun value numberOfEarfcns ↦ { value with numberOfEarfcns },
    .pullarray16 maxCarrierList (·.numberOfEarfcns.toNat) fun value earfcn ↦ { value with earfcn }]

def LteRssiRequest.Fits (value : LteRssiRequest) : Prop :=
  Exact value.earfcn value.numberOfEarfcns.toNat maxCarrierList

def lteRssiRequest : ValueCodec LteRssiRequest :=
  .ofItems packLteRssiRequestValue unpackLteRssiRequestValue LteRssiRequest.Fits fun value h ↦ by
    simp [applySteps, packLteRssiRequestValue, unpackLteRssiRequestValue, Step.apply, h.1, h.2]

/-- `nfapi_utran_rssi_request_t`. -/
structure UtranRssiRequest where
  frequencyBandIndicator : UInt8 := 0
  measurementPeriod : UInt16 := 0
  timeout : UInt32 := 0
  numberOfUarfcns : UInt8 := 0
  uarfcn : List UInt16 := []
  deriving DecidableEq, Inhabited, Repr

def packUtranRssiRequestValue (value : UtranRssiRequest) : List Item :=
  [.u8 value.frequencyBandIndicator, .u16 value.measurementPeriod, .u32 value.timeout,
    .u8 value.numberOfUarfcns,
    .array16 value.uarfcn maxCarrierList value.numberOfUarfcns.toNat]

def unpackUtranRssiRequestValue : List (Step UtranRssiRequest) :=
  [.pull8 fun value frequencyBandIndicator ↦ { value with frequencyBandIndicator },
    .pull16 fun value measurementPeriod ↦ { value with measurementPeriod },
    .pull32 fun value timeout ↦ { value with timeout },
    .pull8 fun value numberOfUarfcns ↦ { value with numberOfUarfcns },
    .pullarray16 maxCarrierList (·.numberOfUarfcns.toNat) fun value uarfcn ↦ { value with uarfcn }]

def UtranRssiRequest.Fits (value : UtranRssiRequest) : Prop :=
  Exact value.uarfcn value.numberOfUarfcns.toNat maxCarrierList

def utranRssiRequest : ValueCodec UtranRssiRequest :=
  .ofItems packUtranRssiRequestValue unpackUtranRssiRequestValue UtranRssiRequest.Fits
    fun value h ↦ by
      simp [applySteps, packUtranRssiRequestValue, unpackUtranRssiRequestValue, Step.apply, h.1,
        h.2]

/-- `nfapi_arfcn_t`. -/
structure Arfcn where
  arfcn : UInt16 := 0
  direction : UInt8 := 0
  deriving DecidableEq, Inhabited, Repr

def unpackArfcn : List (Step Arfcn) :=
  [.pull16 fun value arfcn ↦ { value with arfcn },
    .pull8 fun value direction ↦ { value with direction }]

def arfcn : ValueCodec Arfcn :=
  .ofItems (fun value ↦ [.u16 value.arfcn, .u8 value.direction]) unpackArfcn (fun _ ↦ True)
    fun _ _ ↦ rfl

/-- `nfapi_geran_rssi_request_t`. -/
structure GeranRssiRequest where
  frequencyBandIndicator : UInt8 := 0
  measurementPeriod : UInt16 := 0
  timeout : UInt32 := 0
  numberOfArfcns : UInt8 := 0
  arfcn : List Arfcn := []
  deriving DecidableEq, Inhabited, Repr

/-- `pack_geran_rssi_request_value` and `unpack_geran_rssi_request_value`. -/
def geranRssiRequestShape : LoopShape GeranRssiRequest Arfcn where
  front value := [.u8 value.frequencyBandIndicator, .u16 value.measurementPeriod,
    .u32 value.timeout, .u8 value.numberOfArfcns]
  frontSteps :=
    [.pull8 fun value frequencyBandIndicator ↦ { value with frequencyBandIndicator },
      .pull16 fun value measurementPeriod ↦ { value with measurementPeriod },
      .pull32 fun value timeout ↦ { value with timeout },
      .pull8 fun value numberOfArfcns ↦ { value with numberOfArfcns }]
  count value := value.numberOfArfcns.toNat
  place := ⟨GeranRssiRequest.arfcn, fun value arfcn ↦ { value with arfcn }, fun _ _ ↦ rfl,
    fun _ _ _ ↦ rfl, fun _ ↦ rfl⟩
  maxLen := maxCarrierList

def GeranRssiRequest.Fits (value : GeranRssiRequest) : Prop :=
  Exact value.arfcn value.numberOfArfcns.toNat maxCarrierList

def geranRssiRequest : ValueCodec GeranRssiRequest :=
  .looped geranRssiRequestShape P4.arfcn GeranRssiRequest.Fits
    (fun _ h ↦ ⟨h.1, h.2, _, rfl, rfl, rfl, rfl⟩) fun _ _ _ _ ↦ trivial

/-- An element of a list of bytes. -/
def byteItem : ValueCodec UInt8 :=
  .ofItems (fun value ↦ [.u8 value]) [.pull8 fun _ value ↦ value] (fun _ ↦ True) fun _ _ ↦ rfl

/-- `nfapi_earfcn_t`. -/
structure Earfcn where
  earfcn : UInt16 := 0
  numberOfRoDl : UInt8 := 0
  roDl : List UInt8 := []
  deriving DecidableEq, Inhabited, Repr

def earfcnShape : LoopShape Earfcn UInt8 where
  front value := [.u16 value.earfcn, .u8 value.numberOfRoDl]
  frontSteps := [.pull16 fun value earfcn ↦ { value with earfcn },
    .pull8 fun value numberOfRoDl ↦ { value with numberOfRoDl }]
  count value := value.numberOfRoDl.toNat
  place := ⟨Earfcn.roDl, fun value roDl ↦ { value with roDl }, fun _ _ ↦ rfl, fun _ _ _ ↦ rfl,
    fun _ ↦ rfl⟩
  maxLen := maxRoDl

def Earfcn.Fits (value : Earfcn) : Prop := Exact value.roDl value.numberOfRoDl.toNat maxRoDl

def earfcn : ValueCodec Earfcn :=
  .looped earfcnShape byteItem Earfcn.Fits (fun _ h ↦ ⟨h.1, h.2, _, rfl, rfl, rfl, rfl⟩)
    fun _ _ _ _ ↦ trivial

/-- `nfapi_nb_iot_rssi_request_t`. -/
structure NbIotRssiRequest where
  frequencyBandIndicator : UInt8 := 0
  measurementPeriod : UInt16 := 0
  timeout : UInt32 := 0
  numberOfEarfcns : UInt8 := 0
  earfcn : List Earfcn := []
  deriving DecidableEq, Inhabited, Repr

/-- `pack_nb_iot_rssi_request_value` and `unpack_nb_iot_rssi_request_value`. -/
def nbIotRssiRequestShape : LoopShape NbIotRssiRequest Earfcn where
  front value := [.u8 value.frequencyBandIndicator, .u16 value.measurementPeriod,
    .u32 value.timeout, .u8 value.numberOfEarfcns]
  frontSteps :=
    [.pull8 fun value frequencyBandIndicator ↦ { value with frequencyBandIndicator },
      .pull16 fun value measurementPeriod ↦ { value with measurementPeriod },
      .pull32 fun value timeout ↦ { value with timeout },
      .pull8 fun value numberOfEarfcns ↦ { value with numberOfEarfcns }]
  count value := value.numberOfEarfcns.toNat
  place := ⟨NbIotRssiRequest.earfcn, fun value earfcn ↦ { value with earfcn }, fun _ _ ↦ rfl,
    fun _ _ _ ↦ rfl, fun _ ↦ rfl⟩
  maxLen := maxCarrierList

def NbIotRssiRequest.Fits (value : NbIotRssiRequest) : Prop :=
  Exact value.earfcn value.numberOfEarfcns.toNat maxCarrierList ∧
    ∀ carrier ∈ value.earfcn, carrier.Fits

def nbIotRssiRequest : ValueCodec NbIotRssiRequest :=
  .looped nbIotRssiRequestShape P4.earfcn NbIotRssiRequest.Fits
    (fun _ h ↦ ⟨h.1.1, h.1.2, _, rfl, rfl, rfl, rfl⟩) fun _ h ↦ h.2

/-! ### Cell search -/

/-- `nfapi_lte_cell_search_request_t`. -/
structure LteCellSearchRequest where
  earfcn : UInt16 := 0
  measurementBandwidth : UInt8 := 0
  exhaustiveSearch : UInt8 := 0
  timeout : UInt32 := 0
  numberOfPci : UInt8 := 0
  pci : List UInt16 := []
  deriving DecidableEq, Inhabited, Repr

def packLteCellSearchRequestValue (value : LteCellSearchRequest) : List Item :=
  [.u16 value.earfcn, .u8 value.measurementBandwidth, .u8 value.exhaustiveSearch,
    .u32 value.timeout, .u8 value.numberOfPci,
    .array16 value.pci maxPciList value.numberOfPci.toNat]

def unpackLteCellSearchRequestValue : List (Step LteCellSearchRequest) :=
  [.pull16 fun value earfcn ↦ { value with earfcn },
    .pull8 fun value measurementBandwidth ↦ { value with measurementBandwidth },
    .pull8 fun value exhaustiveSearch ↦ { value with exhaustiveSearch },
    .pull32 fun value timeout ↦ { value with timeout },
    .pull8 fun value numberOfPci ↦ { value with numberOfPci },
    .pullarray16 maxPciList (·.numberOfPci.toNat) fun value pci ↦ { value with pci }]

def LteCellSearchRequest.Fits (value : LteCellSearchRequest) : Prop :=
  Exact value.pci value.numberOfPci.toNat maxPciList

def lteCellSearchRequest : ValueCodec LteCellSearchRequest :=
  .ofItems packLteCellSearchRequestValue unpackLteCellSearchRequestValue LteCellSearchRequest.Fits
    fun value h ↦ by
      simp [applySteps, packLteCellSearchRequestValue, unpackLteCellSearchRequestValue, Step.apply,
        h.1, h.2]

/-- `nfapi_utran_cell_search_request_t`. -/
structure UtranCellSearchRequest where
  uarfcn : UInt16 := 0
  exhaustiveSearch : UInt8 := 0
  timeout : UInt32 := 0
  numberOfPsc : UInt8 := 0
  psc : List UInt16 := []
  deriving DecidableEq, Inhabited, Repr

def packUtranCellSearchRequestValue (value : UtranCellSearchRequest) : List Item :=
  [.u16 value.uarfcn, .u8 value.exhaustiveSearch, .u32 value.timeout, .u8 value.numberOfPsc,
    .array16 value.psc maxPscList value.numberOfPsc.toNat]

def unpackUtranCellSearchRequestValue : List (Step UtranCellSearchRequest) :=
  [.pull16 fun value uarfcn ↦ { value with uarfcn },
    .pull8 fun value exhaustiveSearch ↦ { value with exhaustiveSearch },
    .pull32 fun value timeout ↦ { value with timeout },
    .pull8 fun value numberOfPsc ↦ { value with numberOfPsc },
    .pullarray16 maxPscList (·.numberOfPsc.toNat) fun value psc ↦ { value with psc }]

def UtranCellSearchRequest.Fits (value : UtranCellSearchRequest) : Prop :=
  Exact value.psc value.numberOfPsc.toNat maxPscList

def utranCellSearchRequest : ValueCodec UtranCellSearchRequest :=
  .ofItems packUtranCellSearchRequestValue unpackUtranCellSearchRequestValue
    UtranCellSearchRequest.Fits fun value h ↦ by
      simp [applySteps, packUtranCellSearchRequestValue, unpackUtranCellSearchRequestValue,
        Step.apply, h.1, h.2]

/-- `nfapi_geran_cell_search_request_t`. -/
structure GeranCellSearchRequest where
  timeout : UInt32 := 0
  numberOfArfcn : UInt8 := 0
  arfcn : List UInt16 := []
  deriving DecidableEq, Inhabited, Repr

def packGeranCellSearchRequestValue (value : GeranCellSearchRequest) : List Item :=
  [.u32 value.timeout, .u8 value.numberOfArfcn,
    .array16 value.arfcn maxArfcnList value.numberOfArfcn.toNat]

def unpackGeranCellSearchRequestValue : List (Step GeranCellSearchRequest) :=
  [.pull32 fun value timeout ↦ { value with timeout },
    .pull8 fun value numberOfArfcn ↦ { value with numberOfArfcn },
    .pullarray16 maxArfcnList (·.numberOfArfcn.toNat) fun value arfcn ↦ { value with arfcn }]

def GeranCellSearchRequest.Fits (value : GeranCellSearchRequest) : Prop :=
  Exact value.arfcn value.numberOfArfcn.toNat maxArfcnList

def geranCellSearchRequest : ValueCodec GeranCellSearchRequest :=
  .ofItems packGeranCellSearchRequestValue unpackGeranCellSearchRequestValue
    GeranCellSearchRequest.Fits fun value h ↦ by
      simp [applySteps, packGeranCellSearchRequestValue, unpackGeranCellSearchRequestValue,
        Step.apply, h.1, h.2]

/-- `nfapi_nb_iot_cell_search_request_t`. -/
structure NbIotCellSearchRequest where
  earfcn : UInt16 := 0
  roDl : UInt8 := 0
  exhaustiveSearch : UInt8 := 0
  timeout : UInt32 := 0
  numberOfPci : UInt8 := 0
  pci : List UInt16 := []
  deriving DecidableEq, Inhabited, Repr

def packNbIotCellSearchRequestValue (value : NbIotCellSearchRequest) : List Item :=
  [.u16 value.earfcn, .u8 value.roDl, .u8 value.exhaustiveSearch, .u32 value.timeout,
    .u8 value.numberOfPci, .array16 value.pci maxPciList value.numberOfPci.toNat]

def unpackNbIotCellSearchRequestValue : List (Step NbIotCellSearchRequest) :=
  [.pull16 fun value earfcn ↦ { value with earfcn },
    .pull8 fun value roDl ↦ { value with roDl },
    .pull8 fun value exhaustiveSearch ↦ { value with exhaustiveSearch },
    .pull32 fun value timeout ↦ { value with timeout },
    .pull8 fun value numberOfPci ↦ { value with numberOfPci },
    .pullarray16 maxPciList (·.numberOfPci.toNat) fun value pci ↦ { value with pci }]

def NbIotCellSearchRequest.Fits (value : NbIotCellSearchRequest) : Prop :=
  Exact value.pci value.numberOfPci.toNat maxPciList

def nbIotCellSearchRequest : ValueCodec NbIotCellSearchRequest :=
  .ofItems packNbIotCellSearchRequestValue unpackNbIotCellSearchRequestValue
    NbIotCellSearchRequest.Fits fun value h ↦ by
      simp [applySteps, packNbIotCellSearchRequestValue, unpackNbIotCellSearchRequestValue,
        Step.apply, h.1, h.2]

/-! ### Broadcast detection -/

/-- The LTE and the UTRAN request to detect broadcasts, and the UTRAN request for system information.
UTRAN calls the first two members `uarfcn` and `psc`. -/
structure CellRequest where
  earfcn : UInt16 := 0
  pci : UInt16 := 0
  timeout : UInt32 := 0
  deriving DecidableEq, Inhabited, Repr

def unpackCellRequestValue : List (Step CellRequest) :=
  [.pull16 fun value earfcn ↦ { value with earfcn },
    .pull16 fun value pci ↦ { value with pci },
    .pull32 fun value timeout ↦ { value with timeout }]

def cellRequest : ValueCodec CellRequest :=
  .ofItems (fun value ↦ [.u16 value.earfcn, .u16 value.pci, .u32 value.timeout])
    unpackCellRequestValue (fun _ ↦ True) fun _ _ ↦ rfl

/-- `nfapi_nb_iot_broadcast_detect_request_t`. -/
structure NbIotBroadcastDetectRequest where
  earfcn : UInt16 := 0
  roDl : UInt8 := 0
  pci : UInt16 := 0
  timeout : UInt32 := 0
  deriving DecidableEq, Inhabited, Repr

def unpackNbIotBroadcastDetectRequestValue : List (Step NbIotBroadcastDetectRequest) :=
  [.pull16 fun value earfcn ↦ { value with earfcn },
    .pull8 fun value roDl ↦ { value with roDl },
    .pull16 fun value pci ↦ { value with pci },
    .pull32 fun value timeout ↦ { value with timeout }]

def nbIotBroadcastDetectRequest : ValueCodec NbIotBroadcastDetectRequest :=
  .ofItems (fun value ↦ [.u16 value.earfcn, .u8 value.roDl, .u16 value.pci, .u32 value.timeout])
    unpackNbIotBroadcastDetectRequestValue (fun _ ↦ True) fun _ _ ↦ rfl

/-! ### Schedules of system information -/

/-- `nfapi_lte_system_information_schedule_request_t`. -/
structure LteSystemInformationScheduleRequest where
  earfcn : UInt16 := 0
  pci : UInt16 := 0
  downlinkChannelBandwidth : UInt16 := 0
  phichConfiguration : UInt8 := 0
  numberOfTxAntenna : UInt8 := 0
  retryCount : UInt8 := 0
  timeout : UInt32 := 0
  deriving DecidableEq, Inhabited, Repr

def unpackLteSystemInformationScheduleRequestValue :
    List (Step LteSystemInformationScheduleRequest) :=
  [.pull16 fun value earfcn ↦ { value with earfcn },
    .pull16 fun value pci ↦ { value with pci },
    .pull16 fun value downlinkChannelBandwidth ↦ { value with downlinkChannelBandwidth },
    .pull8 fun value phichConfiguration ↦ { value with phichConfiguration },
    .pull8 fun value numberOfTxAntenna ↦ { value with numberOfTxAntenna },
    .pull8 fun value retryCount ↦ { value with retryCount },
    .pull32 fun value timeout ↦ { value with timeout }]

def lteSystemInformationScheduleRequest : ValueCodec LteSystemInformationScheduleRequest :=
  .ofItems
    (fun value ↦ [.u16 value.earfcn, .u16 value.pci, .u16 value.downlinkChannelBandwidth,
      .u8 value.phichConfiguration, .u8 value.numberOfTxAntenna, .u8 value.retryCount,
      .u32 value.timeout])
    unpackLteSystemInformationScheduleRequestValue (fun _ ↦ True) fun _ _ ↦ rfl

/-- `nfapi_nb_iot_system_information_schedule_request_t`. -/
structure NbIotSystemInformationScheduleRequest where
  earfcn : UInt16 := 0
  roDl : UInt8 := 0
  pci : UInt16 := 0
  schedulingInfoSib1Nb : UInt8 := 0
  timeout : UInt32 := 0
  deriving DecidableEq, Inhabited, Repr

def unpackNbIotSystemInformationScheduleRequestValue :
    List (Step NbIotSystemInformationScheduleRequest) :=
  [.pull16 fun value earfcn ↦ { value with earfcn },
    .pull8 fun value roDl ↦ { value with roDl },
    .pull16 fun value pci ↦ { value with pci },
    .pull8 fun value schedulingInfoSib1Nb ↦ { value with schedulingInfoSib1Nb },
    .pull32 fun value timeout ↦ { value with timeout }]

def nbIotSystemInformationScheduleRequest : ValueCodec NbIotSystemInformationScheduleRequest :=
  .ofItems
    (fun value ↦ [.u16 value.earfcn, .u8 value.roDl, .u16 value.pci,
      .u8 value.schedulingInfoSib1Nb, .u32 value.timeout])
    unpackNbIotSystemInformationScheduleRequestValue (fun _ ↦ True) fun _ _ ↦ rfl

/-! ### System information -/

/-- `nfapi_lte_system_information_si_periodicity_t`. -/
structure LteSiPeriodicity where
  siPeriodicity : UInt8 := 0
  siIndex : UInt8 := 0
  deriving DecidableEq, Inhabited, Repr

def unpackLteSiPeriodicity : List (Step LteSiPeriodicity) :=
  [.pull8 fun value siPeriodicity ↦ { value with siPeriodicity },
    .pull8 fun value siIndex ↦ { value with siIndex }]

def lteSiPeriodicity : ValueCodec LteSiPeriodicity :=
  .ofItems (fun value ↦ [.u8 value.siPeriodicity, .u8 value.siIndex]) unpackLteSiPeriodicity
    (fun _ ↦ True) fun _ _ ↦ rfl

/-- `nfapi_lte_system_information_request_t`. -/
structure LteSystemInformationRequest where
  earfcn : UInt16 := 0
  pci : UInt16 := 0
  downlinkChannelBandwidth : UInt16 := 0
  phichConfiguration : UInt8 := 0
  numberOfTxAntenna : UInt8 := 0
  numberOfSiPeriodicity : UInt8 := 0
  siPeriodicity : List LteSiPeriodicity := []
  siWindowLength : UInt8 := 0
  timeout : UInt32 := 0
  deriving DecidableEq, Inhabited, Repr

/-- `pack_lte_system_information_request_value` and
`unpack_lte_system_information_request_value`. -/
def lteSystemInformationRequestShape : LoopShape LteSystemInformationRequest LteSiPeriodicity where
  front value := [.u16 value.earfcn, .u16 value.pci, .u16 value.downlinkChannelBandwidth,
    .u8 value.phichConfiguration, .u8 value.numberOfTxAntenna, .u8 value.numberOfSiPeriodicity]
  frontSteps :=
    [.pull16 fun value earfcn ↦ { value with earfcn },
      .pull16 fun value pci ↦ { value with pci },
      .pull16 fun value downlinkChannelBandwidth ↦ { value with downlinkChannelBandwidth },
      .pull8 fun value phichConfiguration ↦ { value with phichConfiguration },
      .pull8 fun value numberOfTxAntenna ↦ { value with numberOfTxAntenna },
      .pull8 fun value numberOfSiPeriodicity ↦ { value with numberOfSiPeriodicity }]
  count value := value.numberOfSiPeriodicity.toNat
  place := ⟨LteSystemInformationRequest.siPeriodicity,
    fun value siPeriodicity ↦ { value with siPeriodicity }, fun _ _ ↦ rfl, fun _ _ _ ↦ rfl,
    fun _ ↦ rfl⟩
  maxLen := maxSiPeriodicity
  back value := [.u8 value.siWindowLength, .u32 value.timeout]
  backSteps := [.pull8 fun value siWindowLength ↦ { value with siWindowLength },
    .pull32 fun value timeout ↦ { value with timeout }]

def LteSystemInformationRequest.Fits (value : LteSystemInformationRequest) : Prop :=
  Exact value.siPeriodicity value.numberOfSiPeriodicity.toNat maxSiPeriodicity

def lteSystemInformationRequest : ValueCodec LteSystemInformationRequest :=
  .looped lteSystemInformationRequestShape lteSiPeriodicity LteSystemInformationRequest.Fits
    (fun _ h ↦ ⟨h.1, h.2, _, rfl, rfl, rfl, rfl⟩) fun _ _ _ _ ↦ trivial

/-- `nfapi_geran_system_information_request_t`. -/
structure GeranSystemInformationRequest where
  arfcn : UInt16 := 0
  bsic : UInt8 := 0
  timeout : UInt32 := 0
  deriving DecidableEq, Inhabited, Repr

def unpackGeranSystemInformationRequestValue : List (Step GeranSystemInformationRequest) :=
  [.pull16 fun value arfcn ↦ { value with arfcn },
    .pull8 fun value bsic ↦ { value with bsic },
    .pull32 fun value timeout ↦ { value with timeout }]

def geranSystemInformationRequest : ValueCodec GeranSystemInformationRequest :=
  .ofItems (fun value ↦ [.u16 value.arfcn, .u8 value.bsic, .u32 value.timeout])
    unpackGeranSystemInformationRequestValue (fun _ ↦ True) fun _ _ ↦ rfl

/-- `nfapi_nb_iot_system_information_si_periodicity_t`. -/
structure NbIotSiPeriodicity where
  siPeriodicity : UInt8 := 0
  siRepetitionPattern : UInt8 := 0
  siTbSize : UInt8 := 0
  numberOfSiIndex : UInt8 := 0
  siIndex : List UInt8 := []
  deriving DecidableEq, Inhabited, Repr

/-- The decoder does not compare the number of SI indexes with the size of their array. -/
def nbIotSiPeriodicityShape : LoopShape NbIotSiPeriodicity UInt8 where
  front value := [.u8 value.siPeriodicity, .u8 value.siRepetitionPattern, .u8 value.siTbSize,
    .u8 value.numberOfSiIndex]
  frontSteps :=
    [.pull8 fun value siPeriodicity ↦ { value with siPeriodicity },
      .pull8 fun value siRepetitionPattern ↦ { value with siRepetitionPattern },
      .pull8 fun value siTbSize ↦ { value with siTbSize },
      .pull8 fun value numberOfSiIndex ↦ { value with numberOfSiIndex }]
  count value := value.numberOfSiIndex.toNat
  place := ⟨NbIotSiPeriodicity.siIndex, fun value siIndex ↦ { value with siIndex }, fun _ _ ↦ rfl,
    fun _ _ _ ↦ rfl, fun _ ↦ rfl⟩
  checked := false
  maxLen := maxSiIndex

def NbIotSiPeriodicity.Fits (value : NbIotSiPeriodicity) : Prop :=
  Exact value.siIndex value.numberOfSiIndex.toNat maxSiIndex

def nbIotSiPeriodicity : ValueCodec NbIotSiPeriodicity :=
  .looped nbIotSiPeriodicityShape byteItem NbIotSiPeriodicity.Fits
    (fun _ h ↦ ⟨h.1, h.2, _, rfl, rfl, rfl, rfl⟩) fun _ _ _ _ ↦ trivial

/-- `nfapi_nb_iot_system_information_request_t`. -/
structure NbIotSystemInformationRequest where
  earfcn : UInt16 := 0
  roDl : UInt8 := 0
  pci : UInt16 := 0
  numberOfSiPeriodicity : UInt8 := 0
  siPeriodicity : List NbIotSiPeriodicity := []
  siWindowLength : UInt8 := 0
  timeout : UInt32 := 0
  deriving DecidableEq, Inhabited, Repr

/-- `pack_nb_iot_system_information_request_value` and
`unpack_nb_iot_system_information_request_value`. -/
def nbIotSystemInformationRequestShape :
    LoopShape NbIotSystemInformationRequest NbIotSiPeriodicity where
  front value := [.u16 value.earfcn, .u8 value.roDl, .u16 value.pci,
    .u8 value.numberOfSiPeriodicity]
  frontSteps :=
    [.pull16 fun value earfcn ↦ { value with earfcn },
      .pull8 fun value roDl ↦ { value with roDl },
      .pull16 fun value pci ↦ { value with pci },
      .pull8 fun value numberOfSiPeriodicity ↦ { value with numberOfSiPeriodicity }]
  count value := value.numberOfSiPeriodicity.toNat
  place := ⟨NbIotSystemInformationRequest.siPeriodicity,
    fun value siPeriodicity ↦ { value with siPeriodicity }, fun _ _ ↦ rfl, fun _ _ _ ↦ rfl,
    fun _ ↦ rfl⟩
  maxLen := maxSiPeriodicity
  back value := [.u8 value.siWindowLength, .u32 value.timeout]
  backSteps := [.pull8 fun value siWindowLength ↦ { value with siWindowLength },
    .pull32 fun value timeout ↦ { value with timeout }]

def NbIotSystemInformationRequest.Fits (value : NbIotSystemInformationRequest) : Prop :=
  Exact value.siPeriodicity value.numberOfSiPeriodicity.toNat maxSiPeriodicity ∧
    ∀ periodicity ∈ value.siPeriodicity, periodicity.Fits

def nbIotSystemInformationRequest : ValueCodec NbIotSystemInformationRequest :=
  .looped nbIotSystemInformationRequestShape nbIotSiPeriodicity NbIotSystemInformationRequest.Fits
    (fun _ h ↦ ⟨h.1.1, h.1.2, _, rfl, rfl, rfl, rfl⟩) fun _ h ↦ h.2

end MultiUeProxy.P4
