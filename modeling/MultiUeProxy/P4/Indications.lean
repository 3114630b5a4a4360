import MultiUeProxy.Lib.TlvRecord
import MultiUeProxy.P4.Requests

/-!
# The values of P4 indications

The encoders and decoders of `nfapi_p4.c` for the values of the tagged fields in indications: what
was measured, the cells that were found, and the blocks of system information. A block that the PNF
hands over without saying what is in it has no count of its own on the wire: its decoder takes the
length of the field (`unpackOpaqueDataValue`).
-/

set_option autoImplicit false
set_option relaxedAutoImplicit false

namespace MultiUeProxy.P4

open Lib.ByteCursor Lib.ByteWriter Lib.Codec Lib.TlvCodec Lib.InPlace Lib.TaggedParts Lib.TlvRecord
open Lib.ByteCursor.Pull (Tl)

/-! ### Declared lengths -/

/-- `NFAPI_MAX_RSSI`. -/
def maxRssi : ℕ := 8

/-- `NFAPI_MAX_LTE_CELLS_FOUND`. -/
def maxLteCellsFound : ℕ := 8

/-- `NFAPI_MAX_UTRAN_CELLS_FOUND`. -/
def maxUtranCellsFound : ℕ := 8

/-- `NFAPI_MAX_GSM_CELLS_FOUND`. -/
def maxGsmCellsFound : ℕ := 8

/-- `NFAPI_MAX_NB_IOT_CELLS_FOUND`. -/
def maxNbIotCellsFound : ℕ := 8

/-- `NFAPI_MAX_MIB_LENGTH`. -/
def maxMibLength : ℕ := 32

/-- `NFAPI_MAX_SIB_LENGTH`. -/
def maxSibLength : ℕ := 256

/-- `NFAPI_MAX_SI_LENGTH`. -/
def maxSiLength : ℕ := 256

/-- `NFAPI_MAX_OPAQUE_DATA`. -/
def maxOpaqueData : ℕ := 64

/-! ### Measurements -/

/-- `nfapi_rssi_indication_body_t`. -/
structure RssiIndicationBody where
  numberOfRssi : UInt16 := 0
  rssi : List Int16 := []
  deriving DecidableEq, Inhabited, Repr

def packRssiIndicationBodyValue (value : RssiIndicationBody) : List Item :=
  [.u16 value.numberOfRssi,
    .array16 (value.rssi.map Int16.toUInt16) maxRssi value.numberOfRssi.toNat]

def unpackRssiIndicationValue : List (Step RssiIndicationBody) :=
  [.pull16 fun value numberOfRssi ↦ { value with numberOfRssi },
    .pullarray16 maxRssi (·.numberOfRssi.toNat)
      fun value rssi ↦ { value with rssi := rssi.map UInt16.toInt16 }]

def RssiIndicationBody.Fits (value : RssiIndicationBody) : Prop :=
  Exact value.rssi value.numberOfRssi.toNat maxRssi

def rssiIndicationBody : ValueCodec RssiIndicationBody :=
  .ofItems packRssiIndicationBodyValue unpackRssiIndicationValue RssiIndicationBody.Fits
    fun value h ↦ by
      simp [applySteps, packRssiIndicationBodyValue, unpackRssiIndicationValue, Step.apply, h.1,
        h.2, Function.comp_def]

/-! ### Cells -/

/-- `nfapi_lte_found_cell_t`, `nfapi_utran_found_cell_t` and `nfapi_nb_iot_found_cell_t`. UTRAN calls
the first three members `psc`, `rscp` and `ecno`. -/
structure FoundCell where
  pci : UInt16 := 0
  rsrp : UInt8 := 0
  rsrq : UInt8 := 0
  frequencyOffset : Int16 := 0
  deriving DecidableEq, Inhabited, Repr

def unpackFoundCell : List (Step FoundCell) :=
  [.pull16 fun cell pci ↦ { cell with pci },
    .pull8 fun cell rsrp ↦ { cell with rsrp },
    .pull8 fun cell rsrq ↦ { cell with rsrq },
    .pull16 fun cell offset ↦ { cell with frequencyOffset := offset.toInt16 }]

def foundCell : ValueCodec FoundCell :=
  .ofItems
    (fun cell ↦ [.u16 cell.pci, .u8 cell.rsrp, .u8 cell.rsrq, .u16 cell.frequencyOffset.toUInt16])
    unpackFoundCell (fun _ ↦ True) fun _ _ ↦ rfl

/-- `nfapi_gsm_found_cell_t`. -/
structure GsmFoundCell where
  arfcn : UInt16 := 0
  bsic : UInt8 := 0
  rxlev : UInt8 := 0
  rxqual : UInt8 := 0
  frequencyOffset : Int16 := 0
  sfnOffset : UInt32 := 0
  deriving DecidableEq, Inhabited, Repr

def unpackGsmFoundCell : List (Step GsmFoundCell) :=
  [.pull16 fun cell arfcn ↦ { cell with arfcn },
    .pull8 fun cell bsic ↦ { cell with bsic },
    .pull8 fun cell rxlev ↦ { cell with rxlev },
    .pull8 fun cell rxqual ↦ { cell with rxqual },
    .pull16 fun cell offset ↦ { cell with frequencyOffset := offset.toInt16 },
    .pull32 fun cell sfnOffset ↦ { cell with sfnOffset }]

def gsmFoundCell : ValueCodec GsmFoundCell :=
  .ofItems
    (fun cell ↦ [.u16 cell.arfcn, .u8 cell.bsic, .u8 cell.rxlev, .u8 cell.rxqual,
      .u16 cell.frequencyOffset.toUInt16, .u32 cell.sfnOffset])
    unpackGsmFoundCell (fun _ ↦ True) fun _ _ ↦ rfl

/-- The cells of one technology that were found, with their number. -/
structure CellSearchIndication (Cell : Type) where
  numberOfCellsFound : UInt16 := 0
  foundCells : List Cell := []
  deriving DecidableEq, Inhabited, Repr

section CellSearch

variable {Cell : Type}

/-- What `pack_lte_cell_search_indication_value` and its siblings, and the decoders of their values,
do with the number of cells. -/
def cellSearchIndicationShape (Cell : Type) (maxCellsFound : ℕ) :
    LoopShape (CellSearchIndication Cell) Cell where
  front value := [.u16 value.numberOfCellsFound]
  frontSteps := [.pull16 fun value numberOfCellsFound ↦ { value with numberOfCellsFound }]
  count value := value.numberOfCellsFound.toNat
  place := ⟨CellSearchIndication.foundCells, fun value foundCells ↦ { value with foundCells },
    fun _ _ ↦ rfl, fun _ _ _ ↦ rfl, fun _ ↦ rfl⟩
  maxLen := maxCellsFound

def CellSearchIndication.Fits (maxCellsFound : ℕ) (value : CellSearchIndication Cell) : Prop :=
  Exact value.foundCells value.numberOfCellsFound.toNat maxCellsFound

def cellSearchIndication [Inhabited Cell] (cell : ValueCodec Cell) (hcell : ∀ found, cell.Fits found)
    (maxCellsFound : ℕ) : ValueCodec (CellSearchIndication Cell) :=
  .looped (cellSearchIndicationShape Cell maxCellsFound) cell
    (CellSearchIndication.Fits maxCellsFound) (fun _ h ↦ ⟨h.1, h.2, _, rfl, rfl, rfl, rfl⟩)
    fun _ _ found _ ↦ hcell found

end CellSearch

def lteCellSearchIndication : ValueCodec (CellSearchIndication FoundCell) :=
  cellSearchIndication foundCell (fun _ ↦ trivial) maxLteCellsFound

def utranCellSearchIndication : ValueCodec (CellSearchIndication FoundCell) :=
  cellSearchIndication foundCell (fun _ ↦ trivial) maxUtranCellsFound

def geranCellSearchIndication : ValueCodec (CellSearchIndication GsmFoundCell) :=
  cellSearchIndication gsmFoundCell (fun _ ↦ trivial) maxGsmCellsFound

def nbIotCellSearchIndication : ValueCodec (CellSearchIndication FoundCell) :=
  cellSearchIndication foundCell (fun _ ↦ trivial) maxNbIotCellsFound

/-! ### Blocks of system information -/

/-- `nfapi_lte_broadcast_detect_indication_t` and `nfapi_nb_iot_broadcast_detect_indication_t`. -/
structure BroadcastDetectIndication where
  numberOfTxAntenna : UInt8 := 0
  mibLength : UInt16 := 0
  mib : List UInt8 := []
  sfnOffset : UInt32 := 0
  deriving DecidableEq, Inhabited, Repr

def packBroadcastDetectIndicationValue (value : BroadcastDetectIndication) : List Item :=
  [.u8 value.numberOfTxAntenna, .u16 value.mibLength,
    .array8 value.mib maxMibLength value.mibLength.toNat, .u32 value.sfnOffset]

def unpackBroadcastDetectIndicationValue : List (Step BroadcastDetectIndication) :=
  [.pull8 fun value numberOfTxAntenna ↦ { value with numberOfTxAntenna },
    .pull16 fun value mibLength ↦ { value with mibLength },
    .pullarray8 maxMibLength (·.mibLength.toNat) fun value mib ↦ { value with mib },
    .pull32 fun value sfnOffset ↦ { value with sfnOffset }]

def BroadcastDetectIndication.Fits (value : BroadcastDetectIndication) : Prop :=
  Exact value.mib value.mibLength.toNat maxMibLength

def broadcastDetectIndication : ValueCodec BroadcastDetectIndication :=
  .ofItems packBroadcastDetectIndicationValue unpackBroadcastDetectIndicationValue
    BroadcastDetectIndication.Fits fun value h ↦ by
      simp [applySteps, packBroadcastDetectIndicationValue, unpackBroadcastDetectIndicationValue,
        Step.apply, h.1, h.2]

/-- `nfapi_utran_broadcast_detect_indication_t`. -/
structure UtranBroadcastDetectIndication where
  mibLength : UInt16 := 0
  mib : List UInt8 := []
  sfnOffset : UInt32 := 0
  deriving DecidableEq, Inhabited, Repr

def packUtranBroadcastDetectIndicationValue (value : UtranBroadcastDetectIndication) : List Item :=
  [.u16 value.mibLength, .array8 value.mib maxMibLength value.mibLength.toNat,
    .u32 value.sfnOffset]

def unpackUtranBroadcastDetectIndicationValue : List (Step UtranBroadcastDetectIndication) :=
  [.pull16 fun value mibLength ↦ { value with mibLength },
    .pullarray8 maxMibLength (·.mibLength.toNat) fun value mib ↦ { value with mib },
    .pull32 fun value sfnOffset ↦ { value with sfnOffset }]

def UtranBroadcastDetectIndication.Fits (value : UtranBroadcastDetectIndication) : Prop :=
  Exact value.mib value.mibLength.toNat maxMibLength

def utranBroadcastDetectIndication : ValueCodec UtranBroadcastDetectIndication :=
  .ofItems packUtranBroadcastDetectIndicationValue unpackUtranBroadcastDetectIndicationValue
    UtranBroadcastDetectIndication.Fits fun value h ↦ by
      simp [applySteps, packUtranBroadcastDetectIndicationValue,
        unpackUtranBroadcastDetectIndicationValue, Step.apply, h.1, h.2]

/-- `nfapi_lte_system_information_indication_t` and
`nfapi_nb_iot_system_information_indication_t`. -/
structure SystemInformationIndication where
  sibType : UInt8 := 0
  sibLength : UInt16 := 0
  sib : List UInt8 := []
  deriving DecidableEq, Inhabited, Repr

def packSystemInformationIndicationValue (value : SystemInformationIndication) : List Item :=
  [.u8 value.sibType, .u16 value.sibLength,
    .array8 value.sib maxSibLength value.sibLength.toNat]

def unpackSystemInformationIndicationValue : List (Step SystemInformationIndication) :=
  [.pull8 fun value sibType ↦ { value with sibType },
    .pull16 fun value sibLength ↦ { value with sibLength },
    .pullarray8 maxSibLength (·.sibLength.toNat) fun value sib ↦ { value with sib }]

def SystemInformationIndication.Fits (value : SystemInformationIndication) : Prop :=
  Exact value.sib value.sibLength.toNat maxSibLength

def systemInformationIndication : ValueCodec SystemInformationIndication :=
  .ofItems packSystemInformationIndicationValue unpackSystemInformationIndicationValue
    SystemInformationIndication.Fits fun value h ↦ by
      simp [applySteps, packSystemInformationIndicationValue,
        unpackSystemInformationIndicationValue, Step.apply, h.1, h.2]

/-- `nfapi_utran_system_information_indication_t` and `nfapi_geran_system_information_indication_t`.
GERAN calls the members `si_length` and `si`. -/
structure SystemInformationBlock where
  sibLength : UInt16 := 0
  sib : List UInt8 := []
  deriving DecidableEq, Inhabited, Repr

/-- `maxUnpacked` is the length that the decoder compares the count with. The encoders all use
`NFAPI_MAX_SIB_LENGTH`. -/
def packSystemInformationBlockValue (value : SystemInformationBlock) : List Item :=
  [.u16 value.sibLength, .array8 value.sib maxSibLength value.sibLength.toNat]

def unpackSystemInformationBlockValue (maxUnpacked : ℕ) : List (Step SystemInformationBlock) :=
  [.pull16 fun value sibLength ↦ { value with sibLength },
    .pullarray8 maxUnpacked (·.sibLength.toNat) fun value sib ↦ { value with sib }]

def SystemInformationBlock.Fits (value : SystemInformationBlock) : Prop :=
  Exact value.sib value.sibLength.toNat maxSibLength

def utranSystemInformationIndication : ValueCodec SystemInformationBlock :=
  .ofItems packSystemInformationBlockValue (unpackSystemInformationBlockValue maxSibLength)
    SystemInformationBlock.Fits fun value h ↦ by
      simp [applySteps, packSystemInformationBlockValue, unpackSystemInformationBlockValue,
        Step.apply, h.1, h.2]

/-- The lengths that the encoder and the decoder of a GERAN indication use have different names. -/
theorem maxSiLength_eq : maxSiLength = maxSibLength := rfl

def geranSystemInformationIndication : ValueCodec SystemInformationBlock :=
  .ofItems packSystemInformationBlockValue (unpackSystemInformationBlockValue maxSiLength)
    SystemInformationBlock.Fits fun value h ↦ by
      simp [applySteps, packSystemInformationBlockValue, unpackSystemInformationBlockValue,
        Step.apply, maxSiLength_eq, h.1, h.2]

/-! ### Opaque data -/

/-- `nfapi_opaqaue_data_t`. -/
structure OpaqueData where
  length : UInt32 := 0
  value : List UInt8 := []
  deriving DecidableEq, Inhabited, Repr

def packOpaqueDataValue (limit : ℕ) (data : OpaqueData) : Push Unit :=
  Push.pusharray8 data.value maxOpaqueData data.length.toNat limit

/-- The length of the field is that of the data. -/
def unpackOpaqueDataValue (tl : Tl) (limit : ℕ) : Fill OpaqueData :=
  (Fill.modify fun data ↦ { data with length := tl.length.toUInt32 }).andThen
    (Fill.look fun data ↦ .pull (.pullarray8 maxOpaqueData data.length.toNat limit)
      fun data value ↦ { data with value })

def OpaqueData.Fits (data : OpaqueData) : Prop := Exact data.value data.length.toNat maxOpaqueData

/-- The length comes back through the length of the field. -/
theorem OpaqueData.Fits.length_eq {data : OpaqueData} (h : data.Fits) :
    data.value.length.toUInt16.toUInt32 = data.length := by
  have hsmall : data.length.toNat ≤ 64 := h.2
  rw [h.1]
  apply UInt32.toNat_inj.mp
  rw [UInt16.toNat_toUInt32]
  exact Nat.mod_eq_of_lt (by omega)

theorem fills_unpackOpaqueDataValue {data : OpaqueData} {limit : ℕ} (tag : UInt16) (h : data.Fits) :
    Fills limit (unpackOpaqueDataValue ⟨tag, data.value.length.toUInt16⟩ limit) default data.value
      data := by
  have hread : Reads limit (Pull.pullarray8 maxOpaqueData data.length.toNat limit) data.value
    data.value := reads_pullarray8 h.1 h.2
  have hlength : Fills limit
      (.modify fun data' : OpaqueData ↦
        { data' with length := data.value.length.toUInt16.toUInt32 }) default []
      { length := data.length } := by
    rw [h.length_eq]
    exact fills_modify _
  exact hlength.andThen (fills_pull hread).look

/-- The field codec of opaque data. -/
def opaqueData (tag : UInt16) : FieldCodec (Tlv OpaqueData) where
  tag
  pack limit field := packOpaqueDataValue limit field.value
  unpack tl limit :=
    .component Tlv.value (fun field value ↦ { field with value }) (unpackOpaqueDataValue tl limit)
  bytes field := field.value.value
  Fits field := field.value.Fits
  written field limit hfits := emits_pusharray8 hfits.1 hfits.2
  restored field limit hfits _ := by
    have hfield (tl : Tl) : Fills limit
        (.component Tlv.value (fun field value ↦ { field with value })
          (unpackOpaqueDataValue ⟨tag, field.value.value.length.toUInt16⟩ limit))
        (⟨tl, default⟩ : Tlv OpaqueData) field.value.value ⟨tl, field.value⟩ :=
      Fills.component (fills_unpackOpaqueDataValue tag hfits)
    exact hfield _
  within tl limit := by
    have hpull (data : OpaqueData) : Within limit (.pull
        (.pullarray8 maxOpaqueData data.length.toNat limit)
        fun (data : OpaqueData) value ↦ { data with value }) :=
      within_pull fun _ _ _ _ hpos ↦ pullarray8_le hpos
    unfold unpackOpaqueDataValue
    infer_instance

end MultiUeProxy.P4
