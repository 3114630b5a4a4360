import MultiUeProxy.P7.NrPdcch

/-!
# The PDUs of an NR DL_TTI request

The codecs of `nfapi_p7.c` for the CSI-RS, PDSCH and SSB PDUs, and for an element of the list of
PDUs, which begins with its type and its size. The decoder goes by the type and does not use the
size.

Some fields are in a PDU but not in the message: the maintenance parameters of a PDSCH PDU, the RSRP
of an SSB PDU, the precoding of a DCI. `DlTtiBody.arrived` is what is left of a PDU, and
`DlTtiBody.arrived_eq_content_iff` says when this is all.
-/

set_option autoImplicit false
set_option relaxedAutoImplicit false

namespace MultiUeProxy.P7.NrDlTti

open Lib.ByteCursor Lib.ByteWriter Lib.Codec Lib.InPlace DciCodec NrPdcch

/-! ### CSI-RS -/

/-- `nfapi_nr_dl_tti_csi_rs_pdu_rel15_t`. -/
structure CsiRsPdu where
  bwpSize : UInt16 := 0
  bwpStart : UInt16 := 0
  subcarrierSpacing : UInt8 := 0
  cyclicPrefix : UInt8 := 0
  startRb : UInt16 := 0
  nrOfRbs : UInt16 := 0
  csiType : UInt8 := 0
  row : UInt8 := 0
  freqDomain : UInt16 := 0
  symbL0 : UInt8 := 0
  symbL1 : UInt8 := 0
  cdmType : UInt8 := 0
  freqDensity : UInt8 := 0
  scrambId : UInt16 := 0
  powerControlOffset : UInt8 := 0
  powerControlOffsetSs : UInt8 := 0
  deriving DecidableEq, Repr

instance : Inhabited CsiRsPdu := ⟨{}⟩

/-- Behind the fields there is precoding, which is always zero. -/
def csiRsItems (pdu : CsiRsPdu) : List Item :=
  [.u16 pdu.bwpSize, .u16 pdu.bwpStart, .u8 pdu.subcarrierSpacing, .u8 pdu.cyclicPrefix,
    .u16 pdu.startRb, .u16 pdu.nrOfRbs, .u8 pdu.csiType, .u8 pdu.row, .u16 pdu.freqDomain,
    .u8 pdu.symbL0, .u8 pdu.symbL1, .u8 pdu.cdmType, .u8 pdu.freqDensity, .u16 pdu.scrambId,
    .u8 pdu.powerControlOffset, .u8 pdu.powerControlOffsetSs, .u16 0, .u16 0, .u8 0]

def packDlTtiCsiRsPduRel15Value (limit : ℕ) (pdu : CsiRsPdu) : Push Unit :=
  attemptItems limit (csiRsItems pdu)

def csiRsSteps : List (Step CsiRsPdu) :=
  [.pull16 fun pdu bwpSize ↦ { pdu with bwpSize },
    .pull16 fun pdu bwpStart ↦ { pdu with bwpStart },
    .pull8 fun pdu subcarrierSpacing ↦ { pdu with subcarrierSpacing },
    .pull8 fun pdu cyclicPrefix ↦ { pdu with cyclicPrefix },
    .pull16 fun pdu startRb ↦ { pdu with startRb },
    .pull16 fun pdu nrOfRbs ↦ { pdu with nrOfRbs },
    .pull8 fun pdu csiType ↦ { pdu with csiType },
    .pull8 fun pdu row ↦ { pdu with row },
    .pull16 fun pdu freqDomain ↦ { pdu with freqDomain },
    .pull8 fun pdu symbL0 ↦ { pdu with symbL0 },
    .pull8 fun pdu symbL1 ↦ { pdu with symbL1 },
    .pull8 fun pdu cdmType ↦ { pdu with cdmType },
    .pull8 fun pdu freqDensity ↦ { pdu with freqDensity },
    .pull16 fun pdu scrambId ↦ { pdu with scrambId },
    .pull8 fun pdu powerControlOffset ↦ { pdu with powerControlOffset },
    .pull8 fun pdu powerControlOffsetSs ↦ { pdu with powerControlOffsetSs },
    .pull16 fun pdu _ ↦ pdu,
    .pull16 fun pdu _ ↦ pdu,
    .pull8 fun pdu _ ↦ pdu]

def unpackDlTtiCsiRsPduRel15Value (limit : ℕ) : Fill CsiRsPdu := fillSteps limit csiRsSteps


section CsiRs

variable {limit : ℕ} {pdu : CsiRsPdu}

theorem applySteps_csiRs : applySteps csiRsSteps (csiRsItems pdu) default = some pdu := rfl

theorem encodes_packCsiRs :
    Encodes limit (packDlTtiCsiRsPduRel15Value limit pdu) (itemsBytes (csiRsItems pdu)) :=
  encodes_attemptItems (fits_of_applySteps applySteps_csiRs)

theorem fills_unpackCsiRs :
    Fills limit (unpackDlTtiCsiRsPduRel15Value limit) default (itemsBytes (csiRsItems pdu)) pdu :=
  fills_fillSteps applySteps_csiRs

end CsiRs

/-! ### PDSCH -/

/-- The fields of a codeword, which are in arrays of two elements. -/
structure Codeword where
  targetCodeRate : UInt16 := 0
  qamModOrder : UInt8 := 0
  mcsIndex : UInt8 := 0
  mcsTable : UInt8 := 0
  rvIndex : UInt8 := 0
  tbSize : UInt32 := 0
  deriving DecidableEq, Repr

def codewordItems (codeword : Codeword) : List Item :=
  [.u16 codeword.targetCodeRate, .u8 codeword.qamModOrder, .u8 codeword.mcsIndex,
    .u8 codeword.mcsTable, .u8 codeword.rvIndex, .u32 codeword.tbSize]

def codewordSteps : List (Step Codeword) :=
  [.pull16 fun codeword targetCodeRate ↦ { codeword with targetCodeRate },
    .pull8 fun codeword qamModOrder ↦ { codeword with qamModOrder },
    .pull8 fun codeword mcsIndex ↦ { codeword with mcsIndex },
    .pull8 fun codeword mcsTable ↦ { codeword with mcsTable },
    .pull8 fun codeword rvIndex ↦ { codeword with rvIndex },
    .pull32 fun codeword tbSize ↦ { codeword with tbSize }]

/-- The PTRS parameters of a PDSCH PDU. -/
structure PdschPtrs where
  ptrsPortIndex : UInt8 := 0
  ptrsTimeDensity : UInt8 := 0
  ptrsFreqDensity : UInt8 := 0
  ptrsReOffset : UInt8 := 0
  nEpreRatioOfPdschToPtrs : UInt8 := 0
  deriving DecidableEq, Repr

/-- `nfapi_v3_pdsch_maintenance_parameters_t`. -/
structure PdschMaintenanceParameters where
  ldpcBaseGraph : UInt8 := 0
  tbSizeLbrmBytes : UInt32 := 0
  deriving DecidableEq, Repr

/-- `nfapi_nr_dl_tti_pdsch_pdu_rel15_t`. -/
structure PdschPdu where
  pduBitmap : UInt16 := 0
  rnti : UInt16 := 0
  pduIndex : UInt16 := 0
  bwpSize : UInt16 := 0
  bwpStart : UInt16 := 0
  subcarrierSpacing : UInt8 := 0
  cyclicPrefix : UInt8 := 0
  nrOfCodewords : UInt8 := 0
  codewords : List Codeword := []
  dataScramblingId : UInt16 := 0
  nrOfLayers : UInt8 := 0
  transmissionScheme : UInt8 := 0
  refPoint : UInt8 := 0
  dlDmrsSymbPos : UInt16 := 0
  dmrsConfigType : UInt8 := 0
  dlDmrsScramblingId : UInt16 := 0
  scid : UInt8 := 0
  numDmrsCdmGrpsNoData : UInt8 := 0
  dmrsPorts : UInt16 := 0
  resourceAlloc : UInt8 := 0
  rbBitmap : List UInt8 := List.replicate 36 0
  rbStart : UInt16 := 0
  rbSize : UInt16 := 0
  vrbToPrbMapping : UInt8 := 0
  startSymbolIndex : UInt8 := 0
  nrOfSymbols : UInt8 := 0
  ptrs : PdschPtrs := {}
  precodingAndBeamforming : TxPrecodingAndBeamforming := {}
  maintenanceParmsV3 : PdschMaintenanceParameters := {}
  deriving DecidableEq, Repr

instance : Inhabited PdschPdu := ⟨{}⟩

/-- The number of elements of the arrays of the codewords. -/
def maxCodewords : ℕ := 2

def codewordPlace : ListPlace PdschPdu Codeword where
  get pdu := pdu.codewords
  put pdu codewords := { pdu with codewords }
  get_put _ _ := rfl
  put_put _ _ _ := rfl
  put_get _ := rfl

def pdschFrontItems (pdu : PdschPdu) : List Item :=
  [.u16 pdu.pduBitmap, .u16 pdu.rnti, .u16 pdu.pduIndex, .u16 pdu.bwpSize, .u16 pdu.bwpStart,
    .u8 pdu.subcarrierSpacing, .u8 pdu.cyclicPrefix, .u8 pdu.nrOfCodewords]

def pdschMiddleItems (pdu : PdschPdu) : List Item :=
  [.u16 pdu.dataScramblingId, .u8 pdu.nrOfLayers, .u8 pdu.transmissionScheme, .u8 pdu.refPoint,
    .u16 pdu.dlDmrsSymbPos, .u8 pdu.dmrsConfigType, .u16 pdu.dlDmrsScramblingId, .u8 pdu.scid,
    .u8 pdu.numDmrsCdmGrpsNoData, .u16 pdu.dmrsPorts, .u8 pdu.resourceAlloc,
    .array8 pdu.rbBitmap 36 36, .u16 pdu.rbStart, .u16 pdu.rbSize, .u8 pdu.vrbToPrbMapping,
    .u8 pdu.startSymbolIndex, .u8 pdu.nrOfSymbols]

/-- The PTRS parameters are there if the bitmap says so. -/
def PdschPdu.HasPtrs (pdu : PdschPdu) : Prop := pdu.pduBitmap &&& 1 ≠ 0

instance (pdu : PdschPdu) : Decidable pdu.HasPtrs := inferInstanceAs (Decidable (_ ≠ _))

def ptrsItems (pdu : PdschPdu) : List Item :=
  if pdu.HasPtrs then
    [.u8 pdu.ptrs.ptrsPortIndex, .u8 pdu.ptrs.ptrsTimeDensity, .u8 pdu.ptrs.ptrsFreqDensity,
      .u8 pdu.ptrs.ptrsReOffset, .u8 pdu.ptrs.nEpreRatioOfPdschToPtrs]
  else []

/-- What is returned in the end is the result of the last push. -/
def packDlTtiPdschPduRel15Value (limit : ℕ) (pdu : PdschPdu) : Push Unit := do
  attemptItems limit (pdschFrontItems pdu)
  packElements pdu.nrOfCodewords.toNat (fun codeword ↦ attemptItems limit (codewordItems codeword))
    pdu.codewords
  attemptItems limit (pdschMiddleItems pdu)
  attemptItems limit (ptrsItems pdu)
  packPrecoding limit pdu.precodingAndBeamforming
  attemptItems limit [.u8 8]
  Push.push8 limit 1

def pdschFrontSteps : List (Step PdschPdu) :=
  [.pull16 fun pdu pduBitmap ↦ { pdu with pduBitmap },
    .pull16 fun pdu rnti ↦ { pdu with rnti },
    .pull16 fun pdu pduIndex ↦ { pdu with pduIndex },
    .pull16 fun pdu bwpSize ↦ { pdu with bwpSize },
    .pull16 fun pdu bwpStart ↦ { pdu with bwpStart },
    .pull8 fun pdu subcarrierSpacing ↦ { pdu with subcarrierSpacing },
    .pull8 fun pdu cyclicPrefix ↦ { pdu with cyclicPrefix },
    .pull8 fun pdu nrOfCodewords ↦ { pdu with nrOfCodewords }]

def pdschMiddleSteps : List (Step PdschPdu) :=
  [.pull16 fun pdu dataScramblingId ↦ { pdu with dataScramblingId },
    .pull8 fun pdu nrOfLayers ↦ { pdu with nrOfLayers },
    .pull8 fun pdu transmissionScheme ↦ { pdu with transmissionScheme },
    .pull8 fun pdu refPoint ↦ { pdu with refPoint },
    .pull16 fun pdu dlDmrsSymbPos ↦ { pdu with dlDmrsSymbPos },
    .pull8 fun pdu dmrsConfigType ↦ { pdu with dmrsConfigType },
    .pull16 fun pdu dlDmrsScramblingId ↦ { pdu with dlDmrsScramblingId },
    .pull8 fun pdu scid ↦ { pdu with scid },
    .pull8 fun pdu numDmrsCdmGrpsNoData ↦ { pdu with numDmrsCdmGrpsNoData },
    .pull16 fun pdu dmrsPorts ↦ { pdu with dmrsPorts },
    .pull8 fun pdu resourceAlloc ↦ { pdu with resourceAlloc },
    .pullarray8 36 (fun _ ↦ 36) fun pdu rbBitmap ↦ { pdu with rbBitmap },
    .pull16 fun pdu rbStart ↦ { pdu with rbStart },
    .pull16 fun pdu rbSize ↦ { pdu with rbSize },
    .pull8 fun pdu vrbToPrbMapping ↦ { pdu with vrbToPrbMapping },
    .pull8 fun pdu startSymbolIndex ↦ { pdu with startSymbolIndex },
    .pull8 fun pdu nrOfSymbols ↦ { pdu with nrOfSymbols }]

def ptrsSteps : List (Step PdschPtrs) :=
  [.pull8 fun ptrs ptrsPortIndex ↦ { ptrs with ptrsPortIndex },
    .pull8 fun ptrs ptrsTimeDensity ↦ { ptrs with ptrsTimeDensity },
    .pull8 fun ptrs ptrsFreqDensity ↦ { ptrs with ptrsFreqDensity },
    .pull8 fun ptrs ptrsReOffset ↦ { ptrs with ptrsReOffset },
    .pull8 fun ptrs nEpreRatioOfPdschToPtrs ↦ { ptrs with nEpreRatioOfPdschToPtrs }]

/-- The power offsets at the end are read into variables that nothing uses. -/
def unpackDlTtiPdschPduRel15Value (limit : ℕ) : Fill PdschPdu :=
  (attemptSteps limit pdschFrontSteps).andThen <|
    (Fill.look fun pdu ↦ .loop (.elementOrBeyond maxCodewords codewordPlace {}
      (attemptSteps limit codewordSteps)) pdu.nrOfCodewords.toNat 0).andThen <|
    (attemptSteps limit pdschMiddleSteps).andThen <|
    (Fill.look fun pdu ↦ if pdu.HasPtrs then
      .component PdschPdu.ptrs (fun pdu ptrs ↦ { pdu with ptrs }) (attemptSteps limit ptrsSteps)
      else .done).andThen <|
    (Fill.component PdschPdu.precodingAndBeamforming
      (fun pdu precodingAndBeamforming ↦ { pdu with precodingAndBeamforming })
      (unpackPrecoding limit)).andThen
    (attemptSteps limit [.pull8 fun pdu _ ↦ pdu, .pull8 fun pdu _ ↦ pdu])


/-- The counts fit the arrays, and there are no resource block groups. -/
structure PdschPdu.Fits (pdu : PdschPdu) : Prop where
  number : pdu.codewords.length = pdu.nrOfCodewords.toNat
  number_le : pdu.nrOfCodewords.toNat ≤ maxCodewords
  bitmap : pdu.rbBitmap.length = 36
  precoding : pdu.precodingAndBeamforming.Empty

/-- The PTRS parameters as far as they are there. -/
def PdschPdu.usedPtrs (pdu : PdschPdu) : PdschPtrs := if pdu.HasPtrs then pdu.ptrs else {}

/-- A PDU as it arrives. -/
def PdschPdu.arrived (pdu : PdschPdu) : PdschPdu :=
  { pdu with ptrs := pdu.usedPtrs, maintenanceParmsV3 := {} }

def codewordBytes (codeword : Codeword) : List UInt8 := itemsBytes (codewordItems codeword)

def pdschBytes (pdu : PdschPdu) : List UInt8 :=
  itemsBytes (pdschFrontItems pdu) ++ (pdu.codewords.flatMap codewordBytes ++
    (itemsBytes (pdschMiddleItems pdu) ++ (itemsBytes (ptrsItems pdu) ++
      (precodingBytes pdu.precodingAndBeamforming ++ (itemsBytes [.u8 8] ++ [1])))))

section Pdsch

variable {limit : ℕ} {pdu : PdschPdu}

theorem encodes_packPdsch (hfits : pdu.Fits) :
    Encodes limit (packDlTtiPdschPduRel15Value limit pdu) (pdschBytes pdu) := by
  have hfront : Encodes limit (attemptItems limit (pdschFrontItems pdu))
      (itemsBytes (pdschFrontItems pdu)) :=
    encodes_attemptItems (by simp [pdschFrontItems, Item.Fits])
  have hcodewords : Encodes limit (packElements pdu.codewords.length
      (fun codeword ↦ attemptItems limit (codewordItems codeword)) pdu.codewords)
      (pdu.codewords.flatMap codewordBytes) :=
    encodes_packElements fun codeword _ ↦
      encodes_attemptItems (by simp [codewordItems, Item.Fits])
  have hmiddle : Encodes limit (attemptItems limit (pdschMiddleItems pdu))
      (itemsBytes (pdschMiddleItems pdu)) :=
    encodes_attemptItems (by simp [pdschMiddleItems, Item.Fits, hfits.bitmap])
  have hptrs : Encodes limit (attemptItems limit (ptrsItems pdu)) (itemsBytes (ptrsItems pdu)) := by
    apply encodes_attemptItems
    unfold ptrsItems
    split_ifs
    · simp [Item.Fits]
    · simp
  have hprecoding := @encodes_packPrecoding limit _ hfits.precoding
  have hoffset : Encodes limit (attemptItems limit [.u8 8]) (itemsBytes [.u8 8]) :=
    encodes_attemptItems (by simp [Item.Fits])
  rw [hfits.number] at hcodewords
  unfold packDlTtiPdschPduRel15Value pdschBytes
  infer_instance

theorem length_pdschBytes_le (hfits : pdu.Fits) :
    (pdschBytes pdu).length ≤ 223 := by
  have hcodewords : (pdu.codewords.flatMap codewordBytes).length ≤ pdu.codewords.length * 10 :=
    length_flatMap_le fun codeword _ ↦ Nat.le_refl 10
  have hnumber := hfits.number
  have hmax := hfits.number_le
  unfold maxCodewords at hmax
  have hbitmap := hfits.bitmap
  have hmiddle : (itemsBytes (pdschMiddleItems pdu)).length = 22 + pdu.rbBitmap.length := by
    simp [itemsBytes, pdschMiddleItems, Item.bytes]
    omega
  have hptrs : (itemsBytes (ptrsItems pdu)).length ≤ 5 := by
    unfold ptrsItems
    split_ifs
    · exact Nat.le_refl 5
    · exact Nat.zero_le 5
  have hfront : (itemsBytes (pdschFrontItems pdu)).length = 13 := rfl
  have hprecoding : (precodingBytes pdu.precodingAndBeamforming).length = 5 := rfl
  have hoffset : (itemsBytes [.u8 8]).length = 1 := rfl
  have hlast : ([1] : List UInt8).length = 1 := rfl
  unfold pdschBytes
  simp only [List.length_append]
  omega

/-- The PDU up to its codewords. -/
def PdschPdu.untilCodewords (pdu : PdschPdu) : PdschPdu where
  pduBitmap := pdu.pduBitmap
  rnti := pdu.rnti
  pduIndex := pdu.pduIndex
  bwpSize := pdu.bwpSize
  bwpStart := pdu.bwpStart
  subcarrierSpacing := pdu.subcarrierSpacing
  cyclicPrefix := pdu.cyclicPrefix
  nrOfCodewords := pdu.nrOfCodewords
  codewords := pdu.codewords

/-- The PDU up to its PTRS parameters. -/
def PdschPdu.untilPtrs (pdu : PdschPdu) : PdschPdu :=
  { pdu with ptrs := {}, precodingAndBeamforming := {}, maintenanceParmsV3 := {} }

theorem fills_codewords (hfits : pdu.Fits) :
    Fills limit (Fill.look fun pdu : PdschPdu ↦ .loop (.elementOrBeyond maxCodewords codewordPlace {}
      (attemptSteps limit codewordSteps)) pdu.nrOfCodewords.toNat 0)
      { pdu.untilCodewords with codewords := [] } (pdu.codewords.flatMap codewordBytes)
      pdu.untilCodewords := by
  have hall : ∀ codeword ∈ pdu.codewords, Fills limit (attemptSteps limit codewordSteps) {}
      (codewordBytes codeword) (id codeword) := fun codeword _ ↦ fills_attemptSteps rfl
  have hstart : codewordPlace.get { pdu.untilCodewords with codewords := [] } = [] := rfl
  have hloop : Fills limit (.loop (.elementOrBeyond maxCodewords codewordPlace {}
      (attemptSteps limit codewordSteps)) pdu.codewords.length 0)
      { pdu.untilCodewords with codewords := [] } (pdu.codewords.flatMap codewordBytes)
      { pdu.untilCodewords with codewords := pdu.codewords.map id } :=
    fills_elementsOrBeyond hall hstart (hfits.number.trans_le hfits.number_le)
  rw [List.map_id, hfits.number] at hloop
  exact Fills.look hloop

theorem fills_ptrs :
    Fills limit (Fill.look fun pdu : PdschPdu ↦ if pdu.HasPtrs then
      .component PdschPdu.ptrs (fun pdu ptrs ↦ { pdu with ptrs }) (attemptSteps limit ptrsSteps)
      else .done) pdu.untilPtrs (itemsBytes (ptrsItems pdu))
      { pdu.untilPtrs with ptrs := pdu.usedPtrs } := by
  apply Fills.look
  unfold PdschPdu.usedPtrs ptrsItems
  by_cases hptrs : pdu.HasPtrs
  · have hsame : pdu.untilPtrs.HasPtrs := hptrs
    rw [if_pos hptrs, if_pos hptrs, if_pos hsame]
    exact Fills.component (fills_attemptSteps rfl)
  · have hsame : ¬ pdu.untilPtrs.HasPtrs := hptrs
    rw [if_neg hptrs, if_neg hptrs, if_neg hsame]
    exact fills_done

theorem fills_unpackPdsch (hfits : pdu.Fits) :
    Fills limit (unpackDlTtiPdschPduRel15Value limit) default (pdschBytes pdu) pdu.arrived := by
  have hfront : Fills limit (attemptSteps limit pdschFrontSteps) default
      (itemsBytes (pdschFrontItems pdu)) { pdu.untilCodewords with codewords := [] } :=
    fills_attemptSteps rfl
  have hmiddle : Fills limit (attemptSteps limit pdschMiddleSteps) pdu.untilCodewords
      (itemsBytes (pdschMiddleItems pdu)) pdu.untilPtrs := by
    apply fills_attemptSteps
    simp [applySteps, pdschMiddleSteps, pdschMiddleItems, Step.apply, hfits.bitmap]
    rfl
  have hoffsets : Fills limit
      (attemptSteps limit [.pull8 fun pdu _ ↦ pdu, .pull8 fun pdu _ ↦ pdu]) pdu.arrived
      (itemsBytes [.u8 8, .u8 1]) pdu.arrived := fills_attemptSteps rfl
  refine hfront.andThen <| (fills_codewords hfits).andThen <| hmiddle.andThen <|
    fills_ptrs.andThen <| Fills.andThen ?_ hoffsets
  exact Fills.component (fills_unpackPrecoding hfits.precoding)

end Pdsch

/-! ### SSB -/

/-- `nfapi_nr_dl_tti_ssb_pdu_rel15_t`. -/
structure SsbPdu where
  physCellId : UInt16 := 0
  betaPss : UInt8 := 0
  ssbBlockIndex : UInt8 := 0
  ssbSubcarrierOffset : UInt8 := 0
  ssbOffsetPointA : UInt16 := 0
  bchPayloadFlag : UInt8 := 0
  bchPayload : UInt32 := 0
  ssbRsrp : UInt8 := 0
  precodingAndBeamforming : TxPrecodingAndBeamforming := {}
  deriving DecidableEq, Repr

instance : Inhabited SsbPdu := ⟨{}⟩

/-- Behind the three bytes of the payload come a fourth one and two for the power, which are
zero. -/
def ssbItems (pdu : SsbPdu) : List Item :=
  [.u16 pdu.physCellId, .u8 pdu.betaPss, .u8 pdu.ssbBlockIndex, .u8 pdu.ssbSubcarrierOffset,
    .u16 pdu.ssbOffsetPointA, .u8 pdu.bchPayloadFlag, .u8 (pdu.bchPayload >>> 16).toUInt8,
    .u8 (pdu.bchPayload >>> 8).toUInt8, .u8 pdu.bchPayload.toUInt8, .u8 0, .u8 0, .u8 0]

def packDlTtiSsbPduRel15Value (limit : ℕ) (pdu : SsbPdu) : Push Unit := do
  attemptItems limit (ssbItems pdu)
  packPrecoding limit pdu.precodingAndBeamforming

/-- The PDU with the local variables of its decoder. -/
structure SsbDecoding where
  pdu : SsbPdu
  byte3 : UInt8
  byte2 : UInt8
  byte1 : UInt8
  byte0 : UInt8

def ssbFrontSteps : List (Step SsbDecoding) :=
  [.pull16 fun decoding physCellId ↦ { decoding with pdu.physCellId := physCellId },
    .pull8 fun decoding betaPss ↦ { decoding with pdu.betaPss := betaPss },
    .pull8 fun decoding ssbBlockIndex ↦ { decoding with pdu.ssbBlockIndex := ssbBlockIndex },
    .pull8 fun decoding ssbSubcarrierOffset ↦
      { decoding with pdu.ssbSubcarrierOffset := ssbSubcarrierOffset },
    .pull16 fun decoding ssbOffsetPointA ↦
      { decoding with pdu.ssbOffsetPointA := ssbOffsetPointA },
    .pull8 fun decoding bchPayloadFlag ↦ { decoding with pdu.bchPayloadFlag := bchPayloadFlag },
    .pull8 fun decoding byte3 ↦ { decoding with byte3 },
    .pull8 fun decoding byte2 ↦ { decoding with byte2 },
    .pull8 fun decoding byte1 ↦ { decoding with byte1 },
    .pull8 fun decoding byte0 ↦ { decoding with byte0 }]

/-- The payload is rebuilt from its bytes. -/
def bchPayloadOf (byte3 byte2 byte1 : UInt8) : UInt32 :=
  (byte3.toUInt32 <<< 8 ||| byte2.toUInt32) <<< 8 ||| byte1.toUInt32

def SsbDecoding.rebuilt (decoding : SsbDecoding) : SsbDecoding :=
  { decoding with
    pdu.bchPayload := bchPayloadOf decoding.byte3 decoding.byte2 decoding.byte1 }

def ssbBackSteps : List (Step SsbDecoding) :=
  [.pull8 fun decoding byte1 ↦ { decoding with byte1 },
    .pull8 fun decoding byte0 ↦ { decoding with byte0 }]

/-- What the stack holds where the local variables of the decoders are. -/
structure Stack where
  payload : DciPayload
  byte3 : UInt8
  byte2 : UInt8
  byte1 : UInt8
  byte0 : UInt8

def unpackDlTtiSsbPduRel15Value (stack : Stack) (limit : ℕ) : Fill SsbPdu :=
  (Fill.component
    (fun pdu ↦ ⟨pdu, stack.byte3, stack.byte2, stack.byte1, stack.byte0⟩)
    (fun _ decoding ↦ decoding.pdu)
    ((attemptSteps limit ssbFrontSteps).andThen <|
      (Fill.modify SsbDecoding.rebuilt).andThen (attemptSteps limit ssbBackSteps))).andThen
  (.component SsbPdu.precodingAndBeamforming
    (fun pdu precodingAndBeamforming ↦ { pdu with precodingAndBeamforming })
    (unpackPrecoding limit))

/-- The payload has 24 bits, and there are no resource block groups. -/
structure SsbPdu.Fits (pdu : SsbPdu) : Prop where
  payload : pdu.bchPayload.toNat < 2 ^ 24
  precoding : pdu.precodingAndBeamforming.Empty

/-- A PDU as it arrives. -/
def SsbPdu.arrived (pdu : SsbPdu) : SsbPdu := { pdu with ssbRsrp := 0 }

def ssbBytes (pdu : SsbPdu) : List UInt8 :=
  itemsBytes (ssbItems pdu) ++ precodingBytes pdu.precodingAndBeamforming

/-- Three bytes are enough for 24 bits. -/
theorem bchPayloadOf_bytes {payload : UInt32} (h : payload.toNat < 2 ^ 24) :
    bchPayloadOf (payload >>> 16).toUInt8 (payload >>> 8).toUInt8 payload.toUInt8 = payload := by
  have hhigh : ∀ i, 24 ≤ i → payload.toBitVec.getLsbD i = false := by
    intro i hi
    have hbound : payload.toNat < 2 ^ i := h.trans_le (Nat.pow_le_pow_right Nat.two_pos hi)
    exact Nat.testBit_lt_two_pow hbound
  apply UInt32.toBitVec_inj.mp
  show (((payload.toBitVec >>> 16).setWidth 8).setWidth 32 <<< 8 |||
    ((payload.toBitVec >>> 8).setWidth 8).setWidth 32) <<< 8 |||
    (payload.toBitVec.setWidth 8).setWidth 32 = payload.toBitVec
  ext i hi
  simp only [BitVec.getElem_or, BitVec.getElem_shiftLeft, BitVec.getElem_setWidth,
    BitVec.getLsbD_setWidth, BitVec.getLsbD_ushiftRight]
  grind

/-- The variables of the decoder when the payload is rebuilt. -/
def ssbDecoding (pdu : SsbPdu) : SsbDecoding where
  pdu := { pdu with bchPayload := 0, ssbRsrp := 0, precodingAndBeamforming := {} }
  byte3 := (pdu.bchPayload >>> 16).toUInt8
  byte2 := (pdu.bchPayload >>> 8).toUInt8
  byte1 := pdu.bchPayload.toUInt8
  byte0 := 0

section Ssb

variable {limit : ℕ} {pdu : SsbPdu}

theorem encodes_packSsb (hfits : pdu.Fits) :
    Encodes limit (packDlTtiSsbPduRel15Value limit pdu) (ssbBytes pdu) := by
  have hitems : Encodes limit (attemptItems limit (ssbItems pdu)) (itemsBytes (ssbItems pdu)) :=
    encodes_attemptItems (by simp [ssbItems, Item.Fits])
  have hprecoding := @encodes_packPrecoding limit _ hfits.precoding
  unfold packDlTtiSsbPduRel15Value ssbBytes
  infer_instance

theorem fills_unpackSsb (hfits : pdu.Fits) (stack : Stack) :
    Fills limit (unpackDlTtiSsbPduRel15Value stack limit) default (ssbBytes pdu) pdu.arrived := by
  have hfront : Fills limit (attemptSteps limit ssbFrontSteps)
      ⟨default, stack.byte3, stack.byte2, stack.byte1, stack.byte0⟩
      (itemsBytes ((ssbItems pdu).take 10)) (ssbDecoding pdu) := fills_attemptSteps rfl
  have hrebuilt : (ssbDecoding pdu).rebuilt.pdu =
      { pdu with ssbRsrp := 0, precodingAndBeamforming := {} } := by
    unfold SsbDecoding.rebuilt ssbDecoding
    rw [bchPayloadOf_bytes hfits.payload]
  have hback : Fills limit (attemptSteps limit ssbBackSteps) (ssbDecoding pdu).rebuilt
      (itemsBytes [.u8 0, .u8 0]) { (ssbDecoding pdu).rebuilt with byte1 := 0, byte0 := 0 } :=
    fills_attemptSteps rfl
  have hsplit : itemsBytes (ssbItems pdu) =
      itemsBytes ((ssbItems pdu).take 10) ++ ([] ++ itemsBytes [.u8 0, .u8 0]) := rfl
  unfold ssbBytes
  rw [hsplit]
  refine Fills.andThen (Fills.component
    (hfront.andThen ((fills_modify SsbDecoding.rebuilt).andThen hback))) ?_
  dsimp only
  rw [hrebuilt]
  exact Fills.component (fills_unpackPrecoding hfits.precoding)

end Ssb

/-! ### The list -/

/-- What is in a PDU, by its type. -/
inductive DlTtiBody where
  | pdcch (pdu : PdcchPdu)
  | pdsch (pdu : PdschPdu)
  | csiRs (pdu : CsiRsPdu)
  | ssb (pdu : SsbPdu)
  | other (pduType : UInt16) (unknown : 3 < pduType)

namespace DlTtiBody

def pduType : DlTtiBody → UInt16
  | pdcch _ => 0
  | pdsch _ => 1
  | csiRs _ => 2
  | ssb _ => 3
  | other pduType _ => pduType

/-- What is in a PDU of this type before it is filled in. -/
def ofType (pduType : UInt16) : DlTtiBody :=
  if unknown : 3 < pduType then other pduType unknown
  else if pduType = 0 then pdcch default
  else if pduType = 1 then pdsch default
  else if pduType = 2 then csiRs default
  else ssb default

/-- The switch over the type. -/
def pack (limit : ℕ) : DlTtiBody → Push Unit
  | pdcch pdu => packDlTtiPdcchPduRel15Value limit pdu
  | pdsch pdu => packDlTtiPdschPduRel15Value limit pdu
  | csiRs pdu => packDlTtiCsiRsPduRel15Value limit pdu
  | ssb pdu => packDlTtiSsbPduRel15Value limit pdu
  | other _ _ => pure ()

/-- The switch over the type. -/
def unpack (stack : Stack) (limit : ℕ) : DlTtiBody → Fill DlTtiBody
  | pdcch pdu => .component (fun _ ↦ pdu) (fun _ pdu ↦ pdcch pdu)
      (unpackDlTtiPdcchPduRel15Value stack.payload limit)
  | pdsch pdu => .component (fun _ ↦ pdu) (fun _ pdu ↦ pdsch pdu)
      (unpackDlTtiPdschPduRel15Value limit)
  | csiRs pdu => .component (fun _ ↦ pdu) (fun _ pdu ↦ csiRs pdu)
      (unpackDlTtiCsiRsPduRel15Value limit)
  | ssb pdu => .component (fun _ ↦ pdu) (fun _ pdu ↦ ssb pdu)
      (unpackDlTtiSsbPduRel15Value stack limit)
  | other _ _ => .done

/-- The type is one of the four, and the PDU fits. -/
def Fits : DlTtiBody → Prop
  | pdcch pdu => pdu.Fits
  | pdsch pdu => pdu.Fits
  | csiRs _ => True
  | ssb pdu => pdu.Fits
  | other _ _ => False

def arrived : DlTtiBody → DlTtiBody
  | pdcch pdu => pdcch pdu.arrived
  | pdsch pdu => pdsch pdu.arrived
  | csiRs pdu => csiRs pdu
  | ssb pdu => ssb pdu.arrived
  | other pduType unknown => other pduType unknown

/-- What is to arrive of a PDU. -/
def content : DlTtiBody → DlTtiBody
  | pdcch pdu => pdcch pdu.content
  | pdsch pdu => pdsch { pdu with ptrs := pdu.usedPtrs }
  | csiRs pdu => csiRs pdu
  | ssb pdu => ssb pdu
  | other pduType unknown => other pduType unknown

/-- All that is in a PDU is also in the message: a PDCCH PDU has no precoding, a PDSCH PDU no
maintenance parameters, and an SSB PDU no RSRP. -/
def Carried : DlTtiBody → Prop
  | pdcch pdu => pdu.Carried
  | pdsch pdu => pdu.maintenanceParmsV3 = {}
  | csiRs _ => True
  | ssb pdu => pdu.ssbRsrp = 0
  | other _ _ => True

theorem arrived_eq_content_iff {body : DlTtiBody} : body.arrived = body.content ↔ body.Carried := by
  cases body with
  | pdcch pdu =>
    rw [arrived, content, pdcch.injEq]
    exact PdcchPdu.arrived_eq_content_iff
  | pdsch pdu =>
    rw [arrived, content, pdsch.injEq]
    constructor
    · intro h
      exact (congrArg PdschPdu.maintenanceParmsV3 h).symm
    · intro h
      show { pdu with ptrs := pdu.usedPtrs, maintenanceParmsV3 := {} } = _
      rw [← h]
  | csiRs pdu => exact ⟨fun _ ↦ trivial, fun _ ↦ rfl⟩
  | ssb pdu =>
    rw [arrived, content, ssb.injEq]
    constructor
    · intro h
      exact (congrArg SsbPdu.ssbRsrp h).symm
    · intro h
      show { pdu with ssbRsrp := 0 } = pdu
      rw [← h]
  | other pduType unknown => exact ⟨fun _ ↦ trivial, fun _ ↦ rfl⟩

def bytes : DlTtiBody → List UInt8
  | pdcch pdu => pdcchBytes pdu
  | pdsch pdu => pdschBytes pdu
  | csiRs pdu => itemsBytes (csiRsItems pdu)
  | ssb pdu => ssbBytes pdu
  | other _ _ => []

variable {limit : ℕ} {body : DlTtiBody}

theorem encodes_pack (hfits : body.Fits) : Encodes limit (body.pack limit) body.bytes := by
  cases body with
  | pdcch pdu => exact encodes_packPdcch hfits
  | pdsch pdu => exact encodes_packPdsch hfits
  | csiRs pdu => exact encodes_packCsiRs
  | ssb pdu => exact encodes_packSsb hfits
  | other pduType unknown => cases hfits

theorem length_bytes_le (hfits : body.Fits) :
    body.bytes.length ≤ 223 := by
  cases body with
  | pdcch pdu => exact length_pdcchBytes_le hfits
  | pdsch pdu => exact length_pdschBytes_le hfits
  | csiRs pdu =>
    show (itemsBytes (csiRsItems pdu)).length ≤ 223
    exact Nat.le_of_ble_eq_true rfl
  | ssb pdu =>
    show (ssbBytes pdu).length ≤ 223
    exact Nat.le_of_ble_eq_true rfl
  | other pduType unknown => cases hfits

theorem fills_unpack (hfits : body.Fits) (stack : Stack) :
    Fills limit ((ofType body.pduType).unpack stack limit) (ofType body.pduType) body.bytes
      body.arrived := by
  cases body with
  | pdcch pdu => exact Fills.component (fills_unpackPdcch hfits stack.payload)
  | pdsch pdu => exact Fills.component (fills_unpackPdsch hfits)
  | csiRs pdu => exact Fills.component fills_unpackCsiRs
  | ssb pdu => exact Fills.component (fills_unpackSsb hfits stack)
  | other pduType unknown => cases hfits

end DlTtiBody

/-- `nfapi_nr_dl_tti_request_pdu_t`. -/
structure DlTtiPdu where
  pduSize : UInt32 := 0
  body : DlTtiBody := .ofType 0

instance : Inhabited DlTtiPdu := ⟨{}⟩

def packDlTtiRequestBodyValue (limit : ℕ) (pdu : DlTtiPdu) : Push Unit :=
  packSized limit (Push.attempt (Push.push16 limit pdu.body.pduType))
    (Push.push16 limit pdu.pduSize.toUInt16) (pdu.body.pack limit)

def dlTtiPduSteps : List (Step DlTtiPdu) :=
  [.pull16 fun pdu pduType ↦ { pdu with body := .ofType pduType },
    .pull16 fun pdu pduSize ↦ { pdu with pduSize := pduSize.toUInt32 }]

def unpackDlTtiRequestBodyValue (stack : Stack) (limit : ℕ) : Fill DlTtiPdu :=
  (fillSteps limit dlTtiPduSteps).andThen <| .look fun pdu ↦
    .component DlTtiPdu.body (fun pdu body ↦ { pdu with body }) (pdu.body.unpack stack limit)

/-- A PDU with the size that is packed. -/
def DlTtiPdu.sized (pdu : DlTtiPdu) : DlTtiPdu :=
  { pdu with pduSize := (4 + pdu.body.bytes.length).toUInt16.toUInt32 }

def DlTtiPdu.arrived (pdu : DlTtiPdu) : DlTtiPdu := { pdu.sized with body := pdu.body.arrived }

/-- What is to arrive of a PDU. -/
def DlTtiPdu.content (pdu : DlTtiPdu) : DlTtiPdu := { pdu.sized with body := pdu.body.content }

theorem DlTtiPdu.arrived_eq_content_iff {pdu : DlTtiPdu} :
    pdu.arrived = pdu.content ↔ pdu.body.Carried := by
  unfold arrived content
  rw [DlTtiPdu.mk.injEq]
  exact (and_iff_right rfl).trans DlTtiBody.arrived_eq_content_iff

def DlTtiPdu.bytes (pdu : DlTtiPdu) : List UInt8 := sizedBytes pdu.body.pduType pdu.body.bytes

section List

variable {limit : ℕ} {pdu : DlTtiPdu}

theorem encodes_packDlTtiPdu (hfits : pdu.body.Fits) :
    Encodes limit (packDlTtiRequestBodyValue limit pdu) pdu.bytes :=
  encodes_packSized inferInstance inferInstance (DlTtiBody.encodes_pack hfits)

theorem fills_unpackDlTtiPdu (hfits : pdu.body.Fits) (stack : Stack) :
    Fills limit (unpackDlTtiRequestBodyValue stack limit) default pdu.bytes pdu.arrived := by
  have hfront : Fills limit (fillSteps limit dlTtiPduSteps) default
      (itemsBytes [.u16 pdu.body.pduType, .u16 (4 + pdu.body.bytes.length).toUInt16])
      { pdu.sized with body := .ofType pdu.body.pduType } := fills_fillSteps rfl
  have hsplit : pdu.bytes = itemsBytes [.u16 pdu.body.pduType,
      .u16 (4 + pdu.body.bytes.length).toUInt16] ++ pdu.body.bytes := rfl
  rw [hsplit]
  apply hfront.andThen
  apply Fills.look
  exact Fills.component (DlTtiBody.fills_unpack hfits stack)

end List

end MultiUeProxy.P7.NrDlTti
