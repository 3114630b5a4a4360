import MultiUeProxy.Lib.Unchecked
import MultiUeProxy.P7.DciCodec

/-!
# The PDCCH PDU of a request

The PDU with the DCIs of a CORESET, which a DL_TTI request has among others and which a UL_DCI
request has alone. The codec of `nfapi_p7.c` looks at the result of no push and no pull in it.

A DCI arrives without precoding, whatever it had: the encoder writes zeros for it, in the request as
in the message. Of its payload as many bits arrive as it says that it has (`DlDciPdu.arrived`).
-/

set_option autoImplicit false
set_option relaxedAutoImplicit false

namespace MultiUeProxy.P7.NrPdcch

open Lib.ByteCursor Lib.ByteWriter Lib.Codec Lib.InPlace DciCodec

/-! ### Precoding -/

/-- `nfapi_nr_tx_precoding_and_beamforming_number_of_prgs_t`. -/
structure Prg where
  pmIdx : UInt16 := 0
  digBfInterfaceList : List UInt16 := []
  deriving DecidableEq, Repr

/-- `nfapi_nr_tx_precoding_and_beamforming_t`. The lists are the parts of the arrays that are in
use. -/
structure TxPrecodingAndBeamforming where
  numPrgs : UInt16 := 0
  prgSize : UInt16 := 0
  digBfInterfaces : UInt8 := 0
  prgsList : List Prg := []
  deriving DecidableEq, Repr

instance : Inhabited TxPrecodingAndBeamforming := ⟨{}⟩

/-- The size of `prgs_list`, and that of `dig_bf_interface_list`. -/
def maxPrgs : ℕ := 1

def prgsListPlace : ListPlace TxPrecodingAndBeamforming Prg where
  get value := value.prgsList
  put value prgsList := { value with prgsList }
  get_put _ _ := rfl
  put_put _ _ _ := rfl
  put_get _ := rfl

def digBfInterfacePlace : ListPlace Prg UInt16 where
  get prg := prg.digBfInterfaceList
  put prg digBfInterfaceList := { prg with digBfInterfaceList }
  get_put _ _ := rfl
  put_put _ _ _ := rfl
  put_get _ := rfl

def packPrg (limit : ℕ) (digBfInterfaces : UInt8) (prg : Prg) : Push Unit := do
  attemptItems limit [.u16 prg.pmIdx]
  packElements digBfInterfaces.toNat (fun beamIdx ↦ attemptItems limit [.u16 beamIdx])
    prg.digBfInterfaceList

/-- The precoding as the encoders of the PDSCH and SSB PDUs write it. -/
def packPrecoding (limit : ℕ) (value : TxPrecodingAndBeamforming) : Push Unit := do
  attemptItems limit [.u16 value.numPrgs, .u16 value.prgSize, .u8 value.digBfInterfaces]
  packElements value.numPrgs.toNat (packPrg limit value.digBfInterfaces) value.prgsList

def precodingSteps : List (Step TxPrecodingAndBeamforming) :=
  [.pull16 fun value numPrgs ↦ { value with numPrgs },
    .pull16 fun value prgSize ↦ { value with prgSize },
    .pull8 fun value digBfInterfaces ↦ { value with digBfInterfaces }]

def unpackPrg (limit : ℕ) (digBfInterfaces : UInt8) : Fill Prg :=
  (attemptSteps limit [.pull16 fun prg pmIdx ↦ { prg with pmIdx }]).andThen
    (.loop (.elementOrBeyond maxPrgs digBfInterfacePlace 0
      (attemptSteps limit [.pull16 fun _ beamIdx ↦ beamIdx])) digBfInterfaces.toNat 0)

def unpackPrecoding (limit : ℕ) : Fill TxPrecodingAndBeamforming :=
  (attemptSteps limit precodingSteps).andThen <| .look fun value ↦
    .loop (.elementOrBeyond maxPrgs prgsListPlace {} (unpackPrg limit value.digBfInterfaces))
      value.numPrgs.toNat 0

/-- Precoding without resource block groups. -/
structure TxPrecodingAndBeamforming.Empty (value : TxPrecodingAndBeamforming) : Prop where
  numPrgs : value.numPrgs = 0
  prgsList : value.prgsList = []

def precodingBytes (value : TxPrecodingAndBeamforming) : List UInt8 :=
  itemsBytes [.u16 value.numPrgs, .u16 value.prgSize, .u8 value.digBfInterfaces]

section Precoding

variable {limit : ℕ} {value : TxPrecodingAndBeamforming}

theorem encodes_packPrecoding (h : value.Empty) :
    Encodes limit (packPrecoding limit value) (precodingBytes value) := by
  have hnumbers : Encodes limit (attemptItems limit [.u16 value.numPrgs, .u16 value.prgSize,
      .u8 value.digBfInterfaces]) (precodingBytes value) :=
    encodes_attemptItems (by simp [Item.Fits])
  have hprgs : Encodes limit (packElements value.numPrgs.toNat (packPrg limit value.digBfInterfaces)
      value.prgsList) [] := by
    rw [h.numPrgs, h.prgsList]
    exact @encodes_packElements Prg limit (packPrg limit value.digBfInterfaces) (fun _ ↦ []) []
      (by simp)
  unfold packPrecoding
  rw [← List.append_nil (precodingBytes value)]
  infer_instance

/-- Precoding without groups arrives as it is. -/
theorem fills_unpackPrecoding (h : value.Empty) :
    Fills limit (unpackPrecoding limit) default (precodingBytes value) value := by
  have hnumbers : Fills limit (attemptSteps limit precodingSteps) default (precodingBytes value)
      value := by
    apply fills_attemptSteps
    have hprgs := h.prgsList
    cases value
    cases hprgs
    rfl
  rw [← List.append_nil (precodingBytes value)]
  apply hnumbers.andThen
  apply Fills.look
  rw [h.numPrgs]
  exact fills_done

end Precoding

/-! ### DCIs -/

/-- `nfapi_nr_dl_dci_pdu_t`. -/
structure DlDciPdu where
  rnti : UInt16 := 0
  scramblingId : UInt16 := 0
  scramblingRnti : UInt16 := 0
  cceIndex : UInt8 := 0
  aggregationLevel : UInt8 := 0
  precodingAndBeamforming : TxPrecodingAndBeamforming := {}
  betaPdcch10 : UInt8 := 0
  powerControlOffsetSs : UInt8 := 0
  payloadSizeBits : UInt16 := 0
  payload : DciPayload := .ofWord 0

instance : Inhabited DlDciPdu := ⟨{}⟩

/-- What is pushed in front of the payload. The precoding is set to zero in the request before, and
this is what is pushed of it. -/
def dciItems (dci : DlDciPdu) : List Item :=
  [.u16 dci.rnti, .u16 dci.scramblingId, .u16 dci.scramblingRnti, .u8 dci.cceIndex,
    .u8 dci.aggregationLevel, .u16 0, .u16 0, .u8 0, .u8 dci.betaPdcch10,
    .u8 dci.powerControlOffsetSs, .u16 dci.payloadSizeBits]

/-- An element of the loop over `dci_pdu`. -/
def packDci (limit : ℕ) (dci : DlDciPdu) : Push Unit := do
  attemptItems limit (dciItems dci)
  Push.attempt (packDciPayload dci.payload dci.payloadSizeBits limit).2

def dciFrontSteps : List (Step DlDciPdu) :=
  [.pull16 fun dci rnti ↦ { dci with rnti },
    .pull16 fun dci scramblingId ↦ { dci with scramblingId },
    .pull16 fun dci scramblingRnti ↦ { dci with scramblingRnti },
    .pull8 fun dci cceIndex ↦ { dci with cceIndex },
    .pull8 fun dci aggregationLevel ↦ { dci with aggregationLevel }]

def dciBackSteps : List (Step DlDciPdu) :=
  [.pull8 fun dci betaPdcch10 ↦ { dci with betaPdcch10 },
    .pull8 fun dci powerControlOffsetSs ↦ { dci with powerControlOffsetSs },
    .pull16 fun dci payloadSizeBits ↦ { dci with payloadSizeBits }]

/-- An element of the loop over `dci_pdu`; `stack` is what the array of the bytes of the payload
holds before it is filled. -/
def unpackDci (stack : DciPayload) (limit : ℕ) : Fill DlDciPdu :=
  (attemptSteps limit dciFrontSteps).andThen <|
    (Fill.component DlDciPdu.precodingAndBeamforming
      (fun dci precodingAndBeamforming ↦ { dci with precodingAndBeamforming })
      (unpackPrecoding limit)).andThen <|
    (attemptSteps limit dciBackSteps).andThen <| .look fun dci ↦
      .attempt (.component DlDciPdu.payload (fun dci payload ↦ { dci with payload })
        (unpackDciPayload stack dci.payloadSizeBits limit))

/-- A payload without what is above its bits. -/
def lowBits (payload : DciPayload) (payloadSizeBits : UInt16) : DciPayload :=
  readBack payload (.ofWord 0) payloadSizeBits

/-- The bits of the payload are those that are asked for, and above them are zeros. -/
theorem toNat_lowBits {payload : DciPayload} {payloadSizeBits : UInt16}
    (hbits : payloadSizeBits.toNat ≤ 64) :
    (lowBits payload payloadSizeBits).word.toNat =
      payload.word.toNat % 2 ^ payloadSizeBits.toNat := by
  have hzero : ∀ byte ∈ (DciPayload.ofWord 0).bytes.drop (dciByteLen payloadSizeBits).toNat,
      byte = 0 := by
    intro byte hbyte
    exact (Lib.LittleEndian.numberOf_eq_zero_iff _).mp rfl byte (List.mem_of_mem_drop hbyte)
  unfold lowBits
  rw [toNat_readBack hbits, (Lib.LittleEndian.numberOf_eq_zero_iff _).mpr hzero, Nat.mul_zero,
    Nat.add_zero]

/-- A DCI as it arrives. -/
def DlDciPdu.arrived (dci : DlDciPdu) : DlDciPdu :=
  { dci with
    precodingAndBeamforming := {}
    payload := lowBits dci.payload dci.payloadSizeBits }

/-- What is to arrive of a DCI. -/
def DlDciPdu.content (dci : DlDciPdu) : DlDciPdu :=
  { dci with payload := lowBits dci.payload dci.payloadSizeBits }

theorem DlDciPdu.arrived_eq_content_iff {dci : DlDciPdu} :
    dci.arrived = dci.content ↔ dci.precodingAndBeamforming = {} := by
  constructor
  · intro h
    exact (congrArg DlDciPdu.precodingAndBeamforming h).symm
  · intro h
    unfold arrived content
    rw [h]

def packedDci (dci : DlDciPdu) : List UInt8 :=
  itemsBytes (dciItems dci) ++ dciBytes dci.payload dci.payloadSizeBits

section Dci

variable {limit : ℕ} {dci : DlDciPdu}

theorem encodes_packDci (hbits : dci.payloadSizeBits.toNat ≤ 64) :
    Encodes limit (packDci limit dci) (packedDci dci) := by
  have hitems : Encodes limit (attemptItems limit (dciItems dci)) (itemsBytes (dciItems dci)) :=
    encodes_attemptItems (by simp [dciItems, Item.Fits])
  have hpayload : Emits limit (packDciPayload dci.payload dci.payloadSizeBits limit).2
      (dciBytes dci.payload dci.payloadSizeBits) := ⟨writes_packDciPayload hbits limit⟩
  have hencodes := hpayload.encodes
  unfold packDci packedDci
  infer_instance

theorem length_packedDci_le (hbits : dci.payloadSizeBits.toNat ≤ 64) :
    (packedDci dci).length ≤ 25 := by
  have hpayload := (byteLen_bounds hbits).1
  rw [← @length_dciBytes dci.payload _ hbits] at hpayload
  unfold packedDci
  rw [List.length_append]
  exact Nat.add_le_add_left hpayload 17

theorem fills_unpackDci (hbits : dci.payloadSizeBits.toNat ≤ 64) (stack : DciPayload) :
    Fills limit (unpackDci stack limit) default (packedDci dci) dci.arrived := by
  have hfront : Fills limit (attemptSteps limit dciFrontSteps) default
      (itemsBytes [.u16 dci.rnti, .u16 dci.scramblingId, .u16 dci.scramblingRnti, .u8 dci.cceIndex,
        .u8 dci.aggregationLevel]) _ := fills_attemptSteps rfl
  have hprecoding := @fills_unpackPrecoding limit {} ⟨rfl, rfl⟩
  have hsplit : packedDci dci = itemsBytes [.u16 dci.rnti, .u16 dci.scramblingId,
      .u16 dci.scramblingRnti, .u8 dci.cceIndex, .u8 dci.aggregationLevel] ++
      (precodingBytes {} ++ (itemsBytes [.u8 dci.betaPdcch10, .u8 dci.powerControlOffsetSs,
        .u16 dci.payloadSizeBits] ++ dciBytes dci.payload dci.payloadSizeBits)) := rfl
  rw [hsplit]
  apply hfront.andThen
  refine Fills.andThen (Fills.component hprecoding) ?_
  refine Fills.andThen (fills_attemptSteps rfl) ?_
  apply Fills.look
  apply Fills.attempt
  exact Fills.component (fills_unpackDciPayload hbits stack limit)

end Dci

/-! ### The PDU -/

/-- `nfapi_nr_dl_tti_pdcch_pdu_rel15_t`. -/
structure PdcchPdu where
  bwpSize : UInt16 := 0
  bwpStart : UInt16 := 0
  subcarrierSpacing : UInt8 := 0
  cyclicPrefix : UInt8 := 0
  startSymbolIndex : UInt8 := 0
  durationSymbols : UInt8 := 0
  freqDomainResource : List UInt8 := List.replicate 6 0
  cceRegMappingType : UInt8 := 0
  regBundleSize : UInt8 := 0
  interleaverSize : UInt8 := 0
  coreSetType : UInt8 := 0
  shiftIndex : UInt16 := 0
  precoderGranularity : UInt8 := 0
  numDlDci : UInt16 := 0
  dciPdu : List DlDciPdu := []

instance : Inhabited PdcchPdu := ⟨{}⟩

/-- `MAX_DCI_CORESET`. -/
def maxDciCoreset : ℕ := 8

def dciPlace : ListPlace PdcchPdu DlDciPdu where
  get pdu := pdu.dciPdu
  put pdu dciPdu := { pdu with dciPdu }
  get_put _ _ := rfl
  put_put _ _ _ := rfl
  put_get _ := rfl

def pdcchItems (pdu : PdcchPdu) : List Item :=
  [.u16 pdu.bwpSize, .u16 pdu.bwpStart, .u8 pdu.subcarrierSpacing, .u8 pdu.cyclicPrefix,
    .u8 pdu.startSymbolIndex, .u8 pdu.durationSymbols, .array8 pdu.freqDomainResource 6 6,
    .u8 pdu.cceRegMappingType, .u8 pdu.regBundleSize, .u8 pdu.interleaverSize, .u8 pdu.coreSetType,
    .u16 pdu.shiftIndex, .u8 pdu.precoderGranularity, .u16 pdu.numDlDci]

def packDlTtiPdcchPduRel15Value (limit : ℕ) (pdu : PdcchPdu) : Push Unit := do
  attemptItems limit (pdcchItems pdu)
  packElements pdu.numDlDci.toNat (packDci limit) pdu.dciPdu

def pdcchSteps : List (Step PdcchPdu) :=
  [.pull16 fun pdu bwpSize ↦ { pdu with bwpSize },
    .pull16 fun pdu bwpStart ↦ { pdu with bwpStart },
    .pull8 fun pdu subcarrierSpacing ↦ { pdu with subcarrierSpacing },
    .pull8 fun pdu cyclicPrefix ↦ { pdu with cyclicPrefix },
    .pull8 fun pdu startSymbolIndex ↦ { pdu with startSymbolIndex },
    .pull8 fun pdu durationSymbols ↦ { pdu with durationSymbols },
    .pullarray8 6 (fun _ ↦ 6) fun pdu freqDomainResource ↦ { pdu with freqDomainResource },
    .pull8 fun pdu cceRegMappingType ↦ { pdu with cceRegMappingType },
    .pull8 fun pdu regBundleSize ↦ { pdu with regBundleSize },
    .pull8 fun pdu interleaverSize ↦ { pdu with interleaverSize },
    .pull8 fun pdu coreSetType ↦ { pdu with coreSetType },
    .pull16 fun pdu shiftIndex ↦ { pdu with shiftIndex },
    .pull8 fun pdu precoderGranularity ↦ { pdu with precoderGranularity },
    .pull16 fun pdu numDlDci ↦ { pdu with numDlDci }]

/-- The loop reads the number of groups of every DCI, so that already the first one behind the end
of the array is an access outside of it. -/
def unpackDlTtiPdcchPduRel15Value (stack : DciPayload) (limit : ℕ) : Fill PdcchPdu :=
  (attemptSteps limit pdcchSteps).andThen <| .look fun pdu ↦
    .loop (.element maxDciCoreset dciPlace.get dciPlace.put {} (unpackDci stack limit))
      pdu.numDlDci.toNat 0

/-- The counts fit the arrays. -/
structure PdcchPdu.Fits (pdu : PdcchPdu) : Prop where
  resources : pdu.freqDomainResource.length = 6
  number : pdu.dciPdu.length = pdu.numDlDci.toNat
  number_le : pdu.numDlDci.toNat ≤ maxDciCoreset
  payloads : ∀ dci ∈ pdu.dciPdu, dci.payloadSizeBits.toNat ≤ 64

def PdcchPdu.arrived (pdu : PdcchPdu) : PdcchPdu :=
  { pdu with dciPdu := pdu.dciPdu.map DlDciPdu.arrived }

/-- What is to arrive of a PDU. -/
def PdcchPdu.content (pdu : PdcchPdu) : PdcchPdu :=
  { pdu with dciPdu := pdu.dciPdu.map DlDciPdu.content }

/-- No DCI has precoding. -/
def PdcchPdu.Carried (pdu : PdcchPdu) : Prop :=
  ∀ dci ∈ pdu.dciPdu, dci.precodingAndBeamforming = {}

theorem PdcchPdu.arrived_eq_content_iff {pdu : PdcchPdu} :
    pdu.arrived = pdu.content ↔ pdu.Carried := by
  constructor
  · intro h dci hdci
    have hdcis := List.map_inj_left.mp (congrArg PdcchPdu.dciPdu h)
    exact DlDciPdu.arrived_eq_content_iff.mp (hdcis dci hdci)
  · intro h
    have hdcis := List.map_inj_left.mpr fun dci hdci ↦
      DlDciPdu.arrived_eq_content_iff.mpr (h dci hdci)
    unfold arrived content
    rw [hdcis]

def pdcchBytes (pdu : PdcchPdu) : List UInt8 :=
  itemsBytes (pdcchItems pdu) ++ pdu.dciPdu.flatMap packedDci

section Pdu

variable {limit : ℕ} {pdu : PdcchPdu}

theorem applySteps_pdcch (hfits : pdu.Fits) :
    applySteps pdcchSteps (pdcchItems pdu) default = some { pdu with dciPdu := [] } := by
  simp [applySteps, pdcchSteps, pdcchItems, Step.apply, hfits.resources]
  rfl

theorem encodes_packPdcch (hfits : pdu.Fits) :
    Encodes limit (packDlTtiPdcchPduRel15Value limit pdu) (pdcchBytes pdu) := by
  have hitems : Encodes limit (attemptItems limit (pdcchItems pdu)) (itemsBytes (pdcchItems pdu)) :=
    encodes_attemptItems (fits_of_applySteps (applySteps_pdcch hfits))
  have hdcis : Encodes limit (packElements pdu.dciPdu.length (packDci limit) pdu.dciPdu)
      (pdu.dciPdu.flatMap packedDci) :=
    encodes_packElements fun dci hdci ↦ encodes_packDci (hfits.payloads dci hdci)
  rw [hfits.number] at hdcis
  unfold packDlTtiPdcchPduRel15Value pdcchBytes
  infer_instance

theorem length_pdcchBytes_le (hfits : pdu.Fits) :
    (pdcchBytes pdu).length ≤ 223 := by
  have hdcis : (pdu.dciPdu.flatMap packedDci).length ≤ pdu.dciPdu.length * 25 :=
    length_flatMap_le fun dci hdci ↦ length_packedDci_le (hfits.payloads dci hdci)
  have hnumber := hfits.number
  have hmax := hfits.number_le
  unfold maxDciCoreset at hmax
  have hitems : (itemsBytes (pdcchItems pdu)).length = 17 + pdu.freqDomainResource.length := by
    simp [itemsBytes, pdcchItems, Item.bytes]
    omega
  have hresources := hfits.resources
  unfold pdcchBytes
  rw [List.length_append]
  omega

theorem fills_unpackPdcch (hfits : pdu.Fits) (stack : DciPayload) :
    Fills limit (unpackDlTtiPdcchPduRel15Value stack limit) default (pdcchBytes pdu)
      pdu.arrived := by
  apply (fills_attemptSteps (applySteps_pdcch hfits)).andThen
  apply Fills.look
  dsimp only
  rw [← hfits.number]
  exact fills_elements_map (fun dci hdci ↦ fills_unpackDci (hfits.payloads dci hdci) stack)
    dciPlace.get_put dciPlace.put_put rfl (hfits.number.trans_le hfits.number_le)

end Pdu

end MultiUeProxy.P7.NrPdcch
