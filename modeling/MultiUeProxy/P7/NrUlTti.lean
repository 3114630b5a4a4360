import MultiUeProxy.Lib.Unchecked
import MultiUeProxy.P7.Pack

/-!
# The NR UL_TTI request

The codec of `nfapi_p7.c` for the uplink of a slot: up to 255 PDUs of four types, and groups of UEs.
The fields of a PDU are listed twice, in an encoder and in a decoder. Only for SRS PDUs the lists
are the same. The decoder of a PUCCH PDU reads one byte less than was written, that of a PUSCH PDU
reads other fields behind the DMRS scrambling id, and that of a PRACH PDU looks at the first element
of a list that it has allocated without elements.

Nothing tells the decoder where the next PDU begins. `ulTti_roundTrips_iff` says that a request
survives exactly if all its PDUs are SRS PDUs without beamforming, with any groups.
-/

set_option autoImplicit false
set_option relaxedAutoImplicit false

namespace MultiUeProxy.P7.NrUlTti

open Lib.Execution Lib.ByteCursor Lib.ByteWriter Lib.Codec Lib.InPlace Header Pack

/-! ### Beamforming -/

/-- `nfapi_nr_ul_beamforming_t`. A PRG is the list of its beams, and a null pointer is an empty
list. -/
structure UlBeamforming where
  trpScheme : UInt8 := 0
  numPrgs : UInt16 := 0
  prgSize : UInt16 := 0
  digBfInterface : UInt8 := 0
  prgsList : List (List UInt16) := []
  deriving DecidableEq, Repr

instance : Inhabited UlBeamforming := ⟨{}⟩

def prgsListPlace : ListPlace UlBeamforming (List UInt16) where
  get value := value.prgsList
  put value prgsList := { value with prgsList }
  get_put _ _ := rfl
  put_put _ _ _ := rfl
  put_get _ := rfl

def beamsPlace : ListPlace (List UInt16) UInt16 where
  get beams := beams
  put _ beams := beams
  get_put _ _ := rfl
  put_put _ _ _ := rfl
  put_get _ := rfl

def beamformingItems (value : UlBeamforming) : List Item :=
  [.u16 value.numPrgs, .u16 value.prgSize, .u8 value.digBfInterface]

def packBeams (limit : ℕ) (digBfInterface : UInt8) (beams : List UInt16) : Push Unit :=
  packElements digBfInterface.toNat (fun beamIdx ↦ attemptItems limit [.u16 beamIdx]) beams

/-- Without beams in a PRG the list of the PRGs is not looked at. -/
def packBeamforming (limit : ℕ) (value : UlBeamforming) : Push Unit := do
  attemptItems limit (beamformingItems value)
  if value.digBfInterface = 0 then pure ()
  else packElements value.numPrgs.toNat (packBeams limit value.digBfInterface) value.prgsList

def beamformingSteps : List (Step UlBeamforming) :=
  [.pull16 fun value numPrgs ↦ { value with numPrgs },
    .pull16 fun value prgSize ↦ { value with prgSize },
    .pull8 fun value digBfInterface ↦ { value with digBfInterface }]

/-- The null pointers are replaced by arrays with as many elements as the structure has so far. The
first PRG is looked at in any case. -/
def allocatePrgs (value : UlBeamforming) : Option UlBeamforming :=
  match if value.prgsList = [] then List.replicate value.numPrgs.toNat [] else value.prgsList with
  | [] => none
  | first :: rest =>
    let beams := if first = [] then List.replicate value.digBfInterface.toNat 0 else first
    some { value with prgsList := beams :: rest }

def unpackBeams (limit : ℕ) (digBfInterface : UInt8) : Fill (List UInt16) :=
  .look fun beams ↦ .loop (.elementOrBeyond beams.length beamsPlace 0
    (attemptSteps limit [.pull16 fun _ beamIdx ↦ beamIdx])) digBfInterface.toNat 0

/-- The beamforming of a PRACH PDU. -/
def unpackBeamforming (limit : ℕ) : Fill UlBeamforming :=
  (Fill.look fun value ↦ match allocatePrgs value with
    | none => .crash .fault
    | some allocated => .modify fun _ ↦ allocated).andThen <|
  (attemptSteps limit beamformingSteps).andThen <| .look fun value ↦
    if value.digBfInterface = 0 then .done
    else .loop (.element value.prgsList.length prgsListPlace.get prgsListPlace.put []
      (unpackBeams limit value.digBfInterface)) value.numPrgs.toNat 0

def beamformingBytes (value : UlBeamforming) : List UInt8 := itemsBytes (beamformingItems value)

theorem encodes_packBeamforming {limit : ℕ} {value : UlBeamforming} (h : value.numPrgs = 0)
    (hlist : value.prgsList = []) :
    Encodes limit (packBeamforming limit value) (beamformingBytes value) := by
  have hnumbers : Encodes limit (attemptItems limit (beamformingItems value))
      (beamformingBytes value) := encodes_attemptItems (by simp [beamformingItems, Item.Fits])
  have hprgs : Encodes limit (if value.digBfInterface = 0 then pure ()
      else packElements value.numPrgs.toNat (packBeams limit value.digBfInterface) value.prgsList)
      [] := by
    split_ifs
    · infer_instance
    · rw [h, hlist]
      exact @encodes_packElements _ limit (packBeams limit value.digBfInterface) (fun _ ↦ []) []
        (by simp)
  unfold packBeamforming
  rw [← List.append_nil (beamformingBytes value)]
  infer_instance

/-! ### PRACH -/

/-- `nfapi_nr_prach_pdu_t`. -/
structure PrachPdu where
  physCellId : UInt16 := 0
  numPrachOcas : UInt8 := 0
  prachFormat : UInt8 := 0
  numRa : UInt8 := 0
  prachStartSymbol : UInt8 := 0
  numCs : UInt16 := 0
  beamforming : UlBeamforming := {}
  deriving DecidableEq, Repr

instance : Inhabited PrachPdu := ⟨{}⟩

def prachItems (pdu : PrachPdu) : List Item :=
  [.u16 pdu.physCellId, .u8 pdu.numPrachOcas, .u8 pdu.prachFormat, .u8 pdu.numRa,
    .u8 pdu.prachStartSymbol, .u16 pdu.numCs]

/-- The encoder sets the beamforming to zero and, with it, the first beam of the first PRG. There is
none in the arrays that it allocates itself. -/
def packUlTtiRequestPrachPdu (limit : ℕ) (pdu : PrachPdu) : Push Unit := do
  attemptItems limit (prachItems pdu)
  match pdu.beamforming.prgsList with
  | (_ :: _) :: _ => packBeamforming limit {}
  | _ => Push.crash .fault

def prachSteps : List (Step PrachPdu) :=
  [.pull16 fun pdu physCellId ↦ { pdu with physCellId },
    .pull8 fun pdu numPrachOcas ↦ { pdu with numPrachOcas },
    .pull8 fun pdu prachFormat ↦ { pdu with prachFormat },
    .pull8 fun pdu numRa ↦ { pdu with numRa },
    .pull8 fun pdu prachStartSymbol ↦ { pdu with prachStartSymbol },
    .pull16 fun pdu numCs ↦ { pdu with numCs }]

def unpackUlTtiRequestPrachPdu (limit : ℕ) : Fill PrachPdu :=
  (attemptSteps limit prachSteps).andThen <|
    .component PrachPdu.beamforming (fun pdu beamforming ↦ { pdu with beamforming })
      (unpackBeamforming limit)

def prachBytes (pdu : PrachPdu) : List UInt8 := itemsBytes (prachItems pdu) ++ beamformingBytes {}

/-- There is a first beam of a first PRG. -/
def PrachPdu.Fits (pdu : PrachPdu) : Prop :=
  ∃ beam beams prgs, pdu.beamforming.prgsList = (beam :: beams) :: prgs

theorem encodes_packPrach {limit : ℕ} {pdu : PrachPdu} (hfits : pdu.Fits) :
    Encodes limit (packUlTtiRequestPrachPdu limit pdu) (prachBytes pdu) := by
  have hitems : Encodes limit (attemptItems limit (prachItems pdu)) (itemsBytes (prachItems pdu)) :=
    encodes_attemptItems (by simp [prachItems, Item.Fits])
  have hbeamforming := @encodes_packBeamforming limit {} rfl rfl
  obtain ⟨beam, beams, prgs, hlist⟩ := hfits
  unfold packUlTtiRequestPrachPdu prachBytes
  rw [hlist]
  infer_instance

/-- In a structure that was zero the decoder finds no list, allocates one without elements, and
looks at the first. -/
theorem unpackPrach_crash (limit : ℕ) (mem : Memory) (pos : ℕ) :
    unpackUlTtiRequestPrachPdu limit mem default pos = .error .fault := by
  have hkeeps : ∀ step ∈ prachSteps, step.Keeps PrachPdu.beamforming := by
    simp [prachSteps, Step.Keeps]
  unfold unpackUlTtiRequestPrachPdu Fill.andThen
  rcases @attemptSteps_ends _ _ limit _ _ hkeeps mem default pos with
    hfault | ⟨pdu, next, hrun, hbeamforming⟩
  · rw [hfault]
  · have hcrash : unpackBeamforming limit mem pdu.beamforming next = .error .fault := by
      rw [hbeamforming]
      rfl
    rw [hrun]
    dsimp only
    unfold Fill.component
    rw [hcrash]

/-! ### PUCCH -/

/-- `nfapi_nr_pucch_pdu_t`. -/
structure PucchPdu where
  rnti : UInt16 := 0
  handle : UInt32 := 0
  bwpSize : UInt16 := 0
  bwpStart : UInt16 := 0
  subcarrierSpacing : UInt8 := 0
  cyclicPrefix : UInt8 := 0
  formatType : UInt8 := 0
  multiSlotTxIndicator : UInt8 := 0
  pi2bpsk : UInt8 := 0
  prbStart : UInt16 := 0
  prbSize : UInt16 := 0
  startSymbolIndex : UInt8 := 0
  nrOfSymbols : UInt8 := 0
  freqHopFlag : UInt8 := 0
  secondHopPrb : UInt16 := 0
  groupHopFlag : UInt8 := 0
  sequenceHopFlag : UInt8 := 0
  hoppingId : UInt16 := 0
  initialCyclicShift : UInt16 := 0
  dataScramblingId : UInt16 := 0
  timeDomainOccIdx : UInt8 := 0
  preDftOccIdx : UInt8 := 0
  preDftOccLen : UInt8 := 0
  addDmrsFlag : UInt8 := 0
  dmrsScramblingId : UInt16 := 0
  dmrsCyclicShift : UInt8 := 0
  srFlag : UInt8 := 0
  bitLenHarq : UInt8 := 0
  bitLenCsiPart1 : UInt16 := 0
  bitLenCsiPart2 : UInt16 := 0
  beamforming : UlBeamforming := {}
  deriving DecidableEq, Repr

instance : Inhabited PucchPdu := ⟨{}⟩

/-- The fields in front of the number of HARQ bits. -/
def pucchFrontItems (pdu : PucchPdu) : List Item :=
  [.u16 pdu.rnti, .u32 pdu.handle, .u16 pdu.bwpSize, .u16 pdu.bwpStart, .u8 pdu.subcarrierSpacing,
    .u8 pdu.cyclicPrefix, .u8 pdu.formatType, .u8 pdu.multiSlotTxIndicator, .u8 pdu.pi2bpsk,
    .u16 pdu.prbStart, .u16 pdu.prbSize, .u8 pdu.startSymbolIndex, .u8 pdu.nrOfSymbols,
    .u8 pdu.freqHopFlag, .u16 pdu.secondHopPrb, .u8 pdu.groupHopFlag, .u8 pdu.sequenceHopFlag,
    .u16 pdu.hoppingId, .u16 pdu.initialCyclicShift, .u16 pdu.dataScramblingId,
    .u8 pdu.timeDomainOccIdx, .u8 pdu.preDftOccIdx, .u8 pdu.preDftOccLen, .u8 pdu.addDmrsFlag,
    .u16 pdu.dmrsScramblingId, .u8 pdu.dmrsCyclicShift, .u8 pdu.srFlag]

/-- The number of HARQ bits is a byte that is pushed as a word. -/
def pucchItems (pdu : PucchPdu) : List Item :=
  pucchFrontItems pdu ++
    [.u16 pdu.bitLenHarq.toUInt16, .u16 pdu.bitLenCsiPart1, .u16 pdu.bitLenCsiPart2]

def packUlTtiRequestPucchPdu (limit : ℕ) (pdu : PucchPdu) : Push Unit := do
  attemptItems limit (pucchItems pdu)
  packBeamforming limit pdu.beamforming

def pucchSteps : List (Step PucchPdu) :=
  [.pull16 fun pdu rnti ↦ { pdu with rnti },
    .pull32 fun pdu handle ↦ { pdu with handle },
    .pull16 fun pdu bwpSize ↦ { pdu with bwpSize },
    .pull16 fun pdu bwpStart ↦ { pdu with bwpStart },
    .pull8 fun pdu subcarrierSpacing ↦ { pdu with subcarrierSpacing },
    .pull8 fun pdu cyclicPrefix ↦ { pdu with cyclicPrefix },
    .pull8 fun pdu formatType ↦ { pdu with formatType },
    .pull8 fun pdu multiSlotTxIndicator ↦ { pdu with multiSlotTxIndicator },
    .pull8 fun pdu pi2bpsk ↦ { pdu with pi2bpsk },
    .pull16 fun pdu prbStart ↦ { pdu with prbStart },
    .pull16 fun pdu prbSize ↦ { pdu with prbSize },
    .pull8 fun pdu startSymbolIndex ↦ { pdu with startSymbolIndex },
    .pull8 fun pdu nrOfSymbols ↦ { pdu with nrOfSymbols },
    .pull8 fun pdu freqHopFlag ↦ { pdu with freqHopFlag },
    .pull16 fun pdu secondHopPrb ↦ { pdu with secondHopPrb },
    .pull8 fun pdu groupHopFlag ↦ { pdu with groupHopFlag },
    .pull8 fun pdu sequenceHopFlag ↦ { pdu with sequenceHopFlag },
    .pull16 fun pdu hoppingId ↦ { pdu with hoppingId },
    .pull16 fun pdu initialCyclicShift ↦ { pdu with initialCyclicShift },
    .pull16 fun pdu dataScramblingId ↦ { pdu with dataScramblingId },
    .pull8 fun pdu timeDomainOccIdx ↦ { pdu with timeDomainOccIdx },
    .pull8 fun pdu preDftOccIdx ↦ { pdu with preDftOccIdx },
    .pull8 fun pdu preDftOccLen ↦ { pdu with preDftOccLen },
    .pull8 fun pdu addDmrsFlag ↦ { pdu with addDmrsFlag },
    .pull16 fun pdu dmrsScramblingId ↦ { pdu with dmrsScramblingId },
    .pull8 fun pdu dmrsCyclicShift ↦ { pdu with dmrsCyclicShift },
    .pull8 fun pdu srFlag ↦ { pdu with srFlag },
    .pull8 fun pdu bitLenHarq ↦ { pdu with bitLenHarq },
    .pull16 fun pdu bitLenCsiPart1 ↦ { pdu with bitLenCsiPart1 },
    .pull16 fun pdu bitLenCsiPart2 ↦ { pdu with bitLenCsiPart2 },
    .pull16 fun pdu _ ↦ pdu,
    .pull16 fun pdu _ ↦ pdu,
    .pull8 fun pdu _ ↦ pdu]

/-- The beamforming is read into variables that nothing uses. -/
def unpackUlTtiRequestPucchPdu (limit : ℕ) : Fill PucchPdu := fillSteps limit pucchSteps

def pucchBytes (pdu : PucchPdu) : List UInt8 :=
  itemsBytes (pucchItems pdu) ++ beamformingBytes pdu.beamforming

/-- There are no PRGs. -/
structure UlBeamforming.Empty (value : UlBeamforming) : Prop where
  numPrgs : value.numPrgs = 0
  prgsList : value.prgsList = []

theorem encodes_packPucch {limit : ℕ} {pdu : PucchPdu} (hempty : pdu.beamforming.Empty) :
    Encodes limit (packUlTtiRequestPucchPdu limit pdu) (pucchBytes pdu) := by
  have hitems : Encodes limit (attemptItems limit (pucchItems pdu)) (itemsBytes (pucchItems pdu)) :=
    encodes_attemptItems (by simp [pucchItems, pucchFrontItems, Item.Fits])
  have hbeamforming := @encodes_packBeamforming limit _ hempty.numPrgs hempty.prgsList
  unfold packUlTtiRequestPucchPdu pucchBytes
  infer_instance

/-- A byte that is pushed as a word has a zero in front of it. -/
theorem bytes16_toUInt16 (value : UInt8) : bytes16 value.toUInt16 = [0, value] := by
  have hjoin := bytes16_join 0 value
  have hword : (0 : UInt8).toUInt16 <<< 8 ||| value.toUInt16 = value.toUInt16 := by simp
  rwa [hword] at hjoin

/-- A word of two bytes. -/
def wordOf (high low : UInt8) : UInt16 := high.toUInt16 <<< 8 ||| low.toUInt16

/-- The upper byte of a word, and the lower one. -/
def highByte (value : UInt16) : UInt8 := (value >>> 8).toUInt8

def lowByte (value : UInt16) : UInt8 := value.toUInt8

/-- What the decoder finds for a PUCCH PDU: behind the front it is one byte behind what was
pushed. -/
def pucchFound (pdu : PucchPdu) : List Item :=
  pucchFrontItems pdu ++ [.u8 0, .u16 (wordOf pdu.bitLenHarq (highByte pdu.bitLenCsiPart1)),
    .u16 (wordOf (lowByte pdu.bitLenCsiPart1) (highByte pdu.bitLenCsiPart2)),
    .u16 (wordOf (lowByte pdu.bitLenCsiPart2) (highByte pdu.beamforming.numPrgs)),
    .u16 (wordOf (lowByte pdu.beamforming.numPrgs) (highByte pdu.beamforming.prgSize)),
    .u8 (lowByte pdu.beamforming.prgSize)]

/-- A PUCCH PDU as it arrives. -/
def PucchPdu.misread (pdu : PucchPdu) : PucchPdu :=
  { pdu with
    bitLenHarq := 0
    bitLenCsiPart1 := wordOf pdu.bitLenHarq (highByte pdu.bitLenCsiPart1)
    bitLenCsiPart2 := wordOf (lowByte pdu.bitLenCsiPart1) (highByte pdu.bitLenCsiPart2)
    beamforming := {} }

theorem bytes16_wordOf (high low : UInt8) : bytes16 (wordOf high low) = [high, low] :=
  bytes16_join high low

/-- The last byte of a PUCCH PDU is left over. -/
theorem pucchBytes_eq (pdu : PucchPdu) :
    pucchBytes pdu = itemsBytes (pucchFound pdu) ++ [pdu.beamforming.digBfInterface] := by
  unfold pucchBytes pucchItems pucchFound beamformingBytes beamformingItems itemsBytes
  simp only [List.flatMap_append, List.flatMap_cons, List.flatMap_nil, Item.bytes,
    bytes16_toUInt16, bytes16_wordOf]
  rfl

theorem fills_unpackPucch (limit : ℕ) (pdu : PucchPdu) :
    Fills limit (unpackUlTtiRequestPucchPdu limit) default (itemsBytes (pucchFound pdu))
      pdu.misread := fills_fillSteps rfl

/-! ### PUSCH -/

/-- `nfapi_nr_pusch_data_t`, whose bitmap of code blocks has one byte. -/
structure PuschData where
  rvIndex : UInt8 := 0
  harqProcessId : UInt8 := 0
  newDataIndicator : UInt8 := 0
  tbSize : UInt32 := 0
  numCb : UInt16 := 0
  cbPresentAndPosition : List UInt8 := [0]
  deriving DecidableEq, Repr

/-- `nfapi_nr_pusch_uci_t`. -/
structure PuschUci where
  harqAckBitLength : UInt16 := 0
  csiPart1BitLength : UInt16 := 0
  csiPart2BitLength : UInt16 := 0
  alphaScaling : UInt8 := 0
  betaOffsetHarqAck : UInt8 := 0
  betaOffsetCsi1 : UInt8 := 0
  betaOffsetCsi2 : UInt8 := 0
  deriving DecidableEq, Repr

/-- `nfapi_nr_ptrs_ports_t`. -/
structure PtrsPort where
  ptrsPortIndex : UInt16 := 0
  ptrsDmrsPort : UInt8 := 0
  ptrsReOffset : UInt8 := 0
  deriving DecidableEq, Repr

instance : Inhabited PtrsPort := ⟨{}⟩

/-- `nfapi_nr_pusch_ptrs_t`. A null pointer is an empty list. -/
structure PuschPtrs where
  numPtrsPorts : UInt8 := 0
  ptrsPortsList : List PtrsPort := []
  ptrsTimeDensity : UInt8 := 0
  ptrsFreqDensity : UInt8 := 0
  ulPtrsPower : UInt8 := 0
  deriving DecidableEq, Repr

instance : Inhabited PuschPtrs := ⟨{}⟩

/-- `nfapi_nr_dfts_ofdm_t`. -/
structure DftsOfdm where
  lowPaprGroupNumber : UInt8 := 0
  lowPaprSequenceNumber : UInt16 := 0
  ulPtrsSampleDensity : UInt8 := 0
  ulPtrsTimeDensityTransformPrecoding : UInt8 := 0
  deriving DecidableEq, Repr

/-- `nfapi_nr_pusch_pdu_t`. -/
structure PuschPdu where
  pduBitMap : UInt16 := 0
  rnti : UInt16 := 0
  handle : UInt32 := 0
  bwpSize : UInt16 := 0
  bwpStart : UInt16 := 0
  subcarrierSpacing : UInt8 := 0
  cyclicPrefix : UInt8 := 0
  targetCodeRate : UInt16 := 0
  qamModOrder : UInt8 := 0
  mcsIndex : UInt8 := 0
  mcsTable : UInt8 := 0
  transformPrecoding : UInt8 := 0
  dataScramblingId : UInt16 := 0
  nrOfLayers : UInt8 := 0
  ulDmrsSymbPos : UInt16 := 0
  dmrsConfigType : UInt8 := 0
  ulDmrsScramblingId : UInt16 := 0
  puschIdentity : UInt16 := 0
  scid : UInt8 := 0
  numDmrsCdmGrpsNoData : UInt8 := 0
  dmrsPorts : UInt16 := 0
  resourceAlloc : UInt8 := 0
  rbBitmap : List UInt8 := List.replicate 36 0
  rbStart : UInt16 := 0
  rbSize : UInt16 := 0
  vrbToPrbMapping : UInt8 := 0
  frequencyHopping : UInt8 := 0
  txDirectCurrentLocation : UInt16 := 0
  uplinkFrequencyShift7p5khz : UInt8 := 0
  startSymbolIndex : UInt8 := 0
  nrOfSymbols : UInt8 := 0
  puschData : PuschData := {}
  puschUci : PuschUci := {}
  puschPtrs : PuschPtrs := {}
  dftsOfdm : DftsOfdm := {}
  beamforming : UlBeamforming := {}
  deriving DecidableEq, Repr

instance : Inhabited PuschPdu := ⟨{}⟩

/-- The fields up to the DMRS scrambling id, with which both sides begin. -/
def puschFrontItems (pdu : PuschPdu) : List Item :=
  [.u16 pdu.pduBitMap, .u16 pdu.rnti, .u32 pdu.handle, .u16 pdu.bwpSize, .u16 pdu.bwpStart,
    .u8 pdu.subcarrierSpacing, .u8 pdu.cyclicPrefix, .u16 pdu.targetCodeRate, .u8 pdu.qamModOrder,
    .u8 pdu.mcsIndex, .u8 pdu.mcsTable, .u8 pdu.transformPrecoding, .u16 pdu.dataScramblingId,
    .u8 pdu.nrOfLayers, .u16 pdu.ulDmrsSymbPos, .u8 pdu.dmrsConfigType, .u16 pdu.ulDmrsScramblingId]

def puschBackItems (pdu : PuschPdu) : List Item :=
  [.u16 pdu.puschIdentity, .u8 pdu.scid, .u8 pdu.numDmrsCdmGrpsNoData, .u16 pdu.dmrsPorts,
    .u8 pdu.resourceAlloc, .array8 pdu.rbBitmap 36 36, .u16 pdu.rbStart, .u16 pdu.rbSize,
    .u8 pdu.vrbToPrbMapping, .u8 pdu.frequencyHopping, .u16 pdu.txDirectCurrentLocation,
    .u8 pdu.uplinkFrequencyShift7p5khz, .u8 pdu.startSymbolIndex, .u8 pdu.nrOfSymbols]

def puschDataItems (data : PuschData) : List Item :=
  let count := (data.numCb.toNat + 7) / 8
  [.u8 data.rvIndex, .u8 data.harqProcessId, .u8 data.newDataIndicator, .u32 data.tbSize,
    .u16 data.numCb, .array8 (data.cbPresentAndPosition.take count) count count]

def puschUciItems (uci : PuschUci) : List Item :=
  [.u16 uci.harqAckBitLength, .u16 uci.csiPart1BitLength, .u16 uci.csiPart2BitLength,
    .u8 uci.alphaScaling, .u8 uci.betaOffsetHarqAck, .u8 uci.betaOffsetCsi1, .u8 uci.betaOffsetCsi2]

def ptrsPortItems (port : PtrsPort) : List Item :=
  [.u16 port.ptrsPortIndex, .u8 port.ptrsDmrsPort, .u8 port.ptrsReOffset]

def packPuschPtrs (limit : ℕ) (ptrs : PuschPtrs) : Push Unit := do
  attemptItems limit [.u8 ptrs.numPtrsPorts]
  packElements ptrs.numPtrsPorts.toNat (fun port ↦ attemptItems limit (ptrsPortItems port))
    ptrs.ptrsPortsList
  attemptItems limit [.u8 ptrs.ptrsTimeDensity, .u8 ptrs.ptrsFreqDensity, .u8 ptrs.ulPtrsPower]

def dftsOfdmItems (dfts : DftsOfdm) : List Item :=
  [.u8 dfts.lowPaprGroupNumber, .u16 dfts.lowPaprSequenceNumber, .u8 dfts.ulPtrsSampleDensity,
    .u8 dfts.ulPtrsTimeDensityTransformPrecoding]

/-- The switch over the bitmap, which knows the values with one bit. -/
def packPuschOptional (limit : ℕ) (pdu : PuschPdu) : Push Unit :=
  if pdu.pduBitMap = 1 then attemptItems limit (puschDataItems pdu.puschData)
  else if pdu.pduBitMap = 2 then attemptItems limit (puschUciItems pdu.puschUci)
  else if pdu.pduBitMap = 4 then packPuschPtrs limit pdu.puschPtrs
  else if pdu.pduBitMap = 8 then attemptItems limit (dftsOfdmItems pdu.dftsOfdm)
  else pure ()

def packUlTtiRequestPuschPdu (limit : ℕ) (pdu : PuschPdu) : Push Unit := do
  pushItems limit (puschFrontItems pdu ++ puschBackItems pdu)
  packPuschOptional limit pdu
  packBeamforming limit pdu.beamforming

def puschFrontSteps : List (Step PuschPdu) :=
  [.pull16 fun pdu pduBitMap ↦ { pdu with pduBitMap },
    .pull16 fun pdu rnti ↦ { pdu with rnti },
    .pull32 fun pdu handle ↦ { pdu with handle },
    .pull16 fun pdu bwpSize ↦ { pdu with bwpSize },
    .pull16 fun pdu bwpStart ↦ { pdu with bwpStart },
    .pull8 fun pdu subcarrierSpacing ↦ { pdu with subcarrierSpacing },
    .pull8 fun pdu cyclicPrefix ↦ { pdu with cyclicPrefix },
    .pull16 fun pdu targetCodeRate ↦ { pdu with targetCodeRate },
    .pull8 fun pdu qamModOrder ↦ { pdu with qamModOrder },
    .pull8 fun pdu mcsIndex ↦ { pdu with mcsIndex },
    .pull8 fun pdu mcsTable ↦ { pdu with mcsTable },
    .pull8 fun pdu transformPrecoding ↦ { pdu with transformPrecoding },
    .pull16 fun pdu dataScramblingId ↦ { pdu with dataScramblingId },
    .pull8 fun pdu nrOfLayers ↦ { pdu with nrOfLayers },
    .pull16 fun pdu ulDmrsSymbPos ↦ { pdu with ulDmrsSymbPos },
    .pull8 fun pdu dmrsConfigType ↦ { pdu with dmrsConfigType },
    .pull16 fun pdu ulDmrsScramblingId ↦ { pdu with ulDmrsScramblingId }]

/-- The identity and the bitmap are left out, and two other fields are read twice. -/
def puschBackSteps : List (Step PuschPdu) :=
  [.pull8 fun pdu scid ↦ { pdu with scid },
    .pull8 fun pdu numDmrsCdmGrpsNoData ↦ { pdu with numDmrsCdmGrpsNoData },
    .pull16 fun pdu dmrsPorts ↦ { pdu with dmrsPorts },
    .pull8 fun pdu resourceAlloc ↦ { pdu with resourceAlloc },
    .pull8 fun pdu resourceAlloc ↦ { pdu with resourceAlloc },
    .pull16 fun pdu dmrsPorts ↦ { pdu with dmrsPorts },
    .pull16 fun pdu rbStart ↦ { pdu with rbStart },
    .pull16 fun pdu rbSize ↦ { pdu with rbSize },
    .pull8 fun pdu vrbToPrbMapping ↦ { pdu with vrbToPrbMapping },
    .pull8 fun pdu frequencyHopping ↦ { pdu with frequencyHopping },
    .pull16 fun pdu txDirectCurrentLocation ↦ { pdu with txDirectCurrentLocation },
    .pull8 fun pdu uplinkFrequencyShift7p5khz ↦ { pdu with uplinkFrequencyShift7p5khz },
    .pull8 fun pdu startSymbolIndex ↦ { pdu with startSymbolIndex },
    .pull8 fun pdu nrOfSymbols ↦ { pdu with nrOfSymbols }]

/-- The new data indicator is left out. -/
def puschDataSteps : List (Step PuschData) :=
  [.pull8 fun data rvIndex ↦ { data with rvIndex },
    .pull8 fun data harqProcessId ↦ { data with harqProcessId },
    .pull32 fun data tbSize ↦ { data with tbSize },
    .pull16 fun data numCb ↦ { data with numCb },
    .pullarray8 1 (fun _ ↦ 1) fun data cbPresentAndPosition ↦ { data with cbPresentAndPosition }]

def puschUciSteps : List (Step PuschUci) :=
  [.pull16 fun uci harqAckBitLength ↦ { uci with harqAckBitLength },
    .pull16 fun uci csiPart1BitLength ↦ { uci with csiPart1BitLength },
    .pull16 fun uci csiPart2BitLength ↦ { uci with csiPart2BitLength },
    .pull8 fun uci alphaScaling ↦ { uci with alphaScaling },
    .pull8 fun uci betaOffsetHarqAck ↦ { uci with betaOffsetHarqAck },
    .pull8 fun uci betaOffsetCsi1 ↦ { uci with betaOffsetCsi1 },
    .pull8 fun uci betaOffsetCsi2 ↦ { uci with betaOffsetCsi2 }]

def ptrsPortsPlace : ListPlace PuschPtrs PtrsPort where
  get ptrs := ptrs.ptrsPortsList
  put ptrs ptrsPortsList := { ptrs with ptrsPortsList }
  get_put _ _ := rfl
  put_put _ _ _ := rfl
  put_get _ := rfl

def ptrsPortSteps : List (Step PtrsPort) :=
  [.pull8 fun port ptrsDmrsPort ↦ { port with ptrsDmrsPort },
    .pull16 fun port ptrsPortIndex ↦ { port with ptrsPortIndex },
    .pull8 fun port ptrsReOffset ↦ { port with ptrsReOffset }]

/-- One port is read, whatever their number is, and for it nothing is allocated. -/
def unpackPuschPtrs (limit : ℕ) : Fill PuschPtrs :=
  (fillSteps limit [.pull8 fun ptrs numPtrsPorts ↦ { ptrs with numPtrsPorts }]).andThen <|
    (Fill.look fun ptrs ↦ .elementOrBeyond ptrs.ptrsPortsList.length ptrsPortsPlace {}
      (fillSteps limit ptrsPortSteps) 0).andThen
    (fillSteps limit [.pull8 fun ptrs ptrsTimeDensity ↦ { ptrs with ptrsTimeDensity },
      .pull8 fun ptrs ptrsFreqDensity ↦ { ptrs with ptrsFreqDensity },
      .pull8 fun ptrs ulPtrsPower ↦ { ptrs with ulPtrsPower }])

def dftsOfdmSteps : List (Step DftsOfdm) :=
  [.pull8 fun dfts lowPaprGroupNumber ↦ { dfts with lowPaprGroupNumber },
    .pull16 fun dfts lowPaprSequenceNumber ↦ { dfts with lowPaprSequenceNumber },
    .pull8 fun dfts ulPtrsSampleDensity ↦ { dfts with ulPtrsSampleDensity },
    .pull8 fun dfts ulPtrsTimeDensityTransformPrecoding ↦
      { dfts with ulPtrsTimeDensityTransformPrecoding }]

/-- The switch over the bitmap. Behind the parts that it knows the decoder returns, so that the
beamforming is passed over only if there is none of them. -/
def unpackPuschOptional (limit : ℕ) (pduBitMap : UInt16) : Fill PuschPdu :=
  if pduBitMap = 1 then
    .component PuschPdu.puschData (fun pdu puschData ↦ { pdu with puschData })
      (fillSteps limit puschDataSteps)
  else if pduBitMap = 2 then
    .component PuschPdu.puschUci (fun pdu puschUci ↦ { pdu with puschUci })
      (fillSteps limit puschUciSteps)
  else if pduBitMap = 4 then
    .component PuschPdu.puschPtrs (fun pdu puschPtrs ↦ { pdu with puschPtrs })
      (unpackPuschPtrs limit)
  else if pduBitMap = 8 then
    .component PuschPdu.dftsOfdm (fun pdu dftsOfdm ↦ { pdu with dftsOfdm })
      (fillSteps limit dftsOfdmSteps)
  else attemptSteps limit [.pull16 fun pdu _ ↦ pdu, .pull16 fun pdu _ ↦ pdu, .pull8 fun pdu _ ↦ pdu]

def unpackUlTtiRequestPuschPdu (limit : ℕ) : Fill PuschPdu :=
  (fillSteps limit (puschFrontSteps ++ puschBackSteps)).andThen <|
    .look fun pdu ↦ unpackPuschOptional limit pdu.pduBitMap

/-- The lists have as many elements as are pushed. -/
structure PuschPdu.Fits (pdu : PuschPdu) : Prop where
  rbBitmap : pdu.rbBitmap.length = 36
  codeBlocks : pdu.puschData.cbPresentAndPosition.length = 1 ∧ pdu.puschData.numCb.toNat ≤ 8
  ports : pdu.puschPtrs.ptrsPortsList.length = pdu.puschPtrs.numPtrsPorts.toNat
  beamforming : pdu.beamforming.Empty

def puschPtrsBytes (ptrs : PuschPtrs) : List UInt8 :=
  itemsBytes [.u8 ptrs.numPtrsPorts] ++
    (ptrs.ptrsPortsList.flatMap (fun port ↦ itemsBytes (ptrsPortItems port)) ++
      itemsBytes [.u8 ptrs.ptrsTimeDensity, .u8 ptrs.ptrsFreqDensity, .u8 ptrs.ulPtrsPower])

def puschOptionalBytes (pdu : PuschPdu) : List UInt8 :=
  if pdu.pduBitMap = 1 then itemsBytes (puschDataItems pdu.puschData)
  else if pdu.pduBitMap = 2 then itemsBytes (puschUciItems pdu.puschUci)
  else if pdu.pduBitMap = 4 then puschPtrsBytes pdu.puschPtrs
  else if pdu.pduBitMap = 8 then itemsBytes (dftsOfdmItems pdu.dftsOfdm)
  else []

def puschBytes (pdu : PuschPdu) : List UInt8 :=
  itemsBytes (puschFrontItems pdu ++ puschBackItems pdu) ++
    (puschOptionalBytes pdu ++ beamformingBytes pdu.beamforming)

section Pusch

variable {limit : ℕ} {pdu : PuschPdu}

theorem encodes_packPuschPtrs {ptrs : PuschPtrs}
    (hports : ptrs.ptrsPortsList.length = ptrs.numPtrsPorts.toNat) :
    Encodes limit (packPuschPtrs limit ptrs) (puschPtrsBytes ptrs) := by
  have hnumber : Encodes limit (attemptItems limit [.u8 ptrs.numPtrsPorts])
      (itemsBytes [.u8 ptrs.numPtrsPorts]) := encodes_attemptItems (by simp [Item.Fits])
  have hlist : Encodes limit (packElements ptrs.ptrsPortsList.length
      (fun port ↦ attemptItems limit (ptrsPortItems port)) ptrs.ptrsPortsList)
      (ptrs.ptrsPortsList.flatMap fun port ↦ itemsBytes (ptrsPortItems port)) :=
    encodes_packElements fun port _ ↦ encodes_attemptItems (by simp [ptrsPortItems, Item.Fits])
  have hback : Encodes limit (attemptItems limit
      [.u8 ptrs.ptrsTimeDensity, .u8 ptrs.ptrsFreqDensity, .u8 ptrs.ulPtrsPower])
      (itemsBytes [.u8 ptrs.ptrsTimeDensity, .u8 ptrs.ptrsFreqDensity, .u8 ptrs.ulPtrsPower]) :=
    encodes_attemptItems (by simp [Item.Fits])
  rw [hports] at hlist
  unfold packPuschPtrs puschPtrsBytes
  infer_instance

theorem encodes_packPuschOptional (hfits : pdu.Fits) :
    Encodes limit (packPuschOptional limit pdu) (puschOptionalBytes pdu) := by
  have hdata : Encodes limit (attemptItems limit (puschDataItems pdu.puschData))
      (itemsBytes (puschDataItems pdu.puschData)) := by
    apply encodes_attemptItems
    obtain ⟨hlength, hnumber⟩ := hfits.codeBlocks
    simp [puschDataItems, Item.Fits, hlength]
    omega
  have huci : Encodes limit (attemptItems limit (puschUciItems pdu.puschUci))
      (itemsBytes (puschUciItems pdu.puschUci)) :=
    encodes_attemptItems (by simp [puschUciItems, Item.Fits])
  have hptrs : Encodes limit (packPuschPtrs limit pdu.puschPtrs) (puschPtrsBytes pdu.puschPtrs) :=
    encodes_packPuschPtrs hfits.ports
  have hdfts : Encodes limit (attemptItems limit (dftsOfdmItems pdu.dftsOfdm))
      (itemsBytes (dftsOfdmItems pdu.dftsOfdm)) :=
    encodes_attemptItems (by simp [dftsOfdmItems, Item.Fits])
  unfold packPuschOptional puschOptionalBytes
  infer_instance

theorem encodes_packPusch (hfits : pdu.Fits) :
    Encodes limit (packUlTtiRequestPuschPdu limit pdu) (puschBytes pdu) := by
  have hitems : Encodes limit (pushItems limit (puschFrontItems pdu ++ puschBackItems pdu))
      (itemsBytes (puschFrontItems pdu ++ puschBackItems pdu)) := by
    have hemits : Emits limit (pushItems limit (puschFrontItems pdu ++ puschBackItems pdu)) _ :=
      emits_pushItems (by simp [puschFrontItems, puschBackItems, Item.Fits, hfits.rbBitmap])
    exact hemits.encodes
  have hoptional := @encodes_packPuschOptional limit pdu hfits
  have hbeamforming := @encodes_packBeamforming limit _ hfits.beamforming.numPrgs
    hfits.beamforming.prgsList
  unfold packUlTtiRequestPuschPdu puschBytes
  infer_instance

/-- The decoder sets neither the identity nor the bitmap. -/
theorem unpackPusch_keeps : (unpackUlTtiRequestPuschPdu limit).Keeps
    fun pdu ↦ (pdu.puschIdentity, pdu.rbBitmap) := by
  apply Fill.Keeps.andThen
  · apply keeps_fillSteps
    simp [puschFrontSteps, puschBackSteps, Step.Keeps]
  · apply Fill.Keeps.look
    intro seen
    unfold unpackPuschOptional
    split_ifs
    · exact Fill.keeps_component fun _ _ ↦ rfl
    · exact Fill.keeps_component fun _ _ ↦ rfl
    · exact Fill.keeps_component fun _ _ ↦ rfl
    · exact Fill.keeps_component fun _ _ ↦ rfl
    · apply keeps_attemptSteps
      simp [Step.Keeps]

/-- What the decoder finds for a PUSCH PDU whose identity and bitmap are zero. -/
def puschFound (pdu : PuschPdu) : List Item :=
  puschFrontItems pdu ++ [.u8 0, .u8 0, .u16 (wordOf pdu.scid pdu.numDmrsCdmGrpsNoData),
    .u8 (highByte pdu.dmrsPorts), .u8 (lowByte pdu.dmrsPorts), .u16 (wordOf pdu.resourceAlloc 0),
    .u16 0, .u16 0, .u8 0, .u8 0, .u16 0, .u8 0, .u8 0, .u8 0]

/-- A PUSCH PDU whose identity and bitmap are zero, as far as both sides have it. -/
def PuschPdu.misread (pdu : PuschPdu) : PuschPdu :=
  { pdu with
    puschIdentity := 0
    scid := 0
    numDmrsCdmGrpsNoData := 0
    dmrsPorts := wordOf pdu.resourceAlloc 0
    resourceAlloc := lowByte pdu.dmrsPorts
    rbBitmap := List.replicate 36 0
    rbStart := 0
    rbSize := 0
    vrbToPrbMapping := 0
    frequencyHopping := 0
    txDirectCurrentLocation := 0
    uplinkFrequencyShift7p5khz := 0
    startSymbolIndex := 0
    nrOfSymbols := 0
    puschData := {}
    puschUci := {}
    puschPtrs := {}
    dftsOfdm := {}
    beamforming := {} }

/-- Most of the bitmap is left over. -/
theorem puschBytes_of_zero (hidentity : pdu.puschIdentity = 0)
    (hbitmap : pdu.rbBitmap = List.replicate 36 0) :
    ∃ tail, puschBytes pdu =
      itemsBytes (puschFound pdu) ++ (List.replicate 24 0 ++ tail) := by
  refine ⟨itemsBytes [.u16 pdu.rbStart, .u16 pdu.rbSize, .u8 pdu.vrbToPrbMapping,
    .u8 pdu.frequencyHopping, .u16 pdu.txDirectCurrentLocation, .u8 pdu.uplinkFrequencyShift7p5khz,
    .u8 pdu.startSymbolIndex, .u8 pdu.nrOfSymbols] ++
      (puschOptionalBytes pdu ++ beamformingBytes pdu.beamforming), ?_⟩
  unfold puschBytes puschFound puschBackItems itemsBytes
  rw [hidentity, hbitmap]
  simp only [List.flatMap_append, List.flatMap_cons, List.flatMap_nil, Item.bytes, bytes16_wordOf]
  rfl

theorem fills_puschFound : Fills limit (fillSteps limit (puschFrontSteps ++ puschBackSteps)) default
    (itemsBytes (puschFound pdu)) pdu.misread := fills_fillSteps rfl

/-- A port is stored behind a null pointer. -/
theorem unpackPuschPtrs_crash {mem : Memory} {pos : ℕ}
    (hholds : Holds mem pos (List.replicate 5 0)) (hlimit : pos + 5 ≤ limit) :
    unpackPuschPtrs limit mem {} pos = .error .fault := by
  have hsplit : List.replicate 5 (0 : UInt8) =
      itemsBytes [.u8 0] ++ itemsBytes [.u8 0, .u16 0, .u8 0] := rfl
  rw [hsplit, holds_append] at hholds
  have hnumber : Fills limit (fillSteps limit
      [.pull8 fun (ptrs : PuschPtrs) numPtrsPorts ↦ { ptrs with numPtrsPorts }]) {}
      (itemsBytes [.u8 0]) {} := fills_fillSteps rfl
  have hport : Fills limit (fillSteps limit ptrsPortSteps) {} (itemsBytes [.u8 0, .u16 0, .u8 0])
      {} := fills_fillSteps rfl
  unfold unpackPuschPtrs
  apply hnumber.andThen_crash hholds.1 (Nat.le_trans (Nat.add_le_add_left (by decide) pos) hlimit)
  apply crash_andThen
  exact elementOrBeyond_crash (Nat.le_refl 0) hport (by decide) hholds.2 hlimit

/-- Among zeros the optional part takes at most ten of them. A list of PTRS ports, of which there is
none, is not read at all. -/
theorem unpackPuschOptional_zeros {pduBitMap : UInt16} {seen value : PuschPdu} {mem : Memory}
    {pos next : ℕ} {went : Bool} (hptrs : seen.puschPtrs = {})
    (hholds : Holds mem pos (List.replicate 24 0)) (hlimit : pos + 24 ≤ limit)
    (hrun : unpackPuschOptional limit pduBitMap mem seen pos = .ok (went, value, next)) :
    ∃ count, count ≤ 10 ∧ next = pos + count := by
  have htake (count : ℕ) (hcount : count ≤ 24) : Holds mem pos (List.replicate count 0) := by
    have hsplit : List.replicate 24 (0 : UInt8) =
        List.replicate count 0 ++ List.replicate (24 - count) 0 := by
      rw [List.replicate_append_replicate, Nat.add_sub_cancel' hcount]
    rw [hsplit, holds_append] at hholds
    exact hholds.1
  have hpart {x : Fill PuschPdu} {items : List Item} {value' : PuschPdu} (count : ℕ)
      (hcount : count ≤ 10) (hbytes : itemsBytes items = List.replicate count 0)
      (hfills : Fills limit x seen (itemsBytes items) value')
      (hx : x mem seen pos = .ok (went, value, next)) :
      ∃ count, count ≤ 10 ∧ next = pos + count := by
    have hroom : pos + (itemsBytes items).length ≤ limit := by
      rw [hbytes, List.length_replicate]
      omega
    have hhere : Holds mem pos (itemsBytes items) := hbytes ▸ htake count (by omega)
    have hsame := (hfills mem pos hhere hroom).symm.trans hx
    rw [hbytes, List.length_replicate] at hsame
    cases hsame
    exact ⟨count, hcount, rfl⟩
  unfold unpackPuschOptional at hrun
  split_ifs at hrun
  · exact @hpart _ [.u8 0, .u8 0, .u32 0, .u16 0, .array8 [0] 1 1] _ 9 (by decide) rfl
      (Fills.component (fills_fillSteps rfl)) hrun
  · exact @hpart _ [.u16 0, .u16 0, .u16 0, .u8 0, .u8 0, .u8 0, .u8 0] _ 10 (by decide) rfl
      (Fills.component (fills_fillSteps rfl)) hrun
  · have hcrash : unpackPuschPtrs limit mem seen.puschPtrs pos = .error .fault := by
      rw [hptrs]
      exact unpackPuschPtrs_crash (htake 5 (by decide)) (by omega)
    cases (component_crash hcrash).symm.trans hrun
  · exact @hpart _ [.u8 0, .u16 0, .u8 0, .u8 0] _ 5 (by decide) rfl
      (Fills.component (fills_fillSteps rfl)) hrun
  · exact @hpart _ [.u16 0, .u16 0, .u8 0] _ 5 (by decide) rfl (fills_attemptSteps rfl) hrun

end Pusch

/-! ### SRS -/

/-- `nfapi_nr_srs_pdu_t`. -/
structure SrsPdu where
  rnti : UInt16 := 0
  handle : UInt32 := 0
  bwpSize : UInt16 := 0
  bwpStart : UInt16 := 0
  subcarrierSpacing : UInt8 := 0
  cyclicPrefix : UInt8 := 0
  numAntPorts : UInt8 := 0
  numSymbols : UInt8 := 0
  numRepetitions : UInt8 := 0
  timeStartPosition : UInt8 := 0
  configIndex : UInt8 := 0
  sequenceId : UInt16 := 0
  bandwidthIndex : UInt8 := 0
  combSize : UInt8 := 0
  combOffset : UInt8 := 0
  cyclicShift : UInt8 := 0
  frequencyPosition : UInt8 := 0
  frequencyShift : UInt16 := 0
  frequencyHopping : UInt8 := 0
  groupOrSequenceHopping : UInt8 := 0
  resourceType : UInt8 := 0
  tSrs : UInt16 := 0
  tOffset : UInt16 := 0
  beamforming : UlBeamforming := {}
  deriving DecidableEq, Repr

instance : Inhabited SrsPdu := ⟨{}⟩

def srsItems (pdu : SrsPdu) : List Item :=
  [.u16 pdu.rnti, .u32 pdu.handle, .u16 pdu.bwpSize, .u16 pdu.bwpStart, .u8 pdu.subcarrierSpacing,
    .u8 pdu.cyclicPrefix, .u8 pdu.numAntPorts, .u8 pdu.numSymbols, .u8 pdu.numRepetitions,
    .u8 pdu.timeStartPosition, .u8 pdu.configIndex, .u16 pdu.sequenceId, .u8 pdu.bandwidthIndex,
    .u8 pdu.combSize, .u8 pdu.combOffset, .u8 pdu.cyclicShift, .u8 pdu.frequencyPosition,
    .u16 pdu.frequencyShift, .u8 pdu.frequencyHopping, .u8 pdu.groupOrSequenceHopping,
    .u8 pdu.resourceType, .u16 pdu.tSrs, .u16 pdu.tOffset]

/-- The beamforming is left out. -/
def packUlTtiRequestSrsPdu (limit : ℕ) (pdu : SrsPdu) : Push Unit := pushItems limit (srsItems pdu)

def srsSteps : List (Step SrsPdu) :=
  [.pull16 fun pdu rnti ↦ { pdu with rnti },
    .pull32 fun pdu handle ↦ { pdu with handle },
    .pull16 fun pdu bwpSize ↦ { pdu with bwpSize },
    .pull16 fun pdu bwpStart ↦ { pdu with bwpStart },
    .pull8 fun pdu subcarrierSpacing ↦ { pdu with subcarrierSpacing },
    .pull8 fun pdu cyclicPrefix ↦ { pdu with cyclicPrefix },
    .pull8 fun pdu numAntPorts ↦ { pdu with numAntPorts },
    .pull8 fun pdu numSymbols ↦ { pdu with numSymbols },
    .pull8 fun pdu numRepetitions ↦ { pdu with numRepetitions },
    .pull8 fun pdu timeStartPosition ↦ { pdu with timeStartPosition },
    .pull8 fun pdu configIndex ↦ { pdu with configIndex },
    .pull16 fun pdu sequenceId ↦ { pdu with sequenceId },
    .pull8 fun pdu bandwidthIndex ↦ { pdu with bandwidthIndex },
    .pull8 fun pdu combSize ↦ { pdu with combSize },
    .pull8 fun pdu combOffset ↦ { pdu with combOffset },
    .pull8 fun pdu cyclicShift ↦ { pdu with cyclicShift },
    .pull8 fun pdu frequencyPosition ↦ { pdu with frequencyPosition },
    .pull16 fun pdu frequencyShift ↦ { pdu with frequencyShift },
    .pull8 fun pdu frequencyHopping ↦ { pdu with frequencyHopping },
    .pull8 fun pdu groupOrSequenceHopping ↦ { pdu with groupOrSequenceHopping },
    .pull8 fun pdu resourceType ↦ { pdu with resourceType },
    .pull16 fun pdu tSrs ↦ { pdu with tSrs },
    .pull16 fun pdu tOffset ↦ { pdu with tOffset }]

def unpackUlTtiRequestSrsPdu (limit : ℕ) : Fill SrsPdu := fillSteps limit srsSteps

/-- An SRS PDU as it arrives. -/
def SrsPdu.arrived (pdu : SrsPdu) : SrsPdu := { pdu with beamforming := {} }

theorem applySteps_srs {pdu : SrsPdu} :
    applySteps srsSteps (srsItems pdu) default = some pdu.arrived := rfl

/-! ### The list -/

/-- What is in a PDU, by its type. -/
inductive UlTtiBody where
  | prach (pdu : PrachPdu)
  | pusch (pdu : PuschPdu)
  | pucch (pdu : PucchPdu)
  | srs (pdu : SrsPdu)
  | other (pduType : UInt16) (unknown : 3 < pduType)

namespace UlTtiBody

def pduType : UlTtiBody → UInt16
  | prach _ => 0
  | pusch _ => 1
  | pucch _ => 2
  | srs _ => 3
  | other pduType _ => pduType

/-- The switch over the type. -/
def pack (limit : ℕ) : UlTtiBody → Push Unit
  | prach pdu => packUlTtiRequestPrachPdu limit pdu
  | pusch pdu => packUlTtiRequestPuschPdu limit pdu
  | pucch pdu => packUlTtiRequestPucchPdu limit pdu
  | srs pdu => packUlTtiRequestSrsPdu limit pdu
  | other _ _ => pure ()

/-- The switch over the type. The structure that is filled in has been set to zero. -/
def unpack (pduType : UInt16) (limit : ℕ) : Pull UlTtiBody :=
  if unknown : 3 < pduType then pure (other pduType unknown)
  else if pduType = 0 then prach <$> (unpackUlTtiRequestPrachPdu limit).toPull default
  else if pduType = 1 then pusch <$> (unpackUlTtiRequestPuschPdu limit).toPull default
  else if pduType = 2 then pucch <$> (unpackUlTtiRequestPucchPdu limit).toPull default
  else srs <$> (unpackUlTtiRequestSrsPdu limit).toPull default

/-- The type is one of the four, there are no PRGs, and the encoder finds all that it pushes. -/
def Fits : UlTtiBody → Prop
  | prach pdu => pdu.Fits
  | pusch pdu => pdu.Fits
  | pucch pdu => pdu.beamforming.Empty
  | srs _ => True
  | other _ _ => False

def bytes : UlTtiBody → List UInt8
  | prach pdu => prachBytes pdu
  | pusch pdu => puschBytes pdu
  | pucch pdu => pucchBytes pdu
  | srs pdu => itemsBytes (srsItems pdu)
  | other _ _ => []

/-- An SRS PDU, all of which is in the message. -/
def Carried : UlTtiBody → Prop
  | srs pdu => pdu.beamforming = {}
  | _ => False

variable {limit : ℕ} {body : UlTtiBody}

theorem encodes_pack (hfits : body.Fits) : Encodes limit (body.pack limit) body.bytes := by
  cases body with
  | prach pdu => exact encodes_packPrach hfits
  | pusch pdu => exact encodes_packPusch hfits
  | pucch pdu => exact encodes_packPucch hfits
  | srs pdu =>
    have hemits : Emits limit (pushItems limit (srsItems pdu)) (itemsBytes (srsItems pdu)) :=
      emits_pushItems (by simp [srsItems, Item.Fits])
    exact hemits.encodes
  | other pduType unknown => cases hfits

/-- The types of the PDUs take one byte. -/
theorem exists_low_pduType (hfits : body.Fits) : ∃ low, bytes16 body.pduType = [0, low] := by
  have htype : ∃ low : UInt8, body.pduType = low.toUInt16 := by
    cases body with
    | prach pdu => exact ⟨0, rfl⟩
    | pusch pdu => exact ⟨1, rfl⟩
    | pucch pdu => exact ⟨2, rfl⟩
    | srs pdu => exact ⟨3, rfl⟩
    | other pduType unknown => cases hfits
  obtain ⟨low, hlow⟩ := htype
  exact ⟨low, by rw [hlow, bytes16_toUInt16]⟩

end UlTtiBody

/-- `nfapi_nr_ul_tti_request_number_of_pdus_t`. -/
structure UlTtiPdu where
  pduSize : UInt16 := 0
  body : UlTtiBody := .prach {}

def packUlTtiPduListValue (limit : ℕ) (pdu : UlTtiPdu) : Push Unit :=
  packSized limit (Push.attempt (Push.push16 limit pdu.body.pduType))
    (Push.push16 limit pdu.pduSize) (pdu.body.pack limit)

def unpackUlTtiPduListValue (limit : ℕ) : Pull UlTtiPdu := do
  let pduType ← Pull.pull16 limit
  let pduSize ← Pull.pull16 limit
  let body ← UlTtiBody.unpack pduType limit
  return { pduSize, body }

def UlTtiPdu.bytes (pdu : UlTtiPdu) : List UInt8 := sizedBytes pdu.body.pduType pdu.body.bytes

/-- A PDU with the size that is packed. -/
def UlTtiPdu.content (pdu : UlTtiPdu) : UlTtiPdu :=
  { pdu with pduSize := (4 + pdu.body.bytes.length).toUInt16 }

section List

variable {limit : ℕ} {pdu : UlTtiPdu}

theorem encodes_packUlTtiPdu (hfits : pdu.body.Fits) :
    Encodes limit (packUlTtiPduListValue limit pdu) pdu.bytes :=
  encodes_packSized inferInstance inferInstance (UlTtiBody.encodes_pack hfits)

/-- An SRS PDU arrives without its beamforming. -/
theorem reads_srsPdu {srs : SrsPdu} (hbody : pdu.body = .srs srs) :
    Reads limit (unpackUlTtiPduListValue limit) pdu.bytes
      { pdu.content with body := .srs srs.arrived } := by
  have hsrs : Reads limit (UlTtiBody.unpack 3 limit) (itemsBytes (srsItems srs))
      (.srs srs.arrived) := by
    have hfill : Reads limit ((unpackUlTtiRequestSrsPdu limit).toPull default)
        (itemsBytes (srsItems srs)) srs.arrived := reads_toPull (fills_fillSteps applySteps_srs)
    exact hfill.map
  unfold UlTtiPdu.bytes UlTtiPdu.content
  rw [hbody]
  exact (reads_pull16 limit 3).bind ((reads_pull16 limit _).bind hsrs.map)

/-- What has the type of a PRACH PDU ends the program. -/
theorem stops_prachPdu (size : UInt16) :
    Stops limit (unpackUlTtiPduListValue limit) (bytes16 0 ++ bytes16 size) (.crash .fault) := by
  have hbody : Stops limit (UlTtiBody.unpack 0 limit) [] (.crash .fault) := by
    intro mem pos _ _
    show (UlTtiBody.prach <$> (unpackUlTtiRequestPrachPdu limit).toPull default) mem pos = _
    have hcrash : (unpackUlTtiRequestPrachPdu limit).toPull default mem pos =
        .error (.crash .fault) := by
      unfold Fill.toPull
      rw [unpackPrach_crash]
    exact Pull.bind_of_error hcrash
  have hrest : Stops limit (do
      let pduSize ← Pull.pull16 limit
      let body ← UlTtiBody.unpack 0 limit
      return ({ pduSize, body } : UlTtiPdu)) (bytes16 size ++ []) (.crash .fault) :=
    Stops.after (reads_pull16 limit size) hbody.bind
  rw [List.append_nil] at hrest
  exact Stops.after (reads_pull16 limit 0) hrest

variable {next : UlTtiPdu} {mem : Memory} {pos last : ℕ}

/-- The byte that a PUCCH PDU leaves over, if it is zero, and the first byte of the next PDU look
like the type of a PRACH PDU. -/
theorem unpack_after_pucch {pucch : PucchPdu} (hbody : pdu.body = .pucch pucch)
    (hnext : next.body.Fits) (hholds : Holds mem pos (pdu.bytes ++ next.bytes))
    (hlimit : pos + (pdu.bytes ++ next.bytes).length ≤ limit)
    (hrun : unpackUlTtiPduListValue limit mem pos = .ok (pdu.content, last)) :
    unpackUlTtiPduListValue limit mem last = .error (.crash .fault) := by
  have hpucch : Reads limit (UlTtiBody.unpack 2 limit) (itemsBytes (pucchFound pucch))
      (.pucch pucch.misread) := by
    have hfill : Reads limit ((unpackUlTtiRequestPucchPdu limit).toPull default)
        (itemsBytes (pucchFound pucch)) pucch.misread :=
      reads_toPull (fills_unpackPucch limit pucch)
    exact hfill.map
  have hread : Reads limit (unpackUlTtiPduListValue limit) (bytes16 2 ++
      (bytes16 pdu.content.pduSize ++ itemsBytes (pucchFound pucch)))
      { pduSize := pdu.content.pduSize, body := .pucch pucch.misread } :=
    (reads_pull16 limit 2).bind ((reads_pull16 limit _).bind hpucch.map)
  obtain ⟨low, hlow⟩ := UlTtiBody.exists_low_pduType hnext
  have hbytes : pdu.bytes ++ next.bytes = (bytes16 2 ++
      (bytes16 pdu.content.pduSize ++ itemsBytes (pucchFound pucch))) ++
        ([pucch.beamforming.digBfInterface, 0] ++
          (bytes16 (wordOf low (highByte (4 + next.body.bytes.length).toUInt16)) ++
            ([lowByte (4 + next.body.bytes.length).toUInt16] ++ next.body.bytes))) := by
    have hsize : pdu.content.pduSize = (4 + (pucchBytes pucch).length).toUInt16 := by
      unfold UlTtiPdu.content
      rw [hbody]
      rfl
    unfold UlTtiPdu.bytes sizedBytes
    rw [hbody, hlow, hsize, bytes16_wordOf]
    show bytes16 2 ++ (_ ++ pucchBytes pucch) ++ _ = _
    rw [pucchBytes_eq]
    simp only [List.append_assoc, List.cons_append, List.nil_append]
    rfl
  rw [hbytes, holds_append] at hholds
  rw [hbytes, List.length_append] at hlimit
  have hsame := (hread mem pos hholds.1 (by omega)).symm.trans hrun
  have hcontent := (Prod.mk.inj (Except.ok.inj hsame)).1
  have hbodies : UlTtiBody.pucch pucch.misread = .pucch pucch :=
    (congrArg UlTtiPdu.body hcontent).trans hbody
  have hnone : pucch.beamforming = {} :=
    congrArg PucchPdu.beamforming (UlTtiBody.pucch.inj hbodies).symm
  have hlast := (Prod.mk.inj (Except.ok.inj hsame)).2
  have hafter := hholds.2
  rw [hlast, hnone, ← List.append_assoc, holds_append] at hafter
  have hroom : last + 4 ≤ limit := by
    simp only [List.length_append, length_bytes16, List.length_cons, List.length_nil]
      at hlimit hlast
    omega
  exact stops_prachPdu _ mem last hafter.1 hroom

/-- Behind a type and a size that are known the body is decoded. -/
theorem unpack_of_header {type size : UInt16} {result : UlTtiPdu}
    (hholds : Holds mem pos (bytes16 type ++ bytes16 size)) (hlimit : pos + 4 ≤ limit)
    (hrun : unpackUlTtiPduListValue limit mem pos = .ok (result, last)) :
    UlTtiBody.unpack type limit mem (pos + 4) = .ok (result.body, last) := by
  rw [holds_append] at hholds
  unfold unpackUlTtiPduListValue at hrun
  have hfirst : pos + (bytes16 type).length ≤ limit := by
    rw [length_bytes16]
    omega
  rw [Pull.bind_of_ok (reads_pull16 limit type mem pos hholds.1 hfirst),
    Pull.bind_of_ok (reads_pull16 limit size mem _ hholds.2 hlimit)] at hrun
  obtain ⟨body, hbody, rfl⟩ := Pull.map_eq_ok.mp hrun
  exact hbody

/-- The zeros of the bitmap that a PUSCH PDU leaves over look like the type of a PRACH PDU. -/
theorem unpack_after_pusch {pusch : PuschPdu} (hbody : pdu.body = .pusch pusch)
    (hholds : Holds mem pos pdu.bytes) (hlimit : pos + pdu.bytes.length ≤ limit)
    (hrun : unpackUlTtiPduListValue limit mem pos = .ok (pdu.content, last)) :
    unpackUlTtiPduListValue limit mem last = .error (.crash .fault) := by
  have hbytes : pdu.bytes = (bytes16 1 ++ bytes16 pdu.content.pduSize) ++ puschBytes pusch := by
    unfold UlTtiPdu.bytes UlTtiPdu.content
    rw [hbody]
    rfl
  rw [hbytes, holds_append] at hholds
  rw [hbytes, List.length_append, List.length_append, length_bytes16, length_bytes16] at hlimit
  have hrest := unpack_of_header hholds.1 (by omega) hrun
  change UlTtiBody.unpack 1 limit mem (pos + 4) = .ok (pdu.body, last) at hrest
  rw [hbody] at hrest
  obtain ⟨pusch', hpull, hsame⟩ := Pull.map_eq_ok.mp hrest
  cases hsame
  have hfill := toPull_eq_ok.mp hpull
  have hkept := unpackPusch_keeps mem default (pos + 4) true pusch last hfill
  obtain ⟨tail, hzeros⟩ := puschBytes_of_zero (Prod.mk.inj hkept).1 (Prod.mk.inj hkept).2
  have hafter : Holds mem (pos + 4) (puschBytes pusch) := hholds.2
  rw [hzeros, holds_append, holds_append] at hafter
  rw [hzeros, List.length_append, List.length_append, List.length_replicate] at hlimit
  have hoptional : unpackPuschOptional limit pusch.misread.pduBitMap mem pusch.misread
      (pos + 4 + (itemsBytes (puschFound pusch)).length) = .ok (true, pusch, last) := by
    unfold unpackUlTtiRequestPuschPdu Fill.andThen at hfill
    rw [fills_puschFound mem (pos + 4) hafter.1 (by omega)] at hfill
    exact hfill
  obtain ⟨count, hcount, rfl⟩ := unpackPuschOptional_zeros rfl hafter.2.1 (by omega) hoptional
  have hsplit : List.replicate 24 (0 : UInt8) = List.replicate count 0 ++
      ((bytes16 0 ++ bytes16 0) ++ List.replicate (20 - count) 0) := by
    have hfour : bytes16 0 ++ bytes16 0 = List.replicate 4 (0 : UInt8) := rfl
    rw [hfour, List.replicate_append_replicate, List.replicate_append_replicate]
    congr 1
    omega
  have hleft := hafter.2.1
  rw [hsplit, holds_append, holds_append, List.length_replicate] at hleft
  exact stops_prachPdu 0 mem _ hleft.2.1 (show _ + 4 ≤ limit by omega)

end List

/-! ### The request -/

/-- `nfapi_nr_ul_tti_request_number_of_groups_t`. -/
structure UlTtiGroup where
  nUe : UInt8 := 0
  ueList : List UInt8 := []
  deriving DecidableEq, Repr

/-- `nfapi_nr_ul_tti_request_t`. -/
structure UlTtiRequest where
  sfn : UInt16 := 0
  slot : UInt16 := 0
  nPdus : UInt8 := 0
  rachPresent : UInt8 := 0
  nUlsch : UInt8 := 0
  nUlcch : UInt8 := 0
  nGroup : UInt8 := 0
  pdusList : List UlTtiPdu := []
  groupsList : List UlTtiGroup := []

instance : Inhabited UlTtiRequest := ⟨{}⟩

def nrUlTtiRequest : UInt16 := 0x81

/-- `NFAPI_MAX_NUM_GROUPS`. -/
def maxNumGroups : ℕ := 8

/-- `NFAPI_MAX_NUM_UL_UE_PER_GROUP`. -/
def maxNumUlUePerGroup : ℕ := 6

/-- The encoder counts the PDUs that are in use. -/
def countOf (pduType : UInt16) (request : UlTtiRequest) : UInt8 :=
  UInt8.ofNat ((request.pdusList.take request.nPdus.toNat).countP
    fun pdu ↦ pdu.body.pduType = pduType)

/-- The request with the counts that the encoder stores in it. -/
def UlTtiRequest.counted (request : UlTtiRequest) : UlTtiRequest :=
  { request with nUlcch := countOf 2 request, nUlsch := countOf 1 request }

def packUlTtiGroupsListValue (limit : ℕ) (group : UlTtiGroup) : Push Unit := do
  Push.push8 limit group.nUe
  packElements group.nUe.toNat (Push.push8 limit) group.ueList

def ulTtiItems (request : UlTtiRequest) : List Item :=
  [.u16 request.sfn, .u16 request.slot, .u8 request.nPdus, .u8 request.rachPresent,
    .u8 request.nUlsch, .u8 request.nUlcch, .u8 request.nGroup]

def packUlTtiRequest (limit : ℕ) (request : UlTtiRequest) : Push Unit := do
  pushItems limit (ulTtiItems request.counted)
  packElements request.nPdus.toNat (packUlTtiPduListValue limit) request.pdusList
  packElements request.nGroup.toNat (packUlTtiGroupsListValue limit) request.groupsList

/-- The two counts are read in the other order. -/
def ulTtiSteps : List (Step UlTtiRequest) :=
  [.pull16 fun request sfn ↦ { request with sfn },
    .pull16 fun request slot ↦ { request with slot },
    .pull8 fun request nPdus ↦ { request with nPdus },
    .pull8 fun request rachPresent ↦ { request with rachPresent },
    .pull8 fun request nUlcch ↦ { request with nUlcch },
    .pull8 fun request nUlsch ↦ { request with nUlsch },
    .pull8 fun request nGroup ↦ { request with nGroup }]

/-- The first write to an element behind the end of a list. -/
def outsideList {α : Type} (limit : ℕ) : Pull α := do
  let _ ← Pull.pull8 limit
  Pull.crash .fault

def unpackUlTtiGroupsListValue (limit : ℕ) : Pull UlTtiGroup := do
  let nUe ← Pull.pull8 limit
  let ueList ← Pull.fillList (Pull.pull8 limit) (outsideList limit) maxNumUlUePerGroup nUe.toNat
  return { nUe, ueList }

/-- The list of the PDUs has a place for each that a byte can count. -/
def unpackUlTtiRequest (limit : ℕ) : Pull UlTtiRequest := do
  let request ← (fillSteps limit ulTtiSteps).toPull default
  let pdusList ← Pull.repeatPull (unpackUlTtiPduListValue limit) request.nPdus.toNat
  let groupsList ← Pull.fillList (unpackUlTtiGroupsListValue limit) (outsideList limit) maxNumGroups
    request.nGroup.toNat
  return { request with pdusList, groupsList }

/-- `nfapi_nr_p7_message_pack` of a request in a message with this header. -/
def packMessageUlTti (limit : ℕ) (header : P7MessageHeader) (request : UlTtiRequest) :
    Outcome (Option (List UInt8)) :=
  packMessage (packUlTtiRequest limit request) limit { header with messageId := nrUlTtiRequest }

/-- `nfapi_nr_p7_message_unpack` of a message with a UL_TTI request. -/
def unpackMessageUlTti : Memory → ℕ → Outcome (Option UlTtiRequest) :=
  messageUnpack (caseOf nrUlTtiRequest unpackUlTtiRequest)

/-- The counts fit the arrays, and the PDUs and groups are as long as they say. -/
structure UlTtiRequest.Fits (request : UlTtiRequest) : Prop where
  pdus : request.pdusList.length = request.nPdus.toNat
  bodies : ∀ pdu ∈ request.pdusList, pdu.body.Fits
  groups : request.groupsList.length = request.nGroup.toNat
  groups_le : request.nGroup.toNat ≤ maxNumGroups
  ues : ∀ group ∈ request.groupsList, group.ueList.length = group.nUe.toNat
  ues_le : ∀ group ∈ request.groupsList, group.nUe.toNat ≤ maxNumUlUePerGroup

/-- The request as it is to arrive, with the sizes and counts that the encoder stores in it. -/
def UlTtiRequest.content (request : UlTtiRequest) : UlTtiRequest :=
  { request.counted with pdusList := request.pdusList.map UlTtiPdu.content }

/-- All PDUs are SRS PDUs without beamforming. -/
def UlTtiRequest.Carried (request : UlTtiRequest) : Prop :=
  ∀ pdu ∈ request.pdusList, pdu.body.Carried

/-- The request survives its codec: it is packed into a buffer that is large enough, and what is
packed is unpacked to the same. -/
def UlTtiRequest.RoundTrips (request : UlTtiRequest) (header : P7MessageHeader) : Prop :=
  ∃ room, ∀ limit, room ≤ limit → ∃ packed,
    packMessageUlTti limit header request = .ok (some packed) ∧
      unpackMessageUlTti (memoryOf packed) packed.length = .ok (some request.content)

def groupBytes (group : UlTtiGroup) : List UInt8 := [group.nUe] ++ group.ueList

def ulTtiBytes (request : UlTtiRequest) : List UInt8 :=
  itemsBytes (ulTtiItems request.counted) ++ (request.pdusList.flatMap UlTtiPdu.bytes ++
    request.groupsList.flatMap groupBytes)

section Request

variable {limit : ℕ} {request : UlTtiRequest}

theorem encodes_packGroup {group : UlTtiGroup} (hues : group.ueList.length = group.nUe.toNat) :
    Encodes limit (packUlTtiGroupsListValue limit group) (groupBytes group) := by
  have hlist : Encodes limit (packElements group.ueList.length (Push.push8 limit) group.ueList)
      (group.ueList.flatMap fun pduIdx ↦ [pduIdx]) :=
    encodes_packElements fun pduIdx _ ↦ inferInstance
  rw [hues, List.flatMap_singleton'] at hlist
  unfold packUlTtiGroupsListValue groupBytes
  infer_instance

theorem encodes_packUlTti (hfits : request.Fits) :
    Encodes limit (packUlTtiRequest limit request) (ulTtiBytes request) := by
  have hitems : Encodes limit (pushItems limit (ulTtiItems request.counted))
      (itemsBytes (ulTtiItems request.counted)) := by
    have hemits : Emits limit (pushItems limit (ulTtiItems request.counted)) _ :=
      emits_pushItems (by simp [ulTtiItems, Item.Fits])
    exact hemits.encodes
  have hpdus : Encodes limit (packElements request.pdusList.length (packUlTtiPduListValue limit)
      request.pdusList) (request.pdusList.flatMap UlTtiPdu.bytes) :=
    encodes_packElements fun pdu hpdu ↦ encodes_packUlTtiPdu (hfits.bodies pdu hpdu)
  have hgroups : Encodes limit (packElements request.groupsList.length
      (packUlTtiGroupsListValue limit) request.groupsList)
      (request.groupsList.flatMap groupBytes) :=
    encodes_packElements fun group hgroup ↦ encodes_packGroup (hfits.ues group hgroup)
  rw [hfits.pdus] at hpdus
  rw [hfits.groups] at hgroups
  unfold packUlTtiRequest ulTtiBytes
  infer_instance

theorem reads_unpackGroup {group : UlTtiGroup} (hues : group.ueList.length = group.nUe.toNat)
    (hmax : group.nUe.toNat ≤ maxNumUlUePerGroup) :
    Reads limit (unpackUlTtiGroupsListValue limit) (groupBytes group) group := by
  have hlist : Reads limit (Pull.fillList (Pull.pull8 limit) (outsideList limit) maxNumUlUePerGroup
      group.ueList.length) (group.ueList.flatMap fun pduIdx ↦ [pduIdx]) (group.ueList.map id) :=
    reads_fillList (Nat.le_trans (Nat.le_of_eq hues) hmax) fun pduIdx _ ↦ reads_pull8 limit pduIdx
  rw [List.flatMap_singleton', List.map_id, hues] at hlist
  exact (reads_pull8 limit group.nUe).bind hlist.map

/-- The counts of a request as they arrive, in front of the lists. -/
def UlTtiRequest.swapped (request : UlTtiRequest) : UlTtiRequest :=
  { request.counted with
    nUlsch := countOf 2 request
    nUlcch := countOf 1 request
    pdusList := []
    groupsList := [] }

theorem reads_counts : Reads limit ((fillSteps limit ulTtiSteps).toPull default)
    (itemsBytes (ulTtiItems request.counted)) request.swapped := reads_toPull (fills_fillSteps rfl)

theorem reads_groups (hfits : request.Fits) :
    Reads limit (Pull.fillList (unpackUlTtiGroupsListValue limit) (outsideList limit) maxNumGroups
      request.nGroup.toNat) (request.groupsList.flatMap groupBytes) request.groupsList := by
  have hlist : Reads limit (Pull.fillList (unpackUlTtiGroupsListValue limit) (outsideList limit)
      maxNumGroups request.groupsList.length) (request.groupsList.flatMap groupBytes)
      (request.groupsList.map id) :=
    reads_fillList (Nat.le_trans (Nat.le_of_eq hfits.groups) hfits.groups_le) fun group hgroup ↦
      reads_unpackGroup (hfits.ues group hgroup) (hfits.ues_le group hgroup)
  rwa [List.map_id, hfits.groups] at hlist

/-- There is nothing to count in a request with SRS PDUs. -/
theorem UlTtiRequest.Carried.countOf_eq (h : request.Carried) {pduType : UInt16}
    (htype : pduType ≠ 3) : countOf pduType request = 0 := by
  have hzero : (request.pdusList.take request.nPdus.toNat).countP
      (fun pdu ↦ pdu.body.pduType = pduType) = 0 := by
    apply List.countP_eq_zero.mpr
    intro pdu hpdu
    have hcarried := h pdu (List.mem_of_mem_take hpdu)
    cases hbody : pdu.body with
    | srs srs =>
      have hne : ¬ (3 : UInt16) = pduType := htype.symm
      simp [UlTtiBody.pduType, hne]
    | prach pdu =>
      rw [hbody] at hcarried
      cases hcarried
    | pusch pdu =>
      rw [hbody] at hcarried
      cases hcarried
    | pucch pdu =>
      rw [hbody] at hcarried
      cases hcarried
    | other pduType unknown =>
      rw [hbody] at hcarried
      cases hcarried
  unfold countOf
  rw [hzero]
  rfl

/-- A request with SRS PDUs is read as it was. -/
theorem reads_unpackUlTti (hfits : request.Fits) (hcarried : request.Carried) :
    Reads limit (unpackUlTtiRequest limit) (ulTtiBytes request) request.content := by
  have hpdu : ∀ pdu ∈ request.pdusList,
      Reads limit (unpackUlTtiPduListValue limit) pdu.bytes pdu.content := by
    intro pdu hmem
    have hbody := hcarried pdu hmem
    cases hsrs : pdu.body with
    | srs srs =>
      rw [hsrs] at hbody
      have hnone : srs.beamforming = {} := hbody
      have harrived : srs.arrived = srs := by
        unfold SrsPdu.arrived
        rw [← hnone]
      have hread := @reads_srsPdu limit pdu srs hsrs
      rw [harrived, ← hsrs] at hread
      exact hread
    | prach pdu =>
      rw [hsrs] at hbody
      cases hbody
    | pusch pdu =>
      rw [hsrs] at hbody
      cases hbody
    | pucch pdu =>
      rw [hsrs] at hbody
      cases hbody
    | other pduType unknown =>
      rw [hsrs] at hbody
      cases hbody
  have hpdus : Reads limit (Pull.repeatPull (unpackUlTtiPduListValue limit)
      request.pdusList.length) (request.pdusList.flatMap UlTtiPdu.bytes)
      (request.pdusList.map UlTtiPdu.content) := reads_repeatPull hpdu
  rw [hfits.pdus] at hpdus
  have hcounts : request.swapped = { request.counted with pdusList := [], groupsList := [] } := by
    unfold UlTtiRequest.swapped UlTtiRequest.counted
    rw [hcarried.countOf_eq (by decide), hcarried.countOf_eq (by decide)]
  have hcontent : { request.swapped with
      pdusList := request.pdusList.map UlTtiPdu.content
      groupsList := request.groupsList } = request.content := by
    rw [hcounts]
    rfl
  rw [← hcontent]
  unfold unpackUlTtiRequest ulTtiBytes
  exact reads_counts.bind (hpdus.bind (reads_groups hfits).map)

/-- A PDU with the type of an SRS PDU is one. -/
theorem UlTtiBody.exists_srs {body : UlTtiBody} (hfits : body.Fits) (htype : body.pduType = 3) :
    ∃ srs, body = .srs srs := by
  cases body with
  | srs srs => exact ⟨srs, rfl⟩
  | prach pdu => exact absurd (show (0 : UInt16) = 3 from htype) (by decide)
  | pusch pdu => exact absurd (show (1 : UInt16) = 3 from htype) (by decide)
  | pucch pdu => exact absurd (show (2 : UInt16) = 3 from htype) (by decide)
  | other pduType unknown => cases hfits

/-- What is read for an SRS PDU. -/
def UlTtiPdu.arrived (pdu : UlTtiPdu) : UlTtiPdu :=
  match pdu.body with
  | .srs srs => { pdu.content with body := .srs srs.arrived }
  | _ => pdu.content

theorem reads_arrived {pdu : UlTtiPdu} (hfits : pdu.body.Fits) (htype : pdu.body.pduType = 3) :
    Reads limit (unpackUlTtiPduListValue limit) pdu.bytes pdu.arrived := by
  obtain ⟨srs, hbody⟩ := UlTtiBody.exists_srs hfits htype
  have hread := @reads_srsPdu limit pdu srs hbody
  unfold UlTtiPdu.arrived
  rwa [hbody]

/-- An SRS PDU that arrives as it is has no beamforming. -/
theorem carried_of_arrived {pdu : UlTtiPdu} (hfits : pdu.body.Fits) (htype : pdu.body.pduType = 3)
    (harrived : pdu.arrived = pdu.content) : pdu.body.Carried := by
  obtain ⟨srs, hbody⟩ := UlTtiBody.exists_srs hfits htype
  unfold UlTtiPdu.arrived at harrived
  rw [hbody] at harrived
  have hsame : UlTtiBody.srs srs.arrived = .srs srs := (congrArg UlTtiPdu.body harrived).trans hbody
  rw [hbody]
  exact (congrArg SrsPdu.beamforming (UlTtiBody.srs.inj hsame)).symm

/-- A PRACH PDU is not decoded. -/
theorem prach_not_unpacked {pdu : UlTtiPdu} {prach : PrachPdu} (hbody : pdu.body = .prach prach)
    {mem : Memory} {pos : ℕ} (hholds : Holds mem pos pdu.bytes)
    (hlimit : pos + pdu.bytes.length ≤ limit) :
    unpackUlTtiPduListValue limit mem pos = .error (.crash .fault) := by
  have hbytes : pdu.bytes = (bytes16 0 ++ bytes16 pdu.content.pduSize) ++ prachBytes prach := by
    unfold UlTtiPdu.bytes UlTtiPdu.content
    rw [hbody]
    rfl
  rw [hbytes, holds_append] at hholds
  rw [hbytes, List.length_append] at hlimit
  exact @stops_prachPdu limit pdu.content.pduSize mem pos hholds.1 (by omega)

/-- A PDU that is not an SRS PDU, but has come out right, is a PUSCH or PUCCH PDU, and behind it no
other one is decoded. -/
theorem unpack_other {bad : UlTtiPdu} {mem : Memory} {pos last : ℕ}
    (hfits : bad.body.Fits) (htype : bad.body.pduType ≠ 3) (hholds : Holds mem pos bad.bytes)
    (hlimit : pos + bad.bytes.length ≤ limit)
    (hrun : unpackUlTtiPduListValue limit mem pos = .ok (bad.content, last)) :
    (bad.body.pduType = 1 ∨ bad.body.pduType = 2) ∧ ∀ next : UlTtiPdu, next.body.Fits →
      Holds mem pos (bad.bytes ++ next.bytes) → pos + (bad.bytes ++ next.bytes).length ≤ limit →
        unpackUlTtiPduListValue limit mem last = .error (.crash .fault) := by
  cases hbody : bad.body with
  | prach prach => cases (prach_not_unpacked hbody hholds hlimit).symm.trans hrun
  | pusch pusch =>
    exact ⟨Or.inl rfl, fun _ _ _ _ ↦ unpack_after_pusch hbody hholds hlimit hrun⟩
  | pucch pucch =>
    exact ⟨Or.inr rfl, fun _ hnext hboth hroom ↦ unpack_after_pucch hbody hnext hboth hroom hrun⟩
  | srs srs =>
    rw [hbody] at htype
    exact absurd rfl htype
  | other pduType unknown =>
    rw [hbody] at hfits
    cases hfits

/-- What is read of a list is right only if there are no others than SRS PDUs, or one other at the
end. -/
theorem carried_or_last (hfits : request.Fits) {mem : Memory} {pos last : ℕ}
    (hholds : Holds mem pos (request.pdusList.flatMap UlTtiPdu.bytes))
    (hlimit : pos + (request.pdusList.flatMap UlTtiPdu.bytes).length ≤ limit)
    (hrun : Pull.repeatPull (unpackUlTtiPduListValue limit) request.nPdus.toNat mem pos =
      .ok (request.pdusList.map UlTtiPdu.content, last)) :
    request.Carried ∨ ∃ front bad, request.pdusList = front ++ [bad] ∧
      (∀ pdu ∈ front, pdu.body.pduType = 3) ∧
        (bad.body.pduType = 1 ∨ bad.body.pduType = 2) := by
  rw [← hfits.pdus] at hrun
  cases hfind : request.pdusList.find? fun pdu ↦ pdu.body.pduType ≠ 3 with
  | none =>
    left
    have htype : ∀ pdu ∈ request.pdusList, pdu.body.pduType = 3 := by
      intro pdu hpdu
      simpa using List.find?_eq_none.mp hfind pdu hpdu
    have hread : Reads limit (Pull.repeatPull (unpackUlTtiPduListValue limit)
        request.pdusList.length) (request.pdusList.flatMap UlTtiPdu.bytes)
        (request.pdusList.map UlTtiPdu.arrived) := reads_repeatPull fun pdu hpdu ↦
      reads_arrived (hfits.bodies pdu hpdu) (htype pdu hpdu)
    have hsame := (hread mem pos hholds hlimit).symm.trans hrun
    have hlists := (Prod.mk.inj (Except.ok.inj hsame)).1
    intro pdu hpdu
    exact carried_of_arrived (hfits.bodies pdu hpdu) (htype pdu hpdu)
      (List.map_inj_left.mp hlists pdu hpdu)
  | some bad =>
    right
    obtain ⟨hbad, front, back, hlist, hfront⟩ := List.find?_eq_some_iff_append.mp hfind
    have htype : bad.body.pduType ≠ 3 := by simpa using hbad
    have hfrontType : ∀ pdu ∈ front, pdu.body.pduType = 3 := by
      intro pdu hpdu
      simpa using hfront pdu hpdu
    have hbodies := hfits.bodies
    rw [hlist] at hholds hlimit hrun hbodies
    rw [List.flatMap_append, holds_append, List.flatMap_cons] at hholds
    rw [List.flatMap_append, List.length_append, List.flatMap_cons] at hlimit
    rw [List.length_append, List.length_cons, List.map_append, List.map_cons] at hrun
    obtain ⟨rest, hvalues, hrest⟩ := @repeatPull_of_reads limit _ _ (unpackUlTtiPduListValue limit)
      UlTtiPdu.bytes UlTtiPdu.arrived front (fun pdu hpdu ↦
        reads_arrived (hbodies pdu (List.mem_append_left _ hpdu)) (hfrontType pdu hpdu))
      (back.length + 1) mem pos last _ hholds.1 (by omega) hrun
    obtain ⟨-, rfl⟩ := List.append_inj hvalues (by rw [List.length_map, List.length_map])
    obtain ⟨value, next, hvalue, hothers⟩ := Pull.bind_eq_ok.mp hrest
    obtain ⟨others, hothers, hcons⟩ := Pull.map_eq_ok.mp hothers
    obtain ⟨rfl, rfl⟩ := List.cons.inj hcons
    have hbadFits := hbodies bad (List.mem_append_right _ List.mem_cons_self)
    have hhere := (holds_append.mp hholds.2).1
    have hroom := hlimit
    rw [List.length_append] at hroom
    obtain ⟨hkind, hafter⟩ := unpack_other hbadFits htype hhere (by omega) hvalue
    refine ⟨front, bad, ?_, hfrontType, hkind⟩
    cases back with
    | nil => exact hlist
    | cons other back =>
      -- the element behind the bad one would have ended the program
      rw [List.flatMap_cons, ← List.append_assoc, holds_append] at hholds
      rw [List.flatMap_cons, ← List.append_assoc, List.length_append] at hlimit
      have hcrash := hafter other (hbodies other
        (List.mem_append_right _ (List.mem_cons_of_mem _ List.mem_cons_self))) hholds.2.1 (by omega)
      obtain ⟨first, last', hfirst, -⟩ := Pull.bind_eq_ok.mp hothers
      cases hcrash.symm.trans hfirst

/-- With one PUSCH or PUCCH PDU the two counts are not the same. -/
theorem countOf_ne (hfits : request.Fits) {front : List UlTtiPdu} {bad : UlTtiPdu}
    (hlist : request.pdusList = front ++ [bad]) (hfront : ∀ pdu ∈ front, pdu.body.pduType = 3)
    (hbad : bad.body.pduType = 1 ∨ bad.body.pduType = 2) :
    countOf 1 request ≠ countOf 2 request := by
  have hcount (pduType : UInt16) (hne : pduType ≠ 3) : countOf pduType request =
      if bad.body.pduType = pduType then 1 else 0 := by
    have hnone : front.countP (fun pdu ↦ pdu.body.pduType = pduType) = 0 := by
      apply List.countP_eq_zero.mpr
      intro pdu hpdu
      have hother : ¬ (3 : UInt16) = pduType := hne.symm
      simp [hfront pdu hpdu, hother]
    unfold countOf
    rw [← hfits.pdus, List.take_length, hlist, List.countP_append, hnone, List.countP_singleton]
    split_ifs <;> simp_all
  rw [hcount 1 (by decide), hcount 2 (by decide)]
  rcases hbad with h | h
  · rw [h]
    decide
  · rw [h]
    decide

/-- A request that is read as it was has only SRS PDUs, without beamforming. -/
theorem carried_of_unpack (hfits : request.Fits) {mem : Memory} {pos last : ℕ}
    (hholds : Holds mem pos (ulTtiBytes request))
    (hlimit : pos + (ulTtiBytes request).length ≤ limit)
    (hrun : unpackUlTtiRequest limit mem pos = .ok (request.content, last)) : request.Carried := by
  unfold ulTtiBytes at hholds hlimit
  rw [holds_append, holds_append] at hholds
  rw [List.length_append, List.length_append] at hlimit
  unfold unpackUlTtiRequest at hrun
  rw [Pull.bind_of_ok (reads_counts mem pos hholds.1 (by omega))] at hrun
  obtain ⟨pdusList, next, hpdus, hrest⟩ := Pull.bind_eq_ok.mp hrun
  obtain ⟨groupsList, -, hcontent⟩ := Pull.map_eq_ok.mp hrest
  have hlist : pdusList = request.pdusList.map UlTtiPdu.content :=
    congrArg UlTtiRequest.pdusList hcontent
  rw [hlist] at hpdus
  rcases carried_or_last hfits hholds.2.1 (by omega) hpdus with
    hcarried | ⟨front, bad, hsplit, hfront, hbad⟩
  · exact hcarried
  · have hcounts : countOf 2 request = countOf 1 request :=
      congrArg UlTtiRequest.nUlsch hcontent
    exact absurd hcounts.symm (countOf_ne hfits hsplit hfront hbad)

/-- With 255 SRS PDUs and eight groups of six UEs. -/
theorem UlTtiRequest.Carried.length_bytes_le (hfits : request.Fits) (hcarried : request.Carried) :
    (ulTtiBytes request).length ≤ 9500 := by
  have hpdus : (request.pdusList.flatMap UlTtiPdu.bytes).length ≤ request.pdusList.length * 37 := by
    apply length_flatMap_le
    intro pdu hpdu
    have hbody := hcarried pdu hpdu
    unfold UlTtiPdu.bytes
    rw [length_sizedBytes]
    cases hsrs : pdu.body with
    | srs srs => exact Nat.le_refl 37
    | _ =>
      rw [hsrs] at hbody
      cases hbody
  have hgroups : (request.groupsList.flatMap groupBytes).length ≤
      request.groupsList.length * 7 := by
    apply length_flatMap_le
    intro group hgroup
    have hues := hfits.ues group hgroup
    have hmax := hfits.ues_le group hgroup
    unfold maxNumUlUePerGroup at hmax
    unfold groupBytes
    rw [List.length_append, List.length_singleton]
    omega
  have hnumber := hfits.pdus
  have hcount := request.nPdus.toNat_lt
  have hgroupNumber := hfits.groups
  have hgroupMax := hfits.groups_le
  unfold maxNumGroups at hgroupMax
  have hitems : (itemsBytes (ulTtiItems request.counted)).length = 9 := rfl
  unfold ulTtiBytes
  rw [List.length_append, List.length_append]
  omega

theorem caseOf_ulTti (header : P7MessageHeader) (length : UInt16) :
    caseOf nrUlTtiRequest unpackUlTtiRequest
      (packedHeader { header with messageId := nrUlTtiRequest } length) limit =
        unpackUlTtiRequest limit := if_pos rfl

/-- A request with SRS PDUs is packed, and arrives. -/
theorem UlTtiRequest.Carried.packed (hfits : request.Fits) (hcarried : request.Carried)
    (header : P7MessageHeader) (hroom : p7HeaderLength + (ulTtiBytes request).length ≤ limit) :
    ∃ packed, packMessageUlTti limit header request = .ok (some packed) ∧
      unpackMessageUlTti (memoryOf packed) packed.length = .ok (some request.content) := by
  have hlength : p7HeaderLength + (ulTtiBytes request).length ≤ 0xFFFF := by
    have hbytes := hcarried.length_bytes_le hfits
    unfold p7HeaderLength
    omega
  refine ⟨_, packMessage_of_encodes (encodes_packUlTti hfits) _ hroom hlength, ?_⟩
  rw [length_header_append]
  apply messageUnpack_of_reads (Nat.le_of_eq (packedHeader_length hlength))
  rw [caseOf_ulTti]
  exact reads_unpackUlTti hfits hcarried

/-- What survives has only SRS PDUs. -/
theorem UlTtiRequest.RoundTrips.carried (hfits : request.Fits) {header : P7MessageHeader}
    (h : request.RoundTrips header) : request.Carried := by
  obtain ⟨room, h⟩ := h
  obtain ⟨packed, hpack, hunpack⟩ := h _ (Nat.le_max_left room
    (p7HeaderLength + (ulTtiBytes request).length))
  obtain ⟨hlength, rfl⟩ := packMessage_of_encodes_eq_some (encodes_packUlTti hfits)
    (Nat.le_max_right room _) hpack
  unfold unpackMessageUlTti at hunpack
  rw [length_header_append, messageUnpack_headerBytes (Nat.le_of_eq (packedHeader_length hlength)),
    Pull.run_eq_some] at hunpack
  obtain ⟨last, hrun⟩ := hunpack
  rw [caseOf_ulTti] at hrun
  exact carried_of_unpack hfits (holds_body _ _) (Nat.le_refl _) hrun

end Request

/-- A request with an SRS PDU and a group of one UE, whose it is. -/
def srsRequest : UlTtiRequest where
  sfn := 1
  slot := 8
  nPdus := 1
  nGroup := 1
  pdusList := [{ body := .srs { rnti := 0x1234 } }]
  groupsList := [{ nUe := 1, ueList := [0] }]

theorem srsRequest_fits : srsRequest.Fits where
  pdus := rfl
  bodies := by simp [srsRequest, UlTtiBody.Fits]
  groups := rfl
  groups_le := by decide
  ues := by decide
  ues_le := by decide

end MultiUeProxy.P7.NrUlTti
