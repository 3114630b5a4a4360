import MultiUeProxy.Downlink.SubframeBuffer

/-!
# The slot buffer

The counterpart of the subframe buffer for NR, `slot_buffer`. It has twenty cells in use, and of the
four requests only UL_TTI and UL_DCI are stored in it; DL_TTI and TX_DATA are passed to the proxy
and freed. The tick `pnf_p7_slot_ind` looks at the SFN and the slot of a request itself before it
hands it over, serves the cells of the slot six ahead and of its own slot, and empties the latter.

Its test for the last step has DL_TTI, TX_DATA and UL_TTI. `slotBuffer_kept_iff` says that no
request is lost exactly when a tick never finds a UL_DCI request in the cell of its own slot, and
`noRequestVanishes_iff` puts the two buffers together.
-/

set_option autoImplicit false
set_option relaxedAutoImplicit false

namespace MultiUeProxy.Downlink.SlotBuffer

open Lib.Execution Lib.CellBuffer

/-! ### Slot numbers -/

/-- `NFAPI_SFNSLOT2DEC`, for numerology 1. -/
def sfnSlot2Dec (sfn slot : UInt16) : ℕ := sfn.toNat * 20 + slot.toNat

/-- `NFAPI_MAX_SFNSLOTDEC`. -/
def maxSfnSlotDec : ℕ := 1024 * 20

/-- `slot_ahead`. -/
def slotAhead : ℕ := 6

/-- `sfnslot_add_slot`, with `add_slot`. -/
def sfnslotAddSlot (sfn slot : UInt16) (offset : ℕ) : ℕ :=
  (sfn.toNat + (slot.toNat + offset) / 20) % 1024 * 64 + (slot.toNat + offset) % 20

/-- `NFAPI_SFNSLOT2SFN`. -/
def sfnSlot2Sfn (sfnSlot : ℕ) : UInt16 := .ofNat (sfnSlot / 64)

/-- `NFAPI_SFNSLOT2SLOT`. -/
def sfnSlot2Slot (sfnSlot : ℕ) : UInt16 := .ofNat (sfnSlot % 64)

/-! ### The state of the PNF -/

/-- The requests that `nfapi_pnf_p7_slot_buffer_t` has a pointer to. -/
inductive RequestType where
  | dlTti
  | ulTti
  | ulDci
  | txData
  deriving DecidableEq

/-- A request: its time, and what else is in it. -/
structure Request (β : Type) where
  sfn : UInt16
  slot : UInt16
  body : β

/-- The tag of a cell. -/
structure CellTime where
  sfn : Int16
  slot : Int16

/-- The part of `nfapi_pnf_p7_config_t` that matters here. -/
structure Config (β : Type) where
  slotBufferSize : UInt16
  callback : RequestType → Bool
  dummySlot : RequestType → Option (Request β)

/-- What else is told of a request. -/
inductive Told (β : Type) where
  | transferred (k : RequestType) (req : Request β)
  | handed (k : RequestType) (sfn slot : UInt16) (req : Request β)

/-- `slot_buffer`, an array of 30 cells. -/
abbrev Cells (β : Type) := Buffer (Fin 30) RequestType CellTime (Request β)

abbrev SlotNote (β : Type) := Note (Fin 30) RequestType (Request β) (Told β)

/-- `pnf_p7_t`. -/
structure PnfP7 (β : Type) where
  sfn : UInt16
  slot : UInt16
  slotShift : Int32
  slotBuffer : Cells β

/-- The memory is zero at the beginning. -/
def PnfP7.initial (β : Type) : PnfP7 β := ⟨0, 0, 0, fun _ ↦ ⟨⟨0, 0⟩, fun _ ↦ none⟩⟩

section Machine

variable {β : Type} (cfg : Config β)

/-- The cell of a slot: the index is taken modulo 20. -/
def bufferIndex (sfn slot : UInt16) : Fin 30 :=
  ⟨sfnSlot2Dec sfn slot % 20, Nat.lt_of_lt_of_le (Nat.mod_lt _ (Nat.zero_lt_succ 19))
    (Nat.le_add_right 20 10)⟩

/-- `is_nr_p7_request_in_window`. The last branch, for a request that is too late, accepts it like
the others. -/
def isNrP7RequestInWindow (p : PnfP7 β) (sfn slot : UInt16) : Bool :=
  let recv := sfnSlot2Dec sfn slot
  let current := sfnSlot2Dec p.sfn p.slot
  let timingWindow := cfg.slotBufferSize.toNat % 256
  if current ≤ recv + timingWindow then true
  else if current + maxSfnSlotDec ≤ recv + timingWindow then true
  else true

/-- `pnf_handle_dl_tti_request` and `pnf_handle_tx_data_request`: the request is passed to the proxy
and freed. -/
def passRequest (k : RequestType) (p : PnfP7 β) (unpacked : Option (Request β)) :
    List (SlotNote β) × PnfP7 β :=
  match unpacked with
  | none => ([], p)
  | some req => ([.told (.transferred k req)], p)

/-- The text of the other two handlers, which give the cell a tag of their own. -/
def handleRequest (k : RequestType) (tag : CellTime → Request β → CellTime) (p : PnfP7 β)
    (unpacked : Option (Request β)) : List (SlotNote β) × PnfP7 β :=
  match unpacked with
  | none => ([], p)
  | some req =>
    if isNrP7RequestInWindow cfg p req.sfn req.slot then
      let index := bufferIndex req.sfn req.slot
      let (notes, buffer) :=
        p.slotBuffer.store index k (tag (p.slotBuffer index).tag req) req [.transferred k req]
      (notes, { p with slotBuffer := buffer })
    else ([], p)

/-- `pnf_handle_dl_tti_request`. -/
def pnfHandleDlTtiRequest : PnfP7 β → Option (Request β) → List (SlotNote β) × PnfP7 β :=
  passRequest .dlTti

/-- `pnf_handle_tx_data_request`. -/
def pnfHandleTxDataRequest : PnfP7 β → Option (Request β) → List (SlotNote β) × PnfP7 β :=
  passRequest .txData

/-- `pnf_handle_ul_tti_request`. -/
def pnfHandleUlTtiRequest : PnfP7 β → Option (Request β) → List (SlotNote β) × PnfP7 β :=
  handleRequest cfg .ulTti fun _ req ↦ ⟨req.sfn.toInt16, req.slot.toInt16⟩

/-- `pnf_handle_ul_dci_request`, which leaves the slot in the tag as it is. -/
def pnfHandleUlDciRequest : PnfP7 β → Option (Request β) → List (SlotNote β) × PnfP7 β :=
  handleRequest cfg .ulDci fun tag req ↦ { tag with sfn := req.sfn.toInt16 }

/-- `pnf_nr_handle_dl_node_sync`, as far as the shift goes. -/
def pnfNrHandleDlNodeSync (p : PnfP7 β) (deltaSfnSlot : Int32) : PnfP7 β :=
  if deltaSfnSlot ≠ 0 then { p with slotShift := deltaSfnSlot } else p

/-- A request that has the time of the slot goes to its callback, if there is one, and the dummy
takes the place of any other. -/
def handOver (sfn slot : UInt16) (k : RequestType) (req : Option (Request β)) : List (Told β) :=
  match req.filter fun req ↦ req.sfn = sfn ∧ req.slot = slot with
  | some req => if cfg.callback k then [.handed k sfn slot req] else []
  | none =>
    if cfg.callback k then
      ((cfg.dummySlot k).map fun dummy ↦ .handed k sfn slot { dummy with sfn, slot }).toList
    else []

/-- Hands over the requests of some types in a cell and frees them. -/
def serve (buffer : Cells β) (index : Fin 30) (sfn slot : UInt16)
    (order freeOrder : List RequestType) : List (SlotNote β) × Cells β :=
  buffer.serve index
    (order.flatMap fun k ↦ handOver cfg sfn slot k ((buffer index).content k)) freeOrder

/-- The types that the tick tests before it empties a cell. -/
def testedTypes : List RequestType := [.dlTti, .txData, .ulTti]

/-- The shift that a node sync asked for. An unsigned number is never negative. -/
def shiftSlot (p : PnfP7 β) (slot : UInt16) : UInt16 :=
  if p.slotShift ≠ 0 then
    let shifted := (Int32.ofNat slot.toNat + p.slotShift).toUInt32.toUInt16
    if shifted > 20480 then shifted - 20480 else shifted
  else slot

/-- The part of the tick for the slot that is transmitted. -/
def serveTx (buffer : Cells β) (txIndex : Fin 30) (sfnTx slotTx : UInt16) :
    List (SlotNote β) × Cells β :=
  serve cfg buffer txIndex sfnTx slotTx [.txData, .dlTti, .ulDci] [.dlTti, .txData, .ulDci]

/-- The part of the tick for the slot that is received. -/
def serveRx (buffer : Cells β) (index : Fin 30) (sfn slot : UInt16) :
    List (SlotNote β) × Cells β :=
  serve cfg buffer index sfn slot [.ulTti] [.ulTti]

/-- The `memset` of a cell, with the tag -1, if there is none of the requests tested. -/
def resetCell (buffer : Cells β) (index : Fin 30) : List (SlotNote β) × Cells β :=
  buffer.clearUnless index testedTypes ⟨-1, -1⟩

/-- What a tick does to the cells. -/
def tickCells (buffer : Cells β) (index txIndex : Fin 30) (sfn slot sfnTx slotTx : UInt16) :
    List (SlotNote β) × Cells β :=
  let (sent, buffer) := serveTx cfg buffer txIndex sfnTx slotTx
  let (received, buffer) := serveRx cfg buffer index sfn slot
  let (reset, buffer) := resetCell buffer index
  (sent ++ received ++ reset, buffer)

/-- `pnf_p7_slot_ind`. The index of the cell is that of the slot before the shift. -/
def pnfP7SlotInd (p : PnfP7 β) (sfn slot : UInt16) : List (SlotNote β) × PnfP7 β :=
  let sfnSlotTx := sfnslotAddSlot sfn slot slotAhead
  let sfnTx := sfnSlot2Sfn sfnSlotTx
  let slotTx := sfnSlot2Slot sfnSlotTx
  let p := { p with sfn := sfnTx, slot := slotTx }
  if cfg.slotBufferSize = 0 then ([], p)
  else
    let (notes, buffer) := tickCells cfg p.slotBuffer (bufferIndex sfn slot)
      (bufferIndex sfnTx slotTx) sfn (shiftSlot p slot) sfnTx slotTx
    (notes, { p with slotShift := 0, slotBuffer := buffer })

/-- What comes to the PNF: a message with a request, a node sync, or a tick. -/
inductive Event (β : Type) where
  | dlTti (unpacked : Option (Request β))
  | txData (unpacked : Option (Request β))
  | ulTti (unpacked : Option (Request β))
  | ulDci (unpacked : Option (Request β))
  | nodeSync (deltaSfnSlot : Int32)
  | slotInd (sfn slot : UInt16)

/-- One event. The lock makes the handlers and the tick one after the other. -/
def answer (p : PnfP7 β) : Event β → List (SlotNote β) × PnfP7 β
  | .dlTti unpacked => pnfHandleDlTtiRequest p unpacked
  | .txData unpacked => pnfHandleTxDataRequest p unpacked
  | .ulTti unpacked => pnfHandleUlTtiRequest cfg p unpacked
  | .ulDci unpacked => pnfHandleUlDciRequest cfg p unpacked
  | .nodeSync deltaSfnSlot => ([], pnfNrHandleDlNodeSync p deltaSfnSlot)
  | .slotInd sfn slot => pnfP7SlotInd cfg p sfn slot

/-- No event crashes. -/
def step (p : PnfP7 β) (event : Event β) : Outcome (List (SlotNote β) × PnfP7 β) :=
  .ok (answer cfg p event)

end Machine

/-! ### The requests that are lost -/

section Losses

variable {β : Type} {cfg : Config β} {p : PnfP7 β} {buffer : Cells β} {past : List (SlotNote β)}
  {index txIndex : Fin 30} {sfn slot sfnTx slotTx : UInt16}

/-- A tick finds no UL_DCI request in the cell of its own slot. -/
def NoneLost (cfg : Config β) (p : PnfP7 β) : Event β → Prop
  | .slotInd sfn slot =>
    cfg.slotBufferSize ≠ 0 → (p.slotBuffer (bufferIndex sfn slot)).content .ulDci = none
  | _ => True

/-- No cell has a DL_TTI or a TX_DATA request. -/
def OnlyUplink (buffer : Cells β) : Prop :=
  ∀ i, (buffer i).content .dlTti = none ∧ (buffer i).content .txData = none

theorem isNrP7RequestInWindow_eq (p : PnfP7 β) (sfn slot : UInt16) :
    isNrP7RequestInWindow cfg p sfn slot = true := by
  simp only [isNrP7RequestInWindow, ite_self]

/-- The cell of the slot six ahead is another one. -/
theorem bufferIndex_ne (sfn slot : UInt16) :
    bufferIndex sfn slot ≠ bufferIndex (sfnSlot2Sfn (sfnslotAddSlot sfn slot slotAhead))
      (sfnSlot2Slot (sfnslotAddSlot sfn slot slotAhead)) := by
  have hslot : (sfnSlot2Slot (sfnslotAddSlot sfn slot slotAhead)).toNat =
      (slot.toNat + slotAhead) % 20 := by
    rw [sfnSlot2Slot, sfnslotAddSlot, Nat.mul_add_mod_self_right, UInt16.toNat_ofNat']
    omega
  intro hsame
  have hindex := congrArg Fin.val hsame
  have hahead : slotAhead = 6 := rfl
  simp only [bufferIndex, sfnSlot2Dec, hslot, Nat.mul_add_mod_self_right] at hindex
  omega

/-! The requests of the kinds that are not stored -/

theorem OnlyUplink.store (h : OnlyUplink buffer) (index : Fin 30) {k : RequestType}
    (hk : k ≠ .dlTti ∧ k ≠ .txData) (tag : CellTime) (req : Request β) (told : List (Told β)) :
    OnlyUplink (buffer.store index k tag req told).2 := by
  intro i
  rw [store_content, store_content, if_neg fun hboth ↦ hk.1 hboth.2.symm,
    if_neg fun hboth ↦ hk.2 hboth.2.symm]
  exact h i

theorem OnlyUplink.serve (h : OnlyUplink buffer) (index : Fin 30) (told : List (Told β))
    (ks : List RequestType) : OnlyUplink (buffer.serve index told ks).2 := by
  intro i
  simp only [serve_cells, freeAll_content, (h i).1, (h i).2, ite_self, and_self]

theorem OnlyUplink.resetCell (h : OnlyUplink buffer) (index : Fin 30) :
    OnlyUplink (resetCell buffer index).2 := by
  intro i
  simp only [SlotBuffer.resetCell, clearUnless_content, (h i).1, (h i).2, ite_self, and_self]

theorem tickCells_notes (cfg : Config β) (buffer : Cells β) (index txIndex : Fin 30)
    (sfn slot sfnTx slotTx : UInt16) :
    (tickCells cfg buffer index txIndex sfn slot sfnTx slotTx).1 =
      (serveTx cfg buffer txIndex sfnTx slotTx).1 ++
      (serveRx cfg (serveTx cfg buffer txIndex sfnTx slotTx).2 index sfn slot).1 ++
      (resetCell (serveRx cfg (serveTx cfg buffer txIndex sfnTx slotTx).2 index sfn slot).2 index).1 :=
  rfl

theorem tickCells_onlyUplink (h : OnlyUplink buffer) (index txIndex : Fin 30)
    (sfn slot sfnTx slotTx : UInt16) :
    OnlyUplink (tickCells cfg buffer index txIndex sfn slot sfnTx slotTx).2 := by
  have hsent : OnlyUplink (serveTx cfg buffer txIndex sfnTx slotTx).2 := h.serve txIndex _ _
  have hreceived : OnlyUplink
      (serveRx cfg (serveTx cfg buffer txIndex sfnTx slotTx).2 index sfn slot).2 :=
    hsent.serve index _ _
  exact hreceived.resetCell index

theorem tickCells_books (h : Books past buffer) (index txIndex : Fin 30)
    (sfn slot sfnTx slotTx : UInt16) :
    Books (past ++ (tickCells cfg buffer index txIndex sfn slot sfnTx slotTx).1)
      (tickCells cfg buffer index txIndex sfn slot sfnTx slotTx).2 := by
  have hsent : Books (past ++ (serveTx cfg buffer txIndex sfnTx slotTx).1)
      (serveTx cfg buffer txIndex sfnTx slotTx).2 := h.serve txIndex _ _
  have hreceived := hsent.serve index
    ([RequestType.ulTti].flatMap fun k ↦ handOver cfg sfn slot k
      (((serveTx cfg buffer txIndex sfnTx slotTx).2 index).content k)) [.ulTti]
  rw [tickCells_notes, ← List.append_assoc, ← List.append_assoc]
  exact hreceived.clearUnless index testedTypes ⟨-1, -1⟩

/-- A tick empties the cell of its own slot, and loses the UL_DCI request that is there. -/
theorem tickCells_harmless_iff (h : OnlyUplink buffer) (hne : index ≠ txIndex) :
    (∀ note ∈ (tickCells cfg buffer index txIndex sfn slot sfnTx slotTx).1, note.Harmless) ↔
      (buffer index).content .ulDci = none := by
  have hsent (k : RequestType) :
      ((serveTx cfg buffer txIndex sfnTx slotTx).2 index).content k = (buffer index).content k := by
    rw [serveTx, serve, serve_cells, freeAll_content, if_neg fun hboth ↦ hne hboth.1]
  have hcontent (k : RequestType) :
      ((serveRx cfg (serveTx cfg buffer txIndex sfnTx slotTx).2 index sfn slot).2 index).content k =
        if k = .ulTti then none else (buffer index).content k := by
    rw [serveRx, serve, serve_cells, freeAll_content, hsent]
    simp only [true_and, List.mem_singleton]
  rw [tickCells_notes, List.forall_mem_append, List.forall_mem_append, resetCell,
    clearUnless_harmless_iff, and_iff_right ⟨serve_harmless buffer txIndex _ _,
      serve_harmless _ index _ _⟩]
  have hempty : ∀ k ∈ testedTypes,
      ((serveRx cfg (serveTx cfg buffer txIndex sfnTx slotTx).2 index sfn slot).2 index).content k =
        none := by
    intro k hmem
    rw [hcontent]
    cases k with
    | dlTti => exact (h index).1
    | txData => exact (h index).2
    | ulTti => rfl
    | ulDci => exact absurd hmem (by decide)
  rw [imp_iff_right hempty]
  constructor
  · intro hall
    have hdci := hall .ulDci
    rwa [hcontent] at hdci
  · intro hdci k
    cases k with
    | ulDci => rwa [hcontent]
    | _ => exact hempty _ (by decide)

theorem handleRequest_some (cfg : Config β) (k : RequestType)
    (tag : CellTime → Request β → CellTime) (p : PnfP7 β) (req : Request β) :
    handleRequest cfg k tag p (some req) =
      ((p.slotBuffer.store (bufferIndex req.sfn req.slot) k
          (tag (p.slotBuffer (bufferIndex req.sfn req.slot)).tag req) req [.transferred k req]).1,
        { p with slotBuffer := (p.slotBuffer.store (bufferIndex req.sfn req.slot) k
          (tag (p.slotBuffer (bufferIndex req.sfn req.slot)).tag req) req
            [Told.transferred k req]).2 }) :=
  if_pos (isNrP7RequestInWindow_eq p req.sfn req.slot)

/-- A tick serves the cells of two slots, which are not the same. -/
theorem pnfP7SlotInd_of_configured (hsize : cfg.slotBufferSize ≠ 0) (p : PnfP7 β)
    (sfn slot : UInt16) :
    ∃ txIndex slot' sfnTx slotTx, bufferIndex sfn slot ≠ txIndex ∧
      (pnfP7SlotInd cfg p sfn slot).1 =
        (tickCells cfg p.slotBuffer (bufferIndex sfn slot) txIndex sfn slot' sfnTx slotTx).1 ∧
      (pnfP7SlotInd cfg p sfn slot).2.slotBuffer =
        (tickCells cfg p.slotBuffer (bufferIndex sfn slot) txIndex sfn slot' sfnTx slotTx).2 := by
  refine ⟨_, shiftSlot p slot, sfnSlot2Sfn (sfnslotAddSlot sfn slot slotAhead),
    sfnSlot2Slot (sfnslotAddSlot sfn slot slotAhead), bufferIndex_ne sfn slot, ?_, ?_⟩
  · exact congrArg Prod.fst (if_neg hsize)
  · exact congrArg (fun out : List (SlotNote β) × PnfP7 β ↦ out.2.slotBuffer) (if_neg hsize)

theorem pnfP7SlotInd_of_zero (hsize : cfg.slotBufferSize = 0) (p : PnfP7 β) (sfn slot : UInt16) :
    (pnfP7SlotInd cfg p sfn slot).1 = [] ∧
      (pnfP7SlotInd cfg p sfn slot).2.slotBuffer = p.slotBuffer := by
  constructor
  · exact congrArg Prod.fst (if_pos hsize)
  · exact congrArg (fun out : List (SlotNote β) × PnfP7 β ↦ out.2.slotBuffer) (if_pos hsize)

theorem nodeSync_slotBuffer (p : PnfP7 β) (deltaSfnSlot : Int32) :
    (pnfNrHandleDlNodeSync p deltaSfnSlot).slotBuffer = p.slotBuffer := by
  unfold pnfNrHandleDlNodeSync
  split_ifs <;> rfl

/-- Every event keeps the books. -/
theorem answer_books (h : Books past p.slotBuffer) (event : Event β) :
    Books (past ++ (answer cfg p event).1) (answer cfg p event).2.slotBuffer := by
  have hsilent : Books (past ++ []) p.slotBuffer := by rwa [List.append_nil]
  have hpass (k : RequestType) (unpacked : Option (Request β)) :
      Books (past ++ (passRequest k p unpacked).1) (passRequest k p unpacked).2.slotBuffer := by
    cases unpacked with
    | none => exact hsilent
    | some req => exact h.told [Told.transferred k req]
  have hstore (k : RequestType) (tag : CellTime → Request β → CellTime)
      (unpacked : Option (Request β)) :
      Books (past ++ (handleRequest cfg k tag p unpacked).1)
        (handleRequest cfg k tag p unpacked).2.slotBuffer := by
    cases unpacked with
    | none => exact hsilent
    | some req =>
      rw [handleRequest_some]
      exact h.store (bufferIndex req.sfn req.slot) k _ req _
  cases event with
  | dlTti unpacked => exact hpass .dlTti unpacked
  | txData unpacked => exact hpass .txData unpacked
  | ulTti unpacked => exact hstore .ulTti _ unpacked
  | ulDci unpacked => exact hstore .ulDci _ unpacked
  | nodeSync deltaSfnSlot =>
    show Books (past ++ []) (pnfNrHandleDlNodeSync p deltaSfnSlot).slotBuffer
    rwa [nodeSync_slotBuffer]
  | slotInd sfn slot =>
    show Books (past ++ (pnfP7SlotInd cfg p sfn slot).1) (pnfP7SlotInd cfg p sfn slot).2.slotBuffer
    by_cases hsize : cfg.slotBufferSize = 0
    · rwa [(pnfP7SlotInd_of_zero hsize p sfn slot).1, (pnfP7SlotInd_of_zero hsize p sfn slot).2]
    · obtain ⟨txIndex, slot', sfnTx, slotTx, -, hnotes, hcells⟩ :=
        pnfP7SlotInd_of_configured hsize p sfn slot
      rw [hnotes, hcells]
      exact tickCells_books h _ txIndex sfn slot' sfnTx slotTx

/-- No event stores a DL_TTI or a TX_DATA request. -/
theorem answer_onlyUplink (h : OnlyUplink p.slotBuffer) (event : Event β) :
    OnlyUplink (answer cfg p event).2.slotBuffer := by
  have hpass (k : RequestType) (unpacked : Option (Request β)) :
      OnlyUplink (passRequest k p unpacked).2.slotBuffer := by
    cases unpacked with
    | none => exact h
    | some req => exact h
  have hstore (k : RequestType) (hk : k ≠ .dlTti ∧ k ≠ .txData)
      (tag : CellTime → Request β → CellTime) (unpacked : Option (Request β)) :
      OnlyUplink (handleRequest cfg k tag p unpacked).2.slotBuffer := by
    cases unpacked with
    | none => exact h
    | some req =>
      rw [handleRequest_some]
      exact h.store (bufferIndex req.sfn req.slot) hk _ req [Told.transferred k req]
  cases event with
  | dlTti unpacked => exact hpass .dlTti unpacked
  | txData unpacked => exact hpass .txData unpacked
  | ulTti unpacked => exact hstore .ulTti (by decide) _ unpacked
  | ulDci unpacked => exact hstore .ulDci (by decide) _ unpacked
  | nodeSync deltaSfnSlot =>
    show OnlyUplink (pnfNrHandleDlNodeSync p deltaSfnSlot).slotBuffer
    rwa [nodeSync_slotBuffer]
  | slotInd sfn slot =>
    show OnlyUplink (pnfP7SlotInd cfg p sfn slot).2.slotBuffer
    by_cases hsize : cfg.slotBufferSize = 0
    · rwa [(pnfP7SlotInd_of_zero hsize p sfn slot).2]
    · obtain ⟨txIndex, slot', sfnTx, slotTx, -, -, hcells⟩ :=
        pnfP7SlotInd_of_configured hsize p sfn slot
      rw [hcells]
      exact tickCells_onlyUplink h _ txIndex sfn slot' sfnTx slotTx

/-- An event empties no cell with a request in it exactly when a tick finds no UL_DCI request in the
cell of its own slot. -/
theorem answer_harmless_iff (h : OnlyUplink p.slotBuffer) (event : Event β) :
    (∀ note ∈ (answer cfg p event).1, note.Harmless) ↔ NoneLost cfg p event := by
  have hsilent : ∀ note ∈ ([] : List (SlotNote β)), note.Harmless :=
    fun note hmem ↦ absurd hmem List.not_mem_nil
  have hpass (k : RequestType) (unpacked : Option (Request β)) :
      ∀ note ∈ (passRequest k p unpacked).1, note.Harmless := by
    cases unpacked with
    | none => exact hsilent
    | some req => exact List.forall_mem_singleton.mpr trivial
  have hstore (k : RequestType) (tag : CellTime → Request β → CellTime)
      (unpacked : Option (Request β)) :
      ∀ note ∈ (handleRequest cfg k tag p unpacked).1, note.Harmless := by
    cases unpacked with
    | none => exact hsilent
    | some req =>
      rw [handleRequest_some]
      exact store_harmless p.slotBuffer (bufferIndex req.sfn req.slot) k
        (tag (p.slotBuffer (bufferIndex req.sfn req.slot)).tag req) req [Told.transferred k req]
  cases event with
  | dlTti unpacked => exact iff_of_true (hpass .dlTti unpacked) trivial
  | txData unpacked => exact iff_of_true (hpass .txData unpacked) trivial
  | ulTti unpacked => exact iff_of_true (hstore .ulTti _ unpacked) trivial
  | ulDci unpacked => exact iff_of_true (hstore .ulDci _ unpacked) trivial
  | nodeSync deltaSfnSlot => exact iff_of_true hsilent trivial
  | slotInd sfn slot =>
    show (∀ note ∈ (pnfP7SlotInd cfg p sfn slot).1, note.Harmless) ↔ _
    by_cases hsize : cfg.slotBufferSize = 0
    · rw [(pnfP7SlotInd_of_zero hsize p sfn slot).1]
      exact iff_of_true hsilent fun hne ↦ absurd hsize hne
    · obtain ⟨txIndex, slot', sfnTx, slotTx, hne, hnotes, -⟩ :=
        pnfP7SlotInd_of_configured hsize p sfn slot
      rw [hnotes, tickCells_harmless_iff h hne]
      exact (imp_iff_right hsize).symm

theorem step_eq_ok {event : Event β} {notes : List (SlotNote β)} {next : PnfP7 β} :
    step cfg p event = .ok (notes, next) ↔
      (answer cfg p event).1 = notes ∧ (answer cfg p event).2 = next := by
  rw [step, Except.ok.injEq, Prod.ext_iff]

/-- Over a run, every request stored in a cell is freed or still in it, and no cell is emptied with
a request in it, exactly when no tick finds a UL_DCI request in the cell of its own slot. -/
theorem slotBuffer_kept_iff (cfg : Config β) (events : List (Event β)) :
    (∃ replies p, runAll (step cfg) (.initial β) events = .ok (replies, p) ∧
        BooksKept replies.flatten p.slotBuffer ∧ ∀ note ∈ replies.flatten, note.Harmless) ↔
      AlongRun (step cfg) (NoneLost cfg) (.initial β) events := by
  have hinitial : OnlyUplink (PnfP7.initial β).slotBuffer := fun _ ↦ ⟨rfl, rfl⟩
  have hbooks (past : List (SlotNote β)) (p : PnfP7 β) (event : Event β)
      (notes : List (SlotNote β)) (next : PnfP7 β) (h : Books past p.slotBuffer)
      (hstep : step cfg p event = .ok (notes, next)) : Books (past ++ notes) next.slotBuffer := by
    obtain ⟨rfl, rfl⟩ := step_eq_ok.mp hstep
    exact answer_books h event
  have hkeep (p : PnfP7 β) (event : Event β) (notes : List (SlotNote β)) (next : PnfP7 β)
      (h : OnlyUplink p.slotBuffer) (hstep : step cfg p event = .ok (notes, next)) :
      OnlyUplink next.slotBuffer := by
    obtain ⟨rfl, rfl⟩ := step_eq_ok.mp hstep
    exact answer_onlyUplink h event
  have hmeets (p : PnfP7 β) (event : Event β) (h : OnlyUplink p.slotBuffer) :
      (∃ notes next, step cfg p event = .ok (notes, next) ∧ ∀ note ∈ notes, note.Harmless) ↔
        NoneLost cfg p event := by
    rw [← answer_harmless_iff h event]
    constructor
    · rintro ⟨notes, next, hstep, hall⟩
      obtain ⟨rfl, rfl⟩ := step_eq_ok.mp hstep
      exact hall
    · exact fun hall ↦ ⟨_, _, rfl, hall⟩
  exact kept_run_iff hbooks hkeep hmeets hinitial (Books.empty (⟨0, 0⟩ : CellTime)) events

end Losses

/-! ### Both buffers -/

/-- In the runs of the two buffers, every request stored in a cell is freed or still in it, and no
cell is emptied with a request in it, exactly when no tick empties a cell in which there is a
HI_DCI0 request alone, or one in which there is a UL_DCI request. -/
theorem noRequestVanishes_iff {β γ : Type} (cfg : SubframeBuffer.Config β)
    (events : List (SubframeBuffer.Event β)) (cfgNr : Config γ) (eventsNr : List (Event γ)) :
    ((∃ replies p, runAll (SubframeBuffer.step cfg) (.initial β) events = .ok (replies, p) ∧
        BooksKept replies.flatten p.subframeBuffer ∧ ∀ note ∈ replies.flatten, note.Harmless) ∧
      ∃ replies p, runAll (step cfgNr) (.initial γ) eventsNr = .ok (replies, p) ∧
        BooksKept replies.flatten p.slotBuffer ∧ ∀ note ∈ replies.flatten, note.Harmless) ↔
      AlongRun (SubframeBuffer.step cfg) (SubframeBuffer.NoneLost cfg) (.initial β) events ∧
        AlongRun (step cfgNr) (NoneLost cfgNr) (.initial γ) eventsNr :=
  and_congr (SubframeBuffer.subframeBuffer_kept_iff cfg events)
    (slotBuffer_kept_iff cfgNr eventsNr)

/-- A HI_DCI0 request for the next subframe, whose downlink the tick has passed. -/
def lateHiDci0 : List (SubframeBuffer.Event Unit) :=
  [.subframeInd 0x000, .request .hiDci0 (some ⟨0x001, ()⟩), .subframeInd 0x001]

/-- A UL_DCI request for the next slot. -/
def lateUlDci : List (Event Unit) := [.slotInd 0 0, .ulDci (some ⟨0, 1, ()⟩), .slotInd 0 1]

/-- Each is stored, and not freed, and gone. -/
theorem lateRequests_vanish :
    (∃ replies p, runAll (SubframeBuffer.step ⟨8, fun _ ↦ true, fun _ ↦ none⟩) (.initial Unit)
        lateHiDci0 = .ok (replies, p) ∧ ¬ BooksKept replies.flatten p.subframeBuffer) ∧
      ∃ replies p, runAll (step ⟨8, fun _ ↦ true, fun _ ↦ none⟩) (.initial Unit) lateUlDci =
        .ok (replies, p) ∧ ¬ BooksKept replies.flatten p.slotBuffer := by
  constructor
  · refine ⟨_, _, rfl, fun hkept ↦ ?_⟩
    have hplace := hkept 1 .hiDci0
    cases hplace
  · refine ⟨_, _, rfl, fun hkept ↦ ?_⟩
    have hplace := hkept 1 .ulDci
    cases hplace

end MultiUeProxy.Downlink.SlotBuffer
