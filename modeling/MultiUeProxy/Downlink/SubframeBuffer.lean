import Mathlib.Data.Nat.Notation
import Mathlib.Tactic.SplitIfs
import MultiUeProxy.Lib.CellBuffer
import MultiUeProxy.Lib.Execution

/-!
# The subframe buffer

The P7 side of the PNF keeps the downlink requests that it receives in the cells of
`subframe_buffer`. The cell of a request is its SFN/SF modulo the timing window. The six handlers
that store a request have one text, `handleRequest`; the tick `pnf_p7_subframe_ind` hands the
requests of the subframe four ahead and those of its own subframe to the PHY and frees them, and
empties the cell of its own subframe.

Two properties of the runs of this machine are characterised. The cells and the PHY agree about the
time of every request exactly when no request is stored beside a request of another type that was
left over from another subframe (`subframeBuffer_inTime_iff`). And no request is lost exactly when
the tick never empties a cell in which there is only a HI_DCI0 request (`subframeBuffer_kept_iff`):
its test has the other five types.
-/

set_option autoImplicit false
set_option relaxedAutoImplicit false

namespace MultiUeProxy.Downlink.SubframeBuffer

open Lib Lib.Execution Lib.CellBuffer

/-! ### Subframe numbers -/

/-- `NFAPI_SFNSF2SFN`. -/
def sfnSf2Sfn (sfnSf : UInt16) : ℕ := sfnSf.toNat / 16

/-- `NFAPI_SFNSF2SF`. -/
def sfnSf2Sf (sfnSf : UInt16) : ℕ := sfnSf.toNat % 16

/-- `NFAPI_SFNSF2DEC`. -/
def sfnSf2Dec (sfnSf : UInt16) : ℕ := sfnSf2Sfn sfnSf * 10 + sfnSf2Sf sfnSf

/-- `NFAPI_MAX_SFNSFDEC`. -/
def maxSfnSfDec : ℕ := 10240

/-- `sf_ahead`. -/
def sfAhead : ℕ := 4

/-- `sfnsf_add_sf`, with `add_sf`. -/
def sfnsfAddSf (sfnSf : UInt16) (offset : ℕ) : UInt16 :=
  let sfn := (sfnSf2Sfn sfnSf + (sfnSf2Sf sfnSf + offset) / 10) % 1024
  let sf := (sfnSf2Sf sfnSf + offset) % 10
  .ofNat (sfn * 16 + sf)

/-! ### The state of the PNF -/

/-- The requests that `nfapi_pnf_p7_subframe_buffer_t` has a pointer to. -/
inductive RequestType where
  | dlConfig
  | ulConfig
  | hiDci0
  | tx
  | lbtDlConfig
  | ueRelease
  deriving DecidableEq

/-- A request: its time, and what else is in it. -/
structure Request (β : Type) where
  sfnSf : UInt16
  body : β
  deriving DecidableEq

/-- The part of `nfapi_pnf_p7_config_t` that matters here: the timing window, which callbacks are
set, and the requests that stand in where none was received. -/
structure Config (β : Type) where
  subframeBufferSize : UInt16
  callback : RequestType → Bool
  dummySubframe : RequestType → Option (Request β)

/-- What else is told of a request: it is passed to the proxy, or handed to the PHY for a
subframe. -/
inductive Told (β : Type) where
  | transferred (k : RequestType) (req : Request β)
  | handed (k : RequestType) (subframe : UInt16) (req : Request β)

/-- `subframe_buffer`, an array of 30 cells. -/
abbrev Cells (β : Type) := Buffer (Fin 30) RequestType UInt16 (Request β)

abbrev SubframeNote (β : Type) := Note (Fin 30) RequestType (Request β) (Told β)

/-- `pnf_p7_t`. -/
structure PnfP7 (β : Type) where
  sfnSf : UInt16
  sfnSfShift : Int32
  subframeBuffer : Cells β

/-- The memory is zero at the beginning. -/
def PnfP7.initial (β : Type) : PnfP7 β := ⟨0, 0, fun _ ↦ ⟨0, fun _ ↦ none⟩⟩

section Machine

variable {β : Type} (cfg : Config β)

/-- The cell of a subframe. The remainder by a timing window of zero is a division by zero, and an
index from 30 on is outside of the array. -/
def bufferIndex (sfnSfDec : ℕ) : Outcome (Fin 30) :=
  if cfg.subframeBufferSize = 0 then .error .abort
  else if h : sfnSfDec % cfg.subframeBufferSize.toNat % 256 < 30 then .ok ⟨_, h⟩
  else .error .fault

/-- `is_p7_request_in_window`. -/
def isP7RequestInWindow (p : PnfP7 β) (sfnSf : UInt16) : Bool :=
  let recv := sfnSf2Dec sfnSf
  let current := sfnSf2Dec p.sfnSf
  let timingWindow := cfg.subframeBufferSize.toNat % 256
  if recv ≤ current then
    if (current + timingWindow) % maxSfnSfDec < current then
      recv ≤ (current + timingWindow) % maxSfnSfDec
    else false
  else recv - current ≤ timingWindow

/-- The requests that are also passed to the proxy. -/
def RequestType.isTransferred : RequestType → Bool
  | .dlConfig | .ulConfig | .hiDci0 | .tx => true
  | .lbtDlConfig | .ueRelease => false

/-- A request takes the place of the one of its type in a cell, which is freed. The cell gets the
time of the request. -/
def storeRequest (buffer : Cells β) (index : Fin 30) (k : RequestType) (req : Request β) :
    List (SubframeNote β) × Cells β :=
  buffer.store index k req.sfnSf req (if k.isTransferred then [.transferred k req] else [])

/-- The text of the handlers. A message that is not unpacked is freed at once, and so is one outside
of the window. -/
def handleRequest (k : RequestType) (p : PnfP7 β) (unpacked : Option (Request β)) :
    Outcome (List (SubframeNote β) × PnfP7 β) :=
  match unpacked with
  | none => .ok ([], p)
  | some req =>
    if isP7RequestInWindow cfg p req.sfnSf then do
      let index ← bufferIndex cfg (sfnSf2Dec req.sfnSf)
      let (notes, buffer) := storeRequest p.subframeBuffer index k req
      return (notes, { p with subframeBuffer := buffer })
    else .ok ([], p)

/-- `pnf_handle_dl_config_request`. -/
def pnfHandleDlConfigRequest := handleRequest cfg .dlConfig

/-- `pnf_handle_ul_config_request`. -/
def pnfHandleUlConfigRequest := handleRequest cfg .ulConfig

/-- `pnf_handle_hi_dci0_request`. -/
def pnfHandleHiDci0Request := handleRequest cfg .hiDci0

/-- `pnf_handle_tx_request`. -/
def pnfHandleTxRequest := handleRequest cfg .tx

/-- `pnf_handle_lbt_dl_config_request`. -/
def pnfHandleLbtDlConfigRequest := handleRequest cfg .lbtDlConfig

/-- `pnf_handle_ue_release_request`. -/
def pnfHandleUeReleaseRequest := handleRequest cfg .ueRelease

/-- `pnf_handle_dl_node_sync`, as far as the shift goes. -/
def pnfHandleDlNodeSync (p : PnfP7 β) (deltaSfnSf : Int32) : PnfP7 β :=
  if deltaSfnSf ≠ 0 then { p with sfnSfShift := deltaSfnSf } else p

/-- A request goes to its callback, if there is one, and the dummy takes the place of a request that
is not there. The dummy gets the time that it is handed over for. -/
def handOver (subframe : UInt16) (k : RequestType) (req : Option (Request β)) : List (Told β) :=
  if cfg.callback k then
    match req with
    | some req => [.handed k subframe req]
    | none => ((cfg.dummySubframe k).map fun dummy ↦
        .handed k subframe { dummy with sfnSf := subframe }).toList
  else []

/-- `send_dummy_subframe`. -/
def sendDummySubframe (sfnSf : UInt16) : List (Told β) :=
  [.tx, .dlConfig, .ulConfig, .hiDci0, .lbtDlConfig].flatMap fun k ↦ handOver cfg sfnSf k none

/-- Hands over the requests of some types in a cell and frees them. -/
def serve (buffer : Cells β) (index : Fin 30) (subframe : UInt16)
    (order freeOrder : List RequestType) : List (SubframeNote β) × Cells β :=
  buffer.serve index
    (order.flatMap fun k ↦ handOver cfg subframe k ((buffer index).content k)) freeOrder

/-- The types that the tick tests before it empties a cell. -/
def testedTypes : List RequestType := [.dlConfig, .tx, .ulConfig, .lbtDlConfig, .ueRelease]

/-- The `memset` of a cell, with the tag -1, if there is none of the requests tested. -/
def resetCell (buffer : Cells β) (index : Fin 30) : List (SubframeNote β) × Cells β :=
  buffer.clearUnless index testedTypes 0xFFFF

/-- The shift that a node sync asked for. The number of the subframe is shifted in decimal, and
stored as it is. -/
def shiftSfnSf (p : PnfP7 β) (sfnSf : UInt16) : UInt16 :=
  if p.sfnSfShift ≠ 0 then
    let shifted := Int32.ofNat (sfnSf2Dec sfnSf) + p.sfnSfShift
    let shifted :=
      if shifted < 0 then shifted + 10240
      else if shifted > 10240 then shifted - 10240
      else shifted
    shifted.toUInt32.toUInt16
  else sfnSf

/-- The part of the tick for the subframe that is transmitted. -/
def serveTx (buffer : Cells β) (txIndex : Fin 30) (sfnSfTx : UInt16) :
    List (SubframeNote β) × Cells β :=
  if (buffer txIndex).tag = sfnSfTx then
    serve cfg buffer txIndex sfnSfTx [.tx, .dlConfig, .hiDci0, .ueRelease]
      [.dlConfig, .tx, .hiDci0, .ueRelease]
  else ((sendDummySubframe cfg sfnSfTx).map .told, buffer)

/-- The part of the tick for the subframe that is received. -/
def serveRx (buffer : Cells β) (index : Fin 30) (sfnSf : UInt16) :
    List (SubframeNote β) × Cells β :=
  if (buffer index).tag = sfnSf then
    serve cfg buffer index sfnSf [.ulConfig, .lbtDlConfig] [.ulConfig, .lbtDlConfig]
  else ([], buffer)

/-- What a tick does to the cells. -/
def tickCells (buffer : Cells β) (index txIndex : Fin 30) (sfnSf sfnSfTx : UInt16) :
    List (SubframeNote β) × Cells β :=
  let (sent, buffer) := serveTx cfg buffer txIndex sfnSfTx
  let (received, buffer) := serveRx cfg buffer index sfnSf
  let (reset, buffer) := resetCell buffer index
  (sent ++ received ++ reset, buffer)

/-- `pnf_p7_subframe_ind`. -/
def pnfP7SubframeInd (p : PnfP7 β) (sfnSf : UInt16) :
    Outcome (List (SubframeNote β) × PnfP7 β) :=
  let p := { p with sfnSf }
  let sfnSfTx := sfnsfAddSf sfnSf sfAhead
  if cfg.subframeBufferSize = 0 then .ok ([], p)
  else do
    let sfnSf := shiftSfnSf p sfnSf
    let index ← bufferIndex cfg (sfnSf2Dec sfnSf)
    let txIndex ← bufferIndex cfg (sfnSf2Dec sfnSfTx)
    let (notes, buffer) := tickCells cfg p.subframeBuffer index txIndex sfnSf sfnSfTx
    return (notes, { p with sfnSfShift := 0, subframeBuffer := buffer })

/-- What comes to the PNF: a message with a request, a node sync, or a tick. -/
inductive Event (β : Type) where
  | request (k : RequestType) (unpacked : Option (Request β))
  | nodeSync (deltaSfnSf : Int32)
  | subframeInd (sfnSf : UInt16)

/-- One event. The lock makes the handlers and the tick one after the other. -/
def step (p : PnfP7 β) : Event β → Outcome (List (SubframeNote β) × PnfP7 β)
  | .request k unpacked => handleRequest cfg k p unpacked
  | .nodeSync deltaSfnSf => .ok ([], pnfHandleDlNodeSync p deltaSfnSf)
  | .subframeInd sfnSf => pnfP7SubframeInd cfg p sfnSf

end Machine

/-! ### What an event does -/

section Events

variable {β : Type} {cfg : Config β} {p next : PnfP7 β} {notes : List (SubframeNote β)}

/-- The cell of a subframe is in the array. -/
def IsIndex (cfg : Config β) (sfnSfDec : ℕ) (index : Fin 30) : Prop :=
  cfg.subframeBufferSize ≠ 0 ∧ sfnSfDec % cfg.subframeBufferSize.toNat % 256 = index

theorem bufferIndex_eq_ok {sfnSfDec : ℕ} {index : Fin 30} :
    bufferIndex cfg sfnSfDec = .ok index ↔ IsIndex cfg sfnSfDec index := by
  unfold bufferIndex IsIndex
  split_ifs with hzero hin
  · exact iff_of_false (fun h ↦ by cases h) fun h ↦ h.1 hzero
  · rw [Except.ok.injEq, Fin.ext_iff]
    exact (and_iff_right hzero).symm
  · exact iff_of_false (fun h ↦ by cases h) fun h ↦ hin (h.2 ▸ index.isLt)

/-- A timing window from 1 to 30 keeps every index in the array. -/
theorem exists_isIndex (hpos : 0 < cfg.subframeBufferSize.toNat)
    (hle : cfg.subframeBufferSize.toNat ≤ 30) (sfnSfDec : ℕ) :
    ∃ index, IsIndex cfg sfnSfDec index := by
  have hrest := Nat.mod_lt sfnSfDec hpos
  have hindex : sfnSfDec % cfg.subframeBufferSize.toNat % 256 < 30 :=
    Nat.lt_of_le_of_lt (Nat.mod_le _ _) (Nat.lt_of_lt_of_le hrest hle)
  refine ⟨⟨_, hindex⟩, fun hzero ↦ ?_, rfl⟩
  rw [hzero] at hpos
  exact absurd hpos (Nat.lt_irrefl 0)

/-- A request in the window is stored, in a cell of the array. -/
theorem step_request_eq_ok {k : RequestType} {req : Request β}
    (hwindow : isP7RequestInWindow cfg p req.sfnSf = true) :
    step cfg p (.request k (some req)) = .ok (notes, next) ↔
      ∃ index, IsIndex cfg (sfnSf2Dec req.sfnSf) index ∧
        notes = (storeRequest p.subframeBuffer index k req).1 ∧
        next = { p with subframeBuffer := (storeRequest p.subframeBuffer index k req).2 } := by
  show (if isP7RequestInWindow cfg p req.sfnSf = true then _ else _) = _ ↔ _
  rw [if_pos hwindow, bind_eq_ok]
  refine exists_congr fun index ↦ ?_
  rw [bufferIndex_eq_ok]
  refine and_congr_right fun _ ↦ ?_
  show Except.ok (_, _) = Except.ok _ ↔ _
  rw [Except.ok.injEq, Prod.mk.injEq]
  exact and_congr eq_comm eq_comm

theorem step_request_of_late {k : RequestType} {req : Request β}
    (hwindow : ¬ isP7RequestInWindow cfg p req.sfnSf = true) :
    step cfg p (.request k (some req)) = .ok ([], p) := if_neg hwindow

/-- A tick serves the cells of two subframes. -/
theorem step_subframeInd_eq_ok {sfnSf : UInt16} (hsize : cfg.subframeBufferSize ≠ 0) :
    step cfg p (.subframeInd sfnSf) = .ok (notes, next) ↔
      ∃ index txIndex, IsIndex cfg (sfnSf2Dec (shiftSfnSf p sfnSf)) index ∧
        IsIndex cfg (sfnSf2Dec (sfnsfAddSf sfnSf sfAhead)) txIndex ∧
        notes = (tickCells cfg p.subframeBuffer index txIndex (shiftSfnSf p sfnSf)
          (sfnsfAddSf sfnSf sfAhead)).1 ∧
        next = ⟨sfnSf, 0, (tickCells cfg p.subframeBuffer index txIndex (shiftSfnSf p sfnSf)
          (sfnsfAddSf sfnSf sfAhead)).2⟩ := by
  show (if cfg.subframeBufferSize = 0 then _ else _) = _ ↔ _
  rw [if_neg hsize, bind_eq_ok]
  refine exists_congr fun index ↦ ?_
  rw [bind_eq_ok, bufferIndex_eq_ok, ← exists_and_left]
  refine exists_congr fun txIndex ↦ ?_
  rw [bufferIndex_eq_ok]
  refine and_congr_right fun _ ↦ and_congr_right fun _ ↦ ?_
  show Except.ok (_, _) = Except.ok _ ↔ _
  rw [Except.ok.injEq, Prod.mk.injEq]
  exact and_congr eq_comm eq_comm

theorem step_subframeInd_of_zero {sfnSf : UInt16} (hsize : cfg.subframeBufferSize = 0) :
    step cfg p (.subframeInd sfnSf) = .ok ([], { p with sfnSf }) := if_pos hsize

end Events

/-! ### The times of the requests -/

section Times

variable {β : Type} {cfg : Config β} {p : PnfP7 β} {buffer : Cells β} {index : Fin 30}

/-- Every request in a cell has the time that is recorded in the cell. -/
def PnfP7.Coherent (p : PnfP7 β) : Prop := CellBuffer.Coherent Request.sfnSf p.subframeBuffer

/-- A request that is handed to the PHY is one of the subframe that it is handed over for. -/
def OnTime : SubframeNote β → Prop
  | .told (.handed _ subframe req) => req.sfnSf = subframe
  | _ => True

/-- Every index that the tick computes is in the array. -/
def InArray (cfg : Config β) (p : PnfP7 β) (sfnSf : UInt16) : Prop :=
  cfg.subframeBufferSize ≠ 0 →
    (∃ index, IsIndex cfg (sfnSf2Dec (shiftSfnSf p sfnSf)) index) ∧
      ∃ txIndex, IsIndex cfg (sfnSf2Dec (sfnsfAddSf sfnSf sfAhead)) txIndex

/-- A request that is stored finds no request of another type for another subframe in its cell. -/
def NoLeftover (cfg : Config β) (p : PnfP7 β) : Event β → Prop
  | .request k (some req) =>
    isP7RequestInWindow cfg p req.sfnSf = true →
      ∃ index, IsIndex cfg (sfnSf2Dec req.sfnSf) index ∧
        ∀ k' ≠ k, ∀ other, (p.subframeBuffer index).content k' = some other →
          other.sfnSf = req.sfnSf
  | .subframeInd sfnSf => InArray cfg p sfnSf
  | _ => True

theorem handOver_onTime {subframe : UInt16} (k : RequestType) {req : Option (Request β)}
    (hreq : ∀ r, req = some r → r.sfnSf = subframe) :
    ∀ told ∈ handOver cfg subframe k req, OnTime (.told told) := by
  intro told hmem
  unfold handOver at hmem
  split_ifs at hmem with hcallback
  · cases req with
    | some r =>
      rw [List.mem_singleton.mp hmem]
      exact hreq r rfl
    | none =>
      obtain ⟨dummy, -, rfl⟩ := Option.map_eq_some_iff.mp (Option.mem_toList.mp hmem)
      rfl
  · cases hmem

/-- What a coherent cell hands over for its own time is on time. -/
theorem serve_onTime {subframe : UInt16} (hcell : (buffer index).Coherent Request.sfnSf)
    (htag : (buffer index).tag = subframe) (order freeOrder : List RequestType) :
    ∀ note ∈ (serve cfg buffer index subframe order freeOrder).1, OnTime note := by
  intro note hmem
  rcases mem_serve hmem with ⟨told, htold, rfl⟩ | ⟨k, req, rfl⟩
  · obtain ⟨k, -, hk⟩ := List.mem_flatMap.mp htold
    exact handOver_onTime k (fun req hreq ↦ (hcell k req hreq).trans htag) told hk
  · trivial

theorem sendDummySubframe_onTime (sfnSf : UInt16) :
    ∀ told ∈ sendDummySubframe cfg sfnSf, OnTime (.told told) := by
  intro told hmem
  obtain ⟨k, -, hk⟩ := List.mem_flatMap.mp hmem
  exact handOver_onTime k (fun req hreq ↦ by cases hreq) told hk

theorem serveTx_inTime (cfg : Config β) (h : CellBuffer.Coherent Request.sfnSf buffer)
    (txIndex : Fin 30) (sfnSfTx : UInt16) :
    CellBuffer.Coherent Request.sfnSf (serveTx cfg buffer txIndex sfnSfTx).2 ∧
      ∀ note ∈ (serveTx cfg buffer txIndex sfnSfTx).1, OnTime note := by
  unfold serveTx
  split_ifs with htag
  · exact ⟨h.serve txIndex _ _, serve_onTime (h txIndex) htag _ _⟩
  · refine ⟨h, fun note hmem ↦ ?_⟩
    obtain ⟨told, htold, rfl⟩ := List.mem_map.mp hmem
    exact sendDummySubframe_onTime sfnSfTx told htold

theorem serveRx_inTime (cfg : Config β) (h : CellBuffer.Coherent Request.sfnSf buffer)
    (index : Fin 30) (sfnSf : UInt16) :
    CellBuffer.Coherent Request.sfnSf (serveRx cfg buffer index sfnSf).2 ∧
      ∀ note ∈ (serveRx cfg buffer index sfnSf).1, OnTime note := by
  unfold serveRx
  split_ifs with htag
  · exact ⟨h.serve index _ _, serve_onTime (h index) htag _ _⟩
  · exact ⟨h, fun note hmem ↦ absurd hmem List.not_mem_nil⟩

theorem resetCell_inTime (h : CellBuffer.Coherent Request.sfnSf buffer) (index : Fin 30) :
    CellBuffer.Coherent Request.sfnSf (resetCell buffer index).2 ∧
      ∀ note ∈ (resetCell buffer index).1, OnTime note := by
  refine ⟨h.clearUnless index _ _, fun note hmem ↦ ?_⟩
  rw [mem_clearUnless hmem]
  trivial

/-- A tick keeps coherent cells coherent, and all that it hands over is on time. -/
theorem tickCells_inTime (h : CellBuffer.Coherent Request.sfnSf buffer) (index txIndex : Fin 30)
    (sfnSf sfnSfTx : UInt16) :
    CellBuffer.Coherent Request.sfnSf (tickCells cfg buffer index txIndex sfnSf sfnSfTx).2 ∧
      ∀ note ∈ (tickCells cfg buffer index txIndex sfnSf sfnSfTx).1, OnTime note := by
  obtain ⟨hsent, hsentNotes⟩ := serveTx_inTime cfg h txIndex sfnSfTx
  obtain ⟨hreceived, hreceivedNotes⟩ := serveRx_inTime cfg hsent index sfnSf
  obtain ⟨hreset, hresetNotes⟩ := resetCell_inTime hreceived index
  refine ⟨hreset, fun note hmem ↦ ?_⟩
  rcases List.mem_append.mp hmem with hfirst | hlast
  · rcases List.mem_append.mp hfirst with htx | hrx
    · exact hsentNotes note htx
    · exact hreceivedNotes note hrx
  · exact hresetNotes note hlast

theorem storeRequest_coherent_iff (h : CellBuffer.Coherent Request.sfnSf buffer) (index : Fin 30)
    (k : RequestType) (req : Request β) :
    CellBuffer.Coherent Request.sfnSf (storeRequest buffer index k req).2 ↔
      ∀ k' ≠ k, ∀ other, (buffer index).content k' = some other → other.sfnSf = req.sfnSf :=
  h.store_iff index k req _

theorem storeRequest_onTime (index : Fin 30) (k : RequestType) (req : Request β) :
    ∀ note ∈ (storeRequest buffer index k req).1, OnTime note := by
  intro note hmem
  rcases mem_store hmem with ⟨other, rfl⟩ | ⟨told, htold, rfl⟩ | rfl
  · trivial
  · split_ifs at htold with htransferred
    · rw [List.mem_singleton.mp htold]
      trivial
    · cases htold
  · trivial

/-- From a coherent state, an event is dealt with in time exactly when a request that it stores
finds no leftover. -/
theorem step_inTime_iff (h : p.Coherent) (event : Event β) :
    (∃ notes next, step cfg p event = .ok (notes, next) ∧
      next.Coherent ∧ ∀ note ∈ notes, OnTime note) ↔ NoLeftover cfg p event := by
  have hsilent (next : PnfP7 β) (hnext : next.Coherent) :
      ∃ notes next', (.ok ([], next) : Outcome (List (SubframeNote β) × _)) = .ok (notes, next') ∧
        next'.Coherent ∧ ∀ note ∈ notes, OnTime note :=
    ⟨[], next, rfl, hnext, fun note hmem ↦ absurd hmem List.not_mem_nil⟩
  cases event with
  | request k unpacked =>
    cases unpacked with
    | none => exact iff_of_true (hsilent p h) trivial
    | some req =>
      by_cases hwindow : isP7RequestInWindow cfg p req.sfnSf = true
      · simp only [step_request_eq_ok hwindow, NoLeftover, hwindow, true_implies]
        constructor
        · rintro ⟨_, _, ⟨index, hindex, rfl, rfl⟩, hnext, -⟩
          exact ⟨index, hindex, (storeRequest_coherent_iff h index k req).mp hnext⟩
        · rintro ⟨index, hindex, hothers⟩
          exact ⟨_, _, ⟨index, hindex, rfl, rfl⟩,
            (storeRequest_coherent_iff h index k req).mpr hothers, storeRequest_onTime index k req⟩
      · rw [step_request_of_late hwindow]
        exact iff_of_true (hsilent p h) fun hin ↦ absurd hin hwindow
  | nodeSync deltaSfnSf =>
    refine iff_of_true (hsilent (pnfHandleDlNodeSync p deltaSfnSf) ?_) trivial
    unfold pnfHandleDlNodeSync
    split_ifs <;> exact h
  | subframeInd sfnSf =>
    by_cases hsize : cfg.subframeBufferSize = 0
    · rw [step_subframeInd_of_zero hsize]
      exact iff_of_true (hsilent { p with sfnSf } h) fun hne ↦ absurd hsize hne
    · simp only [step_subframeInd_eq_ok hsize, NoLeftover, InArray]
      constructor
      · rintro ⟨_, _, ⟨index, txIndex, hindex, htx, -, -⟩, -⟩ -
        exact ⟨⟨index, hindex⟩, txIndex, htx⟩
      · intro hboth
        obtain ⟨⟨index, hindex⟩, txIndex, htx⟩ := hboth hsize
        exact ⟨_, _, ⟨index, txIndex, hindex, htx, rfl, rfl⟩, tickCells_inTime h index txIndex _ _⟩

/-- After every event of a run the requests in the cells have the times recorded there, and those
handed to the PHY are on time, exactly when every request stored finds no leftover of another
type. -/
theorem subframeBuffer_inTime_iff (cfg : Config β) (events : List (Event β)) :
    AllAlong (step cfg) (fun notes p ↦ p.Coherent ∧ ∀ note ∈ notes, OnTime note) (.initial β)
        events ↔
      AlongRun (step cfg) (NoLeftover cfg) (.initial β) events := by
  have hinitial : (PnfP7.initial β).Coherent := fun _ ↦ coherent_empty 0
  exact allAlong_iff (fun p event h ↦ step_inTime_iff h event)
    (fun _ _ _ _ _ _ hgood ↦ hgood.1) events hinitial

/-- A timing window of eight subframes, with all callbacks set. -/
def eightSubframes : Config Unit := ⟨8, fun _ ↦ true, fun _ ↦ none⟩

/-- A DL_CONFIG request for the next subframe is in the window, but the tick has already passed its
subframe, which it hands over four ahead. -/
def lateDlConfig : List (Event Unit) :=
  [.subframeInd 0x000, .request .dlConfig (some ⟨0x001, ()⟩), .subframeInd 0x001]

/-- A TX request that has the same cell. -/
def nextTx : Event Unit := .request .tx (some ⟨0x009, ()⟩)

/-- The ticks until it is handed over. -/
def fourTicks : List (Event Unit) :=
  [.subframeInd 0x002, .subframeInd 0x003, .subframeInd 0x004, .subframeInd 0x005]

/-- The TX request makes the cell incoherent, and the DL_CONFIG request of 0x001 is handed to the
PHY for 0x009. -/
theorem lateDlConfig_handed :
    ¬ AllAlong (step eightSubframes) (fun notes p ↦ p.Coherent ∧ ∀ note ∈ notes, OnTime note)
        (.initial Unit) (lateDlConfig ++ [nextTx]) ∧
      ∃ notes p, runAll (step eightSubframes) (.initial Unit)
          (lateDlConfig ++ nextTx :: fourTicks) = .ok (notes, p) ∧
        .told (.handed .dlConfig 0x009 ⟨0x001, ()⟩) ∈ notes.flatten := by
  constructor
  · intro h
    have hcoherent := (h.last rfl rfl).1
    exact absurd (hcoherent 1 .dlConfig ⟨0x001, ()⟩ rfl) (by decide)
  · refine ⟨_, _, rfl, ?_⟩
    exact List.mem_of_getElem? (i := 9) rfl

end Times

/-! ### The requests that are lost -/

section Losses

variable {β : Type} {cfg : Config β} {p next : PnfP7 β} {buffer : Cells β}
  {past notes : List (SubframeNote β)} {index txIndex : Fin 30} {sfnSf sfnSfTx : UInt16}

/-- A cell that holds a HI_DCI0 request holds one of those that the tick tests, too, when it has
served its two subframes. -/
def KeepsHiDci0 (buffer : Cells β) (index txIndex : Fin 30) (sfnSf sfnSfTx : UInt16) : Prop :=
  (buffer index).content .hiDci0 = none ∨ (index = txIndex ∧ (buffer index).tag = sfnSfTx) ∨
    (∃ k ∈ [RequestType.dlConfig, .tx, .ueRelease], (buffer index).content k ≠ none) ∨
    ((buffer index).tag ≠ sfnSf ∧
      ∃ k ∈ [RequestType.ulConfig, .lbtDlConfig], (buffer index).content k ≠ none)

/-- The indices of an event are in the array, and a tick does not empty a cell in which there is a
HI_DCI0 request alone. -/
def NoneLost (cfg : Config β) (p : PnfP7 β) : Event β → Prop
  | .request _ (some req) =>
    isP7RequestInWindow cfg p req.sfnSf = true → ∃ index, IsIndex cfg (sfnSf2Dec req.sfnSf) index
  | .subframeInd sfnSf =>
    cfg.subframeBufferSize ≠ 0 → ∃ index txIndex,
      IsIndex cfg (sfnSf2Dec (shiftSfnSf p sfnSf)) index ∧
        IsIndex cfg (sfnSf2Dec (sfnsfAddSf sfnSf sfAhead)) txIndex ∧
        KeepsHiDci0 p.subframeBuffer index txIndex (shiftSfnSf p sfnSf) (sfnsfAddSf sfnSf sfAhead)
  | _ => True

theorem serveTx_books (cfg : Config β) (h : Books past buffer) (txIndex : Fin 30)
    (sfnSfTx : UInt16) :
    Books (past ++ (serveTx cfg buffer txIndex sfnSfTx).1)
      (serveTx cfg buffer txIndex sfnSfTx).2 := by
  unfold serveTx
  split_ifs with htag
  · exact h.serve txIndex _ _
  · exact h.told _

theorem serveRx_books (cfg : Config β) (h : Books past buffer) (index : Fin 30)
    (sfnSf : UInt16) :
    Books (past ++ (serveRx cfg buffer index sfnSf).1) (serveRx cfg buffer index sfnSf).2 := by
  unfold serveRx
  split_ifs with htag
  · exact h.serve index _ _
  · rwa [List.append_nil]

theorem tickCells_notes (cfg : Config β) (buffer : Cells β) (index txIndex : Fin 30)
    (sfnSf sfnSfTx : UInt16) :
    (tickCells cfg buffer index txIndex sfnSf sfnSfTx).1 =
      (serveTx cfg buffer txIndex sfnSfTx).1 ++
        (serveRx cfg (serveTx cfg buffer txIndex sfnSfTx).2 index sfnSf).1 ++
        (resetCell (serveRx cfg (serveTx cfg buffer txIndex sfnSfTx).2 index sfnSf).2 index).1 :=
  rfl

theorem tickCells_books (h : Books past buffer) (index txIndex : Fin 30)
    (sfnSf sfnSfTx : UInt16) :
    Books (past ++ (tickCells cfg buffer index txIndex sfnSf sfnSfTx).1)
      (tickCells cfg buffer index txIndex sfnSf sfnSfTx).2 := by
  have hsent := serveTx_books cfg h txIndex sfnSfTx
  have hreceived := serveRx_books cfg hsent index sfnSf
  rw [tickCells_notes, ← List.append_assoc, ← List.append_assoc]
  exact hreceived.clearUnless index testedTypes 0xFFFF

/-- Every event keeps the books. -/
theorem step_books (h : Books past p.subframeBuffer) (event : Event β)
    (hstep : step cfg p event = .ok (notes, next)) :
    Books (past ++ notes) next.subframeBuffer := by
  cases event with
  | request k unpacked =>
    cases unpacked with
    | none =>
      cases hstep
      rwa [List.append_nil]
    | some req =>
      by_cases hwindow : isP7RequestInWindow cfg p req.sfnSf = true
      · obtain ⟨index, -, rfl, rfl⟩ := (step_request_eq_ok hwindow).mp hstep
        exact h.store index k req.sfnSf req _
      · rw [step_request_of_late hwindow] at hstep
        cases hstep
        rwa [List.append_nil]
  | nodeSync deltaSfnSf =>
    cases hstep
    rw [List.append_nil]
    unfold pnfHandleDlNodeSync
    split_ifs <;> exact h
  | subframeInd sfnSf =>
    by_cases hsize : cfg.subframeBufferSize = 0
    · rw [step_subframeInd_of_zero hsize] at hstep
      cases hstep
      rwa [List.append_nil]
    · obtain ⟨index, txIndex, -, -, rfl, rfl⟩ := (step_subframeInd_eq_ok hsize).mp hstep
      exact tickCells_books h index txIndex _ _

theorem serveTx_harmless : ∀ note ∈ (serveTx cfg buffer txIndex sfnSfTx).1, note.Harmless := by
  unfold serveTx
  split_ifs with htag
  · exact serve_harmless buffer txIndex _ _
  · intro note hmem
    obtain ⟨told, -, rfl⟩ := List.mem_map.mp hmem
    trivial

theorem serveRx_harmless : ∀ note ∈ (serveRx cfg buffer index sfnSf).1, note.Harmless := by
  unfold serveRx
  split_ifs with htag
  · exact serve_harmless buffer index _ _
  · exact fun note hmem ↦ absurd hmem List.not_mem_nil

/-- The cell that is emptied is empty exactly when the test leaves out no request that is there. -/
theorem resetCell_harmless_iff : (∀ note ∈ (resetCell buffer index).1, note.Harmless) ↔
    ((∀ k ∈ testedTypes, (buffer index).content k = none) →
      (buffer index).content .hiDci0 = none) := by
  rw [resetCell, clearUnless_harmless_iff]
  refine imp_congr_right fun hempty ↦ ⟨fun h ↦ h .hiDci0, fun h k ↦ ?_⟩
  cases k with
  | hiDci0 => exact h
  | _ => exact hempty _ (by decide)

/-- What the cell of the subframe that is received holds when the other one has been served. -/
theorem serveTx_content (k : RequestType) :
    ((serveTx cfg buffer txIndex sfnSfTx).2 index).content k =
      if (buffer txIndex).tag = sfnSfTx ∧ index = txIndex ∧
        k ∈ [RequestType.dlConfig, .tx, .hiDci0, .ueRelease] then none
      else (buffer index).content k := by
  unfold serveTx
  by_cases htag : (buffer txIndex).tag = sfnSfTx
  · rw [if_pos htag, serve, serve_cells, freeAll_content]
    simp only [htag, true_and]
  · rw [if_neg htag, if_neg fun hall ↦ htag hall.1]

theorem serveTx_tag :
    ((serveTx cfg buffer txIndex sfnSfTx).2 index).tag = (buffer index).tag := by
  unfold serveTx
  split_ifs with htag
  · rw [serve, serve_cells, freeAll_tag]
  · rfl

theorem serveRx_content (k : RequestType) :
    ((serveRx cfg buffer index sfnSf).2 index).content k =
      if (buffer index).tag = sfnSf ∧ k ∈ [RequestType.ulConfig, .lbtDlConfig] then none
      else (buffer index).content k := by
  unfold serveRx
  by_cases htag : (buffer index).tag = sfnSf
  · rw [if_pos htag, serve, serve_cells, freeAll_content]
    simp only [htag, true_and]
  · rw [if_neg htag, if_neg fun hall ↦ htag hall.1]

/-- A tick loses no request exactly when the cell that it empties does not hold a HI_DCI0 request
alone. -/
theorem tickCells_harmless_iff :
    (∀ note ∈ (tickCells cfg buffer index txIndex sfnSf sfnSfTx).1, note.Harmless) ↔
      KeepsHiDci0 buffer index txIndex sfnSf sfnSfTx := by
  rw [tickCells_notes, List.forall_mem_append, List.forall_mem_append, resetCell_harmless_iff,
    and_iff_right ⟨serveTx_harmless, serveRx_harmless⟩]
  simp only [serveRx_content, serveTx_content, serveTx_tag, testedTypes, KeepsHiDci0,
    List.forall_mem_cons, List.exists_mem_cons_iff]
  by_cases hserved : index = txIndex ∧ (buffer index).tag = sfnSfTx
  · obtain ⟨rfl, htag⟩ := hserved
    simp [htag]
  · have hnot : ¬ ((buffer txIndex).tag = sfnSfTx ∧ index = txIndex) := by
      rintro ⟨htag, rfl⟩
      exact hserved ⟨rfl, htag⟩
    simp only [← and_assoc, hnot, hserved, false_and, if_false, false_or]
    by_cases htag : (buffer index).tag = sfnSf
    · simp [htag]
      tauto
    · simp [htag]
      tauto

/-- An event is dealt with and no cell is emptied with a request in it exactly when the indices are
in the array and a HI_DCI0 request is not alone in the cell that a tick empties. -/
theorem step_harmless_iff (p : PnfP7 β) (event : Event β) :
    (∃ notes next, step cfg p event = .ok (notes, next) ∧ ∀ note ∈ notes, note.Harmless) ↔
      NoneLost cfg p event := by
  have hsilent (next : PnfP7 β) :
      ∃ notes next', (.ok ([], next) : Outcome (List (SubframeNote β) × _)) = .ok (notes, next') ∧
        ∀ note ∈ notes, note.Harmless :=
    ⟨[], next, rfl, fun note hmem ↦ absurd hmem List.not_mem_nil⟩
  cases event with
  | request k unpacked =>
    cases unpacked with
    | none => exact iff_of_true (hsilent p) trivial
    | some req =>
      by_cases hwindow : isP7RequestInWindow cfg p req.sfnSf = true
      · simp only [step_request_eq_ok hwindow, NoneLost, hwindow, true_implies]
        constructor
        · rintro ⟨_, _, ⟨index, hindex, -, -⟩, -⟩
          exact ⟨index, hindex⟩
        · rintro ⟨index, hindex⟩
          exact ⟨_, _, ⟨index, hindex, rfl, rfl⟩, store_harmless _ index k _ req _⟩
      · rw [step_request_of_late hwindow]
        exact iff_of_true (hsilent p) fun hin ↦ absurd hin hwindow
  | nodeSync deltaSfnSf => exact iff_of_true (hsilent _) trivial
  | subframeInd sfnSf =>
    by_cases hsize : cfg.subframeBufferSize = 0
    · rw [step_subframeInd_of_zero hsize]
      exact iff_of_true (hsilent { p with sfnSf }) fun hne ↦ absurd hsize hne
    · simp only [step_subframeInd_eq_ok hsize, NoneLost, ne_eq, hsize, not_false_eq_true,
        true_implies]
      constructor
      · rintro ⟨_, _, ⟨index, txIndex, hindex, htx, rfl, rfl⟩, hnotes⟩
        exact ⟨index, txIndex, hindex, htx, tickCells_harmless_iff.mp hnotes⟩
      · rintro ⟨index, txIndex, hindex, htx, hkeeps⟩
        exact ⟨_, _, ⟨index, txIndex, hindex, htx, rfl, rfl⟩, tickCells_harmless_iff.mpr hkeeps⟩

/-- Over a run, every request stored in a cell is freed or still in it, and no cell is emptied with
a request in it, exactly when no tick empties a cell in which there is a HI_DCI0 request alone. -/
theorem subframeBuffer_kept_iff (cfg : Config β) (events : List (Event β)) :
    (∃ replies p, runAll (step cfg) (.initial β) events = .ok (replies, p) ∧
        BooksKept replies.flatten p.subframeBuffer ∧ ∀ note ∈ replies.flatten, note.Harmless) ↔
      AlongRun (step cfg) (NoneLost cfg) (.initial β) events :=
  kept_run_iff (fun _ _ event _ _ h hstep ↦ step_books h event hstep) (fun _ _ _ _ _ _ ↦ trivial)
    (fun p event _ ↦ step_harmless_iff p event) trivial (Books.empty 0) events

end Losses

end MultiUeProxy.Downlink.SubframeBuffer
