import MultiUeProxy.Lib.KeyGroups
import MultiUeProxy.Uplink.Batch
import MultiUeProxy.Uplink.Indications
import Mathlib.Data.List.ReduceOption

/-!
# Grouping the messages of one subframe or slot

`oai_subframe_aggregate_messages` and `oai_slot_aggregate_messages` of `nfapi_pnf.c`: the table of
delivered messages is scanned again and again. Each pass collects the messages with the id of the
first one that is left, blanks their cells, and hands the collected messages to the aggregator of
that id. The array that they are collected in holds `MAX_SUBFRAME_MSGS` messages; more messages of
one id are freed.

`messages_grouped_by_id` says what the loop does with every table that a call of the dequeue
functions delivers.
-/

set_option autoImplicit false
set_option relaxedAutoImplicit false

namespace MultiUeProxy.Uplink.Grouping

open Lib.Execution Lib.KeyGroups Lib.TimedBatch P7.Header P7.LteUplink P7.NrUplink Message Dequeue
open Peek Batch Indications

/-! ### The functions -/

/-- What an aggregator sends for a group of messages. -/
inductive Sent where
  | nothing
  | rach (inds : List (Indication LteFrame PreamblePdu))
  | crc (ind : Option (Indication LteFrame CrcIndicationPdu))
  | rx (ind : Option (Indication LteFrame RxIndicationPdu))
  | cqi (ind : Option (Indication LteFrame CqiEntry))
  | harq (ind : Option (Indication LteFrame HarqIndicationPdu))
  | sr (ind : Option (Indication LteFrame SrIndicationPdu))
  | nrRach (inds : List (Indication NrFrame NrPrachIndicationPdu))
  | nrCrc (ind : Option (Indication NrFrame NrCrc))
  | nrRxData (ind : Option (Indication NrFrame NrRxDataPdu))
  | nrUci (ind : Option (Indication NrFrame NrUci))
  | nrSrs (ind : Option (Indication NrSrsFrame NrSrsIndicationPdu))

/-- What both functions do before the switch: the assertions on the group and the read for the
trace. -/
def checkGroup (trace : MessageBuffer → Outcome UInt16) : List MessageBuffer → Outcome Unit
  | [] => .error .abort
  | first :: _ => do
    assert (first.length ≤ rxIndDataMax)
    let _time ← trace first
    return ()

/-- `oai_subframe_aggregate_message_id`. -/
def oaiSubframeAggregateMessageId (msgId : UInt16) (msgs : List MessageBuffer) : Outcome Sent := do
  checkGroup (fun first ↦ nfapiGetSfnsf first.memory first.length) msgs
  if msgId = rachIndication then return .rach (← oaiSubframeAggregateRachInd msgs)
  else if msgId = crcIndication then return .crc (← oaiSubframeAggregateCrcInd msgs)
  else if msgId = rxUlschIndication then return .rx (← oaiSubframeAggregateRxInd msgs)
  else if msgId = rxCqiIndication then return .cqi (← oaiSubframeAggregateCqiInd msgs)
  else if msgId = harqIndication then return .harq (← oaiSubframeAggregateHarqInd msgs)
  else if msgId = rxSrIndication then return .sr (← oaiSubframeAggregateSrInd msgs)
  else return .nothing

/-- `oai_slot_aggregate_message_id`. -/
def oaiSlotAggregateMessageId (msgId : UInt16) (msgs : List MessageBuffer) : Outcome Sent := do
  checkGroup (fun first ↦ nfapiGetSfnslot first.memory first.length) msgs
  if msgId = nrRachIndication then return .nrRach (← oaiSlotAggregateRachInd msgs)
  else if msgId = nrCrcIndication then return .nrCrc (← oaiSlotAggregateCrcInd msgs)
  else if msgId = nrRxDataIndication then return .nrRxData (← oaiSlotAggregateRxDataInd msgs)
  else if msgId = nrUciIndication then return .nrUci (← oaiSlotAggregateUciInd msgs)
  else if msgId = nrSrsIndication then return .nrSrs (← oaiSlotAggregateSrsInd msgs)
  else return .nothing

/-- The aggregation of the messages of one id. -/
def aggregateMessageId : Radio → UInt16 → List MessageBuffer → Outcome Sent
  | .lte => oaiSubframeAggregateMessageId
  | .nr => oaiSlotAggregateMessageId

/-- The variables of one pass over the table, with the messages that the pass frees. -/
structure Pass where
  foundMsgId : UInt16 := 0
  msgsById : List MessageBuffer := []
  freed : List MessageBuffer := []

/-- A message with the id of the pass is collected, or freed when the array is full. -/
def Pass.collect (s : Pass) (msg : MessageBuffer) : Pass :=
  if s.msgsById.length = maxSubframeMsgs then { s with freed := s.freed ++ [msg] }
  else { s with msgsById := s.msgsById ++ [msg] }

/-- The cells of the table, one array for each UE. -/
abbrev Cells : Type := List (List (Option MessageBuffer))

/-- What a pass does with one cell, and what it leaves in it. -/
def visitCell (s : Pass) : Option MessageBuffer → Outcome (Pass × Option MessageBuffer)
  | none => .ok (s, none)
  | some msg => do
    assert (msg.magic = messageBufferMagic)
    let id ← getMessageId msg
    let s := if s.foundMsgId = 0 then { s with foundMsgId := id } else s
    if s.foundMsgId = id then return (s.collect msg, none)
    else return (s, some msg)

/-- The loop over the cells of one UE. -/
def visitUe (s : Pass) : List (Option MessageBuffer) →
    Outcome (Pass × List (Option MessageBuffer))
  | [] => .ok (s, [])
  | cell :: cells => do
    let (s, cell) ← visitCell s cell
    let (s, cells) ← visitUe s cells
    return (s, cell :: cells)

/-- The loop over the UEs. -/
def visitTable (s : Pass) : Cells → Outcome (Pass × Cells)
  | [] => .ok (s, [])
  | cells :: table => do
    let (s, cells) ← visitUe s cells
    let (s, table) ← visitTable s table
    return (s, cells :: table)

/-- Frees the collected messages. -/
def freeAll : List MessageBuffer → Outcome Unit
  | [] => .ok ()
  | msg :: rest => do
    assert (msg.magic = messageBufferMagic)
    freeAll rest

/-- What happens in a call: the groups that are handed to an aggregator with what it sends, the
messages that are freed, and the table that is left. -/
structure Aggregated where
  calls : List (UInt16 × List MessageBuffer)
  sent : List Sent
  freed : List MessageBuffer
  table : Cells

/-- The loop over the passes. It has no bound in the source. -/
def aggregateLoop (radio : Radio) : (bound : ℕ) → Cells → Outcome Aggregated
  | 0, _ => .error .diverge
  | bound + 1, table => do
    let (pass, table) ← visitTable {} table
    if pass.foundMsgId = 0 then return ⟨[], [], pass.freed, table⟩
    else
      let sent ← aggregateMessageId radio pass.foundMsgId pass.msgsById
      freeAll pass.msgsById
      let r ← aggregateLoop radio bound table
      return {
        calls := (pass.foundMsgId, pass.msgsById) :: r.calls
        sent := sent :: r.sent
        freed := pass.freed ++ pass.msgsById ++ r.freed
        table := r.table }

/-- The common text of the two functions. Every pass but the last one blanks a cell. -/
def aggregateMessages (radio : Radio) (table : List SubframeMsgs) : Outcome Aggregated :=
  aggregateLoop radio ((table.map SubframeMsgs.msgs).flatten.length + 1)
    (table.map SubframeMsgs.msgs)

/-- `oai_subframe_aggregate_messages`. -/
def oaiSubframeAggregateMessages (subframeMsgs : List SubframeMsgs) : Outcome Aggregated :=
  aggregateMessages .lte subframeMsgs

/-- `oai_slot_aggregate_messages`. -/
def oaiSlotAggregateMessages (slotMsgs : List SubframeMsgs) : Outcome Aggregated :=
  aggregateMessages .nr slotMsgs

/-! ### Delivered messages -/

/-- The message ids that the peek of a variant knows. -/
def knownIds : Radio → List UInt16
  | .lte => sfnsfIds
  | .nr => sfnslotIds

/-- What is known of a message that a call of the dequeue functions delivers. -/
structure Readable (radio : Radio) (msg : MessageBuffer) : Prop where
  live : msg.Live
  time : radio.time msg ≠ none

/-- A message with a readable time has a known id, and room for it. -/
theorem Readable.id {radio : Radio} {msg : MessageBuffer} (h : Readable radio msg) :
    p7HeaderLength ≤ msg.length ∧ msg.headerId ∈ knownIds radio := by
  have htime := h.time
  cases radio with
  | lte =>
    simp only [Radio.time, sfnsf?] at htime
    split_ifs at htime with hroom
    · exact ⟨by omega, hroom.2⟩
    · exact absurd rfl htime
  | nr =>
    simp only [Radio.time, sfnslot?] at htime
    split_ifs at htime with hroom
    · exact ⟨by omega, hroom.2⟩
    · exact absurd rfl htime

theorem Readable.getMessageId_eq {radio : Radio} {msg : MessageBuffer} (h : Readable radio msg) :
    getMessageId msg = .ok msg.headerId := by
  have hroom := h.id.1
  simp only [p7HeaderLength] at hroom
  exact getMessageId_of_room h.live.length_le (by omega)

theorem Readable.headerId_ne {radio : Radio} {msg : MessageBuffer} (h : Readable radio msg) :
    msg.headerId ≠ 0 := by
  have hzero : (0 : UInt16) ∉ knownIds radio := by cases radio <;> decide
  exact fun hid ↦ hzero (hid ▸ h.id.2)

/-! ### One pass -/

theorem collect_found (s : Pass) (ms : List MessageBuffer) :
    (ms.foldl Pass.collect s).foundMsgId = s.foundMsgId := by
  induction ms generalizing s with
  | nil => rfl
  | cons m ms ih =>
    rw [List.foldl_cons, ih, Pass.collect]
    split_ifs <;> rfl

/-- Of the messages of the pass, those that fit are collected and the others are freed. -/
theorem foldl_collect (s : Pass) (hs : s.msgsById.length ≤ maxSubframeMsgs)
    (ms : List MessageBuffer) :
    ms.foldl Pass.collect s = {
      foundMsgId := s.foundMsgId
      msgsById := (s.msgsById ++ ms).take maxSubframeMsgs
      freed := s.freed ++ (s.msgsById ++ ms).drop maxSubframeMsgs } := by
  induction ms generalizing s with
  | nil =>
    rw [List.foldl_nil, List.append_nil, List.take_of_length_le hs, List.drop_of_length_le hs,
      List.append_nil]
  | cons m ms ih =>
    rw [List.foldl_cons]
    by_cases hfull : s.msgsById.length = maxSubframeMsgs
    · have hnext := ih { s with freed := s.freed ++ [m] } hs
      rw [Pass.collect, if_pos hfull, hnext, List.take_left' hfull, List.take_left' hfull,
        List.drop_left' hfull, List.drop_left' hfull, List.append_assoc, List.singleton_append]
    · have hnext := ih { s with msgsById := s.msgsById ++ [m] } (by simp; omega)
      rw [Pass.collect, if_neg hfull, hnext, List.append_assoc, List.singleton_append]

/-- What a pass with the id `id` leaves in a cell. -/
def blank (id : UInt16) (cell : Option MessageBuffer) : Option MessageBuffer :=
  cell.filter fun msg ↦ msg.headerId ≠ id

section Pass

variable {radio : Radio}

theorem visitCell_eq {s : Pass} (hs : s.foundMsgId ≠ 0) {msg : MessageBuffer}
    (hmsg : Readable radio msg) :
    visitCell s (some msg) = .ok
      (if msg.headerId = s.foundMsgId then (s.collect msg, none) else (s, some msg)) := by
  rw [visitCell, assert_of_true hmsg.live.magic_eq, ok_bind, hmsg.getMessageId_eq, ok_bind]
  simp only [if_neg hs]
  by_cases hid : msg.headerId = s.foundMsgId
  · rw [if_pos hid, if_pos hid.symm, pure_eq_ok]
  · rw [if_neg hid, if_neg (Ne.symm hid), pure_eq_ok]

theorem visitUe_eq {s : Pass} (hs : s.foundMsgId ≠ 0) {cells : List (Option MessageBuffer)}
    (hcells : ∀ msg ∈ cells.reduceOption, Readable radio msg) :
    visitUe s cells = .ok
      ((group MessageBuffer.headerId s.foundMsgId cells.reduceOption).foldl Pass.collect s,
        cells.map (blank s.foundMsgId)) := by
  induction cells generalizing s with
  | nil => rfl
  | cons cell cells ih =>
    cases cell with
    | none =>
      rw [List.reduceOption_cons_of_none] at hcells ⊢
      simp only [visitUe, visitCell, ok_bind, ih hs hcells, pure_eq_ok, List.map_cons, blank,
        Option.filter_none]
    | some msg =>
      rw [List.reduceOption_cons_of_some] at hcells ⊢
      have hrest : ∀ m ∈ cells.reduceOption, Readable radio m := fun m hm ↦
        hcells m (List.mem_cons_of_mem msg hm)
      have hcell := visitCell_eq hs (hcells msg (List.mem_cons_self ..))
      by_cases hid : msg.headerId = s.foundMsgId
      · have hfound : (s.collect msg).foundMsgId = s.foundMsgId := collect_found s [msg]
        have hnext := ih (s := s.collect msg) (by rwa [hfound]) hrest
        rw [if_pos hid] at hcell
        rw [hfound] at hnext
        have hblank : blank s.foundMsgId (some msg) = none :=
          Option.filter_some_neg (by simp [hid])
        have hgroup : group MessageBuffer.headerId s.foundMsgId (msg :: cells.reduceOption) =
            msg :: group MessageBuffer.headerId s.foundMsgId cells.reduceOption :=
          List.filter_cons_of_pos (by simp [hid])
        simp only [visitUe, hcell, ok_bind, hnext, pure_eq_ok, List.map_cons, hblank, hgroup,
          List.foldl_cons]
      · rw [if_neg hid] at hcell
        have hblank : blank s.foundMsgId (some msg) = some msg :=
          Option.filter_some_pos (by simp [hid])
        have hgroup : group MessageBuffer.headerId s.foundMsgId (msg :: cells.reduceOption) =
            group MessageBuffer.headerId s.foundMsgId cells.reduceOption :=
          List.filter_cons_of_neg (by simp [hid])
        simp only [visitUe, hcell, ok_bind, ih hs hrest, pure_eq_ok, List.map_cons, hblank, hgroup]

/-- The messages in a table, UE by UE. -/
def collected (table : Cells) : List MessageBuffer := table.flatMap List.reduceOption

theorem collected_cons (cells : List (Option MessageBuffer)) (table : Cells) :
    collected (cells :: table) = cells.reduceOption ++ collected table := List.flatMap_cons

theorem visitTable_eq {s : Pass} (hs : s.foundMsgId ≠ 0) {table : Cells}
    (htable : ∀ msg ∈ collected table, Readable radio msg) :
    visitTable s table = .ok
      ((group MessageBuffer.headerId s.foundMsgId (collected table)).foldl Pass.collect s,
        table.map (List.map (blank s.foundMsgId))) := by
  induction table generalizing s with
  | nil => rfl
  | cons cells table ih =>
    rw [collected_cons] at htable
    have hcells : ∀ msg ∈ cells.reduceOption, Readable radio msg := fun msg hmsg ↦
      htable msg (List.mem_append_left _ hmsg)
    have hrest : ∀ msg ∈ collected table, Readable radio msg := fun msg hmsg ↦
      htable msg (List.mem_append_right _ hmsg)
    have hfound := collect_found s (group MessageBuffer.headerId s.foundMsgId cells.reduceOption)
    have hnext := ih (by rwa [hfound]) hrest
    have hgroup : group MessageBuffer.headerId s.foundMsgId (collected (cells :: table)) =
        group MessageBuffer.headerId s.foundMsgId cells.reduceOption ++
          group MessageBuffer.headerId s.foundMsgId (collected table) := by
      rw [collected_cons, group, List.filter_append, group, group]
    rw [hfound] at hnext
    simp only [visitTable, visitUe_eq hs hcells, ok_bind, hnext, pure_eq_ok, List.map_cons, hgroup,
      List.foldl_append]

/-- The id of the pass is that of the first message. -/
theorem visitCell_unset {s : Pass} (hs : s.foundMsgId = 0) {msg : MessageBuffer}
    (hmsg : Readable radio msg) :
    visitCell s (some msg) = visitCell { s with foundMsgId := msg.headerId } (some msg) := by
  rw [visitCell, visitCell, hmsg.getMessageId_eq, ok_bind, ok_bind, if_pos hs,
    if_neg hmsg.headerId_ne]

theorem visitUe_of_nil (s : Pass) {cells : List (Option MessageBuffer)}
    (hcells : cells.reduceOption = []) : visitUe s cells = .ok (s, cells) := by
  induction cells with
  | nil => rfl
  | cons cell cells ih =>
    cases cell with
    | none =>
      rw [List.reduceOption_cons_of_none] at hcells
      simp only [visitUe, visitCell, ok_bind, ih hcells, pure_eq_ok]
    | some msg =>
      rw [List.reduceOption_cons_of_some] at hcells
      cases hcells

theorem visitUe_unset {s : Pass} (hs : s.foundMsgId = 0) {cells : List (Option MessageBuffer)}
    (hcells : ∀ msg ∈ cells.reduceOption, Readable radio msg) :
    visitUe s cells = match cells.reduceOption with
      | [] => .ok (s, cells)
      | msg :: _ => visitUe { s with foundMsgId := msg.headerId } cells := by
  induction cells with
  | nil => rfl
  | cons cell cells ih =>
    cases cell with
    | none =>
      rw [List.reduceOption_cons_of_none] at hcells ⊢
      have hnext := ih hcells
      cases hrest : cells.reduceOption with
      | nil =>
        rw [hrest] at hnext
        simp only [visitUe, visitCell, ok_bind, hnext, pure_eq_ok]
      | cons msg rest =>
        rw [hrest] at hnext
        simp only [visitUe, visitCell, ok_bind, hnext, pure_eq_ok]
    | some msg =>
      rw [List.reduceOption_cons_of_some] at hcells ⊢
      simp only [visitUe, visitCell_unset hs (hcells msg (List.mem_cons_self ..))]

theorem visitTable_unset {s : Pass} (hs : s.foundMsgId = 0) {table : Cells}
    (htable : ∀ msg ∈ collected table, Readable radio msg) :
    visitTable s table = match collected table with
      | [] => .ok (s, table)
      | msg :: _ => visitTable { s with foundMsgId := msg.headerId } table := by
  induction table with
  | nil => rfl
  | cons cells table ih =>
    rw [collected_cons] at htable ⊢
    have hue := visitUe_unset hs fun msg hmsg ↦ htable msg (List.mem_append_left _ hmsg)
    have hnext := ih fun msg hmsg ↦ htable msg (List.mem_append_right _ hmsg)
    cases hcells : cells.reduceOption with
    | nil =>
      rw [hcells] at hue
      rw [List.nil_append]
      cases hrest : collected table with
      | nil =>
        rw [hrest] at hnext
        simp only [visitTable, hue, ok_bind, hnext, pure_eq_ok]
      | cons msg rest =>
        -- the messages of this UE are gone, so the pass leaves its cells as they are
        rw [hrest] at hnext
        have hskip := visitUe_of_nil { s with foundMsgId := msg.headerId } hcells
        simp only [visitTable, hue, hskip, ok_bind, hnext, pure_eq_ok]
    | cons msg rest =>
      rw [hcells] at hue
      rw [List.cons_append]
      simp only [visitTable, hue]

end Pass

/-! ### What is left after a pass -/

theorem reduceOption_blank (id : UInt16) (cells : List (Option MessageBuffer)) :
    (cells.map (blank id)).reduceOption =
      others MessageBuffer.headerId id cells.reduceOption := by
  induction cells with
  | nil => rfl
  | cons cell cells ih =>
    cases cell with
    | none =>
      rw [List.map_cons, blank, Option.filter_none, List.reduceOption_cons_of_none, ih,
        List.reduceOption_cons_of_none]
    | some msg =>
      rw [List.map_cons, blank, List.reduceOption_cons_of_some]
      by_cases hid : msg.headerId = id
      · rw [Option.filter_some_neg (by simp [hid]), List.reduceOption_cons_of_none, ih, others,
          others, List.filter_cons_of_neg (by simp [hid])]
      · rw [Option.filter_some_pos (by simp [hid]), List.reduceOption_cons_of_some, ih, others,
          others, List.filter_cons_of_pos (by simp [hid])]

theorem collected_blank (id : UInt16) (table : Cells) :
    collected (table.map (List.map (blank id))) =
      others MessageBuffer.headerId id (collected table) := by
  induction table with
  | nil => rfl
  | cons cells table ih =>
    rw [List.map_cons, collected_cons, ih, reduceOption_blank, collected_cons, others, others,
      others, List.filter_append]

/-- The table with all cells blank. -/
def emptied (table : Cells) : Cells := table.map (List.map fun _ ↦ none)

theorem emptied_of_nil {table : Cells} (h : collected table = []) : emptied table = table := by
  induction table with
  | nil => rfl
  | cons cells table ih =>
    rw [collected_cons, List.append_eq_nil_iff] at h
    have hcells : cells.map (fun _ ↦ none) = cells := by
      refine (List.map_congr_left fun cell hcell ↦ ?_).trans (List.map_id cells)
      cases cell with
      | none => rfl
      | some msg =>
        have hmem := List.reduceOption_mem_iff.mpr hcell
        rw [h.1] at hmem
        cases hmem
    rw [emptied, List.map_cons, hcells, ← emptied, ih h.2]

theorem emptied_blank (id : UInt16) (table : Cells) :
    emptied (table.map (List.map (blank id))) = emptied table := by
  simp only [emptied, List.map_map, Function.comp_def]

/-! ### The loop -/

/-- The groups that are handed to an aggregator: the first messages of each id. -/
def groupCalls (msgs : List MessageBuffer) : List (UInt16 × List MessageBuffer) :=
  (keys MessageBuffer.headerId msgs).map fun id ↦
    (id, (group MessageBuffer.headerId id msgs).take maxSubframeMsgs)

/-- The messages in the order in which they are freed: for each id those that are too many, then
those that were handed to the aggregator. -/
def freedInTurn (msgs : List MessageBuffer) : List MessageBuffer :=
  (keys MessageBuffer.headerId msgs).flatMap fun id ↦
    (group MessageBuffer.headerId id msgs).drop maxSubframeMsgs ++
      (group MessageBuffer.headerId id msgs).take maxSubframeMsgs

theorem groupCalls_cons (msg : MessageBuffer) (msgs : List MessageBuffer) :
    groupCalls (msg :: msgs) =
      (msg.headerId,
          (group MessageBuffer.headerId msg.headerId (msg :: msgs)).take maxSubframeMsgs) ::
        groupCalls (others MessageBuffer.headerId msg.headerId (msg :: msgs)) := by
  rw [groupCalls, keys_cons, List.map_cons, groupCalls]
  exact congrArg _ (map_groups_others MessageBuffer.headerId
    (fun id ms ↦ (id, ms.take maxSubframeMsgs)) msg msgs).symm

theorem freedInTurn_cons (msg : MessageBuffer) (msgs : List MessageBuffer) :
    freedInTurn (msg :: msgs) =
      (group MessageBuffer.headerId msg.headerId (msg :: msgs)).drop maxSubframeMsgs ++
        (group MessageBuffer.headerId msg.headerId (msg :: msgs)).take maxSubframeMsgs ++
        freedInTurn (others MessageBuffer.headerId msg.headerId (msg :: msgs)) := by
  rw [freedInTurn, keys_cons, List.flatMap_cons, freedInTurn, List.flatMap_def, List.flatMap_def]
  exact congrArg (fun ms ↦ _ ++ List.flatten ms) (map_groups_others MessageBuffer.headerId
    (fun _ ms ↦ ms.drop maxSubframeMsgs ++ ms.take maxSubframeMsgs) msg msgs).symm

/-- Every message is freed once. -/
theorem freedInTurn_perm (msgs : List MessageBuffer) : (freedInTurn msgs).Perm msgs := by
  refine List.Perm.trans ?_ (groups_perm MessageBuffer.headerId msgs)
  refine List.Perm.flatMap_left _ fun id _ ↦ ?_
  exact List.perm_append_comm.trans (List.Perm.of_eq (List.take_append_drop ..))

theorem freeAll_eq_ok {msgs : List MessageBuffer} (hlive : ∀ msg ∈ msgs, msg.Live) :
    freeAll msgs = .ok () := by
  induction msgs with
  | nil => rfl
  | cons msg msgs ih =>
    rw [freeAll, assert_of_true (hlive msg (List.mem_cons_self ..)).magic_eq, ok_bind,
      ih fun m hm ↦ hlive m (List.mem_cons_of_mem msg hm)]

/-- Each pass handles one id. The induction is on the bound of the loop, which is larger than the
number of messages that are left. -/
theorem aggregateLoop_eq {radio : Radio} {bound : ℕ} {table : Cells}
    (hbound : (collected table).length < bound)
    (htable : ∀ msg ∈ collected table, Readable radio msg) :
    aggregateLoop radio bound table = do
      let sent ← (groupCalls (collected table)).mapM fun call ↦
        aggregateMessageId radio call.1 call.2
      return ⟨groupCalls (collected table), sent, freedInTurn (collected table), emptied table⟩ := by
  induction bound generalizing table with
  | zero => cases hbound
  | succ bound ih =>
    have hfirst := visitTable_unset (s := {}) rfl htable
    cases hmsgs : collected table with
    | nil =>
      rw [hmsgs] at hfirst
      rw [aggregateLoop, hfirst, ok_bind, emptied_of_nil hmsgs]
      rfl
    | cons msg msgs =>
      rw [hmsgs] at hfirst
      have hmsg : Readable radio msg := htable msg (by rw [hmsgs]; exact List.mem_cons_self ..)
      have hpass := visitTable_eq (s := { foundMsgId := msg.headerId }) hmsg.headerId_ne htable
      rw [foldl_collect _ (Nat.zero_le _), hmsgs, List.nil_append, List.nil_append] at hpass
      let left := table.map (List.map (blank msg.headerId))
      have hleft : collected left = others MessageBuffer.headerId msg.headerId (msg :: msgs) := by
        rw [collected_blank, hmsgs]
      have hfewer : (collected left).length < bound := by
        have hless := others_length_lt MessageBuffer.headerId msg msgs
        rw [← hleft] at hless
        rw [hmsgs] at hbound
        omega
      have hrest : ∀ m ∈ collected left, Readable radio m := by
        intro m hm
        rw [hleft, others, ← hmsgs] at hm
        exact htable m (List.mem_of_mem_filter hm)
      have hfree : freeAll ((group MessageBuffer.headerId msg.headerId (msg :: msgs)).take
          maxSubframeMsgs) = .ok () := freeAll_eq_ok fun m hm ↦ by
        unfold group at hm
        rw [← hmsgs] at hm
        exact (htable m (List.mem_of_mem_filter (List.mem_of_mem_take hm))).live
      unfold aggregateLoop
      rw [hfirst]
      simp only [hpass, ok_bind, if_neg hmsg.headerId_ne, hfree]
      rw [ih hfewer hrest, hleft, emptied_blank, groupCalls_cons, freedInTurn_cons]
      simp only [List.mapM_cons, bind_assoc, pure_bind]

/-! ### What a call delivers -/

section Delivered

variable {radio : Radio} {tx : UInt16} {xss : List (List MessageBuffer)} {r : Dequeued}

theorem collected_table (r : Dequeued) :
    collected (r.table.map SubframeMsgs.msgs) = r.delivered.flatten := by
  unfold collected
  rw [Dequeued.delivered, List.flatMap_map, List.flatMap_def]

/-- Delivered messages are live and have a readable time. -/
theorem readable_of_delivered (hlive : ∀ xs ∈ xss, ∀ msg ∈ xs, msg.Live)
    (hrefines : r.Refines true (radio.scans tx xss)) {msg : MessageBuffer}
    (hmsg : msg ∈ r.delivered.flatten) : Readable radio msg := by
  obtain ⟨t, hall⟩ := delivered_times hrefines
  rw [hrefines.delivered_eq] at hmsg
  obtain ⟨xs, hxs, hmem⟩ := mem_of_mem_delivered hmsg
  rw [← hrefines.delivered_eq] at hmsg
  refine ⟨hlive xs hxs msg hmem, fun hnone ↦ ?_⟩
  rcases hall msg hmsg with htime | htime
  · rw [hnone] at htime
    cases htime
  · rw [hnone] at htime
    cases htime

/-- What the call does with the table that a call of the dequeue functions delivers. -/
theorem aggregateMessages_eq (hlive : ∀ xs ∈ xss, ∀ msg ∈ xs, msg.Live)
    (hrefines : r.Refines true (radio.scans tx xss)) :
    aggregateMessages radio r.table = do
      let sent ← (groupCalls r.delivered.flatten).mapM fun call ↦
        aggregateMessageId radio call.1 call.2
      return {
        calls := groupCalls r.delivered.flatten
        sent
        freed := freedInTurn r.delivered.flatten
        table := emptied (r.table.map SubframeMsgs.msgs) } := by
  have hcount : (collected (r.table.map SubframeMsgs.msgs)).length <
      (r.table.map SubframeMsgs.msgs).flatten.length + 1 := by
    have hfewer := List.length_filterMap_le id (r.table.map SubframeMsgs.msgs).flatten
    rw [List.filterMap_flatten, ← List.flatMap_def] at hfewer
    exact Nat.lt_succ_of_le hfewer
  rw [← collected_table, aggregateMessages, aggregateLoop_eq hcount fun msg hmsg ↦
    readable_of_delivered hlive hrefines (collected_table r ▸ hmsg)]

end Delivered

/-! ### Termination -/

theorem checkGroup_ends {trace : MessageBuffer → Outcome UInt16} (htrace : ∀ msg, Ends (trace msg))
    (msgs : List MessageBuffer) : Ends (checkGroup trace msgs) := by
  cases msgs with
  | nil => exact ends_error fun h ↦ by cases h
  | cons first rest => exact (ends_assert _).bind fun _ ↦ (htrace first).bind fun _ ↦ ends_ok ()

/-- The aggregation of the messages of one id returns or crashes after finitely many steps. -/
theorem aggregateMessageId_ends (radio : Radio) (id : UInt16) (msgs : List MessageBuffer) :
    Ends (aggregateMessageId radio id msgs) := by
  have hsend : ∀ {α : Type} {x : Outcome α} (f : α → Sent), Ends x →
      Ends (x >>= fun a ↦ pure (f a)) := fun _ hx ↦ hx.bind fun _ ↦ ends_ok _
  cases radio with
  | lte =>
    have htrace : ∀ msg : MessageBuffer, Ends (nfapiGetSfnsf msg.memory msg.length) := by
      intro msg
      obtain ⟨time, htime⟩ := nfapiGetSfnsf_returns msg.length msg.memory_room
      rw [htime]
      exact ends_ok time
    refine (checkGroup_ends htrace msgs).bind fun _ ↦ ?_
    split_ifs
    · exact hsend _ ((ends_assert _).bind fun _ ↦ sendEach_ends (unpackLte_ends _) _ msgs)
    · exact hsend _ ((UplinkKind.crc).ending.run msgs)
    · exact hsend _ ((UplinkKind.rx).ending.run msgs)
    · exact hsend _ ((UplinkKind.cqi).ending.run msgs)
    · exact hsend _ ((UplinkKind.harq).ending.run msgs)
    · exact hsend _ ((UplinkKind.sr).ending.run msgs)
    · exact ends_ok _
  | nr =>
    have htrace : ∀ msg : MessageBuffer, Ends (nfapiGetSfnslot msg.memory msg.length) :=
      fun msg ↦ by
        obtain ⟨time, htime⟩ := nfapiGetSfnslot_returns msg.length msg.memory_room
        rw [htime]
        exact ends_ok time
    refine (checkGroup_ends htrace msgs).bind fun _ ↦ ?_
    split_ifs
    · exact hsend _ ((ends_assert _).bind fun _ ↦ sendEach_ends (unpackNr_ends _) _ msgs)
    · exact hsend _ ((UplinkKind.nrCrc).ending.run msgs)
    · exact hsend _ ((UplinkKind.nrRxData).ending.run msgs)
    · exact hsend _ ((UplinkKind.nrUci).ending.run msgs)
    · exact hsend _ ((UplinkKind.nrSrs).ending.run msgs)
    · exact ends_ok _

/-! ### Grouped messages -/

/-- Calls that hand the messages of each id, in their order, to one call of the aggregator of that
id, as far as they fit into the array of the messages of one id. -/
structure GroupedById (msgs : List MessageBuffer) (calls : List (UInt16 × List MessageBuffer)) :
    Prop where
  nodup : (calls.map Prod.fst).Nodup
  mem_iff : ∀ id handed, (id, handed) ∈ calls ↔ (∃ msg ∈ msgs, msg.headerId = id) ∧
    handed = (msgs.filter fun msg ↦ msg.headerId = id).take maxSubframeMsgs

theorem groupCalls_grouped (msgs : List MessageBuffer) : GroupedById msgs (groupCalls msgs) where
  nodup := by
    unfold groupCalls
    rw [List.map_map]
    exact (List.map_id _).symm ▸ keys_nodup MessageBuffer.headerId msgs
  mem_iff := by
    intro id handed
    unfold groupCalls
    rw [List.mem_map, ← mem_keys MessageBuffer.headerId]
    constructor
    · rintro ⟨id', hid', heq⟩
      obtain ⟨rfl, rfl⟩ := Prod.mk.injEq _ _ _ _ ▸ heq
      exact ⟨hid', rfl⟩
    · rintro ⟨hid, rfl⟩
      exact ⟨id, hid, rfl⟩

/-- With every table that a call of the dequeue functions delivers, the function goes through the
ids of the delivered messages. The aggregator of each id is called once, with the first
`MAX_SUBFRAME_MSGS` messages of that id. The function ends; unless one of the aggregators crashes,
it frees every message once and leaves the table empty. -/
theorem messages_grouped_by_id (radio : Radio) (tx : UInt16) {xss : List (List MessageBuffer)}
    (family : UeQueues xss) :
    ∃ r calls freed, dequeueMsgs radio tx family.queues = .ok r ∧
      (∀ msg ∈ r.delivered.flatten, msg.headerId ∈ knownIds radio) ∧
      GroupedById r.delivered.flatten calls ∧ freed.Perm r.delivered.flatten ∧
      aggregateMessages radio r.table = (do
        let sent ← calls.mapM fun call ↦ aggregateMessageId radio call.1 call.2
        return { calls, sent, freed, table := emptied (r.table.map SubframeMsgs.msgs) }) ∧
      Ends (aggregateMessages radio r.table) := by
  obtain ⟨r, hcall, hrefines⟩ := dequeueMsgs_refines radio tx family
  have haggregate := aggregateMessages_eq family.live hrefines
  refine ⟨r, _, _, hcall, fun msg hmsg ↦ (readable_of_delivered family.live hrefines hmsg).id.2,
    groupCalls_grouped _, freedInTurn_perm _, haggregate, ?_⟩
  rw [haggregate]
  have hcalls : ∀ call : UInt16 × List MessageBuffer,
      Ends (aggregateMessageId radio call.1 call.2) := fun call ↦
    aggregateMessageId_ends radio call.1 call.2
  exact (ends_mapM hcalls _).bind fun _ ↦ ends_ok _

/-- One UE sends eight CRC indications for one subframe and another UE sends one. -/
def nineCrcs : UeQueues [List.replicate 8 (crcAt 0x0010), [crcAt 0x0010]] :=
  .ofLists _ (by decide) (by simp [crcAt_live])

/-- The message of the second UE is delivered, but no aggregator gets it. -/
theorem ninth_message_dropped :
    ∃ r s, dequeueUeMsgs 0x0010 nineCrcs.queues = .ok r ∧
      oaiSubframeAggregateMessages r.table = .ok s ∧
      r.delivered.flatten.length = 9 ∧ (s.calls.flatMap Prod.snd).length = 8 := by
  obtain ⟨r, hcall, hrefines⟩ := dequeueMsgs_refines .lte 0x0010 nineCrcs
  have hdelivered : r.delivered.flatten = List.replicate 9 (crcAt 0x0010) := by
    rw [hrefines.delivered_eq]
    rfl
  have haggregate := aggregateMessages_eq nineCrcs.live hrefines
  rw [hdelivered] at haggregate
  have hsent : (((groupCalls (List.replicate 9 (crcAt 0x0010))).mapM fun call ↦
      aggregateMessageId .lte call.1 call.2).map List.length) = .ok 1 := rfl
  cases hrun : (groupCalls (List.replicate 9 (crcAt 0x0010))).mapM fun call ↦
      aggregateMessageId .lte call.1 call.2 with
  | error cause => rw [hrun] at hsent; cases hsent
  | ok sent =>
    rw [hrun, ok_bind] at haggregate
    exact ⟨r, _, hcall, haggregate, by rw [hdelivered]; rfl, rfl⟩

end MultiUeProxy.Uplink.Grouping
