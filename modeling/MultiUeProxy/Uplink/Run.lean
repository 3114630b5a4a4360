import MultiUeProxy.Uplink.Grouping
import MultiUeProxy.Uplink.Receive

/-!
# Runs of the uplink path

The receive loops of all UEs and `oai_subframe_task` or `oai_slot_task` work on the same queues. A
run is any sequence of datagrams, each at the socket of some UE, and of subframe or slot ticks. A
tick dequeues the messages of one time and aggregates them. The events are taken one after the
other: a datagram that comes during a tick counts as one that comes before or after it.

`PathState` is the state between two events, with the queues of the source or with the lists they
stand for. `step_refines` says that a harmless event does not crash and does to the queues what it
should do to the lists, and `harmless_run_returns` says the same of whole runs. An event is harmless
under a condition on the datagram, or on the messages that the tick finds at the heads of the lists.
-/

set_option autoImplicit false
set_option relaxedAutoImplicit false

namespace MultiUeProxy.Uplink.Run

open Lib.Execution Lib.TimedBatch Queue.Operations Queue.DequeRefinement P7.Header P7.LteUplink
open Message Dequeue Batch Aggregation Indications Grouping Receive

/-! ### Groups on which an aggregator does not crash -/

/-- The message id of the groups of a kind. -/
def groupId : UplinkKind → UInt16
  | .crc => crcIndication
  | .rx => rxUlschIndication
  | .cqi => rxCqiIndication
  | .harq => harqIndication
  | .sr => rxSrIndication
  | .nrCrc => nrCrcIndication
  | .nrRxData => nrRxDataIndication
  | .nrUci => nrUciIndication
  | .nrSrs => nrSrsIndication

/-- The messages of one id can be handed to the aggregator of that id. -/
structure HarmlessGroup (radio : Radio) (id : UInt16) (msgs : List MessageBuffer) : Prop where
  aggregated : ∀ kind : UplinkKind, kind.aggregator.radio = radio → groupId kind = id →
    kind.aggregator.Harmless msgs
  rach : radio = .lte → id = rachIndication → ∀ msg ∈ msgs, ∃ ind, unpackLte rach? msg = .ok ind
  nrRach : radio = .nr → id = nrRachIndication →
    ∀ msg ∈ msgs, ∃ ind, unpackNr nrRach? msg = .ok ind

section Group

variable {radio : Radio} {id : UInt16} {msgs : List MessageBuffer}

theorem checkGroup_eq_ok {trace : MessageBuffer → Outcome UInt16} (hne : msgs ≠ [])
    (hlength : ∀ msg ∈ msgs, msg.length ≤ rxIndDataMax)
    (htrace : ∀ msg, ∃ time, trace msg = .ok time) : checkGroup trace msgs = .ok () := by
  cases msgs with
  | nil => exact absurd rfl hne
  | cons first rest =>
    obtain ⟨time, htime⟩ := htrace first
    rw [checkGroup, assert_of_true (hlength first (List.mem_cons_self ..)), ok_bind, htime, ok_bind]
    rfl

/-- The aggregator of a kind returns for a harmless group. -/
theorem run_returns (hne : msgs ≠ []) (hread : ∀ msg ∈ msgs, Readable radio msg)
    (h : HarmlessGroup radio id msgs) (kind : UplinkKind) (hradio : kind.aggregator.radio = radio)
    (hid : groupId kind = id) : ∃ sent, kind.aggregator.run msgs = .ok sent := by
  have hforward : kind.aggregator.forward msgs = kind.aggregator.run msgs := if_neg hne
  rw [← hforward]
  refine Aggregator.forward_of_harmless kind.sound (fun msg hmsg ↦ ?_) (h.aggregated kind hradio hid)
  rw [hradio]
  exact ⟨(hread msg hmsg).live.length_le, (hread msg hmsg).time⟩

/-- A harmless group is aggregated and sent. The cases are those of the switch over the id. -/
theorem aggregateMessageId_returns (hne : msgs ≠ []) (hread : ∀ msg ∈ msgs, Readable radio msg)
    (h : HarmlessGroup radio id msgs) : ∃ sent, aggregateMessageId radio id msgs = .ok sent := by
  have hlength : ∀ msg ∈ msgs, msg.length ≤ rxIndDataMax := fun msg hmsg ↦
    (hread msg hmsg).live.length_le
  have hcount : msgs.length > 0 := List.length_pos_iff.mpr hne
  have hrun := run_returns hne hread h
  cases radio with
  | lte =>
    have hcheck := checkGroup_eq_ok hne hlength fun msg ↦
      nfapiGetSfnsf_returns msg.length msg.memory_room
    simp only [aggregateMessageId, oaiSubframeAggregateMessageId, hcheck, ok_bind]
    split_ifs with hrach hcrc hrx hcqi hharq hsr
    · refine bind_returns ?_ Sent.rach
      rw [oaiSubframeAggregateRachInd, assert_of_true hcount, ok_bind]
      exact sendEach_eq_ok fun msg hmsg ↦ ⟨hlength msg hmsg, h.rach rfl hrach msg hmsg⟩
    · exact bind_returns (hrun .crc rfl hcrc.symm) Sent.crc
    · exact bind_returns (hrun .rx rfl hrx.symm) Sent.rx
    · exact bind_returns (hrun .cqi rfl hcqi.symm) Sent.cqi
    · exact bind_returns (hrun .harq rfl hharq.symm) Sent.harq
    · exact bind_returns (hrun .sr rfl hsr.symm) Sent.sr
    · exact ⟨_, rfl⟩
  | nr =>
    have hcheck := checkGroup_eq_ok hne hlength fun msg ↦
      nfapiGetSfnslot_returns msg.length msg.memory_room
    simp only [aggregateMessageId, oaiSlotAggregateMessageId, hcheck, ok_bind]
    split_ifs with hrach hcrc hdata huci hsrs
    · refine bind_returns ?_ Sent.nrRach
      unfold oaiSlotAggregateRachInd
      rw [assert_of_true hcount, ok_bind]
      exact sendEach_eq_ok fun msg hmsg ↦ ⟨hlength msg hmsg, h.nrRach rfl hrach msg hmsg⟩
    · exact bind_returns (hrun .nrCrc rfl hcrc.symm) Sent.nrCrc
    · exact bind_returns (hrun .nrRxData rfl hdata.symm) Sent.nrRxData
    · exact bind_returns (hrun .nrUci rfl huci.symm) Sent.nrUci
    · exact bind_returns (hrun .nrSrs rfl hsrs.symm) Sent.nrSrs
    · exact ⟨_, rfl⟩

end Group

/-! ### The threads -/

/-- The counters of a task. -/
structure Counter where
  sfn : UInt16 := 0
  sub : UInt16 := 0

/-- The step of both counters, with `subs` subframes or slots in a frame. -/
def Counter.next (subs : UInt16) (c : Counter) : Counter :=
  if c.sub + 1 = subs then ⟨if c.sfn + 1 = 1024 then 0 else c.sfn + 1, 0⟩
  else ⟨c.sfn, c.sub + 1⟩

/-- `sfn_sf_counter`. -/
def sfnSfCounter (c : Counter) : Counter × UInt16 :=
  let c := c.next 10
  (c, (c.sfn <<< 4) ||| c.sub)

/-- `sfn_slot_counter`. -/
def sfnSlotCounter (c : Counter) : Counter × UInt16 :=
  let c := c.next 20
  (c, (c.sfn <<< 6) ||| c.sub)

/-- The counter of a variant. -/
def count : Radio → Counter → Counter × UInt16
  | .lte => sfnSfCounter
  | .nr => sfnSlotCounter

/-- The state of an uplink path: the counters, the queues, and the UEs whose receive loops have
returned. -/
structure PathState (τ : Type) where
  counter : Counter := {}
  queues : τ
  returned : List ℕ := []

/-- An event: a datagram at the socket of a UE, or the next subframe or slot. -/
inductive Event (numUes : ℕ) where
  | datagram (socket : UeSocket numUes) (d : Datagram)
  | tick

section Threads

variable {numUes : ℕ}

/-- A datagram at the socket of a UE. Nobody reads the socket when the loop of the UE has
returned. -/
def receive (radio : Radio) (s : PathState (List (QueueT MessageBuffer)))
    (socket : UeSocket numUes) (d : Datagram) :
    Outcome (PathState (List (QueueT MessageBuffer))) :=
  if socket.ueIdx ∈ s.returned then .ok s
  else
    let r := receiveOne radio socket.ueIdx { queues := s.queues } d
    match r.status with
    | .receiving => .ok { s with queues := r.queues }
    | .returned => .ok { s with returned := socket.ueIdx :: s.returned }
    | .crashed cause => .error cause

/-- The iteration of `oai_subframe_task` or `oai_slot_task`, as far as it concerns the uplink. -/
def tick (radio : Radio) (s : PathState (List (QueueT MessageBuffer))) :
    Outcome (PathState (List (QueueT MessageBuffer))) := do
  let (counter, tx) := count radio s.counter
  let r ← dequeueMsgs radio tx s.queues
  let _aggregated ← aggregateMessages radio r.table
  return { s with counter, queues := r.queues }

/-- An event. -/
def step (radio : Radio) (s : PathState (List (QueueT MessageBuffer))) :
    Event numUes → Outcome (PathState (List (QueueT MessageBuffer)))
  | .datagram socket d => receive radio s socket d
  | .tick => tick radio s

/-- `oai_subframe_init` or `oai_slot_init`. -/
def init (numUes : ℕ) : PathState (List (QueueT MessageBuffer)) :=
  { queues := List.replicate numUes initQueue }

/-- A sequence of events, from the start of the program on. -/
def run (radio : Radio) (events : List (Event numUes)) :
    Outcome (PathState (List (QueueT MessageBuffer))) :=
  events.foldlM (step radio) (init numUes)

/-! ### What the events do to the lists -/

/-- What an event does to the lists of queued messages. -/
def listStep (radio : Radio) (t : PathState (List (List MessageBuffer))) :
    Event numUes → PathState (List (List MessageBuffer))
  | .datagram socket d =>
    if socket.ueIdx ∈ t.returned ∨ d.length = 4 then t
    else if d.unpacks then { t with queues := enqueue t.queues socket.ueIdx d.message }
    else { t with returned := socket.ueIdx :: t.returned }
  | .tick =>
    { t with
      counter := (count radio t.counter).1
      queues := (radio.scans (count radio t.counter).2 t.queues).map Scan.left }

/-- The event does not get to a crash. A datagram may not fill the array of a message, unless nobody
reads it. At a tick, the groups that the delivered messages are in have to be harmless. -/
def HarmlessEvent (radio : Radio) (t : PathState (List (List MessageBuffer))) :
    Event numUes → Prop
  | .datagram socket d => socket.ueIdx ∉ t.returned → d.length ≠ rxIndDataMax
  | .tick =>
    let batch := (radio.clock (count radio t.counter).2).batch maxSubframeMsgs t.queues
    ∀ call ∈ groupCalls batch.flatten, HarmlessGroup radio call.1 call.2

/-- The queues stand for the lists, and the rest of the state is the same. -/
structure Refines (numUes : ℕ) (s : PathState (List (QueueT MessageBuffer)))
    (t : PathState (List (List MessageBuffer))) : Prop where
  counter : s.counter = t.counter
  queues : InUse s.queues t.queues
  returned : s.returned = t.returned
  length : t.queues.length = numUes

theorem receive_refines (radio : Radio) {s : PathState (List (QueueT MessageBuffer))}
    {t : PathState (List (List MessageBuffer))} (h : Refines numUes s t)
    (socket : UeSocket numUes) {d : Datagram}
    (hd : socket.ueIdx ∉ t.returned → d.length ≠ rxIndDataMax) :
    ∃ s', receive radio s socket d = .ok s' ∧
      Refines numUes s' (listStep radio t (.datagram socket d)) := by
  obtain ⟨hcounter, hqueues, hreturned, rfl⟩ := h
  by_cases hread : socket.ueIdx ∈ t.returned
  · refine ⟨s, if_pos (hreturned ▸ hread), ?_⟩
    rw [listStep, if_pos (.inl hread)]
    exact ⟨hcounter, hqueues, hreturned, rfl⟩
  · have hopen : ¬ socket.ueIdx ∈ s.returned := hreturned ▸ hread
    unfold receive
    rw [if_neg hopen]
    cases receiveOne_cases radio (s := { queues := s.queues }) hqueues socket d with
    | skipped _ _ hdummy hstep =>
      refine ⟨s, by rw [hstep], ?_⟩
      rw [listStep, if_pos (.inr hdummy)]
      exact ⟨hcounter, hqueues, hreturned, rfl⟩
    | left _ _ hdummy hshort hstep =>
      have hnot : ¬ d.unpacks = true := fun hyes ↦
        Nat.not_le_of_lt hshort (d.unpacks_iff.mp hyes)
      refine ⟨_, by rw [hstep], ?_⟩
      rw [listStep, if_neg (not_or.mpr ⟨hread, hdummy⟩), if_neg hnot]
      exact ⟨hcounter, hqueues, congrArg _ hreturned, rfl⟩
    | queued hwanted _ hroom queues hnext hstep =>
      have hdummy : d.length ≠ 4 := by
        simp only [p7HeaderLength] at hroom
        omega
      refine ⟨_, by rw [hstep], ?_⟩
      rw [listStep, if_neg (not_or.mpr ⟨hread, hdummy⟩), if_pos (d.unpacks_iff.mpr hroom)]
      exact ⟨hcounter, hnext, hreturned, enqueue_length ..⟩
    | aborted _ _ hfull _ => exact absurd hfull (hd hread)

/-- Every group that is handed to an aggregator has messages, and these are delivered ones. -/
theorem mem_of_mem_groupCalls {msgs : List MessageBuffer} {call : UInt16 × List MessageBuffer}
    (hcall : call ∈ groupCalls msgs) : call.2 ≠ [] ∧ ∀ msg ∈ call.2, msg ∈ msgs := by
  obtain ⟨⟨first, hfirst, hid⟩, hhanded⟩ :=
    ((groupCalls_grouped msgs).mem_iff call.1 call.2).mp hcall
  have hmem : first ∈ msgs.filter fun msg ↦ msg.headerId = call.1 :=
    List.mem_filter.mpr ⟨hfirst, by simp [hid]⟩
  rw [hhanded]
  refine ⟨fun hempty ↦ ?_, fun msg hmsg ↦ List.mem_of_mem_filter (List.mem_of_mem_take hmsg)⟩
  rcases List.take_eq_nil_iff.mp hempty with hzero | hnil
  · cases hzero
  · exact List.ne_nil_of_mem hmem hnil

theorem tick_refines (radio : Radio) {s : PathState (List (QueueT MessageBuffer))}
    {t : PathState (List (List MessageBuffer))} (h : Refines numUes s t)
    (ht : HarmlessEvent radio t (.tick : Event numUes)) :
    ∃ s', tick radio s = .ok s' ∧ Refines numUes s' (listStep radio t (.tick : Event numUes)) := by
  obtain ⟨r, hcall, hrefines⟩ :=
    dequeueMsgs_refines radio (count radio t.counter).2 h.queues.family
  have haggregate := aggregateMessages_eq h.queues.live hrefines
  have hread : ∀ msg ∈ r.delivered.flatten, Readable radio msg := fun _ hmsg ↦
    readable_of_delivered h.queues.live hrefines hmsg
  have hcalls : ∀ call ∈ groupCalls r.delivered.flatten,
      ∃ sent, aggregateMessageId radio call.1 call.2 = .ok sent := by
    intro call hmem
    obtain ⟨hne, hfrom⟩ := mem_of_mem_groupCalls hmem
    refine aggregateMessageId_returns hne (fun msg hmsg ↦ hread msg (hfrom msg hmsg)) ?_
    rw [hrefines.delivered_eq] at hmem
    exact ht call hmem
  obtain ⟨sent, hsent⟩ := mapM_returns hcalls
  rw [hsent, ok_bind] at haggregate
  have hdequeue : dequeueMsgs radio (count radio t.counter).2 s.queues = .ok r := hcall
  refine ⟨{ s with counter := (count radio t.counter).1, queues := r.queues }, ?_, rfl, ?_,
    h.returned, ?_⟩
  · simp only [tick, h.counter, hdequeue, ok_bind, haggregate, pure_eq_ok]
  · exact inUse_of_family (hrefines.rest h.queues.live)
  · unfold listStep
    rw [List.length_map, Radio.scans, Clock.scanAll_length, h.length]

/-- A harmless event does not crash. -/
theorem step_refines (radio : Radio) (s : PathState (List (QueueT MessageBuffer)))
    (t : PathState (List (List MessageBuffer))) (event : Event numUes) (h : Refines numUes s t)
    (hevent : HarmlessEvent radio t event) :
    ∃ s', step radio s event = .ok s' ∧ Refines numUes s' (listStep radio t event) := by
  cases event with
  | datagram socket d => exact receive_refines radio h socket hevent
  | tick => exact tick_refines radio h hevent

/-- The lists at the start of the program. -/
def initLists (numUes : ℕ) : PathState (List (List MessageBuffer)) :=
  { queues := List.replicate numUes [] }

theorem init_refines (numUes : ℕ) : Refines numUes (init numUes) (initLists numUes) := by
  refine ⟨rfl, ⟨?_, fun xs hxs msg hmsg ↦ ?_⟩, rfl, List.length_replicate⟩
  · induction numUes with
    | zero => exact .nil
    | succ numUes ih => exact .cons represents_init ih
  · rw [List.eq_of_mem_replicate hxs] at hmsg
    cases hmsg

/-- A run whose events are all harmless in the states that they find does not crash. -/
theorem harmless_run_returns (radio : Radio) (events : List (Event numUes))
    (h : Along (listStep radio) (HarmlessEvent radio) (initLists numUes) events) :
    ∃ s, run radio events = .ok s ∧
      Refines numUes s (events.foldl (listStep radio) (initLists numUes)) :=
  foldlM_simulates (Refines numUes) (step_refines radio) events (init numUes) (initLists numUes)
    (init_refines numUes) h

end Threads

/-- The socket of the only UE. -/
def onlySocket : UeSocket 1 := ⟨0, by decide, by decide⟩

/-- What the CRC indication decodes to. -/
def crcDecoded : Indication LteFrame CrcIndicationPdu :=
  { header := { messageId := crcIndication }, frame := ⟨0x10, {}⟩, number := 0, pduList := [] }

theorem crc_event_harmless :
    HarmlessGroup .lte crcIndication [crcDatagram.message] where
  aggregated := by
    intro kind hradio hid
    cases kind with
    | crc =>
      exact .aggregated [crcDatagram.message] [crcDecoded] [] rfl (.cons ⟨by decide, rfl⟩ .nil)
        ⟨fun _ _ ↦ rfl, by decide, by decide⟩ (.inl rfl) (fun _ _ ↦ rfl)
    | rx => exact absurd hid (by decide)
    | cqi => exact absurd hid (by decide)
    | harq => exact absurd hid (by decide)
    | sr => exact absurd hid (by decide)
    | nrCrc => cases hradio
    | nrRxData => cases hradio
    | nrUci => cases hradio
    | nrSrs => cases hradio
  rach := fun _ hid ↦ absurd hid (by decide)
  nrRach := fun hradio ↦ by cases hradio

/-- A UE sends a CRC indication without PDUs, and the next tick aggregates it. -/
theorem crc_run_returns :
    ∃ s, run .lte [.datagram onlySocket crcDatagram, .tick] = .ok s ∧
      Refines 1 s ([.datagram onlySocket crcDatagram, .tick].foldl (listStep .lte) (initLists 1)) :=
  harmless_run_returns .lte [.datagram onlySocket crcDatagram, .tick]
    ⟨fun _ ↦ by decide, fun call hcall ↦ by
      obtain rfl : call = (crcIndication, [crcDatagram.message]) := List.mem_singleton.mp hcall
      exact crc_event_harmless, trivial⟩

/-- An RX indication without a body. -/
def emptyRxDatagram : Datagram :=
  datagramOf ([0, 0, 0, 0x87] ++ List.replicate 12 0 ++ [0, 0x10]) (by decide)

/-- A datagram of zeros that fills the buffer. -/
def fullDatagram : Datagram :=
  datagramOf (List.replicate maxPackedMessageSize 0) (by rw [List.length_replicate])

/-- The empty RX indication aborts the program at the next tick, the full datagram does so at
once. -/
theorem malformed_datagrams_abort :
    run .lte [.datagram onlySocket emptyRxDatagram, .tick] = .error .abort ∧
      run .lte [.datagram onlySocket fullDatagram] = .error .abort := by
  constructor
  · rfl
  · have hfull : fullDatagram.length = rxIndDataMax := List.length_replicate
    cases receiveOne_cases .lte (s := { queues := (init 1).queues }) (init_refines 1).queues
      onlySocket fullDatagram with
    | skipped _ _ hdummy _ => exact absurd (hfull.symm.trans hdummy) (by decide)
    | left _ _ _ hshort _ => exact absurd (hfull ▸ hshort) (by decide)
    | queued _ hlast _ _ _ _ =>
      unfold Datagram.last at hlast
      rw [hfull] at hlast
      simp [rxIndDataMax] at hlast
    | aborted _ _ _ hstep =>
      have hread : onlySocket.ueIdx ∉ (init 1).returned := List.not_mem_nil
      unfold run
      rw [List.foldlM_cons, step, receive, if_neg hread, hstep]
      rfl

end MultiUeProxy.Uplink.Run
