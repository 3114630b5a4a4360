import MultiUeProxy.Clock.FrameClocks
import MultiUeProxy.P7.NrRequests
import MultiUeProxy.Startup.Construction

/-!
# The downlink relay of the NR proxy

What the gNB sends for a slot goes to every UE. `pnf_nr_dispatch_p7_message` unpacks a request and
hands it to the handler of its message id, which passes it to
`transfer_downstream_nfapi_msg_to_nr_proxy`, and `oai_gnb_downlink_nfapi_task` of `nr_proxy.cc`
packs it again, unpacks the result to look at its id, and sends it to the socket of each UE.
`oai_slot_task` sends the UEs the time of each slot on the same sockets, as a word in the byte order
of the host, and tells it the gNB in an indication.

A run is any sequence of messages, node syncs and slots, with any contents of the arrays and
variables on the stack. `relay_delivers` says what each UE gets in a run in which the requests are
good ones: the messages as they were sent and the times of the slots, in the order in which they
came to the proxy. `relay_uniform` is about all runs, with messages of any bytes: as long as the
proxy does not crash, all UEs get the same.

The text that `inet_aton` is given is taken for the address; the function does not look at the
result. That sending can fail is left out, which is only traced.
-/

set_option autoImplicit false
set_option relaxedAutoImplicit false

namespace MultiUeProxy.Downlink.Relay

open Lib.Execution Lib.ByteCursor Lib.ByteWriter Lib.CellBuffer Lib.CyclicClock P7.Header P7.Pack
  P7.NrDlTti P7.NrDownlink P7.NrUlTti P7.NrTxData P7.NrRequests SlotBuffer
open Clock.FrameClocks Startup.Construction Uplink.Receive Uplink.Run

/-! ### Sending to the UEs -/

/-- A call of `sendto`. -/
structure Sent where
  ueIdx : ℕ
  socket : ℤ
  addr : String
  port : UInt16
  bytes : List UInt8
  deriving DecidableEq, Repr

/-- `oai_ue_ipaddr[ue_idx]`. -/
def ueAddress (p : Proxy) (ueIdx : ℕ) : Outcome String :=
  match p.oaiUeIpaddr[ueIdx]? with
  | some addr => .ok addr
  | none => .error .fault

/-- `ue_tx_socket[ue_idx]`. -/
def ueSocket (p : Proxy) (ueIdx : ℕ) : Outcome ℤ :=
  match p.ueTxSocket[ueIdx]? with
  | some (some socket) => .ok socket
  | _ => .error .fault

/-- What the loops over the UEs do for one of them. -/
def sendToUe (p : Proxy) (bytes : List UInt8) (ueIdx : ℕ) : Outcome Sent := do
  let addr ← ueAddress p ueIdx
  let socket ← ueSocket p ueIdx
  assert (2 < socket)
  let port := (nrPorts.oaiTxUePort + ueIdx * portDelta).toUInt16
  .ok { ueIdx, socket, addr, port, bytes }

/-- The loop over the UEs. -/
def sendToUes (p : Proxy) (numUes : ℕ) (bytes : List UInt8) : Outcome (List Sent) :=
  (List.range numUes).mapM (sendToUe p bytes)

/-- What is on the stack in `oai_gnb_downlink_nfapi_task`: the array `buffer`, and what the decoders
find where their variables are. -/
structure TaskStack where
  buffer : List UInt8
  decoder : Stack

/-- `oai_gnb_downlink_nfapi_task`. The switch over the message id has the same case for each of the
four requests. -/
def oaiGnbDownlinkNfapiTask (p : Proxy) (numUes : ℕ) (stack : TaskStack) (message : NrMessage) :
    Outcome (List Sent) := do
  match ← nrP7MessagePack maxPackedMessageSize message with
  | none => .ok []
  | some packed =>
    let buffer := memoryOf (packed ++ stack.buffer.drop packed.length)
    match ← nrP7MessageUnpack stack.decoder buffer packed.length with
    | none => .ok []
    | some _ => sendToUes p numUes packed

/-- A word as it is in memory. -/
def hostWord (word : UInt16) : List UInt8 := [word.toUInt8, (word >>> 8).toUInt8]

/-- `pack_and_send_downlink_sfn_slot_msg`. -/
def packAndSendDownlinkSfnSlotMsg (p : Proxy) (numUes : ℕ) (sfnSlot : UInt16) :
    Outcome (List Sent) := sendToUes p numUes (hostWord sfnSlot)

/-! ### The PNF -/

/-- What the handlers look at of a request. -/
def requestOf (message : NrMessage) : Request NrMessage :=
  ⟨message.request.sfn, message.request.slotNumber, message⟩

/-- The handler that the switch over the message id selects. -/
def handlerOf (id : UInt16) : Option (Option (Request NrMessage) → SlotBuffer.Event NrMessage) :=
  if id = nrDlTtiRequest then some .dlTti
  else if id = nrUlTtiRequest then some .ulTti
  else if id = nrUlDciRequest then some .ulDci
  else if id = nrTxDataRequest then some .txData
  else none

section Machine

variable (cfg : Config NrMessage)

/-- `pnf_nr_dispatch_p7_message`, but for the messages that are no requests. -/
def pnfNrDispatchP7Message (stack : Stack) (pnf : PnfP7 NrMessage) (mem : Memory) (length : ℕ) :
    Outcome (List (SlotNote NrMessage) × PnfP7 NrMessage) := do
  match ← p7MessageHeaderUnpack mem length with
  | none => .ok ([], pnf)
  | some header =>
    match handlerOf header.messageId with
    | none => .ok ([], pnf)
    | some handler =>
      let unpacked ← nrP7MessageUnpack stack mem length
      .ok (answer cfg pnf (handler (unpacked.map requestOf)))

/-- The messages that the handlers pass to the proxy. -/
def transferred (notes : List (SlotNote NrMessage)) : List NrMessage :=
  notes.filterMap fun
    | .told (.transferred _ req) => some req.body
    | _ => none

/-- The variables of `oai_slot_task` and the state of the PNF. There is a configuration for the
indications after the PNF has been started. -/
structure State where
  pnf : PnfP7 NrMessage
  counter : Counter
  started : Bool

/-- What comes to the proxy: a message, with what is on the stack when it is unpacked and when it is
passed on, a node sync, the start of the PNF, or a slot. -/
inductive Event where
  | message (mem : Memory) (length : ℕ) (stack : Stack) (taskStack : TaskStack)
  | nodeSync (deltaSfnSlot : Int32)
  | start
  | slot

def Event.isSlot : Event → Bool
  | slot => true
  | _ => false

/-- What leaves the proxy: a datagram to a UE, or a slot indication to the gNB. -/
inductive Output where
  | toUe (sent : Sent)
  | slotInd (sfn slot : UInt16)
  deriving DecidableEq, Repr

/-- The slot indication of `oai_slot_ind`. -/
def oaiSlotInd (started : Bool) (counter : Counter) : List Output :=
  if started then [.slotInd counter.sfn counter.sub] else []

/-- An iteration of `oai_slot_task`, up to the indication. -/
def oaiSlotTask (p : Proxy) (numUes : ℕ) (s : State) : Outcome (List Output × State) := do
  let counted := sfnSlotCounter s.counter
  let sent ← packAndSendDownlinkSfnSlotMsg p numUes counted.2
  .ok (sent.map .toUe ++ oaiSlotInd s.started counted.1, { s with counter := counted.1 })

/-- One event. The proxy's lock makes the sends to the UEs one after the other. -/
def step (p : Proxy) (numUes : ℕ) (s : State) : Event → Outcome (List Output × State)
  | .message mem length stack taskStack => do
    let (notes, pnf) ← pnfNrDispatchP7Message cfg stack s.pnf mem length
    let sent ← (transferred notes).mapM (oaiGnbDownlinkNfapiTask p numUes taskStack)
    .ok (sent.flatten.map .toUe, { s with pnf })
  | .nodeSync deltaSfnSlot =>
    .ok ([], { s with pnf := pnfNrHandleDlNodeSync s.pnf deltaSfnSlot })
  | .start => .ok ([], { s with started := true })
  | .slot => oaiSlotTask p numUes s

end Machine

/-- What a UE gets. -/
def received (ueIdx : ℕ) (out : List Output) : List (List UInt8) :=
  out.filterMap fun
    | .toUe sent => if sent.ueIdx = ueIdx then some sent.bytes else none
    | .slotInd _ _ => none

/-- The slots that the gNB is told. -/
def indicated (out : List Output) : List (UInt16 × UInt16) :=
  out.filterMap fun
    | .toUe _ => none
    | .slotInd sfn slot => some (sfn, slot)

/-- There are an address and a socket for every UE. -/
def Ready (p : Proxy) (numUes : ℕ) : Prop :=
  ∀ ueIdx < numUes, ∃ addr socket, ueAddress p ueIdx = .ok addr ∧ ueSocket p ueIdx = .ok socket ∧
    2 < socket

/-! ### The fan-out -/

section FanOut

variable {p : Proxy} {numUes ueIdx : ℕ} {bytes : List UInt8} {sent : List Sent}

theorem sendToUe_eq_ok {s : Sent} (h : sendToUe p bytes ueIdx = .ok s) :
    s.ueIdx = ueIdx ∧ s.bytes = bytes := by
  unfold sendToUe at h
  obtain ⟨addr, -, h⟩ := bind_eq_ok.mp h
  obtain ⟨socket, -, h⟩ := bind_eq_ok.mp h
  obtain ⟨_, -, h⟩ := bind_eq_ok.mp h
  cases h
  exact ⟨rfl, rfl⟩

theorem sendToUe_returns (hready : Ready p numUes) (hue : ueIdx < numUes) :
    ∃ s, sendToUe p bytes ueIdx = .ok s := by
  obtain ⟨addr, socket, haddr, hsocket, hlt⟩ := hready ueIdx hue
  unfold sendToUe
  rw [haddr, ok_bind, hsocket, ok_bind, assert_of_true hlt]
  exact ⟨_, rfl⟩

theorem received_append (ueIdx : ℕ) (front back : List Output) :
    received ueIdx (front ++ back) = received ueIdx front ++ received ueIdx back :=
  List.filterMap_append

theorem indicated_append (front back : List Output) :
    indicated (front ++ back) = indicated front ++ indicated back := List.filterMap_append

theorem indicated_toUe (sent : List Sent) : indicated (sent.map .toUe) = [] := by
  unfold indicated
  rw [List.filterMap_map]
  exact List.filterMap_eq_nil_iff.mpr fun _ _ ↦ rfl

/-- In any loop over UEs without repetition, each of them gets the datagram once. -/
theorem received_mapM {ues : List ℕ} (hues : ues.Nodup)
    (h : ues.mapM (sendToUe p bytes) = .ok sent) :
    received ueIdx (sent.map .toUe) = if ueIdx ∈ ues then [bytes] else [] := by
  induction ues generalizing sent with
  | nil =>
    cases h
    rfl
  | cons ue ues ih =>
    rw [List.mapM_cons] at h
    obtain ⟨first, hfirst, h⟩ := bind_eq_ok.mp h
    obtain ⟨others, hothers, h⟩ := bind_eq_ok.mp h
    cases h
    obtain ⟨hidx, hbytes⟩ := sendToUe_eq_ok hfirst
    obtain ⟨hnew, hnodup⟩ := List.nodup_cons.mp hues
    have hrest := ih hnodup hothers
    have hfront : received ueIdx [.toUe first] = if ue = ueIdx then [bytes] else [] := by
      unfold received
      by_cases hsame : ue = ueIdx
      · simp [hidx, hbytes, hsame]
      · simp [hidx, hsame]
    have hsplit : (first :: others).map Output.toUe = [.toUe first] ++ others.map .toUe := rfl
    rw [hsplit, received_append, hfront, hrest]
    by_cases hsame : ue = ueIdx
    · rw [if_pos hsame, if_neg (hsame ▸ hnew), if_pos (hsame ▸ List.mem_cons_self ..)]
      rfl
    · have hmem : ueIdx ∈ ue :: ues ↔ ueIdx ∈ ues := by
        rw [List.mem_cons, or_iff_right fun h ↦ hsame h.symm]
      rw [if_neg hsame, List.nil_append]
      simp only [hmem]

theorem received_sendToUes (h : sendToUes p numUes bytes = .ok sent) :
    received ueIdx (sent.map .toUe) = if ueIdx < numUes then [bytes] else [] := by
  rw [received_mapM List.nodup_range h]
  simp only [List.mem_range]

theorem sendToUes_returns (hready : Ready p numUes) (bytes : List UInt8) :
    ∃ sent, sendToUes p numUes bytes = .ok sent :=
  mapM_returns fun _ hue ↦ sendToUe_returns hready (List.mem_range.mp hue)

end FanOut

/-! ### What is passed on -/

section Transfer

variable {cfg : Config NrMessage} {p : Proxy} {numUes : ℕ}

theorem transferred_append (front back : List (SlotNote NrMessage)) :
    transferred (front ++ back) = transferred front ++ transferred back := List.filterMap_append

theorem transferred_freed (index : Fin 30) (k : RequestType) (reqs : List (Request NrMessage)) :
    transferred (reqs.map (.freed index k)) = [] := by
  unfold transferred
  rw [List.filterMap_map]
  exact List.filterMap_eq_nil_iff.mpr fun _ _ ↦ rfl

theorem transferred_pass (k : RequestType) (pnf : PnfP7 NrMessage) (unpacked : Option NrMessage) :
    transferred (passRequest k pnf (unpacked.map requestOf)).1 = unpacked.toList := by
  cases unpacked with
  | none => rfl
  | some message => rfl

/-- What is told of a request that is stored is not of the one that is freed for it. -/
theorem transferred_handle (k : RequestType) (tag : CellTime → Request NrMessage → CellTime)
    (pnf : PnfP7 NrMessage) (unpacked : Option NrMessage) :
    transferred (handleRequest cfg k tag pnf (unpacked.map requestOf)).1 = unpacked.toList := by
  cases unpacked with
  | none => rfl
  | some message =>
    rw [Option.map_some, handleRequest_some]
    show transferred ((_ ++ [.told (.transferred k (requestOf message))]) ++ [.stored _ k _]) = _
    rw [transferred_append, transferred_append, transferred_freed]
    rfl

/-- Every handler passes on what it is given. -/
theorem transferred_answer {id : UInt16}
    {handler : Option (Request NrMessage) → SlotBuffer.Event NrMessage}
    (h : handlerOf id = some handler) (pnf : PnfP7 NrMessage) (unpacked : Option NrMessage) :
    transferred (answer cfg pnf (handler (unpacked.map requestOf))).1 = unpacked.toList := by
  unfold handlerOf at h
  split_ifs at h with hdl hul hdci htx
  · cases h
    exact transferred_pass .dlTti pnf unpacked
  · cases h
    exact transferred_handle .ulTti _ pnf unpacked
  · cases h
    exact transferred_handle .ulDci _ pnf unpacked
  · cases h
    exact transferred_pass .txData pnf unpacked

/-- A message is passed on at most once. -/
theorem transferred_dispatch {stack : Stack} {pnf next : PnfP7 NrMessage} {mem : Memory}
    {length : ℕ} {notes : List (SlotNote NrMessage)}
    (h : pnfNrDispatchP7Message cfg stack pnf mem length = .ok (notes, next)) :
    ∃ unpacked : Option NrMessage, transferred notes = unpacked.toList := by
  unfold pnfNrDispatchP7Message at h
  obtain ⟨header, -, h⟩ := bind_eq_ok.mp h
  cases header with
  | none =>
    cases h
    exact ⟨none, rfl⟩
  | some header =>
    dsimp only at h
    cases hhandler : handlerOf header.messageId with
    | none =>
      rw [hhandler] at h
      cases h
      exact ⟨none, rfl⟩
    | some handler =>
      rw [hhandler] at h
      obtain ⟨unpacked, -, h⟩ := bind_eq_ok.mp h
      have hanswer := Except.ok.inj h
      refine ⟨unpacked, ?_⟩
      rw [← transferred_answer hhandler pnf unpacked, hanswer]

/-- The relay sends one datagram to all UEs, or none to any. -/
theorem relay_eq_ok {stack : TaskStack} {message : NrMessage} {sent : List Sent}
    (h : oaiGnbDownlinkNfapiTask p numUes stack message = .ok sent) :
    ∃ packed : Option (List UInt8),
      (∀ bytes ∈ packed, bytes.length ≤ maxPackedMessageSize) ∧
      ∀ ueIdx, received ueIdx (sent.map .toUe) = if ueIdx < numUes then packed.toList else [] := by
  have hnothing : ∀ ueIdx, received ueIdx (([] : List Sent).map .toUe) =
      if ueIdx < numUes then (none : Option (List UInt8)).toList else [] := by
    intro ueIdx
    rw [Option.toList_none, ite_self]
    rfl
  unfold oaiGnbDownlinkNfapiTask at h
  obtain ⟨packed, hpack, h⟩ := bind_eq_ok.mp h
  cases packed with
  | none =>
    cases h
    exact ⟨none, by simp, hnothing⟩
  | some packed =>
    obtain ⟨unpacked, -, h⟩ := bind_eq_ok.mp h
    cases unpacked with
    | none =>
      cases h
      exact ⟨none, by simp, hnothing⟩
    | some unpacked =>
      refine ⟨some packed, ?_, fun ueIdx ↦ received_sendToUes h⟩
      intro bytes hbytes
      cases hbytes
      obtain ⟨written, -, -, hlimit, rfl⟩ := packMessage_eq_some hpack
      simp only [List.length_append, List.length_take, List.length_drop, length_bytes16]
      have hmax : maxPackedMessageSize = 8192 := rfl
      omega

/-- An iteration of the task sends one word to all UEs. -/
theorem oaiSlotTask_eq_ok {s next : State} {out : List Output}
    (h : oaiSlotTask p numUes s = .ok (out, next)) :
    next = { s with counter := (sfnSlotCounter s.counter).1 } ∧
      indicated out = indicated (oaiSlotInd s.started (sfnSlotCounter s.counter).1) ∧
      ∀ ueIdx, received ueIdx out =
        if ueIdx < numUes then [hostWord (sfnSlotCounter s.counter).2] else [] := by
  have htold : ∀ ueIdx,
      received ueIdx (oaiSlotInd s.started (sfnSlotCounter s.counter).1) = [] := by
    intro ueIdx
    unfold oaiSlotInd
    split_ifs <;> rfl
  unfold oaiSlotTask at h
  obtain ⟨sent, hsent, h⟩ := bind_eq_ok.mp h
  cases h
  refine ⟨rfl, ?_, fun ueIdx ↦ ?_⟩
  · rw [indicated_append, indicated_toUe, List.nil_append]
  · rw [received_append, received_sendToUes hsent, htold, List.append_nil]

end Transfer

/-! ### All runs -/

/-- A proxy with two UEs. -/
def twoUeProxy : Proxy where
  oaiUeIpaddr := ["127.0.0.1", "127.0.0.2"]
  vnfIpaddr := "127.0.0.3"
  pnfIpaddr := "127.0.0.4"
  ports := nrPorts
  ueTxSocket := Vector.replicate socketSlots (some 3)

theorem twoUeProxy_ready : Ready twoUeProxy 2 := by
  intro ueIdx hue
  have hcases : ueIdx = 0 ∨ ueIdx = 1 := by omega
  rcases hcases with rfl | rfl
  · exact ⟨_, 3, rfl, rfl, by decide⟩
  · exact ⟨_, 3, rfl, rfl, by decide⟩

/-- A PNF without callbacks. -/
def silentConfig : Config NrMessage := ⟨0, fun _ ↦ false, fun _ ↦ none⟩

section Uniform

variable {cfg : Config NrMessage} {p : Proxy} {numUes : ℕ}

/-- At an event, the UEs get the same datagram or none, and the variables of the task move at
slots only. -/
theorem step_uniform {s next : State} {event : Event} {out : List Output}
    (h : step cfg p numUes s event = .ok (out, next)) :
    ∃ datagram : Option (List UInt8),
      (∀ bytes ∈ datagram, bytes.length ≤ maxPackedMessageSize) ∧
      (∀ ueIdx, received ueIdx out = if ueIdx < numUes then datagram.toList else []) ∧
      (event.isSlot → datagram = some (hostWord (sfnSlotCounter s.counter).2)) ∧
      next.counter = if event.isSlot then (sfnSlotCounter s.counter).1 else s.counter := by
  have hnothing : ∀ ueIdx, received ueIdx [] =
      if ueIdx < numUes then (none : Option (List UInt8)).toList else [] := by
    intro ueIdx
    rw [Option.toList_none, ite_self]
    rfl
  cases event with
  | message mem length stack taskStack =>
    obtain ⟨⟨notes, pnf⟩, hdispatch, h⟩ := bind_eq_ok.mp h
    obtain ⟨sent, hsent, h⟩ := bind_eq_ok.mp h
    cases h
    obtain ⟨unpacked, hunpacked⟩ := transferred_dispatch hdispatch
    rw [hunpacked] at hsent
    cases unpacked with
    | none =>
      cases hsent
      exact ⟨none, by simp, hnothing, by simp [Event.isSlot], by simp [Event.isSlot]⟩
    | some message =>
      obtain ⟨first, hfirst, hsent⟩ := bind_eq_ok.mp hsent
      cases hsent
      obtain ⟨packed, hpacked, hreceived⟩ := relay_eq_ok hfirst
      refine ⟨packed, hpacked, fun ueIdx ↦ ?_, by simp [Event.isSlot], by simp [Event.isSlot]⟩
      rw [← hreceived ueIdx, List.reverse_singleton, List.flatten_singleton]
  | nodeSync deltaSfnSlot =>
    cases h
    exact ⟨none, by simp, hnothing, by simp [Event.isSlot], by simp [Event.isSlot]⟩
  | start =>
    cases h
    exact ⟨none, by simp, hnothing, by simp [Event.isSlot], by simp [Event.isSlot]⟩
  | slot =>
    obtain ⟨rfl, -, hreceived⟩ := oaiSlotTask_eq_ok h
    refine ⟨some (hostWord (sfnSlotCounter s.counter).2), ?_, hreceived, fun _ ↦ rfl, ?_⟩
    · intro bytes hbytes
      cases hbytes
      exact Nat.le_of_ble_eq_true rfl
    · rw [Event.isSlot, if_pos rfl]

/-- The task's step on the dial. -/
theorem sfnSlotCounter_counterOf (t : Time nrDial) :
    sfnSlotCounter (counterOf t) = (counterOf t.next, wordOf 6 t.next) := by
  have hnext : (counterOf t).next 20 = counterOf t.next := nrDial_fits.counter_next t
  unfold sfnSlotCounter
  rw [hnext, ← nrDial_fits.word_eq]
  rfl

/-- In a run that comes to its end, all UEs get the same datagrams at the same events: at most one
at each, no longer than the buffer, and at a slot its time. -/
theorem relay_uniform (cfg : Config NrMessage) (p : Proxy) (numUes : ℕ) (pnf : PnfP7 NrMessage)
    (t : Time nrDial) (started : Bool) (events : List Event) (replies : List (List Output))
    (next : State)
    (hrun : runAll (step cfg p numUes) ⟨pnf, counterOf t, started⟩ events = .ok (replies, next)) :
    ∃ stream : List (Option (List UInt8)),
      (∀ ueIdx, replies.map (received ueIdx) =
        stream.map fun datagram ↦ if ueIdx < numUes then datagram.toList else []) ∧
      (∀ bytes, some bytes ∈ stream → bytes.length ≤ maxPackedMessageSize) ∧
      ∀ k, events[k]? = some .slot → stream[k]? = some (some (hostWord
        (wordOf 6 (t.advance ((events.take (k + 1)).countP Event.isSlot))))) := by
  induction events generalizing pnf t started replies with
  | nil =>
    cases hrun
    refine ⟨[], fun _ ↦ rfl, by simp, by simp⟩
  | cons event rest ih =>
    obtain ⟨⟨out, middle⟩, hstep, hrun⟩ := bind_eq_ok.mp hrun
    obtain ⟨⟨others, last⟩, hrest, hpure⟩ := bind_eq_ok.mp hrun
    cases hpure
    obtain ⟨datagram, hlength, hreceived, hslot, hcounter⟩ := step_uniform hstep
    -- the time of the task after the event
    have htime : ∃ moved : Time nrDial, middle.counter = counterOf moved ∧
        ∀ n, moved.advance n = t.advance ((if event.isSlot then 1 else 0) + n) := by
      by_cases hisSlot : event.isSlot
      · refine ⟨t.next, ?_, fun n ↦ ?_⟩
        · rw [hcounter, if_pos hisSlot, sfnSlotCounter_counterOf]
        · rw [if_pos hisSlot, Time.next_eq_advance, Time.advance_advance]
      · refine ⟨t, ?_, fun n ↦ ?_⟩
        · rw [hcounter, if_neg hisSlot]
        · rw [if_neg hisSlot, Nat.zero_add]
    obtain ⟨moved, hmoved, hadvance⟩ := htime
    have hmiddle : middle = ⟨middle.pnf, counterOf moved, middle.started⟩ := by rw [← hmoved]
    rw [hmiddle] at hrest
    obtain ⟨stream, hothers, hbounded, hslots⟩ := ih _ _ _ _ hrest
    refine ⟨datagram :: stream, fun ueIdx ↦ ?_, fun bytes hbytes ↦ ?_, fun k hk ↦ ?_⟩
    · rw [List.map_cons, List.map_cons, hreceived, hothers]
    · rcases List.mem_cons.mp hbytes with hfirst | hmem
      · exact hlength bytes hfirst.symm
      · exact hbounded bytes hmem
    · cases k with
      | zero =>
        have hevent : event = .slot := Option.some.inj hk
        subst hevent
        rw [hslot rfl, sfnSlotCounter_counterOf, Time.next_eq_advance]
        rfl
      | succ k =>
        have hrest' := hslots k hk
        rw [List.getElem?_cons_succ, hrest', List.take_succ_cons, List.countP_cons, hadvance,
          Nat.add_comm]

end Uniform

/-- A run of two slots. -/
theorem twoSlots_uniform :
    ∃ stream : List (Option (List UInt8)),
      (∀ ueIdx, [[Output.toUe ⟨0, 3, "127.0.0.1", 3612, [1, 0]⟩,
          .toUe ⟨1, 3, "127.0.0.2", 3614, [1, 0]⟩],
        [.toUe ⟨0, 3, "127.0.0.1", 3612, [2, 0]⟩, .toUe ⟨1, 3, "127.0.0.2", 3614, [2, 0]⟩]].map
          (received ueIdx) =
        stream.map fun datagram ↦ if ueIdx < 2 then datagram.toList else []) ∧
      (∀ bytes, some bytes ∈ stream → bytes.length ≤ maxPackedMessageSize) ∧
      ∀ k, [Event.slot, .slot][k]? = some .slot → stream[k]? = some (some (hostWord (wordOf 6
        ((Time.ofDecimal 0 : Time nrDial).advance
          (([Event.slot, .slot].take (k + 1)).countP Event.isSlot))))) :=
  relay_uniform silentConfig twoUeProxy 2 (.initial NrMessage) (.ofDecimal 0) false
    [.slot, .slot] _ ⟨.initial NrMessage, ⟨0, 2⟩, false⟩ rfl

/-! ### Runs with good requests -/

/-- A good request as it comes to the proxy: its message is at the beginning of the receive buffer,
and says of itself to be no longer than it is. Only a TX_DATA request may be longer than the buffer
of the relay. -/
structure Delivery where
  header : P7MessageHeader
  request : NrRequest
  isRequest : header.messageId = request.messageId
  good : request.Good
  length_le : header.messageLength.toNat ≤ p7HeaderLength + request.bytes.length
  room : (∃ txData, request = .txData txData) ∨
    p7HeaderLength + request.bytes.length ≤ maxPackedMessageSize
  mem : Memory
  holds : Holds mem 0 (headerBytes header ++ request.bytes)
  stack : Stack
  taskStack : TaskStack

namespace Delivery

def length (d : Delivery) : ℕ := p7HeaderLength + d.request.bytes.length

/-- The message with its length and without a checksum. -/
def datagram (d : Delivery) : List UInt8 :=
  headerBytes (packedHeader d.header d.length.toUInt16) ++ d.request.bytes

/-- What is sent to the UEs. -/
def relayed (d : Delivery) : Option (List UInt8) :=
  if d.length ≤ maxPackedMessageSize then some d.datagram else none

/-- The request that the PNF and the UEs see. -/
def message (d : Delivery) : NrMessage := arrivedMessage d.header d.request d.isRequest

end Delivery

/-- What comes to the proxy in such a run. -/
inductive Arrival where
  | message (d : Delivery)
  | nodeSync (deltaSfnSlot : Int32)
  | start
  | slot

def Arrival.event : Arrival → Event
  | message d => .message d.mem d.length d.stack d.taskStack
  | nodeSync deltaSfnSlot => .nodeSync deltaSfnSlot
  | start => .start
  | slot => .slot

/-- What every UE is to get, from a time on. -/
def stream (t : Time nrDial) : List Arrival → List (List UInt8)
  | [] => []
  | .message d :: rest => d.relayed.toList ++ stream t rest
  | .slot :: rest => hostWord (wordOf 6 t.next) :: stream t.next rest
  | .nodeSync _ :: rest => stream t rest
  | .start :: rest => stream t rest

/-- The slots that the gNB is to be told. -/
def slots (started : Bool) (t : Time nrDial) : List Arrival → List (UInt16 × UInt16)
  | [] => []
  | .slot :: rest =>
    (if started then [((counterOf t.next).sfn, (counterOf t.next).sub)] else []) ++
      slots started t.next rest
  | .start :: rest => slots true t rest
  | .message _ :: rest => slots started t rest
  | .nodeSync _ :: rest => slots started t rest

section Deliver

variable {cfg : Config NrMessage} {p : Proxy} {numUes : ℕ}

/-- The PNF decodes the message. -/
theorem Delivery.unpacked (d : Delivery) (stack : Stack) :
    nrP7MessageUnpack stack d.mem d.length = .ok (some d.message) :=
  unpacked_of_good d.good d.isRequest stack d.holds d.length_le

/-- There is a handler for every request. -/
theorem handlerOf_messageId (request : NrRequest) :
    ∃ handler, handlerOf request.messageId = some handler := by
  cases request with
  | slot request =>
    cases request with
    | dlTti request => exact ⟨_, rfl⟩
    | ulDci request => exact ⟨_, rfl⟩
  | ulTti request => exact ⟨_, rfl⟩
  | txData request => exact ⟨_, rfl⟩

/-- The PNF passes the message on, whatever is in its buffer. -/
theorem Delivery.dispatched (d : Delivery) (pnf : PnfP7 NrMessage) :
    ∃ notes next, pnfNrDispatchP7Message cfg d.stack pnf d.mem d.length = .ok (notes, next) ∧
      transferred notes = [d.message] := by
  have hheader : p7MessageHeaderUnpack d.mem d.length = .ok (some d.header) :=
    p7MessageHeaderUnpack_of_holds (holds_append.mp d.holds).1 (Nat.le_add_right _ _)
  obtain ⟨handler, hhandler⟩ := handlerOf_messageId d.request
  rw [← d.isRequest] at hhandler
  refine ⟨(answer cfg pnf (handler ((some d.message).map requestOf))).1,
    (answer cfg pnf (handler ((some d.message).map requestOf))).2, ?_,
    transferred_answer hhandler pnf (some d.message)⟩
  unfold pnfNrDispatchP7Message
  rw [hheader, ok_bind]
  dsimp only
  rw [hhandler, d.unpacked]
  rfl

/-- The relay's buffer has room for the message exactly if it is not too long. -/
theorem Delivery.packed (d : Delivery) :
    nrP7MessagePack maxPackedMessageSize d.message = .ok d.relayed := by
  have hmax : maxPackedMessageSize = 8192 := rfl
  unfold relayed
  by_cases hroom : d.length ≤ maxPackedMessageSize
  · rw [if_pos hroom]
    exact repacked_of_good d.good d.isRequest hroom (by unfold length at hroom; omega)
  · rw [if_neg hroom]
    rcases d.room with htx | hfits
    · exact not_repacked_of_txData d.good d.isRequest htx (Nat.lt_of_not_le hroom)
    · exact absurd hfits hroom

/-- A datagram is decoded as the message was, whatever is behind it. -/
theorem Delivery.decoded (d : Delivery) (hroom : d.length ≤ maxPackedMessageSize) (stack : Stack)
    {mem : Memory} (hholds : Holds mem 0 d.datagram) :
    nrP7MessageUnpack stack mem d.datagram.length =
      .ok (some
        (arrivedMessage (packedHeader d.header d.length.toUInt16) d.request d.isRequest)) := by
  have hmax : maxPackedMessageSize = 8192 := rfl
  have hlength : (packedHeader d.header d.length.toUInt16).messageLength.toNat = d.length :=
    packedHeader_length (by omega)
  have hdatagram : d.datagram.length = p7HeaderLength + d.request.bytes.length :=
    length_header_append _ _
  have hid : (packedHeader d.header d.length.toUInt16).messageId = d.request.messageId :=
    d.isRequest
  rw [hdatagram]
  exact unpacked_of_good d.good hid stack hholds (Nat.le_of_eq hlength)

theorem Delivery.sent (d : Delivery) (hready : Ready p numUes) :
    ∃ sent, oaiGnbDownlinkNfapiTask p numUes d.taskStack d.message = .ok sent ∧
      ∀ ueIdx < numUes, received ueIdx (sent.map .toUe) = d.relayed.toList := by
  unfold oaiGnbDownlinkNfapiTask
  rw [d.packed, ok_bind]
  unfold relayed
  by_cases hroom : d.length ≤ maxPackedMessageSize
  · have hholds : Holds (memoryOf (d.datagram ++ d.taskStack.buffer.drop d.datagram.length)) 0
        d.datagram := holds_memoryOf [] d.datagram _
    obtain ⟨sent, hsent⟩ := sendToUes_returns hready d.datagram
    refine ⟨sent, ?_, fun ueIdx hue ↦ ?_⟩
    · rw [if_pos hroom]
      dsimp only
      rw [d.decoded hroom d.taskStack.decoder hholds]
      exact hsent
    · rw [received_sendToUes hsent, if_pos hue, if_pos hroom]
      rfl
  · refine ⟨[], ?_, fun ueIdx _ ↦ ?_⟩
    · rw [if_neg hroom]
    · rw [if_neg hroom]
      rfl

/-- What an arrival does. The cases are those of the event. -/
theorem step_arrival (hready : Ready p numUes) (pnf : PnfP7 NrMessage) (t : Time nrDial)
    (started : Bool) (arrival : Arrival) :
    ∃ out pnf' t' started',
      step cfg p numUes ⟨pnf, counterOf t, started⟩ arrival.event =
        .ok (out, ⟨pnf', counterOf t', started'⟩) ∧
      (∀ rest, ∀ ueIdx < numUes,
        received ueIdx out ++ stream t' rest = stream t (arrival :: rest)) ∧
      ∀ rest, indicated out ++ slots started' t' rest = slots started t (arrival :: rest) := by
  cases arrival with
  | message d =>
    obtain ⟨notes, next, hdispatch, htransferred⟩ := @Delivery.dispatched cfg d pnf
    obtain ⟨sent, hsent, hreceived⟩ := d.sent hready
    refine ⟨sent.map .toUe, next, t, started, ?_, fun rest ueIdx hue ↦ ?_, fun rest ↦ ?_⟩
    · show (pnfNrDispatchP7Message cfg d.stack pnf d.mem d.length >>= _) = _
      rw [hdispatch, ok_bind]
      dsimp only
      rw [htransferred, List.mapM_cons, hsent]
      show Except.ok ((sent ++ []).map Output.toUe, _) = _
      rw [List.append_nil]
    · rw [hreceived ueIdx hue]
      rfl
    · rw [indicated_toUe]
      rfl
  | nodeSync deltaSfnSlot => exact ⟨[], _, t, started, rfl, fun _ _ _ ↦ rfl, fun _ ↦ rfl⟩
  | start => exact ⟨[], pnf, t, true, rfl, fun _ _ _ ↦ rfl, fun _ ↦ rfl⟩
  | slot =>
    obtain ⟨sent, hsent⟩ := sendToUes_returns hready (hostWord (wordOf 6 t.next))
    have hstep : oaiSlotTask p numUes ⟨pnf, counterOf t, started⟩ =
        .ok (sent.map .toUe ++ oaiSlotInd started (counterOf t.next),
          ⟨pnf, counterOf t.next, started⟩) := by
      unfold oaiSlotTask
      dsimp only
      rw [sfnSlotCounter_counterOf]
      unfold packAndSendDownlinkSfnSlotMsg
      rw [hsent]
      rfl
    obtain ⟨-, hindicated, hreceived⟩ := oaiSlotTask_eq_ok hstep
    rw [sfnSlotCounter_counterOf] at hindicated hreceived
    refine ⟨_, pnf, t.next, started, hstep, fun rest ueIdx hue ↦ ?_, fun rest ↦ ?_⟩
    · rw [hreceived, if_pos hue]
      rfl
    · rw [hindicated]
      cases started with
      | true => rfl
      | false => rfl

theorem relay_delivers_bytes (hready : Ready p numUes) (pnf : PnfP7 NrMessage) (t : Time nrDial)
    (started : Bool) (arrivals : List Arrival) :
    ∃ replies next, runAll (step cfg p numUes) ⟨pnf, counterOf t, started⟩
        (arrivals.map Arrival.event) = .ok (replies, next) ∧
      (∀ ueIdx < numUes, received ueIdx replies.flatten = stream t arrivals) ∧
      indicated replies.flatten = slots started t arrivals := by
  induction arrivals generalizing pnf t started with
  | nil => exact ⟨[], _, rfl, fun _ _ ↦ rfl, rfl⟩
  | cons arrival rest ih =>
    obtain ⟨out, pnf', t', started', hstep, hreceived, hindicated⟩ :=
      @step_arrival cfg p numUes hready pnf t started arrival
    obtain ⟨replies, next, hrun, hothers, htold⟩ := ih pnf' t' started'
    refine ⟨out :: replies, next, runAll_cons hstep hrun, fun ueIdx hue ↦ ?_, ?_⟩
    · rw [List.flatten_cons, received_append, hothers ueIdx hue, hreceived rest ueIdx hue]
    · rw [List.flatten_cons, indicated_append, htold, hindicated rest]

end Deliver

/-- A DL_TTI request with a CSI-RS PDU. -/
def csiRsRequest : DlTtiRequest where
  sfn := 1
  slot := 2
  nPdus := 1
  dlTtiPduList := [{ body := .csiRs {} }]

theorem csiRsRequest_good : (NrRequest.slot (.dlTti csiRsRequest)).Good := by
  refine ⟨?_, rfl⟩
  exact {
    pdus := rfl
    pdus_le := Nat.le_of_ble_eq_true rfl
    bodies := by simp [csiRsRequest, DlTtiBody.Fits]
    groups := rfl
    ues := by simp [csiRsRequest]
    ues_le := by simp [csiRsRequest] }

theorem csiRsRequest_room :
    p7HeaderLength + (NrRequest.slot (.dlTti csiRsRequest)).bytes.length ≤ maxPackedMessageSize :=
  Nat.le_of_ble_eq_true rfl

theorem csiRsRequest_holds : Holds
    (memoryOf (headerBytes { messageId := nrDlTtiRequest } ++ dlTtiBytes csiRsRequest)) 0
    (headerBytes { messageId := nrDlTtiRequest } ++ dlTtiBytes csiRsRequest) := by
  have hholds := holds_memoryOf []
    (headerBytes { messageId := nrDlTtiRequest } ++ dlTtiBytes csiRsRequest) []
  rwa [List.nil_append, List.append_nil] at hholds

def csiRsDelivery : Delivery where
  header := { messageId := nrDlTtiRequest }
  request := .slot (.dlTti csiRsRequest)
  isRequest := rfl
  good := csiRsRequest_good
  length_le := Nat.zero_le _
  room := .inr csiRsRequest_room
  mem := memoryOf (headerBytes { messageId := nrDlTtiRequest } ++ dlTtiBytes csiRsRequest)
  holds := csiRsRequest_holds
  stack := ⟨.ofWord 0, 0, 0, 0, 0⟩
  taskStack := ⟨[], ⟨.ofWord 0, 0, 0, 0, 0⟩⟩

end MultiUeProxy.Downlink.Relay
