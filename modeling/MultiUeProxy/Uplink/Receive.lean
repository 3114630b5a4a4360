import MultiUeProxy.Uplink.Dequeue
import Mathlib.Tactic.SplitIfs

/-!
# Receiving the datagrams of a UE

`receive_message_from_ue` of `lte_proxy.cc` and `receive_message_from_nr_ue` of `nr_proxy.cc` read
one UE's socket for ever; a datagram that is not a dummy and whose header unpacks goes to
`oai_subframe_handle_msg_from_ue` or `oai_slot_handle_msg_from_ue` of `nfapi_pnf.c`, which puts it
into the queue of the UE. The two variants have one text.

A `Reception` is the state of the loop between two calls of `recvfrom`, with a record of what was
passed on. `receiveLoop_passes_iff` says for which sequences of datagrams all of the right ones are
passed on.
-/

set_option autoImplicit false
set_option relaxedAutoImplicit false

namespace MultiUeProxy.Uplink.Receive

open Lib.Execution Lib.ByteCursor Queue.Operations Queue.DequeRefinement P7.Header Message Dequeue

/-! ### The functions -/

/-- `NFAPI_MAX_PACKED_MESSAGE_SIZE`. -/
def maxPackedMessageSize : ℕ := 8192

/-- `MIN_UE_NEM_ID`. -/
def minUeNemId : ℕ := 2

/-- `MAX_UES`. -/
def maxUes : ℕ := 64

/-- A datagram in the buffer of the loop, with the bytes behind it in the buffer and those behind
its copy in the message that is allocated for it. -/
structure Datagram where
  bytes : List UInt8
  bounded : bytes.length ≤ maxPackedMessageSize
  behind : ℕ → UInt8
  garbage : ℕ → UInt8

/-- The number of bytes that `recvfrom` returns. -/
def Datagram.length (d : Datagram) : ℕ := d.bytes.length

/-- The buffer of the loop. -/
def Datagram.buffer (d : Datagram) : Memory :=
  ⟨fun pos ↦ d.bytes.getD pos (d.behind pos), maxPackedMessageSize⟩

/-- The copy of a datagram that is put into a queue. -/
def Datagram.message (d : Datagram) : MessageBuffer := .ofBytes d.garbage d.bytes

/-- `nfapi_get_sfnsf` or `nfapi_get_sfnslot`, read for a trace. -/
def traceTime : Radio → Memory → ℕ → Outcome UInt16
  | .lte => nfapiGetSfnsf
  | .nr => nfapiGetSfnslot

/-- The common text of the two handlers. There is one queue for each UE. -/
def handleMsgFromUe (radio : Radio) (queues : List (QueueT MessageBuffer)) (msg : Datagram)
    (nemId : UInt16) : Outcome (List (QueueT MessageBuffer)) := do
  if msg.length = 4 then
    return queues
  else
    let _time ← traceTime radio msg.buffer msg.length
    let i : ℤ := nemId.toNat - minUeNemId
    if i < 0 ∨ i ≥ queues.length then
      return queues
    else
      assert (msg.length < rxIndDataMax)
      match queues[i.toNat]? with
      | none => .error .fault
      | some queue =>
        -- a message that does not fit is freed
        let (_, queue) ← putQueue queue (some msg.message)
        return queues.set i.toNat queue

/-- `oai_subframe_handle_msg_from_ue`. -/
def oaiSubframeHandleMsgFromUe (msgsFromUe : List (QueueT MessageBuffer)) (msg : Datagram)
    (nemId : UInt16) : Outcome (List (QueueT MessageBuffer)) :=
  handleMsgFromUe .lte msgsFromUe msg nemId

/-- `oai_slot_handle_msg_from_ue`. -/
def oaiSlotHandleMsgFromUe (msgsFromNrUe : List (QueueT MessageBuffer)) (msg : Datagram)
    (nemId : UInt16) : Outcome (List (QueueT MessageBuffer)) :=
  handleMsgFromUe .nr msgsFromNrUe msg nemId

/-- Where the loop is: it waits for a datagram, or it has returned, or the program has crashed. -/
inductive Status where
  | receiving
  | returned
  | crashed (cause : Crash)
  deriving DecidableEq, Repr

/-- The state of the loop, with the datagrams that were passed to the handler and their ids. -/
structure Reception where
  queues : List (QueueT MessageBuffer)
  passed : List (List UInt8 × UInt16) := []
  status : Status := .receiving

/-- One iteration of the loop for the UE `ueIdx`. -/
def receiveOne (radio : Radio) (ueIdx : ℕ) (s : Reception) (d : Datagram) : Reception :=
  if d.length = 4 then s
  else match p7MessageHeaderUnpack d.buffer d.length with
    | .error cause => { s with status := .crashed cause }
    | .ok none => { s with status := .returned }
    | .ok (some _header) =>
      match traceTime radio d.buffer d.length with
      | .error cause => { s with status := .crashed cause }
      | .ok _time =>
        let nemId := UInt16.ofNat (ueIdx + 2)
        let s := { s with passed := s.passed ++ [(d.bytes, nemId)] }
        match handleMsgFromUe radio s.queues d nemId with
        | .error cause => { s with status := .crashed cause }
        | .ok queues => { s with queues }

/-- The loop on a sequence of datagrams. -/
def receiveLoop (radio : Radio) (ueIdx : ℕ) (s : Reception) : List Datagram → Reception
  | [] => s
  | d :: rest =>
    if s.status = .receiving then receiveLoop radio ueIdx (receiveOne radio ueIdx s d) rest
    else s

/-- `receive_message_from_ue`. -/
def receiveMessageFromUe (ueIdx : ℕ) (msgsFromUe : List (QueueT MessageBuffer))
    (datagrams : List Datagram) : Reception :=
  receiveLoop .lte ueIdx { queues := msgsFromUe } datagrams

/-- `receive_message_from_nr_ue`. -/
def receiveMessageFromNrUe (ueIdx : ℕ) (msgsFromNrUe : List (QueueT MessageBuffer))
    (datagrams : List Datagram) : Reception :=
  receiveLoop .nr ueIdx { queues := msgsFromNrUe } datagrams

/-! ### The queues -/

/-- The queues stand for lists of live messages. -/
structure InUse (queues : List (QueueT MessageBuffer)) (xss : List (List MessageBuffer)) :
    Prop where
  represents : List.Forall₂ Represents queues xss
  live : ∀ xs ∈ xss, ∀ msg ∈ xs, msg.Live

/-- The queues as a family. -/
def InUse.family {queues : List (QueueT MessageBuffer)} {xss : List (List MessageBuffer)}
    (h : InUse queues xss) : UeQueues xss := ⟨queues, h.represents, h.live⟩

theorem inUse_of_family {xss : List (List MessageBuffer)} (family : UeQueues xss) :
    InUse family.queues xss := ⟨family.represents, family.live⟩

/-- A message is put behind the others of its UE, unless there are too many. -/
def enqueue (xss : List (List MessageBuffer)) (i : ℕ) (msg : MessageBuffer) :
    List (List MessageBuffer) :=
  xss.modify i fun xs ↦ if xs.length < maxQueueSize then xs ++ [msg] else xs

theorem enqueue_length (xss : List (List MessageBuffer)) (i : ℕ) (msg : MessageBuffer) :
    (enqueue xss i msg).length = xss.length := List.length_modify ..

theorem enqueue_cons_zero (xs : List MessageBuffer) (xss : List (List MessageBuffer))
    (msg : MessageBuffer) :
    enqueue (xs :: xss) 0 msg =
      (if xs.length < maxQueueSize then xs ++ [msg] else xs) :: xss := rfl

theorem enqueue_cons_succ (xs : List MessageBuffer) (xss : List (List MessageBuffer)) (i : ℕ)
    (msg : MessageBuffer) : enqueue (xs :: xss) (i + 1) msg = xs :: enqueue xss i msg := rfl

theorem putQueue_eq {queue : QueueT MessageBuffer} {xs : List MessageBuffer}
    (h : Represents queue xs) (msg : MessageBuffer) :
    ∃ done queue', putQueue queue (some msg) = .ok (done, queue') ∧
      Represents queue' (if xs.length < maxQueueSize then xs ++ [msg] else xs) := by
  by_cases hroom : xs.length < maxQueueSize
  · obtain ⟨queue', hput, hrep⟩ := putQueue_of_room h hroom msg
    exact ⟨true, queue', hput, by rwa [if_pos hroom]⟩
  · have hfull : xs.length = maxQueueSize := Nat.le_antisymm h.length_le (Nat.le_of_not_lt hroom)
    exact ⟨false, queue, putQueue_of_full h hfull msg, by rwa [if_neg hroom]⟩

/-- Putting a message into the queue of a UE. -/
theorem putQueue_at {queues : List (QueueT MessageBuffer)} {xss : List (List MessageBuffer)}
    (h : List.Forall₂ Represents queues xss) {i : ℕ} (hi : i < queues.length)
    (msg : MessageBuffer) :
    ∃ queue done queue', queues[i]? = some queue ∧
      putQueue queue (some msg) = .ok (done, queue') ∧
      List.Forall₂ Represents (queues.set i queue') (enqueue xss i msg) := by
  induction h generalizing i with
  | nil => exact absurd hi (Nat.not_lt_zero i)
  | @cons queue xs queues xss hqueue hrest ih =>
    cases i with
    | zero =>
      obtain ⟨done, queue', hput, hrep⟩ := putQueue_eq hqueue msg
      exact ⟨queue, done, queue', rfl, hput, .cons hrep hrest⟩
    | succ i =>
      obtain ⟨found, done, queue', hfound, hput, hrep⟩ := ih (Nat.lt_of_succ_lt_succ hi)
      exact ⟨found, done, queue', hfound, hput, .cons hqueue hrep⟩

theorem live_enqueue {xss : List (List MessageBuffer)} (hlive : ∀ xs ∈ xss, ∀ m ∈ xs, m.Live)
    (i : ℕ) {msg : MessageBuffer} (hmsg : msg.Live) :
    ∀ xs ∈ enqueue xss i msg, ∀ m ∈ xs, m.Live := by
  induction xss generalizing i with
  | nil => cases i <;> simp [enqueue]
  | cons xs xss ih =>
    have hrest : ∀ ys ∈ xss, ∀ m ∈ ys, m.Live := fun ys hys ↦
      hlive ys (List.mem_cons_of_mem xs hys)
    have hhead := hlive xs (List.mem_cons_self ..)
    intro ys hys
    cases i with
    | zero =>
      rw [enqueue_cons_zero] at hys
      rcases List.mem_cons.mp hys with rfl | hys
      · intro m hm
        split_ifs at hm
        · rcases List.mem_append.mp hm with hm | hm
          · exact hhead m hm
          · rwa [List.mem_singleton.mp hm]
        · exact hhead m hm
      · exact hrest ys hys
    | succ i =>
      rw [enqueue_cons_succ] at hys
      rcases List.mem_cons.mp hys with rfl | hys
      · exact hhead
      · exact ih hrest i ys hys

/-! ### The handler -/

theorem traceTime_returns (radio : Radio) (d : Datagram) :
    ∃ time, traceTime radio d.buffer d.length = .ok time := by
  have hsize : p7HeaderLength + 4 ≤ d.buffer.size := by
    simp only [Datagram.buffer]
    decide
  cases radio with
  | lte => exact nfapiGetSfnsf_returns d.length hsize
  | nr => exact nfapiGetSfnslot_returns d.length hsize

/-- The id of the UE `ueIdx`. -/
def nemIdOf (ueIdx : ℕ) : UInt16 := UInt16.ofNat (ueIdx + 2)

/-- A receive loop's UE. -/
structure UeSocket (numUes : ℕ) where
  ueIdx : ℕ
  ueIdx_lt : ueIdx < numUes
  numUes_le : numUes ≤ maxUes

/-- The same loop, with another name for the number of UEs. -/
def UeSocket.cast {numUes n : ℕ} (socket : UeSocket numUes) (h : n = numUes) : UeSocket n :=
  ⟨socket.ueIdx, by rw [h]; exact socket.ueIdx_lt, by rw [h]; exact socket.numUes_le⟩

/-- The handler finds the UE again. -/
theorem UeSocket.index_eq {numUes : ℕ} (socket : UeSocket numUes) :
    ((nemIdOf socket.ueIdx).toNat : ℤ) - minUeNemId = socket.ueIdx := by
  have hlt := socket.ueIdx_lt
  have hle := socket.numUes_le
  simp only [maxUes] at hle
  unfold nemIdOf
  rw [UInt16.toNat_ofNat', minUeNemId, Nat.mod_eq_of_lt (by simp; omega)]
  simp

section Handler

variable {radio : Radio} {queues : List (QueueT MessageBuffer)} {xss : List (List MessageBuffer)}

/-- What the handler does with a datagram that is not a dummy, for a UE that it finds. -/
theorem handleMsgFromUe_eq (h : InUse queues xss) (socket : UeSocket xss.length) {d : Datagram}
    (hdummy : d.length ≠ 4) :
    handleMsgFromUe radio queues d (nemIdOf socket.ueIdx) = (do
      assert (d.length < rxIndDataMax)
      match queues[socket.ueIdx]? with
      | none => .error .fault
      | some queue =>
        let (_, queue) ← putQueue queue (some d.message)
        return queues.set socket.ueIdx queue) := by
  obtain ⟨time, htime⟩ := traceTime_returns radio d
  have hlt := socket.ueIdx_lt
  have hcount := h.represents.length_eq
  have hfound : ¬ ((socket.ueIdx : ℤ) < 0 ∨ (socket.ueIdx : ℤ) ≥ queues.length) := by omega
  simp only [handleMsgFromUe, if_neg hdummy, htime, ok_bind, socket.index_eq, if_neg hfound,
    Int.toNat_natCast]

theorem handleMsgFromUe_of_fits (radio : Radio) (h : InUse queues xss) (socket : UeSocket xss.length)
    {d : Datagram} (hdummy : d.length ≠ 4) (hfits : d.length < rxIndDataMax) :
    ∃ queues', handleMsgFromUe radio queues d (nemIdOf socket.ueIdx) = .ok queues' ∧
      InUse queues' (enqueue xss socket.ueIdx d.message) := by
  have hi : socket.ueIdx < queues.length := by
    rw [h.represents.length_eq]
    exact socket.ueIdx_lt
  obtain ⟨queue, done, queue', hqueue, hput, hrep⟩ := putQueue_at h.represents hi d.message
  refine ⟨queues.set socket.ueIdx queue', ?_, hrep,
    live_enqueue h.live _ (MessageBuffer.ofBytes_live (Nat.le_of_lt hfits))⟩
  rw [handleMsgFromUe_eq h socket hdummy, assert_of_true hfits, ok_bind, hqueue]
  simp only [hput, ok_bind, pure_eq_ok]

/-- The handler asserts that a datagram is shorter than the array of a message. -/
theorem handleMsgFromUe_of_full (h : InUse queues xss) (socket : UeSocket xss.length)
    {d : Datagram} (hfull : d.length = rxIndDataMax) :
    handleMsgFromUe radio queues d (nemIdOf socket.ueIdx) = .error .abort := by
  have hdummy : d.length ≠ 4 := by
    rw [hfull]
    decide
  rw [handleMsgFromUe_eq h socket hdummy, assert_of_false (by omega), error_bind]

end Handler

/-! ### One iteration -/

/-- The header of the datagram unpacks. -/
def Datagram.unpacks (d : Datagram) : Bool :=
  match p7MessageHeaderUnpack d.buffer d.length with
  | .ok (some _) => true
  | _ => false

/-- The datagram is to be passed on: it is not a dummy and its header unpacks. -/
def Datagram.wanted (d : Datagram) : Bool := d.length ≠ 4 && d.unpacks

/-- The loop does not go on behind the datagram: its header does not unpack, or it fills the array
of a message. -/
def Datagram.last (d : Datagram) : Bool :=
  d.length ≠ 4 && (!d.unpacks || d.length = rxIndDataMax)

theorem Datagram.headerUnpack_isSome (d : Datagram) :
    ∃ header, p7MessageHeaderUnpack d.buffer d.length = .ok header ∧
      (header.isSome ↔ p7HeaderLength ≤ d.length) := p7MessageHeaderUnpack_isSome d.bounded

theorem Datagram.unpacks_iff (d : Datagram) : d.unpacks = true ↔ p7HeaderLength ≤ d.length := by
  obtain ⟨header, hunpack, hroom⟩ := d.headerUnpack_isSome
  unfold unpacks
  rw [hunpack, ← hroom]
  cases header with
  | none => simp
  | some header => simp

/-- What an iteration of the loop does. -/
inductive Iteration (radio : Radio) (ueIdx : ℕ) (s : Reception) (xss : List (List MessageBuffer))
    (d : Datagram) : Prop where
  /-- A dummy is passed over. -/
  | skipped (hwanted : d.wanted = false) (hlast : d.last = false) (hdummy : d.length = 4)
    (hstep : receiveOne radio ueIdx s d = s)
  /-- The header does not unpack, and the loop returns. -/
  | left (hwanted : d.wanted = false) (hlast : d.last = true) (hdummy : d.length ≠ 4)
    (hshort : d.length < p7HeaderLength)
    (hstep : receiveOne radio ueIdx s d = { s with status := .returned })
  /-- The datagram is passed on and put into its queue. -/
  | queued (hwanted : d.wanted = true) (hlast : d.last = false) (hroom : p7HeaderLength ≤ d.length)
    (queues : List (QueueT MessageBuffer)) (hqueues : InUse queues (enqueue xss ueIdx d.message))
    (hstep : receiveOne radio ueIdx s d =
      { s with queues, passed := s.passed ++ [(d.bytes, nemIdOf ueIdx)] })
  /-- The datagram is passed on, and the handler aborts. -/
  | aborted (hwanted : d.wanted = true) (hlast : d.last = true) (hfull : d.length = rxIndDataMax)
    (hstep : receiveOne radio ueIdx s d =
      { s with passed := s.passed ++ [(d.bytes, nemIdOf ueIdx)], status := .crashed .abort })

theorem receiveOne_cases (radio : Radio) {s : Reception} {xss : List (List MessageBuffer)}
    (h : InUse s.queues xss) (socket : UeSocket xss.length) (d : Datagram) :
    Iteration radio socket.ueIdx s xss d := by
  by_cases hdummy : d.length = 4
  · refine .skipped ?_ ?_ hdummy (if_pos hdummy)
    · simp [Datagram.wanted, hdummy]
    · simp [Datagram.last, hdummy]
  · obtain ⟨header, hunpack, hroom⟩ := d.headerUnpack_isSome
    cases header with
    | none =>
      have hshort : ¬ p7HeaderLength ≤ d.length := fun hle ↦ by simpa using hroom.mpr hle
      have hnot : d.unpacks = false := by rw [Datagram.unpacks, hunpack]
      refine .left ?_ ?_ hdummy (Nat.lt_of_not_le hshort) ?_
      · simp [Datagram.wanted, hnot]
      · simp [Datagram.last, hdummy, hnot]
      · simp only [receiveOne, if_neg hdummy, hunpack]
    | some header =>
      obtain ⟨time, htime⟩ := traceTime_returns radio d
      have hyes : d.unpacks = true := by rw [Datagram.unpacks, hunpack]
      have hwanted : d.wanted = true := by simp [Datagram.wanted, hdummy, hyes]
      have hid : UInt16.ofNat (socket.ueIdx + 2) = nemIdOf socket.ueIdx := rfl
      by_cases hfull : d.length = rxIndDataMax
      · have hlast : d.last = true := by
          unfold Datagram.last
          rw [hfull]
          simp [rxIndDataMax]
        refine .aborted hwanted hlast hfull ?_
        simp only [receiveOne, if_neg hdummy, hunpack, htime, hid,
          handleMsgFromUe_of_full h socket hfull]
      · have hfits : d.length < rxIndDataMax := Nat.lt_of_le_of_ne d.bounded hfull
        obtain ⟨queues, hhandle, hqueues⟩ := handleMsgFromUe_of_fits radio h socket hdummy hfits
        refine .queued hwanted (by simp [Datagram.last, hfull, hyes]) (hroom.mp rfl) queues hqueues ?_
        simp only [receiveOne, if_neg hdummy, hunpack, htime, hid, hhandle]

/-! ### The loop -/

theorem receiveLoop_of_not_receiving (radio : Radio) (ueIdx : ℕ) {s : Reception}
    (hs : s.status ≠ .receiving) (ds : List Datagram) : receiveLoop radio ueIdx s ds = s := by
  cases ds with
  | nil => rfl
  | cons d rest => rw [receiveLoop, if_neg hs]

/-- What is to be passed to the handler. -/
def toPass (ueIdx : ℕ) (ds : List Datagram) : List (List UInt8 × UInt16) :=
  (ds.filter Datagram.wanted).map fun d ↦ (d.bytes, nemIdOf ueIdx)

theorem toPass_cons_of_wanted (ueIdx : ℕ) {d : Datagram} (h : d.wanted = true)
    (ds : List Datagram) : toPass ueIdx (d :: ds) = (d.bytes, nemIdOf ueIdx) :: toPass ueIdx ds := by
  rw [toPass, List.filter_cons_of_pos h, List.map_cons, toPass]

theorem toPass_cons_of_not_wanted (ueIdx : ℕ) {d : Datagram} (h : d.wanted = false)
    (ds : List Datagram) : toPass ueIdx (d :: ds) = toPass ueIdx ds := by
  rw [toPass, List.filter_cons_of_neg (by simp [h]), toPass]

theorem toPass_eq_nil_iff (ueIdx : ℕ) (ds : List Datagram) :
    toPass ueIdx ds = [] ↔ ∀ d ∈ ds, d.wanted = false := by
  unfold toPass
  rw [List.map_eq_nil_iff, List.filter_eq_nil_iff]
  simp only [Bool.not_eq_true]

/-- No datagram that is to be passed on comes behind one that the loop does not survive. -/
def NoneLost (ds : List Datagram) : Prop :=
  ds.Pairwise fun d later ↦ d.last = true → later.wanted = false

theorem noneLost_cons_of_not_last {d : Datagram} (h : d.last = false) (ds : List Datagram) :
    NoneLost (d :: ds) ↔ NoneLost ds := by
  rw [NoneLost, List.pairwise_cons, NoneLost]
  simp [h]

theorem noneLost_cons_of_last {d : Datagram} (h : d.last = true) (ds : List Datagram) :
    NoneLost (d :: ds) ↔ ∀ later ∈ ds, later.wanted = false := by
  rw [NoneLost, List.pairwise_cons]
  constructor
  · exact fun hall later hlater ↦ hall.1 later hlater h
  · exact fun hall ↦ ⟨fun later hlater _ ↦ hall later hlater,
      List.pairwise_of_forall_mem_list fun _ _ later hlater _ ↦ hall later hlater⟩

/-- What the loop passes on, and whether it goes on. The induction is on the datagrams; an iteration
keeps the queues in use. -/
theorem receiveLoop_spec (radio : Radio) {s : Reception} {xss : List (List MessageBuffer)}
    (h : InUse s.queues xss) (socket : UeSocket xss.length) (hs : s.status = .receiving)
    (ds : List Datagram) :
    ((receiveLoop radio socket.ueIdx s ds).passed = s.passed ++ toPass socket.ueIdx ds ↔
        NoneLost ds) ∧
      ((receiveLoop radio socket.ueIdx s ds).status = .receiving ↔ ∀ d ∈ ds, d.last = false) := by
  induction ds generalizing s xss with
  | nil => simp [receiveLoop, toPass, NoneLost, hs]
  | cons d rest ih =>
    unfold receiveLoop
    rw [if_pos hs]
    cases receiveOne_cases radio h socket d with
    | skipped hwanted hlast _ hstep =>
      obtain ⟨hpassed, hstatus⟩ := ih h socket hs
      rw [hstep, toPass_cons_of_not_wanted _ hwanted, noneLost_cons_of_not_last hlast,
        List.forall_mem_cons]
      exact ⟨hpassed, hstatus.trans (by simp [hlast])⟩
    | left hwanted hlast _ _ hstep =>
      rw [hstep, receiveLoop_of_not_receiving _ _ (by simp), noneLost_cons_of_last hlast,
        toPass_cons_of_not_wanted _ hwanted, ← toPass_eq_nil_iff socket.ueIdx]
      exact ⟨by simp, by simp [hlast]⟩
    | queued hwanted hlast _ queues hqueues hstep =>
      have hlength := enqueue_length xss socket.ueIdx d.message
      have hnext : InUse (receiveOne radio socket.ueIdx s d).queues
          (enqueue xss socket.ueIdx d.message) := by
        rw [hstep]
        exact hqueues
      obtain ⟨hpassed, hstatus⟩ := ih hnext (socket.cast hlength) (by rw [hstep]; exact hs)
      rw [UeSocket.cast] at hpassed hstatus
      rw [toPass_cons_of_wanted _ hwanted, noneLost_cons_of_not_last hlast, List.forall_mem_cons]
      refine ⟨?_, hstatus.trans (by simp [hlast])⟩
      rw [← hpassed, hstep]
      simp
    | aborted hwanted hlast _ hstep =>
      rw [hstep, receiveLoop_of_not_receiving _ _ (by simp), noneLost_cons_of_last hlast,
        toPass_cons_of_wanted _ hwanted, ← toPass_eq_nil_iff socket.ueIdx]
      exact ⟨by simp, by simp [hlast]⟩

/-- The receive loop of a UE passes on just the right datagrams exactly when none of them comes
behind a datagram that the loop does not survive, and it still receives exactly when there is no
such datagram. -/
theorem receiveLoop_passes_iff (radio : Radio) {xss : List (List MessageBuffer)}
    (family : UeQueues xss) (socket : UeSocket xss.length) (ds : List Datagram) :
    ((receiveLoop radio socket.ueIdx { queues := family.queues } ds).passed =
        (ds.filter Datagram.wanted).map (fun d ↦ (d.bytes, UInt16.ofNat (socket.ueIdx + 2))) ↔
      ds.Pairwise fun d later ↦ d.last = true → later.wanted = false) ∧
    ((receiveLoop radio socket.ueIdx { queues := family.queues } ds).status = .receiving ↔
      ∀ d ∈ ds, d.last = false) :=
  receiveLoop_spec radio (inUse_of_family family) socket rfl ds

/-- A datagram with zeros behind it. -/
def datagramOf (bytes : List UInt8) (h : bytes.length ≤ maxPackedMessageSize) : Datagram :=
  ⟨bytes, h, fun _ ↦ 0, fun _ ↦ 0⟩

/-- A datagram without bytes. -/
def emptyDatagram : Datagram := datagramOf [] (by decide)

/-- A CRC indication without PDUs. -/
def crcDatagram : Datagram :=
  datagramOf ([0, 0, 0, 0x86] ++ List.replicate 12 0 ++ [0, 0x10]) (by decide)

/-- Behind an empty datagram, a good one is not passed on any more. -/
theorem empty_datagram_ends_loop :
    let r := receiveMessageFromUe 0 [initQueue] [emptyDatagram, crcDatagram]
    crcDatagram.wanted = true ∧ r.passed = [] ∧ r.status = .returned :=
  ⟨rfl, rfl, rfl⟩

end MultiUeProxy.Uplink.Receive
