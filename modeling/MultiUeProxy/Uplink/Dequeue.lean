import MultiUeProxy.Lib.TimedBatch.Uniform
import MultiUeProxy.Queue.DequeRefinement
import MultiUeProxy.Uplink.Message
import Mathlib.Data.List.ReduceOption

/-!
# Dequeueing the uplink messages of one subframe or slot

`dequeue_ue_msgs` and `dequeue_ue_slot_msgs` of `nfapi_pnf.c` take, from the queues of all UEs, the
messages of one time. The two functions differ in how they read a time off a message and in which
times they call stale; `Radio` names the two variants and `dequeueMsgs` is their common text.

A family of queues that is in use carries what it contains: `UeQueues xss` is a list of queues that
stand for the lists `xss` of live messages. `dequeueMsgs_refines` relates a call on such a family
to the scan of the lists `xss`: the call returns, delivers at most `MAX_SUBFRAME_MSGS` of the
messages that the scan takes from each list, leaves the queues with what the scan leaves, and its
flag says whether that is nothing.

The trace output is left out, and `free` has no effect on the values that are modelled: a message
that the source frees is one that the model no longer passes on.
-/

set_option autoImplicit false
set_option relaxedAutoImplicit false

namespace MultiUeProxy.Uplink.Dequeue

open Lib.Execution Lib.Ring Lib.TimedBatch Queue.Operations Queue.DequeRefinement P7.Header Message

/-! ### The function -/

/-- `MAX_SUBFRAME_MSGS`, which is also `MAX_SLOT_MSGS`. -/
def maxSubframeMsgs : ℕ := 8

/-- `subframe_msgs_t` and `slot_msgs_t`: the messages of one UE. A cell is `NULL` once its message
is processed. -/
structure SubframeMsgs where
  msgs : List (Option MessageBuffer)
  bounded : msgs.length ≤ maxSubframeMsgs

/-- The table entry that `memset` leaves. -/
def SubframeMsgs.empty : SubframeMsgs := ⟨[], Nat.zero_le _⟩

/-- `p->msgs[p->num_msgs++] = msg`, unless the array is full. -/
def SubframeMsgs.push (p : SubframeMsgs) (msg : MessageBuffer) : SubframeMsgs :=
  if hfull : p.msgs.length = maxSubframeMsgs then p
  else ⟨p.msgs ++ [some msg], by have := p.bounded; simp; omega⟩

/-- Messages pushed one after the other. -/
def SubframeMsgs.pushAll (p : SubframeMsgs) (ms : List MessageBuffer) : SubframeMsgs :=
  ms.foldl push p

/-- The two variants of the uplink path. -/
inductive Radio where
  | lte
  | nr
  deriving DecidableEq, Repr

/-- `get_sfnsf` or `get_sfnslot`. -/
def Radio.peek : Radio → MessageBuffer → Outcome (Option UInt16)
  | .lte => getSfnsf
  | .nr => getSfnslot

/-- Whether a time is too old to be delivered at the current time `tx`. -/
def Radio.stale (radio : Radio) (tx time : UInt16) : Bool :=
  match radio with
  | .lte => getSfDelta tx time > 200
  | .nr => getSlotDelta tx time > 400

/-- The variables of the loop over the messages of one UE. -/
structure Drain where
  queue : QueueT MessageBuffer
  msgs : SubframeMsgs
  master : UInt16
  areQueuesEmpty : Bool

/-- The loop over the messages of one UE. It has no bound in the source. -/
def drainUe (radio : Radio) (tx : UInt16) : (bound : ℕ) → Drain → Outcome Drain
  | 0, _ => .error .diverge
  | bound + 1, s => do
    let (item, queue) ← getQueue s.queue
    match item with
    | none => return { s with queue }
    | some msg =>
      assert (msg.magic = messageBufferMagic)
      if msg.length = 4 then
        drainUe radio tx bound { s with queue }
      else
        match ← radio.peek msg with
        | none => drainUe radio tx bound { s with queue }
        | some time =>
          let master := if s.master = 0xFFFF then time else s.master
          if master ≠ time then
            -- a message that does not fit any more is freed
            let (_, queue) ← requeue queue (some msg)
            return { s with queue, master, areQueuesEmpty := false }
          else if radio.stale tx time then
            drainUe radio tx bound { s with queue, master }
          else
            drainUe radio tx bound { s with queue, master, msgs := s.msgs.push msg }

/-- What a call returns and leaves behind: the flag, one table entry and one queue for each UE. -/
structure Dequeued where
  areQueuesEmpty : Bool
  table : List SubframeMsgs
  queues : List (QueueT MessageBuffer)

/-- The loop over the UEs. -/
def dequeueLoop (radio : Radio) (tx master : UInt16) (areQueuesEmpty : Bool) :
    List (QueueT MessageBuffer) → Outcome Dequeued
  | [] => .ok ⟨areQueuesEmpty, [], []⟩
  | queue :: rest => do
    let s ← drainUe radio tx (queue.numItems + 1) ⟨queue, .empty, master, areQueuesEmpty⟩
    let r ← dequeueLoop radio tx s.master s.areQueuesEmpty rest
    return ⟨r.areQueuesEmpty, s.msgs :: r.table, s.queue :: r.queues⟩

/-- The common text of the two functions. -/
def dequeueMsgs (radio : Radio) (tx : UInt16) (queues : List (QueueT MessageBuffer)) :
    Outcome Dequeued :=
  dequeueLoop radio tx 0xFFFF true queues

/-- `dequeue_ue_msgs`. -/
def dequeueUeMsgs (sfnSfTx : UInt16) (msgsFromUe : List (QueueT MessageBuffer)) :
    Outcome Dequeued :=
  dequeueMsgs .lte sfnSfTx msgsFromUe

/-- `dequeue_ue_slot_msgs`. -/
def dequeueUeSlotMsgs (sfnSlotTx : UInt16) (msgsFromNrUe : List (QueueT MessageBuffer)) :
    Outcome Dequeued :=
  dequeueMsgs .nr sfnSlotTx msgsFromNrUe

/-! ### The times of messages -/

/-- The time that a peek reads off a live message, if any. -/
def Radio.time : Radio → MessageBuffer → Option UInt16
  | .lte => sfnsf?
  | .nr => sfnslot?

/-- How a call at the time `tx` reads messages. -/
def Radio.clock (radio : Radio) (tx : UInt16) : Clock MessageBuffer UInt16 where
  time := radio.time
  stale := radio.stale tx
  unset := 0xFFFF

theorem Radio.peek_eq (radio : Radio) {msg : MessageBuffer} (h : msg.length ≤ rxIndDataMax) :
    radio.peek msg = .ok (radio.time msg) := by
  cases radio with
  | lte => exact getSfnsf_eq h
  | nr => exact getSfnslot_eq h

/-- The peeks assert that the length of the message fits its array. -/
theorem Radio.peek_of_not_fits (radio : Radio) {msg : MessageBuffer}
    (h : ¬ msg.length ≤ rxIndDataMax) : radio.peek msg = .error .abort := by
  cases radio with
  | lte => exact (by rw [Radio.peek, getSfnsf, assert_of_false h, error_bind])
  | nr => exact (by rw [Radio.peek, getSfnslot, assert_of_false h, error_bind])

/-- A dummy has no time. -/
theorem Radio.time_of_dummy (radio : Radio) {msg : MessageBuffer} (h : msg.length = 4) :
    radio.time msg = none := by
  cases radio <;> simp [Radio.time, sfnsf?, sfnslot?, h, p7HeaderLength]

/-- A message with a time is no dummy. -/
theorem Radio.length_ne_of_time (radio : Radio) {msg : MessageBuffer} {time : UInt16}
    (h : radio.time msg = some time) : msg.length ≠ 4 := by
  intro hdummy
  rw [radio.time_of_dummy hdummy] at h
  cases h

/-- The time `0xFFFF` is the latest that a word can hold, so it is never stale. -/
theorem Radio.unset_fresh (radio : Radio) (tx : UInt16) :
    (radio.clock tx).stale (radio.clock tx).unset = false := by
  have htx := tx.toNat_lt
  cases radio with
  | lte =>
    have hsf : (tx &&& 15).toNat ≤ 15 := by
      rw [UInt16.toNat_and]
      exact Nat.and_le_right
    have hsfn : (tx >>> 4).toNat ≤ 4095 := by
      rw [UInt16.toNat_shiftRight, Nat.shiftRight_eq_div_pow]
      simp
      omega
    have hunset : getSfDelta tx 0xFFFF =
        ((tx >>> 4).toNat * 10 + (tx &&& 15).toNat : ℤ) - (4095 * 10 + 15) := rfl
    simp only [Radio.clock, Radio.stale, hunset, decide_eq_false_iff_not]
    omega
  | nr =>
    have hslot : (tx &&& 0x3F).toNat ≤ 63 := by
      rw [UInt16.toNat_and]
      exact Nat.and_le_right
    have hsfn : (tx >>> 6).toNat ≤ 1023 := by
      rw [UInt16.toNat_shiftRight, Nat.shiftRight_eq_div_pow]
      simp
      omega
    have hunset : getSlotDelta tx 0xFFFF =
        ((tx >>> 6).toNat * 20 + (tx &&& 0x3F).toNat : ℤ) - (1023 * 20 + 63) := rfl
    simp only [Radio.clock, Radio.stale, hunset, decide_eq_false_iff_not]
    omega

/-! ### The table -/

/-- Of the messages pushed, those that fit are kept. -/
theorem SubframeMsgs.pushAll_msgs (p : SubframeMsgs) (ms : List MessageBuffer) :
    (p.pushAll ms).msgs = p.msgs ++ (ms.take (maxSubframeMsgs - p.msgs.length)).map some := by
  induction ms generalizing p with
  | nil => simp [pushAll]
  | cons m rest ih =>
    have hpush : p.pushAll (m :: rest) = (p.push m).pushAll rest := rfl
    have hbound := p.bounded
    rw [hpush, ih]
    by_cases hfull : p.msgs.length = maxSubframeMsgs
    · simp [push, hfull]
    · obtain ⟨k, hk⟩ : ∃ k, maxSubframeMsgs - p.msgs.length = k + 1 :=
        ⟨maxSubframeMsgs - p.msgs.length - 1, by omega⟩
      have hrest : maxSubframeMsgs - (p.msgs.length + 1) = k := by omega
      simp [push, hfull, hk, hrest]

/-- The items of cells that are all filled. -/
theorem reduceOption_map_some {α : Type} (xs : List α) : (xs.map some).reduceOption = xs := by
  induction xs with
  | nil => rfl
  | cons x xs ih => rw [List.map_cons, List.reduceOption_cons_of_some, ih]

/-- The messages that a call delivers, one list for each UE. -/
def Dequeued.delivered (r : Dequeued) : List (List MessageBuffer) :=
  r.table.map fun p ↦ p.msgs.reduceOption

/-! ### The refinement -/

/-- The queues of all UEs, when they stand for the lists `xss` of live messages. -/
structure UeQueues (xss : List (List MessageBuffer)) where
  queues : List (QueueT MessageBuffer)
  represents : List.Forall₂ Represents queues xss
  live : ∀ xs ∈ xss, ∀ msg ∈ xs, msg.Live

/-- The loop over the messages of one UE does what the scan of its list says. -/
theorem drainUe_refines (radio : Radio) (tx : UInt16) {xs : List MessageBuffer}
    (hlive : ∀ msg ∈ xs, msg.Live) {bound : ℕ} (hbound : xs.length < bound) {s : Drain}
    (hqueue : Represents s.queue xs) :
    let scan := (radio.clock tx).scan s.master xs
    ∃ queue, drainUe radio tx bound s =
        .ok ⟨queue, s.msgs.pushAll scan.taken, scan.reference,
          s.areQueuesEmpty && scan.left.isEmpty⟩ ∧
      Represents queue scan.left := by
  induction xs generalizing bound s with
  | nil =>
    obtain ⟨bound, rfl⟩ : ∃ k, bound = k + 1 := ⟨bound - 1, by simp at hbound; omega⟩
    refine ⟨s.queue, ?_, hqueue⟩
    simp only [drainUe, getQueue_of_nil hqueue, ok_bind, pure_eq_ok, Clock.scan_nil,
      SubframeMsgs.pushAll, List.foldl_nil, List.isEmpty_nil, Bool.and_true]
  | cons m rest ih =>
    obtain ⟨bound, rfl⟩ : ∃ k, bound = k + 1 := ⟨bound - 1, by simp at hbound; omega⟩
    have hm : m.Live := hlive m (List.mem_cons_self ..)
    have hrestLive : ∀ msg ∈ rest, msg.Live := fun x hx ↦ hlive x (List.mem_cons_of_mem m hx)
    have hrestBound : rest.length < bound := by simpa using hbound
    obtain ⟨queue, hget, hrest⟩ := getQueue_of_cons hqueue
    have hhead : ∀ time, radio.time m = time → m.length ≠ 4 →
        drainUe radio tx (bound + 1) s = (match time with
          | none => drainUe radio tx bound { s with queue }
          | some time =>
            let master := if s.master = 0xFFFF then time else s.master
            if master ≠ time then do
              let (_, queue) ← requeue queue (some m)
              return { s with queue, master, areQueuesEmpty := false }
            else if radio.stale tx time then
              drainUe radio tx bound { s with queue, master }
            else
              drainUe radio tx bound { s with queue, master, msgs := s.msgs.push m }) := by
      intro time htime hlength
      simp only [drainUe, hget, ok_bind, assert_of_true hm.magic_eq, if_neg hlength,
        radio.peek_eq hm.length_le, htime]
    rcases (radio.clock tx).scan_cons_cases s.master m rest with
      ⟨htime, hscan⟩ | ⟨t, htime, hset, hother, hscan⟩ | ⟨t, htime, hmatch, hscan⟩
    · -- a dummy or an unreadable message is passed over
      obtain ⟨final, hrun, hrep⟩ := ih hrestLive hrestBound (s := { s with queue }) hrest
      simp only [hscan]
      refine ⟨final, ?_, hrep⟩
      by_cases hlength : m.length = 4
      · simpa only [drainUe, hget, ok_bind, assert_of_true hm.magic_eq, if_pos hlength] using hrun
      · rw [hhead none htime hlength]
        exact hrun
    · -- a message of another time goes back to the head, where a cell has just become free
      have hlength : m.length ≠ 4 := radio.length_ne_of_time htime
      have hroom : rest.length < maxQueueSize := hqueue.length_le
      obtain ⟨final, hrun, hrep⟩ := requeue_of_room hrest hroom m
      have hmaster : (if s.master = 0xFFFF then t else s.master) = s.master := if_neg hset
      simp only [hscan]
      refine ⟨final, ?_, hrep⟩
      rw [hhead (some t) htime hlength]
      simp only [hmaster, ne_eq, hother, not_false_eq_true, if_true, hrun, ok_bind, pure_eq_ok,
        SubframeMsgs.pushAll, List.foldl_nil, List.isEmpty_cons, Bool.and_false]
    · -- a message of the reference time is dropped when stale and delivered otherwise
      have hlength : m.length ≠ 4 := radio.length_ne_of_time htime
      have hmaster : (if s.master = 0xFFFF then t else s.master) = t := by
        rcases hmatch with hunset | rfl
        · exact if_pos hunset
        · split_ifs <;> rfl
      have hfresh : (radio.clock tx).fresh m = !radio.stale tx t := Clock.fresh_of_some htime
      simp only [hscan, Scan.prepend]
      cases hstale : radio.stale tx t with
      | true =>
        obtain ⟨final, hrun, hrep⟩ :=
          ih hrestLive hrestBound (s := { s with queue, master := t }) hrest
        refine ⟨final, ?_, hrep⟩
        rw [hhead (some t) htime hlength]
        simp only [hmaster, ne_eq, not_true_eq_false, if_false, hstale, if_true, hrun,
          List.filter_cons, List.filter_nil, hfresh, Bool.not_true, Bool.false_eq_true,
          List.nil_append]
      | false =>
        obtain ⟨final, hrun, hrep⟩ :=
          ih hrestLive hrestBound (s := { s with queue, master := t, msgs := s.msgs.push m }) hrest
        refine ⟨final, ?_, hrep⟩
        rw [hhead (some t) htime hlength]
        simp only [hmaster, ne_eq, not_true_eq_false, if_false, hstale, Bool.false_eq_true, hrun,
          List.filter_cons, List.filter_nil, hfresh, Bool.not_false, if_true,
          SubframeMsgs.pushAll, List.singleton_append, List.foldl_cons]

/-- The scans of one call, one for each UE. -/
def Radio.scans (radio : Radio) (tx : UInt16) (xss : List (List MessageBuffer)) :
    List (Scan MessageBuffer UInt16) :=
  (radio.clock tx).scanAll 0xFFFF xss

/-- What the call does with queues that stand for the lists `xss`: it returns, its table has the
messages taken as far as they fit, the queues stand for what is left, and the flag says whether
that is nothing. -/
structure Dequeued.Refines (r : Dequeued) (flag : Bool)
    (scans : List (Scan MessageBuffer UInt16)) : Prop where
  table : r.table = scans.map fun scan ↦ SubframeMsgs.empty.pushAll scan.taken
  queues : List.Forall₂ Represents r.queues (scans.map Scan.left)
  flag : r.areQueuesEmpty = (flag && (scans.map Scan.left).all List.isEmpty)

theorem dequeueLoop_refines (radio : Radio) (tx : UInt16) {xss : List (List MessageBuffer)}
    (hlive : ∀ xs ∈ xss, ∀ msg ∈ xs, msg.Live) (master : UInt16) (flag : Bool)
    {queues : List (QueueT MessageBuffer)} (hqueues : List.Forall₂ Represents queues xss) :
    ∃ r, dequeueLoop radio tx master flag queues = .ok r ∧
      r.Refines flag ((radio.clock tx).scanAll master xss) := by
  induction hqueues generalizing master flag with
  | nil => exact ⟨_, rfl, rfl, .nil, by simp [Clock.scanAll]⟩
  | @cons queue xs queues xss hqueue _ ih =>
    have hcount : xs.length < queue.numItems + 1 := by rw [hqueue.count]; omega
    obtain ⟨final, hrun, hrep⟩ := drainUe_refines radio tx (hlive xs (List.mem_cons_self ..))
      hcount (s := ⟨queue, .empty, master, flag⟩) hqueue
    simp only at hrun hrep
    obtain ⟨r, hloop, htable, hleft, hflag⟩ := ih
      (fun ys hys ↦ hlive ys (List.mem_cons_of_mem xs hys))
      ((radio.clock tx).scan master xs).reference
      (flag && ((radio.clock tx).scan master xs).left.isEmpty)
    refine ⟨_, by simp only [dequeueLoop, hrun, ok_bind, hloop, pure_eq_ok]; rfl, ?_, ?_, ?_⟩
    · simp only [htable, Clock.scanAll, List.map_cons]
    · exact .cons hrep hleft
    · simp only [hflag, Clock.scanAll, List.map_cons, List.all_cons, Bool.and_assoc]

/-- The call refines the scan of the family. -/
theorem dequeueMsgs_refines (radio : Radio) (tx : UInt16) {xss : List (List MessageBuffer)}
    (family : UeQueues xss) :
    ∃ r, dequeueMsgs radio tx family.queues = .ok r ∧ r.Refines true (radio.scans tx xss) :=
  dequeueLoop_refines radio tx family.live 0xFFFF true family.represents

theorem Dequeued.Refines.delivered_eq {r : Dequeued} {flag : Bool} {radio : Radio} {tx : UInt16}
    {xss : List (List MessageBuffer)} (h : r.Refines flag (radio.scans tx xss)) :
    r.delivered = (radio.clock tx).batch maxSubframeMsgs xss := by
  have hentry : ∀ ms : List MessageBuffer, ((SubframeMsgs.empty.pushAll ms).msgs).reduceOption =
      ms.take maxSubframeMsgs := by
    intro ms
    rw [SubframeMsgs.pushAll_msgs]
    unfold SubframeMsgs.empty
    rw [List.nil_append, List.length_nil, Nat.sub_zero, reduceOption_map_some]
  unfold Dequeued.delivered
  rw [h.table, List.map_map, Clock.batch]
  exact List.map_congr_left fun scan _ ↦ hentry scan.taken

/-- Queues with given live messages. -/
def UeQueues.ofLists (xss : List (List MessageBuffer))
    (hfits : ∀ xs ∈ xss, xs.length ≤ maxQueueSize) (hlive : ∀ xs ∈ xss, ∀ msg ∈ xs, msg.Live) :
    UeQueues xss where
  queues := xss.map fill
  represents := List.forall₂_map_left_iff.mpr
    (List.forall₂_same.mpr fun xs hxs ↦ represents_fill xs (hfits xs hxs))
  live := hlive

/-- What is left of live messages is live. -/
def Dequeued.Refines.rest {r : Dequeued} {flag : Bool} {radio : Radio} {tx : UInt16}
    {xss : List (List MessageBuffer)} (h : r.Refines flag (radio.scans tx xss))
    (hlive : ∀ xs ∈ xss, ∀ msg ∈ xs, msg.Live) :
    UeQueues ((radio.scans tx xss).map Scan.left) where
  queues := r.queues
  represents := h.queues
  live := by
    intro ys hys msg hmsg
    obtain ⟨xs, hxs, hmem⟩ := Clock.mem_of_mem_left hys hmsg
    exact hlive xs hxs msg hmem

end MultiUeProxy.Uplink.Dequeue
