import MultiUeProxy.Lib.TimedBatch.Extras
import MultiUeProxy.Uplink.Dequeue

/-!
# What one call of the dequeue functions delivers

Three results on `dequeueMsgs`, for either radio, any number of UEs and any contents of their
queues. `dequeueMsgs_conserves`: a call splits every queue into a consumed prefix and the rest,
delivers the first messages of the prefix that it does not discard, and repeated calls drain any
backlog. `dequeueMsgs_uniform_iff`: the delivered messages have one time exactly when no message
with the time `0xFFFF` gets in the way. `dequeueMsgs_extra_iff`: discardable messages in the queues
leave the result as it is exactly under the condition `HarmlessAt`; the call adopts the first time
it reads as its reference before it looks whether that time is stale.
-/

set_option autoImplicit false
set_option relaxedAutoImplicit false

namespace MultiUeProxy.Uplink.Batch

open Lib.Execution Lib.TimedBatch Queue.Operations Queue.DequeRefinement P7.Header Message Dequeue

/-! ### Discardable messages -/

/-- The messages that a call frees without delivering them, at whatever place it meets them:
dummies, messages without a readable time and stale ones. -/
def discards (radio : Radio) (tx : UInt16) (msg : MessageBuffer) : Bool :=
  msg.length = 4 || match radio.peek msg with
    | .ok none => true
    | .ok (some time) => radio.stale tx time
    | .error _ => false

theorem discards_eq {radio : Radio} {tx : UInt16} {msg : MessageBuffer}
    (h : msg.length ≤ rxIndDataMax) :
    discards radio tx msg = !(radio.clock tx).fresh msg := by
  unfold discards
  rw [radio.peek_eq h]
  cases htime : radio.time msg with
  | none =>
    have hread : (radio.clock tx).time msg = none := htime
    simp [Clock.fresh_of_none hread]
  | some time =>
    have hread : (radio.clock tx).time msg = some time := htime
    have hlength : msg.length ≠ 4 := by
      intro h4
      rw [radio.time_of_dummy h4] at htime
      cases htime
    rw [Clock.fresh_of_some hread, Bool.not_not]
    simp [hlength, Radio.clock]

theorem fresh_of_discards {radio : Radio} {tx : UInt16} {msg : MessageBuffer}
    (h : discards radio tx msg = true) : (radio.clock tx).fresh msg = false := by
  by_cases hfits : msg.length ≤ rxIndDataMax
  · rw [discards_eq hfits] at h
    simpa using h
  · have hlength : msg.length ≠ 4 := fun h4 ↦ hfits (by rw [h4]; decide)
    unfold discards at h
    rw [radio.peek_of_not_fits hfits] at h
    simp [hlength] at h

theorem filter_fresh_eq {radio : Radio} {tx : UInt16} {ms : List MessageBuffer}
    (hlive : ∀ msg ∈ ms, msg.Live) :
    ms.filter (radio.clock tx).fresh = ms.filter fun msg ↦ !discards radio tx msg :=
  List.filter_congr fun msg hmsg ↦ by rw [discards_eq (hlive msg hmsg).length_le, Bool.not_not]

/-! ### Conservation and progress -/

/-- Calls at the times `txs`, with no message put into the queues meanwhile. -/
def dequeueRepeatedly (radio : Radio) (txs : List UInt16)
    (queues : List (QueueT MessageBuffer)) : Outcome (List (QueueT MessageBuffer)) :=
  txs.foldlM (fun queues tx ↦ do return (← dequeueMsgs radio tx queues).queues) queues

/-- As many calls as there are messages empty the queues. -/
theorem dequeueRepeatedly_drains (radio : Radio) (txs : List UInt16)
    {xss : List (List MessageBuffer)} (family : UeQueues xss)
    (hbacklog : xss.flatten.length ≤ txs.length) :
    ∃ queues, dequeueRepeatedly radio txs family.queues = .ok queues ∧
      ∀ queue ∈ queues, queue.numItems = 0 := by
  induction txs generalizing xss with
  | nil =>
    refine ⟨family.queues, rfl, fun queue hqueue ↦ ?_⟩
    have hnone : ∀ xs ∈ xss, xs = [] := List.flatten_eq_nil_iff.mp
      (List.eq_nil_of_length_eq_zero (Nat.le_zero.mp hbacklog))
    obtain ⟨xs, hxs, hrep⟩ := exists_related family.represents hqueue
    rw [hrep.count, hnone xs hxs, List.length_nil]
  | cons tx txs ih =>
    obtain ⟨r, hcall, hrefines⟩ := dequeueMsgs_refines radio tx family
    have hless : ((radio.scans tx xss).map Scan.left).flatten.length ≤ txs.length := by
      by_cases hempty : ∃ xs ∈ xss, xs ≠ []
      · have hconsumed := (radio.clock tx).exists_consumed hempty
        exact Nat.lt_succ_iff.mp (hconsumed.trans_le hbacklog)
      · push Not at hempty
        have hnone : ∀ ys ∈ (radio.scans tx xss).map Scan.left, ys = [] := fun ys hys ↦
          List.eq_nil_iff_forall_not_mem.mpr fun m hm ↦ by
            obtain ⟨xs, hxs, hmem⟩ := Clock.mem_of_mem_left hys hm
            rw [hempty xs hxs] at hmem
            cases hmem
        rw [List.flatten_eq_nil_iff.mpr hnone]
        exact Nat.zero_le _
    obtain ⟨queues, hrun, hdrained⟩ := ih (hrefines.rest family.live) hless
    refine ⟨queues, ?_, hdrained⟩
    unfold dequeueRepeatedly
    rw [List.foldlM_cons, hcall, ok_bind, pure_eq_ok, ok_bind]
    exact hrun

/-- A call returns, and it conserves messages: every queue is a consumed prefix followed by what
stays in it, the call delivers the first `maxSubframeMsgs` consumed messages that it does not
discard, and its flag says whether all queues are empty afterwards. If there was a message, then
one has been consumed, and as many calls as there are messages, at any times, empty the queues. -/
theorem dequeueMsgs_conserves (radio : Radio) {xss : List (List MessageBuffer)}
    (family : UeQueues xss) :
    (∀ tx, ∃ (r : Dequeued) (consumed left : List (List MessageBuffer)),
      dequeueMsgs radio tx family.queues = .ok r ∧
      consumed.length = xss.length ∧ left.length = xss.length ∧
      xss = List.zipWith (· ++ ·) consumed left ∧
      List.Forall₂ Represents r.queues left ∧
      r.delivered = consumed.map (fun ms ↦
        (ms.filter fun msg ↦ !discards radio tx msg).take maxSubframeMsgs) ∧
      (r.areQueuesEmpty = true ↔ ∀ ms ∈ left, ms = []) ∧
      ((∃ xs ∈ xss, xs ≠ []) → ∃ ms ∈ consumed, ms ≠ [])) ∧
    ∀ txs : List UInt16, xss.flatten.length ≤ txs.length →
      ∃ queues, dequeueRepeatedly radio txs family.queues = .ok queues ∧
        ∀ queue ∈ queues, queue.numItems = 0 := by
  refine ⟨fun tx ↦ ?_, fun txs ↦ dequeueRepeatedly_drains radio txs family⟩
  obtain ⟨r, hcall, hrefines⟩ := dequeueMsgs_refines radio tx family
  obtain ⟨consumed, hprefix, hsplit, htaken⟩ := (radio.clock tx).scanAll_consumes 0xFFFF xss
  have hleft : ((radio.scans tx xss).map Scan.left).length = xss.length := by
    unfold Radio.scans
    rw [List.length_map, Clock.scanAll_length]
  refine ⟨r, consumed, _, hcall, hprefix.length_eq, hleft, hsplit, hrefines.queues, ?_, ?_, ?_⟩
  · have hbatch : r.delivered = ((radio.scans tx xss).map Scan.taken).map
        (List.take maxSubframeMsgs) := by
      rw [hrefines.delivered_eq, Clock.batch, List.map_map]
      rfl
    rw [hbatch, Radio.scans, htaken, List.map_map]
    exact List.map_congr_left fun ms hms ↦ congrArg _ (filter_fresh_eq fun msg hmsg ↦ by
      obtain ⟨xs, hxs, hle⟩ := exists_related hprefix hms
      exact family.live xs hxs msg (hle.subset hmsg))
  · rw [hrefines.flag, Bool.true_and, List.all_eq_true]
    simp only [List.isEmpty_iff]
  · exact fun hsome ↦ Clock.exists_consumed_ne_nil hsome hsplit

/-! ### One time in a batch -/

/-- A delivered message comes from one of the queues. -/
theorem mem_of_mem_delivered {radio : Radio} {tx : UInt16} {xss : List (List MessageBuffer)}
    {msg : MessageBuffer}
    (hmsg : msg ∈ ((radio.clock tx).batch maxSubframeMsgs xss).flatten) :
    ∃ xs ∈ xss, msg ∈ xs := by
  obtain ⟨consumed, hprefix, -, htaken⟩ := (radio.clock tx).scanAll_consumes 0xFFFF xss
  obtain ⟨ms, hms, hmem⟩ := List.mem_flatten.mp hmsg
  obtain ⟨scan, hscan, rfl⟩ := List.mem_map.mp hms
  have hfilter : scan.taken ∈ consumed.map (List.filter (radio.clock tx).fresh) :=
    htaken ▸ List.mem_map_of_mem hscan
  obtain ⟨front, hfront, heq⟩ := List.mem_map.mp hfilter
  obtain ⟨xs, hxs, hle⟩ := exists_related hprefix hfront
  have hfresh : msg ∈ front.filter (radio.clock tx).fresh := heq ▸ List.mem_of_mem_take hmem
  exact ⟨xs, hxs, hle.subset (List.mem_of_mem_filter hfresh)⟩

/-- The delivered messages have one time exactly when the first readable message with a time other
than `0xFFFF`, if there is one, has no readable message in front of it, or is stale, or is kept
out by the cap while no later queue starts with its time. -/
theorem dequeueMsgs_uniform_iff (radio : Radio) (tx : UInt16) {xss : List (List MessageBuffer)}
    (family : UeQueues xss) :
    ∃ r, dequeueMsgs radio tx family.queues = .ok r ∧
      ((∀ msg ∈ r.delivered.flatten, ∀ msg' ∈ r.delivered.flatten,
          radio.peek msg = radio.peek msg') ↔
        ∀ leader : Clock.Leader (radio.clock tx) xss, Clock.UniformAt maxSubframeMsgs leader) := by
  obtain ⟨r, hcall, hrefines⟩ := dequeueMsgs_refines radio tx family
  refine ⟨r, hcall, ?_⟩
  rw [← Clock.uniform_iff (by decide) (radio.unset_fresh tx), Clock.Uniform, hrefines.delivered_eq]
  refine forall₂_congr fun msg hmsg ↦ forall₂_congr fun msg' hmsg' ↦ ?_
  obtain ⟨xs, hxs, hmem⟩ := mem_of_mem_delivered hmsg
  obtain ⟨xs', hxs', hmem'⟩ := mem_of_mem_delivered hmsg'
  rw [radio.peek_eq (family.live xs hxs msg hmem).length_le,
    radio.peek_eq (family.live xs' hxs' msg' hmem').length_le, Except.ok.injEq]
  rfl

/-- A CRC indication without PDUs at a given `sfn_sf`. -/
def crcAt (sfnSf : UInt16) : MessageBuffer :=
  .ofBytes (fun _ ↦ 0) ([0, 0, 0, 0x86, 0, 0, 0, 0, 0, 0, 0, 0, 0, 0, 0, 0,
    (sfnSf >>> 8).toUInt8, sfnSf.toUInt8])

theorem crcAt_live (sfnSf : UInt16) : (crcAt sfnSf).Live :=
  MessageBuffer.ofBytes_live (by simp [rxIndDataMax])

/-- A UE sends the time `0xFFFF` and then another one. -/
def mixedTimes : UeQueues [[crcAt 0xFFFF, crcAt 0x0010]] :=
  .ofLists _ (by decide) (by simp [crcAt_live])

theorem mixedTimes_not_uniform :
    ∃ r, dequeueUeMsgs 0x0010 mixedTimes.queues = .ok r ∧
      ¬ ∀ msg ∈ r.delivered.flatten, ∀ msg' ∈ r.delivered.flatten,
        getSfnsf msg = getSfnsf msg' := by
  obtain ⟨r, hcall, hrefines⟩ := dequeueMsgs_refines .lte 0x0010 mixedTimes
  refine ⟨r, hcall, fun hall ↦ ?_⟩
  have hdelivered : r.delivered = [[crcAt 0xFFFF, crcAt 0x0010]] := by
    rw [hrefines.delivered_eq]
    rfl
  have hsame := hall (crcAt 0xFFFF) (by rw [hdelivered]; simp) (crcAt 0x0010)
    (by rw [hdelivered]; simp)
  rw [getSfnsf_eq (by decide), getSfnsf_eq (by decide), Except.ok.injEq] at hsame
  revert hsame
  decide

/-! ### Extra messages -/

/-- A message that may be marked as extra if the call at the time `tx` discards it. -/
@[ext] structure Marked (radio : Radio) (tx : UInt16) where
  msg : MessageBuffer
  extra : Bool
  discardable : extra = true → discards radio tx msg = true

namespace Marked

variable {radio : Radio} {tx : UInt16}

/-- The messages of the queues, extra ones included. -/
def all (marked : List (List (Marked radio tx))) : List (List MessageBuffer) :=
  marked.map (List.map msg)

/-- The messages of the queues without the extra ones. -/
def own (marked : List (List (Marked radio tx))) : List (List MessageBuffer) :=
  all (marked.map (Clock.own extra))

/-- How a call reads marked messages. -/
def clock (radio : Radio) (tx : UInt16) : Clock (Marked radio tx) UInt16 :=
  (radio.clock tx).comap msg

theorem fresh_of_extra (m : Marked radio tx) (h : m.extra = true) :
    (clock radio tx).fresh m = false :=
  fresh_of_discards (m.discardable h)

theorem scans_all (marked : List (List (Marked radio tx))) :
    radio.scans tx (all marked) =
      ((clock radio tx).scanAll 0xFFFF marked).map (Scan.map msg) :=
  Clock.scanAll_map (radio.clock tx) msg 0xFFFF marked

/-- A message without a mark. -/
def plain (msg : MessageBuffer) : Marked radio tx := ⟨msg, false, fun h ↦ by cases h⟩

/-- Fresh messages have no mark. -/
theorem plain_msg_of_fresh {m : Marked radio tx} (h : (clock radio tx).fresh m = true) :
    plain m.msg = m := by
  cases hextra : m.extra with
  | true =>
    rw [fresh_of_extra m hextra] at h
    cases h
  | false => exact Marked.ext rfl hextra.symm

theorem plain_msg_filter (ms : List (Marked radio tx)) :
    (ms.filter (clock radio tx).fresh).map (fun m ↦ plain m.msg) =
      ms.filter (clock radio tx).fresh :=
  calc (ms.filter (clock radio tx).fresh).map (fun m ↦ plain m.msg)
      = (ms.filter (clock radio tx).fresh).map id :=
        List.map_congr_left fun _ hm ↦ plain_msg_of_fresh (List.mem_filter.mp hm).2
    _ = ms.filter (clock radio tx).fresh := List.map_id _

end Marked

/-- The messages that are left in the queues and that the call does not class as discardable. -/
def keptMessages (radio : Radio) (tx : UInt16) (r : Dequeued) : List (List MessageBuffer) :=
  r.queues.map fun queue ↦ (window queue).reduceOption.filter fun msg ↦ !discards radio tx msg

section Extra

variable {radio : Radio} {tx : UInt16} {marked : List (List (Marked radio tx))} {r : Dequeued}

/-- What is delivered, in terms of marked messages. -/
theorem delivered_eq_marked (h : r.Refines true (radio.scans tx (Marked.all marked))) :
    r.delivered = (((Marked.clock radio tx).scanAll 0xFFFF marked).map Scan.taken).map
      fun ms ↦ (ms.map Marked.msg).take maxSubframeMsgs := by
  have hscans := Marked.scans_all marked
  rw [Radio.scans] at hscans
  rw [h.delivered_eq, Clock.batch]
  change ((radio.clock tx).scanAll 0xFFFF (Marked.all marked)).map _ = _
  rw [hscans, List.map_map, List.map_map]
  rfl

/-- What is kept, in terms of marked messages. -/
theorem keptMessages_eq_marked (h : r.Refines true (radio.scans tx (Marked.all marked)))
    (family : UeQueues (Marked.all marked)) :
    keptMessages radio tx r = (((Marked.clock radio tx).scanAll 0xFFFF marked).map
      fun s ↦ s.left.filter (Marked.clock radio tx).fresh).map (List.map Marked.msg) := by
  have hkept : keptMessages radio tx r = ((radio.scans tx (Marked.all marked)).map Scan.left).map
      fun ms ↦ ms.filter fun msg ↦ !discards radio tx msg := by
    have hwindows := congrArg (List.map fun cells ↦ cells.reduceOption.filter fun msg ↦
      !discards radio tx msg) (windows_eq h.queues)
    simpa only [List.map_map, Function.comp_def, reduceOption_map_some, keptMessages] using hwindows
  have hfresh : ∀ ms ∈ (radio.scans tx (Marked.all marked)).map Scan.left,
      ms.filter (fun msg ↦ !discards radio tx msg) = ms.filter (radio.clock tx).fresh :=
    fun ms hms ↦ (filter_fresh_eq fun msg hmsg ↦ by
      obtain ⟨xs, hxs, hmem⟩ := Clock.mem_of_mem_left hms hmsg
      exact family.live xs hxs msg hmem).symm
  rw [hkept, List.map_congr_left hfresh, Marked.scans_all, List.map_map, List.map_map,
    List.map_map]
  refine List.map_congr_left fun s _ ↦ ?_
  simp only [Function.comp_apply, Scan.map, List.filter_map]
  rfl

end Extra

/-- One call on a family of queues with marked messages and one call on the same queues without
the extra ones deliver the same messages and keep the same non-discardable messages exactly when
the extra messages are harmless: the first readable message with a time other than `0xFFFF`, if
there is one, is extra and the first own time behind it is stale; or it is own and stale; or it is
own and no extra message of another time stands in front of an own message that would be taken. -/
theorem dequeueMsgs_extra_iff (radio : Radio) (tx : UInt16) {marked : List (List (Marked radio tx))}
    (full : UeQueues (Marked.all marked)) (own : UeQueues (Marked.own marked)) :
    ∃ r r', dequeueMsgs radio tx full.queues = .ok r ∧ dequeueMsgs radio tx own.queues = .ok r' ∧
      ((r.delivered = r'.delivered ∧ keptMessages radio tx r = keptMessages radio tx r') ↔
        ∀ leader : Clock.Leader (Marked.clock radio tx) marked,
          Clock.HarmlessAt Marked.extra leader) := by
  obtain ⟨r, hcall, hrefines⟩ := dequeueMsgs_refines radio tx full
  obtain ⟨r', hcall', hrefines'⟩ := dequeueMsgs_refines radio tx own
  have hextra : ∀ m : Marked radio tx, m.extra = true → (Marked.clock radio tx).fresh m = false :=
    Marked.fresh_of_extra
  refine ⟨r, r', hcall, hcall', ?_⟩
  rw [← Clock.sameTaken_iff hextra (radio.unset_fresh tx), keptMessages_eq_marked hrefines full,
    keptMessages_eq_marked hrefines' own, delivered_eq_marked hrefines,
    delivered_eq_marked hrefines']
  constructor
  · rintro ⟨-, hkept⟩
    have hplain := congrArg (List.map (List.map (Marked.plain : _ → Marked radio tx))) hkept
    simp only [List.map_map, Function.comp_def, Marked.plain_msg_filter] at hplain
    exact (Clock.sameTaken_iff_left hextra marked).mpr hplain
  · intro hsame
    have htaken : ((Marked.clock radio tx).scanAll 0xFFFF marked).map Scan.taken =
      ((Marked.clock radio tx).scanAll 0xFFFF
        (marked.map (Clock.own Marked.extra))).map Scan.taken := hsame
    have hleft := (Clock.sameTaken_iff_left hextra marked).mp hsame
    exact ⟨by rw [htaken], congrArg _ hleft⟩

/-- A stale message of one UE in front of a fresh message of another UE. -/
def staleFirst : List (List (Marked .lte 0x0640)) :=
  [[⟨crcAt 0x0010, true, fun _ ↦ by decide⟩], [⟨crcAt 0x0640, false, fun h ↦ by cases h⟩]]

def staleFirstFull : UeQueues (Marked.all staleFirst) :=
  .ofLists [[crcAt 0x0010], [crcAt 0x0640]] (by decide)
    (by simp [crcAt_live])

def staleFirstOwn : UeQueues (Marked.own staleFirst) :=
  .ofLists [[], [crcAt 0x0640]] (by decide)
    (by simp [crcAt_live])

theorem staleFirst_not_same :
    ∃ r r', dequeueUeMsgs 0x0640 staleFirstFull.queues = .ok r ∧
      dequeueUeMsgs 0x0640 staleFirstOwn.queues = .ok r' ∧ r.delivered ≠ r'.delivered := by
  obtain ⟨r, hcall, hrefines⟩ := dequeueMsgs_refines .lte 0x0640 staleFirstFull
  obtain ⟨r', hcall', hrefines'⟩ := dequeueMsgs_refines .lte 0x0640 staleFirstOwn
  refine ⟨r, r', hcall, hcall', fun hsame ↦ ?_⟩
  rw [hrefines.delivered_eq, hrefines'.delivered_eq] at hsame
  have hlengths := congrArg (List.map List.length) hsame
  revert hlengths
  decide

end MultiUeProxy.Uplink.Batch
