import MultiUeProxy.Lib.Gathering
import MultiUeProxy.Segmentation.Collection

/-!
# Messages on their way to a receiver

A `Parcel` is what is sent of one message, with what a receiver makes of it: a single datagram, or
the segments of a message that was cut. The entry of a reassembly queue under a sequence number
stands for the pile of a parcel with that number (`Cut.Shows`), and storing a segment does to the
piles what `gather` does (`handleSegment_gathers`), as long as parcels with the same number do not
share a queue. So it does not matter in which order the segments of many messages arrive.
-/

set_option autoImplicit false
set_option relaxedAutoImplicit false

namespace MultiUeProxy.Segmentation.Parcels

open Lib.Execution Lib.Gathering Lib.KeyedTable P7.Header Reassembly Completeness Collection

/-! ### Storing a segment -/

/-- What the handlers of `pnf_p7.c` and `vnf_p7.c` do with a segment and the queue it belongs to.
The clock is read when an entry is opened and when the old ones are removed. -/
def handleSegment (state : RxState) (header : SegmentHeader) (bytes : List UInt8)
    (addTime removeTime : UInt32) : Outcome (List Dispatch × RxState) := do
  let (rxMsg, queue) := addSegment state.queue addTime header.sequenceNum header.segmentNum header.m
    bytes
  if rxMsg.Complete then
    let (buffer, length) ← reassemble state.reassemblyBuffer rxMsg
    return ([⟨buffer.take length.toNat, rxMsg.rxHrTime⟩],
      { queue := removeOldMsgs (removeMsg queue rxMsg) removeTime staleDelta
        reassemblyBuffer := buffer })
  else return ([], { state with queue := removeOldMsgs queue removeTime staleDelta })

/-- The handler of `pnf_p7.c` uses the time at which the datagram was read for both. -/
theorem handleAccepted_of_segment {state : RxState} {header : SegmentHeader} {msg : Datagram}
    (h : ¬ header.IsWhole) (rxHrTime : UInt32) :
    handleAccepted state header msg rxHrTime =
      handleSegment state header msg.bytes rxHrTime rxHrTime := by
  unfold handleAccepted handleSegment
  rw [if_neg h]

/-! ### Parcels -/

section Parcels

variable {crc32 : UInt32 → List UInt8 → UInt32} {checksumEnabled : Bool}

/-- A datagram that is a message of its own. -/
structure Single (crc32 : UInt32 → List UInt8 → UInt32) (checksumEnabled : Bool) where
  bytes : List UInt8
  accepted : ∀ msg : Datagram, msg.bytes = bytes → ∃ header,
    acceptMessage crc32 checksumEnabled msg = .ok (some header) ∧ header.IsWhole

/-- A message that was cut into segments. -/
structure Cut (crc32 : UInt32 → List UInt8 → UInt32) (checksumEnabled : Bool) where
  segment : ℕ → List UInt8
  count : ℕ
  number : UInt8
  numbered : Numbered crc32 checksumEnabled segment count number
  header_le : ∀ i < count, p7HeaderLength ≤ (segment i).length
  small : ((List.range count).flatMap (copied segment)).length < 2 ^ 16

/-- What is sent of a message. -/
inductive Parcel (crc32 : UInt32 → List UInt8 → UInt32) (checksumEnabled : Bool) where
  | single (s : Single crc32 checksumEnabled)
  | cut (c : Cut crc32 checksumEnabled)

namespace Parcel

/-- The number of datagrams. -/
def count : Parcel crc32 checksumEnabled → ℕ
  | single _ => 1
  | cut c => c.count

def datagram : Parcel crc32 checksumEnabled → ℕ → List UInt8
  | single s, _ => s.bytes
  | cut c, k => c.segment k

/-- The message that is dispatched when all datagrams have arrived. -/
def message : Parcel crc32 checksumEnabled → List UInt8
  | single s => s.bytes
  | cut c => (List.range c.count).flatMap (copied c.segment)

theorem count_pos (parcel : Parcel crc32 checksumEnabled) : 0 < parcel.count := by
  cases parcel with
  | single s => exact Nat.one_pos
  | cut c => exact Nat.lt_of_lt_of_le Nat.two_pos c.numbered.two_le

/-- The datagrams are those that were sent. -/
def Sends (parcel : Parcel crc32 checksumEnabled) (sent : List (List UInt8)) : Prop :=
  sent = (List.range parcel.count).map parcel.datagram

theorem Sends.length_eq {parcel : Parcel crc32 checksumEnabled} {sent : List (List UInt8)}
    (h : parcel.Sends sent) : sent.length = parcel.count := by
  rw [h, List.length_map, List.length_range]

theorem Sends.getElem?_eq {parcel : Parcel crc32 checksumEnabled} {sent : List (List UInt8)}
    (h : parcel.Sends sent) {part : ℕ} {bytes : List UInt8} (hbytes : sent[part]? = some bytes) :
    part < parcel.count ∧ bytes = parcel.datagram part := by
  have hpart := (List.getElem?_eq_some_iff.mp hbytes).1
  rw [h.length_eq] at hpart
  rw [h, List.getElem?_map, List.getElem?_range hpart] at hbytes
  exact ⟨hpart, (Option.some.inj hbytes).symm⟩

end Parcel

/-! ### Entries and piles -/

/-- The entry under the number of a message has the segments that are on its pile. -/
def Cut.Shows (c : Cut crc32 checksumEnabled) (queue : ReassemblyQueue) :
    Option (Pile UInt32) → Prop
  | none => queue.lookup c.number = none
  | some pile => ∃ msg, queue.lookup c.number = some msg ∧
      Collected c.segment c.count pile.opened pile.parts msg

section Shows

variable {c : Cut crc32 checksumEnabled} {queue next : ReassemblyQueue}
  {pile : Option (Pile UInt32)} {k : ℕ}

/-- Operations on other entries leave the pile as it is. -/
theorem Cut.Shows.congr (h : c.Shows queue pile)
    (hlookup : next.lookup c.number = queue.lookup c.number) : c.Shows next pile := by
  cases pile with
  | none => exact hlookup.trans h
  | some pile =>
    obtain ⟨msg, hmsg, hcollected⟩ := h
    exact ⟨msg, hlookup.trans hmsg, hcollected⟩

/-- The pile is given up when the entry is removed for its age. -/
theorem Cut.Shows.removeOldMsgs (h : c.Shows queue pile) (time : UInt32) :
    c.Shows (removeOldMsgs queue time staleDelta)
      (pile.filter fun pile ↦ !decide (time - pile.opened > staleDelta)) := by
  have hfilter : (Reassembly.removeOldMsgs queue time staleDelta).lookup c.number =
      (queue.lookup c.number).filter fun msg ↦ !decide (Stale time staleDelta msg) :=
    KeyedList.lookup_filter
  cases pile with
  | none =>
    have hnone : queue.lookup c.number = none := h
    rw [hnone] at hfilter
    exact hfilter
  | some pile =>
    obtain ⟨msg, hmsg, hcollected⟩ := h
    have hage : (!decide (Stale time staleDelta msg)) =
        !decide (time - pile.opened > staleDelta) := by
      show (!decide (time - msg.rxHrTime > staleDelta)) = _
      rw [hcollected.time]
    rw [hmsg, Option.filter_some, hage] at hfilter
    rw [Option.filter_some]
    cases hold : !decide (time - pile.opened > staleDelta) with
    | false =>
      rw [hold] at hfilter
      exact hfilter
    | true =>
      rw [hold] at hfilter
      exact ⟨msg, hfilter, hcollected⟩

/-- The entry that gets a segment has those of the pile with one more part. -/
theorem Cut.Shows.collected (h : c.Shows queue pile) (time : UInt32) (hk : k < c.count)
    (hroom : (addTo pile k time).parts.length ≤ c.count) :
    Collected c.segment c.count (addTo pile k time).opened (addTo pile k time).parts
      (addSegment queue time (headerOf (c.segment k)).sequenceNum
        (headerOf (c.segment k)).segmentNum (headerOf (c.segment k)).m (c.segment k)).1 := by
  have hsequence := c.numbered.sequenceNum k hk
  cases pile with
  | none =>
    have hnone : queue.lookup (headerOf (c.segment k)).sequenceNum = none := hsequence ▸ h
    rw [addSegment_of_none _ _ _ _ hnone]
    exact collected_ofSegment c.numbered hk
  | some pile =>
    obtain ⟨msg, hmsg, hcollected⟩ := h
    rw [← hsequence] at hmsg
    rw [addSegment_of_some hmsg]
    exact hcollected.addSegment c.numbered hk hroom

/-- With a part that completes the pile, the message is put together. -/
theorem Cut.reassembles {rxMsg : RxMessage} {first : UInt32} {parts : List ℕ}
    (h : Collected c.segment c.count first parts rxMsg) (hall : ∀ i < c.count, i ∈ parts)
    (buffer : List UInt8) :
    ∃ result length, reassemble buffer rxMsg = .ok (result, length) ∧
      result.take length.toNat = (Parcel.cut c).message := by
  have hlast : c.count - 1 ∈ parts := by
    apply hall
    have htwo := c.numbered.two_le
    omega
  have hexpected := h.expected
  rw [if_pos hlast] at hexpected
  have hsegments : ∀ i < c.count, rxMsg.segments i = some (c.segment i) := fun i hi ↦ by
    rw [h.segments, if_pos (hall i hi)]
  exact reassemble_eq hexpected c.numbered.le_max hsegments c.header_le c.small buffer

end Shows

/-! ### Storing and gathering -/

section Gathers

variable {ι : Type} {parcel : ι → Parcel crc32 checksumEnabled}
  {piles : ι → Option (Pile UInt32)} {past : List (ι × ℕ)}

/-- The queue shows the piles of the parcels that share it, and no two of these have the same
number. -/
structure ShowsAll (parcel : ι → Parcel crc32 checksumEnabled) (Here : ι → Prop)
    (queue : ReassemblyQueue) (piles : ι → Option (Pile UInt32)) : Prop where
  shows : ∀ i c, Here i → parcel i = .cut c → c.Shows queue (piles i)
  distinct : ∀ i j c d, Here i → Here j → parcel i = .cut c → parcel j = .cut d →
    c.number = d.number → i = j

/-- The entries that are removed for their age are those whose piles are given up. -/
theorem ShowsAll.removeOldMsgs {Here : ι → Prop} {queue : ReassemblyQueue} {a : Arrival ι UInt32}
    {removeTime : UInt32} (h : ShowsAll parcel Here queue piles)
    (hgives : ∀ i opened, Here i → a.givesUp i opened = decide (removeTime - opened > staleDelta)) :
    ShowsAll parcel Here (removeOldMsgs queue removeTime staleDelta) (expire a piles) where
  shows i c hi hc := by
    have hshows := (h.shows i c hi hc).removeOldMsgs removeTime
    have hage : (fun pile : Pile UInt32 ↦ !a.givesUp i pile.opened) = fun pile ↦
        !decide (removeTime - pile.opened > staleDelta) := by
      funext pile
      rw [hgives i pile.opened hi]
    rw [expire, hage]
    exact hshows
  distinct := h.distinct

variable [DecidableEq ι]

/-- A change of one entry is a change of one pile. -/
theorem ShowsAll.update {Here : ι → Prop} {queue next : ReassemblyQueue} {i : ι}
    {c : Cut crc32 checksumEnabled} {pile : Option (Pile UInt32)}
    (h : ShowsAll parcel Here queue piles) (hi : Here i) (hc : parcel i = .cut c)
    (hother : ∀ number, number ≠ c.number → next.lookup number = queue.lookup number)
    (hpile : c.Shows next pile) : ShowsAll parcel Here next (Function.update piles i pile) where
  shows j d hj hd := by
    by_cases hji : j = i
    · subst hji
      rw [hc] at hd
      cases hd
      rwa [Function.update_self]
    · rw [Function.update_of_ne hji]
      refine (h.shows j d hj hd).congr (hother _ fun hnumber ↦ ?_)
      exact hji (h.distinct j i d c hj hi hd hc hnumber)
  distinct := h.distinct

/-- A segment is stored as its part is put on the pile, and the message that is dispatched is that
of the parcel that is complete. -/
theorem handleSegment_gathers {Here : ι → Prop} {state : RxState} {a : Arrival ι UInt32}
    {c : Cut crc32 checksumEnabled} {removeTime : UInt32}
    (h : ShowsAll parcel Here state.queue piles) (hhere : Here a.parcel)
    (hcut : parcel a.parcel = .cut c) (hpart : a.part < c.count) (hnew : a.label ∉ past)
    (hsound : Sound (fun i ↦ (parcel i).count) past piles)
    (hgives : ∀ i opened, Here i → a.givesUp i opened = decide (removeTime - opened > staleDelta)) :
    ∃ dispatched next, handleSegment state (headerOf (c.segment a.part)) (c.segment a.part) a.time
        removeTime = .ok (dispatched, next) ∧
      dispatched.map Dispatch.message =
        (gather (fun i ↦ (parcel i).count) piles a).1.toList.map (fun i ↦ (parcel i).message) ∧
      ShowsAll parcel Here next.queue (gather (fun i ↦ (parcel i).count) piles a).2 := by
  have hcount : (parcel a.parcel).count = c.count := by
    rw [hcut]
    rfl
  have hadded := hsound.addTo hnew (hcount ▸ hpart)
  have hroom := hsound.length_addTo_le (a := a) (hcount ▸ hpart)
  have hcollected := (h.shows a.parcel c hhere hcut).collected a.time hpart (hcount ▸ hroom)
  have hlookup := lookup_addSegment state.queue a.time (headerOf (c.segment a.part)).sequenceNum
    (headerOf (c.segment a.part)).segmentNum (headerOf (c.segment a.part)).m (c.segment a.part)
  unfold handleSegment
  rcases hadd : addSegment state.queue a.time (headerOf (c.segment a.part)).sequenceNum
    (headerOf (c.segment a.part)).segmentNum (headerOf (c.segment a.part)).m (c.segment a.part)
    with ⟨rxMsg, queue⟩
  rw [hadd] at hcollected hlookup
  rw [c.numbered.sequenceNum a.part hpart] at hlookup
  have hentry : queue.lookup c.number = some rxMsg := (hlookup c.number).trans (if_pos rfl)
  have hother : ∀ number, number ≠ c.number →
      queue.lookup number = state.queue.lookup number := fun number hne ↦
    (hlookup number).trans (if_neg hne.symm)
  have hnumber : rxMsg.sequenceNumber = c.number := (KeyedList.lookup_eq_some.mp hentry).2
  by_cases hlength : (addTo (piles a.parcel) a.part a.time).parts.length = (parcel a.parcel).count
  · -- the last segment
    have hall : ∀ i < c.count, i ∈ (addTo (piles a.parcel) a.part a.time).parts := fun i hi ↦
      hadded.mem_of_length hlength (hcount ▸ hi)
    have hlast : c.count - 1 ∈ (addTo (piles a.parcel) a.part a.time).parts := by
      apply hall
      omega
    have hcomplete : rxMsg.Complete := hcollected.complete (hlength.trans hcount) hlast
    obtain ⟨buffer, length, hreassemble, hmessage⟩ :=
      c.reassembles hcollected hall state.reassemblyBuffer
    rw [gather_of_complete hlength]
    refine ⟨[⟨buffer.take length.toNat, rxMsg.rxHrTime⟩], ⟨removeOldMsgs (removeMsg queue rxMsg)
      removeTime staleDelta, buffer⟩, ?_, ?_, ?_⟩
    · simp only [if_pos hcomplete, hreassemble, ok_bind, pure_eq_ok]
    · show [buffer.take length.toNat] = [(parcel a.parcel).message]
      rw [hmessage, hcut]
    · refine ShowsAll.removeOldMsgs (h.update hhere hcut (fun number hne ↦ ?_) ?_) hgives
      · refine (KeyedList.lookup_congr fun entry hkey ↦ ?_).trans (hother number hne)
        rw [removeMsg, KeyedList.mem_erase]
        refine and_iff_left fun heq ↦ hne ?_
        rw [← hkey, heq, hnumber]
      · apply KeyedList.lookup_eq_none.mpr
        intro entry hmem
        rw [← hnumber]
        exact (KeyedList.mem_erase.mp hmem).2
  · have hless : (addTo (piles a.parcel) a.part a.time).parts.length < c.count := by omega
    have hincomplete : ¬ rxMsg.Complete := hcollected.not_complete c.numbered.le_max hless
    rw [gather_of_incomplete hlength]
    refine ⟨[], { state with queue := removeOldMsgs queue removeTime staleDelta }, ?_, rfl, ?_⟩
    · simp only [if_neg hincomplete, pure_eq_ok]
    · refine ShowsAll.removeOldMsgs (h.update hhere hcut hother ?_) hgives
      exact ⟨rxMsg, hentry, hcollected⟩

/-- A message that is not cut is complete when it arrives, and no entry is touched. -/
theorem gather_single {a : Arrival ι UInt32} {s : Single crc32 checksumEnabled}
    (hsingle : parcel a.parcel = .single s)
    (hsound : Sound (fun i ↦ (parcel i).count) past piles) :
    gather (fun i ↦ (parcel i).count) piles a =
      (some a.parcel, expire a (Function.update piles a.parcel none)) := by
  have hcount : (parcel a.parcel).count = 1 := by
    rw [hsingle]
    rfl
  apply gather_of_complete
  show _ = (parcel a.parcel).count
  rw [hcount]
  cases hpile : piles a.parcel with
  | none => rfl
  | some pile =>
    have hfew := hsound.incomplete a.parcel pile hpile
    show pile.parts.length + 1 = 1
    change pile.parts.length < (parcel a.parcel).count at hfew
    omega

/-- A pile of a message that is not cut is shown by no queue. -/
theorem ShowsAll.update_single {Here : ι → Prop} {queue : ReassemblyQueue} {i : ι}
    {s : Single crc32 checksumEnabled} (h : ShowsAll parcel Here queue piles)
    (hsingle : parcel i = .single s) (pile : Option (Pile UInt32)) :
    ShowsAll parcel Here queue (Function.update piles i pile) where
  shows j c hj hc := by
    have hji : j ≠ i := by
      rintro rfl
      rw [hsingle] at hc
      cases hc
    rw [Function.update_of_ne hji]
    exact h.shows j c hj hc
  distinct := h.distinct

end Gathers

end Parcels

/-! ### Deliveries -/

section Deliveries

variable {ι : Type}

/-- A datagram that arrives, of those that were sent of the messages with an index. -/
structure Delivery (sent : ι → List (List UInt8)) (τ : Type) where
  index : ι
  part : ℕ
  datagram : Datagram
  bytes_eq : (sent index)[part]? = some datagram.bytes
  time : τ

/-- The datagram of a delivery. -/
def Delivery.label {sent : ι → List (List UInt8)} {τ : Type} (d : Delivery sent τ) : ι × ℕ :=
  (d.index, d.part)

/-- A delivery to the receiver of `pnf_p7.c` as an arrival: every one of them gives up the entries
that are too old. -/
def Delivery.atPnf {sent : ι → List (List UInt8)} (d : Delivery sent UInt32) :
    Arrival ι UInt32 where
  parcel := d.index
  part := d.part
  time := d.time
  givesUp := fun _ opened ↦ decide (d.time - opened > staleDelta)

/-- No datagram is delivered twice. -/
def Once {sent : ι → List (List UInt8)} {τ : Type} (deliveries : List (Delivery sent τ)) : Prop :=
  (deliveries.map Delivery.label).Nodup

/-- All datagrams of a message are delivered. -/
def AllDelivered {sent : ι → List (List UInt8)} {τ : Type} (deliveries : List (Delivery sent τ))
    (i : ι) : Prop :=
  ∀ k < (sent i).length, (i, k) ∈ deliveries.map Delivery.label

/-- Deliveries, each made once, are arrivals of different parts. -/
theorem Once.fresh {sent : ι → List (List UInt8)} {τ : Type} {deliveries : List (Delivery sent τ)}
    (h : Once deliveries) {arrival : Delivery sent τ → Arrival ι UInt32}
    (hlabel : ∀ d, (arrival d).label = d.label) :
    Fresh (fun i ↦ (sent i).length) [] (deliveries.map arrival) where
  nodup := by
    have hlabels : (deliveries.map arrival).map Arrival.label = deliveries.map Delivery.label := by
      rw [List.map_map]
      exact List.map_congr_left fun d _ ↦ hlabel d
    rw [List.nil_append, hlabels]
    exact h
  part_lt a ha := by
    obtain ⟨d, -, rfl⟩ := List.mem_map.mp ha
    have hpart := (List.getElem?_eq_some_iff.mp d.bytes_eq).1
    have hboth := hlabel d
    rw [Arrival.label, Delivery.label, Prod.mk.injEq] at hboth
    rwa [hboth.1, hboth.2]

end Deliveries

/-! ### The receiver of `pnf_p7.c` -/

section Pnf

variable {crc32 : UInt32 → List UInt8 → UInt32} {checksumEnabled : Bool} {ι : Type} [DecidableEq ι]
  {parcel : ι → Parcel crc32 checksumEnabled} {sent : ι → List (List UInt8)}

/-- The one queue of the receiver shows all piles. -/
def QueueShows (parcel : ι → Parcel crc32 checksumEnabled) (state : RxState)
    (piles : ι → Option (Pile UInt32)) : Prop :=
  ShowsAll parcel (fun _ ↦ True) state.queue piles

/-- A delivery is handled as it is gathered. -/
theorem receive_gathers (hsent : ∀ i, (parcel i).Sends (sent i)) {piles : ι → Option (Pile UInt32)}
    {past : List (ι × ℕ)} {state : RxState} (d : Delivery sent UInt32)
    (h : QueueShows parcel state piles)
    (hsound : Sound (fun i ↦ (sent i).length) past piles) (hnew : d.label ∉ past) :
    ∃ dispatched next, receive crc32 checksumEnabled state (d.datagram, d.time) =
        .ok (dispatched, next) ∧
      dispatched.map Dispatch.message = (gather (fun i ↦ (sent i).length) piles
        d.atPnf).1.toList.map (fun i ↦ (parcel i).message) ∧
      QueueShows parcel next (gather (fun i ↦ (sent i).length) piles d.atPnf).2 := by
  have hcount : (fun i ↦ (sent i).length) = fun i ↦ (parcel i).count := by
    funext i
    exact (hsent i).length_eq
  rw [hcount] at hsound ⊢
  obtain ⟨hpart, hbytes⟩ := (hsent d.index).getElem?_eq d.bytes_eq
  cases hform : parcel d.index with
  | single s =>
    rw [hform] at hbytes
    obtain ⟨header, haccept, hwhole⟩ := s.accepted d.datagram hbytes
    rw [gather_single (a := d.atPnf) hform hsound]
    refine ⟨[⟨d.datagram.bytes, d.time⟩], _, handleP7Message_eq_ok.mpr (.whole haccept hwhole), ?_,
      (ShowsAll.update_single h hform none).removeOldMsgs fun _ _ _ ↦ rfl⟩
    show [d.datagram.bytes] = [(parcel d.index).message]
    rw [hform, hbytes]
    rfl
  | cut c =>
    rw [hform] at hbytes hpart
    change d.datagram.bytes = c.segment d.part at hbytes
    have haccept := c.numbered.accepted d.part hpart d.datagram hbytes
    obtain ⟨dispatched, next, hhandle, hmessages, hshows⟩ := handleSegment_gathers
      (a := d.atPnf) h trivial hform hpart hnew hsound fun _ _ _ ↦ rfl
    refine ⟨dispatched, next, ?_, hmessages, hshows⟩
    show handleP7Message crc32 checksumEnabled state d.datagram d.time = _
    unfold handleP7Message
    rw [haccept, ok_bind]
    show handleAccepted state _ d.datagram d.time = _
    rw [handleAccepted_of_segment (c.numbered.not_isWhole hpart), hbytes]
    exact hhandle

end Pnf

end MultiUeProxy.Segmentation.Parcels
