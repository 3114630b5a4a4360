import MultiUeProxy.Segmentation.Completeness
import MultiUeProxy.Segmentation.Sender

/-!
# Messages that are in flight together

A sender numbers its messages one after the other, but the writer macro keeps four bits of the
number, so that the numbers on the wire come back after sixteen messages (`sequenceNum_of_sendAll`).
The reassembly queue has no other key. As long as no more than sixteen messages are in flight, each
entry gets the segments of one message, in whatever order they arrive and however often; with the
seventeenth, a first segment can land in the entry of another message (`keepsApart_iff`).

To say whose entry it is, a run is watched with a label on every datagram and a note, for every
sequence number, of the message that opened the entry.
-/

set_option autoImplicit false
set_option relaxedAutoImplicit false

namespace MultiUeProxy.Segmentation.InFlight

open Lib.Execution Lib.KeyedTable Lib.NumberedPieces Lib.ByteWriter P7.Header P7.Pack HeaderWord Reassembly Completeness
  Sender

/-! ### A run of the sender -/

/-- The datagrams of the messages that are sent, one list for each. -/
def sendAll (crc32 : UInt32 → List UInt8 → UInt32) (config : P7Config) :
    List (BodyEncoder × P7MessageHeader) → UInt32 → List (List (List UInt8))
  | [], _ => []
  | (encode, header) :: rest, sequenceNumber =>
    match packAndSendP7Message crc32 config encode header sequenceNumber with
    | (some datagrams, next) => datagrams :: sendAll crc32 config rest next
    | (none, next) => sendAll crc32 config rest next

/-- No two messages carry the same sequence number. -/
def DistinctNumbers (sent : List (List (List UInt8))) : Prop :=
  sent.Pairwise fun first second ↦ ∀ x ∈ first, ∀ y ∈ second,
    (headerOf x).sequenceNum ≠ (headerOf y).sequenceNum

section Numbers

variable {crc32 : UInt32 → List UInt8 → UInt32} {config : P7Config}

/-- The message with an index is cut into datagrams with the starting number plus that index in its
word. -/
theorem sendAll_getElem? (messages : List (BodyEncoder × P7MessageHeader))
    (sequenceNumber : UInt32) {index : ℕ} {datagrams : List (List UInt8)}
    (h : (sendAll crc32 config messages sequenceNumber)[index]? = some datagrams) :
    ∃ header body,
      header.mSegmentSequence = p7SetMss 0 0 (sequenceNumber + UInt32.ofNat index) ∧
      p7HeaderLength + body.length ≤ rxIndDataMax ∧
      datagrams = sendPacked crc32 config (headerBytes header ++ body) := by
  induction messages generalizing sequenceNumber index with
  | nil => cases h
  | cons message rest ih =>
    obtain ⟨encode, header⟩ := message
    rw [sendAll] at h
    rcases hsend : packAndSendP7Message crc32 config encode header sequenceNumber with
      ⟨_ | first, next⟩
    · simp only [hsend] at h
      rw [packAndSendP7Message_eq_none hsend] at h
      exact ih sequenceNumber h
    · simp only [hsend] at h
      obtain ⟨rfl, sent, body, hword, -, hlength, rfl⟩ := packAndSendP7Message_eq_some hsend
      cases index with
      | zero =>
        cases h
        refine ⟨sent, body, ?_, hlength, rfl⟩
        rw [hword]
        show _ = p7SetMss 0 0 (sequenceNumber + 0)
        rw [UInt32.add_zero]
      | succ index =>
        obtain ⟨sent, body, hword, hlength, hdatagrams⟩ := ih (sequenceNumber + 1) h
        refine ⟨sent, body, ?_, hlength, hdatagrams⟩
        rw [hword, UInt32.ofNat_add, UInt32.add_assoc, UInt32.add_comm 1]
        rfl

theorem sendPacked_ne_nil (header : P7MessageHeader) (body : List UInt8) :
    sendPacked crc32 config (headerBytes header ++ body) ≠ [] := by
  by_cases hlong : config.segBodyLen < body.length
  · rw [sendPacked_of_long hlong]
    intro hnil
    have hcount := le_segmentCount_mul config body.length
    rw [List.range_eq_nil.mp (List.map_eq_nil_iff.mp hnil), Nat.zero_mul] at hcount
    omega
  · rw [sendPacked_of_short (Nat.le_of_not_lt hlong)]
    exact List.cons_ne_nil _ _

/-- The datagrams of the message with an index carry the starting number plus that index, modulo
sixteen. -/
theorem sequenceNum_of_sendAll (messages : List (BodyEncoder × P7MessageHeader))
    (sequenceNumber : UInt32) {index : ℕ} {datagrams : List (List UInt8)}
    (h : (sendAll crc32 config messages sequenceNumber)[index]? = some datagrams) :
    datagrams ≠ [] ∧
      ∀ x ∈ datagrams, (headerOf x).sequenceNum.toNat = (sequenceNumber.toNat + index) % 16 := by
  obtain ⟨header, body, hword, -, rfl⟩ := sendAll_getElem? messages sequenceNumber h
  refine ⟨sendPacked_ne_nil header body, fun x hx ↦ ?_⟩
  rw [sequenceNum_of_mem_sendPacked _ _ _ hx, hword, UInt16.toNat_toUInt8, p7SetMss_toNat,
    UInt32.toNat_add, UInt32.toNat_ofNat']
  show (0 % 2 * 128 + (0 % 8 * 16 + (sequenceNumber.toNat + index % 2 ^ 32) % 2 ^ 32 % 16)) % 256 = _
  omega

/-- Two of the messages carry the same number exactly when the distance between them is a multiple
of sixteen. -/
theorem sequenceNum_eq_iff (messages : List (BodyEncoder × P7MessageHeader))
    (sequenceNumber : UInt32) {i j : ℕ} {first second : List (List UInt8)} {x y : List UInt8}
    (hi : (sendAll crc32 config messages sequenceNumber)[i]? = some first) (hx : x ∈ first)
    (hj : (sendAll crc32 config messages sequenceNumber)[j]? = some second) (hy : y ∈ second) :
    (headerOf x).sequenceNum = (headerOf y).sequenceNum ↔ i % 16 = j % 16 := by
  have hfirst := (sequenceNum_of_sendAll messages sequenceNumber hi).2 x hx
  have hsecond := (sequenceNum_of_sendAll messages sequenceNumber hj).2 y hy
  rw [← UInt8.toNat_inj, hfirst, hsecond]
  omega

/-- The numbers in a run are distinct exactly when it has at most sixteen messages. -/
theorem distinctNumbers_iff (messages : List (BodyEncoder × P7MessageHeader))
    (sequenceNumber : UInt32) :
    DistinctNumbers (sendAll crc32 config messages sequenceNumber) ↔
      (sendAll crc32 config messages sequenceNumber).length ≤ 16 := by
  rw [DistinctNumbers, List.pairwise_iff_getElem]
  constructor
  · intro hdistinct
    by_contra hlong
    have hzero : 0 < (sendAll crc32 config messages sequenceNumber).length := by omega
    have hsixteen : 16 < (sendAll crc32 config messages sequenceNumber).length := by omega
    have hfirst := List.getElem?_eq_getElem hzero
    have hsecond := List.getElem?_eq_getElem hsixteen
    obtain ⟨x, hx⟩ := List.exists_mem_of_ne_nil _ (sequenceNum_of_sendAll messages _ hfirst).1
    obtain ⟨y, hy⟩ := List.exists_mem_of_ne_nil _ (sequenceNum_of_sendAll messages _ hsecond).1
    refine hdistinct 0 16 hzero hsixteen (by omega) x hx y hy ?_
    rw [sequenceNum_eq_iff messages sequenceNumber hfirst hx hsecond hy]
  · intro hshort i j hi hj hlt x hx y hy heq
    rw [sequenceNum_eq_iff messages sequenceNumber (List.getElem?_eq_getElem hi) hx
      (List.getElem?_eq_getElem hj) hy] at heq
    omega

end Numbers

/-! ### A run of the receiver, watched -/

/-- A datagram with the index of its message and the time of its arrival. -/
structure Arrival where
  label : ℕ
  datagram : Datagram
  time : UInt32

/-- The receiver, and the message whose segment opened the entry under each sequence number. -/
structure Flight where
  state : RxState
  opener : UInt8 → ℕ

/-- The datagram is a segment. -/
def IsSegment (crc32 : UInt32 → List UInt8 → UInt32) (checksumEnabled : Bool)
    (datagram : Datagram) : Prop :=
  acceptMessage crc32 checksumEnabled datagram = .ok (some (headerOf datagram.bytes)) ∧
    ¬ (headerOf datagram.bytes).IsWhole

/-- The receiver takes a datagram; if there is no entry under its number, the note is made. -/
def watch (crc32 : UInt32 → List UInt8 → UInt32) (checksumEnabled : Bool) (flight : Flight)
    (arrival : Arrival) : Outcome (List Dispatch × Flight) := do
  let (dispatched, state) ←
    receive crc32 checksumEnabled flight.state (arrival.datagram, arrival.time)
  let number := (headerOf arrival.datagram.bytes).sequenceNum
  let opener := if flight.state.queue.lookup number = none then
    Function.update flight.opener number arrival.label else flight.opener
  return (dispatched, ⟨state, opener⟩)

/-- The datagram belongs to the sent message that it is labelled with. -/
def FromSent (sent : List (List (List UInt8))) (_ : Flight) (arrival : Arrival) : Prop :=
  ∃ datagrams, sent[arrival.label]? = some datagrams ∧ arrival.datagram.bytes ∈ datagrams

/-- The arrival is a segment for which there is an entry that another message opened. -/
def Merges (crc32 : UInt32 → List UInt8 → UInt32) (checksumEnabled : Bool) (flight : Flight)
    (arrival : Arrival) : Prop :=
  IsSegment crc32 checksumEnabled arrival.datagram ∧
    flight.state.queue.lookup (headerOf arrival.datagram.bytes).sequenceNum ≠ none ∧
    flight.opener (headerOf arrival.datagram.bytes).sequenceNum ≠ arrival.label

/-- Whatever arrives of the sent messages, in whatever order and however often, no segment gets into
the entry of another message. -/
def KeepsApart (crc32 : UInt32 → List UInt8 → UInt32) (checksumEnabled : Bool)
    (sent : List (List (List UInt8))) : Prop :=
  ∀ flight, Reached (watch crc32 checksumEnabled) (FromSent sent) ⟨initial, fun _ ↦ 0⟩ flight →
    ∀ arrival, FromSent sent flight arrival → ¬ Merges crc32 checksumEnabled flight arrival

section Watched

variable {crc32 : UInt32 → List UInt8 → UInt32} {config : P7Config}

/-- An entry that is there after a step was there before, or the arrival is a segment with its
number. -/
theorem lookup_of_receive {checksumEnabled : Bool} {state next : RxState} {msg : Datagram}
    {time : UInt32} {dispatched : List Dispatch} {number : UInt8}
    (hstep : receive crc32 checksumEnabled state (msg, time) = .ok (dispatched, next))
    (hentry : next.queue.lookup number ≠ none) :
    state.queue.lookup number ≠ none ∨ (headerOf msg.bytes).sequenceNum = number := by
  obtain ⟨entry, hlookup⟩ := Option.ne_none_iff_exists'.mp hentry
  obtain ⟨hmem, rfl⟩ := KeyedList.lookup_eq_some.mp hlookup
  rcases (handleP7Message_eq_ok.mp hstep).mem_queue hmem with
    hold | ⟨header, haccept, hsegment, hadded⟩
  · left
    rw [KeyedList.lookup_eq_some.mpr ⟨hold, rfl⟩]
    exact Option.some_ne_none entry
  · right
    have hheader := (acceptMessage_eq_some haccept).2
    have hfound := lookup_addSegment state.queue time header.sequenceNum header.segmentNum header.m
      msg.bytes header.sequenceNum
    rw [if_pos rfl] at hfound
    have hkey := (KeyedList.lookup_eq_some.mp hfound).2
    rw [hadded, ← hheader]
    exact hkey.symm

/-- Every entry was opened by a message that carries its number. -/
def OpenersCarry (sent : List (List (List UInt8))) (sequenceNumber : UInt32) (flight : Flight) :
    Prop :=
  ∀ number, flight.state.queue.lookup number ≠ none → flight.opener number < sent.length ∧
    number.toNat = (sequenceNumber.toNat + flight.opener number) % 16

theorem openersCarry_watch {messages : List (BodyEncoder × P7MessageHeader)}
    {sequenceNumber : UInt32} {checksumEnabled : Bool} {flight next : Flight} {arrival : Arrival}
    {dispatched : List Dispatch}
    (hflight : OpenersCarry (sendAll crc32 config messages sequenceNumber) sequenceNumber flight)
    (harrival : FromSent (sendAll crc32 config messages sequenceNumber) flight arrival)
    (hstep : watch crc32 checksumEnabled flight arrival = .ok (dispatched, next)) :
    OpenersCarry (sendAll crc32 config messages sequenceNumber) sequenceNumber next := by
  obtain ⟨⟨replies, state⟩, hreceive, hpure⟩ := bind_eq_ok.mp hstep
  cases hpure
  intro number hentry
  obtain ⟨datagrams, hsent, hmem⟩ := harrival
  obtain ⟨hlabel, -⟩ := List.getElem?_eq_some_iff.mp hsent
  have hnumber := (sequenceNum_of_sendAll messages sequenceNumber hsent).2 _ hmem
  by_cases hnew : flight.state.queue.lookup number = none
  · -- the arrival opened the entry
    rcases lookup_of_receive hreceive hentry with hold | rfl
    · exact absurd hnew hold
    · simp only [if_pos hnew, Function.update_self]
      exact ⟨hlabel, hnumber⟩
  · have hkept : (if flight.state.queue.lookup (headerOf arrival.datagram.bytes).sequenceNum = none
        then Function.update flight.opener (headerOf arrival.datagram.bytes).sequenceNum arrival.label
        else flight.opener) number = flight.opener number := by
      split_ifs with hopens
      · refine Function.update_of_ne ?_ _ _
        rintro rfl
        exact hnew hopens
      · rfl
    simp only [hkept]
    exact hflight number hnew

/-- No more than sixteen messages in flight are kept apart. -/
theorem keepsApart_of_le {messages : List (BodyEncoder × P7MessageHeader)} {sequenceNumber : UInt32}
    {checksumEnabled : Bool} (hshort : (sendAll crc32 config messages sequenceNumber).length ≤ 16) :
    KeepsApart crc32 checksumEnabled (sendAll crc32 config messages sequenceNumber) := by
  intro flight hreached arrival harrival hmerges
  have hcarry : OpenersCarry (sendAll crc32 config messages sequenceNumber) sequenceNumber flight := by
    refine hreached.invariant (OpenersCarry _ sequenceNumber) ?_ ?_
    · intro number hentry
      exact absurd (KeyedList.lookup_empty number) hentry
    · intro flight arrival dispatched next hflight harrival hstep
      exact openersCarry_watch hflight harrival hstep
  obtain ⟨-, hentry, hother⟩ := hmerges
  obtain ⟨hopener, hcarried⟩ := hcarry _ hentry
  obtain ⟨datagrams, hsent, hmem⟩ := harrival
  obtain ⟨hlabel, -⟩ := List.getElem?_eq_some_iff.mp hsent
  have hnumber := (sequenceNum_of_sendAll messages sequenceNumber hsent).2 _ hmem
  refine hother ?_
  omega

/-- The first segment of a segmented message announces more. -/
theorem first_segment {header : P7MessageHeader} {body : List UInt8}
    (hlength : p7HeaderLength + body.length ≤ rxIndDataMax)
    (hsegmented : 2 ≤ (sendPacked crc32 config (headerBytes header ++ body)).length) :
    ∃ datagram : Datagram,
      datagram.bytes ∈ sendPacked crc32 config (headerBytes header ++ body) ∧
      IsSegment crc32 config.checksumEnabled datagram ∧ (headerOf datagram.bytes).m ≠ 0 := by
  have hlong : config.segBodyLen < body.length := by
    by_contra hshort
    rw [sendPacked_of_short (Nat.le_of_not_lt hshort)] at hsegmented
    exact absurd hsegmented (by simp)
  rw [sendPacked_of_long hlong] at hsegmented ⊢
  rw [List.length_map, List.length_range] at hsegmented
  have hsmall : (segmentDatagram crc32 config header body 0).length < 2 ^ 16 := by
    have hpiece := length_piece config.segBodyLen body 0
    rw [length_segmentDatagram]
    rw [rxIndDataMax] at hlength
    omega
  have hmore : (headerOf (segmentDatagram crc32 config header body 0)).m ≠ 0 := by
    have hfields := (fields_segmentDatagram crc32 config header body 0).1
    have hlast : (0 + 1 == config.segmentCount body.length) = false := by
      apply beq_false_of_ne
      omega
    rw [hlast] at hfields
    intro hzero
    rw [hzero] at hfields
    exact absurd hfields (by decide)
  refine ⟨⟨segmentDatagram crc32 config header body 0, hsmall⟩, ?_, ?_, hmore⟩
  · exact List.mem_map_of_mem (List.mem_range.mpr (by omega))
  · exact ⟨acceptMessage_segmentDatagram rfl, fun hwhole ↦ hmore hwhole.1⟩

/-- A first segment that arrives opens an entry, which stays. -/
theorem receive_first_segment {checksumEnabled : Bool} {datagram : Datagram}
    (hsegment : IsSegment crc32 checksumEnabled datagram) (hmore : (headerOf datagram.bytes).m ≠ 0) :
    ∃ state, receive crc32 checksumEnabled initial (datagram, 0) = .ok ([], state) ∧
      state.queue.lookup (headerOf datagram.bytes).sequenceNum ≠ none := by
  have hnone : initial.queue.lookup (headerOf datagram.bytes).sequenceNum = none :=
    KeyedList.lookup_empty _
  have hadd := addSegment_of_none 0 (headerOf datagram.bytes).segmentNum (headerOf datagram.bytes).m
    datagram.bytes hnone
  have hincomplete : ¬ (RxMessage.ofSegment 0 (headerOf datagram.bytes).sequenceNum
      (headerOf datagram.bytes).segmentNum (headerOf datagram.bytes).m datagram.bytes).Complete := by
    show ¬ (1 : UInt8) = if (headerOf datagram.bytes).m = 0 then _ else 255
    rw [if_neg hmore]
    decide
  refine ⟨_, handleP7Message_eq_ok.mpr (.stored hsegment.1 hsegment.2 hadd hincomplete), ?_⟩
  have hlookup := lookup_addSegment initial.queue 0 (headerOf datagram.bytes).sequenceNum
    (headerOf datagram.bytes).segmentNum (headerOf datagram.bytes).m datagram.bytes
    (headerOf datagram.bytes).sequenceNum
  rw [if_pos rfl, hadd] at hlookup
  show (removeOldMsgs _ 0 staleDelta).lookup _ ≠ none
  rw [removeOldMsgs, KeyedList.lookup_filter, hlookup, Option.filter_some, if_pos]
  · exact Option.some_ne_none _
  · exact Bool.not_eq_true' _ ▸ decide_eq_false (not_stale_self _)

/-- If seventeen segmented messages are in flight, two of them can be merged. -/
theorem not_keepsApart {messages : List (BodyEncoder × P7MessageHeader)} {sequenceNumber : UInt32}
    (hsegmented : ∀ datagrams ∈ sendAll crc32 config messages sequenceNumber, 2 ≤ datagrams.length)
    (hlong : 16 < (sendAll crc32 config messages sequenceNumber).length) :
    ¬ KeepsApart crc32 config.checksumEnabled (sendAll crc32 config messages sequenceNumber) := by
  intro hapart
  have hfirst : ∀ index < (sendAll crc32 config messages sequenceNumber).length,
      ∃ datagram : Datagram, (∃ datagrams,
        (sendAll crc32 config messages sequenceNumber)[index]? = some datagrams ∧
          datagram.bytes ∈ datagrams) ∧
        IsSegment crc32 config.checksumEnabled datagram ∧ (headerOf datagram.bytes).m ≠ 0 := by
    intro index hindex
    have hget := List.getElem?_eq_getElem hindex
    obtain ⟨header, body, -, hlength, hsent⟩ := sendAll_getElem? messages sequenceNumber hget
    have hcount := hsegmented _ (List.getElem_mem hindex)
    rw [hsent] at hcount hget
    obtain ⟨datagram, hmem, hsegment, hmore⟩ := first_segment hlength hcount
    exact ⟨datagram, ⟨_, hget, hmem⟩, hsegment, hmore⟩
  obtain ⟨opening, ⟨datagrams, hsent, hmem⟩, hopening, hmore⟩ := hfirst 0 (by omega)
  obtain ⟨other, ⟨datagrams', hsent', hmem'⟩, hother, -⟩ := hfirst 16 hlong
  have hnumber : (headerOf opening.bytes).sequenceNum = (headerOf other.bytes).sequenceNum :=
    (sequenceNum_eq_iff messages sequenceNumber hsent hmem hsent' hmem').mpr rfl
  obtain ⟨state, hreceive, hentry⟩ := receive_first_segment hopening hmore
  have hreached : Reached (watch crc32 config.checksumEnabled)
      (FromSent (sendAll crc32 config messages sequenceNumber)) ⟨initial, fun _ ↦ 0⟩
      ⟨state, Function.update (fun _ ↦ 0) (headerOf opening.bytes).sequenceNum 0⟩ := by
    have hnew : initial.queue.lookup (headerOf opening.bytes).sequenceNum = none :=
      KeyedList.lookup_empty _
    have hstep : watch crc32 config.checksumEnabled ⟨initial, fun _ ↦ 0⟩ ⟨0, opening, 0⟩ =
        .ok ([], ⟨state, Function.update (fun _ ↦ 0) (headerOf opening.bytes).sequenceNum 0⟩) := by
      simp only [watch, hreceive, ok_bind, pure_eq_ok, hnew, if_true]
    exact .step .start ⟨datagrams, hsent, hmem⟩ hstep
  refine hapart _ hreached ⟨16, other, 0⟩ ⟨datagrams', hsent', hmem'⟩ ⟨hother, ?_, ?_⟩
  · rw [← hnumber]
    exact hentry
  · show Function.update (fun _ ↦ 0) (headerOf opening.bytes).sequenceNum 0 _ ≠ 16
    rw [← hnumber, Function.update_self]
    decide

/-- Writer and reader of the header word agree only without a more flag and a segment number and on
sequence numbers below 16. So the numbers in a run of segmented messages are distinct, and the
reassembly queue keeps the messages apart, exactly when there are no more than sixteen. -/
theorem headerWord_and_numbers_iff (messages : List (BodyEncoder × P7MessageHeader))
    (sequenceNumber : UInt32) {more segm sequ : UInt32} (hmore : more < 2) (hsegm : segm < 128)
    (hsequ : sequ < 256)
    (hsegmented : ∀ datagrams ∈ sendAll crc32 config messages sequenceNumber,
      2 ≤ datagrams.length) :
    (Coherent more segm sequ ↔ more = 0 ∧ segm = 0 ∧ sequ < 16) ∧
      (DistinctNumbers (sendAll crc32 config messages sequenceNumber) ↔
        (sendAll crc32 config messages sequenceNumber).length ≤ 16) ∧
      (KeepsApart crc32 config.checksumEnabled (sendAll crc32 config messages sequenceNumber) ↔
        (sendAll crc32 config messages sequenceNumber).length ≤ 16) := by
  refine ⟨coherent_iff hmore hsegm hsequ, distinctNumbers_iff messages sequenceNumber, ?_⟩
  constructor
  · intro hapart
    by_contra hlong
    exact not_keepsApart hsegmented (Nat.lt_of_not_le hlong) hapart
  · exact keepsApart_of_le

end Watched

/-! ### One message in two segments -/

/-- An encoder of a body of two bytes. -/
def twoBytes : BodyEncoder := .ofBytes rxIndDataMax [1, 2]

theorem headerWord_and_numbers_two_segments :
    (Coherent 0 0 15 ↔ (0 : UInt32) = 0 ∧ (0 : UInt32) = 0 ∧ (15 : UInt32) < 16) ∧
      (DistinctNumbers (sendAll (fun _ _ ↦ 0) oneByteSegments [(twoBytes, {})] 0) ↔
        (sendAll (fun _ _ ↦ 0) oneByteSegments [(twoBytes, {})] 0).length ≤ 16) ∧
      (KeepsApart (fun _ _ ↦ 0) false (sendAll (fun _ _ ↦ 0) oneByteSegments [(twoBytes, {})] 0) ↔
        (sendAll (fun _ _ ↦ 0) oneByteSegments [(twoBytes, {})] 0).length ≤ 16) :=
  headerWord_and_numbers_iff [(twoBytes, {})] 0 (by decide) (by decide) (by decide) (by decide)

/-- A more flag that is written is not read, and of seventeen messages two have the same number. -/
theorem more_flag_lost_and_seventeen_messages :
    ¬ Coherent 1 0 0 ∧ ¬ DistinctNumbers
      (sendAll (fun _ _ ↦ 0) oneByteSegments (List.replicate 17 (twoBytes, {})) 0) := by
  rw [coherent_iff (by decide) (by decide) (by decide), distinctNumbers_iff]
  decide

end MultiUeProxy.Segmentation.InFlight
