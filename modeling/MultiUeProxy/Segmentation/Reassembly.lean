import MultiUeProxy.Lib.ByteWriter
import MultiUeProxy.Lib.KeyedTable
import MultiUeProxy.Lib.NumberedPieces
import MultiUeProxy.Segmentation.HeaderWord

/-!
# Receiving segmented P7 messages

The reassembly queue of `pnf_p7.c` and the handler that feeds it. `pnf_handle_p7_message` and
`pnf_nr_handle_p7_message` differ only in the function they dispatch a message to, so one definition
stands for both. A message is dispatched at once when its header has neither a more flag nor a
segment number; everything else is a segment and goes to the entry under its sequence number.

The handler believes that a message is complete when an entry has received as many segments as it
expects. It then copies the places 0 to `num_segments_expected - 1` one after the other, without
looking whether they were filled.

`malloc` is taken to succeed. `crc32` is zlib's and a parameter.
-/

set_option autoImplicit false
set_option relaxedAutoImplicit false

namespace MultiUeProxy.Segmentation.Reassembly

open Lib.Execution Lib.ByteCursor Lib.ByteWriter Lib.KeyedTable Lib.NumberedPieces P7.Header HeaderWord

/-! ### The reassembly queue -/

/-- The number of places of `segments`. -/
def maxSegments : ℕ := 128

/-- `pnf_p7_rx_message_t`. A place of `segments` whose buffer is the null pointer is `none`. -/
structure RxMessage where
  sequenceNumber : UInt8
  numSegmentsReceived : UInt8
  numSegmentsExpected : UInt8
  segments : ℕ → Option (List UInt8)
  rxHrTime : UInt32

/-- `pnf_p7_rx_reassembly_queue_t`: no two messages have the same sequence number. -/
abbrev ReassemblyQueue := KeyedList RxMessage.sequenceNumber

namespace RxMessage

/-- A further segment of the message. -/
def addSegment (msg : RxMessage) (segmentNumber m : UInt8) (data : List UInt8) : RxMessage :=
  { msg with
    segments := Function.update msg.segments segmentNumber.toNat (some data)
    numSegmentsReceived := msg.numSegmentsReceived + 1
    numSegmentsExpected := if m = 0 then segmentNumber + 1 else msg.numSegmentsExpected }

/-- The message of which this is the first segment to arrive. -/
def ofSegment (rxHrTime : UInt32) (sequenceNumber segmentNumber m : UInt8) (data : List UInt8) :
    RxMessage where
  sequenceNumber := sequenceNumber
  numSegmentsExpected := if m = 0 then segmentNumber + 1 else 255
  numSegmentsReceived := 1
  rxHrTime := rxHrTime
  segments := Function.update (fun _ ↦ none) segmentNumber.toNat (some data)

@[simp] theorem segments_addSegment_self (msg : RxMessage) (segmentNumber m : UInt8)
    (data : List UInt8) :
    (msg.addSegment segmentNumber m data).segments segmentNumber.toNat = some data := by
  simp [addSegment]

@[simp] theorem segments_ofSegment_self (rxHrTime : UInt32) (sequenceNumber segmentNumber m : UInt8)
    (data : List UInt8) :
    (ofSegment rxHrTime sequenceNumber segmentNumber m data).segments segmentNumber.toNat =
      some data := by
  simp [ofSegment]

/-- The test for completeness. -/
def Complete (msg : RxMessage) : Prop := msg.numSegmentsReceived = msg.numSegmentsExpected

instance (msg : RxMessage) : Decidable msg.Complete :=
  inferInstanceAs (Decidable (msg.numSegmentsReceived = msg.numSegmentsExpected))

end RxMessage

/-- `pnf_p7_rx_reassembly_queue_add_segment`: the entry that has the segment and the queue. -/
def addSegment (queue : ReassemblyQueue) (rxHrTime : UInt32)
    (sequenceNumber segmentNumber m : UInt8) (data : List UInt8) : RxMessage × ReassemblyQueue :=
  match h : queue.lookup sequenceNumber with
  | some msg =>
    let msg := msg.addSegment segmentNumber m data
    (msg, queue.replace msg)
  | none =>
    let msg := RxMessage.ofSegment rxHrTime sequenceNumber segmentNumber m data
    (msg, queue.insert msg h)

section AddSegment

variable {queue : ReassemblyQueue} {rxHrTime : UInt32} {sequenceNumber segmentNumber m : UInt8}
  {data : List UInt8} {msg : RxMessage}

theorem addSegment_of_some (h : queue.lookup sequenceNumber = some msg) :
    addSegment queue rxHrTime sequenceNumber segmentNumber m data =
      (msg.addSegment segmentNumber m data, queue.replace (msg.addSegment segmentNumber m data)) := by
  unfold addSegment
  split
  · rename_i other hother
    rw [h] at hother
    rw [Option.some.inj hother]
  · rename_i hnone
    rw [h] at hnone
    cases hnone

theorem addSegment_of_none (rxHrTime : UInt32) (segmentNumber m : UInt8) (data : List UInt8)
    (h : queue.lookup sequenceNumber = none) :
    addSegment queue rxHrTime sequenceNumber segmentNumber m data =
      (RxMessage.ofSegment rxHrTime sequenceNumber segmentNumber m data,
        queue.insert (RxMessage.ofSegment rxHrTime sequenceNumber segmentNumber m data) h) := by
  unfold addSegment
  split
  · rename_i other hother
    rw [h] at hother
    cases hother
  · rfl

/-- The segment is in the entry under its sequence number, and the other entries stay. -/
theorem lookup_addSegment (queue : ReassemblyQueue) (rxHrTime : UInt32)
    (sequenceNumber segmentNumber m : UInt8) (data : List UInt8) (k : UInt8) :
    (addSegment queue rxHrTime sequenceNumber segmentNumber m data).2.lookup k =
      if sequenceNumber = k then
        some (addSegment queue rxHrTime sequenceNumber segmentNumber m data).1
      else queue.lookup k := by
  cases h : queue.lookup sequenceNumber with
  | none =>
    rw [addSegment_of_none _ _ _ _ h]
    exact KeyedList.lookup_insert (h := h)
  | some msg =>
    rw [addSegment_of_some h]
    have hmem := KeyedList.lookup_eq_some.mp h
    have hkey : (msg.addSegment segmentNumber m data).sequenceNumber = sequenceNumber := hmem.2
    have hreplaced : ∃ old ∈ queue,
        old.sequenceNumber = (msg.addSegment segmentNumber m data).sequenceNumber :=
      ⟨msg, hmem.1, rfl⟩
    simp only [KeyedList.lookup_replace hreplaced, hkey]

/-- Adding a segment changes one entry only. -/
theorem mem_addSegment
    (h : msg ∈ (addSegment queue rxHrTime sequenceNumber segmentNumber m data).2) :
    msg = (addSegment queue rxHrTime sequenceNumber segmentNumber m data).1 ∨ msg ∈ queue := by
  have hlookup := KeyedList.lookup_eq_some.mpr ⟨h, rfl⟩
  rw [lookup_addSegment] at hlookup
  split_ifs at hlookup with hkey
  · exact Or.inl (Option.some.inj hlookup).symm
  · exact Or.inr (KeyedList.lookup_eq_some.mp hlookup).1

end AddSegment

/-- `pnf_p7_rx_reassembly_queue_remove_msg`. -/
def removeMsg (queue : ReassemblyQueue) (msg : RxMessage) : ReassemblyQueue :=
  queue.erase msg.sequenceNumber

/-- The age of a message; the clock value wraps. -/
def Stale (rxHrTime delta : UInt32) (msg : RxMessage) : Prop := rxHrTime - msg.rxHrTime > delta

instance (rxHrTime delta : UInt32) (msg : RxMessage) : Decidable (Stale rxHrTime delta msg) :=
  inferInstanceAs (Decidable (rxHrTime - msg.rxHrTime > delta))

/-- `pnf_p7_rx_reassembly_queue_remove_old_msgs`. -/
def removeOldMsgs (queue : ReassemblyQueue) (rxHrTime delta : UInt32) : ReassemblyQueue :=
  queue.filter fun msg ↦ !decide (Stale rxHrTime delta msg)

/-! ### Putting a message together -/

/-- `rx_msg->segments[i]`, where a null buffer has length zero. -/
def segmentAt (msg : RxMessage) (i : ℕ) : Outcome (List UInt8) :=
  if i < maxSegments then .ok ((msg.segments i).getD []) else .error .fault

/-- The length of the message without the headers of the segments behind the first, as a
`uint16_t`. -/
def reassembledLength (msg : RxMessage) : Outcome UInt16 :=
  (List.range msg.numSegmentsExpected.toNat).foldlM (fun length i ↦ do
    let segment ← segmentAt msg i
    return length + segment.length.toUInt16 - if i > 0 then p7HeaderLength.toUInt16 else 0) 0

/-- `memcpy` to a place inside a buffer. -/
def copyTo (buffer : List UInt8) (offset : ℕ) (bytes : List UInt8) : Outcome (List UInt8) :=
  if offset + bytes.length ≤ buffer.length then
    .ok (buffer.take offset ++ bytes ++ buffer.drop (offset + bytes.length))
  else .error .fault

/-- Copies one segment behind those before it. A segment shorter than its header, or a missing one,
makes the number of bytes to copy negative. -/
def copySegment (msg : RxMessage) (target : List UInt8 × UInt16) (i : ℕ) :
    Outcome (List UInt8 × UInt16) := do
  let (buffer, offset) := target
  let segment ← segmentAt msg i
  if i = 0 then
    let buffer ← copyTo buffer 0 segment
    return (buffer, offset + segment.length.toUInt16)
  else if segment.length < p7HeaderLength then .error .fault
  else
    let buffer ← copyTo buffer offset.toNat (segment.drop p7HeaderLength)
    return (buffer, offset + (segment.length - p7HeaderLength).toUInt16)

/-- The reassembly buffer with the message in it, and the length of the message. A buffer that is
too small is replaced by one of that length. -/
def reassemble (buffer : List UInt8) (msg : RxMessage) : Outcome (List UInt8 × UInt16) := do
  let length ← reassembledLength msg
  let buffer := if buffer.length < length.toNat then List.replicate length.toNat 0 else buffer
  let (buffer, _) ← (List.range msg.numSegmentsExpected.toNat).foldlM (copySegment msg) (buffer, 0)
  return (buffer, length)

/-- What is copied of a segment: all of the first, and what is behind the header of another. -/
def copied (segment : ℕ → List UInt8) (i : ℕ) : List UInt8 :=
  if i = 0 then segment i else (segment i).drop p7HeaderLength

section Reassemble

variable {msg : RxMessage} {count : ℕ} {segment : ℕ → List UInt8}

theorem segmentAt_of_some {i : ℕ} (hi : i < maxSegments) (h : msg.segments i = some (segment i)) :
    segmentAt msg i = .ok (segment i) := by
  rw [segmentAt, if_pos hi, h, Option.getD_some]

/-- The lengths of the copied parts add up. -/
theorem foldlM_length (hcount : count ≤ maxSegments)
    (hsegments : ∀ i < count, msg.segments i = some (segment i))
    (hheader : ∀ i < count, p7HeaderLength ≤ (segment i).length) :
    (List.range count).foldlM (fun (length : UInt16) i ↦ do
      let segment ← segmentAt msg i
      return length + segment.length.toUInt16 - if i > 0 then p7HeaderLength.toUInt16 else 0) 0 =
        (.ok ((List.range count).flatMap (copied segment)).length.toUInt16 : Outcome UInt16) := by
  induction count with
  | zero => rfl
  | succ count ih =>
    have hbefore := ih (by omega) (fun i hi ↦ hsegments i (by omega)) fun i hi ↦ hheader i (by omega)
    have hsegment := segmentAt_of_some (by omega) (hsegments count (by omega))
    have hlast := hheader count (by omega)
    rw [foldlM_range_succ, hbefore, ok_bind, hsegment, ok_bind, pure_eq_ok, List.range_succ,
      List.flatMap_append, List.flatMap_singleton, List.length_append]
    congr 1
    apply UInt16.toNat_inj.mp
    rw [copied]
    by_cases hzero : count = 0
    · subst hzero
      simp
    · rw [if_neg hzero, if_pos (Nat.pos_of_ne_zero hzero), List.length_drop]
      simp only [UInt16.toNat_sub, UInt16.toNat_add, Nat.toUInt16_eq, UInt16.toNat_ofNat']
      rw [p7HeaderLength] at hlast ⊢
      omega

/-- Copying bytes behind those that are in the buffer. -/
theorem copyTo_append (front : List UInt8) {bytes rest : List UInt8} (hroom : bytes.length ≤ rest.length) :
    copyTo (front ++ rest) front.length bytes = .ok (front ++ bytes ++ rest.drop bytes.length) := by
  rw [copyTo, if_pos (by rw [List.length_append]; omega), List.take_left, ← List.drop_drop,
    List.drop_left]

/-- One more part is copied behind those before it. -/
theorem copySegment_eq {front rest : List UInt8} {i : ℕ} (hi : i < maxSegments)
    (hsegment : msg.segments i = some (segment i)) (hheader : p7HeaderLength ≤ (segment i).length)
    (hzero : i = 0 → front = []) (hsmall : front.length < 2 ^ 16)
    (hroom : (copied segment i).length ≤ rest.length) :
    copySegment msg (front ++ rest, front.length.toUInt16) i =
      .ok (front ++ copied segment i ++ rest.drop (copied segment i).length,
        (front ++ copied segment i).length.toUInt16) := by
  have hoffset : front.length.toUInt16.toNat = front.length := by
    rw [Nat.toUInt16_eq, UInt16.toNat_ofNat']
    omega
  have hcopy := copyTo_append front hroom
  have hnext : front.length.toUInt16 + (copied segment i).length.toUInt16 =
      (front ++ copied segment i).length.toUInt16 := by
    rw [List.length_append]
    simp only [Nat.toUInt16_eq, UInt16.ofNat_add]
  unfold copySegment
  rw [segmentAt_of_some hi hsegment]
  by_cases hfirst : i = 0
  · have hwhole : copied segment i = segment i := if_pos hfirst
    rw [hzero hfirst] at hcopy hnext ⊢
    rw [hwhole] at hcopy hnext ⊢
    simp only [ok_bind, if_pos hfirst]
    rw [show (0 : ℕ) = ([] : List UInt8).length from rfl, hcopy, ok_bind, pure_eq_ok, ← hnext]
  · have hbehind : copied segment i = (segment i).drop p7HeaderLength := if_neg hfirst
    have hlength : (copied segment i).length = (segment i).length - p7HeaderLength := by
      rw [hbehind, List.length_drop]
    simp only [ok_bind, if_neg hfirst, if_neg (Nat.not_lt.mpr hheader), hoffset]
    rw [← hbehind, hcopy, ok_bind, pure_eq_ok, ← hlength, hnext]

/-- The loop copies the parts one after the other. -/
theorem foldlM_copySegment (hcount : count ≤ maxSegments)
    (hsegments : ∀ i < count, msg.segments i = some (segment i))
    (hheader : ∀ i < count, p7HeaderLength ≤ (segment i).length)
    (hsmall : ((List.range count).flatMap (copied segment)).length < 2 ^ 16)
    (buffer : List UInt8)
    (hroom : ((List.range count).flatMap (copied segment)).length ≤ buffer.length) :
    (List.range count).foldlM (copySegment msg) (buffer, 0) =
      .ok ((List.range count).flatMap (copied segment) ++
          buffer.drop ((List.range count).flatMap (copied segment)).length,
        ((List.range count).flatMap (copied segment)).length.toUInt16) := by
  induction count with
  | zero => rfl
  | succ count ih =>
    rw [foldlM_range_succ]
    rw [List.range_succ, List.flatMap_append, List.flatMap_singleton] at hsmall hroom ⊢
    rw [List.length_append] at hsmall hroom
    have hbefore := ih (by omega) (fun i hi ↦ hsegments i (by omega))
      (fun i hi ↦ hheader i (by omega)) (by omega) (by omega)
    rw [hbefore, ok_bind, copySegment_eq (by omega) (hsegments count (by omega))
      (hheader count (by omega)) ?_ (by omega) (by rw [List.length_drop]; omega), List.drop_drop,
      List.length_append]
    rintro rfl
    rfl

/-- If no segment is missing and the message is not too long, the handler puts the copied parts
together. -/
theorem reassemble_eq (hexpected : msg.numSegmentsExpected.toNat = count)
    (hcount : count ≤ maxSegments) (hsegments : ∀ i < count, msg.segments i = some (segment i))
    (hheader : ∀ i < count, p7HeaderLength ≤ (segment i).length)
    (hsmall : ((List.range count).flatMap (copied segment)).length < 2 ^ 16)
    (buffer : List UInt8) :
    ∃ result length, reassemble buffer msg = .ok (result, length) ∧
      result.take length.toNat = (List.range count).flatMap (copied segment) := by
  have hlength := foldlM_length hcount hsegments hheader
  have hcopy := foldlM_copySegment hcount hsegments hheader hsmall
  obtain ⟨whole, hwhole⟩ : ∃ whole, (List.range count).flatMap (copied segment) = whole := ⟨_, rfl⟩
  rw [hwhole] at hlength hcopy hsmall ⊢
  have hnat : whole.length.toUInt16.toNat = whole.length := by
    rw [Nat.toUInt16_eq, UInt16.toNat_ofNat']
    omega
  obtain ⟨large, hlarge⟩ : ∃ large, large = if buffer.length < whole.length.toUInt16.toNat then
      List.replicate whole.length.toUInt16.toNat 0 else buffer := ⟨_, rfl⟩
  have hroom : whole.length ≤ large.length := by
    rw [hlarge, hnat]
    split_ifs with hshort
    · rw [List.length_replicate]
    · exact Nat.le_of_not_lt hshort
  refine ⟨whole ++ large.drop whole.length, whole.length.toUInt16, ?_, ?_⟩
  · unfold reassemble reassembledLength
    rw [hexpected, hlength, ok_bind]
    simp only [← hlarge, hcopy large hroom, ok_bind, pure_eq_ok]
  · rw [hnat, List.take_left]

end Reassemble
/-! ### The handler -/

/-- What is read from the socket: at most as much as the `uint16_t` in the header says. -/
structure Datagram where
  bytes : List UInt8
  short : bytes.length < 2 ^ 16

/-- `nfapi_calculate_checksum`: the checksum field counts as zero, the timestamp not at all. -/
def calculateChecksum (crc32 : UInt32 → List UInt8 → UInt32) (buffer : List UInt8) : UInt32 :=
  ~~~crc32 (crc32 (crc32 0 (buffer.take 8)) [0, 0, 0, 0]) (buffer.drop p7HeaderLength)

/-- The fields of `m_segment_sequence`, as the handler keeps them. -/
structure SegmentHeader where
  m : UInt8
  sequenceNum : UInt8
  segmentNum : UInt8
  deriving DecidableEq, Repr

def SegmentHeader.ofWord (mss : UInt16) : SegmentHeader where
  m := (p7GetMore mss).toUInt8
  sequenceNum := (p7GetSequence mss).toUInt8
  segmentNum := (p7GetSegment mss).toUInt8

/-- The header of a message that is not segmented. -/
def SegmentHeader.IsWhole (header : SegmentHeader) : Prop := header.m = 0 ∧ header.segmentNum = 0

instance (header : SegmentHeader) : Decidable header.IsWhole :=
  inferInstanceAs (Decidable (header.m = 0 ∧ header.segmentNum = 0))

/-- The first half of the handler: the header of a message that has one and whose checksum is
right. -/
def acceptMessage (crc32 : UInt32 → List UInt8 → UInt32) (checksumEnabled : Bool)
    (msg : Datagram) : Outcome (Option SegmentHeader) := do
  if msg.bytes.length < 4 then return none
  match ← p7MessageHeaderUnpack (memoryOf msg.bytes) msg.bytes.length with
  | none => return none
  | some header =>
    if checksumEnabled ∧ calculateChecksum crc32 msg.bytes ≠ header.checksum then return none
    else return some (.ofWord header.mSegmentSequence)

/-- A call of `pnf_dispatch_p7_message` or `pnf_nr_dispatch_p7_message`. -/
structure Dispatch where
  message : List UInt8
  rxHrTime : UInt32
  deriving DecidableEq, Repr

/-- The part of `pnf_p7_t` that the handler works on. -/
structure RxState where
  queue : ReassemblyQueue
  reassemblyBuffer : List UInt8

/-- After this time, in units of the clock, an incomplete message is given up. -/
def staleDelta : UInt32 := 1000

/-- An entry is not stale when it is made. -/
theorem not_stale_self (msg : RxMessage) : ¬ Stale msg.rxHrTime staleDelta msg := by
  show ¬ msg.rxHrTime - msg.rxHrTime > staleDelta
  rw [UInt32.sub_self]
  decide

/-- The second half of the handler. -/
def handleAccepted (state : RxState) (header : SegmentHeader) (msg : Datagram)
    (rxHrTime : UInt32) : Outcome (List Dispatch × RxState) := do
  if header.IsWhole then
    if msg.bytes.length < 8 then return ([], state)
    else
      return ([⟨msg.bytes, rxHrTime⟩],
        { state with queue := removeOldMsgs state.queue rxHrTime staleDelta })
  else
    let (rxMsg, queue) := addSegment state.queue rxHrTime header.sequenceNum header.segmentNum
      header.m msg.bytes
    if rxMsg.Complete then
      let (buffer, length) ← reassemble state.reassemblyBuffer rxMsg
      return ([⟨buffer.take length.toNat, rxMsg.rxHrTime⟩],
        { queue := removeOldMsgs (removeMsg queue rxMsg) rxHrTime staleDelta
          reassemblyBuffer := buffer })
    else
      return ([], { state with queue := removeOldMsgs queue rxHrTime staleDelta })

/-- `pnf_handle_p7_message` and `pnf_nr_handle_p7_message`. -/
def handleP7Message (crc32 : UInt32 → List UInt8 → UInt32) (checksumEnabled : Bool)
    (state : RxState) (msg : Datagram) (rxHrTime : UInt32) :
    Outcome (List Dispatch × RxState) := do
  match ← acceptMessage crc32 checksumEnabled msg with
  | none => return ([], state)
  | some header => handleAccepted state header msg rxHrTime

/-! ### What a call of the handler does -/

section Handler

variable {crc32 : UInt32 → List UInt8 → UInt32} {checksumEnabled : Bool} {msg : Datagram}
  {state next : RxState} {rxHrTime : UInt32} {dispatched : List Dispatch}

/-- The fields in the seventh and eighth byte of a message. -/
def headerOf (bytes : List UInt8) : SegmentHeader := .ofWord (Pull.word16 (memoryOf bytes) 6)

/-- A segment number has seven bits. -/
theorem segmentNum_lt (mss : UInt16) :
    (SegmentHeader.ofWord mss).segmentNum.toNat < maxSegments := by
  show (p7GetSegment mss).toUInt8.toNat < 128
  rw [UInt16.toNat_toUInt8, p7GetSegment_toNat]
  omega

theorem acceptMessage_eq_some {header : SegmentHeader}
    (h : acceptMessage crc32 checksumEnabled msg = .ok (some header)) :
    p7HeaderLength ≤ msg.bytes.length ∧ header = headerOf msg.bytes := by
  rw [acceptMessage] at h
  split_ifs at h with hshort
  · cases h
  · rw [p7MessageHeaderUnpack] at h
    split_ifs at h with hroom
    · cases h
    · obtain ⟨unpacked, hunpack, hrest⟩ := bind_eq_ok.mp h
      cases unpacked with
      | none => cases hrest
      | some packed =>
        obtain ⟨last, hpull⟩ := Pull.run_eq_some.mp hunpack
        simp only at hrest
        split_ifs at hrest
        · cases hrest
        · cases hrest
          rw [(pullHeader_words hpull).2]
          exact ⟨Nat.le_of_not_lt hroom, rfl⟩

/-- The four ways in which the handler returns. -/
inductive Handles (crc32 : UInt32 → List UInt8 → UInt32) (checksumEnabled : Bool)
    (state : RxState) (msg : Datagram) (rxHrTime : UInt32) : List Dispatch → RxState → Prop
  | ignored (h : acceptMessage crc32 checksumEnabled msg = .ok none) :
      Handles crc32 checksumEnabled state msg rxHrTime [] state
  | whole {header : SegmentHeader} (h : acceptMessage crc32 checksumEnabled msg = .ok (some header))
      (hwhole : header.IsWhole) :
      Handles crc32 checksumEnabled state msg rxHrTime [⟨msg.bytes, rxHrTime⟩]
        { state with queue := removeOldMsgs state.queue rxHrTime staleDelta }
  | stored {header : SegmentHeader}
      (h : acceptMessage crc32 checksumEnabled msg = .ok (some header))
      (hsegment : ¬ header.IsWhole) {rxMsg : RxMessage} {queue : ReassemblyQueue}
      (hadd : addSegment state.queue rxHrTime header.sequenceNum header.segmentNum header.m
        msg.bytes = (rxMsg, queue))
      (hincomplete : ¬ rxMsg.Complete) :
      Handles crc32 checksumEnabled state msg rxHrTime []
        { state with queue := removeOldMsgs queue rxHrTime staleDelta }
  | completed {header : SegmentHeader}
      (h : acceptMessage crc32 checksumEnabled msg = .ok (some header))
      (hsegment : ¬ header.IsWhole) {rxMsg : RxMessage} {queue : ReassemblyQueue}
      (hadd : addSegment state.queue rxHrTime header.sequenceNum header.segmentNum header.m
        msg.bytes = (rxMsg, queue))
      (hcomplete : rxMsg.Complete) {buffer : List UInt8} {length : UInt16}
      (hreassemble : reassemble state.reassemblyBuffer rxMsg = .ok (buffer, length)) :
      Handles crc32 checksumEnabled state msg rxHrTime
        [⟨buffer.take length.toNat, rxMsg.rxHrTime⟩]
        { queue := removeOldMsgs (removeMsg queue rxMsg) rxHrTime staleDelta
          reassemblyBuffer := buffer }

theorem handleP7Message_eq_ok :
    handleP7Message crc32 checksumEnabled state msg rxHrTime = .ok (dispatched, next) ↔
      Handles crc32 checksumEnabled state msg rxHrTime dispatched next := by
  unfold handleP7Message
  constructor
  · intro h
    obtain ⟨accepted, haccept, hrest⟩ := bind_eq_ok.mp h
    cases accepted with
    | none =>
      cases hrest
      exact .ignored haccept
    | some header =>
      have hlength := (acceptMessage_eq_some haccept).1
      have hlong : ¬ msg.bytes.length < 8 := fun hshort ↦ by
        rw [p7HeaderLength] at hlength
        omega
      unfold handleAccepted at hrest
      by_cases hwhole : header.IsWhole
      · simp only [if_pos hwhole, if_neg hlong] at hrest
        cases hrest
        exact .whole haccept hwhole
      · simp only [if_neg hwhole] at hrest
        split_ifs at hrest with hcomplete
        · obtain ⟨⟨buffer, length⟩, hreassemble, hpure⟩ := bind_eq_ok.mp hrest
          cases hpure
          exact .completed haccept hwhole rfl hcomplete hreassemble
        · cases hrest
          exact .stored haccept hwhole rfl hcomplete
  · intro h
    cases h with
    | ignored h => rw [h]; rfl
    | whole h hwhole =>
      have hlength := (acceptMessage_eq_some h).1
      have hlong : ¬ msg.bytes.length < 8 := fun hshort ↦ by
        rw [p7HeaderLength] at hlength
        omega
      simp only [h, ok_bind, handleAccepted, if_pos hwhole, if_neg hlong, pure_eq_ok]
    | stored h hsegment hadd hincomplete =>
      simp only [h, ok_bind, handleAccepted, if_neg hsegment, hadd, if_neg hincomplete, pure_eq_ok]
    | completed h hsegment hadd hcomplete hreassemble =>
      simp only [h, ok_bind, handleAccepted, if_neg hsegment, hadd, if_pos hcomplete, hreassemble,
        pure_eq_ok]

/-- An entry of the queue after a call was there before, or it is the one that got the segment. -/
theorem Handles.mem_queue
    (h : Handles crc32 checksumEnabled state msg rxHrTime dispatched next) {entry : RxMessage}
    (hentry : entry ∈ next.queue) :
    entry ∈ state.queue ∨ ∃ header, acceptMessage crc32 checksumEnabled msg = .ok (some header) ∧
      ¬ header.IsWhole ∧ entry = (addSegment state.queue rxHrTime header.sequenceNum
        header.segmentNum header.m msg.bytes).1 := by
  cases h with
  | ignored h => exact Or.inl hentry
  | whole h hwhole => exact Or.inl (KeyedList.mem_filter.mp hentry).1
  | @stored header h hsegment rxMsg queue hadd hincomplete =>
    have hmem : entry ∈ queue := (KeyedList.mem_filter.mp hentry).1
    have hqueue : entry ∈ (addSegment state.queue rxHrTime header.sequenceNum header.segmentNum
        header.m msg.bytes).2 := by rwa [hadd]
    rcases mem_addSegment hqueue with heq | hold
    · exact Or.inr ⟨header, h, hsegment, heq⟩
    · exact Or.inl hold
  | @completed header h hsegment rxMsg queue hadd hcomplete buffer length hreassemble =>
    have hmem : entry ∈ queue :=
      (KeyedList.mem_erase.mp (KeyedList.mem_filter.mp hentry).1).1
    have hqueue : entry ∈ (addSegment state.queue rxHrTime header.sequenceNum header.segmentNum
        header.m msg.bytes).2 := by rwa [hadd]
    rcases mem_addSegment hqueue with heq | hold
    · exact Or.inr ⟨header, h, hsegment, heq⟩
    · exact Or.inl hold

end Handler

end MultiUeProxy.Segmentation.Reassembly
