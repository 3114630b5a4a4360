import MultiUeProxy.P7.Pack
import MultiUeProxy.Segmentation.Reassembly

/-!
# Sending segmented P7 messages

The sender of `pnf_p7.c`. `pnf_p7_pack_and_send_p7_message` and `pnf_nr_p7_pack_and_send_p7_message`
differ only in the encoder, so one definition stands for both. A packed message that is longer than
the segment size is cut into segments: each is a copy of the header, with its own length and with
the more flag and the segment number in the seventh byte, and a piece of the body. The eighth byte,
the sequence number, is what the writer macro left there.

`sendPacked_of_long` describes the segments as headers and pieces; what the receiver reads from them
is `headerOf_segmentDatagram`.
-/

set_option autoImplicit false
set_option relaxedAutoImplicit false

namespace MultiUeProxy.Segmentation.Sender

open Lib.Execution Lib.ByteWriter Lib.ByteCursor Lib.NumberedPieces P7.Header P7.Pack HeaderWord
  Reassembly

/-- What the sender reads of `nfapi_pnf_p7_config_t`. The sender divides by the room a segment has
behind its header, so there has to be some. -/
structure P7Config where
  segmentSize : UInt16
  checksumEnabled : Bool
  header_lt : p7HeaderLength < segmentSize.toNat

namespace P7Config

/-- `seg_body_len`. -/
def segBodyLen (config : P7Config) : ℕ := config.segmentSize.toNat - p7HeaderLength

theorem segBodyLen_pos (config : P7Config) : 0 < config.segBodyLen :=
  Nat.sub_pos_of_lt config.header_lt

/-- `segment_count` of a body. -/
def segmentCount (config : P7Config) (msgBodyLen : ℕ) : ℕ :=
  msgBodyLen / config.segBodyLen + if msgBodyLen % config.segBodyLen ≠ 0 then 1 else 0

end P7Config

/-- Every segment has one byte of the body. -/
def oneByteSegments : P7Config where
  segmentSize := 17
  checksumEnabled := false
  header_lt := by decide

/-- `nfapi_p7_update_checksum`. -/
def updateChecksum (crc32 : UInt32 → List UInt8 → UInt32) (buffer : List UInt8) : List UInt8 :=
  buffer.take 8 ++ bytes32 (calculateChecksum crc32 buffer) ++ buffer.drop 12

/-- The checksum is filled in if the configuration asks for it. -/
def withChecksum (crc32 : UInt32 → List UInt8 → UInt32) (config : P7Config)
    (buffer : List UInt8) : List UInt8 :=
  if config.checksumEnabled then updateChecksum crc32 buffer else buffer

/-- The byte with the more flag and the segment number, where the addition overflows. -/
def moreAndSegment (last : Bool) (segment : ℕ) : UInt8 := ((if last then 0 else 0x80) + segment).toUInt8

/-- A segment, with `size` bytes of the body. -/
def makeSegment (packed : List UInt8) (last : Bool) (segment size offset : ℕ) : List UInt8 :=
  packed.take 4 ++ bytes16 (size + p7HeaderLength).toUInt16 ++ [moreAndSegment last segment] ++
    (packed.take p7HeaderLength).drop 7 ++ (packed.drop offset).take size

/-- The loop over the segments that are left, with the place in the packed message where the next
one begins. -/
def sendSegments (crc32 : UInt32 → List UInt8 → UInt32) (config : P7Config) (packed : List UInt8)
    (segmentCount : ℕ) : (left segment offset : ℕ) → List (List UInt8)
  | 0, _, _ => []
  | left + 1, segment, offset =>
    let last := segment + 1 == segmentCount
    let size := if last then packed.length - p7HeaderLength - config.segBodyLen * segment
      else config.segBodyLen
    withChecksum crc32 config (makeSegment packed last segment size offset) ::
      sendSegments crc32 config packed segmentCount left (segment + 1) (offset + size)

/-- The datagrams that a packed message is sent in. -/
def sendPacked (crc32 : UInt32 → List UInt8 → UInt32) (config : P7Config) (packed : List UInt8) :
    List (List UInt8) :=
  if packed.length > config.segmentSize.toNat then
    let segmentCount := config.segmentCount (packed.length - p7HeaderLength)
    sendSegments crc32 config packed segmentCount segmentCount 0 p7HeaderLength
  else [withChecksum crc32 config packed]

/-- `pnf_p7_pack_and_send_p7_message` and `pnf_nr_p7_pack_and_send_p7_message`: the datagrams, or
nothing if the message cannot be packed, and the sequence number for the next message. -/
def packAndSendP7Message (crc32 : UInt32 → List UInt8 → UInt32) (config : P7Config)
    (encode : BodyEncoder) (header : P7MessageHeader) (sequenceNumber : UInt32) :
    Option (List (List UInt8)) × UInt32 :=
  match messagePack encode.push rxIndDataMax
    { header with mSegmentSequence := p7SetMss 0 0 sequenceNumber } with
  | none => (none, sequenceNumber)
  | some packed => (some (sendPacked crc32 config packed), sequenceNumber + 1)

/-! ### Headers with a checksum -/

section Checksum

variable {crc32 : UInt32 → List UInt8 → UInt32} {config : P7Config}

/-- The header that the checksum is filled into. -/
def checkedHeader (crc32 : UInt32 → List UInt8 → UInt32) (config : P7Config)
    (header : P7MessageHeader) (body : List UInt8) : P7MessageHeader :=
  if config.checksumEnabled then
    { header with checksum := calculateChecksum crc32 (headerBytes header ++ body) }
  else header

theorem withChecksum_headerBytes (header : P7MessageHeader) (body : List UInt8) :
    withChecksum crc32 config (headerBytes header ++ body) =
      headerBytes (checkedHeader crc32 config header body) ++ body := by
  unfold withChecksum checkedHeader
  split_ifs <;> rfl

/-- The checksum does not depend on the checksum field. -/
theorem calculateChecksum_set (header : P7MessageHeader) (checksum : UInt32) (body : List UInt8) :
    calculateChecksum crc32 (headerBytes { header with checksum } ++ body) =
      calculateChecksum crc32 (headerBytes header ++ body) := rfl

@[simp] theorem checkedHeader_mSegmentSequence (header : P7MessageHeader) (body : List UInt8) :
    (checkedHeader crc32 config header body).mSegmentSequence = header.mSegmentSequence := by
  unfold checkedHeader
  split_ifs <;> rfl

/-- What the sender sends is accepted by a receiver with the same configuration. -/
theorem acceptMessage_checkedHeader (header : P7MessageHeader) (body : List UInt8)
    {msg : Datagram}
    (hmsg : msg.bytes = headerBytes (checkedHeader crc32 config header body) ++ body) :
    acceptMessage crc32 config.checksumEnabled msg =
      .ok (some (.ofWord header.mSegmentSequence)) := by
  have hlength : msg.bytes.length = p7HeaderLength + body.length := by
    rw [hmsg, List.length_append, length_headerBytes]
  have hlong : ¬ msg.bytes.length < 4 := by
    rw [hlength, p7HeaderLength]
    omega
  have hchecksum : ¬ (config.checksumEnabled = true ∧
      calculateChecksum crc32 msg.bytes ≠ (checkedHeader crc32 config header body).checksum) := by
    rintro ⟨henabled, hne⟩
    refine hne ?_
    rw [hmsg]
    unfold checkedHeader
    rw [if_pos henabled]
    exact calculateChecksum_set header _ body
  rw [acceptMessage, if_neg hlong, hmsg, p7MessageHeaderUnpack_headerBytes, ok_bind, ← hmsg]
  simp only [if_neg hchecksum, checkedHeader_mSegmentSequence, pure_eq_ok]

end Checksum

/-! ### What the receiver reads -/

/-- The fields in a datagram that begins with a header are those of the header's word. -/
theorem headerOf_headerBytes (header : P7MessageHeader) (body : List UInt8) :
    headerOf (headerBytes header ++ body) = .ofWord header.mSegmentSequence := by
  have hword : Pull.word16 (memoryOf (headerBytes header ++ body)) 6 = header.mSegmentSequence :=
    join_bytes16 header.mSegmentSequence
  rw [headerOf, hword]

/-- The more flag is the highest bit of the first byte and the segment number its other bits. -/
theorem ofWord_join (high low : UInt8) :
    (SegmentHeader.ofWord ((high.toUInt16 <<< 8) ||| low.toUInt16)).m.toNat = high.toNat / 128 ∧
      (SegmentHeader.ofWord ((high.toUInt16 <<< 8) ||| low.toUInt16)).segmentNum.toNat =
        high.toNat % 128 := by
  have hhigh := high.toNat_lt
  have hlow := low.toNat_lt
  constructor
  · show (p7GetMore _).toUInt8.toNat = _
    rw [UInt16.toNat_toUInt8, p7GetMore_toNat, join_toNat]
    omega
  · show (p7GetSegment _).toUInt8.toNat = _
    rw [UInt16.toNat_toUInt8, p7GetSegment_toNat, join_toNat]
    omega

/-- The sequence number is the low byte. -/
theorem ofWord_sequenceNum (mss : UInt16) : (SegmentHeader.ofWord mss).sequenceNum = mss.toUInt8 := by
  apply UInt8.toNat_inj.mp
  show (p7GetSequence mss).toUInt8.toNat = mss.toUInt8.toNat
  rw [UInt16.toNat_toUInt8, UInt16.toNat_toUInt8, p7GetSequence_toNat]
  exact Nat.mod_mod _ _

/-- What the writer macro wrote for a sequence number is no segment for the receiver. -/
theorem isWhole_p7SetMss (sequenceNumber : UInt32) :
    (SegmentHeader.ofWord (p7SetMss 0 0 sequenceNumber)).IsWhole := by
  obtain ⟨hmore, hsegment, -⟩ := p7Get_p7SetMss 0 0 sequenceNumber
  constructor
  · show (p7GetMore _).toUInt8 = 0
    rw [hmore]
    rfl
  · show (p7GetSegment _).toUInt8 = 0
    rw [hsegment]
    rfl

/-! ### The segments of a message -/

section Segments

variable {crc32 : UInt32 → List UInt8 → UInt32} {config : P7Config} {header : P7MessageHeader}
  {body : List UInt8}

/-- The segments have room for the whole body. -/
theorem le_segmentCount_mul (config : P7Config) (msgBodyLen : ℕ) :
    msgBodyLen ≤ config.segmentCount msgBodyLen * config.segBodyLen := by
  have hdivide := Nat.div_add_mod' msgBodyLen config.segBodyLen
  have hrest := Nat.mod_lt msgBodyLen config.segBodyLen_pos
  rw [P7Config.segmentCount, Nat.add_mul]
  split_ifs with hexact
  · omega
  · omega

/-- No segment is empty. -/
theorem mul_lt_of_lt_segmentCount {msgBodyLen segment : ℕ}
    (h : segment < config.segmentCount msgBodyLen) :
    segment * config.segBodyLen < msgBodyLen := by
  have hdivide := Nat.div_add_mod' msgBodyLen config.segBodyLen
  rw [P7Config.segmentCount] at h
  split_ifs at h with hexact
  · have hle := Nat.mul_le_mul_right config.segBodyLen (Nat.le_of_lt_succ h)
    omega
  · have hlt := Nat.mul_lt_mul_of_pos_right (show segment < msgBodyLen / config.segBodyLen by omega)
      config.segBodyLen_pos
    omega

/-- The word of a segment. -/
def segmentWord (header : P7MessageHeader) (last : Bool) (segment : ℕ) : UInt16 :=
  ((moreAndSegment last segment).toUInt16 <<< 8) ||| header.mSegmentSequence.toUInt8.toUInt16

/-- The segment with a number, as the datagram that is sent. -/
def segmentDatagram (crc32 : UInt32 → List UInt8 → UInt32) (config : P7Config)
    (header : P7MessageHeader) (body : List UInt8) (segment : ℕ) : List UInt8 :=
  let data := piece config.segBodyLen body segment
  let segmentHeader :=
    { header with
      messageLength := (data.length + p7HeaderLength).toUInt16
      mSegmentSequence :=
        segmentWord header (segment + 1 == config.segmentCount body.length) segment }
  headerBytes (checkedHeader crc32 config segmentHeader data) ++ data

theorem makeSegment_headerBytes (last : Bool) (segment size start : ℕ)
    (hsize : ((body.drop start).take size).length = size) :
    makeSegment (headerBytes header ++ body) last segment size (p7HeaderLength + start) =
      headerBytes { header with
        messageLength := (((body.drop start).take size).length + p7HeaderLength).toUInt16
        mSegmentSequence := segmentWord header last segment } ++ (body.drop start).take size := by
  have hdrop : (headerBytes header ++ body).drop (p7HeaderLength + start) = body.drop start := by
    rw [← length_headerBytes header, ← List.drop_drop, List.drop_left]
  have hword : bytes16 (segmentWord header last segment) =
      [moreAndSegment last segment, header.mSegmentSequence.toUInt8] := bytes16_join _ _
  unfold makeSegment
  rw [hdrop, hsize]
  simp only [headerBytes, hword]
  rfl

/-- A piece that is not the last has the full size, and the last one has the rest. -/
theorem length_piece_eq {segment : ℕ} (h : segment < config.segmentCount body.length) :
    (piece config.segBodyLen body segment).length =
      if segment + 1 == config.segmentCount body.length then
        body.length - config.segBodyLen * segment
      else config.segBodyLen := by
  split_ifs with hlast
  · have hcount := le_segmentCount_mul config body.length
    rw [← eq_of_beq hlast, Nat.succ_mul] at hcount
    rw [length_piece, Nat.mul_comm config.segBodyLen]
    omega
  · have hnext : segment + 1 < config.segmentCount body.length := by
      have hne : segment + 1 ≠ config.segmentCount body.length := fun heq ↦ hlast (beq_iff_eq.mpr heq)
      omega
    exact length_piece_of_lt (mul_lt_of_lt_segmentCount hnext).le

/-- The loop sends the segments from a number on. -/
theorem sendSegments_eq (crc32 : UInt32 → List UInt8 → UInt32) (header : P7MessageHeader)
    (left segment : ℕ)
    (hcount : segment + left = config.segmentCount body.length) :
    sendSegments crc32 config (headerBytes header ++ body) (config.segmentCount body.length) left
      segment (p7HeaderLength + segment * config.segBodyLen) =
      (List.range' segment left).map (segmentDatagram crc32 config header body) := by
  induction left generalizing segment with
  | zero => rfl
  | succ left ih =>
    have hlt : segment < config.segmentCount body.length := by omega
    have hlength : (headerBytes header ++ body).length - p7HeaderLength = body.length := by
      rw [List.length_append, length_headerBytes, Nat.add_sub_cancel_left]
    have hsize := length_piece_eq hlt
    have hsegment : withChecksum crc32 config (makeSegment (headerBytes header ++ body)
        (segment + 1 == config.segmentCount body.length) segment
        (piece config.segBodyLen body segment).length
        (p7HeaderLength + segment * config.segBodyLen)) =
          segmentDatagram crc32 config header body segment := by
      have hpiece : (body.drop (segment * config.segBodyLen)).take
          (piece config.segBodyLen body segment).length = piece config.segBodyLen body segment := by
        rw [length_piece, ← List.length_drop, piece]
        exact List.take_eq_take_min.symm
      rw [makeSegment_headerBytes _ _ _ _ (by rw [hpiece]), hpiece, withChecksum_headerBytes]
      rfl
    rw [List.range'_succ, List.map_cons, sendSegments]
    simp only [hlength, ← hsize, hsegment]
    congr 1
    cases left with
    | zero => rfl
    | succ left =>
      have hfull : (piece config.segBodyLen body segment).length = config.segBodyLen := by
        rw [hsize, if_neg]
        intro hlast
        rw [← eq_of_beq hlast] at hcount
        omega
      rw [hfull, Nat.add_assoc, ← Nat.succ_mul]
      exact ih (segment + 1) (by omega)

theorem length_headerBytes_append (header : P7MessageHeader) (body : List UInt8) :
    (headerBytes header ++ body).length = p7HeaderLength + body.length := by
  rw [List.length_append, length_headerBytes]

/-- A long message is sent in numbered segments. -/
theorem sendPacked_of_long (hlong : config.segBodyLen < body.length) :
    sendPacked crc32 config (headerBytes header ++ body) =
      (List.range (config.segmentCount body.length)).map
        (segmentDatagram crc32 config header body) := by
  have hlength := length_headerBytes_append header body
  have hheader := config.header_lt
  have hsegments := sendSegments_eq crc32 header (config.segmentCount body.length) 0 (Nat.zero_add _)
  rw [Nat.zero_mul, Nat.add_zero, ← List.range_eq_range'] at hsegments
  unfold P7Config.segBodyLen at hlong
  rw [sendPacked, if_pos (by omega), hlength, Nat.add_sub_cancel_left]
  exact hsegments

/-- A short message is sent as it is. -/
theorem sendPacked_of_short (hshort : body.length ≤ config.segBodyLen) :
    sendPacked crc32 config (headerBytes header ++ body) =
      [headerBytes (checkedHeader crc32 config header body) ++ body] := by
  have hlength := length_headerBytes_append header body
  have hheader := config.header_lt
  unfold P7Config.segBodyLen at hshort
  rw [sendPacked, if_neg (by omega), withChecksum_headerBytes]

/-- What the receiver reads from a segment. -/
theorem headerOf_segmentDatagram (segment : ℕ) :
    headerOf (segmentDatagram crc32 config header body segment) =
      .ofWord (segmentWord header (segment + 1 == config.segmentCount body.length) segment) := by
  rw [segmentDatagram, headerOf_headerBytes, checkedHeader_mSegmentSequence]

/-- Every datagram of a message carries the low byte of the message's word as sequence number. -/
theorem sequenceNum_of_mem_sendPacked (crc32 : UInt32 → List UInt8 → UInt32) (config : P7Config)
    (body : List UInt8) {bytes : List UInt8}
    (hmem : bytes ∈ sendPacked crc32 config (headerBytes header ++ body)) :
    (headerOf bytes).sequenceNum = header.mSegmentSequence.toUInt8 := by
  by_cases hlong : config.segBodyLen < body.length
  · rw [sendPacked_of_long hlong] at hmem
    obtain ⟨segment, -, rfl⟩ := List.mem_map.mp hmem
    rw [headerOf_segmentDatagram, ofWord_sequenceNum]
    apply UInt8.toNat_inj.mp
    rw [UInt16.toNat_toUInt8, segmentWord, join_toNat]
    have hlow := header.mSegmentSequence.toUInt8.toNat_lt
    omega
  · rw [sendPacked_of_short (Nat.le_of_not_lt hlong)] at hmem
    rw [List.mem_singleton.mp hmem, headerOf_headerBytes, checkedHeader_mSegmentSequence,
      ofWord_sequenceNum]

/-- A segment is accepted by a receiver with the same configuration. -/
theorem acceptMessage_segmentDatagram {segment : ℕ} {msg : Datagram}
    (hmsg : msg.bytes = segmentDatagram crc32 config header body segment) :
    acceptMessage crc32 config.checksumEnabled msg = .ok (some (headerOf msg.bytes)) := by
  rw [acceptMessage_checkedHeader _ _ hmsg, hmsg, headerOf_segmentDatagram]

/-- The more flag and the segment number that the receiver reads from a segment. -/
theorem fields_segmentDatagram (crc32 : UInt32 → List UInt8 → UInt32) (config : P7Config)
    (header : P7MessageHeader) (body : List UInt8) (segment : ℕ) :
    (headerOf (segmentDatagram crc32 config header body segment)).m.toNat =
        (moreAndSegment (segment + 1 == config.segmentCount body.length) segment).toNat / 128 ∧
      (headerOf (segmentDatagram crc32 config header body segment)).segmentNum.toNat =
        (moreAndSegment (segment + 1 == config.segmentCount body.length) segment).toNat % 128 := by
  rw [headerOf_segmentDatagram]
  exact ofWord_join _ _

theorem length_segmentDatagram (segment : ℕ) :
    (segmentDatagram crc32 config header body segment).length =
      p7HeaderLength + (piece config.segBodyLen body segment).length :=
  length_headerBytes_append _ _

/-- The body of a segment is its piece of the body of the message. -/
theorem drop_segmentDatagram (segment : ℕ) :
    (segmentDatagram crc32 config header body segment).drop p7HeaderLength =
      piece config.segBodyLen body segment := by
  rw [segmentDatagram, drop_headerBytes]

end Segments

theorem packAndSendP7Message_of_packed {crc32 : UInt32 → List UInt8 → UInt32} {config : P7Config}
    {encode : BodyEncoder} {header : P7MessageHeader} {sequenceNumber : UInt32}
    {packed : List UInt8}
    (h : messagePack encode.push rxIndDataMax
      { header with mSegmentSequence := p7SetMss 0 0 sequenceNumber } = some packed) :
    packAndSendP7Message crc32 config encode header sequenceNumber =
      (some (sendPacked crc32 config packed), sequenceNumber + 1) := by
  unfold packAndSendP7Message
  rw [h]

/-- What is sent is a packed message with the sequence number in its word, cut into datagrams, and
the number is used up. -/
theorem packAndSendP7Message_eq_some {crc32 : UInt32 → List UInt8 → UInt32} {config : P7Config}
    {encode : BodyEncoder} {header : P7MessageHeader} {sequenceNumber next : UInt32}
    {datagrams : List (List UInt8)}
    (h : packAndSendP7Message crc32 config encode header sequenceNumber =
      (some datagrams, next)) :
    next = sequenceNumber + 1 ∧ ∃ sent : P7MessageHeader, ∃ body,
      sent.mSegmentSequence = p7SetMss 0 0 sequenceNumber ∧
      messagePack encode.push rxIndDataMax
        { header with mSegmentSequence := p7SetMss 0 0 sequenceNumber } =
          some (headerBytes sent ++ body) ∧
      p7HeaderLength + body.length ≤ rxIndDataMax ∧
      datagrams = sendPacked crc32 config (headerBytes sent ++ body) := by
  unfold packAndSendP7Message at h
  cases hpack : messagePack encode.push rxIndDataMax
      { header with mSegmentSequence := p7SetMss 0 0 sequenceNumber } with
  | none =>
    rw [hpack] at h
    cases h
  | some packed =>
    rw [hpack] at h
    obtain ⟨body, hpacked, hlength, -⟩ := messagePack_eq_some hpack
    cases h
    refine ⟨rfl, packedHeader { header with mSegmentSequence := p7SetMss 0 0 sequenceNumber }
      packed.length.toUInt16, body, rfl, ?_, ?_, ?_⟩
    · rw [← hpacked]
    · rwa [hpacked, length_headerBytes_append] at hlength
    · rw [← hpacked]

/-- A message that cannot be packed leaves its number to the next one. -/
theorem packAndSendP7Message_eq_none {crc32 : UInt32 → List UInt8 → UInt32} {config : P7Config}
    {encode : BodyEncoder} {header : P7MessageHeader} {sequenceNumber next : UInt32}
    (h : packAndSendP7Message crc32 config encode header sequenceNumber = (none, next)) :
    next = sequenceNumber := by
  unfold packAndSendP7Message at h
  cases hpack : messagePack encode.push rxIndDataMax
      { header with mSegmentSequence := p7SetMss 0 0 sequenceNumber } with
  | none =>
    rw [hpack] at h
    cases h
    rfl
  | some packed =>
    rw [hpack] at h
    cases h

end MultiUeProxy.Segmentation.Sender
