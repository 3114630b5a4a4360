import MultiUeProxy.Segmentation.Transport

/-!
# From the VNF to a PNF

The sender of `vnf_p7.c`. `vnf_p7_pack_and_send_p7_msg` and `vnf_nr_p7_pack_and_send_p7_msg` differ
only in the encoder. Other than the sender of `pnf_p7.c`, this one looks up the connection of the
PHY, which has the sequence number, and packs into 32 KiB. The transmit timestamp is written into
the packed message when a segment has been made of it: a segment has the time of the one before it,
and the first one what the caller left there. The checksum is filled in before the timestamp, but it
does not depend on it.

`downlink_dispatched_iff` says what a PNF makes of the datagrams that the VNF sends to it, while the
VNF sends to other PNFs as well.
-/

set_option autoImplicit false
set_option relaxedAutoImplicit false

namespace MultiUeProxy.Segmentation.VnfSender

open Lib.Execution Lib.ByteCursor Lib.ByteWriter Lib.Gathering Lib.KeyedTable Lib.NumberedPieces
  P7.Header P7.Pack HeaderWord Reassembly Collection Sender RoundTrip Parcels
open VnfReceiver (Connection find update find_update)
open Transport (Carries Stamped exists_cut exists_single wireNumber_toNat)

/-! ### The sender -/

/-- The size of the buffer that a message is packed into. -/
def packBufferSize : ℕ := 1024 * 32

/-- `nfapi_p7_update_transmit_timestamp`. -/
def updateTransmitTimestamp (buffer : List UInt8) (timestamp : UInt32) : List UInt8 :=
  buffer.take 12 ++ bytes32 timestamp ++ buffer.drop 16

/-- The loop over the segments that are left. For every segment, `calculate_transmit_timestamp`
reads the clock. -/
def sendSegments (crc32 : UInt32 → List UInt8 → UInt32) (config : P7Config) (stamp : ℕ → UInt32)
    (segmentCount : ℕ) : (left segment offset : ℕ) → (packed : List UInt8) → List (List UInt8)
  | 0, _, _, _ => []
  | left + 1, segment, offset, packed =>
    let last := segment + 1 == segmentCount
    let size := if last then packed.length - p7HeaderLength - config.segBodyLen * segment
      else config.segBodyLen
    withChecksum crc32 config (makeSegment packed last segment size offset) ::
      sendSegments crc32 config stamp segmentCount left (segment + 1) (offset + size)
        (updateTransmitTimestamp packed (stamp segment))

/-- The datagrams that a packed message is sent in. -/
def sendPacked (crc32 : UInt32 → List UInt8 → UInt32) (config : P7Config) (stamp : ℕ → UInt32)
    (packed : List UInt8) : List (List UInt8) :=
  if packed.length > config.segmentSize.toNat then
    let segmentCount := config.segmentCount (packed.length - p7HeaderLength)
    sendSegments crc32 config stamp segmentCount segmentCount 0 p7HeaderLength packed
  else [updateTransmitTimestamp (withChecksum crc32 config packed) (stamp 0)]

/-- A message that is handed to the sender, with the timestamps that are calculated while it is
sent. -/
structure Request where
  encode : BodyEncoder
  header : P7MessageHeader
  stamp : ℕ → UInt32

/-- `vnf_p7_pack_and_send_p7_msg` and `vnf_nr_p7_pack_and_send_p7_msg`: the datagrams, or nothing if
there is no connection or the message cannot be packed, and the connections. -/
def packAndSendP7Msg (crc32 : UInt32 → List UInt8 → UInt32) (config : P7Config)
    (connections : List Connection) (request : Request) :
    Option (List (List UInt8)) × List Connection :=
  match find connections request.header.phyId with
  | none => (none, connections)
  | some connection =>
    match messagePack request.encode.push packBufferSize
      { request.header with mSegmentSequence := p7SetMss 0 0 connection.sequenceNumber } with
    | none => (none, connections)
    | some packed =>
      (some (sendPacked crc32 config request.stamp packed),
        update request.header.phyId
          (fun connection ↦ { connection with sequenceNumber := connection.sequenceNumber + 1 })
          connections)

/-- The datagrams of the messages that are sent to the PNF of a PHY, one list for each, in a run of
the sender. -/
def sendAllTo (crc32 : UInt32 → List UInt8 → UInt32) (config : P7Config) (phyId : UInt16) :
    List Connection → List Request → List (List (List UInt8))
  | _, [] => []
  | connections, request :: rest =>
    match packAndSendP7Msg crc32 config connections request with
    | (some datagrams, next) =>
      if request.header.phyId = phyId then datagrams :: sendAllTo crc32 config phyId next rest
      else sendAllTo crc32 config phyId next rest
    | (none, next) => sendAllTo crc32 config phyId next rest

/-! ### The segments -/

section Segments

variable {crc32 : UInt32 → List UInt8 → UInt32} {config : P7Config} {header : P7MessageHeader}
  {stamp : ℕ → UInt32} {body : List UInt8}

/-- The header of the packed message when a segment is made of it. -/
def headerAt (header : P7MessageHeader) (stamp : ℕ → UInt32) : ℕ → P7MessageHeader
  | 0 => header
  | segment + 1 => { header with transmitTimestamp := stamp segment }

theorem updateTransmitTimestamp_headerBytes (header : P7MessageHeader) (body : List UInt8)
    (timestamp : UInt32) : updateTransmitTimestamp (headerBytes header ++ body) timestamp =
      headerBytes { header with transmitTimestamp := timestamp } ++ body :=
  rfl

theorem updateTransmitTimestamp_headerAt (segment : ℕ) :
    updateTransmitTimestamp (headerBytes (headerAt header stamp segment) ++ body) (stamp segment) =
      headerBytes (headerAt header stamp (segment + 1)) ++ body := by
  rw [updateTransmitTimestamp_headerBytes]
  cases segment <;> rfl

/-- A segment, with the timestamp that is in the packed message by then. -/
def stampedSegment (crc32 : UInt32 → List UInt8 → UInt32) (config : P7Config)
    (header : P7MessageHeader) (stamp : ℕ → UInt32) (body : List UInt8) (segment : ℕ) :
    List UInt8 :=
  segmentDatagram crc32 config (headerAt header stamp segment) body segment

/-- The loop sends the segments from a number on. -/
theorem sendSegments_eq (left segment : ℕ)
    (hcount : segment + left = config.segmentCount body.length) :
    sendSegments crc32 config stamp (config.segmentCount body.length) left segment
      (p7HeaderLength + segment * config.segBodyLen)
      (headerBytes (headerAt header stamp segment) ++ body) =
        (List.range' segment left).map (stampedSegment crc32 config header stamp body) := by
  induction left generalizing segment with
  | zero => rfl
  | succ left ih =>
    have hplain := Sender.sendSegments_eq crc32 (headerAt header stamp segment) (left + 1) segment
      hcount
    rw [Sender.sendSegments, List.range'_succ, List.map_cons] at hplain
    rw [sendSegments, List.range'_succ, List.map_cons, updateTransmitTimestamp_headerAt]
    refine congrArg₂ List.cons (List.cons.inj hplain).1 ?_
    cases left with
    | zero => rfl
    | succ left =>
      have hlast : (segment + 1 == config.segmentCount body.length) = false := by
        apply beq_false_of_ne
        omega
      simp only [hlast, Bool.false_eq_true, if_false]
      rw [Nat.add_assoc, ← Nat.succ_mul]
      exact ih (segment + 1) (by omega)

theorem sendPacked_of_long (hlong : config.segBodyLen < body.length) :
    sendPacked crc32 config stamp (headerBytes header ++ body) =
      (List.range (config.segmentCount body.length)).map
        (stampedSegment crc32 config header stamp body) := by
  have hlength := length_headerBytes_append header body
  have hheader := config.header_lt
  have hsegments : sendSegments crc32 config stamp (config.segmentCount body.length)
      (config.segmentCount body.length) 0 (p7HeaderLength + 0 * config.segBodyLen)
      (headerBytes header ++ body) = _ := sendSegments_eq _ 0 (Nat.zero_add _)
  rw [Nat.zero_mul, Nat.add_zero, ← List.range_eq_range'] at hsegments
  unfold P7Config.segBodyLen at hlong
  rw [sendPacked, if_pos (by omega), hlength, Nat.add_sub_cancel_left]
  exact hsegments

/-- The checksum does not depend on the timestamp. -/
theorem stamp_checkedHeader (timestamp : UInt32) :
    { checkedHeader crc32 config header body with transmitTimestamp := timestamp } =
      checkedHeader crc32 config { header with transmitTimestamp := timestamp } body := by
  unfold checkedHeader
  split_ifs <;> rfl

theorem sendPacked_of_short (hshort : body.length ≤ config.segBodyLen) :
    sendPacked crc32 config stamp (headerBytes header ++ body) =
      [headerBytes (checkedHeader crc32 config { header with transmitTimestamp := stamp 0 } body) ++
        body] := by
  have hlength := length_headerBytes_append header body
  have hheader := config.header_lt
  unfold P7Config.segBodyLen at hshort
  rw [sendPacked, if_neg (by omega), withChecksum_headerBytes, updateTransmitTimestamp_headerBytes,
    stamp_checkedHeader]

theorem stamped_headerAt (header : P7MessageHeader) (stamp : ℕ → UInt32) :
    Stamped header (headerAt header stamp) := by
  rintro (_ | segment)
  · exact ⟨header.transmitTimestamp, rfl⟩
  · exact ⟨stamp segment, rfl⟩

/-- What is sent of a message of not more than 128 segments is a parcel with the message in it. -/
theorem exists_parcel (crc32 : UInt32 → List UInt8 → UInt32) (config : P7Config)
    (stamp : ℕ → UInt32) {sequenceNumber : UInt32}
    (hword : header.mSegmentSequence = p7SetMss 0 0 sequenceNumber)
    (hlength : p7HeaderLength + body.length ≤ packBufferSize)
    (hsmall : body.length ≤ maxSegments * config.segBodyLen) :
    ∃ parcel : Parcel crc32 config.checksumEnabled,
      parcel.Sends (sendPacked crc32 config stamp (headerBytes header ++ body)) ∧
      Carries parcel.message (headerBytes header ++ body) ∧
      ∀ c, parcel = .cut c → c.number = header.mSegmentSequence.toUInt8 := by
  rw [packBufferSize] at hlength
  by_cases hlong : config.segBodyLen < body.length
  · obtain ⟨c, hsegment, hcount, hnumber, hcarries⟩ :=
      exists_cut crc32 (stamped_headerAt header stamp) hlong (by omega) hsmall
    refine ⟨.cut c, ?_, hcarries, fun d hd ↦ ?_⟩
    · show _ = (List.range c.count).map c.segment
      rw [hsegment, hcount]
      exact sendPacked_of_long hlong
    · cases hd
      exact hnumber
  · obtain ⟨s, hbytes, hcarries⟩ := exists_single crc32 config (stamp 0) body hword
    refine ⟨.single s, ?_, hcarries, fun c hc ↦ ?_⟩
    · show _ = [s.bytes]
      rw [hbytes]
      exact sendPacked_of_short (Nat.le_of_not_lt hlong)
    · cases hc

end Segments

/-! ### A run of the sender -/

/-- The messages that are packed for the PNF of a PHY, each with its timestamps. -/
def packAllTo (phyId : UInt16) : List Connection → List Request →
    List (List UInt8 × (ℕ → UInt32))
  | _, [] => []
  | connections, request :: rest =>
    match find connections request.header.phyId with
    | none => packAllTo phyId connections rest
    | some connection =>
      match messagePack request.encode.push packBufferSize
        { request.header with mSegmentSequence := p7SetMss 0 0 connection.sequenceNumber } with
      | none => packAllTo phyId connections rest
      | some packed =>
        let next := update request.header.phyId
          (fun connection ↦ { connection with sequenceNumber := connection.sequenceNumber + 1 })
          connections
        if request.header.phyId = phyId then (packed, request.stamp) :: packAllTo phyId next rest
        else packAllTo phyId next rest

/-- What is sent are the datagrams of the packed messages. -/
theorem sendAllTo_eq (crc32 : UInt32 → List UInt8 → UInt32) (config : P7Config) (phyId : UInt16)
    (connections : List Connection) (requests : List Request) :
    sendAllTo crc32 config phyId connections requests =
      (packAllTo phyId connections requests).map fun packed ↦
        sendPacked crc32 config packed.2 packed.1 := by
  induction requests generalizing connections with
  | nil => rfl
  | cons request rest ih =>
    rw [sendAllTo, packAllTo, packAndSendP7Msg]
    cases find connections request.header.phyId with
    | none => exact ih connections
    | some connection =>
      cases hpack : messagePack request.encode.push packBufferSize
          { request.header with mSegmentSequence := p7SetMss 0 0 connection.sequenceNumber } with
      | none => simpa only [hpack] using ih connections
      | some packed =>
        simp only [hpack]
        split_ifs
        · rw [List.map_cons, ih]
        · exact ih _

/-- The packed message with an index has the number of the connection plus that index in its word,
whatever is sent to the other PNFs. -/
theorem packAllTo_getElem? {phyId : UInt16} {connections : List Connection}
    {connection : Connection} (hfind : find connections phyId = some connection)
    {requests : List Request} {index : ℕ} {packed : List UInt8 × (ℕ → UInt32)}
    (h : (packAllTo phyId connections requests)[index]? = some packed) :
    ∃ header body, packed.1 = headerBytes header ++ body ∧
      header.mSegmentSequence = p7SetMss 0 0 (connection.sequenceNumber + UInt32.ofNat index) ∧
      p7HeaderLength + body.length ≤ packBufferSize := by
  induction requests generalizing connections connection index with
  | nil => cases h
  | cons request rest ih =>
    rw [packAllTo] at h
    cases hrequest : find connections request.header.phyId with
    | none =>
      rw [hrequest] at h
      exact ih hfind h
    | some found =>
      rw [hrequest] at h
      cases hpack : messagePack request.encode.push packBufferSize
          { request.header with mSegmentSequence := p7SetMss 0 0 found.sequenceNumber } with
      | none =>
        simp only [hpack] at h
        exact ih hfind h
      | some first =>
        simp only [hpack] at h
        have hnext := find_update request.header.phyId phyId
          (fun connection ↦ { connection with sequenceNumber := connection.sequenceNumber + 1 })
          (fun _ ↦ rfl) connections
        by_cases hphy : request.header.phyId = phyId
        · rw [hphy, hfind] at hrequest
          cases hrequest
          rw [if_pos hphy.symm, hphy, hfind] at hnext
          rw [if_pos hphy, hphy] at h
          cases index with
          | zero =>
            obtain rfl : (first, request.stamp) = packed := Option.some.inj h
            obtain ⟨body, hfirst, hlimit, -⟩ := messagePack_eq_some hpack
            refine ⟨_, body, hfirst, ?_, ?_⟩
            · show p7SetMss 0 0 connection.sequenceNumber =
                p7SetMss 0 0 (connection.sequenceNumber + 0)
              rw [UInt32.add_zero]
            · rwa [hfirst, length_headerBytes_append] at hlimit
          | succ index =>
            obtain ⟨header, body, hpacked, hword, hlength⟩ := ih hnext h
            refine ⟨header, body, hpacked, ?_, hlength⟩
            rw [hword, UInt32.ofNat_add]
            show p7SetMss 0 0 (connection.sequenceNumber + 1 + _) = _
            rw [UInt32.add_assoc, UInt32.add_comm 1]
            rfl
        · rw [if_neg fun heq ↦ hphy heq.symm, hfind] at hnext
          rw [if_neg hphy] at h
          exact ih hnext h

/-- A VNF with messages that are in flight to the PNF of one PHY, at most sixteen, and none of more
than 128 segments. -/
structure SendingVnf where
  config : P7Config
  connections : List Connection
  requests : List Request
  phyId : UInt16
  few : (packAllTo phyId connections requests).length ≤ 16
  small : ∀ packed ∈ packAllTo phyId connections requests,
    packed.1.length ≤ p7HeaderLength + maxSegments * config.segBodyLen

namespace SendingVnf

/-- The messages for the PNF. -/
def packed (s : SendingVnf) : List (List UInt8) :=
  (packAllTo s.phyId s.connections s.requests).map Prod.fst

/-- The datagrams that are sent of a message. -/
def sentOf (s : SendingVnf) (crc32 : UInt32 → List UInt8 → UInt32) (i : Fin s.packed.length) :
    List (List UInt8) :=
  (sendAllTo crc32 s.config s.phyId s.connections s.requests).getD i []

end SendingVnf

section Downlink

variable {crc32 : UInt32 → List UInt8 → UInt32} {vnf : SendingVnf}

/-- The PNF has a connection if messages are packed for it. -/
theorem exists_connection {phyId : UInt16} {connections : List Connection} {requests : List Request}
    (h : 0 < (packAllTo phyId connections requests).length) :
    ∃ connection, find connections phyId = some connection := by
  induction requests generalizing connections with
  | nil => cases h
  | cons request rest ih =>
    rw [packAllTo] at h
    cases hrequest : find connections request.header.phyId with
    | none =>
      rw [hrequest] at h
      exact ih h
    | some found =>
      by_cases hphy : request.header.phyId = phyId
      · exact ⟨found, hphy ▸ hrequest⟩
      · rw [hrequest] at h
        cases hpack : messagePack request.encode.push packBufferSize
            { request.header with mSegmentSequence := p7SetMss 0 0 found.sequenceNumber } with
        | none =>
          simp only [hpack] at h
          exact ih h
        | some packed =>
          simp only [hpack, if_neg hphy] at h
          obtain ⟨connection, hfind⟩ := ih h
          rw [find_update _ _ (fun connection ↦
            { connection with sequenceNumber := connection.sequenceNumber + 1 }) (fun _ ↦ rfl),
            if_neg fun heq ↦ hphy heq.symm] at hfind
          exact ⟨connection, hfind⟩

/-- What is sent of a message is a parcel, with a number of its own. -/
theorem exists_parcelOf (crc32 : UInt32 → List UInt8 → UInt32) (vnf : SendingVnf) :
    ∃ first : ℕ, ∀ i : Fin vnf.packed.length,
      ∃ parcel : Parcel crc32 vnf.config.checksumEnabled, parcel.Sends (vnf.sentOf crc32 i) ∧
        Carries parcel.message vnf.packed[i] ∧
        ∀ c, parcel = .cut c → c.number.toNat = (first + i.val) % 16 := by
  have hlength : vnf.packed.length =
      (packAllTo vnf.phyId vnf.connections vnf.requests).length := List.length_map ..
  rcases Nat.eq_zero_or_pos vnf.packed.length with hzero | hpos
  · exact ⟨0, fun i ↦ absurd i.isLt (by omega)⟩
  · obtain ⟨connection, hfind⟩ := exists_connection (hlength ▸ hpos)
    refine ⟨connection.sequenceNumber.toNat, fun i ↦ ?_⟩
    have hlt : i.val < (packAllTo vnf.phyId vnf.connections vnf.requests).length :=
      hlength ▸ i.isLt
    have hget := List.getElem?_eq_getElem hlt
    have hsmall := vnf.small _ (List.getElem_mem hlt)
    have hsent : vnf.sentOf crc32 i = sendPacked crc32 vnf.config
        ((packAllTo vnf.phyId vnf.connections vnf.requests)[i.val]).2
        ((packAllTo vnf.phyId vnf.connections vnf.requests)[i.val]).1 := by
      unfold SendingVnf.sentOf
      rw [sendAllTo_eq, List.getD_eq_getElem?_getD, List.getElem?_map, hget]
      rfl
    have hpacked : vnf.packed[i] =
        ((packAllTo vnf.phyId vnf.connections vnf.requests)[i.val]).1 := List.getElem_map ..
    obtain ⟨header, body, heq, hword, hroom⟩ := packAllTo_getElem? hfind hget
    rw [hsent, hpacked]
    rw [heq] at hsmall ⊢
    rw [length_headerBytes_append] at hsmall
    have hbody : body.length ≤ maxSegments * vnf.config.segBodyLen := by omega
    obtain ⟨parcel, hsends, hcarries, hnumber⟩ := exists_parcel crc32 vnf.config
      ((packAllTo vnf.phyId vnf.connections vnf.requests)[i.val]).2 hword hroom hbody
    refine ⟨parcel, hsends, hcarries, fun c hc ↦ ?_⟩
    rw [hnumber c hc, hword, wireNumber_toNat]

/-- Whatever datagrams of the messages for a PNF are delivered to it, in whatever order and however
late, as long as none is delivered twice, and whatever is sent to other PNFs meanwhile, it does not
crash. It dispatches the messages all of whose datagrams are delivered and whose entry is not given
up while datagrams are still to come, each once, and nothing else. -/
theorem downlink_dispatched_iff {state : RxState}
    (hempty : ∀ number, state.queue.lookup number = none)
    {deliveries : List (Delivery (vnf.sentOf crc32) UInt32)} (honce : Once deliveries) :
    ∃ (replies : List (List Dispatch)) (final : RxState) (done : List (Fin vnf.packed.length)),
      runAll (Completeness.receive crc32 vnf.config.checksumEnabled) state
        (deliveries.map fun d ↦ (d.datagram, d.time)) = .ok (replies, final) ∧
      List.Forall₂ Carries (replies.flatten.map Dispatch.message)
        (done.map fun i ↦ vnf.packed[i]) ∧ done.Nodup ∧
      ∀ i, i ∈ done ↔ AllDelivered deliveries i ∧
        Kept i none (deliveries.map Delivery.atPnf) := by
  obtain ⟨first, hparcels⟩ := exists_parcelOf crc32 vnf
  choose parcel hsent hcarries hnumber using hparcels
  have hlength : vnf.packed.length =
      (packAllTo vnf.phyId vnf.connections vnf.requests).length := List.length_map ..
  have hstart : QueueShows parcel state fun _ ↦ none := by
    constructor
    · intro i c _ _
      exact hempty c.number
    · intro i j c d _ _ hc hd heq
      have hi := hnumber i c hc
      have hj := hnumber j d hd
      rw [heq, hj] at hi
      have hfew := vnf.few
      have hilt := i.isLt
      have hjlt := j.isLt
      have hval : i.val = j.val := by omega
      exact Fin.ext hval
  have hpos : ∀ i, 0 < (vnf.sentOf crc32 i).length := fun i ↦ by
    rw [(hsent i).length_eq]
    exact (parcel i).count_pos
  have hstep : ∀ state piles past (d : Delivery (vnf.sentOf crc32) UInt32),
      QueueShows parcel state piles →
      Sound (fun i ↦ (vnf.sentOf crc32 i).length) past piles → d.label ∉ past →
      d.part < (vnf.sentOf crc32 d.index).length →
      ∃ dispatched next, Completeness.receive crc32 vnf.config.checksumEnabled state
          (d.datagram, d.time) = .ok (dispatched, next) ∧
        dispatched.map Dispatch.message = (gather (fun i ↦ (vnf.sentOf crc32 i).length) piles
          d.atPnf).1.toList.map (fun i ↦ (parcel i).message) ∧
        QueueShows parcel next
          (gather (fun i ↦ (vnf.sentOf crc32 i).length) piles d.atPnf).2 :=
    fun _ _ _ d hs hsound hnew _ ↦ Parcels.receive_gathers hsent d hs hsound hnew
  have hfresh : Fresh (fun i ↦ (vnf.sentOf crc32 i).length) []
      (deliveries.map Delivery.atPnf) := honce.fresh fun _ ↦ rfl
  obtain ⟨replies, final, done, hrun, hreplies, hnodup, hdone⟩ :=
    runAll_completes hstep hstart hpos hfresh
  refine ⟨replies, final, done, hrun, ?_, hnodup, fun i ↦ ?_⟩
  · rw [List.map_flatten, ← List.flatMap_def, hreplies]
    clear hreplies hnodup hdone hrun
    induction done with
    | nil => exact .nil
    | cons i rest ih => exact .cons (hcarries i) ih
  · rw [hdone i, List.map_map]
    rfl

end Downlink

/-! ### A message between two others -/

/-- A request to send two bytes to the PNF of a PHY, with a timestamp that goes up. -/
def twoBytesTo (phyId : UInt16) : Request :=
  ⟨.ofBytes packBufferSize [1, 2], { phyId }, UInt32.ofNat⟩

/-- To the PNF of PHY 0 goes the second message. -/
theorem packAllTo_between : packAllTo 0 Transport.twoConnections
    [twoBytesTo 1, twoBytesTo 0, twoBytesTo 1] =
      [(headerBytes (packedHeader { phyId := 0 } 18) ++ [1, 2], UInt32.ofNat)] := rfl

theorem few_between : (packAllTo 0 Transport.twoConnections
    [twoBytesTo 1, twoBytesTo 0, twoBytesTo 1]).length ≤ 16 := by
  rw [packAllTo_between]
  exact (by decide : 1 ≤ 16)

theorem small_between : ∀ packed ∈ packAllTo 0 Transport.twoConnections
    [twoBytesTo 1, twoBytesTo 0, twoBytesTo 1],
    packed.1.length ≤ p7HeaderLength + maxSegments * oneByteSegments.segBodyLen := by
  rw [packAllTo_between, List.forall_mem_singleton, length_headerBytes_append]
  decide

/-- A VNF that sends a message to the PNF of PHY 0, and to that of PHY 1 before and after. -/
def sendingBetween : SendingVnf where
  config := oneByteSegments
  connections := Transport.twoConnections
  requests := [twoBytesTo 1, twoBytesTo 0, twoBytesTo 1]
  phyId := 0
  few := few_between
  small := small_between

theorem packed_between_pos : 0 < sendingBetween.packed.length :=
  Nat.one_pos

/-- The message of PHY 0. -/
def messageBetween : Fin sendingBetween.packed.length := ⟨0, packed_between_pos⟩

/-- A segment of it. -/
def segmentBetween (part : ℕ) : List UInt8 :=
  stampedSegment (fun _ _ ↦ 0) oneByteSegments { phyId := 0, messageLength := 18 } UInt32.ofNat
    [1, 2] part

theorem segmentBetween_short (part : ℕ) : (segmentBetween part).length < 2 ^ 16 := by
  unfold segmentBetween stampedSegment
  rw [length_segmentDatagram, length_piece, p7HeaderLength]
  show 16 + min 1 _ < _
  omega

theorem sentOf_between : sendingBetween.sentOf (fun _ _ ↦ 0) messageBetween =
    [segmentBetween 0, segmentBetween 1] := rfl

theorem sentOf_between_first :
    (sendingBetween.sentOf (fun _ _ ↦ 0) messageBetween)[0]? = some (segmentBetween 0) := by
  rw [sentOf_between]
  rfl

theorem sentOf_between_last :
    (sendingBetween.sentOf (fun _ _ ↦ 0) messageBetween)[1]? = some (segmentBetween 1) := by
  rw [sentOf_between]
  rfl

/-- Its segments arrive in the wrong order. -/
def swappedDeliveries : List (Delivery (sendingBetween.sentOf fun _ _ ↦ 0) UInt32) :=
  [⟨messageBetween, 1, ⟨segmentBetween 1, segmentBetween_short 1⟩, sentOf_between_last, 0⟩,
    ⟨messageBetween, 0, ⟨segmentBetween 0, segmentBetween_short 0⟩, sentOf_between_first, 0⟩]

theorem swappedDeliveries_dispatched :
    ∃ (replies : List (List Dispatch)) (final : RxState)
      (done : List (Fin sendingBetween.packed.length)),
      runAll (Completeness.receive (fun _ _ ↦ 0) false) Completeness.initial
        (swappedDeliveries.map fun d ↦ (d.datagram, d.time)) = .ok (replies, final) ∧
      List.Forall₂ Carries (replies.flatten.map Dispatch.message)
        (done.map fun i ↦ sendingBetween.packed[i]) ∧ done.Nodup ∧
      ∀ i, i ∈ done ↔ AllDelivered swappedDeliveries i ∧
        Kept i none (swappedDeliveries.map Delivery.atPnf) := by
  apply downlink_dispatched_iff
  · exact fun _ ↦ rfl
  · show [(messageBetween, 1), (messageBetween, 0)].Nodup
    decide

end MultiUeProxy.Segmentation.VnfSender
