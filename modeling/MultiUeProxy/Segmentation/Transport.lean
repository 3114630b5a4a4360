import MultiUeProxy.Segmentation.InFlight
import MultiUeProxy.Segmentation.RoundTrip
import MultiUeProxy.Segmentation.VnfReceiver

/-!
# From the PNFs to the VNF

Several PNFs send messages to one VNF, each under its own PHY id and with its own sequence numbers.
The network delivers datagrams of all messages in any order, and it may lose or delay some.
`uplink_dispatched_iff` says what the VNF makes of that: it dispatches the messages all of whose
datagrams are delivered and whose entry was not given up before, each once, and nothing else. No
entry is given up if each datagram is handled soon after those before it (`kept_of_prompt`).

For this a PNF may have no more than sixteen messages in flight, and a message no more than 128
segments (`SendingPnf`). Otherwise the numbers on the wire come back.
-/

set_option autoImplicit false
set_option relaxedAutoImplicit false

namespace MultiUeProxy.Segmentation.Transport

open Lib.Execution Lib.ByteCursor Lib.ByteWriter Lib.Gathering Lib.KeyedTable P7.Header P7.Pack
  HeaderWord Reassembly Collection Sender RoundTrip InFlight Parcels VnfReceiver

/-! ### What is sent of a packed message -/

/-- What is dispatched is for the PHY and has the message id and the body of the packed message. -/
def Carries (dispatched packed : List UInt8) : Prop :=
  dispatched.take 4 = packed.take 4 ∧
    dispatched.drop p7HeaderLength = packed.drop p7HeaderLength

section Parcel

variable {crc32 : UInt32 → List UInt8 → UInt32} {config : P7Config} {header : P7MessageHeader}
  {body : List UInt8}

/-- The PHY of a datagram that begins with a header. -/
theorem phyIdOf_headerBytes (header : P7MessageHeader) (body : List UInt8) :
    phyIdOf (headerBytes header ++ body) = header.phyId :=
  join_bytes16 header.phyId

/-- The first fields of a header do not depend on the others. -/
theorem take_headerBytes {first second : P7MessageHeader} (hphy : first.phyId = second.phyId)
    (hid : first.messageId = second.messageId) (front back : List UInt8) :
    (headerBytes first ++ front).take 4 = (headerBytes second ++ back).take 4 := by
  show bytes16 first.phyId ++ bytes16 first.messageId =
    bytes16 second.phyId ++ bytes16 second.messageId
  rw [hphy, hid]

@[simp] theorem checkedHeader_phyId :
    (checkedHeader crc32 config header body).phyId = header.phyId := by
  unfold checkedHeader
  split_ifs <;> rfl

@[simp] theorem checkedHeader_messageId :
    (checkedHeader crc32 config header body).messageId = header.messageId := by
  unfold checkedHeader
  split_ifs <;> rfl

/-- Headers that differ from one header in the timestamp only. -/
def Stamped (header : P7MessageHeader) (headers : ℕ → P7MessageHeader) : Prop :=
  ∀ segment, ∃ time, headers segment = { header with transmitTimestamp := time }

theorem stamped_const (header : P7MessageHeader) : Stamped header fun _ ↦ header :=
  fun _ ↦ ⟨header.transmitTimestamp, rfl⟩

/-- The receiver tells the segments apart as if they had one header. -/
theorem numbered_of_stamped (crc32 : UInt32 → List UInt8 → UInt32) {headers : ℕ → P7MessageHeader}
    (hstamped : Stamped header headers) (htwo : 2 ≤ config.segmentCount body.length)
    (hmax : config.segmentCount body.length ≤ maxSegments) :
    Numbered crc32 config.checksumEnabled
      (fun i ↦ segmentDatagram crc32 config (headers i) body i) (config.segmentCount body.length)
      header.mSegmentSequence.toUInt8 := by
  have hplain : ∀ i, Numbered crc32 config.checksumEnabled
      (segmentDatagram crc32 config (headers i) body) (config.segmentCount body.length)
      header.mSegmentSequence.toUInt8 := by
    intro i
    obtain ⟨time, htime⟩ := hstamped i
    rw [htime]
    exact numbered_segmentDatagram crc32 { header with transmitTimestamp := time } htwo hmax
  exact ⟨htwo, hmax, fun i hi ↦ (hplain i).accepted i hi, fun i hi ↦ (hplain i).sequenceNum i hi,
    fun i hi ↦ (hplain i).segmentNum i hi, fun i hi ↦ (hplain i).final i hi⟩

/-- The copied parts are the header of the first segment and the body. -/
theorem flatMap_copied_segments (crc32 : UInt32 → List UInt8 → UInt32)
    (headers : ℕ → P7MessageHeader) (hpos : 0 < config.segmentCount body.length) :
    (List.range (config.segmentCount body.length)).flatMap
      (copied fun i ↦ segmentDatagram crc32 config (headers i) body i) =
        (segmentDatagram crc32 config (headers 0) body 0).take p7HeaderLength ++ body := by
  rw [← flatMap_copied crc32 (headers 0) hpos]
  refine List.flatMap_congr fun i _ ↦ ?_
  cases i with
  | zero => rfl
  | succ i =>
    show (segmentDatagram crc32 config (headers (i + 1)) body (i + 1)).drop p7HeaderLength =
      (segmentDatagram crc32 config (headers 0) body (i + 1)).drop p7HeaderLength
    rw [drop_segmentDatagram, drop_segmentDatagram]

/-- A message that is too long for one datagram, and not longer than 128 segments, is cut. -/
theorem exists_cut (crc32 : UInt32 → List UInt8 → UInt32) {headers : ℕ → P7MessageHeader}
    (hstamped : Stamped header headers) (hlong : config.segBodyLen < body.length)
    (hlength : p7HeaderLength + body.length < 2 ^ 16)
    (hsmall : body.length ≤ maxSegments * config.segBodyLen) :
    ∃ c : Cut crc32 config.checksumEnabled,
      c.segment = (fun i ↦ segmentDatagram crc32 config (headers i) body i) ∧
      c.count = config.segmentCount body.length ∧
      c.number = header.mSegmentSequence.toUInt8 ∧
      Carries (Parcel.cut c).message (headerBytes header ++ body) := by
  have hone := segmentCount_le_iff config body.length 1
  have hmax := (segmentCount_le_iff config body.length maxSegments).mpr hsmall
  have htwo : 2 ≤ config.segmentCount body.length := by omega
  have hpos : 0 < config.segmentCount body.length := by omega
  have hcopied := flatMap_copied_segments crc32 headers hpos
  have htake : ((segmentDatagram crc32 config (headers 0) body 0).take p7HeaderLength).length =
      p7HeaderLength := by
    rw [List.length_take, Nat.min_eq_left (length_segmentDatagram_ge 0)]
  have hshort : ((List.range (config.segmentCount body.length)).flatMap
      (copied fun i ↦ segmentDatagram crc32 config (headers i) body i)).length < 2 ^ 16 := by
    rwa [hcopied, List.length_append, htake]
  refine ⟨⟨fun i ↦ segmentDatagram crc32 config (headers i) body i,
    config.segmentCount body.length, header.mSegmentSequence.toUInt8,
    numbered_of_stamped crc32 hstamped htwo hmax, fun i _ ↦ length_segmentDatagram_ge i, hshort⟩,
    rfl, rfl, rfl, ?_, ?_⟩
  · show (List.flatMap _ _).take 4 = _
    obtain ⟨time, htime⟩ := hstamped 0
    rw [hcopied, List.take_append_of_le_length (by rw [htake, p7HeaderLength]; omega),
      List.take_take, p7HeaderLength, htime]
    unfold segmentDatagram
    exact take_headerBytes (by simp) (by simp) _ _
  · show (List.flatMap _ _).drop p7HeaderLength = _
    rw [hcopied, drop_headerBytes]
    conv_lhs => rw [← htake]
    exact List.drop_left

/-- A message that fits one datagram is sent in it. -/
theorem exists_single (crc32 : UInt32 → List UInt8 → UInt32) (config : P7Config) (time : UInt32)
    (body : List UInt8) {sequenceNumber : UInt32}
    (hword : header.mSegmentSequence = p7SetMss 0 0 sequenceNumber) :
    ∃ s : Single crc32 config.checksumEnabled,
      s.bytes = headerBytes (checkedHeader crc32 config
        { header with transmitTimestamp := time } body) ++ body ∧
      Carries (Parcel.single s).message (headerBytes header ++ body) := by
  refine ⟨⟨headerBytes (checkedHeader crc32 config
    { header with transmitTimestamp := time } body) ++ body, fun msg hmsg ↦ ⟨_, acceptMessage_checkedHeader _ body hmsg, ?_⟩⟩, rfl, ?_, ?_⟩
  · show (SegmentHeader.ofWord header.mSegmentSequence).IsWhole
    rw [hword]
    exact isWhole_p7SetMss sequenceNumber
  · exact take_headerBytes (by simp) (by simp) _ _
  · show List.drop p7HeaderLength (headerBytes _ ++ body) = _
    rw [drop_headerBytes, drop_headerBytes]

/-- What is sent of a message of not more than 128 segments is a parcel with the message in it. -/
theorem exists_parcel (crc32 : UInt32 → List UInt8 → UInt32) {checksumEnabled : Bool}
    {sequenceNumber : UInt32} (hchecksum : config.checksumEnabled = checksumEnabled)
    (hword : header.mSegmentSequence = p7SetMss 0 0 sequenceNumber)
    (hlength : p7HeaderLength + body.length ≤ rxIndDataMax)
    (hsmall : body.length ≤ maxSegments * config.segBodyLen) :
    ∃ parcel : Parcel crc32 checksumEnabled,
      parcel.Sends (sendPacked crc32 config (headerBytes header ++ body)) ∧
      Carries parcel.message (headerBytes header ++ body) ∧
      (∀ k < parcel.count, phyIdOf (parcel.datagram k) = header.phyId) ∧
      ∀ c, parcel = .cut c → c.number = header.mSegmentSequence.toUInt8 := by
  subst hchecksum
  rw [rxIndDataMax] at hlength
  by_cases hlong : config.segBodyLen < body.length
  · obtain ⟨c, hsegment, hcount, hnumber, hcarries⟩ :=
      exists_cut crc32 (stamped_const header) hlong (by omega) hsmall
    refine ⟨.cut c, ?_, hcarries, fun k _ ↦ ?_, fun d hd ↦ ?_⟩
    · show _ = (List.range c.count).map c.segment
      rw [hsegment, hcount]
      exact sendPacked_of_long hlong
    · show phyIdOf (c.segment k) = _
      rw [hsegment]
      unfold segmentDatagram
      rw [phyIdOf_headerBytes, checkedHeader_phyId]
    · cases hd
      exact hnumber
  · obtain ⟨s, hbytes, hcarries⟩ :=
      exists_single crc32 config header.transmitTimestamp body hword
    refine ⟨.single s, ?_, hcarries, fun k _ ↦ ?_, fun c hc ↦ ?_⟩
    · show _ = [s.bytes]
      rw [hbytes]
      exact sendPacked_of_short (Nat.le_of_not_lt hlong)
    · show phyIdOf s.bytes = _
      rw [hbytes, phyIdOf_headerBytes, checkedHeader_phyId]
    · cases hc

end Parcel

/-! ### A run of a sender -/

/-- The messages that a sender packs, one after the other. -/
def packAll : List (BodyEncoder × P7MessageHeader) → UInt32 → List (List UInt8)
  | [], _ => []
  | (encode, header) :: rest, sequenceNumber =>
    match messagePack encode.push rxIndDataMax
      { header with mSegmentSequence := p7SetMss 0 0 sequenceNumber } with
    | none => packAll rest sequenceNumber
    | some packed => packed :: packAll rest (sequenceNumber + 1)

/-- What is sent are the datagrams of the packed messages. -/
theorem sendAll_eq (crc32 : UInt32 → List UInt8 → UInt32) (config : P7Config)
    (messages : List (BodyEncoder × P7MessageHeader)) (sequenceNumber : UInt32) :
    sendAll crc32 config messages sequenceNumber =
      (packAll messages sequenceNumber).map (sendPacked crc32 config) := by
  induction messages generalizing sequenceNumber with
  | nil => rfl
  | cons message rest ih =>
    obtain ⟨encode, header⟩ := message
    rw [sendAll, packAll, packAndSendP7Message]
    cases messagePack encode.push rxIndDataMax
        { header with mSegmentSequence := p7SetMss 0 0 sequenceNumber } with
    | none => exact ih sequenceNumber
    | some packed =>
      show _ :: sendAll crc32 config rest (sequenceNumber + 1) = _
      rw [ih]
      rfl

/-- The packed message with an index has the starting number plus that index in its word, and the
PHY of one of the messages. -/
theorem packAll_getElem? {messages : List (BodyEncoder × P7MessageHeader)} {phyId : UInt16}
    (hphy : ∀ message ∈ messages, message.2.phyId = phyId) {sequenceNumber : UInt32} {index : ℕ}
    {packed : List UInt8} (h : (packAll messages sequenceNumber)[index]? = some packed) :
    ∃ header body, packed = headerBytes header ++ body ∧
      header.mSegmentSequence = p7SetMss 0 0 (sequenceNumber + UInt32.ofNat index) ∧
      header.phyId = phyId ∧ p7HeaderLength + body.length ≤ rxIndDataMax := by
  induction messages generalizing sequenceNumber index with
  | nil => cases h
  | cons message rest ih =>
    obtain ⟨encode, header⟩ := message
    have hrest : ∀ message ∈ rest, message.2.phyId = phyId := fun message hmem ↦
      hphy message (List.mem_cons_of_mem _ hmem)
    rw [packAll] at h
    cases hpack : messagePack encode.push rxIndDataMax
        { header with mSegmentSequence := p7SetMss 0 0 sequenceNumber } with
    | none =>
      rw [hpack] at h
      exact ih hrest h
    | some first =>
      rw [hpack] at h
      cases index with
      | zero =>
        obtain rfl : first = packed := Option.some.inj h
        obtain ⟨body, hfirst, hlimit, -⟩ := messagePack_eq_some hpack
        refine ⟨_, body, hfirst, ?_, hphy _ (List.mem_cons_self ..), ?_⟩
        · show p7SetMss 0 0 sequenceNumber = p7SetMss 0 0 (sequenceNumber + 0)
          rw [UInt32.add_zero]
        · rwa [hfirst, length_headerBytes_append] at hlimit
      | succ index =>
        obtain ⟨sent, body, hpacked, hword, hsent, hlength⟩ := ih hrest h
        refine ⟨sent, body, hpacked, ?_, hsent, hlength⟩
        rw [hword, UInt32.ofNat_add, UInt32.add_assoc, UInt32.add_comm 1]
        rfl

/-- The number on the wire has four bits. -/
theorem wireNumber_toNat (sequenceNumber : UInt32) (index : ℕ) :
    (p7SetMss 0 0 (sequenceNumber + UInt32.ofNat index)).toUInt8.toNat =
      (sequenceNumber.toNat + index) % 16 := by
  rw [UInt16.toNat_toUInt8, p7SetMss_toNat, UInt32.toNat_add, UInt32.toNat_ofNat']
  show (0 % 2 * 128 + (0 % 8 * 16 +
    (sequenceNumber.toNat + index % 2 ^ 32) % 2 ^ 32 % 16)) % 256 = _
  omega

/-- A PNF with messages that are in flight, all of its PHY, at most sixteen, and none of more than
128 segments. -/
structure SendingPnf (checksumEnabled : Bool) where
  config : P7Config
  checksum_eq : config.checksumEnabled = checksumEnabled
  phyId : UInt16
  messages : List (BodyEncoder × P7MessageHeader)
  phyId_eq : ∀ message ∈ messages, message.2.phyId = phyId
  sequenceNumber : UInt32
  few : (packAll messages sequenceNumber).length ≤ 16
  small : ∀ packed ∈ packAll messages sequenceNumber,
    packed.length ≤ p7HeaderLength + maxSegments * config.segBodyLen

namespace SendingPnf

variable {checksumEnabled : Bool}

def packed (s : SendingPnf checksumEnabled) : List (List UInt8) :=
  packAll s.messages s.sequenceNumber

/-- The datagrams of each message. -/
def sent (s : SendingPnf checksumEnabled) (crc32 : UInt32 → List UInt8 → UInt32) :
    List (List (List UInt8)) :=
  sendAll crc32 s.config s.messages s.sequenceNumber

end SendingPnf

/-! ### All senders -/

section Uplink

variable {κ : Type} {crc32 : UInt32 → List UInt8 → UInt32} {checksumEnabled : Bool}
  {sender : κ → SendingPnf checksumEnabled}

/-- The messages of all senders. -/
abbrev Index (sender : κ → SendingPnf checksumEnabled) : Type :=
  Σ s : κ, Fin (sender s).packed.length

def packedOf (sender : κ → SendingPnf checksumEnabled) (i : Index sender) : List UInt8 :=
  (sender i.1).packed[i.2]

/-- The datagrams that are sent of a message. -/
def sentOf (crc32 : UInt32 → List UInt8 → UInt32) (sender : κ → SendingPnf checksumEnabled)
    (i : Index sender) : List (List UInt8) :=
  ((sender i.1).sent crc32).getD i.2 []

def phyOf (sender : κ → SendingPnf checksumEnabled) (i : Index sender) : UInt16 :=
  (sender i.1).phyId

theorem sentOf_eq (crc32 : UInt32 → List UInt8 → UInt32) (i : Index sender) :
    sentOf crc32 sender i = sendPacked crc32 (sender i.1).config (packedOf sender i) := by
  have hlt : i.2.val < (packAll (sender i.1).messages (sender i.1).sequenceNumber).length :=
    i.2.isLt
  unfold sentOf SendingPnf.sent
  rw [sendAll_eq, List.getD_eq_getElem?_getD, List.getElem?_map, List.getElem?_eq_getElem hlt]
  rfl

/-- What is sent of a message is a parcel, with a number of its own among those of its PHY. -/
theorem exists_parcelOf (crc32 : UInt32 → List UInt8 → UInt32) (i : Index sender) :
    ∃ parcel : Parcel crc32 checksumEnabled, parcel.Sends (sentOf crc32 sender i) ∧
      Carries parcel.message (packedOf sender i) ∧
      (∀ k < parcel.count, phyIdOf (parcel.datagram k) = phyOf sender i) ∧
      ∀ c, parcel = .cut c →
        c.number.toNat = ((sender i.1).sequenceNumber.toNat + i.2.val) % 16 := by
  have hget : (packAll (sender i.1).messages (sender i.1).sequenceNumber)[i.2.val]? =
      some (packedOf sender i) := List.getElem?_eq_getElem i.2.isLt
  have hsmall := (sender i.1).small (packedOf sender i) (List.mem_of_getElem? hget)
  obtain ⟨header, body, hpacked, hword, hphy, hlength⟩ :=
    packAll_getElem? (sender i.1).phyId_eq hget
  rw [hpacked, length_headerBytes_append] at hsmall
  have hbody : body.length ≤ maxSegments * (sender i.1).config.segBodyLen := by omega
  obtain ⟨parcel, hsends, hcarries, hphys, hnumber⟩ :=
    exists_parcel crc32 (sender i.1).checksum_eq hword hlength hbody
  refine ⟨parcel, ?_, ?_, ?_, fun c hc ↦ ?_⟩
  · rw [sentOf_eq, hpacked]
    exact hsends
  · rw [hpacked]
    exact hcarries
  · intro k hk
    rw [hphys k hk, hphy]
    rfl
  · rw [hnumber c hc, hword, wireNumber_toNat]

/-- Whatever datagrams of the messages of several PNFs are delivered to a VNF, in whatever order and
however late, as long as none is delivered twice, it does not crash. It dispatches the messages all
of whose datagrams are delivered and whose entry is not given up while datagrams are still to come,
each once, and nothing else. -/
theorem uplink_dispatched_iff [DecidableEq κ]
    (hphy : ∀ s t, (sender s).phyId = (sender t).phyId → s = t) {connections : List Connection}
    (hconnections : ∀ s, ∃ connection, find connections (sender s).phyId = some connection ∧
      ∀ number, connection.rx.queue.lookup number = none)
    {deliveries : List (Delivery (sentOf crc32 sender) Readings)} (honce : Once deliveries) :
    ∃ (replies : List (List (List UInt8))) (final : List Connection) (done : List (Index sender)),
      runAll (VnfReceiver.receive crc32 checksumEnabled) connections
        (deliveries.map fun d ↦ (d.datagram, d.time)) = .ok (replies, final) ∧
      List.Forall₂ Carries replies.flatten (done.map (packedOf sender)) ∧ done.Nodup ∧
      ∀ i, i ∈ done ↔ AllDelivered deliveries i ∧
        Kept i none (deliveries.map (atVnf (phyOf sender))) := by
  choose parcel hsent hcarries hphys hnumber using fun i : Index sender ↦ exists_parcelOf crc32 i
  have hstart : Represents parcel (phyOf sender) connections fun _ ↦ none := by
    constructor
    · intro i c _
      obtain ⟨connection, hfind, -⟩ := hconnections i.1
      exact ⟨connection, hfind⟩
    · intro phyId connection hfind
      constructor
      · intro i c hi _
        obtain ⟨other, hother, hempty⟩ := hconnections i.1
        change (sender i.1).phyId = phyId at hi
        rw [hi, hfind] at hother
        cases hother
        exact hempty c.number
      · rintro ⟨s, i⟩ ⟨t, j⟩ c d hi hj hc hd heq
        obtain rfl : s = t := hphy s t (Eq.trans hi hj.symm)
        have hfirst := hnumber _ c hc
        have hsecond := hnumber _ d hd
        rw [heq, hsecond] at hfirst
        have hfew := (sender s).few
        have hilt : i.val < (packAll (sender s).messages (sender s).sequenceNumber).length := i.isLt
        have hjlt : j.val < (packAll (sender s).messages (sender s).sequenceNumber).length := j.isLt
        have hval : i.val = j.val := by
          simp only at hfirst
          omega
        rw [Fin.ext hval]
  have hpos : ∀ i, 0 < (sentOf crc32 sender i).length := fun i ↦ by
    rw [(hsent i).length_eq]
    exact (parcel i).count_pos
  have hstep : ∀ state piles past (d : Delivery (sentOf crc32 sender) Readings),
      Represents parcel (phyOf sender) state piles →
      Sound (fun i ↦ (sentOf crc32 sender i).length) past piles → d.label ∉ past →
      d.part < (sentOf crc32 sender d.index).length →
      ∃ dispatched next, VnfReceiver.receive crc32 checksumEnabled state (d.datagram, d.time) =
          .ok (dispatched, next) ∧
        id dispatched = (gather (fun i ↦ (sentOf crc32 sender i).length) piles
          (atVnf (phyOf sender) d)).1.toList.map (fun i ↦ (parcel i).message) ∧
        Represents parcel (phyOf sender) next
          (gather (fun i ↦ (sentOf crc32 sender i).length) piles (atVnf (phyOf sender) d)).2 :=
    fun _ _ _ d hs hsound hnew _ ↦ VnfReceiver.receive_gathers hsent hphys d hs hsound hnew
  have hfresh : Fresh (fun i ↦ (sentOf crc32 sender i).length) []
      (deliveries.map (atVnf (phyOf sender))) := honce.fresh fun _ ↦ rfl
  obtain ⟨replies, final, done, hrun, hreplies, hnodup, hdone⟩ :=
    runAll_completes hstep hstart hpos hfresh
  refine ⟨replies, final, done, hrun, ?_, hnodup, fun i ↦ ?_⟩
  · rw [← List.flatMap_id, hreplies]
    clear hreplies hnodup hdone hrun
    induction done with
    | nil => exact .nil
    | cons i rest ih => exact .cons (hcarries i) ih
  · rw [hdone i, List.map_map]
    rfl

end Uplink

/-! ### Two PNFs -/

/-- A PNF that sends a message of two bytes in two segments. -/
theorem packAll_twoBytes (phyId : UInt16) :
    packAll [(twoBytes, { phyId })] 0 = [headerBytes (packedHeader { phyId } 18) ++ [1, 2]] := rfl

theorem phyId_of_singleton (phyId : UInt16) (encode : BodyEncoder) :
    ∀ message ∈ [(encode, ({ phyId } : P7MessageHeader))], message.2.phyId = phyId :=
  List.forall_mem_singleton.mpr rfl

theorem few_twoBytes (phyId : UInt16) : (packAll [(twoBytes, { phyId })] 0).length ≤ 16 := by
  rw [packAll_twoBytes]
  exact (by decide : 1 ≤ 16)

theorem small_twoBytes (phyId : UInt16) : ∀ packed ∈ packAll [(twoBytes, { phyId })] 0,
    packed.length ≤ p7HeaderLength + maxSegments * oneByteSegments.segBodyLen := by
  rw [packAll_twoBytes, List.forall_mem_singleton, length_headerBytes_append]
  decide

/-- The PNFs of the PHYs 0 and 1 send the same message. -/
def twoPnfs (second : Bool) : SendingPnf false where
  config := oneByteSegments
  checksum_eq := rfl
  phyId := if second then 1 else 0
  messages := [(twoBytes, { phyId := if second then 1 else 0 })]
  phyId_eq := phyId_of_singleton _ _
  sequenceNumber := 0
  few := few_twoBytes _
  small := small_twoBytes _

theorem packed_twoPnfs_pos (second : Bool) : 0 < (twoPnfs second).packed.length :=
  Nat.one_pos

/-- The message of one of them. -/
def messageOf (second : Bool) : Index twoPnfs := ⟨second, 0, packed_twoPnfs_pos second⟩

/-- A segment of the message. -/
def segmentOf (second : Bool) (part : ℕ) : List UInt8 :=
  segmentDatagram (fun _ _ ↦ 0) oneByteSegments
    { phyId := if second then 1 else 0, messageLength := 18 } [1, 2] part

theorem segmentOf_short (second : Bool) (part : ℕ) : (segmentOf second part).length < 2 ^ 16 := by
  unfold segmentOf
  rw [length_segmentDatagram, Lib.NumberedPieces.length_piece, p7HeaderLength]
  show 16 + min 1 _ < _
  omega

theorem sentOf_twoPnfs (second : Bool) : sentOf (fun _ _ ↦ 0) twoPnfs (messageOf second) =
    [segmentOf second 0, segmentOf second 1] := by
  cases second <;> rfl

theorem sentOf_first (second : Bool) :
    (sentOf (fun _ _ ↦ 0) twoPnfs (messageOf second))[0]? = some (segmentOf second 0) := by
  rw [sentOf_twoPnfs]
  rfl

theorem sentOf_last (second : Bool) :
    (sentOf (fun _ _ ↦ 0) twoPnfs (messageOf second))[1]? = some (segmentOf second 1) := by
  rw [sentOf_twoPnfs]
  rfl

/-- The segments of the first PNF arrive in the wrong order, with a segment of the second one
between them, whose other segment is lost. -/
def mixedDeliveries : List (Delivery (sentOf (fun _ _ ↦ 0) twoPnfs) Readings) :=
  [⟨messageOf false, 1, ⟨segmentOf false 1, segmentOf_short false 1⟩, sentOf_last false, ⟨0, 0⟩⟩,
    ⟨messageOf true, 0, ⟨segmentOf true 0, segmentOf_short true 0⟩, sentOf_first true, ⟨0, 0⟩⟩,
    ⟨messageOf false, 0, ⟨segmentOf false 0, segmentOf_short false 0⟩, sentOf_first false, ⟨0, 0⟩⟩]

/-- The connections of both, with empty queues. -/
def twoConnections : List Connection :=
  [{ phyId := 1, rx := Completeness.initial }, { phyId := 0, rx := Completeness.initial }]

theorem mixedDeliveries_dispatched :
    ∃ (replies : List (List (List UInt8))) (final : List Connection) (done : List (Index twoPnfs)),
      runAll (VnfReceiver.receive (fun _ _ ↦ 0) false) twoConnections
        (mixedDeliveries.map fun d ↦ (d.datagram, d.time)) = .ok (replies, final) ∧
      List.Forall₂ Carries replies.flatten (done.map (packedOf twoPnfs)) ∧ done.Nodup ∧
      ∀ i, i ∈ done ↔ AllDelivered mixedDeliveries i ∧
        Kept i none (mixedDeliveries.map (atVnf (phyOf twoPnfs))) := by
  apply uplink_dispatched_iff
  · intro s t
    cases s <;> cases t <;> decide
  · intro s
    cases s
    · exact ⟨{ phyId := 0, rx := Completeness.initial }, rfl, fun _ ↦ rfl⟩
    · exact ⟨{ phyId := 1, rx := Completeness.initial }, rfl, fun _ ↦ rfl⟩
  · show [(messageOf false, 1), (messageOf true, 0), (messageOf false, 0)].Nodup
    decide

/-- These deliveries are prompt, so that the message of the first PNF is dispatched. -/
example : Kept (messageOf false) none (mixedDeliveries.map (atVnf (phyOf twoPnfs))) :=
  kept_of_prompt _ _ (by decide) (by decide)

end MultiUeProxy.Segmentation.Transport
