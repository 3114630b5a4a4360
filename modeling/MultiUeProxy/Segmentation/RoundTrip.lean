import Mathlib.Data.List.Perm.Basic
import MultiUeProxy.Segmentation.Collection
import MultiUeProxy.Segmentation.Sender

/-!
# Segmentation and reassembly

A message is sent in segments, and the segments arrive in some order, each once, at a receiver that
has no entry under the sequence number of the message. `reassembled_iff` says exactly when the
receiver dispatches the message with the last of them, and nothing before: when there are at most
128 segments, and no segment but the last arrives too late after the first.

The number of a segment is added to the more flag in one byte, without a check. The 129th segment
has the number zero; if it is the last one, no segment is final for the receiver, and if it is not,
it has no more flag and is dispatched as a message of its own.
-/

set_option autoImplicit false
set_option relaxedAutoImplicit false

namespace MultiUeProxy.Segmentation.RoundTrip

open Lib.Execution Lib.KeyedTable Lib.NumberedPieces Lib.ByteWriter P7.Header P7.Pack HeaderWord
  Reassembly Completeness Collection Sender

section Segments

variable {crc32 : UInt32 → List UInt8 → UInt32} {config : P7Config} {header : P7MessageHeader}
  {body : List UInt8}

theorem segmentCount_le_iff (config : P7Config) (bodyLength bound : ℕ) :
    config.segmentCount bodyLength ≤ bound ↔ bodyLength ≤ bound * config.segBodyLen := by
  constructor
  · intro h
    exact (le_segmentCount_mul config bodyLength).trans (Nat.mul_le_mul_right _ h)
  · intro h
    by_contra hmore
    have hlt := mul_lt_of_lt_segmentCount (Nat.lt_of_not_le hmore)
    omega

/-- The byte with the more flag and the segment number. -/
theorem moreAndSegment_toNat (last : Bool) (segment : ℕ) :
    (moreAndSegment last segment).toNat = ((if last then 0 else 128) + segment) % 256 := by
  rw [moreAndSegment, Nat.toUInt8_eq, UInt8.toNat_ofNat']

/-- Up to 128 segments are told apart by the receiver. -/
theorem numbered_segmentDatagram (crc32 : UInt32 → List UInt8 → UInt32)
    (header : P7MessageHeader) (htwo : 2 ≤ config.segmentCount body.length)
    (hmax : config.segmentCount body.length ≤ maxSegments) :
    Numbered crc32 config.checksumEnabled (segmentDatagram crc32 config header body)
      (config.segmentCount body.length) header.mSegmentSequence.toUInt8 where
  two_le := htwo
  le_max := hmax
  accepted i _ msg hmsg := by rw [acceptMessage_segmentDatagram hmsg, hmsg]
  sequenceNum i hi := by
    apply sequenceNum_of_mem_sendPacked crc32 config body
    have hlong : config.segBodyLen < body.length := by
      have hiff := segmentCount_le_iff config body.length 1
      omega
    rw [sendPacked_of_long hlong]
    exact List.mem_map_of_mem (List.mem_range.mpr hi)
  segmentNum i hi := by
    rw [(fields_segmentDatagram crc32 config header body i).2, moreAndSegment_toNat]
    rw [maxSegments] at hmax
    split_ifs <;> omega
  final i hi := by
    have hm := (fields_segmentDatagram crc32 config header body i).1
    rw [moreAndSegment_toNat] at hm
    rw [maxSegments] at hmax
    rw [← UInt8.toNat_inj, hm]
    show _ = 0 ↔ _
    by_cases hlast : i + 1 = config.segmentCount body.length
    · simp only [hlast, beq_self_eq_true, if_true, iff_true]
      omega
    · simp only [beq_false_of_ne hlast, hlast, iff_false]
      show ¬ (128 + i) % 256 / 128 = 0
      omega

/-- The copied parts are the header of the first segment and the body. -/
theorem flatMap_copied (crc32 : UInt32 → List UInt8 → UInt32) (header : P7MessageHeader)
    (hpos : 0 < config.segmentCount body.length) :
    (List.range (config.segmentCount body.length)).flatMap
      (copied (segmentDatagram crc32 config header body)) =
        (segmentDatagram crc32 config header body 0).take p7HeaderLength ++ body := by
  have hbody := flatMap_piece_eq (le_segmentCount_mul config body.length)
  obtain ⟨count, hcount⟩ := Nat.exists_eq_succ_of_ne_zero (Nat.pos_iff_ne_zero.mp hpos)
  have hfirst : copied (segmentDatagram crc32 config header body) 0 =
      segmentDatagram crc32 config header body 0 := if_pos rfl
  have hlater (i : ℕ) : copied (segmentDatagram crc32 config header body) (i + 1) =
      piece config.segBodyLen body (i + 1) :=
    (if_neg (Nat.succ_ne_zero i)).trans (drop_segmentDatagram _)
  rw [hcount, List.range_succ_eq_map, List.flatMap_cons, List.flatMap_map] at hbody ⊢
  simp only [hfirst, hlater]
  conv_lhs => rw [← List.take_append_drop p7HeaderLength (segmentDatagram crc32 config header body 0)]
  rw [drop_segmentDatagram, List.append_assoc, hbody]

theorem length_segmentDatagram_ge (segment : ℕ) :
    p7HeaderLength ≤ (segmentDatagram crc32 config header body segment).length := by
  rw [length_segmentDatagram]
  exact Nat.le_add_right _ _

end Segments

/-! ### The arrivals of a message -/

section Arrivals

variable {crc32 : UInt32 → List UInt8 → UInt32} {config : P7Config} {header : P7MessageHeader}
  {body : List UInt8} {state : RxState} {arrivals : List (Datagram × UInt32)}

/-- Nothing is dispatched before the last arrival, and with it one message, with the body of the
packed one. -/
def Reassembled (crc32 : UInt32 → List UInt8 → UInt32) (checksumEnabled : Bool) (state : RxState)
    (arrivals : List (Datagram × UInt32)) (packed : List UInt8) : Prop :=
  ∃ dispatch final, runAll (receive crc32 checksumEnabled) state arrivals =
      .ok (onlyLast arrivals.length dispatch, final) ∧
    dispatch.message.drop p7HeaderLength = packed.drop p7HeaderLength

/-- No segment but the last to arrive is too late after the first. -/
def InTime (arrivals : List (Datagram × UInt32)) : Prop :=
  ∀ first ∈ arrivals.head?, Timely first.2 arrivals

/-- The datagrams are those of the message, in some order. -/
def Delivers (arrivals : List (Datagram × UInt32)) (datagrams : List (List UInt8)) : Prop :=
  (arrivals.map fun arrival ↦ arrival.1.bytes).Perm datagrams

theorem not_reassembled_of_silent {packed : List UInt8} {checksumEnabled : Bool}
    (h : ∃ final, runAll (receive crc32 checksumEnabled) state arrivals =
      .ok (List.replicate arrivals.length [], final)) :
    ¬ Reassembled crc32 checksumEnabled state arrivals packed := by
  rintro ⟨dispatch, final, hrun, -⟩
  obtain ⟨other, hsilent⟩ := h
  rw [hsilent] at hrun
  have hmem : [dispatch] ∈ List.replicate arrivals.length ([] : List Dispatch) := by
    rw [(Prod.mk.inj (Except.ok.inj hrun)).1]
    exact List.mem_append_right _ (List.mem_singleton.mpr rfl)
  cases List.eq_of_mem_replicate hmem

/-- The segments arrive in the order of a permutation of their numbers. -/
theorem exists_bring {segment : ℕ → List UInt8} {count : ℕ}
    (h : Delivers arrivals ((List.range count).map segment)) :
    ∃ ks, ks.Perm (List.range count) ∧ Bring segment arrivals ks := by
  have hcomp := congrFun (congrFun (List.eq_map_comp_perm segment)
    (arrivals.map fun arrival ↦ arrival.1.bytes)) (List.range count)
  obtain ⟨ks, hbring, hperm⟩ := hcomp.mpr h
  exact ⟨ks, hperm, hbring⟩

/-- A datagram without a more flag and a segment number is dispatched as it is. -/
theorem receive_whole (state : RxState) {checksumEnabled : Bool} {datagram : Datagram}
    (time : UInt32) {accepted : SegmentHeader}
    (haccept : acceptMessage crc32 checksumEnabled datagram = .ok (some accepted))
    (hwhole : accepted.IsWhole) :
    ∃ next, receive crc32 checksumEnabled state (datagram, time) =
      .ok ([⟨datagram.bytes, time⟩], next) :=
  ⟨_, handleP7Message_eq_ok.mpr (.whole haccept hwhole)⟩

/-- A message that is not cut is dispatched when it arrives. -/
theorem reassembled_of_short {sequenceNumber : UInt32}
    (hword : header.mSegmentSequence = p7SetMss 0 0 sequenceNumber)
    (hshort : body.length ≤ config.segBodyLen)
    (hdelivers : Delivers arrivals (sendPacked crc32 config (headerBytes header ++ body))) :
    Reassembled crc32 config.checksumEnabled state arrivals (headerBytes header ++ body) := by
  rw [Delivers, sendPacked_of_short hshort, List.perm_singleton, List.map_eq_singleton_iff]
    at hdelivers
  obtain ⟨⟨datagram, time⟩, rfl, hdatagram⟩ := hdelivers
  have haccept := acceptMessage_checkedHeader header body hdatagram
  rw [hword] at haccept
  obtain ⟨final, hreceive⟩ := receive_whole state time haccept
    (isWhole_p7SetMss sequenceNumber)
  refine ⟨⟨datagram.bytes, time⟩, final, ?_, ?_⟩
  · simp only [runAll, hreceive, ok_bind, pure_eq_ok]
    rfl
  · show datagram.bytes.drop p7HeaderLength = _
    rw [hdatagram, drop_headerBytes, drop_headerBytes]

/-- Up to 128 segments are put together exactly when they are in time. -/
theorem reassembled_iff_of_le (htwo : 2 ≤ config.segmentCount body.length)
    (hmax : config.segmentCount body.length ≤ maxSegments)
    (hlength : p7HeaderLength + body.length ≤ rxIndDataMax)
    (hdelivers : Delivers arrivals ((List.range (config.segmentCount body.length)).map
      (segmentDatagram crc32 config header body)))
    (hqueue : state.queue.lookup header.mSegmentSequence.toUInt8 = none) :
    Reassembled crc32 config.checksumEnabled state arrivals (headerBytes header ++ body) ↔
      InTime arrivals := by
  have hnumbered := numbered_segmentDatagram crc32 header htwo hmax
  obtain ⟨ks, hperm, hbring⟩ := exists_bring hdelivers
  rw [← List.append_nil ks] at hperm
  have hne : ks ≠ [] := by
    rintro rfl
    have hcard := hperm.length_eq
    rw [List.length_range] at hcard
    rw [← hcard] at htwo
    exact absurd htwo (by decide)
  obtain ⟨k, ks, rfl⟩ := List.exists_cons_of_ne_nil hne
  obtain ⟨first, rest, rfl, -, -⟩ := List.map_eq_cons_iff.mp hbring
  have hheld : Held (segmentDatagram crc32 config header body) (config.segmentCount body.length)
      header.mSegmentSequence.toUInt8 first.2 [] state := Or.inl ⟨rfl, hqueue⟩
  have hfirst : ([] : List ℕ) = [] → ∀ arrival ∈ (first :: rest).head?, arrival.2 = first.2 := by
    intro _ arrival harrival
    rw [← Option.some.inj harrival]
  have htime : InTime (first :: rest) ↔ Timely first.2 (first :: rest) := by
    constructor
    · intro hall
      exact hall first rfl
    · intro htimely other hother
      rwa [← Option.some.inj hother]
  rw [htime]
  constructor
  · intro hreassembled
    by_contra hlate
    exact not_reassembled_of_silent (late_run hnumbered hheld hperm hbring hfirst hlate)
      hreassembled
  · intro htimely
    have hcopied := flatMap_copied crc32 header
      (show 0 < config.segmentCount body.length by omega)
    have hheader : ((segmentDatagram crc32 config header body 0).take p7HeaderLength).length =
        p7HeaderLength := by
      rw [List.length_take, Nat.min_eq_left (length_segmentDatagram_ge 0)]
    have hsmall : ((List.range (config.segmentCount body.length)).flatMap
        (copied (segmentDatagram crc32 config header body))).length < 2 ^ 16 := by
      rw [hcopied, List.length_append, hheader]
      rw [rxIndDataMax] at hlength
      omega
    obtain ⟨final, hrun⟩ := collect_run hnumbered (fun i _ ↦ length_segmentDatagram_ge i) hsmall
      hheld hne hperm hbring hfirst htimely
    refine ⟨_, final, hrun, ?_⟩
    show List.drop p7HeaderLength (List.flatMap _ _) = _
    rw [hcopied, drop_headerBytes]
    conv_lhs => rw [← hheader]
    exact List.drop_left

/-- With 129 segments none is final for the receiver, and it waits for ever. -/
theorem not_reassembled_of_eq (hcount : config.segmentCount body.length = maxSegments + 1)
    (hdelivers : Delivers arrivals ((List.range (config.segmentCount body.length)).map
      (segmentDatagram crc32 config header body)))
    (hqueue : state.queue.lookup header.mSegmentSequence.toUInt8 = none) {packed : List UInt8} :
    ¬ Reassembled crc32 config.checksumEnabled state arrivals packed := by
  rw [maxSegments] at hcount
  have hlength : arrivals.length = 129 := by
    have hcard := hdelivers.length_eq
    rwa [List.length_map, List.length_map, List.length_range, hcount] at hcard
  refine not_reassembled_of_silent (hopeless_run header.mSegmentSequence.toUInt8 255
    (by decide) ⟨by omega, fun msg hsome ↦ ?_⟩ fun arrival hmem ↦ ?_)
  · rw [hqueue] at hsome
    cases hsome
  · have hbytes := hdelivers.subset (List.mem_map_of_mem (f := fun arrival ↦ arrival.1.bytes) hmem)
    obtain ⟨i, hi, hsegment⟩ := List.mem_map.mp hbytes
    have hbelow := List.mem_range.mp hi
    have hmore : (headerOf (segmentDatagram crc32 config header body i)).m ≠ 0 := by
      have hm := (fields_segmentDatagram crc32 config header body i).1
      rw [moreAndSegment_toNat] at hm
      intro hzero
      rw [hzero] at hm
      change 0 = _ at hm
      by_cases hlast : i + 1 = config.segmentCount body.length
      · simp only [hlast, beq_self_eq_true, if_true] at hm
        omega
      · rw [beq_false_of_ne hlast] at hm
        change 0 = (128 + i) % 256 / 128 at hm
        omega
    have hlong : config.segBodyLen < body.length := by
      have hiff := segmentCount_le_iff config body.length 1
      omega
    refine ⟨_, acceptMessage_segmentDatagram hsegment.symm, ?_, ?_, ?_⟩
    · rw [← hsegment]
      exact fun hwhole ↦ hmore hwhole.1
    · apply sequenceNum_of_mem_sendPacked crc32 config body
      rw [sendPacked_of_long hlong]
      exact hbytes
    · rw [← hsegment]
      exact fun hzero ↦ absurd hzero hmore

/-- With more than 129 segments one of them is dispatched as a message of its own. -/
theorem not_reassembled_of_gt (hcount : maxSegments + 1 < config.segmentCount body.length)
    (hdelivers : Delivers arrivals ((List.range (config.segmentCount body.length)).map
      (segmentDatagram crc32 config header body))) :
    ¬ Reassembled crc32 config.checksumEnabled state arrivals (headerBytes header ++ body) := by
  rintro ⟨dispatch, final, hrun, hbody⟩
  rw [maxSegments] at hcount
  have hmem : segmentDatagram crc32 config header body 128 ∈
      arrivals.map fun arrival ↦ arrival.1.bytes :=
    hdelivers.symm.subset (List.mem_map_of_mem (List.mem_range.mpr (by omega)))
  obtain ⟨⟨datagram, time⟩, harrival, hdatagram⟩ := List.mem_map.mp hmem
  have hwhole : (headerOf datagram.bytes).IsWhole := by
    have hfields := fields_segmentDatagram crc32 config header body 128
    have hlast : (128 + 1 == config.segmentCount body.length) = false := by
      apply beq_false_of_ne
      omega
    rw [hlast, moreAndSegment_toNat] at hfields
    change datagram.bytes = _ at hdatagram
    rw [hdatagram]
    exact ⟨UInt8.toNat_inj.mp hfields.1, UInt8.toNat_inj.mp hfields.2⟩
  obtain ⟨reply, hreply, before, after, hstep⟩ := exists_reply hrun harrival
  obtain ⟨next, hreceive⟩ := receive_whole before time
    (acceptMessage_segmentDatagram hdatagram) hwhole
  rw [hreceive] at hstep
  cases hstep
  have hdispatch : dispatch.message = datagram.bytes := by
    rcases List.mem_append.mp hreply with hsilent | hlast
    · cases List.eq_of_mem_replicate hsilent
    · rw [List.mem_singleton] at hlast
      cases hlast
      rfl
  rw [hdispatch, hdatagram, drop_segmentDatagram, drop_headerBytes] at hbody
  have hpiece := length_piece config.segBodyLen body 128
  have hlt := mul_lt_of_lt_segmentCount (show 1 < config.segmentCount body.length by omega)
  rw [hbody] at hpiece
  have hpos := config.segBodyLen_pos
  omega

/-- The segments of a message, delivered in any order and each once, are put together exactly when
there are at most 128 of them and they arrive in time. -/
theorem reassembled_iff {encode : BodyEncoder} {sequenceNumber next : UInt32}
    {datagrams : List (List UInt8)} {packed : List UInt8}
    (hsend : packAndSendP7Message crc32 config encode header sequenceNumber =
      (some datagrams, next))
    (hpacked : messagePack encode.push rxIndDataMax
      { header with mSegmentSequence := p7SetMss 0 0 sequenceNumber } = some packed)
    (hdelivers : Delivers arrivals datagrams)
    (hqueue : state.queue.lookup (p7SetMss 0 0 sequenceNumber).toUInt8 = none) :
    Reassembled crc32 config.checksumEnabled state arrivals packed ↔
      packed.length ≤ p7HeaderLength + maxSegments * config.segBodyLen ∧ InTime arrivals := by
  obtain ⟨-, sent, body, hword, hsent, hlength, rfl⟩ := packAndSendP7Message_eq_some hsend
  rw [hsent] at hpacked
  obtain rfl := Option.some.inj hpacked
  rw [← hword] at hqueue
  rw [length_headerBytes_append, Nat.add_le_add_iff_left, ← segmentCount_le_iff]
  by_cases hlong : config.segBodyLen < body.length
  · have hone := segmentCount_le_iff config body.length 1
    rw [sendPacked_of_long hlong] at hdelivers
    by_cases hmax : config.segmentCount body.length ≤ maxSegments
    · rw [reassembled_iff_of_le (by omega) hmax hlength hdelivers hqueue]
      exact (and_iff_right hmax).symm
    · constructor
      · intro hreassembled
        by_cases hcount : config.segmentCount body.length = maxSegments + 1
        · exact absurd hreassembled (not_reassembled_of_eq hcount hdelivers hqueue)
        · exact absurd hreassembled (not_reassembled_of_gt (by omega) hdelivers)
      · intro hboth
        exact absurd hboth.1 hmax
  · have hshort := Nat.le_of_not_lt hlong
    constructor
    · intro _
      constructor
      · refine ((segmentCount_le_iff config body.length 1).mpr ?_).trans (by decide)
        omega
      · rw [Delivers, sendPacked_of_short hshort, List.perm_singleton,
          List.map_eq_singleton_iff] at hdelivers
        obtain ⟨arrival, rfl, -⟩ := hdelivers
        intro first _ other hother
        cases hother
    · intro _
      exact reassembled_of_short hword hshort hdelivers

end Arrivals

/-! ### Segments of one byte -/

/-- The two segments of a message of two bytes. -/
def twoArrivals : List (Datagram × UInt32) :=
  [(⟨[0, 0, 0, 0, 0, 17, 0x80, 0, 0, 0, 0, 0, 0, 0, 0, 0, 1], by decide⟩, 0),
    (⟨[0, 0, 0, 0, 0, 17, 0x01, 0, 0, 0, 0, 0, 0, 0, 0, 0, 2], by decide⟩, 0)]

theorem reassembled_twoArrivals :
    Reassembled (fun _ _ ↦ 0) false initial twoArrivals
        [0, 0, 0, 0, 0, 18, 0, 0, 0, 0, 0, 0, 0, 0, 0, 0, 1, 2] ↔
      [0, 0, 0, 0, 0, 18, 0, 0, 0, 0, 0, 0, 0, 0, 0, 0, 1, 2].length ≤
        p7HeaderLength + maxSegments * oneByteSegments.segBodyLen ∧ InTime twoArrivals := by
  have hsend : packAndSendP7Message (fun _ _ ↦ 0) oneByteSegments (.ofBytes rxIndDataMax [1, 2])
      {} 0 = (some (twoArrivals.map fun arrival ↦ arrival.1.bytes), 1) := rfl
  exact reassembled_iff hsend rfl (List.Perm.refl _) (KeyedList.lookup_empty _)

/-- The header of a packed message with a body of 129 bytes. -/
def longHeader : P7MessageHeader := packedHeader {} 145

/-- A segment of that message fits into a datagram. -/
theorem longSegment_short (segment : ℕ) :
    (segmentDatagram (fun _ _ ↦ 0) oneByteSegments longHeader (List.replicate 129 0)
      segment).length < 65536 := by
  rw [length_segmentDatagram, piece, List.length_take]
  have hle := Nat.min_le_left oneByteSegments.segBodyLen
    ((List.replicate 129 (0 : UInt8)).drop (segment * oneByteSegments.segBodyLen)).length
  change _ ≤ 1 at hle
  rw [p7HeaderLength]
  omega

/-- The segments of that message, each with one byte, in order and at once. -/
def longArrivals : List (Datagram × UInt32) :=
  (List.range 129).map fun segment ↦
    (⟨segmentDatagram (fun _ _ ↦ 0) oneByteSegments longHeader (List.replicate 129 0) segment,
      longSegment_short segment⟩, 0)

/-- The last of 129 segments has the number zero. -/
theorem longArrivals_not_reassembled : ∃ datagrams packed,
    packAndSendP7Message (fun _ _ ↦ 0) oneByteSegments
      (.ofBytes rxIndDataMax (List.replicate 129 0)) {} 0 = (some datagrams, 1) ∧
    messagePack (BodyEncoder.ofBytes rxIndDataMax (List.replicate 129 0)).push rxIndDataMax {} =
      some packed ∧
    Delivers longArrivals datagrams ∧ InTime longArrivals ∧
      ¬ Reassembled (fun _ _ ↦ 0) false initial longArrivals packed := by
  have hroom : p7HeaderLength + (List.replicate 129 (0 : UInt8)).length ≤ rxIndDataMax := by
    rw [List.length_replicate]
    decide
  have hpacked := messagePack_ofBytes (by decide) hroom {}
  rw [List.length_replicate] at hpacked
  change _ = some (headerBytes longHeader ++ _) at hpacked
  have hcount : oneByteSegments.segmentCount (List.replicate 129 (0 : UInt8)).length =
      maxSegments + 1 := by
    rw [List.length_replicate]
    rfl
  have hlong : oneByteSegments.segBodyLen < (List.replicate 129 (0 : UInt8)).length := by
    rw [List.length_replicate]
    decide
  have hdelivers : Delivers longArrivals ((List.range (oneByteSegments.segmentCount
      (List.replicate 129 (0 : UInt8)).length)).map
        (segmentDatagram (fun _ _ ↦ 0) oneByteSegments longHeader (List.replicate 129 0))) := by
    rw [hcount, Delivers, longArrivals, List.map_map]
    exact List.Perm.refl _
  have hatOnce : ∀ arrival ∈ longArrivals, arrival.2 = 0 := by
    intro arrival hmem
    obtain ⟨segment, -, rfl⟩ := List.mem_map.mp hmem
    rfl
  refine ⟨_, _, packAndSendP7Message_of_packed hpacked, hpacked,
    (sendPacked_of_long hlong).symm ▸ hdelivers, ?_, ?_⟩
  · intro first hfirst arrival hmem
    rw [hatOnce arrival (List.mem_of_mem_dropLast hmem),
      hatOnce first (List.mem_of_mem_head? hfirst)]
    decide
  · exact not_reassembled_of_eq hcount hdelivers (KeyedList.lookup_empty _)

end MultiUeProxy.Segmentation.RoundTrip
