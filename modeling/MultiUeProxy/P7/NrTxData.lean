import MultiUeProxy.P7.Pack

/-!
# The NR TX_DATA request

The codec of `nfapi_p7.c` for the payloads of a slot. A request has up to sixteen PDUs with up to
two payloads each, and a payload has a tag, a length in bytes and words that hold the bytes: an
array that is part of the structure with tag 0, and a pointer with tag 1. The words are moved with
`pusharray32` and `pullarray32`.

With tag 0 as many words are moved as the bytes take. With tag 1 the length is taken for the number
of words: the encoder reads four times what the payload has, and the decoder writes it to the
null pointer that it has in its structure. `txData_roundTrips_iff` says for which requests this
does no harm.

The encoder and the decoder also have a case for requests without PDUs, with loops over the PDUs of
which there are none.
-/

set_option autoImplicit false
set_option relaxedAutoImplicit false

namespace MultiUeProxy.P7.NrTxData

open Lib.Execution Lib.ByteCursor Lib.ByteWriter Lib.Codec Header Pack
open Lib.ByteWriter.Push (push16 push32)
open Lib.ByteCursor.Pull (pull16 pull32)

/-! ### Arrays of words -/

/-- `pusharray32`: `count` words from a place where `words` are. -/
def pusharray32 (words : List UInt32) (maxLen count limit : ℕ) : Push Unit := do
  if count = 0 then
    pure ()
  else
    Push.ensure (count ≤ maxLen)
    let start ← Push.position
    Push.ensure (start + 4 * count ≤ limit)
    Push.forEach (push32 limit) (words.take count)
    -- the next word is behind the end of the storage
    if words.length < count then Push.crash .fault else pure ()

/-- `pullarray32` into an array of `maxLen` words. -/
def pullarray32 (maxLen count limit : ℕ) : Pull (List UInt32) := do
  if count = 0 then
    return []
  else
    Pull.ensure (count ≤ maxLen)
    let pos ← Pull.position
    Pull.ensure (limit < pos ∨ pos + 4 * count ≤ limit)
    Pull.repeatPull (pull32 limit) count

/-- `pullarray32` with a null pointer for the array. -/
def pullarray32IntoNull (maxLen count limit : ℕ) : Pull (List UInt32) := do
  if count = 0 then
    return []
  else
    Pull.ensure (count ≤ maxLen)
    let pos ← Pull.position
    Pull.ensure (limit < pos ∨ pos + 4 * count ≤ limit)
    let _ ← pull32 limit
    Pull.crash .fault

/-! ### The request -/

/-- `nfapi_nr_tx_data_request_tlv_t`. The words are those of the array `direct` that are in use, or
those behind the pointer `ptr`. -/
structure TxDataRequestTlv where
  tag : UInt16
  length : UInt16
  value : List UInt32
  deriving DecidableEq, Repr

/-- `nfapi_nr_pdu_t`. -/
structure NrPdu where
  pduLength : UInt16
  pduIndex : UInt16
  tlvs : List TxDataRequestTlv
  deriving DecidableEq, Repr

/-- `nfapi_nr_tx_data_request_t`. -/
structure TxDataRequest where
  sfn : UInt16
  slot : UInt16
  pduList : List NrPdu
  deriving DecidableEq, Repr

def nrTxDataRequest : UInt16 := 0x84

/-- `NFAPI_NR_MAX_TX_REQUEST_TLV`. -/
def maxTxRequestTlv : ℕ := 2

/-- `NFAPI_NR_MAX_TX_REQUEST_PDUS`. -/
def maxTxRequestPdus : ℕ := 16

/-- The number of words in `direct`. -/
def directWords : ℕ := 38016

/-- The switch over the tag of a payload. -/
def packTxDataValue (limit : ℕ) (tlv : TxDataRequestTlv) : Push Unit :=
  if tlv.tag = 0 then pusharray32 tlv.value 16384 ((tlv.length.toNat + 3) / 4) limit
  else if tlv.tag = 1 then pusharray32 tlv.value tlv.length.toNat tlv.length.toNat limit
  else pure ()

def packTxDataTlv (limit : ℕ) (tlv : TxDataRequestTlv) : Push Unit := do
  push16 limit tlv.tag
  push16 limit tlv.length
  packTxDataValue limit tlv

def packTxDataPduListValue (limit : ℕ) (pdu : NrPdu) : Push Unit := do
  push16 limit pdu.pduLength
  push16 limit pdu.pduIndex
  push32 limit pdu.tlvs.length.toUInt32
  Push.forEach (packTxDataTlv limit) pdu.tlvs

def packTxDataRequest (limit : ℕ) (request : TxDataRequest) : Push Unit := do
  push16 limit request.sfn
  push16 limit request.slot
  push16 limit request.pduList.length.toUInt16
  Push.forEach (packTxDataPduListValue limit) request.pduList

/-- The switch over the tag of a payload. -/
def unpackTxDataValue (tag length : UInt16) (limit : ℕ) : Pull (List UInt32) :=
  if tag = 0 then pullarray32 directWords ((length.toNat + 3) / 4) limit
  else if tag = 1 then pullarray32IntoNull length.toNat length.toNat limit
  else pure []

def unpackTxDataTlv (limit : ℕ) : Pull TxDataRequestTlv := do
  let tag ← pull16 limit
  let length ← pull16 limit
  let value ← unpackTxDataValue tag length limit
  return { tag, length, value }

/-- The first write to an element behind the end of a list. -/
def outsideList {α : Type} (limit : ℕ) : Pull α := do
  let _ ← pull16 limit
  Pull.crash .fault

def unpackTxDataPduListValue (limit : ℕ) : Pull NrPdu := do
  let pduLength ← pull16 limit
  let pduIndex ← pull16 limit
  let numTlv ← pull32 limit
  -- the loop counts up to the number as 16 bits
  let tlvs ← Pull.fillList (unpackTxDataTlv limit) (outsideList limit) maxTxRequestTlv
    numTlv.toUInt16.toNat
  return { pduLength, pduIndex, tlvs }

def unpackTxDataRequest (limit : ℕ) : Pull TxDataRequest := do
  let sfn ← pull16 limit
  let slot ← pull16 limit
  let numberOfPdus ← pull16 limit
  let pduList ← Pull.fillList (unpackTxDataPduListValue limit) (outsideList limit) maxTxRequestPdus
    numberOfPdus.toNat
  return { sfn, slot, pduList }

/-- `nfapi_nr_p7_message_pack` of a request in a message with this header. -/
def packMessageTxData (limit : ℕ) (header : P7MessageHeader) (request : TxDataRequest) :
    Outcome (Option (List UInt8)) :=
  packMessage (packTxDataRequest limit request) limit { header with messageId := nrTxDataRequest }

/-- `nfapi_nr_p7_message_unpack` of a message with a TX_DATA request. -/
def unpackMessageTxData : Memory → ℕ → Outcome (Option TxDataRequest) :=
  messageUnpack (caseOf nrTxDataRequest unpackTxDataRequest)

/-! ### What is to be carried over -/

/-- A word as it is in memory, with the lowest byte first. -/
def hostBytes (word : UInt32) : List UInt8 :=
  [word.toUInt8, (word >>> 8).toUInt8, (word >>> 16).toUInt8, (word >>> 24).toUInt8]

/-- The bytes of a payload. -/
def TxDataRequestTlv.payload (tlv : TxDataRequestTlv) : List UInt8 :=
  (tlv.value.flatMap hostBytes).take tlv.length.toNat

/-- A payload with its bytes in place of the words that hold them. -/
def TxDataRequestTlv.content (tlv : TxDataRequestTlv) : UInt16 × UInt16 × List UInt8 :=
  (tlv.tag, tlv.length, tlv.payload)

def NrPdu.content (pdu : NrPdu) : UInt16 × UInt16 × List (UInt16 × UInt16 × List UInt8) :=
  (pdu.pduLength, pdu.pduIndex, pdu.tlvs.map TxDataRequestTlv.content)

/-- A request up to what is behind the payloads in the last word of each. -/
def TxDataRequest.content (request : TxDataRequest) :
    UInt16 × UInt16 × List (UInt16 × UInt16 × List (UInt16 × UInt16 × List UInt8)) :=
  (request.sfn, request.slot, request.pduList.map NrPdu.content)

/-- A payload has one of the two tags, and its storage has the bytes that its length says. -/
def TxDataRequestTlv.Fits (tlv : TxDataRequestTlv) : Prop :=
  (tlv.tag = 0 ∨ tlv.tag = 1) ∧ tlv.length.toNat ≤ 4 * tlv.value.length

/-- The counts of a request fit the arrays. -/
structure TxDataRequest.Fits (request : TxDataRequest) : Prop where
  pdus : request.pduList.length ≤ maxTxRequestPdus
  tlvs : ∀ pdu ∈ request.pduList, pdu.tlvs.length ≤ maxTxRequestTlv
  payloads : ∀ pdu ∈ request.pduList, ∀ tlv ∈ pdu.tlvs, tlv.Fits

/-- The request survives its codec: with no buffer does packing access a place outside of the
payloads, and what is packed is unpacked to the same. -/
def TxDataRequest.RoundTrips (request : TxDataRequest) (header : P7MessageHeader) : Prop :=
  ∀ limit, ∃ packed?, packMessageTxData limit header request = .ok packed? ∧
    ∀ packed, packed? = some packed →
      ∃ request', unpackMessageTxData (memoryOf packed) packed.length = .ok (some request') ∧
        request'.content = request.content

/-! ### What the encoder writes -/

/-- The number of words that are moved for a payload. -/
def TxDataRequestTlv.words (tlv : TxDataRequestTlv) : ℕ :=
  if tlv.tag = 0 then (tlv.length.toNat + 3) / 4
  else if tlv.tag = 1 then tlv.length.toNat
  else 0

/-- The words that are moved are in the storage of the payload. -/
def TxDataRequestTlv.Covered (tlv : TxDataRequestTlv) : Prop := tlv.words ≤ tlv.value.length

def NrPdu.Covered (pdu : NrPdu) : Prop := ∀ tlv ∈ pdu.tlvs, tlv.Covered

def TxDataRequest.Covered (request : TxDataRequest) : Prop := ∀ pdu ∈ request.pduList, pdu.Covered

/-- The bytes of words. -/
def wordBytes (words : List UInt32) : List UInt8 := words.flatMap bytes32

def tlvBytes (tlv : TxDataRequestTlv) : List UInt8 :=
  bytes16 tlv.tag ++ (bytes16 tlv.length ++ wordBytes (tlv.value.take tlv.words))

def pduBytes (pdu : NrPdu) : List UInt8 :=
  bytes16 pdu.pduLength ++ (bytes16 pdu.pduIndex ++ (bytes32 pdu.tlvs.length.toUInt32 ++
    pdu.tlvs.flatMap tlvBytes))

def requestBytes (request : TxDataRequest) : List UInt8 :=
  bytes16 request.sfn ++ (bytes16 request.slot ++ (bytes16 request.pduList.length.toUInt16 ++
    request.pduList.flatMap pduBytes))

theorem length_wordBytes (words : List UInt32) : (wordBytes words).length = 4 * words.length := by
  induction words with
  | nil => rfl
  | cons word words ih =>
    rw [wordBytes, List.flatMap_cons, List.length_append, ← wordBytes, ih, length_bytes32,
      List.length_cons]
    omega

theorem emits_pusharray32 {words : List UInt32} {maxLen count limit : ℕ} (hmax : count ≤ maxLen)
    (hwords : count ≤ words.length) :
    Emits limit (pusharray32 words maxLen count limit) (wordBytes (words.take count)) := by
  unfold pusharray32
  by_cases hzero : count = 0
  · rw [if_pos hzero, hzero, List.take_zero]
    exact (inferInstance : Emits limit (pure ()) [])
  · rw [if_neg hzero, Push.ensure_bind hmax]
    have hcount : (wordBytes (words.take count) ++ []).length = 4 * count := by
      rw [List.append_nil, length_wordBytes, List.length_take_of_le hwords]
    have hpushes : Emits limit (do
        Push.forEach (push32 limit) (words.take count)
        if words.length < count then Push.crash .fault else pure ())
        (wordBytes (words.take count) ++ []) := by
      rw [if_neg (Nat.not_lt.mpr hwords), wordBytes]
      infer_instance
    rw [← List.append_nil (wordBytes _)]
    exact emits_room hcount hpushes

theorem breaks_pusharray32 {words : List UInt32} {maxLen count : ℕ} (hmax : count ≤ maxLen)
    (hwords : words.length < count) :
    Breaks (pusharray32 words maxLen count) (4 * count) .fault := by
  intro limit out hroom
  have hposition : Push.position out = (.ok out.length, out) := rfl
  have hpushes : Encodes limit (Push.forEach (push32 limit) (words.take count))
      (wordBytes (words.take count)) := by
    rw [wordBytes]
    infer_instance
  have hlength : out.length + (wordBytes (words.take count)).length ≤ limit := by
    rw [length_wordBytes, List.take_of_length_le (Nat.le_of_lt hwords)]
    omega
  unfold pusharray32
  rw [if_neg (by omega), Push.ensure_bind hmax, Push.bind_of_ok hposition,
    Push.ensure_bind hroom, Push.bind_of_ok (hpushes.run out hlength), if_pos hwords]
  exact ⟨_, rfl⟩

theorem TxDataRequestTlv.words_le (tlv : TxDataRequestTlv) (htag : tlv.tag = 0) :
    tlv.words ≤ 16384 := by
  have hlength : tlv.length.toNat < 65536 := tlv.length.toNat_lt
  rw [words, if_pos htag]
  omega

/-- The array of a payload with one of the two tags. -/
theorem emits_packTxDataTlv {limit : ℕ} {tlv : TxDataRequestTlv} (htag : tlv.tag = 0 ∨ tlv.tag = 1)
    (hcovered : tlv.Covered) : Emits limit (packTxDataTlv limit tlv) (tlvBytes tlv) := by
  have harray : Emits limit (packTxDataValue limit tlv) (wordBytes (tlv.value.take tlv.words)) := by
    unfold TxDataRequestTlv.Covered at hcovered
    unfold packTxDataValue
    rcases htag with h | h
    · have hmax := tlv.words_le h
      rw [TxDataRequestTlv.words, if_pos h] at hcovered hmax ⊢
      rw [if_pos h]
      exact emits_pusharray32 hmax hcovered
    · have hne : tlv.tag ≠ 0 := by rw [h]; decide
      rw [TxDataRequestTlv.words, if_neg hne, if_pos h] at hcovered ⊢
      rw [if_neg hne, if_pos h]
      exact emits_pusharray32 (Nat.le_refl _) hcovered
  unfold packTxDataTlv tlvBytes
  infer_instance

/-- The storage of a payload that is not a pointer is large enough. -/
theorem TxDataRequestTlv.covered_of_tag {tlv : TxDataRequestTlv} (hfits : tlv.Fits)
    (htag : tlv.tag = 0) : tlv.Covered := by
  have hlength := hfits.2
  rw [Covered, words, if_pos htag]
  omega

theorem breaks_packTxDataTlv {tlv : TxDataRequestTlv} (hfits : tlv.Fits)
    (hcovered : ¬ tlv.Covered) :
    ∃ room, Breaks (fun limit ↦ packTxDataTlv limit tlv) room .fault := by
  have hne : tlv.tag ≠ 0 := fun h ↦ hcovered (TxDataRequestTlv.covered_of_tag hfits h)
  have hone : tlv.tag = 1 := hfits.1.resolve_left hne
  have hwords : tlv.value.length < tlv.length.toNat := by
    rw [TxDataRequestTlv.Covered, TxDataRequestTlv.words, if_neg hne, if_pos hone] at hcovered
    omega
  have harray : Breaks (fun limit ↦ packTxDataValue limit tlv) (4 * tlv.length.toNat) .fault := by
    simp only [packTxDataValue, if_neg hne, if_pos hone]
    exact breaks_pusharray32 (Nat.le_refl _) hwords
  unfold packTxDataTlv
  exact ⟨_, Breaks.after (fun _ ↦ inferInstance) (Breaks.after (fun _ ↦ inferInstance) harray)⟩

section Encoder

variable {request : TxDataRequest}

theorem emits_packTxDataPduListValue (hfits : request.Fits) {pdu : NrPdu}
    (hpdu : pdu ∈ request.pduList) (hcovered : pdu.Covered) (limit : ℕ) :
    Emits limit (packTxDataPduListValue limit pdu) (pduBytes pdu) := by
  have htlvs : Emits limit (Push.forEach (packTxDataTlv limit) pdu.tlvs)
      (pdu.tlvs.flatMap tlvBytes) := emits_forEach fun tlv htlv ↦
    emits_packTxDataTlv (hfits.payloads pdu hpdu tlv htlv).1 (hcovered tlv htlv)
  unfold packTxDataPduListValue pduBytes
  infer_instance

theorem emits_packTxDataRequest (hfits : request.Fits) (hcovered : request.Covered) (limit : ℕ) :
    Emits limit (packTxDataRequest limit request) (requestBytes request) := by
  have hpdus : Emits limit (Push.forEach (packTxDataPduListValue limit) request.pduList)
      (request.pduList.flatMap pduBytes) := emits_forEach fun pdu hpdu ↦
    emits_packTxDataPduListValue hfits hpdu (hcovered pdu hpdu) limit
  unfold packTxDataRequest requestBytes
  infer_instance

theorem breaks_packTxDataPduListValue (hfits : request.Fits) {pdu : NrPdu}
    (hpdu : pdu ∈ request.pduList) (hcovered : ¬ pdu.Covered) :
    ∃ room, Breaks (fun limit ↦ packTxDataPduListValue limit pdu) room .fault := by
  have hbad : ∃ tlv ∈ pdu.tlvs, ¬ tlv.Covered := by
    simpa only [NrPdu.Covered, Classical.not_forall, exists_prop] using hcovered
  obtain ⟨room, htlvs⟩ := breaks_forEach (f := packTxDataTlv) hbad
    (fun tlv htlv hgood limit ↦
      (emits_packTxDataTlv (hfits.payloads pdu hpdu tlv htlv).1 hgood).encodes)
    fun tlv htlv hwrong ↦ breaks_packTxDataTlv (hfits.payloads pdu hpdu tlv htlv) hwrong
  unfold packTxDataPduListValue
  exact ⟨_, Breaks.after (fun _ ↦ inferInstance) (Breaks.after (fun _ ↦ inferInstance)
    (Breaks.after (fun _ ↦ inferInstance) htlvs))⟩

theorem breaks_packTxDataRequest (hfits : request.Fits) (hcovered : ¬ request.Covered) :
    ∃ room, Breaks (fun limit ↦ packTxDataRequest limit request) room .fault := by
  have hbad : ∃ pdu ∈ request.pduList, ¬ pdu.Covered := by
    simpa only [TxDataRequest.Covered, Classical.not_forall, exists_prop] using hcovered
  obtain ⟨room, hpdus⟩ := breaks_forEach (f := packTxDataPduListValue) hbad
    (fun pdu hpdu hgood limit ↦ (emits_packTxDataPduListValue hfits hpdu hgood limit).encodes)
    fun pdu hpdu hwrong ↦ breaks_packTxDataPduListValue hfits hpdu hwrong
  unfold packTxDataRequest
  exact ⟨_, Breaks.after (fun _ ↦ inferInstance) (Breaks.after (fun _ ↦ inferInstance)
    (Breaks.after (fun _ ↦ inferInstance) hpdus))⟩

end Encoder

/-! ### What the decoder reads -/

/-- A payload without bytes behind the pointer. -/
def TxDataRequestTlv.Inline (tlv : TxDataRequestTlv) : Prop := tlv.tag = 1 → tlv.length = 0

def NrPdu.Inline (pdu : NrPdu) : Prop := ∀ tlv ∈ pdu.tlvs, tlv.Inline

/-- No payload is behind a pointer. -/
def TxDataRequest.Inline (request : TxDataRequest) : Prop := ∀ pdu ∈ request.pduList, pdu.Inline

/-- A payload as it arrives: with the words that were moved. -/
def TxDataRequestTlv.arrived (tlv : TxDataRequestTlv) : TxDataRequestTlv :=
  { tlv with value := tlv.value.take tlv.words }

def NrPdu.arrived (pdu : NrPdu) : NrPdu :=
  { pdu with tlvs := pdu.tlvs.map TxDataRequestTlv.arrived }

def TxDataRequest.arrived (request : TxDataRequest) : TxDataRequest :=
  { request with pduList := request.pduList.map NrPdu.arrived }

theorem TxDataRequestTlv.Inline.covered {tlv : TxDataRequestTlv} (hinline : tlv.Inline)
    (hfits : tlv.Fits) : tlv.Covered := by
  rcases hfits.1 with h | h
  · exact TxDataRequestTlv.covered_of_tag hfits h
  · have hne : tlv.tag ≠ 0 := by rw [h]; decide
    rw [TxDataRequestTlv.Covered, TxDataRequestTlv.words, if_neg hne, if_pos h, hinline h]
    exact Nat.zero_le _

theorem length_take_words {tlv : TxDataRequestTlv} (hcovered : tlv.Covered) :
    (tlv.value.take tlv.words).length = tlv.words := List.length_take_of_le hcovered

theorem reads_pullarray32 {maxLen limit : ℕ} {words : List UInt32} (hmax : words.length ≤ maxLen) :
    Reads limit (pullarray32 maxLen words.length limit) (wordBytes words) words := by
  have hwords : Reads limit (Pull.repeatPull (pull32 limit) words.length) (wordBytes words)
      (words.map id) := reads_repeatPull fun word _ ↦ reads_pull32 limit word
  rw [List.map_id] at hwords
  unfold pullarray32
  by_cases hzero : words.length = 0
  · obtain rfl := List.length_eq_zero_iff.mp hzero
    exact reads_pure limit []
  · rw [if_neg hzero]
    exact reads_ensure hmax (reads_unsigned_room (length_wordBytes words) hwords)

theorem reads_unpackTxDataValue {limit : ℕ} {tlv : TxDataRequestTlv} (hfits : tlv.Fits)
    (hinline : tlv.Inline) : Reads limit (unpackTxDataValue tlv.tag tlv.length limit)
      (wordBytes (tlv.value.take tlv.words)) (tlv.value.take tlv.words) := by
  have hlength := length_take_words (hinline.covered hfits)
  unfold unpackTxDataValue
  rcases hfits.1 with h | h
  · have hmax : tlv.words ≤ directWords := Nat.le_trans (tlv.words_le h) (by decide)
    have hwords : tlv.words = (tlv.length.toNat + 3) / 4 := by
      rw [TxDataRequestTlv.words, if_pos h]
    have hread : Reads limit (pullarray32 directWords (tlv.value.take tlv.words).length limit)
        (wordBytes (tlv.value.take tlv.words)) (tlv.value.take tlv.words) :=
      reads_pullarray32 (by rwa [hlength])
    rw [hlength] at hread
    rwa [if_pos h, ← hwords]
  · have hne : tlv.tag ≠ 0 := by rw [h]; decide
    have hwords : tlv.words = 0 := by
      rw [TxDataRequestTlv.words, if_neg hne, if_pos h, hinline h]
      rfl
    rw [if_neg hne, if_pos h, hinline h, hwords, List.take_zero]
    exact reads_pure limit []

theorem reads_unpackTxDataTlv {limit : ℕ} {tlv : TxDataRequestTlv} (hfits : tlv.Fits)
    (hinline : tlv.Inline) : Reads limit (unpackTxDataTlv limit) (tlvBytes tlv) tlv.arrived := by
  unfold unpackTxDataTlv tlvBytes
  refine (reads_pull16 limit _).bind ((reads_pull16 limit _).bind ?_)
  exact (reads_unpackTxDataValue hfits hinline).map

/-- The first word of a payload is written behind the null pointer. -/
theorem stops_unpackTxDataTlv {limit : ℕ} {tlv : TxDataRequestTlv} (hcovered : tlv.Covered)
    (hinline : ¬ tlv.Inline) :
    Stops limit (unpackTxDataTlv limit) (tlvBytes tlv) (.crash .fault) := by
  obtain ⟨htag, hlength⟩ := Classical.not_imp.mp hinline
  have hne : tlv.tag ≠ 0 := by rw [htag]; decide
  have hpos : tlv.length.toNat ≠ 0 := fun h ↦ hlength (UInt16.toNat_inj.mp h)
  have hwords : tlv.words = tlv.length.toNat := by
    rw [TxDataRequestTlv.words, if_neg hne, if_pos htag]
  have hcount := length_take_words hcovered
  rw [hwords] at hcount
  have hfirst : Stops limit (do let _ ← pull32 limit; Pull.crash .fault : Pull (List UInt32))
      (wordBytes (tlv.value.take tlv.length.toNat)) (.crash .fault) := by
    cases hvalue : tlv.value.take tlv.length.toNat with
    | nil =>
      rw [hvalue] at hcount
      exact absurd hcount.symm hpos
    | cons word words =>
      have hpull : Stops limit (do let _ ← pull32 limit; Pull.crash .fault : Pull (List UInt32))
          (bytes32 word ++ []) (.crash .fault) :=
        Stops.after (reads_pull32 limit word) (stops_crash .fault)
      rw [List.append_nil] at hpull
      exact hpull.append _
  have harray : Stops limit (unpackTxDataValue tlv.tag tlv.length limit)
      (wordBytes (tlv.value.take tlv.length.toNat)) (.crash .fault) := by
    unfold unpackTxDataValue pullarray32IntoNull
    rw [if_neg hne, if_pos htag, if_neg hpos]
    exact stops_ensure (Nat.le_refl _)
      (stops_unsigned_room (by rw [length_wordBytes, hcount]) hfirst)
  unfold unpackTxDataTlv tlvBytes
  rw [hwords]
  exact Stops.after (reads_pull16 limit _) (Stops.after (reads_pull16 limit _) harray.bind)

theorem toNat_toUInt16 {count : ℕ} (h : count < 65536) : count.toUInt16.toNat = count :=
  UInt16.toNat_ofNat_of_lt h

theorem toNat_toUInt32_toUInt16 {count : ℕ} (h : count < 65536) :
    count.toUInt32.toUInt16.toNat = count := by
  have hword : count.toUInt32.toNat = count :=
    UInt32.toNat_ofNat_of_lt (Nat.lt_trans h (by decide))
  rw [UInt32.toNat_toUInt16, hword, Nat.mod_eq_of_lt h]

section Decoder

variable {request : TxDataRequest} {limit : ℕ}

theorem tlvs_lt (hfits : request.Fits) {pdu : NrPdu} (hpdu : pdu ∈ request.pduList) :
    pdu.tlvs.length < 65536 :=
  Nat.lt_of_le_of_lt (hfits.tlvs pdu hpdu) (by decide)

theorem pdus_lt (hfits : request.Fits) : request.pduList.length < 65536 :=
  Nat.lt_of_le_of_lt hfits.pdus (by decide)

theorem reads_unpackTxDataPduListValue (hfits : request.Fits) {pdu : NrPdu}
    (hpdu : pdu ∈ request.pduList) (hinline : pdu.Inline) :
    Reads limit (unpackTxDataPduListValue limit) (pduBytes pdu) pdu.arrived := by
  have htlvs : Reads limit (Pull.fillList (unpackTxDataTlv limit) (outsideList limit)
      maxTxRequestTlv pdu.tlvs.length) (pdu.tlvs.flatMap tlvBytes)
      (pdu.tlvs.map TxDataRequestTlv.arrived) :=
    reads_fillList (hfits.tlvs pdu hpdu) fun tlv htlv ↦
      reads_unpackTxDataTlv (hfits.payloads pdu hpdu tlv htlv) (hinline tlv htlv)
  rw [← toNat_toUInt32_toUInt16 (tlvs_lt hfits hpdu)] at htlvs
  unfold unpackTxDataPduListValue pduBytes
  refine (reads_pull16 limit _).bind ((reads_pull16 limit _).bind ((reads_pull32 limit _).bind ?_))
  exact htlvs.map

theorem reads_unpackTxDataRequest (hfits : request.Fits) (hinline : request.Inline) :
    Reads limit (unpackTxDataRequest limit) (requestBytes request) request.arrived := by
  have hpdus : Reads limit (Pull.fillList (unpackTxDataPduListValue limit) (outsideList limit)
      maxTxRequestPdus request.pduList.length) (request.pduList.flatMap pduBytes)
      (request.pduList.map NrPdu.arrived) :=
    reads_fillList hfits.pdus fun pdu hpdu ↦
      reads_unpackTxDataPduListValue hfits hpdu (hinline pdu hpdu)
  rw [← toNat_toUInt16 (pdus_lt hfits)] at hpdus
  unfold unpackTxDataRequest requestBytes
  refine (reads_pull16 limit _).bind ((reads_pull16 limit _).bind ((reads_pull16 limit _).bind ?_))
  exact hpdus.map

theorem stops_unpackTxDataPduListValue (hfits : request.Fits) {pdu : NrPdu}
    (hpdu : pdu ∈ request.pduList) (hcovered : pdu.Covered) (hinline : ¬ pdu.Inline) :
    Stops limit (unpackTxDataPduListValue limit) (pduBytes pdu) (.crash .fault) := by
  have hbad : ∃ tlv ∈ pdu.tlvs, ¬ tlv.Inline := by
    simpa only [NrPdu.Inline, Classical.not_forall, exists_prop] using hinline
  have htlvs : Stops limit (Pull.fillList (unpackTxDataTlv limit) (outsideList limit)
      maxTxRequestTlv pdu.tlvs.length) (pdu.tlvs.flatMap tlvBytes) (.crash .fault) := by
    rw [Pull.fillList_of_le _ _ (hfits.tlvs pdu hpdu)]
    exact stops_repeatPull hbad
      (fun tlv htlv hgood ↦ reads_unpackTxDataTlv (hfits.payloads pdu hpdu tlv htlv) hgood)
      fun tlv htlv hwrong ↦ stops_unpackTxDataTlv (hcovered tlv htlv) hwrong
  rw [← toNat_toUInt32_toUInt16 (tlvs_lt hfits hpdu)] at htlvs
  unfold unpackTxDataPduListValue pduBytes
  refine Stops.after (reads_pull16 limit _) (Stops.after (reads_pull16 limit _)
    (Stops.after (reads_pull32 limit _) ?_))
  exact htlvs.bind

theorem stops_unpackTxDataRequest (hfits : request.Fits) (hcovered : request.Covered)
    (hinline : ¬ request.Inline) :
    Stops limit (unpackTxDataRequest limit) (requestBytes request) (.crash .fault) := by
  have hbad : ∃ pdu ∈ request.pduList, ¬ pdu.Inline := by
    simpa only [TxDataRequest.Inline, Classical.not_forall, exists_prop] using hinline
  have hpdus : Stops limit (Pull.fillList (unpackTxDataPduListValue limit) (outsideList limit)
      maxTxRequestPdus request.pduList.length) (request.pduList.flatMap pduBytes)
      (.crash .fault) := by
    rw [Pull.fillList_of_le _ _ hfits.pdus]
    exact stops_repeatPull hbad
      (fun pdu hpdu hgood ↦ reads_unpackTxDataPduListValue hfits hpdu hgood)
      fun pdu hpdu hwrong ↦ stops_unpackTxDataPduListValue hfits hpdu (hcovered pdu hpdu) hwrong
  rw [← toNat_toUInt16 (pdus_lt hfits)] at hpdus
  unfold unpackTxDataRequest requestBytes
  refine Stops.after (reads_pull16 limit _) (Stops.after (reads_pull16 limit _)
    (Stops.after (reads_pull16 limit _) ?_))
  exact hpdus.bind

end Decoder

/-! ### The round trip -/

theorem take_flatMap_hostBytes (words : List UInt32) (count : ℕ) :
    (words.take count).flatMap hostBytes = (words.flatMap hostBytes).take (4 * count) := by
  induction words generalizing count with
  | nil => rw [List.take_nil, List.flatMap_nil, List.take_nil]
  | cons word words ih =>
    cases count with
    | zero => rfl
    | succ count =>
      have hword : (hostBytes word).length = 4 := rfl
      rw [List.take_succ_cons, List.flatMap_cons, List.flatMap_cons, ih, Nat.mul_succ,
        Nat.add_comm (4 * count), ← hword, List.take_length_add_append]

/-- The words that are moved hold the bytes of the payload. -/
theorem TxDataRequestTlv.content_arrived {tlv : TxDataRequestTlv} (hfits : tlv.Fits)
    (hinline : tlv.Inline) : tlv.arrived.content = tlv.content := by
  have hwords : tlv.length.toNat ≤ 4 * tlv.words := by
    rcases hfits.1 with h | h
    · rw [words, if_pos h]
      omega
    · rw [hinline h]
      exact Nat.zero_le _
  have hpayload : tlv.arrived.payload = tlv.payload := by
    show ((tlv.value.take tlv.words).flatMap hostBytes).take tlv.length.toNat = _
    rw [take_flatMap_hostBytes, List.take_take, Nat.min_eq_left hwords, payload]
  rw [content, hpayload]
  rfl

theorem TxDataRequest.content_arrived {request : TxDataRequest} (hfits : request.Fits)
    (hinline : request.Inline) : request.arrived.content = request.content := by
  have hpdu : ∀ pdu ∈ request.pduList, pdu.arrived.content = pdu.content := by
    intro pdu hmem
    have htlvs : (pdu.tlvs.map TxDataRequestTlv.arrived).map TxDataRequestTlv.content =
        pdu.tlvs.map TxDataRequestTlv.content := by
      rw [List.map_map]
      exact List.map_congr_left fun tlv htlv ↦
        TxDataRequestTlv.content_arrived (hfits.payloads pdu hmem tlv htlv)
          (hinline pdu hmem tlv htlv)
    show (pdu.pduLength, pdu.pduIndex,
      (pdu.tlvs.map TxDataRequestTlv.arrived).map TxDataRequestTlv.content) = _
    rw [htlvs]
    rfl
  show (request.sfn, request.slot, (request.pduList.map NrPdu.arrived).map NrPdu.content) = _
  rw [List.map_map, content]
  congr 2
  exact List.map_congr_left hpdu

/-- The message is longer than a packed message can be. -/
def TxDataRequest.TooLong (request : TxDataRequest) : Prop :=
  0xFFFF < p7HeaderLength + (requestBytes request).length

section RoundTrip

variable {request : TxDataRequest}

/-- Without a payload behind a pointer, a request survives. -/
theorem TxDataRequest.roundTrips_of_inline (hfits : request.Fits) (hinline : request.Inline)
    (header : P7MessageHeader) : request.RoundTrips header := by
  intro limit
  have hcovered : request.Covered := fun pdu hpdu tlv htlv ↦
    (hinline pdu hpdu tlv htlv).covered (hfits.payloads pdu hpdu tlv htlv)
  have hwrites := (emits_packTxDataRequest hfits hcovered limit).writes
  obtain ⟨packed?, hpack⟩ :=
    packMessage_of_writes_ok hwrites { header with messageId := nrTxDataRequest }
  refine ⟨packed?, hpack, fun packed hpacked ↦ ?_⟩
  rw [hpacked] at hpack
  have hreads : ∀ limit, Reads limit (unpackTxDataRequest limit) (requestBytes request)
      request.arrived := fun _ ↦ reads_unpackTxDataRequest hfits hinline
  have hunpack := messageUnpack_packed rfl hwrites hpack hreads
  exact ⟨request.arrived, hunpack, request.content_arrived hfits hinline⟩

/-- A message that is too long is not packed. -/
theorem TxDataRequest.roundTrips_of_tooLong (hfits : request.Fits) (hcovered : request.Covered)
    (hlong : request.TooLong) (header : P7MessageHeader) : request.RoundTrips header := by
  intro limit
  have hwrites := (emits_packTxDataRequest hfits hcovered limit).writes
  obtain ⟨packed?, hpack⟩ :=
    packMessage_of_writes_ok hwrites { header with messageId := nrTxDataRequest }
  refine ⟨packed?, hpack, fun packed hpacked ↦ ?_⟩
  rw [hpacked] at hpack
  have hshort := (packMessage_of_writes_eq_some hwrites hpack).1
  unfold TxDataRequest.TooLong at hlong
  omega

/-- A request that survives moves no words that are not in the storage of its payloads. -/
theorem TxDataRequest.RoundTrips.covered (hfits : request.Fits) {header : P7MessageHeader}
    (h : request.RoundTrips header) : request.Covered := by
  apply Classical.byContradiction
  intro hcovered
  obtain ⟨room, hbreaks⟩ := breaks_packTxDataRequest hfits hcovered
  obtain ⟨packed?, hpack, -⟩ := h (p7HeaderLength + room)
  have hfault := packMessage_of_breaks hbreaks { header with messageId := nrTxDataRequest }
  rw [packMessageTxData, hfault] at hpack
  cases hpack

/-- A request that survives and can be packed has no payload behind a pointer. -/
theorem TxDataRequest.RoundTrips.inline (hfits : request.Fits) {header : P7MessageHeader}
    (h : request.RoundTrips header) (hshort : ¬ request.TooLong) : request.Inline := by
  apply Classical.byContradiction
  intro hinline
  have hcovered := h.covered hfits
  have hwrites := (emits_packTxDataRequest hfits hcovered 0xFFFF).writes
  have hroom : p7HeaderLength + (requestBytes request).length ≤ 0xFFFF := Nat.le_of_not_lt hshort
  obtain ⟨packed?, hpack, hunpack⟩ := h 0xFFFF
  have hpacked := packMessage_of_writes hwrites { header with messageId := nrTxDataRequest }
  rw [if_pos ⟨hroom, hroom⟩] at hpacked
  rw [packMessageTxData, hpacked] at hpack
  cases hpack
  obtain ⟨request', hsome, -⟩ := hunpack _ rfl
  have hstops : ∀ limit, Stops limit (unpackTxDataRequest limit) (requestBytes request)
      (.crash .fault) := fun _ ↦ stops_unpackTxDataRequest hfits hcovered hinline
  have hfault := messageUnpack_packed_of_stops rfl hwrites hpacked hstops
  rw [unpackMessageTxData, hfault] at hsome
  cases hsome

/-- A request survives its codec exactly if it has no payload behind a pointer, but for those that
are too long to be packed at all. -/
theorem txData_roundTrips_iff (request : TxDataRequest) (header : P7MessageHeader)
    (hfits : request.Fits) :
    request.RoundTrips header ↔ request.Inline ∨ request.TooLong ∧ request.Covered := by
  constructor
  · intro h
    by_cases hlong : request.TooLong
    · exact Or.inr ⟨hlong, h.covered hfits⟩
    · exact Or.inl (h.inline hfits hlong)
  · rintro (hinline | ⟨hlong, hcovered⟩)
    · exact request.roundTrips_of_inline hfits hinline header
    · exact request.roundTrips_of_tooLong hfits hcovered hlong header

end RoundTrip

/-- A request with one payload of four bytes behind a pointer. -/
def pointerRequest : TxDataRequest where
  sfn := 1
  slot := 2
  pduList := [{ pduLength := 8, pduIndex := 0, tlvs := [{ tag := 1, length := 4, value := [7] }] }]

theorem pointerRequest_fits : pointerRequest.Fits where
  pdus := by decide
  tlvs := by decide
  payloads := by
    unfold TxDataRequestTlv.Fits
    decide

theorem pointerRequest_roundTrips_iff :
    pointerRequest.RoundTrips {} ↔
      pointerRequest.Inline ∨ pointerRequest.TooLong ∧ pointerRequest.Covered :=
  txData_roundTrips_iff pointerRequest {} pointerRequest_fits

/-- Packing this request reads behind the payload. -/
theorem pointerRequest_not_roundTrips :
    pointerRequest.Fits ∧ ¬ pointerRequest.RoundTrips {} := by
  refine ⟨pointerRequest_fits, fun h ↦ ?_⟩
  obtain ⟨packed?, hpack, -⟩ := h 100
  have hfault : packMessageTxData 100 {} pointerRequest = .error .fault := rfl
  rw [hfault] at hpack
  cases hpack

end MultiUeProxy.P7.NrTxData
