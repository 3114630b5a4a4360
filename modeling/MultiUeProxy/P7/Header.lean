import MultiUeProxy.Lib.OrderlyPull

/-!
# The P7 message header

The frame that all decoders of `nfapi_p7.c` share: the header of a P7 message, the checks that
`nfapi_p7_message_unpack` and `nfapi_nr_p7_message_unpack` make on it before they decode the body,
and the two list decoders of `nfapi.c` that LTE bodies are read with. `messageUnpack_eq_some` says
what an accepted message looks like up to its body.

The codec is always called without a configuration, so that `nfapi_p7_allocate` is `calloc`, which
is taken to succeed, and a vendor extension is passed over without being decoded.
-/

set_option autoImplicit false
set_option relaxedAutoImplicit false

namespace MultiUeProxy.P7.Header

open Lib.Execution Lib.ByteCursor Lib.ByteCursor.Pull

/-! ### Message ids -/

def harqIndication : UInt16 := 0x85
def crcIndication : UInt16 := 0x86
def rxUlschIndication : UInt16 := 0x87
def rachIndication : UInt16 := 0x88
def rxSrIndication : UInt16 := 0x8A
def rxCqiIndication : UInt16 := 0x8B

def nrRxDataIndication : UInt16 := 0x85
def nrCrcIndication : UInt16 := 0x86
def nrUciIndication : UInt16 := 0x87
def nrSrsIndication : UInt16 := 0x88
def nrRachIndication : UInt16 := 0x89

/-! ### The header -/

/-- `NFAPI_P7_HEADER_LENGTH`, which is also the size of `nfapi_p7_message_header_t`. -/
def p7HeaderLength : ℕ := 16

/-- `NFAPI_RX_IND_DATA_MAX`, which is also `NFAPI_MAX_PACKED_MESSAGE_SIZE`. -/
def rxIndDataMax : ℕ := 8192

/-- `nfapi_p7_message_header_t`. -/
structure P7MessageHeader where
  phyId : UInt16 := 0
  messageId : UInt16 := 0
  messageLength : UInt16 := 0
  mSegmentSequence : UInt16 := 0
  checksum : UInt32 := 0
  transmitTimestamp : UInt32 := 0
  deriving DecidableEq, Repr

/-- Reads the fields of the header. -/
def pullHeader (limit : ℕ) : Pull P7MessageHeader := do
  let phyId ← pull16 limit
  let messageId ← pull16 limit
  let messageLength ← pull16 limit
  let mSegmentSequence ← pull16 limit
  let checksum ← pull32 limit
  let transmitTimestamp ← pull32 limit
  return { phyId, messageId, messageLength, mSegmentSequence, checksum, transmitTimestamp }

instance {limit : ℕ} : Orderly (pullHeader limit) := by
  rw [pullHeader]
  infer_instance

/-- Inside the object and below the limit, the header is read. -/
theorem pullHeader_of_room {limit : ℕ} {mem : Memory} (hlimit : p7HeaderLength ≤ limit)
    (hsize : p7HeaderLength ≤ mem.size) :
    ∃ header, pullHeader limit mem 0 = .ok (header, p7HeaderLength) := by
  simp only [p7HeaderLength] at hlimit hsize ⊢
  obtain ⟨checksum, hchecksum⟩ : ∃ value, pull32 limit mem 8 = .ok (value, 12) :=
    pull32_of_room (by omega) (by omega)
  obtain ⟨timestamp, htimestamp⟩ : ∃ value, pull32 limit mem 12 = .ok (value, 16) :=
    pull32_of_room (by omega) (by omega)
  exact ⟨_, by
    unfold pullHeader
    rw [bind_of_ok (pull16_of_room (by omega) (by omega)),
      bind_of_ok (pull16_of_room (by omega) (by omega)),
      bind_of_ok (pull16_of_room (by omega) (by omega)),
      bind_of_ok (pull16_of_room (by omega) (by omega)), bind_of_ok hchecksum,
      bind_of_ok htimestamp, pure_apply]⟩

/-- A header that is read takes the first sixteen bytes and has its message id at the third. -/
theorem pullHeader_eq_ok {limit : ℕ} {mem : Memory} {last : ℕ} {header : P7MessageHeader}
    (h : pullHeader limit mem 0 = .ok (header, last)) :
    last = p7HeaderLength ∧ header.messageId = word16 mem 2 := by
  obtain ⟨phyId, next, hphy, hrest⟩ := bind_eq_ok.mp h
  obtain ⟨-, -, rfl⟩ := pull16_eq_ok hphy
  obtain ⟨messageId, next, hid, hrest⟩ := bind_eq_ok.mp hrest
  obtain ⟨-, rfl, rfl⟩ := pull16_eq_ok hid
  obtain ⟨messageLength, next, hlength, hrest⟩ := bind_eq_ok.mp hrest
  obtain ⟨-, -, rfl⟩ := pull16_eq_ok hlength
  obtain ⟨segment, next, hsegment, hrest⟩ := bind_eq_ok.mp hrest
  obtain ⟨-, -, rfl⟩ := pull16_eq_ok hsegment
  obtain ⟨checksum, next, hchecksum, hrest⟩ := bind_eq_ok.mp hrest
  obtain ⟨-, rfl⟩ := pull32_eq_ok hchecksum
  obtain ⟨timestamp, next, htimestamp, hpure⟩ := bind_eq_ok.mp hrest
  obtain ⟨-, rfl⟩ := pull32_eq_ok htimestamp
  cases hpure
  exact ⟨rfl, rfl⟩

/-- A header that is read has its length at the fifth byte and its segment word at the seventh. -/
theorem pullHeader_words {limit : ℕ} {mem : Memory} {last : ℕ}
    {header : P7MessageHeader} (h : pullHeader limit mem 0 = .ok (header, last)) :
    header.messageLength = word16 mem 4 ∧ header.mSegmentSequence = word16 mem 6 := by
  obtain ⟨phyId, next, hphy, hrest⟩ := bind_eq_ok.mp h
  obtain ⟨-, -, rfl⟩ := pull16_eq_ok hphy
  obtain ⟨messageId, next, hid, hrest⟩ := bind_eq_ok.mp hrest
  obtain ⟨-, -, rfl⟩ := pull16_eq_ok hid
  obtain ⟨messageLength, next, hlength, hrest⟩ := bind_eq_ok.mp hrest
  obtain ⟨-, rfl, rfl⟩ := pull16_eq_ok hlength
  obtain ⟨segment, next, hsegment, hrest⟩ := bind_eq_ok.mp hrest
  obtain ⟨-, rfl, -⟩ := pull16_eq_ok hsegment
  obtain ⟨checksum, next, -, hrest⟩ := bind_eq_ok.mp hrest
  obtain ⟨timestamp, next, -, hpure⟩ := bind_eq_ok.mp hrest
  cases hpure
  exact ⟨rfl, rfl⟩

/-- `nfapi_p7_message_header_unpack`. -/
def p7MessageHeaderUnpack (mem : Memory) (length : ℕ) : Outcome (Option P7MessageHeader) :=
  if length < p7HeaderLength then .ok none
  else (pullHeader length).run mem 0

/-- The header of a datagram unpacks exactly when there is room for it. -/
theorem p7MessageHeaderUnpack_isSome {mem : Memory} {length : ℕ} (hlength : length ≤ mem.size) :
    ∃ header, p7MessageHeaderUnpack mem length = .ok header ∧
      (header.isSome ↔ p7HeaderLength ≤ length) := by
  rw [p7MessageHeaderUnpack]
  by_cases hroom : length < p7HeaderLength
  · exact ⟨none, if_pos hroom, by simp [hroom]⟩
  · have hsize : p7HeaderLength ≤ mem.size := Nat.le_trans (Nat.le_of_not_lt hroom) hlength
    obtain ⟨header, hpull⟩ := pullHeader_of_room (Nat.le_of_not_lt hroom) hsize
    refine ⟨some header, ?_, by simp [Nat.le_of_not_lt hroom]⟩
    rw [if_neg hroom, run_eq_some]
    exact ⟨_, hpull⟩

/-! ### Unpacking a message -/

/-- The common part of `nfapi_p7_message_unpack` and `nfapi_nr_p7_message_unpack`: the checks on
the header, then the switch over the message id, which decodes the body. -/
def messageUnpack {α : Type} (switch : P7MessageHeader → ℕ → Pull α) (mem : Memory)
    (length : ℕ) : Outcome (Option α) :=
  if length < p7HeaderLength then .ok none
  else Pull.run (do
    let header ← pullHeader length
    ensure (header.messageLength.toNat ≤ length)
    switch header length) mem 0

section Unpack

variable {α : Type} {switch : P7MessageHeader → ℕ → Pull α} {mem : Memory} {length : ℕ}

/-- The body of an accepted message is read from behind the header on, by the switch over the
message id that is in the header. -/
theorem messageUnpack_eq_some {a : α} (h : messageUnpack switch mem length = .ok (some a)) :
    p7HeaderLength ≤ length ∧ ∃ header last, header.messageId = word16 mem 2 ∧
      switch header length mem p7HeaderLength = .ok (a, last) := by
  rw [messageUnpack] at h
  split_ifs at h with hroom
  · cases h
  · obtain ⟨last, hpull⟩ := run_eq_some.mp h
    obtain ⟨header, next, hheader, hrest⟩ := bind_eq_ok.mp hpull
    obtain ⟨rfl, hid⟩ := pullHeader_eq_ok hheader
    obtain ⟨_, next, hlength, hbody⟩ := bind_eq_ok.mp hrest
    obtain ⟨-, rfl⟩ := ensure_eq_ok.mp hlength
    exact ⟨Nat.le_of_not_lt hroom, header, last, hid, hbody⟩

/-- With an orderly switch, unpacking returns or reads outside the buffer. -/
theorem messageUnpack_of_orderly [∀ header limit, Orderly (switch header limit)] {cause : Crash}
    (h : messageUnpack switch mem length = .error cause) : cause = .fault := by
  rw [messageUnpack] at h
  split_ifs at h with hroom
  exact run_of_orderly h

end Unpack

/-! ### List decoders -/

/-- `NFAPI_VENDOR_EXTENSION_MIN_TAG_VALUE`; the largest vendor tag is the largest tag. -/
def vendorExtensionMinTagValue : UInt16 := 0xF000

/-- `MAX_BAD_TAG`. -/
def maxBadTag : ℕ := 3

/-- `unpack_tlv_list`. -/
def unpackTlvList {σ : Type} : List (TlvField σ) → ℕ → σ → Pull σ :=
  tlvList ⟨fun tag ↦ vendorExtensionMinTagValue ≤ tag, maxBadTag, false⟩

/-- `unpack_p7_tlv_list`. After too many unknown tags it returns `-1`, which its callers take for
success. -/
def unpackP7TlvList {σ : Type} : List (TlvField σ) → ℕ → σ → Pull σ :=
  tlvList ⟨fun tag ↦ vendorExtensionMinTagValue ≤ tag, maxBadTag, true⟩

/-! ### Indications -/

/-- An indication with a list of PDUs. What it has apart from its header, the number of its PDUs
and their list is its `frame`: the time and, in LTE, the tag and length of its body. -/
structure Indication (σ π : Type) where
  header : P7MessageHeader
  frame : σ
  number : ℕ
  pduList : List π

end MultiUeProxy.P7.Header
