import MultiUeProxy.Lib.Lockstep
import MultiUeProxy.P7.Header

/-!
# Packing a P7 message

The frame that all encoders of `nfapi_p7.c` share. `nfapi_p7_message_pack` and
`nfapi_nr_p7_message_pack` write the header, let the encoder for the message id write the body, and
then put the length of the whole into the header. The checksum stays zero.

`messagePack_of_writes` gives the packed message for an encoder that is known by what it writes, and
`messagePack_eq_some` says what every packed message looks like. `reads_pullHeader` is the round
trip of the header.
-/

set_option autoImplicit false
set_option relaxedAutoImplicit false

namespace MultiUeProxy.P7.Pack

open Lib.Execution Lib.ByteWriter Lib.ByteWriter.Push Lib.ByteCursor Lib.Codec Lib.Lockstep
  Header

/-- An encoder of the body of a message: it may fail, but it never takes back what was written
before it. -/
structure BodyEncoder where
  push : Push Unit
  appends : ∀ out next, push out = (.ok (), next) → out <+: next

/-- The encoder of a body that is given as bytes. -/
def BodyEncoder.ofBytes (limit : ℕ) (bytes : List UInt8) : BodyEncoder where
  push := pushBytes limit bytes
  appends out next h := by
    by_cases hroom : out.length + bytes.length ≤ limit
    · rw [pushBytes_of_room hroom] at h
      cases h
      exact List.prefix_append _ _
    · rw [pushBytes_of_no_room hroom] at h
      cases h

/-- The header as it is written first, without its length. -/
def pushHeader (limit : ℕ) (header : P7MessageHeader) : Push Unit := do
  push16 limit header.phyId
  push16 limit header.messageId
  push16 limit 0
  push16 limit header.mSegmentSequence
  push32 limit 0
  push32 limit header.transmitTimestamp

/-- The header and the body. -/
def pushMessage (encode : Push Unit) (limit : ℕ) (header : P7MessageHeader) : Push Unit := do
  pushHeader limit header
  encode

/-- The common part of `nfapi_p7_message_pack` and `nfapi_nr_p7_message_pack`: `encode` is the
encoder that the switch over the message id selects, and `limit` the size of the buffer. -/
def packMessage (encode : Push Unit) (limit : ℕ) (header : P7MessageHeader) :
    Outcome (Option (List UInt8)) :=
  match pushMessage encode limit header [] with
  | (.ok (), packed) =>
    if packed.length > 0xFFFF ∨ packed.length > limit then .ok none
    else .ok (some (packed.take 4 ++ bytes16 packed.length.toUInt16 ++ packed.drop 6))
  | (.error .reject, _) => .ok none
  | (.error (.crash cause), _) => .error cause

/-- The message that is packed, if there is one. -/
def messagePack (encode : Push Unit) (limit : ℕ) (header : P7MessageHeader) :
    Option (List UInt8) :=
  match packMessage encode limit header with
  | .ok packed => packed
  | .error _ => none

/-- The bytes of a header. -/
def headerBytes (header : P7MessageHeader) : List UInt8 :=
  bytes16 header.phyId ++ (bytes16 header.messageId ++ (bytes16 header.messageLength ++
    (bytes16 header.mSegmentSequence ++ (bytes32 header.checksum ++
      bytes32 header.transmitTimestamp))))

@[simp] theorem length_headerBytes (header : P7MessageHeader) :
    (headerBytes header).length = p7HeaderLength := rfl

/-- Behind the header comes the body. -/
theorem drop_headerBytes (header : P7MessageHeader) (body : List UInt8) :
    (headerBytes header ++ body).drop p7HeaderLength = body := by
  rw [← length_headerBytes header, List.drop_left]

/-- The header of a packed message of this length. -/
def packedHeader (header : P7MessageHeader) (length : UInt16) : P7MessageHeader :=
  { header with messageLength := length, checksum := 0 }

theorem writes_pushHeader (limit : ℕ) (header : P7MessageHeader) :
    Writes limit (pushHeader limit header) (headerBytes (packedHeader header 0)) :=
  (writes_push16 limit _).andThen <| (writes_push16 limit _).andThen <|
    (writes_push16 limit _).andThen <| (writes_push16 limit _).andThen <|
      (writes_push32 limit _).andThen (writes_push32 limit _)

/-- Putting the length into the header that was written with length zero. -/
theorem packedHeader_set_length (header : P7MessageHeader) (length : UInt16) (body : List UInt8) :
    (headerBytes (packedHeader header 0) ++ body).take 4 ++ bytes16 length ++
      (headerBytes (packedHeader header 0) ++ body).drop 6 =
        headerBytes (packedHeader header length) ++ body := rfl

theorem length_header_append (header : P7MessageHeader) (body : List UInt8) :
    (headerBytes header ++ body).length = p7HeaderLength + body.length := by
  rw [List.length_append, length_headerBytes]

/-- An encoder that writes a body behind the header gives a packed message if it fits. -/
theorem packMessage_of_body {encode : Push Unit} {limit : ℕ} {header : P7MessageHeader}
    {body : List UInt8}
    (h : pushMessage encode limit header [] =
      (.ok (), headerBytes (packedHeader header 0) ++ body)) :
    packMessage encode limit header =
      if p7HeaderLength + body.length > 0xFFFF ∨ p7HeaderLength + body.length > limit then .ok none
      else .ok (some
        (headerBytes (packedHeader header (p7HeaderLength + body.length).toUInt16) ++ body)) := by
  unfold packMessage
  rw [h]
  show (if (headerBytes (packedHeader header 0) ++ body).length > 0xFFFF ∨
    (headerBytes (packedHeader header 0) ++ body).length > limit then _ else _) = _
  rw [length_header_append, packedHeader_set_length]

/-- With an encoder that is known by what it writes, a message is packed exactly when it fits the
buffer and its length fits the header. -/
theorem packMessage_of_writes {encode : Push Unit} {limit : ℕ} {body : List UInt8}
    (h : Writes limit encode body) (header : P7MessageHeader) :
    packMessage encode limit header =
      if p7HeaderLength + body.length ≤ limit ∧ p7HeaderLength + body.length ≤ 0xFFFF then
        .ok (some
          (headerBytes (packedHeader header (p7HeaderLength + body.length).toUInt16) ++ body))
      else .ok none := by
  have hwrites : Writes limit (pushMessage encode limit header)
      (headerBytes (packedHeader header 0) ++ body) := (writes_pushHeader limit header).andThen h
  by_cases hfits : p7HeaderLength + body.length ≤ limit
  · have hroom : ([] : List UInt8).length +
        (headerBytes (packedHeader header 0) ++ body).length ≤ limit := by
      rwa [length_header_append, List.length_nil, Nat.zero_add]
    rw [packMessage_of_body (hwrites.of_room hroom)]
    by_cases hlength : p7HeaderLength + body.length ≤ 0xFFFF
    · rw [if_neg (by omega), if_pos ⟨hfits, hlength⟩]
    · rw [if_pos (by omega), if_neg fun h ↦ hlength h.2]
  · have hroom : ¬ ([] : List UInt8).length +
        (headerBytes (packedHeader header 0) ++ body).length ≤ limit := by
      rwa [length_header_append, List.length_nil, Nat.zero_add]
    have hempty : ([] : List UInt8).length ≤ limit := Nat.zero_le limit
    obtain ⟨next, hreject⟩ := hwrites.of_no_room hempty hroom
    rw [packMessage, hreject, if_neg fun h ↦ hfits h.1]

/-- With room for it, what an encoder writes is packed if its length fits the header. -/
theorem packMessage_of_encodes {encode : Push Unit} {limit : ℕ} {body : List UInt8}
    (h : Encodes limit encode body) (header : P7MessageHeader)
    (hroom : p7HeaderLength + body.length ≤ limit) (hlength : p7HeaderLength + body.length ≤ 0xFFFF) :
    packMessage encode limit header = .ok (some
      (headerBytes (packedHeader header (p7HeaderLength + body.length).toUInt16) ++ body)) := by
  have hheader : pushHeader limit header [] = (.ok (), headerBytes (packedHeader header 0)) :=
    (writes_pushHeader limit header).of_room (by
      rw [List.length_nil, length_headerBytes]
      omega)
  have hbody := h.run (headerBytes (packedHeader header 0)) (by rwa [length_headerBytes])
  have hmessage : pushMessage encode limit header [] =
      (.ok (), headerBytes (packedHeader header 0) ++ body) := by
    unfold pushMessage
    rw [bind_of_ok hheader, hbody]
  rw [packMessage_of_body hmessage, if_neg (by omega)]

/-- With room for it, what an encoder writes is packed only if its length fits the header. -/
theorem packMessage_of_encodes_eq_some {encode : Push Unit} {limit : ℕ} {body packed : List UInt8}
    (h : Encodes limit encode body) {header : P7MessageHeader}
    (hroom : p7HeaderLength + body.length ≤ limit)
    (hpacked : packMessage encode limit header = .ok (some packed)) :
    p7HeaderLength + body.length ≤ 0xFFFF ∧ packed =
      headerBytes (packedHeader header (p7HeaderLength + body.length).toUInt16) ++ body := by
  have hheader : pushHeader limit header [] = (.ok (), headerBytes (packedHeader header 0)) :=
    (writes_pushHeader limit header).of_room (by
      rw [List.length_nil, length_headerBytes]
      omega)
  have hmessage : pushMessage encode limit header [] =
      (.ok (), headerBytes (packedHeader header 0) ++ body) := by
    unfold pushMessage
    rw [bind_of_ok hheader, h.run _ (by rwa [length_headerBytes])]
  rw [packMessage_of_body hmessage] at hpacked
  split_ifs at hpacked with hlong
  · cases hpacked
  · cases hpacked
    exact ⟨by omega, rfl⟩

theorem messagePack_of_writes {encode : Push Unit} {limit : ℕ} {body : List UInt8}
    (h : Writes limit encode body) (hlimit : limit ≤ 0xFFFF) (header : P7MessageHeader) :
    messagePack encode limit header =
      if p7HeaderLength + body.length ≤ limit then
        some (headerBytes (packedHeader header (p7HeaderLength + body.length).toUInt16) ++ body)
      else none := by
  rw [messagePack, packMessage_of_writes h]
  by_cases hfits : p7HeaderLength + body.length ≤ limit
  · rw [if_pos ⟨hfits, Nat.le_trans hfits hlimit⟩, if_pos hfits]
  · rw [if_neg fun h ↦ hfits h.1, if_neg hfits]

theorem messagePack_eq_some_iff {encode : Push Unit} {limit : ℕ} {header : P7MessageHeader}
    {packed : List UInt8} : messagePack encode limit header = some packed ↔
      packMessage encode limit header = .ok (some packed) := by
  unfold messagePack
  cases packMessage encode limit header with
  | ok result => simp
  | error cause => simp

/-- A packed message is what the encoder has written, with the length in its place. -/
theorem packMessage_eq_some {encode : Push Unit} {limit : ℕ} {header : P7MessageHeader}
    {packed : List UInt8} (h : packMessage encode limit header = .ok (some packed)) :
    ∃ written, pushMessage encode limit header [] = (.ok (), written) ∧
      written.length ≤ 0xFFFF ∧ written.length ≤ limit ∧
      packed = written.take 4 ++ bytes16 written.length.toUInt16 ++ written.drop 6 := by
  unfold packMessage at h
  rcases hrun : pushMessage encode limit header [] with ⟨result, written⟩
  rw [hrun] at h
  cases result with
  | ok u =>
    change (if written.length > 0xFFFF ∨ written.length > limit then .ok none
      else .ok (some (written.take 4 ++ bytes16 written.length.toUInt16 ++ written.drop 6))) =
        (.ok (some packed) : Outcome (Option (List UInt8))) at h
    split_ifs at h with hlong
    · cases h
    · cases h
      exact ⟨written, rfl, by omega, by omega, rfl⟩
  | error stop =>
    cases stop with
    | reject => cases h
    | crash cause => cases h

/-- A body that is given as bytes is packed as it is. -/
theorem messagePack_ofBytes {limit : ℕ} {bytes : List UInt8} (hlimit : limit ≤ 0xFFFF)
    (hfits : p7HeaderLength + bytes.length ≤ limit) (header : P7MessageHeader) :
    messagePack (BodyEncoder.ofBytes limit bytes).push limit header =
      some (headerBytes (packedHeader header (p7HeaderLength + bytes.length).toUInt16) ++
        bytes) := by
  have hwrites : Writes limit (BodyEncoder.ofBytes limit bytes).push bytes :=
    writes_pushBytes limit bytes
  rw [messagePack_of_writes hwrites hlimit, if_pos hfits]

/-- Every packed message is a header with the length of the whole, and a body behind it. -/
theorem messagePack_eq_some {encode : BodyEncoder} {limit : ℕ} {header : P7MessageHeader}
    {packed : List UInt8} (h : messagePack encode.push limit header = some packed) :
    ∃ body, packed = headerBytes (packedHeader header packed.length.toUInt16) ++ body ∧
      packed.length ≤ limit ∧ packed.length ≤ 0xFFFF := by
  obtain ⟨written, hwritten, hlong, hlimit, rfl⟩ :=
    packMessage_eq_some (messagePack_eq_some_iff.mp h)
  obtain ⟨u, start, hheader, hbody⟩ := bind_eq_ok.mp hwritten
  obtain ⟨body, rfl⟩ := encode.appends _ _ hbody
  by_cases hroom : ([] : List UInt8).length +
      (headerBytes (packedHeader header 0)).length ≤ limit
  · rw [(writes_pushHeader limit header).of_room hroom, List.nil_append] at hheader
    cases hheader
    rw [length_header_append] at hlong hlimit
    rw [packedHeader_set_length]
    simp only [length_header_append]
    exact ⟨body, rfl, hlimit, hlong⟩
  · have hempty : ([] : List UInt8).length ≤ limit := Nat.zero_le limit
    obtain ⟨next, hreject⟩ := (writes_pushHeader limit header).of_no_room hempty hroom
    rw [hreject] at hheader
    cases hheader

/-- A header is read as it was written. -/
theorem reads_pullHeader (limit : ℕ) (header : P7MessageHeader) :
    Reads limit (pullHeader limit) (headerBytes header) header :=
  (reads_pull16 limit _).bind <| (reads_pull16 limit _).bind <| (reads_pull16 limit _).bind <|
    (reads_pull16 limit _).bind <| (reads_pull32 limit _).bind (reads_pull32 limit _).map

/-- The header of an object that begins with one is unpacked. -/
theorem p7MessageHeaderUnpack_headerBytes (header : P7MessageHeader) (body : List UInt8) :
    p7MessageHeaderUnpack (memoryOf (headerBytes header ++ body))
      (headerBytes header ++ body).length = .ok (some header) := by
  have hlength : (headerBytes header ++ body).length = p7HeaderLength + body.length := by
    rw [List.length_append, length_headerBytes]
  have hholds : Holds (memoryOf (headerBytes header ++ body)) 0 (headerBytes header) :=
    holds_memoryOf [] (headerBytes header) body
  rw [p7MessageHeaderUnpack, if_neg (by omega), Pull.run_eq_some]
  refine ⟨_, reads_pullHeader _ header _ 0 hholds ?_⟩
  rw [length_headerBytes, hlength]
  omega

theorem p7MessageHeaderUnpack_of_holds {header : P7MessageHeader} {mem : Memory} {length : ℕ}
    (hholds : Holds mem 0 (headerBytes header)) (hlength : p7HeaderLength ≤ length) :
    p7MessageHeaderUnpack mem length = .ok (some header) := by
  rw [p7MessageHeaderUnpack, if_neg (Nat.not_lt.mpr hlength), Pull.run_eq_some]
  refine ⟨_, reads_pullHeader _ header _ 0 hholds ?_⟩
  rwa [length_headerBytes, Nat.zero_add]

/-! ### Unpacking what was packed -/

/-- The case of one message id in the switch of `nfapi_p7_message_unpack` or
`nfapi_nr_p7_message_unpack`: messages with another id are not looked at here. -/
def caseOf {α : Type} (id : UInt16) (unpack : ℕ → Pull α) (header : P7MessageHeader) (limit : ℕ) :
    Pull α :=
  if header.messageId = id then unpack limit else Pull.reject

section Unpack

variable {α : Type} {switch : P7MessageHeader → ℕ → Pull α} {header : P7MessageHeader}
  {body : List UInt8}

/-- Behind a header whose length is not too large, the switch over the message id decodes the
body. -/
theorem messageUnpack_headerBytes
    (hlength : header.messageLength.toNat ≤ p7HeaderLength + body.length) :
    messageUnpack switch (memoryOf (headerBytes header ++ body)) (p7HeaderLength + body.length) =
      (switch header (p7HeaderLength + body.length)).run (memoryOf (headerBytes header ++ body))
        p7HeaderLength := by
  have hholds : Holds (memoryOf (headerBytes header ++ body)) 0 (headerBytes header) :=
    holds_memoryOf [] (headerBytes header) body
  have hread := reads_pullHeader (p7HeaderLength + body.length) header _ 0 hholds
    (by rw [length_headerBytes]; omega)
  rw [messageUnpack, if_neg (by omega)]
  unfold Pull.run
  rw [Pull.bind_of_ok hread, Pull.ensure_of_true hlength, length_headerBytes, Nat.zero_add]
  rfl

theorem holds_body (header : P7MessageHeader) (body : List UInt8) :
    Holds (memoryOf (headerBytes header ++ body)) p7HeaderLength body := by
  have h := holds_memoryOf (headerBytes header) body []
  rwa [List.append_nil, length_headerBytes] at h

theorem messageUnpack_of_completes {a : α}
    (hlength : header.messageLength.toNat ≤ p7HeaderLength + body.length)
    (h : Completes (p7HeaderLength + body.length) (switch header (p7HeaderLength + body.length))
      body a) :
    messageUnpack switch (memoryOf (headerBytes header ++ body)) (p7HeaderLength + body.length) =
      .ok (some a) := by
  rw [messageUnpack_headerBytes hlength, Pull.run_eq_some]
  exact ⟨_, h _ _ (holds_body header body) rfl⟩

theorem messageUnpack_of_reads {a : α}
    (hlength : header.messageLength.toNat ≤ p7HeaderLength + body.length)
    (h : Reads (p7HeaderLength + body.length) (switch header (p7HeaderLength + body.length))
      body a) :
    messageUnpack switch (memoryOf (headerBytes header ++ body)) (p7HeaderLength + body.length) =
      .ok (some a) :=
  messageUnpack_of_completes hlength (completes_of_reads h)

/-- A message that is somewhere at the beginning of a buffer is decoded as well. -/
theorem messageUnpack_of_holds {a : α} {mem : Memory} {length : ℕ}
    (hholds : Holds mem 0 (headerBytes header ++ body))
    (hbody : p7HeaderLength + body.length ≤ length)
    (hlength : header.messageLength.toNat ≤ length)
    (h : Reads length (switch header length) body a) :
    messageUnpack switch mem length = .ok (some a) := by
  have hread : Reads length (do
      let header ← pullHeader length
      Pull.ensure (header.messageLength.toNat ≤ length)
      switch header length) (headerBytes header ++ body) a :=
    (reads_pullHeader length header).bind (reads_ensure hlength h)
  rw [messageUnpack, if_neg (by omega), Pull.run_eq_some]
  refine ⟨_, hread mem 0 hholds ?_⟩
  rw [length_header_append]
  omega

theorem messageUnpack_of_stops {cause : Crash}
    (hlength : header.messageLength.toNat ≤ p7HeaderLength + body.length)
    (h : Stops (p7HeaderLength + body.length) (switch header (p7HeaderLength + body.length))
      body (.crash cause)) :
    messageUnpack switch (memoryOf (headerBytes header ++ body)) (p7HeaderLength + body.length) =
      .error cause := by
  rw [messageUnpack_headerBytes hlength, Pull.run,
    h _ _ (holds_body header body) (Nat.le_refl _)]

/-- The length in a packed message is the length of the message. -/
theorem packedHeader_length {length : ℕ} (h : length ≤ 0xFFFF) :
    (packedHeader header length.toUInt16).messageLength.toNat = length := by
  exact UInt16.toNat_ofNat_of_lt (Nat.lt_succ_of_le h)

/-! ### There and back -/

variable {encode : Push Unit} {limit : ℕ} {id : UInt16} {unpack : ℕ → Pull α} {packed : List UInt8}

/-- With an encoder that is known by what it writes, packing comes back. -/
theorem packMessage_of_writes_ok (h : Writes limit encode body) (header : P7MessageHeader) :
    ∃ packed?, packMessage encode limit header = .ok packed? := by
  rw [packMessage_of_writes h]
  split_ifs
  · exact ⟨_, rfl⟩
  · exact ⟨_, rfl⟩

/-- What such an encoder has packed is the body behind a header with the length of the whole. -/
theorem packMessage_of_writes_eq_some (h : Writes limit encode body)
    (hpacked : packMessage encode limit header = .ok (some packed)) :
    p7HeaderLength + body.length ≤ 0xFFFF ∧
      packed =
        headerBytes (packedHeader header (p7HeaderLength + body.length).toUInt16) ++ body := by
  rw [packMessage_of_writes h] at hpacked
  split_ifs at hpacked with hfits
  · cases hpacked
    exact ⟨hfits.2, rfl⟩
  · cases hpacked

/-- A packed message whose body the decoder reads is unpacked. -/
theorem messageUnpack_packed {a : α} (hid : header.messageId = id) (h : Writes limit encode body)
    (hpacked : packMessage encode limit header = .ok (some packed))
    (hreads : ∀ limit, Reads limit (unpack limit) body a) :
    messageUnpack (caseOf id unpack) (memoryOf packed) packed.length = .ok (some a) := by
  obtain ⟨hlength, rfl⟩ := packMessage_of_writes_eq_some h hpacked
  rw [length_header_append]
  have hpackedId : (packedHeader header (p7HeaderLength + body.length).toUInt16).messageId = id :=
    hid
  refine messageUnpack_of_reads (Nat.le_of_eq (packedHeader_length hlength)) ?_
  rw [caseOf, if_pos hpackedId]
  exact hreads _

/-- A packed message at whose body the decoder ends the program. -/
theorem messageUnpack_packed_of_stops {cause : Crash} (hid : header.messageId = id)
    (h : Writes limit encode body)
    (hpacked : packMessage encode limit header = .ok (some packed))
    (hstops : ∀ limit, Stops limit (unpack limit) body (.crash cause)) :
    messageUnpack (caseOf id unpack) (memoryOf packed) packed.length = .error cause := by
  obtain ⟨hlength, rfl⟩ := packMessage_of_writes_eq_some h hpacked
  rw [length_header_append]
  have hpackedId : (packedHeader header (p7HeaderLength + body.length).toUInt16).messageId = id :=
    hid
  refine messageUnpack_of_stops (Nat.le_of_eq (packedHeader_length hlength)) ?_
  rw [caseOf, if_pos hpackedId]
  exact hstops _

/-- What an encoder that is known by what it writes has packed, as the switch over the message id
finds it. -/
theorem messageUnpack_of_writes_of_completes {a : α} (h : Writes limit encode body)
    (hpacked : packMessage encode limit header = .ok (some packed))
    (hcompletes : Completes packed.length
      (switch (packedHeader header packed.length.toUInt16) packed.length) body a) :
    messageUnpack switch (memoryOf packed) packed.length = .ok (some a) := by
  obtain ⟨hlength, rfl⟩ := packMessage_of_writes_eq_some h hpacked
  rw [length_header_append] at hcompletes ⊢
  exact messageUnpack_of_completes (Nat.le_of_eq (packedHeader_length hlength)) hcompletes

theorem messageUnpack_of_writes {a : α} (h : Writes limit encode body)
    (hpacked : packMessage encode limit header = .ok (some packed))
    (hreads : Reads packed.length
      (switch (packedHeader header packed.length.toUInt16) packed.length) body a) :
    messageUnpack switch (memoryOf packed) packed.length = .ok (some a) :=
  messageUnpack_of_writes_of_completes h hpacked (completes_of_reads hreads)

theorem messageUnpack_of_writes_of_stops {cause : Crash} (h : Writes limit encode body)
    (hpacked : packMessage encode limit header = .ok (some packed))
    (hstops : Stops packed.length
      (switch (packedHeader header packed.length.toUInt16) packed.length) body (.crash cause)) :
    messageUnpack switch (memoryOf packed) packed.length = .error cause := by
  obtain ⟨hlength, rfl⟩ := packMessage_of_writes_eq_some h hpacked
  rw [length_header_append] at hstops ⊢
  exact messageUnpack_of_stops (Nat.le_of_eq (packedHeader_length hlength)) hstops

/-- The switch over the message id is applied to what such an encoder has packed behind the
header. -/
theorem messageUnpack_of_writes_run (h : Writes limit encode body)
    (hpacked : packMessage encode limit header = .ok (some packed)) :
    messageUnpack switch (memoryOf packed) packed.length =
      (switch (packedHeader header packed.length.toUInt16) packed.length).run (memoryOf packed)
        p7HeaderLength ∧
      Holds (memoryOf packed) p7HeaderLength body ∧
      p7HeaderLength + body.length = packed.length := by
  obtain ⟨hlength, rfl⟩ := packMessage_of_writes_eq_some h hpacked
  rw [length_header_append]
  exact ⟨messageUnpack_headerBytes (Nat.le_of_eq (packedHeader_length hlength)),
    holds_body _ _, rfl⟩

theorem messageUnpack_of_writes_of_rejects (h : Writes limit encode body)
    (hpacked : packMessage encode limit header = .ok (some packed))
    (hrejects : Stops packed.length
      (switch (packedHeader header packed.length.toUInt16) packed.length) body .reject) :
    messageUnpack switch (memoryOf packed) packed.length = .ok none := by
  obtain ⟨hrun, hholds, hlength⟩ := @messageUnpack_of_writes_run _ switch _ _ _ _ _ h hpacked
  rw [hrun, Pull.run, hrejects _ _ hholds (Nat.le_of_eq hlength)]

theorem messageUnpack_of_writes_of_overruns (h : Writes limit encode body)
    (hpacked : packMessage encode limit header = .ok (some packed))
    (hoverruns : Overruns packed.length
      (switch (packedHeader header packed.length.toUInt16) packed.length) body) :
    messageUnpack switch (memoryOf packed) packed.length = .error .fault := by
  obtain ⟨hrun, hholds, hlength⟩ := @messageUnpack_of_writes_run _ switch _ _ _ _ _ h hpacked
  rw [hrun, Pull.run, hoverruns _ _ hholds hlength rfl]

/-- A message is not packed when its encoder fails. -/
theorem packMessage_of_fails (h : Fails encode) :
    packMessage encode limit header ≠ .ok (some packed) := by
  intro hpacked
  obtain ⟨written, hwritten, -⟩ := packMessage_eq_some hpacked
  obtain ⟨_, mid, -, hencode⟩ := bind_eq_ok.mp hwritten
  exact h mid () written hencode

/-- An encoder that only appends could as well have started behind the header with the length in
it. -/
theorem packMessage_appends [hencode : Appends encode]
    (hpacked : packMessage encode limit header = .ok (some packed)) :
    packed.length ≤ limit ∧ packed.length ≤ 0xFFFF ∧
      encode (headerBytes (packedHeader header packed.length.toUInt16)) = (.ok (), packed) := by
  obtain ⟨written, hwritten, hlong, hlimit, rfl⟩ := packMessage_eq_some hpacked
  obtain ⟨u, start, hheader, hbody⟩ := bind_eq_ok.mp hwritten
  by_cases hroom : ([] : List UInt8).length +
      (headerBytes (packedHeader header 0)).length ≤ limit
  · rw [(writes_pushHeader limit header).of_room hroom, List.nil_append] at hheader
    cases hheader
    obtain ⟨result, more, hrun, hother⟩ := hencode.run (headerBytes (packedHeader header 0))
    rw [hrun] at hbody
    cases hbody
    rw [packedHeader_set_length]
    simp only [length_header_append] at hlong hlimit ⊢
    exact ⟨hlimit, hlong, hother _ rfl⟩
  · have hempty : ([] : List UInt8).length ≤ limit := Nat.zero_le limit
    obtain ⟨next, hreject⟩ := (writes_pushHeader limit header).of_no_room hempty hroom
    rw [hreject] at hheader
    cases hheader

/-- Behind the header of a packed message, the switch over the message id decodes the body. -/
theorem messageUnpack_packed_run [Appends encode]
    (hpacked : packMessage encode limit header = .ok (some packed)) :
    messageUnpack switch (memoryOf packed) packed.length =
      (switch (packedHeader header packed.length.toUInt16) packed.length).run (memoryOf packed)
        p7HeaderLength := by
  obtain ⟨-, hlong, hencode⟩ := packMessage_appends hpacked
  have hprefix := prefix_run encode (headerBytes (packedHeader header packed.length.toUInt16))
  rw [hencode] at hprefix
  obtain ⟨body, hbody⟩ := hprefix
  have hlength : packed.length = p7HeaderLength + body.length := by
    rw [← length_header_append (packedHeader header packed.length.toUInt16) body, hbody]
  have hheader : (packedHeader header packed.length.toUInt16).messageLength.toNat ≤
      p7HeaderLength + body.length := by
    rw [packedHeader_length hlong]
    exact Nat.le_of_eq hlength
  have hunpack := @messageUnpack_headerBytes _ switch _ _ hheader
  rwa [hbody, ← hlength] at hunpack

/-- A packed message is unpacked if all of it was written, and rejected if something was cut
off. -/
theorem messageUnpack_of_mirrors {a : α}
    (hpacked : packMessage encode limit header = .ok (some packed))
    (hmirrors : Mirrors limit packed.length encode
      (switch (packedHeader header packed.length.toUInt16) packed.length) body a) :
    messageUnpack switch (memoryOf packed) packed.length =
      if p7HeaderLength + body.length ≤ limit then .ok (some a) else .ok none := by
  have := hmirrors.appends
  obtain ⟨hlimit, -, hencode⟩ := packMessage_appends hpacked
  rw [messageUnpack_packed_run hpacked]
  generalize hout : headerBytes (packedHeader header packed.length.toUInt16) = out at hencode
  have hlength : out.length = p7HeaderLength := hout ▸ length_headerBytes _
  rw [← hlength]
  split_ifs with hroom
  · have hrun := hmirrors.encodes.run _ hroom
    rw [hencode] at hrun
    have hwritten : packed = out ++ body := (Prod.mk.inj hrun).2
    have hprefix : out ++ body <+: packed := by
      rewrite [← hwritten]
      exact List.prefix_refl packed
    have hholds : Holds (memoryOf packed) out.length body := holds_of_written hprefix
    have hend : out.length + body.length ≤ packed.length := by
      rw [← List.length_append]
      exact hprefix.length_le
    rw [Pull.run_eq_some]
    exact ⟨_, hmirrors.reads _ _ hholds hend⟩
  · have hleft : (encode out).2 <+: packed := by
      rewrite [hencode]
      exact List.prefix_refl packed
    rw [Pull.run, hmirrors.cut _ packed (Nat.lt_of_not_le hroom) hleft rfl hlimit]

/-- The value at which the decoder arrives that passes over what the encoder has passed over. -/
theorem messageUnpack_of_echoes {a : α} {next : List UInt8} [Appends encode]
    (hpacked : packMessage encode limit header = .ok (some packed))
    (hechoes : Echoes limit packed.length
      (headerBytes (packedHeader header packed.length.toUInt16)) encode
      (switch (packedHeader header packed.length.toUInt16) packed.length) next a) :
    messageUnpack switch (memoryOf packed) packed.length = .ok (some a) := by
  obtain ⟨hlimit, -, hencode⟩ := packMessage_appends hpacked
  have hnext := hechoes.run
  rw [hencode] at hnext
  obtain rfl : packed = next := (Prod.mk.inj hnext).2
  rw [messageUnpack_packed_run hpacked, Pull.run_eq_some]
  exact ⟨_, hechoes.follows packed (List.prefix_refl packed) rfl hlimit⟩

/-- An encoder that ends the program, given enough room, does so behind a header. -/
theorem packMessage_of_breaks {encode : ℕ → Push Unit} {room : ℕ} {cause : Crash}
    (h : Breaks encode room cause) (header : P7MessageHeader) :
    packMessage (encode (p7HeaderLength + room)) (p7HeaderLength + room) header =
      .error cause := by
  have hheader : ∀ limit, Encodes limit (pushHeader limit header)
      (headerBytes (packedHeader header 0)) := fun limit ↦ ⟨fun _ ↦ (writes_pushHeader _ _).of_room⟩
  have hbreaks : Breaks (fun limit ↦ pushMessage (encode limit) limit header)
      (p7HeaderLength + room) cause := Breaks.after hheader h
  obtain ⟨next, hrun⟩ := hbreaks (p7HeaderLength + room) [] (Nat.le_of_eq (Nat.zero_add _))
  have hrun' : pushMessage (encode (p7HeaderLength + room)) (p7HeaderLength + room) header [] =
    (.error (.crash cause), next) := hrun
  unfold packMessage
  rw [hrun']

end Unpack

end MultiUeProxy.P7.Pack
