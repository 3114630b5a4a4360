import MultiUeProxy.P7.Header
import Mathlib.Data.Int.Notation

/-!
# Uplink messages and the peeks at their headers

A datagram from a UE is kept in a `message_buffer_t`: a magic number, the number of valid bytes
and an array of `NFAPI_RX_IND_DATA_MAX` bytes. The bytes behind the valid ones are whatever the
allocation left there, so the data of a message is a function that is defined on the whole array.

The module has the reads of `nfapi_pnf.c` and `nfapiutils.c` at fixed places of a message:
`getMessageId`, `getSfnsf` and `getSfnslot`, the differences of two packed times, and
`nfapiGetSfnsf` and `nfapiGetSfnslot`, which the receive path uses for its trace. `getSfnsf_eq` and
`getSfnslot_eq` say what the peeks return on a message whose length fits its array.
-/

set_option autoImplicit false
set_option relaxedAutoImplicit false

namespace MultiUeProxy.Uplink.Message

open Lib.Execution Lib.ByteCursor P7.Header

/-! ### Constants -/

/-- `MESSAGE_BUFFER_MAGIC`. -/
def messageBufferMagic : UInt32 := 0x45504953

/-- The message ids that `get_sfnsf` knows. -/
def sfnsfIds : List UInt16 :=
  [rachIndication, crcIndication, rxUlschIndication, rxCqiIndication, harqIndication,
    rxSrIndication]

/-- The message ids that `get_sfnslot` knows. -/
def sfnslotIds : List UInt16 :=
  [nrRachIndication, nrCrcIndication, nrRxDataIndication, nrUciIndication, nrSrsIndication]

/-! ### The message buffer -/

/-- `message_buffer_t`. -/
structure MessageBuffer where
  magic : UInt32
  length : ℕ
  data : ℕ → UInt8

/-- The array of a message, as an object that a decoder reads. -/
def MessageBuffer.memory (msg : MessageBuffer) : Memory := ⟨msg.data, rxIndDataMax⟩

/-- There is room for the header and the time. -/
theorem MessageBuffer.memory_room (msg : MessageBuffer) : p7HeaderLength + 4 ≤ msg.memory.size :=
  (by decide : p7HeaderLength + 4 ≤ rxIndDataMax)

/-- What the receive path guarantees of a message in a queue. -/
structure MessageBuffer.Live (msg : MessageBuffer) : Prop where
  magic_eq : msg.magic = messageBufferMagic
  length_le : msg.length ≤ rxIndDataMax

/-- The buffer that a datagram is copied to, with what `malloc` left behind the copy. -/
def MessageBuffer.ofBytes (garbage : ℕ → UInt8) (bytes : List UInt8) : MessageBuffer :=
  ⟨messageBufferMagic, bytes.length, fun pos ↦ bytes.getD pos (garbage pos)⟩

theorem MessageBuffer.ofBytes_live {garbage : ℕ → UInt8} {bytes : List UInt8}
    (h : bytes.length ≤ rxIndDataMax) : (ofBytes garbage bytes).Live :=
  ⟨rfl, h⟩

/-- The message id in the header. -/
def MessageBuffer.headerId (msg : MessageBuffer) : UInt16 := Pull.word16 msg.memory 2

/-! ### The peeks -/

/-- The first two fields of the header, up to the message id. -/
def readMessageId (limit : ℕ) : Pull UInt16 := do
  let _phyId ← Pull.pull16 limit
  Pull.pull16 limit

/-- `get_message_id`. A message without room for the id has the id `0xFFFF`. -/
def getMessageId (msg : MessageBuffer) : Outcome UInt16 := do
  assert (msg.length ≤ rxIndDataMax)
  return (← (readMessageId msg.length).run msg.memory 0).getD 0xFFFF

/-- The common part of the peeks: the header's message id has to be a known one, then the time is
read behind the header. -/
def readTime (ids : List UInt16) (time : ℕ → Pull UInt16) (limit : ℕ) : Pull UInt16 := do
  let _phyId ← Pull.pull16 limit
  let messageId ← Pull.pull16 limit
  Pull.ensure (messageId ∈ ids)
  Pull.seek p7HeaderLength
  time limit

/-- `NFAPI_SFNSLOT2HEX`, cut to 16 bits. -/
def sfnslot2hex (sfn slot : UInt16) : UInt16 := (sfn <<< 6) ||| (slot &&& 0x3F)

/-- The packed time of an NR message. -/
def readSfnslot (limit : ℕ) : Pull UInt16 := do
  let sfn ← Pull.pull16 limit
  let slot ← Pull.pull16 limit
  return sfnslot2hex sfn slot

/-- `get_sfnsf`. -/
def getSfnsf (msg : MessageBuffer) : Outcome (Option UInt16) := do
  assert (msg.length ≤ rxIndDataMax)
  (readTime sfnsfIds Pull.pull16 msg.length).run msg.memory 0

/-- `get_sfnslot`. -/
def getSfnslot (msg : MessageBuffer) : Outcome (Option UInt16) := do
  assert (msg.length ≤ rxIndDataMax)
  (readTime sfnslotIds readSfnslot msg.length).run msg.memory 0

/-- `nfapi_get_sfnsf`, which also accepts the message id `0`. -/
def nfapiGetSfnsf (msg : Memory) (length : ℕ) : Outcome UInt16 := do
  return (← (readTime (sfnsfIds ++ [0]) Pull.pull16 length).run msg 0).getD 0xFFFF

/-- `nfapi_get_sfnslot`, which also accepts the message id `0`. -/
def nfapiGetSfnslot (msg : Memory) (length : ℕ) : Outcome UInt16 := do
  return (← (readTime (sfnslotIds ++ [0]) readSfnslot length).run msg 0).getD 0xFFFF

/-- `get_sf_delta`. -/
def getSfDelta (a b : UInt16) : ℤ :=
  ((a >>> 4).toNat * 10 + (a &&& 15).toNat : ℤ) - ((b >>> 4).toNat * 10 + (b &&& 15).toNat : ℤ)

/-- `get_slot_delta`. -/
def getSlotDelta (a b : UInt16) : ℤ :=
  ((a >>> 6).toNat * 20 + (a &&& 0x3F).toNat : ℤ) -
    ((b >>> 6).toNat * 20 + (b &&& 0x3F).toNat : ℤ)

/-! ### What the peeks return -/

/-- The time that `get_sfnsf` reads off a message, if any. -/
def sfnsf? (msg : MessageBuffer) : Option UInt16 :=
  if p7HeaderLength + 2 ≤ msg.length ∧ msg.headerId ∈ sfnsfIds then
    some (Pull.word16 msg.memory p7HeaderLength)
  else none

/-- The time that `get_sfnslot` reads off a message, if any. -/
def sfnslot? (msg : MessageBuffer) : Option UInt16 :=
  if p7HeaderLength + 4 ≤ msg.length ∧ msg.headerId ∈ sfnslotIds then
    some (sfnslot2hex (Pull.word16 msg.memory p7HeaderLength)
      (Pull.word16 msg.memory (p7HeaderLength + 2)))
  else none

/-- The common part of the peeks on a message with room for the header's message id. -/
theorem readTime_of_room {ids : List UInt16} {time : ℕ → Pull UInt16} {limit : ℕ} {mem : Memory}
    (hlimit : 4 ≤ limit) (hsize : 4 ≤ mem.size) :
    readTime ids time limit mem 0 =
      if Pull.word16 mem 2 ∈ ids then time limit mem p7HeaderLength else .error .reject := by
  unfold readTime
  rw [Pull.bind_of_ok (Pull.pull16_of_room (by omega) (by omega)),
    Pull.bind_of_ok (Pull.pull16_of_room (by omega) (by omega))]
  by_cases hid : Pull.word16 mem 2 ∈ ids
  · rw [if_pos hid, Pull.ensure_of_true hid, Pull.bind_of_ok (Pull.pure_apply ..),
      Pull.bind_of_ok (Pull.seek_apply ..)]
  · rw [if_neg hid, Pull.ensure_of_false hid, Pull.bind_of_error rfl]

/-- Without that room the peeks reject. -/
theorem readTime_of_no_room {ids : List UInt16} {time : ℕ → Pull UInt16} {limit : ℕ}
    {mem : Memory} (hlimit : limit < 4) (hsize : 4 ≤ mem.size) :
    readTime ids time limit mem 0 = .error .reject := by
  rw [readTime]
  by_cases hphy : 0 + 2 ≤ limit
  · rw [Pull.bind_of_ok (Pull.pull16_of_room hphy (by omega)),
      Pull.bind_of_error (Pull.pull16_of_no_room (by omega))]
  · rw [Pull.bind_of_error (Pull.pull16_of_no_room hphy)]

theorem getSfnsf_eq {msg : MessageBuffer} (h : msg.length ≤ rxIndDataMax) :
    getSfnsf msg = .ok (sfnsf? msg) := by
  have hsize : msg.memory.size = 8192 := rfl
  have hlength : msg.length ≤ 8192 := h
  unfold getSfnsf
  rw [assert_of_true h, ok_bind, Pull.run, sfnsf?]
  by_cases hid : 4 ≤ msg.length
  · rw [readTime_of_room hid (by omega)]
    by_cases hknown : Pull.word16 msg.memory 2 ∈ sfnsfIds
    · rw [if_pos hknown]
      by_cases htime : p7HeaderLength + 2 ≤ msg.length
      · rw [Pull.pull16_of_room htime (by simp only [p7HeaderLength] at htime ⊢; omega),
          if_pos ⟨htime, hknown⟩]
      · rw [Pull.pull16_of_no_room htime, if_neg fun h ↦ htime h.1]
    · rw [if_neg hknown, if_neg fun h ↦ hknown h.2]
  · rw [readTime_of_no_room (by omega) (by omega),
      if_neg fun h ↦ hid (by have := h.1; simp only [p7HeaderLength] at this; omega)]

/-- Behind the header, the time of an NR message takes four bytes. -/
theorem readSfnslot_of_room {limit : ℕ} {mem : Memory} {pos : ℕ} (hlimit : pos + 4 ≤ limit)
    (hsize : pos + 4 ≤ mem.size) :
    readSfnslot limit mem pos =
      .ok (sfnslot2hex (Pull.word16 mem pos) (Pull.word16 mem (pos + 2)), pos + 4) := by
  unfold readSfnslot
  rw [Pull.bind_of_ok (Pull.pull16_of_room (by omega) (by omega)),
    Pull.bind_of_ok (Pull.pull16_of_room (by omega) (by omega)), Pull.pure_apply]

theorem readSfnslot_of_no_room {limit : ℕ} {mem : Memory} {pos : ℕ} (hlimit : ¬ pos + 4 ≤ limit)
    (hsize : pos + 4 ≤ mem.size) : readSfnslot limit mem pos = .error .reject := by
  rw [readSfnslot]
  by_cases hsfn : pos + 2 ≤ limit
  · rw [Pull.bind_of_ok (Pull.pull16_of_room hsfn (by omega)),
      Pull.bind_of_error (Pull.pull16_of_no_room (by omega))]
  · rw [Pull.bind_of_error (Pull.pull16_of_no_room hsfn)]

theorem getSfnslot_eq {msg : MessageBuffer} (h : msg.length ≤ rxIndDataMax) :
    getSfnslot msg = .ok (sfnslot? msg) := by
  have hsize : msg.memory.size = 8192 := rfl
  have hlength : msg.length ≤ 8192 := h
  unfold getSfnslot
  rw [assert_of_true h, ok_bind, Pull.run, sfnslot?]
  by_cases hid : 4 ≤ msg.length
  · rw [readTime_of_room hid (by omega)]
    by_cases hknown : Pull.word16 msg.memory 2 ∈ sfnslotIds
    · rw [if_pos hknown]
      by_cases htime : p7HeaderLength + 4 ≤ msg.length
      · rw [readSfnslot_of_room htime (by simp only [p7HeaderLength] at htime ⊢; omega),
          if_pos ⟨htime, hknown⟩]
      · rw [readSfnslot_of_no_room htime (by simp only [p7HeaderLength]; omega),
          if_neg fun h ↦ htime h.1]
    · rw [if_neg hknown, if_neg fun h ↦ hknown h.2]
  · rw [readTime_of_no_room (by omega) (by omega),
      if_neg fun h ↦ hid (by have := h.1; simp only [p7HeaderLength] at this; omega)]

/-- The reads for the traces return, whatever the bytes are. -/
theorem nfapiGetSfnsf_returns {mem : Memory} (length : ℕ)
    (hsize : p7HeaderLength + 4 ≤ mem.size) : ∃ time, nfapiGetSfnsf mem length = .ok time := by
  simp only [p7HeaderLength] at hsize
  suffices hrun : ∃ time,
      (readTime (sfnsfIds ++ [0]) Pull.pull16 length).run mem 0 = .ok time by
    obtain ⟨time, htime⟩ := hrun
    exact ⟨_, by rw [nfapiGetSfnsf, htime, ok_bind]; rfl⟩
  rw [Pull.run]
  by_cases hid : 4 ≤ length
  · rw [readTime_of_room hid (by omega)]
    split_ifs
    · by_cases htime : p7HeaderLength + 2 ≤ length
      · exact ⟨_, by rw [Pull.pull16_of_room htime (by simp only [p7HeaderLength]; omega)]⟩
      · exact ⟨none, by rw [Pull.pull16_of_no_room htime]⟩
    · exact ⟨none, rfl⟩
  · exact ⟨none, by rw [readTime_of_no_room (by omega) (by omega)]⟩

theorem nfapiGetSfnslot_returns {mem : Memory} (length : ℕ)
    (hsize : p7HeaderLength + 4 ≤ mem.size) : ∃ time, nfapiGetSfnslot mem length = .ok time := by
  simp only [p7HeaderLength] at hsize
  suffices hrun : ∃ time,
      (readTime (sfnslotIds ++ [0]) readSfnslot length).run mem 0 = .ok time by
    obtain ⟨time, htime⟩ := hrun
    exact ⟨_, by rw [nfapiGetSfnslot, htime, ok_bind]; rfl⟩
  rw [Pull.run]
  by_cases hid : 4 ≤ length
  · rw [readTime_of_room hid (by omega)]
    split_ifs
    · by_cases htime : p7HeaderLength + 4 ≤ length
      · exact ⟨_, by rw [readSfnslot_of_room htime (by simp only [p7HeaderLength]; omega)]⟩
      · exact ⟨none, by
          rw [readSfnslot_of_no_room htime (by simp only [p7HeaderLength]; omega)]⟩
    · exact ⟨none, rfl⟩
  · exact ⟨none, by rw [readTime_of_no_room (by omega) (by omega)]⟩

/-- The id of a message with room for it is the one in its header. -/
theorem getMessageId_of_room {msg : MessageBuffer} (h : msg.length ≤ rxIndDataMax)
    (hid : 4 ≤ msg.length) : getMessageId msg = .ok msg.headerId := by
  have hsize : msg.memory.size = 8192 := rfl
  have hlength : msg.length ≤ 8192 := h
  unfold getMessageId
  rw [assert_of_true h, ok_bind, Pull.run, readMessageId,
    Pull.bind_of_ok (Pull.pull16_of_room (by omega) (by omega)),
    Pull.pull16_of_room (by omega) (by omega)]
  rfl

end MultiUeProxy.Uplink.Message
