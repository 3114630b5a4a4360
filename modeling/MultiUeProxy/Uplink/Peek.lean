import MultiUeProxy.P7.Unpack
import MultiUeProxy.Uplink.Batch

/-!
# Peeked and decoded times

Messages are queued and delivered by the time that `get_sfnsf` or `get_sfnslot` reads at a fixed
place, and aggregated by what the decoder makes of them. `peek_agrees_with_unpack` compares the two
readings. In LTE they are the same word. In NR, the peek packs the SFN and the slot into sixteen
bits, ten for the SFN and six for the slot, so that it knows them modulo 1024 and 64.
-/

set_option autoImplicit false
set_option relaxedAutoImplicit false

namespace MultiUeProxy.Uplink.Peek

open Lib.Execution Lib.ByteCursor Lib.TimedBatch P7.Header P7.NrUplink P7.Unpack Message Dequeue
open Batch

/-! ### LTE -/

theorem messageId_mem_sfnsfIds (ind : LteIndication) : ind.messageId ∈ sfnsfIds := by
  cases ind <;> simp [LteIndication.messageId, sfnsfIds]

/-- The peek at a message that decodes is its decoded time. -/
theorem sfnsf?_of_unpack {msg : MessageBuffer} {ind : LteIndication}
    (h : nfapiP7MessageUnpack msg.memory msg.length = .ok (some ind)) :
    sfnsf? msg = some ind.sfnSf := by
  obtain ⟨hroom, hid, htime, -⟩ := nfapiP7MessageUnpack_eq_some h
  have hknown : msg.headerId ∈ sfnsfIds := by
    unfold MessageBuffer.headerId
    rw [← hid]
    exact messageId_mem_sfnsfIds ind
  unfold sfnsf?
  rw [if_pos ⟨hroom, hknown⟩, htime]

/-! ### NR -/

theorem messageId_mem_sfnslotIds (ind : NrIndication) : ind.messageId ∈ sfnslotIds := by
  cases ind <;> simp [NrIndication.messageId, sfnslotIds]

/-- The peek at a message that decodes is its decoded time, packed. -/
theorem sfnslot?_of_unpack {msg : MessageBuffer} {ind : NrIndication}
    (h : nfapiNrP7MessageUnpack msg.memory msg.length = .ok (some ind))
    (hroom : ind.messageId = nrRachIndication → p7HeaderLength + 4 ≤ msg.length) :
    sfnslot? msg = some (sfnslot2hex ind.time.sfn ind.time.slot) := by
  obtain ⟨hid, -, hother, htime⟩ := nfapiNrP7MessageUnpack_eq_some h
  have hlength : p7HeaderLength + 4 ≤ msg.length := by
    by_cases hrach : ind.messageId = nrRachIndication
    · exact hroom hrach
    · exact hother hrach
  have hknown : msg.headerId ∈ sfnslotIds := by
    unfold MessageBuffer.headerId
    rw [← hid]
    exact messageId_mem_sfnslotIds ind
  unfold sfnslot?
  rw [if_pos ⟨hlength, hknown⟩, htime hlength]

/-- A message with a readable time has room for it. -/
theorem room_of_sfnslot? {msg : MessageBuffer} {time : UInt16} (h : sfnslot? msg = some time) :
    p7HeaderLength + 4 ≤ msg.length := by
  rw [sfnslot?] at h
  split_ifs at h with hroom
  exact hroom.1

/-- The packed time is the number `64 * sfn + slot`, of the SFN modulo 1024 and the slot modulo
64. -/
theorem sfnslot2hex_toNat (sfn slot : UInt16) :
    (sfnslot2hex sfn slot).toNat = 64 * (sfn.toNat % 1024) + slot.toNat % 64 := by
  have hsfn : (sfn <<< 6).toNat = (sfn.toNat % 1024) <<< 6 := by
    have hword : (sfn <<< 6).toNat = sfn.toNat <<< 6 % 65536 := UInt16.toNat_shiftLeft ..
    rw [hword, Nat.shiftLeft_eq, Nat.shiftLeft_eq]
    omega
  have hslot : (slot &&& 0x3F).toNat = slot.toNat % 64 := by
    rw [UInt16.toNat_and]
    exact Nat.and_two_pow_sub_one_eq_mod slot.toNat 6
  unfold sfnslot2hex
  rw [UInt16.toNat_or, hsfn, hslot,
    ← Nat.shiftLeft_add_eq_or_of_lt (Nat.mod_lt _ (by decide)), Nat.shiftLeft_eq]
  omega

/-- Packed times are the same exactly when the SFN agrees modulo 1024 and the slot modulo 64. -/
theorem sfnslot2hex_inj {sfn slot sfn' slot' : UInt16} :
    sfnslot2hex sfn slot = sfnslot2hex sfn' slot' ↔
      sfn.toNat % 1024 = sfn'.toNat % 1024 ∧ slot.toNat % 64 = slot'.toNat % 64 := by
  rw [← UInt16.toNat_inj, sfnslot2hex_toNat, sfnslot2hex_toNat]
  omega

/-! ### Delivered messages -/

section Delivered

variable {radio : Radio} {tx : UInt16} {xss : List (List MessageBuffer)} {r : Dequeued}

/-- Apart from `0xFFFF`, the delivered messages have at most one time. -/
theorem delivered_times (hrefines : r.Refines true (radio.scans tx xss)) :
    ∃ t, ∀ msg ∈ r.delivered.flatten,
      radio.time msg = some 0xFFFF ∨ radio.time msg = some t := by
  rw [hrefines.delivered_eq]
  exact Clock.batch_times (radio.clock tx) maxSubframeMsgs xss

/-- Two delivered messages whose times are both `0xFFFF` or both not have the same time. -/
theorem time_eq_of_delivered (hrefines : r.Refines true (radio.scans tx xss))
    {msg msg' : MessageBuffer} {time time' : UInt16} (hmsg : msg ∈ r.delivered.flatten)
    (hmsg' : msg' ∈ r.delivered.flatten) (htime : radio.time msg = some time)
    (htime' : radio.time msg' = some time') (hunset : time = 0xFFFF ↔ time' = 0xFFFF) :
    time = time' := by
  obtain ⟨t, hall⟩ := delivered_times hrefines
  have hone := hall msg hmsg
  have htwo := hall msg' hmsg'
  rw [htime, Option.some_inj, Option.some_inj] at hone
  rw [htime', Option.some_inj, Option.some_inj] at htwo
  rcases hone with hone | hone
  · rw [hone, hunset.mp hone]
  · rcases htwo with htwo | htwo
    · rw [htwo, hunset.mpr htwo]
    · rw [hone, htwo]

/-- A delivered NR message that decodes was peeked at its decoded time. -/
theorem sfnslot?_of_delivered (hrefines : r.Refines true (Radio.nr.scans tx xss))
    {msg : MessageBuffer} {ind : NrIndication} (hmsg : msg ∈ r.delivered.flatten)
    (hind : nfapiNrP7MessageUnpack msg.memory msg.length = .ok (some ind)) :
    Radio.nr.time msg = some (sfnslot2hex ind.time.sfn ind.time.slot) := by
  obtain ⟨t, hall⟩ := delivered_times hrefines
  refine sfnslot?_of_unpack hind fun _ ↦ ?_
  rcases hall msg hmsg with htime | htime
  · exact room_of_sfnslot? htime
  · exact room_of_sfnslot? htime

end Delivered

/-- The peek agrees with the decoder. An accepted LTE message has the decoded SFN and subframe as
its peeked time. An accepted NR message, if a RACH indication has room for its time, has the decoded
SFN and slot packed as its peeked time, and packed times differ exactly when the times differ modulo
1024 and 64. Hence any two messages of one call that decode have the same time, in NR modulo 1024
and 64, unless just one of them has the time `0xFFFF`. -/
theorem peek_agrees_with_unpack :
    (∀ (msg : MessageBuffer) (ind : LteIndication), msg.length ≤ rxIndDataMax →
      nfapiP7MessageUnpack msg.memory msg.length = .ok (some ind) →
        getSfnsf msg = .ok (some ind.sfnSf)) ∧
    (∀ (msg : MessageBuffer) (ind : NrIndication), msg.length ≤ rxIndDataMax →
      nfapiNrP7MessageUnpack msg.memory msg.length = .ok (some ind) →
      (ind.messageId = nrRachIndication → p7HeaderLength + 4 ≤ msg.length) →
        getSfnslot msg = .ok (some (sfnslot2hex ind.time.sfn ind.time.slot))) ∧
    (∀ time time' : NrFrame,
      sfnslot2hex time.sfn time.slot = sfnslot2hex time'.sfn time'.slot ↔
        time.sfn.toNat % 1024 = time'.sfn.toNat % 1024 ∧
        time.slot.toNat % 64 = time'.slot.toNat % 64) ∧
    (∀ (tx : UInt16) (xss : List (List MessageBuffer)) (family : UeQueues xss),
      ∃ r, dequeueUeMsgs tx family.queues = .ok r ∧
        ∀ msg ∈ r.delivered.flatten, ∀ msg' ∈ r.delivered.flatten, ∀ ind ind',
          nfapiP7MessageUnpack msg.memory msg.length = .ok (some ind) →
          nfapiP7MessageUnpack msg'.memory msg'.length = .ok (some ind') →
          (ind.sfnSf = 0xFFFF ↔ ind'.sfnSf = 0xFFFF) → ind.sfnSf = ind'.sfnSf) ∧
    (∀ (tx : UInt16) (xss : List (List MessageBuffer)) (family : UeQueues xss),
      ∃ r, dequeueUeSlotMsgs tx family.queues = .ok r ∧
        ∀ msg ∈ r.delivered.flatten, ∀ msg' ∈ r.delivered.flatten, ∀ ind ind',
          nfapiNrP7MessageUnpack msg.memory msg.length = .ok (some ind) →
          nfapiNrP7MessageUnpack msg'.memory msg'.length = .ok (some ind') →
          (sfnslot2hex ind.time.sfn ind.time.slot = 0xFFFF ↔
            sfnslot2hex ind'.time.sfn ind'.time.slot = 0xFFFF) →
          ind.time.sfn.toNat % 1024 = ind'.time.sfn.toNat % 1024 ∧
          ind.time.slot.toNat % 64 = ind'.time.slot.toNat % 64) := by
  refine ⟨fun msg ind hlength hind ↦ ?_, fun msg ind hlength hind hroom ↦ ?_,
    fun _ _ ↦ sfnslot2hex_inj, fun tx xss family ↦ ?_, fun tx xss family ↦ ?_⟩
  · rw [getSfnsf_eq hlength, sfnsf?_of_unpack hind]
  · rw [getSfnslot_eq hlength, sfnslot?_of_unpack hind hroom]
  · obtain ⟨r, hcall, hrefines⟩ := dequeueMsgs_refines .lte tx family
    exact ⟨r, hcall, fun msg hmsg msg' hmsg' ind ind' hind hind' hunset ↦
      time_eq_of_delivered hrefines hmsg hmsg' (sfnsf?_of_unpack hind) (sfnsf?_of_unpack hind')
        hunset⟩
  · obtain ⟨r, hcall, hrefines⟩ := dequeueMsgs_refines .nr tx family
    refine ⟨r, hcall, fun msg hmsg msg' hmsg' ind ind' hind hind' hunset ↦ ?_⟩
    exact sfnslot2hex_inj.mp (time_eq_of_delivered hrefines hmsg hmsg'
      (sfnslot?_of_delivered hrefines hmsg hind) (sfnslot?_of_delivered hrefines hmsg' hind')
      hunset)

/-- An NR CRC indication without PDUs. -/
def nrCrcAt (sfn slot : UInt16) : MessageBuffer :=
  .ofBytes (fun _ ↦ 0) ([0, 0, 0, 0x86, 0, 0, 0, 0, 0, 0, 0, 0, 0, 0, 0, 0,
    (sfn >>> 8).toUInt8, sfn.toUInt8, (slot >>> 8).toUInt8, slot.toUInt8, 0, 0])

/-- What that message decodes to. -/
def nrCrcDecoded (sfn slot : UInt16) : NrIndication :=
  .crc { header := { messageId := nrCrcIndication }, frame := ⟨sfn, slot⟩, number := 0,
         pduList := [] }

/-- The SFNs 0 and 1024 are decoded as different times, but peeked as the same. -/
theorem sfn_aliases_in_peek :
    nfapiNrP7MessageUnpack (nrCrcAt 0 0).memory (nrCrcAt 0 0).length =
      .ok (some (nrCrcDecoded 0 0)) ∧
    nfapiNrP7MessageUnpack (nrCrcAt 1024 0).memory (nrCrcAt 1024 0).length =
      .ok (some (nrCrcDecoded 1024 0)) ∧
    (nrCrcDecoded 0 0).time ≠ (nrCrcDecoded 1024 0).time ∧
    getSfnslot (nrCrcAt 0 0) = getSfnslot (nrCrcAt 1024 0) := by
  have hpeek : sfnslot? (nrCrcAt 0 0) = sfnslot? (nrCrcAt 1024 0) := by decide
  refine ⟨rfl, rfl, by decide, ?_⟩
  rw [getSfnslot_eq (by decide), getSfnslot_eq (by decide), hpeek]

end MultiUeProxy.Uplink.Peek
