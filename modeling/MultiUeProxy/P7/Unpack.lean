import MultiUeProxy.P7.LteUplink
import MultiUeProxy.P7.NrUplink

/-!
# Unpacking uplink indications

The cases of `nfapi_p7_message_unpack` and `nfapi_nr_p7_message_unpack` for the uplink indications
that the proxy aggregates. The C functions fill the structure they are given; here, an accepted
message is a value of a type that has a constructor for each kind of indication. A message with any
other id is not an indication of these kinds, and it is rejected.

`nfapiP7MessageUnpack_eq_some` and `nfapiNrP7MessageUnpack_eq_some` say what is known of an
accepted message: its id, where its time was read, and how long its list of PDUs is.
-/

set_option autoImplicit false
set_option relaxedAutoImplicit false

namespace MultiUeProxy.P7.Unpack

open Lib.Execution Lib.ByteCursor Lib.ByteCursor.Pull Header LteUplink NrUplink

/-! ### LTE -/

/-- An LTE uplink indication. -/
inductive LteIndication where
  | rach (ind : Indication LteFrame PreamblePdu)
  | crc (ind : Indication LteFrame CrcIndicationPdu)
  | rxUlsch (ind : Indication LteFrame RxIndicationPdu)
  | rxCqi (ind : Indication LteFrame CqiEntry)
  | harq (ind : Indication LteFrame HarqIndicationPdu)
  | rxSr (ind : Indication LteFrame SrIndicationPdu)

/-- The id of the messages that carry the indication. -/
def LteIndication.messageId : LteIndication → UInt16
  | rach _ => rachIndication
  | crc _ => crcIndication
  | rxUlsch _ => rxUlschIndication
  | rxCqi _ => rxCqiIndication
  | harq _ => harqIndication
  | rxSr _ => rxSrIndication

/-- The time of the indication. -/
def LteIndication.sfnSf : LteIndication → UInt16
  | rach ind => ind.frame.sfnSf
  | crc ind => ind.frame.sfnSf
  | rxUlsch ind => ind.frame.sfnSf
  | rxCqi ind => ind.frame.sfnSf
  | harq ind => ind.frame.sfnSf
  | rxSr ind => ind.frame.sfnSf

/-- What the decoders ensure of the number of PDUs. A CQI indication may have a number that is too
large; its list is then no longer bound to the number. -/
def LteIndication.Counted : LteIndication → Prop
  | rach ind => ind.pduList.length = ind.number ∧ ind.number ≤ indMaxPdu
  | crc ind => ind.pduList.length = ind.number ∧ ind.number ≤ indMaxPdu
  | rxUlsch ind => ind.pduList.length = ind.number ∧ ind.number ≤ indMaxPdu
  | rxCqi ind =>
    ind.number < 65536 ∧ (ind.number ≤ indMaxPdu → ind.pduList.length = ind.number)
  | harq ind => ind.pduList.length = ind.number ∧ ind.number ≤ indMaxPdu
  | rxSr ind => ind.pduList.length = ind.number ∧ ind.number ≤ indMaxPdu

/-- The switch over the message id. -/
def unpackLteUplink (header : P7MessageHeader) (limit : ℕ) : Pull LteIndication :=
  if header.messageId = harqIndication then .harq <$> unpackHarqIndication header limit
  else if header.messageId = crcIndication then .crc <$> unpackCrcIndication header limit
  else if header.messageId = rxUlschIndication then .rxUlsch <$> unpackRxIndication header limit
  else if header.messageId = rachIndication then .rach <$> unpackRachIndication header limit
  else if header.messageId = rxSrIndication then .rxSr <$> unpackSrIndication header limit
  else if header.messageId = rxCqiIndication then .rxCqi <$> unpackCqiIndication header limit
  else reject

/-- `nfapi_p7_message_unpack`. -/
def nfapiP7MessageUnpack : Memory → ℕ → Outcome (Option LteIndication) :=
  messageUnpack unpackLteUplink

instance {header : P7MessageHeader} {limit : ℕ} : Orderly (unpackLteUplink header limit) := by
  rw [unpackLteUplink]
  infer_instance

/-- What the switch decodes has the id of the header, the time at the cursor and a counted list. -/
theorem unpackLteUplink_eq_ok {header : P7MessageHeader} {limit : ℕ} {mem : Memory}
    {pos last : ℕ} {ind : LteIndication}
    (h : unpackLteUplink header limit mem pos = .ok (ind, last)) :
    pos + 2 ≤ limit ∧ ind.messageId = header.messageId ∧ ind.sfnSf = word16 mem pos ∧
      ind.Counted := by
  rw [unpackLteUplink] at h
  split_ifs at h with hharq hcrc hrx hrach hsr hcqi
  · obtain ⟨ind, hind, rfl⟩ := map_eq_ok.mp h
    obtain ⟨hlimit, -, htime, hcount⟩ := unpackLteIndication_eq_ok Body.Counted
      ⟨rfl, Nat.zero_le _⟩ (fun _ _ _ _ _ _ _ _ ↦ unpackHarqIndicationBodyValue_counted) hind
    exact ⟨hlimit, hharq.symm, htime, hcount⟩
  · obtain ⟨ind, hind, rfl⟩ := map_eq_ok.mp h
    obtain ⟨hlimit, -, htime, hcount⟩ := unpackLteIndication_eq_ok Body.Counted
      ⟨rfl, Nat.zero_le _⟩ (fun _ _ _ _ _ _ _ _ ↦ unpackInstanceListBody_counted) hind
    exact ⟨hlimit, hcrc.symm, htime, hcount⟩
  · obtain ⟨ind, hind, rfl⟩ := map_eq_ok.mp h
    obtain ⟨hlimit, -, htime, hcount⟩ := unpackLteIndication_eq_ok Body.Counted
      ⟨rfl, Nat.zero_le _⟩ (fun _ _ _ _ _ _ _ _ ↦ unpackRxIndicationBodyValue_counted) hind
    exact ⟨hlimit, hrx.symm, htime, hcount⟩
  · obtain ⟨ind, hind, rfl⟩ := map_eq_ok.mp h
    obtain ⟨hlimit, -, htime, hcount⟩ := unpackLteIndication_eq_ok Body.Counted
      ⟨rfl, Nat.zero_le _⟩ (fun _ _ _ _ _ _ _ _ ↦ unpackInstanceListBody_counted) hind
    exact ⟨hlimit, hrach.symm, htime, hcount⟩
  · obtain ⟨ind, hind, rfl⟩ := map_eq_ok.mp h
    obtain ⟨hlimit, -, htime, hcount⟩ := unpackLteIndication_eq_ok Body.Counted
      ⟨rfl, Nat.zero_le _⟩ (fun _ _ _ _ _ _ _ _ ↦ unpackInstanceListBody_counted) hind
    exact ⟨hlimit, hsr.symm, htime, hcount⟩
  · obtain ⟨ind, hind, rfl⟩ := map_eq_ok.mp h
    obtain ⟨hlimit, -, htime, hcount⟩ := unpackLteIndication_eq_ok
      (fun body ↦ body.number < 65536 ∧
        (body.number ≤ indMaxPdu → body.pduList.length = body.number))
      ⟨by decide, fun _ ↦ rfl⟩ (fun _ _ _ _ _ _ _ _ ↦ unpackCqiIndicationBodyValue_counted) hind
    exact ⟨hlimit, hcqi.symm, htime, hcount⟩
  · cases h

/-- An accepted message has its id in its header and its time behind it. -/
theorem nfapiP7MessageUnpack_eq_some {mem : Memory} {length : ℕ} {ind : LteIndication}
    (h : nfapiP7MessageUnpack mem length = .ok (some ind)) :
    p7HeaderLength + 2 ≤ length ∧ ind.messageId = word16 mem 2 ∧
      ind.sfnSf = word16 mem p7HeaderLength ∧ ind.Counted := by
  obtain ⟨-, header, last, hid, hbody⟩ := messageUnpack_eq_some h
  obtain ⟨hlimit, hmessage, htime, hcount⟩ := unpackLteUplink_eq_ok hbody
  exact ⟨hlimit, hmessage.trans hid, htime, hcount⟩

/-! ### NR -/

/-- An NR uplink indication. -/
inductive NrIndication where
  | rach (ind : Indication NrFrame NrPrachIndicationPdu)
  | crc (ind : Indication NrFrame NrCrc)
  | rxData (ind : Indication NrFrame NrRxDataPdu)
  | uci (ind : Indication NrFrame NrUci)
  | srs (ind : Indication NrSrsFrame NrSrsIndicationPdu)

/-- The id of the messages that carry the indication. -/
def NrIndication.messageId : NrIndication → UInt16
  | rach _ => nrRachIndication
  | crc _ => nrCrcIndication
  | rxData _ => nrRxDataIndication
  | uci _ => nrUciIndication
  | srs _ => nrSrsIndication

/-- The time of the indication. -/
def NrIndication.time : NrIndication → NrFrame
  | rach ind => ind.frame
  | crc ind => ind.frame
  | rxData ind => ind.frame
  | uci ind => ind.frame
  | srs ind => ⟨ind.frame.sfn, ind.frame.slot⟩

/-- What the decoders ensure of the number of PDUs. -/
def NrIndication.Counted : NrIndication → Prop
  | rach _ => True
  | crc ind => ind.pduList.length = ind.number ∧ ind.number < 65536
  | rxData ind => ind.pduList.length = ind.number ∧ ind.number < 65536
  | uci ind => ind.pduList.length = ind.number ∧ ind.number < 65536
  | srs ind => ind.pduList.length = ind.number ∧ ind.number ≤ 1

/-- The switch over the message id. -/
def unpackNrUplink (header : P7MessageHeader) (limit : ℕ) : Pull NrIndication :=
  if header.messageId = nrRxDataIndication then
    .rxData <$> unpackNrRxDataIndication header limit
  else if header.messageId = nrCrcIndication then .crc <$> unpackNrCrcIndication header limit
  else if header.messageId = nrUciIndication then .uci <$> unpackNrUciIndication header limit
  else if header.messageId = nrSrsIndication then .srs <$> unpackNrSrsIndication header limit
  else if header.messageId = nrRachIndication then .rach <$> unpackNrRachIndication header limit
  else reject

/-- `nfapi_nr_p7_message_unpack`. -/
def nfapiNrP7MessageUnpack : Memory → ℕ → Outcome (Option NrIndication) :=
  messageUnpack unpackNrUplink

instance {header : P7MessageHeader} {limit : ℕ} : Orderly (unpackNrUplink header limit) := by
  rw [unpackNrUplink]
  infer_instance

/-- What the switch decodes has the id of the header and a counted list, and its time is in the two
words at the cursor, unless it is a RACH indication without room for these. -/
theorem unpackNrUplink_eq_ok {header : P7MessageHeader} {limit : ℕ} {mem : Memory}
    {pos last : ℕ} {ind : NrIndication}
    (h : unpackNrUplink header limit mem pos = .ok (ind, last)) :
    ind.messageId = header.messageId ∧ ind.Counted ∧
      (ind.messageId ≠ nrRachIndication → pos + 4 ≤ limit) ∧
      (pos + 4 ≤ limit → ind.time = ⟨word16 mem pos, word16 mem (pos + 2)⟩) := by
  rw [unpackNrUplink] at h
  split_ifs at h with hdata hcrc huci hsrs hrach
  · obtain ⟨ind, hind, rfl⟩ := map_eq_ok.mp h
    obtain ⟨hlimit, -, htime, hcount⟩ := unpackNrIndication_eq_ok hind
    exact ⟨hdata.symm, hcount, fun _ ↦ hlimit, fun _ ↦ htime⟩
  · obtain ⟨ind, hind, rfl⟩ := map_eq_ok.mp h
    obtain ⟨hlimit, -, htime, hcount⟩ := unpackNrIndication_eq_ok hind
    exact ⟨hcrc.symm, hcount, fun _ ↦ hlimit, fun _ ↦ htime⟩
  · obtain ⟨ind, hind, rfl⟩ := map_eq_ok.mp h
    obtain ⟨hlimit, -, htime, hcount⟩ := unpackNrIndication_eq_ok hind
    exact ⟨huci.symm, hcount, fun _ ↦ hlimit, fun _ ↦ htime⟩
  · obtain ⟨ind, hind, rfl⟩ := map_eq_ok.mp h
    obtain ⟨hlimit, -, hsfn, hslot, hcount⟩ := unpackNrSrsIndication_eq_ok hind
    exact ⟨hsrs.symm, hcount, fun _ ↦ hlimit, fun _ ↦ by rw [NrIndication.time, hsfn, hslot]⟩
  · obtain ⟨ind, hind, rfl⟩ := map_eq_ok.mp h
    exact ⟨hrach.symm, trivial, fun hother ↦ absurd rfl hother,
      fun hlimit ↦ (unpackNrRachIndication_eq_ok hlimit hind).2⟩
  · cases h

/-- An accepted message has its id in its header, and its time behind it if there is room. -/
theorem nfapiNrP7MessageUnpack_eq_some {mem : Memory} {length : ℕ} {ind : NrIndication}
    (h : nfapiNrP7MessageUnpack mem length = .ok (some ind)) :
    ind.messageId = word16 mem 2 ∧ ind.Counted ∧
      (ind.messageId ≠ nrRachIndication → p7HeaderLength + 4 ≤ length) ∧
      (p7HeaderLength + 4 ≤ length →
        ind.time = ⟨word16 mem p7HeaderLength, word16 mem (p7HeaderLength + 2)⟩) := by
  obtain ⟨-, header, last, hid, hbody⟩ := messageUnpack_eq_some h
  obtain ⟨hmessage, hcount, hroom, htime⟩ := unpackNrUplink_eq_ok hbody
  exact ⟨hmessage.trans hid, hcount, hroom, htime⟩

end MultiUeProxy.P7.Unpack
