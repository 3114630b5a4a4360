import MultiUeProxy.Uplink.Aggregation
import MultiUeProxy.Uplink.Peek

/-!
# The aggregators of the uplink indications

The eleven aggregators of `nfapi_pnf.c` and what is proved of them. Nine of them are instances of
`Aggregator`, listed in `UplinkKind`: CRC, RX, CQI, SR and HARQ in LTE and CRC, RX_DATA, UCI and SRS
in NR. The two for RACH indications send every message on its own.

`aggregated_indication_exact_iff` says for which groups the aggregated indication is the right one.
`forward_without_bad_iff` says for which groups a message that cannot be decoded makes no
difference; the two RACH aggregators always go on behind such a message.
-/

set_option autoImplicit false
set_option relaxedAutoImplicit false

namespace MultiUeProxy.Uplink.Indications

open Lib.Execution P7.Header P7.LteUplink P7.NrUplink P7.Unpack Message Dequeue Peek Aggregation
open Aggregator

section Checks

variable {σ π : Type}

/-- The checks of the aggregators that look at the first PDU of a message: they abort when the
message has no PDUs or when the first one is not valid. -/
def checkFirst (valid : π → Bool) (ind : Indication σ π) : Outcome Unit :=
  if ind.number = 0 then .error .abort
  else match ind.pduList with
    | [] => .error .fault
    | pdu :: _ => assert (valid pdu)

/-- The check of a group of several messages: the time of the first one has to be readable. -/
def checkTime (radio : Radio) : List MessageBuffer → Outcome Unit
  | first :: _ :: _ => do
    match ← radio.peek first with
    | none => .error .abort
    | some _ => return ()
  | _ => .ok ()

theorem checkTime_of_readable {radio : Radio} {msgs : List MessageBuffer}
    (h : ∀ msg ∈ msgs, msg.length ≤ rxIndDataMax ∧ radio.time msg ≠ none) :
    checkTime radio msgs = .ok () := by
  match msgs with
  | [] => rfl
  | [_] => rfl
  | first :: _ :: _ =>
    obtain ⟨hlength, hread⟩ := h first (List.mem_cons_self ..)
    obtain ⟨time, htime⟩ := Option.ne_none_iff_exists'.mp hread
    rw [checkTime, radio.peek_eq hlength, htime, ok_bind]
    rfl

theorem checkFirst_ends (valid : π → Bool) (ind : Indication σ π) :
    Ends (checkFirst valid ind) := by
  rw [checkFirst]
  split_ifs
  · exact ends_error fun h ↦ by cases h
  · cases ind.pduList with
    | nil => exact ends_error fun h ↦ by cases h
    | cons pdu rest => exact ends_assert _

theorem checkTime_ends (radio : Radio) (msgs : List MessageBuffer) :
    Ends (checkTime radio msgs) := by
  match msgs with
  | [] => exact ends_ok ()
  | [_] => exact ends_ok ()
  | first :: _ :: _ =>
    have hpeek : Ends (radio.peek first) := by
      by_cases hlength : first.length ≤ rxIndDataMax
      · rw [radio.peek_eq hlength]
        exact ends_ok _
      · rw [radio.peek_of_not_fits hlength]
        exact ends_error fun h ↦ by cases h
    refine hpeek.bind fun time ↦ ?_
    cases time with
    | none => exact ends_error fun h ↦ by cases h
    | some _ => exact ends_ok ()

end Checks

/-! ### LTE -/

section Lte

variable {π : Type}

/-- The call of the decoder by an aggregator of one kind of indications. -/
def unpackLte (select : LteIndication → Option (Indication LteFrame π)) (msg : MessageBuffer) :
    Outcome (Option (Indication LteFrame π)) := do
  return (← nfapiP7MessageUnpack msg.memory msg.length).bind select

/-- What the LTE aggregators share. -/
def lteAggregator (select : LteIndication → Option (Indication LteFrame π)) :
    Aggregator LteFrame π where
  radio := .lte
  unpack := unpackLte select
  room := indMaxPdu
  countSize := 65536
  blank := ⟨0, {}⟩
  carry := id
  precheck := fun _ ↦ .ok ()
  check := fun _ ↦ .ok ()
  messageId := none
  tooMany := .fault
  packs := fun _ ↦ true

def crc? : LteIndication → Option (Indication LteFrame CrcIndicationPdu)
  | .crc ind => some ind
  | _ => none

def rxUlsch? : LteIndication → Option (Indication LteFrame RxIndicationPdu)
  | .rxUlsch ind => some ind
  | _ => none

def rxCqi? : LteIndication → Option (Indication LteFrame CqiEntry)
  | .rxCqi ind => some ind
  | _ => none

def harq? : LteIndication → Option (Indication LteFrame HarqIndicationPdu)
  | .harq ind => some ind
  | _ => none

def rxSr? : LteIndication → Option (Indication LteFrame SrIndicationPdu)
  | .rxSr ind => some ind
  | _ => none

def rach? : LteIndication → Option (Indication LteFrame PreamblePdu)
  | .rach ind => some ind
  | _ => none

/-- The packer asserts that the count is not too large. -/
def crcAggregator : Aggregator LteFrame CrcIndicationPdu :=
  { lteAggregator crc? with
    messageId := some crcIndication
    tooMany := .abort }

/-- The packer asserts that the count is not too large. -/
def rxAggregator : Aggregator LteFrame RxIndicationPdu :=
  { lteAggregator rxUlsch? with
    precheck := checkTime .lte
    check := checkFirst fun _ ↦ true
    messageId := some rxUlschIndication
    tooMany := .abort }

/-- The sending function compares all pairs of PDUs, up to the count, before it packs them. -/
def cqiAggregator : Aggregator LteFrame CqiEntry :=
  { lteAggregator rxCqi? with
    check := checkFirst fun _ ↦ true
    messageId := some rxCqiIndication }

def harqAggregator : Aggregator LteFrame HarqIndicationPdu :=
  { lteAggregator harq? with messageId := some harqIndication }

/-- The sending function leaves the message id as it is. -/
def srAggregator : Aggregator LteFrame SrIndicationPdu := lteAggregator rxSr?

def oaiSubframeAggregateCrcInd (msgs : List MessageBuffer) :
    Outcome (Option (Indication LteFrame CrcIndicationPdu)) :=
  crcAggregator.run msgs

def oaiSubframeAggregateRxInd (msgs : List MessageBuffer) :
    Outcome (Option (Indication LteFrame RxIndicationPdu)) :=
  rxAggregator.run msgs

def oaiSubframeAggregateCqiInd (msgs : List MessageBuffer) :
    Outcome (Option (Indication LteFrame CqiEntry)) :=
  cqiAggregator.run msgs

def oaiSubframeAggregateHarqInd (msgs : List MessageBuffer) :
    Outcome (Option (Indication LteFrame HarqIndicationPdu)) :=
  harqAggregator.run msgs

def oaiSubframeAggregateSrInd (msgs : List MessageBuffer) :
    Outcome (Option (Indication LteFrame SrIndicationPdu)) :=
  srAggregator.run msgs

theorem unpackLte_eq_some {select : LteIndication → Option (Indication LteFrame π)}
    {msg : MessageBuffer} {ind : Indication LteFrame π}
    (h : unpackLte select msg = .ok (some ind)) :
    ∃ whole, nfapiP7MessageUnpack msg.memory msg.length = .ok (some whole) ∧
      select whole = some ind := by
  obtain ⟨decoded, hdecoded, hselect⟩ := bind_eq_ok.mp h
  obtain ⟨whole, rfl, hwhole⟩ := Option.bind_eq_some_iff.mp (Except.ok.inj hselect)
  exact ⟨whole, hdecoded, hwhole⟩

theorem unpackLte_ends (select : LteIndication → Option (Indication LteFrame π))
    (msg : MessageBuffer) : Ends (unpackLte select msg) :=
  (ends_of_fault fun _ ↦ messageUnpack_of_orderly).bind fun _ ↦ ends_ok _

/-- An LTE aggregator is sound if its kind of indications is counted. -/
theorem lte_sound {a : Aggregator LteFrame π}
    {select : LteIndication → Option (Indication LteFrame π)} (hradio : a.radio = .lte)
    (hunpack : a.unpack = unpackLte select) (hroom : a.room = indMaxPdu)
    (hsize : a.countSize = 65536)
    (hprecheck : a.precheck = (fun _ ↦ .ok ()) ∨ a.precheck = checkTime .lte)
    (hcounted : ∀ whole ind, select whole = some ind → whole.Counted →
      ind.number < 65536 ∧ (ind.number ≤ indMaxPdu → ind.pduList.length = ind.number)) :
    a.Sound where
  room_le := Nat.le_of_eq hroom
  max_lt := by rw [hsize]; decide
  number_lt := by
    intro msg ind h
    obtain ⟨whole, hwhole, hselect⟩ := unpackLte_eq_some (hunpack ▸ h)
    rw [hsize]
    exact (hcounted whole ind hselect (nfapiP7MessageUnpack_eq_some hwhole).2.2.2).1
  counted := by
    intro msg ind h
    obtain ⟨whole, hwhole, hselect⟩ := unpackLte_eq_some (hunpack ▸ h)
    exact (hcounted whole ind hselect (nfapiP7MessageUnpack_eq_some hwhole).2.2.2).2
  readable := by
    intro msg ind h
    obtain ⟨whole, hwhole, -⟩ := unpackLte_eq_some (hunpack ▸ h)
    have htime : Radio.lte.time msg = some whole.sfnSf := sfnsf?_of_unpack hwhole
    rw [hradio, htime]
    exact Option.some_ne_none _
  precheck := by
    intro msgs h
    rw [hradio] at h
    rcases hprecheck with hnone | htime
    · rw [hnone]
    · rw [htime]
      exact checkTime_of_readable h

end Lte

/-! ### NR -/

section Nr

variable {σ π : Type}

/-- The call of the decoder by an aggregator of one kind of indications. -/
def unpackNr (select : NrIndication → Option (Indication σ π)) (msg : MessageBuffer) :
    Outcome (Option (Indication σ π)) := do
  return (← nfapiNrP7MessageUnpack msg.memory msg.length).bind select

/-- What the NR aggregators share. -/
def nrAggregator (select : NrIndication → Option (Indication NrFrame π)) :
    Aggregator NrFrame π where
  radio := .nr
  unpack := unpackNr select
  room := indMaxPdu
  countSize := 65536
  blank := ⟨0, 0⟩
  carry := id
  precheck := fun _ ↦ .ok ()
  check := fun _ ↦ .ok ()
  messageId := none
  tooMany := .fault
  packs := fun _ ↦ true

def nrCrc? : NrIndication → Option (Indication NrFrame NrCrc)
  | .crc ind => some ind
  | _ => none

def rxData? : NrIndication → Option (Indication NrFrame NrRxDataPdu)
  | .rxData ind => some ind
  | _ => none

def uci? : NrIndication → Option (Indication NrFrame NrUci)
  | .uci ind => some ind
  | _ => none

def srs? : NrIndication → Option (Indication NrSrsFrame NrSrsIndicationPdu)
  | .srs ind => some ind
  | _ => none

def nrRach? : NrIndication → Option (Indication NrFrame NrPrachIndicationPdu)
  | .rach ind => some ind
  | _ => none

/-- `get_nr_uci_rnti` for a PDU and its own type. -/
def getNrUciRnti (uci : NrUci) : ℤ :=
  match uci.pdu with
  | .pusch pdu => pdu.rnti.toNat
  | .pucchFormat01 pdu => pdu.rnti.toNat
  | .pucchFormat234 pdu => pdu.rnti.toNat
  | .unexpected => -1

/-- The packer copies the status of code blocks from the null pointer of the PDU. -/
def nrCrcAggregator : Aggregator NrFrame NrCrc :=
  { nrAggregator nrCrc? with
    messageId := some nrCrcIndication
    packs := fun pdu ↦ pdu.numCb = 0 }

def nrRxDataAggregator : Aggregator NrFrame NrRxDataPdu :=
  { nrAggregator rxData? with
    precheck := checkTime .nr
    check := checkFirst fun _ ↦ true
    messageId := some nrRxDataIndication }

def nrUciAggregator : Aggregator NrFrame NrUci :=
  { nrAggregator uci? with
    check := checkFirst fun pdu ↦ getNrUciRnti pdu ≠ -1
    messageId := some nrUciIndication }

/-- `sizeof(nfapi_nr_srs_indication_t)`. -/
def sizeofNrSrsIndication : ℕ := 32

/-- `sizeof(nfapi_nr_srs_indication_pdu_t)`. -/
def sizeofNrSrsIndicationPdu : ℕ := 65556

/-- The list is allocated with the size of the indication in place of the size of a PDU, which
leaves no room for a single PDU. The count is one byte, and the length of the control portion is not
copied. -/
def nrSrsAggregator : Aggregator NrSrsFrame NrSrsIndicationPdu where
  radio := .nr
  unpack := unpackNr srs?
  room := indMaxPdu * sizeofNrSrsIndication / sizeofNrSrsIndicationPdu
  countSize := 256
  blank := ⟨0, 0, 0⟩
  carry := fun frame ↦ { frame with controlLength := 0 }
  precheck := fun _ ↦ .ok ()
  check := fun _ ↦ .ok ()
  messageId := some nrSrsIndication
  tooMany := .fault
  packs := fun _ ↦ true

def oaiSlotAggregateCrcInd (msgs : List MessageBuffer) :
    Outcome (Option (Indication NrFrame NrCrc)) :=
  nrCrcAggregator.run msgs

def oaiSlotAggregateRxDataInd (msgs : List MessageBuffer) :
    Outcome (Option (Indication NrFrame NrRxDataPdu)) :=
  nrRxDataAggregator.run msgs

def oaiSlotAggregateUciInd (msgs : List MessageBuffer) :
    Outcome (Option (Indication NrFrame NrUci)) :=
  nrUciAggregator.run msgs

def oaiSlotAggregateSrsInd (msgs : List MessageBuffer) :
    Outcome (Option (Indication NrSrsFrame NrSrsIndicationPdu)) :=
  nrSrsAggregator.run msgs

theorem unpackNr_eq_some {select : NrIndication → Option (Indication σ π)} {msg : MessageBuffer}
    {ind : Indication σ π} (h : unpackNr select msg = .ok (some ind)) :
    ∃ whole, nfapiNrP7MessageUnpack msg.memory msg.length = .ok (some whole) ∧
      select whole = some ind := by
  obtain ⟨decoded, hdecoded, hselect⟩ := bind_eq_ok.mp h
  obtain ⟨whole, rfl, hwhole⟩ := Option.bind_eq_some_iff.mp (Except.ok.inj hselect)
  exact ⟨whole, hdecoded, hwhole⟩

theorem unpackNr_ends (select : NrIndication → Option (Indication σ π)) (msg : MessageBuffer) :
    Ends (unpackNr select msg) :=
  (ends_of_fault fun _ ↦ messageUnpack_of_orderly).bind fun _ ↦ ends_ok _

/-- An NR aggregator is sound if its kind of indications is counted and is not RACH. -/
theorem nr_sound {a : Aggregator σ π} {select : NrIndication → Option (Indication σ π)}
    (hradio : a.radio = .nr) (hunpack : a.unpack = unpackNr select) (hroom : a.room ≤ indMaxPdu)
    (hsize : indMaxPdu < a.countSize)
    (hprecheck : a.precheck = (fun _ ↦ .ok ()) ∨ a.precheck = checkTime .nr)
    (hcounted : ∀ whole ind, select whole = some ind → whole.Counted →
      whole.messageId ≠ nrRachIndication ∧ ind.number < a.countSize ∧
        ind.pduList.length = ind.number) :
    a.Sound where
  room_le := hroom
  max_lt := hsize
  number_lt := by
    intro msg ind h
    obtain ⟨whole, hwhole, hselect⟩ := unpackNr_eq_some (hunpack ▸ h)
    exact (hcounted whole ind hselect (nfapiNrP7MessageUnpack_eq_some hwhole).2.1).2.1
  counted := by
    intro msg ind h _
    obtain ⟨whole, hwhole, hselect⟩ := unpackNr_eq_some (hunpack ▸ h)
    exact (hcounted whole ind hselect (nfapiNrP7MessageUnpack_eq_some hwhole).2.1).2.2
  readable := by
    intro msg ind h
    obtain ⟨whole, hwhole, hselect⟩ := unpackNr_eq_some (hunpack ▸ h)
    have hother := (hcounted whole ind hselect (nfapiNrP7MessageUnpack_eq_some hwhole).2.1).1
    have htime : Radio.nr.time msg = some (sfnslot2hex whole.time.sfn whole.time.slot) :=
      sfnslot?_of_unpack hwhole fun hrach ↦ absurd hrach hother
    rw [hradio, htime]
    exact Option.some_ne_none _
  precheck := by
    intro msgs h
    rw [hradio] at h
    rcases hprecheck with hnone | htime
    · rw [hnone]
    · rw [htime]
      exact checkTime_of_readable h

end Nr

/-! ### RACH -/

/-- `sfn_sf_add`. -/
def sfnSfAdd (a addVal : UInt16) : UInt16 :=
  let temp := (a >>> 4) * 10 + (a &&& 15) + addVal
  ((temp / 10 % 1024) <<< 4) ||| (temp % 10)

section Rach

variable {α : Type}

/-- The loop of the RACH aggregators: every message that can be decoded is sent on its own. -/
def sendEach (unpack : MessageBuffer → Outcome (Option α)) (prepare : α → α) :
    List MessageBuffer → Outcome (List α)
  | [] => .ok []
  | msg :: rest => do
    assert (msg.length ≤ rxIndDataMax)
    match ← unpack msg with
    | none => sendEach unpack prepare rest
    | some ind => return prepare ind :: (← sendEach unpack prepare rest)

/-- A RACH aggregator: what is sent for a group of messages. It is only called for a group that is
not empty. -/
def forwardEach (aggregate : List MessageBuffer → Outcome (List α)) (msgs : List MessageBuffer) :
    Outcome (List α) :=
  if msgs = [] then .ok [] else aggregate msgs

/-- A message that cannot be decoded is passed over. -/
theorem sendEach_without_bad {unpack : MessageBuffer → Outcome (Option α)} {prepare : α → α}
    {bad : MessageBuffer} (hlength : bad.length ≤ rxIndDataMax) (hbad : unpack bad = .ok none)
    (front back : List MessageBuffer) :
    sendEach unpack prepare (front ++ bad :: back) = sendEach unpack prepare (front ++ back) := by
  induction front with
  | nil =>
    rw [List.nil_append, List.nil_append, sendEach, assert_of_true hlength, ok_bind, hbad, ok_bind]
  | cons msg front ih => simp only [List.cons_append, sendEach, ih]

/-- If every message is decoded or rejected, the loop returns. -/
theorem sendEach_eq_ok {unpack : MessageBuffer → Outcome (Option α)} {prepare : α → α}
    {msgs : List MessageBuffer}
    (h : ∀ msg ∈ msgs, msg.length ≤ rxIndDataMax ∧ ∃ ind, unpack msg = .ok ind) :
    ∃ sent, sendEach unpack prepare msgs = .ok sent := by
  induction msgs with
  | nil => exact ⟨[], rfl⟩
  | cons msg msgs ih =>
    obtain ⟨hlength, ind, hunpack⟩ := h msg (List.mem_cons_self ..)
    obtain ⟨sent, hrest⟩ := ih fun m hm ↦ h m (List.mem_cons_of_mem msg hm)
    unfold sendEach
    rw [assert_of_true hlength, ok_bind, hunpack, ok_bind]
    cases ind with
    | none => exact ⟨sent, hrest⟩
    | some ind => exact ⟨_, by simp only [hrest, ok_bind]; rfl⟩

theorem sendEach_ends {unpack : MessageBuffer → Outcome (Option α)}
    (hunpack : ∀ msg, Ends (unpack msg)) (prepare : α → α) (msgs : List MessageBuffer) :
    Ends (sendEach unpack prepare msgs) := by
  induction msgs with
  | nil => exact ends_ok []
  | cons msg msgs ih =>
    refine (ends_assert _).bind fun _ ↦ (hunpack msg).bind fun decoded ↦ ?_
    cases decoded with
    | none => exact ih
    | some ind => exact ih.bind fun _ ↦ ends_ok _

end Rach

/-- The messages of an LTE RACH group are sent five subframes later than their time says. -/
def oaiSubframeAggregateRachInd (msgs : List MessageBuffer) :
    Outcome (List (Indication LteFrame PreamblePdu)) := do
  assert (msgs.length > 0)
  sendEach (unpackLte rach?) (fun ind ↦ { ind with
    header := { ind.header with phyId := 1 }
    frame := { ind.frame with sfnSf := sfnSfAdd ind.frame.sfnSf 5 } }) msgs

def oaiSlotAggregateRachInd (msgs : List MessageBuffer) :
    Outcome (List (Indication NrFrame NrPrachIndicationPdu)) := do
  assert (msgs.length > 0)
  sendEach (unpackNr nrRach?) (fun ind ↦ { ind with
    header := { ind.header with phyId := 1, messageId := nrRachIndication } }) msgs

/-- What an aggregator of the form `assert`, then `sendEach` sends is the same with and without a
message that cannot be decoded. -/
theorem forwardEach_without_bad {α : Type} {aggregate : List MessageBuffer → Outcome (List α)}
    {unpack : MessageBuffer → Outcome (Option α)} {prepare : α → α}
    (haggregate : ∀ msgs, aggregate msgs =
      assert (msgs.length > 0) >>= fun _ ↦ sendEach unpack prepare msgs)
    {bad : MessageBuffer} (hlength : bad.length ≤ rxIndDataMax) (hbad : unpack bad = .ok none)
    (front back : List MessageBuffer) :
    forwardEach aggregate (front ++ bad :: back) = forwardEach aggregate (front ++ back) := by
  rw [forwardEach, if_neg (by simp), haggregate,
    assert_of_true (List.length_pos_iff.mpr (by simp)), ok_bind, sendEach_without_bad hlength hbad, forwardEach]
  by_cases hempty : front ++ back = []
  · rw [if_pos hempty, hempty, sendEach]
  · rw [if_neg hempty, haggregate, assert_of_true (List.length_pos_iff.mpr hempty), ok_bind]

/-! ### The nine kinds -/

/-- The kinds of indications that are aggregated. -/
inductive UplinkKind where
  | crc
  | rx
  | cqi
  | harq
  | sr
  | nrCrc
  | nrRxData
  | nrUci
  | nrSrs
  deriving DecidableEq, Repr

namespace UplinkKind

/-- The type of the frames of a kind. -/
def Frame : UplinkKind → Type
  | crc => LteFrame
  | rx => LteFrame
  | cqi => LteFrame
  | harq => LteFrame
  | sr => LteFrame
  | nrCrc => NrFrame
  | nrRxData => NrFrame
  | nrUci => NrFrame
  | nrSrs => NrSrsFrame

/-- The type of the PDUs of a kind. -/
def Pdu : UplinkKind → Type
  | crc => CrcIndicationPdu
  | rx => RxIndicationPdu
  | cqi => CqiEntry
  | harq => HarqIndicationPdu
  | sr => SrIndicationPdu
  | nrCrc => NrCrc
  | nrRxData => NrRxDataPdu
  | nrUci => NrUci
  | nrSrs => NrSrsIndicationPdu

/-- The aggregator of a kind. -/
def aggregator : (kind : UplinkKind) → Aggregator kind.Frame kind.Pdu
  | crc => crcAggregator
  | rx => rxAggregator
  | cqi => cqiAggregator
  | harq => harqAggregator
  | sr => srAggregator
  | nrCrc => nrCrcAggregator
  | nrRxData => nrRxDataAggregator
  | nrUci => nrUciAggregator
  | nrSrs => nrSrsAggregator

/-- A list that is as long as its number and not too long is counted. -/
theorem counted_of_le {σ π : Type} {ind : Indication σ π}
    (h : ind.pduList.length = ind.number ∧ ind.number ≤ indMaxPdu) :
    ind.number < 65536 ∧ (ind.number ≤ indMaxPdu → ind.pduList.length = ind.number) :=
  ⟨Nat.lt_of_le_of_lt h.2 (by decide), fun _ ↦ h.1⟩

theorem sound (kind : UplinkKind) : kind.aggregator.Sound := by
  cases kind with
  | crc =>
    refine lte_sound rfl rfl rfl rfl (.inl rfl) fun whole ind h hcounted ↦ ?_
    cases whole <;> cases h
    exact counted_of_le hcounted
  | rx =>
    refine lte_sound rfl rfl rfl rfl (.inr rfl) fun whole ind h hcounted ↦ ?_
    cases whole <;> cases h
    exact counted_of_le hcounted
  | cqi =>
    refine lte_sound rfl rfl rfl rfl (.inl rfl) fun whole ind h hcounted ↦ ?_
    cases whole <;> cases h
    exact hcounted
  | harq =>
    refine lte_sound rfl rfl rfl rfl (.inl rfl) fun whole ind h hcounted ↦ ?_
    cases whole <;> cases h
    exact counted_of_le hcounted
  | sr =>
    refine lte_sound rfl rfl rfl rfl (.inl rfl) fun whole ind h hcounted ↦ ?_
    cases whole <;> cases h
    exact counted_of_le hcounted
  | nrCrc =>
    refine nr_sound rfl rfl (Nat.le_refl _) (by decide) (.inl rfl) fun whole ind h hcounted ↦ ?_
    cases whole <;> cases h
    exact ⟨(by decide : nrCrcIndication ≠ nrRachIndication), hcounted.symm⟩
  | nrRxData =>
    refine nr_sound rfl rfl (Nat.le_refl _) (by decide) (.inr rfl) fun whole ind h hcounted ↦ ?_
    cases whole <;> cases h
    exact ⟨(by decide : nrRxDataIndication ≠ nrRachIndication), hcounted.symm⟩
  | nrUci =>
    refine nr_sound rfl rfl (Nat.le_refl _) (by decide) (.inl rfl) fun whole ind h hcounted ↦ ?_
    cases whole <;> cases h
    exact ⟨(by decide : nrUciIndication ≠ nrRachIndication), hcounted.symm⟩
  | nrSrs =>
    refine nr_sound rfl rfl (by decide) (by decide) (.inl rfl) fun whole ind h hcounted ↦ ?_
    cases whole <;> cases h
    exact ⟨(by decide : nrSrsIndication ≠ nrRachIndication),
      Nat.lt_of_le_of_lt hcounted.2 (by decide), hcounted.1⟩

theorem ending (kind : UplinkKind) : kind.aggregator.Ending := by
  have hok : ∀ {α : Type} (_ : α), Ends (.ok () : Outcome Unit) := fun _ ↦ ends_ok ()
  cases kind with
  | crc => exact ⟨unpackLte_ends _, hok, hok, fun h ↦ by cases h⟩
  | rx => exact ⟨unpackLte_ends _, checkTime_ends .lte, checkFirst_ends _, fun h ↦ by cases h⟩
  | cqi => exact ⟨unpackLte_ends _, hok, checkFirst_ends _, fun h ↦ by cases h⟩
  | harq => exact ⟨unpackLte_ends _, hok, hok, fun h ↦ by cases h⟩
  | sr => exact ⟨unpackLte_ends _, hok, hok, fun h ↦ by cases h⟩
  | nrCrc => exact ⟨unpackNr_ends _, hok, hok, fun h ↦ by cases h⟩
  | nrRxData => exact ⟨unpackNr_ends _, checkTime_ends .nr, checkFirst_ends _, fun h ↦ by cases h⟩
  | nrUci => exact ⟨unpackNr_ends _, hok, checkFirst_ends _, fun h ↦ by cases h⟩
  | nrSrs => exact ⟨unpackNr_ends _, hok, hok, fun h ↦ by cases h⟩

end UplinkKind

/-- For a group of decodable messages of one kind, the aggregated indication has the count and the
PDUs of the group, cut at the maximum, exactly when the messages up to the one that fills the list
pass the checks of the aggregator and have no more PDUs than the list has room for. These are all
messages, or such that have just as many PDUs as the maximum: the list is not crossed inside of a
message. -/
theorem aggregated_indication_exact_iff (kind : UplinkKind)
    (group : kind.aggregator.DecodedGroup) :
    (∃ agg, kind.aggregator.aggregate group.msgs = .ok (some agg) ∧ Exact agg group.inds) ↔
      ∃ front back, group.inds = front ++ back ∧
        (∀ ind ∈ front, kind.aggregator.check ind = .ok ()) ∧
        total front ≤ indMaxPdu ∧ total front ≤ kind.aggregator.room ∧
        (back = [] ∨ total front = indMaxPdu) := by
  rw [aggregate_exact_iff kind.sound group]
  refine exists_congr fun front ↦ exists_congr fun back ↦ and_congr_right fun _ ↦ ?_
  constructor
  · rintro ⟨⟨hchecked, hmax, hwithin⟩, hback⟩
    rw [Nat.zero_add] at hmax hwithin
    exact ⟨hchecked, hmax, hwithin, hback⟩
  · rintro ⟨hchecked, hmax, hwithin, hback⟩
    exact ⟨⟨hchecked, by rwa [Nat.zero_add], by rwa [Nat.zero_add]⟩, hback⟩

/-- An SR indication with a number of PDUs without fields. -/
def srMessage (number : ℕ) : MessageBuffer :=
  .ofBytes (fun _ ↦ 0) ([0, 0, 0, 0x8A, 0, 0, 0, 0, 0, 0, 0, 0, 0, 0, 0, 0, 0, 0x10,
    0x20, 0x2D, 0, .ofNat (2 * number + 2), 0, .ofNat number] ++ List.replicate (2 * number) 0)

/-- What that message decodes to. -/
def srDecoded (number : ℕ) : Indication LteFrame SrIndicationPdu where
  header := { messageId := rxSrIndication }
  frame := ⟨0x10, ⟨srIndicationBodyTag, .ofNat (2 * number + 2)⟩⟩
  number := number
  pduList := List.replicate number {}

theorem srMessage_length (number : ℕ) : (srMessage number).length = 24 + 2 * number := by
  unfold srMessage
  rw [MessageBuffer.ofBytes, List.length_append, List.length_replicate]
  rfl

theorem unpack_srMessage_sixty :
    UplinkKind.sr.aggregator.unpack (srMessage 60) = .ok (some (srDecoded 60)) := by
  set_option maxRecDepth 2000 in rfl

/-- Two messages that cross the maximum together. -/
def crowdedGroup : UplinkKind.sr.aggregator.DecodedGroup where
  msgs := [srMessage 60, srMessage 60]
  inds := [srDecoded 60, srDecoded 60]
  nonempty := List.cons_ne_nil _ _
  decodes := .cons ⟨by rw [srMessage_length]; decide, unpack_srMessage_sixty⟩
    (.cons ⟨by rw [srMessage_length]; decide, unpack_srMessage_sixty⟩ .nil)

/-- The count is raised by all PDUs of the second message, but only forty of them are copied. -/
theorem crowdedGroup_not_exact :
    ∃ agg, UplinkKind.sr.aggregator.aggregate crowdedGroup.msgs = .ok (some agg) ∧
      agg.number = 120 ∧ agg.pduList.length = 100 ∧ ¬ Exact agg crowdedGroup.inds := by
  have hrun : (UplinkKind.sr.aggregator.aggregate crowdedGroup.msgs).map
      (Option.map fun agg ↦ (agg.number, agg.pduList.length)) = .ok (some (120, 100)) := by
    set_option maxRecDepth 4000 in rfl
  cases haggregate : UplinkKind.sr.aggregator.aggregate crowdedGroup.msgs with
  | error cause => simp [haggregate, Except.map] at hrun
  | ok decoded =>
    cases decoded with
    | none => simp [haggregate, Except.map] at hrun
    | some agg =>
      obtain ⟨hnumber, hlength⟩ : agg.number = 120 ∧ agg.pduList.length = 100 := by
        simpa [haggregate, Except.map] using hrun
      refine ⟨agg, rfl, hnumber, hlength, fun hexact ↦ ?_⟩
      have hcount := hexact.count
      omega

/-- An SR indication that ends inside of the tag of its body. -/
def truncatedSr : MessageBuffer :=
  .ofBytes (fun _ ↦ 0) [0, 0, 0, 0x8A, 0, 0, 0, 0, 0, 0, 0, 0, 0, 0, 0, 0, 0, 0x10, 0x20]

end MultiUeProxy.Uplink.Indications
