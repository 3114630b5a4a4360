import MultiUeProxy.P7.Unpack
import MultiUeProxy.Uplink.Dequeue

/-!
# The common text of the aggregators

Nine functions of `nfapi_pnf.c` build one indication out of the indications that several UEs sent
for the same time. They have one text: a list with room for `NFAPI_…_IND_MAX_PDU` PDUs is
allocated, every message of the group is unpacked, its number of PDUs is added to the count of the
aggregated indication, and its PDUs are copied behind the ones already there until the list is full.
An `Aggregator` has what they differ in, and `aggregate` is that text.

`aggregate_exact_iff` characterizes the groups of decodable messages for which the aggregated
indication is the concatenation cut at the capacity, with the right count. `forward_insert_iff`
characterizes the groups to which an undecodable message makes no difference. `forward_of_harmless`
gives a condition under which nothing crashes, and `Ending.run` says that no aggregator runs for
ever.

The searches for two PDUs with one RNTI, and the comparisons of the headers, only lead to traces and
are left out; they stay inside the part of the list that is filled. The vendor extension that the
LTE aggregators assert to be absent is always absent, because the decoder has no configuration.
-/

set_option autoImplicit false
set_option relaxedAutoImplicit false

namespace MultiUeProxy.Uplink.Aggregation

open Lib.Execution P7.Header P7.LteUplink Message Dequeue

/-- What the aggregators differ in. -/
structure Aggregator (σ π : Type) where
  /-- The variant of the uplink path. -/
  radio : Radio
  /-- The call of the decoder, into a structure of the aggregator's type. -/
  unpack : MessageBuffer → Outcome (Option (Indication σ π))
  /-- The number of PDUs for which there is memory behind the list. -/
  room : ℕ
  /-- The number of values of the type of the count. -/
  countSize : ℕ
  /-- The frame of the aggregated indication before the first message. -/
  blank : σ
  /-- What is copied of the frame of a message. -/
  carry : σ → σ
  /-- The check on the group before the first message. -/
  precheck : List MessageBuffer → Outcome Unit
  /-- The checks on a decoded message. -/
  check : Indication σ π → Outcome Unit
  /-- The message id that the sending function sets, if it sets one. -/
  messageId : Option UInt16
  /-- How packing ends when the count is larger than the list. -/
  tooMany : Crash
  /-- A PDU that can be packed. -/
  packs : π → Bool

namespace Aggregator

variable {σ π : Type}

/-! ### The functions -/

/-- The loop that copies the PDUs of a message. `count` PDUs are still to be copied, from the front
of the source list. -/
def copyPdus (room : ℕ) : (count : ℕ) → (source pduList : List π) → Outcome (List π)
  | 0, _, pduList => .ok pduList
  | count + 1, source, pduList =>
    if pduList.length = indMaxPdu then .ok pduList
    else match source with
      -- the source list ends before the number of its indication
      | [] => .error .fault
      | pdu :: source =>
        if pduList.length < room then copyPdus room count source (pduList ++ [pdu])
        else .error .fault

/-- What one decoded message adds to the aggregated indication. The count is raised by the number
of all PDUs of the message before these are copied. -/
def addMessage (a : Aggregator σ π) (agg ind : Indication σ π) : Outcome (Indication σ π) := do
  a.check ind
  let pduList ← copyPdus a.room ind.number ind.pduList agg.pduList
  return {
    header := ind.header
    frame := a.carry ind.frame
    number := (agg.number + ind.number) % a.countSize
    pduList }

/-- The loop over the messages. It is left when the list is full, and with it the function when a
message cannot be unpacked. -/
def aggregateLoop (a : Aggregator σ π) (agg : Indication σ π) :
    List MessageBuffer → Outcome (Option (Indication σ π))
  | [] => .ok (some agg)
  | msg :: rest => do
    assert (msg.length ≤ rxIndDataMax)
    match ← a.unpack msg with
    | none => return none
    | some ind =>
      let agg ← a.addMessage agg ind
      if agg.pduList.length = indMaxPdu then return some agg
      else a.aggregateLoop agg rest

/-- The aggregated indication before the first message. -/
def start (a : Aggregator σ π) : Indication σ π :=
  { header := {}, frame := a.blank, number := 0, pduList := [] }

/-- An aggregator up to the call that sends the aggregated indication. -/
def aggregate (a : Aggregator σ π) (msgs : List MessageBuffer) :
    Outcome (Option (Indication σ π)) := do
  assert (msgs.length > 0)
  a.precheck msgs
  a.aggregateLoop a.start msgs

/-- The sending function `oai_nfapi_…`: it sets fields of the header and packs the indication. The
packer reads as many PDUs as the count says. -/
def send (a : Aggregator σ π) (ind : Indication σ π) : Outcome (Indication σ π) :=
  if ind.number > indMaxPdu then .error a.tooMany
  else if ind.pduList.all a.packs then
    .ok { ind with header :=
      { ind.header with phyId := 1, messageId := a.messageId.getD ind.header.messageId } }
  else .error .fault

/-- A whole aggregator: the indication that is sent, if any. -/
def run (a : Aggregator σ π) (msgs : List MessageBuffer) : Outcome (Option (Indication σ π)) := do
  match ← a.aggregate msgs with
  | none => return none
  | some agg => return some (← a.send agg)

/-- What is sent for a group of messages. The aggregator is only called for a group that is not
empty. -/
def forward (a : Aggregator σ π) (msgs : List MessageBuffer) :
    Outcome (Option (Indication σ π)) :=
  if msgs = [] then .ok none else a.run msgs

/-! ### Copying -/

/-- Of the PDUs of a message, those that fit below the maximum are copied. The copy is a fault if
the source does not have as many, or the list no memory for them. -/
theorem copyPdus_eq {room count : ℕ} {source pduList : List π}
    (hfull : pduList.length ≤ indMaxPdu) :
    copyPdus room count source pduList =
      if min count (indMaxPdu - pduList.length) ≤ source.length ∧
          (min count (indMaxPdu - pduList.length) = 0 ∨
            pduList.length + min count (indMaxPdu - pduList.length) ≤ room) then
        .ok (pduList ++ source.take (min count (indMaxPdu - pduList.length)))
      else .error .fault := by
  induction count generalizing source pduList with
  | zero => simp [copyPdus]
  | succ count ih =>
    by_cases hmax : pduList.length = indMaxPdu
    · have hsame : copyPdus room (count + 1) source pduList = .ok pduList := by
        cases source <;> rw [copyPdus, if_pos hmax]
      rw [hsame]
      simp [hmax]
    · obtain ⟨left, hleft⟩ : ∃ k, indMaxPdu - pduList.length = k + 1 :=
        ⟨indMaxPdu - pduList.length - 1, by omega⟩
      rw [hleft, Nat.succ_min_succ]
      cases source with
      | nil =>
        rw [copyPdus, if_neg hmax, if_neg fun h ↦ by simp at h]
      | cons pdu source =>
        rw [copyPdus, if_neg hmax]
        by_cases hroom : pduList.length < room
        · have hnext : indMaxPdu - (pduList ++ [pdu]).length = left := by simp; omega
          rw [if_pos hroom, ih (by simp; omega), hnext, List.take_succ_cons, List.append_assoc,
            List.singleton_append]
          refine if_congr ?_ rfl rfl
          simp only [List.length_append, List.length_cons, List.length_nil]
          omega
        · rw [if_neg hroom, if_neg (by omega)]

/-! ### One message -/

/-- What holds of every aggregator of the source. -/
structure Sound (a : Aggregator σ π) : Prop where
  room_le : a.room ≤ indMaxPdu
  max_lt : indMaxPdu < a.countSize
  number_lt : ∀ msg ind, a.unpack msg = .ok (some ind) → ind.number < a.countSize
  counted : ∀ msg ind, a.unpack msg = .ok (some ind) → ind.number ≤ indMaxPdu →
    ind.pduList.length = ind.number
  readable : ∀ msg ind, a.unpack msg = .ok (some ind) → a.radio.time msg ≠ none
  precheck : ∀ msgs, (∀ msg ∈ msgs, msg.length ≤ rxIndDataMax ∧ a.radio.time msg ≠ none) →
    a.precheck msgs = .ok ()

/-- An aggregated indication that is being built: its count is the length of its list, and there is
room for more. -/
structure Growing (a : Aggregator σ π) (agg : Indication σ π) : Prop where
  count : agg.pduList.length = agg.number
  below : agg.number < indMaxPdu
  within : agg.number ≤ a.room

/-- The aggregated indication after a message that fits. -/
def extend (a : Aggregator σ π) (agg ind : Indication σ π) : Indication σ π where
  header := ind.header
  frame := a.carry ind.frame
  number := agg.number + ind.number
  pduList := agg.pduList ++ ind.pduList

/-- A message that fits below the count `agg.number`. -/
structure Fits (a : Aggregator σ π) (agg ind : Indication σ π) : Prop where
  checked : a.check ind = .ok ()
  max : agg.number + ind.number ≤ indMaxPdu
  within : agg.number + ind.number ≤ a.room

variable {a : Aggregator σ π}

theorem start_growing (a : Aggregator σ π) : a.Growing a.start :=
  ⟨rfl, Nat.zero_lt_succ _, Nat.zero_le _⟩

theorem Growing.extend {agg ind : Indication σ π} (hs : a.Sound) (hagg : a.Growing agg)
    {msg : MessageBuffer} (hunpack : a.unpack msg = .ok (some ind)) (hfits : a.Fits agg ind)
    (hbelow : agg.number + ind.number < indMaxPdu) : a.Growing (a.extend agg ind) where
  count := by
    have hlength := hs.counted msg ind hunpack (by have := hfits.max; omega)
    rw [Aggregator.extend, List.length_append, hagg.count, hlength]
  below := hbelow
  within := hfits.within

/-- The number of PDUs of a message that are copied. -/
def copied (agg ind : Indication σ π) : ℕ := min ind.number (indMaxPdu - agg.number)

/-- What a message that passes the checks adds. -/
theorem Growing.addMessage_eq {agg ind : Indication σ π} (hagg : a.Growing agg)
    (hcheck : a.check ind = .ok ()) :
    a.addMessage agg ind =
      if copied agg ind ≤ ind.pduList.length ∧
          (copied agg ind = 0 ∨ agg.number + copied agg ind ≤ a.room) then
        .ok {
          header := ind.header
          frame := a.carry ind.frame
          number := (agg.number + ind.number) % a.countSize
          pduList := agg.pduList ++ ind.pduList.take (copied agg ind) }
      else .error .fault := by
  have hfull : agg.pduList.length ≤ indMaxPdu := by
    rw [hagg.count]
    exact Nat.le_of_lt hagg.below
  rw [addMessage, hcheck, ok_bind, copyPdus_eq hfull, hagg.count, copied]
  split_ifs <;> rfl

/-- What the loop does with a message. -/
inductive LoopStep (a : Aggregator σ π) (agg : Indication σ π) (msg : MessageBuffer) : Prop where
  /-- The message cannot be decoded, and nothing is sent. -/
  | refused (hunpack : a.unpack msg = .ok none)
    (hloop : ∀ rest, a.aggregateLoop agg (msg :: rest) = .ok none)
  /-- The message fits and leaves room. -/
  | taken (ind : Indication σ π) (hunpack : a.unpack msg = .ok (some ind)) (hfits : a.Fits agg ind)
    (hbelow : agg.number + ind.number < indMaxPdu)
    (hloop : ∀ rest, a.aggregateLoop agg (msg :: rest) = a.aggregateLoop (a.extend agg ind) rest)
  /-- The message fills the list. -/
  | filled (ind final : Indication σ π) (hunpack : a.unpack msg = .ok (some ind))
    (hcheck : a.check ind = .ok ()) (hroom : indMaxPdu ≤ a.room)
    (hmax : indMaxPdu ≤ agg.number + ind.number)
    (hnumber : final.number = (agg.number + ind.number) % a.countSize)
    (hlist : final.pduList = agg.pduList ++ ind.pduList.take (indMaxPdu - agg.number))
    (hfull : final.pduList.length = indMaxPdu)
    (hloop : ∀ rest, a.aggregateLoop agg (msg :: rest) = .ok (some final))
  /-- The program crashes. -/
  | crashed (cause : Crash) (hdecoded : a.unpack msg ≠ .ok none)
    (hnot : ∀ ind, a.unpack msg = .ok (some ind) → ¬ a.Fits agg ind)
    (hloop : ∀ rest, a.aggregateLoop agg (msg :: rest) = .error cause)

theorem loopStep (hs : a.Sound) {agg : Indication σ π} (hagg : a.Growing agg)
    {msg : MessageBuffer} (hlength : msg.length ≤ rxIndDataMax) : a.LoopStep agg msg := by
  have hhead : ∀ rest, a.aggregateLoop agg (msg :: rest) = (a.unpack msg >>= fun
      | none => .ok none
      | some ind => a.addMessage agg ind >>= fun agg ↦
        if agg.pduList.length = indMaxPdu then .ok (some agg) else a.aggregateLoop agg rest) := by
    intro rest
    simp only [aggregateLoop, assert_of_true hlength, ok_bind]
    rfl
  cases hunpack : a.unpack msg with
  | error cause =>
    refine .crashed cause (by simp [hunpack]) (by simp [hunpack]) fun rest ↦ ?_
    rw [hhead, hunpack, error_bind]
  | ok decoded =>
    cases decoded with
    | none =>
      refine .refused hunpack fun rest ↦ ?_
      rw [hhead, hunpack, ok_bind]
    | some ind =>
      have hloop : ∀ rest, a.aggregateLoop agg (msg :: rest) = a.addMessage agg ind >>= fun agg ↦
          if agg.pduList.length = indMaxPdu then .ok (some agg)
          else a.aggregateLoop agg rest := fun rest ↦ by rw [hhead, hunpack, ok_bind]
      have hcrash : ∀ cause, a.addMessage agg ind = .error cause → ¬ a.Fits agg ind →
          a.LoopStep agg msg := by
        intro cause hadd hnot
        refine .crashed cause (by simp [hunpack]) (fun ind' h ↦ ?_) fun rest ↦ ?_
        · obtain rfl : ind = ind' := by simpa [hunpack] using h
          exact hnot
        · rw [hloop, hadd, error_bind]
      have hcounted := hs.counted msg ind hunpack
      have hmaxSize := hs.max_lt
      have hcount := hagg.count
      have hbelow := hagg.below
      have hwithin := hagg.within
      cases hcheck : a.check ind with
      | error cause =>
        refine hcrash cause ?_ fun hfits ↦ ?_
        · rw [addMessage, hcheck, error_bind]
        · have hok := hfits.checked
          rw [hcheck] at hok
          cases hok
      | ok _ =>
        have hadd := hagg.addMessage_eq hcheck
        by_cases hcopy : copied agg ind ≤ ind.pduList.length ∧
            (copied agg ind = 0 ∨ agg.number + copied agg ind ≤ a.room)
        · rw [if_pos hcopy] at hadd
          by_cases hmax : indMaxPdu ≤ agg.number + ind.number
          · have hcopied : copied agg ind = indMaxPdu - agg.number := by rw [copied]; omega
            rw [hcopied] at hcopy hadd
            have hfull : (agg.pduList ++ ind.pduList.take (indMaxPdu - agg.number)).length =
                indMaxPdu := by
              rw [List.length_append, List.length_take, hcount]
              omega
            exact .filled ind ⟨_, _, _, _⟩ hunpack hcheck (by omega) hmax rfl rfl hfull fun rest ↦ by
              rw [hloop, hadd, ok_bind, if_pos hfull]
          · have hcopied : copied agg ind = ind.number := by rw [copied]; omega
            have hfits : a.Fits agg ind := ⟨hcheck, by omega, by omega⟩
            have hextend : a.addMessage agg ind = .ok (a.extend agg ind) := by
              rw [hadd, hcopied, List.take_of_length_le (by rw [hcounted (by omega)]),
                Nat.mod_eq_of_lt (by omega), extend]
            have hroom : (a.extend agg ind).pduList.length ≠ indMaxPdu := by
              rw [(hagg.extend hs hunpack hfits (by omega)).count]
              exact fun h ↦ hmax (Nat.le_of_eq h.symm)
            refine .taken ind hunpack hfits (by omega) fun rest ↦ ?_
            rw [hloop, hextend, ok_bind, if_neg hroom]
        · rw [if_neg hcopy] at hadd
          refine hcrash .fault hadd fun hfits ↦ hcopy ?_
          have hmax := hfits.max
          have hroom := hfits.within
          have hcopied : copied agg ind = ind.number := by rw [copied]; omega
          rw [hcopied, hcounted (by omega)]
          exact ⟨Nat.le_refl _, .inr hroom⟩

/-! ### Exact aggregation -/

/-- The number of all PDUs of some indications. -/
def total (inds : List (Indication σ π)) : ℕ := (inds.map Indication.number).sum

@[simp] theorem total_nil : total ([] : List (Indication σ π)) = 0 := rfl

@[simp] theorem total_cons (ind : Indication σ π) (inds : List (Indication σ π)) :
    total (ind :: inds) = ind.number + total inds := by
  rw [total, List.map_cons, List.sum_cons, total]

@[simp] theorem total_append (front back : List (Indication σ π)) :
    total (front ++ back) = total front + total back := by
  rw [total, List.map_append, List.sum_append, total, total]

/-- The lists of all PDUs of some indications, one behind the other. -/
def allPdus (inds : List (Indication σ π)) : List π := inds.flatMap Indication.pduList

/-- Messages together with what they decode to. -/
def Decodes (a : Aggregator σ π) : List MessageBuffer → List (Indication σ π) → Prop :=
  List.Forall₂ fun msg ind ↦ msg.length ≤ rxIndDataMax ∧ a.unpack msg = .ok (some ind)

/-- The indications pass the checks and their PDUs fit behind `count` others. -/
structure FitsAll (a : Aggregator σ π) (count : ℕ) (inds : List (Indication σ π)) : Prop where
  checked : ∀ ind ∈ inds, a.check ind = .ok ()
  max : count + total inds ≤ indMaxPdu
  within : count + total inds ≤ a.room

theorem FitsAll.head {agg ind : Indication σ π} {inds : List (Indication σ π)}
    (h : a.FitsAll agg.number (ind :: inds)) : a.Fits agg ind := by
  have hmax := h.max
  have hwithin := h.within
  rw [total_cons] at hmax hwithin
  exact ⟨h.checked ind (List.mem_cons_self ..), by omega, by omega⟩

theorem FitsAll.tail {count : ℕ} {ind : Indication σ π} {inds : List (Indication σ π)}
    (h : a.FitsAll count (ind :: inds)) : a.FitsAll (count + ind.number) inds := by
  have hmax := h.max
  have hwithin := h.within
  rw [total_cons] at hmax hwithin
  exact ⟨fun i hi ↦ h.checked i (List.mem_cons_of_mem ind hi), by omega, by omega⟩

theorem FitsAll.cons {agg ind : Indication σ π} {inds : List (Indication σ π)}
    (hfits : a.Fits agg ind) (h : a.FitsAll (agg.number + ind.number) inds) :
    a.FitsAll agg.number (ind :: inds) := by
  have hmax := h.max
  have hwithin := h.within
  refine ⟨fun i hi ↦ ?_, by rw [total_cons]; omega, by rw [total_cons]; omega⟩
  rcases List.mem_cons.mp hi with rfl | hi
  · exact hfits.checked
  · exact h.checked i hi

/-- As many PDUs as the number says, for all indications. -/
theorem allPdus_length (hs : a.Sound) {msgs : List MessageBuffer} {inds : List (Indication σ π)}
    (hdecodes : a.Decodes msgs inds) (hmax : total inds ≤ indMaxPdu) :
    (allPdus inds).length = total inds := by
  induction hdecodes with
  | nil => rfl
  | @cons msg ind msgs inds hmsg _ ih =>
    rw [total_cons] at hmax
    have hhead := hs.counted msg ind hmsg.2 (by omega)
    unfold allPdus
    rw [List.flatMap_cons, List.length_append, hhead, total_cons]
    exact congrArg _ (ih (by omega))

/-- The aggregated indication has the right count and the PDUs of the group, cut at the maximum. -/
structure Exact (agg : Indication σ π) (inds : List (Indication σ π)) : Prop where
  count : agg.number = agg.pduList.length
  number : agg.number = min (total inds) indMaxPdu
  pdus : agg.pduList = (allPdus inds).take indMaxPdu

/-- If the messages up to the one that fills the list fit, the loop appends their PDUs. -/
theorem aggregateLoop_of_fitsAll (hs : a.Sound) {msgs : List MessageBuffer}
    {front : List (Indication σ π)} (hdecodes : a.Decodes msgs front) {agg : Indication σ π}
    (hagg : a.Growing agg) (hfits : a.FitsAll agg.number front) {rest : List MessageBuffer}
    (hrest : rest = [] ∨ agg.number + total front = indMaxPdu) :
    ∃ final, a.aggregateLoop agg (msgs ++ rest) = .ok (some final) ∧
      final.number = agg.number + total front ∧ final.pduList = agg.pduList ++ allPdus front := by
  induction hdecodes generalizing agg with
  | nil =>
    rcases hrest with rfl | hfull
    · exact ⟨agg, rfl, rfl, (List.append_nil _).symm⟩
    · exact absurd hfull (Nat.ne_of_lt hagg.below)
  | @cons msg ind msgs inds hmsg htail ih =>
    have hhead := hfits.head
    have hcounted := hs.counted msg ind hmsg.2 (by have := hhead.max; omega)
    have hassoc : agg.number + total (ind :: inds) = agg.number + ind.number + total inds := by
      rw [total_cons, Nat.add_assoc]
    rw [List.cons_append]
    cases loopStep hs hagg hmsg.1 with
    | refused hunpack hloop => rw [hmsg.2] at hunpack; cases hunpack
    | taken ind' hunpack _ hbelow hloop =>
      obtain rfl : ind = ind' := by simpa [hmsg.2] using hunpack
      obtain ⟨final, hrun, hnumber, hlist⟩ := ih (hagg.extend hs hmsg.2 hhead hbelow) hfits.tail
        (by rwa [hassoc] at hrest)
      refine ⟨final, by rw [hloop, hrun], by rw [hnumber, hassoc, extend], ?_⟩
      rw [hlist, extend, List.append_assoc, allPdus, allPdus, List.flatMap_cons]
    | filled ind' final hunpack _ _ hmax hnumber hlist _ hloop =>
      obtain rfl : ind = ind' := by simpa [hmsg.2] using hunpack
      -- the messages behind the one that fills the list have no PDUs
      have hsum := hfits.max
      rw [hassoc] at hsum
      have hempty : (allPdus inds).length = 0 := by
        rw [allPdus_length hs htail (by omega)]
        omega
      have hsize := hs.max_lt
      refine ⟨final, hloop _, ?_, ?_⟩
      · rw [hnumber, hassoc, Nat.mod_eq_of_lt (by omega)]
        omega
      · rw [hlist, List.take_of_length_le (by omega), allPdus, List.flatMap_cons, ← allPdus,
          List.length_eq_zero_iff.mp hempty, List.append_nil]
    | crashed _ _ hnot _ => exact absurd hhead (hnot ind hmsg.2)

/-- If the loop returns an indication whose count is the length of its list, then the messages up
to the one that fills the list fit. -/
theorem fitsAll_of_aggregateLoop (hs : a.Sound) {msgs : List MessageBuffer}
    {inds : List (Indication σ π)} (hdecodes : a.Decodes msgs inds) {agg final : Indication σ π}
    (hagg : a.Growing agg) (hrun : a.aggregateLoop agg msgs = .ok (some final))
    (hcount : final.number = final.pduList.length) :
    ∃ front back, inds = front ++ back ∧ a.FitsAll agg.number front ∧
      (back = [] ∨ agg.number + total front = indMaxPdu) := by
  induction hdecodes generalizing agg with
  | nil =>
    exact ⟨[], [], rfl, ⟨by simp, Nat.le_of_lt hagg.below, hagg.within⟩, .inl rfl⟩
  | @cons msg ind msgs inds hmsg htail ih =>
    cases loopStep hs hagg hmsg.1 with
    | refused hunpack hloop => rw [hmsg.2] at hunpack; cases hunpack
    | taken ind' hunpack hfits hbelow hloop =>
      obtain rfl : ind = ind' := by simpa [hmsg.2] using hunpack
      rw [hloop] at hrun
      obtain ⟨front, back, rfl, hall, hback⟩ := ih (hagg.extend hs hmsg.2 hfits hbelow) hrun
      refine ⟨ind :: front, back, rfl, .cons hfits hall, ?_⟩
      rw [total_cons, ← Nat.add_assoc]
      exact hback
    | filled ind' filled hunpack hcheck hroom hmax hnumber _ hfull hloop =>
      obtain rfl : ind = ind' := by simpa [hmsg.2] using hunpack
      rw [hloop] at hrun
      cases hrun
      -- the count is below twice its size, so it cannot wrap to the maximum
      have hexact : agg.number + ind.number = indMaxPdu := by
        have hbelow := hagg.below
        have hlt := hs.number_lt msg ind hmsg.2
        have hsize := hs.max_lt
        rw [hfull] at hcount
        rw [hcount] at hnumber
        by_cases hwrap : agg.number + ind.number < a.countSize
        · rw [hnumber, Nat.mod_eq_of_lt hwrap]
        · rw [Nat.mod_eq_sub_mod (by omega), Nat.mod_eq_of_lt (by omega)] at hnumber
          omega
      refine ⟨[ind], inds, rfl, ⟨fun i hi ↦ ?_, by simp [hexact], by simpa [hexact] using hroom⟩,
        .inr (by simp [hexact])⟩
      obtain rfl := List.mem_singleton.mp hi
      exact hcheck
    | crashed cause _ _ hloop =>
      rw [hloop] at hrun
      cases hrun

/-- A group of decodable messages, with what they decode to. -/
structure DecodedGroup (a : Aggregator σ π) where
  msgs : List MessageBuffer
  inds : List (Indication σ π)
  nonempty : msgs ≠ []
  decodes : a.Decodes msgs inds

theorem Decodes.readable (hs : a.Sound) {msgs : List MessageBuffer} {inds : List (Indication σ π)}
    (h : a.Decodes msgs inds) :
    ∀ msg ∈ msgs, msg.length ≤ rxIndDataMax ∧ a.radio.time msg ≠ none := by
  intro msg hmsg
  obtain ⟨ind, -, hlength, hunpack⟩ := Lib.TimedBatch.exists_related h hmsg
  exact ⟨hlength, hs.readable msg ind hunpack⟩

/-- The aggregator returns an exact indication exactly when the messages up to the one that fills
the list pass the checks and fit: all messages, or those with just as many PDUs as the maximum. -/
theorem aggregate_exact_iff (hs : a.Sound) (group : a.DecodedGroup) :
    (∃ agg, a.aggregate group.msgs = .ok (some agg) ∧ Exact agg group.inds) ↔
      ∃ front back, group.inds = front ++ back ∧ a.FitsAll 0 front ∧
        (back = [] ∨ total front = indMaxPdu) := by
  have hcall : a.aggregate group.msgs = a.aggregateLoop a.start group.msgs := by
    unfold aggregate
    rw [assert_of_true (List.length_pos_iff.mpr group.nonempty), ok_bind,
      hs.precheck _ (group.decodes.readable hs), ok_bind]
  constructor
  · rintro ⟨agg, hagg, hexact⟩
    rw [hcall] at hagg
    obtain ⟨front, back, hsplit, hfits, hback⟩ := fitsAll_of_aggregateLoop hs group.decodes
      (start_growing a) hagg hexact.count
    exact ⟨front, back, hsplit, hfits, by rwa [start, Nat.zero_add] at hback⟩
  · rintro ⟨front, back, hsplit, hfits, hback⟩
    have hdecodes := group.decodes
    rw [hsplit] at hdecodes
    have hfront := List.forall₂_take_append _ front back hdecodes
    have hrest := List.forall₂_drop_append _ front back hdecodes
    have hdone : group.msgs.drop front.length = [] ∨
        a.start.number + total front = indMaxPdu := by
      rcases hback with rfl | hfull
      · exact .inl (List.forall₂_nil_right_iff.mp hrest)
      · exact .inr (by rw [start, Nat.zero_add, hfull])
    obtain ⟨final, hrun, hnumber, hlist⟩ := aggregateLoop_of_fitsAll hs hfront (start_growing a)
      hfits hdone
    have hmax := hfits.max
    have hlength := allPdus_length hs hfront (by omega)
    unfold start at hnumber
    rw [Nat.zero_add] at hnumber
    unfold start at hlist
    rw [List.nil_append] at hlist
    refine ⟨final, by rw [hcall, ← hrun, List.take_append_drop], by rw [hnumber, hlist, hlength], ?_, ?_⟩
    · rw [hnumber, hsplit, total_append]
      rcases hback with rfl | hfull
      · rw [total_nil]
        omega
      · omega
    · rw [hlist, hsplit, allPdus, allPdus, List.flatMap_append]
      rcases hback with rfl | hfull
      · rw [List.flatMap_nil, List.append_nil, List.take_of_length_le (by rw [← allPdus]; omega)]
      · rw [List.take_left' (by rw [← allPdus]; omega)]

/-! ### Messages that cannot be decoded -/

/-- The loop gets behind the messages, with room left in the list. -/
def Passes (a : Aggregator σ π) (count : ℕ) (msgs : List MessageBuffer) : Prop :=
  ∃ inds, a.Decodes msgs inds ∧ a.FitsAll count inds ∧ count + total inds < indMaxPdu

theorem passes_nil {agg : Indication σ π} (hagg : a.Growing agg) : a.Passes agg.number [] :=
  ⟨[], .nil, ⟨by simp, Nat.le_of_lt hagg.below, hagg.within⟩, hagg.below⟩

theorem passes_cons_iff {agg ind : Indication σ π} {msg : MessageBuffer} {rest : List MessageBuffer}
    (hlength : msg.length ≤ rxIndDataMax) (hunpack : a.unpack msg = .ok (some ind))
    (hfits : a.Fits agg ind) :
    a.Passes agg.number (msg :: rest) ↔ a.Passes (agg.number + ind.number) rest := by
  constructor
  · rintro ⟨inds, hdecodes, hall, hbelow⟩
    obtain ⟨ind', inds, ⟨-, hind⟩, htail, rfl⟩ := List.forall₂_cons_left_iff.mp hdecodes
    obtain rfl : ind = ind' := by simpa [hunpack] using hind
    exact ⟨inds, htail, hall.tail, by rwa [total_cons, ← Nat.add_assoc] at hbelow⟩
  · rintro ⟨inds, hdecodes, hall, hbelow⟩
    exact ⟨ind :: inds, .cons ⟨hlength, hunpack⟩ hdecodes, .cons hfits hall,
      by rwa [total_cons, ← Nat.add_assoc]⟩

/-- Messages that the loop does not get behind decide its result. -/
theorem aggregateLoop_of_not_passes (hs : a.Sound) {msgs : List MessageBuffer}
    (hlength : ∀ msg ∈ msgs, msg.length ≤ rxIndDataMax) {agg : Indication σ π}
    (hagg : a.Growing agg) (hnot : ¬ a.Passes agg.number msgs) :
    ∃ r, ∀ rest, a.aggregateLoop agg (msgs ++ rest) = r := by
  induction msgs generalizing agg with
  | nil => exact absurd (passes_nil hagg) hnot
  | cons msg msgs ih =>
    have hmsg := hlength msg (List.mem_cons_self ..)
    cases loopStep hs hagg hmsg with
    | refused _ hloop => exact ⟨_, fun rest ↦ hloop (msgs ++ rest)⟩
    | taken ind hunpack hfits hbelow hloop =>
      rw [passes_cons_iff hmsg hunpack hfits] at hnot
      obtain ⟨r, hr⟩ := ih (fun m hm ↦ hlength m (List.mem_cons_of_mem msg hm))
        (hagg.extend hs hunpack hfits hbelow) hnot
      exact ⟨r, fun rest ↦ (hloop (msgs ++ rest)).trans (hr rest)⟩
    | filled _ _ _ _ _ _ _ _ _ hloop => exact ⟨_, fun rest ↦ hloop (msgs ++ rest)⟩
    | crashed _ _ _ hloop => exact ⟨_, fun rest ↦ hloop (msgs ++ rest)⟩

/-- Behind messages that it gets behind, the loop goes on with a longer list. -/
theorem aggregateLoop_of_passes (hs : a.Sound) {msgs : List MessageBuffer}
    {agg : Indication σ π} (hagg : a.Growing agg) (hpasses : a.Passes agg.number msgs) :
    ∃ next, a.Growing next ∧
      (∀ rest, a.aggregateLoop agg (msgs ++ rest) = a.aggregateLoop next rest) ∧
      ∀ rest, a.Passes agg.number (msgs ++ rest) ↔ a.Passes next.number rest := by
  induction msgs generalizing agg with
  | nil => exact ⟨agg, hagg, fun _ ↦ rfl, fun _ ↦ Iff.rfl⟩
  | cons msg msgs ih =>
    obtain ⟨inds, hdecodes, hall, hbelow⟩ := hpasses
    obtain ⟨ind, inds, ⟨hmsg, hunpack⟩, htail, rfl⟩ := List.forall₂_cons_left_iff.mp hdecodes
    have hfits := hall.head
    rw [total_cons, ← Nat.add_assoc] at hbelow
    obtain ⟨next, hnext, hrun, hmore⟩ := ih
      (hagg.extend hs hunpack hfits (by omega)) ⟨inds, htail, hall.tail, hbelow⟩
    refine ⟨next, hnext, fun rest ↦ ?_, fun rest ↦ ?_⟩
    · cases loopStep hs hagg hmsg with
      | refused hnone _ => rw [hunpack] at hnone; cases hnone
      | taken ind' hind _ _ hloop =>
        obtain rfl : ind = ind' := by simpa [hunpack] using hind
        exact (hloop (msgs ++ rest)).trans (hrun rest)
      | filled ind' _ hind _ _ hmax _ _ _ _ =>
        obtain rfl : ind = ind' := by simpa [hunpack] using hind
        omega
      | crashed _ _ hnot _ => exact absurd hfits (hnot ind hunpack)
    · rw [List.cons_append, passes_cons_iff hmsg hunpack hfits]
      exact hmore rest

/-- The loop ends without an indication exactly when it reaches a message that cannot be decoded. -/
theorem aggregateLoop_eq_none_iff (hs : a.Sound) {msgs : List MessageBuffer}
    (hlength : ∀ msg ∈ msgs, msg.length ≤ rxIndDataMax) {agg : Indication σ π}
    (hagg : a.Growing agg) :
    a.aggregateLoop agg msgs = .ok none ↔
      ∃ front bad back, msgs = front ++ bad :: back ∧ a.Passes agg.number front ∧
        a.unpack bad = .ok none := by
  constructor
  · intro hrun
    induction msgs generalizing agg with
    | nil => cases hrun
    | cons msg msgs ih =>
      have hmsg := hlength msg (List.mem_cons_self ..)
      cases loopStep hs hagg hmsg with
      | refused hunpack _ => exact ⟨[], msg, msgs, rfl, passes_nil hagg, hunpack⟩
      | taken ind hunpack hfits hbelow hloop =>
        obtain ⟨front, bad, back, rfl, hpasses, hbad⟩ := ih
          (fun m hm ↦ hlength m (List.mem_cons_of_mem msg hm))
          (hagg.extend hs hunpack hfits hbelow) (by rw [← hloop]; exact hrun)
        exact ⟨msg :: front, bad, back, rfl, (passes_cons_iff hmsg hunpack hfits).mpr hpasses, hbad⟩
      | filled _ _ _ _ _ _ _ _ _ hloop => rw [hloop] at hrun; cases hrun
      | crashed _ _ _ hloop => rw [hloop] at hrun; cases hrun
  · rintro ⟨front, bad, back, rfl, hpasses, hbad⟩
    obtain ⟨next, hnext, hrun, -⟩ := aggregateLoop_of_passes hs hagg hpasses
    have hlast := hlength bad (by simp)
    rw [hrun, aggregateLoop, assert_of_true hlast, ok_bind, hbad, ok_bind]
    rfl

/-- What is sent for a group whose messages are as the dequeue functions deliver them. -/
theorem forward_of_ne_nil (hs : a.Sound) {msgs : List MessageBuffer} (hne : msgs ≠ [])
    (hdelivered : ∀ msg ∈ msgs, msg.length ≤ rxIndDataMax ∧ a.radio.time msg ≠ none) :
    a.forward msgs = a.aggregateLoop a.start msgs >>= fun
      | none => .ok none
      | some agg => a.send agg >>= fun ind ↦ .ok (some ind) := by
  unfold forward
  rw [if_neg hne, run, aggregate, assert_of_true (List.length_pos_iff.mpr hne), ok_bind,
    hs.precheck msgs hdelivered, ok_bind]
  rfl

/-- Only a loop that ends without an indication sends nothing. -/
theorem bind_send_eq_none_iff {r : Outcome (Option (Indication σ π))} :
    (r >>= fun
      | none => .ok none
      | some agg => a.send agg >>= fun ind ↦ .ok (some ind)) = .ok none ↔ r = .ok none := by
  cases r with
  | error cause => simp
  | ok decoded =>
    cases decoded with
    | none => simp
    | some agg =>
      simp only [ok_bind, Except.ok.injEq, reduceCtorEq, iff_false]
      intro h
      obtain ⟨ind, -, hind⟩ := bind_eq_ok.mp h
      cases hind

/-- The same is sent with and without the message `bad` that cannot be decoded exactly when the
aggregator does not reach it, or the group has no other message, or the aggregator reaches another
message that cannot be decoded anyway. -/
theorem forward_insert_iff (hs : a.Sound) {front back : List MessageBuffer} {bad : MessageBuffer}
    (hbad : a.unpack bad = .ok none)
    (hdelivered : ∀ msg ∈ front ++ bad :: back,
      msg.length ≤ rxIndDataMax ∧ a.radio.time msg ≠ none) :
    a.forward (front ++ bad :: back) = a.forward (front ++ back) ↔
      ¬ a.Passes 0 front ∨ front ++ back = [] ∨
      ∃ between worse rest, back = between ++ worse :: rest ∧
        a.Passes 0 (front ++ between) ∧ a.unpack worse = .ok none := by
  have hothers : ∀ msg ∈ front ++ back, msg.length ≤ rxIndDataMax ∧ a.radio.time msg ≠ none :=
    fun msg hmsg ↦ hdelivered msg (by
      rcases List.mem_append.mp hmsg with hmem | hmem
      · exact List.mem_append_left _ hmem
      · exact List.mem_append_right _ (List.mem_cons_of_mem bad hmem))
  have hlength : ∀ msg ∈ front ++ back, msg.length ≤ rxIndDataMax := fun msg hmsg ↦
    (hothers msg hmsg).1
  have hstart := start_growing a
  rw [forward_of_ne_nil hs (by simp) hdelivered]
  by_cases hpasses : a.Passes 0 front
  · obtain ⟨next, hnext, hrun, hmore⟩ := aggregateLoop_of_passes hs hstart hpasses
    have hnone : a.aggregateLoop a.start (front ++ bad :: back) = .ok none := by
      rw [hrun, aggregateLoop, assert_of_true (hdelivered bad (by simp)).1, ok_bind, hbad, ok_bind]
      rfl
    rw [hnone, ok_bind]
    by_cases hempty : front ++ back = []
    · simp [hempty, forward]
    · have hback := aggregateLoop_eq_none_iff hs
        (fun msg hmsg ↦ hlength msg (List.mem_append_right front hmsg)) hnext
      have hreached : a.aggregateLoop next back = .ok none ↔
          ∃ between worse rest, back = between ++ worse :: rest ∧
            a.Passes 0 (front ++ between) ∧ a.unpack worse = .ok none := by
        rw [hback]
        refine exists_congr fun between ↦ exists_congr fun worse ↦ exists_congr fun rest ↦ ?_
        rw [← hmore between]
        rfl
      rw [forward_of_ne_nil hs hempty hothers, hrun, eq_comm, bind_send_eq_none_iff, hreached]
      simp only [hpasses, not_true_eq_false, hempty, false_or]
  · obtain ⟨r, hr⟩ := aggregateLoop_of_not_passes hs
      (fun msg hmsg ↦ hlength msg (List.mem_append_left back hmsg)) hstart hpasses
    have hne : front ++ back ≠ [] := by
      intro h
      obtain ⟨rfl, -⟩ := List.append_eq_nil_iff.mp h
      exact hpasses (passes_nil hstart)
    rw [forward_of_ne_nil hs hne hothers, hr, hr]
    simp [hpasses]

/-! ### Groups without a crash -/

/-- A group on which the aggregator does not crash. Either it gets to a message that cannot be
decoded, and returns. Or the messages up to the one that fills the list, or all of them, pass the
checks, fit and have PDUs that can be packed. -/
inductive Harmless (a : Aggregator σ π) (msgs : List MessageBuffer) : Prop where
  | refused (front : List MessageBuffer) (bad : MessageBuffer) (back : List MessageBuffer)
    (hsplit : msgs = front ++ bad :: back) (hpasses : a.Passes 0 front)
    (hbad : a.unpack bad = .ok none)
  | aggregated (front : List MessageBuffer) (inds : List (Indication σ π))
    (back : List MessageBuffer) (hsplit : msgs = front ++ back) (hdecodes : a.Decodes front inds)
    (hfits : a.FitsAll 0 inds) (hback : back = [] ∨ total inds = indMaxPdu)
    (hpacks : ∀ pdu ∈ allPdus inds, a.packs pdu = true)

/-- For a harmless group of delivered messages the aggregator and the sending function return. -/
theorem forward_of_harmless (hs : a.Sound) {msgs : List MessageBuffer}
    (hdelivered : ∀ msg ∈ msgs, msg.length ≤ rxIndDataMax ∧ a.radio.time msg ≠ none)
    (hharmless : a.Harmless msgs) : ∃ sent, a.forward msgs = .ok sent := by
  by_cases hempty : msgs = []
  · exact ⟨none, if_pos hempty⟩
  have hstart := start_growing a
  rw [forward_of_ne_nil hs hempty hdelivered]
  cases hharmless with
  | refused front bad back hsplit hpasses hbad =>
    have hnone : a.aggregateLoop a.start msgs = .ok none :=
      (aggregateLoop_eq_none_iff hs (fun msg hmsg ↦ (hdelivered msg hmsg).1) hstart).mpr
        ⟨front, bad, back, hsplit, hpasses, hbad⟩
    exact ⟨none, by rw [hnone]; rfl⟩
  | aggregated front inds back hsplit hdecodes hfits hback hpacks =>
    have hdone : back = [] ∨ a.start.number + total inds = indMaxPdu := by
      rwa [start, Nat.zero_add]
    obtain ⟨final, hrun, hnumber, hlist⟩ := aggregateLoop_of_fitsAll hs hdecodes hstart hfits hdone
    have hmax : ¬ final.number > indMaxPdu := by
      rw [hnumber]
      exact Nat.not_lt.mpr hfits.max
    have hall : final.pduList.all a.packs = true := by
      rw [hlist, start, List.nil_append]
      exact List.all_eq_true.mpr hpacks
    rw [hsplit, hrun, ok_bind]
    exact ⟨_, by simp only [send, if_neg hmax, if_pos hall, ok_bind]; rfl⟩

/-! ### Termination -/

/-- No part of the aggregator runs for ever. -/
structure Ending (a : Aggregator σ π) : Prop where
  unpack : ∀ msg, Ends (a.unpack msg)
  precheck : ∀ msgs, Ends (a.precheck msgs)
  check : ∀ ind, Ends (a.check ind)
  tooMany : a.tooMany ≠ .diverge

theorem copyPdus_ends (room count : ℕ) (source pduList : List π) :
    Ends (copyPdus room count source pduList) := by
  induction count generalizing source pduList with
  | zero => exact ends_ok _
  | succ count ih =>
    cases source with
    | nil =>
      rw [copyPdus]
      split_ifs
      · exact ends_ok _
      · exact ends_error fun h ↦ by cases h
    | cons pdu source =>
      rw [copyPdus]
      split_ifs
      · exact ends_ok _
      · exact ih source (pduList ++ [pdu])
      · exact ends_error fun h ↦ by cases h

theorem Ending.addMessage (h : a.Ending) (agg ind : Indication σ π) :
    Ends (a.addMessage agg ind) :=
  (h.check ind).bind fun _ ↦ (copyPdus_ends _ _ _ _).bind fun _ ↦ ends_ok _

theorem Ending.aggregateLoop (h : a.Ending) (agg : Indication σ π) (msgs : List MessageBuffer) :
    Ends (a.aggregateLoop agg msgs) := by
  induction msgs generalizing agg with
  | nil => exact ends_ok _
  | cons msg msgs ih =>
    refine (ends_assert _).bind fun _ ↦ (h.unpack msg).bind fun decoded ↦ ?_
    cases decoded with
    | none => exact ends_ok none
    | some ind =>
      refine (h.addMessage agg ind).bind fun next ↦ ?_
      split_ifs
      · exact ends_ok _
      · exact ih next

theorem Ending.send (h : a.Ending) (ind : Indication σ π) : Ends (a.send ind) := by
  rw [Aggregator.send]
  split_ifs
  · exact ends_error h.tooMany
  · exact ends_ok _
  · exact ends_error fun h ↦ by cases h

/-- The whole aggregator returns or crashes after finitely many steps. -/
theorem Ending.run (h : a.Ending) (msgs : List MessageBuffer) : Ends (a.run msgs) := by
  refine ((ends_assert _).bind fun _ ↦ (h.precheck msgs).bind fun _ ↦
    h.aggregateLoop a.start msgs).bind fun aggregated ↦ ?_
  cases aggregated with
  | none => exact ends_ok none
  | some agg => exact (h.send agg).bind fun _ ↦ ends_ok _

end Aggregator

end MultiUeProxy.Uplink.Aggregation
