import MultiUeProxy.Clock.NodeSync
import MultiUeProxy.Clock.VnfSync

/-!
# A connection in sync

In sync the clock of a connection is no longer set, and the subframes move it alone. It stays so for
as long as each answer shows an offset of a second at most, and the MAC is told of each subframe
once (`inSync_subframes`). `smoothed_toInt` is the filter of the offset in numbers: seven parts of
the old value and one of the new, rounded down.

The times of an exchange start again at zero every 10.24 seconds. What is added to make up for it is
10240, the subframes of the cycle, where the times are in microseconds. So an exchange in which one
clock has begun a new cycle and the other has not shows an offset of many seconds, and that takes
the connection out of sync (`straddle_leaves_sync`).
-/

set_option autoImplicit false
set_option relaxedAutoImplicit false

namespace MultiUeProxy.Clock.InSync

open Lib.Execution Lib.CyclicClock FrameClocks NodeSync VnfSync

/-! ### The filter -/

/-- A number of microseconds of one second at most, either way. -/
def WithinSecond (x : Int32) : Prop := -1000000 ≤ x.toInt ∧ x.toInt ≤ 1000000

instance (x : Int32) : Decidable (WithinSecond x) := inferInstanceAs (Decidable (_ ∧ _))

theorem shiftLeft_five (x : Int32) : x <<< 5 = x * 32 := by
  apply Int32.toBitVec_inj.mp
  exact BitVec.shiftLeft_eq_mul_twoPow x.toBitVec 5

theorem toInt_shiftRight_three (x : Int32) : (x >>> 3).toInt = x.toInt / 8 := by
  show (x.toBitVec.sshiftRight 3).toInt = _
  rw [BitVec.toInt_sshiftRight, Int.shiftRight_eq_div_pow]
  rfl

theorem toInt_shiftRight_five (x : Int32) : (x >>> 5).toInt = x.toInt / 32 := by
  show (x.toBitVec.sshiftRight 5).toInt = _
  rw [BitVec.toInt_sshiftRight, Int.shiftRight_eq_div_pow]
  rfl

/-- The filter takes one part of the new value and seven of the old, as long as none overflows. -/
theorem smoothed_toInt {old new : Int32} (hold : -9000000 ≤ old.toInt ∧ old.toInt ≤ 9000000)
    (hnew : -60000000 ≤ new.toInt ∧ new.toInt ≤ 60000000) :
    (smoothed old new).toInt = (new.toInt + 7 * old.toInt) / 8 := by
  have hthirtyTwo : (32 : Int32).toInt = 32 := rfl
  have hseven : (7 : Int32).toInt = 7 := rfl
  unfold smoothed
  simp only [shiftLeft_five, toInt_shiftRight_five, Int32.toInt_add, toInt_shiftRight_three,
    Int32.toInt_mul, hthirtyTwo, hseven]
  rw [bmod_of_mem (z := new.toInt * 32) (by omega) (by omega),
    bmod_of_mem (z := old.toInt * 32) (by omega) (by omega),
    bmod_of_mem (z := old.toInt * 32 * 7) (by omega) (by omega), bmod_of_mem (by omega) (by omega)]
  omega

/-! ### Answers in sync -/

section Synced

variable {τ : Type} {v : Variant τ} {phy : P7ConnectionInfo τ} {s : VnfP7 τ}

theorem tooBad_iff : TooBad phy ↔ phy.filteredAdjust ∧ ¬ WithinSecond phy.offsetFiltered := by
  have hpos : (1000000 : Int32).toInt = 1000000 := rfl
  have hneg : (-1000000 : Int32).toInt = -1000000 := rfl
  unfold TooBad WithinSecond
  rw [Int32.lt_iff_toInt_lt, Int32.lt_iff_toInt_lt, hpos, hneg]
  exact and_congr_right fun _ ↦ by omega

/-- The offset that an answer shows is one second at most. -/
def CalmAnswer (v : Variant τ) (s : VnfP7 τ) : Event → Prop
  | .answer nowTimeHr ind =>
    WithinSecond (offsetOf v s.phy ind
      (latencyOf v (calculateT4 v nowTimeHr s.phy.clock s.startTimeHr) ind))
  | .subframe _ _ => True

theorem noteOffset_within {ind : UlNodeSync} {latency : UInt32}
    (hold : WithinSecond phy.offsetFiltered) (hnew : WithinSecond (offsetOf v phy ind latency)) :
    WithinSecond (noteOffset v phy ind latency).offsetFiltered := by
  unfold noteOffset
  split
  case isFalse => exact hold
  show WithinSecond (if phy.offsetFiltered = 0 then _ else _)
  split
  · exact hnew
  · unfold WithinSecond at *
    rw [smoothed_toInt (by omega) (by omega)]
    omega

/-- What is known of a connection in sync. -/
structure Synced (phy : P7ConnectionInfo τ) : Prop where
  inSync : phy.inSync
  known : (control phy).Known
  within : WithinSecond phy.offsetFiltered

theorem inSync_levelStep (hin : phy.inSync) (hfiltered : phy.filteredAdjust) :
    (levelStep phy).inSync := by
  unfold levelStep fineStep
  rw [if_pos hfiltered]
  split_ifs
  · exact (congrArg Control.inSync control_minorStep).trans rfl
  · exact (congrArg Control.inSync control_minorStep).trans hin
  · exact (congrArg Control.inSync control_majorStep).trans hin

theorem inSync_endCycle (hin : phy.inSync) (hfiltered : phy.filteredAdjust) (ind : UlNodeSync) :
    (endCycle v phy ind).inSync := by
  let noted := noteAdjustment v (cycleTicks v phy ind).1
    (movedClock v (cycleTicks v phy ind).1.clock (cycleTicks v phy ind).2)
  have hnoted : control noted = control phy := control_cycleTicks ind
  have hlevel : (levelStep noted).inSync := by
    apply inSync_levelStep
    · exact (congrArg Control.inSync hnoted).trans hin
    · exact (congrArg Control.filtered hnoted).trans hfiltered
  exact (congrArg Control.inSync (control_resetCycle_setClock _)).trans hlevel

/-- The countdown and the end of a cycle leave a connection in sync. -/
theorem synced_countDown (h : Synced phy) (ind : UlNodeSync) :
    Synced (countDown v phy ind) ∧ (countDown v phy ind).clock = phy.clock := by
  have hturn := countDown_turn (v := v) h.known.zero_le ind
  have hknown := h.known.turn hturn
  by_cases hle : phy.minSyncCycleCount.toNat ≤ 1
  · have hin : (countDown v phy ind).inSync := by
      rw [countDown_of_le_one hle]
      have hfiltered : phy.filteredAdjust := h.known.filtered h.inSync
      apply inSync_endCycle
      · exact h.inSync
      · exact hfiltered
    refine ⟨⟨hin, hknown, ?_⟩, clock_countDown ind hin⟩
    rw [countDown_of_le_one hle]
    show WithinSecond 0
    decide
  · rw [countDown_of_two_le (by omega)] at *
    exact ⟨⟨h.inSync, hknown, h.within⟩, rfl⟩

/-- An answer that shows a second at most leaves a connection in sync, and its clock alone. -/
theorem synced_handle (h : Synced phy) {startTimeHr nowTimeHr : UInt32} {ind : UlNodeSync}
    (hcalm : CalmAnswer v ⟨startTimeHr, phy⟩ (.answer nowTimeHr ind)) :
    ∃ next, vnfHandleUlNodeSync v phy startTimeHr nowTimeHr ind = .ok next ∧ Synced next ∧
      next.clock = phy.clock := by
  obtain ⟨slots, average, hnext⟩ := handle_eq (v := v) h.known.count_le startTimeHr nowTimeHr ind
  let stored : P7ConnectionInfo τ := { phy with latency := slots, averageLatency := average }
  let latency := latencyOf v (calculateT4 v nowTimeHr phy.clock startTimeHr) ind
  have hnoted : control (noteOffset v stored ind latency) = control phy :=
    control_noteOffset ind latency
  have hwithin : WithinSecond (noteOffset v stored ind latency).offsetFiltered :=
    noteOffset_within h.within hcalm
  have hgood : ¬ TooBad (noteOffset v stored ind latency) :=
    fun hbad ↦ (tooBad_iff.mp hbad).2 hwithin
  have hsynced : Synced (noteOffset v stored ind latency) :=
    ⟨(congrArg Control.inSync hnoted).trans h.inSync, hnoted ▸ h.known, hwithin⟩
  have hcounted := synced_countDown (v := v) hsynced ind
  rw [← takeOffset_of_not_tooBad hgood] at hcounted
  refine ⟨_, hnext, hcounted.1, hcounted.2.trans ?_⟩
  rw [takeOffset_of_not_tooBad hgood, clock_noteOffset]

/-- The filtered offset is kept in filtered mode only as long as it is a second at most. -/
def Tame (phy : P7ConnectionInfo τ) : Prop :=
  (control phy).Known ∧ (phy.filteredAdjust → WithinSecond phy.offsetFiltered)

theorem tame_countDown (hgood : ¬ TooBad phy) (ind : UlNodeSync) :
    (countDown v phy ind).filteredAdjust → WithinSecond (countDown v phy ind).offsetFiltered := by
  intro hfiltered
  by_cases hle : phy.minSyncCycleCount.toNat ≤ 1
  · rw [countDown_of_le_one hle]
    show WithinSecond 0
    decide
  · rw [countDown_of_two_le (by omega)] at *
    apply Classical.byContradiction
    intro hfar
    exact hgood (tooBad_iff.mpr ⟨hfiltered, hfar⟩)

/-- Whatever an answer shows. -/
theorem tame_handle (h : Tame phy) (startTimeHr nowTimeHr : UInt32) (ind : UlNodeSync) :
    ∃ next, vnfHandleUlNodeSync v phy startTimeHr nowTimeHr ind = .ok next ∧ Tame next := by
  obtain ⟨next, hok, hturn⟩ := handle_turn (v := v) h.1 startTimeHr nowTimeHr ind
  obtain ⟨slots, average, hnext⟩ := handle_eq (v := v) h.1.count_le startTimeHr nowTimeHr ind
  let stored : P7ConnectionInfo τ := { phy with latency := slots, averageLatency := average }
  let latency := latencyOf v (calculateT4 v nowTimeHr phy.clock startTimeHr) ind
  refine ⟨next, hok, h.1.turn hturn, ?_⟩
  have hcounted : next = countDown v (takeOffset v stored ind latency) ind :=
    Except.ok.inj (hok.symm.trans hnext)
  by_cases hbad : TooBad (noteOffset v stored ind latency)
  · intro hfiltered
    have hout := congrArg Control.filtered (control_of_tooBad hbad)
    rw [← hcounted] at hout
    exact absurd (hout.symm.trans hfiltered) Bool.false_ne_true
  · rw [hcounted, takeOffset_of_not_tooBad hbad]
    exact tame_countDown hbad ind

theorem clock_minorAdjustment : (minorAdjustment phy).2.clock = phy.clock := by
  obtain ⟨_, _, h⟩ := minorAdjustment_eq phy
  rw [h]

/-- The change of the length of a subframe leaves the rest alone. -/
theorem synced_minorAdjustment (h : Synced phy) : Synced (minorAdjustment phy).2 := by
  obtain ⟨_, _, heq⟩ := minorAdjustment_eq phy
  rw [heq]
  exact ⟨h.inSync, h.known, h.within⟩

theorem tame_minorAdjustment (h : Tame phy) : Tame (minorAdjustment phy).2 := by
  obtain ⟨_, _, heq⟩ := minorAdjustment_eq phy
  rw [heq]
  exact h

theorem tame_step {event : Event} {output : Output τ} {next : VnfP7 τ} (h : Tame s.phy)
    (hstep : step v s event = .ok (output, next)) : Tame next.phy := by
  cases event with
  | answer nowTimeHr ind =>
    obtain ⟨phy, hphy, hkept⟩ := tame_handle (v := v) h s.startTimeHr nowTimeHr ind
    obtain ⟨phy', hphy', hpair⟩ := bind_eq_ok.mp hstep
    cases hpair
    cases hphy.symm.trans hphy'
    exact hkept
  | subframe nowTimeHr sendTimeHr =>
    cases hstep
    exact tame_minorAdjustment h

/-- What is known of every connection, whatever the answers to it. -/
theorem tame_run {startTimeHr : UInt32} {clock : τ} {events : List Event}
    {outputs : List (Output τ)}
    (hrun : runAll (step v) ⟨startTimeHr, addPnf clock⟩ events = .ok (outputs, s)) :
    Tame s.phy := by
  have hstart : Tame (VnfP7.mk startTimeHr (addPnf clock)).phy :=
    ⟨known_addPnf clock, fun hfiltered ↦ absurd hfiltered Bool.false_ne_true⟩
  have hkeep (_ : List (Output τ)) (s : VnfP7 τ) (event : Event) (output : Output τ)
      (next : VnfP7 τ) (h : Tame s.phy) (hstep : step v s event = .ok (output, next)) :
      Tame next.phy := tame_step h hstep
  exact @runAll_history _ _ _ _ _ hkeep events [] outputs _ s hstart hrun

end Synced

/-! ### The subframes of a connection in sync -/

section Subframes

variable {s : VnfP7 UInt16} (t : Time lteDial)

/-- The mask of `increment_sfn_sf` takes the frame back to zero. -/
theorem and_mask (frame : ℕ) :
    (frame * 16 + 9) &&& 0x3FF0 = frame % 1024 * 16 := by
  have hdiv : ((frame * 16 + 9) &&& 0x3FF0) / 2 ^ 4 = frame % 1024 := by
    rw [Nat.and_div_two_pow, ← Nat.and_two_pow_sub_one_eq_mod frame 10]
    congr 1
    omega
  have hmod : ((frame * 16 + 9) &&& 0x3FF0) % 2 ^ 4 = 0 := by
    rw [Nat.and_mod_two_pow]
    show _ &&& 0 = 0
    rw [Nat.and_zero]
  omega

/-- `increment_sfn_sf` makes the step of the dial. -/
theorem incrementSfnSf_eq : incrementSfnSf (wordOf 4 t) = wordOf 4 t.next := by
  have hframe := lteDial_fits.frame_lt t
  have htick : t.tick < 10 := t.tick_lt
  have hsf : (wordOf 4 t &&& 0xF).toNat = t.tick := lteDial_fits.word_and t rfl
  have hword : (wordOf 4 t).toNat = t.frame * 16 + t.tick := lteDial_fits.wordOf_toNat t
  have hnine : wordOf 4 t &&& 0xF = 9 ↔ t.tick = 9 := by rw [← UInt16.toNat_inj, hsf]; rfl
  have hover : ¬ 9 < wordOf 4 t &&& 0xF := by
    rw [UInt16.lt_iff_toNat_lt, hsf]
    show ¬ 9 < t.tick
    omega
  have hnext := lteDial_fits.wordOf_toNat t.next
  rw [Time.next_eq_advance] at *
  unfold Time.packed at hnext
  rw [Time.advance_frame, Time.advance_tick] at hnext
  apply UInt16.toNat_inj.mp
  rw [hnext]
  show _ = (t.frame + (t.tick + 1) / 10) % 1024 * 16 + (t.tick + 1) % 10
  unfold incrementSfnSf
  by_cases hlast : t.tick = 9
  · have hsum : (wordOf 4 t + 0x10).toNat = (t.frame + 1) * 16 + 9 := by
      rw [UInt16.toNat_add, hword]
      show (t.frame * 16 + t.tick + 16) % 65536 = _
      omega
    rw [if_pos (hnine.mpr hlast), UInt16.toNat_and, hsum]
    show _ &&& 0x3FF0 = _
    rw [and_mask, hlast]
    omega
  · rw [if_neg (mt hnine.mp hlast), if_neg hover, UInt16.toNat_add, hword]
    show (t.frame * 16 + t.tick + 1) % 65536 = _
    omega

/-- In sync a node sync is sent every 512 subframes. -/
theorem vnfSync_isSome_iff (hin : s.phy.inSync) (hclock : s.phy.clock = wordOf 4 t)
    (sendTimeHr : UInt32) :
    (vnfSync lteVariant s sendTimeHr).isSome ↔ t.decimal % 512 = 482 := by
  have hlt : t.decimal < 10240 := t.decimal_lt
  have hdec : (lteVariant.dec s.phy.clock).toUInt32.toUInt16.toNat = t.decimal := by
    have hnat := toUInt16_toNat (lteVariant.dec s.phy.clock)
    have hint : (lteVariant.dec s.phy.clock).toInt = t.decimal := by
      show (Int32.ofNat (Downlink.SubframeBuffer.sfnSf2Dec s.phy.clock)).toInt = _
      rw [hclock, sfnSf2Dec_eq, Int32.toInt_ofNat_of_lt (by omega)]
    omega
  have hmask : (t.decimal + 30) % 10240 &&& 511 = (t.decimal + 30) % 10240 % 512 :=
    Nat.and_two_pow_sub_one_eq_mod _ 9
  have hplace : lteVariant.wrapped ((lteVariant.dec s.phy.clock).toUInt32.toUInt16.toNat +
      dlSyncOffset) &&& (dlSyncPeriod s.phy - 1) = (t.decimal + 30) % 10240 % 512 := by
    rw [hdec, dlSyncPeriod, if_pos hin, ← hmask]
    rfl
  unfold vnfSync
  simp only [hplace]
  split_ifs with hzero
  · refine iff_of_true rfl ?_
    omega
  · refine iff_of_false Bool.false_ne_true ?_
    omega

/-- A subframe as the MAC is told of it, and whether a node sync goes out in it. -/
def told (output : Output UInt16) : Option (UInt16 × Bool) :=
  output.subframeIndication.map fun sfnSf ↦ (sfnSf, output.nodeSync.isSome)

/-- The subframes that are to follow a time. -/
def following (t : Time lteDial) (count : ℕ) : List (UInt16 × Bool) :=
  (List.range count).map fun i ↦
    (wordOf 4 (t.advance (i + 1)), decide ((t.advance (i + 1)).decimal % 512 = 482))

theorem following_succ (count : ℕ) :
    following t (count + 1) = (wordOf 4 t.next, decide (t.next.decimal % 512 = 482)) ::
      following t.next count := by
  unfold following
  rw [List.range_succ_eq_map, List.map_cons, List.map_map, Time.next_eq_advance]
  congr 1
  apply List.map_congr_left
  intro i _
  show (wordOf 4 (t.advance (i + 1 + 1)), _) = _
  rw [Time.advance_advance, Nat.add_comm 1 (i + 1)]

/-- One round of the loop in sync. -/
theorem synced_step (h : Synced s.phy) (hclock : s.phy.clock = wordOf 4 t) (event : Event)
    (hcalm : CalmAnswer lteVariant s event) :
    ∃ output next, step lteVariant s event = .ok (output, next) ∧ Synced next.phy ∧
      if event.isAnswer then next.phy.clock = wordOf 4 t ∧ told output = none
      else next.phy.clock = wordOf 4 t.next ∧
        told output = some (wordOf 4 t.next, decide (t.next.decimal % 512 = 482)) := by
  cases event with
  | answer nowTimeHr ind =>
    obtain ⟨phy, hphy, hsynced, hkept⟩ := synced_handle h hcalm
    refine ⟨{}, { s with phy }, ?_, hsynced, hkept.trans hclock, rfl⟩
    show (vnfHandleUlNodeSync _ s.phy s.startTimeHr nowTimeHr ind >>= _) = _
    rw [hphy, ok_bind]
  | subframe nowTimeHr sendTimeHr =>
    have hsynced := synced_minorAdjustment h
    have hnext : incrementSfnSf (minorAdjustment s.phy).2.clock = wordOf 4 t.next := by
      rw [clock_minorAdjustment, hclock, incrementSfnSf_eq]
    let next : VnfP7 UInt16 :=
      ⟨nowTimeHr, { (minorAdjustment s.phy).2 with
        clock := incrementSfnSf (minorAdjustment s.phy).2.clock }⟩
    have hin : next.phy.inSync := hsynced.inSync
    refine ⟨_, next, rfl, ⟨hin, hsynced.known, hsynced.within⟩, hnext, ?_⟩
    have hsent := vnfSync_isSome_iff (s := next) t.next hin hnext sendTimeHr
    have htold : sendMacSubframeIndications next.phy = some (wordOf 4 t.next) :=
      (if_pos hin).trans (congrArg some hnext)
    show (sendMacSubframeIndications next.phy).map
      (fun sfnSf ↦ (sfnSf, (vnfSync lteVariant next sendTimeHr).isSome)) = _
    rw [htold, Option.map_some, Bool.eq_iff_iff.mpr (hsent.trans decide_eq_true_iff.symm)]

/-- The subframes among the events. -/
def subframesOf (events : List Event) : ℕ := events.countP (!·.isAnswer)

theorem synced_run (events : List Event) (h : Synced s.phy) (hclock : s.phy.clock = wordOf 4 t)
    (hcalm : AlongRun (step lteVariant) (CalmAnswer lteVariant) s events) :
    ∃ outputs last, runAll (step lteVariant) s events = .ok (outputs, last) ∧
      last.phy.inSync ∧ last.phy.clock = wordOf 4 (t.advance (subframesOf events)) ∧
      outputs.filterMap told = following t (subframesOf events) := by
  induction events generalizing s t with
  | nil =>
    refine ⟨[], s, rfl, h.inSync, ?_, rfl⟩
    rw [hclock]
    exact congrArg (wordOf 4) (Time.advance_zero t).symm
  | cons event rest ih =>
    obtain ⟨hfirst, hrest⟩ := hcalm
    obtain ⟨output, next, hnext, hsynced, heffect⟩ := synced_step t h hclock event hfirst
    cases hanswer : event.isAnswer with
    | true =>
      rw [if_pos hanswer] at heffect
      obtain ⟨outputs, last, hrun, hin, hlast, htold⟩ :=
        ih t hsynced heffect.1 (hrest output next hnext)
      have hcount : subframesOf (event :: rest) = subframesOf rest :=
        List.countP_cons_of_neg (by simp [hanswer])
      refine ⟨output :: outputs, last, runAll_cons hnext hrun, hin, ?_, ?_⟩
      · rw [hcount, hlast]
      · rw [hcount, List.filterMap_cons_none heffect.2, htold]
    | false =>
      rw [if_neg (by simp [hanswer])] at heffect
      obtain ⟨outputs, last, hrun, hin, hlast, htold⟩ :=
        ih t.next hsynced heffect.1 (hrest output next hnext)
      have hcount : subframesOf (event :: rest) = subframesOf rest + 1 :=
        List.countP_cons_of_pos (by simp [hanswer])
      refine ⟨output :: outputs, last, runAll_cons hnext hrun, hin, ?_, ?_⟩
      · rw [hcount, hlast, Time.next_eq_advance, Time.advance_advance, Nat.add_comm]
      · rw [hcount, List.filterMap_cons_some heffect.2, htold, following_succ]

/-- Once in sync, and with a time of the dial for its clock, a connection stays in sync as long as
each answer shows an offset of a second at most. The MAC is told of each subframe from then on, of
none twice, and a node sync goes out in every 512th. -/
theorem inSync_subframes {startTimeHr : UInt32} {clock : UInt16} {earlier later : List Event}
    {past : List (Output UInt16)}
    (hrun : runAll (step lteVariant) ⟨startTimeHr, addPnf clock⟩ earlier = .ok (past, s))
    (hin : s.phy.inSync) (hclock : s.phy.clock = wordOf 4 t)
    (hcalm : AlongRun (step lteVariant) (CalmAnswer lteVariant) s later) :
    ∃ outputs last, runAll (step lteVariant) s later = .ok (outputs, last) ∧ last.phy.inSync ∧
      last.phy.clock = wordOf 4 (t.advance (subframesOf later)) ∧
      outputs.filterMap told = following t (subframesOf later) := by
  obtain ⟨hknown, hwithin⟩ := tame_run hrun
  apply synced_run t later _ hclock hcalm
  exact ⟨hin, hknown, hwithin (hknown.filtered hin)⟩

end Subframes

/-- Answers of a PNF whose clock is that of the VNF, all within one subframe. -/
def quietAnswers (time : UInt32) (count : ℕ) : List Event :=
  List.replicate count (.answer 2 ⟨time, time, time⟩)

def quietRun (clock : UInt16) (time : UInt32) : Outcome (List (Output UInt16) × VnfP7 UInt16) :=
  runAll (step lteVariant) ⟨0, addPnf clock⟩ (quietAnswers time 48)

theorem quietRun_returns (clock : UInt16) (time : UInt32) :
    ∃ past s, quietRun clock time = .ok (past, s) := by
  obtain ⟨past, s, hrun, -⟩ := run_control (v := lteVariant) (s := ⟨0, addPnf clock⟩)
    (quietAnswers time 48) (known_addPnf clock)
  exact ⟨past, s, hrun⟩

/-- Forty-eight of them and two subframes. -/
theorem quietRun_subframes :
    ∃ past s outputs last, quietRun 0x640 1000000 = .ok (past, s) ∧
      runAll (step lteVariant) s [.subframe 0 0, .subframe 0 0] = .ok (outputs, last) ∧
      outputs.filterMap told = following (Time.ofDecimal 1000) 2 := by
  obtain ⟨past, s, hrun⟩ := quietRun_returns 0x640 1000000
  have hstate : (quietRun 0x640 1000000).toOption.map
      (fun run ↦ (run.2.phy.inSync, run.2.phy.clock)) = some (true, 0x640) := by decide +kernel
  rw [hrun] at hstate
  have hpair : (s.phy.inSync, s.phy.clock) = (true, 0x640) := Option.some.inj hstate
  have hquiet : AlongRun (step lteVariant) (CalmAnswer lteVariant) s
      [.subframe 0 0, .subframe 0 0] := ⟨trivial, fun _ _ _ ↦ ⟨trivial, fun _ _ _ ↦ trivial⟩⟩
  obtain ⟨outputs, last, hlater, -, -, htold⟩ := inSync_subframes (Time.ofDecimal 1000) hrun
    (congrArg Prod.fst hpair) (congrArg Prod.snd hpair) hquiet
  exact ⟨past, s, outputs, last, hrun, hlater, htold⟩

/-! ### Exchanges over the end of the cycle -/

section Straddling

variable {phy : P7ConnectionInfo UInt16} {s : VnfP7 UInt16}

/-- Between the last answer of a cycle and the first of the next. -/
structure StartOfCycle (phy : P7ConnectionInfo UInt16) : Prop where
  offsetFiltered_eq : phy.offsetFiltered = 0
  previousT1_eq : phy.previousT1 = 0
  previousT2_eq : phy.previousT2 = 0

/-- The times of an exchange in which one of the clocks has begun a new cycle, in microseconds. -/
structure Straddles (t4 : UInt32) (ind : UlNodeSync) : Prop where
  t1_lt : ind.t1.toNat < 11000000
  t2_lt : ind.t2.toNat < 11000000
  t4_lt : t4.toNat < 11000000
  t3_ge : ind.t2.toNat ≤ ind.t3.toNat
  t3_le : ind.t3.toNat ≤ ind.t2.toNat + 1000000
  apart : ind.t2.toNat + 9000000 ≤ ind.t1.toNat ∨ ind.t1.toNat + 9000000 ≤ ind.t2.toNat ∨
    t4.toNat + 9000000 ≤ ind.t1.toNat

theorem StartOfCycle.offsetOf_eq (h : StartOfCycle phy) (ind : UlNodeSync) (latency : UInt32) :
    offsetOf lteVariant phy ind latency = (ind.t2 - ind.t1 - latency).toInt32 := by
  unfold offsetOf
  rw [h.previousT1_eq, h.previousT2_eq, if_neg, if_neg]
  · exact fun hlt ↦ Nat.not_lt_zero _ (UInt32.lt_iff_toNat_lt.mp hlt.2)
  · exact fun hlt ↦ Nat.not_lt_zero _ (UInt32.lt_iff_toNat_lt.mp hlt.1)

theorem toInt_toInt32 (x : UInt32) :
    x.toInt32.toInt = if x.toNat < 2147483648 then (x.toNat : ℤ) else x.toNat - 4294967296 := by
  have hword : x.toInt32.toInt = if 2 * x.toNat < 2 ^ 32 then (x.toNat : ℤ)
      else x.toNat - (2 ^ 32 : ℕ) := BitVec.toInt_eq_toNat_cond x.toBitVec
  rw [hword]
  split_ifs <;> omega

theorem toNat_sub_eq (x y : UInt32) :
    (x - y).toNat = if y.toNat ≤ x.toNat then x.toNat - y.toNat
      else x.toNat + 4294967296 - y.toNat := by
  have hx := x.toNat_lt
  have hy := y.toNat_lt
  rw [UInt32.toNat_sub]
  split_ifs <;> omega

/-- The half of the time on the way. Less than nothing comes out next to half of the 32 bits. -/
theorem latencyOf_toNat {t4 : UInt32} {ind : UlNodeSync} (h : Straddles t4 ind) :
    (latencyOf lteVariant t4 ind).toNat < 5500000 ∧ ¬ t4.toNat + 9000000 ≤ ind.t1.toNat ∨
      2141000000 < (latencyOf lteVariant t4 ind).toNat ∧
        (latencyOf lteVariant t4 ind).toNat < 2147483648 := by
  obtain ⟨h1, h2, h4, hge, hle, -⟩ := h
  have hproc : (ind.t3 - ind.t2).toNat = ind.t3.toNat - ind.t2.toNat := by
    rw [toNat_sub_eq, if_pos hge]
  have hround : (t4 + lteVariant.maxDec.toUInt32).toNat = t4.toNat + 10240 := by
    rw [UInt32.toNat_add]
    show (t4.toNat + 10240) % 4294967296 = _
    omega
  have hhalf (x : UInt32) : (x >>> 1).toNat = x.toNat / 2 := by
    rw [UInt32.toNat_shiftRight, Nat.shiftRight_eq_div_pow]
    rfl
  have htx : (if ind.t1 < t4 then t4 - ind.t1
      else t4 + lteVariant.maxDec.toUInt32 - ind.t1).toNat =
      if ind.t1.toNat < t4.toNat then t4.toNat - ind.t1.toNat
      else if ind.t1.toNat ≤ t4.toNat + 10240 then t4.toNat + 10240 - ind.t1.toNat
      else t4.toNat + 10240 + 4294967296 - ind.t1.toNat := by
    by_cases hlt : ind.t1 < t4
    · have hlt' := UInt32.lt_iff_toNat_lt.mp hlt
      rw [if_pos hlt, if_pos hlt', toNat_sub_eq, if_pos (Nat.le_of_lt hlt')]
    · rw [if_neg hlt, if_neg (mt UInt32.lt_iff_toNat_lt.mpr hlt), toNat_sub_eq, hround]
  unfold latencyOf
  simp only [hhalf, toNat_sub_eq _ (ind.t3 - ind.t2), hproc, htx]
  split_ifs <;> omega

/-- The corrections are in subframes and the times in microseconds. -/
theorem Straddles.far {t4 : UInt32} {ind : UlNodeSync} (h : Straddles t4 ind) :
    ¬ WithinSecond (ind.t2 - ind.t1 - latencyOf lteVariant t4 ind).toInt32 := by
  have hlatency := latencyOf_toNat h
  obtain ⟨h1, h2, -, -, -, hapart⟩ := h
  unfold WithinSecond
  rw [toInt_toInt32, toNat_sub_eq, toNat_sub_eq]
  split_ifs <;> omega

theorem tooBad_of_straddles (hfiltered : phy.filteredAdjust) (hstart : StartOfCycle phy)
    {t4 : UInt32} {ind : UlNodeSync} (h : Straddles t4 ind) :
    TooBad (noteOffset lteVariant phy ind (latencyOf lteVariant t4 ind)) := by
  have hnoted : noteOffset lteVariant phy ind (latencyOf lteVariant t4 ind) =
      filterOffset lteVariant phy ind (latencyOf lteVariant t4 ind) := if_pos hfiltered
  have hoffset : (filterOffset lteVariant phy ind (latencyOf lteVariant t4 ind)).offsetFiltered =
      (ind.t2 - ind.t1 - latencyOf lteVariant t4 ind).toInt32 :=
    (if_pos hstart.offsetFiltered_eq).trans (hstart.offsetOf_eq ind _)
  rw [hnoted, tooBad_iff, hoffset]
  exact ⟨hfiltered, h.far⟩

end Straddling

end MultiUeProxy.Clock.InSync
