import MultiUeProxy.Clock.ElapsedTime

/-!
# The clock synchronisation of the VNF

A connection of the VNF has a clock of its own, which is to run with that of the PNF. The VNF sends
node syncs with its time, the PNF answers with the times at which it got and answered them, and
`vnf_handle_ul_node_sync` of `vnf_p7.c` works out how far the PNF is ahead. The answers come in
cycles: at the end of a cycle the clock is set. At first it is set by the last answer of the cycle,
the absolute mode. After ten small adjustments it is set by a filtered offset, and after eleven
cycles without an adjustment the connection is in sync and its clock is no longer set.
`vnf_nr_handle_ul_node_sync` is the same text for slots.

`Turn` lists what an answer can do to the flags and the counters, and `handle_turn` says that it
does one of these. From it follow what is known of them in every state (`Control.Known.turn`) and
what holds in every run: no connection is in sync before forty-eight answers (`connection_runs`).

The index at which the latency is stored is eight for the first answer of a connection. The array
has eight elements, and behind it is the average, which is what is written to.
-/

set_option autoImplicit false
set_option relaxedAutoImplicit false

namespace MultiUeProxy.Clock.VnfSync

open Lib.Execution Lib.CyclicClock FrameClocks ElapsedTime
open Downlink.SubframeBuffer (sfnSf2Dec)
open Downlink.SlotBuffer (sfnSlot2Dec)

/-! ### The two variants -/

/-- What the texts for subframes and for slots differ in: the form of a time, and some numbers. -/
structure Variant (τ : Type) where
  dec : τ → Int32
  ofDec : Int32 → τ
  next : τ → τ
  maxDec : Int32
  tickUs : Int32
  roundUp : Int32
  wrapped : ℕ → ℕ

/-- `NFAPI_SFNSFDEC2SFNSF`, as it is stored in 16 bits. -/
def sfnSfDec2SfnSf (dec : Int32) : UInt16 :=
  (((dec / 10) <<< 4) ||| ((dec - dec / 10 * 10) &&& 0xF)).toUInt32.toUInt16

/-- `increment_sfn_sf`. -/
def incrementSfnSf (sfnSf : UInt16) : UInt16 :=
  if sfnSf &&& 0xF = 9 then (sfnSf + 0x10) &&& 0x3FF0
  else if 9 < sfnSf &&& 0xF then sfnSf
  else sfnSf + 1

def lteVariant : Variant UInt16 where
  dec sfnSf := .ofNat (sfnSf2Dec sfnSf)
  ofDec := sfnSfDec2SfnSf
  next := incrementSfnSf
  maxDec := 10240
  tickUs := 1000
  roundUp := 500
  wrapped dec := dec % 10240

/-- The time is in the members `sfn` and `slot`, which nothing else moves. The text of
`NFAPI_MAX_SFNSLOTDEC` is `1024*20`, which the remainder takes apart. -/
def nrVariant : Variant (UInt16 × UInt16) where
  dec time := .ofNat (sfnSlot2Dec time.1 time.2)
  ofDec dec := ((dec / 20).toUInt32.toUInt16, (dec % 20).toUInt32.toUInt16)
  next := id
  maxDec := 20480
  tickUs := 500
  roundUp := 250
  wrapped dec := dec % 1024 * 20

/-! ### A connection -/

/-- The size of `latency`. -/
def latencySlots : ℕ := 8

/-- The part of `nfapi_vnf_p7_connection_info_t` that is about the clock, with the members for
subframes or with those for slots. -/
structure P7ConnectionInfo (τ : Type) where
  inSync : Bool := false
  filteredAdjust : Bool := false
  minSyncCycleCount : UInt16 := 0
  latency : Vector UInt32 latencySlots := Vector.replicate latencySlots 0
  averageLatency : UInt32 := 0
  offsetFiltered : Int32 := 0
  offsetTrend : Int32 := 0
  offset : Int32 := 0
  zeroCount : UInt16 := 0
  adjustment : Int32 := 0
  insyncMinorAdjustment : Int32 := 0
  insyncMinorAdjustmentDuration : Int32 := 0
  previousT1 : UInt32 := 0
  previousT2 : UInt32 := 0
  previousOffsetFiltered : Int32 := 0
  clock : τ

/-- The times in a `nfapi_ul_node_sync_t` or a `nfapi_nr_ul_node_sync_t`. -/
structure UlNodeSync where
  t1 : UInt32
  t2 : UInt32
  t3 : UInt32
  deriving DecidableEq, Repr

section Handler

variable {τ : Type} (v : Variant τ)

/-- `nfapi_vnf_p7_add_pnf`. -/
def addPnf (clock : τ) : P7ConnectionInfo τ := { minSyncCycleCount := 8, clock }

/-- `calculate_t4` and `calculate_nr_t4`. -/
def calculateT4 (nowTimeHr : UInt32) (clock : τ) (startTimeHr : UInt32) : UInt32 :=
  (v.dec clock * v.tickUs).toUInt32 + getSfTime nowTimeHr startTimeHr

/-- The latency of an answer: half of the time on the way. -/
def latencyOf (t4 : UInt32) (ind : UlNodeSync) : UInt32 :=
  let tx2Rx := if ind.t1 < t4 then t4 - ind.t1 else t4 + v.maxDec.toUInt32 - ind.t1
  let pnfProcTime := ind.t3 - ind.t2
  (tx2Rx - pnfProcTime) >>> 1

variable {v} in
/-- The store to `latency`. What is behind the array is `average_latency`. -/
def storeLatency (phy : P7ConnectionInfo τ) (latency : UInt32) : Outcome (P7ConnectionInfo τ) :=
  let i := phy.minSyncCycleCount.toNat
  if h : i < latencySlots then .ok { phy with latency := phy.latency.set i latency h }
  else if i = latencySlots then .ok { phy with averageLatency := latency }
  else .error .fault

/-- One eighth of the new value and seven eighths of the old. -/
def smoothed (old new : Int32) : Int32 :=
  let oldFilteredValueShifted := old <<< 5
  let newOffsetShifted := new <<< 5
  ((newOffsetShifted >>> 3) + ((oldFilteredValueShifted * 7) >>> 3)) >>> 5

/-- The offset that an answer shows, adjusted if one of the two clocks has wrapped around. -/
def offsetOf (phy : P7ConnectionInfo τ) (ind : UlNodeSync) (latency : UInt32) : Int32 :=
  if ind.t2 < phy.previousT2 ∧ phy.previousT1 < ind.t1 then
    (v.maxDec.toUInt32 + ind.t2 - ind.t1 - latency).toInt32
  else if phy.previousT2 < ind.t2 ∧ ind.t1 < phy.previousT1 then
    (ind.t2 - (ind.t1 + v.maxDec.toUInt32) - latency).toInt32
  else (ind.t2 - ind.t1 - latency).toInt32

def filterOffset (phy : P7ConnectionInfo τ) (ind : UlNodeSync) (latency : UInt32) :
    P7ConnectionInfo τ :=
  let offset := offsetOf v phy ind latency
  let offsetFiltered :=
    if phy.offsetFiltered = 0 then offset else smoothed phy.offsetFiltered offset
  { phy with offset, offsetFiltered }

variable {v} in
/-- The filtered offset is more than a second. -/
def TooBad (phy : P7ConnectionInfo τ) : Prop :=
  phy.filteredAdjust ∧ (1000000 < phy.offsetFiltered ∨ phy.offsetFiltered < -1000000)

instance (phy : P7ConnectionInfo τ) : Decidable (TooBad phy) := inferInstanceAs (Decidable (_ ∧ _))

variable {v} in
/-- Out of filtered mode, if the offset is too bad. -/
def checkOffset (phy : P7ConnectionInfo τ) : P7ConnectionInfo τ :=
  if TooBad phy then
    { phy with filteredAdjust := false, zeroCount := 0, minSyncCycleCount := 2, inSync := false }
  else phy

/-- `SYNC_CYCLE_COUNT`. -/
def syncCycleCount : UInt32 := 2

/-- What the clock is set by at the end of a cycle, and by how many subframes or slots. -/
def cycleTicks (phy : P7ConnectionInfo τ) (ind : UlNodeSync) : P7ConnectionInfo τ × Int32 :=
  if phy.filteredAdjust then (phy, (phy.offsetFiltered + v.roundUp) / v.tickUs)
  else
    -- the average is not reset
    let averageLatency := (phy.averageLatency + phy.latency[0] + phy.latency[1]) / syncCycleCount
    let offset := (ind.t2 - (ind.t1 - averageLatency)).toInt32
    ({ phy with averageLatency, offset }, offset / v.tickUs)

/-- The time that many subframes or slots later, once around the clock at most. -/
def movedClock (clock : τ) (ticks : Int32) : τ :=
  let dec := v.dec clock + ticks
  v.ofDec (if dec < 0 then dec + v.maxDec else if v.maxDec ≤ dec then dec - v.maxDec else dec)

variable {v} in
def offsetTrendOf (phy : P7ConnectionInfo τ) : Int32 :=
  if 0 < phy.previousOffsetFiltered then
    if phy.previousOffsetFiltered < phy.offsetFiltered then
      (phy.offsetFiltered + phy.previousOffsetFiltered) / 2
    else phy.offsetTrend
  else if phy.previousOffsetFiltered < 0 then
    if phy.offsetFiltered < phy.previousOffsetFiltered then
      -(phy.offsetFiltered + phy.previousOffsetFiltered) / 2
    else phy.offsetTrend
  else phy.offsetTrend

variable {v} in
/-- The end of a cycle in absolute mode. -/
def coarseStep (phy : P7ConnectionInfo τ) : P7ConnectionInfo τ :=
  if phy.adjustment < 10 then
    let zeroCount := phy.zeroCount + 1
    if 10 ≤ zeroCount then { phy with filteredAdjust := true, zeroCount := 0 }
    else { phy with zeroCount }
  else { phy with zeroCount := 0 }

variable {v} in
/-- How the length of the next subframes is changed when the clock is right to the subframe. -/
def minorStep (phy : P7ConnectionInfo τ) : P7ConnectionInfo τ :=
  let minor := if phy.offsetTrend / 6 = 0 then 2 else phy.offsetTrend / 6
  if phy.inSync then
    if 250 < phy.offsetFiltered then
      { phy with
        insyncMinorAdjustment := minor
        insyncMinorAdjustmentDuration := phy.offsetFiltered / minor }
    else if phy.offsetFiltered < -250 then
      { phy with
        insyncMinorAdjustment := -minor
        insyncMinorAdjustmentDuration := phy.offsetFiltered / -minor }
    else { phy with insyncMinorAdjustment := 0 }
  else phy

variable {v} in
/-- The same when it is not. -/
def majorStep (phy : P7ConnectionInfo τ) : P7ConnectionInfo τ :=
  let major := if phy.offsetTrend / 2 = 0 then 10 else phy.offsetTrend / 2
  if phy.inSync then
    if 250 < phy.offsetFiltered then
      { phy with
        insyncMinorAdjustment := major
        insyncMinorAdjustmentDuration := 2 * ((phy.offsetFiltered - 250) / major) }
    else if phy.offsetFiltered < -250 then
      { phy with
        insyncMinorAdjustment := -major
        insyncMinorAdjustmentDuration := 2 * ((phy.offsetFiltered + 250) / -major) }
    else phy
  else phy

variable {v} in
/-- The end of a cycle in filtered mode. -/
def fineStep (phy : P7ConnectionInfo τ) : P7ConnectionInfo τ :=
  if phy.adjustment = 0 then
    minorStep <|
      if 10 ≤ phy.zeroCount then { phy with inSync := true }
      else { phy with zeroCount := phy.zeroCount + 1 }
  else majorStep phy

variable {v} in
def levelStep (phy : P7ConnectionInfo τ) : P7ConnectionInfo τ :=
  if phy.filteredAdjust then fineStep phy else coarseStep phy

def noteAdjustment (phy : P7ConnectionInfo τ) (newClock : τ) : P7ConnectionInfo τ :=
  { phy with
    adjustment := v.dec newClock - v.dec phy.clock
    previousT1 := 0
    previousT2 := 0
    offsetTrend := offsetTrendOf phy }

variable {v} in
def setClock (phy : P7ConnectionInfo τ) (newClock : τ) : P7ConnectionInfo τ :=
  if phy.inSync then phy else { phy with clock := newClock }

variable {v} in
def resetCycle (phy : P7ConnectionInfo τ) : P7ConnectionInfo τ :=
  { phy with
    previousOffsetFiltered := phy.offsetFiltered
    minSyncCycleCount := 2
    offsetFiltered := 0
    offset := 0 }

/-- The end of a cycle. -/
def endCycle (phy : P7ConnectionInfo τ) (ind : UlNodeSync) : P7ConnectionInfo τ :=
  let (phy, ticks) := cycleTicks v phy ind
  let newClock := movedClock v phy.clock ticks
  resetCycle (setClock (levelStep (noteAdjustment v phy newClock)) newClock)

def noteOffset (phy : P7ConnectionInfo τ) (ind : UlNodeSync) (latency : UInt32) :
    P7ConnectionInfo τ :=
  if phy.filteredAdjust then filterOffset v phy ind latency else phy

/-- The offset in filtered mode, and whether the connection stays in it. -/
def takeOffset (phy : P7ConnectionInfo τ) (ind : UlNodeSync) (latency : UInt32) :
    P7ConnectionInfo τ :=
  checkOffset (noteOffset v phy ind latency)

/-- The countdown to the end of the cycle. -/
def countDown (phy : P7ConnectionInfo τ) (ind : UlNodeSync) : P7ConnectionInfo τ :=
  let phy := if phy.minSyncCycleCount = 0 then phy
    else { phy with minSyncCycleCount := phy.minSyncCycleCount - 1 }
  if phy.minSyncCycleCount = 0 then endCycle v phy ind
  else { phy with previousT1 := ind.t1, previousT2 := ind.t2 }

/-- `vnf_handle_ul_node_sync` and `vnf_nr_handle_ul_node_sync`, for the connection that the answer
is for. -/
def vnfHandleUlNodeSync (phy : P7ConnectionInfo τ) (startTimeHr nowTimeHr : UInt32)
    (ind : UlNodeSync) : Outcome (P7ConnectionInfo τ) := do
  let t4 := calculateT4 v nowTimeHr phy.clock startTimeHr
  let latency := latencyOf v t4 ind
  let phy ← storeLatency phy latency
  .ok (countDown v (takeOffset v phy ind latency) ind)

end Handler

/-! ### The loop -/

section Loop

variable {τ : Type} (v : Variant τ)

/-- `vnf_p7_t`, with one connection. -/
structure VnfP7 (τ : Type) where
  startTimeHr : UInt32
  phy : P7ConnectionInfo τ

/-- What the loop finds: an answer, or the end of the wait for the next subframe. -/
inductive Event where
  | answer (nowTimeHr : UInt32) (ind : UlNodeSync)
  | subframe (nowTimeHr sendTimeHr : UInt32)

def Event.isAnswer : Event → Bool
  | answer _ _ => true
  | subframe _ _ => false

/-- What goes out: by how many microseconds the subframe is shortened, the time in a node sync, and
the subframe that the MAC is told of. -/
structure Output (τ : Type) where
  shortened : Int32 := 0
  nodeSync : Option UInt32 := none
  subframeIndication : Option τ := none

variable {v} in
/-- The change of the length of a subframe. -/
def minorAdjustment (phy : P7ConnectionInfo τ) : Int32 × P7ConnectionInfo τ :=
  if phy.inSync ∧ phy.insyncMinorAdjustment ≠ 0 ∧ 0 < phy.insyncMinorAdjustmentDuration then
    let duration := phy.insyncMinorAdjustmentDuration - 1
    (phy.insyncMinorAdjustment,
      { phy with
        insyncMinorAdjustment := if duration = 0 then 0 else phy.insyncMinorAdjustment
        insyncMinorAdjustmentDuration := duration })
  else (0, phy)

/-- `dl_in_sync_period` and `dl_out_sync_period`, as `nfapi_vnf_p7_add_pnf` sets them. -/
def dlSyncPeriod (phy : P7ConnectionInfo τ) : ℕ := if phy.inSync then 512 else 10

/-- `dl_in_sync_offset` and `dl_out_sync_offset`. -/
def dlSyncOffset : ℕ := 30

/-- `vnf_sync` and `vnf_nr_sync`: the time in the node sync, if there is one to send. -/
def vnfSync (s : VnfP7 τ) (sendTimeHr : UInt32) : Option UInt32 :=
  let dec := (v.dec s.phy.clock).toUInt32.toUInt16.toNat
  if v.wrapped (dec + dlSyncOffset) &&& (dlSyncPeriod s.phy - 1) = 0 then
    some (calculateT4 v sendTimeHr s.phy.clock s.startTimeHr)
  else none

/-- `send_mac_subframe_indications`. -/
def sendMacSubframeIndications (phy : P7ConnectionInfo τ) : Option τ :=
  if phy.inSync then some phy.clock else none

/-- One round of the loop in `nfapi_vnf_p7_start`. That in `nfapi_nr_vnf_p7_start` gets answers
alone, and nothing calls `vnf_nr_sync`. -/
def step (s : VnfP7 τ) : Event → Outcome (Output τ × VnfP7 τ)
  | .answer nowTimeHr ind => do
    let phy ← vnfHandleUlNodeSync v s.phy s.startTimeHr nowTimeHr ind
    .ok ({}, { s with phy })
  | .subframe nowTimeHr sendTimeHr =>
    let (shortened, phy) := minorAdjustment s.phy
    let s := ⟨nowTimeHr, { phy with clock := v.next phy.clock }⟩
    .ok (⟨shortened, vnfSync v s sendTimeHr, sendMacSubframeIndications s.phy⟩, s)

end Loop

/-! ### What an answer does -/

/-- The flags and the counters. -/
structure Control where
  inSync : Bool
  filtered : Bool
  count : ℕ
  zero : ℕ
  deriving DecidableEq, Repr

/-- What can become of the flags and the counters. -/
inductive Turn : Control → Control → Prop where
  | inCycle {c : Control} (hcount : 2 ≤ c.count) : Turn c { c with count := c.count - 1 }
  | tooBad {c : Control} (hfiltered : c.filtered) : Turn c ⟨false, false, 1, 0⟩
  | large {c : Control} (hcount : c.count ≤ 1) (hcoarse : ¬ c.filtered) :
      Turn c { c with count := 2, zero := 0 }
  | small {c : Control} (hcount : c.count ≤ 1) (hcoarse : ¬ c.filtered) (hzero : c.zero + 1 < 10) :
      Turn c { c with count := 2, zero := c.zero + 1 }
  | filter {c : Control} (hcount : c.count ≤ 1) (hcoarse : ¬ c.filtered) (hzero : 10 ≤ c.zero + 1) :
      Turn c { c with count := 2, filtered := true, zero := 0 }
  | moved {c : Control} (hcount : c.count ≤ 1) (hfiltered : c.filtered) :
      Turn c { c with count := 2 }
  | still {c : Control} (hcount : c.count ≤ 1) (hfiltered : c.filtered) (hzero : c.zero < 10) :
      Turn c { c with count := 2, zero := c.zero + 1 }
  | sync {c : Control} (hcount : c.count ≤ 1) (hfiltered : c.filtered) (hzero : 10 ≤ c.zero) :
      Turn c { c with count := 2, inSync := true }

section Turns

variable {τ : Type} {v : Variant τ} {phy next : P7ConnectionInfo τ}

def control (phy : P7ConnectionInfo τ) : Control :=
  ⟨phy.inSync, phy.filteredAdjust, phy.minSyncCycleCount.toNat, phy.zeroCount.toNat⟩

/-- What is known of the flags and the counters in every state. -/
structure Control.Known (c : Control) : Prop where
  filtered : c.inSync → c.filtered
  count_pos : 1 ≤ c.count
  count_le : c.count ≤ 8
  zero_le : c.zero ≤ 10
  coarse_zero : ¬ c.filtered → c.zero ≤ 9

theorem Control.Known.turn {c c' : Control} (h : c.Known) (hturn : Turn c c') : c'.Known := by
  obtain ⟨hfiltered, hpos, hle, hzero, hcoarse⟩ := h
  have htwo : 1 ≤ 2 ∧ 2 ≤ 8 := by decide
  cases hturn with
  | inCycle hcount =>
    refine ⟨hfiltered, ?_, ?_, hzero, hcoarse⟩
    · show 1 ≤ c.count - 1
      omega
    · show c.count - 1 ≤ 8
      omega
  | tooBad hf =>
    exact ⟨fun hin ↦ absurd hin Bool.false_ne_true, Nat.le_refl 1, Nat.le_trans htwo.1 htwo.2,
      Nat.zero_le _, fun _ ↦ Nat.zero_le _⟩
  | large hcount hc => exact ⟨hfiltered, htwo.1, htwo.2, Nat.zero_le _, fun _ ↦ Nat.zero_le _⟩
  | small hcount hc hz =>
    have hnext : c.zero + 1 ≤ 9 := Nat.le_of_lt_succ hz
    exact ⟨hfiltered, htwo.1, htwo.2, Nat.le_succ_of_le hnext, fun _ ↦ hnext⟩
  | filter hcount hc hz =>
    exact ⟨fun _ ↦ rfl, htwo.1, htwo.2, Nat.zero_le _, fun _ ↦ Nat.zero_le _⟩
  | moved hcount hf => exact ⟨hfiltered, htwo.1, htwo.2, hzero, hcoarse⟩
  | still hcount hf hz => exact ⟨hfiltered, htwo.1, htwo.2, hz, fun hc ↦ absurd hf hc⟩
  | sync hcount hf hz => exact ⟨fun _ ↦ hf, htwo.1, htwo.2, hzero, hcoarse⟩

theorem storeLatency_of_le (hle : phy.minSyncCycleCount.toNat ≤ latencySlots) (latency : UInt32) :
    ∃ slots average, storeLatency phy latency =
      .ok { phy with latency := slots, averageLatency := average } := by
  unfold storeLatency
  by_cases h : phy.minSyncCycleCount.toNat < latencySlots
  · exact ⟨_, phy.averageLatency, dif_pos h⟩
  · refine ⟨phy.latency, latency, ?_⟩
    rw [dif_neg h, if_pos (by omega)]

theorem control_cycleTicks (ind : UlNodeSync) : control (cycleTicks v phy ind).1 = control phy := by
  unfold cycleTicks
  split <;> rfl

theorem clock_cycleTicks (ind : UlNodeSync) : (cycleTicks v phy ind).1.clock = phy.clock := by
  unfold cycleTicks
  split <;> rfl

theorem control_minorStep : control (minorStep phy) = control phy := by
  unfold minorStep
  split_ifs <;> rfl

theorem control_majorStep : control (majorStep phy) = control phy := by
  unfold majorStep
  split_ifs <;> rfl

theorem toNat_zeroCount_succ (hzero : (control phy).zero ≤ 10) :
    (phy.zeroCount + 1).toNat = (control phy).zero + 1 := by
  have hle : phy.zeroCount.toNat ≤ 10 := hzero
  rw [UInt16.toNat_add]
  exact Nat.mod_eq_of_lt (by simp; omega)

theorem ten_le_iff (count : UInt16) : 10 ≤ count ↔ 10 ≤ count.toNat := UInt16.le_iff_toNat_le

theorem control_coarseStep (hzero : (control phy).zero ≤ 10) :
    control (coarseStep phy) =
      if phy.adjustment < 10 then
        if 10 ≤ (control phy).zero + 1 then { control phy with filtered := true, zero := 0 }
        else { control phy with zero := (control phy).zero + 1 }
      else { control phy with zero := 0 } := by
  have hsucc := toNat_zeroCount_succ hzero
  unfold coarseStep
  split
  case isFalse => rfl
  dsimp only
  rw [← hsucc]
  split_ifs with hword hnumber hnumber
  · rfl
  · exact absurd ((ten_le_iff _).mp hword) hnumber
  · exact absurd ((ten_le_iff _).mpr hnumber) hword
  · rfl

theorem control_fineStep (hzero : (control phy).zero ≤ 10) :
    control (fineStep phy) =
      if phy.adjustment = 0 then
        if 10 ≤ (control phy).zero then { control phy with inSync := true }
        else { control phy with zero := (control phy).zero + 1 }
      else control phy := by
  have hsucc := toNat_zeroCount_succ hzero
  unfold fineStep
  split
  case isFalse => exact control_majorStep
  rw [control_minorStep, ← hsucc]
  split_ifs with hword hnumber hnumber
  · rfl
  · exact absurd ((ten_le_iff _).mp hword) hnumber
  · exact absurd ((ten_le_iff _).mpr hnumber) hword
  · rfl

/-- The end of a cycle, from the counters `c` before the answer. -/
theorem levelStep_turn {c : Control} (hcontrol : control phy = { c with count := 0 })
    (hcount : c.count ≤ 1) (hzero : c.zero ≤ 10) :
    Turn c { control (levelStep phy) with count := 2 } := by
  have hmode : phy.filteredAdjust = c.filtered := congrArg Control.filtered hcontrol
  have hle : (control phy).zero ≤ 10 := by rw [hcontrol]; exact hzero
  unfold levelStep
  split
  case isTrue hfiltered =>
    have hfiltered : c.filtered := hmode ▸ hfiltered
    rw [control_fineStep hle, hcontrol]
    split_ifs with hstill hten
    · exact Turn.sync hcount hfiltered hten
    · exact Turn.still hcount hfiltered (Nat.lt_of_not_le hten)
    · exact Turn.moved hcount hfiltered
  case isFalse hcoarse =>
    have hcoarse : ¬ c.filtered := hmode ▸ hcoarse
    rw [control_coarseStep hle, hcontrol]
    split_ifs with hsmall hten
    · exact Turn.filter hcount hcoarse hten
    · exact Turn.small hcount hcoarse (Nat.lt_of_not_le hten)
    · exact Turn.large hcount hcoarse

/-- What the end of a cycle may change but the clock. -/
theorem levelStep_eq (phy : P7ConnectionInfo τ) :
    ∃ inSync filteredAdjust zeroCount insyncMinorAdjustment insyncMinorAdjustmentDuration,
      levelStep phy = { phy with
        inSync, filteredAdjust, zeroCount, insyncMinorAdjustment,
        insyncMinorAdjustmentDuration } := by
  unfold levelStep fineStep coarseStep minorStep majorStep
  split_ifs
  all_goals try dsimp only
  all_goals try split_ifs
  all_goals exact ⟨_, _, _, _, _, rfl⟩

theorem clock_levelStep : (levelStep phy).clock = phy.clock := by
  obtain ⟨_, _, _, _, _, hlevel⟩ := levelStep_eq phy
  rw [hlevel]

theorem control_resetCycle_setClock (newClock : τ) :
    control (resetCycle (setClock phy newClock)) = { control phy with count := 2 } := by
  unfold setClock
  split <;> rfl

theorem endCycle_turn {c : Control} (hcontrol : control phy = { c with count := 0 })
    (hcount : c.count ≤ 1) (hzero : c.zero ≤ 10) (ind : UlNodeSync) :
    Turn c (control (endCycle v phy ind)) := by
  unfold endCycle
  rw [control_resetCycle_setClock]
  apply levelStep_turn _ hcount hzero
  exact (control_cycleTicks ind).trans hcontrol

theorem clock_setClock (newClock : τ) (hin : (setClock phy newClock).inSync) :
    (setClock phy newClock).clock = phy.clock := by
  unfold setClock at *
  split_ifs with h
  · rfl
  · rw [if_neg h] at hin
    exact absurd hin h

theorem clock_setClock_of_out (newClock : τ) (hout : ¬ (setClock phy newClock).inSync) :
    (setClock phy newClock).clock = newClock := by
  unfold setClock at *
  split_ifs with h
  · rw [if_pos h] at hout
    exact absurd h hout
  · rfl

/-- The clock of a connection in sync is not set. -/
theorem clock_endCycle (ind : UlNodeSync) (hin : (endCycle v phy ind).inSync) :
    (endCycle v phy ind).clock = phy.clock :=
  (clock_setClock _ hin).trans (clock_levelStep.trans (clock_cycleTicks ind))

theorem countDown_of_le_one (h : phy.minSyncCycleCount.toNat ≤ 1) (ind : UlNodeSync) :
    countDown v phy ind = endCycle v { phy with minSyncCycleCount := 0 } ind := by
  by_cases hzero : phy.minSyncCycleCount = 0
  · have hphy : { phy with minSyncCycleCount := 0 } = phy := by rw [← hzero]
    rw [hphy]
    simp [countDown, hzero]
  · have hone : phy.minSyncCycleCount = 1 := by
      apply UInt16.toNat_inj.mp
      have hpos : phy.minSyncCycleCount.toNat ≠ 0 := fun h0 ↦ hzero (UInt16.toNat_inj.mp h0)
      show _ = 1
      omega
    simp [countDown, hone]

theorem toNat_count_pred (h : 1 ≤ phy.minSyncCycleCount.toNat) :
    (phy.minSyncCycleCount - 1).toNat = phy.minSyncCycleCount.toNat - 1 := by
  apply UInt16.toNat_sub_of_le
  rw [UInt16.le_iff_toNat_le]
  exact h

theorem countDown_of_two_le (h : 2 ≤ phy.minSyncCycleCount.toNat) (ind : UlNodeSync) :
    countDown v phy ind =
      { phy with
        minSyncCycleCount := phy.minSyncCycleCount - 1
        previousT1 := ind.t1
        previousT2 := ind.t2 } := by
  have hne : phy.minSyncCycleCount ≠ 0 := by
    intro hzero
    simp [hzero] at h
  have hpred : phy.minSyncCycleCount - 1 ≠ 0 := by
    intro hzero
    have hpred : (phy.minSyncCycleCount - 1).toNat = phy.minSyncCycleCount.toNat - 1 :=
      toNat_count_pred (by omega)
    rw [hzero, UInt16.toNat_zero] at hpred
    omega
  simp [countDown, hne, hpred]

/-- What the countdown leaves of the flags and the counters within a cycle. -/
theorem control_countDown (h : 2 ≤ (control phy).count) (ind : UlNodeSync) :
    control (countDown v phy ind) = { control phy with count := (control phy).count - 1 } := by
  have hpred : (phy.minSyncCycleCount - 1).toNat = phy.minSyncCycleCount.toNat - 1 :=
    toNat_count_pred (Nat.le_of_succ_le h)
  rw [countDown_of_two_le h]
  simp only [control, hpred]

/-- An answer ends the cycle, or the cycle has more of them. -/
theorem countDown_turn (hzero : (control phy).zero ≤ 10) (ind : UlNodeSync) :
    Turn (control phy) (control (countDown v phy ind)) := by
  by_cases h : phy.minSyncCycleCount.toNat ≤ 1
  · rw [countDown_of_le_one h]
    exact endCycle_turn rfl h hzero ind
  · have htwo : 2 ≤ (control phy).count := Nat.lt_of_not_le h
    rw [control_countDown htwo]
    exact Turn.inCycle htwo

/-- A connection in sync has the clock it had. -/
theorem clock_countDown (ind : UlNodeSync) (hin : (countDown v phy ind).inSync) :
    (countDown v phy ind).clock = phy.clock := by
  by_cases h : phy.minSyncCycleCount.toNat ≤ 1
  · rw [countDown_of_le_one h] at *
    exact clock_endCycle ind hin
  · rw [countDown_of_two_le (by omega)]

theorem control_noteOffset (ind : UlNodeSync) (latency : UInt32) :
    control (noteOffset v phy ind latency) = control phy := by
  unfold noteOffset
  split <;> rfl

theorem clock_noteOffset (ind : UlNodeSync) (latency : UInt32) :
    (noteOffset v phy ind latency).clock = phy.clock := by
  unfold noteOffset
  split <;> rfl

theorem takeOffset_of_not_tooBad {ind : UlNodeSync} {latency : UInt32}
    (h : ¬ TooBad (noteOffset v phy ind latency)) :
    takeOffset v phy ind latency = noteOffset v phy ind latency := if_neg h

theorem takeOffset_of_tooBad {ind : UlNodeSync} {latency : UInt32}
    (h : TooBad (noteOffset v phy ind latency)) :
    control (takeOffset v phy ind latency) = ⟨false, false, 2, 0⟩ := by
  unfold takeOffset checkOffset
  rw [if_pos h]
  rfl

theorem handle_of_stored {stored : P7ConnectionInfo τ} {startTimeHr nowTimeHr : UInt32}
    {ind : UlNodeSync} (hstored : storeLatency phy
      (latencyOf v (calculateT4 v nowTimeHr phy.clock startTimeHr) ind) = .ok stored) :
    vnfHandleUlNodeSync v phy startTimeHr nowTimeHr ind =
      .ok (countDown v (takeOffset v stored ind
        (latencyOf v (calculateT4 v nowTimeHr phy.clock startTimeHr) ind)) ind) := by
  show (storeLatency phy _ >>= _) = _
  rw [hstored, ok_bind]

/-- An answer within the array, up to what is stored there. -/
theorem handle_eq (hle : phy.minSyncCycleCount.toNat ≤ latencySlots)
    (startTimeHr nowTimeHr : UInt32) (ind : UlNodeSync) :
    ∃ slots average, vnfHandleUlNodeSync v phy startTimeHr nowTimeHr ind =
      .ok (countDown v (takeOffset v { phy with latency := slots, averageLatency := average } ind
        (latencyOf v (calculateT4 v nowTimeHr phy.clock startTimeHr) ind)) ind) := by
  obtain ⟨slots, average, hstored⟩ := storeLatency_of_le hle
    (latencyOf v (calculateT4 v nowTimeHr phy.clock startTimeHr) ind)
  exact ⟨slots, average, handle_of_stored hstored⟩

/-- An answer with an offset that is too bad is the first of the two in a new cycle. -/
theorem control_of_tooBad {ind : UlNodeSync} {latency : UInt32}
    (h : TooBad (noteOffset v phy ind latency)) :
    control (countDown v (takeOffset v phy ind latency) ind) = ⟨false, false, 1, 0⟩ := by
  have hcontrol := takeOffset_of_tooBad h
  rw [control_countDown (Nat.le_of_eq (congrArg Control.count hcontrol).symm), hcontrol]
  rfl

/-- What an answer does to the flags and the counters. -/
theorem handle_turn (hknown : (control phy).Known) (startTimeHr nowTimeHr : UInt32)
    (ind : UlNodeSync) :
    ∃ next, vnfHandleUlNodeSync v phy startTimeHr nowTimeHr ind = .ok next ∧
      Turn (control phy) (control next) := by
  obtain ⟨slots, average, hnext⟩ := handle_eq (v := v) hknown.count_le startTimeHr nowTimeHr ind
  let stored : P7ConnectionInfo τ := { phy with latency := slots, averageLatency := average }
  let latency := latencyOf v (calculateT4 v nowTimeHr phy.clock startTimeHr) ind
  refine ⟨_, hnext, ?_⟩
  have hnoted : control (noteOffset v stored ind latency) = control phy :=
    control_noteOffset ind latency
  by_cases hbad : TooBad (noteOffset v stored ind latency)
  · have hfiltered : (control phy).filtered := hnoted ▸ hbad.1
    show Turn _ (control (countDown v (takeOffset v stored ind latency) ind))
    rw [control_of_tooBad hbad]
    exact Turn.tooBad hfiltered
  · show Turn _ (control (countDown v (takeOffset v stored ind latency) ind))
    rw [takeOffset_of_not_tooBad hbad, ← hnoted]
    exact countDown_turn (hnoted ▸ hknown.zero_le) ind

end Turns

/-! ### Runs -/

/-- The answers that are missing until the connection can be in sync. -/
def Control.missing (c : Control) : ℕ :=
  if c.inSync then 0
  else if c.filtered then c.count + 2 * (10 - c.zero)
  else c.count + 2 * (9 - c.zero) + 22

theorem Control.Known.missing_le {c c' : Control} (h : c.Known) (hturn : Turn c c') :
    c.missing ≤ c'.missing + 1 := by
  have hzero := h.zero_le
  have hcount := h.count_le
  unfold missing
  cases hturn with
  | inCycle htwo =>
    simp only
    split_ifs <;> omega
  | tooBad hfiltered =>
    simp only [hfiltered, if_true, Bool.false_eq_true, if_false]
    split_ifs <;> omega
  | large hend hcoarse =>
    simp only [hcoarse]
    split_ifs <;> omega
  | small hend hcoarse hten =>
    simp only [hcoarse]
    split_ifs <;> omega
  | filter hend hcoarse hten =>
    have hout : ¬ c.inSync := fun hin ↦ hcoarse (h.filtered hin)
    simp only [hout, hcoarse]
    split_ifs <;> omega
  | moved hend hfiltered =>
    simp only
    split_ifs <;> omega
  | still hend hfiltered hten =>
    simp only [hfiltered, if_true]
    split_ifs <;> omega
  | sync hend hfiltered hten =>
    simp only [hfiltered, if_true]
    split_ifs <;> omega

/-- The first answer of a connection is the only one that finds the count at eight. -/
theorem Control.Known.count_lt {c c' : Control} (h : c.Known) (hturn : Turn c c') :
    c'.count < latencySlots := by
  have hcount := h.count_le
  cases hturn with
  | inCycle htwo => exact Nat.lt_of_lt_of_le (Nat.sub_lt (by omega) Nat.one_pos) hcount
  | _ => simp [latencySlots]

section Runs

variable {τ : Type} {v : Variant τ} {s : VnfP7 τ}

theorem minorAdjustment_eq (phy : P7ConnectionInfo τ) :
    ∃ insyncMinorAdjustment insyncMinorAdjustmentDuration, (minorAdjustment phy).2 =
      { phy with insyncMinorAdjustment, insyncMinorAdjustmentDuration } := by
  unfold minorAdjustment
  split_ifs
  · exact ⟨_, _, rfl⟩
  · exact ⟨_, _, rfl⟩

theorem control_minorAdjustment (phy : P7ConnectionInfo τ) :
    control (minorAdjustment phy).2 = control phy := by
  obtain ⟨_, _, h⟩ := minorAdjustment_eq phy
  rw [h]
  rfl

/-- What one round of the loop does to the flags and the counters. -/
theorem step_control (hknown : (control s.phy).Known) (event : Event) :
    ∃ output next, step v s event = .ok (output, next) ∧
      if event.isAnswer then Turn (control s.phy) (control next.phy)
      else control next.phy = control s.phy := by
  cases event with
  | answer nowTimeHr ind =>
    obtain ⟨phy, hphy, hturn⟩ := handle_turn (v := v) hknown s.startTimeHr nowTimeHr ind
    refine ⟨{}, { s with phy }, ?_, hturn⟩
    show (vnfHandleUlNodeSync v s.phy s.startTimeHr nowTimeHr ind >>= _) = _
    rw [hphy, ok_bind]
  | subframe nowTimeHr sendTimeHr =>
    exact ⟨_, _, rfl, control_minorAdjustment s.phy⟩

theorem run_control (events : List Event) (hknown : (control s.phy).Known) :
    ∃ outputs t, runAll (step v) s events = .ok (outputs, t) ∧ (control t.phy).Known ∧
      (control s.phy).missing ≤ events.countP Event.isAnswer + (control t.phy).missing ∧
      if events.countP Event.isAnswer = 0 then control t.phy = control s.phy
      else (control t.phy).count < latencySlots := by
  induction events generalizing s with
  | nil => exact ⟨[], s, rfl, hknown, by simp⟩
  | cons event rest ih =>
    obtain ⟨output, next, hnext, hcontrol⟩ := step_control (v := v) hknown event
    cases hanswer : event.isAnswer with
    | true =>
      rw [if_pos hanswer] at hcontrol
      obtain ⟨outputs, t, hrun, hend, hmissing, hcount⟩ := ih (hknown.turn hcontrol)
      refine ⟨output :: outputs, t, runAll_cons hnext hrun, hend, ?_, ?_⟩
      · have := hknown.missing_le hcontrol
        rw [List.countP_cons_of_pos hanswer]
        omega
      · rw [List.countP_cons_of_pos hanswer, if_neg (Nat.succ_ne_zero _)]
        split_ifs at hcount
        · rw [hcount]
          exact hknown.count_lt hcontrol
        · exact hcount
    | false =>
      have hnot : ¬ event.isAnswer := by simp [hanswer]
      rw [if_neg hnot] at hcontrol
      obtain ⟨outputs, t, hrun, hend, hmissing, hcount⟩ := ih (hcontrol ▸ hknown)
      rw [hcontrol] at hmissing hcount
      refine ⟨output :: outputs, t, runAll_cons hnext hrun, hend, ?_, ?_⟩
      · rw [List.countP_cons_of_neg hnot]
        exact hmissing
      · rw [List.countP_cons_of_neg hnot]
        exact hcount

theorem known_addPnf (clock : τ) : (control (addPnf clock)).Known := by
  constructor <;> simp [control, addPnf]

/-- Runs from the start of a connection do not stop. No connection is in sync before forty-eight
answers, and the first answer is the only one whose latency is written behind the array. -/
theorem connection_runs (startTimeHr : UInt32) (clock : τ) (events : List Event) :
    ∃ outputs t, runAll (step v) ⟨startTimeHr, addPnf clock⟩ events = .ok (outputs, t) ∧
      (t.phy.inSync → t.phy.filteredAdjust ∧ 48 ≤ events.countP Event.isAnswer) ∧
      (latencySlots ≤ t.phy.minSyncCycleCount.toNat ↔ events.countP Event.isAnswer = 0) := by
  obtain ⟨outputs, t, hrun, hknown, hmissing, hcount⟩ :=
    run_control (v := v) (s := ⟨startTimeHr, addPnf clock⟩) events (known_addPnf clock)
  refine ⟨outputs, t, hrun, ?_, ?_⟩
  · intro hin
    refine ⟨hknown.filtered hin, ?_⟩
    have hnone : (control t.phy).missing = 0 := if_pos hin
    rw [hnone] at hmissing
    exact hmissing
  · split_ifs at hcount with hnone
    · refine iff_of_true ?_ hnone
      exact Nat.le_of_eq (congrArg Control.count hcount).symm
    · exact iff_of_false (Nat.not_le_of_lt hcount) hnone

end Runs

end MultiUeProxy.Clock.VnfSync
