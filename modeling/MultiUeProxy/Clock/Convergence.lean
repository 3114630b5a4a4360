import MultiUeProxy.Clock.InSync

/-!
# How a connection gets in sync

Over a link whose two delays stay the same, the latency is worked out right, and what is left to
find is the gap between the two clocks. The absolute mode adds the latency to the offset where the
filtered mode takes it off, so the first filtered cycle moves the clock again, back by about the
time on the way. From then on it is less than half a subframe behind or less than one and a half
ahead, and is not moved any more (`Link.fine_moved`, `Link.ticks_of_fine`).

`Phase` is how far a connection is on this way, with a bound for the answers that are left; each
answer makes it smaller (`Tracking.answer`), and fifty-two are enough (`connection_converges`).
-/

set_option autoImplicit false
set_option relaxedAutoImplicit false

namespace MultiUeProxy.Clock.Convergence

open Lib.Execution Lib.CyclicClock FrameClocks ElapsedTime NodeSync VnfSync InSync
open Downlink.SubframeBuffer (sfnSf2Dec)

/-! ### The link -/

/-- The delays on the way to the PNF and back, and the time it takes to answer, in microseconds. -/
structure Link where
  d1 : ℕ
  d2 : ℕ
  processing : ℕ
  pos : 0 < d1 + d2
  le : d1 + d2 ≤ 900000

namespace Link

variable (link : Link)

/-- The latency that is worked out. -/
def latency : ℕ := (link.d1 + link.d2) / 2

/-- The offset as the absolute mode has it, when the clock of the VNF is `gap` microseconds ahead of
that of the PNF. -/
def coarse (gap : ℤ) : ℤ := link.d1 + link.latency - gap

/-- The offset as the filtered mode has it. -/
def fine (gap : ℤ) : ℤ := link.d1 - link.latency - gap

end Link

/-- An exchange over the link within one cycle of both clocks, sent at `sent` by that of the PNF. -/
structure ExchangeAt (link : Link) (gap sent : ℤ) (t4 : UInt32) (ind : UlNodeSync) : Prop where
  t1_eq : (ind.t1.toNat : ℤ) = sent + gap
  t2_eq : (ind.t2.toNat : ℤ) = sent + link.d1
  t3_eq : (ind.t3.toNat : ℤ) = sent + link.d1 + link.processing
  t4_eq : (t4.toNat : ℤ) = sent + link.d1 + link.processing + link.d2 + gap
  early : 3000 ≤ sent
  late : sent + link.processing + 3 * (link.d1 + link.d2) + 3000 < 10240000
  t4_lt : t4.toNat < 10240000

section Exchange

variable {link : Link} {gap sent : ℤ} {t4 : UInt32} {ind : UlNodeSync}

theorem ExchangeAt.latencyOf_toNat (h : ExchangeAt link gap sent t4 ind) :
    (latencyOf lteVariant t4 ind).toNat = link.latency := by
  have hpos := link.pos
  obtain ⟨h1, h2, h3, h4, hearly, hlate, hlt⟩ := h
  have hafter : ind.t1 < t4 := UInt32.lt_iff_toNat_lt.mpr (by omega)
  have hhalf (x : UInt32) : (x >>> 1).toNat = x.toNat / 2 := by
    rw [UInt32.toNat_shiftRight, Nat.shiftRight_eq_div_pow]
    rfl
  unfold latencyOf Link.latency
  simp only [if_pos hafter, hhalf, toNat_sub_eq]
  split_ifs <;> omega

/-- The offset of the absolute mode, with the average that it has worked out. -/
theorem ExchangeAt.coarse_toInt (h : ExchangeAt link gap sent t4 ind) {average : UInt32}
    (haverage : average.toNat = link.latency) :
    (ind.t2 - (ind.t1 - average)).toInt32.toInt = link.coarse gap := by
  have hle := link.le
  have hlatency : link.latency ≤ 450000 := by unfold Link.latency; omega
  obtain ⟨h1, h2, h3, h4, hearly, hlate, hlt⟩ := h
  unfold Link.coarse
  rw [toInt_toInt32, toNat_sub_eq, toNat_sub_eq, haverage]
  split_ifs <;> omega

/-- The offset of the filtered mode. -/
theorem ExchangeAt.fine_toInt (h : ExchangeAt link gap sent t4 ind) :
    (ind.t2 - ind.t1 - latencyOf lteVariant t4 ind).toInt32.toInt = link.fine gap := by
  have hlatency := h.latencyOf_toNat
  have hle := link.le
  have hbound : link.latency ≤ 450000 := by unfold Link.latency; omega
  obtain ⟨h1, h2, h3, h4, hearly, hlate, hlt⟩ := h
  unfold Link.fine
  rw [toInt_toInt32, toNat_sub_eq, toNat_sub_eq, hlatency]
  split_ifs <;> omega

end Exchange

/-! ### The clock -/

section Moves

variable (t : Time lteDial)

/-- `NFAPI_SFNSFDEC2SFNSF` of a number on the dial. -/
theorem sfnSfDec2SfnSf_eq {dec : Int32} (hdec : dec.toInt = t.decimal) :
    sfnSfDec2SfnSf dec = wordOf 4 t := by
  have hten : (10 : Int32).toInt = 10 := rfl
  have hlt : t.decimal < 10240 := t.decimal_lt
  have hframe : t.decimal / 10 = t.frame := t.decimal_div
  have htick : t.decimal % 10 = t.tick := t.decimal_mod
  have hquotient : (dec / 10).toInt = t.frame := by
    rw [Int32.toInt_div_of_ne_right _ _ (by decide), hdec, hten,
      Int.tdiv_eq_ediv_of_nonneg (by omega)]
    omega
  have hrest : (dec - dec / 10 * 10).toInt = t.tick := by
    rw [Int32.toInt_sub, Int32.toInt_mul, hquotient, hten, hdec,
      bmod_of_mem (z := t.frame * 10) (by omega) (by omega), bmod_of_mem (by omega) (by omega)]
    omega
  have hhigh : ((dec / 10) <<< 4).toUInt32.toUInt16 = (counterOf t).sfn <<< 4 := by
    have hshift : (dec / 10) <<< 4 = dec / 10 * 16 :=
      Int32.toBitVec_inj.mp (BitVec.shiftLeft_eq_mul_twoPow (dec / 10).toBitVec 4)
    have hsixteen : (16 : Int32).toInt = 16 := rfl
    have hword := toUInt16_toNat (dec / 10 * 16)
    rw [Int32.toInt_mul, hquotient, hsixteen, bmod_of_mem (by omega) (by omega)] at hword
    apply UInt16.toNat_inj.mp
    rw [hshift, UInt16.toNat_shiftLeft, lteDial_fits.sfn_toNat, Nat.shiftLeft_eq]
    show _ = t.frame * 16 % 65536
    omega
  have hlow : ((dec - dec / 10 * 10) &&& 0xF).toUInt32.toUInt16 = (counterOf t).sub := by
    have hword := toUInt16_toNat (dec - dec / 10 * 10)
    rw [hrest] at hword
    apply UInt16.toNat_inj.mp
    rw [Int32.toUInt32_and, UInt32.toUInt16_and, UInt16.toNat_and, lteDial_fits.sub_toNat]
    show _ &&& 15 = t.tick
    rw [Nat.and_two_pow_sub_one_eq_mod _ 4]
    omega
  unfold sfnSfDec2SfnSf
  rw [Int32.toUInt32_or, UInt32.toUInt16_or, hhigh, hlow]
  exact lteDial_fits.word_eq t

/-- The clock is moved by subframes, if that does not take it around the dial. -/
theorem movedClock_eq {ticks : Int32} (hle : 0 ≤ t.decimal + ticks.toInt)
    (hlt : t.decimal + ticks.toInt < 10240) :
    movedClock lteVariant (wordOf 4 t) ticks = wordOf 4 (t.shift ticks.toInt) := by
  have hmax : (10240 : Int32).toInt = 10240 := rfl
  have hdecimal : ((t.shift ticks.toInt).decimal : ℤ) = t.decimal + ticks.toInt := by
    rw [Time.decimal_shift]
    exact Int.emod_eq_of_lt hle hlt
  have hdec : (lteVariant.dec (wordOf 4 t) + ticks).toInt = t.decimal + ticks.toInt := by
    have hbound : t.decimal < 10240 := t.decimal_lt
    show (Int32.ofNat (sfnSf2Dec (wordOf 4 t)) + ticks).toInt = _
    rw [Int32.toInt_add, sfnSf2Dec_eq, Int32.toInt_ofNat_of_lt (by omega),
      bmod_of_mem (by omega) (by omega)]
  have hnonneg : ¬ lteVariant.dec (wordOf 4 t) + ticks < 0 := by
    rw [Int32.lt_iff_toInt_lt, hdec]
    show ¬ _ < (0 : ℤ)
    omega
  have hsmall : ¬ lteVariant.maxDec ≤ lteVariant.dec (wordOf 4 t) + ticks := by
    rw [Int32.le_iff_toInt_le, hdec]
    show ¬ (10240 : ℤ) ≤ _
    omega
  simp only [movedClock, if_neg hnonneg, if_neg hsmall]
  apply sfnSfDec2SfnSf_eq
  rw [hdec, hdecimal]

end Moves

/-! ### An answer over the link -/

section Answers

variable {link : Link} {gap sent : ℤ} {t4 : UInt32} {ind : UlNodeSync}
  {phy : P7ConnectionInfo UInt16}

/-- The latencies of a cycle, as they are stored before its end. The first slot stays empty. -/
structure Stored (link : Link) (phy : P7ConnectionInfo UInt16) : Prop where
  first_eq : phy.latency[0] = 0
  average_eq : phy.averageLatency.toNat = link.latency

/-- What is known of the offset of a cycle that is not at its end. -/
structure InCycle (link : Link) (gap : ℤ) (phy : P7ConnectionInfo UInt16) : Prop where
  offset_eq : phy.offsetFiltered = 0 ∨ phy.offsetFiltered.toInt = link.fine gap
  previous_eq : phy.previousT1 = 0 ∧ phy.previousT2 = 0 ∨
    (phy.previousT2.toNat : ℤ) - phy.previousT1.toNat = link.d1 - gap

theorem storeLatency_eq (hpos : 1 ≤ phy.minSyncCycleCount.toNat)
    (hle : phy.minSyncCycleCount.toNat ≤ latencySlots) (latency : UInt32) :
    ∃ slots average, storeLatency phy latency =
        .ok { phy with latency := slots, averageLatency := average } ∧
      slots[0] = phy.latency[0] ∧
      (phy.minSyncCycleCount.toNat = 1 → slots[1] = latency) ∧
      average = if phy.minSyncCycleCount.toNat = latencySlots then latency
        else phy.averageLatency := by
  unfold storeLatency
  by_cases h : phy.minSyncCycleCount.toNat < latencySlots
  · refine ⟨phy.latency.set _ latency h, phy.averageLatency, dif_pos h, ?_, ?_, ?_⟩
    · rw [Vector.getElem_set_ne _ _ (by omega)]
    · intro hone
      simp [hone]
    · rw [if_neg (Nat.ne_of_lt h)]
  · have hend : phy.minSyncCycleCount.toNat = latencySlots :=
      Nat.le_antisymm hle (Nat.le_of_not_lt h)
    refine ⟨phy.latency, latency, ?_, rfl, ?_, ?_⟩
    · rw [dif_neg h, if_pos hend]
    · intro hone
      exact absurd (hone.symm.trans hend) (by decide)
    · rw [if_pos hend]

/-- Neither clock wraps within a cycle, or both do. -/
theorem ExchangeAt.offsetOf_toInt (h : ExchangeAt link gap sent t4 ind)
    (hcycle : InCycle link gap phy) :
    (offsetOf lteVariant phy ind (latencyOf lteVariant t4 ind)).toInt = link.fine gap := by
  rw [← h.fine_toInt]
  obtain ⟨h1, h2, -, -, -, -, -⟩ := h
  have hsame : offsetOf lteVariant phy ind (latencyOf lteVariant t4 ind) =
      (ind.t2 - ind.t1 - latencyOf lteVariant t4 ind).toInt32 := by
    unfold offsetOf
    rw [if_neg, if_neg]
    · rintro ⟨hlt2, hlt1⟩
      rw [UInt32.lt_iff_toNat_lt] at hlt1 hlt2
      rcases hcycle.previous_eq with ⟨hzero, -⟩ | hprevious
      · rw [hzero] at hlt1
        exact Nat.not_lt_zero _ hlt1
      · omega
    · rintro ⟨hlt2, hlt1⟩
      rw [UInt32.lt_iff_toNat_lt] at hlt1 hlt2
      rcases hcycle.previous_eq with ⟨-, hzero⟩ | hprevious
      · rw [hzero] at hlt2
        exact Nat.not_lt_zero _ hlt2
      · omega
  rw [hsame]

/-- The filter finds the same offset each time. -/
theorem ExchangeAt.noteOffset_toInt (h : ExchangeAt link gap sent t4 ind)
    (hcycle : InCycle link gap phy) (hfiltered : phy.filteredAdjust)
    (hfine : -1000000 ≤ link.fine gap ∧ link.fine gap ≤ 1000000) :
    (noteOffset lteVariant phy ind (latencyOf lteVariant t4 ind)).offsetFiltered.toInt =
      link.fine gap := by
  have hoffset := h.offsetOf_toInt hcycle
  unfold noteOffset
  rw [if_pos hfiltered]
  show (if phy.offsetFiltered = 0 then offsetOf lteVariant phy ind _
    else smoothed phy.offsetFiltered (offsetOf lteVariant phy ind _)).toInt = _
  split_ifs with hnone
  · exact hoffset
  · have hold := hcycle.offset_eq.resolve_left hnone
    rw [smoothed_toInt (by omega) (by omega), hold, hoffset]
    omega

end Answers

/-! ### Phases -/

section Phases

/-- The flags and the counters after the end of a cycle that moves the clock by some subframes. -/
def ended (c : Control) (ticks : ℤ) : Control :=
  let graded :=
    if c.filtered then
      if ticks = 0 then
        if 10 ≤ c.zero then { c with inSync := true } else { c with zero := c.zero + 1 }
      else c
    else if ticks < 10 then
      if 10 ≤ c.zero + 1 then { c with filtered := true, zero := 0 }
      else { c with zero := c.zero + 1 }
    else { c with zero := 0 }
  { graded with count := 2 }

/-- The subframes by which a cycle over the link moves the clock. -/
def Link.ticks (link : Link) (filtered : Bool) (gap : ℤ) : ℤ :=
  if filtered then (link.fine gap + 500).tdiv 1000 else (link.coarse gap).tdiv 1000

/-- How far a connection is on its way, with a bound for the answers that are left. -/
inductive Phase (link : Link) (gap : ℤ) : Control → ℕ → Prop where
  | first {c : Control} (hfiltered : ¬ c.filtered) (hout : ¬ c.inSync) (hzero : c.zero = 0) :
      Phase link gap c (c.count + 44)
  | absolute {c : Control} (hfiltered : ¬ c.filtered) (hout : ¬ c.inSync) (hzero : c.zero ≤ 9)
      (hgap : -1000 < link.coarse gap ∧ link.coarse gap < 1000) :
      Phase link gap c (c.count + 2 * (9 - c.zero) + 24)
  | turning {c : Control} (hfiltered : c.filtered) (hout : ¬ c.inSync) (hzero : c.zero = 0)
      (hgap : -1000 < link.coarse gap ∧ link.coarse gap < 1000) : Phase link gap c (c.count + 22)
  | fine {c : Control} (hfiltered : c.filtered) (hout : ¬ c.inSync) (hzero : c.zero ≤ 10)
      (hgap : -1500 < link.fine gap ∧ link.fine gap < 500) :
      Phase link gap c (c.count + 2 * (10 - c.zero))
  | synced {c : Control} (hfiltered : c.filtered) (hin : c.inSync)
      (hgap : -1500 < link.fine gap ∧ link.fine gap < 500) : Phase link gap c 0

variable {link : Link} {gap : ℤ} {c : Control} {left : ℕ}

theorem Link.fine_eq (link : Link) (gap : ℤ) :
    link.fine gap = link.coarse gap - 2 * link.latency := by
  unfold fine coarse
  omega

/-- In filtered mode the offset is never too bad. -/
theorem Phase.fine_le (h : Phase link gap c left) (hfiltered : c.filtered) :
    -1000000 ≤ link.fine gap ∧ link.fine gap ≤ 1000000 := by
  have hle := link.le
  have hlatency : link.latency ≤ 450000 := by unfold Link.latency; omega
  have heq := link.fine_eq gap
  cases h with
  | first hcoarse => exact absurd hfiltered hcoarse
  | absolute hcoarse => exact absurd hfiltered hcoarse
  | turning _ _ _ hgap => omega
  | fine _ _ _ hgap => omega
  | synced _ _ hgap => omega

/-- An answer that is not the last of its cycle. -/
theorem Phase.inCycle (h : Phase link gap c left) (hcount : 2 ≤ c.count) :
    ∃ less, Phase link gap { c with count := c.count - 1 } less ∧ less ≤ left - 1 := by
  cases h with
  | first hcoarse hout hzero => exact ⟨_, .first hcoarse hout hzero, by simp only; omega⟩
  | absolute hcoarse hout hzero hgap =>
    exact ⟨_, .absolute hcoarse hout hzero hgap, by simp only; omega⟩
  | turning hfiltered hout hzero hgap =>
    exact ⟨_, .turning hfiltered hout hzero hgap, by simp only; omega⟩
  | fine hfiltered hout hzero hgap =>
    exact ⟨_, .fine hfiltered hout hzero hgap, by simp only; omega⟩
  | synced hfiltered hin hgap => exact ⟨_, .synced hfiltered hin hgap, Nat.zero_le _⟩

theorem tdiv_cases (z : ℤ) :
    0 ≤ z ∧ z.tdiv 1000 = z / 1000 ∨ z < 0 ∧ z.tdiv 1000 = -(-z / 1000) := by
  rcases Int.lt_or_le z 0 with hneg | hnonneg
  · refine Or.inr ⟨hneg, ?_⟩
    rw [← Int.tdiv_eq_ediv_of_nonneg (by omega), Int.neg_tdiv, Int.neg_neg]
  · exact Or.inl ⟨hnonneg, Int.tdiv_eq_ediv_of_nonneg hnonneg⟩

/-- The absolute mode leaves less than a subframe of its offset. -/
theorem Link.coarse_moved (link : Link) (gap : ℤ) :
    -1000 < link.coarse (gap + 1000 * link.ticks false gap) ∧
      link.coarse (gap + 1000 * link.ticks false gap) < 1000 := by
  have hmoved : link.coarse (gap + 1000 * link.ticks false gap) =
      link.coarse gap - 1000 * (link.coarse gap).tdiv 1000 := by
    unfold coarse ticks
    rw [if_neg Bool.false_ne_true]
    unfold coarse
    omega
  have hcases := tdiv_cases (link.coarse gap)
  omega

/-- The filtered mode rounds up, towards zero. -/
theorem Link.fine_moved (link : Link) (gap : ℤ) :
    -1500 < link.fine (gap + 1000 * link.ticks true gap) ∧
      link.fine (gap + 1000 * link.ticks true gap) < 500 := by
  have hmoved : link.fine (gap + 1000 * link.ticks true gap) =
      link.fine gap - 1000 * (link.fine gap + 500).tdiv 1000 := by
    unfold fine ticks
    rw [if_pos rfl]
    unfold fine
    omega
  have hcases := tdiv_cases (link.fine gap + 500)
  omega

theorem Link.ticks_of_coarse (hgap : -1000 < link.coarse gap ∧ link.coarse gap < 1000) :
    link.ticks false gap = 0 := by
  have hcases := tdiv_cases (link.coarse gap)
  unfold ticks
  rw [if_neg Bool.false_ne_true]
  omega

theorem Link.ticks_of_fine (hgap : -1500 < link.fine gap ∧ link.fine gap < 500) :
    link.ticks true gap = 0 := by
  have hcases := tdiv_cases (link.fine gap + 500)
  unfold ticks
  rw [if_pos rfl]
  omega

/-- The last answer of a cycle. -/
theorem Phase.ended (h : Phase link gap c left) (hcount : c.count = 1) :
    ∃ less, Phase link (gap + 1000 * link.ticks c.filtered gap)
      (ended c (link.ticks c.filtered gap)) less ∧ less ≤ left - 1 := by
  obtain ⟨inSync, filtered, count, still⟩ := c
  obtain rfl : count = 1 := hcount
  cases h with
  | first hcoarse hout hstill =>
    obtain rfl : filtered = false := Bool.eq_false_iff.mpr hcoarse
    obtain rfl : inSync = false := Bool.eq_false_iff.mpr hout
    obtain rfl : still = 0 := hstill
    have hgap := link.coarse_moved gap
    by_cases hsmall : link.ticks false gap < 10
    · refine ⟨_, .absolute ?_ ?_ ?_ hgap, ?_⟩ <;> simp [Convergence.ended, hsmall]
    · refine ⟨_, .absolute ?_ ?_ ?_ hgap, ?_⟩ <;> simp [Convergence.ended, hsmall]
  | absolute hcoarse hout hstill hgap =>
    obtain rfl : filtered = false := Bool.eq_false_iff.mpr hcoarse
    obtain rfl : inSync = false := Bool.eq_false_iff.mpr hout
    have hstill : still ≤ 9 := hstill
    simp only [Link.ticks_of_coarse hgap, Int.mul_zero, Int.add_zero]
    by_cases hten : 10 ≤ still + 1
    · refine ⟨_, .turning ?_ ?_ ?_ hgap, ?_⟩ <;> simp [Convergence.ended, hten]
    · refine ⟨_, .absolute ?_ ?_ ?_ hgap, ?_⟩ <;> simp [Convergence.ended, hten] <;> omega
  | turning hfiltered hout hstill hgap =>
    obtain rfl : filtered = true := hfiltered
    obtain rfl : inSync = false := Bool.eq_false_iff.mpr hout
    obtain rfl : still = 0 := hstill
    have hgap := link.fine_moved gap
    by_cases hnone : link.ticks true gap = 0
    · refine ⟨_, .fine ?_ ?_ ?_ hgap, ?_⟩ <;> simp [Convergence.ended, hnone]
    · refine ⟨_, .fine ?_ ?_ ?_ hgap, ?_⟩ <;> simp [Convergence.ended, hnone]
  | fine hfiltered hout hstill hgap =>
    obtain rfl : filtered = true := hfiltered
    obtain rfl : inSync = false := Bool.eq_false_iff.mpr hout
    have hstill : still ≤ 10 := hstill
    simp only [Link.ticks_of_fine hgap, Int.mul_zero, Int.add_zero]
    by_cases hten : 10 ≤ still
    · refine ⟨_, .synced ?_ ?_ hgap, ?_⟩ <;> simp [Convergence.ended, hten]
    · refine ⟨_, .fine ?_ ?_ ?_ hgap, ?_⟩ <;> simp [Convergence.ended, hten] <;> omega
  | synced hfiltered hin hgap =>
    obtain rfl : filtered = true := hfiltered
    obtain rfl : inSync = true := hin
    simp only [Link.ticks_of_fine hgap, Int.mul_zero, Int.add_zero]
    by_cases hten : 10 ≤ still
    · refine ⟨_, .synced ?_ ?_ hgap, ?_⟩ <;> simp [Convergence.ended, hten]
    · refine ⟨_, .synced ?_ ?_ hgap, ?_⟩ <;> simp [Convergence.ended, hten]

/-- The clock of a connection in sync would not be moved. -/
theorem Phase.ticks_eq_zero (h : Phase link gap c left)
    (hin : (Convergence.ended c (link.ticks c.filtered gap)).inSync) :
    link.ticks c.filtered gap = 0 := by
  obtain ⟨inSync, filtered, count, still⟩ := c
  cases h with
  | synced hfiltered _ hgap =>
    obtain rfl : filtered = true := hfiltered
    exact Link.ticks_of_fine hgap
  | fine hfiltered _ _ hgap =>
    obtain rfl : filtered = true := hfiltered
    exact Link.ticks_of_fine hgap
  | absolute hcoarse _ _ hgap =>
    obtain rfl : filtered = false := Bool.eq_false_iff.mpr hcoarse
    exact Link.ticks_of_coarse hgap
  | first hcoarse hout hstill =>
    obtain rfl : filtered = false := Bool.eq_false_iff.mpr hcoarse
    obtain rfl : inSync = false := Bool.eq_false_iff.mpr hout
    obtain rfl : still = 0 := hstill
    simp [Convergence.ended] at hin
    split_ifs at hin
  | turning hfiltered hout hstill _ =>
    obtain rfl : filtered = true := hfiltered
    obtain rfl : inSync = false := Bool.eq_false_iff.mpr hout
    obtain rfl : still = 0 := hstill
    simp [Convergence.ended] at hin
    split_ifs at hin

/-- No answers are left for a connection in sync alone. -/
theorem Phase.inSync_of_none (h : Phase link gap c left) (hpos : 1 ≤ c.count) (hnone : left = 0) :
    c.inSync ∧ -1500 < link.fine gap ∧ link.fine gap < 500 := by
  cases h with
  | synced _ hin hgap => exact ⟨hin, hgap⟩
  | first => omega
  | absolute => omega
  | turning => omega
  | fine => omega

end Phases

/-! ### The end of a cycle over the link -/

section Ends

variable {link : Link} {gap sent : ℤ} {t4 : UInt32} {ind : UlNodeSync}
  {phy : P7ConnectionInfo UInt16}

theorem control_levelStep (hzero : (control phy).zero ≤ 10) :
    { control (levelStep phy) with count := 2 } = ended (control phy) phy.adjustment.toInt := by
  have hten : (10 : Int32).toInt = 10 := rfl
  have hsmall : phy.adjustment < 10 ↔ phy.adjustment.toInt < 10 := by
    rw [Int32.lt_iff_toInt_lt, hten]
  have hnone : phy.adjustment = 0 ↔ phy.adjustment.toInt = 0 := by
    rw [← Int32.toInt_inj]
    rfl
  unfold levelStep ended
  by_cases hfiltered : phy.filteredAdjust
  · rw [if_pos hfiltered, if_pos (show (control phy).filtered from hfiltered),
      control_fineStep hzero]
    simp only [hnone]
  · rw [if_neg hfiltered, if_neg (show ¬ (control phy).filtered from hfiltered),
      control_coarseStep hzero]
    simp only [hsmall]

/-- What a cycle over the link has measured at its end. -/
theorem ExchangeAt.cycleTicks_toInt (h : ExchangeAt link gap sent t4 ind)
    (hstored : Stored link phy) (hlast : phy.latency[1].toNat = link.latency)
    (hoffset : phy.filteredAdjust → phy.offsetFiltered.toInt = link.fine gap ∧
      -1000000 ≤ link.fine gap ∧ link.fine gap ≤ 1000000) :
    (cycleTicks lteVariant phy ind).1.averageLatency.toNat = link.latency ∧
      (cycleTicks lteVariant phy ind).2.toInt = link.ticks phy.filteredAdjust gap := by
  have hthousand : lteVariant.tickUs.toInt = 1000 := rfl
  have hround : lteVariant.roundUp.toInt = 500 := rfl
  by_cases hfiltered : phy.filteredAdjust
  · obtain ⟨hfine, hlow, hhigh⟩ := hoffset hfiltered
    unfold cycleTicks Link.ticks
    rw [if_pos hfiltered, if_pos hfiltered]
    refine ⟨hstored.average_eq, ?_⟩
    rw [Int32.toInt_div_of_ne_right _ _ (by decide), hthousand, Int32.toInt_add, hround, hfine,
      bmod_of_mem (by omega) (by omega)]
  · have hlatency : link.latency ≤ 450000 := by have := link.le; unfold Link.latency; omega
    have haverage : ((phy.averageLatency + phy.latency[0] + phy.latency[1]) /
        syncCycleCount).toNat = link.latency := by
      have hzero : (0 : UInt32).toNat = 0 := rfl
      rw [UInt32.toNat_div, UInt32.toNat_add, UInt32.toNat_add, hstored.first_eq,
        hstored.average_eq, hlast, hzero]
      show ((link.latency + 0) % 4294967296 + link.latency) % 4294967296 / 2 = _
      omega
    unfold cycleTicks Link.ticks
    rw [if_neg hfiltered, if_neg hfiltered]
    refine ⟨haverage, ?_⟩
    show ((ind.t2 - (ind.t1 - _)).toInt32 / lteVariant.tickUs).toInt = _
    rw [Int32.toInt_div_of_ne_right _ _ (by decide), hthousand, h.coarse_toInt haverage]

/-- The clock is not taken around the dial. -/
theorem ExchangeAt.ticks_mem (h : ExchangeAt link gap sent t4 ind) {decimal : ℕ}
    (hplace : t4.toNat / 1000 = decimal) (filtered : Bool) :
    0 ≤ decimal + link.ticks filtered gap ∧ decimal + link.ticks filtered gap < 10240 := by
  obtain ⟨-, -, -, ht4, hearly, hlate, -⟩ := h
  have hlatency : link.latency ≤ link.d1 + link.d2 := by unfold Link.latency; omega
  unfold Link.ticks
  split_ifs
  · have hcases := tdiv_cases (link.fine gap + 500)
    have hfine : link.fine gap = link.d1 - link.latency - gap := rfl
    omega
  · have hcases := tdiv_cases (link.coarse gap)
    have hcoarse : link.coarse gap = link.d1 + link.latency - gap := rfl
    omega

/-- The connection when the adjustment of a cycle has been noted. -/
def notedAt (phy : P7ConnectionInfo UInt16) (ind : UlNodeSync) : P7ConnectionInfo UInt16 :=
  noteAdjustment lteVariant (cycleTicks lteVariant phy ind).1
    (movedClock lteVariant (cycleTicks lteVariant phy ind).1.clock
      (cycleTicks lteVariant phy ind).2)

theorem endCycle_eq_notedAt (phy : P7ConnectionInfo UInt16) (ind : UlNodeSync) :
    endCycle lteVariant phy ind = resetCycle (setClock (levelStep (notedAt phy ind))
      (movedClock lteVariant (cycleTicks lteVariant phy ind).1.clock
        (cycleTicks lteVariant phy ind).2)) := rfl

/-- The fields after the end of a cycle. -/
theorem endCycle_fields (phy : P7ConnectionInfo UInt16) (ind : UlNodeSync) :
    (endCycle lteVariant phy ind).latency = phy.latency ∧
      (endCycle lteVariant phy ind).averageLatency =
        (cycleTicks lteVariant phy ind).1.averageLatency ∧
      (endCycle lteVariant phy ind).offsetFiltered = 0 ∧
      (endCycle lteVariant phy ind).previousT1 = 0 ∧
      (endCycle lteVariant phy ind).previousT2 = 0 := by
  obtain ⟨_, _, _, _, _, hlevel⟩ := levelStep_eq (notedAt phy ind)
  have hlatency : (cycleTicks lteVariant phy ind).1.latency = phy.latency := by
    unfold cycleTicks
    split_ifs <;> rfl
  rw [endCycle_eq_notedAt, hlevel, ← hlatency]
  unfold setClock
  split_ifs <;> exact ⟨rfl, rfl, rfl, rfl, rfl⟩

theorem ended_count (c : Control) (count : ℕ) (ticks : ℤ) :
    ended { c with count } ticks = ended c ticks := by
  unfold ended
  split_ifs <;> rfl

/-- The end of a cycle over the link. -/
theorem ExchangeAt.endCycle_over (h : ExchangeAt link gap sent t4 ind) {t : Time lteDial}
    (hclock : phy.clock = wordOf 4 t) (hplace : t4.toNat / 1000 = t.decimal)
    (hzero : (control phy).zero ≤ 10) (hstored : Stored link phy)
    (hlast : phy.latency[1].toNat = link.latency)
    (hoffset : phy.filteredAdjust → phy.offsetFiltered.toInt = link.fine gap ∧
      -1000000 ≤ link.fine gap ∧ link.fine gap ≤ 1000000)
    (hstill : (ended (control phy) (link.ticks phy.filteredAdjust gap)).inSync →
      link.ticks phy.filteredAdjust gap = 0) :
    control (endCycle lteVariant phy ind) =
        ended (control phy) (link.ticks phy.filteredAdjust gap) ∧
      (endCycle lteVariant phy ind).clock =
        wordOf 4 (t.shift (link.ticks phy.filteredAdjust gap)) ∧
      Stored link (endCycle lteVariant phy ind) := by
  obtain ⟨haverage, hticks⟩ := h.cycleTicks_toInt hstored hlast hoffset
  obtain ⟨hlow, hhigh⟩ := h.ticks_mem hplace phy.filteredAdjust
  have hmoved : movedClock lteVariant phy.clock (cycleTicks lteVariant phy ind).2 =
      wordOf 4 (t.shift (link.ticks phy.filteredAdjust gap)) := by
    rw [hclock, movedClock_eq t (by rw [hticks]; exact hlow) (by rw [hticks]; exact hhigh), hticks]
  have hkept : control (notedAt phy ind) = control phy := control_cycleTicks ind
  have hbefore : (cycleTicks lteVariant phy ind).1.clock = phy.clock := clock_cycleTicks ind
  have hadjustment : (notedAt phy ind).adjustment.toInt = link.ticks phy.filteredAdjust gap := by
    have hshift : ((t.shift (link.ticks phy.filteredAdjust gap)).decimal : ℤ) =
        t.decimal + link.ticks phy.filteredAdjust gap := by
      rw [Time.decimal_shift]
      exact Int.emod_eq_of_lt hlow hhigh
    have hbound : t.decimal < 10240 := t.decimal_lt
    show (lteVariant.dec (movedClock lteVariant (cycleTicks lteVariant phy ind).1.clock _) -
      lteVariant.dec (cycleTicks lteVariant phy ind).1.clock).toInt = _
    rw [hbefore, hmoved, hclock]
    show (Int32.ofNat (sfnSf2Dec _) - Int32.ofNat (sfnSf2Dec _)).toInt = _
    rw [Int32.toInt_sub, sfnSf2Dec_eq, sfnSf2Dec_eq, Int32.toInt_ofNat_of_lt (by omega),
      Int32.toInt_ofNat_of_lt (by omega), bmod_of_mem (by omega) (by omega)]
    omega
  have hcontrol : control (endCycle lteVariant phy ind) =
      ended (control phy) (link.ticks phy.filteredAdjust gap) := by
    rw [endCycle_eq_notedAt, control_resetCycle_setClock,
      control_levelStep (by rw [hkept]; exact hzero), hkept, hadjustment]
  obtain ⟨hlatency, haverage', -⟩ := endCycle_fields phy ind
  refine ⟨hcontrol, ?_, ?_, ?_⟩
  · by_cases hin : (endCycle lteVariant phy ind).inSync
    · have hnone := hstill (by rw [← hcontrol]; exact hin)
      rw [clock_endCycle ind hin, hnone, Time.shift_zero, hclock]
    · rw [← hmoved, ← hbefore]
      exact clock_setClock_of_out _ hin
  · simp only [hlatency, hstored.first_eq]
  · rw [haverage', haverage]

end Ends

/-! ### Runs over the link -/

section Runs

variable {link : Link} {gap sent : ℤ} {phy : P7ConnectionInfo UInt16} {left : ℕ}

/-- A connection between two answers over the link. -/
structure Tracking (link : Link) (gap : ℤ) (phy : P7ConnectionInfo UInt16) : Prop where
  known : (control phy).Known
  clock : ∃ t : Time lteDial, phy.clock = wordOf 4 t
  first_eq : phy.latency[0] = 0
  average_eq : phy.minSyncCycleCount.toNat < latencySlots →
    phy.averageLatency.toNat = link.latency
  cycle : InCycle link gap phy

/-- The gap after an answer, which may have moved the clock. -/
def gapAfter (gap : ℤ) (phy next : P7ConnectionInfo UInt16) : ℤ :=
  gap + 1000 * ((sfnSf2Dec next.clock : ℤ) - sfnSf2Dec phy.clock)

theorem gapAfter_of_clock_eq (gap : ℤ) {phy next : P7ConnectionInfo UInt16}
    (h : next.clock = phy.clock) : gapAfter gap phy next = gap := by
  unfold gapAfter
  rw [h]
  omega

/-- A connection over the link once the latency and the offset of an answer are noted. -/
structure Noted (link : Link) (gap : ℤ) (phy noted : P7ConnectionInfo UInt16) : Prop where
  control_eq : control noted = control phy
  clock_eq : noted.clock = phy.clock
  stored : Stored link noted
  last_eq : phy.minSyncCycleCount.toNat = 1 → noted.latency[1].toNat = link.latency
  offset_eq : noted.filteredAdjust → noted.offsetFiltered.toInt = link.fine gap ∧
    -1000000 ≤ link.fine gap ∧ link.fine gap ≤ 1000000
  cycle : InCycle link gap noted

theorem noteOffset_eq {τ : Type} (v : Variant τ) (phy : P7ConnectionInfo τ) (ind : UlNodeSync)
    (latency : UInt32) :
    ∃ offset offsetFiltered, noteOffset v phy ind latency =
      { phy with offset, offsetFiltered } := by
  unfold noteOffset
  split
  · exact ⟨_, _, rfl⟩
  · exact ⟨_, _, rfl⟩

theorem Tracking.note (h : Tracking link gap phy) (hphase : Phase link gap (control phy) left)
    {startTimeHr nowTimeHr : UInt32} {ind : UlNodeSync}
    (hexchange : ExchangeAt link gap sent (calculateT4 lteVariant nowTimeHr phy.clock startTimeHr)
      ind) :
    ∃ noted, vnfHandleUlNodeSync lteVariant phy startTimeHr nowTimeHr ind =
      .ok (countDown lteVariant noted ind) ∧ Noted link gap phy noted := by
  obtain ⟨slots, average, hstore, hfirst, hlast, haverage⟩ :=
    storeLatency_eq h.known.count_pos h.known.count_le
      (latencyOf lteVariant (calculateT4 lteVariant nowTimeHr phy.clock startTimeHr) ind)
  have hlatency := hexchange.latencyOf_toNat
  let stored : P7ConnectionInfo UInt16 := { phy with latency := slots, averageLatency := average }
  let noted := noteOffset lteVariant stored ind
    (latencyOf lteVariant (calculateT4 lteVariant nowTimeHr phy.clock startTimeHr) ind)
  have hcycle : InCycle link gap stored := ⟨h.cycle.1, h.cycle.2⟩
  have hcontrol : control noted = control phy := control_noteOffset _ _
  have hoffset (hfiltered : noted.filteredAdjust) : noted.offsetFiltered.toInt = link.fine gap ∧
      -1000000 ≤ link.fine gap ∧ link.fine gap ≤ 1000000 := by
    have hmode : phy.filteredAdjust := (congrArg Control.filtered hcontrol).symm.trans hfiltered
    have hfine := hphase.fine_le hmode
    exact ⟨hexchange.noteOffset_toInt hcycle hmode hfine, hfine⟩
  have hgood : ¬ TooBad noted := by
    rw [tooBad_iff]
    rintro ⟨hfiltered, hfar⟩
    obtain ⟨hfine, hbound⟩ := hoffset hfiltered
    exact hfar (by unfold WithinSecond; rw [hfine]; exact hbound)
  obtain ⟨offset, offsetFiltered, heq⟩ := noteOffset_eq lteVariant stored ind
    (latencyOf lteVariant (calculateT4 lteVariant nowTimeHr phy.clock startTimeHr) ind)
  have heq : noted = { stored with offset, offsetFiltered } := heq
  refine ⟨noted, ?_, hcontrol, clock_noteOffset _ _, ⟨?_, ?_⟩, ?_, hoffset, ⟨?_, ?_⟩⟩
  · rw [handle_of_stored hstore]
    exact congrArg (fun phy ↦ Except.ok (countDown lteVariant phy ind))
      (takeOffset_of_not_tooBad hgood)
  · rw [heq]
    exact hfirst.trans h.first_eq
  · rw [heq]
    show average.toNat = _
    rw [haverage]
    split_ifs with hcount
    · exact hlatency
    · exact h.average_eq (Nat.lt_of_le_of_ne h.known.count_le hcount)
  · intro hone
    rw [heq]
    show slots[1].toNat = _
    rw [hlast hone, hlatency]
  · by_cases hfiltered : noted.filteredAdjust
    · exact Or.inr (hoffset hfiltered).1
    · have hmode : ¬ stored.filteredAdjust :=
        fun hmode ↦ hfiltered ((congrArg Control.filtered hcontrol).trans hmode)
      have hsame : noted = stored := if_neg hmode
      rw [hsame]
      exact h.cycle.1
  · rw [heq]
    exact h.cycle.2

/-- One answer over the link brings the connection closer to the end of its way. -/
theorem Tracking.answer (h : Tracking link gap phy) (hphase : Phase link gap (control phy) left)
    {startTimeHr nowTimeHr : UInt32} {ind : UlNodeSync}
    (hexchange : ExchangeAt link gap sent (calculateT4 lteVariant nowTimeHr phy.clock startTimeHr)
      ind)
    (hplace : (calculateT4 lteVariant nowTimeHr phy.clock startTimeHr).toNat / 1000 =
      sfnSf2Dec phy.clock) :
    ∃ next less, vnfHandleUlNodeSync lteVariant phy startTimeHr nowTimeHr ind = .ok next ∧
      Tracking link (gapAfter gap phy next) next ∧
      Phase link (gapAfter gap phy next) (control next) less ∧ less ≤ left - 1 := by
  obtain ⟨t, hclock⟩ := h.clock
  obtain ⟨noted, hnext, hnoted⟩ := h.note hphase hexchange
  obtain ⟨next, hok, hturn⟩ := handle_turn (v := lteVariant) h.known startTimeHr nowTimeHr ind
  have hcounted : next = countDown lteVariant noted ind := Except.ok.inj (hok.symm.trans hnext)
  have hknown := h.known.turn hturn
  have hcount : noted.minSyncCycleCount.toNat = phy.minSyncCycleCount.toNat :=
    congrArg Control.count hnoted.control_eq
  by_cases hmore : 2 ≤ phy.minSyncCycleCount.toNat
  · obtain ⟨less, hless, hle⟩ := hphase.inCycle hmore
    have hkept : gapAfter gap phy next = gap := by
      apply gapAfter_of_clock_eq
      rw [hcounted, countDown_of_two_le (by omega)]
      exact hnoted.clock_eq
    have hcontrol : control next = { control phy with count := (control phy).count - 1 } := by
      rw [hcounted, control_countDown (by rw [hnoted.control_eq]; exact hmore),
        hnoted.control_eq]
    refine ⟨next, less, hok, ?_, ?_, hle⟩
    · rw [hkept]
      rw [hcounted, countDown_of_two_le (by omega)] at hknown ⊢
      refine ⟨hknown, ⟨t, hnoted.clock_eq.trans hclock⟩, hnoted.stored.first_eq,
        fun _ ↦ hnoted.stored.average_eq, hnoted.cycle.offset_eq, Or.inr ?_⟩
      show (ind.t2.toNat : ℤ) - ind.t1.toNat = _
      have h1 := hexchange.t1_eq
      have h2 := hexchange.t2_eq
      omega
    · rw [hkept, hcontrol]
      exact hless
  · have hpos : 1 ≤ phy.minSyncCycleCount.toNat := h.known.count_pos
    have hone : (control phy).count = 1 := by
      show phy.minSyncCycleCount.toNat = 1
      omega
    let ending : P7ConnectionInfo UInt16 := { noted with minSyncCycleCount := 0 }
    have hended : next = endCycle lteVariant ending ind := by
      rw [hcounted, countDown_of_le_one (by omega)]
    have hcontrol : control ending = { control phy with count := 0 } := by
      rw [← hnoted.control_eq]
      rfl
    have hmode : ending.filteredAdjust = (control phy).filtered :=
      congrArg Control.filtered hcontrol
    have hclock' : ending.clock = wordOf 4 t := hnoted.clock_eq.trans hclock
    obtain ⟨hnextControl, hnextClock, hnextStored⟩ := hexchange.endCycle_over hclock'
      (by rw [hplace, hclock, sfnSf2Dec_eq]) (by rw [hcontrol]; exact h.known.zero_le)
      ⟨hnoted.stored.first_eq, hnoted.stored.average_eq⟩ (hnoted.last_eq hone) hnoted.offset_eq
      (by rw [hcontrol, ended_count, hmode]; exact hphase.ticks_eq_zero)
    rw [hmode] at hnextClock
    rw [hcontrol, ended_count, hmode] at hnextControl
    obtain ⟨less, hless, hle⟩ := hphase.ended hone
    obtain ⟨hlow, hhigh⟩ := hexchange.ticks_mem (hplace.trans (by rw [hclock, sfnSf2Dec_eq]))
      (control phy).filtered
    have hshift : ((t.shift (link.ticks (control phy).filtered gap)).decimal : ℤ) =
        t.decimal + link.ticks (control phy).filtered gap := by
      rw [Time.decimal_shift]
      exact Int.emod_eq_of_lt hlow hhigh
    have hgap : gapAfter gap phy next = gap + 1000 * link.ticks (control phy).filtered gap := by
      unfold gapAfter
      rw [hended, hnextClock, hclock, sfnSf2Dec_eq, sfnSf2Dec_eq, hshift]
      omega
    obtain ⟨-, -, hoffset, ht1, ht2⟩ := endCycle_fields ending ind
    refine ⟨next, less, hok, ?_, ?_, hle⟩
    · rw [hgap]
      rw [hended] at hknown ⊢
      exact ⟨hknown, ⟨_, hnextClock⟩, hnextStored.first_eq, fun _ ↦ hnextStored.average_eq,
        Or.inl hoffset, Or.inl ⟨ht1, ht2⟩⟩
    · rw [hgap, hended, hnextControl]
      exact hless

/-- A state with the gap between the two clocks, which nothing in the program knows. -/
structure Watched where
  state : VnfP7 UInt16
  gap : ℤ

/-- One round of the loop. Subframes pass for both clocks alike. -/
def watch (w : Watched) (event : Event) : Outcome (Output UInt16 × Watched) := do
  let (output, state) ← step lteVariant w.state event
  let gap := if event.isAnswer then gapAfter w.gap w.state.phy state.phy else w.gap
  .ok (output, ⟨state, gap⟩)

/-- An answer is that of an exchange over the link, all of it after the last move of the clock, and
is got in the subframe that has begun last. -/
def OverLink (link : Link) (w : Watched) : Event → Prop
  | .answer nowTimeHr ind =>
    let t4 := calculateT4 lteVariant nowTimeHr w.state.phy.clock w.state.startTimeHr
    ExchangeAt link w.gap (ind.t1.toNat - w.gap) t4 ind ∧
      t4.toNat / 1000 = sfnSf2Dec w.state.phy.clock
  | .subframe _ _ => True

theorem watch_step {w : Watched} (h : Tracking link w.gap w.state.phy)
    (hphase : Phase link w.gap (control w.state.phy) left) {event : Event}
    (hevent : OverLink link w event) :
    ∃ output next less, watch w event = .ok (output, next) ∧
      Tracking link next.gap next.state.phy ∧
      Phase link next.gap (control next.state.phy) less ∧
      less ≤ left - if event.isAnswer then 1 else 0 := by
  cases event with
  | answer nowTimeHr ind =>
    obtain ⟨hexchange, hplace⟩ := hevent
    obtain ⟨phy, less, hphy, htracking, hless, hle⟩ := h.answer hphase hexchange hplace
    refine ⟨{}, ⟨{ w.state with phy }, gapAfter w.gap w.state.phy phy⟩, less, ?_, htracking, hless,
      hle⟩
    have hstep : step lteVariant w.state (.answer nowTimeHr ind) =
        .ok ({}, { w.state with phy }) := by
      show (vnfHandleUlNodeSync _ w.state.phy w.state.startTimeHr nowTimeHr ind >>= _) = _
      rw [hphy, ok_bind]
    show (step lteVariant w.state (.answer nowTimeHr ind) >>= _) = _
    rw [hstep, ok_bind]
    rfl
  | subframe nowTimeHr sendTimeHr =>
    obtain ⟨t, hclock⟩ := h.clock
    obtain ⟨_, _, hminor⟩ := minorAdjustment_eq w.state.phy
    have hnext : incrementSfnSf (minorAdjustment w.state.phy).2.clock = wordOf 4 t.next := by
      rw [clock_minorAdjustment, hclock, incrementSfnSf_eq]
    let next : VnfP7 UInt16 :=
      ⟨nowTimeHr, { (minorAdjustment w.state.phy).2 with
        clock := incrementSfnSf (minorAdjustment w.state.phy).2.clock }⟩
    have hcontrol : control next.phy = control w.state.phy := control_minorAdjustment w.state.phy
    refine ⟨_, ⟨next, w.gap⟩, left, rfl, ⟨hcontrol ▸ h.known, ⟨t.next, hnext⟩, ?_, ?_, ?_⟩,
      hcontrol ▸ hphase, Nat.le_refl left⟩
    · show (minorAdjustment w.state.phy).2.latency[0] = 0
      simp only [hminor, h.first_eq]
    · show (minorAdjustment w.state.phy).2.minSyncCycleCount.toNat < _ →
        (minorAdjustment w.state.phy).2.averageLatency.toNat = _
      rw [hminor]
      exact h.average_eq
    · have hcycle : InCycle link w.gap (minorAdjustment w.state.phy).2 := by
        rw [hminor]
        exact ⟨h.cycle.1, h.cycle.2⟩
      exact ⟨hcycle.1, hcycle.2⟩

theorem watch_run {w : Watched} (events : List Event) (h : Tracking link w.gap w.state.phy)
    (hphase : Phase link w.gap (control w.state.phy) left)
    (hevents : AlongRun watch (OverLink link) w events) :
    ∃ outputs last less, runAll watch w events = .ok (outputs, last) ∧
      Tracking link last.gap last.state.phy ∧
      Phase link last.gap (control last.state.phy) less ∧
      less ≤ left - events.countP Event.isAnswer := by
  induction events generalizing w left with
  | nil => exact ⟨[], w, left, rfl, h, hphase, Nat.le_refl left⟩
  | cons event rest ih =>
    obtain ⟨hevent, hrest⟩ := hevents
    obtain ⟨output, next, less, hnext, htracking, hless, hle⟩ := watch_step h hphase hevent
    obtain ⟨outputs, last, least, hrun, hend, hleast, hle'⟩ :=
      ih htracking hless (hrest output next hnext)
    refine ⟨output :: outputs, last, least, runAll_cons hnext hrun, hend, hleast, ?_⟩
    rw [List.countP_cons]
    omega

/-- The gap is watched and not used. -/
theorem runAll_of_watch {w last : Watched} {events : List Event} {outputs : List (Output UInt16)}
    (h : runAll watch w events = .ok (outputs, last)) :
    runAll (step lteVariant) w.state events = .ok (outputs, last.state) := by
  induction events generalizing w outputs with
  | nil =>
    cases h
    rfl
  | cons event rest ih =>
    obtain ⟨⟨output, next⟩, hnext, hrest⟩ := bind_eq_ok.mp h
    obtain ⟨⟨others, final⟩, hrun, hpure⟩ := bind_eq_ok.mp hrest
    cases hpure
    obtain ⟨⟨output', state⟩, hstep, hwatched⟩ := bind_eq_ok.mp hnext
    cases hwatched
    exact runAll_cons hstep (ih hrun)

theorem tracking_addPnf (link : Link) (gap : ℤ) (t : Time lteDial) :
    Tracking link gap (addPnf (wordOf 4 t)) :=
  ⟨known_addPnf _, ⟨t, rfl⟩, rfl, fun hlt ↦ absurd hlt (Nat.lt_irrefl 8), Or.inl rfl,
    Or.inl ⟨rfl, rfl⟩⟩

end Runs

/-! ### A link -/

theorem exchangeAt_iff {link : Link} {gap sent : ℤ} {t4 : UInt32} {ind : UlNodeSync} :
    ExchangeAt link gap sent t4 ind ↔
      (ind.t1.toNat : ℤ) = sent + gap ∧ (ind.t2.toNat : ℤ) = sent + link.d1 ∧
        (ind.t3.toNat : ℤ) = sent + link.d1 + link.processing ∧
        (t4.toNat : ℤ) = sent + link.d1 + link.processing + link.d2 + gap ∧ 3000 ≤ sent ∧
        sent + link.processing + 3 * (link.d1 + link.d2) + 3000 < 10240000 ∧
        t4.toNat < 10240000 := by
  constructor
  · rintro ⟨h1, h2, h3, h4, hearly, hlate, hlt⟩
    exact ⟨h1, h2, h3, h4, hearly, hlate, hlt⟩
  · rintro ⟨h1, h2, h3, h4, hearly, hlate, hlt⟩
    exact ⟨h1, h2, h3, h4, hearly, hlate, hlt⟩

instance (link : Link) (gap sent : ℤ) (t4 : UInt32) (ind : UlNodeSync) :
    Decidable (ExchangeAt link gap sent t4 ind) := decidable_of_iff _ exchangeAt_iff.symm

instance (link : Link) (w : Watched) : (event : Event) → Decidable (OverLink link w event)
  | .answer _ _ => inferInstanceAs (Decidable (_ ∧ _))
  | .subframe _ _ => inferInstanceAs (Decidable True)

/-- A link of three tenths of a millisecond each way. -/
def shortLink : Link := ⟨300, 300, 100, by decide, by decide⟩

def shortExchanges : List Event :=
  List.replicate 52 (.answer 700 ⟨1000000, 1000300, 1000400⟩)

end MultiUeProxy.Clock.Convergence
