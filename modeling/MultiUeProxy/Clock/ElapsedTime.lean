import MultiUeProxy.Clock.NodeSync

/-!
# Times in one word

The PNF keeps a time of day in 32 bits: the seconds, of which 12 bits are left, above 20 bits for the
microseconds (`timeHr`). `get_sf_time` and `get_slot_time` subtract the microseconds of two such
words, and adjust the difference if a second has begun in between. They compare the whole word with
the microseconds of the start to find out, and so they never do: the difference is the elapsed time
exactly if both times are in one second (`elapsed_exact_iff`).
-/

set_option autoImplicit false
set_option relaxedAutoImplicit false

namespace MultiUeProxy.Clock.ElapsedTime

open Downlink.SubframeBuffer (sfnSf2Dec)
open Downlink.SlotBuffer (sfnSlot2Dec)

/-! ### Words -/

/-- `struct timeval`, as `gettimeofday` fills it in. -/
structure Timeval where
  tvSec : ℕ
  tvUsec : ℕ
  tvUsec_lt : tvUsec < 1000000

/-- The microseconds since the epoch. -/
def Timeval.micros (t : Timeval) : ℕ := t.tvSec * 1000000 + t.tvUsec

/-- `TIME2TIMEHR`. -/
def timeHr (t : Timeval) : UInt32 :=
  ((UInt32.ofNat t.tvSec &&& 0xFFF) <<< 20) ||| (UInt32.ofNat t.tvUsec &&& 0xFFFFF)

/-- `TIMEHR_USEC`. -/
def timeHrUsec (timeHr : UInt32) : UInt32 := timeHr &&& 0xFFFFF

/-- The text of `get_sf_time` and `get_slot_time`, up to what they adjust the microseconds by. -/
def timeSince (adjustment nowHr startHr : UInt32) : UInt32 :=
  if nowHr < startHr then 0
  else
    let nowUs := timeHrUsec nowHr
    let startUs := timeHrUsec startHr
    let nowUs := if nowHr < startUs then nowUs + adjustment else nowUs
    nowUs - startUs

/-- `get_sf_time`. -/
def getSfTime : UInt32 → UInt32 → UInt32 := timeSince 1000000

/-- `get_slot_time`. -/
def getSlotTime : UInt32 → UInt32 → UInt32 := timeSince 500000

/-- `calculate_t2`, and `calculate_t3` for the time that it reads itself. -/
def calculateT2 (nowTimeHr : UInt32) (sfnSf : UInt16) (sfStartTimeHr : UInt32) : UInt32 :=
  UInt32.ofNat (sfnSf2Dec sfnSf * 1000) + getSfTime nowTimeHr sfStartTimeHr

/-- `calculate_nr_t2`, and `calculate_nr_t3` for the time that it reads itself. -/
def calculateNrT2 (nowTimeHr : UInt32) (sfn slot : UInt16) (slotStartTimeHr : UInt32) : UInt32 :=
  UInt32.ofNat (sfnSlot2Dec sfn slot * 500) + getSlotTime nowTimeHr slotStartTimeHr

/-! ### What is in a word -/

section Words

variable (t : Timeval)

/-- Seconds and microseconds do not overlap. -/
theorem timeHr_toNat : (timeHr t).toNat = t.tvSec % 4096 * 1048576 + t.tvUsec := by
  have husec := t.tvUsec_lt
  have hsec : (UInt32.ofNat t.tvSec &&& 0xFFF).toNat = t.tvSec % 4096 := by
    rw [UInt32.toNat_and, UInt32.toNat_ofNat']
    show t.tvSec % 2 ^ 32 &&& (2 ^ 12 - 1) = _
    rw [Nat.and_two_pow_sub_one_eq_mod]
    omega
  have hlow : (UInt32.ofNat t.tvUsec &&& 0xFFFFF).toNat = t.tvUsec := by
    rw [UInt32.toNat_and, UInt32.toNat_ofNat']
    show t.tvUsec % 2 ^ 32 &&& (2 ^ 20 - 1) = _
    rw [Nat.and_two_pow_sub_one_eq_mod]
    omega
  have hhigh : t.tvSec % 4096 * 2 ^ 20 < 2 ^ 32 := by omega
  unfold timeHr
  rw [UInt32.toNat_or, UInt32.toNat_shiftLeft, hsec, hlow]
  show (t.tvSec % 4096) <<< 20 % 2 ^ 32 ||| t.tvUsec = _
  rw [Nat.shiftLeft_eq, Nat.mod_eq_of_lt hhigh, ← Nat.shiftLeft_eq,
    ← Nat.shiftLeft_add_eq_or_of_lt (by omega), Nat.shiftLeft_eq]

theorem timeHrUsec_toNat : (timeHrUsec (timeHr t)).toNat = t.tvUsec := by
  have husec := t.tvUsec_lt
  unfold timeHrUsec
  rw [UInt32.toNat_and, timeHr_toNat]
  show _ &&& (2 ^ 20 - 1) = _
  rw [Nat.and_two_pow_sub_one_eq_mod]
  omega

end Words

/-! ### Differences -/

section Differences

variable {start now : Timeval} (adjustment : UInt32)

/-- A time is less than a second behind the start in the same second, or in the next one with fewer
microseconds. -/
theorem second_cases (hle : start.micros ≤ now.micros) (hlt : now.micros < start.micros + 1000000) :
    (now.tvSec = start.tvSec ∧ start.tvUsec ≤ now.tvUsec) ∨
      (now.tvSec = start.tvSec + 1 ∧ now.tvUsec < start.tvUsec) := by
  have hstart := start.tvUsec_lt
  have hnow := now.tvUsec_lt
  unfold Timeval.micros at hle hlt
  omega

/-- Where neither comparison holds, the microseconds are subtracted as they are. -/
theorem timeSince_of_not_lt {nowHr startHr : UInt32} (hwords : ¬ nowHr < startHr)
    (husec : ¬ nowHr < timeHrUsec startHr) :
    timeSince adjustment nowHr startHr = timeHrUsec nowHr - timeHrUsec startHr := by
  unfold timeSince
  dsimp only
  rw [if_neg hwords, if_neg husec]

/-- Within a second the difference is right. -/
theorem timeSince_of_same (hsec : now.tvSec = start.tvSec) (hle : start.tvUsec ≤ now.tvUsec) :
    (timeSince adjustment (timeHr now) (timeHr start)).toNat = now.micros - start.micros := by
  have hwords : ¬ timeHr now < timeHr start := by
    rw [UInt32.lt_iff_toNat_lt, timeHr_toNat, timeHr_toNat, hsec]
    omega
  have husec : ¬ timeHr now < timeHrUsec (timeHr start) := by
    rw [UInt32.lt_iff_toNat_lt, timeHrUsec_toNat, timeHr_toNat]
    omega
  unfold Timeval.micros
  rw [timeSince_of_not_lt adjustment hwords husec, UInt32.toNat_sub_of_le, timeHrUsec_toNat,
    timeHrUsec_toNat, hsec]
  · omega
  · rw [UInt32.le_iff_toNat_le, timeHrUsec_toNat, timeHrUsec_toNat]
    exact hle

/-- Where a second has begun, the difference is zero, or below zero and so very large. -/
theorem timeSince_of_next (hsec : now.tvSec = start.tvSec + 1) (hlt : now.tvUsec < start.tvUsec) :
    (timeSince adjustment (timeHr now) (timeHr start)).toNat ≠ now.micros - start.micros := by
  have hstart := start.tvUsec_lt
  have helapsed : now.micros - start.micros = 1000000 + now.tvUsec - start.tvUsec := by
    unfold Timeval.micros
    rw [hsec]
    omega
  rw [helapsed]
  by_cases hwords : timeHr now < timeHr start
  · -- The 12 bits of the seconds have wrapped.
    unfold timeSince
    rw [if_pos hwords]
    show 0 ≠ _
    omega
  · have hlater : ¬ (timeHr now).toNat < (timeHr start).toNat :=
      fun h ↦ hwords (UInt32.lt_iff_toNat_lt.mpr h)
    rw [timeHr_toNat, timeHr_toNat, hsec] at hlater
    have husec : ¬ timeHr now < timeHrUsec (timeHr start) := by
      rw [UInt32.lt_iff_toNat_lt, timeHrUsec_toNat, timeHr_toNat, hsec]
      omega
    rw [timeSince_of_not_lt adjustment hwords husec, UInt32.toNat_sub, timeHrUsec_toNat,
      timeHrUsec_toNat]
    omega

/-- Two readings of the clock in the second of the start are in order after the subtraction. -/
theorem timeSince_mono {earlier : Timeval} (hearlier : earlier.tvSec = start.tvSec)
    (hnow : now.tvSec = start.tvSec) (hle : start.tvUsec ≤ earlier.tvUsec)
    (hle' : earlier.tvUsec ≤ now.tvUsec) :
    (timeSince adjustment (timeHr earlier) (timeHr start)).toNat ≤
      (timeSince adjustment (timeHr now) (timeHr start)).toNat := by
  rw [timeSince_of_same adjustment hearlier hle,
    timeSince_of_same adjustment hnow (Nat.le_trans hle hle')]
  unfold Timeval.micros
  omega

/-- The elapsed time comes to less than a second. -/
theorem timeSince_lt (hsec : now.tvSec = start.tvSec) (hle : start.tvUsec ≤ now.tvUsec) :
    (timeSince adjustment (timeHr now) (timeHr start)).toNat < 1000000 := by
  have hnow := now.tvUsec_lt
  rw [timeSince_of_same adjustment hsec hle]
  unfold Timeval.micros
  omega

end Differences

/-! ### Timestamps -/

/-- A timestamp made of a decimal time and the time since does not wrap, and follows the time
since. -/
theorem timestamp_mono {base : ℕ} {earlier later : UInt32} (hbase : base < 4000000000)
    (hlater : later.toNat < 1000000) (hle : earlier.toNat ≤ later.toNat) :
    UInt32.ofNat base + earlier ≤ UInt32.ofNat base + later := by
  rw [UInt32.le_iff_toNat_le, UInt32.toNat_add, UInt32.toNat_add, UInt32.toNat_ofNat']
  omega

theorem sfnSf2Dec_lt (sfnSf : UInt16) : sfnSf2Dec sfnSf * 1000 < 4000000000 := by
  have hword := sfnSf.toNat_lt
  unfold sfnSf2Dec Downlink.SubframeBuffer.sfnSf2Sfn Downlink.SubframeBuffer.sfnSf2Sf
  omega

theorem sfnSlot2Dec_lt (sfn slot : UInt16) : sfnSlot2Dec sfn slot * 500 < 4000000000 := by
  have hsfn := sfn.toNat_lt
  have hslot := slot.toNat_lt
  unfold sfnSlot2Dec
  omega

/-- The times since the start are the elapsed microseconds, and no timestamp of the subframe or slot
taken before this one is larger. -/
structure ElapsedExact (start now : Timeval) (sfnSf sfn slot : UInt16) : Prop where
  sfTime : (getSfTime (timeHr now) (timeHr start)).toNat = now.micros - start.micros
  slotTime : (getSlotTime (timeHr now) (timeHr start)).toNat = now.micros - start.micros
  t2_mono : ∀ earlier : Timeval, start.micros ≤ earlier.micros → earlier.micros ≤ now.micros →
    calculateT2 (timeHr earlier) sfnSf (timeHr start) ≤ calculateT2 (timeHr now) sfnSf (timeHr start)
  nrT2_mono : ∀ earlier : Timeval, start.micros ≤ earlier.micros → earlier.micros ≤ now.micros →
    calculateNrT2 (timeHr earlier) sfn slot (timeHr start) ≤
      calculateNrT2 (timeHr now) sfn slot (timeHr start)

/-- Up to a second after the start, the time since is exact in the second of the start only. -/
theorem elapsed_exact_iff {start now : Timeval} (hle : start.micros ≤ now.micros)
    (hlt : now.micros < start.micros + 1000000) (sfnSf sfn slot : UInt16) :
    ElapsedExact start now sfnSf sfn slot ↔ now.tvSec = start.tvSec := by
  constructor
  · intro hexact
    rcases second_cases hle hlt with ⟨hsame, -⟩ | ⟨hnext, hfewer⟩
    · exact hsame
    · exact absurd hexact.sfTime (timeSince_of_next _ hnext hfewer)
  · intro hsame
    have husec : start.tvUsec ≤ now.tvUsec := by
      unfold Timeval.micros at hle
      omega
    have hbetween : ∀ earlier : Timeval, start.micros ≤ earlier.micros →
        earlier.micros ≤ now.micros → earlier.tvSec = start.tvSec ∧
          start.tvUsec ≤ earlier.tvUsec ∧ earlier.tvUsec ≤ now.tvUsec := by
      intro earlier hstart hnow
      have hearlier := earlier.tvUsec_lt
      have hbound := now.tvUsec_lt
      have hfirst := start.tvUsec_lt
      unfold Timeval.micros at hstart hnow
      omega
    constructor
    · exact timeSince_of_same _ hsame husec
    · exact timeSince_of_same _ hsame husec
    · intro earlier hstart hnow
      obtain ⟨hsec, hfront, hback⟩ := hbetween earlier hstart hnow
      exact timestamp_mono (sfnSf2Dec_lt sfnSf) (timeSince_lt _ hsame husec)
        (timeSince_mono _ hsec hsame hfront hback)
    · intro earlier hstart hnow
      obtain ⟨hsec, hfront, hback⟩ := hbetween earlier hstart hnow
      exact timestamp_mono (sfnSlot2Dec_lt sfn slot) (timeSince_lt _ hsame husec)
        (timeSince_mono _ hsec hsame hfront hback)

/-- 400 microseconds into a subframe, in the second in which it began. -/
theorem elapsed_exact_same_second :
    ElapsedExact ⟨5, 100, by decide⟩ ⟨5, 500, by decide⟩ 0x0010 1 0 :=
  (elapsed_exact_iff (by decide) (by decide) 0x0010 1 0).mpr rfl

/-- 400 microseconds into a subframe that began 100 microseconds before the end of a second. -/
theorem elapsed_wrong_next_second :
    ¬ ∀ start now : Timeval, start.micros ≤ now.micros → now.micros < start.micros + 1000000 →
      ∀ sfnSf sfn slot, ElapsedExact start now sfnSf sfn slot := by
  intro hall
  have hexact := (hall ⟨5, 999900, by decide⟩ ⟨6, 300, by decide⟩ (by decide) (by decide) 0 0
    0).sfTime
  have hwrong : (getSfTime (timeHr ⟨6, 300, by decide⟩) (timeHr ⟨5, 999900, by decide⟩)).toNat =
      4293967696 := rfl
  rw [hwrong] at hexact
  exact absurd hexact (by decide)

end MultiUeProxy.Clock.ElapsedTime
