import MultiUeProxy.Clock.FrameClocks

/-!
# The shift of a node sync

`pnf_handle_dl_node_sync` keeps the shift that the VNF asks for until the next subframe indication,
which is to run that many subframes later or earlier. `pnf_p7_subframe_ind` adds the shift to the
number of the subframe and wraps the sum once, and then stores the number where all that follows
reads SFN and SF. So the subframe is the right one in the first frame of the cycle alone, where the
number and its packed form are the same (`shiftSfnSf_eq_iff`). `pnf_p7_slot_ind` adds the shift to
the slot of the frame and leaves the SFN, and the result is right when the slot does not leave its
frame (`shiftSlot_eq_iff`).

The sums are compared with the time on the dial for every shift of 32 bits, which goes around the
dial and around the 16 bits of the result many times: `327680` is the least common multiple of the
cycles and 65536.
-/

set_option autoImplicit false
set_option relaxedAutoImplicit false

namespace MultiUeProxy.Clock.NodeSync

open Lib.Execution Lib.CyclicClock Lib.CyclicClock.Time FrameClocks

/-! ### Words and numbers of 32 bits -/

/-- The low half of a number of 32 bits. -/
theorem toUInt16_toNat (x : Int32) : (x.toUInt32.toUInt16.toNat : ℤ) = x.toInt % 65536 := by
  have hword : x.toInt = if 2 * x.toUInt32.toNat < 2 ^ 32 then (x.toUInt32.toNat : ℤ)
      else x.toUInt32.toNat - (2 ^ 32 : ℕ) := BitVec.toInt_eq_toNat_cond x.toBitVec
  rw [UInt32.toNat_toUInt16, hword]
  split_ifs <;> omega

theorem bmod_of_mem {z : ℤ} (hle : -2147483648 ≤ z) (hlt : z < 2147483648) :
    z.bmod (2 ^ 32) = z := by
  rw [Int.bmod_def]
  split_ifs <;> omega

/-- A sum that is too large starts again at the other end. -/
theorem bmod_of_le {z : ℤ} (hle : 2147483648 ≤ z) (hlt : z < 6442450944) :
    z.bmod (2 ^ 32) = z - 4294967296 := by
  rw [Int.bmod_def]
  split_ifs <;> omega

/-- The single adjustment for the wrap-around. -/
def wrapOnce (s : ℤ) : ℤ := if s < 0 then s + 10240 else if s > 10240 then s - 10240 else s

/-- Three times a frame number is no multiple of 1024 but zero. -/
theorem quotient_eq_zero {frame : ℕ} {q : ℤ} (hframe : frame < 1024)
    (h : (3 * frame : ℤ) = 1024 * q) : q = 0 := by
  have hcases : q = 0 ∨ q = 1 ∨ q = 2 := by omega
  rcases hcases with rfl | rfl | rfl
  · rfl
  · omega
  · omega

/-- The word and the number of a time differ by six for each frame, and that is no multiple of
the cycle. -/
theorem frame_eq_zero {frame : ℕ} {rounds words : ℤ} (hframe : frame < 1024)
    (heq : 10240 * rounds = 65536 * words + 6 * frame) : frame = 0 ∧ 5 * rounds = 32 * words := by
  have hfive : 2048 * (5 * rounds) = 10240 * rounds := by omega
  rw [← hfive] at heq
  generalize 5 * rounds = fives at heq ⊢
  have hthrice : (3 * frame : ℤ) = 1024 * (fives - 32 * words) := by omega
  have hzero := quotient_eq_zero hframe hthrice
  rw [hzero] at hthrice
  constructor
  · omega
  · omega

/-- So a number with the word of its time is in the first frame. -/
theorem lt_ten_of_word {frame tick : ℕ} {rounds words rest : ℤ} (hframe : frame < 1024)
    (htick : tick < 10) (hnonneg : 0 ≤ rest) (hlt : rest < 327680)
    (htime : rest = 10240 * rounds + (frame * 10 + tick))
    (hword : rest = 65536 * words + (frame * 16 + tick)) : rest < 10 := by
  have hdiffer : 10240 * rounds = 65536 * words + 6 * frame := by
    have hsame := htime.symm.trans hword
    clear htime hword
    generalize 10240 * rounds = whole at hsame ⊢
    generalize 65536 * words = upper at hsame ⊢
    omega
  obtain ⟨rfl, hrounds⟩ := frame_eq_zero hframe hdiffer
  have hwords_nonneg : 0 ≤ words := by omega
  have hwords_lt : words < 5 := by omega
  have hwords : words = 0 := by omega
  omega

/-- A number and its time on the dial have the same word exactly in the first frame. -/
theorem packed_eq_word_iff {y : ℤ} {frame tick : ℕ} (hframe : frame < 1024) (htick : tick < 10)
    (htime : (frame * 10 + tick : ℤ) = y % 10240) :
    y % 65536 = (frame * 16 + tick : ℤ) ↔ y % 327680 < 10 := by
  have hcycle : y % 327680 % 10240 = y % 10240 := Int.emod_emod_of_dvd y (by decide)
  have hword : y % 327680 % 65536 = y % 65536 := Int.emod_emod_of_dvd y (by decide)
  have hnonneg : 0 ≤ y % 327680 := Int.emod_nonneg y (by decide)
  have hlt : y % 327680 < 327680 := Int.emod_lt_of_pos y (by decide)
  rw [← hword]
  rw [← hcycle] at htime
  generalize y % 327680 = rest at hnonneg hlt htime ⊢
  clear hcycle hword
  constructor
  · intro heq
    have hrounds := Int.mul_ediv_add_emod rest 10240
    have hwords := Int.mul_ediv_add_emod rest 65536
    rw [← htime] at hrounds
    rw [heq] at hwords
    exact lt_ten_of_word hframe htick hnonneg hlt hrounds.symm hwords.symm
  · intro hfirst
    rw [Int.emod_eq_of_lt hnonneg (by omega)] at htime ⊢
    omega

/-- A sum beyond the numbers of 32 bits has not the word of its time. -/
theorem packed_ne_word_of_overflow {x : ℤ} {frame tick : ℕ} (hframe : frame < 1024)
    (hle : 2147483648 ≤ x) (hlt : x < 2147493888)
    (htime : (frame * 10 + tick : ℤ) = x % 10240) :
    wrapOnce (x - 4294967296) % 65536 ≠ (frame * 16 + tick : ℤ) ∧
      ¬ wrapOnce x % 327680 < 10 := by
  obtain ⟨excess, rfl⟩ : ∃ excess, x = 2147483648 + excess := ⟨x - 2147483648, by omega⟩
  have hword : (2147483648 + excess - 4294967296 + 10240) % 65536 = excess + 10240 := by omega
  have hadjusted : (2147483648 + excess - 10240) % 327680 = excess + 186368 := by omega
  have hrest : (2147483648 + excess) % 10240 = (2048 + excess) % 10240 := by omega
  unfold wrapOnce
  rw [if_pos (by omega), if_neg (by omega), if_pos (by omega), hword, hadjusted]
  rw [hrest] at htime
  constructor
  · omega
  · omega

/-! ### The subframe -/

section Subframe

open Downlink.SubframeBuffer

variable {β : Type} (p : PnfP7 β) (t : Time lteDial)

theorem sfnSf2Dec_eq : sfnSf2Dec (wordOf 4 t) = t.decimal := by
  have hdiv : (wordOf 4 t).toNat / 16 = t.frame := by
    rw [lteDial_fits.wordOf_toNat]
    exact Time.packed_div lteDial_fits.ticks_le t
  have hmod : (wordOf 4 t).toNat % 16 = t.tick := by
    rw [lteDial_fits.wordOf_toNat]
    exact Time.packed_mod lteDial_fits.ticks_le t
  unfold sfnSf2Dec sfnSf2Sfn sfnSf2Sf
  rw [hdiv, hmod]
  rfl

/-- The sum as a number of 32 bits. -/
theorem shiftedSum_toInt (d : Int32) :
    (Int32.ofNat (sfnSf2Dec (wordOf 4 t)) + d).toInt =
      if t.decimal + d.toInt < 2147483648 then t.decimal + d.toInt
      else t.decimal + d.toInt - 4294967296 := by
  have hlt : t.decimal < 10240 := t.decimal_lt
  have hd := d.toInt_lt
  have hd' := d.le_toInt
  rw [Int32.toInt_add, sfnSf2Dec_eq, Int32.toInt_ofNat_of_lt (by omega)]
  split_ifs with hsum
  · exact bmod_of_mem (by omega) hsum
  · exact bmod_of_le (by omega) (by omega)

/-- The adjustment is computed without overflow. -/
theorem adjusted_toInt (s : Int32) :
    (if s < 0 then s + 10240 else if s > 10240 then s - 10240 else s).toInt =
      wrapOnce s.toInt := by
  have hlt := s.toInt_lt
  have hle := s.le_toInt
  have hneg : s < 0 ↔ s.toInt < 0 := by rw [Int32.lt_iff_toInt_lt]; rfl
  have hpos : s > 10240 ↔ s.toInt > 10240 := by rw [gt_iff_lt, Int32.lt_iff_toInt_lt]; rfl
  unfold wrapOnce
  simp only [hneg, hpos]
  split_ifs with hbelow habove
  · rw [Int32.toInt_add]
    exact bmod_of_mem (by show -2147483648 ≤ s.toInt + 10240; omega)
      (by show s.toInt + 10240 < 2147483648; omega)
  · rw [Int32.toInt_sub]
    exact bmod_of_mem (by show -2147483648 ≤ s.toInt - 10240; omega)
      (by show s.toInt - 10240 < 2147483648; omega)
  · rfl

/-- A subframe that is shifted has the low half of the adjusted number as its word. -/
theorem shiftSfnSf_toNat (hshift : p.sfnSfShift ≠ 0) :
    ((shiftSfnSf p (wordOf 4 t)).toNat : ℤ) =
      wrapOnce (if t.decimal + p.sfnSfShift.toInt < 2147483648
        then t.decimal + p.sfnSfShift.toInt
        else t.decimal + p.sfnSfShift.toInt - 4294967296) % 65536 := by
  unfold shiftSfnSf
  rw [if_pos hshift, ← shiftedSum_toInt, ← adjusted_toInt]
  exact toUInt16_toNat _

/-- The shifted subframe is the one so many subframes on exactly when there is no shift, or the
adjusted number is in the first frame. -/
theorem shiftSfnSf_eq_iff :
    shiftSfnSf p (wordOf 4 t) = wordOf 4 (t.shift p.sfnSfShift.toInt) ↔
      p.sfnSfShift = 0 ∨ wrapOnce (t.decimal + p.sfnSfShift.toInt) % 327680 < 10 := by
  by_cases hshift : p.sfnSfShift = 0
  · refine iff_of_true ?_ (Or.inl hshift)
    have hzero : (0 : Int32).toInt = 0 := rfl
    rw [shiftSfnSf, if_neg (not_not_intro hshift), hshift, hzero, shift_zero]
  · rw [or_iff_right hshift, ← UInt16.toNat_inj, ← Int.natCast_inj, shiftSfnSf_toNat p t hshift]
    have hlt : t.decimal < 10240 := t.decimal_lt
    have hd := p.sfnSfShift.toInt_lt
    have hd' := p.sfnSfShift.le_toInt
    have hdecimal : ((t.shift p.sfnSfShift.toInt).decimal : ℤ) =
      (t.decimal + p.sfnSfShift.toInt) % 10240 := decimal_shift t _
    have hparts : (t.shift p.sfnSfShift.toInt).decimal =
      (t.shift p.sfnSfShift.toInt).frame * 10 + (t.shift p.sfnSfShift.toInt).tick := rfl
    have htick : (t.shift p.sfnSfShift.toInt).tick < 10 := (t.shift _).tick_lt
    have hframe : (t.shift p.sfnSfShift.toInt).frame < 1024 := (t.shift _).frame_lt
    have hword : (wordOf 4 (t.shift p.sfnSfShift.toInt)).toNat =
        (t.shift p.sfnSfShift.toInt).frame * 16 + (t.shift p.sfnSfShift.toInt).tick :=
      lteDial_fits.wordOf_toNat _
    rw [hparts, Int.natCast_add, Int.natCast_mul] at hdecimal
    rw [hword, Int.natCast_add, Int.natCast_mul]
    split_ifs with hsum
    · have hwrap : wrapOnce (t.decimal + p.sfnSfShift.toInt) % 10240 =
          (t.decimal + p.sfnSfShift.toInt) % 10240 := by
        unfold wrapOnce
        split_ifs <;> omega
      exact packed_eq_word_iff hframe htick (hdecimal.trans hwrap.symm)
    · have hne := packed_ne_word_of_overflow hframe (by omega) (by omega) hdecimal
      exact iff_of_false hne.1 hne.2

/-- The tick, when it runs at a given subframe. -/
def subframeIndAt (cfg : Config β) (p : PnfP7 β) (sfnSf time : UInt16) :
    Outcome (List (SubframeNote β) × PnfP7 β) :=
  let sfnSfTx := sfnsfAddSf sfnSf sfAhead
  if cfg.subframeBufferSize = 0 then .ok ([], { p with sfnSf })
  else do
    let index ← bufferIndex cfg (sfnSf2Dec time)
    let txIndex ← bufferIndex cfg (sfnSf2Dec sfnSfTx)
    let (notes, buffer) := tickCells cfg p.subframeBuffer index txIndex time sfnSfTx
    return (notes, { p with sfnSf, sfnSfShift := 0, subframeBuffer := buffer })

/-- The tick runs at the shifted subframe. -/
theorem subframeInd_runs_at (cfg : Config β) (sfnSf : UInt16) :
    pnfP7SubframeInd cfg p sfnSf = subframeIndAt cfg p sfnSf (shiftSfnSf p sfnSf) := rfl

end Subframe

/-! ### The slot -/

/-- A number with the word and the time of a small one is that one. -/
theorem eq_of_word_eq_time {small rounds words rest : ℤ} (hnonneg : 0 ≤ rest)
    (hlt : rest < 327680) (hsmall : 0 ≤ small) (hsmall_lt : small < 20500)
    (htime : rest = 20480 * rounds + small) (hword : rest = 65536 * words + small) :
    rest = small := by
  have hratio : 16 * words = 5 * rounds := by omega
  have hwords_gt : -1 < words := by omega
  have hwords_lt : words < 5 := by omega
  have hwords : words = 0 := by omega
  omega

/-- A 16-bit number, taken down by a cycle when it is above one, is its slot on the dial exactly
when the number is inside of the first frame, or of the frame behind a cycle. -/
theorem slot_eq_word_iff {x : ℤ} {tick : ℕ} (htick : tick < 20) :
    (x % 20480 = tick ∧
        (if x % 65536 > 20480 then x % 65536 - 20480 else x % 65536) = (tick : ℤ)) ↔
      x % 327680 = tick ∨ 0 < tick ∧ x % 327680 = tick + 20480 := by
  have hcycle : x % 327680 % 20480 = x % 20480 := Int.emod_emod_of_dvd x (by decide)
  have hword : x % 327680 % 65536 = x % 65536 := Int.emod_emod_of_dvd x (by decide)
  have hnonneg : 0 ≤ x % 327680 := Int.emod_nonneg x (by decide)
  have hlt : x % 327680 < 327680 := Int.emod_lt_of_pos x (by decide)
  rw [← hcycle, ← hword]
  generalize x % 327680 = rest at hnonneg hlt ⊢
  clear hcycle hword
  constructor
  · rintro ⟨htime, hstored⟩
    have hrounds := Int.mul_ediv_add_emod rest 20480
    have hwords := Int.mul_ediv_add_emod rest 65536
    rw [htime] at hrounds
    split_ifs at hstored with habove
    · right
      have hsmall : rest % 65536 = tick + 20480 := by omega
      rw [hsmall] at hwords
      have htime' : rest = 20480 * (rest / 20480 - 1) + (tick + 20480) := by omega
      have hrest : rest = tick + 20480 :=
        eq_of_word_eq_time hnonneg hlt (by omega) (by omega) htime' hwords.symm
      exact ⟨by omega, hrest⟩
    · left
      rw [hstored] at hwords
      exact eq_of_word_eq_time hnonneg hlt (by omega) (by omega) hrounds.symm hwords.symm
  · rintro (hrest | ⟨hpos, hrest⟩)
    · rw [hrest, Int.emod_eq_of_lt (by omega) (by omega), Int.emod_eq_of_lt (by omega) (by omega)]
      exact ⟨rfl, if_neg (by omega)⟩
    · rw [hrest, Int.add_emod_right, Int.emod_eq_of_lt (by omega) (by omega),
        Int.emod_eq_of_lt (by omega) (by omega), if_pos (by omega)]
      exact ⟨rfl, by omega⟩

section Slot

open Downlink.SlotBuffer

variable {β : Type} (p : PnfP7 β) (t : Time nrDial)

/-- The slot that is stored for a shift. -/
theorem shiftSlot_toNat (hshift : p.slotShift ≠ 0) :
    ((shiftSlot p (counterOf t).sub).toNat : ℤ) =
      if (t.tick + p.slotShift.toInt) % 65536 > 20480
      then (t.tick + p.slotShift.toInt) % 65536 - 20480
      else (t.tick + p.slotShift.toInt) % 65536 := by
  have htick : t.tick < 20 := t.tick_lt
  have hword : ((Int32.ofNat (counterOf t).sub.toNat + p.slotShift).toUInt32.toUInt16.toNat : ℤ) =
      (t.tick + p.slotShift.toInt) % 65536 := by
    rw [toUInt16_toNat, Int32.toInt_add, nrDial_fits.sub_toNat,
      Int32.toInt_ofNat_of_lt (by omega),
      ← Int.emod_emod_of_dvd _ (by decide : (65536 : ℤ) ∣ ((2 ^ 32 : ℕ) : ℤ)),
      Int.bmod_emod, Int.emod_emod_of_dvd _ (by decide : (65536 : ℤ) ∣ ((2 ^ 32 : ℕ) : ℤ))]
  unfold shiftSlot
  rw [if_pos hshift, ← hword]
  generalize (Int32.ofNat (counterOf t).sub.toNat + p.slotShift).toUInt32.toUInt16 = shifted
  have habove : shifted > 20480 ↔ (shifted.toNat : ℤ) > 20480 := by
    rw [gt_iff_lt, UInt16.lt_iff_toNat_lt]
    show 20480 < shifted.toNat ↔ _
    omega
  simp only [habove]
  split_ifs with hlarge
  · rw [UInt16.toNat_sub_of_le _ _ (by rw [UInt16.le_iff_toNat_le]; show 20480 ≤ _; omega)]
    show ((shifted.toNat - 20480 : ℕ) : ℤ) = _
    omega
  · rfl

/-- The shifted slot, with the SFN that stays, is the one so many slots on exactly when the sum is a
slot of the frame, or such a slot and a whole cycle. -/
theorem shiftSlot_eq_iff :
    (counterOf t).sfn = (counterOf (t.shift p.slotShift.toInt)).sfn ∧
        shiftSlot p (counterOf t).sub = (counterOf (t.shift p.slotShift.toInt)).sub ↔
      (t.tick + p.slotShift.toInt) % 327680 < 20 ∨
        20480 < (t.tick + p.slotShift.toInt) % 327680 ∧
          (t.tick + p.slotShift.toInt) % 327680 < 20500 := by
  have htick : t.tick < 20 := t.tick_lt
  by_cases hshift : p.slotShift = 0
  · have hzero : (0 : Int32).toInt = 0 := rfl
    have hsame : shiftSlot p (counterOf t).sub = (counterOf t).sub := by
      rw [shiftSlot, if_neg (not_not_intro hshift)]
    rw [hsame, hshift, hzero, shift_zero, Int.add_zero]
    exact iff_of_true ⟨rfl, rfl⟩ (Or.inl (by omega))
  · have hdecimal : ((t.shift p.slotShift.toInt).decimal : ℤ) =
      (t.decimal + p.slotShift.toInt) % 20480 := decimal_shift t _
    have hparts : (t.shift p.slotShift.toInt).decimal =
      (t.shift p.slotShift.toInt).frame * 20 + (t.shift p.slotShift.toInt).tick := rfl
    have hnow : t.decimal = t.frame * 20 + t.tick := rfl
    have htick' : (t.shift p.slotShift.toInt).tick < 20 := (t.shift _).tick_lt
    have hframe : t.frame < 1024 := t.frame_lt
    have hstored : (shiftSlot p (counterOf t).sub).toNat = (t.shift p.slotShift.toInt).tick ↔
        (if (t.tick + p.slotShift.toInt) % 65536 > 20480
          then (t.tick + p.slotShift.toInt) % 65536 - 20480
          else (t.tick + p.slotShift.toInt) % 65536) = ((t.shift p.slotShift.toInt).tick : ℤ) := by
      rw [← shiftSlot_toNat p t hshift, Int.natCast_inj]
    rw [← UInt16.toNat_inj, ← UInt16.toNat_inj, nrDial_fits.sfn_toNat, nrDial_fits.sfn_toNat,
      nrDial_fits.sub_toNat, hstored]
    rw [hparts, hnow] at hdecimal
    generalize (t.shift p.slotShift.toInt).frame = frame at hdecimal ⊢
    generalize (t.shift p.slotShift.toInt).tick = tick at hdecimal htick' ⊢
    generalize p.slotShift.toInt = d at hdecimal ⊢
    constructor
    · rintro ⟨rfl, hword⟩
      have htime : (t.tick + d : ℤ) % 20480 = tick := by omega
      have hrest := (slot_eq_word_iff htick').mp ⟨htime, hword⟩
      clear htime hword hdecimal
      omega
    · intro hrest
      obtain ⟨slot, hslot, hcases⟩ : ∃ slot : ℕ, slot < 20 ∧ ((t.tick + d : ℤ) % 327680 = slot ∨
          0 < slot ∧ (t.tick + d : ℤ) % 327680 = slot + 20480) := by
        rcases hrest with hin | ⟨hlow, hhigh⟩
        · exact ⟨((t.tick + d : ℤ) % 327680).toNat, by omega, by omega⟩
        · exact ⟨((t.tick + d : ℤ) % 327680 - 20480).toNat, by omega, by omega⟩
      obtain ⟨htime, hword⟩ := (slot_eq_word_iff hslot).mpr hcases
      clear hcases hrest
      have hsame : slot = tick ∧ t.frame = frame := by
        clear hword
        omega
      rw [hword]
      exact ⟨hsame.2, by rw [hsame.1]⟩

/-- The tick, when it runs at a given slot of the frame. -/
def slotIndAt (cfg : Config β) (p : PnfP7 β) (sfn slot time : UInt16) :
    List (SlotNote β) × PnfP7 β :=
  let sfnSlotTx := sfnslotAddSlot sfn slot slotAhead
  let sfnTx := sfnSlot2Sfn sfnSlotTx
  let slotTx := sfnSlot2Slot sfnSlotTx
  let p := { p with sfn := sfnTx, slot := slotTx }
  if cfg.slotBufferSize = 0 then ([], p)
  else
    let (notes, buffer) := tickCells cfg p.slotBuffer (bufferIndex sfn slot)
      (bufferIndex sfnTx slotTx) sfn time sfnTx slotTx
    (notes, { p with slotShift := 0, slotBuffer := buffer })

/-- The tick runs at the SFN that it is called with, and at the shifted slot. -/
theorem slotInd_runs_at (cfg : Config β) (sfn slot : UInt16) :
    pnfP7SlotInd cfg p sfn slot = slotIndAt cfg p sfn slot (shiftSlot p slot) := rfl

end Slot

/-! ### The node syncs -/

section NodeSyncs

open Downlink

variable {β γ : Type}

end NodeSyncs

end MultiUeProxy.Clock.NodeSync
