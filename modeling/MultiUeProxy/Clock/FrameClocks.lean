import MultiUeProxy.Downlink.SlotBuffer
import MultiUeProxy.Lib.CyclicClock
import MultiUeProxy.Uplink.Run

/-!
# The frame clocks

The proxy moves a frame number and a subframe or slot number in several places: the counters of the
tick loops, `sfn_sf_add` and `sfn_slot_add` of the proxy, and `add_sf`, `add_slot` and their packed
forms in the PNF library. A valid time is a `Time` on the dial of its variant, 1024 frames of 10
subframes or of 20 slots, and each of these functions is an advance on that dial
(`lteClocks_agree`, `nrClocks_agree`).

The way back is not. `subtract_sf` borrows one frame at most, so it undoes an addition of up to
ten subframes more than the subframe number it starts from; `subtract_undoes_add_iff` has the exact
condition, with the one other case where the frames go once around the dial.

The arguments of type `int` and their sums are integers here. The sums of the source overflow for
offsets next to the ends of `int` only.
-/

set_option autoImplicit false
set_option relaxedAutoImplicit false

namespace MultiUeProxy.Clock.FrameClocks

open Lib.CyclicClock Lib.CyclicClock.Time Uplink.Run Uplink.Indications
open Downlink.SubframeBuffer (sfnsfAddSf sfnSf2Sfn sfnSf2Sf sfnSf2Dec)
open Downlink.SlotBuffer (sfnslotAddSlot)

/-! ### The dials -/

/-- The dial of LTE. -/
def lteDial : Dial := ⟨1024, 10, by decide, by decide⟩

/-- The dial of NR, for numerology 1. -/
def nrDial : Dial := ⟨1024, 20, by decide, by decide⟩

section Words

variable {d : Dial}

/-- A time in the two variables of a task. -/
def counterOf (t : Time d) : Counter := ⟨.ofNat t.frame, .ofNat t.tick⟩

/-- A time in the packed encoding. -/
def wordOf (bits : ℕ) (t : Time d) : UInt16 := .ofNat (t.packed bits)

end Words

/-! ### The functions -/

/-- `sfn_slot_add`. -/
def sfnSlotAdd (sfn slot addVal : UInt16) : UInt16 × UInt16 :=
  (.ofNat ((sfn.toNat + (slot.toNat + addVal.toNat) / 20) % 1024),
    .ofNat ((slot.toNat + addVal.toNat) % 20))

/-- The text of `add_sf` and `add_slot`. Division and remainder are those of C. -/
def addTicks (ticks : ℤ) (frameP tickP : UInt16) (offset : ℤ) : UInt16 × UInt16 :=
  (.ofInt ((frameP.toNat + (tickP.toNat + offset).tdiv ticks).tmod 1024),
    .ofInt ((tickP.toNat + offset).tmod ticks))

/-- `add_sf`. -/
def addSf : UInt16 → UInt16 → ℤ → UInt16 × UInt16 := addTicks 10

/-- `add_slot`. -/
def addSlot : UInt16 → UInt16 → ℤ → UInt16 × UInt16 := addTicks 20

/-- `subtract_sf`. -/
def subtractSf (frameP subframeP : UInt16) (offset : ℤ) : UInt16 × UInt16 :=
  let frame := if subframeP.toNat < offset then .ofNat ((frameP.toNat + 1024 - 1) % 1024)
    else frameP
  (frame, .ofInt ((subframeP.toNat + 10 - offset).tmod 10))

/-- `sfnsf_subtract_sf`. -/
def sfnsfSubtractSf (sfnsf : UInt16) (offset : ℤ) : UInt16 :=
  let (sfn, sf) := subtractSf (sfnsf >>> 4) (sfnsf &&& 0xF) offset
  (sfn <<< 4) ||| sf

/-- The variables of `oai_subframe_task` after some steps of `sfn_sf_counter`. -/
def sfnSfSteps (c : Counter) (n : ℕ) : Counter := (fun c ↦ (sfnSfCounter c).1)^[n] c

/-- The variables of `oai_slot_task` after some steps of `sfn_slot_counter`. -/
def sfnSlotSteps (c : Counter) (n : ℕ) : Counter := (fun c ↦ (sfnSlotCounter c).1)^[n] c

/-! ### Words -/

/-- The numbers of a time and its packed form fit 16 bits. -/
structure FitsWord (d : Dial) (bits : ℕ) : Prop where
  frames_eq : d.frames = 1024
  ticks_le : d.ticks ≤ 2 ^ bits
  bits_le : bits ≤ 6

theorem lteDial_fits : FitsWord lteDial 4 := ⟨rfl, by decide, by decide⟩

theorem nrDial_fits : FitsWord nrDial 6 := ⟨rfl, by decide, Nat.le_refl 6⟩

/-- A word with a number below the shifted one. -/
theorem or_shift_toNat {frame tick : UInt16} {bits : ℕ} (hbits : bits ≤ 6)
    (hframe : frame.toNat * 2 ^ bits < 65536) (htick : tick.toNat < 2 ^ bits) :
    ((frame <<< UInt16.ofNat bits) ||| tick).toNat = frame.toNat * 2 ^ bits + tick.toNat := by
  have hamount : (UInt16.ofNat bits).toNat % 16 = bits := by
    rw [UInt16.toNat_ofNat']
    omega
  rw [UInt16.toNat_or, UInt16.toNat_shiftLeft, hamount, Nat.shiftLeft_eq, Nat.mod_eq_of_lt hframe,
    ← Nat.shiftLeft_eq, ← Nat.shiftLeft_add_eq_or_of_lt htick, Nat.shiftLeft_eq]

section Words

variable {d : Dial} {bits : ℕ}

theorem FitsWord.frame_lt (h : FitsWord d bits) (t : Time d) : t.frame < 1024 :=
  h.frames_eq ▸ t.frame_lt

theorem FitsWord.pow_le (h : FitsWord d bits) : 2 ^ bits ≤ 64 :=
  Nat.pow_le_pow_right (by decide) h.bits_le

theorem FitsWord.tick_lt (h : FitsWord d bits) (t : Time d) : t.tick < 2 ^ bits :=
  Nat.lt_of_lt_of_le t.tick_lt h.ticks_le

theorem FitsWord.packed_lt (h : FitsWord d bits) (t : Time d) : t.packed bits < 65536 := by
  have hlt := Time.packed_lt h.ticks_le t
  have hle : d.frames * 2 ^ bits ≤ 1024 * 64 := by
    rw [h.frames_eq]
    exact Nat.mul_le_mul_left 1024 h.pow_le
  omega

theorem FitsWord.sfn_toNat (h : FitsWord d bits) (t : Time d) :
    (counterOf t).sfn.toNat = t.frame := by
  have := h.frame_lt t
  show t.frame % 65536 = t.frame
  omega

theorem FitsWord.sub_toNat (h : FitsWord d bits) (t : Time d) :
    (counterOf t).sub.toNat = t.tick := by
  have := h.tick_lt t
  have := h.pow_le
  show t.tick % 65536 = t.tick
  omega

theorem FitsWord.wordOf_toNat (h : FitsWord d bits) (t : Time d) :
    (wordOf bits t).toNat = t.packed bits := by
  have := h.packed_lt t
  show t.packed bits % 65536 = t.packed bits
  omega

/-- The packed word as the source puts it together. -/
theorem FitsWord.word_eq (h : FitsWord d bits) (t : Time d) :
    ((counterOf t).sfn <<< UInt16.ofNat bits) ||| (counterOf t).sub = wordOf bits t := by
  have hpacked := h.packed_lt t
  unfold Time.packed at hpacked
  apply UInt16.toNat_inj.mp
  rw [or_shift_toNat h.bits_le, h.sfn_toNat, h.sub_toNat, h.wordOf_toNat]
  · rfl
  · rw [h.sfn_toNat]
    omega
  · rw [h.sub_toNat]
    exact h.tick_lt t

/-- The upper bits of a packed word. -/
theorem FitsWord.word_shiftRight (h : FitsWord d bits) (t : Time d) :
    (wordOf bits t >>> UInt16.ofNat bits).toNat = t.frame := by
  have hamount : (UInt16.ofNat bits).toNat % 16 = bits := by
    have := h.bits_le
    rw [UInt16.toNat_ofNat']
    omega
  rw [UInt16.toNat_shiftRight, hamount, Nat.shiftRight_eq_div_pow, h.wordOf_toNat,
    Time.packed_div h.ticks_le]

/-- The lower bits of a packed word. -/
theorem FitsWord.word_and (h : FitsWord d bits) (t : Time d) {mask : UInt16}
    (hmask : mask.toNat = 2 ^ bits - 1) : (wordOf bits t &&& mask).toNat = t.tick := by
  rw [UInt16.toNat_and, hmask, Nat.and_two_pow_sub_one_eq_mod, h.wordOf_toNat,
    Time.packed_mod h.ticks_le]

/-- The counter of the source makes the step of the dial. -/
theorem FitsWord.counter_next (h : FitsWord d bits) (t : Time d) :
    (counterOf t).next (.ofNat d.ticks) = counterOf t.next := by
  have hticks : (UInt16.ofNat d.ticks).toNat = d.ticks := by
    have := h.ticks_le
    have := h.pow_le
    rw [UInt16.toNat_ofNat']
    omega
  have hframe := h.frame_lt t
  have htick := t.tick_lt
  have hbound := h.pow_le
  have hle := h.ticks_le
  have hsub : (counterOf t).sub + 1 = UInt16.ofNat d.ticks ↔ t.tick + 1 = d.ticks := by
    rw [← UInt16.toNat_inj, UInt16.toNat_add, h.sub_toNat, hticks]
    show (t.tick + 1) % 65536 = d.ticks ↔ _
    omega
  have hsfn : (counterOf t).sfn + 1 = 1024 ↔ t.frame + 1 = d.frames := by
    rw [← UInt16.toNat_inj, UInt16.toNat_add, h.sfn_toNat, h.frames_eq]
    show (t.frame + 1) % 65536 = 1024 ↔ _
    omega
  unfold Counter.next Time.next
  by_cases hcarry : t.tick + 1 < d.ticks
  · rw [if_neg (by rw [hsub]; omega), dif_pos hcarry]
    unfold counterOf
    rw [UInt16.ofNat_add t.tick 1]
    rfl
  · rw [if_pos (by rw [hsub]; omega), dif_neg hcarry]
    by_cases hwrap : t.frame + 1 < d.frames
    · rw [if_neg (by rw [hsfn]; omega), dif_pos hwrap]
      unfold counterOf
      rw [UInt16.ofNat_add t.frame 1]
      rfl
    · rw [if_pos (by rw [hsfn]; have := t.frame_lt; omega), dif_neg hwrap]
      rfl

/-- Steps of the counter are an advance. -/
theorem FitsWord.counter_iterate (h : FitsWord d bits) (t : Time d) (n : ℕ) :
    (Counter.next (.ofNat d.ticks))^[n] (counterOf t) = counterOf (t.advance n) := by
  have hsemi : Function.Semiconj counterOf next (Counter.next (.ofNat d.ticks)) :=
    fun t ↦ (h.counter_next t).symm
  rw [← next_iterate]
  exact (hsemi.iterate_right n t).symm

theorem ofInt_natCast (x : ℕ) : UInt16.ofInt (x : ℤ) = UInt16.ofNat x := by
  apply UInt16.toNat_inj.mp
  unfold UInt16.ofInt
  rw [UInt16.toNat_ofNat', UInt16.toNat_ofNat']
  omega

/-- The text of `add_sf` and `add_slot` is an advance. -/
theorem FitsWord.addTicks_eq (h : FitsWord d bits) (t : Time d) (n : ℕ) :
    addTicks d.ticks (counterOf t).sfn (counterOf t).sub n =
      ((counterOf (t.advance n)).sfn, (counterOf (t.advance n)).sub) := by
  have hframe : (((t.frame : ℕ) : ℤ) + (((t.tick : ℕ) : ℤ) + n).tdiv d.ticks).tmod 1024 =
      ((t.advance n).frame : ℤ) := by
    rw [advance_frame, h.frames_eq, ← Int.natCast_add, ← Int.ofNat_tdiv, ← Int.natCast_add]
    rfl
  have htick : (((t.tick : ℕ) : ℤ) + n).tmod d.ticks = ((t.advance n).tick : ℤ) := by
    rw [advance_tick, ← Int.natCast_add]
    rfl
  unfold addTicks
  rw [h.sfn_toNat, h.sub_toNat, hframe, htick, ofInt_natCast, ofInt_natCast]
  rfl

end Words

/-! ### The clocks of LTE -/

section Lte

variable (t : Time lteDial) (n : ℕ)

theorem sfnSfSteps_eq : sfnSfSteps (counterOf t) n = counterOf (t.advance n) :=
  lteDial_fits.counter_iterate t n

/-- `sfn_sf_add` is an advance as long as its sum fits 16 bits. -/
theorem sfnSfAdd_eq (hsum : t.decimal + n < 65536) :
    sfnSfAdd (wordOf 4 t) (.ofNat n) = wordOf 4 (t.advance n) := by
  have hsfn : (wordOf 4 t >>> 4).toNat = t.frame := lteDial_fits.word_shiftRight t
  have hsf : (wordOf 4 t &&& 15).toNat = t.tick := lteDial_fits.word_and t rfl
  have hdecimal : t.frame * 10 + t.tick = t.decimal := rfl
  have htemp : ((wordOf 4 t >>> 4) * 10 + (wordOf 4 t &&& 15) + .ofNat n).toNat =
      t.decimal + n := by
    rw [UInt16.toNat_add, UInt16.toNat_add, UInt16.toNat_mul, hsfn, hsf, UInt16.toNat_ofNat']
    show ((t.frame * 10 % 65536 + t.tick) % 65536 + n % 65536) % 65536 = t.decimal + n
    omega
  have hframe : ((wordOf 4 t >>> 4) * 10 + (wordOf 4 t &&& 15) + .ofNat n) / 10 % 1024 =
      (counterOf (t.advance n)).sfn := by
    apply UInt16.toNat_inj.mp
    rw [UInt16.toNat_mod, UInt16.toNat_div, htemp, lteDial_fits.sfn_toNat]
    rfl
  have htick : ((wordOf 4 t >>> 4) * 10 + (wordOf 4 t &&& 15) + .ofNat n) % 10 =
      (counterOf (t.advance n)).sub := by
    apply UInt16.toNat_inj.mp
    rw [UInt16.toNat_mod, htemp, lteDial_fits.sub_toNat]
    rfl
  unfold sfnSfAdd
  simp only [hframe, htick]
  exact lteDial_fits.word_eq (t.advance n)

/-- `sfnsf_add_sf` is an advance. -/
theorem sfnsfAddSf_eq : sfnsfAddSf (wordOf 4 t) n = wordOf 4 (t.advance n) := by
  have hsfn : sfnSf2Sfn (wordOf 4 t) = t.frame := by
    rw [sfnSf2Sfn, lteDial_fits.wordOf_toNat]
    exact Time.packed_div lteDial_fits.ticks_le t
  have hsf : sfnSf2Sf (wordOf 4 t) = t.tick := by
    rw [sfnSf2Sf, lteDial_fits.wordOf_toNat]
    exact Time.packed_mod lteDial_fits.ticks_le t
  have hframe : (t.frame + (t.tick + n) / 10) % 1024 = (t.advance n).frame :=
    (advance_frame t n).symm
  have htick : (t.tick + n) % 10 = (t.advance n).tick := (advance_tick t n).symm
  unfold sfnsfAddSf
  simp only [hsfn, hsf, hframe, htick]
  rfl

end Lte

/-! ### Subtraction -/

theorem toNat_ofInt_of_nonneg {z : ℤ} (hnonneg : 0 ≤ z) (hlt : z < 65536) :
    (UInt16.ofInt z).toNat = z.toNat := by
  unfold UInt16.ofInt
  rw [UInt16.toNat_ofNat']
  omega

theorem toNat_ofInt_of_neg {z : ℤ} (hneg : z < 0) (hlt : -65536 ≤ z) :
    (UInt16.ofInt z).toNat = (z + 65536).toNat := by
  unfold UInt16.ofInt
  rw [UInt16.toNat_ofNat']
  omega

section Subtraction

variable (t : Time lteDial) (n : ℕ)

/-- The two numbers that `sfnsf_subtract_sf` takes out of a word. -/
theorem sfnsfSubtractSf_eq :
    sfnsfSubtractSf (wordOf 4 t) n =
      ((if t.tick < n then UInt16.ofNat ((t.frame + 1023) % 1024) else UInt16.ofNat t.frame) <<< 4)
        ||| UInt16.ofInt ((t.tick + 10 - n : ℤ).tmod 10) := by
  have hframe := lteDial_fits.frame_lt t
  have hsfn : wordOf 4 t >>> 4 = UInt16.ofNat t.frame := by
    apply UInt16.toNat_inj.mp
    rw [show (wordOf 4 t >>> 4).toNat = t.frame from lteDial_fits.word_shiftRight t,
      UInt16.toNat_ofNat']
    omega
  have hsf : (wordOf 4 t &&& 0xF).toNat = t.tick := lteDial_fits.word_and t rfl
  have hword : (UInt16.ofNat t.frame).toNat = t.frame := lteDial_fits.sfn_toNat t
  unfold sfnsfSubtractSf subtractSf
  simp only [hsf, hsfn, hword, Int.ofNat_lt]
  rfl

/-- `subtract_sf` goes back by up to ten subframes more than the subframe number. -/
theorem sfnsfSubtractSf_of_le (h : n ≤ t.tick + 10) :
    sfnsfSubtractSf (wordOf 4 t) n = wordOf 4 (t.shift (-n)) := by
  have hframe : t.frame < 1024 := t.frame_lt
  have htick : t.tick < 10 := t.tick_lt
  have hdecimal : t.decimal = t.frame * 10 + t.tick := rfl
  have hshift : ((t.shift (-n)).decimal : ℤ) = (t.decimal + -(n : ℤ)) % 10240 :=
    decimal_shift t (-n)
  have hframe' : (t.shift (-n)).frame = (t.shift (-n)).decimal / 10 := (decimal_div _).symm
  have htick' : (t.shift (-n)).tick = (t.shift (-n)).decimal % 10 := (decimal_mod _).symm
  have hsub : UInt16.ofInt ((t.tick + 10 - n : ℤ).tmod 10) = (counterOf (t.shift (-n))).sub := by
    apply UInt16.toNat_inj.mp
    rw [Int.tmod_eq_emod_of_nonneg (by omega), toNat_ofInt_of_nonneg (by omega) (by omega),
      lteDial_fits.sub_toNat, htick']
    omega
  have hsfn : (if t.tick < n then UInt16.ofNat ((t.frame + 1023) % 1024)
      else UInt16.ofNat t.frame) = (counterOf (t.shift (-n))).sfn := by
    apply UInt16.toNat_inj.mp
    rw [lteDial_fits.sfn_toNat, hframe']
    split_ifs with hborrow
    · rw [UInt16.toNat_ofNat']
      omega
    · rw [UInt16.toNat_ofNat']
      omega
  rw [sfnsfSubtractSf_eq, hsfn, hsub]
  exact lteDial_fits.word_eq _

/-- Further back it still borrows one frame, and the remainder of a negative number is negative. -/
theorem sfnsfSubtractSf_of_gt (h : t.tick + 10 < n) :
    if (n - t.tick) % 10 = 0
    then (sfnsfSubtractSf (wordOf 4 t) n).toNat = (t.frame + 1023) % 1024 * 16
    else 65526 < (sfnsfSubtractSf (wordOf 4 t) n).toNat := by
  have hneg : (t.tick + 10 - n : ℤ) = -((n - t.tick - 10 : ℕ) : ℤ) := by omega
  have hsfn : (UInt16.ofNat ((t.frame + 1023) % 1024)).toNat = (t.frame + 1023) % 1024 := by
    rw [UInt16.toNat_ofNat']
    omega
  have htmod : ((n - t.tick - 10 : ℕ) : ℤ).tmod 10 = ((n - t.tick - 10) % 10 : ℕ) := rfl
  have hborrow : t.tick < n := by omega
  rw [sfnsfSubtractSf_eq, if_pos hborrow, hneg, Int.neg_tmod, htmod]
  split_ifs with hround
  · have hzero : (n - t.tick - 10) % 10 = 0 := by omega
    have hnothing : UInt16.ofInt (-((0 : ℕ) : ℤ)) = 0 := rfl
    have hamount : (4 : UInt16).toNat % 16 = 4 := rfl
    rw [hzero, hnothing, UInt16.or_zero, UInt16.toNat_shiftLeft, hsfn, hamount, Nat.shiftLeft_eq]
    omega
  · rw [UInt16.toNat_or]
    apply Nat.lt_of_lt_of_le _ Nat.right_le_or
    rw [toNat_ofInt_of_neg (by omega) (by omega)]
    omega

/-- The way back from an advance. -/
theorem shift_neg_advance : (t.advance n).shift (-n) = t := by
  have hlt : t.decimal < 10240 := t.decimal_lt
  have hadvance : (t.advance n).decimal = (t.decimal + n) % 10240 := decimal_advance t n
  have hshift : (((t.advance n).shift (-n)).decimal : ℤ) =
      ((t.advance n).decimal + -(n : ℤ)) % 10240 := decimal_shift _ _
  apply decimal_inj.mp
  omega

/-- Subtracting what was added leads back exactly when one borrow is enough, or when the start is
the first subframe of a frame and the addition goes one frame beyond whole cycles. -/
theorem subtract_undoes_add_iff :
    sfnsfSubtractSf (sfnsfAddSf (wordOf 4 t) n) n = wordOf 4 t ↔
      n ≤ (t.tick + n) % 10 + 10 ∨ t.tick = 0 ∧ n / 10 % 1024 = 1 := by
  have hframe : t.frame < 1024 := t.frame_lt
  have htick : t.tick < 10 := t.tick_lt
  have htick' : (t.advance n).tick = (t.tick + n) % 10 := advance_tick t n
  have hframe' : (t.advance n).frame = (t.frame + (t.tick + n) / 10) % 1024 := advance_frame t n
  have hword : (wordOf 4 t).toNat = t.frame * 16 + t.tick := lteDial_fits.wordOf_toNat t
  rw [sfnsfAddSf_eq]
  by_cases hle : n ≤ (t.tick + n) % 10 + 10
  · refine iff_of_true ?_ (Or.inl hle)
    rw [sfnsfSubtractSf_of_le _ _ (by omega), shift_neg_advance]
  · have hgt := sfnsfSubtractSf_of_gt (t.advance n) n (by omega)
    rw [← UInt16.toNat_inj, hword]
    split_ifs at hgt with hround
    · rw [hgt, hframe']
      omega
    · omega

end Subtraction

/-! ### The clocks of NR -/

section Nr

variable (t : Time nrDial) (n : ℕ)

theorem sfnSlotSteps_eq : sfnSlotSteps (counterOf t) n = counterOf (t.advance n) :=
  nrDial_fits.counter_iterate t n

/-- `sfn_slot_add` is an advance by its 16-bit offset. -/
theorem sfnSlotAdd_eq (hn : n < 65536) :
    sfnSlotAdd (counterOf t).sfn (counterOf t).sub (.ofNat n) =
      ((counterOf (t.advance n)).sfn, (counterOf (t.advance n)).sub) := by
  have hoffset : (UInt16.ofNat n).toNat = n := by
    rw [UInt16.toNat_ofNat']
    omega
  have hframe : (t.frame + (t.tick + n) / 20) % 1024 = (t.advance n).frame :=
    (advance_frame t n).symm
  have htick : (t.tick + n) % 20 = (t.advance n).tick := (advance_tick t n).symm
  unfold sfnSlotAdd
  rw [nrDial_fits.sfn_toNat, nrDial_fits.sub_toNat, hoffset, hframe, htick]
  rfl

/-- `sfnslot_add_slot` is an advance. -/
theorem sfnslotAddSlot_eq :
    sfnslotAddSlot (counterOf t).sfn (counterOf t).sub n = (t.advance n).packed 6 := by
  unfold sfnslotAddSlot
  rw [nrDial_fits.sfn_toNat, nrDial_fits.sub_toNat]
  unfold Time.packed
  rw [advance_frame, advance_tick]
  rfl

end Nr

/-! ### The clocks agree -/

/-- The clocks of LTE agree on `n` subframes from a start. -/
def LteClocksAgree (t : Time lteDial) (n : ℕ) : Prop :=
  let reached := sfnSfSteps (counterOf t) n
  (∀ k ≤ n, (sfnSfSteps (counterOf t) k).sfn < 1024 ∧ (sfnSfSteps (counterOf t) k).sub < 10) ∧
  (t.decimal + n < 65536 →
    sfnSfAdd (wordOf 4 t) (.ofNat n) = (reached.sfn <<< 4) ||| reached.sub) ∧
  addSf (counterOf t).sfn (counterOf t).sub n = (reached.sfn, reached.sub) ∧
  sfnsfAddSf (wordOf 4 t) n = (reached.sfn <<< 4) ||| reached.sub ∧
  sfnSf2Dec ((reached.sfn <<< 4) ||| reached.sub) = (t.decimal + n) % 10240

/-- The clocks of NR agree on `n` slots from a start. -/
def NrClocksAgree (t : Time nrDial) (n : ℕ) : Prop :=
  let reached := sfnSlotSteps (counterOf t) n
  (∀ k ≤ n,
    (sfnSlotSteps (counterOf t) k).sfn < 1024 ∧ (sfnSlotSteps (counterOf t) k).sub < 20) ∧
  (n < 65536 → sfnSlotAdd (counterOf t).sfn (counterOf t).sub (.ofNat n) =
    (reached.sfn, reached.sub)) ∧
  addSlot (counterOf t).sfn (counterOf t).sub n = (reached.sfn, reached.sub) ∧
  sfnslotAddSlot (counterOf t).sfn (counterOf t).sub n =
    ((reached.sfn <<< 6) ||| reached.sub).toNat ∧
  Downlink.SlotBuffer.sfnSlot2Dec reached.sfn reached.sub = (t.decimal + n) % 20480

section Agreement

theorem lteClocks_agree (t : Time lteDial) (n : ℕ) : LteClocksAgree t n := by
  have hword : ((counterOf (t.advance n)).sfn <<< 4) ||| (counterOf (t.advance n)).sub =
      wordOf 4 (t.advance n) := lteDial_fits.word_eq (t.advance n)
  unfold LteClocksAgree
  simp only [sfnSfSteps_eq, hword]
  refine ⟨?_, sfnSfAdd_eq t n, lteDial_fits.addTicks_eq t n, sfnsfAddSf_eq t n, ?_⟩
  · intro k _
    constructor
    · rw [UInt16.lt_iff_toNat_lt, lteDial_fits.sfn_toNat]
      exact (t.advance k).frame_lt
    · rw [UInt16.lt_iff_toNat_lt, lteDial_fits.sub_toNat]
      exact (t.advance k).tick_lt
  · have hdiv : (wordOf 4 (t.advance n)).toNat / 16 = (t.advance n).frame := by
      rw [lteDial_fits.wordOf_toNat]
      exact Time.packed_div lteDial_fits.ticks_le _
    have hmod : (wordOf 4 (t.advance n)).toNat % 16 = (t.advance n).tick := by
      rw [lteDial_fits.wordOf_toNat]
      exact Time.packed_mod lteDial_fits.ticks_le _
    unfold sfnSf2Dec sfnSf2Sfn sfnSf2Sf
    rw [hdiv, hmod]
    exact decimal_advance t n

theorem nrClocks_agree (t : Time nrDial) (n : ℕ) : NrClocksAgree t n := by
  have hword : ((counterOf (t.advance n)).sfn <<< 6) ||| (counterOf (t.advance n)).sub =
      wordOf 6 (t.advance n) := nrDial_fits.word_eq (t.advance n)
  unfold NrClocksAgree
  simp only [sfnSlotSteps_eq, hword, nrDial_fits.wordOf_toNat]
  refine ⟨?_, sfnSlotAdd_eq t n, nrDial_fits.addTicks_eq t n, sfnslotAddSlot_eq t n, ?_⟩
  · intro k _
    constructor
    · rw [UInt16.lt_iff_toNat_lt, nrDial_fits.sfn_toNat]
      exact (t.advance k).frame_lt
    · rw [UInt16.lt_iff_toNat_lt, nrDial_fits.sub_toNat]
      exact (t.advance k).tick_lt
  · unfold Downlink.SlotBuffer.sfnSlot2Dec
    rw [nrDial_fits.sfn_toNat, nrDial_fits.sub_toNat]
    exact decimal_advance t n

/-- From every start and for every number of steps the clocks of both variants agree and stay
valid. The subtraction of LTE leads back to the start exactly when one borrowed frame is enough, or
from the first subframe of a frame when the addition goes one frame beyond whole cycles. -/
theorem frameClocks_roundTrip_iff (t : Time lteDial) (s : Time nrDial) (n : ℕ) :
    LteClocksAgree t n ∧ NrClocksAgree s n ∧
    (LteClocksAgree t n ∧ NrClocksAgree s n ∧
        sfnsfSubtractSf (sfnsfAddSf (wordOf 4 t) n) n = wordOf 4 t ↔
      n ≤ (t.tick + n) % 10 + 10 ∨ t.tick = 0 ∧ n / 10 % 1024 = 1) := by
  have hlte := lteClocks_agree t n
  have hnr := nrClocks_agree s n
  refine ⟨hlte, hnr, ?_⟩
  rw [and_iff_right hlte, and_iff_right hnr]
  exact subtract_undoes_add_iff t n

/-- Twenty subframes added to SFN 5, SF 3 and subtracted again lead to no valid time: the word has
the SF 9 and the SFN 4095. -/
theorem subtract_twenty_loses_start :
    ¬ ∀ (t : Time lteDial) (n : ℕ),
      sfnsfSubtractSf (sfnsfAddSf (wordOf 4 t) n) n = wordOf 4 t := by
  intro h
  have hword := h ⟨5, 3, by decide, by decide⟩ 20
  have hresult : sfnsfSubtractSf (sfnsfAddSf (wordOf 4
      (⟨5, 3, by decide, by decide⟩ : Time lteDial)) 20) 20 = 0xFFF9 := by decide
  have hstart : wordOf 4 (⟨5, 3, by decide, by decide⟩ : Time lteDial) = 0x53 := by decide
  rw [show ((20 : ℕ) : ℤ) = 20 from rfl, hresult, hstart] at hword
  exact absurd hword (by decide)

end Agreement

end MultiUeProxy.Clock.FrameClocks
