import Mathlib.Algebra.Group.Nat.Defs
import MultiUeProxy.P7.Header

/-!
# The M/segment/sequence word of the P7 header

The macros of `nfapi_interface.h` that write and read `m_segment_sequence`. The readers take the
more flag from bit 15, the segment number from bits 8 to 14 and the sequence number from the low
byte; the writer still packs everything into the low byte, as it was laid out before. So what it
writes has neither a more flag nor a segment number for the readers, and its low byte is the
sequence number only as long as that is below 16.
-/

set_option autoImplicit false
set_option relaxedAutoImplicit false

namespace MultiUeProxy.Segmentation.HeaderWord

/-- `NFAPI_P7_GET_MORE`. -/
def p7GetMore (mss : UInt16) : UInt16 := (mss &&& 0x8000) >>> 15

/-- `NFAPI_P7_GET_SEGMENT`. -/
def p7GetSegment (mss : UInt16) : UInt16 := (mss &&& 0x7F00) >>> 8

/-- `NFAPI_P7_GET_SEQUENCE`. -/
def p7GetSequence (mss : UInt16) : UInt16 := mss &&& 0x00FF

/-- `NFAPI_P7_SET_MSS`. -/
def p7SetMss (more segm sequ : UInt32) : UInt16 :=
  (((more &&& 0x1) <<< 7) ||| ((segm &&& 0x7) <<< 4) ||| (sequ &&& 0xF)).toUInt16

/-! ### The fields as numbers -/

theorem p7GetMore_toNat (mss : UInt16) : (p7GetMore mss).toNat = mss.toNat / 2 ^ 15 := by
  have hword := mss.toNat_lt
  rw [p7GetMore, UInt16.toNat_shiftRight, UInt16.toNat_and]
  show (mss.toNat &&& 0x8000) >>> 15 = mss.toNat / 2 ^ 15
  rw [Nat.shiftRight_and_distrib, Nat.shiftRight_eq_div_pow]
  show mss.toNat / 2 ^ 15 &&& 1 = mss.toNat / 2 ^ 15
  rw [Nat.and_one_is_mod]
  omega

theorem p7GetSegment_toNat (mss : UInt16) : (p7GetSegment mss).toNat = mss.toNat / 256 % 128 := by
  rw [p7GetSegment, UInt16.toNat_shiftRight, UInt16.toNat_and]
  show (mss.toNat &&& 0x7F00) >>> 8 = mss.toNat / 256 % 128
  rw [Nat.shiftRight_and_distrib, Nat.shiftRight_eq_div_pow]
  exact Nat.and_two_pow_sub_one_eq_mod _ 7

theorem p7GetSequence_toNat (mss : UInt16) : (p7GetSequence mss).toNat = mss.toNat % 256 := by
  rw [p7GetSequence, UInt16.toNat_and]
  exact Nat.and_two_pow_sub_one_eq_mod _ 8

/-- A number above a bit and one below it share no bit. -/
theorem mul_two_pow_or {bit low : ℕ} (hlow : low < 2 ^ bit) (high : ℕ) :
    (high * 2 ^ bit ||| low) = high * 2 ^ bit + low := by
  have hadd := Nat.shiftLeft_add_eq_or_of_lt hlow high
  rw [Nat.shiftLeft_eq] at hadd
  exact hadd.symm

/-- The writer keeps one bit of the more flag, three of the segment number and four of the sequence
number, all in the low byte. -/
theorem p7SetMss_toNat (more segm sequ : UInt32) :
    (p7SetMss more segm sequ).toNat =
      more.toNat % 2 * 128 + (segm.toNat % 8 * 16 + sequ.toNat % 16) := by
  have hmore : ((more &&& 0x1) <<< 7).toNat = more.toNat % 2 * 2 ^ 7 := by
    have hbits : (more &&& 0x1).toNat = more.toNat % 2 := Nat.and_two_pow_sub_one_eq_mod _ 1
    rw [UInt32.toNat_shiftLeft, hbits]
    show (more.toNat % 2) <<< 7 % 2 ^ 32 = more.toNat % 2 * 2 ^ 7
    rw [Nat.shiftLeft_eq]
    omega
  have hsegm : ((segm &&& 0x7) <<< 4).toNat = segm.toNat % 8 * 2 ^ 4 := by
    have hbits : (segm &&& 0x7).toNat = segm.toNat % 8 := Nat.and_two_pow_sub_one_eq_mod _ 3
    rw [UInt32.toNat_shiftLeft, hbits]
    show (segm.toNat % 8) <<< 4 % 2 ^ 32 = segm.toNat % 8 * 2 ^ 4
    rw [Nat.shiftLeft_eq]
    omega
  have hsequ : (sequ &&& 0xF).toNat = sequ.toNat % 16 := Nat.and_two_pow_sub_one_eq_mod _ 4
  have hlow : sequ.toNat % 16 < 2 ^ 4 := Nat.mod_lt _ (by decide)
  have hmiddle : segm.toNat % 8 * 2 ^ 4 + sequ.toNat % 16 < 2 ^ 7 := by omega
  rw [p7SetMss, UInt32.toNat_toUInt16, UInt32.toNat_or, UInt32.toNat_or, hmore, hsegm, hsequ,
    Nat.or_assoc, mul_two_pow_or hlow, mul_two_pow_or hmiddle]
  omega

/-- A word that is put together from two bytes, as a number. -/
theorem join_toNat (high low : UInt8) :
    ((high.toUInt16 <<< 8) ||| low.toUInt16).toNat = high.toNat * 2 ^ 8 + low.toNat := by
  have hhigh := high.toNat_lt
  have hlow := low.toNat_lt
  have hshift : (high.toUInt16 <<< 8).toNat = high.toNat * 2 ^ 8 := by
    rw [UInt16.toNat_shiftLeft, UInt8.toNat_toUInt16]
    show high.toNat <<< 8 % 2 ^ 16 = high.toNat * 2 ^ 8
    rw [Nat.shiftLeft_eq]
    omega
  rw [UInt16.toNat_or, hshift, UInt8.toNat_toUInt16, mul_two_pow_or hlow]

/-- The readers find no more flag and no segment number in a written word, and its low byte is all
of it. -/
theorem p7Get_p7SetMss (more segm sequ : UInt32) :
    p7GetMore (p7SetMss more segm sequ) = 0 ∧ p7GetSegment (p7SetMss more segm sequ) = 0 ∧
      p7GetSequence (p7SetMss more segm sequ) = p7SetMss more segm sequ := by
  have hword := p7SetMss_toNat more segm sequ
  refine ⟨?_, ?_, ?_⟩ <;> apply UInt16.toNat_inj.mp
  · rw [p7GetMore_toNat, hword]
    exact Nat.div_eq_of_lt (by omega)
  · rw [p7GetSegment_toNat, hword]
    show _ = 0
    omega
  · rw [p7GetSequence_toNat, hword]
    omega

/-- The three fields read from a written word are the three fields written. -/
def Coherent (more segm sequ : UInt32) : Prop :=
  p7GetMore (p7SetMss more segm sequ) = more.toUInt16 ∧
    p7GetSegment (p7SetMss more segm sequ) = segm.toUInt16 ∧
    p7GetSequence (p7SetMss more segm sequ) = sequ.toUInt16

/-- Writer and reader agree only on the words without more flag and segment number and with a
sequence number below 16. -/
theorem coherent_iff {more segm sequ : UInt32} (hmore : more < 2) (hsegm : segm < 128)
    (hsequ : sequ < 256) : Coherent more segm sequ ↔ more = 0 ∧ segm = 0 ∧ sequ < 16 := by
  obtain ⟨hgetMore, hgetSegment, hgetSequence⟩ := p7Get_p7SetMss more segm sequ
  have hword := p7SetMss_toNat more segm sequ
  rw [Coherent, hgetMore, hgetSegment, hgetSequence]
  simp only [← UInt16.toNat_inj, ← UInt32.toNat_inj, UInt32.lt_iff_toNat_lt,
    UInt32.toNat_toUInt16] at hmore hsegm hsequ ⊢
  rw [hword]
  simp only [UInt32.toNat_ofNat, UInt16.toNat_ofNat] at hmore hsegm hsequ ⊢
  omega

end MultiUeProxy.Segmentation.HeaderWord
