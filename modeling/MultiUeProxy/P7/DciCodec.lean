import MultiUeProxy.Lib.InPlace
import MultiUeProxy.Lib.LittleEndian
import Mathlib.Algebra.Group.Nat.Defs

/-!
# The payload of a DCI

The bits of a DCI are the lowest bits of an array of eight bytes that is read as one little endian
word. `pack_dci_payload` aligns them to the left within their bytes, in the array itself, and writes
these bytes with the highest first; `unpack_dci_payload` puts as many bytes into the array and
aligns them to the right.

What is read back has the bits of the payload, and above them what the array held behind the bytes
that were read (`toNat_readBack`). So the codec is exact if these were zero and if nothing was to be
aligned (`dciExact_iff`).
-/

set_option autoImplicit false
set_option relaxedAutoImplicit false

namespace MultiUeProxy.P7.DciCodec

open Lib.Execution Lib.ByteCursor Lib.ByteWriter Lib.Codec Lib.InPlace Lib.LittleEndian

def dciPayloadByteLen : ℕ := 8

/-- The array `Payload` of a DCI PDU. -/
structure DciPayload where
  bytes : List UInt8
  length_bytes : bytes.length = dciPayloadByteLen

namespace DciPayload

/-- The array as an `uint64_t`. -/
def word (payload : DciPayload) : UInt64 := UInt64.ofNat (numberOf payload.bytes)

/-- An `uint64_t` is stored in the array. -/
def ofWord (word : UInt64) : DciPayload where
  bytes := bytesOf dciPayloadByteLen word.toNat
  length_bytes := length_bytesOf _ _

theorem toNat_word (payload : DciPayload) : payload.word.toNat = numberOf payload.bytes := by
  have hlt := numberOf_lt payload.bytes
  rw [payload.length_bytes] at hlt
  exact UInt64.toNat_ofNat_of_lt hlt

theorem word_ofWord (word : UInt64) : (ofWord word).word = word := by
  apply UInt64.toNat_inj.mp
  rw [toNat_word]
  exact (numberOf_bytesOf _ _).trans (Nat.mod_eq_of_lt word.toNat_lt)

/-- Arrays with one word are equal. -/
theorem word_inj {first second : DciPayload} : first.word = second.word ↔ first = second := by
  constructor
  · intro hword
    have hnumber : numberOf first.bytes = numberOf second.bytes := by
      rw [← toNat_word, ← toNat_word, hword]
    have hbytes : first.bytes = second.bytes := by
      rw [← bytesOf_numberOf first.bytes, ← bytesOf_numberOf second.bytes, hnumber,
        first.length_bytes, second.length_bytes]
    cases first
    cases second
    cases hbytes
    rfl
  · intro h
    rw [h]

/-- The first bytes of the array are replaced by these bytes, the last of them first. -/
def putInverted (payload : DciPayload) (inverted : List UInt8) : DciPayload where
  bytes := (inverted.reverse ++ payload.bytes.drop inverted.length).take dciPayloadByteLen
  length_bytes := by
    have hlength := payload.length_bytes
    simp only [List.length_take, List.length_append, List.length_reverse, List.length_drop]
    omega

end DciPayload

/-! ### The codec -/

def dciByteLen (payloadSizeBits : UInt16) : UInt8 := UInt8.ofNat ((payloadSizeBits.toNat + 7) / 8)

def rotationBits (payloadSizeBits : UInt16) : UInt8 :=
  8 - UInt8.ofNat (payloadSizeBits.toNat % 8)

/-- The bits of the payload are aligned to the left within their bytes. -/
def alignLeft (payload : DciPayload) (payloadSizeBits : UInt16) : DciPayload :=
  if payloadSizeBits.toNat % 8 ≠ 0 then
    .ofWord (payload.word <<< UInt64.ofNat (rotationBits payloadSizeBits).toNat)
  else payload

def alignRight (payload : DciPayload) (payloadSizeBits : UInt16) : DciPayload :=
  if payloadSizeBits.toNat % 8 ≠ 0 then
    .ofWord (payload.word >>> UInt64.ofNat (rotationBits payloadSizeBits).toNat)
  else payload

/-- The payload after the call, and what is written. -/
def packDciPayload (payload : DciPayload) (payloadSizeBits : UInt16) (limit : ℕ) :
    DciPayload × Push Unit :=
  let aligned := alignLeft payload payloadSizeBits
  let dciByteLen := (dciByteLen payloadSizeBits).toNat
  (aligned,
    -- the loop goes on behind the array of the inverted bytes
    if dciPayloadByteLen < dciByteLen then Push.crash .fault
    else
      Push.pusharray8 (aligned.bytes.take dciByteLen).reverse dciPayloadByteLen dciByteLen limit)

/-- The array of the inverted bytes is a local variable, with what the stack holds before it is
filled. -/
def unpackDciPayload (stack : DciPayload) (payloadSizeBits : UInt16) (limit : ℕ) :
    Fill DciPayload := fun mem payload pos ↦
  let dciByteLen := (dciByteLen payloadSizeBits).toNat
  if dciPayloadByteLen < dciByteLen then .error .fault
  else
    match Pull.pullarray8 dciPayloadByteLen dciByteLen limit mem pos with
    | .ok (inverted, next) =>
      .ok (true, alignRight (payload.putInverted inverted) payloadSizeBits, next)
    | .error .reject =>
      .ok (false,
        alignRight (payload.putInverted (stack.bytes.take dciByteLen)) payloadSizeBits, pos)
    | .error (.crash cause) => .error cause

/-! ### What is read back -/

section Exact

variable {payload previous : DciPayload} {payloadSizeBits : UInt16}

/-- The number of bits by which the payload is moved. -/
def shift (payloadSizeBits : UInt16) : ℕ :=
  8 * (dciByteLen payloadSizeBits).toNat - payloadSizeBits.toNat

theorem byteLen_bounds (hbits : payloadSizeBits.toNat ≤ 64) :
    (dciByteLen payloadSizeBits).toNat ≤ dciPayloadByteLen ∧
      shift payloadSizeBits + payloadSizeBits.toNat = 8 * (dciByteLen payloadSizeBits).toNat ∧
      shift payloadSizeBits < 8 ∧
      (payloadSizeBits.toNat % 8 = 0 ↔ shift payloadSizeBits = 0) := by
  have hlen : (dciByteLen payloadSizeBits).toNat = (payloadSizeBits.toNat + 7) / 8 := by
    unfold dciByteLen
    rw [UInt8.toNat_ofNat', Nat.mod_eq_of_lt]
    omega
  unfold shift dciPayloadByteLen
  rw [hlen]
  omega

theorem toNat_rotationBits (hbits : payloadSizeBits.toNat ≤ 64)
    (hrest : payloadSizeBits.toNat % 8 ≠ 0) :
    (UInt64.ofNat (rotationBits payloadSizeBits).toNat).toNat % 64 = shift payloadSizeBits := by
  obtain ⟨-, hsum, hshift, -⟩ := byteLen_bounds hbits
  have hrotation : (rotationBits payloadSizeBits).toNat = 8 - payloadSizeBits.toNat % 8 := by
    unfold rotationBits
    rw [UInt8.toNat_sub_of_le, UInt8.toNat_ofNat', Nat.mod_eq_of_lt (by omega)]
    · rfl
    · rw [UInt8.le_iff_toNat_le, UInt8.toNat_ofNat', Nat.mod_eq_of_lt (by omega)]
      show _ ≤ 8
      omega
  rw [hrotation, UInt64.toNat_ofNat', Nat.mod_eq_of_lt (by omega)]
  omega

theorem toNat_alignLeft (hbits : payloadSizeBits.toNat ≤ 64) :
    (alignLeft payload payloadSizeBits).word.toNat =
      payload.word.toNat * 2 ^ shift payloadSizeBits % 2 ^ 64 := by
  unfold alignLeft
  split_ifs with hrest
  · rw [DciPayload.word_ofWord, UInt64.toNat_shiftLeft, toNat_rotationBits hbits hrest,
      Nat.shiftLeft_eq]
  · obtain ⟨-, -, -, hzero⟩ := byteLen_bounds hbits
    rw [hzero.mp (Classical.not_not.mp hrest), Nat.pow_zero, Nat.mul_one]
    exact (Nat.mod_eq_of_lt payload.word.toNat_lt).symm

theorem toNat_alignRight (hbits : payloadSizeBits.toNat ≤ 64) :
    (alignRight payload payloadSizeBits).word.toNat =
      payload.word.toNat / 2 ^ shift payloadSizeBits := by
  unfold alignRight
  split_ifs with hrest
  · rw [DciPayload.word_ofWord, UInt64.toNat_shiftRight, toNat_rotationBits hbits hrest,
      Nat.shiftRight_eq_div_pow]
  · obtain ⟨-, -, -, hzero⟩ := byteLen_bounds hbits
    rw [hzero.mp (Classical.not_not.mp hrest), Nat.pow_zero, Nat.div_one]

/-- The bytes that are written. -/
def dciBytes (payload : DciPayload) (payloadSizeBits : UInt16) : List UInt8 :=
  ((alignLeft payload payloadSizeBits).bytes.take (dciByteLen payloadSizeBits).toNat).reverse

theorem length_dciBytes (hbits : payloadSizeBits.toNat ≤ 64) :
    (dciBytes payload payloadSizeBits).length = (dciByteLen payloadSizeBits).toNat := by
  unfold dciBytes
  rw [List.length_reverse, List.length_take, (alignLeft payload payloadSizeBits).length_bytes]
  exact Nat.min_eq_left (byteLen_bounds hbits).1

theorem writes_packDciPayload (hbits : payloadSizeBits.toNat ≤ 64) (limit : ℕ) :
    Writes limit (packDciPayload payload payloadSizeBits limit).2
      (dciBytes payload payloadSizeBits) := by
  obtain ⟨hlen, -⟩ := byteLen_bounds hbits
  unfold packDciPayload
  dsimp only
  rw [if_neg (Nat.not_lt.mpr hlen)]
  exact (emits_pusharray8 (length_dciBytes hbits) hlen).writes

/-- The array after the bytes of a payload have been read into it. -/
def readBack (payload previous : DciPayload) (payloadSizeBits : UInt16) : DciPayload :=
  alignRight (previous.putInverted (dciBytes payload payloadSizeBits)) payloadSizeBits

theorem fills_unpackDciPayload (hbits : payloadSizeBits.toNat ≤ 64) (stack : DciPayload)
    (limit : ℕ) :
    Fills limit (unpackDciPayload stack payloadSizeBits limit) previous
      (dciBytes payload payloadSizeBits) (readBack payload previous payloadSizeBits) := by
  intro mem pos hholds hlimit
  obtain ⟨hlen, -⟩ := byteLen_bounds hbits
  have hread : Reads limit (Pull.pullarray8 dciPayloadByteLen _ limit)
      (dciBytes payload payloadSizeBits) (dciBytes payload payloadSizeBits) :=
    reads_pullarray8 (length_dciBytes hbits) hlen
  unfold unpackDciPayload
  dsimp only
  rw [if_neg (Nat.not_lt.mpr hlen), hread mem pos hholds hlimit]
  rfl

theorem toNat_putInverted {inverted : List UInt8} (hlen : inverted.length ≤ dciPayloadByteLen) :
    (previous.putInverted inverted).word.toNat = numberOf inverted.reverse +
      256 ^ inverted.length * numberOf (previous.bytes.drop inverted.length) := by
  have hwhole : (previous.putInverted inverted).bytes =
      inverted.reverse ++ previous.bytes.drop inverted.length := by
    apply List.take_of_length_le
    simp only [List.length_append, List.length_reverse, List.length_drop, previous.length_bytes]
    omega
  rw [DciPayload.toNat_word, hwhole, numberOf_append, List.length_reverse]

theorem pow_dciByteLen (hbits : payloadSizeBits.toNat ≤ 64) :
    256 ^ (dciByteLen payloadSizeBits).toNat =
      2 ^ shift payloadSizeBits * 2 ^ payloadSizeBits.toNat := by
  obtain ⟨-, hsum, -, -⟩ := byteLen_bounds hbits
  rw [← Nat.pow_add, hsum, Nat.pow_mul]

/-- The bytes that are written are the bits of the payload, moved to the left. -/
theorem numberOf_dciBytes (hbits : payloadSizeBits.toNat ≤ 64) :
    numberOf (dciBytes payload payloadSizeBits).reverse =
      2 ^ shift payloadSizeBits * (payload.word.toNat % 2 ^ payloadSizeBits.toNat) := by
  obtain ⟨hlen, hsum, -, -⟩ := byteLen_bounds hbits
  have hlength : (dciBytes payload payloadSizeBits).length = _ := length_dciBytes hbits
  have hdvd : 2 ^ shift payloadSizeBits * 2 ^ payloadSizeBits.toNat ∣ 2 ^ 64 := by
    rw [← Nat.pow_add, hsum]
    exact Nat.pow_dvd_pow 2 (Nat.mul_le_mul_left 8 hlen)
  have htake : (dciBytes payload payloadSizeBits).reverse =
      (alignLeft payload payloadSizeBits).bytes.take (dciByteLen payloadSizeBits).toNat :=
    List.reverse_reverse _
  rw [htake, numberOf_take, ← htake, List.length_reverse, hlength, ← DciPayload.toNat_word,
    toNat_alignLeft hbits, pow_dciByteLen hbits, Nat.mod_mod_of_dvd _ hdvd,
    Nat.mul_comm payload.word.toNat, Nat.mul_mod_mul_left]

/-- What is read back has the bits of the payload. Above them is what the array held behind the
bytes that were read. -/
theorem toNat_readBack (hbits : payloadSizeBits.toNat ≤ 64) :
    (readBack payload previous payloadSizeBits).word.toNat =
      payload.word.toNat % 2 ^ payloadSizeBits.toNat + 2 ^ payloadSizeBits.toNat *
        numberOf (previous.bytes.drop (dciByteLen payloadSizeBits).toNat) := by
  obtain ⟨hlen, -, -, -⟩ := byteLen_bounds hbits
  have hlength : (dciBytes payload payloadSizeBits).length = _ := length_dciBytes hbits
  unfold readBack
  rw [toNat_alignRight hbits, toNat_putInverted (hlength ▸ hlen), numberOf_dciBytes hbits, hlength,
    pow_dciByteLen hbits, Nat.mul_assoc, ← Nat.mul_add,
    Nat.mul_div_cancel_left _ (Nat.two_pow_pos _)]

/-- A number that is the same after it was moved to the left is zero. -/
theorem eq_zero_of_moved {number count width : ℕ} (hcount : count ≠ 0)
    (h : number * 2 ^ count % 2 ^ width = number) : number = 0 := by
  have hdvd : ∀ low, low ≤ width → 2 ^ low ∣ number := by
    intro low
    induction low with
    | zero => simp
    | succ low ih =>
      intro hlow
      rw [← h, Nat.dvd_mod_iff (Nat.pow_dvd_pow 2 hlow), Nat.pow_succ]
      exact Nat.mul_dvd_mul (ih (Nat.le_of_succ_le hlow)) (dvd_pow_self 2 hcount)
  apply Nat.eq_zero_of_dvd_of_lt (hdvd width (Nat.le_refl _))
  rw [← h]
  exact Nat.mod_lt _ (Nat.two_pow_pos _)

/-- The payload stays as it is if all its bytes are full, or if it is zero. -/
theorem alignLeft_eq_iff (hbits : payloadSizeBits.toNat ≤ 64) :
    alignLeft payload payloadSizeBits = payload ↔
      payloadSizeBits.toNat % 8 = 0 ∨ payload.word = 0 := by
  obtain ⟨-, -, -, hzero⟩ := byteLen_bounds hbits
  rw [← DciPayload.word_inj, ← UInt64.toNat_inj, toNat_alignLeft hbits, hzero]
  constructor
  · intro hsame
    by_cases hshift : shift payloadSizeBits = 0
    · exact Or.inl hshift
    · exact Or.inr (UInt64.toNat_inj.mp (eq_zero_of_moved hshift hsame))
  · rintro (hshift | hword)
    · rw [hshift, Nat.pow_zero, Nat.mul_one]
      exact Nat.mod_eq_of_lt payload.word.toNat_lt
    · rw [hword, UInt64.toNat_zero, Nat.zero_mul, Nat.zero_mod]

/-- The bytes that are written are read back as the low bits of the payload. The payload is not
changed, and a second call writes the same bytes. -/
def DciExact (payload previous : DciPayload) (payloadSizeBits : UInt16) : Prop :=
  ∃ (packed : List UInt8) (read : DciPayload),
    (∀ limit, Writes limit (packDciPayload payload payloadSizeBits limit).2 packed) ∧
    (∀ stack limit, Fills limit (unpackDciPayload stack payloadSizeBits limit) previous packed
      read) ∧
    read.word.toNat = payload.word.toNat % 2 ^ payloadSizeBits.toNat ∧
    ∀ limit, (packDciPayload payload payloadSizeBits limit).1 = payload ∧
      Writes limit (packDciPayload (packDciPayload payload payloadSizeBits limit).1
        payloadSizeBits limit).2 packed

/-- The codec is exact if there was nothing to align, and if the array that is filled was zero
behind the bytes that are read. -/
theorem dciExact_iff (hbits : payloadSizeBits.toNat ≤ 64) :
    DciExact payload previous payloadSizeBits ↔
      (payloadSizeBits.toNat % 8 = 0 ∨ payload.word = 0) ∧
        ∀ byte ∈ previous.bytes.drop (dciByteLen payloadSizeBits).toNat, byte = 0 := by
  rw [← alignLeft_eq_iff hbits, ← numberOf_eq_zero_iff]
  have hread := @toNat_readBack payload previous payloadSizeBits hbits
  constructor
  · rintro ⟨packed, read, hwrites, hfills, hword, hsource⟩
    have hpacked := Writes.unique hwrites (writes_packDciPayload hbits)
    rw [hpacked] at hfills
    have hsame := Fills.unique (hfills payload) (fills_unpackDciPayload hbits payload)
    rw [← hsame, hword, Nat.left_eq_add] at hread
    exact ⟨(hsource 0).1, (Nat.mul_eq_zero.mp hread).resolve_left (Nat.two_pow_pos _).ne'⟩
  · rintro ⟨hsource, habove⟩
    rw [habove, Nat.mul_zero, Nat.add_zero] at hread
    refine ⟨_, _, writes_packDciPayload hbits, fills_unpackDciPayload hbits, hread, ?_⟩
    intro limit
    have hsame : (packDciPayload payload payloadSizeBits limit).1 = payload := hsource
    rw [hsame]
    exact ⟨rfl, writes_packDciPayload hbits limit⟩

end Exact

/-- Two full bytes of a payload, read into an array that was zero. -/
theorem dciExact_twoBytes : DciExact (.ofWord 0x1234) (.ofWord 0) 16 :=
  (dciExact_iff (by decide)).mpr ⟨.inl rfl, (numberOf_eq_zero_iff _).mp rfl⟩

/-- Four bits of a payload are moved to the upper half of its byte by the call. -/
theorem four_bits_moved :
    ¬ ∀ (payload previous : DciPayload) (payloadSizeBits : UInt16), 1 ≤ payloadSizeBits.toNat →
      payloadSizeBits.toNat ≤ 64 → DciExact payload previous payloadSizeBits := by
  intro hall
  obtain ⟨packed, read, -, -, -, hsource⟩ := hall (.ofWord 1) (.ofWord 0) 4 (by decide) (by decide)
  have hmoved : (packDciPayload (.ofWord 1) 4 0).1.bytes = [16, 0, 0, 0, 0, 0, 0, 0] := rfl
  rw [(hsource 0).1] at hmoved
  exact absurd hmoved (by decide)

end MultiUeProxy.P7.DciCodec
