import Mathlib.Data.Nat.Digits.Defs

/-!
# Little endian numbers

The bytes of an array, read as one number with the lowest byte first, and the bytes of a number.
-/

set_option autoImplicit false
set_option relaxedAutoImplicit false

namespace MultiUeProxy.Lib.LittleEndian

/-- The lowest bytes of a number, the lowest first. -/
def bytesOf : (width number : ℕ) → List UInt8
  | 0, _ => []
  | width + 1, number => UInt8.ofNat number :: bytesOf width (number / 256)

/-- The number that an array holds. -/
def numberOf (bytes : List UInt8) : ℕ := Nat.ofDigits 256 (bytes.map UInt8.toNat)

@[simp] theorem length_bytesOf (width number : ℕ) : (bytesOf width number).length = width := by
  induction width generalizing number with
  | zero => rfl
  | succ width ih => simp [bytesOf, ih]

@[simp] theorem numberOf_nil : numberOf [] = 0 := rfl

@[simp] theorem numberOf_cons (byte : UInt8) (bytes : List UInt8) :
    numberOf (byte :: bytes) = byte.toNat + 256 * numberOf bytes := rfl

theorem numberOf_append (front back : List UInt8) :
    numberOf (front ++ back) = numberOf front + 256 ^ front.length * numberOf back := by
  unfold numberOf
  rw [List.map_append, Nat.ofDigits_append, List.length_map]

theorem numberOf_lt (bytes : List UInt8) : numberOf bytes < 256 ^ bytes.length := by
  have hdigits : ∀ digit ∈ bytes.map UInt8.toNat, digit < 256 := by
    intro digit hdigit
    obtain ⟨byte, -, rfl⟩ := List.mem_map.mp hdigit
    exact byte.toNat_lt
  have hlt := Nat.ofDigits_lt_base_pow_length (by decide) hdigits
  rwa [List.length_map] at hlt

/-- The lowest bytes of a number hold it as far as they go. -/
theorem numberOf_bytesOf (width number : ℕ) :
    numberOf (bytesOf width number) = number % 256 ^ width := by
  induction width generalizing number with
  | zero => simp [bytesOf, Nat.mod_one]
  | succ width ih =>
    have hpow : 256 ^ (width + 1) = 256 * 256 ^ width := Nat.pow_succ'
    rw [bytesOf, numberOf_cons, ih, UInt8.toNat_ofNat', hpow, Nat.mod_mul]

/-- An array is given by its length and its number. -/
theorem bytesOf_numberOf (bytes : List UInt8) :
    bytesOf bytes.length (numberOf bytes) = bytes := by
  induction bytes with
  | nil => rfl
  | cons byte bytes ih =>
    have hbyte := byte.toNat_lt
    have hlow : UInt8.ofNat (numberOf (byte :: bytes)) = byte := by
      apply UInt8.toNat_inj.mp
      rw [UInt8.toNat_ofNat', numberOf_cons, Nat.add_mul_mod_self_left, Nat.mod_eq_of_lt hbyte]
    have hhigh : numberOf (byte :: bytes) / 256 = numberOf bytes := by
      rw [numberOf_cons, Nat.add_mul_div_left _ _ (by decide), Nat.div_eq_of_lt hbyte, Nat.zero_add]
    rw [List.length_cons, bytesOf, hlow, hhigh, ih]

theorem numberOf_take (bytes : List UInt8) (count : ℕ) :
    numberOf (bytes.take count) = numberOf bytes % 256 ^ (bytes.take count).length := by
  have hsplit := numberOf_append (bytes.take count) (bytes.drop count)
  rw [List.take_append_drop] at hsplit
  rw [hsplit, Nat.add_mul_mod_self_left, Nat.mod_eq_of_lt (numberOf_lt _)]

theorem numberOf_eq_zero_iff (bytes : List UInt8) :
    numberOf bytes = 0 ↔ ∀ byte ∈ bytes, byte = 0 := by
  induction bytes with
  | nil => simp
  | cons byte bytes ih =>
    rw [numberOf_cons, Nat.add_eq_zero_iff, List.forall_mem_cons, ← ih]
    apply and_congr
    · exact UInt8.toNat_inj (b := 0)
    · simp

end MultiUeProxy.Lib.LittleEndian
