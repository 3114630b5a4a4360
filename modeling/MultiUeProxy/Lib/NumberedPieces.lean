import Mathlib.Data.Finset.Card
import Mathlib.Data.Nat.Notation

/-!
# Cutting a list into numbered pieces and collecting them

A sender cuts a list into pieces of one size and numbers them from zero; only the last piece may be
shorter. `flatMap_piece` says that the pieces, put together in order, are the list again.

A receiver keeps the pieces in numbered slots and learns only their number, so that it has to tell
from a count when it has all of them. `card_stored_update` says when storing a piece makes the
count grow, and `forall_isSome_of_card` when a count proves that no piece is missing.
-/

set_option autoImplicit false
set_option relaxedAutoImplicit false

namespace MultiUeProxy.Lib.NumberedPieces

variable {α : Type}

/-! ### Cutting -/

/-- The piece with a number. -/
def piece (size : ℕ) (list : List α) (number : ℕ) : List α :=
  (list.drop (number * size)).take size

/-- The first pieces in order are a prefix of the list. -/
theorem flatMap_piece (size : ℕ) (list : List α) (count : ℕ) :
    (List.range count).flatMap (piece size list) = list.take (count * size) := by
  induction count with
  | zero => rw [List.range_zero, List.flatMap_nil, Nat.zero_mul, List.take_zero]
  | succ count ih =>
    rw [List.range_succ, List.flatMap_append, ih, List.flatMap_singleton, piece, Nat.succ_mul,
      List.take_add]

/-- All pieces in order are the list. -/
theorem flatMap_piece_eq {size : ℕ} {list : List α} {count : ℕ}
    (h : list.length ≤ count * size) : (List.range count).flatMap (piece size list) = list := by
  rw [flatMap_piece, List.take_of_length_le h]

theorem length_piece (size : ℕ) (list : List α) (number : ℕ) :
    (piece size list number).length = min size (list.length - number * size) := by
  rw [piece, List.length_take, List.length_drop]

/-- All pieces but the last have the full size. -/
theorem length_piece_of_lt {size : ℕ} {list : List α} {number : ℕ}
    (h : (number + 1) * size ≤ list.length) : (piece size list number).length = size := by
  rw [length_piece]
  rw [Nat.succ_mul] at h
  omega

/-! ### Collecting -/

section Collecting

variable {δ : Type} {bound : ℕ} {slots : ℕ → Option δ}

/-- The numbers below the bound whose slots are filled. -/
def stored (bound : ℕ) (slots : ℕ → Option δ) : Finset ℕ :=
  (Finset.range bound).filter fun number ↦ (slots number).isSome

theorem mem_stored {number : ℕ} :
    number ∈ stored bound slots ↔ number < bound ∧ (slots number).isSome = true := by
  rw [stored, Finset.mem_filter, Finset.mem_range]

theorem card_stored_le (bound : ℕ) (slots : ℕ → Option δ) : (stored bound slots).card ≤ bound :=
  (Finset.card_filter_le _ _).trans (Finset.card_range bound).le

theorem stored_none (bound : ℕ) : stored bound (fun _ ↦ (none : Option δ)) = ∅ :=
  Finset.filter_false_of_mem fun _ _ ↦ by simp

/-- Filling a slot adds its number to the filled ones. -/
theorem stored_update {number : ℕ} (hnumber : number < bound) (data : δ) :
    stored bound (Function.update slots number (some data)) =
      insert number (stored bound slots) := by
  ext other
  rw [Finset.mem_insert, mem_stored, mem_stored]
  by_cases hother : other = number
  · subst hother
    simp [hnumber]
  · rw [Function.update_of_ne hother]
    simp [hother]

/-- Filling an empty slot makes the count grow by one. -/
theorem card_stored_update {number : ℕ} (hnumber : number < bound) (hempty : slots number = none)
    (data : δ) : (stored bound (Function.update slots number (some data))).card =
      (stored bound slots).card + 1 := by
  rw [stored_update hnumber, Finset.card_insert_of_notMem]
  intro hmem
  have hsome := (mem_stored.mp hmem).2
  rw [hempty] at hsome
  cases hsome

/-- If as many slots are filled as there are numbers below a count, and all of them are below it,
then no piece is missing. -/
theorem forall_isSome_of_card {count : ℕ} (hcard : (stored bound slots).card = count)
    (hbelow : ∀ number ∈ stored bound slots, number < count) :
    ∀ number < count, (slots number).isSome = true := by
  have hsubset : stored bound slots ⊆ Finset.range count := fun number hnumber ↦
    Finset.mem_range.mpr (hbelow number hnumber)
  have hle : (Finset.range count).card ≤ (stored bound slots).card := by
    rw [Finset.card_range, hcard]
  have hall := Finset.eq_of_subset_of_card_le hsubset hle
  intro number hnumber
  have hmem : number ∈ stored bound slots := by rwa [hall, Finset.mem_range]
  exact (mem_stored.mp hmem).2

end Collecting

end MultiUeProxy.Lib.NumberedPieces
