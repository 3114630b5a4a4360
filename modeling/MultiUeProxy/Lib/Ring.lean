import Mathlib.Data.Fin.Basic
import Mathlib.Data.List.Induction
import Mathlib.Data.Nat.ModEq
import Mathlib.Logic.Function.Basic

/-!
# Bounded deques in cyclic buffers

A `BoundedDeque n α` is a list of at most `n` items with the operations of a double-ended queue;
its bound is a field, so no operation can build a deque that is too long. A cyclic buffer is a
function from `Fin n` to cells that are empty or hold an item.

`Holds cells first xs` says that the buffer holds the list `xs`, in order from the cell `first`
on, and nothing else. It has one lemma for each way in which a deque moves one cell: `snoc` and
`unsnoc` at the tail, `consHead` and `dropHead` at the head, and `copyNext` for the step that
closes a gap in the middle. The arithmetic of wrapping indices is in the lemmas on `slot` alone.
-/

set_option autoImplicit false
set_option relaxedAutoImplicit false

namespace MultiUeProxy.Lib.Ring

/-! ### The deque -/

/-- A list of at most `n` items. -/
structure BoundedDeque (n : ℕ) (α : Type*) where
  items : List α
  bounded : items.length ≤ n

namespace BoundedDeque

variable {n : ℕ} {α : Type*}

/-- The deque without items. -/
def empty : BoundedDeque n α := ⟨[], Nat.zero_le n⟩

/-- Appends an item at the tail, unless the deque is full. -/
def pushBack (deque : BoundedDeque n α) (item : α) : Bool × BoundedDeque n α :=
  if hroom : deque.items.length < n then
    (true, ⟨deque.items ++ [item], by rw [List.length_append]; exact hroom⟩)
  else (false, deque)

/-- Prepends an item at the head, unless the deque is full. -/
def pushFront (deque : BoundedDeque n α) (item : α) : Bool × BoundedDeque n α :=
  if hroom : deque.items.length < n then
    (true, ⟨item :: deque.items, hroom⟩)
  else (false, deque)

/-- Removes and returns the head. -/
def popFront (deque : BoundedDeque n α) : Option α × BoundedDeque n α :=
  (deque.items.head?, ⟨deque.items.tail, by have := deque.bounded; simp; omega⟩)

/-- Removes and returns the tail. -/
def popBack (deque : BoundedDeque n α) : Option α × BoundedDeque n α :=
  (deque.items.getLast?, ⟨deque.items.dropLast, by have := deque.bounded; simp; omega⟩)

/-- The position of the last accepted item among the `maxDepth` items next to the tail. -/
def lastAccepted (accepts : α → Bool) (maxDepth : ℕ) (xs : List α) : Option ℕ :=
  ((xs.reverse.take maxDepth).findIdx? accepts).map (xs.length - 1 - ·)

/-- Removes and returns the last accepted item among the `maxDepth` items next to the tail. -/
def removeLast (deque : BoundedDeque n α) (accepts : α → Bool) (maxDepth : ℕ) :
    Option α × BoundedDeque n α :=
  match lastAccepted accepts maxDepth deque.items with
  | none => (none, deque)
  | some k => (deque.items[k]?, ⟨deque.items.eraseIdx k,
      (List.length_eraseIdx_le deque.items k).trans deque.bounded⟩)

@[simp] theorem lastAccepted_nil (accepts : α → Bool) (maxDepth : ℕ) :
    lastAccepted accepts maxDepth [] = none := by
  simp [lastAccepted]

@[simp] theorem lastAccepted_zero (accepts : α → Bool) (xs : List α) :
    lastAccepted accepts 0 xs = none := by
  simp [lastAccepted]

/-- The search starts at the tail. -/
theorem lastAccepted_concat (accepts : α → Bool) (maxDepth : ℕ) (xs : List α) (x : α) :
    lastAccepted accepts (maxDepth + 1) (xs ++ [x]) =
      if accepts x then some xs.length else lastAccepted accepts maxDepth xs := by
  by_cases hx : accepts x = true
  · simp [lastAccepted, List.findIdx?_cons, hx]
  · have hlater : ((fun k ↦ xs.length - k) ∘ fun i ↦ i + 1) = fun k ↦ xs.length - 1 - k := by
      funext k
      simp only [Function.comp_apply]
      omega
    simp [lastAccepted, List.findIdx?_cons, hx, Option.map_map, hlater]

/-- What the search finds: an accepted item, at most `maxDepth` items from the tail, with no
accepted item after it. -/
theorem lastAccepted_eq_some (accepts : α → Bool) (maxDepth : ℕ) (xs : List α) (k : ℕ) :
    lastAccepted accepts maxDepth xs = some k ↔
      ∃ hk : k < xs.length, xs.length - maxDepth ≤ k ∧ accepts xs[k] = true ∧
        ∀ j (hj : j < xs.length), k < j → accepts xs[j] = false := by
  induction xs using List.reverseRecOn generalizing maxDepth with
  | nil => simp
  | append_singleton xs x ih =>
    cases maxDepth with
    | zero => simp; omega
    | succ maxDepth =>
      rw [lastAccepted_concat]
      by_cases hx : accepts x = true
      · rw [if_pos hx, Option.some_inj]
        constructor
        · rintro rfl
          refine ⟨by simp, by simp, by simpa using hx, fun j hj hlater ↦ ?_⟩
          simp at hj
          omega
        · rintro ⟨hk, -, -, hlast⟩
          have hle : ¬ k < xs.length := by
            intro hlt
            have := hlast xs.length (by simp) hlt
            simp [hx] at this
          simp at hk
          omega
      · rw [if_neg hx, ih]
        constructor
        · rintro ⟨hk, hdepth, hacc, hlast⟩
          refine ⟨by simp; omega, by simp; omega, by simpa [hk] using hacc, fun j hj hlater ↦ ?_⟩
          by_cases hjx : j < xs.length
          · simpa [hjx] using hlast j hjx hlater
          · obtain rfl : j = xs.length := by simp at hj; omega
            simpa using hx
        · rintro ⟨hk, hdepth, hacc, hlast⟩
          have hkx : k < xs.length := by
            by_contra hge
            obtain rfl : k = xs.length := by simp at hk; omega
            exact hx (by simpa using hacc)
          refine ⟨hkx, by simp at hdepth; omega, by simpa [hkx] using hacc, fun j hj hlater ↦ ?_⟩
          have hrejected := hlast j (by simp; omega) hlater
          rwa [List.getElem_append_left hj] at hrejected

/-- The search finds nothing exactly when none of the items it looks at is accepted. -/
theorem lastAccepted_eq_none (accepts : α → Bool) (maxDepth : ℕ) (xs : List α) :
    lastAccepted accepts maxDepth xs = none ↔
      ∀ x ∈ xs.drop (xs.length - maxDepth), accepts x = false := by
  unfold lastAccepted
  rw [Option.map_eq_none_iff, List.findIdx?_eq_none_iff, List.take_reverse]
  simp only [List.mem_reverse]

/-- What is found splits the list: no item behind it is accepted, and fewer than `maxDepth` items
are behind it. -/
theorem lastAccepted_split {accepts : α → Bool} {maxDepth : ℕ} {xs : List α} {k : ℕ}
    (hfound : lastAccepted accepts maxDepth xs = some k) :
    ∃ front x back, xs = front ++ x :: back ∧ front.length = k ∧ back.length < maxDepth ∧
      accepts x = true ∧ ∀ y ∈ back, accepts y = false := by
  obtain ⟨hk, hdepth, haccepted, hlast⟩ := (lastAccepted_eq_some accepts maxDepth xs k).mp hfound
  refine ⟨xs.take k, xs[k], xs.drop (k + 1), ?_, ?_, ?_, haccepted, ?_⟩
  · rw [← List.drop_eq_getElem_cons hk, List.take_append_drop]
  · rw [List.length_take, Nat.min_eq_left (Nat.le_of_lt hk)]
  · rw [List.length_drop]
    omega
  · intro y hy
    obtain ⟨j, hj, rfl⟩ := List.getElem_of_mem hy
    rw [List.length_drop] at hj
    rw [List.getElem_drop]
    exact hlast (k + 1 + j) (by omega) (by omega)

end BoundedDeque

/-! ### Wrapping indices -/

section Slots

variable {n : ℕ} [NeZero n]

/-- The cell `p` places after `first`, counted cyclically. -/
def slot (first : Fin n) (p : ℕ) : Fin n := Fin.ofNat n (first + p)

theorem slot_val (first : Fin n) (p : ℕ) : (slot first p : ℕ) = (first + p) % n := rfl

@[simp] theorem slot_zero (first : Fin n) : slot first 0 = first := by
  apply Fin.ext
  rw [slot_val, Nat.add_zero, Nat.mod_eq_of_lt first.isLt]

@[simp] theorem slot_size (first : Fin n) : slot first n = first := by
  apply Fin.ext
  rw [slot_val, Nat.add_mod_right, Nat.mod_eq_of_lt first.isLt]

/-- Steps along the buffer add up. -/
@[simp] theorem slot_slot (first : Fin n) (p q : ℕ) :
    slot (slot first p) q = slot first (p + q) := by
  apply Fin.ext
  rw [slot_val, slot_val, slot_val, Nat.mod_add_mod, Nat.add_assoc]

/-- Places less than one round apart are different cells. -/
theorem slot_inj {first : Fin n} {p q : ℕ} (hp : p < n) (hq : q < n) :
    slot first p = slot first q ↔ p = q := by
  refine ⟨fun hslot ↦ ?_, fun hpq ↦ by rw [hpq]⟩
  have hmod : first + p ≡ first + q [MOD n] := congrArg Fin.val hslot
  exact (Nat.ModEq.add_left_cancel' _ hmod).eq_of_lt_of_lt hp hq

/-- Every cell is less than one round after the first. -/
theorem exists_slot (first cell : Fin n) : ∃ p < n, slot first p = cell := by
  refine ⟨(cell + (n - first)) % n, Nat.mod_lt _ (Nat.pos_of_neZero n), Fin.ext ?_⟩
  have hround : (first : ℕ) + (cell + (n - first)) = cell + n := by
    have := first.isLt
    omega
  rw [slot_val, Nat.add_mod_mod, hround, Nat.add_mod_right, Nat.mod_eq_of_lt cell.isLt]

/-- One step back is one round less one step. -/
theorem slot_pred (first : Fin n) (p : ℕ) : slot (slot first (p + 1)) (n - 1) = slot first p := by
  have hround : p + 1 + (n - 1) = n + p := by
    have := Nat.pos_of_neZero n
    omega
  rw [slot_slot, hround, ← slot_slot, slot_size]

end Slots

/-! ### The buffer that holds a list -/

section Buffers

variable {n : ℕ} [NeZero n] {α : Type*}

/-- The buffer holds the list `xs`, in order from the cell `first` on, and nothing else. -/
structure Holds (cells : Fin n → Option α) (first : Fin n) (xs : List α) : Prop where
  fits : xs.length ≤ n
  reads : ∀ p < n, cells (slot first p) = xs[p]?

variable {cells : Fin n → Option α} {first : Fin n} {xs : List α}

theorem Holds.nil (first : Fin n) : Holds (fun _ ↦ (none : Option α)) first [] :=
  ⟨Nat.zero_le n, fun p _ ↦ by simp⟩

/-- The cells with an item are those of the first `xs.length` places. -/
theorem Holds.isSome_iff (hxs : Holds cells first xs) (cell : Fin n) :
    (cells cell).isSome ↔ ∃ p < xs.length, cell = slot first p := by
  obtain ⟨q, hq, rfl⟩ := exists_slot first cell
  rw [hxs.reads q hq]
  constructor
  · intro hsome
    refine ⟨q, ?_, rfl⟩
    simpa using hsome
  · rintro ⟨p, hp, hslot⟩
    obtain rfl : q = p := (slot_inj hq (by have := hxs.fits; omega)).mp hslot
    simpa using hp

/-- Writing one cell changes one entry of the list. -/
theorem Holds.update {ys : List α} {k : ℕ} {value : Option α} (hxs : Holds cells first xs)
    (hk : k < n) (hfits : ys.length ≤ n) (hat : ys[k]? = value)
    (helse : ∀ p, p ≠ k → ys[p]? = xs[p]?) :
    Holds (Function.update cells (slot first k) value) first ys := by
  refine ⟨hfits, fun p hp ↦ ?_⟩
  by_cases hpk : p = k
  · subst hpk
    rw [Function.update_self, hat]
  · have hslot : slot first p ≠ slot first k := fun h ↦ hpk ((slot_inj hp hk).mp h)
    rw [Function.update_of_ne hslot, helse p hpk, hxs.reads p hp]

/-- The cell behind the tail of a list that leaves room is empty. -/
theorem Holds.tail_empty (hxs : Holds cells first xs) (hroom : xs.length < n) :
    cells (slot first xs.length) = none := by
  simpa using hxs.reads xs.length hroom

/-- The cell before the head of a list that leaves room is empty. -/
theorem Holds.head_empty (hxs : Holds cells first xs) (hroom : xs.length < n) :
    cells (slot first (n - 1)) = none := by
  rw [hxs.reads (n - 1) (by omega)]
  simp only [List.getElem?_eq_none_iff]
  omega

/-- An item written behind the tail extends the list there. -/
theorem Holds.snoc (hxs : Holds cells first xs) (hroom : xs.length < n) (x : α) :
    Holds (Function.update cells (slot first xs.length) (some x)) first (xs ++ [x]) := by
  refine hxs.update hroom (by simp; omega) (by simp) fun p hp ↦ ?_
  rcases Nat.lt_or_gt_of_ne hp with hlt | hgt
  · rw [List.getElem?_append_left hlt]
  · rw [List.getElem?_eq_none (by simp; omega), List.getElem?_eq_none (by omega)]

/-- Emptying the cell of the tail takes the tail off the list. -/
theorem Holds.unsnoc {x : α} (hxs : Holds cells first (xs ++ [x])) :
    Holds (Function.update cells (slot first xs.length) none) first xs := by
  have hfits : xs.length + 1 ≤ n := by simpa using hxs.fits
  refine hxs.update (by omega) (by omega) (by simp) fun p hp ↦ ?_
  rcases Nat.lt_or_gt_of_ne hp with hlt | hgt
  · rw [List.getElem?_append_left hlt]
  · rw [List.getElem?_eq_none (by omega), List.getElem?_eq_none (by simp; omega)]

/-- An item written before the head extends the list there. -/
theorem Holds.consHead (hxs : Holds cells first xs) (hroom : xs.length < n) (x : α) :
    Holds (Function.update cells (slot first (n - 1)) (some x)) (slot first (n - 1))
      (x :: xs) := by
  refine ⟨by simp; omega, fun p hp ↦ ?_⟩
  cases p with
  | zero => simp
  | succ p =>
    have hround : n - 1 + (p + 1) = n + p := by omega
    have hslot : slot (slot first (n - 1)) (p + 1) = slot first p := by
      rw [slot_slot, hround, ← slot_slot, slot_size]
    have hne : slot first p ≠ slot first (n - 1) := by
      intro h
      have := (slot_inj (by omega) (by omega)).mp h
      omega
    rw [hslot, Function.update_of_ne hne, hxs.reads p (by omega), List.getElem?_cons_succ]

/-- Emptying the cell of the head takes the head off the list. -/
theorem Holds.dropHead {x : α} (hxs : Holds cells first (x :: xs)) :
    Holds (Function.update cells first none) (slot first 1) xs := by
  have hfits : xs.length + 1 ≤ n := by simpa using hxs.fits
  refine ⟨by omega, fun p hp ↦ ?_⟩
  rw [slot_slot, Nat.add_comm 1 p]
  by_cases hlast : p + 1 = n
  · rw [hlast, slot_size, Function.update_self, List.getElem?_eq_none (by omega)]
  · have hne : slot first (p + 1) ≠ first := by
      intro h
      rw [← slot_zero first, slot_slot, Nat.zero_add] at h
      have := (slot_inj (by omega) (by omega)).mp h
      omega
    rw [Function.update_of_ne hne, hxs.reads (p + 1) (by omega), List.getElem?_cons_succ]

/-- Copying a cell one place towards the head overwrites the entry before it. -/
theorem Holds.copyNext {k : ℕ} (hxs : Holds cells first xs) (hk : k + 1 < xs.length) :
    Holds (Function.update cells (slot first k) (cells (slot first (k + 1)))) first
      (xs.set k xs[k + 1]) := by
  have hfits := hxs.fits
  rw [hxs.reads (k + 1) (by omega)]
  refine hxs.update (by omega) (by simpa using hfits) ?_ fun p hp ↦ ?_
  · rw [List.getElem?_set_self (by omega), List.getElem?_eq_getElem hk]
  · rw [List.getElem?_set_ne (Ne.symm hp)]

/-- Overwriting an entry by the next one and erasing that one is erasing the entry. -/
theorem eraseIdx_succ_set {k : ℕ} (xs : List α) (hk : k + 1 < xs.length) :
    (xs.set k xs[k + 1]).eraseIdx (k + 1) = xs.eraseIdx k := by
  induction xs generalizing k with
  | nil => simp at hk
  | cons x rest ih =>
    cases k with
    | zero =>
      cases rest with
      | nil => simp at hk
      | cons y rest => simp
    | succ k =>
      have hrest : k + 1 < rest.length := by simpa using hk
      simpa using ih hrest

end Buffers

end MultiUeProxy.Lib.Ring
