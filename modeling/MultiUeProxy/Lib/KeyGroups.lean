import Mathlib.Data.List.Perm.Basic
import Mathlib.Data.Nat.Notation

/-!
# Lists grouped by a key

The items of a list are grouped by a key: `keys` are the keys in the order of their first
occurrences, and `group k` are the items with the key `k` in the order of the list. Taking the first
key, removing its group and going on with the rest runs through `keys` (`keys_cons`), and the
groups together are the list in another order (`groups_perm`).
-/

set_option autoImplicit false
set_option relaxedAutoImplicit false

namespace MultiUeProxy.Lib.KeyGroups

variable {α κ : Type} [DecidableEq κ] (key : α → κ)

/-- The keys in the order of their first occurrences. -/
def keys (xs : List α) : List κ := (xs.map key).eraseDups

/-- The items with a given key. -/
def group (k : κ) (xs : List α) : List α := xs.filter fun x ↦ key x = k

/-- The items with another key. -/
def others (k : κ) (xs : List α) : List α := xs.filter fun x ↦ key x ≠ k

theorem keys_cons (x : α) (xs : List α) :
    keys key (x :: xs) = key x :: keys key (others key (key x) (x :: xs)) := by
  have hsplit : (xs.map key).filter (fun k ↦ !k == key x) =
      (others key (key x) (x :: xs)).map key := by
    unfold others
    rw [List.filter_cons_of_neg (by simp), List.filter_map]
    congr 2
    funext y
    simp only [Function.comp_apply, ne_eq, decide_not]
    rfl
  rw [keys, List.map_cons, List.eraseDups_cons, hsplit, keys]

theorem mem_keys {k : κ} {xs : List α} : k ∈ keys key xs ↔ ∃ x ∈ xs, key x = k := by
  unfold keys
  rw [List.mem_eraseDups, List.mem_map]

theorem others_length_lt (x : α) (xs : List α) :
    (others key (key x) (x :: xs)).length < (x :: xs).length := by
  unfold others
  rw [List.filter_cons_of_neg (by simp)]
  exact Nat.lt_succ_of_le (List.length_filter_le ..)

/-- A property of all lists holds if it holds of the empty list and of a list whenever it holds of
what is left without the group of the first item. -/
theorem group_induction {P : List α → Prop} (hnil : P [])
    (hcons : ∀ x xs, P (others key (key x) (x :: xs)) → P (x :: xs)) (xs : List α) : P xs := by
  obtain ⟨n, hn⟩ : ∃ n, xs.length ≤ n := ⟨xs.length, Nat.le_refl _⟩
  induction n generalizing xs with
  | zero =>
    obtain rfl := List.length_eq_zero_iff.mp (Nat.le_zero.mp hn)
    exact hnil
  | succ n ih =>
    cases xs with
    | nil => exact hnil
    | cons x xs =>
      exact hcons x xs (ih _ (Nat.le_of_lt_succ
        (Nat.lt_of_lt_of_le (others_length_lt key x xs) hn)))

theorem keys_nodup (xs : List α) : (keys key xs).Nodup := by
  induction xs using group_induction key with
  | hnil => exact List.nodup_nil
  | hcons x xs ih =>
    rw [keys_cons]
    refine List.nodup_cons.mpr ⟨fun hmem ↦ ?_, ih⟩
    obtain ⟨y, hy, hkey⟩ := (mem_keys key).mp hmem
    exact absurd hkey (of_decide_eq_true (List.mem_filter.mp hy).2)

/-- The group of another key is still there when one group is removed. -/
theorem group_others {k k' : κ} (hne : k ≠ k') (xs : List α) :
    group key k (others key k' xs) = group key k xs := by
  unfold group others
  rw [List.filter_filter]
  refine List.filter_congr fun x _ ↦ ?_
  by_cases hk : key x = k
  · simp [hk, hne]
  · simp [hk]

/-- What is done to the groups of the keys behind the first one is done to the groups of the
rest. -/
theorem map_groups_others {β : Type} (f : κ → List α → β) (x : α) (xs : List α) :
    (keys key (others key (key x) (x :: xs))).map
        (fun k ↦ f k (group key k (others key (key x) (x :: xs)))) =
      (keys key (others key (key x) (x :: xs))).map fun k ↦ f k (group key k (x :: xs)) := by
  refine List.map_congr_left fun k hk ↦ ?_
  obtain ⟨y, hy, rfl⟩ := (mem_keys key).mp hk
  rw [group_others key (of_decide_eq_true (List.mem_filter.mp hy).2)]

/-- A group and the other items are the list in another order. -/
theorem group_append_others_perm (k : κ) (xs : List α) :
    (group key k xs ++ others key k xs).Perm xs := by
  have hnot : others key k xs = xs.filter fun x ↦ !decide (key x = k) :=
    List.filter_congr fun x _ ↦ by simp
  rw [hnot]
  exact List.filter_append_perm _ xs

/-- The groups, one behind the other, are the list in another order. -/
theorem groups_perm (xs : List α) : ((keys key xs).flatMap fun k ↦ group key k xs).Perm xs := by
  induction xs using group_induction key with
  | hnil => exact List.Perm.refl _
  | hcons x xs ih =>
    rw [List.flatMap_def, map_groups_others key (fun _ ms ↦ ms) x xs, ← List.flatMap_def] at ih
    rw [keys_cons, List.flatMap_cons]
    exact (List.Perm.append_left _ ih).trans (group_append_others_perm key (key x) (x :: xs))

end MultiUeProxy.Lib.KeyGroups
