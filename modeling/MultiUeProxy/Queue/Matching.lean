import MultiUeProxy.Queue.DequeRefinement

/-!
# What `unqueue_matching` takes out of a queue

The items of a queue are those of its `window`, in the order in which they were queued. The
refinement of the deque gives the item that `unqueue_matching` removes for a queue that
`Represents` a list; `QueueInvariant.represents` shows that every queue whose fields have the
invariant is one, so that `unqueueMatching_removes_last_match` is about every valid queue.

`recent q maxDepth` are the items that the search may look at. What it does with the rest of the
queue is nothing: a matcher that agrees on the recent items has the same result
(`searchBack_congr`), and a search that finds nothing leaves the very same queue
(`searchBack_none`).
-/

set_option autoImplicit false
set_option relaxedAutoImplicit false

namespace MultiUeProxy.Queue.Matching

open Lib.Execution Lib.Ring Operations DequeRefinement

variable {α ω : Type}

/-- The items next to the tail, `maxDepth` of them or all. -/
def recent (q : QueueT α) (maxDepth : ℕ) : List (Option α) :=
  (window q).drop (q.numItems - maxDepth)

/-! ### Every valid queue stands for a list -/

theorem window_length (q : QueueT α) : (window q).length = q.numItems := by
  unfold window
  rw [List.length_map, List.length_range]

theorem window_getElem? {q : QueueT α} {p : ℕ} (hp : p < q.numItems) :
    (window q)[p]? = some (q.items (slot q.readIndex p)) := by
  unfold window
  rw [List.getElem?_map, List.getElem?_range hp]
  rfl

/-- The cells of the window hold items. -/
theorem isSome_of_mem_window {q : QueueT α} (h : QueueInvariant q) {cell : Option α}
    (hcell : cell ∈ window q) : cell.isSome := by
  obtain ⟨p, hp, rfl⟩ := List.mem_map.mp hcell
  apply (h.occupied_iff _).mpr
  exact ⟨p, List.mem_range.mp hp, rfl⟩

/-- A list of cells that all hold items is a list of items. -/
theorem exists_items (cells : List (Option α)) (h : ∀ cell ∈ cells, cell.isSome) :
    ∃ xs : List α, xs.map some = cells := by
  induction cells with
  | nil => exact ⟨[], rfl⟩
  | cons cell rest ih =>
    obtain ⟨xs, hxs⟩ := ih fun cell hcell ↦ h cell (List.mem_cons_of_mem _ hcell)
    obtain ⟨x, hx⟩ := Option.isSome_iff_exists.mp (h cell List.mem_cons_self)
    exact ⟨x :: xs, by rw [List.map_cons, hxs, hx]⟩

/-- A cell outside the window is empty. -/
theorem empty_of_outside {q : QueueT α} (h : QueueInvariant q) {p : ℕ} (hp : p < maxQueueSize)
    (hout : q.numItems ≤ p) : q.items (slot q.readIndex p) = none := by
  rw [← Option.not_isSome_iff_eq_none, h.occupied_iff]
  rintro ⟨r, hr, hslot⟩
  have hsame : slot q.readIndex p = slot q.readIndex r := Fin.ext hslot
  have hle := h.count_le
  have : p = r := (slot_inj hp (by omega)).mp hsame
  omega

/-- A queue whose fields have the invariant stands for the items of its window. -/
theorem invariant_represents {q : QueueT α} (h : QueueInvariant q) : ∃ xs, Represents q xs := by
  obtain ⟨xs, hxs⟩ := exists_items (window q) fun _ hcell ↦ isSome_of_mem_window h hcell
  have hcount : q.numItems = xs.length := by rw [← window_length q, ← hxs, List.length_map]
  refine ⟨xs, ⟨?_, ?_⟩, hcount, ?_⟩
  · exact hcount ▸ h.count_le
  · intro p hp
    by_cases hin : p < q.numItems
    · have hread := window_getElem? hin
      rw [← hxs, List.getElem?_map] at hread
      rw [List.getElem?_eq_getElem (hcount ▸ hin)] at hread ⊢
      exact (Option.some_inj.mp hread).symm
    · rw [empty_of_outside h hp (Nat.le_of_not_lt hin), List.getElem?_eq_none (by omega)]
  · apply Fin.ext
    rw [h.write_eq, slot_val, hcount]

/-! ### The search -/

section Search

variable {q : QueueT α}

/-- A matcher that accepts nothing leaves the queue as it is. -/
theorem searchBack_rejectAll (wanted : ω) (remaining maxDepth : ℕ) (endi : Fin maxQueueSize) :
    searchBack q (fun _ _ ↦ false) wanted remaining maxDepth endi = .ok (none, q) := by
  induction remaining generalizing maxDepth endi with
  | zero => rfl
  | succ remaining ih =>
    cases maxDepth with
    | zero => rfl
    | succ maxDepth =>
      unfold searchBack
      exact ih maxDepth _

/-- The search asks the matcher about the items next to the tail only. -/
theorem searchBack_congr {matcher other : ω → Option α → Bool} {wanted : ω} (front back : List α)
    (maxDepth : ℕ) (h : Represents q (front ++ back))
    (hagree : ∀ x ∈ front.drop (front.length - maxDepth),
      other wanted (some x) = matcher wanted (some x)) :
    searchBack q other wanted front.length maxDepth (slot q.readIndex front.length) =
      searchBack q matcher wanted front.length maxDepth (slot q.readIndex front.length) := by
  induction front using List.reverseRecOn generalizing back maxDepth with
  | nil => rfl
  | append_singleton front x ih =>
    rw [List.length_append, List.length_singleton] at hagree ⊢
    cases maxDepth with
    | zero => rfl
    | succ maxDepth =>
      have hcandidate : q.items (slot q.readIndex front.length) = some x := by
        have hfits := h.length_le
        rw [h.holds.reads front.length (by simp at hfits; omega)]
        simp
      have hdrop : (front ++ [x]).drop (front.length + 1 - (maxDepth + 1)) =
          front.drop (front.length - maxDepth) ++ [x] := by
        rw [Nat.add_sub_add_right, List.drop_append_of_le_length (Nat.sub_le _ _)]
      rw [hdrop] at hagree
      have hx : other wanted (some x) = matcher wanted (some x) := hagree x (by simp)
      have hrest := ih (x :: back) maxDepth (by simpa using h)
        fun y hy ↦ hagree y (List.mem_append_left _ hy)
      unfold searchBack
      simp only [ofNat_pred_slot, hcandidate, hx, hrest]

/-- A search that finds nothing returns `NULL` and the queue it was given. -/
theorem searchBack_none {matcher : ω → Option α → Bool} {wanted : ω} (front back : List α)
    (maxDepth : ℕ) (h : Represents q (front ++ back))
    (hnone : ∀ x ∈ front.drop (front.length - maxDepth), matcher wanted (some x) = false) :
    searchBack q matcher wanted front.length maxDepth (slot q.readIndex front.length) =
      .ok (none, q) := by
  have hrejectAll : searchBack q (fun _ _ ↦ false) wanted front.length maxDepth
        (slot q.readIndex front.length) =
      searchBack q matcher wanted front.length maxDepth (slot q.readIndex front.length) :=
    searchBack_congr front back maxDepth h fun x hx ↦ (hnone x hx).symm
  rw [← hrejectAll]
  exact searchBack_rejectAll wanted _ _ _

end Search

/-! ### The whole function -/

section UnqueueMatching

variable {q : QueueT α} {xs : List α}

theorem unqueueMatching_eq (h : Represents q xs) (maxDepth : ℕ) (matcher : ω → Option α → Bool)
    (wanted : ω) :
    unqueueMatching q maxDepth matcher wanted =
      searchBack q matcher wanted xs.length maxDepth (slot q.readIndex xs.length) := by
  unfold unqueueMatching
  rw [h.count, h.write]

theorem recent_eq (h : Represents q xs) (maxDepth : ℕ) :
    recent q maxDepth = (xs.drop (xs.length - maxDepth)).map some := by
  unfold recent
  rw [h.window_eq, h.count, List.map_drop]

/-- The items around the last accepted one stay, and it is what is returned. -/
theorem unqueueMatching_of_split (front back : List α) (x : α) (maxDepth : ℕ)
    (matcher : ω → Option α → Bool) (wanted : ω) (h : Represents q (front ++ x :: back))
    (hfound : BoundedDeque.lastAccepted (fun x ↦ matcher wanted (some x)) maxDepth
      (front ++ x :: back) = some front.length) :
    ∃ q', unqueueMatching q maxDepth matcher wanted = .ok (some x, q') ∧
      Represents q' (front ++ back) := by
  obtain ⟨q', hrun, hrep⟩ := searchBack_represents matcher wanted (front ++ x :: back) [] maxDepth
    (by simpa using h)
  refine ⟨q', ?_, ?_⟩
  · rw [unqueueMatching_eq h, hrun, hfound]
    simp
  · rw [hfound, Option.map_some, Option.getD_some, List.append_nil,
      List.eraseIdx_append_of_length_le (Nat.le_refl _)] at hrep
    simpa using hrep

/-- For every valid queue, `unqueue_matching` looks at the `min(num_items, max_depth)` items next
to the tail alone. It removes and returns the last of them that matches and keeps the order of all
the others; if none matches it returns `NULL` and the queue it was given. -/
theorem unqueueMatching_removes_last_match (q : QueueT α) (hq : QueueInvariant q) (maxDepth : ℕ)
    (matcher : ω → Option α → Bool) (wanted : ω) :
    (recent q maxDepth).length = min q.numItems maxDepth ∧
    (∀ other : ω → Option α → Bool,
      (∀ y ∈ recent q maxDepth, other wanted y = matcher wanted y) →
        unqueueMatching q maxDepth other wanted = unqueueMatching q maxDepth matcher wanted) ∧
    ((∃ front x back q', window q = front ++ some x :: back ∧
        back.length < min q.numItems maxDepth ∧
        matcher wanted (some x) = true ∧ (∀ y ∈ back, matcher wanted y = false) ∧
        unqueueMatching q maxDepth matcher wanted = .ok (some x, q') ∧
        QueueInvariant q' ∧ window q' = front ++ back ∧ q'.numItems + 1 = q.numItems) ∨
      ((∀ y ∈ recent q maxDepth, matcher wanted y = false) ∧
        unqueueMatching q maxDepth matcher wanted = .ok (none, q))) := by
  obtain ⟨xs, h⟩ := invariant_represents hq
  refine ⟨?_, ?_, ?_⟩
  · unfold recent
    rw [List.length_drop, window_length]
    omega
  · intro other hagree
    rw [recent_eq h] at hagree
    rw [unqueueMatching_eq h, unqueueMatching_eq h]
    apply searchBack_congr xs [] maxDepth (by simpa using h)
    exact fun x hx ↦ hagree (some x) (List.mem_map_of_mem hx)
  · cases hfound : BoundedDeque.lastAccepted (fun x ↦ matcher wanted (some x)) maxDepth xs with
    | none =>
      right
      have hnone := (BoundedDeque.lastAccepted_eq_none _ maxDepth xs).mp hfound
      constructor
      · rw [recent_eq h]
        intro y hy
        obtain ⟨x, hx, rfl⟩ := List.mem_map.mp hy
        exact hnone x hx
      · rw [unqueueMatching_eq h]
        exact searchBack_none xs [] maxDepth (by simpa using h) hnone
    | some k =>
      left
      obtain ⟨front, x, back, rfl, rfl, hdepth, hmatch, hlater⟩ :=
        BoundedDeque.lastAccepted_split hfound
      obtain ⟨q', hrun, hrep⟩ := unqueueMatching_of_split front back x maxDepth matcher wanted h
        hfound
      have hcount := h.count
      rw [List.length_append, List.length_cons] at hcount
      refine ⟨front.map some, x, back.map some, q', ?_, ?_, hmatch, ?_, hrun, hrep.invariant, ?_,
        ?_⟩
      · rw [h.window_eq, List.map_append, List.map_cons]
      · rw [List.length_map]
        omega
      · intro y hy
        obtain ⟨z, hz, rfl⟩ := List.mem_map.mp hy
        exact hlater z hz
      · rw [hrep.window_eq, List.map_append]
      · rw [hrep.count, hcount, List.length_append]
        omega

/-- Of three items, of which the first and the second match, the second is taken when the search
may look at two items. -/
theorem unqueueMatching_second_of_three :
    let q := fill [2, 4, 5]
    let isEven : Unit → Option ℕ → Bool := fun _ y ↦ y.all (· % 2 = 0)
    ∃ front x back q', window q = front ++ some x :: back ∧
      unqueueMatching q 2 isEven () = .ok (some x, q') ∧ window q' = front ++ back := by
  intro q isEven
  have hq : QueueInvariant q := (represents_fill [2, 4, 5] (by decide)).invariant
  obtain ⟨-, -, ⟨front, x, back, q', hwindow, -, -, -, hrun, -, hwindow', -⟩ | ⟨hnone, -⟩⟩ :=
    unqueueMatching_removes_last_match q hq 2 isEven ()
  · exact ⟨front, x, back, q', hwindow, hrun, hwindow'⟩
  · have hrecent : some 4 ∈ recent q 2 := by
      rw [recent_eq (represents_fill [2, 4, 5] (by decide))]
      simp
    exact absurd (hnone (some 4) hrecent) (by decide)

end UnqueueMatching

end MultiUeProxy.Queue.Matching
