import MultiUeProxy.Queue.Operations

/-!
# The message queue is a bounded deque

`Represents q deque` relates a queue to the bounded deque it stands for: the circular array holds
the items of the deque from the read index on, the count is their number and the write index is
the place behind the last of them. Each operation has one lemma, `putQueue_represents` to
`unqueueMatching_represents`, which says that it returns, with the deque's reply and a queue that
represents the deque's next state. `queueStep_represents` puts them together and
`runQueue_refines_deque` is the result for whole runs from `initQueue`, in terms of the fields of
the queue alone (`QueueInvariant`, `window`).
-/

set_option autoImplicit false
set_option relaxedAutoImplicit false

namespace MultiUeProxy.Queue.DequeRefinement

open Lib.Execution Lib.Ring Operations

variable {α ω : Type}

/-- The queue stands for a list of items. -/
structure Represents (q : QueueT α) (xs : List α) : Prop where
  holds : Holds q.items q.readIndex xs
  count : q.numItems = xs.length
  write : q.writeIndex = slot q.readIndex xs.length

theorem represents_init : Represents (initQueue : QueueT α) [] :=
  ⟨Holds.nil _, rfl, (slot_zero _).symm⟩

section Operations

variable {q : QueueT α} {xs : List α}

theorem Represents.length_le (h : Represents q xs) : xs.length ≤ maxQueueSize := h.holds.fits

/-- The index after a place is the next place. -/
theorem ofNat_succ_slot (first : Fin maxQueueSize) (p : ℕ) :
    Fin.ofNat maxQueueSize (slot first p + 1) = slot first (p + 1) :=
  slot_slot first p 1

/-- The index before a place is the previous place. -/
theorem ofNat_pred_slot (first : Fin maxQueueSize) (p : ℕ) :
    Fin.ofNat maxQueueSize (slot first (p + 1) + maxQueueSize - 1) = slot first p :=
  slot_pred first p

theorem putQueue_of_full (h : Represents q xs) (hfull : xs.length = maxQueueSize) (x : α) :
    putQueue q (some x) = .ok (false, q) := by
  have hcount : q.numItems ≥ maxQueueSize := by rw [h.count, hfull]
  simp only [putQueue, Option.isSome_some, assert_of_true, ok_bind, if_pos hcount, pure_eq_ok]

/-- `put_queue` appends at the tail of a queue that is not full. -/
theorem putQueue_of_room (h : Represents q xs) (hroom : xs.length < maxQueueSize) (x : α) :
    ∃ q', putQueue q (some x) = .ok (true, q') ∧ Represents q' (xs ++ [x]) := by
  have hcount : ¬ q.numItems ≥ maxQueueSize := by rw [h.count]; omega
  have hempty : (q.items q.writeIndex).isNone = true := by
    rw [h.write, h.holds.tail_empty hroom, Option.isNone_none]
  refine ⟨_, by simp only [putQueue, Option.isSome_some, assert_of_true, ok_bind,
    if_neg hcount, hempty, pure_eq_ok]; rfl, ?_, ?_, ?_⟩
  · simpa only [h.write] using h.holds.snoc hroom x
  · simp [h.count]
  · simp only [h.write, ofNat_succ_slot, List.length_append, List.length_singleton]

theorem requeue_of_full (h : Represents q xs) (hfull : xs.length = maxQueueSize) (x : α) :
    requeue q (some x) = .ok (false, q) := by
  have hcount : q.numItems ≥ maxQueueSize := by rw [h.count, hfull]
  simp only [requeue, Option.isSome_some, assert_of_true, ok_bind, if_pos hcount, pure_eq_ok]

/-- `requeue` prepends at the head of a queue that is not full. -/
theorem requeue_of_room (h : Represents q xs) (hroom : xs.length < maxQueueSize) (x : α) :
    ∃ q', requeue q (some x) = .ok (true, q') ∧ Represents q' (x :: xs) := by
  have hcount : ¬ q.numItems ≥ maxQueueSize := by rw [h.count]; omega
  have hread : Fin.ofNat maxQueueSize (q.readIndex + maxQueueSize - 1) =
      slot q.readIndex (maxQueueSize - 1) := rfl
  have hempty : (q.items (slot q.readIndex (maxQueueSize - 1))).isNone = true := by
    rw [h.holds.head_empty hroom, Option.isNone_none]
  refine ⟨_, by simp only [requeue, Option.isSome_some, assert_of_true, ok_bind,
    if_neg hcount, hread, hempty, pure_eq_ok]; rfl, ?_, ?_, ?_⟩
  · exact h.holds.consHead hroom x
  · simp [h.count]
  · have hround : maxQueueSize - 1 + (xs.length + 1) = maxQueueSize + xs.length := by
      have : 0 < maxQueueSize := by decide
      omega
    rw [List.length_cons, slot_slot, hround, ← slot_slot, slot_size, h.write]

theorem getQueue_of_nil (h : Represents q []) : getQueue q = .ok (none, q) := by
  have hcount : ¬ q.numItems > 0 := by simp [h.count]
  simp only [getQueue, if_neg hcount, pure_eq_ok]

/-- `get_queue` removes and returns the head. -/
theorem getQueue_of_cons {x : α} (h : Represents q (x :: xs)) :
    ∃ q', getQueue q = .ok (some x, q') ∧ Represents q' xs := by
  have hcount : q.numItems > 0 := by simp [h.count]
  have hitem : q.items q.readIndex = some x := by
    simpa using h.holds.reads 0 (by decide)
  refine ⟨_, by simp only [getQueue, if_pos hcount, hitem, Option.isSome_some, assert_of_true,
    ok_bind, pure_eq_ok]; rfl, ?_, ?_, ?_⟩
  · exact h.holds.dropHead
  · simp [h.count]
  · have hnext : Fin.ofNat maxQueueSize (q.readIndex + 1) = slot q.readIndex 1 := rfl
    simp only [h.write, hnext, slot_slot, List.length_cons, Nat.add_comm 1]

theorem unqueue_of_nil (h : Represents q []) : unqueue q = .ok (none, q) := by
  have hcount : ¬ q.numItems > 0 := by simp [h.count]
  simp only [unqueue, if_neg hcount, pure_eq_ok]

/-- `unqueue` removes and returns the tail. -/
theorem unqueue_of_concat {x : α} (h : Represents q (xs ++ [x])) :
    ∃ q', unqueue q = .ok (some x, q') ∧ Represents q' xs := by
  have hlength : (xs ++ [x]).length = xs.length + 1 := by simp
  have hcount : q.numItems > 0 := by rw [h.count, hlength]; omega
  have hwrite : Fin.ofNat maxQueueSize (q.writeIndex + maxQueueSize - 1) =
      slot q.readIndex xs.length := by
    rw [h.write, hlength, ofNat_pred_slot]
  have hitem : q.items (slot q.readIndex xs.length) = some x := by
    rw [h.holds.reads xs.length (by have := h.length_le; omega)]
    simp
  refine ⟨_, by simp only [unqueue, if_pos hcount, hwrite, hitem, pure_eq_ok]; rfl, ?_, ?_, ?_⟩
  · exact h.holds.unsnoc
  · simp [h.count]
  · rfl

/-- The inner loop of `unqueue_matching` erases the item it starts from. It runs once for each
item from there to the tail. -/
theorem moveDown_represents (k bound : ℕ) (hk : k < xs.length) (hbound : xs.length - k ≤ bound)
    (h : Represents q xs) :
    ∃ q', moveDown bound q (slot q.readIndex k) = .ok q' ∧ Represents q' (xs.eraseIdx k) := by
  induction bound generalizing q xs k with
  | zero => omega
  | succ bound ih =>
    have hfits := h.length_le
    by_cases hlast : k + 1 = xs.length
    · -- the item at the tail: its cell becomes the new write index
      have htail : slot q.readIndex (k + 1) = q.writeIndex := by rw [h.write, hlast]
      obtain ⟨front, x, rfl⟩ : ∃ front x, xs = front ++ [x] :=
        ⟨xs.dropLast, xs.getLast (by rintro rfl; simp at hk),
          (List.dropLast_concat_getLast _).symm⟩
      obtain rfl : k = front.length := by simp at hlast; omega
      have herase : (front ++ [x]).eraseIdx front.length = front := by
        rw [List.eraseIdx_append_of_length_le (Nat.le_refl _)]
        simp
      rw [herase]
      refine ⟨_, by simp only [moveDown, ofNat_succ_slot, if_pos htail]; rfl, ?_, ?_, ?_⟩
      · exact h.holds.unsnoc
      · simp [h.count]
      · rfl
    · -- the next item moves down and leaves its own cell to the rest of the loop
      have hnext : k + 1 < xs.length := by omega
      have htail : slot q.readIndex (k + 1) ≠ q.writeIndex := by
        intro heq
        rw [h.write] at heq
        by_cases hfull : xs.length = maxQueueSize
        · rw [hfull, slot_size] at heq
          have hsame : slot q.readIndex (k + 1) = slot q.readIndex 0 := by rw [heq, slot_zero]
          have := (slot_inj (by omega) (by decide)).mp hsame
          omega
        · have := (slot_inj (by omega) (by omega)).mp heq
          omega
      let moved : QueueT α := { q with
        items := Function.update q.items (slot q.readIndex k) (q.items (slot q.readIndex (k + 1))) }
      have hmoved : Represents moved (xs.set k xs[k + 1]) :=
        ⟨h.holds.copyNext hnext, by simpa [moved] using h.count, by simpa [moved] using h.write⟩
      obtain ⟨q', hrun, hrep⟩ := ih (k + 1) (by simpa using hnext) (by simp; omega) hmoved
      refine ⟨q', ?_, by rwa [eraseIdx_succ_set xs hnext] at hrep⟩
      rw [moveDown]
      simp only [ofNat_succ_slot, if_neg htail]
      exact hrun

/-- The outer loop of `unqueue_matching`, when the items of `front` are still to be looked at. -/
theorem searchBack_represents (matcher : ω → Option α → Bool) (wanted : ω)
    (front back : List α) (maxDepth : ℕ) (h : Represents q (front ++ back)) :
    ∃ q', searchBack q matcher wanted front.length maxDepth (slot q.readIndex front.length) =
        .ok ((BoundedDeque.lastAccepted (fun x ↦ matcher wanted (some x)) maxDepth front).bind
          fun k ↦ (front ++ back)[k]?, q') ∧
      Represents q' (((BoundedDeque.lastAccepted (fun x ↦ matcher wanted (some x)) maxDepth
        front).map fun k ↦ (front ++ back).eraseIdx k).getD (front ++ back)) := by
  induction front using List.reverseRecOn generalizing back maxDepth with
  | nil => exact ⟨q, by simp [searchBack], by simpa using h⟩
  | append_singleton front x ih =>
    have hlength : (front ++ [x]).length = front.length + 1 := by simp
    rw [hlength]
    cases maxDepth with
    | zero => exact ⟨q, by simp [searchBack], by simpa using h⟩
    | succ maxDepth =>
      have hcandidate : q.items (slot q.readIndex front.length) = some x := by
        have hfits := h.length_le
        rw [h.holds.reads front.length (by simp at hfits; omega)]
        simp
      rw [BoundedDeque.lastAccepted_concat, searchBack]
      simp only [ofNat_pred_slot, hcandidate]
      by_cases hmatch : matcher wanted (some x) = true
      · obtain ⟨q', hdown, hrep⟩ := moveDown_represents front.length maxQueueSize
          (by simp) (by have := h.length_le; omega) h
        refine ⟨q', ?_, ?_⟩
        · simp only [if_pos hmatch, hdown, ok_bind, pure_eq_ok, Option.bind_some]
          simp
        · simpa only [if_pos hmatch, Option.map_some, Option.getD_some] using hrep
      · simp only [if_neg hmatch]
        simpa only [List.append_assoc, List.singleton_append] using
          ih (x :: back) maxDepth (by simpa using h)

end Operations

/-! ### A queue with given items -/

/-- The queue after the items are put into it in order, as far as they fit. -/
def fill (xs : List α) : QueueT α :=
  xs.foldl (fun q x ↦ match putQueue q (some x) with
    | .ok (_, q) => q
    | .error _ => q) initQueue

theorem represents_fill (xs : List α) (h : xs.length ≤ maxQueueSize) :
    Represents (fill xs) xs := by
  induction xs using List.reverseRecOn with
  | nil => exact represents_init
  | append_singleton xs x ih =>
    rw [List.length_append, List.length_singleton] at h
    obtain ⟨q, hput, hrep⟩ := putQueue_of_room (ih (by omega)) (by omega) x
    have hfill : fill (xs ++ [x]) = q := by
      unfold fill
      rw [List.foldl_append]
      change (match putQueue (fill xs) (some x) with
        | .ok (_, q) => q
        | .error _ => fill xs) = q
      rw [hput]
    rwa [hfill]

/-! ### The abstract deque -/

/-- The operations on a queue. -/
inductive QueueOp (α ω : Type) where
  | put (item : α)
  | get
  | requeue (item : α)
  | unqueue
  | unqueueMatching (maxDepth : ℕ) (matcher : ω → Option α → Bool) (wanted : ω)

/-- What an operation returns: the flag of `put_queue` and `requeue`, the item of the others. -/
inductive QueueReply (α : Type) where
  | queued (flag : Bool)
  | item (pointer : Option α)

/-- An operation on the queue of the source. -/
def queueStep (q : QueueT α) : QueueOp α ω → Outcome (QueueReply α × QueueT α)
  | .put item => do
    let (flag, q) ← putQueue q (some item)
    return (.queued flag, q)
  | .get => do
    let (pointer, q) ← getQueue q
    return (.item pointer, q)
  | .requeue item => do
    let (flag, q) ← Operations.requeue q (some item)
    return (.queued flag, q)
  | .unqueue => do
    let (pointer, q) ← Operations.unqueue q
    return (.item pointer, q)
  | .unqueueMatching maxDepth matcher wanted => do
    let (pointer, q) ← Operations.unqueueMatching q maxDepth matcher wanted
    return (.item pointer, q)

/-- The same operation on a bounded deque. -/
def dequeStep (deque : BoundedDeque maxQueueSize α) :
    QueueOp α ω → QueueReply α × BoundedDeque maxQueueSize α
  | .put item => (deque.pushBack item).map .queued id
  | .get => deque.popFront.map .item id
  | .requeue item => (deque.pushFront item).map .queued id
  | .unqueue => deque.popBack.map .item id
  | .unqueueMatching maxDepth matcher wanted =>
    (deque.removeLast (fun x ↦ matcher wanted (some x)) maxDepth).map .item id

section Steps

variable {q : QueueT α} {deque : BoundedDeque maxQueueSize α}

theorem putQueue_represents (h : Represents q deque.items) (x : α) :
    ∃ q', putQueue q (some x) = .ok ((deque.pushBack x).1, q') ∧
      Represents q' (deque.pushBack x).2.items := by
  by_cases hroom : deque.items.length < maxQueueSize
  · simpa only [BoundedDeque.pushBack, dif_pos hroom] using putQueue_of_room h hroom x
  · simp only [BoundedDeque.pushBack, dif_neg hroom]
    exact ⟨q, putQueue_of_full h (by have := deque.bounded; omega) x, h⟩

theorem requeue_represents (h : Represents q deque.items) (x : α) :
    ∃ q', requeue q (some x) = .ok ((deque.pushFront x).1, q') ∧
      Represents q' (deque.pushFront x).2.items := by
  by_cases hroom : deque.items.length < maxQueueSize
  · simpa only [BoundedDeque.pushFront, dif_pos hroom] using requeue_of_room h hroom x
  · simp only [BoundedDeque.pushFront, dif_neg hroom]
    exact ⟨q, requeue_of_full h (by have := deque.bounded; omega) x, h⟩

theorem getQueue_represents (h : Represents q deque.items) :
    ∃ q', getQueue q = .ok (deque.popFront.1, q') ∧ Represents q' deque.popFront.2.items := by
  obtain ⟨items, hbounded⟩ := deque
  cases items with
  | nil => exact ⟨q, getQueue_of_nil h, h⟩
  | cons x rest => exact getQueue_of_cons h

theorem unqueue_represents (h : Represents q deque.items) :
    ∃ q', unqueue q = .ok (deque.popBack.1, q') ∧ Represents q' deque.popBack.2.items := by
  obtain ⟨items, hbounded⟩ := deque
  induction items using List.reverseRecOn with
  | nil => exact ⟨q, unqueue_of_nil h, h⟩
  | append_singleton front x => simpa [BoundedDeque.popBack] using unqueue_of_concat h

theorem unqueueMatching_represents (h : Represents q deque.items) (maxDepth : ℕ)
    (matcher : ω → Option α → Bool) (wanted : ω) :
    let removed := deque.removeLast (fun x ↦ matcher wanted (some x)) maxDepth
    ∃ q', unqueueMatching q maxDepth matcher wanted = .ok (removed.1, q') ∧
      Represents q' removed.2.items := by
  intro removed
  obtain ⟨q', hrun, hrep⟩ := searchBack_represents matcher wanted deque.items [] maxDepth
    (by simpa using h)
  refine ⟨q', ?_, ?_⟩
  · unfold unqueueMatching
    rw [h.count, h.write, hrun]
    simp only [removed, BoundedDeque.removeLast, List.append_nil]
    cases BoundedDeque.lastAccepted _ maxDepth deque.items <;> rfl
  · simp only [removed, BoundedDeque.removeLast]
    cases hfound : BoundedDeque.lastAccepted (fun x ↦ matcher wanted (some x)) maxDepth
      deque.items <;> simpa [hfound] using hrep

/-- Every operation returns, with the reply of the deque, and keeps standing for the deque. -/
theorem queueStep_represents (h : Represents q deque.items) (op : QueueOp α ω) :
    ∃ q', queueStep q op = .ok ((dequeStep deque op).1, q') ∧
      Represents q' (dequeStep deque op).2.items := by
  cases op with
  | put x =>
    obtain ⟨q', hrun, hrep⟩ := putQueue_represents h x
    exact ⟨q', by rw [queueStep, hrun]; rfl, hrep⟩
  | get =>
    obtain ⟨q', hrun, hrep⟩ := getQueue_represents h
    exact ⟨q', by rw [queueStep, hrun]; rfl, hrep⟩
  | requeue x =>
    obtain ⟨q', hrun, hrep⟩ := requeue_represents h x
    exact ⟨q', by rw [queueStep, hrun]; rfl, hrep⟩
  | unqueue =>
    obtain ⟨q', hrun, hrep⟩ := unqueue_represents h
    exact ⟨q', by rw [queueStep, hrun]; rfl, hrep⟩
  | unqueueMatching maxDepth matcher wanted =>
    obtain ⟨q', hrun, hrep⟩ := unqueueMatching_represents h maxDepth matcher wanted
    exact ⟨q', by rw [queueStep, hrun]; rfl, hrep⟩

end Steps

/-! ### Runs -/

/-- The cells read by starting at the read index and taking `num_items` of them. -/
def window (q : QueueT α) : List (Option α) :=
  (List.range q.numItems).map fun p ↦ q.items (Fin.ofNat maxQueueSize (q.readIndex + p))

/-- What holds of the fields of a queue between two operations. -/
structure QueueInvariant (q : QueueT α) : Prop where
  count_le : q.numItems ≤ maxQueueSize
  write_eq : (q.writeIndex : ℕ) = (q.readIndex + q.numItems) % maxQueueSize
  occupied_iff : ∀ cell, (q.items cell).isSome ↔
    ∃ p < q.numItems, (cell : ℕ) = (q.readIndex + p) % maxQueueSize

theorem Represents.invariant {q : QueueT α} {xs : List α} (h : Represents q xs) :
    QueueInvariant q where
  count_le := by rw [h.count]; exact h.length_le
  write_eq := by rw [h.write, h.count, slot_val]
  occupied_iff := by
    intro cell
    rw [h.holds.isSome_iff, h.count]
    simp only [Fin.ext_iff, slot_val]

theorem Represents.window_eq {q : QueueT α} {xs : List α} (h : Represents q xs) :
    window q = xs.map some := by
  apply List.ext_getElem?
  intro p
  unfold window
  rw [List.getElem?_map, List.getElem?_map, h.count]
  by_cases hp : p < xs.length
  · have hread := h.holds.reads p (by have := h.length_le; omega)
    simp only [List.getElem?_range hp, Option.map_some]
    simp only [← slot.eq_def, hread, List.getElem?_eq_getElem hp, Option.map_some]
  · simp [List.getElem?_eq_none (Nat.le_of_not_lt hp)]
    omega

theorem windows_eq {queues : List (QueueT α)} {xss : List (List α)}
    (h : List.Forall₂ Represents queues xss) :
    queues.map window = xss.map (List.map some) := by
  induction h with
  | nil => rfl
  | cons hqueue _ ih => rw [List.map_cons, List.map_cons, hqueue.window_eq, ih]

/-- From `initQueue`, every finite sequence of operations returns, without a failed assertion, and
gives the replies of a bounded deque. The queue it ends in has the invariant, its window reads the
items of the deque, and when the deque is full neither `putQueue` nor `requeue` changes it. -/
theorem runQueue_refines_deque (ops : List (QueueOp α ω)) :
    let run := replay dequeStep (BoundedDeque.empty : BoundedDeque maxQueueSize α) ops
    ∃ q, runAll queueStep initQueue ops = .ok (run.1, q) ∧
      QueueInvariant q ∧
      window q = run.2.items.map some ∧
      (run.2.items.length = maxQueueSize → ∀ item,
        putQueue q (some item) = .ok (false, q) ∧ requeue q (some item) = .ok (false, q)) := by
  intro run
  obtain ⟨q, hrun, hrep⟩ := runAll_simulates (fun q deque ↦ Represents q deque.items)
    (fun q deque op h ↦ queueStep_represents h op) ops initQueue BoundedDeque.empty
    represents_init
  exact ⟨q, hrun, hrep.invariant, hrep.window_eq, fun hfull item ↦
    ⟨putQueue_of_full hrep hfull item, requeue_of_full hrep hfull item⟩⟩

end MultiUeProxy.Queue.DequeRefinement
