import Mathlib.Data.List.Nodup
import Mathlib.Data.Nat.Notation
import MultiUeProxy.Lib.Execution

/-!
# Singly linked lists

A list in a heap of cells, each with an item and the address of the next cell. `Segment` says that
the links lead from one pointer through some cells to another, and `Linked` that they lead from the
head through cells with different addresses to the null pointer.

`removeIf` is the loop that goes through a list with an iterator and the cell before it, unlinks the
cells whose item a test asks for, and frees them. On a list it ends without a fault, and leaves the
list of the other cells in their order (`removeIf_linked`).
-/

set_option autoImplicit false
set_option relaxedAutoImplicit false

namespace MultiUeProxy.Lib.LinkedList

open Execution

variable {α : Type}

/-- A cell of a list. -/
structure Cell (α : Type) where
  item : α
  next : Option ℕ

/-- The cells that are allocated, by their addresses. -/
abbrev Heap (α : Type) : Type := ℕ → Option (Cell α)

/-! ### Links -/

/-- From `start`, the links lead through these cells to `finish`. -/
def Segment (heap : Heap α) : Option ℕ → List (ℕ × α) → Option ℕ → Prop
  | start, [], finish => start = finish
  | start, (address, item) :: cells, finish =>
    start = some address ∧ ∃ next, heap address = some ⟨item, next⟩ ∧ Segment heap next cells finish

/-- A list of cells with different addresses. -/
structure Linked (heap : Heap α) (head : Option ℕ) (cells : List (ℕ × α)) : Prop where
  segment : Segment heap head cells none
  nodup : (cells.map Prod.fst).Nodup

section Segments

variable {heap heap' : Heap α} {start finish : Option ℕ} {cells cells' front back : List (ℕ × α)}
  {address : ℕ} {item : α}

theorem segment_singleton : Segment heap start [(address, item)] finish ↔
    start = some address ∧ heap address = some ⟨item, finish⟩ := by
  constructor
  · rintro ⟨hstart, next, hcell, rfl⟩
    exact ⟨hstart, hcell⟩
  · rintro ⟨hstart, hcell⟩
    exact ⟨hstart, finish, hcell, rfl⟩

theorem segment_append : Segment heap start (front ++ back) finish ↔
    ∃ middle, Segment heap start front middle ∧ Segment heap middle back finish := by
  induction front generalizing start with
  | nil =>
    constructor
    · intro h
      exact ⟨start, rfl, h⟩
    · rintro ⟨middle, rfl, h⟩
      exact h
  | cons cell front ih =>
    constructor
    · rintro ⟨hstart, next, hcell, hrest⟩
      obtain ⟨middle, hfront, hback⟩ := ih.mp hrest
      exact ⟨middle, ⟨hstart, next, hcell, hfront⟩, hback⟩
    · rintro ⟨middle, ⟨hstart, next, hcell, hfront⟩, hback⟩
      exact ⟨hstart, next, hcell, ih.mpr ⟨middle, hfront, hback⟩⟩

/-- Only the cells of a segment matter. -/
theorem segment_congr (h : ∀ cell ∈ cells, heap' cell.1 = heap cell.1)
    (hsegment : Segment heap start cells finish) : Segment heap' start cells finish := by
  induction cells generalizing start with
  | nil => exact hsegment
  | cons cell cells ih =>
    obtain ⟨hstart, next, hcell, hrest⟩ := hsegment
    have hsame := (h cell List.mem_cons_self).trans hcell
    exact ⟨hstart, next, hsame, ih (fun other hother ↦ h other (List.mem_cons_of_mem _ hother)) hrest⟩

/-- The links from one pointer to the null pointer are one list. -/
theorem segment_unique (h : Segment heap start cells none) (h' : Segment heap start cells' none) :
    cells = cells' := by
  induction cells generalizing start cells' with
  | nil =>
    cases cells' with
    | nil => rfl
    | cons cell' cells' =>
      obtain ⟨hstart, -⟩ := h'
      exact nomatch h.symm.trans hstart
  | cons cell cells ih =>
    obtain ⟨hstart, next, hcell, hrest⟩ := h
    cases cells' with
    | nil => exact nomatch hstart.symm.trans h'
    | cons cell' cells' =>
      obtain ⟨hstart', next', hcell', hrest'⟩ := h'
      have haddress : cell.1 = cell'.1 := Option.some.inj (hstart.symm.trans hstart')
      rw [← haddress, hcell] at hcell'
      obtain ⟨hitem, rfl⟩ := Cell.mk.inj (Option.some.inj hcell')
      rw [ih hrest hrest', Prod.ext haddress hitem]

theorem Linked.unique {head : Option ℕ} (h : Linked heap head cells)
    (h' : Linked heap head cells') : cells = cells' :=
  segment_unique h.segment h'.segment

end Segments

/-! ### The loop -/

/-- The variables of a loop through a list: `previous` is the cell in front of the iterator, or null
at the head. -/
structure Traversal (α : Type) where
  heap : Heap α
  head : Option ℕ
  previous : Option ℕ
  iterator : Option ℕ
  freed : List α

/-- The link to the cell at the iterator is made one to the cell behind it. -/
def Traversal.unlink (t : Traversal α) (next : Option ℕ) : Outcome (Heap α × Option ℕ) :=
  match t.previous with
  | none => .ok (t.heap, next)
  | some previous =>
    match t.heap previous with
    | some cell => .ok (Function.update t.heap previous (some { cell with next }), t.head)
    | none => .error .fault

/-- One iteration, at the cell with this address. -/
def Traversal.visit (drop : α → Bool) (t : Traversal α) (address : ℕ) : Outcome (Traversal α) :=
  match t.heap address with
  | none => .error .fault
  | some cell =>
    if drop cell.item then do
      let (heap, head) ← t.unlink cell.next
      return { t with
        heap := Function.update heap address none
        head
        iterator := cell.next
        freed := t.freed ++ [cell.item] }
    else .ok { t with previous := some address, iterator := cell.next }

/-- The loop, up to a number of iterations. -/
def removeLoop (drop : α → Bool) : ℕ → Traversal α → Outcome (Traversal α)
  | 0, _ => .error .diverge
  | bound + 1, t =>
    match t.iterator with
    | none => .ok t
    | some address => do
      let t ← t.visit drop address
      removeLoop drop bound t

/-- The loop from the head on. -/
def removeIf (drop : α → Bool) (bound : ℕ) (heap : Heap α) (head : Option ℕ) :
    Outcome (Traversal α) :=
  removeLoop drop bound
    { heap, head, previous := none, iterator := head, freed := [] }

/-- The iterator is behind the cells that were kept and in front of those not visited yet. -/
structure Midway (t : Traversal α) (front back : List (ℕ × α)) : Prop where
  front_segment : Segment t.heap t.head front t.iterator
  back_segment : Segment t.heap t.iterator back none
  previous_eq : t.previous = front.getLast?.map Prod.fst
  nodup : ((front ++ back).map Prod.fst).Nodup

section Loop

variable {t : Traversal α} {front back : List (ℕ × α)} {address : ℕ} {item : α} {drop : α → Bool}

theorem Midway.not_mem_front (h : Midway t front ((address, item) :: back)) :
    address ∉ front.map Prod.fst := by
  have hnodup := h.nodup
  rw [List.map_append] at hnodup
  intro hmem
  exact List.disjoint_of_nodup_append hnodup hmem List.mem_cons_self

theorem Midway.not_mem_back (h : Midway t front ((address, item) :: back)) :
    address ∉ back.map Prod.fst := by
  have hnodup := h.nodup
  rw [List.map_append] at hnodup
  exact (List.nodup_cons.mp (List.Nodup.of_append_right hnodup)).1

/-- Without one cell, the addresses are still different. -/
theorem Midway.nodup_without (h : Midway t front ((address, item) :: back)) :
    ((front ++ back).map Prod.fst).Nodup :=
  h.nodup.sublist (((List.sublist_cons_self _ _).append_left front).map Prod.fst)

/-- A cell that is not the one removed keeps its place in the heap. -/
theorem ne_of_mem_front (h : address ∉ front.map Prod.fst) {cell : ℕ × α} (hcell : cell ∈ front) :
    cell.1 ≠ address := fun heq ↦ h (heq ▸ List.mem_map_of_mem hcell)

/-- Unlinking a cell: the links now lead around it, and nothing but the cell in front of it has
changed. -/
theorem Midway.unlink (h : Midway t front ((address, item) :: back)) (next : Option ℕ) :
    ∃ heap head, t.unlink next = .ok (heap, head) ∧
      Segment (Function.update heap address none) head front next ∧
      ∀ other, other ∉ front.map Prod.fst → heap other = t.heap other := by
  have hfront := h.not_mem_front
  rcases List.eq_nil_or_concat front with rfl | ⟨front, ⟨previous, before⟩, rfl⟩
  · refine ⟨t.heap, next, ?_, rfl, fun _ _ ↦ rfl⟩
    unfold Traversal.unlink
    rw [h.previous_eq]
    rfl
  · rw [List.concat_eq_append] at h hfront ⊢
    obtain ⟨middle, hsegment, hlast⟩ := segment_append.mp h.front_segment
    obtain ⟨rfl, hprevious⟩ := segment_singleton.mp hlast
    have hdistinct : previous ∉ front.map Prod.fst := by
      have hnodup := h.nodup
      rw [List.append_assoc, List.map_append] at hnodup
      intro hmem
      exact List.disjoint_of_nodup_append hnodup hmem List.mem_cons_self
    rw [List.map_append, List.mem_append, not_or] at hfront
    have hne : previous ≠ address := fun heq ↦ hfront.2 (heq ▸ List.mem_singleton_self previous)
    refine ⟨Function.update t.heap previous (some ⟨before, next⟩), t.head, ?_, ?_, ?_⟩
    · unfold Traversal.unlink
      rw [h.previous_eq, List.getLast?_concat]
      dsimp only [Option.map_some]
      rw [hprevious]
    · refine segment_append.mpr ⟨some previous, ?_, segment_singleton.mpr ⟨rfl, ?_⟩⟩
      · apply segment_congr _ hsegment
        intro cell hmem
        rw [Function.update_of_ne (ne_of_mem_front hfront.1 hmem),
          Function.update_of_ne (ne_of_mem_front hdistinct hmem)]
      · rw [Function.update_of_ne hne, Function.update_self]
    · intro other hother
      apply Function.update_of_ne
      rintro rfl
      apply hother
      rw [List.map_append, List.mem_append]
      exact .inr (List.mem_singleton_self other)

/-- An iteration at a cell that is kept. -/
theorem Midway.visit_keep (h : Midway t front ((address, item) :: back)) (hkeep : drop item = false) :
    ∃ t', t.visit drop address = .ok t' ∧ Midway t' (front ++ [(address, item)]) back ∧
      t'.freed = t.freed ∧ t'.heap = t.heap := by
  obtain ⟨hiterator, next, hcell, hrest⟩ := h.back_segment
  refine ⟨{ t with previous := some address, iterator := next }, ?_, ?_, rfl, rfl⟩
  · unfold Traversal.visit
    rw [hcell]
    dsimp only
    rw [hkeep]
    rfl
  · constructor
    · exact segment_append.mpr
        ⟨t.iterator, h.front_segment, segment_singleton.mpr ⟨hiterator, hcell⟩⟩
    · exact hrest
    · rw [List.getLast?_concat]
      rfl
    · rw [List.append_assoc]
      exact h.nodup

/-- An iteration at a cell that is removed. -/
theorem Midway.visit_drop (h : Midway t front ((address, item) :: back)) (hdrop : drop item = true) :
    ∃ t', t.visit drop address = .ok t' ∧ Midway t' front back ∧ t'.freed = t.freed ++ [item] ∧
      t'.heap address = none ∧
      ∀ other, other ∉ front.map Prod.fst → other ≠ address → t'.heap other = t.heap other := by
  obtain ⟨hiterator, next, hcell, hrest⟩ := h.back_segment
  obtain ⟨heap, head, hunlink, hsegment, hframe⟩ := h.unlink next
  refine ⟨⟨Function.update heap address none, head, t.previous, next, t.freed ++ [item]⟩, ?_, ?_,
    rfl, Function.update_self _ _ _, ?_⟩
  · unfold Traversal.visit
    rw [hcell]
    dsimp only
    rw [hdrop, hunlink]
    rfl
  · refine ⟨hsegment, ?_, h.previous_eq, h.nodup_without⟩
    apply segment_congr _ hrest
    intro cell hmem
    have hnot : cell.1 ∉ front.map Prod.fst := by
      have hnodup := h.nodup_without
      rw [List.map_append] at hnodup
      exact fun hfront ↦
        List.disjoint_of_nodup_append hnodup hfront (List.mem_map_of_mem hmem)
    show Function.update heap address none cell.1 = _
    rw [Function.update_of_ne (ne_of_mem_front h.not_mem_back hmem), hframe _ hnot]
  · intro other hother hne
    show Function.update heap address none other = _
    rw [Function.update_of_ne hne, hframe other hother]

/-- What the loop leaves behind. -/
structure Removed (drop : α → Bool) (t t' : Traversal α) (front back : List (ℕ × α)) : Prop where
  linked : Linked t'.heap t'.head (front ++ back.filter fun cell ↦ !drop cell.2)
  freed_eq : t'.freed = t.freed ++ (back.filter fun cell ↦ drop cell.2).map Prod.snd
  heap_none : ∀ cell ∈ back, drop cell.2 = true → t'.heap cell.1 = none
  heap_eq : ∀ address, address ∉ (front ++ back).map Prod.fst → t'.heap address = t.heap address

/-- What the loop leaves behind when it has kept the cell before. -/
theorem Removed.cons_keep {t' last : Traversal α}
    (h : Removed drop t' last (front ++ [(address, item)]) back)
    (hkeep : drop item = false) (hfreed : t'.freed = t.freed) (hheap : t'.heap = t.heap) :
    Removed drop t last front ((address, item) :: back) := by
  have hkept : ((address, item) :: back).filter (fun cell ↦ !drop cell.2) =
      (address, item) :: back.filter fun cell ↦ !drop cell.2 :=
    List.filter_cons_of_pos (by rw [hkeep]; rfl)
  have hnot : ((address, item) :: back).filter (fun cell ↦ drop cell.2) =
      back.filter fun cell ↦ drop cell.2 :=
    List.filter_cons_of_neg (by rw [hkeep]; exact Bool.false_ne_true)
  have hassoc := List.append_assoc front [(address, item)]
  constructor
  · rw [hkept]
    have hlinked := h.linked
    rwa [hassoc] at hlinked
  · rw [hnot, ← hfreed]
    exact h.freed_eq
  · intro cell hmem hcell
    rcases List.mem_cons.mp hmem with rfl | hback
    · rw [hkeep] at hcell
      cases hcell
    · exact h.heap_none cell hback hcell
  · intro other hother
    rw [← hheap]
    apply h.heap_eq
    rwa [hassoc]

/-- What the loop leaves behind when it has removed the cell before. -/
theorem Removed.cons_drop {t' last : Traversal α} (h : Removed drop t' last front back)
    (hdrop : drop item = true) (hfreed : t'.freed = t.freed ++ [item])
    (hnone : t'.heap address = none)
    (hframe : ∀ other, other ∉ front.map Prod.fst → other ≠ address →
      t'.heap other = t.heap other)
    (hfront : address ∉ front.map Prod.fst) (hback : address ∉ back.map Prod.fst) :
    Removed drop t last front ((address, item) :: back) := by
  have hkept : ((address, item) :: back).filter (fun cell ↦ !drop cell.2) =
      back.filter fun cell ↦ !drop cell.2 :=
    List.filter_cons_of_neg (by rw [hdrop]; exact Bool.false_ne_true)
  have hdropped : ((address, item) :: back).filter (fun cell ↦ drop cell.2) =
      (address, item) :: back.filter fun cell ↦ drop cell.2 :=
    List.filter_cons_of_pos hdrop
  constructor
  · rw [hkept]
    exact h.linked
  · rw [hdropped, h.freed_eq, hfreed, List.append_assoc]
    rfl
  · intro cell hmem hcell
    rcases List.mem_cons.mp hmem with rfl | hmem
    · have hnot : address ∉ (front ++ back).map Prod.fst := by
        rw [List.map_append, List.mem_append, not_or]
        exact ⟨hfront, hback⟩
      exact (h.heap_eq address hnot).trans hnone
    · exact h.heap_none cell hmem hcell
  · intro other hother
    rw [List.map_append, List.map_cons, List.mem_append, List.mem_cons, not_or, not_or] at hother
    obtain ⟨hotherFront, hne, hotherBack⟩ := hother
    rw [h.heap_eq other, hframe other hotherFront hne]
    rw [List.map_append, List.mem_append, not_or]
    exact ⟨hotherFront, hotherBack⟩

/-- The loop from any place in the list on, by induction on the cells that are not visited yet. -/
theorem Midway.run (h : Midway t front back) {bound : ℕ} (hbound : back.length < bound) :
    ∃ t', removeLoop drop bound t = .ok t' ∧ Removed drop t t' front back := by
  induction back generalizing t front bound with
  | nil =>
    obtain ⟨bound, rfl⟩ := Nat.exists_eq_succ_of_ne_zero (Nat.ne_of_gt hbound)
    have hiterator : t.iterator = none := h.back_segment
    refine ⟨t, ?_, ?_⟩
    · unfold removeLoop
      rw [hiterator]
    · have hfront := h.front_segment
      have hnodup := h.nodup
      rw [hiterator] at hfront
      rw [List.append_nil] at hnodup
      refine ⟨⟨?_, ?_⟩, (List.append_nil _).symm, fun _ hmem ↦ absurd hmem List.not_mem_nil,
        fun _ _ ↦ rfl⟩
      · rwa [List.filter_nil, List.append_nil]
      · rwa [List.filter_nil, List.append_nil]
  | cons cell back ih =>
    obtain ⟨address, item⟩ := cell
    obtain ⟨bound, rfl⟩ := Nat.exists_eq_succ_of_ne_zero (Nat.ne_of_gt (Nat.zero_lt_of_lt hbound))
    have hrest : back.length < bound := Nat.lt_of_succ_lt_succ hbound
    have hiterator : t.iterator = some address := h.back_segment.1
    cases hdrop : drop item with
    | false =>
      obtain ⟨t', hvisit, hmidway, hfreed, hheap⟩ := h.visit_keep hdrop
      obtain ⟨last, hrun, hremoved⟩ := ih hmidway hrest
      refine ⟨last, ?_, hremoved.cons_keep hdrop hfreed hheap⟩
      unfold removeLoop
      rw [hiterator]
      dsimp only
      rw [hvisit]
      exact hrun
    | true =>
      obtain ⟨t', hvisit, hmidway, hfreed, hnone, hframe⟩ := h.visit_drop hdrop
      obtain ⟨last, hrun, hremoved⟩ := ih hmidway hrest
      refine ⟨last, ?_, hremoved.cons_drop hdrop hfreed hnone hframe h.not_mem_front
        h.not_mem_back⟩
      unfold removeLoop
      rw [hiterator]
      dsimp only
      rw [hvisit]
      exact hrun

end Loop

/-- The loop ends, frees the cells that the test asks for, and leaves the list of the others. -/
theorem removeIf_linked {heap : Heap α} {head : Option ℕ} {cells : List (ℕ × α)} (drop : α → Bool)
    (h : Linked heap head cells) {bound : ℕ} (hbound : cells.length < bound) :
    ∃ t', removeIf drop bound heap head = .ok t' ∧
      Linked t'.heap t'.head (cells.filter fun cell ↦ !drop cell.2) ∧
      t'.freed = (cells.filter fun cell ↦ drop cell.2).map Prod.snd ∧
      (∀ cell ∈ cells, drop cell.2 = true → t'.heap cell.1 = none) ∧
      ∀ address, address ∉ cells.map Prod.fst → t'.heap address = heap address := by
  have hstart : Midway { heap, head, previous := none, iterator := head, freed := [] } [] cells :=
    ⟨rfl, h.segment, rfl, h.nodup⟩
  obtain ⟨t', hrun, hremoved⟩ := hstart.run hbound
  exact ⟨t', hrun, hremoved.linked, hremoved.freed_eq, hremoved.heap_none, hremoved.heap_eq⟩

end MultiUeProxy.Lib.LinkedList
