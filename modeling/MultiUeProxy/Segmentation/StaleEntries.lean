import MultiUeProxy.Clock.ElapsedTime
import MultiUeProxy.Lib.LinkedList
import MultiUeProxy.Segmentation.Reassembly

/-!
# Removing stale entries

`pnf_p7_rx_reassembly_queue_remove_old_msgs` goes through the linked list of the reassembly queue and
frees the entries that are too old. The links are in order after that whatever is removed: the list
is that of the entries kept (`removeOldMsgs_refines`).

The age is a difference of words with seconds and microseconds, in which a second counts as 1048576
microseconds. An entry seems older than it is by 48576 microseconds for each second that has begun
since it arrived, and as young again after 4096 seconds (`apparentAge`). `removesExactly_iff` says
that the function removes the entries that are too old, and no others, exactly when this makes no
difference to any entry.
-/

set_option autoImplicit false
set_option relaxedAutoImplicit false

namespace MultiUeProxy.Segmentation.StaleEntries

open Lib.Execution Lib.LinkedList Clock.ElapsedTime Reassembly

/-- `pnf_p7_rx_reassembly_queue_remove_old_msgs`, up to a number of iterations. Freeing an entry frees
the buffers of its segments. -/
def removeOldMsgsLoop (bound : ℕ) (heap : Heap RxMessage) (head : Option ℕ)
    (rxHrTime delta : UInt32) : Outcome (Traversal RxMessage) :=
  removeIf (fun msg ↦ decide (Stale rxHrTime delta msg)) bound heap head

section Queue

variable {heap : Heap RxMessage} {head : Option ℕ}

/-- The loop leaves the entries of the queue that `removeOldMsgs` leaves. -/
theorem removeOldMsgs_refines {cells : List (ℕ × RxMessage)} {queue : ReassemblyQueue}
    (hlinked : Linked heap head cells) (hqueue : cells.map Prod.snd = queue.entries)
    (rxHrTime delta : UInt32) :
    ∃ t' cells', removeOldMsgsLoop (cells.length + 1) heap head rxHrTime delta = .ok t' ∧
      Linked t'.heap t'.head cells' ∧
      cells'.map Prod.snd = (removeOldMsgs queue rxHrTime delta).entries := by
  obtain ⟨t', hrun, hlinked', -⟩ := removeIf_linked
    (fun msg ↦ decide (Stale rxHrTime delta msg)) hlinked (Nat.lt_succ_self cells.length)
  refine ⟨t', _, hrun, hlinked', ?_⟩
  show _ = queue.entries.filter fun msg ↦ !decide (Stale rxHrTime delta msg)
  rw [← hqueue, List.filter_map]
  rfl

end Queue

/-! ### Ages -/

/-- The age of an entry as the words have it. -/
def apparentAge (arrival now : Timeval) : ℤ :=
  ((now.micros - arrival.micros : ℤ) + 48576 * (now.tvSec - arrival.tvSec)) % 4294967296

/-- The difference of two words. -/
theorem timeHr_sub_toNat (arrival now : Timeval) :
    ((timeHr now - timeHr arrival).toNat : ℤ) = apparentAge arrival now := by
  have harrival := arrival.tvUsec_lt
  have hnow := now.tvUsec_lt
  unfold apparentAge Timeval.micros
  rw [UInt32.toNat_sub, timeHr_toNat, timeHr_toNat]
  omega

/-- In the second in which an entry arrived, its age is right. -/
theorem apparentAge_of_same {arrival now : Timeval} (hsec : now.tvSec = arrival.tvSec)
    (hle : arrival.tvUsec ≤ now.tvUsec) :
    apparentAge arrival now = now.micros - arrival.micros := by
  have hnow := now.tvUsec_lt
  unfold apparentAge Timeval.micros
  rw [hsec]
  omega

/-- An entry of the queue, with the time of day at which its first segment arrived. -/
structure Entry where
  address : ℕ
  message : RxMessage
  arrival : Timeval
  stamp : message.rxHrTime = timeHr arrival

/-- The entry in the list. -/
def Entry.cell (entry : Entry) : ℕ × RxMessage := (entry.address, entry.message)

/-- An entry that arrived more than `delta` microseconds ago. -/
def Entry.Older (now : Timeval) (delta : UInt32) (entry : Entry) : Prop :=
  entry.arrival.micros + delta.toNat < now.micros

instance (now : Timeval) (delta : UInt32) (entry : Entry) : Decidable (entry.Older now delta) :=
  inferInstanceAs (Decidable (entry.arrival.micros + delta.toNat < now.micros))

theorem Entry.stale_iff (entry : Entry) (now : Timeval) (delta : UInt32) :
    Stale (timeHr now) delta entry.message ↔ (delta.toNat : ℤ) < apparentAge entry.arrival now := by
  unfold Stale
  rw [entry.stamp, gt_iff_lt, UInt32.lt_iff_toNat_lt, ← timeHr_sub_toNat, Int.ofNat_lt]

/-! ### The entries removed -/

section Entries

variable {heap : Heap RxMessage} {head : Option ℕ} {entries : List Entry} {now : Timeval}
  {delta : UInt32}

/-- The entries that are too old are freed, and the list is that of the others. -/
def RemovesExactly (heap : Heap RxMessage) (head : Option ℕ) (entries : List Entry) (now : Timeval)
    (delta : UInt32) : Prop :=
  ∃ t', removeOldMsgsLoop (entries.length + 1) heap head (timeHr now) delta = .ok t' ∧
    Linked t'.heap t'.head
      ((entries.filter fun entry ↦ !decide (entry.Older now delta)).map Entry.cell) ∧
    t'.freed = (entries.filter fun entry ↦ decide (entry.Older now delta)).map Entry.message ∧
    ∀ entry ∈ entries, entry.Older now delta → t'.heap entry.address = none

/-- The age of an entry is on the right side of `delta`. -/
def AgeRight (now : Timeval) (delta : UInt32) (entry : Entry) : Prop :=
  (delta.toNat : ℤ) < apparentAge entry.arrival now ↔ entry.Older now delta

/-- What the loop leaves of the entries and what it frees. -/
theorem removeOldMsgsLoop_entries (hqueue : Linked heap head (entries.map Entry.cell)) :
    ∃ t', removeOldMsgsLoop (entries.length + 1) heap head (timeHr now) delta = .ok t' ∧
      Linked t'.heap t'.head ((entries.filter fun entry ↦
        !decide (Stale (timeHr now) delta entry.message)).map Entry.cell) ∧
      t'.freed = (entries.filter fun entry ↦
        decide (Stale (timeHr now) delta entry.message)).map Entry.message ∧
      ∀ entry ∈ entries, Stale (timeHr now) delta entry.message → t'.heap entry.address = none := by
  have hbound : (entries.map Entry.cell).length < entries.length + 1 := by
    rw [List.length_map]
    exact Nat.lt_succ_self _
  obtain ⟨t', hrun, hlinked, hfreed, hnone, -⟩ := removeIf_linked
    (fun msg ↦ decide (Stale (timeHr now) delta msg)) hqueue hbound
  refine ⟨t', hrun, ?_, ?_, ?_⟩
  · rw [List.filter_map] at hlinked
    exact hlinked
  · rw [List.filter_map, List.map_map] at hfreed
    exact hfreed
  · intro entry hentry hstale
    exact hnone entry.cell (List.mem_map_of_mem hentry) (decide_eq_true hstale)

/-- Entries at different addresses are different cells. -/
theorem mem_cells_iff (hqueue : Linked heap head (entries.map Entry.cell)) {entry : Entry}
    (hentry : entry ∈ entries) (keep : Entry → Bool) :
    entry.cell ∈ (entries.filter keep).map Entry.cell ↔ keep entry = true := by
  have hnodup : (entries.map Entry.address).Nodup := by
    have haddresses := hqueue.nodup
    rw [List.map_map] at haddresses
    exact haddresses
  constructor
  · intro hmem
    obtain ⟨other, hother, hcell⟩ := List.mem_map.mp hmem
    rw [List.mem_filter] at hother
    have hsame := List.inj_on_of_nodup_map hnodup hother.1 hentry (congrArg Prod.fst hcell)
    rw [← hsame]
    exact hother.2
  · intro hkeep
    exact List.mem_map_of_mem (List.mem_filter.mpr ⟨hentry, hkeep⟩)

/-- The function removes the entries that are too old, and no others, exactly when the ages of all
entries are on the right side of `delta`. -/
theorem removesExactly_iff (hqueue : Linked heap head (entries.map Entry.cell)) (now : Timeval)
    (delta : UInt32) :
    RemovesExactly heap head entries now delta ↔ ∀ entry ∈ entries, AgeRight now delta entry := by
  obtain ⟨t', hrun, hlinked, hfreed, hnone⟩ := @removeOldMsgsLoop_entries heap head entries now delta
    hqueue
  constructor
  · rintro ⟨t'', hrun', hlinked', -⟩ entry hentry
    rw [hrun] at hrun'
    cases hrun'
    have hkept := mem_cells_iff hqueue hentry fun entry ↦
      !decide (Stale (timeHr now) delta entry.message)
    rw [hlinked.unique hlinked', mem_cells_iff hqueue hentry, Bool.not_eq_true', Bool.not_eq_true',
      decide_eq_false_iff_not, decide_eq_false_iff_not, entry.stale_iff] at hkept
    exact (not_iff_not.mp hkept).symm
  · intro hright
    have hstale : ∀ entry ∈ entries, Stale (timeHr now) delta entry.message ↔
        entry.Older now delta :=
      fun entry hentry ↦ (entry.stale_iff now delta).trans (hright entry hentry)
    have hkept : (entries.filter fun entry ↦ !decide (Stale (timeHr now) delta entry.message)) =
        entries.filter fun entry ↦ !decide (entry.Older now delta) := by
      apply List.filter_congr
      intro entry hentry
      rw [decide_eq_decide.mpr (hstale entry hentry)]
    have hremoved : (entries.filter fun entry ↦ decide (Stale (timeHr now) delta entry.message)) =
        entries.filter fun entry ↦ decide (entry.Older now delta) := by
      apply List.filter_congr
      intro entry hentry
      exact decide_eq_decide.mpr (hstale entry hentry)
    rw [hkept] at hlinked
    rw [hremoved] at hfreed
    exact ⟨t', hrun, hlinked, hfreed, fun entry hentry holder ↦
      hnone entry hentry ((hstale entry hentry).mpr holder)⟩

end Entries

/-- The only entry of a queue, at address 1. -/
def onlyEntry (arrival : Timeval) : Entry where
  address := 1
  message := .ofSegment (timeHr arrival) 0 0 1 []
  arrival
  stamp := rfl

/-- The heap with this entry. -/
def onlyEntryHeap (arrival : Timeval) : Heap RxMessage := fun address ↦
  if address = 1 then some ⟨(onlyEntry arrival).message, none⟩ else none

theorem linked_onlyEntry (arrival : Timeval) :
    Linked (onlyEntryHeap arrival) (some 1) ([onlyEntry arrival].map Entry.cell) :=
  ⟨⟨rfl, none, rfl, rfl⟩, List.nodup_singleton _⟩

/-- An entry that is 400 microseconds old, in the second in which it arrived. -/
theorem removesExactly_same_second :
    RemovesExactly (onlyEntryHeap ⟨5, 100, by decide⟩) (some 1) [onlyEntry ⟨5, 100, by decide⟩]
      ⟨5, 500, by decide⟩ 1000 := by
  apply (removesExactly_iff (linked_onlyEntry _) _ _).mpr
  intro entry hentry
  rw [List.mem_singleton.mp hentry]
  unfold AgeRight
  decide

/-- An entry that is 400 microseconds old is removed, if a second has begun since it arrived. -/
theorem young_entry_removed :
    ¬ ∀ (heap : Heap RxMessage) (head : Option ℕ) (entries : List Entry) (now : Timeval)
      (delta : UInt32), Linked heap head (entries.map Entry.cell) →
        RemovesExactly heap head entries now delta := by
  intro hall
  obtain ⟨t', hrun, -, hfreed, -⟩ := hall _ _ _ ⟨6, 300, by decide⟩ 1000
    (linked_onlyEntry ⟨5, 999900, by decide⟩)
  have hremoved : removeOldMsgsLoop 2 (onlyEntryHeap ⟨5, 999900, by decide⟩) (some 1)
      (timeHr ⟨6, 300, by decide⟩) 1000 =
        .ok ⟨Function.update (onlyEntryHeap ⟨5, 999900, by decide⟩) 1 none, none, none, none,
          [(onlyEntry ⟨5, 999900, by decide⟩).message]⟩ := rfl
  have hsame := Except.ok.inj (hrun.symm.trans hremoved)
  rw [hsame] at hfreed
  cases hfreed

end MultiUeProxy.Segmentation.StaleEntries
