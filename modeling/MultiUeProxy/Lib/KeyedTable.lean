import Mathlib.Data.List.Nodup
import Mathlib.Tactic.SplitIfs

/-!
# Lists of entries with distinct keys

A C program keeps a small table as a linked list whose entries carry their own key, and looks an
entry up by walking the list. `KeyedList key` is such a list together with the proof that no two of
its entries have the same key. It is then a map: `lookup_eq_some` says that an entry is found under
its key exactly when it is in the list, and there is one rule for `lookup` after each operation.
-/

set_option autoImplicit false
set_option relaxedAutoImplicit false

namespace MultiUeProxy.Lib.KeyedTable

variable {κ ε : Type} {key : ε → κ}

/-- A list in which no two entries have the same key. -/
structure KeyedList (key : ε → κ) where
  entries : List ε
  distinct : (entries.map key).Nodup

namespace KeyedList

instance : Membership ε (KeyedList key) := ⟨fun table entry ↦ entry ∈ table.entries⟩

def empty : KeyedList key := ⟨[], List.nodup_nil⟩

theorem not_mem_empty {entry : ε} : entry ∉ (empty : KeyedList key) := List.not_mem_nil

/-- Keeps the entries that a test accepts. -/
def filter (table : KeyedList key) (p : ε → Bool) : KeyedList key where
  entries := table.entries.filter p
  distinct := table.distinct.sublist (List.Sublist.map key List.filter_sublist)

theorem mem_filter {table : KeyedList key} {entry : ε} {p : ε → Bool} :
    entry ∈ table.filter p ↔ entry ∈ table ∧ p entry = true :=
  List.mem_filter

variable [DecidableEq κ]

/-- The first entry under a key. -/
def lookup (table : KeyedList key) (k : κ) : Option ε :=
  table.entries.find? fun entry ↦ key entry = k

/-- An entry is found under its key exactly when it is in the list. -/
theorem lookup_eq_some {table : KeyedList key} {k : κ} {entry : ε} :
    table.lookup k = some entry ↔ entry ∈ table ∧ key entry = k := by
  constructor
  · intro h
    exact ⟨List.mem_of_find?_eq_some h, by simpa using List.find?_some h⟩
  · rintro ⟨hmem, rfl⟩
    show table.entries.find? (fun other ↦ key other = key entry) = some entry
    cases hfind : table.entries.find? fun other ↦ key other = key entry with
    | none =>
      have hne := List.find?_eq_none.mp hfind entry hmem
      simp at hne
    | some other =>
      have hkey : key other = key entry := by simpa using List.find?_some hfind
      have hinj := List.inj_on_of_nodup_map table.distinct
      rw [hinj (List.mem_of_find?_eq_some hfind) hmem hkey]

theorem lookup_eq_none {table : KeyedList key} {k : κ} :
    table.lookup k = none ↔ ∀ entry ∈ table, key entry ≠ k := by
  rw [lookup, List.find?_eq_none]
  simp only [decide_eq_true_eq]
  exact Iff.rfl

theorem lookup_empty (k : κ) : (empty : KeyedList key).lookup k = none := rfl

/-- Two lists with the same entries are the same map. -/
theorem lookup_congr {table other : KeyedList key} {k : κ}
    (h : ∀ entry, key entry = k → (entry ∈ table ↔ entry ∈ other)) :
    table.lookup k = other.lookup k := by
  apply Option.ext
  intro entry
  rw [lookup_eq_some, lookup_eq_some]
  constructor
  · rintro ⟨hmem, hkey⟩
    exact ⟨(h entry hkey).mp hmem, hkey⟩
  · rintro ⟨hmem, hkey⟩
    exact ⟨(h entry hkey).mpr hmem, hkey⟩

/-! ### Operations -/

/-- Puts a new entry in front. -/
def insert (table : KeyedList key) (entry : ε) (h : table.lookup (key entry) = none) :
    KeyedList key where
  entries := entry :: table.entries
  distinct := by
    rw [List.map_cons, List.nodup_cons]
    refine ⟨fun hmem ↦ ?_, table.distinct⟩
    obtain ⟨other, hother, hkey⟩ := List.mem_map.mp hmem
    exact lookup_eq_none.mp h other hother hkey

/-- Puts a changed entry where the entry under the same key is. -/
def replace (table : KeyedList key) (entry : ε) : KeyedList key where
  entries := table.entries.map fun other ↦ if key other = key entry then entry else other
  distinct := by
    have hkeys : (table.entries.map fun other ↦
        if key other = key entry then entry else other).map key = table.entries.map key := by
      rw [List.map_map]
      refine List.map_congr_left fun other _ ↦ ?_
      show key (if key other = key entry then entry else other) = key other
      by_cases hkey : key other = key entry
      · rw [if_pos hkey, hkey]
      · rw [if_neg hkey]
    rw [hkeys]
    exact table.distinct

/-- Removes the first entry under a key. -/
def erase (table : KeyedList key) (k : κ) : KeyedList key where
  entries := table.entries.eraseP fun entry ↦ key entry = k
  distinct := table.distinct.sublist (List.Sublist.map key List.eraseP_sublist)

variable {table : KeyedList key} {entry other : ε} {k : κ}

/-- After the replacement, the list has the new entry, if there was one to replace, and the old
entries under other keys. -/
theorem mem_replace (h : ∃ old ∈ table, key old = key entry) :
    other ∈ table.replace entry ↔ other = entry ∨ (other ∈ table ∧ key other ≠ key entry) := by
  obtain ⟨old, hold, hkey⟩ := h
  show other ∈ table.entries.map (fun other ↦ if key other = key entry then entry else other) ↔ _
  rw [List.mem_map]
  constructor
  · rintro ⟨source, hsource, rfl⟩
    by_cases hsame : key source = key entry
    · rw [if_pos hsame]
      exact Or.inl rfl
    · rw [if_neg hsame]
      exact Or.inr ⟨hsource, hsame⟩
  · rintro (rfl | ⟨hmem, hne⟩)
    · exact ⟨old, hold, if_pos hkey⟩
    · exact ⟨other, hmem, if_neg hne⟩

theorem lookup_insert {h : table.lookup (key entry) = none} :
    (table.insert entry h).lookup k = if key entry = k then some entry else table.lookup k := by
  show (entry :: table.entries).find? _ = _
  by_cases hkey : key entry = k
  · rw [List.find?_cons_of_pos (by simpa using hkey), if_pos hkey]
  · rw [List.find?_cons_of_neg (by simpa using hkey), if_neg hkey]
    rfl

theorem lookup_replace (h : ∃ old ∈ table, key old = key entry) :
    (table.replace entry).lookup k = if key entry = k then some entry else table.lookup k := by
  by_cases hkey : key entry = k
  · rw [if_pos hkey, lookup_eq_some, mem_replace h]
    exact ⟨Or.inl rfl, hkey⟩
  · rw [if_neg hkey]
    apply lookup_congr
    intro other hother
    rw [mem_replace h]
    constructor
    · rintro (rfl | ⟨hmem, -⟩)
      · exact absurd hother hkey
      · exact hmem
    · intro hmem
      refine Or.inr ⟨hmem, ?_⟩
      rw [hother]
      exact Ne.symm hkey

theorem mem_erase : entry ∈ table.erase k ↔ entry ∈ table ∧ key entry ≠ k := by
  show entry ∈ table.entries.eraseP (fun entry ↦ key entry = k) ↔ _
  constructor
  · intro hmem
    refine ⟨List.mem_of_mem_eraseP hmem, fun hkey ↦ ?_⟩
    -- a second entry under the key would be left over by the erasure of the first
    have hnodup := table.distinct
    obtain ⟨first, front, back, hfront, hfirst, hsplit, herased⟩ :=
      List.exists_of_eraseP (p := fun entry ↦ key entry = k) (List.mem_of_mem_eraseP hmem)
        (by simpa using hkey)
    rw [herased] at hmem
    rw [hsplit, List.map_append, List.map_cons, List.nodup_middle, List.nodup_cons,
      ← List.map_append] at hnodup
    refine hnodup.1 (List.mem_map.mpr ⟨entry, hmem, ?_⟩)
    rw [hkey, show key first = k by simpa using hfirst]
  · rintro ⟨hmem, hkey⟩
    exact (List.mem_eraseP_of_neg (by simpa using hkey)).mpr hmem

theorem lookup_filter {p : ε → Bool} :
    (table.filter p).lookup k = (table.lookup k).filter p := by
  apply Option.ext
  intro entry
  rw [lookup_eq_some, mem_filter, Option.filter_eq_some_iff, lookup_eq_some]
  constructor
  · rintro ⟨⟨hmem, hp⟩, hkey⟩
    exact ⟨⟨hmem, hkey⟩, hp⟩
  · rintro ⟨⟨hmem, hkey⟩, hp⟩
    exact ⟨⟨hmem, hp⟩, hkey⟩

end KeyedList

end MultiUeProxy.Lib.KeyedTable
