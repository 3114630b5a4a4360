import Mathlib.Logic.Function.Basic
import Mathlib.Tactic.SplitIfs
import MultiUeProxy.Lib.Execution
import MultiUeProxy.Lib.Ledger

/-!
# Buffers of tagged cells

A buffer whose cells stand for times: a cell has a tag, the time that it was last used for, and at
most one request of every kind. Requests are filled into a cell, freed from it, and a cell is
cleared as a whole. Two things are known of such buffers.

A buffer is coherent if every request in a cell belongs to the time in its tag. Filling a request
into a coherent cell keeps it coherent exactly when the other requests in it belong to the same time
(`Cell.coherent_fill_iff`).

The operations leave notes of what happens to the requests. The books of a place, a cell and a kind,
are balanced by every operation (`Books`), and every request stored is freed or still in its place
exactly when no cell is cleared with a request in it (`Books.kept_iff`).
-/

set_option autoImplicit false
set_option relaxedAutoImplicit false

namespace MultiUeProxy.Lib.CellBuffer

open Execution Ledger

/-- A cell of the buffer. -/
structure Cell (κ τ α : Type) where
  tag : τ
  content : κ → Option α

/-- The cells by their index. -/
abbrev Buffer (ι κ τ α : Type) := ι → Cell κ τ α

/-- What happens to the requests, and what else there is to tell. -/
inductive Note (ι κ α ε : Type) where
  | stored (i : ι) (k : κ) (a : α)
  | freed (i : ι) (k : κ) (a : α)
  | cleared (i : ι) (content : κ → Option α)
  | told (x : ε)

section Operations

variable {ι κ τ α ε : Type} [DecidableEq ι] [DecidableEq κ]

def Cell.fill (cell : Cell κ τ α) (k : κ) (tag : τ) (a : α) : Cell κ τ α :=
  ⟨tag, Function.update cell.content k (some a)⟩

def Cell.free (cell : Cell κ τ α) (k : κ) : Cell κ τ α :=
  { cell with content := Function.update cell.content k none }

namespace Buffer

/-- A request is stored in a place, and the cell is given a tag. -/
def fill (buffer : Buffer ι κ τ α) (i : ι) (k : κ) (tag : τ) (a : α) :
    List (Note ι κ α ε) × Buffer ι κ τ α :=
  ([.stored i k a], Function.update buffer i ((buffer i).fill k tag a))

/-- The request in a place is freed, if there is one. -/
def free (buffer : Buffer ι κ τ α) (i : ι) (k : κ) : List (Note ι κ α ε) × Buffer ι κ τ α :=
  (((buffer i).content k).toList.map (.freed i k), Function.update buffer i ((buffer i).free k))

/-- The requests of some kinds in a cell are freed. -/
def freeAll (buffer : Buffer ι κ τ α) (i : ι) : List κ → List (Note ι κ α ε) × Buffer ι κ τ α
  | [] => ([], buffer)
  | k :: rest =>
    let (freed, buffer) := buffer.free i k
    let (others, buffer) := buffer.freeAll i rest
    (freed ++ others, buffer)

/-- A cell is cleared without a look at what is in it. -/
def clear (buffer : Buffer ι κ τ α) (i : ι) (tag : τ) : List (Note ι κ α ε) × Buffer ι κ τ α :=
  ([.cleared i (buffer i).content], Function.update buffer i ⟨tag, fun _ ↦ none⟩)

/-- A request takes the place of the one that is there, which is freed. -/
def store (buffer : Buffer ι κ τ α) (i : ι) (k : κ) (tag : τ) (a : α) (told : List ε) :
    List (Note ι κ α ε) × Buffer ι κ τ α :=
  let (freed, buffer) := buffer.free i k
  let (stored, buffer) := buffer.fill i k tag a
  (freed ++ told.map .told ++ stored, buffer)

/-- What there is to tell of a cell is told, and the requests of some kinds in it are freed. -/
def serve (buffer : Buffer ι κ τ α) (i : ι) (told : List ε) (ks : List κ) :
    List (Note ι κ α ε) × Buffer ι κ τ α :=
  let (freed, buffer) := buffer.freeAll i ks
  (told.map .told ++ freed, buffer)

/-- A cell is cleared if there is no request of some kinds in it. -/
def clearUnless (buffer : Buffer ι κ τ α) (i : ι) (ks : List κ) (tag : τ) :
    List (Note ι κ α ε) × Buffer ι κ τ α :=
  if ∀ k ∈ ks, (buffer i).content k = none then buffer.clear i tag else ([], buffer)

end Buffer

end Operations

/-! ### What is in a cell afterwards -/

section Contents

variable {ι κ τ α ε : Type} [DecidableEq ι] [DecidableEq κ] {buffer : Buffer ι κ τ α} {i j : ι}

@[simp] theorem fill_content_self (cell : Cell κ τ α) (k : κ) (tag : τ) (a : α) :
    (cell.fill k tag a).content k = some a := Function.update_self ..

theorem fill_content_of_ne (cell : Cell κ τ α) {k k' : κ} (hne : k' ≠ k) (tag : τ) (a : α) :
    (cell.fill k tag a).content k' = cell.content k' := Function.update_of_ne hne ..

@[simp] theorem free_content_self (cell : Cell κ τ α) (k : κ) :
    (cell.free k).content k = none := Function.update_self ..

theorem free_content_of_ne (cell : Cell κ τ α) {k k' : κ} (hne : k' ≠ k) :
    (cell.free k).content k' = cell.content k' := Function.update_of_ne hne ..

/-- Freeing requests changes no tag. -/
theorem freeAll_tag (buffer : Buffer ι κ τ α) (ks : List κ) :
    ((buffer.freeAll i ks : List (Note ι κ α ε) × _).2 j).tag = (buffer j).tag := by
  induction ks generalizing buffer with
  | nil => rfl
  | cons k rest ih =>
    show ((Buffer.freeAll (Function.update buffer i _) i rest).2 j).tag = (buffer j).tag
    rw [ih]
    by_cases hcell : j = i
    · subst hcell
      rw [Function.update_self]
      rfl
    · rw [Function.update_of_ne hcell]

/-- Of the requests in the cell, those of the other kinds are left. -/
theorem freeAll_content (buffer : Buffer ι κ τ α) (ks : List κ) (k : κ) :
    ((buffer.freeAll i ks : List (Note ι κ α ε) × _).2 j).content k =
      if j = i ∧ k ∈ ks then none else (buffer j).content k := by
  induction ks generalizing buffer with
  | nil =>
    rw [if_neg fun hboth ↦ List.not_mem_nil hboth.2]
    rfl
  | cons k' rest ih =>
    show ((Buffer.freeAll (Function.update buffer i _) i rest).2 j).content k = _
    rw [ih]
    by_cases hcell : j = i
    · subst hcell
      rw [Function.update_self]
      by_cases hself : k = k'
      · subst hself
        have hmem : k ∈ k :: rest := List.mem_cons_self ..
        rw [free_content_self, ite_self, if_pos ⟨rfl, hmem⟩]
      · simp only [free_content_of_ne _ hself, List.mem_cons, hself, false_or]
    · rw [Function.update_of_ne hcell, if_neg fun hboth ↦ hcell hboth.1,
        if_neg fun hboth ↦ hcell hboth.1]

theorem mem_free {k : κ} {note : Note ι κ α ε} (h : note ∈ (buffer.free i k).1) :
    ∃ a, note = .freed i k a := by
  obtain ⟨a, -, ha⟩ := List.mem_map.mp h
  exact ⟨a, ha.symm⟩

theorem mem_freeAll {ks : List κ} {note : Note ι κ α ε} (h : note ∈ (buffer.freeAll i ks).1) :
    ∃ k a, note = .freed i k a := by
  induction ks generalizing buffer with
  | nil => cases h
  | cons k rest ih =>
    rcases List.mem_append.mp h with hfirst | hothers
    · exact ⟨k, mem_free hfirst⟩
    · exact ih hothers

theorem serve_cells (buffer : Buffer ι κ τ α) (told : List ε) (ks : List κ) :
    (buffer.serve i told ks).2 = (buffer.freeAll i ks : List (Note ι κ α ε) × _).2 := rfl

theorem mem_serve {told : List ε} {ks : List κ} {note : Note ι κ α ε}
    (h : note ∈ (buffer.serve i told ks).1) :
    (∃ x ∈ told, note = .told x) ∨ ∃ k a, note = .freed i k a := by
  rcases List.mem_append.mp h with htold | hfreed
  · obtain ⟨x, hx, rfl⟩ := List.mem_map.mp htold
    exact Or.inl ⟨x, hx, rfl⟩
  · exact Or.inr (mem_freeAll hfreed)

theorem mem_store {k : κ} {tag : τ} {a : α} {told : List ε} {note : Note ι κ α ε}
    (h : note ∈ (buffer.store i k tag a told).1) :
    (∃ other, note = .freed i k other) ∨ (∃ x ∈ told, note = .told x) ∨ note = .stored i k a := by
  rcases List.mem_append.mp h with hfirst | hstored
  · rcases List.mem_append.mp hfirst with hfreed | htold
    · exact Or.inl (mem_free hfreed)
    · obtain ⟨x, hx, rfl⟩ := List.mem_map.mp htold
      exact Or.inr (Or.inl ⟨x, hx, rfl⟩)
  · exact Or.inr (Or.inr (List.mem_singleton.mp hstored))

/-- A stored request takes one place. -/
theorem store_content (buffer : Buffer ι κ τ α) (k : κ) (tag : τ) (a : α) (told : List ε) (k' : κ) :
    ((buffer.store i k tag a told).2 j).content k' =
      if j = i ∧ k' = k then some a else (buffer j).content k' := by
  show (Function.update (Function.update buffer i _) i
    (Cell.fill (Function.update buffer i ((buffer i).free k) i) k tag a) j).content k' = _
  by_cases hcell : j = i
  · subst hcell
    rw [Function.update_self, Function.update_self]
    by_cases hkind : k' = k
    · subst hkind
      rw [if_pos ⟨rfl, rfl⟩, fill_content_self]
    · rw [if_neg fun hboth ↦ hkind hboth.2, fill_content_of_ne _ hkind, free_content_of_ne _ hkind]
  · rw [if_neg fun hboth ↦ hcell hboth.1, Function.update_of_ne hcell, Function.update_of_ne hcell]

omit [DecidableEq κ] in
/-- A cell that is cleared has nothing, and the others are as they were. -/
theorem clearUnless_content (buffer : Buffer ι κ τ α) (ks : List κ) (tag : τ) (k : κ) :
    ((buffer.clearUnless i ks tag : List (Note ι κ α ε) × _).2 j).content k =
      if j = i ∧ ∀ k ∈ ks, (buffer i).content k = none then none else (buffer j).content k := by
  unfold Buffer.clearUnless
  by_cases hempty : ∀ k ∈ ks, (buffer i).content k = none
  · rw [if_pos hempty]
    show (Function.update buffer i _ j).content k = _
    by_cases hcell : j = i
    · subst hcell
      rw [Function.update_self, if_pos ⟨rfl, hempty⟩]
    · rw [Function.update_of_ne hcell, if_neg fun hboth ↦ hcell hboth.1]
  · rw [if_neg hempty, if_neg fun hboth ↦ hempty hboth.2]

omit [DecidableEq κ] in
theorem mem_clearUnless {ks : List κ} {tag : τ} {note : Note ι κ α ε}
    (h : note ∈ (buffer.clearUnless i ks tag).1) : note = .cleared i (buffer i).content := by
  unfold Buffer.clearUnless at h
  split_ifs at h with hempty
  · exact List.mem_singleton.mp h
  · cases h

end Contents

/-! ### Coherent cells -/

section Coherence

variable {ι κ τ α ε : Type} {stamp : α → τ}

/-- Every request in the cell belongs to the time in its tag. -/
def Cell.Coherent (stamp : α → τ) (cell : Cell κ τ α) : Prop :=
  ∀ k a, cell.content k = some a → stamp a = cell.tag

/-- Every cell of the buffer is coherent. -/
def Coherent (stamp : α → τ) (buffer : Buffer ι κ τ α) : Prop := ∀ i, (buffer i).Coherent stamp

theorem coherent_empty (tag : τ) :
    (⟨tag, fun _ ↦ none⟩ : Cell κ τ α).Coherent stamp := fun _ _ h ↦ by cases h

/-- A coherent cell in place of another. -/
theorem Coherent.update [DecidableEq ι] {buffer : Buffer ι κ τ α} (h : Coherent stamp buffer) (i : ι)
    {cell : Cell κ τ α} (hcell : cell.Coherent stamp) :
    Coherent stamp (Function.update buffer i cell) := by
  intro j
  by_cases hself : j = i
  · subst hself
    rwa [Function.update_self]
  · rw [Function.update_of_ne hself]
    exact h j

theorem Coherent.update_iff [DecidableEq ι] {buffer : Buffer ι κ τ α} (h : Coherent stamp buffer)
    (i : ι) {cell : Cell κ τ α} :
    Coherent stamp (Function.update buffer i cell) ↔ cell.Coherent stamp := by
  constructor
  · intro hall
    have hself := hall i
    rwa [Function.update_self] at hself
  · exact h.update i

theorem Coherent.clear [DecidableEq ι] {buffer : Buffer ι κ τ α} (h : Coherent stamp buffer)
    (i : ι) (tag : τ) : Coherent stamp (buffer.clear i tag : List (Note ι κ α ε) × _).2 :=
  h.update i (coherent_empty tag)

variable [DecidableEq κ]

/-- A request filled into a cell leaves it coherent exactly when the requests of the other kinds in
it belong to the same time. -/
theorem Cell.coherent_fill_iff (cell : Cell κ τ α) (k : κ) (a : α) :
    (cell.fill k (stamp a) a).Coherent stamp ↔
      ∀ k' ≠ k, ∀ other, cell.content k' = some other → stamp other = stamp a := by
  constructor
  · intro h k' hne other hother
    exact h k' other ((fill_content_of_ne cell hne _ _).trans hother)
  · intro h k' other hother
    by_cases hself : k' = k
    · subst hself
      rw [fill_content_self] at hother
      rw [Option.some.inj hother]
      rfl
    · rw [fill_content_of_ne cell hself] at hother
      exact h k' hself other hother

theorem Cell.Coherent.free {cell : Cell κ τ α} (h : cell.Coherent stamp) (k : κ) :
    (cell.free k).Coherent stamp := by
  intro k' a ha
  by_cases hself : k' = k
  · subst hself
    rw [free_content_self] at ha
    cases ha
  · rw [free_content_of_ne cell hself] at ha
    exact h k' a ha

namespace Coherent

variable [DecidableEq ι] {buffer : Buffer ι κ τ α}

theorem freeAll (h : Coherent stamp buffer) (i : ι) (ks : List κ) :
    Coherent stamp (buffer.freeAll i ks : List (Note ι κ α ε) × _).2 := by
  induction ks generalizing buffer with
  | nil => exact h
  | cons k rest ih => exact ih (h.update i ((h i).free k))

theorem serve (h : Coherent stamp buffer) (i : ι) (told : List ε) (ks : List κ) :
    Coherent stamp (buffer.serve i told ks).2 := by
  rw [serve_cells]
  exact h.freeAll i ks

omit [DecidableEq κ] in
theorem clearUnless (h : Coherent stamp buffer) (i : ι) (ks : List κ) (tag : τ) :
    Coherent stamp (buffer.clearUnless i ks tag : List (Note ι κ α ε) × _).2 := by
  unfold Buffer.clearUnless
  split_ifs with hempty
  · exact h.clear i tag
  · exact h

/-- A stored request leaves the buffer coherent exactly when the others in its cell belong to the
same time. -/
theorem store_iff (h : Coherent stamp buffer) (i : ι) (k : κ) (a : α) (told : List ε) :
    Coherent stamp (buffer.store i k (stamp a) a told).2 ↔
      ∀ k' ≠ k, ∀ other, (buffer i).content k' = some other → stamp other = stamp a := by
  have hfreed := h.update i ((h i).free k)
  show Coherent stamp (Function.update (Function.update buffer i _) i
    (Cell.fill (Function.update buffer i _ i) k (stamp a) a)) ↔ _
  rw [hfreed.update_iff, Function.update_self, Cell.coherent_fill_iff]
  refine forall_congr' fun k' ↦ forall_congr' fun hne ↦ ?_
  rw [free_content_of_ne _ hne]

end Coherent

end Coherence

/-! ### The books of a place -/

section Books

variable {ι κ τ α ε : Type} [DecidableEq ι]

/-- The request that was in a place when its cell was cleared. -/
def Note.lost (i : ι) (k : κ) : Note ι κ α ε → List α
  | .cleared i' content => if i' = i then (content k).toList else []
  | _ => []

/-- A cell that is cleared is empty. -/
def Note.Harmless : Note ι κ α ε → Prop
  | .cleared _ content => ∀ k, content k = none
  | _ => True

def lost (i : ι) (k : κ) (notes : List (Note ι κ α ε)) : List α := notes.flatMap (·.lost i k)

theorem lost_eq_nil_iff (notes : List (Note ι κ α ε)) :
    (∀ i k, lost i k notes = []) ↔ ∀ note ∈ notes, note.Harmless := by
  simp only [lost, List.flatMap_eq_nil_iff]
  constructor
  · intro hnone note hmem
    match note with
    | .cleared i content =>
      intro k
      have hnil : (if i = i then (content k).toList else []) = [] := hnone i k _ hmem
      rw [if_pos rfl] at hnil
      exact Option.toList_eq_nil_iff.mp hnil
    | .stored _ _ _ => trivial
    | .freed _ _ _ => trivial
    | .told _ => trivial
  · intro hall i k note hmem
    have hharmless := hall note hmem
    match note with
    | .cleared i' content =>
      show (if i' = i then (content k).toList else []) = []
      rw [hharmless k]
      exact ite_self _
    | .stored _ _ _ => rfl
    | .freed _ _ _ => rfl
    | .told _ => rfl

/-- The request in a place. -/
def Buffer.waiting (buffer : Buffer ι κ τ α) (i : ι) (k : κ) : List α :=
  ((buffer i).content k).toList

theorem waiting_of_ne {buffer : Buffer ι κ τ α} {i j : ι} (hne : j ≠ i) (cell : Cell κ τ α)
    (k : κ) : Buffer.waiting (Function.update buffer i cell) j k = buffer.waiting j k := by
  rw [Buffer.waiting, Function.update_of_ne hne]
  rfl

variable [DecidableEq κ]

/-- The request that is stored in a place. -/
def Note.accepted (i : ι) (k : κ) : Note ι κ α ε → List α
  | .stored i' k' a => if i' = i ∧ k' = k then [a] else []
  | _ => []

/-- The request that is freed from a place. -/
def Note.settled (i : ι) (k : κ) : Note ι κ α ε → List α
  | .freed i' k' a => if i' = i ∧ k' = k then [a] else []
  | _ => []

def accepted (i : ι) (k : κ) (notes : List (Note ι κ α ε)) : List α := notes.flatMap (·.accepted i k)

def settled (i : ι) (k : κ) (notes : List (Note ι κ α ε)) : List α := notes.flatMap (·.settled i k)

/-- The books of every place are balanced. -/
def Books (notes : List (Note ι κ α ε)) (buffer : Buffer ι κ τ α) : Prop :=
  ∀ i k, Balanced (accepted i k notes) (settled i k notes) [] (buffer.waiting i k) (lost i k notes)

/-- Every request stored was freed or is still in its place. -/
def BooksKept (notes : List (Note ι κ α ε)) (buffer : Buffer ι κ τ α) : Prop :=
  ∀ i k, accepted i k notes = settled i k notes ++ buffer.waiting i k

namespace Books

variable {past : List (Note ι κ α ε)} {buffer : Buffer ι κ τ α}

theorem empty (tag : τ) :
    Books ([] : List (Note ι κ α ε)) (fun _ ↦ ⟨tag, fun _ ↦ none⟩ : Buffer ι κ τ α) :=
  fun _ _ ↦ Balanced.empty

/-- The requests stored are all accounted for exactly when no cell is cleared with one in it. -/
theorem kept_iff (h : Books past buffer) :
    BooksKept past buffer ↔ ∀ note ∈ past, note.Harmless := by
  rw [← lost_eq_nil_iff]
  refine forall_congr' fun i ↦ forall_congr' fun k ↦ ?_
  have hkept := (h i k).kept_iff
  rwa [List.append_nil] at hkept

/-- One more note, and what it does to the books of each place. -/
theorem extend (h : Books past buffer) {note : Note ι κ α ε} {next : Buffer ι κ τ α}
    (hplace : ∀ i k, Balanced (accepted i k past) (settled i k past) [] (buffer.waiting i k)
        (lost i k past) →
      Balanced (accepted i k past ++ note.accepted i k) (settled i k past ++ note.settled i k) []
        (next.waiting i k) (lost i k past ++ note.lost i k)) :
    Books (past ++ [note]) next := by
  intro i k
  have hnext := hplace i k (h i k)
  simp only [accepted, settled, lost, List.flatMap_append, List.flatMap_singleton]
  exact hnext

theorem told (h : Books past buffer) (xs : List ε) : Books (past ++ xs.map .told) buffer := by
  induction xs generalizing past with
  | nil => rwa [List.map_nil, List.append_nil]
  | cons x rest ih =>
    have hfirst : Books (past ++ [.told x]) buffer := h.extend fun i k hplace ↦ by
      simp only [Note.accepted, Note.settled, Note.lost, List.append_nil]
      exact hplace
    have hall := ih hfirst
    rwa [List.append_assoc] at hall

/-- A request is stored in a place that is empty. -/
theorem fill (h : Books past buffer) {i : ι} {k : κ} (hempty : (buffer i).content k = none)
    (tag : τ) (a : α) :
    Books (past ++ (buffer.fill i k tag a).1) (buffer.fill i k tag a : List (Note ι κ α ε) × _).2 := by
  refine h.extend fun j k' hplace ↦ ?_
  simp only [Note.accepted, Note.settled, Note.lost, List.append_nil]
  show Balanced _ _ [] (Buffer.waiting (Function.update buffer i _) j k') _
  by_cases hcell : j = i
  · subst hcell
    rw [Buffer.waiting, Function.update_self]
    by_cases hkind : k' = k
    · subst hkind
      rw [Buffer.waiting, hempty] at hplace
      rw [if_pos ⟨rfl, rfl⟩, fill_content_self]
      exact hplace.accept a
    · rw [if_neg fun hboth ↦ hkind hboth.2.symm, fill_content_of_ne _ hkind, List.append_nil]
      exact hplace
  · rw [if_neg fun hboth ↦ hcell hboth.1.symm, waiting_of_ne hcell, List.append_nil]
    exact hplace

theorem free (h : Books past buffer) (i : ι) (k : κ) :
    Books (past ++ (buffer.free i k).1) (buffer.free i k : List (Note ι κ α ε) × _).2 := by
  show Books (past ++ ((buffer i).content k).toList.map (.freed i k)) (Function.update buffer i _)
  cases ha : (buffer i).content k with
  | none =>
    have hsame : (buffer i).free k = buffer i := by
      rw [Cell.free, ← ha, Function.update_eq_self]
    rw [hsame, Function.update_eq_self]
    rwa [Option.toList_none, List.map_nil, List.append_nil]
  | some a =>
    refine h.extend fun j k' hplace ↦ ?_
    simp only [Note.accepted, Note.settled, Note.lost, List.append_nil]
    by_cases hcell : j = i
    · subst hcell
      rw [Buffer.waiting, Function.update_self]
      by_cases hkind : k' = k
      · subst hkind
        rw [Buffer.waiting, ha] at hplace
        rw [if_pos ⟨rfl, rfl⟩, free_content_self]
        exact hplace.take.settle
      · rw [if_neg fun hboth ↦ hkind hboth.2.symm, free_content_of_ne _ hkind, List.append_nil]
        exact hplace
    · rw [if_neg fun hboth ↦ hcell hboth.1.symm, waiting_of_ne hcell, List.append_nil]
      exact hplace

theorem freeAll (h : Books past buffer) (i : ι) (ks : List κ) :
    Books (past ++ (buffer.freeAll i ks).1) (buffer.freeAll i ks : List (Note ι κ α ε) × _).2 := by
  induction ks generalizing past buffer with
  | nil =>
    show Books (past ++ []) buffer
    rwa [List.append_nil]
  | cons k rest ih =>
    have hall := ih (h.free i k)
    rwa [List.append_assoc] at hall

/-- What is in a cell that is cleared is lost. -/
theorem clear (h : Books past buffer) (i : ι) (tag : τ) :
    Books (past ++ (buffer.clear i tag).1) (buffer.clear i tag : List (Note ι κ α ε) × _).2 := by
  refine h.extend fun j k hplace ↦ ?_
  simp only [Note.accepted, Note.settled, Note.lost, List.append_nil]
  show Balanced _ _ [] (Buffer.waiting (Function.update buffer i _) j k) _
  by_cases hcell : j = i
  · subst hcell
    rw [Buffer.waiting, Function.update_self, if_pos rfl]
    rw [Buffer.waiting] at hplace
    cases ha : (buffer j).content k with
    | none =>
      rw [ha] at hplace
      rwa [Option.toList_none, List.append_nil]
    | some a =>
      rw [ha] at hplace
      exact hplace.take.lose
  · rw [if_neg fun hsame ↦ hcell hsame.symm, waiting_of_ne hcell, List.append_nil]
    exact hplace

theorem store (h : Books past buffer) (i : ι) (k : κ) (tag : τ) (a : α) (told : List ε) :
    Books (past ++ (buffer.store i k tag a told).1) (buffer.store i k tag a told).2 := by
  have hempty : ((buffer.free i k : List (Note ι κ α ε) × _).2 i).content k = none := by
    show (Function.update buffer i ((buffer i).free k) i).content k = none
    rw [Function.update_self, free_content_self]
  show Books (past ++ (_ ++ told.map .told ++ _)) _
  rw [← List.append_assoc, ← List.append_assoc]
  exact ((h.free i k).told told).fill hempty tag a

theorem serve (h : Books past buffer) (i : ι) (told : List ε) (ks : List κ) :
    Books (past ++ (buffer.serve i told ks).1) (buffer.serve i told ks).2 := by
  have hserved := (h.told told).freeAll i ks
  rwa [List.append_assoc] at hserved

theorem clearUnless (h : Books past buffer) (i : ι) (ks : List κ) (tag : τ) :
    Books (past ++ (buffer.clearUnless i ks tag).1)
      (buffer.clearUnless i ks tag : List (Note ι κ α ε) × _).2 := by
  unfold Buffer.clearUnless
  split_ifs with hempty
  · exact h.clear i tag
  · rwa [List.append_nil]

end Books

theorem store_harmless (buffer : Buffer ι κ τ α) (i : ι) (k : κ) (tag : τ) (a : α)
    (told : List ε) : ∀ note ∈ (buffer.store i k tag a told).1, note.Harmless := by
  intro note hmem
  rcases mem_store hmem with ⟨other, rfl⟩ | ⟨x, -, rfl⟩ | rfl <;> trivial

theorem serve_harmless (buffer : Buffer ι κ τ α) (i : ι) (told : List ε) (ks : List κ) :
    ∀ note ∈ (buffer.serve i told ks).1, note.Harmless := by
  intro note hmem
  rcases mem_serve hmem with ⟨x, -, rfl⟩ | ⟨k, a, rfl⟩ <;> trivial

omit [DecidableEq κ] in
/-- A cell that is cleared is empty exactly when the test leaves out no kind that is there. -/
theorem clearUnless_harmless_iff (buffer : Buffer ι κ τ α) (i : ι) (ks : List κ) (tag : τ) :
    (∀ note ∈ (buffer.clearUnless i ks tag).1, (note : Note ι κ α ε).Harmless) ↔
      ((∀ k ∈ ks, (buffer i).content k = none) → ∀ k, (buffer i).content k = none) := by
  unfold Buffer.clearUnless
  by_cases hempty : ∀ k ∈ ks, (buffer i).content k = none
  · rw [if_pos hempty, imp_iff_right hempty]
    exact List.forall_mem_singleton
  · rw [if_neg hempty]
    exact iff_of_true (fun note hmem ↦ absurd hmem List.not_mem_nil) fun hall ↦ absurd hall hempty

/-- If every step of a machine keeps the books, and empties no cell with a request in it exactly
when its input meets a condition, then every request stored in a run is accounted for exactly when
all inputs meet the condition. -/
theorem kept_run_iff {σ χ : Type} {step : σ → χ → Outcome (List (Note ι κ α ε) × σ)}
    {cells : σ → Buffer ι κ τ α} {Inv : σ → Prop} {Meets : σ → χ → Prop}
    (hbooks : ∀ past s x notes next, Books past (cells s) → step s x = .ok (notes, next) →
      Books (past ++ notes) (cells next))
    (hkeep : ∀ s x notes next, Inv s → step s x = .ok (notes, next) → Inv next)
    (hmeets : ∀ s x, Inv s →
      ((∃ notes next, step s x = .ok (notes, next) ∧ ∀ note ∈ notes, note.Harmless) ↔ Meets s x))
    {s : σ} (hs : Inv s) (hstart : Books ([] : List (Note ι κ α ε)) (cells s)) (xs : List χ) :
    (∃ replies t, runAll step s xs = .ok (replies, t) ∧ BooksKept replies.flatten (cells t) ∧
        ∀ note ∈ replies.flatten, note.Harmless) ↔ AlongRun step Meets s xs := by
  rw [← allAlong_iff hmeets (fun s x notes next h hstep _ ↦ hkeep s x notes next h hstep) xs hs,
    allAlong_iff_runAll xs s]
  refine exists_congr fun replies ↦ exists_congr fun t ↦ and_congr_right fun hrun ↦ ?_
  have hstep (past : List (List (Note ι κ α ε))) (s : σ) (x : χ) (notes : List (Note ι κ α ε))
      (next : σ) (h : Books past.flatten (cells s)) (hx : step s x = .ok (notes, next)) :
      Books (past ++ [notes]).flatten (cells next) := by
    rw [List.flatten_append, List.flatten_singleton]
    exact hbooks _ s x notes next h hx
  have hend : Books ([] ++ replies).flatten (cells t) := runAll_history hstep hstart hrun
  rw [List.nil_append] at hend
  rw [hend.kept_iff, and_self, List.forall_mem_flatten]

end Books

end MultiUeProxy.Lib.CellBuffer
