import MultiUeProxy.Lib.Execution
import Mathlib.Data.List.Nodup
import Mathlib.Data.List.Perm.Subperm
import Mathlib.Data.Nat.Notation
import Mathlib.Logic.Function.Basic

/-!
# Gathering the parts of parcels

Parcels are cut into numbered parts, and the parts of all parcels arrive in some order. For every
parcel that is not complete there is a pile with the parts that have arrived. A pile remembers when
it was opened, and an arrival gives up the piles that are too old for it.

`mem_gatherAll_iff` says which parcels are completed by a sequence of arrivals in which no part
comes twice: those all of whose parts arrive and whose pile is not given up while parts are still to
come. No parcel is completed twice (`gatherAll_sound`). A machine whose steps do to its state what
`gather` does to the piles replies with the completed parcels (`runAll_completes`).
-/

set_option autoImplicit false
set_option relaxedAutoImplicit false

namespace MultiUeProxy.Lib.Gathering

open Execution

/-- An arrival: a part of a parcel, the time at which a pile for it would be opened, and the piles
that are given up, by the time at which they were opened. -/
structure Arrival (ι τ : Type) where
  parcel : ι
  part : ℕ
  time : τ
  givesUp : ι → τ → Bool

/-- The parts of a parcel that have arrived, the latest first. -/
structure Pile (τ : Type) where
  opened : τ
  parts : List ℕ

section Gather

variable {ι τ : Type}

/-- The part that arrives. -/
def Arrival.label (a : Arrival ι τ) : ι × ℕ := (a.parcel, a.part)

/-- The pile with one more part, which may be the first. -/
def addTo (pile : Option (Pile τ)) (part : ℕ) (time : τ) : Pile τ :=
  match pile with
  | none => ⟨time, [part]⟩
  | some pile => ⟨pile.opened, part :: pile.parts⟩

/-- The piles that are left when an arrival has given up the old ones. -/
def expire (a : Arrival ι τ) (piles : ι → Option (Pile τ)) : ι → Option (Pile τ) := fun i ↦
  (piles i).filter fun pile ↦ !a.givesUp i pile.opened

variable [DecidableEq ι]

/-- Puts a part on its pile: the parcel that is complete with it, and the piles. -/
def gather (count : ι → ℕ) (piles : ι → Option (Pile τ)) (a : Arrival ι τ) :
    Option ι × (ι → Option (Pile τ)) :=
  let pile := addTo (piles a.parcel) a.part a.time
  if pile.parts.length = count a.parcel then
    (some a.parcel, expire a (Function.update piles a.parcel none))
  else (none, expire a (Function.update piles a.parcel (some pile)))

/-- The parcels that a sequence of arrivals completes, in this order, and the piles that are
left. -/
def gatherAll (count : ι → ℕ) (piles : ι → Option (Pile τ)) :
    List (Arrival ι τ) → List ι × (ι → Option (Pile τ))
  | [] => ([], piles)
  | a :: rest =>
    ((gather count piles a).1.toList ++ (gatherAll count (gather count piles a).2 rest).1,
      (gatherAll count (gather count piles a).2 rest).2)

/-- While parts of a parcel are still to come, no arrival gives up its pile, which was opened at a
time if it was. -/
def Kept (i : ι) : Option τ → List (Arrival ι τ) → Prop
  | _, [] => True
  | opened, a :: rest =>
    let opened := if a.parcel = i then some (opened.getD a.time) else opened
    ((∃ b ∈ rest, b.parcel = i) → ∀ time ∈ opened, a.givesUp i time = false) ∧ Kept i opened rest

instance decidableKept (i : ι) :
    (opened : Option τ) → (arrivals : List (Arrival ι τ)) → Decidable (Kept i opened arrivals)
  | _, [] => inferInstanceAs (Decidable True)
  | opened, a :: rest =>
    have := decidableKept i (if a.parcel = i then some (opened.getD a.time) else opened) rest
    inferInstanceAs (Decidable (((∃ b ∈ rest, b.parcel = i) →
      ∀ time ∈ if a.parcel = i then some (opened.getD a.time) else opened,
        a.givesUp i time = false) ∧ _))

end Gather

/-! ### Piles and the parts that have arrived -/

section Sound

variable {ι τ : Type} {count : ι → ℕ} {past : List (ι × ℕ)} {piles : ι → Option (Pile τ)}
  {a : Arrival ι τ} {rest : List (Arrival ι τ)} {i : ι}

/-- What is still to arrive are parts of the parcels, none of them twice or again. -/
structure Fresh (count : ι → ℕ) (past : List (ι × ℕ)) (arrivals : List (Arrival ι τ)) : Prop where
  nodup : (past ++ arrivals.map Arrival.label).Nodup
  part_lt : ∀ a ∈ arrivals, a.part < count a.parcel

theorem Fresh.not_mem (h : Fresh count past (a :: rest)) : a.label ∉ past := fun hmem ↦
  List.disjoint_of_nodup_append h.nodup hmem (List.mem_cons_self ..)

theorem Fresh.tail (h : Fresh count past (a :: rest)) : Fresh count (past ++ [a.label]) rest where
  nodup := by
    have hnodup := h.nodup
    rwa [List.map_cons, List.append_cons] at hnodup
  part_lt := fun b hb ↦ h.part_lt b (List.mem_cons_of_mem _ hb)

/-- A pile of a parcel has parts of it that have arrived, each once. -/
structure Pile.Sound (count : ι → ℕ) (past : List (ι × ℕ)) (i : ι) (pile : Pile τ) : Prop where
  nodup : pile.parts.Nodup
  part_lt : ∀ k ∈ pile.parts, k < count i
  arrived : ∀ k ∈ pile.parts, (i, k) ∈ past

theorem Pile.Sound.mono {past' : List (ι × ℕ)} {pile : Pile τ} (h : pile.Sound count past i)
    (hpast : past ⊆ past') : pile.Sound count past' i :=
  ⟨h.nodup, h.part_lt, fun k hk ↦ hpast (h.arrived k hk)⟩

/-- A pile with as many parts as the parcel has all of them. -/
theorem Pile.Sound.mem_of_length {pile : Pile τ} (h : pile.Sound count past i)
    (hlength : pile.parts.length = count i) {k : ℕ} (hk : k < count i) : k ∈ pile.parts := by
  have hsubset : pile.parts ⊆ List.range (count i) := fun j hj ↦
    List.mem_range.mpr (h.part_lt j hj)
  have hperm : pile.parts.Perm (List.range (count i)) := by
    apply (h.nodup.subperm hsubset).perm_of_length_le
    exact Nat.le_of_eq (List.length_range.trans hlength.symm)
  exact hperm.mem_iff.mpr (List.mem_range.mpr hk)

/-- All piles are sound, and there is none for a parcel that is complete. -/
structure Sound (count : ι → ℕ) (past : List (ι × ℕ)) (piles : ι → Option (Pile τ)) : Prop where
  sound : ∀ i pile, piles i = some pile → pile.Sound count past i
  incomplete : ∀ i pile, piles i = some pile → pile.parts.length < count i

theorem sound_none (count : ι → ℕ) (past : List (ι × ℕ)) :
    Sound count past (fun _ ↦ (none : Option (Pile τ))) :=
  ⟨fun _ _ h ↦ (by cases h), fun _ _ h ↦ (by cases h)⟩

/-- The pile that gets the part that arrives. -/
theorem Sound.addTo (h : Sound count past piles) (hnew : a.label ∉ past)
    (hpart : a.part < count a.parcel) :
    (addTo (piles a.parcel) a.part a.time).Sound count (past ++ [a.label]) a.parcel := by
  have hlabel : (a.parcel, a.part) ∈ past ++ [a.label] :=
    List.mem_append_right _ (List.mem_singleton.mpr rfl)
  cases hpile : piles a.parcel with
  | none =>
    refine ⟨List.nodup_singleton _, fun k hk ↦ ?_, fun k hk ↦ ?_⟩
    · rwa [List.mem_singleton.mp hk]
    · rwa [List.mem_singleton.mp hk]
  | some pile =>
    have hsound := h.sound _ pile hpile
    have habsent : a.part ∉ pile.parts := fun hmem ↦ hnew (hsound.arrived _ hmem)
    refine ⟨List.nodup_cons.mpr ⟨habsent, hsound.nodup⟩, fun k hk ↦ ?_, fun k hk ↦ ?_⟩
    · rcases List.mem_cons.mp hk with rfl | hmem
      · exact hpart
      · exact hsound.part_lt k hmem
    · rcases List.mem_cons.mp hk with rfl | hmem
      · exact hlabel
      · exact List.mem_append_left _ (hsound.arrived k hmem)

/-- A pile never has more parts than its parcel. -/
theorem Sound.length_addTo_le (h : Sound count past piles) (hpart : a.part < count a.parcel) :
    (Gathering.addTo (piles a.parcel) a.part a.time).parts.length ≤ count a.parcel := by
  cases hpile : piles a.parcel with
  | none =>
    show 1 ≤ count a.parcel
    omega
  | some pile => exact h.incomplete _ pile hpile

/-- All parts of a parcel that is completed have arrived. -/
theorem Sound.arrived_of_complete (h : Sound count past piles) (hnew : a.label ∉ past)
    (hpart : a.part < count a.parcel)
    (hlength : (Gathering.addTo (piles a.parcel) a.part a.time).parts.length = count a.parcel)
    {k : ℕ} (hk : k < count a.parcel) : (a.parcel, k) ∈ past ++ [a.label] :=
  (h.addTo hnew hpart).arrived k ((h.addTo hnew hpart).mem_of_length hlength hk)

/-- No more parts of a parcel arrive when all of them have. -/
theorem Fresh.parcel_ne (h : Fresh count past rest) (hall : ∀ k < count i, (i, k) ∈ past)
    {b : Arrival ι τ} (hb : b ∈ rest) : b.parcel ≠ i := by
  rintro rfl
  have hmem : b.label ∈ rest.map Arrival.label := List.mem_map_of_mem hb
  exact List.disjoint_of_nodup_append h.nodup (hall b.part (h.part_lt b hb)) hmem

/-- The pile of a parcel was opened at a time, if it was, and has all parts that have arrived. -/
structure Intact (past : List (ι × ℕ)) (piles : ι → Option (Pile τ)) (i : ι) (opened : Option τ)
    (parts : List ℕ) : Prop where
  pile : piles i = opened.map fun time ↦ ⟨time, parts⟩
  all : ∀ k, (i, k) ∈ past → k ∈ parts
  nil : opened = none ↔ parts = []

theorem Intact.addTo {opened : Option τ} {parts : List ℕ}
    (h : Intact past piles i opened parts) (part : ℕ) (time : τ) :
    Gathering.addTo (piles i) part time = ⟨opened.getD time, part :: parts⟩ := by
  rw [h.pile]
  cases opened with
  | none =>
    rw [h.nil.mp rfl]
    rfl
  | some first => rfl

/-- A pile with too few parts is not that of a parcel all of whose parts have arrived. -/
theorem exists_missing {parts : List ℕ} (hall : ∀ k, (i, k) ∈ past → k ∈ parts)
    (hmissing : parts.length < count i) : ∃ k < count i, (i, k) ∉ past := by
  apply Classical.byContradiction
  intro hnone
  have hsubset : List.range (count i) ⊆ parts := by
    intro k hk
    apply hall
    apply Classical.byContradiction
    intro habsent
    exact hnone ⟨k, List.mem_range.mp hk, habsent⟩
  have hle := (List.nodup_range.subperm hsubset).length_le
  rw [List.length_range] at hle
  omega

theorem expire_eq_some {pile : Pile τ} :
    expire a piles i = some pile ↔ piles i = some pile ∧ a.givesUp i pile.opened = false := by
  rw [expire, Option.filter_eq_some_iff, Bool.not_eq_true']

variable [DecidableEq ι]

/-- The part completes its parcel. -/
theorem gather_of_complete (hlength :
    (Gathering.addTo (piles a.parcel) a.part a.time).parts.length = count a.parcel) :
    gather count piles a = (some a.parcel, expire a (Function.update piles a.parcel none)) :=
  if_pos hlength

/-- The part is stored. -/
theorem gather_of_incomplete (hlength :
    (Gathering.addTo (piles a.parcel) a.part a.time).parts.length ≠ count a.parcel) :
    gather count piles a = (none, expire a (Function.update piles a.parcel
      (some (Gathering.addTo (piles a.parcel) a.part a.time)))) :=
  if_neg hlength

/-- A pile after an arrival is that of another parcel, or the one with the part. -/
theorem gather_eq_some {pile : Pile τ} (h : (gather count piles a).2 i = some pile) :
    (i ≠ a.parcel ∧ piles i = some pile) ∨
      (i = a.parcel ∧ pile = Gathering.addTo (piles a.parcel) a.part a.time ∧
        pile.parts.length ≠ count a.parcel) := by
  by_cases hlength : (Gathering.addTo (piles a.parcel) a.part a.time).parts.length = count a.parcel
  · rw [gather_of_complete hlength] at h
    have hupdate := (expire_eq_some.mp h).1
    by_cases hi : i = a.parcel
    · rw [hi, Function.update_self] at hupdate
      cases hupdate
    · rw [Function.update_of_ne hi] at hupdate
      exact Or.inl ⟨hi, hupdate⟩
  · rw [gather_of_incomplete hlength] at h
    have hupdate := (expire_eq_some.mp h).1
    by_cases hi : i = a.parcel
    · rw [hi, Function.update_self] at hupdate
      cases hupdate
      exact Or.inr ⟨hi, rfl, hlength⟩
    · rw [Function.update_of_ne hi] at hupdate
      exact Or.inl ⟨hi, hupdate⟩

/-- An arrival keeps the piles sound. -/
theorem Sound.gather (h : Sound count past piles) (hnew : a.label ∉ past)
    (hpart : a.part < count a.parcel) :
    Sound count (past ++ [a.label]) (gather count piles a).2 := by
  constructor
  · intro i pile hpile
    rcases gather_eq_some hpile with ⟨-, hold⟩ | ⟨rfl, rfl, -⟩
    · exact (h.sound i pile hold).mono (List.subset_append_left _ _)
    · exact h.addTo hnew hpart
  · intro i pile hpile
    rcases gather_eq_some hpile with ⟨-, hold⟩ | ⟨rfl, rfl, hne⟩
    · exact h.incomplete i pile hold
    · have hle := h.length_addTo_le hpart
      omega

/-! ### Runs -/

/-- A parcel that is completed by a run gets a part in it, and is not completed again. -/
theorem gatherAll_sound {arrivals : List (Arrival ι τ)} (h : Sound count past piles)
    (hfresh : Fresh count past arrivals) :
    (gatherAll count piles arrivals).1.Nodup ∧
      ∀ i ∈ (gatherAll count piles arrivals).1, ∃ b ∈ arrivals, b.parcel = i := by
  induction arrivals generalizing past piles with
  | nil => exact ⟨List.nodup_nil, fun i hi ↦ absurd hi List.not_mem_nil⟩
  | cons a rest ih =>
    have hpart := hfresh.part_lt a (List.mem_cons_self ..)
    obtain ⟨hnodup, hparts⟩ := ih (h.gather hfresh.not_mem hpart) hfresh.tail
    have hlater : ∀ i ∈ (gatherAll count (Gathering.gather count piles a).2 rest).1,
        ∃ b ∈ a :: rest, b.parcel = i := by
      intro i hi
      obtain ⟨b, hb, hparcel⟩ := hparts i hi
      exact ⟨b, List.mem_cons_of_mem a hb, hparcel⟩
    unfold gatherAll
    by_cases hlength : (Gathering.addTo (piles a.parcel) a.part a.time).parts.length =
        count a.parcel
    · have hfirst : (Gathering.gather count piles a).1.toList = [a.parcel] := by
        rw [gather_of_complete hlength, Option.toList_some]
      rw [hfirst]
      constructor
      · refine List.nodup_cons.mpr ⟨fun hmem ↦ ?_, hnodup⟩
        obtain ⟨b, hb, hparcel⟩ := hparts _ hmem
        exact hfresh.tail.parcel_ne
          (fun k hk ↦ h.arrived_of_complete hfresh.not_mem hpart hlength hk) hb hparcel
      · intro i hi
        rcases List.mem_cons.mp hi with rfl | hmem
        · exact ⟨a, List.mem_cons_self .., rfl⟩
        · exact hlater i hmem
    · have hfirst : (Gathering.gather count piles a).1.toList = [] := by
        rw [gather_of_incomplete hlength, Option.toList_none]
      rw [hfirst, List.nil_append]
      exact ⟨hnodup, hlater⟩

/-- A part of a parcel has arrived that is not on its pile any more. -/
def Lost (count : ι → ℕ) (past : List (ι × ℕ)) (piles : ι → Option (Pile τ)) (i : ι) : Prop :=
  ∃ k < count i, (i, k) ∈ past ∧ ∀ pile, piles i = some pile → k ∉ pile.parts

/-- A parcel with a lost part is not completed. -/
theorem Lost.not_mem {arrivals : List (Arrival ι τ)} (hlost : Lost count past piles i)
    (h : Sound count past piles) (hfresh : Fresh count past arrivals) :
    i ∉ (gatherAll count piles arrivals).1 := by
  induction arrivals generalizing past piles with
  | nil => exact List.not_mem_nil
  | cons a rest ih =>
    obtain ⟨k, hk, hpast, habsent⟩ := hlost
    have hpart := hfresh.part_lt a (List.mem_cons_self ..)
    have hpile : i = a.parcel →
        k ∉ (Gathering.addTo (piles a.parcel) a.part a.time).parts := by
      rintro rfl hmem
      have hne : k ≠ a.part := fun heq ↦ hfresh.not_mem (by rwa [heq] at hpast)
      cases hold : piles a.parcel with
      | none =>
        rw [hold] at hmem
        exact hne (List.mem_singleton.mp hmem)
      | some pile =>
        rw [hold] at hmem
        rcases List.mem_cons.mp hmem with heq | hthere
        · exact hne heq
        · exact habsent pile hold hthere
    have hstill : Lost count (past ++ [a.label]) (Gathering.gather count piles a).2 i := by
      refine ⟨k, hk, List.mem_append_left _ hpast, fun pile hnext ↦ ?_⟩
      rcases gather_eq_some hnext with ⟨-, hold⟩ | ⟨hi, rfl, -⟩
      · exact habsent pile hold
      · exact hpile hi
    unfold gatherAll
    intro hmem
    rcases List.mem_append.mp hmem with hfirst | hrest
    · by_cases hlength : (Gathering.addTo (piles a.parcel) a.part a.time).parts.length =
          count a.parcel
      · rw [gather_of_complete hlength] at hfirst
        obtain rfl : i = a.parcel := List.mem_singleton.mp hfirst
        exact hpile rfl ((h.addTo hfresh.not_mem hpart).mem_of_length hlength hk)
      · rw [gather_of_incomplete hlength] at hfirst
        exact List.not_mem_nil hfirst
    · exact ih hstill (h.gather hfresh.not_mem hpart) hfresh.tail hrest

/-- A run of arrivals for other parcels keeps every pile. -/
theorem kept_of_ne {opened : Option τ} {arrivals : List (Arrival ι τ)}
    (h : ∀ b ∈ arrivals, b.parcel ≠ i) : Kept i opened arrivals := by
  induction arrivals with
  | nil => trivial
  | cons a rest ih =>
    have hrest : ∀ b ∈ rest, b.parcel ≠ i := fun b hb ↦ h b (List.mem_cons_of_mem _ hb)
    rw [Kept, if_neg (h a (List.mem_cons_self ..))]
    refine ⟨?_, ih hrest⟩
    rintro ⟨b, hb, hparcel⟩
    exact absurd hparcel (hrest b hb)

/-- A pile is kept if no arrival gives up what was opened by itself or by one before it. -/
theorem kept_of_pairwise {opened : Option τ} {arrivals : List (Arrival ι τ)}
    (hopened : ∀ time ∈ opened, ∀ a ∈ arrivals, a.givesUp i time = false)
    (hself : ∀ a ∈ arrivals, a.givesUp i a.time = false)
    (hpairs : arrivals.Pairwise fun b a ↦ a.givesUp i b.time = false) :
    Kept i opened arrivals := by
  induction arrivals generalizing opened with
  | nil => trivial
  | cons a rest ih =>
    obtain ⟨hfirst, hlater⟩ := List.pairwise_cons.mp hpairs
    -- the pile is as old as before, or was opened by this arrival
    have hnext : ∀ time ∈ (if a.parcel = i then some (opened.getD a.time) else opened),
        time ∈ opened ∨ time = a.time := by
      intro time htime
      split_ifs at htime
      · cases opened with
        | none => exact Or.inr (Option.some.inj htime).symm
        | some old => exact Or.inl htime
      · exact Or.inl htime
    rw [Kept]
    refine ⟨fun _ time htime ↦ ?_, ih (fun time htime b hb ↦ ?_)
      (fun b hb ↦ hself b (List.mem_cons_of_mem _ hb)) hlater⟩
    · rcases hnext time htime with hold | rfl
      · exact hopened time hold a (List.mem_cons_self ..)
      · exact hself a (List.mem_cons_self ..)
    · rcases hnext time htime with hold | rfl
      · exact hopened time hold b (List.mem_cons_of_mem _ hb)
      · exact hfirst b hb

/-- The pile of another parcel after an arrival. -/
theorem gather_of_ne (hi : i ≠ a.parcel) : (gather count piles a).2 i = expire a piles i := by
  by_cases hlength : (addTo (piles a.parcel) a.part a.time).parts.length = count a.parcel
  · rw [gather_of_complete hlength]
    simp only [expire, Function.update_of_ne hi]
  · rw [gather_of_incomplete hlength]
    simp only [expire, Function.update_of_ne hi]

/-- What a parcel that is not completed by an arrival needs from there on, if that is known for an
intact pile: to be completed, its pile may not be given up now, unless nothing more of it comes. -/
theorem mem_rest_iff {next : ι → Option (Pile τ)} {opened : Option τ} {parts : List ℕ}
    (hpile : next i = (opened.map fun time ↦ (⟨time, parts⟩ : Pile τ)).filter
      fun pile ↦ !a.givesUp i pile.opened)
    (hall : ∀ k, (i, k) ∈ past → k ∈ parts) (hnil : opened = none ↔ parts = [])
    (harrived : ∀ k ∈ parts, (i, k) ∈ past ∧ k < count i) (hmissing : parts.length < count i)
    (h : Sound count past next) (hfresh : Fresh count past rest)
    (hrest : Intact past next i opened parts → (i ∈ (gatherAll count next rest).1 ↔
      (∀ k < count i, (i, k) ∈ past ++ rest.map Arrival.label) ∧ Kept i opened rest)) :
    i ∈ (gatherAll count next rest).1 ↔
      (∀ k < count i, (i, k) ∈ past ++ rest.map Arrival.label) ∧
        ((∃ b ∈ rest, b.parcel = i) → ∀ time ∈ opened, a.givesUp i time = false) ∧
        Kept i opened rest := by
  by_cases hgive : ∃ time ∈ opened, a.givesUp i time = true
  · obtain ⟨time, hopened, hgive⟩ := hgive
    obtain rfl : opened = some time := hopened
    have hgone : next i = none := by
      rw [hpile, Option.map_some, Option.filter_some, hgive]
      rfl
    obtain ⟨k, more, hparts⟩ := List.exists_cons_of_ne_nil fun hempty ↦ by cases hnil.mpr hempty
    have hk := harrived k (by rw [hparts]; exact List.mem_cons_self ..)
    have hlost : Lost count past next i := by
      refine ⟨k, hk.2, hk.1, fun pile hsome ↦ ?_⟩
      rw [hgone] at hsome
      cases hsome
    refine iff_of_false (hlost.not_mem h hfresh) ?_
    rintro ⟨hcomplete, hkept, -⟩
    obtain ⟨j, hj, habsent⟩ := exists_missing hall hmissing
    rcases List.mem_append.mp (hcomplete j hj) with hpast | hlater
    · exact habsent hpast
    · obtain ⟨b, hb, hlabel⟩ := List.mem_map.mp hlater
      have hfalse := hkept ⟨b, hb, congrArg Prod.fst hlabel⟩ time rfl
      rw [hgive] at hfalse
      cases hfalse
  · have hkeep : ∀ time ∈ opened, a.givesUp i time = false := fun time htime ↦ by
      cases hvalue : a.givesUp i time with
      | false => rfl
      | true => exact absurd ⟨time, htime, hvalue⟩ hgive
    have hintact : Intact past next i opened parts := by
      refine ⟨?_, hall, hnil⟩
      rw [hpile]
      cases opened with
      | none => rfl
      | some time => rw [Option.map_some, Option.filter_some, hkeep time rfl]; rfl
    rw [hrest hintact]
    exact and_congr_right fun _ ↦ (and_iff_right fun _ ↦ hkeep).symm

/-- With an intact pile that is not complete, a parcel is completed exactly when all its parts have
arrived in the end and its pile is kept until then. -/
theorem Intact.mem_gatherAll_iff {arrivals : List (Arrival ι τ)} {opened : Option τ}
    {parts : List ℕ} (hi : Intact past piles i opened parts) (h : Sound count past piles)
    (hfresh : Fresh count past arrivals) (hmissing : parts.length < count i) :
    i ∈ (gatherAll count piles arrivals).1 ↔
      (∀ k < count i, (i, k) ∈ past ++ arrivals.map Arrival.label) ∧ Kept i opened arrivals := by
  induction arrivals generalizing past piles opened parts with
  | nil =>
    refine iff_of_false List.not_mem_nil fun hall ↦ ?_
    obtain ⟨k, hk, habsent⟩ := exists_missing hi.all hmissing
    have hpast := hall.1 k hk
    rw [List.map_nil, List.append_nil] at hpast
    exact habsent hpast
  | cons a rest ih =>
    have hpart := hfresh.part_lt a (List.mem_cons_self ..)
    have hnext := h.gather hfresh.not_mem hpart
    rw [List.map_cons, List.append_cons past]
    unfold gatherAll
    by_cases hparcel : a.parcel = i
    · subst hparcel
      have hpile := hi.addTo a.part a.time
      have hsound := h.addTo hfresh.not_mem hpart
      have hroom := h.length_addTo_le hpart
      have hkept : Kept a.parcel opened (a :: rest) ↔
          ((∃ b ∈ rest, b.parcel = a.parcel) →
            ∀ time ∈ some (opened.getD a.time), a.givesUp a.parcel time = false) ∧
          Kept a.parcel (some (opened.getD a.time)) rest := by
        rw [Kept, if_pos rfl]
      rw [hkept]
      by_cases hlength : (Gathering.addTo (piles a.parcel) a.part a.time).parts.length =
          count a.parcel
      · have harrived : ∀ k < count a.parcel, (a.parcel, k) ∈ past ++ [a.label] := fun k hk ↦
          h.arrived_of_complete hfresh.not_mem hpart hlength hk
        have hnone : ∀ b ∈ rest, b.parcel ≠ a.parcel := fun b hb ↦
          hfresh.tail.parcel_ne harrived hb
        rw [gather_of_complete hlength]
        refine iff_of_true (List.mem_cons_self ..) ⟨fun k hk ↦ ?_, ?_, kept_of_ne hnone⟩
        · exact List.mem_append_left _ (harrived k hk)
        · rintro ⟨b, hb, hsame⟩
          exact absurd hsame (hnone b hb)
      · have hincomplete := hlength
        rw [hpile] at hsound hroom hlength
        rw [gather_of_incomplete hincomplete] at hnext ⊢
        show a.parcel ∈ [] ++ _ ↔ _
        rw [List.nil_append]
        have hfew : (a.part :: parts).length < count a.parcel := Nat.lt_of_le_of_ne hroom hlength
        have hall : ∀ k, (a.parcel, k) ∈ past ++ [a.label] → k ∈ a.part :: parts := by
          intro k hk
          rcases List.mem_append.mp hk with hpast | hnew
          · exact List.mem_cons_of_mem _ (hi.all k hpast)
          · exact List.mem_cons.mpr (Or.inl (congrArg Prod.snd (List.mem_singleton.mp hnew)))
        refine mem_rest_iff ?_ hall (iff_of_false (Option.some_ne_none _) (List.cons_ne_nil _ _))
          (fun k hk ↦ ⟨hsound.arrived k hk, hsound.part_lt k hk⟩) hfew hnext hfresh.tail
          fun hintact ↦ ih hintact hnext hfresh.tail hfew
        show (Function.update piles a.parcel (some _) a.parcel).filter _ = _
        rw [Function.update_self, hpile]
        rfl
    · have hne : i ≠ a.parcel := fun heq ↦ hparcel heq.symm
      have hkept : Kept i opened (a :: rest) ↔
          ((∃ b ∈ rest, b.parcel = i) → ∀ time ∈ opened, a.givesUp i time = false) ∧
            Kept i opened rest := by
        rw [Kept, if_neg hparcel]
      have hother : i ∈ (Gathering.gather count piles a).1.toList ++
          (gatherAll count (Gathering.gather count piles a).2 rest).1 ↔
            i ∈ (gatherAll count (Gathering.gather count piles a).2 rest).1 := by
        rw [List.mem_append, or_iff_right]
        by_cases hlength : (Gathering.addTo (piles a.parcel) a.part a.time).parts.length =
            count a.parcel
        · rw [gather_of_complete hlength]
          exact fun hmem ↦ hne (List.mem_singleton.mp hmem)
        · rw [gather_of_incomplete hlength]
          exact List.not_mem_nil
      rw [hkept, hother]
      refine mem_rest_iff ?_ (fun k hk ↦ ?_) hi.nil (fun k hk ↦ ?_) hmissing hnext hfresh.tail
        fun hintact ↦ ih hintact hnext hfresh.tail hmissing
      · rw [gather_of_ne hne, expire, hi.pile]
      · rcases List.mem_append.mp hk with hpast | hnew
        · exact hi.all k hpast
        · exact absurd (congrArg Prod.fst (List.mem_singleton.mp hnew)) hne
      · cases opened with
        | none =>
          rw [hi.nil.mp rfl] at hk
          exact absurd hk List.not_mem_nil
        | some time =>
          have hsound := h.sound i ⟨time, parts⟩ hi.pile
          exact ⟨List.mem_append_left _ (hsound.arrived k hk), hsound.part_lt k hk⟩

/-- From the start, a parcel is completed exactly when all its parts arrive and its pile is kept
until then. -/
theorem mem_gatherAll_iff {arrivals : List (Arrival ι τ)} (hfresh : Fresh count [] arrivals)
    (hcount : 0 < count i) :
    i ∈ (gatherAll count (fun _ ↦ none) arrivals).1 ↔
      (∀ k < count i, (i, k) ∈ arrivals.map Arrival.label) ∧ Kept i none arrivals := by
  have hintact : Intact [] (fun _ ↦ (none : Option (Pile τ))) i none [] :=
    ⟨rfl, fun k hk ↦ absurd hk List.not_mem_nil, iff_of_true rfl rfl⟩
  exact hintact.mem_gatherAll_iff (sound_none count []) hfresh hcount

end Sound

/-! ### Machines that gather -/

section Machines

variable {ι τ σ α β ο μ : Type} [DecidableEq ι] {step : σ → α → Outcome (ο × σ)} {input : β → α}
  {count : ι → ℕ} {arrival : β → Arrival ι τ} {contents : ο → List μ} {content : ι → μ}
  {Shows : σ → (ι → Option (Pile τ)) → Prop}

/-- If every input does to the state of a machine what its arrival does to the piles, and is replied
to with what stands for the parcel that is complete with it, then a run does so. -/
theorem runAll_gathers
    (hstep : ∀ s piles past x, Shows s piles → Sound count past piles →
      (arrival x).label ∉ past → (arrival x).part < count (arrival x).parcel →
      ∃ reply next, step s (input x) = .ok (reply, next) ∧
        contents reply = (gather count piles (arrival x)).1.toList.map content ∧
        Shows next (gather count piles (arrival x)).2)
    {xs : List β} {s : σ} {piles : ι → Option (Pile τ)} {past : List (ι × ℕ)} (hs : Shows s piles)
    (hsound : Sound count past piles) (hfresh : Fresh count past (xs.map arrival)) :
    ∃ replies t, runAll step s (xs.map input) = .ok (replies, t) ∧
      replies.flatMap contents = (gatherAll count piles (xs.map arrival)).1.map content ∧
      Shows t (gatherAll count piles (xs.map arrival)).2 := by
  induction xs generalizing s piles past with
  | nil => exact ⟨[], s, rfl, rfl, hs⟩
  | cons x rest ih =>
    have hpart := hfresh.part_lt (arrival x) (List.mem_cons_self ..)
    obtain ⟨reply, next, hnext, hreply, hshows⟩ :=
      hstep s piles past x hs hsound hfresh.not_mem hpart
    obtain ⟨replies, t, hrun, hreplies, hend⟩ :=
      ih hshows (hsound.gather hfresh.not_mem hpart) hfresh.tail
    refine ⟨reply :: replies, t, runAll_cons hnext hrun, ?_, hend⟩
    rw [List.flatMap_cons, hreply, hreplies, ← List.map_append]
    rfl

/-- Such a machine replies with what stands for the parcels all of whose parts arrive and whose
piles are kept until then, each once, and with nothing else. -/
theorem runAll_completes
    (hstep : ∀ s piles past x, Shows s piles → Sound count past piles →
      (arrival x).label ∉ past → (arrival x).part < count (arrival x).parcel →
      ∃ reply next, step s (input x) = .ok (reply, next) ∧
        contents reply = (gather count piles (arrival x)).1.toList.map content ∧
        Shows next (gather count piles (arrival x)).2)
    {xs : List β} {s : σ} (hs : Shows s fun _ ↦ none) (hcount : ∀ i, 0 < count i)
    (hfresh : Fresh count [] (xs.map arrival)) :
    ∃ (replies : List ο) (t : σ) (done : List ι),
      runAll step s (xs.map input) = .ok (replies, t) ∧
      replies.flatMap contents = done.map content ∧ done.Nodup ∧
      ∀ i, i ∈ done ↔ (∀ k < count i, (i, k) ∈ (xs.map arrival).map Arrival.label) ∧
        Kept i none (xs.map arrival) := by
  obtain ⟨replies, t, hrun, hreplies, -⟩ :=
    runAll_gathers hstep hs (sound_none count []) hfresh
  exact ⟨replies, t, _, hrun, hreplies, (gatherAll_sound (sound_none count []) hfresh).1,
    fun i ↦ mem_gatherAll_iff hfresh (hcount i)⟩

end Machines

end MultiUeProxy.Lib.Gathering
