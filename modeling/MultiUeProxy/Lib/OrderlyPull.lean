import MultiUeProxy.Lib.ByteCursor

/-!
# Decoders that only move forward

A pull is orderly when it never moves the cursor back and when the only crash it can end in is a
read outside its object: it does not abort and it does not run for ever. Orderliness is a class,
so that a decoder written as a sequence of pulls is orderly by instance search. A list decoder is
orderly when the decoders of its fields are (`tlvList_orderly`, `tagSwitch_orderly`): every
iteration reads a tag and a length, hence the bound on the iterations is never used up.
-/

set_option autoImplicit false
set_option relaxedAutoImplicit false

namespace MultiUeProxy.Lib.ByteCursor.Pull

open Execution

variable {α β σ : Type}

/-- The ways in which an orderly pull ends without a value. -/
def OrderlyStop : Stop → Prop
  | .reject => True
  | .crash cause => cause = .fault

/-- The pull is orderly at one place. -/
def OrderlyAt (x : Pull α) (mem : Memory) (pos : ℕ) : Prop :=
  match x mem pos with
  | .ok (_, next) => pos ≤ next
  | .error stop => OrderlyStop stop

/-- The pull is orderly everywhere. -/
class Orderly (x : Pull α) : Prop where
  at_place : ∀ mem pos, OrderlyAt x mem pos

theorem orderlyAt_of_ok {x : Pull α} {mem : Memory} {pos next : ℕ} {a : α}
    (h : x mem pos = .ok (a, next)) : OrderlyAt x mem pos ↔ pos ≤ next := by
  rw [OrderlyAt, h]

theorem orderlyAt_of_error {x : Pull α} {mem : Memory} {pos : ℕ} {stop : Stop}
    (h : x mem pos = .error stop) : OrderlyAt x mem pos ↔ OrderlyStop stop := by
  rw [OrderlyAt, h]

/-- A sequence is orderly when its first part is and its second part is from wherever the first
one leaves the cursor. -/
theorem OrderlyAt.bind {x : Pull α} {f : α → Pull β} {mem : Memory} {pos : ℕ}
    (hx : OrderlyAt x mem pos)
    (hf : ∀ a next, x mem pos = .ok (a, next) → OrderlyAt (f a) mem next) :
    OrderlyAt (x >>= f) mem pos := by
  cases hrun : x mem pos with
  | ok result =>
    obtain ⟨a, next⟩ := result
    have hfirst : pos ≤ next := (orderlyAt_of_ok hrun).mp hx
    have hrest := hf a next hrun
    cases hsecond : f a mem next with
    | ok final =>
      obtain ⟨b, last⟩ := final
      rw [orderlyAt_of_ok ((bind_of_ok hrun).trans hsecond)]
      exact Nat.le_trans hfirst ((orderlyAt_of_ok hsecond).mp hrest)
    | error stop =>
      rw [orderlyAt_of_error ((bind_of_ok hrun).trans hsecond)]
      exact (orderlyAt_of_error hsecond).mp hrest
  | error stop =>
    rw [orderlyAt_of_error (bind_of_error hrun)]
    exact (orderlyAt_of_error hrun).mp hx

instance (a : α) : Orderly (pure a : Pull α) := ⟨fun _ pos ↦ Nat.le_refl pos⟩

instance {x : Pull α} {f : α → Pull β} [Orderly x] [∀ a, Orderly (f a)] : Orderly (x >>= f) :=
  ⟨fun mem pos ↦ (Orderly.at_place mem pos).bind fun _ next _ ↦ Orderly.at_place mem next⟩

instance {x : Pull α} {f : α → β} [Orderly x] : Orderly (f <$> x) :=
  (inferInstance : Orderly (x >>= fun a ↦ pure (f a)))

instance : Orderly (reject : Pull α) := ⟨fun _ _ ↦ trivial⟩

instance : Orderly (crash .fault : Pull α) := ⟨fun _ _ ↦ rfl⟩

instance {p : Prop} [Decidable p] {x y : Pull α} [Orderly x] [Orderly y] :
    Orderly (if p then x else y) := by
  split_ifs <;> infer_instance

instance {p : Prop} [Decidable p] : Orderly (ensure p) := by
  rw [ensure]
  infer_instance

instance : Orderly position := ⟨fun _ pos ↦ Nat.le_refl pos⟩

instance : Orderly byte := ⟨fun mem pos ↦ by
  rw [OrderlyAt, byte]
  split_ifs
  · exact Nat.le_succ pos
  · rfl⟩

instance {count limit : ℕ} : Orderly (room count limit) :=
  ⟨fun mem pos ↦ (inferInstance : Orderly (ensure (pos + count ≤ limit))).at_place mem pos⟩

instance {limit : ℕ} : Orderly (pull8 limit) := by
  rw [pull8]
  infer_instance

instance {limit : ℕ} : Orderly (pull16 limit) := by
  rw [pull16]
  infer_instance

instance {limit : ℕ} : Orderly (pull32 limit) := by
  rw [pull32]
  infer_instance

instance {limit : ℕ} : Orderly (unpackTl limit) := by
  rw [unpackTl]
  infer_instance

instance {x : Pull α} {previous : α} [Orderly x] : Orderly (attempt x previous) :=
  ⟨fun mem pos ↦ by
    have hx : OrderlyAt x mem pos := Orderly.at_place mem pos
    rw [OrderlyAt] at hx ⊢
    rw [attempt]
    cases hrun : x mem pos with
    | ok result =>
      rw [hrun] at hx
      exact hx
    | error stop =>
      cases stop with
      | reject => exact Nat.le_refl pos
      | crash cause =>
        rw [hrun] at hx
        exact hx⟩

instance {element : Pull α} {count : ℕ} [Orderly element] :
    Orderly (repeatPull element count) := by
  induction count with
  | zero =>
    rw [repeatPull]
    infer_instance
  | succ count ih =>
    rw [repeatPull]
    infer_instance

instance {f : α → Pull β} {items : List α} [∀ item, Orderly (f item)] :
    Orderly (forEach f items) := by
  induction items with
  | nil =>
    rw [forEach]
    infer_instance
  | cons item items ih =>
    rw [forEach]
    infer_instance

instance {maxLen count limit : ℕ} : Orderly (pullarray8 maxLen count limit) := by
  rw [pullarray8]
  infer_instance

instance {maxLen count limit : ℕ} : Orderly (pullarray16 maxLen count limit) := by
  rw [pullarray16]
  infer_instance

/-! ### List decoders -/

/-- Tag and length take four bytes. -/
theorem unpackTl_eq_ok {limit : ℕ} {mem : Memory} {pos last : ℕ} {tl : Tl}
    (h : unpackTl limit mem pos = .ok (tl, last)) : last = pos + 4 ∧ last ≤ limit := by
  obtain ⟨tag, next, htag, hrest⟩ := bind_eq_ok.mp h
  obtain ⟨-, -, rfl⟩ := pull16_eq_ok htag
  obtain ⟨length, final, hlength, hpure⟩ := bind_eq_ok.mp hrest
  obtain ⟨hlimit, -, rfl⟩ := pull16_eq_ok hlength
  cases hpure
  exact ⟨rfl, hlimit⟩

theorem tlvLoop_orderlyAt (policy : TlvPolicy) (fields : List (TlvField σ)) (limit : ℕ)
    (hfields : ∀ field ∈ fields, ∀ tl value, Orderly (field.unpack tl limit value))
    (bound badTags : ℕ) (value : σ) (mem : Memory) (pos : ℕ) (hbound : limit - pos < bound) :
    OrderlyAt (tlvLoop policy fields limit bound badTags value) mem pos := by
  induction bound generalizing badTags value pos with
  | zero => omega
  | succ bound ih =>
    rw [tlvLoop]
    refine (Orderly.at_place mem pos).bind fun start next hposition ↦ ?_
    cases hposition
    by_cases hlimit : pos < limit
    · rw [if_pos hlimit]
      refine (Orderly.at_place mem pos).bind fun tl afterTl htl ↦ ?_
      obtain ⟨hafter, -⟩ := unpackTl_eq_ok htl
      cases hfind : fields.find? fun field ↦ field.tag == tl.tag with
      | some field =>
        have horderly := hfields field (List.mem_of_find?_eq_some hfind) tl value
        refine (horderly.at_place mem afterTl).bind fun updated afterField hunpack ↦ ?_
        have hforward := (orderlyAt_of_ok hunpack).mp (horderly.at_place mem afterTl)
        exact ih badTags updated afterField (by omega)
      | none =>
        simp only
        split_ifs
        · exact ih badTags value afterTl (by omega)
        · exact Nat.le_refl afterTl
        · trivial
        · refine (Orderly.at_place mem afterTl).bind fun place afterPlace hplace ↦ ?_
          cases hplace
          refine (Orderly.at_place mem afterTl).bind fun _ afterRoom hroom ↦ ?_
          obtain ⟨-, rfl⟩ := ensure_eq_ok.mp hroom
          have hseek := seek_apply (afterRoom + tl.length.toNat) mem afterRoom
          refine ((orderlyAt_of_ok hseek).mpr (Nat.le_add_right ..)).bind fun _ target htarget ↦ ?_
          rw [hseek] at htarget
          cases htarget
          exact ih (badTags + 1) value _ (by omega)
    · rw [if_neg hlimit]
      exact Nat.le_refl pos

theorem tlvList_orderly {policy : TlvPolicy} {fields : List (TlvField σ)} {limit : ℕ} {value : σ}
    (hfields : ∀ field ∈ fields, ∀ tl value, Orderly (field.unpack tl limit value)) :
    Orderly (tlvList policy fields limit value) := ⟨fun mem pos ↦ by
  rw [tlvList]
  refine (Orderly.at_place mem pos).bind fun start next hposition ↦ ?_
  cases hposition
  exact tlvLoop_orderlyAt policy fields limit hfields _ _ value mem pos (by omega)⟩

theorem tagSwitchLoop_orderlyAt (fields : List (TlvField σ)) (limit stop : ℕ)
    (hfields : ∀ field ∈ fields, ∀ tl value, Orderly (field.unpack tl limit value))
    (bound : ℕ) (value : σ) (mem : Memory) (pos : ℕ) (hbound : stop - pos < bound) :
    OrderlyAt (tagSwitchLoop fields limit stop bound value) mem pos := by
  induction bound generalizing value pos with
  | zero => omega
  | succ bound ih =>
    rw [tagSwitchLoop]
    refine (Orderly.at_place mem pos).bind fun start next hposition ↦ ?_
    cases hposition
    by_cases hstop : pos < stop
    · rw [if_pos hstop]
      refine (Orderly.at_place mem pos).bind fun tl afterTl htl ↦ ?_
      obtain ⟨hafter, -⟩ := unpackTl_eq_ok htl
      cases hfind : fields.find? fun field ↦ field.tag == tl.tag with
      | some field =>
        have horderly := hfields field (List.mem_of_find?_eq_some hfind) tl value
        refine (horderly.at_place mem afterTl).bind fun updated afterField hunpack ↦ ?_
        have hforward := (orderlyAt_of_ok hunpack).mp (horderly.at_place mem afterTl)
        exact ih updated afterField (by omega)
      | none => exact ih value afterTl (by omega)
    · rw [if_neg hstop]
      exact Nat.le_refl pos

theorem tagSwitch_orderly {fields : List (TlvField σ)} {limit stop : ℕ} {value : σ}
    (hfields : ∀ field ∈ fields, ∀ tl value, Orderly (field.unpack tl limit value)) :
    Orderly (tagSwitch fields limit stop value) := ⟨fun mem pos ↦ by
  rw [tagSwitch]
  refine (Orderly.at_place mem pos).bind fun start next hposition ↦ ?_
  cases hposition
  exact tagSwitchLoop_orderlyAt fields limit stop hfields _ value mem pos (by omega)⟩

/-- An orderly decoder returns, accepting or rejecting, or reads outside its object. -/
theorem run_of_orderly {x : Pull α} [Orderly x] {mem : Memory} {pos : ℕ} {cause : Crash}
    (h : x.run mem pos = .error cause) : cause = .fault := by
  have hx : OrderlyAt x mem pos := Orderly.at_place mem pos
  rw [run] at h
  cases hrun : x mem pos with
  | ok result =>
    rw [hrun] at h
    cases h
  | error stop =>
    rw [orderlyAt_of_error hrun] at hx
    rw [hrun] at h
    cases stop with
    | reject => cases h
    | crash crashCause =>
      cases h
      exact hx

end MultiUeProxy.Lib.ByteCursor.Pull
