import MultiUeProxy.Lib.InPlace

/-!
# Places in a structure

An element of a list is a place in the structure that has the list, if the index is that of an
element. A decoder that is given an index which no element has writes outside the memory of the
list. `Place` is a part of a structure that may not be there, and `Fill.inPlace` the decoder for it.
-/

set_option autoImplicit false
set_option relaxedAutoImplicit false

namespace MultiUeProxy.Lib.InPlace

open Execution ByteCursor

/-- A part of a structure that may not be there. Where it is, it can be replaced. -/
structure Place (σ τ : Type) where
  get : σ → Option τ
  put : σ → τ → σ

namespace Place

variable {σ τ ρ : Type}

/-- A member of a structure, which is always there. -/
def member (get : σ → τ) (put : σ → τ → σ) : Place σ τ := ⟨fun value ↦ some (get value), put⟩

/-- An element of a list. -/
def element (index : ℕ) : Place (List τ) τ := ⟨(·[index]?), fun list part ↦ list.set index part⟩

/-- An element of an array that is declared with its length. -/
def slot {length : ℕ} (index : ℕ) : Place (Vector τ length) τ :=
  ⟨(·[index]?), fun array part ↦ array.setIfInBounds index part⟩

/-- A place in a place. -/
def within (outer : Place σ τ) (inner : Place τ ρ) : Place σ ρ where
  get value := (outer.get value).bind inner.get
  put value part :=
    match outer.get value with
    | some middle => outer.put value (inner.put middle part)
    | none => value

theorem get_within {outer : Place σ τ} {inner : Place τ ρ} {value : σ} {part : ρ} :
    (outer.within inner).get value = some part ↔
      ∃ middle, outer.get value = some middle ∧ inner.get middle = some part :=
  Option.bind_eq_some_iff

theorem get_within_some {outer : Place σ τ} {inner : Place τ ρ} {value : σ} {middle : τ}
    (h : outer.get value = some middle) : (outer.within inner).get value = inner.get middle := by
  show (outer.get value).bind inner.get = _
  rw [h, Option.bind_some]

theorem get_within_none {outer : Place σ τ} {inner : Place τ ρ} {value : σ}
    (h : outer.get value = none) : (outer.within inner).get value = none := by
  show (outer.get value).bind inner.get = none
  rw [h, Option.bind_none]

theorem put_within_none {outer : Place σ τ} {inner : Place τ ρ} {value : σ} (part : ρ)
    (h : outer.get value = none) : (outer.within inner).put value part = value := by
  unfold within
  simp only [h]

theorem put_within {outer : Place σ τ} {inner : Place τ ρ} {value : σ} {middle : τ} (part : ρ)
    (h : outer.get value = some middle) :
    (outer.within inner).put value part = outer.put value (inner.put middle part) := by
  unfold within
  simp only [h]

end Place

namespace Fill

variable {σ τ : Type}

/-- A decoder for a place. If it is not there, what is written is outside the memory. -/
def inPlace (place : Place σ τ) (x : Fill τ) : Fill σ := fun mem value pos ↦
  match place.get value with
  | some part =>
    match x mem part pos with
    | .ok (went, part, next) => .ok (went, place.put value part, next)
    | .error cause => .error cause
  | none => .error .fault

/-- Something is changed behind a decoder, whether it went through or not. -/
def thenModify (x : Fill σ) (f : σ → σ) : Fill σ := fun mem value pos ↦
  match x mem value pos with
  | .ok (went, value, next) => .ok (went, f value, next)
  | .error cause => .error cause

/-- A decoder whose error return is ignored. -/
def attempt (x : Fill σ) : Fill σ := fun mem value pos ↦
  match x mem value pos with
  | .ok (_, value, next) => .ok (true, value, next)
  | .error cause => .error cause

/-- The C `for` around an assignment of a result: what is returned in the end is the last one. -/
def lastOf (body : ℕ → Fill σ) : (count index : ℕ) → (result : Bool) → Fill σ
  | 0, _, result => .leave result
  | count + 1, index, _ => fun mem value pos ↦
    match body index mem value pos with
    | .ok (went, value, next) => lastOf body count (index + 1) went mem value next
    | .error cause => .error cause

end Fill

section Places

variable {σ τ : Type} {limit : ℕ}

theorem inPlace_of_get {place : Place σ τ} {x : Fill τ} {value : σ} {part part' : τ} {mem : Memory}
    {pos next : ℕ} {went : Bool} (hget : place.get value = some part)
    (hx : x mem part pos = .ok (went, part', next)) :
    Fill.inPlace place x mem value pos = .ok (went, place.put value part', next) := by
  unfold Fill.inPlace
  rw [hget]
  dsimp only
  rw [hx]

theorem inPlace_missing {place : Place σ τ} {x : Fill τ} {value : σ} (h : place.get value = none)
    (mem : Memory) (pos : ℕ) : Fill.inPlace place x mem value pos = .error .fault := by
  unfold Fill.inPlace
  rw [h]

theorem thenModify_crash {x : Fill σ} {f : σ → σ} {mem : Memory} {value : σ} {pos : ℕ}
    {cause : Crash} (h : x mem value pos = .error cause) :
    x.thenModify f mem value pos = .error cause := by
  unfold Fill.thenModify
  rw [h]

theorem andThen_crash {x y : Fill σ} {mem : Memory} {value value' : σ} {pos next : ℕ}
    {cause : Crash} (hx : x mem value pos = .ok (true, value', next))
    (hy : y mem value' next = .error cause) : x.andThen y mem value pos = .error cause := by
  unfold Fill.andThen
  rw [hx]
  exact hy

instance {place : Place σ τ} {x : Fill τ} [hx : Within limit x] : Within limit (.inPlace place x) where
  within mem value pos went value' last hpos h := by
    unfold Fill.inPlace at h
    cases hplace : place.get value with
    | some part =>
      rw [hplace] at h
      dsimp only at h
      cases hrun : x mem part pos with
      | ok result =>
        obtain ⟨through, part', next⟩ := result
        rw [hrun] at h
        cases h
        exact hx.within mem part pos _ part' last hpos hrun
      | error cause =>
        rw [hrun] at h
        cases h
    | none =>
      rw [hplace] at h
      cases h

instance {x : Fill σ} {f : σ → σ} [hx : Within limit x] : Within limit (x.thenModify f) where
  within mem value pos went value' last hpos h := by
    unfold Fill.thenModify at h
    cases hrun : x mem value pos with
    | ok result =>
      obtain ⟨through, middle, next⟩ := result
      rw [hrun] at h
      cases h
      exact hx.within mem value pos _ middle last hpos hrun
    | error cause =>
      rw [hrun] at h
      cases h

instance {x : Fill σ} [hx : Within limit x] : Within limit x.attempt where
  within mem value pos went value' last hpos h := by
    unfold Fill.attempt at h
    cases hrun : x mem value pos with
    | ok result =>
      obtain ⟨through, middle, next⟩ := result
      rw [hrun] at h
      cases h
      exact hx.within mem value pos through _ last hpos hrun
    | error cause =>
      rw [hrun] at h
      cases h

instance {body : ℕ → Fill σ} [hbody : ∀ index, Within limit (body index)] {count index : ℕ}
    {result : Bool} : Within limit (.lastOf body count index result) := by
  induction count generalizing index result with
  | zero => exact (inferInstance : Within limit (.leave result))
  | succ count ih =>
    constructor
    intro mem value pos went value' last hpos h
    unfold Fill.lastOf at h
    cases hrun : body index mem value pos with
    | ok step =>
      obtain ⟨through, middle, next⟩ := step
      rw [hrun] at h
      have hnext := (hbody index).within mem value pos through middle next hpos hrun
      exact ih.within mem middle next went value' last hnext h
    | error cause =>
      rw [hrun] at h
      cases h

end Places

end MultiUeProxy.Lib.InPlace
