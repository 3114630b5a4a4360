import MultiUeProxy.Lib.LoopCodec
import MultiUeProxy.Lib.OrderlyPull
import MultiUeProxy.Lib.Places
import MultiUeProxy.Lib.TlvCodec

/-!
# Codecs that do not look at their results

An encoder may push all its items, each whether or not there was room for the one before, and its
decoder may pull all its fields in the same way (`attemptItems`, `attemptSteps`). With enough room
both do what their checked forms do: `encodes_attemptItems` and `fills_attemptSteps`.

A loop that does not check its count goes on behind the end of the array. An element that is not
there is harmless as long as nothing is stored in it (`beyond`), which is so behind the end of the
message.

`packSized` is the frame of a part that begins with a type and its own size, where the size is put
in when the part is complete.
-/

set_option autoImplicit false
set_option relaxedAutoImplicit false

namespace MultiUeProxy.Lib.InPlace

open Execution ByteCursor ByteWriter Codec TlvCodec
open ByteWriter.Push (position patch)

/-! ### Items and steps -/

/-- All pushes, none of which is looked at. -/
def attemptItems (limit : ℕ) (items : List Item) : Push Unit :=
  Push.forEach (fun item ↦ Push.attempt (item.push limit)) items

theorem encodes_attemptItems {limit : ℕ} {items : List Item} (h : ∀ item ∈ items, item.Fits) :
    Encodes limit (attemptItems limit items) (itemsBytes items) := by
  apply encodes_forEach
  intro item hitem
  have hpush := @emits_push limit item (h item hitem)
  have hencodes := hpush.encodes
  infer_instance

section Steps

variable {σ τ : Type} {limit : ℕ} {x : Fill σ} {value value' : σ} {bytes : List UInt8}

/-- All steps, none of which is looked at. -/
def attemptSteps (limit : ℕ) : List (Step σ) → Fill σ
  | [] => .done
  | step :: steps => (Fill.attempt (step.fill limit)).andThen (attemptSteps limit steps)

theorem crash_andThen {y : Fill σ} {mem : Memory} {pos : ℕ} {cause : Crash}
    (h : x mem value pos = .error cause) : x.andThen y mem value pos = .error cause := by
  unfold Fill.andThen
  rw [h]

theorem Fills.attempt (h : Fills limit x value bytes value') :
    Fills limit x.attempt value bytes value' := by
  intro mem pos hholds hlimit
  unfold Fill.attempt
  rw [h mem pos hholds hlimit]

theorem fills_attemptSteps {steps : List (Step σ)} {items : List Item}
    (h : applySteps steps items value = some value') :
    Fills limit (attemptSteps limit steps) value (itemsBytes items) value' := by
  induction steps generalizing items value with
  | nil =>
    cases items with
    | nil =>
      cases h
      exact fills_done
    | cons item items => cases h
  | cons step steps ih =>
    cases items with
    | nil => cases h
    | cons item items =>
      unfold applySteps at h
      obtain ⟨middle, hstep, hrest⟩ := Option.bind_eq_some_iff.mp h
      exact (fills_step hstep).attempt.andThen (ih hrest)

end Steps

/-! ### Arrays -/

section Arrays

variable {σ τ ι : Type} {limit maxLen : ℕ} {place : ListPlace σ τ} {start : τ} {x : Fill τ}

theorem encodes_packElements {pack : τ → Push Unit} {bytes : τ → List UInt8} {elements : List τ}
    (hpack : ∀ element ∈ elements, Encodes limit (pack element) (bytes element)) :
    Encodes limit (packElements elements.length pack elements) (elements.flatMap bytes) := by
  have hall : Encodes limit (Push.forEach pack elements) (elements.flatMap bytes) :=
    encodes_forEach hpack
  unfold packElements
  rw [List.take_length, if_neg (Nat.lt_irrefl _), ← List.append_nil (elements.flatMap bytes)]
  infer_instance

theorem length_flatMap_le {α β : Type} {f : α → List β} {items : List α} {bound : ℕ}
    (h : ∀ item ∈ items, (f item).length ≤ bound) :
    (items.flatMap f).length ≤ items.length * bound := by
  induction items with
  | nil => exact Nat.zero_le _
  | cons item items ih =>
    have hfirst := h item (List.mem_cons_self ..)
    have hrest := ih fun other hother ↦ h other (List.mem_cons_of_mem _ hother)
    rw [List.flatMap_cons, List.length_append, List.length_cons, Nat.succ_mul]
    omega

/-- A decoder for an element that is not there. What it stores is outside of the memory. -/
def Fill.beyond (start : τ) (x : Fill τ) : Fill σ := fun mem value pos ↦
  match x mem start pos with
  | .ok (went, _, last) => if last = pos then .ok (went, value, pos) else .error .fault
  | .error cause => .error cause

/-- A decoder for the element with this index, which the array may not have. -/
def Fill.elementOrBeyond (maxLen : ℕ) (place : ListPlace σ τ) (start : τ) (x : Fill τ)
    (index : ℕ) : Fill σ :=
  if index < maxLen then .element maxLen place.get place.put start x index else .beyond start x

theorem loop_congr {body body' : ℕ → Fill σ} {count index : ℕ}
    (h : ∀ i, i < index + count → body i = body' i) :
    Fill.loop body count index = .loop body' count index := by
  induction count generalizing index with
  | zero => rfl
  | succ count ih =>
    unfold Fill.loop
    rw [h index (by omega), ih fun i hi ↦ h i (by omega)]

/-- A loop that does not leave the array. -/
theorem fills_elementsOrBeyond {value : σ} {items : List ι} {bytes : ι → List UInt8}
    {arrive : ι → τ} (hx : ∀ item ∈ items, Fills limit x start (bytes item) (arrive item))
    (hempty : place.get value = []) (hmax : items.length ≤ maxLen) :
    Fills limit (.loop (.elementOrBeyond maxLen place start x) items.length 0) value
      (items.flatMap bytes) (place.put value (items.map arrive)) := by
  have hstart : place.put value [] = value := by
    rw [← hempty]
    exact place.put_get value
  have hloop : Fill.loop (.elementOrBeyond maxLen place start x) items.length 0 =
      .loop (.element maxLen place.get place.put start x) items.length 0 := by
    apply loop_congr
    intro i hi
    unfold Fill.elementOrBeyond
    rw [if_pos (by omega)]
  rw [hloop]
  exact fills_elements_map hx place.get_put place.put_put hstart hmax

/-- What is read for an element behind the end of an array is stored outside of the memory. -/
theorem elementOrBeyond_crash {value : σ} {element : τ} {bytes : List UInt8} {index : ℕ}
    {mem : Memory} {pos : ℕ} (hmax : maxLen ≤ index) (hx : Fills limit x start bytes element)
    (hbytes : 0 < bytes.length) (hholds : Holds mem pos bytes)
    (hlimit : pos + bytes.length ≤ limit) :
    Fill.elementOrBeyond maxLen place start x index mem value pos = .error .fault := by
  have hmoved : pos + bytes.length ≠ pos := by omega
  unfold Fill.elementOrBeyond
  rw [if_neg (Nat.not_lt.mpr hmax)]
  unfold Fill.beyond
  rw [hx mem pos hholds hlimit]
  exact if_neg hmoved

end Arrays

/-! ### What a decoder leaves alone -/

section Keeps

variable {σ τ ρ : Type} {limit : ℕ} {f : σ → ρ} {x y : Fill σ}

/-- However far the decoder gets, this part of the structure stays as it is. -/
def Fill.Keeps (f : σ → ρ) (x : Fill σ) : Prop :=
  ∀ mem value pos went value' last, x mem value pos = .ok (went, value', last) →
    f value' = f value

theorem Fill.Keeps.andThen (hx : x.Keeps f) (hy : y.Keeps f) : (x.andThen y).Keeps f := by
  intro mem value pos went value' last h
  unfold Fill.andThen at h
  rcases hrun : x mem value pos with cause | ⟨first, middle, next⟩
  · rw [hrun] at h
    cases h
  · have hfirst := hx mem value pos first middle next hrun
    rw [hrun] at h
    cases first with
    | true => exact (hy mem middle next went value' last h).trans hfirst
    | false =>
      cases h
      exact hfirst

theorem Fill.Keeps.look {g : σ → Fill σ} (h : ∀ value, (g value).Keeps f) :
    (Fill.look g).Keeps f :=
  fun mem value pos ↦ h value mem value pos

theorem Fill.keeps_component {get : σ → τ} {put : σ → τ → σ} {z : Fill τ}
    (h : ∀ value part, f (put value part) = f value) : (Fill.component get put z).Keeps f := by
  intro mem value pos went value' last hrun
  unfold Fill.component at hrun
  rcases hpart : z mem (get value) pos with cause | ⟨through, part, next⟩
  · rw [hpart] at hrun
    cases hrun
  · rw [hpart] at hrun
    cases hrun
    exact h value part

/-- What is set in a step is another part of the structure. -/
def Step.Keeps (f : σ → ρ) : Step σ → Prop
  | .pull8 set => ∀ value a, f (set value a) = f value
  | .pull16 set => ∀ value a, f (set value a) = f value
  | .pull32 set => ∀ value a, f (set value a) = f value
  | .pullarray8 _ _ set => ∀ value array, f (set value array) = f value
  | .pullarray16 _ _ set => ∀ value array, f (set value array) = f value

theorem Fill.keeps_pull {α : Type} {z : Pull α} {set : σ → α → σ}
    (h : ∀ value a, f (set value a) = f value) : (Fill.pull z set).Keeps f := by
  intro mem value pos went value' last hrun
  unfold Fill.pull Fill.pulled at hrun
  rcases hpull : z mem pos with stop | ⟨a, next⟩
  · rw [hpull] at hrun
    cases stop with
    | reject =>
      cases hrun
      rfl
    | crash cause => cases hrun
  · rw [hpull] at hrun
    cases hrun
    exact h value a

theorem Step.Keeps.fill {step : Step σ} (h : step.Keeps f) : (step.fill limit).Keeps f := by
  cases step with
  | pull8 set => exact Fill.keeps_pull h
  | pull16 set => exact Fill.keeps_pull h
  | pull32 set => exact Fill.keeps_pull h
  | pullarray8 maxLen count set =>
    show (Fill.look fun value ↦ .pull (.pullarray8 maxLen (count value) limit) set).Keeps f
    exact Fill.Keeps.look fun value ↦ Fill.keeps_pull h
  | pullarray16 maxLen count set =>
    show (Fill.look fun value ↦ .pull (.pullarray16 maxLen (count value) limit) set).Keeps f
    exact Fill.Keeps.look fun value ↦ Fill.keeps_pull h

theorem keeps_fillSteps {steps : List (Step σ)} (h : ∀ step ∈ steps, step.Keeps f) :
    (fillSteps limit steps).Keeps f := by
  induction steps with
  | nil =>
    intro mem value pos went value' last hrun
    cases hrun
    rfl
  | cons step steps ih =>
    have hfirst : (step.fill limit).Keeps f := (h step List.mem_cons_self).fill
    exact hfirst.andThen (ih fun other hother ↦ h other (List.mem_cons_of_mem _ hother))

/-- A step ends in no other way than by going on, by stopping, or by a read outside of the
memory. -/
theorem Fill.pull_ends {α : Type} {z : Pull α} [hz : Pull.Orderly z] (set : σ → α → σ)
    (mem : Memory)
    (value : σ) (pos : ℕ) :
    Fill.pull z set mem value pos = .error .fault ∨
      ∃ result, Fill.pull z set mem value pos = .ok result := by
  have hplace := hz.at_place mem pos
  unfold Fill.pull Fill.pulled
  rcases hpull : z mem pos with stop | ⟨a, next⟩
  · rw [Pull.orderlyAt_of_error hpull] at hplace
    cases stop with
    | reject => exact Or.inr ⟨_, rfl⟩
    | crash cause => exact Or.inl (congrArg Except.error hplace)
  · exact Or.inr ⟨_, rfl⟩

theorem Step.fill_ends (step : Step σ) (mem : Memory) (value : σ) (pos : ℕ) :
    step.fill limit mem value pos = .error .fault ∨
      ∃ result, step.fill limit mem value pos = .ok result := by
  cases step with
  | pull8 set => exact Fill.pull_ends set mem value pos
  | pull16 set => exact Fill.pull_ends set mem value pos
  | pull32 set => exact Fill.pull_ends set mem value pos
  | pullarray8 maxLen count set => exact Fill.pull_ends set mem value pos
  | pullarray16 maxLen count set => exact Fill.pull_ends set mem value pos

/-- Steps whose results are not looked at go through, with any bytes, up to a read outside of the
memory. -/
theorem attemptSteps_ends {steps : List (Step σ)} (h : ∀ step ∈ steps, step.Keeps f) (mem : Memory)
    (value : σ) (pos : ℕ) :
    attemptSteps limit steps mem value pos = .error .fault ∨
      ∃ value' last, attemptSteps limit steps mem value pos = .ok (true, value', last) ∧
        f value' = f value := by
  induction steps generalizing value pos with
  | nil => exact Or.inr ⟨value, pos, rfl, rfl⟩
  | cons step steps ih =>
    unfold attemptSteps Fill.andThen Fill.attempt
    rcases step.fill_ends mem value pos with hfault | ⟨⟨went, middle, next⟩, hrun⟩
    · rw [hfault]
      exact Or.inl rfl
    · have hmiddle := (h step List.mem_cons_self).fill mem value pos went middle next hrun
      rw [hrun]
      rcases ih (fun other hother ↦ h other (List.mem_cons_of_mem _ hother)) middle next with
        hfault | ⟨value', last, hrest, hvalue⟩
      · exact Or.inl hfault
      · exact Or.inr ⟨value', last, hrest, hvalue.trans hmiddle⟩

theorem keeps_attemptSteps {steps : List (Step σ)} (h : ∀ step ∈ steps, step.Keeps f) :
    (attemptSteps limit steps).Keeps f := by
  intro mem value pos went value' last hrun
  rcases @attemptSteps_ends _ _ limit f _ h mem value pos with
    hfault | ⟨kept, next, hkept, hvalue⟩
  · cases hfault.symm.trans hrun
  · cases hkept.symm.trans hrun
    exact hvalue

end Keeps

/-! ### Parts with their size -/

/-- Writes over what has been written, if that is below the limit. -/
def patchBelow (limit place : ℕ) (bytes : List UInt8) : Push Unit :=
  if place + bytes.length ≤ limit then patch place bytes else pure ()

/-- A type, a size and a value. In the end the number of bytes that are written takes the place of
the size. -/
def packSized (limit : ℕ) (type size value : Push Unit) : Push Unit := do
  let start ← position
  type
  let place ← position
  size
  value
  let stop ← position
  patchBelow limit place (bytes16 (stop - start).toUInt16)

/-- The bytes of a part. -/
def sizedBytes (type : UInt16) (value : List UInt8) : List UInt8 :=
  bytes16 type ++ (bytes16 (4 + value.length).toUInt16 ++ value)

theorem length_sizedBytes (type : UInt16) (value : List UInt8) :
    (sizedBytes type value).length = 4 + value.length := by
  unfold sizedBytes
  rw [List.length_append, List.length_append, length_bytes16, length_bytes16]
  omega

theorem encodes_packSized {limit : ℕ} {front size value : Push Unit} {type given : UInt16}
    {bytes : List UInt8} (hfront : Encodes limit front (bytes16 type))
    (hsize : Encodes limit size (bytes16 given)) (hvalue : Encodes limit value bytes) :
    Encodes limit (packSized limit front size value) (sizedBytes type bytes) where
  run out hroom := by
    have hposition : ∀ out, position out = (.ok out.length, out) := fun _ ↦ rfl
    rw [length_sizedBytes] at hroom
    have htwo : ∀ word : UInt16, (bytes16 word).length = 2 := length_bytes16
    have hfirst := hfront.run out (by rw [htwo]; omega)
    have hsecond := hsize.run (out ++ bytes16 type) (by
      rw [List.length_append, htwo, htwo]
      omega)
    have hthird := hvalue.run (out ++ bytes16 type ++ bytes16 given) (by
      rw [List.length_append, List.length_append, htwo, htwo]
      omega)
    have hcount : (out ++ bytes16 type ++ bytes16 given ++ bytes).length - out.length =
        4 + bytes.length := by
      rw [List.length_append, List.length_append, List.length_append, htwo, htwo]
      omega
    unfold packSized
    rw [Push.bind_of_ok (hposition out), Push.bind_of_ok hfirst, Push.bind_of_ok (hposition _),
      Push.bind_of_ok hsecond, Push.bind_of_ok hthird, Push.bind_of_ok (hposition _), hcount]
    have hbelow : (out ++ bytes16 type).length + (bytes16 (4 + bytes.length).toUInt16).length ≤
        limit := by
      rw [List.length_append, htwo, htwo]
      omega
    unfold patchBelow
    rw [if_pos hbelow, List.append_assoc _ (bytes16 given) bytes,
      patch_append _ _ _ _ (htwo _ |>.trans (htwo _).symm)]
    unfold sizedBytes
    rw [List.append_assoc]

end MultiUeProxy.Lib.InPlace
