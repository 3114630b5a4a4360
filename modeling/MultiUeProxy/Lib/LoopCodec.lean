import MultiUeProxy.Lib.InPlace

/-!
# Structures with a list in the middle

Many records have fields, then a list with as many elements as one of the fields says, and then
fields again. The encoder and the decoder of such a list are loops in the function for the record;
the decoder may compare the number with the size of the array before it begins, and leave if there
are too many. `ValueCodec.looped` is the codec of such a record, for the codec of an element.
-/

set_option autoImplicit false
set_option relaxedAutoImplicit false

namespace MultiUeProxy.Lib.InPlace

open Execution ByteCursor ByteWriter Codec

/-- A list in a structure. -/
structure ListPlace (σ τ : Type) where
  get : σ → List τ
  put : σ → List τ → σ
  get_put : ∀ value stored, get (put value stored) = stored
  put_put : ∀ value stored stored', put (put value stored) stored' = put value stored'
  put_get : ∀ value, put value (get value) = value

section Loops

variable {σ τ : Type} {limit maxLen : ℕ} {place : ListPlace σ τ} {start : τ} {x : Fill τ}

/-- A decoder for an element behind the end of an array. What it stores is outside of the memory,
unless it stops before that. -/
def Fill.outside (start : τ) (x : Fill τ) : Fill σ := fun mem value pos ↦
  match x mem start pos with
  | .ok (_, _, last) => if last = pos then .ok (false, value, pos) else .error .fault
  | .error cause => .error cause

/-- The loop over the elements of an array of `maxLen` elements. -/
def Fill.listElements (checked : Bool) (maxLen count : ℕ) (place : ListPlace σ τ) (start : τ)
    (x : Fill τ) : Fill σ :=
  if count ≤ maxLen then .loop (.element maxLen place.get place.put start x) count 0
  else if checked = true then .leave false
  else (Fill.loop (.element maxLen place.get place.put start x) maxLen 0).andThen (.outside start x)

theorem fills_listElements {checked : Bool} {value : σ} {items : List τ} {bytes : τ → List UInt8}
    (hx : ∀ item ∈ items, Fills limit x start (bytes item) item) (hempty : place.get value = [])
    (hmax : items.length ≤ maxLen) :
    Fills limit (.listElements checked maxLen items.length place start x) value
      (items.flatMap bytes) (place.put value items) := by
  have hstart : place.put value [] = value := by
    rw [← hempty]
    exact place.put_get value
  unfold Fill.listElements
  rw [if_pos hmax]
  exact fills_elements hx place.get_put place.put_put hstart hmax

instance : Within limit (.outside start x : Fill σ) where
  within mem value pos went value' last hpos h := by
    unfold Fill.outside at h
    cases hrun : x mem start pos with
    | ok result =>
      obtain ⟨through, element, next⟩ := result
      rw [hrun] at h
      dsimp only at h
      split_ifs at h
      cases h
      exact hpos
    | error cause =>
      rw [hrun] at h
      cases h

instance {checked : Bool} {count : ℕ} [hx : Within limit x] :
    Within limit (.listElements checked maxLen count place start x) := by
  unfold Fill.listElements
  split_ifs
  · infer_instance
  · infer_instance
  · infer_instance

end Loops

section Looped

variable {τ ε : Type}

/-- A record with a list: what is pushed and pulled in front of the list and behind it, the place of
the list, and the number of its elements. -/
structure LoopShape (τ ε : Type) where
  front : τ → List Item
  frontSteps : List (Step τ)
  count : τ → ℕ
  place : ListPlace τ ε
  checked : Bool := true
  maxLen : ℕ
  back : τ → List Item := fun _ ↦ []
  backSteps : List (Step τ) := []

namespace LoopShape

def pack (shape : LoopShape τ ε) (packElement : ℕ → ε → Push Unit) (limit : ℕ) (value : τ) :
    Push Unit := do
  pushItems limit (shape.front value)
  packElements (shape.count value) (packElement limit) (shape.place.get value)
  pushItems limit (shape.back value)

def fill [Inhabited ε] (shape : LoopShape τ ε) (fillElement : ℕ → Fill ε) (limit : ℕ) : Fill τ :=
  (fillSteps limit shape.frontSteps).andThen <|
    (Fill.look fun value ↦ .listElements shape.checked shape.maxLen (shape.count value) shape.place
      default (fillElement limit)).andThen (fillSteps limit shape.backSteps)

/-- What the decoder does with the items of a value gives the value back, if it has as many elements
as it says. -/
def Restores [Inhabited τ] (shape : LoopShape τ ε) (value : τ) : Prop :=
  (shape.place.get value).length = shape.count value ∧ shape.count value ≤ shape.maxLen ∧
    ∃ middle, applySteps shape.frontSteps (shape.front value) default = some middle ∧
      shape.place.get middle = [] ∧ shape.count middle = shape.count value ∧
        applySteps shape.backSteps (shape.back value)
          (shape.place.put middle (shape.place.get value)) = some value

end LoopShape

/-- The codec of a record with a list. -/
def ValueCodec.looped [Inhabited τ] [Inhabited ε] (shape : LoopShape τ ε) (element : ValueCodec ε)
    (Fits : τ → Prop) (hrestores : ∀ value, Fits value → shape.Restores value)
    (helements : ∀ value, Fits value → ∀ item ∈ shape.place.get value, element.Fits item) :
    ValueCodec τ where
  pack := shape.pack element.pack
  fill := shape.fill element.fill
  bytes value := itemsBytes (shape.front value) ++
    ((shape.place.get value).flatMap element.bytes ++ itemsBytes (shape.back value))
  Fits
  Returns value := ∀ item ∈ shape.place.get value, element.Returns item
  written value limit hfits := by
    obtain ⟨hlength, hmax, middle, hfront, -, -, hback⟩ := hrestores value hfits
    have hpackFront := @emits_pushItems limit _ (fits_of_applySteps hfront)
    have hpackBack := @emits_pushItems limit _ (fits_of_applySteps hback)
    have hpackElements := @emits_packElements ε limit _ (element.pack limit) element.bytes _ hlength
      fun item hitem ↦ element.written item limit (helements value hfits item hitem)
    unfold LoopShape.pack
    infer_instance
  restored value limit hfits hreturns := by
    obtain ⟨hlength, hmax, middle, hfront, hempty, hcount, hback⟩ := hrestores value hfits
    have hlist := @fills_listElements τ ε limit shape.maxLen shape.place default
      (element.fill limit) shape.checked middle (shape.place.get value) element.bytes
      (fun item hitem ↦ element.restored item limit (helements value hfits item hitem)
        (hreturns item hitem)) hempty (hlength ▸ hmax)
    rw [hlength, ← hcount] at hlist
    exact (fills_fillSteps hfront).andThen (hlist.look.andThen (fills_fillSteps hback))
  within limit := by
    have := element.within limit
    unfold LoopShape.fill
    infer_instance

end Looped

end MultiUeProxy.Lib.InPlace
