import MultiUeProxy.Lib.Codec

/-!
# Structures that are filled in place

Encoders that are a conjunction of pushes are given by the list of what they push (`Item`). The
decoders that match them fill in a structure field by field, and return whether they went through.
Where a caller ignores what they return, it goes on with the structure and the cursor as far as they
got. A `Fill` therefore has a value in every case but a crash; `toPull` forgets it when the decoder
stopped, and `best` keeps it.

A decoder that is a conjunction of pulls is a list of steps. `applySteps` runs such a list on the
items that were pushed, without memory or cursor, and `fills_fillSteps` says that the decoder does
the same on their bytes: a pair of an encoder and a decoder with matching fields is then right by
computation. `Within` is for what a decoder does with other bytes: it does not go past its limit.
-/

set_option autoImplicit false
set_option relaxedAutoImplicit false

namespace MultiUeProxy.Lib.InPlace

open Execution ByteCursor ByteWriter Codec

/-! ### What is pushed -/

/-- What one call pushes. -/
inductive Item where
  | u8 (value : UInt8)
  | u16 (value : UInt16)
  | u32 (value : UInt32)
  | array8 (array : List UInt8) (maxLen count : ℕ)
  | array16 (array : List UInt16) (maxLen count : ℕ)
  deriving DecidableEq, Repr

namespace Item

def push (limit : ℕ) : Item → Push Unit
  | u8 value => Push.push8 limit value
  | u16 value => Push.push16 limit value
  | u32 value => Push.push32 limit value
  | array8 array maxLen count => Push.pusharray8 array maxLen count limit
  | array16 array maxLen count => Push.pusharray16 array maxLen count limit

/-- The bytes of an item whose array has as many elements as are pushed. -/
def bytes : Item → List UInt8
  | u8 value => [value]
  | u16 value => bytes16 value
  | u32 value => bytes32 value
  | array8 array _ _ => array
  | array16 array _ _ => wordBytes16 array

/-- An array has as many elements as are pushed, and these are not too many. -/
def Fits : Item → Prop
  | array8 array maxLen count => array.length = count ∧ count ≤ maxLen
  | array16 array maxLen count => array.length = count ∧ count ≤ maxLen
  | _ => True

end Item

/-- All pushes, one after the other. -/
def pushItems (limit : ℕ) (items : List Item) : Push Unit := Push.forEach (Item.push limit) items

def itemsBytes (items : List Item) : List UInt8 := items.flatMap Item.bytes

theorem emits_push {limit : ℕ} {item : Item} (h : item.Fits) :
    Emits limit (item.push limit) item.bytes := by
  cases item with
  | u8 value => exact (inferInstance : Emits limit (Push.push8 limit value) [value])
  | u16 value => exact (inferInstance : Emits limit (Push.push16 limit value) (bytes16 value))
  | u32 value => exact (inferInstance : Emits limit (Push.push32 limit value) (bytes32 value))
  | array8 array maxLen count => exact emits_pusharray8 h.1 h.2
  | array16 array maxLen count => exact emits_pusharray16 h.1 h.2

theorem emits_pushItems {limit : ℕ} {items : List Item} (h : ∀ item ∈ items, item.Fits) :
    Emits limit (pushItems limit items) (itemsBytes items) :=
  emits_forEach fun item hitem ↦ emits_push (h item hitem)

/-! ### Filling in -/

/-- A decoder that fills in a structure: whether it went through, and the structure and the cursor
as far as it got. -/
def Fill (σ : Type) : Type := Memory → σ → ℕ → Outcome (Bool × σ × ℕ)

namespace Fill

variable {σ τ α : Type}

def done : Fill σ := fun _ value pos ↦ .ok (true, value, pos)

def crash (cause : Crash) : Fill σ := fun _ _ _ ↦ .error cause

/-- The decoder returns. -/
def leave (went : Bool) : Fill σ := fun _ value pos ↦ .ok (went, value, pos)

/-- Passes over bytes, if these are there. -/
def skip (limit length : ℕ) : Fill σ := fun _ value pos ↦
  if pos + length ≤ limit then .ok (true, value, pos + length) else .ok (false, value, pos)

/-- Something is read, or the decoder stops where it is. -/
def pulled (x : Pull α) (f : α → Fill σ) : Fill σ := fun mem value pos ↦
  match x mem pos with
  | .ok (a, next) => f a mem value next
  | .error .reject => .ok (false, value, pos)
  | .error (.crash cause) => .error cause

/-- Passes over bytes, whether these are there or not. -/
def advance (length : ℕ) : Fill σ := fun _ value pos ↦ .ok (true, value, pos + length)

def modify (f : σ → σ) : Fill σ := fun _ value pos ↦ .ok (true, f value, pos)

/-- Something is read and put into the structure. -/
def pull (x : Pull α) (set : σ → α → σ) : Fill σ := pulled x fun a ↦ modify fun value ↦ set value a

/-- The C `&&`: the second part is done if the first went through. -/
def andThen (x y : Fill σ) : Fill σ := fun mem value pos ↦
  match x mem value pos with
  | .ok (true, value, next) => y mem value next
  | .ok (false, value, next) => .ok (false, value, next)
  | .error cause => .error cause

/-- A decoder that depends on what is filled in so far. -/
def look (f : σ → Fill σ) : Fill σ := fun mem value pos ↦ f value mem value pos

/-- The C `for`, from an index on. -/
def loop (body : ℕ → Fill σ) : (count index : ℕ) → Fill σ
  | 0, _ => done
  | count + 1, index => (body index).andThen (loop body count (index + 1))

/-- A decoder for a component of the structure. -/
def component (get : σ → τ) (put : σ → τ → σ) (x : Fill τ) : Fill σ := fun mem value pos ↦
  match x mem (get value) pos with
  | .ok (went, part, next) => .ok (went, put value part, next)
  | .error cause => .error cause

/-- The decoder of a caller that checks what is returned. -/
def toPull (x : Fill σ) (value : σ) : Pull σ := fun mem pos ↦
  match x mem value pos with
  | .ok (true, value, next) => .ok (value, next)
  | .ok (false, _, _) => .error .reject
  | .error cause => .error (.crash cause)

/-- The decoder of a caller that does not. -/
def best (x : Fill σ) (value : σ) : Pull σ := fun mem pos ↦
  match x mem value pos with
  | .ok (_, value, next) => .ok (value, next)
  | .error cause => .error (.crash cause)

end Fill

/-- The decoder gets over these bytes, and fills in the structure. -/
def Fills {σ : Type} (limit : ℕ) (x : Fill σ) (value : σ) (bytes : List UInt8) (value' : σ) :
    Prop :=
  ∀ mem pos, Holds mem pos bytes → pos + bytes.length ≤ limit →
    x mem value pos = .ok (true, value', pos + bytes.length)

section Fills

variable {σ τ α : Type} {limit : ℕ} {x y : Fill σ} {value value' value'' : σ}
  {bytes front back : List UInt8}

theorem fills_done : Fills limit .done value [] value := fun _ _ _ _ ↦ rfl

theorem fills_modify (f : σ → σ) : Fills limit (.modify f) value [] (f value) := fun _ _ _ _ ↦ rfl

theorem fills_pull {x : Pull α} {a : α} {set : σ → α → σ} (hx : Reads limit x bytes a) :
    Fills limit (.pull x set) value bytes (set value a) := by
  intro mem pos hholds hlimit
  unfold Fill.pull Fill.pulled
  rw [hx mem pos hholds hlimit]
  rfl

theorem Fills.andThen (hx : Fills limit x value front value')
    (hy : Fills limit y value' back value'') :
    Fills limit (x.andThen y) value (front ++ back) value'' := by
  intro mem pos hholds hlimit
  rw [holds_append] at hholds
  rw [List.length_append, ← Nat.add_assoc] at hlimit ⊢
  unfold Fill.andThen
  rw [hx mem pos hholds.1 (Nat.le_of_add_right_le hlimit)]
  exact hy mem _ hholds.2 hlimit

/-- What is filled in is given by the bytes. -/
theorem Fills.unique {x : ℕ → Fill σ} (h : ∀ limit, Fills limit (x limit) value bytes value')
    (h' : ∀ limit, Fills limit (x limit) value bytes value'') : value' = value'' := by
  have hholds : Holds (memoryOf bytes) 0 bytes := by simpa using holds_memoryOf [] bytes []
  have hlimit : 0 + bytes.length ≤ bytes.length := Nat.le_of_eq (Nat.zero_add _)
  have hsame := (h _ _ _ hholds hlimit).symm.trans (h' _ _ _ hholds hlimit)
  exact (Prod.mk.inj (Prod.mk.inj (Except.ok.inj hsame)).2).1

theorem Fills.look {f : σ → Fill σ} (h : Fills limit (f value) value bytes value') :
    Fills limit (.look f) value bytes value' := h

theorem Fills.component {x : Fill τ} {get : σ → τ} {put : σ → τ → σ} {part : τ}
    (h : Fills limit x (get value) bytes part) :
    Fills limit (.component get put x) value bytes (put value part) := by
  intro mem pos hholds hlimit
  unfold Fill.component
  rw [h mem pos hholds hlimit]

theorem reads_toPull (h : Fills limit x value bytes value') :
    Reads limit (x.toPull value) bytes value' := by
  intro mem pos hholds hlimit
  unfold Fill.toPull
  rw [h mem pos hholds hlimit]

theorem toPull_eq_ok {mem : Memory} {pos last : ℕ} :
    x.toPull value mem pos = .ok (value', last) ↔ x mem value pos = .ok (true, value', last) := by
  unfold Fill.toPull
  cases x mem value pos with
  | ok result =>
    obtain ⟨went, filled, next⟩ := result
    cases went with
    | true => simp
    | false => simp
  | error cause => simp

theorem component_crash {x : Fill τ} {get : σ → τ} {put : σ → τ → σ} {mem : Memory} {pos : ℕ}
    {cause : Crash} (h : x mem (get value) pos = .error cause) :
    Fill.component get put x mem value pos = .error cause := by
  unfold Fill.component
  rw [h]

theorem Fills.andThen_crash (hx : Fills limit x value front value') {mem : Memory} {pos : ℕ}
    {cause : Crash} (hholds : Holds mem pos front) (hlimit : pos + front.length ≤ limit)
    (hy : y mem value' (pos + front.length) = .error cause) :
    x.andThen y mem value pos = .error cause := by
  unfold Fill.andThen
  rw [hx mem pos hholds hlimit]
  exact hy

end Fills

/-! ### Elements of an array -/

/-- An array whose elements are written one by one: what is stored last is at the end, and what is
left out on the way there is as it was at the start. -/
def store {τ : Type} (start : τ) (array : List τ) (index : ℕ) (element : τ) : List τ :=
  if index < array.length then array.set index element
  else array ++ List.replicate (index - array.length) start ++ [element]

/-- A decoder for the element with this index of an array. An index that the array does not have is
outside the memory. -/
def Fill.element {σ τ : Type} (maxLen : ℕ) (array : σ → List τ) (put : σ → List τ → σ) (start : τ)
    (x : Fill τ) (index : ℕ) : Fill σ :=
  if index < maxLen then
    .component (fun value ↦ (array value)[index]?.getD start)
      (fun value element ↦ put value (store start (array value) index element)) x
  else .crash .fault

section Elements

variable {σ τ : Type} {limit maxLen : ℕ} {array : σ → List τ} {put : σ → List τ → σ} {start : τ}
  {x : Fill τ}

theorem store_length (array : List τ) (element : τ) :
    store start array array.length element = array ++ [element] := by
  rw [store, if_neg (Nat.lt_irrefl _), Nat.sub_self, List.replicate_zero, List.append_nil]

/-- The next element. -/
theorem fills_element {value : σ} {stored : List τ} {element : τ} {bytes : List UInt8}
    (hx : Fills limit x start bytes element) (harray : array value = stored)
    (hmax : stored.length < maxLen) :
    Fills limit (.element maxLen array put start x stored.length) value bytes
      (put value (stored ++ [element])) := by
  unfold Fill.element
  rw [if_pos hmax]
  have hget : (array value)[stored.length]?.getD start = start := by
    rw [harray, List.getElem?_eq_none (Nat.le_refl _), Option.getD_none]
  have hput : store start (array value) stored.length element = stored ++ [element] := by
    rw [harray, store_length]
  have hcomponent := @Fills.component σ τ limit value bytes x
    (fun value ↦ (array value)[stored.length]?.getD start)
    (fun value element ↦ put value (store start (array value) stored.length element)) element
    (by rw [hget]; exact hx)
  rwa [hput] at hcomponent

/-- All elements of an array, one by one, each as it arrives. -/
theorem fills_elements_map {ι : Type} {value : σ} {items : List ι} {bytes : ι → List UInt8}
    {arrive : ι → τ} (hx : ∀ item ∈ items, Fills limit x start (bytes item) (arrive item))
    (harray : ∀ value stored, array (put value stored) = stored)
    (hput : ∀ value stored stored', put (put value stored) stored' = put value stored')
    (hstart : put value [] = value) (hmax : items.length ≤ maxLen) :
    Fills limit (.loop (.element maxLen array put start x) items.length 0) value
      (items.flatMap bytes) (put value (items.map arrive)) := by
  have hfrom : ∀ (rest : List ι) stored, items.map arrive = stored ++ rest.map arrive →
      (∀ item ∈ rest, item ∈ items) →
      Fills limit (.loop (.element maxLen array put start x) rest.length stored.length)
        (put value stored) (rest.flatMap bytes) (put value (items.map arrive)) := by
    intro rest
    induction rest with
    | nil =>
      intro stored hitems _
      rw [List.map_nil, List.append_nil] at hitems
      rw [hitems]
      exact fills_done
    | cons first rest ih =>
      intro stored hitems hall
      have hlength : stored.length < maxLen := by
        have hsum := congrArg List.length hitems
        rw [List.length_map, List.length_append, List.map_cons, List.length_cons] at hsum
        omega
      have helement := @fills_element σ τ limit maxLen array put start x (put value stored) stored
        (arrive first) (bytes first) (hx first (hall first List.mem_cons_self))
        (harray value stored) hlength
      rw [hput] at helement
      have hrest := ih (stored ++ [arrive first]) (by rw [List.append_assoc]; exact hitems)
        fun item hitem ↦ hall item (List.mem_cons_of_mem _ hitem)
      rw [List.length_append] at hrest
      rw [List.flatMap_cons]
      exact helement.andThen hrest
  have hall := hfrom items [] rfl fun _ hitem ↦ hitem
  rwa [hstart] at hall

/-- All elements of an array, one by one. -/
theorem fills_elements {value : σ} {items : List τ} {bytes : τ → List UInt8}
    (hx : ∀ item ∈ items, Fills limit x start (bytes item) item)
    (harray : ∀ value stored, array (put value stored) = stored)
    (hput : ∀ value stored stored', put (put value stored) stored' = put value stored')
    (hstart : put value [] = value) (hmax : items.length ≤ maxLen) :
    Fills limit (.loop (.element maxLen array put start x) items.length 0) value
      (items.flatMap bytes) (put value items) := by
  have hall := @fills_elements_map σ τ limit maxLen array put start x τ value items bytes id hx
    harray hput hstart hmax
  rwa [List.map_id] at hall

/-! Arrays of structures, as `packarray` and `unpackarray` of a C program go through them. The
address of an element is that of the one before plus the size that the caller gives. -/

/-- Writes the first elements of an array one by one. -/
def packElements (count : ℕ) (pack : τ → Push Unit) (elements : List τ) : Push Unit := do
  Push.forEach pack (elements.take count)
  -- the next element is behind the end of the array
  if elements.length < count then Push.crash .fault else pure ()

/-- Does so if there are not too many. -/
def packArray (maxLen count : ℕ) (pack : τ → Push Unit) (elements : List τ) : Push Unit := do
  Push.ensure (count ≤ maxLen)
  packElements count pack elements

theorem emits_packElements {count : ℕ} {pack : τ → Push Unit} {bytes : τ → List UInt8}
    {elements : List τ} (hcount : elements.length = count)
    (hpack : ∀ element ∈ elements, Emits limit (pack element) (bytes element)) :
    Emits limit (packElements count pack elements) (elements.flatMap bytes) := by
  subst hcount
  have hall : Emits limit (Push.forEach pack elements) (elements.flatMap bytes) :=
    emits_forEach hpack
  unfold packElements
  rw [List.take_length, if_neg (Nat.lt_irrefl _), ← List.append_nil (elements.flatMap bytes)]
  infer_instance

theorem emits_packArray {count : ℕ} {pack : τ → Push Unit} {bytes : τ → List UInt8}
    {elements : List τ} (hcount : elements.length = count) (hmax : count ≤ maxLen)
    (hpack : ∀ element ∈ elements, Emits limit (pack element) (bytes element)) :
    Emits limit (packArray maxLen count pack elements) (elements.flatMap bytes) := by
  unfold packArray
  rw [Push.ensure_bind hmax]
  exact emits_packElements hcount hpack

/-- A decoder for the element that begins this many bytes behind the start of an array whose
elements take `width` bytes. Between two elements there is none. -/
def Fill.elementAt (width maxLen : ℕ) (array : σ → List τ) (put : σ → List τ → σ) (start : τ)
    (x : Fill τ) (offset : ℕ) : Fill σ :=
  if offset % width = 0 then .element maxLen array put start x (offset / width) else .crash .fault

/-- A decoder for the elements of an array, `stride` bytes apart. -/
def Fill.elements (stride width maxLen count : ℕ) (array : σ → List τ) (put : σ → List τ → σ)
    (start : τ) (x : Fill τ) : Fill σ :=
  if count ≤ maxLen then
    .loop (fun index ↦ .elementAt width maxLen array put start x (stride * index)) count 0
  else .leave false

theorem elementAt_width {width : ℕ} (hwidth : 0 < width) (index : ℕ) :
    Fill.elementAt width maxLen array put start x (width * index) =
      .element maxLen array put start x index := by
  rw [Fill.elementAt, if_pos (Nat.mul_mod_right _ _), Nat.mul_div_cancel_left _ hwidth]

/-- An array of which every element is where the next one is looked for, or that has one element at
most. -/
theorem fills_strided {value : σ} {items : List τ} {bytes : τ → List UInt8} {stride width count : ℕ}
    (hwidth : 0 < width) (hstride : stride = width ∨ count ≤ 1) (hcount : items.length = count)
    (hx : ∀ item ∈ items, Fills limit x start (bytes item) item)
    (harray : ∀ value stored, array (put value stored) = stored)
    (hput : ∀ value stored stored', put (put value stored) stored' = put value stored')
    (hstart : put value [] = value) (hmax : count ≤ maxLen) :
    Fills limit (.elements stride width maxLen count array put start x) value
      (items.flatMap bytes) (put value items) := by
  have hloop : Fill.loop (fun index ↦
      Fill.elementAt width maxLen array put start x (stride * index)) count 0 =
      .loop (.element maxLen array put start x) count 0 := by
    rcases hstride with rfl | hone
    · simp only [elementAt_width hwidth]
    · match count, hone with
      | 0, _ => rfl
      | 1, _ =>
        have hzero := @elementAt_width σ τ maxLen array put start x width hwidth 0
        rw [Nat.mul_zero] at hzero
        unfold Fill.loop
        rw [Nat.mul_zero, hzero]
        rfl
  unfold Fill.elements
  rw [if_pos hmax, hloop, ← hcount]
  exact fills_elements hx harray hput hstart (hcount ▸ hmax)

/-- The second element of an array whose elements are looked for elsewhere. -/
theorem elements_crash {value : σ} {first : τ} {bytes : List UInt8}
    {stride width count : ℕ} (hstride : stride % width ≠ 0 ∨ maxLen ≤ stride / width)
    (htwo : 2 ≤ count) (hmax : count ≤ maxLen)
    (hx : Fills limit x start bytes first) (harray : array value = [])
    {mem : Memory} {pos : ℕ} (hholds : Holds mem pos bytes) (hlimit : pos + bytes.length ≤ limit) :
    Fill.elements stride width maxLen count array put start x mem value pos = .error .fault := by
  obtain ⟨rest, rfl⟩ := Nat.exists_eq_add_of_le htwo
  have hfirst : Fills limit (.elementAt width maxLen array put start x (stride * 0)) value bytes
      (put value [first]) := by
    have hpos : ([] : List τ).length < maxLen := by
      rw [List.length_nil]
      omega
    rw [Nat.mul_zero, Fill.elementAt, if_pos (Nat.zero_mod _), Nat.zero_div]
    exact fills_element hx harray hpos
  have hsecond : Fill.elementAt width maxLen array put start x (stride * 1) = .crash .fault := by
    rw [Nat.mul_one, Fill.elementAt]
    by_cases hmod : stride % width = 0
    · rw [if_pos hmod, Fill.element, if_neg (by omega)]
    · rw [if_neg hmod]
  have hsucc : 2 + rest = (rest + 1) + 1 := by omega
  unfold Fill.elements
  rw [if_pos hmax, hsucc]
  unfold Fill.loop
  rw [Fill.andThen, hfirst mem pos hholds hlimit]
  dsimp only
  unfold Fill.loop
  rw [hsecond]
  rfl

end Elements

/-! ### Steps -/

/-- A step of a decoder that is a conjunction of pulls. The number of elements of an array may be
filled in before. -/
inductive Step (σ : Type) where
  | pull8 (set : σ → UInt8 → σ)
  | pull16 (set : σ → UInt16 → σ)
  | pull32 (set : σ → UInt32 → σ)
  | pullarray8 (maxLen : ℕ) (count : σ → ℕ) (set : σ → List UInt8 → σ)
  | pullarray16 (maxLen : ℕ) (count : σ → ℕ) (set : σ → List UInt16 → σ)

section Steps

variable {σ : Type} {limit : ℕ} {step : Step σ} {steps : List (Step σ)} {item : Item}
  {items : List Item} {value value' : σ}

def Step.fill (limit : ℕ) : Step σ → Fill σ
  | pull8 set => .pull (.pull8 limit) set
  | pull16 set => .pull (.pull16 limit) set
  | pull32 set => .pull (.pull32 limit) set
  | pullarray8 maxLen count set =>
    .look fun value ↦ .pull (.pullarray8 maxLen (count value) limit) set
  | pullarray16 maxLen count set =>
    .look fun value ↦ .pull (.pullarray16 maxLen (count value) limit) set

/-- The conjunction of the steps. -/
def fillSteps (limit : ℕ) : List (Step σ) → Fill σ
  | [] => .done
  | step :: steps => (step.fill limit).andThen (fillSteps limit steps)

/-- A step with the item that it finds. Both sides have to agree on the number of elements. -/
def Step.apply : Step σ → Item → σ → Option σ
  | pull8 set, .u8 a, value => some (set value a)
  | pull16 set, .u16 a, value => some (set value a)
  | pull32 set, .u32 a, value => some (set value a)
  | pullarray8 maxLen count set, .array8 array maxLen' count', value =>
    if array.length = count value ∧ count value ≤ maxLen ∧ array.length = count' ∧
      count' ≤ maxLen' then some (set value array) else none
  | pullarray16 maxLen count set, .array16 array maxLen' count', value =>
    if array.length = count value ∧ count value ≤ maxLen ∧ array.length = count' ∧
      count' ≤ maxLen' then some (set value array) else none
  | _, _, _ => none

/-- The steps with the items that they find. -/
def applySteps : List (Step σ) → List Item → σ → Option σ
  | [], [], value => some value
  | step :: steps, item :: items, value => do
    let value ← step.apply item value
    applySteps steps items value
  | _, _, _ => none

theorem fills_step (h : step.apply item value = some value') :
    Fills limit (step.fill limit) value item.bytes value' := by
  cases step with
  | pull8 set =>
    cases item with
    | u8 a =>
      cases h
      exact fills_pull (reads_pull8 limit a)
    | _ => cases h
  | pull16 set =>
    cases item with
    | u16 a =>
      cases h
      exact fills_pull (reads_pull16 limit a)
    | _ => cases h
  | pull32 set =>
    cases item with
    | u32 a =>
      cases h
      exact fills_pull (reads_pull32 limit a)
    | _ => cases h
  | pullarray8 maxLen count set =>
    cases item with
    | array8 array maxLen' count' =>
      simp only [Step.apply] at h
      split_ifs at h with hfits
      cases h
      exact (fills_pull (reads_pullarray8 hfits.1 hfits.2.1)).look
    | _ => cases h
  | pullarray16 maxLen count set =>
    cases item with
    | array16 array maxLen' count' =>
      simp only [Step.apply] at h
      split_ifs at h with hfits
      cases h
      exact (fills_pull (reads_pullarray16 hfits.1 hfits.2.1)).look
    | _ => cases h

theorem fits_of_apply (h : step.apply item value = some value') : item.Fits := by
  cases item with
  | array8 array maxLen count =>
    cases step with
    | pullarray8 maxLen' count' set =>
      simp only [Step.apply] at h
      split_ifs at h with hfits
      exact hfits.2.2
    | _ => cases h
  | array16 array maxLen count =>
    cases step with
    | pullarray16 maxLen' count' set =>
      simp only [Step.apply] at h
      split_ifs at h with hfits
      exact hfits.2.2
    | _ => cases h
  | _ => trivial

/-- Items that the steps find can be pushed. -/
theorem fits_of_applySteps (h : applySteps steps items value = some value') :
    ∀ item ∈ items, item.Fits := by
  induction steps generalizing items value with
  | nil =>
    cases items with
    | nil => exact fun item hitem ↦ absurd hitem List.not_mem_nil
    | cons item items => cases h
  | cons step steps ih =>
    cases items with
    | nil => cases h
    | cons first items =>
      unfold applySteps at h
      obtain ⟨middle, hstep, hrest⟩ := Option.bind_eq_some_iff.mp h
      intro item hitem
      rcases List.mem_cons.mp hitem with rfl | hitem
      · exact fits_of_apply hstep
      · exact ih hrest item hitem

/-- What the steps do with the items, the decoder does on their bytes. -/
theorem fills_fillSteps (h : applySteps steps items value = some value') :
    Fills limit (fillSteps limit steps) value (itemsBytes items) value' := by
  induction steps generalizing items value with
  | nil =>
    cases items with
    | nil =>
      cases h
      exact fills_done
    | cons item items => cases h
  | cons step steps ih =>
    cases items with
    | nil => cases h
    | cons item items =>
      unfold applySteps at h
      obtain ⟨middle, hstep, hrest⟩ := Option.bind_eq_some_iff.mp h
      exact (fills_step hstep).andThen (ih hrest)

end Steps

/-! ### Decoders that stay within their limit -/

/-- From below the limit on, the decoder does not get past it. -/
class Within {σ : Type} (limit : ℕ) (x : Fill σ) : Prop where
  within : ∀ mem value pos went value' last, pos ≤ limit →
    x mem value pos = .ok (went, value', last) → last ≤ limit

section Within

variable {σ τ : Type} {limit : ℕ} {x y : Fill σ}

instance : Within limit (.done : Fill σ) where
  within mem value pos went value' last hpos h := by
    cases h
    exact hpos

instance {cause : Crash} : Within limit (.crash cause : Fill σ) where
  within mem value pos went value' last hpos h := by cases h

instance {went : Bool} : Within limit (.leave went : Fill σ) where
  within mem value pos went value' last hpos h := by
    cases h
    exact hpos

instance {length : ℕ} : Within limit (.skip limit length : Fill σ) where
  within mem value pos went value' last hpos h := by
    unfold Fill.skip at h
    split_ifs at h with hroom
    · cases h
      exact hroom
    · cases h
      exact hpos

instance {f : σ → σ} : Within limit (.modify f) where
  within mem value pos went value' last hpos h := by
    cases h
    exact hpos

theorem within_pulled {α : Type} {x : Pull α} {f : α → Fill σ}
    (hx : ∀ mem pos a last, pos ≤ limit → x mem pos = .ok (a, last) → last ≤ limit)
    (hf : ∀ a, Within limit (f a)) : Within limit (.pulled x f) where
  within mem value pos went value' last hpos h := by
    unfold Fill.pulled at h
    cases hread : x mem pos with
    | ok result =>
      obtain ⟨a, next⟩ := result
      rw [hread] at h
      exact (hf a).within mem value next went value' last (hx mem pos a next hpos hread) h
    | error stop =>
      rw [hread] at h
      cases stop with
      | reject =>
        cases h
        exact hpos
      | crash cause => cases h

instance [hx : Within limit x] [hy : Within limit y] : Within limit (x.andThen y) where
  within mem value pos went value' last hpos h := by
    unfold Fill.andThen at h
    cases hfirst : x mem value pos with
    | ok result =>
      obtain ⟨through, middle, next⟩ := result
      rw [hfirst] at h
      have hnext := hx.within mem value pos through middle next hpos hfirst
      cases through with
      | true => exact hy.within mem middle next went value' last hnext h
      | false =>
        cases h
        exact hnext
    | error cause =>
      rw [hfirst] at h
      cases h

instance {f : σ → Fill σ} [hf : ∀ value, Within limit (f value)] : Within limit (.look f) where
  within mem value pos went value' last hpos h :=
    (hf value).within mem value pos went value' last hpos h

instance {body : ℕ → Fill σ} [hbody : ∀ index, Within limit (body index)] {count index : ℕ} :
    Within limit (.loop body count index) := by
  induction count generalizing index with
  | zero => exact (inferInstance : Within limit (.done : Fill σ))
  | succ count ih =>
    unfold Fill.loop
    infer_instance

instance {get : σ → τ} {put : σ → τ → σ} {x : Fill τ} [hx : Within limit x] :
    Within limit (.component get put x) where
  within mem value pos went value' last hpos h := by
    unfold Fill.component at h
    cases hpart : x mem (get value) pos with
    | ok result =>
      obtain ⟨through, part, next⟩ := result
      rw [hpart] at h
      cases h
      exact hx.within mem (get value) pos _ part last hpos hpart
    | error cause =>
      rw [hpart] at h
      cases h

instance {maxLen : ℕ} {array : σ → List τ} {put : σ → List τ → σ} {start : τ} {x : Fill τ}
    [hx : Within limit x] {index : ℕ} : Within limit (.element maxLen array put start x index) := by
  unfold Fill.element
  split_ifs
  · infer_instance
  · infer_instance

instance {width maxLen : ℕ} {array : σ → List τ} {put : σ → List τ → σ} {start : τ} {x : Fill τ}
    [hx : Within limit x] {offset : ℕ} :
    Within limit (.elementAt width maxLen array put start x offset) := by
  unfold Fill.elementAt
  split_ifs
  · infer_instance
  · infer_instance

instance {stride width maxLen count : ℕ} {array : σ → List τ} {put : σ → List τ → σ} {start : τ}
    {x : Fill τ} [hx : Within limit x] :
    Within limit (.elements stride width maxLen count array put start x) := by
  unfold Fill.elements
  split_ifs
  · infer_instance
  · infer_instance

/-! The elementary pulls. -/

theorem room_eq_ok {count : ℕ} {mem : Memory} {pos last : ℕ} {u : Unit} :
    Pull.room count limit mem pos = .ok (u, last) ↔ pos + count ≤ limit ∧ last = pos :=
  Pull.ensure_eq_ok

theorem pull8_le {mem : Memory} {pos last : ℕ} {a : UInt8}
    (h : Pull.pull8 limit mem pos = .ok (a, last)) : last ≤ limit := by
  obtain ⟨_, next, hroom, hbyte⟩ := Pull.bind_eq_ok.mp h
  obtain ⟨hlimit, rfl⟩ := room_eq_ok.mp hroom
  obtain ⟨-, -, rfl⟩ := Pull.byte_eq_ok hbyte
  exact hlimit

theorem pull16_le {mem : Memory} {pos last : ℕ} {a : UInt16}
    (h : Pull.pull16 limit mem pos = .ok (a, last)) : last ≤ limit := by
  obtain ⟨hlimit, -, rfl⟩ := Pull.pull16_eq_ok h
  exact hlimit

theorem pull32_le {mem : Memory} {pos last : ℕ} {a : UInt32}
    (h : Pull.pull32 limit mem pos = .ok (a, last)) : last ≤ limit := by
  obtain ⟨hlimit, -, rfl⟩ := Pull.pull32_eq_ok h
  exact hlimit

/-- Elements of a fixed size. -/
theorem repeatPull_last {α : Type} {element : Pull α} {size : ℕ}
    (helement : ∀ mem pos a last, element mem pos = .ok (a, last) → last = pos + size)
    (count : ℕ) {mem : Memory} {pos last : ℕ} {items : List α}
    (h : Pull.repeatPull element count mem pos = .ok (items, last)) :
    last = pos + size * count := by
  induction count generalizing pos items with
  | zero =>
    cases h
    rfl
  | succ count ih =>
    obtain ⟨first, next, hfirst, hrest⟩ := Pull.bind_eq_ok.mp h
    obtain ⟨rest, last', hrepeat, hpure⟩ := Pull.bind_eq_ok.mp hrest
    cases hpure
    rw [ih hrepeat, helement mem pos first next hfirst, Nat.mul_succ]
    omega

theorem pullarray8_le {maxLen count : ℕ} {mem : Memory} {pos last : ℕ} {array : List UInt8}
    (hpos : pos ≤ limit) (h : Pull.pullarray8 maxLen count limit mem pos = .ok (array, last)) :
    last ≤ limit := by
  unfold Pull.pullarray8 at h
  split_ifs at h with hzero
  · cases h
    exact hpos
  · obtain ⟨_, next, hmax, hrest⟩ := Pull.bind_eq_ok.mp h
    obtain ⟨-, rfl⟩ := Pull.ensure_eq_ok.mp hmax
    obtain ⟨start, _, hposition, hchecked⟩ := Pull.bind_eq_ok.mp hrest
    cases hposition
    obtain ⟨_, _, hroom, helements⟩ := Pull.bind_eq_ok.mp hchecked
    obtain ⟨hlimit, rfl⟩ := Pull.ensure_eq_ok.mp hroom
    have hlast := repeatPull_last (fun mem pos a last hbyte ↦ Pull.byte_eq_ok hbyte) count
      helements
    omega

theorem pullarray16_le {maxLen count : ℕ} {mem : Memory} {pos last : ℕ} {array : List UInt16}
    (hpos : pos ≤ limit) (h : Pull.pullarray16 maxLen count limit mem pos = .ok (array, last)) :
    last ≤ limit := by
  unfold Pull.pullarray16 at h
  split_ifs at h with hzero
  · cases h
    exact hpos
  · obtain ⟨_, next, hmax, hrest⟩ := Pull.bind_eq_ok.mp h
    obtain ⟨-, rfl⟩ := Pull.ensure_eq_ok.mp hmax
    obtain ⟨start, _, hposition, hchecked⟩ := Pull.bind_eq_ok.mp hrest
    cases hposition
    obtain ⟨_, _, hroom, helements⟩ := Pull.bind_eq_ok.mp hchecked
    obtain ⟨hlimit, rfl⟩ := Pull.ensure_eq_ok.mp hroom
    have hlast := repeatPull_last (fun mem pos a last hword ↦ (Pull.pull16_eq_ok hword).2.2) count
      helements
    omega

theorem within_pull {α : Type} {x : Pull α} {set : σ → α → σ}
    (hx : ∀ mem pos a last, pos ≤ limit → x mem pos = .ok (a, last) → last ≤ limit) :
    Within limit (.pull x set) :=
  within_pulled hx fun _ ↦ inferInstance

instance {step : Step σ} : Within limit (step.fill limit) := by
  cases step with
  | pull8 set => exact within_pull fun _ _ _ _ _ ↦ pull8_le
  | pull16 set => exact within_pull fun _ _ _ _ _ ↦ pull16_le
  | pull32 set => exact within_pull fun _ _ _ _ _ ↦ pull32_le
  | pullarray8 maxLen count set =>
    have hpull (value : σ) :
        Within limit (.pull (.pullarray8 maxLen (count value) limit) set) :=
      within_pull fun _ _ _ _ ↦ pullarray8_le
    unfold Step.fill
    infer_instance
  | pullarray16 maxLen count set =>
    have hpull (value : σ) :
        Within limit (.pull (.pullarray16 maxLen (count value) limit) set) :=
      within_pull fun _ _ _ _ ↦ pullarray16_le
    unfold Step.fill
    infer_instance

instance {steps : List (Step σ)} : Within limit (fillSteps limit steps) := by
  induction steps with
  | nil => exact (inferInstance : Within limit (.done : Fill σ))
  | cons step steps ih =>
    unfold fillSteps
    infer_instance

end Within

/-! ### Encoders with their decoders -/

/-- The encoder of a value with the decoder that fills it in where nothing is yet. They write and
read `bytes`: for the values that fit, and if these are among those that return. The decoder stays
within its limit whatever it reads. -/
structure ValueCodec (α : Type) [Inhabited α] where
  pack : ℕ → α → Push Unit
  fill : ℕ → Fill α
  bytes : α → List UInt8
  Fits : α → Prop := fun _ ↦ True
  Returns : α → Prop := fun _ ↦ True
  written : ∀ value limit, Fits value → Emits limit (pack limit value) (bytes value)
  restored : ∀ value limit, Fits value → Returns value →
    Fills limit (fill limit) default (bytes value) value
  within : ∀ limit, Within limit (fill limit)

/-- The encoder pushes items, and the decoder pulls them. -/
def ValueCodec.ofItems {α : Type} [Inhabited α] (pack : α → List Item) (steps : List (Step α))
    (Fits : α → Prop) (h : ∀ value, Fits value → applySteps steps (pack value) default =
      some value) : ValueCodec α where
  pack limit value := pushItems limit (pack value)
  fill limit := fillSteps limit steps
  bytes value := itemsBytes (pack value)
  Fits
  written value _ hfits := emits_pushItems (fits_of_applySteps (h value hfits))
  restored value _ hfits _ := fills_fillSteps (h value hfits)
  within _ := inferInstance

/-- An array together with the number of its elements. -/
structure Counted (α : Type) where
  number : UInt16 := 0
  items : List α := []
  deriving DecidableEq, Repr

instance {α : Type} : Inhabited (Counted α) := ⟨{}⟩

section Counted

variable {α : Type} [Inhabited α]

def Counted.Fits (Item : α → Prop) (maxLen : ℕ) (value : Counted α) : Prop :=
  value.items.length = value.number.toNat ∧ value.number.toNat ≤ maxLen ∧
    ∀ item ∈ value.items, Item item

/-- The number of elements and then the elements, which the decoder looks for `stride` bytes
apart. -/
def ValueCodec.counted (codec : ValueCodec α) (maxLen stride width : ℕ) (hwidth : 0 < width) :
    ValueCodec (Counted α) where
  pack limit value := do
    Push.push16 limit value.number
    packArray maxLen value.number.toNat (codec.pack limit) value.items
  fill limit := (Fill.pull (.pull16 limit) fun value number ↦ { value with number }).andThen
    (.look fun value ↦ .elements stride width maxLen value.number.toNat Counted.items
      (fun value items ↦ { value with items }) default (codec.fill limit))
  bytes value := bytes16 value.number ++ value.items.flatMap codec.bytes
  Fits := Counted.Fits codec.Fits maxLen
  Returns value := (stride = width ∨ value.number.toNat ≤ 1) ∧
    ∀ item ∈ value.items, codec.Returns item
  written value limit hfits := by
    have hitems := @emits_packArray α limit maxLen _ (codec.pack limit) codec.bytes value.items
      hfits.1 hfits.2.1 fun item hitem ↦ codec.written item limit (hfits.2.2 item hitem)
    infer_instance
  restored value limit hfits hreturns := by
    apply (fills_pull (reads_pull16 limit value.number)).andThen
    apply Fills.look
    exact fills_strided hwidth hreturns.1 hfits.1
      (fun item hitem ↦ codec.restored item limit (hfits.2.2 item hitem) (hreturns.2 item hitem))
      (fun _ _ ↦ rfl) (fun _ _ _ ↦ rfl) rfl hfits.2.1
  within limit := by
    have hcodec := codec.within limit
    have hnumber : Within limit (Fill.pull (.pull16 limit)
        fun (value : Counted α) number ↦ { value with number }) :=
      within_pull fun _ _ _ _ _ ↦ pull16_le
    infer_instance

/-- With a size that is not that of an element, the decoder stores the second element outside of the
array. -/
theorem counted_crash {codec : ValueCodec α} {maxLen stride width : ℕ} (hwidth : 0 < width)
    {value : Counted α} (hstride : stride % width ≠ 0 ∨ maxLen ≤ stride / width)
    (hfits : Counted.Fits codec.Fits maxLen value) (htwo : 2 ≤ value.number.toNat)
    (hreturns : ∀ item ∈ value.items, codec.Returns item) {limit : ℕ} {mem : Memory} {pos : ℕ}
    (hholds : Holds mem pos ((codec.counted maxLen stride width hwidth).bytes value))
    (hlimit : pos + ((codec.counted maxLen stride width hwidth).bytes value).length ≤ limit) :
    (codec.counted maxLen stride width hwidth).fill limit mem default pos = .error .fault := by
  obtain ⟨hlength, hmax, hitems⟩ := hfits
  cases hsplit : value.items with
  | nil =>
    rw [hsplit, List.length_nil] at hlength
    omega
  | cons first rest =>
    have hfirst : first ∈ value.items := hsplit ▸ List.mem_cons_self
    change Holds mem pos (bytes16 value.number ++ value.items.flatMap codec.bytes) at hholds
    change pos + (bytes16 value.number ++ value.items.flatMap codec.bytes).length ≤ limit at hlimit
    rw [hsplit, List.flatMap_cons, holds_append, holds_append] at hholds
    rw [hsplit, List.flatMap_cons, List.length_append, List.length_append] at hlimit
    apply (fills_pull (reads_pull16 limit value.number)).andThen_crash hholds.1 (by omega)
    exact elements_crash hstride htwo hmax
      (codec.restored first limit (hitems first hfirst) (hreturns first hfirst)) rfl hholds.2.1
      (by omega)

end Counted

end MultiUeProxy.Lib.InPlace
