import MultiUeProxy.Lib.Execution
import Mathlib.Data.Nat.Notation
import Mathlib.Tactic.SplitIfs

/-!
# Reading packed messages through a cursor

A `Pull α` reads a value of type `α` from a `Memory` at a cursor and moves the cursor. It can stop
in two ways: `reject` is the error return of a decoder, `crash` is the end of the program. The
numbers are big-endian, and every pull is given the limit it must stay below, as decoders pass an
`end` pointer down: the limit of a nested structure need not be the end of the message, and it may
even lie behind the end of the object that holds it. Reading behind the object is a fault,
whatever the limit says.

`repeatPull` reads a counted array and `tlvLoop` a list of tagged fields into a structure; both
have an induction rule, `repeatPull_length` and `tlvLoop_invariant`. `bind_eq_ok` takes a sequence
of pulls apart.
-/

set_option autoImplicit false
set_option relaxedAutoImplicit false

namespace MultiUeProxy.Lib.ByteCursor

open Execution

/-- An object of `size` bytes. The function is defined everywhere; only the first `size` places
belong to the object. -/
structure Memory where
  byte : ℕ → UInt8
  size : ℕ

/-- The ways in which a pull ends without a value. -/
inductive Stop where
  | reject
  | crash (cause : Crash)
  deriving DecidableEq, Repr

/-- A reader: memory and cursor to value and next cursor. -/
def Pull (α : Type) : Type := Memory → ℕ → Except Stop (α × ℕ)

namespace Pull

variable {α β : Type}

instance : Monad Pull where
  pure a := fun _ pos ↦ .ok (a, pos)
  bind x f := fun mem pos ↦
    match x mem pos with
    | .ok (a, next) => f a mem next
    | .error stop => .error stop

/-- The error return. -/
def reject : Pull α := fun _ _ ↦ .error .reject

/-- The end of the program. -/
def crash (cause : Crash) : Pull α := fun _ _ ↦ .error (.crash cause)

/-- Goes on when the condition holds and rejects otherwise. -/
def ensure (p : Prop) [Decidable p] : Pull Unit := if p then pure () else reject

/-- The C `assert` inside a decoder. -/
def assert (p : Prop) [Decidable p] : Pull Unit := if p then pure () else crash .abort

/-- A pull whose error return is ignored: the place it should have written keeps its value. -/
def attempt (x : Pull α) (previous : α) : Pull α := fun mem pos ↦
  match x mem pos with
  | .error .reject => .ok (previous, pos)
  | result => result

/-- The cursor. -/
def position : Pull ℕ := fun _ pos ↦ .ok (pos, pos)

/-- Moves the cursor. -/
def seek (target : ℕ) : Pull Unit := fun _ _ ↦ .ok ((), target)

/-- Reads one byte, without a check of the limit. -/
def byte : Pull UInt8 := fun mem pos ↦
  if pos < mem.size then .ok (mem.byte pos, pos + 1) else .error (.crash .fault)

/-- The outcome of a decoder: a rejected input is `none`. -/
def run (x : Pull α) (mem : Memory) (pos : ℕ) : Outcome (Option α) :=
  match x mem pos with
  | .ok (a, _) => .ok (some a)
  | .error .reject => .ok none
  | .error (.crash cause) => .error cause

@[simp] theorem pure_apply (a : α) (mem : Memory) (pos : ℕ) :
    (pure a : Pull α) mem pos = .ok (a, pos) := rfl

/-- A sequence of pulls succeeds exactly when its parts do, one after the other. -/
theorem bind_eq_ok {x : Pull α} {f : α → Pull β} {mem : Memory} {pos last : ℕ} {b : β} :
    (x >>= f) mem pos = .ok (b, last) ↔
      ∃ a next, x mem pos = .ok (a, next) ∧ f a mem next = .ok (b, last) := by
  change (match x mem pos with
    | .ok (a, next) => f a mem next
    | .error stop => .error stop) = _ ↔ _
  cases x mem pos with
  | ok result =>
    obtain ⟨a, next⟩ := result
    constructor
    · intro h
      exact ⟨a, next, rfl, h⟩
    · rintro ⟨a', next', h, hf⟩
      cases h
      exact hf
  | error stop => simp

theorem bind_of_ok {x : Pull α} {f : α → Pull β} {mem : Memory} {pos next : ℕ} {a : α}
    (hx : x mem pos = .ok (a, next)) : (x >>= f) mem pos = f a mem next := by
  change (match x mem pos with
    | .ok (a, next) => f a mem next
    | .error stop => .error stop) = _
  rw [hx]

theorem bind_of_error {x : Pull α} {f : α → Pull β} {mem : Memory} {pos : ℕ} {stop : Stop}
    (hx : x mem pos = .error stop) : (x >>= f) mem pos = .error stop := by
  change (match x mem pos with
    | .ok (a, next) => f a mem next
    | .error stop => .error stop) = _
  rw [hx]

theorem map_eq_ok {x : Pull α} {f : α → β} {mem : Memory} {pos last : ℕ} {b : β} :
    (f <$> x) mem pos = .ok (b, last) ↔ ∃ a, x mem pos = .ok (a, last) ∧ f a = b := by
  change (x >>= fun a ↦ pure (f a)) mem pos = _ ↔ _
  rw [bind_eq_ok]
  constructor
  · rintro ⟨a, next, hx, hpure⟩
    cases hpure
    exact ⟨a, hx, rfl⟩
  · rintro ⟨a, hx, rfl⟩
    exact ⟨a, last, hx, rfl⟩

/-- Two results that are made one of the other. -/
theorem map_map {γ : Type} (f : β → γ) (g : α → β) (x : Pull α) :
    f <$> (g <$> x) = (fun a ↦ f (g a)) <$> x := by
  funext mem pos
  show (match (match x mem pos with
    | .ok (a, next) => .ok (g a, next)
    | .error stop => .error stop : Except Stop (β × ℕ)) with
    | .ok (b, next) => .ok (f b, next)
    | .error stop => .error stop : Except Stop (γ × ℕ)) =
      match x mem pos with
      | .ok (a, next) => .ok (f (g a), next)
      | .error stop => .error stop
  cases x mem pos with
  | ok result => rfl
  | error stop => rfl

theorem run_eq_some {x : Pull α} {mem : Memory} {pos : ℕ} {a : α} :
    x.run mem pos = .ok (some a) ↔ ∃ last, x mem pos = .ok (a, last) := by
  unfold run
  cases x mem pos with
  | ok result => obtain ⟨b, last⟩ := result; simp
  | error stop => cases stop <;> simp

@[simp] theorem ensure_of_true {p : Prop} [Decidable p] (h : p) : ensure p = pure () :=
  if_pos h

@[simp] theorem ensure_of_false {p : Prop} [Decidable p] (h : ¬ p) : ensure p = reject :=
  if_neg h

theorem ensure_eq_ok {p : Prop} [Decidable p] {mem : Memory} {pos last : ℕ} {u : Unit} :
    ensure p mem pos = .ok (u, last) ↔ p ∧ last = pos := by
  by_cases h : p
  · simp [h, eq_comm]
  · simp [h, reject]

@[simp] theorem seek_apply (target : ℕ) (mem : Memory) (pos : ℕ) :
    seek target mem pos = .ok ((), target) := rfl

/-! ### Numbers -/

/-- Goes on when `count` bytes are left below the limit and rejects otherwise. -/
def room (count limit : ℕ) : Pull Unit := fun mem pos ↦
  ensure (pos + count ≤ limit) mem pos

def pull8 (limit : ℕ) : Pull UInt8 := do
  room 1 limit
  byte

def pull16 (limit : ℕ) : Pull UInt16 := do
  room 2 limit
  let high ← byte
  let low ← byte
  return (high.toUInt16 <<< 8) ||| low.toUInt16

def pull32 (limit : ℕ) : Pull UInt32 := do
  room 4 limit
  let first ← byte
  let second ← byte
  let third ← byte
  let fourth ← byte
  return (first.toUInt32 <<< 24) ||| (second.toUInt32 <<< 16) ||| (third.toUInt32 <<< 8) |||
    fourth.toUInt32

/-- The big-endian number in the two bytes at a place. -/
def word16 (mem : Memory) (pos : ℕ) : UInt16 :=
  ((mem.byte pos).toUInt16 <<< 8) ||| (mem.byte (pos + 1)).toUInt16

theorem byte_of_room {mem : Memory} {pos : ℕ} (h : pos < mem.size) :
    byte mem pos = .ok (mem.byte pos, pos + 1) := if_pos h

/-- Inside the object and below the limit, a 16-bit pull reads the two bytes at the cursor. -/
theorem pull16_of_room {limit : ℕ} {mem : Memory} {pos : ℕ} (hlimit : pos + 2 ≤ limit)
    (hsize : pos + 2 ≤ mem.size) : pull16 limit mem pos = .ok (word16 mem pos, pos + 2) := by
  have hroom : room 2 limit mem pos = .ok ((), pos) := by simp [room, hlimit]
  rw [pull16, bind_of_ok hroom, bind_of_ok (byte_of_room (by omega)),
    bind_of_ok (byte_of_room (by omega)), pure_apply, word16]

/-- Without room below the limit a 16-bit pull rejects. -/
theorem pull16_of_no_room {limit : ℕ} {mem : Memory} {pos : ℕ} (hlimit : ¬ pos + 2 ≤ limit) :
    pull16 limit mem pos = .error .reject := by
  have hroom : room 2 limit mem pos = .error .reject := by simp [room, hlimit, reject]
  rw [pull16, bind_of_error hroom]

/-- Below the limit but not inside the object, a 16-bit pull is a fault. -/
theorem pull16_of_no_memory {limit : ℕ} {mem : Memory} {pos : ℕ} (hlimit : pos + 2 ≤ limit)
    (hsize : ¬ pos + 2 ≤ mem.size) : pull16 limit mem pos = .error (.crash .fault) := by
  have hroom : room 2 limit mem pos = .ok ((), pos) := by simp [room, hlimit]
  rw [pull16, bind_of_ok hroom]
  by_cases hfirst : pos < mem.size
  · have hsecond : byte mem (pos + 1) = .error (.crash .fault) := if_neg (by omega)
    rw [bind_of_ok (byte_of_room hfirst), bind_of_error hsecond]
  · have hbyte : byte mem pos = .error (.crash .fault) := if_neg hfirst
    rw [bind_of_error hbyte]

/-- A 16-bit pull that succeeds stayed below its limit and read the two bytes at the cursor. -/
theorem pull16_eq_ok {limit : ℕ} {mem : Memory} {pos last : ℕ} {value : UInt16}
    (hpull : pull16 limit mem pos = .ok (value, last)) :
    pos + 2 ≤ limit ∧ value = word16 mem pos ∧ last = pos + 2 := by
  obtain ⟨u, start, hroom, hbytes⟩ := bind_eq_ok.mp hpull
  obtain ⟨hlimit, rfl⟩ := ensure_eq_ok.mp hroom
  obtain ⟨high, next, hhigh, hrest⟩ := bind_eq_ok.mp hbytes
  obtain ⟨low, final, hlow, hvalue⟩ := bind_eq_ok.mp hrest
  by_cases hfirst : start < mem.size
  · rw [byte, if_pos hfirst] at hhigh
    cases hhigh
    by_cases hsecond : start + 1 < mem.size
    · rw [byte, if_pos hsecond] at hlow
      cases hlow
      cases hvalue
      exact ⟨hlimit, rfl, rfl⟩
    · unfold byte at hlow
      rw [if_neg hsecond] at hlow
      cases hlow
  · unfold byte at hhigh
    rw [if_neg hfirst] at hhigh
    cases hhigh

/-- With room below the limit, an attempt at a 16-bit pull is that pull. -/
theorem attempt_pull16_eq_ok {limit : ℕ} {mem : Memory} {pos last : ℕ} {previous value : UInt16}
    (hlimit : pos + 2 ≤ limit)
    (h : attempt (pull16 limit) previous mem pos = .ok (value, last)) :
    value = word16 mem pos ∧ last = pos + 2 := by
  by_cases hsize : pos + 2 ≤ mem.size
  · unfold attempt at h
    rw [pull16_of_room hlimit hsize] at h
    cases h
    exact ⟨rfl, rfl⟩
  · unfold attempt at h
    rw [pull16_of_no_memory hlimit hsize] at h
    cases h

theorem byte_eq_ok {mem : Memory} {pos last : ℕ} {value : UInt8}
    (h : byte mem pos = .ok (value, last)) : last = pos + 1 := by
  rw [byte] at h
  split_ifs at h
  cases h
  rfl

theorem pull32_of_room {limit : ℕ} {mem : Memory} {pos : ℕ} (hlimit : pos + 4 ≤ limit)
    (hsize : pos + 4 ≤ mem.size) : ∃ value, pull32 limit mem pos = .ok (value, pos + 4) := by
  have hroom : room 4 limit mem pos = .ok ((), pos) := by simp [room, hlimit]
  exact ⟨_, by
    unfold pull32
    rw [bind_of_ok hroom, bind_of_ok (byte_of_room (by omega)),
      bind_of_ok (byte_of_room (by omega)), bind_of_ok (byte_of_room (by omega)),
      bind_of_ok (byte_of_room (by omega)), pure_apply]⟩

/-- A 32-bit pull that succeeds stayed below its limit and moved the cursor by four. -/
theorem pull32_eq_ok {limit : ℕ} {mem : Memory} {pos last : ℕ} {value : UInt32}
    (hpull : pull32 limit mem pos = .ok (value, last)) : pos + 4 ≤ limit ∧ last = pos + 4 := by
  obtain ⟨u, start, hroom, hbytes⟩ := bind_eq_ok.mp hpull
  obtain ⟨hlimit, rfl⟩ := ensure_eq_ok.mp hroom
  obtain ⟨first, afterFirst, hfirst, hrest⟩ := bind_eq_ok.mp hbytes
  obtain ⟨second, afterSecond, hsecond, hrest⟩ := bind_eq_ok.mp hrest
  obtain ⟨third, afterThird, hthird, hrest⟩ := bind_eq_ok.mp hrest
  obtain ⟨fourth, afterFourth, hfourth, hvalue⟩ := bind_eq_ok.mp hrest
  cases hvalue
  refine ⟨hlimit, ?_⟩
  rw [byte_eq_ok hfourth, byte_eq_ok hthird, byte_eq_ok hsecond, byte_eq_ok hfirst]

/-! ### Arrays -/

/-- Reads a value `count` times. -/
def repeatPull (element : Pull α) : ℕ → Pull (List α)
  | 0 => pure []
  | count + 1 => do
    let value ← element
    let rest ← repeatPull element count
    return value :: rest

theorem repeatPull_length (element : Pull α) (count : ℕ) {mem : Memory} {pos last : ℕ}
    {values : List α} (hpull : repeatPull element count mem pos = .ok (values, last)) :
    values.length = count := by
  induction count generalizing pos values with
  | zero =>
    cases hpull
    rfl
  | succ count ih =>
    obtain ⟨value, next, -, hrest⟩ := bind_eq_ok.mp hpull
    obtain ⟨rest, final, hpulled, hcons⟩ := bind_eq_ok.mp hrest
    cases hcons
    rw [List.length_cons, ih hpulled]

/-- Reads a value `count` times into an array with room for `capacity` values. What is read for a
place behind the array is read by `outside`, which is to say what the first access to such a place
does. -/
def fillList (element outside : Pull α) : (capacity count : ℕ) → Pull (List α)
  | _, 0 => pure []
  | 0, count + 1 => do
    let value ← outside
    let rest ← fillList element outside 0 count
    return value :: rest
  | capacity + 1, count + 1 => do
    let value ← element
    let rest ← fillList element outside capacity count
    return value :: rest

/-- An array that is large enough is read like a list. -/
theorem fillList_of_le (element outside : Pull α) {capacity count : ℕ} (h : count ≤ capacity) :
    fillList element outside capacity count = repeatPull element count := by
  induction count generalizing capacity with
  | zero => rw [fillList, repeatPull]
  | succ count ih =>
    obtain ⟨capacity, rfl⟩ := Nat.exists_eq_succ_of_ne_zero (by omega : capacity ≠ 0)
    rw [fillList, repeatPull, ih (by omega)]

/-- Reads something for each item of a list. -/
def forEach (f : α → Pull β) : List α → Pull (List β)
  | [] => pure []
  | item :: items => do
    let value ← f item
    let rest ← forEach f items
    return value :: rest

theorem forEach_length (f : α → Pull β) (items : List α) {mem : Memory} {pos last : ℕ}
    {values : List β} (hpull : forEach f items mem pos = .ok (values, last)) :
    values.length = items.length := by
  induction items generalizing pos values with
  | nil =>
    cases hpull
    rfl
  | cons item items ih =>
    obtain ⟨value, next, -, hrest⟩ := bind_eq_ok.mp hpull
    obtain ⟨rest, final, hpulled, hcons⟩ := bind_eq_ok.mp hrest
    cases hcons
    rw [List.length_cons, ih hpulled, List.length_cons]

/-- What holds of everything that is read holds of the list. -/
theorem forEach_forall {f : α → Pull β} {P : β → Prop} {mem : Memory}
    (hf : ∀ item pos value last, f item mem pos = .ok (value, last) → P value) {items : List α}
    {pos last : ℕ} {values : List β} (h : forEach f items mem pos = .ok (values, last)) :
    ∀ value ∈ values, P value := by
  induction items generalizing pos values with
  | nil =>
    cases h
    exact fun value hvalue ↦ absurd hvalue List.not_mem_nil
  | cons item items ih =>
    obtain ⟨value, next, hvalue, hrest⟩ := bind_eq_ok.mp h
    obtain ⟨rest, final, hpulled, hcons⟩ := bind_eq_ok.mp hrest
    cases hcons
    exact List.forall_mem_cons.mpr ⟨hf item pos value next hvalue, ih hpulled⟩

/-- Reads `count` bytes into an array of `maxLen` bytes. The room below the limit is computed
without sign, so that a cursor behind the limit passes the check. -/
def pullarray8 (maxLen count limit : ℕ) : Pull (List UInt8) := do
  if count = 0 then
    return []
  else
    ensure (count ≤ maxLen)
    let pos ← position
    ensure (limit < pos ∨ pos + count ≤ limit)
    repeatPull byte count

theorem pullarray8_length {maxLen count limit : ℕ} {mem : Memory} {pos last : ℕ}
    {bytes : List UInt8} (h : pullarray8 maxLen count limit mem pos = .ok (bytes, last)) :
    bytes.length = count := by
  rw [pullarray8] at h
  split_ifs at h with hzero
  · cases h
    exact hzero.symm
  · obtain ⟨_, next, -, hrest⟩ := bind_eq_ok.mp h
    obtain ⟨start, next, -, hrest⟩ := bind_eq_ok.mp hrest
    obtain ⟨_, next, -, hbytes⟩ := bind_eq_ok.mp hrest
    exact repeatPull_length _ _ hbytes

/-- Reads `count` words of 16 bits into an array of `maxLen` words. -/
def pullarray16 (maxLen count limit : ℕ) : Pull (List UInt16) := do
  if count = 0 then
    return []
  else
    ensure (count ≤ maxLen)
    let pos ← position
    ensure (limit < pos ∨ pos + 2 * count ≤ limit)
    repeatPull (pull16 limit) count

/-- An array after some bytes are written over its beginning. -/
def overwrite (array bytes : List UInt8) : List UInt8 := bytes ++ array.drop bytes.length

@[simp] theorem overwrite_nil (bytes : List UInt8) : overwrite [] bytes = bytes := by
  rw [overwrite, List.drop_nil, List.append_nil]

/-! ### Tagged fields -/

/-- The tag and the length in front of a field. -/
structure Tl where
  tag : UInt16 := 0
  length : UInt16 := 0
  deriving DecidableEq, Repr

/-- Reads tag and length. -/
def unpackTl (limit : ℕ) : Pull Tl := do
  let tag ← pull16 limit
  let length ← pull16 limit
  return { tag, length }

/-- A tag together with the decoder that puts its field into a structure. -/
structure TlvField (σ : Type) where
  tag : UInt16
  unpack : Tl → ℕ → σ → Pull σ

/-- What a list decoder does apart from its fields: the tags it passes over without moving the
cursor, how many unknown tags it tolerates, and whether it then accepts what it has. -/
structure TlvPolicy where
  passesOver : UInt16 → Bool
  maxBadTags : ℕ
  acceptsTooMany : Bool

/-- Reads tagged fields into a structure while the cursor is below the limit. A field with an
unknown tag is skipped by its length. -/
def tlvLoop {σ : Type} (policy : TlvPolicy) (fields : List (TlvField σ)) (limit : ℕ) :
    (bound badTags : ℕ) → σ → Pull σ
  | 0, _, _ => crash .diverge
  | bound + 1, badTags, value => do
    let pos ← position
    if pos < limit then
      let tl ← unpackTl limit
      match fields.find? fun field ↦ field.tag == tl.tag with
      | some field =>
        let value ← field.unpack tl limit value
        tlvLoop policy fields limit bound badTags value
      | none =>
        if policy.passesOver tl.tag then
          tlvLoop policy fields limit bound badTags value
        else if badTags + 1 > policy.maxBadTags then
          if policy.acceptsTooMany then return value else reject
        else
          let start ← position
          ensure (start + tl.length.toNat ≤ limit)
          seek (start + tl.length.toNat)
          tlvLoop policy fields limit bound (badTags + 1) value
    else
      return value

/-- The list decoder from the cursor on. Each field takes at least its tag and its length, which
bounds the number of iterations. -/
def tlvList {σ : Type} (policy : TlvPolicy) (fields : List (TlvField σ)) (limit : ℕ) (value : σ) :
    Pull σ := do
  let pos ← position
  tlvLoop policy fields limit (limit - pos + 1) 0 value

/-- Reads tagged fields while the cursor is below `stop`, with `limit` as the limit of every read.
A field with an unknown tag is not skipped: the next tag is read where its value begins. -/
def tagSwitchLoop {σ : Type} (fields : List (TlvField σ)) (limit stop : ℕ) :
    (bound : ℕ) → σ → Pull σ
  | 0, _ => crash .diverge
  | bound + 1, value => do
    let pos ← position
    if pos < stop then
      let tl ← unpackTl limit
      match fields.find? fun field ↦ field.tag == tl.tag with
      | some field =>
        let value ← field.unpack tl limit value
        tagSwitchLoop fields limit stop bound value
      | none => tagSwitchLoop fields limit stop bound value
    else
      return value

/-- The loop from the cursor on. -/
def tagSwitch {σ : Type} (fields : List (TlvField σ)) (limit stop : ℕ) (value : σ) : Pull σ := do
  let pos ← position
  tagSwitchLoop fields limit stop (stop - pos + 1) value

/-- A property that every field decoder preserves holds of the structure a list decoder
returns. -/
theorem tlvLoop_invariant {σ : Type} (Inv : σ → Prop) (policy : TlvPolicy)
    (fields : List (TlvField σ)) (limit : ℕ)
    (hfields : ∀ field ∈ fields, ∀ tl value mem pos value' last, Inv value →
      field.unpack tl limit value mem pos = .ok (value', last) → Inv value')
    (bound badTags : ℕ) (value : σ) (hvalue : Inv value) {mem : Memory} {pos last : ℕ}
    {value' : σ} (hrun : tlvLoop policy fields limit bound badTags value mem pos =
      .ok (value', last)) : Inv value' := by
  induction bound generalizing badTags value pos with
  | zero => cases hrun
  | succ bound ih =>
    obtain ⟨start, next, hposition, hstep⟩ := bind_eq_ok.mp hrun
    cases hposition
    by_cases hlimit : pos < limit
    · rw [if_pos hlimit] at hstep
      obtain ⟨tl, afterTl, -, hmatch⟩ := bind_eq_ok.mp hstep
      cases hfind : fields.find? fun field ↦ field.tag == tl.tag with
      | some field =>
        simp only [hfind] at hmatch
        obtain ⟨updated, afterField, hunpack, hrest⟩ := bind_eq_ok.mp hmatch
        have hmem := List.mem_of_find?_eq_some hfind
        exact ih badTags updated (hfields field hmem tl value mem _ updated _ hvalue hunpack) hrest
      | none =>
        simp only [hfind] at hmatch
        split_ifs at hmatch with hpass hbad haccept
        · exact ih badTags value hvalue hmatch
        · cases hmatch
          exact hvalue
        · cases hmatch
        · obtain ⟨place, afterPlace, -, hskip⟩ := bind_eq_ok.mp hmatch
          obtain ⟨-, afterRoom, -, hseek⟩ := bind_eq_ok.mp hskip
          obtain ⟨-, afterSeek, -, hrest⟩ := bind_eq_ok.mp hseek
          exact ih (badTags + 1) value hvalue hrest
    · rw [if_neg hlimit] at hstep
      cases hstep
      exact hvalue

theorem tlvList_invariant {σ : Type} (Inv : σ → Prop) (policy : TlvPolicy)
    (fields : List (TlvField σ)) (limit : ℕ)
    (hfields : ∀ field ∈ fields, ∀ tl value mem pos value' last, Inv value →
      field.unpack tl limit value mem pos = .ok (value', last) → Inv value')
    (value : σ) (hvalue : Inv value) {mem : Memory} {pos last : ℕ} {value' : σ}
    (hrun : tlvList policy fields limit value mem pos = .ok (value', last)) : Inv value' := by
  obtain ⟨start, next, hposition, hloop⟩ := bind_eq_ok.mp hrun
  exact tlvLoop_invariant Inv policy fields limit hfields _ _ value hvalue hloop

end Pull

end MultiUeProxy.Lib.ByteCursor
