import MultiUeProxy.Lib.ByteCursor

/-!
# Writing packed messages, and reading back what was written

A `Push` appends to the bytes that have been written so far and is the counterpart of a `Pull`. It
stops in the same two ways: `reject` is the error return of an encoder, `crash` is the end of the
program. Every push is given the size of the buffer as its limit, so that an encoder never writes
behind it. An encoder that is stopped leaves what it has written: a caller that does not look at
the error goes on from there.

Two relations carry the proofs about codecs. `Writes limit x bytes` says that an encoder appends
exactly these bytes, or rejects when they do not fit; `Reads limit x bytes a` says that a decoder
which finds these bytes at its cursor returns `a` and stops behind them. Both are closed under
sequencing, with the bytes of the parts one after the other, so that a round trip is proved field
by field.
-/

set_option autoImplicit false
set_option relaxedAutoImplicit false

namespace MultiUeProxy.Lib.ByteWriter

open Execution ByteCursor

/-- A writer: what is written so far to a value, or a way to stop, and what is written then. -/
def Push (α : Type) : Type := List UInt8 → Except Stop α × List UInt8

namespace Push

variable {α β : Type}

instance : Monad Push where
  pure a := fun out ↦ (.ok a, out)
  bind x f := fun out ↦
    match x out with
    | (.ok a, next) => f a next
    | (.error stop, next) => (.error stop, next)

/-- The error return. -/
def reject : Push α := fun out ↦ (.error .reject, out)

/-- The end of the program. -/
def crash (cause : Crash) : Push α := fun out ↦ (.error (.crash cause), out)

/-- Goes on when the condition holds and rejects otherwise. -/
def ensure (p : Prop) [Decidable p] : Push Unit := if p then pure () else reject

/-- An encoder whose error return is ignored. -/
def attempt (x : Push Unit) : Push Unit := fun out ↦
  match x out with
  | (.error .reject, next) => (.ok (), next)
  | result => result

/-- The number of bytes that have been written. -/
def position : Push ℕ := fun out ↦ (.ok out.length, out)

/-- Appends bytes if they fit below the limit. -/
def pushBytes (limit : ℕ) (bytes : List UInt8) : Push Unit := fun out ↦
  if out.length + bytes.length ≤ limit then (.ok (), out ++ bytes) else (.error .reject, out)

/-- Writes over bytes that have been written before. -/
def patch (place : ℕ) (bytes : List UInt8) : Push Unit := fun out ↦
  (.ok (), out.take place ++ bytes ++ out.drop (place + bytes.length))

/-- Writes something for each item of a list. -/
def forEach (f : α → Push Unit) : List α → Push Unit
  | [] => pure ()
  | item :: items => do
    f item
    forEach f items

@[simp] theorem pure_apply (a : α) (out : List UInt8) : (pure a : Push α) out = (.ok a, out) := rfl

theorem bind_apply (x : Push α) (f : α → Push β) (out : List UInt8) :
    (x >>= f) out = match x out with
      | (.ok a, next) => f a next
      | (.error stop, next) => (.error stop, next) := rfl

theorem bind_of_ok {x : Push α} {f : α → Push β} {out next : List UInt8} {a : α}
    (hx : x out = (.ok a, next)) : (x >>= f) out = f a next := by
  rw [bind_apply, hx]

theorem bind_of_error {x : Push α} {f : α → Push β} {out next : List UInt8} {stop : Stop}
    (hx : x out = (.error stop, next)) : (x >>= f) out = (.error stop, next) := by
  rw [bind_apply, hx]

/-- A sequence of encoders succeeds exactly when its parts do, one after the other. -/
theorem bind_eq_ok {x : Push α} {f : α → Push β} {out last : List UInt8} {b : β} :
    (x >>= f) out = (.ok b, last) ↔
      ∃ a next, x out = (.ok a, next) ∧ f a next = (.ok b, last) := by
  constructor
  · intro h
    rcases hx : x out with ⟨result, next⟩
    cases result with
    | ok a =>
      rw [bind_of_ok hx] at h
      exact ⟨a, next, rfl, h⟩
    | error stop =>
      rw [bind_of_error hx] at h
      cases h
  · rintro ⟨a, next, hx, hf⟩
    rw [bind_of_ok hx, hf]

/-- A check that holds is passed. -/
theorem ensure_bind {p : Prop} [Decidable p] {f : Unit → Push α} (hp : p) :
    (ensure p >>= f) = f () := by
  rw [ensure, if_pos hp]
  rfl

theorem attempt_of_ok {x : Push Unit} {out next : List UInt8} (hx : x out = (.ok (), next)) :
    attempt x out = (.ok (), next) := by
  rw [attempt, hx]

theorem attempt_of_reject {x : Push Unit} {out next : List UInt8}
    (hx : x out = (.error .reject, next)) : attempt x out = (.ok (), next) := by
  rw [attempt, hx]

theorem pushBytes_of_room {limit : ℕ} {bytes out : List UInt8}
    (h : out.length + bytes.length ≤ limit) : pushBytes limit bytes out = (.ok (), out ++ bytes) :=
  if_pos h

theorem pushBytes_of_no_room {limit : ℕ} {bytes out : List UInt8}
    (h : ¬ out.length + bytes.length ≤ limit) :
    pushBytes limit bytes out = (.error .reject, out) :=
  if_neg h

/-- A push that succeeds had room for its bytes. -/
theorem pushBytes_eq_ok {limit : ℕ} {bytes out next : List UInt8} {u : Unit}
    (h : pushBytes limit bytes out = (.ok u, next)) :
    out.length + bytes.length ≤ limit ∧ next = out ++ bytes := by
  by_cases hroom : out.length + bytes.length ≤ limit
  · rw [pushBytes_of_room hroom] at h
    exact ⟨hroom, (Prod.mk.inj h).2.symm⟩
  · rw [pushBytes_of_no_room hroom] at h
    cases h

end Push

/-! ### Numbers -/

/-- A 16-bit number in network order. -/
def bytes16 (value : UInt16) : List UInt8 := [(value >>> 8).toUInt8, value.toUInt8]

/-- A 32-bit number in network order. -/
def bytes32 (value : UInt32) : List UInt8 :=
  [(value >>> 24).toUInt8, (value >>> 16).toUInt8, (value >>> 8).toUInt8, value.toUInt8]

@[simp] theorem length_bytes16 (value : UInt16) : (bytes16 value).length = 2 := rfl

@[simp] theorem length_bytes32 (value : UInt32) : (bytes32 value).length = 4 := rfl

namespace Push

def push8 (limit : ℕ) (value : UInt8) : Push Unit := pushBytes limit [value]

def push16 (limit : ℕ) (value : UInt16) : Push Unit := pushBytes limit (bytes16 value)

def push32 (limit : ℕ) (value : UInt32) : Push Unit := pushBytes limit (bytes32 value)

/-- Appends the first `count` bytes of an array. The check for room comes before the access. -/
def pusharray8 (array : List UInt8) (maxLen count limit : ℕ) : Push Unit := do
  if count = 0 then
    pure ()
  else
    ensure (count ≤ maxLen)
    let start ← position
    ensure (start + count ≤ limit)
    if array.length < count then crash .fault else pushBytes limit (array.take count)

/-- Appends the first `count` words of an array of 16-bit words. -/
def pusharray16 (array : List UInt16) (maxLen count limit : ℕ) : Push Unit := do
  if count = 0 then
    pure ()
  else
    ensure (count ≤ maxLen)
    let start ← position
    ensure (start + 2 * count ≤ limit)
    forEach (push16 limit) (array.take count)
    -- the next word is behind the end of the array
    if array.length < count then crash .fault else pure ()

/-- Appends the first `count` words of an array of signed 32-bit words. -/
def pusharrays32 (array : List Int32) (maxLen count limit : ℕ) : Push Unit := do
  if count = 0 then
    pure ()
  else
    ensure (count ≤ maxLen)
    let start ← position
    ensure (start + 4 * count ≤ limit)
    forEach (fun word ↦ push32 limit word.toUInt32) (array.take count)
    -- the next word is behind the end of the array
    if array.length < count then crash .fault else pure ()

/-- A whole array that is not empty is appended like any bytes. -/
theorem pusharray8_of_length {array : List UInt8} {maxLen count : ℕ} (limit : ℕ)
    (hcount : array.length = count) (hmax : count ≤ maxLen) (hpos : count ≠ 0) :
    pusharray8 array maxLen count limit = pushBytes limit array := by
  subst hcount
  funext out
  have hposition : position out = (.ok out.length, out) := rfl
  unfold pusharray8
  rw [if_neg hpos, ensure_bind hmax, bind_of_ok hposition]
  by_cases hroom : out.length + array.length ≤ limit
  · rw [ensure_bind hroom, if_neg (Nat.lt_irrefl _), List.take_length]
  · rw [pushBytes_of_no_room hroom, ensure, if_neg hroom]
    rfl

end Push

/-- The two bytes of a number, put together as `pull16` does it, are the number. -/
theorem join_bytes16 (value : UInt16) :
    ((value >>> 8).toUInt8.toUInt16 <<< 8) ||| value.toUInt8.toUInt16 = value := by
  apply UInt16.toBitVec_inj.mp
  show (((value.toBitVec >>> 8).setWidth 8).setWidth 16 <<< 8 |||
    (value.toBitVec.setWidth 8).setWidth 16 : BitVec 16) = value.toBitVec
  ext i hi
  simp only [BitVec.getElem_or, BitVec.getElem_shiftLeft, BitVec.getElem_setWidth,
    BitVec.getLsbD_setWidth, BitVec.getLsbD_ushiftRight]
  grind

/-- The four bytes of a number, put together as `pull32` does it, are the number. -/
theorem join_bytes32 (value : UInt32) :
    ((value >>> 24).toUInt8.toUInt32 <<< 24) ||| ((value >>> 16).toUInt8.toUInt32 <<< 16) |||
      ((value >>> 8).toUInt8.toUInt32 <<< 8) ||| value.toUInt8.toUInt32 = value := by
  apply UInt32.toBitVec_inj.mp
  show (((value.toBitVec >>> 24).setWidth 8).setWidth 32 <<< 24 |||
    ((value.toBitVec >>> 16).setWidth 8).setWidth 32 <<< 16 |||
    ((value.toBitVec >>> 8).setWidth 8).setWidth 32 <<< 8 |||
    (value.toBitVec.setWidth 8).setWidth 32 : BitVec 32) = value.toBitVec
  ext i hi
  simp only [BitVec.getElem_or, BitVec.getElem_shiftLeft, BitVec.getElem_setWidth,
    BitVec.getLsbD_setWidth, BitVec.getLsbD_ushiftRight]
  grind

/-- The bytes of a number that is put together from two bytes are these two. -/
theorem bytes16_join (high low : UInt8) :
    bytes16 ((high.toUInt16 <<< 8) ||| low.toUInt16) = [high, low] := by
  have hhigh : (((high.toUInt16 <<< 8) ||| low.toUInt16) >>> 8).toUInt8 = high := by
    apply UInt8.toBitVec_inj.mp
    show ((((high.toBitVec.setWidth 16) <<< 8 ||| low.toBitVec.setWidth 16) >>> 8).setWidth 8 :
      BitVec 8) = high.toBitVec
    ext i hi
    simp only [BitVec.getElem_setWidth, BitVec.getLsbD_ushiftRight, BitVec.getLsbD_or,
      BitVec.getLsbD_shiftLeft, BitVec.getLsbD_setWidth]
    grind
  have hlow : ((high.toUInt16 <<< 8) ||| low.toUInt16).toUInt8 = low := by
    apply UInt8.toBitVec_inj.mp
    show (((high.toBitVec.setWidth 16) <<< 8 ||| low.toBitVec.setWidth 16).setWidth 8 :
      BitVec 8) = low.toBitVec
    ext i hi
    simp only [BitVec.getElem_setWidth, BitVec.getLsbD_or, BitVec.getLsbD_shiftLeft,
      BitVec.getLsbD_setWidth]
    grind
  rw [bytes16, hhigh, hlow]

/-! ### What an encoder writes -/

/-- From anything that fits the buffer on, the encoder appends exactly these bytes, and rejects
when they do not fit. -/
def Writes (limit : ℕ) (x : Push Unit) (bytes : List UInt8) : Prop :=
  ∀ out, out.length ≤ limit →
    if out.length + bytes.length ≤ limit then x out = (.ok (), out ++ bytes)
    else (x out).1 = .error .reject

section Writes

variable {limit : ℕ} {x y : Push Unit} {front back : List UInt8}

theorem Writes.of_room {bytes out : List UInt8} (h : Writes limit x bytes)
    (hroom : out.length + bytes.length ≤ limit) : x out = (.ok (), out ++ bytes) := by
  have hout := h out (Nat.le_trans (Nat.le_add_right ..) hroom)
  rwa [if_pos hroom] at hout

theorem Writes.of_no_room {bytes out : List UInt8} (h : Writes limit x bytes)
    (hout : out.length ≤ limit) (hroom : ¬ out.length + bytes.length ≤ limit) :
    ∃ next, x out = (.error .reject, next) := by
  have hreject := h out hout
  rw [if_neg hroom] at hreject
  exact ⟨(x out).2, Prod.ext hreject rfl⟩

/-- What an encoder writes is given by the encoder. -/
theorem Writes.unique {x : ℕ → Push Unit} {bytes bytes' : List UInt8}
    (h : ∀ limit, Writes limit (x limit) bytes) (h' : ∀ limit, Writes limit (x limit) bytes') :
    bytes = bytes' := by
  have hroom : ([] : List UInt8).length + bytes.length ≤ bytes.length + bytes'.length := by simp
  have hroom' : ([] : List UInt8).length + bytes'.length ≤ bytes.length + bytes'.length := by simp
  have hsame := ((h _).of_room hroom).symm.trans ((h' _).of_room hroom')
  exact (Prod.mk.inj hsame).2

theorem writes_pure (limit : ℕ) : Writes limit (pure ()) [] := by
  intro out hout
  rw [List.length_nil, Nat.add_zero, if_pos hout, Push.pure_apply, List.append_nil]

theorem writes_pushBytes (limit : ℕ) (bytes : List UInt8) :
    Writes limit (Push.pushBytes limit bytes) bytes := by
  intro out _
  split_ifs with hroom
  · exact Push.pushBytes_of_room hroom
  · rw [Push.pushBytes_of_no_room hroom]

theorem writes_push8 (limit : ℕ) (value : UInt8) : Writes limit (Push.push8 limit value) [value] :=
  writes_pushBytes limit _

theorem writes_push16 (limit : ℕ) (value : UInt16) :
    Writes limit (Push.push16 limit value) (bytes16 value) :=
  writes_pushBytes limit _

theorem writes_push32 (limit : ℕ) (value : UInt32) :
    Writes limit (Push.push32 limit value) (bytes32 value) :=
  writes_pushBytes limit _

/-- Two encoders in sequence write their bytes one after the other. -/
theorem Writes.andThen (hx : Writes limit x front) (hy : Writes limit y back) :
    Writes limit (do x; y) (front ++ back) := by
  intro out hout
  rw [List.length_append, ← Nat.add_assoc]
  by_cases hfront : out.length + front.length ≤ limit
  · have hnext : (out ++ front).length ≤ limit := by rwa [List.length_append]
    have hback := hy _ hnext
    rw [List.length_append, List.append_assoc] at hback
    rw [Push.bind_of_ok (hx.of_room hfront)]
    exact hback
  · obtain ⟨next, hreject⟩ := hx.of_no_room hout hfront
    rw [if_neg (by omega), Push.bind_of_error hreject]

end Writes

/-! ### What a decoder reads -/

/-- A list of bytes as an object. -/
def memoryOf (bytes : List UInt8) : Memory where
  byte i := bytes.getD i 0
  size := bytes.length

/-- These bytes are at this place of the object. -/
def Holds (mem : Memory) (pos : ℕ) (bytes : List UInt8) : Prop :=
  pos + bytes.length ≤ mem.size ∧
    ∀ i (h : i < bytes.length), mem.byte (pos + i) = bytes[i]

theorem holds_memoryOf (front bytes back : List UInt8) :
    Holds (memoryOf (front ++ bytes ++ back)) front.length bytes := by
  constructor
  · simp only [memoryOf, List.length_append]
    omega
  · intro i hi
    show (front ++ bytes ++ back).getD (front.length + i) 0 = bytes[i]
    rw [List.append_assoc, List.getD_eq_getElem?_getD,
      List.getElem?_append_right (Nat.le_add_right ..), Nat.add_sub_cancel_left,
      List.getElem?_append_left hi, List.getElem?_eq_getElem hi, Option.getD_some]

theorem holds_append {mem : Memory} {pos : ℕ} {front back : List UInt8} :
    Holds mem pos (front ++ back) ↔
      Holds mem pos front ∧ Holds mem (pos + front.length) back := by
  constructor
  · rintro ⟨hsize, hbyte⟩
    have hlength : (front ++ back).length = front.length + back.length := List.length_append
    refine ⟨⟨by omega, fun i hi ↦ ?_⟩, by omega, fun i hi ↦ ?_⟩
    · rw [hbyte i (by omega), List.getElem_append_left hi]
    · rw [Nat.add_assoc, hbyte _ (by omega), List.getElem_append_right (by omega)]
      simp only [Nat.add_sub_cancel_left]
  · rintro ⟨⟨-, hfront⟩, hsize, hback⟩
    refine ⟨by rw [List.length_append]; omega, fun i hi ↦ ?_⟩
    by_cases hplace : i < front.length
    · rw [List.getElem_append_left hplace, hfront i hplace]
    · rw [List.length_append] at hi
      rw [List.getElem_append_right (by omega), ← hback (i - front.length) (by omega)]
      congr 1
      omega

/-- The decoder that finds these bytes at its cursor, below the limit, returns the value and stops
behind them. -/
def Reads {α : Type} (limit : ℕ) (x : Pull α) (bytes : List UInt8) (a : α) : Prop :=
  ∀ mem pos, Holds mem pos bytes → pos + bytes.length ≤ limit →
    x mem pos = .ok (a, pos + bytes.length)

section Reads

variable {α β : Type} {limit : ℕ}

theorem reads_pure (limit : ℕ) (a : α) : Reads limit (pure a) [] a := fun _ _ _ _ ↦ rfl

/-- Two decoders in sequence read the bytes of the first and then those of the second. -/
theorem Reads.bind {x : Pull α} {f : α → Pull β} {front back : List UInt8} {a : α} {b : β}
    (hx : Reads limit x front a) (hf : Reads limit (f a) back b) :
    Reads limit (x >>= f) (front ++ back) b := by
  intro mem pos hholds hlimit
  rw [holds_append] at hholds
  rw [List.length_append] at hlimit ⊢
  rw [Pull.bind_of_ok (hx mem pos hholds.1 (by omega)), ← Nat.add_assoc]
  exact hf mem _ hholds.2 (by omega)

/-- The last decoder of a sequence is followed by the value that is put together. -/
theorem Reads.map {x : Pull α} {f : α → β} {bytes : List UInt8} {a : α}
    (hx : Reads limit x bytes a) : Reads limit (do return f (← x)) bytes (f a) := by
  have hpure : Reads limit (pure (f a) : Pull β) [] (f a) := reads_pure limit (f a)
  rw [← List.append_nil bytes]
  exact hx.bind hpure

theorem reads_byte (limit : ℕ) (value : UInt8) : Reads limit Pull.byte [value] value := by
  intro mem pos hholds hlimit
  obtain ⟨hsize, hbyte⟩ := hholds
  rw [List.length_singleton] at hsize
  have hvalue : mem.byte pos = value := hbyte 0 Nat.one_pos
  rw [Pull.byte_of_room (by omega), hvalue]
  rfl

/-- The check for room passes in front of bytes that fit. -/
theorem Reads.after_room {count : ℕ} {x : Pull α} {bytes : List UInt8} {a : α}
    (hcount : bytes.length = count) (hx : Reads limit x bytes a) :
    Reads limit (do Pull.room count limit; x) bytes a := by
  intro mem pos hholds hlimit
  have hroom : Pull.room count limit mem pos = .ok ((), pos) := by
    rw [Pull.room, Pull.ensure_of_true (by omega), Pull.pure_apply]
  rw [Pull.bind_of_ok hroom]
  exact hx mem pos hholds hlimit

theorem reads_pull8 (limit : ℕ) (value : UInt8) :
    Reads limit (Pull.pull8 limit) [value] value :=
  (reads_byte limit value).after_room rfl

theorem reads_pull16 (limit : ℕ) (value : UInt16) :
    Reads limit (Pull.pull16 limit) (bytes16 value) value := by
  refine Reads.after_room (length_bytes16 value) ?_
  refine (reads_byte limit (value >>> 8).toUInt8).bind ?_
  have hlow := (reads_byte limit value.toUInt8).map
    (f := fun low ↦ ((value >>> 8).toUInt8.toUInt16 <<< 8) ||| low.toUInt16)
  rwa [join_bytes16] at hlow

theorem reads_pull32 (limit : ℕ) (value : UInt32) :
    Reads limit (Pull.pull32 limit) (bytes32 value) value := by
  refine Reads.after_room (length_bytes32 value) ?_
  refine (reads_byte limit (value >>> 24).toUInt8).bind ?_
  refine (reads_byte limit (value >>> 16).toUInt8).bind ?_
  refine (reads_byte limit (value >>> 8).toUInt8).bind ?_
  have hlow := (reads_byte limit value.toUInt8).map
    (f := fun low ↦ ((value >>> 24).toUInt8.toUInt32 <<< 24) |||
      ((value >>> 16).toUInt8.toUInt32 <<< 16) ||| ((value >>> 8).toUInt8.toUInt32 <<< 8) |||
      low.toUInt32)
  rwa [join_bytes32] at hlow

end Reads

end MultiUeProxy.Lib.ByteWriter
