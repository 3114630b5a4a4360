import MultiUeProxy.Lib.Codec

/-!
# Encoders that are cut off, and what their decoders make of it

An encoder that does not look at the results of its pushes goes on behind a push that found no
room. `Appends` says that an encoder changes nothing that was written before it and looks at
nothing but how much that is. `Mirrors` relates such an encoder to a decoder that takes the same
steps: what was written in full is read back, and when something was cut off, the decoder rejects
all that the encoder has left behind, whatever is written after it.

A decoder may ignore its pulls, too. `Echoes` relates an encoder and a decoder that both pass over
what finds no room, at the same places. All three are classes that follow the text of a
definition.
-/

set_option autoImplicit false
set_option relaxedAutoImplicit false

namespace MultiUeProxy.Lib.Lockstep

open Execution ByteCursor ByteWriter Codec

/-! ### Encoders that append -/

/-- The encoder appends to what is written, and what it appends depends only on how much that
is. -/
class Appends {α : Type} (x : Push α) : Prop where
  run : ∀ out, ∃ result more, x out = (result, out ++ more) ∧
    ∀ other : List UInt8, other.length = out.length → x other = (result, other ++ more)

section Appends

variable {α β : Type} {limit : ℕ} {x y : Push α}

theorem appends_of_silent {result : List UInt8 → Except Stop α}
    (hx : ∀ out, x out = (result out, out))
    (hresult : ∀ out other : List UInt8, other.length = out.length → result other = result out) :
    Appends x where
  run out := by
    refine ⟨result out, [], ?_, fun other hother ↦ ?_⟩
    · rw [hx, List.append_nil]
    · rw [hx, List.append_nil, hresult out other hother]

instance {a : α} : Appends (pure a : Push α) :=
  appends_of_silent (fun _ ↦ rfl) fun _ _ _ ↦ rfl

instance : Appends (Push.reject : Push α) :=
  appends_of_silent (fun _ ↦ rfl) fun _ _ _ ↦ rfl

instance {cause : Crash} : Appends (Push.crash cause : Push α) :=
  appends_of_silent (fun _ ↦ rfl) fun _ _ _ ↦ rfl

instance : Appends Push.position :=
  @appends_of_silent _ Push.position (fun out ↦ .ok out.length) (fun _ ↦ rfl)
    fun _ _ hlength ↦ congrArg Except.ok hlength

instance {p : Prop} [Decidable p] [hx : Appends x] [hy : Appends y] :
    Appends (if p then x else y) := by
  split_ifs
  · exact hx
  · exact hy

instance {p : Prop} [Decidable p] : Appends (Push.ensure p) := by
  unfold Push.ensure
  infer_instance

instance {bytes : List UInt8} : Appends (Push.pushBytes limit bytes) where
  run out := by
    by_cases hroom : out.length + bytes.length ≤ limit
    · refine ⟨.ok (), bytes, Push.pushBytes_of_room hroom, fun other hother ↦ ?_⟩
      exact Push.pushBytes_of_room (hother ▸ hroom)
    · refine ⟨.error .reject, [], ?_, fun other hother ↦ ?_⟩
      · rw [Push.pushBytes_of_no_room hroom, List.append_nil]
      · rw [Push.pushBytes_of_no_room (hother ▸ hroom), List.append_nil]

instance {value : UInt8} : Appends (Push.push8 limit value) := by
  unfold Push.push8
  infer_instance

instance {value : UInt16} : Appends (Push.push16 limit value) := by
  unfold Push.push16
  infer_instance

instance {value : UInt32} : Appends (Push.push32 limit value) := by
  unfold Push.push32
  infer_instance

/-- What an attempt writes is what the encoder writes. -/
theorem attempt_snd (x : Push Unit) (out : List UInt8) : (Push.attempt x out).2 = (x out).2 := by
  rcases hx : x out with ⟨result, next⟩
  match result with
  | .ok () => rw [Push.attempt_of_ok hx]
  | .error .reject => rw [Push.attempt_of_reject hx]
  | .error (.crash cause) => rw [Push.attempt, hx]

instance {x : Push Unit} [hx : Appends x] : Appends (Push.attempt x) where
  run out := by
    obtain ⟨result, more, hrun, hother⟩ := hx.run out
    match result with
    | .ok () =>
      exact ⟨.ok (), more, Push.attempt_of_ok hrun, fun other h ↦
        Push.attempt_of_ok (hother other h)⟩
    | .error .reject =>
      exact ⟨.ok (), more, Push.attempt_of_reject hrun, fun other h ↦
        Push.attempt_of_reject (hother other h)⟩
    | .error (.crash cause) =>
      refine ⟨.error (.crash cause), more, ?_, fun other h ↦ ?_⟩
      · rw [Push.attempt, hrun]
      · rw [Push.attempt, hother other h]

instance {f : α → Push β} [hx : Appends x] [hf : ∀ a, Appends (f a)] : Appends (x >>= f) where
  run out := by
    obtain ⟨result, more, hrun, hother⟩ := hx.run out
    match result with
    | .ok a =>
      obtain ⟨last, rest, hrest, hlater⟩ := (hf a).run (out ++ more)
      refine ⟨last, more ++ rest, ?_, fun other h ↦ ?_⟩
      · rw [Push.bind_of_ok hrun, hrest, List.append_assoc]
      · have hlength : (other ++ more).length = (out ++ more).length := by
          rw [List.length_append, List.length_append, h]
        rw [Push.bind_of_ok (hother other h), hlater _ hlength, List.append_assoc]
    | .error stop =>
      exact ⟨.error stop, more, Push.bind_of_error hrun, fun other h ↦
        Push.bind_of_error (hother other h)⟩

instance {x : Push Unit} {f : Unit → Push β} [Appends x] [hf : Appends (f ())] :
    Appends (x >>= f) :=
  have : ∀ u, Appends (f u) := fun _ ↦ hf
  inferInstance

instance {f : α → Push Unit} [hf : ∀ a, Appends (f a)] {items : List α} :
    Appends (Push.forEach f items) := by
  induction items with
  | nil => exact (inferInstance : Appends (pure ()))
  | cons item items ih =>
    rw [Push.forEach]
    infer_instance

/-- What was written before is still there. -/
theorem prefix_run (x : Push α) [hx : Appends x] (out : List UInt8) : out <+: (x out).2 := by
  obtain ⟨result, more, hrun, -⟩ := hx.run out
  rw [hrun]
  exact List.prefix_append out more

theorem prefix_bind {f : α → Push β} [Appends x] [hf : ∀ a, Appends (f a)] (out : List UInt8) :
    (x out).2 <+: ((x >>= f) out).2 := by
  rcases hx : x out with ⟨result, next⟩
  cases result with
  | ok a =>
    rw [Push.bind_of_ok hx]
    exact prefix_run (f a) next
  | error stop =>
    rewrite [Push.bind_of_error hx]
    exact List.prefix_refl next

end Appends

/-! ### Encoders and their decoders -/

theorem holds_of_written {out bytes final : List UInt8} (h : out ++ bytes <+: final) :
    Holds (memoryOf final) out.length bytes := by
  obtain ⟨rest, rfl⟩ := h
  exact holds_memoryOf out bytes rest

/-- The decoder takes the steps of the encoder: with room for all bytes they are written and read
back, and when they are cut off at the limit, the decoder rejects what is there of them in an
object of `size` bytes. -/
class Mirrors {α : Type} (limit size : ℕ) (x : Push Unit) (y : Pull α)
    (bytes : outParam (List UInt8)) (a : outParam α) : Prop where
  appends : Appends x
  encodes : Encodes limit x bytes
  reads : Reads size y bytes a
  cut : ∀ out final, limit < out.length + bytes.length → (x out).2 <+: final →
    final.length = size → size ≤ limit → y (memoryOf final) out.length = .error .reject

section Mirrors

variable {α β : Type} {limit size : ℕ} {x : Push Unit} {y : Pull α} {front back bytes : List UInt8}
  {a : α} {b : β}

instance : Mirrors limit size (pure ()) (pure a) [] a where
  appends := inferInstance
  encodes := inferInstance
  reads := reads_pure size a
  cut out final hcut hprefix hsize hlimit := by
    have hout : out.length ≤ final.length := hprefix.length_le
    rw [List.length_nil] at hcut
    omega

/-- A push and a pull of the same size. -/
theorem mirrors_of_room {count : ℕ} (hcount : bytes.length = count)
    (hreads : Reads size y bytes a)
    (hreject : ∀ mem pos, size < pos + count → pos ≤ size → y mem pos = .error .reject) :
    Mirrors limit size (Push.pushBytes limit bytes) y bytes a where
  appends := inferInstance
  encodes := inferInstance
  reads := hreads
  cut out final hcut hprefix hsize hlimit := by
    have hout : out.length ≤ final.length :=
      ((prefix_run (Push.pushBytes limit bytes) out).trans hprefix).length_le
    exact hreject _ _ (by omega) (by omega)

/-- Without room for what it reads, a decoder that begins with the check for it rejects. -/
theorem after_room_of_no_room {count : ℕ} {mem : Memory} {pos : ℕ} (h : size < pos + count) :
    (do Pull.room count size; y) mem pos = .error .reject := by
  have hroom : Pull.room count size mem pos = .error .reject := by
    rw [Pull.room, Pull.ensure_of_false (by omega), Pull.reject]
  exact Pull.bind_of_error hroom

instance {value : UInt8} : Mirrors limit size (Push.push8 limit value) (Pull.pull8 size) [value]
    value :=
  mirrors_of_room rfl (reads_pull8 size value) fun _ _ h _ ↦ after_room_of_no_room h

instance {value : UInt16} : Mirrors limit size (Push.push16 limit value) (Pull.pull16 size)
    (bytes16 value) value :=
  mirrors_of_room rfl (reads_pull16 size value) fun _ _ h _ ↦ after_room_of_no_room h

instance {value : UInt32} : Mirrors limit size (Push.push32 limit value) (Pull.pull32 size)
    (bytes32 value) value :=
  mirrors_of_room rfl (reads_pull32 size value) fun _ _ h _ ↦ after_room_of_no_room h

/-- That an encoder is not looked at makes no difference to what it leaves behind. -/
instance [h : Mirrors limit size x y bytes a] :
    Mirrors limit size (Push.attempt x) y bytes a where
  appends :=
    have := h.appends
    inferInstance
  encodes :=
    have := h.encodes
    inferInstance
  reads := h.reads
  cut out final hcut hprefix := by
    rw [attempt_snd] at hprefix
    exact h.cut out final hcut hprefix

theorem mirrors_bind {f : Unit → Push Unit} {g : α → Pull β}
    (hx : Mirrors limit size x y front a) (hf : Mirrors limit size (f ()) (g a) back b) :
    Mirrors limit size (x >>= f) (y >>= g) (front ++ back) b where
  appends :=
    have := hx.appends
    have : ∀ u, Appends (f u) := fun _ ↦ hf.appends
    inferInstance
  encodes :=
    have := hx.encodes
    have := hf.encodes
    inferInstance
  reads := hx.reads.bind hf.reads
  cut out final hcut hprefix hsize hlimit := by
    have := hx.appends
    have : ∀ u, Appends (f u) := fun _ ↦ hf.appends
    by_cases hfront : out.length + front.length ≤ limit
    · have hrun : x out = (.ok (), out ++ front) := hx.encodes.run out hfront
      rw [Push.bind_of_ok hrun] at hprefix
      have hthere : out ++ front <+: final :=
        (prefix_run (f ()) (out ++ front)).trans hprefix
      have hlength : out.length + front.length ≤ final.length := by
        rw [← List.length_append]
        exact hthere.length_le
      rw [Pull.bind_of_ok (hx.reads _ _ (holds_of_written hthere) (hsize ▸ hlength)),
        ← List.length_append]
      rw [List.length_append, ← Nat.add_assoc, ← List.length_append] at hcut
      exact hf.cut _ final hcut hprefix hsize hlimit
    · have hleft : (x out).2 <+: final := (prefix_bind out).trans hprefix
      exact Pull.bind_of_error (hx.cut out final (Nat.lt_of_not_le hfront) hleft hsize hlimit)

instance {f : Unit → Push Unit} {g : α → Pull β} [hx : Mirrors limit size x y front a]
    [hf : Mirrors limit size (f ()) (g a) back b] :
    Mirrors limit size (x >>= f) (y >>= g) (front ++ back) b :=
  mirrors_bind hx hf

/-- The last decoder of a sequence is followed by the value that is put together. -/
instance {f : α → β} [h : Mirrors limit size x y bytes a] :
    Mirrors limit size x (y >>= fun a ↦ pure (f a)) bytes (f a) where
  appends := h.appends
  encodes := h.encodes
  reads := h.reads.map
  cut out final hcut hprefix hsize hlimit :=
    Pull.bind_of_error (h.cut out final hcut hprefix hsize hlimit)

theorem Mirrors.map (f : α → β) (h : Mirrors limit size x y bytes a) :
    Mirrors limit size x (f <$> y) bytes (f a) :=
  inferInstanceAs (Mirrors limit size x (y >>= fun a ↦ pure (f a)) bytes (f a))

instance {f : α → β} [h : Mirrors limit size x y bytes a] :
    Mirrors limit size x (f <$> y) bytes (f a) :=
  h.map f

theorem mirrors_forEach {γ : Type} {f : γ → Push Unit} {element : Pull α} {g : γ → List UInt8}
    {h : γ → α} {items : List γ}
    (hf : ∀ item ∈ items, Mirrors limit size (f item) element (g item) (h item)) :
    Mirrors limit size (Push.forEach f items) (Pull.repeatPull element items.length)
      (items.flatMap g) (items.map h) := by
  induction items with
  | nil => exact (inferInstance : Mirrors limit size (pure ()) (pure []) [] [])
  | cons item items ih =>
    have hfirst := hf item List.mem_cons_self
    have hrest := ih fun other hother ↦ hf other (List.mem_cons_of_mem _ hother)
    rw [Push.forEach, List.length_cons, Pull.repeatPull, List.flatMap_cons, List.map_cons]
    exact mirrors_bind hfirst inferInstance

instance {p : Prop} [Decidable p] {x' : Push Unit} {y' : Pull α} {a' : α}
    [hx : Mirrors limit size x y front a] [hy : Mirrors limit size x' y' back a'] :
    Mirrors limit size (if p then x else x') (if p then y else y') (if p then front else back)
      (if p then a else a') := by
  split_ifs
  · exact hx
  · exact hy

/-- A whole array of bytes. -/
theorem mirrors_array8 {count pushMax pullMax : ℕ} (hcount : bytes.length = count)
    (hpush : count ≤ pushMax) (hpull : count ≤ pullMax) :
    Mirrors limit size (Push.pusharray8 bytes pushMax count limit)
      (Pull.pullarray8 pullMax count size) bytes bytes := by
  by_cases hzero : count = 0
  · obtain rfl := List.length_eq_zero_iff.mp (hcount.trans hzero)
    unfold Push.pusharray8 Pull.pullarray8
    rw [if_pos hzero, if_pos hzero]
    infer_instance
  · rw [Push.pusharray8_of_length limit hcount hpush hzero]
    refine mirrors_of_room hcount (reads_pullarray8 hcount hpull) ?_
    intro mem pos hlong hpos
    rw [Pull.pullarray8, if_neg hzero, Pull.ensure_of_true hpull]
    show (Pull.ensure (size < pos ∨ pos + count ≤ size) >>= fun _ ↦
      Pull.repeatPull Pull.byte count) mem pos = _
    rw [Pull.ensure_of_false (by omega)]
    rfl

end Mirrors

/-! ### Pushes and pulls that are passed over -/

/-- What is written after an attempt at pushing these bytes. -/
def attempted (limit : ℕ) (out bytes : List UInt8) : List UInt8 :=
  if out.length + bytes.length ≤ limit then out ++ bytes else out

/-- The bytes that an attempt at a push of `count` bytes takes. -/
def kept (limit pos count : ℕ) : ℕ := if pos + count ≤ limit then count else 0

theorem length_attempted (limit : ℕ) (out bytes : List UInt8) :
    (attempted limit out bytes).length = out.length + kept limit out.length bytes.length := by
  rw [attempted, kept]
  split_ifs
  · exact List.length_append
  · rfl

theorem prefix_attempted (limit : ℕ) (out bytes : List UInt8) :
    out <+: attempted limit out bytes := by
  rw [attempted]
  split_ifs
  · exact List.prefix_append out bytes
  · exact List.prefix_refl out

/-- Behind `out`, the encoder goes on to `next`, and the decoder follows it there, with this value,
in every object of `size` bytes that begins with what is written. -/
class Echoes {α : Type} (limit size : ℕ) (out : List UInt8) (x : Push Unit) (y : Pull α)
    (next : outParam (List UInt8)) (a : outParam α) : Prop where
  run : x out = (.ok (), next)
  extends_ : out <+: next
  follows : ∀ final, next <+: final → final.length = size → size ≤ limit →
    y (memoryOf final) out.length = .ok (a, next.length)

section Echoes

variable {α β : Type} {limit size : ℕ} {out mid next bytes : List UInt8} {x : Push Unit}
  {y : Pull α} {a : α} {b : β}

theorem echoes_attempt {count : ℕ} {previous : α} (hcount : bytes.length = count)
    (hreads : Reads size y bytes a)
    (hreject : ∀ mem pos, size < pos + count → y mem pos = .error .reject) :
    Echoes limit size out (Push.attempt (Push.pushBytes limit bytes)) (Pull.attempt y previous)
      (attempted limit out bytes) (if out.length + count ≤ limit then a else previous) where
  run := by
    subst hcount
    rw [attempted]
    split_ifs with hroom
    · exact Push.attempt_of_ok (Push.pushBytes_of_room hroom)
    · exact Push.attempt_of_reject (Push.pushBytes_of_no_room hroom)
  extends_ := prefix_attempted limit out bytes
  follows final hprefix hsize hlimit := by
    subst hcount
    by_cases hroom : out.length + bytes.length ≤ limit
    · rw [attempted, if_pos hroom] at hprefix
      have hlength : out.length + bytes.length ≤ final.length := by
        rw [← List.length_append]
        exact hprefix.length_le
      rw [attempted, if_pos hroom, if_pos hroom, List.length_append]
      exact reads_attempt hreads _ _ (holds_of_written hprefix) (hsize ▸ hlength)
    · rw [attempted, if_neg hroom, if_neg hroom, Pull.attempt, hreject _ _ (by omega)]

instance {value previous : UInt8} :
    Echoes limit size out (Push.attempt (Push.push8 limit value))
      (Pull.attempt (Pull.pull8 size) previous) (attempted limit out [value])
      (if out.length + 1 ≤ limit then value else previous) :=
  echoes_attempt rfl (reads_pull8 size value) fun _ _ h ↦ after_room_of_no_room h

instance {value previous : UInt16} :
    Echoes limit size out (Push.attempt (Push.push16 limit value))
      (Pull.attempt (Pull.pull16 size) previous) (attempted limit out (bytes16 value))
      (if out.length + 2 ≤ limit then value else previous) :=
  echoes_attempt rfl (reads_pull16 size value) fun _ _ h ↦ after_room_of_no_room h

instance {value previous : UInt32} :
    Echoes limit size out (Push.attempt (Push.push32 limit value))
      (Pull.attempt (Pull.pull32 size) previous) (attempted limit out (bytes32 value))
      (if out.length + 4 ≤ limit then value else previous) :=
  echoes_attempt rfl (reads_pull32 size value) fun _ _ h ↦ after_room_of_no_room h

instance : Echoes limit size out (pure ()) (pure a) out a where
  run := rfl
  extends_ := List.prefix_refl out
  follows _ _ _ _ := rfl

instance {f : Unit → Push Unit} {g : α → Pull β} [hx : Echoes limit size out x y mid a]
    [hf : Echoes limit size mid (f ()) (g a) next b] :
    Echoes limit size out (x >>= f) (y >>= g) next b where
  run := (Push.bind_of_ok hx.run).trans hf.run
  extends_ := hx.extends_.trans hf.extends_
  follows final hprefix hsize hlimit :=
    (Pull.bind_of_ok (hx.follows final (hf.extends_.trans hprefix) hsize hlimit)).trans
      (hf.follows final hprefix hsize hlimit)

/-- The last decoder of a sequence is followed by the value that is put together. -/
instance {f : α → β} [h : Echoes limit size out x y next a] :
    Echoes limit size out x (y >>= fun a ↦ pure (f a)) next (f a) where
  run := h.run
  extends_ := h.extends_
  follows final hprefix hsize hlimit := Pull.bind_of_ok (h.follows final hprefix hsize hlimit)

theorem Echoes.map (f : α → β) (h : Echoes limit size out x y next a) :
    Echoes limit size out x (f <$> y) next (f a) :=
  inferInstanceAs (Echoes limit size out x (y >>= fun a ↦ pure (f a)) next (f a))

/-- A push and a pull with room are looked at without harm. -/
theorem echoes_push16 {value : UInt16} (hroom : out.length + 2 ≤ limit) :
    Echoes limit size out (Push.push16 limit value) (Pull.pull16 size)
      (out ++ bytes16 value) value where
  run := Push.pushBytes_of_room hroom
  extends_ := List.prefix_append out _
  follows final hprefix hsize hlimit := by
    have hlength : out.length + (bytes16 value).length ≤ final.length := by
      rw [← List.length_append]
      exact hprefix.length_le
    rw [List.length_append]
    exact reads_pull16 size value _ _ (holds_of_written hprefix) (hsize ▸ hlength)

end Echoes

/-- Numbers, each with its size in bytes, that are pushed in turn from `pos` on: those that find no
room are zero. -/
def CutAreZero (limit : ℕ) : ℕ → List (ℕ × ℕ) → Prop
  | _, [] => True
  | pos, (count, value) :: fields =>
    (pos + count ≤ limit ∨ value = 0) ∧ CutAreZero limit (pos + kept limit pos count) fields

/-- Where attempts at pushing numbers of these sizes end. -/
def attemptsEnd (limit : ℕ) : ℕ → List (ℕ × ℕ) → ℕ
  | pos, [] => pos
  | pos, (count, _) :: fields => attemptsEnd limit (pos + kept limit pos count) fields

theorem cutAreZero_append {limit pos : ℕ} {front back : List (ℕ × ℕ)} :
    CutAreZero limit pos (front ++ back) ↔
      CutAreZero limit pos front ∧ CutAreZero limit (attemptsEnd limit pos front) back := by
  induction front generalizing pos with
  | nil => exact (and_iff_right trivial).symm
  | cons field fields ih =>
    rw [List.cons_append, CutAreZero, CutAreZero, attemptsEnd, ih, and_assoc]

end MultiUeProxy.Lib.Lockstep
