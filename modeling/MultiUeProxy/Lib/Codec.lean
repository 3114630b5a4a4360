import MultiUeProxy.Lib.ByteWriter

/-!
# Encoders and decoders, field by field

What is known of an encoder or a decoder, as classes, so that it is found by instance search along
the text of a definition.

`Emits limit x bytes` is `Writes` as a class: the encoder writes exactly these bytes, or rejects.
An encoder that does not look at the results of its pushes only has the weaker `Encodes`, which says
what it writes when there is room for it. `Decodes limit x bytes a` is `Reads` as a class. Under all
three, the bytes of a sequence are those of its parts, one after the other.

Encoders that end the program are described by `Breaks`, encoders that never come to their end by
`Fails`, decoders that stop without a value by `Stops`, and decoders that read behind the end of the
memory by `Overruns`.
-/

set_option autoImplicit false
set_option relaxedAutoImplicit false

namespace MultiUeProxy.Lib.Codec

open Execution ByteCursor ByteWriter

/-- With room for them, the encoder appends exactly these bytes. -/
class Encodes (limit : ℕ) (x : Push Unit) (bytes : outParam (List UInt8)) : Prop where
  run : ∀ out, out.length + bytes.length ≤ limit → x out = (.ok (), out ++ bytes)

/-- The encoder appends exactly these bytes, and rejects when they do not fit. -/
class Emits (limit : ℕ) (x : Push Unit) (bytes : outParam (List UInt8)) : Prop where
  writes : Writes limit x bytes

/-- The decoder that finds these bytes at its cursor, below the limit, returns the value and stops
behind them. -/
class Decodes {α : Type} (limit : ℕ) (x : Pull α) (bytes : List UInt8) (a : outParam α) :
    Prop where
  reads : Reads limit x bytes a

/-! ### Numbers -/

/-- A number that has room in its field is what is read of it. -/
theorem toNat_number16 {number : ℕ} (h : number < 65536) : number.toUInt16.toNat = number :=
  UInt16.toNat_ofNat_of_lt h

theorem toNat_number8 {number : ℕ} (h : number < 256) : number.toUInt8.toNat = number :=
  UInt8.toNat_ofNat_of_lt h

/-! ### Encoders -/

section Encoders

variable {limit : ℕ} {α : Type} {x y : Push Unit} {f : Unit → Push Unit}
  {front back bytes : List UInt8}

instance : Encodes limit (pure ()) [] where
  run out _ := by rw [Push.pure_apply, List.append_nil]

instance : Encodes limit (Push.pushBytes limit bytes) bytes where
  run _ hroom := Push.pushBytes_of_room hroom

instance {value : UInt8} : Encodes limit (Push.push8 limit value) [value] where
  run _ hroom := Push.pushBytes_of_room hroom

instance {value : UInt16} : Encodes limit (Push.push16 limit value) (bytes16 value) where
  run _ hroom := Push.pushBytes_of_room hroom

instance {value : UInt32} : Encodes limit (Push.push32 limit value) (bytes32 value) where
  run _ hroom := Push.pushBytes_of_room hroom

instance [Encodes limit x bytes] : Encodes limit (Push.attempt x) bytes where
  run out hroom := Push.attempt_of_ok (Encodes.run out hroom)

instance [hx : Encodes limit x front] [hf : Encodes limit (f ()) back] :
    Encodes limit (x >>= f) (front ++ back) where
  run out hroom := by
    rw [List.length_append] at hroom
    have hfirst : x out = (.ok (), out ++ front) := hx.run out (by omega)
    have hsecond : f () (out ++ front) = (.ok (), out ++ front ++ back) :=
      hf.run _ (by rw [List.length_append]; omega)
    rw [Push.bind_of_ok hfirst, hsecond, List.append_assoc]

instance {p : Prop} [Decidable p] [hx : Encodes limit x front] [hy : Encodes limit y back] :
    Encodes limit (if p then x else y) (if p then front else back) where
  run out hroom := by
    split_ifs at hroom ⊢
    · exact hx.run out hroom
    · exact hy.run out hroom

theorem encodes_forEach {f : α → Push Unit} {g : α → List UInt8} {items : List α}
    (hf : ∀ item ∈ items, Encodes limit (f item) (g item)) :
    Encodes limit (Push.forEach f items) (items.flatMap g) := by
  induction items with
  | nil => exact (inferInstance : Encodes limit (pure ()) [])
  | cons item items ih =>
    have hfirst : Encodes limit (f item) (g item) := hf item List.mem_cons_self
    have hrest := ih fun other hother ↦ hf other (List.mem_cons_of_mem _ hother)
    rw [Push.forEach, List.flatMap_cons]
    infer_instance

instance {f : α → Push Unit} {g : α → List UInt8} [hf : ∀ a, Encodes limit (f a) (g a)]
    {items : List α} : Encodes limit (Push.forEach f items) (items.flatMap g) :=
  encodes_forEach fun item _ ↦ hf item

instance : Emits limit (pure ()) [] := ⟨writes_pure limit⟩

instance : Emits limit (Push.pushBytes limit bytes) bytes := ⟨writes_pushBytes limit bytes⟩

instance {value : UInt8} : Emits limit (Push.push8 limit value) [value] :=
  ⟨writes_push8 limit value⟩

instance {value : UInt16} : Emits limit (Push.push16 limit value) (bytes16 value) :=
  ⟨writes_push16 limit value⟩

instance {value : UInt32} : Emits limit (Push.push32 limit value) (bytes32 value) :=
  ⟨writes_push32 limit value⟩

instance [hx : Emits limit x front] [hf : Emits limit (f ()) back] :
    Emits limit (x >>= f) (front ++ back) :=
  ⟨hx.writes.andThen hf.writes⟩

instance {p : Prop} [Decidable p] [hx : Emits limit x front] [hy : Emits limit y back] :
    Emits limit (if p then x else y) (if p then front else back) := by
  split_ifs
  · exact hx
  · exact hy

theorem emits_forEach {f : α → Push Unit} {g : α → List UInt8} {items : List α}
    (hf : ∀ item ∈ items, Emits limit (f item) (g item)) :
    Emits limit (Push.forEach f items) (items.flatMap g) := by
  induction items with
  | nil => exact (inferInstance : Emits limit (pure ()) [])
  | cons item items ih =>
    have hfirst : Emits limit (f item) (g item) := hf item List.mem_cons_self
    have hrest := ih fun other hother ↦ hf other (List.mem_cons_of_mem _ hother)
    rw [Push.forEach, List.flatMap_cons]
    infer_instance

instance {f : α → Push Unit} {g : α → List UInt8} [hf : ∀ a, Emits limit (f a) (g a)]
    {items : List α} : Emits limit (Push.forEach f items) (items.flatMap g) :=
  emits_forEach fun item _ ↦ hf item

/-- What an encoder emits it encodes. -/
theorem Emits.encodes [hx : Emits limit x bytes] : Encodes limit x bytes where
  run _ hroom := hx.writes.of_room hroom

/-- A check for room in front of bytes that need it rejects nothing that the bytes do not. -/
theorem emits_room {count : ℕ} (hcount : bytes.length = count) (hx : Emits limit x bytes) :
    Emits limit (do
      let start ← Push.position
      Push.ensure (start + count ≤ limit)
      x) bytes where
  writes out hout := by
    have hposition : Push.position out = (.ok out.length, out) := rfl
    rw [Push.bind_of_ok hposition, ← hcount]
    by_cases hroom : out.length + bytes.length ≤ limit
    · rw [if_pos hroom, Push.ensure, if_pos hroom]
      exact hx.writes.of_room hroom
    · rw [if_neg hroom, Push.ensure, if_neg hroom]
      rfl

/-- A whole array is written as it is. -/
theorem emits_pusharray8 {maxLen count : ℕ} (hcount : bytes.length = count)
    (hmax : count ≤ maxLen) : Emits limit (Push.pusharray8 bytes maxLen count limit) bytes := by
  by_cases hzero : count = 0
  · obtain rfl := List.length_eq_zero_iff.mp (hcount.trans hzero)
    unfold Push.pusharray8
    rw [if_pos hzero]
    infer_instance
  · rw [Push.pusharray8_of_length limit hcount hmax hzero]
    infer_instance

/-- The bytes of 16-bit words. -/
def wordBytes16 (words : List UInt16) : List UInt8 := words.flatMap bytes16

theorem length_wordBytes16 (words : List UInt16) :
    (wordBytes16 words).length = 2 * words.length := by
  unfold wordBytes16
  induction words with
  | nil => rfl
  | cons word words ih =>
    rw [List.flatMap_cons, List.length_append, ih, length_bytes16, List.length_cons]
    omega

theorem emits_pusharray16 {words : List UInt16} {maxLen count : ℕ} (hcount : words.length = count)
    (hmax : count ≤ maxLen) :
    Emits limit (Push.pusharray16 words maxLen count limit) (wordBytes16 words) := by
  subst hcount
  unfold Push.pusharray16
  by_cases hzero : words.length = 0
  · obtain rfl := List.length_eq_zero_iff.mp hzero
    rw [if_pos hzero]
    exact (inferInstance : Emits limit (pure ()) [])
  · rw [if_neg hzero, Push.ensure_bind hmax]
    have hlength : (wordBytes16 words ++ []).length = 2 * words.length := by
      rw [List.append_nil, length_wordBytes16]
    have hpushes : Emits limit (do
        Push.forEach (Push.push16 limit) (words.take words.length)
        if words.length < words.length then Push.crash .fault else pure ())
        (wordBytes16 words ++ []) := by
      rw [if_neg (Nat.lt_irrefl _), List.take_length, wordBytes16]
      infer_instance
    rw [← List.append_nil (wordBytes16 _)]
    exact emits_room hlength hpushes

/-- With this much room, the encoder ends the program. -/
def Breaks (x : ℕ → Push Unit) (room : ℕ) (cause : Crash) : Prop :=
  ∀ limit out, out.length + room ≤ limit → ∃ next, x limit out = (.error (.crash cause), next)

section Breaks

variable {room : ℕ} {cause : Crash}

theorem Breaks.bind {x : ℕ → Push Unit} {f : ℕ → Unit → Push Unit} (h : Breaks x room cause) :
    Breaks (fun limit ↦ x limit >>= f limit) room cause := by
  intro limit out hroom
  obtain ⟨next, hx⟩ := h limit out hroom
  exact ⟨next, Push.bind_of_error hx⟩

theorem Breaks.after {x : ℕ → Push Unit} {f : ℕ → Unit → Push Unit}
    (hx : ∀ limit, Encodes limit (x limit) front) (h : Breaks (fun limit ↦ f limit ()) room cause) :
    Breaks (fun limit ↦ x limit >>= f limit) (front.length + room) cause := by
  intro limit out hroom
  obtain ⟨next, hf⟩ := h limit (out ++ front) (by rw [List.length_append]; omega)
  exact ⟨next, (Push.bind_of_ok ((hx limit).run out (by omega))).trans hf⟩

/-- A list with an item at which the encoder ends the program. -/
theorem breaks_forEach {f : ℕ → α → Push Unit} {g : α → List UInt8} {Good : α → Prop}
    {items : List α} (hbad : ∃ item ∈ items, ¬ Good item)
    (hgood : ∀ item ∈ items, Good item → ∀ limit, Encodes limit (f limit item) (g item))
    (hbreaks : ∀ item ∈ items, ¬ Good item → ∃ room, Breaks (fun limit ↦ f limit item) room cause) :
    ∃ room, Breaks (fun limit ↦ Push.forEach (f limit) items) room cause := by
  induction items with
  | nil =>
    obtain ⟨item, hitem, -⟩ := hbad
    cases hitem
  | cons item items ih =>
    by_cases hitem : Good item
    · have hrest : ∃ other ∈ items, ¬ Good other := by
        obtain ⟨other, hmem, hother⟩ := hbad
        rcases List.mem_cons.mp hmem with rfl | hmem
        · exact absurd hitem hother
        · exact ⟨other, hmem, hother⟩
      obtain ⟨room, hroom⟩ := ih hrest
        (fun other hother ↦ hgood other (List.mem_cons_of_mem _ hother))
        fun other hother ↦ hbreaks other (List.mem_cons_of_mem _ hother)
      exact ⟨_, Breaks.after (hgood item List.mem_cons_self hitem) hroom⟩
    · obtain ⟨room, hroom⟩ := hbreaks item List.mem_cons_self hitem
      exact ⟨room, hroom.bind⟩

end Breaks

/-- From anything that fits the buffer on, an encoder that comes to its end has appended exactly
these bytes, within the buffer. -/
def Yields (limit : ℕ) (x : Push Unit) (bytes : List UInt8) : Prop :=
  ∀ out next, out.length ≤ limit → x out = (.ok (), next) →
    next = out ++ bytes ∧ next.length ≤ limit

section Yields

theorem Emits.yields (h : Emits limit x bytes) : Yields limit x bytes := by
  intro out next hout hrun
  by_cases hroom : out.length + bytes.length ≤ limit
  · rw [h.writes.of_room hroom] at hrun
    cases hrun
    exact ⟨rfl, by rwa [List.length_append]⟩
  · obtain ⟨last, hreject⟩ := h.writes.of_no_room hout hroom
    rw [hreject] at hrun
    cases hrun

theorem Yields.bind (hx : Yields limit x front) (hf : Yields limit (f ()) back) :
    Yields limit (x >>= f) (front ++ back) := by
  intro out next hout hrun
  obtain ⟨u, middle, hfirst, hrest⟩ := Push.bind_eq_ok.mp hrun
  obtain ⟨rfl, hmiddle⟩ := hx out middle hout hfirst
  obtain ⟨rfl, hnext⟩ := hf _ next hmiddle hrest
  exact ⟨List.append_assoc .., hnext⟩

theorem yields_forEach {f : α → Push Unit} {g : α → List UInt8} {items : List α}
    (hf : ∀ item ∈ items, Yields limit (f item) (g item)) :
    Yields limit (Push.forEach f items) (items.flatMap g) := by
  induction items with
  | nil => exact (inferInstance : Emits limit (pure ()) []).yields
  | cons item items ih =>
    rw [Push.forEach, List.flatMap_cons]
    exact (hf item List.mem_cons_self).bind (ih fun other hother ↦
      hf other (List.mem_cons_of_mem _ hother))

end Yields

/-- The encoder never comes to its end, whatever the room. -/
def Fails (x : Push α) : Prop :=
  ∀ out a next, x out ≠ (.ok a, next)

section Fails

variable {β γ : Type} {u : Push β} {v : β → Push γ}

theorem Fails.bind (h : Fails u) : Fails (u >>= v) := by
  intro out c next hrun
  obtain ⟨b, mid, hu, -⟩ := Push.bind_eq_ok.mp hrun
  exact h out b mid hu

theorem Fails.after (h : ∀ b, Fails (v b)) : Fails (u >>= v) := by
  intro out c next hrun
  obtain ⟨b, mid, -, hv⟩ := Push.bind_eq_ok.mp hrun
  exact h b mid c next hv

theorem fails_ensure {p : Prop} [Decidable p] (hp : ¬ p) : Fails (Push.ensure p) := by
  intro out a next h
  rw [Push.ensure, if_neg hp] at h
  cases h

/-- One item that fails is enough. -/
theorem fails_forEach {f : α → Push Unit} {items : List α} {item : α} (hitem : item ∈ items)
    (h : Fails (f item)) : Fails (Push.forEach f items) := by
  induction items with
  | nil => cases hitem
  | cons first items ih =>
    rw [Push.forEach]
    rcases List.mem_cons.mp hitem with rfl | hrest
    · exact h.bind
    · exact Fails.after fun _ ↦ ih hrest

end Fails

end Encoders

/-! ### Decoders -/

section Decoders

variable {limit : ℕ} {α β : Type} {x y : Pull α} {front back bytes : List UInt8} {a a' : α}

instance : Decodes limit (pure a) [] a := ⟨reads_pure limit a⟩

instance {value : UInt8} : Decodes limit (Pull.pull8 limit) [value] value :=
  ⟨reads_pull8 limit value⟩

instance {value : UInt16} : Decodes limit (Pull.pull16 limit) (bytes16 value) value :=
  ⟨reads_pull16 limit value⟩

instance {value : UInt32} : Decodes limit (Pull.pull32 limit) (bytes32 value) value :=
  ⟨reads_pull32 limit value⟩

instance {f : α → Pull β} {b : β} [hx : Decodes limit x front a] [hf : Decodes limit (f a) back b] :
    Decodes limit (x >>= f) (front ++ back) b :=
  ⟨hx.reads.bind hf.reads⟩

instance {f : α → β} [hx : Decodes limit x bytes a] :
    Decodes limit (x >>= fun a ↦ pure (f a)) bytes (f a) :=
  ⟨hx.reads.map⟩

instance {f : α → β} [hx : Decodes limit x bytes a] : Decodes limit (f <$> x) bytes (f a) :=
  ⟨hx.reads.map⟩

instance {p : Prop} [Decidable p] [hx : Decodes limit x front a] [hy : Decodes limit y back a'] :
    Decodes limit (if p then x else y) (if p then front else back) (if p then a else a') where
  reads := by
    split_ifs
    · exact hx.reads
    · exact hy.reads

theorem reads_attempt {previous : α} (hx : Reads limit x bytes a) :
    Reads limit (Pull.attempt x previous) bytes a := by
  intro mem pos hholds hlimit
  rw [Pull.attempt, hx mem pos hholds hlimit]

instance {previous : α} [hx : Decodes limit x bytes a] :
    Decodes limit (Pull.attempt x previous) bytes a :=
  ⟨reads_attempt hx.reads⟩

/-- A check that holds is passed. -/
theorem reads_ensure {p : Prop} [Decidable p] {f : Unit → Pull α} (hp : p)
    (hx : Reads limit (f ()) bytes a) : Reads limit (Pull.ensure p >>= f) bytes a := by
  rw [Pull.ensure_of_true hp]
  exact hx

/-- Items that are decoded one by one, as many as there are. -/
theorem reads_repeatPull {γ : Type} {element : Pull α} {g : γ → List UInt8} {h : γ → α}
    {items : List γ} (helement : ∀ item ∈ items, Reads limit element (g item) (h item)) :
    Reads limit (Pull.repeatPull element items.length) (items.flatMap g) (items.map h) := by
  induction items with
  | nil => exact reads_pure limit []
  | cons item items ih =>
    rw [List.length_cons, Pull.repeatPull, List.flatMap_cons]
    have hrest := ih fun item hitem ↦ helement item (List.mem_cons_of_mem _ hitem)
    exact (helement item List.mem_cons_self).bind hrest.map

/-- Behind the items at the front the other ones are decoded. -/
theorem repeatPull_of_reads {γ : Type} {element : Pull α} {g : γ → List UInt8} {h : γ → α}
    {items : List γ} (helement : ∀ item ∈ items, Reads limit element (g item) (h item))
    {count : ℕ} {mem : Memory} {pos last : ℕ} {values : List α}
    (hholds : Holds mem pos (items.flatMap g)) (hlimit : pos + (items.flatMap g).length ≤ limit)
    (hrun : Pull.repeatPull element (items.length + count) mem pos = .ok (values, last)) :
    ∃ rest, values = items.map h ++ rest ∧
      Pull.repeatPull element count mem (pos + (items.flatMap g).length) = .ok (rest, last) := by
  induction items generalizing pos values with
  | nil =>
    rw [List.length_nil, Nat.zero_add] at hrun
    exact ⟨values, rfl, hrun⟩
  | cons item items ih =>
    rw [List.flatMap_cons, holds_append] at hholds
    rw [List.flatMap_cons, List.length_append, ← Nat.add_assoc] at hlimit ⊢
    rw [List.length_cons, Nat.add_right_comm, Pull.repeatPull,
      Pull.bind_of_ok (helement item List.mem_cons_self mem pos hholds.1
        (Nat.le_of_add_right_le hlimit))] at hrun
    obtain ⟨others, hothers, rfl⟩ := Pull.map_eq_ok.mp hrun
    obtain ⟨rest, rfl, hrest⟩ := ih (fun other hother ↦
      helement other (List.mem_cons_of_mem _ hother)) hholds.2 hlimit hothers
    exact ⟨rest, rfl, hrest⟩

/-- Items that are decoded into an array that has room for all of them. -/
theorem reads_fillList {γ : Type} {element outside : Pull α} {g : γ → List UInt8} {h : γ → α}
    {items : List γ} {capacity : ℕ} (hcapacity : items.length ≤ capacity)
    (helement : ∀ item ∈ items, Reads limit element (g item) (h item)) :
    Reads limit (Pull.fillList element outside capacity items.length) (items.flatMap g)
      (items.map h) := by
  rw [Pull.fillList_of_le _ _ hcapacity]
  exact reads_repeatPull helement

/-- Something that is read for each item of a list. -/
theorem reads_forEach {γ δ : Type} {f : γ → Pull α} {g : δ → List UInt8} {h : δ → γ} {k : δ → α}
    {items : List δ} (hf : ∀ item ∈ items, Reads limit (f (h item)) (g item) (k item)) :
    Reads limit (Pull.forEach f (items.map h)) (items.flatMap g) (items.map k) := by
  induction items with
  | nil => exact reads_pure limit []
  | cons item items ih =>
    rw [List.map_cons, Pull.forEach, List.flatMap_cons]
    have hrest := ih fun other hother ↦ hf other (List.mem_cons_of_mem _ hother)
    exact (hf item List.mem_cons_self).bind hrest.map

/-- Bytes are pulled as they are. -/
theorem reads_repeatPull_byte (bytes : List UInt8) :
    Reads limit (Pull.repeatPull Pull.byte bytes.length) bytes bytes := by
  have hbytes : Reads limit (Pull.repeatPull Pull.byte bytes.length)
      (bytes.flatMap fun value ↦ [value]) (bytes.map id) :=
    reads_repeatPull fun value _ ↦ reads_byte limit value
  rwa [List.flatMap_singleton', List.map_id] at hbytes

/-- The check for room that is computed without sign passes in front of bytes that fit. -/
theorem reads_unsigned_room {count : ℕ} (hcount : bytes.length = count)
    (hx : Reads limit x bytes a) :
    Reads limit (do
      let pos ← Pull.position
      Pull.ensure (limit < pos ∨ pos + count ≤ limit)
      x) bytes a := by
  intro mem pos hholds hlimit
  have hroom : limit < pos ∨ pos + count ≤ limit := Or.inr (hcount ▸ hlimit)
  show (do
    Pull.ensure (limit < pos ∨ pos + count ≤ limit)
    x) mem pos = _
  rw [Pull.ensure_of_true hroom]
  exact hx mem pos hholds hlimit

theorem reads_pullarray8 {maxLen count : ℕ} (hcount : bytes.length = count)
    (hmax : count ≤ maxLen) : Reads limit (Pull.pullarray8 maxLen count limit) bytes bytes := by
  subst hcount
  rw [Pull.pullarray8]
  by_cases hzero : bytes.length = 0
  · obtain rfl := List.length_eq_zero_iff.mp hzero
    rw [if_pos hzero]
    exact reads_pure limit []
  · rw [if_neg hzero]
    exact reads_ensure hmax (reads_unsigned_room rfl (reads_repeatPull_byte bytes))

theorem reads_pullarray16 {words : List UInt16} {maxLen count : ℕ}
    (hcount : words.length = count) (hmax : count ≤ maxLen) :
    Reads limit (Pull.pullarray16 maxLen count limit) (wordBytes16 words) words := by
  subst hcount
  rw [Pull.pullarray16]
  by_cases hzero : words.length = 0
  · obtain rfl := List.length_eq_zero_iff.mp hzero
    rw [if_pos hzero]
    exact reads_pure limit []
  · have hwords := @reads_repeatPull limit _ _ (Pull.pull16 limit) bytes16 id words
      fun word _ ↦ reads_pull16 limit word
    rw [List.map_id] at hwords
    rw [if_neg hzero]
    exact reads_ensure hmax (reads_unsigned_room (length_wordBytes16 words) hwords)

/-! ### Decoders that end at their limit -/

/-- The decoder that finds these bytes at its cursor, with its limit right behind them, returns the
value and stops there. -/
def Completes {α : Type} (limit : ℕ) (x : Pull α) (bytes : List UInt8) (a : α) : Prop :=
  ∀ mem pos, Holds mem pos bytes → pos + bytes.length = limit → x mem pos = .ok (a, limit)

theorem completes_of_reads (hx : Reads limit x bytes a) : Completes limit x bytes a := by
  intro mem pos hholds hlimit
  rw [← hlimit] at hx ⊢
  exact hx mem pos hholds (Nat.le_refl _)

theorem Completes.after {f : α → Pull β} {b : β} (hx : Reads limit x front a)
    (hf : Completes limit (f a) back b) : Completes limit (x >>= f) (front ++ back) b := by
  intro mem pos hholds hlimit
  rw [holds_append] at hholds
  rw [List.length_append] at hlimit
  rw [Pull.bind_of_ok (hx mem pos hholds.1 (by omega))]
  exact hf mem _ hholds.2 (by omega)

theorem Completes.map {f : α → β} (hx : Completes limit x bytes a) :
    Completes limit (f <$> x) bytes (f a) :=
  fun mem pos hholds hlimit ↦ Pull.bind_of_ok (hx mem pos hholds hlimit)

/-! ### Decoders that stop -/

/-- The decoder that finds these bytes at its cursor, below the limit, stops without a value. -/
def Stops {α : Type} (limit : ℕ) (x : Pull α) (bytes : List UInt8) (stop : Stop) : Prop :=
  ∀ mem pos, Holds mem pos bytes → pos + bytes.length ≤ limit → x mem pos = .error stop

theorem stops_crash (cause : Crash) : Stops limit (Pull.crash cause : Pull α) [] (.crash cause) :=
  fun _ _ _ _ ↦ rfl

/-- What stops at the first bytes stops, whatever is behind them. -/
theorem Stops.append {stop : Stop} (h : Stops limit x front stop) (back : List UInt8) :
    Stops limit x (front ++ back) stop := by
  intro mem pos hholds hlimit
  rw [List.length_append] at hlimit
  exact h mem pos (holds_append.mp hholds).1 (by omega)

theorem Stops.bind {stop : Stop} {f : α → Pull β} (h : Stops limit x bytes stop) :
    Stops limit (x >>= f) bytes stop :=
  fun mem pos hholds hlimit ↦ Pull.bind_of_error (h mem pos hholds hlimit)

theorem Stops.after {stop : Stop} {f : α → Pull β} (hx : Reads limit x front a)
    (h : Stops limit (f a) back stop) : Stops limit (x >>= f) (front ++ back) stop := by
  intro mem pos hholds hlimit
  rw [holds_append] at hholds
  rw [List.length_append] at hlimit
  rw [Pull.bind_of_ok (hx mem pos hholds.1 (by omega))]
  exact h mem _ hholds.2 (by omega)

theorem stops_ensure {p : Prop} [Decidable p] {f : Unit → Pull α} {stop : Stop} (hp : p)
    (hx : Stops limit (f ()) bytes stop) : Stops limit (Pull.ensure p >>= f) bytes stop := by
  rw [Pull.ensure_of_true hp]
  exact hx

/-- A check that does not hold rejects. -/
theorem rejects_ensure {p : Prop} [Decidable p] {f : Unit → Pull α} (hp : ¬ p) :
    Stops limit (Pull.ensure p >>= f) [] .reject := by
  rw [Pull.ensure_of_false hp]
  intro mem pos _ _
  rfl

theorem stops_unsigned_room {count : ℕ} {stop : Stop} (hcount : bytes.length = count)
    (hx : Stops limit x bytes stop) :
    Stops limit (do
      let pos ← Pull.position
      Pull.ensure (limit < pos ∨ pos + count ≤ limit)
      x) bytes stop := by
  intro mem pos hholds hlimit
  have hroom : limit < pos ∨ pos + count ≤ limit := Or.inr (hcount ▸ hlimit)
  show (do
    Pull.ensure (limit < pos ∨ pos + count ≤ limit)
    x) mem pos = _
  rw [Pull.ensure_of_true hroom]
  exact hx mem pos hholds hlimit

/-- A list with an item on which the decoder stops is not decoded. -/
theorem stops_repeatPull {γ : Type} {element : Pull α} {g : γ → List UInt8} {h : γ → α}
    {items : List γ} {Good : γ → Prop} {stop : Stop} (hbad : ∃ item ∈ items, ¬ Good item)
    (hgood : ∀ item ∈ items, Good item → Reads limit element (g item) (h item))
    (hstop : ∀ item ∈ items, ¬ Good item → Stops limit element (g item) stop) :
    Stops limit (Pull.repeatPull element items.length) (items.flatMap g) stop := by
  induction items with
  | nil =>
    obtain ⟨item, hitem, -⟩ := hbad
    cases hitem
  | cons item items ih =>
    rw [List.length_cons, Pull.repeatPull, List.flatMap_cons]
    by_cases hitem : Good item
    · have hrest : ∃ other ∈ items, ¬ Good other := by
        obtain ⟨other, hmem, hother⟩ := hbad
        rcases List.mem_cons.mp hmem with rfl | hmem
        · exact absurd hitem hother
        · exact ⟨other, hmem, hother⟩
      refine Stops.after (hgood item List.mem_cons_self hitem) (Stops.bind ?_)
      exact ih hrest (fun other hother ↦ hgood other (List.mem_cons_of_mem _ hother))
        fun other hother ↦ hstop other (List.mem_cons_of_mem _ hother)
    · exact (hstop item List.mem_cons_self hitem).bind.append _

/-- The decoder that finds these bytes at its cursor, with the end of the memory right behind them,
reads outside the memory. -/
def Overruns {α : Type} (limit : ℕ) (x : Pull α) (bytes : List UInt8) : Prop :=
  ∀ mem pos, Holds mem pos bytes → pos + bytes.length = limit → mem.size = limit →
    x mem pos = .error (.crash .fault)

theorem Overruns.bind {f : α → Pull β} (h : Overruns limit x bytes) :
    Overruns limit (x >>= f) bytes :=
  fun mem pos hholds hlimit hsize ↦ Pull.bind_of_error (h mem pos hholds hlimit hsize)

theorem Overruns.after {f : α → Pull β} (hx : Reads limit x front a)
    (h : Overruns limit (f a) back) : Overruns limit (x >>= f) (front ++ back) := by
  intro mem pos hholds hlimit hsize
  rw [holds_append] at hholds
  rw [List.length_append] at hlimit
  rw [Pull.bind_of_ok (hx mem pos hholds.1 (by omega))]
  exact h mem _ hholds.2 (by omega) hsize

theorem overruns_ensure {p : Prop} [Decidable p] {f : Unit → Pull α} (hp : p)
    (hx : Overruns limit (f ()) bytes) : Overruns limit (Pull.ensure p >>= f) bytes := by
  rw [Pull.ensure_of_true hp]
  exact hx

end Decoders

end MultiUeProxy.Lib.Codec
