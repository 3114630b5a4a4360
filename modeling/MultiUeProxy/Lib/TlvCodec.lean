import MultiUeProxy.Lib.Lockstep

/-!
# Tagged fields, written and read

An encoder writes a tagged field with a length that it does not know yet, then the value, and then
goes back to the length (`patched`, `packTlv`). Fields that are absent are left out. The list
decoders of `ByteCursor` read such fields into a structure, one by one: `ReadsFields` says that every
such loop (`FieldLoop`) gets over some bytes, and what it does to the structure. It is closed under
`trans`, so that a list of optional fields is proved field by field, and `tlvList_of_readsFields` and
`tagSwitch_of_readsFields` end the list.
-/

set_option autoImplicit false
set_option relaxedAutoImplicit false

namespace MultiUeProxy.Lib.TlvCodec

open ByteCursor ByteWriter Codec Lockstep
open ByteWriter.Push (push16 position patch)
open ByteCursor.Pull (Tl TlvField TlvPolicy)

/-- A structure that begins with a tag and a length. The structure for an absent field is what the
decoder leaves there. -/
class Tagged (τ : Type) where
  tl : τ → Tl
  setTl : τ → Tl → τ
  absent : τ

/-- A structure on the other side, when its value takes these bytes: with the right length if it has
the tag of its field, and absent otherwise. -/
def sent {τ : Type} [Tagged τ] (tag : UInt16) (bytes : τ → List UInt8) (value : τ) : τ :=
  if (Tagged.tl value).tag = tag then Tagged.setTl value ⟨tag, (bytes value).length.toUInt16⟩
  else Tagged.absent

/-! ### Writing -/

/-- Writes `front` and `value`, and then over the front what is made of the number of bytes from
its start on. -/
def patched (front value : Push Unit) (final : ℕ → List UInt8) : Push Unit := do
  let start ← position
  front
  value
  let stop ← position
  patch start (final (stop - start))

/-- Tag and length. -/
def packTl (limit : ℕ) (tl : Tl) : Push Unit := do
  push16 limit tl.tag
  push16 limit tl.length

/-- A tagged field. A structure with another tag is left out. -/
def packTlv (limit : ℕ) (tag : UInt16) (tl : Tl) (value : Push Unit) : Push Unit :=
  if tl.tag = tag then
    patched (packTl limit tl) value fun count ↦
      bytes16 tl.tag ++ bytes16 (count - 4).toUInt16
  else pure ()

/-- The bytes of a tagged field with this value. -/
def fieldBytes (tag : UInt16) (value : List UInt8) : List UInt8 :=
  bytes16 tag ++ (bytes16 value.length.toUInt16 ++ value)

/-- The bytes of a tagged field, if it is there. -/
def tlvBytes (tag : UInt16) (tl : Tl) (value : List UInt8) : List UInt8 :=
  if tl.tag = tag then fieldBytes tag value else []

/-- Zeros behind what is written, without a look at the room. -/
def pushZeros (limit count : ℕ) : Push Unit := fun out ↦
  if out.length + count ≤ limit then (.ok (), out ++ List.replicate count 0)
  else (.error (.crash .fault), out)

/-- A tagged field with zeros behind it, as many as its length asks for. -/
def packPaddedTlv (padding : UInt16 → ℕ) (limit : ℕ) (tag : UInt16) (tl : Tl) (value : Push Unit) :
    Push Unit :=
  if tl.tag = tag then do
    let start ← position
    packTlv limit tag tl value
    let stop ← position
    pushZeros limit (padding (stop - start - 4).toUInt16)
  else pure ()

/-- The bytes of a tagged field with zeros behind it, if it is there. -/
def paddedTlvBytes (padding : UInt16 → ℕ) (tag : UInt16) (tl : Tl) (value : List UInt8) :
    List UInt8 :=
  if tl.tag = tag then
    fieldBytes tag value ++ List.replicate (padding value.length.toUInt16) 0
  else []

theorem tlvBytes_of_tag {tag : UInt16} {tl : Tl} {value : List UInt8} (h : tl.tag = tag) :
    tlvBytes tag tl value = fieldBytes tag value :=
  if_pos h

theorem length_fieldBytes (tag : UInt16) (value : List UInt8) :
    (fieldBytes tag value).length = 4 + value.length := by
  simp only [fieldBytes, List.length_append, length_bytes16]
  omega

section Writing

variable {limit : ℕ} {front value : Push Unit} {placeholder bytes : List UInt8}

theorem patch_append (out old new rest : List UInt8) (h : new.length = old.length) :
    patch out.length new (out ++ (old ++ rest)) = (.ok (), out ++ (new ++ rest)) := by
  unfold patch
  rw [List.take_left, h, List.drop_append, List.append_assoc]
  have hpast : out.drop (out.length + old.length) = [] :=
    List.drop_eq_nil_of_le (Nat.le_add_right ..)
  rw [hpast, List.nil_append, Nat.add_sub_cancel_left, List.drop_left]

theorem emits_patched {final : ℕ → List UInt8} (hfront : Emits limit front placeholder)
    (hvalue : Emits limit value bytes)
    (hfinal : (final (placeholder.length + bytes.length)).length = placeholder.length) :
    Emits limit (patched front value final)
      (final (placeholder.length + bytes.length) ++ bytes) where
  writes out hout := by
    have hboth : Writes limit (do front; value) (placeholder ++ bytes) :=
      hfront.writes.andThen hvalue.writes
    have hposition : ∀ out, position out = (.ok out.length, out) := fun _ ↦ rfl
    have hsplit : patched front value final out = (do
        front
        value
        let stop ← position
        patch out.length (final (stop - out.length))) out := by
      unfold patched
      rw [Push.bind_of_ok (hposition out)]
    have hlength : (final (placeholder.length + bytes.length) ++ bytes).length =
        (placeholder ++ bytes).length := by
      rw [List.length_append, List.length_append, hfinal]
    rw [hsplit, hlength]
    by_cases hroom : out.length + (placeholder ++ bytes).length ≤ limit
    · have hfirst : out.length + placeholder.length ≤ limit := by
        rw [List.length_append] at hroom
        omega
      have hsecond : (out ++ placeholder).length + bytes.length ≤ limit := by
        simp only [List.length_append] at hroom ⊢
        omega
      rw [if_pos hroom, Push.bind_of_ok (hfront.writes.of_room hfirst),
        Push.bind_of_ok (hvalue.writes.of_room hsecond), Push.bind_of_ok (hposition _),
        List.append_assoc, List.length_append, Nat.add_sub_cancel_left, List.length_append]
      exact patch_append out placeholder _ bytes hfinal
    · rw [if_neg hroom]
      have hreject := hboth.of_no_room hout hroom
      by_cases hfirst : out.length + placeholder.length ≤ limit
      · have hnext := hfront.writes.of_room hfirst
        rw [Push.bind_of_ok hnext] at hreject ⊢
        obtain ⟨next, hvalue⟩ := hreject
        rw [Push.bind_of_error hvalue]
      · obtain ⟨next, hfront⟩ := hfront.writes.of_no_room hout hfirst
        rw [Push.bind_of_error hfront]

theorem emits_packTlv {tag : UInt16} {tl : Tl} (hvalue : tl.tag = tag → Emits limit value bytes) :
    Emits limit (packTlv limit tag tl value) (tlvBytes tag tl bytes) := by
  unfold packTlv tlvBytes
  split_ifs with htag
  · have := hvalue htag
    have hfront : Emits limit (packTl limit tl) (bytes16 tl.tag ++ bytes16 tl.length) := by
      unfold packTl
      infer_instance
    have hfield := @emits_patched limit _ value _ bytes
      (fun count ↦ bytes16 tl.tag ++ bytes16 (count - 4).toUInt16) hfront this rfl
    have hcount : (bytes16 tl.tag ++ bytes16 tl.length).length + bytes.length - 4 =
        bytes.length := Nat.add_sub_cancel_left ..
    rw [hcount, List.append_assoc, htag] at hfield
    rw [htag]
    exact hfield
  · infer_instance

instance {tag : UInt16} {tl : Tl} [h : Emits limit value bytes] :
    Emits limit (packTlv limit tag tl value) (tlvBytes tag tl bytes) :=
  emits_packTlv fun _ ↦ h

theorem yields_packPaddedTlv {padding : UInt16 → ℕ} {tag : UInt16} {tl : Tl}
    (hvalue : tl.tag = tag → Emits limit value bytes) :
    Yields limit (packPaddedTlv padding limit tag tl value)
      (paddedTlvBytes padding tag tl bytes) := by
  unfold packPaddedTlv paddedTlvBytes
  split_ifs with htag
  · intro out next hout hrun
    have hposition : ∀ out, position out = (.ok out.length, out) := fun _ ↦ rfl
    rw [Push.bind_of_ok (hposition out)] at hrun
    obtain ⟨u, middle, hfield, hrest⟩ := Push.bind_eq_ok.mp hrun
    obtain ⟨rfl, -⟩ := (emits_packTlv hvalue).yields out middle hout hfield
    rw [Push.bind_of_ok (hposition _), tlvBytes_of_tag htag] at hrest
    have hlength : (out ++ fieldBytes tag bytes).length - out.length - 4 = bytes.length := by
      rw [List.length_append, length_fieldBytes]
      omega
    rw [hlength, pushZeros] at hrest
    split_ifs at hrest with hroom
    · cases hrest
      rw [List.length_append, List.length_replicate]
      exact ⟨List.append_assoc .., hroom⟩
    · cases hrest
  · exact (inferInstance : Emits limit (pure ()) []).yields

/-- With room for the field and the zeros behind it, both are written. -/
theorem encodes_packPaddedTlv {padding : UInt16 → ℕ} {tag : UInt16} {tl : Tl} (htag : tl.tag = tag)
    (hvalue : Emits limit value bytes) :
    Encodes limit (packPaddedTlv padding limit tag tl value)
      (fieldBytes tag bytes ++ List.replicate (padding bytes.length.toUInt16) 0) where
  run out hroom := by
    have hposition : ∀ out, position out = (.ok out.length, out) := fun _ ↦ rfl
    have htlv : Emits limit (packTlv limit tag tl value) (tlvBytes tag tl bytes) :=
      emits_packTlv fun _ ↦ hvalue
    rw [tlvBytes_of_tag htag] at htlv
    rw [List.length_append, List.length_replicate] at hroom
    have hfield : packTlv limit tag tl value out = (.ok (), out ++ fieldBytes tag bytes) :=
      htlv.writes.of_room (by omega)
    have hlength : (out ++ fieldBytes tag bytes).length - out.length - 4 = bytes.length := by
      rw [List.length_append, length_fieldBytes]
      omega
    unfold packPaddedTlv
    rw [if_pos htag, Push.bind_of_ok (hposition out), Push.bind_of_ok hfield,
      Push.bind_of_ok (hposition _), hlength, pushZeros, if_pos, List.append_assoc]
    rw [List.length_append]
    omega

theorem fails_patched {final : ℕ → List UInt8} (h : Fails value) :
    Fails (patched front value final) :=
  Fails.after fun _ ↦ Fails.after fun _ ↦ h.bind

theorem fails_packTlv {tag : UInt16} {tl : Tl} (htag : tl.tag = tag) (h : Fails value) :
    Fails (packTlv limit tag tl value) := by
  rw [packTlv, if_pos htag]
  exact fails_patched h

end Writing

/-! ### Reading -/

section Reading

variable {σ : Type} {policy : TlvPolicy} {fields : List (TlvField σ)}
  {value value' value'' : σ} {bytes front back : List UInt8}

/-- A loop over tagged fields, with a bound on the number of its iterations: it goes on while the
cursor is below `stop`, and it reads with the limit `limit`. What it does with a field that is not
decoded does not matter. -/
structure FieldLoop (fields : List (TlvField σ)) (limit stop : ℕ) (loop : ℕ → σ → Pull σ) :
    Prop where
  step : ∀ bound value mem pos tl next field value' last, pos < stop →
    Pull.unpackTl limit mem pos = .ok (tl, next) →
    (fields.find? fun field ↦ field.tag == tl.tag) = some field →
    field.unpack tl limit value mem next = .ok (value', last) →
    loop (bound + 1) value mem pos = loop bound value' mem last
  done : ∀ bound value mem pos, ¬ pos < stop → loop (bound + 1) value mem pos = .ok (value, pos)

theorem fieldLoop_tlvLoop (policy : TlvPolicy) (fields : List (TlvField σ)) (limit badTags : ℕ) :
    FieldLoop fields limit limit fun bound ↦ Pull.tlvLoop policy fields limit bound badTags where
  step bound value mem pos tl next field value' last hpos htl hfind hunpack := by
    have hposition : Pull.position mem pos = .ok (pos, pos) := rfl
    conv =>
      lhs
      unfold Pull.tlvLoop
    rw [Pull.bind_of_ok hposition, if_pos hpos, Pull.bind_of_ok htl]
    simp only [hfind]
    exact Pull.bind_of_ok hunpack
  done bound value mem pos hpos := by
    have hposition : Pull.position mem pos = .ok (pos, pos) := rfl
    unfold Pull.tlvLoop
    rw [Pull.bind_of_ok hposition, if_neg hpos]
    rfl

theorem fieldLoop_tagSwitchLoop (fields : List (TlvField σ)) (limit stop : ℕ) :
    FieldLoop fields limit stop (Pull.tagSwitchLoop fields limit stop) where
  step bound value mem pos tl next field value' last hpos htl hfind hunpack := by
    have hposition : Pull.position mem pos = .ok (pos, pos) := rfl
    conv =>
      lhs
      unfold Pull.tagSwitchLoop
    rw [Pull.bind_of_ok hposition, if_pos hpos, Pull.bind_of_ok htl]
    simp only [hfind]
    exact Pull.bind_of_ok hunpack
  done bound value mem pos hpos := by
    have hposition : Pull.position mem pos = .ok (pos, pos) := rfl
    unfold Pull.tagSwitchLoop
    rw [Pull.bind_of_ok hposition, if_neg hpos]
    rfl

/-- Every loop over the fields gets over these bytes, changing the structure on the way. -/
def ReadsFields (fields : List (TlvField σ)) (value : σ) (bytes : List UInt8) (value' : σ) :
    Prop :=
  ∀ limit stop loop, FieldLoop fields limit stop loop → ∀ mem pos bound, Holds mem pos bytes →
    pos + bytes.length ≤ limit → pos + bytes.length ≤ stop → stop - pos < bound →
      ∃ bound', stop - (pos + bytes.length) < bound' ∧
        loop bound value mem pos = loop bound' value' mem (pos + bytes.length)

theorem ReadsFields.refl : ReadsFields fields value [] value :=
  fun _ _ _ _ _ _ bound _ _ _ hbound ↦ ⟨bound, hbound, rfl⟩

theorem ReadsFields.trans (hfront : ReadsFields fields value front value')
    (hback : ReadsFields fields value' back value'') :
    ReadsFields fields value (front ++ back) value'' := by
  intro limit stop loop hloop mem pos bound hholds hlimit hstop hbound
  rw [holds_append] at hholds
  rw [List.length_append, ← Nat.add_assoc] at hlimit hstop ⊢
  obtain ⟨mid, hmid, hfirst⟩ := hfront limit stop loop hloop mem pos bound hholds.1
    (Nat.le_of_add_right_le hlimit) (Nat.le_of_add_right_le hstop) hbound
  obtain ⟨last, hlast, hsecond⟩ :=
    hback limit stop loop hloop mem _ mid hholds.2 hlimit hstop hmid
  exact ⟨last, hlast, hfirst.trans hsecond⟩

theorem reads_unpackTl (limit : ℕ) (tl : Tl) :
    Reads limit (Pull.unpackTl limit) (bytes16 tl.tag ++ bytes16 tl.length) tl :=
  (reads_pull16 limit _).bind (reads_pull16 limit _).map

/-- One field. -/
theorem readsFields_field {tag length : UInt16} {field : TlvField σ}
    (hfind : (fields.find? fun field ↦ field.tag == tag) = some field)
    (hvalue : ∀ limit, Reads limit (field.unpack ⟨tag, length⟩ limit value) bytes value') :
    ReadsFields fields value (bytes16 tag ++ (bytes16 length ++ bytes)) value' := by
  intro limit stop loop hloop mem pos bound hholds hlimit hstop hbound
  rw [← List.append_assoc] at hholds hlimit hstop ⊢
  rw [holds_append] at hholds
  rw [List.length_append] at hlimit hstop ⊢
  have hfour : (bytes16 tag ++ bytes16 length).length = 4 := rfl
  rw [hfour, ← Nat.add_assoc] at hlimit hstop ⊢
  rw [hfour] at hholds
  cases bound with
  | zero => exact absurd hbound (Nat.not_lt_zero _)
  | succ bound =>
    have htl := reads_unpackTl limit ⟨tag, length⟩ mem pos hholds.1 (by rw [hfour]; omega)
    rw [hfour] at htl
    refine ⟨bound, by omega, ?_⟩
    exact hloop.step bound value mem pos _ _ _ _ _ (by omega) htl hfind
      (hvalue limit mem _ hholds.2 hlimit)

/-- One field that may be absent, which leaves the structure as it is. -/
theorem readsFields_tlv {tag : UInt16} {tl : Tl} {field : TlvField σ}
    (hfind : (fields.find? fun field ↦ field.tag == tag) = some field)
    (hvalue : tl.tag = tag → ∀ limit,
      Reads limit (field.unpack ⟨tag, bytes.length.toUInt16⟩ limit value) bytes value')
    (habsent : tl.tag ≠ tag → value' = value) :
    ReadsFields fields value (tlvBytes tag tl bytes) value' := by
  unfold tlvBytes
  split_ifs with htag
  · exact readsFields_field hfind (hvalue htag)
  · rw [habsent htag]
    exact ReadsFields.refl

/-- One field that may be absent and that goes to one component of the structure, which is absent
so far. -/
theorem readsFields_sent {τ : Type} [Tagged τ] {tag : UInt16} {field : TlvField σ}
    {component : τ} {bytes : τ → List UInt8} (update : σ → τ → σ)
    (hstart : update value Tagged.absent = value)
    (hfind : (fields.find? fun field ↦ field.tag == tag) = some field)
    (hvalue : (Tagged.tl component).tag = tag → ∀ limit length,
      Reads limit (field.unpack ⟨tag, length⟩ limit value) (bytes component)
        (update value (Tagged.setTl component ⟨tag, length⟩))) :
    ReadsFields fields value (tlvBytes tag (Tagged.tl component) (bytes component))
      (update value (sent tag bytes component)) := by
  apply readsFields_tlv hfind
  · intro htag limit
    rw [sent, if_pos htag]
    exact hvalue htag limit _
  · intro htag
    rw [sent, if_neg htag, hstart]

/-- A loop that starts with a large enough bound ends at `stop`, behind the fields. -/
theorem fieldLoop_of_readsFields (h : ReadsFields fields value bytes value') {limit stop : ℕ}
    {loop : ℕ → σ → Pull σ} (hloop : FieldLoop fields limit stop loop) {mem : Memory} {pos : ℕ}
    (hholds : Holds mem pos bytes) (hlimit : pos + bytes.length ≤ limit)
    (hstop : pos + bytes.length = stop) :
    loop (stop - pos + 1) value mem pos = .ok (value', stop) := by
  obtain ⟨bound, hbound, hrun⟩ := h limit stop loop hloop mem pos (stop - pos + 1) hholds hlimit
    (Nat.le_of_eq hstop) (Nat.lt_succ_self _)
  rw [hrun, hstop]
  cases bound with
  | zero => exact absurd hbound (Nat.not_lt_zero _)
  | succ bound => exact hloop.done bound value' mem stop (Nat.lt_irrefl _)

/-- The decoder returns the structure when the list ends at its limit. -/
theorem tlvList_of_readsFields (h : ReadsFields fields value bytes value')
    {mem : Memory} {pos : ℕ} (hholds : Holds mem pos bytes) :
    Pull.tlvList policy fields (pos + bytes.length) value mem pos =
      .ok (value', pos + bytes.length) := by
  have hposition : Pull.position mem pos = .ok (pos, pos) := rfl
  unfold Pull.tlvList
  rw [Pull.bind_of_ok hposition]
  exact fieldLoop_of_readsFields h (fieldLoop_tlvLoop policy fields _ 0) hholds (Nat.le_refl _) rfl

/-- The switch over the tags returns the structure when the fields end where it stops. -/
theorem tagSwitch_of_readsFields (h : ReadsFields fields value bytes value') {limit : ℕ}
    {mem : Memory} {pos : ℕ} (hholds : Holds mem pos bytes) (hlimit : pos + bytes.length ≤ limit) :
    Pull.tagSwitch fields limit (pos + bytes.length) value mem pos =
      .ok (value', pos + bytes.length) := by
  have hposition : Pull.position mem pos = .ok (pos, pos) := rfl
  unfold Pull.tagSwitch
  rw [Pull.bind_of_ok hposition]
  exact fieldLoop_of_readsFields h (fieldLoop_tagSwitchLoop fields limit _) hholds hlimit rfl

/-- The switch over the tags rejects what has less bytes behind its fields than a tag and a length
take. -/
theorem tagSwitch_of_short_rest (h : ReadsFields fields value bytes value') {limit : ℕ}
    {mem : Memory} {pos : ℕ} (hholds : Holds mem pos bytes) (hrest : pos + bytes.length < limit)
    (hshort : limit < pos + bytes.length + 4) (hsize : limit ≤ mem.size) :
    Pull.tagSwitch fields limit limit value mem pos = .error .reject := by
  have hposition : ∀ pos, Pull.position mem pos = .ok (pos, pos) := fun _ ↦ rfl
  obtain ⟨bound, hbound, hrun⟩ := h limit limit _ (fieldLoop_tagSwitchLoop fields limit limit) mem
    pos (limit - pos + 1) hholds (Nat.le_of_lt hrest) (Nat.le_of_lt hrest) (Nat.lt_succ_self _)
  have htl : Pull.unpackTl limit mem (pos + bytes.length) = .error .reject := by
    unfold Pull.unpackTl
    by_cases htag : pos + bytes.length + 2 ≤ limit
    · rw [Pull.bind_of_ok (Pull.pull16_of_room htag (by omega)),
        Pull.bind_of_error (Pull.pull16_of_no_room (by omega))]
    · rw [Pull.bind_of_error (Pull.pull16_of_no_room htag)]
  unfold Pull.tagSwitch
  rw [Pull.bind_of_ok (hposition pos), hrun]
  cases bound with
  | zero => exact absurd hbound (Nat.not_lt_zero _)
  | succ bound =>
    unfold Pull.tagSwitchLoop
    rw [Pull.bind_of_ok (hposition _), if_pos hrest, Pull.bind_of_error htl]

/-- The decoder stops where the decoder of the first field does. -/
theorem tlvList_of_stops {tag length : UInt16} {field : TlvField σ} {limit : ℕ} {stop : Stop}
    {mem : Memory} {pos : ℕ}
    (hfind : (fields.find? fun field ↦ field.tag == tag) = some field)
    (hholds : Holds mem pos (bytes16 tag ++ bytes16 length)) (hlimit : pos + 4 ≤ limit)
    (hvalue : field.unpack ⟨tag, length⟩ limit value mem (pos + 4) = .error stop) :
    Pull.tlvList policy fields limit value mem pos = .error stop := by
  have hposition : Pull.position mem pos = .ok (pos, pos) := rfl
  have htl := reads_unpackTl limit ⟨tag, length⟩ mem pos hholds hlimit
  have hfour : (bytes16 tag ++ bytes16 length).length = 4 := rfl
  rw [hfour] at htl
  unfold Pull.tlvList
  rw [Pull.bind_of_ok hposition]
  unfold Pull.tlvLoop
  rw [Pull.bind_of_ok hposition, if_pos (by omega), Pull.bind_of_ok htl]
  simp only [hfind]
  rw [Pull.bind_of_error hvalue]

end Reading

end MultiUeProxy.Lib.TlvCodec
