import MultiUeProxy.Tlv.ListDecoder

/-!
# Fields at declared lengths

A message of well-framed fields is read field by field if every field is left where its declared
length says. A bad tag is: it is passed over by this length. A field that is in the table is left
where the functions of the table leave it, and a vendor extension where its decoder does. So the
fields are read from their places exactly if these take what is declared (`resynchronises_iff`).

From each state on, `loopFrom` is the next state in front of the loop, which is where the next tag
is read.
-/

set_option autoImplicit false
set_option relaxedAutoImplicit false

namespace MultiUeProxy.Tlv.Resync

open Lib.Execution Lib.ByteCursor Lib.ByteWriter Lib.InPlace Lib.Machine ListDecoder
open Lib.ByteCursor.Pull (Tl)
open P5.Message (VendorResult getTlvPadding)
open P7.Header (maxBadTag vendorExtensionMinTagValue)

variable {σ : Type}

/-! ### Messages -/

/-- A field with as many bytes as its length says, and the padding behind it. -/
structure Frame (decoder : Decoder) where
  tag : UInt16
  value : List UInt8
  padding : List UInt8
  length_value : value.length < 65536
  length_padding : padding.length = decoder.padding value.length.toUInt16

namespace Frame

variable {decoder : Decoder} (frame : Frame decoder)

def tl : Tl := ⟨frame.tag, frame.value.length.toUInt16⟩

def bytes : List UInt8 :=
  bytes16 frame.tag ++ bytes16 frame.value.length.toUInt16 ++ frame.value ++ frame.padding

def size : ℕ := 4 + frame.value.length + frame.padding.length

theorem length_bytes : frame.bytes.length = frame.size := by
  simp only [bytes, size, List.length_append, length_bytes16]

theorem toNat_length : frame.tl.length.toNat = frame.value.length :=
  UInt16.toNat_ofNat_of_lt frame.length_value

theorem size_eq : frame.size = 4 + (frame.tl.length.toNat + decoder.padding frame.tl.length) := by
  rw [toNat_length, size, frame.length_padding, Nat.add_assoc]
  rfl

/-- A field is its tag and its length if it has no value. -/
theorem size_eq_four_iff : frame.size = 4 ↔ frame.value = [] := by
  constructor
  · intro hsize
    apply List.length_eq_zero_iff.mp
    unfold size at hsize
    omega
  · intro hvalue
    have hzero : frame.tl.length = 0 := by
      unfold tl
      rw [hvalue]
      rfl
    rw [size_eq, hzero, decoder.padding_zero]
    rfl

end Frame

/-- Where a field begins, by the declared lengths of those before it. -/
def offset {decoder : Decoder} (frames : List (Frame decoder)) (pos count : ℕ) : ℕ :=
  pos + ((frames.take count).flatMap Frame.bytes).length

theorem offset_succ {decoder : Decoder} {frames : List (Frame decoder)} {pos count : ℕ}
    {frame : Frame decoder} (h : frames[count]? = some frame) :
    offset frames pos (count + 1) = offset frames pos count + frame.size := by
  unfold offset
  rw [List.take_add_one, h, List.flatMap_append, List.length_append, ← Nat.add_assoc]
  show _ + (frame.bytes ++ []).length = _
  rw [List.append_nil, frame.length_bytes]

/-! ### From one field to the next -/

def isLoop (s : State σ) : Bool :=
  match s.control with
  | .loop => true
  | _ => false

/-- The states of a call, with the number of tags that were read before. -/
def ComesAfter (call : Call σ) (value : σ) (pos count : ℕ) (s : State σ) : Prop :=
  ReachesAfter call.step isLoop (.start value pos) count s

/-- What the entries of a table make of a field one behind the other, with the padding that is
passed over behind each of them. -/
def decodeEntries (call : Call σ) (genericTl : Tl) : List (Unpacker σ) → σ → ℕ → Option (σ × ℕ)
  | [], value, pos => some (value, pos)
  | entry :: rest, value, pos =>
    if entry.tag = genericTl.tag then
      match entry.unpackFunc call.limit call.mem (entry.setTl value genericTl) pos with
      | .ok (true, value, next) =>
        decodeEntries call genericTl rest value
          (next + call.decoder.padding (entry.tl value).length)
      | _ => none
    else decodeEntries call genericTl rest value pos

def atLoop (s : State σ) : Option (State σ) := if isLoop s then some s else none

/-- Where the loop goes on behind the table. -/
def loopBehind (call : Call σ) (genericTl : Tl) (tagMatch : Bool) (s : State σ) :
    Option (State σ) :=
  match call.noEntry genericTl tagMatch s with
  | .ok (some t) =>
    match t.control with
    | .badTag genericTl => atLoop (call.passOver genericTl t)
    | _ => atLoop t
  | _ => none

def hasTag (genericTl : Tl) (entries : List (Unpacker σ)) : Bool :=
  entries.any fun entry ↦ entry.tag == genericTl.tag

/-- The next state in front of the loop. -/
def loopFrom (call : Call σ) (s : State σ) : Option (State σ) :=
  match s.control with
  | .loop => some s
  | .entries genericTl tagMatch rest =>
    (decodeEntries call genericTl rest s.value s.pos).bind fun (value, pos) ↦
      loopBehind call genericTl (tagMatch || hasTag genericTl rest) { s with value, pos }
  | .badTag genericTl => atLoop (call.passOver genericTl s)
  | .returned _ => none

section Loops

variable {call : Call σ} {s t : State σ}

theorem atLoop_passOver (genericTl : Tl) (s : State σ) :
    loopFrom call (call.passOver genericTl s) = atLoop (call.passOver genericTl s) := by
  unfold Call.passOver
  split_ifs
  · rfl
  · rfl
  · rfl

/-- Behind the table, a decoder is out of the inner loop. -/
theorem noEntry_control {genericTl : Tl} {tagMatch : Bool}
    (h : call.noEntry genericTl tagMatch s = .ok (some t)) (genericTl' : Tl) (tagMatch' : Bool)
    (rest : List (Unpacker σ)) : t.control ≠ .entries genericTl' tagMatch' rest := by
  unfold Call.noEntry at h
  split_ifs at h
  · cases h
    nofun
  · split at h
    · cases h
      nofun
    · split at h
      · cases h
        nofun
      · cases h
        nofun
      · cases h
        nofun
      · cases h
  · cases h
    nofun

/-- Behind the table, a step leads on to where the loop goes on. -/
theorem loopBehind_eq {genericTl : Tl} {tagMatch : Bool}
    (h : call.noEntry genericTl tagMatch s = .ok (some t)) :
    loopBehind call genericTl tagMatch s = loopFrom call t := by
  have hcontrol := noEntry_control h
  obtain ⟨control, numBadTags, value, pos⟩ := t
  unfold loopBehind
  rw [h]
  cases control with
  | entries genericTl' tagMatch' rest => exact absurd rfl (hcontrol genericTl' tagMatch' rest)
  | loop => rfl
  | badTag genericTl' => rfl
  | returned result => rfl

/-- A step within the loop leads on to where the loop goes on. -/
theorem loopFrom_step (hloop : isLoop s = false) (hstep : call.step s = .ok (some t)) :
    loopFrom call s = loopFrom call t := by
  obtain ⟨control, numBadTags, value, pos⟩ := s
  unfold Call.step at hstep
  cases control with
  | loop => cases hloop
  | returned result => cases hstep
  | badTag genericTl =>
    cases hstep
    exact (atLoop_passOver _ _).symm
  | entries genericTl tagMatch rest =>
    cases rest with
    | nil =>
      show loopBehind call genericTl (tagMatch || false) _ = _
      rw [Bool.or_false]
      exact loopBehind_eq hstep
    | cons entry rest =>
      replace hstep : call.tryEntry genericTl tagMatch entry rest _ = .ok (some t) := hstep
      unfold Call.tryEntry at hstep
      show Option.bind (decodeEntries call genericTl (entry :: rest) value pos) _ = _
      rw [decodeEntries]
      have hany : hasTag genericTl (entry :: rest) =
          (entry.tag == genericTl.tag || hasTag genericTl rest) := rfl
      rw [hany]
      by_cases htag : entry.tag = genericTl.tag
      · rw [if_pos htag] at hstep ⊢
        rw [beq_iff_eq.mpr htag, Bool.true_or, Bool.or_true]
        split at hstep
        · rename_i value' next hrun
          cases hstep
          rw [hrun]
          rfl
        · rename_i value' next hrun
          cases hstep
          rw [hrun]
          rfl
        · cases hstep
      · rw [if_neg htag] at hstep ⊢
        rw [beq_false_of_ne htag, Bool.false_or]
        cases hstep
        rfl

theorem isLoop_of_atLoop (h : atLoop s = some t) : isLoop t = true := by
  unfold atLoop at h
  split_ifs at h with hloop
  cases h
  exact hloop

theorem isLoop_of_loopFrom (h : loopFrom call s = some t) : isLoop t = true := by
  obtain ⟨control, numBadTags, value, pos⟩ := s
  cases control with
  | loop =>
    cases h
    rfl
  | returned result => cases h
  | badTag genericTl => exact isLoop_of_atLoop h
  | entries genericTl tagMatch rest =>
    obtain ⟨⟨decoded, next⟩, -, hbehind⟩ := Option.bind_eq_some_iff.mp h
    dsimp only at hbehind
    unfold loopBehind at hbehind
    split at hbehind
    · split at hbehind
      · exact isLoop_of_atLoop hbehind
      · exact isLoop_of_atLoop hbehind
    · cases hbehind

/-- How many steps there are at most until the loop goes on. -/
def depth (s : State σ) : ℕ :=
  match s.control with
  | .loop | .returned _ => 0
  | .badTag _ => 1
  | .entries _ _ rest => rest.length + 2

theorem depth_passOver (genericTl : Tl) : depth (call.passOver genericTl s) = 0 := by
  unfold Call.passOver
  split_ifs
  · rfl
  · rfl
  · rfl

/-- A state from which the loop goes on has a step that leads nearer to it. -/
theorem exists_step {u : State σ} (hloop : isLoop s = false) (h : loopFrom call s = some u) :
    ∃ t, call.step s = .ok (some t) ∧ depth t < depth s := by
  obtain ⟨control, numBadTags, value, pos⟩ := s
  cases control with
  | loop => cases hloop
  | returned result => cases h
  | badTag genericTl =>
    refine ⟨_, rfl, ?_⟩
    rw [depth_passOver]
    exact Nat.one_pos
  | entries genericTl tagMatch rest =>
    cases rest with
    | nil =>
      replace h : loopBehind call genericTl (tagMatch || false) _ = some u := h
      rw [Bool.or_false] at h
      unfold loopBehind at h
      split at h
      · rename_i t hnoEntry
        refine ⟨t, hnoEntry, ?_⟩
        have hcontrol := noEntry_control hnoEntry
        obtain ⟨control, numBadTags', value', pos'⟩ := t
        cases control with
        | entries genericTl' tagMatch' rest => exact absurd rfl (hcontrol genericTl' tagMatch' rest)
        | loop => exact Nat.succ_pos 1
        | badTag genericTl' => exact Nat.lt_succ_self 1
        | returned result => exact Nat.succ_pos 1
      · cases h
    | cons entry rest =>
      replace h : Option.bind (decodeEntries call genericTl (entry :: rest) value pos) _ =
        some u := h
      rw [decodeEntries] at h
      show ∃ t, call.tryEntry genericTl tagMatch entry rest _ = _ ∧ _
      unfold Call.tryEntry
      by_cases htag : entry.tag = genericTl.tag
      · rw [if_pos htag] at h ⊢
        split at h
        · rename_i value' next hrun
          dsimp only
          rw [hrun]
          exact ⟨_, rfl, Nat.lt_succ_self _⟩
        · cases h
      · rw [if_neg htag] at h ⊢
        exact ⟨_, rfl, Nat.lt_succ_self _⟩

variable {value : σ} {pos count : ℕ}

/-- A run comes to where the loop goes on. -/
theorem comesAfter_loopFrom (hs : ComesAfter call value pos count s)
    (h : loopFrom call s = some t) : ComesAfter call value pos count t := by
  generalize hdepth : depth s = steps
  induction steps using Nat.strongRecOn generalizing s with
  | ind steps ih =>
    cases hloop : isLoop s with
    | true =>
      unfold isLoop at hloop
      unfold loopFrom at h
      split at hloop
      · rename_i hcontrol
        rw [hcontrol] at h
        cases h
        exact hs
      · cases hloop
    | false =>
      obtain ⟨next, hstep, hless⟩ := exists_step hloop h
      have hnext := hs.next hstep
      rw [hloop] at hnext
      exact ih (depth next) (hdepth ▸ hless) hnext (loopFrom_step hloop hstep ▸ h) rfl

/-- Behind the first tag, a run is on its way from a state in front of the loop. -/
theorem comesAfter_cases (h : ComesAfter call value pos count t) :
    (count = 0 ∧ t = .start value pos) ∨ ∃ before s u, count = before + 1 ∧
      ComesAfter call value pos before s ∧ isLoop s = true ∧ call.step s = .ok (some u) ∧
      loopFrom call u = loopFrom call t := by
  induction h with
  | refl => exact .inl ⟨rfl, rfl⟩
  | @next count s t hs hstep ih =>
    right
    cases hloop : isLoop s with
    | true => exact ⟨count, s, t, rfl, hs, hloop, hstep, rfl⟩
    | false =>
      rcases ih with ⟨-, rfl⟩ | ⟨before, s', u, hcount, hs', hloop', hstep', hfrom⟩
      · cases hloop
      · exact ⟨before, s', u, hcount, hs', hloop', hstep',
          hfrom.trans (loopFrom_step hloop hstep)⟩

end Loops

/-! ### Fields that are left where they end -/

/-- What the decoder for vendor extensions says about a field fits where it leaves it. -/
def VendorExact (call : Call σ) (s : State σ) (frame : Frame call.decoder) :
    VendorResult → ℕ → Prop
  | .failed, _ => True
  | .decoded, next => next = s.pos + frame.size
  | .unknown, next => s.numBadTags + 1 ≤ maxBadTag → next + frame.value.length ≤ call.limit →
      next = s.pos + 4

/-- The functions for a field take as many bytes as it has. For a bad tag there is nothing to
take. -/
def Exact (call : Call σ) (s : State σ) (frame : Frame call.decoder) : Prop :=
  if hasTag frame.tl call.unpackFns then
    ∀ value next, decodeEntries call frame.tl call.unpackFns s.value (s.pos + 4) =
      some (value, next) → next = s.pos + frame.size
  else if vendorExtensionMinTagValue ≤ frame.tag then
    match call.unpackVendorExtensionTlv with
    | none => frame.value = []
    | some unpack => ∀ result value next,
        unpack frame.tl call.limit call.mem s.value (s.pos + 4) = .ok (result, value, next) →
        VendorExact call s frame result next
  else True

section Exact

variable {call : Call σ} {s : State σ} {frame : Frame call.decoder}

theorem decodeEntries_of_none {genericTl : Tl} {entries : List (Unpacker σ)} {value : σ} {pos : ℕ}
    (h : hasTag genericTl entries = false) :
    decodeEntries call genericTl entries value pos = some (value, pos) := by
  induction entries with
  | nil => rfl
  | cons entry rest ih =>
    have hboth : (entry.tag == genericTl.tag) = false ∧ hasTag genericTl rest = false :=
      Bool.or_eq_false_iff.mp h
    rw [decodeEntries, if_neg (beq_eq_false_iff_ne.mp hboth.1), ih hboth.2]

theorem decodeEntries_one {genericTl : Tl} {entry : Unpacker σ} {value value' : σ} {pos next : ℕ}
    (htag : entry.tag = genericTl.tag)
    (hrun : entry.unpackFunc call.limit call.mem (entry.setTl value genericTl) pos =
      .ok (true, value', next)) :
    decodeEntries call genericTl [entry] value pos =
      some (value', next + call.decoder.padding (entry.tl value').length) := by
  rw [decodeEntries, if_pos htag, hrun]
  rfl

/-- What the only entry makes of a field. -/
theorem decodeEntries_only {genericTl : Tl} {entry : Unpacker σ} {value value' : σ} {pos next : ℕ}
    (htag : entry.tag = genericTl.tag)
    (h : decodeEntries call genericTl [entry] value pos = some (value', next)) :
    ∃ last, entry.unpackFunc call.limit call.mem (entry.setTl value genericTl) pos =
      .ok (true, value', last) ∧ next = last + call.decoder.padding (entry.tl value').length := by
  rw [decodeEntries, if_pos htag] at h
  split at h
  · rename_i decoded last hrun
    cases h
    exact ⟨last, hrun, rfl⟩
  · cases h

/-- A bad tag is passed over up to its end if the cursor is at its value. -/
theorem passOver_iff {t : State σ} (pos : ℕ) :
    (∀ u, atLoop (call.passOver frame.tl t) = some u → u.pos = pos + frame.size) ↔
      (t.numBadTags + 1 ≤ maxBadTag → t.pos + frame.value.length ≤ call.limit →
        t.pos = pos + 4) := by
  unfold Call.passOver
  rw [frame.toNat_length]
  split_ifs with hmany hroom
  · exact iff_of_true nofun fun hfew ↦ absurd hfew (Nat.not_le.mpr hmany)
  · have hsize := frame.size_eq
    rw [frame.toNat_length] at hsize
    constructor
    · intro hpos _ _
      have hend := hpos _ rfl
      dsimp only at hend
      omega
    · intro hpos u hu
      cases hu
      have hplace := hpos (Nat.not_lt.mp hmany) hroom
      dsimp only
      omega
  · exact iff_of_true nofun fun _ hroom' ↦ absurd hroom' hroom

/-- A field is left where it ends, exactly if its functions take as many bytes as it has. -/
theorem exact_iff : Exact call s frame ↔ ∀ t,
    loopFrom call { s with
      control := .entries frame.tl false call.unpackFns
      pos := s.pos + 4 } = some t → t.pos = s.pos + frame.size := by
  show _ ↔ ∀ t, Option.bind (decodeEntries call frame.tl call.unpackFns s.value (s.pos + 4))
    (fun x ↦ loopBehind call frame.tl (false || hasTag frame.tl call.unpackFns)
      ⟨.entries frame.tl false call.unpackFns, s.numBadTags, x.1, x.2⟩) = some t → _
  unfold Exact
  rw [Bool.false_or]
  cases htag : hasTag frame.tl call.unpackFns with
  | true =>
    rw [if_pos rfl]
    constructor
    · intro hexact t ht
      obtain ⟨⟨value, next⟩, hdecode, hbehind⟩ := Option.bind_eq_some_iff.mp ht
      cases hbehind
      exact hexact value next hdecode
    · intro hpos value next hdecode
      exact hpos ⟨.loop, s.numBadTags, value, next⟩ (Option.bind_eq_some_iff.mpr ⟨_, hdecode, rfl⟩)
  | false =>
    rw [if_neg Bool.false_ne_true, decodeEntries_of_none htag]
    show _ ↔ ∀ t, loopBehind call frame.tl false
      ⟨.entries frame.tl false call.unpackFns, s.numBadTags, s.value, s.pos + 4⟩ = some t → _
    unfold loopBehind Call.noEntry
    rw [if_neg Bool.false_ne_true]
    by_cases hvendor : vendorExtensionMinTagValue ≤ frame.tag
    · have hvendor' : vendorExtensionMinTagValue ≤ frame.tl.tag := hvendor
      rw [if_pos hvendor, if_pos hvendor']
      cases call.unpackVendorExtensionTlv with
      | none =>
        dsimp only
        rw [← frame.size_eq_four_iff]
        constructor
        · intro hsize t ht
          cases ht
          rw [hsize]
        · intro hpos
          have hend := hpos _ rfl
          dsimp only at hend
          omega
      | some unpack =>
        dsimp only
        cases hrun : unpack frame.tl call.limit call.mem s.value (s.pos + 4) with
        | error cause => exact iff_of_true nofun nofun
        | ok reply =>
          obtain ⟨result, value, next⟩ := reply
          have honly : (∀ result' value' next',
              (.ok (result, value, next) : Outcome (VendorResult × σ × ℕ)) =
                .ok (result', value', next') → VendorExact call s frame result' next') ↔
              VendorExact call s frame result next := by
            constructor
            · exact fun hexact ↦ hexact result value next rfl
            · intro hexact result' value' next' hsame
              cases hsame
              exact hexact
          rw [honly]
          cases result with
          | failed => exact iff_of_true trivial nofun
          | decoded =>
            constructor
            · intro hnext t ht
              cases ht
              exact hnext
            · intro hpos
              exact hpos _ rfl
          | unknown =>
            exact (@passOver_iff σ call frame ⟨.badTag frame.tl, s.numBadTags, value, next⟩
              s.pos).symm
    · have hvendor' : ¬ vendorExtensionMinTagValue ≤ frame.tl.tag := hvendor
      rw [if_neg hvendor, if_neg hvendor']
      dsimp only
      rw [passOver_iff s.pos]
      exact iff_of_true trivial fun _ _ ↦ rfl

end Exact

/-! ### Whole messages -/

section Messages

variable {call : Call σ} {frames : List (Frame call.decoder)} {value : σ} {pos : ℕ}

/-- In front of the loop, the cursor is where the next field begins by the declared lengths. -/
def Resynchronises (call : Call σ) (frames : List (Frame call.decoder)) (value : σ) (pos : ℕ) :
    Prop :=
  ∀ count s, ComesAfter call value pos count s → isLoop s = true → s.pos = offset frames pos count

/-- The bytes of a message with these fields are at a place, and end where the decoder does. -/
structure IsMessage (call : Call σ) (frames : List (Frame call.decoder)) (pos : ℕ) : Prop where
  holds : Holds call.mem pos (frames.flatMap Frame.bytes)
  limit : call.limit = pos + (frames.flatMap Frame.bytes).length

theorem offset_of_length_le {count : ℕ} (h : frames.length ≤ count)
    (hmessage : IsMessage call frames pos) : offset frames pos count = call.limit := by
  unfold offset
  rw [List.take_of_length_le h, hmessage.limit]

/-- The bytes of a field are where it begins. -/
theorem holds_frame {count : ℕ} {frame : Frame call.decoder} (hmessage : IsMessage call frames pos)
    (hframe : frames[count]? = some frame) :
    Holds call.mem (offset frames pos count) frame.bytes ∧
      offset frames pos count + frame.size ≤ call.limit := by
  obtain ⟨hcount, hget⟩ := List.getElem?_eq_some_iff.mp hframe
  have hsplit : frames = frames.take count ++ frame :: frames.drop (count + 1) := by
    rw [← hget, List.getElem_cons_drop, List.take_append_drop]
  have hbytes : frames.flatMap Frame.bytes = (frames.take count).flatMap Frame.bytes ++
      (frame.bytes ++ (frames.drop (count + 1)).flatMap Frame.bytes) := by
    conv =>
      lhs
      rw [hsplit, List.flatMap_append, List.flatMap_cons]
  have hholds := hmessage.holds
  have hlimit := hmessage.limit
  rw [hbytes] at hholds hlimit
  refine ⟨(holds_append.mp (holds_append.mp hholds).2).1, ?_⟩
  rw [List.length_append, List.length_append, frame.length_bytes] at hlimit
  unfold offset
  omega

theorem control_of_isLoop {s : State σ} (h : isLoop s = true) : s.control = .loop := by
  unfold isLoop at h
  split at h
  · assumption
  · cases h

theorem unpackTl_of_holds {limit pos : ℕ} {mem : Memory} {tl : Tl}
    (hholds : Holds mem pos (bytes16 tl.tag ++ bytes16 tl.length)) (hlimit : pos + 4 ≤ limit) :
    unpackTl limit mem pos = .ok (some tl, pos + 4) := by
  obtain ⟨htag, hlength⟩ := holds_append.mp hholds
  unfold unpackTl
  rw [reads_pull16 limit tl.tag mem pos htag (Nat.le_trans (Nat.le_add_right _ 2) hlimit)]
  dsimp only
  rw [reads_pull16 limit tl.length mem _ hlength hlimit]
  rfl

/-- In front of a field, a step reads its tag and its length. -/
theorem step_of_frame {s : State σ} {frame : Frame call.decoder} (hloop : isLoop s = true)
    (hholds : Holds call.mem s.pos frame.bytes) (hlimit : s.pos + frame.size ≤ call.limit) :
    call.step s = .ok (some { s with
      control := .entries frame.tl false call.unpackFns
      pos := s.pos + 4 }) := by
  have hroom : s.pos + 4 ≤ call.limit := by
    unfold Frame.size at hlimit
    omega
  have hheader : Holds call.mem s.pos (bytes16 frame.tl.tag ++ bytes16 frame.tl.length) :=
    (holds_append.mp (holds_append.mp hholds).1).1
  unfold Call.step
  rw [control_of_isLoop hloop]
  dsimp only
  rw [if_pos (by omega), unpackTl_of_holds hheader hroom]

/-- At the end of the message, a step returns. -/
theorem loopFrom_of_end {s u : State σ} (hloop : isLoop s = true) (hpos : s.pos = call.limit)
    (hstep : call.step s = .ok (some u)) : loopFrom call u = none := by
  unfold Call.step at hstep
  rw [control_of_isLoop hloop, if_neg (Nat.not_lt.mpr (Nat.le_of_eq hpos.symm))] at hstep
  cases hstep
  rfl

/-- The fields of a message are read from where they begin, exactly if the functions for each of
them take as many bytes as it has. -/
theorem resynchronises_iff (hmessage : IsMessage call frames pos) :
    Resynchronises call frames value pos ↔
      ∀ count s frame, ComesAfter call value pos count s → isLoop s = true →
        frames[count]? = some frame → Exact call s frame := by
  constructor
  · intro hresync count s frame hs hloop hframe
    have hplace := hresync count s hs hloop
    obtain ⟨hholds, hlimit⟩ := holds_frame hmessage hframe
    rw [← hplace] at hholds hlimit
    have hstep := step_of_frame hloop hholds hlimit
    apply exact_iff.mpr
    intro t ht
    have hnext := hs.next hstep
    rw [hloop] at hnext
    have ht' := comesAfter_loopFrom hnext ht
    rw [hresync (count + 1) t ht' (isLoop_of_loopFrom ht), offset_succ hframe, hplace]
  · intro hexact count
    induction count with
    | zero =>
      intro s hs hloop
      rcases comesAfter_cases hs with ⟨-, rfl⟩ | ⟨before, -, -, hcount, -⟩
      · rfl
      · cases hcount
    | succ count ih =>
      intro t ht hloop
      rcases comesAfter_cases ht with ⟨hcount, -⟩ | ⟨before, s, u, hcount, hs, hloop', hstep, hfrom⟩
      · cases hcount
      · cases hcount
        have hplace := ih s hs hloop'
        have hnext : loopFrom call u = some t := by
          rw [hfrom]
          unfold loopFrom
          rw [control_of_isLoop hloop]
        cases hframe : frames[count]? with
        | none =>
          have hend := offset_of_length_le (List.getElem?_eq_none_iff.mp hframe) hmessage
          rw [loopFrom_of_end hloop' (hplace.trans hend) hstep] at hnext
          cases hnext
        | some frame =>
          obtain ⟨hholds, hlimit⟩ := holds_frame hmessage hframe
          rw [← hplace] at hholds hlimit
          rw [step_of_frame hloop' hholds hlimit] at hstep
          cases hstep
          rw [offset_succ hframe, ← hplace]
          exact exact_iff.mp (hexact count s frame hs hloop' hframe) t hnext

end Messages

/-- The fields with tag 1 are decoded as one byte. -/
def byteField : Unpacker Tl where
  tag := 1
  tl := id
  setTl _ tl := tl
  unpackFunc limit := .pull (.pull8 limit) fun value _ ↦ value

/-- A message for LTE in which such a field has as many bytes as this. -/
def byteFrame (value : List UInt8) (h : value.length < 65536) : Frame .unpackTlvList where
  tag := 1
  value
  padding := []
  length_value := h
  length_padding := rfl

/-- A call that decodes a message of such fields. -/
def byteCall (frames : List (Frame .unpackTlvList)) : Call Tl where
  decoder := .unpackTlvList
  unpackFns := [byteField]
  unpackVendorExtensionTlv := none
  mem := memoryOf (frames.flatMap Frame.bytes)
  limit := (frames.flatMap Frame.bytes).length

theorem isMessage_byteCall (frames : List (Frame .unpackTlvList)) :
    @IsMessage Tl (byteCall frames) frames 0 where
  holds := by
    have hholds := holds_memoryOf [] (frames.flatMap Frame.bytes) []
    rw [List.append_nil] at hholds
    exact hholds
  limit := (Nat.zero_add _).symm

/-- A byte is a byte. -/
theorem byteField_eq_ok {limit pos next : ℕ} {mem : Memory} {value value' : Tl}
    (h : byteField.unpackFunc limit mem value pos = .ok (true, value', next)) : next = pos + 1 := by
  replace h : Fill.pulled (Pull.pull8 limit) _ mem value pos = .ok (true, value', next) := h
  unfold Fill.pulled at h
  split at h
  · rename_i byte last hpull
    cases h
    obtain ⟨_, _, hroom, hbyte⟩ := Pull.bind_eq_ok.mp hpull
    obtain ⟨-, rfl⟩ := room_eq_ok.mp hroom
    unfold Pull.byte at hbyte
    split_ifs at hbyte
    cases hbyte
    rfl
  · cases h
  · cases h

def oneByteFields : List (Frame .unpackTlvList) :=
  [byteFrame [5] (by decide), byteFrame [7] (by decide)]

theorem size_oneByteFields : ∀ frame ∈ oneByteFields, frame.tag = 1 ∧ frame.size = 5 := by decide

/-- Two fields with one byte each are read from where they begin. -/
theorem resynchronises_oneByte :
    @Resynchronises Tl (byteCall oneByteFields) oneByteFields {} 0 := by
  apply (resynchronises_iff (isMessage_byteCall oneByteFields)).mpr
  intro count s frame _ _ hframe
  obtain ⟨htag, hsize⟩ : frame.tag = 1 ∧ frame.size = 5 :=
    size_oneByteFields frame (List.mem_of_getElem? hframe)
  unfold Exact
  split
  · intro value next hdecode
    obtain ⟨last, hrun, hnext⟩ := decodeEntries_only htag.symm hdecode
    rw [hnext, hsize, byteField_eq_ok hrun]
    rfl
  · rw [htag]
    exact trivial

def twoByteFields : List (Frame .unpackTlvList) :=
  [byteFrame [5, 6] (by decide), byteFrame [7] (by decide)]

/-- The byte that a field has besides the one that is decoded is read as the next tag. -/
theorem second_byte_is_tag :
    ¬ ∀ (call : Call Tl) (frames : List (Frame call.decoder)) (value : Tl) (pos : ℕ),
      IsMessage call frames pos → Resynchronises call frames value pos := by
  intro hall
  have hresync := hall (byteCall twoByteFields) twoByteFields {} 0 (isMessage_byteCall _)
  have hplace := hresync 1 ⟨.loop, 0, ⟨1, 2⟩, 5⟩ (((ReachesAfter.refl.next
    (rfl : Call.step _ _ = .ok (some ⟨.entries ⟨1, 2⟩ false [byteField], 0, {}, 4⟩))).next
    (rfl : Call.step _ _ = .ok (some ⟨.entries ⟨1, 2⟩ true [], 0, ⟨1, 2⟩, 5⟩))).next rfl) rfl
  cases hplace

end MultiUeProxy.Tlv.Resync
