import MultiUeProxy.Lib.InPlace
import MultiUeProxy.Lib.TlvCodec

/-!
# Structures made of tagged fields

A list decoder fills in a structure from tagged fields (`fillTlvList`), each of which has its place
in the structure. A `TlvPart` is such a field with its encoder, its decoder and its place. `packParts`
writes all parts of a structure, those that are absent left out, and `fillTlvList_of_restored` says
that the list decoder gets the structure back, if the decoder of each part does.

The parts of a component of a structure are parts of the structure (`TlvPart.inside`).
-/

set_option autoImplicit false
set_option relaxedAutoImplicit false

namespace MultiUeProxy.Lib.TaggedParts

open Execution ByteCursor ByteWriter Codec TlvCodec InPlace
open ByteCursor.Pull (Tl TlvField TlvPolicy)

/-! ### The list decoder -/

/-- A tag together with the decoder of its field. -/
structure Entry (σ : Type) where
  tag : UInt16
  fill : Tl → ℕ → Fill σ

/-- The field as it is for a caller that checks what is returned. -/
def Entry.field {σ : Type} (entry : Entry σ) : TlvField σ :=
  ⟨entry.tag, fun tl limit value ↦ (entry.fill tl limit).toPull value⟩

/-- An entry that passes over what is behind the field, as much as the length of the field asks
for. -/
def Entry.padded {σ : Type} (padding : UInt16 → ℕ) (entry : Entry σ) : Entry σ :=
  ⟨entry.tag, fun tl limit ↦ (entry.fill tl limit).andThen (.advance (padding tl.length))⟩

/-- What a list decoder does with a field that it has no entry for, given what it does after that,
and the number of such fields before. -/
abbrev Unknown (σ : Type) : Type := (ℕ → Fill σ) → ℕ → Tl → Fill σ

/-- What `Pull.tlvLoop` does with such a field. -/
def unknownTag {σ : Type} (policy : TlvPolicy) (limit : ℕ) : Unknown σ := fun rest badTags tl ↦
  if policy.passesOver tl.tag then rest badTags
  else if badTags + 1 > policy.maxBadTags then .leave policy.acceptsTooMany
  else (Fill.skip limit tl.length.toNat).andThen (rest (badTags + 1))

/-- Reads tagged fields into a structure while the cursor is below the limit. -/
def fillTlvLoop {σ : Type} (unknown : Unknown σ) (entries : List (Entry σ)) (limit : ℕ) :
    (bound badTags : ℕ) → Fill σ
  | 0, _ => .crash .diverge
  | bound + 1, badTags => fun mem value pos ↦
    if pos < limit then
      Fill.pulled (.pull16 limit) (fun tag ↦ .pulled (.pull16 limit) fun length ↦
        match entries.find? fun entry ↦ entry.tag == tag with
        | some entry =>
          (entry.fill ⟨tag, length⟩ limit).andThen (fillTlvLoop unknown entries limit bound badTags)
        | none => unknown (fillTlvLoop unknown entries limit bound) badTags ⟨tag, length⟩)
          mem value pos
    else .ok (true, value, pos)

/-- The list decoder from the cursor on. -/
def fillTlvList {σ : Type} (unknown : Unknown σ) (entries : List (Entry σ)) (limit : ℕ) : Fill σ :=
  fun mem value pos ↦ fillTlvLoop unknown entries limit (limit - pos + 1) 0 mem value pos

section Tlv

variable {σ : Type} {unknown : Unknown σ} {entries : List (Entry σ)} {limit badTags : ℕ}
  {value value' : σ} {bytes : List UInt8}

theorem unpackTl_eq_ok {mem : Memory} {pos next : ℕ} {tl : Tl} :
    Pull.unpackTl limit mem pos = .ok (tl, next) ↔ ∃ middle,
      Pull.pull16 limit mem pos = .ok (tl.tag, middle) ∧
        Pull.pull16 limit mem middle = .ok (tl.length, next) := by
  unfold Pull.unpackTl
  rw [Pull.bind_eq_ok]
  constructor
  · rintro ⟨tag, middle, htag, hrest⟩
    obtain ⟨length, last, hlength, hpure⟩ := Pull.bind_eq_ok.mp hrest
    cases hpure
    exact ⟨middle, htag, hlength⟩
  · rintro ⟨middle, htag, hlength⟩
    exact ⟨tl.tag, middle, htag, Pull.bind_eq_ok.mpr ⟨tl.length, next, hlength, rfl⟩⟩

/-- An iteration that decodes a field. -/
theorem fillTlvLoop_step {mem : Memory} {pos next last bound : ℕ} {tl : Tl} {entry : Entry σ}
    (hpos : pos < limit) (htl : Pull.unpackTl limit mem pos = .ok (tl, next))
    (hfind : (entries.find? fun entry ↦ entry.tag == tl.tag) = some entry)
    (hfill : entry.fill tl limit mem value next = .ok (true, value', last)) :
    fillTlvLoop unknown entries limit (bound + 1) badTags mem value pos =
      fillTlvLoop unknown entries limit bound badTags mem value' last := by
  obtain ⟨middle, htag, hlength⟩ := unpackTl_eq_ok.mp htl
  conv =>
    lhs
    unfold fillTlvLoop
  rw [if_pos hpos, Fill.pulled, htag]
  dsimp only
  rw [Fill.pulled, hlength]
  simp only [hfind]
  unfold Fill.andThen
  rw [hfill]

theorem fillTlvLoop_done {mem : Memory} {pos bound : ℕ} (hpos : ¬ pos < limit) :
    fillTlvLoop unknown entries limit (bound + 1) badTags mem value pos =
      .ok (true, value, pos) := by
  unfold fillTlvLoop
  rw [if_neg hpos]

/-- An iteration whose field ends the program. -/
theorem fillTlvLoop_crash {mem : Memory} {pos next bound : ℕ} {tl : Tl} {entry : Entry σ}
    {cause : Crash} (hpos : pos < limit) (htl : Pull.unpackTl limit mem pos = .ok (tl, next))
    (hfind : (entries.find? fun entry ↦ entry.tag == tl.tag) = some entry)
    (hfill : entry.fill tl limit mem value next = .error cause) :
    fillTlvLoop unknown entries limit (bound + 1) badTags mem value pos = .error cause := by
  obtain ⟨middle, htag, hlength⟩ := unpackTl_eq_ok.mp htl
  unfold fillTlvLoop
  rw [if_pos hpos, Fill.pulled, htag]
  dsimp only
  rw [Fill.pulled, hlength]
  simp only [hfind]
  unfold Fill.andThen
  rw [hfill]

/-- An iteration that comes to a field without an entry. -/
theorem fillTlvLoop_unknown {mem : Memory} {pos next bound : ℕ} {tl : Tl} (hpos : pos < limit)
    (htl : Pull.unpackTl limit mem pos = .ok (tl, next))
    (hfind : (entries.find? fun entry ↦ entry.tag == tl.tag) = none) :
    fillTlvLoop unknown entries limit (bound + 1) badTags mem value pos =
      unknown (fillTlvLoop unknown entries limit bound) badTags tl mem value next := by
  obtain ⟨middle, htag, hlength⟩ := unpackTl_eq_ok.mp htl
  conv =>
    lhs
    unfold fillTlvLoop
  rw [if_pos hpos, Fill.pulled, htag]
  dsimp only
  rw [Fill.pulled, hlength]
  simp only [hfind]

theorem find_field (tag : UInt16) {field : TlvField σ}
    (h : ((entries.map Entry.field).find? fun field ↦ field.tag == tag) = some field) :
    ∃ entry, (entries.find? fun entry ↦ entry.tag == tag) = some entry ∧ entry.field = field := by
  rw [List.find?_map, Option.map_eq_some_iff] at h
  exact h

/-- The loop of a caller that checks it. -/
theorem fieldLoop_toPull (unknown : Unknown σ) (entries : List (Entry σ)) (limit badTags : ℕ) :
    FieldLoop (entries.map Entry.field) limit limit fun bound ↦
      (fillTlvLoop unknown entries limit bound badTags).toPull where
  step bound value mem pos tl next field value' last hpos htl hfind hunpack := by
    obtain ⟨entry, hentry, rfl⟩ := find_field tl.tag hfind
    unfold Fill.toPull
    rw [fillTlvLoop_step hpos htl hentry (toPull_eq_ok.mp hunpack)]
  done bound value mem pos hpos := by
    unfold Fill.toPull
    rw [fillTlvLoop_done hpos]

/-- The decoder goes through when the fields end at its limit. -/
theorem fillTlvList_of_readsFields (h : ReadsFields (entries.map Entry.field) value bytes value')
    {mem : Memory} {pos : ℕ} (hholds : Holds mem pos bytes) :
    fillTlvList unknown entries (pos + bytes.length) mem value pos =
      .ok (true, value', pos + bytes.length) :=
  toPull_eq_ok.mp (fieldLoop_of_readsFields h (fieldLoop_toPull unknown entries _ 0) hholds
    (Nat.le_refl _) rfl)

/-- Behind fields that it reads, the decoder goes on with the loop. -/
theorem fillTlvList_behind {front : List UInt8} {last : ℕ} {mem : Memory} {pos : ℕ}
    {result : σ} (hfront : ReadsFields (entries.map Entry.field) value front value')
    (hholds : Holds mem pos front) (hlimit : pos + front.length ≤ limit)
    (hrest : ∀ bound, limit - (pos + front.length) < bound →
      fillTlvLoop unknown entries limit bound 0 mem value' (pos + front.length) =
        .ok (true, result, last)) :
    fillTlvList unknown entries limit mem value pos = .ok (true, result, last) := by
  obtain ⟨bound, hbound, hrun⟩ := hfront limit limit _ (fieldLoop_toPull unknown entries limit 0)
    mem pos (limit - pos + 1) hholds hlimit hlimit (Nat.lt_succ_self _)
  apply toPull_eq_ok.mp
  show (fillTlvLoop unknown entries limit (limit - pos + 1) 0).toPull value mem pos = _
  rw [hrun]
  exact toPull_eq_ok.mpr (hrest bound hbound)

/-- A field behind others at which the decoder ends the program. -/
theorem fillTlvList_crash {front : List UInt8} {tag length : UInt16} {entry : Entry σ}
    {cause : Crash} (hfront : ReadsFields (entries.map Entry.field) value front value')
    (hfind : (entries.find? fun entry ↦ entry.tag == tag) = some entry) {mem : Memory} {pos : ℕ}
    (hholds : Holds mem pos (front ++ (bytes16 tag ++ bytes16 length)))
    (hlimit : pos + front.length + 4 ≤ limit)
    (hfill : entry.fill ⟨tag, length⟩ limit mem value' (pos + front.length + 4) = .error cause) :
    fillTlvList unknown entries limit mem value pos = .error cause := by
  rw [holds_append] at hholds
  obtain ⟨bound, hbound, hrun⟩ := hfront limit limit _ (fieldLoop_toPull unknown entries limit 0)
    mem pos (limit - pos + 1) hholds.1 (by omega) (by omega) (Nat.lt_succ_self _)
  have htl := reads_unpackTl limit ⟨tag, length⟩ mem _ hholds.2 hlimit
  cases bound with
  | zero => exact absurd hbound (Nat.not_lt_zero _)
  | succ bound =>
    have hcrash := @fillTlvLoop_crash σ unknown entries limit 0 value' mem _ _ bound _ entry cause
      (by omega) htl hfind hfill
    unfold fillTlvList
    unfold Fill.toPull at hrun
    rw [hcrash] at hrun
    cases hloop : fillTlvLoop unknown entries limit (limit - pos + 1) 0 mem value pos with
    | ok result =>
      obtain ⟨went, filled, last⟩ := result
      rw [hloop] at hrun
      cases went with
      | true => cases hrun
      | false => cases hrun
    | error cause' =>
      rw [hloop] at hrun
      cases hrun
      rfl

end Tlv

/-- What is done with an unknown field stays within the limit. -/
def UnknownWithin {σ : Type} (limit : ℕ) (unknown : Unknown σ) : Prop :=
  ∀ rest badTags tl, (∀ badTags, Within limit (rest badTags)) →
    Within limit (unknown rest badTags tl)

/-- Decoders that stay within the limit make a list decoder that does. -/
theorem within_fillTlvLoop {σ : Type} {limit : ℕ} {unknown : Unknown σ} {entries : List (Entry σ)}
    (hunknown : UnknownWithin limit unknown)
    (hentries : ∀ entry ∈ entries, ∀ tl, Within limit (entry.fill tl limit)) (bound badTags : ℕ) :
    Within limit (fillTlvLoop unknown entries limit bound badTags) := by
  induction bound generalizing badTags with
  | zero => exact (inferInstance : Within limit (.crash .diverge))
  | succ bound ih =>
    constructor
    intro mem value pos went value' last hpos h
    unfold fillTlvLoop at h
    by_cases hbelow : pos < limit
    · rw [if_pos hbelow] at h
      refine (within_pulled (fun _ _ _ _ _ ↦ pull16_le) fun tag ↦
        within_pulled (fun _ _ _ _ _ ↦ pull16_le) fun length ↦ ?_).within mem value pos went value'
          last hpos h
      cases hfind : entries.find? fun entry ↦ entry.tag == tag with
      | some entry =>
        have hfill := hentries entry (List.mem_of_find?_eq_some hfind) ⟨tag, length⟩
        have hrest := ih badTags
        dsimp only
        infer_instance
      | none => exact hunknown _ badTags _ ih
    · rw [if_neg hbelow] at h
      cases h
      exact hpos

theorem within_fillTlvList {σ : Type} {unknown : Unknown σ} {entries : List (Entry σ)} {limit : ℕ}
    (hunknown : UnknownWithin limit unknown)
    (hentries : ∀ entry ∈ entries, ∀ tl, Within limit (entry.fill tl limit)) :
    Within limit (fillTlvList unknown entries limit) where
  within mem value pos went value' last hpos h :=
    (within_fillTlvLoop hunknown hentries _ 0).within mem value pos went value' last hpos h

/-! ### Parts -/

/-- The encoder and the decoder of a tagged field. They write and read `bytes`, and carry over
`carried`: for the values that fit, and if these are among those that return. The decoder stays
within its limit whatever it reads. -/
structure FieldCodec (τ : Type) [Tagged τ] where
  tag : UInt16
  pack : ℕ → τ → Push Unit
  unpack : Tl → ℕ → Fill τ
  bytes : τ → List UInt8
  carried : τ → τ := id
  Fits : τ → Prop := fun _ ↦ True
  Returns : τ → Prop := fun _ ↦ True
  written : ∀ value limit, Fits value → Emits limit (pack limit value) (bytes value)
  restored : ∀ value limit, Fits value → Returns value →
    Fills limit (unpack ⟨tag, (bytes value).length.toUInt16⟩ limit)
      (Tagged.setTl Tagged.absent ⟨tag, (bytes value).length.toUInt16⟩) (bytes value)
      (Tagged.setTl (carried value) ⟨tag, (bytes value).length.toUInt16⟩)
  within : ∀ tl limit, Within limit (unpack tl limit)

/-- A codec whose encoder pushes items, and whose decoder pulls them. -/
def FieldCodec.ofItems {τ : Type} [Tagged τ] (tag : UInt16) (pack : τ → List Item)
    (steps : List (Step τ)) (Fits : τ → Prop)
    (h : ∀ value tl, Fits value → applySteps steps (pack value) (Tagged.setTl Tagged.absent tl) =
      some (Tagged.setTl value tl)) : FieldCodec τ where
  tag
  pack limit value := pushItems limit (pack value)
  unpack _ limit := fillSteps limit steps
  bytes value := itemsBytes (pack value)
  Fits
  written value _ hfits := emits_pushItems (fits_of_applySteps (h value {} hfits))
  restored value _ hfits _ := fills_fillSteps (h value _ hfits)
  within _ _ := inferInstance

/-- A tagged field with its place in a structure: `arrive value target` is the target when the field
is carried over from the value, and a target is clear when the field is not there yet. -/
structure TlvPart (σ : Type) where
  tag : UInt16
  tl : σ → Tl
  pack : ℕ → σ → Push Unit
  fill : Tl → ℕ → Fill σ
  bytes : σ → List UInt8
  arrive : σ → σ → σ
  Clear : σ → Prop
  Fits : σ → Prop
  Returns : σ → Prop
  arrive_absent : ∀ value target, (tl value).tag ≠ tag → Clear target →
    arrive value target = target
  written : ∀ value limit, (tl value).tag = tag → Fits value →
    Emits limit (pack limit value) (bytes value)
  restored : ∀ value target limit, (tl value).tag = tag → Fits value → Returns value →
    Clear target → Fills limit (fill ⟨tag, (bytes value).length.toUInt16⟩ limit) target
      (bytes value) (arrive value target)
  within : ∀ tl limit, Within limit (fill tl limit)

namespace TlvPart

variable {σ τ : Type}

/-- The field of a component. -/
def of [Tagged τ] (codec : FieldCodec τ) (get : σ → τ) (put : σ → τ → σ) : TlvPart σ where
  tag := codec.tag
  tl value := Tagged.tl (get value)
  pack limit value := codec.pack limit (get value)
  fill tl limit := .component get put
    ((Fill.modify fun value ↦ Tagged.setTl value tl).andThen (codec.unpack tl limit))
  bytes value := codec.bytes (get value)
  arrive value target := put target
    (if (Tagged.tl (get value)).tag = codec.tag then
      Tagged.setTl (codec.carried (get value))
        ⟨codec.tag, (codec.bytes (get value)).length.toUInt16⟩
    else Tagged.absent)
  Clear target := get target = Tagged.absent ∧ put target Tagged.absent = target
  Fits value := codec.Fits (get value)
  Returns value := codec.Returns (get value)
  arrive_absent value target htag hclear := by
    rw [if_neg htag]
    exact hclear.2
  written value limit _ hfits := codec.written (get value) limit hfits
  restored value target limit htag hfits hreturns hclear := by
    rw [if_pos htag]
    have hmodify : Fills limit (.modify fun part ↦
        Tagged.setTl part ⟨codec.tag, (codec.bytes (get value)).length.toUInt16⟩) (get target) []
        (Tagged.setTl Tagged.absent
          ⟨codec.tag, (codec.bytes (get value)).length.toUInt16⟩) := by
      rw [hclear.1]
      exact fills_modify _
    exact (hmodify.andThen (codec.restored (get value) limit hfits hreturns)).component
  within tl limit := by
    have := codec.within tl limit
    infer_instance

theorem of_crash [Tagged τ] {codec : FieldCodec τ} {get : σ → τ} {put : σ → τ → σ} {tl : Tl}
    {limit : ℕ} {mem : Memory} {target : σ} {pos : ℕ} {cause : Crash}
    (h : codec.unpack tl limit mem (Tagged.setTl (get target) tl) pos = .error cause) :
    (of codec get put).fill tl limit mem target pos = .error cause :=
  component_crash h

/-- A part of a component, as a part of the structure. -/
def inside (part : TlvPart τ) (get : σ → τ) (put : σ → τ → σ) : TlvPart σ where
  tag := part.tag
  tl value := part.tl (get value)
  pack limit value := part.pack limit (get value)
  fill tl limit := .component get put (part.fill tl limit)
  bytes value := part.bytes (get value)
  arrive value target := put target (part.arrive (get value) (get target))
  Clear target := part.Clear (get target) ∧ put target (get target) = target
  Fits value := part.Fits (get value)
  Returns value := part.Returns (get value)
  arrive_absent value target htag hclear := by
    rw [part.arrive_absent _ _ htag hclear.1]
    exact hclear.2
  written value limit htag hfits := part.written (get value) limit htag hfits
  restored value target limit htag hfits hreturns hclear :=
    (part.restored (get value) (get target) limit htag hfits hreturns hclear.1).component
  within tl limit := by
    have := part.within tl limit
    infer_instance

def entry (part : TlvPart σ) : Entry σ := ⟨part.tag, part.fill⟩

end TlvPart

section Parts

variable {σ τ : Type} {unknown : Unknown σ} {parts front back : List (TlvPart σ)} {value target : σ}

/-- The encoders of all parts, one after the other. -/
def packParts (limit : ℕ) (parts : List (TlvPart σ)) (value : σ) : Push Unit :=
  Push.forEach (fun part ↦ packTlv limit part.tag (part.tl value) (part.pack limit value)) parts

def partsBytes (parts : List (TlvPart σ)) (value : σ) : List UInt8 :=
  parts.flatMap fun part ↦ tlvBytes part.tag (part.tl value) (part.bytes value)

/-- The encoders of all parts, with zeros behind each of them. -/
def packPaddedParts (padding : UInt16 → ℕ) (limit : ℕ) (parts : List (TlvPart σ)) (value : σ) :
    Push Unit :=
  Push.forEach
    (fun part ↦ packPaddedTlv padding limit part.tag (part.tl value) (part.pack limit value)) parts

def paddedPartsBytes (padding : UInt16 → ℕ) (parts : List (TlvPart σ)) (value : σ) : List UInt8 :=
  parts.flatMap fun part ↦ paddedTlvBytes padding part.tag (part.tl value) (part.bytes value)

/-- All parts carried over. -/
def arriveParts (parts : List (TlvPart σ)) (value target : σ) : σ :=
  parts.foldl (fun target part ↦ part.arrive value target) target

/-- The parts that are there fit. -/
def PartsFit (parts : List (TlvPart σ)) (value : σ) : Prop :=
  ∀ part ∈ parts, (part.tl value).tag = part.tag → part.Fits value

/-- The parts that are there return. -/
def PartsReturn (parts : List (TlvPart σ)) (value : σ) : Prop :=
  ∀ part ∈ parts, (part.tl value).tag = part.tag → part.Returns value

theorem partsReturn_cons {part : TlvPart σ} : PartsReturn (part :: parts) value ↔
    ((part.tl value).tag = part.tag → part.Returns value) ∧ PartsReturn parts value :=
  List.forall_mem_cons

theorem partsFit_cons {part : TlvPart σ} : PartsFit (part :: parts) value ↔
    ((part.tl value).tag = part.tag → part.Fits value) ∧ PartsFit parts value :=
  List.forall_mem_cons

theorem partsReturn_append : PartsReturn (front ++ back) value ↔
    PartsReturn front value ∧ PartsReturn back value :=
  List.forall_mem_append

theorem partsFit_append : PartsFit (front ++ back) value ↔
    PartsFit front value ∧ PartsFit back value :=
  List.forall_mem_append

/-- Each part is not there yet when it is its turn to be carried over. -/
def ClearParts (value : σ) : List (TlvPart σ) → σ → Prop
  | [], _ => True
  | part :: parts, target => part.Clear target ∧ ClearParts value parts (part.arrive value target)

theorem emits_packParts {limit : ℕ} (hfits : PartsFit parts value) :
    Emits limit (packParts limit parts value) (partsBytes parts value) :=
  emits_forEach fun part hpart ↦ emits_packTlv fun htag ↦
    part.written value limit htag (hfits part hpart htag)

theorem yields_packPaddedParts {padding : UInt16 → ℕ} {limit : ℕ} (hfits : PartsFit parts value) :
    Yields limit (packPaddedParts padding limit parts value)
      (paddedPartsBytes padding parts value) :=
  yields_forEach fun part hpart ↦ yields_packPaddedTlv fun htag ↦
    part.written value limit htag (hfits part hpart htag)

theorem readsFields_part {entries : List (Entry σ)} {part : TlvPart σ}
    (hfind : (entries.find? fun entry ↦ entry.tag == part.tag) = some part.entry)
    (hfits : (part.tl value).tag = part.tag → part.Fits value)
    (hreturns : (part.tl value).tag = part.tag → part.Returns value) (hclear : part.Clear target) :
    ReadsFields (entries.map Entry.field) target
      (tlvBytes part.tag (part.tl value) (part.bytes value)) (part.arrive value target) := by
  have hfield : ((entries.map Entry.field).find? fun field ↦ field.tag == part.tag) =
      some part.entry.field := by
    rw [List.find?_map]
    exact congrArg (Option.map Entry.field) hfind
  apply readsFields_tlv hfield
  · intro htag limit
    exact reads_toPull (part.restored value target limit htag (hfits htag) (hreturns htag) hclear)
  · intro htag
    exact part.arrive_absent value target htag hclear

/-- A field with zeros behind it that the entry passes over. -/
theorem readsFields_paddedPart {entries : List (Entry σ)} {part : TlvPart σ} {padding : UInt16 → ℕ}
    (hfind : (entries.find? fun entry ↦ entry.tag == part.tag) = some part.entry)
    (hfits : (part.tl value).tag = part.tag → part.Fits value)
    (hreturns : (part.tl value).tag = part.tag → part.Returns value) (hclear : part.Clear target) :
    ReadsFields ((entries.map (Entry.padded padding)).map Entry.field) target
      (paddedTlvBytes padding part.tag (part.tl value) (part.bytes value))
      (part.arrive value target) := by
  have hfield : (((entries.map (Entry.padded padding)).map Entry.field).find? fun field ↦
      field.tag == part.tag) = some (part.entry.padded padding).field := by
    rw [List.find?_map, List.find?_map]
    exact congrArg (fun found ↦ (found.map (Entry.padded padding)).map Entry.field) hfind
  unfold paddedTlvBytes
  split_ifs with htag
  · unfold fieldBytes
    rw [List.append_assoc, List.append_assoc]
    apply readsFields_field hfield
    intro limit
    have hadvance : ∀ length : UInt16, Fills limit (.advance (padding length))
        (part.arrive value target) (List.replicate (padding length) 0)
        (part.arrive value target) := by
      intro length mem pos _ _
      rw [List.length_replicate]
      rfl
    exact reads_toPull ((part.restored value target limit htag (hfits htag) (hreturns htag)
      hclear).andThen (hadvance _))
  · rw [part.arrive_absent value target htag hclear]
    exact ReadsFields.refl

/-- The fields of all parts, one after the other. -/
theorem readsFields_each {fields : List (TlvField σ)} {bytes : TlvPart σ → List UInt8}
    (hpart : ∀ part ∈ parts, ∀ target, part.Clear target →
      ReadsFields fields target (bytes part) (part.arrive value target))
    (hclear : ClearParts value parts target) :
    ReadsFields fields target (parts.flatMap bytes) (arriveParts parts value target) := by
  induction parts generalizing target with
  | nil => exact ReadsFields.refl
  | cons part parts ih =>
    have hfirst := hpart part List.mem_cons_self target hclear.1
    have hrest := ih (fun part hmem ↦ hpart part (List.mem_cons_of_mem _ hmem)) hclear.2
    exact hfirst.trans hrest

theorem readsFields_parts {entries : List (Entry σ)}
    (hfind : ∀ part ∈ parts, (entries.find? fun entry ↦ entry.tag == part.tag) = some part.entry)
    (hfits : PartsFit parts value) (hreturns : PartsReturn parts value)
    (hclear : ClearParts value parts target) :
    ReadsFields (entries.map Entry.field) target (partsBytes parts value)
      (arriveParts parts value target) :=
  readsFields_each (fun part hpart _ ↦ readsFields_part (hfind part hpart) (hfits part hpart)
    (hreturns part hpart)) hclear

/-- With different tags, the list decoder finds the entry of each part. -/
theorem find_entry (hnodup : (parts.map TlvPart.tag).Nodup) {part : TlvPart σ}
    (hpart : part ∈ parts) :
    ((parts.map TlvPart.entry).find? fun entry ↦ entry.tag == part.tag) = some part.entry := by
  induction parts with
  | nil => cases hpart
  | cons first parts ih =>
    rw [List.map_cons, List.nodup_cons] at hnodup
    rw [List.map_cons, List.find?_cons]
    rcases List.mem_cons.mp hpart with rfl | hpart
    · show (match part.tag == part.tag with
        | true => some part.entry
        | false => _) = _
      rw [beq_self_eq_true]
    · have hne : first.tag ≠ part.tag := fun h ↦
        hnodup.1 (h ▸ List.mem_map_of_mem hpart)
      have hfalse : (first.entry.tag == part.tag) = false := beq_eq_false_iff_ne.mpr hne
      rw [hfalse]
      exact ih hnodup.2 hpart

end Parts

/-! ### Two components -/

section Both

variable {σ τ : Type} {front : List (TlvPart σ)} {back : List (TlvPart τ)} {value target : σ × τ}

/-- The parts of two components, one behind the other. -/
def both (front : List (TlvPart σ)) (back : List (TlvPart τ)) : List (TlvPart (σ × τ)) :=
  front.map (·.inside Prod.fst fun pair first ↦ (first, pair.2)) ++
    back.map (·.inside Prod.snd fun pair second ↦ (pair.1, second))

theorem clearParts_append {front back : List (TlvPart σ)} {value target : σ}
    (hfront : ClearParts value front target)
    (hback : ClearParts value back (arriveParts front value target)) :
    ClearParts value (front ++ back) target := by
  induction front generalizing target with
  | nil => exact hback
  | cons part front ih => exact ⟨hfront.1, ih hfront.2 hback⟩

theorem clearParts_of_append {front back : List (TlvPart σ)} {value target : σ}
    (h : ClearParts value (front ++ back) target) :
    ClearParts value front target ∧ ClearParts value back (arriveParts front value target) := by
  induction front generalizing target with
  | nil => exact ⟨trivial, h⟩
  | cons part front ih => exact ⟨⟨h.1, (ih h.2).1⟩, (ih h.2).2⟩

theorem clearParts_fst (h : ClearParts value.1 front target.1) :
    ClearParts value (front.map (·.inside Prod.fst fun pair first ↦ (first, pair.2))) target := by
  induction front generalizing target with
  | nil => trivial
  | cons part front ih => exact ⟨⟨h.1, rfl⟩, ih h.2⟩

theorem clearParts_snd (h : ClearParts value.2 back target.2) :
    ClearParts value (back.map (·.inside Prod.snd fun pair second ↦ (pair.1, second))) target := by
  induction back generalizing target with
  | nil => trivial
  | cons part back ih => exact ⟨⟨h.1, rfl⟩, ih h.2⟩

theorem arriveParts_fst :
    arriveParts (front.map (·.inside Prod.fst fun pair first ↦ (first, pair.2))) value target =
      (arriveParts front value.1 target.1, target.2) := by
  induction front generalizing target with
  | nil => rfl
  | cons part front ih => exact ih

theorem arriveParts_snd :
    arriveParts (back.map (·.inside Prod.snd fun pair second ↦ (pair.1, second))) value target =
      (target.1, arriveParts back value.2 target.2) := by
  induction back generalizing target with
  | nil => rfl
  | cons part back ih => exact ih

theorem arriveParts_both : arriveParts (both front back) value target =
    (arriveParts front value.1 target.1, arriveParts back value.2 target.2) := by
  unfold both arriveParts
  rw [List.foldl_append]
  have hfront := @arriveParts_fst σ τ front value target
  unfold arriveParts at hfront
  rw [hfront]
  exact arriveParts_snd

theorem partsBytes_both :
    partsBytes (both front back) value = partsBytes front value.1 ++ partsBytes back value.2 := by
  unfold partsBytes both
  rw [List.flatMap_append, List.flatMap_map, List.flatMap_map]
  rfl

/-- The parts of two components do not get in each other's way. -/
theorem clearParts_both (hfront : ClearParts value.1 front target.1)
    (hback : ClearParts value.2 back target.2) :
    ClearParts value (both front back) target := by
  apply clearParts_append (clearParts_fst hfront)
  apply clearParts_snd
  rw [arriveParts_fst]
  exact hback

theorem partsFit_both :
    PartsFit (both front back) value ↔ PartsFit front value.1 ∧ PartsFit back value.2 := by
  unfold both
  rw [partsFit_append]
  unfold PartsFit
  rw [List.forall_mem_map, List.forall_mem_map]
  rfl

theorem partsReturn_both :
    PartsReturn (both front back) value ↔ PartsReturn front value.1 ∧ PartsReturn back value.2 := by
  unfold both
  rw [partsReturn_append]
  unfold PartsReturn
  rw [List.forall_mem_map, List.forall_mem_map]
  rfl

end Both

end MultiUeProxy.Lib.TaggedParts
