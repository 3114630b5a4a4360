import Mathlib.Data.List.Nodup
import MultiUeProxy.P5.NrConfig

/-!
# Which bytes the decoder of NR configuration requests survives

A walk over the fields of a message notes their tags (`nrConfigWalk`). The decoder has a place for a
field if the lists that it has allocated or that are declared have an element with the current
index: there is one occasion, so that no field of an occasion may come behind a root sequence index.
The decoder keeps up with the walk as long as each field has its place (`shadows_nrConfig`), so it
is safe exactly for the messages in which each field has, and whose last field is not cut off in its
padding (`nrConfigSafe_iff`).
-/

set_option autoImplicit false
set_option relaxedAutoImplicit false

namespace MultiUeProxy.P5

open Lib.Execution Lib.ByteCursor Lib.ByteWriter Lib.Codec Lib.TlvCodec Lib.InPlace Lib.TaggedParts
  Lib.TlvRecord Lib.FieldWalk Message
open Lib.ByteCursor.Pull (Tl)

/-! ### The walk -/

/-- The number of bytes of a value. -/
def ValueKind.size : ValueKind → ℕ
  | uint8 => 1
  | uint16 => 2
  | uint32 | ipv4Address => 4
  | ipv6Address => 16
  | rfBands | nmmFrequencyBands => 0

/-- The number of bytes that the decoder takes for a field. -/
def NrConfigTlv.size : NrConfigTlv → ℕ
  | scalar name => name.kind.size
  | dlK0 | dlGridSize | ulK0 | ulGridSize => 10
  | numRootSequences | prachZeroCorrConf | beamId | slotConfig => 1
  | prachRootSequenceIndex | k1 | numUnusedRootSequences | unusedRootSequences => 2
  | ssbMask => 4

/-- There is a place for the field behind fields with these tags. -/
def NrConfigTlv.HasPlace (tags : List UInt16) : NrConfigTlv → Prop
  | prachRootSequenceIndex | numRootSequences | k1 | prachZeroCorrConf | numUnusedRootSequences =>
    prachRootSequenceIndex.tag ∉ tags
  | unusedRootSequences =>
    prachRootSequenceIndex.tag ∉ tags ∧ unusedRootSequences.tag ∉ tags
  | ssbMask => tags.count ssbMask.tag < 2
  | beamId => tags.count beamId.tag < 64
  | slotConfig => tags.count slotConfig.tag < 40 * 14
  | _ => True

/-- There is a place for each of the fields with these tags, in this order. -/
def AllHavePlace (tags : List UInt16) : Prop :=
  EachFits (fun front tag ↦ ∀ tlv : NrConfigTlv, tlv.tag = tag → tlv.HasPlace front) tags

/-- Goes over the fields of a message and notes the tags of those that the decoder has an entry
for. -/
def nrConfigWalk {V : Type} (config : Option (CodecConfig V)) (limit : ℕ) :
    Fill (List UInt16 × Option V) :=
  (Fill.attempt (.skip limit 1)).andThen
    (unpackNrTlvList config (NrConfigTlv.table.map fun tlv ↦ walkEntry tlv.tag tlv.size) limit)

/-- The decoder of the vendor returns, and leaves the cursor behind where it was and in the
message. -/
def VendorStays {V : Type} (config : Option (CodecConfig V)) : Prop :=
  ∀ unpack, config.bind CodecConfig.unpackVendorExtensionTlv = some unpack →
    ∀ tl limit mem extension? pos, limit ≤ mem.size → pos ≤ limit →
      ∃ result extension?' next, unpack tl limit mem extension? pos =
        .ok (result, extension?', next) ∧ pos ≤ next ∧ next ≤ limit

/-! ### Tags -/

theorem NrConfigTlv.mem_table (tlv : NrConfigTlv) : tlv ∈ table := by
  cases tlv with
  | scalar name =>
    cases name with
    | _ => decide
  | _ => decide

theorem NrConfigTlv.tag_inj {tlv tlv' : NrConfigTlv} (h : tlv.tag = tlv'.tag) : tlv = tlv' :=
  List.inj_on_of_nodup_map nodup_tags tlv.mem_table tlv'.mem_table h

theorem allHavePlace_concat {tags : List UInt16} {tlv : NrConfigTlv} :
    AllHavePlace (tags ++ [tlv.tag]) ↔ AllHavePlace tags ∧ tlv.HasPlace tags := by
  unfold AllHavePlace
  rw [eachFits_concat]
  constructor
  · rintro ⟨hall, hlast⟩
    exact ⟨hall, hlast tlv rfl⟩
  · rintro ⟨hall, hlast⟩
    refine ⟨hall, ?_⟩
    intro other htag
    rw [NrConfigTlv.tag_inj htag]
    exact hlast

/-! ### What the places are -/

/-- The lists of a request have the elements that the decoder has allocated. -/
structure NrConfigRequest.Allocated (request : NrConfigRequest) : Prop where
  occasions : request.numPrachFdOccasionsList.length = 1
  unused : ∀ occasion ∈ request.numPrachFdOccasionsList,
    occasion.unusedRootSequencesList.length = 1
  slots : request.maxTddPeriodicityList.length = 40
  symbols : ∀ symbols ∈ request.maxTddPeriodicityList, symbols.length = 14

theorem AllocatedLists.allocated (lists : AllocatedLists) : lists.decoding.request.Allocated where
  occasions := rfl
  unused occasion h := by
    rw [List.mem_singleton.mp h]
    exact lists.length_unused
  slots := lists.length_slots
  symbols := lists.length_symbols

/-- The place is there in a request with the allocated lists. -/
def IsThere {τ : Type} (place : Place NrConfigRequest τ) : Prop :=
  ∀ request : NrConfigRequest, request.Allocated → ∃ part, place.get request = some part

/-- The place is not there in a request with the allocated lists. -/
def IsMissing {τ : Type} (place : Place NrConfigRequest τ) : Prop :=
  ∀ request : NrConfigRequest, request.Allocated → place.get request = none

/-- Nothing that is put into the place changes the number of elements of a list. -/
def KeepsLists {τ : Type} (place : Place NrConfigRequest τ) : Prop :=
  ∀ (request : NrConfigRequest) part, request.Allocated → (place.put request part).Allocated

theorem isThere_occasion : IsThere (NrConfigRequest.occasion 0) := by
  intro request hallocated
  have hlength : 0 < request.numPrachFdOccasionsList.length := by
    rw [hallocated.occasions]
    exact Nat.one_pos
  exact ⟨_, List.getElem?_eq_getElem hlength⟩

theorem isMissing_occasion {index : ℕ} (h : index ≠ 0) :
    IsMissing (NrConfigRequest.occasion index) := by
  intro request hallocated
  apply List.getElem?_eq_none
  rw [hallocated.occasions]
  exact Nat.one_le_iff_ne_zero.mpr h

theorem mem_of_get_occasion {request : NrConfigRequest} {index : ℕ} {occasion : PrachFdOccasion}
    (h : (NrConfigRequest.occasion index).get request = some occasion) :
    occasion ∈ request.numPrachFdOccasionsList :=
  List.mem_of_getElem? h

/-- An occasion with as many unused root sequences takes the place of another one. -/
theorem allocated_put_occasion {request : NrConfigRequest} {index : ℕ} {occasion : PrachFdOccasion}
    (hallocated : request.Allocated) (hunused : occasion.unusedRootSequencesList.length = 1) :
    ((NrConfigRequest.occasion index).put request occasion).Allocated where
  occasions := by
    show (request.numPrachFdOccasionsList.set index occasion).length = 1
    rw [List.length_set]
    exact hallocated.occasions
  unused other h := by
    rcases List.mem_or_eq_of_mem_set h with hother | rfl
    · exact hallocated.unused other hother
    · exact hunused
  slots := hallocated.slots
  symbols := hallocated.symbols

/-- The places in an occasion. -/
theorem keepsLists_occasion {τ : Type} {member : Place PrachFdOccasion τ} {index : ℕ}
    (h : ∀ occasion part, (member.put occasion part).unusedRootSequencesList.length =
      occasion.unusedRootSequencesList.length) :
    KeepsLists ((NrConfigRequest.occasion index).within member) := by
  intro request part hallocated
  cases hget : (NrConfigRequest.occasion index).get request with
  | some occasion =>
    rw [Place.put_within part hget]
    apply allocated_put_occasion hallocated
    rw [h]
    exact hallocated.unused occasion (mem_of_get_occasion hget)
  | none =>
    rw [Place.put_within_none part hget]
    exact hallocated

theorem isThere_unused : IsThere (NrConfigRequest.unusedRootSequence 0 0) := by
  intro request hallocated
  obtain ⟨occasion, hget⟩ := isThere_occasion request hallocated
  have hlength : 0 < occasion.unusedRootSequencesList.length := by
    rw [hallocated.unused occasion (mem_of_get_occasion hget)]
    exact Nat.one_pos
  exact ⟨_, Place.get_within.mpr ⟨occasion, hget, List.getElem?_eq_getElem hlength⟩⟩

theorem isMissing_unused {index unused : ℕ} (h : index ≠ 0 ∨ unused ≠ 0) :
    IsMissing (NrConfigRequest.unusedRootSequence index unused) := by
  intro request hallocated
  cases hget : (NrConfigRequest.occasion index).get request with
  | some occasion =>
    have hunused : unused ≠ 0 := by
      refine h.resolve_left ?_
      intro hindex
      rw [isMissing_occasion hindex request hallocated] at hget
      cases hget
    unfold NrConfigRequest.unusedRootSequence
    rw [Place.get_within_some hget]
    apply List.getElem?_eq_none
    rw [hallocated.unused occasion (mem_of_get_occasion hget)]
    exact Nat.one_le_iff_ne_zero.mpr hunused
  | none => exact Place.get_within_none hget

theorem isThere_slot {τ : Type} {length index : ℕ} {get : NrConfigRequest → Vector τ length}
    {put : NrConfigRequest → Vector τ length → NrConfigRequest} (h : index < length) :
    IsThere (Place.within (.member get put) (.slot index)) :=
  fun request _ ↦ ⟨(get request)[index], Vector.getElem?_eq_getElem h⟩

theorem isMissing_slot {τ : Type} {length index : ℕ} {get : NrConfigRequest → Vector τ length}
    {put : NrConfigRequest → Vector τ length → NrConfigRequest} (h : ¬ index < length) :
    IsMissing (Place.within (.member get put) (.slot index)) :=
  fun _ _ ↦ Vector.getElem?_eq_none (Nat.le_of_not_lt h)

theorem get_slotConfig (slot symbol : ℕ) (request : NrConfigRequest) :
    (NrConfigRequest.slotConfig slot symbol).get request =
      (Place.within (.element slot) (.element symbol)).get request.maxTddPeriodicityList := rfl

theorem isThere_slotConfig {slot symbol : ℕ} (hslot : slot < 40) (hsymbol : symbol < 14) :
    IsThere (NrConfigRequest.slotConfig slot symbol) := by
  intro request hallocated
  have hlength : slot < request.maxTddPeriodicityList.length := by
    rw [hallocated.slots]
    exact hslot
  have hsymbols : symbol < request.maxTddPeriodicityList[slot].length := by
    rw [hallocated.symbols _ (List.getElem_mem hlength)]
    exact hsymbol
  refine ⟨request.maxTddPeriodicityList[slot][symbol], ?_⟩
  rw [get_slotConfig, Place.get_within]
  exact ⟨_, List.getElem?_eq_getElem hlength, List.getElem?_eq_getElem hsymbols⟩

theorem isMissing_slotConfig {slot symbol : ℕ} (hslot : ¬ slot < 40) :
    IsMissing (NrConfigRequest.slotConfig slot symbol) := by
  intro request hallocated
  rw [get_slotConfig]
  apply Place.get_within_none
  apply List.getElem?_eq_none
  rw [hallocated.slots]
  exact Nat.le_of_not_lt hslot

theorem keepsLists_slotConfig {slot symbol : ℕ} :
    KeepsLists (NrConfigRequest.slotConfig slot symbol) := by
  intro request part hallocated
  cases hget : (Place.element slot).get request.maxTddPeriodicityList with
  | some symbols =>
    have hput : (NrConfigRequest.slotConfig slot symbol).put request part =
        { request with maxTddPeriodicityList :=
            request.maxTddPeriodicityList.set slot (symbols.set symbol part) } :=
      congrArg (fun maxTddPeriodicityList ↦ { request with maxTddPeriodicityList })
        (Place.put_within part hget)
    rw [hput]
    constructor
    · exact hallocated.occasions
    · exact hallocated.unused
    · show (request.maxTddPeriodicityList.set slot (symbols.set symbol part)).length = 40
      rw [List.length_set]
      exact hallocated.slots
    · intro other h
      rcases List.mem_or_eq_of_mem_set h with hother | rfl
      · exact hallocated.symbols other hother
      · rw [List.length_set]
        exact hallocated.symbols symbols (List.mem_of_getElem? hget)
  | none =>
    have hput : (NrConfigRequest.slotConfig slot symbol).put request part = request :=
      congrArg (fun maxTddPeriodicityList ↦ { request with maxTddPeriodicityList })
        (Place.put_within_none part hget)
    rw [hput]
    exact hallocated

/-! ### What one field does -/

/-- The indices behind fields with these tags. -/
def indicesBehind (tags : List UInt16) : NrConfigIndices where
  prachRootSeqIdx := tags.count NrConfigTlv.prachRootSequenceIndex.tag
  unusedRootSeqIdx := tags.count NrConfigTlv.unusedRootSequences.tag
  ssbMaskIdx := tags.count NrConfigTlv.ssbMask.tag
  configBeamIdx := tags.count NrConfigTlv.beamId.tag
  tddPeriodicityIdx := tags.count NrConfigTlv.slotConfig.tag / 14
  symbolPerSlotIdx := tags.count NrConfigTlv.slotConfig.tag % 14

/-- The lists are those that were allocated, and the indices those behind the tags. -/
def Tally (tags : List UInt16) (decoding : NrConfigDecoding) : Prop :=
  decoding.request.Allocated ∧ decoding.indices = indicesBehind tags

section Field

variable {limit size : ℕ} {tl : Tl}

theorem takes_storeTl {α : Type} {x : Fill (Tlv α)} {field : Tlv α}
    (h : ∀ field, Takes limit size x field fun _ ↦ True) :
    Takes limit size ((storeTl tl).andThen x) field fun _ ↦ True :=
  takes_after (fun _ _ ↦ rfl) (h { field with tl })

/-- What is put into a place of the request leaves the indices. -/
theorem takes_inRequest {τ : Type} {place : Place NrConfigRequest τ} {x : Fill τ}
    {decoding : NrConfigDecoding} (hallocated : decoding.request.Allocated)
    (hthere : IsThere place) (hkeeps : KeepsLists place)
    (hx : ∀ part, Takes limit size x part fun _ ↦ True) :
    Takes limit size (.inPlace (inRequest place) x) decoding fun decoding' ↦
      decoding'.request.Allocated ∧ decoding'.indices = decoding.indices := by
  obtain ⟨part, hget⟩ := hthere decoding.request hallocated
  have hplace : (inRequest place).get decoding = some part := hget
  apply takes_inPlace hplace (hx part)
  intro part' _
  exact ⟨hkeeps decoding.request part' hallocated, rfl⟩

/-- A field that goes to a place with an index, if the place is there. -/
theorem takes_indexedField {α : Type} {first : Place NrConfigRequest (Tlv α)}
    {current : NrConfigIndices → Place NrConfigRequest (Tlv α)} {unpack : ℕ → Fill (Tlv α)}
    {next : NrConfigIndices → NrConfigIndices} {decoding : NrConfigDecoding}
    (hallocated : decoding.request.Allocated) (hfirst : IsThere first) (hkeep : KeepsLists first)
    (hcurrent : IsThere (current decoding.indices))
    (hkeeps : ∀ indices, KeepsLists (current indices))
    (hunpack : ∀ field, Takes limit size (unpack limit) field fun _ ↦ True) :
    Takes limit size (indexedField first current unpack next tl limit) decoding fun decoding' ↦
      decoding'.request.Allocated ∧ decoding'.indices = next decoding.indices := by
  obtain ⟨part, hget⟩ := hfirst decoding.request hallocated
  have hplace : (inRequest first).get decoding = some part := hget
  unfold indexedField
  apply takes_after fun mem pos ↦ inPlace_of_get hplace rfl
  have hput := hkeep decoding.request { part with tl } hallocated
  apply takes_thenModify (takes_look (takes_inRequest hput hcurrent (hkeeps _)
    fun field ↦ takes_storeTl hunpack))
  rintro decoding' ⟨hlists, hindices⟩
  exact ⟨hlists, congrArg next hindices⟩

/-- If it is not, the decoder writes outside the memory. -/
theorem indexedField_fault {α : Type} {first : Place NrConfigRequest (Tlv α)}
    {current : NrConfigIndices → Place NrConfigRequest (Tlv α)} {unpack : ℕ → Fill (Tlv α)}
    {next : NrConfigIndices → NrConfigIndices} {decoding : NrConfigDecoding}
    (hallocated : decoding.request.Allocated) (hfirst : IsThere first) (hkeep : KeepsLists first)
    (hcurrent : IsMissing (current decoding.indices)) (mem : Memory) (pos : ℕ) :
    indexedField first current unpack next tl limit mem decoding pos = .error .fault := by
  obtain ⟨part, hget⟩ := hfirst decoding.request hallocated
  have hplace : (inRequest first).get decoding = some part := hget
  have hput := hkeep decoding.request { part with tl } hallocated
  have hmissing : (inRequest (current decoding.indices)).get
      ((inRequest first).put decoding { part with tl }) = none := hcurrent _ hput
  have hstore : Fill.inPlace (inRequest first) (storeTl tl) mem decoding pos =
      .ok (true, (inRequest first).put decoding { part with tl }, pos) := inPlace_of_get hplace rfl
  exact andThen_crash hstore (thenModify_crash (inPlace_missing hmissing mem pos))

/-- A field of five values. -/
theorem takes_fiveValues {array : Place NrConfigRequest (Vector (Tlv UInt16) 5)}
    {decoding : NrConfigDecoding} (hallocated : decoding.request.Allocated)
    (hthere : ∀ index < 5, IsThere (array.within (.slot index)))
    (hkeeps : ∀ index, KeepsLists (array.within (.slot index))) :
    Takes limit 10 (fiveValues array tl limit) decoding fun decoding' ↦
      decoding'.request.Allocated ∧ decoding'.indices = decoding.indices := by
  obtain ⟨part, hget⟩ := hthere 1 (by decide) decoding.request hallocated
  have hplace : (inRequest (array.within (.slot 1))).get decoding = some part := hget
  unfold fiveValues
  apply takes_after fun mem pos ↦ inPlace_of_get hplace rfl
  have hput := hkeeps 1 decoding.request { part with tl } hallocated
  have hten : 10 = 2 * (4 + 1) := rfl
  rw [hten]
  have hvalue (mem : Memory) (field : Tlv UInt16) (pos : ℕ) (hsize : limit ≤ mem.size)
      (hpos : pos ≤ limit) := @takes_pull16 (Tlv UInt16) limit field (fun _ ↦ True)
        (fun field value ↦ { field with value }) (fun _ ↦ trivial) mem pos hsize hpos
  apply takes_lastOf 4 0 false (by decide : 0 + 4 < 5)
  · intro index hindex mem shadow pos hsize hright hroom
    obtain ⟨field, hfield⟩ := hthere index hindex shadow.request hright.1
    have hslot : (inRequest (array.within (.slot index))).get shadow = some field := hfield
    obtain ⟨field', last, hrun, hlast⟩ := hvalue mem field pos hsize (by omega)
    obtain ⟨-, rfl⟩ := hlast hroom
    rw [decide_eq_true hroom] at hrun
    refine ⟨_, inPlace_of_get hslot hrun, ?_⟩
    exact ⟨hkeeps index shadow.request field' hright.1, hright.2⟩
  · intro index hindex mem shadow pos hright hshort
    obtain ⟨field, hfield⟩ := hthere index hindex shadow.request hright.1
    have hslot : (inRequest (array.within (.slot index))).get shadow = some field := hfield
    have hrun : unpackUint16TlvValue limit mem field pos = .ok (false, field, pos) := by
      unfold unpackUint16TlvValue Fill.pull Fill.pulled
      rw [Pull.pull16_of_no_room hshort]
    refine ⟨_, inPlace_of_get hslot hrun, ?_⟩
    exact ⟨hkeeps index shadow.request field hright.1, hright.2⟩
  · exact ⟨hput, rfl⟩

/-- The value of a field that there is one of. -/
theorem takes_codec {kind : ValueKind} (hkind : kind ≠ .rfBands ∧ kind ≠ .nmmFrequencyBands)
    (value : kind.Value) : Takes limit kind.size (kind.codec.fill limit) value fun _ ↦ True := by
  cases kind with
  | uint8 => exact takes_andThen_done (takes_pull8 fun _ ↦ trivial)
  | uint16 => exact takes_andThen_done (takes_pull16 fun _ ↦ trivial)
  | uint32 => exact takes_andThen_done (takes_pull32 fun _ ↦ trivial)
  | ipv4Address =>
    exact takes_andThen_done (takes_look
      (takes_pullarray8 (by decide) (Nat.le_refl _) fun _ ↦ trivial))
  | ipv6Address =>
    exact takes_andThen_done (takes_look
      (takes_pullarray8 (by decide) (Nat.le_refl _) fun _ ↦ trivial))
  | rfBands => exact absurd rfl hkind.1
  | nmmFrequencyBands => exact absurd rfl hkind.2

theorem NrConfigField.kind_ne (name : NrConfigField) :
    name.kind ≠ .rfBands ∧ name.kind ≠ .nmmFrequencyBands := by
  cases name with
  | _ => decide

theorem takes_scalar {decoding : NrConfigDecoding} (hallocated : decoding.request.Allocated)
    (name : NrConfigField) :
    Takes limit (NrConfigTlv.scalar name).size ((NrConfigTlv.scalar name).fill tl limit) decoding
      fun decoding' ↦ decoding'.request.Allocated ∧ decoding'.indices = decoding.indices := by
  have hvalue (field : Tlv name.kind.Value) : Takes limit name.kind.size
      (Fill.component Tlv.value (fun (field : Tlv name.kind.Value) value ↦ { field with value })
        (name.kind.codec.fill limit)) field fun _ ↦ True :=
    takes_component (takes_codec name.kind_ne field.value) fun _ _ ↦ trivial
  have hslot : Takes limit name.kind.size
      ((slot (field NrConfigField.tag NrConfigField.kind) name).fill tl limit)
      decoding.request.fields fun _ ↦ True :=
    takes_component (takes_after (fun _ _ ↦ rfl) (hvalue _)) fun _ _ ↦ trivial
  exact @takes_component _ limit NrConfigDecoding _ _ _ (·.request.fields)
    (fun decoding fields ↦ { decoding with request := { decoding.request with fields } }) decoding
    _ hslot fun fields _ ↦
      ⟨⟨hallocated.occasions, hallocated.unused, hallocated.slots, hallocated.symbols⟩, rfl⟩

/-- A member of the current occasion, if there is no root sequence index so far. -/
theorem takes_occasionField {α : Type} {get : PrachFdOccasion → Tlv α}
    {put : PrachFdOccasion → Tlv α → PrachFdOccasion} {unpack : ℕ → Fill (Tlv α)}
    {next : NrConfigIndices → NrConfigIndices} {tags : List UInt16} {decoding : NrConfigDecoding}
    (htally : Tally tags decoding) (hplace : NrConfigTlv.prachRootSequenceIndex.tag ∉ tags)
    (hput : ∀ occasion part, (put occasion part).unusedRootSequencesList =
      occasion.unusedRootSequencesList)
    (hunpack : ∀ field, Takes limit size (unpack limit) field fun _ ↦ True) :
    Takes limit size (occasionField (.member get put) unpack next tl limit) decoding
      fun decoding' ↦
        decoding'.request.Allocated ∧ decoding'.indices = next decoding.indices := by
  have hthere : IsThere ((NrConfigRequest.occasion 0).within (.member get put)) := by
    intro request hallocated
    obtain ⟨occasion, hget⟩ := isThere_occasion request hallocated
    exact ⟨get occasion, Place.get_within.mpr ⟨occasion, hget, rfl⟩⟩
  have hkeeps : ∀ index,
      KeepsLists ((NrConfigRequest.occasion index).within (.member get put)) :=
    fun index ↦ keepsLists_occasion fun occasion part ↦ congrArg List.length (hput occasion part)
  have hindex : decoding.indices.prachRootSeqIdx = 0 := by
    rw [htally.2]
    exact List.count_eq_zero_of_not_mem hplace
  apply takes_indexedField htally.1 hthere (hkeeps 0) _ (fun _ ↦ hkeeps _) hunpack
  rw [hindex]
  exact hthere

theorem occasionField_fault {α : Type} {get : PrachFdOccasion → Tlv α}
    {put : PrachFdOccasion → Tlv α → PrachFdOccasion} {unpack : ℕ → Fill (Tlv α)}
    {next : NrConfigIndices → NrConfigIndices} {tags : List UInt16} {decoding : NrConfigDecoding}
    (htally : Tally tags decoding) (hplace : ¬ NrConfigTlv.prachRootSequenceIndex.tag ∉ tags)
    (hput : ∀ occasion part, (put occasion part).unusedRootSequencesList =
      occasion.unusedRootSequencesList) (mem : Memory) (pos : ℕ) :
    occasionField (.member get put) unpack next tl limit mem decoding pos = .error .fault := by
  have hthere : IsThere ((NrConfigRequest.occasion 0).within (.member get put)) := by
    intro request hallocated
    obtain ⟨occasion, hget⟩ := isThere_occasion request hallocated
    exact ⟨get occasion, Place.get_within.mpr ⟨occasion, hget, rfl⟩⟩
  have hindex : decoding.indices.prachRootSeqIdx ≠ 0 := by
    rw [htally.2]
    exact Nat.ne_of_gt (List.count_pos_iff.mpr (Classical.not_not.mp hplace))
  apply indexedField_fault htally.1 hthere
    (keepsLists_occasion fun occasion part ↦ congrArg List.length (hput occasion part))
  intro request hallocated
  exact Place.get_within_none (isMissing_occasion hindex request hallocated)

/-! ### Every field -/

theorem count_concat_self (tags : List UInt16) (tag : UInt16) :
    (tags ++ [tag]).count tag = tags.count tag + 1 := by
  rw [List.count_append, List.count_singleton_self]

theorem count_concat_ne {tags : List UInt16} {tlv tlv' : NrConfigTlv} (h : tlv ≠ tlv') :
    (tags ++ [tlv.tag]).count tlv'.tag = tags.count tlv'.tag := by
  have hne : (tlv.tag == tlv'.tag) = false :=
    beq_eq_false_iff_ne.mpr fun htag ↦ h (NrConfigTlv.tag_inj htag)
  rw [List.count_append, List.count_singleton, hne]
  rfl

/-- What a field does to the indices. -/
def NrConfigTlv.next (indices : NrConfigIndices) : NrConfigTlv → NrConfigIndices
  | prachRootSequenceIndex => { indices with prachRootSeqIdx := indices.prachRootSeqIdx + 1 }
  | unusedRootSequences => { indices with unusedRootSeqIdx := indices.unusedRootSeqIdx + 1 }
  | ssbMask => { indices with ssbMaskIdx := indices.ssbMaskIdx + 1 }
  | beamId => { indices with configBeamIdx := indices.configBeamIdx + 1 }
  | slotConfig => indices.nextSymbol
  | _ => indices

/-- A field that no index counts. -/
theorem indicesBehind_other {tags : List UInt16} {tlv : NrConfigTlv}
    (h : tlv ∉ [NrConfigTlv.prachRootSequenceIndex, .unusedRootSequences, .ssbMask, .beamId,
      .slotConfig]) : indicesBehind (tags ++ [tlv.tag]) = indicesBehind tags := by
  simp only [List.mem_cons, not_or] at h
  obtain ⟨hroot, hunused, hmask, hbeam, hslot, -⟩ := h
  unfold indicesBehind
  rw [count_concat_ne hroot, count_concat_ne hunused, count_concat_ne hmask,
    count_concat_ne hbeam, count_concat_ne hslot]

/-- The symbols are counted in groups of 14. -/
theorem nextSymbol_count (indices : NrConfigIndices) (count : ℕ) :
    NrConfigIndices.nextSymbol
        { indices with tddPeriodicityIdx := count / 14, symbolPerSlotIdx := count % 14 } =
      { indices with
        tddPeriodicityIdx := (count + 1) / 14, symbolPerSlotIdx := (count + 1) % 14 } := by
  have hsymbol : (count % 14 + 1) % 14 = (count + 1) % 14 := by omega
  unfold NrConfigIndices.nextSymbol
  dsimp only
  rw [hsymbol]
  split_ifs with hzero
  · have hslot : (count + 1) / 14 = count / 14 + 1 := by omega
    rw [hslot]
  · have hslot : (count + 1) / 14 = count / 14 := by omega
    rw [hslot]

/-- Behind one more field the indices are the next ones. -/
theorem indicesBehind_concat (tags : List UInt16) (tlv : NrConfigTlv) :
    indicesBehind (tags ++ [tlv.tag]) = tlv.next (indicesBehind tags) := by
  cases tlv with
  | prachRootSequenceIndex | unusedRootSequences | ssbMask | beamId =>
    unfold indicesBehind
    rw [count_concat_self, count_concat_ne (by decide), count_concat_ne (by decide),
      count_concat_ne (by decide), count_concat_ne (by decide)]
    rfl
  | slotConfig =>
    have hcount := nextSymbol_count (indicesBehind tags) (tags.count NrConfigTlv.slotConfig.tag)
    refine Eq.trans ?_ hcount.symm
    unfold indicesBehind
    rw [count_concat_self, count_concat_ne (by decide), count_concat_ne (by decide),
      count_concat_ne (by decide), count_concat_ne (by decide)]
  | scalar name => exact indicesBehind_other (by simp)
  | _ => exact indicesBehind_other (by decide)

/-- With a place for it, the decoder takes the bytes of a field and goes on with the next indices. -/
theorem NrConfigTlv.takes_fill {tags : List UInt16} {decoding : NrConfigDecoding}
    (htally : Tally tags decoding) (tlv : NrConfigTlv) (hplace : tlv.HasPlace tags) :
    Takes limit tlv.size (tlv.fill tl limit) decoding fun decoding' ↦
      decoding'.request.Allocated ∧ decoding'.indices = tlv.next decoding.indices := by
  have huint8 (field : Tlv UInt8) : Takes limit 1 (unpackUint8TlvValue limit) field fun _ ↦ True :=
    takes_pull8 fun _ ↦ trivial
  have huint16 (field : Tlv UInt16) :
      Takes limit 2 (unpackUint16TlvValue limit) field fun _ ↦ True :=
    takes_pull16 fun _ ↦ trivial
  have huint32 (field : Tlv UInt32) :
      Takes limit 4 (unpackUint32TlvValue limit) field fun _ ↦ True :=
    takes_pull32 fun _ ↦ trivial
  have hlow (field : Tlv UInt8) : Takes limit 2 (unpackUint16IntoUint8 limit) field fun _ ↦ True :=
    takes_pull16 fun _ ↦ trivial
  have hlists : ∀ {request request' : NrConfigRequest}, request.Allocated →
      request'.numPrachFdOccasionsList = request.numPrachFdOccasionsList →
      request'.maxTddPeriodicityList = request.maxTddPeriodicityList → request'.Allocated := by
    intro request request' hallocated hoccasions hslots
    constructor
    · rw [hoccasions]
      exact hallocated.occasions
    · rw [hoccasions]
      exact hallocated.unused
    · rw [hslots]
      exact hallocated.slots
    · rw [hslots]
      exact hallocated.symbols
  cases tlv with
  | scalar name => exact takes_scalar htally.1 name
  | dlK0 =>
    have hkeeps : ∀ index,
        KeepsLists (NrConfigRequest.dlK0Place.within (.slot index)) :=
      fun index request part h ↦ hlists h rfl rfl
    exact takes_fiveValues htally.1 (fun index hindex ↦ isThere_slot hindex) hkeeps
  | dlGridSize =>
    have hkeeps : ∀ index,
        KeepsLists (NrConfigRequest.dlGridSizePlace.within (.slot index)) :=
      fun index request part h ↦ hlists h rfl rfl
    exact takes_fiveValues htally.1 (fun index hindex ↦ isThere_slot hindex) hkeeps
  | ulK0 =>
    have hkeeps : ∀ index,
        KeepsLists (NrConfigRequest.ulK0Place.within (.slot index)) :=
      fun index request part h ↦ hlists h rfl rfl
    exact takes_fiveValues htally.1 (fun index hindex ↦ isThere_slot hindex) hkeeps
  | ulGridSize =>
    have hkeeps : ∀ index,
        KeepsLists (NrConfigRequest.ulGridSizePlace.within (.slot index)) :=
      fun index request part h ↦ hlists h rfl rfl
    exact takes_fiveValues htally.1 (fun index hindex ↦ isThere_slot hindex) hkeeps
  | prachRootSequenceIndex | k1 | numUnusedRootSequences =>
    exact takes_occasionField htally hplace (fun _ _ ↦ rfl) huint16
  | numRootSequences | prachZeroCorrConf =>
    exact takes_occasionField htally hplace (fun _ _ ↦ rfl) huint8
  | unusedRootSequences =>
    have hroot : decoding.indices.prachRootSeqIdx = 0 := by
      rw [htally.2]
      exact List.count_eq_zero_of_not_mem hplace.1
    have hunused : decoding.indices.unusedRootSeqIdx = 0 := by
      rw [htally.2]
      exact List.count_eq_zero_of_not_mem hplace.2
    have hkeeps : ∀ index unused,
        KeepsLists (NrConfigRequest.unusedRootSequence index unused) :=
      fun index unused ↦ keepsLists_occasion fun occasion part ↦ List.length_set
    have hcurrent : IsThere (NrConfigRequest.unusedRootSequence
        decoding.indices.prachRootSeqIdx decoding.indices.unusedRootSeqIdx) := by
      rw [hroot, hunused]
      exact isThere_unused
    show Takes limit 2 (indexedField (NrConfigRequest.unusedRootSequence 0 0)
      (fun indices ↦
        NrConfigRequest.unusedRootSequence indices.prachRootSeqIdx indices.unusedRootSeqIdx)
      unpackUint16IntoUint8
      (fun indices ↦ { indices with unusedRootSeqIdx := indices.unusedRootSeqIdx + 1 }) tl limit)
      decoding _
    exact Takes.imp (takes_indexedField htally.1 isThere_unused (hkeeps 0 0) hcurrent
      (fun _ ↦ hkeeps _ _) hlow) fun _ h ↦ h
  | ssbMask =>
    have hindex : decoding.indices.ssbMaskIdx < 2 := by
      rw [htally.2]
      exact hplace
    have hfirst : IsThere (NrConfigRequest.ssbMask 0) := isThere_slot (by decide)
    have hcurrent : IsThere (NrConfigRequest.ssbMask decoding.indices.ssbMaskIdx) :=
      isThere_slot hindex
    have hkeeps : ∀ index, KeepsLists (NrConfigRequest.ssbMask index) :=
      fun index request part h ↦ hlists h rfl rfl
    show Takes limit 4 (indexedField (NrConfigRequest.ssbMask 0)
      (fun indices ↦ NrConfigRequest.ssbMask indices.ssbMaskIdx) unpackUint32TlvValue
      (fun indices ↦ { indices with ssbMaskIdx := indices.ssbMaskIdx + 1 }) tl limit) decoding _
    exact Takes.imp (takes_indexedField htally.1 hfirst (hkeeps 0) hcurrent (fun _ ↦ hkeeps _)
      huint32) fun _ h ↦ h
  | beamId =>
    have hindex : decoding.indices.configBeamIdx < 64 := by
      rw [htally.2]
      exact hplace
    have hfirst : IsThere (NrConfigRequest.beamId 0) := isThere_slot (by decide)
    have hcurrent : IsThere (NrConfigRequest.beamId decoding.indices.configBeamIdx) :=
      isThere_slot hindex
    have hkeeps : ∀ index, KeepsLists (NrConfigRequest.beamId index) :=
      fun index request part h ↦ hlists h rfl rfl
    show Takes limit 1 (indexedField (NrConfigRequest.beamId 0)
      (fun indices ↦ NrConfigRequest.beamId indices.configBeamIdx) unpackUint8TlvValue
      (fun indices ↦ { indices with configBeamIdx := indices.configBeamIdx + 1 }) tl limit)
      decoding _
    exact Takes.imp (takes_indexedField htally.1 hfirst (hkeeps 0) hcurrent (fun _ ↦ hkeeps _)
      huint8) fun _ h ↦ h
  | slotConfig =>
    have hslot : decoding.indices.tddPeriodicityIdx < 40 := by
      rw [htally.2]
      exact Nat.div_lt_of_lt_mul (Nat.mul_comm 14 40 ▸ hplace)
    have hsymbol : decoding.indices.symbolPerSlotIdx < 14 := by
      rw [htally.2]
      exact Nat.mod_lt _ (by decide)
    have hfirst : IsThere (NrConfigRequest.slotConfig 0 0) :=
      isThere_slotConfig (by decide) (by decide)
    have hcurrent : IsThere (NrConfigRequest.slotConfig
        decoding.indices.tddPeriodicityIdx decoding.indices.symbolPerSlotIdx) :=
      isThere_slotConfig hslot hsymbol
    exact Takes.imp (takes_indexedField htally.1 hfirst keepsLists_slotConfig hcurrent
      (fun _ ↦ keepsLists_slotConfig) huint8) fun _ h ↦ h

/-- Without a place for it, the decoder writes outside the memory. -/
theorem NrConfigTlv.fill_fault {tags : List UInt16} {decoding : NrConfigDecoding}
    (htally : Tally tags decoding) (tlv : NrConfigTlv) (hplace : ¬ tlv.HasPlace tags)
    (mem : Memory) (pos : ℕ) : tlv.fill tl limit mem decoding pos = .error .fault := by
  cases tlv with
  | scalar name => exact absurd trivial hplace
  | dlK0 | dlGridSize | ulK0 | ulGridSize => exact absurd trivial hplace
  | prachRootSequenceIndex | k1 | numUnusedRootSequences | numRootSequences | prachZeroCorrConf =>
    rw [NrConfigTlv.fill]
    apply occasionField_fault htally hplace
    intro occasion part
    rfl
  | unusedRootSequences =>
    have hindices : decoding.indices.prachRootSeqIdx ≠ 0 ∨
        decoding.indices.unusedRootSeqIdx ≠ 0 := by
      rw [htally.2]
      by_cases hroot : prachRootSequenceIndex.tag ∈ tags
      · exact .inl (Nat.ne_of_gt (List.count_pos_iff.mpr hroot))
      · refine .inr (Nat.ne_of_gt (List.count_pos_iff.mpr ?_))
        exact Classical.not_not.mp fun hunused ↦ hplace ⟨hroot, hunused⟩
    rw [NrConfigTlv.fill]
    apply indexedField_fault htally.1 isThere_unused
    · exact keepsLists_occasion fun occasion part ↦ List.length_set
    · exact isMissing_unused hindices
  | ssbMask =>
    have hindex : ¬ decoding.indices.ssbMaskIdx < 2 := by
      rw [htally.2]
      exact hplace
    rw [NrConfigTlv.fill]
    apply indexedField_fault htally.1
    · exact isThere_slot (by decide)
    · intro request part h
      exact ⟨h.occasions, h.unused, h.slots, h.symbols⟩
    · exact isMissing_slot hindex
  | beamId =>
    have hindex : ¬ decoding.indices.configBeamIdx < 64 := by
      rw [htally.2]
      exact hplace
    rw [NrConfigTlv.fill]
    apply indexedField_fault htally.1
    · exact isThere_slot (by decide)
    · intro request part h
      exact ⟨h.occasions, h.unused, h.slots, h.symbols⟩
    · exact isMissing_slot hindex
  | slotConfig =>
    have hslot : ¬ decoding.indices.tddPeriodicityIdx < 40 := by
      rw [htally.2]
      intro hlt
      exact hplace ((Nat.div_lt_iff_lt_mul (by decide)).mp hlt)
    have hfirst : IsThere (NrConfigRequest.slotConfig 0 0) :=
      isThere_slotConfig (by decide) (by decide)
    rw [NrConfigTlv.fill]
    apply indexedField_fault htally.1 hfirst keepsLists_slotConfig
    exact isMissing_slotConfig hslot

/-- The decoder of a field goes along with the walk. -/
theorem shadows_field (tlv : NrConfigTlv) :
    Shadows AllHavePlace Tally limit (· ≤ limit) ((walkEntry tlv.tag tlv.size).fill tl limit)
      (tlv.fill tl limit) := by
  apply shadows_walkEntry
  · intro tags h
    exact (allHavePlace_concat.mp h).1
  · intro tags decoding htally h
    apply (tlv.takes_fill htally (allHavePlace_concat.mp h).2).imp
    rintro decoding' ⟨hlists, hindices⟩
    refine ⟨hlists, ?_⟩
    rw [hindices, htally.2, indicesBehind_concat]
  · intro tags decoding mem pos htally hall hbad
    apply tlv.fill_fault htally
    intro hplace
    exact hbad (allHavePlace_concat.mpr ⟨hall, hplace⟩)

end Field

/-! ### Unknown fields -/

section Unknown

variable {σ τ V : Type} {limit : ℕ} {config : Option (CodecConfig V)} {padding : UInt16 → ℕ}

/-- What is done with a field that nobody knows. -/
def badTag (padding : UInt16 → ℕ) (limit : ℕ) (rest : ℕ → Fill σ) (badTags : ℕ) (length : UInt16) :
    Fill σ :=
  if badTags + 1 > P7.Header.maxBadTag then .leave false
  else (skipUnknown padding limit length).andThen (rest (badTags + 1))

theorem unknownTlv_of_bad {rest : ℕ → Fill (σ × Option V)} {badTags : ℕ} {tl : Tl}
    (htag : ¬ P7.Header.vendorExtensionMinTagValue ≤ tl.tag) :
    unknownTlv padding config limit rest badTags tl =
      badTag padding limit rest badTags tl.length := by
  unfold unknownTlv
  rw [if_neg htag]
  rfl

theorem unknownTlv_of_none {rest : ℕ → Fill (σ × Option V)} {badTags : ℕ} {tl : Tl}
    (htag : P7.Header.vendorExtensionMinTagValue ≤ tl.tag)
    (hconfig : config.bind CodecConfig.unpackVendorExtensionTlv = none) :
    unknownTlv padding config limit rest badTags tl = rest badTags := by
  unfold unknownTlv
  rw [if_pos htag, hconfig]

/-- What is done behind the decoder of the vendor. -/
def afterVendor (padding : UInt16 → ℕ) (limit : ℕ) (rest : ℕ → Fill σ) (badTags : ℕ)
    (length : UInt16) : VendorResult → Fill σ
  | .failed => .leave false
  | .decoded => rest badTags
  | .unknown => badTag padding limit rest badTags length

theorem unknownTlv_of_some {rest : ℕ → Fill (σ × Option V)} {badTags : ℕ} {tl : Tl}
    {unpack : Tl → ℕ → Memory → Option V → ℕ → Outcome (VendorResult × Option V × ℕ)}
    (htag : P7.Header.vendorExtensionMinTagValue ≤ tl.tag)
    (hconfig : config.bind CodecConfig.unpackVendorExtensionTlv = some unpack) (mem : Memory)
    (value : σ × Option V) (pos : ℕ) :
    unknownTlv padding config limit rest badTags tl mem value pos =
      match unpack tl limit mem value.2 pos with
      | .ok (result, extension?, next) =>
        afterVendor padding limit rest badTags tl.length result mem (value.1, extension?) next
      | .error cause => .error cause := by
  unfold unknownTlv
  rw [if_pos htag, hconfig]
  dsimp only
  rcases unpack tl limit mem value.2 pos with cause | ⟨result, extension?, next⟩
  · rfl
  · cases result with
    | failed => rfl
    | decoded => rfl
    | unknown => rfl

theorem advancesFrom_andThen {x y : Fill σ} {mem : Memory} {pos : ℕ} (hx : Advances limit x)
    (hsize : limit ≤ mem.size) (hy : ∀ next, pos ≤ next → AdvancesFrom y mem next) :
    AdvancesFrom (x.andThen y) mem pos := by
  intro value
  obtain ⟨went, middle, next, hrun, hnext⟩ := hx mem value pos hsize
  unfold Fill.andThen
  rw [hrun]
  cases went with
  | true =>
    obtain ⟨went, value', last, hrest, hlast⟩ := hy next hnext middle
    exact ⟨went, value', last, hrest, Nat.le_trans hnext hlast⟩
  | false => exact ⟨false, middle, next, rfl, hnext⟩

theorem advancesFrom_badTag {rest : ℕ → Fill σ} {badTags : ℕ} {length : UInt16} {mem : Memory}
    {pos : ℕ} (hsize : limit ≤ mem.size)
    (hrest : ∀ badTags next, pos ≤ next → AdvancesFrom (rest badTags) mem next) :
    AdvancesFrom (badTag padding limit rest badTags length) mem pos := by
  unfold badTag
  split_ifs
  · exact fun value ↦ ⟨false, value, pos, rfl, Nat.le_refl _⟩
  · apply advancesFrom_andThen _ hsize fun next hnext ↦ hrest _ next hnext
    exact advances_andThen (advances_skip _) (advances_advance _)

theorem advancesFrom_afterVendor {rest : ℕ → Fill σ} {badTags : ℕ} {length : UInt16}
    {mem : Memory} {pos : ℕ} (result : VendorResult) (hsize : limit ≤ mem.size)
    (hrest : ∀ badTags next, pos ≤ next → AdvancesFrom (rest badTags) mem next) :
    AdvancesFrom (afterVendor padding limit rest badTags length result) mem pos := by
  cases result with
  | failed => exact fun value ↦ ⟨false, value, pos, rfl, Nat.le_refl _⟩
  | decoded => exact hrest badTags pos (Nat.le_refl _)
  | unknown => exact advancesFrom_badTag hsize hrest

theorem unknownAdvances_unknownTlv (hstays : VendorStays config) :
    UnknownAdvances limit (unknownTlv padding config limit : Unknown (σ × Option V)) := by
  intro rest badTags tl mem pos hsize hpos hrest
  by_cases htag : P7.Header.vendorExtensionMinTagValue ≤ tl.tag
  · cases hconfig : config.bind CodecConfig.unpackVendorExtensionTlv with
    | none =>
      rw [unknownTlv_of_none htag hconfig]
      exact hrest badTags pos (Nat.le_refl _)
    | some unpack =>
      intro value
      obtain ⟨result, extension?, next, hrun, hnext, -⟩ :=
        hstays unpack hconfig tl limit mem value.2 pos hsize hpos
      rw [unknownTlv_of_some htag hconfig, hrun]
      have hafter : AdvancesFrom (afterVendor padding limit rest badTags tl.length result) mem
          next :=
        advancesFrom_afterVendor result hsize fun badTags later hlater ↦
          hrest badTags later (Nat.le_trans hnext hlater)
      obtain ⟨went, value', last, hdone, hlast⟩ := hafter (value.1, extension?)
      exact ⟨went, value', last, hdone, Nat.le_trans hnext hlast⟩
  · rw [unknownTlv_of_bad htag]
    exact advancesFrom_badTag hsize hrest

theorem stopsWithin_badTag {rest : ℕ → Fill σ} {badTags : ℕ} {length : UInt16}
    (hrest : ∀ badTags, StopsBelow limit (rest badTags)) :
    StopsWithin limit (badTag padding limit rest badTags length) := by
  unfold badTag
  split_ifs
  · exact stopsWithin_of_within
  · exact stopsWithin_andThen (stopsWithin_advance stopsWithin_of_within _) (hrest _)

theorem stopsWithin_afterVendor {rest : ℕ → Fill σ} {badTags : ℕ} {length : UInt16}
    (result : VendorResult) (hrest : ∀ badTags, StopsBelow limit (rest badTags)) :
    StopsWithin limit (afterVendor padding limit rest badTags length result) := by
  cases result with
  | failed =>
    show StopsWithin limit (.leave false : Fill σ)
    exact stopsWithin_of_within
  | decoded =>
    intro mem value pos value' last hsize _ h
    exact hrest badTags mem value pos value' last hsize h
  | unknown => exact stopsWithin_badTag hrest

/-- Where the decoder of the vendor stays in the message, the list decoder does as well. -/
theorem stopsWithin_unknownTlv (hstays : VendorStays config) {rest : ℕ → Fill (σ × Option V)}
    {badTags : ℕ} {tl : Tl} (hrest : ∀ badTags, StopsBelow limit (rest badTags)) :
    StopsWithin limit (unknownTlv padding config limit rest badTags tl) := by
  by_cases htag : P7.Header.vendorExtensionMinTagValue ≤ tl.tag
  · cases hconfig : config.bind CodecConfig.unpackVendorExtensionTlv with
    | none =>
      rw [unknownTlv_of_none htag hconfig]
      intro mem value pos value' last hsize _ h
      exact hrest badTags mem value pos value' last hsize h
    | some unpack =>
      intro mem value pos value' last hsize hpos h
      obtain ⟨result, extension?, next, hrun, -, hnext⟩ :=
        hstays unpack hconfig tl limit mem value.2 pos hsize hpos
      rw [unknownTlv_of_some htag hconfig, hrun] at h
      exact stopsWithin_afterVendor result hrest mem _ next value' last hsize hnext h
  · rw [unknownTlv_of_bad htag]
    exact stopsWithin_badTag hrest

theorem shadows_badTag {Good : σ → Prop} {R : σ → τ → Prop} {rest : ℕ → Fill σ}
    {rest' : ℕ → Fill τ} {badTags : ℕ} {length : UInt16}
    (hrest : ∀ badTags, Shadows Good R limit anywhere (rest badTags) (rest' badTags)) :
    Shadows Good R limit anywhere (badTag padding limit rest badTags length)
      (badTag padding limit rest' badTags length) := by
  unfold badTag
  split_ifs
  · exact shadows_leave false
  · exact ((shadows_skip _ _).andThen (shadows_advance _)).andThen (hrest _)

theorem shadows_afterVendor {Good : σ → Prop} {R : σ → τ → Prop} {rest : ℕ → Fill σ}
    {rest' : ℕ → Fill τ} {badTags : ℕ} {length : UInt16} (result : VendorResult)
    (hrest : ∀ badTags, Shadows Good R limit anywhere (rest badTags) (rest' badTags)) :
    Shadows Good R limit anywhere (afterVendor padding limit rest badTags length result)
      (afterVendor padding limit rest' badTags length result) := by
  cases result with
  | failed => exact shadows_leave false
  | decoded => exact hrest badTags
  | unknown => exact shadows_badTag hrest

/-- Both sides hand the field to the same decoder, with the same extension. -/
theorem shadows_unknownTlv {Good : σ → Prop} {R : σ → τ → Prop} {rest : ℕ → Fill (σ × Option V)}
    {rest' : ℕ → Fill (τ × Option V)} {badTags : ℕ} {tl : Tl}
    (hrest : ∀ badTags, Shadows (fun value : σ × Option V ↦ Good value.1)
      (fun value shadow ↦ R value.1 shadow.1 ∧ value.2 = shadow.2) limit anywhere (rest badTags)
      (rest' badTags)) :
    Shadows (fun value : σ × Option V ↦ Good value.1)
      (fun value shadow ↦ R value.1 shadow.1 ∧ value.2 = shadow.2) limit anywhere
      (unknownTlv padding config limit rest badTags tl)
      (unknownTlv padding config limit rest' badTags tl) := by
  by_cases htag : P7.Header.vendorExtensionMinTagValue ≤ tl.tag
  · cases hconfig : config.bind CodecConfig.unpackVendorExtensionTlv with
    | none =>
      rw [unknownTlv_of_none htag hconfig, unknownTlv_of_none htag hconfig]
      exact hrest badTags
    | some unpack =>
      have hafter := fun result ↦ @shadows_afterVendor _ _ limit padding _ _ _ _ badTags tl.length
        result hrest
      constructor
      · intro mem value pos went value' last h hgood
        rw [unknownTlv_of_some htag hconfig] at h
        rcases hrun : unpack tl limit mem value.2 pos with cause | ⟨result, extension?, next⟩
        · rw [hrun] at h
          cases h
        · rw [hrun] at h
          exact (hafter result).recalls mem (value.1, extension?) next went value' last h hgood
      · intro mem value shadow pos went value' last hsize _ hrel h hgood
        rw [unknownTlv_of_some htag hconfig] at h ⊢
        rw [← hrel.2]
        rcases hrun : unpack tl limit mem value.2 pos with cause | ⟨result, extension?, next⟩
        · rw [hrun] at h
          cases h
        · rw [hrun] at h
          exact (hafter result).follows mem (value.1, extension?) (shadow.1, extension?) next went
            value' last hsize trivial ⟨hrel.1, rfl⟩ h hgood
      · intro mem value shadow pos went value' last hsize _ hrel h hgood hbad
        rw [unknownTlv_of_some htag hconfig] at h ⊢
        rw [← hrel.2]
        rcases hrun : unpack tl limit mem value.2 pos with cause | ⟨result, extension?, next⟩
        · rw [hrun] at h
          cases h
        · rw [hrun] at h
          exact (hafter result).faults mem (value.1, extension?) (shadow.1, extension?) next went
            value' last hsize trivial ⟨hrel.1, rfl⟩ h hgood hbad
  · rw [unknownTlv_of_bad htag, unknownTlv_of_bad htag]
    exact shadows_badTag hrest

end Unknown

/-! ### The whole message -/

section Message

variable {V : Type} {limit : ℕ} {config : Option (CodecConfig V)}

/-- A message whose fields walk and decoder have gone over alike. -/
def Alike (value : List UInt16 × Option V) (shadow : NrConfigDecoding × Option V) : Prop :=
  Tally value.1 shadow.1 ∧ value.2 = shadow.2

/-- The entries of the walk and those of the decoder, with the padding behind them. -/
def nrConfigPairs : List (EntryPair (List UInt16 × Option V) (NrConfigDecoding × Option V)) :=
  NrConfigTlv.table.map fun tlv ↦
    { tag := tlv.tag
      left := fun tl limit ↦ (Fill.component Prod.fst (fun value part ↦ (part, value.2))
        ((walkEntry tlv.tag tlv.size).fill tl limit)).andThen (.advance (getTlvPadding tl.length))
      right := fun tl limit ↦ (Fill.component Prod.fst (fun value part ↦ (part, value.2))
        (tlv.fill tl limit)).andThen (.advance (getTlvPadding tl.length)) }

theorem entries_nrConfigWalk :
    (withExtension (NrConfigTlv.table.map fun tlv ↦ walkEntry tlv.tag tlv.size) :
        List (Entry (List UInt16 × Option V))).map (Entry.padded getTlvPadding) =
      nrConfigPairs.map fun pair ↦ ⟨pair.tag, pair.left⟩ := by
  unfold withExtension nrConfigPairs
  rw [List.map_map, List.map_map, List.map_map]
  rfl

theorem entries_unpackNrConfigRequest :
    (withExtension (NrConfigTlv.table.map NrConfigTlv.entry) :
        List (Entry (NrConfigDecoding × Option V))).map (Entry.padded getTlvPadding) =
      nrConfigPairs.map fun pair ↦ ⟨pair.tag, pair.right⟩ := by
  unfold withExtension nrConfigPairs
  rw [List.map_map, List.map_map, List.map_map]
  rfl

/-- The loop of the decoder goes along with that of the walk. -/
theorem shadows_nrConfigLoop (bound badTags : ℕ) :
    Shadows (fun value : List UInt16 × Option V ↦ AllHavePlace value.1) Alike limit anywhere
      (fillTlvLoop (unknownTlv getTlvPadding config limit)
        (nrConfigPairs.map fun pair ↦ ⟨pair.tag, pair.left⟩) limit bound badTags)
      (fillTlvLoop (unknownTlv getTlvPadding config limit)
        (nrConfigPairs.map fun pair ↦ ⟨pair.tag, pair.right⟩) limit bound badTags) := by
  apply shadows_fillTlvLoop
  · intro pair hpair tl
    obtain ⟨tlv, -, rfl⟩ := List.mem_map.mp hpair
    exact (shadows_fst (shadows_field tlv)).andThen (shadows_advance _)
  · intro rest rest' badTags tl hrest
    exact (shadows_unknownTlv hrest).narrow

theorem shadows_nrConfigList :
    Shadows (fun value : List UInt16 × Option V ↦ AllHavePlace value.1) Alike limit anywhere
      (unpackNrTlvList config (NrConfigTlv.table.map fun tlv ↦ walkEntry tlv.tag tlv.size) limit)
      (unpackNrTlvList config (NrConfigTlv.table.map NrConfigTlv.entry) limit) := by
  unfold unpackNrTlvList
  rw [entries_nrConfigWalk, entries_unpackNrConfigRequest]
  exact shadows_fillTlvList fun bound ↦ shadows_nrConfigLoop bound 0

/-- The number of fields that is in front of them does not matter. -/
theorem shadows_numTlv :
    Shadows (fun value : List UInt16 × Option V ↦ AllHavePlace value.1) Alike limit anywhere
      (Fill.attempt (.skip limit 1))
      (Fill.attempt (.pull (.pull8 limit) fun decoding numTlv ↦
        ({ decoding.1 with request := { decoding.1.request with numTlv } }, decoding.2))) := by
  have hwalk : ∀ mem (value : List UInt16 × Option V) pos,
      Fill.attempt (.skip limit 1) mem value pos =
        .ok (true, value, if pos + 1 ≤ limit then pos + 1 else pos) := by
    intro mem value pos
    unfold Fill.attempt Fill.skip
    by_cases hroom : pos + 1 ≤ limit
    · rw [if_pos hroom, if_pos hroom]
    · rw [if_neg hroom, if_neg hroom]
  constructor
  · intro mem value pos went value' last h hgood
    rw [hwalk] at h
    cases h
    exact hgood
  · intro mem value shadow pos went value' last hsize _ hrel h _
    rw [hwalk] at h
    cases h
    have hlists := hrel.1.1
    unfold Fill.attempt Fill.pull Fill.pulled
    by_cases hroom : pos + 1 ≤ limit
    · rw [pull8_of_room hsize hroom, if_pos hroom]
      refine ⟨_, _, rfl, fun _ ↦ ⟨⟨⟨?_, hrel.1.2⟩, hrel.2⟩, rfl⟩⟩
      exact ⟨hlists.occasions, hlists.unused, hlists.slots, hlists.symbols⟩
    · rw [pull8_of_no_room hroom, if_neg hroom]
      exact ⟨shadow, pos, rfl, fun _ ↦ ⟨hrel, rfl⟩⟩
  · intro mem value shadow pos went value' last _ _ _ h hgood hbad
    rw [hwalk] at h
    cases h
    exact absurd hgood hbad

/-- The decoder goes along with the walk over the message. -/
theorem shadows_nrConfig :
    Shadows (fun value : List UInt16 × Option V ↦ AllHavePlace value.1) Alike limit anywhere
      (nrConfigWalk config limit) (unpackNrConfigRequest config limit) :=
  shadows_numTlv.andThen shadows_nrConfigList

/-- The walk always ends. -/
theorem advances_nrConfigWalk (hstays : VendorStays config) :
    Advances limit (nrConfigWalk config limit) := by
  have hnumTlv : Advances limit
      (Fill.attempt (.skip limit 1) : Fill (List UInt16 × Option V)) := by
    intro mem value pos hsize
    obtain ⟨went, value', last, hrun, hlast⟩ := advances_skip 1 mem value pos hsize
    refine ⟨true, value', last, ?_, hlast⟩
    unfold Fill.attempt
    rw [hrun]
  apply advances_andThen hnumTlv
  intro mem value pos hsize
  unfold unpackNrTlvList
  rw [entries_nrConfigWalk]
  apply advances_fillTlvLoop _ (unknownAdvances_unknownTlv hstays) hsize _ 0 pos
    (Nat.lt_succ_self _) value
  intro entry hentry tl
  obtain ⟨pair, hpair, rfl⟩ := List.mem_map.mp hentry
  obtain ⟨tlv, -, rfl⟩ := List.mem_map.mp hpair
  exact advances_andThen (advances_component (advances_walkEntry _ _ _)) (advances_advance _)

instance {tlv : NrConfigTlv} {tl : Tl} : Within limit (tlv.fill tl limit) := by
  have huint8 : Within limit (unpackUint8TlvValue limit) :=
    within_pull fun _ _ _ _ _ ↦ pull8_le
  have huint16 : Within limit (unpackUint16TlvValue limit) :=
    within_pull fun _ _ _ _ _ ↦ pull16_le
  have huint32 : Within limit (unpackUint32TlvValue limit) :=
    within_pull fun _ _ _ _ _ ↦ pull32_le
  have hlow : Within limit (unpackUint16IntoUint8 limit) :=
    within_pull fun _ _ _ _ _ ↦ pull16_le
  cases tlv with
  | scalar name =>
    have hslot := (slot (field NrConfigField.tag NrConfigField.kind) name).within tl limit
    unfold NrConfigTlv.fill
    infer_instance
  | dlK0 | dlGridSize | ulK0 | ulGridSize =>
    unfold NrConfigTlv.fill fiveValues storeTl
    infer_instance
  | unusedRootSequences | ssbMask | beamId | slotConfig =>
    unfold NrConfigTlv.fill indexedField storeTl
    infer_instance
  | _ =>
    unfold NrConfigTlv.fill occasionField indexedField storeTl
    infer_instance

/-- Neither the walk nor the decoder stops behind the end of the message. -/
theorem stopsWithin_nrConfig {σ : Type} {numTlv : Fill (σ × Option V)}
    {entries : List (Entry (σ × Option V))} (hstays : VendorStays config)
    [hnumTlv : Within limit numTlv]
    (hentries : ∀ entry ∈ entries, ∀ tl, StopsWithin limit (entry.fill tl limit)) :
    StopsWithin limit (numTlv.andThen
      (fillTlvList (unknownTlv getTlvPadding config limit) entries limit)) := by
  apply stopsWithin_andThen stopsWithin_of_within
  intro mem value pos value' last hsize h
  exact stopsBelow_fillTlvLoop hentries (fun rest badTags tl ↦ stopsWithin_unknownTlv hstays) _ 0
    mem value pos value' last hsize h

theorem stopsWithin_nrConfigWalk (hstays : VendorStays config) :
    StopsWithin limit (nrConfigWalk config limit) := by
  unfold nrConfigWalk unpackNrTlvList
  rw [entries_nrConfigWalk]
  apply stopsWithin_nrConfig hstays
  intro entry hentry tl
  obtain ⟨pair, hpair, rfl⟩ := List.mem_map.mp hentry
  obtain ⟨tlv, -, rfl⟩ := List.mem_map.mp hpair
  exact stopsWithin_advance stopsWithin_of_within _

theorem stopsWithin_unpackNrConfigRequest (hstays : VendorStays config) :
    StopsWithin limit (unpackNrConfigRequest config limit) := by
  have hpull : Within limit (Fill.pull (.pull8 limit)
      fun (decoding : NrConfigDecoding × Option V) numTlv ↦
        ({ decoding.1 with request := { decoding.1.request with numTlv } }, decoding.2)) :=
    within_pull fun _ _ _ _ _ ↦ pull8_le
  unfold unpackNrConfigRequest unpackNrTlvList
  rw [entries_unpackNrConfigRequest]
  apply stopsWithin_nrConfig hstays
  intro entry hentry tl
  obtain ⟨pair, hpair, rfl⟩ := List.mem_map.mp hentry
  obtain ⟨tlv, -, rfl⟩ := List.mem_map.mp hpair
  exact stopsWithin_advance stopsWithin_of_within _

/-! ### Safety -/

theorem indicesBehind_nil : indicesBehind [] = {} := by
  unfold indicesBehind
  simp only [List.count_nil, Nat.zero_div, Nat.zero_mod]

theorem allHavePlace_nil : AllHavePlace [] := eachFits_nil _

/-- Before anything is read, the lists are those that are allocated, and all indices are zero. -/
theorem alike_start (lists : AllocatedLists) (extension? : Option V) :
    Alike ([], extension?) (lists.decoding, extension?) :=
  ⟨⟨lists.allocated, indicesBehind_nil.symm⟩, rfl⟩

/-- For these bytes the decoder ends, reads and writes nothing outside the memory, and does not leave
the cursor behind the end. -/
def NrConfigSafe (config : Option (CodecConfig V)) (lists : AllocatedLists) (extension? : Option V)
    (bytes : List UInt8) : Prop :=
  ∃ went decoded last, unpackNrConfigRequest config bytes.length (memoryOf bytes)
    (lists.decoding, extension?) 0 = .ok (went, decoded, last) ∧ last ≤ bytes.length

/-- The decoder is safe exactly for the messages in which each field has a place and whose end no
padding is behind. -/
theorem nrConfigRequest_safe_iff (hstays : VendorStays config) (lists : AllocatedLists)
    (extension? : Option V) (bytes : List UInt8) :
    NrConfigSafe config lists extension? bytes ↔
      ∃ went tags rest last, nrConfigWalk config bytes.length (memoryOf bytes) ([], extension?) 0 =
        .ok (went, (tags, rest), last) ∧ AllHavePlace tags ∧ last ≤ bytes.length := by
  have hsize : bytes.length ≤ (memoryOf bytes).size := Nat.le_refl _
  obtain ⟨went, ⟨tags, rest⟩, last, hwalk, -⟩ :=
    advances_nrConfigWalk hstays (memoryOf bytes) ([], extension?) 0 hsize
  have hshadows := @shadows_nrConfig V bytes.length config
  constructor
  · rintro ⟨went', decoded, last', hrun, hlast⟩
    have hplaces : AllHavePlace tags := by
      apply Classical.byContradiction
      intro hbad
      have hfault := hshadows.faults _ _ _ 0 went (tags, rest) last hsize trivial
        (alike_start lists extension?) hwalk allHavePlace_nil hbad
      rw [hrun] at hfault
      cases hfault
    refine ⟨went, tags, rest, last, hwalk, hplaces, ?_⟩
    obtain ⟨decoded', last'', hfollows, hthrough⟩ := hshadows.follows _ _ _ 0 went (tags, rest)
      last hsize trivial (alike_start lists extension?) hwalk hplaces
    rw [hrun] at hfollows
    cases hfollows
    cases went with
    | true => exact (hthrough rfl).2 ▸ hlast
    | false =>
      exact stopsWithin_nrConfigWalk hstays _ _ 0 _ last hsize (Nat.zero_le _) hwalk
  · rintro ⟨went', tags', rest', last', hwalk', hplaces, hlast⟩
    obtain ⟨decoded, last'', hfollows, hthrough⟩ := hshadows.follows _ _ _ 0 went' (tags', rest')
      last' hsize trivial (alike_start lists extension?) hwalk' hplaces
    refine ⟨went', decoded, last'', hfollows, ?_⟩
    cases went' with
    | true => exact (hthrough rfl).2.symm ▸ hlast
    | false =>
      exact stopsWithin_unpackNrConfigRequest hstays _ _ 0 _ last'' hsize (Nat.zero_le _) hfollows

end Message

instance : Inhabited AllocatedLists where
  default :=
    { occasion := { unusedRootSequencesList := [{ value := 0 }] }
      slots := List.replicate 40 (List.replicate 14 { value := 0 })
      length_unused := rfl
      length_slots := rfl
      length_symbols := fun _ h ↦ (List.eq_of_mem_replicate h) ▸ rfl }

/-- Without a decoder of the vendor there is nothing to leave the message. -/
theorem vendorStays_none {V : Type} : VendorStays (none : Option (CodecConfig V)) := by
  intro unpack h
  cases h

/-- The downlink bandwidth, with its padding. -/
theorem nrConfigRequest_safe_dl_bandwidth :
    NrConfigSafe (none : Option (CodecConfig Unit)) default none
      [1, 0x10, 0x01, 0, 2, 0, 100, 0, 0] :=
  (nrConfigRequest_safe_iff vendorStays_none default none _).mpr
    ⟨true, [0x1001], none, 9, rfl, (@allHavePlace_concat [] (.scalar .carrierConfigDlBandwidth)).mpr
      ⟨allHavePlace_nil, trivial⟩, by decide⟩

/-- The root sequence index of an occasion and the number of its root sequences, as the packer writes
them: the second field is stored behind the end of the list. -/
theorem nrConfigRequest_root_sequences :
    ¬ NrConfigSafe (none : Option (CodecConfig Unit)) default none
      [2, 0x10, 0x15, 0, 2, 0, 7, 0, 0, 0x10, 0x16, 0, 1, 1, 0, 0, 0] := by
  rintro ⟨went, decoded, last, hrun, -⟩
  have hfault : unpackNrConfigRequest (none : Option (CodecConfig Unit)) 17
      (memoryOf [2, 0x10, 0x15, 0, 2, 0, 7, 0, 0, 0x10, 0x16, 0, 1, 1, 0, 0, 0])
      ((default : AllocatedLists).decoding, none) 0 = .error .fault := rfl
  have hboth := hfault.symm.trans hrun
  cases hboth

end MultiUeProxy.P5
