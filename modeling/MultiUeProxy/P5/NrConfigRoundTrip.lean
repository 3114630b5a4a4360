import MultiUeProxy.P5.NrConfigWalk

/-!
# What becomes of an NR configuration request

`pack_nr_config_request` counts its calls and not the fields that they write, so that the number is
right only if all fields are there. If they are, the decoder stores the number of root sequences of
the first occasion behind the end of its list; and if there are more occasions than one, it has no
memory for the second. So no request with an occasion comes over (`nrConfigRequest_never_intact`).
-/

set_option autoImplicit false
set_option relaxedAutoImplicit false

namespace MultiUeProxy.P5

open Lib.Execution Lib.ByteCursor Lib.ByteWriter Lib.Codec Lib.TlvCodec Lib.InPlace Lib.TaggedParts
  Lib.TlvRecord Lib.FieldWalk Message
open Lib.ByteCursor.Pull (Tl)

/-! ### The encoder -/

/-- A call of an encoder, which is counted: what it is called for, whether there is such a field, and
the bytes of its value. -/
structure NrConfigCall where
  tlv : NrConfigTlv
  pack : ℕ → Push Unit
  present : Bool
  value : List UInt8

/-- The bytes of the field with its padding. -/
def NrConfigCall.bytes (call : NrConfigCall) : List UInt8 :=
  fieldBytes call.tlv.tag call.value ++
    List.replicate (getTlvPadding call.value.length.toUInt16) 0

/-- `pack_nr_tlv`. -/
def packNrTlv (tlv : NrConfigTlv) (kind : ValueKind) (field : Tlv kind.Value) : NrConfigCall where
  tlv
  pack limit :=
    packPaddedTlv getTlvPadding limit tlv.tag field.tl (kind.codec.pack limit field.value)
  present := field.tl.tag == tlv.tag
  value := kind.codec.bytes field.value

/-- Five values in one field, which is there in any case: tag, length, values and padding are pushed
one by one. -/
def packFiveValues (tlv : NrConfigTlv) (array : Vector (Tlv UInt16) 5) : NrConfigCall where
  tlv
  pack limit := do
    (Push.push16 limit tlv.tag).attempt
    (Push.push16 limit 10).attempt
    Push.forEach (fun field ↦ (Push.push16 limit field.value).attempt) array.toList
    (Push.push16 limit 0).attempt
  present := true
  value := wordBytes16 (array.toList.map Tlv.value)

namespace NrConfigRequest

variable (request : NrConfigRequest)

def packScalar (name : NrConfigField) : NrConfigCall :=
  packNrTlv (.scalar name) name.kind (request.fields name)

/-- What is packed before the occasions. -/
def callsBefore : List NrConfigCall :=
  [request.packScalar .carrierConfigDlBandwidth, request.packScalar .carrierConfigDlFrequency,
    packFiveValues .dlK0 request.dlK0, packFiveValues .dlGridSize request.dlGridSize,
    request.packScalar .carrierConfigNumTxAnt, request.packScalar .carrierConfigUplinkBandwidth,
    request.packScalar .carrierConfigUplinkFrequency, packFiveValues .ulK0 request.ulK0,
    packFiveValues .ulGridSize request.ulGridSize, request.packScalar .carrierConfigNumRxAnt,
    request.packScalar .cellConfigPhyCellId, request.packScalar .cellConfigFrameDuplexType,
    request.packScalar .ssbConfigSsPbchPower, request.packScalar .ssbConfigBchPayload,
    request.packScalar .ssbConfigScsCommon, request.packScalar .prachConfigPrachSequenceLength,
    request.packScalar .prachConfigPrachSubCSpacing,
    request.packScalar .prachConfigRestrictedSetConfig,
    request.packScalar .prachConfigNumPrachFdOccasions,
    request.packScalar .prachConfigPrachConfigurationIndex]

/-- What is packed behind the occasions. -/
def callsBehind : List NrConfigCall :=
  [request.packScalar .prachConfigSsbPerRach, request.packScalar .ssbTableSsbOffsetPointA,
    request.packScalar .ssbTableSsbPeriod, request.packScalar .ssbTableSsbSubcarrierOffset] ++
  request.ssbMaskList.toList.map (packNrTlv .ssbMask .uint32) ++
  request.ssbBeamIdList.toList.map (packNrTlv .beamId .uint8) ++
  [request.packScalar .tddTableTddPeriod, request.packScalar .nfapiConfigP7VnfAddressIpv4,
    request.packScalar .nfapiConfigP7VnfAddressIpv6, request.packScalar .nfapiConfigP7VnfPort,
    request.packScalar .nfapiConfigTimingWindow, request.packScalar .nfapiConfigTimingInfoMode,
    request.packScalar .nfapiConfigTimingInfoPeriod]

/-- The number of occasions that the packer goes through. -/
def numPrachFdOccasions : ℕ := (request.fields .prachConfigNumPrachFdOccasions).value.toNat

end NrConfigRequest

/-- What is packed of an occasion. -/
def PrachFdOccasion.calls (occasion : PrachFdOccasion) : List NrConfigCall :=
  [packNrTlv .prachRootSequenceIndex .uint16 occasion.prachRootSequenceIndex,
    packNrTlv .numRootSequences .uint8 occasion.numRootSequences,
    packNrTlv .k1 .uint16 occasion.k1,
    packNrTlv .prachZeroCorrConf .uint8 occasion.prachZeroCorrConf,
    packNrTlv .numUnusedRootSequences .uint16 occasion.numUnusedRootSequences]

/-- All calls for the fields of a request. -/
def NrConfigRequest.calls (request : NrConfigRequest) : List NrConfigCall :=
  request.callsBefore ++
    (request.numPrachFdOccasionsList.take request.numPrachFdOccasions).flatMap
      PrachFdOccasion.calls ++ request.callsBehind

section Pack

variable {V : Type} [Tagged V]

/-- The vendor extension is packed, and counted, if there is one and a configuration. -/
def countsExtension (config : Option (CodecConfig V)) (extension? : Option V) : Bool :=
  extension?.isSome && config.isSome

/-- The calls one after the other. What they return is ignored. -/
def packCalls (limit : ℕ) (calls : List NrConfigCall) : Push Unit :=
  Push.forEach (fun call ↦ (call.pack limit).attempt) calls

/-- The occasions, as many as the request says. -/
def packOccasions (limit : ℕ) (request : NrConfigRequest) : Push Unit := do
  packCalls limit ((request.numPrachFdOccasionsList.take request.numPrachFdOccasions).flatMap
    PrachFdOccasion.calls)
  -- the next occasion is behind the end of the list
  if request.numPrachFdOccasionsList.length < request.numPrachFdOccasions then Push.crash .fault
  else pure ()

def packExtension (config : Option (CodecConfig V)) (limit : ℕ) (extension? : Option V) :
    Push Unit :=
  if countsExtension config extension? then
    (packVendorExtensionTlv config limit extension?).attempt
  else pure ()

/-- `pack_nr_config_request`. The byte for the number of fields is left out at first, without a look
at the end of the buffer. -/
def packNrConfigRequest (config : Option (CodecConfig V)) (limit : ℕ) (extension? : Option V)
    (request : NrConfigRequest) : Push Unit := do
  let start ← Push.position
  (fun out ↦ (.ok (), out ++ [0]) : Push Unit)
  packCalls limit request.callsBefore
  packOccasions limit request
  packCalls limit request.callsBehind
  packExtension config limit extension?
  Push.ensure (start + 1 ≤ limit)
  Push.patch start [(request.calls.length + (countsExtension config extension?).toNat).toUInt8]

end Pack

/-! ### What a round trip is -/

/-- The fields that a request has for the packer. -/
def NrConfigRequest.sentTlvs (request : NrConfigRequest) : List NrConfigCall :=
  request.calls.filter NrConfigCall.present

/-- Element by element, what is sent comes back in the place with the same index. -/
def SameElements {α : Type} (Same : α → α → Prop) (sent received : List α) : Prop :=
  ∀ (index : ℕ) element, sent[index]? = some element →
    ∃ element', received[index]? = some element' ∧ Same element element'

/-- The same occasion. -/
structure SameOccasion (sent received : PrachFdOccasion) : Prop where
  prachRootSequenceIndex : SameField NrConfigTlv.prachRootSequenceIndex.tag
    sent.prachRootSequenceIndex received.prachRootSequenceIndex
  numRootSequences : SameField NrConfigTlv.numRootSequences.tag sent.numRootSequences
    received.numRootSequences
  k1 : SameField NrConfigTlv.k1.tag sent.k1 received.k1
  prachZeroCorrConf : SameField NrConfigTlv.prachZeroCorrConf.tag sent.prachZeroCorrConf
    received.prachZeroCorrConf
  numUnusedRootSequences : SameField NrConfigTlv.numUnusedRootSequences.tag
    sent.numUnusedRootSequences received.numUnusedRootSequences
  unusedRootSequencesList : SameElements (SameField NrConfigTlv.unusedRootSequences.tag)
    sent.unusedRootSequencesList received.unusedRootSequencesList

/-- The same values in every field and in every list. -/
structure SameNrConfig (sent received : NrConfigRequest) : Prop where
  fields : ∀ name : NrConfigField, SameField name.tag (sent.fields name) (received.fields name)
  dlK0 : received.dlK0.map Tlv.value = sent.dlK0.map Tlv.value
  dlGridSize : received.dlGridSize.map Tlv.value = sent.dlGridSize.map Tlv.value
  ulK0 : received.ulK0.map Tlv.value = sent.ulK0.map Tlv.value
  ulGridSize : received.ulGridSize.map Tlv.value = sent.ulGridSize.map Tlv.value
  occasions : SameElements SameOccasion sent.numPrachFdOccasionsList
    received.numPrachFdOccasionsList
  ssbMasks : SameElements (SameField NrConfigTlv.ssbMask.tag) sent.ssbMaskList.toList
    received.ssbMaskList.toList
  ssbBeamIds : SameElements (SameField NrConfigTlv.beamId.tag) sent.ssbBeamIdList.toList
    received.ssbBeamIdList.toList
  slots : SameElements (SameElements (SameField NrConfigTlv.slotConfig.tag))
    sent.maxTddPeriodicityList received.maxTddPeriodicityList

section RoundTrip

variable {V : Type} {config : Option (CodecConfig V)} {extension? : Option V}
  {lists : AllocatedLists} {request : NrConfigRequest} {packed : List UInt8}

/-- A vendor extension is written if there is one and the configuration has an encoder for it. -/
def writesExtension (config : Option (CodecConfig V)) (extension? : Option V) : Bool :=
  extension?.isSome && (config.bind CodecConfig.packVendorExtensionTlv).isSome

/-- The bytes are the number of fields and then all fields that the request has, and the decoder
gets the request back from them. What a vendor extension looks like is left open. -/
def NrConfigIntact (config : Option (CodecConfig V)) (lists : AllocatedLists)
    (extension? : Option V) (request : NrConfigRequest) (packed : List UInt8) : Prop :=
  ∃ numTlv extensionBytes decoding extension?',
    packed = numTlv :: (request.sentTlvs.flatMap NrConfigCall.bytes ++ extensionBytes) ∧
    numTlv.toNat = request.sentTlvs.length + (writesExtension config extension?).toNat ∧
    unpackNrConfigRequest config packed.length (memoryOf packed) (lists.decoding, none) 0 =
      .ok (true, (decoding, extension?'), packed.length) ∧
    SameNrConfig request decoding.request

/-! ### Counting -/

/-- The first byte of what is packed is the number of the calls. -/
theorem packed_numTlv [Tagged V] {limit : ℕ} {out : List UInt8}
    (h : packNrConfigRequest config limit extension? request out = (.ok (), out ++ packed)) :
    packed = [] ∨ ∃ rest, packed =
      (request.calls.length + (countsExtension config extension?).toNat).toUInt8 :: rest := by
  unfold packNrConfigRequest at h
  generalize (request.calls.length + (countsExtension config extension?).toNat).toUInt8 = count
    at h ⊢
  have hposition : Push.position out = (.ok out.length, out) := rfl
  rw [Push.bind_of_ok hposition] at h
  obtain ⟨_, _, -, h⟩ := Push.bind_eq_ok.mp h
  obtain ⟨_, _, -, h⟩ := Push.bind_eq_ok.mp h
  obtain ⟨_, _, -, h⟩ := Push.bind_eq_ok.mp h
  obtain ⟨_, _, -, h⟩ := Push.bind_eq_ok.mp h
  obtain ⟨_, _, -, h⟩ := Push.bind_eq_ok.mp h
  obtain ⟨_, written, -, hpatch⟩ := Push.bind_eq_ok.mp h
  have hbytes : written.take out.length ++ [count] ++ written.drop (out.length + 1) =
      out ++ packed := (Prod.mk.inj hpatch).2
  by_cases hlength : out.length ≤ written.length
  · rw [List.append_assoc] at hbytes
    obtain ⟨-, hpacked⟩ := List.append_inj hbytes (List.length_take_of_le hlength)
    exact .inr ⟨_, hpacked.symm⟩
  · have hcount := congrArg List.length hbytes
    simp only [List.length_append, List.length_take, List.length_drop, List.length_singleton]
      at hcount
    exact .inl (List.eq_nil_of_length_eq_zero (by omega))

/-- With one occasion the number of fields is right only if all fields are there. -/
theorem all_present (hcalls : request.calls.length = 102)
    (hcount : ((request.calls.length + (countsExtension config extension?).toNat).toUInt8).toNat =
      request.sentTlvs.length + (writesExtension config extension?).toNat) :
    request.sentTlvs = request.calls := by
  have hsent : request.sentTlvs.length ≤ request.calls.length := List.length_filter_le _ _
  have hwrites : (writesExtension config extension?).toNat ≤
      (countsExtension config extension?).toNat := by
    unfold writesExtension countsExtension
    cases config with
    | none => exact Nat.le_refl _
    | some config =>
      rw [Option.isSome_some, Bool.and_true]
      cases extension?.isSome with
      | true => exact Bool.toNat_le _
      | false => exact Nat.le_refl _
  have hcounts := Bool.toNat_le (countsExtension config extension?)
  have hsmall : (request.calls.length + (countsExtension config extension?).toNat).toUInt8.toNat =
      request.calls.length + (countsExtension config extension?).toNat :=
    toNat_number8 (by omega)
  rw [hsmall] at hcount
  apply List.filter_eq_self.mpr
  apply List.length_filter_eq_length_iff.mp
  show request.sentTlvs.length = request.calls.length
  omega

/-! ### The fields that are there -/

theorem length_bytes_codec {kind : ValueKind}
    (hkind : kind ≠ .rfBands ∧ kind ≠ .nmmFrequencyBands) (value : kind.Value) :
    (kind.codec.bytes value).length = kind.size := by
  cases kind with
  | uint8 | uint16 | uint32 => rfl
  | ipv4Address | ipv6Address =>
    show (value.address ++ []).length = _
    rw [List.append_nil]
    exact value.length_address
  | rfBands => exact absurd rfl hkind.1
  | nmmFrequencyBands => exact absurd rfl hkind.2

theorem length_value_packNrTlv {tlv : NrConfigTlv} {kind : ValueKind} (field : Tlv kind.Value)
    (hkind : kind ≠ .rfBands ∧ kind ≠ .nmmFrequencyBands) (hsize : tlv.size = kind.size) :
    (packNrTlv tlv kind field).value.length = (packNrTlv tlv kind field).tlv.size := by
  show (kind.codec.bytes field.value).length = tlv.size
  rw [length_bytes_codec hkind, hsize]

theorem length_value_packFiveValues {tlv : NrConfigTlv} (array : Vector (Tlv UInt16) 5)
    (hsize : tlv.size = 10) :
    (packFiveValues tlv array).value.length = (packFiveValues tlv array).tlv.size := by
  show (wordBytes16 (array.toList.map Tlv.value)).length = tlv.size
  rw [length_wordBytes16, List.length_map, Vector.length_toList, hsize]

/-- Every value takes as many bytes as the decoder takes. -/
theorem length_value_calls {call : NrConfigCall} (hcall : call ∈ request.calls) :
    call.value.length = call.tlv.size := by
  have hscalar (name : NrConfigField) : (request.packScalar name).value.length =
      (request.packScalar name).tlv.size :=
    length_value_packNrTlv _ name.kind_ne rfl
  have hbefore : ∀ call ∈ request.callsBefore, call.value.length = call.tlv.size := by
    simp only [NrConfigRequest.callsBefore, List.forall_mem_cons, hscalar, true_and]
    exact ⟨length_value_packFiveValues _ rfl, length_value_packFiveValues _ rfl,
      length_value_packFiveValues _ rfl, length_value_packFiveValues _ rfl, by simp⟩
  have hoccasion : ∀ occasion : PrachFdOccasion, ∀ call ∈ occasion.calls,
      call.value.length = call.tlv.size := by
    intro occasion
    simp only [PrachFdOccasion.calls, List.forall_mem_cons]
    refine ⟨?_, ?_, ?_, ?_, ?_, by simp⟩
    all_goals exact length_value_packNrTlv _ (by decide) rfl
  have hbehind : ∀ call ∈ request.callsBehind, call.value.length = call.tlv.size := by
    simp only [NrConfigRequest.callsBehind, List.forall_mem_append, List.forall_mem_cons,
      List.forall_mem_map, hscalar, true_and]
    refine ⟨⟨⟨by simp, ?_⟩, ?_⟩, by simp⟩
    · intro field _
      exact length_value_packNrTlv _ (by decide) rfl
    · intro field _
      exact length_value_packNrTlv _ (by decide) rfl
  unfold NrConfigRequest.calls at hcall
  rcases List.mem_append.mp hcall with hfront | hlast
  · rcases List.mem_append.mp hfront with hfirst | hmiddle
    · exact hbefore call hfirst
    · obtain ⟨occasion, -, hmem⟩ := List.mem_flatMap.mp hmiddle
      exact hoccasion occasion call hmem
  · exact hbehind call hlast

/-- The walk finds its entry for each field. -/
theorem find_table (tlv : NrConfigTlv) :
    (NrConfigTlv.table.find? fun other ↦ other.tag == tlv.tag) = some tlv := by
  cases hfind : NrConfigTlv.table.find? fun other ↦ other.tag == tlv.tag with
  | some other =>
    have hother := @List.find?_some _ (fun other : NrConfigTlv ↦ other.tag == tlv.tag) _ _ hfind
    rw [NrConfigTlv.tag_inj (beq_iff_eq.mp hother)]
  | none =>
    have hnot := List.find?_eq_none.mp hfind tlv tlv.mem_table
    exact absurd (beq_self_eq_true _) hnot

/-- The entry of the walk for a field. -/
def walkEntryOf (V : Type) (tlv : NrConfigTlv) : Entry (List UInt16 × Option V) :=
  ⟨tlv.tag, fun tl limit ↦ (Fill.component Prod.fst (fun value part ↦ (part, value.2))
    ((walkEntry tlv.tag tlv.size).fill tl limit)).andThen (.advance (getTlvPadding tl.length))⟩

theorem find_walkEntry (tlv : NrConfigTlv) :
    (((NrConfigTlv.table.map (walkEntryOf V)).map Entry.field).find? fun field ↦
      field.tag == tlv.tag) = some (walkEntryOf V tlv).field := by
  rw [List.find?_map, List.find?_map]
  exact congrArg (fun found ↦ (found.map (walkEntryOf V)).map Entry.field) (find_table tlv)

/-- The walk over the bytes of one field. -/
theorem readsFields_call {call : NrConfigCall} (hvalue : call.value.length = call.tlv.size)
    (tags : List UInt16) (extension? : Option V) :
    ReadsFields ((NrConfigTlv.table.map (walkEntryOf V)).map Entry.field) (tags, extension?)
      call.bytes (tags ++ [call.tlv.tag], extension?) := by
  unfold NrConfigCall.bytes fieldBytes
  rw [List.append_assoc, List.append_assoc]
  apply readsFields_field (find_walkEntry call.tlv)
  intro limit
  have hwalk : Fills limit (Fill.component Prod.fst (fun value part ↦ (part, value.2))
      ((walkEntry call.tlv.tag call.tlv.size).fill
        ⟨call.tlv.tag, call.value.length.toUInt16⟩ limit)) (tags, extension?) call.value
      (tags ++ [call.tlv.tag], extension?) :=
    (fills_walkEntry hvalue tags).component
  have hpadding : Fills limit (.advance (getTlvPadding call.value.length.toUInt16))
      (tags ++ [call.tlv.tag], extension?)
      (List.replicate (getTlvPadding call.value.length.toUInt16) 0)
      (tags ++ [call.tlv.tag], extension?) := by
    intro mem pos _ _
    rw [List.length_replicate]
    rfl
  exact reads_toPull (hwalk.andThen hpadding)

/-- The walk over the bytes of fields one behind the other. -/
theorem readsFields_calls {calls : List NrConfigCall}
    (hvalues : ∀ call ∈ calls, call.value.length = call.tlv.size) (tags : List UInt16)
    (extension? : Option V) :
    ReadsFields ((NrConfigTlv.table.map (walkEntryOf V)).map Entry.field) (tags, extension?)
      (calls.flatMap NrConfigCall.bytes)
      (tags ++ calls.map fun call ↦ call.tlv.tag, extension?) := by
  induction calls generalizing tags with
  | nil =>
    rw [List.map_nil, List.append_nil]
    exact ReadsFields.refl
  | cons call calls ih =>
    have hfirst := @readsFields_call V call (hvalues call List.mem_cons_self) tags extension?
    have hrest := ih (fun other hother ↦ hvalues other (List.mem_cons_of_mem _ hother))
      (tags ++ [call.tlv.tag])
    rw [List.append_assoc] at hrest
    exact hfirst.trans hrest

/-- Fields with a root sequence index and a field of an occasion behind it. -/
theorem not_allHavePlace (front : List UInt16) :
    ¬ AllHavePlace (front ++ [NrConfigTlv.prachRootSequenceIndex.tag] ++
      [NrConfigTlv.numRootSequences.tag]) := by
  intro h
  have hplace := (allHavePlace_concat.mp h).2
  exact hplace (List.mem_append_right _ List.mem_cons_self)

/-! ### No round trip -/

/-- A message that the decoder accepts was gone over by the walk, with a place for each field. -/
theorem walk_of_accepted (hstays : VendorStays config) {bytes : List UInt8}
    {decoded : NrConfigDecoding × Option V} {last : ℕ}
    (h : unpackNrConfigRequest config bytes.length (memoryOf bytes) (lists.decoding, none) 0 =
      .ok (true, decoded, last)) :
    ∃ tags rest, nrConfigWalk config bytes.length (memoryOf bytes) ([], none) 0 =
      .ok (true, (tags, rest), last) ∧ AllHavePlace tags ∧ decoded.1.request.Allocated := by
  have hsize : bytes.length ≤ (memoryOf bytes).size := Nat.le_refl _
  obtain ⟨went, ⟨tags, rest⟩, last', hwalk, -⟩ :=
    advances_nrConfigWalk hstays (memoryOf bytes) ([], none) 0 hsize
  have hshadows := @shadows_nrConfig V bytes.length config
  have hplaces : AllHavePlace tags := by
    apply Classical.byContradiction
    intro hbad
    have hfault := hshadows.faults _ _ _ 0 went (tags, rest) last' hsize trivial
      (alike_start lists none) hwalk allHavePlace_nil hbad
    rw [h] at hfault
    cases hfault
  obtain ⟨decoded', last'', hfollows, hthrough⟩ := hshadows.follows _ _ _ 0 went (tags, rest)
    last' hsize trivial (alike_start lists none) hwalk hplaces
  rw [h] at hfollows
  cases hfollows
  obtain ⟨halike, rfl⟩ := hthrough rfl
  exact ⟨tags, rest, hwalk, hplaces, halike.1.1⟩

/-- A message with these fields in front is not accepted. -/
theorem not_accepted (hstays : VendorStays config) {numTlv : UInt8} {front : List NrConfigCall}
    {tags : List UInt16} {rest : List UInt8}
    (hvalues : ∀ call ∈ front, call.value.length = call.tlv.size)
    (htags : (front.map fun call ↦ call.tlv.tag) = tags ++
      [NrConfigTlv.prachRootSequenceIndex.tag] ++ [NrConfigTlv.numRootSequences.tag])
    {bytes : List UInt8} (hbytes : bytes = numTlv :: (front.flatMap NrConfigCall.bytes ++ rest))
    {decoded : NrConfigDecoding × Option V} {last : ℕ} :
    unpackNrConfigRequest config bytes.length (memoryOf bytes) (lists.decoding, none) 0 ≠
      .ok (true, decoded, last) := by
  intro h
  obtain ⟨found, extension?', hwalk, hplaces, -⟩ := walk_of_accepted hstays h
  have hlength : bytes.length = 1 + (front.flatMap NrConfigCall.bytes).length + rest.length := by
    rw [hbytes, List.length_cons, List.length_append]
    omega
  have hnumTlv : Fill.attempt (.skip bytes.length 1) (memoryOf bytes)
      (([], none) : List UInt16 × Option V) 0 = .ok (true, ([], none), 1) := by
    unfold Fill.attempt Fill.skip
    rw [if_pos (by omega)]
  have hlist : fillTlvLoop (unknownTlv getTlvPadding config bytes.length)
      (nrConfigPairs.map fun pair ↦ ⟨pair.tag, pair.left⟩) bytes.length (bytes.length - 1 + 1) 0
      (memoryOf bytes) ([], none) 1 = .ok (true, (found, extension?'), last) := by
    unfold nrConfigWalk Fill.andThen at hwalk
    rw [hnumTlv] at hwalk
    unfold unpackNrTlvList at hwalk
    rw [entries_nrConfigWalk] at hwalk
    exact hwalk
  have hholds : Holds (memoryOf bytes) 1 (front.flatMap NrConfigCall.bytes) := by
    rw [hbytes]
    exact holds_memoryOf [numTlv] _ rest
  have hentries : (nrConfigPairs.map fun pair ↦ ⟨pair.tag, pair.left⟩) =
      NrConfigTlv.table.map (walkEntryOf V) := by
    unfold nrConfigPairs
    rw [List.map_map]
    rfl
  rw [hentries] at hlist
  obtain ⟨bound, -, hrun⟩ := readsFields_calls hvalues [] none bytes.length bytes.length _
    (fieldLoop_toPull (unknownTlv getTlvPadding config bytes.length) _ bytes.length 0)
    (memoryOf bytes) 1 (bytes.length - 1 + 1) hholds (by omega) (by omega) (by omega)
  rw [toPull_eq_ok.mpr hlist] at hrun
  have hrest := toPull_eq_ok.mp hrun.symm
  rw [← hentries] at hrest
  have hgood := (shadows_nrConfigLoop bound 0).recalls _ _ _ _ _ _ hrest hplaces
  rw [List.nil_append, htags] at hgood
  exact not_allHavePlace tags hgood

/-- The calls for a request with one occasion. -/
theorem calls_of_one {occasion : PrachFdOccasion}
    (hlist : request.numPrachFdOccasionsList = [occasion])
    (hone : request.numPrachFdOccasions = 1) :
    request.calls = request.callsBefore ++ occasion.calls ++ request.callsBehind := by
  unfold NrConfigRequest.calls
  rw [hlist, hone, List.take_succ_cons, List.take_zero, List.flatMap_singleton]

theorem length_calls_of_one {occasion : PrachFdOccasion}
    (hlist : request.numPrachFdOccasionsList = [occasion])
    (hone : request.numPrachFdOccasions = 1) : request.calls.length = 102 := by
  rw [calls_of_one hlist hone]
  simp only [NrConfigRequest.callsBefore, NrConfigRequest.callsBehind, PrachFdOccasion.calls,
    List.length_append, List.length_cons, List.length_map, List.length_nil, Vector.length_toList]

/-- With one occasion, a message that has all fields is not accepted. -/
theorem one_occasion_not_accepted (hstays : VendorStays config) {occasion : PrachFdOccasion}
    (hlist : request.numPrachFdOccasionsList = [occasion])
    (hone : request.numPrachFdOccasions = 1) {numTlv : UInt8} {extensionBytes : List UInt8}
    (hpacked : packed = numTlv :: (request.calls.flatMap NrConfigCall.bytes ++ extensionBytes))
    {decoded : NrConfigDecoding × Option V} {last : ℕ} :
    unpackNrConfigRequest config packed.length (memoryOf packed) (lists.decoding, none) 0 ≠
      .ok (true, decoded, last) := by
  have hcalls := calls_of_one hlist hone
  have hsplit : request.calls = (request.callsBefore ++ occasion.calls.take 2) ++
      (occasion.calls.drop 2 ++ request.callsBehind) := by
    rw [hcalls, List.append_assoc, List.append_assoc, ← List.append_assoc (occasion.calls.take 2),
      List.take_append_drop]
  have hvalues : ∀ call ∈ request.callsBefore ++ occasion.calls.take 2,
      call.value.length = call.tlv.size := by
    intro call hcall
    apply @length_value_calls request
    rw [hsplit]
    exact List.mem_append_left _ hcall
  have htags : ((request.callsBefore ++ occasion.calls.take 2).map fun call ↦ call.tlv.tag) =
      (request.callsBefore.map fun call ↦ call.tlv.tag) ++
        [NrConfigTlv.prachRootSequenceIndex.tag] ++ [NrConfigTlv.numRootSequences.tag] := by
    rw [List.map_append, List.append_assoc]
    rfl
  rw [hsplit, List.flatMap_append, List.append_assoc] at hpacked
  exact not_accepted hstays hvalues htags hpacked

/-- With more occasions than one, what is accepted does not have the second. -/
theorem more_occasions_not_same (hstays : VendorStays config)
    (htwo : 2 ≤ request.numPrachFdOccasionsList.length) {bytes : List UInt8}
    {decoded : NrConfigDecoding × Option V} {last : ℕ}
    (h : unpackNrConfigRequest config bytes.length (memoryOf bytes) (lists.decoding, none) 0 =
      .ok (true, decoded, last)) : ¬ SameNrConfig request decoded.1.request := by
  intro hsame
  obtain ⟨_, _, -, -, hallocated⟩ := walk_of_accepted hstays h
  obtain ⟨occasion, hreceived, -⟩ :=
    hsame.occasions 1 _ (List.getElem?_eq_getElem htwo)
  have hnone : decoded.1.request.numPrachFdOccasionsList[1]? = none :=
    List.getElem?_eq_none (Nat.le_of_eq hallocated.occasions)
  rw [hnone] at hreceived
  cases hreceived

/-- No request with an occasion comes over, whatever fields it has. -/
theorem nrConfigRequest_never_intact [Tagged V] (hstays : VendorStays config)
    (lists : AllocatedLists) (extension? : Option V) (request : NrConfigRequest)
    (hlist : request.numPrachFdOccasionsList.length = request.numPrachFdOccasions)
    (hone : 1 ≤ request.numPrachFdOccasions) {limit : ℕ} {out packed : List UInt8}
    (hpacked : packNrConfigRequest config limit extension? request out = (.ok (), out ++ packed)) :
    ¬ NrConfigIntact config lists extension? request packed := by
  rintro ⟨numTlv, extensionBytes, decoding, extension?', hbytes, hcount, haccepted, hsame⟩
  by_cases htwo : 2 ≤ request.numPrachFdOccasions
  · exact more_occasions_not_same hstays (hlist ▸ htwo) haccepted hsame
  · have hnumber : request.numPrachFdOccasions = 1 := by omega
    rw [hnumber] at hlist
    obtain ⟨occasion, hoccasion⟩ := List.length_eq_one_iff.mp hlist
    have hlength := length_calls_of_one hoccasion hnumber
    rcases packed_numTlv hpacked with hnil | ⟨rest, hcons⟩
    · rw [hnil] at hbytes
      cases hbytes
    · rw [hbytes] at hcons
      obtain ⟨hnumTlv, -⟩ := List.cons.inj hcons
      rw [hnumTlv] at hcount
      rw [all_present hlength hcount] at hbytes
      exact one_occasion_not_accepted hstays hoccasion hnumber hbytes haccepted

end RoundTrip

/-- A request with one occasion, of which nothing is there but the number of occasions. -/
def oneOccasion : NrConfigRequest where
  fields := Function.update blank .prachConfigNumPrachFdOccasions ⟨⟨0x1014, 0⟩, (1 : UInt8)⟩
  numPrachFdOccasionsList := [{}]

instance : Tagged Unit := ⟨fun _ ↦ {}, fun _ _ ↦ (), ()⟩

theorem nrConfigRequest_packed_not_intact :
    ∃ packed, packNrConfigRequest (none : Option (CodecConfig Unit)) 128 none oneOccasion [] =
      (.ok (), [] ++ packed) ∧
      ¬ NrConfigIntact (none : Option (CodecConfig Unit)) default none oneOccasion packed := by
  refine ⟨_, rfl, ?_⟩
  exact @nrConfigRequest_never_intact Unit none _ vendorStays_none default none oneOccasion rfl
    (by decide) 128 [] _ rfl

/-- Five fields are written: the number of occasions, and those of five values. The first byte says
that there are 102. -/
theorem nrConfigRequest_one_occasion :
    ∃ packed, packNrConfigRequest (none : Option (CodecConfig Unit)) 128 none oneOccasion [] =
      (.ok (), packed) ∧
      ¬ NrConfigIntact (none : Option (CodecConfig Unit)) default none oneOccasion packed := by
  refine ⟨_, rfl, ?_⟩
  rintro ⟨numTlv, extensionBytes, decoding, extension?, hbytes, hcount, -⟩
  have hnumTlv : numTlv = 102 := (List.cons.inj hbytes).1.symm
  have hfields : oneOccasion.sentTlvs.length = 5 := rfl
  rw [hnumTlv, hfields] at hcount
  cases hcount

end MultiUeProxy.P5
