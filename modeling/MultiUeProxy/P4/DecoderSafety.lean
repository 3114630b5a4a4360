import MultiUeProxy.P4.FieldBounds
import MultiUeProxy.P5.NrConfigWalk

/-!
# Which bytes the decoder of P4 messages survives

The decoder of a message is safe if it writes nothing outside of an array, and all counts of a
message that it accepts are in bounds (`P4Safe`). It is safe for all messages but one: a system
information request in which the decoder comes to an NB-IoT periodicity that announces more than
eight SI indexes, and has nine. A walk over the fields of the request, which adds up the bytes that
they take, finds it (`overrunsSiIndex`, `p4Message_safe_iff`).
-/

set_option autoImplicit false
set_option relaxedAutoImplicit false

namespace MultiUeProxy.P4

open Lib.Execution Lib.ByteCursor Lib.ByteWriter Lib.TlvCodec Lib.InPlace Lib.TaggedParts
  Lib.TlvRecord Lib.TlvChoice Lib.FieldWalk Lib.FillLogic P5 P5.Message
open Lib.ByteCursor.Pull (Tl)

/-! ### Lists of fields -/

section Lists

variable {σ V : Type} {mem : Memory} {limit : ℕ} {Inv : σ → Prop} {config : Option (CodecConfig V)}

theorem keepsBelow_badTag {rest : ℕ → Fill σ} {badTags bound : ℕ} {length : UInt16}
    (hrest : ∀ badTags, KeepsBelow mem limit Inv bound (rest badTags)) :
    KeepsBelow mem limit Inv bound (badTag (fun _ ↦ 0) limit rest badTags length) := by
  have hskip : Keeps mem limit Inv (skipUnknown (fun _ ↦ 0) limit length) := by
    rintro value pos hpos ⟨hvalue, -⟩
    unfold skipUnknown Fill.andThen Fill.skip
    by_cases hroom : pos + length.toNat ≤ limit
    · rw [if_pos hroom]
      exact .goes value _ (Nat.le_add_right _ _) hroom ⟨hvalue, trivial⟩
    · rw [if_neg hroom]
      exact .stop value pos trivial
  unfold badTag
  split_ifs
  · exact runs_leave fun _ _ _ ↦ trivial
  · exact keepsBelow_andThen hskip (hrest _)

theorem keepsBelow_afterVendor {rest : ℕ → Fill σ} {badTags bound : ℕ} {length : UInt16}
    (result : VendorResult) (hrest : ∀ badTags, KeepsBelow mem limit Inv bound (rest badTags)) :
    KeepsBelow mem limit Inv bound
      (afterVendor (fun _ ↦ 0) limit rest badTags length result) := by
  cases result with
  | failed => exact runs_leave fun _ _ _ ↦ trivial
  | decoded => exact hrest badTags
  | unknown => exact keepsBelow_badTag hrest

theorem unknownKeeps_unknownTlv (hsize : limit ≤ mem.size) (hstays : VendorStays config) :
    UnknownKeeps mem limit (fun pair : σ × Option V ↦ Inv pair.1)
      (unknownTlv (fun _ ↦ 0) config limit) := by
  intro rest badTags tl bound hrest
  by_cases htag : P7.Header.vendorExtensionMinTagValue ≤ tl.tag
  · cases hconfig : config.bind CodecConfig.unpackVendorExtensionTlv with
    | none =>
      rw [unknownTlv_of_none htag hconfig]
      exact hrest badTags
    | some unpack =>
      rintro value pos hpos ⟨hvalue, hbound⟩
      obtain ⟨result, extension?, next, hrun, hfront, hnext⟩ :=
        hstays unpack hconfig tl limit mem value.2 pos hsize hpos
      have hless : limit - next < bound := by omega
      rw [unknownTlv_of_some htag hconfig, hrun]
      exact (keepsBelow_afterVendor result hrest (value.1, extension?) next hnext
        ⟨hvalue, hless⟩).earlier hfront
  · rw [unknownTlv_of_bad htag]
    exact keepsBelow_badTag hrest

/-- Decoders of fields that keep an invariant make a list decoder that does. -/
theorem keeps_unpackTlvList {entries : List (Entry σ)} (hsize : limit ≤ mem.size)
    (hstays : VendorStays config)
    (hentries : ∀ entry ∈ entries, ∀ tl, Keeps mem limit Inv (entry.fill tl limit)) :
    Keeps mem limit (fun pair : σ × Option V ↦ Inv pair.1)
      (unpackTlvList config entries limit) := by
  apply keeps_fillTlvList hsize _ (unknownKeeps_unknownTlv hsize hstays)
  intro entry hentry tl
  obtain ⟨inner, hinner, rfl⟩ := List.mem_map.mp hentry
  exact (hentries inner hinner tl).component (fun _ h ↦ h) fun _ _ _ h ↦ h

/-- Two list decoders over fields that go along with each other, with the same extension. -/
theorem shadows_unpackTlvList {τ : Type} {Good : σ → Prop} {R : σ → τ → Prop}
    {pairs : List (EntryPair σ τ)}
    (hpairs : ∀ pair ∈ pairs, ∀ tl,
      Shadows Good R limit (· ≤ limit) (pair.left tl limit) (pair.right tl limit)) :
    Shadows (fun value : σ × Option V ↦ Good value.1)
      (fun value shadow ↦ R value.1 shadow.1 ∧ value.2 = shadow.2) limit anywhere
      (unpackTlvList config (pairs.map fun pair ↦ ⟨pair.tag, pair.left⟩) limit)
      (unpackTlvList config (pairs.map fun pair ↦ ⟨pair.tag, pair.right⟩) limit) := by
  have hloop (bound : ℕ) := @shadows_fillTlvLoop (σ × Option V) (τ × Option V)
    (fun value ↦ Good value.1) (fun value shadow ↦ R value.1 shadow.1 ∧ value.2 = shadow.2) limit
    (pairs.map fun pair ↦
      { tag := pair.tag
        left := fun tl limit ↦
          .component Prod.fst (fun value part ↦ (part, value.2)) (pair.left tl limit)
        right := fun tl limit ↦
          .component Prod.fst (fun value part ↦ (part, value.2)) (pair.right tl limit) })
    (unknownTlv (fun _ ↦ 0) config limit) (unknownTlv (fun _ ↦ 0) config limit)
    (by
      intro pair hpair tl
      obtain ⟨inner, hinner, rfl⟩ := List.mem_map.mp hpair
      exact shadows_fst (hpairs inner hinner tl))
    (fun rest rest' badTags tl hrest ↦ (shadows_unknownTlv hrest).narrow) bound 0
  rw [List.map_map, List.map_map] at hloop
  unfold unpackTlvList withExtension
  rw [List.map_map, List.map_map]
  exact shadows_fillTlvList hloop

end Lists

/-! ### The walk over a system information request -/

/-- The fields of a system information request, with the bytes that the decoder takes for them. -/
def systemInformationSpans : List (Entry Bool) :=
  [Span.entry P4Field.lteSystemInformationRequest.tag fun _ limit mem ↦
      .counted mem limit 8 maxSiPeriodicity (.bytes limit 2) 5,
    Span.entry P4Field.utranSystemInformationRequest.tag fun _ limit _ ↦ .bytes limit 8,
    Span.entry P4Field.geranSystemInformationRequest.tag fun _ limit _ ↦ .bytes limit 7,
    Span.entry P4Field.nbIotSystemInformationRequest.tag fun _ limit mem ↦
      .counted mem limit 5 maxSiPeriodicity (siPeriodicitySpan mem limit) 5,
    Span.entry P4Field.pnfCellBroadcastState.tag fun tl limit _ ↦ opaqueSpan tl limit]

/-- Goes over the fields of a system information request, and notes whether an SI index would have
been stored outside of its array. -/
def systemInformationWalk {V : Type} (config : Option (CodecConfig V)) (limit : ℕ) :
    Fill (Bool × Option V) :=
  unpackTlvList config systemInformationSpans limit

section Walk

variable {V : Type} {limit : ℕ} {config : Option (CodecConfig V)}

/-- The walk always ends. -/
theorem advances_systemInformationWalk (hstays : VendorStays config) :
    Advances limit (systemInformationWalk config limit) := by
  have hspans : ∀ entry ∈ systemInformationSpans, ∀ tl, Advances limit (entry.fill tl limit) := by
    intro entry hentry tl
    unfold systemInformationSpans at hentry
    simp only [List.mem_cons, List.not_mem_nil, or_false] at hentry
    rcases hentry with rfl | rfl | rfl | rfl | rfl
    · exact Span.advances_entry fun _ ↦ Span.forward_counted (Span.forward_bytes limit 2)
    · exact Span.advances_entry fun _ ↦ Span.forward_bytes limit 8
    · exact Span.advances_entry fun _ ↦ Span.forward_bytes limit 7
    · exact Span.advances_entry fun mem ↦ Span.forward_counted (forward_siPeriodicitySpan mem limit)
    · exact Span.advances_entry fun _ ↦ forward_opaqueSpan tl limit
  intro mem value pos hsize
  apply advances_fillTlvLoop _ (unknownAdvances_unknownTlv hstays) hsize _ 0 pos
    (Nat.lt_succ_self _) value
  intro entry hentry tl
  obtain ⟨inner, hinner, rfl⟩ := List.mem_map.mp hentry
  exact advances_component (hspans inner hinner tl)

/-- The fields behind the RAT type of a request have their counts in bounds. -/
def FieldsBounded {format : RequestFormat}
    (fields : P4Union format.members × P4Fields format.others) : Prop :=
  P4Union.Bounded fields.1 ∧ P4Fields.Bounded fields.2

/-- The entries of the walk and those of the decoder. -/
def systemInformationPairs : List (EntryPair Bool
    (P4Union RequestFormat.systemInformationRequest.members ×
      P4Fields RequestFormat.systemInformationRequest.others)) :=
  (systemInformationSpans.zip (RequestFormat.systemInformationRequest.table.map TlvPart.entry)).map
    fun entries ↦ ⟨entries.1.tag, entries.1.fill, entries.2.fill⟩

theorem systemInformationPairs_left :
    systemInformationPairs.map (fun pair ↦ (⟨pair.tag, pair.left⟩ : Entry Bool)) =
      systemInformationSpans := rfl

theorem systemInformationPairs_right :
    systemInformationPairs.map (fun pair ↦ (⟨pair.tag, pair.right⟩ : Entry _)) =
      RequestFormat.systemInformationRequest.table.map TlvPart.entry := rfl

/-- A decoder of a member of the union, as one of all fields. -/
theorem moves_member {format : RequestFormat} {mem : Memory} {stops faults : Prop}
    {here there : ℕ → Prop} {name : { name // name ∈ format.members }} {tl : Tl}
    (h : Moves mem limit stops faults (fun field : Tlv name.1.Value ↦ name.1.Bounded field.value)
      (name.1.codec.unpack tl limit) here there) :
    Moves mem limit stops faults FieldsBounded
      (.component Prod.fst (fun pair first ↦ (first, pair.2) :
          P4Union format.members × P4Fields format.others → _ → _)
        ((memberPart (fieldCodec format.members) name).fill tl limit)) here there :=
  (moves_memberPart h).component (fun _ h ↦ h.1) fun _ _ hfields h ↦ ⟨h, hfields.2⟩

/-- One of a field behind it. -/
theorem moves_other {format : RequestFormat} {mem : Memory} {stops faults : Prop}
    {here there : ℕ → Prop} {name : { name // name ∈ format.others }} {tl : Tl}
    (h : Moves mem limit stops faults (fun field : Tlv name.1.Value ↦ name.1.Bounded field.value)
      (name.1.codec.unpack tl limit) here there) :
    Moves mem limit stops faults FieldsBounded
      (.component Prod.snd (fun pair second ↦ (pair.1, second) :
          P4Union format.members × P4Fields format.others → _ → _)
        ((slot (fieldCodec format.others) name).fill tl limit)) here there :=
  (moves_slot h).component (fun _ h ↦ h.2) fun _ _ hfields h ↦ ⟨hfields.1, h⟩

/-- A value whose bytes say what the decoder does. -/
theorem spans_value {α : Type} {Good : α → Prop} {mem : Memory} {span : ℕ → Span} {x : Fill α}
    (h : Spans mem limit Good span x) :
    Spans mem limit (fun field : Tlv α ↦ Good field.value) span
      (.component Tlv.value (fun field value ↦ { field with value }) x) :=
  h.component (fun _ h ↦ h) fun _ _ _ h ↦ h

/-- Each decoder goes along with the entry of the walk. -/
theorem shadows_systemInformationPairs :
    ∀ pair ∈ systemInformationPairs, ∀ tl, Shadows (fun overran ↦ overran = false)
      (fun _ fields ↦ FieldsBounded fields) limit (· ≤ limit) (pair.left tl limit)
      (pair.right tl limit) := by
  intro pair hpair tl
  change pair ∈ [_, _, _, _, _] at hpair
  simp only [List.mem_cons, List.not_mem_nil, or_false] at hpair
  rcases hpair with rfl | rfl | rfl | rfl | rfl <;> dsimp only
  · apply shadows_span
    intro mem hsize result
    exact @moves_member limit .systemInformationRequest mem _ _ _ _
      ⟨.lteSystemInformationRequest, by decide⟩ tl (spans_value (spans_lteSystemInformationRequest hsize) result)
  · apply shadows_span
    intro mem hsize result
    exact @moves_member limit .systemInformationRequest mem _ _ _ _
      ⟨.utranSystemInformationRequest, by decide⟩ tl (spans_value (spans_cellRequest hsize) result)
  · apply shadows_span
    intro mem hsize result
    exact @moves_member limit .systemInformationRequest mem _ _ _ _
      ⟨.geranSystemInformationRequest, by decide⟩ tl (spans_value (spans_geranSystemInformationRequest hsize) result)
  · apply shadows_span
    intro mem hsize result
    exact @moves_member limit .systemInformationRequest mem _ _ _ _
      ⟨.nbIotSystemInformationRequest, by decide⟩ tl (spans_value (spans_nbIotSystemInformationRequest hsize) result)
  · apply shadows_span
    intro mem hsize result
    exact @moves_other limit .systemInformationRequest mem _ _ _ _
      ⟨.pnfCellBroadcastState, by decide⟩ tl (spans_value (spans_unpackOpaqueDataValue hsize tl) result)

/-- The list decoder of a system information request goes along with the walk. -/
theorem shadows_systemInformation :
    Shadows (fun value : Bool × Option V ↦ value.1 = false)
      (fun value shadow ↦ FieldsBounded shadow.1 ∧ value.2 = shadow.2) limit anywhere
      (systemInformationWalk config limit)
      (unpackTlvList config (RequestFormat.systemInformationRequest.table.map TlvPart.entry)
        limit) := by
  have hlist := @shadows_unpackTlvList Bool V limit config _ _ _ _
    (@shadows_systemInformationPairs limit)
  rw [systemInformationPairs_left, systemInformationPairs_right] at hlist
  exact hlist

end Walk

/-! ### Messages -/

section Bounded

variable {V : Type}

/-- Every count in the body of a message is at most the declared length of its list. -/
def MessageFormat.Bounded : (format : MessageFormat) → format.Body V → Prop
  | request _, body => FieldsBounded (P4Request.body body, P4Request.others body)
  | report _, body => P4Fields.Bounded (P4Report.fields body)
  | nmmStopRequest, _ => True

def P4Message.Bounded (message : P4Message V) : Prop := message.kind.format.Bounded message.body

/-- The fields that a decoder has entries for. -/
def MessageFormat.names : MessageFormat → List P4Field
  | request format => format.members ++ format.others
  | report format => format.table
  | nmmStopRequest => []

end Bounded

/-- Something good is pulled, or the decoder stops. -/
def Delivers {α : Type} (p : Pull α) (mem : Memory) (pos : ℕ) (Good : α → Prop) : Prop :=
  (∃ a last, p mem pos = .ok (a, last) ∧ Good a) ∨ p mem pos = .error .reject

section Delivers

variable {σ α β V : Type} {mem : Memory} {limit pos : ℕ} {Good : α → Prop} {p : Pull α}

theorem Delivers.bind {f : α → Pull β} {Good' : β → Prop} (hp : Delivers p mem pos Good)
    (h : ∀ a last, p mem pos = .ok (a, last) → Good a → Delivers (f a) mem last Good') :
    Delivers (p >>= f) mem pos Good' := by
  rcases hp with ⟨a, last, hpull, hgood⟩ | hreject
  · have hrest := h a last hpull hgood
    unfold Delivers at hrest ⊢
    rwa [Pull.bind_of_ok hpull]
  · exact .inr (Pull.bind_of_error hreject)

theorem delivers_pure {a : α} (h : Good a) : Delivers (pure a) mem pos Good := .inl ⟨a, pos, rfl, h⟩

theorem delivers_ensure (P : Prop) [Decidable P] :
    Delivers (Pull.ensure P) mem pos fun _ ↦ True := by
  by_cases h : P
  · rw [Pull.ensure_of_true h]
    exact delivers_pure trivial
  · rw [Pull.ensure_of_false h]
    exact .inr rfl

theorem delivers_pull32 (hsize : limit ≤ mem.size) :
    Delivers (Pull.pull32 limit) mem pos fun _ ↦ True := by
  by_cases hroom : pos + 4 ≤ limit
  · obtain ⟨a, hpull⟩ := Pull.pull32_of_room hroom (Nat.le_trans hroom hsize)
    exact .inl ⟨a, _, hpull, trivial⟩
  · exact .inr (Pull.bind_of_error (room_eq_error hroom))

theorem delivers_toPull {Inv : σ → Prop} {x : Fill σ} {value : σ} (hx : Keeps mem limit Inv x)
    (hpos : pos ≤ limit) (hvalue : Inv value) : Delivers (x.toPull value) mem pos Inv := by
  have hends := hx value pos hpos ⟨hvalue, trivial⟩
  unfold Delivers Fill.toPull
  generalize x mem value pos = outcome at hends ⊢
  cases hends with
  | goes value' last _ _ h => exact .inl ⟨value', last, rfl, h.1⟩
  | stop value' last _ => exact .inr rfl
  | fault h => exact h.elim

variable {config : Option (CodecConfig V)}

theorem fieldsBounded_start {format : RequestFormat} :
    FieldsBounded ((.none, blank) : P4Union format.members × P4Fields format.others) :=
  ⟨(fun _ _ h ↦ by cases h), P4Fields.bounded_blank⟩

/-- Behind its RAT type, a request is its fields. -/
theorem delivers_request {format : RequestFormat} (hsize : limit ≤ mem.size)
    (hfields : pos + 1 ≤ limit →
      Delivers ((unpackTlvList config (format.table.map TlvPart.entry) limit).toPull
        ((.none, blank), none)) mem (pos + 1) fun fields ↦ FieldsBounded fields.1) :
    Delivers (format.unpack config limit) mem pos fun request : P4Request format V ↦
      FieldsBounded (request.body, request.others) := by
  by_cases hroom : pos + 1 ≤ limit
  · have hratType := pull8_of_room hsize hroom
    unfold Delivers RequestFormat.unpack
    rw [Pull.bind_of_ok hratType]
    apply (hfields hroom).bind
    rintro ⟨⟨body, others⟩, vendorExtension⟩ last _ hbounded
    apply (delivers_ensure _).bind
    intro _ _ _ _
    exact delivers_pure hbounded
  · exact .inr (Pull.bind_of_error (pull8_of_no_room hroom))

theorem keeps_requestTable {format : RequestFormat} (hsize : limit ≤ mem.size)
    (hnames : P4Field.nbIotSystemInformationRequest ∉ (MessageFormat.request format).names) :
    ∀ entry ∈ format.table.map TlvPart.entry, ∀ tl,
      Keeps mem limit FieldsBounded (entry.fill tl limit) := by
  intro entry hentry tl
  obtain ⟨part, hpart, rfl⟩ := List.mem_map.mp hentry
  rcases List.mem_append.mp hpart with hmember | hother
  · obtain ⟨inner, hinner, rfl⟩ := List.mem_map.mp hmember
    obtain ⟨name, -, rfl⟩ := List.mem_map.mp hinner
    have hname : name.1 ≠ .nbIotSystemInformationRequest := fun h ↦
      hnames (List.mem_append_left _ (h ▸ name.2))
    exact moves_member (P4Field.keeps hname hsize tl)
  · obtain ⟨inner, hinner, rfl⟩ := List.mem_map.mp hother
    obtain ⟨name, -, rfl⟩ := List.mem_map.mp hinner
    have hname : name.1 ≠ .nbIotSystemInformationRequest := fun h ↦
      hnames (List.mem_append_right _ (h ▸ name.2))
    exact moves_other (P4Field.keeps hname hsize tl)

/-- The decoder of a body without the field that is not looked at is safe. -/
theorem delivers_unpack {format : MessageFormat} (hsize : limit ≤ mem.size)
    (hstays : VendorStays config) (hpos : pos ≤ limit)
    (hnames : P4Field.nbIotSystemInformationRequest ∉ format.names) :
    Delivers (format.unpack config limit) mem pos fun body : format.Body V ↦
      format.Bounded body := by
  cases format with
  | request format =>
    apply delivers_request hsize
    intro hroom
    exact delivers_toPull (keeps_unpackTlvList hsize hstays (keeps_requestTable hsize hnames)) hroom
      fieldsBounded_start
  | report format =>
    have hentries : ∀ entry ∈ (slots (fieldCodec format.table) format.table.attach).map
        TlvPart.entry, ∀ tl, Keeps mem limit P4Fields.Bounded (entry.fill tl limit) := by
      intro entry hentry tl
      obtain ⟨part, hpart, rfl⟩ := List.mem_map.mp hentry
      obtain ⟨name, -, rfl⟩ := List.mem_map.mp hpart
      have hname : name.1 ≠ .nbIotSystemInformationRequest := fun h ↦ hnames (h ▸ name.2)
      exact moves_slot (P4Field.keeps hname hsize tl)
    apply (delivers_pull32 hsize).bind
    intro errorCode next hpull _
    have hnext := pull32_le hpull
    apply (delivers_toPull (keeps_unpackTlvList hsize hstays hentries) hnext
      P4Fields.bounded_blank).bind
    rintro ⟨fields, vendorExtension⟩ last _ hbounded
    exact delivers_pure hbounded
  | nmmStopRequest =>
    have hentries : ∀ entry ∈ ([] : List (Entry Unit)), ∀ tl,
        Keeps mem limit (fun _ ↦ True) (entry.fill tl limit) :=
      fun _ h ↦ absurd h List.not_mem_nil
    apply (delivers_toPull (keeps_unpackTlvList hsize hstays hentries) hpos trivial).bind
    rintro ⟨_, vendorExtension⟩ last _ _
    exact delivers_pure trivial

end Delivers

/-! ### Safety -/

section Safety

variable {V W : Type}

/-- The decoder of messages of the vendor delivers something or stops. -/
def VendorMessageStays (vendorMessage : Option (P5MessageHeader → ℕ → Pull W)) : Prop :=
  ∀ unpack, vendorMessage = some unpack → ∀ header limit mem pos, limit ≤ mem.size → pos ≤ limit →
    Delivers (unpack header limit) mem pos fun _ ↦ True

/-- For these bytes the decoder writes nothing outside of an array, and if it accepts the message,
every count in it is at most the declared length of its list. -/
def P4Safe (config : Option (CodecConfig V))
    (vendorMessage : Option (P5MessageHeader → ℕ → Pull W)) (bytes : List UInt8) : Prop :=
  ∃ result, p4MessageUnpack config vendorMessage (memoryOf bytes) bytes.length = .ok result ∧
    ∀ message, result = some (.message message) → message.Bounded

/-- The message is a system information request in which the walk finds an SI index that would be
stored outside of its array. -/
def OverrunsSiIndex (config : Option (CodecConfig V)) (bytes : List UInt8) : Prop :=
  headerLength < bytes.length ∧
    Pull.word16 (memoryOf bytes) 2 = P4Kind.systemInformationRequest.id ∧
      ∃ went extension? last, systemInformationWalk config bytes.length (memoryOf bytes)
        (false, none) (headerLength + 1) = .ok (went, (true, extension?), last)

variable {config : Option (CodecConfig V)}
  {vendorMessage : Option (P5MessageHeader → ℕ → Pull W)} {bytes : List UInt8}

/-- The header at the start of the memory. -/
def headerOf (mem : Memory) : P5MessageHeader where
  phyId := Pull.word16 mem 0
  messageId := Pull.word16 mem 2
  messageLength := Pull.word16 mem 4
  spare := Pull.word16 mem 6

theorem pullHeader_of_room {mem : Memory} {limit : ℕ} (hlimit : headerLength ≤ limit)
    (hsize : limit ≤ mem.size) :
    pullHeader limit mem 0 = .ok (headerOf mem, headerLength) := by
  have hword : ∀ pos, pos + 2 ≤ headerLength →
      Pull.pull16 limit mem pos = .ok (Pull.word16 mem pos, pos + 2) := by
    intro pos hpos
    have hroom : pos + 2 ≤ limit := Nat.le_trans hpos hlimit
    exact Pull.pull16_of_room hroom (Nat.le_trans hroom hsize)
  unfold pullHeader
  rw [Pull.bind_of_ok (hword 0 (by decide)), Pull.bind_of_ok (hword 2 (by decide)),
    Pull.bind_of_ok (hword 4 (by decide)), Pull.bind_of_ok (hword 6 (by decide))]
  rfl

/-- Behind the header, the message is what its case makes of it. -/
theorem p4MessageUnpack_of_room (hlength : headerLength ≤ bytes.length) :
    p4MessageUnpack config vendorMessage (memoryOf bytes) bytes.length =
      (unpackCase config vendorMessage (headerOf (memoryOf bytes)) bytes.length).run
        (memoryOf bytes) headerLength := by
  unfold p4MessageUnpack messageUnpack Pull.run
  rw [if_neg (Nat.not_lt.mpr hlength),
    Pull.bind_of_ok (pullHeader_of_room hlength (Nat.le_refl _))]

theorem safe_of_delivers (hlength : headerLength ≤ bytes.length)
    (h : Delivers (unpackCase config vendorMessage (headerOf (memoryOf bytes)) bytes.length)
      (memoryOf bytes) headerLength fun unpacked ↦
        ∀ message, unpacked = .message message → message.Bounded) :
    P4Safe config vendorMessage bytes := by
  unfold P4Safe
  rw [p4MessageUnpack_of_room hlength]
  rcases h with ⟨unpacked, last, hrun, hbounded⟩ | hreject
  · refine ⟨some unpacked, Pull.run_eq_some.mpr ⟨last, hrun⟩, ?_⟩
    rintro message heq
    exact hbounded message (Option.some.inj heq)
  · refine ⟨none, ?_, fun _ h ↦ by cases h⟩
    unfold Pull.run
    rw [hreject]

/-- A message whose id has a case is safe if its body is. -/
theorem safe_of_body {kind : P4Kind} (hlength : headerLength ≤ bytes.length)
    (hid : (headerOf (memoryOf bytes)).messageId = kind.id)
    (h : Delivers (kind.format.unpack config bytes.length) (memoryOf bytes) headerLength
      fun body ↦ kind.format.Bounded body) :
    P4Safe config vendorMessage bytes := by
  apply safe_of_delivers hlength
  rw [unpackCase_of_kind hid]
  apply h.bind
  intro body last _ hbounded
  apply delivers_pure
  rintro message heq
  cases heq
  exact hbounded

theorem names_of_ne {kind : P4Kind} (h : kind ≠ .systemInformationRequest) :
    P4Field.nbIotSystemInformationRequest ∉ kind.format.names := by
  cases kind with
  | systemInformationRequest => exact absurd rfl h
  | _ => decide

/-- A message with an id that has no case goes to the vendor, if it goes anywhere. -/
theorem safe_of_vendor (hvendor : VendorMessageStays vendorMessage)
    (hlength : headerLength ≤ bytes.length)
    (hid : P4Kind.ofId (headerOf (memoryOf bytes)).messageId = none) :
    P4Safe config vendorMessage bytes := by
  apply safe_of_delivers hlength
  unfold unpackCase
  split
  · next kind hkind =>
    rw [hid] at hkind
    cases hkind
  · split_ifs
    · cases vendorMessage with
      | none => exact .inr rfl
      | some unpack =>
        apply (hvendor unpack rfl _ bytes.length _ headerLength (Nat.le_refl _) hlength).bind
        intro message last _ _
        apply delivers_pure
        rintro message' heq
        cases heq
    · exact .inr rfl

/-- A system information request behind its RAT type, if the walk finds nothing. -/
theorem delivers_systemInformation {limit pos last : ℕ} {mem : Memory} {went : Bool}
    {extension? : Option V} (hsize : limit ≤ mem.size)
    (hwalk : systemInformationWalk config limit mem (false, none) pos =
      .ok (went, (false, extension?), last)) :
    Delivers ((unpackTlvList config
      (RequestFormat.systemInformationRequest.table.map TlvPart.entry) limit).toPull
        ((.none, blank), none)) mem pos fun fields ↦ FieldsBounded fields.1 := by
  obtain ⟨fields, last', hrun, hthrough⟩ := shadows_systemInformation.follows mem (false, none)
    ((.none, blank), none) pos went (false, extension?) last hsize trivial
    ⟨fieldsBounded_start, rfl⟩ hwalk rfl
  unfold Delivers Fill.toPull
  rw [hrun]
  cases went with
  | true => exact .inl ⟨fields, last', rfl, (hthrough rfl).1.1⟩
  | false => exact .inr rfl

/-- If it does, the decoder writes outside of the array. -/
theorem systemInformation_faults {limit pos last : ℕ} {mem : Memory} {went : Bool}
    {extension? : Option V} (hsize : limit ≤ mem.size) (hroom : pos + 1 ≤ limit)
    (hwalk : systemInformationWalk config limit mem (false, none) (pos + 1) =
      .ok (went, (true, extension?), last)) :
    RequestFormat.systemInformationRequest.unpack config limit mem pos =
      .error (.crash .fault) := by
  have hfault := shadows_systemInformation.faults mem (false, none) ((.none, blank), none) (pos + 1)
    went (true, extension?) last hsize trivial ⟨fieldsBounded_start, rfl⟩ hwalk rfl
    Bool.noConfusion
  have hfields : (unpackTlvList config
      (RequestFormat.systemInformationRequest.table.map TlvPart.entry) limit).toPull
        ((.none, blank), none) mem (pos + 1) = .error (.crash .fault) := by
    unfold Fill.toPull
    rw [hfault]
  unfold RequestFormat.unpack
  rw [Pull.bind_of_ok (pull8_of_room hsize hroom), Pull.bind_of_error hfields]

/-- The decoder is safe exactly for the messages in which the walk finds no SI index that would be
stored outside of its array. -/
theorem p4Message_safe_iff (hstays : VendorStays config)
    (hvendor : VendorMessageStays vendorMessage) (bytes : List UInt8) :
    P4Safe config vendorMessage bytes ↔ ¬ OverrunsSiIndex config bytes := by
  have hsize : bytes.length ≤ (memoryOf bytes).size := Nat.le_refl _
  constructor
  · rintro ⟨result, hresult, -⟩ ⟨hlength, hid, went, extension?, last, hwalk⟩
    have hfault : P4Kind.systemInformationRequest.format.unpack config bytes.length
        (memoryOf bytes) headerLength = .error (.crash .fault) :=
      systemInformation_faults hsize hlength hwalk
    have hcase : (headerOf (memoryOf bytes)).messageId = P4Kind.systemInformationRequest.id := hid
    rw [p4MessageUnpack_of_room (Nat.le_of_lt hlength), unpackCase_of_kind hcase, Pull.run,
      Pull.bind_of_error hfault] at hresult
    cases hresult
  · intro hnot
    by_cases hlength : headerLength ≤ bytes.length
    · cases hkind : P4Kind.ofId (headerOf (memoryOf bytes)).messageId with
      | none => exact safe_of_vendor hvendor hlength hkind
      | some kind =>
        have hid := P4Kind.eq_id_of_ofId hkind
        apply safe_of_body hlength hid
        by_cases hrequest : kind = .systemInformationRequest
        · subst hrequest
          apply delivers_request hsize
          intro hroom
          obtain ⟨went, ⟨overran, extension?⟩, last, hwalk, -⟩ := advances_systemInformationWalk
            hstays (memoryOf bytes) (false, none) (headerLength + 1) hsize
          cases overran with
          | true => exact absurd ⟨hroom, hid, went, extension?, last, hwalk⟩ hnot
          | false => exact delivers_systemInformation hsize hwalk
        · exact delivers_unpack hsize hstays hlength (names_of_ne hrequest)
    · refine ⟨none, ?_, fun _ h ↦ by cases h⟩
      unfold p4MessageUnpack messageUnpack
      rw [if_pos (Nat.lt_of_not_le hlength)]

end Safety

/-- An NB-IoT system information request whose one periodicity has this many SI indexes. -/
def siIndexRequest (count : UInt8) : List UInt8 :=
  [0, 0, 2, 0x0C, 0, 0, 0, 0, 3, 0x30, 0x27, 0, 0, 0, 1, 0, 0, 2, 1, 0, 0, 0, count] ++
    List.replicate count.toNat 1 ++ [1, 0, 0, 0, 1]

theorem vendorMessageStays_none :
    VendorMessageStays (none : Option (P5MessageHeader → ℕ → Pull Unit)) :=
  fun _ h ↦ by cases h

/-- Eight indexes fit. -/
theorem p4Message_eight_si_indexes :
    P4Safe (none : Option (CodecConfig Unit)) (none : Option (P5MessageHeader → ℕ → Pull Unit))
      (siIndexRequest 8) := by
  apply (p4Message_safe_iff vendorStays_none vendorMessageStays_none (siIndexRequest 8)).mpr
  rintro ⟨-, -, went, extension?, last, hwalk⟩
  cases hwalk

/-- The ninth is stored behind the end of the array. -/
theorem p4Message_nine_si_indexes :
    ¬ P4Safe (none : Option (CodecConfig Unit)) (none : Option (P5MessageHeader → ℕ → Pull Unit))
      (siIndexRequest 9) := by
  rintro ⟨result, hresult, -⟩
  have hfault : p4MessageUnpack (none : Option (CodecConfig Unit))
      (none : Option (P5MessageHeader → ℕ → Pull Unit)) (memoryOf (siIndexRequest 9))
      (siIndexRequest 9).length = .error .fault := rfl
  have hboth := hfault.symm.trans hresult
  cases hboth

end MultiUeProxy.P4
