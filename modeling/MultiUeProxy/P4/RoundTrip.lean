import Mathlib.Data.List.Nodup
import MultiUeProxy.P4.Messages
import MultiUeProxy.P5.VendorExtension

/-!
# P4 messages, there and back

A packed message is accepted and comes back as it was, with two provisos that are the sender's: its
lists have as many elements as are counted and not more than their arrays, and the member of a
request's union is that of its RAT type. The only exception is a system information request for
NB-IoT. Its decoder reads the member and then rejects the message, as NB-IoT is not among the RAT
types that it checks for (`p4Message_intact_iff`).
-/

set_option autoImplicit false
set_option relaxedAutoImplicit false

namespace MultiUeProxy.P4

open Lib.Execution Lib.ByteCursor Lib.ByteWriter Lib.Codec Lib.TlvCodec Lib.InPlace Lib.TaggedParts
  Lib.TlvRecord Lib.TlvChoice P5.Message
open Lib.ByteCursor.Pull (Tl)
open P7.Header (vendorExtensionMinTagValue)

/-! ### What fits, and what is the same -/

/-- The counts of the fields that are there are right. -/
def FieldsFit {names : List P4Field} (fields : P4Fields names) : Prop :=
  ∀ name, (fields name).tl.tag = name.1.tag → name.1.codec.Fits (fields name)

/-- The RAT type is one that the encoder knows, its member is there, and all counts are right. -/
def P4Request.Fits {format : RequestFormat} {V : Type} (request : P4Request format V) : Prop :=
  (∃ rat name, request.ratType = rat.number ∧ format.member rat = some name ∧
    (request.body.get name).tl.tag = name.1.tag ∧ name.1.codec.Fits (request.body.get name)) ∧
  FieldsFit request.others

def MessageFormat.Fits {V : Type} : (format : MessageFormat) → format.Body V → Prop
  | .request _, body => body.Fits
  | .report _, body => FieldsFit body.fields
  | .nmmStopRequest, _ => True

def MessageFormat.extension {V : Type} : (format : MessageFormat) → format.Body V → Option V
  | .request _, body => body.vendorExtension
  | .report _, body => body.vendorExtension
  | .nmmStopRequest, body => body

def FieldsSame {names : List P4Field} (sent received : P4Fields names) : Prop :=
  ∀ name, SameField name.1.tag (sent name) (received name)

structure P4Request.Same {format : RequestFormat} {V : Type} (sent received : P4Request format V) :
    Prop where
  ratType : received.ratType = sent.ratType
  body : ∀ name, SameField name.1.tag (sent.body.get name) (received.body.get name)
  others : FieldsSame sent.others received.others
  vendorExtension : received.vendorExtension = sent.vendorExtension

structure P4Report.Same {format : ReportFormat} {V : Type} (sent received : P4Report format V) :
    Prop where
  errorCode : received.errorCode = sent.errorCode
  fields : FieldsSame sent.fields received.fields
  vendorExtension : received.vendorExtension = sent.vendorExtension

def MessageFormat.Same {V : Type} : (format : MessageFormat) → format.Body V → format.Body V → Prop
  | .request _, sent, received => sent.Same received
  | .report _, sent, received => sent.Same received
  | .nmmStopRequest, sent, received => received = sent

/-- The same message, but for the length in the header. -/
inductive P4Message.Same {V : Type} : P4Message V → P4Message V → Prop where
  | intro {header header' : P5MessageHeader} {kind : P4Kind} {sent received : kind.format.Body V}
    {hid : header.messageId = kind.id} {hid' : header'.messageId = kind.id}
    (phyId : header'.phyId = header.phyId) (spare : header'.spare = header.spare)
    (body : kind.format.Same sent received) :
    Same ⟨header, kind, sent, hid⟩ ⟨header', kind, received, hid'⟩

/-- The check that the decoder makes in the end, for the message that was sent. -/
def MessageFormat.Agrees {V : Type} : (format : MessageFormat) → format.Body V → Prop
  | .request format, body => format.agrees body.ratType body.body.tl.tag = true
  | _, _ => True

/-! ### Fields -/

theorem P4Field.returns (name : P4Field) (field : Tlv name.Value) : name.codec.Returns field := by
  have hitems {α : Type} (items : List α) : ∀ item ∈ items, True := fun _ _ ↦ trivial
  cases name with
  | nbIotRssiRequest => exact fun _ _ _ _ ↦ trivial
  | nbIotSystemInformationRequest => exact fun _ _ _ _ ↦ trivial
  | geranRssiRequest => exact hitems _
  | lteCellSearchIndication => exact hitems _
  | utranCellSearchIndication => exact hitems _
  | geranCellSearchIndication => exact hitems _
  | nbIotCellSearchIndication => exact hitems _
  | lteSystemInformationRequest => exact hitems _
  | _ => trivial

theorem P4Field.carried_eq (name : P4Field) (field : Tlv name.Value) :
    name.codec.carried field = field := by
  cases name <;> rfl

theorem P4Field.tag_lt (name : P4Field) : name.tag < vendorExtensionMinTagValue := by
  cases name <;> decide

section Fields

variable {names : List P4Field} {order : List { name // name ∈ names }} {fields : P4Fields names}

/-- A field comes over as it was. -/
theorem sameField_carried (fields : P4Fields names) (name : { name // name ∈ names }) :
    SameField name.1.tag (fields name) (carriedField (fieldCodec names) fields name) := by
  have hsent : carriedField (fieldCodec names) fields name =
      sent name.1.tag name.1.codec.bytes (fields name) := by
    unfold carriedField fieldCodec sent
    rw [P4Field.codec_tag, P4Field.carried_eq]
  rw [hsent]
  exact sameField_sent name.1.tag_ne_zero _ _

theorem tag_of_mem_slots {part : TlvPart (P4Fields names)}
    (hpart : part ∈ slots (fieldCodec names) order) : part.tag < vendorExtensionMinTagValue := by
  obtain ⟨name, -, rfl⟩ := List.mem_map.mp hpart
  show name.1.codec.tag < _
  rw [P4Field.codec_tag]
  exact name.1.tag_lt

theorem partsFit_slots (hfits : FieldsFit fields) :
    PartsFit (slots (fieldCodec names) order) fields := by
  intro part hpart
  obtain ⟨name, -, rfl⟩ := List.mem_map.mp hpart
  intro htag
  exact hfits name (htag.trans name.1.codec_tag)

theorem partsReturn_slots : PartsReturn (slots (fieldCodec names) order) fields := by
  intro part hpart
  obtain ⟨name, -, rfl⟩ := List.mem_map.mp hpart
  intro _
  exact name.1.returns _

/-- All fields that are written one by one into a structure without any come over as they were. -/
theorem fieldsSame_arriveParts (hall : ∀ name, name ∈ order) (fields : P4Fields names) :
    FieldsSame fields (arriveParts (slots (fieldCodec names) order) fields blank) := by
  intro name
  rw [arriveParts_slots, if_pos (hall name)]
  exact sameField_carried fields name

theorem attach_tags (names : List P4Field) :
    names.attach.map (fun name ↦ (fieldCodec names name).tag) = names.map P4Field.tag := by
  have htags : names.attach.map (fun name ↦ (fieldCodec names name).tag) =
      names.attach.map (P4Field.tag ∘ Subtype.val) :=
    List.map_congr_left fun name _ ↦ name.1.codec_tag
  rw [htags, ← List.map_map, List.attach_map_subtype_val]

end Fields

/-! ### What is written and what is read -/

section Bodies

variable {V : Type} [Tagged V] {config : Option (CodecConfig V)}

/-- These are the bytes of a message behind its header. The decoder gets the message back from them,
or rejects them in its last check. -/
structure Returned (config : Option (CodecConfig V)) (format : MessageFormat) (body : format.Body V)
    (bytes : List UInt8) : Prop where
  written : ∀ limit, Emits limit (format.pack config limit body) bytes
  accepted : format.Agrees body → ∀ mem pos, Holds mem pos bytes →
    ∃ received, format.unpack config (pos + bytes.length) mem pos =
      .ok (received, pos + bytes.length) ∧ format.Same body received
  rejected : ¬ format.Agrees body → ∀ mem pos, Holds mem pos bytes →
    format.unpack config (pos + bytes.length) mem pos = .error .reject

theorem returned_nmmStopRequest {body : Option V} {bytes : List UInt8}
    (hextension : ExtensionField config body bytes) :
    Returned config .nmmStopRequest body bytes where
  written limit := emits_packVendorExtensionTlv hextension
  accepted _ mem pos hholds := by
    have hlist : unpackTlvList config [] (pos + bytes.length) mem ((), none) pos =
        .ok (true, ((), body), pos + bytes.length) :=
      @unpackTlvList_message Unit V _ config body bytes [] [] () ()
        (fun _ h ↦ absurd h List.not_mem_nil) (fun _ h ↦ absurd h List.not_mem_nil)
        (fun _ h ↦ absurd h List.not_mem_nil) (fun _ h ↦ absurd h List.not_mem_nil) trivial
        hextension mem pos hholds
    exact ⟨body, Pull.bind_of_ok (toPull_eq_ok.mpr hlist), rfl⟩
  rejected h := absurd trivial h

theorem ReportFormat.mem_packedNames (format : ReportFormat)
    (name : { name // name ∈ format.table }) : name ∈ format.packedNames := by
  unfold ReportFormat.packedNames
  rw [List.mem_attachWith]
  exact format.perm.mem_iff.mpr name.2

theorem ReportFormat.nodup_packedNames (format : ReportFormat) : format.packedNames.Nodup := by
  have hvalues : (format.packedNames.map Subtype.val).Nodup := by
    unfold ReportFormat.packedNames
    rw [List.attachWith_map_subtype_val]
    exact format.perm.nodup_iff.mpr format.nodup.of_map
  exact hvalues.of_map

theorem returned_report {format : ReportFormat} {report : P4Report format V} {bytes : List UInt8}
    (hfits : FieldsFit report.fields)
    (hextension : ExtensionField config report.vendorExtension bytes) :
    Returned config (.report format) report (bytes32 report.errorCode ++
      (partsBytes (slots (fieldCodec format.table) format.packedNames) report.fields ++ bytes)) where
  written limit := by
    have hparts : Emits limit (packParts limit (slots (fieldCodec format.table) format.packedNames)
        report.fields) _ := emits_packParts (partsFit_slots hfits)
    have hvendor := @emits_packVendorExtensionTlv V _ config _ bytes limit hextension
    show Emits limit (format.pack config limit report) _
    unfold ReportFormat.pack
    infer_instance
  accepted _ mem pos hholds := by
    rw [holds_append] at hholds
    have hcode := reads_pull32 (pos + (bytes32 report.errorCode ++
      (partsBytes (slots (fieldCodec format.table) format.packedNames) report.fields ++
        bytes)).length) report.errorCode mem pos hholds.1
      (by rw [List.length_append, ← Nat.add_assoc]; exact Nat.le_add_right _ _)
    have hlist := @unpackTlvList_message (P4Fields format.table) V _ config report.vendorExtension
      bytes (slots (fieldCodec format.table) format.packedNames)
      (slots (fieldCodec format.table) format.table.attach) report.fields blank
      (fun _ ↦ find_slot (by rw [attach_tags]; exact format.nodup) fun name _ ↦ List.mem_attach _ name)
      (fun _ ↦ tag_of_mem_slots) (partsFit_slots hfits) partsReturn_slots
      (clearParts_slots format.nodup_packedNames fun _ _ ↦ rfl) hextension mem _ hholds.2
    rw [Nat.add_assoc, ← List.length_append] at hlist
    refine ⟨⟨report.errorCode, arriveParts (slots (fieldCodec format.table) format.packedNames)
      report.fields blank, report.vendorExtension⟩, ?_, rfl,
      fieldsSame_arriveParts format.mem_packedNames report.fields, rfl⟩
    show format.unpack config _ mem pos = _
    unfold ReportFormat.unpack
    rw [Pull.bind_of_ok hcode]
    exact Pull.bind_of_ok (toPull_eq_ok.mpr hlist)
  rejected h := absurd trivial h

/-! ### Requests -/

section Requests

variable {format : RequestFormat} {request : P4Request format V}
  {name : { name // name ∈ format.members }} {bytes : List UInt8}

/-- What the encoder of a request writes, as parts of the structure. -/
def RequestFormat.packedParts (format : RequestFormat) (name : { name // name ∈ format.members }) :
    List (TlvPart (P4Union format.members × P4Fields format.others)) :=
  both [memberPart (fieldCodec format.members) name] format.otherParts

theorem RequestFormat.nodup_table (format : RequestFormat) :
    (format.table.map TlvPart.tag).Nodup := by
  have htags : format.table.map TlvPart.tag = (format.members ++ format.others).map P4Field.tag := by
    unfold RequestFormat.table both memberParts RequestFormat.otherParts slots
    rw [List.map_append, List.map_append, ← attach_tags, ← attach_tags, List.map_map, List.map_map,
      List.map_map, List.map_map]
    rfl
  rw [htags]
  exact format.nodup

theorem RequestFormat.mem_table {part : TlvPart (P4Union format.members × P4Fields format.others)}
    (hpart : part ∈ format.packedParts name) : part ∈ format.table := by
  unfold RequestFormat.packedParts RequestFormat.table both at *
  rw [List.mem_append] at hpart ⊢
  refine hpart.imp_left fun hfirst ↦ ?_
  obtain ⟨first, hmem, rfl⟩ := List.mem_map.mp hfirst
  rw [List.mem_singleton.mp hmem]
  exact List.mem_map_of_mem (List.mem_map_of_mem (List.mem_attach _ name))

theorem RequestFormat.table_tag_lt
    {part : TlvPart (P4Union format.members × P4Fields format.others)}
    (hpart : part ∈ format.table) : part.tag < vendorExtensionMinTagValue := by
  unfold RequestFormat.table both at hpart
  rcases List.mem_append.mp hpart with hfirst | hsecond
  · obtain ⟨first, hmem, rfl⟩ := List.mem_map.mp hfirst
    obtain ⟨name, -, rfl⟩ := List.mem_map.mp hmem
    show name.1.codec.tag < _
    rw [P4Field.codec_tag]
    exact name.1.tag_lt
  · obtain ⟨second, hmem, rfl⟩ := List.mem_map.mp hsecond
    exact tag_of_mem_slots hmem

/-- The bytes of a request: its RAT type, its parts and its vendor extension. -/
def requestBytes (request : P4Request format V) (name : { name // name ∈ format.members })
    (bytes : List UInt8) : List UInt8 :=
  [request.ratType] ++
    (partsBytes (format.packedParts name) (request.body, request.others) ++ bytes)

/-- The encoder selects the member that is there. -/
theorem emits_packMember {limit : ℕ} {body : P4Union format.members}
    (hfits : name.1.codec.Fits (body.get name)) :
    Emits limit (format.packMember limit body (some name))
      (partsBytes [memberPart (fieldCodec format.members) name] body) := by
  have hone : Emits limit (packTlv limit name.1.tag (body.get name).tl
      (name.1.codec.pack limit (body.get name)))
      (tlvBytes name.1.tag (body.get name).tl (name.1.codec.bytes (body.get name))) :=
    emits_packTlv fun _ ↦ name.1.codec.written _ limit hfits
  have hbytes : partsBytes [memberPart (fieldCodec format.members) name] body =
      tlvBytes name.1.tag (body.get name).tl (name.1.codec.bytes (body.get name)) := by
    unfold partsBytes
    rw [List.flatMap_singleton]
    show tlvBytes name.1.codec.tag _ _ = _
    rw [P4Field.codec_tag]
    rfl
  rw [hbytes]
  exact hone

theorem emits_packRequest {limit : ℕ} (hselected : format.selected request.ratType = some name)
    (hfits : name.1.codec.Fits (request.body.get name)) (hothers : FieldsFit request.others)
    (hextension : ExtensionField config request.vendorExtension bytes) :
    Emits limit (format.pack config limit request) (requestBytes request name bytes) := by
  have hmember := @emits_packMember format name limit request.body hfits
  have hparts : Emits limit (packParts limit format.otherParts request.others)
      (partsBytes format.otherParts request.others) := emits_packParts (partsFit_slots hothers)
  have hvendor := @emits_packVendorExtensionTlv V _ config _ bytes limit hextension
  unfold requestBytes RequestFormat.packedParts RequestFormat.pack
  rw [hselected, partsBytes_both, List.append_assoc]
  infer_instance

/-- What comes over. -/
def receivedRequest (request : P4Request format V) (name : { name // name ∈ format.members }) :
    P4Request format V where
  ratType := request.ratType
  body := .of name (carriedField (fieldCodec format.members) request.body.get name)
  others := arriveParts format.otherParts request.others blank
  vendorExtension := request.vendorExtension

omit [Tagged V] in
theorem same_receivedRequest (htag : (request.body.get name).tl.tag = name.1.tag) :
    request.Same (receivedRequest request name) where
  ratType := rfl
  body other := by
    have hbody : request.body = .of name (request.body.get name) :=
      Choice.eq_of_of_tag name.1.tag_ne_zero htag
    by_cases hname : name = other
    · subst hname
      have hreceived : (receivedRequest request name).body.get name =
        carriedField (fieldCodec format.members) request.body.get name := Choice.get_of
      rw [hreceived]
      exact sameField_carried (fun name ↦ request.body.get name) name
    · have hsent : request.body.get other = Tagged.absent := by
        rw [hbody, Choice.get_of_ne hname]
      have hreceived : (receivedRequest request name).body.get other = Tagged.absent :=
        Choice.get_of_ne hname
      rw [hsent, hreceived]
      exact ⟨Iff.rfl, fun _ ↦ rfl⟩
  others := fieldsSame_arriveParts (fun name ↦ List.mem_attach _ name) request.others
  vendorExtension := rfl

/-- The decoder reads all of a request and then makes its check. -/
theorem unpack_requestBytes (htag : (request.body.get name).tl.tag = name.1.tag)
    (hfits : name.1.codec.Fits (request.body.get name)) (hothers : FieldsFit request.others)
    (hextension : ExtensionField config request.vendorExtension bytes) {mem : Memory} {pos : ℕ}
    (hholds : Holds mem pos (requestBytes request name bytes)) :
    format.unpack config (pos + (requestBytes request name bytes).length) mem pos =
      (do
        Pull.ensure (format.agrees request.ratType request.body.tl.tag)
        return receivedRequest request name : Pull (P4Request format V)) mem
          (pos + (requestBytes request name bytes).length) := by
  have hbody : request.body = .of name (request.body.get name) :=
    Choice.eq_of_of_tag name.1.tag_ne_zero htag
  have htl : (receivedRequest request name).body.tl.tag = request.body.tl.tag := by
    rw [hbody]
    show (carriedField (fieldCodec format.members) request.body.get name).tl.tag =
      (request.body.get name).tl.tag
    rw [htag]
    exact (sameField_carried (fun name ↦ request.body.get name) name).1.mpr htag
  have hfit : PartsFit (format.packedParts name) (request.body, request.others) := by
    apply partsFit_both.mpr
    refine ⟨?_, partsFit_slots hothers⟩
    intro part hpart _
    rw [List.mem_singleton.mp hpart]
    exact hfits
  have hreturns : PartsReturn (format.packedParts name) (request.body, request.others) := by
    apply partsReturn_both.mpr
    refine ⟨?_, partsReturn_slots⟩
    intro part hpart _
    rw [List.mem_singleton.mp hpart]
    exact name.1.returns _
  have hclear : ClearParts (request.body, request.others) (format.packedParts name)
      ((.none, blank) : P4Union format.members × P4Fields format.others) :=
    clearParts_both ⟨rfl, trivial⟩
      (clearParts_slots (List.nodup_attach.mpr format.nodup.of_map.of_append_right) fun _ _ ↦ rfl)
  have harrive : arriveParts (format.packedParts name) (request.body, request.others)
      ((.none, blank) : P4Union format.members × P4Fields format.others) =
        ((receivedRequest request name).body, (receivedRequest request name).others) := by
    unfold RequestFormat.packedParts
    rw [arriveParts_both]
    refine congrArg (·, _) ?_
    exact @arrive_memberPart _ _ _ _ (fieldCodec format.members) name request.body
      (htag.trans name.1.codec_tag.symm) .none
  unfold requestBytes at hholds ⊢
  rw [holds_append] at hholds
  have hrat := reads_pull8 (pos + ([request.ratType] ++ (partsBytes (format.packedParts name)
    (request.body, request.others) ++ bytes)).length) request.ratType mem pos hholds.1
    (by rw [List.length_append, ← Nat.add_assoc]; exact Nat.le_add_right _ _)
  have hlist := @unpackTlvList_message _ V _ config request.vendorExtension bytes
    (format.packedParts name) format.table (request.body, request.others)
    (Choice.none, blank) (fun _ hpart ↦ find_entry format.nodup_table (format.mem_table hpart))
    (fun _ ↦ format.table_tag_lt) hfit hreturns hclear hextension mem _ hholds.2
  rw [harrive, Nat.add_assoc, ← List.length_append] at hlist
  unfold RequestFormat.unpack
  rw [Pull.bind_of_ok hrat]
  refine (Pull.bind_of_ok (toPull_eq_ok.mpr hlist)).trans ?_
  dsimp only
  rw [htl]
  rfl

theorem returned_request (hselected : format.selected request.ratType = some name)
    (htag : (request.body.get name).tl.tag = name.1.tag)
    (hfits : name.1.codec.Fits (request.body.get name)) (hothers : FieldsFit request.others)
    (hextension : ExtensionField config request.vendorExtension bytes) :
    Returned config (.request format) request (requestBytes request name bytes) where
  written _ := emits_packRequest hselected hfits hothers hextension
  accepted hagrees mem pos hholds := by
    refine ⟨receivedRequest request name, ?_, same_receivedRequest htag⟩
    refine (unpack_requestBytes htag hfits hothers hextension hholds).trans ?_
    have hcheck : format.agrees request.ratType request.body.tl.tag = true := hagrees
    rw [Pull.ensure_of_true hcheck]
    rfl
  rejected hagrees mem pos hholds := by
    refine (unpack_requestBytes htag hfits hothers hextension hholds).trans ?_
    have hcheck : ¬ format.agrees request.ratType request.body.tl.tag = true := hagrees
    rw [Pull.ensure_of_false hcheck]
    rfl

end Requests

end Bodies

/-! ### The check of the decoder -/

theorem RatType.ofNumber_number (rat : RatType) : ofNumber rat.number = some rat := by
  cases rat <;> rfl

theorem RatType.number_inj {rat rat' : RatType} (h : rat.number = rat'.number) : rat = rat' := by
  have hsome := rat.ofNumber_number
  rw [h, ofNumber_number] at hsome
  exact (Option.some.inj hsome).symm

/-- The member of a RAT type passes the check if the RAT type is in the list. -/
theorem RequestFormat.agrees_iff {format : RequestFormat} {rats : List RatType} {rat : RatType}
    {name : { name // name ∈ format.members }} (hchecked : format.checked = some rats)
    (hmember : format.member rat = some name) :
    format.agrees rat.number name.1.tag = true ↔ rat ∈ rats := by
  unfold RequestFormat.agrees
  rw [hchecked, Option.all_some, List.any_eq_true]
  constructor
  · rintro ⟨found, hmem, hfound⟩
    rw [Bool.and_eq_true, beq_iff_eq] at hfound
    rw [← RatType.number_inj hfound.1]
    exact hmem
  · intro hmem
    refine ⟨rat, hmem, ?_⟩
    rw [hmember, Option.any_some, beq_self_eq_true, beq_self_eq_true]
    rfl

/-- The RAT type of a message that has one. -/
def MessageFormat.ratType? {V : Type} : (format : MessageFormat) → format.Body V → Option UInt8
  | .request _, body => some body.ratType
  | _, _ => none

/-- The message is a system information request for NB-IoT. -/
def P4Message.IsNbIotSystemInformationRequest {V : Type} (message : P4Message V) : Prop :=
  message.kind = .systemInformationRequest ∧
    message.kind.format.ratType? message.body = some RatType.nbIot.number

section Messages

variable {V : Type}

/-- The tag of the union of a request that fits is that of the member for its RAT type. -/
theorem P4Request.Fits.exists_member {format : RequestFormat} {request : P4Request format V}
    (hfits : request.Fits) : ∃ rat name, request.ratType = rat.number ∧
      format.member rat = some name ∧ request.body.tl.tag = name.1.tag := by
  obtain ⟨⟨rat, name, hrat, hmember, htag, -⟩, -⟩ := hfits
  have hbody : request.body = .of name (request.body.get name) :=
    Choice.eq_of_of_tag name.1.tag_ne_zero htag
  refine ⟨rat, name, hrat, hmember, ?_⟩
  rw [hbody]
  exact htag

theorem P4Request.Fits.agrees_iff {format : RequestFormat} {request : P4Request format V}
    {rats : List RatType} (hfits : request.Fits) (hchecked : format.checked = some rats) :
    format.agrees request.ratType request.body.tl.tag = true ↔
      ∃ rat ∈ rats, request.ratType = rat.number := by
  obtain ⟨rat, name, hrat, hmember, htag⟩ := hfits.exists_member
  rw [hrat, htag, RequestFormat.agrees_iff hchecked hmember]
  constructor
  · intro hmem
    exact ⟨rat, hmem, rfl⟩
  · rintro ⟨other, hmem, hother⟩
    rwa [RatType.number_inj hother]

/-- The check rejects no message that fits but system information requests for NB-IoT. -/
theorem agrees_iff_not_nbIot (message : P4Message V)
    (hfits : message.kind.format.Fits message.body) :
    message.kind.format.Agrees message.body ↔ ¬ message.IsNbIotSystemInformationRequest := by
  obtain ⟨header, kind, body, hid⟩ := message
  have hall {format : RequestFormat} {request : P4Request format V} (hrequest : request.Fits)
      (hchecked : format.checked = some [.lte, .utran, .geran, .nbIot]) :
      format.agrees request.ratType request.body.tl.tag = true := by
    rw [hrequest.agrees_iff hchecked]
    obtain ⟨rat, name, hrat, -⟩ := hrequest.exists_member
    exact ⟨rat, by cases rat <;> decide, hrat⟩
  have hother {P : Prop} (hkind : kind ≠ .systemInformationRequest) (hP : P) :
      P ↔ ¬ (⟨header, kind, body, hid⟩ : P4Message V).IsNbIotSystemInformationRequest :=
    iff_of_true hP fun h ↦ hkind h.1
  cases kind with
  | systemInformationRequest =>
    have hrequest : P4Request.Fits body := hfits
    have hchecked : RequestFormat.systemInformationRequest.checked = some [.lte, .utran, .geran] :=
      rfl
    refine Iff.trans (hrequest.agrees_iff hchecked) ?_
    constructor
    · rintro ⟨rat, hmem, hrat⟩ ⟨-, hnbIot⟩
      have hnumber : rat.number = RatType.nbIot.number := hrat.symm.trans (Option.some.inj hnbIot)
      rw [RatType.number_inj hnumber] at hmem
      exact absurd hmem (by decide)
    · intro hnot
      obtain ⟨rat, name, hrat, -⟩ := hrequest.exists_member
      refine ⟨rat, ?_, hrat⟩
      cases rat with
      | nbIot => exact absurd ⟨rfl, congrArg some hrat⟩ hnot
      | _ => decide
  | rssiRequest => exact hother (by decide) (hall hfits rfl)
  | cellSearchRequest => exact hother (by decide) (hall hfits rfl)
  | broadcastDetectRequest => exact hother (by decide) rfl
  | systemInformationScheduleRequest => exact hother (by decide) rfl
  | _ => exact hother (by decide) trivial

variable [Tagged V] {config : Option (CodecConfig V)}

theorem exists_returned (format : MessageFormat) (body : format.Body V) (hfits : format.Fits body)
    (hextension : ExtensionReturns config (format.extension body)) :
    ∃ bytes, Returned config format body bytes := by
  obtain ⟨bytes, hfield⟩ := hextension
  cases format with
  | request format =>
    obtain ⟨⟨rat, name, hrat, hmember, htag, hbody⟩, hothers⟩ := hfits
    have hselected : format.selected (P4Request.ratType body) = some name := by
      unfold RequestFormat.selected
      rw [hrat, RatType.ofNumber_number]
      exact hmember
    exact ⟨_, returned_request hselected htag hbody hothers hfield⟩
  | report format => exact ⟨_, returned_report hfits hfield⟩
  | nmmStopRequest => exact ⟨_, returned_nmmStopRequest hfield⟩

/-- The packed message is accepted, and what is unpacked is the same message. -/
def P4Intact {W : Type} (config : Option (CodecConfig V))
    (vendorMessage : Option (P5MessageHeader → ℕ → Pull W)) (message : P4Message V)
    (packed : List UInt8) : Prop :=
  ∃ received, p4MessageUnpack config vendorMessage (memoryOf packed) packed.length =
    .ok (some (.message received)) ∧ message.Same received

/-- A packed message comes back as it was exactly when it is not a system information request for
NB-IoT. -/
theorem p4Message_intact_iff {W : Type} (config : Option (CodecConfig V))
    (vendorMessage : Option (P5MessageHeader → ℕ → Pull W)) (limit : ℕ) (message : P4Message V)
    (packed : List UInt8) (hfits : message.kind.format.Fits message.body)
    (hextension : ExtensionReturns config (message.kind.format.extension message.body))
    (hpacked : p4MessagePack config limit message = .ok (some packed)) :
    P4Intact config vendorMessage message packed ↔ ¬ message.IsNbIotSystemInformationRequest := by
  rw [← agrees_iff_not_nbIot message hfits]
  obtain ⟨bytes, hreturned⟩ := exists_returned _ message.body hfits hextension
  obtain ⟨hrun, hholds, hlength, -⟩ := @messageUnpack_switch _ _ _ _ _ _ _
    (unpackCase config vendorMessage) (hreturned.written limit).yields hpacked
  have hid : ({ message.header with messageLength := packed.length.toUInt16 } :
    P5MessageHeader).messageId = message.kind.id := message.messageId
  have hcase : p4MessageUnpack config vendorMessage (memoryOf packed) packed.length =
      Pull.run (do
        let body ← message.kind.format.unpack config packed.length
        return .message ⟨{ message.header with messageLength := packed.length.toUInt16 },
          message.kind, body, hid⟩) (memoryOf packed) headerLength := by
    unfold p4MessageUnpack
    rw [hrun]
    show (unpackCase config vendorMessage
      { message.header with messageLength := packed.length.toUInt16 } packed.length).run _ _ = _
    rw [unpackCase_of_kind hid]
  constructor
  · rintro ⟨received, hreceived, -⟩
    apply Classical.byContradiction
    intro hnot
    have hreject := hreturned.rejected hnot (memoryOf packed) headerLength hholds
    rw [← hlength] at hreject
    rw [hcase, Pull.run, Pull.bind_of_error hreject] at hreceived
    cases hreceived
  · intro hagrees
    obtain ⟨received, haccept, hsame⟩ :=
      hreturned.accepted hagrees (memoryOf packed) headerLength hholds
    rw [← hlength] at haccept
    refine ⟨⟨{ message.header with messageLength := packed.length.toUInt16 }, message.kind,
      received, hid⟩, ?_, .intro rfl rfl hsame⟩
    rw [hcase, Pull.run, Pull.bind_of_ok haccept]
    rfl

end Messages

/-- A system information request with this RAT type and this member, all of it zero. -/
def systemInformationMessage (rat : RatType)
    (name : { name // name ∈ RequestFormat.systemInformationRequest.members }) :
    P4Message (Tlv UInt8) where
  header := { messageId := P4Kind.systemInformationRequest.id }
  kind := .systemInformationRequest
  body :=
    { ratType := rat.number
      body := .of name ⟨⟨name.1.tag, 0⟩, default⟩
      others := blank
      vendorExtension := none }
  messageId := rfl

theorem fits_systemInformationMessage {rat : RatType}
    {name : { name // name ∈ RequestFormat.systemInformationRequest.members }}
    (hmember : RequestFormat.systemInformationRequest.member rat = some name)
    (hfits : name.1.codec.Fits ⟨⟨name.1.tag, 0⟩, default⟩) :
    P4Request.Fits (systemInformationMessage rat name).body := by
  have hget : Choice.get (systemInformationMessage rat name).body.body name =
    ⟨⟨name.1.tag, 0⟩, default⟩ := Choice.get_of
  constructor
  · refine ⟨rat, name, rfl, hmember, ?_, ?_⟩
    · rw [hget]
    · rw [hget]
      exact hfits
  · intro other h
    exact absurd h other.1.tag_ne_zero

/-- A request for LTE comes back. -/
theorem p4Message_lte_intact :
    P4Intact (none : Option (CodecConfig (Tlv UInt8)))
      (none : Option (P5MessageHeader → ℕ → Pull Unit))
      (systemInformationMessage .lte ⟨.lteSystemInformationRequest, by decide⟩)
      ([0, 0, 2, 12, 0, 27, 0, 0, 0, 0x30, 0x14, 0, 14] ++ List.replicate 14 0) := by
  have hfits : P4Request.Fits (systemInformationMessage .lte
      ⟨.lteSystemInformationRequest, by decide⟩).body :=
    fits_systemInformationMessage rfl ⟨rfl, by decide⟩
  have hpacked : p4MessagePack none 100 (systemInformationMessage .lte
      ⟨.lteSystemInformationRequest, by decide⟩) =
        .ok (some ([0, 0, 2, 12, 0, 27, 0, 0, 0, 0x30, 0x14, 0, 14] ++ List.replicate 14 0)) := rfl
  apply (p4Message_intact_iff none none 100 (systemInformationMessage .lte
    ⟨.lteSystemInformationRequest, by decide⟩) _ hfits ⟨[], .absent⟩ hpacked).mpr
  intro h
  exact absurd h.2 (by decide)

/-- A request for NB-IoT is rejected. -/
theorem nbIotSystemInformation_rejected :
    p4MessagePack none 100 (systemInformationMessage .nbIot
        ⟨.nbIotSystemInformationRequest, by decide⟩) =
      .ok (some ([0, 0, 2, 12, 0, 24, 0, 0, 3, 0x30, 0x27, 0, 11] ++ List.replicate 11 0)) ∧
    P4Request.Fits (systemInformationMessage .nbIot
      ⟨.nbIotSystemInformationRequest, by decide⟩).body ∧
    ¬ P4Intact (none : Option (CodecConfig (Tlv UInt8)))
      (none : Option (P5MessageHeader → ℕ → Pull Unit))
      (systemInformationMessage .nbIot ⟨.nbIotSystemInformationRequest, by decide⟩)
      ([0, 0, 2, 12, 0, 24, 0, 0, 3, 0x30, 0x27, 0, 11] ++ List.replicate 11 0) := by
  refine ⟨rfl, fits_systemInformationMessage rfl
    ⟨⟨rfl, by decide⟩, fun _ h ↦ absurd h List.not_mem_nil⟩, ?_⟩
  rintro ⟨received, hreceived, -⟩
  cases hreceived

end MultiUeProxy.P4
