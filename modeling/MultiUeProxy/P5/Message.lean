import MultiUeProxy.Lib.TlvRecord
import MultiUeProxy.P7.Header

/-!
# P5 messages

The frame that the encoders and decoders of `nfapi_p5.c` share. `nfapi_p5_message_pack` and
`nfapi_nr_p5_message_pack` write the header, let the encoder for the message id write the body, and
put the length into the header: LTE counts the header and NR does not. `nfapi_p5_message_unpack` and
`nfapi_nr_p5_message_unpack` clear the structure, read the header and decode the body. The structure
is taken to be large enough for the message, as `check_unpack_length` and `check_nr_unpack_length`
ask for.

The list decoders `unpack_tlv_list` and `unpack_nr_tlv_list` hand a field with a vendor tag to the
configuration of the codec, if that has a decoder for it. NR fields are padded to a multiple of four
bytes.
-/

set_option autoImplicit false
set_option relaxedAutoImplicit false

namespace MultiUeProxy.P5.Message

open Lib.Execution Lib.ByteCursor Lib.ByteWriter Lib.Codec Lib.TlvCodec Lib.InPlace Lib.TaggedParts
open Lib.ByteCursor.Pull (Tl)
open P7.Header (vendorExtensionMinTagValue maxBadTag)

/-! ### The header -/

/-- `NFAPI_HEADER_LENGTH`. -/
def headerLength : ℕ := 8

/-- `nfapi_p4_p5_message_header_t`. -/
structure P5MessageHeader where
  phyId : UInt16 := 0
  messageId : UInt16 := 0
  messageLength : UInt16 := 0
  spare : UInt16 := 0
  deriving DecidableEq, Repr

def pullHeader (limit : ℕ) : Pull P5MessageHeader := do
  let phyId ← Pull.pull16 limit
  let messageId ← Pull.pull16 limit
  let messageLength ← Pull.pull16 limit
  let spare ← Pull.pull16 limit
  return { phyId, messageId, messageLength, spare }

/-- The header as it is written first, without its length. -/
def pushHeader (limit : ℕ) (header : P5MessageHeader) : Push Unit := do
  Push.push16 limit header.phyId
  Push.push16 limit header.messageId
  Push.push16 limit 0
  Push.push16 limit header.spare

/-- The bytes of a header with this length. -/
def headerBytes (header : P5MessageHeader) (length : UInt16) : List UInt8 :=
  bytes16 header.phyId ++ (bytes16 header.messageId ++ (bytes16 length ++ bytes16 header.spare))

@[simp] theorem length_headerBytes (header : P5MessageHeader) (length : UInt16) :
    (headerBytes header length).length = headerLength := rfl

instance {limit : ℕ} {header : P5MessageHeader} :
    Emits limit (pushHeader limit header) (headerBytes header 0) := by
  unfold pushHeader headerBytes
  infer_instance

/-- Putting the length into the header that was written with length zero. -/
theorem headerBytes_set_length (header : P5MessageHeader) (length : UInt16) (body : List UInt8) :
    (headerBytes header 0 ++ body).take 4 ++ bytes16 length ++
      (headerBytes header 0 ++ body).drop 6 = headerBytes header length ++ body := rfl

theorem length_header_append (header : P5MessageHeader) (length : UInt16) (body : List UInt8) :
    (headerBytes header length ++ body).length = headerLength + body.length := by
  rw [List.length_append, length_headerBytes]

theorem reads_pullHeader (limit : ℕ) (header : P5MessageHeader) (length : UInt16) :
    Reads limit (pullHeader limit) (headerBytes header length)
      { header with messageLength := length } :=
  (reads_pull16 limit _).bind <| (reads_pull16 limit _).bind <| (reads_pull16 limit _).bind
    (reads_pull16 limit _).map

/-! ### Messages -/

/-- The common part of `nfapi_p5_message_pack` and `nfapi_nr_p5_message_pack`: `encode` is the
encoder that the switch over the message id selects, `limit` the size of the buffer, and `counted`
says how much of a message its length counts. -/
def packMessage (counted : ℕ → ℕ) (encode : Push Unit) (limit : ℕ) (header : P5MessageHeader) :
    Outcome (Option (List UInt8)) :=
  match (do pushHeader limit header; encode : Push Unit) [] with
  | (.ok (), packed) =>
    if packed.length > 0xFFFF ∨ packed.length > limit then .ok none
    else .ok (some
      (packed.take 4 ++ bytes16 (counted packed.length).toUInt16 ++ packed.drop 6))
  | (.error .reject, _) => .ok none
  | (.error (.crash cause), _) => .error cause

/-- `nfapi_p5_message_pack`. -/
def p5MessagePack : Push Unit → ℕ → P5MessageHeader → Outcome (Option (List UInt8)) :=
  packMessage id

/-- `nfapi_nr_p5_message_pack`. -/
def nrP5MessagePack : Push Unit → ℕ → P5MessageHeader → Outcome (Option (List UInt8)) :=
  packMessage (· - headerLength)

/-- The common part of `nfapi_p5_message_unpack` and `nfapi_nr_p5_message_unpack`. -/
def messageUnpack {α : Type} (switch : P5MessageHeader → ℕ → Pull α) (mem : Memory)
    (length : ℕ) : Outcome (Option α) :=
  if length < headerLength then .ok none
  else Pull.run (do
    let header ← pullHeader length
    switch header length) mem 0

/-- The case of one message id in the switch of an unpacking function: messages with another id are
not looked at here. -/
def caseOf {α : Type} (id : UInt16) (unpack : ℕ → Pull α) (header : P5MessageHeader) (limit : ℕ) :
    Pull α :=
  if header.messageId = id then unpack limit else Pull.reject

section Message

variable {α : Type} {counted : ℕ → ℕ} {encode : Push Unit} {limit : ℕ} {header : P5MessageHeader}
  {body packed : List UInt8}

/-- A packed message is the body behind a header with the length. -/
theorem packMessage_eq_some (h : Yields limit encode body)
    (hpacked : packMessage counted encode limit header = .ok (some packed)) :
    packed = headerBytes header (counted packed.length).toUInt16 ++ body ∧
      packed.length ≤ 0xFFFF := by
  have hyields : Yields limit (do pushHeader limit header; encode)
      (headerBytes header 0 ++ body) :=
    (inferInstance : Emits limit (pushHeader limit header) (headerBytes header 0)).yields.bind h
  unfold packMessage at hpacked
  rcases hrun : (do pushHeader limit header; encode : Push Unit) [] with ⟨result, written⟩
  rw [hrun] at hpacked
  cases result with
  | ok u =>
    obtain ⟨rfl, -⟩ := hyields [] written (Nat.zero_le limit) hrun
    dsimp only at hpacked
    rw [List.nil_append, headerBytes_set_length, length_header_append] at hpacked
    split_ifs at hpacked with hlong
    · cases hpacked
    · cases hpacked
      rw [length_header_append]
      exact ⟨rfl, by omega⟩
  | error stop =>
    cases stop with
    | reject => cases hpacked
    | crash cause => cases hpacked

/-- An encoder that never comes to its end packs no message. -/
theorem packMessage_of_fails (h : Fails encode) :
    packMessage counted encode limit header ≠ .ok (some packed) := by
  intro hpacked
  have hfails : Fails (do pushHeader limit header; encode) := Fails.after fun _ ↦ h
  unfold packMessage at hpacked
  rcases hrun : (do pushHeader limit header; encode : Push Unit) [] with ⟨result, written⟩
  rw [hrun] at hpacked
  cases result with
  | ok u => exact hfails [] u written hrun
  | error stop =>
    cases stop with
    | reject => cases hpacked
    | crash cause => cases hpacked

/-- The switch over the message id is applied to what was packed behind the header. -/
theorem messageUnpack_switch {switch : P5MessageHeader → ℕ → Pull α}
    (h : Yields limit encode body)
    (hpacked : packMessage counted encode limit header = .ok (some packed)) :
    messageUnpack switch (memoryOf packed) packed.length =
        (switch { header with messageLength := (counted packed.length).toUInt16 }
          packed.length).run (memoryOf packed) headerLength ∧
      Holds (memoryOf packed) headerLength body ∧ packed.length = headerLength + body.length ∧
      packed.length ≤ 0xFFFF := by
  obtain ⟨hbytes, hlong⟩ := packMessage_eq_some h hpacked
  generalize (counted packed.length).toUInt16 = length at hbytes ⊢
  subst hbytes
  have hlength := length_header_append header length body
  have hheader : Holds (memoryOf (headerBytes header length ++ body)) 0
      (headerBytes header length) := holds_memoryOf [] _ body
  have hbody : Holds (memoryOf (headerBytes header length ++ body)) headerLength body := by
    have hplace := holds_memoryOf (headerBytes header length) body []
    rwa [List.append_nil] at hplace
  have hread := reads_pullHeader (headerBytes header length ++ body).length header length _ 0
    hheader (by rw [length_headerBytes, hlength]; omega)
  refine ⟨?_, hbody, hlength, hlong⟩
  unfold messageUnpack Pull.run
  rw [if_neg (by omega), Pull.bind_of_ok hread, length_headerBytes, Nat.zero_add]

/-- The decoder of the body is applied to what was packed behind the header. -/
theorem messageUnpack_packed {id : UInt16} {unpack : ℕ → Pull α} (hid : header.messageId = id)
    (h : Yields limit encode body)
    (hpacked : packMessage counted encode limit header = .ok (some packed)) :
    messageUnpack (caseOf id unpack) (memoryOf packed) packed.length =
        (unpack packed.length).run (memoryOf packed) headerLength ∧
      Holds (memoryOf packed) headerLength body ∧ packed.length = headerLength + body.length ∧
      packed.length ≤ 0xFFFF := by
  obtain ⟨hrun, hbody⟩ := @messageUnpack_switch _ _ _ _ _ _ _ (caseOf id unpack) h hpacked
  refine ⟨?_, hbody⟩
  rw [hrun, caseOf]
  dsimp only
  rw [if_pos hid]

/-- An accepted message was accepted by the decoder of the body. -/
theorem messageUnpack_eq_some {id : UInt16} {unpack : ℕ → Pull α} {mem : Memory} {length : ℕ}
    {a : α} (h : messageUnpack (caseOf id unpack) mem length = .ok (some a)) :
    ∃ pos last, unpack length mem pos = .ok (a, last) := by
  unfold messageUnpack at h
  split_ifs at h with hshort
  · cases h
  · obtain ⟨last, hrun⟩ := Pull.run_eq_some.mp h
    obtain ⟨header, pos, -, hbody⟩ := Pull.bind_eq_ok.mp hrun
    unfold caseOf at hbody
    split_ifs at hbody with hid
    · exact ⟨pos, last, hbody⟩
    · cases hbody

end Message

/-! ### Vendor extensions -/

/-- What the decoder of a configuration says about a vendor extension. -/
inductive VendorResult where
  | failed
  | decoded
  | unknown
  deriving DecidableEq, Repr

/-- The part of `nfapi_p4_p5_codec_config_t` that is for vendor extensions in a message, which are
values of a type of the vendor that begins with tag and length. -/
structure CodecConfig (V : Type) where
  packVendorExtensionTlv : Option (ℕ → V → Push Unit) := none
  unpackVendorExtensionTlv :
    Option (Tl → ℕ → Memory → Option V → ℕ → Outcome (VendorResult × Option V × ℕ)) := none

/-- `pack_vendor_extension_tlv`. -/
def packVendorExtensionTlv {V : Type} [Tagged V] (config : Option (CodecConfig V)) (limit : ℕ)
    (extension? : Option V) : Push Unit :=
  match extension?, config.bind CodecConfig.packVendorExtensionTlv with
  | some extension, some pack =>
    packTlv limit (Tagged.tl extension).tag (Tagged.tl extension) (pack limit extension)
  | _, _ => pure ()

/-! ### List decoders -/

section ListDecoders

variable {σ V : Type}

/-- An unknown field is passed over, together with its padding, if the message is long enough for
the field. The padding is not compared with the end of the message. -/
def skipUnknown (padding : UInt16 → ℕ) (limit : ℕ) (length : UInt16) : Fill σ :=
  (Fill.skip limit length.toNat).andThen (.advance (padding length))

/-- What `unpack_tlv_list` and `unpack_nr_tlv_list` do with a field that is not in their table. -/
def unknownTlv (padding : UInt16 → ℕ) (config : Option (CodecConfig V)) (limit : ℕ) :
    Unknown (σ × Option V) := fun rest badTags tl ↦
  let badTag : Fill (σ × Option V) :=
    if badTags + 1 > maxBadTag then .leave false
    else (skipUnknown padding limit tl.length).andThen (rest (badTags + 1))
  if vendorExtensionMinTagValue ≤ tl.tag then
    match config.bind CodecConfig.unpackVendorExtensionTlv with
    | none => rest badTags
    | some unpack => fun mem value pos ↦
      match unpack tl limit mem value.2 pos with
      | .ok (.failed, extension?, next) => .ok (false, (value.1, extension?), next)
      | .ok (.decoded, extension?, next) => rest badTags mem (value.1, extension?) next
      | .ok (.unknown, extension?, next) => badTag mem (value.1, extension?) next
      | .error cause => .error cause
  else badTag

/-- A table of the fields of a message, beside which there may be a vendor extension. -/
def withExtension (entries : List (Entry σ)) : List (Entry (σ × Option V)) :=
  entries.map fun entry ↦
    ⟨entry.tag, fun tl limit ↦
      .component Prod.fst (fun value part ↦ (part, value.2)) (entry.fill tl limit)⟩

/-- `unpack_tlv_list`. -/
def unpackTlvList (config : Option (CodecConfig V)) (entries : List (Entry σ)) (limit : ℕ) :
    Fill (σ × Option V) :=
  fillTlvList (unknownTlv (fun _ ↦ 0) config limit) (withExtension entries) limit

/-- `get_tlv_padding`. -/
def getTlvPadding (tlvLength : UInt16) : ℕ := (4 - tlvLength.toNat % 4) % 4

/-- `unpack_nr_tlv_list`. -/
def unpackNrTlvList (config : Option (CodecConfig V)) (entries : List (Entry σ)) (limit : ℕ) :
    Fill (σ × Option V) :=
  fillTlvList (unknownTlv getTlvPadding config limit)
    ((withExtension entries).map (Entry.padded getTlvPadding)) limit

variable {parts table : List (TlvPart σ)} {value target : σ} {config : Option (CodecConfig V)}
  {extension? : Option V}

/-- A part of the fields of a message, as a part of what is decoded. -/
def beside (part : TlvPart σ) : TlvPart (σ × Option V) :=
  part.inside Prod.fst fun pair first ↦ (first, pair.2)

theorem find_beside {part : TlvPart σ}
    (hfind : ((table.map TlvPart.entry).find? fun entry ↦ entry.tag == part.tag) =
      some part.entry) :
    ((withExtension (table.map TlvPart.entry) : List (Entry (σ × Option V))).find? fun entry ↦
      entry.tag == (beside part : TlvPart (σ × Option V)).tag) = some (beside part).entry := by
  unfold withExtension
  rw [List.find?_map]
  exact congrArg (Option.map _) hfind

/-- The fields that the table has are read, and no vendor extension. -/
theorem readsFields_withExtension (bytes : TlvPart (σ × Option V) → List UInt8)
    {entries : List (Entry (σ × Option V))}
    (hpart : ∀ part ∈ parts, ∀ target, (beside part : TlvPart (σ × Option V)).Clear target →
      ReadsFields (entries.map Entry.field) target (bytes (beside part))
        ((beside part).arrive (value, extension?) target))
    (hclear : ClearParts value parts target) :
    ReadsFields (entries.map Entry.field) (target, extension?)
      (parts.flatMap fun part ↦ bytes (beside part))
      (arriveParts parts value target, extension?) := by
  have hlifted : ClearParts (value, extension?)
      (parts.map (beside : TlvPart σ → TlvPart (σ × Option V))) (target, extension?) :=
    clearParts_fst hclear
  have hreads : ReadsFields (entries.map Entry.field) (target, extension?)
      ((parts.map beside).flatMap bytes)
      (arriveParts (parts.map beside) (value, extension?) (target, extension?)) :=
    readsFields_each (List.forall_mem_map.mpr hpart) hlifted
  rw [List.flatMap_map] at hreads
  have harrive : arriveParts (parts.map beside) (value, extension?) (target, extension?) =
      (arriveParts parts value target, extension?) := arriveParts_fst
  rwa [harrive] at hreads

/-- An LTE list decoder that ends behind the fields gets back those that it has a table for. -/
theorem unpackTlvList_parts
    (hfind : ∀ part ∈ parts,
      ((table.map TlvPart.entry).find? fun entry ↦ entry.tag == part.tag) = some part.entry)
    (hfits : PartsFit parts value) (hreturns : PartsReturn parts value)
    (hclear : ClearParts value parts target) {mem : Memory} {pos : ℕ}
    (hholds : Holds mem pos (partsBytes parts value)) :
    unpackTlvList config (table.map TlvPart.entry) (pos + (partsBytes parts value).length) mem
        (target, extension?) pos =
      .ok (true, (arriveParts parts value target, extension?),
        pos + (partsBytes parts value).length) := by
  apply fillTlvList_of_readsFields _ hholds
  exact readsFields_withExtension (fun part ↦
      tlvBytes part.tag (part.tl (value, extension?)) (part.bytes (value, extension?)))
    (fun part hpart _ hclear ↦ readsFields_part (find_beside (hfind part hpart))
      (hfits part hpart) (hreturns part hpart) hclear) hclear

/-- A field behind others at which the decoder ends the program. -/
theorem unpackTlvList_crash {part : TlvPart σ} {limit : ℕ} {cause : Crash}
    (hfind : ∀ part ∈ parts,
      ((table.map TlvPart.entry).find? fun entry ↦ entry.tag == part.tag) = some part.entry)
    (hfits : PartsFit parts value) (hreturns : PartsReturn parts value)
    (hclear : ClearParts value parts target)
    (hpart : ((table.map TlvPart.entry).find? fun entry ↦ entry.tag == part.tag) = some part.entry)
    {mem : Memory} {pos : ℕ}
    (hholds : Holds mem pos
      (partsBytes parts value ++ fieldBytes part.tag (part.bytes value)))
    (hlimit : pos + (partsBytes parts value ++
      fieldBytes part.tag (part.bytes value)).length ≤ limit)
    (hcrash : ∀ next, Holds mem next (part.bytes value) →
      next + (part.bytes value).length ≤ limit →
      part.fill ⟨part.tag, (part.bytes value).length.toUInt16⟩ limit mem
        (arriveParts parts value target) next = .error cause) :
    unpackTlvList config (table.map TlvPart.entry) limit mem (target, extension?) pos =
      .error cause := by
  have hfront := @readsFields_withExtension σ V parts value target extension?
    (fun part ↦ tlvBytes part.tag (part.tl (value, extension?)) (part.bytes (value, extension?)))
    (withExtension (table.map TlvPart.entry)) (fun part hpart _ hclear ↦
      readsFields_part (find_beside (hfind part hpart)) (hfits part hpart) (hreturns part hpart)
        hclear) hclear
  unfold fieldBytes at hholds hlimit
  rw [← List.append_assoc (bytes16 part.tag), ← List.append_assoc] at hholds hlimit
  rw [holds_append] at hholds
  have hfour : (bytes16 part.tag ++ bytes16 (part.bytes value).length.toUInt16).length = 4 := rfl
  rw [List.length_append, List.length_append, hfour, ← Nat.add_assoc] at hlimit
  rw [List.length_append, hfour, ← Nat.add_assoc] at hholds
  have hfill : Fill.component Prod.fst (fun (pair : σ × Option V) first ↦ (first, pair.2))
      (part.fill ⟨part.tag, (part.bytes value).length.toUInt16⟩ limit) mem
      (arriveParts parts value target, extension?) (pos + (partsBytes parts value).length + 4) =
        .error cause := component_crash (hcrash _ hholds.2 hlimit)
  exact fillTlvList_crash hfront (find_beside hpart) hholds.1 (Nat.le_of_add_right_le hlimit) hfill

/-- An NR list decoder does as well. -/
theorem unpackNrTlvList_parts
    (hfind : ∀ part ∈ parts,
      ((table.map TlvPart.entry).find? fun entry ↦ entry.tag == part.tag) = some part.entry)
    (hfits : PartsFit parts value) (hreturns : PartsReturn parts value)
    (hclear : ClearParts value parts target) {mem : Memory} {pos : ℕ}
    (hholds : Holds mem pos (paddedPartsBytes getTlvPadding parts value)) :
    unpackNrTlvList config (table.map TlvPart.entry)
        (pos + (paddedPartsBytes getTlvPadding parts value).length) mem (target, extension?) pos =
      .ok (true, (arriveParts parts value target, extension?),
        pos + (paddedPartsBytes getTlvPadding parts value).length) := by
  apply fillTlvList_of_readsFields _ hholds
  exact readsFields_withExtension (fun part ↦ paddedTlvBytes getTlvPadding part.tag
      (part.tl (value, extension?)) (part.bytes (value, extension?)))
    (fun part hpart _ hclear ↦ readsFields_paddedPart (find_beside (hfind part hpart))
      (hfits part hpart) (hreturns part hpart) hclear) hclear

end ListDecoders

end MultiUeProxy.P5.Message
