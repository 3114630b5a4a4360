import MultiUeProxy.P5.Message

/-!
# Messages with a vendor extension

A message may end with a field that only the configuration of the codec can write and read. If that
gives back what it has written (`Conveys`), a list decoder reads the fields of a message and the
extension behind them (`unpackTlvList_message`).
-/

set_option autoImplicit false
set_option relaxedAutoImplicit false

namespace MultiUeProxy.P5.Message

open Lib.Execution Lib.ByteCursor Lib.ByteWriter Lib.Codec Lib.TlvCodec Lib.InPlace Lib.TaggedParts
open Lib.ByteCursor.Pull (Tl)
open P7.Header (vendorExtensionMinTagValue)

variable {σ V : Type} [Tagged V] {config : Option (CodecConfig V)} {extension : V}
  {extension? : Option V} {bytes : List UInt8}

/-- The configuration writes an extension, and reads it back. -/
structure Conveys (config : Option (CodecConfig V)) (extension : V) (bytes : List UInt8) : Prop where
  vendorTag : vendorExtensionMinTagValue ≤ (Tagged.tl extension).tag
  written : ∃ pack, config.bind CodecConfig.packVendorExtensionTlv = some pack ∧
    ∀ limit, Emits limit (pack limit extension) bytes
  restored : ∃ unpack, config.bind CodecConfig.unpackVendorExtensionTlv = some unpack ∧
    ∀ limit mem pos, Holds mem pos bytes → pos + bytes.length ≤ limit →
      unpack ⟨(Tagged.tl extension).tag, bytes.length.toUInt16⟩ limit mem none pos =
        .ok (.decoded, some extension, pos + bytes.length)

/-- The field of a vendor extension, if there is one. -/
inductive ExtensionField (config : Option (CodecConfig V)) : Option V → List UInt8 → Prop where
  | absent : ExtensionField config none []
  | present {extension : V} {bytes : List UInt8} (h : Conveys config extension bytes) :
    ExtensionField config (some extension) (fieldBytes (Tagged.tl extension).tag bytes)

/-- A message has no vendor extension, or one that the configuration gives back. -/
def ExtensionReturns (config : Option (CodecConfig V)) (extension? : Option V) : Prop :=
  ∃ bytes, ExtensionField config extension? bytes

theorem emits_packVendorExtensionTlv {limit : ℕ} (h : ExtensionField config extension? bytes) :
    Emits limit (packVendorExtensionTlv config limit extension?) bytes := by
  cases h with
  | absent => exact (inferInstance : Emits limit (pure ()) [])
  | present h =>
    obtain ⟨pack, hpack, hemits⟩ := h.written
    unfold packVendorExtensionTlv
    rw [hpack, ← tlvBytes_of_tag rfl]
    exact emits_packTlv fun _ ↦ hemits limit

section List

variable {parts table : List (TlvPart σ)} {value target : σ}

/-- The loop at the field of the extension. -/
theorem fillTlvLoop_extension {entries : List (Entry (σ × Option V))} {limit bound : ℕ}
    (hconveys : Conveys config extension bytes)
    (hentries : ∀ entry ∈ entries, entry.tag < vendorExtensionMinTagValue) {mem : Memory} {pos : ℕ}
    (hholds : Holds mem pos (fieldBytes (Tagged.tl extension).tag bytes))
    (hlimit : pos + (fieldBytes (Tagged.tl extension).tag bytes).length = limit)
    (hbound : limit - pos < bound) :
    fillTlvLoop (unknownTlv (fun _ ↦ 0) config limit) entries limit bound 0 mem (value, none) pos =
      .ok (true, (value, some extension), limit) := by
  obtain ⟨unpack, hunpack, hrestored⟩ := hconveys.restored
  rw [length_fieldBytes] at hlimit
  unfold fieldBytes at hholds
  rw [← List.append_assoc, holds_append] at hholds
  have hfour : (bytes16 (Tagged.tl extension).tag ++ bytes16 bytes.length.toUInt16).length = 4 := rfl
  rw [hfour] at hholds
  have htl := reads_unpackTl limit ⟨(Tagged.tl extension).tag, bytes.length.toUInt16⟩ mem pos
    hholds.1 (by rw [hfour]; omega)
  have hfind : (entries.find? fun entry ↦ entry.tag == (Tagged.tl extension).tag) = none := by
    apply List.find?_eq_none.mpr
    intro entry hentry heq
    have hlow := hentries entry hentry
    rw [beq_iff_eq.mp heq] at hlow
    exact UInt16.not_lt.mpr hconveys.vendorTag hlow
  obtain ⟨bound, rfl⟩ := Nat.exists_eq_add_of_lt hbound
  have hafter := hrestored limit mem (pos + 4) hholds.2 (by omega)
  have hlast : pos + 4 + bytes.length = limit := by omega
  rw [fillTlvLoop_unknown (by omega) htl hfind]
  unfold unknownTlv
  rw [if_pos hconveys.vendorTag, hunpack]
  dsimp only
  rw [hfour, hafter, hlast]
  have hmore : limit - pos + bound = limit - pos - 1 + bound + 1 := by omega
  rw [hmore]
  exact fillTlvLoop_done (Nat.lt_irrefl _)

/-- A list decoder that ends behind the fields and the vendor extension gets both back. -/
theorem unpackTlvList_message
    (hfind : ∀ part ∈ parts,
      ((table.map TlvPart.entry).find? fun entry ↦ entry.tag == part.tag) = some part.entry)
    (htable : ∀ part ∈ table, part.tag < vendorExtensionMinTagValue)
    (hfits : PartsFit parts value) (hreturns : PartsReturn parts value)
    (hclear : ClearParts value parts target) (hextension : ExtensionField config extension? bytes)
    {mem : Memory} {pos : ℕ} (hholds : Holds mem pos (partsBytes parts value ++ bytes)) :
    unpackTlvList config (table.map TlvPart.entry)
        (pos + (partsBytes parts value ++ bytes).length) mem (target, none) pos =
      .ok (true, (arriveParts parts value target, extension?),
        pos + (partsBytes parts value ++ bytes).length) := by
  cases hextension with
  | absent =>
    rw [List.append_nil] at hholds ⊢
    exact unpackTlvList_parts hfind hfits hreturns hclear hholds
  | present hconveys =>
    rw [holds_append] at hholds
    have hfront := @readsFields_withExtension σ V parts value target none
      (fun part ↦ tlvBytes part.tag (part.tl (value, none)) (part.bytes (value, none)))
      (withExtension (table.map TlvPart.entry)) (fun part hpart _ hclear ↦
        readsFields_part (find_beside (hfind part hpart)) (hfits part hpart) (hreturns part hpart)
          hclear) hclear
    have hentries : ∀ entry ∈ (withExtension (table.map TlvPart.entry) :
        List (Entry (σ × Option V))), entry.tag < vendorExtensionMinTagValue := by
      intro entry hentry
      obtain ⟨base, hbase, rfl⟩ := List.mem_map.mp hentry
      obtain ⟨part, hpart, rfl⟩ := List.mem_map.mp hbase
      exact htable part hpart
    rw [List.length_append, ← Nat.add_assoc]
    apply fillTlvList_behind hfront hholds.1 (Nat.le_add_right _ _)
    intro bound hbound
    exact fillTlvLoop_extension hconveys hentries hholds.2 rfl hbound

end List

end MultiUeProxy.P5.Message
