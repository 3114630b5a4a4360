import MultiUeProxy.Tlv.Resync

/-!
# A packed field, read back

`pack_tlv` and `pack_nr_tlv` write a tag and a length that is not known yet, call the packer of the
value, and write the header again. With NR there is padding behind the value, for which nobody looks
at the room that is left. So a field that does not fit is refused, unless it is only its padding
that does not fit; and the length is a number of 16 bits.

A field that was packed whole is a `Frame`, and the list decoder with an entry for it reads its
value and goes on behind it (`readsBack`).
-/

set_option autoImplicit false
set_option relaxedAutoImplicit false

namespace MultiUeProxy.Tlv.PackTlv

open Lib.Execution Lib.ByteCursor Lib.ByteWriter Lib.Codec Lib.TlvCodec Lib.InPlace Lib.Machine
open Lib.ByteCursor.Pull (Tl)
open Lib.ByteWriter.Push (position)
open P5.Message (getTlvPadding)
open ListDecoder Resync

/-- The packer whose fields a list decoder reads: `pack_tlv` or `pack_nr_tlv`. -/
def packTlvFor (decoder : Decoder) (limit : ℕ) (tag : UInt16) (tl : Tl) (value : Push Unit) :
    Push Unit :=
  match decoder with
  | .unpackTlvList | .unpackP7TlvList => packTlv limit tag tl value
  | .unpackNrTlvList | .unpackNrP7TlvList => packPaddedTlv getTlvPadding limit tag tl value

/-! ### Packers that stay within their buffer -/

/-- A packer does not write behind the end. -/
def StaysBelow {α : Type} (limit : ℕ) (x : Push α) : Prop :=
  ∀ out, out.length ≤ limit → (x out).2.length ≤ limit

section StaysBelow

variable {α β : Type} {limit : ℕ}

theorem staysBelow_pushBytes (bytes : List UInt8) : StaysBelow limit (.pushBytes limit bytes) := by
  intro out hout
  unfold Push.pushBytes
  split_ifs with hroom
  · rwa [List.length_append]
  · exact hout

theorem StaysBelow.bind {x : Push α} {f : α → Push β} (hx : StaysBelow limit x)
    (hf : ∀ a, StaysBelow limit (f a)) : StaysBelow limit (x >>= f) := by
  intro out hout
  have hnext := hx out hout
  rw [Push.bind_apply]
  rcases hrun : x out with ⟨result, next⟩
  rw [hrun] at hnext
  cases result with
  | ok a => exact hf a next hnext
  | error stop => exact hnext

theorem staysBelow_packTl (tl : Tl) : StaysBelow limit (packTl limit tl) :=
  (staysBelow_pushBytes _).bind fun _ ↦ staysBelow_pushBytes _

end StaysBelow

/-! ### What is written -/

section Written

variable {limit : ℕ} {tag : UInt16} {tl : Tl} {value : Push Unit} {bytes out : List UInt8}

theorem position_apply (out : List UInt8) : position out = (.ok out.length, out) := rfl

/-- A field without room for its header and its value is refused. -/
theorem packTlv_of_no_room (htag : tl.tag = tag) (hvalue : Emits limit value bytes)
    (hbelow : StaysBelow limit value) (hout : out.length ≤ limit)
    (hroom : ¬ out.length + (4 + bytes.length) ≤ limit) :
    ∃ next, packTlv limit tag tl value out = (.error .reject, next) ∧ next.length ≤ limit := by
  have hfront : Emits limit (packTl limit tl) (bytes16 tl.tag ++ bytes16 tl.length) := by
    unfold packTl
    infer_instance
  have hlength : (bytes16 tl.tag ++ bytes16 tl.length).length = 4 := rfl
  unfold packTlv patched
  rw [if_pos htag, Push.bind_of_ok (position_apply out)]
  by_cases hheader : out.length + (bytes16 tl.tag ++ bytes16 tl.length).length ≤ limit
  · have hnext : (out ++ (bytes16 tl.tag ++ bytes16 tl.length)).length ≤ limit := by
      rwa [List.length_append]
    rw [Push.bind_of_ok (hfront.writes.of_room hheader)]
    obtain ⟨next, hrefused⟩ := hvalue.writes.of_no_room hnext (by
      rw [List.length_append, hlength]
      omega)
    have hwritten := hbelow _ hnext
    rw [hrefused] at hwritten
    rw [Push.bind_of_error hrefused]
    exact ⟨next, rfl, hwritten⟩
  · obtain ⟨next, hrefused⟩ := hfront.writes.of_no_room hout hheader
    have hwritten := staysBelow_packTl tl out hout
    rw [hrefused] at hwritten
    rw [Push.bind_of_error hrefused]
    exact ⟨next, rfl, hwritten⟩

theorem packTlv_of_room (htag : tl.tag = tag) (hvalue : Emits limit value bytes)
    (hroom : out.length + (4 + bytes.length) ≤ limit) :
    packTlv limit tag tl value out = (.ok (), out ++ fieldBytes tag bytes) := by
  have hfield : Emits limit (packTlv limit tag tl value) (tlvBytes tag tl bytes) :=
    emits_packTlv fun _ ↦ hvalue
  rw [tlvBytes_of_tag htag] at hfield
  apply hfield.writes.of_room
  rwa [length_fieldBytes]

theorem packPaddedTlv_of_reject {next : List UInt8} (htag : tl.tag = tag)
    (h : packTlv limit tag tl value out = (.error .reject, next)) :
    packPaddedTlv getTlvPadding limit tag tl value out = (.error .reject, next) := by
  unfold packPaddedTlv
  rw [if_pos htag, Push.bind_of_ok (position_apply out), Push.bind_of_error h]

/-- Behind a field, zeros are written if they fit. Otherwise they are written behind the end. -/
theorem packPaddedTlv_of_ok (htag : tl.tag = tag)
    (h : packTlv limit tag tl value out = (.ok (), out ++ fieldBytes tag bytes)) :
    packPaddedTlv getTlvPadding limit tag tl value out =
      if out.length + (4 + bytes.length) + getTlvPadding bytes.length.toUInt16 ≤ limit then
        (.ok (), out ++ fieldBytes tag bytes ++
          List.replicate (getTlvPadding bytes.length.toUInt16) 0)
      else (.error (.crash .fault), out ++ fieldBytes tag bytes) := by
  have hwritten : (out ++ fieldBytes tag bytes).length = out.length + (4 + bytes.length) := by
    rw [List.length_append, length_fieldBytes]
  have hlength : (out ++ fieldBytes tag bytes).length - out.length - 4 = bytes.length := by
    omega
  unfold packPaddedTlv
  rw [if_pos htag, Push.bind_of_ok (position_apply out), Push.bind_of_ok h,
    Push.bind_of_ok (position_apply _), hlength]
  unfold pushZeros
  rw [hwritten]

/-- The bytes of a field with its padding. -/
def paddedBytes (decoder : Decoder) (tag : UInt16) (bytes : List UInt8) : List UInt8 :=
  fieldBytes tag bytes ++ List.replicate (decoder.padding bytes.length.toUInt16) 0

theorem length_paddedBytes (decoder : Decoder) :
    (paddedBytes decoder tag bytes).length =
      4 + bytes.length + decoder.padding bytes.length.toUInt16 := by
  unfold paddedBytes
  rw [List.length_append, List.length_replicate, length_fieldBytes]

/-- A field with room for its header and its value is written, with its padding. -/
theorem packTlvFor_of_room (decoder : Decoder) (htag : tl.tag = tag)
    (hvalue : Emits limit value bytes) (hroom : out.length + (4 + bytes.length) ≤ limit) :
    packTlvFor decoder limit tag tl value out =
      if out.length + (paddedBytes decoder tag bytes).length ≤ limit then
        (.ok (), out ++ paddedBytes decoder tag bytes)
      else (.error (.crash .fault), out ++ fieldBytes tag bytes) := by
  have hfield := packTlv_of_room htag hvalue hroom
  have hpadded := packPaddedTlv_of_ok htag hfield
  cases decoder with
  | unpackTlvList =>
    have hbytes : paddedBytes .unpackTlvList tag bytes = fieldBytes tag bytes := List.append_nil _
    exact hfield.trans (by rw [hbytes, length_fieldBytes, if_pos hroom])
  | unpackP7TlvList =>
    have hbytes : paddedBytes .unpackP7TlvList tag bytes = fieldBytes tag bytes :=
      List.append_nil _
    exact hfield.trans (by rw [hbytes, length_fieldBytes, if_pos hroom])
  | unpackNrTlvList =>
    exact hpadded.trans (by rw [length_paddedBytes, Nat.add_assoc, List.append_assoc]; rfl)
  | unpackNrP7TlvList =>
    exact hpadded.trans (by rw [length_paddedBytes, Nat.add_assoc, List.append_assoc]; rfl)

theorem packTlvFor_of_no_room (decoder : Decoder) (htag : tl.tag = tag)
    (hvalue : Emits limit value bytes) (hbelow : StaysBelow limit value) (hout : out.length ≤ limit)
    (hroom : ¬ out.length + (4 + bytes.length) ≤ limit) :
    ∃ next, packTlvFor decoder limit tag tl value out = (.error .reject, next) ∧
      next.length ≤ limit := by
  obtain ⟨next, hrefused, hnext⟩ := packTlv_of_no_room htag hvalue hbelow hout hroom
  refine ⟨next, ?_, hnext⟩
  cases decoder with
  | unpackTlvList => exact hrefused
  | unpackP7TlvList => exact hrefused
  | unpackNrTlvList => exact packPaddedTlv_of_reject htag hrefused
  | unpackNrP7TlvList => exact packPaddedTlv_of_reject htag hrefused

end Written

/-! ### What is read back -/

/-- A list decoder that has one entry for the field, which decodes the value, comes to the end of
the field with what was decoded. -/
def ReadsBack {decoder : Decoder} (frame : Frame decoder) : Prop :=
  ∀ (σ : Type) (call : Call σ) (entry : Unpacker σ) (value value' : σ) (pos : ℕ),
    call.decoder = decoder →
    (call.unpackFns.filter fun entry ↦ entry.tag == frame.tag) = [entry] →
    Holds call.mem pos frame.bytes → pos + frame.size ≤ call.limit →
    Fills call.limit (entry.unpackFunc call.limit) (entry.setTl value frame.tl) frame.value value' →
    (entry.tl value').length = frame.tl.length →
    call.Comes value pos ⟨.loop, 0, value', pos + frame.size⟩

section ReadsBack

variable {σ : Type} {call : Call σ}

/-- Entries with other tags do not matter. -/
theorem decodeEntries_filter (genericTl : Tl) (entries : List (Unpacker σ)) (value : σ) (pos : ℕ) :
    decodeEntries call genericTl (entries.filter fun entry ↦ entry.tag == genericTl.tag) value pos =
      decodeEntries call genericTl entries value pos := by
  induction entries generalizing value pos with
  | nil => rfl
  | cons entry rest ih =>
    by_cases htag : entry.tag = genericTl.tag
    · have hbeq : (entry.tag == genericTl.tag) = true := beq_iff_eq.mpr htag
      rw [List.filter_cons, if_pos hbeq, decodeEntries, decodeEntries, if_pos htag, if_pos htag]
      split
      · exact ih _ _
      · rfl
    · have hbeq : ¬ (entry.tag == genericTl.tag) = true := mt beq_iff_eq.mp htag
      rw [List.filter_cons, if_neg hbeq, decodeEntries, if_neg htag]
      exact ih value pos

theorem readsBack {decoder : Decoder} (frame : Frame decoder) : ReadsBack frame := by
  intro σ call entry value value' pos hdecoder honly hholds hlimit hfills hlength
  subst hdecoder
  have hmem : entry ∈ call.unpackFns.filter fun entry ↦ entry.tag == frame.tag := by
    rw [honly]
    exact List.mem_singleton_self entry
  obtain ⟨hentry, htag⟩ := List.mem_filter.mp hmem
  have hvalue : Holds call.mem (pos + 4) frame.value :=
    (holds_append.mp (holds_append.mp hholds).1).2
  have hroom : pos + 4 + frame.value.length ≤ call.limit := by
    unfold Frame.size at hlimit
    omega
  have hdecode : decodeEntries call frame.tl call.unpackFns value (pos + 4) =
      some (value', pos + frame.size) := by
    have honly' : (call.unpackFns.filter fun entry ↦ entry.tag == frame.tl.tag) = [entry] := honly
    rw [← decodeEntries_filter, honly',
      decodeEntries_one (beq_iff_eq.mp htag) (hfills call.mem (pos + 4) hvalue hroom), hlength,
      frame.size_eq, frame.toNat_length]
    simp only [Nat.add_assoc]
  have hany : hasTag frame.tl call.unpackFns = true :=
    List.any_eq_true.mpr ⟨entry, hentry, htag⟩
  have hstep := @step_of_frame σ call (.start value pos) frame rfl hholds hlimit
  have hloop : loopFrom call { State.start value pos with
      control := .entries frame.tl false call.unpackFns
      pos := pos + 4 } = some ⟨.loop, 0, value', pos + frame.size⟩ := by
    apply Option.bind_eq_some_iff.mpr
    refine ⟨_, hdecode, ?_⟩
    rw [hany]
    rfl
  exact (comesAfter_loopFrom (ReachesAfter.refl.next hstep) hloop).reaches

end ReadsBack

/-! ### The packer and the list decoder -/

/-- A field with zeros as its padding. -/
def packedFrame (decoder : Decoder) (tag : UInt16) (bytes : List UInt8) (h : bytes.length < 65536) :
    Frame decoder where
  tag
  value := bytes
  padding := List.replicate (decoder.padding bytes.length.toUInt16) 0
  length_value := h
  length_padding := List.length_replicate

theorem bytes_packedFrame {decoder : Decoder} {tag : UInt16} {bytes : List UInt8}
    (h : bytes.length < 65536) :
    (packedFrame decoder tag bytes h).bytes = paddedBytes decoder tag bytes := by
  unfold Frame.bytes paddedBytes fieldBytes
  simp only [List.append_assoc]
  rfl

/-- Nothing is written behind the end. A field that does not fit is refused, and one that fits is
written with the length that its value has, so that it is read back. -/
def PackExact (decoder : Decoder) (limit : ℕ) (tag : UInt16) (tl : Tl) (value : Push Unit)
    (bytes out : List UInt8) : Prop :=
  ∃ result written, packTlvFor decoder limit tag tl value out = (result, written) ∧
    written.length ≤ limit ∧
    ((result = .error .reject ∧
        limit < out.length + (4 + bytes.length + decoder.padding bytes.length.toUInt16)) ∨
      (result = .ok () ∧ ∃ frame : Frame decoder, frame.tag = tag ∧ frame.value = bytes ∧
        written = out ++ frame.bytes ∧ ReadsBack frame))

/-- A field is packed and read back right exactly if its value is not longer than a length can say,
and if there is room for the padding as well, or not even for the value. -/
theorem packExact_iff {decoder : Decoder} {limit : ℕ} {tag : UInt16} {tl : Tl} {value : Push Unit}
    {bytes out : List UInt8} (htag : tl.tag = tag) (hvalue : Emits limit value bytes)
    (hbelow : StaysBelow limit value) (hout : out.length ≤ limit) :
    PackExact decoder limit tag tl value bytes out ↔
      (out.length + (4 + bytes.length) ≤ limit → bytes.length < 65536 ∧
        out.length + (4 + bytes.length + decoder.padding bytes.length.toUInt16) ≤ limit) := by
  constructor
  · rintro ⟨result, written, hrun, hwritten, hresult⟩ hroom
    rw [packTlvFor_of_room decoder htag hvalue hroom, length_paddedBytes] at hrun
    split_ifs at hrun with hpadded
    · obtain ⟨rfl, rfl⟩ := Prod.mk.inj hrun
      rcases hresult with ⟨hrefused, -⟩ | ⟨-, frame, -, hbytes, -⟩
      · cases hrefused
      · exact ⟨hbytes ▸ frame.length_value, hpadded⟩
    · obtain ⟨rfl, rfl⟩ := Prod.mk.inj hrun
      rcases hresult with ⟨hrefused, -⟩ | ⟨hok, -⟩
      · cases hrefused
      · cases hok
  · intro hfits
    by_cases hroom : out.length + (4 + bytes.length) ≤ limit
    · obtain ⟨hlength, hpadded⟩ := hfits hroom
      have hrun := packTlvFor_of_room decoder htag hvalue hroom
      rw [length_paddedBytes, if_pos hpadded] at hrun
      refine ⟨_, _, hrun, ?_, .inr ⟨rfl, packedFrame decoder tag bytes hlength, rfl, rfl, ?_,
        readsBack _⟩⟩
      · rwa [List.length_append, length_paddedBytes]
      · rw [bytes_packedFrame]
    · obtain ⟨next, hrun, hnext⟩ :=
        packTlvFor_of_no_room decoder htag hvalue hbelow hout hroom
      exact ⟨_, _, hrun, hnext, .inl ⟨rfl, by omega⟩⟩

/-- One byte, with room for its padding. -/
theorem packExact_oneByte :
    PackExact .unpackNrTlvList 8 1 { tag := 1 } (.push8 8 7) [7] [] := by
  have htag : ({ tag := 1 } : Tl).tag = 1 := rfl
  have hvalue : Emits 8 (Push.push8 8 7) [7] := inferInstance
  have hbelow : StaysBelow 8 (Push.push8 8 7) := staysBelow_pushBytes _
  apply (packExact_iff htag hvalue hbelow (Nat.zero_le _)).mpr
  intro _
  constructor
  · decide
  · decide

/-- One byte, with room for itself alone: its padding is written behind the end. -/
theorem padding_past_end :
    ¬ ∀ (decoder : Decoder) (limit : ℕ) (tag : UInt16) (tl : Tl) (value : Push Unit)
      (bytes out : List UInt8), tl.tag = tag → Emits limit value bytes → StaysBelow limit value →
        out.length ≤ limit → PackExact decoder limit tag tl value bytes out := by
  intro hall
  obtain ⟨result, written, hrun, -, hresult⟩ := hall .unpackNrTlvList 5 1 { tag := 1 }
    (.push8 5 7) [7] [] rfl inferInstance (staysBelow_pushBytes _) (by decide)
  have hfault : (packTlvFor .unpackNrTlvList 5 1 { tag := 1 } (.push8 5 7) []).1 =
      .error (.crash .fault) := rfl
  rw [hrun] at hfault
  rcases hresult with ⟨hrefused, -⟩ | ⟨hok, -⟩
  · cases hrefused.symm.trans hfault
  · cases hok.symm.trans hfault

end MultiUeProxy.Tlv.PackTlv
