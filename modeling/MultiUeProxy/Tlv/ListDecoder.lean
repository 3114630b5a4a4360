import MultiUeProxy.Lib.Machine
import MultiUeProxy.P5.Message
import Mathlib.Data.Int.Notation

/-!
# The list decoders

`unpack_tlv_list`, `unpack_nr_tlv_list`, `unpack_p7_tlv_list` and `unpack_nr_p7_tlv_list` are one
machine. Its loop reads a tag and a length and goes through the whole table: every entry with the
tag decodes the field, one behind the other, and with NR each of them passes over its padding. A
field without an entry goes to the decoder for vendor extensions, or is a bad tag, which is passed
over if it is not one too many.

Neither the padding behind a field that was decoded nor that behind a bad tag is compared with the
end of the buffer.
-/

set_option autoImplicit false
set_option relaxedAutoImplicit false

namespace MultiUeProxy.Tlv.ListDecoder

open Lib.Execution Lib.ByteCursor Lib.InPlace Lib.Machine
open Lib.ByteCursor.Pull (Tl)
open P5.Message (VendorResult getTlvPadding)
open P7.Header (maxBadTag vendorExtensionMinTagValue)

/-- The four functions. -/
inductive Decoder where
  | unpackTlvList
  | unpackNrTlvList
  | unpackP7TlvList
  | unpackNrP7TlvList
  deriving DecidableEq, Repr

/-- The padding behind a field. -/
def Decoder.padding : Decoder → UInt16 → ℕ
  | .unpackTlvList, _ | .unpackP7TlvList, _ => 0
  | .unpackNrTlvList, length | .unpackNrP7TlvList, length => getTlvPadding length

theorem Decoder.padding_zero (decoder : Decoder) : decoder.padding 0 = 0 := by
  cases decoder with
  | unpackTlvList => rfl
  | unpackNrTlvList => rfl
  | unpackP7TlvList => rfl
  | unpackNrP7TlvList => rfl

/-- What is returned when there were too many bad tags. -/
def Decoder.tooManyBadTags : Decoder → ℤ
  | .unpackTlvList | .unpackNrTlvList => 0
  | .unpackP7TlvList | .unpackNrP7TlvList => -1

/-- An entry of a table: the decoder of a structure that begins with tag and length, for the fields
with a tag. -/
structure Unpacker (σ : Type) where
  tag : UInt16
  tl : σ → Tl
  setTl : σ → Tl → σ
  unpackFunc : ℕ → Fill σ

/-- The arguments of a call. There may be a decoder for vendor extensions. -/
structure Call (σ : Type) where
  decoder : Decoder
  unpackFns : List (Unpacker σ)
  unpackVendorExtensionTlv :
    Option (Tl → ℕ → Memory → σ → ℕ → Outcome (VendorResult × σ × ℕ))
  mem : Memory
  limit : ℕ

/-- Where a decoder is: in front of the loop, within the inner loop, at a bad tag, or behind. -/
inductive Control (σ : Type) where
  | loop
  | entries (genericTl : Tl) (tagMatch : Bool) (unpackFns : List (Unpacker σ))
  | badTag (genericTl : Tl)
  | returned (result : ℤ)

structure State (σ : Type) where
  control : Control σ
  numBadTags : ℕ
  value : σ
  pos : ℕ

/-- A decoder is called with a structure and a cursor. -/
def State.start {σ : Type} (value : σ) (pos : ℕ) : State σ := ⟨.loop, 0, value, pos⟩

/-- `unpack_tl`, with the place where it stops. -/
def unpackTl (limit : ℕ) (mem : Memory) (pos : ℕ) : Outcome (Option Tl × ℕ) :=
  match Pull.pull16 limit mem pos with
  | .ok (tag, next) =>
    match Pull.pull16 limit mem next with
    | .ok (length, last) => .ok (some ⟨tag, length⟩, last)
    | .error .reject => .ok (none, next)
    | .error (.crash cause) => .error cause
  | .error .reject => .ok (none, pos)
  | .error (.crash cause) => .error cause

namespace Call

variable {σ : Type} (call : Call σ)

/-- An entry of the table looks at a field. -/
def tryEntry (genericTl : Tl) (tagMatch : Bool) (entry : Unpacker σ) (rest : List (Unpacker σ))
    (s : State σ) : Outcome (Option (State σ)) :=
  if entry.tag = genericTl.tag then
    match entry.unpackFunc call.limit call.mem (entry.setTl s.value genericTl) s.pos with
    | .ok (true, value, next) =>
      -- a length that is not what was read only leaves a message
      .ok (some { s with
        control := .entries genericTl true rest
        value
        pos := next + call.decoder.padding (entry.tl value).length })
    | .ok (false, value, next) => .ok (some { s with control := .returned 0, value, pos := next })
    | .error cause => .error cause
  else .ok (some { s with control := .entries genericTl tagMatch rest })

/-- The table is through. -/
def noEntry (genericTl : Tl) (tagMatch : Bool) (s : State σ) : Outcome (Option (State σ)) :=
  if tagMatch then .ok (some { s with control := .loop })
  else if vendorExtensionMinTagValue ≤ genericTl.tag then
    match call.unpackVendorExtensionTlv with
    | none => .ok (some { s with control := .loop })
    | some unpack =>
      match unpack genericTl call.limit call.mem s.value s.pos with
      | .ok (.failed, value, next) =>
        .ok (some { s with control := .returned 0, value, pos := next })
      | .ok (.decoded, value, next) => .ok (some { s with control := .loop, value, pos := next })
      | .ok (.unknown, value, next) =>
        .ok (some { s with control := .badTag genericTl, value, pos := next })
      | .error cause => .error cause
  else .ok (some { s with control := .badTag genericTl })

/-- A field is passed over by its length. -/
def passOver (genericTl : Tl) (s : State σ) : State σ :=
  if s.numBadTags + 1 > maxBadTag then
    { s with
      control := .returned call.decoder.tooManyBadTags
      numBadTags := s.numBadTags + 1 }
  else if s.pos + genericTl.length.toNat ≤ call.limit then
    { s with
      control := .loop
      numBadTags := s.numBadTags + 1
      pos := s.pos + (genericTl.length.toNat + call.decoder.padding genericTl.length) }
  else { s with control := .returned 0, numBadTags := s.numBadTags + 1 }

/-- One step of the decoder. -/
def step (s : State σ) : Outcome (Option (State σ)) :=
  match s.control with
  | .loop =>
    if s.pos < call.limit then
      match unpackTl call.limit call.mem s.pos with
      | .ok (some genericTl, next) =>
        .ok (some { s with control := .entries genericTl false call.unpackFns, pos := next })
      | .ok (none, next) => .ok (some { s with control := .returned 0, pos := next })
      | .error cause => .error cause
    else .ok (some { s with control := .returned 1 })
  | .entries genericTl tagMatch (entry :: rest) => call.tryEntry genericTl tagMatch entry rest s
  | .entries genericTl tagMatch [] => call.noEntry genericTl tagMatch s
  | .badTag genericTl => .ok (some (call.passOver genericTl s))
  | .returned _ => .ok none

/-- The states of a call. -/
def Comes (value : σ) (pos : ℕ) (s : State σ) : Prop := Reaches call.step (.start value pos) s

end Call

end MultiUeProxy.Tlv.ListDecoder
