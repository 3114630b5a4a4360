import Mathlib.Logic.Function.Basic
import MultiUeProxy.Lib.TaggedParts

/-!
# Structures that are tables of tagged fields

A message with dozens of optional fields is a record: a tagged field under each name. An encoder
goes through a list of the names and a decoder has a table of them (`slot` is the part of the record
under a name). With different names and different tags, `arriveParts_slots` says what comes over,
name by name, and `find_slot` that the decoder finds a field whose name is in its table.
-/

set_option autoImplicit false
set_option relaxedAutoImplicit false

namespace MultiUeProxy.Lib.TlvRecord

open Execution ByteCursor ByteWriter Codec TlvCodec InPlace TaggedParts
open ByteCursor.Pull (Tl)

/-- A tagged field that holds one value. -/
structure Tlv (α : Type) where
  tl : Tl := {}
  value : α
  deriving DecidableEq, Repr

instance {α : Type} [Inhabited α] : Tagged (Tlv α) :=
  ⟨Tlv.tl, fun field tl ↦ { field with tl }, { value := default }⟩

/-- A tagged field with the codec of its value. -/
def tlvCodec {α : Type} [Inhabited α] (tag : UInt16) (codec : ValueCodec α) :
    FieldCodec (Tlv α) where
  tag
  pack limit field := codec.pack limit field.value
  unpack _ limit := .component Tlv.value (fun field value ↦ { field with value }) (codec.fill limit)
  bytes field := codec.bytes field.value
  Fits field := codec.Fits field.value
  Returns field := codec.Returns field.value
  written field limit hfits := codec.written field.value limit hfits
  restored field limit hfits hreturns := by
    have hfield (tl : Tl) : Fills limit
        (.component Tlv.value (fun field value ↦ { field with value }) (codec.fill limit))
        (⟨tl, default⟩ : Tlv α) (codec.bytes field.value) ⟨tl, field.value⟩ :=
      Fills.component (codec.restored field.value limit hfits hreturns)
    exact hfield _
  within _ limit := by
    have := codec.within limit
    infer_instance

theorem tlvCodec_crash {α : Type} [Inhabited α] {tag : UInt16} {codec : ValueCodec α} {tl : Tl}
    {limit : ℕ} {mem : Memory} {field : Tlv α} {pos : ℕ} {cause : Crash}
    (h : codec.fill limit mem field.value pos = .error cause) :
    (tlvCodec tag codec).unpack tl limit mem field pos = .error cause :=
  @component_crash _ _ field (codec.fill limit) Tlv.value
    (fun field value ↦ { field with value }) mem pos cause h

/-- On both sides the field is there or it is absent, and if it is there, its value is the same. -/
def SameField {α : Type} (tag : UInt16) (sent received : Tlv α) : Prop :=
  (received.tl.tag = tag ↔ sent.tl.tag = tag) ∧ (sent.tl.tag = tag → received.value = sent.value)

/-- A field that comes over as `sent` says is the same field, unless absent fields have its tag. -/
theorem sameField_sent {α : Type} [Inhabited α] {tag : UInt16} (htag : (0 : UInt16) ≠ tag)
    (bytes : Tlv α → List UInt8) (field : Tlv α) : SameField tag field (sent tag bytes field) := by
  unfold SameField sent
  by_cases h : (Tagged.tl field).tag = tag
  · rw [if_pos h]
    exact ⟨⟨fun _ ↦ h, fun _ ↦ rfl⟩, fun _ ↦ rfl⟩
  · rw [if_neg h]
    exact ⟨⟨fun hzero ↦ absurd hzero htag, fun hfield ↦ absurd hfield h⟩,
      fun hfield ↦ absurd hfield h⟩

/-- A field that the other side never fills in. -/
theorem sameField_absent {α : Type} [Inhabited α] {tag : UInt16} (htag : (0 : UInt16) ≠ tag)
    (field : Tlv α) : SameField tag field Tagged.absent ↔ field.tl.tag ≠ tag := by
  constructor
  · intro hsame htl
    exact htag (hsame.1.mpr htl)
  · intro hne
    exact ⟨⟨fun hzero ↦ absurd hzero htag, fun htl ↦ absurd htl hne⟩, fun htl ↦ absurd htl hne⟩

section Record

variable {ι : Type} [DecidableEq ι] {τ : ι → Type} [∀ name, Tagged (τ name)]
  {codec : (name : ι) → FieldCodec (τ name)} {names table : List ι}
  {record target : (name : ι) → τ name}

/-- A record in which all fields are absent. -/
def blank : (name : ι) → τ name := fun _ ↦ Tagged.absent

/-- The field under a name. -/
def slot (codec : (name : ι) → FieldCodec (τ name)) (name : ι) : TlvPart ((name : ι) → τ name) :=
  .of (codec name) (fun record ↦ record name) fun record field ↦ Function.update record name field

def slots (codec : (name : ι) → FieldCodec (τ name)) (names : List ι) :
    List (TlvPart ((name : ι) → τ name)) :=
  names.map (slot codec)

/-- A field on the other side. -/
def carriedField (codec : (name : ι) → FieldCodec (τ name)) (record : (name : ι) → τ name)
    (name : ι) : τ name :=
  if (Tagged.tl (record name)).tag = (codec name).tag then
    Tagged.setTl ((codec name).carried (record name))
      ⟨(codec name).tag, ((codec name).bytes (record name)).length.toUInt16⟩
  else Tagged.absent

theorem arrive_slot (name : ι) :
    (slot codec name).arrive record target =
      Function.update target name (carriedField codec record name) := rfl

/-- What is carried over: the fields under these names, and no other. -/
theorem arriveParts_slots (name : ι) :
    arriveParts (slots codec names) record target name =
      if name ∈ names then carriedField codec record name else target name := by
  induction names generalizing target with
  | nil => rfl
  | cons first names ih =>
    show arriveParts (slots codec names) record ((slot codec first).arrive record target) name = _
    rw [ih, arrive_slot]
    by_cases hrest : name ∈ names
    · rw [if_pos hrest, if_pos (List.mem_cons_of_mem _ hrest)]
    · rw [if_neg hrest]
      by_cases hfirst : name = first
      · subst hfirst
        rw [if_pos List.mem_cons_self, Function.update_self]
      · have hnot : name ∉ first :: names := by
          rw [List.mem_cons, not_or]
          exact ⟨hfirst, hrest⟩
        rw [if_neg hnot, Function.update_of_ne hfirst]

/-- Fields under different names do not get in each other's way. -/
theorem clearParts_slots (hnodup : names.Nodup)
    (htarget : ∀ name ∈ names, target name = Tagged.absent) :
    ClearParts record (slots codec names) target := by
  induction names generalizing target with
  | nil => trivial
  | cons first names ih =>
    have hfirst := htarget first List.mem_cons_self
    obtain ⟨hnot, hrest⟩ := List.nodup_cons.mp hnodup
    refine ⟨⟨hfirst, ?_⟩, ih hrest fun name hname ↦ ?_⟩
    · rw [← hfirst]
      exact Function.update_eq_self first target
    · have hne : name ≠ first := fun h ↦ hnot (h ▸ hname)
      rw [arrive_slot, Function.update_of_ne hne]
      exact htarget name (List.mem_cons_of_mem _ hname)

/-- With different tags, a decoder finds the entry of each name of its table. -/
theorem find_slot (hnodup : (table.map fun name ↦ (codec name).tag).Nodup)
    (hnames : ∀ name ∈ names, name ∈ table) {part : TlvPart ((name : ι) → τ name)}
    (hpart : part ∈ slots codec names) :
    (((slots codec table).map TlvPart.entry).find? fun entry ↦ entry.tag == part.tag) =
      some part.entry := by
  obtain ⟨name, hname, rfl⟩ := List.mem_map.mp hpart
  have htags : ((slots codec table).map TlvPart.tag).Nodup := by
    unfold slots
    rwa [List.map_map]
  exact find_entry htags (List.mem_map_of_mem (hnames name hname))

end Record

end MultiUeProxy.Lib.TlvRecord
