import MultiUeProxy.Lib.TlvRecord

/-!
# One of several tagged fields

A union of tagged fields holds one of them. All members begin with tag and length in the same place,
so that whoever looks at the tag sees the one that was stored last. `Choice` is such a union, where
one that is cleared holds no member. `memberPart` is the part of the union under a name: to fill it in
throws away what was there under another name.
-/

set_option autoImplicit false
set_option relaxedAutoImplicit false

namespace MultiUeProxy.Lib.TlvChoice

open Execution ByteCursor ByteWriter Codec TlvCodec InPlace TaggedParts
open ByteCursor.Pull (Tl)

variable {ι : Type} {τ : ι → Type}

/-- One of several tagged fields, or none. -/
def Choice (τ : ι → Type) : Type := Option ((name : ι) × τ name)

namespace Choice

variable [∀ name, Tagged (τ name)] {choice : Choice τ} {name other : ι} {field : τ name}

def none : Choice τ := Option.none

/-- The union after this member was stored. -/
def of (name : ι) (field : τ name) : Choice τ := some ⟨name, field⟩

/-- Tag and length in front of the union. -/
def tl : Choice τ → Tl
  | some ⟨_, field⟩ => Tagged.tl field
  | .none => {}

variable [DecidableEq ι]

/-- The member under a name. It is absent if another one is there. -/
def get (choice : Choice τ) (name : ι) : τ name :=
  match choice with
  | some ⟨other, field⟩ => if h : other = name then h ▸ field else Tagged.absent
  | .none => Tagged.absent

@[simp] theorem get_none : (none : Choice τ).get name = Tagged.absent := rfl

@[simp] theorem get_of : (of name field).get name = field := dif_pos rfl

theorem get_of_ne (h : name ≠ other) : (of name field).get other = Tagged.absent := dif_neg h

/-- A member that has a tag of its own is the one that is there. -/
theorem eq_of_of_tag {tag : UInt16} (habsent : (Tagged.tl (Tagged.absent : τ name)).tag ≠ tag)
    (h : (Tagged.tl (choice.get name)).tag = tag) : choice = of name (choice.get name) := by
  rcases choice with _ | ⟨other, field⟩
  · exact absurd h habsent
  · by_cases hname : other = name
    · subst hname
      exact congrArg (of other) get_of.symm
    · have hget : (of other field).get name = Tagged.absent := get_of_ne hname
      have htag : (Tagged.tl ((of other field).get name)).tag = tag := h
      rw [hget] at htag
      exact absurd htag habsent

end Choice

section Members

variable [DecidableEq ι] [∀ name, Tagged (τ name)] {codec : (name : ι) → FieldCodec (τ name)}
  {name : ι} {choice : Choice τ}

/-- The member of a union under a name. -/
def memberPart (codec : (name : ι) → FieldCodec (τ name)) (name : ι) : TlvPart (Choice τ) where
  tag := (codec name).tag
  tl choice := Tagged.tl (choice.get name)
  pack limit choice := (codec name).pack limit (choice.get name)
  fill tl limit := .component (·.get name) (fun _ field ↦ .of name field)
    ((Fill.modify fun field ↦ Tagged.setTl field tl).andThen ((codec name).unpack tl limit))
  bytes choice := (codec name).bytes (choice.get name)
  arrive choice target :=
    if (Tagged.tl (choice.get name)).tag = (codec name).tag then
      .of name (Tagged.setTl ((codec name).carried (choice.get name))
        ⟨(codec name).tag, ((codec name).bytes (choice.get name)).length.toUInt16⟩)
    else target
  Clear target := target.get name = Tagged.absent
  Fits choice := (codec name).Fits (choice.get name)
  Returns choice := (codec name).Returns (choice.get name)
  arrive_absent choice target htag _ := if_neg htag
  written choice limit _ hfits := (codec name).written (choice.get name) limit hfits
  restored choice target limit htag hfits hreturns hclear := by
    rw [if_pos htag]
    have hmodify : Fills limit (.modify fun field ↦ Tagged.setTl field
        ⟨(codec name).tag, ((codec name).bytes (choice.get name)).length.toUInt16⟩)
        (target.get name) [] (Tagged.setTl Tagged.absent
          ⟨(codec name).tag, ((codec name).bytes (choice.get name)).length.toUInt16⟩) := by
      rw [hclear]
      exact fills_modify _
    have hfield :=
      hmodify.andThen ((codec name).restored (choice.get name) limit hfits hreturns)
    exact @Fills.component (Choice τ) (τ name) limit target _ _ (fun choice ↦ choice.get name)
      (fun _ field ↦ .of name field) _ hfield
  within tl limit := by
    have := (codec name).within tl limit
    infer_instance

def memberParts (codec : (name : ι) → FieldCodec (τ name)) (names : List ι) :
    List (TlvPart (Choice τ)) :=
  names.map (memberPart codec)

/-- What comes over of a union is the member that is there. -/
theorem arrive_memberPart (htag : (Tagged.tl (choice.get name)).tag = (codec name).tag)
    (target : Choice τ) :
    (memberPart codec name).arrive choice target =
      .of name (TlvRecord.carriedField codec (fun name ↦ choice.get name) name) := by
  show (if _ then _ else _) = _
  unfold TlvRecord.carriedField
  rw [if_pos htag, if_pos htag]

end Members

end MultiUeProxy.Lib.TlvChoice
