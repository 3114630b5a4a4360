import Mathlib.Algebra.GroupWithZero.Nat
import Mathlib.Data.List.Basic
import Mathlib.Tactic.SplitIfs

/-!
# Offsets that are filled in where they are marked

Payloads stand one behind the other, and in front of them a table with an entry for each. An entry
has fields for the offset of its payload. Before the table is written, the fields are gone through
with a running offset: a field that holds the marker one gets the running offset, which then
advances by the length of the payload, and a field that holds anything else is left alone.

`right_fill_iff` says when all fields then hold the positions of their payloads. Every entry must
have a marked field, or else stand in front of no marked entry, or have no payload; a field without
the marker must already be right; and a payload must not be counted twice.
-/

set_option autoImplicit false
set_option relaxedAutoImplicit false

namespace MultiUeProxy.Lib.MarkedOffsets

/-- The offset fields of a payload, and its length. -/
structure Entry where
  fields : List UInt16
  length : UInt16
  deriving DecidableEq, Repr

/-- The fields of one entry, and the running offset behind them. -/
def fillFields (length : UInt16) : (offset : UInt16) → List UInt16 → List UInt16 × UInt16
  | offset, [] => ([], offset)
  | offset, field :: fields =>
    if field = 1 then
      (offset :: (fillFields length (offset + length) fields).1,
        (fillFields length (offset + length) fields).2)
    else
      (field :: (fillFields length offset fields).1, (fillFields length offset fields).2)

/-- The table, with its marked fields filled in. -/
def fill : (offset : UInt16) → List Entry → List Entry
  | _, [] => []
  | offset, entry :: entries =>
    { entry with fields := (fillFields entry.length offset entry.fields).1 } ::
      fill (fillFields entry.length offset entry.fields).2 entries

/-- The number of bytes of the payloads. -/
def totalLength (entries : List Entry) : ℕ := (entries.map (·.length.toNat)).sum

/-- All fields hold the positions of their payloads, the first of which is at `position`. -/
def Right (position : ℕ) (entries : List Entry) : Prop :=
  ∀ front entry back, entries = front ++ entry :: back →
    ∀ field ∈ entry.fields, field.toNat = position + totalLength front

/-- No payload is counted twice, and a marked field has only payloads in front of it that are
counted. -/
def Ready (position : ℕ) (entries : List Entry) : Prop :=
  ∀ front entry back, entries = front ++ entry :: back →
    (entry.length ≠ 0 → entry.fields.count 1 ≤ 1) ∧
    ∀ field ∈ entry.fields,
      (field = 1 ∧ ∀ other ∈ front, other.length ≠ 0 → 1 ∈ other.fields) ∨
        field.toNat = position + totalLength front

section Splits

variable {α : Type} {P : List α → α → List α → Prop} {first : α} {rest : List α}

/-- The places of a list that has a first item. -/
theorem forall_split_cons :
    (∀ front item back, first :: rest = front ++ item :: back → P front item back) ↔
      P [] first rest ∧
        ∀ front item back, rest = front ++ item :: back → P (first :: front) item back := by
  constructor
  · intro h
    exact ⟨h [] first rest rfl, fun front item back hrest ↦
      h (first :: front) item back (by rw [hrest, List.cons_append])⟩
  · rintro ⟨hfirst, hrest⟩ front item back hsplit
    cases front with
    | nil =>
      cases hsplit
      exact hfirst
    | cons other front =>
      cases hsplit
      exact hrest front item back rfl

theorem forall_split_nil :
    ∀ front item back, ([] : List α) = front ++ item :: back → P front item back := by
  intro front item back hsplit
  exact absurd hsplit.symm (List.append_ne_nil_of_right_ne_nil _ (List.cons_ne_nil _ _))

end Splits

theorem totalLength_cons (entry : Entry) (entries : List Entry) :
    totalLength (entry :: entries) = entry.length.toNat + totalLength entries := by
  rw [totalLength, List.map_cons, List.sum_cons, totalLength]

/-- Filling in leaves the lengths as they are. -/
theorem totalLength_fill (offset : UInt16) (entries : List Entry) :
    totalLength (fill offset entries) = totalLength entries := by
  induction entries generalizing offset with
  | nil => rfl
  | cons entry entries ih => rw [fill, totalLength_cons, totalLength_cons, ih]

theorem right_cons {position : ℕ} {entry : Entry} {entries : List Entry} :
    Right position (entry :: entries) ↔
      (∀ field ∈ entry.fields, field.toNat = position) ∧
        Right (position + entry.length.toNat) entries := by
  unfold Right
  rw [forall_split_cons (P := fun front (entry : Entry) _ ↦
    ∀ field ∈ entry.fields, field.toNat = position + totalLength front)]
  simp only [totalLength_cons, Nat.add_assoc]
  rfl

/-- `Ready`, in a table behind payloads of which all are counted or not. -/
def ReadyBehind (clear : Prop) (position : ℕ) (entries : List Entry) : Prop :=
  ∀ front entry back, entries = front ++ entry :: back →
    (entry.length ≠ 0 → entry.fields.count 1 ≤ 1) ∧
    ∀ field ∈ entry.fields,
      (field = 1 ∧ clear ∧ ∀ other ∈ front, other.length ≠ 0 → 1 ∈ other.fields) ∨
        field.toNat = position + totalLength front

theorem readyBehind_cons {clear : Prop} {position : ℕ} {entry : Entry} {entries : List Entry} :
    ReadyBehind clear position (entry :: entries) ↔
      ((entry.length ≠ 0 → entry.fields.count 1 ≤ 1) ∧
        ∀ field ∈ entry.fields, (field = 1 ∧ clear) ∨ field.toNat = position) ∧
      ReadyBehind (clear ∧ (entry.length ≠ 0 → 1 ∈ entry.fields))
        (position + entry.length.toNat) entries := by
  unfold ReadyBehind
  rw [forall_split_cons (P := fun front (entry : Entry) _ ↦
    (entry.length ≠ 0 → entry.fields.count 1 ≤ 1) ∧ ∀ field ∈ entry.fields,
      (field = 1 ∧ clear ∧ ∀ other ∈ front, other.length ≠ 0 → 1 ∈ other.fields) ∨
        field.toNat = position + totalLength front)]
  simp only [totalLength_cons, Nat.add_assoc, List.forall_mem_cons, and_assoc]
  simp only [List.not_mem_nil, false_implies, implies_true, and_true]
  rfl

/-- Fields that are filled in in two steps. -/
theorem fillFields_append (length offset : UInt16) (front back : List UInt16) :
    fillFields length offset (front ++ back) =
      ((fillFields length offset front).1 ++
          (fillFields length (fillFields length offset front).2 back).1,
        (fillFields length (fillFields length offset front).2 back).2) := by
  induction front generalizing offset with
  | nil => rfl
  | cons field front ih =>
    rw [List.cons_append, fillFields, fillFields]
    split_ifs
    · rw [ih, List.cons_append]
    · rw [ih, List.cons_append]

/-- A running offset that advances moves. -/
theorem toNat_add_ne {offset length : UInt16} (hlength : length ≠ 0) :
    (offset + length).toNat ≠ offset.toNat := by
  have hpositive : length.toNat ≠ 0 := fun h ↦ hlength (UInt16.toNat_inj.mp h)
  have hlt := length.toNat_lt
  have hoffset := offset.toNat_lt
  rw [UInt16.toNat_add]
  omega

section Fields

variable {length : UInt16} {position : ℕ}

/-- The marked fields get the running offset, which is right for at most one of them unless the
payload is empty. -/
theorem fillFields_right_iff (hmarker : 1 < position) (offset : UInt16) (fields : List UInt16) :
    (∀ field ∈ (fillFields length offset fields).1, field.toNat = position) ↔
      (length ≠ 0 → fields.count 1 ≤ 1) ∧
        ∀ field ∈ fields, (field = 1 ∧ offset.toNat = position) ∨ field.toNat = position := by
  induction fields generalizing offset with
  | nil => simp [fillFields]
  | cons field fields ih =>
    rw [fillFields]
    by_cases hfield : field = 1
    · subst hfield
      have hone : (1 : UInt16).toNat ≠ position := Nat.ne_of_lt hmarker
      rw [if_pos rfl]
      simp only [List.forall_mem_cons, ih, List.count_cons_self, hone, or_false, true_and]
      by_cases hzero : length = 0
      · subst hzero
        simp only [UInt16.add_zero, ne_eq, not_true_eq_false, false_implies, true_and]
      · -- behind the first marked field the offset is wrong, so there must be no other
        have hmoved : offset.toNat = position → (offset + length).toNat ≠ position :=
          fun h hnext ↦ toNat_add_ne hzero (hnext.trans h.symm)
        have hnone : fields.count 1 + 1 ≤ 1 ↔ 1 ∉ fields := by
          rw [← List.count_eq_zero]
          omega
        simp only [ne_eq, hzero, not_false_eq_true, true_implies, hnone]
        constructor
        · rintro ⟨hright, -, hfields⟩
          have hplaces : ∀ other ∈ fields, other.toNat = position := fun other hother ↦
            (hfields other hother).resolve_left fun h ↦ hmoved hright h.2
          exact ⟨fun hmem ↦ hone (hplaces 1 hmem), hright, fun other hother ↦
            Or.inr (hplaces other hother)⟩
        · rintro ⟨hmem, hright, hfields⟩
          have hplaces : ∀ other ∈ fields, other.toNat = position := fun other hother ↦
            (hfields other hother).resolve_left fun h ↦ hmem (h.1 ▸ hother)
          refine ⟨hright, ?_, fun other hother ↦ Or.inr (hplaces other hother)⟩
          rw [List.count_eq_zero.mpr hmem]
          exact Nat.zero_le 1
    · rw [if_neg hfield, List.count_cons_of_ne hfield]
      simp only [List.forall_mem_cons, ih, hfield, false_and, false_or]
      exact and_left_comm

/-- The running offset has advanced by the length if there was a marked field. -/
theorem fillFields_snd (offset : UInt16) {fields : List UInt16}
    (hcount : length ≠ 0 → fields.count 1 ≤ 1) :
    (fillFields length offset fields).2 = if 1 ∈ fields then offset + length else offset := by
  induction fields generalizing offset with
  | nil => rfl
  | cons field fields ih =>
    rw [fillFields]
    by_cases hfield : field = 1
    · subst hfield
      rw [List.count_cons_self] at hcount
      have hrest : length ≠ 0 → fields.count 1 ≤ 1 := fun h ↦ Nat.le_of_succ_le (hcount h)
      rw [if_pos rfl, if_pos List.mem_cons_self]
      show (fillFields length (offset + length) fields).2 = _
      rw [ih _ hrest]
      by_cases hzero : length = 0
      · rw [hzero, UInt16.add_zero, UInt16.add_zero, ite_self]
      · have hnone : 1 ∉ fields := by
          have := hcount hzero
          rw [← List.count_eq_zero]
          omega
        rw [if_neg hnone]
    · rw [List.count_cons_of_ne hfield] at hcount
      rw [if_neg hfield]
      show (fillFields length offset fields).2 = _
      simp only [ih offset hcount, List.mem_cons, Ne.symm hfield, false_or]

end Fields

/-- All fields are right after filling exactly if the table was ready. -/
theorem right_fill_iff_readyBehind {entries : List Entry} {offset : UInt16} {position : ℕ}
    (hmarker : 1 < position) (hfits : position + totalLength entries < 65536)
    (hle : offset.toNat ≤ position) :
    Right position (fill offset entries) ↔
      ReadyBehind (offset.toNat = position) position entries := by
  induction entries generalizing offset position with
  | nil => exact iff_of_true forall_split_nil forall_split_nil
  | cons entry entries ih =>
    rw [totalLength_cons] at hfits
    rw [fill, right_cons, readyBehind_cons, fillFields_right_iff hmarker]
    apply and_congr_right
    rintro ⟨hcount, hfields⟩
    have hnext := fillFields_snd offset hcount
    have hmarked : 1 ∈ entry.fields → offset.toNat = position := by
      intro hmem
      rcases hfields 1 hmem with h | h
      · exact h.2
      · change 1 = position at h
        omega
    have hadvance : (fillFields entry.length offset entry.fields).2.toNat =
        if 1 ∈ entry.fields then offset.toNat + entry.length.toNat else offset.toNat := by
      rw [hnext]
      split_ifs with hmem
      · rw [UInt16.toNat_add]
        omega
      · rfl
    have hbehind : (fillFields entry.length offset entry.fields).2.toNat ≤
        position + entry.length.toNat := by
      rw [hadvance]
      split_ifs <;> omega
    have hclear : (fillFields entry.length offset entry.fields).2.toNat =
        position + entry.length.toNat ↔
          offset.toNat = position ∧ (entry.length ≠ 0 → 1 ∈ entry.fields) := by
      rw [hadvance]
      by_cases hmem : 1 ∈ entry.fields
      · simp only [hmem, if_true, implies_true, and_true]
        omega
      · have hzero : entry.length.toNat = 0 ↔ entry.length = 0 := UInt16.toNat_inj (b := 0)
        simp only [hmem, if_false, imp_false, not_not, ne_eq, ← hzero]
        omega
    have hrest := ih (Nat.lt_of_lt_of_le hmarker (Nat.le_add_right _ _)) (by omega) hbehind
    simp only [hclear] at hrest
    exact hrest

/-- Filling makes all fields of a table right exactly if it was ready. -/
theorem right_fill_iff {entries : List Entry} {offset : UInt16} (hmarker : 1 < offset.toNat)
    (hfits : offset.toNat + totalLength entries < 65536) :
    Right offset.toNat (fill offset entries) ↔ Ready offset.toNat entries := by
  rw [right_fill_iff_readyBehind hmarker hfits (Nat.le_refl _)]
  unfold ReadyBehind Ready
  simp only [true_and]

/-! ### The table and the payloads -/

/-- A payload, with the fields for its offset. -/
structure Payload where
  fields : List UInt16
  bytes : List UInt8
  deriving DecidableEq, Repr

/-- The entry of a payload. -/
def Payload.entry (payload : Payload) : Entry := ⟨payload.fields, payload.bytes.length.toUInt16⟩

/-- From the offset of each payload on, the body consists of the payload and those behind it. -/
def Locates (body : List UInt8) (payloads : List Payload) : Prop :=
  ∀ front payload back, payloads = front ++ payload :: back → ∀ field ∈ payload.fields,
    field.toNat ≤ body.length ∧ body.drop field.toNat = (payload :: back).flatMap (·.bytes)

theorem locates_cons {body : List UInt8} {payload : Payload} {payloads : List Payload} :
    Locates body (payload :: payloads) ↔
      (∀ field ∈ payload.fields, field.toNat ≤ body.length ∧
        body.drop field.toNat = (payload :: payloads).flatMap (·.bytes)) ∧
      Locates body payloads :=
  forall_split_cons (P := fun _ (payload : Payload) back ↦ ∀ field ∈ payload.fields,
    field.toNat ≤ body.length ∧ body.drop field.toNat = (payload :: back).flatMap (·.bytes))

/-- A place in a list is determined by what is behind it. -/
theorem drop_eq_right_iff {α : Type} {front back : List α} {place : ℕ} :
    (place ≤ (front ++ back).length ∧ (front ++ back).drop place = back) ↔
      place = front.length := by
  constructor
  · rintro ⟨hle, hdrop⟩
    have hlength := congrArg List.length hdrop
    rw [List.length_drop, List.length_append] at hlength
    rw [List.length_append] at hle
    omega
  · rintro rfl
    exact ⟨by rw [List.length_append]; exact Nat.le_add_right _ _, List.drop_left⟩

theorem totalLength_map_entry {payloads : List Payload}
    (hshort : ∀ payload ∈ payloads, payload.bytes.length < 65536) :
    totalLength (payloads.map Payload.entry) = (payloads.flatMap (·.bytes)).length := by
  induction payloads with
  | nil => rfl
  | cons payload payloads ih =>
    have hlength : payload.entry.length.toNat = payload.bytes.length :=
      UInt16.toNat_ofNat_of_lt (hshort payload List.mem_cons_self)
    rw [List.map_cons, totalLength_cons, List.flatMap_cons, List.length_append, hlength,
      ih fun other hother ↦ hshort other (List.mem_cons_of_mem _ hother)]

/-- With the payloads behind the table, the offsets are right if they are the positions. -/
theorem locates_iff_right {table : List UInt8} {payloads : List Payload}
    (hshort : ∀ payload ∈ payloads, payload.bytes.length < 65536) :
    Locates (table ++ payloads.flatMap (·.bytes)) payloads ↔
      Right table.length (payloads.map Payload.entry) := by
  induction payloads generalizing table with
  | nil => exact iff_of_true forall_split_nil forall_split_nil
  | cons payload payloads ih =>
    have hlength : payload.entry.length.toNat = payload.bytes.length :=
      UInt16.toNat_ofNat_of_lt (hshort payload List.mem_cons_self)
    have hrest := @ih (table ++ payload.bytes) fun other hother ↦
      hshort other (List.mem_cons_of_mem _ hother)
    rw [List.append_assoc, ← List.flatMap_cons, List.length_append, ← hlength] at hrest
    rw [locates_cons, List.map_cons, right_cons, ← hrest]
    apply and_congr_left
    intro _
    exact forall₂_congr fun field _ ↦ drop_eq_right_iff

/-- A running sum that does not wrap around. -/
theorem toNat_foldl_add {α : Type} {size : α → UInt16} {items : List α} {start : UInt16}
    (h : start.toNat + (items.map fun item ↦ (size item).toNat).sum < 65536) :
    (items.foldl (fun total item ↦ total + size item) start).toNat =
      start.toNat + (items.map fun item ↦ (size item).toNat).sum := by
  induction items generalizing start with
  | nil => rfl
  | cons item items ih =>
    rw [List.map_cons, List.sum_cons] at h ⊢
    have hstep : (start + size item).toNat = start.toNat + (size item).toNat := by
      rw [UInt16.toNat_add]
      omega
    rw [List.foldl_cons, ih (by omega), hstep, Nat.add_assoc]

end MultiUeProxy.Lib.MarkedOffsets
