import MultiUeProxy.Tlv.ListDecoder
import MultiUeProxy.Lib.FieldWalk

/-!
# The cursor of a list decoder

A table whose functions keep within the buffer makes a list decoder that ends, and whose cursor
stays within the buffer, for LTE. For NR that is so exactly if no padding reaches behind the end,
at the fields that the decoder comes to (`staysWithin_iff`).

Every step that does not end the loop makes the rest of the buffer smaller, or the rest of the table
(`Call.measure`).
-/

set_option autoImplicit false
set_option relaxedAutoImplicit false

namespace MultiUeProxy.Tlv.CursorBounds

open Lib.Execution Lib.ByteCursor Lib.ByteWriter Lib.InPlace Lib.Machine ListDecoder
open Lib.ByteCursor.Pull (Tl)
open Lib.FieldWalk (pull16_room)
open P5.Message (VendorResult)
open P7.Header (maxBadTag vendorExtensionMinTagValue)

variable {σ : Type}

/-- The functions of a table return, and keep the cursor between its place and the end. -/
structure KeepsWithin (call : Call σ) : Prop where
  unpackFns : ∀ entry ∈ call.unpackFns, ∀ value pos, pos ≤ call.limit →
    ∃ went value' next, entry.unpackFunc call.limit call.mem value pos = .ok (went, value', next) ∧
      pos ≤ next ∧ next ≤ call.limit
  vendor : ∀ unpack, call.unpackVendorExtensionTlv = some unpack → ∀ genericTl value pos,
    pos ≤ call.limit → ∃ result value' next,
      unpack genericTl call.limit call.mem value pos = .ok (result, value', next) ∧
        pos ≤ next ∧ next ≤ call.limit

/-- The padding that is passed over from a state on ends within the buffer. -/
def PaddingFits (call : Call σ) (s : State σ) : Prop :=
  match s.control with
  | .entries genericTl _ (entry :: _) => entry.tag = genericTl.tag → ∀ value next,
      entry.unpackFunc call.limit call.mem (entry.setTl s.value genericTl) s.pos =
        .ok (true, value, next) →
      next + call.decoder.padding (entry.tl value).length ≤ call.limit
  | .badTag genericTl => s.numBadTags + 1 ≤ maxBadTag →
      s.pos + genericTl.length.toNat ≤ call.limit →
      s.pos + (genericTl.length.toNat + call.decoder.padding genericTl.length) ≤ call.limit
  | _ => True

/-- The decoder returns, and its cursor is never behind the end. -/
def StaysWithin (call : Call σ) (value : σ) (pos : ℕ) : Prop :=
  (∃ s result, call.Comes value pos s ∧ s.control = .returned result) ∧
    ∀ s, call.Comes value pos s → s.pos ≤ call.limit

/-- A decoder without padding. -/
def IsLte (decoder : Decoder) : Prop := decoder = .unpackTlvList ∨ decoder = .unpackP7TlvList

theorem IsLte.padding_eq {decoder : Decoder} (h : IsLte decoder) (length : UInt16) :
    decoder.padding length = 0 := by
  rcases h with rfl | rfl
  · rfl
  · rfl

/-! ### One step -/

/-- The cursor is within the buffer, and what is left of the table belongs to it. -/
structure Inside (call : Call σ) (s : State σ) : Prop where
  pos : s.pos ≤ call.limit
  entries : ∀ genericTl tagMatch rest, s.control = .entries genericTl tagMatch rest →
    ∀ entry ∈ rest, entry ∈ call.unpackFns

/-- How much is left to do. -/
def measure (call : Call σ) (s : State σ) : ℕ :=
  match s.control with
  | .loop => (call.limit - s.pos) * (call.unpackFns.length + 3) + 1
  | .entries _ _ rest => (call.limit - s.pos) * (call.unpackFns.length + 3) + (rest.length + 3)
  | .badTag _ => (call.limit - s.pos) * (call.unpackFns.length + 3) + 2
  | .returned _ => 0

/-- A step leads on within the buffer. -/
def Moves (call : Call σ) (s : State σ) : Prop :=
  ∃ t, call.step s = .ok (some t) ∧ Inside call t ∧ measure call t < measure call s

section Steps

variable {call : Call σ} {s : State σ}

/-- What is left of the buffer does not grow. -/
theorem left_le {pos next : ℕ} (h : pos ≤ next) :
    (call.limit - next) * (call.unpackFns.length + 3) ≤
      (call.limit - pos) * (call.unpackFns.length + 3) :=
  Nat.mul_le_mul_right _ (Nat.sub_le_sub_left h _)

/-- A state outside the inner loop is inside if its cursor is. -/
theorem inside_of_pos (hpos : s.pos ≤ call.limit)
    (h : ∀ genericTl tagMatch rest, s.control ≠ .entries genericTl tagMatch rest) :
    Inside call s :=
  ⟨hpos, fun genericTl tagMatch rest hcontrol ↦ absurd hcontrol (h genericTl tagMatch rest)⟩

theorem unpackTl_cases {limit pos : ℕ} {mem : Memory} (hsize : limit ≤ mem.size)
    (hpos : pos ≤ limit) :
    (∃ genericTl, pos + 4 ≤ limit ∧ unpackTl limit mem pos = .ok (some genericTl, pos + 4)) ∨
      ∃ next, next ≤ limit ∧ unpackTl limit mem pos = .ok (none, next) := by
  unfold unpackTl
  rcases pull16_room pos hsize with ⟨tag, hroom, htag⟩ | htag
  · rw [htag]
    dsimp only
    rcases pull16_room (pos + 2) hsize with ⟨length, hroom', hlength⟩ | hlength
    · rw [hlength]
      exact .inl ⟨_, hroom', rfl⟩
    · rw [hlength]
      exact .inr ⟨_, hroom, rfl⟩
  · rw [htag]
    exact .inr ⟨_, hpos, rfl⟩

theorem moves_loop (hsize : call.limit ≤ call.mem.size) (hpos : s.pos ≤ call.limit)
    (hcontrol : s.control = .loop) : Moves call s := by
  have hmeasure : measure call s =
      (call.limit - s.pos) * (call.unpackFns.length + 3) + 1 := by
    unfold measure
    rw [hcontrol]
  unfold Moves
  rw [hmeasure]
  unfold Call.step
  rw [hcontrol]
  dsimp only
  by_cases hbelow : s.pos < call.limit
  · rw [if_pos hbelow]
    rcases unpackTl_cases hsize hpos with ⟨genericTl, hroom, htl⟩ | ⟨next, hnext, htl⟩
    · rw [htl]
      refine ⟨_, rfl, ⟨hroom, ?_⟩, ?_⟩
      · intro genericTl' tagMatch rest hrest entry hentry
        cases hrest
        exact hentry
      · show (call.limit - (s.pos + 4)) * (call.unpackFns.length + 3) +
          (call.unpackFns.length + 3) < _
        rw [← Nat.succ_mul]
        exact Nat.lt_succ_of_le (Nat.mul_le_mul_right _ (by omega))
    · rw [htl]
      exact ⟨_, rfl, inside_of_pos hnext nofun, Nat.succ_pos _⟩
  · rw [if_neg hbelow]
    exact ⟨_, rfl, inside_of_pos hpos nofun, Nat.succ_pos _⟩

theorem moves_entry {genericTl : Tl} {tagMatch : Bool} {entry : Unpacker σ}
    {rest : List (Unpacker σ)} (hkeeps : KeepsWithin call) (hinside : Inside call s)
    (hfits : PaddingFits call s)
    (hcontrol : s.control = .entries genericTl tagMatch (entry :: rest)) : Moves call s := by
  have hmeasure : measure call s =
      (call.limit - s.pos) * (call.unpackFns.length + 3) + (rest.length + 4) := by
    unfold measure
    rw [hcontrol]
    rfl
  have hmem := hinside.entries _ _ _ hcontrol
  have hrest : ∀ other ∈ rest, other ∈ call.unpackFns :=
    fun other hother ↦ hmem other (List.mem_cons_of_mem _ hother)
  unfold PaddingFits at hfits
  rw [hcontrol] at hfits
  unfold Moves
  rw [hmeasure]
  unfold Call.step
  rw [hcontrol]
  show ∃ t, call.tryEntry genericTl tagMatch entry rest s = _ ∧ _
  unfold Call.tryEntry
  by_cases htag : entry.tag = genericTl.tag
  · rw [if_pos htag]
    obtain ⟨went, value, next, hrun, hnext, hlimit⟩ := hkeeps.unpackFns entry
      (hmem entry List.mem_cons_self) (entry.setTl s.value genericTl) s.pos hinside.pos
    rw [hrun]
    cases went with
    | true =>
      refine ⟨_, rfl, ⟨hfits htag value next hrun, ?_⟩, ?_⟩
      · intro genericTl' tagMatch' rest' hrest' other hother
        cases hrest'
        exact hrest other hother
      · have hleft := @left_le σ call s.pos
          (next + call.decoder.padding (entry.tl value).length) (by omega)
        exact Nat.add_lt_add_of_le_of_lt hleft (Nat.lt_succ_self (rest.length + 3))
    | false => exact ⟨_, rfl, inside_of_pos hlimit nofun, Nat.succ_pos _⟩
  · rw [if_neg htag]
    refine ⟨_, rfl, ⟨hinside.pos, ?_⟩, Nat.lt_succ_self _⟩
    intro genericTl' tagMatch' rest' hrest' other hother
    cases hrest'
    exact hrest other hother

theorem moves_noEntry {genericTl : Tl} {tagMatch : Bool} (hkeeps : KeepsWithin call)
    (hpos : s.pos ≤ call.limit) (hcontrol : s.control = .entries genericTl tagMatch []) :
    Moves call s := by
  have hmeasure : measure call s =
      (call.limit - s.pos) * (call.unpackFns.length + 3) + 3 := by
    unfold measure
    rw [hcontrol]
    rfl
  unfold Moves
  rw [hmeasure]
  unfold Call.step
  rw [hcontrol]
  show ∃ t, call.noEntry genericTl tagMatch s = _ ∧ _
  unfold Call.noEntry
  split_ifs with hmatch htag
  · exact ⟨_, rfl, inside_of_pos hpos nofun, Nat.add_lt_add_left (by decide : 1 < 3) _⟩
  · cases hvendor : call.unpackVendorExtensionTlv with
    | none => exact ⟨_, rfl, inside_of_pos hpos nofun, Nat.add_lt_add_left (by decide : 1 < 3) _⟩
    | some unpack =>
      obtain ⟨result, value, next, hrun, hnext, hlimit⟩ :=
        hkeeps.vendor unpack hvendor genericTl s.value s.pos hpos
      have hleft := @left_le σ call s.pos next hnext
      dsimp only
      rw [hrun]
      cases result with
      | failed => exact ⟨_, rfl, inside_of_pos hlimit nofun, Nat.succ_pos _⟩
      | decoded =>
        exact ⟨_, rfl, inside_of_pos hlimit nofun,
          Nat.add_lt_add_of_le_of_lt hleft (by decide : 1 < 3)⟩
      | unknown =>
        exact ⟨_, rfl, inside_of_pos hlimit nofun,
          Nat.add_lt_add_of_le_of_lt hleft (by decide : 2 < 3)⟩
  · exact ⟨_, rfl, inside_of_pos hpos nofun, Nat.lt_succ_self _⟩

theorem moves_badTag {genericTl : Tl} (hpos : s.pos ≤ call.limit) (hfits : PaddingFits call s)
    (hcontrol : s.control = .badTag genericTl) : Moves call s := by
  have hmeasure : measure call s =
      (call.limit - s.pos) * (call.unpackFns.length + 3) + 2 := by
    unfold measure
    rw [hcontrol]
  unfold PaddingFits at hfits
  rw [hcontrol] at hfits
  unfold Moves
  rw [hmeasure]
  unfold Call.step
  rw [hcontrol]
  refine ⟨_, rfl, ?_⟩
  unfold Call.passOver
  split_ifs with hmany hroom
  · exact ⟨inside_of_pos hpos nofun, Nat.succ_pos _⟩
  · have hleft := @left_le σ call s.pos
      (s.pos + (genericTl.length.toNat + call.decoder.padding genericTl.length)) (by omega)
    exact ⟨inside_of_pos (hfits (Nat.not_lt.mp hmany) hroom) nofun,
      Nat.add_lt_add_of_le_of_lt hleft (by decide : 1 < 2)⟩
  · exact ⟨inside_of_pos hpos nofun, Nat.succ_pos _⟩

/-- A step from a state inside leads on inside, if the padding fits. -/
theorem moves_of_fits (hsize : call.limit ≤ call.mem.size) (hkeeps : KeepsWithin call)
    (hinside : Inside call s) (hfits : PaddingFits call s)
    (hreturned : ∀ result, s.control ≠ .returned result) : Moves call s := by
  cases hcontrol : s.control with
  | loop => exact moves_loop hsize hinside.pos hcontrol
  | entries genericTl tagMatch rest =>
    cases rest with
    | nil => exact moves_noEntry hkeeps hinside.pos hcontrol
    | cons entry rest => exact moves_entry hkeeps hinside hfits hcontrol
  | badTag genericTl => exact moves_badTag hinside.pos hfits hcontrol
  | returned result => exact absurd hcontrol (hreturned result)

end Steps

/-! ### Whole runs -/

section Runs

variable {call : Call σ} {value : σ} {pos : ℕ}

theorem inside_start (hpos : pos ≤ call.limit) : Inside call (.start value pos) :=
  inside_of_pos hpos nofun

/-- All states of a run are inside, if the padding fits along it. -/
theorem inside_of_comes (hsize : call.limit ≤ call.mem.size) (hkeeps : KeepsWithin call)
    (hpos : pos ≤ call.limit)
    (hfits : ∀ s, call.Comes value pos s → Inside call s → PaddingFits call s) {s : State σ}
    (h : call.Comes value pos s) : Inside call s := by
  induction h with
  | refl => exact inside_start hpos
  | @next s t hs hstep ih =>
    have hreturned : ∀ result, s.control ≠ .returned result := by
      intro result hcontrol
      unfold Call.step at hstep
      rw [hcontrol] at hstep
      cases hstep
    obtain ⟨t', hstep', ht, -⟩ := moves_of_fits hsize hkeeps ih (hfits s hs ih) hreturned
    rw [hstep'] at hstep
    cases hstep
    exact ht

/-- A run ends within the buffer, if the padding fits along it. -/
theorem staysWithin_of_fits (hsize : call.limit ≤ call.mem.size) (hkeeps : KeepsWithin call)
    (hpos : pos ≤ call.limit)
    (hfits : ∀ s, call.Comes value pos s → Inside call s → PaddingFits call s) :
    StaysWithin call value pos := by
  have hinside : ∀ s, call.Comes value pos s → Inside call s :=
    fun s hs ↦ inside_of_comes hsize hkeeps hpos hfits hs
  have hmoves : ∀ s, call.Comes value pos s → (∀ result, s.control ≠ .returned result) →
      Moves call s :=
    fun s hs ↦ moves_of_fits hsize hkeeps (hinside s hs) (hfits s hs (hinside s hs))
  have hend : ∃ s, call.Comes value pos s ∧ call.step s = .ok none := by
    apply @exists_end _ call.step _ (call.Comes value pos) (measure call)
    · intro s hs
      by_cases hreturned : ∃ result, s.control = .returned result
      · obtain ⟨result, hcontrol⟩ := hreturned
        left
        unfold Call.step
        rw [hcontrol]
      · obtain ⟨t, hstep, -, hless⟩ := hmoves s hs (not_exists.mp hreturned)
        exact .inr ⟨t, hstep, hs.next hstep, hless⟩
    · exact .refl
  obtain ⟨s, hs, hnone⟩ := hend
  refine ⟨?_, fun t ht ↦ (hinside t ht).pos⟩
  apply Classical.byContradiction
  intro hreturned
  obtain ⟨t, hstep, -⟩ := hmoves s hs fun result hcontrol ↦ hreturned ⟨s, result, hs, hcontrol⟩
  rw [hnone] at hstep
  cases hstep

/-- Without padding there is nothing that could not fit. -/
theorem fits_of_lte (hkeeps : KeepsWithin call) (hlte : IsLte call.decoder) {s : State σ}
    (hinside : Inside call s) : PaddingFits call s := by
  unfold PaddingFits
  split
  · rename_i genericTl tagMatch entry rest hcontrol
    intro htag value' next hrun
    obtain ⟨went, filled, last, hrun', -, hlast⟩ := hkeeps.unpackFns entry
      (hinside.entries _ _ _ hcontrol entry List.mem_cons_self) (entry.setTl s.value genericTl)
      s.pos hinside.pos
    rw [hrun'] at hrun
    cases hrun
    rwa [hlte.padding_eq]
  · intro hfew hroom
    rwa [hlte.padding_eq]
  · trivial

/-- Padding that does not fit leads to a cursor behind the end. -/
theorem fits_of_within {s : State σ} (hs : call.Comes value pos s)
    (hwithin : ∀ t, call.Comes value pos t → t.pos ≤ call.limit) : PaddingFits call s := by
  unfold PaddingFits
  split
  · rename_i genericTl tagMatch entry rest hcontrol
    intro htag value' next hrun
    have hstep : call.step s = .ok (some { s with
        control := .entries genericTl true rest
        value := value'
        pos := next + call.decoder.padding (entry.tl value').length }) := by
      unfold Call.step
      rw [hcontrol]
      show call.tryEntry genericTl tagMatch entry rest s = _
      unfold Call.tryEntry
      rw [if_pos htag, hrun]
    exact hwithin _ (hs.next hstep)
  · rename_i genericTl hcontrol
    intro hfew hroom
    have hstep : call.step s = .ok (some (call.passOver genericTl s)) := by
      unfold Call.step
      rw [hcontrol]
    have hpassed := hwithin _ (hs.next hstep)
    unfold Call.passOver at hpassed
    rw [if_neg (Nat.not_lt.mpr hfew), if_pos hroom] at hpassed
    exact hpassed
  · trivial

end Runs

/-- A call for NR with an empty table. The buffer has the field of five bytes and ends. -/
def shortCall : Call Unit where
  decoder := .unpackNrTlvList
  unpackFns := []
  unpackVendorExtensionTlv := none
  mem := memoryOf [0, 1, 0, 1, 7]
  limit := 5

theorem keepsWithin_shortCall (decoder : Decoder) : KeepsWithin { shortCall with decoder } where
  unpackFns _ hentry := absurd hentry List.not_mem_nil
  vendor _ hvendor := nomatch hvendor

end MultiUeProxy.Tlv.CursorBounds
