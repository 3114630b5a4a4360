import MultiUeProxy.Lib.Places
import MultiUeProxy.Lib.TaggedParts

/-!
# Walking over tagged fields

What a list decoder does with bytes that nobody has packed depends on which fields are in them. A
walk goes over the same fields without decoding them: its entries pass over as many bytes as the
decoder takes, and note the tag (`walkEntry`). It always ends (`advances_fillTlvLoop`), and says what
the decoder does: the decoder keeps up with the walk as long as the tags noted so far are good, and
ends the program at the first tag with which they no longer are (`shadows_fillTlvLoop`).
-/

set_option autoImplicit false
set_option relaxedAutoImplicit false

namespace MultiUeProxy.Lib.FieldWalk

open Execution ByteCursor InPlace TaggedParts
open ByteCursor.Pull (Tl)

/-- An entry that notes the tag of its field and passes over the value. -/
def walkEntry (tag : UInt16) (size : ℕ) : Entry (List UInt16) :=
  ⟨tag, fun _ limit ↦ (Fill.modify (· ++ [tag])).andThen (.skip limit size)⟩

/-! ### Decoders that end -/

section Ends

variable {σ : Type} {limit : ℕ}

/-- Whatever there is in the memory below the limit, the decoder does not end the program, and the
cursor does not go back. -/
def Advances (limit : ℕ) (x : Fill σ) : Prop :=
  ∀ mem value pos, limit ≤ mem.size →
    ∃ went value' last, x mem value pos = .ok (went, value', last) ∧ pos ≤ last

/-- The same from one place on. -/
def AdvancesFrom (x : Fill σ) (mem : Memory) (pos : ℕ) : Prop :=
  ∀ value, ∃ went value' last, x mem value pos = .ok (went, value', last) ∧ pos ≤ last

/-- What is done with an unknown field does not end the program, if what comes after it does not. -/
def UnknownAdvances (limit : ℕ) (unknown : Unknown σ) : Prop :=
  ∀ rest badTags tl mem pos, limit ≤ mem.size → pos ≤ limit →
    (∀ badTags next, pos ≤ next → AdvancesFrom (rest badTags) mem next) →
    AdvancesFrom (unknown rest badTags tl) mem pos

theorem pull16_room {mem : Memory} (pos : ℕ) (hsize : limit ≤ mem.size) :
    (∃ value, pos + 2 ≤ limit ∧ Pull.pull16 limit mem pos = .ok (value, pos + 2)) ∨
      Pull.pull16 limit mem pos = .error .reject := by
  by_cases hroom : pos + 2 ≤ limit
  · exact .inl ⟨_, hroom, Pull.pull16_of_room hroom (Nat.le_trans hroom hsize)⟩
  · exact .inr (Pull.pull16_of_no_room hroom)

theorem advances_andThen {x y : Fill σ} (hx : Advances limit x) (hy : Advances limit y) :
    Advances limit (x.andThen y) := by
  intro mem value pos hsize
  obtain ⟨went, middle, next, hrun, hnext⟩ := hx mem value pos hsize
  unfold Fill.andThen
  rw [hrun]
  cases went with
  | true =>
    obtain ⟨went, value', last, hrest, hlast⟩ := hy mem middle next hsize
    exact ⟨went, value', last, hrest, Nat.le_trans hnext hlast⟩
  | false => exact ⟨false, middle, next, rfl, hnext⟩

theorem advances_skip (length : ℕ) : Advances limit (.skip limit length : Fill σ) := by
  intro mem value pos _
  unfold Fill.skip
  by_cases hroom : pos + length ≤ limit
  · rw [if_pos hroom]
    exact ⟨true, value, _, rfl, Nat.le_add_right _ _⟩
  · rw [if_neg hroom]
    exact ⟨false, value, _, rfl, Nat.le_refl _⟩

theorem advances_advance (length : ℕ) : Advances limit (.advance length : Fill σ) :=
  fun _ value _ _ ↦ ⟨true, value, _, rfl, Nat.le_add_right _ _⟩

theorem advances_modify (f : σ → σ) : Advances limit (.modify f) :=
  fun _ value pos _ ↦ ⟨true, f value, pos, rfl, Nat.le_refl _⟩

theorem advances_component {τ : Type} {get : σ → τ} {put : σ → τ → σ} {x : Fill τ}
    (hx : Advances limit x) : Advances limit (.component get put x) := by
  intro mem value pos hsize
  obtain ⟨went, part, last, hrun, hlast⟩ := hx mem (get value) pos hsize
  refine ⟨went, put value part, last, ?_, hlast⟩
  unfold Fill.component
  rw [hrun]

theorem advances_walkEntry (tag : UInt16) (size : ℕ) (tl : Tl) :
    Advances limit ((walkEntry tag size).fill tl limit) := by
  show Advances limit ((Fill.modify (· ++ [tag])).andThen (.skip limit size))
  exact advances_andThen (advances_modify _) (advances_skip size)

instance {tag : UInt16} {size : ℕ} {tl : Tl} :
    Within limit ((walkEntry tag size).fill tl limit) := by
  unfold walkEntry
  infer_instance

/-- A loop whose entries do not end the program ends: every iteration takes a tag and a length. -/
theorem advances_fillTlvLoop {unknown : Unknown σ} {entries : List (Entry σ)}
    (hentries : ∀ entry ∈ entries, ∀ tl, Advances limit (entry.fill tl limit))
    (hunknown : UnknownAdvances limit unknown) {mem : Memory} (hsize : limit ≤ mem.size)
    (bound badTags pos : ℕ) (hbound : limit - pos < bound) :
    AdvancesFrom (fillTlvLoop unknown entries limit bound badTags) mem pos := by
  induction bound generalizing badTags pos with
  | zero => exact absurd hbound (Nat.not_lt_zero _)
  | succ bound ih =>
    intro value
    by_cases hpos : pos < limit
    · unfold fillTlvLoop
      rw [if_pos hpos, Fill.pulled]
      rcases pull16_room pos hsize with ⟨tag, -, htag⟩ | htag
      · rw [htag]
        dsimp only
        rw [Fill.pulled]
        rcases pull16_room (pos + 2) hsize with ⟨length, hroom, hlength⟩ | hlength
        · rw [hlength]
          have hrest : ∀ badTags next, pos + 2 + 2 ≤ next →
              AdvancesFrom (fillTlvLoop unknown entries limit bound badTags) mem next :=
            fun badTags next hnext ↦ ih badTags next (by omega)
          dsimp only
          cases hfind : entries.find? fun entry ↦ entry.tag == tag with
          | some entry =>
            obtain ⟨went, middle, next, hfill, hnext⟩ :=
              hentries entry (List.mem_of_find?_eq_some hfind) ⟨tag, length⟩ mem value
                (pos + 2 + 2) hsize
            dsimp only
            unfold Fill.andThen
            rw [hfill]
            cases went with
            | true =>
              obtain ⟨went, value', last, hrun, hlast⟩ := hrest badTags next hnext middle
              exact ⟨went, value', last, hrun, by omega⟩
            | false => exact ⟨false, middle, next, rfl, by omega⟩
          | none =>
            obtain ⟨went, value', last, hrun, hlast⟩ :=
              hunknown _ badTags ⟨tag, length⟩ mem _ hsize hroom hrest value
            exact ⟨went, value', last, hrun, by omega⟩
        · rw [hlength]
          exact ⟨false, value, _, rfl, by omega⟩
      · rw [htag]
        exact ⟨false, value, _, rfl, Nat.le_refl _⟩
    · rw [fillTlvLoop_done hpos]
      exact ⟨true, value, pos, rfl, Nat.le_refl _⟩

end Ends

/-! ### Where a loop stops -/

section Stops

variable {σ : Type} {limit : ℕ}

/-- If the decoder stops, the cursor is not behind the limit, given that it was not before. -/
def StopsWithin (limit : ℕ) (x : Fill σ) : Prop :=
  ∀ mem value pos value' last, limit ≤ mem.size → pos ≤ limit →
    x mem value pos = .ok (false, value', last) → last ≤ limit

/-- If the decoder stops, the cursor is not behind the limit. -/
def StopsBelow (limit : ℕ) (x : Fill σ) : Prop :=
  ∀ mem value pos value' last, limit ≤ mem.size → x mem value pos = .ok (false, value', last) →
    last ≤ limit

theorem stopsWithin_of_within {x : Fill σ} [hx : Within limit x] : StopsWithin limit x :=
  fun mem value pos value' last _ hpos h ↦ hx.within mem value pos false value' last hpos h

/-- A decoder that passes over padding in the end stops where it did without. -/
theorem stopsWithin_advance {x : Fill σ} (hx : StopsWithin limit x) (length : ℕ) :
    StopsWithin limit (x.andThen (.advance length)) := by
  intro mem value pos value' last hsize hpos h
  unfold Fill.andThen at h
  cases hrun : x mem value pos with
  | ok result =>
    obtain ⟨went, middle, next⟩ := result
    rw [hrun] at h
    cases went with
    | true => cases h
    | false =>
      cases h
      exact hx mem value pos value' last hsize hpos hrun
  | error cause =>
    rw [hrun] at h
    cases h

theorem stopsWithin_andThen {x y : Fill σ} (hx : StopsWithin limit x) (hy : StopsBelow limit y) :
    StopsWithin limit (x.andThen y) := by
  intro mem value pos value' last hsize hpos h
  unfold Fill.andThen at h
  cases hrun : x mem value pos with
  | ok result =>
    obtain ⟨went, middle, next⟩ := result
    rw [hrun] at h
    cases went with
    | true => exact hy mem middle next value' last hsize h
    | false =>
      cases h
      exact hx mem value pos value' last hsize hpos hrun
  | error cause =>
    rw [hrun] at h
    cases h

/-- The loop looks at the limit before each field, so it does not stop behind it. -/
theorem stopsBelow_fillTlvLoop {unknown : Unknown σ} {entries : List (Entry σ)}
    (hentries : ∀ entry ∈ entries, ∀ tl, StopsWithin limit (entry.fill tl limit))
    (hunknown : ∀ rest badTags tl, (∀ badTags, StopsBelow limit (rest badTags)) →
      StopsWithin limit (unknown rest badTags tl)) (bound badTags : ℕ) :
    StopsBelow limit (fillTlvLoop unknown entries limit bound badTags) := by
  induction bound generalizing badTags with
  | zero =>
    intro mem value pos value' last hsize h
    cases h
  | succ bound ih =>
    intro mem value pos value' last hsize h
    unfold fillTlvLoop at h
    by_cases hpos : pos < limit
    · rw [if_pos hpos, Fill.pulled] at h
      cases htag : Pull.pull16 limit mem pos with
      | ok result =>
        obtain ⟨tag, middle⟩ := result
        obtain ⟨hmiddle, -, rfl⟩ := Pull.pull16_eq_ok htag
        rw [htag] at h
        dsimp only at h
        rw [Fill.pulled] at h
        cases hlength : Pull.pull16 limit mem (pos + 2) with
        | ok result =>
          obtain ⟨length, next⟩ := result
          obtain ⟨hnext, -, rfl⟩ := Pull.pull16_eq_ok hlength
          rw [hlength] at h
          dsimp only at h
          cases hfind : entries.find? fun entry ↦ entry.tag == tag with
          | some entry =>
            rw [hfind] at h
            exact stopsWithin_andThen (hentries entry (List.mem_of_find?_eq_some hfind) _)
              (ih badTags) mem value _ value' last hsize hnext h
          | none =>
            rw [hfind] at h
            exact hunknown _ badTags _ ih mem value _ value' last hsize hnext h
        | error stop =>
          rw [hlength] at h
          cases stop with
          | reject =>
            cases h
            exact hmiddle
          | crash cause => cases h
      | error stop =>
        rw [htag] at h
        cases stop with
        | reject =>
          cases h
          exact Nat.le_of_lt hpos
        | crash cause => cases h
    · rw [if_neg hpos] at h
      cases h

end Stops

/-! ### Decoders side by side -/

section Shadows

variable {σ τ : Type} {Good : σ → Prop} {R : σ → τ → Prop} {limit : ℕ} {Start : ℕ → Prop}

/-- From these cursors on, the second decoder keeps up with the first as long as what this has
filled in is good, and ends the program where it no longer is. What is not good does not get good
again. -/
structure Shadows (Good : σ → Prop) (R : σ → τ → Prop) (limit : ℕ) (Start : ℕ → Prop) (x : Fill σ)
    (y : Fill τ) : Prop where
  recalls : ∀ mem value pos went value' last, x mem value pos = .ok (went, value', last) →
    Good value' → Good value
  follows : ∀ mem value shadow pos went value' last, limit ≤ mem.size → Start pos →
    R value shadow → x mem value pos = .ok (went, value', last) → Good value' →
    ∃ shadow' last', y mem shadow pos = .ok (went, shadow', last') ∧
      (went = true → R value' shadow' ∧ last' = last)
  faults : ∀ mem value shadow pos went value' last, limit ≤ mem.size → Start pos →
    R value shadow → x mem value pos = .ok (went, value', last) → Good value → ¬ Good value' →
    y mem shadow pos = .error .fault

/-- The cursor may be anywhere. -/
def anywhere : ℕ → Prop := fun _ ↦ True

theorem Shadows.narrow {x : Fill σ} {y : Fill τ} (h : Shadows Good R limit anywhere x y) :
    Shadows Good R limit Start x y where
  recalls := h.recalls
  follows mem value shadow pos went value' last hsize _ :=
    h.follows mem value shadow pos went value' last hsize trivial
  faults mem value shadow pos went value' last hsize _ :=
    h.faults mem value shadow pos went value' last hsize trivial

theorem Shadows.andThen {x x' : Fill σ} {y y' : Fill τ} (hx : Shadows Good R limit Start x y)
    (hx' : Shadows Good R limit anywhere x' y') :
    Shadows Good R limit Start (x.andThen x') (y.andThen y') where
  recalls mem value pos went value' last h hgood := by
    unfold Fill.andThen at h
    cases hrun : x mem value pos with
    | ok result =>
      obtain ⟨through, middle, next⟩ := result
      rw [hrun] at h
      cases through with
      | true =>
        have hmiddle := hx'.recalls mem middle next went value' last h hgood
        exact hx.recalls mem value pos true middle next hrun hmiddle
      | false =>
        cases h
        exact hx.recalls mem value pos false value' last hrun hgood
    | error cause =>
      rw [hrun] at h
      cases h
  follows mem value shadow pos went value' last hsize hpos hrel h hgood := by
    unfold Fill.andThen at h
    cases hrun : x mem value pos with
    | ok result =>
      obtain ⟨through, middle, next⟩ := result
      rw [hrun] at h
      cases through with
      | true =>
        have hmiddle := hx'.recalls mem middle next went value' last h hgood
        obtain ⟨shadow', next', hy, hnext⟩ :=
          hx.follows mem value shadow pos true middle next hsize hpos hrel hrun hmiddle
        obtain ⟨hrel', rfl⟩ := hnext rfl
        obtain ⟨shadow'', last', hy', hlast⟩ :=
          hx'.follows mem middle shadow' next' went value' last hsize trivial hrel' h hgood
        refine ⟨shadow'', last', ?_, hlast⟩
        unfold Fill.andThen
        rw [hy]
        exact hy'
      | false =>
        cases h
        obtain ⟨shadow', next', hy, -⟩ :=
          hx.follows mem value shadow pos false value' last hsize hpos hrel hrun hgood
        refine ⟨shadow', next', ?_, fun h ↦ by cases h⟩
        unfold Fill.andThen
        rw [hy]
    | error cause =>
      rw [hrun] at h
      cases h
  faults mem value shadow pos went value' last hsize hpos hrel h hgood hbad := by
    unfold Fill.andThen at h ⊢
    cases hrun : x mem value pos with
    | ok result =>
      obtain ⟨through, middle, next⟩ := result
      rw [hrun] at h
      cases through with
      | true =>
        by_cases hmiddle : Good middle
        · obtain ⟨shadow', next', hy, hnext⟩ :=
            hx.follows mem value shadow pos true middle next hsize hpos hrel hrun hmiddle
          obtain ⟨hrel', rfl⟩ := hnext rfl
          rw [hy]
          exact hx'.faults mem middle shadow' next' went value' last hsize trivial hrel' h hmiddle
            hbad
        · rw [hx.faults mem value shadow pos true middle next hsize hpos hrel hrun hgood hmiddle]
      | false =>
        cases h
        rw [hx.faults mem value shadow pos false value' last hsize hpos hrel hrun hgood hbad]
    | error cause =>
      rw [hrun] at h
      cases h

/-- Nothing is filled in on either side, and the cursor moves in the same way. -/
theorem shadows_same {x : Fill σ} {y : Fill τ} (move : ℕ → Bool × ℕ)
    (hx : ∀ mem value pos, x mem value pos = .ok ((move pos).1, value, (move pos).2))
    (hy : ∀ mem shadow pos, y mem shadow pos = .ok ((move pos).1, shadow, (move pos).2)) :
    Shadows Good R limit Start x y where
  recalls mem value pos went value' last hrun hgood := by
    rw [hx] at hrun
    cases hrun
    exact hgood
  follows mem value shadow pos went value' last _ _ hrel hrun _ := by
    rw [hx] at hrun
    cases hrun
    exact ⟨shadow, _, hy mem shadow pos, fun _ ↦ ⟨hrel, rfl⟩⟩
  faults mem value shadow pos went value' last _ _ _ hrun hgood hbad := by
    rw [hx] at hrun
    cases hrun
    exact absurd hgood hbad

theorem shadows_leave (went : Bool) :
    Shadows Good R limit Start (.leave went : Fill σ) (.leave went : Fill τ) :=
  shadows_same (fun pos ↦ (went, pos)) (fun _ _ _ ↦ rfl) fun _ _ _ ↦ rfl

theorem shadows_advance (length : ℕ) :
    Shadows Good R limit Start (.advance length : Fill σ) (.advance length : Fill τ) :=
  shadows_same (fun pos ↦ (true, pos + length)) (fun _ _ _ ↦ rfl) fun _ _ _ ↦ rfl

theorem shadows_skip (stop length : ℕ) :
    Shadows Good R limit Start (.skip stop length : Fill σ) (.skip stop length : Fill τ) := by
  have hskip {ρ : Type} (value : ρ) (pos : ℕ) : (if pos + length ≤ stop then
        (.ok (true, value, pos + length) : Outcome (Bool × ρ × ℕ)) else .ok (false, value, pos)) =
      .ok ((if pos + length ≤ stop then (true, pos + length) else (false, pos)).1, value,
        (if pos + length ≤ stop then (true, pos + length) else (false, pos)).2) := by
    split_ifs
    · rfl
    · rfl
  exact shadows_same _ (fun _ value pos ↦ hskip value pos) fun _ shadow pos ↦ hskip shadow pos

/-- Something is read on both sides, behind which the cursor is not past the limit. -/
theorem shadows_pulled {α : Type} {p : Pull α} {f : α → Fill σ} {g : α → Fill τ}
    (hp : ∀ mem pos a next, p mem pos = .ok (a, next) → next ≤ limit)
    (h : ∀ a, Shadows Good R limit (· ≤ limit) (f a) (g a)) :
    Shadows Good R limit Start (.pulled p f) (.pulled p g) where
  recalls mem value pos went value' last hrun hgood := by
    unfold Fill.pulled at hrun
    rcases hpull : p mem pos with (_ | cause) | ⟨a, next⟩
    · rw [hpull] at hrun
      cases hrun
      exact hgood
    · rw [hpull] at hrun
      cases hrun
    · rw [hpull] at hrun
      exact (h a).recalls mem value next went value' last hrun hgood
  follows mem value shadow pos went value' last hsize _ hrel hrun hgood := by
    unfold Fill.pulled at hrun ⊢
    rcases hpull : p mem pos with (_ | cause) | ⟨a, next⟩
    · rw [hpull] at hrun
      cases hrun
      exact ⟨shadow, pos, rfl, fun h ↦ by cases h⟩
    · rw [hpull] at hrun
      cases hrun
    · rw [hpull] at hrun
      exact (h a).follows mem value shadow next went value' last hsize (hp mem pos a next hpull)
        hrel hrun hgood
  faults mem value shadow pos went value' last hsize _ hrel hrun hgood hbad := by
    unfold Fill.pulled at hrun ⊢
    rcases hpull : p mem pos with (_ | cause) | ⟨a, next⟩
    · rw [hpull] at hrun
      cases hrun
      exact absurd hgood hbad
    · rw [hpull] at hrun
      cases hrun
    · rw [hpull] at hrun
      exact (h a).faults mem value shadow next went value' last hsize (hp mem pos a next hpull)
        hrel hrun hgood hbad

/-- The test at the top of a loop. -/
theorem shadows_below {x : Fill σ} {y : Fill τ} (stop : ℕ)
    (h : Shadows Good R limit anywhere x y) :
    Shadows Good R limit Start
      (fun mem value pos ↦ if pos < stop then x mem value pos else .ok (true, value, pos))
      (fun mem value pos ↦ if pos < stop then y mem value pos else .ok (true, value, pos)) where
  recalls mem value pos went value' last hrun hgood := by
    by_cases hpos : pos < stop
    · rw [if_pos hpos] at hrun
      exact h.recalls mem value pos went value' last hrun hgood
    · rw [if_neg hpos] at hrun
      cases hrun
      exact hgood
  follows mem value shadow pos went value' last hsize _ hrel hrun hgood := by
    by_cases hpos : pos < stop
    · rw [if_pos hpos] at hrun ⊢
      exact h.follows mem value shadow pos went value' last hsize trivial hrel hrun hgood
    · rw [if_neg hpos] at hrun ⊢
      cases hrun
      exact ⟨shadow, pos, rfl, fun _ ↦ ⟨hrel, rfl⟩⟩
  faults mem value shadow pos went value' last hsize _ hrel hrun hgood hbad := by
    by_cases hpos : pos < stop
    · rw [if_pos hpos] at hrun ⊢
      exact h.faults mem value shadow pos went value' last hsize trivial hrel hrun hgood hbad
    · rw [if_neg hpos] at hrun
      cases hrun
      exact absurd hgood hbad

/-- Two entries with one tag. -/
structure EntryPair (σ τ : Type) where
  tag : UInt16
  left : Tl → ℕ → Fill σ
  right : Tl → ℕ → Fill τ

/-- Two loops over entries with the same tags. -/
theorem shadows_fillTlvLoop {pairs : List (EntryPair σ τ)} {unknown : Unknown σ}
    {unknown' : Unknown τ}
    (hpairs : ∀ pair ∈ pairs, ∀ tl,
      Shadows Good R limit (· ≤ limit) (pair.left tl limit) (pair.right tl limit))
    (hunknown : ∀ rest rest' badTags tl,
      (∀ badTags, Shadows Good R limit anywhere (rest badTags) (rest' badTags)) →
      Shadows Good R limit (· ≤ limit) (unknown rest badTags tl) (unknown' rest' badTags tl))
    (bound badTags : ℕ) :
    Shadows Good R limit anywhere
      (fillTlvLoop unknown (pairs.map fun pair ↦ ⟨pair.tag, pair.left⟩) limit bound badTags)
      (fillTlvLoop unknown' (pairs.map fun pair ↦ ⟨pair.tag, pair.right⟩) limit bound badTags) := by
  induction bound generalizing badTags with
  | zero =>
    constructor
    · intro _ _ _ _ _ _ h
      cases h
    · intro _ _ _ _ _ _ _ _ _ _ h
      cases h
    · intro _ _ _ _ _ _ _ _ _ _ h
      cases h
  | succ bound ih =>
    unfold fillTlvLoop
    apply shadows_below
    apply shadows_pulled fun _ _ _ _ ↦ pull16_le
    intro tag
    apply shadows_pulled fun _ _ _ _ ↦ pull16_le
    intro length
    rw [List.find?_map, List.find?_map]
    cases hfind : pairs.find? fun pair ↦ pair.tag == tag with
    | some pair =>
      have hleft : pairs.find? ((fun entry : Entry σ ↦ entry.tag == tag) ∘
          fun pair ↦ ⟨pair.tag, pair.left⟩) = some pair := hfind
      have hright : pairs.find? ((fun entry : Entry τ ↦ entry.tag == tag) ∘
          fun pair ↦ ⟨pair.tag, pair.right⟩) = some pair := hfind
      rw [hleft, hright]
      exact (hpairs pair (List.mem_of_find?_eq_some hfind) _).andThen (ih badTags)
    | none =>
      have hleft : pairs.find? ((fun entry : Entry σ ↦ entry.tag == tag) ∘
          fun pair ↦ ⟨pair.tag, pair.left⟩) = none := hfind
      have hright : pairs.find? ((fun entry : Entry τ ↦ entry.tag == tag) ∘
          fun pair ↦ ⟨pair.tag, pair.right⟩) = none := hfind
      rw [hleft, hright]
      exact hunknown _ _ badTags _ ih

/-- Two list decoders whose loops go along with each other. -/
theorem shadows_fillTlvList {unknown : Unknown σ} {unknown' : Unknown τ} {entries : List (Entry σ)}
    {entries' : List (Entry τ)}
    (hloop : ∀ bound, Shadows Good R limit anywhere (fillTlvLoop unknown entries limit bound 0)
      (fillTlvLoop unknown' entries' limit bound 0)) :
    Shadows Good R limit anywhere (fillTlvList unknown entries limit)
      (fillTlvList unknown' entries' limit) := by
  constructor
  · intro mem value pos
    exact (hloop (limit - pos + 1)).recalls mem value pos
  · intro mem value shadow pos
    exact (hloop (limit - pos + 1)).follows mem value shadow pos
  · intro mem value shadow pos
    exact (hloop (limit - pos + 1)).faults mem value shadow pos

/-- Decoders for a component, beside which there is the same on both sides. -/
theorem shadows_fst {ε : Type} {x : Fill σ} {y : Fill τ} (h : Shadows Good R limit Start x y) :
    Shadows (fun value : σ × ε ↦ Good value.1)
      (fun value (shadow : τ × ε) ↦ R value.1 shadow.1 ∧ value.2 = shadow.2) limit Start
      (.component Prod.fst (fun value part ↦ (part, value.2)) x)
      (.component Prod.fst (fun value part ↦ (part, value.2)) y) where
  recalls mem value pos went value' last hrun hgood := by
    unfold Fill.component at hrun
    cases hx : x mem value.1 pos with
    | ok result =>
      obtain ⟨through, part, next⟩ := result
      rw [hx] at hrun
      cases hrun
      exact h.recalls mem value.1 pos _ part last hx hgood
    | error cause =>
      rw [hx] at hrun
      cases hrun
  follows mem value shadow pos went value' last hsize hpos hrel hrun hgood := by
    unfold Fill.component at hrun ⊢
    cases hx : x mem value.1 pos with
    | ok result =>
      obtain ⟨through, part, next⟩ := result
      rw [hx] at hrun
      cases hrun
      obtain ⟨part', last', hy, hthrough⟩ :=
        h.follows mem value.1 shadow.1 pos _ part last hsize hpos hrel.1 hx hgood
      rw [hy]
      refine ⟨_, _, rfl, ?_⟩
      intro hwent
      obtain ⟨hpart, hlast⟩ := hthrough hwent
      exact ⟨⟨hpart, hrel.2⟩, hlast⟩
    | error cause =>
      rw [hx] at hrun
      cases hrun
  faults mem value shadow pos went value' last hsize hpos hrel hrun hgood hbad := by
    unfold Fill.component at hrun ⊢
    cases hx : x mem value.1 pos with
    | ok result =>
      obtain ⟨through, part, next⟩ := result
      rw [hx] at hrun
      cases hrun
      rw [h.faults mem value.1 shadow.1 pos _ part last hsize hpos hrel.1 hx hgood hbad]
    | error cause =>
      rw [hx] at hrun
      cases hrun

end Shadows

/-! ### Walks -/

section Walk

variable {τ : Type} {Good : List UInt16 → Prop} {R : List UInt16 → τ → Prop} {limit : ℕ}

/-- From a cursor that is not past the limit, the decoder takes this many bytes if these are there,
and then what is filled in is right. -/
def Takes (limit size : ℕ) (y : Fill τ) (shadow : τ) (Right : τ → Prop) : Prop :=
  ∀ mem pos, limit ≤ mem.size → pos ≤ limit → ∃ shadow' last,
    y mem shadow pos = .ok (decide (pos + size ≤ limit), shadow', last) ∧
      (pos + size ≤ limit → Right shadow' ∧ last = pos + size)

/-- A decoder that goes along with a walk over one field. -/
theorem shadows_walkEntry {tag : UInt16} {size : ℕ} {tl : Tl} {y : Fill τ}
    (hrecalls : ∀ tags, Good (tags ++ [tag]) → Good tags)
    (htakes : ∀ tags shadow, R tags shadow → Good (tags ++ [tag]) →
      Takes limit size y shadow (R (tags ++ [tag])))
    (hfaults : ∀ tags shadow mem pos, R tags shadow → Good tags → ¬ Good (tags ++ [tag]) →
      y mem shadow pos = .error .fault) :
    Shadows Good R limit (· ≤ limit) ((walkEntry tag size).fill tl limit) y := by
  have hwalk : ∀ mem (tags : List UInt16) pos, (walkEntry tag size).fill tl limit mem tags pos =
      .ok (decide (pos + size ≤ limit), tags ++ [tag],
        if pos + size ≤ limit then pos + size else pos) := by
    intro mem tags pos
    show Fill.skip limit size mem (tags ++ [tag]) pos = _
    unfold Fill.skip
    by_cases hroom : pos + size ≤ limit
    · rw [if_pos hroom, if_pos hroom, decide_eq_true hroom]
    · rw [if_neg hroom, if_neg hroom, decide_eq_false hroom]
  constructor
  · intro mem tags pos went tags' last hrun hgood
    rw [hwalk] at hrun
    cases hrun
    exact hrecalls tags hgood
  · intro mem tags shadow pos went tags' last hsize hpos hrel hrun hgood
    rw [hwalk] at hrun
    cases hrun
    obtain ⟨shadow', last', hy, hright⟩ := htakes tags shadow hrel hgood mem pos hsize hpos
    refine ⟨shadow', last', hy, ?_⟩
    intro hwent
    have hroom := of_decide_eq_true hwent
    rw [if_pos hroom]
    exact hright hroom
  · intro mem tags shadow pos went tags' last _ _ hrel hrun hgood hbad
    rw [hwalk] at hrun
    cases hrun
    exact hfaults tags shadow mem pos hrel hgood hbad

/-- A walk over the bytes of a field with a value of the right size. -/
theorem fills_walkEntry {tag : UInt16} {tl : Tl} {value : List UInt8} {size : ℕ}
    (hvalue : value.length = size) (tags : List UInt16) :
    Fills limit ((walkEntry tag size).fill tl limit) tags value (tags ++ [tag]) := by
  intro mem pos _ hlimit
  show Fill.skip limit size mem (tags ++ [tag]) pos = _
  unfold Fill.skip
  rw [← hvalue, if_pos hlimit]

/-- Each tag fits behind those that came before it. -/
def EachFits (fits : List UInt16 → UInt16 → Prop) (tags : List UInt16) : Prop :=
  ∀ front tag back, tags = front ++ tag :: back → fits front tag

theorem eachFits_nil (fits : List UInt16 → UInt16 → Prop) : EachFits fits [] := by
  intro front tag back h
  cases front with
  | nil => cases h
  | cons first front => cases h

theorem eachFits_concat {fits : List UInt16 → UInt16 → Prop} {tags : List UInt16} {tag : UInt16} :
    EachFits fits (tags ++ [tag]) ↔ EachFits fits tags ∧ fits tags tag := by
  constructor
  · intro h
    refine ⟨?_, h tags tag [] rfl⟩
    intro front first back htags
    apply h front first (back ++ [tag])
    rw [htags, List.append_assoc, List.cons_append]
  · rintro ⟨hall, hlast⟩ front first back htags
    rcases List.eq_nil_or_concat back with rfl | ⟨back, last, rfl⟩
    · obtain ⟨rfl, hfirst⟩ := List.append_inj' htags rfl
      cases hfirst
      exact hlast
    · rw [List.concat_eq_append, ← List.cons_append, ← List.append_assoc] at htags
      obtain ⟨htags, -⟩ := List.append_inj' htags rfl
      exact hall front first back htags

/-! What takes a number of bytes. -/

section Takes

theorem room_eq_error {mem : Memory} {pos count : ℕ} (h : ¬ pos + count ≤ limit) :
    Pull.room count limit mem pos = .error .reject := by
  unfold Pull.room
  rw [Pull.ensure_of_false h]
  rfl

theorem pull8_of_room {mem : Memory} {pos : ℕ} (hsize : limit ≤ mem.size)
    (hroom : pos + 1 ≤ limit) : Pull.pull8 limit mem pos = .ok (mem.byte pos, pos + 1) := by
  have hcheck : Pull.room 1 limit mem pos = .ok ((), pos) := room_eq_ok.mpr ⟨hroom, rfl⟩
  unfold Pull.pull8
  rw [Pull.bind_of_ok hcheck]
  exact Pull.byte_of_room (Nat.lt_of_lt_of_le hroom hsize)

theorem pull8_of_no_room {mem : Memory} {pos : ℕ} (hroom : ¬ pos + 1 ≤ limit) :
    Pull.pull8 limit mem pos = .error .reject :=
  Pull.bind_of_error (room_eq_error hroom)

theorem repeatPull_byte_of_room {mem : Memory} {pos : ℕ} (count : ℕ) (h : pos + count ≤ mem.size) :
    ∃ array, Pull.repeatPull Pull.byte count mem pos = .ok (array, pos + count) := by
  induction count generalizing pos with
  | zero => exact ⟨[], rfl⟩
  | succ count ih =>
    have hroom : pos + 1 + count ≤ mem.size := by omega
    obtain ⟨rest, hrest⟩ := ih hroom
    have hfirst : Pull.byte mem pos = .ok (mem.byte pos, pos + 1) :=
      Pull.byte_of_room (by omega)
    refine ⟨mem.byte pos :: rest, ?_⟩
    unfold Pull.repeatPull
    rw [Pull.bind_of_ok hfirst, Pull.bind_of_ok hrest, Pull.pure_apply, Nat.add_assoc,
      Nat.add_comm 1]

variable {σ : Type} {size : ℕ} {x : Fill τ} {shadow : τ} {Right : τ → Prop}

theorem Takes.imp {Right' : τ → Prop} (h : Takes limit size x shadow Right)
    (himp : ∀ shadow', Right shadow' → Right' shadow') : Takes limit size x shadow Right' := by
  intro mem pos hsize hpos
  obtain ⟨shadow', last, hrun, hright⟩ := h mem pos hsize hpos
  refine ⟨shadow', last, hrun, ?_⟩
  intro hroom
  exact ⟨himp shadow' (hright hroom).1, (hright hroom).2⟩

theorem takes_component {get : σ → τ} {put : σ → τ → σ} {value : σ} {Right' : σ → Prop}
    (h : Takes limit size x (get value) Right) (hput : ∀ part, Right part → Right' (put value part)) :
    Takes limit size (.component get put x) value Right' := by
  intro mem pos hsize hpos
  obtain ⟨part, last, hrun, hright⟩ := h mem pos hsize hpos
  refine ⟨put value part, last, ?_, ?_⟩
  · unfold Fill.component
    rw [hrun]
  · intro hroom
    exact ⟨hput part (hright hroom).1, (hright hroom).2⟩

theorem takes_inPlace {place : Place σ τ} {value : σ} {Right' : σ → Prop}
    (hget : place.get value = some shadow) (h : Takes limit size x shadow Right)
    (hput : ∀ part, Right part → Right' (place.put value part)) :
    Takes limit size (.inPlace place x) value Right' := by
  intro mem pos hsize hpos
  obtain ⟨part, last, hrun, hright⟩ := h mem pos hsize hpos
  refine ⟨place.put value part, last, inPlace_of_get hget hrun, ?_⟩
  intro hroom
  exact ⟨hput part (hright hroom).1, (hright hroom).2⟩

/-- Something is changed first that takes no bytes. -/
theorem takes_after {y : Fill τ} {shadow' : τ}
    (hy : ∀ mem pos, y mem shadow pos = .ok (true, shadow', pos))
    (h : Takes limit size x shadow' Right) : Takes limit size (y.andThen x) shadow Right := by
  intro mem pos hsize hpos
  obtain ⟨last', last, hrun, hright⟩ := h mem pos hsize hpos
  refine ⟨last', last, ?_, hright⟩
  unfold Fill.andThen
  rw [hy]
  exact hrun

theorem takes_thenModify {f : τ → τ} {Right' : τ → Prop} (h : Takes limit size x shadow Right)
    (hf : ∀ part, Right part → Right' (f part)) :
    Takes limit size (x.thenModify f) shadow Right' := by
  intro mem pos hsize hpos
  obtain ⟨part, last, hrun, hright⟩ := h mem pos hsize hpos
  refine ⟨f part, last, ?_, ?_⟩
  · unfold Fill.thenModify
    rw [hrun]
  · intro hroom
    exact ⟨hf part (hright hroom).1, (hright hroom).2⟩

/-- A value of a fixed size that is pulled and stored. -/
theorem takes_pull {α : Type} {p : Pull α} {set : τ → α → τ}
    (hroom : ∀ mem pos, limit ≤ mem.size → pos + size ≤ limit →
      ∃ a, p mem pos = .ok (a, pos + size))
    (hshort : ∀ mem pos, pos ≤ limit → ¬ pos + size ≤ limit → p mem pos = .error .reject)
    (hset : ∀ a, Right (set shadow a)) : Takes limit size (.pull p set) shadow Right := by
  intro mem pos hsize hpos
  unfold Fill.pull Fill.pulled
  by_cases hfits : pos + size ≤ limit
  · obtain ⟨a, hp⟩ := hroom mem pos hsize hfits
    rw [hp, decide_eq_true hfits]
    exact ⟨set shadow a, pos + size, rfl, fun _ ↦ ⟨hset a, rfl⟩⟩
  · rw [hshort mem pos hpos hfits, decide_eq_false hfits]
    exact ⟨shadow, pos, rfl, fun hroom ↦ absurd hroom hfits⟩

theorem takes_andThen_done (h : Takes limit size x shadow Right) :
    Takes limit size (x.andThen .done) shadow Right := by
  intro mem pos hsize hpos
  obtain ⟨part, last, hrun, hright⟩ := h mem pos hsize hpos
  refine ⟨part, last, ?_, hright⟩
  unfold Fill.andThen
  rw [hrun]
  by_cases hfits : pos + size ≤ limit
  · rw [decide_eq_true hfits]
    rfl
  · rw [decide_eq_false hfits]

theorem takes_pull8 {set : τ → UInt8 → τ} (hset : ∀ a, Right (set shadow a)) :
    Takes limit 1 (.pull (.pull8 limit) set) shadow Right := by
  apply takes_pull _ _ hset
  · intro mem pos hsize hroom
    exact ⟨mem.byte pos, pull8_of_room hsize hroom⟩
  · intro mem pos _ hshort
    exact pull8_of_no_room hshort

theorem takes_pull16 {set : τ → UInt16 → τ} (hset : ∀ a, Right (set shadow a)) :
    Takes limit 2 (.pull (.pull16 limit) set) shadow Right := by
  apply takes_pull _ _ hset
  · intro mem pos hsize hroom
    exact ⟨_, Pull.pull16_of_room hroom (Nat.le_trans hroom hsize)⟩
  · intro mem pos _ hshort
    exact Pull.pull16_of_no_room hshort

theorem takes_pull32 {set : τ → UInt32 → τ} (hset : ∀ a, Right (set shadow a)) :
    Takes limit 4 (.pull (.pull32 limit) set) shadow Right := by
  apply takes_pull _ _ hset
  · intro mem pos hsize hroom
    exact Pull.pull32_of_room hroom (Nat.le_trans hroom hsize)
  · intro mem pos _ hshort
    exact Pull.bind_of_error (room_eq_error hshort)

/-- An array of bytes. What the caller puts into the structure has its length. -/
theorem takes_pullarray8 {maxLen count : ℕ} (hpos : count ≠ 0) (hmax : count ≤ maxLen)
    {set : τ → List UInt8 → τ} (hset : ∀ a, Right (set shadow a)) :
    Takes limit count (.pull (.pullarray8 maxLen count limit) set) shadow Right := by
  apply takes_pull _ _ hset
  · intro mem pos hsize hroom
    obtain ⟨array, harray⟩ := repeatPull_byte_of_room count (Nat.le_trans hroom hsize)
    refine ⟨array, ?_⟩
    have hposition : Pull.position mem pos = .ok (pos, pos) := rfl
    unfold Pull.pullarray8
    rw [if_neg hpos, Pull.ensure_of_true hmax, Pull.bind_of_ok (Pull.pure_apply () mem pos),
      Pull.bind_of_ok hposition, Pull.ensure_of_true (.inr hroom),
      Pull.bind_of_ok (Pull.pure_apply () mem pos)]
    exact harray
  · intro mem pos hlimit hshort
    have hposition : Pull.position mem pos = .ok (pos, pos) := rfl
    have hnot : ¬ (limit < pos ∨ pos + count ≤ limit) := by
      rw [not_or]
      exact ⟨Nat.not_lt.mpr hlimit, hshort⟩
    unfold Pull.pullarray8
    rw [if_neg hpos, Pull.ensure_of_true hmax, Pull.bind_of_ok (Pull.pure_apply () mem pos),
      Pull.bind_of_ok hposition, Pull.ensure_of_false hnot]
    rfl

/-- Values that are pulled one by one into places that are there: what is returned in the end is the
result of the last of them, and all of them have room if it has. -/
theorem takes_lastOf {body : ℕ → Fill τ} {stop : ℕ} (count index : ℕ) (result : Bool)
    (hstop : index + count < stop)
    (hroom : ∀ index < stop, ∀ mem shadow pos, limit ≤ mem.size → Right shadow →
      pos + size ≤ limit →
        ∃ shadow', body index mem shadow pos = .ok (true, shadow', pos + size) ∧ Right shadow')
    (hshort : ∀ index < stop, ∀ mem shadow pos, Right shadow → ¬ pos + size ≤ limit →
      ∃ shadow', body index mem shadow pos = .ok (false, shadow', pos) ∧ Right shadow')
    (hshadow : Right shadow) :
    Takes limit (size * (count + 1)) (.lastOf body (count + 1) index result) shadow Right := by
  intro mem pos hsize hpos
  induction count generalizing index result shadow pos with
  | zero =>
    rw [Nat.zero_add, Nat.mul_one]
    unfold Fill.lastOf
    by_cases hfits : pos + size ≤ limit
    · obtain ⟨shadow', hrun, hright⟩ := hroom index hstop mem shadow pos hsize hshadow hfits
      rw [hrun, decide_eq_true hfits]
      exact ⟨shadow', pos + size, rfl, fun _ ↦ ⟨hright, rfl⟩⟩
    · obtain ⟨shadow', hrun, -⟩ := hshort index hstop mem shadow pos hshadow hfits
      rw [hrun, decide_eq_false hfits]
      exact ⟨shadow', pos, rfl, fun hroom ↦ absurd hroom hfits⟩
  | succ count ih =>
    have hmul : size * (count + 1 + 1) = size + size * (count + 1) := by
      rw [Nat.mul_succ, Nat.add_comm]
    have hindex : index < stop := by omega
    have hrest : index + 1 + count < stop := by omega
    rw [hmul, ← Nat.add_assoc]
    unfold Fill.lastOf
    by_cases hfits : pos + size ≤ limit
    · obtain ⟨shadow', hrun, hright⟩ := hroom index hindex mem shadow pos hsize hshadow hfits
      rw [hrun]
      exact ih (index + 1) true hrest hright (pos + size) hfits
    · obtain ⟨shadow', hrun, hright⟩ := hshort index hindex mem shadow pos hshadow hfits
      have hlong : ¬ pos + size + size * (count + 1) ≤ limit := by omega
      have hnone : ¬ pos + size * (count + 1) ≤ limit := by
        rw [Nat.mul_succ]
        omega
      obtain ⟨shadow'', last, hlast, -⟩ := ih (index + 1) false hrest hright pos hpos
      rw [hrun, decide_eq_false hlong]
      rw [decide_eq_false hnone] at hlast
      exact ⟨shadow'', last, hlast, fun hroom ↦ absurd hroom hlong⟩

theorem takes_look {f : τ → Fill τ} (h : Takes limit size (f shadow) shadow Right) :
    Takes limit size (.look f) shadow Right := h

end Takes

end Walk

end MultiUeProxy.Lib.FieldWalk
