import MultiUeProxy.Lib.FieldWalk
import MultiUeProxy.Lib.LoopCodec

/-!
# Pre- and postconditions of decoders

What a decoder does with bytes that nobody has packed. It ends in one of three ways: it goes
through, it stops, or it writes outside of the memory. `Runs` says what holds in each of these cases,
for every value and cursor that meet a precondition: a postcondition of value and cursor, and two
propositions. With `True` and `False` for these, the decoder is safe (`Keeps`).

There is a rule for each way to put decoders together. `ensures` is the weakest precondition of a
list of steps, and `runs_elements` the rule for the elements of a list, with an invariant that
counts how many are left.

A `Span` says of the bytes alone what becomes of a decoder. `Spans` is a triple for every span that
the bytes may have, and makes the decoder go along with a walk over the spans (`shadows_span`).
-/

set_option autoImplicit false
set_option relaxedAutoImplicit false

namespace MultiUeProxy.Lib.FillLogic

open Execution ByteCursor InPlace TaggedParts FieldWalk
open ByteCursor.Pull (Tl)

/-- A condition on a value and the cursor. -/
abbrev Assertion (σ : Type) : Type := σ → ℕ → Prop

/-- How a decoder ends that began at `pos`: it goes through with the postcondition and the cursor
between there and the limit, or it stops, or it writes outside of the memory. -/
inductive Ends {σ : Type} (limit : ℕ) (stops faults : Prop) (pos : ℕ) (Q : Assertion σ) :
    Outcome (Bool × σ × ℕ) → Prop where
  | goes (value : σ) (last : ℕ) (hfront : pos ≤ last) (hlast : last ≤ limit) (h : Q value last) :
    Ends limit stops faults pos Q (.ok (true, value, last))
  | stop (value : σ) (last : ℕ) (h : stops) :
    Ends limit stops faults pos Q (.ok (false, value, last))
  | fault (h : faults) : Ends limit stops faults pos Q (.error .fault)

/-- With the precondition and the cursor below the limit, the decoder ends in one of these ways. -/
def Runs {σ : Type} (mem : Memory) (limit : ℕ) (stops faults : Prop) (P : Assertion σ) (x : Fill σ)
    (Q : Assertion σ) : Prop :=
  ∀ value pos, pos ≤ limit → P value pos → Ends limit stops faults pos Q (x mem value pos)

/-- The decoder keeps an invariant of the value, and takes the cursor from here to there. -/
def Moves {σ : Type} (mem : Memory) (limit : ℕ) (stops faults : Prop) (Inv : σ → Prop)
    (x : Fill σ) (here there : ℕ → Prop) : Prop :=
  Runs mem limit stops faults (fun value pos ↦ Inv value ∧ here pos) x fun value pos ↦
    Inv value ∧ there pos

/-- For every value that meets the invariant, the decoder goes through and keeps it, or stops. -/
abbrev Keeps {σ : Type} (mem : Memory) (limit : ℕ) (Inv : σ → Prop) (x : Fill σ) : Prop :=
  Moves mem limit True False Inv x (fun _ ↦ True) fun _ ↦ True

section Rules

variable {σ τ α : Type} {mem : Memory} {limit : ℕ} {stops faults : Prop} {P P' Q Q' : Assertion σ}
  {x y : Fill σ}

theorem Ends.imp {pos : ℕ} {outcome : Outcome (Bool × σ × ℕ)}
    (h : Ends limit stops faults pos Q outcome)
    (hpost : ∀ value last, last ≤ limit → Q value last → Q' value last) :
    Ends limit stops faults pos Q' outcome := by
  cases h with
  | goes value last hfront hlast h => exact .goes value last hfront hlast (hpost value last hlast h)
  | stop value last h => exact .stop value last h
  | fault h => exact .fault h

/-- What a decoder that begins further back does, one does that begins here. -/
theorem Ends.earlier {pos pos' : ℕ} {outcome : Outcome (Bool × σ × ℕ)}
    (h : Ends limit stops faults pos' Q outcome) (hpos : pos ≤ pos') :
    Ends limit stops faults pos Q outcome := by
  cases h with
  | goes value last hfront hlast h => exact .goes value last (Nat.le_trans hpos hfront) hlast h
  | stop value last h => exact .stop value last h
  | fault h => exact .fault h

theorem Runs.consequence (h : Runs mem limit stops faults P x Q)
    (hpre : ∀ value pos, pos ≤ limit → P' value pos → P value pos)
    (hpost : ∀ value pos, pos ≤ limit → Q value pos → Q' value pos) :
    Runs mem limit stops faults P' x Q' := by
  intro value pos hpos hP
  exact (h value pos hpos (hpre value pos hpos hP)).imp hpost

theorem runs_done : Runs mem limit stops faults P .done P :=
  fun value pos hpos hP ↦ .goes value pos (Nat.le_refl _) hpos hP

theorem runs_leave (h : ∀ value pos, P value pos → stops) :
    Runs mem limit stops faults P (.leave false) Q :=
  fun value pos _ hP ↦ .stop value pos (h value pos hP)

theorem runs_modify {f : σ → σ} (h : ∀ value pos, P value pos → Q (f value) pos) :
    Runs mem limit stops faults P (.modify f) Q :=
  fun value pos hpos hP ↦ .goes (f value) pos (Nat.le_refl _) hpos (h value pos hP)

/-- The second decoder begins behind the first. -/
theorem runs_andThen {middle : Assertion σ} (hx : Runs mem limit stops faults P x middle)
    (hy : Runs mem limit stops faults middle y Q) :
    Runs mem limit stops faults P (x.andThen y) Q := by
  intro value pos hpos hP
  have hfirst := hx value pos hpos hP
  unfold Fill.andThen
  generalize x mem value pos = outcome at hfirst ⊢
  cases hfirst with
  | goes part next hfront hnext hmiddle =>
    exact (hy part next hnext hmiddle).earlier hfront
  | stop part next h => exact .stop part next h
  | fault h => exact .fault h

theorem runs_look {f : σ → Fill σ}
    (h : ∀ start, Runs mem limit stops faults (fun value pos ↦ value = start ∧ P value pos)
      (f start) Q) :
    Runs mem limit stops faults P (.look f) Q :=
  fun value pos hpos hP ↦ h value value pos hpos ⟨rfl, hP⟩

/-- A decoder for a component, beside which the structure is as it was. -/
theorem runs_component {get : σ → τ} {put : σ → τ → σ} {part : Fill τ} {R R' : Assertion τ}
    {Frame : σ → Prop} (hpart : Runs mem limit stops faults R part R')
    (hpre : ∀ value pos, P value pos → Frame value ∧ R (get value) pos)
    (hpost : ∀ value component last, Frame value → R' component last →
      Q (put value component) last) :
    Runs mem limit stops faults P (.component get put part) Q := by
  intro value pos hpos hP
  obtain ⟨hframe, hR⟩ := hpre value pos hP
  have hends := hpart (get value) pos hpos hR
  unfold Fill.component
  generalize part mem (get value) pos = outcome at hends ⊢
  cases hends with
  | goes component last hfront hlast h =>
    exact .goes _ last hfront hlast (hpost value component last hframe h)
  | stop component last h => exact .stop _ last h
  | fault h => exact .fault h

theorem Moves.andThen {Inv : σ → Prop} {here halfway there : ℕ → Prop}
    (hx : Moves mem limit stops faults Inv x here halfway)
    (hy : Moves mem limit stops faults Inv y halfway there) :
    Moves mem limit stops faults Inv (x.andThen y) here there :=
  runs_andThen hx hy

theorem moves_modify {Inv : σ → Prop} {f : σ → σ} {here : ℕ → Prop}
    (h : ∀ value, Inv value → Inv (f value)) :
    Moves mem limit stops faults Inv (.modify f) here here :=
  runs_modify fun value _ hvalue ↦ ⟨h value hvalue.1, hvalue.2⟩

theorem Moves.component {get : σ → τ} {put : σ → τ → σ} {part : Fill τ} {Inv : σ → Prop}
    {Good : τ → Prop} {here there : ℕ → Prop}
    (hpart : Moves mem limit stops faults Good part here there)
    (hget : ∀ value, Inv value → Good (get value))
    (hput : ∀ value component, Inv value → Good component → Inv (put value component)) :
    Moves mem limit stops faults Inv (.component get put part) here there := by
  apply @runs_component σ τ mem limit stops faults _ _ _ _ _ _ _ Inv hpart
  · rintro value pos ⟨hvalue, hhere⟩
    exact ⟨hvalue, hget value hvalue, hhere⟩
  · rintro value component last hvalue ⟨hcomponent, hthere⟩
    exact ⟨hput value component hvalue hcomponent, hthere⟩

/-- Something is pulled that is there, or the decoder stops. -/
theorem runs_pull {p : Pull α} {set : σ → α → σ}
    (h : ∀ value pos, pos ≤ limit → P value pos →
      (∃ a last, p mem pos = .ok (a, last) ∧ pos ≤ last ∧ last ≤ limit ∧ Q (set value a) last) ∨
        (p mem pos = .error .reject ∧ stops)) :
    Runs mem limit stops faults P (.pull p set) Q := by
  intro value pos hpos hP
  unfold Fill.pull Fill.pulled
  rcases h value pos hpos hP with ⟨a, last, hpull, hfront, hlast, hQ⟩ | ⟨hreject, hstops⟩
  · rw [hpull]
    exact .goes _ last hfront hlast hQ
  · rw [hreject]
    exact .stop value pos hstops

/-- A loop whose body takes the invariant for one more element to that for one less. -/
theorem runs_loop {body : ℕ → Fill σ} {Inv : ℕ → Assertion σ} (count index : ℕ)
    (h : ∀ next remaining, next + (remaining + 1) = index + count →
      Runs mem limit stops faults (Inv (remaining + 1)) (body next) (Inv remaining)) :
    Runs mem limit stops faults (Inv count) (.loop body count index) (Inv 0) := by
  induction count generalizing index with
  | zero => exact runs_done
  | succ count ih =>
    have hrest := ih (index + 1) fun next remaining hsum ↦ h next remaining (by omega)
    exact runs_andThen (h index count rfl) hrest

/-! ### Steps -/

theorem repeatPull_of_room {element : Pull α} {width : ℕ}
    (helement : ∀ pos, pos + width ≤ limit → ∃ a, element mem pos = .ok (a, pos + width))
    (count : ℕ) {pos : ℕ} (hroom : pos + width * count ≤ limit) :
    ∃ array, Pull.repeatPull element count mem pos = .ok (array, pos + width * count) := by
  induction count generalizing pos with
  | zero => exact ⟨[], rfl⟩
  | succ count ih =>
    rw [Nat.mul_succ] at hroom ⊢
    obtain ⟨first, hfirst⟩ := helement pos (by omega)
    have hnext : pos + width + width * count ≤ limit := by omega
    obtain ⟨rest, hrest⟩ := ih hnext
    refine ⟨first :: rest, ?_⟩
    unfold Pull.repeatPull
    rw [Pull.bind_of_ok hfirst, Pull.bind_of_ok hrest, Pull.pure_apply, Nat.add_assoc,
      Nat.add_comm width]

/-- An array of elements that take `width` bytes each: it is there, or it is refused because it is
too long or the bytes are not there. -/
theorem pullarray_cases {element : Pull α} {width maxLen count pos : ℕ}
    (helement : ∀ pos, pos + width ≤ limit → ∃ a, element mem pos = .ok (a, pos + width))
    (hpos : pos ≤ limit) {pullarray : Pull (List α)}
    (hpull : pullarray = if count = 0 then return [] else do
      Pull.ensure (count ≤ maxLen)
      let pos ← Pull.position
      Pull.ensure (limit < pos ∨ pos + width * count ≤ limit)
      Pull.repeatPull element count) :
    (count ≤ maxLen ∧ pos + width * count ≤ limit ∧
        ∃ array, pullarray mem pos = .ok (array, pos + width * count) ∧ array.length = count) ∨
      (¬ (count ≤ maxLen ∧ pos + width * count ≤ limit) ∧
        pullarray mem pos = .error .reject) := by
  subst hpull
  by_cases hzero : count = 0
  · subst hzero
    exact .inl ⟨Nat.zero_le _, hpos, [], rfl, rfl⟩
  · rw [if_neg hzero]
    by_cases hmax : count ≤ maxLen
    · have hposition : Pull.position mem pos = .ok (pos, pos) := rfl
      rw [Pull.ensure_of_true hmax, Pull.bind_of_ok (Pull.pure_apply () mem pos),
        Pull.bind_of_ok hposition]
      by_cases hroom : pos + width * count ≤ limit
      · obtain ⟨array, hrepeat⟩ := repeatPull_of_room helement count hroom
        rw [Pull.ensure_of_true (.inr hroom), Pull.bind_of_ok (Pull.pure_apply () mem pos)]
        exact .inl ⟨hmax, hroom, array, hrepeat, Pull.repeatPull_length element count hrepeat⟩
      · have hnot : ¬ (limit < pos ∨ pos + width * count ≤ limit) := by
          rw [not_or]
          exact ⟨Nat.not_lt.mpr hpos, hroom⟩
        rw [Pull.ensure_of_false hnot]
        exact .inr ⟨fun h ↦ hroom h.2, rfl⟩
    · rw [Pull.ensure_of_false hmax]
      exact .inr ⟨fun h ↦ hmax h.1, rfl⟩

theorem pullarray8_cases {maxLen count pos : ℕ} (hsize : limit ≤ mem.size) (hpos : pos ≤ limit) :
    (count ≤ maxLen ∧ pos + count ≤ limit ∧ ∃ array, Pull.pullarray8 maxLen count limit mem pos =
        .ok (array, pos + count) ∧ array.length = count) ∨
      (¬ (count ≤ maxLen ∧ pos + count ≤ limit) ∧
        Pull.pullarray8 maxLen count limit mem pos = .error .reject) := by
  have hbyte : ∀ pos, pos + 1 ≤ limit → ∃ a, Pull.byte mem pos = .ok (a, pos + 1) :=
    fun pos hroom ↦ ⟨_, Pull.byte_of_room (Nat.lt_of_lt_of_le hroom hsize)⟩
  have hcases := @pullarray_cases UInt8 mem limit Pull.byte 1 maxLen count pos hbyte hpos
    (Pull.pullarray8 maxLen count limit) (by rw [Nat.one_mul]; rfl)
  rwa [Nat.one_mul] at hcases

theorem pullarray16_cases {maxLen count pos : ℕ} (hsize : limit ≤ mem.size) (hpos : pos ≤ limit) :
    (count ≤ maxLen ∧ pos + 2 * count ≤ limit ∧
        ∃ array, Pull.pullarray16 maxLen count limit mem pos = .ok (array, pos + 2 * count) ∧
          array.length = count) ∨
      (¬ (count ≤ maxLen ∧ pos + 2 * count ≤ limit) ∧
        Pull.pullarray16 maxLen count limit mem pos = .error .reject) :=
  pullarray_cases
    (fun _ hroom ↦ ⟨_, Pull.pull16_of_room hroom (Nat.le_trans hroom hsize)⟩) hpos rfl

/-- The weakest precondition of a step. -/
def ensuresStep (mem : Memory) (limit : ℕ) (stops : Prop) (Q : Assertion σ) : Step σ → Assertion σ
  | .pull8 set, value, pos =>
    (pos + 1 ≤ limit → Q (set value (mem.byte pos)) (pos + 1)) ∧ (¬ pos + 1 ≤ limit → stops)
  | .pull16 set, value, pos =>
    (pos + 2 ≤ limit → ∀ a, Q (set value a) (pos + 2)) ∧ (¬ pos + 2 ≤ limit → stops)
  | .pull32 set, value, pos =>
    (pos + 4 ≤ limit → ∀ a, Q (set value a) (pos + 4)) ∧ (¬ pos + 4 ≤ limit → stops)
  | .pullarray8 maxLen count set, value, pos =>
    (count value ≤ maxLen → pos + count value ≤ limit →
      ∀ array, array.length = count value → Q (set value array) (pos + count value)) ∧
      (¬ (count value ≤ maxLen ∧ pos + count value ≤ limit) → stops)
  | .pullarray16 maxLen count set, value, pos =>
    (count value ≤ maxLen → pos + 2 * count value ≤ limit →
      ∀ array, array.length = count value → Q (set value array) (pos + 2 * count value)) ∧
      (¬ (count value ≤ maxLen ∧ pos + 2 * count value ≤ limit) → stops)

/-- The weakest precondition of a list of steps. -/
def ensures (mem : Memory) (limit : ℕ) (stops : Prop) (Q : Assertion σ) :
    List (Step σ) → Assertion σ
  | [] => Q
  | step :: steps => ensuresStep mem limit stops (ensures mem limit stops Q steps) step

theorem ensuresStep_imp (h : ∀ value pos, Q value pos → Q' value pos) (step : Step σ) {value : σ}
    {pos : ℕ} (hstep : ensuresStep mem limit stops Q step value pos) :
    ensuresStep mem limit stops Q' step value pos := by
  cases step with
  | pull8 set => exact ⟨fun hroom ↦ h _ _ (hstep.1 hroom), hstep.2⟩
  | pull16 set => exact ⟨fun hroom a ↦ h _ _ (hstep.1 hroom a), hstep.2⟩
  | pull32 set => exact ⟨fun hroom a ↦ h _ _ (hstep.1 hroom a), hstep.2⟩
  | pullarray8 maxLen count set =>
    exact ⟨fun hmax hroom array hlength ↦ h _ _ (hstep.1 hmax hroom array hlength), hstep.2⟩
  | pullarray16 maxLen count set =>
    exact ⟨fun hmax hroom array hlength ↦ h _ _ (hstep.1 hmax hroom array hlength), hstep.2⟩

theorem ensures_imp (h : ∀ value pos, Q value pos → Q' value pos) (steps : List (Step σ))
    {value : σ} {pos : ℕ} (hsteps : ensures mem limit stops Q steps value pos) :
    ensures mem limit stops Q' steps value pos := by
  induction steps generalizing value pos with
  | nil => exact h value pos hsteps
  | cons step steps ih => exact ensuresStep_imp (fun _ _ ↦ ih) step hsteps

theorem runs_step (hsize : limit ≤ mem.size) (Q : Assertion σ) (step : Step σ) :
    Runs mem limit stops faults (ensuresStep mem limit stops Q step) (step.fill limit) Q := by
  cases step with
  | pull8 set =>
    apply runs_pull
    intro value pos _ h
    by_cases hroom : pos + 1 ≤ limit
    · exact .inl ⟨_, _, pull8_of_room hsize hroom, Nat.le_succ _, hroom, h.1 hroom⟩
    · exact .inr ⟨pull8_of_no_room hroom, h.2 hroom⟩
  | pull16 set =>
    apply runs_pull
    intro value pos _ h
    by_cases hroom : pos + 2 ≤ limit
    · exact .inl ⟨_, _, Pull.pull16_of_room hroom (Nat.le_trans hroom hsize),
        Nat.le_add_right _ _, hroom, h.1 hroom _⟩
    · exact .inr ⟨Pull.pull16_of_no_room hroom, h.2 hroom⟩
  | pull32 set =>
    apply runs_pull
    intro value pos _ h
    by_cases hroom : pos + 4 ≤ limit
    · obtain ⟨a, hpull⟩ := Pull.pull32_of_room hroom (Nat.le_trans hroom hsize)
      exact .inl ⟨a, _, hpull, Nat.le_add_right _ _, hroom, h.1 hroom a⟩
    · exact .inr ⟨Pull.bind_of_error (room_eq_error hroom), h.2 hroom⟩
  | pullarray8 maxLen count set =>
    show Runs mem limit stops faults _
      (.look fun value ↦ .pull (.pullarray8 maxLen (count value) limit) set) Q
    apply runs_look
    intro start
    apply runs_pull
    rintro value pos hpos ⟨rfl, h⟩
    rcases @pullarray8_cases mem limit maxLen (count value) pos hsize hpos with
      ⟨hmax, hroom, array, hpull, hlength⟩ | ⟨hnot, hpull⟩
    · exact .inl ⟨array, _, hpull, Nat.le_add_right _ _, hroom, h.1 hmax hroom array hlength⟩
    · exact .inr ⟨hpull, h.2 hnot⟩
  | pullarray16 maxLen count set =>
    show Runs mem limit stops faults _
      (.look fun value ↦ .pull (.pullarray16 maxLen (count value) limit) set) Q
    apply runs_look
    intro start
    apply runs_pull
    rintro value pos hpos ⟨rfl, h⟩
    rcases @pullarray16_cases mem limit maxLen (count value) pos hsize hpos with
      ⟨hmax, hroom, array, hpull, hlength⟩ | ⟨hnot, hpull⟩
    · exact .inl ⟨array, _, hpull, Nat.le_add_right _ _, hroom, h.1 hmax hroom array hlength⟩
    · exact .inr ⟨hpull, h.2 hnot⟩

theorem runs_fillSteps (hsize : limit ≤ mem.size) (Q : Assertion σ) (steps : List (Step σ)) :
    Runs mem limit stops faults (ensures mem limit stops Q steps) (fillSteps limit steps) Q := by
  induction steps with
  | nil => exact runs_done
  | cons step steps ih => exact runs_andThen (runs_step hsize _ step) ih

end Rules

/-! ### Lists -/

/-- There are as many elements counted as the array has at most, and all of them are good. -/
def CountsWithin {τ ε : Type} (shape : LoopShape τ ε) (Good : ε → Prop) (value : τ) : Prop :=
  shape.count value ≤ shape.maxLen ∧ ∀ item ∈ shape.place.get value, Good item

section Lists

variable {σ τ : Type} {mem : Memory} {limit maxLen : ℕ} {stops faults : Prop}
  {P Q : Assertion σ} {x : Fill τ} {place : ListPlace σ τ} {start : τ} {Good : τ → Prop}
  {Counted : σ → Prop} {Left : ℕ → ℕ → Prop}

theorem forall_mem_store {array : List τ} {index : ℕ} {element : τ}
    (harray : ∀ item ∈ array, Good item) (hstart : Good start) (helement : Good element) :
    ∀ item ∈ store start array index element, Good item := by
  intro item hitem
  unfold store at hitem
  split_ifs at hitem
  · rcases List.mem_or_eq_of_mem_set hitem with hold | rfl
    · exact harray item hold
    · exact helement
  · rw [List.mem_append, List.mem_append, List.mem_singleton] at hitem
    rcases hitem with (hold | hfilled) | rfl
    · exact harray item hold
    · rw [List.eq_of_mem_replicate hfilled]
      exact hstart
    · exact helement

theorem good_getD {array : List τ} {index : ℕ} (harray : ∀ item ∈ array, Good item)
    (hstart : Good start) : Good (array[index]?.getD start) := by
  cases hget : array[index]? with
  | none => exact hstart
  | some item => exact harray item (List.mem_of_getElem? hget)

/-- The elements of an array, none of them behind its end. `Left` says where the cursor may be with
this many elements left; each is good before and after. -/
theorem runs_elements {count index : ℕ} (hmax : index + count ≤ maxLen)
    (hx : ∀ remaining,
      Moves mem limit stops faults Good x (Left (remaining + 1)) (Left remaining))
    (hstart : Good start) (hput : ∀ value list, Counted value → Counted (place.put value list)) :
    Moves mem limit stops faults
      (fun value ↦ Counted value ∧ ∀ item ∈ place.get value, Good item)
      (.loop (.element maxLen place.get place.put start x) count index) (Left count) (Left 0) := by
  apply @runs_loop σ mem limit stops faults _ (fun remaining value pos ↦
    (Counted value ∧ ∀ item ∈ place.get value, Good item) ∧ Left remaining pos) count index
  intro next remaining hsum
  unfold Fill.element
  rw [if_pos (by omega)]
  apply (hx remaining).component
  · rintro value ⟨-, hgood⟩
    exact good_getD hgood hstart
  · rintro value element ⟨hcounted, hgood⟩ helement
    refine ⟨hput value _ hcounted, ?_⟩
    rw [place.get_put]
    exact forall_mem_store hgood hstart helement

/-- The elements of a list whose number is compared with the size of its array. -/
theorem runs_listElements {count : ℕ}
    (hx : ∀ remaining,
      Moves mem limit stops faults Good x (Left (remaining + 1)) (Left remaining))
    (hstart : Good start) (hput : ∀ value list, Counted value → Counted (place.put value list)) :
    Runs mem limit stops faults
      (fun value pos ↦ (Counted value ∧ ∀ item ∈ place.get value, Good item) ∧
        (count ≤ maxLen → Left count pos) ∧ (¬ count ≤ maxLen → stops))
      (.listElements true maxLen count place start x)
      fun value pos ↦ (Counted value ∧ ∀ item ∈ place.get value, Good item) ∧ count ≤ maxLen ∧
        Left 0 pos := by
  unfold Fill.listElements
  by_cases hmax : count ≤ maxLen
  · rw [if_pos hmax]
    have hindex : 0 + count ≤ maxLen := by rwa [Nat.zero_add]
    apply (runs_elements hindex hx hstart hput).consequence
    · rintro value pos - ⟨hvalue, hleft, -⟩
      exact ⟨hvalue, hleft hmax⟩
    · rintro value pos - ⟨hvalue, hleft⟩
      exact ⟨hvalue, hmax, hleft⟩
  · rw [if_neg hmax, if_pos rfl]
    exact runs_leave fun value pos h ↦ h.2.2 hmax

/-- A record with a list: what is in front of the list, the list, and what is behind it. -/
theorem runs_shape {ε : Type} [Inhabited ε] {shape : LoopShape σ ε} {fillElement : ℕ → Fill ε}
    {front back : Assertion σ} (hsize : limit ≤ mem.size)
    (hfront : ∀ value pos, pos ≤ limit → P value pos →
      ensures mem limit stops front shape.frontSteps value pos)
    (hlist : ∀ start, Runs mem limit stops faults
      (fun value pos ↦ value = start ∧ front value pos)
      (.listElements shape.checked shape.maxLen (shape.count start) shape.place default
        (fillElement limit)) back)
    (hback : ∀ value pos, pos ≤ limit → back value pos →
      ensures mem limit stops Q shape.backSteps value pos) :
    Runs mem limit stops faults P (shape.fill fillElement limit) Q :=
  runs_andThen ((runs_fillSteps hsize front _).consequence hfront fun _ _ _ h ↦ h)
    (runs_andThen (runs_look hlist)
      ((runs_fillSteps hsize Q _).consequence hback fun _ _ _ h ↦ h))

/-- A record with a list whose number of elements is compared with the size of its array. -/
theorem runs_checked {ε : Type} [Inhabited ε] {shape : LoopShape σ ε} {Good : ε → Prop}
    {fillElement : ℕ → Fill ε} (hsize : limit ≤ mem.size) (hchecked : shape.checked = true)
    (hcount : ∀ value list, shape.count (shape.place.put value list) = shape.count value)
    (hdefault : Good default)
    (hfront : ∀ value pos, pos ≤ limit → P value pos →
      ensures mem limit stops (fun value pos ↦ (∀ item ∈ shape.place.get value, Good item) ∧
        (shape.count value ≤ shape.maxLen → Left (shape.count value) pos) ∧
        (¬ shape.count value ≤ shape.maxLen → stops)) shape.frontSteps value pos)
    (hx : ∀ remaining, Moves mem limit stops faults Good (fillElement limit)
      (Left (remaining + 1)) (Left remaining))
    (hback : ∀ value pos, pos ≤ limit → CountsWithin shape Good value → Left 0 pos →
      ensures mem limit stops Q shape.backSteps value pos) :
    Runs mem limit stops faults P (shape.fill fillElement limit) Q := by
  apply @runs_shape σ mem limit stops faults P Q ε _ shape fillElement _
    (fun value pos ↦ CountsWithin shape Good value ∧ Left 0 pos) hsize hfront
  · intro counted
    rw [hchecked]
    have hlist := @runs_listElements σ ε mem limit shape.maxLen stops faults (fillElement limit)
      shape.place default Good (fun value ↦ shape.count value = shape.count counted) Left
      (shape.count counted) hx hdefault fun value list h ↦ (hcount value list).trans h
    apply hlist.consequence
    · rintro value pos - ⟨rfl, hgood, hleft, hlong⟩
      exact ⟨⟨rfl, hgood⟩, hleft, hlong⟩
    · rintro value pos - ⟨⟨heq, hgood⟩, hmax, hleft⟩
      refine ⟨⟨?_, hgood⟩, hleft⟩
      rw [heq]
      exact hmax
  · rintro value pos hpos ⟨hcounts, hleft⟩
    exact hback value pos hpos hcounts hleft

/-! Decoders of records that are safe. -/

theorem keeps_fillSteps {τ : Type} {Good : τ → Prop} {steps : List (Step τ)}
    (hsize : limit ≤ mem.size)
    (h : ∀ value pos, Good value →
      ensures mem limit True (fun value _ ↦ Good value) steps value pos) :
    Keeps mem limit Good (fillSteps limit steps) :=
  (runs_fillSteps hsize (fun value _ ↦ Good value) steps).consequence
    (fun value pos _ hvalue ↦ h value pos hvalue.1) fun _ _ _ h ↦ ⟨h, trivial⟩

/-- With counts that are looked at, each element is decoded somewhere in the array. -/
theorem keeps_checked {τ ε : Type} [Inhabited ε] {shape : LoopShape τ ε} {Good : ε → Prop}
    {fillElement : ℕ → Fill ε} (hsize : limit ≤ mem.size) (hchecked : shape.checked = true)
    (hcount : ∀ value list, shape.count (shape.place.put value list) = shape.count value)
    (hdefault : Good default) (hx : Keeps mem limit Good (fillElement limit))
    (hfront : ∀ value pos, (∀ item ∈ shape.place.get value, Good item) →
      ensures mem limit True (fun value _ ↦ ∀ item ∈ shape.place.get value, Good item)
        shape.frontSteps value pos)
    (hback : ∀ value pos, CountsWithin shape Good value →
      ensures mem limit True (fun value _ ↦ CountsWithin shape Good value) shape.backSteps value
        pos) :
    Keeps mem limit (CountsWithin shape Good) (shape.fill fillElement limit) := by
  have hruns := @runs_checked τ mem limit True False (fun value _ ↦ CountsWithin shape Good value)
    (fun value _ ↦ CountsWithin shape Good value) (fun _ _ ↦ True) ε _ shape Good fillElement hsize
    hchecked hcount hdefault
    (fun value pos _ h ↦ ensures_imp (fun _ _ h ↦ ⟨h, fun _ ↦ trivial, fun _ ↦ trivial⟩) _
      (hfront value pos h.2))
    (fun _ ↦ hx) fun value pos _ h _ ↦ hback value pos h
  exact hruns.consequence (fun _ _ _ h ↦ h.1) fun _ _ _ h ↦ ⟨h, trivial⟩

end Lists

/-! ### Tagged fields -/

section Fields

variable {σ : Type} {mem : Memory} {limit : ℕ} {Inv : σ → Prop} {unknown : Unknown σ}
  {entries : List (Entry σ)}

/-- The same from less than this many bytes in front of the limit on. -/
abbrev KeepsBelow (mem : Memory) (limit : ℕ) (Inv : σ → Prop) (bound : ℕ) (x : Fill σ) : Prop :=
  Moves mem limit True False Inv x (fun pos ↦ limit - pos < bound) fun _ ↦ True

/-- What is done with an unknown field keeps the invariant, if what comes after it does. -/
def UnknownKeeps (mem : Memory) (limit : ℕ) (Inv : σ → Prop) (unknown : Unknown σ) : Prop :=
  ∀ rest badTags tl bound, (∀ badTags, KeepsBelow mem limit Inv bound (rest badTags)) →
    KeepsBelow mem limit Inv bound (unknown rest badTags tl)

theorem keepsBelow_andThen {x y : Fill σ} {bound : ℕ} (hx : Keeps mem limit Inv x)
    (hy : KeepsBelow mem limit Inv bound y) : KeepsBelow mem limit Inv bound (x.andThen y) := by
  rintro value pos hpos ⟨hvalue, hbound⟩
  have hfirst := hx value pos hpos ⟨hvalue, trivial⟩
  unfold Fill.andThen
  generalize x mem value pos = outcome at hfirst ⊢
  cases hfirst with
  | goes part next hfront hnext hpart =>
    have hless : limit - next < bound := by omega
    exact (hy part next hnext ⟨hpart.1, hless⟩).earlier hfront
  | stop part next h => exact .stop part next h
  | fault h => exact .fault h

/-- Entries that keep an invariant make a list decoder that does: every iteration takes a tag and a
length. -/
theorem keepsBelow_fillTlvLoop (hsize : limit ≤ mem.size)
    (hentries : ∀ entry ∈ entries, ∀ tl, Keeps mem limit Inv (entry.fill tl limit))
    (hunknown : UnknownKeeps mem limit Inv unknown) (bound badTags : ℕ) :
    KeepsBelow mem limit Inv bound (fillTlvLoop unknown entries limit bound badTags) := by
  induction bound generalizing badTags with
  | zero =>
    rintro value pos hpos ⟨-, hbound⟩
    exact absurd hbound (Nat.not_lt_zero _)
  | succ bound ih =>
    rintro value pos hpos ⟨hvalue, hbound⟩
    unfold fillTlvLoop
    by_cases hmore : pos < limit
    · rw [if_pos hmore, Fill.pulled]
      rcases pull16_room pos hsize with ⟨tag, -, htag⟩ | htag
      · rw [htag]
        dsimp only
        rw [Fill.pulled]
        rcases pull16_room (pos + 2) hsize with ⟨length, hroom, hlength⟩ | hlength
        · rw [hlength]
          have hless : limit - (pos + 2 + 2) < bound := by omega
          have hback : pos ≤ pos + 2 + 2 := by omega
          dsimp only
          cases hfind : entries.find? fun entry ↦ entry.tag == tag with
          | some entry =>
            have hentry := hentries entry (List.mem_of_find?_eq_some hfind) ⟨tag, length⟩
            exact (keepsBelow_andThen hentry (ih badTags) value _ hroom ⟨hvalue, hless⟩).earlier
              hback
          | none =>
            exact (hunknown _ badTags ⟨tag, length⟩ bound ih value _ hroom
              ⟨hvalue, hless⟩).earlier hback
        · rw [hlength]
          exact .stop value _ trivial
      · rw [htag]
        exact .stop value pos trivial
    · rw [if_neg hmore]
      exact .goes value pos (Nat.le_refl _) hpos ⟨hvalue, trivial⟩

theorem keeps_fillTlvList (hsize : limit ≤ mem.size)
    (hentries : ∀ entry ∈ entries, ∀ tl, Keeps mem limit Inv (entry.fill tl limit))
    (hunknown : UnknownKeeps mem limit Inv unknown) :
    Keeps mem limit Inv (fillTlvList unknown entries limit) :=
  fun value pos hpos hvalue ↦
    keepsBelow_fillTlvLoop hsize hentries hunknown _ 0 value pos hpos
      ⟨hvalue.1, Nat.lt_succ_self _⟩

end Fields

/-! ### Spans -/

/-- What becomes of a decoder, given its bytes: where it ends, that it stops, or that it writes
outside of the memory. -/
inductive Span where
  | ends (last : ℕ)
  | stops
  | overruns
  deriving DecidableEq, Repr

namespace Span

def andThen (span : Span) (f : ℕ → Span) : Span :=
  match span with
  | ends last => f last
  | stops => stops
  | overruns => overruns

@[simp] theorem andThen_ends (span : Span) : span.andThen ends = span := by
  cases span <;> rfl

theorem andThen_assoc (span : Span) (f g : ℕ → Span) :
    (span.andThen f).andThen g = span.andThen fun last ↦ (f last).andThen g := by
  cases span <;> rfl

/-- This many bytes, if they are there. -/
def bytes (limit size pos : ℕ) : Span := if pos + size ≤ limit then ends (pos + size) else stops

theorem bytes_andThen (limit size size' pos : ℕ) :
    (bytes limit size pos).andThen (bytes limit size') = bytes limit (size + size') pos := by
  unfold bytes
  by_cases hroom : pos + size ≤ limit
  · rw [if_pos hroom, ← Nat.add_assoc]
    rfl
  · rw [if_neg hroom, if_neg (by omega)]
    rfl

/-- Elements one behind the other. -/
def times (element : ℕ → Span) : (count pos : ℕ) → Span
  | 0, pos => ends pos
  | count + 1, pos => (element pos).andThen (times element count)

/-- A record with a list whose number of elements is the last of the bytes in front of it. -/
def counted (mem : Memory) (limit front maxLen : ℕ) (element : ℕ → Span) (back pos : ℕ) : Span :=
  (bytes limit (front + 1) pos).andThen fun next ↦
    if (mem.byte (pos + front)).toNat ≤ maxLen then
      (times element (mem.byte (pos + front)).toNat next).andThen (bytes limit back)
    else stops

/-- An entry of a walk that goes over a field in this way, and notes whether the decoder would have
written outside of the memory. -/
def entry (tag : UInt16) (span : Tl → ℕ → Memory → ℕ → Span) : Entry Bool :=
  ⟨tag, fun tl limit mem overran pos ↦
    match span tl limit mem pos with
    | ends last => .ok (true, overran, last)
    | stops => .ok (false, overran, pos)
    | overruns => .ok (false, true, pos)⟩

/-- What is taken does not go back. -/
def Forward (span : ℕ → Span) : Prop := ∀ pos last, span pos = ends last → pos ≤ last

theorem Forward.andThen {span : ℕ → Span} {f : ℕ → ℕ → Span} (hspan : Forward span)
    (hf : ∀ pos, Forward (f pos)) :
    Forward fun pos ↦ (span pos).andThen (f pos) := by
  intro pos last h
  dsimp only at h
  cases hfirst : span pos with
  | ends next =>
    rw [hfirst] at h
    exact Nat.le_trans (hspan pos next hfirst) (hf pos next last h)
  | stops =>
    rw [hfirst] at h
    cases h
  | overruns =>
    rw [hfirst] at h
    cases h

theorem forward_bytes (limit size : ℕ) : Forward (bytes limit size) := by
  intro pos last h
  unfold bytes at h
  split_ifs at h
  cases h
  exact Nat.le_add_right pos size

theorem forward_times {element : ℕ → Span} (helement : Forward element) (count : ℕ) :
    Forward (times element count) := by
  induction count with
  | zero =>
    intro pos last h
    cases h
    exact Nat.le_refl pos
  | succ count ih => exact helement.andThen fun _ ↦ ih

theorem forward_counted {mem : Memory} {limit front maxLen back : ℕ} {element : ℕ → Span}
    (helement : Forward element) : Forward (counted mem limit front maxLen element back) := by
  apply (forward_bytes limit (front + 1)).andThen
  intro pos next last h
  split_ifs at h
  exact (forward_times helement _).andThen (fun _ ↦ forward_bytes limit back) next last h

theorem advances_entry {tag : UInt16} {span : Tl → ℕ → Memory → ℕ → Span} {tl : Tl} {limit : ℕ}
    (h : ∀ mem, Forward (span tl limit mem)) : Advances limit ((entry tag span).fill tl limit) := by
  intro mem overran pos _
  unfold entry
  dsimp only
  cases hspan : span tl limit mem pos with
  | ends last => exact ⟨true, overran, last, rfl, h mem pos last hspan⟩
  | stops => exact ⟨false, overran, pos, rfl, Nat.le_refl pos⟩
  | overruns => exact ⟨false, true, pos, rfl, Nat.le_refl pos⟩

end Span

/-- The decoder keeps the invariant, and ends as the bytes say. -/
def Spans {σ : Type} (mem : Memory) (limit : ℕ) (Inv : σ → Prop) (span : ℕ → Span) (x : Fill σ) :
    Prop :=
  ∀ result, Moves mem limit (result = .stops) (result = .overruns) Inv x
    (fun pos ↦ span pos = result) fun last ↦ result = .ends last

section Spans

variable {σ : Type} {mem : Memory} {limit : ℕ} {Inv : σ → Prop} {x : Fill σ} {span : ℕ → Span}

theorem Spans.ends (h : Spans mem limit Inv span x) {value : σ} {pos : ℕ} (hpos : pos ≤ limit)
    (hvalue : Inv value) : Ends limit (span pos = .stops) (span pos = .overruns) pos
      (fun value last ↦ Inv value ∧ span pos = .ends last) (x mem value pos) :=
  h (span pos) value pos hpos ⟨hvalue, rfl⟩

/-- A decoder that never writes outside of the memory. -/
theorem Spans.keeps (h : Spans mem limit Inv span x) (hspan : ∀ pos, span pos ≠ .overruns) :
    Keeps mem limit Inv x := by
  rintro value pos hpos ⟨hvalue, -⟩
  have hends := h.ends hpos hvalue
  generalize x mem value pos = outcome at hends ⊢
  cases hends with
  | goes value' last hfront hlast h => exact .goes value' last hfront hlast ⟨h.1, trivial⟩
  | stop value' last h => exact .stop value' last trivial
  | fault h => exact absurd h (hspan pos)

/-- What comes behind the decoder. -/
theorem Spans.moves {f : ℕ → Span} {result : Span} (h : Spans mem limit Inv span x) :
    Moves mem limit (result = .stops) (result = .overruns) Inv x
      (fun pos ↦ (span pos).andThen f = result) fun last ↦ f last = result := by
  rintro value pos hpos ⟨hvalue, hresult⟩
  have hends := h.ends hpos hvalue
  generalize x mem value pos = outcome at hends ⊢
  cases hends with
  | goes value' last hfront hlast h =>
    rw [h.2] at hresult
    exact .goes value' last hfront hlast ⟨h.1, hresult⟩
  | stop value' last h =>
    rw [h] at hresult
    exact .stop value' last hresult.symm
  | fault h =>
    rw [h] at hresult
    exact .fault hresult.symm

theorem Spans.component {τ : Type} {get : τ → σ} {put : τ → σ → τ} {Inv' : τ → Prop}
    (h : Spans mem limit Inv span x) (hget : ∀ value, Inv' value → Inv (get value))
    (hput : ∀ value component, Inv' value → Inv component → Inv' (put value component)) :
    Spans mem limit Inv' span (.component get put x) :=
  fun result ↦ (h result).component hget hput

/-- Steps that take this many bytes. -/
theorem spans_fillSteps {steps : List (Step σ)} {size : ℕ} (hsize : limit ≤ mem.size)
    (h : ∀ (stops : Prop) value pos, (¬ pos + size ≤ limit → stops) → Inv value →
      ensures mem limit stops (fun value next ↦ Inv value ∧ next = pos + size) steps value pos) :
    Spans mem limit Inv (Span.bytes limit size) (fillSteps limit steps) := by
  rintro result value pos hpos ⟨hvalue, rfl⟩
  have hshort : ¬ pos + size ≤ limit → Span.bytes limit size pos = .stops :=
    fun hroom ↦ if_neg hroom
  apply (runs_fillSteps hsize _ steps value pos hpos (h _ value pos hshort hvalue)).imp
  rintro value' last hlast ⟨hvalue', rfl⟩
  exact ⟨hvalue', if_pos hlast⟩

/-- A record with a list whose number of elements is compared with the size of its array. -/
theorem spans_counted {ε : Type} [Inhabited ε] {shape : LoopShape σ ε} {Good : ε → Prop}
    {fillElement : ℕ → Fill ε} {element : ℕ → Span} {front back : ℕ} (hsize : limit ≤ mem.size)
    (hchecked : shape.checked = true)
    (hcount : ∀ value list, shape.count (shape.place.put value list) = shape.count value)
    (hdefault : Good default) (hx : Spans mem limit Good element (fillElement limit))
    (hfront : ∀ (stops : Prop) value pos, (¬ pos + (front + 1) ≤ limit → stops) →
      (∀ item ∈ shape.place.get value, Good item) →
      ensures mem limit stops (fun value next ↦ (∀ item ∈ shape.place.get value, Good item) ∧
        shape.count value = (mem.byte (pos + front)).toNat ∧ next = pos + (front + 1) ∧
        next ≤ limit) shape.frontSteps value pos)
    (hback : ∀ (stops : Prop) value pos, (¬ pos + back ≤ limit → stops) →
      CountsWithin shape Good value →
      ensures mem limit stops (fun value next ↦ CountsWithin shape Good value ∧ next = pos + back ∧
        next ≤ limit) shape.backSteps value pos) :
    Spans mem limit (CountsWithin shape Good)
      (Span.counted mem limit front shape.maxLen element back) (shape.fill fillElement limit) := by
  intro result
  apply @runs_checked σ mem limit (result = .stops) (result = .overruns) _ _
    (fun remaining pos ↦
      (Span.times element remaining pos).andThen (Span.bytes limit back) = result)
    ε _ shape Good fillElement hsize hchecked hcount hdefault
  · rintro value pos hpos ⟨hvalue, hspan⟩
    have hshort : ¬ pos + (front + 1) ≤ limit → result = .stops := by
      intro hroom
      rw [← hspan, Span.counted, Span.bytes, if_neg hroom]
      rfl
    apply ensures_imp _ _ (hfront _ value pos hshort hvalue.2)
    rintro value' next ⟨hgood, hnumber, rfl, hroom⟩
    unfold Span.counted at hspan
    rw [Span.bytes, if_pos hroom] at hspan
    rw [hnumber]
    refine ⟨hgood, ?_, ?_⟩
    · intro hmax
      rw [← hspan, Span.andThen, if_pos hmax]
    · intro hlong
      rw [← hspan, Span.andThen, if_neg hlong]
  · intro remaining
    apply (hx.moves).consequence
    · rintro value pos - ⟨hgood, hleft⟩
      refine ⟨hgood, ?_⟩
      rw [← hleft]
      exact (Span.andThen_assoc _ _ _).symm
    · exact fun _ _ _ h ↦ h
  · rintro value pos hpos hcounts hleft
    have hshort : ¬ pos + back ≤ limit → result = .stops := by
      intro hroom
      rw [← hleft]
      exact if_neg hroom
    apply ensures_imp _ _ (hback _ value pos hshort hcounts)
    rintro value' next ⟨hcounts', rfl, hroom⟩
    refine ⟨hcounts', ?_⟩
    rw [← hleft]
    exact if_pos hroom

/-- The decoder goes along with the walk. -/
theorem shadows_span {tag : UInt16} {span : Tl → ℕ → Memory → ℕ → Span} {tl : Tl}
    (h : ∀ mem, limit ≤ mem.size → Spans mem limit Inv (span tl limit mem) x) :
    Shadows (fun overran ↦ overran = false) (fun _ value ↦ Inv value) limit (· ≤ limit)
      ((Span.entry tag span).fill tl limit) x where
  recalls mem overran pos went overran' last hrun hgood := by
    unfold Span.entry at hrun
    dsimp only at hrun
    cases hspan : span tl limit mem pos with
    | ends last =>
      rw [hspan] at hrun
      cases hrun
      exact hgood
    | stops =>
      rw [hspan] at hrun
      cases hrun
      exact hgood
    | overruns =>
      rw [hspan] at hrun
      cases hrun
      cases hgood
  follows mem overran value pos went overran' last hsize hpos hvalue hrun hgood := by
    have hends := (h mem hsize).ends hpos hvalue
    unfold Span.entry at hrun
    dsimp only at hrun
    generalize x mem value pos = outcome at hends ⊢
    cases hspan : span tl limit mem pos with
    | ends next =>
      rw [hspan] at hrun hends
      cases hrun
      cases hends with
      | goes value' last' _ _ h =>
        cases h.2
        exact ⟨value', _, rfl, fun _ ↦ ⟨h.1, rfl⟩⟩
      | stop value' last' h => cases h
      | fault h => cases h
    | stops =>
      rw [hspan] at hrun hends
      cases hrun
      cases hends with
      | goes value' last' _ _ h => cases h.2
      | stop value' last' h => exact ⟨value', last', rfl, fun h ↦ nomatch h⟩
      | fault h => cases h
    | overruns =>
      rw [hspan] at hrun
      cases hrun
      cases hgood
  faults mem overran value pos went overran' last hsize hpos hvalue hrun hgood hbad := by
    have hends := (h mem hsize).ends hpos hvalue
    unfold Span.entry at hrun
    dsimp only at hrun
    generalize x mem value pos = outcome at hends ⊢
    cases hspan : span tl limit mem pos with
    | ends next =>
      rw [hspan] at hrun
      cases hrun
      exact absurd hgood hbad
    | stops =>
      rw [hspan] at hrun
      cases hrun
      exact absurd hgood hbad
    | overruns =>
      rw [hspan] at hends
      cases hends with
      | goes value' last' _ _ h => cases h.2
      | stop value' last' h => cases h
      | fault h => rfl

end Spans

end MultiUeProxy.Lib.FillLogic
