import Mathlib.Logic.Basic

/-!
# Computations that may crash

A program written in C stops for reasons its return values do not show: an `assert` that does
not hold or a call of `abort()`, an access outside the object it is meant for, and a loop that
never meets its exit. `Outcome` records the three beside the ordinary result, so that the absence
of each is something to prove about a modelled function.

The module also has the rules for running such computations in sequence. `runAll` feeds a list of
commands to a step function and collects the replies; `runAll_simulates` lifts a one-step
simulation by a total machine to whole runs, and `foldlM_simulates` does so for the runs whose steps
all meet a condition.
-/

set_option autoImplicit false
set_option relaxedAutoImplicit false

namespace MultiUeProxy.Lib.Execution

universe u

/-- The ways in which a computation ends without a result. -/
inductive Crash where
  /-- An assertion that does not hold, or an explicit call of `abort`. -/
  | abort
  /-- An access outside the object it is meant for, the null pointer included. -/
  | fault
  /-- A loop that is still running when its bound on iterations is used up. -/
  | diverge
  deriving DecidableEq, Repr

/-- A computation that returns a value or crashes. -/
abbrev Outcome (α : Type u) := Except Crash α

/-- The C `assert`: nothing happens when the condition holds, the program aborts otherwise. -/
def assert (p : Prop) [Decidable p] : Outcome Unit :=
  if p then .ok () else .error .abort

@[simp] theorem assert_of_true {p : Prop} [Decidable p] (h : p) : assert p = .ok () := by
  simp [assert, h]

@[simp] theorem assert_of_false {p : Prop} [Decidable p] (h : ¬ p) :
    assert p = .error .abort := by
  simp [assert, h]

@[simp] theorem ok_bind {α β : Type u} (a : α) (f : α → Outcome β) :
    (Except.ok a >>= f) = f a := rfl

@[simp] theorem error_bind {α β : Type u} (c : Crash) (f : α → Outcome β) :
    ((Except.error c : Outcome α) >>= f) = .error c := rfl

@[simp] theorem pure_eq_ok {α : Type u} (a : α) : (pure a : Outcome α) = .ok a := rfl

/-- A sequence returns exactly when its first part returns a value and its second part does so
from there. -/
theorem bind_eq_ok {α β : Type u} {x : Outcome α} {f : α → Outcome β} {b : β} :
    (x >>= f) = .ok b ↔ ∃ a, x = .ok a ∧ f a = .ok b := by
  cases x with
  | ok a => simp
  | error c => simp

/-- If a computation returns, so does every function of its result. -/
theorem bind_returns {α β : Type u} {x : Outcome α} (h : ∃ a, x = .ok a) (f : α → β) :
    ∃ b, (x >>= fun a ↦ pure (f a)) = .ok b := by
  obtain ⟨a, rfl⟩ := h
  exact ⟨f a, rfl⟩

theorem mapM_returns {α β : Type u} {f : α → Outcome β} {xs : List α}
    (h : ∀ x ∈ xs, ∃ y, f x = .ok y) : ∃ ys, xs.mapM f = .ok ys := by
  induction xs with
  | nil => exact ⟨[], rfl⟩
  | cons x xs ih =>
    obtain ⟨y, hy⟩ := h x (List.mem_cons_self ..)
    obtain ⟨ys, hys⟩ := ih fun x' hx' ↦ h x' (List.mem_cons_of_mem x hx')
    exact ⟨y :: ys, by rw [List.mapM_cons, hy, ok_bind, hys]; rfl⟩

/-- A loop over the numbers below a bound ends with the step for the last of them. -/
theorem foldlM_range_succ {β : Type u} (f : β → Nat → Outcome β) (b : β) (count : Nat) :
    (List.range (count + 1)).foldlM f b = (List.range count).foldlM f b >>= fun b ↦ f b count := by
  rw [List.range_succ, List.foldlM_append]
  refine bind_congr fun next ↦ ?_
  rw [List.foldlM_cons]
  exact bind_pure _

section Counting

variable {β : Type u} {f : β → Nat → Outcome β} (Inv : β → Prop) {limit : Nat}

/-- A loop over the numbers below a bound keeps an invariant that its steps keep below a limit. -/
theorem foldlM_range_returns
    (hstep : ∀ b i, Inv b → i < limit → ∃ next, f b i = .ok next ∧ Inv next) {count : Nat}
    (hle : count ≤ limit) {b : β} (hb : Inv b) :
    ∃ last, (List.range count).foldlM f b = .ok last ∧ Inv last := by
  induction count with
  | zero => exact ⟨b, rfl, hb⟩
  | succ count ih =>
    obtain ⟨middle, hmiddle, hinv⟩ := ih (Nat.le_of_succ_le hle)
    obtain ⟨last, hlast, hkept⟩ := hstep middle count hinv hle
    refine ⟨last, ?_, hkept⟩
    rw [foldlM_range_succ, hmiddle]
    exact hlast

/-- A loop whose step works just for the numbers below a limit returns when its bound is within
the limit, and only then. -/
theorem foldlM_range_returns_iff
    (hstep : ∀ b i, Inv b → i < limit → ∃ next, f b i = .ok next ∧ Inv next)
    (hstop : ∀ b i next, Inv b → f b i = .ok next → i < limit) (count : Nat) {b : β} (hb : Inv b) :
    (∃ last, (List.range count).foldlM f b = .ok last) ↔ count ≤ limit := by
  constructor
  · intro hreturns
    induction count with
    | zero => exact Nat.zero_le limit
    | succ count ih =>
      obtain ⟨last, hlast⟩ := hreturns
      rw [foldlM_range_succ, bind_eq_ok] at hlast
      obtain ⟨middle, hmiddle, hlast⟩ := hlast
      obtain ⟨same, hsame, hinv⟩ := foldlM_range_returns Inv hstep (ih ⟨middle, hmiddle⟩) hb
      obtain rfl := Except.ok.inj (hmiddle.symm.trans hsame)
      exact hstop middle count last hinv hlast
  · intro hle
    obtain ⟨last, hlast, -⟩ := foldlM_range_returns Inv hstep hle hb
    exact ⟨last, hlast⟩

end Counting

/-! ### Computations that end -/

section Ends

variable {α β : Type u}

/-- The computation does not run for ever. -/
def Ends (x : Outcome α) : Prop := x ≠ .error .diverge

theorem ends_ok (a : α) : Ends (.ok a : Outcome α) := fun h ↦ by cases h

theorem ends_error {cause : Crash} (h : cause ≠ .diverge) : Ends (.error cause : Outcome α) :=
  fun hrun ↦ h (Except.error.inj hrun)

theorem ends_assert (p : Prop) [Decidable p] : Ends (assert p) := by
  by_cases hp : p
  · rw [assert_of_true hp]
    exact ends_ok ()
  · rw [assert_of_false hp]
    exact ends_error (fun h ↦ by cases h)

/-- A computation that crashes in no other way than by an access outside its objects ends. -/
theorem ends_of_fault {x : Outcome α} (h : ∀ cause, x = .error cause → cause = .fault) :
    Ends x := fun hrun ↦ by cases h _ hrun

theorem Ends.bind {x : Outcome α} {f : α → Outcome β} (hx : Ends x) (hf : ∀ a, Ends (f a)) :
    Ends (x >>= f) := by
  cases x with
  | ok a => exact hf a
  | error cause => exact ends_error fun h ↦ hx (by rw [h])

theorem ends_mapM {f : α → Outcome β} (hf : ∀ a, Ends (f a)) (xs : List α) : Ends (xs.mapM f) := by
  induction xs with
  | nil => exact ends_ok []
  | cons x xs ih =>
    rw [List.mapM_cons]
    exact (hf x).bind fun _ ↦ ih.bind fun _ ↦ ends_ok _

end Ends

/-! ### Guarded runs -/

section Guarded

variable {σ τ ι : Type u}

/-- Along a run, every input meets a condition in the state that it finds. -/
def Along (step : τ → ι → τ) (Meets : τ → ι → Prop) (t : τ) : List ι → Prop
  | [] => True
  | x :: rest => Meets t x ∧ Along step Meets (step t x) rest

instance decidableAlong (step : τ → ι → τ) (Meets : τ → ι → Prop)
    [∀ t x, Decidable (Meets t x)] (t : τ) : (xs : List ι) → Decidable (Along step Meets t xs)
  | [] => inferInstanceAs (Decidable True)
  | x :: rest =>
    have := decidableAlong step Meets (step t x) rest
    inferInstanceAs (Decidable (Meets t x ∧ Along step Meets (step t x) rest))

/-- The first part of a run meets the condition too. -/
theorem Along.take {step : τ → ι → τ} {Meets : τ → ι → Prop} {t : τ} {xs : List ι}
    (h : Along step Meets t xs) (count : Nat) : Along step Meets t (xs.take count) := by
  induction xs generalizing t count with
  | nil =>
    rw [List.take_nil]
    trivial
  | cons x rest ih =>
    cases count with
    | zero => trivial
    | succ count => exact ⟨h.1, ih h.2 count⟩

/-- If an input is a good one exactly when it meets a condition, and good ones keep what is known
of the states, then the inputs of a run are all good exactly when they all meet the condition. -/
theorem along_iff {step : τ → ι → τ} {Inv : τ → Prop} {Good Meets : τ → ι → Prop}
    (hstep : ∀ t x, Inv t → (Good t x ↔ Meets t x))
    (hkeep : ∀ t x, Inv t → Good t x → Inv (step t x)) (xs : List ι) {t : τ} (h : Inv t) :
    Along step Good t xs ↔ Along step Meets t xs := by
  induction xs generalizing t with
  | nil => exact Iff.rfl
  | cons x rest ih =>
    constructor
    · intro halong
      exact ⟨(hstep t x h).mp halong.1, (ih (hkeep t x h halong.1)).mp halong.2⟩
    · intro halong
      have hgood := (hstep t x h).mpr halong.1
      exact ⟨hgood, (ih (hkeep t x h hgood)).mpr halong.2⟩

/-- If every step of a machine from a state that meets a condition returns and is matched by the
step of a total machine, then so is every run whose steps all meet the condition. -/
theorem foldlM_simulates (Rep : σ → τ → Prop) {Meets : τ → ι → Prop} {step : σ → ι → Outcome σ}
    {abstractStep : τ → ι → τ}
    (hstep : ∀ s t x, Rep s t → Meets t x →
      ∃ s', step s x = .ok s' ∧ Rep s' (abstractStep t x))
    (xs : List ι) (s : σ) (t : τ) (hs : Rep s t) (hxs : Along abstractStep Meets t xs) :
    ∃ s', xs.foldlM step s = .ok s' ∧ Rep s' (xs.foldl abstractStep t) := by
  induction xs generalizing s t with
  | nil => exact ⟨s, rfl, hs⟩
  | cons x rest ih =>
    obtain ⟨middle, hmiddle, hrep⟩ := hstep s t x hs hxs.1
    obtain ⟨final, hfinal, hend⟩ := ih middle (abstractStep t x) hrep hxs.2
    exact ⟨final, by rw [List.foldlM_cons, hmiddle, ok_bind, hfinal], hend⟩

end Guarded

/-! ### Machines with replies -/

section Machines

variable {σ τ ι ο : Type u}

/-- The states that a machine gets into from a start when every input meets a condition in the
state that it finds. -/
inductive Reached (step : σ → ι → Outcome (ο × σ)) (Meets : σ → ι → Prop) (start : σ) : σ → Prop
  | start : Reached step Meets start start
  | step {s next : σ} {x : ι} {reply : ο} (hs : Reached step Meets start s) (hx : Meets s x)
      (hstep : step s x = .ok (reply, next)) : Reached step Meets start next

/-- What holds at the start and is kept by every step whose input meets the condition holds in
every state reached. -/
theorem Reached.invariant {step : σ → ι → Outcome (ο × σ)} {Meets : σ → ι → Prop} {start s : σ}
    (hs : Reached step Meets start s) (Inv : σ → Prop) (hstart : Inv start)
    (hkeep : ∀ s x reply next, Inv s → Meets s x → step s x = .ok (reply, next) → Inv next) :
    Inv s := by
  induction hs with
  | start => exact hstart
  | step hs hx hstep ih => exact hkeep _ _ _ _ ih hx hstep

/-- Runs a list of commands from a state and collects the replies in order. -/
def runAll (step : σ → ι → Outcome (ο × σ)) (s : σ) : List ι → Outcome (List ο × σ)
  | [] => .ok ([], s)
  | x :: rest => do
    let (reply, s) ← step s x
    let (replies, s) ← runAll step s rest
    return (reply :: replies, s)

/-- Every command of a run gets a reply. -/
theorem exists_reply {step : σ → ι → Outcome (ο × σ)} {xs : List ι} {s t : σ} {replies : List ο}
    (h : runAll step s xs = .ok (replies, t)) {x : ι} (hx : x ∈ xs) :
    ∃ reply ∈ replies, ∃ before after, step before x = .ok (reply, after) := by
  induction xs generalizing s replies with
  | nil => cases hx
  | cons y rest ih =>
    obtain ⟨⟨reply, middle⟩, hstep, hrest⟩ := bind_eq_ok.mp h
    obtain ⟨⟨later, final⟩, hrun, hpure⟩ := bind_eq_ok.mp hrest
    cases hpure
    rcases List.mem_cons.mp hx with rfl | hmem
    · exact ⟨reply, List.mem_cons_self .., s, middle, hstep⟩
    · obtain ⟨other, hother, hfound⟩ := ih hrun hmem
      exact ⟨other, List.mem_cons_of_mem _ hother, hfound⟩

theorem runAll_nil {step : σ → ι → Outcome (ο × σ)} (s : σ) : runAll step s [] = .ok ([], s) := rfl

theorem runAll_cons {step : σ → ι → Outcome (ο × σ)} {x : ι} {xs : List ι} {s next t : σ}
    {reply : ο} {replies : List ο} (hx : step s x = .ok (reply, next))
    (hxs : runAll step next xs = .ok (replies, t)) :
    runAll step s (x :: xs) = .ok (reply :: replies, t) := by
  simp only [runAll, hx, hxs, ok_bind, pure_eq_ok]

/-- A run of two parts goes through the state between them. -/
theorem runAll_append {step : σ → ι → Outcome (ο × σ)} {xs ys : List ι} {s middle t : σ}
    {replies later : List ο} (hxs : runAll step s xs = .ok (replies, middle))
    (hys : runAll step middle ys = .ok (later, t)) :
    runAll step s (xs ++ ys) = .ok (replies ++ later, t) := by
  induction xs generalizing s replies with
  | nil =>
    cases hxs
    exact hys
  | cons x rest ih =>
    obtain ⟨⟨reply, next⟩, hstep, hrest⟩ := bind_eq_ok.mp hxs
    obtain ⟨⟨others, final⟩, hrun, hpure⟩ := bind_eq_ok.mp hrest
    cases hpure
    exact runAll_cons hstep (ih hrun)

/-- Along a run, every command meets a condition in the state that it finds. -/
def AlongRun (step : σ → ι → Outcome (ο × σ)) (Meets : σ → ι → Prop) : σ → List ι → Prop
  | _, [] => True
  | s, x :: rest =>
    Meets s x ∧ ∀ reply next, step s x = .ok (reply, next) → AlongRun step Meets next rest

theorem alongRun_cons_of_error {step : σ → ι → Outcome (ο × σ)} {Meets : σ → ι → Prop} {s : σ}
    {x : ι} {cause : Crash} (hstep : step s x = .error cause) (rest : List ι) :
    AlongRun step Meets s (x :: rest) ↔ Meets s x := by
  refine ⟨fun h ↦ h.1, fun h ↦ ⟨h, fun reply next hok ↦ ?_⟩⟩
  rw [hstep] at hok
  cases hok

theorem alongRun_cons_of_ok {step : σ → ι → Outcome (ο × σ)} {Meets : σ → ι → Prop} {s next : σ}
    {x : ι} {reply : ο} (hstep : step s x = .ok (reply, next)) (rest : List ι) :
    AlongRun step Meets s (x :: rest) ↔ Meets s x ∧ AlongRun step Meets next rest := by
  refine and_congr_right fun _ ↦ ⟨fun h ↦ h reply next hstep, fun h reply' next' hok ↦ ?_⟩
  rw [hstep] at hok
  cases hok
  exact h

instance decidableAlongRun (step : σ → ι → Outcome (ο × σ)) (Meets : σ → ι → Prop)
    [∀ s x, Decidable (Meets s x)] (s : σ) : (xs : List ι) → Decidable (AlongRun step Meets s xs)
  | [] => inferInstanceAs (Decidable True)
  | x :: rest =>
    match hstep : step s x with
    | .error _ => decidable_of_iff (Meets s x) (alongRun_cons_of_error hstep rest).symm
    | .ok (_, next) =>
      have := decidableAlongRun step Meets next rest
      decidable_of_iff (Meets s x ∧ AlongRun step Meets next rest)
        (alongRun_cons_of_ok hstep rest).symm

/-- If every step returns, keeps what is known of the replies and the state, and its reply is a good
one exactly when the command meets a condition, then runs return, keep what is known, and all their
replies are good exactly when all commands meet the condition. -/
theorem runAll_keeps {step : σ → ι → Outcome (ο × σ)} {Inv : List ο → σ → Prop}
    {Good : ο → Prop} {Meets : σ → ι → Prop}
    (hstep : ∀ past s x, Inv past s → ∃ reply next, step s x = .ok (reply, next) ∧
      Inv (past ++ [reply]) next ∧ (Good reply ↔ Meets s x))
    (xs : List ι) {past : List ο} {s : σ} (h : Inv past s) :
    ∃ replies t, runAll step s xs = .ok (replies, t) ∧ Inv (past ++ replies) t ∧
      ((∀ reply ∈ replies, Good reply) ↔ AlongRun step Meets s xs) := by
  induction xs generalizing past s with
  | nil =>
    refine ⟨[], s, rfl, ?_, ?_⟩
    · rwa [List.append_nil]
    · exact ⟨fun _ ↦ trivial, fun _ reply hmem ↦ absurd hmem List.not_mem_nil⟩
  | cons x rest ih =>
    obtain ⟨reply, next, hnext, hkept, hgood⟩ := hstep past s x h
    obtain ⟨replies, t, hrun, hinv, hiff⟩ := ih hkept
    refine ⟨reply :: replies, t, ?_, ?_, ?_⟩
    · exact runAll_cons hnext hrun
    · rwa [List.append_assoc] at hinv
    · rw [List.forall_mem_cons, hgood, hiff, AlongRun]
      refine and_congr_right fun _ ↦ ⟨fun halong reply' next' hother ↦ ?_, fun halong ↦ ?_⟩
      · rw [hnext] at hother
        cases hother
        exact halong
      · exact halong reply next hnext

/-- What every step keeps of the replies so far and the state holds at the end of a run. -/
theorem runAll_history {step : σ → ι → Outcome (ο × σ)} {Inv : List ο → σ → Prop}
    (hstep : ∀ past s x reply next, Inv past s → step s x = .ok (reply, next) →
      Inv (past ++ [reply]) next)
    {xs : List ι} {past replies : List ο} {s t : σ} (h : Inv past s)
    (hrun : runAll step s xs = .ok (replies, t)) : Inv (past ++ replies) t := by
  induction xs generalizing past s replies with
  | nil =>
    cases hrun
    rwa [List.append_nil]
  | cons x rest ih =>
    obtain ⟨⟨reply, next⟩, hnext, hrest⟩ := bind_eq_ok.mp hrun
    obtain ⟨⟨others, final⟩, hfinal, hpure⟩ := bind_eq_ok.mp hrest
    cases hpure
    have hend := ih (hstep past s x reply next h hnext) hfinal
    rwa [List.append_assoc] at hend

/-- Every command of a run is answered, and each reply is a good one, with the state after it. -/
def AllAlong (step : σ → ι → Outcome (ο × σ)) (Good : ο → σ → Prop) : σ → List ι → Prop
  | _, [] => True
  | s, x :: rest =>
    ∃ reply next, step s x = .ok (reply, next) ∧ Good reply next ∧ AllAlong step Good next rest

/-- If a command is answered with a good reply exactly when it meets a condition, then all those of
a run are exactly when all of them meet it. -/
theorem allAlong_iff {step : σ → ι → Outcome (ο × σ)} {Inv : σ → Prop} {Good : ο → σ → Prop}
    {Meets : σ → ι → Prop}
    (hstep : ∀ s x, Inv s →
      ((∃ reply next, step s x = .ok (reply, next) ∧ Good reply next) ↔ Meets s x))
    (hkeep : ∀ s x reply next, Inv s → step s x = .ok (reply, next) → Good reply next → Inv next)
    (xs : List ι) {s : σ} (h : Inv s) :
    AllAlong step Good s xs ↔ AlongRun step Meets s xs := by
  induction xs generalizing s with
  | nil => exact Iff.rfl
  | cons x rest ih =>
    constructor
    · rintro ⟨reply, next, hnext, hgood, hrest⟩
      refine ⟨(hstep s x h).mp ⟨reply, next, hnext, hgood⟩, fun reply' next' hother ↦ ?_⟩
      rw [hnext] at hother
      cases hother
      exact (ih (hkeep s x reply next h hnext hgood)).mp hrest
    · rintro ⟨hmeets, hrest⟩
      obtain ⟨reply, next, hnext, hgood⟩ := (hstep s x h).mpr hmeets
      exact ⟨reply, next, hnext, hgood,
        (ih (hkeep s x reply next h hnext hgood)).mpr (hrest reply next hnext)⟩

/-- The last command of such a run is answered with a good reply. -/
theorem AllAlong.last {step : σ → ι → Outcome (ο × σ)} {Good : ο → σ → Prop} {xs : List ι} {x : ι}
    {s before next : σ} {replies : List ο} {reply : ο} (h : AllAlong step Good s (xs ++ [x]))
    (hrun : runAll step s xs = .ok (replies, before))
    (hlast : step before x = .ok (reply, next)) : Good reply next := by
  induction xs generalizing s replies with
  | nil =>
    cases hrun
    obtain ⟨reply', next', hother, hgood, -⟩ := h
    rw [hlast] at hother
    cases hother
    exact hgood
  | cons y rest ih =>
    obtain ⟨first, middle, hfirst, -, hrest⟩ := h
    obtain ⟨⟨reply', next'⟩, hother, htail⟩ := bind_eq_ok.mp hrun
    rw [hfirst] at hother
    cases hother
    obtain ⟨⟨others, final⟩, hfinal, hpure⟩ := bind_eq_ok.mp htail
    cases hpure
    exact ih hrest hfinal

/-- Of the replies alone, this is a fact about the run. -/
theorem allAlong_iff_runAll {step : σ → ι → Outcome (ο × σ)} {Good : ο → Prop} (xs : List ι)
    (s : σ) : AllAlong step (fun reply _ ↦ Good reply) s xs ↔
      ∃ replies t, runAll step s xs = .ok (replies, t) ∧ ∀ reply ∈ replies, Good reply := by
  induction xs generalizing s with
  | nil =>
    refine iff_of_true trivial ⟨[], s, rfl, ?_⟩
    exact fun reply hmem ↦ absurd hmem List.not_mem_nil
  | cons x rest ih =>
    constructor
    · rintro ⟨reply, next, hnext, hgood, hrest⟩
      obtain ⟨replies, t, hrun, hall⟩ := (ih next).mp hrest
      exact ⟨reply :: replies, t, runAll_cons hnext hrun, List.forall_mem_cons.mpr ⟨hgood, hall⟩⟩
    · rintro ⟨replies, t, hrun, hall⟩
      obtain ⟨⟨reply, next⟩, hnext, hrest⟩ := bind_eq_ok.mp hrun
      obtain ⟨⟨others, final⟩, hfinal, hpure⟩ := bind_eq_ok.mp hrest
      cases hpure
      obtain ⟨hgood, hothers⟩ := List.forall_mem_cons.mp hall
      exact ⟨reply, next, hnext, hgood, (ih next).mpr ⟨others, _, hfinal, hothers⟩⟩

/-- The run of a machine that never crashes. -/
def replay (step : τ → ι → ο × τ) (t : τ) : List ι → List ο × τ
  | [] => ([], t)
  | x :: rest =>
    let (reply, t) := step t x
    let (replies, t) := replay step t rest
    (reply :: replies, t)

/-- If every step of a machine returns and is matched, reply and next state, by the step of a
total machine, then so is every run of it. -/
theorem runAll_simulates (Rep : σ → τ → Prop)
    {step : σ → ι → Outcome (ο × σ)} {abstractStep : τ → ι → ο × τ}
    (hstep : ∀ s t x, Rep s t →
      ∃ s', step s x = .ok ((abstractStep t x).1, s') ∧ Rep s' (abstractStep t x).2)
    (xs : List ι) (s : σ) (t : τ) (hs : Rep s t) :
    ∃ s', runAll step s xs = .ok ((replay abstractStep t xs).1, s') ∧
      Rep s' (replay abstractStep t xs).2 := by
  induction xs generalizing s t with
  | nil => exact ⟨s, rfl, hs⟩
  | cons x rest ih =>
    obtain ⟨middle, hmiddle, hrep⟩ := hstep s t x hs
    obtain ⟨final, hfinal, hend⟩ := ih middle (abstractStep t x).2 hrep
    refine ⟨final, ?_, hend⟩
    simp only [runAll, hmiddle, hfinal, ok_bind, pure_eq_ok, replay]

end Machines

end MultiUeProxy.Lib.Execution
