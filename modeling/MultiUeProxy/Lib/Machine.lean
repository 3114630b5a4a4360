import MultiUeProxy.Lib.Execution
import Mathlib.Data.Nat.Notation

/-!
# Machines

A machine takes one step after the other until a step says that it has ended, or ends the program.
`Reaches` has the states of a run. A run ends if its steps make a measure smaller (`exists_end`).
`ReachesAfter` counts the states of some kind that a run has left behind.
-/

set_option autoImplicit false
set_option relaxedAutoImplicit false

namespace MultiUeProxy.Lib.Machine

open Execution

section Runs

variable {σ : Type} {step : σ → Outcome (Option σ)} {start s t : σ}

/-- The states of the run from a state on. -/
inductive Reaches (step : σ → Outcome (Option σ)) (start : σ) : σ → Prop where
  | refl : Reaches step start start
  | next {s t : σ} : Reaches step start s → step s = .ok (some t) → Reaches step start t

theorem Reaches.trans {middle : σ} (h : Reaches step start middle) (hrest : Reaches step middle s) :
    Reaches step start s := by
  induction hrest with
  | refl => exact h
  | next _ hstep ih => exact ih.next hstep

/-- A run ends if every step of it makes a measure smaller. -/
theorem exists_end {Inv : σ → Prop} {measure : σ → ℕ}
    (hstep : ∀ s, Inv s → step s = .ok none ∨
      ∃ t, step s = .ok (some t) ∧ Inv t ∧ measure t < measure s) (hstart : Inv start) :
    ∃ s, Reaches step start s ∧ step s = .ok none := by
  generalize hm : measure start = m
  induction m using Nat.strongRecOn generalizing start with
  | ind m ih =>
    rcases hstep start hstart with hend | ⟨t, hnext, ht, hless⟩
    · exact ⟨start, .refl, hend⟩
    · obtain ⟨s, hreaches, hend⟩ := ih (measure t) (hm ▸ hless) ht rfl
      exact ⟨s, (Reaches.refl.next hnext).trans hreaches, hend⟩

/-- The states of a run, with the number of counted states before. -/
inductive ReachesAfter (step : σ → Outcome (Option σ)) (counted : σ → Bool) (start : σ) :
    ℕ → σ → Prop where
  | refl : ReachesAfter step counted start 0 start
  | next {count : ℕ} {s t : σ} : ReachesAfter step counted start count s →
      step s = .ok (some t) → ReachesAfter step counted start (count + (counted s).toNat) t

theorem ReachesAfter.reaches {counted : σ → Bool} {count : ℕ}
    (h : ReachesAfter step counted start count s) : Reaches step start s := by
  induction h with
  | refl => exact .refl
  | next _ hstep ih => exact ih.next hstep

end Runs

end MultiUeProxy.Lib.Machine
