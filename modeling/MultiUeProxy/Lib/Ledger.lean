import Mathlib.Data.List.Basic

/-!
# The books of a queue

A queue takes messages in at its end and gives them out at its front, to a consumer that holds a
message for a while before it is done with it or puts it back. `Balanced` relates what was accepted
to where it is now: settled, held, waiting in the queue, or lost. Every operation keeps the books
balanced, and the books without the lost messages are right exactly when none is lost
(`Balanced.kept_iff`).
-/

set_option autoImplicit false
set_option relaxedAutoImplicit false

namespace MultiUeProxy.Lib.Ledger

/-- The messages accepted are the others in number, and if none is lost, also in order. -/
structure Balanced {α : Type} (accepted settled held waiting lost : List α) : Prop where
  count : accepted.length = settled.length + held.length + waiting.length + lost.length
  order : lost = [] → accepted = settled ++ held ++ waiting

namespace Balanced

variable {α : Type} {accepted settled held waiting lost : List α} {x : α}

theorem empty : Balanced ([] : List α) [] [] [] [] := ⟨rfl, fun _ ↦ rfl⟩

theorem accept (h : Balanced accepted settled held waiting lost) (x : α) :
    Balanced (accepted ++ [x]) settled held (waiting ++ [x]) lost := by
  constructor
  · rw [List.length_append, List.length_append, h.count]
    omega
  · intro hnone
    rw [h.order hnone, List.append_assoc]

theorem take (h : Balanced accepted settled [] (x :: waiting) lost) :
    Balanced accepted settled [x] waiting lost := by
  constructor
  · rw [h.count, List.length_cons, List.length_nil, List.length_singleton]
    omega
  · intro hnone
    rw [h.order hnone, List.append_nil, List.append_assoc]
    rfl

theorem settle (h : Balanced accepted settled [x] waiting lost) :
    Balanced accepted (settled ++ [x]) [] waiting lost := by
  constructor
  · rw [h.count, List.length_append, List.length_nil]
    omega
  · intro hnone
    rw [h.order hnone, List.append_nil]

theorem putBack (h : Balanced accepted settled [x] waiting lost) :
    Balanced accepted settled [] (x :: waiting) lost := by
  constructor
  · rw [h.count, List.length_cons, List.length_cons, List.length_nil]
    omega
  · intro hnone
    rw [h.order hnone, List.append_nil, List.append_assoc]
    rfl

theorem lose (h : Balanced accepted settled [x] waiting lost) :
    Balanced accepted settled [] waiting (lost ++ [x]) := by
  constructor
  · rw [h.count, List.length_append, List.length_nil]
    omega
  · intro hnone
    exact absurd hnone (List.append_ne_nil_of_right_ne_nil _ (List.cons_ne_nil _ _))

/-- What was accepted is all there, in order, exactly when nothing is lost. -/
theorem kept_iff (h : Balanced accepted settled held waiting lost) :
    accepted = settled ++ held ++ waiting ↔ lost = [] := by
  constructor
  · intro hkept
    have hcount := h.count
    rw [hkept, List.length_append, List.length_append] at hcount
    exact List.length_eq_zero_iff.mp (by omega)
  · exact h.order

end Balanced

end MultiUeProxy.Lib.Ledger
