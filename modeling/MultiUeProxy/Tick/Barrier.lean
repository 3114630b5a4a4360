import Mathlib.Data.Nat.Notation
import Mathlib.Logic.Function.Basic
import Mathlib.Tactic.SplitIfs
import MultiUeProxy.Lib.Execution

/-!
# The barrier between the LTE and the NR tick thread

In NSA mode `oai_subframe_task` and `oai_slot_task` meet after every subframe: each sets its bit in
`sf_slot_tick`, the one that completes the mask broadcasts and goes on, and the other waits for the
full mask and resets it. The text of the two threads is the same but for the bit, and for the counter
that takes the NR thread to the barrier after every second slot. A step of the machine is an action
of one thread between two points where the other may come in; a step of a sleeping thread is its
wake-up, after a broadcast or spurious, and it may come as late as the schedule wants.

`lockStep_of_along` says that the threads run in lock step over every schedule in which no thread
arrives at the barrier while the mask is still full. `overrun_breaks` says that every arrival at a
full mask breaks the lock step: the thread that broadcast does not wait for the reset, so it can come
back before the other has woken up, and passes alone.
-/

set_option autoImplicit false
set_option relaxedAutoImplicit false

namespace MultiUeProxy.Tick.Barrier

open Lib.Execution

/-! ### The machine -/

/-- The two tick threads. -/
inductive Party where
  | lte
  | nr
  deriving DecidableEq, Repr

def Party.other : Party → Party
  | .lte => .nr
  | .nr => .lte

/-- `LTE_PROXY_DONE` and `NR_PROXY_DONE`. -/
def Party.done : Party → UInt16
  | .lte => 1
  | .nr => 2

/-- `BOTH_LTE_NR_DONE`. -/
def bothLteNrDone : UInt16 := 3

/-- Where a thread is. From `entered` to `leaving` it is inside of the barrier, and it holds the lock
there unless it is in `pthread_cond_wait`. -/
inductive Pc where
  /-- In the iteration, away from the barrier. -/
  | working
  /-- At `pthread_mutex_lock`. -/
  | atLock
  /-- Before it sets its bit. -/
  | entered
  /-- Before it tests the mask for the first time. -/
  | testing
  /-- Before the test of the loop. -/
  | looping
  /-- In `pthread_cond_wait`, waiting for the condition. -/
  | sleeping
  /-- In `pthread_cond_wait`, waiting for the lock. -/
  | woken
  /-- At `pthread_mutex_unlock`. -/
  | leaving
  deriving DecidableEq, Repr

/-- A thread, with how often it arrived at the barrier and how many rounds it completed. -/
structure Thread where
  pc : Pc
  slotTick : UInt16
  arrived : ℕ
  completed : ℕ

structure State where
  sfSlotTick : UInt16
  owner : Option Party
  threads : Party → Thread

/-- The state with other values of one thread. -/
def State.update (s : State) (party : Party) (thread : Thread) : State :=
  { s with threads := Function.update s.threads party thread }

/-- `pthread_cond_broadcast`. -/
def Thread.wake (thread : Thread) : Thread :=
  if thread.pc = .sleeping then { thread with pc := .woken } else thread

/-- The end of an iteration: the LTE thread goes to the barrier, the NR thread does so after every
second slot. -/
def Thread.iterate (thread : Thread) : Party → Thread
  | .lte => { thread with pc := .atLock }
  | .nr =>
    let slotTick := thread.slotTick + 1
    if slotTick = Party.nr.done then { thread with pc := .atLock, slotTick }
    else { thread with slotTick }

/-- The next action of a thread, if it is not blocked. -/
def step (s : State) (party : Party) : State :=
  let thread := s.threads party
  match thread.pc with
  | .working => s.update party (thread.iterate party)
  | .atLock =>
    if s.owner = none then
      { s.update party { thread with pc := .entered } with owner := some party }
    else s
  | .entered =>
    { s.update party { thread with pc := .testing, arrived := thread.arrived + 1 } with
      sfSlotTick := s.sfSlotTick ||| party.done }
  | .testing =>
    if s.sfSlotTick = bothLteNrDone then
      State.update { s with threads := fun other ↦ (s.threads other).wake } party
        { thread with pc := .leaving }
    else s.update party { thread with pc := .looping }
  | .looping =>
    if s.sfSlotTick ≠ bothLteNrDone then
      { s.update party { thread with pc := .sleeping } with owner := none }
    else
      { s.update party { thread with pc := .leaving } with sfSlotTick := 0 }
  | .sleeping => s.update party { thread with pc := .woken }
  | .woken =>
    if s.owner = none then
      { s.update party { thread with pc := .looping } with owner := some party }
    else s
  | .leaving =>
    { s.update party
        { thread with pc := .working, slotTick := 0, completed := thread.completed + 1 } with
      owner := none }

/-- Both threads before their first iteration. -/
def initial : State := ⟨0, none, fun _ ↦ ⟨.working, 0, 0, 0⟩⟩

/-- The threads are at most one round apart, and no thread completes a round at which the other has
not arrived. -/
structure LockStep (s : State) : Prop where
  close : ∀ party, (s.threads party).completed ≤ (s.threads party.other).completed + 1
  together : ∀ party, (s.threads party).completed ≤ (s.threads party.other).arrived ∧
    (s.threads party).completed ≤ (s.threads party).arrived

/-- The thread does not arrive at the barrier while the mask is full. -/
def NoOverrun (s : State) (party : Party) : Prop :=
  (s.threads party).pc = .entered → s.sfSlotTick ≠ bothLteNrDone

instance (s : State) (party : Party) : Decidable (NoOverrun s party) :=
  inferInstanceAs (Decidable ((s.threads party).pc = .entered → s.sfSlotTick ≠ bothLteNrDone))

/-! ### The invariant -/

theorem Party.other_other (party : Party) : party.other.other = party := by
  cases party <;> rfl

theorem Party.other_ne (party : Party) : party.other ≠ party := by
  cases party <;> decide

theorem Party.eq_or_other (party q : Party) : q = party ∨ q = party.other := by
  cases party <;> cases q <;> decide

theorem Party.forall_iff (party : Party) {P : Party → Prop} :
    (∀ q, P q) ↔ P party ∧ P party.other := by
  constructor
  · intro h
    exact ⟨h party, h party.other⟩
  · intro h q
    rcases party.eq_or_other q with rfl | rfl
    · exact h.1
    · exact h.2

/-- What the barrier sees of a thread: whether it is away from the mask, has set its bit, or waits. -/
inductive Stage where
  | away
  | testing
  | waiting
  deriving DecidableEq

def Pc.stage : Pc → Stage
  | .testing => .testing
  | .looping | .sleeping | .woken => .waiting
  | .working | .atLock | .entered | .leaving => .away

def Pc.locked : Pc → Bool
  | .entered | .testing | .looping | .leaving => true
  | .working | .atLock | .sleeping | .woken => false

/-- Whether the thread arrived at a round that it has not completed. -/
def Pc.inRound : Pc → ℕ
  | .testing | .looping | .sleeping | .woken | .leaving => 1
  | .working | .atLock | .entered => 0

/-- A thread as the invariant sees it. -/
structure View where
  stage : Stage
  locked : Bool
  inRound : ℕ
  arrived : ℕ
  completed : ℕ

def Thread.view (thread : Thread) : View :=
  ⟨thread.pc.stage, thread.pc.locked, thread.pc.inRound, thread.arrived, thread.completed⟩

def State.view (s : State) (party : Party) : View := (s.threads party).view

/-- How far the current round is: nobody has arrived, one thread has, or both have and one of them
waits. -/
inductive Phase (mask : UInt16) (view : Party → View) : Prop where
  | balanced (hmask : mask = 0) (haway : ∀ party, (view party).stage = .away)
      (harrived : (view .lte).arrived = (view .nr).arrived)
  | half (first : Party) (hmask : mask = first.done) (hfirst : (view first).stage ≠ .away)
      (hother : (view first.other).stage = .away)
      (harrived : (view first).arrived = (view first.other).arrived + 1)
  | full (first : Party) (hmask : mask = bothLteNrDone) (hfirst : (view first).stage = .waiting)
      (hother : (view first.other).stage ≠ .waiting)
      (harrived : (view first).arrived = (view first.other).arrived)

/-- What holds in every state of a run without an overrun. -/
structure Inv (mask : UInt16) (owner : Option Party) (view : Party → View) : Prop where
  mutex : ∀ party, owner = some party ↔ (view party).locked = true
  counted : ∀ party, (view party).arrived = (view party).completed + (view party).inRound
  phase : Phase mask view

section Moves

variable {s : State} {party : Party}

theorem view_update (s : State) (party : Party) (thread : Thread) :
    (s.update party thread).view = Function.update s.view party thread.view := by
  funext q
  rcases party.eq_or_other q with rfl | rfl
  · simp only [State.view, State.update, Function.update_self]
  · simp only [State.view, State.update, Function.update_of_ne party.other_ne]

theorem view_wake (thread : Thread) : thread.wake.view = thread.view := by
  unfold Thread.wake
  split_ifs with hpc
  · simp only [Thread.view, hpc]
    rfl
  · rfl

/-- A move that the barrier does not see. -/
theorem view_update_same {thread : Thread} (h : thread.view = s.view party) :
    (s.update party thread).view = s.view := by
  rw [view_update, h, Function.update_eq_self]

variable {mask : UInt16} {owner : Option Party} {view : Party → View} {next : View}

/-- The phase depends on the stages and the arrivals only. -/
theorem Phase.congr {view' : Party → View} (h : Phase mask view)
    (hstage : ∀ q, (view' q).stage = (view q).stage)
    (harrived : ∀ q, (view' q).arrived = (view q).arrived) : Phase mask view' := by
  cases h with
  | balanced hmask haway heq =>
    refine .balanced hmask (fun q ↦ (hstage q).trans (haway q)) ?_
    rwa [harrived, harrived]
  | half first hmask hfirst hother heq =>
    refine .half first hmask ?_ ?_ ?_
    · rwa [hstage]
    · rwa [hstage]
    · rwa [harrived, harrived]
  | full first hmask hfirst hother heq =>
    refine .full first hmask ?_ ?_ ?_
    · rwa [hstage]
    · rwa [hstage]
    · rwa [harrived, harrived]

/-- A move of one thread keeps the phase if its stage and its arrivals stay. -/
theorem Phase.update (h : Phase mask view) (hstage : next.stage = (view party).stage)
    (harrived : next.arrived = (view party).arrived) :
    Phase mask (Function.update view party next) := by
  refine h.congr (party.forall_iff.mpr ⟨?_, ?_⟩) (party.forall_iff.mpr ⟨?_, ?_⟩)
  · rwa [Function.update_self]
  · rw [Function.update_of_ne party.other_ne]
  · rwa [Function.update_self]
  · rw [Function.update_of_ne party.other_ne]

/-- A move of one thread, which may take the lock or give it back. -/
theorem Inv.update {mask' : UInt16} {owner' : Option Party} (h : Inv mask owner view)
    (hself : owner' = some party ↔ next.locked = true)
    (hother : owner' = some party.other ↔ owner = some party.other)
    (hcounted : next.arrived = next.completed + next.inRound)
    (hphase : Phase mask' (Function.update view party next)) :
    Inv mask' owner' (Function.update view party next) where
  mutex := by
    refine party.forall_iff.mpr ⟨?_, ?_⟩
    · rwa [Function.update_self]
    · rw [Function.update_of_ne party.other_ne]
      exact hother.trans (h.mutex party.other)
  counted := by
    refine party.forall_iff.mpr ⟨?_, ?_⟩
    · rwa [Function.update_self]
    · rw [Function.update_of_ne party.other_ne]
      exact h.counted party.other
  phase := hphase

/-- A thread keeps the lock, or stays without it. -/
theorem Inv.keep {mask' : UInt16} (h : Inv mask owner view)
    (hlocked : next.locked = (view party).locked)
    (hcounted : next.arrived = next.completed + next.inRound)
    (hphase : Phase mask' (Function.update view party next)) :
    Inv mask' owner (Function.update view party next) :=
  h.update (hlocked ▸ h.mutex party) Iff.rfl hcounted hphase

/-- A thread takes the lock, which nobody has. -/
theorem Inv.acquire (h : Inv mask none view) (hlocked : next.locked = true)
    (hcounted : next.arrived = next.completed + next.inRound)
    (hphase : Phase mask (Function.update view party next)) :
    Inv mask (some party) (Function.update view party next) := by
  refine h.update (iff_of_true rfl hlocked) (iff_of_false ?_ nofun) hcounted hphase
  intro heq
  exact party.other_ne (Option.some.inj heq).symm

/-- A thread gives the lock back. -/
theorem Inv.release (h : Inv mask owner view) (hheld : (view party).locked = true)
    (hlocked : next.locked = false) (hcounted : next.arrived = next.completed + next.inRound)
    (hphase : Phase mask (Function.update view party next)) :
    Inv mask none (Function.update view party next) := by
  refine h.update (iff_of_false nofun (hlocked ▸ Bool.false_ne_true)) (iff_of_false nofun ?_)
    hcounted hphase
  rw [(h.mutex party).mpr hheld]
  intro heq
  exact party.other_ne (Option.some.inj heq).symm

/-- Only one thread has the lock. -/
theorem Inv.alone (h : Inv mask owner view) (hheld : (view party).locked = true) :
    (view party.other).locked = false := by
  by_contra hboth
  have hother := (h.mutex party.other).mpr ((Bool.not_eq_false _).mp hboth)
  rw [(h.mutex party).mpr hheld] at hother
  exact party.other_ne (Option.some.inj hother).symm

/-- A thread sets its bit. -/
theorem Phase.arrive (h : Phase mask view) (hnotFull : mask ≠ bothLteNrDone)
    (haway : (view party).stage = .away) (hother : (view party.other).stage ≠ .testing)
    (hstage : next.stage = .testing) (harrived : next.arrived = (view party).arrived + 1) :
    Phase (mask ||| party.done) (Function.update view party next) := by
  have hself : Function.update view party next party = next := Function.update_self ..
  have hrest : Function.update view party next party.other = view party.other :=
    Function.update_of_ne party.other_ne ..
  cases h with
  | balanced hmask hall heq =>
    have hequal : (view party).arrived = (view party.other).arrived := by
      cases party with
      | lte => exact heq
      | nr => exact heq.symm
    refine .half party ?_ ?_ ?_ ?_
    · rw [hmask]
      cases party <;> rfl
    · rw [hself, hstage]
      decide
    · rw [hrest]
      exact hall party.other
    · rw [hself, hrest, harrived, hequal]
  | half first hmask hfirst hsecond heq =>
    rcases first.eq_or_other party with rfl | rfl
    · exact absurd haway hfirst
    · rw [Party.other_other] at hrest hother
      refine .full first ?_ ?_ ?_ ?_
      · rw [hmask]
        cases first <;> rfl
      · rw [hrest]
        cases hcase : (view first).stage with
        | away => exact absurd hcase hfirst
        | testing => exact absurd hcase hother
        | waiting => rfl
      · rw [hself, hstage]
        decide
      · rw [hself, hrest, harrived, heq]
  | full first hmask => exact absurd hmask hnotFull

/-- With a full mask, a thread that has just set its bit is the second one. -/
theorem Phase.of_full (h : Phase bothLteNrDone view) (hstage : (view party).stage ≠ .away) :
    (view party).arrived = (view party.other).arrived ∧
      ((view party).stage = .testing → (view party.other).stage = .waiting) ∧
      ((view party).stage = .waiting → (view party.other).stage ≠ .waiting) := by
  cases h with
  | balanced hmask hall => exact absurd (hall party) hstage
  | half first hmask => cases first <;> exact absurd hmask (by decide)
  | full first hmask hfirst hsecond heq =>
    rcases first.eq_or_other party with rfl | rfl
    · refine ⟨heq, fun htesting ↦ ?_, fun _ ↦ hsecond⟩
      rw [hfirst] at htesting
      cases htesting
    · rw [Party.other_other]
      exact ⟨heq.symm, fun _ ↦ hfirst, fun hwaiting ↦ absurd hwaiting hsecond⟩

/-- A thread that finds the mask full when it has set its bit goes on. -/
theorem Phase.passFirst (h : Phase bothLteNrDone view) (htesting : (view party).stage = .testing)
    (hstage : next.stage = .away) (harrived : next.arrived = (view party).arrived) :
    Phase bothLteNrDone (Function.update view party next) := by
  obtain ⟨heq, hother, -⟩ := h.of_full (by rw [htesting]; decide)
  have hrest : Function.update view party next party.other = view party.other :=
    Function.update_of_ne party.other_ne ..
  refine .full party.other rfl ?_ ?_ ?_
  · rw [hrest]
    exact hother htesting
  · rw [Party.other_other, Function.update_self, hstage]
    decide
  · rw [Party.other_other, hrest, Function.update_self, harrived]
    exact heq.symm

/-- The thread that waited finds the mask full and resets it. -/
theorem Phase.passSecond (h : Phase bothLteNrDone view) (hwaiting : (view party).stage = .waiting)
    (hother : (view party.other).stage ≠ .testing) (hstage : next.stage = .away)
    (harrived : next.arrived = (view party).arrived) :
    Phase 0 (Function.update view party next) := by
  obtain ⟨heq, -, hsecond⟩ := h.of_full (by rw [hwaiting]; decide)
  have hself : Function.update view party next party = next := Function.update_self ..
  have hrest : Function.update view party next party.other = view party.other :=
    Function.update_of_ne party.other_ne ..
  refine .balanced rfl (party.forall_iff.mpr ⟨?_, ?_⟩) ?_
  · rw [hself, hstage]
  · rw [hrest]
    cases hcase : (view party.other).stage with
    | away => rfl
    | testing => exact absurd hcase hother
    | waiting => exact absurd hcase (hsecond hwaiting)
  · have hequal : (Function.update view party next party).arrived =
        (Function.update view party next party.other).arrived := by
      rw [hself, hrest, harrived, heq]
    cases party with
    | lte => exact hequal
    | nr => exact hequal.symm

/-- A thread that does not find the mask full begins to wait. -/
theorem Phase.wait (h : Phase mask view) (hnotFull : mask ≠ bothLteNrDone)
    (htesting : (view party).stage = .testing) (hstage : next.stage = .waiting)
    (harrived : next.arrived = (view party).arrived) :
    Phase mask (Function.update view party next) := by
  have hself : Function.update view party next party = next := Function.update_self ..
  have hrest : Function.update view party next party.other = view party.other :=
    Function.update_of_ne party.other_ne ..
  cases h with
  | balanced hmask hall =>
    have hparty := hall party
    rw [htesting] at hparty
    cases hparty
  | half first hmask hfirst hsecond heq =>
    rcases first.eq_or_other party with rfl | rfl
    · refine .half party hmask ?_ ?_ ?_
      · rw [hself, hstage]
        decide
      · rwa [hrest]
      · rwa [hself, hrest, harrived]
    · rw [htesting] at hsecond
      cases hsecond
  | full first hmask => exact absurd hmask hnotFull

end Moves

section Steps

variable {s : State} {party : Party}

theorem iterate_view {thread : Thread} (hpc : thread.pc = .working) (party : Party) :
    (thread.iterate party).view = thread.view := by
  cases party with
  | lte =>
    simp only [Thread.iterate, Thread.view, hpc]
    rfl
  | nr =>
    show (if thread.slotTick + 1 = Party.nr.done then _ else _ : Thread).view = thread.view
    split_ifs
    · simp only [Thread.view, hpc]
      rfl
    · rfl

theorem view_of_pc {pc : Pc} (hpc : (s.threads party).pc = pc) :
    s.view party = ⟨pc.stage, pc.locked, pc.inRound, (s.threads party).arrived,
      (s.threads party).completed⟩ := by
  rw [State.view, Thread.view, hpc]

/-- While a thread has the lock, the other one has not just set its bit. -/
theorem Inv.not_testing (h : Inv s.sfSlotTick s.owner s.view)
    (hheld : (s.view party).locked = true) : (s.view party.other).stage ≠ .testing := by
  intro htesting
  have hfree := h.alone hheld
  unfold State.view Thread.view at htesting hfree
  cases hpc : (s.threads party.other).pc with
  | testing =>
    rw [hpc] at hfree
    cases hfree
  | _ =>
    rw [hpc] at htesting
    cases htesting

/-- Every action without an overrun keeps the invariant. -/
theorem step_inv (h : Inv s.sfSlotTick s.owner s.view) (hguard : NoOverrun s party) :
    Inv (step s party).sfSlotTick (step s party).owner (step s party).view := by
  have hcounted := h.counted party
  cases hpc : (s.threads party).pc with
  | working =>
    simp only [step, hpc]
    show Inv s.sfSlotTick s.owner (s.update party _).view
    rw [view_update_same (iterate_view hpc party)]
    exact h
  | atLock =>
    have hview := view_of_pc hpc
    simp only [step, hpc]
    split_ifs with hfree
    · show Inv s.sfSlotTick (some party) (s.update party _).view
      rw [hfree] at h
      rw [hview] at hcounted
      rw [view_update]
      exact h.acquire rfl hcounted (h.phase.update (by rw [hview]; rfl) (by rw [hview]; rfl))
    · exact h
  | entered =>
    have hview := view_of_pc hpc
    simp only [step, hpc]
    show Inv (s.sfSlotTick ||| party.done) s.owner (s.update party _).view
    have hheld : (s.view party).locked = true := by rw [hview]; rfl
    have hother := h.not_testing hheld
    rw [view_update]
    refine h.keep (by rw [hview]; rfl) ?_ (h.phase.arrive (hguard hpc) (by rw [hview]; rfl) hother
      rfl (by rw [hview]; rfl))
    rw [hview] at hcounted
    exact congrArg Nat.succ hcounted
  | testing =>
    have hview := view_of_pc hpc
    simp only [step, hpc]
    rw [hview] at hcounted
    split_ifs with hfull
    · show Inv s.sfSlotTick s.owner (State.update _ party _).view
      have hwake : (State.view { s with threads := fun other ↦ (s.threads other).wake }) = s.view :=
        funext fun other ↦ view_wake _
      rw [view_update, hwake]
      refine h.keep (by rw [hview]; rfl) hcounted ?_
      have hphase := h.phase
      rw [hfull] at hphase ⊢
      exact hphase.passFirst (by rw [hview]; rfl) rfl (by rw [hview]; rfl)
    · show Inv s.sfSlotTick s.owner (s.update party _).view
      rw [view_update]
      exact h.keep (by rw [hview]; rfl) hcounted
        (h.phase.wait hfull (by rw [hview]; rfl) rfl (by rw [hview]; rfl))
  | looping =>
    have hview := view_of_pc hpc
    simp only [step, hpc]
    rw [hview] at hcounted
    split_ifs with hwait
    · show Inv s.sfSlotTick none (s.update party _).view
      rw [view_update]
      exact h.release (by rw [hview]; rfl) rfl hcounted
        (h.phase.update (by rw [hview]; rfl) (by rw [hview]; rfl))
    · show Inv 0 s.owner (s.update party _).view
      have hheld : (s.view party).locked = true := by rw [hview]; rfl
      have hother := h.not_testing hheld
      have hphase := h.phase
      rw [not_not.mp hwait] at hphase
      rw [view_update]
      exact h.keep (by rw [hview]; rfl) hcounted
        (hphase.passSecond (by rw [hview]; rfl) hother rfl (by rw [hview]; rfl))
  | sleeping =>
    have hview := view_of_pc hpc
    simp only [step, hpc]
    show Inv s.sfSlotTick s.owner (s.update party _).view
    rw [view_update_same (by rw [hview]; rfl)]
    exact h
  | woken =>
    have hview := view_of_pc hpc
    simp only [step, hpc]
    split_ifs with hfree
    · show Inv s.sfSlotTick (some party) (s.update party _).view
      rw [hfree] at h
      rw [hview] at hcounted
      rw [view_update]
      exact h.acquire rfl hcounted (h.phase.update (by rw [hview]; rfl) (by rw [hview]; rfl))
    · exact h
  | leaving =>
    have hview := view_of_pc hpc
    simp only [step, hpc]
    rw [hview] at hcounted
    show Inv s.sfSlotTick none (s.update party _).view
    rw [view_update]
    exact h.release (by rw [hview]; rfl) rfl hcounted
      (h.phase.update (by rw [hview]; rfl) (by rw [hview]; rfl))

end Steps

/-! ### Runs -/

theorem inv_initial : Inv initial.sfSlotTick initial.owner initial.view where
  mutex _ := iff_of_false nofun Bool.false_ne_true
  counted _ := rfl
  phase := .balanced rfl (fun _ ↦ rfl) rfl

theorem Pc.inRound_le_one (pc : Pc) : pc.inRound ≤ 1 := by
  cases pc <;> decide

theorem Pc.inRound_of_stage {pc : Pc} (h : pc.stage ≠ .away) : pc.inRound = 1 := by
  cases pc <;> first | rfl | exact absurd rfl h

/-- The counts of the rounds follow from the phase. -/
theorem Inv.lockStep {s : State} (h : Inv s.sfSlotTick s.owner s.view) : LockStep s := by
  have hone (party : Party) : (s.view party).inRound ≤ 1 := Pc.inRound_le_one _
  have hstage (party : Party) (haway : (s.view party).stage ≠ .away) :
      (s.view party).inRound = 1 := Pc.inRound_of_stage haway
  have hcounted := h.counted
  have hbounds (party : Party) : (s.view party).completed ≤ (s.view party.other).completed + 1 ∧
      (s.view party).completed ≤ (s.view party.other).arrived ∧
      (s.view party).completed ≤ (s.view party).arrived := by
    have hparty := hcounted party
    have hother := hcounted party.other
    have hbound := hone party.other
    cases h.phase with
    | balanced hmask haway heq =>
      have hequal : (s.view party).arrived = (s.view party.other).arrived := by
        cases party with
        | lte => exact heq
        | nr => exact heq.symm
      omega
    | half first hmask hfirst hsecond heq =>
      have hround := hstage first hfirst
      rcases first.eq_or_other party with rfl | rfl
      · omega
      · rw [Party.other_other] at hother hbound ⊢
        omega
    | full first hmask hfirst hsecond heq =>
      rcases first.eq_or_other party with rfl | rfl
      · omega
      · rw [Party.other_other] at hother hbound ⊢
        omega
  exact ⟨fun party ↦ (hbounds party).1, fun party ↦ (hbounds party).2⟩

theorem inv_of_along {schedule : List Party} {s : State} (h : Inv s.sfSlotTick s.owner s.view)
    (hschedule : Along step NoOverrun s schedule) :
    Inv (schedule.foldl step s).sfSlotTick (schedule.foldl step s).owner
      (schedule.foldl step s).view := by
  induction schedule generalizing s with
  | nil => exact h
  | cons party rest ih => exact ih (step_inv h hschedule.1) hschedule.2

/-- In every run in which no thread arrives at a full mask, the threads are in lock step from the
beginning to the end. -/
theorem lockStep_of_along {schedule : List Party} (h : Along step NoOverrun initial schedule)
    (count : ℕ) : LockStep ((schedule.take count).foldl step initial) :=
  (inv_of_along inv_initial (h.take count)).lockStep

/-- The threads meet once: the LTE thread waits, the NR thread completes the mask after two slots
and goes on, and the LTE thread wakes up and resets the mask. -/
def meetOnce : List Party :=
  List.replicate 5 .lte ++ List.replicate 6 .nr ++ List.replicate 3 .lte

theorem meetOnce_lockStep : LockStep ((meetOnce.take 14).foldl step initial) :=
  lockStep_of_along (by decide) 14

theorem step_entered_full {s : State} {party : Party} (hpc : (s.threads party).pc = .entered)
    (hfull : s.sfSlotTick = bothLteNrDone) :
    ((step s party).threads party).pc = .testing ∧ (step s party).sfSlotTick = bothLteNrDone ∧
      ∀ q, ((step s party).threads q).completed = (s.threads q).completed := by
  simp only [step, hpc, State.update, Function.update_self, true_and]
  constructor
  · rw [hfull]
    cases party <;> rfl
  · refine party.forall_iff.mpr ⟨?_, ?_⟩
    · rw [Function.update_self]
    · rw [Function.update_of_ne party.other_ne]

theorem step_testing_full {s : State} {party : Party} (hpc : (s.threads party).pc = .testing)
    (hfull : s.sfSlotTick = bothLteNrDone) :
    ((step s party).threads party).pc = .leaving ∧
      ∀ q, ((step s party).threads q).completed = (s.threads q).completed := by
  simp only [step, hpc, if_pos hfull, State.update, Function.update_self, true_and]
  refine party.forall_iff.mpr ⟨?_, ?_⟩
  · rw [Function.update_self]
  · rw [Function.update_of_ne party.other_ne]
    exact congrArg View.completed (view_wake _)

theorem step_leaving {s : State} {party : Party} (hpc : (s.threads party).pc = .leaving) :
    ((step s party).threads party).completed = (s.threads party).completed + 1 ∧
      ((step s party).threads party.other).completed = (s.threads party.other).completed := by
  simp only [step, hpc, State.update, Function.update_self, true_and]
  rw [Function.update_of_ne party.other_ne]

/-- Every arrival at a full mask breaks the lock step with the next actions of the thread. -/
theorem overrun_breaks {schedule : List Party} {party : Party}
    (h : Along step NoOverrun initial schedule)
    (hoverrun : ¬ NoOverrun (schedule.foldl step initial) party) :
    ¬ LockStep ((schedule ++ [party, party, party]).foldl step initial) := by
  have hinv := inv_of_along inv_initial h
  rw [List.foldl_append]
  generalize schedule.foldl step initial = s at hinv hoverrun ⊢
  obtain ⟨hpc, hmask⟩ := Classical.not_imp.mp hoverrun
  have hfull := not_not.mp hmask
  obtain ⟨htesting, hstill, hfirst⟩ := step_entered_full hpc hfull
  obtain ⟨hleaving, hsecond⟩ := step_testing_full htesting hstill
  obtain ⟨hpassed, hother⟩ := step_leaving hleaving
  rw [hsecond, hfirst] at hpassed hother
  intro hlockStep
  have hclose := hlockStep.close party
  change ((step (step (step s party) party) party).threads party).completed ≤
    ((step (step (step s party) party) party).threads party.other).completed + 1 at hclose
  rw [hpassed, hother] at hclose
  -- the other thread is the one that waits, so it is a round behind already
  have hview := view_of_pc hpc
  have hphase := hinv.phase
  rw [hfull] at hphase
  have hbehind : (s.view party.other).inRound = 1 ∧
      (s.view party).arrived = (s.view party.other).arrived := by
    cases hphase with
    | balanced hzero => exact absurd hzero (by decide)
    | half first hhalf => cases first <;> exact absurd hhalf (by decide)
    | full first _ hwaiting _ heq =>
      rcases first.eq_or_other party with rfl | rfl
      · rw [hview] at hwaiting
        cases hwaiting
      · rw [Party.other_other]
        refine ⟨Pc.inRound_of_stage fun haway ↦ ?_, heq.symm⟩
        rw [State.view, Thread.view, haway] at hwaiting
        cases hwaiting
  have hparty := hinv.counted party
  have hcounted := hinv.counted party.other
  rw [hbehind.1, ← hbehind.2, hparty, hview] at hcounted
  change (s.threads party).completed + 0 = (s.threads party.other).completed + 1 at hcounted
  omega

/-- The LTE thread arrives and waits. The NR thread completes the mask and goes on, and after two
more slots it is back before the LTE thread has woken up. -/
def nrReturns : List Party := List.replicate 5 .lte ++ List.replicate 12 .nr

theorem nrReturns_not_lockStep : ¬ LockStep (nrReturns.foldl step initial) := by
  intro h
  exact absurd (h.close .nr) (by decide)

end MultiUeProxy.Tick.Barrier
