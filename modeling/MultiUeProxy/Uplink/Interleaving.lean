import MultiUeProxy.Lib.Ledger
import MultiUeProxy.Uplink.Batch

/-!
# The receive threads and the tick thread

The queue of a UE is shared by its receive thread, which puts messages into it, and the tick thread,
which runs `dequeue_ue_msgs` or `dequeue_ue_slot_msgs` on all queues. Every queue operation is atomic
under its lock, but a message that the tick thread has taken is outside of the queue until it is
inspected and, if it has another time, put back. Here the tick thread is a machine with one step for
each of the three actions, and any operation of a receive thread may come between two of them.
`dequeueMsgs_runs` says that the steps of one call, if nothing comes between them, are the call.

The books of a UE are what its receive thread put into the queue, what the tick thread is done with,
what it holds and what is in the queue. `booksKept_iff` says that they are kept over a run exactly
when every message that is put back finds room in the queue: `requeue` refuses a message if the queue
was filled up in the meantime, and the message is freed.
-/

set_option autoImplicit false
set_option relaxedAutoImplicit false

namespace MultiUeProxy.Uplink.Interleaving

open Lib.Execution Lib.Ledger Lib.Ring Queue.Operations Queue.DequeRefinement P7.Header Message Dequeue Batch

/-! ### The machine -/

/-- The variables of a call. The tables that are finished say which UE is next. -/
structure Call where
  tx : UInt16
  master : UInt16
  areQueuesEmpty : Bool
  done : List SubframeMsgs
  msgs : SubframeMsgs

namespace Call

def start (tx : UInt16) : Call := ⟨tx, 0xFFFF, true, [], .empty⟩

/-- The loop variable `i`. -/
def ue (call : Call) : ℕ := call.done.length

def nextUe (call : Call) : Call := { call with done := call.done ++ [call.msgs], msgs := .empty }

end Call

/-- Where the tick thread is. -/
inductive TickThread where
  | outside
  | atGetQueue (call : Call)
  | inspecting (call : Call) (msg : MessageBuffer)
  | atRequeue (call : Call) (msg : MessageBuffer)

/-- What becomes of a message that is not put back. -/
inductive Fate where
  | delivered
  | dummy
  | malformed
  | stale
  | overCap
  deriving DecidableEq, Repr

/-- The loop body between `get_queue` and `requeue`. There is no fate for a message that is to be put
back. -/
def inspect (radio : Radio) (call : Call) (msg : MessageBuffer) : Outcome (Option Fate × Call) := do
  assert (msg.magic = messageBufferMagic)
  if msg.length = 4 then
    return (some .dummy, call)
  else
    match ← radio.peek msg with
    | none => return (some .malformed, call)
    | some time =>
      let master := if call.master = 0xFFFF then time else call.master
      if master ≠ time then
        return (none, { call with master })
      else if radio.stale call.tx time then
        return (some .stale, { call with master })
      else if call.msgs.msgs.length = maxSubframeMsgs then
        return (some .overCap, { call with master })
      else
        return (some .delivered, { call with master, msgs := call.msgs.push msg })

/-- What a step reports. -/
inductive Note where
  | silent
  | put (ue : ℕ) (msg : MessageBuffer) (queued : Bool)
  | settled (call : Call) (msg : MessageBuffer) (fate : Fate)
  | requeued (call : Call) (msg : MessageBuffer) (queued : Bool)
  | returned (areQueuesEmpty : Bool) (table : List SubframeMsgs)

/-- The queues of all UEs and the tick thread. -/
structure Shared where
  queues : List (QueueT MessageBuffer)
  thread : TickThread

/-- One action of the tick thread. -/
def tickStep (radio : Radio) : Shared → Outcome (Note × Shared)
  | ⟨queues, .outside⟩ => .ok (.silent, ⟨queues, .outside⟩)
  | ⟨queues, .atGetQueue call⟩ =>
    match queues[call.ue]? with
    | none => .ok (.returned call.areQueuesEmpty call.done, ⟨queues, .outside⟩)
    | some queue => do
      let (item, queue) ← getQueue queue
      match item with
      | none => return (.silent, ⟨queues.set call.ue queue, .atGetQueue call.nextUe⟩)
      | some msg => return (.silent, ⟨queues.set call.ue queue, .inspecting call msg⟩)
  | ⟨queues, .inspecting call msg⟩ => do
    let (fate, call) ← inspect radio call msg
    match fate with
    | none => return (.silent, ⟨queues, .atRequeue call msg⟩)
    | some fate => return (.settled call msg fate, ⟨queues, .atGetQueue call⟩)
  | ⟨queues, .atRequeue call msg⟩ =>
    match queues[call.ue]? with
    | none => .error .fault
    | some queue => do
      let (queued, queue) ← requeue queue (some msg)
      return (.requeued call msg queued, ⟨queues.set call.ue queue,
        .atGetQueue { call with areQueuesEmpty := false }.nextUe⟩)

/-- The messages that the handlers put into the queues. -/
abbrev LiveMessage := { msg : MessageBuffer // msg.Live }

/-- The actions of all threads. The tick thread calls the function when it is outside of it. -/
inductive Action where
  | put (ue : ℕ) (msg : LiveMessage)
  | call (tx : UInt16)
  | tick

/-- One action of one thread. There is no receive thread without a queue. -/
def step (radio : Radio) : Shared → Action → Outcome (Note × Shared)
  | shared, .put ue msg =>
    match shared.queues[ue]? with
    | none => .ok (.silent, shared)
    | some queue => do
      let (queued, queue) ← putQueue queue (some msg.1)
      return (.put ue msg.1 queued, { shared with queues := shared.queues.set ue queue })
  | ⟨queues, .outside⟩, .call tx => .ok (.silent, ⟨queues, .atGetQueue (.start tx)⟩)
  | shared, .call _ => .ok (.silent, shared)
  | shared, .tick => tickStep radio shared

/-- The queues after `init_queue`, before the first tick. -/
def initial (numUes : ℕ) : Shared := ⟨List.replicate numUes initQueue, .outside⟩

section Steps

variable {radio : Radio} {queues : List (QueueT MessageBuffer)} {queue next : QueueT MessageBuffer}
  {call call' : Call} {msg : MessageBuffer}

theorem step_getQueue_nil (hqueue : queues[call.ue]? = some queue)
    (hget : getQueue queue = .ok (none, next)) :
    step radio ⟨queues, .atGetQueue call⟩ .tick =
      .ok (.silent, ⟨queues.set call.ue next, .atGetQueue call.nextUe⟩) := by
  simp only [step, tickStep, hqueue, hget, ok_bind, pure_eq_ok]

theorem step_getQueue_cons (hqueue : queues[call.ue]? = some queue)
    (hget : getQueue queue = .ok (some msg, next)) :
    step radio ⟨queues, .atGetQueue call⟩ .tick =
      .ok (.silent, ⟨queues.set call.ue next, .inspecting call msg⟩) := by
  simp only [step, tickStep, hqueue, hget, ok_bind, pure_eq_ok]

theorem step_return (hqueue : queues[call.ue]? = none) :
    step radio ⟨queues, .atGetQueue call⟩ .tick =
      .ok (.returned call.areQueuesEmpty call.done, ⟨queues, .outside⟩) := by
  simp only [step, tickStep, hqueue]

theorem step_inspect_other (hinspect : inspect radio call msg = .ok (none, call')) :
    step radio ⟨queues, .inspecting call msg⟩ .tick =
      .ok (.silent, ⟨queues, .atRequeue call' msg⟩) := by
  simp only [step, tickStep, hinspect, ok_bind, pure_eq_ok]

theorem step_inspect_settled {fate : Fate}
    (hinspect : inspect radio call msg = .ok (some fate, call')) :
    step radio ⟨queues, .inspecting call msg⟩ .tick =
      .ok (.settled call' msg fate, ⟨queues, .atGetQueue call'⟩) := by
  simp only [step, tickStep, hinspect, ok_bind, pure_eq_ok]

theorem step_requeue {queued : Bool} (hqueue : queues[call.ue]? = some queue)
    (hrequeue : requeue queue (some msg) = .ok (queued, next)) :
    step radio ⟨queues, .atRequeue call msg⟩ .tick =
      .ok (.requeued call msg queued, ⟨queues.set call.ue next,
        .atGetQueue { call with areQueuesEmpty := false }.nextUe⟩) := by
  simp only [step, tickStep, hqueue, hrequeue, ok_bind, pure_eq_ok]

theorem step_put {thread : TickThread} {ue : ℕ} {msg : LiveMessage} {queued : Bool}
    (hqueue : queues[ue]? = some queue) (hput : putQueue queue (some msg.1) = .ok (queued, next)) :
    step radio ⟨queues, thread⟩ (.put ue msg) =
      .ok (.put ue msg.1 queued, ⟨queues.set ue next, thread⟩) := by
  simp only [step, hqueue, hput, ok_bind, pure_eq_ok]

/-- The inspection of a message does not change which UE is served. -/
theorem inspect_keeps {fate : Option Fate} (h : inspect radio call msg = .ok (fate, call')) :
    call'.tx = call.tx ∧ call'.done = call.done := by
  unfold inspect at h
  obtain ⟨-, -, h⟩ := bind_eq_ok.mp h
  split at h
  · cases h
    exact ⟨rfl, rfl⟩
  · obtain ⟨time, -, h⟩ := bind_eq_ok.mp h
    cases time with
    | none =>
      cases h
      exact ⟨rfl, rfl⟩
    | some time =>
      dsimp only at h
      split_ifs at h <;> cases h <;> exact ⟨rfl, rfl⟩

end Steps

/-! ### A call that is not disturbed -/

section Undisturbed

variable {radio : Radio} {queues : List (QueueT MessageBuffer)} {queue : QueueT MessageBuffer}

/-- The variables of the loop over the messages of one UE. -/
def Call.drain (call : Call) (queue : QueueT MessageBuffer) : Drain :=
  ⟨queue, call.msgs, call.master, call.areQueuesEmpty⟩

/-- The call after the loop over the messages of its UE. -/
def Call.drained (call : Call) (final : Drain) : Call :=
  ⟨call.tx, final.master, final.areQueuesEmpty, call.done ++ [final.msgs], .empty⟩

theorem push_of_full {p : SubframeMsgs} (hfull : p.msgs.length = maxSubframeMsgs)
    (msg : MessageBuffer) : p.push msg = p := dif_pos hfull

/-- The loop of a call, in terms of what happens between `get_queue` and `requeue`. -/
theorem drainUe_succ (radio : Radio) (bound : ℕ) (call : Call) (queue : QueueT MessageBuffer) :
    drainUe radio call.tx (bound + 1) (call.drain queue) = (do
      let (item, queue) ← getQueue queue
      match item with
      | none => return call.drain queue
      | some msg =>
        let (fate, call) ← inspect radio call msg
        match fate with
        | none =>
          let (_, queue) ← requeue queue (some msg)
          return { call.drain queue with areQueuesEmpty := false }
        | some _ => drainUe radio call.tx bound (call.drain queue)) := by
  conv_lhs => unfold drainUe
  refine bind_congr fun taken ↦ ?_
  obtain ⟨item, queue⟩ := taken
  cases item with
  | none => rfl
  | some msg =>
    show (do assert _; _) = (do let _ ← (do assert _; _); _)
    rw [bind_assoc]
    refine bind_congr fun _ ↦ ?_
    by_cases hdummy : msg.length = 4
    · simp only [if_pos hdummy, pure_bind]
      rfl
    · simp only [if_neg hdummy, bind_assoc]
      refine bind_congr fun time ↦ ?_
      cases time with
      | none => rfl
      | some time =>
        by_cases hother : (if call.master = 0xFFFF then time else call.master) ≠ time
        · simp only [Call.drain, if_pos hother, pure_bind]
          exact if_pos hother
        · simp only [Call.drain, if_neg hother]
          refine (if_neg hother).trans ?_
          by_cases hstale : radio.stale call.tx time
          · simp only [if_pos hstale, pure_bind]
            rfl
          · simp only [if_neg hstale]
            by_cases hfull : call.msgs.msgs.length = maxSubframeMsgs
            · simp only [if_pos hfull, push_of_full hfull, pure_bind]
              rfl
            · simp only [if_neg hfull, pure_bind]
              rfl

/-- The steps of the tick thread for one UE, if nothing comes between them. -/
theorem drainUe_runs {bound : ℕ} {call : Call} {final : Drain}
    (hqueue : queues[call.ue]? = some queue)
    (hdrain : drainUe radio call.tx bound (call.drain queue) = .ok final) :
    ∃ steps notes, runAll (step radio) ⟨queues, .atGetQueue call⟩ (List.replicate steps .tick) =
      .ok (notes, ⟨queues.set call.ue final.queue, .atGetQueue (call.drained final)⟩) := by
  induction bound generalizing call queues queue with
  | zero => cases hdrain
  | succ bound ih =>
    rw [drainUe_succ] at hdrain
    obtain ⟨⟨item, taken⟩, hget, hrest⟩ := bind_eq_ok.mp hdrain
    cases item with
    | none =>
      cases hrest
      exact ⟨1, _, runAll_cons (step_getQueue_nil hqueue hget) rfl⟩
    | some msg =>
      obtain ⟨⟨fate, call'⟩, hinspect, hfate⟩ := bind_eq_ok.mp hrest
      obtain ⟨htx, hdone⟩ := inspect_keeps hinspect
      have hue : call'.ue = call.ue := congrArg List.length hdone
      have htaken : (queues.set call.ue taken)[call'.ue]? = some taken := by
        rw [hue]
        exact List.getElem?_set_self (List.getElem?_eq_some_iff.mp hqueue).1
      cases fate with
      | none =>
        obtain ⟨⟨queued, put⟩, hrequeue, hput⟩ := bind_eq_ok.mp hfate
        cases hput
        have hlast : step radio _ _ = _ := step_requeue htaken hrequeue
        rw [hue, List.set_set, Call.nextUe, htx, hdone] at hlast
        exact ⟨3, _, runAll_cons (step_getQueue_cons hqueue hget)
          (runAll_cons (step_inspect_other hinspect) (runAll_cons hlast rfl))⟩
      | some fate =>
        obtain ⟨steps, notes, hrun⟩ := ih htaken hfate
        rw [hue, List.set_set, Call.drained, htx, hdone] at hrun
        exact ⟨steps + 2, _, runAll_cons (step_getQueue_cons hqueue hget)
          (runAll_cons (step_inspect_settled hinspect) hrun)⟩

/-- The steps of the tick thread for the UEs that are left. -/
theorem dequeueLoop_runs (front : List (QueueT MessageBuffer)) {rest : List (QueueT MessageBuffer)}
    (call : Call) {r : Dequeued}
    (hfront : front.length = call.ue) (hempty : call.msgs = .empty)
    (hloop : dequeueLoop radio call.tx call.master call.areQueuesEmpty rest = .ok r) :
    ∃ steps notes, runAll (step radio) ⟨front ++ rest, .atGetQueue call⟩
        (List.replicate steps .tick) =
      .ok (notes ++ [.returned r.areQueuesEmpty (call.done ++ r.table)],
        ⟨front ++ r.queues, .outside⟩) := by
  induction rest generalizing front call r with
  | nil =>
    cases hloop
    have hnone : front[call.ue]? = none := List.getElem?_eq_none (Nat.le_of_eq hfront)
    refine ⟨1, [], ?_⟩
    rw [List.append_nil, List.append_nil]
    exact runAll_cons (step_return hnone) rfl
  | cons queue rest ih =>
    unfold dequeueLoop at hloop
    obtain ⟨final, hdrain, hrest⟩ := bind_eq_ok.mp hloop
    obtain ⟨others, hothers, hpure⟩ := bind_eq_ok.mp hrest
    cases hpure
    have hqueue : (front ++ queue :: rest)[call.ue]? = some queue := by
      rw [← hfront, List.getElem?_append_right (Nat.le_refl _), Nat.sub_self]
      rfl
    have hset : (front ++ queue :: rest).set call.ue final.queue =
        (front ++ [final.queue]) ++ rest := by
      rw [← hfront, List.set_append_right _ _ (Nat.le_refl _), Nat.sub_self, List.append_assoc]
      rfl
    rw [← hempty] at hdrain
    obtain ⟨steps, notes, hrun⟩ := drainUe_runs hqueue hdrain
    rw [hset] at hrun
    have hnext : (front ++ [final.queue]).length = (call.drained final).ue := by
      rw [List.length_append, hfront, Call.ue, Call.ue, Call.drained, List.length_append]
      rfl
    obtain ⟨steps', notes', hrun'⟩ := ih _ (call.drained final) hnext rfl hothers
    refine ⟨steps + steps', notes ++ notes', ?_⟩
    have hboth := runAll_append hrun hrun'
    rw [List.replicate_append_replicate, Call.drained, List.append_assoc, List.append_assoc,
      ← List.append_assoc] at hboth
    exact hboth

/-- The steps of one call, if nothing comes between them, are the call. -/
theorem dequeueMsgs_runs {tx : UInt16} {r : Dequeued}
    (hcall : dequeueMsgs radio tx queues = .ok r) :
    ∃ steps notes, runAll (step radio) ⟨queues, .outside⟩ (.call tx :: List.replicate steps .tick) =
      .ok (notes ++ [.returned r.areQueuesEmpty r.table], ⟨r.queues, .outside⟩) := by
  obtain ⟨steps, notes, hrun⟩ := dequeueLoop_runs [] (.start tx) rfl rfl hcall
  exact ⟨steps, .silent :: notes, runAll_cons rfl hrun⟩

end Undisturbed

/-! ### The books of a UE -/

/-- The messages in a queue, from its front. -/
def contents (queue : QueueT MessageBuffer) : List MessageBuffer := (window queue).filterMap id

theorem contents_eq {queue : QueueT MessageBuffer} {xs : List MessageBuffer}
    (h : Represents queue xs) : contents queue = xs := by
  rw [contents, h.window_eq, List.filterMap_map]
  exact List.filterMap_some

/-- The messages in the queue of a UE. -/
def Shared.waiting (shared : Shared) (ue : ℕ) : List MessageBuffer :=
  (shared.queues[ue]?.map contents).getD []

/-- The messages of a UE that the tick thread holds. -/
def TickThread.held : TickThread → ℕ → List MessageBuffer
  | .inspecting call msg, ue => if call.ue = ue then [msg] else []
  | .atRequeue call msg, ue => if call.ue = ue then [msg] else []
  | _, _ => []

theorem held_inspecting (call : Call) (msg : MessageBuffer) (ue : ℕ) :
    (TickThread.inspecting call msg).held ue = if call.ue = ue then [msg] else [] := rfl

theorem held_atRequeue (call : Call) (msg : MessageBuffer) (ue : ℕ) :
    (TickThread.atRequeue call msg).held ue = if call.ue = ue then [msg] else [] := rfl

/-- The message of a UE for which `put_queue` returned `true`. -/
def Note.accepted (ue : ℕ) : Note → List MessageBuffer
  | .put ue' msg true => if ue' = ue then [msg] else []
  | _ => []

/-- The message of a UE that was delivered to the tick thread or dropped by it. -/
def Note.settles (ue : ℕ) : Note → List MessageBuffer
  | .settled call msg _ => if call.ue = ue then [msg] else []
  | _ => []

/-- The message of a UE that the queue did not take back. -/
def Note.lost (ue : ℕ) : Note → List MessageBuffer
  | .requeued call msg false => if call.ue = ue then [msg] else []
  | _ => []

def accepted (ue : ℕ) (notes : List Note) : List MessageBuffer := notes.flatMap (Note.accepted ue)

def settled (ue : ℕ) (notes : List Note) : List MessageBuffer := notes.flatMap (Note.settles ue)

def lost (ue : ℕ) (notes : List Note) : List MessageBuffer := notes.flatMap (Note.lost ue)

/-- Every message accepted is settled, held or waiting, in the order in which it was put. -/
def BooksKept (ue : ℕ) (notes : List Note) (shared : Shared) : Prop :=
  accepted ue notes = settled ue notes ++ shared.thread.held ue ++ shared.waiting ue

/-- What is reported of a settled message is so: it is in the table if it was delivered, and it was
dropped for the reason given. -/
def Note.Justified (radio : Radio) : Note → Prop
  | .settled call msg .delivered => call.msgs.msgs.getLast? = some (some msg)
  | .settled _ msg .dummy => msg.length = 4
  | .settled _ msg .malformed => radio.time msg = none
  | .settled call msg .stale => ∃ time, radio.time msg = some time ∧ radio.stale call.tx time
  | .settled call _ .overCap => call.msgs.msgs.length = maxSubframeMsgs
  | _ => True

/-- A message that is put back finds room in its queue. -/
def FindsRoom : Shared → Action → Prop
  | ⟨queues, .atRequeue call _⟩, .tick =>
    ∀ queue, queues[call.ue]? = some queue → queue.numItems < maxQueueSize
  | _, _ => True

/-- The queue did not take a message back. -/
def Note.Loses : Note → Prop
  | .requeued _ _ false => True
  | _ => False

theorem lost_eq_nil_iff (notes : List Note) :
    (∀ ue, lost ue notes = []) ↔ ∀ note ∈ notes, ¬ note.Loses := by
  simp only [lost, List.flatMap_eq_nil_iff]
  constructor
  · intro hnone note hmem hloses
    match note, hloses with
    | .requeued call msg false, _ =>
      have hnil : (if call.ue = call.ue then [msg] else []) = [] := hnone call.ue _ hmem
      rw [if_pos rfl] at hnil
      cases hnil
  · intro hnone ue note hmem
    have hkept := hnone note hmem
    match note with
    | .requeued call msg false => exact absurd trivial hkept
    | .requeued call msg true => rfl
    | .silent => rfl
    | .put _ _ _ => rfl
    | .settled _ _ _ => rfl
    | .returned _ _ => rfl

/-- The message that the tick thread holds is one that a handler made, of a UE that exists. -/
def TickThread.Holds (numUes : ℕ) : TickThread → Prop
  | .inspecting call msg => call.ue < numUes ∧ msg.Live
  | .atRequeue call msg => call.ue < numUes ∧ msg.Live
  | _ => True

/-- What is known of the queues and the tick thread between two actions. -/
structure Shared.InUse (shared : Shared) : Prop where
  queues : ∀ queue ∈ shared.queues, ∃ xs, Represents queue xs ∧ ∀ msg ∈ xs, msg.Live
  thread : shared.thread.Holds shared.queues.length

/-- What is known of a run that is under way. -/
structure Underway (radio : Radio) (past : List Note) (shared : Shared) : Prop where
  inUse : shared.InUse
  books : ∀ ue, Balanced (accepted ue past) (settled ue past) (shared.thread.held ue)
    (shared.waiting ue) (lost ue past)
  justified : ∀ note ∈ past, note.Justified radio

section Books

variable {radio : Radio} {past : List Note} {queues : List (QueueT MessageBuffer)}
  {queue next : QueueT MessageBuffer} {thread : TickThread}

theorem underway_initial (radio : Radio) (numUes : ℕ) : Underway radio [] (initial numUes) where
  inUse := by
    refine ⟨fun queue hqueue ↦ ?_, trivial⟩
    rw [List.eq_of_mem_replicate hqueue]
    exact ⟨[], represents_init, fun msg hmsg ↦ absurd hmsg List.not_mem_nil⟩
  books ue := by
    have hwaiting : (initial numUes).waiting ue = [] := by
      unfold Shared.waiting initial
      rw [List.getElem?_replicate]
      split_ifs
      · exact contents_eq represents_init
      · rfl
    rw [hwaiting]
    exact .empty
  justified note hnote := absurd hnote List.not_mem_nil

theorem waiting_set_self {ue : ℕ} (hue : ue < queues.length) {xs : List MessageBuffer}
    (hnext : Represents next xs) : (⟨queues.set ue next, thread⟩ : Shared).waiting ue = xs := by
  show ((queues.set ue next)[ue]?.map contents).getD [] = xs
  rw [List.getElem?_set_self hue]
  exact contents_eq hnext

theorem waiting_set_ne {ue other : ℕ} (hne : ue ≠ other) :
    (⟨queues.set ue next, thread⟩ : Shared).waiting other =
      (⟨queues, thread⟩ : Shared).waiting other := by
  show ((queues.set ue next)[other]?.map contents).getD [] = _
  rw [List.getElem?_set_ne hne]
  rfl

theorem waiting_of_represents {ue : ℕ} (hqueue : queues[ue]? = some queue) {xs : List MessageBuffer}
    (h : Represents queue xs) : (⟨queues, thread⟩ : Shared).waiting ue = xs := by
  show (queues[ue]?.map contents).getD [] = xs
  rw [hqueue]
  exact contents_eq h

/-- A step is under way if it keeps the books of every UE. -/
theorem Underway.extend {shared next : Shared} {note : Note} (h : Underway radio past shared)
    (hinUse : next.InUse) (hjustified : note.Justified radio)
    (hbooks : ∀ ue, Balanced (accepted ue past) (settled ue past) (shared.thread.held ue)
        (shared.waiting ue) (lost ue past) →
      Balanced (accepted ue past ++ note.accepted ue) (settled ue past ++ note.settles ue)
        (next.thread.held ue) (next.waiting ue) (lost ue past ++ note.lost ue)) :
    Underway radio (past ++ [note]) next where
  inUse := hinUse
  books ue := by
    simpa only [accepted, settled, lost, List.flatMap_append, List.flatMap_singleton] using
      hbooks ue (h.books ue)
  justified other hmem := by
    rcases List.mem_append.mp hmem with hpast | hnote
    · exact h.justified other hpast
    · rwa [List.mem_singleton.mp hnote]

theorem inUse_set {ue : ℕ} {thread' : TickThread} (h : (⟨queues, thread⟩ : Shared).InUse)
    {xs : List MessageBuffer} (hnext : Represents next xs) (hlive : ∀ msg ∈ xs, msg.Live)
    (hthread : thread'.Holds queues.length) :
    (⟨queues.set ue next, thread'⟩ : Shared).InUse where
  queues other hmem := by
    rcases List.mem_or_eq_of_mem_set hmem with hold | rfl
    · exact h.queues other hold
    · exact ⟨xs, hnext, hlive⟩
  thread := by rwa [List.length_set]

/-- A silent step that moves no message keeps the books. -/
theorem Underway.silent {shared : Shared} (h : Underway radio past shared) :
    Underway radio (past ++ [.silent]) shared := by
  refine h.extend h.inUse trivial fun ue hbooks ↦ ?_
  simpa only [Note.accepted, Note.settles, Note.lost, List.append_nil] using hbooks

theorem underway_put {ue : ℕ} (h : Underway radio past ⟨queues, thread⟩)
    (hqueue : queues[ue]? = some queue) (msg : LiveMessage) :
    ∃ note next, step radio ⟨queues, thread⟩ (.put ue msg) = .ok (note, next) ∧
      Underway radio (past ++ [note]) next ∧ ¬ note.Loses := by
  obtain ⟨hue, hget⟩ := List.getElem?_eq_some_iff.mp hqueue
  obtain ⟨xs, hxs, hlive⟩ := h.inUse.queues queue (hget ▸ List.getElem_mem hue)
  by_cases hroom : xs.length < maxQueueSize
  · obtain ⟨next, hput, hnext⟩ := putQueue_of_room hxs hroom msg.1
    have hliveNext : ∀ m ∈ xs ++ [msg.1], m.Live := by
      intro m hm
      rcases List.mem_append.mp hm with hold | hnew
      · exact hlive m hold
      · exact List.mem_singleton.mp hnew ▸ msg.2
    refine ⟨_, _, step_put hqueue hput, h.extend
      (inUse_set h.inUse hnext hliveNext h.inUse.thread) trivial fun other hbooks ↦ ?_, id⟩
    simp only [Note.accepted, Note.settles, Note.lost, List.append_nil]
    by_cases hother : ue = other
    · subst hother
      rw [if_pos rfl, waiting_set_self hue hnext]
      rw [waiting_of_represents hqueue hxs] at hbooks
      exact hbooks.accept msg.1
    · rw [if_neg hother, waiting_set_ne hother, List.append_nil]
      exact hbooks
  · have hfull : xs.length = maxQueueSize := Nat.le_antisymm hxs.length_le (Nat.le_of_not_lt hroom)
    refine ⟨_, _, step_put hqueue (putQueue_of_full hxs hfull msg.1), h.extend
      (inUse_set h.inUse hxs hlive h.inUse.thread) trivial fun other hbooks ↦ ?_, id⟩
    simp only [Note.accepted, Note.settles, Note.lost, List.append_nil]
    have hsame : queues.set ue queue = queues := by rw [← hget, List.set_getElem_self]
    rw [hsame]
    exact hbooks

theorem underway_getQueue {call : Call} (h : Underway radio past ⟨queues, .atGetQueue call⟩) :
    ∃ note next, step radio ⟨queues, .atGetQueue call⟩ .tick = .ok (note, next) ∧
      Underway radio (past ++ [note]) next ∧ ¬ note.Loses := by
  cases hqueue : queues[call.ue]? with
  | none =>
    refine ⟨_, _, step_return hqueue, h.extend ⟨h.inUse.queues, trivial⟩ trivial
      fun ue hbooks ↦ ?_, id⟩
    simp only [Note.accepted, Note.settles, Note.lost, List.append_nil]
    exact hbooks
  | some queue =>
    obtain ⟨hue, hget⟩ := List.getElem?_eq_some_iff.mp hqueue
    obtain ⟨xs, hxs, hlive⟩ := h.inUse.queues queue (hget ▸ List.getElem_mem hue)
    cases xs with
    | nil =>
      have hsame : queues.set call.ue queue = queues := by rw [← hget, List.set_getElem_self]
      have hstep : step radio _ _ = _ := step_getQueue_nil hqueue (getQueue_of_nil hxs)
      rw [hsame] at hstep
      refine ⟨_, _, hstep, h.extend ⟨h.inUse.queues, trivial⟩ trivial fun ue hbooks ↦ ?_, id⟩
      simp only [Note.accepted, Note.settles, Note.lost, List.append_nil]
      exact hbooks
    | cons msg xs =>
      obtain ⟨next, htake, hnext⟩ := getQueue_of_cons hxs
      refine ⟨_, _, step_getQueue_cons hqueue htake, h.extend
        (inUse_set h.inUse hnext (fun m hm ↦ hlive m (List.mem_cons_of_mem msg hm))
          ⟨hue, hlive msg (List.mem_cons_self ..)⟩) trivial fun ue hbooks ↦ ?_, id⟩
      simp only [Note.accepted, Note.settles, Note.lost, List.append_nil]
      by_cases hother : call.ue = ue
      · subst hother
        rw [waiting_of_represents hqueue hxs] at hbooks
        rw [waiting_set_self hue hnext, held_inspecting, if_pos rfl]
        exact hbooks.take
      · rw [waiting_set_ne hother, held_inspecting, if_neg hother]
        exact hbooks

/-- A live message is inspected, and its fate is as reported. -/
theorem inspect_live (radio : Radio) (call : Call) {msg : MessageBuffer} (hmsg : msg.Live) :
    ∃ fate call', inspect radio call msg = .ok (fate, call') ∧
      ∀ fate' ∈ fate, (Note.settled call' msg fate').Justified radio := by
  unfold inspect
  rw [assert_of_true hmsg.magic_eq, ok_bind]
  by_cases hdummy : msg.length = 4
  · rw [if_pos hdummy]
    refine ⟨_, _, rfl, fun fate hfate ↦ ?_⟩
    cases hfate
    exact hdummy
  · rw [if_neg hdummy, radio.peek_eq hmsg.length_le, ok_bind]
    cases htime : radio.time msg with
    | none =>
      refine ⟨_, _, rfl, fun fate hfate ↦ ?_⟩
      cases hfate
      exact htime
    | some time =>
      dsimp only
      generalize (if call.master = 0xFFFF then time else call.master) = master
      by_cases hother : master ≠ time
      · rw [if_pos hother]
        refine ⟨_, _, rfl, fun fate hfate ↦ ?_⟩
        cases hfate
      · rw [if_neg hother]
        split_ifs with hstale hfull
        · refine ⟨_, _, rfl, fun fate hfate ↦ ?_⟩
          cases hfate
          exact ⟨time, htime, hstale⟩
        · refine ⟨_, _, rfl, fun fate hfate ↦ ?_⟩
          cases hfate
          exact hfull
        · refine ⟨_, _, rfl, fun fate hfate ↦ ?_⟩
          cases hfate
          show (call.msgs.push msg).msgs.getLast? = some (some msg)
          rw [SubframeMsgs.push, dif_neg hfull]
          exact List.getLast?_concat

theorem underway_inspecting {call : Call} {msg : MessageBuffer}
    (h : Underway radio past ⟨queues, .inspecting call msg⟩) :
    ∃ note next, step radio ⟨queues, .inspecting call msg⟩ .tick = .ok (note, next) ∧
      Underway radio (past ++ [note]) next ∧ ¬ note.Loses := by
  obtain ⟨hue, hmsg⟩ := h.inUse.thread
  obtain ⟨fate, call', hinspect, hjustified⟩ := inspect_live radio call hmsg
  have hsame : call'.ue = call.ue := congrArg List.length (inspect_keeps hinspect).2
  cases fate with
  | none =>
    refine ⟨_, _, step_inspect_other hinspect, h.extend
      ⟨h.inUse.queues, hsame.symm ▸ hue, hmsg⟩ trivial fun ue hbooks ↦ ?_, id⟩
    simp only [Note.accepted, Note.settles, Note.lost, List.append_nil]
    rw [held_atRequeue, hsame]
    rw [held_inspecting] at hbooks
    exact hbooks
  | some fate =>
    refine ⟨_, _, step_inspect_settled hinspect, h.extend ⟨h.inUse.queues, trivial⟩
      (hjustified fate rfl) fun ue hbooks ↦ ?_, id⟩
    simp only [Note.accepted, Note.settles, Note.lost, List.append_nil]
    rw [hsame]
    rw [held_inspecting] at hbooks
    by_cases hother : call.ue = ue
    · rw [if_pos hother] at hbooks ⊢
      exact hbooks.settle
    · rw [if_neg hother] at hbooks ⊢
      rw [List.append_nil]
      exact hbooks

theorem underway_atRequeue {call : Call} {msg : MessageBuffer}
    (h : Underway radio past ⟨queues, .atRequeue call msg⟩) :
    ∃ note next, step radio ⟨queues, .atRequeue call msg⟩ .tick = .ok (note, next) ∧
      Underway radio (past ++ [note]) next ∧
      (¬ note.Loses ↔ FindsRoom ⟨queues, .atRequeue call msg⟩ .tick) := by
  obtain ⟨hue, hmsg⟩ := h.inUse.thread
  have hqueue : queues[call.ue]? = some queues[call.ue] := List.getElem?_eq_getElem hue
  obtain ⟨xs, hxs, hlive⟩ := h.inUse.queues _ (List.getElem_mem hue)
  by_cases hroom : xs.length < maxQueueSize
  · obtain ⟨next, hput, hnext⟩ := requeue_of_room hxs hroom msg
    refine ⟨_, _, step_requeue hqueue hput, h.extend
      (inUse_set h.inUse hnext (List.forall_mem_cons.mpr ⟨hmsg, hlive⟩) trivial) trivial
      fun ue hbooks ↦ ?_, ?_⟩
    · simp only [Note.accepted, Note.settles, Note.lost, List.append_nil]
      rw [held_atRequeue] at hbooks
      by_cases hother : call.ue = ue
      · subst hother
        rw [if_pos rfl, waiting_of_represents hqueue hxs] at hbooks
        rw [waiting_set_self hue hnext]
        exact hbooks.putBack
      · rw [if_neg hother] at hbooks
        rw [waiting_set_ne hother]
        exact hbooks
    · refine iff_of_true id fun queue hsome ↦ ?_
      rw [← Option.some.inj (hqueue.symm.trans hsome), hxs.count]
      exact hroom
  · have hfull : xs.length = maxQueueSize := Nat.le_antisymm hxs.length_le (Nat.le_of_not_lt hroom)
    have hstep : step radio _ _ = _ := step_requeue hqueue (requeue_of_full hxs hfull msg)
    rw [List.set_getElem_self] at hstep
    refine ⟨_, _, hstep, h.extend ⟨h.inUse.queues, trivial⟩ trivial fun ue hbooks ↦ ?_, ?_⟩
    · simp only [Note.accepted, Note.settles, Note.lost, List.append_nil]
      rw [held_atRequeue] at hbooks
      by_cases hother : call.ue = ue
      · rw [if_pos hother] at hbooks ⊢
        exact hbooks.lose
      · rw [if_neg hother] at hbooks ⊢
        rw [List.append_nil]
        exact hbooks
    · refine iff_of_false (not_not_intro trivial) fun hfinds ↦ ?_
      have hlt := hfinds _ hqueue
      rw [hxs.count] at hlt
      exact hroom hlt

/-- Every action of a thread returns, keeps the books, and loses a message exactly when the message
does not find room. -/
theorem underway_step {shared : Shared} (h : Underway radio past shared) (action : Action) :
    ∃ note next, step radio shared action = .ok (note, next) ∧
      Underway radio (past ++ [note]) next ∧ (¬ note.Loses ↔ FindsRoom shared action) := by
  obtain ⟨queues, thread⟩ := shared
  have hnone (note : Note) (hnote : ¬ note.Loses) : ¬ note.Loses ↔ True := iff_true_intro hnote
  cases action with
  | put ue msg =>
    have htrue : FindsRoom ⟨queues, thread⟩ (.put ue msg) = True := by
      cases thread <;> rfl
    rw [htrue]
    cases hqueue : queues[ue]? with
    | none =>
      have hstep : step radio ⟨queues, thread⟩ (.put ue msg) = .ok (.silent, ⟨queues, thread⟩) := by
        simp only [step, hqueue]
      exact ⟨_, _, hstep, h.silent, hnone _ id⟩
    | some queue =>
      obtain ⟨note, next, hstep, hnext, hkeeps⟩ := underway_put h hqueue msg
      exact ⟨note, next, hstep, hnext, hnone note hkeeps⟩
  | call tx =>
    cases thread with
    | outside =>
      refine ⟨_, _, rfl, h.extend ⟨h.inUse.queues, trivial⟩ trivial fun ue hbooks ↦ ?_, hnone _ id⟩
      simp only [Note.accepted, Note.settles, Note.lost, List.append_nil]
      exact hbooks
    | atGetQueue call => exact ⟨_, _, rfl, h.silent, hnone _ id⟩
    | inspecting call msg => exact ⟨_, _, rfl, h.silent, hnone _ id⟩
    | atRequeue call msg => exact ⟨_, _, rfl, h.silent, hnone _ id⟩
  | tick =>
    cases thread with
    | outside => exact ⟨_, _, rfl, h.silent, hnone _ id⟩
    | atGetQueue call =>
      obtain ⟨note, next, hstep, hnext, hkeeps⟩ := underway_getQueue h
      exact ⟨note, next, hstep, hnext, hnone note hkeeps⟩
    | inspecting call msg =>
      obtain ⟨note, next, hstep, hnext, hkeeps⟩ := underway_inspecting h
      exact ⟨note, next, hstep, hnext, hnone note hkeeps⟩
    | atRequeue call msg => exact underway_atRequeue h

/-- What is known at the end of every run. -/
theorem run_underway (radio : Radio) (numUes : ℕ) (actions : List Action) :
    ∃ notes shared, runAll (step radio) (initial numUes) actions = .ok (notes, shared) ∧
      Underway radio notes shared ∧ ((∀ ue, BooksKept ue notes shared) ↔
        AlongRun (step radio) FindsRoom (initial numUes) actions) := by
  obtain ⟨notes, shared, hrun, hunderway, hiff⟩ := runAll_keeps
    (fun past shared action (h : Underway radio past shared) ↦ underway_step h action) actions (underway_initial radio numUes)
  refine ⟨notes, shared, hrun, hunderway, ?_⟩
  rw [← hiff, ← lost_eq_nil_iff]
  exact forall_congr' fun ue ↦ (hunderway.books ue).kept_iff

/-- Whatever the receive threads do between the actions of the tick thread: every message accepted is
settled as reported, held or waiting, in the order in which it was put, exactly when every message
that is put back finds room. -/
theorem booksKept_iff (radio : Radio) (numUes : ℕ) (actions : List Action) :
    ∃ notes shared, runAll (step radio) (initial numUes) actions = .ok (notes, shared) ∧
      (∀ note ∈ notes, note.Justified radio) ∧
      ((∀ ue, BooksKept ue notes shared) ↔
        AlongRun (step radio) FindsRoom (initial numUes) actions) := by
  obtain ⟨notes, shared, hrun, hunderway, hiff⟩ := run_underway radio numUes actions
  exact ⟨notes, shared, hrun, hunderway.justified, hiff⟩

end Books

/-! ### A queue that is filled up in the meantime -/

/-- As long as there is room, a receive thread fills its queue. -/
theorem run_puts (radio : Radio) (msg : LiveMessage) {queue : QueueT MessageBuffer}
    {xs : List MessageBuffer} (hqueue : Represents queue xs) (thread : TickThread) (count : ℕ)
    (hroom : xs.length + count ≤ maxQueueSize) :
    ∃ notes next, runAll (step radio) ⟨[queue], thread⟩ (List.replicate count (.put 0 msg)) =
      .ok (notes, ⟨[next], thread⟩) ∧ Represents next (xs ++ List.replicate count msg.1) := by
  induction count generalizing queue xs with
  | zero =>
    refine ⟨[], queue, rfl, ?_⟩
    rwa [List.replicate_zero, List.append_nil]
  | succ count ih =>
    obtain ⟨next, hput, hnext⟩ := putQueue_of_room hqueue (by omega) msg.1
    have hlength : (xs ++ [msg.1]).length + count ≤ maxQueueSize := by
      rw [List.length_append, List.length_singleton]
      omega
    obtain ⟨notes, final, hrun, hfinal⟩ := ih hnext hlength
    refine ⟨_, final, runAll_cons (step_put rfl hput) hrun, ?_⟩
    rwa [List.append_assoc] at hfinal

/-- The first message of a full queue is delivered. The second has another time, and while the tick
thread holds it, two more messages arrive. -/
def fillsUp : List Action :=
  .put 0 ⟨crcAt 0x0010, crcAt_live _⟩ ::
    (List.replicate 511 (.put 0 ⟨crcAt 0x0020, crcAt_live _⟩) ++
      (.call 0x0010 :: .tick :: .tick :: .tick ::
        (List.replicate 2 (.put 0 ⟨crcAt 0x0020, crcAt_live _⟩) ++ [.tick, .tick])))

/-- The call after the first message. -/
def afterFirst : Call := ⟨0x0010, 0x0010, true, [], SubframeMsgs.empty.push (crcAt 0x0010)⟩

theorem fillsUp_loses : ∃ notes shared,
    runAll (step .lte) (initial 1) fillsUp = .ok (notes, shared) ∧ ¬ BooksKept 0 notes shared := by
  have hlater : (crcAt 0x0020).Live := crcAt_live _
  obtain ⟨one, hput, hone⟩ := putQueue_of_room represents_init (by decide) (crcAt 0x0010)
  obtain ⟨filling, full, hfill, hfull⟩ := run_puts .lte ⟨_, hlater⟩ hone .outside 511 (by decide)
  obtain ⟨taken, hget, htaken⟩ := getQueue_of_cons hfull
  rw [List.replicate_succ] at htaken
  obtain ⟨twice, hget', htwice⟩ := getQueue_of_cons htaken
  obtain ⟨filling', full', hfill', hfull'⟩ := run_puts .lte ⟨_, hlater⟩ htwice
    (.inspecting afterFirst (crcAt 0x0020)) 2 (by rw [List.length_replicate]; decide)
  have hrefused := requeue_of_full hfull'
    (by rw [List.length_append, List.length_replicate, List.length_replicate]; rfl) (crcAt 0x0020)
  have hstart : step .lte (initial 1) (.put 0 ⟨crcAt 0x0010, crcAt_live _⟩) =
      .ok (.put 0 (crcAt 0x0010) true, ⟨[one], .outside⟩) := step_put rfl hput
  have hcall : step .lte ⟨[full], .outside⟩ (.call 0x0010) =
      .ok (.silent, ⟨[full], .atGetQueue (.start 0x0010)⟩) := rfl
  have htake : step .lte ⟨[full], .atGetQueue (.start 0x0010)⟩ .tick =
      .ok (.silent, ⟨[taken], .inspecting (.start 0x0010) (crcAt 0x0010)⟩) :=
    step_getQueue_cons rfl hget
  have hsettle : step .lte ⟨[taken], .inspecting (.start 0x0010) (crcAt 0x0010)⟩ .tick =
      .ok (.settled afterFirst (crcAt 0x0010) .delivered, ⟨[taken], .atGetQueue afterFirst⟩) :=
    step_inspect_settled rfl
  have htake' : step .lte ⟨[taken], .atGetQueue afterFirst⟩ .tick =
      .ok (.silent, ⟨[twice], .inspecting afterFirst (crcAt 0x0020)⟩) :=
    step_getQueue_cons rfl hget'
  have hother : step .lte ⟨[full'], .inspecting afterFirst (crcAt 0x0020)⟩ .tick =
      .ok (.silent, ⟨[full'], .atRequeue afterFirst (crcAt 0x0020)⟩) :=
    step_inspect_other rfl
  have hlose : step .lte ⟨[full'], .atRequeue afterFirst (crcAt 0x0020)⟩ .tick =
      .ok (.requeued afterFirst (crcAt 0x0020) false,
        ⟨[full'], .atGetQueue { afterFirst with areQueuesEmpty := false }.nextUe⟩) :=
    step_requeue rfl hrefused
  have hrun := runAll_cons hstart (runAll_append hfill (runAll_cons hcall (runAll_cons htake
    (runAll_cons hsettle (runAll_cons htake' (runAll_append hfill' (runAll_cons hother
      (runAll_cons hlose (runAll_nil _)))))))))
  obtain ⟨notes, shared, hrun', hunderway, -⟩ := run_underway .lte 1 fillsUp
  have hmem : Note.requeued afterFirst (crcAt 0x0020) false ∈ notes := by
    rw [(Prod.mk.inj (Except.ok.inj (hrun'.symm.trans hrun))).1]
    simp
  refine ⟨notes, shared, hrun', fun hkept ↦ ?_⟩
  have hlost : crcAt 0x0020 ∈ lost 0 notes :=
    List.mem_flatMap.mpr ⟨_, hmem, List.mem_singleton.mpr rfl⟩
  rw [(hunderway.books 0).kept_iff.mp hkept] at hlost
  cases hlost

end MultiUeProxy.Uplink.Interleaving
