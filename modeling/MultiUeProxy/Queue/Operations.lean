import MultiUeProxy.Lib.Execution
import MultiUeProxy.Lib.Ring

/-!
# The message queue

The fixed-size queue of `queue.c`: a circular array of `MAX_QUEUE_SIZE` pointers with a read
index, a write index and a count. An item is a pointer, so a cell and the item given to `putQueue`
or `requeue` are of type `Option α`, with `none` for `NULL`.

The indices have type `Fin maxQueueSize`: each one starts at `0` and is only ever assigned a
remainder modulo `MAX_QUEUE_SIZE`. The mutex is not modelled; `pthread_mutex_lock` is taken to
succeed, so that the operations run one at a time.
-/

set_option autoImplicit false
set_option relaxedAutoImplicit false

namespace MultiUeProxy.Queue.Operations

open Lib.Execution

/-- `MAX_QUEUE_SIZE`. -/
def maxQueueSize : ℕ := 512

instance : NeZero maxQueueSize := ⟨by decide⟩

/-- `queue_t`, without its mutex. -/
structure QueueT (α : Type) where
  items : Fin maxQueueSize → Option α
  readIndex : Fin maxQueueSize
  writeIndex : Fin maxQueueSize
  numItems : ℕ

variable {α ω : Type}

/-- `init_queue`. -/
def initQueue : QueueT α where
  items := fun _ ↦ none
  readIndex := 0
  writeIndex := 0
  numItems := 0

/-- `put_queue`. -/
def putQueue (q : QueueT α) (item : Option α) : Outcome (Bool × QueueT α) := do
  assert (item.isSome)
  if q.numItems ≥ maxQueueSize then
    return (false, q)
  else
    assert ((q.items q.writeIndex).isNone)
    return (true, { q with
      items := Function.update q.items q.writeIndex item
      writeIndex := Fin.ofNat maxQueueSize (q.writeIndex + 1)
      numItems := q.numItems + 1 })

/-- `get_queue`. -/
def getQueue (q : QueueT α) : Outcome (Option α × QueueT α) := do
  if q.numItems > 0 then
    let item := q.items q.readIndex
    assert (item.isSome)
    return (item, { q with
      items := Function.update q.items q.readIndex none
      readIndex := Fin.ofNat maxQueueSize (q.readIndex + 1)
      numItems := q.numItems - 1 })
  else
    return (none, q)

/-- `requeue`. -/
def requeue (q : QueueT α) (item : Option α) : Outcome (Bool × QueueT α) := do
  assert (item.isSome)
  if q.numItems ≥ maxQueueSize then
    return (false, q)
  else
    let readIndex := Fin.ofNat maxQueueSize (q.readIndex + maxQueueSize - 1)
    assert ((q.items readIndex).isNone)
    return (true, { q with
      items := Function.update q.items readIndex item
      readIndex := readIndex
      numItems := q.numItems + 1 })

/-- `unqueue`. -/
def unqueue (q : QueueT α) : Outcome (Option α × QueueT α) := do
  if q.numItems > 0 then
    let writeIndex := Fin.ofNat maxQueueSize (q.writeIndex + maxQueueSize - 1)
    return (q.items writeIndex, { q with
      items := Function.update q.items writeIndex none
      writeIndex := writeIndex
      numItems := q.numItems - 1 })
  else
    return (none, q)

/-- The inner loop of `unqueue_matching`: deletes the item at `endi` and moves the items behind
it down. The loop of the source has no bound of its own, so it gets one here. -/
def moveDown : ℕ → QueueT α → Fin maxQueueSize → Outcome (QueueT α)
  | 0, _, _ => .error .diverge
  | bound + 1, q, endi =>
    let j := Fin.ofNat maxQueueSize (endi + 1)
    if j = q.writeIndex then
      .ok { q with
        items := Function.update q.items endi none
        writeIndex := endi
        numItems := q.numItems - 1 }
    else
      moveDown bound { q with items := Function.update q.items endi (q.items j) } j

/-- The outer loop of `unqueue_matching`: `remaining` is `num_items - i`. -/
def searchBack (q : QueueT α) (matcher : ω → Option α → Bool) (wanted : ω) :
    (remaining maxDepth : ℕ) → Fin maxQueueSize → Outcome (Option α × QueueT α)
  | 0, _, _ => .ok (none, q)
  | _ + 1, 0, _ => .ok (none, q)
  | remaining + 1, maxDepth + 1, endi => do
    let endi := Fin.ofNat maxQueueSize (endi + maxQueueSize - 1)
    let candidate := q.items endi
    if matcher wanted candidate then
      let q ← moveDown maxQueueSize q endi
      return (candidate, q)
    else
      searchBack q matcher wanted remaining maxDepth endi

/-- `unqueue_matching`. -/
def unqueueMatching (q : QueueT α) (maxDepth : ℕ) (matcher : ω → Option α → Bool) (wanted : ω) :
    Outcome (Option α × QueueT α) :=
  searchBack q matcher wanted q.numItems maxDepth q.writeIndex

end MultiUeProxy.Queue.Operations
