import MultiUeProxy.Lib.Execution
import Mathlib.Data.Nat.Notation

/-!
# Queues of packets

A transport that keeps the boundaries of what it carries is a queue of packets. A receive call
copies the first bytes of the packet in front into a buffer, over what the buffer held before, and
leaves the queue as it is (peeking), drops the packet (datagrams), or drops what it has copied
(records, where the next call goes on in the same packet).

A program at the end of such a transport reads one packet after another. `Serves` says that it
answers each of them by a function of the packet and of the number of packets before it, and that
it begins every packet at its first byte. The relation composes, so that it is enough to prove it
for one packet: `Serves.trans` puts two stretches together and `runAll_serves` all the turns of a
loop.
-/

set_option autoImplicit false
set_option relaxedAutoImplicit false

namespace MultiUeProxy.Lib.PacketQueue

open Execution

/-! ### Buffers -/

section Buffers

variable {α : Type}

/-- A buffer after a packet is copied to its beginning. -/
def overlay (packet : List α) (old : ℕ → α) : ℕ → α := fun pos ↦ packet.getD pos (old pos)

/-- The first elements of a buffer. -/
def contents (buffer : ℕ → α) (count : ℕ) : List α := (List.range count).map buffer

@[simp] theorem length_contents (buffer : ℕ → α) (count : ℕ) :
    (contents buffer count).length = count := by
  rw [contents, List.length_map, List.length_range]

theorem overlay_of_lt {packet : List α} {pos : ℕ} (h : pos < packet.length) (old : ℕ → α) :
    overlay packet old pos = packet[pos] := by
  rw [overlay, List.getD_eq_getElem?_getD, List.getElem?_eq_getElem h, Option.getD_some]

/-- What was copied is read back. -/
theorem contents_overlay {packet : List α} {room count : ℕ} (hroom : count ≤ room)
    (hcount : count ≤ packet.length) (old : ℕ → α) :
    contents (overlay (packet.take room) old) count = packet.take count := by
  unfold contents
  refine List.ext_getElem ?_ ?_
  · rw [List.length_map, List.length_range, List.length_take, Nat.min_eq_left hcount]
  · intro pos hpos _
    rw [List.getElem_map, List.getElem_range, List.getElem_take]
    rw [List.length_map, List.length_range] at hpos
    have hcopied : pos < (packet.take room).length := by
      rw [List.length_take]
      exact Nat.lt_min.mpr ⟨Nat.lt_of_lt_of_le hpos hroom, Nat.lt_of_lt_of_le hpos hcount⟩
    rw [overlay_of_lt hcopied, List.getElem_take]

end Buffers

/-! ### Receiving -/

section Receiving

variable {α : Type}

/-- What a receive call leaves behind: the number it returns, whether it came to the end of the
packet, the buffer and the queue. -/
structure Received (α : Type) where
  count : ℕ
  complete : Bool
  buffer : ℕ → α
  queue : List (List α)

/-- A receive call that leaves the queue as it is. There is nothing to receive from an empty
queue. -/
def peek (queue : List (List α)) (room : ℕ) (buffer : ℕ → α) : Option (Received α) :=
  match queue with
  | [] => none
  | packet :: rest => some {
      count := min room packet.length
      complete := packet.length ≤ room
      buffer := overlay (packet.take room) buffer
      queue := packet :: rest }

/-- A receive call that drops the packet. With `truncated` it returns the length of the packet even
where that is more than it has copied. -/
def receiveDatagram (truncated : Bool) (queue : List (List α)) (room : ℕ) (buffer : ℕ → α) :
    Option (Received α) :=
  match queue with
  | [] => none
  | packet :: rest => some {
      count := if truncated then packet.length else min room packet.length
      complete := packet.length ≤ room
      buffer := overlay (packet.take room) buffer
      queue := rest }

/-- A receive call that drops what it has copied. -/
def receiveRecord (queue : List (List α)) (room : ℕ) (buffer : ℕ → α) : Option (Received α) :=
  match queue with
  | [] => none
  | packet :: rest => some {
      count := min room packet.length
      complete := packet.length ≤ room
      buffer := overlay (packet.take room) buffer
      queue := if packet.length ≤ room then rest else packet.drop room :: rest }

end Receiving

/-! ### Reading packet after packet -/

section Serving

variable {M ο σ ι : Type}

/-- One end of a transport: the packets that are still to be read, whether the program still reads
them, and the number of packets that it has read. -/
structure Link (M : Type) where
  pending : List M := []
  connected : Bool := true
  taken : ℕ := 0

/-- Packets come in at the back. -/
def Link.arrive (link : Link M) (arrived : List M) : Link M :=
  { link with pending := link.pending ++ arrived }

/-- From one state of the link to another the program reads as many packets as it gives replies,
in order and from the first one that is pending or has arrived. A packet is replied to by a
function of its number and itself. The link stays up as long as the packets keep it up, and while
it is up the packets that are left are whole packets. -/
structure Serves (give : ℕ → M → ο) (keeps : ℕ → M → Prop) (link : Link M) (arrived : List M)
    (replies : List ο) (next : Link M) : Prop where
  replies_eq : replies = ((link.pending ++ arrived).take replies.length).mapIdx
    fun i packet ↦ give (link.taken + i) packet
  taken_eq : next.taken = link.taken + replies.length
  pending_eq : next.connected → next.pending = (link.pending ++ arrived).drop replies.length
  connected_iff : next.connected ↔ link.connected ∧ ∀ i packet, i < replies.length →
    (link.pending ++ arrived)[i]? = some packet → keeps (link.taken + i) packet
  kept : ∀ i packet, i + 1 < replies.length → (link.pending ++ arrived)[i]? = some packet →
    keeps (link.taken + i) packet
  closed : link.connected = false → replies = []

variable {give : ℕ → M → ο} {keeps : ℕ → M → Prop}

theorem serves_nothing (link : Link M) (arrived : List M) :
    Serves give keeps link arrived [] (link.arrive arrived) where
  replies_eq := rfl
  taken_eq := rfl
  pending_eq _ := rfl
  connected_iff := (and_iff_left fun i _ hi ↦ absurd hi (Nat.not_lt_zero i)).symm
  kept i _ hi := absurd hi (Nat.not_lt_zero (i + 1))
  closed _ := rfl

theorem serves_refl (link : Link M) : Serves give keeps link [] [] link where
  replies_eq := rfl
  taken_eq := rfl
  pending_eq _ := (List.append_nil link.pending).symm
  connected_iff := (and_iff_left fun i _ hi ↦ absurd hi (Nat.not_lt_zero i)).symm
  kept i _ hi := absurd hi (Nat.not_lt_zero (i + 1))
  closed _ := rfl

/-- Reading one packet. -/
theorem serves_one {link : Link M} {packet : M} {rest : List M} {reply : ο} {connected : Bool}
    {pending : List M} (hpending : link.pending = packet :: rest) (hopen : link.connected = true)
    (hreply : reply = give link.taken packet) (hkeeps : connected ↔ keeps link.taken packet)
    (hrest : connected → pending = rest) :
    Serves give keeps link [] [reply] ⟨pending, connected, link.taken + 1⟩ where
  replies_eq := by
    rw [List.append_nil, hpending, hreply]
    rfl
  taken_eq := rfl
  pending_eq hconnected := by
    rw [List.append_nil, hpending]
    exact hrest hconnected
  connected_iff := by
    rw [List.append_nil, hpending]
    constructor
    · intro hconnected
      refine ⟨hopen, ?_⟩
      intro i other hi hother
      obtain rfl := Nat.lt_one_iff.mp hi
      obtain rfl := Option.some.inj hother
      exact hkeeps.mp hconnected
    · intro hall
      exact hkeeps.mpr (hall.2 0 packet Nat.one_pos rfl)
  kept i _ hi := absurd (Nat.lt_of_succ_lt_succ hi) (Nat.not_lt_zero i)
  closed hclosed := absurd (hopen.symm.trans hclosed) Bool.noConfusion

namespace Serves

variable {link middle last : Link M} {arrived later : List M} {replies more : List ο}

theorem length_le (h : Serves give keeps link arrived replies middle) :
    replies.length ≤ (link.pending ++ arrived).length := by
  have hlength := congrArg List.length h.replies_eq
  rw [List.length_mapIdx, List.length_take] at hlength
  omega

/-- The packets that are read later are among all of them behind those that are read before. -/
theorem getElem?_later (h : Serves give keeps link arrived replies middle)
    (hopen : middle.connected = true) (later : List M) (i : ℕ) :
    (link.pending ++ (arrived ++ later))[replies.length + i]? = (middle.pending ++ later)[i]? := by
  rw [h.pending_eq hopen, ← List.append_assoc, ← List.drop_append_of_le_length h.length_le,
    List.getElem?_drop]

/-- The packets that are read first are among all of them. -/
theorem getElem?_first (h : Serves give keeps link arrived replies middle) (later : List M) {i : ℕ}
    (hi : i < replies.length) :
    (link.pending ++ (arrived ++ later))[i]? = (link.pending ++ arrived)[i]? := by
  rw [← List.append_assoc, List.getElem?_append_left (Nat.lt_of_lt_of_le hi h.length_le)]

theorem taken_trans (h : Serves give keeps link arrived replies middle)
    (h' : Serves give keeps middle later more last) :
    last.taken = link.taken + (replies ++ more).length := by
  rw [h'.taken_eq, h.taken_eq, List.length_append, Nat.add_assoc]

theorem closed_trans (h : Serves give keeps link arrived replies middle)
    (h' : Serves give keeps middle later more last) (hclosed : link.connected = false) :
    replies ++ more = [] := by
  have hmiddle : ¬ middle.connected = true := fun hopen ↦
    absurd ((h.connected_iff.mp hopen).1.symm.trans hclosed) Bool.noConfusion
  rw [h.closed hclosed, h'.closed (Bool.eq_false_iff.mpr hmiddle)]
  rfl

/-- Service goes on over a link that is still open. -/
theorem trans_of_open (h : Serves give keeps link arrived replies middle)
    (h' : Serves give keeps middle later more last) (hopen : middle.connected = true) :
    Serves give keeps link (arrived ++ later) (replies ++ more) last := by
  have hle := h.length_le
  have hfirsts := (h.connected_iff.mp hopen).2
  refine ⟨?_, h.taken_trans h', ?_, ?_, ?_, h.closed_trans h'⟩
  · have hback := h'.replies_eq
    rw [h.taken_eq, h.pending_eq hopen] at hback
    rw [List.length_append, List.take_add, ← List.append_assoc, List.take_append_of_le_length hle,
      List.drop_append_of_le_length hle, List.mapIdx_append, ← h.replies_eq]
    congr 1
    refine hback.trans ?_
    congr 1
    funext i packet
    rw [List.length_take, Nat.min_eq_left hle, Nat.add_assoc, Nat.add_comm i]
  · intro hlast
    rw [h'.pending_eq hlast, h.pending_eq hopen, List.length_append, ← List.append_assoc,
      ← List.drop_drop, List.drop_append_of_le_length hle]
  · rw [h'.connected_iff]
    constructor
    · rintro ⟨-, hmore⟩
      refine ⟨(h.connected_iff.mp hopen).1, ?_⟩
      intro i packet hi hpacket
      by_cases hfirst : i < replies.length
      · rw [h.getElem?_first later hfirst] at hpacket
        exact hfirsts i packet hfirst hpacket
      · obtain ⟨j, rfl⟩ := Nat.exists_eq_add_of_le (Nat.not_lt.mp hfirst)
        rw [List.length_append] at hi
        rw [h.getElem?_later hopen] at hpacket
        have hkept := hmore j packet (Nat.lt_of_add_lt_add_left hi) hpacket
        rwa [h.taken_eq, Nat.add_assoc] at hkept
    · rintro ⟨-, hall⟩
      refine ⟨hopen, ?_⟩
      intro j packet hj hpacket
      rw [h.taken_eq, Nat.add_assoc]
      refine hall (replies.length + j) packet ?_ ?_
      · rw [List.length_append]
        exact Nat.add_lt_add_left hj _
      · rw [h.getElem?_later hopen]
        exact hpacket
  · intro i packet hi hpacket
    by_cases hfirst : i < replies.length
    · rw [h.getElem?_first later hfirst] at hpacket
      exact hfirsts i packet hfirst hpacket
    · obtain ⟨j, rfl⟩ := Nat.exists_eq_add_of_le (Nat.not_lt.mp hfirst)
      rw [List.length_append, Nat.add_assoc] at hi
      rw [h.getElem?_later hopen] at hpacket
      have hkept := h'.kept j packet (Nat.lt_of_add_lt_add_left hi) hpacket
      rwa [h.taken_eq, Nat.add_assoc] at hkept

/-- Nothing is read from a link that has been closed. -/
theorem trans_of_closed (h : Serves give keeps link arrived replies middle)
    (h' : Serves give keeps middle later more last) (hopen : ¬ middle.connected = true) :
    Serves give keeps link (arrived ++ later) (replies ++ more) last := by
  have htaken := h.taken_trans h'
  have hclosed := h.closed_trans h'
  obtain rfl := h'.closed (Bool.eq_false_iff.mpr hopen)
  have hlast : ¬ last.connected = true := fun hlast ↦ hopen (h'.connected_iff.mp hlast).1
  refine ⟨?_, htaken, ?_, ?_, ?_, hclosed⟩
  · rw [List.append_nil, ← List.append_assoc, List.take_append_of_le_length h.length_le]
    exact h.replies_eq
  · intro hconnected
    exact absurd hconnected hlast
  · refine iff_of_false hlast ?_
    rintro ⟨hlink, hall⟩
    refine hopen (h.connected_iff.mpr ⟨hlink, ?_⟩)
    intro i packet hi hpacket
    refine hall i packet ?_ ?_
    · rw [List.append_nil]
      exact hi
    · rw [h.getElem?_first later hi]
      exact hpacket
  · intro i packet hi hpacket
    rw [List.append_nil] at hi
    rw [h.getElem?_first later (Nat.lt_of_succ_lt hi)] at hpacket
    exact h.kept i packet hi hpacket

theorem trans (h : Serves give keeps link arrived replies middle)
    (h' : Serves give keeps middle later more last) :
    Serves give keeps link (arrived ++ later) (replies ++ more) last := by
  by_cases hopen : middle.connected = true
  · exact h.trans_of_open h' hopen
  · exact h.trans_of_closed h' hopen

/-- The replies are those of a function of the packets alone exactly when the two agree on every
packet that is read. -/
theorem eq_map_iff (h : Serves give keeps link arrived replies middle) (expected : M → ο) :
    replies = ((link.pending ++ arrived).take replies.length).map expected ↔
      ∀ i packet, i < replies.length → (link.pending ++ arrived)[i]? = some packet →
        give (link.taken + i) packet = expected packet := by
  constructor
  · intro hexpected i packet hi hpacket
    have hgiven : replies[i]? = some (give (link.taken + i) packet) := by
      rw [h.replies_eq, List.getElem?_mapIdx, List.getElem?_take_of_lt hi, hpacket]
      rfl
    have hmapped : replies[i]? = some (expected packet) := by
      rw [hexpected, List.getElem?_map, List.getElem?_take_of_lt hi, hpacket]
      rfl
    exact Option.some.inj (hgiven.symm.trans hmapped)
  · intro hall
    refine h.replies_eq.trans (List.ext_getElem? ?_)
    intro i
    rw [List.getElem?_mapIdx, List.getElem?_map]
    by_cases hi : i < replies.length
    · rw [List.getElem?_take_of_lt hi]
      cases hpacket : (link.pending ++ arrived)[i]? with
      | none => rfl
      | some packet => exact congrArg some (hall i packet hi hpacket)
    · rw [List.getElem?_take_eq_none (Nat.not_lt.mp hi)]
      rfl

end Serves

/-- If every turn of a loop serves the link, then so do all of them together. -/
theorem runAll_serves {step : σ → ι → Outcome (List ο × σ)} (link : σ → Link M)
    (arrivals : ι → List M)
    (hstep : ∀ s turn, ∃ replies next, step s turn = .ok (replies, next) ∧
      Serves give keeps (link s) (arrivals turn) replies (link next))
    (turns : List ι) (s : σ) : ∃ replies last, runAll step s turns = .ok (replies, last) ∧
      Serves give keeps (link s) (turns.flatMap arrivals) replies.flatten (link last) := by
  induction turns generalizing s with
  | nil => exact ⟨[], s, rfl, serves_refl (link s)⟩
  | cons turn turns ih =>
    obtain ⟨first, middle, hfirst, hserves⟩ := hstep s turn
    obtain ⟨others, last, hrun, hrest⟩ := ih middle
    refine ⟨first :: others, last, runAll_cons hfirst hrun, ?_⟩
    rw [List.flatMap_cons, List.flatten_cons]
    exact hserves.trans hrest

end Serving

end MultiUeProxy.Lib.PacketQueue
