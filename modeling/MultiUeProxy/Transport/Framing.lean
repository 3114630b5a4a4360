import MultiUeProxy.Lib.PacketQueue
import MultiUeProxy.P5.Message
import MultiUeProxy.P7.Pack

/-!
# Reading messages off the transport

`pnf_read_dispatch_message` and `pnf_nr_read_dispatch_message` of `pnf.c` read the P5 messages from
an SCTP association, `pnf_nfapi_p7_read_dispatch_message` and
`pnf_nr_nfapi_p7_read_dispatch_message` of `pnf_p7.c` the P7 messages from a UDP socket. Each of
them looks at the header of the message in front, takes a length from it, makes sure of a buffer of
this length, reads the message and gives the buffer to a handler. What the four do when the length
is not that of the message differs from one to the next; `framing_exact_iff` says for which
messages what they hand over is the message or nothing.

Notifications are not modelled: the association only subscribes to data. Packets that arrive while
a reader runs are as those that have arrived before.
-/

set_option autoImplicit false
set_option relaxedAutoImplicit false

namespace MultiUeProxy.Transport.Framing

open Lib.Execution Lib.ByteCursor Lib.ByteWriter Lib.Codec Lib.Lockstep Lib.PacketQueue
open Lib.ByteCursor.Pull (word16 pull16_of_room bind_of_ok run_eq_some)
open P7.Header (P7MessageHeader p7HeaderLength p7MessageHeaderUnpack)
open P5.Message (P5MessageHeader headerLength)

/-! ### The functions -/

/-- What is in the memory that a reader takes for a message before anything is written to it: in
its header buffer, in the buffer that it takes or enlarges, and in its header variable. -/
structure Scratch where
  header : ℕ → UInt8
  buffer : ℕ → UInt8
  messageLength : UInt16

/-- What the readers work on: the socket and, for P7, `rx_message_buffer` with its size. -/
structure State where
  link : Link (List UInt8) := {}
  rxMessageBuffer : ℕ → UInt8
  rxMessageBufferSize : ℕ

/-- One turn of a message pump: the packets that have arrived since the turn before, and whether
`malloc` has memory in this turn. -/
structure Turn where
  arrived : List (List UInt8)
  malloc : Bool := true

/-- The bytes that a handler is given for each packet that is read, if it is called. -/
abbrev Handed := List (Option (List UInt8))

/-- `nfapi_p5_message_header_unpack`. -/
def p5MessageHeaderUnpack (mem : Memory) (length : ℕ) : Outcome (Option P5MessageHeader) :=
  if length < headerLength then .ok none
  else (P5.Message.pullHeader length).run mem 0

/-- What the two P5 readers differ in: the size of `stack_buffer` and how they take the size of the
message from its header. -/
structure P5Reader where
  stackBuffer : ℕ
  messageSize : ℕ → ℕ

/-- The common text of the two P5 readers. A buffer from `malloc` is just as large as the message
is said to be. -/
def readDispatchMessage (reader : P5Reader) (stale : ℕ → Scratch) (malloc : Bool) (s : State) :
    Outcome (Handed × State) :=
  match peek s.link.pending headerLength (stale s.link.taken).header with
  | none => .ok ([], { s with link := { s.link with connected := false } })
  | some peeked => do
    match ← p5MessageHeaderUnpack ⟨peeked.buffer, headerLength⟩ headerLength with
    | none => .ok ([], { s with link := { s.link with connected := false } })
    | some header =>
      let messageSize := reader.messageSize header.messageLength.toNat
      if reader.stackBuffer < messageSize && !malloc then .ok ([], s)
      else
        match receiveRecord s.link.pending messageSize (stale s.link.taken).buffer with
        | none => .ok ([], s)
        | some received =>
          -- A record that is not complete is taken for the end of the association.
          .ok (
            [if received.complete then some (contents received.buffer messageSize) else none],
            { s with link := ⟨received.queue, received.complete, s.link.taken + 1⟩ })

def lteP5Reader : P5Reader where
  stackBuffer := 32
  messageSize length := length

def nrP5Reader : P5Reader where
  stackBuffer := 1024
  messageSize length := length + headerLength

/-- `pnf_read_dispatch_message`. -/
def pnfReadDispatchMessage : (ℕ → Scratch) → Bool → State → Outcome (Handed × State) :=
  readDispatchMessage lteP5Reader

/-- `pnf_nr_read_dispatch_message`. -/
def pnfNrReadDispatchMessage : (ℕ → Scratch) → Bool → State → Outcome (Handed × State) :=
  readDispatchMessage nrP5Reader

/-- What the two P7 readers differ in: how much room they give to the second `recvfrom`, from the
size of the buffer and the length in the header, whether they pass it `MSG_TRUNC`, and which
results they accept beside that length. -/
structure P7Reader where
  room : ℕ → ℕ → ℕ
  truncated : Bool
  accepts : ℕ → ℕ → Bool

/-- Enlarging `rx_message_buffer`. The bytes behind the old ones are what the memory held. -/
def State.resize (s : State) (length : ℕ) (fresh : ℕ → UInt8) : State :=
  if s.rxMessageBufferSize < length then { s with
    rxMessageBuffer := fun pos ↦
      if pos < s.rxMessageBufferSize then s.rxMessageBuffer pos else fresh pos
    rxMessageBufferSize := length }
  else s

/-- The part of a pass that reads a packet of which the header has been seen. The first result says
whether there is another pass. -/
def readSegment (reader : P7Reader) (fresh : ℕ → UInt8) (s : State) (length : ℕ) :
    Bool × Handed × State :=
  let s := s.resize length fresh
  match receiveDatagram reader.truncated s.link.pending
      (reader.room s.rxMessageBufferSize length) s.rxMessageBuffer with
  | none => (false, [], s)
  | some received =>
    let s := { s with
      link := ⟨received.queue, s.link.connected, s.link.taken + 1⟩
      rxMessageBuffer := received.buffer }
    if 0 < received.count then
      if reader.accepts received.count length then
        (true, [some (contents s.rxMessageBuffer received.count)], s)
      else (false, [none], s)
    else (false, [none], s)

/-- One pass of the loop of the P7 readers. -/
def p7Pass (reader : P7Reader) (stale : ℕ → Scratch) (s : State) :
    Outcome (Bool × Handed × State) :=
  let scratch := stale s.link.taken
  match peek s.link.pending p7HeaderLength scratch.header with
  | none => .ok (false, [], s)
  | some peeked =>
    if 0 < peeked.count then do
      -- Whether the header unpacks is not looked at.
      let header ← p7MessageHeaderUnpack ⟨peeked.buffer, p7HeaderLength⟩ p7HeaderLength
      let length := (header.elim scratch.messageLength (·.messageLength)).toNat
      .ok (readSegment reader scratch.buffer s length)
    else
      match receiveDatagram false s.link.pending 0 peeked.buffer with
      | none => .ok (false, [], s)
      | some received => .ok (false, [none],
          { s with link := ⟨received.queue, s.link.connected, s.link.taken + 1⟩ })

/-- The loop of the P7 readers. -/
def p7Loop (reader : P7Reader) (stale : ℕ → Scratch) : (bound : ℕ) → State →
    Outcome (Handed × State)
  | 0, _ => .error .diverge
  | bound + 1, s => do
    let (again, handed, s) ← p7Pass reader stale s
    if again then do
      let (more, s) ← p7Loop reader stale bound s
      .ok (handed ++ more, s)
    else .ok (handed, s)

/-- The common text of the two P7 readers. Every pass but the last reads a packet. -/
def p7ReadDispatchMessage (reader : P7Reader) (stale : ℕ → Scratch) (s : State) :
    Outcome (Handed × State) :=
  p7Loop reader stale (s.link.pending.length + 1) s

def lteP7Reader : P7Reader where
  room bufferSize _ := bufferSize
  truncated := true
  accepts count length := count == length

def nrP7Reader : P7Reader where
  room _ length := length
  truncated := false
  accepts _ _ := true

/-- `pnf_nfapi_p7_read_dispatch_message`. -/
def pnfNfapiP7ReadDispatchMessage : (ℕ → Scratch) → State → Outcome (Handed × State) :=
  p7ReadDispatchMessage lteP7Reader

/-- `pnf_nr_nfapi_p7_read_dispatch_message`. -/
def pnfNrNfapiP7ReadDispatchMessage : (ℕ → Scratch) → State → Outcome (Handed × State) :=
  p7ReadDispatchMessage nrP7Reader

/-- One turn of a message pump, which calls its reader when there is something to read.
`pnf_p7_message_pump` and `pnf_nr_p7_message_pump` never close the socket. -/
def pumpTurn (read : Bool → State → Outcome (Handed × State)) (s : State) (turn : Turn) :
    Outcome (Handed × State) :=
  let s := { s with link := s.link.arrive turn.arrived }
  if s.link.connected = false then .ok ([], s)
  else if s.link.pending = [] then .ok ([], s)
  else read turn.malloc s

/-- The four readers. -/
inductive Reader where
  | p5
  | nrP5
  | p7
  | nrP7
  deriving DecidableEq, Repr

/-- One turn of the pump that calls a reader. -/
def Reader.turn (stale : ℕ → Scratch) : Reader → State → Turn → Outcome (Handed × State)
  | .p5 => pumpTurn (pnfReadDispatchMessage stale)
  | .nrP5 => pumpTurn (pnfNrReadDispatchMessage stale)
  | .p7 => pumpTurn fun _ ↦ pnfNfapiP7ReadDispatchMessage stale
  | .nrP7 => pumpTurn fun _ ↦ pnfNrNfapiP7ReadDispatchMessage stale

/-! ### What the readers are to hand over -/

/-- The size that a length in a header announces, which for the NR P5 messages counts the body
only. -/
def Reader.announced : Reader → ℕ → ℕ
  | .nrP5, length => length + headerLength
  | _, length => length

/-- The length in the header of a packet, which has its place behind the first four bytes. -/
def lengthField (packet : List UInt8) : ℕ := (word16 (memoryOf packet) 4).toNat

/-- The size that a packet announces is its own. -/
def Reader.Agrees (reader : Reader) (packet : List UInt8) : Prop :=
  6 ≤ packet.length ∧ reader.announced (lengthField packet) = packet.length

instance (reader : Reader) (packet : List UInt8) : Decidable (reader.Agrees packet) :=
  inferInstanceAs (Decidable (_ ∧ _))

/-- The message in a packet, or nothing. -/
def Reader.message (reader : Reader) (packet : List UInt8) : Option (List UInt8) :=
  if reader.Agrees packet then some packet else none

/-- The length that a reader sees: that of the packet where the packet has it, and otherwise one
that is made up by what the header buffer held before. -/
def seenLength (scratch : Scratch) (packet : List UInt8) : ℕ :=
  (word16 ⟨overlay packet scratch.header, packet.length⟩ 4).toNat

/-- The packets for which a reader hands over the message or nothing. -/
def Reader.Frames (reader : Reader) (scratch : Scratch) (packet : List UInt8) : Prop :=
  let size := reader.announced (seenLength scratch packet)
  match reader with
  | .p5 | .nrP5 => size ≤ packet.length ∧ (size = packet.length → 6 ≤ packet.length)
  | .p7 => packet.length = 0 ∨ (size = packet.length → 6 ≤ packet.length)
  | .nrP7 => packet.length = 0 ∨ size = 0 ∨ size = packet.length ∧ 6 ≤ packet.length

/-! ### Headers -/

theorem word16_overlay_take {packet : List UInt8} {room pos : ℕ} (h : pos + 2 ≤ room)
    (old : ℕ → UInt8) (size size' : ℕ) :
    word16 ⟨overlay (packet.take room) old, size⟩ pos = word16 ⟨overlay packet old, size'⟩ pos := by
  have hbyte : ∀ i < room, overlay (packet.take room) old i = overlay packet old i := by
    intro i hi
    unfold overlay
    rw [List.getD_eq_getElem?_getD, List.getD_eq_getElem?_getD, List.getElem?_take_of_lt hi]
  unfold word16
  dsimp only
  rw [hbyte pos (by omega), hbyte (pos + 1) (by omega)]

/-- A buffer with room for a P5 header always has one. -/
theorem p5MessageHeaderUnpack_buffer (buffer : ℕ → UInt8) :
    ∃ header, p5MessageHeaderUnpack ⟨buffer, headerLength⟩ headerLength = .ok (some header) ∧
      header.messageLength = word16 ⟨buffer, headerLength⟩ 4 := by
  have hword (pos : ℕ) (hpos : pos + 2 ≤ headerLength) :
      Pull.pull16 headerLength ⟨buffer, headerLength⟩ pos =
        .ok (word16 ⟨buffer, headerLength⟩ pos, pos + 2) := pull16_of_room hpos hpos
  unfold p5MessageHeaderUnpack
  rw [if_neg (Nat.lt_irrefl _)]
  refine ⟨⟨word16 ⟨buffer, headerLength⟩ 0, word16 ⟨buffer, headerLength⟩ 2,
    word16 ⟨buffer, headerLength⟩ 4, word16 ⟨buffer, headerLength⟩ 6⟩,
    run_eq_some.mpr ⟨headerLength, ?_⟩, rfl⟩
  unfold P5.Message.pullHeader
  rw [bind_of_ok (hword 0 (by decide)), bind_of_ok (hword 2 (by decide)),
    bind_of_ok (hword 4 (by decide)), bind_of_ok (hword 6 (by decide))]
  rfl

/-- A buffer with room for a P7 header always has one. -/
theorem p7MessageHeaderUnpack_buffer (buffer : ℕ → UInt8) :
    ∃ header, p7MessageHeaderUnpack ⟨buffer, p7HeaderLength⟩ p7HeaderLength = .ok (some header) ∧
      header.messageLength = word16 ⟨buffer, p7HeaderLength⟩ 4 := by
  obtain ⟨header, hpull⟩ : ∃ header, P7.Header.pullHeader p7HeaderLength
      ⟨buffer, p7HeaderLength⟩ 0 = .ok (header, p7HeaderLength) :=
    P7.Header.pullHeader_of_room (Nat.le_refl _) (Nat.le_refl _)
  refine ⟨header, ?_, (P7.Header.pullHeader_words hpull).1⟩
  unfold p7MessageHeaderUnpack
  rw [if_neg (Nat.lt_irrefl _)]
  exact run_eq_some.mpr ⟨_, hpull⟩

/-! ### Reading one packet -/

section Packet

variable (stale : ℕ → Scratch) {s : State} {packet : List UInt8} {rest : List (List UInt8)}

/-- Looking at the header of a packet shows the length that the reader sees. -/
theorem word16_peeked {room : ℕ} (hroom : 6 ≤ room) (scratch : Scratch) (packet : List UInt8) :
    (word16 ⟨overlay (packet.take room) scratch.header, room⟩ 4).toNat =
      seenLength scratch packet :=
  congrArg UInt16.toNat (word16_overlay_take hroom scratch.header room packet.length)

/-- What a P5 reader hands over for the packet with this number. -/
def p5Hands (reader : P5Reader) (i : ℕ) (packet : List UInt8) : Option (List UInt8) :=
  if packet.length ≤ reader.messageSize (seenLength (stale i) packet) then
    some (contents (overlay packet (stale i).buffer)
      (reader.messageSize (seenLength (stale i) packet)))
  else none

/-- The packets after which a P5 reader goes on: those that are not longer than they are said to
be. -/
def p5Keeps (reader : P5Reader) (i : ℕ) (packet : List UInt8) : Prop :=
  packet.length ≤ reader.messageSize (seenLength (stale i) packet)

/-- A call of a P5 reader reads the packet in front, or nothing when there is no memory. -/
theorem readDispatchMessage_serves (reader : P5Reader) (malloc : Bool)
    (hpending : s.link.pending = packet :: rest) (hopen : s.link.connected = true) :
    ∃ handed next, readDispatchMessage reader stale malloc s = .ok (handed, next) ∧
      Serves (p5Hands stale reader) (p5Keeps stale reader) s.link [] handed next.link ∧ (malloc → handed ≠ []) := by
  obtain ⟨header, hheader, hlength⟩ :=
    p5MessageHeaderUnpack_buffer (overlay (packet.take headerLength) (stale s.link.taken).header)
  unfold readDispatchMessage
  rw [hpending]
  dsimp only [peek]
  rw [hheader, ok_bind]
  dsimp only
  rw [hlength, word16_peeked (by decide)]
  split_ifs with hmalloc
  · refine ⟨[], s, rfl, serves_refl s.link, ?_⟩
    intro hmemory
    rw [hmemory] at hmalloc
    simp at hmalloc
  · dsimp only [receiveRecord]
    refine ⟨_, _, rfl, serves_one hpending hopen ?_ ?_ ?_, fun _ ↦ List.cons_ne_nil _ _⟩
    · unfold p5Hands
      simp only [decide_eq_true_eq]
      by_cases hcomplete :
          packet.length ≤ reader.messageSize (seenLength (stale s.link.taken) packet)
      · rw [if_pos hcomplete, if_pos hcomplete, List.take_of_length_le hcomplete]
      · rw [if_neg hcomplete, if_neg hcomplete]
    · exact decide_eq_true_iff
    · intro hcomplete
      exact if_pos (of_decide_eq_true hcomplete)

/-- The number that the second `recvfrom` of a P7 reader returns. -/
def P7Reader.count (reader : P7Reader) (bufferSize length : ℕ) (packet : List UInt8) : ℕ :=
  if reader.truncated then packet.length else min (reader.room bufferSize length) packet.length

/-- What a P7 reader hands over after the second `recvfrom` is a function of the length that it has
seen and of the packet, whatever the buffer was. -/
def P7Reader.Gives (reader : P7Reader) (gives : ℕ → List UInt8 → Option (List UInt8)) : Prop :=
  ∀ bufferSize length buffer packet, length ≤ bufferSize → 0 < packet.length →
    (if 0 < reader.count bufferSize length packet ∧
        reader.accepts (reader.count bufferSize length packet) length then
      some (contents (overlay (packet.take (reader.room bufferSize length)) buffer)
        (reader.count bufferSize length packet))
    else none) = gives length packet

theorem State.le_resize (s : State) (length : ℕ) (fresh : ℕ → UInt8) :
    length ≤ (s.resize length fresh).rxMessageBufferSize := by
  unfold State.resize
  split_ifs with hsmall
  · exact Nat.le_refl length
  · exact Nat.le_of_not_lt hsmall

@[simp] theorem State.resize_link (s : State) (length : ℕ) (fresh : ℕ → UInt8) :
    (s.resize length fresh).link = s.link := by
  unfold State.resize
  split_ifs
  · rfl
  · rfl

theorem readSegment_eq {reader : P7Reader} {gives : ℕ → List UInt8 → Option (List UInt8)}
    (hgives : reader.Gives gives) (fresh : ℕ → UInt8) (length : ℕ)
    (hpending : s.link.pending = packet :: rest) (hsome : 0 < packet.length) :
    ∃ again next, readSegment reader fresh s length = (again, [gives length packet], next) ∧
      next.link = ⟨rest, s.link.connected, s.link.taken + 1⟩ := by
  have hroom := s.le_resize length fresh
  have hlink := s.resize_link length fresh
  unfold readSegment
  generalize s.resize length fresh = resized at hroom hlink
  dsimp only
  rw [hlink, hpending, ← hgives _ length resized.rxMessageBuffer packet hroom hsome]
  dsimp only [receiveDatagram]
  unfold P7Reader.count
  generalize (if reader.truncated then packet.length
    else min (reader.room resized.rxMessageBufferSize length) packet.length) = count
  by_cases hcount : 0 < count
  · by_cases haccepts : reader.accepts count length = true
    · rw [if_pos hcount, if_pos haccepts, if_pos ⟨hcount, haccepts⟩]
      exact ⟨true, _, rfl, rfl⟩
    · rw [if_pos hcount, if_neg haccepts, if_neg fun hboth ↦ haccepts hboth.2]
      exact ⟨false, _, rfl, rfl⟩
  · rw [if_neg hcount, if_neg fun hboth ↦ hcount hboth.1]
    exact ⟨false, _, rfl, rfl⟩

/-- What a P7 reader hands over for the packet with this number. -/
def p7Hands (gives : ℕ → List UInt8 → Option (List UInt8)) (i : ℕ) (packet : List UInt8) :
    Option (List UInt8) :=
  if 0 < packet.length then gives (seenLength (stale i) packet) packet else none

/-- A pass of a P7 reader reads the packet in front. -/
theorem p7Pass_eq {reader : P7Reader} {gives : ℕ → List UInt8 → Option (List UInt8)}
    (hgives : reader.Gives gives) (hpending : s.link.pending = packet :: rest) :
    ∃ again next, p7Pass reader stale s =
        .ok (again, [p7Hands stale gives s.link.taken packet], next) ∧
      next.link = ⟨rest, s.link.connected, s.link.taken + 1⟩ := by
  unfold p7Pass p7Hands
  rw [hpending]
  dsimp only [peek]
  by_cases hempty : 0 < packet.length
  · obtain ⟨header, hheader, hlength⟩ := p7MessageHeaderUnpack_buffer
      (overlay (packet.take p7HeaderLength) (stale s.link.taken).header)
    have hpeeked : 0 < min p7HeaderLength packet.length := Nat.lt_min.mpr ⟨by decide, hempty⟩
    rw [if_pos hpeeked, if_pos hempty, hheader, ok_bind]
    dsimp only [Option.elim]
    rw [hlength, word16_peeked (by decide)]
    obtain ⟨again, next, hsegment, hnext⟩ := readSegment_eq hgives (stale s.link.taken).buffer
      (seenLength (stale s.link.taken) packet) hpending hempty
    exact ⟨again, next, congrArg Except.ok hsegment, hnext⟩
  · have hpeeked : ¬ 0 < min p7HeaderLength packet.length := by omega
    rw [if_neg hpeeked, if_neg hempty]
    exact ⟨false, _, rfl, rfl⟩

/-- The loop of a P7 reader ends, and it has read packets from the front. -/
theorem p7Loop_serves {reader : P7Reader} {gives : ℕ → List UInt8 → Option (List UInt8)}
    (hgives : reader.Gives gives) (bound : ℕ) (s : State) (hopen : s.link.connected = true)
    (hbound : s.link.pending.length < bound) :
    ∃ handed next, p7Loop reader stale bound s = .ok (handed, next) ∧
      Serves (p7Hands stale gives) (fun _ _ ↦ True) s.link [] handed next.link ∧
        (s.link.pending ≠ [] → handed ≠ []) := by
  induction bound generalizing s with
  | zero => exact absurd hbound (Nat.not_lt_zero _)
  | succ bound ih =>
    unfold p7Loop
    cases hpending : s.link.pending with
    | nil =>
      have hpass : p7Pass reader stale s = .ok (false, [], s) := by
        unfold p7Pass
        rw [hpending]
        rfl
      rw [hpass]
      exact ⟨[], s, rfl, serves_refl s.link, fun hsome ↦ absurd rfl hsome⟩
    | cons packet rest =>
      obtain ⟨again, next, hpass, hnext⟩ := p7Pass_eq stale hgives hpending
      rw [hopen] at hnext
      have hone : Serves (p7Hands stale gives) (fun _ _ ↦ True) s.link []
          [p7Hands stale gives s.link.taken packet] next.link := by
        rw [hnext]
        exact serves_one hpending hopen rfl (iff_of_true rfl trivial) fun _ ↦ rfl
      rw [hpass, ok_bind]
      cases again with
      | false => exact ⟨_, next, rfl, hone, fun _ ↦ List.cons_ne_nil _ _⟩
      | true =>
        have hshorter : next.link.pending.length < bound := by
          rw [hnext]
          rw [hpending] at hbound
          exact Nat.lt_of_succ_lt_succ hbound
        obtain ⟨more, last, hloop, hrest, -⟩ := ih next (by rw [hnext]) hshorter
        refine ⟨_, last, ?_, hone.trans hrest, fun _ ↦ List.cons_ne_nil _ _⟩
        dsimp only
        rw [if_pos rfl, hloop]
        rfl

theorem p7ReadDispatchMessage_serves {reader : P7Reader}
    {gives : ℕ → List UInt8 → Option (List UInt8)} (hgives : reader.Gives gives)
    (hopen : s.link.connected = true) :
    ∃ handed next, p7ReadDispatchMessage reader stale s = .ok (handed, next) ∧
      Serves (p7Hands stale gives) (fun _ _ ↦ True) s.link [] handed next.link ∧
        (s.link.pending ≠ [] → handed ≠ []) :=
  p7Loop_serves stale hgives _ s hopen (Nat.lt_succ_self _)

end Packet

/-! ### The four readers -/

/-- What the LTE reader of P7 gives to its handler: a packet of the length that it has seen. -/
def lteGives (length : ℕ) (packet : List UInt8) : Option (List UInt8) :=
  if packet.length = length then some packet else none

/-- What the NR reader of P7 gives to its handler: as much of a packet as the length that it has
seen allows. -/
def nrGives (length : ℕ) (packet : List UInt8) : Option (List UInt8) :=
  if 0 < length then some (packet.take length) else none

theorem lteP7Reader_gives : lteP7Reader.Gives lteGives := by
  intro bufferSize length buffer packet hroom hsome
  show (if 0 < packet.length ∧ (packet.length == length) = true then
    some (contents (overlay (packet.take bufferSize) buffer) packet.length) else none) = _
  unfold lteGives
  by_cases hlength : packet.length = length
  · rw [if_pos hlength, if_pos ⟨hsome, beq_iff_eq.mpr hlength⟩,
      contents_overlay (by omega) (Nat.le_refl _), List.take_length]
  · rw [if_neg hlength, if_neg fun hboth ↦ hlength (beq_iff_eq.mp hboth.2)]

theorem nrP7Reader_gives : nrP7Reader.Gives nrGives := by
  intro bufferSize length buffer packet _ hsome
  show (if 0 < min length packet.length ∧ true = true then
    some (contents (overlay (packet.take length) buffer) (min length packet.length)) else none) = _
  unfold nrGives
  by_cases hlength : 0 < length
  · rw [if_pos hlength, if_pos ⟨Nat.lt_min.mpr ⟨hlength, hsome⟩, rfl⟩,
      contents_overlay (Nat.min_le_left ..) (Nat.min_le_right ..), ← List.take_eq_take_min]
  · rw [if_neg hlength, if_neg fun hboth ↦ hlength (Nat.lt_min.mp hboth.1).1]

/-- What a reader hands over for the packet with this number. -/
def Reader.hands (stale : ℕ → Scratch) : Reader → ℕ → List UInt8 → Option (List UInt8)
  | .p5 => p5Hands stale lteP5Reader
  | .nrP5 => p5Hands stale nrP5Reader
  | .p7 => p7Hands stale lteGives
  | .nrP7 => p7Hands stale nrGives

/-- The packets after which a reader goes on. -/
def Reader.Keeps (stale : ℕ → Scratch) : Reader → ℕ → List UInt8 → Prop
  | .p5 => p5Keeps stale lteP5Reader
  | .nrP5 => p5Keeps stale nrP5Reader
  | .p7 | .nrP7 => fun _ _ ↦ True

theorem pumpTurn_serves {read : Bool → State → Outcome (Handed × State)}
    {give : ℕ → List UInt8 → Option (List UInt8)} {keeps : ℕ → List UInt8 → Prop}
    (hread : ∀ malloc s, s.link.connected = true → s.link.pending ≠ [] →
      ∃ handed next, read malloc s = .ok (handed, next) ∧
        Serves give keeps s.link [] handed next.link ∧ (malloc → handed ≠ []))
    (s : State) (turn : Turn) : ∃ handed next, pumpTurn read s turn = .ok (handed, next) ∧
      Serves give keeps s.link turn.arrived handed next.link ∧
        (s.link.connected → turn.malloc → s.link.pending ++ turn.arrived ≠ [] → handed ≠ []) := by
  have harrive : Serves give keeps s.link turn.arrived [] (s.link.arrive turn.arrived) :=
    serves_nothing s.link turn.arrived
  unfold pumpTurn
  dsimp only
  split_ifs with hclosed hempty
  · refine ⟨[], _, rfl, harrive, ?_⟩
    intro hopen
    exact absurd (hopen.symm.trans hclosed) Bool.noConfusion
  · exact ⟨[], _, rfl, harrive, fun _ _ hsome ↦ absurd hempty hsome⟩
  · obtain ⟨handed, next, hrun, hserves, hsome⟩ := hread turn.malloc
      { s with link := s.link.arrive turn.arrived } (Bool.of_not_eq_false hclosed)
      hempty
    have hboth := harrive.trans hserves
    rw [List.append_nil, List.nil_append] at hboth
    exact ⟨handed, next, hrun, hboth, fun _ hmalloc _ ↦ hsome hmalloc⟩

/-- A turn of a pump reads packets from the front, one after another, and when there is a packet
and memory for it, it reads one at least. -/
theorem Reader.turn_serves (reader : Reader) (stale : ℕ → Scratch) (s : State) (turn : Turn) :
    ∃ handed next, reader.turn stale s turn = .ok (handed, next) ∧
      Serves (reader.hands stale) (reader.Keeps stale) s.link turn.arrived handed next.link ∧
        (s.link.connected → turn.malloc → s.link.pending ++ turn.arrived ≠ [] → handed ≠ []) := by
  have hp5 (p5Reader : P5Reader) (malloc : Bool) (s : State) (hopen : s.link.connected = true)
      (hpending : s.link.pending ≠ []) :
      ∃ handed next, readDispatchMessage p5Reader stale malloc s = .ok (handed, next) ∧
        Serves (p5Hands stale p5Reader) (p5Keeps stale p5Reader) s.link [] handed next.link ∧ (malloc → handed ≠ []) := by
    obtain ⟨packet, rest, hcons⟩ := List.exists_cons_of_ne_nil hpending
    exact readDispatchMessage_serves stale p5Reader malloc hcons hopen
  have hp7 (p7Reader : P7Reader) (gives : ℕ → List UInt8 → Option (List UInt8))
      (hgives : p7Reader.Gives gives) (malloc : Bool) (s : State) (hopen : s.link.connected = true)
      (hpending : s.link.pending ≠ []) :
      ∃ handed next, p7ReadDispatchMessage p7Reader stale s = .ok (handed, next) ∧
        Serves (p7Hands stale gives) (fun _ _ ↦ True) s.link [] handed next.link ∧ (malloc → handed ≠ []) := by
    obtain ⟨handed, next, hrun, hserves, hsome⟩ := p7ReadDispatchMessage_serves stale hgives hopen
    exact ⟨handed, next, hrun, hserves, fun _ ↦ hsome hpending⟩
  cases reader with
  | p5 => exact pumpTurn_serves (hp5 lteP5Reader) s turn
  | nrP5 => exact pumpTurn_serves (hp5 nrP5Reader) s turn
  | p7 => exact pumpTurn_serves (hp7 lteP7Reader lteGives lteP7Reader_gives) s turn
  | nrP7 => exact pumpTurn_serves (hp7 nrP7Reader nrGives nrP7Reader_gives) s turn

/-! ### The message or nothing -/

/-- A packet that has a length field shows it to every reader. -/
theorem seenLength_of_le (scratch : Scratch) {packet : List UInt8} (h : 6 ≤ packet.length) :
    seenLength scratch packet = lengthField packet := by
  have hbyte : ∀ i < 6, overlay packet scratch.header i = packet.getD i 0 := by
    intro i hi
    have hlt : i < packet.length := Nat.lt_of_lt_of_le hi h
    rw [overlay_of_lt hlt, List.getD_eq_getElem?_getD, List.getElem?_eq_getElem hlt]
    rfl
  unfold seenLength lengthField word16 memoryOf
  dsimp only
  rw [hbyte 4 (by decide), hbyte 5 (by decide)]

/-- A packet agrees with a reader when it has a length field and the reader sees the length of the
packet. -/
theorem agrees_iff (reader : Reader) (scratch : Scratch) (packet : List UInt8) :
    reader.Agrees packet ↔
      6 ≤ packet.length ∧ reader.announced (seenLength scratch packet) = packet.length := by
  unfold Reader.Agrees
  refine and_congr_right ?_
  intro hlength
  rw [seenLength_of_le scratch hlength]

theorem message_of_agrees {reader : Reader} {packet : List UInt8} (h : reader.Agrees packet) :
    reader.message packet = some packet := if_pos h

theorem message_of_not_agrees {reader : Reader} {packet : List UInt8} (h : ¬ reader.Agrees packet) :
    reader.message packet = none := if_neg h

theorem message_eq_some {reader : Reader} {packet bytes : List UInt8}
    (h : reader.message packet = some bytes) : reader.Agrees packet ∧ bytes = packet := by
  unfold Reader.message at h
  split_ifs at h with hagrees
  exact ⟨hagrees, (Option.some.inj h).symm⟩

/-- A P5 reader hands over the message or nothing for the packets that are not said to be longer
than they are. -/
theorem p5Hands_eq_message_iff (reader : Reader) (p5Reader : P5Reader)
    (hsize : ∀ length, reader.announced length = p5Reader.messageSize length)
    (stale : ℕ → Scratch) (i : ℕ) (packet : List UInt8) :
    p5Hands stale p5Reader i packet = reader.message packet ↔
      reader.announced (seenLength (stale i) packet) ≤ packet.length ∧
        (reader.announced (seenLength (stale i) packet) = packet.length → 6 ≤ packet.length) := by
  have hagrees := agrees_iff reader (stale i) packet
  rw [hsize] at hagrees ⊢
  unfold p5Hands
  generalize p5Reader.messageSize (seenLength (stale i) packet) = size at hagrees
  rcases Nat.lt_trichotomy size packet.length with hlt | heq | hgt
  · have hnot : ¬ reader.Agrees packet := fun h ↦ Nat.ne_of_lt hlt (hagrees.mp h).2
    rw [if_neg (Nat.not_le.mpr hlt), message_of_not_agrees hnot]
    refine iff_of_true rfl ⟨Nat.le_of_lt hlt, ?_⟩
    intro hequal
    exact absurd hequal (Nat.ne_of_lt hlt)
  · have hwhole : contents (overlay packet (stale i).buffer) size = packet := by
      have hcopied : contents (overlay (packet.take size) (stale i).buffer) size =
          packet.take size := contents_overlay (Nat.le_refl size) (Nat.le_of_eq heq) _
      rwa [List.take_of_length_le (Nat.le_of_eq heq.symm)] at hcopied
    rw [if_pos (Nat.le_of_eq heq.symm), hwhole]
    constructor
    · intro hmessage
      obtain ⟨hagree, -⟩ := message_eq_some hmessage.symm
      exact ⟨Nat.le_of_eq heq, fun _ ↦ (hagrees.mp hagree).1⟩
    · intro hframes
      exact (message_of_agrees (hagrees.mpr ⟨hframes.2 heq, heq⟩)).symm
  · rw [if_pos (Nat.le_of_lt hgt)]
    refine iff_of_false ?_ fun hframes ↦ Nat.not_le.mpr hgt hframes.1
    intro hmessage
    obtain ⟨-, hsame⟩ := message_eq_some hmessage.symm
    have hlength := congrArg List.length hsame
    rw [length_contents] at hlength
    exact Nat.ne_of_gt hgt hlength

theorem lteP7_eq_message_iff (stale : ℕ → Scratch) (i : ℕ) (packet : List UInt8) :
    p7Hands stale lteGives i packet = Reader.p7.message packet ↔
      packet.length = 0 ∨
        (seenLength (stale i) packet = packet.length → 6 ≤ packet.length) := by
  have hagrees := agrees_iff .p7 (stale i) packet
  change _ ↔ 6 ≤ packet.length ∧ seenLength (stale i) packet = packet.length at hagrees
  unfold p7Hands lteGives
  generalize seenLength (stale i) packet = size at hagrees
  by_cases hempty : 0 < packet.length
  · rw [if_pos hempty]
    by_cases heq : packet.length = size
    · rw [if_pos heq]
      constructor
      · intro hmessage
        exact Or.inr fun _ ↦ (hagrees.mp (message_eq_some hmessage.symm).1).1
      · intro hframes
        have hlong := hframes.resolve_left (Nat.ne_of_gt hempty) heq.symm
        exact (message_of_agrees (hagrees.mpr ⟨hlong, heq.symm⟩)).symm
    · have hnot : ¬ Reader.p7.Agrees packet := fun h ↦ heq (hagrees.mp h).2.symm
      rw [if_neg heq, message_of_not_agrees hnot]
      exact iff_of_true rfl (Or.inr fun hequal ↦ absurd hequal.symm heq)
  · have hnot : ¬ Reader.p7.Agrees packet := fun h ↦
      hempty (Nat.lt_of_lt_of_le (by decide) (hagrees.mp h).1)
    rw [if_neg hempty, message_of_not_agrees hnot]
    exact iff_of_true rfl (Or.inl (Nat.eq_zero_of_not_pos hempty))

theorem nrP7_eq_message_iff (stale : ℕ → Scratch) (i : ℕ) (packet : List UInt8) :
    p7Hands stale nrGives i packet = Reader.nrP7.message packet ↔
      packet.length = 0 ∨ seenLength (stale i) packet = 0 ∨
        seenLength (stale i) packet = packet.length ∧ 6 ≤ packet.length := by
  have hagrees := agrees_iff .nrP7 (stale i) packet
  change _ ↔ 6 ≤ packet.length ∧ seenLength (stale i) packet = packet.length at hagrees
  unfold p7Hands nrGives
  generalize seenLength (stale i) packet = size at hagrees
  by_cases hempty : 0 < packet.length
  · rw [if_pos hempty]
    by_cases hsize : 0 < size
    · rw [if_pos hsize]
      constructor
      · intro hmessage
        obtain ⟨hlong, heq⟩ := hagrees.mp (message_eq_some hmessage.symm).1
        exact Or.inr (Or.inr ⟨heq, hlong⟩)
      · intro hframes
        obtain ⟨heq, hlong⟩ := (hframes.resolve_left (Nat.ne_of_gt hempty)).resolve_left
          (Nat.ne_of_gt hsize)
        rw [message_of_agrees (hagrees.mpr ⟨hlong, heq⟩), heq, List.take_length]
    · have hnot : ¬ Reader.nrP7.Agrees packet := by
        intro h
        obtain ⟨-, heq⟩ := hagrees.mp h
        omega
      rw [if_neg hsize, message_of_not_agrees hnot]
      exact iff_of_true rfl (Or.inr (Or.inl (Nat.eq_zero_of_not_pos hsize)))
  · have hnot : ¬ Reader.nrP7.Agrees packet := fun h ↦
      hempty (Nat.lt_of_lt_of_le (by decide) (hagrees.mp h).1)
    rw [if_neg hempty, message_of_not_agrees hnot]
    exact iff_of_true rfl (Or.inl (Nat.eq_zero_of_not_pos hempty))

/-- A reader hands over the message or nothing for the packets that it frames, and for no
others. -/
theorem hands_eq_message_iff (reader : Reader) (stale : ℕ → Scratch) (i : ℕ)
    (packet : List UInt8) :
    reader.hands stale i packet = reader.message packet ↔ reader.Frames (stale i) packet := by
  cases reader with
  | p5 => exact p5Hands_eq_message_iff .p5 lteP5Reader (fun _ ↦ rfl) stale i packet
  | nrP5 => exact p5Hands_eq_message_iff .nrP5 nrP5Reader (fun _ ↦ rfl) stale i packet
  | p7 => exact lteP7_eq_message_iff stale i packet
  | nrP7 => exact nrP7_eq_message_iff stale i packet

/-! ### What the packers write -/

section Packers

variable {encode : Push Unit} {limit : ℕ} {body packed : List UInt8}

theorem lengthField_p5 (header : P5MessageHeader) (length : UInt16) (body : List UInt8) :
    lengthField (P5.Message.headerBytes header length ++ body) = length.toNat :=
  congrArg UInt16.toNat (join_bytes16 length)

theorem lengthField_p7 (header : P7MessageHeader) (body : List UInt8) :
    lengthField (P7.Pack.headerBytes header ++ body) = header.messageLength.toNat :=
  congrArg UInt16.toNat (join_bytes16 header.messageLength)

/-- A packed P5 message agrees with the reader that counts as its packer does. -/
theorem p5_agrees {reader : Reader} {counted : ℕ → ℕ} {header : P5MessageHeader}
    (hcounted : ∀ length, headerLength ≤ length → length ≤ 0xFFFF →
      counted length < 65536 ∧ reader.announced (counted length) = length)
    (hbody : Yields limit encode body)
    (h : P5.Message.packMessage counted encode limit header = .ok (some packed)) :
    reader.Agrees packed := by
  obtain ⟨hpacked, hshort⟩ := P5.Message.packMessage_eq_some hbody h
  have hlength : packed.length = headerLength + body.length := by
    rw [hpacked, P5.Message.length_header_append]
  have hroom : headerLength ≤ packed.length := by omega
  obtain ⟨hword, hannounced⟩ := hcounted packed.length hroom hshort
  have hfield : lengthField packed = counted packed.length := by
    have hwritten := lengthField_p5 header (counted packed.length).toUInt16 body
    rwa [← hpacked, toNat_number16 hword] at hwritten
  refine ⟨Nat.le_trans (by decide) hroom, ?_⟩
  rw [hfield]
  exact hannounced

theorem lteP5_agrees {header : P5MessageHeader} (hbody : Yields limit encode body)
    (h : P5.Message.p5MessagePack encode limit header = .ok (some packed)) :
    Reader.p5.Agrees packed :=
  p5_agrees (fun _ _ hshort ↦ ⟨Nat.lt_succ_of_le hshort, rfl⟩) hbody h

theorem nrP5_agrees {header : P5MessageHeader} (hbody : Yields limit encode body)
    (h : P5.Message.nrP5MessagePack encode limit header = .ok (some packed)) :
    Reader.nrP5.Agrees packed :=
  p5_agrees (fun length hroom hshort ↦
    ⟨Nat.lt_succ_of_le (Nat.le_trans (Nat.sub_le length headerLength) hshort),
      Nat.sub_add_cancel hroom⟩) hbody h

/-- A packed P7 message agrees with both P7 readers. -/
theorem p7_agrees [Appends encode] {header : P7MessageHeader}
    (h : P7.Pack.packMessage encode limit header = .ok (some packed)) :
    Reader.p7.Agrees packed ∧ Reader.nrP7.Agrees packed := by
  obtain ⟨-, hshort, hencode⟩ := P7.Pack.packMessage_appends h
  have hprefix := prefix_run encode
    (P7.Pack.headerBytes (P7.Pack.packedHeader header packed.length.toUInt16))
  rw [hencode] at hprefix
  obtain ⟨body, hbody⟩ := hprefix
  have hlength : packed.length = p7HeaderLength + body.length := by
    rw [← P7.Pack.length_header_append (P7.Pack.packedHeader header packed.length.toUInt16) body,
      hbody]
  have hroom : 6 ≤ packed.length := by
    rw [hlength]
    exact Nat.le_trans (by decide) (Nat.le_add_right p7HeaderLength body.length)
  have hfield : lengthField packed = packed.length := by
    have hwritten := lengthField_p7 (P7.Pack.packedHeader header packed.length.toUInt16) body
    rwa [hbody, P7.Pack.packedHeader_length hshort] at hwritten
  exact ⟨⟨hroom, hfield⟩, ⟨hroom, hfield⟩⟩

end Packers

/-! ### Runs -/

/-- An open socket with nothing to read and some buffer. -/
def opened (rxMessageBuffer : ℕ → UInt8) (rxMessageBufferSize : ℕ) : State where
  rxMessageBuffer := rxMessageBuffer
  rxMessageBufferSize := rxMessageBufferSize

/-- A message pump over its turns. -/
def Reader.run (reader : Reader) (stale : ℕ → Scratch) (s : State) (turns : List Turn) :
    Outcome (List Handed × State) := runAll (reader.turn stale) s turns

/-- The packets that the transport delivers in a run. -/
def delivered (turns : List Turn) : List (List UInt8) := turns.flatMap (·.arrived)

/-- What a run hands over is, packet by packet, the message or nothing, and when there is a packet
behind those that it has read, it goes on in front of the first byte of the next one. -/
def Exact (reader : Reader) (packets : List (List UInt8)) (handed : Handed)
    (last : Link (List UInt8)) : Prop :=
  handed = (packets.take handed.length).map reader.message ∧
    (handed.length < packets.length →
      last.connected ∧ last.pending = packets.drop handed.length)

/-- In every run of each of the four readers, what is handed over is exact when the reader frames
every packet that it reads and goes on after it unless it is the last one, and only then. -/
theorem framing_exact_iff (reader : Reader) (stale : ℕ → Scratch) (rxMessageBuffer : ℕ → UInt8)
    (rxMessageBufferSize : ℕ) (turns : List Turn) :
    ∃ handed last, reader.run stale (opened rxMessageBuffer rxMessageBufferSize) turns =
        .ok (handed, last) ∧
      (Exact reader (delivered turns) handed.flatten last.link ↔
        ∀ i packet, i < handed.flatten.length → (delivered turns)[i]? = some packet →
          reader.Frames (stale i) packet ∧
            (i + 1 < (delivered turns).length → reader.Keeps stale i packet)) := by
  have hturn (s : State) (turn : Turn) :
      ∃ handed next, reader.turn stale s turn = .ok (handed, next) ∧
        Serves (reader.hands stale) (reader.Keeps stale) s.link turn.arrived handed next.link := by
    obtain ⟨handed, next, hrun, hserves, -⟩ := reader.turn_serves stale s turn
    exact ⟨handed, next, hrun, hserves⟩
  obtain ⟨handed, last, hrun, hserves⟩ := runAll_serves (·.link) (·.arrived) hturn turns
    (opened rxMessageBuffer rxMessageBufferSize)
  refine ⟨handed, last, hrun, ?_⟩
  change Serves (reader.hands stale) (reader.Keeps stale) {} (delivered turns) handed.flatten
    last.link at hserves
  have hle := hserves.length_le
  have hexact := hserves.eq_map_iff reader.message
  have hopen := hserves.connected_iff
  have hkept := hserves.kept
  simp only [List.nil_append, Nat.zero_add, hands_eq_message_iff, true_and] at hle hexact hopen hkept
  unfold Exact
  rw [hexact]
  constructor
  · rintro ⟨hframes, hnext⟩ i packet hi hpacket
    refine ⟨hframes i packet hi hpacket, ?_⟩
    intro hmore
    by_cases hall : handed.flatten.length < (delivered turns).length
    · exact hopen.mp (hnext hall).1 i packet hi hpacket
    · exact hkept i packet (by omega) hpacket
  · intro hall
    refine ⟨fun i packet hi hpacket ↦ (hall i packet hi hpacket).1, ?_⟩
    intro hmore
    have hconnected : last.link.connected := hopen.mpr fun i packet hi hpacket ↦
      (hall i packet hi hpacket).2 (Nat.lt_of_le_of_lt hi hmore)
    exact ⟨hconnected, hserves.pending_eq hconnected⟩

/-- Memory full of zeros. -/
def blank : Scratch := ⟨fun _ ↦ 0, fun _ ↦ 0, 0⟩

/-- A P7 message of 20 bytes that announces 17. -/
def overlong : List UInt8 := [0, 1, 0, 2, 0, 17] ++ List.replicate 14 0

/-- The NR P7 reader hands over the first 17 bytes of that message. -/
theorem overlong_truncated :
    ∃ handed last, Reader.nrP7.run (fun _ ↦ blank) (opened (fun _ ↦ 0) 2048)
        [{ arrived := [overlong] }] = .ok (handed, last) ∧
      handed.flatten = [some (overlong.take 17)] ∧
      ¬ Exact .nrP7 [overlong] handed.flatten last.link := by
  have hrun : ∃ last, Reader.nrP7.run (fun _ ↦ blank) (opened (fun _ ↦ 0) 2048)
      [{ arrived := [overlong] }] = .ok ([[some (overlong.take 17)]], last) := ⟨_, rfl⟩
  obtain ⟨last, hrun⟩ := hrun
  refine ⟨_, last, hrun, rfl, ?_⟩
  rintro ⟨hhanded, -⟩
  exact absurd hhanded (by decide)

end MultiUeProxy.Transport.Framing
