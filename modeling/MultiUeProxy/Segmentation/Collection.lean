import MultiUeProxy.Segmentation.Completeness

/-!
# Collecting the segments of one message

What the receiver does with the segments of a message that arrive in some order, each once, when it
has no entry under their sequence number. `Collected` describes the entry after some of them. While
one is missing, nothing is dispatched, and the entry stays as long as the arrivals are not too late
for it (`receive_collected`); the last one completes the message (`receive_last`). `collect_run` puts
the steps together. `hopeless_run` is about the other runs: with fewer segments to come than are
missing, nothing is ever dispatched.
-/

set_option autoImplicit false
set_option relaxedAutoImplicit false

namespace MultiUeProxy.Segmentation.Collection

open Lib.Execution Lib.KeyedTable Lib.NumberedPieces P7.Header Reassembly Completeness

/-- Datagrams that the receiver takes for the segments `0` to `count - 1` of the message with a
sequence number, the last of them the final one. -/
structure Numbered (crc32 : UInt32 → List UInt8 → UInt32) (checksumEnabled : Bool)
    (segment : ℕ → List UInt8) (count : ℕ) (number : UInt8) : Prop where
  two_le : 2 ≤ count
  le_max : count ≤ maxSegments
  accepted : ∀ i < count, ∀ msg : Datagram, msg.bytes = segment i →
    acceptMessage crc32 checksumEnabled msg = .ok (some (headerOf (segment i)))
  sequenceNum : ∀ i < count, (headerOf (segment i)).sequenceNum = number
  segmentNum : ∀ i < count, (headerOf (segment i)).segmentNum.toNat = i
  final : ∀ i < count, (headerOf (segment i)).m = 0 ↔ i + 1 = count

/-- The entry has exactly the segments that have arrived. -/
structure Collected (segment : ℕ → List UInt8) (count : ℕ) (first : UInt32) (arrived : List ℕ)
    (msg : RxMessage) : Prop where
  segments : ∀ i, msg.segments i = if i ∈ arrived then some (segment i) else none
  received : msg.numSegmentsReceived.toNat = arrived.length
  expected : msg.numSegmentsExpected.toNat = if count - 1 ∈ arrived then count else 255
  time : msg.rxHrTime = first

/-- Arrivals that bring these segments. -/
def Bring (segment : ℕ → List UInt8) (arrivals : List (Datagram × UInt32)) (ks : List ℕ) : Prop :=
  arrivals.map (fun arrival ↦ arrival.1.bytes) = ks.map segment

section Steps

variable {crc32 : UInt32 → List UInt8 → UInt32} {checksumEnabled : Bool}
  {segment : ℕ → List UInt8} {count : ℕ} {number : UInt8} {first time : UInt32} {arrived : List ℕ}
  {msg : RxMessage} {state : RxState} {datagram : Datagram} {k : ℕ}

theorem Numbered.not_isWhole (h : Numbered crc32 checksumEnabled segment count number)
    (hk : k < count) : ¬ (headerOf (segment k)).IsWhole := by
  rintro ⟨hm, hsegment⟩
  have hlast := (h.final k hk).mp hm
  have hnumber := h.segmentNum k hk
  have htwo := h.two_le
  rw [hsegment] at hnumber
  change 0 = k at hnumber
  omega

/-- The entry of the first segment that arrives. -/
theorem collected_ofSegment (h : Numbered crc32 checksumEnabled segment count number)
    (hk : k < count) :
    Collected segment count time [k] (RxMessage.ofSegment time (headerOf (segment k)).sequenceNum
      (headerOf (segment k)).segmentNum (headerOf (segment k)).m (segment k)) := by
  have hnumber := h.segmentNum k hk
  have hfinal := h.final k hk
  have hmax := h.le_max
  refine ⟨fun i ↦ ?_, rfl, ?_, rfl⟩
  · show Function.update (fun _ ↦ none) (headerOf (segment k)).segmentNum.toNat _ i = _
    rw [hnumber]
    by_cases hi : i = k
    · subst hi
      simp
    · rw [Function.update_of_ne hi]
      simp [hi]
  · show (if (headerOf (segment k)).m = 0 then (headerOf (segment k)).segmentNum + 1
      else 255 : UInt8).toNat = _
    by_cases hm : (headerOf (segment k)).m = 0
    · have hlast := hfinal.mp hm
      have hmem : count - 1 ∈ [k] := by
        rw [List.mem_singleton]
        omega
      rw [if_pos hm, if_pos hmem, succ_toNat (by omega), hnumber, hlast]
    · have hmem : count - 1 ∉ [k] := by
        rw [List.mem_singleton]
        intro heq
        exact hm (hfinal.mpr (by omega))
      rw [if_neg hm, if_neg hmem]
      rfl

/-- A further segment goes to the entry. -/
theorem Collected.addSegment (hmsg : Collected segment count first arrived msg)
    (h : Numbered crc32 checksumEnabled segment count number) (hk : k < count)
    (hroom : arrived.length < count) :
    Collected segment count first (k :: arrived) (msg.addSegment (headerOf (segment k)).segmentNum
      (headerOf (segment k)).m (segment k)) := by
  have hnumber := h.segmentNum k hk
  have hfinal := h.final k hk
  have hmax := h.le_max
  rw [maxSegments] at hmax
  refine ⟨fun i ↦ ?_, ?_, ?_, hmsg.time⟩
  · show Function.update msg.segments (headerOf (segment k)).segmentNum.toNat _ i = _
    rw [hnumber]
    by_cases hi : i = k
    · subst hi
      simp
    · rw [Function.update_of_ne hi, hmsg.segments]
      simp [hi]
  · show (msg.numSegmentsReceived + 1).toNat = _
    rw [UInt8.toNat_add, UInt8.toNat_one, hmsg.received, List.length_cons]
    omega
  · show (if (headerOf (segment k)).m = 0 then (headerOf (segment k)).segmentNum + 1
      else msg.numSegmentsExpected : UInt8).toNat = _
    by_cases hm : (headerOf (segment k)).m = 0
    · have hlast := hfinal.mp hm
      have hmem : count - 1 ∈ k :: arrived := List.mem_cons.mpr (Or.inl (by omega))
      rw [if_pos hm, if_pos hmem, succ_toNat (by rw [hnumber, maxSegments]; omega), hnumber, hlast]
    · have hne : count - 1 ≠ k := fun heq ↦ hm (hfinal.mpr (by omega))
      rw [if_neg hm, hmsg.expected]
      simp [hne]

/-- As long as a segment is missing, the counters differ. -/
theorem Collected.not_complete (hmsg : Collected segment count first arrived msg)
    (hcount : count ≤ maxSegments) (hmissing : arrived.length < count) : ¬ msg.Complete := by
  intro hcomplete
  have hreceived := hmsg.received
  have hexpected := hmsg.expected
  rw [RxMessage.Complete] at hcomplete
  rw [hcomplete] at hreceived
  rw [maxSegments] at hcount
  split_ifs at hexpected
  · omega
  · omega

/-- With all segments there, the counters agree. -/
theorem Collected.complete (hmsg : Collected segment count first arrived msg)
    (hall : arrived.length = count) (hfinal : count - 1 ∈ arrived) : msg.Complete := by
  have hexpected := hmsg.expected
  rw [if_pos hfinal] at hexpected
  apply UInt8.toNat_inj.mp
  rw [hmsg.received, hexpected, hall]

/-- The queue has the arrived segments of the message, and no entry if there are none. -/
def Held (segment : ℕ → List UInt8) (count : ℕ) (number : UInt8) (first : UInt32)
    (arrived : List ℕ) (state : RxState) : Prop :=
  (arrived = [] ∧ state.queue.lookup number = none) ∨
    ∃ msg, state.queue.lookup number = some msg ∧ Collected segment count first arrived msg

/-- The entry after one more segment, the first one included. -/
theorem Held.addSegment (hheld : Held segment count number first arrived state)
    (h : Numbered crc32 checksumEnabled segment count number) (hk : k < count)
    (hroom : arrived.length < count) (hfirst : arrived = [] → time = first) :
    Collected segment count first (k :: arrived)
      (addSegment state.queue time (headerOf (segment k)).sequenceNum
        (headerOf (segment k)).segmentNum (headerOf (segment k)).m (segment k)).1 := by
  have hsequence := h.sequenceNum k hk
  rcases hheld with ⟨rfl, hnone⟩ | ⟨msg, hsome, hmsg⟩
  · rw [← hsequence] at hnone
    rw [addSegment_of_none _ _ _ _ hnone, ← hfirst rfl]
    exact collected_ofSegment h hk
  · rw [← hsequence] at hsome
    rw [addSegment_of_some hsome]
    exact hmsg.addSegment h hk hroom

/-- A segment that is not the last to arrive is stored without a dispatch; the entry is then given
up if it is too old. -/
theorem receive_collected (h : Numbered crc32 checksumEnabled segment count number)
    (hheld : Held segment count number first arrived state) (hk : k < count)
    (hmissing : arrived.length + 1 < count) (hfirst : arrived = [] → time = first)
    (hdatagram : datagram.bytes = segment k) :
    ∃ next, receive crc32 checksumEnabled state (datagram, time) = .ok ([], next) ∧
      if time - first > staleDelta then next.queue.lookup number = none
      else Held segment count number first (k :: arrived) next := by
  have hmsg := hheld.addSegment h hk (by omega) hfirst
  have hlookup := lookup_addSegment state.queue time (headerOf (segment k)).sequenceNum
    (headerOf (segment k)).segmentNum (headerOf (segment k)).m (segment k) number
  rw [if_pos (h.sequenceNum k hk)] at hlookup
  rcases hadd : Reassembly.addSegment state.queue time (headerOf (segment k)).sequenceNum
    (headerOf (segment k)).segmentNum (headerOf (segment k)).m (segment k) with ⟨rxMsg, queue⟩
  rw [hadd] at hmsg hlookup
  have hincomplete : ¬ rxMsg.Complete := hmsg.not_complete h.le_max hmissing
  have haccept := h.accepted k hk datagram hdatagram
  have hadded : Reassembly.addSegment state.queue time (headerOf (segment k)).sequenceNum
      (headerOf (segment k)).segmentNum (headerOf (segment k)).m datagram.bytes = (rxMsg, queue) := by
    rw [hdatagram, hadd]
  refine ⟨_, handleP7Message_eq_ok.mpr (.stored haccept (h.not_isWhole hk) hadded hincomplete), ?_⟩
  have hkept : (removeOldMsgs queue time staleDelta).lookup number =
      if time - first > staleDelta then none else some rxMsg := by
    rw [removeOldMsgs, KeyedList.lookup_filter, hlookup, Option.filter_some]
    show (if (!decide (time - rxMsg.rxHrTime > staleDelta)) = true then some rxMsg else none) = _
    rw [hmsg.time]
    by_cases hlate : time - first > staleDelta
    · simp [hlate]
    · simp [hlate]
  split_ifs with hlate
  · exact hkept.trans (if_pos hlate)
  · exact Or.inr ⟨rxMsg, hkept.trans (if_neg hlate), hmsg⟩

/-- The last segment to arrive completes the message. -/
theorem receive_last (h : Numbered crc32 checksumEnabled segment count number)
    (hheader : ∀ i < count, p7HeaderLength ≤ (segment i).length)
    (hsmall : ((List.range count).flatMap (copied segment)).length < 2 ^ 16)
    (hheld : Held segment count number first arrived state) (hk : k < count)
    (hlast : arrived.length + 1 = count) (hall : ∀ i < count, i ∈ k :: arrived)
    (hfirst : arrived = [] → time = first) (hdatagram : datagram.bytes = segment k) :
    ∃ next, receive crc32 checksumEnabled state (datagram, time) =
      .ok ([⟨(List.range count).flatMap (copied segment), first⟩], next) := by
  have hmsg := hheld.addSegment h hk (by omega) hfirst
  rcases hadd : Reassembly.addSegment state.queue time (headerOf (segment k)).sequenceNum
    (headerOf (segment k)).segmentNum (headerOf (segment k)).m (segment k) with ⟨rxMsg, queue⟩
  rw [hadd] at hmsg
  have hfinal : count - 1 ∈ k :: arrived := hall _ (by omega)
  have hcomplete : rxMsg.Complete := hmsg.complete hlast hfinal
  have hexpected := hmsg.expected
  rw [if_pos hfinal] at hexpected
  have hsegments : ∀ i < count, rxMsg.segments i = some (segment i) := fun i hi ↦ by
    rw [hmsg.segments, if_pos (hall i hi)]
  obtain ⟨buffer, length, hreassemble, hbuffer⟩ :=
    reassemble_eq hexpected h.le_max hsegments hheader hsmall state.reassemblyBuffer
  have haccept := h.accepted k hk datagram hdatagram
  have hadded : Reassembly.addSegment state.queue time (headerOf (segment k)).sequenceNum
      (headerOf (segment k)).segmentNum (headerOf (segment k)).m datagram.bytes = (rxMsg, queue) := by
    rw [hdatagram, hadd]
  have hhandles := Handles.completed haccept (h.not_isWhole hk) hadded hcomplete hreassemble
  rw [hbuffer, hmsg.time] at hhandles
  exact ⟨_, handleP7Message_eq_ok.mpr hhandles⟩

end Steps

/-! ### Runs -/

section Runs

variable {crc32 : UInt32 → List UInt8 → UInt32} {checksumEnabled : Bool}
  {segment : ℕ → List UInt8} {count : ℕ} {number : UInt8} {first : UInt32}

/-- The replies of a run that dispatches one message, at its end. -/
def onlyLast (length : ℕ) (dispatch : Dispatch) : List (List Dispatch) :=
  List.replicate (length - 1) [] ++ [[dispatch]]

theorem onlyLast_succ {length : ℕ} (h : 0 < length) (dispatch : Dispatch) :
    onlyLast (length + 1) dispatch = [] :: onlyLast length dispatch := by
  obtain ⟨rest, rfl⟩ := Nat.exists_eq_succ_of_ne_zero (Nat.pos_iff_ne_zero.mp h)
  rfl

/-- Every arrival but the last finds the entry young enough. -/
def Timely (first : UInt32) (arrivals : List (Datagram × UInt32)) : Prop :=
  ∀ arrival ∈ arrivals.dropLast, ¬ arrival.2 - first > staleDelta

theorem timely_cons {arrival : Datagram × UInt32} {rest : List (Datagram × UInt32)}
    (hne : rest ≠ []) :
    Timely first (arrival :: rest) ↔ ¬ arrival.2 - first > staleDelta ∧ Timely first rest := by
  unfold Timely
  rw [List.dropLast_cons_of_ne_nil hne, List.forall_mem_cons]

theorem Bring.length_eq {arrivals : List (Datagram × UInt32)} {ks : List ℕ}
    (h : Bring segment arrivals ks) : arrivals.length = ks.length := by
  have hlength := congrArg List.length h
  rwa [List.length_map, List.length_map] at hlength

/-- The segments that arrive later and those that have arrived are all of them. -/
theorem length_of_perm {k : ℕ} {ks arrived : List ℕ}
    (h : (k :: ks ++ arrived).Perm (List.range count)) :
    arrived.length + (ks.length + 1) = count := by
  have hcard := h.length_eq
  rw [List.length_append, List.length_range, List.length_cons] at hcard
  omega

/-- If the segments that are missing arrive in time, in any order, the message is dispatched with
the last of them and not before. -/
theorem collect_run (h : Numbered crc32 checksumEnabled segment count number)
    (hheader : ∀ i < count, p7HeaderLength ≤ (segment i).length)
    (hsmall : ((List.range count).flatMap (copied segment)).length < 2 ^ 16)
    {arrivals : List (Datagram × UInt32)} {ks arrived : List ℕ} {state : RxState}
    (hheld : Held segment count number first arrived state) (hne : ks ≠ [])
    (hperm : (ks ++ arrived).Perm (List.range count)) (hbring : Bring segment arrivals ks)
    (hfirst : arrived = [] → ∀ arrival ∈ arrivals.head?, arrival.2 = first)
    (htimely : Timely first arrivals) :
    ∃ final, runAll (receive crc32 checksumEnabled) state arrivals =
      .ok (onlyLast arrivals.length ⟨(List.range count).flatMap (copied segment), first⟩, final) := by
  induction ks generalizing arrivals arrived state with
  | nil => exact absurd rfl hne
  | cons k ks ih =>
    obtain ⟨⟨datagram, time⟩, rest, rfl, hdatagram, hrest⟩ := List.map_eq_cons_iff.mp hbring
    have hlength := length_of_perm hperm
    have hk : k < count :=
      List.mem_range.mp (hperm.subset (List.mem_append_left _ (List.mem_cons_self ..)))
    have htime : arrived = [] → time = first := fun hnil ↦ hfirst hnil (datagram, time) rfl
    cases ks with
    | nil =>
      have hall : ∀ i < count, i ∈ k :: arrived := fun i hi ↦
        hperm.symm.subset (List.mem_range.mpr hi)
      obtain ⟨final, hlast⟩ := receive_last h hheader hsmall hheld hk hlength hall htime hdatagram
      rw [List.map_eq_nil_iff.mp hrest]
      refine ⟨final, ?_⟩
      simp only [runAll, hlast, ok_bind, pure_eq_ok]
      rfl
    | cons k' ks =>
      have hmissing : arrived.length + 1 < count := by
        rw [List.length_cons] at hlength
        omega
      have hrestlength := Bring.length_eq hrest
      have hnonempty : rest ≠ [] := fun hnil ↦ by
        rw [hnil] at hrestlength
        cases hrestlength
      obtain ⟨hyoung, htimely'⟩ := (timely_cons hnonempty).mp htimely
      obtain ⟨next, hreceive, hnext⟩ := receive_collected h hheld hk hmissing htime hdatagram
      rw [if_neg hyoung] at hnext
      have hperm' : (k' :: ks ++ k :: arrived).Perm (List.range count) :=
        List.perm_middle.trans hperm
      obtain ⟨final, hrun⟩ := ih hnext (List.cons_ne_nil _ _) hperm' hrest
        (fun hnil ↦ absurd hnil (List.cons_ne_nil _ _)) htimely'
      refine ⟨final, ?_⟩
      rw [List.length_cons, onlyLast_succ (List.length_pos_of_ne_nil hnonempty)]
      simp only [runAll, hreceive, hrun, ok_bind, pure_eq_ok]

/-! ### Runs that dispatch nothing -/

/-- A segment for the entry under a number that announces no other count than the bound. -/
def IsSegmentOf (crc32 : UInt32 → List UInt8 → UInt32) (checksumEnabled : Bool) (number : UInt8)
    (bound : ℕ) (datagram : Datagram) : Prop :=
  ∃ header, acceptMessage crc32 checksumEnabled datagram = .ok (some header) ∧
    ¬ header.IsWhole ∧ header.sequenceNum = number ∧
    (header.m = 0 → header.segmentNum.toNat + 1 = bound)

/-- The counter of an entry stays below what is expected even if all that is to come is counted. -/
structure OutOfReach (bound remaining : ℕ) (msg : RxMessage) : Prop where
  received : msg.numSegmentsReceived.toNat + remaining < bound
  expected : msg.numSegmentsExpected.toNat = bound ∨ msg.numSegmentsExpected.toNat = 255

/-- The message cannot be completed with what is to come. -/
def Hopeless (number : UInt8) (bound remaining : ℕ) (state : RxState) : Prop :=
  remaining < bound ∧
    ∀ msg, state.queue.lookup number = some msg → OutOfReach bound remaining msg

/-- The entry that gets a segment is still out of reach. -/
theorem Hopeless.addSegment {bound remaining : ℕ} {state : RxState}
    (hstate : Hopeless number bound (remaining + 1) state) {header : SegmentHeader}
    (hnumber : header.sequenceNum = number) (hsmall : header.segmentNum.toNat < maxSegments)
    (hfinal : header.m = 0 → header.segmentNum.toNat + 1 = bound) (time : UInt32)
    (data : List UInt8) :
    OutOfReach bound remaining (addSegment state.queue time header.sequenceNum header.segmentNum
      header.m data).1 := by
  cases hlookup : state.queue.lookup header.sequenceNum with
  | none =>
    rw [addSegment_of_none _ _ _ _ hlookup]
    constructor
    · show 1 + remaining < bound
      have hfew := hstate.1
      omega
    · show (if header.m = 0 then header.segmentNum + 1 else 255 : UInt8).toNat = bound ∨ _
      by_cases hm : header.m = 0
      · rw [if_pos hm, succ_toNat hsmall]
        exact Or.inl (hfinal hm)
      · exact Or.inr (congrArg UInt8.toNat (if_neg hm))
  | some msg =>
    obtain ⟨hreceived, hexpected⟩ := hstate.2 msg (hnumber ▸ hlookup)
    rw [addSegment_of_some hlookup]
    constructor
    · show (msg.numSegmentsReceived + 1).toNat + remaining < bound
      rw [UInt8.toNat_add, UInt8.toNat_one]
      omega
    · show (if header.m = 0 then header.segmentNum + 1 else msg.numSegmentsExpected : UInt8).toNat =
        bound ∨ _
      by_cases hm : header.m = 0
      · rw [if_pos hm, succ_toNat hsmall]
        exact Or.inl (hfinal hm)
      · have hkept : (msg.addSegment header.segmentNum header.m data).numSegmentsExpected =
            msg.numSegmentsExpected := if_neg hm
        rw [if_neg hm, hkept]
        exact hexpected

theorem OutOfReach.not_complete {bound remaining : ℕ} {msg : RxMessage} (hbound : bound ≤ 255)
    (h : OutOfReach bound remaining msg) : ¬ msg.Complete := by
  intro hcomplete
  have hreceived := h.received
  have hexpected := h.expected
  rw [RxMessage.Complete] at hcomplete
  rw [hcomplete] at hreceived
  omega

theorem receive_hopeless {bound remaining : ℕ} {state : RxState} {arrival : Datagram × UInt32}
    (hbound : bound ≤ 255) (hstate : Hopeless number bound (remaining + 1) state)
    (harrival : IsSegmentOf crc32 checksumEnabled number bound arrival.1) :
    ∃ next, receive crc32 checksumEnabled state arrival = .ok ([], next) ∧
      Hopeless number bound remaining next := by
  obtain ⟨header, haccept, hsegment, hnumber, hfinal⟩ := harrival
  have hsmall : header.segmentNum.toNat < maxSegments := by
    rw [(acceptMessage_eq_some haccept).2]
    exact segmentNum_lt _
  have hadded := hstate.addSegment hnumber hsmall hfinal arrival.2 arrival.1.bytes
  have hentry := lookup_addSegment state.queue arrival.2 header.sequenceNum header.segmentNum header.m
    arrival.1.bytes number
  rw [if_pos hnumber] at hentry
  rcases hadd : Reassembly.addSegment state.queue arrival.2 header.sequenceNum header.segmentNum
    header.m arrival.1.bytes with ⟨rxMsg, queue⟩
  rw [hadd] at hadded hentry
  have hfew := hstate.1
  refine ⟨_, handleP7Message_eq_ok.mpr (.stored haccept hsegment hadd
    (hadded.not_complete hbound)), by omega, fun msg hlookup ↦ ?_⟩
  change (removeOldMsgs queue arrival.2 staleDelta).lookup number = some msg at hlookup
  rw [removeOldMsgs, KeyedList.lookup_filter, hentry, Option.filter_eq_some_iff] at hlookup
  rw [← Option.some.inj hlookup.1]
  exact hadded

/-- With fewer segments to come than are missing, nothing is dispatched. -/
theorem hopeless_run (number : UInt8) (bound : ℕ) (hbound : bound ≤ 255) {arrivals : List (Datagram × UInt32)}
    {state : RxState} (hstate : Hopeless number bound arrivals.length state)
    (harrivals : ∀ arrival ∈ arrivals, IsSegmentOf crc32 checksumEnabled number bound arrival.1) :
    ∃ final, runAll (receive crc32 checksumEnabled) state arrivals =
      .ok (List.replicate arrivals.length [], final) := by
  induction arrivals generalizing state with
  | nil => exact ⟨state, rfl⟩
  | cons arrival rest ih =>
    obtain ⟨next, hreceive, hnext⟩ :=
      receive_hopeless hbound hstate (harrivals arrival (List.mem_cons_self ..))
    obtain ⟨final, hrun⟩ := ih hnext fun other hmem ↦ harrivals other (List.mem_cons_of_mem _ hmem)
    refine ⟨final, ?_⟩
    simp only [runAll, hreceive, hrun, ok_bind, pure_eq_ok]
    rfl

theorem Numbered.isSegmentOf (h : Numbered crc32 checksumEnabled segment count number) {k : ℕ}
    (hk : k < count) {datagram : Datagram} (hdatagram : datagram.bytes = segment k) :
    IsSegmentOf crc32 checksumEnabled number count datagram := by
  refine ⟨_, h.accepted k hk datagram hdatagram, h.not_isWhole hk, h.sequenceNum k hk, fun hm ↦ ?_⟩
  rw [h.segmentNum k hk]
  exact (h.final k hk).mp hm

/-- If a segment other than the last arrives too late for the entry, nothing is dispatched. -/
theorem late_run (h : Numbered crc32 checksumEnabled segment count number)
    {arrivals : List (Datagram × UInt32)} {ks arrived : List ℕ} {state : RxState}
    (hheld : Held segment count number first arrived state)
    (hperm : (ks ++ arrived).Perm (List.range count)) (hbring : Bring segment arrivals ks)
    (hfirst : arrived = [] → ∀ arrival ∈ arrivals.head?, arrival.2 = first)
    (hlate : ¬ Timely first arrivals) :
    ∃ final, runAll (receive crc32 checksumEnabled) state arrivals =
      .ok (List.replicate arrivals.length [], final) := by
  induction ks generalizing arrivals arrived state with
  | nil =>
    rw [List.map_eq_nil_iff.mp hbring] at hlate
    exact absurd (fun arrival hmem ↦ absurd hmem List.not_mem_nil) hlate
  | cons k ks ih =>
    obtain ⟨⟨datagram, time⟩, rest, rfl, hdatagram, hrest⟩ := List.map_eq_cons_iff.mp hbring
    have hrestlength := Bring.length_eq hrest
    have hlength := length_of_perm hperm
    have hks : ∀ i ∈ k :: ks, i < count := fun i hi ↦
      List.mem_range.mp (hperm.subset (List.mem_append_left _ hi))
    have htime : arrived = [] → time = first := fun hnil ↦ hfirst hnil (datagram, time) rfl
    have hnonempty : rest ≠ [] := by
      rintro rfl
      exact hlate fun arrival hmem ↦ absurd hmem List.not_mem_nil
    have hmissing : arrived.length + 1 < count := by
      have hpos := List.length_pos_of_ne_nil hnonempty
      omega
    obtain ⟨next, hreceive, hnext⟩ := receive_collected h hheld (hks k (List.mem_cons_self ..))
      hmissing htime hdatagram
    have hrun : ∃ final, runAll (receive crc32 checksumEnabled) next rest =
        .ok (List.replicate rest.length [], final) := by
      by_cases hold : time - first > staleDelta
      · -- the entry is given up, and the rest is too little for a new one
        rw [if_pos hold] at hnext
        have hmax := h.le_max
        rw [maxSegments] at hmax
        refine hopeless_run number count (by omega)
          ⟨by omega, fun msg hsome ↦ ?_⟩ fun arrival hmem ↦ ?_
        · rw [hnext] at hsome
          cases hsome
        · have hbytes : arrival.1.bytes ∈ ks.map segment :=
            hrest ▸ List.mem_map_of_mem (f := fun arrival ↦ arrival.1.bytes) hmem
          obtain ⟨i, hi, hsegment⟩ := List.mem_map.mp hbytes
          exact h.isSegmentOf (hks i (List.mem_cons_of_mem _ hi)) hsegment.symm
      · rw [if_neg hold] at hnext
        have hperm' : (ks ++ k :: arrived).Perm (List.range count) := List.perm_middle.trans hperm
        refine ih hnext hperm' hrest (fun hnil ↦ absurd hnil (List.cons_ne_nil _ _)) ?_
        intro htimely
        exact hlate ((timely_cons hnonempty).mpr ⟨hold, htimely⟩)
    obtain ⟨final, hrun⟩ := hrun
    refine ⟨final, ?_⟩
    simp only [runAll, hreceive, hrun, ok_bind, pure_eq_ok]
    rfl

end Runs

end MultiUeProxy.Segmentation.Collection
