import MultiUeProxy.Segmentation.Parcels

/-!
# The receiver of the VNF

`vnf_handle_p7_message` and `vnf_nr_handle_p7_message` differ only in the function they dispatch a
message to, so one definition stands for both. There is a reassembly queue for every connection, and
a segment goes to that of the PHY in its header. Other than the receiver of `pnf_p7.c`, this one
reads the clock again before it removes old entries, and it removes them only from the queue that
got a segment.

So the connections do not disturb one another: `receive_gathers` says that a datagram changes the
piles as `gather` does, where it gives up piles of its own PHY only.
-/

set_option autoImplicit false
set_option relaxedAutoImplicit false

namespace MultiUeProxy.Segmentation.VnfReceiver

open Lib.Execution Lib.ByteCursor Lib.ByteWriter Lib.Gathering P7.Header Reassembly Collection
  Parcels

/-! ### The connections -/

/-- What the receiver and the sender use of `nfapi_vnf_p7_connection_info_t`. -/
structure Connection where
  phyId : ℤ
  rx : RxState
  sequenceNumber : UInt32 := 0

/-- `vnf_p7_connection_info_list_find`. -/
def find (connections : List Connection) (phyId : UInt16) : Option Connection :=
  connections.find? fun connection ↦ connection.phyId = phyId.toNat

/-- The connections when the one that is found for a PHY has been changed. -/
def update (phyId : UInt16) (change : Connection → Connection) : List Connection → List Connection
  | [] => []
  | connection :: rest =>
    if connection.phyId = phyId.toNat then change connection :: rest
    else connection :: update phyId change rest

theorem find_cons (connection : Connection) (rest : List Connection) (phyId : UInt16) :
    find (connection :: rest) phyId =
      if connection.phyId = phyId.toNat then some connection else find rest phyId := by
  by_cases hphy : connection.phyId = phyId.toNat
  · rw [if_pos hphy, find, List.find?_cons_of_pos (by simpa using hphy)]
  · rw [if_neg hphy, find, List.find?_cons_of_neg (by simpa using hphy), find]

/-- The connection of the PHY is the changed one, and the others are found as they were. -/
theorem find_update (phyId other : UInt16) (change : Connection → Connection)
    (hchange : ∀ connection, (change connection).phyId = connection.phyId)
    (connections : List Connection) : find (update phyId change connections) other =
      if other = phyId then (find connections phyId).map change else find connections other := by
  induction connections with
  | nil =>
    show none = if other = phyId then none else none
    rw [ite_self]
  | cons connection rest ih =>
    rw [update]
    by_cases hphy : connection.phyId = phyId.toNat
    · rw [if_pos hphy, find_cons, find_cons, find_cons, if_pos hphy, hchange]
      by_cases hother : other = phyId
      · rw [if_pos hother, if_pos (hother ▸ hphy)]
        rfl
      · have hne : connection.phyId ≠ other.toNat := by
          rw [hphy]
          intro heq
          exact hother (UInt16.toNat_inj.mp (Int.ofNat_inj.mp heq)).symm
        rw [if_neg hother, if_neg hne, if_neg hne]
    · rw [if_neg hphy, find_cons, ih, find_cons, find_cons, if_neg hphy]
      by_cases hother : other = phyId
      · rw [if_pos hother, if_pos hother, hother, if_neg hphy]
      · rw [if_neg hother, if_neg hother]

/-! ### The handler -/

/-- The first half of the handler: the header of a message that has one and whose checksum is
right. -/
def acceptHeader (crc32 : UInt32 → List UInt8 → UInt32) (checksumEnabled : Bool) (msg : Datagram) :
    Outcome (Option P7MessageHeader) := do
  if msg.bytes.length < 4 then return none
  match ← p7MessageHeaderUnpack (memoryOf msg.bytes) msg.bytes.length with
  | none => return none
  | some header =>
    if checksumEnabled ∧ calculateChecksum crc32 msg.bytes ≠ header.checksum then return none
    else return some header

/-- The readings of the clock while a segment is handled: when an entry is opened for it, and when
the old entries are removed. -/
structure Readings where
  addTime : UInt32
  removeTime : UInt32

/-- `vnf_handle_p7_message` and `vnf_nr_handle_p7_message`: the messages that are dispatched, and
the connections. -/
def handleP7Message (crc32 : UInt32 → List UInt8 → UInt32) (checksumEnabled : Bool)
    (connections : List Connection) (msg : Datagram) (clock : Readings) :
    Outcome (List (List UInt8) × List Connection) := do
  match ← acceptHeader crc32 checksumEnabled msg with
  | none => return ([], connections)
  | some header =>
    let segment := SegmentHeader.ofWord header.mSegmentSequence
    if segment.IsWhole then
      if msg.bytes.length < 8 then return ([], connections)
      else return ([msg.bytes], connections)
    else
      match find connections header.phyId with
      | none => return ([], connections)
      | some connection => do
        let (dispatched, rx) ← handleSegment connection.rx segment msg.bytes clock.addTime
          clock.removeTime
        return (dispatched.map Dispatch.message,
          update header.phyId (fun connection ↦ { connection with rx }) connections)

/-- The handler as a machine. -/
def receive (crc32 : UInt32 → List UInt8 → UInt32) (checksumEnabled : Bool)
    (connections : List Connection) (arrival : Datagram × Readings) :
    Outcome (List (List UInt8) × List Connection) :=
  handleP7Message crc32 checksumEnabled connections arrival.1 arrival.2

/-- The PHY in the header of a datagram. -/
def phyIdOf (bytes : List UInt8) : UInt16 := Pull.word16 (memoryOf bytes) 0

theorem pullHeader_phyId {limit : ℕ} {mem : Memory} {last : ℕ} {header : P7MessageHeader}
    (h : pullHeader limit mem 0 = .ok (header, last)) : header.phyId = Pull.word16 mem 0 := by
  obtain ⟨phyId, next, hphy, hrest⟩ := Pull.bind_eq_ok.mp h
  obtain ⟨-, rfl, -⟩ := Pull.pull16_eq_ok hphy
  obtain ⟨messageId, next, -, hrest⟩ := Pull.bind_eq_ok.mp hrest
  obtain ⟨messageLength, next, -, hrest⟩ := Pull.bind_eq_ok.mp hrest
  obtain ⟨segment, next, -, hrest⟩ := Pull.bind_eq_ok.mp hrest
  obtain ⟨checksum, next, -, hrest⟩ := Pull.bind_eq_ok.mp hrest
  obtain ⟨timestamp, next, -, hpure⟩ := Pull.bind_eq_ok.mp hrest
  cases hpure
  rfl

section Accept

variable {crc32 : UInt32 → List UInt8 → UInt32} {checksumEnabled : Bool} {msg : Datagram}

/-- A datagram that the receiver of `pnf_p7.c` accepts is accepted here, with the same word. -/
theorem acceptHeader_of_acceptMessage {segment : SegmentHeader}
    (h : acceptMessage crc32 checksumEnabled msg = .ok (some segment)) :
    ∃ header, acceptHeader crc32 checksumEnabled msg = .ok (some header) ∧
      segment = .ofWord header.mSegmentSequence ∧ header.phyId = phyIdOf msg.bytes := by
  rw [acceptMessage] at h
  rw [acceptHeader]
  split_ifs at h with hshort
  · cases h
  · rw [if_neg hshort]
    obtain ⟨unpacked, hunpack, hrest⟩ := bind_eq_ok.mp h
    rw [hunpack, ok_bind]
    cases unpacked with
    | none => cases hrest
    | some header =>
      have hphy : header.phyId = phyIdOf msg.bytes := by
        rw [p7MessageHeaderUnpack] at hunpack
        split_ifs at hunpack with hroom
        · cases hunpack
        · obtain ⟨last, hpull⟩ := Pull.run_eq_some.mp hunpack
          exact pullHeader_phyId hpull
      simp only at hrest ⊢
      split_ifs at hrest ⊢ with hchecksum
      · cases hrest
      · cases hrest
        exact ⟨header, rfl, rfl, hphy⟩

end Accept

/-! ### Handling and gathering -/

section Gathers

variable {crc32 : UInt32 → List UInt8 → UInt32} {checksumEnabled : Bool} {ι : Type}
  {parcel : ι → Parcel crc32 checksumEnabled} {sent : ι → List (List UInt8)} {phy : ι → UInt16}
  {connections : List Connection} {piles : ι → Option (Pile UInt32)} {past : List (ι × ℕ)}

/-- A delivery to this receiver as an arrival: a segment gives up the entries of its PHY that are
too old, and a datagram that is a message of its own gives up none. -/
def atVnf (phy : ι → UInt16) (d : Delivery sent Readings) : Arrival ι UInt32 where
  parcel := d.index
  part := d.part
  time := d.time.addTime
  givesUp := fun i opened ↦ decide (1 < (sent d.index).length ∧ phy i = phy d.index ∧
    d.time.removeTime - opened > staleDelta)

/-- No entry is given up while a datagram is handled within the time limit of each of those before
it. -/
theorem kept_of_prompt [DecidableEq ι] (phy : ι → UInt16) (i : ι)
    {deliveries : List (Delivery sent Readings)}
    (hself : ∀ d ∈ deliveries, d.time.removeTime - d.time.addTime ≤ staleDelta)
    (hprompt : deliveries.Pairwise fun d e ↦ e.time.removeTime - d.time.addTime ≤ staleDelta) :
    Kept i none (deliveries.map (atVnf phy)) := by
  have hkeeps : ∀ d e : Delivery sent Readings,
      e.time.removeTime - d.time.addTime ≤ staleDelta →
        (atVnf phy e).givesUp i (atVnf phy d).time = false := by
    intro d e hyoung
    apply decide_eq_false
    rintro ⟨-, -, hold⟩
    exact absurd hold (UInt32.not_lt.mpr hyoung)
  apply kept_of_pairwise
  · rintro time ⟨⟩
  · intro a ha
    obtain ⟨d, hd, rfl⟩ := List.mem_map.mp ha
    exact hkeeps d d (hself d hd)
  · rw [List.pairwise_map]
    exact hprompt.imp fun {d e} hyoung ↦ hkeeps d e hyoung

/-- Every message that was cut has a connection, and the queues show the piles of their PHYs. -/
structure Represents (parcel : ι → Parcel crc32 checksumEnabled) (phy : ι → UInt16)
    (connections : List Connection) (piles : ι → Option (Pile UInt32)) : Prop where
  known : ∀ i c, parcel i = .cut c → ∃ connection, find connections (phy i) = some connection
  shows : ∀ phyId connection, find connections phyId = some connection →
    ShowsAll parcel (fun i ↦ phy i = phyId) connection.rx.queue piles

/-- Piles of no parcel that uses a queue may change. -/
theorem showsAll_congr {Here : ι → Prop} {queue : ReassemblyQueue} {next : ι → Option (Pile UInt32)}
    (h : ShowsAll parcel Here queue piles)
    (hnext : ∀ i c, Here i → parcel i = .cut c → next i = piles i) :
    ShowsAll parcel Here queue next where
  shows i c hi hc := by
    rw [hnext i c hi hc]
    exact h.shows i c hi hc
  distinct := h.distinct

theorem expire_of_keeps {a : Arrival ι UInt32} {i : ι}
    (h : ∀ opened, a.givesUp i opened = false) : expire a piles i = piles i := by
  rw [expire]
  cases hpile : piles i with
  | none => rfl
  | some pile => rw [Option.filter_some, h]; rfl

variable [DecidableEq ι]

/-- A delivery is handled as it is gathered. -/
theorem receive_gathers (hsent : ∀ i, (parcel i).Sends (sent i))
    (hphy : ∀ i k, k < (parcel i).count → phyIdOf ((parcel i).datagram k) = phy i)
    (d : Delivery sent Readings) (h : Represents parcel phy connections piles)
    (hsound : Sound (fun i ↦ (sent i).length) past piles) (hnew : d.label ∉ past) :
    ∃ dispatched next, receive crc32 checksumEnabled connections (d.datagram, d.time) =
        .ok (dispatched, next) ∧
      dispatched = (gather (fun i ↦ (sent i).length) piles (atVnf phy d)).1.toList.map
        (fun i ↦ (parcel i).message) ∧
      Represents parcel phy next (gather (fun i ↦ (sent i).length) piles (atVnf phy d)).2 := by
  have hcount : (fun i ↦ (sent i).length) = fun i ↦ (parcel i).count := by
    funext i
    exact (hsent i).length_eq
  rw [hcount] at hsound ⊢
  obtain ⟨hpart, hbytes⟩ := (hsent d.index).getElem?_eq d.bytes_eq
  have hlength := (hsent d.index).length_eq
  have hphyId : phyIdOf d.datagram.bytes = phy d.index := by
    rw [hbytes]
    exact hphy d.index d.part hpart
  cases hform : parcel d.index with
  | single s =>
    rw [hform] at hbytes hlength
    change (sent d.index).length = 1 at hlength
    obtain ⟨segment, haccept, hwhole⟩ := s.accepted d.datagram hbytes
    have hlong := (acceptMessage_eq_some haccept).1
    obtain ⟨header, hheader, rfl, -⟩ := acceptHeader_of_acceptMessage haccept
    have hkeeps : ∀ i opened, (atVnf phy d).givesUp i opened = false := by
      intro i opened
      apply decide_eq_false
      rintro ⟨hcut, -⟩
      omega
    rw [gather_single (a := atVnf phy d) hform hsound]
    refine ⟨[d.datagram.bytes], connections, ?_, ?_, h.known, fun phyId connection hfind ↦ ?_⟩
    · have hroom : ¬ d.datagram.bytes.length < 8 := by
        rw [p7HeaderLength] at hlong
        omega
      simp only [receive, handleP7Message, hheader, ok_bind, if_pos hwhole, if_neg hroom,
        pure_eq_ok]
    · show [d.datagram.bytes] = [(parcel d.index).message]
      rw [hform, hbytes]
      rfl
    · refine showsAll_congr ((h.shows phyId connection hfind).update_single hform none)
        fun i c _ _ ↦ ?_
      exact expire_of_keeps (hkeeps i)
  | cut c =>
    rw [hform] at hbytes hpart hlength
    change d.datagram.bytes = c.segment d.part at hbytes
    change (sent d.index).length = c.count at hlength
    have htwo := c.numbered.two_le
    have haccept := c.numbered.accepted d.part hpart d.datagram hbytes
    obtain ⟨header, hheader, hword, hheaderPhy⟩ := acceptHeader_of_acceptMessage haccept
    rw [hphyId] at hheaderPhy
    obtain ⟨connection, hfind⟩ := h.known d.index c hform
    have hgives : ∀ i opened, phy i = phy d.index →
        (atVnf phy d).givesUp i opened = decide (d.time.removeTime - opened > staleDelta) := by
      intro i opened hi
      apply decide_eq_decide.mpr
      exact ⟨fun hall ↦ hall.2.2, fun hold ↦ ⟨by omega, hi, hold⟩⟩
    obtain ⟨dispatched, next, hhandle, hmessages, hshows⟩ := handleSegment_gathers
      (a := atVnf phy d) (h.shows _ connection hfind) rfl hform hpart hnew hsound hgives
    have hupdated : ∀ other, find (update (phy d.index)
        (fun connection ↦ { connection with rx := next }) connections) other =
          if other = phy d.index then (find connections (phy d.index)).map
            fun connection ↦ { connection with rx := next }
          else find connections other := fun other ↦
        find_update _ _ (fun connection ↦ { connection with rx := next }) (fun _ ↦ rfl) _
    refine ⟨dispatched.map Dispatch.message, update (phy d.index)
      (fun connection ↦ { connection with rx := next }) connections, ?_, hmessages,
      fun i e he ↦ ?_, fun phyId other hother ↦ ?_⟩
    · have hsegment : ¬ (SegmentHeader.ofWord header.mSegmentSequence).IsWhole := by
        rw [← hword]
        exact c.numbered.not_isWhole hpart
      have hrun : handleSegment connection.rx (SegmentHeader.ofWord header.mSegmentSequence)
          d.datagram.bytes d.time.addTime d.time.removeTime = .ok (dispatched, next) := by
        rw [← hword, hbytes]
        exact hhandle
      simp only [receive, handleP7Message, hheader, ok_bind, if_neg hsegment, hheaderPhy, hfind,
        hrun, pure_eq_ok]
    · obtain ⟨old, hold⟩ := h.known i e he
      rw [hupdated]
      by_cases hi : phy i = phy d.index
      · rw [if_pos hi, hfind]
        exact ⟨_, rfl⟩
      · rw [if_neg hi]
        exact ⟨old, hold⟩
    · rw [hupdated] at hother
      by_cases hi : phyId = phy d.index
      · rw [if_pos hi, hfind] at hother
        cases hother
        rw [hi]
        exact hshows
      · rw [if_neg hi] at hother
        refine showsAll_congr (h.shows phyId other hother) fun i e hhere _ ↦ ?_
        have hne : i ≠ d.index := by
          rintro rfl
          exact hi hhere.symm
        rw [gather_of_ne (a := atVnf phy d) hne]
        refine expire_of_keeps fun opened ↦ ?_
        apply decide_eq_false
        rintro ⟨-, hsame, -⟩
        exact hi (hhere.symm.trans hsame)

end Gathers

end MultiUeProxy.Segmentation.VnfReceiver
