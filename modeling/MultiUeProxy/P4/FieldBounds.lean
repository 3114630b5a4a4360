import MultiUeProxy.Lib.FillLogic
import MultiUeProxy.P4.Messages

/-!
# The counts in the fields of P4 messages

What the decoders of the tagged fields do with bytes that nobody has packed. They compare the number
of elements of a list with the size of its array before the first one is stored, also where the
elements have lists of their own (`P4Field.keeps`). One does not: the decoder of an NB-IoT system
information request stores the SI indexes of a periodicity as many as the message says
(`siPeriodicitySpan`). For the fields of system information requests, a span says how many bytes the
decoder takes for them, and whether it writes outside of an array.
-/

set_option autoImplicit false
set_option relaxedAutoImplicit false

namespace MultiUeProxy.P4

open Lib.Execution Lib.ByteCursor Lib.ByteWriter Lib.TlvCodec Lib.InPlace Lib.TaggedParts
  Lib.TlvRecord Lib.TlvChoice Lib.FieldWalk Lib.FillLogic
open Lib.ByteCursor.Pull (Tl)

/-! ### Counts -/

/-- Every count in the value of a field is at most the declared length of its list. -/
def P4Field.Bounded : (name : P4Field) → name.Value → Prop
  | lteRssiRequest, value => value.numberOfEarfcns.toNat ≤ maxCarrierList
  | utranRssiRequest, value => value.numberOfUarfcns.toNat ≤ maxCarrierList
  | geranRssiRequest, value => CountsWithin geranRssiRequestShape (fun _ ↦ True) value
  | nbIotRssiRequest, value =>
    CountsWithin nbIotRssiRequestShape (CountsWithin earfcnShape fun _ ↦ True) value
  | rssiIndication, value => value.numberOfRssi.toNat ≤ maxRssi
  | lteCellSearchRequest, value => value.numberOfPci.toNat ≤ maxPciList
  | utranCellSearchRequest, value => value.numberOfPsc.toNat ≤ maxPscList
  | geranCellSearchRequest, value => value.numberOfArfcn.toNat ≤ maxArfcnList
  | nbIotCellSearchRequest, value => value.numberOfPci.toNat ≤ maxPciList
  | lteCellSearchIndication, value =>
    CountsWithin (cellSearchIndicationShape FoundCell maxLteCellsFound) (fun _ ↦ True) value
  | utranCellSearchIndication, value =>
    CountsWithin (cellSearchIndicationShape FoundCell maxUtranCellsFound) (fun _ ↦ True) value
  | geranCellSearchIndication, value =>
    CountsWithin (cellSearchIndicationShape GsmFoundCell maxGsmCellsFound) (fun _ ↦ True) value
  | nbIotCellSearchIndication, value =>
    CountsWithin (cellSearchIndicationShape FoundCell maxNbIotCellsFound) (fun _ ↦ True) value
  | pnfCellSearchState, value | pnfCellBroadcastState, value =>
    value.length.toNat ≤ maxOpaqueData
  | lteBroadcastDetectIndication, value | nbIotBroadcastDetectIndication, value =>
    value.mibLength.toNat ≤ maxMibLength
  | utranBroadcastDetectIndication, value => value.mibLength.toNat ≤ maxMibLength
  | lteSystemInformationRequest, value =>
    CountsWithin lteSystemInformationRequestShape (fun _ ↦ True) value
  | nbIotSystemInformationRequest, value =>
    CountsWithin nbIotSystemInformationRequestShape
      (CountsWithin nbIotSiPeriodicityShape fun _ ↦ True) value
  | lteSystemInformationIndication, value | nbIotSystemInformationIndication, value =>
    value.sibLength.toNat ≤ maxSibLength
  | utranSystemInformationIndication, value => value.sibLength.toNat ≤ maxSibLength
  | geranSystemInformationIndication, value => value.sibLength.toNat ≤ maxSiLength
  | lteBroadcastDetectRequest, _ | utranBroadcastDetectRequest, _ | nbIotBroadcastDetectRequest, _
  | lteSystemInformationScheduleRequest, _ | nbIotSystemInformationScheduleRequest, _
  | utranSystemInformationRequest, _ | geranSystemInformationRequest, _ => True

theorem P4Field.bounded_default (name : P4Field) : name.Bounded default := by
  have hnone {α : Type} {P : α → Prop} : ∀ item ∈ ([] : List α), P item :=
    fun _ h ↦ absurd h List.not_mem_nil
  cases name with
  | geranRssiRequest => exact ⟨Nat.zero_le _, hnone⟩
  | nbIotRssiRequest => exact ⟨Nat.zero_le _, hnone⟩
  | lteCellSearchIndication => exact ⟨Nat.zero_le _, hnone⟩
  | utranCellSearchIndication => exact ⟨Nat.zero_le _, hnone⟩
  | geranCellSearchIndication => exact ⟨Nat.zero_le _, hnone⟩
  | nbIotCellSearchIndication => exact ⟨Nat.zero_le _, hnone⟩
  | lteSystemInformationRequest => exact ⟨Nat.zero_le _, hnone⟩
  | nbIotSystemInformationRequest => exact ⟨Nat.zero_le _, hnone⟩
  | lteBroadcastDetectRequest => trivial
  | utranBroadcastDetectRequest => trivial
  | nbIotBroadcastDetectRequest => trivial
  | lteSystemInformationScheduleRequest => trivial
  | nbIotSystemInformationScheduleRequest => trivial
  | utranSystemInformationRequest => trivial
  | geranSystemInformationRequest => trivial
  | _ => exact Nat.zero_le _

/-! ### Decoders that compare their counts -/

section Decoders

variable {mem : Memory} {limit : ℕ}

theorem keeps_geranRssiRequest (hsize : limit ≤ mem.size) :
    Keeps mem limit (P4Field.Bounded .geranRssiRequest) (P4.geranRssiRequest.fill limit) := by
  apply keeps_checked hsize rfl (fun _ _ ↦ rfl) trivial
  · exact keeps_fillSteps hsize fun _ _ _ ↦ by simp [ensures, ensuresStep, unpackArfcn]
  · intro value pos _
    simp [ensures, ensuresStep, geranRssiRequestShape]
  · exact fun _ _ h ↦ h

/-- Both numbers are compared: that of the carriers, and that of the offsets of each. -/
theorem keeps_nbIotRssiRequest (hsize : limit ≤ mem.size) :
    Keeps mem limit (P4Field.Bounded .nbIotRssiRequest) (P4.nbIotRssiRequest.fill limit) := by
  apply keeps_checked hsize rfl (fun _ _ ↦ rfl)
  · exact ⟨Nat.zero_le _, fun _ _ ↦ trivial⟩
  · apply keeps_checked hsize rfl (fun _ _ ↦ rfl) trivial
    · exact keeps_fillSteps hsize fun _ _ _ ↦ by simp [ensures, ensuresStep]
    · intro value pos _
      simp [ensures, ensuresStep, earfcnShape]
    · exact fun _ _ h ↦ h
  · intro value pos h
    simpa [ensures, ensuresStep, nbIotRssiRequestShape] using fun _ _ _ _ ↦ h
  · exact fun _ _ h ↦ h

/-! ### Spans -/

/-- An NB-IoT periodicity: its SI indexes are behind their number, and the ninth is stored outside
of their array. -/
def siPeriodicitySpan (mem : Memory) (limit pos : ℕ) : Span :=
  (Span.bytes limit 4 pos).andThen fun next ↦
    if (mem.byte (pos + 3)).toNat ≤ maxSiIndex then
      Span.bytes limit (mem.byte (pos + 3)).toNat next
    else (Span.bytes limit (maxSiIndex + 1) next).andThen fun _ ↦ .overruns

theorem forward_siPeriodicitySpan (mem : Memory) (limit : ℕ) :
    Span.Forward (siPeriodicitySpan mem limit) := by
  apply (Span.forward_bytes limit 4).andThen
  intro pos next last h
  split_ifs at h
  · exact Span.forward_bytes limit _ next last h
  · have hoverruns : ∀ _ : ℕ, Span.Forward fun _ ↦ .overruns := fun _ _ _ h ↦ by cases h
    exact (Span.forward_bytes limit (maxSiIndex + 1)).andThen hoverruns next last h

theorem spans_byteItem (hsize : limit ≤ mem.size) :
    Spans mem limit (fun _ ↦ True) (Span.bytes limit 1) (byteItem.fill limit) := by
  apply spans_fillSteps hsize
  intro stops value pos hshort _
  exact ⟨fun _ ↦ ⟨trivial, rfl⟩, hshort⟩

/-- So many bytes and then something. -/
theorem moves_byteItem (hsize : limit ≤ mem.size) (f : ℕ → Span) (result : Span) (remaining : ℕ) :
    Moves mem limit (result = .stops) (result = .overruns) (fun _ ↦ True) (byteItem.fill limit)
      (fun pos ↦ (Span.bytes limit (remaining + 1) pos).andThen f = result)
      fun pos ↦ (Span.bytes limit remaining pos).andThen f = result := by
  have hmoves := @Spans.moves UInt8 mem limit _ _ _
    (fun next ↦ (Span.bytes limit remaining next).andThen f) result (spans_byteItem hsize)
  apply hmoves.consequence
  · rintro value pos - ⟨-, hspan⟩
    refine ⟨trivial, ?_⟩
    dsimp only
    rw [← Span.andThen_assoc, Span.bytes_andThen, Nat.add_comm 1]
    exact hspan
  · exact fun _ _ _ h ↦ h

/-- The bytes of some elements, if so many more and then something follow. -/
theorem runs_siIndexes (hsize : limit ≤ mem.size) (f : ℕ → Span) (result : Span)
    (start : NbIotSiPeriodicity) {count : ℕ} (more : ℕ) (hcount : count ≤ maxSiIndex) :
    Runs mem limit (result = .stops) (result = .overruns)
      (fun value pos ↦ value.numberOfSiIndex = start.numberOfSiIndex ∧
        (Span.bytes limit (count + more) pos).andThen f = result)
      (.loop (.element maxSiIndex nbIotSiPeriodicityShape.place.get nbIotSiPeriodicityShape.place.put
        default (byteItem.fill limit)) count 0)
      fun value pos ↦ value.numberOfSiIndex = start.numberOfSiIndex ∧
        (Span.bytes limit more pos).andThen f = result := by
  have hlist := @runs_elements NbIotSiPeriodicity UInt8 mem limit maxSiIndex
    (result = .stops) (result = .overruns) (byteItem.fill limit) nbIotSiPeriodicityShape.place
    default (fun _ ↦ True) (fun value ↦ value.numberOfSiIndex = start.numberOfSiIndex)
    (fun remaining pos ↦ (Span.bytes limit (remaining + more) pos).andThen f = result) count 0
    (by rwa [Nat.zero_add]) (fun remaining ↦ by
      rw [Nat.add_right_comm]
      exact moves_byteItem hsize f result (remaining + more)) trivial fun _ _ h ↦ h
  apply hlist.consequence
  · rintro value pos - ⟨hsame, hspan⟩
    exact ⟨⟨hsame, fun _ _ ↦ trivial⟩, hspan⟩
  · rintro value pos - ⟨⟨hsame, -⟩, hspan⟩
    rw [Nat.zero_add] at hspan
    exact ⟨hsame, hspan⟩

theorem runs_ninth (hsize : limit ≤ mem.size) (result : Span) (Q : Assertion NbIotSiPeriodicity) :
    Runs mem limit (result = .stops) (result = .overruns)
      (fun _ pos ↦ (Span.bytes limit 1 pos).andThen (fun _ ↦ .overruns) = result)
      (.outside default (byteItem.fill limit)) Q := by
  rintro value pos hpos rfl
  unfold Fill.outside
  by_cases hroom : pos + 1 ≤ limit
  · have hbyte : byteItem.fill limit mem default pos = .ok (true, mem.byte pos, pos + 1) := by
      show (Fill.pull (.pull8 limit) _).andThen .done mem _ pos = _
      unfold Fill.andThen Fill.pull Fill.pulled
      rw [pull8_of_room hsize hroom]
      rfl
    rw [hbyte]
    dsimp only
    rw [if_neg (Nat.succ_ne_self pos)]
    refine .fault ?_
    rw [Span.bytes, if_pos hroom]
    rfl
  · have hbyte : byteItem.fill limit mem default pos = .ok (false, default, pos) := by
      show (Fill.pull (.pull8 limit) _).andThen .done mem _ pos = _
      unfold Fill.andThen Fill.pull Fill.pulled
      rw [pull8_of_no_room hroom]
    rw [hbyte]
    dsimp only
    rw [if_pos rfl]
    refine .stop value pos ?_
    rw [Span.bytes, if_neg hroom]
    rfl

theorem spans_nbIotSiPeriodicity (hsize : limit ≤ mem.size) :
    Spans mem limit (CountsWithin nbIotSiPeriodicityShape fun _ ↦ True)
      (siPeriodicitySpan mem limit) (P4.nbIotSiPeriodicity.fill limit) := by
  intro result
  apply @runs_shape NbIotSiPeriodicity mem limit (result = .stops) (result = .overruns) _ _ UInt8 _
    nbIotSiPeriodicityShape byteItem.fill
    (fun value pos ↦ (value.numberOfSiIndex.toNat ≤ maxSiIndex →
        (Span.bytes limit value.numberOfSiIndex.toNat pos).andThen .ends = result) ∧
      (¬ value.numberOfSiIndex.toNat ≤ maxSiIndex →
        (Span.bytes limit (maxSiIndex + 1) pos).andThen (fun _ ↦ .overruns) = result))
    (fun value pos ↦ value.numberOfSiIndex.toNat ≤ maxSiIndex ∧ .ends pos = result) hsize
  · rintro value pos hpos ⟨-, hspan⟩
    unfold siPeriodicitySpan at hspan
    have hshort : ∀ size ≤ 4, ¬ pos + size ≤ limit → result = .stops := by
      intro size hless hroom
      rw [← hspan, Span.bytes, if_neg (by omega)]
      rfl
    refine ⟨fun _ ↦ ⟨fun _ ↦ ⟨fun _ ↦ ⟨fun hroom ↦ ?_, hshort 4 (by decide)⟩,
      hshort 3 (by decide)⟩, hshort 2 (by decide)⟩, hshort 1 (by decide)⟩
    have hfour : pos + 4 ≤ limit := hroom
    rw [Span.bytes, if_pos hfour] at hspan
    constructor
    · intro hmax
      rw [← hspan, Span.andThen_ends]
      exact (if_pos hmax).symm
    · intro hlong
      rw [← hspan]
      exact (if_neg hlong).symm
  · intro start
    show Runs mem limit _ _ _ (.listElements false maxSiIndex start.numberOfSiIndex.toNat
      nbIotSiPeriodicityShape.place default (byteItem.fill limit)) _
    unfold Fill.listElements
    by_cases hmax : start.numberOfSiIndex.toNat ≤ maxSiIndex
    · rw [if_pos hmax]
      apply (runs_siIndexes hsize .ends result start 0 hmax).consequence
      · rintro value pos - ⟨rfl, hspan, -⟩
        exact ⟨rfl, hspan hmax⟩
      · rintro value pos hpos ⟨hcount, hspan⟩
        rw [Span.bytes, if_pos (by exact hpos)] at hspan
        rw [hcount]
        exact ⟨hmax, hspan⟩
    · rw [if_neg hmax, if_neg Bool.false_ne_true]
      have hlist := runs_siIndexes hsize (fun _ ↦ .overruns) result start 1 (Nat.le_refl maxSiIndex)
      apply runs_andThen (hlist.consequence _ _) (runs_ninth hsize result _)
      · rintro value pos - ⟨rfl, -, hspan⟩
        exact ⟨rfl, hspan hmax⟩
      · rintro value pos - ⟨-, hspan⟩
        exact hspan
  · rintro value pos - ⟨hmax, hspan⟩
    exact ⟨⟨hmax, fun _ _ ↦ trivial⟩, hspan.symm⟩

/-- With less room than for all of it, a decoder stops before the end of any part. -/
theorem stops_of_less {stops : Prop} {pos size : ℕ} (h : ¬ pos + size ≤ limit → stops) :
    ∀ part ≤ size, ¬ pos + part ≤ limit → stops :=
  fun _ hpart hroom ↦ h fun hall ↦ hroom (by omega)

theorem spans_lteSystemInformationRequest (hsize : limit ≤ mem.size) :
    Spans mem limit (P4Field.Bounded .lteSystemInformationRequest)
      (Span.counted mem limit 8 maxSiPeriodicity (Span.bytes limit 2) 5)
      (P4.lteSystemInformationRequest.fill limit) := by
  apply spans_counted hsize rfl (fun _ _ ↦ rfl) trivial
  · apply spans_fillSteps hsize
    intro stops value pos hshort _
    have hless := stops_of_less hshort
    exact ⟨fun _ ↦ ⟨fun _ ↦ ⟨trivial, rfl⟩, hless 2 (by decide)⟩, hless 1 (by decide)⟩
  · intro stops value pos hshort _
    have hless := stops_of_less hshort
    exact ⟨fun _ _ ↦ ⟨fun _ _ ↦ ⟨fun _ _ ↦ ⟨fun _ ↦ ⟨fun _ ↦
      ⟨fun hroom ↦ ⟨fun _ _ ↦ trivial, rfl, rfl, hroom⟩, hless 9 (by decide)⟩,
      hless 8 (by decide)⟩, hless 7 (by decide)⟩, hless 6 (by decide)⟩, hless 4 (by decide)⟩,
      hless 2 (by decide)⟩
  · intro stops value pos hshort hcounts
    have hless := stops_of_less hshort
    exact ⟨fun _ ↦ ⟨fun hroom _ ↦ ⟨hcounts, rfl, hroom⟩, hless 5 (by decide)⟩,
      hless 1 (by decide)⟩

theorem spans_nbIotSystemInformationRequest (hsize : limit ≤ mem.size) :
    Spans mem limit (P4Field.Bounded .nbIotSystemInformationRequest)
      (Span.counted mem limit 5 maxSiPeriodicity (siPeriodicitySpan mem limit) 5)
      (P4.nbIotSystemInformationRequest.fill limit) := by
  apply spans_counted hsize rfl (fun _ _ ↦ rfl)
  · exact ⟨Nat.zero_le _, fun _ _ ↦ trivial⟩
  · exact spans_nbIotSiPeriodicity hsize
  · intro stops value pos hshort hgood
    have hless := stops_of_less hshort
    exact ⟨fun _ _ ↦ ⟨fun _ ↦ ⟨fun _ _ ↦
      ⟨fun hroom ↦ ⟨hgood, rfl, rfl, hroom⟩, hless 6 (by decide)⟩, hless 5 (by decide)⟩,
      hless 3 (by decide)⟩, hless 2 (by decide)⟩
  · intro stops value pos hshort hcounts
    have hless := stops_of_less hshort
    exact ⟨fun _ ↦ ⟨fun hroom _ ↦ ⟨hcounts, rfl, hroom⟩, hless 5 (by decide)⟩,
      hless 1 (by decide)⟩

theorem spans_cellRequest (hsize : limit ≤ mem.size) :
    Spans mem limit (fun _ ↦ True) (Span.bytes limit 8) (cellRequest.fill limit) := by
  apply spans_fillSteps hsize
  intro stops value pos hshort _
  have hless := stops_of_less hshort
  exact ⟨fun _ _ ↦ ⟨fun _ _ ↦ ⟨fun _ _ ↦ ⟨trivial, rfl⟩, hless 8 (by decide)⟩,
    hless 4 (by decide)⟩, hless 2 (by decide)⟩

theorem spans_geranSystemInformationRequest (hsize : limit ≤ mem.size) :
    Spans mem limit (fun _ ↦ True) (Span.bytes limit 7)
      (P4.geranSystemInformationRequest.fill limit) := by
  apply spans_fillSteps hsize
  intro stops value pos hshort _
  have hless := stops_of_less hshort
  exact ⟨fun _ _ ↦ ⟨fun _ ↦ ⟨fun _ _ ↦ ⟨trivial, rfl⟩, hless 7 (by decide)⟩,
    hless 3 (by decide)⟩, hless 2 (by decide)⟩

/-- Opaque data has as many bytes as its field, if these are not too many. -/
def opaqueSpan (tl : Tl) (limit pos : ℕ) : Span :=
  if tl.length.toNat ≤ maxOpaqueData then Span.bytes limit tl.length.toNat pos else .stops

theorem forward_opaqueSpan (tl : Tl) (limit : ℕ) : Span.Forward (opaqueSpan tl limit) := by
  intro pos last h
  unfold opaqueSpan at h
  split_ifs at h
  exact Span.forward_bytes limit _ pos last h

theorem spans_unpackOpaqueDataValue (hsize : limit ≤ mem.size) (tl : Tl) :
    Spans mem limit (fun data ↦ data.length.toNat ≤ maxOpaqueData) (opaqueSpan tl limit)
      (unpackOpaqueDataValue tl limit) := by
  intro result
  have hlength : tl.length.toUInt32.toNat = tl.length.toNat := UInt16.toNat_toUInt32 _
  apply @runs_andThen _ _ _ _ _ _ _ _ _
    (fun data pos ↦ data.length = tl.length.toUInt32 ∧ opaqueSpan tl limit pos = result)
  · apply runs_modify
    rintro data pos ⟨-, hspan⟩
    exact ⟨rfl, hspan⟩
  · apply runs_look
    intro start
    apply runs_pull
    rintro data pos hpos ⟨rfl, hdata, hspan⟩
    unfold opaqueSpan Span.bytes at hspan
    rw [hdata, hlength]
    rcases @pullarray8_cases mem limit maxOpaqueData tl.length.toNat pos hsize hpos with
      ⟨hmax, hroom, array, hpull, -⟩ | ⟨hnot, hpull⟩
    · rw [if_pos hmax, if_pos hroom] at hspan
      refine .inl ⟨array, _, hpull, Nat.le_add_right _ _, hroom, ?_, hspan.symm⟩
      show tl.length.toUInt32.toNat ≤ maxOpaqueData
      rw [hlength]
      exact hmax
    · refine .inr ⟨hpull, ?_⟩
      rw [← hspan]
      by_cases hmax : tl.length.toNat ≤ maxOpaqueData
      · rw [if_pos hmax, if_neg fun hroom ↦ hnot ⟨hmax, hroom⟩]
      · rw [if_neg hmax]

theorem Span.bytes_ne_overruns (limit size pos : ℕ) : Span.bytes limit size pos ≠ .overruns := by
  unfold Span.bytes
  split_ifs
  · exact Span.noConfusion
  · exact Span.noConfusion

theorem keeps_unpackOpaqueDataValue (hsize : limit ≤ mem.size) (tl : Tl) :
    Keeps mem limit (fun data ↦ data.length.toNat ≤ maxOpaqueData)
      (unpackOpaqueDataValue tl limit) := by
  apply (spans_unpackOpaqueDataValue hsize tl).keeps
  intro pos
  unfold opaqueSpan
  split_ifs
  · exact Span.bytes_ne_overruns _ _ _
  · exact Span.noConfusion

theorem keeps_cellSearchIndication {Cell : Type} [Inhabited Cell] {cell : ValueCodec Cell}
    {hcell : ∀ found, cell.Fits found} {maxCellsFound : ℕ} (hsize : limit ≤ mem.size)
    (hfound : Keeps mem limit (fun _ ↦ True) (cell.fill limit)) :
    Keeps mem limit (CountsWithin (cellSearchIndicationShape Cell maxCellsFound) fun _ ↦ True)
      ((cellSearchIndication cell hcell maxCellsFound).fill limit) := by
  apply keeps_checked hsize rfl (fun _ _ ↦ rfl) trivial hfound
  · intro value pos _
    simp [ensures, ensuresStep, cellSearchIndicationShape]
  · exact fun _ _ h ↦ h

theorem keeps_foundCell (hsize : limit ≤ mem.size) :
    Keeps mem limit (fun _ ↦ True) (foundCell.fill limit) :=
  keeps_fillSteps hsize fun _ _ _ ↦ by simp [ensures, ensuresStep, unpackFoundCell]

theorem keeps_lteSystemInformationRequest (hsize : limit ≤ mem.size) :
    Keeps mem limit (P4Field.Bounded .lteSystemInformationRequest)
      (P4.lteSystemInformationRequest.fill limit) := by
  apply keeps_checked hsize rfl (fun _ _ ↦ rfl) trivial
  · exact keeps_fillSteps hsize fun _ _ _ ↦ by simp [ensures, ensuresStep, unpackLteSiPeriodicity]
  · intro value pos _
    simp [ensures, ensuresStep, lteSystemInformationRequestShape]
  · intro value pos h
    simpa [ensures, ensuresStep, lteSystemInformationRequestShape, CountsWithin] using fun _ _ ↦ h.1

/-- Each decoder compares its counts, with one exception. -/
theorem P4Field.keeps {name : P4Field} (hname : name ≠ nbIotSystemInformationRequest)
    (hsize : limit ≤ mem.size) (tl : Tl) :
    Keeps mem limit (fun field : Tlv name.Value ↦ name.Bounded field.value)
      (name.codec.unpack tl limit) := by
  have hfield {α : Type} {Good : α → Prop} {x : Fill α} (hx : Keeps mem limit Good x) :
      Keeps mem limit (fun field : Tlv α ↦ Good field.value)
        (.component Tlv.value (fun field value ↦ { field with value }) x) :=
    Moves.component hx (fun _ h ↦ h) fun _ _ _ h ↦ h
  have hsteps {α : Type} {Good : α → Prop} {steps : List (Step α)}
      (h : ∀ value pos, Good value →
        ensures mem limit True (fun value _ ↦ Good value) steps value pos) :
      Keeps mem limit (fun field : Tlv α ↦ Good field.value)
        (.component Tlv.value (fun field value ↦ { field with value }) (fillSteps limit steps)) :=
    hfield (keeps_fillSteps hsize h)
  cases name with
  | nbIotSystemInformationRequest => exact absurd rfl hname
  | lteRssiRequest =>
    apply hsteps
    intro value pos _
    simp +contextual [ensures, ensuresStep, unpackLteRssiRequestValue, Bounded]
  | utranRssiRequest =>
    apply hsteps
    intro value pos _
    simp +contextual [ensures, ensuresStep, unpackUtranRssiRequestValue, Bounded]
  | geranRssiRequest => exact hfield (keeps_geranRssiRequest hsize)
  | nbIotRssiRequest => exact hfield (keeps_nbIotRssiRequest hsize)
  | rssiIndication =>
    apply hsteps
    intro value pos _
    simp +contextual [ensures, ensuresStep, unpackRssiIndicationValue, Bounded]
  | lteCellSearchRequest =>
    apply hsteps
    intro value pos _
    simp +contextual [ensures, ensuresStep, unpackLteCellSearchRequestValue, Bounded]
  | utranCellSearchRequest =>
    apply hsteps
    intro value pos _
    simp +contextual [ensures, ensuresStep, unpackUtranCellSearchRequestValue, Bounded]
  | geranCellSearchRequest =>
    apply hsteps
    intro value pos _
    simp +contextual [ensures, ensuresStep, unpackGeranCellSearchRequestValue, Bounded]
  | nbIotCellSearchRequest =>
    apply hsteps
    intro value pos _
    simp +contextual [ensures, ensuresStep, unpackNbIotCellSearchRequestValue, Bounded]
  | lteCellSearchIndication =>
    exact hfield (keeps_cellSearchIndication hsize (keeps_foundCell hsize))
  | utranCellSearchIndication =>
    exact hfield (keeps_cellSearchIndication hsize (keeps_foundCell hsize))
  | geranCellSearchIndication =>
    exact hfield (keeps_cellSearchIndication hsize (keeps_fillSteps hsize fun _ _ _ ↦ by
      simp [ensures, ensuresStep, unpackGsmFoundCell]))
  | nbIotCellSearchIndication =>
    exact hfield (keeps_cellSearchIndication hsize (keeps_foundCell hsize))
  | pnfCellSearchState => exact hfield (keeps_unpackOpaqueDataValue hsize tl)
  | lteBroadcastDetectRequest =>
    apply hsteps
    intro value pos _
    simp +contextual [ensures, ensuresStep, unpackCellRequestValue, Bounded]
  | utranBroadcastDetectRequest =>
    apply hsteps
    intro value pos _
    simp +contextual [ensures, ensuresStep, unpackCellRequestValue, Bounded]
  | nbIotBroadcastDetectRequest =>
    apply hsteps
    intro value pos _
    simp +contextual [ensures, ensuresStep, unpackNbIotBroadcastDetectRequestValue, Bounded]
  | lteBroadcastDetectIndication =>
    apply hsteps
    intro value pos _
    simp +contextual [ensures, ensuresStep, unpackBroadcastDetectIndicationValue, Bounded]
  | utranBroadcastDetectIndication =>
    apply hsteps
    intro value pos _
    simp +contextual [ensures, ensuresStep, unpackUtranBroadcastDetectIndicationValue, Bounded]
  | nbIotBroadcastDetectIndication =>
    apply hsteps
    intro value pos _
    simp +contextual [ensures, ensuresStep, unpackBroadcastDetectIndicationValue, Bounded]
  | pnfCellBroadcastState => exact hfield (keeps_unpackOpaqueDataValue hsize tl)
  | lteSystemInformationScheduleRequest =>
    apply hsteps
    intro value pos _
    simp +contextual [ensures, ensuresStep, unpackLteSystemInformationScheduleRequestValue, Bounded]
  | nbIotSystemInformationScheduleRequest =>
    apply hsteps
    intro value pos _
    simp +contextual [ensures, ensuresStep, unpackNbIotSystemInformationScheduleRequestValue, Bounded]
  | lteSystemInformationRequest => exact hfield (keeps_lteSystemInformationRequest hsize)
  | utranSystemInformationRequest =>
    apply hsteps
    intro value pos _
    simp +contextual [ensures, ensuresStep, unpackCellRequestValue, Bounded]
  | geranSystemInformationRequest =>
    apply hsteps
    intro value pos _
    simp +contextual [ensures, ensuresStep, unpackGeranSystemInformationRequestValue, Bounded]
  | lteSystemInformationIndication =>
    apply hsteps
    intro value pos _
    simp +contextual [ensures, ensuresStep, unpackSystemInformationIndicationValue, Bounded]
  | utranSystemInformationIndication =>
    apply hsteps
    intro value pos _
    simp +contextual [ensures, ensuresStep, unpackSystemInformationBlockValue, Bounded]
  | geranSystemInformationIndication =>
    apply hsteps
    intro value pos _
    simp +contextual [ensures, ensuresStep, unpackSystemInformationBlockValue, Bounded]
  | nbIotSystemInformationIndication =>
    apply hsteps
    intro value pos _
    simp +contextual [ensures, ensuresStep, unpackSystemInformationIndicationValue, Bounded]

end Decoders

/-! ### Fields in their places -/

/-- The member that is there has its counts in bounds. -/
def P4Union.Bounded {names : List P4Field} (choice : P4Union names) : Prop :=
  ∀ name field, choice = .of name field → name.1.Bounded field.value

/-- All fields have. -/
def P4Fields.Bounded {names : List P4Field} (fields : P4Fields names) : Prop :=
  ∀ name : { name // name ∈ names }, name.1.Bounded (fields name).value

section Places

variable {mem : Memory} {limit : ℕ} {stops faults : Prop} {here there : ℕ → Prop}
  {names : List P4Field} {name : { name // name ∈ names }} {tl : Tl}

theorem P4Union.bounded_get {choice : P4Union names} (h : P4Union.Bounded choice) :
    name.1.Bounded (choice.get name).value := by
  rcases choice with _ | ⟨other, field⟩
  · exact name.1.bounded_default
  · by_cases hname : other = name
    · subst hname
      have hget : (Choice.of other field : P4Union names).get other = field := Choice.get_of
      show other.1.Bounded ((Choice.of other field : P4Union names).get other).value
      rw [hget]
      exact h other field rfl
    · have hget : (Choice.of other field : P4Union names).get name = Tagged.absent :=
        Choice.get_of_ne hname
      show name.1.Bounded ((Choice.of other field : P4Union names).get name).value
      rw [hget]
      exact name.1.bounded_default

theorem P4Union.bounded_of {field : Tlv name.1.Value} (h : name.1.Bounded field.value) :
    P4Union.Bounded (.of name field : P4Union names) := by
  rintro other field' heq
  cases heq
  exact h

theorem P4Fields.bounded_blank : P4Fields.Bounded (blank : P4Fields names) :=
  fun name ↦ name.1.bounded_default

theorem P4Fields.bounded_update {fields : P4Fields names} {field : Tlv name.1.Value}
    (hfields : P4Fields.Bounded fields) (hfield : name.1.Bounded field.value) :
    P4Fields.Bounded (Function.update fields name field : P4Fields names) := by
  intro other
  by_cases hname : other = name
  · subst hname
    rw [Function.update_self]
    exact hfield
  · rw [Function.update_of_ne hname]
    exact hfields other

/-- What the decoder of a field does, it does in a union. -/
theorem moves_memberPart
    (h : Moves mem limit stops faults (fun field : Tlv name.1.Value ↦ name.1.Bounded field.value)
      (name.1.codec.unpack tl limit) here there) :
    Moves mem limit stops faults P4Union.Bounded
      ((memberPart (fieldCodec names) name).fill tl limit) here there := by
  have hfield := (@moves_modify _ mem limit stops faults _
    (fun field : Tlv name.1.Value ↦ Tagged.setTl field tl) here fun _ h ↦ h).andThen h
  exact hfield.component (fun _ h ↦ P4Union.bounded_get h) fun _ _ _ h ↦ P4Union.bounded_of h

/-- And in a record. -/
theorem moves_slot
    (h : Moves mem limit stops faults (fun field : Tlv name.1.Value ↦ name.1.Bounded field.value)
      (name.1.codec.unpack tl limit) here there) :
    Moves mem limit stops faults P4Fields.Bounded ((slot (fieldCodec names) name).fill tl limit)
      here there := by
  have hfield := (@moves_modify _ mem limit stops faults _
    (fun field : Tlv name.1.Value ↦ Tagged.setTl field tl) here fun _ h ↦ h).andThen h
  exact hfield.component (fun _ h ↦ h name) fun _ _ hfields h ↦ P4Fields.bounded_update hfields h

end Places

end MultiUeProxy.P4
