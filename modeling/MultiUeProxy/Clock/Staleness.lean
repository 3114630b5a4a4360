import MultiUeProxy.Clock.FrameClocks
import MultiUeProxy.Uplink.Dequeue

/-!
# Which uplink messages are stale

`dequeue_ue_msgs` and `dequeue_ue_slot_msgs` drop a message when `get_sf_delta` or `get_slot_delta`
of the current time and the time of the message is above 200 subframes or 400 slots. The difference
is one of the numbers on the dial and not one around it (`stale_iff`): the counter wraps, and the
`sfn_sf_add` beside it takes the remainder modulo the cycle, but the delta does not.

How far a message is behind around the dial is `lag`. `staleness_iff` compares the decision with
the lag, for every horizon up to which a time counts as behind and not as ahead: it is right for a
message inside of the window, and for the others when the two numbers are on the same side of the
wrap as the lag says. Moving both times alike never changes the decision exactly for the messages
inside of the window.
-/

set_option autoImplicit false
set_option relaxedAutoImplicit false

namespace MultiUeProxy.Clock.Staleness

open Lib.CyclicClock Lib.CyclicClock.Time FrameClocks Uplink.Message Uplink.Dequeue

/-- The dial of a variant. -/
def dial : Radio → Dial
  | .lte => lteDial
  | .nr => nrDial

/-- The bits of a subframe or slot in a packed time. -/
def tickBits : Radio → ℕ
  | .lte => 4
  | .nr => 6

/-- How many subframes or slots a message may be behind. -/
def window : Radio → ℕ
  | .lte => 200
  | .nr => 400

/-- The decision about a message at the current time. -/
def dropped (radio : Radio) (current message : Time (dial radio)) : Bool :=
  radio.stale (wordOf (tickBits radio) current) (wordOf (tickBits radio) message)

section Decision

variable {radio : Radio}

theorem getSfDelta_eq (a b : Time lteDial) :
    getSfDelta (wordOf 4 a) (wordOf 4 b) = (a.decimal : ℤ) - b.decimal := by
  have hsfn (t : Time lteDial) : (wordOf 4 t >>> 4).toNat = t.frame :=
    lteDial_fits.word_shiftRight t
  have hsf (t : Time lteDial) : (wordOf 4 t &&& 15).toNat = t.tick := lteDial_fits.word_and t rfl
  unfold getSfDelta
  rw [hsfn, hsfn, hsf, hsf]
  rfl

theorem getSlotDelta_eq (a b : Time nrDial) :
    getSlotDelta (wordOf 6 a) (wordOf 6 b) = (a.decimal : ℤ) - b.decimal := by
  have hsfn (t : Time nrDial) : (wordOf 6 t >>> 6).toNat = t.frame :=
    nrDial_fits.word_shiftRight t
  have hslot (t : Time nrDial) : (wordOf 6 t &&& 0x3F).toNat = t.tick := nrDial_fits.word_and t rfl
  unfold getSlotDelta
  rw [hsfn, hsfn, hslot, hslot]
  rfl

/-- The decision compares the numbers of the two times. -/
theorem stale_iff (current message : Time (dial radio)) :
    dropped radio current message = true ↔ message.decimal + window radio < current.decimal := by
  cases radio with
  | lte =>
    show decide (getSfDelta (wordOf 4 current) (wordOf 4 message) > 200) = true ↔
      message.decimal + 200 < current.decimal
    have hdelta : getSfDelta (wordOf 4 current) (wordOf 4 message) =
        (current.decimal : ℤ) - message.decimal := getSfDelta_eq current message
    rw [decide_eq_true_iff, hdelta]
    omega
  | nr =>
    show decide (getSlotDelta (wordOf 6 current) (wordOf 6 message) > 400) = true ↔
      message.decimal + 400 < current.decimal
    have hdelta : getSlotDelta (wordOf 6 current) (wordOf 6 message) =
        (current.decimal : ℤ) - message.decimal := getSlotDelta_eq current message
    rw [decide_eq_true_iff, hdelta]
    omega

/-- A message whose number is not above the current one is dropped by its lag. -/
theorem stale_iff_of_le {current message : Time (dial radio)}
    (h : message.decimal ≤ current.decimal) :
    dropped radio current message = true ↔ window radio < lag current message := by
  rw [stale_iff, lag_of_le h]
  omega

/-- A message whose number is above the current one is never dropped. -/
theorem not_stale_of_lt {current message : Time (dial radio)}
    (h : current.decimal < message.decimal) : dropped radio current message = false := by
  rw [← Bool.not_eq_true, stale_iff]
  omega

/-- A message inside of the window is kept. -/
theorem not_stale_of_lag_le {current message : Time (dial radio)}
    (h : lag current message ≤ window radio) : dropped radio current message = false := by
  by_cases hle : message.decimal ≤ current.decimal
  · rw [← Bool.not_eq_true, stale_iff_of_le hle]
    omega
  · exact not_stale_of_lt (Nat.lt_of_not_le hle)

/-- Moved to where the message is at the start of the cycle, the decision follows the lag. -/
theorem stale_at_message_start {current message : Time (dial radio)}
    (h : window radio < lag current message) :
    dropped radio (current.advance ((dial radio).cycle - message.decimal))
      (message.advance ((dial radio).cycle - message.decimal)) = true := by
  have hmessage := message.decimal_lt
  have hstart : (message.advance ((dial radio).cycle - message.decimal)).decimal = 0 := by
    rw [decimal_advance, Nat.add_sub_cancel' (Nat.le_of_lt hmessage), Nat.mod_self]
  rw [stale_iff_of_le (by omega), lag_advance]
  exact h

/-- Moved to where the current time is at the start of the cycle, no message is dropped. -/
theorem not_stale_at_current_start (current message : Time (dial radio)) :
    dropped radio (current.advance ((dial radio).cycle - current.decimal))
      (message.advance ((dial radio).cycle - current.decimal)) = false := by
  have hcurrent := current.decimal_lt
  have hstart : (current.advance ((dial radio).cycle - current.decimal)).decimal = 0 := by
    rw [decimal_advance, Nat.add_sub_cancel' (Nat.le_of_lt hcurrent), Nat.mod_self]
  rw [← Bool.not_eq_true, stale_iff, hstart]
  omega

/-- The decision is the same for all common offsets exactly for a message inside of the window. -/
theorem stale_invariant_iff (current message : Time (dial radio)) :
    (∀ n, dropped radio (current.advance n) (message.advance n) = dropped radio current message) ↔
      lag current message ≤ window radio := by
  constructor
  · intro h
    apply Nat.le_of_not_lt
    intro hlag
    have hdropped := h ((dial radio).cycle - message.decimal)
    have hkept := h ((dial radio).cycle - current.decimal)
    rw [stale_at_message_start hlag] at hdropped
    rw [not_stale_at_current_start, ← hdropped] at hkept
    exact Bool.noConfusion hkept
  · intro h n
    rw [not_stale_of_lag_le h, not_stale_of_lag_le (by rw [lag_advance]; exact h)]

/-- The decision and the lag agree for a message inside of the window, and for another one exactly
when its number is not above the current one just if the lag counts as behind. -/
theorem stale_iff_behind_iff (current message : Time (dial radio)) (horizon : ℕ) :
    (dropped radio current message = true ↔
        window radio < lag current message ∧ lag current message ≤ horizon) ↔
      lag current message ≤ window radio ∨
        (message.decimal ≤ current.decimal ↔ lag current message ≤ horizon) := by
  by_cases hin : lag current message ≤ window radio
  · rw [not_stale_of_lag_le hin]
    exact iff_of_true (iff_of_false Bool.noConfusion (by omega)) (Or.inl hin)
  · by_cases hle : message.decimal ≤ current.decimal
    · rw [stale_iff_of_le hle]
      omega
    · rw [not_stale_of_lt (Nat.lt_of_not_le hle)]
      simp only [Bool.false_eq_true, false_iff]
      omega

end Decision

/-- At one pair of times the decision is that of the lag, with any horizon for what counts as
behind, exactly as `stale_iff_behind_iff` says; and together with the independence of the common
offset it is so exactly for the messages inside of the window. -/
theorem staleness_iff (radio : Radio) (current message : Time (dial radio)) (horizon : ℕ) :
    ((dropped radio current message = true ↔
        window radio < lag current message ∧ lag current message ≤ horizon) ↔
      lag current message ≤ window radio ∨
        (message.decimal ≤ current.decimal ↔ lag current message ≤ horizon)) ∧
    ((dropped radio current message = true ↔
        window radio < lag current message ∧ lag current message ≤ horizon) ∧
      (∀ n, dropped radio (current.advance n) (message.advance n) =
        dropped radio current message) ↔
      lag current message ≤ window radio) := by
  refine ⟨stale_iff_behind_iff current message horizon, ?_⟩
  rw [stale_invariant_iff, stale_iff_behind_iff]
  constructor
  · intro h
    exact h.2
  · intro h
    exact ⟨Or.inl h, h⟩

/-- At SFN 0, SF 5 a message of SFN 1000, SF 0 is 245 subframes behind and is kept; 240 subframes
later the same pair is one with a dropped message. -/
theorem stale_across_wrap :
    let current : Time (dial .lte) := ⟨0, 5, by decide, by decide⟩
    let message : Time (dial .lte) := ⟨1000, 0, by decide, by decide⟩
    lag current message = 245 ∧ dropped .lte current message = false ∧
      dropped .lte (current.advance 240) (message.advance 240) = true := by
  decide

end MultiUeProxy.Clock.Staleness
