import MultiUeProxy.Clock.NodeSync

/-!
# The window of admission

A request of the VNF is admitted if it is ahead of the current time of the PNF, by the timing window
at most, on a dial that wraps (`Admissible`). `is_p7_request_in_window` splits this into cases: the
request has a higher number and is near enough, or it has a lower one and the window reaches around
the end of the cycle as far as the request (`isP7RequestInWindow_iff`). For NR the branches of
`is_nr_p7_request_in_window` that trace a request as out of the window admit it as well, so the two
tests have one law exactly for the requests that are in the window (`admission_exact_iff`).
-/

set_option autoImplicit false
set_option relaxedAutoImplicit false

namespace MultiUeProxy.Clock.Admission

open Lib.CyclicClock Lib.CyclicClock.Time FrameClocks NodeSync
open Downlink

/-- A request is ahead of the current time, by the window at most. -/
def Admissible {d : Dial} (current request : Time d) (window : ℕ) : Prop :=
  0 < lag request current ∧ lag request current ≤ window

section Dials

variable {d : Dial} {current request : Time d} {window : ℕ}

/-- A request with a higher number is ahead by the difference. -/
theorem admissible_of_lt (h : current.decimal < request.decimal) :
    Admissible current request window ↔ request.decimal - current.decimal ≤ window := by
  unfold Admissible
  rw [lag_of_le (Nat.le_of_lt h)]
  exact and_iff_right (Nat.sub_pos_of_lt h)

/-- No request is ahead of its own time. -/
theorem not_admissible_self : ¬ Admissible current current window := by
  unfold Admissible
  rw [lag_of_le (Nat.le_refl _), Nat.sub_self]
  exact fun h ↦ Nat.lt_irrefl 0 h.1

/-- A request with a lower number is ahead if the window goes around the dial and reaches it. -/
theorem admissible_of_gt (h : request.decimal < current.decimal) (hwindow : window < d.cycle) :
    Admissible current request window ↔
      (current.decimal + window) % d.cycle < current.decimal ∧
        request.decimal ≤ (current.decimal + window) % d.cycle := by
  have hcurrent := current.decimal_lt
  unfold Admissible
  rw [lag_of_lt h]
  by_cases haround : current.decimal + window < d.cycle
  · rw [Nat.mod_eq_of_lt haround]
    constructor
    · intro hlag
      omega
    · intro hmod
      omega
  · have hround : (current.decimal + window) % d.cycle = current.decimal + window - d.cycle := by
      rw [Nat.mod_eq_sub_mod (Nat.not_lt.mp haround)]
      exact Nat.mod_eq_of_lt (by omega)
    rw [hround]
    constructor
    · intro hlag
      omega
    · intro hmod
      omega

end Dials

/-! ### The tests -/

section Tests

variable {β γ : Type}

/-- The timing window of LTE, an `uint8_t`. -/
def timingWindow (cfg : SubframeBuffer.Config β) : ℕ := cfg.subframeBufferSize.toNat % 256

/-- The timing window of NR, an `uint8_t`. -/
def nrTimingWindow (cfg : SlotBuffer.Config γ) : ℕ := cfg.slotBufferSize.toNat % 256

/-- The test of LTE at a current time, for a request with a time. -/
def isInWindow (cfg : SubframeBuffer.Config β) (p : SubframeBuffer.PnfP7 β)
    (current request : Time lteDial) : Bool :=
  SubframeBuffer.isP7RequestInWindow cfg { p with sfnSf := wordOf 4 current } (wordOf 4 request)

/-- The test of NR at a current time, for a request with a time. -/
def isNrInWindow (cfg : SlotBuffer.Config γ) (p : SlotBuffer.PnfP7 γ)
    (current request : Time nrDial) : Bool :=
  SlotBuffer.isNrP7RequestInWindow cfg
    { p with sfn := (counterOf current).sfn, slot := (counterOf current).sub }
    (counterOf request).sfn (counterOf request).sub

/-- The test of LTE is the law. -/
theorem isP7RequestInWindow_iff (cfg : SubframeBuffer.Config β) (p : SubframeBuffer.PnfP7 β)
    (current request : Time lteDial) :
    isInWindow cfg p current request = true ↔
      Admissible current request (timingWindow cfg) := by
  have hwindow : timingWindow cfg < lteDial.cycle :=
    Nat.lt_of_lt_of_le (Nat.mod_lt _ (by decide)) (by decide)
  unfold isInWindow SubframeBuffer.isP7RequestInWindow
  dsimp only
  rw [sfnSf2Dec_eq, sfnSf2Dec_eq]
  show (if _ then if (_ + timingWindow cfg) % lteDial.cycle < _ then
    decide (_ ≤ (_ + timingWindow cfg) % lteDial.cycle) else _ else decide (_ ≤ timingWindow cfg)) =
      true ↔ _
  rcases Nat.lt_trichotomy request.decimal current.decimal with hlower | hequal | hhigher
  · rw [if_pos (Nat.le_of_lt hlower), admissible_of_gt hlower hwindow]
    split_ifs with hwrap
    · rw [decide_eq_true_iff, and_iff_right hwrap]
    · exact iff_of_false not_false fun h ↦ hwrap h.1
  · have hself : ¬ Admissible current request (timingWindow cfg) := by
      rw [decimal_inj.mp hequal]
      exact not_admissible_self
    rw [if_pos (Nat.le_of_eq hequal)]
    split_ifs with hwrap
    · apply iff_of_false _ hself
      rw [decide_eq_true_iff, hequal]
      exact Nat.not_le.mpr hwrap
    · exact iff_of_false not_false hself
  · rw [if_neg (Nat.not_le.mpr hhigher), admissible_of_lt hhigher, decide_eq_true_iff]

/-- The test of NR admits every request. -/
theorem isNrInWindow_eq (cfg : SlotBuffer.Config γ) (p : SlotBuffer.PnfP7 γ)
    (current request : Time nrDial) : isNrInWindow cfg p current request = true :=
  SlotBuffer.isNrP7RequestInWindow_eq _ _ _

/-- Both tests follow the law exactly when the request to the NR test is in the window. -/
theorem admission_exact_iff (cfg : SubframeBuffer.Config β) (p : SubframeBuffer.PnfP7 β)
    (current request : Time lteDial) (nrCfg : SlotBuffer.Config γ) (nrP : SlotBuffer.PnfP7 γ)
    (nrCurrent nrRequest : Time nrDial) :
    ((isInWindow cfg p current request = true ↔
        Admissible current request (timingWindow cfg)) ∧
      (isNrInWindow nrCfg nrP nrCurrent nrRequest = true ↔
        Admissible nrCurrent nrRequest (nrTimingWindow nrCfg))) ↔
      Admissible nrCurrent nrRequest (nrTimingWindow nrCfg) := by
  rw [and_iff_right (isP7RequestInWindow_iff cfg p current request)]
  constructor
  · intro hexact
    exact hexact.mp (isNrInWindow_eq nrCfg nrP nrCurrent nrRequest)
  · intro hlaw
    exact iff_of_true (isNrInWindow_eq nrCfg nrP nrCurrent nrRequest) hlaw

end Tests

/-- With a window of six slots, a request for slot 3 is admitted in slot 5 of its frame. -/
theorem late_slot_admitted :
    ¬ (isNrInWindow (⟨6, fun _ ↦ false, fun _ ↦ none⟩ : SlotBuffer.Config Unit) (.initial Unit)
        (ofDecimal 5) (ofDecimal 3) = true ↔
      Admissible (ofDecimal 5 : Time nrDial) (ofDecimal 3)
        (nrTimingWindow (⟨6, fun _ ↦ false, fun _ ↦ none⟩ : SlotBuffer.Config Unit))) := by
  intro hexact
  have hnear := (hexact.mp rfl).2
  have hlag : lag (ofDecimal 3 : Time nrDial) (ofDecimal 5) = 20478 := by decide
  rw [hlag] at hnear
  exact absurd hnear (by decide)

end MultiUeProxy.Clock.Admission
