import MultiUeProxy.Downlink.SlotBuffer

/-!
# The timing window as a modulus

The VNF sends the timing window with CONFIG.request. `config_request` stores the byte, and
`start_request` makes it the number of subframes and of slots that are buffered, which the tick and
the handlers of LTE take the number of a subframe modulo. The arrays have 30 cells whatever
the number is. So the indices are right in all runs for the windows from 1 to 30, and for no others
(`indicesDefined_iff`): a window of zero divides by zero, if the current SFN/SF is beyond the cycle,
and a larger window gives an index behind the array.

The handlers and the tick of NR have 20 as their modulus.
-/

set_option autoImplicit false
set_option relaxedAutoImplicit false

namespace MultiUeProxy.Downlink.TimingWindow

open Lib.Execution

/-! ### Where the window comes from -/

/-- The part of `phy_info` that CONFIG.request fills in here. -/
structure PhyInfo where
  timingWindow : UInt8
  deriving DecidableEq

/-- `config_request` and `nr_config_request` as far as the timing window goes, which is there if its
tag is. -/
def configRequest (timingWindow : Option UInt8) (phyInfo : PhyInfo) : PhyInfo :=
  match timingWindow with
  | some timingWindow => { phyInfo with timingWindow }
  | none => phyInfo

section Start

variable {β γ : Type}

/-- `start_request` as far as the buffer size goes. -/
def startRequest (phyInfo : PhyInfo) (p7Config : SubframeBuffer.Config β) :
    SubframeBuffer.Config β :=
  { p7Config with subframeBufferSize := phyInfo.timingWindow.toUInt16 }

/-- `nr_start_request` as far as the buffer size goes. -/
def nrStartRequest (phyInfo : PhyInfo) (p7Config : SlotBuffer.Config γ) : SlotBuffer.Config γ :=
  { p7Config with slotBufferSize := phyInfo.timingWindow.toUInt16 }

theorem startRequest_toNat (phyInfo : PhyInfo) (p7Config : SubframeBuffer.Config β) :
    (startRequest phyInfo p7Config).subframeBufferSize.toNat = phyInfo.timingWindow.toNat :=
  UInt8.toNat_toUInt16 _

end Start

/-! ### Subframes -/

section Subframes

open SubframeBuffer

variable {β : Type} {cfg : Config β}

/-- With every index in the array, every event is dealt with. -/
theorem step_returns (hpos : 0 < cfg.subframeBufferSize.toNat)
    (hle : cfg.subframeBufferSize.toNat ≤ 30) (p : PnfP7 β) (event : Event β) :
    ∃ notes next, step cfg p event = .ok (notes, next) := by
  have hindex := exists_isIndex hpos hle
  have hsize : cfg.subframeBufferSize ≠ 0 := (hindex 0).choose_spec.1
  cases event with
  | request k unpacked =>
    cases unpacked with
    | none => exact ⟨[], p, rfl⟩
    | some req =>
      by_cases hwindow : isP7RequestInWindow cfg p req.sfnSf = true
      · obtain ⟨index, hreq⟩ := hindex (sfnSf2Dec req.sfnSf)
        exact ⟨_, _, (step_request_eq_ok hwindow).mpr ⟨index, hreq, rfl, rfl⟩⟩
      · exact ⟨[], p, step_request_of_late hwindow⟩
  | nodeSync deltaSfnSf => exact ⟨[], _, rfl⟩
  | subframeInd sfnSf =>
    obtain ⟨index, hrx⟩ := hindex (sfnSf2Dec (shiftSfnSf p sfnSf))
    obtain ⟨txIndex, htx⟩ := hindex (sfnSf2Dec (sfnsfAddSf sfnSf sfAhead))
    exact ⟨_, _, (step_subframeInd_eq_ok hsize).mpr ⟨index, txIndex, hrx, htx, rfl, rfl⟩⟩

/-- A request in the window whose index is not in the array is not dealt with. -/
theorem step_request_crash {p : PnfP7 β} {k : RequestType} {req : Request β} {cause : Crash}
    (hwindow : isP7RequestInWindow cfg p req.sfnSf = true)
    (hindex : bufferIndex cfg (sfnSf2Dec req.sfnSf) = .error cause) :
    step cfg p (.request k (some req)) = .error cause := by
  show (if isP7RequestInWindow cfg p req.sfnSf = true then _ else _) = _
  rw [if_pos hwindow, hindex]
  rfl

/-- A window of more than 30 subframes: a request 30 subframes ahead is in the window, and its index
is 30. -/
theorem step_request_fault (hlt : 30 < cfg.subframeBufferSize.toNat)
    (hbyte : cfg.subframeBufferSize.toNat < 256) (body : β) :
    step cfg (.initial β) (.request .dlConfig (some ⟨0x030, body⟩)) = .error .fault := by
  have hsize : cfg.subframeBufferSize ≠ 0 := by
    intro hzero
    rw [hzero] at hlt
    exact absurd hlt (by decide)
  have hdec : sfnSf2Dec 0x030 = 30 := rfl
  have hstart : sfnSf2Dec (PnfP7.initial β).sfnSf = 0 := (rfl : sfnSf2Dec 0 = 0)
  apply step_request_crash
  · unfold isP7RequestInWindow
    dsimp only
    rw [hdec, hstart, if_neg (by decide), decide_eq_true_iff, Nat.mod_eq_of_lt hbyte]
    exact Nat.le_of_lt hlt
  · unfold bufferIndex
    rw [if_neg hsize, dif_neg]
    dsimp only
    rw [hdec, Nat.mod_eq_of_lt hlt]
    decide

/-- A window of zero: after a tick with an SFN/SF beyond the cycle, a request is in the window. -/
theorem step_request_abort (hzero : cfg.subframeBufferSize = 0) (body : β) :
    step cfg (.initial β) (.subframeInd 0xFFFF) = .ok ([], { PnfP7.initial β with sfnSf := 0xFFFF }) ∧
      step cfg { PnfP7.initial β with sfnSf := 0xFFFF } (.request .dlConfig (some ⟨0, body⟩)) =
        .error .abort := by
  refine ⟨step_subframeInd_of_zero hzero, ?_⟩
  apply step_request_crash
  · unfold isP7RequestInWindow
    dsimp only
    rw [hzero]
    rfl
  · unfold bufferIndex
    rw [if_pos hzero]

end Subframes

/-! ### Every run -/

section Runs

variable {β γ : Type}

/-- In every run, the tick and the handlers divide by no zero and stay in their arrays. -/
def IndicesDefined (cfg : SubframeBuffer.Config β) (nrCfg : SlotBuffer.Config γ) : Prop :=
  (∀ events, ∃ replies p, runAll (SubframeBuffer.step cfg) (.initial β) events = .ok (replies, p)) ∧
    ∀ events, ∃ replies p, runAll (SlotBuffer.step nrCfg) (.initial γ) events = .ok (replies, p)

/-- Events that are all dealt with make runs. -/
theorem runAll_returns {σ ι ο : Type} {step : σ → ι → Outcome (ο × σ)}
    (hstep : ∀ s x, ∃ reply next, step s x = .ok (reply, next)) (s : σ) (xs : List ι) :
    ∃ replies t, runAll step s xs = .ok (replies, t) := by
  induction xs generalizing s with
  | nil => exact ⟨[], s, rfl⟩
  | cons x xs ih =>
    obtain ⟨reply, next, hx⟩ := hstep s x
    obtain ⟨replies, t, hxs⟩ := ih next
    exact ⟨reply :: replies, t, runAll_cons hx hxs⟩

/-- For the windows from 1 to 30 the indices are defined and in the arrays, and for no others. -/
theorem indicesDefined_iff [Inhabited β] (timingWindow : UInt8) (phyInfo : PhyInfo)
    (cfg : SubframeBuffer.Config β) (nrCfg : SlotBuffer.Config γ) :
    IndicesDefined (startRequest (configRequest (some timingWindow) phyInfo) cfg)
        (nrStartRequest (configRequest (some timingWindow) phyInfo) nrCfg) ↔
      1 ≤ timingWindow.toNat ∧ timingWindow.toNat ≤ 30 := by
  have hnat : (startRequest (configRequest (some timingWindow) phyInfo) cfg).subframeBufferSize.toNat
      = timingWindow.toNat := startRequest_toNat _ cfg
  constructor
  · rintro ⟨hruns, -⟩
    apply Classical.byContradiction
    intro hout
    rcases Nat.eq_zero_or_pos timingWindow.toNat with hzero | hpos
    · have hsize : (startRequest (configRequest (some timingWindow) phyInfo) cfg).subframeBufferSize
          = 0 := UInt16.toNat_inj.mp (hnat.trans hzero)
      obtain ⟨htick, hrequest⟩ := step_request_abort hsize default
      obtain ⟨replies, p, hrun⟩ :=
        hruns [.subframeInd 0xFFFF, .request .dlConfig (some ⟨0, default⟩)]
      simp only [runAll, htick, hrequest, ok_bind, error_bind] at hrun
      cases hrun
    · have hlt : 30 < timingWindow.toNat := by omega
      have hfault := step_request_fault (hnat.symm ▸ hlt)
        (hnat.symm ▸ timingWindow.toNat_lt) (default : β)
      obtain ⟨replies, p, hrun⟩ := hruns [.request .dlConfig (some ⟨0x030, default⟩)]
      simp only [runAll, hfault, error_bind] at hrun
      cases hrun
  · rintro ⟨hpos, hle⟩
    constructor
    · exact runAll_returns (step_returns (hnat.symm ▸ hpos) (hnat.symm ▸ hle)) _
    · exact runAll_returns (fun _ _ ↦ ⟨_, _, rfl⟩) _

end Runs

/-- With a window of 31 subframes, a request 30 subframes ahead is stored behind the array. -/
theorem window_of_31 :
    ¬ ∀ timingWindow : UInt8, IndicesDefined
      (startRequest (configRequest (some timingWindow) ⟨0⟩)
        (⟨0, fun _ ↦ false, fun _ ↦ none⟩ : SubframeBuffer.Config Unit))
      (nrStartRequest (configRequest (some timingWindow) ⟨0⟩)
        (⟨0, fun _ ↦ false, fun _ ↦ none⟩ : SlotBuffer.Config Unit)) := by
  intro hall
  obtain ⟨replies, p, hrun⟩ := (hall 31).1 [.request .dlConfig (some ⟨0x030, ()⟩)]
  cases hrun

end MultiUeProxy.Downlink.TimingWindow
