import MultiUeProxy.P5.Pnf

/-!
# The life cycle of the PNF and its PHYs

The PNF is to go from IDLE to CONFIGURED to RUNNING and back, and each of its PHYs likewise while
the PNF is RUNNING. The handlers guard on one of the two states and the responses write one, so the
law has to come out of their interplay. Here the application is any that answers every request it
is given, with OK or with an error, by the response that belongs to it.

`lifeCycle` is one machine for both protocols, and `handleP5Message_agrees` says that the LTE and
the NR handlers act like it. `lawful_iff` then finds where it departs from the law: STOP is guarded
like START, so that a PHY that is RUNNING is never stopped; START is passed on for a PHY that was
never configured; PNF_STOP leaves the PHYs as they are; and a PNF_CONFIG that the application
refuses has replaced the PHYs already. `lawful_along_iff` is the same for whole runs.
-/

set_option autoImplicit false
set_option relaxedAutoImplicit false

namespace MultiUeProxy.P5

open Lib.Execution

variable {σ τ : Type}

/-! ### Applications that answer -/

/-- What an application decides when it is given a request. -/
structure Application (τ : Type) where
  next : τ → Message → τ
  errorCode : τ → Message → UInt32

/-- The state of an application, and the requests that it was given. -/
structure Journal (τ : Type) where
  state : τ
  passed : List Message

variable (app : Application τ)

/-- The application takes the request up with a success. -/
def Application.Accepts (pnf : Pnf (Journal τ)) (msg : Message) : Prop :=
  app.errorCode pnf.userData.state msg = nfapiMsgOk

instance (pnf : Pnf (Journal τ)) (msg : Message) : Decidable (app.Accepts pnf msg) :=
  inferInstanceAs (Decidable (_ = _))

/-- A callback that answers at once. -/
def answer (respond : Response → Pnf (Journal τ) → Pnf (Journal τ)) (messageId : UInt16)
    (msg : Message) (pnf : Pnf (Journal τ)) : Pnf (Journal τ) :=
  respond ⟨msg.phyId, messageId, app.errorCode pnf.userData.state msg⟩
    { pnf with
      userData := ⟨app.next pnf.userData.state msg, pnf.userData.passed ++ [msg]⟩ }

/-- Every request is answered by the response that belongs to it. -/
def answering : Callbacks (Journal τ) where
  pnfParamReq := some (answer app nfapiPnfPnfParamResp nfapiPnfParamResponse)
  pnfNrParamReq := some (answer app nfapiNrPnfPnfParamResp nfapiNrPhyMsgTypePnfParamResponse)
  pnfConfigReq := some fun _ ↦ answer app nfapiPnfPnfConfigResp nfapiPnfConfigResponse
  pnfNrConfigReq := some fun _ ↦
    answer app nfapiNrPnfPnfConfigResp nfapiNrPhyMsgTypePnfConfigResponse
  pnfStartReq := some (answer app nfapiPnfPnfStartResp nfapiPnfStartResponse)
  pnfNrStartReq := some (answer app nfapiNrPnfPnfStartResp nfapiNrPhyMsgTypePnfStartResponse)
  pnfStopReq := some (answer app nfapiPnfPnfStopResp nfapiPnfStopResponse)
  paramReq := some fun _ ↦ answer app nfapiPnfParamResp nfapiParamResponse
  nrParamReq := some fun _ ↦ answer app nfapiNrPnfParamResp nfapiNrPhyMsgTypeParamResponse
  configReq := some fun _ ↦ answer app nfapiPnfConfigResp nfapiConfigResponse
  nrConfigReq := some fun _ ↦ answer app nfapiNrPnfConfigResp nfapiNrPhyMsgTypeConfigResponse
  startReq := some fun _ ↦ answer app nfapiPnfStartResp nfapiStartResponse
  nrStartReq := some fun _ ↦ answer app nfapiNrPnfStartResp nfapiNrPhyMsgTypeStartResponse
  stopReq := some fun _ ↦ answer app nfapiPnfStopResp nfapiStopResponse
  nrStopReq := some fun _ ↦ answer app nfapiPnfStopResp nfapiNrPhyMsgTypeStopResponse
  measurementReq := some fun _ ↦ answer app nfapiPnfMeasurementResp nfapiMeasurementResponse

/-- The PNF with such an application handles a message. -/
def step (protocol : Protocol) (pnf : Pnf (Journal τ)) (msg : Message) : Pnf (Journal τ) :=
  handleP5Message (answering app) protocol msg pnf

/-! ### The law -/

/-- The request was given to the application. -/
def Passed (before : Pnf (Journal τ)) (msg : Message) (after : Pnf (Journal τ)) : Prop :=
  after.userData.passed = before.userData.passed ++ [msg]

/-- The changes of the state of the PNF. -/
inductive PnfTransition : Request → PnfState → PnfState → Prop
  | config {pnfPhyRfConfig : PnfPhyRfConfig} {before : PnfState} (h : before ≠ .running) :
      PnfTransition (.pnfConfig pnfPhyRfConfig) before .configured
  | start : PnfTransition .pnfStart .configured .running
  | stop : PnfTransition .pnfStop .running .configured

/-- The changes of the state of a PHY. PNF_CONFIG makes the PHYs anew. -/
inductive PhyTransition (phyId : UInt16) : Message → Option PhyState → Option PhyState → Prop
  | pnfConfig {id : UInt16} {pnfPhyRfConfig : PnfPhyRfConfig} {before after : Option PhyState}
      (h : after = none ∨ after = some .idle) :
      PhyTransition phyId ⟨id, .pnfConfig pnfPhyRfConfig⟩ before after
  | config {before : PhyState} (h : before ≠ .running) :
      PhyTransition phyId ⟨phyId, .config⟩ (some before) (some .configured)
  | start : PhyTransition phyId ⟨phyId, .start⟩ (some .configured) (some .running)
  | stop : PhyTransition phyId ⟨phyId, .stop⟩ (some .running) (some .configured)

/-- A PHY is RUNNING only if the PNF is. -/
def RunningOnly (pnf : Pnf σ) : Prop :=
  ∀ phy ∈ pnf.phys, phy.state = .running → pnf.state = .running

/-- The law of a step. States change only when a request succeeds, and then as they should; START
and STOP are passed on exactly in the states that they are for; and afterwards a PHY is RUNNING only
if the PNF is. -/
structure Lawful (before : Pnf (Journal τ)) (msg : Message) (after : Pnf (Journal τ)) : Prop where
  pnf : after.state = before.state ∨
    (Passed before msg after ∧ app.Accepts before msg) ∧
      PnfTransition msg.request before.state after.state
  configured : ∀ pnfPhyRfConfig, msg.request = .pnfConfig pnfPhyRfConfig →
    Passed before msg after → app.Accepts before msg →
      after.state = .configured ∧ ∀ phy ∈ after.phys, phy.state = .idle
  phy : ∀ phyId, phyState after.phys phyId = phyState before.phys phyId ∨
    (Passed before msg after ∧ app.Accepts before msg) ∧
      PhyTransition phyId msg (phyState before.phys phyId) (phyState after.phys phyId)
  start : msg.request = .start → (Passed before msg after ↔
    before.state = .running ∧ phyState before.phys msg.phyId = some .configured)
  stop : msg.request = .stop → (Passed before msg after ↔
    before.state = .running ∧ phyState before.phys msg.phyId = some .running)
  running : RunningOnly after

/-- The condition on a message, in the state that it finds. While the PNF is RUNNING, no START comes
for an IDLE PHY, no STOP for a known PHY, and no PNF_STOP that succeeds while a PHY is RUNNING;
while it is not, no PNF_CONFIG is refused that would change the state of a PHY. -/
def Orderly (pnf : Pnf (Journal τ)) (msg : Message) : Prop :=
  match msg.request with
  | .pnfConfig pnfPhyRfConfig => pnf.state ≠ .running → ¬ app.Accepts pnf msg →
      ∀ phyId, phyState (createPhys pnfPhyRfConfig) phyId = phyState pnf.phys phyId
  | .pnfStop => pnf.state = .running → app.Accepts pnf msg →
      ∀ phy ∈ pnf.phys, phy.state ≠ .running
  | .start => pnf.state = .running → phyState pnf.phys msg.phyId ≠ some .idle
  | .stop => pnf.state = .running → phyState pnf.phys msg.phyId = none
  | _ => True

/-! ### One machine for both protocols -/

/-- The PHY is known to the running PNF, and in one of the states. -/
def Admitted (accepts : PhyState → Bool) (pnf : Pnf σ) (phyId : UInt16) : Prop :=
  pnf.state = .running ∧ (phyState pnf.phys phyId).any accepts

instance (accepts : PhyState → Bool) (pnf : Pnf σ) (phyId : UInt16) :
    Decidable (Admitted accepts pnf phyId) :=
  inferInstanceAs (Decidable (_ ∧ _))

/-- What all three requests that write the state of a PHY are guarded by. -/
theorem admitted_notRunning_iff {pnf : Pnf σ} {phyId : UInt16} :
    Admitted PhyState.notRunning pnf phyId ↔
      pnf.state = .running ∧ ∃ state, phyState pnf.phys phyId = some state ∧ state ≠ .running := by
  unfold Admitted
  rw [Option.any_eq_true]
  simp only [PhyState.notRunning, decide_eq_true_eq]

theorem invalidState_ne_ok : nfapiMsgInvalidState ≠ nfapiMsgOk := by decide

theorem invalidConfig_ne_ok : nfapiMsgInvalidConfig ≠ nfapiMsgOk := by decide

section PhyHandler

variable {accepts : PhyState → Bool}
  {callback : Option (PhyConfig → Message → Pnf σ → Pnf σ)} {respond : Response → Pnf σ → Pnf σ}
  {messageId : UInt16} {unknown : UInt32} {msg : Message} {pnf : Pnf σ}

/-- A request that is admitted goes to the callback, with the record of its PHY. -/
theorem handlePhyRequest_of_admitted (h : Admitted accepts pnf msg.phyId) :
    ∃ phy : PhyConfig, phy.phyId = msg.phyId ∧
      handlePhyRequest accepts callback respond messageId unknown msg pnf =
        call (callback.map fun run ↦ run phy msg) pnf := by
  obtain ⟨hrunning, hany⟩ := h
  obtain ⟨state, hknown, haccepts⟩ := (Option.any_eq_true _ _).mp hany
  obtain ⟨phy, hfind, rfl⟩ := Option.map_eq_some_iff.mp hknown
  refine ⟨phy, by simpa using List.find?_some hfind, ?_⟩
  unfold handlePhyRequest
  rw [if_pos hrunning, hfind]
  exact if_pos haccepts

/-- Any other request is answered with an error. -/
theorem handlePhyRequest_of_refused (h : ¬ Admitted accepts pnf msg.phyId)
    (hunknown : unknown ≠ nfapiMsgOk) :
    ∃ error, error ≠ nfapiMsgOk ∧
      handlePhyRequest accepts callback respond messageId unknown msg pnf =
        respond ⟨msg.phyId, messageId, error⟩ pnf := by
  unfold handlePhyRequest
  by_cases hrunning : pnf.state = .running
  · rw [if_pos hrunning]
    cases hfind : nfapiPnfPhyConfigFind pnf.phys msg.phyId with
    | none => exact ⟨unknown, hunknown, rfl⟩
    | some phy =>
      refine ⟨nfapiMsgInvalidState, invalidState_ne_ok, if_neg fun haccepts ↦ h ⟨hrunning, ?_⟩⟩
      rw [phyState, hfind]
      exact haccepts
  · exact ⟨nfapiMsgInvalidState, invalidState_ne_ok, if_neg hrunning⟩

end PhyHandler

/-- The application is given a request. If it accepts it, the states change. -/
def pass (onPnf : PnfState → PnfState) (onPhys : UInt16 → List PhyConfig → List PhyConfig)
    (msg : Message) (pnf : Pnf (Journal τ)) : Pnf (Journal τ) where
  state := if app.Accepts pnf msg then onPnf pnf.state else pnf.state
  phys := if app.Accepts pnf msg then onPhys msg.phyId pnf.phys else pnf.phys
  userData := ⟨app.next pnf.userData.state msg, pnf.userData.passed ++ [msg]⟩
  sent := pnf.sent

/-- What a message does, apart from what is sent. -/
def lifeCycle (pnf : Pnf (Journal τ)) (msg : Message) : Pnf (Journal τ) :=
  match msg.request with
  | .pnfParam => if pnf.state = .idle then pass app id (fun _ ↦ id) msg pnf else pnf
  | .pnfConfig pnfPhyRfConfig =>
    if pnf.state ≠ .running then
      pass app (fun _ ↦ .configured) (fun _ ↦ id) msg
        { pnf with phys := createPhys pnfPhyRfConfig }
    else pnf
  | .pnfStart =>
    if pnf.state = .configured then pass app (fun _ ↦ .running) (fun _ ↦ id) msg pnf else pnf
  | .pnfStop =>
    if pnf.state = .running then pass app (fun _ ↦ .configured) (fun _ ↦ id) msg pnf else pnf
  | .param =>
    if Admitted PhyState.isIdle pnf msg.phyId then pass app id (fun _ ↦ id) msg pnf else pnf
  | .config =>
    if Admitted PhyState.notRunning pnf msg.phyId then
      pass app id (setPhyState · .configured) msg pnf
    else pnf
  | .start =>
    if Admitted PhyState.notRunning pnf msg.phyId then
      pass app id (setPhyState · .running) msg pnf
    else pnf
  | .stop =>
    if Admitted PhyState.notRunning pnf msg.phyId then
      pass app id (setPhyState · .configured) msg pnf
    else pnf
  | .measurement =>
    if Admitted PhyState.notRunning pnf msg.phyId then pass app id (fun _ ↦ id) msg pnf else pnf

/-- Two states that differ at most in what was sent. -/
structure Agrees (pnf other : Pnf σ) : Prop where
  state : pnf.state = other.state
  phys : pnf.phys = other.phys
  userData : pnf.userData = other.userData

variable {app}

theorem packAndSend_agrees (packedIds : List UInt16) (resp : Response) (pnf : Pnf σ) :
    Agrees (packAndSend packedIds resp pnf) pnf := by
  unfold packAndSend
  split_ifs
  · exact ⟨rfl, rfl, rfl⟩
  · exact ⟨rfl, rfl, rfl⟩

/-- What a response with the error code OK does to the states. -/
def Sets (respond : Response → Pnf σ → Pnf σ) (onPnf : PnfState → PnfState)
    (onPhys : UInt16 → List PhyConfig → List PhyConfig) : Prop :=
  ∀ resp pnf, Agrees (respond resp pnf)
    { pnf with
      state := if resp.errorCode = nfapiMsgOk then onPnf pnf.state else pnf.state
      phys := if resp.errorCode = nfapiMsgOk then onPhys resp.phyId pnf.phys else pnf.phys }

/-- A response that is only sent. -/
theorem sets_packAndSend (packedIds : List UInt16) :
    Sets (packAndSend packedIds : Response → Pnf σ → Pnf σ) id fun _ ↦ id := by
  intro resp pnf
  obtain ⟨hstate, hphys, hdata⟩ := packAndSend_agrees packedIds resp pnf
  refine ⟨?_, ?_, hdata⟩
  · rw [hstate, id, ite_self]
  · rw [hphys]
    exact (ite_self _).symm

theorem sets_pnfPackAndSendP5Message :
    Sets (pnfPackAndSendP5Message : Response → Pnf σ → Pnf σ) id fun _ ↦ id :=
  sets_packAndSend packedP5Ids

theorem sets_pnfNrPackAndSendP5Message :
    Sets (pnfNrPackAndSendP5Message : Response → Pnf σ → Pnf σ) id fun _ ↦ id :=
  sets_packAndSend packedNrP5Ids

/-- A response about the PNF. -/
theorem sets_pnfResponse (packedIds : List UInt16) (reached : PnfState) :
    Sets (pnfResponse (packAndSend packedIds) reached : Response → Pnf σ → Pnf σ)
      (fun _ ↦ reached) fun _ ↦ id := by
  intro resp pnf
  unfold pnfResponse
  by_cases hok : resp.errorCode = nfapiMsgOk
  · simp only [if_pos hok]
    exact packAndSend_agrees packedIds resp _
  · simp only [if_neg hok]
    exact packAndSend_agrees packedIds resp pnf

/-- A response about a PHY. For an unknown PHY, nothing is written. -/
theorem sets_phyResponse (packedIds : List UInt16) (reached : PhyState) :
    Sets (phyResponse (packAndSend packedIds) reached : Response → Pnf σ → Pnf σ) id
      (setPhyState · reached) := by
  intro resp pnf
  unfold phyResponse
  cases hfind : nfapiPnfPhyConfigFind pnf.phys resp.phyId with
  | none =>
    have hunknown : phyState pnf.phys resp.phyId = none := by rw [phyState, hfind]; rfl
    simp only [setPhyState_of_unknown hunknown, id, ite_self]
    exact ⟨rfl, rfl, rfl⟩
  | some phy =>
    by_cases hok : resp.errorCode = nfapiMsgOk
    · simp only [if_pos hok]
      exact packAndSend_agrees packedIds resp _
    · simp only [if_neg hok]
      exact packAndSend_agrees packedIds resp pnf

/-- A response with an error changes nothing. -/
theorem Sets.agrees_of_error {respond : Response → Pnf σ → Pnf σ} {onPnf : PnfState → PnfState}
    {onPhys : UInt16 → List PhyConfig → List PhyConfig} (hsets : Sets respond onPnf onPhys)
    {resp : Response} (herror : resp.errorCode ≠ nfapiMsgOk) (pnf : Pnf σ) :
    Agrees (respond resp pnf) pnf := by
  obtain ⟨hstate, hphys, hdata⟩ := hsets resp pnf
  exact ⟨hstate.trans (if_neg herror), hphys.trans (if_neg herror), hdata⟩

section Handlers

variable {respond : Response → Pnf (Journal τ) → Pnf (Journal τ)} {onPnf : PnfState → PnfState}
  {onPhys : UInt16 → List PhyConfig → List PhyConfig} {msg : Message} {pnf : Pnf (Journal τ)}

/-- The callback is the way the application is given a request. -/
theorem Sets.answer_agrees (hsets : Sets respond onPnf onPhys) (messageId : UInt16) :
    Agrees (answer app respond messageId msg pnf) (pass app onPnf onPhys msg pnf) :=
  hsets _ _

theorem handlePnfRequest_agrees (hsets : Sets respond onPnf onPhys) (expected : PnfState)
    (messageId errorId : UInt16) :
    Agrees (handlePnfRequest expected (some (answer app respond messageId)) respond errorId msg pnf)
      (if pnf.state = expected then pass app onPnf onPhys msg pnf else pnf) := by
  unfold handlePnfRequest
  split_ifs
  · exact hsets.answer_agrees messageId
  · exact hsets.agrees_of_error invalidState_ne_ok pnf

theorem handlePnfConfigRequest_agrees (hsets : Sets respond onPnf onPhys)
    (pnfPhyRfConfig : PnfPhyRfConfig) (messageId errorId : UInt16) :
    Agrees
      (handlePnfConfigRequest (some fun _ ↦ answer app respond messageId) respond errorId
        pnfPhyRfConfig msg pnf)
      (if pnf.state ≠ .running then
        pass app onPnf onPhys msg { pnf with phys := createPhys pnfPhyRfConfig } else pnf) := by
  unfold handlePnfConfigRequest
  by_cases hrunning : pnf.state ≠ .running
  · rw [if_pos hrunning, if_pos hrunning]
    exact hsets.answer_agrees messageId
  · rw [if_neg hrunning, if_neg hrunning]
    exact hsets.agrees_of_error invalidState_ne_ok pnf

theorem handlePhyRequest_agrees (hsets : Sets respond onPnf onPhys) (accepts : PhyState → Bool)
    (messageId errorId : UInt16) {unknown : UInt32} (hunknown : unknown ≠ nfapiMsgOk) :
    Agrees
      (handlePhyRequest accepts (some fun _ ↦ answer app respond messageId) respond errorId unknown
        msg pnf)
      (if Admitted accepts pnf msg.phyId then pass app onPnf onPhys msg pnf else pnf) := by
  by_cases hadmitted : Admitted accepts pnf msg.phyId
  · obtain ⟨phy, -, hcall⟩ := handlePhyRequest_of_admitted hadmitted
    rw [if_pos hadmitted, hcall]
    exact hsets.answer_agrees messageId
  · obtain ⟨error, herror, hrefused⟩ := handlePhyRequest_of_refused hadmitted hunknown
    rw [if_neg hadmitted, hrefused]
    exact hsets.agrees_of_error herror pnf

end Handlers

/-- The LTE and the NR handlers act like the one machine. -/
theorem step_agrees (protocol : Protocol) (pnf : Pnf (Journal τ)) (msg : Message) :
    Agrees (step app protocol pnf msg) (lifeCycle app pnf msg) := by
  obtain ⟨phyId, request⟩ := msg
  cases protocol with
  | lte =>
    cases request with
    | pnfParam => exact handlePnfRequest_agrees sets_pnfPackAndSendP5Message _ _ _
    | pnfConfig rf => exact handlePnfConfigRequest_agrees (sets_pnfResponse _ _) _ _ _
    | pnfStart => exact handlePnfRequest_agrees (sets_pnfResponse _ _) _ _ _
    | pnfStop => exact handlePnfRequest_agrees (sets_pnfResponse _ _) _ _ _
    | param => exact handlePhyRequest_agrees sets_pnfPackAndSendP5Message _ _ _ invalidConfig_ne_ok
    | config => exact handlePhyRequest_agrees (sets_phyResponse _ _) _ _ _ invalidConfig_ne_ok
    | start => exact handlePhyRequest_agrees (sets_phyResponse _ _) _ _ _ invalidConfig_ne_ok
    | stop => exact handlePhyRequest_agrees (sets_phyResponse _ _) _ _ _ invalidConfig_ne_ok
    | measurement =>
      exact handlePhyRequest_agrees sets_pnfPackAndSendP5Message _ _ _ invalidConfig_ne_ok
  | nr =>
    cases request with
    | pnfParam => exact handlePnfRequest_agrees sets_pnfNrPackAndSendP5Message _ _ _
    | pnfConfig rf => exact handlePnfConfigRequest_agrees (sets_pnfResponse _ _) _ _ _
    | pnfStart => exact handlePnfRequest_agrees (sets_pnfResponse _ _) _ _ _
    | pnfStop => exact handlePnfRequest_agrees (sets_pnfResponse _ _) _ _ _
    | param => exact handlePhyRequest_agrees sets_pnfNrPackAndSendP5Message _ _ _ invalidConfig_ne_ok
    | config => exact handlePhyRequest_agrees (sets_phyResponse _ _) _ _ _ invalidConfig_ne_ok
    | start => exact handlePhyRequest_agrees (sets_phyResponse _ _) _ _ _ invalidState_ne_ok
    | stop => exact handlePhyRequest_agrees (sets_phyResponse _ _) _ _ _ invalidConfig_ne_ok
    | measurement =>
      exact handlePhyRequest_agrees sets_pnfPackAndSendP5Message _ _ _ invalidConfig_ne_ok

/-! ### Where the machine keeps the law -/

/-- The PHYs that a PNF_CONFIG request creates are IDLE. -/
theorem idle_of_mem_createPhys {rf : PnfPhyRfConfig} :
    ∀ phy ∈ createPhys rf, phy.state = .idle := by
  have hfold : ∀ (indices : List ℕ) (phys : List PhyConfig), (∀ phy ∈ phys, phy.state = .idle) →
      ∀ phy ∈ indices.foldl (fun phys i ↦ nfapiPnfPhyConfigAdd phys ⟨rf.phyId i, .idle⟩) phys,
        phy.state = .idle := by
    intro indices
    induction indices with
    | nil => exact fun _ hphys ↦ hphys
    | cons i rest ih =>
      intro phys hphys
      apply ih
      exact List.forall_mem_cons.mpr ⟨rfl, hphys⟩
  unfold createPhys
  split_ifs
  · exact hfold _ [] fun phy hphy ↦ absurd hphy List.not_mem_nil
  · exact fun phy hphy ↦ absurd hphy List.not_mem_nil

theorem runningOnly_of_idle {pnf : Pnf σ} (h : ∀ phy ∈ pnf.phys, phy.state = .idle) :
    RunningOnly pnf := by
  intro phy hphy hphyRunning
  rw [h phy hphy] at hphyRunning
  cases hphyRunning

section Law

variable {before after : Pnf (Journal τ)} {msg : Message} {onPnf : PnfState → PnfState}
  {onPhys : UInt16 → List PhyConfig → List PhyConfig}

theorem not_passed (h : after.userData = before.userData) : ¬ Passed before msg after := by
  unfold Passed
  rw [h]
  intro hsame
  have hlength := congrArg List.length hsame
  rw [List.length_append, List.length_singleton] at hlength
  exact absurd hlength (Nat.ne_of_lt (Nat.lt_succ_self _))

/-- The states after a request that the application accepts. -/
theorem pass_of_accepts (h : app.Accepts before msg) :
    (pass app onPnf onPhys msg before).state = onPnf before.state ∧
      (pass app onPnf onPhys msg before).phys = onPhys msg.phyId before.phys :=
  ⟨if_pos h, if_pos h⟩

/-- The states after a request that the application refuses. -/
theorem pass_of_not_accepts (h : ¬ app.Accepts before msg) :
    (pass app onPnf onPhys msg before).state = before.state ∧
      (pass app onPnf onPhys msg before).phys = before.phys :=
  ⟨if_neg h, if_neg h⟩

/-- A message that leaves the states as they are keeps the law, if it is passed on or kept back as
it should be. -/
theorem lawful_of_same (hstate : after.state = before.state) (hphys : after.phys = before.phys)
    (hrunning : RunningOnly before)
    (hconfig : ∀ pnfPhyRfConfig, msg.request = .pnfConfig pnfPhyRfConfig →
      Passed before msg after → ¬ app.Accepts before msg)
    (hstart : msg.request = .start → (Passed before msg after ↔
      before.state = .running ∧ phyState before.phys msg.phyId = some .configured))
    (hstop : msg.request = .stop → (Passed before msg after ↔
      before.state = .running ∧ phyState before.phys msg.phyId = some .running)) :
    Lawful app before msg after where
  pnf := Or.inl hstate
  configured := fun rf hrequest hpassed haccepts ↦ absurd haccepts (hconfig rf hrequest hpassed)
  phy := fun phyId ↦ Or.inl (by rw [hphys])
  start := hstart
  stop := hstop
  running := by
    unfold RunningOnly
    rw [hphys, hstate]
    exact hrunning

variable (hrunning : RunningOnly before)

include hrunning

/-- A request that has no effect on the states keeps the law. -/
theorem lawful_of_effectless {condition : Prop} [Decidable condition]
    (hconfig : ∀ pnfPhyRfConfig, msg.request ≠ .pnfConfig pnfPhyRfConfig)
    (hstart : msg.request ≠ .start) (hstop : msg.request ≠ .stop) :
    Lawful app before msg
      (if condition then pass app id (fun _ ↦ id) msg before else before) := by
  apply lawful_of_same _ _ hrunning
  · exact fun rf hrequest ↦ absurd hrequest (hconfig rf)
  · exact fun hrequest ↦ absurd hrequest hstart
  · exact fun hrequest ↦ absurd hrequest hstop
  · split_ifs
    · exact ite_self _
    · rfl
  · split_ifs
    · exact ite_self _
    · rfl

/-- PNF_CONFIG keeps the law exactly if it succeeds or leaves the states of the PHYs. -/
theorem lawful_pnfConfig_iff {phyId : UInt16} {rf : PnfPhyRfConfig} :
    Lawful app before ⟨phyId, .pnfConfig rf⟩ (lifeCycle app before ⟨phyId, .pnfConfig rf⟩) ↔
      Orderly app before ⟨phyId, .pnfConfig rf⟩ := by
  unfold lifeCycle Orderly
  dsimp only
  by_cases hstate : before.state = .running
  · rw [if_neg (not_not.mpr hstate)]
    refine iff_of_true ?_ fun hnot ↦ absurd hstate hnot
    exact lawful_of_same rfl rfl hrunning (fun _ _ hpassed ↦ absurd hpassed (not_passed rfl))
      (fun h ↦ by cases h) (fun h ↦ by cases h)
  rw [if_pos hstate]
  have hidle := @idle_of_mem_createPhys rf
  by_cases haccepts : app.Accepts before ⟨phyId, .pnfConfig rf⟩
  · obtain ⟨hafter, hphys⟩ := @pass_of_accepts τ app { before with phys := createPhys rf }
      ⟨phyId, .pnfConfig rf⟩ (fun _ ↦ .configured) (fun _ ↦ id) haccepts
    refine iff_of_true ?_ fun _ hrefused ↦ absurd haccepts hrefused
    constructor
    · rw [hafter]
      exact Or.inr ⟨⟨rfl, haccepts⟩, .config hstate⟩
    · intro _ _ _ _
      rw [hphys]
      exact ⟨hafter, hidle⟩
    · intro other
      refine Or.inr ⟨⟨rfl, haccepts⟩, .pnfConfig ?_⟩
      rw [hphys]
      cases hother : phyState (createPhys rf) other with
      | none => exact Or.inl hother
      | some state =>
        have hmem := exists_mem_of_phyState hother
        exact Or.inr (hother.trans (congrArg some (hidle _ hmem)))
    · exact fun h ↦ by cases h
    · exact fun h ↦ by cases h
    · exact runningOnly_of_idle (hphys ▸ hidle)
  · obtain ⟨hafter, hphys⟩ := @pass_of_not_accepts τ app { before with phys := createPhys rf }
      ⟨phyId, .pnfConfig rf⟩ (fun _ ↦ .configured) (fun _ ↦ id) haccepts
    constructor
    · intro hlawful _ _ other
      rcases hlawful.phy other with hsame | ⟨⟨-, habsurd⟩, -⟩
      · rw [hphys] at hsame
        exact hsame
      · exact absurd habsurd haccepts
    · intro horderly
      constructor
      · exact Or.inl hafter
      · exact fun _ _ _ habsurd ↦ absurd habsurd haccepts
      · intro other
        rw [hphys]
        exact Or.inl (horderly hstate haccepts other)
      · exact fun h ↦ by cases h
      · exact fun h ↦ by cases h
      · exact runningOnly_of_idle (hphys ▸ hidle)

/-- PNF_START keeps the law. -/
theorem lawful_pnfStart {phyId : UInt16} :
    Lawful app before ⟨phyId, .pnfStart⟩ (lifeCycle app before ⟨phyId, .pnfStart⟩) := by
  unfold lifeCycle
  dsimp only
  by_cases hstate : before.state = .configured
  · rw [if_pos hstate]
    by_cases haccepts : app.Accepts before ⟨phyId, .pnfStart⟩
    · obtain ⟨hafter, hphys⟩ := @pass_of_accepts τ app before ⟨phyId, .pnfStart⟩
        (fun _ ↦ .running) (fun _ ↦ id) haccepts
      constructor
      · rw [hafter, hstate]
        exact Or.inr ⟨⟨rfl, haccepts⟩, .start⟩
      · exact fun _ h ↦ by cases h
      · intro other
        rw [hphys]
        exact Or.inl rfl
      · exact fun h ↦ by cases h
      · exact fun h ↦ by cases h
      · exact fun _ _ _ ↦ hafter
    · obtain ⟨hafter, hphys⟩ := @pass_of_not_accepts τ app before ⟨phyId, .pnfStart⟩
        (fun _ ↦ .running) (fun _ ↦ id) haccepts
      exact lawful_of_same hafter hphys hrunning (fun _ h ↦ by cases h) (fun h ↦ by cases h)
        (fun h ↦ by cases h)
  · rw [if_neg hstate]
    exact lawful_of_same rfl rfl hrunning (fun _ h ↦ by cases h) (fun h ↦ by cases h)
      (fun h ↦ by cases h)

/-- PNF_STOP keeps the law exactly if no PHY is left RUNNING. -/
theorem lawful_pnfStop_iff {phyId : UInt16} :
    Lawful app before ⟨phyId, .pnfStop⟩ (lifeCycle app before ⟨phyId, .pnfStop⟩) ↔
      Orderly app before ⟨phyId, .pnfStop⟩ := by
  unfold lifeCycle Orderly
  dsimp only
  by_cases hstate : before.state = .running
  · rw [if_pos hstate]
    by_cases haccepts : app.Accepts before ⟨phyId, .pnfStop⟩
    · obtain ⟨hafter, hphys⟩ := @pass_of_accepts τ app before ⟨phyId, .pnfStop⟩
        (fun _ ↦ .configured) (fun _ ↦ id) haccepts
      constructor
      · intro hlawful _ _ phy hphy hphyRunning
        have hend := hlawful.running phy (by rw [hphys]; exact hphy) hphyRunning
        rw [hafter] at hend
        cases hend
      · intro horderly
        constructor
        · rw [hafter, hstate]
          exact Or.inr ⟨⟨rfl, haccepts⟩, .stop⟩
        · exact fun _ h ↦ by cases h
        · intro other
          rw [hphys]
          exact Or.inl rfl
        · exact fun h ↦ by cases h
        · exact fun h ↦ by cases h
        · intro phy hphy hphyRunning
          rw [hphys] at hphy
          exact absurd hphyRunning (horderly hstate haccepts phy hphy)
    · obtain ⟨hafter, hphys⟩ := @pass_of_not_accepts τ app before ⟨phyId, .pnfStop⟩
        (fun _ ↦ .configured) (fun _ ↦ id) haccepts
      refine iff_of_true ?_ fun _ habsurd ↦ absurd habsurd haccepts
      exact lawful_of_same hafter hphys hrunning (fun _ h ↦ by cases h) (fun h ↦ by cases h)
        (fun h ↦ by cases h)
  · rw [if_neg hstate]
    refine iff_of_true ?_ fun habsurd ↦ absurd habsurd hstate
    exact lawful_of_same rfl rfl hrunning (fun _ h ↦ by cases h) (fun h ↦ by cases h)
      (fun h ↦ by cases h)

/-- A request that writes the state of its PHY keeps the law, if the PHY may get into that state
and the request is passed on as it should be. -/
theorem lawful_of_write {state reached : PhyState} (hpnf : before.state = .running)
    (hknown : phyState before.phys msg.phyId = some state) (hafter : after.state = before.state)
    (hphys : after.phys = setPhyState msg.phyId reached before.phys)
    (hpassed : Passed before msg after) (haccepts : app.Accepts before msg)
    (htransition : PhyTransition msg.phyId msg (some state) (some reached))
    (hconfig : ∀ pnfPhyRfConfig, msg.request ≠ .pnfConfig pnfPhyRfConfig)
    (hstart : msg.request = .start → state = .configured)
    (hstop : msg.request = .stop → state = .running) : Lawful app before msg after where
  pnf := Or.inl hafter
  configured := fun rf hrequest ↦ absurd hrequest (hconfig rf)
  phy := by
    intro other
    rw [hphys]
    by_cases hother : other = msg.phyId
    · rw [hother, phyState_setPhyState_self (by rw [hknown]; exact Option.some_ne_none _), hknown]
      exact Or.inr ⟨⟨hpassed, haccepts⟩, htransition⟩
    · exact Or.inl (phyState_setPhyState_of_ne hother)
  start := fun hrequest ↦ iff_of_true hpassed ⟨hpnf, hstart hrequest ▸ hknown⟩
  stop := fun hrequest ↦ iff_of_true hpassed ⟨hpnf, hstop hrequest ▸ hknown⟩
  running := by
    intro phy hphy hphyRunning
    rw [hafter]
    rw [hphys] at hphy
    rcases mem_setPhyState hphy with hold | -
    · exact hrunning phy hold hphyRunning
    · exact hpnf

/-- CONFIG keeps the law. -/
theorem lawful_config {phyId : UInt16} :
    Lawful app before ⟨phyId, .config⟩ (lifeCycle app before ⟨phyId, .config⟩) := by
  unfold lifeCycle
  dsimp only
  by_cases hadmitted : Admitted PhyState.notRunning before phyId
  · obtain ⟨hpnf, state, hknown, hstate⟩ := admitted_notRunning_iff.mp hadmitted
    rw [if_pos hadmitted]
    by_cases haccepts : app.Accepts before ⟨phyId, .config⟩
    · obtain ⟨hafter, hphys⟩ := @pass_of_accepts τ app before ⟨phyId, .config⟩ id
        (setPhyState · .configured) haccepts
      exact lawful_of_write hrunning hpnf hknown hafter hphys rfl haccepts (.config hstate)
        (fun _ h ↦ by cases h) (fun h ↦ by cases h) (fun h ↦ by cases h)
    · obtain ⟨hafter, hphys⟩ := @pass_of_not_accepts τ app before ⟨phyId, .config⟩ id
        (setPhyState · .configured) haccepts
      exact lawful_of_same hafter hphys hrunning (fun _ h ↦ by cases h) (fun h ↦ by cases h)
        (fun h ↦ by cases h)
  · rw [if_neg hadmitted]
    exact lawful_of_same rfl rfl hrunning (fun _ h ↦ by cases h) (fun h ↦ by cases h)
      (fun h ↦ by cases h)

/-- START keeps the law exactly if it does not come for an IDLE PHY. -/
theorem lawful_start_iff {phyId : UInt16} :
    Lawful app before ⟨phyId, .start⟩ (lifeCycle app before ⟨phyId, .start⟩) ↔
      Orderly app before ⟨phyId, .start⟩ := by
  unfold lifeCycle Orderly
  dsimp only
  by_cases hadmitted : Admitted PhyState.notRunning before phyId
  · obtain ⟨hpnf, state, hknown, hstate⟩ := admitted_notRunning_iff.mp hadmitted
    rw [if_pos hadmitted]
    constructor
    · intro hlawful _ hidle
      have hconfigured := ((hlawful.start rfl).mp rfl).2
      dsimp only at hconfigured
      rw [hidle] at hconfigured
      cases hconfigured
    · intro horderly
      have hconfigured : state = .configured := by
        cases state with
        | idle => exact absurd hknown (horderly hpnf)
        | configured => rfl
        | running => exact absurd rfl hstate
      rw [hconfigured] at hknown
      by_cases haccepts : app.Accepts before ⟨phyId, .start⟩
      · obtain ⟨hafter, hphys⟩ := @pass_of_accepts τ app before ⟨phyId, .start⟩ id
          (setPhyState · .running) haccepts
        exact lawful_of_write hrunning hpnf hknown hafter hphys rfl haccepts .start
          (fun _ h ↦ by cases h) (fun _ ↦ rfl) (fun h ↦ by cases h)
      · obtain ⟨hafter, hphys⟩ := @pass_of_not_accepts τ app before ⟨phyId, .start⟩ id
          (setPhyState · .running) haccepts
        exact lawful_of_same hafter hphys hrunning (fun _ h ↦ by cases h)
          (fun _ ↦ iff_of_true rfl ⟨hpnf, hknown⟩) (fun h ↦ by cases h)
  · rw [if_neg hadmitted]
    rw [admitted_notRunning_iff] at hadmitted
    refine iff_of_true ?_ fun hpnf hidle ↦ hadmitted ⟨hpnf, .idle, hidle, by decide⟩
    refine lawful_of_same rfl rfl hrunning (fun _ h ↦ by cases h) (fun _ ↦ ?_) (fun h ↦ by cases h)
    exact iff_of_false (not_passed rfl)
      fun h ↦ hadmitted ⟨h.1, .configured, h.2, by decide⟩

/-- STOP keeps the law exactly if it comes for no PHY that is known while the PNF is RUNNING. -/
theorem lawful_stop_iff {phyId : UInt16} :
    Lawful app before ⟨phyId, .stop⟩ (lifeCycle app before ⟨phyId, .stop⟩) ↔
      Orderly app before ⟨phyId, .stop⟩ := by
  unfold lifeCycle Orderly
  dsimp only
  by_cases hadmitted : Admitted PhyState.notRunning before phyId
  · obtain ⟨hpnf, state, hknown, hstate⟩ := admitted_notRunning_iff.mp hadmitted
    rw [if_pos hadmitted]
    refine iff_of_false ?_ ?_
    · intro hlawful
      have hstopped := ((hlawful.stop rfl).mp rfl).2
      dsimp only at hstopped
      rw [hknown] at hstopped
      exact hstate (Option.some.inj hstopped)
    · intro horderly
      rw [hknown] at horderly
      cases horderly hpnf
  · rw [if_neg hadmitted]
    rw [admitted_notRunning_iff] at hadmitted
    constructor
    · intro hlawful hpnf
      -- a PHY that is known and refused is RUNNING, and the law has its STOP passed on
      cases hknown : phyState before.phys phyId with
      | none => rfl
      | some state =>
        have hstate : state = .running := by
          apply Classical.byContradiction
          intro hother
          exact hadmitted ⟨hpnf, state, hknown, hother⟩
        have hpassed := (hlawful.stop rfl).mpr ⟨hpnf, hstate ▸ hknown⟩
        exact absurd hpassed (not_passed rfl)
    · intro horderly
      refine lawful_of_same rfl rfl hrunning (fun _ h ↦ by cases h) (fun h ↦ by cases h)
        (fun _ ↦ iff_of_false (not_passed rfl) ?_)
      rintro ⟨hpnf, hknown⟩
      dsimp only at hknown
      rw [horderly hpnf] at hknown
      cases hknown

end Law

/-- The machine keeps the law exactly if the message is orderly. -/
theorem lawful_lifeCycle_iff {pnf : Pnf (Journal τ)} (hrunning : RunningOnly pnf)
    (msg : Message) : Lawful app pnf msg (lifeCycle app pnf msg) ↔ Orderly app pnf msg := by
  obtain ⟨phyId, request⟩ := msg
  cases request with
  | pnfParam =>
    exact iff_of_true (lawful_of_effectless hrunning (fun _ h ↦ by cases h) (fun h ↦ by cases h)
      (fun h ↦ by cases h)) trivial
  | pnfConfig rf => exact lawful_pnfConfig_iff hrunning
  | pnfStart => exact iff_of_true (lawful_pnfStart hrunning) trivial
  | pnfStop => exact lawful_pnfStop_iff hrunning
  | param =>
    exact iff_of_true (lawful_of_effectless hrunning (fun _ h ↦ by cases h) (fun h ↦ by cases h)
      (fun h ↦ by cases h)) trivial
  | config => exact iff_of_true (lawful_config hrunning) trivial
  | start => exact lawful_start_iff hrunning
  | stop => exact lawful_stop_iff hrunning
  | measurement =>
    exact iff_of_true (lawful_of_effectless hrunning (fun _ h ↦ by cases h) (fun h ↦ by cases h)
      (fun h ↦ by cases h)) trivial

/-- The law does not look at what is sent. -/
theorem Agrees.lawful_iff {before after other : Pnf (Journal τ)} {msg : Message}
    (h : Agrees after other) : Lawful app before msg after ↔ Lawful app before msg other := by
  obtain ⟨hstate, hphys, hdata⟩ := h
  cases after
  cases other
  cases hstate
  cases hphys
  cases hdata
  exact ⟨fun ⟨a, b, c, d, e, f⟩ ↦ ⟨a, b, c, d, e, f⟩, fun ⟨a, b, c, d, e, f⟩ ↦ ⟨a, b, c, d, e, f⟩⟩

/-- So do the handlers. -/
theorem lawful_step_iff (protocol : Protocol) {pnf : Pnf (Journal τ)} (hrunning : RunningOnly pnf)
    (msg : Message) : Lawful app pnf msg (step app protocol pnf msg) ↔ Orderly app pnf msg :=
  (step_agrees protocol pnf msg).lawful_iff.trans (lawful_lifeCycle_iff hrunning msg)

/-- Every step of a run keeps the law exactly if every message of the run is orderly. -/
theorem lifeCycle_lawful_iff (protocol : Protocol) (app : Application τ) (start : τ)
    (messages : List Message) :
    Along (step app protocol)
        (fun pnf msg ↦ Lawful app pnf msg (step app protocol pnf msg))
        (Pnf.initial ⟨start, []⟩) messages ↔
      Along (step app protocol) (Orderly app) (Pnf.initial ⟨start, []⟩) messages :=
  along_iff (fun _ msg hrunning ↦ lawful_step_iff protocol hrunning msg)
    (fun _ _ _ hlawful ↦ hlawful.running) messages
    fun _ hphy ↦ absurd hphy List.not_mem_nil

/-- An application that accepts whatever it is given. -/
def accepting : Application Unit where
  next := fun _ _ ↦ ()
  errorCode := fun _ _ ↦ nfapiMsgOk

/-- Brings up the PNF with the PHY 1 and then the PHY, and stops the PHY. -/
def bringUpAndStop : List Message :=
  [⟨0, .pnfConfig ⟨nfapiPnfPhyRfTag, 1, fun _ ↦ 1⟩⟩, ⟨0, .pnfStart⟩, ⟨1, .config⟩, ⟨1, .start⟩,
    ⟨1, .stop⟩]

/-- The STOP of a PHY that is RUNNING is not passed on. -/
theorem bringUpAndStop_not_lawful :
    ¬ Along (step accepting .lte)
        (fun pnf msg ↦ Lawful accepting pnf msg (step accepting .lte pnf msg))
        (Pnf.initial ⟨(), []⟩) bringUpAndStop := by
  rintro ⟨-, -, -, -, hlawful, -⟩
  have hpassed := (hlawful.stop rfl).mpr (by decide)
  exact absurd hpassed (not_passed rfl)

end MultiUeProxy.P5
