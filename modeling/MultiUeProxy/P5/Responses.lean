import MultiUeProxy.P5.LifeCycle

/-!
# What the proxy answers on P5

The proxy registers callbacks that answer most requests with OK at once. The VNF waits for the
answer to every request, so each should be answered once, under the right id and for the right
PHY.

`answered_iff` is the condition under which that happens. An answer is missing where the response
is about a PHY that is not known, where a callback is not registered (STOP) or answers only
sometimes (PNF_START), and where the NR packer does not know the id (the errors of an NR CONFIG).
`isolated_iff` is about several PHYs: the callback of CONFIG answers for the first PHY of the
table of the proxy, whichever PHY the request is for.
-/

set_option autoImplicit false
set_option relaxedAutoImplicit false

namespace MultiUeProxy.P5

/-! ### The callbacks -/

/-- Of `pnf_info`, the id in the first entry of the table of PHYs, which is the only one in use.
The other fields are addresses and parameters of the radio. -/
structure PnfInfo where
  id : UInt16
  deriving DecidableEq, Repr

def pnfParamRequest (_ : Message) (config : Pnf PnfInfo) : Pnf PnfInfo :=
  nfapiPnfPnfParamResp ⟨0, nfapiPnfParamResponse, nfapiMsgOk⟩ config

def pnfNrParamRequest (_ : Message) (config : Pnf PnfInfo) : Pnf PnfInfo :=
  nfapiNrPnfPnfParamResp ⟨0, nfapiPnfParamResponse, nfapiMsgOk⟩ config

def pnfConfigRequest (req : PnfPhyRfConfig) (_ : Message) (config : Pnf PnfInfo) : Pnf PnfInfo :=
  nfapiPnfPnfConfigResp ⟨0, nfapiPnfConfigResponse, nfapiMsgOk⟩
    { config with userData := ⟨req.phyId 0⟩ }

def pnfNrConfigRequest (req : PnfPhyRfConfig) (_ : Message) (config : Pnf PnfInfo) : Pnf PnfInfo :=
  nfapiNrPnfPnfConfigResp ⟨0, nfapiNrPhyMsgTypePnfConfigResponse, nfapiMsgOk⟩
    { config with userData := ⟨req.phyId 0⟩ }

def pnfStartRequest (_ : Message) (config : Pnf PnfInfo) : Pnf PnfInfo :=
  if config.userData.id ≠ 0 then
    nfapiPnfPnfStartResp ⟨0, nfapiPnfStartResponse, nfapiMsgOk⟩ config
  else config

def pnfNrStartRequest (_ : Message) (config : Pnf PnfInfo) : Pnf PnfInfo :=
  if config.userData.id ≠ 0 then
    nfapiNrPnfPnfStartResp ⟨0, nfapiNrPhyMsgTypePnfStartResponse, nfapiMsgOk⟩ config
  else config

def pnfStopRequest (_ : Message) (config : Pnf PnfInfo) : Pnf PnfInfo :=
  nfapiPnfPnfStopResp ⟨0, nfapiPnfStopResponse, nfapiMsgOk⟩ config

def paramRequest (_ : PhyConfig) (req : Message) (config : Pnf PnfInfo) : Pnf PnfInfo :=
  nfapiPnfParamResp ⟨req.phyId, nfapiParamResponse, nfapiMsgOk⟩ config

def nrParamRequest (_ : PhyConfig) (req : Message) (config : Pnf PnfInfo) : Pnf PnfInfo :=
  nfapiNrPnfParamResp ⟨req.phyId, nfapiNrPhyMsgTypeParamResponse, nfapiMsgOk⟩ config

/-- The id of the response is that of the table. -/
def configRequest (_ : PhyConfig) (_ : Message) (config : Pnf PnfInfo) : Pnf PnfInfo :=
  nfapiPnfConfigResp ⟨config.userData.id, nfapiConfigResponse, nfapiMsgOk⟩ config

def nrConfigRequest (_ : PhyConfig) (_ : Message) (config : Pnf PnfInfo) : Pnf PnfInfo :=
  nfapiNrPnfConfigResp ⟨config.userData.id, nfapiNrPhyMsgTypeConfigResponse, nfapiMsgOk⟩ config

def startRequest (phy : PhyConfig) (_ : Message) (config : Pnf PnfInfo) : Pnf PnfInfo :=
  nfapiPnfStartResp ⟨phy.phyId, nfapiStartResponse, nfapiMsgOk⟩ config

def nrStartRequest (phy : PhyConfig) (_ : Message) (config : Pnf PnfInfo) : Pnf PnfInfo :=
  nfapiNrPnfStartResp ⟨phy.phyId, nfapiNrPhyMsgTypeStartResponse, nfapiMsgOk⟩ config

def measurementRequest (_ : PhyConfig) (req : Message) (config : Pnf PnfInfo) : Pnf PnfInfo :=
  nfapiPnfMeasurementResp ⟨req.phyId, nfapiMeasurementResponse, nfapiMsgOk⟩ config

def configureNfapiPnf : Callbacks PnfInfo where
  pnfParamReq := some pnfParamRequest
  pnfConfigReq := some pnfConfigRequest
  pnfStartReq := some pnfStartRequest
  pnfStopReq := some pnfStopRequest
  paramReq := some paramRequest
  configReq := some configRequest
  startReq := some startRequest
  measurementReq := some measurementRequest

def configureNrNfapiPnf : Callbacks PnfInfo where
  pnfNrParamReq := some pnfNrParamRequest
  pnfNrConfigReq := some pnfNrConfigRequest
  pnfNrStartReq := some pnfNrStartRequest
  pnfStopReq := some pnfStopRequest
  nrParamReq := some nrParamRequest
  nrConfigReq := some nrConfigRequest
  nrStartReq := some nrStartRequest
  measurementReq := some measurementRequest

def proxyCallbacks : Protocol → Callbacks PnfInfo
  | .lte => configureNfapiPnf
  | .nr => configureNrNfapiPnf

/-- The proxy handles a message. -/
def proxyStep (protocol : Protocol) (pnf : Pnf PnfInfo) (msg : Message) : Pnf PnfInfo :=
  handleP5Message (proxyCallbacks protocol) protocol msg pnf

/-- The proxy after some messages. -/
def proxyAfter (protocol : Protocol) (messages : List Message) : Pnf PnfInfo :=
  messages.foldl (proxyStep protocol) (Pnf.initial ⟨0⟩)

/-! ### One answer to a request -/

/-- One response goes out, it has the id that belongs to the request and the PHY of the request, and
if it is not OK, then the states are as before. -/
def Answered (protocol : Protocol) (before : Pnf PnfInfo) (msg : Message) (after : Pnf PnfInfo) :
    Prop :=
  ∃ response, after.sent = before.sent ++ [response] ∧
    response.messageId = responseId protocol msg.request ∧ response.phyId = msg.phyId ∧
    (response.errorCode ≠ nfapiMsgOk → after.state = before.state ∧ after.phys = before.phys)

/-- The condition on a request, in the state that it finds. -/
def Answerable (protocol : Protocol) (pnf : Pnf PnfInfo) (msg : Message) : Prop :=
  match msg.request with
  | .pnfParam => msg.phyId = 0
  | .pnfConfig _ => msg.phyId = 0
  | .pnfStart => msg.phyId = 0 ∧ (pnf.state = .configured → pnf.userData.id ≠ 0)
  | .pnfStop => msg.phyId = 0
  | .param => True
  | .config =>
    match protocol with
    | .lte => phyState pnf.phys msg.phyId ≠ none ∧
        (Admitted PhyState.notRunning pnf msg.phyId → pnf.userData.id = msg.phyId)
    | .nr => Admitted PhyState.notRunning pnf msg.phyId ∧ pnf.userData.id = msg.phyId
  | .start => phyState pnf.phys msg.phyId ≠ none
  | .stop => phyState pnf.phys msg.phyId ≠ none ∧
      (pnf.state = .running → phyState pnf.phys msg.phyId = some .running)
  | .measurement => True

section Answers

variable {protocol : Protocol} {before after : Pnf PnfInfo} {msg : Message} {resp : Response}

/-- If one response goes out, only its contents count. -/
theorem answered_iff_of_sent (hsent : after.sent = before.sent ++ [resp]) :
    Answered protocol before msg after ↔
      resp.messageId = responseId protocol msg.request ∧ resp.phyId = msg.phyId ∧
        (resp.errorCode ≠ nfapiMsgOk → after.state = before.state ∧ after.phys = before.phys) := by
  constructor
  · rintro ⟨response, hother, hanswer⟩
    have hsame : [resp] = [response] := List.append_cancel_left (hsent.symm.trans hother)
    rw [List.singleton_inj.mp hsame]
    exact hanswer
  · intro hanswer
    exact ⟨resp, hsent, hanswer⟩

/-- A request to which nothing goes out is not answered. -/
theorem not_answered (hsilent : after.sent = before.sent) : ¬ Answered protocol before msg after := by
  rintro ⟨response, hsent, -⟩
  have hlength := congrArg List.length (hsilent.symm.trans hsent)
  rw [List.length_append, List.length_singleton] at hlength
  exact absurd hlength (Nat.ne_of_lt (Nat.lt_succ_self _))

variable {σ : Type} {packedIds : List UInt16} {pnf : Pnf σ}

theorem packAndSend_of_mem (h : resp.messageId ∈ packedIds) :
    packAndSend packedIds resp pnf = { pnf with sent := pnf.sent ++ [resp] } := if_pos h

theorem packAndSend_of_not_mem (h : resp.messageId ∉ packedIds) :
    packAndSend packedIds resp pnf = pnf := if_neg h

theorem pnfResponse_sent {state : PnfState} (h : resp.messageId ∈ packedIds) :
    (pnfResponse (packAndSend packedIds) state resp pnf).sent = pnf.sent ++ [resp] := by
  unfold pnfResponse
  rw [packAndSend_of_mem h]
  dsimp only
  split_ifs
  · rfl
  · rfl

theorem phyResponse_sent {state : PhyState} (h : resp.messageId ∈ packedIds)
    (hknown : phyState pnf.phys resp.phyId ≠ none) :
    (phyResponse (packAndSend packedIds) state resp pnf).sent = pnf.sent ++ [resp] := by
  unfold phyResponse
  cases hfind : nfapiPnfPhyConfigFind pnf.phys resp.phyId with
  | none => exact absurd (by rw [phyState, hfind]; rfl) hknown
  | some phy =>
    dsimp only
    rw [packAndSend_of_mem h]
    dsimp only
    split_ifs
    · rfl
    · rfl

theorem phyResponse_of_unknown {state : PhyState} (send : Response → Pnf σ → Pnf σ)
    (hunknown : phyState pnf.phys resp.phyId = none) :
    phyResponse send state resp pnf = pnf := by
  unfold phyResponse
  cases hfind : nfapiPnfPhyConfigFind pnf.phys resp.phyId with
  | none => rfl
  | some phy =>
    rw [phyState, hfind] at hunknown
    cases hunknown

/-- A success under the right id is an answer exactly if it is for the right PHY. -/
theorem answered_ok_iff {phyId : UInt16}
    (hsent : after.sent = before.sent ++ [⟨phyId, responseId protocol msg.request, nfapiMsgOk⟩]) :
    Answered protocol before msg after ↔ phyId = msg.phyId := by
  rw [answered_iff_of_sent hsent]
  exact ⟨fun h ↦ h.2.1, fun h ↦ ⟨rfl, h, fun herror ↦ absurd rfl herror⟩⟩

/-- So is an error that leaves the states. -/
theorem answered_error_iff {phyId : UInt16} {error : UInt32} (hagrees : Agrees after before)
    (hsent : after.sent = before.sent ++ [⟨phyId, responseId protocol msg.request, error⟩]) :
    Answered protocol before msg after ↔ phyId = msg.phyId := by
  rw [answered_iff_of_sent hsent]
  exact ⟨fun h ↦ h.2.1, fun h ↦ ⟨rfl, h, fun _ ↦ ⟨hagrees.state, hagrees.phys⟩⟩⟩

/-- An error that is only sent is an answer. -/
theorem answered_packAndSend {error : UInt32} {messageId : UInt16} (hmem : messageId ∈ packedIds)
    (hid : messageId = responseId protocol msg.request) :
    Answered protocol before msg
      (packAndSend packedIds ⟨msg.phyId, messageId, error⟩ before) := by
  subst hid
  have hsent : (packAndSend packedIds ⟨msg.phyId, responseId protocol msg.request, error⟩
      before).sent = before.sent ++ [⟨msg.phyId, responseId protocol msg.request, error⟩] := by
    rw [packAndSend_of_mem hmem]
  exact (answered_error_iff (packAndSend_agrees _ _ _) hsent).mpr rfl

/-- An error about a PHY is an answer exactly if the PHY is known. -/
theorem answered_phyResponse_iff {state : PhyState} {error : UInt32} {messageId : UInt16}
    (hmem : messageId ∈ packedIds) (hid : messageId = responseId protocol msg.request)
    (herror : error ≠ nfapiMsgOk) :
    Answered protocol before msg
        (phyResponse (packAndSend packedIds) state ⟨msg.phyId, messageId, error⟩ before) ↔
      phyState before.phys msg.phyId ≠ none := by
  subst hid
  constructor
  · intro hanswered hunknown
    rw [phyResponse_of_unknown _ hunknown] at hanswered
    exact not_answered rfl hanswered
  · intro hknown
    have hagrees := (sets_phyResponse packedIds state).agrees_of_error
      (show (Response.mk msg.phyId (responseId protocol msg.request) error).errorCode ≠ nfapiMsgOk
        from herror) before
    exact (answered_error_iff hagrees (phyResponse_sent hmem hknown)).mpr rfl

/-- An error about a PHY under an id that the packer does not know goes nowhere. -/
theorem phyResponse_of_not_mem {state : PhyState} (h : resp.messageId ∉ packedIds)
    (herror : resp.errorCode ≠ nfapiMsgOk) :
    phyResponse (packAndSend packedIds) state resp pnf = pnf := by
  unfold phyResponse
  rw [if_neg herror, packAndSend_of_not_mem h]
  cases nfapiPnfPhyConfigFind pnf.phys resp.phyId with
  | none => rfl
  | some phy => rfl

/-- A request to the PNF whose callback answers with OK is answered exactly if it has the PHY id
zero. -/
theorem handlePnfRequest_answered_iff {run : Message → Pnf PnfInfo → Pnf PnfInfo}
    {respond : Response → Pnf PnfInfo → Pnf PnfInfo} {onPnf : PnfState → PnfState}
    {onPhys : UInt16 → List PhyConfig → List PhyConfig} {expected : PnfState}
    (hsets : Sets respond onPnf onPhys)
    (hsent : ∀ error, (respond ⟨0, responseId protocol msg.request, error⟩ before).sent =
      before.sent ++ [⟨0, responseId protocol msg.request, error⟩])
    (hrun : before.state = expected → (run msg before).sent =
      before.sent ++ [⟨0, responseId protocol msg.request, nfapiMsgOk⟩]) :
    Answered protocol before msg
        (handlePnfRequest expected (some run) respond (responseId protocol msg.request) msg before) ↔
      msg.phyId = 0 := by
  unfold handlePnfRequest
  rw [eq_comm (b := (0 : UInt16))]
  by_cases hstate : before.state = expected
  · rw [if_pos hstate]
    exact answered_ok_iff (hrun hstate)
  · rw [if_neg hstate]
    exact answered_error_iff (hsets.agrees_of_error invalidState_ne_ok before) (hsent _)

end Answers

section Requests

/-- The LTE packer knows the response to every request. -/
theorem responseId_mem_packedP5Ids (request : Request) :
    responseId .lte request ∈ packedP5Ids := by
  cases request with
  | pnfConfig _ => exact show (0x0103 : UInt16) ∈ packedP5Ids by decide
  | _ => decide

/-- The NR packer knows the responses that go through it. -/
theorem responseId_mem_packedNrP5Ids {request : Request} (h : request ≠ .measurement) :
    responseId .nr request ∈ packedNrP5Ids := by
  cases request with
  | pnfConfig _ => exact show (0x0103 : UInt16) ∈ packedNrP5Ids by decide
  | measurement => exact absurd rfl h
  | _ => decide

variable {pnf : Pnf PnfInfo} {phyId : UInt16}

theorem phyState_ne_none_of_admitted {accepts : PhyState → Bool}
    (h : Admitted accepts pnf phyId) : phyState pnf.phys phyId ≠ none := by
  intro hunknown
  have hany := h.2
  rw [hunknown] at hany
  cases hany

/-- PNF_PARAM. -/
theorem pnfParam_answered_iff (protocol : Protocol) :
    Answered protocol pnf ⟨phyId, .pnfParam⟩ (proxyStep protocol pnf ⟨phyId, .pnfParam⟩) ↔
      phyId = 0 := by
  cases protocol with
  | lte =>
    exact handlePnfRequest_answered_iff sets_pnfPackAndSendP5Message (fun _ ↦ rfl) fun _ ↦ rfl
  | nr =>
    exact handlePnfRequest_answered_iff sets_pnfNrPackAndSendP5Message (fun _ ↦ rfl) fun _ ↦ rfl

/-- The two handlers of PNF_CONFIG. -/
theorem handlePnfConfigRequest_answered_iff {protocol : Protocol} {rf : PnfPhyRfConfig}
    {run : PnfPhyRfConfig → Message → Pnf PnfInfo → Pnf PnfInfo}
    {respond : Response → Pnf PnfInfo → Pnf PnfInfo} {onPnf : PnfState → PnfState}
    {onPhys : UInt16 → List PhyConfig → List PhyConfig}
    (hsets : Sets respond onPnf onPhys)
    (hsent : ∀ error, (respond ⟨0, nfapiPnfConfigResponse, error⟩ pnf).sent =
      pnf.sent ++ [⟨0, nfapiPnfConfigResponse, error⟩])
    (hrun : (run rf ⟨phyId, .pnfConfig rf⟩ { pnf with phys := createPhys rf }).sent =
      pnf.sent ++ [⟨0, nfapiPnfConfigResponse, nfapiMsgOk⟩]) :
    Answered protocol pnf ⟨phyId, .pnfConfig rf⟩
        (handlePnfConfigRequest (some run) respond nfapiPnfConfigResponse rf
          ⟨phyId, .pnfConfig rf⟩ pnf) ↔ phyId = 0 := by
  unfold handlePnfConfigRequest
  have hcomm : phyId = 0 ↔ 0 = phyId := eq_comm
  rw [hcomm]
  by_cases hstate : pnf.state ≠ .running
  · rw [if_pos hstate]
    exact answered_ok_iff hrun
  · rw [if_neg hstate]
    exact answered_error_iff (hsets.agrees_of_error invalidState_ne_ok pnf) (hsent _)

/-- PNF_CONFIG. -/
theorem pnfConfig_answered_iff (protocol : Protocol) (rf : PnfPhyRfConfig) :
    Answered protocol pnf ⟨phyId, .pnfConfig rf⟩
        (proxyStep protocol pnf ⟨phyId, .pnfConfig rf⟩) ↔ phyId = 0 := by
  cases protocol with
  | lte =>
    have hsets : Sets (nfapiPnfPnfConfigResp : Response → Pnf PnfInfo → Pnf PnfInfo) _ _ :=
      sets_pnfResponse packedP5Ids .configured
    have hmem := responseId_mem_packedP5Ids (.pnfConfig rf)
    exact handlePnfConfigRequest_answered_iff hsets (fun _ ↦ pnfResponse_sent hmem)
      (pnfResponse_sent hmem)
  | nr =>
    have hsets : Sets (nfapiNrPnfPnfConfigResp : Response → Pnf PnfInfo → Pnf PnfInfo) _ _ :=
      sets_pnfResponse packedNrP5Ids .configured
    have hmem := @responseId_mem_packedNrP5Ids (.pnfConfig rf) fun h ↦ by cases h
    exact handlePnfConfigRequest_answered_iff hsets (fun _ ↦ pnfResponse_sent hmem)
      (pnfResponse_sent hmem)

/-- PNF_START, which the callback answers only if the table has an id. -/
theorem handlePnfStartRequest_answered_iff {protocol : Protocol}
    {run : Message → Pnf PnfInfo → Pnf PnfInfo} {respond : Response → Pnf PnfInfo → Pnf PnfInfo}
    {onPnf : PnfState → PnfState} {onPhys : UInt16 → List PhyConfig → List PhyConfig}
    (hsets : Sets respond onPnf onPhys)
    (hsent : ∀ error, (respond ⟨0, nfapiPnfStartResponse, error⟩ pnf).sent =
      pnf.sent ++ [⟨0, nfapiPnfStartResponse, error⟩])
    (hrun : run ⟨phyId, .pnfStart⟩ pnf =
      if pnf.userData.id ≠ 0 then respond ⟨0, nfapiPnfStartResponse, nfapiMsgOk⟩ pnf else pnf) :
    Answered protocol pnf ⟨phyId, .pnfStart⟩
        (handlePnfRequest .configured (some run) respond nfapiPnfStartResponse ⟨phyId, .pnfStart⟩
          pnf) ↔ phyId = 0 ∧ (pnf.state = .configured → pnf.userData.id ≠ 0) := by
  by_cases hid : pnf.state = .configured → pnf.userData.id ≠ 0
  · rw [and_iff_left hid]
    refine handlePnfRequest_answered_iff hsets hsent fun hstate ↦ ?_
    rw [hrun, if_pos (hid hstate)]
    exact hsent _
  · refine iff_of_false ?_ fun h ↦ hid h.2
    obtain ⟨hstate, hzero⟩ := Classical.not_imp.mp hid
    unfold handlePnfRequest
    rw [if_pos hstate]
    refine not_answered ?_
    show (run ⟨phyId, .pnfStart⟩ pnf).sent = pnf.sent
    rw [hrun, if_neg hzero]

theorem pnfStart_answered_iff (protocol : Protocol) :
    Answered protocol pnf ⟨phyId, .pnfStart⟩ (proxyStep protocol pnf ⟨phyId, .pnfStart⟩) ↔
      phyId = 0 ∧ (pnf.state = .configured → pnf.userData.id ≠ 0) := by
  cases protocol with
  | lte =>
    have hsets : Sets (nfapiPnfPnfStartResp : Response → Pnf PnfInfo → Pnf PnfInfo) _ _ :=
      sets_pnfResponse packedP5Ids .running
    have hmem := responseId_mem_packedP5Ids .pnfStart
    exact handlePnfStartRequest_answered_iff hsets (fun _ ↦ pnfResponse_sent hmem) rfl
  | nr =>
    have hsets : Sets (nfapiNrPnfPnfStartResp : Response → Pnf PnfInfo → Pnf PnfInfo) _ _ :=
      sets_pnfResponse packedNrP5Ids .running
    have hmem := @responseId_mem_packedNrP5Ids .pnfStart fun h ↦ by cases h
    exact handlePnfStartRequest_answered_iff hsets (fun _ ↦ pnfResponse_sent hmem) rfl

/-- PNF_STOP, for which both protocols have one handler. -/
theorem pnfStop_answered_iff (protocol : Protocol) :
    Answered protocol pnf ⟨phyId, .pnfStop⟩ (proxyStep protocol pnf ⟨phyId, .pnfStop⟩) ↔
      phyId = 0 := by
  have hsets : Sets (nfapiPnfPnfStopResp : Response → Pnf PnfInfo → Pnf PnfInfo) _ _ :=
    sets_pnfResponse packedP5Ids .configured
  have hsent : ∀ error, (nfapiPnfPnfStopResp ⟨0, nfapiPnfStopResponse, error⟩ pnf).sent =
      pnf.sent ++ [⟨0, nfapiPnfStopResponse, error⟩] :=
    fun _ ↦ pnfResponse_sent (responseId_mem_packedP5Ids .pnfStop)
  cases protocol with
  | lte => exact handlePnfRequest_answered_iff hsets hsent fun _ ↦ hsent _
  | nr => exact handlePnfRequest_answered_iff hsets hsent fun _ ↦ hsent _

/-- PARAM and MEASUREMENT, whose responses are only sent. -/
theorem handleSentRequest_answered {protocol : Protocol} {request : Request}
    {accepts : PhyState → Bool} {run : PhyConfig → Message → Pnf PnfInfo → Pnf PnfInfo}
    {packedIds : List UInt16} {messageId : UInt16} (hmem : messageId ∈ packedIds)
    (hid : messageId = responseId protocol request)
    (hrun : ∀ phy, run phy ⟨phyId, request⟩ pnf =
      packAndSend packedIds ⟨phyId, messageId, nfapiMsgOk⟩ pnf) :
    Answered protocol pnf ⟨phyId, request⟩
      (handlePhyRequest accepts (some run) (packAndSend packedIds) messageId nfapiMsgInvalidConfig
        ⟨phyId, request⟩ pnf) := by
  by_cases hadmitted : Admitted accepts pnf phyId
  · obtain ⟨phy, -, hcall⟩ := @handlePhyRequest_of_admitted _ accepts (some run)
      (packAndSend packedIds) messageId nfapiMsgInvalidConfig ⟨phyId, request⟩ pnf hadmitted
    rw [hcall]
    show Answered protocol pnf ⟨phyId, request⟩ (run phy ⟨phyId, request⟩ pnf)
    rw [hrun phy]
    exact answered_packAndSend hmem hid
  · obtain ⟨error, -, hrefused⟩ := @handlePhyRequest_of_refused _ accepts (some run)
      (packAndSend packedIds) messageId nfapiMsgInvalidConfig ⟨phyId, request⟩ pnf hadmitted
      invalidConfig_ne_ok
    rw [hrefused]
    exact answered_packAndSend hmem hid

theorem param_answered (protocol : Protocol) :
    Answered protocol pnf ⟨phyId, .param⟩ (proxyStep protocol pnf ⟨phyId, .param⟩) := by
  cases protocol with
  | lte => exact handleSentRequest_answered (responseId_mem_packedP5Ids .param) rfl fun _ ↦ rfl
  | nr =>
    have hmem := @responseId_mem_packedNrP5Ids .param fun h ↦ by cases h
    exact handleSentRequest_answered hmem rfl fun _ ↦ rfl

theorem measurement_answered (protocol : Protocol) :
    Answered protocol pnf ⟨phyId, .measurement⟩
      (proxyStep protocol pnf ⟨phyId, .measurement⟩) := by
  have hmem := responseId_mem_packedP5Ids .measurement
  cases protocol with
  | lte => exact handleSentRequest_answered hmem rfl fun _ ↦ rfl
  | nr => exact handleSentRequest_answered hmem rfl fun _ ↦ rfl

/-- A success about a PHY, on a request for a known one, is an answer exactly if it is about that
PHY. -/
theorem answered_phySuccess_iff {protocol : Protocol} {request : Request}
    {packedIds : List UInt16} {messageId : UInt16} {state : PhyState} {named : UInt16}
    (hmem : messageId ∈ packedIds) (hid : messageId = responseId protocol request)
    (hknown : phyState pnf.phys phyId ≠ none) :
    Answered protocol pnf ⟨phyId, request⟩
        (phyResponse (packAndSend packedIds) state ⟨named, messageId, nfapiMsgOk⟩ pnf) ↔
      named = phyId := by
  subst hid
  by_cases hnamed : phyState pnf.phys named = none
  · rw [phyResponse_of_unknown _ hnamed]
    refine iff_of_false (not_answered rfl) ?_
    intro hsame
    rw [hsame] at hnamed
    exact hknown hnamed
  · exact answered_ok_iff (phyResponse_sent hmem hnamed)

/-- A request to a PHY whose errors go out under the right id is answered exactly if the PHY is
known and the callback, where it is called, answers. -/
theorem handlePhyRequest_answered_iff {protocol : Protocol} {request : Request}
    {callback : Option (PhyConfig → Message → Pnf PnfInfo → Pnf PnfInfo)}
    {packedIds : List UInt16} {messageId : UInt16} {state : PhyState} {unknown : UInt32}
    {Calls : Prop} (hmem : messageId ∈ packedIds) (hid : messageId = responseId protocol request)
    (hunknown : unknown ≠ nfapiMsgOk)
    (hcall : phyState pnf.phys phyId ≠ none → ∀ phy : PhyConfig, phy.phyId = phyId →
      (Answered protocol pnf ⟨phyId, request⟩
        (call (callback.map fun run ↦ run phy ⟨phyId, request⟩) pnf) ↔ Calls)) :
    Answered protocol pnf ⟨phyId, request⟩
        (handlePhyRequest PhyState.notRunning callback (phyResponse (packAndSend packedIds) state)
          messageId unknown ⟨phyId, request⟩ pnf) ↔
      phyState pnf.phys phyId ≠ none ∧ (Admitted PhyState.notRunning pnf phyId → Calls) := by
  by_cases hadmitted : Admitted PhyState.notRunning pnf phyId
  · have hknown := phyState_ne_none_of_admitted hadmitted
    obtain ⟨phy, hphy, hcalled⟩ := @handlePhyRequest_of_admitted _ PhyState.notRunning callback
      (phyResponse (packAndSend packedIds) state) messageId unknown ⟨phyId, request⟩ pnf hadmitted
    rw [hcalled, hcall hknown phy hphy]
    exact ⟨fun hcalls ↦ ⟨hknown, fun _ ↦ hcalls⟩, fun h ↦ h.2 hadmitted⟩
  · obtain ⟨error, herror, hrefused⟩ := @handlePhyRequest_of_refused _ PhyState.notRunning callback
      (phyResponse (packAndSend packedIds) state) messageId unknown ⟨phyId, request⟩ pnf hadmitted
      hunknown
    rw [hrefused, and_iff_left fun h ↦ absurd h hadmitted]
    exact answered_phyResponse_iff hmem hid herror

/-- CONFIG over LTE. -/
theorem config_answered_iff :
    Answered .lte pnf ⟨phyId, .config⟩ (proxyStep .lte pnf ⟨phyId, .config⟩) ↔
      phyState pnf.phys phyId ≠ none ∧
        (Admitted PhyState.notRunning pnf phyId → pnf.userData.id = phyId) := by
  have hmem := responseId_mem_packedP5Ids .config
  exact handlePhyRequest_answered_iff hmem rfl invalidConfig_ne_ok
    fun hknown _ _ ↦ answered_phySuccess_iff hmem rfl hknown

/-- CONFIG over NR, where an error is never sent. -/
theorem nrConfig_answered_iff :
    Answered .nr pnf ⟨phyId, .config⟩ (proxyStep .nr pnf ⟨phyId, .config⟩) ↔
      Admitted PhyState.notRunning pnf phyId ∧ pnf.userData.id = phyId := by
  show Answered .nr pnf ⟨phyId, .config⟩ (handlePhyRequest PhyState.notRunning
    (some nrConfigRequest) (phyResponse (packAndSend packedNrP5Ids) .configured)
    nfapiConfigResponse nfapiMsgInvalidConfig ⟨phyId, .config⟩ pnf) ↔ _
  by_cases hadmitted : Admitted PhyState.notRunning pnf phyId
  · obtain ⟨phy, -, hcalled⟩ := @handlePhyRequest_of_admitted _ PhyState.notRunning
      (some nrConfigRequest) (phyResponse (packAndSend packedNrP5Ids) .configured)
      nfapiConfigResponse nfapiMsgInvalidConfig ⟨phyId, .config⟩ pnf hadmitted
    have hmem := @responseId_mem_packedNrP5Ids .config fun h ↦ by cases h
    rw [hcalled, and_iff_right hadmitted]
    exact answered_phySuccess_iff hmem rfl (phyState_ne_none_of_admitted hadmitted)
  · obtain ⟨error, herror, hrefused⟩ := @handlePhyRequest_of_refused _ PhyState.notRunning
      (some nrConfigRequest) (phyResponse (packAndSend packedNrP5Ids) .configured)
      nfapiConfigResponse nfapiMsgInvalidConfig ⟨phyId, .config⟩ pnf hadmitted invalidConfig_ne_ok
    have hlost : (⟨phyId, nfapiConfigResponse, error⟩ : Response).messageId ∉ packedNrP5Ids :=
      show nfapiConfigResponse ∉ packedNrP5Ids by decide
    rw [hrefused, phyResponse_of_not_mem hlost herror]
    exact iff_of_false (not_answered rfl) fun h ↦ hadmitted h.1

/-- START, which the callback answers for the PHY that it is given. -/
theorem start_answered_iff (protocol : Protocol) :
    Answered protocol pnf ⟨phyId, .start⟩ (proxyStep protocol pnf ⟨phyId, .start⟩) ↔
      phyState pnf.phys phyId ≠ none := by
  have htrue : phyState pnf.phys phyId ≠ none ↔ phyState pnf.phys phyId ≠ none ∧
      (Admitted PhyState.notRunning pnf phyId → True) :=
    (and_iff_left fun _ ↦ trivial).symm
  rw [htrue]
  cases protocol with
  | lte =>
    have hmem := responseId_mem_packedP5Ids .start
    exact handlePhyRequest_answered_iff hmem rfl invalidConfig_ne_ok fun hknown _ hphy ↦
      (answered_phySuccess_iff hmem rfl hknown).trans (iff_true_intro hphy)
  | nr =>
    have hmem := @responseId_mem_packedNrP5Ids .start fun h ↦ by cases h
    exact handlePhyRequest_answered_iff hmem rfl invalidState_ne_ok fun hknown _ hphy ↦
      (answered_phySuccess_iff hmem rfl hknown).trans (iff_true_intro hphy)

/-- STOP, for which there is no callback. -/
theorem stop_answered_iff (protocol : Protocol) :
    Answered protocol pnf ⟨phyId, .stop⟩ (proxyStep protocol pnf ⟨phyId, .stop⟩) ↔
      phyState pnf.phys phyId ≠ none ∧
        (pnf.state = .running → phyState pnf.phys phyId = some .running) := by
  have hrefused : phyState pnf.phys phyId ≠ none ∧
        (pnf.state = .running → phyState pnf.phys phyId = some .running) ↔
      phyState pnf.phys phyId ≠ none ∧ (Admitted PhyState.notRunning pnf phyId → False) := by
    refine and_congr_right fun hknown ↦ ?_
    rw [admitted_notRunning_iff]
    constructor
    · rintro hrunning ⟨hpnf, state, hstate, hother⟩
      rw [hrunning hpnf] at hstate
      exact hother (Option.some.inj hstate).symm
    · intro hnot hpnf
      obtain ⟨state, hstate⟩ := Option.ne_none_iff_exists'.mp hknown
      apply Classical.byContradiction
      intro hother
      refine hnot ⟨hpnf, state, hstate, fun hrunning ↦ hother ?_⟩
      rw [hstate, hrunning]
  rw [hrefused]
  have hmem := responseId_mem_packedP5Ids .stop
  cases protocol with
  | lte =>
    exact handlePhyRequest_answered_iff hmem rfl invalidConfig_ne_ok
      fun _ _ _ ↦ iff_of_false (not_answered rfl) id
  | nr =>
    exact handlePhyRequest_answered_iff hmem rfl invalidConfig_ne_ok
      fun _ _ _ ↦ iff_of_false (not_answered rfl) id

end Requests

/-- In every state, the proxy answers a request once and as it should exactly if the request is
answerable. -/
theorem proxy_answered_iff (protocol : Protocol) (pnf : Pnf PnfInfo) (msg : Message) :
    Answered protocol pnf msg (proxyStep protocol pnf msg) ↔ Answerable protocol pnf msg := by
  obtain ⟨phyId, request⟩ := msg
  cases request with
  | pnfParam => exact pnfParam_answered_iff protocol
  | pnfConfig rf => exact pnfConfig_answered_iff protocol rf
  | pnfStart => exact pnfStart_answered_iff protocol
  | pnfStop => exact pnfStop_answered_iff protocol
  | param => exact iff_of_true (param_answered protocol) trivial
  | config =>
    cases protocol with
    | lte => exact config_answered_iff
    | nr => exact nrConfig_answered_iff
  | start => exact start_answered_iff protocol
  | stop => exact stop_answered_iff protocol
  | measurement => exact iff_of_true (measurement_answered protocol) trivial

/-- Brings up the PNF with two PHYs. -/
def bringUp : List Message :=
  [⟨0, .pnfConfig ⟨nfapiPnfPhyRfTag, 2, fun i ↦ i.toUInt16 + 1⟩⟩, ⟨0, .pnfStart⟩]

/-- A START for a PHY that there is not gets no answer. -/
theorem start_of_unknown_not_answered :
    ¬ Answered .lte (proxyAfter .lte bringUp) ⟨7, .start⟩
      (proxyStep .lte (proxyAfter .lte bringUp) ⟨7, .start⟩) :=
  not_answered rfl

/-! ### One PHY among several -/

/-- Only the PHY with the id is affected, and what goes out is about it. -/
structure Isolated (phyId : UInt16) (before after : Pnf PnfInfo) : Prop where
  pnf : after.state = before.state
  others : ∀ other, other ≠ phyId → phyState after.phys other = phyState before.phys other
  responses : ∀ response ∈ after.sent.drop before.sent.length, response.phyId = phyId

/-- The requests that are addressed to a PHY. -/
inductive ToPhy : Request → Prop
  | param : ToPhy .param
  | config : ToPhy .config
  | start : ToPhy .start
  | stop : ToPhy .stop

/-- The PHY that was added first, which is the first in the request that configured the PNF. -/
def firstPhy (phys : List PhyConfig) : Option UInt16 := (phys.map PhyConfig.phyId).getLast?

section Isolation

variable {σ : Type} {before after pnf : Pnf PnfInfo} {phyId : UInt16} {packedIds : List UInt16}
  {resp : Response}

/-- What a response sends is at most itself. -/
theorem packAndSend_sent (packedIds : List UInt16) (resp : Response) (pnf : Pnf σ) :
    ∃ responses, (packAndSend packedIds resp pnf).sent = pnf.sent ++ responses ∧
      ∀ response ∈ responses, response = resp := by
  by_cases hmem : resp.messageId ∈ packedIds
  · rw [packAndSend_of_mem hmem]
    exact ⟨[resp], rfl, fun _ h ↦ List.mem_singleton.mp h⟩
  · rw [packAndSend_of_not_mem hmem]
    exact ⟨[], (List.append_nil _).symm, fun _ h ↦ absurd h List.not_mem_nil⟩

theorem phyResponse_sends (packedIds : List UInt16) (state : PhyState) (resp : Response)
    (pnf : Pnf σ) :
    ∃ responses, (phyResponse (packAndSend packedIds) state resp pnf).sent =
        pnf.sent ++ responses ∧ ∀ response ∈ responses, response = resp := by
  unfold phyResponse
  cases nfapiPnfPhyConfigFind pnf.phys resp.phyId with
  | none => exact ⟨[], (List.append_nil _).symm, fun _ h ↦ absurd h List.not_mem_nil⟩
  | some phy =>
    dsimp only
    split_ifs
    · exact packAndSend_sent packedIds resp _
    · exact packAndSend_sent packedIds resp pnf

/-- A step that sends nothing but responses for the PHY, and writes no other PHY. -/
theorem isolated_of_sent {responses : List Response} (hstate : after.state = before.state)
    (hothers : ∀ other, other ≠ phyId → phyState after.phys other = phyState before.phys other)
    (hsent : after.sent = before.sent ++ responses)
    (hresponses : ∀ response ∈ responses, response.phyId = phyId) :
    Isolated phyId before after := by
  refine ⟨hstate, hothers, ?_⟩
  rw [hsent, List.drop_left]
  exact hresponses

theorem isolated_refl : Isolated phyId pnf pnf :=
  isolated_of_sent rfl (fun _ _ ↦ rfl) (List.append_nil _).symm
    fun _ h ↦ absurd h List.not_mem_nil

/-- A response for the PHY that is only sent. -/
theorem isolated_packAndSend (hphy : resp.phyId = phyId) :
    Isolated phyId pnf (packAndSend packedIds resp pnf) := by
  obtain ⟨responses, hsent, hall⟩ := packAndSend_sent packedIds resp pnf
  obtain ⟨hstate, hphys, -⟩ := packAndSend_agrees packedIds resp pnf
  refine isolated_of_sent hstate (fun other _ ↦ by rw [hphys]) hsent fun response hmem ↦ ?_
  rw [hall response hmem, hphy]

/-- A response that writes the state of its PHY. -/
theorem isolated_phyResponse {state : PhyState} (hphy : resp.phyId = phyId) :
    Isolated phyId pnf (phyResponse (packAndSend packedIds) state resp pnf) := by
  obtain ⟨responses, hsent, hall⟩ := phyResponse_sends packedIds state resp pnf
  obtain ⟨hstate, hphys, -⟩ := sets_phyResponse packedIds state resp pnf
  refine isolated_of_sent ?_ (fun other hother ↦ ?_) hsent fun response hmem ↦ ?_
  · rw [hstate]
    exact ite_self _
  · rw [hphys]
    dsimp only
    split_ifs
    · exact phyState_setPhyState_of_ne (hphy ▸ hother)
    · rfl
  · rw [hall response hmem, hphy]

/-- A request to a PHY is isolated if its callback is, where it is called. -/
theorem handlePhyRequest_isolated {accepts : PhyState → Bool} {request : Request}
    {callback : Option (PhyConfig → Message → Pnf PnfInfo → Pnf PnfInfo)}
    {respond : Response → Pnf PnfInfo → Pnf PnfInfo} {messageId : UInt16} {unknown : UInt32}
    (hunknown : unknown ≠ nfapiMsgOk)
    (hrespond : ∀ error, Isolated phyId pnf (respond ⟨phyId, messageId, error⟩ pnf))
    (hcall : Admitted accepts pnf phyId → ∀ phy : PhyConfig, phy.phyId = phyId →
      Isolated phyId pnf (call (callback.map fun run ↦ run phy ⟨phyId, request⟩) pnf)) :
    Isolated phyId pnf
      (handlePhyRequest accepts callback respond messageId unknown ⟨phyId, request⟩ pnf) := by
  by_cases hadmitted : Admitted accepts pnf phyId
  · obtain ⟨phy, hphy, hcalled⟩ := @handlePhyRequest_of_admitted _ accepts callback respond
      messageId unknown ⟨phyId, request⟩ pnf hadmitted
    rw [hcalled]
    exact hcall hadmitted phy hphy
  · obtain ⟨error, -, hrefused⟩ := @handlePhyRequest_of_refused _ accepts callback respond
      messageId unknown ⟨phyId, request⟩ pnf hadmitted hunknown
    rw [hrefused]
    exact hrespond error

theorem param_isolated (protocol : Protocol) :
    Isolated phyId pnf (proxyStep protocol pnf ⟨phyId, .param⟩) := by
  cases protocol with
  | lte =>
    have hsent : ∀ error, Isolated phyId pnf
        (packAndSend packedP5Ids ⟨phyId, nfapiParamResponse, error⟩ pnf) :=
      fun _ ↦ isolated_packAndSend rfl
    exact handlePhyRequest_isolated invalidConfig_ne_ok hsent fun _ _ _ ↦ hsent _
  | nr =>
    have hsent : ∀ error, Isolated phyId pnf
        (packAndSend packedNrP5Ids ⟨phyId, nfapiNrPhyMsgTypeParamResponse, error⟩ pnf) :=
      fun _ ↦ isolated_packAndSend rfl
    exact handlePhyRequest_isolated invalidConfig_ne_ok hsent fun _ _ _ ↦ hsent _

theorem start_isolated (protocol : Protocol) :
    Isolated phyId pnf (proxyStep protocol pnf ⟨phyId, .start⟩) := by
  cases protocol with
  | lte =>
    exact handlePhyRequest_isolated invalidConfig_ne_ok (fun _ ↦ isolated_phyResponse rfl)
      fun _ _ hphy ↦ isolated_phyResponse hphy
  | nr =>
    exact handlePhyRequest_isolated invalidState_ne_ok (fun _ ↦ isolated_phyResponse rfl)
      fun _ _ hphy ↦ isolated_phyResponse hphy

theorem stop_isolated (protocol : Protocol) :
    Isolated phyId pnf (proxyStep protocol pnf ⟨phyId, .stop⟩) := by
  cases protocol with
  | lte =>
    exact handlePhyRequest_isolated invalidConfig_ne_ok (fun _ ↦ isolated_phyResponse rfl)
      fun _ _ _ ↦ isolated_refl
  | nr =>
    exact handlePhyRequest_isolated invalidConfig_ne_ok (fun _ ↦ isolated_phyResponse rfl)
      fun _ _ _ ↦ isolated_refl

/-- The success of a CONFIG, which names the PHY of the table. -/
theorem isolated_config_iff {messageId : UInt16} (hmem : messageId ∈ packedIds)
    (hnamed : phyState pnf.phys pnf.userData.id ≠ none) :
    Isolated phyId pnf (phyResponse (packAndSend packedIds) .configured
        ⟨pnf.userData.id, messageId, nfapiMsgOk⟩ pnf) ↔ pnf.userData.id = phyId := by
  constructor
  · intro hisolated
    have hresponses := hisolated.responses
    rw [phyResponse_sent hmem hnamed, List.drop_left] at hresponses
    exact hresponses _ (List.mem_singleton.mpr rfl)
  · exact fun hsame ↦ isolated_phyResponse hsame

end Isolation

/-! The table of the proxy has one entry. Its id is set when the PHYs are made, and neither changes
before they are made anew. -/

section Table

variable {σ : Type} {pnf after : Pnf σ}

/-- The data of the application and the ids of the PHYs are as before. -/
structure KeepsTable (pnf after : Pnf σ) : Prop where
  userData : after.userData = pnf.userData
  ids : after.phys.map PhyConfig.phyId = pnf.phys.map PhyConfig.phyId

theorem keepsTable_refl : KeepsTable pnf pnf := ⟨rfl, rfl⟩

theorem map_phyId_setPhyState (phyId : UInt16) (state : PhyState) (phys : List PhyConfig) :
    (setPhyState phyId state phys).map PhyConfig.phyId = phys.map PhyConfig.phyId := by
  induction phys with
  | nil => rfl
  | cons phy rest ih =>
    unfold setPhyState
    split_ifs
    · rfl
    · rw [List.map_cons, List.map_cons, ih]

theorem keepsTable_packAndSend (packedIds : List UInt16) (resp : Response) :
    KeepsTable pnf (packAndSend packedIds resp pnf) := by
  obtain ⟨-, hphys, hdata⟩ := packAndSend_agrees packedIds resp pnf
  exact ⟨hdata, by rw [hphys]⟩

theorem keepsTable_pnfResponse (packedIds : List UInt16) (state : PnfState) (resp : Response) :
    KeepsTable pnf (pnfResponse (packAndSend packedIds) state resp pnf) := by
  obtain ⟨-, hphys, hdata⟩ := sets_pnfResponse packedIds state resp pnf
  refine ⟨hdata, ?_⟩
  rw [hphys]
  exact congrArg _ (ite_self _)

theorem keepsTable_phyResponse (packedIds : List UInt16) (state : PhyState) (resp : Response) :
    KeepsTable pnf (phyResponse (packAndSend packedIds) state resp pnf) := by
  obtain ⟨-, hphys, hdata⟩ := sets_phyResponse packedIds state resp pnf
  refine ⟨hdata, ?_⟩
  rw [hphys]
  dsimp only
  split_ifs
  · exact map_phyId_setPhyState _ _ _
  · rfl

theorem keepsTable_handlePnfRequest {expected : PnfState} {run : Message → Pnf σ → Pnf σ}
    {respond : Response → Pnf σ → Pnf σ} {messageId : UInt16} {msg : Message}
    (hrespond : ∀ resp, KeepsTable pnf (respond resp pnf)) (hrun : KeepsTable pnf (run msg pnf)) :
    KeepsTable pnf (handlePnfRequest expected (some run) respond messageId msg pnf) := by
  unfold handlePnfRequest
  split_ifs
  · exact hrun
  · exact hrespond _

theorem keepsTable_handlePhyRequest {accepts : PhyState → Bool}
    {callback : Option (PhyConfig → Message → Pnf σ → Pnf σ)}
    {respond : Response → Pnf σ → Pnf σ} {messageId : UInt16} {unknown : UInt32} {msg : Message}
    (hrespond : ∀ resp, KeepsTable pnf (respond resp pnf))
    (hcall : ∀ phy, KeepsTable pnf (call (callback.map fun run ↦ run phy msg) pnf)) :
    KeepsTable pnf (handlePhyRequest accepts callback respond messageId unknown msg pnf) := by
  unfold handlePhyRequest
  split_ifs
  · cases nfapiPnfPhyConfigFind pnf.phys msg.phyId with
    | none => exact hrespond _
    | some phy =>
      dsimp only
      split_ifs
      · exact hcall phy
      · exact hrespond _
  · exact hrespond _

end Table

/-- The ids of the PHYs that a PNF_CONFIG request creates, the last one in front. -/
theorem map_phyId_createPhys (rf : PnfPhyRfConfig) :
    (createPhys rf).map PhyConfig.phyId = if rf.tag = nfapiPnfPhyRfTag then
      ((List.range rf.numberPhyRfConfigInfo.toNat).map rf.phyId).reverse else [] := by
  have hfold : ∀ (indices : List ℕ) (phys : List PhyConfig),
      (indices.foldl (fun phys i ↦ nfapiPnfPhyConfigAdd phys ⟨rf.phyId i, .idle⟩) phys).map
        PhyConfig.phyId = (indices.map rf.phyId).reverse ++ phys.map PhyConfig.phyId := by
    intro indices
    induction indices with
    | nil => exact fun _ ↦ rfl
    | cons i rest ih =>
      intro phys
      rw [List.foldl_cons, ih, List.map_cons, List.reverse_cons, List.append_assoc]
      rfl
  unfold createPhys
  split_ifs
  · rw [hfold]
    exact List.append_nil _
  · rfl

/-- The table names the first of the PHYs, as soon as there are any. -/
def TableNamesFirst (pnf : Pnf PnfInfo) : Prop :=
  ∀ first, firstPhy pnf.phys = some first → pnf.userData.id = first

theorem KeepsTable.namesFirst {pnf after : Pnf PnfInfo} (hkeeps : KeepsTable pnf after)
    (hpnf : TableNamesFirst pnf) : TableNamesFirst after := by
  unfold TableNamesFirst firstPhy at hpnf ⊢
  rw [hkeeps.userData, hkeeps.ids]
  exact hpnf

/-- PNF_CONFIG puts the id of the first PHY that it makes into the table. -/
theorem tableNamesFirst_createPhys (rf : PnfPhyRfConfig) (pnf : Pnf PnfInfo) :
    TableNamesFirst { pnf with phys := createPhys rf, userData := ⟨rf.phyId 0⟩ } := by
  intro first hfirst
  unfold firstPhy at hfirst
  dsimp only at hfirst
  rw [map_phyId_createPhys] at hfirst
  split_ifs at hfirst
  · rw [List.getLast?_reverse] at hfirst
    cases hnumber : rf.numberPhyRfConfigInfo.toNat with
    | zero =>
      rw [hnumber] at hfirst
      cases hfirst
    | succ number =>
      rw [hnumber, List.range_succ_eq_map, List.map_cons] at hfirst
      exact Option.some.inj hfirst
  · cases hfirst

/-- Every message but a PNF_CONFIG that is taken up keeps the table. -/
theorem proxyStep_keepsTable (protocol : Protocol) (pnf : Pnf PnfInfo) {msg : Message}
    (hconfig : ∀ rf, msg.request ≠ .pnfConfig rf) :
    KeepsTable pnf (proxyStep protocol pnf msg) := by
  obtain ⟨phyId, request⟩ := msg
  have hsent := @keepsTable_packAndSend PnfInfo pnf packedP5Ids
  have hnrSent := @keepsTable_packAndSend PnfInfo pnf packedNrP5Ids
  have hpnf := @keepsTable_pnfResponse PnfInfo pnf packedP5Ids
  have hnrPnf := @keepsTable_pnfResponse PnfInfo pnf packedNrP5Ids
  have hphy := @keepsTable_phyResponse PnfInfo pnf packedP5Ids
  have hnrPhy := @keepsTable_phyResponse PnfInfo pnf packedNrP5Ids
  cases protocol with
  | lte =>
    cases request with
    | pnfParam => exact keepsTable_handlePnfRequest hsent (hsent ⟨0, nfapiPnfParamResponse, nfapiMsgOk⟩)
    | pnfConfig rf => exact absurd rfl (hconfig rf)
    | pnfStart =>
      refine keepsTable_handlePnfRequest (hpnf _) ?_
      unfold pnfStartRequest
      split_ifs
      · exact hpnf _ _
      · exact keepsTable_refl
    | pnfStop =>
      exact keepsTable_handlePnfRequest (hpnf _)
        (hpnf .configured ⟨0, nfapiPnfStopResponse, nfapiMsgOk⟩)
    | param =>
      exact keepsTable_handlePhyRequest hsent fun _ ↦
        hsent ⟨phyId, nfapiParamResponse, nfapiMsgOk⟩
    | config => exact keepsTable_handlePhyRequest (hphy _) fun _ ↦ hphy _ _
    | start => exact keepsTable_handlePhyRequest (hphy _) fun _ ↦ hphy _ _
    | stop => exact keepsTable_handlePhyRequest (hphy _) fun _ ↦ keepsTable_refl
    | measurement =>
      exact keepsTable_handlePhyRequest hsent fun _ ↦
        hsent ⟨phyId, nfapiMeasurementResponse, nfapiMsgOk⟩
  | nr =>
    cases request with
    | pnfParam => exact keepsTable_handlePnfRequest hnrSent (hnrSent ⟨0, nfapiPnfParamResponse, nfapiMsgOk⟩)
    | pnfConfig rf => exact absurd rfl (hconfig rf)
    | pnfStart =>
      refine keepsTable_handlePnfRequest (hnrPnf _) ?_
      unfold pnfNrStartRequest
      split_ifs
      · exact hnrPnf _ _
      · exact keepsTable_refl
    | pnfStop =>
      exact keepsTable_handlePnfRequest (hpnf _)
        (hpnf .configured ⟨0, nfapiPnfStopResponse, nfapiMsgOk⟩)
    | param =>
      exact keepsTable_handlePhyRequest hnrSent fun _ ↦
        hnrSent ⟨phyId, nfapiNrPhyMsgTypeParamResponse, nfapiMsgOk⟩
    | config => exact keepsTable_handlePhyRequest (hnrPhy _) fun _ ↦ hnrPhy _ _
    | start => exact keepsTable_handlePhyRequest (hnrPhy _) fun _ ↦ hnrPhy _ _
    | stop => exact keepsTable_handlePhyRequest (hphy _) fun _ ↦ keepsTable_refl
    | measurement =>
      exact keepsTable_handlePhyRequest hsent fun _ ↦
        hsent ⟨phyId, nfapiMeasurementResponse, nfapiMsgOk⟩

theorem pnfConfig_namesFirst (protocol : Protocol) {pnf : Pnf PnfInfo}
    (hpnf : TableNamesFirst pnf) (phyId : UInt16) (rf : PnfPhyRfConfig) :
    TableNamesFirst (proxyStep protocol pnf ⟨phyId, .pnfConfig rf⟩) := by
  by_cases hstate : pnf.state = .running
  · have hrefused : KeepsTable pnf (proxyStep protocol pnf ⟨phyId, .pnfConfig rf⟩) := by
      cases protocol with
      | lte =>
        refine Eq.subst (if_neg (not_not.mpr hstate)).symm ?_
        exact keepsTable_pnfResponse packedP5Ids _ _
      | nr =>
        refine Eq.subst (if_neg (not_not.mpr hstate)).symm ?_
        exact keepsTable_pnfResponse packedNrP5Ids _ _
    exact hrefused.namesFirst hpnf
  · have hmade : KeepsTable { pnf with phys := createPhys rf, userData := ⟨rf.phyId 0⟩ }
        (proxyStep protocol pnf ⟨phyId, .pnfConfig rf⟩) := by
      cases protocol with
      | lte =>
        refine Eq.subst (if_pos hstate).symm ?_
        exact keepsTable_pnfResponse packedP5Ids .configured
          ⟨0, nfapiPnfConfigResponse, nfapiMsgOk⟩
      | nr =>
        refine Eq.subst (if_pos hstate).symm ?_
        exact keepsTable_pnfResponse packedNrP5Ids .configured
          ⟨0, nfapiNrPhyMsgTypePnfConfigResponse, nfapiMsgOk⟩
    exact hmade.namesFirst (tableNamesFirst_createPhys rf pnf)

theorem proxyStep_namesFirst (protocol : Protocol) {pnf : Pnf PnfInfo} (hpnf : TableNamesFirst pnf)
    (msg : Message) : TableNamesFirst (proxyStep protocol pnf msg) := by
  by_cases hconfig : ∀ rf, msg.request ≠ .pnfConfig rf
  · exact (proxyStep_keepsTable protocol pnf hconfig).namesFirst hpnf
  · obtain ⟨rf, hrequest⟩ := Classical.not_forall.mp hconfig
    obtain ⟨phyId, request⟩ := msg
    cases Classical.not_not.mp hrequest
    exact pnfConfig_namesFirst protocol hpnf phyId rf

/-- In every reachable state, the table names the first PHY. -/
theorem proxyAfter_namesFirst (protocol : Protocol) (messages : List Message) :
    TableNamesFirst (proxyAfter protocol messages) := by
  have hrun : ∀ pnf, TableNamesFirst pnf →
      TableNamesFirst (messages.foldl (proxyStep protocol) pnf) := by
    induction messages with
    | nil => exact fun _ hpnf ↦ hpnf
    | cons msg rest ih => exact fun pnf hpnf ↦ ih _ (proxyStep_namesFirst protocol hpnf msg)
  exact hrun _ fun _ hfirst ↦ by cases hfirst

/-- As soon as a PHY is known, the table names a known one. -/
theorem TableNamesFirst.named {pnf : Pnf PnfInfo} (hpnf : TableNamesFirst pnf) {phyId : UInt16}
    (hknown : phyState pnf.phys phyId ≠ none) :
    firstPhy pnf.phys = some pnf.userData.id ∧ phyState pnf.phys pnf.userData.id ≠ none := by
  have hnonempty : pnf.phys.map PhyConfig.phyId ≠ [] :=
    List.ne_nil_of_mem (phyState_ne_none_iff.mp hknown)
  have hlast : firstPhy pnf.phys = some _ := List.getLast?_eq_some_getLast hnonempty
  have hid := hpnf _ hlast
  rw [hlast, hid]
  exact ⟨rfl, phyState_ne_none_iff.mpr (List.getLast_mem hnonempty)⟩

/-- A CONFIG in a state in which the table names the first PHY. -/
theorem config_isolated_iff (protocol : Protocol) {pnf : Pnf PnfInfo} (hpnf : TableNamesFirst pnf)
    {phyId : UInt16} : Isolated phyId pnf (proxyStep protocol pnf ⟨phyId, .config⟩) ↔
      (Admitted PhyState.notRunning pnf phyId → firstPhy pnf.phys = some phyId) := by
  by_cases hadmitted : Admitted PhyState.notRunning pnf phyId
  · obtain ⟨hfirst, hnamed⟩ := hpnf.named (phyState_ne_none_of_admitted hadmitted)
    have hsame : (Admitted PhyState.notRunning pnf phyId → firstPhy pnf.phys = some phyId) ↔
        pnf.userData.id = phyId := by
      rw [hfirst]
      exact ⟨fun h ↦ Option.some.inj (h hadmitted), fun h _ ↦ congrArg some h⟩
    rw [hsame]
    cases protocol with
    | lte =>
      obtain ⟨phy, -, hcalled⟩ := @handlePhyRequest_of_admitted _ PhyState.notRunning
        (some configRequest) nfapiPnfConfigResp nfapiConfigResponse nfapiMsgInvalidConfig
        ⟨phyId, .config⟩ pnf hadmitted
      have hstep : proxyStep .lte pnf ⟨phyId, .config⟩ = _ := hcalled
      rw [hstep]
      exact isolated_config_iff (responseId_mem_packedP5Ids .config) hnamed
    | nr =>
      obtain ⟨phy, -, hcalled⟩ := @handlePhyRequest_of_admitted _ PhyState.notRunning
        (some nrConfigRequest) nfapiNrPnfConfigResp nfapiConfigResponse nfapiMsgInvalidConfig
        ⟨phyId, .config⟩ pnf hadmitted
      have hstep : proxyStep .nr pnf ⟨phyId, .config⟩ = _ := hcalled
      have hmem := @responseId_mem_packedNrP5Ids .config fun h ↦ by cases h
      rw [hstep]
      exact isolated_config_iff hmem hnamed
  · refine iff_of_true ?_ fun h ↦ absurd h hadmitted
    cases protocol with
    | lte =>
      exact handlePhyRequest_isolated invalidConfig_ne_ok (fun _ ↦ isolated_phyResponse rfl)
        fun h ↦ absurd h hadmitted
    | nr =>
      exact handlePhyRequest_isolated invalidConfig_ne_ok (fun _ ↦ isolated_phyResponse rfl)
        fun h ↦ absurd h hadmitted

/-- In every reachable state, a request to a PHY affects that PHY alone exactly if it is not a CONFIG
that is given to the application for another PHY than the first. -/
theorem phyRequest_isolated_iff (protocol : Protocol) (messages : List Message) (phyId : UInt16)
    {request : Request} (hto : ToPhy request) :
    Isolated phyId (proxyAfter protocol messages)
        (proxyStep protocol (proxyAfter protocol messages) ⟨phyId, request⟩) ↔
      (request = .config → Admitted PhyState.notRunning (proxyAfter protocol messages) phyId →
        firstPhy (proxyAfter protocol messages).phys = some phyId) := by
  cases hto with
  | param => exact iff_of_true (param_isolated protocol) fun h ↦ by cases h
  | config =>
    rw [config_isolated_iff protocol (proxyAfter_namesFirst protocol messages)]
    exact ⟨fun h _ ↦ h, fun h ↦ h rfl⟩
  | start => exact iff_of_true (start_isolated protocol) fun h ↦ by cases h
  | stop => exact iff_of_true (stop_isolated protocol) fun h ↦ by cases h

theorem firstConfig_isolated :
    ToPhy .config ∧ Isolated 1 (proxyAfter .lte bringUp)
      (proxyStep .lte (proxyAfter .lte bringUp) ⟨1, .config⟩) :=
  ⟨.config, (phyRequest_isolated_iff .lte bringUp 1 .config).mpr fun _ _ ↦ by decide⟩

/-- A CONFIG for the second PHY is answered for the first, and configures it. -/
theorem secondConfig_not_isolated :
    ¬ Isolated 2 (proxyAfter .lte bringUp)
      (proxyStep .lte (proxyAfter .lte bringUp) ⟨2, .config⟩) := by
  intro hisolated
  exact absurd (hisolated.others 1 (by decide)) (by decide)

end MultiUeProxy.P5
