import Mathlib.Data.Nat.Notation
import Mathlib.Tactic.SplitIfs
import MultiUeProxy.Lib.Execution

/-!
# The PNF side of the P5 interface

The VNF configures the proxy over P5: it brings the PNF up, then the PHYs of the PNF. `pnf.c` has a
handler for every request in two copies, one for LTE and one for NR, `pnf_interface.c` has the
functions with which the application answers, and `nfapi_pnf.c` has the callbacks of the proxy.

A handler looks at the state of the PNF, and for the requests to a PHY also at the state of that
PHY. It then gives the request to the application through a callback or answers it with an error
itself. The states are written where a response with the error code `NFAPI_MSG_OK` goes out. The
handlers of one kind have one text, which is `handlePnfRequest` or `handlePhyRequest`; what they
differ in are the states that they look for, their callback, the function that they answer with and
the message id that they put into the answer.

A message stands here as it is decoded. Of the answers the model has the two ids of the header and
the error code; their bodies, which are a few bytes long or a table of TLVs with fixed lengths,
always fit into the buffer, so that an answer is packed unless the packer does not know its id.
-/

set_option autoImplicit false
set_option relaxedAutoImplicit false

namespace MultiUeProxy.P5

/-! ### States -/

/-- `nfapi_pnf_state_e`. -/
inductive PnfState where
  | idle
  | configured
  | running
  deriving DecidableEq, Repr

/-- `nfapi_pnf_phy_state_e`. -/
inductive PhyState where
  | idle
  | configured
  | running
  deriving DecidableEq, Repr

/-- `nfapi_pnf_phy_config_t`. -/
structure PhyConfig where
  phyId : UInt16
  state : PhyState
  deriving DecidableEq, Repr

/-- What all the response structures have: two fields of the header, and the error code. -/
structure Response where
  phyId : UInt16
  messageId : UInt16
  errorCode : UInt32
  deriving DecidableEq, Repr

/-- `nfapi_pnf_config_t`, with the data of the application, and the responses that were packed and
sent. -/
structure Pnf (σ : Type) where
  state : PnfState
  phys : List PhyConfig
  userData : σ
  sent : List Response

variable {σ : Type}

/-- The PNF before the first message. -/
def Pnf.initial (userData : σ) : Pnf σ := ⟨.idle, [], userData, []⟩

/-! ### The list of PHYs -/

def nfapiPnfPhyConfigAdd (phys : List PhyConfig) (phy : PhyConfig) : List PhyConfig := phy :: phys

def nfapiPnfPhyConfigFind (phys : List PhyConfig) (phyId : UInt16) : Option PhyConfig :=
  phys.find? fun phy ↦ phy.phyId = phyId

/-- The write to the state of the record that `nfapi_pnf_phy_config_find` returns. -/
def setPhyState (phyId : UInt16) (state : PhyState) : List PhyConfig → List PhyConfig
  | [] => []
  | phy :: rest =>
    if phy.phyId = phyId then { phy with state } :: rest else phy :: setPhyState phyId state rest

/-! ### Requests -/

/-- The PNF PHY RF TLV of a PNF_CONFIG request. The array has what was decoded and zeros behind
it. -/
structure PnfPhyRfConfig where
  tag : UInt16
  numberPhyRfConfigInfo : UInt16
  phyId : ℕ → UInt16

def nfapiPnfPhyRfTag : UInt16 := 0x1003

inductive Request where
  | pnfParam
  | pnfConfig (pnfPhyRfConfig : PnfPhyRfConfig)
  | pnfStart
  | pnfStop
  | param
  | config
  | start
  | stop
  | measurement

/-- A decoded request: the PHY id of its header, and what it asks for. -/
structure Message where
  phyId : UInt16
  request : Request

/-- The records that a PNF_CONFIG request creates. -/
def createPhys (pnfPhyRfConfig : PnfPhyRfConfig) : List PhyConfig :=
  if pnfPhyRfConfig.tag = nfapiPnfPhyRfTag then
    (List.range pnfPhyRfConfig.numberPhyRfConfigInfo.toNat).foldl
      (fun phys i ↦ nfapiPnfPhyConfigAdd phys ⟨pnfPhyRfConfig.phyId i, .idle⟩) []
  else []

/-- The callbacks for requests, of which some need not be registered. A PNF_CONFIG request comes with
its TLV, and a request to a PHY with the record of the PHY. -/
structure Callbacks (σ : Type) where
  pnfParamReq : Option (Message → Pnf σ → Pnf σ) := none
  pnfNrParamReq : Option (Message → Pnf σ → Pnf σ) := none
  pnfConfigReq : Option (PnfPhyRfConfig → Message → Pnf σ → Pnf σ) := none
  pnfNrConfigReq : Option (PnfPhyRfConfig → Message → Pnf σ → Pnf σ) := none
  pnfStartReq : Option (Message → Pnf σ → Pnf σ) := none
  pnfNrStartReq : Option (Message → Pnf σ → Pnf σ) := none
  pnfStopReq : Option (Message → Pnf σ → Pnf σ) := none
  paramReq : Option (PhyConfig → Message → Pnf σ → Pnf σ) := none
  nrParamReq : Option (PhyConfig → Message → Pnf σ → Pnf σ) := none
  configReq : Option (PhyConfig → Message → Pnf σ → Pnf σ) := none
  nrConfigReq : Option (PhyConfig → Message → Pnf σ → Pnf σ) := none
  startReq : Option (PhyConfig → Message → Pnf σ → Pnf σ) := none
  nrStartReq : Option (PhyConfig → Message → Pnf σ → Pnf σ) := none
  stopReq : Option (PhyConfig → Message → Pnf σ → Pnf σ) := none
  nrStopReq : Option (PhyConfig → Message → Pnf σ → Pnf σ) := none
  measurementReq : Option (PhyConfig → Message → Pnf σ → Pnf σ) := none

/-! ### Message ids and error codes -/

def nfapiPnfParamResponse : UInt16 := 0x0101
def nfapiPnfConfigResponse : UInt16 := 0x0103
def nfapiPnfStartResponse : UInt16 := 0x0105
def nfapiPnfStopResponse : UInt16 := 0x0107
def nfapiParamResponse : UInt16 := 0x0109
def nfapiConfigResponse : UInt16 := 0x010B
def nfapiStartResponse : UInt16 := 0x010D
def nfapiStopResponse : UInt16 := 0x010F
def nfapiMeasurementResponse : UInt16 := 0x0111

def nfapiNrPhyMsgTypeParamResponse : UInt16 := 0x0001
def nfapiNrPhyMsgTypeConfigResponse : UInt16 := 0x0003
def nfapiNrPhyMsgTypePnfParamResponse : UInt16 := 0x0101
def nfapiNrPhyMsgTypePnfConfigResponse : UInt16 := 0x0103
def nfapiNrPhyMsgTypePnfStartResponse : UInt16 := 0x0105
def nfapiNrPhyMsgTypeStartResponse : UInt16 := 0x010D
def nfapiNrPhyMsgTypeStopResponse : UInt16 := 0x010F

def nfapiMsgOk : UInt32 := 0
def nfapiMsgInvalidState : UInt32 := 1
def nfapiMsgInvalidConfig : UInt32 := 2
def nfapiNrStartMsgInvalidState : UInt32 := 1

/-! ### Sending -/

/-- The response ids among the cases of `pack_p5_message_body`. -/
def packedP5Ids : List UInt16 :=
  [nfapiPnfParamResponse, nfapiPnfConfigResponse, nfapiPnfStartResponse, nfapiPnfStopResponse,
    nfapiParamResponse, nfapiConfigResponse, nfapiStartResponse, nfapiStopResponse,
    nfapiMeasurementResponse]

/-- The response ids among the cases of `pack_nr_p5_message_body`. -/
def packedNrP5Ids : List UInt16 :=
  [nfapiPnfParamResponse, nfapiNrPhyMsgTypePnfConfigResponse, nfapiNrPhyMsgTypePnfStartResponse,
    nfapiPnfStopResponse, nfapiNrPhyMsgTypeParamResponse, nfapiNrPhyMsgTypeConfigResponse,
    nfapiNrPhyMsgTypeStartResponse, nfapiNrPhyMsgTypeStopResponse]

/-- Sends a response if the packer knows its id. -/
def packAndSend (packedIds : List UInt16) (resp : Response) (pnf : Pnf σ) : Pnf σ :=
  if resp.messageId ∈ packedIds then { pnf with sent := pnf.sent ++ [resp] } else pnf

def pnfPackAndSendP5Message (resp : Response) (pnf : Pnf σ) : Pnf σ :=
  packAndSend packedP5Ids resp pnf

def pnfNrPackAndSendP5Message (resp : Response) (pnf : Pnf σ) : Pnf σ :=
  packAndSend packedNrP5Ids resp pnf

/-! ### Responses

A response about the PNF goes out in every case. A response about a PHY does not if the PHY is
unknown, except for the two that do not look for it. -/

/-- The text of the responses with which the PNF gets into a state. -/
def pnfResponse (send : Response → Pnf σ → Pnf σ) (state : PnfState) (resp : Response)
    (pnf : Pnf σ) : Pnf σ :=
  send resp (if resp.errorCode = nfapiMsgOk then { pnf with state } else pnf)

/-- The text of the responses with which a PHY gets into a state. -/
def phyResponse (send : Response → Pnf σ → Pnf σ) (state : PhyState) (resp : Response)
    (pnf : Pnf σ) : Pnf σ :=
  match nfapiPnfPhyConfigFind pnf.phys resp.phyId with
  | some _ =>
    send resp (if resp.errorCode = nfapiMsgOk then
      { pnf with phys := setPhyState resp.phyId state pnf.phys } else pnf)
  | none => pnf

def nfapiPnfPnfParamResp (resp : Response) (pnf : Pnf σ) : Pnf σ :=
  pnfPackAndSendP5Message resp pnf

def nfapiNrPnfPnfParamResp (resp : Response) (pnf : Pnf σ) : Pnf σ :=
  pnfNrPackAndSendP5Message resp pnf

def nfapiPnfPnfConfigResp (resp : Response) (pnf : Pnf σ) : Pnf σ :=
  pnfResponse pnfPackAndSendP5Message .configured resp pnf

def nfapiNrPnfPnfConfigResp (resp : Response) (pnf : Pnf σ) : Pnf σ :=
  pnfResponse pnfNrPackAndSendP5Message .configured resp pnf

def nfapiPnfPnfStartResp (resp : Response) (pnf : Pnf σ) : Pnf σ :=
  pnfResponse pnfPackAndSendP5Message .running resp pnf

def nfapiNrPnfPnfStartResp (resp : Response) (pnf : Pnf σ) : Pnf σ :=
  pnfResponse pnfNrPackAndSendP5Message .running resp pnf

def nfapiPnfPnfStopResp (resp : Response) (pnf : Pnf σ) : Pnf σ :=
  pnfResponse pnfPackAndSendP5Message .configured resp pnf

def nfapiPnfParamResp (resp : Response) (pnf : Pnf σ) : Pnf σ :=
  pnfPackAndSendP5Message resp pnf

def nfapiNrPnfParamResp (resp : Response) (pnf : Pnf σ) : Pnf σ :=
  pnfNrPackAndSendP5Message resp pnf

def nfapiPnfConfigResp (resp : Response) (pnf : Pnf σ) : Pnf σ :=
  phyResponse pnfPackAndSendP5Message .configured resp pnf

def nfapiNrPnfConfigResp (resp : Response) (pnf : Pnf σ) : Pnf σ :=
  phyResponse pnfNrPackAndSendP5Message .configured resp pnf

def nfapiPnfStartResp (resp : Response) (pnf : Pnf σ) : Pnf σ :=
  phyResponse pnfPackAndSendP5Message .running resp pnf

def nfapiNrPnfStartResp (resp : Response) (pnf : Pnf σ) : Pnf σ :=
  phyResponse pnfNrPackAndSendP5Message .running resp pnf

def nfapiPnfStopResp (resp : Response) (pnf : Pnf σ) : Pnf σ :=
  phyResponse pnfPackAndSendP5Message .configured resp pnf

def nfapiPnfMeasurementResp (resp : Response) (pnf : Pnf σ) : Pnf σ :=
  pnfPackAndSendP5Message resp pnf

/-! ### Handlers -/

/-- Calls a callback if it is registered. -/
def call (callback : Option (Pnf σ → Pnf σ)) (pnf : Pnf σ) : Pnf σ :=
  match callback with
  | some run => run pnf
  | none => pnf

/-- The text of the handlers that serve a request to the PNF in one of its states. -/
def handlePnfRequest (expected : PnfState) (callback : Option (Message → Pnf σ → Pnf σ))
    (respond : Response → Pnf σ → Pnf σ) (messageId : UInt16) (msg : Message) (pnf : Pnf σ) :
    Pnf σ :=
  if pnf.state = expected then call (callback.map fun run ↦ run msg) pnf
  else respond ⟨0, messageId, nfapiMsgInvalidState⟩ pnf

/-- The text of the two handlers of a PNF_CONFIG request: the records of the PHYs are replaced
before the application gets the request. -/
def handlePnfConfigRequest (callback : Option (PnfPhyRfConfig → Message → Pnf σ → Pnf σ))
    (respond : Response → Pnf σ → Pnf σ) (messageId : UInt16) (pnfPhyRfConfig : PnfPhyRfConfig)
    (msg : Message) (pnf : Pnf σ) : Pnf σ :=
  if pnf.state ≠ .running then
    call (callback.map fun run ↦ run pnfPhyRfConfig msg)
      { pnf with phys := createPhys pnfPhyRfConfig }
  else respond ⟨0, messageId, nfapiMsgInvalidState⟩ pnf

/-- The text of the handlers of the requests to a PHY. -/
def handlePhyRequest (accepts : PhyState → Bool)
    (callback : Option (PhyConfig → Message → Pnf σ → Pnf σ))
    (respond : Response → Pnf σ → Pnf σ) (messageId : UInt16) (unknown : UInt32) (msg : Message)
    (pnf : Pnf σ) : Pnf σ :=
  if pnf.state = .running then
    match nfapiPnfPhyConfigFind pnf.phys msg.phyId with
    | some phy =>
      if accepts phy.state then call (callback.map fun run ↦ run phy msg) pnf
      else respond ⟨msg.phyId, messageId, nfapiMsgInvalidState⟩ pnf
    | none => respond ⟨msg.phyId, messageId, unknown⟩ pnf
  else respond ⟨msg.phyId, messageId, nfapiMsgInvalidState⟩ pnf

def PhyState.isIdle (state : PhyState) : Bool := state = .idle

/-- The guard of CONFIG, START and STOP alike. -/
def PhyState.notRunning (state : PhyState) : Bool := state ≠ .running

variable (callbacks : Callbacks σ)

def pnfHandlePnfParamRequest : Message → Pnf σ → Pnf σ :=
  handlePnfRequest .idle callbacks.pnfParamReq nfapiPnfPnfParamResp nfapiPnfParamResponse

def pnfNrHandlePnfParamRequest : Message → Pnf σ → Pnf σ :=
  handlePnfRequest .idle callbacks.pnfNrParamReq nfapiNrPnfPnfParamResp
    nfapiNrPhyMsgTypePnfParamResponse

def pnfHandlePnfConfigRequest : PnfPhyRfConfig → Message → Pnf σ → Pnf σ :=
  handlePnfConfigRequest callbacks.pnfConfigReq nfapiPnfPnfConfigResp nfapiPnfConfigResponse

def pnfNrHandlePnfConfigRequest : PnfPhyRfConfig → Message → Pnf σ → Pnf σ :=
  handlePnfConfigRequest callbacks.pnfNrConfigReq nfapiNrPnfPnfConfigResp nfapiPnfConfigResponse

def pnfHandlePnfStartRequest : Message → Pnf σ → Pnf σ :=
  handlePnfRequest .configured callbacks.pnfStartReq nfapiPnfPnfStartResp nfapiPnfStartResponse

def pnfNrHandlePnfStartRequest : Message → Pnf σ → Pnf σ :=
  handlePnfRequest .configured callbacks.pnfNrStartReq nfapiNrPnfPnfStartResp
    nfapiPnfStartResponse

def pnfHandlePnfStopRequest : Message → Pnf σ → Pnf σ :=
  handlePnfRequest .running callbacks.pnfStopReq nfapiPnfPnfStopResp nfapiPnfStopResponse

def pnfHandleParamRequest : Message → Pnf σ → Pnf σ :=
  handlePhyRequest PhyState.isIdle callbacks.paramReq nfapiPnfParamResp nfapiParamResponse
    nfapiMsgInvalidConfig

def pnfNrHandleParamRequest : Message → Pnf σ → Pnf σ :=
  handlePhyRequest PhyState.isIdle callbacks.nrParamReq nfapiNrPnfParamResp
    nfapiNrPhyMsgTypeParamResponse nfapiMsgInvalidConfig

def pnfHandleConfigRequest : Message → Pnf σ → Pnf σ :=
  handlePhyRequest PhyState.notRunning callbacks.configReq nfapiPnfConfigResp nfapiConfigResponse
    nfapiMsgInvalidConfig

/-- Its errors go out under the LTE id of the response. -/
def pnfNrHandleConfigRequest : Message → Pnf σ → Pnf σ :=
  handlePhyRequest PhyState.notRunning callbacks.nrConfigReq nfapiNrPnfConfigResp
    nfapiConfigResponse nfapiMsgInvalidConfig

def pnfHandleStartRequest : Message → Pnf σ → Pnf σ :=
  handlePhyRequest PhyState.notRunning callbacks.startReq nfapiPnfStartResp nfapiStartResponse
    nfapiMsgInvalidConfig

def pnfNrHandleStartRequest : Message → Pnf σ → Pnf σ :=
  handlePhyRequest PhyState.notRunning callbacks.nrStartReq nfapiNrPnfStartResp
    nfapiNrPhyMsgTypeStartResponse nfapiNrStartMsgInvalidState

def pnfHandleStopRequest : Message → Pnf σ → Pnf σ :=
  handlePhyRequest PhyState.notRunning callbacks.stopReq nfapiPnfStopResp nfapiStopResponse
    nfapiMsgInvalidConfig

/-- Its errors go out through the LTE packer. -/
def pnfNrHandleStopRequest : Message → Pnf σ → Pnf σ :=
  handlePhyRequest PhyState.notRunning callbacks.nrStopReq nfapiPnfStopResp
    nfapiNrPhyMsgTypeStopResponse nfapiMsgInvalidConfig

def pnfHandleMeasurementRequest : Message → Pnf σ → Pnf σ :=
  handlePhyRequest PhyState.notRunning callbacks.measurementReq nfapiPnfMeasurementResp
    nfapiMeasurementResponse nfapiMsgInvalidConfig

/-! ### Dispatch -/

/-- The two protocols, each with its own main loop. -/
inductive Protocol where
  | lte
  | nr
  deriving DecidableEq, Repr

def pnfHandleP5Message (msg : Message) (pnf : Pnf σ) : Pnf σ :=
  match msg.request with
  | .pnfParam => pnfHandlePnfParamRequest callbacks msg pnf
  | .pnfConfig pnfPhyRfConfig => pnfHandlePnfConfigRequest callbacks pnfPhyRfConfig msg pnf
  | .pnfStart => pnfHandlePnfStartRequest callbacks msg pnf
  | .pnfStop => pnfHandlePnfStopRequest callbacks msg pnf
  | .param => pnfHandleParamRequest callbacks msg pnf
  | .config => pnfHandleConfigRequest callbacks msg pnf
  | .start => pnfHandleStartRequest callbacks msg pnf
  | .stop => pnfHandleStopRequest callbacks msg pnf
  | .measurement => pnfHandleMeasurementRequest callbacks msg pnf

/-- PNF_STOP and MEASUREMENT have no handlers of their own here. -/
def pnfNrHandleP5Message (msg : Message) (pnf : Pnf σ) : Pnf σ :=
  match msg.request with
  | .pnfParam => pnfNrHandlePnfParamRequest callbacks msg pnf
  | .pnfConfig pnfPhyRfConfig => pnfNrHandlePnfConfigRequest callbacks pnfPhyRfConfig msg pnf
  | .pnfStart => pnfNrHandlePnfStartRequest callbacks msg pnf
  | .pnfStop => pnfHandlePnfStopRequest callbacks msg pnf
  | .param => pnfNrHandleParamRequest callbacks msg pnf
  | .config => pnfNrHandleConfigRequest callbacks msg pnf
  | .start => pnfNrHandleStartRequest callbacks msg pnf
  | .stop => pnfNrHandleStopRequest callbacks msg pnf
  | .measurement => pnfHandleMeasurementRequest callbacks msg pnf

def handleP5Message (protocol : Protocol) : Message → Pnf σ → Pnf σ :=
  match protocol with
  | .lte => pnfHandleP5Message callbacks
  | .nr => pnfNrHandleP5Message callbacks

/-- The id of the response that goes with a request. -/
def responseId (protocol : Protocol) : Request → UInt16
  | .pnfParam => 0x0101
  | .pnfConfig _ => 0x0103
  | .pnfStart => 0x0105
  | .pnfStop => 0x0107
  | .param => if protocol = .lte then 0x0109 else 0x0001
  | .config => if protocol = .lte then 0x010B else 0x0003
  | .start => 0x010D
  | .stop => 0x010F
  | .measurement => 0x0111

/-! ### The list of PHYs as a map -/

/-- The state of the PHY that a message with this id is about. -/
def phyState (phys : List PhyConfig) (phyId : UInt16) : Option PhyState :=
  (nfapiPnfPhyConfigFind phys phyId).map PhyConfig.state

variable {callbacks} {phys : List PhyConfig} {phyId : UInt16} {state : PhyState}

theorem phyState_cons (phy : PhyConfig) (other : UInt16) :
    phyState (phy :: phys) other =
      if phy.phyId = other then some phy.state else phyState phys other := by
  unfold phyState nfapiPnfPhyConfigFind
  rw [List.find?_cons]
  by_cases hid : phy.phyId = other
  · simp [hid]
  · simp [hid]

/-- The write is to the PHY with the id. -/
theorem phyState_setPhyState_self (h : phyState phys phyId ≠ none) :
    phyState (setPhyState phyId state phys) phyId = some state := by
  induction phys with
  | nil => exact absurd rfl h
  | cons phy rest ih =>
    unfold setPhyState
    by_cases hphy : phy.phyId = phyId
    · rw [if_pos hphy, phyState_cons]
      exact if_pos hphy
    · rw [phyState_cons, if_neg hphy] at h
      rw [if_neg hphy, phyState_cons, if_neg hphy, ih h]

/-- The write is to no other PHY. -/
theorem phyState_setPhyState_of_ne {other : UInt16} (h : other ≠ phyId) :
    phyState (setPhyState phyId state phys) other = phyState phys other := by
  induction phys with
  | nil => rfl
  | cons phy rest ih =>
    unfold setPhyState
    by_cases hphy : phy.phyId = phyId
    · have hother : phy.phyId ≠ other := fun hsame ↦ h (hsame.symm.trans hphy)
      rw [if_pos hphy, phyState_cons, phyState_cons, if_neg hother]
      exact (if_neg hother).symm
    · rw [if_neg hphy, phyState_cons, phyState_cons, ih]

/-- A write to an unknown PHY is none. -/
theorem setPhyState_of_unknown (h : phyState phys phyId = none) :
    setPhyState phyId state phys = phys := by
  induction phys with
  | nil => rfl
  | cons phy rest ih =>
    rw [phyState_cons] at h
    split_ifs at h with hphy
    rw [setPhyState, if_neg hphy, ih h]

/-- The records after a write are the old ones and one with the new state. -/
theorem mem_setPhyState {phy : PhyConfig} (h : phy ∈ setPhyState phyId state phys) :
    phy ∈ phys ∨ phy = ⟨phyId, state⟩ := by
  induction phys with
  | nil => exact Or.inl h
  | cons first rest ih =>
    unfold setPhyState at h
    by_cases hfirst : first.phyId = phyId
    · rw [if_pos hfirst] at h
      rcases List.mem_cons.mp h with rfl | hrest
      · exact Or.inr (by rw [← hfirst])
      · exact Or.inl (List.mem_cons_of_mem _ hrest)
    · rw [if_neg hfirst] at h
      rcases List.mem_cons.mp h with rfl | hrest
      · exact Or.inl List.mem_cons_self
      · exact (ih hrest).imp_left (List.mem_cons_of_mem _)

/-- A PHY is known exactly if its id is among those of the records. -/
theorem phyState_ne_none_iff : phyState phys phyId ≠ none ↔ phyId ∈ phys.map PhyConfig.phyId := by
  induction phys with
  | nil => exact iff_of_false (fun h ↦ h rfl) List.not_mem_nil
  | cons phy rest ih =>
    rw [phyState_cons, List.map_cons, List.mem_cons]
    by_cases hphy : phy.phyId = phyId
    · rw [if_pos hphy]
      exact iff_of_true (Option.some_ne_none _) (Or.inl hphy.symm)
    · rw [if_neg hphy, ih, or_iff_right fun h ↦ hphy h.symm]

/-- A PHY in some state has a record. -/
theorem exists_mem_of_phyState (h : phyState phys phyId = some state) :
    ⟨phyId, state⟩ ∈ phys := by
  unfold phyState nfapiPnfPhyConfigFind at h
  obtain ⟨phy, hfind, rfl⟩ := Option.map_eq_some_iff.mp h
  have hid : phy.phyId = phyId := by simpa using List.find?_some hfind
  rw [← hid]
  exact List.mem_of_find?_eq_some hfind

end MultiUeProxy.P5
