import MultiUeProxy.Startup.CommandLine
import MultiUeProxy.Uplink.Receive

/-!
# Constructing the proxies

The second half of `main` in `proxy.cc`: the constructors of `Multi_UE_Proxy` (`lte_proxy.cc`) and
`Multi_UE_NR_Proxy` (`nr_proxy.cc`), which are one text with two sets of ports. `configure` opens
two sockets for each UE and keeps them in arrays of 100, `oai_subframe_init` and `oai_slot_init`
of `nfapi_pnf.c` set up the UE's queue in an array of `MAX_UES`. None of them compares the UE count
with the size of an array or with the number of addresses, so it is `main` that has to.
`ueIndices_inBounds_iff` says for which command lines it does.
-/

set_option autoImplicit false
set_option relaxedAutoImplicit false

namespace MultiUeProxy.Startup.Construction

open Lib.Execution Queue.Operations Uplink.Message Uplink.Receive CommandLine

/-! ### The functions -/

/-- A write `array[i] = x`. -/
def store {α : Type} {size : ℕ} (array : Vector α size) (i : ℕ) (x : α) :
    Outcome (Vector α size) :=
  if h : i < size then .ok (array.set i x h) else .error .fault

/-- What the calls for sockets return. A descriptor is negative when `socket` fails, and `false`
stands for the failure of the other calls. -/
structure Network where
  socket : ℕ → ℤ
  bind : ℤ → ℕ → Bool
  inetAton : String → Bool
  connect : ℤ → String → ℕ → Bool

/-- The size of `ue_rx_socket` and of `ue_tx_socket`. -/
def socketSlots : ℕ := 100

/-- The ports that the texts of the two classes differ in. -/
structure Ports where
  vnfP5port : ℕ
  vnfP7port : ℕ
  pnfP7port : ℕ
  oaiRxUePort : ℕ
  oaiTxUePort : ℕ

/-- `port_delta`. -/
def portDelta : ℕ := 2

/-- The members of `Multi_UE_Proxy` and of `Multi_UE_NR_Proxy` that their constructors set. A slot
of an array is `none` until it is written. -/
structure Proxy where
  oaiUeIpaddr : List String
  vnfIpaddr : String
  pnfIpaddr : String
  ports : Ports
  ueTxSocket_ : ℤ := -1
  ueRxSocket_ : ℤ := -1
  ueRxSocket : Vector (Option ℤ) socketSlots := Vector.replicate socketSlots none
  ueTxSocket : Vector (Option ℤ) socketSlots := Vector.replicate socketSlots none

/-- The part of `init_oai_socket` that sets up the socket to a UE. -/
def initTxSocket (net : Network) (p : Proxy) (addr : String) (txPort ueIdx : ℕ) :
    Outcome (ℤ × Proxy) :=
  if !net.inetAton addr then .ok (-1, p)
  else do
    let fd := net.socket txPort
    let sockets ← store p.ueTxSocket ueIdx (some fd)
    let p := { p with ueTxSocket_ := fd, ueTxSocket := sockets }
    if fd < 0 then .ok (-1, p)
    else if !net.connect fd addr (txPort % 65536) then .ok (-1, p)
    else .ok (0, p)

/-- `init_oai_socket`. -/
def initOaiSocket (net : Network) (p : Proxy) (addr : String) (txPort rxPort ueIdx : ℕ) :
    Outcome (ℤ × Proxy) := do
  let fd := net.socket rxPort
  let sockets ← store p.ueRxSocket ueIdx (some fd)
  let p := { p with ueRxSocket_ := fd, ueRxSocket := sockets }
  if fd < 0 then .ok (-1, p)
  else if !net.bind fd (rxPort % 65536) then .ok (-1, { p with ueRxSocket_ := -1 })
  else initTxSocket net p addr txPort ueIdx

/-- The body of the loop in `configure`, which ignores what `init_oai_socket` returns. -/
def configureUe (net : Network) (p : Proxy) (ueIdx : ℕ) : Outcome Proxy :=
  match p.oaiUeIpaddr[ueIdx]? with
  | none => .error .fault
  | some addr => do
    let oaiRxUePort := p.ports.oaiRxUePort + ueIdx * portDelta
    let oaiTxUePort := p.ports.oaiTxUePort + ueIdx * portDelta
    let (_, p) ← initOaiSocket net p addr oaiTxUePort oaiRxUePort ueIdx
    .ok p

/-- `configure`. -/
def configure (net : Network) (ports : Ports) (numUes : ℕ) (vnfIp proxyIp : String)
    (ueIp : List String) : Outcome Proxy :=
  (List.range numUes).foldlM (configureUe net)
    { oaiUeIpaddr := ueIp, vnfIpaddr := vnfIp, pnfIpaddr := proxyIp, ports := ports }

/-- An array of queues, one for each UE. A queue is `none` until it is set up. -/
abbrev UeQueues := Vector (Option (QueueT MessageBuffer)) maxUes

/-- `oai_subframe_init` and `oai_slot_init`. -/
def initQueues (numUes : ℕ) (queues : UeQueues) : Outcome UeQueues :=
  (List.range numUes).foldlM (fun queues i ↦ store queues i (some initQueue)) queues

/-- The variables that the constructors set outside the object. -/
structure Globals where
  numUes : ℕ := 1
  lteInstance : Option Proxy := none
  nrInstance : Option Proxy := none
  msgsFromUe : UeQueues := Vector.replicate maxUes none
  msgsFromNrUe : UeQueues := Vector.replicate maxUes none

def ltePorts : Ports := ⟨50001, 50011, 50010, 3211, 3212⟩

def nrPorts : Ports := ⟨50601, 50611, 50610, 3611, 3612⟩

/-- The constructor of `Multi_UE_Proxy`. -/
def multiUeProxy (net : Network) (g : Globals) (numOfUes : ℕ) (enbIp proxyIp : String)
    (ueIp : List String) : Outcome Globals := do
  assert (g.lteInstance.isNone)
  let p ← configure net ltePorts numOfUes enbIp proxyIp ueIp
  let queues ← initQueues numOfUes g.msgsFromUe
  .ok { g with numUes := numOfUes, lteInstance := some p, msgsFromUe := queues }

/-- The constructor of `Multi_UE_NR_Proxy`. -/
def multiUeNrProxy (net : Network) (g : Globals) (numOfUes : ℕ) (gnbIp proxyIp : String)
    (ueIp : List String) : Outcome Globals := do
  assert (g.nrInstance.isNone)
  let p ← configure net nrPorts numOfUes gnbIp proxyIp ueIp
  let queues ← initQueues numOfUes g.msgsFromNrUe
  .ok { g with numUes := numOfUes, nrInstance := some p, msgsFromNrUe := queues }

/-- The last `switch` of `main`, up to the calls of `start`. -/
def constructProxies (net : Network) (s : Settings) : Outcome Globals :=
  match s.softmodemMode with
  | .lte => multiUeProxy net {} s.ues s.enbIpaddr s.proxyIpaddr s.ueIpaddr
  | .nr => multiUeNrProxy net {} s.ues s.gnbIpaddr s.proxyIpaddr s.ueIpaddr
  | .nsa => do
    let g ← multiUeProxy net {} s.ues s.enbIpaddr s.proxyIpaddr s.ueIpaddr
    multiUeNrProxy net g s.ues s.gnbIpaddr s.proxyIpaddr s.ueIpaddr

/-! ### Indices in bounds -/

/-- Every index of a UE is one of the address list and of the arrays. -/
def InBounds (s : Settings) : Prop :=
  s.ues ≤ s.ueIpaddr.length ∧ s.ues ≤ socketSlots ∧ s.ues ≤ maxUes

theorem store_returns {α : Type} {size i : ℕ} (array : Vector α size) (x : α) (h : i < size) :
    ∃ next, store array i x = .ok next := ⟨array.set i x h, dif_pos h⟩

theorem lt_of_store {α : Type} {size i : ℕ} {array next : Vector α size} {x : α}
    (h : store array i x = .ok next) : i < size := by
  unfold store at h
  split_ifs at h with hlt
  exact hlt

theorem initTxSocket_keeps (net : Network) (p : Proxy) (addr : String) (txPort : ℕ) {ueIdx : ℕ}
    (h : ueIdx < socketSlots) :
    ∃ result, initTxSocket net p addr txPort ueIdx = .ok result ∧
      result.2.oaiUeIpaddr = p.oaiUeIpaddr := by
  obtain ⟨sockets, hsockets⟩ := store_returns p.ueTxSocket (some (net.socket txPort)) h
  unfold initTxSocket
  dsimp only
  rw [hsockets, ok_bind]
  split_ifs
  · exact ⟨_, rfl, rfl⟩
  · exact ⟨_, rfl, rfl⟩
  · exact ⟨_, rfl, rfl⟩
  · exact ⟨_, rfl, rfl⟩

theorem initOaiSocket_keeps (net : Network) (p : Proxy) (addr : String) (txPort rxPort : ℕ)
    {ueIdx : ℕ} (h : ueIdx < socketSlots) :
    ∃ result, initOaiSocket net p addr txPort rxPort ueIdx = .ok result ∧
      result.2.oaiUeIpaddr = p.oaiUeIpaddr := by
  obtain ⟨sockets, hsockets⟩ := store_returns p.ueRxSocket (some (net.socket rxPort)) h
  unfold initOaiSocket
  dsimp only
  rw [hsockets, ok_bind]
  split_ifs
  · exact ⟨_, rfl, rfl⟩
  · exact ⟨_, rfl, rfl⟩
  · exact initTxSocket_keeps net _ addr txPort h

/-- The first thing that `init_oai_socket` does is a write at the UE's index. -/
theorem lt_of_initOaiSocket {net : Network} {p : Proxy} {addr : String} {txPort rxPort ueIdx : ℕ}
    {result : ℤ × Proxy} (h : initOaiSocket net p addr txPort rxPort ueIdx = .ok result) :
    ueIdx < socketSlots := by
  unfold initOaiSocket at h
  dsimp only at h
  obtain ⟨sockets, hsockets, -⟩ := bind_eq_ok.mp h
  exact lt_of_store hsockets

/-- `configure` returns when there is an address and a slot for each UE, and only then. -/
theorem configure_returns_iff (net : Network) (ports : Ports) (numUes : ℕ)
    (vnfIp proxyIp : String) (ueIp : List String) :
    (∃ p, configure net ports numUes vnfIp proxyIp ueIp = .ok p) ↔
      numUes ≤ min ueIp.length socketSlots := by
  refine foldlM_range_returns_iff (fun p ↦ p.oaiUeIpaddr = ueIp) ?_ ?_ numUes rfl
  · intro p ueIdx hp hlt
    obtain ⟨haddress, hslot⟩ := Nat.lt_min.mp hlt
    obtain ⟨result, hresult, hkept⟩ := initOaiSocket_keeps net p ueIp[ueIdx]
      (p.ports.oaiTxUePort + ueIdx * portDelta) (p.ports.oaiRxUePort + ueIdx * portDelta) hslot
    refine ⟨result.2, ?_, hkept.trans hp⟩
    unfold configureUe
    rw [hp, List.getElem?_eq_getElem haddress]
    dsimp only
    rw [hresult]
    rfl
  · intro p ueIdx next hp hrun
    unfold configureUe at hrun
    rw [hp] at hrun
    cases haddr : ueIp[ueIdx]? with
    | none =>
      rw [haddr] at hrun
      cases hrun
    | some addr =>
      rw [haddr] at hrun
      dsimp only at hrun
      obtain ⟨result, hresult, -⟩ := bind_eq_ok.mp hrun
      obtain ⟨haddress, -⟩ := List.getElem?_eq_some_iff.mp haddr
      exact Nat.lt_min.mpr ⟨haddress, lt_of_initOaiSocket hresult⟩

/-- The queues are set up when the array has one for each UE, and only then. -/
theorem initQueues_returns_iff (numUes : ℕ) (queues : UeQueues) :
    (∃ next, initQueues numUes queues = .ok next) ↔ numUes ≤ maxUes := by
  refine foldlM_range_returns_iff (fun _ ↦ True) ?_ ?_ numUes trivial
  · intro queues i _ hlt
    obtain ⟨next, hnext⟩ := store_returns queues (some initQueue) hlt
    exact ⟨next, hnext, trivial⟩
  · intro queues i next _ hrun
    exact lt_of_store hrun

/-- What the two constructors have in common. -/
theorem construction_returns_iff (net : Network) (ports : Ports) (s : Settings) (vnfIp : String)
    (queues : UeQueues) (result : Proxy → UeQueues → Globals) :
    (∃ next, (do
      let p ← configure net ports s.ues vnfIp s.proxyIpaddr s.ueIpaddr
      let queues ← initQueues s.ues queues
      .ok (result p queues)) = Except.ok next) ↔ InBounds s := by
  have hconfigure := configure_returns_iff net ports s.ues vnfIp s.proxyIpaddr s.ueIpaddr
  have hqueues := initQueues_returns_iff s.ues queues
  rw [Nat.le_min] at hconfigure
  constructor
  · rintro ⟨next, hrun⟩
    obtain ⟨p, hp, hrun⟩ := bind_eq_ok.mp hrun
    obtain ⟨set, hset, -⟩ := bind_eq_ok.mp hrun
    obtain ⟨haddresses, hslots⟩ := hconfigure.mp ⟨p, hp⟩
    exact ⟨haddresses, hslots, hqueues.mp ⟨set, hset⟩⟩
  · rintro ⟨haddresses, hslots, hues⟩
    obtain ⟨p, hp⟩ := hconfigure.mpr ⟨haddresses, hslots⟩
    obtain ⟨set, hset⟩ := hqueues.mpr hues
    refine ⟨result p set, ?_⟩
    rw [hp, ok_bind, hset, ok_bind]

theorem multiUeProxy_returns_iff (net : Network) {g : Globals} (hfree : g.lteInstance.isNone)
    (s : Settings) :
    (∃ next, multiUeProxy net g s.ues s.enbIpaddr s.proxyIpaddr s.ueIpaddr = .ok next) ↔
      InBounds s := by
  unfold multiUeProxy
  rw [assert_of_true hfree, ok_bind]
  exact construction_returns_iff net ltePorts s s.enbIpaddr g.msgsFromUe _

theorem multiUeNrProxy_returns_iff (net : Network) {g : Globals} (hfree : g.nrInstance.isNone)
    (s : Settings) :
    (∃ next, multiUeNrProxy net g s.ues s.gnbIpaddr s.proxyIpaddr s.ueIpaddr = .ok next) ↔
      InBounds s := by
  unfold multiUeNrProxy
  rw [assert_of_true hfree, ok_bind]
  exact construction_returns_iff net nrPorts s s.gnbIpaddr g.msgsFromNrUe _

/-- The constructor of the LTE proxy leaves the place of the NR proxy as it is. -/
theorem multiUeProxy_nrInstance {net : Network} {g next : Globals} {ues : ℕ}
    {enbIp proxyIp : String} {ueIp : List String}
    (h : multiUeProxy net g ues enbIp proxyIp ueIp = .ok next) :
    next.nrInstance = g.nrInstance := by
  unfold multiUeProxy at h
  obtain ⟨_, -, h⟩ := bind_eq_ok.mp h
  obtain ⟨p, -, h⟩ := bind_eq_ok.mp h
  obtain ⟨queues, -, h⟩ := bind_eq_ok.mp h
  obtain rfl := Except.ok.inj h
  rfl

/-- The proxies are constructed without an access outside an array exactly when every index of a
UE is in bounds. -/
theorem constructProxies_returns_iff (net : Network) (s : Settings) :
    (∃ g, constructProxies net s = .ok g) ↔ InBounds s := by
  unfold constructProxies
  cases s.softmodemMode with
  | lte => exact multiUeProxy_returns_iff net rfl s
  | nr => exact multiUeNrProxy_returns_iff net rfl s
  | nsa =>
    have hlte := multiUeProxy_returns_iff net (g := {}) rfl s
    constructor
    · rintro ⟨g, hrun⟩
      obtain ⟨middle, hmiddle, -⟩ := bind_eq_ok.mp hrun
      exact hlte.mp ⟨middle, hmiddle⟩
    · intro hbounds
      obtain ⟨middle, hmiddle⟩ := hlte.mpr hbounds
      have hfree : middle.nrInstance.isNone := by
        rw [multiUeProxy_nrInstance hmiddle]
        rfl
      obtain ⟨g, hg⟩ := (multiUeNrProxy_returns_iff net hfree s).mpr hbounds
      exact ⟨g, bind_eq_ok.mpr ⟨middle, hmiddle, hg⟩⟩

/-! ### Command lines that keep the indices in bounds -/

/-- The UE count that a command line asks for. -/
def uesAsked (args : List String) : ℕ := (ueCounts args).getLast?.getD 1

/-- The mode that a command line asks for. -/
def modeAsked (args : List String) : SoftmodemMode := (modes args).getLast?.getD .lte

/-- The UE count fits the number of addresses and the arrays. In the modes of one radio `main` gives
no address to a UE when there are five of them or more, and with four of them it does not accept
another count than two. -/
def Fits (mode : SoftmodemMode) (ues : ℕ) : ℕ → Prop
  | 0 => ues ≤ maxUes
  | 3 => ues = 1
  | 4 => mode = .nsa → ues = 1
  | count => mode = .nsa ∧ ues + 3 ≤ count ∧ ues ≤ maxUes

/-- The UE count of a command line fits its addresses. -/
def UesFit (args : List String) : Prop :=
  Fits (modeAsked args) (uesAsked args) (addresses args).length

/-- The number of addresses that UEs get from a given number of them on the command line. -/
def entries (mode : SoftmodemMode) (ues : ℕ) : ℕ → ℕ
  | 0 => ues
  | 3 => 1
  | 4 => if mode = .nsa then 1 else 2
  | count => if mode = .nsa then count - 3 else 0

/-- The numbers of addresses that `main` accepts. -/
def Accepted (mode : SoftmodemMode) (ues : ℕ) : ℕ → Prop
  | 0 => True
  | 3 => mode ≠ .nsa
  | 4 => mode = .nsa ∨ ues = 2
  | count => 5 ≤ count

theorem assignAddresses_ok {a : Arguments} {s : Settings} (h : assignAddresses a = .ok s) :
    Accepted a.softmodemMode a.ues a.ipaddrs.length ∧ s.ues = a.ues ∧
      s.ueIpaddr.length = entries a.softmodemMode a.ues a.ipaddrs.length := by
  unfold assignAddresses at h
  dsimp only at h
  split at h
  · rename_i haddresses
    obtain rfl := Except.ok.inj h
    rw [haddresses]
    exact ⟨trivial, rfl, List.length_replicate⟩
  · cases h
  · cases h
  · rename_i haddresses
    rw [haddresses]
    split_ifs at h with hnsa
    · cases h
    · obtain rfl := Except.ok.inj h
      exact ⟨hnsa, rfl, rfl⟩
  · rename_i haddresses
    rw [haddresses]
    split_ifs at h with hnsa hues
    · obtain rfl := Except.ok.inj h
      exact ⟨Or.inl hnsa, rfl, (if_pos hnsa).symm⟩
    · obtain rfl := Except.ok.inj h
      exact ⟨Or.inr hues, rfl, (if_neg hnsa).symm⟩
    · cases h
  · rename_i addresses first second third rest hthree hfour haddresses
    rw [haddresses]
    -- The shapes of the earlier cases are excluded, so the list has five elements or more.
    match rest, hthree, hfour with
    | [], hthree, _ => exact absurd rfl hthree
    | [fourth], _, hfour => exact absurd rfl (hfour fourth)
    | fourth :: fifth :: rest, _, _ =>
      have hfive : 5 ≤ (first :: second :: third :: fourth :: fifth :: rest).length :=
        Nat.le_add_left 5 rest.length
      split_ifs at h with hboth hnsa
      · rw [hboth.1] at hboth
        exact absurd hboth.2 SoftmodemMode.noConfusion
      · obtain rfl := Except.ok.inj h
        exact ⟨hfive, rfl, (if_pos hnsa).symm⟩
      · obtain rfl := Except.ok.inj h
        exact ⟨hfive, rfl, (if_neg hnsa).symm⟩

theorem fits_iff {mode : SoftmodemMode} {ues count : ℕ} (hpos : 0 < ues)
    (h : Accepted mode ues count) :
    (ues ≤ entries mode ues count ∧ ues ≤ socketSlots ∧ ues ≤ maxUes) ↔ Fits mode ues count := by
  have hsizes : maxUes ≤ socketSlots := by decide
  have hmax : 2 ≤ maxUes := by decide
  match count, h with
  | 0, _ => exact ⟨fun hb ↦ hb.2.2, fun hf ↦ ⟨Nat.le_refl ues, Nat.le_trans hf hsizes, hf⟩⟩
  | 3, _ =>
    show (ues ≤ 1 ∧ ues ≤ socketSlots ∧ ues ≤ maxUes) ↔ ues = 1
    omega
  | 4, h =>
    show (ues ≤ (if mode = .nsa then 1 else 2) ∧ ues ≤ socketSlots ∧ ues ≤ maxUes) ↔
      (mode = .nsa → ues = 1)
    by_cases hnsa : mode = .nsa
    · rw [if_pos hnsa]
      constructor
      · intro hb _
        exact Nat.le_antisymm hb.1 hpos
      · intro hf
        have hues := hf hnsa
        omega
    · have hues : ues = 2 := h.resolve_left hnsa
      rw [if_neg hnsa]
      constructor
      · intro _ hmode
        exact absurd hmode hnsa
      · intro _
        omega
  | count + 5, _ =>
    show (ues ≤ (if mode = .nsa then count + 5 - 3 else 0) ∧ ues ≤ socketSlots ∧ ues ≤ maxUes) ↔
      mode = .nsa ∧ ues + 3 ≤ count + 5 ∧ ues ≤ maxUes
    by_cases hnsa : mode = .nsa
    · rw [if_pos hnsa]
      constructor
      · intro hb
        exact ⟨hnsa, by omega, hb.2.2⟩
      · intro hf
        exact ⟨by omega, Nat.le_trans hf.2.2 hsizes, hf.2.2⟩
    · rw [if_neg hnsa]
      constructor
      · intro hb
        exact absurd hpos (Nat.not_lt.mpr hb.1)
      · intro hf
        exact absurd hf.1 hnsa

/-- For a command line that `main` accepts, every UE has an address and a place in the arrays
exactly when the UE count fits. -/
theorem inBounds_iff {args : List String} {s : Settings} (h : main args = .ok s) :
    InBounds s ↔ UesFit args := by
  unfold main at h
  cases hread : readArguments {} args with
  | error e =>
    rw [hread] at h
    cases h
  | ok a =>
    rw [hread] at h
    obtain ⟨ha, hpos⟩ := readArguments_eq (by decide) hread
    obtain ⟨haccepted, hues, hlength⟩ := assignAddresses_ok h
    have haddresses : a.ipaddrs = addresses args := by rw [ha]; rfl
    have hmode : a.softmodemMode = modeAsked args := by rw [ha]; rfl
    have hcount : a.ues = uesAsked args := by rw [ha]; rfl
    unfold InBounds UesFit
    rw [hues, hlength, ← haddresses, ← hmode, ← hcount]
    exact fits_iff hpos haccepted

/-- For every command line that `main` accepts, each index of a UE has an address and a place in
every array, and the proxies are constructed without leaving one, exactly when the UE count
fits. -/
theorem ueIndices_inBounds_iff (args : List String) (s : Settings) (h : main args = .ok s) :
    (InBounds s ↔ UesFit args) ∧
      ∀ net, (∃ g, constructProxies net s = .ok g) ↔ UesFit args := by
  refine ⟨inBounds_iff h, ?_⟩
  intro net
  exact (constructProxies_returns_iff net s).trans (inBounds_iff h)

/-- Two UEs on the loopback interface. -/
theorem ueIndices_inBounds_two :
    ∃ s, main ["2"] = .ok s ∧ (InBounds s ↔ UesFit ["2"]) ∧
      ∀ net, (∃ g, constructProxies net s = .ok g) ↔ UesFit ["2"] := by
  have h : main ["2"] = .ok
      { ues := 2, maxSeconds := 600, softmodemMode := .lte,
        ueIpaddr := ["127.0.0.1", "127.0.0.1"] } := by rfl
  exact ⟨_, h, ueIndices_inBounds_iff ["2"] _ h⟩

/-- The command line for an eNB, a proxy and three UEs, one address for each. -/
def threeUes : List String :=
  ["3", "--lte", "10.0.0.1", "10.0.0.2", "10.0.0.3", "10.0.0.4", "10.0.0.5"]

/-- No UE of that command line gets an address. -/
theorem threeUes_without_addresses :
    ∃ s, main threeUes = .ok s ∧ s.ues = 3 ∧ s.ueIpaddr = [] ∧ ¬ InBounds s := by
  have h : main threeUes = .ok
      { ues := 3, maxSeconds := 600, softmodemMode := .lte } := by rfl
  refine ⟨_, h, rfl, rfl, ?_⟩
  rintro ⟨hle, -⟩
  exact absurd hle (by decide)

end MultiUeProxy.Startup.Construction
