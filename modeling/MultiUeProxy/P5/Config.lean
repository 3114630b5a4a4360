import MultiUeProxy.P5.ConfigFields

/-!
# The LTE CONFIG.request

`pack_config_request` and `unpack_config_request` of `nfapi_p5.c`. The table of the encoder is that
of the decoder, so all of its fields come back. The message also has the fields of NB-IoT and a
vendor extension, which a VNF sets: the encoder writes none of these. A request comes back as it was
exactly when it does without them (`configRequest_intact_iff`).
-/

set_option autoImplicit false
set_option relaxedAutoImplicit false

namespace MultiUeProxy.P5

open Lib.Execution Lib.ByteCursor Lib.ByteWriter Lib.Codec Lib.TlvCodec Lib.InPlace Lib.TaggedParts
  Lib.TlvRecord Message

/-- `NFAPI_CONFIG_REQUEST`. -/
def nfapiConfigRequest : UInt16 := 0x010A

/-- What `pack_config_request` goes through, and the table of `unpack_config_request`. -/
def configRequestTable : List LteField :=
  LteField.subframeConfig ++ LteField.rfConfig ++ LteField.phichConfig ++ LteField.schConfig ++
    LteField.prachConfig ++ LteField.puschConfig ++ LteField.pucchConfig ++ LteField.srsConfig ++
    LteField.uplinkReferenceSignalConfig ++ LteField.laaConfig ++ LteField.emtcConfig ++
    LteField.tddFrameStructureConfig ++ LteField.l23Config ++ LteField.nfapiConfig

/-- `nfapi_config_request_t`. -/
structure ConfigRequest (V : Type) where
  numTlv : UInt8
  fields : Fields LteField.kind
  vendorExtension : Option V

/-- `pack_config_request`. It has no use for the vendor extension. -/
def packConfigRequest {V : Type} (limit : ℕ) (request : ConfigRequest V) : Push Unit := do
  Push.push8 limit request.numTlv
  packParts limit (lteParts configRequestTable) request.fields

/-- `unpack_config_request`. -/
def unpackConfigRequest {V : Type} (config : Option (CodecConfig V)) (limit : ℕ) :
    Pull (ConfigRequest V) := do
  let numTlv ← Pull.pull8 limit
  let (fields, vendorExtension) ←
    (unpackTlvList config ((lteParts configRequestTable).map TlvPart.entry) limit).toPull
      (blank, none)
  return { numTlv, fields, vendorExtension }

/-- `nfapi_p5_message_unpack` for this message. -/
def unpackConfigRequestMessage {V : Type} (config : Option (CodecConfig V)) (mem : Memory)
    (length : ℕ) : Outcome (Option (ConfigRequest V)) :=
  messageUnpack (caseOf nfapiConfigRequest (unpackConfigRequest config)) mem length

/-- The packed message is accepted, and what is unpacked is the request: the number of fields, each
field, and the vendor extension. -/
def ConfigIntact {V : Type} (config : Option (CodecConfig V)) (request : ConfigRequest V)
    (packed : List UInt8) : Prop :=
  ∃ received, unpackConfigRequestMessage config (memoryOf packed) packed.length =
      .ok (some received) ∧
    received.numTlv = request.numTlv ∧
    (∀ name ∈ configRequestTable ++ LteField.nbIotConfig,
      SameField name.tag (request.fields name) (received.fields name)) ∧
    received.vendorExtension = request.vendorExtension

/-- No field of NB-IoT is there. -/
def NoNbIot (fields : Fields LteField.kind) : Prop :=
  ∀ name ∈ LteField.nbIotConfig, (fields name).tl.tag ≠ name.tag

theorem listed_configRequest :
    Listed LteField.tag configRequestTable configRequestTable where
  nodup := by decide +kernel
  subset := fun _ hname ↦ hname
  tags := by decide +kernel
  nonzero := by decide +kernel

theorem nbIot_not_mem : ∀ name ∈ LteField.nbIotConfig, name ∉ configRequestTable := by
  decide +kernel

theorem nbIot_nonzero : ∀ name ∈ LteField.nbIotConfig, 0 ≠ name.tag := by
  decide +kernel

section RoundTrip

variable {V : Type} {config : Option (CodecConfig V)} {limit : ℕ} {header : P5MessageHeader}
  {request : ConfigRequest V} {packed : List UInt8}

/-- What is unpacked from a packed request. -/
theorem unpackConfigRequest_packed (hid : header.messageId = nfapiConfigRequest)
    (hfits : PartsFit (lteParts configRequestTable) request.fields)
    (hpacked : p5MessagePack (packConfigRequest limit request) limit header = .ok (some packed)) :
    unpackConfigRequestMessage config (memoryOf packed) packed.length =
      .ok (some { numTlv := request.numTlv,
                  fields := arriveParts (lteParts configRequestTable) request.fields blank,
                  vendorExtension := none }) := by
  have hpackFields := @emits_packParts _ (lteParts configRequestTable) request.fields limit hfits
  have hyields : Yields limit (packConfigRequest limit request)
      ([request.numTlv] ++ partsBytes (lteParts configRequestTable) request.fields) :=
    (yields_push8 _).bind hpackFields.yields
  obtain ⟨hrun, hholds, hlength, -⟩ := messageUnpack_packed hid hyields hpacked
  rw [holds_append] at hholds
  rw [List.length_append, ← Nat.add_assoc] at hlength
  have hreadNumber := reads_pull8 packed.length request.numTlv _ _ hholds.1 (by omega)
  have hlist := @unpackTlvList_fields _ V _ _ _ _ _ _ config none listed_configRequest hfits _ _
    hholds.2
  rw [← hlength] at hlist
  unfold unpackConfigRequestMessage
  rw [hrun, Pull.run_eq_some]
  unfold unpackConfigRequest
  exact ⟨_, by rw [Pull.bind_of_ok hreadNumber, Pull.bind_of_ok (toPull_eq_ok.mpr hlist)]; rfl⟩

/-- A packed request comes back as it was exactly when it has no vendor extension and no field of
NB-IoT. -/
theorem configRequest_intact_iff (config : Option (CodecConfig V)) (limit : ℕ)
    (header : P5MessageHeader) (request : ConfigRequest V) (packed : List UInt8)
    (hid : header.messageId = nfapiConfigRequest)
    (hfits : PartsFit (lteParts configRequestTable) request.fields)
    (hpacked : p5MessagePack (packConfigRequest limit request) limit header = .ok (some packed)) :
    ConfigIntact config request packed ↔
      request.vendorExtension = none ∧ NoNbIot request.fields := by
  have hunpack := @unpackConfigRequest_packed V config limit header request packed hid hfits hpacked
  have hnbIot : ∀ name ∈ LteField.nbIotConfig, SameField name.tag (request.fields name)
      (arriveParts (lteParts configRequestTable) request.fields blank name) ↔
        (request.fields name).tl.tag ≠ name.tag := by
    intro name hname
    unfold lteParts fieldParts
    rw [arriveParts_slots, if_neg (nbIot_not_mem name hname)]
    exact sameField_absent (nbIot_nonzero name hname) _
  constructor
  · intro hintact
    obtain ⟨received, hreceived, -, hfields, hextension⟩ := hintact
    rw [hunpack] at hreceived
    cases hreceived
    refine ⟨hextension.symm, fun name hname ↦ ?_⟩
    exact (hnbIot name hname).mp (hfields name (List.mem_append_right _ hname))
  · intro hnone
    obtain ⟨hextension, hwithout⟩ := hnone
    refine ⟨_, hunpack, rfl, ?_, hextension.symm⟩
    intro name hname
    rcases List.mem_append.mp hname with hlisted | hname
    · exact sameField_arrive hlisted (listed_configRequest.nonzero name hlisted)
    · exact (hnbIot name hname).mpr (hwithout name hname)

end RoundTrip

/-- A request with the port of the VNF and this vendor extension. -/
def vnfPortRequest (vendorExtension : Option (Tlv UInt8)) : ConfigRequest (Tlv UInt8) where
  numTlv := 1
  fields := Function.update blank .nfapiConfigP7VnfPort
    ⟨⟨LteField.tag .nfapiConfigP7VnfPort, 0⟩, (50011 : UInt16)⟩
  vendorExtension

theorem fits_vnfPortRequest (vendorExtension : Option (Tlv UInt8)) :
    PartsFit (lteParts configRequestTable) (vnfPortRequest vendorExtension).fields := by
  intro part hpart _
  obtain ⟨name, -, rfl⟩ := List.mem_map.mp hpart
  cases name with
  | nfapiConfigRfBands | nfapiConfigNmmGsmFrequencyBands | nfapiConfigNmmUmtsFrequencyBands |
    nfapiConfigNmmLteFrequencyBands => exact ⟨rfl, Nat.zero_le _, fun _ _ ↦ trivial⟩
  | _ => trivial

/-- Without a vendor extension, the request comes back. -/
theorem configRequest_vnf_port : ∃ packed,
    p5MessagePack (packConfigRequest 100 (vnfPortRequest none)) 100
        { messageId := nfapiConfigRequest } = .ok (some packed) ∧
      ConfigIntact none (vnfPortRequest none) packed :=
  ⟨_, rfl, (configRequest_intact_iff none 100 { messageId := nfapiConfigRequest } _ _ rfl
    (fits_vnfPortRequest none) rfl).mpr ⟨rfl, by unfold NoNbIot; decide +kernel⟩⟩

/-- A configuration that knows vendor extensions of one byte. -/
def oneByteConfig : CodecConfig (Tlv UInt8) where
  packVendorExtensionTlv := some fun limit extension ↦ Push.push8 limit extension.value
  unpackVendorExtensionTlv := some fun tl limit mem extension? pos ↦
    match Pull.pull8 limit mem pos with
    | .ok (value, next) => .ok (.decoded, some ⟨tl, value⟩, next)
    | .error .reject => .ok (.failed, extension?, pos)
    | .error (.crash cause) => .error cause

/-- With a vendor extension that the configuration knows, it does not. -/
theorem configRequest_vendor_extension : ∃ packed,
    p5MessagePack (packConfigRequest 100 (vnfPortRequest (some ⟨⟨0xF001, 1⟩, 5⟩))) 100
        { messageId := nfapiConfigRequest } = .ok (some packed) ∧
      ¬ ConfigIntact (some oneByteConfig) (vnfPortRequest (some ⟨⟨0xF001, 1⟩, 5⟩)) packed := by
  refine ⟨_, rfl, ?_⟩
  intro hintact
  obtain ⟨received, hreceived, -, -, hextension⟩ := hintact
  rw [@unpackConfigRequest_packed (Tlv UInt8) (some oneByteConfig) 100
    { messageId := nfapiConfigRequest } (vnfPortRequest (some ⟨⟨0xF001, 1⟩, 5⟩)) _ rfl
    (fits_vnfPortRequest _) rfl] at hreceived
  cases hreceived
  cases hextension

end MultiUeProxy.P5
