import MultiUeProxy.Lib.TlvCodec
import MultiUeProxy.P7.LteUplink
import MultiUeProxy.P7.Pack

/-!
# The frame of the LTE messages

The LTE encoders of `nfapi_p7.c` write the time of a message and then its body, as a tagged field.
The decoders read the tagged fields up to the end of the message.

`messageUnpack_lteMessage` is the round trip of a message, given that of its body, and the other two
theorems at the end say what becomes of a message whose body is not decoded.
-/

set_option autoImplicit false
set_option relaxedAutoImplicit false

namespace MultiUeProxy.P7.LteUplink

open Lib.Execution Lib.ByteCursor Lib.ByteCursor.Pull Lib.ByteWriter Lib.Codec Lib.TlvCodec Header
open Pack
open Lib.ByteWriter.Push (push8 push16 push32)

/-! ### Fields of several messages -/

def packRxUeInformationValue (limit : ℕ) (value : RxUeInformation) : Push Unit := do
  push32 limit value.handle
  push16 limit value.rnti

def packUlCqiInformationValue (limit : ℕ) (value : UlCqiInformation) : Push Unit := do
  push8 limit value.ulCqi
  push8 limit value.channel

instance : Tagged RxUeInformation := ⟨(·.tl), fun value tl ↦ { value with tl }, {}⟩

instance : Tagged UlCqiInformation := ⟨(·.tl), fun value tl ↦ { value with tl }, {}⟩

def rxUeInformationBytes (value : RxUeInformation) : List UInt8 :=
  bytes32 value.handle ++ bytes16 value.rnti

def ulCqiInformationBytes (value : UlCqiInformation) : List UInt8 :=
  [value.ulCqi] ++ [value.channel]

section Fields

variable {limit : ℕ} {tl : Tl}

instance {value : RxUeInformation} :
    Emits limit (packRxUeInformationValue limit value) (rxUeInformationBytes value) := by
  unfold packRxUeInformationValue rxUeInformationBytes
  infer_instance

theorem reads_unpackRxUeInformationValue (value : RxUeInformation) :
    Reads limit (unpackRxUeInformationValue tl limit) (rxUeInformationBytes value)
      { value with tl } :=
  (reads_pull32 limit _).bind (reads_pull16 limit _).map

instance {value : UlCqiInformation} :
    Emits limit (packUlCqiInformationValue limit value) (ulCqiInformationBytes value) := by
  unfold packUlCqiInformationValue ulCqiInformationBytes
  infer_instance

theorem reads_unpackUlCqiInformationValue (value : UlCqiInformation) :
    Reads limit (unpackUlCqiInformationValue tl limit) (ulCqiInformationBytes value)
      { value with tl } :=
  (reads_pull8 limit _).bind (reads_pull8 limit _).map

end Fields

/-! ### Instances -/

/-- One PDU of an instance list: the length of its fields is put in when they are written. -/
def packInstance (limit : ℕ) (instanceLength : UInt16) (fields : Push Unit) : Push Unit :=
  patched (push16 limit instanceLength) fields fun count ↦ bytes16 (count - 2).toUInt16

/-- The bytes of an instance with these fields. -/
def instanceBytes (fields : List UInt8) : List UInt8 :=
  bytes16 fields.length.toUInt16 ++ fields

theorem emits_packInstance {limit : ℕ} {instanceLength : UInt16} {fields : Push Unit}
    {bytes : List UInt8} (hfields : Emits limit fields bytes) :
    Emits limit (packInstance limit instanceLength fields) (instanceBytes bytes) := by
  have hlength : Emits limit (push16 limit instanceLength) (bytes16 instanceLength) := inferInstance
  have hfinal : ∀ count : ℕ, (bytes16 (count - 2).toUInt16).length =
      (bytes16 instanceLength).length := fun _ ↦ rfl
  have hpatched := @emits_patched limit _ _ _ _ (fun count ↦ bytes16 (count - 2).toUInt16) hlength
    hfields (hfinal _)
  have hcount : (bytes16 instanceLength).length + bytes.length - 2 = bytes.length := by
    rw [length_bytes16, Nat.add_sub_cancel_left]
  rwa [hcount] at hpatched

/-- The bytes of instances, one after the other. -/
def instancesBytes {π : Type} (pduBytes : π → List UInt8) (pduList : List π) : List UInt8 :=
  pduList.flatMap fun pdu ↦ instanceBytes (pduBytes pdu)

/-- An instance of a list is not longer than the list. -/
theorem length_pduBytes_le {π : Type} {pduBytes : π → List UInt8} {pduList : List π} {item : π}
    (hitem : item ∈ pduList) :
    (pduBytes item).length ≤ (instancesBytes pduBytes pduList).length := by
  unfold instancesBytes
  induction pduList with
  | nil => cases hitem
  | cons first rest ih =>
    rw [List.flatMap_cons, List.length_append]
    rcases List.mem_cons.mp hitem with rfl | hrest
    · rw [instanceBytes, List.length_append]
      omega
    · exact Nat.le_trans (ih hrest) (Nat.le_add_left _ _)

/-! ### Time and body -/

/-- A message without a vendor extension: the time and the body. -/
def packLteIndication (bodyTag : UInt16) (limit : ℕ) (frame : LteFrame) (body : Push Unit) :
    Push Unit := do
  push16 limit frame.sfnSf
  packTlv limit bodyTag frame.tl body

/-- The bytes of a message with this body. -/
def lteIndicationBytes (bodyTag sfnSf : UInt16) (body : List UInt8) : List UInt8 :=
  bytes16 sfnSf ++ fieldBytes bodyTag body

theorem length_lteIndicationBytes (bodyTag sfnSf : UInt16) (body : List UInt8) :
    (lteIndicationBytes bodyTag sfnSf body).length = 6 + body.length := by
  simp only [lteIndicationBytes, fieldBytes, List.length_append, length_bytes16]
  omega

theorem emits_packLteIndication {bodyTag : UInt16} {limit : ℕ} {frame : LteFrame} {body : Push Unit}
    {bytes : List UInt8} (htag : frame.tl.tag = bodyTag) (hbody : Emits limit body bytes) :
    Emits limit (packLteIndication bodyTag limit frame body)
      (lteIndicationBytes bodyTag frame.sfnSf bytes) := by
  have htlv : Emits limit (packTlv limit bodyTag frame.tl body) (fieldBytes bodyTag bytes) := by
    have h := @emits_packTlv limit _ _ bodyTag frame.tl fun _ ↦ hbody
    rwa [tlvBytes, if_pos htag] at h
  unfold packLteIndication lteIndicationBytes
  infer_instance

/-- The body of a packed message is not longer than its length can say. -/
theorem length_body_of_packed {bodyTag sfnSf : UInt16} {bytes : List UInt8} {limit : ℕ}
    {encode : Push Unit} {header : P7MessageHeader} {packed : List UInt8}
    (h : Writes limit encode (lteIndicationBytes bodyTag sfnSf bytes))
    (hpacked : packMessage encode limit header = .ok (some packed)) : bytes.length < 65536 := by
  have hlength := (packMessage_of_writes_eq_some h hpacked).1
  rw [length_lteIndicationBytes] at hlength
  omega

section EnsureBody

variable {α : Type} {tl : Tl} {limit : ℕ} {x : Pull α} {bytes : List UInt8} {a : α}

/-- The check at the start of a body passes when the length is that of the body. -/
theorem ensureBody_of_length (hlength : tl.length.toNat = bytes.length) {mem : Memory} {pos : ℕ}
    (hlimit : pos + bytes.length ≤ limit) : ensureBody tl limit mem pos = .ok ((), pos) := by
  show ensure (pos + tl.length.toNat ≤ limit) mem pos = _
  rw [hlength, ensure_of_true hlimit, pure_apply]

theorem reads_ensureBody (hlength : tl.length.toNat = bytes.length) (hx : Reads limit x bytes a) :
    Reads limit (do
      ensureBody tl limit
      x) bytes a := by
  intro mem pos hholds hlimit
  rw [Pull.bind_of_ok (ensureBody_of_length hlength hlimit)]
  exact hx mem pos hholds hlimit

theorem stops_ensureBody {stop : Stop} (hlength : tl.length.toNat = bytes.length)
    (hx : Stops limit x bytes stop) :
    Stops limit (do
      ensureBody tl limit
      x) bytes stop := by
  intro mem pos hholds hlimit
  rw [Pull.bind_of_ok (ensureBody_of_length hlength hlimit)]
  exact hx mem pos hholds hlimit

theorem overruns_ensureBody (hlength : tl.length.toNat = bytes.length)
    (hx : Overruns limit x bytes) :
    Overruns limit (do
      ensureBody tl limit
      x) bytes := by
  intro mem pos hholds hlimit hsize
  rw [Pull.bind_of_ok (ensureBody_of_length hlength (Nat.le_of_eq hlimit))]
  exact hx mem pos hholds hlimit hsize

end EnsureBody

section Frame

variable {β γ : Type} {bodyTag sfnSf : UInt16} {unpackBody : Tl → ℕ → β → Pull β} {start : β}
  {result : UInt16 → β → γ} {limit : ℕ} {bytes : List UInt8}

/-- A message: the time, then the list of tagged fields. -/
def unpackLteMessage (bodyTag : UInt16) (unpackBody : Tl → ℕ → β → Pull β) (start : β)
    (result : UInt16 → β → γ) (limit : ℕ) : Pull γ := do
  let sfnSf ← pull16 limit
  let body ← unpackP7TlvList [⟨bodyTag, unpackBody⟩] limit start
  return result sfnSf body

theorem find_body : ([⟨bodyTag, unpackBody⟩] : List (TlvField β)).find?
    (fun field ↦ field.tag == bodyTag) = some ⟨bodyTag, unpackBody⟩ := by
  rw [List.find?_cons, beq_self_eq_true]

/-- A message is decoded when its body is. -/
theorem completes_unpackLteMessage {body : β}
    (hbody : ∀ limit, Reads limit (unpackBody ⟨bodyTag, bytes.length.toUInt16⟩ limit start) bytes
      body) :
    Completes limit (unpackLteMessage bodyTag unpackBody start result limit)
      (lteIndicationBytes bodyTag sfnSf bytes) (result sfnSf body) := by
  apply Completes.after (reads_pull16 limit sfnSf)
  apply Completes.map
  intro mem pos hholds hlimit
  rw [← hlimit]
  exact tlvList_of_readsFields (readsFields_field find_body hbody) hholds

/-- A message is not decoded when its body is not. -/
theorem unpackLteMessage_of_stops {mem : Memory} {pos : ℕ} {stop : Stop}
    (hholds : Holds mem pos (lteIndicationBytes bodyTag sfnSf bytes)) (hlimit : pos + 6 ≤ limit)
    (hbody : unpackBody ⟨bodyTag, bytes.length.toUInt16⟩ limit start mem (pos + 6) =
      .error stop) :
    unpackLteMessage bodyTag unpackBody start result limit mem pos = .error stop := by
  unfold lteIndicationBytes fieldBytes at hholds
  rw [← List.append_assoc (bytes16 bodyTag), holds_append, holds_append] at hholds
  obtain ⟨htime, htl, -⟩ := hholds
  have hsfnSf := reads_pull16 limit sfnSf mem pos htime (by rw [length_bytes16]; omega)
  have hlist : unpackP7TlvList [⟨bodyTag, unpackBody⟩] limit start mem (pos + 2) = .error stop :=
    tlvList_of_stops find_body htl (by omega) hbody
  rw [length_bytes16] at hsfnSf
  unfold unpackLteMessage
  rw [Pull.bind_of_ok hsfnSf, Pull.bind_of_error hlist]

theorem holds_body_of_lteIndicationBytes {mem : Memory} {pos : ℕ}
    (hholds : Holds mem pos (lteIndicationBytes bodyTag sfnSf bytes)) :
    Holds mem (pos + 6) bytes := by
  unfold lteIndicationBytes fieldBytes at hholds
  simp only [holds_append, length_bytes16] at hholds
  exact hholds.2.2.2

theorem stops_unpackLteMessage {stop : Stop}
    (hbody : Stops limit (unpackBody ⟨bodyTag, bytes.length.toUInt16⟩ limit start) bytes stop) :
    Stops limit (unpackLteMessage bodyTag unpackBody start result limit)
      (lteIndicationBytes bodyTag sfnSf bytes) stop := by
  intro mem pos hholds hlimit
  rw [length_lteIndicationBytes] at hlimit
  apply unpackLteMessage_of_stops hholds (by omega)
  exact hbody mem _ (holds_body_of_lteIndicationBytes hholds) (by omega)

theorem overruns_unpackLteMessage
    (hbody : Overruns limit (unpackBody ⟨bodyTag, bytes.length.toUInt16⟩ limit start) bytes) :
    Overruns limit (unpackLteMessage bodyTag unpackBody start result limit)
      (lteIndicationBytes bodyTag sfnSf bytes) := by
  intro mem pos hholds hlimit hsize
  rw [length_lteIndicationBytes] at hlimit
  apply unpackLteMessage_of_stops hholds (by omega)
  exact hbody mem _ (holds_body_of_lteIndicationBytes hholds) (by omega) hsize

/-! ### There and back -/

variable {α : Type} {switch : P7MessageHeader → ℕ → Pull α} {wrap : γ → α} {frame : LteFrame}
  {encode : Push Unit} {header : P7MessageHeader} {packed : List UInt8}

/-- A packed message is unpacked when its body is read. -/
theorem messageUnpack_lteMessage {body : β} (htag : frame.tl.tag = bodyTag)
    (hencode : Emits limit encode bytes)
    (hpacked : packMessage (packLteIndication bodyTag limit frame encode) limit header =
      .ok (some packed))
    (hswitch : switch (packedHeader header packed.length.toUInt16) packed.length =
      wrap <$> unpackLteMessage bodyTag unpackBody start result packed.length)
    (hbody : bytes.length < 65536 → ∀ limit,
      Reads limit (unpackBody ⟨bodyTag, bytes.length.toUInt16⟩ limit start) bytes body) :
    messageUnpack switch (memoryOf packed) packed.length =
      .ok (some (wrap (result frame.sfnSf body))) := by
  have hemits := emits_packLteIndication htag hencode
  have hlength := length_body_of_packed hemits.writes hpacked
  apply messageUnpack_of_writes_of_completes hemits.writes hpacked
  rw [hswitch]
  exact (completes_unpackLteMessage (hbody hlength)).map

/-- A packed message is not unpacked when its body is rejected. -/
theorem messageUnpack_lteMessage_of_rejects (htag : frame.tl.tag = bodyTag)
    (hencode : Emits limit encode bytes)
    (hpacked : packMessage (packLteIndication bodyTag limit frame encode) limit header =
      .ok (some packed))
    (hswitch : switch (packedHeader header packed.length.toUInt16) packed.length =
      wrap <$> unpackLteMessage bodyTag unpackBody start result packed.length)
    (hbody : bytes.length < 65536 → ∀ limit,
      Stops limit (unpackBody ⟨bodyTag, bytes.length.toUInt16⟩ limit start) bytes .reject) :
    messageUnpack switch (memoryOf packed) packed.length = .ok none := by
  have hemits := emits_packLteIndication htag hencode
  have hlength := length_body_of_packed hemits.writes hpacked
  apply messageUnpack_of_writes_of_rejects hemits.writes hpacked
  rw [hswitch]
  exact (stops_unpackLteMessage (hbody hlength _)).bind

/-- Unpacking a packed message reads outside the memory when the decoder of its body does. -/
theorem messageUnpack_lteMessage_of_overruns (htag : frame.tl.tag = bodyTag)
    (hencode : Emits limit encode bytes)
    (hpacked : packMessage (packLteIndication bodyTag limit frame encode) limit header =
      .ok (some packed))
    (hswitch : switch (packedHeader header packed.length.toUInt16) packed.length =
      wrap <$> unpackLteMessage bodyTag unpackBody start result packed.length)
    (hbody : bytes.length < 65536 → ∀ limit,
      Overruns limit (unpackBody ⟨bodyTag, bytes.length.toUInt16⟩ limit start) bytes) :
    messageUnpack switch (memoryOf packed) packed.length = .error .fault := by
  have hemits := emits_packLteIndication htag hencode
  have hlength := length_body_of_packed hemits.writes hpacked
  apply messageUnpack_of_writes_of_overruns hemits.writes hpacked
  rw [hswitch]
  exact (overruns_unpackLteMessage (hbody hlength _)).bind

end Frame

end MultiUeProxy.P7.LteUplink
