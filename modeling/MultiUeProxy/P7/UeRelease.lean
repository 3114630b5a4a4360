import Mathlib.Logic.Function.Basic
import MultiUeProxy.P5.Message
import MultiUeProxy.P7.LteFrame

/-!
# The UE release request

`pack_ue_release_request` and `pack_nr_ue_release_request` of `nfapi_p7.c` write the same body. The
second pads it to a multiple of four bytes. Both variants are read by `unpack_ue_release_request`,
whose loop knows nothing of the padding: it takes the zeros for the start of a tag and a length and
rejects the message. So a request comes back from the NR entry points exactly when there is no
padding, which is when the number of RNTIs is odd.

The loops over the RNTIs have a counter of 8 bits. It never reaches the 256 that the list has room
for: the loop of the encoder then goes on until the buffer is full, and fails.

A request without a vendor extension is packed here.
-/

set_option autoImplicit false
set_option relaxedAutoImplicit false

namespace MultiUeProxy.P7.UeRelease

open Lib.Execution Lib.ByteCursor Lib.ByteCursor.Pull Lib.ByteWriter Lib.Codec Lib.TlvCodec Header
open Pack
open Lib.ByteWriter.Push (push16)
open P5.Message (getTlvPadding)

/-! ### The request -/

/-- `NFAPI_RELEASE_MAX_RNTI`. -/
def releaseMaxRnti : ℕ := 256

/-- `nfapi_ue_release_request_body_t`, with the RNTIs of `ue_release_request_TLVs_list`. -/
structure UeReleaseRequestBody where
  tl : Tl := {}
  numberOfTlvs : UInt16 := 0
  rnti : Fin 256 → UInt16 := fun _ ↦ 0

/-- `nfapi_ue_release_request_t`. -/
structure UeReleaseRequest where
  sfnSf : UInt16
  body : UeReleaseRequestBody

def ueReleaseRequest : UInt16 := 0x90
def ueReleaseBodyTag : UInt16 := 0x2068

/-- The element of an array of 256 that a counter of 8 bits stands for. -/
def element (j : UInt8) : Fin 256 := ⟨j.toNat, j.toNat_lt⟩

/-- The RNTIs in use. -/
def UeReleaseRequestBody.rntis (body : UeReleaseRequestBody) : List UInt16 :=
  (List.range body.numberOfTlvs.toNat).map fun i ↦ body.rnti (Fin.ofNat 256 i)

/-! ### The encoders -/

/-- The loop over the RNTIs, with a bound on its iterations. -/
def packRntis (limit : ℕ) (num : UInt16) (rnti : Fin 256 → UInt16) : (bound : ℕ) → UInt8 → Push Unit
  | 0, _ => Push.crash .diverge
  | bound + 1, j =>
    if j.toNat < num.toNat then do
      push16 limit (rnti (element j))
      packRntis limit num rnti bound (j + 1)
    else pure ()

/-- `pack_release_request_body_value`. There are less iterations than the bound: each one writes two
bytes, or is the last. -/
def packReleaseRequestBodyValue (limit : ℕ) (value : UeReleaseRequestBody) : Push Unit := do
  push16 limit value.numberOfTlvs
  packRntis limit value.numberOfTlvs value.rnti (limit + 257) 0

def packUeReleaseRequest (limit : ℕ) (request : UeReleaseRequest) : Push Unit := do
  push16 limit request.sfnSf
  packTlv limit ueReleaseBodyTag request.body.tl
    (packReleaseRequestBodyValue limit request.body)

def packNrUeReleaseRequest (limit : ℕ) (request : UeReleaseRequest) : Push Unit := do
  push16 limit request.sfnSf
  packPaddedTlv getTlvPadding limit ueReleaseBodyTag request.body.tl
    (packReleaseRequestBodyValue limit request.body)

/-! ### The decoder -/

/-- The loop over the RNTIs of a message. -/
def unpackRntis (limit : ℕ) (num : UInt16) : (bound : ℕ) → UInt8 → (Fin 256 → UInt16) →
    Pull (Fin 256 → UInt16)
  | 0, _, _ => crash .diverge
  | bound + 1, j, rnti =>
    if j.toNat < num.toNat then do
      let value ← pull16 limit
      unpackRntis limit num bound (j + 1) (Function.update rnti (element j) value)
    else pure rnti

/-- The case of the body tag. -/
def unpackReleaseBody (tl : Tl) (limit : ℕ) (body : UeReleaseRequestBody) :
    Pull UeReleaseRequestBody := do
  let numberOfTlvs ← pull16 limit
  ensure (numberOfTlvs.toNat ≤ releaseMaxRnti)
  let rnti ← unpackRntis limit numberOfTlvs (limit + 257) 0 body.rnti
  return { tl, numberOfTlvs, rnti }

/-- `unpack_ue_release_request`. A tag that is not that of the body is passed over together with
its length. -/
def unpackUeReleaseRequest (limit : ℕ) : Pull UeReleaseRequest := do
  let sfnSf ← pull16 limit
  let body ← tagSwitch [⟨ueReleaseBodyTag, unpackReleaseBody⟩] limit limit {}
  return { sfnSf, body }

/-! ### Up to 255 RNTIs -/

section Few

variable {limit : ℕ}

theorem toNat_add_one {j : UInt8} (hj : j.toNat < 255) : (j + 1).toNat = j.toNat + 1 := by
  rw [UInt8.toNat_add]
  show (j.toNat + 1) % 256 = j.toNat + 1
  omega

/-- The RNTIs from a counter on. -/
def rntisFrom (rnti : Fin 256 → UInt16) (num : ℕ) (j : ℕ) : List UInt16 :=
  (List.range' j (num - j)).map fun i ↦ rnti (Fin.ofNat 256 i)

theorem rntisFrom_of_lt {rnti : Fin 256 → UInt16} {num : ℕ} {j : UInt8} (hj : j.toNat < num) :
    rntisFrom rnti num j.toNat = rnti (element j) :: rntisFrom rnti num (j.toNat + 1) := by
  have hcount : num - j.toNat = num - (j.toNat + 1) + 1 := by omega
  have helement : Fin.ofNat 256 j.toNat = element j := by
    apply Fin.ext
    exact Nat.mod_eq_of_lt j.toNat_lt
  unfold rntisFrom
  rw [hcount, List.range'_succ, List.map_cons, helement]

theorem rntisFrom_of_le {rnti : Fin 256 → UInt16} {num j : ℕ} (hj : num ≤ j) :
    rntisFrom rnti num j = [] := by
  unfold rntisFrom
  rw [Nat.sub_eq_zero_of_le hj]
  rfl

theorem rntisFrom_zero (body : UeReleaseRequestBody) :
    rntisFrom body.rnti body.numberOfTlvs.toNat 0 = body.rntis := by
  unfold rntisFrom UeReleaseRequestBody.rntis
  rw [Nat.sub_zero, List.range_eq_range']

/-- The loop of the encoder writes the RNTIs from its counter on. -/
theorem emits_packRntis {num : UInt16} {rnti : Fin 256 → UInt16} (hnum : num.toNat ≤ 255)
    (bound : ℕ) (j : UInt8) (hbound : num.toNat - j.toNat < bound) :
    Emits limit (packRntis limit num rnti bound j)
      (wordBytes16 (rntisFrom rnti num.toNat j.toNat)) := by
  induction bound generalizing j with
  | zero => exact absurd hbound (Nat.not_lt_zero _)
  | succ bound ih =>
    unfold packRntis
    by_cases hj : j.toNat < num.toNat
    · have hnext : (j + 1).toNat = j.toNat + 1 := toNat_add_one (by omega)
      have hrest := ih (j + 1) (by omega)
      rw [hnext] at hrest
      rw [if_pos hj, rntisFrom_of_lt hj]
      show Emits limit _ (bytes16 (rnti (element j)) ++ wordBytes16 (rntisFrom rnti num.toNat
        (j.toNat + 1)))
      infer_instance
    · rw [if_neg hj, rntisFrom_of_le (Nat.le_of_not_lt hj)]
      exact (inferInstance : Emits limit (pure ()) [])

/-- The list after the loop of the decoder, from a counter on. -/
def filledFrom (rnti start : Fin 256 → UInt16) (num j : ℕ) : Fin 256 → UInt16 :=
  fun i ↦ if j ≤ i.val ∧ i.val < num then rnti i else start i

theorem filledFrom_update {rnti start : Fin 256 → UInt16} {num : ℕ} {j : UInt8}
    (hj : j.toNat < num) :
    filledFrom rnti (Function.update start (element j) (rnti (element j))) num (j.toNat + 1) =
      filledFrom rnti start num j.toNat := by
  funext i
  unfold filledFrom
  by_cases hi : i = element j
  · subst hi
    rw [Function.update_self]
    have hvalue : (element j).val = j.toNat := rfl
    rw [if_neg (by omega), if_pos (by omega)]
  · have hvalue : i.val ≠ j.toNat := fun h ↦ hi (Fin.ext h)
    rw [Function.update_of_ne hi]
    congr 1
    exact propext (and_congr_left fun _ ↦ by omega)

/-- The loop of the decoder reads what that of the encoder has written. -/
theorem reads_unpackRntis {num : UInt16} {rnti : Fin 256 → UInt16} (hnum : num.toNat ≤ 255)
    (bound : ℕ) (j : UInt8) (start : Fin 256 → UInt16) (hbound : num.toNat - j.toNat < bound) :
    Reads limit (unpackRntis limit num bound j start)
      (wordBytes16 (rntisFrom rnti num.toNat j.toNat)) (filledFrom rnti start num.toNat j.toNat) := by
  induction bound generalizing j start with
  | zero => exact absurd hbound (Nat.not_lt_zero _)
  | succ bound ih =>
    unfold unpackRntis
    by_cases hj : j.toNat < num.toNat
    · have hnext : (j + 1).toNat = j.toNat + 1 := toNat_add_one (by omega)
      have hrest := ih (j + 1) (Function.update start (element j) (rnti (element j))) (by omega)
      rw [hnext, filledFrom_update hj] at hrest
      rw [if_pos hj, rntisFrom_of_lt hj]
      exact (reads_pull16 limit (rnti (element j))).bind hrest
    · have hfilled : filledFrom rnti start num.toNat j.toNat = start := by
        funext i
        unfold filledFrom
        rw [if_neg (by omega)]
      rw [if_neg hj, rntisFrom_of_le (Nat.le_of_not_lt hj), hfilled]
      exact reads_pure limit start

end Few

/-! ### The list of 256 -/

section Full

variable {limit : ℕ}

/-- From anything that fits the buffer on, the encoder takes its error return. -/
def Rejects (limit : ℕ) (x : Push Unit) : Prop :=
  ∀ out, out.length ≤ limit → ∃ next, x out = (.error .reject, next)

theorem Rejects.bind {x : Push Unit} {f : Unit → Push Unit} (h : Rejects limit x) :
    Rejects limit (x >>= f) := by
  intro out hout
  obtain ⟨next, hx⟩ := h out hout
  exact ⟨next, Push.bind_of_error hx⟩

theorem Rejects.after {x : Push Unit} {f : Unit → Push Unit} {bytes : List UInt8}
    (hx : Emits limit x bytes) (h : Rejects limit (f ())) : Rejects limit (x >>= f) := by
  intro out hout
  by_cases hroom : out.length + bytes.length ≤ limit
  · obtain ⟨next, hf⟩ := h (out ++ bytes) (by rwa [List.length_append])
    exact ⟨next, (Push.bind_of_ok (hx.writes.of_room hroom)).trans hf⟩
  · obtain ⟨next, hreject⟩ := hx.writes.of_no_room hout hroom
    exact ⟨next, Push.bind_of_error hreject⟩

theorem rejects_packTlv {tag : UInt16} {tl : Tl} {value : Push Unit} (htag : tl.tag = tag)
    (h : Rejects limit value) : Rejects limit (packTlv limit tag tl value) := by
  have hfront : Emits limit (packTl limit tl) (bytes16 tl.tag ++ bytes16 tl.length) := by
    unfold packTl
    infer_instance
  intro out hout
  have hposition : Push.position out = (.ok out.length, out) := rfl
  unfold packTlv
  rw [if_pos htag]
  unfold patched
  rw [Push.bind_of_ok hposition]
  exact Rejects.after hfront h.bind out hout

/-- The counter is always below 256, so the loop of the encoder ends with the buffer. -/
theorem rejects_packRntis {num : UInt16} {rnti : Fin 256 → UInt16} (hnum : num.toNat = 256)
    (bound : ℕ) (j : UInt8) (out : List UInt8) (hout : out.length ≤ limit)
    (hbound : limit < out.length + bound) :
    ∃ next, packRntis limit num rnti bound j out = (.error .reject, next) := by
  induction bound generalizing j out with
  | zero => exact absurd hbound (Nat.not_lt_of_le hout)
  | succ bound ih =>
    unfold packRntis
    rw [if_pos (by rw [hnum]; exact j.toNat_lt)]
    by_cases hroom : out.length + (bytes16 (rnti (element j))).length ≤ limit
    · have hpush : push16 limit (rnti (element j)) out = (.ok (), out ++ bytes16 (rnti (element j))) :=
        Push.pushBytes_of_room hroom
      rw [Push.bind_of_ok hpush]
      apply ih
      · rwa [List.length_append]
      · rw [List.length_append, length_bytes16]
        omega
    · have hpush : push16 limit (rnti (element j)) out = (.error .reject, out) :=
        Push.pushBytes_of_no_room hroom
      exact ⟨out, Push.bind_of_error hpush⟩

theorem rejects_packReleaseRequestBodyValue {body : UeReleaseRequestBody}
    (hnum : body.numberOfTlvs.toNat = 256) :
    Rejects limit (packReleaseRequestBodyValue limit body) := by
  have hcount : Emits limit (push16 limit body.numberOfTlvs) (bytes16 body.numberOfTlvs) :=
    inferInstance
  apply Rejects.after hcount
  intro out hout
  exact rejects_packRntis hnum _ 0 out hout (by omega)

theorem packMessage_of_rejects {encode : Push Unit} {header : P7MessageHeader}
    (h : Rejects limit encode) : packMessage encode limit header = .ok none := by
  have hheader : Emits limit (pushHeader limit header) (headerBytes (packedHeader header 0)) :=
    ⟨writes_pushHeader limit header⟩
  obtain ⟨next, hreject⟩ : ∃ next, pushMessage encode limit header [] = (.error .reject, next) :=
    Rejects.after hheader h [] (Nat.zero_le limit)
  unfold packMessage
  rw [hreject]

/-- A request with 256 RNTIs is packed by neither encoder, whatever the buffer. -/
theorem packMessage_of_full {request : UeReleaseRequest} {header : P7MessageHeader}
    (htag : request.body.tl.tag = ueReleaseBodyTag)
    (hnum : request.body.numberOfTlvs.toNat = 256) :
    packMessage (packUeReleaseRequest limit request) limit header = .ok none ∧
      packMessage (packNrUeReleaseRequest limit request) limit header = .ok none := by
  have htime : Emits limit (push16 limit request.sfnSf) (bytes16 request.sfnSf) := inferInstance
  have htlv : Rejects limit (packTlv limit ueReleaseBodyTag request.body.tl
      (packReleaseRequestBodyValue limit request.body)) :=
    rejects_packTlv htag (rejects_packReleaseRequestBodyValue hnum)
  have hpadded : Rejects limit (packPaddedTlv getTlvPadding limit ueReleaseBodyTag
      request.body.tl (packReleaseRequestBodyValue limit request.body)) := by
    intro out hout
    have hposition : Push.position out = (.ok out.length, out) := rfl
    unfold packPaddedTlv
    rw [if_pos htag, Push.bind_of_ok hposition]
    exact htlv.bind out hout
  exact ⟨packMessage_of_rejects (Rejects.after htime htlv),
    packMessage_of_rejects (Rejects.after htime hpadded)⟩

end Full

/-! ### The messages -/

section Messages

variable {limit : ℕ} {request : UeReleaseRequest} {header : P7MessageHeader}

/-- The value of the body. -/
def releaseBytes (body : UeReleaseRequestBody) : List UInt8 :=
  bytes16 body.numberOfTlvs ++ wordBytes16 body.rntis

theorem length_rntis (body : UeReleaseRequestBody) :
    body.rntis.length = body.numberOfTlvs.toNat := by
  unfold UeReleaseRequestBody.rntis
  rw [List.length_map, List.length_range]

theorem length_releaseBytes (body : UeReleaseRequestBody) :
    (releaseBytes body).length = 2 + 2 * body.numberOfTlvs.toNat := by
  unfold releaseBytes
  rw [List.length_append, length_bytes16, length_wordBytes16, length_rntis]

theorem emits_packReleaseRequestBodyValue {body : UeReleaseRequestBody}
    (hnum : body.numberOfTlvs.toNat ≤ 255) :
    Emits limit (packReleaseRequestBodyValue limit body) (releaseBytes body) := by
  have hloop := @emits_packRntis limit body.numberOfTlvs body.rnti hnum (limit + 257) 0
    (by show _ - 0 < _; omega)
  rw [show (0 : UInt8).toNat = 0 from rfl, rntisFrom_zero] at hloop
  unfold packReleaseRequestBodyValue releaseBytes
  infer_instance

/-- The body that the decoder leaves. -/
def received (body : UeReleaseRequestBody) (length : UInt16) : UeReleaseRequestBody :=
  ⟨⟨ueReleaseBodyTag, length⟩, body.numberOfTlvs,
    filledFrom body.rnti (fun _ ↦ 0) body.numberOfTlvs.toNat 0⟩

theorem rntis_received {body : UeReleaseRequestBody} (hnum : body.numberOfTlvs.toNat ≤ 255)
    (length : UInt16) : (received body length).rntis = body.rntis := by
  unfold UeReleaseRequestBody.rntis
  apply List.map_congr_left
  intro i hi
  have hlt : i < body.numberOfTlvs.toNat := List.mem_range.mp hi
  show filledFrom body.rnti (fun _ ↦ 0) body.numberOfTlvs.toNat 0 (Fin.ofNat 256 i) = _
  unfold filledFrom
  have hindex : (Fin.ofNat 256 i).val = i := Nat.mod_eq_of_lt (by omega)
  rw [if_pos ⟨Nat.zero_le _, by rw [hindex]; exact hlt⟩]

theorem reads_unpackReleaseBody {body : UeReleaseRequestBody}
    (hnum : body.numberOfTlvs.toNat ≤ 255) (length : UInt16) (limit : ℕ) :
    Reads limit (unpackReleaseBody ⟨ueReleaseBodyTag, length⟩ limit {}) (releaseBytes body)
      (received body length) := by
  have hcount : body.numberOfTlvs.toNat ≤ releaseMaxRnti :=
    Nat.le_trans hnum (by decide : 255 ≤ releaseMaxRnti)
  have hloop := @reads_unpackRntis limit body.numberOfTlvs body.rnti hnum (limit + 257) 0
    (fun _ ↦ 0) (by show _ - 0 < _; omega)
  rw [show (0 : UInt8).toNat = 0 from rfl, rntisFrom_zero] at hloop
  unfold unpackReleaseBody
  refine (reads_pull16 limit body.numberOfTlvs).bind ?_
  rw [Pull.ensure_of_true hcount]
  exact hloop.map

theorem find_releaseBody : ([⟨ueReleaseBodyTag, unpackReleaseBody⟩] :
    List (TlvField UeReleaseRequestBody)).find? (fun field ↦ field.tag == ueReleaseBodyTag) =
      some ⟨ueReleaseBodyTag, unpackReleaseBody⟩ := rfl

theorem readsFields_releaseBody {body : UeReleaseRequestBody}
    (hnum : body.numberOfTlvs.toNat ≤ 255) :
    ReadsFields [⟨ueReleaseBodyTag, unpackReleaseBody⟩] {}
      (fieldBytes ueReleaseBodyTag (releaseBytes body))
      (received body (releaseBytes body).length.toUInt16) :=
  readsFields_field find_releaseBody fun limit ↦ reads_unpackReleaseBody hnum _ limit

/-! ### There and back -/

/-- In every buffer that is large enough, the request is packed, and what is packed is unpacked with
the same time and the same RNTIs. -/
def RoundTrips (encode : ℕ → UeReleaseRequest → Push Unit) (header : P7MessageHeader)
    (request : UeReleaseRequest) : Prop :=
  ∃ room, ∀ limit, room ≤ limit → ∃ packed back,
    packMessage (encode limit request) limit { header with messageId := ueReleaseRequest } =
      .ok (some packed) ∧
    messageUnpack (caseOf ueReleaseRequest unpackUeReleaseRequest) (memoryOf packed)
      packed.length = .ok (some back) ∧
    back.sfnSf = request.sfnSf ∧ back.body.rntis = request.body.rntis

/-- A message whose decoder reads the bytes of its encoder comes back. -/
theorem roundTrips_of_encodes {encode : ℕ → UeReleaseRequest → Push Unit} {bytes : List UInt8}
    {back : UeReleaseRequestBody} (hencode : ∀ limit, Encodes limit (encode limit request) bytes)
    (hlength : p7HeaderLength + bytes.length ≤ 0xFFFF)
    (hread : ∀ limit, Completes limit (unpackUeReleaseRequest limit) bytes ⟨request.sfnSf, back⟩)
    (hsame : back.rntis = request.body.rntis) : RoundTrips encode header request := by
  refine ⟨p7HeaderLength + bytes.length, fun limit hlimit ↦
    ⟨_, ⟨request.sfnSf, back⟩, packMessage_of_encodes (hencode limit) _ hlimit hlength, ?_, rfl,
      hsame⟩⟩
  rw [length_header_append]
  apply messageUnpack_of_completes (Nat.le_of_eq (packedHeader_length hlength))
  exact hread _

/-- A message whose decoder rejects the bytes of its encoder does not. -/
theorem not_roundTrips_of_encodes {encode : ℕ → UeReleaseRequest → Push Unit} {bytes : List UInt8}
    (hencode : ∀ limit, Encodes limit (encode limit request) bytes)
    (hlength : p7HeaderLength + bytes.length ≤ 0xFFFF)
    (hreject : ∀ limit mem pos, Holds mem pos bytes → pos + bytes.length = limit →
      unpackUeReleaseRequest limit mem pos = .error .reject) :
    ¬ RoundTrips encode header request := by
  rintro ⟨room, h⟩
  obtain ⟨packed, back, hpacked, hback, -⟩ := h (room + (p7HeaderLength + bytes.length)) (by omega)
  rw [packMessage_of_encodes (hencode _) _ (Nat.le_add_left _ _) hlength] at hpacked
  cases hpacked
  rw [length_header_append, messageUnpack_headerBytes
    (Nat.le_of_eq (packedHeader_length hlength))] at hback
  have hrun : caseOf ueReleaseRequest unpackUeReleaseRequest
      (packedHeader { header with messageId := ueReleaseRequest }
        (p7HeaderLength + bytes.length).toUInt16) (p7HeaderLength + bytes.length) =
      unpackUeReleaseRequest (p7HeaderLength + bytes.length) := if_pos rfl
  rw [hrun, Pull.run, hreject _ _ _ (holds_body _ bytes) rfl] at hback
  cases hback

section Few

variable (htag : request.body.tl.tag = ueReleaseBodyTag)
  (hnum : request.body.numberOfTlvs.toNat ≤ 255)
include htag hnum

/-- The bytes of the time and the body. -/
theorem encodes_packUeReleaseRequest (limit : ℕ) :
    Encodes limit (packUeReleaseRequest limit request)
      (bytes16 request.sfnSf ++ fieldBytes ueReleaseBodyTag (releaseBytes request.body)) := by
  have hvalue : Emits limit (packReleaseRequestBodyValue limit request.body)
      (releaseBytes request.body) := emits_packReleaseRequestBodyValue hnum
  have htlv : Emits limit (packTlv limit ueReleaseBodyTag request.body.tl
      (packReleaseRequestBodyValue limit request.body))
      (tlvBytes ueReleaseBodyTag request.body.tl (releaseBytes request.body)) :=
    emits_packTlv fun _ ↦ hvalue
  rw [tlvBytes_of_tag htag] at htlv
  have hencodes := @Emits.encodes limit _ _ htlv
  unfold packUeReleaseRequest
  infer_instance

/-- The same with the padding of the body behind it. -/
theorem encodes_packNrUeReleaseRequest (limit : ℕ) :
    Encodes limit (packNrUeReleaseRequest limit request)
      (bytes16 request.sfnSf ++ (fieldBytes ueReleaseBodyTag (releaseBytes request.body) ++
        List.replicate (getTlvPadding (releaseBytes request.body).length.toUInt16) 0)) := by
  have hpadded : Encodes limit (packPaddedTlv getTlvPadding limit ueReleaseBodyTag
      request.body.tl (packReleaseRequestBodyValue limit request.body))
      (fieldBytes ueReleaseBodyTag (releaseBytes request.body) ++
        List.replicate (getTlvPadding (releaseBytes request.body).length.toUInt16) 0) :=
    encodes_packPaddedTlv htag (emits_packReleaseRequestBodyValue hnum)
  unfold packNrUeReleaseRequest
  infer_instance

omit htag in
/-- Without padding the message is read to its end. -/
theorem completes_unpackUeReleaseRequest (limit : ℕ) :
    Completes limit (unpackUeReleaseRequest limit)
      (bytes16 request.sfnSf ++ fieldBytes ueReleaseBodyTag (releaseBytes request.body))
      ⟨request.sfnSf, received request.body (releaseBytes request.body).length.toUInt16⟩ := by
  apply Completes.after (reads_pull16 limit request.sfnSf)
  apply Completes.map
  intro mem pos hholds hlimit
  rw [← hlimit]
  exact tagSwitch_of_readsFields (readsFields_releaseBody hnum) hholds (Nat.le_refl _)

omit htag in
/-- With padding, the zeros are rejected for a tag without a length. -/
theorem unpackUeReleaseRequest_of_padding {count : ℕ} (hpos : 0 < count) (hcount : count < 4)
    {limit : ℕ} {mem : Memory} {pos : ℕ}
    (hholds : Holds mem pos (bytes16 request.sfnSf ++
      (fieldBytes ueReleaseBodyTag (releaseBytes request.body) ++ List.replicate count 0)))
    (hlimit : pos + (bytes16 request.sfnSf ++ (fieldBytes ueReleaseBodyTag
      (releaseBytes request.body) ++ List.replicate count 0)).length = limit) :
    unpackUeReleaseRequest limit mem pos = .error .reject := by
  have hsize := hholds.1
  rw [hlimit] at hsize
  rw [List.length_append, List.length_append, List.length_replicate, length_bytes16] at hlimit
  rw [holds_append, holds_append, length_bytes16] at hholds
  have htime := reads_pull16 limit request.sfnSf mem pos hholds.1 (by rw [length_bytes16]; omega)
  rw [length_bytes16] at htime
  have hfields : tagSwitch [⟨ueReleaseBodyTag, unpackReleaseBody⟩] limit limit {} mem (pos + 2) =
      .error .reject :=
    tagSwitch_of_short_rest (readsFields_releaseBody hnum) hholds.2.1 (by omega) (by omega) hsize
  unfold unpackUeReleaseRequest
  rw [Pull.bind_of_ok htime, Pull.bind_of_error hfields]

theorem roundTrips_packUeReleaseRequest : RoundTrips packUeReleaseRequest header request := by
  have hlength := length_releaseBytes request.body
  refine roundTrips_of_encodes (encodes_packUeReleaseRequest htag hnum) ?_
    (completes_unpackUeReleaseRequest hnum) (rntis_received hnum _)
  rw [List.length_append, length_bytes16, length_fieldBytes, hlength, p7HeaderLength]
  omega

/-- The padding depends on the parity of the number of RNTIs. -/
theorem roundTrips_packNrUeReleaseRequest_iff :
    RoundTrips packNrUeReleaseRequest header request ↔ request.body.numberOfTlvs.toNat % 2 = 1 := by
  have hlength := length_releaseBytes request.body
  have hnumber := toNat_number16 (show (releaseBytes request.body).length < 65536 by omega)
  have hencodes (limit : ℕ) : Encodes limit (packNrUeReleaseRequest limit request)
      (bytes16 request.sfnSf ++ (fieldBytes ueReleaseBodyTag (releaseBytes request.body) ++
        List.replicate (getTlvPadding (releaseBytes request.body).length.toUInt16) 0)) :=
    encodes_packNrUeReleaseRequest htag hnum limit
  have hpadding : getTlvPadding (releaseBytes request.body).length.toUInt16 =
      if request.body.numberOfTlvs.toNat % 2 = 1 then 0 else 2 := by
    unfold getTlvPadding
    rw [hnumber, hlength]
    split_ifs
    · omega
    · omega
  rw [hpadding] at hencodes
  split_ifs at hencodes with hodd
  · refine iff_of_true ?_ hodd
    rw [List.replicate_zero, List.append_nil] at hencodes
    refine roundTrips_of_encodes hencodes ?_ (completes_unpackUeReleaseRequest hnum)
      (rntis_received hnum _)
    rw [List.length_append, length_bytes16, length_fieldBytes, hlength, p7HeaderLength]
    omega
  · refine iff_of_false ?_ hodd
    refine not_roundTrips_of_encodes hencodes ?_ fun limit mem pos hholds hlimit ↦
      unpackUeReleaseRequest_of_padding hnum (by decide) (by decide) hholds hlimit
    rw [List.length_append, List.length_append, length_bytes16, length_fieldBytes,
      List.length_replicate, hlength, p7HeaderLength]
    omega

end Few

/-- A request with a list that is full comes back from neither. -/
theorem not_roundTrips_of_full (htag : request.body.tl.tag = ueReleaseBodyTag)
    (hnum : request.body.numberOfTlvs.toNat = 256) :
    ¬ RoundTrips packUeReleaseRequest header request ∧
      ¬ RoundTrips packNrUeReleaseRequest header request := by
  constructor
  · rintro ⟨room, h⟩
    obtain ⟨packed, back, hpacked, -⟩ := h room (Nat.le_refl room)
    rw [(packMessage_of_full htag hnum).1] at hpacked
    cases hpacked
  · rintro ⟨room, h⟩
    obtain ⟨packed, back, hpacked, -⟩ := h room (Nat.le_refl room)
    rw [(packMessage_of_full htag hnum).2] at hpacked
    cases hpacked

/-- Of the requests with up to 256 RNTIs, those with up to 255 come back from the LTE entry points,
and those with an odd number from the NR entry points, and so from both. -/
theorem ueRelease_roundTrips_iff (header : P7MessageHeader) (request : UeReleaseRequest)
    (htag : request.body.tl.tag = ueReleaseBodyTag)
    (hnum : request.body.numberOfTlvs.toNat ≤ releaseMaxRnti) :
    (RoundTrips packUeReleaseRequest header request ↔ request.body.numberOfTlvs.toNat ≤ 255) ∧
    (RoundTrips packNrUeReleaseRequest header request ↔
      request.body.numberOfTlvs.toNat % 2 = 1) ∧
    (RoundTrips packUeReleaseRequest header request ∧
        RoundTrips packNrUeReleaseRequest header request ↔
      request.body.numberOfTlvs.toNat % 2 = 1) := by
  have hmax : request.body.numberOfTlvs.toNat ≤ 256 := hnum
  by_cases hfew : request.body.numberOfTlvs.toNat ≤ 255
  · have hlte : RoundTrips packUeReleaseRequest header request :=
      roundTrips_packUeReleaseRequest htag hfew
    have hnr : RoundTrips packNrUeReleaseRequest header request ↔
        request.body.numberOfTlvs.toNat % 2 = 1 := roundTrips_packNrUeReleaseRequest_iff htag hfew
    exact ⟨iff_of_true hlte hfew, hnr, (and_iff_right hlte).trans hnr⟩
  · have hfull : request.body.numberOfTlvs.toNat = 256 := by omega
    have hodd : ¬ request.body.numberOfTlvs.toNat % 2 = 1 := by omega
    obtain ⟨hlte, hnr⟩ := @not_roundTrips_of_full request header htag hfull
    exact ⟨iff_of_false hlte hfew, iff_of_false hnr hodd, iff_of_false (fun h ↦ hlte h.1) hodd⟩

/-- A request with two RNTIs. -/
def twoRntis : UeReleaseRequest :=
  ⟨0, { tl := ⟨ueReleaseBodyTag, 0⟩, numberOfTlvs := 2, rnti := fun i ↦ if i = 0 then 17 else 42 }⟩

theorem ueRelease_roundTrips_two :
    RoundTrips packUeReleaseRequest {} twoRntis ∧ ¬ RoundTrips packNrUeReleaseRequest {} twoRntis := by
  obtain ⟨hlte, hnr, -⟩ := ueRelease_roundTrips_iff {} twoRntis rfl (by decide)
  exact ⟨hlte.mpr (by decide), fun h ↦ absurd (hnr.mp h) (by decide)⟩

/-- The NR encoder packs the two RNTIs with two zeros behind them, and the decoder rejects that. -/
theorem twoRntis_padded :
    (∃ packed, packMessage (packNrUeReleaseRequest 100 twoRntis) 100
        { messageId := ueReleaseRequest } = .ok (some packed) ∧
      messageUnpack (caseOf ueReleaseRequest unpackUeReleaseRequest) (memoryOf packed)
        packed.length = .ok none) ∧
      ¬ RoundTrips packNrUeReleaseRequest {} twoRntis := by
  refine ⟨⟨_, rfl, rfl⟩, fun h ↦ ?_⟩
  exact absurd ((roundTrips_packNrUeReleaseRequest_iff rfl (by decide)).mp h) (by decide)

end Messages

end MultiUeProxy.P7.UeRelease
