/-
Responses signed on demand (`live.rs`).

A live response repeats the status and the time of the one response a stored
payload has for the CertID, and adds the nonce of the request.  It ends no
later than the payload, its bundle and the responder certificate do.
-/

import Hoike.Ahu.Ops
import Hoike.Ocsp.Messages

namespace Hoike

open Ocsp

inductive LiveCertStatus where
  | good
  | unknown
  | revoked (revocationTime : UInt64) (reason : Option CrlReason)
deriving DecidableEq, Repr

/-- What a stored payload says about one certificate. -/
structure LiveResponseSource where
  status : LiveCertStatus
  thisUpdate : UInt64
  nextUpdate : UInt64
deriving DecidableEq, Repr

/-- `now.saturating_add(secs)`. -/
def saturatingAddU64 (now secs : UInt64) : UInt64 :=
  if now.toNat + secs.toNat < 18446744073709551616 then now + secs else 18446744073709551615

theorem toNat_saturatingAddU64 (now secs : UInt64) :
    (saturatingAddU64 now secs).toNat =
      min (now.toNat + secs.toNat) 18446744073709551615 := by
  unfold saturatingAddU64
  split_ifs with fits
  · rw [UInt64.toNat_add, Nat.mod_eq_of_lt fits]
    omega
  · change 18446744073709551615 = _
    omega

theorem toNat_saturatingAddU64_le (now secs : UInt64) :
    (saturatingAddU64 now secs).toNat ≤ now.toNat + secs.toNat := by
  rw [toNat_saturatingAddU64]
  exact Nat.min_le_left _ _

section Signing

variable [Sha1] [X509Ocsp]

def liveNextUpdate (now sourceNextUpdate : UInt64) (responderCertDer : Option Bytes) :
    Except SignError UInt64 :=
  match responderCertDer with
  | none => .ok sourceNextUpdate
  | some bytes => do
      let cert ← (X509Ocsp.certificateFromDer bytes).mapError .der
      Except.require (cert.notBefore ≤ now ∧ now < cert.notAfter)
        (.config "responder certificate is not currently valid")
      return Ahu.minU64 sourceNextUpdate cert.notAfter

def LiveCertStatus.toCertStatus : LiveCertStatus → Except SignError CertStatus
  | good => .ok .good
  | unknown => .ok .unknown
  | revoked revocationTime reason => do
      let revocationTime ← ocspTime revocationTime
      return .revoked { revocationTime := revocationTime, revocationReason := reason }

def certificateChain (responderCertDer : Option Bytes) :
    Except SignError (Option (List Certificate)) :=
  match responderCertDer with
  | none => .ok none
  | some bytes =>
      ((X509Ocsp.certificateFromDer bytes).mapError SignError.der).map fun cert => some [cert]

def signLiveResponseWithWindow (certIdDer : Bytes) (status : LiveCertStatus) (nonce : Bytes)
    (responderKeyBytes : Bytes) (signer : Signer) (now sourceThisUpdate sourceNextUpdate : UInt64)
    (responderCertDer : Option Bytes) : Except SignError Bytes := do
  Except.require
    (sourceThisUpdate ≤ now ∧ now < sourceNextUpdate ∧ sourceThisUpdate < sourceNextUpdate)
    (.config "live source is not currently valid")
  let nextUpdateEpoch ← liveNextUpdate now sourceNextUpdate responderCertDer
  let certId ← (X509Ocsp.certIdFromDer certIdDer).mapError .der
  let certStatus ← status.toCertStatus
  let thisUpdate ← ocspTime sourceThisUpdate
  let nextUpdate ← ocspTime nextUpdateEpoch
  let producedAt ← ocspTime now
  let single : SingleResponse :=
    { certId := certId
      certStatus := certStatus
      thisUpdate := thisUpdate
      nextUpdate := some nextUpdate
      singleExtensions := none }
  let responderId := ResponderId.byKey (Sha1.sha1 responderKeyBytes).val
  let nonceExt ← (X509Ocsp.nonceExtension nonce).mapError .ocspBuilder
  let builder := ((OcspResponseBuilder.new responderId).withSingleResponse single).withExtension
    nonceExt
  let certs ← certificateChain responderCertDer
  let ocspResponse ← (X509Ocsp.sign builder signer certs producedAt).mapError .ocspBuilder
  (X509Ocsp.responseToDer ocspResponse).mapError .der

def signLiveResponse (certIdDer : Bytes) (status : LiveCertStatus) (nonce : Bytes)
    (responderKeyBytes : Bytes) (signer : Signer) (now validitySecs : UInt64)
    (responderCertDer : Option Bytes) : Except SignError Bytes := do
  Except.require (now.toNat + validitySecs.toNat < 18446744073709551616)
    (.config "live validity overflow")
  signLiveResponseWithWindow certIdDer status nonce responderKeyBytes signer now now
    (now + validitySecs) responderCertDer

/-! ### Reading a stored payload -/

def parseBasic (responseDer : Bytes) : Except SignError BasicOcspResponse := do
  let response ← (X509Ocsp.responseFromDer responseDer).mapError .der
  Except.require (response.responseStatus = .successful)
    (.ocspBuilder "source OCSP response was not successful")
  let some bytes := response.responseBytes
    | throw (.ocspBuilder "missing responseBytes")
  Except.require (bytes.responseType = "1.3.6.1.5.5.7.48.1.1")
    (.ocspBuilder "unsupported response type")
  (X509Ocsp.basicFromDer bytes.response).mapError .der

def statusFromSingle (single : SingleResponse) : LiveCertStatus :=
  match single.certStatus with
  | .good => .good
  | .unknown => .unknown
  | .revoked info => .revoked info.revocationTime.epoch info.revocationReason

def extractStatusForCert (responseDer certIdDer : Bytes) :
    Except SignError LiveResponseSource := do
  let requested ← (X509Ocsp.certIdFromDer certIdDer).mapError .der
  let basic ← parseBasic responseDer
  match basic.tbsResponseData.responses.filter (·.certId = requested) with
  | [] => throw (.ocspBuilder "requested CertID absent from response")
  | [single] =>
      let some next := single.nextUpdate
        | throw (.ocspBuilder "live source requires nextUpdate")
      return {
        status := statusFromSingle single
        thisUpdate := single.thisUpdate.epoch
        nextUpdate := next.epoch }
  | _ :: _ :: _ => throw (.ocspBuilder "ambiguous duplicate CertID in response")

/-- Encoded responses about CertIDs that are read back are read back as they
were written. -/
def ResponsesReadBack : Prop :=
  ∀ basic der body, (∀ single ∈ basic.tbsResponseData.responses, single.certId.ReadsBack) →
    X509Ocsp.basicToDer basic = .ok der →
    X509Ocsp.responseToDer
        { responseStatus := .successful
          responseBytes := some { responseType := idPkixOcspBasic, response := der } } =
      .ok body → parseBasic body = .ok basic

def extractStatusFromResponse (responseDer : Bytes) : Except SignError LiveCertStatus := do
  let basic ← parseBasic responseDer
  match basic.tbsResponseData.responses with
  | [single] => return statusFromSingle single
  | _ => throw (.ocspBuilder "CertID required for a batched response")

/-! ### What is signed -/

def SignedFor (bytes : Bytes) (single : SingleResponse) (nonce : Bytes) : Prop :=
  ∃ basic der extension,
    basic.tbsResponseData.responses = [single] ∧
    X509Ocsp.nonceExtension nonce = .ok extension ∧
    basic.tbsResponseData.responseExtensions = some [extension] ∧
    X509Ocsp.basicToDer basic = .ok der ∧
    X509Ocsp.responseToDer
      { responseStatus := .successful
        responseBytes := some { responseType := idPkixOcspBasic, response := der } } = .ok bytes

omit [Sha1] in
theorem liveNextUpdate_eq_ok {now sourceNextUpdate next : UInt64}
    {responderCertDer : Option Bytes}
    (accepted : liveNextUpdate now sourceNextUpdate responderCertDer = .ok next)
    (current : now < sourceNextUpdate) :
    now < next ∧ next ≤ sourceNextUpdate ∧
      ∀ bytes, responderCertDer = some bytes →
        ∃ cert, X509Ocsp.certificateFromDer bytes = .ok cert ∧ next ≤ cert.notAfter := by
  cases responderCertDer with
  | none =>
      cases accepted
      refine ⟨current, UInt64.le_refl _, ?_⟩
      intro bytes impossible
      cases impossible
  | some bytes =>
      obtain ⟨cert, decoded, accepted⟩ := Except.bind_eq_ok.mp accepted
      obtain ⟨_, valid, same⟩ := Except.bind_eq_ok.mp accepted
      rw [Except.mapError_eq_ok] at decoded
      rw [Except.require_eq_ok] at valid
      cases same
      refine ⟨?_, (Ahu.minU64_spec _ _).1, ?_⟩
      · unfold Ahu.minU64
        split
        · exact current
        · exact valid.2
      · intro _ chosen
        cases chosen
        exact ⟨cert, decoded, (Ahu.minU64_spec _ _).2.1⟩

/-- A signed response has the given status, starts with the source and ends by
the end computed for it. -/
theorem signLiveResponseWithWindow_eq_ok {certIdDer : Bytes} {status : LiveCertStatus}
    {nonce responderKeyBytes : Bytes} {signer : Signer}
    {now sourceThisUpdate sourceNextUpdate : UInt64} {responderCertDer : Option Bytes}
    {bytes : Bytes}
    (signed : signLiveResponseWithWindow certIdDer status nonce responderKeyBytes signer now
      sourceThisUpdate sourceNextUpdate responderCertDer = .ok bytes) :
    ∃ next single ending,
      sourceThisUpdate ≤ now ∧ now < sourceNextUpdate ∧
      liveNextUpdate now sourceNextUpdate responderCertDer = .ok next ∧
      X509Ocsp.certIdFromDer certIdDer = .ok single.certId ∧
      status.toCertStatus = .ok single.certStatus ∧
      ocspTime sourceThisUpdate = .ok single.thisUpdate ∧
      single.nextUpdate = some ending ∧ ocspTime next = .ok ending ∧
      SignedFor bytes single nonce := by
  obtain ⟨_, current, signed⟩ := Except.bind_eq_ok.mp signed
  rw [Except.require_eq_ok] at current
  obtain ⟨next, cut, signed⟩ := Except.bind_eq_ok.mp signed
  obtain ⟨certId, decoded, signed⟩ := Except.bind_eq_ok.mp signed
  rw [Except.mapError_eq_ok] at decoded
  obtain ⟨certStatus, statusKept, signed⟩ := Except.bind_eq_ok.mp signed
  obtain ⟨thisUpdate, starts, signed⟩ := Except.bind_eq_ok.mp signed
  obtain ⟨nextUpdate, ends, signed⟩ := Except.bind_eq_ok.mp signed
  obtain ⟨producedAt, _, signed⟩ := Except.bind_eq_ok.mp signed
  obtain ⟨extension, carried, signed⟩ := Except.bind_eq_ok.mp signed
  rw [Except.mapError_eq_ok] at carried
  obtain ⟨certs, _, signed⟩ := Except.bind_eq_ok.mp signed
  obtain ⟨response, made, encoded⟩ := Except.bind_eq_ok.mp signed
  rw [Except.mapError_eq_ok] at made encoded
  obtain ⟨basic, der, data, _, inner, shape⟩ := X509Ocsp.sign_eq_ok made
  let single : SingleResponse :=
    { certId := certId
      certStatus := certStatus
      thisUpdate := thisUpdate
      nextUpdate := some nextUpdate
      singleExtensions := none }
  refine ⟨next, single, nextUpdate, current.1, current.2.1, cut, decoded, statusKept, starts, rfl, ends,
    basic, der, extension, ?_, carried, ?_, inner, ?_⟩
  · rw [data]
    rfl
  · rw [data]
    rfl
  · rw [← shape]
    exact encoded

omit [Sha1] in
theorem extractStatusForCert_eq_ok {responseDer certIdDer : Bytes} {source : LiveResponseSource}
    (extracted : extractStatusForCert responseDer certIdDer = .ok source) :
    ∃ requested basic single next,
      X509Ocsp.certIdFromDer certIdDer = .ok requested ∧ parseBasic responseDer = .ok basic ∧
      basic.tbsResponseData.responses.filter (·.certId = requested) = [single] ∧
      single.nextUpdate = some next ∧
      source = {
        status := statusFromSingle single
        thisUpdate := single.thisUpdate.epoch
        nextUpdate := next.epoch } := by
  obtain ⟨requested, decoded, extracted⟩ := Except.bind_eq_ok.mp extracted
  rw [Except.mapError_eq_ok] at decoded
  obtain ⟨basic, parsed, extracted⟩ := Except.bind_eq_ok.mp extracted
  split at extracted
  case h_1 => cases extracted
  case h_3 => cases extracted
  case h_2 single only =>
    split at extracted
    case h_2 => cases extracted
    case h_1 next ends =>
      cases extracted
      exact ⟨requested, basic, single, next, decoded, parsed, only, ends, rfl⟩

omit [Sha1] [X509Ocsp] in
theorem statusFromSingle_toCertStatus (single : SingleResponse) :
    (statusFromSingle single).toCertStatus = .ok single.certStatus := by
  unfold statusFromSingle
  cases single.certStatus with
  | good =>
      rfl
  | unknown =>
      rfl
  | revoked info =>
      change (ocspTime info.revocationTime.epoch >>= fun time => _) = _
      rw [ocspTime_epoch]
      rfl

end Signing

end Hoike
