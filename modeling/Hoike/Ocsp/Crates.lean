/-
Concrete functions for the OCSP crates.

Messages are written in DER.  Which requests, CertIDs and responses are encoded
and decoded at all is given by a list of each kind; a decoder looks for the
listed message with the given encoding.
-/

import Hoike.Library.Sha1
import Hoike.Ahu.Crates
import Hoike.Sign.Live

/-! ### DER -/

namespace Der

def lengthOctets (length : Nat) : Bytes :=
  if length < 128 then [UInt8.ofNat length]
  else if length < 256 then [0x81, UInt8.ofNat length]
  else [0x82, UInt8.ofNat (length / 256), UInt8.ofNat (length % 256)]

def tlv (tag : UInt8) (content : Bytes) : Bytes :=
  tag :: (lengthOctets content.length ++ content)

def sequence (parts : List Bytes) : Bytes :=
  tlv 0x30 parts.flatten

def octetString (content : Bytes) : Bytes :=
  tlv 0x04 content

end Der

namespace Hoike
namespace Crates

open Ocsp

@[reducible] def sha1 : Sha1 :=
  { sha1 := Sha1.digest }

def oidContents (oid : ObjectIdentifier) : Bytes :=
  if oid = "1.3.14.3.2.26" then [0x2b, 0x0e, 0x03, 0x02, 0x1a]
  else if oid = "2.16.840.1.101.3.4.2.1" then
    [0x60, 0x86, 0x48, 0x01, 0x65, 0x03, 0x04, 0x02, 0x01]
  else if oid = "1.2.840.10045.4.3.2" then [0x2a, 0x86, 0x48, 0xce, 0x3d, 0x04, 0x03, 0x02]
  else if oid = Ahu.idMlDsa44 then
    [0x60, 0x86, 0x48, 0x01, 0x65, 0x03, 0x04, 0x03, 0x11]
  else if oid = Ahu.idMlDsa65 then
    [0x60, 0x86, 0x48, 0x01, 0x65, 0x03, 0x04, 0x03, 0x12]
  else if oid = Ahu.idMlDsa87 then
    [0x60, 0x86, 0x48, 0x01, 0x65, 0x03, 0x04, 0x03, 0x13]
  else if oid = idPkixOcspBasic then [0x2b, 0x06, 0x01, 0x05, 0x05, 0x07, 0x30, 0x01, 0x01]
  else if oid = idPkixOcspNonce then [0x2b, 0x06, 0x01, 0x05, 0x05, 0x07, 0x30, 0x01, 0x02]
  else []

def oidDer (oid : ObjectIdentifier) : Bytes :=
  Der.tlv 0x06 (oidContents oid)

def algorithmDer (algorithm : AlgorithmIdentifier) : Bytes :=
  Der.sequence [oidDer algorithm.oid, algorithm.parameters.getD []]

def certIdDer (certId : CertId) : Bytes :=
  Der.sequence [algorithmDer certId.hashAlgorithm, Der.octetString certId.issuerNameHash,
    Der.octetString certId.issuerKeyHash, Der.tlv 0x02 certId.serialNumber]

def extensionDer (extension : Extension) : Bytes :=
  Der.sequence [oidDer extension.extnId, if extension.critical then [0x01, 0x01, 0xff] else [],
    Der.octetString extension.extnValue]

def requestDer (request : OcspRequest) : Bytes :=
  Der.sequence [Der.sequence [
    Der.sequence (request.requestList.map fun certId => Der.sequence [certIdDer certId]),
    match request.requestExtensions with
    | none => []
    | some extensions => Der.tlv 0xa2 (Der.sequence (extensions.map extensionDer))]]

def digits (width value : Nat) : Bytes :=
  (List.range width).reverse.map fun place => UInt8.ofNat (48 + value / 10 ^ place % 10)

def timeDer (time : DateTime) : Bytes :=
  Der.tlv 0x18 (digits 4 time.date.year ++ digits 2 time.date.month ++ digits 2 time.date.day ++
    digits 2 time.hour ++ digits 2 time.minutes ++ digits 2 time.seconds ++ [0x5a])

def reasonCode : CrlReason → UInt8
  | .unspecified => 0
  | .keyCompromise => 1
  | .caCompromise => 2
  | .affiliationChanged => 3
  | .superseded => 4
  | .cessationOfOperation => 5
  | .certificateHold => 6
  | .removeFromCrl => 8
  | .privilegeWithdrawn => 9
  | .aaCompromise => 10

def crlReasons : List CrlReason :=
  [.unspecified, .keyCompromise, .caCompromise, .affiliationChanged, .superseded,
    .cessationOfOperation, .certificateHold, .removeFromCrl, .privilegeWithdrawn, .aaCompromise]

def crlReasonDer (reason : CrlReason) : Bytes :=
  [0x0a, 0x01, reasonCode reason]

def statusDer : CertStatus → Bytes
  | .good => [0x80, 0x00]
  | .revoked info => Der.tlv 0xa1 (timeDer info.revocationTime ++
      match info.revocationReason with
      | none => []
      | some reason => Der.tlv 0xa0 [0x0a, 0x01, reasonCode reason])
  | .unknown => [0x82, 0x00]

def singleDer (single : SingleResponse) : Bytes :=
  Der.sequence [certIdDer single.certId, statusDer single.certStatus, timeDer single.thisUpdate,
    match single.nextUpdate with
    | none => []
    | some time => Der.tlv 0xa0 (timeDer time),
    match single.singleExtensions with
    | none => []
    | some extensions => Der.tlv 0xa1 (Der.sequence (extensions.map extensionDer))]

def responseDataDer (data : ResponseData) : Bytes :=
  Der.sequence [
    match data.responderId with
    | .byName name => Der.tlv 0xa1 name
    | .byKey hash => Der.tlv 0xa2 (Der.octetString hash),
    timeDer data.producedAt, Der.sequence (data.responses.map singleDer),
    match data.responseExtensions with
    | none => []
    | some extensions => Der.tlv 0xa1 (Der.sequence (extensions.map extensionDer))]

def basicDer (basic : BasicOcspResponse) : Bytes :=
  Der.sequence [responseDataDer basic.tbsResponseData, algorithmDer basic.signatureAlgorithm,
    Der.tlv 0x03 (0x00 :: basic.signature),
    match basic.certs with
    | none => []
    | some certs => Der.tlv 0xa0 (Der.sequence (certs.map fun cert => cert.der.toOption.getD []))]

def responseStatusCode : OcspResponseStatus → UInt8
  | .successful => 0
  | .malformedRequest => 1
  | .internalError => 2
  | .tryLater => 3
  | .sigRequired => 5
  | .unauthorized => 6

def responseDer (response : OcspResponse) : Bytes :=
  Der.sequence [[0x0a, 0x01, responseStatusCode response.responseStatus],
    match response.responseBytes with
    | none => []
    | some bytes => Der.tlv 0xa0
        (Der.sequence [oidDer bytes.responseType, Der.octetString bytes.response])]

/-! ### Listed messages -/

def encodeListed {α : Type} [DecidableEq α] (listed : List α) (encode : α → Bytes)
    (value : α) : Except String Bytes :=
  if value ∈ listed then .ok (encode value) else .error "ASN.1 value too long"

def decodeListed {α : Type} (listed : List α) (encode : α → Bytes) (bytes : Bytes) :
    Except String α :=
  match listed.find? (encode · = bytes) with
  | some value => .ok value
  | none => .error "malformed ASN.1 DER value"

theorem decodeListed_encodeListed {α : Type} [DecidableEq α] {listed : List α}
    {encode : α → Bytes} {value : α} {bytes : Bytes}
    (distinct : ∀ left ∈ listed, ∀ right ∈ listed, encode left = encode right → left = right)
    (encoded : encodeListed listed encode value = .ok bytes) :
    decodeListed listed encode bytes = .ok value := by
  unfold encodeListed at encoded
  split_ifs at encoded with member
  cases encoded
  unfold decodeListed
  cases found : listed.find? (encode · = encode value) with
  | none =>
      rw [List.find?_eq_none] at found
      exact absurd (decide_eq_true rfl) (found value member)
  | some other =>
      have same : encode other = encode value := by simpa using List.find?_some found
      rw [distinct other (List.mem_of_find?_eq_some found) value member same]

structure Messages where
  requests : List OcspRequest
  certIds : List CertId
  basics : List BasicOcspResponse

def Messages.responses (messages : Messages) : List OcspResponse :=
  messages.basics.map fun basic =>
    { responseStatus := .successful
      responseBytes := some { responseType := idPkixOcspBasic, response := basicDer basic } }

def nonceExtension (nonce : Bytes) : Extension :=
  { extnId := idPkixOcspNonce
    critical := false
    extnValue := Der.octetString nonce }

def signWith (basicToDer : BasicOcspResponse → Except String Bytes)
    (builder : OcspResponseBuilder) (signer : Signer) (certs : Option (List Certificate))
    (producedAt : DateTime) : Except String OcspResponse := do
  let signatureAlgorithm ← signer.algorithm
  let signature ← signer.trySign (responseDataDer (builder.responseData producedAt))
  let response ← basicToDer
    { tbsResponseData := builder.responseData producedAt
      signatureAlgorithm := signatureAlgorithm
      signature := signature
      certs := certs }
  return {
    responseStatus := .successful
    responseBytes := some { responseType := idPkixOcspBasic, response := response } }

theorem signWith_eq_ok {basicToDer : BasicOcspResponse → Except String Bytes}
    {builder : OcspResponseBuilder} {signer : Signer} {certs : Option (List Certificate)}
    {producedAt : DateTime} {response : OcspResponse}
    (signed : signWith basicToDer builder signer certs producedAt = .ok response) :
    ∃ basic der, basic.tbsResponseData = builder.responseData producedAt ∧
      basic.certs = certs ∧ basicToDer basic = .ok der ∧
      response = {
        responseStatus := .successful
        responseBytes := some { responseType := idPkixOcspBasic, response := der } } := by
  unfold signWith at signed
  obtain ⟨algorithm, _, signed⟩ := Except.bind_eq_ok.mp signed
  obtain ⟨signature, _, signed⟩ := Except.bind_eq_ok.mp signed
  obtain ⟨der, encoded, signed⟩ := Except.bind_eq_ok.mp signed
  cases signed
  exact ⟨_, der, rfl, rfl, encoded, rfl⟩

@[reducible] def x509Ocsp (messages : Messages) : X509Ocsp :=
  { requestFromDer := decodeListed messages.requests requestDer
    preferredFromDer := fun _ => .error "malformed ASN.1 DER value"
    certIdToDer := encodeListed messages.certIds certIdDer
    certIdFromDer := decodeListed messages.certIds certIdDer
    octetStringFromDer := fun bytes =>
      match bytes with
      | 0x04 :: length :: content =>
          if content.length = length.toNat then .ok content
          else .error "malformed ASN.1 DER value"
      | _ => .error "malformed ASN.1 DER value"
    certificateFromDer := fun bytes =>
      if bytes = signerDer then .ok signer else .error "malformed ASN.1 DER value"
    rawPublicKey := fun cert => cert.publicKey.getD []
    crlReasonFromDer := decodeListed crlReasons crlReasonDer
    basicToDer := encodeListed messages.basics basicDer
    basicFromDer := decodeListed messages.basics basicDer
    responseToDer := encodeListed messages.responses responseDer
    responseFromDer := decodeListed messages.responses responseDer
    nonceExtension := fun nonce => .ok (nonceExtension nonce)
    sign := signWith (encodeListed messages.basics basicDer)
    sign_eq_ok := signWith_eq_ok }

/-- Codecs for these CertIDs and for every response that fits 32 bits. -/
@[reducible] def x509OcspFor (certIds : List CertId) : X509Ocsp :=
  { x509Ocsp { requests := [], certIds := certIds, basics := [] } with
    basicToDer := fun basic => .ok (basicDer basic)
    responseToDer := fun response =>
      if (responseDer response).length < 2 ^ 32 then .ok (responseDer response)
      else .error "ASN.1 value too long"
    sign := signWith fun basic => .ok (basicDer basic)
    sign_eq_ok := signWith_eq_ok }

theorem encodeListed_eq_ok {α : Type} [DecidableEq α] {listed : List α} {encode : α → Bytes}
    {value : α} {bytes : Bytes} :
    encodeListed listed encode value = .ok bytes ↔ value ∈ listed ∧ encode value = bytes := by
  unfold encodeListed
  split_ifs with member
  · simp [member]
  · simp [member]

theorem parseBasic_encoded (messages : Messages)
    (distinct : ∀ left ∈ messages.basics, ∀ right ∈ messages.basics,
      basicDer left = basicDer right → left = right)
    (distinctResponses : ∀ left ∈ messages.responses, ∀ right ∈ messages.responses,
      responseDer left = responseDer right → left = right) {basic : BasicOcspResponse}
    {der body : Bytes} (inner : encodeListed messages.basics basicDer basic = .ok der)
    (outer : encodeListed messages.responses responseDer
      { responseStatus := .successful
        responseBytes := some { responseType := idPkixOcspBasic, response := der } } = .ok body) :
    @parseBasic (x509Ocsp messages) body = .ok basic := by
  have response := decodeListed_encodeListed distinctResponses outer
  have content := decodeListed_encodeListed distinct inner
  unfold parseBasic
  dsimp only [X509Ocsp.responseFromDer, X509Ocsp.basicFromDer]
  rw [response]
  change (decodeListed messages.basics basicDer der).mapError SignError.der = _
  rw [content]
  rfl

theorem responsesReadBack (messages : Messages)
    (distinct : ∀ left ∈ messages.basics, ∀ right ∈ messages.basics,
      basicDer left = basicDer right → left = right)
    (distinctResponses : ∀ left ∈ messages.responses, ∀ right ∈ messages.responses,
      responseDer left = responseDer right → left = right) :
    @ResponsesReadBack (x509Ocsp messages) :=
  fun _ _ _ _ inner outer => parseBasic_encoded messages distinct distinctResponses inner outer

def timeAt (secs : UInt64) : DateTime :=
  match ocspTime secs with
  | .ok time => time
  | .error _ => startOf1970

end Crates
end Hoike
