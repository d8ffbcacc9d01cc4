/-
OCSP requests and responses as the `x509-ocsp` crate decodes and builds them.

The DER codecs and the signing of responses are the parameter `X509Ocsp`, SHA-1
is the parameter `Sha1`.  Of signing it is assumed that a response is the encoding
of what its builder was given.
-/

import Hoike.Ahu.Seal
import Hoike.Ocsp.Time

namespace Hoike

/-- The `sha1` crate. -/
class Sha1 where
  sha1 : Bytes → Octets 20

namespace Ocsp

def idPkixOcspBasic : ObjectIdentifier := "1.3.6.1.5.5.7.48.1.1"

def idPkixOcspNonce : ObjectIdentifier := "1.3.6.1.5.5.7.48.1.2"

def idPkixOcspPrefSigAlgs : ObjectIdentifier := "1.3.6.1.5.5.7.48.1.8"

/-- The serial number is the content of its INTEGER. -/
structure CertId where
  hashAlgorithm : AlgorithmIdentifier
  issuerNameHash : Bytes
  issuerKeyHash : Bytes
  serialNumber : Bytes
deriving DecidableEq, Repr

structure Extension where
  extnId : ObjectIdentifier
  critical : Bool
  extnValue : Bytes
deriving DecidableEq, Repr

/-- The CertIDs of the request list and the extensions of the whole request. -/
structure OcspRequest where
  requestList : List CertId
  requestExtensions : Option (List Extension)
deriving DecidableEq, Repr

inductive CrlReason where
  | unspecified
  | keyCompromise
  | caCompromise
  | affiliationChanged
  | superseded
  | cessationOfOperation
  | certificateHold
  | removeFromCrl
  | privilegeWithdrawn
  | aaCompromise
deriving DecidableEq, Repr

structure RevokedInfo where
  revocationTime : DateTime
  revocationReason : Option CrlReason
deriving DecidableEq

inductive CertStatus where
  | good
  | revoked (info : RevokedInfo)
  | unknown
deriving DecidableEq

structure SingleResponse where
  certId : CertId
  certStatus : CertStatus
  thisUpdate : DateTime
  nextUpdate : Option DateTime
  singleExtensions : Option (List Extension)
deriving DecidableEq

inductive ResponderId where
  | byName (name : Bytes)
  | byKey (hash : Bytes)
deriving DecidableEq

structure ResponseData where
  responderId : ResponderId
  producedAt : DateTime
  responses : List SingleResponse
  responseExtensions : Option (List Extension)
deriving DecidableEq

structure BasicOcspResponse where
  tbsResponseData : ResponseData
  signatureAlgorithm : AlgorithmIdentifier
  signature : Bytes
  certs : Option (List Certificate)
deriving DecidableEq

inductive OcspResponseStatus where
  | successful
  | malformedRequest
  | internalError
  | tryLater
  | sigRequired
  | unauthorized
deriving DecidableEq, Repr

structure ResponseBytes where
  responseType : ObjectIdentifier
  response : Bytes
deriving DecidableEq, Repr

structure OcspResponse where
  responseStatus : OcspResponseStatus
  responseBytes : Option ResponseBytes
deriving DecidableEq, Repr

/-- A private key: its algorithm and the signature it makes over a message. -/
structure Signer where
  algorithm : Except String AlgorithmIdentifier
  trySign : Bytes → Except String Bytes

/-- What a response builder has been given. -/
structure OcspResponseBuilder where
  responderId : ResponderId
  responses : List SingleResponse
  responseExtensions : Option (List Extension)

namespace OcspResponseBuilder

def new (responderId : ResponderId) : OcspResponseBuilder :=
  { responderId := responderId
    responses := []
    responseExtensions := none }

def withSingleResponse (builder : OcspResponseBuilder) (single : SingleResponse) :
    OcspResponseBuilder :=
  { builder with responses := builder.responses ++ [single] }

def withExtension (builder : OcspResponseBuilder) (extension : Extension) :
    OcspResponseBuilder :=
  { builder with
    responseExtensions := some (builder.responseExtensions.getD [] ++ [extension]) }

def responseData (builder : OcspResponseBuilder) (producedAt : DateTime) : ResponseData :=
  { responderId := builder.responderId
    producedAt := producedAt
    responses := builder.responses
    responseExtensions := builder.responseExtensions }

end OcspResponseBuilder

end Ocsp

open Ocsp

/-- The `der`, `x509-cert` and `x509-ocsp` crates of the signing side.  A
failed decoding or encoding is reported as text. -/
class X509Ocsp where
  requestFromDer : Bytes → Except String OcspRequest
  /-- The signature algorithms of a preferred-algorithms extension. -/
  preferredFromDer : Bytes → Except String (List ObjectIdentifier)
  certIdToDer : CertId → Except String Bytes
  certIdFromDer : Bytes → Except String CertId
  octetStringFromDer : Bytes → Except String Bytes
  certificateFromDer : Bytes → Except String Certificate
  /-- The octets of the subject public key, whatever bits of the last are unused. -/
  rawPublicKey : Certificate → Bytes
  crlReasonFromDer : Bytes → Except String CrlReason
  basicToDer : BasicOcspResponse → Except String Bytes
  basicFromDer : Bytes → Except String BasicOcspResponse
  responseToDer : OcspResponse → Except String Bytes
  responseFromDer : Bytes → Except String OcspResponse
  /-- `Nonce` as an extension. -/
  nonceExtension : Bytes → Except String Extension
  /-- Builder, key, certificates, time of production. -/
  sign : OcspResponseBuilder → Signer → Option (List Certificate) → DateTime →
    Except String OcspResponse
  /-- A signed response is successful and encodes what its builder was given. -/
  sign_eq_ok : ∀ {builder signer certs producedAt response},
    sign builder signer certs producedAt = .ok response →
      ∃ basic der, basic.tbsResponseData = builder.responseData producedAt ∧
        basic.certs = certs ∧ basicToDer basic = .ok der ∧
        response = {
          responseStatus := .successful
          responseBytes := some { responseType := idPkixOcspBasic, response := der } }

def Ocsp.CertId.ReadsBack [X509Ocsp] (certId : CertId) : Prop :=
  ∀ der, X509Ocsp.certIdToDer certId = .ok der → X509Ocsp.certIdFromDer der = .ok certId

end Hoike
