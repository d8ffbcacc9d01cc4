/-
Parsing of OCSP requests (`request.rs`).

Every CertID of a request is encoded again; the digest of that encoding is the
entry key its response is stored under.
-/

import Hoike.Core.Lookup
import Hoike.Ocsp.Messages

namespace Hoike

open Ahu
open Ocsp

def maxRequestSize : Nat := 8192

/-- A request reduced to what a lookup needs. -/
structure ParsedRequest where
  certIds : List ParsedCertId
  nonce : Option Bytes
  preferredSigAlgs : List UInt16
deriving DecidableEq, Repr

def sigOidToDiscriminator (oid : ObjectIdentifier) : Option UInt16 :=
  if oid = "1.2.840.10045.4.3.2" then some algDiscDefault
  else if oid = "2.16.840.1.101.3.4.3.17" then some algDiscMlDsa44
  else if oid = "2.16.840.1.101.3.4.3.18" then some algDiscMlDsa65
  else if oid = "2.16.840.1.101.3.4.3.19" then some algDiscMlDsa87
  else none

section Parsing

variable [Sha2] [X509Ocsp]

/-- An extension that does not decode counts as no preference. -/
def parsePreferredSigAlgs (extensions : Option (List Extension)) : List UInt16 :=
  match (extensions.getD []).find? (·.extnId = idPkixOcspPrefSigAlgs) with
  | none => []
  | some extension =>
      match X509Ocsp.preferredFromDer extension.extnValue with
      | .error _ => []
      | .ok prefs => prefs.filterMap sigOidToDiscriminator

def parseCertId (certId : CertId) : Except CoreError ParsedCertId := do
  let certidDer ← (X509Ocsp.certIdToDer certId).mapError (.derParse "CertID encode")
  return {
    entryKey := Sha2.sha256 certidDer
    certidDer := certidDer
    issuerNameHash := certId.issuerNameHash
    issuerKeyHash := certId.issuerKeyHash
    serialNumber := certId.serialNumber
    hashAlgOid := certId.hashAlgorithm.oid }

def parseNonce (extensions : Option (List Extension)) : Except CoreError (Option Bytes) :=
  match (extensions.getD []).find? (·.extnId = idPkixOcspNonce) with
  | none => .ok none
  | some extension =>
      ((X509Ocsp.octetStringFromDer extension.extnValue).mapError
        (.derParse "nonce extension value")).map some

def parseOcspRequest (derBytes : Bytes) : Except CoreError ParsedRequest := do
  Except.require (derBytes ≠ []) .emptyRequest
  Except.require (derBytes.length ≤ maxRequestSize)
    (.requestTooLarge derBytes.length maxRequestSize)
  let ocspReq ← (X509Ocsp.requestFromDer derBytes).mapError (.derParse "OCSPRequest")
  Except.require (ocspReq.requestList ≠ []) .emptyRequestList
  let certIds ← ocspReq.requestList.mapM parseCertId
  let nonce ← parseNonce ocspReq.requestExtensions
  return {
    certIds := certIds
    nonce := nonce
    preferredSigAlgs := parsePreferredSigAlgs ocspReq.requestExtensions }

end Parsing

inductive NonceAction where
  | mustAccept
  | mayOmit
  | malformedRequest
deriving DecidableEq, Repr

/-- Nonce lengths of RFC 9654. -/
def validateNonce (nonce : Bytes) : NonceAction :=
  if nonce.length = 0 then .malformedRequest
  else if nonce.length ≤ 15 then .mayOmit
  else if nonce.length ≤ 32 then .mustAccept
  else if nonce.length ≤ 128 then .mayOmit
  else .malformedRequest

end Hoike
