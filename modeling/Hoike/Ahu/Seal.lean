/-
CMS seal verification (`seal.rs`).

The certificate, CMS and signature crates are the parameter `Pki`: it decodes
certificates and signed data into the fields the verifier reads and checks
single signatures.  Which signer, which attributes, which certificate profile
and which trust policy make a seal acceptable is decided here.
-/

import Hoike.Ahu.Verify

namespace Hoike

abbrev ObjectIdentifier := String

/-- An algorithm identifier with its encoded parameters. -/
structure AlgorithmIdentifier where
  oid : ObjectIdentifier
  parameters : Option Bytes
deriving DecidableEq, Repr

structure KeyUsage where
  digitalSignature : Bool
  keyCertSign : Bool
deriving DecidableEq, Repr

/-- What the source reads of a decoded certificate.  `der` is the encoding of
the whole certificate, so that equal values are equal certificates; an encoder
or extension decoder that fails does so with a text. -/
structure Certificate where
  der : Except String Bytes
  tbsDer : Except String Bytes
  issuer : Bytes
  subject : Bytes
  subjectText : String
  serialNumber : Bytes
  notBefore : UInt64
  notAfter : UInt64
  extensions : Option (List ObjectIdentifier)
  keyUsage : Except String (Option KeyUsage)
  basicConstraintsCa : Except String (Option Bool)
  subjectKeyIdentifier : Option Bytes
  tbsSignature : AlgorithmIdentifier
  signatureAlgorithm : AlgorithmIdentifier
  signature : Option Bytes
  keyAlgorithm : AlgorithmIdentifier
  publicKey : Option Bytes
deriving DecidableEq

structure Attribute where
  oid : ObjectIdentifier
  values : List Bytes
deriving DecidableEq

inductive SignerIdentifier where
  | issuerAndSerialNumber (issuer serialNumber : Bytes)
  | subjectKeyIdentifier (identifier : Bytes)
deriving DecidableEq

structure SignerInfo where
  sid : SignerIdentifier
  digestAlg : ObjectIdentifier
  signedAttrs : Option (List Attribute)
  signedAttrsDer : Except String Bytes
  signatureAlgorithm : ObjectIdentifier
  signature : Bytes
deriving DecidableEq

/-- A certificate slot of signed data; other choices carry nothing usable. -/
inductive CertificateChoice where
  | certificate (value : Certificate)
  | other
deriving DecidableEq

structure SignedData where
  digestAlgorithms : List ObjectIdentifier
  contentType : ObjectIdentifier
  hasContent : Bool
  certificates : Option (List CertificateChoice)
  signerInfos : List SignerInfo
deriving DecidableEq

structure ContentInfo where
  contentType : ObjectIdentifier
  content : Bytes
deriving DecidableEq

inductive MlDsaLevel where
  | mlDsa44
  | mlDsa65
  | mlDsa87
deriving DecidableEq, Repr

/-- The `cms`, `der`, `x509-cert`, `p256` and `ml-dsa` crates. -/
class Pki where
  contentInfoFromDer : Bytes → Except String ContentInfo
  signedDataFromDer : Bytes → Except String SignedData
  certificateFromDer : Bytes → Except String Certificate
  certificateFromPem : Bytes → Except String Certificate
  oidFromDer : Bytes → Option ObjectIdentifier
  octetStringFromDer : Bytes → Except String Bytes
  verifyingKeyFromSec1 : Bytes → Except String Bytes
  ecdsaSignatureFromDer : Bytes → Except String Bytes
  /-- Key, prehash, signature. -/
  verifyPrehash : Bytes → Octets 32 → Bytes → Bool
  mlDsaKey : MlDsaLevel → Bytes → Option Bytes
  mlDsaSignature : MlDsaLevel → Bytes → Option Bytes
  /-- Level, key, message, signature. -/
  mlDsaVerify : MlDsaLevel → Bytes → Bytes → Bytes → Bool

namespace Ahu

def idSignedData : ObjectIdentifier := "1.2.840.113549.1.7.2"
def idMessageDigest : ObjectIdentifier := "1.2.840.113549.1.9.4"
def idSha256 : ObjectIdentifier := "2.16.840.1.101.3.4.2.1"
def idData : ObjectIdentifier := "1.2.840.113549.1.7.1"
def idContentType : ObjectIdentifier := "1.2.840.113549.1.9.3"
def idEcdsaSha256 : ObjectIdentifier := "1.2.840.10045.4.3.2"
def idEcPublicKey : ObjectIdentifier := "1.2.840.10045.2.1"
def idPrime256v1 : ObjectIdentifier := "1.2.840.10045.3.1.7"
def idMlDsa44 : ObjectIdentifier := "2.16.840.1.101.3.4.3.17"
def idMlDsa65 : ObjectIdentifier := "2.16.840.1.101.3.4.3.18"
def idMlDsa87 : ObjectIdentifier := "2.16.840.1.101.3.4.3.19"

structure SealVerification where
  signatureValid : Bool
  digestMatches : Bool
  signerSubject : String
  signerSha256 : String
deriving DecidableEq, Repr

variable [Sha2] [Pki]

def sealError {α : Type} (context : String) (result : Except String α) :
    Except AhuError α :=
  result.mapError fun text => .sealInvalid (context ++ text)

/-- `Option::ok_or_else`. -/
def orSealInvalid {α : Type} (value : Option α) (message : String) : Except AhuError α :=
  match value with
  | none => .error (.sealInvalid message)
  | some content => .ok content

/-! ### Signatures -/

def verifyEcdsaSeal (attrsDer sigBytes pubKeyBytes : Bytes) : Except AhuError Bool := do
  let verifyingKey ← sealError "parse P-256 public key: " (Pki.verifyingKeyFromSec1 pubKeyBytes)
  let signature ← sealError "parse ECDSA signature: " (Pki.ecdsaSignatureFromDer sigBytes)
  return Pki.verifyPrehash verifyingKey (Sha2.sha256 attrsDer) signature

omit [Sha2] in
def verifyMlDsaSeal (level : MlDsaLevel) (attrsDer sigBytes pubKeyBytes : Bytes) :
    Except AhuError Bool := do
  let key ← orSealInvalid (Pki.mlDsaKey level pubKeyBytes) "invalid ML-DSA public key size"
  let signature ← orSealInvalid (Pki.mlDsaSignature level sigBytes) "invalid ML-DSA signature"
  return Pki.mlDsaVerify level key attrsDer signature

def verifyBytes (bytes sigBytes : Bytes) (sigAlg : ObjectIdentifier) (cert : Certificate) :
    Except AhuError Bool := do
  let pubKeyBytes ← orSealInvalid cert.publicKey "no public key bits"
  if sigAlg = idEcdsaSha256 then
    Except.require (cert.keyAlgorithm.oid = idEcPublicKey ∧
        cert.keyAlgorithm.parameters.bind Pki.oidFromDer = some idPrime256v1)
      (.sealInvalid "expected P-256 key algorithm")
    verifyEcdsaSeal bytes sigBytes pubKeyBytes
  else if sigAlg = idMlDsa44 ∧ cert.keyAlgorithm.oid = sigAlg then
    verifyMlDsaSeal .mlDsa44 bytes sigBytes pubKeyBytes
  else if sigAlg = idMlDsa65 ∧ cert.keyAlgorithm.oid = sigAlg then
    verifyMlDsaSeal .mlDsa65 bytes sigBytes pubKeyBytes
  else if sigAlg = idMlDsa87 ∧ cert.keyAlgorithm.oid = sigAlg then
    verifyMlDsaSeal .mlDsa87 bytes sigBytes pubKeyBytes
  else
    throw (.sealInvalid s!"unsupported/mismatched signature algorithm {sigAlg}")

def verifySignature (signerInfo : SignerInfo) (cert : Certificate) :
    Except AhuError Bool := do
  let _ ← orSealInvalid signerInfo.signedAttrs "no signed attrs for verification"
  let attrsDer ← sealError "encode signed attrs: " signerInfo.signedAttrsDer
  verifyBytes attrsDer signerInfo.signature signerInfo.signatureAlgorithm cert

/-! ### The signer -/

omit [Sha2] in
def verifyMessageDigest (signerInfo : SignerInfo) (expectedDigest : Bytes) :
    Except AhuError Bool := do
  let attrs ← orSealInvalid signerInfo.signedAttrs "no signed attributes"
  match attrs.filter (·.oid = idMessageDigest) with
  | [⟨_, [value]⟩] =>
      let octets ← sealError "invalid digest attribute: " (Pki.octetStringFromDer value)
      return octets = expectedDigest
  | _ => throw (.sealInvalid "exactly one message-digest value required")

omit [Sha2] [Pki] in
def SignerIdentifier.matches (sid : SignerIdentifier) (cert : Certificate) : Bool :=
  match sid with
  | .issuerAndSerialNumber issuer serialNumber =>
      issuer = cert.issuer ∧ serialNumber = cert.serialNumber
  | .subjectKeyIdentifier identifier => cert.subjectKeyIdentifier = some identifier

omit [Sha2] [Pki] in
/-- Two certificates for one signer are refused rather than picked from. -/
def extractSignerCert (signedData : SignedData) : Except AhuError Certificate := do
  let signer ← orSealInvalid signedData.signerInfos.head? "missing signer"
  let choices ← orSealInvalid signedData.certificates "missing certificates"
  let found := choices.filterMap fun choice =>
    match choice with
    | .certificate cert =>
        if SignerIdentifier.matches signer.sid cert then some cert else none
    | .other => none
  match found with
  | [] => throw (.sealInvalid "signer identifier has no matching certificate")
  | [cert] => return cert
  | _ => throw (.sealInvalid "ambiguous signer certificate")

omit [Sha2] in
def parseSignedData (sealBytes : Bytes) (infoContext dataContext : String) :
    Except AhuError (ContentInfo × SignedData) := do
  let contentInfo ← sealError infoContext (Pki.contentInfoFromDer sealBytes)
  let signedData ← sealError dataContext (Pki.signedDataFromDer contentInfo.content)
  return (contentInfo, signedData)

def verifySeal (manifestBytes sealBytes : Bytes) : Except AhuError SealVerification := do
  Except.require (sealBytes ≠ []) (.sealInvalid "seal section is empty")
  let contentInfo ← sealError "parse ContentInfo: " (Pki.contentInfoFromDer sealBytes)
  Except.require (contentInfo.contentType = idSignedData)
    (.sealInvalid s!"unexpected content type: {contentInfo.contentType}")
  let signedData ← sealError "parse SignedData: " (Pki.signedDataFromDer contentInfo.content)
  let [signerInfo] := signedData.signerInfos
    | throw (.sealInvalid "exactly one signer is required")
  Except.require (signerInfo.digestAlg = idSha256 ∧ signedData.digestAlgorithms = [idSha256])
    (.sealInvalid "only SHA-256 digest attributes are supported")
  Except.require (signedData.contentType = idData ∧ signedData.hasContent = false)
    (.sealInvalid "expected detached CMS data content")
  let attrs ← orSealInvalid signerInfo.signedAttrs "missing signed attributes"
  match attrs.filter (·.oid = idContentType) with
  | [⟨_, [value]⟩] =>
      Except.require (Pki.oidFromDer value = some idData)
        (.sealInvalid "invalid content-type attribute")
  | _ => throw (.sealInvalid "invalid content-type attribute")
  let digestMatches ← verifyMessageDigest signerInfo (Sha2.sha256 manifestBytes).val
  Except.require digestMatches
    (.sealInvalid "message-digest attribute does not match manifest hash")
  let cert ← extractSignerCert signedData
  let signatureValid ← verifySignature signerInfo cert
  Except.require signatureValid (.sealInvalid "invalid CMS signature")
  let certDer ← sealError "" cert.der
  return {
    signatureValid := signatureValid
    digestMatches := digestMatches
    signerSubject := cert.subjectText
    signerSha256 := Bytes.encodeHex (Sha2.sha256 certDer).val }

/-! ### Certificate profile and trust policies -/

def knownExtensions : List ObjectIdentifier :=
  ["2.5.29.14", "2.5.29.15", "2.5.29.19", "2.5.29.35"]

omit [Sha2] [Pki] in
def validateExtensions (seen : List ObjectIdentifier) :
    List ObjectIdentifier → Except AhuError Unit
  | [] => .ok ()
  | oid :: rest => do
      Except.require (oid ∉ seen) (.sealInvalid "duplicate certificate extension")
      Except.require (oid ∈ knownExtensions)
        (.sealInvalid s!"unsupported seal certificate extension {oid}")
      validateExtensions (oid :: seen) rest

omit [Sha2] [Pki] in
def validateCertProfile (cert : Certificate) (now : UInt64) (ca : Bool) :
    Except AhuError Unit := do
  Except.require (cert.notBefore ≤ now ∧ now < cert.notAfter)
    (.sealInvalid "certificate outside validity period")
  validateExtensions [] (cert.extensions.getD [])
  let usage ← sealError "" cert.keyUsage
  Except.require (usage.all fun keyUsage =>
      if ca then keyUsage.keyCertSign else keyUsage.digitalSignature)
    (.sealInvalid "certificate key usage does not permit operation")
  if ca then
    let constraints ← sealError "" cert.basicConstraintsCa
    Except.require (constraints = some true) (.sealInvalid
      "trust anchor must be a CA certificate; signer pins are a separate policy")

/-- The first anchor that is the signer or issued it decides; a signer whose
issuer matches but whose signature cannot be evaluated is an error. -/
def findAnchor (verification : SealVerification) (signer : Certificate) :
    List Certificate → Except AhuError SealVerification
  | [] => .error (.sealInvalid ("signer is not directly issued by a configured CA trust " ++
      "anchor (intermediate paths unsupported)"))
  | anchor :: rest => do
      if signer = anchor then
        return verification
      else if signer.issuer ≠ anchor.subject then
        findAnchor verification signer rest
      else
        Except.require (signer.signatureAlgorithm = signer.tbsSignature)
          (.sealInvalid "certificate signature algorithms disagree")
        let bytes ← sealError "" signer.tbsDer
        let signature ← orSealInvalid signer.signature "invalid certificate signature bits"
        if ← verifyBytes bytes signature signer.signatureAlgorithm.oid anchor then
          return verification
        else
          findAnchor verification signer rest

def verifySealWithAnchors (manifest sealBytes : Bytes) (anchorsDer : List Bytes)
    (now : UInt64) : Except AhuError SealVerification := do
  let verification ← verifySeal manifest sealBytes
  let (_, signedData) ← parseSignedData sealBytes "" ""
  let signer ← extractSignerCert signedData
  validateCertProfile signer now false
  Except.require (anchorsDer ≠ []) (.sealInvalid "no trust anchors")
  let anchors ← anchorsDer.mapM fun bytes =>
    sealError "invalid trust anchor: " (Pki.certificateFromDer bytes)
  anchors.forM fun anchor => validateCertProfile anchor now true
  findAnchor verification signer anchors

def verifySealWithPins (manifest sealBytes : Bytes) (pinsDer : List Bytes)
    (now : UInt64) : Except AhuError SealVerification := do
  let verification ← verifySeal manifest sealBytes
  let (_, signedData) ← parseSignedData sealBytes "" ""
  let signer ← extractSignerCert signedData
  validateCertProfile signer now false
  let signerDer ← sealError "" signer.der
  let pins ← pinsDer.mapM fun pin =>
    sealError "invalid signer pin: " (Pki.certificateFromDer pin >>= Certificate.der)
  Except.require (signerDer ∈ pins)
    (.sealInvalid "signer certificate does not match an explicit pin")
  return verification

end Ahu
end Hoike
