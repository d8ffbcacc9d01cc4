/-
Production of one scope and of all scopes (`orchestrate.rs`).

The epoch of a generation is one above the durable mark of the issuer key's
SHA-256 scope.  Signing writes the bundle file only; the mark moves when the
file is loaded.  Key material and revocation sources are read anew at every
call, so each call gets values of its own.
-/

import Hoike.Core.Router
import Hoike.Core.SignerConfig
import Hoike.Sign.Crl
import Hoike.Sign.Generate

namespace Hoike

open Ahu (Completeness)
open Ocsp

/-! ### Sources and material -/

/-- A source as the signer sees it: what it answers depends on the number of
calls made before. -/
structure RevocationSource where
  snapshot : Nat → CaIdentity → Except SignError StatusSnapshot
  isAuthoritativeComplete : Nat → Bool

/-- What loading the key material of one scope gives: whether the live material
is usable, the responder certificate, the seal and the signing key. -/
structure ScopeMaterial where
  live : Except String Unit
  responderCert : Except String (Option Bytes)
  sealing : Except String (Bytes → Except SignError Bytes)
  signer : Except String Signer

def ScopeMaterial.checkLive (material : ScopeMaterial) (ca : SignerCa) : Except String Unit :=
  if ca.noncePolicy = "live" then material.live else .ok ()

/-- What a signing process works with: the machine, the persistent sources by
label, and the material at each call. -/
structure SigningEnvironment where
  os : Os
  sources : String → Option RevocationSource
  material : Nat → SignerCa → ScopeMaterial

/-- The `base64` crate, and revocation lists with the check of their signature. -/
class SourceFiles where
  base64Decode : String → Except String Bytes
  crlFromFile : Bytes → Except String CertificateList
  authenticate : CertificateList → Certificate → CaIdentity → Except SignError Unit

/-- `unix_now`, as reading number `calls` of the clock. -/
def unixNow (os : Os) (calls : Nat) : Except SignError UInt64 :=
  (os.clock calls).mapError fun _ => .config "clock is before Unix epoch"

def combinedProducerId : String := "hoike-combined"

structure SignedScope where
  label : String
  bytes : Bytes
  entryCount : Nat
  epoch : UInt64
deriving DecidableEq, Repr

section Identity

variable [Pki] [X509Ocsp] [SourceFiles]

def parseCertificate (bytes : Bytes) : Except String Certificate :=
  if pemPreamble.isPrefixOf bytes then Pki.certificateFromPem bytes
  else X509Ocsp.certificateFromDer bytes

omit [Pki] [X509Ocsp] in
def decodeB64Field (b64 : Option String) (fieldName caLabel fallback : String) :
    Except String Bytes :=
  match b64 with
  | some text => (SourceFiles.base64Decode text).mapError fun error =>
      s!"CA '{caLabel}': invalid base64 in {fieldName}: {error}"
  | none => .ok fallback.toUTF8.toList

omit [SourceFiles] in
def configuredIssuer (os : Os) (disk : Disk) (ca : SignerCa) :
    Except String (Option Certificate) :=
  match ca.source with
  | some (.crl _ (some path)) => do
      let bytes ← (os.read disk path).mapError fun error =>
        s!"read issuer certificate: {error.display}"
      return some (← parseCertificate bytes)
  | _ => .ok none

/-- A configured name wins over the issuer certificate; without either the
label stands in. -/
def decodeIssuerName (os : Os) (disk : Disk) (ca : SignerCa) : Except String Bytes := do
  let configured ← if ca.issuerNameDerB64.isNone then configuredIssuer os disk ca else .ok none
  match configured with
  | some cert => return cert.subject
  | none => decodeB64Field ca.issuerNameDerB64 "issuer_name_der_b64" ca.label s!"CN={ca.label}"

def decodeIssuerKey (os : Os) (disk : Disk) (ca : SignerCa) : Except String Bytes := do
  let configured ← if ca.issuerKeyBytesB64.isNone then configuredIssuer os disk ca else .ok none
  match configured with
  | some cert =>
      match cert.publicKey with
      | some key => return key
      | none => throw "issuer public key has unused bits"
  | none => decodeB64Field ca.issuerKeyBytesB64 "issuer_key_bytes_b64" ca.label s!"{ca.label}-key"

def caIdentity (os : Os) (disk : Disk) (ca : SignerCa) : Except String CaIdentity := do
  let issuerNameDer ← decodeIssuerName os disk ca
  let issuerKeyBytes ← decodeIssuerKey os disk ca
  return {
    label := ca.label
    issuerNameDer := issuerNameDer
    issuerKeyBytes := issuerKeyBytes }

omit [Pki] [SourceFiles] in
/-- A revocation list reads the clock and proves nothing about issuance. -/
def CrlSource.asSource (os : Os) (source : CrlSource) : RevocationSource :=
  { snapshot := fun calls ca => do
      let now ← unixNow os calls
      source.snapshot ca now
    isAuthoritativeComplete := fun _ => false }

def readCrlSource (os : Os) (disk : Disk) (label : String) (path : PathBuf)
    (issuerCert : Option PathBuf) : Except String RevocationSource := do
  let data ← (os.read disk path).mapError fun error =>
    s!"failed to read CRL {path.display}: {error.display}"
  let crl ← SourceFiles.crlFromFile data
  let some issuerPath := issuerCert
    | throw s!"CA '{label}': CRL source requires issuer_cert for authentication"
  let issuer ← (os.read disk issuerPath).mapError fun error =>
    s!"read issuer certificate: {error.display}"
  let cert ← (parseCertificate issuer).mapError fun error =>
    "issuer certificate: " ++ (SignError.verify s!"CRL issuer certificate: {error}").display
  return CrlSource.asSource os
    { crl := crl
      authenticate := SourceFiles.authenticate crl cert }

def resolveSource (env : SigningEnvironment) (disk : Disk) (ca : SignerCa) :
    Except String RevocationSource :=
  match env.sources ca.label with
  | some source => .ok source
  | none =>
      match ca.source with
      | none => .error s!"CA '{ca.label}': no revocation source configured"
      | some (.crl path issuerCert) => readCrlSource env.os disk ca.label path issuerCert
      | some .dogtagSync => .error
          s!"CA '{ca.label}': DogtagSync source must be persistent but was not found"

end Identity

/-! ### Signing one scope -/

def completenessOf (ca : SignerCa) (complete : Bool) : Except String Completeness :=
  if ca.completeness = "authoritative-complete" then
    if complete then .ok .authoritativeComplete
    else .error
      s!"CA '{ca.label}': source cannot prove authoritative completeness; configure partial"
  else if ca.completeness = "partial" then .ok .partialScope
  else .error s!"unknown completeness: {ca.completeness}"

def generationConfig (ca : SignerCa) (complete : Bool) (epoch : UInt64) :
    Except String GenerationConfig := do
  let certidCompat ← CertIdCompat.parse ca.certidCompat
  let completeness ← completenessOf ca complete
  return {
    producerId := combinedProducerId
    epoch := epoch
    validitySecs := ca.validitySecs
    jitterSecs := ca.jitterSecs
    certidCompat := certidCompat
    completeness := completeness
    archiveCutoffSecs := ca.archiveCutoffSecs
    bucketSize := 1 }

section Signing

variable [Sha2] [Ciborium]

/-- One above the durable mark, never from the clock. -/
def nextEpoch (os : Os) (config : SignerConfig) (disk : Disk) (issuerKeyBytes : Bytes) :
    Except String UInt64 := do
  let path := config.storage.stateDb.child "state.json"
  let store ← (StateStore.openExisting os disk path).mapError fun error =>
    s!"state store: {error.display}"
  let highWater := store.getHighWater combinedProducerId
    (Bytes.encodeHex (Sha2.sha256 issuerKeyBytes).val)
  return saturatingAddU64 (highWater.getD 0) 1

variable [Sha1] [Pki] [X509Ocsp] [SourceFiles]

def SigningEnvironment.clock (env : SigningEnvironment) (world : World) : Clock :=
  fun reading => unixNow env.os (world.calls + 1 + reading)

/-- Nothing is written here; the state store is read for the epoch. -/
def signCaScope (env : SigningEnvironment) (config : SignerConfig) (ca : SignerCa)
    (source : RevocationSource) (world : World) : Except String SignedScope := do
  let identity ← caIdentity env.os world.disk ca
  let snapshot ← (source.snapshot world.calls identity).mapError fun error =>
    s!"snapshot failed for {ca.label}: {error.display}"
  let epoch ← nextEpoch env.os config world.disk identity.issuerKeyBytes
  let generation ← generationConfig ca (source.isAuthoritativeComplete world.calls) epoch
  let material := env.material world.calls ca
  material.checkLive ca
  let responderCertDer ← material.responderCert
  let sealFn ← material.sealing
  let signer ← material.signer
  let bytes ← (produceBundle identity snapshot generation signer sealFn responderCertDer
    (env.clock world)).mapError fun error =>
      s!"bundle production failed for {ca.label}: {error.display}"
  return {
    label := ca.label
    bytes := bytes
    entryCount := snapshot.entries.size
    epoch := epoch }

def StatusSnapshot.revokedSerials (snapshot : StatusSnapshot) : List SerialBytes :=
  snapshot.entries.toList.filterMap fun entry =>
    match entry.2 with
    | .revoked _ _ => some entry.1
    | .good => none

omit [Sha2] [Ciborium] [Sha1] in
def revokedSerialsForScope (env : SigningEnvironment) (ca : SignerCa) (world : World) :
    Except String (List SerialBytes) := do
  let identity ← caIdentity env.os world.disk ca
  let source ← resolveSource env world.disk ca
  let snapshot ← (source.snapshot world.calls identity).mapError fun error =>
    s!"snapshot failed for {ca.label}: {error.display}"
  return snapshot.revokedSerials

end Signing

/-! ### Writing bundles -/

/-- A bundle file as it was put in place, with the disk it was signed on. -/
structure Publication where
  label : String
  bytes : Bytes
  disk : Disk

/-- The world of a signing process.  The list of publications is not part of the
program: it records every file that was put in place. -/
structure Desk where
  world : World
  published : List Publication

abbrev SignEffect := Fallible Desk String

def WasReplaced : Except CoreError Unit → Bool
  | .ok _ => true
  | .error (.durabilityUncertain _ _) => true
  | .error _ => false

def writeBundleAtomic (os : Os) (path : PathBuf) (label : String) (bytes : Bytes) :
    SignEffect Unit :=
  ExceptT.mk fun desk =>
    let run := (writeFile os path bytes).outcome desk.world
    let fresh : List Publication :=
      if WasReplaced run.1 then [{ label := label, bytes := bytes, disk := desk.world.disk }]
      else []
    (run.1.mapError fun error => s!"publish {path.display}: {error.display}",
      { world := run.2, published := desk.published ++ fresh })

def writeBundle (os : Os) (config : SignerConfig) (label : String) (bytes : Bytes) :
    SignEffect PathBuf := do
  let desk ← get
  let path ← liftM ((config.toConfig.bundleDestination os desk.world.disk label).mapError
    CoreError.display)
  writeBundleAtomic os path label bytes
  return path

def Desk.signed (desk : Desk) : Desk :=
  { desk with world := { desk.world with calls := desk.world.calls + 6 } }

section Passes

variable [Sha2] [Ciborium] [Sha1] [Pki] [X509Ocsp] [SourceFiles]

def signAndWriteScope (env : SigningEnvironment) (config : SignerConfig) (ca : SignerCa) :
    SignEffect SignedScope := do
  let desk ← get
  let source ← liftM (resolveSource env desk.world.disk ca)
  let signed ← liftM (signCaScope env config ca source desk.world)
  modify Desk.signed
  let _ ← writeBundle env.os config signed.label signed.bytes
  return signed

/-- Sections without a source are skipped, and the first error ends the pass. -/
def signAndWriteAll (env : SigningEnvironment) (config : SignerConfig) :
    SignEffect (List SignedScope) :=
  (config.ca.filter fun ca => ca.source.isSome).mapM (signAndWriteScope env config)

end Passes

end Hoike
