/-
Which bundles a responder admits (`admission.rs`).

Admission is read-only: it looks at the bundle, the configured trust material
on disk and one instant.  Freshness and rollback are decided elsewhere.
-/

import Hoike.Core.Config

namespace Hoike

open Ahu

inductive AdmissionTrust where
  | authenticated (signerSha256 : String)
  | unauthenticatedDemo
deriving DecidableEq, Repr

def pemPreamble : Bytes :=
  "-----BEGIN".toList.map fun character => UInt8.ofNat character.toNat

variable [Sha2] [Ciborium] [Pki] (os : Os) (disk : Disk)

omit [Sha2] [Ciborium] in
def readCert (path : PathBuf) : Except CoreError Bytes := do
  let bytes ← (os.read disk path).mapError fun error =>
    CoreError.config s!"cannot read seal trust anchor {path.display}: {error.display}"
  let decoded := if pemPreamble.isPrefixOf bytes then Pki.certificateFromPem bytes
    else Pki.certificateFromDer bytes
  let cert ← decoded.mapError fun text =>
    CoreError.config s!"invalid seal trust anchor {path.display}: {text}"
  cert.der.mapError CoreError.config

omit [Sha2] [Ciborium] in
def readCerts (paths : List PathBuf) : Except CoreError (List Bytes) :=
  paths.mapM (readCert os disk)

def eqIgnoreAsciiCase (left right : String) : Bool :=
  left.toList.map Char.toLower = right.toList.map Char.toLower

def SealAuthorization.covers (authorization : SealAuthorization) (producerId : String)
    (scope : CaScope) (signerSha256 : String) : Bool :=
  authorization.producerId = producerId ∧
    eqIgnoreAsciiCase authorization.issuerKeyHash (Bytes.encodeHex scope.issuerKeyHash) ∧
    eqIgnoreAsciiCase authorization.signerSha256 signerSha256

/-- Pins are tried first; anchors decide when no pin matches. -/
def verifySealTrust (manifestBytes sealBytes : Bytes) (storage : StorageConfig)
    (anchors pins : List Bytes) (now : UInt64) : Except AhuError SealVerification :=
  let withAnchors := verifySealWithAnchors manifestBytes sealBytes anchors now
  if storage.sealSignerPins = [] then withAnchors
  else
    match verifySealWithPins manifestBytes sealBytes pins now with
    | .ok verification => .ok verification
    | .error pinError =>
        if storage.sealTrustAnchors.getD [] = [] then .error pinError else withAnchors

def authenticateBundle (bundle : Bundle) (storage : StorageConfig) (now : UInt64) :
    Except CoreError SealVerification := do
  let _ ← (verifyStructure bundle).mapError CoreError.bundle
  Except.require (storage.sealTrustAnchors.getD [] ≠ [] ∨ storage.sealSignerPins ≠ [])
    (.config (if storage.sealAuthorizations = [] then
        "bundle authentication requires seal_signer_pins or seal_trust_anchors"
      else "seal_authorizations requires trust anchors or explicit signer pins"))
  Except.require (bundle.sealBytes ≠ [])
    (.config "seal trust configured but bundle has no seal")
  let anchors ← readCerts os disk (storage.sealTrustAnchors.getD [])
  let pins ← readCerts os disk storage.sealSignerPins
  let verification ←
    (verifySealTrust bundle.manifestBytes bundle.sealBytes storage anchors pins now).mapError
      fun error => CoreError.config s!"seal verification failed: {error.display}"
  Except.require (storage.sealAuthorizations = [] ∨
      ∀ scope ∈ bundle.manifest.caScopes, storage.sealAuthorizations.any fun authorization =>
        authorization.covers bundle.manifest.producerId scope verification.signerSha256)
    (.config "seal signer is not authorized for producer/CA scope")
  return verification

omit [Sha2] [Ciborium] [Pki] in
def validateServingProfile (bundle : Bundle) : Except CoreError Unit := do
  let reject := fun reason => CoreError.config s!"unsupported serving profile: {reason}"
  Except.require (bundle.manifest.bundleType = .full)
    (reject "delta bundle; materialize it into a full bundle before serving")
  Except.require (bundle.manifest.compression.all fun compression =>
      compression.algorithm = .none)
    (reject "compressed bundle; serve an uncompressed bundle instead")
  Except.require (bundle.manifest.compression.all fun compression =>
      compression.dictionaryDigest.isNone)
    (reject "compression dictionary; serve an uncompressed bundle instead")
  Except.require (bundle.index.all fun record => !record.isTombstone)
    (reject "tombstone in a full bundle; tombstones only apply to deltas")
  Except.require (bundle.manifest.continuity.baseManifestDigest.isNone)
    (reject "full bundle naming a base manifest")
  Except.require (bundle.manifest.continuity.chainLength = 0)
    (reject "full bundle with nonzero chain_length")

def StorageConfig.isDemo (storage : StorageConfig) : Bool :=
  storage.allowUnauthenticatedBundles ∧ storage.sealSignerPins = [] ∧
    storage.sealTrustAnchors.getD [] = [] ∧ storage.sealAuthorizations = []

def admitBundle (bundle : Bundle) (storage : StorageConfig) (now : UInt64) :
    Except CoreError AdmissionTrust := do
  validateServingProfile bundle
  if storage.isDemo then
    let _ ← (verifyStructure bundle).mapError CoreError.bundle
    return .unauthenticatedDemo
  else
    let verification ← authenticateBundle os disk bundle storage now
    return .authenticated verification.signerSha256

theorem verified_of_admitBundle {bundle : Bundle} {storage : StorageConfig} {now : UInt64}
    {trust : AdmissionTrust} (admitted : admitBundle os disk bundle storage now = .ok trust) :
    ∃ report, verifyStructure bundle = .ok report := by
  unfold admitBundle at admitted
  obtain ⟨_, _, admitted⟩ := Except.bind_eq_ok.mp admitted
  split_ifs at admitted with demo
  · obtain ⟨report, verified, _⟩ := Except.bind_eq_ok.mp admitted
    exact ⟨report, Except.mapError_eq_ok.mp verified⟩
  · obtain ⟨_, authenticated, _⟩ := Except.bind_eq_ok.mp admitted
    unfold authenticateBundle at authenticated
    obtain ⟨report, verified, _⟩ := Except.bind_eq_ok.mp authenticated
    exact ⟨report, Except.mapError_eq_ok.mp verified⟩

/-! ### Independence of the file layout -/

theorem authenticateBundle_with_header (bundle : Bundle) (header : FileHeader)
    (storage : StorageConfig) (now : UInt64) :
    authenticateBundle os disk { bundle with header := header } storage now =
      authenticateBundle os disk bundle storage now := by
  unfold authenticateBundle
  rw [verifyStructure_with_header]

theorem admitBundle_with_header (bundle : Bundle) (header : FileHeader)
    (storage : StorageConfig) (now : UInt64) :
    admitBundle os disk { bundle with header := header } storage now =
      admitBundle os disk bundle storage now := by
  unfold admitBundle
  rw [authenticateBundle_with_header, verifyStructure_with_header]
  rfl

end Hoike
