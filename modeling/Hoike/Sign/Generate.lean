/-
Signed responses for a whole source snapshot (`generate.rs`).

Every certificate of the snapshot that is not pruned gets one CertID per
enabled hash, and consecutive certificates share one signed response per
bucket.  The entry key is the digest of the encoded CertID.  Every reading of
the clock is a value of its own.
-/

import Hoike.Library.Chunks
import Hoike.Library.DerInteger
import Hoike.Ahu.Builder
import Hoike.Sign.Live
import Hoike.Sign.Source

namespace Hoike

open Ahu (BundleBuilder Manifest CaScope Completeness Window EntryRef minU64)
open Ocsp

inductive CertIdCompat where
  | sha256Only
  | sha1Only
  | dual
deriving DecidableEq, Repr

def CertIdCompat.parse (text : String) : Except String CertIdCompat :=
  if text = "dual" then .ok .dual
  else if text = "sha256" then .ok .sha256Only
  else if text = "sha1" then .ok .sha1Only
  else .error s!"unknown certid_compat '{text}' (expected: dual, sha256, sha1)"

structure GenerationConfig where
  producerId : String
  epoch : UInt64
  validitySecs : UInt64
  jitterSecs : UInt64
  certidCompat : CertIdCompat
  completeness : Completeness
  archiveCutoffSecs : UInt64
  bucketSize : Nat

def sha256Oid : ObjectIdentifier := "2.16.840.1.101.3.4.2.1"

def sha1Oid : ObjectIdentifier := "1.3.14.3.2.26"

def sha256OidBytes : Bytes := [0x60, 0x86, 0x48, 0x01, 0x65, 0x03, 0x04, 0x02, 0x01]

def sha1OidBytes : Bytes := [0x2b, 0x0e, 0x03, 0x02, 0x1a]

def SerialNumber.content (serial : SerialBytes) : Bytes :=
  Der.withSignOctet (Der.stripLeadingZeroes serial)

/-- `SerialNumber::new` of the `x509-cert` crate: at most 20 octets of content. -/
def SerialNumber.new (serial : SerialBytes) : Except String Bytes :=
  if 20 < (content serial).length then .error "ASN.1 DER message is too long"
  else .ok (content serial)

theorem SerialNumber.new_eq_ok {serial : SerialBytes} {content : Bytes} :
    SerialNumber.new serial = .ok content ↔
      Bytes.toNatBE serial < 2 ^ 159 ∧ content = SerialNumber.content serial := by
  have fits : (SerialNumber.content serial).length ≤ 20 ↔ _ :=
    Der.length_withSignOctet_le_iff (Der.stripped_stripLeadingZeroes serial)
      (show 0 < 20 by decide)
  rw [Der.toNatBE_stripLeadingZeroes] at fits
  unfold SerialNumber.new
  split_ifs with long
  · constructor
    · intro impossible
      cases impossible
    · rintro ⟨small, _⟩
      have short := fits.mpr (by omega)
      omega
  · have small := fits.mp (Nat.le_of_not_lt long)
    constructor
    · intro same
      cases same
      exact ⟨by omega, rfl⟩
    · rintro ⟨_, rfl⟩
      rfl

theorem SerialNumber.length_new {serial : SerialBytes} {content : Bytes}
    (made : SerialNumber.new serial = .ok content) : content.length ≤ 20 := by
  unfold SerialNumber.new at made
  split_ifs at made with long
  cases made
  exact Nat.le_of_not_lt long

theorem SerialNumber.integerValue_content (serial : SerialBytes) :
    Der.integerValue (SerialNumber.content serial) = Bytes.toNatBE serial := by
  unfold SerialNumber.content
  rw [Der.integerValue_withSignOctet, Der.toNatBE_stripLeadingZeroes]

theorem SerialNumber.content_eq_iff {left right : SerialBytes} :
    SerialNumber.content left = SerialNumber.content right ↔
      Der.stripLeadingZeroes left = Der.stripLeadingZeroes right :=
  ⟨Der.withSignOctet_injective (Der.stripped_stripLeadingZeroes _)
    (Der.stripped_stripLeadingZeroes _), congrArg Der.withSignOctet⟩

def nullDer : Bytes := [0x05, 0x00]

def buildCertid (hashOid : ObjectIdentifier) (nameHash keyHash serialNumber : Bytes) : CertId :=
  { hashAlgorithm := { oid := hashOid, parameters := some nullDer }
    issuerNameHash := nameHash
    issuerKeyHash := keyHash
    serialNumber := serialNumber }

/-- Both hashes of the issuer's name and key. -/
structure IssuerHashes where
  nameSha256 : Bytes
  keySha256 : Bytes
  nameSha1 : Bytes
  keySha1 : Bytes
deriving DecidableEq, Repr

def CertIdCompat.certIds (compat : CertIdCompat) (issuer : IssuerHashes) (serialNumber : Bytes) :
    List CertId :=
  let certIdSha256 := buildCertid sha256Oid issuer.nameSha256 issuer.keySha256 serialNumber
  let certIdSha1 := buildCertid sha1Oid issuer.nameSha1 issuer.keySha1 serialNumber
  match compat with
  | sha256Only => [certIdSha256]
  | sha1Only => [certIdSha1]
  | dual => [certIdSha256, certIdSha1]

def CertificateStatus.toCertStatus : CertificateStatus → Except SignError CertStatus
  | good => .ok .good
  | revoked revocationTime reason => do
      let revocationTime ← ocspTime revocationTime
      return .revoked { revocationTime := revocationTime, revocationReason := reason }

/-- A certificate known to have expired before the cutoff.  A cutoff of zero
prunes nothing, and neither does a missing expiry. -/
def StatusSnapshot.isPruned (snapshot : StatusSnapshot) (archiveCutoffSecs : UInt64)
    (serial : SerialBytes) : Bool :=
  0 < archiveCutoffSecs &&
    (snapshot.notAfter[serial]?).any fun notAfter =>
      saturatingAddU64 notAfter archiveCutoffSecs < snapshot.thisUpdate

structure PreparedEntry where
  entryKeys : List (Octets 32)
  singleResponses : List SingleResponse

/-! ### Filling a bundle -/

/-- Consecutive keys share the payload in pairs, a last odd one has its own. -/
def addSharedEntries (responseDer : Bytes) (discriminator : UInt16) :
    BundleBuilder → List (Octets 32) → BundleBuilder
  | builder, [] => builder
  | builder, [key] => builder.addEntryWithDiscriminator key discriminator responseDer
  | builder, first :: second :: rest =>
      addSharedEntries responseDer discriminator
        (builder.addDualEntryWithDiscriminator first second responseDer discriminator) rest

section Generation

variable [Sha2] [Sha1] [X509Ocsp]

def entryKeyJitter (serial : SerialBytes) (jitterSecs : UInt64) : UInt64 :=
  let frac := Bytes.toNatBE ((Sha2.sha256 serial).val.take 4)
  UInt64.ofNat (frac * jitterSecs.toNat / 4294967295)

def StatusSnapshot.entryNextUpdate (snapshot : StatusSnapshot) (config : GenerationConfig)
    (nextUpdateBase : UInt64) (serial : SerialBytes) : Except SignError UInt64 :=
  match snapshot.nextUpdate with
  | none => .error (.config "missing source expiry")
  | some sourceEnd =>
      .ok (minU64 (saturatingAddU64 nextUpdateBase (entryKeyJitter serial config.jitterSecs))
        sourceEnd)

def entryKey (certId : CertId) : Except SignError (Octets 32) := do
  let certidDer ← (X509Ocsp.certIdToDer certId).mapError .der
  return Sha2.sha256 certidDer

def prepareEntry (snapshot : StatusSnapshot) (config : GenerationConfig) (issuer : IssuerHashes)
    (thisUpdate : DateTime) (nextUpdateBase : UInt64)
    (entry : SerialBytes × CertificateStatus) : Except SignError PreparedEntry := do
  let (serial, status) := entry
  let certStatus ← status.toCertStatus
  let serialNumber ← (SerialNumber.new serial).mapError .der
  let nextUpdate ← ocspTime (← snapshot.entryNextUpdate config nextUpdateBase serial)
  let certIds := config.certidCompat.certIds issuer serialNumber
  let entryKeys ← certIds.mapM entryKey
  return {
    entryKeys := entryKeys
    singleResponses := certIds.map fun certId =>
      { certId := certId
        certStatus := certStatus
        thisUpdate := thisUpdate
        nextUpdate := some nextUpdate
        singleExtensions := none } }

def StatusSnapshot.kept (snapshot : StatusSnapshot) (config : GenerationConfig) :
    List (SerialBytes × CertificateStatus) :=
  snapshot.entries.toList.filter fun entry =>
    !snapshot.isPruned config.archiveCutoffSecs entry.1

def prepareEntries (snapshot : StatusSnapshot) (config : GenerationConfig)
    (issuer : IssuerHashes) (thisUpdate : DateTime) (nextUpdateBase : UInt64) :
    Except SignError (List PreparedEntry) :=
  (snapshot.kept config).mapM (prepareEntry snapshot config issuer thisUpdate nextUpdateBase)

/-- Who signs: the key, the responder's name for it and its certificate. -/
structure Responder where
  signer : Signer
  responderId : ResponderId
  certs : Option (List Certificate)

def signBucket (responder : Responder) (producedAt : DateTime) (bucket : List PreparedEntry) :
    Except SignError Bytes := do
  let builder := (bucket.flatMap PreparedEntry.singleResponses).foldl
    OcspResponseBuilder.withSingleResponse (OcspResponseBuilder.new responder.responderId)
  let ocspResponse ← (X509Ocsp.sign builder responder.signer responder.certs producedAt).mapError
    .ocspBuilder
  (X509Ocsp.responseToDer ocspResponse).mapError .der

def addBucket (responder : Responder) (producedAt : DateTime) (discriminator : UInt16)
    (builder : BundleBuilder) (bucket : List PreparedEntry) : Except SignError BundleBuilder := do
  let responseDer ← signBucket responder producedAt bucket
  return addSharedEntries responseDer discriminator builder
    (bucket.flatMap PreparedEntry.entryKeys)

def signAndAddEntries (builder : BundleBuilder) (prepared : List PreparedEntry)
    (bucketSize : Nat) (signer : Signer) (responderId : ResponderId)
    (responderCertDer : Option Bytes) (producedAt : DateTime) (discriminator : UInt16) :
    Except SignError BundleBuilder := do
  let certs ← certificateChain responderCertDer
  let responder : Responder :=
    { signer := signer
      responderId := responderId
      certs := certs }
  (Chunks.chunks (max bucketSize 1) prepared).foldlM
    (addBucket responder producedAt discriminator) builder

/-! ### Bundles -/

def CaIdentity.hashes (ca : CaIdentity) : IssuerHashes :=
  { nameSha256 := (Sha2.sha256 ca.issuerNameDer).val
    keySha256 := (Sha2.sha256 ca.issuerKeyBytes).val
    nameSha1 := (Sha1.sha1 ca.issuerNameDer).val
    keySha1 := (Sha1.sha1 ca.issuerKeyBytes).val }

def extractSpkiKeyHash (certDer : Bytes) : Except SignError Bytes := do
  let cert ← (X509Ocsp.certificateFromDer certDer).mapError fun error =>
    .keyLoad s!"parse responder cert for SPKI: {error}"
  return (Sha1.sha1 (X509Ocsp.rawPublicKey cert)).val

/-- The key hash of a delegated responder, or of the CA that signs itself. -/
def responderKeyHash (ca : CaIdentity) (responderCertDer : Option Bytes) :
    Except SignError Bytes :=
  match responderCertDer with
  | some certDer => extractSpkiKeyHash certDer
  | none => .ok (Sha1.sha1 ca.issuerKeyBytes).val

def generatedScope (config : GenerationConfig) (hashAlgorithm nameHash keyHash : Bytes)
    (responder : Bytes × Option Bytes) : CaScope :=
  { hashAlgorithm := hashAlgorithm
    issuerNameHash := nameHash
    issuerKeyHash := keyHash
    epoch := config.epoch
    responderId := { idType := .byKey, value := responder.1 }
    responderChain := responder.2.map fun cert => [cert]
    signatureAlgorithm := []
    completeness := config.completeness }

/-- A SHA-256 scope per responder, always, and a SHA-1 scope per responder when
there are SHA-1 CertIDs. -/
def generatedScopes (config : GenerationConfig) (issuer : IssuerHashes)
    (responders : List (Bytes × Option Bytes)) : List CaScope :=
  responders.map (generatedScope config sha256OidBytes issuer.nameSha256 issuer.keySha256) ++
    match config.certidCompat with
    | .dual | .sha1Only =>
        responders.map (generatedScope config sha1OidBytes issuer.nameSha1 issuer.keySha1)
    | .sha256Only => []

/-- `unix_now` gives a reading, or fails before 1970. -/
abbrev Clock := Nat → Except SignError UInt64

/-- What the first readings of the clock decide. -/
structure GenerationTimes where
  sourceEnd : UInt64
  nextUpdateBase : UInt64
  producedAt : DateTime

def generationTimes (snapshot : StatusSnapshot) (config : GenerationConfig) (clock : Clock) :
    Except SignError GenerationTimes := do
  let sourceEnd ← snapshot.validateAt (← clock 0)
  Except.require (snapshot.thisUpdate.toNat + config.validitySecs.toNat < 18446744073709551616)
    (.config "validity overflows")
  let nextUpdateBase := minU64 (snapshot.thisUpdate + config.validitySecs) sourceEnd
  let checkedAt ← clock 1
  Except.require (checkedAt < nextUpdateBase)
    (.config "generated response would already be expired")
  let producedAt ← ocspTime (← clock 2)
  return {
    sourceEnd := sourceEnd
    nextUpdateBase := nextUpdateBase
    producedAt := producedAt }

def generatedManifest (snapshot : StatusSnapshot) (config : GenerationConfig)
    (times : GenerationTimes) (caScopes : List CaScope) (createdAt producedAt : UInt64) :
    Manifest :=
  { formatVersion := 1
    bundleId := .filled 16 0
    producerId := config.producerId
    createdAt := createdAt
    bundleType := .full
    caScopes := caScopes
    window :=
      { producedAt := producedAt
        thisUpdateMin := snapshot.thisUpdate
        nextUpdateMin := times.nextUpdateBase
        nextUpdateMax :=
          minU64 (saturatingAddU64 times.nextUpdateBase config.jitterSecs) times.sourceEnd }
    integrity :=
      { indexDigest := .filled 32 0
        dataDigest := .filled 32 0 }
    entryCount := 0
    continuity :=
      { prevManifestDigest := none
        baseManifestDigest := none
        chainLength := 0 }
    shard := none
    compression := none
    extensions := none }

/-- An error of the sealing function passes through the builder as text. -/
def buildSealed [Ciborium] (builder : BundleBuilder)
    (sealFn : Bytes → Except SignError Bytes) : Except SignError Bytes :=
  (builder.build fun manifestBytes =>
    (sealFn manifestBytes).mapError fun error => .write error.display).mapError .bundle

def fillBundle (ca : CaIdentity) (snapshot : StatusSnapshot) (config : GenerationConfig)
    (signer : Signer) (responderCertDer : Option Bytes) (clock : Clock) :
    Except SignError BundleBuilder := do
  let times ← generationTimes snapshot config clock
  let keyHash ← responderKeyHash ca responderCertDer
  let caScopes := generatedScopes config ca.hashes [(keyHash, responderCertDer)]
  let createdAt ← clock 3
  let producedAt ← clock 4
  let builder := BundleBuilder.new
    (generatedManifest snapshot config times caScopes createdAt producedAt)
  let thisUpdate ← ocspTime snapshot.thisUpdate
  let prepared ← prepareEntries snapshot config ca.hashes thisUpdate times.nextUpdateBase
  signAndAddEntries builder prepared config.bucketSize signer (.byKey keyHash) responderCertDer
    times.producedAt 0

def produceBundle [Ciborium] (ca : CaIdentity) (snapshot : StatusSnapshot)
    (config : GenerationConfig) (signer : Signer) (sealFn : Bytes → Except SignError Bytes)
    (responderCertDer : Option Bytes) (clock : Clock) : Except SignError Bytes := do
  let builder ← fillBundle ca snapshot config signer responderCertDer clock
  buildSealed builder sealFn

def fillDualBundle (ca : CaIdentity) (snapshot : StatusSnapshot) (config : GenerationConfig)
    (signerClassical signerPq : Signer) (discPq : UInt16)
    (responderCertClassical responderCertPq : Option Bytes) (clock : Clock) :
    Except SignError BundleBuilder := do
  let times ← generationTimes snapshot config clock
  let keyHashClassical ← responderKeyHash ca responderCertClassical
  let keyHashPq ← responderKeyHash ca responderCertPq
  let caScopes := generatedScopes config ca.hashes
    [(keyHashClassical, responderCertClassical), (keyHashPq, responderCertPq)]
  let createdAt ← clock 3
  let producedAt ← clock 4
  let builder := BundleBuilder.new
    (generatedManifest snapshot config times caScopes createdAt producedAt)
  let thisUpdate ← ocspTime snapshot.thisUpdate
  let prepared ← prepareEntries snapshot config ca.hashes thisUpdate times.nextUpdateBase
  let builder ← signAndAddEntries builder prepared config.bucketSize signerClassical
    (.byKey keyHashClassical) responderCertClassical times.producedAt 0
  signAndAddEntries builder prepared config.bucketSize signerPq (.byKey keyHashPq)
    responderCertPq times.producedAt discPq

def produceDualBundle [Ciborium] (ca : CaIdentity) (snapshot : StatusSnapshot)
    (config : GenerationConfig) (signerClassical signerPq : Signer) (discPq : UInt16)
    (sealFn : Bytes → Except SignError Bytes)
    (responderCertClassical responderCertPq : Option Bytes) (clock : Clock) :
    Except SignError Bytes := do
  let builder ← fillDualBundle ca snapshot config signerClassical signerPq discPq
    responderCertClassical responderCertPq clock
  buildSealed builder sealFn

/-! ### What a prepared entry is made of -/

omit [Sha2] [Sha1] [X509Ocsp] in
theorem StatusSnapshot.mem_kept {snapshot : StatusSnapshot} {config : GenerationConfig}
    {serial : SerialBytes} {status : CertificateStatus} :
    (serial, status) ∈ snapshot.kept config ↔
      snapshot.entries[serial]? = some status ∧
        snapshot.isPruned config.archiveCutoffSecs serial = false := by
  unfold StatusSnapshot.kept
  rw [List.mem_filter, Std.ExtTreeMap.mem_toList_iff_getElem?_eq_some, Bool.not_eq_true']

omit [Sha2] [Sha1] [X509Ocsp] in
theorem CertIdCompat.serialNumber_of_mem {compat : CertIdCompat} {issuer : IssuerHashes}
    {serialNumber : Bytes} {certId : CertId}
    (member : certId ∈ compat.certIds issuer serialNumber) :
    certId.serialNumber = serialNumber := by
  cases compat with
  | sha256Only =>
      rw [List.mem_singleton.mp member]
      rfl
  | sha1Only =>
      rw [List.mem_singleton.mp member]
      rfl
  | dual =>
      rcases List.mem_pair.mp member with first | second
      · rw [first]
        rfl
      · rw [second]
        rfl

omit [Sha2] [Sha1] [X509Ocsp] in
theorem CertIdCompat.certIds_ne_nil (compat : CertIdCompat) (issuer : IssuerHashes)
    (serialNumber : Bytes) : compat.certIds issuer serialNumber ≠ [] := by
  cases compat <;> exact List.cons_ne_nil _ _

omit [Sha1] in
theorem prepareEntry_eq_ok {snapshot : StatusSnapshot} {config : GenerationConfig}
    {issuer : IssuerHashes} {thisUpdate : DateTime} {nextUpdateBase : UInt64}
    {entry : SerialBytes × CertificateStatus} {prepared : PreparedEntry} :
    prepareEntry snapshot config issuer thisUpdate nextUpdateBase entry = .ok prepared ↔
      ∃ certStatus serialNumber next nextUpdate,
        entry.2.toCertStatus = .ok certStatus ∧ SerialNumber.new entry.1 = .ok serialNumber ∧
        snapshot.entryNextUpdate config nextUpdateBase entry.1 = .ok next ∧
        ocspTime next = .ok nextUpdate ∧
        (config.certidCompat.certIds issuer serialNumber).mapM entryKey =
          .ok prepared.entryKeys ∧
        prepared.singleResponses =
          (config.certidCompat.certIds issuer serialNumber).map fun certId =>
            { certId := certId
              certStatus := certStatus
              thisUpdate := thisUpdate
              nextUpdate := some nextUpdate
              singleExtensions := none } := by
  constructor
  · intro made
    obtain ⟨certStatus, status, made⟩ := Except.bind_eq_ok.mp made
    obtain ⟨serialNumber, serial, made⟩ := Except.bind_eq_ok.mp made
    rw [Except.mapError_eq_ok] at serial
    obtain ⟨next, ending, made⟩ := Except.bind_eq_ok.mp made
    obtain ⟨nextUpdate, time, made⟩ := Except.bind_eq_ok.mp made
    obtain ⟨entryKeys, keys, same⟩ := Except.bind_eq_ok.mp made
    cases same
    exact ⟨certStatus, serialNumber, next, nextUpdate, status, serial, ending, time, keys, rfl⟩
  · rintro ⟨certStatus, serialNumber, next, nextUpdate, status, serial, ending, time, keys,
      singles⟩
    refine Except.bind_eq_ok.mpr ⟨certStatus, status, ?_⟩
    refine Except.bind_eq_ok.mpr ⟨serialNumber, Except.mapError_eq_ok.mpr serial, ?_⟩
    refine Except.bind_eq_ok.mpr ⟨next, ending, ?_⟩
    refine Except.bind_eq_ok.mpr ⟨nextUpdate, time, ?_⟩
    refine Except.bind_eq_ok.mpr ⟨prepared.entryKeys, keys, ?_⟩
    rw [← singles]
    rfl

end Generation

end Hoike
