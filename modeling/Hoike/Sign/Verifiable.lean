/-
Produced bundles under the verifier of the format.

Serials are compared as octets in the snapshot and as integers in CertIDs.  Two
serials that differ in leading zeros only lead to two records with one
reference, which `verifyStructure` refuses.
-/

import Hoike.Ahu.LongSeals
import Hoike.Ocsp.Crates
import Hoike.Sign.Production

namespace Hoike

open Ahu (BundleBuilder Manifest EntryRef SealsWith VerifiableFile)
open Ocsp

/-! ### Distinct keys -/

theorem nodup_iff_of_forall₂ {α β : Type} {related : α → β → Prop} {items : List α}
    {results : List β} (each : List.Forall₂ related items results)
    (functional : ∀ item result other, related item result → related item other →
      result = other)
    (injective : ∀ left ∈ items, ∀ right ∈ items, ∀ result, related left result →
      related right result → left = right) :
    results.Nodup ↔ items.Nodup := by
  induction each with
  | nil =>
      simp
  | @cons item result items results here rest ih =>
      have later := ih fun left inLeft right inRight =>
        injective left (List.mem_cons_of_mem _ inLeft) right (List.mem_cons_of_mem _ inRight)
      have fresh : result ∈ results ↔ item ∈ items := by
        constructor
        · intro member
          obtain ⟨other, among, same⟩ := rest.exists_left member
          rw [injective item List.mem_cons_self other (List.mem_cons_of_mem _ among) result here
            same]
          exact among
        · intro member
          obtain ⟨other, among, same⟩ := rest.exists_right member
          rw [functional item result other here same]
          exact among
      rw [List.nodup_cons, List.nodup_cons, later, fresh]

theorem nodup_referenceWith {discriminators : List UInt16} {keys : List (Octets 32)}
    (present : keys ≠ []) :
    (discriminators.flatMap fun discriminator =>
        keys.map (referenceWith discriminator)).Nodup ↔
      (discriminators ≠ [] → keys.Nodup) ∧ discriminators.Nodup := by
  have injective : ∀ discriminator, Function.Injective (referenceWith discriminator) :=
    fun discriminator left right same => congrArg EntryRef.entryKey same
  have apart : ∀ left right : UInt16,
      List.Disjoint (keys.map (referenceWith left)) (keys.map (referenceWith right)) ↔
        left ≠ right := by
    intro left right
    constructor
    · rintro disjoint rfl
      obtain ⟨key, member⟩ := List.exists_mem_of_ne_nil _ present
      exact disjoint (List.mem_map_of_mem member) (List.mem_map_of_mem member)
    · intro different reference inLeft inRight
      obtain ⟨_, _, rfl⟩ := List.mem_map.mp inLeft
      obtain ⟨_, _, same⟩ := List.mem_map.mp inRight
      exact different (congrArg EntryRef.discriminator same).symm
  rw [List.nodup_flatMap]
  refine and_congr ?_ ?_
  · simp only [List.nodup_map_iff (injective _)]
    constructor
    · intro each listed
      obtain ⟨discriminator, member⟩ := List.exists_mem_of_ne_nil _ listed
      exact each discriminator member
    · intro distinct discriminator member
      exact distinct (List.ne_nil_of_mem member)
  · exact List.Pairwise.iff fun left right => apart left right

theorem StatusSnapshot.nodup_kept (snapshot : StatusSnapshot) (config : GenerationConfig) :
    (snapshot.kept config).Nodup := by
  apply List.Nodup.filter
  apply List.Pairwise.imp _ Std.ExtTreeMap.distinct_keys_toList
  rintro left right different rfl
  exact different Std.ReflCmp.compare_self

def StatusSnapshot.SerialsDistinct (snapshot : StatusSnapshot) (config : GenerationConfig) :
    Prop :=
  ∀ left ∈ snapshot.kept config, ∀ right ∈ snapshot.kept config,
    Der.stripLeadingZeroes left.1 = Der.stripLeadingZeroes right.1 → left = right

def StatusSnapshot.certIds (snapshot : StatusSnapshot) (config : GenerationConfig)
    (issuer : IssuerHashes) : List CertId :=
  (snapshot.kept config).flatMap fun entry =>
    config.certidCompat.certIds issuer (SerialNumber.content entry.1)

theorem CertIdCompat.nodup_certIds (compat : CertIdCompat) (issuer : IssuerHashes)
    (serialNumber : Bytes) : (compat.certIds issuer serialNumber).Nodup := by
  cases compat with
  | sha256Only =>
      exact List.nodup_singleton _
  | sha1Only =>
      exact List.nodup_singleton _
  | dual =>
      apply List.nodup_cons.mpr
      refine ⟨?_, List.nodup_singleton _⟩
      intro member
      have oids := congrArg (fun certId => certId.hashAlgorithm.oid) (List.mem_singleton.mp member)
      exact absurd oids (by decide : sha256Oid ≠ sha1Oid)

theorem CertIdCompat.disjoint_certIds_iff (compat : CertIdCompat) (issuer : IssuerHashes)
    (left right : Bytes) :
    List.Disjoint (compat.certIds issuer left) (compat.certIds issuer right) ↔ left ≠ right := by
  constructor
  · rintro disjoint rfl
    obtain ⟨certId, member⟩ := List.exists_mem_of_ne_nil _ (compat.certIds_ne_nil issuer left)
    exact disjoint member member
  · intro different certId inLeft inRight
    exact different ((CertIdCompat.serialNumber_of_mem inLeft).symm.trans
      (CertIdCompat.serialNumber_of_mem inRight))

theorem StatusSnapshot.nodup_certIds_iff (snapshot : StatusSnapshot) (config : GenerationConfig)
    (issuer : IssuerHashes) :
    (snapshot.certIds config issuer).Nodup ↔ snapshot.SerialsDistinct config := by
  let content := fun entry : SerialBytes × CertificateStatus => SerialNumber.content entry.1
  have contents : (snapshot.certIds config issuer).Nodup ↔
      ((snapshot.kept config).map content).Nodup := by
    have mapped : ((snapshot.kept config).map content).Nodup ↔
        (snapshot.kept config).Pairwise fun left right => content left ≠ content right :=
      List.pairwise_map
    unfold StatusSnapshot.certIds
    rw [List.nodup_flatMap, mapped]
    constructor
    · intro both
      exact both.2.imp fun disjoint =>
        (config.certidCompat.disjoint_certIds_iff issuer _ _).mp disjoint
    · intro different
      refine ⟨fun _ _ => config.certidCompat.nodup_certIds issuer _, different.imp ?_⟩
      exact fun apart => (config.certidCompat.disjoint_certIds_iff issuer _ _).mpr apart
  rw [contents, List.nodup_map_iff_inj_on (snapshot.nodup_kept config)]
  simp only [content, SerialNumber.content_eq_iff]
  rfl

section Verifiable

variable [Sha2] [Sha1] [X509Ocsp]

def CertIdDerInjective : Prop :=
  ∀ left right der, X509Ocsp.certIdToDer left = .ok der → X509Ocsp.certIdToDer right = .ok der →
    left = right

/-- The `der` crate encodes responses of fewer than 2^32 octets. -/
def ResponsesFit : Prop :=
  ∀ response der, X509Ocsp.responseToDer response = .ok der → der.length < 2 ^ 32

def StatusSnapshot.certIdEncodings (snapshot : StatusSnapshot) (config : GenerationConfig)
    (issuer : IssuerHashes) : Set Bytes :=
  {der | ∃ certId ∈ snapshot.certIds config issuer, X509Ocsp.certIdToDer certId = .ok der}

/-- No digest that a production compares is shared by two inputs. -/
structure CollisionFree (snapshot : StatusSnapshot) (config : GenerationConfig) (ca : CaIdentity)
    (builder : BundleBuilder) : Prop where
  certIds : Set.InjOn Sha2.sha256 (snapshot.certIdEncodings config ca.hashes)
  payloads : Set.InjOn Sha2.sha256 builder.aliases

omit [Sha1] in
theorem entryKey_eq_ok {certId : CertId} {key : Octets 32} :
    entryKey certId = .ok key ↔
      ∃ der, X509Ocsp.certIdToDer certId = .ok der ∧ key = Sha2.sha256 der := by
  unfold entryKey
  rw [Except.bind_eq_ok]
  constructor
  · rintro ⟨der, encoded, same⟩
    rw [Except.mapError_eq_ok] at encoded
    exact ⟨der, encoded, (Except.ok.inj same).symm⟩
  · rintro ⟨der, encoded, rfl⟩
    exact ⟨der, Except.mapError_eq_ok.mpr encoded, rfl⟩

variable {production : Production} {ca : CaIdentity} {snapshot : StatusSnapshot}
  {config : GenerationConfig} {clock : Clock} {builder : BundleBuilder}

theorem Filling.keys (filling : Filling production ca snapshot config clock builder) :
    List.Forall₂ (fun certId key => entryKey certId = .ok key)
      (snapshot.certIds config ca.hashes)
      (filling.prepared.flatMap PreparedEntry.entryKeys) := by
  have prepared := Except.mapM_eq_ok.mp filling.preparedMade
  unfold StatusSnapshot.certIds
  generalize snapshot.kept config = kept at prepared ⊢
  generalize filling.prepared = entries at prepared ⊢
  induction prepared with
  | nil =>
      exact List.Forall₂.nil
  | cons made _ ih =>
      obtain ⟨_, serialNumber, _, _, _, number, _, _, keys, _⟩ := prepareEntry_eq_ok.mp made
      obtain ⟨_, rfl⟩ := SerialNumber.new_eq_ok.mp number
      rw [List.flatMap_cons, List.flatMap_cons]
      exact List.rel_append (Except.mapM_eq_ok.mp keys) ih

theorem Filling.nodup_keys_iff (filling : Filling production ca snapshot config clock builder)
    (injective : CertIdDerInjective)
    (collisionFree : Set.InjOn Sha2.sha256 (snapshot.certIdEncodings config ca.hashes)) :
    (filling.prepared.flatMap PreparedEntry.entryKeys).Nodup ↔
      snapshot.SerialsDistinct config := by
  rw [← snapshot.nodup_certIds_iff config ca.hashes]
  apply nodup_iff_of_forall₂ filling.keys
  · intro certId key other made same
    exact Except.ok.inj (made.symm.trans same)
  · intro left inLeft right inRight key madeLeft madeRight
    obtain ⟨leftDer, leftEncoded, rfl⟩ := entryKey_eq_ok.mp madeLeft
    obtain ⟨rightDer, rightEncoded, same⟩ := entryKey_eq_ok.mp madeRight
    have sameDer := collisionFree ⟨left, inLeft, leftEncoded⟩ ⟨right, inRight, rightEncoded⟩ same
    rw [← sameDer] at rightEncoded
    exact injective left right leftDer leftEncoded rightEncoded

theorem Filling.keys_eq_nil_iff (filling : Filling production ca snapshot config clock builder) :
    filling.prepared.flatMap PreparedEntry.entryKeys = [] ↔ snapshot.kept config = [] := by
  have same := filling.keys.length_eq
  constructor
  · intro none
    rw [none, List.length_nil, List.length_eq_zero_iff] at same
    cases shape : snapshot.kept config with
    | nil =>
        rfl
    | cons entry rest =>
        unfold StatusSnapshot.certIds at same
        rw [shape, List.flatMap_cons, List.append_eq_nil_iff] at same
        exact absurd same.1 (config.certidCompat.certIds_ne_nil _ _)
  · intro none
    unfold StatusSnapshot.certIds at same
    rw [none, List.flatMap_nil, List.length_nil] at same
    exact List.length_eq_zero_iff.mp same.symm

theorem Filling.entries_eq_nil_iff
    (filling : Filling production ca snapshot config clock builder) :
    builder.entries = [] ↔ snapshot.kept config = [] := by
  rw [← filling.keys_eq_nil_iff, ← List.map_eq_nil_iff, filling.references]
  cases production with
  | single signer responderCertDer =>
      simp [Production.discriminators]
  | dual signerClassical signerPq discPq responderCertClassical responderCertPq =>
      simp [Production.discriminators]

theorem Filling.distinct_iff (filling : Filling production ca snapshot config clock builder)
    (injective : CertIdDerInjective)
    (collisionFree : Set.InjOn Sha2.sha256 (snapshot.certIdEncodings config ca.hashes))
    (signs : snapshot.kept config ≠ []) :
    builder.Distinct ↔
      snapshot.SerialsDistinct config ∧ production.discriminators.Nodup := by
  have present : production.discriminators ≠ [] := by
    cases production <;> exact List.cons_ne_nil _ _
  have keys : filling.prepared.flatMap PreparedEntry.entryKeys ≠ [] :=
    fun none => signs (filling.keys_eq_nil_iff.mp none)
  unfold BundleBuilder.Distinct
  rw [filling.references, nodup_referenceWith keys, ← filling.nodup_keys_iff injective collisionFree]
  simp [present]

theorem Filling.storable (filling : Filling production ca snapshot config clock builder)
    (fit : ResponsesFit) (collisionFree : Set.InjOn Sha2.sha256 builder.aliases) :
    builder.Storable := by
  refine ⟨?_, collisionFree⟩
  intro entry member
  obtain ⟨_, _, _, _, bucket, _, made, _⟩ := filling.payload member
  obtain ⟨response, _, encoded⟩ := Except.bind_eq_ok.mp made
  exact fit response entry.2 (Except.mapError_eq_ok.mp encoded)

/-! ### Sealing functions of the two crates -/

omit [Sha2] [Sha1] [X509Ocsp] in
theorem boxedSeal_eq_ok {sealFn : Bytes → Except SignError Bytes} {manifestBytes sealBytes : Bytes} :
    boxedSeal sealFn manifestBytes = .ok sealBytes ↔ sealFn manifestBytes = .ok sealBytes :=
  Except.mapError_eq_ok

variable [Ciborium]

omit [Sha1] [X509Ocsp] in
theorem build_congr {sealFn other : Bytes → Except Ahu.AhuError Bytes}
    (same : ∀ manifestBytes sealBytes, sealFn manifestBytes = .ok sealBytes ↔
      other manifestBytes = .ok sealBytes) {out : Bytes} :
    builder.build sealFn = .ok out ↔ builder.build other = .ok out := by
  rw [BundleBuilder.build_eq_ok, BundleBuilder.build_eq_ok]
  simp only [same]

theorem Production.forall_produce_iff (length : Nat)
    (filled : production.fill ca snapshot config clock = .ok builder) (accepts : Bytes → Prop) :
    (∀ again sealFn out, production.fill ca snapshot config clock = .ok again →
        SealsWith length (boxedSeal sealFn) again.finalManifest.toCbor →
        production.produce ca snapshot config sealFn clock = .ok out → accepts out) ↔
      ∀ sealFn out, SealsWith length sealFn builder.finalManifest.toCbor →
        builder.build sealFn = .ok out → accepts out := by
  constructor
  · intro every other out seals built
    -- The same seals, reported with an error of the signing crate.
    let unboxed : Bytes → Except SignError Bytes := fun manifestBytes =>
      (other manifestBytes).mapError .bundle
    have same : ∀ manifestBytes sealBytes, boxedSeal unboxed manifestBytes = .ok sealBytes ↔
        other manifestBytes = .ok sealBytes := fun manifestBytes sealBytes =>
      boxedSeal_eq_ok.trans Except.mapError_eq_ok
    exact every builder unboxed out filled
      ⟨seals.manifestFits, fun sealBytes made => seals.sealLength sealBytes ((same _ _).mp made)⟩
      (Production.produce_eq_ok.mpr ⟨builder, filled, (build_congr same).mpr built⟩)
  · intro every again sealFn out filledAgain seals produced
    obtain ⟨own, filledOwn, built⟩ := Production.produce_eq_ok.mp produced
    rw [filled] at filledAgain filledOwn
    cases filledAgain
    cases filledOwn
    exact every _ out seals built

def Production.Verifies (production : Production) (ca : CaIdentity) (snapshot : StatusSnapshot)
    (config : GenerationConfig) (clock : Clock) (length : Nat) : Prop :=
  ∀ builder sealFn out, production.fill ca snapshot config clock = .ok builder →
    SealsWith length (boxedSeal sealFn) builder.finalManifest.toCbor →
      production.produce ca snapshot config sealFn clock = .ok out → VerifiableFile out

/-- For a production and a seal length with which it succeeds at all: every
result verifies exactly when there is nothing to sign, or the length fits the
header, no two serials are equal up to leading zeros and the signers have
different discriminators. -/
theorem production_verifies_iff {length : Nat}
    (readsBack : ∀ manifest : Manifest, manifest.extensions = none →
      manifest.toCbor.length < 2 ^ 32 → manifest.ReadsBack)
    (injective : CertIdDerInjective) (fit : ResponsesFit)
    (filled : production.fill ca snapshot config clock = .ok builder)
    (collisionFree : CollisionFree snapshot config ca builder)
    (accepted : ∃ sealFn out, SealsWith length (boxedSeal sealFn) builder.finalManifest.toCbor ∧
      production.produce ca snapshot config sealFn clock = .ok out) :
    production.Verifies ca snapshot config clock length ↔
      snapshot.kept config = [] ∨
        (length < 2 ^ 32 ∧ snapshot.SerialsDistinct config ∧
          production.discriminators.Nodup) := by
  obtain ⟨sealFn, out, seals, produced⟩ := accepted
  obtain ⟨again, filledAgain, built⟩ := Production.produce_eq_ok.mp produced
  cases filled.symm.trans filledAgain
  obtain ⟨filling⟩ := Production.filling filled
  obtain ⟨certIds, payloads⟩ := collisionFree
  have storable := filling.storable fit payloads
  have reads : builder.finalManifest.toCbor.length < 2 ^ 32 → builder.finalManifest.ReadsBack :=
    readsBack _ (congrArg Manifest.extensions filling.manifest)
  have based : builder.manifest.bundleType = .delta →
      builder.manifest.continuity.baseManifestDigest.isSome := by
    rw [filling.manifest]
    intro impossible
    cases impossible
  have file := storable.verifiable_iff based reads ⟨boxedSeal sealFn, out, seals, built⟩
  have verifies : production.Verifies ca snapshot config clock length ↔
      ∀ sealFn out, SealsWith length sealFn builder.finalManifest.toCbor →
        builder.build sealFn = .ok out → VerifiableFile out :=
    Production.forall_produce_iff length filled VerifiableFile
  rw [verifies, file, filling.entries_eq_nil_iff]
  by_cases nothing : snapshot.kept config = []
  · simp [nothing]
  · rw [filling.distinct_iff injective certIds nothing]

end Verifiable

/-! ### Two certificates -/

section Samples

local instance verifiableSha2 : Sha2 := Crates.sha2
local instance verifiableSha1 : Sha1 := Crates.sha1
local instance verifiableCiborium : Ciborium := Crates.ciborium

def producedCa : CaIdentity :=
  { label := "ca"
    issuerNameDer := [0x30, 0x00]
    issuerKeyBytes := [0x01] }

def producedSnapshot (serials : List SerialBytes) : StatusSnapshot :=
  { entries := Std.ExtTreeMap.ofList (serials.map fun serial => (serial, CertificateStatus.good))
    thisUpdate := 1000
    nextUpdate := some 100000
    notAfter := ∅ }

def producedConfig : GenerationConfig :=
  { producerId := "hoike-signer"
    epoch := 1
    validitySecs := 86400
    jitterSecs := 0
    certidCompat := .sha256Only
    completeness := .partialScope
    archiveCutoffSecs := 0
    bucketSize := 2 }

def producedClock : Clock :=
  fun _ => .ok 2000

def producedSigner : Signer :=
  { algorithm := .ok { oid := "1.2.840.10045.4.3.2", parameters := none }
    trySign := fun _ => .ok [0x30, 0x00] }

def producedCertId (serialNumber : Bytes) : CertId :=
  buildCertid sha256Oid producedCa.hashes.nameSha256 producedCa.hashes.keySha256 serialNumber

local instance verifiableX509Ocsp : X509Ocsp :=
  Crates.x509OcspFor [producedCertId [1], producedCertId [2]]

def emptySeal (manifestBytes : Bytes) : Except SignError Bytes :=
  if manifestBytes.length < 2 ^ 32 then .ok [] else .error (.sealing "manifest too large")

def producedBy (serials : List SerialBytes) : Except SignError Bytes :=
  (Production.single producedSigner none).produce producedCa (producedSnapshot serials)
    producedConfig emptySeal producedClock

theorem certIdDerInjective_produced : CertIdDerInjective := by
  intro left right der encodedLeft encodedRight
  have distinct : ∀ left ∈ [producedCertId [1], producedCertId [2]],
      ∀ right ∈ [producedCertId [1], producedCertId [2]],
        Crates.certIdDer left = Crates.certIdDer right → left = right := by
    decide +kernel
  have decodedLeft := Crates.decodeListed_encodeListed distinct encodedLeft
  have decodedRight := Crates.decodeListed_encodeListed distinct encodedRight
  exact Except.ok.inj (decodedLeft.symm.trans decodedRight)

theorem responsesFit_produced : ResponsesFit := by
  intro response der encoded
  change (if _ then _ else _) = _ at encoded
  split_ifs at encoded with fits
  cases encoded
  exact fits

theorem collisionFree_produced {builder : BundleBuilder}
    (filled : (Production.single producedSigner none).fill producedCa (producedSnapshot [[1], [2]])
      producedConfig producedClock = .ok builder) :
    CollisionFree (producedSnapshot [[1], [2]]) producedConfig producedCa builder := by
  constructor
  · have distinct : ∀ left ∈ (producedSnapshot [[1], [2]]).certIds producedConfig
        producedCa.hashes, ∀ right ∈ (producedSnapshot [[1], [2]]).certIds producedConfig
          producedCa.hashes, Sha2.sha256 (Crates.certIdDer left) =
            Sha2.sha256 (Crates.certIdDer right) →
              Crates.certIdDer left = Crates.certIdDer right := by
      decide +kernel
    rintro leftDer ⟨left, inLeft, encodedLeft⟩ rightDer ⟨right, inRight, encodedRight⟩ same
    obtain ⟨_, rfl⟩ := Crates.encodeListed_eq_ok.mp encodedLeft
    obtain ⟨_, rfl⟩ := Crates.encodeListed_eq_ok.mp encodedRight
    exact distinct left inLeft right inRight same
  · have one : ((Production.single producedSigner none).fill producedCa
        (producedSnapshot [[1], [2]]) producedConfig producedClock).toOption.map (fun builder =>
          decide (∀ left ∈ builder.entries, ∀ right ∈ builder.entries, left.2 = right.2)) =
            some true := by
      decide +kernel
    rw [filled] at one
    have same := of_decide_eq_true (Option.some.inj one)
    rintro _ ⟨left, inLeft, _, rfl⟩ _ ⟨right, inRight, _, rfl⟩ _
    exact same left inLeft right inRight

theorem sealsWith_emptySeal {builder : BundleBuilder} {out : Bytes}
    (built : builder.build (boxedSeal emptySeal) = .ok out) :
    SealsWith 0 (boxedSeal emptySeal) builder.finalManifest.toCbor := by
  obtain ⟨_, made, _⟩ := BundleBuilder.build_eq_ok.mp built
  rw [boxedSeal_eq_ok, emptySeal] at made
  split_ifs at made with fits
  refine ⟨fits, ?_⟩
  intro sealBytes again
  rw [boxedSeal_eq_ok, emptySeal, if_pos fits] at again
  cases again
  rfl

theorem two_serials_verify :
    ∃ out, producedBy [[1], [2]] = .ok out ∧ VerifiableFile out := by
  obtain ⟨out, produced⟩ := Except.exists_of_isOk
    (show (producedBy [[1], [2]]).isOk = true by decide +kernel)
  obtain ⟨builder, filled, built⟩ := Production.produce_eq_ok.mp produced
  have readsBack : ∀ manifest : Manifest, manifest.extensions = none →
      manifest.toCbor.length < 2 ^ 32 → manifest.ReadsBack :=
    fun manifest plain short => Crates.readsBack plain (Nat.lt_trans short (by decide))
  have distinct : (producedSnapshot [[1], [2]]).SerialsDistinct producedConfig := by
    unfold StatusSnapshot.SerialsDistinct
    decide +kernel
  have verifies := (production_verifies_iff readsBack certIdDerInjective_produced
    responsesFit_produced filled (collisionFree_produced filled)
    ⟨emptySeal, out, sealsWith_emptySeal built, produced⟩).mpr
      (Or.inr ⟨by decide, distinct, by decide⟩)
  exact ⟨out, produced,
    verifies builder emptySeal out filled (sealsWith_emptySeal built) produced⟩

/-- The serials 1 and 0, 1 are produced into a file that does not verify. -/
theorem padded_serial_refused :
    ∃ out bundle, producedBy [[1], [0, 1]] = .ok out ∧ Ahu.Bundle.fromBytes out = .ok bundle ∧
      (Ahu.verifyStructure bundle).isOk = false := by
  have run : ((producedBy [[1], [0, 1]]).toOption.bind fun out =>
      (Ahu.Bundle.fromBytes out).toOption.map fun bundle =>
        (Ahu.verifyStructure bundle).isOk) = some false := by
    decide +kernel
  obtain ⟨out, produced, parsed⟩ := Option.bind_eq_some_iff.mp run
  obtain ⟨bundle, read, refused⟩ := Option.map_eq_some_iff.mp parsed
  exact ⟨out, bundle, Except.toOption_eq_some.mp produced, Except.toOption_eq_some.mp read,
    refused⟩

end Samples

end Hoike
