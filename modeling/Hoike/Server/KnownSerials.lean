/-
Requests for certificates that the source knows.

Under a label that is configured as complete, a nonce request whose CertID has
no entry is answered with a signed "unknown".  Entries are keyed by whole
CertIDs, so a known certificate has none when it was pruned, when the hash of
the request is routed but not produced, or when the request leaves out the
parameters of its hash algorithm.
-/

import Hoike.Server.SignedUnknown
import Hoike.Sign.Agreement

namespace Hoike

open Ahu
open Ocsp

/-! ### CertIDs of one certificate -/

/-- The hash of issuer name and key in a CertID. -/
inductive IssuerHash where
  | sha256
  | sha1
deriving DecidableEq, Repr

def namedCertId (hash : IssuerHash) (parameters : Option Bytes) (issuer : IssuerHashes)
    (serial : SerialBytes) : CertId :=
  match hash with
  | .sha256 =>
      { hashAlgorithm := { oid := sha256Oid, parameters := parameters }
        issuerNameHash := issuer.nameSha256
        issuerKeyHash := issuer.keySha256
        serialNumber := SerialNumber.content serial }
  | .sha1 =>
      { hashAlgorithm := { oid := sha1Oid, parameters := parameters }
        issuerNameHash := issuer.nameSha1
        issuerKeyHash := issuer.keySha1
        serialNumber := SerialNumber.content serial }

def CertIdCompat.Produces : CertIdCompat → IssuerHash → Prop
  | sha256Only, hash => hash = .sha256
  | sha1Only, hash => hash = .sha1
  | dual, _ => True

def CertIdCompat.Routes : CertIdCompat → IssuerHash → Prop
  | sha256Only, hash => hash = .sha256
  | sha1Only, _ => True
  | dual, _ => True

theorem CertIdCompat.Produces.routes {compat : CertIdCompat} {hash : IssuerHash}
    (produces : compat.Produces hash) : compat.Routes hash := by
  cases compat with
  | sha256Only => exact produces
  | sha1Only => trivial
  | dual => trivial

theorem namedCertId_mem_certIds {compat : CertIdCompat} {hash : IssuerHash}
    {parameters : Option Bytes} {issuer : IssuerHashes} {serial : SerialBytes}
    {serialNumber : Bytes} :
    namedCertId hash parameters issuer serial ∈ compat.certIds issuer serialNumber ↔
      compat.Produces hash ∧ parameters = some nullDer ∧
        SerialNumber.content serial = serialNumber := by
  have oids : sha256Oid ≠ sha1Oid := by decide
  cases compat <;> cases hash <;>
    simp [CertIdCompat.certIds, CertIdCompat.Produces, namedCertId, buildCertid, oids, oids.symm]

section Registration

variable [Sha2] [Sha1]

theorem keySha1_ne_keySha256 (ca : CaIdentity) : ca.hashes.keySha1 ≠ ca.hashes.keySha256 := by
  intro same
  have lengths := congrArg List.length same
  change (Sha1.sha1 ca.issuerKeyBytes).val.length = (Sha2.sha256 ca.issuerKeyBytes).val.length
    at lengths
  rw [(Sha1.sha1 ca.issuerKeyBytes).2, (Sha2.sha256 ca.issuerKeyBytes).2] at lengths
  cases lengths

theorem exists_generatedScope_iff {config : GenerationConfig} {ca : CaIdentity}
    {responders : List (Bytes × Option Bytes)} (responded : responders ≠ []) {hash : IssuerHash}
    {parameters : Option Bytes} {serial : SerialBytes} :
    (∃ scope ∈ generatedScopes config ca.hashes responders, scope.scopeKey =
        ((namedCertId hash parameters ca.hashes serial).issuerNameHash,
          (namedCertId hash parameters ca.hashes serial).issuerKeyHash)) ↔
      config.certidCompat.Routes hash := by
  obtain ⟨responder, listed⟩ := List.exists_mem_of_ne_nil _ responded
  unfold generatedScopes
  cases hash with
  | sha256 =>
      have always : config.certidCompat.Routes .sha256 := by
        cases config.certidCompat with
        | sha256Only => rfl
        | sha1Only => trivial
        | dual => trivial
      exact ⟨fun _ => always,
        fun _ => ⟨_, List.mem_append_left _ (List.mem_map_of_mem listed), rfl⟩⟩
  | sha1 =>
      have unlike : ∀ scope ∈ responders.map (generatedScope config sha256OidBytes
          ca.hashes.nameSha256 ca.hashes.keySha256), scope.scopeKey ≠
            (ca.hashes.nameSha1, ca.hashes.keySha1) := by
        intro scope member same
        obtain ⟨_, _, rfl⟩ := List.mem_map.mp member
        exact keySha1_ne_keySha256 ca (congrArg Prod.snd same).symm
      cases config.certidCompat with
      | sha256Only =>
          constructor
          · rintro ⟨scope, member, same⟩
            rw [List.append_nil] at member
            exact absurd same (unlike scope member)
          · intro impossible
            cases impossible
      | sha1Only =>
          exact ⟨fun _ => trivial,
            fun _ => ⟨_, List.mem_append_right _ (List.mem_map_of_mem listed), rfl⟩⟩
      | dual =>
          exact ⟨fun _ => trivial,
            fun _ => ⟨_, List.mem_append_right _ (List.mem_map_of_mem listed), rfl⟩⟩

end Registration

/-! ### Selecting a payload -/

theorem Ahu.Bundle.record_of_select {bundle : Bundle} {asked : ParsedCertId}
    {preferredAlgs : List UInt16} {payload : Bytes}
    (selected : bundle.select asked preferredAlgs = some payload) :
    ∃ record ∈ bundle.index, bundle.entryBytes record = some payload := by
  have located : ∃ position, bundle.entryAt position = some payload := by
    unfold Bundle.select at selected
    split_ifs at selected
    · obtain ⟨position, _, found⟩ := Option.bind_eq_some_iff.mp selected
      exact ⟨position, found⟩
    · obtain ⟨position, _, found⟩ := Option.bind_eq_some_iff.mp selected
      exact ⟨position, found⟩
  obtain ⟨position, found⟩ := located
  obtain ⟨record, present, bytes⟩ := Option.bind_eq_some_iff.mp found
  exact ⟨record, List.mem_of_getElem? present, bytes⟩

/-- Where every record has its payload, a record under the default
discriminator is enough whatever the client prefers. -/
theorem Ahu.Bundle.exists_select {bundle : Bundle} (ascending : Ascending bundle.index)
    (live : ∀ record ∈ bundle.index, ∃ payload, bundle.entryBytes record = some payload)
    {asked : ParsedCertId} {record : IndexRecord} (listed : record ∈ bundle.index)
    (reference : record.reference = referenceWith algDiscDefault asked.entryKey)
    (preferredAlgs : List UInt16) :
    ∃ payload, bundle.select asked preferredAlgs = some payload := by
  have served : ∀ discriminator position,
      binarySearchWithDiscriminator bundle.index asked.entryKey discriminator = some position →
        ∃ payload, bundle.entryAt position = some payload := by
    intro discriminator position search
    change binarySearchWithDiscriminator _ (referenceWith discriminator asked.entryKey).entryKey
      (referenceWith discriminator asked.entryKey).discriminator = _ at search
    obtain ⟨found, present, _⟩ := (binarySearchWithDiscriminator_eq_some_iff ascending).mp search
    obtain ⟨payload, bytes⟩ := live found (List.mem_of_getElem? present)
    refine ⟨payload, ?_⟩
    unfold Bundle.entryAt
    rw [present]
    exact bytes
  obtain ⟨default, present⟩ := List.getElem?_of_mem listed
  have search : binarySearchWithDiscriminator bundle.index asked.entryKey algDiscDefault =
      some default := by
    change binarySearchWithDiscriminator _ (referenceWith algDiscDefault asked.entryKey).entryKey
      (referenceWith algDiscDefault asked.entryKey).discriminator = _
    exact (binarySearchWithDiscriminator_eq_some_iff ascending).mpr ⟨record, present, reference⟩
  unfold Bundle.select
  split_ifs
  · obtain ⟨payload, found⟩ := served _ _ search
    exact ⟨payload, Option.bind_eq_some_iff.mpr ⟨default, search, found⟩⟩
  · unfold Bundle.lookupPreferred binarySearchPreferred
    cases preferred : preferredAlgs.findSome?
        (binarySearchWithDiscriminator bundle.index asked.entryKey) with
    | some position =>
        obtain ⟨discriminator, _, here⟩ := List.exists_of_findSome?_eq_some preferred
        exact served discriminator position here
    | none =>
        have unlisted : algDiscDefault ∉ preferredAlgs := by
          intro member
          have missed := List.findSome?_eq_none_iff.mp preferred algDiscDefault member
          rw [search] at missed
          cases missed
        dsimp only
        rw [if_neg unlisted, search]
        exact served algDiscDefault default search

section Known

variable [Sha2] [Sha1] [X509Ocsp]

/-- An encoded response is read back as it was written or not at all. -/
def ResponsesUnambiguous : Prop :=
  ∀ basic other der body, X509Ocsp.basicToDer basic = .ok der →
    X509Ocsp.responseToDer
        { responseStatus := .successful
          responseBytes := some { responseType := idPkixOcspBasic, response := der } } =
      .ok body → parseBasic body = .ok other → other = basic

/-- The request is answered with a signature over "unknown": for want of an
entry, or live from a payload. -/
def Answer.SignsUnknown (answer : Answer) : Prop :=
  answer.status = .unknown ∨
    answer.status = .live ∧ ∃ body basic reply, answer.response = .live body ∧
      parseBasic body = .ok basic ∧ reply ∈ basic.tbsResponseData.responses ∧
      reply.certStatus = .unknown

variable {production : Production} {ca : CaIdentity} {snapshot : StatusSnapshot}
  {config : GenerationConfig} {clock : Clock} {builder : BundleBuilder}

omit [Sha2] [Sha1] [X509Ocsp] in
theorem CertificateStatus.toCertStatus_ne_unknown {status : CertificateStatus}
    {certStatus : CertStatus} (made : status.toCertStatus = .ok certStatus) :
    certStatus ≠ .unknown := by
  rintro rfl
  cases status with
  | good =>
      cases made
  | revoked revocationTime reason =>
      obtain ⟨_, _, same⟩ := Except.bind_eq_ok.mp made
      cases same

theorem Filling.payload_not_unknown (filling : Filling production ca snapshot config clock builder)
    (codec : ResponsesUnambiguous) {entry : IndexRecord × Bytes}
    (stored : entry ∈ builder.entries) {basic : BasicOcspResponse}
    (parsed : parseBasic entry.2 = .ok basic) {single : SingleResponse}
    (answers : single ∈ basic.tbsResponseData.responses) : single.certStatus ≠ .unknown := by
  obtain ⟨_, _, _, _, bucket, inside, signed, _⟩ := filling.payload stored
  obtain ⟨written, der, inner, outer, responses⟩ := encoded_of_signBucket signed
  rw [codec written basic der entry.2 inner outer parsed, responses] at answers
  have part := (filling.mem_of_bucket inside).flatMap PreparedEntry.singleResponses
  obtain ⟨_, _, _, status⟩ := (filling.describes (part.subset answers)).origin
  exact CertificateStatus.toCertStatus_ne_unknown status

theorem Filling.mem_keys_iff (filling : Filling production ca snapshot config clock builder)
    (injective : CertIdDerInjective) {certId : CertId} {der : Bytes}
    (encoded : X509Ocsp.certIdToDer certId = .ok der)
    (apart : ∀ other ∈ snapshot.certIdEncodings config ca.hashes,
      Sha2.sha256 other = Sha2.sha256 der → other = der) :
    Sha2.sha256 der ∈ filling.prepared.flatMap PreparedEntry.entryKeys ↔
      certId ∈ snapshot.certIds config ca.hashes := by
  constructor
  · intro among
    obtain ⟨own, listed, keyed⟩ := filling.keys.exists_left among
    obtain ⟨ownDer, ownEncoded, same⟩ := entryKey_eq_ok.mp keyed
    have sameDer := apart ownDer ⟨own, listed, ownEncoded⟩ same.symm
    rw [sameDer] at ownEncoded
    rw [injective certId own der encoded ownEncoded]
    exact listed
  · intro listed
    obtain ⟨key, among, keyed⟩ := filling.keys.exists_right listed
    obtain ⟨ownDer, ownEncoded, rfl⟩ := entryKey_eq_ok.mp keyed
    rw [encoded] at ownEncoded
    rw [Except.ok.inj ownEncoded]
    exact among

def StatusSnapshot.Keeps (snapshot : StatusSnapshot) (config : GenerationConfig)
    (serial : SerialBytes) : Prop :=
  ∃ entry ∈ snapshot.kept config, SerialNumber.content entry.1 = SerialNumber.content serial

omit [X509Ocsp] in
theorem namedCertId_mem_snapshot {hash : IssuerHash} {parameters : Option Bytes}
    {serial : SerialBytes} :
    namedCertId hash parameters ca.hashes serial ∈ snapshot.certIds config ca.hashes ↔
      config.certidCompat.Produces hash ∧ parameters = some nullDer ∧
        snapshot.Keeps config serial := by
  unfold StatusSnapshot.certIds StatusSnapshot.Keeps
  simp only [List.mem_flatMap, namedCertId_mem_certIds]
  constructor
  · rintro ⟨entry, kept, produces, null, same⟩
    exact ⟨produces, null, entry, kept, same.symm⟩
  · rintro ⟨produces, null, entry, kept, same⟩
    exact ⟨entry, kept, produces, null, same.symm⟩

section Written

variable [Ciborium] (header : FileHeader) (sealBytes : Bytes)

theorem Filling.select_eq_none_iff (filling : Filling production ca snapshot config clock builder)
    (storable : builder.Storable) (fits : builder.placement.data.length < 2 ^ 63)
    (ascending : Ascending (builder.written header sealBytes).index) (asked : ParsedCertId)
    (preferredAlgs : List UInt16) :
    (builder.written header sealBytes).select asked preferredAlgs = none ↔
      asked.entryKey ∉ filling.prepared.flatMap PreparedEntry.entryKeys := by
  constructor
  · intro unselected among
    have live : ∀ record ∈ (builder.written header sealBytes).index,
        ∃ payload, (builder.written header sealBytes).entryBytes record = some payload := by
      intro record member
      obtain ⟨entry, present, placed⟩ := storable.entry_of_record header sealBytes fits member
      refine ⟨entry.2, ?_⟩
      rw [BundleBuilder.written_entryBytes header sealBytes fits placed,
        (filling.payload present).1]
      rfl
    have referred : referenceWith algDiscDefault asked.entryKey ∈
        builder.entries.map fun entry => entry.1.reference := by
      rw [filling.references]
      exact List.mem_flatMap.mpr
        ⟨_, production.zero_mem_discriminators, List.mem_map_of_mem among⟩
    obtain ⟨entry, present, reference⟩ := List.mem_map.mp referred
    obtain ⟨record, member, placed⟩ := storable.record_of_entry header sealBytes fits present
    obtain ⟨payload, selected⟩ := Bundle.exists_select ascending live member
      (placed.reference.trans reference) preferredAlgs
    rw [unselected] at selected
    cases selected
  · intro unused
    have nowhere := filling.absent header sealBytes storable fits unused
    unfold Bundle.select
    split_ifs
    · change (binarySearchWithDiscriminator _ asked.entryKey 0).bind _ = none
      rw [nowhere]
      rfl
    · exact Bundle.lookupPreferred_eq_none nowhere preferredAlgs

end Written

/-! ### A label with one produced bundle -/

omit [Sha2] [Sha1] [X509Ocsp] in
theorem RoutedBy.lookup_eq_none_iff {map : ScopeMap} {route : Route}
    (routed : RoutedBy map.entries map.bundles [route]) (asked : ParsedCertId)
    (preferredAlgs : List UInt16) :
    map.lookup asked preferredAlgs = none ↔
      ∀ payload, ¬route.Holds asked preferredAlgs payload := by
  rw [routed.lookup, List.flatMap_singleton]
  rcases route.hits_eq_nil_or asked preferredAlgs with
    ⟨noHits, notHeld⟩ | ⟨payload, rest, holds, hits⟩
  · rw [noHits]
    exact ⟨fun _ => notHeld, fun _ => rfl⟩
  · rw [hits]
    constructor
    · intro impossible
      cases impossible
    · intro notHeld
      exact absurd holds (notHeld payload)

omit [Sha2] [Sha1] [X509Ocsp] in
theorem Route.head?_registrations {route : Route} {key : ScopeKey}
    (named : ∃ scope ∈ route.bundle.manifest.caScopes, scope.scopeKey = key) :
    (route.registrations key).head? = some route := by
  cases registered : route.registrations key with
  | nil =>
      have listed : route ∈ route.registrations key :=
        Route.mem_registrations.mpr ⟨rfl, named⟩
      rw [registered] at listed
      cases listed
  | cons first rest =>
      have listed : first ∈ route.registrations key := by
        rw [registered]
        exact List.mem_cons_self
      rw [(Route.mem_registrations.mp listed).1]
      rfl

variable [Ciborium] [Pki]

/-- A produced bundle is loaded for the only label, which is configured as
complete. -/
structure ServesProduction (production : Production) (ca : CaIdentity)
    (snapshot : StatusSnapshot) (config : GenerationConfig) (clock : Clock) (os : Os)
    (serving : Config) (disk : Disk) (map : ScopeMap) (label : CaConfig) (bundle : Bundle) :
    Prop where
  produced : ∃ builder sealFn out, production.fill ca snapshot config clock = .ok builder ∧
    builder.finalManifest.toCbor.length < 2 ^ 32 ∧
    production.produce ca snapshot config sealFn clock = .ok out ∧
    Bundle.fromBytes out = .ok bundle
  loaded : Served os serving disk map
  sole : serving.ca = [label]
  complete : label.completeness = "authoritative-complete"
  registered : map.Registers label.label bundle

/-- SHA-256 tells apart what is compared for this production and this CertID. -/
structure DigestsApart (snapshot : StatusSnapshot) (config : GenerationConfig) (ca : CaIdentity)
    (builder : BundleBuilder) (bundle : Bundle) (certidDer : Bytes) : Prop where
  payloads : Set.InjOn Sha2.sha256 builder.aliases
  sections : builder.SectionsApart bundle
  certIds : ∀ other ∈ snapshot.certIdEncodings config ca.hashes,
    Sha2.sha256 other = Sha2.sha256 certidDer → other = certidDer

section Serving

variable {os : Os} {serving : Config} {disk : Disk} {map : ScopeMap} {label : CaConfig}
  {bundle : Bundle}

theorem ServesProduction.routes
    (serves : ServesProduction production ca snapshot config clock os serving disk map label bundle)
    {paths : List PathBuf} {routes : List Route}
    (routed : Routed os disk serving paths map routes) :
    routes = [{ policy := label.policy, bundle := bundle }] := by
  have policies := routed.policies
  unfold Config.policies at policies
  rw [serves.sole, if_neg (List.cons_ne_nil _ _), List.map_singleton] at policies
  obtain ⟨route, rest, rfl, policy, nothing⟩ := List.map_eq_cons_iff.mp policies
  rw [List.map_eq_nil_iff] at nothing
  subst nothing
  obtain ⟨other, among, _, same, _⟩ := routed.routed.registers_iff.mp serves.registered
  rw [List.mem_singleton] at among
  subst among
  rw [← policy, ← same]

theorem ServesProduction.filling
    (serves : ServesProduction production ca snapshot config clock os serving disk map label bundle)
    (manifests : ∀ manifest : Manifest, manifest.extensions = none →
      manifest.toCbor.length < 2 ^ 32 → manifest.ReadsBack) (fit : ResponsesFit)
    {certidDer : Bytes}
    (apart : ∀ builder, production.fill ca snapshot config clock = .ok builder →
      DigestsApart snapshot config ca builder bundle certidDer) :
    ∃ builder, ∃ filling : Filling production ca snapshot config clock builder,
      ∃ header sealBytes, bundle = builder.written header sealBytes ∧ builder.Storable ∧
        builder.placement.data.length < 2 ^ 63 ∧ Ascending bundle.index ∧
        DigestsApart snapshot config ca builder bundle certidDer ∧
        bundle.manifest.caScopes = generatedScopes config ca.hashes filling.responders := by
  obtain ⟨builder, sealFn, out, filled, manifestFits, produced, parses⟩ := serves.produced
  obtain ⟨again, filledAgain, built⟩ := Production.produce_eq_ok.mp produced
  cases filled.symm.trans filledAgain
  obtain ⟨filling⟩ := Production.filling filled
  have readsBack := manifests builder.finalManifest
    (congrArg Manifest.extensions filling.manifest) manifestFits
  -- Loading has checked the digests of the manifest.
  obtain ⟨paths, routes, routed⟩ := serves.loaded.routed
  have only := serves.routes routed
  obtain ⟨_, _, admitted⟩ := routed.admitted (only ▸ List.mem_singleton_self _)
  obtain ⟨signed, verified⟩ := verifyStructure_eq_ok.mp (verified_of_admitBundle os disk admitted)
  have digests := apart builder filled
  have same := BundleBuilder.eq_written_of_verified readsBack manifestFits built parses verified
    digests.sections
  refine ⟨builder, filling, bundle.header, bundle.sealBytes, same,
    filling.storable fit digests.payloads, BundleBuilder.data_fits built, verified.ascending,
    digests, ?_⟩
  rw [same]
  change builder.manifest.caScopes = _
  rw [filling.manifest]
  rfl

theorem ServesProduction.holds_iff
    (serves : ServesProduction production ca snapshot config clock os serving disk map label bundle)
    (manifests : ∀ manifest : Manifest, manifest.extensions = none →
      manifest.toCbor.length < 2 ^ 32 → manifest.ReadsBack) (fit : ResponsesFit)
    (injective : CertIdDerInjective) {hash : IssuerHash} {parameters : Option Bytes}
    {serial : SerialBytes} {asked : ParsedCertId}
    (encoded : parseCertId (namedCertId hash parameters ca.hashes serial) = .ok asked)
    (apart : ∀ builder, production.fill ca snapshot config clock = .ok builder →
      DigestsApart snapshot config ca builder bundle asked.certidDer)
    (preferredAlgs : List UInt16) :
    ((∃ payload, bundle.select asked preferredAlgs = some payload) ↔
        config.certidCompat.Produces hash ∧ parameters = some nullDer ∧
          snapshot.Keeps config serial) ∧
      ((∃ scope ∈ bundle.manifest.caScopes, scope.scopeKey = asked.scopeKey) ↔
        config.certidCompat.Routes hash) := by
  obtain ⟨builder, filling, header, sealBytes, same, storable, fits, ascending, digests, scopes⟩ :=
    serves.filling manifests fit apart
  obtain ⟨encodes, askedKey⟩ := encoded_of_parseCertId encoded
  have scopeKey : asked.scopeKey =
      ((namedCertId hash parameters ca.hashes serial).issuerNameHash,
        (namedCertId hash parameters ca.hashes serial).issuerKeyHash) := by
    obtain ⟨_, _, shape⟩ := Except.bind_eq_ok.mp encoded
    cases shape
    rfl
  constructor
  · rw [same] at ascending
    have selects := filling.select_eq_none_iff header sealBytes storable fits ascending asked
      preferredAlgs
    rw [← Option.ne_none_iff_exists', same, ne_eq, selects, not_not, askedKey,
      filling.mem_keys_iff injective encodes digests.certIds, namedCertId_mem_snapshot]
  · rw [scopes, scopeKey]
    exact exists_generatedScope_iff filling.responded

variable [Url]

theorem ServesProduction.live_not_unknown {state : AppState}
    (serves : ServesProduction production ca snapshot config clock os serving disk state.scopeMap
      label bundle)
    (manifests : ∀ manifest : Manifest, manifest.extensions = none →
      manifest.toCbor.length < 2 ^ 32 → manifest.ReadsBack) (fit : ResponsesFit)
    (codec : ResponsesUnambiguous) {certidDer : Bytes}
    (apart : ∀ builder, production.fill ca snapshot config clock = .ok builder →
      DigestsApart snapshot config ca builder bundle certidDer)
    {reading : Nat → UInt64} {derBytes body : Bytes}
    (ids : ∀ message, X509Ocsp.requestFromDer derBytes = .ok message →
      ∀ certId ∈ message.requestList, certId.ReadsBack)
    (live : (processRequestInner state reading derBytes).status = .live)
    (response : (processRequestInner state reading derBytes).response = .live body)
    {basic : BasicOcspResponse} (parsed : parseBasic body = .ok basic) {reply : SingleResponse}
    (answers : reply ∈ basic.tbsResponseData.responses) : reply.certStatus ≠ .unknown := by
  obtain ⟨builder, filling, header, sealBytes, written, storable, fits, _, _, _⟩ :=
    serves.filling manifests fit apart
  obtain ⟨paths, routes, routed, current⟩ :=
    hits_are_answered_currently state serves.loaded reading derBytes ids
  have only := serves.routes routed
  obtain ⟨other, certId, asked, request, route, single, ending, same, answer⟩ :=
    current.live live
  rw [response] at same
  cases same
  -- The reply is the one that was signed, with the status of the source.
  obtain ⟨nonce, _, signedBasic, der, _, alone, _, _, inner, outer⟩ := answer.signed
  rw [codec signedBasic basic der body inner outer parsed, alone, List.mem_singleton] at answers
  subst answers
  obtain ⟨payload, source, original, _, first, sourceParsed, filtered, status, _⟩ := answer.source
  have listed : original ∈ source.tbsResponseData.responses := by
    have member : original ∈ source.tbsResponseData.responses.filter (·.certId = certId) := by
      rw [filtered]
      exact List.mem_singleton_self _
    exact List.mem_of_mem_filter member
  obtain ⟨before, after, split, holds, _⟩ := first
  have routeIs : route = { policy := label.policy, bundle := bundle } := by
    have member : route ∈ routes := by
      rw [split]
      exact List.mem_append_right _ List.mem_cons_self
    rw [only] at member
    exact List.mem_singleton.mp member
  have selected := holds.2
  rw [routeIs, written] at selected
  -- The payload was stored by the production.
  obtain ⟨record, inIndex, bytes⟩ := Bundle.record_of_select selected
  obtain ⟨entry, present, placed⟩ := storable.entry_of_record header sealBytes fits inIndex
  rw [BundleBuilder.written_entryBytes header sealBytes fits placed, (filling.payload present).1,
    if_neg Bool.false_ne_true] at bytes
  rw [← Option.some.inj bytes] at sourceParsed
  rw [status]
  exact filling.payload_not_unknown codec present sourceParsed listed

/-- A nonce request for a certificate of the CA is not answered with a signed
"unknown" when its hash is not routed, or when it is produced, the parameters
are NULL and the serial is kept; and where the nonce is accepted and the live
signer can sign, only then. -/
theorem known_serial_not_unknown_iff {state : AppState}
    (serves : ServesProduction production ca snapshot config clock os serving disk state.scopeMap
      label bundle)
    {live : LiveSignerState} (signer : state.liveSigners.lookup label.label = some live)
    {derBytes : Bytes} {hash : IssuerHash} {parameters : Option Bytes} {serial : SerialBytes}
    {asked : ParsedCertId} {request : ParsedRequest}
    (asks : Asks derBytes (namedCertId hash parameters ca.hashes serial) asked request)
    {nonce : Bytes} (nonced : request.nonce = some nonce) (reading : Nat → UInt64)
    (manifests : ∀ manifest : Manifest, manifest.extensions = none →
      manifest.toCbor.length < 2 ^ 32 → manifest.ReadsBack) (fit : ResponsesFit)
    (injective : CertIdDerInjective) (codec : ResponsesUnambiguous)
    (ids : ∀ message, X509Ocsp.requestFromDer derBytes = .ok message →
      ∀ certId ∈ message.requestList, certId.ReadsBack)
    (apart : ∀ builder, production.fill ca snapshot config clock = .ok builder →
      DigestsApart snapshot config ca builder bundle asked.certidDer) :
    ((config.certidCompat.Routes hash → config.certidCompat.Produces hash ∧
          parameters = some nullDer ∧ snapshot.Keeps config serial) →
        ¬(processRequestInner state reading derBytes).SignsUnknown) ∧
      (validateNonce nonce ≠ .malformedRequest →
        (∃ body, signLiveResponse asked.certidDer .unknown nonce live.responderKeyBytes live.signer
          (reading 0) live.validitySecs live.responderCertDer = .ok body) →
        ¬(processRequestInner state reading derBytes).SignsUnknown →
          config.certidCompat.Routes hash → config.certidCompat.Produces hash ∧
            parameters = some nullDer ∧ snapshot.Keeps config serial) := by
  obtain ⟨paths, routes, routed⟩ := serves.loaded.routed
  have only := routed.routed
  rw [serves.routes routed] at only
  obtain ⟨selects, registers⟩ := serves.holds_iff manifests fit injective asks.encoded apart
    request.preferredSigAlgs
  constructor
  · intro condition signs
    rcases signs with counted | ⟨isLive, body, basic, reply, response, parsed, answers, unknown⟩
    · obtain ⟨_, asked', request', _, _, _, asks', miss, _, _⟩ := missSigns_of_counted counted
      obtain ⟨rfl, rfl⟩ := asks.unique asks'
      obtain ⟨scope, found, _, _⟩ := miss.complete
      -- A scope was found, so the hash is routed and there is a payload.
      rw [only.scopeForCertid, List.flatMap_singleton] at found
      obtain ⟨registration, first, _⟩ := Option.map_eq_some_iff.mp found
      obtain ⟨_, named⟩ := Route.mem_registrations.mp (List.mem_of_mem_head? first)
      obtain ⟨payload, selected⟩ := selects.mpr (condition (registers.mp named))
      exact (only.lookup_eq_none_iff asked' request'.preferredSigAlgs).mp miss.missing payload
        ⟨named, selected⟩
    · exact serves.live_not_unknown manifests fit codec apart ids isLive response parsed answers
        unknown
  · intro accepted able notSigned routes
    apply selects.mp
    by_contra unselected
    apply notSigned
    obtain ⟨body, signed⟩ := able
    have missing : state.scopeMap.lookup asked request.preferredSigAlgs = none := by
      apply (only.lookup_eq_none_iff asked request.preferredSigAlgs).mpr
      intro payload holds
      exact unselected ⟨payload, holds.2⟩
    have answers : state.scopeMap.scopeForCertid asked = some
        { caLabel := label.label, authoritative := true, forwardTo := label.forwardTo } := by
      rw [only.scopeForCertid, List.flatMap_singleton,
        Route.head?_registrations (registers.mpr routes)]
      change some (ScopeAnswer.mk _ (decide (label.completeness = _)) _) = _
      rw [decide_eq_true serves.complete]
      rfl
    left
    rw [processRequestInner_of_miss asks nonced accepted missing answers rfl signer signed]

end Serving

end Known

/-! ### A revoked certificate -/

section Samples

local instance knownSha2 : Sha2 := Crates.sha2
local instance knownSha1 : Sha1 := Crates.sha1
local instance knownCiborium : Ciborium := Crates.ciborium
local instance knownPki : Pki := Crates.pki []
local instance knownUrl : Url := { scheme := fun _ => some "https" }

def revokedCertId (parameters : Option Bytes) : CertId :=
  namedCertId .sha256 parameters producedCa.hashes [2]

def revokedRequest (parameters : Option Bytes) : OcspRequest :=
  { requestList := [revokedCertId parameters]
    requestExtensions := some [demoNonceExtension] }

def answeredBasic (certId : CertId) (status : CertStatus) (thisUpdate : UInt64) :
    BasicOcspResponse :=
  { tbsResponseData :=
      { responderId := .byKey (Sha1.sha1 Crates.signerKey).val
        producedAt := Crates.timeAt 3000
        responses := [
          { certId := certId
            certStatus := status
            thisUpdate := Crates.timeAt thisUpdate
            nextUpdate := some (Crates.timeAt 6600)
            singleExtensions := none }]
        responseExtensions := some [demoNonceExtension] }
    signatureAlgorithm := { oid := "1.2.840.10045.4.3.2", parameters := none }
    signature := [0x30, 0x06, 0x02, 0x01, 0x01, 0x02, 0x01, 0x01]
    certs := none }

def knownMessages : Crates.Messages :=
  { requests := [revokedRequest (some nullDer), revokedRequest none]
    certIds := agreedCertIds [1] ++ agreedCertIds [2] ++ [revokedCertId none]
    basics := [agreedBasic "1.2.840.10045.4.3.2" [0x30, 0x00],
      answeredBasic (revokedCertId (some nullDer)) (.revoked
        { revocationTime := Crates.timeAt 500
          revocationReason := some .keyCompromise }) 1000,
      answeredBasic (revokedCertId none) .unknown 3000] }

local instance knownX509Ocsp : X509Ocsp := Crates.x509Ocsp knownMessages

def knownProduction : Production :=
  .single producedSigner none

def knownConfig : GenerationConfig :=
  { agreedConfig with completeness := .authoritativeComplete }

def knownFile : Except SignError Bytes :=
  knownProduction.produce producedCa agreedSnapshot knownConfig emptySeal producedClock

def askRevoked (map : ScopeMap) (parameters : Option Bytes) : Answer :=
  processRequestInner (liveState map) (fun _ => 3000)
    (Crates.requestDer (revokedRequest parameters))

theorem knownFile_computed :
    (knownFile.toOption.bind fun file => (liveLoad file).1.toOption.map fun map =>
      ((askRevoked map (some nullDer)).status, (askRevoked map none).status)) =
        some (.live, .unknown) ∧
    (knownFile.toOption.bind fun file => (Bundle.fromBytes file).toOption.map
      fun bundle => decide (bundle.manifest.caScopes ≠ [])) = some true ∧
    (knownProduction.fill producedCa agreedSnapshot knownConfig
      producedClock).toOption.map (fun builder =>
        decide (∀ left ∈ builder.entries, ∀ right ∈ builder.entries, left.2 = right.2)) =
          some true :=
  ⟨by decide +kernel, by decide +kernel, by decide +kernel⟩

theorem knownMessages_computed :
    (∀ left ∈ knownMessages.certIds, ∀ right ∈ knownMessages.certIds,
      Sha2.sha256 (Crates.certIdDer left) = Sha2.sha256 (Crates.certIdDer right) →
        left = right) ∧
    (∀ left ∈ knownMessages.basics, ∀ right ∈ knownMessages.basics,
      Crates.basicDer left = Crates.basicDer right → left = right) ∧
    (∀ left ∈ knownMessages.responses, ∀ right ∈ knownMessages.responses,
      Crates.responseDer left = Crates.responseDer right → left = right) ∧
    (∀ response ∈ knownMessages.responses, (Crates.responseDer response).length < 2 ^ 32) ∧
    (∀ parameters ∈ [some nullDer, none],
      X509Ocsp.requestFromDer (Crates.requestDer (revokedRequest parameters)) =
        .ok (revokedRequest parameters)) ∧
    (∀ parameters ∈ [some nullDer, none],
      (parseOcspRequest (Crates.requestDer (revokedRequest parameters))).toOption.map
        (fun request => decide (request.certIds.head? =
          (parseCertId (revokedCertId parameters)).toOption ∧ request.certIds ≠ [] ∧
            request.nonce = some demoNonce)) = some true) ∧
    agreedSnapshot.entries[([2] : SerialBytes)]? =
      some (CertificateStatus.revoked 500 (some .keyCompromise)) ∧
    ∃ entry ∈ agreedSnapshot.kept knownConfig,
      SerialNumber.content entry.1 = SerialNumber.content [2] :=
  ⟨by decide +kernel, by decide +kernel, by decide +kernel, by decide +kernel,
    by decide +kernel, by decide +kernel, by decide +kernel, by decide +kernel⟩

def completeLabel : CaConfig :=
  { label := "a"
    noncePolicy := "live"
    completeness := "authoritative-complete"
    signingKey := some .demo }

theorem liveLoad_registers {file : Bytes} {bundle : Bundle} {map : ScopeMap}
    (parses : Bundle.fromBytes file = .ok bundle) (named : bundle.manifest.caScopes ≠ [])
    (run : (liveLoad file).1 = .ok map) : map.Registers "a" bundle := by
  have whole : liveLoad file = (.ok map, (liveLoad file).2) := Prod.ext run rfl
  obtain ⟨paths, routes, configured, routed⟩ := ensures_loadScopeMap_routing.of_ok whole
  have sections := configuredBundlePaths_sections (List.cons_ne_nil _ _) configured
  have read := routed.read
  have policies := routed.policies
  subst sections
  obtain ⟨route, rest, rfl, policy, _⟩ := List.map_eq_cons_iff.mp policies
  cases read with
  | cons first _ =>
      obtain ⟨spelling, same, admitted⟩ := first
      have held : bundleFromFile (Os.faultless 1800000000) (liveWorld file).disk
          (liveConfig.bundlePath completeLabel) = .ok bundle :=
        bundleFromFile_eq_ok.mpr ⟨file, rfl, parses⟩
      have isFile := bundleFromFile_of_canonical admitted.parsed held same
      apply routed.routed.registers_iff.mpr
      refine ⟨route, List.mem_cons_self, ?_, isFile, named⟩
      rw [policy]
      rfl

theorem known_serves : ∃ file map bundle,
    knownFile = .ok file ∧ Bundle.fromBytes file = .ok bundle ∧
    ServesProduction knownProduction producedCa agreedSnapshot knownConfig producedClock
      (Os.faultless 1800000000) liveConfig (liveWorld file).disk map completeLabel bundle ∧
    (askRevoked map (some nullDer)).status = .live ∧ (askRevoked map none).status = .unknown := by
  obtain ⟨file, produced, loaded⟩ := Option.bind_eq_some_iff.mp knownFile_computed.1
  obtain ⟨map, run, answers⟩ := Option.map_eq_some_iff.mp loaded
  rw [Except.toOption_eq_some] at run
  have parsed := knownFile_computed.2.1
  rw [produced] at parsed
  obtain ⟨bundle, parses, named⟩ := Option.map_eq_some_iff.mp parsed
  rw [Except.toOption_eq_some] at parses
  obtain ⟨hit, miss⟩ := Prod.mk.inj answers
  rw [Except.toOption_eq_some] at produced
  obtain ⟨builder, filled, built⟩ := Production.produce_eq_ok.mp produced
  refine ⟨file, map, bundle, produced, parses, ?_, hit, miss⟩
  exact
    { produced := ⟨builder, emptySeal, file, filled, (sealsWith_emptySeal built).manifestFits,
        produced, parses⟩
      loaded := liveLoad_served run
      sole := rfl
      complete := rfl
      registered := liveLoad_registers parses (of_decide_eq_true named) run }

theorem known_certIdsReadBack (certId : CertId) : certId.ReadsBack := by
  intro der encoded
  refine Crates.decodeListed_encodeListed ?_ encoded
  intro left inLeft right inRight same
  exact knownMessages_computed.1 left inLeft right inRight (congrArg Sha2.sha256 same)

theorem known_injective : CertIdDerInjective := by
  intro left right der encodedLeft encodedRight
  have readLeft := known_certIdsReadBack left der encodedLeft
  rw [known_certIdsReadBack right der encodedRight] at readLeft
  exact (Except.ok.inj readLeft).symm

theorem known_unambiguous : ResponsesUnambiguous := by
  intro basic other der body inner outer parsed
  have again := Crates.parseBasic_encoded knownMessages knownMessages_computed.2.1
    knownMessages_computed.2.2.1 inner outer
  rw [again] at parsed
  exact (Except.ok.inj parsed).symm

theorem known_apart {certId : CertId} {certidDer : Bytes}
    (encoded : X509Ocsp.certIdToDer certId = .ok certidDer) {bundle : Bundle} {file : Bytes}
    (produced : knownFile = .ok file) (parses : Bundle.fromBytes file = .ok bundle)
    (builder : BundleBuilder)
    (filled : knownProduction.fill producedCa agreedSnapshot knownConfig producedClock =
      .ok builder) :
    DigestsApart agreedSnapshot knownConfig producedCa builder bundle certidDer := by
  have payloads := knownFile_computed.2.2
  rw [filled] at payloads
  have same := of_decide_eq_true (Option.some.inj payloads)
  obtain ⟨again, filledAgain, built⟩ := Production.produce_eq_ok.mp produced
  rw [filled] at filledAgain
  cases filledAgain
  obtain ⟨filling⟩ := Production.filling filled
  have seals := sealsWith_emptySeal built
  have plain : builder.finalManifest.extensions = none :=
    congrArg Manifest.extensions filling.manifest
  have readsBack : builder.finalManifest.ReadsBack :=
    Crates.readsBack plain (Nat.lt_trans seals.manifestFits (by decide))
  obtain ⟨header, kept, _, _, expected⟩ := BundleBuilder.fromBytes_build
    (seals.fits (by decide)) readsBack built
  rw [parses] at expected
  cases expected
  refine ⟨?_, ⟨fun _ => rfl, fun _ => rfl⟩, ?_⟩
  · rintro _ ⟨left, inLeft, _, rfl⟩ _ ⟨right, inRight, _, rfl⟩ _
    exact same left inLeft right inRight
  · rintro _ ⟨own, _, ownEncoded⟩ sameDigest
    obtain ⟨inOwn, rfl⟩ := Crates.encodeListed_eq_ok.mp ownEncoded
    obtain ⟨inAsked, rfl⟩ := Crates.encodeListed_eq_ok.mp encoded
    rw [knownMessages_computed.1 own inOwn certId inAsked sameDigest]

theorem revoked_asks : ∀ parameters ∈ [some nullDer, none], ∃ asked request,
    Asks (Crates.requestDer (revokedRequest parameters)) (revokedCertId parameters) asked
      request ∧ request.nonce = some demoNonce := by
  obtain ⟨_, _, _, _, decoded, parsed, _⟩ := knownMessages_computed
  intro parameters listed
  obtain ⟨request, ok, facts⟩ := Option.map_eq_some_iff.mp (parsed parameters listed)
  obtain ⟨first, present, nonce⟩ := of_decide_eq_true facts
  cases asked : parseCertId (revokedCertId parameters) with
  | error reason =>
      rw [asked] at first
      exact absurd (List.head?_eq_none_iff.mp first) present
  | ok certId =>
      rw [asked] at first
      exact ⟨certId, request,
        ⟨⟨_, decoded parameters listed, rfl⟩, Except.toOption_eq_some.mp ok, first, asked⟩, nonce⟩

/-- With NULL parameters the revoked certificate is not unknown. -/
theorem revoked_serial_not_unknown : ∃ file map bundle,
    ServesProduction knownProduction producedCa agreedSnapshot knownConfig producedClock
      (Os.faultless 1800000000) liveConfig (liveWorld file).disk map completeLabel bundle ∧
    (askRevoked map (some nullDer)).status = .live ∧
    ¬(askRevoked map (some nullDer)).SignsUnknown := by
  obtain ⟨file, map, bundle, produced, parses, serves, isLive, _⟩ := known_serves
  obtain ⟨asked, request, asks, nonced⟩ := revoked_asks (some nullDer) (by decide)
  obtain ⟨_, _, _, short, _, _, _, kept⟩ := knownMessages_computed
  refine ⟨file, map, bundle, serves, isLive, ?_⟩
  change ServesProduction _ _ _ _ _ _ _ _ (liveState map).scopeMap _ _ at serves
  exact (known_serial_not_unknown_iff serves (AList.lookup_insert _) asks nonced
    (fun _ => 3000)
    (fun manifest plain short => Crates.readsBack plain (Nat.lt_trans short (by decide)))
    (Crates.responsesFit knownMessages short) known_injective known_unambiguous
    (fun _ _ certId _ => known_certIdsReadBack certId)
    (known_apart (encoded_of_parseCertId asks.encoded).1 produced parses)).1
      (fun _ => ⟨trivial, rfl, kept⟩)

/-- Without parameters the same certificate gets a signed unknown. -/
theorem absent_parameters_unknown : ∃ file map bundle asked request,
    ServesProduction knownProduction producedCa agreedSnapshot knownConfig producedClock
      (Os.faultless 1800000000) liveConfig (liveWorld file).disk map completeLabel bundle ∧
    agreedSnapshot.entries[([2] : SerialBytes)]? =
      some (CertificateStatus.revoked 500 (some .keyCompromise)) ∧
    Asks (Crates.requestDer (revokedRequest none))
      (namedCertId .sha256 none producedCa.hashes [2]) asked request ∧
    request.nonce = some demoNonce ∧ (askRevoked map none).SignsUnknown := by
  obtain ⟨file, map, bundle, _, _, serves, _, unknown⟩ := known_serves
  obtain ⟨asked, request, asks, nonced⟩ := revoked_asks none (by decide)
  obtain ⟨_, _, _, _, _, _, revoked, _⟩ := knownMessages_computed
  exact ⟨file, map, bundle, asked, request, serves, revoked, asks, nonced, Or.inl unknown⟩

end Samples

end Hoike
