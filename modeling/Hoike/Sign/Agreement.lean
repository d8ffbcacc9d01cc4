/-
Producer and responder agree on every certificate.

For a serial that is kept the entry key of its CertID leads to a payload with
exactly one response for the CertID, and that response has the status of the
snapshot.  For any other serial nothing is found.
-/

import Mathlib.Data.List.Flatten
import Hoike.Core.Request
import Hoike.Sign.Verifiable

namespace Hoike

open Ahu (Bundle BundleBuilder Manifest EntryRef IndexRecord SealFits binarySearchWithDiscriminator
  FileHeader)
open Ocsp

/-! ### One lookup -/

theorem Ahu.Bundle.lookupPreferred_of_payload {bundle : Bundle} {entryKey : Octets 32}
    {discriminator : UInt16} {payload : Bytes}
    (stored : bundle.payload (referenceWith discriminator entryKey) = some payload) :
    bundle.lookupPreferred entryKey [discriminator] = some payload := by
  obtain ⟨position, found, _⟩ := Option.bind_eq_some_iff.mp stored
  unfold Bundle.lookupPreferred Ahu.binarySearchPreferred
  have first : [discriminator].findSome? (binarySearchWithDiscriminator bundle.index entryKey) =
      some position := by
    rw [List.findSome?_cons]
    change binarySearchWithDiscriminator bundle.index entryKey discriminator = _ at found
    rw [found]
  rw [first]
  change (binarySearchWithDiscriminator bundle.index entryKey discriminator).bind _ = _ at stored
  change binarySearchWithDiscriminator bundle.index entryKey discriminator = _ at found
  rw [found] at stored
  exact stored

theorem Ahu.Bundle.lookupPreferred_eq_none {bundle : Bundle} {entryKey : Octets 32}
    (absent : ∀ discriminator,
      binarySearchWithDiscriminator bundle.index entryKey discriminator = none)
    (preferences : List UInt16) : bundle.lookupPreferred entryKey preferences = none := by
  have nowhere : preferences.findSome?
      (binarySearchWithDiscriminator bundle.index entryKey) = none :=
    List.findSome?_eq_none_iff.mpr fun discriminator _ => absent discriminator
  unfold Bundle.lookupPreferred Ahu.binarySearchPreferred
  rw [nowhere]
  simp only [absent, ite_self]
  rfl

theorem filter_eq_singleton {α β : Type} [DecidableEq β] {key : α → β} {items : List α}
    (distinct : (items.map key).Nodup) {item : α} (member : item ∈ items) :
    items.filter (fun other => key other = key item) = [item] := by
  induction items with
  | nil =>
      cases member
  | cons first rest ih =>
      rw [List.map_cons, List.nodup_cons] at distinct
      obtain ⟨fresh, distinct⟩ := distinct
      rcases List.mem_cons.mp member with rfl | later
      · have others : rest.filter (fun other => key other = key item) = [] := by
          apply List.filter_eq_nil_iff.mpr
          intro other among same
          exact fresh (of_decide_eq_true same ▸ List.mem_map_of_mem among)
        rw [List.filter_cons, if_pos (decide_eq_true rfl), others]
      · have different : ¬ decide (key first = key item) = true := by
          intro same
          exact fresh (of_decide_eq_true same ▸ List.mem_map_of_mem later)
        rw [List.filter_cons, if_neg different, ih distinct later]

/-! ### What is read from a payload -/

def CertificateStatus.live : CertificateStatus → LiveCertStatus
  | good => .good
  | revoked revocationTime reason => .revoked revocationTime reason

/-- A snapshot whose serials denote different integers and whose times lie
before the year 10000. -/
structure StatusSnapshot.Plain (snapshot : StatusSnapshot) : Prop where
  serials : ∀ serial ∈ snapshot.entries, serial ≠ []
  integers : ∀ left ∈ snapshot.entries, ∀ right ∈ snapshot.entries,
    Bytes.toNatBE left = Bytes.toNatBE right → left = right
  starts : snapshot.thisUpdate.toNat < 253402300800
  revoked : ∀ (serial : SerialBytes) (revocationTime : UInt64) (reason : Option CrlReason),
    snapshot.entries[serial]? = some (CertificateStatus.revoked revocationTime reason) →
      revocationTime.toNat < 253402300800

theorem StatusSnapshot.mem_entries_of_kept {snapshot : StatusSnapshot}
    {config : GenerationConfig} {entry : SerialBytes × CertificateStatus}
    (kept : entry ∈ snapshot.kept config) :
    entry.1 ∈ snapshot.entries ∧ snapshot.entries[entry.1]? = some entry.2 := by
  have present := (StatusSnapshot.mem_kept.mp kept).1
  refine ⟨Std.ExtTreeMap.isSome_getElem?_iff_mem.mp ?_, present⟩
  rw [present]
  rfl

theorem StatusSnapshot.Plain.eq_of_content {snapshot : StatusSnapshot} (plain : snapshot.Plain)
    {config : GenerationConfig} {left right : SerialBytes × CertificateStatus}
    (inLeft : left ∈ snapshot.kept config) (inRight : right ∈ snapshot.kept config)
    (same : SerialNumber.content left.1 = SerialNumber.content right.1) : left = right := by
  obtain ⟨leftMem, leftStatus⟩ := StatusSnapshot.mem_entries_of_kept inLeft
  obtain ⟨rightMem, rightStatus⟩ := StatusSnapshot.mem_entries_of_kept inRight
  have values := congrArg Der.integerValue same
  rw [SerialNumber.integerValue_content, SerialNumber.integerValue_content] at values
  have serials := plain.integers left.1 leftMem right.1 rightMem (by exact_mod_cast values)
  rw [serials, rightStatus] at leftStatus
  exact Prod.ext serials (Option.some.inj leftStatus).symm

theorem StatusSnapshot.Plain.serialsDistinct {snapshot : StatusSnapshot} (plain : snapshot.Plain)
    (config : GenerationConfig) : snapshot.SerialsDistinct config :=
  fun _ inLeft _ inRight same =>
    plain.eq_of_content inLeft inRight (SerialNumber.content_eq_iff.mpr same)

section Agreement

variable [Sha2] [Sha1] [X509Ocsp]

def CertIdsReadBack (ca : CaIdentity) : Prop :=
  ∀ (compat : CertIdCompat) (serial : SerialBytes), serial ≠ [] →
    ∀ certId ∈ compat.certIds ca.hashes (SerialNumber.content serial), certId.ReadsBack

def Reports (snapshot : StatusSnapshot) (status : CertificateStatus) (certidDer : Bytes)
    (payload : Bytes) : Prop :=
  ∃ source, extractStatusForCert payload certidDer = .ok source ∧
    source.status = status.live ∧ source.thisUpdate = snapshot.thisUpdate

/-- Lookups in the bundle give what the snapshot says, under each
discriminator, and nothing for serials that are not kept. -/
structure Agrees (production : Production) (ca : CaIdentity) (snapshot : StatusSnapshot)
    (config : GenerationConfig) (bundle : Bundle) : Prop where
  found : ∀ entry ∈ snapshot.kept config,
    ∀ certId ∈ config.certidCompat.certIds ca.hashes (SerialNumber.content entry.1),
      ∃ asked, parseCertId certId = .ok asked ∧
        (∃ payload, bundle.lookup asked.entryKey = some payload ∧
          Reports snapshot entry.2 asked.certidDer payload) ∧
        ∀ discriminator ∈ production.discriminators, ∃ payload,
          bundle.payload (referenceWith discriminator asked.entryKey) = some payload ∧
          bundle.lookupPreferred asked.entryKey [discriminator] = some payload ∧
          Reports snapshot entry.2 asked.certidDer payload
  absent : ∀ serial : SerialBytes, serial ≠ [] →
    (∀ entry ∈ snapshot.kept config, Bytes.toNatBE entry.1 ≠ Bytes.toNatBE serial) →
    ∀ certId ∈ config.certidCompat.certIds ca.hashes (SerialNumber.content serial),
      ∀ asked, parseCertId certId = .ok asked →
        (∀ der ∈ snapshot.certIdEncodings config ca.hashes,
          Sha2.sha256 der = asked.entryKey → der = asked.certidDer) →
        bundle.lookup asked.entryKey = none ∧
          ∀ preferences, bundle.lookupPreferred asked.entryKey preferences = none

omit [Sha1] in
theorem parseCertId_eq_ok {certId : CertId} {der : Bytes}
    (encoded : X509Ocsp.certIdToDer certId = .ok der) :
    ∃ asked, parseCertId certId = .ok asked ∧ asked.entryKey = Sha2.sha256 der ∧
      asked.certidDer = der :=
  ⟨_, Except.bind_eq_ok.mpr ⟨der, Except.mapError_eq_ok.mpr encoded, rfl⟩, rfl, rfl⟩

omit [Sha1] in
theorem encoded_of_parseCertId {certId : CertId} {asked : ParsedCertId}
    (parsed : parseCertId certId = .ok asked) :
    X509Ocsp.certIdToDer certId = .ok asked.certidDer ∧
      asked.entryKey = Sha2.sha256 asked.certidDer := by
  obtain ⟨der, encoded, same⟩ := Except.bind_eq_ok.mp parsed
  rw [Except.mapError_eq_ok] at encoded
  cases same
  exact ⟨encoded, rfl⟩

omit [Sha2] [Sha1] in
theorem extractStatusForCert_of_single {payload certidDer : Bytes} {basic : BasicOcspResponse}
    {single : SingleResponse} {next : DateTime} (parsed : parseBasic payload = .ok basic)
    (distinct : (basic.tbsResponseData.responses.map SingleResponse.certId).Nodup)
    (member : single ∈ basic.tbsResponseData.responses)
    (decoded : X509Ocsp.certIdFromDer certidDer = .ok single.certId)
    (ends : single.nextUpdate = some next) :
    extractStatusForCert payload certidDer = .ok
      { status := statusFromSingle single
        thisUpdate := single.thisUpdate.epoch
        nextUpdate := next.epoch } := by
  have only := filter_eq_singleton distinct member
  unfold extractStatusForCert
  rw [decoded, parsed]
  dsimp only [Except.mapError, bind, Except.bind]
  rw [only]
  simp only [ends]
  rfl

omit [Sha2] [Sha1] [X509Ocsp] in
theorem foldl_withSingleResponse (singles : List SingleResponse)
    (builder : OcspResponseBuilder) :
    (singles.foldl OcspResponseBuilder.withSingleResponse builder).responses =
      builder.responses ++ singles := by
  induction singles generalizing builder with
  | nil =>
      rw [List.foldl_nil, List.append_nil]
  | cons single rest ih =>
      rw [List.foldl_cons, ih]
      exact List.append_assoc _ _ _

omit [Sha2] [Sha1] in
theorem encoded_of_signBucket {responder : Responder} {producedAt : DateTime}
    {bucket : List PreparedEntry} {payload : Bytes}
    (signed : signBucket responder producedAt bucket = .ok payload) :
    ∃ basic der, X509Ocsp.basicToDer basic = .ok der ∧
      X509Ocsp.responseToDer
        { responseStatus := .successful
          responseBytes := some { responseType := idPkixOcspBasic, response := der } } =
        .ok payload ∧
      basic.tbsResponseData.responses = bucket.flatMap PreparedEntry.singleResponses := by
  obtain ⟨response, made, encoded⟩ := Except.bind_eq_ok.mp signed
  rw [Except.mapError_eq_ok] at made encoded
  obtain ⟨basic, der, data, _, inner, rfl⟩ := X509Ocsp.sign_eq_ok made
  refine ⟨basic, der, inner, encoded, ?_⟩
  rw [data]
  exact foldl_withSingleResponse _ _

omit [Sha2] [Sha1] in
theorem parseBasic_of_signBucket (readBack : ResponsesReadBack) {responder : Responder}
    {producedAt : DateTime} {bucket : List PreparedEntry} {payload : Bytes}
    (certIds : ∀ single ∈ bucket.flatMap PreparedEntry.singleResponses, single.certId.ReadsBack)
    (signed : signBucket responder producedAt bucket = .ok payload) :
    ∃ basic, parseBasic payload = .ok basic ∧
      basic.tbsResponseData.responses = bucket.flatMap PreparedEntry.singleResponses := by
  obtain ⟨basic, der, inner, encoded, responses⟩ := encoded_of_signBucket signed
  exact ⟨basic, readBack basic der payload (responses ▸ certIds) inner encoded, responses⟩

variable {production : Production} {ca : CaIdentity} {snapshot : StatusSnapshot}
  {config : GenerationConfig} {clock : Clock} {builder : BundleBuilder}

/-- What the snapshot says about one CertID of a prepared entry. -/
structure Describes (snapshot : StatusSnapshot) (config : GenerationConfig) (ca : CaIdentity)
    (single : SingleResponse) : Prop where
  origin : ∃ entry ∈ snapshot.kept config,
    single.certId ∈ config.certidCompat.certIds ca.hashes (SerialNumber.content entry.1) ∧
    entry.2.toCertStatus = .ok single.certStatus
  starts : ocspTime snapshot.thisUpdate = .ok single.thisUpdate
  ends : ∃ next, single.nextUpdate = some next

theorem Filling.describes (filling : Filling production ca snapshot config clock builder)
    {single : SingleResponse}
    (member : single ∈ filling.prepared.flatMap PreparedEntry.singleResponses) :
    Describes snapshot config ca single := by
  obtain ⟨prepared, among, member⟩ := List.mem_flatMap.mp member
  obtain ⟨entry, kept, made⟩ := Except.exists_of_mem_mapM filling.preparedMade among
  obtain ⟨certStatus, serialNumber, next, nextUpdate, status, number, _, _, _, singles⟩ :=
    prepareEntry_eq_ok.mp made
  obtain ⟨_, rfl⟩ := SerialNumber.new_eq_ok.mp number
  rw [singles] at member
  obtain ⟨certId, listed, rfl⟩ := List.mem_map.mp member
  exact
    { origin := ⟨entry, kept, listed, status⟩
      starts := filling.thisUpdateMade
      ends := ⟨nextUpdate, rfl⟩ }

theorem Filling.certIds (filling : Filling production ca snapshot config clock builder) :
    (filling.prepared.flatMap PreparedEntry.singleResponses).map SingleResponse.certId =
      snapshot.certIds config ca.hashes := by
  have prepared := Except.mapM_eq_ok.mp filling.preparedMade
  unfold StatusSnapshot.certIds
  generalize snapshot.kept config = kept at prepared ⊢
  generalize filling.prepared = entries at prepared ⊢
  induction prepared with
  | nil =>
      rfl
  | cons made _ ih =>
      obtain ⟨_, serialNumber, _, _, _, number, _, _, _, singles⟩ := prepareEntry_eq_ok.mp made
      obtain ⟨_, rfl⟩ := SerialNumber.new_eq_ok.mp number
      rw [List.flatMap_cons, List.flatMap_cons, List.map_append, ih, singles, List.map_map]
      congr 1
      exact List.map_id _

theorem Filling.single_of_key (filling : Filling production ca snapshot config clock builder)
    {bucket : List PreparedEntry} (inside : ∀ entry ∈ bucket, entry ∈ filling.prepared)
    {key : Octets 32} (member : key ∈ bucket.flatMap PreparedEntry.entryKeys) :
    ∃ single ∈ bucket.flatMap PreparedEntry.singleResponses,
      entryKey single.certId = .ok key := by
  obtain ⟨prepared, among, listed⟩ := List.mem_flatMap.mp member
  obtain ⟨entry, kept, made⟩ :=
    Except.exists_of_mem_mapM filling.preparedMade (inside prepared among)
  obtain ⟨_, serialNumber, _, _, _, _, _, _, keys, singles⟩ := prepareEntry_eq_ok.mp made
  obtain ⟨certId, inCertIds, keyed⟩ := Except.exists_of_mem_mapM keys listed
  have answered : ∃ single ∈ prepared.singleResponses, single.certId = certId := by
    rw [singles]
    exact ⟨_, List.mem_map_of_mem inCertIds, rfl⟩
  obtain ⟨single, own, rfl⟩ := answered
  exact ⟨single, List.mem_flatMap.mpr ⟨prepared, among, own⟩, keyed⟩

theorem eq_of_entryKey (readBack : CertIdsReadBack ca) (plain : snapshot.Plain)
    (collisionFree : Set.InjOn Sha2.sha256 (snapshot.certIdEncodings config ca.hashes))
    {left right : CertId} (inLeft : left ∈ snapshot.certIds config ca.hashes)
    (inRight : right ∈ snapshot.certIds config ca.hashes) {key : Octets 32}
    (leftKey : entryKey left = .ok key) (rightKey : entryKey right = .ok key) :
    left = right := by
  have reads : ∀ certId ∈ snapshot.certIds config ca.hashes, certId.ReadsBack := by
    intro certId member
    obtain ⟨entry, kept, listed⟩ := List.mem_flatMap.mp member
    exact readBack _ entry.1 (plain.serials entry.1
      (StatusSnapshot.mem_entries_of_kept kept).1) certId listed
  obtain ⟨leftDer, leftEncoded, rfl⟩ := entryKey_eq_ok.mp leftKey
  obtain ⟨rightDer, rightEncoded, same⟩ := entryKey_eq_ok.mp rightKey
  have sameDer := collisionFree ⟨left, inLeft, leftEncoded⟩ ⟨right, inRight, rightEncoded⟩ same
  have leftRead := reads left inLeft leftDer leftEncoded
  have rightRead := reads right inRight rightDer rightEncoded
  rw [sameDer, rightRead] at leftRead
  exact (Except.ok.inj leftRead).symm

omit [Sha2] [Sha1] [X509Ocsp] in
theorem statusFromSingle_eq_live {single : SingleResponse} {status : CertificateStatus}
    (made : status.toCertStatus = .ok single.certStatus)
    (bound : ∀ revocationTime reason, status = .revoked revocationTime reason →
      revocationTime.toNat < 253402300800) :
    statusFromSingle single = status.live := by
  unfold statusFromSingle
  cases status with
  | good =>
      rw [← Except.ok.inj made]
      rfl
  | revoked revocationTime reason =>
      obtain ⟨time, converted, same⟩ := Except.bind_eq_ok.mp made
      rw [← Except.ok.inj same]
      have instant := epoch_of_ocspTime (bound revocationTime reason rfl) converted
      change LiveCertStatus.revoked time.epoch reason = _
      rw [instant]
      rfl

theorem StatusSnapshot.Plain.readsBack (plain : snapshot.Plain) (readBack : CertIdsReadBack ca)
    {entry : SerialBytes × CertificateStatus} (kept : entry ∈ snapshot.kept config)
    {certId : CertId}
    (listed : certId ∈ config.certidCompat.certIds ca.hashes (SerialNumber.content entry.1)) :
    certId.ReadsBack :=
  readBack _ entry.1 (plain.serials entry.1 (StatusSnapshot.mem_entries_of_kept kept).1) certId
    listed

theorem Filling.mem_of_bucket (filling : Filling production ca snapshot config clock builder)
    {bucket : List PreparedEntry}
    (inside : bucket ∈ Chunks.chunks (max config.bucketSize 1) filling.prepared) :
    List.Sublist bucket filling.prepared := by
  have piece := List.sublist_flatten_of_mem inside
  rw [Chunks.flatten_chunks (by omega)] at piece
  exact piece

theorem Filling.parseBasic_bucket (filling : Filling production ca snapshot config clock builder)
    (plain : snapshot.Plain) (readBack : CertIdsReadBack ca) (responses : ResponsesReadBack)
    {bucket : List PreparedEntry}
    (inside : bucket ∈ Chunks.chunks (max config.bucketSize 1) filling.prepared)
    {responder : Responder} {producedAt : DateTime} {payload : Bytes}
    (signed : signBucket responder producedAt bucket = .ok payload) :
    ∃ basic, parseBasic payload = .ok basic ∧
      basic.tbsResponseData.responses = bucket.flatMap PreparedEntry.singleResponses ∧
      (basic.tbsResponseData.responses.map SingleResponse.certId).Nodup := by
  have part := (filling.mem_of_bucket inside).flatMap PreparedEntry.singleResponses
  have reads : ∀ single ∈ bucket.flatMap PreparedEntry.singleResponses,
      single.certId.ReadsBack := by
    intro single member
    obtain ⟨entry, kept, listed, _⟩ := (filling.describes (part.subset member)).origin
    exact plain.readsBack readBack kept listed
  have whole : ((filling.prepared.flatMap PreparedEntry.singleResponses).map
      SingleResponse.certId).Nodup := by
    rw [filling.certIds, snapshot.nodup_certIds_iff]
    exact plain.serialsDistinct config
  obtain ⟨basic, parsed, same⟩ := parseBasic_of_signBucket responses reads signed
  refine ⟨basic, parsed, same, ?_⟩
  rw [same]
  exact whole.sublist (part.map _)

theorem Filling.reports (filling : Filling production ca snapshot config clock builder)
    (plain : snapshot.Plain) (readBack : CertIdsReadBack ca) (responses : ResponsesReadBack)
    (collisionFree : Set.InjOn Sha2.sha256 (snapshot.certIdEncodings config ca.hashes))
    {entry : SerialBytes × CertificateStatus} (kept : entry ∈ snapshot.kept config)
    {certId : CertId}
    (listed : certId ∈ config.certidCompat.certIds ca.hashes (SerialNumber.content entry.1))
    {der : Bytes} (encoded : X509Ocsp.certIdToDer certId = .ok der)
    {found : IndexRecord × Bytes} (stored : found ∈ builder.entries)
    (key : found.1.reference.entryKey = Sha2.sha256 der) :
    Reports snapshot entry.2 der found.2 := by
  obtain ⟨_, discriminator, _, responder, bucket, inside, signed, referred⟩ :=
    filling.payload stored
  obtain ⟨basic, parsed, same, distinct⟩ :=
    filling.parseBasic_bucket plain readBack responses inside signed
  have part := filling.mem_of_bucket inside
  -- The bucket has a response under this key, and it is one for the CertID.
  obtain ⟨bucketKey, inKeys, sameReference⟩ := List.mem_map.mp referred
  have sameKey : bucketKey = Sha2.sha256 der := by
    rw [← key, ← sameReference]
    rfl
  obtain ⟨single, answers, keyed⟩ := filling.single_of_key (fun _ member => part.subset member)
    inKeys
  have prepared := (part.flatMap PreparedEntry.singleResponses).subset answers
  have own : single.certId = certId := by
    refine eq_of_entryKey readBack plain collisionFree ?_
      (List.mem_flatMap.mpr ⟨entry, kept, listed⟩) keyed
      (entryKey_eq_ok.mpr ⟨der, encoded, sameKey⟩)
    rw [← filling.certIds]
    exact List.mem_map_of_mem prepared
  -- The snapshot has no other entry for this CertID.
  have describes := filling.describes prepared
  obtain ⟨origin, originKept, originListed, status⟩ := describes.origin
  have sameOrigin : origin = entry := by
    apply plain.eq_of_content originKept kept
    rw [← CertIdCompat.serialNumber_of_mem originListed, own,
      CertIdCompat.serialNumber_of_mem listed]
  rw [sameOrigin] at status
  obtain ⟨next, ends⟩ := describes.ends
  have decoded : X509Ocsp.certIdFromDer der = .ok single.certId := by
    rw [own]
    exact plain.readsBack readBack kept listed der encoded
  refine ⟨_, extractStatusForCert_of_single parsed distinct (same ▸ answers) decoded ends, ?_, ?_⟩
  · apply statusFromSingle_eq_live status
    intro revocationTime reason revoked
    apply plain.revoked entry.1 revocationTime reason
    rw [← revoked]
    exact (StatusSnapshot.mem_entries_of_kept kept).2
  · exact epoch_of_ocspTime plain.starts describes.starts

/-! ### Whole bundles -/

/-- What production and crates are asked to keep for the agreement. -/
structure Faithful (snapshot : StatusSnapshot) (config : GenerationConfig) (ca : CaIdentity)
    (builder : BundleBuilder) : Prop where
  plain : snapshot.Plain
  certIds : CertIdsReadBack ca
  responses : ResponsesReadBack
  fit : ResponsesFit
  collisionFree : CollisionFree snapshot config ca builder

theorem Filling.encoded (filling : Filling production ca snapshot config clock builder)
    {certId : CertId} (listed : certId ∈ snapshot.certIds config ca.hashes) :
    ∃ der, X509Ocsp.certIdToDer certId = .ok der ∧
      Sha2.sha256 der ∈ filling.prepared.flatMap PreparedEntry.entryKeys := by
  obtain ⟨key, among, keyed⟩ := filling.keys.exists_right listed
  obtain ⟨der, encoded, rfl⟩ := entryKey_eq_ok.mp keyed
  exact ⟨der, encoded, among⟩

theorem Filling.key_ne (filling : Filling production ca snapshot config clock builder)
    (faithful : Faithful snapshot config ca builder) {serial : SerialBytes} (present : serial ≠ [])
    (missing : ∀ entry ∈ snapshot.kept config, Bytes.toNatBE entry.1 ≠ Bytes.toNatBE serial)
    {certId : CertId}
    (listed : certId ∈ config.certidCompat.certIds ca.hashes (SerialNumber.content serial))
    {der : Bytes} (encoded : X509Ocsp.certIdToDer certId = .ok der)
    (apart : ∀ other ∈ snapshot.certIdEncodings config ca.hashes,
      Sha2.sha256 other = Sha2.sha256 der → other = der)
    {key : Octets 32} (among : key ∈ filling.prepared.flatMap PreparedEntry.entryKeys) :
    key ≠ Sha2.sha256 der := by
  intro same
  obtain ⟨own, ownListed, keyed⟩ := filling.keys.exists_left among
  obtain ⟨ownDer, ownEncoded, rfl⟩ := entryKey_eq_ok.mp keyed
  have sameDer := apart ownDer ⟨own, ownListed, ownEncoded⟩ same
  obtain ⟨entry, kept, ownOf⟩ := List.mem_flatMap.mp ownListed
  have ownRead := faithful.plain.readsBack faithful.certIds kept ownOf ownDer ownEncoded
  have read := faithful.certIds _ serial present certId listed der encoded
  rw [sameDer, read] at ownRead
  have contents : SerialNumber.content entry.1 = SerialNumber.content serial := by
    rw [← CertIdCompat.serialNumber_of_mem ownOf, ← Except.ok.inj ownRead,
      CertIdCompat.serialNumber_of_mem listed]
  have values := congrArg Der.integerValue contents
  rw [SerialNumber.integerValue_content, SerialNumber.integerValue_content] at values
  exact missing entry kept (by exact_mod_cast values)

section Written

variable [Ciborium] (header : FileHeader) (sealBytes : Bytes)

theorem Filling.found (filling : Filling production ca snapshot config clock builder)
    (faithful : Faithful snapshot config ca builder)
    (fits : builder.placement.data.length < 2 ^ 63)
    {entry : SerialBytes × CertificateStatus} (kept : entry ∈ snapshot.kept config)
    {certId : CertId}
    (listed : certId ∈ config.certidCompat.certIds ca.hashes (SerialNumber.content entry.1))
    {der : Bytes} (encoded : X509Ocsp.certIdToDer certId = .ok der)
    (keyed : Sha2.sha256 der ∈ filling.prepared.flatMap PreparedEntry.entryKeys)
    {discriminator : UInt16} (signs : discriminator ∈ production.discriminators) :
    ∃ payload, (builder.written header sealBytes).payload
        (referenceWith discriminator (Sha2.sha256 der)) = some payload ∧
      Reports snapshot entry.2 der payload := by
  have storable := filling.storable faithful.fit faithful.collisionFree.payloads
  have referred : referenceWith discriminator (Sha2.sha256 der) ∈
      builder.entries.map fun entry => entry.1.reference := by
    rw [filling.references]
    exact List.mem_flatMap.mpr ⟨discriminator, signs, List.mem_map_of_mem keyed⟩
  obtain ⟨stored, member, reference⟩ := List.mem_map.mp referred
  obtain ⟨found, among, same, payload⟩ := storable.payload_of_live header sealBytes fits
    (fun entry member => (filling.payload member).1) member
  rw [reference] at same payload
  refine ⟨found.2, payload, filling.reports faithful.plain faithful.certIds faithful.responses
    faithful.collisionFree.certIds kept listed encoded among ?_⟩
  rw [same]
  rfl

theorem Filling.absent (filling : Filling production ca snapshot config clock builder)
    (storable : builder.Storable) (fits : builder.placement.data.length < 2 ^ 63) {key : Octets 32}
    (apart : key ∉ filling.prepared.flatMap PreparedEntry.entryKeys) (discriminator : UInt16) :
    binarySearchWithDiscriminator (builder.written header sealBytes).index key discriminator =
      none := by
  change binarySearchWithDiscriminator _ (referenceWith discriminator key).entryKey
    (referenceWith discriminator key).discriminator = none
  apply (Ahu.binarySearchWithDiscriminator_eq_none_iff
    (storable.written_nonDescending header sealBytes fits)).mpr
  intro record member same
  obtain ⟨entry, present, placed⟩ := storable.entry_of_record header sealBytes fits member
  have referred : entry.1.reference ∈ builder.entries.map fun entry => entry.1.reference :=
    List.mem_map_of_mem present
  rw [← placed.reference, same, filling.references] at referred
  obtain ⟨_, _, inside⟩ := List.mem_flatMap.mp referred
  obtain ⟨other, among, equal⟩ := List.mem_map.mp inside
  have sameKey : other = key := congrArg EntryRef.entryKey equal
  exact apart (sameKey ▸ among)

theorem Filling.agrees (filling : Filling production ca snapshot config clock builder)
    (faithful : Faithful snapshot config ca builder)
    (fits : builder.placement.data.length < 2 ^ 63) :
    Agrees production ca snapshot config (builder.written header sealBytes) := by
  constructor
  case found =>
    intro entry kept certId listed
    obtain ⟨der, encoded, keyed⟩ :=
      filling.encoded (List.mem_flatMap.mpr ⟨entry, kept, listed⟩)
    obtain ⟨asked, parsed, askedKey, askedDer⟩ := parseCertId_eq_ok encoded
    have found : ∀ discriminator ∈ production.discriminators, ∃ payload,
        (builder.written header sealBytes).payload
          (referenceWith discriminator asked.entryKey) = some payload ∧
        Reports snapshot entry.2 asked.certidDer payload := by
      intro discriminator signs
      rw [askedKey, askedDer]
      exact filling.found header sealBytes faithful fits kept listed encoded keyed signs
    refine ⟨asked, parsed, found 0 production.zero_mem_discriminators, ?_⟩
    intro discriminator signs
    obtain ⟨payload, stored, reports⟩ := found discriminator signs
    exact ⟨payload, stored, Ahu.Bundle.lookupPreferred_of_payload stored, reports⟩
  case absent =>
    intro serial present missing certId listed asked parsed apart
    obtain ⟨encoded, askedKey⟩ := encoded_of_parseCertId parsed
    rw [askedKey] at apart ⊢
    have unused : Sha2.sha256 asked.certidDer ∉
        filling.prepared.flatMap PreparedEntry.entryKeys := fun among =>
      filling.key_ne faithful present missing listed encoded apart among rfl
    have nowhere := filling.absent header sealBytes
      (filling.storable faithful.fit faithful.collisionFree.payloads) fits unused
    refine ⟨?_, Ahu.Bundle.lookupPreferred_eq_none nowhere⟩
    change (binarySearchWithDiscriminator _ (Sha2.sha256 asked.certidDer) 0).bind _ = none
    rw [nowhere]
    rfl

end Written

/-- What a production makes is read back under a seal that fits the header, and
producer and responder agree on it. -/
theorem production_agrees [Ciborium] (plain : snapshot.Plain)
    (manifests : ∀ manifest : Manifest, manifest.extensions = none →
      manifest.toCbor.length < 2 ^ 32 → manifest.ReadsBack)
    (certIds : CertIdsReadBack ca) (responses : ResponsesReadBack) (fit : ResponsesFit)
    (filled : production.fill ca snapshot config clock = .ok builder)
    (collisionFree : CollisionFree snapshot config ca builder)
    {sealFn : Bytes → Except SignError Bytes} {out : Bytes}
    (sealFits : SealFits (boxedSeal sealFn) builder.finalManifest.toCbor)
    (produced : production.produce ca snapshot config sealFn clock = .ok out) :
    ∃ bundle, Bundle.fromBytes out = .ok bundle ∧
      Agrees production ca snapshot config bundle := by
  obtain ⟨again, filledAgain, built⟩ := Production.produce_eq_ok.mp produced
  cases filled.symm.trans filledAgain
  obtain ⟨filling⟩ := Production.filling filled
  have reads : builder.finalManifest.ReadsBack :=
    manifests _ (congrArg Manifest.extensions filling.manifest) sealFits.manifestFits
  obtain ⟨header, kept, _, fits, parses⟩ := BundleBuilder.fromBytes_build sealFits reads built
  exact ⟨_, parses,
    filling.agrees header kept ⟨plain, certIds, responses, fit, collisionFree⟩ fits⟩

/-! ### Long seals

Under a longer seal the header points into the seal and the responder looks there
for the entry keys. -/

theorem Filling.distinct (filling : Filling production ca snapshot config clock builder)
    (faithful : Faithful snapshot config ca builder) (signs : snapshot.kept config ≠ [])
    (apart : production.discriminators.Nodup) : builder.Distinct := by
  have keys : (filling.prepared.flatMap PreparedEntry.entryKeys).Nodup := by
    apply (nodup_iff_of_forall₂ filling.keys ?_ ?_).mpr
    · rw [snapshot.nodup_certIds_iff]
      exact faithful.plain.serialsDistinct config
    · intro certId key other made same
      exact Except.ok.inj (made.symm.trans same)
    · intro left inLeft right inRight key leftKey rightKey
      exact eq_of_entryKey faithful.certIds faithful.plain faithful.collisionFree.certIds inLeft
        inRight leftKey rightKey
  unfold BundleBuilder.Distinct
  rw [filling.references, nodup_referenceWith
    (fun none => signs (filling.keys_eq_nil_iff.mp none))]
  exact ⟨fun _ => keys, apart⟩

theorem Agrees.payload_isSome {bundle : Bundle}
    (agrees : Agrees production ca snapshot config bundle)
    (filling : Filling production ca snapshot config clock builder) {reference : EntryRef}
    (referred : reference ∈ builder.entries.map fun entry => entry.1.reference) :
    ∃ payload, bundle.payload reference = some payload := by
  rw [filling.references] at referred
  obtain ⟨discriminator, signs, inside⟩ := List.mem_flatMap.mp referred
  obtain ⟨key, among, rfl⟩ := List.mem_map.mp inside
  obtain ⟨certId, made, keyed⟩ := filling.keys.exists_left among
  obtain ⟨der, encoded, rfl⟩ := entryKey_eq_ok.mp keyed
  obtain ⟨entry, kept, listed⟩ := List.mem_flatMap.mp made
  obtain ⟨asked, parsed, _, found⟩ := agrees.found entry kept certId listed
  obtain ⟨askedEncoded, askedKey⟩ := encoded_of_parseCertId parsed
  rw [encoded] at askedEncoded
  obtain ⟨payload, stored, _⟩ := found discriminator signs
  rw [askedKey, ← Except.ok.inj askedEncoded] at stored
  exact ⟨payload, stored⟩

theorem Filling.stray_disagrees (filling : Filling production ca snapshot config clock builder)
    (distinct : builder.Distinct) {bundle : Bundle} {others : List IndexRecord}
    (index : bundle.index = Ahu.strayRecord :: others)
    (few : others.length < builder.entries.length) :
    ¬ Agrees production ca snapshot config bundle := by
  intro agrees
  have served : builder.entries.map (fun entry => entry.1.reference) ⊆
      others.map IndexRecord.reference := by
    intro reference referred
    obtain ⟨payload, stored⟩ := agrees.payload_isSome filling referred
    rw [Ahu.Bundle.payload_eq_bind] at stored
    obtain ⟨record, search, bytes⟩ := Option.bind_eq_some_iff.mp stored
    obtain ⟨inside, same⟩ := Ahu.Bundle.mem_of_record search
    rw [index] at inside
    rcases List.mem_cons.mp inside with rfl | later
    · rw [Ahu.entryBytes_strayRecord] at bytes
      cases bytes
    · exact List.mem_map.mpr ⟨record, later, same⟩
  have count := (distinct.subperm served).length_le
  rw [List.length_map, List.length_map] at count
  omega

variable [Ciborium]

theorem Filling.exists_disagreement
    (filling : Filling production ca snapshot config clock builder)
    (faithful : Faithful snapshot config ca builder) (signs : snapshot.kept config ≠ [])
    (apart : production.discriminators.Nodup)
    (fits : builder.placement.data.length < 2 ^ 63)
    (manifestFits : builder.finalManifest.toCbor.length < 2 ^ 32) {length : Nat}
    (large : 2 ^ 32 ≤ length) (room : builder.sizeWith length < Ahu.maxVecLength) :
    ∃ out, builder.build (Ahu.strayFn length) = .ok out ∧
      ¬ ∃ bundle, Bundle.fromBytes out = .ok bundle ∧
        Agrees production ca snapshot config bundle := by
  have storable := filling.storable faithful.fit faithful.collisionFree.payloads
  obtain ⟨out, built, index⟩ := BundleBuilder.build_stray large manifestFits room
  refine ⟨out, built, ?_⟩
  rintro ⟨bundle, parses, agrees⟩
  obtain ⟨others, first, few⟩ := index bundle (fun none =>
    signs (filling.entries_eq_nil_iff.mp ((storable.length_eq_zero fits).mp none))) parses
  rw [storable.length_records fits] at few
  exact filling.stray_disagrees (filling.distinct faithful signs apart) first few agrees

end Agreement

/-! ### Listed messages -/

theorem Crates.responsesFit (messages : Crates.Messages)
    (short : ∀ response ∈ messages.responses, (Crates.responseDer response).length < 2 ^ 32) :
    @ResponsesFit (Crates.x509Ocsp messages) := by
  intro response der encoded
  obtain ⟨member, rfl⟩ := Crates.encodeListed_eq_ok.mp encoded
  exact short response member

/-! ### A revoked certificate under two keys -/

section Samples

local instance agreementSha2 : Sha2 := Crates.sha2
local instance agreementSha1 : Sha1 := Crates.sha1
local instance agreementCiborium : Ciborium := Crates.ciborium

def agreedSnapshot : StatusSnapshot :=
  { entries := Std.ExtTreeMap.ofList [(([1] : SerialBytes), CertificateStatus.good),
      ([2], CertificateStatus.revoked 500 (some .keyCompromise)), ([3], CertificateStatus.good)]
    thisUpdate := 1000
    nextUpdate := some 100000
    notAfter := Std.ExtTreeMap.ofList [(([3] : SerialBytes), (100 : UInt64))] }

def agreedConfig : GenerationConfig :=
  { producedConfig with
    certidCompat := .dual
    archiveCutoffSecs := 300 }

def agreedPqSigner : Signer :=
  { algorithm := .ok { oid := "2.16.840.1.101.3.4.3.18", parameters := none }
    trySign := fun _ => .ok [0x30, 0x01, 0x00] }

def agreedProduction : Production :=
  .dual producedSigner agreedPqSigner 4 none none

def agreedCertIds (serialNumber : Bytes) : List CertId :=
  agreedConfig.certidCompat.certIds producedCa.hashes serialNumber

def agreedSingles (serialNumber : Bytes) (status : CertStatus) : List SingleResponse :=
  (agreedCertIds serialNumber).map fun certId =>
    { certId := certId
      certStatus := status
      thisUpdate := Crates.timeAt 1000
      nextUpdate := some (Crates.timeAt 87400)
      singleExtensions := none }

def agreedBasic (oid : ObjectIdentifier) (signature : Bytes) : BasicOcspResponse :=
  { tbsResponseData :=
      { responderId := .byKey (Sha1.sha1 producedCa.issuerKeyBytes).val
        producedAt := Crates.timeAt 2000
        responses := agreedSingles [1] .good ++ agreedSingles [2] (.revoked
          { revocationTime := Crates.timeAt 500
            revocationReason := some .keyCompromise })
        responseExtensions := none }
    signatureAlgorithm := { oid := oid, parameters := none }
    signature := signature
    certs := none }

def agreedMessages : Crates.Messages :=
  { requests := []
    certIds := agreedCertIds [1] ++ agreedCertIds [2] ++ agreedCertIds [3]
    basics := [agreedBasic "1.2.840.10045.4.3.2" [0x30, 0x00],
      agreedBasic "2.16.840.1.101.3.4.3.18" [0x30, 0x01, 0x00]] }

local instance agreementX509Ocsp : X509Ocsp := Crates.x509Ocsp agreedMessages

def agreedOut : Except SignError Bytes :=
  agreedProduction.produce producedCa agreedSnapshot agreedConfig emptySeal producedClock

theorem agreedSnapshot_plain : agreedSnapshot.Plain := by
  have listed : ∀ serial ∈ agreedSnapshot.entries, serial ∈ [[1], [2], [3]] := by
    intro serial member
    exact List.contains_iff_mem.mp (Std.ExtTreeMap.mem_ofList.mp member)
  constructor
  case serials =>
    intro serial member
    have each : ∀ serial ∈ ([[1], [2], [3]] : List SerialBytes), serial ≠ [] := by decide
    exact each serial (listed serial member)
  case integers =>
    intro left inLeft right inRight
    have each : ∀ left ∈ ([[1], [2], [3]] : List SerialBytes), ∀ right ∈ [[1], [2], [3]],
        Bytes.toNatBE left = Bytes.toNatBE right → left = right := by
      decide
    exact each left (listed left inLeft) right (listed right inRight)
  case starts =>
    decide
  case revoked =>
    intro serial revocationTime reason present
    have member : serial ∈ agreedSnapshot.entries :=
      Std.ExtTreeMap.isSome_getElem?_iff_mem.mp (by rw [present]; rfl)
    have each : ∀ serial ∈ ([[1], [2], [3]] : List SerialBytes),
        (agreedSnapshot.entries[serial]?).all (fun status => match status with
          | CertificateStatus.good => true
          | CertificateStatus.revoked revocationTime _ =>
              revocationTime.toNat < 253402300800) = true := by
      decide +kernel
    have one := each serial (listed serial member)
    rw [present] at one
    exact of_decide_eq_true one

theorem agreedMessages_computed :
    (∀ left ∈ agreedMessages.certIds, ∀ right ∈ agreedMessages.certIds,
      Sha2.sha256 (Crates.certIdDer left) = Sha2.sha256 (Crates.certIdDer right) →
        left = right) ∧
    (∀ left ∈ agreedMessages.basics, ∀ right ∈ agreedMessages.basics,
      Crates.basicDer left = Crates.basicDer right → left = right) ∧
    (∀ left ∈ agreedMessages.responses, ∀ right ∈ agreedMessages.responses,
      Crates.responseDer left = Crates.responseDer right → left = right) ∧
    (∀ response ∈ agreedMessages.responses, (Crates.responseDer response).length < 2 ^ 32) ∧
    agreedSnapshot.kept agreedConfig ≠ [] ∧
    agreedOut.toOption.map (fun out => decide (out.length < 2 ^ 16)) = some true :=
  ⟨by decide +kernel, by decide +kernel, by decide +kernel, by decide +kernel,
    by decide +kernel, by decide +kernel⟩

theorem agreedOut_short : ∃ out, agreedOut = .ok out ∧ out.length < 2 ^ 16 := by
  obtain ⟨_, _, _, _, _, view⟩ := agreedMessages_computed
  obtain ⟨out, produced, short⟩ := Option.map_eq_some_iff.mp view
  exact ⟨out, Except.toOption_eq_some.mp produced, of_decide_eq_true short⟩

theorem agreedCertIds_readBack (ca : CaIdentity) : CertIdsReadBack ca := by
  have distinct : ∀ left ∈ agreedMessages.certIds, ∀ right ∈ agreedMessages.certIds,
      Crates.certIdDer left = Crates.certIdDer right → left = right :=
    fun left inLeft right inRight same =>
      agreedMessages_computed.1 left inLeft right inRight (by rw [same])
  intro compat serial present certId listed der encoded
  exact Crates.decodeListed_encodeListed distinct encoded

theorem agreedResponses_readBack : ResponsesReadBack :=
  Crates.responsesReadBack agreedMessages agreedMessages_computed.2.1
    agreedMessages_computed.2.2.1

theorem agreedResponses_fit : ResponsesFit :=
  Crates.responsesFit agreedMessages agreedMessages_computed.2.2.2.1

theorem agreed_collisionFree {builder : BundleBuilder}
    (filled : agreedProduction.fill producedCa agreedSnapshot agreedConfig producedClock =
      .ok builder) : CollisionFree agreedSnapshot agreedConfig producedCa builder := by
  constructor
  · have distinct := agreedMessages_computed.1
    rintro leftDer ⟨left, _, encodedLeft⟩ rightDer ⟨right, _, encodedRight⟩ same
    obtain ⟨inLeft, rfl⟩ := Crates.encodeListed_eq_ok.mp encodedLeft
    obtain ⟨inRight, rfl⟩ := Crates.encodeListed_eq_ok.mp encodedRight
    rw [distinct left inLeft right inRight same]
  · have distinct : (agreedProduction.fill producedCa agreedSnapshot agreedConfig
        producedClock).toOption.map (fun builder =>
          decide (∀ left ∈ builder.entries, ∀ right ∈ builder.entries,
            Sha2.sha256 left.2 = Sha2.sha256 right.2 → left.2 = right.2)) = some true := by
      decide +kernel
    rw [filled] at distinct
    have injective := of_decide_eq_true (Option.some.inj distinct)
    rintro _ ⟨left, inLeft, _, rfl⟩ _ ⟨right, inRight, _, rfl⟩ same
    exact injective left inLeft right inRight same

theorem revoked_serial_agrees :
    ∃ out bundle, agreedOut = .ok out ∧ Bundle.fromBytes out = .ok bundle ∧
      Agrees agreedProduction producedCa agreedSnapshot agreedConfig bundle := by
  obtain ⟨out, produced, _⟩ := agreedOut_short
  obtain ⟨builder, filled, built⟩ := Production.produce_eq_ok.mp produced
  obtain ⟨bundle, parses, agrees⟩ := production_agrees agreedSnapshot_plain
    (fun manifest plain short => Crates.readsBack plain (Nat.lt_trans short (by decide)))
    (agreedCertIds_readBack producedCa) agreedResponses_readBack agreedResponses_fit filled
    (agreed_collisionFree filled) ((sealsWith_emptySeal built).fits (by decide)) produced
  exact ⟨out, bundle, produced, parses, agrees⟩

/-- Under a seal of 2^32 octets the same certificates are produced into a file
whose lookups do not agree. -/
theorem long_seal_disagrees :
    ∃ sealFn out, agreedProduction.produce producedCa agreedSnapshot agreedConfig sealFn
        producedClock = .ok out ∧
      ¬ ∃ bundle, Bundle.fromBytes out = .ok bundle ∧
        Agrees agreedProduction producedCa agreedSnapshot agreedConfig bundle := by
  obtain ⟨out, produced, short⟩ := agreedOut_short
  obtain ⟨builder, filled, built⟩ := Production.produce_eq_ok.mp produced
  obtain ⟨filling⟩ := Production.filling filled
  have faithful : Faithful agreedSnapshot agreedConfig producedCa builder :=
    { plain := agreedSnapshot_plain
      certIds := agreedCertIds_readBack producedCa
      responses := agreedResponses_readBack
      fit := agreedResponses_fit
      collisionFree := agreed_collisionFree filled }
  have seals := sealsWith_emptySeal built
  obtain ⟨sealBytes, made, _⟩ := BundleBuilder.build_eq_ok.mp built
  obtain ⟨size, _⟩ := BundleBuilder.length_build made built
  have room : builder.sizeWith (2 ^ 32) < Ahu.maxVecLength := by
    have most : Ahu.maxVecLength = 2 ^ 63 := rfl
    rw [seals.sealLength sealBytes made] at size
    unfold BundleBuilder.sizeWith at size ⊢
    omega
  obtain ⟨strayOut, strayBuilt, disagrees⟩ := filling.exists_disagreement faithful
    agreedMessages_computed.2.2.2.2.1 (by decide) (BundleBuilder.data_fits built)
    seals.manifestFits (Nat.le_refl _) room
  refine ⟨fun manifestBytes => (Ahu.strayFn (2 ^ 32) manifestBytes).mapError .bundle, strayOut,
    Production.produce_eq_ok.mpr ⟨builder, filled, ?_⟩, disagrees⟩
  apply (build_congr fun manifestBytes sealBytes => ?_).mpr strayBuilt
  exact boxedSeal_eq_ok.trans Except.mapError_eq_ok

end Samples

end Hoike
