/-
The flags of index records and what they say about payloads.

MULTI stands for a payload with more than one response, ALIAS for a payload that
another record points at.  The records of a bucket are flagged in pairs, so an odd
one out of three or more misses its MULTI, and materialization keeps no flag at all.
ALIAS is always right.
-/

import Mathlib.Algebra.Group.Nat.Even
import Hoike.Ahu.DeltaFold
import Hoike.Ahu.PayloadRanges
import Hoike.Sign.Agreement

namespace Hoike

open Ahu (BundleBuilder Bundle IndexRecord EntryRef IndexFlags aliasFlags)
open Ocsp

/-! ### Flags in pairs -/

theorem flags_of_mem_sharedEntries {responseDer : Bytes} {discriminator : UInt16}
    {keys : List (Octets 32)} {entry : IndexRecord × Bytes}
    (member : entry ∈ sharedEntries responseDer discriminator keys) :
    (entry.1.flags = aliasFlags ∧ 1 < keys.length) ∨
      (entry.1.flags = .empty ∧ Odd keys.length) := by
  fun_induction sharedEntries responseDer discriminator keys with
  | case1 =>
      cases member
  | case2 key =>
      rw [List.mem_singleton.mp member]
      exact Or.inr ⟨rfl, odd_one⟩
  | case3 first second rest ih =>
      rw [List.length_cons, List.length_cons]
      rcases List.mem_cons.mp member with here | member
      · rw [here]
        exact Or.inl ⟨rfl, by omega⟩
      rcases List.mem_cons.mp member with here | later
      · rw [here]
        exact Or.inl ⟨rfl, by omega⟩
      · rcases ih later with flagged | plain
        · exact Or.inl ⟨flagged.1, by omega⟩
        · exact Or.inr ⟨plain.1, plain.2.add_even even_two⟩

theorem exists_plain_of_odd {responseDer : Bytes} {discriminator : UInt16}
    {keys : List (Octets 32)} (odd : Odd keys.length) :
    ∃ entry ∈ sharedEntries responseDer discriminator keys, entry.1.flags = .empty := by
  fun_induction sharedEntries responseDer discriminator keys with
  | case1 =>
      exact absurd odd (by decide)
  | case2 key =>
      exact ⟨_, List.mem_singleton_self _, rfl⟩
  | case3 first second rest ih =>
      rw [List.length_cons, List.length_cons, Nat.odd_add_one, Nat.odd_add_one, not_not] at odd
      obtain ⟨entry, member, plain⟩ := ih odd
      exact ⟨entry, List.mem_cons_of_mem _ (List.mem_cons_of_mem _ member), plain⟩

theorem multi_sharedEntries_iff (responseDer : Bytes) (discriminator : UInt16)
    (keys : List (Octets 32)) :
    (∀ entry ∈ sharedEntries responseDer discriminator keys,
        (entry.1.flags.multi = true ↔ 1 < keys.length)) ↔
      keys.length = 1 ∨ Even keys.length := by
  constructor
  · intro right
    rw [or_iff_not_imp_right, Nat.not_even_iff_odd]
    intro odd
    obtain ⟨entry, member, plain⟩ := exists_plain_of_odd odd
    have few := (right entry member).not.mp (by rw [plain]; decide)
    have positive := odd.pos
    omega
  · intro fits entry member
    rcases flags_of_mem_sharedEntries member with flagged | plain
    · rw [flagged.1]
      exact ⟨fun _ => flagged.2, fun _ => rfl⟩
    · rw [plain.1]
      have one : keys.length = 1 := fits.resolve_right (Nat.not_even_iff_odd.mpr plain.2)
      rw [one]
      decide

theorem two_le_countP_sharedEntries {responseDer : Bytes} {discriminator : UInt16}
    {keys : List (Octets 32)} {entry : IndexRecord × Bytes}
    (member : entry ∈ sharedEntries responseDer discriminator keys)
    (flagged : entry.1.isAlias = true) :
    2 ≤ (sharedEntries responseDer discriminator keys).countP fun other =>
      other.1.isAlias && decide (other.2 = entry.2) := by
  have own := (payload_of_mem_sharedEntries member).1
  have several : 1 < keys.length := by
    rcases flags_of_mem_sharedEntries member with flagged | plain
    · exact flagged.2
    · unfold IndexRecord.isAlias at flagged
      rw [plain.1] at flagged
      cases flagged
  cases keys with
  | nil =>
      cases several
  | cons first rest =>
      cases rest with
      | nil =>
          exact absurd several (Nat.lt_irrefl 1)
      | cons second rest =>
          rw [sharedEntries, List.countP_cons_of_pos, List.countP_cons_of_pos]
          · omega
          all_goals
            dsimp only
            rw [own, decide_eq_true rfl]
            rfl

section Flags

variable [X509Ocsp]

/-! ### What payloads carry -/

def Encodes (payload : Bytes) (basic : BasicOcspResponse) : Prop :=
  ∃ der, X509Ocsp.basicToDer basic = .ok der ∧
    X509Ocsp.responseToDer
      { responseStatus := .successful
        responseBytes := some { responseType := idPkixOcspBasic, response := der } } = .ok payload

def CarriesSeveral (payload : Bytes) : Prop :=
  ∃ basic, Encodes payload basic ∧ 1 < basic.tbsResponseData.responses.length

/-- The `der` crate writes different responses differently, and each as at least one
and fewer than 2^32 octets. -/
structure ResponseEncodings : Prop where
  injective : ∀ payload left right, Encodes payload left → Encodes payload right → left = right
  written : ∀ basic, ¬Encodes [] basic
  fit : ResponsesFit

/-- MULTI and ALIAS of every record say what their names say. -/
structure Ahu.Bundle.FlagsTruthful (bundle : Bundle) : Prop where
  multi : ∀ record ∈ bundle.index, (record.flags.multi = true ↔
    ∃ payload, bundle.entryBytes record = some payload ∧ CarriesSeveral payload)
  aliased : Ahu.AliasesTruthful bundle.index

def ResponseEntry (entry : IndexRecord × Bytes) : Prop :=
  entry.1.isTombstone = false ∧ ∃ basic, Encodes entry.2 basic

variable [Sha2] [Ciborium] {builder : BundleBuilder}

theorem flagsTruthful_written_iff (header : Ahu.FileHeader) (sealBytes : Bytes)
    (encodings : ResponseEncodings) (storable : builder.Storable)
    (fits : builder.placement.data.length < 2 ^ 63)
    (responses : ∀ entry ∈ builder.entries, ResponseEntry entry)
    (paired : ∀ entry ∈ builder.entries, entry.1.isAlias = true →
      2 ≤ builder.entries.countP fun other =>
        other.1.isAlias && decide (Sha2.sha256 other.2 = Sha2.sha256 entry.2)) :
    (builder.written header sealBytes).FlagsTruthful ↔
      ∀ entry ∈ builder.entries, (entry.1.flags.multi = true ↔ CarriesSeveral entry.2) := by
  have reads : ∀ {entry record}, entry ∈ builder.entries →
      Ahu.PlacedIn builder.placement.data entry record →
      (builder.written header sealBytes).entryBytes record = some entry.2 := by
    intro entry record member placed
    rw [BundleBuilder.written_entryBytes header sealBytes fits placed, (responses entry member).1,
      if_neg Bool.false_ne_true]
  constructor
  · intro truthful entry member
    obtain ⟨record, listed, placed⟩ := storable.record_of_entry header sealBytes fits member
    have right := truthful.multi record listed
    rw [placed.flags, reads member placed] at right
    simpa only [Option.some.injEq, exists_eq_left'] using right
  · intro right
    constructor
    · intro record listed
      obtain ⟨entry, member, placed⟩ := storable.entry_of_record header sealBytes fits listed
      rw [placed.flags, reads member placed, right entry member]
      simp only [Option.some.injEq, exists_eq_left']
    · apply BundleBuilder.aliasesTruthful _ (by omega) paired
      intro entry member
      obtain ⟨live, basic, encoded⟩ := responses entry member
      refine ⟨live, ?_⟩
      intro empty
      rw [empty] at encoded
      exact encodings.written basic encoded

end Flags

section Produced

variable [Sha2] [Sha1] [X509Ocsp]

/-! ### Buckets of a production -/

def CertIdCompat.idCount : CertIdCompat → Nat
  | .dual => 2
  | .sha256Only | .sha1Only => 1

variable {production : Production} {ca : CaIdentity} {snapshot : StatusSnapshot}
  {config : GenerationConfig} {clock : Clock} {builder : BundleBuilder}

omit [Sha1] in
theorem length_of_prepareEntry {issuer : IssuerHashes} {thisUpdate : DateTime}
    {nextUpdateBase : UInt64} {entry : SerialBytes × CertificateStatus}
    {prepared : PreparedEntry}
    (made : prepareEntry snapshot config issuer thisUpdate nextUpdateBase entry = .ok prepared) :
    prepared.entryKeys.length = config.certidCompat.idCount ∧
      prepared.singleResponses.length = config.certidCompat.idCount := by
  obtain ⟨_, serialNumber, _, _, _, _, _, _, keys, singles⟩ := prepareEntry_eq_ok.mp made
  have count : (config.certidCompat.certIds issuer serialNumber).length =
      config.certidCompat.idCount := by
    cases config.certidCompat <;> rfl
  rw [singles, List.length_map, count, ← (Except.mapM_eq_ok.mp keys).length_eq, count]
  exact ⟨rfl, rfl⟩

theorem Filling.length_keys (filling : Filling production ca snapshot config clock builder)
    {bucket : List PreparedEntry} (part : bucket ⊆ filling.prepared) :
    (bucket.flatMap PreparedEntry.entryKeys).length =
        bucket.length * config.certidCompat.idCount ∧
      (bucket.flatMap PreparedEntry.singleResponses).length =
        bucket.length * config.certidCompat.idCount := by
  induction bucket with
  | nil =>
      simp
  | cons prepared rest ih =>
      obtain ⟨first, others⟩ := List.cons_subset.mp part
      obtain ⟨entry, _, made⟩ := Except.exists_of_mem_mapM filling.preparedMade first
      obtain ⟨keys, singles⟩ := length_of_prepareEntry made
      obtain ⟨restKeys, restSingles⟩ := ih others
      rw [List.flatMap_cons, List.flatMap_cons, List.length_append, List.length_append, keys,
        singles, restKeys, restSingles, List.length_cons, Nat.succ_mul, Nat.add_comm]
      exact ⟨rfl, rfl⟩

/-- The records that a bucket has in the builder, under a response signed for it. -/
structure BucketRecords (filling : Filling production ca snapshot config clock builder)
    (bucket : List PreparedEntry) (discriminator : UInt16) (payload : Bytes) : Prop where
  signed : ∃ responder, signBucket responder filling.times.producedAt bucket = .ok payload
  added : (sharedEntries payload discriminator
    (bucket.flatMap PreparedEntry.entryKeys)).Sublist builder.entries

theorem Filling.bucket_of_entry (filling : Filling production ca snapshot config clock builder)
    {entry : IndexRecord × Bytes} (member : entry ∈ builder.entries) :
    ∃ bucket ∈ Chunks.chunks (max config.bucketSize 1) filling.prepared,
      ∃ discriminator payload, BucketRecords filling bucket discriminator payload ∧
        entry ∈ sharedEntries payload discriminator
          (bucket.flatMap PreparedEntry.entryKeys) := by
  have entries := filling.entries
  rw [entries] at member
  obtain ⟨group, among, member⟩ := List.mem_flatten.mp member
  obtain ⟨discriminator, _, responder, buckets, each, rfl⟩ := filling.signed.exists_left among
  obtain ⟨added, listed, member⟩ := List.mem_flatten.mp member
  obtain ⟨bucket, inside, here⟩ := each.exists_left listed
  obtain ⟨payload, signed, rfl⟩ := here.signed
  refine ⟨bucket, inside, discriminator, payload, ⟨⟨responder, signed⟩, ?_⟩, member⟩
  rw [entries]
  exact (List.sublist_flatten_of_mem listed).trans (List.sublist_flatten_of_mem among)

theorem Filling.records_of_bucket (filling : Filling production ca snapshot config clock builder)
    {bucket : List PreparedEntry}
    (inside : bucket ∈ Chunks.chunks (max config.bucketSize 1) filling.prepared) :
    ∃ discriminator payload, BucketRecords filling bucket discriminator payload := by
  obtain ⟨group, among, responder, buckets, each, rfl⟩ :=
    filling.signed.exists_right production.zero_mem_discriminators
  obtain ⟨added, listed, here⟩ := each.exists_right inside
  obtain ⟨payload, signed, rfl⟩ := here.signed
  refine ⟨0, payload, ⟨responder, signed⟩, ?_⟩
  rw [filling.entries]
  exact (List.sublist_flatten_of_mem listed).trans (List.sublist_flatten_of_mem among)

theorem BucketRecords.carriesSeveral_iff {filling : Filling production ca snapshot config clock
      builder} {bucket : List PreparedEntry} {discriminator : UInt16} {payload : Bytes}
    (records : BucketRecords filling bucket discriminator payload)
    (encodings : ResponseEncodings)
    (inside : bucket ∈ Chunks.chunks (max config.bucketSize 1) filling.prepared) :
    CarriesSeveral payload ↔ 1 < (bucket.flatMap PreparedEntry.entryKeys).length := by
  obtain ⟨responder, signed⟩ := records.signed
  obtain ⟨basic, der, inner, outer, responses⟩ := encoded_of_signBucket signed
  obtain ⟨keys, singles⟩ := filling.length_keys (filling.mem_of_bucket inside).subset
  have count : basic.tbsResponseData.responses.length =
      (bucket.flatMap PreparedEntry.entryKeys).length := by
    rw [responses, keys, singles]
  rw [← count]
  constructor
  · rintro ⟨other, encoded, several⟩
    rw [encodings.injective payload basic other ⟨der, inner, outer⟩ encoded]
    exact several
  · intro several
    exact ⟨basic, ⟨der, inner, outer⟩, several⟩

theorem Filling.responseEntry (filling : Filling production ca snapshot config clock builder)
    {entry : IndexRecord × Bytes} (member : entry ∈ builder.entries) : ResponseEntry entry := by
  obtain ⟨live, _, _, responder, bucket, _, signed, _⟩ := filling.payload member
  obtain ⟨basic, der, inner, outer, _⟩ := encoded_of_signBucket signed
  exact ⟨live, basic, der, inner, outer⟩

theorem Filling.paired (filling : Filling production ca snapshot config clock builder)
    {entry : IndexRecord × Bytes} (member : entry ∈ builder.entries)
    (flagged : entry.1.isAlias = true) :
    2 ≤ builder.entries.countP fun other =>
      other.1.isAlias && decide (Sha2.sha256 other.2 = Sha2.sha256 entry.2) := by
  obtain ⟨bucket, _, discriminator, payload, records, among⟩ := filling.bucket_of_entry member
  refine Nat.le_trans (two_le_countP_sharedEntries among flagged)
    (Nat.le_trans (List.countP_mono_left ?_) records.added.countP_le)
  intro other _ companion
  obtain ⟨also, same⟩ := Bool.and_eq_true_iff.mp companion
  rw [also, of_decide_eq_true same, decide_eq_true rfl]
  rfl

/-- Each bucket has one key or an even number of them. -/
def EvenBuckets (snapshot : StatusSnapshot) (config : GenerationConfig) : Prop :=
  config.certidCompat = .dual ∨
    ∀ bucket ∈ Chunks.chunks (max config.bucketSize 1) (snapshot.kept config),
      bucket.length = 1 ∨ Even bucket.length

omit [Sha2] [Sha1] [X509Ocsp] in
theorem evenBuckets_iff {prepared : List PreparedEntry}
    (same : (snapshot.kept config).length = prepared.length) :
    EvenBuckets snapshot config ↔
      ∀ bucket ∈ Chunks.chunks (max config.bucketSize 1) prepared,
        bucket.length * config.certidCompat.idCount = 1 ∨
          Even (bucket.length * config.certidCompat.idCount) := by
  have lengths : (Chunks.chunks (max config.bucketSize 1) (snapshot.kept config)).map
        List.length =
      (Chunks.chunks (max config.bucketSize 1) prepared).map List.length :=
    Chunks.map_length_chunks same
  have transfer : (∀ bucket ∈ Chunks.chunks (max config.bucketSize 1) (snapshot.kept config),
      bucket.length = 1 ∨ Even bucket.length) ↔
        ∀ bucket ∈ Chunks.chunks (max config.bucketSize 1) prepared,
          bucket.length = 1 ∨ Even bucket.length := by
    rw [← List.forall_mem_map (f := List.length) (P := fun length => length = 1 ∨ Even length),
      lengths, List.forall_mem_map]
  unfold EvenBuckets
  rw [transfer]
  cases config.certidCompat with
  | dual =>
      exact iff_of_true (Or.inl rfl) fun bucket _ => Or.inr (even_two.mul_left _)
  | sha256Only =>
      simp [CertIdCompat.idCount]
  | sha1Only =>
      simp [CertIdCompat.idCount]

theorem Filling.multi_iff (filling : Filling production ca snapshot config clock builder)
    (encodings : ResponseEncodings) :
    (∀ entry ∈ builder.entries, (entry.1.flags.multi = true ↔ CarriesSeveral entry.2)) ↔
      EvenBuckets snapshot config := by
  have same : (snapshot.kept config).length = filling.prepared.length :=
    (Except.mapM_eq_ok.mp filling.preparedMade).length_eq
  rw [evenBuckets_iff same]
  constructor
  · intro right bucket inside
    obtain ⟨discriminator, payload, records⟩ := filling.records_of_bucket inside
    rw [← (filling.length_keys (filling.mem_of_bucket inside).subset).1,
      ← multi_sharedEntries_iff payload discriminator]
    intro entry member
    rw [right entry (records.added.subset member), (payload_of_mem_sharedEntries member).1]
    exact records.carriesSeveral_iff encodings inside
  · intro even entry member
    obtain ⟨bucket, inside, discriminator, payload, records, among⟩ :=
      filling.bucket_of_entry member
    have own := even bucket inside
    rw [← (filling.length_keys (filling.mem_of_bucket inside).subset).1] at own
    rw [(multi_sharedEntries_iff _ _ _).mpr own entry among, (payload_of_mem_sharedEntries among).1]
    exact (records.carriesSeveral_iff encodings inside).symm

theorem Filling.flagsTruthful_iff [Ciborium]
    (filling : Filling production ca snapshot config clock builder)
    (encodings : ResponseEncodings) (collisionFree : Set.InjOn Sha2.sha256 builder.aliases)
    (fits : builder.placement.data.length < 2 ^ 63) (header : Ahu.FileHeader)
    (sealBytes : Bytes) :
    (builder.written header sealBytes).FlagsTruthful ↔ EvenBuckets snapshot config := by
  rw [flagsTruthful_written_iff header sealBytes encodings
    (filling.storable encodings.fit collisionFree) fits
    (fun _ member => filling.responseEntry member)
    (fun _ member flagged => filling.paired member flagged)]
  exact filling.multi_iff encodings

def Ahu.Bundle.CarriesResponses (bundle : Bundle) : Prop :=
  ∀ record ∈ bundle.index, ∀ payload, bundle.entryBytes record = some payload →
    ∃ basic, Encodes payload basic

theorem Filling.carriesResponses (filling : Filling production ca snapshot config clock builder)
    (encodings : ResponseEncodings) (collisionFree : Set.InjOn Sha2.sha256 builder.aliases)
    (fits : builder.placement.data.length < 2 ^ 63) {bundle : Bundle}
    (index : bundle.index = builder.placement.records)
    (data : bundle.data = builder.placement.data) : bundle.CarriesResponses := by
  intro record listed payload content
  rw [index] at listed
  obtain ⟨entry, present, placed⟩ :=
    ((filling.storable encodings.fit collisionFree).placed fits).exists_left listed
  obtain ⟨live, encoded⟩ := filling.responseEntry (BundleBuilder.mem_sorted.mp present)
  have flags : record.isTombstone = false := by
    unfold IndexRecord.isTombstone
    rw [placed.flags]
    exact live
  have stored := placed.stored live
  rw [← data] at stored fits
  rw [Bundle.entryBytes_of_storedAt flags (by omega) stored] at content
  cases content
  exact encoded

end Produced

/-! ### Materialized bundles -/

section Materialized

variable [Sha2] [Ciborium] [X509Ocsp]

variable {base : Bundle} {deltas : List Bundle} {sealFn : Bytes → Except Ahu.AhuError Bytes}
  {result : Ahu.ApplyResult} {window : Ahu.Window}

omit [X509Ocsp] in
theorem Ahu.Applied.mem_entries_iff (applied : Ahu.Applied base deltas sealFn result window)
    {entry : IndexRecord × Bytes} :
    entry ∈ (Ahu.outputBuilder base deltas result.finalEpoch window).entries ↔
      ∃ reference source, Ahu.retained (base :: deltas) reference = some (source, entry.2) ∧
        entry.1 = Ahu.unplacedRecord reference.entryKey .empty reference.discriminator
          entry.2 := by
  unfold Ahu.outputBuilder
  rw [Ahu.materializedBuilder_eq, List.mem_map]
  constructor
  · rintro ⟨⟨reference, held⟩, listed, rfl⟩
    obtain ⟨source, found, _⟩ :=
      applied.holds.entry (Std.TreeMap.mem_toList_iff_getElem?_eq_some.mp listed)
    exact ⟨reference, source, found, rfl⟩
  · rintro ⟨reference, source, found, record⟩
    obtain ⟨held, present, data, _⟩ := applied.holds.origin found
    refine ⟨(reference, held), Std.TreeMap.mem_toList_iff_getElem?_eq_some.mpr present, ?_⟩
    dsimp only
    rw [data, ← record]

omit [Sha2] [Ciborium] in
theorem encoded_of_retained {inputs : List Bundle}
    (responses : ∀ input ∈ inputs, input.CarriesResponses) {reference : EntryRef}
    {source : Bundle} {payload : Bytes}
    (found : Ahu.retained inputs reference = some (source, payload)) :
    ∃ basic, Encodes payload basic := by
  have among := Ahu.mem_inputs_of_retained found
  obtain ⟨_, _, record, _, present, content, _⟩ := Ahu.retained_eq_some_iff.mp found
  exact responses source among record (Bundle.mem_of_record present).1 payload content

theorem Ahu.Applied.flagsTruthful_iff (applied : Ahu.Applied base deltas sealFn result window)
    (encodings : ResponseEncodings)
    (responses : ∀ input ∈ base :: deltas, input.CarriesResponses) (header : Ahu.FileHeader)
    (sealBytes : Bytes) :
    ((Ahu.outputBuilder base deltas result.finalEpoch window).written header
        sealBytes).FlagsTruthful ↔
      ∀ reference source payload,
        Ahu.retained (base :: deltas) reference = some (source, payload) →
          ¬CarriesSeveral payload := by
  have unflagged : ∀ entry ∈ (Ahu.outputBuilder base deltas result.finalEpoch window).entries,
      entry.1.flags = .empty := by
    intro entry member
    obtain ⟨_, _, _, record⟩ := applied.mem_entries_iff.mp member
    rw [record]
    rfl
  rw [flagsTruthful_written_iff header sealBytes encodings applied.sound.toStorable
    (BundleBuilder.data_fits applied.built)]
  · constructor
    · intro right reference source payload found several
      let entry : IndexRecord × Bytes := (Ahu.unplacedRecord reference.entryKey .empty
        reference.discriminator payload, payload)
      have member : entry ∈ (Ahu.outputBuilder base deltas result.finalEpoch window).entries :=
        applied.mem_entries_iff.mpr ⟨reference, source, found, rfl⟩
      have flagged := (right entry member).mpr several
      cases flagged
    · intro single entry member
      obtain ⟨reference, source, found, _⟩ := applied.mem_entries_iff.mp member
      rw [unflagged entry member]
      exact iff_of_false Bool.false_ne_true (single reference source entry.2 found)
  · intro entry member
    obtain ⟨_, _, found, record⟩ := applied.mem_entries_iff.mp member
    refine ⟨?_, encoded_of_retained responses found⟩
    rw [record]
    rfl
  · intro entry member flagged
    unfold IndexRecord.isAlias at flagged
    rw [unflagged entry member] at flagged
    cases flagged

end Materialized

/-! ### Files -/

section Files

variable [Sha2] [Sha1] [Ciborium] [X509Ocsp]

/-- The file is the one of this builder, and a reader gets the built bundle from it
unless the lengths of manifest and seal do not fit the header. -/
structure BuiltAs (builder : BundleBuilder) (sealFn : Bytes → Except Ahu.AhuError Bytes)
    (out : Bytes) : Prop where
  built : builder.build sealFn = .ok out
  read : Ahu.SealFits sealFn builder.finalManifest.toCbor → builder.finalManifest.ReadsBack →
    ∃ header kept, Bundle.fromBytes out = .ok (builder.written header kept)

omit [Sha1] [X509Ocsp] in
theorem builtAs {builder : BundleBuilder} {sealFn : Bytes → Except Ahu.AhuError Bytes}
    {out : Bytes} (built : builder.build sealFn = .ok out) : BuiltAs builder sealFn out where
  built := built
  read := by
    intro fits readsBack
    obtain ⟨header, kept, _, _, parses⟩ := BundleBuilder.fromBytes_build fits readsBack built
    exact ⟨header, kept, parses⟩

/-- The flags of a produced bundle are true exactly when no bucket has an odd number
of keys from three on.  Those of a bundle that is materialized over it are true
exactly when no retained payload carries several responses. -/
theorem entry_flags_truthful_iff {production : Production} {ca : CaIdentity}
    {snapshot : StatusSnapshot} {config : GenerationConfig} {clock : Clock}
    {sealFn : Bytes → Except SignError Bytes} {out : Bytes} (encodings : ResponseEncodings)
    (collisionFree : ∀ builder, production.fill ca snapshot config clock = .ok builder →
      Set.InjOn Sha2.sha256 builder.aliases)
    (produced : production.produce ca snapshot config sealFn clock = .ok out) :
    ∃ builder, BuiltAs builder (boxedSeal sealFn) out ∧
      (∀ header sealBytes, (builder.written header sealBytes).FlagsTruthful ↔
        EvenBuckets snapshot config) ∧
      ∀ (base : Bundle) (deltas : List Bundle) applySeal result,
        base.index = builder.placement.records → base.data = builder.placement.data →
        (∀ delta ∈ deltas, delta.CarriesResponses) →
        Ahu.applySealed base deltas applySeal = .ok result →
        ∃ merged, BuiltAs merged applySeal result.bytes ∧
          ∀ header sealBytes, (merged.written header sealBytes).FlagsTruthful ↔
            ∀ reference source payload,
              Ahu.retained (base :: deltas) reference = some (source, payload) →
                ¬CarriesSeveral payload := by
  obtain ⟨builder, filled, built⟩ := Production.produce_eq_ok.mp produced
  obtain ⟨filling⟩ := Production.filling filled
  have fits := BundleBuilder.data_fits built
  have payloads := collisionFree builder filled
  refine ⟨builder, builtAs built, fun header sealBytes =>
    filling.flagsTruthful_iff encodings payloads fits header sealBytes, ?_⟩
  intro base deltas applySeal result index data responses accepted
  obtain ⟨window, applied⟩ := Ahu.applySealed_eq_ok.mp accepted
  refine ⟨_, builtAs applied.built, fun header sealBytes =>
    applied.flagsTruthful_iff encodings ?_ header sealBytes⟩
  intro input member
  rcases List.mem_cons.mp member with rfl | delta
  · exact filling.carriesResponses encodings payloads fits index data
  · exact responses input delta

end Files

/-! ### Listed responses -/

theorem Crates.responseEncodings (messages : Crates.Messages)
    (distinct : ∀ left ∈ messages.basics, ∀ right ∈ messages.basics,
      Crates.basicDer left = Crates.basicDer right → left = right)
    (distinctResponses : ∀ left ∈ messages.responses, ∀ right ∈ messages.responses,
      Crates.responseDer left = Crates.responseDer right → left = right)
    (short : ∀ response ∈ messages.responses, (Crates.responseDer response).length < 2 ^ 32) :
    @ResponseEncodings (Crates.x509Ocsp messages) := by
  refine @ResponseEncodings.mk (Crates.x509Ocsp messages) ?injective ?written ?fit
  case injective =>
    rintro payload left right ⟨_, innerLeft, outerLeft⟩ ⟨_, innerRight, outerRight⟩
    have first := Crates.parseBasic_encoded messages distinct distinctResponses innerLeft outerLeft
    have second := Crates.parseBasic_encoded messages distinct distinctResponses innerRight
      outerRight
    exact Except.ok.inj (first.symm.trans second)
  case written =>
    rintro basic ⟨der, _, outer⟩
    obtain ⟨_, empty⟩ := Crates.encodeListed_eq_ok.mp outer
    exact List.cons_ne_nil _ _ empty
  case fit =>
    exact Crates.responsesFit messages short

/-! ### Two and three certificates in one bucket -/

section Samples

local instance flagsSha2 : Sha2 := Crates.sha2
local instance flagsSha1 : Sha1 := Crates.sha1
local instance flagsCiborium : Ciborium := Crates.ciborium

def bucketBasic (serials : List Bytes) : BasicOcspResponse :=
  { tbsResponseData :=
      { responderId := .byKey (Sha1.sha1 producedCa.issuerKeyBytes).val
        producedAt := Crates.timeAt 2000
        responses := serials.map fun serial =>
          { certId := producedCertId serial
            certStatus := .good
            thisUpdate := Crates.timeAt 1000
            nextUpdate := some (Crates.timeAt 87400)
            singleExtensions := none }
        responseExtensions := none }
    signatureAlgorithm := { oid := "1.2.840.10045.4.3.2", parameters := none }
    signature := [0x30, 0x00]
    certs := none }

def bucketMessages : Crates.Messages :=
  { requests := []
    certIds := [producedCertId [1], producedCertId [2], producedCertId [3]]
    basics := [bucketBasic [[1], [2]], bucketBasic [[1], [2], [3]]] }

local instance flagsX509Ocsp : X509Ocsp := Crates.x509Ocsp bucketMessages

def bucketOut (serials : List SerialBytes) : Except SignError Bytes :=
  (Production.single producedSigner none).produce producedCa (producedSnapshot serials)
    { producedConfig with bucketSize := serials.length } emptySeal producedClock

theorem bucketMessages_encodings : ResponseEncodings := by
  apply Crates.responseEncodings bucketMessages
  · decide +kernel
  · decide +kernel
  · decide +kernel

theorem bucket_collisionFree (builder : BundleBuilder)
    (filled : (Production.single producedSigner none).fill producedCa (producedSnapshot [[1], [2]])
      { producedConfig with bucketSize := 2 } producedClock = .ok builder) :
    Set.InjOn Sha2.sha256 builder.aliases := by
  have one : ((Production.single producedSigner none).fill producedCa
      (producedSnapshot [[1], [2]]) { producedConfig with bucketSize := 2 }
      producedClock).toOption.map (fun builder =>
        decide (∀ left ∈ builder.entries, ∀ right ∈ builder.entries, left.2 = right.2)) =
          some true := by
    decide +kernel
  rw [filled] at one
  have same := of_decide_eq_true (Option.some.inj one)
  rintro _ ⟨left, inLeft, _, rfl⟩ _ ⟨right, inRight, _, rfl⟩ _
  exact same left inLeft right inRight

theorem two_serials_flagged :
    ∃ out builder, bucketOut [[1], [2]] = .ok out ∧
      BuiltAs builder (boxedSeal emptySeal) out ∧
      ∀ header sealBytes, (builder.written header sealBytes).FlagsTruthful := by
  obtain ⟨out, produced⟩ := Except.exists_of_isOk
    (show (bucketOut [[1], [2]]).isOk = true by decide +kernel)
  obtain ⟨builder, built, truthful, _⟩ :=
    entry_flags_truthful_iff bucketMessages_encodings bucket_collisionFree produced
  refine ⟨out, builder, produced, built, fun header sealBytes => (truthful _ _).mpr (Or.inr ?_)⟩
  decide +kernel

def triplePayload : Bytes :=
  Crates.responseDer
    { responseStatus := .successful
      responseBytes := some
        { responseType := idPkixOcspBasic
          response := Crates.basicDer (bucketBasic [[1], [2], [3]]) } }

theorem triplePayload_carriesSeveral : CarriesSeveral triplePayload := by
  refine ⟨bucketBasic [[1], [2], [3]], ⟨_, Crates.encodeListed_eq_ok.mpr ⟨?_, rfl⟩,
    Crates.encodeListed_eq_ok.mpr ⟨?_, rfl⟩⟩, by decide⟩
  · exact List.mem_cons_of_mem _ (List.mem_singleton_self _)
  · exact List.mem_cons_of_mem _ (List.mem_singleton_self _)

def Ahu.Bundle.missesMulti (bundle : Bundle) (payload : Bytes) : Bool :=
  bundle.index.any fun record =>
    !record.flags.multi && decide (bundle.entryBytes record = some payload)

theorem Ahu.Bundle.not_flagsTruthful {bundle : Bundle} {payload : Bytes}
    (misses : bundle.missesMulti payload = true) (several : CarriesSeveral payload) :
    ¬bundle.FlagsTruthful := by
  intro truthful
  obtain ⟨record, listed, found⟩ := List.any_eq_true.mp misses
  obtain ⟨plain, content⟩ := Bool.and_eq_true_iff.mp found
  have flagged := (truthful.multi record listed).mpr
    ⟨payload, of_decide_eq_true content, several⟩
  rw [flagged] at plain
  cases plain

/-- Three certificates in a bucket: one of the three records has no MULTI, and after
applying no delta none has. -/
theorem odd_record_unflagged :
    ∃ out bundle result merged, bucketOut [[1], [2], [3]] = .ok out ∧
      Bundle.fromBytes out = .ok bundle ∧ ¬bundle.FlagsTruthful ∧
      Ahu.apply bundle [] = .ok result ∧ Bundle.fromBytes result.bytes = .ok merged ∧
      ¬merged.FlagsTruthful := by
  have run : ((bucketOut [[1], [2], [3]]).toOption.bind fun out =>
      (Bundle.fromBytes out).toOption.bind fun bundle =>
        (Ahu.apply bundle []).toOption.bind fun result =>
          (Bundle.fromBytes result.bytes).toOption.map fun merged =>
            bundle.missesMulti triplePayload && merged.missesMulti triplePayload) =
        some true := by
    decide +kernel
  obtain ⟨out, produced, run⟩ := Option.bind_eq_some_iff.mp run
  obtain ⟨bundle, read, run⟩ := Option.bind_eq_some_iff.mp run
  obtain ⟨result, applied, run⟩ := Option.bind_eq_some_iff.mp run
  obtain ⟨merged, readAgain, misses⟩ := Option.map_eq_some_iff.mp run
  obtain ⟨first, second⟩ := Bool.and_eq_true_iff.mp misses
  exact ⟨out, bundle, result, merged, Except.toOption_eq_some.mp produced,
    Except.toOption_eq_some.mp read,
    Ahu.Bundle.not_flagsTruthful first triplePayload_carriesSeveral,
    Except.toOption_eq_some.mp applied, Except.toOption_eq_some.mp readAgain,
    Ahu.Bundle.not_flagsTruthful second triplePayload_carriesSeveral⟩

end Samples

end Hoike
