/-
What a produced bundle is made of.

Both ways of production prepare the entries once, sign them bucket by bucket
for each of their signers, and add one record per entry key.  Two records have
the same reference exactly when two serials give the same CertID or the two
signers share a discriminator.
-/

import Hoike.Sign.Generate

namespace Hoike

open Ahu (BundleBuilder IndexRecord EntryRef unplacedRecord aliasFlags)
open Ocsp

/-! ### Records of one payload -/

def sharedEntries (responseDer : Bytes) (discriminator : UInt16) :
    List (Octets 32) → List (IndexRecord × Bytes)
  | [] => []
  | [key] => [(unplacedRecord key .empty discriminator responseDer, responseDer)]
  | first :: second :: rest =>
      (unplacedRecord first aliasFlags discriminator responseDer, responseDer) ::
        (unplacedRecord second aliasFlags discriminator responseDer, responseDer) ::
          sharedEntries responseDer discriminator rest

theorem addSharedEntries_eq (responseDer : Bytes) (discriminator : UInt16)
    (builder : BundleBuilder) (keys : List (Octets 32)) :
    addSharedEntries responseDer discriminator builder keys =
      { builder with
        entries := builder.entries ++ sharedEntries responseDer discriminator keys } := by
  fun_induction addSharedEntries responseDer discriminator builder keys with
  | case1 builder =>
      rw [sharedEntries, List.append_nil]
  | case2 builder key =>
      rfl
  | case3 builder first second rest ih =>
      rw [ih, sharedEntries]
      simp only [BundleBuilder.addDualEntryWithDiscriminator, List.append_assoc, List.cons_append,
        List.nil_append]

def referenceWith (discriminator : UInt16) (key : Octets 32) : EntryRef :=
  { entryKey := key
    discriminator := discriminator }

theorem references_sharedEntries (responseDer : Bytes) (discriminator : UInt16)
    (keys : List (Octets 32)) :
    (sharedEntries responseDer discriminator keys).map (fun entry => entry.1.reference) =
      keys.map (referenceWith discriminator) := by
  fun_induction sharedEntries responseDer discriminator keys with
  | case1 =>
      rfl
  | case2 key =>
      rfl
  | case3 first second rest ih =>
      rw [List.map_cons, List.map_cons, ih]
      rfl

theorem payload_of_mem_sharedEntries {responseDer : Bytes} {discriminator : UInt16}
    {keys : List (Octets 32)} {entry : IndexRecord × Bytes}
    (member : entry ∈ sharedEntries responseDer discriminator keys) :
    entry.2 = responseDer ∧ entry.1.isTombstone = false := by
  fun_induction sharedEntries responseDer discriminator keys with
  | case1 =>
      cases member
  | case2 key =>
      rw [List.mem_singleton.mp member]
      exact ⟨rfl, rfl⟩
  | case3 first second rest ih =>
      rcases List.mem_cons.mp member with here | member
      · rw [here]
        exact ⟨rfl, rfl⟩
      rcases List.mem_cons.mp member with here | later
      · rw [here]
        exact ⟨rfl, rfl⟩
      · exact ih later

section Productions

variable [Sha2] [Sha1] [X509Ocsp]

/-! ### Signing in buckets -/

/-- The records of one bucket under its signed response. -/
structure BucketEntries (responder : Responder) (producedAt : DateTime) (discriminator : UInt16)
    (bucket : List PreparedEntry) (added : List (IndexRecord × Bytes)) : Prop where
  signed : ∃ payload, signBucket responder producedAt bucket = .ok payload ∧
    added = sharedEntries payload discriminator (bucket.flatMap PreparedEntry.entryKeys)

def SignedGroup (bucketSize : Nat) (producedAt : DateTime) (prepared : List PreparedEntry)
    (discriminator : UInt16) (group : List (IndexRecord × Bytes)) : Prop :=
  ∃ responder buckets,
    List.Forall₂ (BucketEntries responder producedAt discriminator)
      (Chunks.chunks (max bucketSize 1) prepared) buckets ∧
    group = buckets.flatten

omit [Sha2] [Sha1] in
theorem signAndAddEntries_eq_ok {builder result : BundleBuilder} {prepared : List PreparedEntry}
    {bucketSize : Nat} {signer : Signer} {responderId : ResponderId}
    {responderCertDer : Option Bytes} {producedAt : DateTime} {discriminator : UInt16}
    (added : signAndAddEntries builder prepared bucketSize signer responderId responderCertDer
      producedAt discriminator = .ok result) :
    ∃ group, SignedGroup bucketSize producedAt prepared discriminator group ∧
      result = { builder with entries := builder.entries ++ group } := by
  obtain ⟨certs, _, added⟩ := Except.bind_eq_ok.mp added
  -- The buckets done so far have added their records behind the first ones.
  have run := Except.foldlM_induction
    (motive := fun done state => ∃ buckets,
      List.Forall₂ (BucketEntries { signer, responderId, certs } producedAt discriminator) done
        buckets ∧
      state = { builder with entries := builder.entries ++ buckets.flatten })
    ⟨[], List.Forall₂.nil, by rw [List.flatten_nil, List.append_nil]⟩
    (by
      intro front state bucket after before stepped
      obtain ⟨buckets, signed, rfl⟩ := before
      obtain ⟨payload, made, same⟩ := Except.bind_eq_ok.mp stepped
      cases same
      refine ⟨buckets ++ [_], List.rel_append signed
        (List.Forall₂.cons ⟨payload, made, rfl⟩ List.Forall₂.nil), ?_⟩
      rw [addSharedEntries_eq, List.flatten_append, List.flatten_singleton, List.append_assoc])
    added
  obtain ⟨buckets, signed, same⟩ := run
  exact ⟨buckets.flatten, ⟨_, buckets, signed, rfl⟩, same⟩

omit [Sha2] [Sha1] in
theorem SignedGroup.references {bucketSize : Nat} {producedAt : DateTime}
    {prepared : List PreparedEntry} {discriminator : UInt16}
    {group : List (IndexRecord × Bytes)}
    (signed : SignedGroup bucketSize producedAt prepared discriminator group) :
    group.map (fun entry => entry.1.reference) =
      (prepared.flatMap PreparedEntry.entryKeys).map (referenceWith discriminator) := by
  obtain ⟨responder, buckets, each, rfl⟩ := signed
  rw [← Chunks.flatten_chunks (show 0 < max bucketSize 1 by omega) prepared]
  generalize Chunks.chunks (max bucketSize 1) prepared = chunks at each ⊢
  induction each with
  | nil =>
      rfl
  | cons here _ ih =>
      obtain ⟨payload, _, rfl⟩ := here.signed
      rw [List.flatten_cons, List.flatten_cons, List.map_append, List.flatMap_append,
        List.map_append, ih, references_sharedEntries]

omit [Sha2] [Sha1] in
theorem SignedGroup.payload {bucketSize : Nat} {producedAt : DateTime}
    {prepared : List PreparedEntry} {discriminator : UInt16}
    {group : List (IndexRecord × Bytes)}
    (signed : SignedGroup bucketSize producedAt prepared discriminator group)
    {entry : IndexRecord × Bytes} (member : entry ∈ group) :
    entry.1.isTombstone = false ∧
      ∃ responder, ∃ bucket ∈ Chunks.chunks (max bucketSize 1) prepared,
        signBucket responder producedAt bucket = .ok entry.2 ∧
        entry.1.reference ∈
          (bucket.flatMap PreparedEntry.entryKeys).map (referenceWith discriminator) := by
  obtain ⟨responder, buckets, each, rfl⟩ := signed
  obtain ⟨added, among, member⟩ := List.mem_flatten.mp member
  obtain ⟨bucket, inside, here⟩ := each.exists_left among
  obtain ⟨payload, made, rfl⟩ := here.signed
  obtain ⟨own, live⟩ := payload_of_mem_sharedEntries member
  refine ⟨live, responder, bucket, inside, ?_, ?_⟩
  · rw [own]
    exact made
  · rw [← references_sharedEntries payload]
    exact List.mem_map_of_mem member

/-! ### Productions -/

/-- One of the two ways to produce a bundle, with its signers. -/
inductive Production where
  | single (signer : Signer) (responderCertDer : Option Bytes)
  | dual (signerClassical signerPq : Signer) (discPq : UInt16)
      (responderCertClassical responderCertPq : Option Bytes)

def Production.discriminators : Production → List UInt16
  | single _ _ => [0]
  | dual _ _ discPq _ _ => [0, discPq]

omit [Sha2] [Sha1] [X509Ocsp] in
theorem Production.zero_mem_discriminators (production : Production) :
    0 ∈ production.discriminators := by
  cases production <;> exact List.mem_cons_self

def Production.fill (production : Production) (ca : CaIdentity) (snapshot : StatusSnapshot)
    (config : GenerationConfig) (clock : Clock) : Except SignError BundleBuilder :=
  match production with
  | single signer responderCertDer =>
      fillBundle ca snapshot config signer responderCertDer clock
  | dual signerClassical signerPq discPq responderCertClassical responderCertPq =>
      fillDualBundle ca snapshot config signerClassical signerPq discPq responderCertClassical
        responderCertPq clock

def Production.produce [Ciborium] (production : Production) (ca : CaIdentity)
    (snapshot : StatusSnapshot) (config : GenerationConfig)
    (sealFn : Bytes → Except SignError Bytes) (clock : Clock) : Except SignError Bytes :=
  match production with
  | single signer responderCertDer =>
      produceBundle ca snapshot config signer sealFn responderCertDer clock
  | dual signerClassical signerPq discPq responderCertClassical responderCertPq =>
      produceDualBundle ca snapshot config signerClassical signerPq discPq sealFn
        responderCertClassical responderCertPq clock

def boxedSeal (sealFn : Bytes → Except SignError Bytes) (manifestBytes : Bytes) :
    Except Ahu.AhuError Bytes :=
  (sealFn manifestBytes).mapError fun error => .write error.display

theorem Production.produce_eq_ok [Ciborium] {production : Production} {ca : CaIdentity}
    {snapshot : StatusSnapshot} {config : GenerationConfig}
    {sealFn : Bytes → Except SignError Bytes} {clock : Clock} {out : Bytes} :
    production.produce ca snapshot config sealFn clock = .ok out ↔
      ∃ builder, production.fill ca snapshot config clock = .ok builder ∧
        builder.build (boxedSeal sealFn) = .ok out := by
  have filled : production.produce ca snapshot config sealFn clock =
      production.fill ca snapshot config clock >>= fun builder => buildSealed builder sealFn := by
    cases production <;> rfl
  rw [filled, Except.bind_eq_ok]
  unfold buildSealed
  simp only [Except.mapError_eq_ok]
  rfl

/-- How the builder of a production was filled. -/
structure Filling (production : Production) (ca : CaIdentity) (snapshot : StatusSnapshot)
    (config : GenerationConfig) (clock : Clock) (builder : BundleBuilder) where
  times : GenerationTimes
  thisUpdate : DateTime
  prepared : List PreparedEntry
  responders : List (Bytes × Option Bytes)
  createdAt : UInt64
  producedAt : UInt64
  groups : List (List (IndexRecord × Bytes))
  responded : responders ≠ []
  producedAtRead : clock 4 = .ok producedAt
  timesMade : generationTimes snapshot config clock = .ok times
  thisUpdateMade : ocspTime snapshot.thisUpdate = .ok thisUpdate
  preparedMade : prepareEntries snapshot config ca.hashes thisUpdate times.nextUpdateBase =
    .ok prepared
  manifest : builder.manifest = generatedManifest snapshot config times
    (generatedScopes config ca.hashes responders) createdAt producedAt
  signed : List.Forall₂ (SignedGroup config.bucketSize times.producedAt prepared)
    production.discriminators groups
  entries : builder.entries = groups.flatten

variable {production : Production} {ca : CaIdentity} {snapshot : StatusSnapshot}
  {config : GenerationConfig} {clock : Clock} {builder : BundleBuilder}

theorem Production.filling (filled : production.fill ca snapshot config clock = .ok builder) :
    Nonempty (Filling production ca snapshot config clock builder) := by
  cases production with
  | single signer responderCertDer =>
      obtain ⟨times, timesMade, filled⟩ := Except.bind_eq_ok.mp filled
      obtain ⟨keyHash, _, filled⟩ := Except.bind_eq_ok.mp filled
      obtain ⟨createdAt, _, filled⟩ := Except.bind_eq_ok.mp filled
      obtain ⟨producedAt, producedAtRead, filled⟩ := Except.bind_eq_ok.mp filled
      obtain ⟨thisUpdate, thisUpdateMade, filled⟩ := Except.bind_eq_ok.mp filled
      obtain ⟨prepared, preparedMade, filled⟩ := Except.bind_eq_ok.mp filled
      obtain ⟨group, signed, rfl⟩ := signAndAddEntries_eq_ok filled
      exact ⟨{
        times := times
        thisUpdate := thisUpdate
        prepared := prepared
        responders := [(keyHash, responderCertDer)]
        createdAt := createdAt
        producedAt := producedAt
        groups := [group]
        responded := List.cons_ne_nil _ _
        producedAtRead := producedAtRead
        timesMade := timesMade
        thisUpdateMade := thisUpdateMade
        preparedMade := preparedMade
        manifest := rfl
        signed := List.Forall₂.cons signed List.Forall₂.nil
        entries := by rw [List.flatten_singleton]; rfl }⟩
  | dual signerClassical signerPq discPq responderCertClassical responderCertPq =>
      obtain ⟨times, timesMade, filled⟩ := Except.bind_eq_ok.mp filled
      obtain ⟨keyHashClassical, _, filled⟩ := Except.bind_eq_ok.mp filled
      obtain ⟨keyHashPq, _, filled⟩ := Except.bind_eq_ok.mp filled
      obtain ⟨createdAt, _, filled⟩ := Except.bind_eq_ok.mp filled
      obtain ⟨producedAt, producedAtRead, filled⟩ := Except.bind_eq_ok.mp filled
      obtain ⟨thisUpdate, thisUpdateMade, filled⟩ := Except.bind_eq_ok.mp filled
      obtain ⟨prepared, preparedMade, filled⟩ := Except.bind_eq_ok.mp filled
      obtain ⟨between, classical, filled⟩ := Except.bind_eq_ok.mp filled
      obtain ⟨first, signedFirst, rfl⟩ := signAndAddEntries_eq_ok classical
      obtain ⟨second, signedSecond, rfl⟩ := signAndAddEntries_eq_ok filled
      exact ⟨{
        times := times
        thisUpdate := thisUpdate
        prepared := prepared
        responders := [(keyHashClassical, responderCertClassical), (keyHashPq, responderCertPq)]
        createdAt := createdAt
        producedAt := producedAt
        groups := [first, second]
        responded := List.cons_ne_nil _ _
        producedAtRead := producedAtRead
        timesMade := timesMade
        thisUpdateMade := thisUpdateMade
        preparedMade := preparedMade
        manifest := rfl
        signed := List.Forall₂.cons signedFirst (List.Forall₂.cons signedSecond List.Forall₂.nil)
        entries := by
          rw [List.flatten_cons, List.flatten_singleton]
          rfl }⟩

/-! ### The references of a production -/

theorem Filling.references (filling : Filling production ca snapshot config clock builder) :
    builder.entries.map (fun entry => entry.1.reference) =
      production.discriminators.flatMap fun discriminator =>
        (filling.prepared.flatMap PreparedEntry.entryKeys).map (referenceWith discriminator) := by
  rw [filling.entries]
  have signed := filling.signed
  generalize production.discriminators = discriminators at signed ⊢
  generalize filling.groups = groups at signed ⊢
  induction signed with
  | nil =>
      rfl
  | cons here _ ih =>
      rw [List.flatten_cons, List.map_append, List.flatMap_cons, here.references, ih]

theorem Filling.payload (filling : Filling production ca snapshot config clock builder)
    {entry : IndexRecord × Bytes} (member : entry ∈ builder.entries) :
    entry.1.isTombstone = false ∧
      ∃ discriminator ∈ production.discriminators, ∃ responder,
        ∃ bucket ∈ Chunks.chunks (max config.bucketSize 1) filling.prepared,
          signBucket responder filling.times.producedAt bucket = .ok entry.2 ∧
          entry.1.reference ∈
            (bucket.flatMap PreparedEntry.entryKeys).map (referenceWith discriminator) := by
  rw [filling.entries] at member
  obtain ⟨group, among, member⟩ := List.mem_flatten.mp member
  obtain ⟨discriminator, listed, here⟩ := filling.signed.exists_left among
  obtain ⟨live, responder, bucket, inside, made, referred⟩ := here.payload member
  exact ⟨live, discriminator, listed, responder, bucket, inside, made, referred⟩

end Productions

end Hoike
