/-
Files made by sequences of builder calls.

A builder is filled by adding single entries, dual entries under two keys and
tombstones, in any order.  When no key and discriminator is added twice, the
file that is built parses, verifies and answers every lookup with what was
added.
-/

import Hoike.Ahu.LongSeals
import Hoike.Ahu.Crates

namespace Hoike
namespace Ahu

/-! ### Calls -/

inductive BuilderCall where
  | addEntry (entryKey : Octets 32) (responseDer : Bytes)
  | addEntryWithDiscriminator (entryKey : Octets 32) (discriminator : UInt16)
      (responseDer : Bytes)
  | addDualEntry (entryKey₁ entryKey₂ : Octets 32) (responseDer : Bytes)
  | addDualEntryWithDiscriminator (entryKey₁ entryKey₂ : Octets 32) (responseDer : Bytes)
      (discriminator : UInt16)
  | addTombstone (entryKey : Octets 32) (discriminator : UInt16)
deriving DecidableEq, Repr

def BuilderCall.apply (builder : BundleBuilder) : BuilderCall → BundleBuilder
  | addEntry entryKey responseDer => builder.addEntry entryKey responseDer
  | addEntryWithDiscriminator entryKey discriminator responseDer =>
      builder.addEntryWithDiscriminator entryKey discriminator responseDer
  | addDualEntry entryKey₁ entryKey₂ responseDer =>
      builder.addDualEntry entryKey₁ entryKey₂ responseDer
  | addDualEntryWithDiscriminator entryKey₁ entryKey₂ responseDer discriminator =>
      builder.addDualEntryWithDiscriminator entryKey₁ entryKey₂ responseDer discriminator
  | addTombstone entryKey discriminator => builder.addTombstone entryKey discriminator

def BundleBuilder.ofCalls (manifest : Manifest) (calls : List BuilderCall) : BundleBuilder :=
  calls.foldl BuilderCall.apply (BundleBuilder.new manifest)

/-- A key and discriminator with what a lookup is to give for it: the payload,
or nothing for a tombstone. -/
structure Addition where
  reference : EntryRef
  payload : Option Bytes

def BuilderCall.additions : BuilderCall → List Addition
  | addEntry entryKey responseDer => [⟨⟨entryKey, 0⟩, some responseDer⟩]
  | addEntryWithDiscriminator entryKey discriminator responseDer =>
      [⟨⟨entryKey, discriminator⟩, some responseDer⟩]
  | addDualEntry entryKey₁ entryKey₂ responseDer =>
      [⟨⟨entryKey₁, 0⟩, some responseDer⟩, ⟨⟨entryKey₂, 0⟩, some responseDer⟩]
  | addDualEntryWithDiscriminator entryKey₁ entryKey₂ responseDer discriminator =>
      [⟨⟨entryKey₁, discriminator⟩, some responseDer⟩,
        ⟨⟨entryKey₂, discriminator⟩, some responseDer⟩]
  | addTombstone entryKey discriminator => [⟨⟨entryKey, discriminator⟩, none⟩]

def dualPayloads (calls : List BuilderCall) : Set Bytes :=
  {payload | ∃ call ∈ calls, match call with
    | .addDualEntry _ _ responseDer => responseDer = payload
    | .addDualEntryWithDiscriminator _ _ responseDer _ => responseDer = payload
    | _ => False}

/-! ### The entries of a builder -/

def additionOf (entry : IndexRecord × Bytes) : Addition :=
  { reference := entry.1.reference
    payload := if entry.1.isTombstone then none else some entry.2 }

theorem BuilderCall.apply_eq (builder : BundleBuilder) (call : BuilderCall) :
    ∃ added, call.apply builder = { builder with entries := builder.entries ++ added } ∧
      added.map additionOf = call.additions ∧
      (∀ entry ∈ added, entry.1.isTombstone = true → entry.2 = []) ∧
      ∀ entry ∈ added, entry.1.isAlias = true → entry.2 ∈ dualPayloads [call] := by
  cases call <;>
    exact ⟨_, rfl, rfl, by simp [unplacedRecord, IndexRecord.isTombstone, IndexFlags.empty,
      aliasFlags], by simp [unplacedRecord, IndexRecord.isAlias, IndexFlags.empty, aliasFlags,
      tombstoneFlags, dualPayloads]⟩

/-- The builder holds the additions of these calls in order. -/
structure BundleBuilder.Filled (builder : BundleBuilder) (manifest : Manifest)
    (calls : List BuilderCall) : Prop where
  manifest : builder.manifest = manifest
  entries : builder.entries.map additionOf = calls.flatMap BuilderCall.additions
  tombstones : ∀ entry ∈ builder.entries, entry.1.isTombstone = true → entry.2 = []
  aliases : builder.aliases ⊆ dualPayloads calls

theorem dualPayloads_append (front back : List BuilderCall) :
    dualPayloads (front ++ back) = dualPayloads front ∪ dualPayloads back := by
  ext payload
  simp only [dualPayloads, List.mem_append, or_and_right, exists_or, Set.mem_ofPred_eq,
    Set.mem_union]

theorem BundleBuilder.Filled.apply {builder : BundleBuilder} {manifest : Manifest}
    {calls : List BuilderCall} (filled : builder.Filled manifest calls) (call : BuilderCall) :
    (call.apply builder).Filled manifest (calls ++ [call]) := by
  obtain ⟨added, applied, additions, tombstones, aliased⟩ := BuilderCall.apply_eq builder call
  rw [applied]
  constructor
  · exact filled.manifest
  · rw [List.map_append, filled.entries, additions, List.flatMap_append, List.flatMap_singleton]
  · intro entry member
    rcases List.mem_append.mp member with earlier | new
    · exact filled.tombstones entry earlier
    · exact tombstones entry new
  · rintro payload ⟨entry, member, isAlias, rfl⟩
    rw [dualPayloads_append]
    rcases List.mem_append.mp member with earlier | new
    · exact Or.inl (filled.aliases ⟨entry, earlier, isAlias, rfl⟩)
    · exact Or.inr (aliased entry new isAlias)

theorem BundleBuilder.Filled.foldl {manifest : Manifest} (calls : List BuilderCall) :
    ∀ {builder : BundleBuilder} {earlier : List BuilderCall}, builder.Filled manifest earlier →
      (calls.foldl BuilderCall.apply builder).Filled manifest (earlier ++ calls) := by
  induction calls with
  | nil =>
      intro builder earlier filled
      rw [List.append_nil]
      exact filled
  | cons call rest ih =>
      intro builder earlier filled
      have later := ih (filled.apply call)
      rw [List.append_assoc, List.singleton_append] at later
      exact later

theorem BundleBuilder.filled_ofCalls (manifest : Manifest) (calls : List BuilderCall) :
    (BundleBuilder.ofCalls manifest calls).Filled manifest calls := by
  have empty : (BundleBuilder.new manifest).Filled manifest [] := by
    constructor
    · rfl
    · rfl
    · intro entry member
      cases member
    · rintro payload ⟨entry, member, _⟩
      cases member
  exact BundleBuilder.Filled.foldl calls empty

theorem BundleBuilder.Filled.exists_entry {builder : BundleBuilder} {manifest : Manifest}
    {calls : List BuilderCall} (filled : builder.Filled manifest calls) {addition : Addition}
    (member : addition ∈ calls.flatMap BuilderCall.additions) :
    ∃ entry ∈ builder.entries, additionOf entry = addition := by
  rw [← filled.entries] at member
  exact List.mem_map.mp member

section Files

variable [Sha2]

theorem BundleBuilder.Filled.sound {builder : BundleBuilder} {manifest : Manifest}
    {calls : List BuilderCall} (filled : builder.Filled manifest calls)
    (based : manifest.bundleType = .delta → manifest.continuity.baseManifestDigest.isSome)
    (distinct : ((calls.flatMap BuilderCall.additions).map Addition.reference).Nodup)
    (collisionFree : Set.InjOn Sha2.sha256 (dualPayloads calls))
    (short : ∀ addition ∈ calls.flatMap BuilderCall.additions, ∀ payload,
      addition.payload = some payload → payload.length < 2 ^ 32) : builder.Sound := by
  rw [← filled.entries] at distinct short
  refine
    { short := ?_
      collisionFree := collisionFree.mono filled.aliases
      distinct := ?_
      based := by
        rw [filled.manifest]
        exact based }
  · intro entry member
    cases live : entry.1.isTombstone with
    | true =>
        rw [filled.tombstones entry member live]
        decide
    | false =>
        apply short (additionOf entry) (List.mem_map_of_mem member)
        unfold additionOf
        rw [live]
        rfl
  · rw [List.map_map] at distinct
    exact distinct

variable [Ciborium]

/-- The crate reads the octets of a manifest back, up to the free-form values
of its extensions. -/
def Manifest.ReadsUpToExtensions (manifest : Manifest) : Prop :=
  ∃ extensions, Ciborium.fromReader manifest.toCbor =
    .ok (.map { manifest with extensions := extensions }.toMap)

omit [Sha2] in
theorem Manifest.ReadsBack.upToExtensions {manifest : Manifest} (readsBack : manifest.ReadsBack) :
    manifest.ReadsUpToExtensions :=
  ⟨manifest.extensions, readsBack⟩

omit [Sha2] in
theorem Manifest.ReadsUpToExtensions.fromCbor {manifest : Manifest}
    (reads : manifest.ReadsUpToExtensions) :
    ∃ extensions, Manifest.fromCbor manifest.toCbor =
      .ok { manifest with extensions := extensions } := by
  obtain ⟨extensions, reads⟩ := reads
  refine ⟨extensions, ?_⟩
  unfold Manifest.fromCbor
  rw [reads]
  exact Manifest.ofMap_toMap _

theorem BundleBuilder.build_of_seal {builder : BundleBuilder}
    {sealFn : Bytes → Except AhuError Bytes} {sealBytes : Bytes}
    (isSealed : sealFn builder.finalManifest.toCbor = .ok sealBytes)
    (capacity : builder.sizeWith sealBytes.length < maxVecLength) :
    ∃ out, builder.build sealFn = .ok out := by
  have assembled := assemble_eq_ok.mpr
    ⟨(rfl : (builtHeader builder.finalManifest.toCbor sealBytes
      (writeIndex builder.placement.records) builder.placement.data).writeTo ++ _ = _), capacity⟩
  exact ⟨_, BundleBuilder.build_eq_ok.mpr ⟨sealBytes, isSealed, assembled⟩⟩

theorem BundleBuilder.entryCount_toNat {builder : BundleBuilder} {sealLength : Nat}
    (capacity : builder.sizeWith sealLength < maxVecLength) :
    builder.finalManifest.entryCount.toNat = builder.placement.records.length := by
  have size : maxVecLength = 2 ^ 63 := rfl
  unfold BundleBuilder.sizeWith at capacity
  rw [length_writeIndex, indexRecordSize] at capacity
  exact UInt64.toNat_ofNat_of_lt' (by simp only [UInt64.size]; omega)

/-- Whatever calls fill the builder, a file is built when the seal is made; it
parses, verifies with the right number of records, and gives back each payload
under its key and discriminator, and nothing under a tombstone. -/
theorem built_from_calls {manifest : Manifest} {calls : List BuilderCall}
    {sealFn : Bytes → Except AhuError Bytes} {sealBytes : Bytes}
    (based : manifest.bundleType = .delta → manifest.continuity.baseManifestDigest.isSome)
    (distinct : ((calls.flatMap BuilderCall.additions).map Addition.reference).Nodup)
    (collisionFree : Set.InjOn Sha2.sha256 (dualPayloads calls))
    (short : ∀ addition ∈ calls.flatMap BuilderCall.additions, ∀ payload,
      addition.payload = some payload → payload.length < 2 ^ 32)
    (reads : (BundleBuilder.ofCalls manifest calls).finalManifest.ReadsUpToExtensions)
    (manifestFits : (BundleBuilder.ofCalls manifest calls).finalManifest.toCbor.length < 2 ^ 32)
    (isSealed : sealFn (BundleBuilder.ofCalls manifest calls).finalManifest.toCbor =
      .ok sealBytes)
    (sealFits : sealBytes.length < 2 ^ 32)
    (capacity : (BundleBuilder.ofCalls manifest calls).sizeWith sealBytes.length <
      maxVecLength) :
    ∃ out bundle report, (BundleBuilder.ofCalls manifest calls).build sealFn = .ok out ∧
      Bundle.fromBytes out = .ok bundle ∧ verifyStructure bundle = .ok report ∧
      report.entryCountMatches = true ∧
      bundle.manifest.entryCount.toNat = bundle.index.length ∧
      bundle.index.length = (calls.flatMap BuilderCall.additions).length ∧
      ∀ addition ∈ calls.flatMap BuilderCall.additions,
        bundle.lookupPreferred addition.reference.entryKey [addition.reference.discriminator] =
          addition.payload := by
  have filled := BundleBuilder.filled_ofCalls manifest calls
  generalize BundleBuilder.ofCalls manifest calls = builder at *
  have sound := filled.sound based distinct collisionFree short
  obtain ⟨out, built⟩ := BundleBuilder.build_of_seal isSealed capacity
  obtain ⟨extensions, decodes⟩ := reads.fromCbor
  obtain ⟨fits, header, parsed⟩ :=
    BundleBuilder.parse_build manifestFits isSealed sealFits decodes built
  have checked := sound.verified_as header sealBytes decodes rfl rfl rfl fits
  obtain ⟨report, verified⟩ := verifyStructure_eq_ok.mpr ⟨_, checked⟩
  refine ⟨out, _, report, built, parsed, verified, ?_, ?_, ?_, ?_⟩
  · rw [entryCountMatches_of_verifyStructure decodes verified]
    exact beq_self_eq_true _
  · exact BundleBuilder.entryCount_toNat capacity
  · have records : builder.placement.records.length = builder.entries.length :=
      sound.length_records fits
    rw [← filled.entries, List.length_map]
    exact records
  · intro addition member
    obtain ⟨entry, present, rfl⟩ := filled.exists_entry member
    obtain ⟨record, inside, placed⟩ := sound.record_of_entry header sealBytes fits present
    have found := (Bundle.record_eq_some_iff checked.ascending).mpr ⟨inside, placed.reference⟩
    refine (Bundle.lookupPreferred_of_record found).trans ?_
    exact BundleBuilder.written_entryBytes header sealBytes fits placed

end Files

/-! ### A delta with every kind of call -/

section Mixed

local instance mixedSha2 : Sha2 := Crates.sha2
local instance mixedCiborium : Ciborium := Crates.ciborium

def mixedKey (octet : UInt8) : Octets 32 := ⟨List.replicate 32 octet, List.length_replicate⟩

def mixedCalls : List BuilderCall :=
  [.addDualEntry (mixedKey 9) (mixedKey 2) [7, 7],
    .addTombstone (mixedKey 4) 1,
    .addDualEntryWithDiscriminator (mixedKey 3) (mixedKey 8) [7, 7] 5,
    .addEntry (mixedKey 4) [7, 7],
    .addEntryWithDiscriminator (mixedKey 4) 2 []]

def mixedManifest : Manifest :=
  { Crates.plainManifest "p" [Crates.plainScope 0xaa 5] none with
    bundleType := .delta
    continuity :=
      { prevManifestDigest := none
        baseManifestDigest := some ⟨List.replicate 32 6, List.length_replicate⟩
        chainLength := 1 } }

example : (BundleBuilder.ofCalls mixedManifest mixedCalls).placement.records.map
    (fun record => (record.dataOffset, record.discriminator)) =
      [(0, 0), (0, 5), (2, 0), (0, 1), (4, 2), (0, 5), (0, 0)] := by
  decide +kernel

/-- The shared payload is found under each of its keys, and the tombstone
hides the default variant of its key for its own discriminator only. -/
theorem mixedCalls_built : ∃ out bundle,
    (BundleBuilder.ofCalls mixedManifest mixedCalls).build (fun _ => .ok [1]) = .ok out ∧
      Bundle.fromBytes out = .ok bundle ∧ bundle.index.length = 7 ∧
      bundle.lookupPreferred (mixedKey 8) [5] = some [7, 7] ∧
      bundle.lookupPreferred (mixedKey 2) [0] = some [7, 7] ∧
      bundle.lookupPreferred (mixedKey 4) [1] = none ∧
      bundle.lookupPreferred (mixedKey 4) [2] = some [] := by
  have shared : dualPayloads mixedCalls ⊆ {[7, 7]} := by
    rintro payload ⟨call, member, given⟩
    simp only [mixedCalls, List.mem_cons, List.not_mem_nil, or_false] at member
    rcases member with rfl | rfl | rfl | rfl | rfl <;> first | exact given.symm | cases given
  have readsBack : (BundleBuilder.ofCalls mixedManifest mixedCalls).finalManifest.ReadsBack :=
    Crates.readsBack rfl (by decide +kernel)
  obtain ⟨out, bundle, _, built, parsed, _, _, _, count, lookups⟩ :=
    @built_from_calls _ _ mixedManifest mixedCalls (fun _ => .ok [1]) [1] (fun _ => rfl)
      (by decide +kernel) ((Set.injOn_singleton _ _).mono shared) (by decide +kernel)
      readsBack.upToExtensions (by decide +kernel) rfl (by decide) (by decide +kernel)
  refine ⟨out, bundle, built, parsed, count, ?_, ?_, ?_, ?_⟩
  · exact lookups ⟨⟨mixedKey 8, 5⟩, some [7, 7]⟩ (by simp [mixedCalls, BuilderCall.additions])
  · exact lookups ⟨⟨mixedKey 2, 0⟩, some [7, 7]⟩ (by simp [mixedCalls, BuilderCall.additions])
  · exact lookups ⟨⟨mixedKey 4, 1⟩, none⟩ (by simp [mixedCalls, BuilderCall.additions])
  · exact lookups ⟨⟨mixedKey 4, 2⟩, some []⟩ (by simp [mixedCalls, BuilderCall.additions])

end Mixed

end Ahu
end Hoike
