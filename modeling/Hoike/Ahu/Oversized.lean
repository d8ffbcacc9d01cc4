/-
Lengths that do not fit 32 bits.

The builder narrows the lengths of payloads, of the manifest and of the seal to
32 bits and never refuses one.  A payload of 2^32 octets or more is written in
full and found cut to its length modulo 2^32.
-/

import Hoike.Ahu.BuilderCalls

namespace Hoike
namespace Ahu

section Refusal

variable [Sha2] [Ciborium]

/-- Some payload, the encoded manifest or the seal is 2^32 octets or longer. -/
def BundleBuilder.Oversized (builder : BundleBuilder)
    (sealFn : Bytes → Except AhuError Bytes) : Prop :=
  (∃ entry ∈ builder.entries, 2 ^ 32 ≤ entry.2.length) ∨
    2 ^ 32 ≤ builder.finalManifest.toCbor.length ∨
    ∃ sealBytes, sealFn builder.finalManifest.toCbor = .ok sealBytes ∧
      2 ^ 32 ≤ sealBytes.length

def BundleBuilder.CannotWrite (builder : BundleBuilder)
    (sealFn : Bytes → Except AhuError Bytes) : Prop :=
  ∀ sealBytes, sealFn builder.finalManifest.toCbor = .ok sealBytes →
    maxVecLength ≤ builder.sizeWith sealBytes.length

theorem BundleBuilder.build_fails_iff {builder : BundleBuilder}
    {sealFn : Bytes → Except AhuError Bytes} :
    (∃ error, builder.build sealFn = .error error) ↔ builder.CannotWrite sealFn := by
  constructor
  · rintro ⟨error, failed⟩ sealBytes isSealed
    by_contra fits
    obtain ⟨out, built⟩ := BundleBuilder.build_of_seal isSealed (Nat.lt_of_not_le fits)
    rw [failed] at built
    cases built
  · intro cannot
    cases built : builder.build sealFn with
    | error error =>
        exact ⟨error, rfl⟩
    | ok out =>
        obtain ⟨sealBytes, isSealed, _⟩ := BundleBuilder.build_eq_ok.mp built
        obtain ⟨size, short⟩ := BundleBuilder.length_build isSealed built
        have long := cannot sealBytes isSealed
        omega

/-- Oversized content is refused only where nothing could be written at all. -/
theorem oversized_refused_iff (builder : BundleBuilder)
    (sealFn : Bytes → Except AhuError Bytes) :
    (builder.Oversized sealFn → ∃ error, builder.build sealFn = .error error) ↔
      ¬builder.Oversized sealFn ∨ builder.CannotWrite sealFn := by
  rw [BundleBuilder.build_fails_iff, imp_iff_not_or]

end Refusal

/-! ### One long payload -/

section LongPayload

def onlyEntry (manifest : Manifest) (entryKey : Octets 32) (payload : Bytes) : BundleBuilder :=
  (BundleBuilder.new manifest).addEntry entryKey payload

def noSeal (_manifestBytes : Bytes) : Except AhuError Bytes := .ok []

variable [Sha2]

theorem onlyEntry_placement (manifest : Manifest) (entryKey : Octets 32) (payload : Bytes) :
    (onlyEntry manifest entryKey payload).placement.records =
        [unplacedRecord entryKey .empty 0 payload] ∧
      (onlyEntry manifest entryKey payload).placement.data = payload :=
  ⟨rfl, rfl⟩

omit [Sha2] in
theorem entryBytes_onlyEntry {bundle : Bundle} (entryKey : Octets 32) {payload : Bytes}
    (data : bundle.data = payload) :
    bundle.entryBytes (unplacedRecord entryKey .empty 0 payload) =
      some (payload.take (payload.length % 2 ^ 32)) := by
  have length : (UInt32.ofNat payload.length).toNat = payload.length % 2 ^ 32 :=
    UInt32.toNat_ofNat
  have cut := Nat.mod_le payload.length (2 ^ 32)
  have below := Nat.mod_lt payload.length (show 0 < 2 ^ 32 by decide)
  have live : (unplacedRecord entryKey .empty 0 payload).isTombstone = false := rfl
  unfold Bundle.entryBytes
  rw [live, if_neg Bool.false_ne_true, data]
  simp only [unplacedRecord, length, UInt64.toNat_zero, Nat.zero_add, List.drop_zero]
  rw [if_pos ⟨by omega, cut⟩]

variable [Ciborium]

theorem BundleBuilder.single_record_served {builder : BundleBuilder} {record : IndexRecord}
    {found : Bytes} (full : builder.manifest.bundleType = .full)
    (readsBack : builder.finalManifest.ReadsBack)
    (manifestFits : builder.finalManifest.toCbor.length < 2 ^ 32)
    (dataFits : builder.placement.data.length < 2 ^ 62)
    (records : builder.placement.records = [record]) (standard : record.discriminator = 0)
    (octets : ∀ bundle : Bundle, bundle.data = builder.placement.data →
      bundle.entryBytes record = some found) :
    ∃ out bundle report, builder.build noSeal = .ok out ∧
      Bundle.fromBytes out = .ok bundle ∧ verifyStructure bundle = .ok report ∧
      bundle.lookup record.entryKey = some found := by
  have capacity : builder.sizeWith ([] : Bytes).length < maxVecLength := by
    have sizes : headerSize = 64 ∧ maxVecLength = 2 ^ 63 := ⟨rfl, rfl⟩
    unfold BundleBuilder.sizeWith
    rw [length_writeIndex, indexRecordSize, records, List.length_singleton, List.length_nil]
    omega
  have unsealed : noSeal builder.finalManifest.toCbor = .ok [] := rfl
  have sealFits : ([] : Bytes).length < 2 ^ 32 := by decide
  obtain ⟨out, built⟩ := BundleBuilder.build_of_seal unsealed capacity
  obtain ⟨_, header, parsed⟩ := BundleBuilder.parse_build manifestFits unsealed sealFits
    readsBack.fromCbor built
  have ascending : Ascending (builder.written header []).index := by
    change Ascending builder.placement.records
    rw [records]
    exact List.pairwise_singleton _ _
  have checked : (builder.written header []).Verified builder.finalManifest :=
    { decodes := readsBack.fromCbor
      agrees := rfl
      indexDigest := rfl
      dataDigest := rfl
      ascending := ascending
      bounded := by
        intro other member
        change other ∈ builder.placement.records at member
        rw [records, List.mem_singleton] at member
        rw [member, octets _ rfl]
        exact Or.inr rfl
      based := by
        intro delta
        cases full.symm.trans delta }
  obtain ⟨report, verified⟩ := verifyStructure_eq_ok.mpr ⟨_, checked⟩
  refine ⟨out, _, report, built, parsed, verified, ?_⟩
  have member : record ∈ (builder.written header []).index := by
    change record ∈ builder.placement.records
    rw [records]
    exact List.mem_singleton_self _
  have search := (Bundle.record_eq_some_iff ascending).mpr ⟨member, rfl⟩
  have payload := Bundle.payload_eq_bind (builder.written header []) record.reference
  rw [search, Option.bind_some, octets _ rfl] at payload
  have default : record.reference = ⟨record.entryKey, 0⟩ := by
    unfold IndexRecord.reference
    rw [standard]
  rw [default] at payload
  exact payload

/-- Whatever the length of the payload, the file is built, verifies, and gives
the payload cut to its length modulo 2^32. -/
theorem long_payload_cut {manifest : Manifest} (entryKey : Octets 32) {payload : Bytes}
    (full : manifest.bundleType = .full)
    (readsBack : (onlyEntry manifest entryKey payload).finalManifest.ReadsBack)
    (manifestFits : (onlyEntry manifest entryKey payload).finalManifest.toCbor.length < 2 ^ 32)
    (payloadFits : payload.length < 2 ^ 62) :
    ∃ out bundle report,
      (onlyEntry manifest entryKey payload).build noSeal = .ok out ∧
        Bundle.fromBytes out = .ok bundle ∧ verifyStructure bundle = .ok report ∧
        bundle.lookup entryKey = some (payload.take (payload.length % 2 ^ 32)) := by
  obtain ⟨records, data⟩ := onlyEntry_placement manifest entryKey payload
  refine BundleBuilder.single_record_served full readsBack manifestFits ?_ records rfl ?_
  · rw [data]
    exact payloadFits
  · intro bundle same
    exact entryBytes_onlyEntry entryKey (same.trans data)

end LongPayload

/-! ### A payload of 2^32 octets -/

section Truncated

local instance truncatedSha2 : Sha2 := Crates.sha2
local instance truncatedCiborium : Ciborium := Crates.ciborium

theorem length_encode_integrity (integrity : Integrity) :
    (Cbor.encode (.map integrity.toMap)).length = 71 := by
  simp [Integrity.toMap, entry, Cbor.encode, Cbor.encodeEntries, Cbor.head,
    integrity.indexDigest.property, integrity.dataDigest.property]

theorem length_toCbor_with_integrity (manifest : Manifest) (integrity : Integrity) :
    { manifest with integrity := integrity }.toCbor.length = manifest.toCbor.length := by
  change (Cbor.encode (.map _)).length = (Cbor.encode (.map _)).length
  rw [Cbor.encode, Cbor.encode, List.length_append, List.length_append,
    Cbor.length_encodeEntries, Cbor.length_encodeEntries]
  unfold Manifest.toMap
  simp only [List.foldr_append, List.foldr_cons, List.length_append, List.length_cons, entry,
    length_encode_integrity]

def truncatedManifest : Manifest :=
  Crates.plainManifest "p" [Crates.plainScope 0xaa 5] none

/-- A payload of 2^32 octets is taken, and a lookup of its key gives an empty
response from a file that verifies. -/
theorem oversized_payload_truncated : ∃ payload : Bytes, payload.length = 2 ^ 32 ∧
    (onlyEntry truncatedManifest (mixedKey 1) payload).Oversized noSeal ∧
    ∃ out bundle report,
      (onlyEntry truncatedManifest (mixedKey 1) payload).build noSeal = .ok out ∧
        Bundle.fromBytes out = .ok bundle ∧ verifyStructure bundle = .ok report ∧
        bundle.lookup (mixedKey 1) = some [] := by
  obtain ⟨payload, size⟩ : ∃ payload : Bytes, payload.length = 2 ^ 32 :=
    ⟨List.replicate (2 ^ 32) 0, List.length_replicate⟩
  have manifestSize : (onlyEntry truncatedManifest (mixedKey 1) payload).finalManifest.toCbor.length =
      { truncatedManifest with entryCount := 1 }.toCbor.length :=
    length_toCbor_with_integrity { truncatedManifest with entryCount := 1 } _
  have small : { truncatedManifest with entryCount := 1 }.toCbor.length < 2 ^ 32 := by
    decide +kernel
  have readsBack : (onlyEntry truncatedManifest (mixedKey 1) payload).finalManifest.ReadsBack := by
    apply Crates.readsBack rfl
    rw [manifestSize]
    exact Nat.lt_trans small (by decide)
  have member : (unplacedRecord (mixedKey 1) .empty 0 payload, payload) ∈
      (onlyEntry truncatedManifest (mixedKey 1) payload).entries := List.mem_singleton_self _
  have fits : payload.length < 2 ^ 62 := by
    rw [size]
    decide
  have short : (onlyEntry truncatedManifest (mixedKey 1) payload).finalManifest.toCbor.length <
      2 ^ 32 := by
    rw [manifestSize]
    exact small
  refine ⟨payload, size, Or.inl ⟨_, member, Nat.le_of_eq size.symm⟩, ?_⟩
  have served := long_payload_cut (mixedKey 1) rfl readsBack short fits
  rw [size, Nat.mod_self, List.take_zero] at served
  exact served

end Truncated

end Ahu
end Hoike
