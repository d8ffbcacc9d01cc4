/-
What a seal commits to.

The seal signs the manifest octets only.  Through the two digests in the
manifest they also fix the index and the data section, so two bundles that
verify under the same manifest octets answer every lookup alike, however their
files are laid out and whatever else differs between them.
-/

import Mathlib.Data.Set.Function
import Hoike.Ahu.Index
import Hoike.Ahu.Crates

namespace Hoike
namespace Ahu

theorem writeIndex_injective {left right : List IndexRecord}
    (same : writeIndex left = writeIndex right) : left = right := by
  have parsed := parseIndex_writeIndex left
  rw [same, parseIndex_writeIndex right] at parsed
  exact (Except.ok.inj parsed).symm

theorem Bundle.entryBytes_congr {left right : Bundle} (data : left.data = right.data) :
    left.entryBytes = right.entryBytes := by
  funext record
  unfold Bundle.entryBytes
  rw [data]

theorem Bundle.entryAt_congr {left right : Bundle} (index : left.index = right.index)
    (data : left.data = right.data) : left.entryAt = right.entryAt := by
  funext position
  unfold Bundle.entryAt
  rw [index, Bundle.entryBytes_congr data]

section Sealed

variable [Sha2] [Ciborium]

/-- The octets over which structural verification of a bundle compares digests. -/
def Bundle.hashed (bundle : Bundle) : Set Bytes :=
  {writeIndex bundle.index, bundle.data}

theorem Bundle.Verified.manifest_eq {left right : Bundle} {signedLeft signedRight : Manifest}
    (verifiedLeft : left.Verified signedLeft) (verifiedRight : right.Verified signedRight)
    (readsLeft : left.manifest.ReadsBack) (readsRight : right.manifest.ReadsBack)
    (same : left.manifestBytes = right.manifestBytes) :
    signedLeft = signedRight ∧ left.manifest = right.manifest := by
  have decodes := verifiedLeft.decodes
  rw [same, verifiedRight.decodes] at decodes
  have signed : signedLeft = signedRight := (Except.ok.inj decodes).symm
  have encoded : left.manifest.toCbor = right.manifest.toCbor := by
    rw [← verifiedLeft.agrees, ← verifiedRight.agrees, signed]
  exact ⟨signed, readsLeft.inj readsRight encoded⟩

/-- For any two bundles that verify with the same manifest octets, every lookup
gives the same result and the decoded manifests agree in every field, among
them the scopes, the window and the continuity. -/
theorem manifest_octets_determine_answers {left right : Bundle}
    {leftResult rightResult : VerifyResult}
    (leftVerifies : verifyStructure left = .ok leftResult)
    (rightVerifies : verifyStructure right = .ok rightResult)
    (sameOctets : left.manifestBytes = right.manifestBytes)
    (collisionFree : Set.InjOn Sha2.sha256 (left.hashed ∪ right.hashed))
    (readsLeft : left.manifest.ReadsBack) (readsRight : right.manifest.ReadsBack) :
    (∀ entryKey, left.lookup entryKey = right.lookup entryKey) ∧
      (∀ entryKey preferences, left.lookupPreferred entryKey preferences =
        right.lookupPreferred entryKey preferences) ∧
      left.manifest.caScopes = right.manifest.caScopes ∧
      left.manifest.window = right.manifest.window ∧
      left.manifest.continuity = right.manifest.continuity ∧
      left.manifest = right.manifest := by
  obtain ⟨signedLeft, verifiedLeft⟩ := verifyStructure_eq_ok.mp ⟨_, leftVerifies⟩
  obtain ⟨signedRight, verifiedRight⟩ := verifyStructure_eq_ok.mp ⟨_, rightVerifies⟩
  obtain ⟨signed, manifest⟩ :=
    verifiedLeft.manifest_eq verifiedRight readsLeft readsRight sameOctets
  have indexDigests : Sha2.sha256 (writeIndex left.index) =
      Sha2.sha256 (writeIndex right.index) := by
    rw [verifiedLeft.indexDigest, verifiedRight.indexDigest, signed]
  have dataDigests : Sha2.sha256 left.data = Sha2.sha256 right.data := by
    rw [verifiedLeft.dataDigest, verifiedRight.dataDigest, signed]
  have index : left.index = right.index := by
    apply writeIndex_injective
    apply collisionFree (Or.inl (Or.inl rfl)) (Or.inr (Or.inl rfl)) indexDigests
  have data : left.data = right.data :=
    collisionFree (Or.inl (Or.inr rfl)) (Or.inr (Or.inr rfl)) dataDigests
  have entries := Bundle.entryAt_congr index data
  refine ⟨?_, ?_, ?_, ?_, ?_, manifest⟩
  · intro entryKey
    unfold Bundle.lookup
    rw [index, entries]
  · intro entryKey preferences
    unfold Bundle.lookupPreferred
    rw [index, entries]
  · rw [manifest]
  · rw [manifest]
  · rw [manifest]

end Sealed

/-! ### Two bundles of one manifest -/

section Samples

local instance resealedSha2 : Sha2 := Crates.sha2
local instance resealedCiborium : Ciborium := Crates.ciborium

def sampleRecord : IndexRecord :=
  { entryKey := ⟨List.replicate 32 1, List.length_replicate⟩
    dataOffset := 0
    dataLength := 3
    flags := .empty
    discriminator := 0 }

def sampleManifest : Manifest :=
  { Crates.plainManifest "p" [Crates.plainScope 0xaa 5] none with
    integrity :=
      { indexDigest := Sha2.sha256 (writeIndex [sampleRecord])
        dataDigest := Sha2.sha256 [7, 8, 9] }
    entryCount := 1 }

def sampleBundle (header : FileHeader) (sealBytes : Bytes) : Bundle :=
  { header := header
    manifest := sampleManifest
    manifestBytes := sampleManifest.toCbor
    sealBytes := sealBytes
    index := [sampleRecord]
    data := [7, 8, 9] }

def sampleHeader (formatMinor : UInt16) : FileHeader :=
  { formatMajor := formatMajor
    formatMinor := formatMinor
    manifestOffset := 64
    manifestLength := 0
    sealOffset := 64
    sealLength := 0
    indexOffset := 64
    indexLength := 48
    dataOffset := 112
    dataLength := 3 }

theorem sampleManifest_computed :
    sampleManifest.toCbor.length < 2 ^ 64 ∧
      Sha2.sha256 (writeIndex [sampleRecord]) ≠ Sha2.sha256 [7, 8, 9] := by
  decide +kernel

theorem sampleManifest_readsBack : sampleManifest.ReadsBack :=
  Crates.readsBack rfl sampleManifest_computed.1

theorem sampleBundle_collisionFree (left right : FileHeader) (leftSeal rightSeal : Bytes) :
    Set.InjOn Sha2.sha256
      ((sampleBundle left leftSeal).hashed ∪ (sampleBundle right rightSeal).hashed) := by
  have distinct := sampleManifest_computed.2
  intro first firstMember second secondMember same
  have hashed : (sampleBundle left leftSeal).hashed ∪ (sampleBundle right rightSeal).hashed =
      {writeIndex [sampleRecord], [7, 8, 9]} := Set.union_self _
  rw [hashed] at firstMember secondMember
  rcases firstMember with rfl | rfl <;> rcases secondMember with rfl | rfl
  · rfl
  · exact absurd same distinct
  · exact absurd same.symm distinct
  · rfl

theorem sampleBundle_verifies (header : FileHeader) (sealBytes : Bytes) :
    ∃ result, verifyStructure (sampleBundle header sealBytes) = .ok result := by
  apply verifyStructure_eq_ok.mpr
  exact ⟨sampleManifest,
    { decodes := sampleManifest_readsBack.fromCbor
      agrees := rfl
      indexDigest := rfl
      dataDigest := rfl
      ascending := List.pairwise_singleton _ _
      bounded := by
        intro record member
        cases List.mem_singleton.mp member
        exact Or.inr rfl
      based := by
        intro delta
        cases delta }⟩

example : (verifyStructure (sampleBundle (sampleHeader 9) [])).isOk = true := by
  decide +kernel

theorem resealed_answers_alike :
    (sampleBundle (sampleHeader 1) []).lookup sampleRecord.entryKey =
        (sampleBundle (sampleHeader 9) [1, 2]).lookup sampleRecord.entryKey ∧
      (sampleBundle (sampleHeader 1) []).lookup sampleRecord.entryKey = some [7, 8, 9] := by
  obtain ⟨_, leftVerifies⟩ := sampleBundle_verifies (sampleHeader 1) []
  obtain ⟨_, rightVerifies⟩ := sampleBundle_verifies (sampleHeader 9) [1, 2]
  have answers := manifest_octets_determine_answers leftVerifies rightVerifies rfl
    (sampleBundle_collisionFree _ _ _ _) sampleManifest_readsBack sampleManifest_readsBack
  exact ⟨answers.1 sampleRecord.entryKey, rfl⟩

end Samples

end Ahu
end Hoike
