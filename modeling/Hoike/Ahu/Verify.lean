/-
Structural verification of a parsed bundle (`verify.rs`).

This covers everything except the seal: the decoded manifest agrees with the
encoded one, the digests cover the index and data sections, the index is
strictly sorted and every entry lies inside the data section.
-/

import Hoike.Ahu.Bundle

namespace Hoike
namespace Ahu

variable [Sha2] [Ciborium]

/-- The first adjacent pair that is not strictly ascending is reported under
its position, which starts at `position`. -/
def validateSortOrderFrom (position : Nat) : List IndexRecord → Except AhuError Unit
  | [] => .ok ()
  | [_] => .ok ()
  | record :: next :: rest =>
      match compare record.entryKey.val next.entryKey.val,
          compare record.discriminator next.discriminator with
      | .gt, _ | .eq, .gt =>
          .error (.indexNotSorted position (Bytes.encodeHex record.entryKey.val)
            (Bytes.encodeHex next.entryKey.val))
      | .eq, .eq =>
          .error (.duplicateEntryKey position (Bytes.encodeHex record.entryKey.val))
      | .lt, _ | .eq, .lt => validateSortOrderFrom (position + 1) (next :: rest)

def validateSortOrder (records : List IndexRecord) : Except AhuError Unit :=
  validateSortOrderFrom 0 records

structure VerifyResult where
  headerOk : Bool
  manifestOk : Bool
  indexDigestOk : Bool
  dataDigestOk : Bool
  sortOrderOk : Bool
  entryBoundsOk : Bool
  sealPresent : Bool
  entryCountMatches : Bool
  warnings : List String
deriving DecidableEq, Repr

def validateEntryBounds (bundle : Bundle) : List IndexRecord → Except AhuError Unit
  | [] => .ok ()
  | record :: rest => do
      Except.require (record.isTombstone ∨ (bundle.entryBytes record).isSome)
        (.entryOutOfBounds record.dataOffset record.dataLength)
      validateEntryBounds bundle rest

def verifyStructure (bundle : Bundle) : Except AhuError VerifyResult := do
  let manifest ← Manifest.fromCbor bundle.manifestBytes
  Except.require (manifest.toCbor = bundle.manifest.toCbor)
    (.manifestField "decoded manifest does not match manifest bytes")
  let computedIndexDigest := Sha2.sha256 (writeIndex bundle.index)
  Except.require (computedIndexDigest = manifest.integrity.indexDigest)
    (.indexDigestMismatch (Bytes.encodeHex manifest.integrity.indexDigest.val)
      (Bytes.encodeHex computedIndexDigest.val))
  let computedDataDigest := Sha2.sha256 bundle.data
  Except.require (computedDataDigest = manifest.integrity.dataDigest)
    (.dataDigestMismatch (Bytes.encodeHex manifest.integrity.dataDigest.val)
      (Bytes.encodeHex computedDataDigest.val))
  validateSortOrder bundle.index
  let entryCountMatches := UInt64.ofNat bundle.index.length == manifest.entryCount
  validateEntryBounds bundle bundle.index
  Except.require (manifest.bundleType = .delta →
    manifest.continuity.baseManifestDigest.isSome) .deltaMissingBase
  return {
    headerOk := true
    manifestOk := true
    indexDigestOk := true
    dataDigestOk := true
    sortOrderOk := true
    entryBoundsOk := true
    sealPresent := !bundle.sealBytes.isEmpty
    entryCountMatches := entryCountMatches
    warnings :=
      (if entryCountMatches then [] else
        [(s!"entry_count in manifest ({manifest.entryCount}) does not match index " ++
          s!"record count ({bundle.index.length})")]) ++
      (if bundle.sealBytes.isEmpty then ["seal section is empty"] else []) }

def manifestDigest (manifestBytes : Bytes) : Octets 32 :=
  Sha2.sha256 manifestBytes

omit [Sha2] [Ciborium] in
theorem validateEntryBounds_with_header (bundle : Bundle) (header : FileHeader)
    (records : List IndexRecord) :
    validateEntryBounds { bundle with header := header } records =
      validateEntryBounds bundle records := by
  induction records with
  | nil =>
      rfl
  | cons record rest ih =>
      simp only [validateEntryBounds, ih]
      rfl

theorem verifyStructure_with_header (bundle : Bundle) (header : FileHeader) :
    verifyStructure { bundle with header := header } = verifyStructure bundle := by
  unfold verifyStructure
  simp only [validateEntryBounds_with_header]

end Ahu
end Hoike
