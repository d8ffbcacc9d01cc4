/-
Snapshots as normal forms of bundle files.

A file may lay its sections out in any order, with gaps or overlaps.  What the
state directory keeps is the serialization of the parsed bundle.  It has the
same content, is its own serialization, and is admitted exactly when the file is.
-/

import Hoike.Core.CompleteLookup
import Hoike.Core.AntiRollback

namespace Hoike
namespace Ahu

/-! ### Bundles that differ in their layout only -/

/-- Everything agrees but the section table. -/
structure Bundle.SameContent (left right : Bundle) : Prop where
  manifest : right.manifest = left.manifest
  manifestBytes : right.manifestBytes = left.manifestBytes
  sealBytes : right.sealBytes = left.sealBytes
  index : right.index = left.index
  data : right.data = left.data

theorem Bundle.SameContent.eq_with_header {left right : Bundle}
    (same : left.SameContent right) : right = { left with header := right.header } := by
  obtain ⟨manifest, manifestBytes, sealBytes, index, data⟩ := same
  cases right
  simp only at manifest manifestBytes sealBytes index data
  subst manifest manifestBytes sealBytes index data
  rfl

theorem Bundle.SameContent.lookupPreferred {left right : Bundle} (same : left.SameContent right)
    (entryKey : Octets 32) (preferences : List UInt16) :
    right.lookupPreferred entryKey preferences = left.lookupPreferred entryKey preferences := by
  rw [same.eq_with_header]
  rfl

end Ahu

open Ahu Fallible

section Snapshots

variable [Sha2] [Ciborium] [Pki]

theorem admitBundle_of_sameContent {left right : Bundle} (same : left.SameContent right)
    (os : Os) (disk : Disk) (storage : StorageConfig) (now : UInt64) :
    admitBundle os disk right storage now = admitBundle os disk left storage now := by
  rw [same.eq_with_header]
  exact admitBundle_with_header os disk left right.header storage now

def AdmittedFile (os : Os) (disk : Disk) (storage : StorageConfig) (now : UInt64)
    (file : Bytes) : Prop :=
  ∃ bundle trust, Bundle.fromBytes file = .ok bundle ∧
    admitBundle os disk bundle storage now = .ok trust

omit [Sha2] [Pki] in
theorem Bundle.parse_of_written {file out : Bytes} {bundle : Bundle}
    (parsed : Bundle.fromBytes file = .ok bundle) (written : bundle.toBytes = .ok out) :
    ∃ snapshot, Bundle.fromBytes out = .ok snapshot ∧ bundle.SameContent snapshot ∧
      snapshot.toBytes = .ok out := by
  obtain ⟨header, major, minor, again⟩ :=
    Bundle.fromBytes_toBytes (Bundle.decoded_of_fromBytes parsed) written
  refine ⟨{ bundle with header := header }, again, ⟨rfl, rfl, rfl, rfl, rfl⟩, ?_⟩
  rw [Bundle.toBytes_with_header bundle major minor]
  exact written

theorem admittedFile_iff {file out : Bytes} {bundle snapshot : Bundle}
    (parsed : Bundle.fromBytes file = .ok bundle) (again : Bundle.fromBytes out = .ok snapshot)
    (same : bundle.SameContent snapshot) (os : Os) (disk : Disk) (storage : StorageConfig)
    (now : UInt64) :
    AdmittedFile os disk storage now out ↔ AdmittedFile os disk storage now file := by
  have reads : ∀ {octets : Bytes} {read : Bundle}, Bundle.fromBytes octets = .ok read →
      (AdmittedFile os disk storage now octets ↔
        ∃ trust, admitBundle os disk read storage now = .ok trust) := by
    intro octets read octetsRead
    constructor
    · rintro ⟨other, trust, otherRead, admitted⟩
      cases octetsRead.symm.trans otherRead
      exact ⟨trust, admitted⟩
    · rintro ⟨trust, admitted⟩
      exact ⟨read, trust, octetsRead, admitted⟩
  rw [reads again, reads parsed, admitBundle_of_sameContent same]

/-- The snapshot of a file is a normal form of it: same content, same lookups,
same manifest digest, same admission; and it is what the store binds. -/
theorem snapshot_is_normal_form {file out : Bytes} {bundle : Bundle}
    (parsed : Bundle.fromBytes file = .ok bundle) (written : bundle.toBytes = .ok out) :
    (∃ snapshot, Bundle.fromBytes out = .ok snapshot ∧ bundle.SameContent snapshot ∧
      snapshot.toBytes = .ok out ∧
      (∀ entryKey, snapshot.lookup entryKey = bundle.lookup entryKey) ∧
      (∀ entryKey preferences, snapshot.lookupPreferred entryKey preferences =
        bundle.lookupPreferred entryKey preferences) ∧
      manifestDigest snapshot.manifestBytes = manifestDigest bundle.manifestBytes ∧
      ∀ os disk storage now, admitBundle os disk snapshot storage now =
        admitBundle os disk bundle storage now) ∧
      (∀ os disk storage now,
        AdmittedFile os disk storage now out ↔ AdmittedFile os disk storage now file) ∧
      ∀ (os : Os) (label : String) (store : StateStore) (world : World),
        Ensures (StateStore.snapshot os label bundle) (store, world)
          (fun _ after => ∃ path, after.1.state.activeBundles.lookup label = some path ∧
            after.2.disk.files (os.locate path) = some out)
          (fun _ _ => True) := by
  obtain ⟨snapshot, again, same, stable⟩ := Bundle.parse_of_written parsed written
  refine ⟨⟨snapshot, again, same, stable, ?_, same.lookupPreferred,
    congrArg manifestDigest same.manifestBytes, admitBundle_of_sameContent same⟩, admittedFile_iff parsed again same, ?_⟩
  · intro entryKey
    rw [Bundle.lookup_eq_lookupPreferred, Bundle.lookup_eq_lookupPreferred]
    exact same.lookupPreferred entryKey []
  · intro os label store world
    refine StateStore.ensures_snapshot ?_ (fun _ _ _ => trivial) (fun _ _ _ _ _ => trivial)
    intro bytes after serialized stored
    cases written.symm.trans serialized
    refine ⟨store.snapshotPath out, ?_, ?_⟩
    · exact AList.lookup_insert _
    · rw [stored.files]
      exact Function.update_self ..

end Snapshots

/-! ### A file with its sections out of order -/

section Shuffled

local instance shuffledSha2 : Sha2 := Crates.sha2
local instance shuffledCiborium : Ciborium := Crates.ciborium
local instance shuffledPki : Pki := Crates.pki []

/-- The seal overlaps the data, a stray octet lies before the manifest, and the
minor version is a later one. -/
def shuffledHeader : FileHeader :=
  { formatMajor := formatMajor
    formatMinor := 7
    manifestOffset := 116
    manifestLength := UInt32.ofNat sampleManifest.toCbor.length
    sealOffset := 113
    sealLength := 2
    indexOffset := 64
    indexLength := 48
    dataOffset := 112
    dataLength := 3 }

def shuffledFile : Bytes :=
  shuffledHeader.writeTo ++ (writeIndex [sampleRecord]).take 44 ++ [0xff, 0xf8, 0, 0] ++
    [7, 8, 9] ++ [0xee] ++ sampleManifest.toCbor

theorem shuffledFile_parses :
    ∃ bundle, Bundle.fromBytes shuffledFile = .ok bundle ∧
      (bundle.toBytes.isOk ∧ bundle.toBytes.toOption ≠ some shuffledFile) ∧
      (admitBundle (Os.faultless 0) emptyWorld.disk bundle demoConfig.storage 0).isOk := by
  have checked : (Bundle.fromBytes shuffledFile).toOption.any (fun bundle =>
      (bundle.toBytes.isOk ∧ bundle.toBytes.toOption ≠ some shuffledFile) ∧
      (admitBundle (Os.faultless 0) emptyWorld.disk bundle demoConfig.storage 0).isOk) = true := by
    decide +kernel
  cases parsed : Bundle.fromBytes shuffledFile with
  | error error =>
      rw [parsed] at checked
      cases checked
  | ok bundle =>
      rw [parsed] at checked
      exact ⟨bundle, rfl, of_decide_eq_true checked⟩

/-- The snapshot of the shuffled file differs from it and is admitted like it. -/
theorem shuffled_snapshot_is_normal_form :
    ∃ bundle out, Bundle.fromBytes shuffledFile = .ok bundle ∧ bundle.toBytes = .ok out ∧
      out ≠ shuffledFile ∧ AdmittedFile (Os.faultless 0) emptyWorld.disk demoConfig.storage 0 out := by
  obtain ⟨bundle, parsed, ⟨serialized, different⟩, accepted⟩ := shuffledFile_parses
  obtain ⟨out, written⟩ := Except.exists_of_isOk serialized
  obtain ⟨trust, admitted⟩ := Except.exists_of_isOk accepted
  rw [written] at different
  have normal := (snapshot_is_normal_form parsed written).2.1
  refine ⟨bundle, out, parsed, written, fun same => different (congrArg some same), ?_⟩
  exact (normal _ _ _ _).mpr ⟨bundle, trust, parsed, admitted⟩

end Shuffled

end Hoike
