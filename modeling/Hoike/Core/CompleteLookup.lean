/-
Lookups in bundles that pass the structural checks and the serving profile.

The index may come from any producer.  What a lookup returns is compared with
a plain scan of the index: the first preference that has a record, then the
default discriminator, and always the whole range the record names.
-/

import Hoike.Ahu.SealedContent
import Hoike.Core.Admission

namespace Hoike
namespace Ahu

/-! ### The selected record -/

def scanRecord (index : List IndexRecord) (reference : EntryRef) : Option IndexRecord :=
  index.find? fun record => record.reference = reference

def preferredRecord (index : List IndexRecord) (entryKey : Octets 32)
    (preferences : List UInt16) : Option IndexRecord :=
  (preferences ++ [algDiscDefault]).findSome? fun discriminator =>
    scanRecord index
      { entryKey := entryKey
        discriminator := discriminator }

def Bundle.range (bundle : Bundle) (record : IndexRecord) : Bytes :=
  (bundle.data.drop record.dataOffset.toNat).take record.dataLength.toNat

/-- The range lies inside the data section, so nothing of it is cut. -/
def Bundle.RangeInside (bundle : Bundle) (record : IndexRecord) : Prop :=
  record.dataOffset.toNat + record.dataLength.toNat ≤ bundle.data.length

theorem scanRecord_eq_some {index : List IndexRecord} {reference : EntryRef}
    {record : IndexRecord} (found : scanRecord index reference = some record) :
    record ∈ index ∧ record.reference = reference := by
  have equal := List.find?_some found
  exact ⟨List.mem_of_find?_eq_some found, of_decide_eq_true equal⟩

theorem mem_of_preferredRecord {index : List IndexRecord} {entryKey : Octets 32}
    {preferences : List UInt16} {record : IndexRecord}
    (selected : preferredRecord index entryKey preferences = some record) : record ∈ index := by
  obtain ⟨discriminator, _, found⟩ := List.exists_of_findSome?_eq_some selected
  exact (scanRecord_eq_some found).1

theorem Bundle.record_eq_scanRecord {bundle : Bundle} (ascending : Ascending bundle.index)
    (reference : EntryRef) : bundle.record reference = scanRecord bundle.index reference := by
  cases scanned : scanRecord bundle.index reference with
  | none =>
      apply (Bundle.record_eq_none_iff ascending.nonDescending).mpr
      intro record member same
      exact List.find?_eq_none.mp scanned record member (decide_eq_true same)
  | some record =>
      exact (Bundle.record_eq_some_iff ascending).mpr (scanRecord_eq_some scanned)

theorem Bundle.entryBytes_eq_range {bundle : Bundle} {record : IndexRecord}
    (live : record.isTombstone = false) (present : (bundle.entryBytes record).isSome) :
    bundle.RangeInside record ∧ bundle.entryBytes record = some (bundle.range record) := by
  unfold Bundle.entryBytes at present ⊢
  rw [live, if_neg Bool.false_ne_true] at present ⊢
  by_cases inside : record.dataOffset.toNat + record.dataLength.toNat < 2 ^ 64 ∧
      record.dataOffset.toNat + record.dataLength.toNat ≤ bundle.data.length
  · rw [if_pos inside]
    exact ⟨inside.2, rfl⟩
  · rw [if_neg inside] at present
    cases present

end Ahu

open Ahu

theorem live_of_profile {bundle : Bundle} (profile : validateServingProfile bundle = .ok ())
    {record : IndexRecord} (member : record ∈ bundle.index) : record.isTombstone = false := by
  unfold validateServingProfile at profile
  iterate 3 obtain ⟨_, _, profile⟩ := Except.bind_eq_ok.mp profile
  obtain ⟨_, live, _⟩ := Except.bind_eq_ok.mp profile
  have live := List.all_eq_true.mp (Except.require_eq_ok.mp live) record member
  rwa [Bool.not_eq_true'] at live

section Lookups

variable [Sha2] [Ciborium]

/-- In a bundle that passes both checks every lookup gives the range of the
record that the preferences select, and every record is selected by its own key
and discriminator. -/
theorem lookups_complete {bundle : Bundle} {report : VerifyResult}
    (verified : verifyStructure bundle = .ok report)
    (profile : validateServingProfile bundle = .ok ()) :
    (∀ entryKey preferences,
      bundle.lookupPreferred entryKey preferences =
        (preferredRecord bundle.index entryKey preferences).map bundle.range) ∧
      (∀ entryKey, bundle.lookup entryKey = bundle.lookupPreferred entryKey []) ∧
      ∀ record ∈ bundle.index, bundle.RangeInside record ∧
        bundle.lookupPreferred record.entryKey [record.discriminator] =
          some (bundle.range record) := by
  obtain ⟨_, checked⟩ := verifyStructure_eq_ok.mp ⟨report, verified⟩
  have stored : ∀ record ∈ bundle.index,
      bundle.RangeInside record ∧ bundle.entryBytes record = some (bundle.range record) := by
    intro record member
    have live := live_of_profile profile member
    refine Bundle.entryBytes_eq_range live ((checked.bounded record member).resolve_left ?_)
    rw [live]
    exact Bool.false_ne_true
  have lookups : ∀ entryKey preferences, bundle.lookupPreferred entryKey preferences =
      (preferredRecord bundle.index entryKey preferences).map bundle.range := by
    intro entryKey preferences
    rw [Bundle.lookupPreferred_eq_findSome]
    simp only [Bundle.record_eq_scanRecord checked.ascending]
    change (preferredRecord bundle.index entryKey preferences).bind bundle.entryBytes = _
    cases selected : preferredRecord bundle.index entryKey preferences with
    | none =>
        rfl
    | some record =>
        exact (stored record (mem_of_preferredRecord selected)).2
  refine ⟨lookups, bundle.lookup_eq_lookupPreferred, ?_⟩
  intro record member
  refine ⟨(stored record member).1, ?_⟩
  have own : scanRecord bundle.index record.reference = some record := by
    rw [← Bundle.record_eq_scanRecord checked.ascending]
    exact (Bundle.record_eq_some_iff checked.ascending).mpr ⟨member, rfl⟩
  unfold IndexRecord.reference at own
  rw [lookups]
  unfold preferredRecord
  rw [List.cons_append, List.findSome?_cons, own]
  rfl

end Lookups

/-! ### Two variants of one certificate -/

section Variants

local instance variantsSha2 : Sha2 := Crates.sha2
local instance variantsCiborium : Ciborium := Crates.ciborium

def variantKey : Octets 32 := .filled 32 1

def variantIndex : List IndexRecord :=
  [{ entryKey := variantKey
     dataOffset := 0
     dataLength := 2
     flags := .empty
     discriminator := 0 },
    { entryKey := variantKey
      dataOffset := 1
      dataLength := 2
      flags := .empty
      discriminator := 3 }]

def variantManifest : Manifest :=
  { Crates.plainManifest "p" [Crates.plainScope 0xaa 5] none with
    integrity :=
      { indexDigest := Sha2.sha256 (writeIndex variantIndex)
        dataDigest := Sha2.sha256 [7, 8, 9] }
    entryCount := 2 }

def variantBundle : Bundle :=
  { header := sampleHeader 1
    manifest := variantManifest
    manifestBytes := variantManifest.toCbor
    sealBytes := []
    index := variantIndex
    data := [7, 8, 9] }

theorem variant_lookups_complete :
    (∃ report, verifyStructure variantBundle = .ok report) ∧
      validateServingProfile variantBundle = .ok () ∧
      variantBundle.lookupPreferred variantKey [2, 3] = some [8, 9] ∧
      variantBundle.lookupPreferred variantKey [2] = some [7, 8] := by
  obtain ⟨report, verified⟩ := Except.exists_of_isOk
    (show (verifyStructure variantBundle).isOk = true by decide +kernel)
  obtain ⟨_, profile⟩ := Except.exists_of_isOk
    (show (validateServingProfile variantBundle).isOk = true by decide +kernel)
  have lookups := (lookups_complete verified profile).1
  refine ⟨⟨report, verified⟩, profile, ?_, ?_⟩
  · rw [lookups]
    decide +kernel
  · rw [lookups]
    decide +kernel

end Variants

end Hoike
