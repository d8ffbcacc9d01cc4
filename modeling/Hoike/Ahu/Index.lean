/-
Lookup in the sorted index of a bundle (`index.rs`, `bundle.rs`).

Records are searched by entry key and algorithm discriminator together.  In a
bundle that passes structural verification a pair names at most one record, and
the binary search finds it.
-/

import Std.Data.TreeMap.Lemmas
import Hoike.Library.BinarySearch
import Hoike.Ahu.Verify

namespace Hoike
namespace Ahu

/-! ### Entry references -/

/-- An entry key and an algorithm discriminator. -/
structure EntryRef where
  entryKey : Octets 32
  discriminator : UInt16
deriving DecidableEq, Repr

def EntryRef.order (left right : EntryRef) : Ordering :=
  (compare left.entryKey.val right.entryKey.val).then
    (compare left.discriminator right.discriminator)

instance : Ord EntryRef := ⟨EntryRef.order⟩

instance : Std.TransOrd EntryRef :=
  inferInstanceAs (Std.TransCmp (compareLex
    (compareOn fun reference : EntryRef => reference.entryKey.val)
    (compareOn fun reference : EntryRef => reference.discriminator)))

theorem EntryRef.order_eq_eq {left right : EntryRef} :
    compare left right = .eq ↔ left = right := by
  change EntryRef.order left right = .eq ↔ _
  unfold EntryRef.order
  rw [Ordering.then_eq_eq, Std.LawfulEqOrd.compare_eq_iff_eq, Std.LawfulEqOrd.compare_eq_iff_eq]
  constructor
  · intro same
    obtain ⟨leftKey, leftDiscriminator⟩ := left
    obtain ⟨rightKey, rightDiscriminator⟩ := right
    have keys : leftKey = rightKey := Subtype.ext same.1
    have discriminators : leftDiscriminator = rightDiscriminator := same.2
    rw [keys, discriminators]
  · intro same
    rw [same]
    exact ⟨rfl, rfl⟩

instance : Std.LawfulEqOrd EntryRef where
  eq_of_compare := EntryRef.order_eq_eq.mp

def IndexRecord.reference (record : IndexRecord) : EntryRef :=
  { entryKey := record.entryKey
    discriminator := record.discriminator }

/-! ### Search -/

def algDiscDefault : UInt16 := 0

def algDiscMlDsa44 : UInt16 := 2

def algDiscMlDsa65 : UInt16 := 3

def algDiscMlDsa87 : UInt16 := 4

def computeEntryKey [Sha2] (certidDer : Bytes) : Octets 32 :=
  Sha2.sha256 certidDer

def binarySearchWithDiscriminator (records : List IndexRecord) (entryKey : Octets 32)
    (discriminator : UInt16) : Option Nat :=
  BinarySearch.searchBy (fun record =>
    (compare record.entryKey.val entryKey.val).then
      (compare record.discriminator discriminator)) records

def binarySearch (records : List IndexRecord) (entryKey : Octets 32) : Option Nat :=
  binarySearchWithDiscriminator records entryKey algDiscDefault

/-- The first preference that has a record; without any, the default
discriminator unless it was among the preferences. -/
def binarySearchPreferred (records : List IndexRecord) (entryKey : Octets 32)
    (preferences : List UInt16) : Option Nat :=
  match preferences.findSome? (binarySearchWithDiscriminator records entryKey) with
  | some position => some position
  | none =>
      if algDiscDefault ∈ preferences then none
      else binarySearchWithDiscriminator records entryKey algDiscDefault

def Bundle.entryAt (bundle : Bundle) (position : Nat) : Option Bytes :=
  bundle.index[position]?.bind bundle.entryBytes

def Bundle.lookup (bundle : Bundle) (entryKey : Octets 32) : Option Bytes :=
  (binarySearch bundle.index entryKey).bind bundle.entryAt

def Bundle.lookupPreferred (bundle : Bundle) (entryKey : Octets 32)
    (preferences : List UInt16) : Option Bytes :=
  (binarySearchPreferred bundle.index entryKey preferences).bind bundle.entryAt

def Bundle.payload (bundle : Bundle) (reference : EntryRef) : Option Bytes :=
  (binarySearchWithDiscriminator bundle.index reference.entryKey
    reference.discriminator).bind bundle.entryAt

/-! ### Sorted indexes -/

def Ascending (records : List IndexRecord) : Prop :=
  records.Pairwise fun left right => compare left.reference right.reference = .lt

theorem Ascending.strictlySorted {records : List IndexRecord} (ascending : Ascending records)
    (reference : EntryRef) :
    BinarySearch.StrictlySorted (fun record => compare record.reference reference) records := by
  apply List.Pairwise.imp _ ascending
  intro left right less notLess
  have above : compare reference left.reference ≠ .gt := by
    intro greater
    exact notLess (Std.OrientedCmp.gt_iff_lt.mp greater)
  have strictly : compare reference right.reference = .lt :=
    Std.TransCmp.lt_of_isLE_of_lt (Ordering.isLE_iff_ne_gt.mpr above) less
  exact Std.OrientedCmp.gt_iff_lt.mpr strictly

def NonDescending (records : List IndexRecord) : Prop :=
  records.Pairwise fun left right => compare left.reference right.reference ≠ .gt

theorem Ascending.nonDescending {records : List IndexRecord} (ascending : Ascending records) :
    NonDescending records := by
  apply List.Pairwise.imp _ ascending
  intro left right less
  rw [less]
  decide

theorem NonDescending.sorted {records : List IndexRecord} (sorted : NonDescending records)
    (reference : EntryRef) :
    BinarySearch.Sorted (fun record => compare record.reference reference) records := by
  apply List.Pairwise.imp _ sorted
  intro left right notGreater
  have below : (compare left.reference right.reference).isLE :=
    Ordering.isLE_iff_ne_gt.mpr notGreater
  constructor
  · intro notLess less
    exact notLess (Std.TransCmp.lt_of_isLE_of_lt below less)
  · intro greater
    exact Std.OrientedCmp.gt_iff_lt.mpr
      (Std.TransCmp.lt_of_lt_of_isLE (Std.OrientedCmp.gt_iff_lt.mp greater) below)

theorem binarySearchWithDiscriminator_eq_some_iff {records : List IndexRecord}
    (ascending : Ascending records) {reference : EntryRef} {position : Nat} :
    binarySearchWithDiscriminator records reference.entryKey reference.discriminator =
        some position ↔
      ∃ record, records[position]? = some record ∧ record.reference = reference := by
  have search := BinarySearch.searchBy_eq_some_iff (ascending.strictlySorted reference) position
  simp only [EntryRef.order_eq_eq] at search
  exact search

theorem binarySearchWithDiscriminator_eq_none_iff {records : List IndexRecord}
    (sorted : NonDescending records) {reference : EntryRef} :
    binarySearchWithDiscriminator records reference.entryKey reference.discriminator = none ↔
      ∀ record ∈ records, record.reference ≠ reference := by
  have search := BinarySearch.searchBy_eq_none_iff (sorted.sorted reference)
  simp only [ne_eq, EntryRef.order_eq_eq] at search
  exact search

def Bundle.record (bundle : Bundle) (reference : EntryRef) : Option IndexRecord :=
  (binarySearchWithDiscriminator bundle.index reference.entryKey
    reference.discriminator).bind fun position => bundle.index[position]?

theorem Bundle.payload_eq_bind (bundle : Bundle) (reference : EntryRef) :
    bundle.payload reference = (bundle.record reference).bind bundle.entryBytes := by
  unfold Bundle.payload Bundle.record Bundle.entryAt
  rw [Option.bind_assoc]

theorem Bundle.mem_of_record {bundle : Bundle} {reference : EntryRef} {record : IndexRecord}
    (found : bundle.record reference = some record) :
    record ∈ bundle.index ∧ record.reference = reference := by
  obtain ⟨position, search, here⟩ := Option.bind_eq_some_iff.mp found
  obtain ⟨other, atPosition, equal⟩ := BinarySearch.searchBy_sound search
  rw [here] at atPosition
  cases atPosition
  exact ⟨List.mem_of_getElem? here, EntryRef.order_eq_eq.mp equal⟩

theorem Bundle.record_eq_some_iff {bundle : Bundle} (ascending : Ascending bundle.index)
    {reference : EntryRef} {record : IndexRecord} :
    bundle.record reference = some record ↔
      record ∈ bundle.index ∧ record.reference = reference := by
  constructor
  · intro found
    exact Bundle.mem_of_record found
  · intro present
    obtain ⟨position, within, here⟩ := List.mem_iff_getElem.mp present.1
    have atPosition : bundle.index[position]? = some record :=
      List.getElem?_eq_some_iff.mpr ⟨within, here⟩
    apply Option.bind_eq_some_iff.mpr
    exact ⟨position, (binarySearchWithDiscriminator_eq_some_iff ascending).mpr
      ⟨record, atPosition, present.2⟩, atPosition⟩

theorem Bundle.record_eq_none_iff {bundle : Bundle} (sorted : NonDescending bundle.index)
    {reference : EntryRef} :
    bundle.record reference = none ↔
      ∀ record ∈ bundle.index, record.reference ≠ reference := by
  constructor
  · intro missing
    apply (binarySearchWithDiscriminator_eq_none_iff sorted).mp
    cases search : binarySearchWithDiscriminator bundle.index reference.entryKey
        reference.discriminator with
    | none =>
        rfl
    | some position =>
        -- A position the search returns lies inside the index.
        obtain ⟨record, here, _⟩ := BinarySearch.searchBy_sound search
        unfold Bundle.record at missing
        rw [search, Option.bind_some, here] at missing
        cases missing
  · intro absent
    unfold Bundle.record
    rw [(binarySearchWithDiscriminator_eq_none_iff sorted).mpr absent, Option.bind_none]

/-- The preferred search visits the preferences in order and the default
discriminator last; where the default was a preference it is not tried twice. -/
theorem Bundle.lookupPreferred_eq_findSome (bundle : Bundle) (entryKey : Octets 32)
    (preferences : List UInt16) :
    bundle.lookupPreferred entryKey preferences =
      ((preferences ++ [algDiscDefault]).findSome? fun discriminator =>
        bundle.record
          { entryKey := entryKey
            discriminator := discriminator }).bind bundle.entryBytes := by
  have hit : ∀ discriminator position,
      binarySearchWithDiscriminator bundle.index entryKey discriminator = some position →
        ∃ record, bundle.index[position]? = some record := by
    intro discriminator position found
    obtain ⟨record, here, _⟩ := BinarySearch.searchBy_sound found
    exact ⟨record, here⟩
  unfold Bundle.lookupPreferred binarySearchPreferred Bundle.entryAt Bundle.record
  simp only
  rw [List.findSome?_append]
  induction preferences with
  | nil =>
      cases search : binarySearchWithDiscriminator bundle.index entryKey algDiscDefault with
      | none =>
          simp [search]
      | some position =>
          obtain ⟨record, here⟩ := hit _ _ search
          simp [search, here]
  | cons discriminator rest ih =>
      cases search : binarySearchWithDiscriminator bundle.index entryKey discriminator with
      | none =>
          -- A missing default does not come back when it is tried again at the end.
          by_cases default : algDiscDefault = discriminator
          · subst default
            simp only [List.findSome?_cons, search, Option.bind_none] at ih ⊢
            simpa [search] using ih
          · simpa [List.findSome?_cons, search, default] using ih
      | some position =>
          obtain ⟨record, here⟩ := hit _ _ search
          simp [search, here]

theorem Bundle.lookup_eq_lookupPreferred (bundle : Bundle) (entryKey : Octets 32) :
    bundle.lookup entryKey = bundle.lookupPreferred entryKey [] :=
  rfl

theorem Bundle.lookupPreferred_of_record {bundle : Bundle} {reference : EntryRef}
    {record : IndexRecord} (found : bundle.record reference = some record) :
    bundle.lookupPreferred reference.entryKey [reference.discriminator] =
      bundle.entryBytes record := by
  rw [Bundle.lookupPreferred_eq_findSome, List.cons_append, List.findSome?_cons, found]
  rfl

/-! ### Structural verification -/

theorem validateSortOrderFrom_eq_ok {records : List IndexRecord} :
    ∀ {position : Nat}, validateSortOrderFrom position records = .ok () ↔ Ascending records := by
  induction records with
  | nil =>
      intro position
      simp [validateSortOrderFrom, Ascending]
  | cons record rest ih =>
      intro position
      cases rest with
      | nil =>
          simp [validateSortOrderFrom, Ascending]
      | cons next others =>
          have step : Ascending (record :: next :: others) ↔
              compare record.reference next.reference = .lt ∧ Ascending (next :: others) := by
            unfold Ascending
            rw [List.pairwise_cons]
            constructor
            · intro both
              exact ⟨both.1 next List.mem_cons_self, both.2⟩
            · intro both
              refine ⟨?_, both.2⟩
              intro later member
              cases List.mem_cons.mp member with
              | inl same =>
                  rw [same]
                  exact both.1
              | inr behind =>
                  have above := (List.pairwise_cons.mp both.2).1 later behind
                  exact Std.TransCmp.lt_trans both.1 above
          rw [step]
          change _ ↔ EntryRef.order record.reference next.reference = .lt ∧ _
          unfold EntryRef.order IndexRecord.reference validateSortOrderFrom
          simp only []
          cases compare record.entryKey.val next.entryKey.val <;>
            cases compare record.discriminator next.discriminator <;>
            simp [Ordering.then, ih]

theorem validateSortOrder_eq_ok {records : List IndexRecord} :
    validateSortOrder records = .ok () ↔ Ascending records :=
  validateSortOrderFrom_eq_ok

theorem validateEntryBounds_eq_ok {bundle : Bundle} {records : List IndexRecord} :
    validateEntryBounds bundle records = .ok () ↔
      ∀ record ∈ records, record.isTombstone ∨ (bundle.entryBytes record).isSome := by
  induction records with
  | nil =>
      simp [validateEntryBounds]
  | cons record rest ih =>
      rw [List.forall_mem_cons, ← ih]
      change (Except.require _ _ >>= fun _ => validateEntryBounds bundle rest) = .ok () ↔ _
      constructor
      · intro checked
        obtain ⟨_, inside, others⟩ := Except.bind_eq_ok.mp checked
        exact ⟨Except.require_eq_ok.mp inside, others⟩
      · intro both
        exact Except.bind_eq_ok.mpr ⟨(), Except.require_eq_ok.mpr both.1, both.2⟩

section Verified

variable [Sha2] [Ciborium]

/-- What `verifyStructure` accepts.  The digests are those of the manifest in
the signed octets, to which the decoded one normalizes. -/
structure Bundle.Verified (bundle : Bundle) (signed : Manifest) : Prop where
  decodes : Manifest.fromCbor bundle.manifestBytes = .ok signed
  agrees : signed.toCbor = bundle.manifest.toCbor
  indexDigest : Sha2.sha256 (writeIndex bundle.index) = signed.integrity.indexDigest
  dataDigest : Sha2.sha256 bundle.data = signed.integrity.dataDigest
  ascending : Ascending bundle.index
  bounded : ∀ record ∈ bundle.index, record.isTombstone ∨ (bundle.entryBytes record).isSome
  based : signed.bundleType = .delta → signed.continuity.baseManifestDigest.isSome

theorem verifyStructure_eq_ok {bundle : Bundle} :
    (∃ result, verifyStructure bundle = .ok result) ↔ ∃ signed, bundle.Verified signed := by
  constructor
  · intro accepted
    obtain ⟨result, accepted⟩ := accepted
    unfold verifyStructure at accepted
    obtain ⟨signed, decodes, accepted⟩ := Except.bind_eq_ok.mp accepted
    obtain ⟨_, agrees, accepted⟩ := Except.bind_eq_ok.mp accepted
    obtain ⟨_, indexDigest, accepted⟩ := Except.bind_eq_ok.mp accepted
    obtain ⟨_, dataDigest, accepted⟩ := Except.bind_eq_ok.mp accepted
    obtain ⟨_, sorted, accepted⟩ := Except.bind_eq_ok.mp accepted
    obtain ⟨_, bounds, accepted⟩ := Except.bind_eq_ok.mp accepted
    obtain ⟨_, based, _⟩ := Except.bind_eq_ok.mp accepted
    exact ⟨signed,
      { decodes := decodes
        agrees := Except.require_eq_ok.mp agrees
        indexDigest := Except.require_eq_ok.mp indexDigest
        dataDigest := Except.require_eq_ok.mp dataDigest
        ascending := validateSortOrder_eq_ok.mp sorted
        bounded := validateEntryBounds_eq_ok.mp bounds
        based := Except.require_eq_ok.mp based }⟩
  · intro verified
    obtain ⟨signed, verified⟩ := verified
    unfold verifyStructure
    refine Except.exists_bind_eq_ok.mpr ⟨signed, verified.decodes, ?_⟩
    refine Except.exists_bind_eq_ok.mpr ⟨(), Except.require_eq_ok.mpr verified.agrees, ?_⟩
    refine Except.exists_bind_eq_ok.mpr ⟨(), Except.require_eq_ok.mpr verified.indexDigest, ?_⟩
    refine Except.exists_bind_eq_ok.mpr ⟨(), Except.require_eq_ok.mpr verified.dataDigest, ?_⟩
    refine Except.exists_bind_eq_ok.mpr
      ⟨(), validateSortOrder_eq_ok.mpr verified.ascending, ?_⟩
    refine Except.exists_bind_eq_ok.mpr
      ⟨(), validateEntryBounds_eq_ok.mpr verified.bounded, ?_⟩
    exact Except.exists_bind_eq_ok.mpr
      ⟨(), Except.require_eq_ok.mpr verified.based, _, rfl⟩

theorem entryCountMatches_of_verifyStructure {bundle : Bundle} {signed : Manifest}
    {report : VerifyResult} (decodes : Manifest.fromCbor bundle.manifestBytes = .ok signed)
    (verified : verifyStructure bundle = .ok report) :
    report.entryCountMatches = (UInt64.ofNat bundle.index.length == signed.entryCount) := by
  unfold verifyStructure at verified
  obtain ⟨manifest, decoded, verified⟩ := Except.bind_eq_ok.mp verified
  cases decodes.symm.trans decoded
  iterate 6 obtain ⟨_, _, verified⟩ := Except.bind_eq_ok.mp verified
  cases verified
  rfl

end Verified

end Ahu
end Hoike
