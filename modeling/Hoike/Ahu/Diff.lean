/-
The structural diff of two parsed bundles.

The pairs of key and discriminator are collected by a scan of either index, while
the payloads of a common pair are fetched by the binary search.  The lists of added
and removed pairs are therefore exact for every index, and the list of changed pairs
is exact when in either bundle the search for a common pair reaches a record that
speaks for all records of the pair.
-/

import Hoike.Ahu.Crates
import Hoike.Ahu.Index
import Mathlib.Data.Finset.Card
import Mathlib.Data.List.Dedup

namespace Hoike
namespace Ahu

/-! ### The operation -/

structure DiffResult where
  aEntryCount : Nat
  bEntryCount : Nat
  aEpochs : List UInt64
  bEpochs : List UInt64
  added : List EntryRef
  removed : List EntryRef
  changed : List EntryRef
  unchanged : Nat
  deriving DecidableEq

/-- The set of pairs of an index.  The source iterates over a hash set; the order
here is the one of the index. -/
def Bundle.keys (bundle : Bundle) : List EntryRef :=
  (bundle.index.map IndexRecord.reference).dedup

def compareCommon (a b : Bundle) (found : List EntryRef × Nat) (pair : EntryRef) :
    List EntryRef × Nat :=
  if a.payload pair ≠ b.payload pair then (found.1 ++ [pair], found.2)
  else (found.1, found.2 + 1)

def diff (a b : Bundle) : DiffResult :=
  let aKeys := a.keys
  let bKeys := b.keys
  let common := (aKeys.filter (· ∈ bKeys)).foldl (compareCommon a b) ([], 0)
  { aEntryCount := a.index.length
    bEntryCount := b.index.length
    aEpochs := a.manifest.caScopes.map CaScope.epoch
    bEpochs := b.manifest.caScopes.map CaScope.epoch
    added := bKeys.filter (· ∉ aKeys)
    removed := aKeys.filter (· ∉ bKeys)
    changed := common.1
    unchanged := common.2 }

/-! ### What an exact diff is -/

def Bundle.pairs (bundle : Bundle) : Finset EntryRef :=
  (bundle.index.map IndexRecord.reference).toFinset

/-- What the records of one pair point at; a tombstone points at nothing. -/
def Bundle.payloads (bundle : Bundle) (pair : EntryRef) : Finset (Option Bytes) :=
  ((bundle.index.filter fun record => record.reference = pair).map bundle.entryBytes).toFinset

structure DiffResult.Exact (a b : Bundle) (result : DiffResult) : Prop where
  added : ∀ pair, pair ∈ result.added ↔ pair ∈ b.pairs \ a.pairs
  removed : ∀ pair, pair ∈ result.removed ↔ pair ∈ a.pairs \ b.pairs
  changed : ∀ pair, pair ∈ result.changed ↔
    pair ∈ a.pairs ∩ b.pairs ∧ a.payloads pair ≠ b.payloads pair
  once : (result.added ++ result.removed ++ result.changed).Nodup
  accounted : result.added.length + result.removed.length + result.changed.length +
    result.unchanged = (a.pairs ∪ b.pairs).card

@[simp] theorem Bundle.mem_keys {bundle : Bundle} {pair : EntryRef} :
    pair ∈ bundle.keys ↔ pair ∈ bundle.pairs := by
  unfold Bundle.keys Bundle.pairs
  rw [List.mem_dedup, List.mem_toFinset]

theorem Bundle.keys_nodup (bundle : Bundle) : bundle.keys.Nodup :=
  List.nodup_dedup _

theorem Bundle.mem_payloads {bundle : Bundle} {pair : EntryRef} {payload : Option Bytes} :
    payload ∈ bundle.payloads pair ↔
      ∃ record ∈ bundle.index, record.reference = pair ∧ bundle.entryBytes record = payload := by
  unfold Bundle.payloads
  rw [List.mem_toFinset, List.mem_map]
  constructor
  · rintro ⟨record, kept, same⟩
    obtain ⟨listed, named⟩ := List.mem_filter.mp kept
    exact ⟨record, listed, of_decide_eq_true named, same⟩
  · rintro ⟨record, listed, named, same⟩
    exact ⟨record, List.mem_filter.mpr ⟨listed, decide_eq_true named⟩, same⟩

/-! ### The lists of the diff -/

theorem foldl_compareCommon (a b : Bundle) (common : List EntryRef)
    (found : List EntryRef × Nat) :
    common.foldl (compareCommon a b) found =
      (found.1 ++ common.filter (fun pair => a.payload pair ≠ b.payload pair),
        found.2 + (common.filter fun pair => a.payload pair = b.payload pair).length) := by
  induction common generalizing found with
  | nil =>
      simp
  | cons pair rest ih =>
      rw [List.foldl_cons, ih]
      unfold compareCommon
      by_cases same : a.payload pair = b.payload pair
      · simp [same, Nat.add_assoc, Nat.add_comm]
      · simp [same]

def commonKeys (a b : Bundle) : List EntryRef :=
  a.keys.filter (· ∈ b.keys)

theorem mem_commonKeys {a b : Bundle} {pair : EntryRef} :
    pair ∈ commonKeys a b ↔ pair ∈ a.pairs ∩ b.pairs := by
  unfold commonKeys
  rw [List.mem_filter, decide_eq_true_iff, Bundle.mem_keys, Bundle.mem_keys, Finset.mem_inter]

theorem changed_diff (a b : Bundle) :
    (diff a b).changed =
      (commonKeys a b).filter fun pair => a.payload pair ≠ b.payload pair := by
  unfold diff
  dsimp only
  rw [foldl_compareCommon]
  exact List.nil_append _

theorem unchanged_diff (a b : Bundle) :
    (diff a b).unchanged =
      ((commonKeys a b).filter fun pair => a.payload pair = b.payload pair).length := by
  unfold diff
  dsimp only
  rw [foldl_compareCommon]
  exact Nat.zero_add _

theorem mem_added {a b : Bundle} {pair : EntryRef} :
    pair ∈ (diff a b).added ↔ pair ∈ b.pairs \ a.pairs := by
  unfold diff
  rw [List.mem_filter, decide_eq_true_iff, Bundle.mem_keys, Bundle.mem_keys, Finset.mem_sdiff]

theorem mem_removed {a b : Bundle} {pair : EntryRef} :
    pair ∈ (diff a b).removed ↔ pair ∈ a.pairs \ b.pairs := by
  unfold diff
  rw [List.mem_filter, decide_eq_true_iff, Bundle.mem_keys, Bundle.mem_keys, Finset.mem_sdiff]

theorem mem_changed {a b : Bundle} {pair : EntryRef} :
    pair ∈ (diff a b).changed ↔
      pair ∈ a.pairs ∩ b.pairs ∧ a.payload pair ≠ b.payload pair := by
  rw [changed_diff, List.mem_filter, decide_eq_true_iff, mem_commonKeys]

theorem nodup_added (a b : Bundle) : (diff a b).added.Nodup :=
  b.keys_nodup.filter _

theorem nodup_removed (a b : Bundle) : (diff a b).removed.Nodup :=
  a.keys_nodup.filter _

theorem nodup_commonKeys (a b : Bundle) : (commonKeys a b).Nodup :=
  a.keys_nodup.filter _

theorem nodup_changed (a b : Bundle) : (diff a b).changed.Nodup := by
  rw [changed_diff]
  exact (nodup_commonKeys a b).filter _

theorem nodup_diff (a b : Bundle) :
    ((diff a b).added ++ (diff a b).removed ++ (diff a b).changed).Nodup := by
  rw [List.nodup_append', List.nodup_append']
  refine ⟨⟨nodup_added a b, nodup_removed a b, ?_⟩, nodup_changed a b, ?_⟩
  · intro pair added removed
    exact (Finset.mem_sdiff.mp (mem_added.mp added)).2
      (Finset.mem_sdiff.mp (mem_removed.mp removed)).1
  · intro pair left changed
    obtain ⟨inA, inB⟩ := Finset.mem_inter.mp (mem_changed.mp changed).1
    rcases List.mem_append.mp left with added | removed
    · exact (Finset.mem_sdiff.mp (mem_added.mp added)).2 inA
    · exact (Finset.mem_sdiff.mp (mem_removed.mp removed)).2 inB

theorem length_eq_card {pairs : List EntryRef} {set : Finset EntryRef} (nodup : pairs.Nodup)
    (members : ∀ pair, pair ∈ pairs ↔ pair ∈ set) : pairs.length = set.card := by
  rw [← List.toFinset_card_of_nodup nodup]
  congr 1
  ext pair
  rw [List.mem_toFinset, members]

theorem accounted_diff (a b : Bundle) :
    (diff a b).added.length + (diff a b).removed.length + (diff a b).changed.length +
      (diff a b).unchanged = (a.pairs ∪ b.pairs).card := by
  have added := length_eq_card (nodup_added a b) fun _ => mem_added
  have removed := length_eq_card (nodup_removed a b) fun _ => mem_removed
  have common := length_eq_card (nodup_commonKeys a b) fun _ => mem_commonKeys
  have divided : (diff a b).changed.length + (diff a b).unchanged = (commonKeys a b).length := by
    rw [changed_diff, unchanged_diff, Nat.add_comm]
    simp only [ne_eq, decide_not]
    exact (List.length_eq_length_filter_add _).symm
  have leftParts := Finset.card_sdiff_add_card_inter a.pairs b.pairs
  have rightParts := Finset.card_sdiff_add_card_inter b.pairs a.pairs
  have whole := Finset.card_union_add_card_inter a.pairs b.pairs
  rw [Finset.inter_comm] at rightParts
  omega

/-! ### Pairs that a bundle settles -/

/-- The records of the pair point at one payload, and the search reaches one of
them unless that is no payload at all. -/
structure Bundle.Settled (bundle : Bundle) (pair : EntryRef) : Prop where
  agree : ∀ left ∈ bundle.index, ∀ right ∈ bundle.index, left.reference = pair →
    right.reference = pair → bundle.entryBytes left = bundle.entryBytes right
  reached : (bundle.record pair).isSome ∨
    ∀ record ∈ bundle.index, record.reference = pair → bundle.entryBytes record = none

theorem Bundle.settled_of_payloads {bundle : Bundle} {pair : EntryRef}
    (only : bundle.payloads pair = {bundle.payload pair}) : bundle.Settled pair := by
  have points : ∀ record ∈ bundle.index, record.reference = pair →
      bundle.entryBytes record = bundle.payload pair := by
    intro record listed named
    have member := Bundle.mem_payloads.mpr ⟨record, listed, named, rfl⟩
    rw [only] at member
    exact Finset.mem_singleton.mp member
  constructor
  · intro left leftListed right rightListed leftNamed rightNamed
    rw [points left leftListed leftNamed, points right rightListed rightNamed]
  · cases found : bundle.record pair with
    | some record =>
        exact Or.inl rfl
    | none =>
        right
        intro record listed named
        rw [points record listed named, Bundle.payload_eq_bind, found, Option.bind_none]

theorem Bundle.Settled.payloads {bundle : Bundle} {pair : EntryRef}
    (settled : bundle.Settled pair) (listed : pair ∈ bundle.pairs) :
    bundle.payloads pair = {bundle.payload pair} := by
  obtain ⟨record, member, named⟩ := List.mem_map.mp (List.mem_toFinset.mp listed)
  have points : ∀ other ∈ bundle.index, other.reference = pair →
      bundle.entryBytes other = bundle.payload pair := by
    intro other otherListed otherNamed
    rw [Bundle.payload_eq_bind]
    cases found : bundle.record pair with
    | some first =>
        obtain ⟨firstListed, firstNamed⟩ := Bundle.mem_of_record found
        exact settled.agree other otherListed first firstListed otherNamed firstNamed
    | none =>
        rcases settled.reached with reached | nothing
        · rw [found] at reached
          cases reached
        · exact nothing other otherListed otherNamed
  ext payload
  rw [Bundle.mem_payloads, Finset.mem_singleton]
  constructor
  · rintro ⟨other, otherListed, otherNamed, rfl⟩
    exact points other otherListed otherNamed
  · rintro rfl
    exact ⟨record, member, named, points record member named⟩

theorem Bundle.settled_of_strictlySorted {bundle : Bundle} {pair : EntryRef}
    (sorted : BinarySearch.StrictlySorted (fun record => compare record.reference pair)
      bundle.index) : bundle.Settled pair := by
  have search := fun position => BinarySearch.searchBy_eq_some_iff sorted position
  simp only [EntryRef.order_eq_eq] at search
  have found : ∀ record ∈ bundle.index, record.reference = pair →
      bundle.record pair = some record := by
    intro record listed named
    obtain ⟨position, within, here⟩ := List.mem_iff_getElem.mp listed
    have atPosition : bundle.index[position]? = some record :=
      List.getElem?_eq_some_iff.mpr ⟨within, here⟩
    exact Option.bind_eq_some_iff.mpr
      ⟨position, (search position).mpr ⟨record, atPosition, named⟩, atPosition⟩
  constructor
  · intro left leftListed right rightListed leftNamed rightNamed
    have same := (found left leftListed leftNamed).symm.trans (found right rightListed rightNamed)
    rw [Option.some.inj same]
  · cases missed : bundle.record pair with
    | some record =>
        exact Or.inl rfl
    | none =>
        right
        intro record listed named
        have reached := found record listed named
        rw [missed] at reached
        cases reached

def onlyRecord (pair : EntryRef) (payload : Option Bytes) : IndexRecord :=
  { entryKey := pair.entryKey
    dataOffset := 0
    dataLength := UInt32.ofNat (payload.getD []).length
    flags := { IndexFlags.empty with tombstone := payload.isNone }
    discriminator := pair.discriminator }

def Bundle.withOnly (bundle : Bundle) (pair : EntryRef) (payload : Option Bytes) : Bundle :=
  { bundle with
    index := [onlyRecord pair payload]
    data := payload.getD [] }

theorem Bundle.ascending_withOnly (bundle : Bundle) (pair : EntryRef) (payload : Option Bytes) :
    Ascending (bundle.withOnly pair payload).index :=
  List.pairwise_singleton _ _

theorem Bundle.mem_pairs_withOnly (bundle : Bundle) (pair : EntryRef) (payload : Option Bytes) :
    pair ∈ (bundle.withOnly pair payload).pairs :=
  List.mem_toFinset.mpr List.mem_cons_self

theorem Bundle.payload_withOnly (bundle : Bundle) (pair : EntryRef) {payload : Option Bytes}
    (short : (payload.getD []).length < 2 ^ 32) :
    (bundle.withOnly pair payload).payload pair = payload := by
  have found : (bundle.withOnly pair payload).record pair = some (onlyRecord pair payload) :=
    (Bundle.record_eq_some_iff (bundle.ascending_withOnly pair payload)).mpr
      ⟨List.mem_cons_self, rfl⟩
  rw [Bundle.payload_eq_bind, found, Option.bind_some]
  unfold Bundle.entryBytes Bundle.withOnly IndexRecord.isTombstone onlyRecord
  dsimp only
  cases payload with
  | none =>
      rfl
  | some content =>
      have length : (UInt32.ofNat content.length).toNat = content.length :=
        UInt32.toNat_ofNat_of_lt' short
      have within : content.length < 2 ^ 64 := Nat.lt_trans short (by decide)
      rw [if_neg (by simp)]
      simp only [Option.getD_some, length, UInt64.toNat_zero, Nat.zero_add, within, Nat.le_refl,
        and_self, if_true, List.drop_zero, List.take_length]

theorem Bundle.length_payload_lt (bundle : Bundle) (pair : EntryRef) :
    ((bundle.payload pair).getD []).length < 2 ^ 32 := by
  rw [Bundle.payload_eq_bind]
  cases bundle.record pair with
  | none =>
      rw [Option.bind_none]
      decide
  | some record =>
      rw [Option.bind_some]
      unfold Bundle.entryBytes
      split_ifs
      · decide
      · rw [Option.getD_some, List.length_take]
        exact Nat.lt_of_le_of_lt (Nat.min_le_left _ _) record.dataLength.toNat_lt
      · decide

/-! ### Exactness -/

theorem exact_of_settled {a b : Bundle}
    (settled : ∀ pair ∈ a.pairs ∩ b.pairs, a.Settled pair ∧ b.Settled pair) :
    (diff a b).Exact a b := by
  refine
    { added := fun _ => mem_added
      removed := fun _ => mem_removed
      changed := ?_
      once := nodup_diff a b
      accounted := accounted_diff a b }
  intro pair
  rw [mem_changed]
  apply and_congr_right
  intro common
  obtain ⟨inA, inB⟩ := Finset.mem_inter.mp common
  obtain ⟨settledA, settledB⟩ := settled pair common
  rw [settledA.payloads inA, settledB.payloads inB, ne_eq, ne_eq, Finset.singleton_inj]

/-- Against the bundle that gives a pair just what the search finds, the diff
counts the pair as unchanged. -/
theorem settled_of_exact {bundle : Bundle} {pair : EntryRef} (listed : pair ∈ bundle.pairs)
    (exact' : (diff bundle (bundle.withOnly pair (bundle.payload pair))).Exact bundle
      (bundle.withOnly pair (bundle.payload pair))) : bundle.Settled pair := by
  have other := Bundle.mem_pairs_withOnly bundle pair (bundle.payload pair)
  have found := Bundle.payload_withOnly bundle pair (bundle.length_payload_lt pair)
  have only := (Bundle.settled_of_strictlySorted
    ((bundle.ascending_withOnly pair (bundle.payload pair)).strictlySorted pair)).payloads other
  apply Bundle.settled_of_payloads
  by_contra differ
  have changed := (exact'.changed pair).mpr ⟨Finset.mem_inter.mpr ⟨listed, other⟩, by
    rw [only, found]
    exact differ⟩
  exact (mem_changed.mp changed).2 found.symm

/-- The diff is exact when either bundle settles every common pair.  A bundle
that settles all its pairs is just one whose diffs with all bundles of ascending
indexes are exact. -/
theorem diff_exact_iff (a b : Bundle) :
    ((∀ pair ∈ a.pairs ∩ b.pairs, a.Settled pair ∧ b.Settled pair) → (diff a b).Exact a b) ∧
      ((∀ pair ∈ a.pairs, a.Settled pair) ↔
        ∀ other : Bundle, Ascending other.index →
          (diff a other).Exact a other ∧ (diff other a).Exact other a) := by
  refine ⟨exact_of_settled, ?_⟩
  constructor
  · intro settled other ascending
    have otherSettled : ∀ pair, other.Settled pair :=
      fun pair => Bundle.settled_of_strictlySorted (ascending.strictlySorted pair)
    constructor
    · apply exact_of_settled
      intro pair common
      exact ⟨settled pair (Finset.mem_inter.mp common).1, otherSettled pair⟩
    · apply exact_of_settled
      intro pair common
      exact ⟨otherSettled pair, settled pair (Finset.mem_inter.mp common).2⟩
  · intro exact' pair listed
    exact settled_of_exact listed (exact' _ (a.ascending_withOnly pair (a.payload pair))).1

/-! ### Two files with the same pairs -/

section Unsorted

local instance unsortedSha2 : Sha2 := Crates.sha2
local instance unsortedCiborium : Ciborium := Crates.ciborium

def octetRecord (key : UInt8) (offset : UInt64) : IndexRecord :=
  { entryKey := Octets.filled 32 key
    dataOffset := offset
    dataLength := 1
    flags := IndexFlags.empty
    discriminator := 1 }

def indexedFile (index : List IndexRecord) (data : Bytes) : Bytes :=
  let manifest := Crates.plainManifest "hoike-combined" [Crates.plainScope 0x33 1] none
  let bundle : Bundle :=
    { header :=
        { formatMajor := formatMajor
          formatMinor := formatMinor
          manifestOffset := 0
          manifestLength := 0
          sealOffset := 0
          sealLength := 0
          indexOffset := 0
          indexLength := 0
          dataOffset := 0
          dataLength := 0 }
      manifest := manifest
      manifestBytes := manifest.toCbor
      sealBytes := []
      index := index
      data := data }
  bundle.toBytes.toOption.getD []

theorem exists_parsed (left right : Bytes) (property : Bundle → Bundle → Bool)
    (computed : ((Bundle.fromBytes left).toOption.bind fun a =>
      (Bundle.fromBytes right).toOption.map (property a)) = some true) :
    ∃ a b, Bundle.fromBytes left = .ok a ∧ Bundle.fromBytes right = .ok b ∧
      property a b = true := by
  obtain ⟨a, parsedA, rest⟩ := Option.bind_eq_some_iff.mp computed
  obtain ⟨b, parsedB, holds⟩ := Option.map_eq_some_iff.mp rest
  exact ⟨a, b, Except.toOption_eq_some.mp parsedA, Except.toOption_eq_some.mp parsedB, holds⟩

/-- Key 1 is removed, key 2 is unchanged, key 3 is changed and key 4 is added. -/
theorem sorted_diff_exact :
    ∃ a b, Bundle.fromBytes (indexedFile [octetRecord 1 0, octetRecord 2 1, octetRecord 3 2]
        [5, 6, 7]) = .ok a ∧
      Bundle.fromBytes (indexedFile [octetRecord 2 0, octetRecord 3 1, octetRecord 4 2]
        [6, 9, 5]) = .ok b ∧
      (diff a b).added = [(octetRecord 4 0).reference] ∧
      (diff a b).removed = [(octetRecord 1 0).reference] ∧
      (diff a b).changed = [(octetRecord 3 0).reference] ∧ (diff a b).unchanged = 1 ∧
      (diff a b).Exact a b := by
  obtain ⟨a, b, parsedA, parsedB, holds⟩ := exists_parsed
    (indexedFile [octetRecord 1 0, octetRecord 2 1, octetRecord 3 2] [5, 6, 7])
    (indexedFile [octetRecord 2 0, octetRecord 3 1, octetRecord 4 2] [6, 9, 5])
    (fun a b => decide (
      a.index = [octetRecord 1 0, octetRecord 2 1, octetRecord 3 2] ∧
      b.index = [octetRecord 2 0, octetRecord 3 1, octetRecord 4 2] ∧
      (diff a b).added = [(octetRecord 4 0).reference] ∧
      (diff a b).removed = [(octetRecord 1 0).reference] ∧
      (diff a b).changed = [(octetRecord 3 0).reference] ∧
      (diff a b).unchanged = 1)) (by decide +kernel)
  obtain ⟨indexA, indexB, added, removed, changed, unchanged⟩ := of_decide_eq_true holds
  have ascendingA : Ascending a.index := by
    rw [indexA]
    unfold Ascending
    decide +kernel
  have ascendingB : Ascending b.index := by
    rw [indexB]
    unfold Ascending
    decide +kernel
  refine ⟨a, b, parsedA, parsedB, added, removed, changed, unchanged, ?_⟩
  apply (diff_exact_iff a b).1
  intro pair _
  exact ⟨Bundle.settled_of_strictlySorted (ascendingA.strictlySorted pair),
    Bundle.settled_of_strictlySorted (ascendingB.strictlySorted pair)⟩

/-- Both files list key 2 before key 1 and every pair once.  The payload under key 2
is 7 in one and 9 in the other; both searches pass by, and the pair counts as
unchanged. -/
theorem unsorted_index_hides_change :
    ∃ a b, Bundle.fromBytes (indexedFile [octetRecord 2 0, octetRecord 1 1] [7, 8]) = .ok a ∧
      Bundle.fromBytes (indexedFile [octetRecord 2 0, octetRecord 1 1] [9, 8]) = .ok b ∧
      (octetRecord 2 0).reference ∈ a.pairs ∩ b.pairs ∧
      a.payloads (octetRecord 2 0).reference = {some [7]} ∧
      b.payloads (octetRecord 2 0).reference = {some [9]} ∧
      (diff a b).changed = [] ∧ (diff a b).unchanged = 2 ∧ ¬(diff a b).Exact a b := by
  obtain ⟨a, b, parsedA, parsedB, holds⟩ := exists_parsed
    (indexedFile [octetRecord 2 0, octetRecord 1 1] [7, 8])
    (indexedFile [octetRecord 2 0, octetRecord 1 1] [9, 8])
    (fun a b => decide (
      (octetRecord 2 0).reference ∈ a.pairs ∩ b.pairs ∧
      a.payloads (octetRecord 2 0).reference = {some [7]} ∧
      b.payloads (octetRecord 2 0).reference = {some [9]} ∧
      (diff a b).changed = [] ∧ (diff a b).unchanged = 2)) (by decide +kernel)
  obtain ⟨common, inA, inB, none, two⟩ := of_decide_eq_true holds
  refine ⟨a, b, parsedA, parsedB, common, inA, inB, none, two, ?_⟩
  intro exact'
  have differ :
      a.payloads (octetRecord 2 0).reference ≠ b.payloads (octetRecord 2 0).reference := by
    rw [inA, inB]
    decide
  have listed := (exact'.changed _).mpr ⟨common, differ⟩
  rw [none] at listed
  exact List.not_mem_nil listed

end Unsorted

end Ahu
end Hoike
