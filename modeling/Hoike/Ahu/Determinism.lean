/-
Which manifests are encoded deterministically.

Every map that the encoder builds itself lists small integer keys in ascending
order.  The extensions are written as the caller gave them, so whether the whole
encoding is deterministic is decided by their names and values alone.
-/

import Hoike.Ahu.SealedContent

namespace Hoike
namespace Ahu

open Cbor (Value Deterministic)

section Fixed

variable [Ciborium]

def ShortKeys : Prop :=
  ∀ key : Nat, key < 24 → Ciborium.intoWriter (.integer key) = [UInt8.ofNat key]

def KeysAmong (keys : List Nat) (map : ValueMap) : Prop :=
  (map.map Prod.fst).Sublist (keys.map fun key : Nat => Value.integer key)

omit [Ciborium] in
theorem KeysAmong.append {front back : List Nat} {first second : ValueMap}
    (left : KeysAmong front first) (right : KeysAmong back second) :
    KeysAmong (front ++ back) (first ++ second) := by
  unfold KeysAmong
  rw [List.map_append, List.map_append]
  exact List.Sublist.append left right

omit [Ciborium] in
theorem keysAmong_refl {keys : List Nat} {map : ValueMap}
    (same : map.map Prod.fst = keys.map fun key : Nat => Value.integer key) :
    KeysAmong keys map := by
  unfold KeysAmong
  rw [same]

omit [Ciborium] in
theorem keysAmong_optionalEntry (key : Nat) (value : Option Value) :
    KeysAmong [key] (optionalEntry key value) := by
  cases value with
  | none => exact List.nil_sublist _
  | some content => exact List.Sublist.refl _

theorem pairwise_of_keysAmong (shortKeys : ShortKeys) {keys : List Nat}
    {map : ValueMap} (ascending : keys.Pairwise (· < ·)) (small : ∀ key ∈ keys, key < 24)
    (among : KeysAmong keys map) :
    (map.map fun pair => Ciborium.intoWriter pair.1).Pairwise (· < ·) := by
  have encodings : (keys.map fun key : Nat => Ciborium.intoWriter (.integer key)).Pairwise
      (· < ·) := by
    rw [List.pairwise_map]
    refine ascending.imp_of_mem ?_
    intro left right inLeft inRight below
    have smallLeft := small left inLeft
    have smallRight := small right inRight
    rw [shortKeys left smallLeft, shortKeys right smallRight, List.cons_lt_cons_iff]
    left
    rw [UInt8.lt_iff_toNat_lt, UInt8.toNat_ofNat_of_lt' (by simp only [UInt8.size]; omega),
      UInt8.toNat_ofNat_of_lt' (by simp only [UInt8.size]; omega)]
    exact below
  have sublist := among.map Ciborium.intoWriter
  rw [List.map_map, List.map_map] at sublist
  exact encodings.sublist sublist

theorem deterministic_map (shortKeys : ShortKeys) {keys : List Nat} {map : ValueMap}
    (ascending : keys.Pairwise (· < ·)) (small : ∀ key ∈ keys, key < 24)
    (among : KeysAmong keys map)
    (values : ∀ pair ∈ map, Deterministic Ciborium.intoWriter pair.2) :
    Deterministic Ciborium.intoWriter (.map map) := by
  rw [Deterministic, Cbor.deterministicEntries_iff]
  refine ⟨pairwise_of_keysAmong shortKeys ascending small among, ?_⟩
  intro pair member
  refine ⟨?_, values pair member⟩
  have listed := among.subset (List.mem_map_of_mem member)
  obtain ⟨key, _, isInteger⟩ := List.mem_map.mp listed
  rw [← isInteger, Deterministic]
  trivial

theorem deterministic_optionalEntry {key : Int} {value : Option Value}
    (content : ∀ stored, value = some stored → Deterministic Ciborium.intoWriter stored) :
    ∀ pair ∈ optionalEntry key value, Deterministic Ciborium.intoWriter pair.2 := by
  intro pair member
  obtain ⟨stored, present, rfl⟩ := List.mem_map.mp member
  exact content stored (Option.mem_toList.mp present)

theorem deterministic_uint (value : UInt64) :
    Deterministic Ciborium.intoWriter (uint value) := by
  rw [uint, Deterministic]
  trivial

theorem deterministic_digest {digest : Option (Octets 32)} :
    ∀ stored, (digest.map fun digest => Value.bytes digest.val) = some stored →
      Deterministic Ciborium.intoWriter stored := by
  intro stored present
  obtain ⟨octets, _, rfl⟩ := Option.map_eq_some_iff.mp present
  rw [Deterministic]
  trivial

theorem ResponderId.deterministic_toMap (shortKeys : ShortKeys)
    (responderId : ResponderId) :
    Deterministic Ciborium.intoWriter (.map responderId.toMap) := by
  refine deterministic_map shortKeys (show [1, 2].Pairwise (· < ·) by decide) (by decide)
    (keysAmong_refl rfl) ?_
  cases idType : responderId.idType <;>
    simp [ResponderId.toMap, idType, ResponderIdType.toValue, entry, Deterministic]

theorem CaScope.deterministic_toMap (shortKeys : ShortKeys) (scope : CaScope) :
    Deterministic Ciborium.intoWriter (.map scope.toMap) := by
  refine deterministic_map shortKeys
    (show ([1, 2, 3, 4, 5] ++ [6] ++ [7, 8]).Pairwise (· < ·) by decide) (by decide)
    (KeysAmong.append (@KeysAmong.append [1, 2, 3, 4, 5] [6] _ _ (keysAmong_refl rfl)
      (keysAmong_optionalEntry 6 _)) (keysAmong_refl rfl)) ?_
  intro pair member
  rw [CaScope.toMap, List.append_assoc, List.mem_append, List.mem_append] at member
  rcases member with front | chain | back
  · have responderId := scope.responderId.deterministic_toMap shortKeys
    rw [Deterministic] at responderId
    revert front pair
    simpa [entry, uint, Deterministic] using responderId
  · refine deterministic_optionalEntry ?_ pair chain
    intro stored present
    obtain ⟨certificates, _, rfl⟩ := Option.map_eq_some_iff.mp present
    simp [Deterministic, Cbor.deterministicItems_iff]
  · revert back pair
    cases scope.completeness <;> simp [entry, Completeness.toValue, Deterministic]

theorem Window.deterministic_toMap (shortKeys : ShortKeys) (window : Window) :
    Deterministic Ciborium.intoWriter (.map window.toMap) := by
  refine deterministic_map shortKeys (show [1, 2, 3, 4].Pairwise (· < ·) by decide) (by decide)
    (keysAmong_refl rfl) ?_
  simp [Window.toMap, entry, uint, Deterministic]

theorem Integrity.deterministic_toMap (shortKeys : ShortKeys) (integrity : Integrity) :
    Deterministic Ciborium.intoWriter (.map integrity.toMap) := by
  refine deterministic_map shortKeys (show [1, 2].Pairwise (· < ·) by decide) (by decide)
    (keysAmong_refl rfl) ?_
  simp [Integrity.toMap, entry, Deterministic]

theorem Continuity.deterministic_toMap (shortKeys : ShortKeys)
    (continuity : Continuity) :
    Deterministic Ciborium.intoWriter (.map continuity.toMap) := by
  refine deterministic_map shortKeys (show ([1] ++ [2] ++ [3]).Pairwise (· < ·) by decide)
    (by decide) (KeysAmong.append (KeysAmong.append (keysAmong_optionalEntry 1 _)
      (keysAmong_optionalEntry 2 _)) (keysAmong_refl rfl)) ?_
  intro pair member
  rw [Continuity.toMap, List.append_assoc, List.mem_append, List.mem_append] at member
  rcases member with prev | base | length
  · exact deterministic_optionalEntry deterministic_digest pair prev
  · exact deterministic_optionalEntry deterministic_digest pair base
  · revert length pair
    simp [entry, uint, Deterministic]

theorem Shard.deterministic_toMap (shortKeys : ShortKeys) (shard : Shard) :
    Deterministic Ciborium.intoWriter (.map shard.toMap) := by
  refine deterministic_map shortKeys (show [1, 2, 3].Pairwise (· < ·) by decide) (by decide)
    (keysAmong_refl rfl) ?_
  simp [Shard.toMap, entry, uint, Deterministic]

theorem Compression.deterministic_toMap (shortKeys : ShortKeys)
    (compression : Compression) :
    Deterministic Ciborium.intoWriter (.map compression.toMap) := by
  refine deterministic_map shortKeys (show ([1] ++ [2]).Pairwise (· < ·) by decide) (by decide)
    (@KeysAmong.append [1] [2] [_] _ (keysAmong_refl rfl) (keysAmong_optionalEntry 2 _)) ?_
  intro pair member
  rcases List.mem_cons.mp member with rfl | dictionary
  · cases compression.algorithm <;>
      simp [entry, CompressionAlgorithm.toValue, Deterministic]
  · exact deterministic_optionalEntry deterministic_digest pair dictionary

/-! ### Extensions -/

/-- The encoded names ascend strictly, and the values are deterministic. -/
def OrderedExtensions (extensions : List (String × Value)) : Prop :=
  (extensions.map fun extension => Ciborium.intoWriter (.text extension.1)).Pairwise (· < ·) ∧
    ∀ extension ∈ extensions, Deterministic Ciborium.intoWriter extension.2

theorem deterministic_extensions_iff {extensions : List (String × Value)} :
    Deterministic Ciborium.intoWriter (.map (extensionsToMap extensions)) ↔
      OrderedExtensions extensions := by
  rw [Deterministic, Cbor.deterministicEntries_iff, extensionsToMap, List.map_map,
    List.forall_mem_map]
  simp only [Deterministic, true_and]
  rfl

def Manifest.ExtensionsOrdered (manifest : Manifest) : Prop :=
  ∀ extensions, manifest.extensions = some extensions → OrderedExtensions extensions

theorem Manifest.deterministic_iff (shortKeys : ShortKeys) (manifest : Manifest) :
    Deterministic Ciborium.intoWriter (.map manifest.toMap) ↔ manifest.ExtensionsOrdered := by
  constructor
  · intro deterministic extensions stored
    rw [Deterministic, Cbor.deterministicEntries_iff] at deterministic
    rw [← deterministic_extensions_iff]
    apply (deterministic.2 (entry 13 (.map (extensionsToMap extensions))) ?_).2
    rw [Manifest.toMap, stored]
    exact List.mem_append_right _ (List.mem_singleton_self _)
  · intro ordered
    refine deterministic_map shortKeys
      (show ([1, 2, 3, 4, 5, 6, 7, 8, 9, 10] ++ [11] ++ [12] ++ [13]).Pairwise (· < ·) by decide)
      (by decide) (KeysAmong.append (KeysAmong.append
        (@KeysAmong.append [1, 2, 3, 4, 5, 6, 7, 8, 9, 10] [11] _ _ (keysAmong_refl rfl)
          (keysAmong_optionalEntry 11 _)) (keysAmong_optionalEntry 12 _))
        (keysAmong_optionalEntry 13 _)) ?_
    intro pair member
    rw [Manifest.toMap, List.mem_append, List.mem_append, List.mem_append] at member
    rcases member with ((required | shard) | compression) | extensions
    · have scopes : Deterministic Ciborium.intoWriter
          (.array (manifest.caScopes.map fun scope => .map scope.toMap)) := by
        rw [Deterministic, Cbor.deterministicItems_iff, List.forall_mem_map]
        exact fun scope _ => scope.deterministic_toMap shortKeys
      have bundleType : Deterministic Ciborium.intoWriter manifest.bundleType.toValue := by
        cases manifest.bundleType <;> simp [BundleType.toValue, Deterministic]
      simp only [List.mem_cons, List.not_mem_nil, or_false] at required
      rcases required with rfl | rfl | rfl | rfl | rfl | rfl | rfl | rfl | rfl | rfl
      · exact deterministic_uint _
      · simp [entry, Deterministic]
      · simp [entry, Deterministic]
      · exact deterministic_uint _
      · exact bundleType
      · exact scopes
      · exact manifest.window.deterministic_toMap shortKeys
      · exact manifest.integrity.deterministic_toMap shortKeys
      · exact deterministic_uint _
      · exact manifest.continuity.deterministic_toMap shortKeys
    · refine deterministic_optionalEntry ?_ pair shard
      intro stored present
      obtain ⟨part, _, rfl⟩ := Option.map_eq_some_iff.mp present
      exact part.deterministic_toMap shortKeys
    · refine deterministic_optionalEntry ?_ pair compression
      intro stored present
      obtain ⟨part, _, rfl⟩ := Option.map_eq_some_iff.mp present
      exact part.deterministic_toMap shortKeys
    · refine deterministic_optionalEntry ?_ pair extensions
      intro stored present
      obtain ⟨listed, given, rfl⟩ := Option.map_eq_some_iff.mp present
      exact deterministic_extensions_iff.mpr (ordered listed given)

theorem OrderedExtensions.eq_of_perm {left right : List (String × Value)}
    (orderedLeft : OrderedExtensions left) (orderedRight : OrderedExtensions right)
    (permuted : left.Perm right) : left = right := by
  refine permuted.eq_of_pairwise ?_ (List.pairwise_map.mp orderedLeft.1)
    (List.pairwise_map.mp orderedRight.1)
  intro first second _ _ below above
  exact absurd above (List.lt_asymm below)

variable [Sha2]

/-- A manifest is encoded deterministically exactly when its extensions are
ordered.  Two ordered listings of the same extensions have the same octets, for
the order leaves only one listing: the two are equal as lists. -/
theorem manifest_deterministic_iff (shortKeys : ShortKeys) (manifest : Manifest) :
    (Deterministic Ciborium.intoWriter (.map manifest.toMap) ↔ manifest.ExtensionsOrdered) ∧
      ∀ listed permuted, manifest.extensions = some listed → listed.Perm permuted →
        manifest.ExtensionsOrdered →
        { manifest with extensions := some permuted }.ExtensionsOrdered →
          { manifest with extensions := some permuted }.toCbor = manifest.toCbor ∧
            manifestDigest { manifest with extensions := some permuted }.toCbor =
              manifestDigest manifest.toCbor := by
  refine ⟨manifest.deterministic_iff shortKeys, ?_⟩
  intro listed permuted given reordered ordered orderedAgain
  have same := (ordered listed given).eq_of_perm (orderedAgain permuted rfl) reordered
  have whole : { manifest with extensions := some permuted } = manifest := by
    rw [← same, ← given]
  rw [whole]
  exact ⟨rfl, rfl⟩

end Fixed

/-! ### Two extensions -/

section Unordered

local instance unorderedSha2 : Sha2 := Crates.sha2
local instance unorderedCiborium : Ciborium := Crates.ciborium

theorem shortKeys_ciborium : ShortKeys := by
  intro key small
  change Cbor.encode (.integer key) = _
  rw [Cbor.encode, if_pos (Int.natCast_nonneg key), Int.toNat_natCast, Cbor.head, if_pos small]
  simp

def listedManifest (extensions : List (String × Value)) : Manifest :=
  { Crates.plainManifest "p" [Crates.plainScope 0xaa 5] none with extensions := some extensions }

theorem listedManifests_differ :
    (listedManifest [("b", .null), ("a", .null)]).toCbor ≠
        (listedManifest [("a", .null), ("b", .null)]).toCbor ∧
      manifestDigest (listedManifest [("b", .null), ("a", .null)]).toCbor ≠
        manifestDigest (listedManifest [("a", .null), ("b", .null)]).toCbor := by
  decide +kernel

/-- Two extensions listed out of order are written out of order, and give other
octets and another digest than the same extensions in order. -/
theorem unordered_extensions_written :
    ¬Deterministic Ciborium.intoWriter
        (.map (listedManifest [("b", .null), ("a", .null)]).toMap) ∧
      (listedManifest [("b", .null), ("a", .null)]).toCbor ≠
        (listedManifest [("a", .null), ("b", .null)]).toCbor ∧
      manifestDigest (listedManifest [("b", .null), ("a", .null)]).toCbor ≠
        manifestDigest (listedManifest [("a", .null), ("b", .null)]).toCbor := by
  refine ⟨?_, listedManifests_differ⟩
  rw [Manifest.deterministic_iff shortKeys_ciborium]
  intro ordered
  have ascending := (ordered _ rfl).1
  revert ascending
  decide

theorem ordered_extensions_deterministic :
    Deterministic Ciborium.intoWriter
      (.map (listedManifest [("a", .null), ("b", .map [])]).toMap) := by
  apply (manifest_deterministic_iff shortKeys_ciborium _).1.mpr
  intro extensions given
  cases given
  refine ⟨by decide, ?_⟩
  simp [Deterministic, Cbor.DeterministicEntries]

end Unordered

end Ahu
end Hoike
