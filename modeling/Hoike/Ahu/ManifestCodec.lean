/-
Reading back an encoded manifest.

The map that `Manifest.toMap` writes has every key once, so the readers of
`Manifest.ofMap` find each field again.  Whether the crate reads its own octets
back is a question about the free-form extension values only; it is stated as
`ReadsBack`.
-/

import Hoike.Library.Fallible
import Hoike.Ahu.Manifest

namespace Hoike
namespace Ahu

open Cbor (Value)

/-! ### Finding what was written -/

theorem find_entry_cons (key other : Int) (value : Value) (rest : ValueMap) :
    find (entry key value :: rest) other = if key = other then some value else find rest other := by
  unfold find entry
  by_cases same : key = other <;> simp [Value.asInteger, same]

theorem find_optionalEntry_append (key other : Int) (value : Option Value) (rest : ValueMap) :
    find (optionalEntry key value ++ rest) other =
      if key = other then value.orElse fun _ => find rest other else find rest other := by
  cases value with
  | none =>
      simp [optionalEntry]
  | some value =>
      simp only [optionalEntry, Option.toList_some, List.map_cons, List.map_nil,
        List.cons_append, List.nil_append, find_entry_cons, Option.orElse_some]

theorem find_optionalEntry (key other : Int) (value : Option Value) :
    find (optionalEntry key value) other = if key = other then value else none := by
  have empty : find [] other = none := rfl
  have appended := find_optionalEntry_append key other value []
  rw [List.append_nil, empty] at appended
  rw [appended]
  cases value <;> simp

theorem find_nil (key : Int) : find [] key = none := rfl

theorem getWith_of_find {α : Type} {expected : String} {project : Value → Option α}
    {map : ValueMap} {key : Int} {value : Value} {content : α}
    (found : find map key = some value) (projected : project value = some content) :
    getWith expected project map key = .ok content := by
  unfold getWith
  rw [found]
  simp only [projected]

theorem getUint_of_find {map : ValueMap} {key : Int} {value : UInt64}
    (found : find map key = some (uint value)) : getUint map key = .ok value := by
  have inRange : (0 : Int) ≤ value.toNat ∧ (value.toNat : Int).toNat < 2 ^ 64 :=
    ⟨Int.natCast_nonneg _, by rw [Int.toNat_natCast]; exact value.toNat_lt⟩
  unfold getUint
  rw [getWith_of_find found (show (uint value).asInteger = some (value.toNat : Int) from rfl)]
  change (if _ then pure _ else throw _) = _
  rw [if_pos inRange, Int.toNat_natCast, UInt64.ofNat_toNat]
  rfl

theorem getBytes_of_find {map : ValueMap} {key : Int} {value : Bytes}
    (found : find map key = some (.bytes value)) : getBytes map key = .ok value :=
  getWith_of_find found rfl

theorem getText_of_find {map : ValueMap} {key : Int} {value : String}
    (found : find map key = some (.text value)) : getText map key = .ok value :=
  getWith_of_find found rfl

theorem getMap_of_find {map value : ValueMap} {key : Int}
    (found : find map key = some (.map value)) : getMap map key = .ok value :=
  getWith_of_find found rfl

theorem getArray_of_find {map : ValueMap} {key : Int} {value : List Value}
    (found : find map key = some (.array value)) : getArray map key = .ok value :=
  getWith_of_find found rfl

theorem toFixed32_val (digest : Octets 32) : toFixed32 digest.val = .ok digest := by
  unfold toFixed32
  rw [dif_pos digest.property]

theorem getOptionalDigest_of_find {map : ValueMap} {key : Int} {digest : Option (Octets 32)}
    (found : find map key = digest.map fun digest => .bytes digest.val) :
    getOptionalDigest map key = .ok digest := by
  unfold getOptionalDigest getOptionalBytes
  rw [found]
  cases digest with
  | none =>
      rfl
  | some digest =>
      change (toFixed32 digest.val >>= fun digest => pure (some digest)) = _
      rw [toFixed32_val]
      rfl

theorem uuidFromSlice_val (id : Octets 16) : uuidFromSlice id.val = .ok id := by
  unfold uuidFromSlice
  rw [dif_pos id.property]

/-! ### The parts of a manifest -/

theorem BundleType.toValue_eq (bundleType : BundleType) :
    ∃ raw, bundleType.toValue = uint raw ∧ BundleType.ofUint raw = .ok bundleType := by
  cases bundleType with
  | full => exact ⟨0, rfl, rfl⟩
  | delta => exact ⟨1, rfl, rfl⟩

theorem Completeness.toValue_eq (completeness : Completeness) :
    ∃ raw, completeness.toValue = uint raw ∧ Completeness.ofUint raw = .ok completeness := by
  cases completeness with
  | partialScope => exact ⟨0, rfl, rfl⟩
  | authoritativeComplete => exact ⟨1, rfl, rfl⟩

theorem ResponderIdType.toValue_eq (idType : ResponderIdType) :
    ∃ raw, idType.toValue = uint raw ∧ ResponderIdType.ofUint raw = .ok idType := by
  cases idType with
  | byName => exact ⟨0, rfl, rfl⟩
  | byKey => exact ⟨1, rfl, rfl⟩

theorem CompressionAlgorithm.toValue_eq (algorithm : CompressionAlgorithm) :
    ∃ raw, algorithm.toValue = uint raw ∧ CompressionAlgorithm.ofUint raw = .ok algorithm := by
  cases algorithm with
  | none => exact ⟨0, rfl, rfl⟩
  | zstd => exact ⟨1, rfl, rfl⟩

theorem ResponderId.ofMap_toMap (responderId : ResponderId) :
    ResponderId.ofMap responderId.toMap = .ok responderId := by
  obtain ⟨raw, written, read⟩ := responderId.idType.toValue_eq
  have idType : find responderId.toMap 1 = some (uint raw) := by
    simp [ResponderId.toMap, find_entry_cons, written]
  have value : find responderId.toMap 2 = some (.bytes responderId.value) := by
    simp [ResponderId.toMap, find_entry_cons]
  unfold ResponderId.ofMap
  simp only [getUint_of_find idType, getBytes_of_find value]
  change (ResponderIdType.ofUint raw >>= _) = _
  rw [read]
  rfl

theorem mapM_chainEntry (chain : List Bytes) :
    (chain.map Value.bytes).mapM chainEntry = .ok chain := by
  rw [Except.mapM_eq_ok, List.forall₂_map_left_iff, List.forall₂_same]
  intro certificate _
  rfl

theorem responderChainOf_toMap (scope : CaScope) :
    responderChainOf scope.toMap = .ok scope.responderChain := by
  unfold responderChainOf CaScope.toMap
  cases stored : scope.responderChain with
  | none =>
      rfl
  | some chain =>
      have read := mapM_chainEntry chain
      simp only [Option.map_some, optionalEntry, Option.toList_some, List.map_cons, List.map_nil,
        List.cons_append, List.nil_append]
      change ((((chain.map Value.bytes).mapM chainEntry).map some) >>= fun chain =>
        List.foldlM _ chain _) = _
      rw [read]
      rfl

theorem CaScope.ofValue_toMap (scope : CaScope) :
    CaScope.ofValue (.map scope.toMap) = .ok scope := by
  obtain ⟨raw, written, read⟩ := scope.completeness.toValue_eq
  have hashAlgorithm : find scope.toMap 1 = some (.bytes scope.hashAlgorithm) := by
    simp [CaScope.toMap, find_entry_cons]
  have issuerNameHash : find scope.toMap 2 = some (.bytes scope.issuerNameHash) := by
    simp [CaScope.toMap, find_entry_cons]
  have issuerKeyHash : find scope.toMap 3 = some (.bytes scope.issuerKeyHash) := by
    simp [CaScope.toMap, find_entry_cons]
  have epoch : find scope.toMap 4 = some (uint scope.epoch) := by
    simp [CaScope.toMap, find_entry_cons]
  have responderId : find scope.toMap 5 = some (.map scope.responderId.toMap) := by
    simp [CaScope.toMap, find_entry_cons]
  have signatureAlgorithm : find scope.toMap 7 = some (.bytes scope.signatureAlgorithm) := by
    simp [CaScope.toMap, find_entry_cons, find_optionalEntry_append]
  have completeness : find scope.toMap 8 = some (uint raw) := by
    simp [CaScope.toMap, find_entry_cons, find_optionalEntry_append, written]
  unfold CaScope.ofValue
  simp only [Value.asMap, getMap_of_find responderId, getBytes_of_find hashAlgorithm,
    getBytes_of_find issuerNameHash, getBytes_of_find issuerKeyHash, getUint_of_find epoch,
    getBytes_of_find signatureAlgorithm, getUint_of_find completeness]
  change (ResponderId.ofMap scope.responderId.toMap >>= fun responderId =>
    responderChainOf scope.toMap >>= fun chain => Completeness.ofUint raw >>= _) = _
  rw [ResponderId.ofMap_toMap, responderChainOf_toMap, read]
  rfl

theorem mapM_scopes (scopes : List CaScope) :
    (scopes.map fun scope => Value.map scope.toMap).mapM CaScope.ofValue = .ok scopes := by
  rw [Except.mapM_eq_ok, List.forall₂_map_left_iff, List.forall₂_same]
  intro scope _
  exact scope.ofValue_toMap

theorem Window.ofMap_toMap (window : Window) : Window.ofMap window.toMap = .ok window := by
  have producedAt : find window.toMap 1 = some (uint window.producedAt) := by
    simp [Window.toMap, find_entry_cons]
  have thisUpdateMin : find window.toMap 2 = some (uint window.thisUpdateMin) := by
    simp [Window.toMap, find_entry_cons]
  have nextUpdateMin : find window.toMap 3 = some (uint window.nextUpdateMin) := by
    simp [Window.toMap, find_entry_cons]
  have nextUpdateMax : find window.toMap 4 = some (uint window.nextUpdateMax) := by
    simp [Window.toMap, find_entry_cons]
  unfold Window.ofMap
  rw [getUint_of_find producedAt, getUint_of_find thisUpdateMin, getUint_of_find nextUpdateMin,
    getUint_of_find nextUpdateMax]
  rfl

theorem Integrity.ofMap_toMap (integrity : Integrity) :
    Integrity.ofMap integrity.toMap = .ok integrity := by
  have indexDigest : find integrity.toMap 1 = some (.bytes integrity.indexDigest.val) := by
    simp [Integrity.toMap, find_entry_cons]
  have dataDigest : find integrity.toMap 2 = some (.bytes integrity.dataDigest.val) := by
    simp [Integrity.toMap, find_entry_cons]
  unfold Integrity.ofMap
  rw [getBytes_of_find indexDigest, getBytes_of_find dataDigest]
  change (toFixed32 integrity.indexDigest.val >>= fun _ =>
    toFixed32 integrity.dataDigest.val >>= _) = _
  rw [toFixed32_val, toFixed32_val]
  rfl

theorem Continuity.ofMap_toMap (continuity : Continuity) :
    Continuity.ofMap continuity.toMap = .ok continuity := by
  have prevManifestDigest : find continuity.toMap 1 =
      continuity.prevManifestDigest.map fun digest => .bytes digest.val := by
    cases stored : continuity.prevManifestDigest <;>
      simp [Continuity.toMap, find_entry_cons, find_optionalEntry_append, stored, find_nil]
  have baseManifestDigest : find continuity.toMap 2 =
      continuity.baseManifestDigest.map fun digest => .bytes digest.val := by
    cases stored : continuity.baseManifestDigest <;>
      simp [Continuity.toMap, find_entry_cons, find_optionalEntry_append, stored, find_nil]
  have chainLength : find continuity.toMap 3 = some (uint continuity.chainLength) := by
    simp [Continuity.toMap, find_entry_cons, find_optionalEntry_append]
  unfold Continuity.ofMap
  rw [getOptionalDigest_of_find prevManifestDigest, getOptionalDigest_of_find baseManifestDigest,
    getUint_of_find chainLength]
  rfl

theorem Shard.ofMap_toMap (shard : Shard) : Shard.ofMap shard.toMap = .ok shard := by
  have shardIndex : find shard.toMap 1 = some (uint shard.shardIndex) := by
    simp [Shard.toMap, find_entry_cons]
  have shardCount : find shard.toMap 2 = some (uint shard.shardCount) := by
    simp [Shard.toMap, find_entry_cons]
  have shardFn : find shard.toMap 3 = some (uint shard.shardFn) := by
    simp [Shard.toMap, find_entry_cons]
  unfold Shard.ofMap
  rw [getUint_of_find shardIndex, getUint_of_find shardCount, getUint_of_find shardFn]
  rfl

theorem Compression.ofMap_toMap (compression : Compression) :
    Compression.ofMap compression.toMap = .ok compression := by
  obtain ⟨raw, written, read⟩ := compression.algorithm.toValue_eq
  have algorithm : find compression.toMap 1 = some (uint raw) := by
    simp [Compression.toMap, find_entry_cons, written]
  have dictionaryDigest : find compression.toMap 2 =
      compression.dictionaryDigest.map fun digest => .bytes digest.val := by
    simp [Compression.toMap, find_entry_cons, find_optionalEntry]
  unfold Compression.ofMap
  rw [getUint_of_find algorithm, getOptionalDigest_of_find dictionaryDigest]
  change (CompressionAlgorithm.ofUint raw >>= _) = _
  rw [read]
  rfl

theorem extensionsOf_toMap (extensions : List (String × Value)) :
    extensionsOf (extensionsToMap extensions) = extensions := by
  induction extensions with
  | nil =>
      rfl
  | cons extension rest ih =>
      change extension :: extensionsOf (extensionsToMap rest) = _
      rw [ih]

theorem traverse_toMap {α : Type} {ofMap : ValueMap → Except AhuError α} {toMap : α → ValueMap}
    (inverse : ∀ part, ofMap (toMap part) = .ok part) (part : Option α) :
    traverse ofMap ((part.map fun part => Value.map (toMap part)).bind Value.asMap) =
      .ok part := by
  cases part with
  | none =>
      rfl
  | some part =>
      change (ofMap (toMap part)).map some = _
      rw [inverse]
      rfl

theorem Manifest.ofMap_toMap (manifest : Manifest) :
    Manifest.ofMap manifest.toMap = .ok manifest := by
  obtain ⟨raw, written, read⟩ := manifest.bundleType.toValue_eq
  have formatVersion : find manifest.toMap 1 = some (uint manifest.formatVersion) := by
    simp [Manifest.toMap, find_entry_cons]
  have bundleId : find manifest.toMap 2 = some (.bytes manifest.bundleId.val) := by
    simp [Manifest.toMap, find_entry_cons]
  have producerId : find manifest.toMap 3 = some (.text manifest.producerId) := by
    simp [Manifest.toMap, find_entry_cons]
  have createdAt : find manifest.toMap 4 = some (uint manifest.createdAt) := by
    simp [Manifest.toMap, find_entry_cons]
  have bundleType : find manifest.toMap 5 = some (uint raw) := by
    simp [Manifest.toMap, find_entry_cons, written]
  have caScopes : find manifest.toMap 6 =
      some (.array (manifest.caScopes.map fun scope => .map scope.toMap)) := by
    simp [Manifest.toMap, find_entry_cons]
  have window : find manifest.toMap 7 = some (.map manifest.window.toMap) := by
    simp [Manifest.toMap, find_entry_cons]
  have integrity : find manifest.toMap 8 = some (.map manifest.integrity.toMap) := by
    simp [Manifest.toMap, find_entry_cons]
  have entryCount : find manifest.toMap 9 = some (uint manifest.entryCount) := by
    simp [Manifest.toMap, find_entry_cons]
  have continuity : find manifest.toMap 10 = some (.map manifest.continuity.toMap) := by
    simp [Manifest.toMap, find_entry_cons]
  have shard : find manifest.toMap 11 = manifest.shard.map fun shard => .map shard.toMap := by
    cases stored : manifest.shard <;>
      simp [Manifest.toMap, find_entry_cons, find_optionalEntry_append, find_optionalEntry, stored]
  have compression : find manifest.toMap 12 =
      manifest.compression.map fun compression => .map compression.toMap := by
    cases stored : manifest.compression <;>
      simp [Manifest.toMap, find_entry_cons, find_optionalEntry_append, find_optionalEntry, stored]
  have extensions : find manifest.toMap 13 =
      manifest.extensions.map fun extensions => .map (extensionsToMap extensions) := by
    simp [Manifest.toMap, find_entry_cons, find_optionalEntry_append, find_optionalEntry]
  have extensionsBack : (getOptionalMap manifest.toMap 13).map extensionsOf =
      manifest.extensions := by
    unfold getOptionalMap
    rw [extensions]
    cases manifest.extensions with
    | none => rfl
    | some content => exact congrArg some (extensionsOf_toMap content)
  unfold Manifest.ofMap
  rw [getUint_of_find formatVersion, getBytes_of_find bundleId, getText_of_find producerId,
    getUint_of_find createdAt, getUint_of_find bundleType, getArray_of_find caScopes,
    getMap_of_find window, getMap_of_find integrity, getUint_of_find entryCount,
    getMap_of_find continuity]
  simp only [extensionsBack]
  unfold getOptionalMap
  rw [shard, compression, traverse_toMap Shard.ofMap_toMap, traverse_toMap Compression.ofMap_toMap]
  change (uuidFromSlice manifest.bundleId.val >>= fun _ => BundleType.ofUint raw >>= fun _ =>
    (manifest.caScopes.map fun scope => Value.map scope.toMap).mapM CaScope.ofValue >>= fun _ =>
    Window.ofMap manifest.window.toMap >>= fun _ =>
    Integrity.ofMap manifest.integrity.toMap >>= fun _ =>
    Continuity.ofMap manifest.continuity.toMap >>= _) = _
  rw [uuidFromSlice_val, read, mapM_scopes, Window.ofMap_toMap, Integrity.ofMap_toMap,
    Continuity.ofMap_toMap]
  rfl

/-! ### What an encoded manifest is composed of -/

open Cbor (Composed InRange InRangeEntries inRangeEntries_iff)

theorem inRange_uint (value : UInt64) : InRange (uint value) := by
  have bound := value.toNat_lt
  rw [uint, InRange]
  omega

theorem inRangeEntries_append {front back : ValueMap} :
    InRangeEntries (front ++ back) ↔ InRangeEntries front ∧ InRangeEntries back := by
  simp only [inRangeEntries_iff, List.forall_mem_append]

section Composition

variable {leaf : Value → Prop}

theorem composed_uint (value : UInt64) : Composed leaf (uint value) := by
  have bound := value.toNat_lt
  exact .integer (by omega) (by omega)

def ComposedEntries (leaf : Value → Prop) (map : ValueMap) : Prop :=
  ∀ pair ∈ map, Composed leaf pair.1 ∧ Composed leaf pair.2

theorem ComposedEntries.composed {map : ValueMap} (entries : ComposedEntries leaf map) :
    Composed leaf (.map map) :=
  .map (fun pair member => (entries pair member).1) (fun pair member => (entries pair member).2)

theorem composedEntries_nil : ComposedEntries leaf [] := by
  intro pair member
  cases member

theorem composedEntries_cons {pair : Value × Value} {rest : ValueMap} :
    ComposedEntries leaf (pair :: rest) ↔
      (Composed leaf pair.1 ∧ Composed leaf pair.2) ∧ ComposedEntries leaf rest :=
  List.forall_mem_cons

theorem composedEntries_append {front back : ValueMap} :
    ComposedEntries leaf (front ++ back) ↔
      ComposedEntries leaf front ∧ ComposedEntries leaf back :=
  List.forall_mem_append

theorem composedEntries_optionalEntry {key : Int} {value : Option Value}
    (small : Composed leaf (.integer key))
    (content : ∀ content, value = some content → Composed leaf content) :
    ComposedEntries leaf (optionalEntry key value) := by
  cases value with
  | none =>
      exact composedEntries_nil
  | some stored =>
      exact composedEntries_cons.mpr ⟨⟨small, content stored rfl⟩, composedEntries_nil⟩

theorem composedEntries_optionalMap {α : Type} {key : Int} {toMap : α → ValueMap}
    {part : Option α} (small : Composed leaf (.integer key))
    (content : ∀ stored, part = some stored → ComposedEntries leaf (toMap stored)) :
    ComposedEntries leaf (optionalEntry key (part.map fun part => .map (toMap part))) := by
  apply composedEntries_optionalEntry small
  intro value present
  obtain ⟨stored, found, rfl⟩ := Option.map_eq_some_iff.mp present
  exact (content stored found).composed

theorem composedEntries_digest {key : Int} {digest : Option (Octets 32)}
    (small : Composed leaf (.integer key)) :
    ComposedEntries leaf (optionalEntry key (digest.map fun digest => .bytes digest.val)) := by
  apply composedEntries_optionalEntry small
  intro value present
  obtain ⟨octets, _, rfl⟩ := Option.map_eq_some_iff.mp present
  exact .bytes octets.val

theorem ResponderId.composed_toMap (responderId : ResponderId) :
    ComposedEntries leaf responderId.toMap := by
  cases idType : responderId.idType <;>
    simp [ResponderId.toMap, idType, ResponderIdType.toValue, entry, composedEntries_cons,
      composedEntries_nil, Composed.integer, Composed.bytes]

theorem CaScope.composed_toMap (scope : CaScope) : ComposedEntries leaf scope.toMap := by
  rw [CaScope.toMap, composedEntries_append, composedEntries_append]
  refine ⟨⟨?required, ?chain⟩, ?rest⟩
  case required =>
    have responderId : Composed leaf (.map scope.responderId.toMap) :=
      scope.responderId.composed_toMap.composed
    simp [entry, composedEntries_cons, composedEntries_nil, Composed.integer, Composed.bytes,
      composed_uint, responderId]
  case chain =>
    apply composedEntries_optionalEntry
    · exact .integer (by decide) (by decide)
    · intro content stored
      obtain ⟨chain, _, rfl⟩ := Option.map_eq_some_iff.mp stored
      refine .array ?_
      intro item member
      obtain ⟨certificate, _, rfl⟩ := List.mem_map.mp member
      exact .bytes certificate
  case rest =>
    cases scope.completeness <;>
      simp [entry, Completeness.toValue, composedEntries_cons, composedEntries_nil,
        Composed.integer, Composed.bytes]

theorem Window.composed_toMap (window : Window) : ComposedEntries leaf window.toMap := by
  simp [Window.toMap, entry, composedEntries_cons, composedEntries_nil, Composed.integer,
    composed_uint]

theorem Integrity.composed_toMap (integrity : Integrity) :
    ComposedEntries leaf integrity.toMap := by
  simp [Integrity.toMap, entry, composedEntries_cons, composedEntries_nil, Composed.integer,
    Composed.bytes]

theorem Continuity.composed_toMap (continuity : Continuity) :
    ComposedEntries leaf continuity.toMap := by
  rw [Continuity.toMap, composedEntries_append, composedEntries_append]
  refine ⟨⟨?prev, ?base⟩, ?length⟩
  case prev =>
    exact composedEntries_digest (.integer (by decide) (by decide))
  case base =>
    exact composedEntries_digest (.integer (by decide) (by decide))
  case length =>
    simp [entry, composedEntries_cons, composedEntries_nil, Composed.integer, composed_uint]

theorem Shard.composed_toMap (shard : Shard) : ComposedEntries leaf shard.toMap := by
  simp [Shard.toMap, entry, composedEntries_cons, composedEntries_nil, Composed.integer,
    composed_uint]

theorem Compression.composed_toMap (compression : Compression) :
    ComposedEntries leaf compression.toMap := by
  refine composedEntries_cons.mpr ⟨⟨.integer (by decide) (by decide), ?_⟩,
    composedEntries_digest (.integer (by decide) (by decide))⟩
  cases compression.algorithm with
  | none => exact .integer (by decide) (by decide)
  | zstd => exact .integer (by decide) (by decide)

/-- A manifest is written with integers, octets and text; anything else stands
below its extensions. -/
theorem Manifest.composed_toMap {manifest : Manifest}
    (leaves : ∀ extensions, manifest.extensions = some extensions →
      ∀ extension ∈ extensions, leaf extension.2) :
    Composed leaf (.map manifest.toMap) := by
  apply ComposedEntries.composed
  rw [Manifest.toMap, composedEntries_append, composedEntries_append, composedEntries_append]
  refine ⟨⟨⟨?required, ?shard⟩, ?compression⟩, ?extensions⟩
  case required =>
    have scopes : Composed leaf
        (.array (manifest.caScopes.map fun scope => .map scope.toMap)) := by
      refine .array ?_
      intro item member
      obtain ⟨scope, _, rfl⟩ := List.mem_map.mp member
      exact scope.composed_toMap.composed
    have window : Composed leaf (.map manifest.window.toMap) :=
      manifest.window.composed_toMap.composed
    have integrity : Composed leaf (.map manifest.integrity.toMap) :=
      manifest.integrity.composed_toMap.composed
    have continuity : Composed leaf (.map manifest.continuity.toMap) :=
      manifest.continuity.composed_toMap.composed
    cases bundleType : manifest.bundleType <;>
      simp [entry, BundleType.toValue, composedEntries_cons, composedEntries_nil,
        Composed.integer, Composed.bytes, Composed.text, composed_uint, scopes, window, integrity,
        continuity]
  case shard =>
    exact composedEntries_optionalMap (.integer (by decide) (by decide))
      (fun shard _ => shard.composed_toMap)
  case compression =>
    exact composedEntries_optionalMap (.integer (by decide) (by decide))
      (fun compression _ => compression.composed_toMap)
  case extensions =>
    apply composedEntries_optionalMap (.integer (by decide) (by decide))
    intro extensions stored pair member
    obtain ⟨extension, present, rfl⟩ := List.mem_map.mp member
    exact ⟨.text extension.1, .leaf (leaves extensions stored extension present)⟩

end Composition

theorem Manifest.inRange_toMap {manifest : Manifest} (plain : manifest.extensions = none) :
    InRange (.map manifest.toMap) := by
  apply Composed.inRange (fun _ => False.elim)
  apply Manifest.composed_toMap
  intro extensions stored
  rw [plain] at stored
  cases stored

/-! ### Octets -/

section Octets

variable [Ciborium]

/-- The crate decodes the octets it wrote for a manifest to the value it was
given. -/
def Manifest.ReadsBack (manifest : Manifest) : Prop :=
  Ciborium.fromReader manifest.toCbor = .ok (.map manifest.toMap)

theorem Manifest.ReadsBack.fromCbor {manifest : Manifest} (readsBack : manifest.ReadsBack) :
    Manifest.fromCbor manifest.toCbor = .ok manifest := by
  unfold Manifest.fromCbor
  rw [readsBack]
  exact manifest.ofMap_toMap

theorem Manifest.ReadsBack.inj {left right : Manifest} (readsLeft : left.ReadsBack)
    (readsRight : right.ReadsBack) (same : left.toCbor = right.toCbor) : left = right := by
  have decoded := readsLeft.fromCbor
  rw [same, readsRight.fromCbor] at decoded
  exact (Except.ok.inj decoded).symm

end Octets

end Ahu
end Hoike
