/-
Optional manifest fields and the serving profile (`manifest.rs`, `admission.rs`).

The decoder reads compression and shard as optional maps.  An entry under one of
these keys that is not a map is passed over as if it were absent, and of several
entries under one key only the first is read.  So what a manifest declares there
is respected exactly where it declares maps that agree.
-/

import Hoike.Ahu.SealedContent
import Hoike.Core.Admission

namespace Hoike

open Ahu
open Cbor (Value)

/-! ### What the profile admits -/

theorem compression_of_profile {bundle : Bundle}
    (profile : validateServingProfile bundle = .ok ()) {compression : Compression}
    (declared : bundle.manifest.compression = some compression) :
    compression.algorithm = .none ∧ compression.dictionaryDigest = none := by
  unfold validateServingProfile at profile
  obtain ⟨_, _, profile⟩ := Except.bind_eq_ok.mp profile
  obtain ⟨_, plain, profile⟩ := Except.bind_eq_ok.mp profile
  obtain ⟨_, noDictionary, _⟩ := Except.bind_eq_ok.mp profile
  have plain := Except.require_eq_ok.mp plain
  have noDictionary := Except.require_eq_ok.mp noDictionary
  rw [declared, Option.all_some] at plain noDictionary
  exact ⟨of_decide_eq_true plain, Option.isNone_iff_eq_none.mp noDictionary⟩

/-! ### All that stands under a key -/

def valuesAt (map : ValueMap) (key : Int) : List Value :=
  (map.filter fun pair => pair.1.asInteger == some key).map Prod.snd

theorem head?_valuesAt (map : ValueMap) (key : Int) : (valuesAt map key).head? = find map key := by
  unfold valuesAt find
  rw [List.head?_map, List.head?_filter]

theorem valuesAt_eq_nil {map : ValueMap} {key : Int} (absent : find map key = none) :
    valuesAt map key = [] := by
  rw [← head?_valuesAt] at absent
  exact List.head?_eq_none_iff.mp absent

theorem mem_valuesAt_of_find {map : ValueMap} {key : Int} {value : Value}
    (found : find map key = some value) : value ∈ valuesAt map key := by
  rw [← head?_valuesAt] at found
  exact List.mem_of_mem_head? found

/-- The map has this value and no other under the key, however often, or has
none. -/
def Declares (map : ValueMap) (key : Int) (value : Option Value) : Prop :=
  ∀ other, other ∈ valuesAt map key ↔ value = some other

/-- Every entry under the key is a map whose fields are those of the decoded
content. -/
def Reflected {α : Type} (map : ValueMap) (key : Int) (fields : List Int) (toMap : α → ValueMap)
    (decoded : Option α) : Prop :=
  ∀ value ∈ valuesAt map key, ∃ inner content, value = .map inner ∧ decoded = some content ∧
    ∀ field ∈ fields, Declares inner field (find (toMap content) field)

/-- Every entry under the key is a map, and what one of these maps says under a
field, each of them says there, and nothing else. -/
structure Unambiguous (map : ValueMap) (key : Int) (fields : List Int) : Prop where
  maps : ∀ value ∈ valuesAt map key, ∃ inner, value = .map inner
  agree : ∀ one two, .map one ∈ valuesAt map key → .map two ∈ valuesAt map key →
    ∀ field ∈ fields, ∀ value ∈ valuesAt one field, Declares two field (some value)

def DeclaresPlain (map : ValueMap) : Prop :=
  ∀ value ∈ valuesAt map 12, ∃ inner, value = .map inner ∧
    Declares inner 1 (some (uint 0)) ∧ Declares inner 2 none

/-! ### Optional maps -/

section Optional

variable {α : Type} {map : ValueMap} {key : Int} {fields : List Int} {toMap : α → ValueMap}
variable {ofMap : ValueMap → Except AhuError α} {decoded : Option α}

theorem Reflected.unambiguous (reflected : Reflected map key fields toMap decoded) :
    Unambiguous map key fields := by
  constructor
  · intro value listed
    obtain ⟨inner, _, isMap, _⟩ := reflected value listed
    exact ⟨inner, isMap⟩
  · intro one two oneListed twoListed field isField value stated
    obtain ⟨inner, content, isOne, whole, declares⟩ := reflected _ oneListed
    obtain ⟨inner', content', isTwo, again, declares'⟩ := reflected _ twoListed
    cases isOne
    cases isTwo
    rw [whole] at again
    cases again
    have said := (declares field isField value).mp stated
    rw [← said]
    exact declares' field isField

theorem Unambiguous.reflected
    (kept : ∀ inner content, ofMap inner = .ok content →
      ∀ field ∈ fields, find inner field = find (toMap content) field)
    (read : Ahu.traverse ofMap (getOptionalMap map key) = .ok decoded)
    (unambiguous : Unambiguous map key fields) : Reflected map key fields toMap decoded := by
  intro value listed
  obtain ⟨inner, isMap⟩ := unambiguous.maps value listed
  cases found : find map key with
  | none =>
      rw [valuesAt_eq_nil found] at listed
      cases listed
  | some front =>
      have frontListed := mem_valuesAt_of_find found
      obtain ⟨first, isFirst⟩ := unambiguous.maps front frontListed
      unfold getOptionalMap at read
      rw [found, isFirst] at read
      obtain ⟨content, parsed, same⟩ := Except.map_eq_ok.mp read
      refine ⟨inner, content, isMap, same.symm, ?_⟩
      intro field isField
      rw [← kept first content parsed field isField]
      rw [isFirst] at frontListed
      rw [isMap] at listed
      cases stated : find first field with
      | some said =>
          exact unambiguous.agree first inner frontListed listed field isField said
            (mem_valuesAt_of_find stated)
      | none =>
          intro other
          constructor
          · intro otherStated
            have repeated := (unambiguous.agree inner first listed frontListed field isField other
              otherStated other).mpr rfl
            rw [valuesAt_eq_nil stated] at repeated
            cases repeated
          · intro impossible
            cases impossible

end Optional

/-! ### The fields of the optional maps -/

theorem find_of_getUint {map : ValueMap} {key : Int} {value : UInt64}
    (read : getUint map key = .ok value) : find map key = some (uint value) := by
  obtain ⟨number, found, read⟩ := Except.bind_eq_ok.mp read
  split_ifs at read with inRange
  cases read
  unfold getWith at found
  split at found
  · cases found
  case h_2 content present =>
    split at found
    · cases found
    case h_2 _ projected =>
      cases found
      rw [present]
      cases content <;> cases projected
      unfold uint
      rw [UInt64.toNat_ofNat_of_lt' inRange.2, Int.toNat_of_nonneg inRange.1]

theorem find_of_getOptionalDigest {map : ValueMap} {key : Int} {digest : Option (Octets 32)}
    (read : getOptionalDigest map key = .ok digest) :
    find map key = digest.map fun digest => .bytes digest.val := by
  unfold getOptionalDigest getOptionalBytes at read
  cases found : find map key with
  | none =>
      rw [found] at read
      cases read
      rfl
  | some value =>
      rw [found] at read
      cases value with
      | bytes content =>
          change (toFixed32 content >>= fun fixed => pure (some fixed)) = _ at read
          obtain ⟨fixed, sized, read⟩ := Except.bind_eq_ok.mp read
          cases read
          unfold toFixed32 at sized
          split_ifs at sized
          cases sized
          rfl
      | _ =>
          cases read

theorem Ahu.CompressionAlgorithm.toValue_of_ofUint {raw : UInt64}
    {algorithm : CompressionAlgorithm} (known : CompressionAlgorithm.ofUint raw = .ok algorithm) :
    algorithm.toValue = uint raw := by
  unfold CompressionAlgorithm.ofUint at known
  split_ifs at known with zero one
  · cases known
    rw [zero]
    rfl
  · cases known
    rw [one]
    rfl

theorem Ahu.Compression.find_of_ofMap {map : ValueMap} {compression : Compression}
    (parsed : Compression.ofMap map = .ok compression) :
    ∀ field ∈ [1, 2], find map field = find compression.toMap field := by
  obtain ⟨raw, number, parsed⟩ := Except.bind_eq_ok.mp parsed
  obtain ⟨algorithm, known, parsed⟩ := Except.bind_eq_ok.mp parsed
  obtain ⟨dictionary, digest, parsed⟩ := Except.bind_eq_ok.mp parsed
  cases parsed
  intro field isField
  unfold Compression.toMap
  rcases List.mem_cons.mp isField with isAlgorithm | isDictionary
  · rw [isAlgorithm, find_of_getUint number, find_entry_cons, if_pos rfl,
      CompressionAlgorithm.toValue_of_ofUint known]
  · rw [List.mem_singleton.mp isDictionary, find_of_getOptionalDigest digest, find_entry_cons,
      if_neg (by decide), find_optionalEntry, if_pos rfl]

theorem Ahu.Shard.find_of_ofMap {map : ValueMap} {shard : Shard}
    (parsed : Shard.ofMap map = .ok shard) :
    ∀ field ∈ [1, 2, 3], find map field = find shard.toMap field := by
  obtain ⟨shardIndex, index, parsed⟩ := Except.bind_eq_ok.mp parsed
  obtain ⟨shardCount, count, parsed⟩ := Except.bind_eq_ok.mp parsed
  obtain ⟨shardFn, function, parsed⟩ := Except.bind_eq_ok.mp parsed
  cases parsed
  intro field isField
  unfold Shard.toMap
  simp only [List.mem_cons, List.not_mem_nil, or_false] at isField
  rcases isField with rfl | rfl | rfl
  · rw [find_of_getUint index, find_entry_cons, if_pos rfl]
  · rw [find_of_getUint count, find_entry_cons, if_neg (by decide), find_entry_cons, if_pos rfl]
  · rw [find_of_getUint function, find_entry_cons, if_neg (by decide), find_entry_cons,
      if_neg (by decide), find_entry_cons, if_pos rfl]

theorem Ahu.Manifest.options_of_ofMap {map : ValueMap} {manifest : Manifest}
    (accepted : Manifest.ofMap map = .ok manifest) :
    Ahu.traverse Shard.ofMap (getOptionalMap map 11) = .ok manifest.shard ∧
      Ahu.traverse Compression.ofMap (getOptionalMap map 12) = .ok manifest.compression := by
  unfold Manifest.ofMap at accepted
  -- Sixteen reads come before the optional maps.
  iterate 16 obtain ⟨_, _, accepted⟩ := Except.bind_eq_ok.mp accepted
  obtain ⟨shard, shardRead, accepted⟩ := Except.bind_eq_ok.mp accepted
  obtain ⟨compression, compressionRead, accepted⟩ := Except.bind_eq_ok.mp accepted
  cases accepted
  exact ⟨shardRead, compressionRead⟩

theorem declaresPlain_of_reflected {map : ValueMap} {manifest : Manifest}
    (reflected : Reflected map 12 [1, 2] Compression.toMap manifest.compression) {bundle : Bundle}
    (carried : bundle.manifest = manifest) (profile : validateServingProfile bundle = .ok ()) :
    DeclaresPlain map := by
  intro value listed
  obtain ⟨inner, compression, isMap, declared, fields⟩ := reflected value listed
  rw [← carried] at declared
  obtain ⟨plain, noDictionary⟩ := compression_of_profile profile declared
  have algorithm := fields 1 (by decide)
  have dictionary := fields 2 (by decide)
  unfold Compression.toMap at algorithm dictionary
  rw [plain, find_entry_cons, if_pos rfl] at algorithm
  rw [noDictionary, find_entry_cons, if_neg (by decide), find_optionalEntry, if_pos rfl] at dictionary
  exact ⟨inner, isMap, algorithm, dictionary⟩

section Decoding

variable [Ciborium]

theorem ofMap_of_fromCbor {data : Bytes} {map : ValueMap} {manifest : Manifest}
    (read : Ciborium.fromReader data = .ok (.map map))
    (accepted : Manifest.fromCbor data = .ok manifest) : Manifest.ofMap map = .ok manifest := by
  unfold Manifest.fromCbor at accepted
  rw [read] at accepted
  exact accepted

/-- What an accepted manifest declares under the shard and compression keys is
respected exactly when there is nothing but maps under them, which agree where a
key is repeated. -/
theorem declared_options_respected_iff (data : Bytes) (map : ValueMap) (manifest : Manifest)
    (read : Ciborium.fromReader data = .ok (.map map))
    (accepted : Manifest.fromCbor data = .ok manifest) :
    (Reflected map 12 [1, 2] Compression.toMap manifest.compression ∧
      Reflected map 11 [1, 2, 3] Shard.toMap manifest.shard ∧
      ∀ bundle : Bundle, bundle.manifest = manifest → validateServingProfile bundle = .ok () →
        DeclaresPlain map) ↔
      Unambiguous map 12 [1, 2] ∧ Unambiguous map 11 [1, 2, 3] := by
  obtain ⟨shard, compression⟩ :=
    Manifest.options_of_ofMap (ofMap_of_fromCbor read accepted)
  constructor
  · intro respected
    exact ⟨respected.1.unambiguous, respected.2.1.unambiguous⟩
  · intro unambiguous
    have reflected := unambiguous.1.reflected (fun _ _ => Compression.find_of_ofMap) compression
    refine ⟨reflected, unambiguous.2.reflected (fun _ _ => Shard.find_of_ofMap) shard, ?_⟩
    intro bundle carried profile
    exact declaresPlain_of_reflected reflected carried profile

end Decoding

/-! ### Declared as a number -/

section DemoOptions

local instance optionsSha2 : Sha2 := Crates.sha2
local instance optionsCiborium : Ciborium := Crates.ciborium

def compressedMap (declared : Value) : ValueMap :=
  (Crates.plainManifest "p" [Crates.plainScope 0xaa 5] none).toMap ++ [entry 12 declared]

def compressedData (declared : Value) : Bytes :=
  Ciborium.intoWriter (.map (compressedMap declared))

theorem compressedData_reads {declared : Value} (inRange : Cbor.InRange declared)
    (short : (compressedData declared).length < 18446744073709551616) :
    Ciborium.fromReader (compressedData declared) = .ok (.map (compressedMap declared)) := by
  apply Crates.fromReader_intoWriter
  apply Cbor.encodable_of_length _ _ short
  have plain := Manifest.inRange_toMap
    (show (Crates.plainManifest "p" [Crates.plainScope 0xaa 5] none).extensions = none from rfl)
  rw [Cbor.InRange] at plain ⊢
  apply inRangeEntries_append.mpr
  refine ⟨plain, ?_⟩
  simp only [entry, Cbor.InRangeEntries, Cbor.InRange, inRange, and_true]
  decide

def bundleAround (manifest : Manifest) (manifestBytes : Bytes) : Bundle :=
  { header := sampleHeader 0
    manifest := manifest
    manifestBytes := manifestBytes
    sealBytes := []
    index := []
    data := [] }

/-- How a manifest with this entry is decoded and judged. -/
structure OptionsView where
  compression : Option Compression
  profile : Bool
  structureVerified : Bool
deriving DecidableEq

def optionsView (declared : Value) (manifest : Manifest) : OptionsView :=
  let bundle := bundleAround manifest (compressedData declared)
  { compression := manifest.compression
    profile := (validateServingProfile bundle).isOk
    structureVerified := (verifyStructure bundle).isOk }

theorem options_of_view {declared : Value} {manifest : Manifest} {view : OptionsView}
    (viewed : optionsView declared manifest = view) :
    manifest.compression = view.compression ∧
      (validateServingProfile (bundleAround manifest (compressedData declared))).isOk =
        view.profile ∧
      (verifyStructure (bundleAround manifest (compressedData declared))).isOk =
        view.structureVerified := by
  subst viewed
  exact ⟨rfl, rfl, rfl⟩

theorem find_compressedMap (declared : Value) : find (compressedMap declared) 12 = some declared :=
  rfl

/-- The compression of this manifest is declared by a number.  It is decoded as
none at all, and the bundle passes as an uncompressed one. -/
theorem declared_number_served_raw : ∃ manifest,
    Ciborium.fromReader (compressedData (.integer 1)) = .ok (.map (compressedMap (.integer 1))) ∧
      Manifest.fromCbor (compressedData (.integer 1)) = .ok manifest ∧
      find (compressedMap (.integer 1)) 12 = some (.integer 1) ∧ manifest.compression = none ∧
      validateServingProfile (bundleAround manifest (compressedData (.integer 1))) = .ok () ∧
      (verifyStructure (bundleAround manifest (compressedData (.integer 1)))).isOk := by
  have reads : Ciborium.fromReader (compressedData (.integer 1)) =
      .ok (.map (compressedMap (.integer 1))) :=
    compressedData_reads (by simp [Cbor.InRange]) (by decide +kernel)
  have viewed : (Manifest.fromCbor (compressedData (.integer 1))).map (optionsView (.integer 1)) =
      .ok
        { compression := none
          profile := true
          structureVerified := true } := by
    decide +kernel
  obtain ⟨manifest, accepted, view⟩ := Except.map_eq_ok.mp viewed
  obtain ⟨compression, profile, verified⟩ := options_of_view view
  obtain ⟨_, profile⟩ := Except.exists_of_isOk profile
  exact ⟨manifest, reads, accepted, find_compressedMap _, compression, profile, verified⟩

theorem compressedMap_unambiguous : Unambiguous (compressedMap (.map [entry 1 (uint 0)])) 12 [1, 2] := by
  have only : valuesAt (compressedMap (.map [entry 1 (uint 0)])) 12 =
      [.map [entry 1 (uint 0)]] := rfl
  constructor
  · intro value listed
    rw [only, List.mem_singleton] at listed
    exact ⟨_, listed⟩
  · intro one two oneListed twoListed field isField value stated
    rw [only, List.mem_singleton] at oneListed twoListed
    cases oneListed
    cases twoListed
    simp only [List.mem_cons, List.not_mem_nil, or_false] at isField
    rcases isField with rfl | rfl
    · have algorithm : valuesAt [entry 1 (uint 0)] 1 = [uint 0] := rfl
      rw [algorithm, List.mem_singleton] at stated
      intro other
      rw [algorithm, List.mem_singleton, stated, Option.some.injEq, eq_comm]
    · cases stated

/-- Declared by a map, the same entry is respected. -/
theorem declared_map_respected : ∃ manifest,
    Manifest.fromCbor (compressedData (.map [entry 1 (uint 0)])) = .ok manifest ∧
      Reflected (compressedMap (.map [entry 1 (uint 0)])) 12 [1, 2] Compression.toMap
        manifest.compression ∧
      (validateServingProfile (bundleAround manifest (compressedData (.map [entry 1 (uint 0)])))
        = .ok () → DeclaresPlain (compressedMap (.map [entry 1 (uint 0)]))) := by
  have reads : Ciborium.fromReader (compressedData (.map [entry 1 (uint 0)])) =
      .ok (.map (compressedMap (.map [entry 1 (uint 0)]))) :=
    compressedData_reads (by simp [Cbor.InRange, Cbor.InRangeEntries, entry, inRange_uint])
      (by decide +kernel)
  have isOk : (Manifest.fromCbor (compressedData (.map [entry 1 (uint 0)]))).isOk = true := by
    decide +kernel
  obtain ⟨manifest, accepted⟩ := Except.exists_of_isOk isOk
  have noShard : valuesAt (compressedMap (.map [entry 1 (uint 0)])) 11 = [] := rfl
  have respected := (declared_options_respected_iff _ _ manifest reads accepted).mpr
    ⟨compressedMap_unambiguous, by
      constructor
      · intro value listed
        rw [noShard] at listed
        cases listed
      · intro one two oneListed
        rw [noShard] at oneListed
        cases oneListed⟩
  exact ⟨manifest, accepted, respected.1, respected.2.2 _ rfl⟩

end DemoOptions

end Hoike
