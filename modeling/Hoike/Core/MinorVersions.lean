/-
Manifests of later minor versions.

A later minor version may add entries to the maps of the schema.  The readers
search for the keys they know, so entries under other keys, wherever they are
put, change neither the decoded manifest nor the verdicts on a bundle.
-/

import Hoike.Core.Admission
import Hoike.Ahu.SealedContent

namespace Hoike
namespace Ahu

open Cbor (Value)

/-! ### Maps with more entries -/

/-- The second map is the first with entries added under keys that are not
listed.  A value under a listed key may itself have grown. -/
inductive Enlarged (keys : List Int) (grows : Int → Value → Value → Prop) :
    ValueMap → ValueMap → Prop where
  | nil : Enlarged keys grows [] []
  | insert {small large : ValueMap} (key value : Value) :
      (∀ known ∈ keys, key.asInteger ≠ some known) → Enlarged keys grows small large →
        Enlarged keys grows small ((key, value) :: large)
  | keep {small large : ValueMap} (key : Value) {value grown : Value} :
      (value = grown ∨ ∃ known ∈ keys, key.asInteger = some known ∧ grows known value grown) →
        Enlarged keys grows small large →
          Enlarged keys grows ((key, value) :: small) ((key, grown) :: large)

def MapGrows (keys : List Int) (grows : Int → Value → Value → Prop) (value grown : Value) :
    Prop :=
  ∃ small large, value = .map small ∧ grown = .map large ∧ Enlarged keys grows small large

def NoGrowth (_key : Int) (value grown : Value) : Prop := value = grown

theorem Enlarged.refl (keys : List Int) (grows : Int → Value → Value → Prop) (map : ValueMap) :
    Enlarged keys grows map map := by
  induction map with
  | nil => exact .nil
  | cons pair rest ih => exact .keep pair.1 (Or.inl rfl) ih

theorem Enlarged.append {keys : List Int} {grows : Int → Value → Value → Prop}
    {front larger back behind : ValueMap} (first : Enlarged keys grows front larger)
    (second : Enlarged keys grows back behind) :
    Enlarged keys grows (front ++ back) (larger ++ behind) := by
  induction first with
  | nil => exact second
  | insert key value unknown _ ih => exact .insert key value unknown ih
  | keep key related _ ih => exact .keep key related ih

section Readers

variable {keys : List Int} {grows : Int → Value → Value → Prop} {small large : ValueMap}

theorem Enlarged.find (enlarged : Enlarged keys grows small large) {known : Int}
    (listed : known ∈ keys) :
    Option.Rel (fun value grown => value = grown ∨ grows known value grown)
      (find small known) (find large known) := by
  induction enlarged with
  | nil =>
      exact .none
  | insert key value unknown _ ih =>
      have passed : (key.asInteger == some known) = false := by
        rw [beq_eq_false_iff_ne]
        exact unknown known listed
      unfold Ahu.find at ih ⊢
      rw [List.find?_cons, passed]
      exact ih
  | keep key related _ ih =>
      unfold Ahu.find at ih ⊢
      rw [List.find?_cons, List.find?_cons]
      cases hit : key.asInteger == some known with
      | false =>
          exact ih
      | true =>
          refine .some ?_
          rcases related with same | ⟨other, _, atOther, grown⟩
          · exact Or.inl same
          · have here := beq_iff_eq.mp hit
            rw [atOther] at here
            cases here
            exact Or.inr grown

theorem Enlarged.find_eq (enlarged : Enlarged keys grows small large) {known : Int}
    (listed : known ∈ keys) (fixed : ∀ value grown, grows known value grown → value = grown) :
    Ahu.find large known = Ahu.find small known := by
  have related := enlarged.find listed
  generalize Ahu.find small known = before at related
  generalize Ahu.find large known = after at related
  cases related with
  | none =>
      rfl
  | some related =>
      rcases related with rfl | grown
      · rfl
      · rw [fixed _ _ grown]

theorem getWith_congr {α : Type} {expected : String} {project : Value → Option α} {known : Int}
    (found : Ahu.find large known = Ahu.find small known) :
    getWith expected project large known = getWith expected project small known := by
  unfold getWith
  rw [found]

theorem getUint_congr {known : Int} (found : Ahu.find large known = Ahu.find small known) :
    getUint large known = getUint small known := by
  unfold getUint
  rw [getWith_congr found]

theorem getOptionalDigest_congr {known : Int}
    (found : Ahu.find large known = Ahu.find small known) :
    getOptionalDigest large known = getOptionalDigest small known := by
  unfold getOptionalDigest getOptionalBytes
  rw [found]

theorem Enlarged.getMap_bind {β : Type} (enlarged : Enlarged keys grows small large)
    {known : Int} (listed : known ∈ keys) {inner : List Int}
    {deeper : Int → Value → Value → Prop} (shape : grows known = MapGrows inner deeper)
    {first second : ValueMap → Except AhuError β}
    (each : ∀ before after, Enlarged inner deeper before after → second after = first before) :
    (getMap large known >>= second) = (getMap small known >>= first) := by
  have related := enlarged.find listed
  unfold getMap getWith
  generalize Ahu.find small known = before at related
  generalize Ahu.find large known = after at related
  cases related with
  | none =>
      rfl
  | @some value grown related =>
      rcases related with rfl | nested
      · exact bind_congr fun map => each map map (.refl inner deeper map)
      · rw [shape] at nested
        obtain ⟨before, after, rfl, rfl, deep⟩ := nested
        exact each before after deep

theorem Enlarged.traverse_getOptionalMap {α : Type} (enlarged : Enlarged keys grows small large)
    {known : Int} (listed : known ∈ keys) {inner : List Int}
    {deeper : Int → Value → Value → Prop} (shape : grows known = MapGrows inner deeper)
    {parse : ValueMap → Except AhuError α}
    (each : ∀ before after, Enlarged inner deeper before after → parse after = parse before) :
    traverse parse (getOptionalMap large known) = traverse parse (getOptionalMap small known) := by
  have related := enlarged.find listed
  unfold getOptionalMap
  generalize Ahu.find small known = before at related
  generalize Ahu.find large known = after at related
  cases related with
  | none =>
      rfl
  | @some value grown related =>
      rcases related with rfl | nested
      · rfl
      · rw [shape] at nested
        obtain ⟨before, after, rfl, rfl, deep⟩ := nested
        exact congrArg (Except.map some) (each before after deep)

end Readers

/-! ### The maps of the schema -/

def ResponderIdGrows : Value → Value → Prop := MapGrows [1, 2] NoGrowth

def scopeFields (key : Int) : Value → Value → Prop :=
  if key = 5 then ResponderIdGrows else NoGrowth key

def CaScopeGrows : Value → Value → Prop := MapGrows [1, 2, 3, 4, 5, 6, 7, 8] scopeFields

def CaScopesGrow (value grown : Value) : Prop :=
  ∃ scopes larger, value = .array scopes ∧ grown = .array larger ∧
    List.Forall₂ (fun scope grown => scope = grown ∨ CaScopeGrows scope grown) scopes larger

def manifestFields (key : Int) : Value → Value → Prop :=
  if key = 6 then CaScopesGrow
  else if key = 7 then MapGrows [1, 2, 3, 4] NoGrowth
  else if key = 8 then MapGrows [1, 2] NoGrowth
  else if key = 10 then MapGrows [1, 2, 3] NoGrowth
  else if key = 11 then MapGrows [1, 2, 3] NoGrowth
  else if key = 12 then MapGrows [1, 2] NoGrowth
  else NoGrowth key

/-- The root map of a manifest with entries added at any level. -/
def ManifestEnlarged : ValueMap → ValueMap → Prop :=
  Enlarged [1, 2, 3, 4, 5, 6, 7, 8, 9, 10, 11, 12, 13] manifestFields

/-! ### What the readers see -/

section Flat

variable {keys : List Int} {small large : ValueMap}

theorem Enlarged.find_flat (enlarged : Enlarged keys NoGrowth small large) {known : Int}
    (listed : known ∈ keys) : Ahu.find large known = Ahu.find small known :=
  enlarged.find_eq listed (fun _ _ same => same)

theorem ResponderId.ofMap_enlarged (enlarged : Enlarged [1, 2] NoGrowth small large) :
    ResponderId.ofMap large = ResponderId.ofMap small := by
  unfold ResponderId.ofMap getBytes
  rw [getUint_congr (enlarged.find_flat (by decide)),
    getWith_congr (enlarged.find_flat (by decide))]

theorem Window.ofMap_enlarged (enlarged : Enlarged [1, 2, 3, 4] NoGrowth small large) :
    Window.ofMap large = Window.ofMap small := by
  unfold Window.ofMap
  rw [getUint_congr (enlarged.find_flat (show (1 : Int) ∈ _ by decide)),
    getUint_congr (enlarged.find_flat (show (2 : Int) ∈ _ by decide)),
    getUint_congr (enlarged.find_flat (show (3 : Int) ∈ _ by decide)),
    getUint_congr (enlarged.find_flat (show (4 : Int) ∈ _ by decide))]

theorem Integrity.ofMap_enlarged (enlarged : Enlarged [1, 2] NoGrowth small large) :
    Integrity.ofMap large = Integrity.ofMap small := by
  unfold Integrity.ofMap getBytes
  rw [getWith_congr (enlarged.find_flat (show (1 : Int) ∈ _ by decide)),
    getWith_congr (enlarged.find_flat (show (2 : Int) ∈ _ by decide))]

theorem Continuity.ofMap_enlarged (enlarged : Enlarged [1, 2, 3] NoGrowth small large) :
    Continuity.ofMap large = Continuity.ofMap small := by
  unfold Continuity.ofMap
  rw [getOptionalDigest_congr (enlarged.find_flat (show (1 : Int) ∈ _ by decide)),
    getOptionalDigest_congr (enlarged.find_flat (show (2 : Int) ∈ _ by decide)),
    getUint_congr (enlarged.find_flat (show (3 : Int) ∈ _ by decide))]

theorem Shard.ofMap_enlarged (enlarged : Enlarged [1, 2, 3] NoGrowth small large) :
    Shard.ofMap large = Shard.ofMap small := by
  unfold Shard.ofMap
  rw [getUint_congr (enlarged.find_flat (show (1 : Int) ∈ _ by decide)),
    getUint_congr (enlarged.find_flat (show (2 : Int) ∈ _ by decide)),
    getUint_congr (enlarged.find_flat (show (3 : Int) ∈ _ by decide))]

theorem Compression.ofMap_enlarged (enlarged : Enlarged [1, 2] NoGrowth small large) :
    Compression.ofMap large = Compression.ofMap small := by
  unfold Compression.ofMap
  rw [getUint_congr (enlarged.find_flat (show (1 : Int) ∈ _ by decide)),
    getOptionalDigest_congr (enlarged.find_flat (show (2 : Int) ∈ _ by decide))]

end Flat

section Nested

variable {small large : ValueMap}

theorem responderChainOf_enlarged
    (enlarged : Enlarged [1, 2, 3, 4, 5, 6, 7, 8] scopeFields small large) :
    responderChainOf large = responderChainOf small := by
  unfold responderChainOf
  generalize (none : Option (List Bytes)) = chain
  induction enlarged generalizing chain with
  | nil =>
      rfl
  | insert key value unknown _ ih =>
      rw [List.foldlM_cons, if_neg (unknown 6 (by decide))]
      exact ih chain
  | @keep small large key value grown related _ ih =>
      rw [List.foldlM_cons, List.foldlM_cons]
      by_cases chainKey : key.asInteger = some 6
      · have same : value = grown := by
          rcases related with same | ⟨known, _, atKnown, grows⟩
          · exact same
          · rw [chainKey] at atKnown
            cases atKnown
            exact grows
        subst same
        refine bind_congr fun later => ?_
        exact ih later
      · rw [if_neg chainKey, if_neg chainKey]
        exact ih chain

theorem CaScope.ofValue_enlarged {value grown : Value} (grows : CaScopeGrows value grown) :
    CaScope.ofValue grown = CaScope.ofValue value := by
  obtain ⟨small, large, rfl, rfl, enlarged⟩ := grows
  have field : ∀ known ∈ ([1, 2, 3, 4, 5, 6, 7, 8] : List Int), known ≠ 5 →
      Ahu.find large known = Ahu.find small known := by
    intro known listed other
    apply enlarged.find_eq listed
    intro value grown same
    rw [scopeFields, if_neg other] at same
    exact same
  unfold CaScope.ofValue
  simp only [Value.asMap]
  refine enlarged.getMap_bind (by decide) rfl ?_
  intro before after deep
  rw [ResponderId.ofMap_enlarged deep, responderChainOf_enlarged enlarged]
  unfold getBytes
  rw [getWith_congr (field 1 (by decide) (by decide)),
    getWith_congr (field 2 (by decide) (by decide)),
    getWith_congr (field 3 (by decide) (by decide)),
    getUint_congr (field 4 (by decide) (by decide)),
    getWith_congr (field 7 (by decide) (by decide)),
    getUint_congr (field 8 (by decide) (by decide))]

theorem mapM_ofValue_enlarged {scopes larger : List Value}
    (grow : List.Forall₂ (fun scope grown => scope = grown ∨ CaScopeGrows scope grown) scopes
      larger) : larger.mapM CaScope.ofValue = scopes.mapM CaScope.ofValue := by
  induction grow with
  | nil =>
      rfl
  | cons related _ ih =>
      rw [List.mapM_cons, List.mapM_cons, ih]
      rcases related with rfl | grows
      · rfl
      · rw [CaScope.ofValue_enlarged grows]

theorem ManifestEnlarged.scopes {β : Type} (enlarged : ManifestEnlarged small large)
    {next : List CaScope → Except AhuError β} {later : List CaScope → Except AhuError β}
    (each : later = next) :
    (getArray large 6 >>= fun scopes => scopes.mapM CaScope.ofValue >>= later) =
      (getArray small 6 >>= fun scopes => scopes.mapM CaScope.ofValue >>= next) := by
  have related := Enlarged.find enlarged (show (6 : Int) ∈ _ by decide)
  subst each
  unfold getArray getWith
  generalize Ahu.find small 6 = before at related
  generalize Ahu.find large 6 = after at related
  cases related with
  | none =>
      rfl
  | @some value grown related =>
      rcases related with rfl | ⟨scopes, larger, rfl, rfl, grow⟩
      · rfl
      · change (larger.mapM CaScope.ofValue >>= later) = (scopes.mapM CaScope.ofValue >>= later)
        rw [mapM_ofValue_enlarged grow]

theorem Manifest.ofMap_enlarged (enlarged : ManifestEnlarged small large) :
    Manifest.ofMap large = Manifest.ofMap small := by
  have field : ∀ known ∈ ([1, 2, 3, 4, 5, 9, 13] : List Int),
      Ahu.find large known = Ahu.find small known := by
    intro known listed
    have among : known ∈ ([1, 2, 3, 4, 5, 6, 7, 8, 9, 10, 11, 12, 13] : List Int) := by
      revert known
      decide
    apply Enlarged.find_eq enlarged among
    intro value grown same
    have plain : manifestFields known = NoGrowth known := by
      simp only [List.mem_cons, List.not_mem_nil, or_false] at listed
      rcases listed with rfl | rfl | rfl | rfl | rfl | rfl | rfl <;> rfl
    rw [plain] at same
    exact same
  have extensions : getOptionalMap large 13 = getOptionalMap small 13 := by
    unfold getOptionalMap
    rw [field 13 (by decide)]
  unfold Manifest.ofMap getBytes getText
  rw [getUint_congr (field 1 (by decide)), getWith_congr (field 2 (by decide)),
    getWith_congr (field 3 (by decide)), getUint_congr (field 4 (by decide)),
    getUint_congr (field 5 (by decide)), getUint_congr (field 9 (by decide)),
    Enlarged.traverse_getOptionalMap enlarged (by decide) rfl
      (fun _ _ => Shard.ofMap_enlarged),
    Enlarged.traverse_getOptionalMap enlarged (by decide) rfl
      (fun _ _ => Compression.ofMap_enlarged), extensions]
  refine bind_congr fun formatVersion => bind_congr fun bundleIdBytes => ?_
  refine bind_congr fun bundleId => bind_congr fun producerId => bind_congr fun createdAt => ?_
  refine bind_congr fun rawType => bind_congr fun bundleType => ?_
  refine ManifestEnlarged.scopes enlarged (funext fun caScopes => ?_)
  refine Enlarged.getMap_bind enlarged (by decide) rfl fun before after window => ?_
  rw [Window.ofMap_enlarged window]
  refine bind_congr fun window => ?_
  refine Enlarged.getMap_bind enlarged (by decide) rfl fun before after integrity => ?_
  rw [Integrity.ofMap_enlarged integrity]
  refine bind_congr fun integrity => bind_congr fun entryCount => ?_
  refine Enlarged.getMap_bind enlarged (by decide) rfl fun before after continuity => ?_
  rw [Continuity.ofMap_enlarged continuity]

end Nested

end Ahu

open Ahu
open Cbor (Value)

section Verdicts

variable [Sha2] [Ciborium]

def structureVerdict (bundle : Bundle) : Except AhuError Unit :=
  (verifyStructure bundle).map fun _ => ()

omit [Sha2] [Ciborium] in
theorem validateEntryBounds_congr {left right : Bundle} (data : left.data = right.data)
    (records : List IndexRecord) :
    validateEntryBounds left records = validateEntryBounds right records := by
  induction records with
  | nil =>
      rfl
  | cons record rest ih =>
      unfold validateEntryBounds
      rw [Bundle.entryBytes_congr data, ih]

/-- The structural checks see no more of the manifest octets than what they are
decoded to, and of the seal only whether there is one. -/
theorem verifyStructure_congr {left right : Bundle} (manifest : right.manifest = left.manifest)
    (decoded : Manifest.fromCbor right.manifestBytes = Manifest.fromCbor left.manifestBytes)
    (index : right.index = left.index) (data : right.data = left.data) :
    structureVerdict right = structureVerdict left ∧
      (right.sealBytes.isEmpty = left.sealBytes.isEmpty →
        verifyStructure right = verifyStructure left) := by
  have bounds := validateEntryBounds_congr data left.index
  constructor
  · unfold structureVerdict verifyStructure
    rw [manifest, decoded, index, data, bounds]
    simp only [Except.map_bind]
    rfl
  · intro seals
    unfold verifyStructure
    rw [manifest, decoded, index, data, bounds, seals]

/-- Entries that a later minor version adds anywhere in the schema's maps leave
the decoded manifest and the verdicts on a bundle as they were. -/
theorem minor_version_tolerated {original enlarged : Bytes} {small large : ValueMap}
    {manifest : Manifest} (reads : Ciborium.fromReader original = .ok (.map small))
    (readsEnlarged : Ciborium.fromReader enlarged = .ok (.map large))
    (grown : ManifestEnlarged small large)
    (decodes : Manifest.fromCbor original = .ok manifest) :
    Manifest.fromCbor enlarged = .ok manifest ∧
      ∀ left right : Bundle, left.manifestBytes = original → right.manifestBytes = enlarged →
        left.Decoded → right.Decoded → right.index = left.index → right.data = left.data →
          structureVerdict right = structureVerdict left ∧
            (right.sealBytes.isEmpty = left.sealBytes.isEmpty →
              verifyStructure right = verifyStructure left) ∧
            validateServingProfile right = validateServingProfile left := by
  have same : Manifest.fromCbor enlarged = Manifest.fromCbor original := by
    unfold Manifest.fromCbor
    rw [reads, readsEnlarged]
    exact Manifest.ofMap_enlarged grown
  refine ⟨same.trans decodes, ?_⟩
  rintro left right rfl rfl leftDecoded rightDecoded index data
  have manifest : right.manifest = left.manifest := by
    have both := rightDecoded.manifest.symm.trans (same.trans leftDecoded.manifest)
    exact Except.ok.inj both
  obtain ⟨verdict, report⟩ := verifyStructure_congr manifest same index data
  refine ⟨verdict, report, ?_⟩
  unfold validateServingProfile
  rw [manifest, index]

end Verdicts

/-! ### A manifest of a later version -/

section Later

local instance laterSha2 : Sha2 := Crates.sha2
local instance laterCiborium : Ciborium := Crates.ciborium

def laterFront : ValueMap := sampleManifest.toMap.take 6

def laterBack : ValueMap := sampleManifest.toMap.drop 7

/-- A text key in front, a key 14 behind, and a key 5 and a repeated text key
inside the window. -/
def laterWindow : ValueMap :=
  (.text "zone", .null) :: sampleManifest.window.toMap ++
    [(.integer 5, .integer 0), (.text "zone", .bool true)]

def laterMap : ValueMap :=
  (.text "issuer", .array []) :: laterFront ++ [(.integer 7, .map laterWindow)] ++ laterBack ++
    [(.integer 14, .bytes [1])]

theorem laterWindow_enlarged :
    Enlarged [1, 2, 3, 4] NoGrowth sampleManifest.window.toMap laterWindow := by
  apply Enlarged.insert _ _ (by simp [Value.asInteger])
  have kept := Enlarged.refl [1, 2, 3, 4] NoGrowth sampleManifest.window.toMap
  have added : Enlarged [1, 2, 3, 4] NoGrowth []
      [(.integer 5, .integer 0), (.text "zone", .bool true)] :=
    .insert _ _ (by simp [Value.asInteger]) (.insert _ _ (by simp [Value.asInteger]) .nil)
  have both := kept.append added
  rw [List.append_nil] at both
  exact both

theorem laterMap_enlarged : ManifestEnlarged sampleManifest.toMap laterMap := by
  have split : sampleManifest.toMap =
      laterFront ++ [(.integer 7, .map sampleManifest.window.toMap)] ++ laterBack := rfl
  rw [split]
  apply Enlarged.insert _ _ (by simp [Value.asInteger])
  have window : ManifestEnlarged [(.integer 7, .map sampleManifest.window.toMap)]
      [(.integer 7, .map laterWindow)] :=
    .keep _ (Or.inr ⟨7, by decide, rfl, _, _, rfl, rfl, laterWindow_enlarged⟩) .nil
  have added : ManifestEnlarged [] [(.integer 14, .bytes [1])] :=
    .insert _ _ (by simp [Value.asInteger]) .nil
  have whole := (((Enlarged.refl _ _ laterFront).append window).append
    (Enlarged.refl _ _ laterBack)).append added
  rw [List.append_nil] at whole
  exact whole

theorem laterMap_reads :
    Ciborium.fromReader (Ciborium.intoWriter (.map laterMap)) = .ok (.map laterMap) := by
  apply Crates.fromReader_intoWriter
  apply Cbor.encodable_of_length _ _ (by decide +kernel)
  have plain : Cbor.InRange (.map sampleManifest.toMap) := Manifest.inRange_toMap rfl
  have window : Cbor.InRange (.map laterWindow) := by
    simp [laterWindow, Window.toMap, entry, Cbor.InRange, Cbor.InRangeEntries, inRange_uint]
  rw [Cbor.InRange, Cbor.inRangeEntries_iff] at plain ⊢
  intro pair member
  simp only [laterMap, List.mem_append, List.mem_cons, List.not_mem_nil, or_false] at member
  rcases member with (((rfl | front) | rfl) | back) | rfl
  · simp [Cbor.InRange, Cbor.InRangeItems]
  · exact plain pair (List.mem_of_mem_take front)
  · exact ⟨by simp [Cbor.InRange], window⟩
  · exact plain pair (List.mem_of_mem_drop back)
  · simp [Cbor.InRange]

def laterBundle : Bundle :=
  { sampleBundle (sampleHeader 2) [] with
    manifestBytes := Ciborium.intoWriter (.map laterMap) }

/-- The later manifest is read as the sample's, and a bundle that carries it is
verified and profiled like the sample bundle. -/
theorem later_manifest_tolerated :
    Manifest.fromCbor (Ciborium.intoWriter (.map laterMap)) = .ok sampleManifest ∧
      verifyStructure laterBundle = verifyStructure (sampleBundle (sampleHeader 1) []) ∧
      validateServingProfile laterBundle =
        validateServingProfile (sampleBundle (sampleHeader 1) []) := by
  have tolerated := minor_version_tolerated sampleManifest_readsBack laterMap_reads
    laterMap_enlarged sampleManifest_readsBack.fromCbor
  have original : (sampleBundle (sampleHeader 1) []).Decoded :=
    ⟨rfl, sampleManifest_readsBack.fromCbor⟩
  have later : laterBundle.Decoded := ⟨rfl, tolerated.1⟩
  obtain ⟨_, verdict, profile⟩ := tolerated.2 _ _ rfl rfl original later rfl rfl
  exact ⟨tolerated.1, verdict rfl, profile⟩

end Later

end Hoike
