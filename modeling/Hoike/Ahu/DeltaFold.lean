/-
Materialization is the left-to-right fold of its inputs.

This holds as long as the seal fits the 32-bit length of the header.  The
builder cuts longer lengths without an error, and then the header points into
the seal instead of the index.
-/

import Hoike.Ahu.LongSeals
import Hoike.Ahu.Materialize

namespace Hoike
namespace Ahu

section Fold

variable [Sha2] [Ciborium]

/-- The result of applying the deltas to the base, as a file that parses to
this bundle. -/
structure MaterializedAs (base : Bundle) (deltas : List Bundle) (result : ApplyResult)
    (bundle : Bundle) : Prop where
  parses : Bundle.fromBytes result.bytes = .ok bundle
  verifies : ∃ report, verifyStructure bundle = .ok report
  payloads : ∀ reference, bundle.payload reference =
    (retained (base :: deltas) reference).map Prod.snd
  count : result.entryCount + DeltaStat.total DeltaStat.removed result.deltas =
    base.payloadCount + DeltaStat.total DeltaStat.added result.deltas
  declared : bundle.manifest.entryCount.toNat = result.entryCount
  isFull : bundle.manifest.bundleType = .full
  noBase : bundle.manifest.continuity.baseManifestDigest = none
  chainLength : bundle.manifest.continuity.chainLength = 0
  predecessor : bundle.manifest.continuity.prevManifestDigest =
    some (manifestDigest (deltas.getLastD base).manifestBytes)
  epochs : ∀ scope ∈ bundle.manifest.caScopes,
    (∃ input ∈ inputScopes (base :: deltas), scope.epoch.toNat = input.epoch.toNat + 1) ∧
      ∀ input ∈ inputScopes (base :: deltas), input.epoch.toNat + 1 ≤ scope.epoch.toNat

variable {base : Bundle} {deltas : List Bundle} {sealFn : Bytes → Except AhuError Bytes}
  {result : ApplyResult} {window : Window}

def outputBuilder (base : Bundle) (deltas : List Bundle) (finalEpoch : UInt64)
    (window : Window) : BundleBuilder :=
  materializedBuilder (materializedManifest base.manifest
      (Progress.finish base deltas).prevManifestDigest finalEpoch window)
    (Progress.finish base deltas).workingSet

omit [Ciborium] in
theorem manifest_outputBuilder (base : Bundle) (deltas : List Bundle) (finalEpoch : UInt64)
    (window : Window) :
    (outputBuilder base deltas finalEpoch window).manifest =
      materializedManifest base.manifest (Progress.finish base deltas).prevManifestDigest
        finalEpoch window := by
  unfold outputBuilder
  rw [materializedBuilder_eq]

omit [Ciborium] in
theorem extensions_outputBuilder (base : Bundle) (deltas : List Bundle) (finalEpoch : UInt64)
    (window : Window) :
    (outputBuilder base deltas finalEpoch window).finalManifest.extensions =
      base.manifest.extensions := by
  unfold BundleBuilder.finalManifest
  rw [manifest_outputBuilder]
  rfl

theorem Applied.holds (applied : Applied base deltas sealFn result window) :
    (Progress.finish base deltas).workingSet.Holds (retained (base :: deltas)) := by
  obtain ⟨signed, verified⟩ := verifyStructure_eq_ok.mp applied.verifies
  exact holds_finish verified applied.chained

theorem Applied.sound (applied : Applied base deltas sealFn result window) :
    (outputBuilder base deltas result.finalEpoch window).Sound :=
  sound_materializedBuilder applied.holds rfl

theorem Applied.count_eq (applied : Applied base deltas sealFn result window) :
    result.entryCount + DeltaStat.total DeltaStat.removed result.deltas =
      base.payloadCount + DeltaStat.total DeltaStat.added result.deltas := by
  obtain ⟨signed, verified⟩ := verifyStructure_eq_ok.mp applied.verifies
  have sizes := size_foldl_advance (.start base) applied.chained.verified
  have start : (Progress.start base).workingSet.size = base.payloadCount :=
    size_retainBase verified.ascending
  rw [start] at sizes
  rw [applied.count, applied.stats]
  exact sizes

theorem Applied.epoch_eq (applied : Applied base deltas sealFn result window) :
    result.finalEpoch.toNat = (foldEpochs 0 (inputScopes (base :: deltas))).toNat + 1 := by
  have epoch := applied.epoch
  unfold checkedEpoch checkedAdd at epoch
  rw [maxEpoch_finish] at epoch
  split_ifs at epoch with fits
  rw [← Except.ok.inj epoch, UInt64.toNat_add]
  exact Nat.mod_eq_of_lt fits

theorem Applied.epoch_largest (applied : Applied base deltas sealFn result window)
    {scope : CaScope} (present : scope ∈ inputScopes (base :: deltas)) :
    (∃ input ∈ inputScopes (base :: deltas),
        result.finalEpoch.toNat = input.epoch.toNat + 1) ∧
      ∀ input ∈ inputScopes (base :: deltas),
        input.epoch.toNat + 1 ≤ result.finalEpoch.toNat := by
  obtain ⟨_, all, attained⟩ := foldEpochs_spec (inputScopes (base :: deltas)) 0
  rw [applied.epoch_eq]
  constructor
  · cases attained with
    | inl zero =>
        have below := all scope present
        rw [zero] at below
        have same : scope.epoch.toNat = 0 := Nat.le_zero.mp (UInt64.le_iff_toNat_le.mp below)
        exact ⟨scope, present, by rw [zero, same]; rfl⟩
    | inr found =>
        obtain ⟨input, member, same⟩ := found
        exact ⟨input, member, by rw [same]⟩
  · intro input member
    exact Nat.succ_le_succ (UInt64.le_iff_toNat_le.mp (all input member))

theorem Applied.materializedAs (applied : Applied base deltas sealFn result window)
    (readsBack : (outputBuilder base deltas result.finalEpoch window).finalManifest.ReadsBack)
    (fits : (outputBuilder base deltas result.finalEpoch window).placement.data.length < 2 ^ 63)
    (counted : (outputBuilder base deltas result.finalEpoch window).placement.records.length <
      2 ^ 63)
    {header : FileHeader} {sealBytes : Bytes}
    (parses : Bundle.fromBytes result.bytes =
      .ok ((outputBuilder base deltas result.finalEpoch window).written header sealBytes)) :
    MaterializedAs base deltas result
      ((outputBuilder base deltas result.finalEpoch window).written header sealBytes) := by
  have manifest := manifest_outputBuilder base deltas result.finalEpoch window
  have placed := applied.sound.length_records fits
  have entries : (outputBuilder base deltas result.finalEpoch window).entries.length =
      result.entryCount := by
    unfold outputBuilder
    rw [materializedBuilder_eq, List.length_map, Std.TreeMap.length_toList, applied.count]
  constructor
  · exact parses
  · exact verifyStructure_eq_ok.mpr ⟨_, applied.sound.verified header sealBytes readsBack fits⟩
  · intro reference
    exact payload_written applied.holds rfl fits header sealBytes reference
  · exact applied.count_eq
  · have length : (UInt64.ofNat (outputBuilder base deltas result.finalEpoch
        window).placement.records.length).toNat = _ :=
      UInt64.toNat_ofNat_of_lt' (by simp only [UInt64.size]; omega)
    exact length.trans (placed.trans entries)
  · exact (congrArg Manifest.bundleType manifest)
  · exact (congrArg (fun manifest => manifest.continuity.baseManifestDigest) manifest)
  · exact (congrArg (fun manifest => manifest.continuity.chainLength) manifest)
  · have previous := congrArg (fun manifest => manifest.continuity.prevManifestDigest) manifest
    have last : (Progress.finish base deltas).prevManifestDigest =
        manifestDigest (deltas.getLastD base).manifestBytes :=
      prevManifestDigest_foldl_advance rfl
    exact previous.trans (congrArg some last)
  · intro scope member
    have scopes : (outputBuilder base deltas result.finalEpoch window).manifest.caScopes =
        base.manifest.caScopes.map fun scope => { scope with epoch := result.finalEpoch } :=
      congrArg Manifest.caScopes manifest
    change scope ∈ (outputBuilder base deltas result.finalEpoch window).manifest.caScopes at member
    rw [scopes] at member
    obtain ⟨original, among, same⟩ := List.mem_map.mp member
    have present : original ∈ inputScopes (base :: deltas) :=
      List.mem_flatMap.mpr ⟨base, List.mem_cons_self, among⟩
    rw [← same]
    exact applied.epoch_largest present

/-! ### The fold -/

def outputLength (base : Bundle) (deltas : List Bundle) (finalEpoch : UInt64) (window : Window)
    (sealLength : Nat) : Nat :=
  headerSize + (outputBuilder base deltas finalEpoch window).finalManifest.toCbor.length +
    sealLength +
    (writeIndex (outputBuilder base deltas finalEpoch window).placement.records).length +
    (outputBuilder base deltas finalEpoch window).placement.data.length

theorem Applied.reseal (applied : Applied base deltas sealFn result window) {sealBytes : Bytes}
    {sealFn' : Bytes → Except AhuError Bytes}
    (made : sealFn' (outputBuilder base deltas result.finalEpoch window).finalManifest.toCbor =
      .ok sealBytes)
    (room : outputLength base deltas result.finalEpoch window sealBytes.length <
      maxVecLength) :
    ∃ bytes, Applied base deltas sealFn' { result with bytes := bytes } window := by
  obtain ⟨bytes, rebuilt⟩ : ∃ bytes,
      (outputBuilder base deltas result.finalEpoch window).build sealFn' = .ok bytes :=
    ⟨_, BundleBuilder.build_eq_ok.mpr ⟨sealBytes, made, assemble_eq_ok.mpr ⟨rfl, room⟩⟩⟩
  exact ⟨bytes,
    { verifies := applied.verifies
      isFull := applied.isFull
      chained := applied.chained
      epoch := applied.epoch
      windowed := applied.windowed
      built := rebuilt
      count := applied.count
      stats := applied.stats }⟩

theorem Applied.length_bytes (applied : Applied base deltas sealFn result window) :
    ∃ sealBytes, sealFn (outputBuilder base deltas result.finalEpoch
        window).finalManifest.toCbor = .ok sealBytes ∧
      result.bytes.length = outputLength base deltas result.finalEpoch window
        sealBytes.length ∧
      result.bytes.length < maxVecLength := by
  obtain ⟨sealBytes, made, written⟩ := BundleBuilder.build_eq_ok.mp applied.built
  obtain ⟨content, capacity⟩ := assemble_eq_ok.mp written
  have length : result.bytes.length = outputLength base deltas result.finalEpoch window
      sealBytes.length := by
    rw [content]
    unfold outputLength outputBuilder
    simp only [List.length_append, FileHeader.length_writeTo]
    omega
  refine ⟨sealBytes, made, length, ?_⟩
  rw [length]
  exact capacity

theorem Applied.empty_of_nothing (applied : Applied base deltas sealFn result window)
    (nothing : ∀ reference, retained (base :: deltas) reference = none) :
    (outputBuilder base deltas result.finalEpoch window).placement = .empty := by
  have items : (Progress.finish base deltas).workingSet.toList = [] := by
    apply List.eq_nil_iff_forall_not_mem.mpr
    intro item member
    obtain ⟨source, found, _⟩ :=
      applied.holds.entry (Std.TreeMap.mem_toList_iff_getElem?_eq_some.mp member)
    rw [nothing] at found
    cases found
  unfold outputBuilder
  rw [materializedBuilder_eq, items]
  rfl

omit [Ciborium] in
theorem entries_outputBuilder_of_mem {finalEpoch : UInt64} {reference : EntryRef}
    {entry : RetainedEntry}
    (held : (Progress.finish base deltas).workingSet[reference]? = some entry) :
    (outputBuilder base deltas finalEpoch window).entries ≠ [] := by
  have listed := Std.TreeMap.mem_toList_iff_getElem?_eq_some.mpr held
  unfold outputBuilder
  rw [materializedBuilder_eq]
  intro none
  rw [List.map_eq_nil_iff.mp none] at listed
  cases listed

theorem Applied.records_of_retained (applied : Applied base deltas sealFn result window)
    (fits : (outputBuilder base deltas result.finalEpoch window).placement.data.length < 2 ^ 63)
    {reference : EntryRef} {source : Bundle} {payload : Bytes}
    (present : retained (base :: deltas) reference = some (source, payload)) :
    (outputBuilder base deltas result.finalEpoch window).placement.records ≠ [] := by
  obtain ⟨entry, held, _⟩ := applied.holds.origin present
  have listed : (outputBuilder base deltas result.finalEpoch window).entries ≠ [] :=
    entries_outputBuilder_of_mem held
  have length := applied.sound.length_records fits
  intro none
  rw [none, List.length_nil] at length
  exact listed (List.length_eq_zero_iff.mp length.symm)

theorem Applied.folds_of_seal_fits (applied : Applied base deltas sealFn result window)
    (readsBack : (outputBuilder base deltas result.finalEpoch window).finalManifest.ReadsBack)
    (sealFits : SealFits sealFn
      (outputBuilder base deltas result.finalEpoch window).finalManifest.toCbor) :
    ∃ bundle, MaterializedAs base deltas result bundle := by
  obtain ⟨header, sealBytes, _, fits, parses⟩ :=
    BundleBuilder.fromBytes_build sealFits readsBack applied.built
  obtain ⟨_, _, written⟩ := BundleBuilder.build_eq_ok.mp applied.built
  obtain ⟨_, capacity⟩ := assemble_eq_ok.mp written
  have counted : (outputBuilder base deltas result.finalEpoch window).placement.records.length <
      2 ^ 63 := by
    have size : maxVecLength = 2 ^ 63 := rfl
    have record : indexRecordSize = 48 := rfl
    rw [length_writeIndex, record] at capacity
    unfold outputBuilder
    omega
  exact ⟨_, applied.materializedAs readsBack fits counted parses⟩

theorem Applied.folds_of_nothing (applied : Applied base deltas sealFn result window)
    (readsBack : (outputBuilder base deltas result.finalEpoch window).finalManifest.ReadsBack)
    (manifestFits : (outputBuilder base deltas result.finalEpoch
      window).finalManifest.toCbor.length < 2 ^ 32)
    (nothing : ∀ reference, retained (base :: deltas) reference = none) :
    ∃ bundle, MaterializedAs base deltas result bundle := by
  have empty := applied.empty_of_nothing nothing
  have noRecords := congrArg Placement.records empty
  have noData := congrArg Placement.data empty
  obtain ⟨sealBytes, _, written⟩ := BundleBuilder.build_eq_ok.mp applied.built
  obtain ⟨header, kept, parses⟩ :=
    fromBytes_build_empty readsBack manifestFits noRecords noData written
  have fits : (outputBuilder base deltas result.finalEpoch window).placement.data.length <
      2 ^ 63 := by
    rw [noData]
    decide
  have counted : (outputBuilder base deltas result.finalEpoch window).placement.records.length <
      2 ^ 63 := by
    rw [noRecords]
    decide
  exact ⟨_, applied.materializedAs readsBack fits counted parses⟩

/-- A stray seal of this length gives a result that is not the fold as soon as
something is retained. -/
theorem Applied.stray_breaks (applied : Applied base deltas sealFn result window)
    {length : Nat} (large : 2 ^ 32 ≤ length)
    (manifestFits : (outputBuilder base deltas result.finalEpoch
      window).finalManifest.toCbor.length < 2 ^ 32)
    (room : outputLength base deltas result.finalEpoch window (straySeal length).length <
      maxVecLength) :
    ∃ bytes, Applied base deltas (strayFn length) { result with bytes := bytes } window ∧
      ∀ {reference : EntryRef} {origin : Bundle × Bytes} {bundle : Bundle},
        retained (base :: deltas) reference = some origin →
        ¬ MaterializedAs base deltas { result with bytes := bytes } bundle := by
  have stray : strayFn length (outputBuilder base deltas result.finalEpoch
      window).finalManifest.toCbor = .ok (straySeal length) := rfl
  obtain ⟨bytes, resealed⟩ := applied.reseal stray room
  refine ⟨bytes, resealed, ?_⟩
  intro reference origin bundle present materialized
  obtain ⟨other, made, written⟩ := BundleBuilder.build_eq_ok.mp resealed.built
  have same : other = straySeal length := Except.ok.inj (made.symm.trans stray)
  subst same
  have size : maxVecLength = 2 ^ 63 := rfl
  have fits : (outputBuilder base deltas result.finalEpoch window).placement.data.length <
      2 ^ 63 := by
    unfold outputLength at room
    omega
  obtain ⟨others, first, _⟩ := straySeal_index large manifestFits
    (resealed.records_of_retained fits present) written materialized.parses
  exact strayRecord_breaks (first ▸ List.mem_cons_self) materialized.verifies

def outputManifest (base : Bundle) (deltas : List Bundle) : Except AhuError Bytes := do
  let finalEpoch ← checkedEpoch (Progress.finish base deltas).maxEpoch
  let window ← materializedWindow base.manifest.window (Progress.finish base deltas).windows
  return (outputBuilder base deltas finalEpoch window).finalManifest.toCbor

theorem Applied.outputManifest (applied : Applied base deltas sealFn result window) :
    outputManifest base deltas =
      .ok (outputBuilder base deltas result.finalEpoch window).finalManifest.toCbor := by
  unfold Ahu.outputManifest
  rw [applied.epoch, applied.windowed]
  rfl

/-- For base, deltas and a seal length with which `applySealed` succeeds at
all: every result under a seal of that length is the fold of the inputs exactly
when the length fits the header or no payload is retained. -/
theorem applySealed_folds_iff_seal_fits (length : Nat)
    (readsBack : ∀ manifest : Manifest, manifest.extensions = base.manifest.extensions →
      manifest.toCbor.length < 2 ^ 32 → manifest.ReadsBack)
    {manifestBytes : Bytes} (output : outputManifest base deltas = .ok manifestBytes)
    (accepted : ∃ sealFn result, SealsWith length sealFn manifestBytes ∧
      applySealed base deltas sealFn = .ok result) :
    (∀ sealFn result, SealsWith length sealFn manifestBytes →
        applySealed base deltas sealFn = .ok result →
          ∃ bundle, MaterializedAs base deltas result bundle) ↔
      length < 2 ^ 32 ∨ ∀ reference, retained (base :: deltas) reference = none := by
  constructor
  · intro folds
    by_cases small : length < 2 ^ 32
    · exact Or.inl small
    · right
      intro reference
      have large : 2 ^ 32 ≤ length := Nat.le_of_not_lt small
      obtain ⟨sealFn, result, seals, accepted⟩ := accepted
      obtain ⟨window, applied⟩ := applySealed_eq_ok.mp accepted
      cases output.symm.trans applied.outputManifest
      obtain ⟨sealBytes, made, length_eq, room⟩ := applied.length_bytes
      rw [length_eq, seals.sealLength sealBytes made, ← length_straySeal large] at room
      obtain ⟨bytes, resealed, broken⟩ := applied.stray_breaks large seals.manifestFits room
      obtain ⟨bundle, materialized⟩ := folds _ _ (sealsWith_strayFn large seals.manifestFits)
        (applySealed_eq_ok.mpr ⟨window, resealed⟩)
      cases present : retained (base :: deltas) reference with
      | none =>
          rfl
      | some origin =>
          exact absurd materialized (broken present)
  · intro condition sealFn result seals run
    obtain ⟨window, applied⟩ := applySealed_eq_ok.mp run
    cases output.symm.trans applied.outputManifest
    have reads := readsBack _ (extensions_outputBuilder base deltas result.finalEpoch window)
      seals.manifestFits
    cases condition with
    | inl small =>
        exact applied.folds_of_seal_fits reads (seals.fits small)
    | inr nothing =>
        exact applied.folds_of_nothing reads seals.manifestFits nothing

end Fold

/-! ### One delta -/

section Samples

local instance foldedSha2 : Sha2 := Crates.sha2
local instance foldedCiborium : Ciborium := Crates.ciborium

theorem readsBack_sampleBase (manifest : Manifest)
    (same : manifest.extensions = sampleBase.manifest.extensions)
    (short : manifest.toCbor.length < 2 ^ 32) : manifest.ReadsBack :=
  Crates.readsBack same (Nat.lt_trans short (by decide))

theorem sealsWith_shortFn {manifestBytes sealBytes : Bytes}
    (made : shortFn manifestBytes = .ok sealBytes) : SealsWith 0 shortFn manifestBytes := by
  unfold shortFn at made
  split_ifs at made with fits
  refine ⟨fits, ?_⟩
  intro other made'
  unfold shortFn at made'
  rw [if_pos fits] at made'
  cases made'
  rfl

theorem Applied.sealsWith_shortFn {base : Bundle} {deltas : List Bundle} {result : ApplyResult}
    {window : Window} (applied : Applied base deltas shortFn result window) :
    SealsWith 0 shortFn
      (outputBuilder base deltas result.finalEpoch window).finalManifest.toCbor := by
  obtain ⟨_, made, _⟩ := BundleBuilder.build_eq_ok.mp applied.built
  exact Ahu.sealsWith_shortFn made

theorem sampleDelta_folds :
    ∃ result bundle, applySealed sampleBase [sampleDelta] shortFn = .ok result ∧
      MaterializedAs sampleBase [sampleDelta] result bundle := by
  obtain ⟨result, run⟩ := Except.exists_of_isOk sampleDelta_applies
  obtain ⟨window, applied⟩ := applySealed_eq_ok.mp run
  have folds := (applySealed_folds_iff_seal_fits 0 readsBack_sampleBase applied.outputManifest
    ⟨shortFn, result, applied.sealsWith_shortFn, run⟩).mpr (Or.inl (by decide))
  obtain ⟨bundle, materialized⟩ := folds shortFn result applied.sealsWith_shortFn run
  exact ⟨result, bundle, run, materialized⟩

/-- With a seal of 2^32 octets `applySealed` succeeds and writes a file that is
not the fold. -/
theorem sampleDelta_under_long_seal :
    ∃ sealFn result, applySealed sampleBase [sampleDelta] sealFn = .ok result ∧
      ¬ ∃ bundle, MaterializedAs sampleBase [sampleDelta] result bundle := by
  have large : 2 ^ 32 ≤ 2 ^ 32 := Nat.le_refl _
  have small : ((applySealed sampleBase [sampleDelta] shortFn).map fun result =>
      decide (result.bytes.length < 2000)).toOption = some true := by
    decide +kernel
  obtain ⟨result, run⟩ := Except.exists_of_isOk sampleDelta_applies
  obtain ⟨window, applied⟩ := applySealed_eq_ok.mp run
  rw [run] at small
  have short : result.bytes.length < 2000 := by
    simpa [Except.map, Except.toOption] using small
  obtain ⟨sealBytes, made, length, _⟩ := applied.length_bytes
  have manifestFits := applied.sealsWith_shortFn.manifestFits
  have size : maxVecLength = 2 ^ 63 := rfl
  obtain ⟨bytes, resealed, broken⟩ := applied.stray_breaks large manifestFits (by
    rw [length_straySeal large, size]
    unfold outputLength at length ⊢
    omega)
  refine ⟨strayFn (2 ^ 32), _, applySealed_eq_ok.mpr ⟨window, resealed⟩, ?_⟩
  intro materialized
  obtain ⟨bundle, materialized⟩ := materialized
  have kept : (retained [sampleBase, sampleDelta] (sampleReference 3)).isSome = true := by
    decide +kernel
  obtain ⟨origin, present⟩ := Option.isSome_iff_exists.mp kept
  exact broken present materialized

end Samples

end Ahu
end Hoike
