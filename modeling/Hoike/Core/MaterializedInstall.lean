/-
Installing what was materialized.

A materialized bundle names its last input as predecessor.  The destination has
recorded the base, since deltas are never installed, so its predecessor rule holds
for the base alone and refuses every bundle that a delta went into.
-/

import Hoike.Ahu.DeltaChain
import Hoike.Ahu.DeltaFold
import Hoike.Core.Continuity

namespace Hoike

open Ahu

section Refusal

variable [Sha2] [Ciborium]

variable {base : Bundle} {deltas : List Bundle} {sealFn : Bytes → Except AhuError Bytes}
  {result : ApplyResult} {window : Window}

/-- What the continuity check reads of a materialized bundle. -/
structure Succeeds (base : Bundle) (deltas : List Bundle) (epoch : UInt64) (output : Bundle) :
    Prop where
  producerId : output.manifest.producerId = base.manifest.producerId
  scopes : output.manifest.caScopes =
    base.manifest.caScopes.map fun scope => { scope with epoch := epoch }
  predecessor : output.manifest.continuity.prevManifestDigest =
    some (manifestDigest (deltas.getLastD base).manifestBytes)

theorem succeeds_written (header : FileHeader) (sealBytes : Bytes) (finalEpoch : UInt64)
    (window : Window) :
    Succeeds base deltas finalEpoch
      ((outputBuilder base deltas finalEpoch window).written header sealBytes) := by
  have manifest := manifest_outputBuilder base deltas finalEpoch window
  have producerId := congrArg Manifest.producerId manifest
  have scopes := congrArg Manifest.caScopes manifest
  have previous := congrArg (fun manifest => manifest.continuity.prevManifestDigest) manifest
  have last : (Progress.finish base deltas).prevManifestDigest =
      manifestDigest (deltas.getLastD base).manifestBytes :=
    prevManifestDigest_foldl_advance rfl
  exact ⟨producerId, scopes, previous.trans (congrArg some last)⟩

def RecordsBase (store : StateStore) (base : Bundle) : Prop :=
  ∀ scope ∈ base.manifest.caScopes, store.getManifestDigest base.manifest.producerId
    (Bytes.encodeHex scope.issuerKeyHash) = some (Sha2.sha256 base.manifestBytes)

omit [Ciborium] in
theorem Succeeds.checkContinuity_iff {store : StateStore} {epoch : UInt64} {output : Bundle}
    (succeeds : Succeeds base deltas epoch output) (records : RecordsBase store base)
    (nonempty : base.manifest.caScopes ≠ [])
    (other : Sha2.sha256 output.manifestBytes ≠ Sha2.sha256 base.manifestBytes) :
    store.checkContinuity output = .ok () ↔
      Sha2.sha256 (deltas.getLastD base).manifestBytes = Sha2.sha256 base.manifestBytes := by
  rw [StateStore.checkContinuity_of_named succeeds.predecessor]
  have recorded : ∀ scope ∈ output.manifest.caScopes,
      store.getManifestDigest output.manifest.producerId
        (Bytes.encodeHex scope.issuerKeyHash) = some (Sha2.sha256 base.manifestBytes) := by
    intro scope member
    rw [succeeds.scopes] at member
    obtain ⟨original, among, rfl⟩ := List.mem_map.mp member
    rw [succeeds.producerId]
    exact records original among
  constructor
  · intro rule
    obtain ⟨original, among⟩ := List.exists_mem_of_ne_nil _ nonempty
    have member : { original with epoch := epoch } ∈ output.manifest.caScopes := by
      rw [succeeds.scopes]
      exact List.mem_map_of_mem among
    have here := recorded _ member
    have known : ScopeRecorded store output { original with epoch := epoch } := by
      unfold ScopeRecorded
      rw [here]
      rfl
    rcases rule _ member known with named | ⟨own, _⟩
    · exact Option.some.inj (named.symm.trans here)
    · exact absurd (Option.some.inj (own.symm.trans here)) other
  · intro same scope member _
    apply Or.inl
    rw [recorded scope member, ← same]
    rfl

def chainManifests (inputs : List Bundle) (output : Bundle) : Set Bytes :=
  {octets | ∃ bundle ∈ output :: inputs, octets = bundle.manifestBytes}

omit [Sha2] in
theorem manifest_of_manifestBytes {first second : Bundle} (decoded : first.Decoded)
    (also : second.Decoded) (same : first.manifestBytes = second.manifestBytes) :
    first.manifest = second.manifest := by
  have read := decoded.manifest
  rw [same, also.manifest] at read
  exact (Except.ok.inj read).symm

theorem Succeeds.manifest_ne {output : Bundle}
    (succeeds : Succeeds base deltas result.finalEpoch output)
    (run : Applied base deltas sealFn result window) (nonempty : base.manifest.caScopes ≠ []) :
    output.manifest ≠ base.manifest := by
  intro same
  have scopes := succeeds.scopes
  rw [same] at scopes
  obtain ⟨scope, among⟩ := List.exists_mem_of_ne_nil _ nonempty
  have moved := among
  rw [scopes] at moved
  obtain ⟨original, _, same⟩ := List.mem_map.mp moved
  have present : scope ∈ inputScopes (base :: deltas) :=
    List.mem_flatMap.mpr ⟨base, List.mem_cons_self, among⟩
  have above := (run.epoch_largest present).2 scope present
  rw [← same] at above
  exact absurd above (Nat.not_succ_le_self _)

theorem Applied.last_manifest_iff (run : Applied base deltas sealFn result window) :
    (deltas.getLastD base).manifest = base.manifest ↔ deltas = [] := by
  constructor
  · intro same
    by_contra some
    obtain ⟨_, follows⟩ := run.chained.follows (deltas.getLast some) (List.getLast_mem some)
    have last : deltas.getLastD base = deltas.getLast some := by
      rw [List.getLastD_eq_getLast?, List.getLast?_eq_some_getLast some, Option.getD_some]
    have kind := follows.isDelta
    rw [← last, same, run.isFull] at kind
    cases kind
  · rintro rfl
    rfl

variable [Pki]

/-- At a destination that has recorded the base, the continuity check accepts a
materialized bundle exactly when no delta went into it.  The installation of any
other one is refused and leaves the descriptor as it was. -/
theorem materialized_output_refused {os : Os} {config : Config} {label : String}
    {guard : StateDirectoryLock} {world : World} {store : StateStore}
    (parsed : ∀ input ∈ base :: deltas, ∃ bytes, Bundle.fromBytes bytes = .ok input)
    (applied : applySealed base deltas sealFn = .ok result) {manifestBytes : Bytes}
    (written : outputManifest base deltas = .ok manifestBytes)
    (fits : SealFits sealFn manifestBytes)
    (readsBack : ∀ manifest : Manifest, manifest.extensions = base.manifest.extensions →
      manifest.toCbor.length < 2 ^ 32 → manifest.ReadsBack)
    (collisionFree : ∀ output, Bundle.fromBytes result.bytes = .ok output →
      Set.InjOn Sha2.sha256 (chainManifests (base :: deltas) output))
    (nonempty : base.manifest.caScopes ≠ [])
    (opened : StateStore.openExisting os world.disk config.statePath = .ok store)
    (records : RecordsBase store base) :
    ∃ output, Bundle.fromBytes result.bytes = .ok output ∧
      (store.checkContinuity output = .ok () ↔ deltas = []) ∧
      (deltas ≠ [] → Fallible.Ensures (installBundle os config label result.bytes guard) world
        (fun _ _ => False) (fun _ after => world.SameStates after)) := by
  obtain ⟨window, run⟩ := applySealed_eq_ok.mp applied
  obtain ⟨output, parses, succeeds⟩ : ∃ output, Bundle.fromBytes result.bytes = .ok output ∧
      Succeeds base deltas result.finalEpoch output := by
    cases written.symm.trans run.outputManifest
    have reads := readsBack _ (extensions_outputBuilder base deltas result.finalEpoch window)
      fits.manifestFits
    obtain ⟨header, kept, _, _, parses⟩ := BundleBuilder.fromBytes_build fits reads run.built
    exact ⟨_, parses, succeeds_written header kept result.finalEpoch window⟩
  have decoded : ∀ input ∈ output :: base :: deltas, input.Decoded := by
    intro input member
    cases List.mem_cons.mp member with
    | inl same => exact same ▸ Bundle.decoded_of_fromBytes parses
    | inr among =>
        obtain ⟨_, read⟩ := parsed input among
        exact Bundle.decoded_of_fromBytes read
  -- Without collisions a digest stands for the manifest it was taken of.
  have identify : ∀ {first second : Bundle}, first ∈ output :: base :: deltas →
      second ∈ output :: base :: deltas →
        Sha2.sha256 first.manifestBytes = Sha2.sha256 second.manifestBytes →
          first.manifest = second.manifest := by
    intro first second left right same
    exact manifest_of_manifestBytes (decoded first left) (decoded second right)
      (collisionFree output parses ⟨first, left, rfl⟩ ⟨second, right, rfl⟩ same)
  have here : base ∈ output :: base :: deltas := List.mem_cons_of_mem _ List.mem_cons_self
  have last : deltas.getLastD base ∈ output :: base :: deltas := by
    rw [List.getLastD_eq_getLast?]
    exact List.mem_cons_of_mem _ (List.mem_of_getLast? List.getLast?_cons)
  have continuity : store.checkContinuity output = .ok () ↔ deltas = [] := by
    have later : Sha2.sha256 output.manifestBytes ≠ Sha2.sha256 base.manifestBytes :=
      fun same => succeeds.manifest_ne run nonempty (identify List.mem_cons_self here same)
    rw [succeeds.checkContinuity_iff records nonempty later]
    constructor
    · intro same
      exact (Applied.last_manifest_iff run).mp (identify last here same)
    · rintro rfl
      rfl
  refine ⟨output, parses, continuity, ?_⟩
  intro some
  -- Whatever reaches the commit has passed the continuity check on this output.
  have never : ∀ {destination bundle reopened canonical middle},
      Installing os config label result.bytes guard world destination bundle reopened canonical
        middle → False := by
    intro destination bundle reopened canonical middle installing
    have sameBundle := Except.ok.inj (parses.symm.trans installing.parsed)
    have sameStore := Except.ok.inj (opened.symm.trans installing.opened)
    have passed := installing.continuity
    rw [← sameBundle, ← sameStore] at passed
    exact some (continuity.mp passed)
  refine ensures_installBundle ?_ (fun error after stashed => stashed.toSameStates) ?_
  · intro _ _ _ _ _ _ _ installing _
    exact never installing
  · intro _ _ _ _ _ _ _ installing _
    exact (never installing).elim

end Refusal

/-! ### One delta over an installed base -/

section Samples

local instance successorSha2 : Sha2 := Crates.sha2
local instance successorCiborium : Ciborium := Crates.ciborium

def sealing (manifestBytes : Bytes) : Except AhuError Bytes :=
  if manifestBytes.length < 2 ^ 32 then
    .ok (Crates.sealOf (Sha2.sha256 manifestBytes).val followUpSignature)
  else .error (.invalidOperation "manifest too large")

def sealedUp (bundle : Bundle) : Bytes :=
  let sealBytes := (sealing bundle.manifestBytes).toOption.getD []
  ({ bundle with sealBytes := sealBytes } : Bundle).toBytes.toOption.getD []

def readBundle (file : Bytes) : Bundle :=
  (Bundle.fromBytes file).toOption.getD sampleBase

def baseFile : Bytes :=
  sealedUp sampleBase

def recordedBase : Bundle :=
  readBundle baseFile

def recordedDelta : Bundle :=
  readBundle (sealedUp sampleDelta)

def outputFile : Bytes :=
  ((applySealed recordedBase [recordedDelta] sealing).toOption.map ApplyResult.bytes).getD []

local instance successorPki : Pki :=
  Crates.pki [(Sha2.sha256 recordedBase.manifestBytes, followUpSignature),
    (Sha2.sha256 (readBundle outputFile).manifestBytes, followUpSignature)]

def installAsA (file : Bytes) : Effect InstallResult :=
  installBundle (Os.faultless 1800000000) pinnedConfig "a" file ⟨["w", "state"]⟩

def baseWorld : World :=
  ((installAsA baseFile).outcome (pinnedWorld PersistedState.default)).2

def recordsBase (store : StateStore) (base : Bundle) : Bool :=
  base.manifest.caScopes.all fun scope =>
    decide (store.getManifestDigest base.manifest.producerId
      (Bytes.encodeHex scope.issuerKeyHash) = some (Sha2.sha256 base.manifestBytes))

/-- The destination accepts the base.  It would accept the output as well, were it
not for what it has recorded. -/
theorem installs_computed :
    ((Bundle.fromBytes baseFile).isOk = true ∧
      (Bundle.fromBytes (sealedUp sampleDelta)).isOk = true ∧
      (Bundle.fromBytes outputFile).isOk = true ∧
      recordedBase.manifest.extensions.isNone = true ∧
      recordedBase.manifest.caScopes ≠ []) ∧
    (applySealed recordedBase [recordedDelta] sealing).toOption.map ApplyResult.finalEpoch =
      some 7 ∧
    (([readBundle outputFile, recordedBase, recordedDelta].map
      Bundle.manifestBytes).map Sha2.sha256).Nodup ∧
    (StateStore.openExisting (Os.faultless 1800000000) baseWorld.disk
      pinnedConfig.statePath).toOption.map (recordsBase · recordedBase) = some true ∧
    ((installAsA baseFile).outcome (pinnedWorld PersistedState.default)).1.isOk = true ∧
    ((installAsA outputFile).outcome (pinnedWorld PersistedState.default)).1.isOk = true ∧
    ((installAsA outputFile).outcome baseWorld).1.isOk = false := by
  decide +kernel

theorem fromBytes_readBundle {file : Bytes} (accepted : (Bundle.fromBytes file).isOk = true) :
    Bundle.fromBytes file = .ok (readBundle file) := by
  obtain ⟨bundle, parsed⟩ := Except.exists_of_isOk accepted
  unfold readBundle
  rw [parsed]
  rfl

theorem exists_outputFile : ∃ result,
    applySealed recordedBase [recordedDelta] sealing = .ok result ∧
      result.bytes = outputFile ∧ result.finalEpoch = 7 := by
  obtain ⟨_, epoch, _⟩ := installs_computed
  obtain ⟨result, applies, last⟩ := Option.map_eq_some_iff.mp epoch
  have applied := Except.toOption_eq_some.mp applies
  refine ⟨result, applied, ?_, last⟩
  unfold outputFile
  rw [applied]
  rfl

theorem sealFits_sealing {manifestBytes sealBytes : Bytes}
    (made : sealing manifestBytes = .ok sealBytes) : SealFits sealing manifestBytes := by
  unfold sealing at made
  split_ifs at made with fits
  refine ⟨fits, ?_⟩
  intro other made'
  unfold sealing at made'
  rw [if_pos fits] at made'
  cases made'
  have digest := (Sha2.sha256 manifestBytes).property
  simp only [Crates.sealOf, List.length_append, digest]
  decide +kernel

theorem exists_baseStore : ∃ store,
    StateStore.openExisting (Os.faultless 1800000000) baseWorld.disk pinnedConfig.statePath =
        .ok store ∧
      RecordsBase store recordedBase := by
  obtain ⟨_, _, _, computed, _⟩ := installs_computed
  obtain ⟨store, opened, records⟩ := Option.map_eq_some_iff.mp computed
  refine ⟨store, Except.toOption_eq_some.mp opened, ?_⟩
  intro scope member
  exact of_decide_eq_true (List.all_eq_true.mp records scope member)

theorem injOn_chainManifests : Set.InjOn Sha2.sha256
    (chainManifests [recordedBase, recordedDelta] (readBundle outputFile)) := by
  obtain ⟨_, _, distinct, _⟩ := installs_computed
  rintro _ ⟨first, left, rfl⟩ _ ⟨second, right, rfl⟩ same
  exact List.inj_on_of_nodup_map distinct (List.mem_map_of_mem left)
    (List.mem_map_of_mem right) same

/-- Behind the installed base the output of its first delta is refused. -/
theorem sample_output_refused : ∃ result output store,
    applySealed recordedBase [recordedDelta] sealing = .ok result ∧
      Bundle.fromBytes result.bytes = .ok output ∧
        StateStore.openExisting (Os.faultless 1800000000) baseWorld.disk
          pinnedConfig.statePath = .ok store ∧
          store.checkContinuity output ≠ .ok () ∧
            Fallible.Ensures (installAsA result.bytes) baseWorld (fun _ _ => False)
              (fun _ after => baseWorld.SameStates after) := by
  obtain ⟨⟨baseParses, deltaParses, outputParses, plain, carries⟩, _⟩ := installs_computed
  obtain ⟨result, applied, bytes, _⟩ := exists_outputFile
  obtain ⟨store, opened, records⟩ := exists_baseStore
  obtain ⟨window, run⟩ := applySealed_eq_ok.mp applied
  obtain ⟨_, made, _⟩ := BundleBuilder.build_eq_ok.mp run.built
  have parsed : ∀ input ∈ [recordedBase, recordedDelta],
      ∃ bytes, Bundle.fromBytes bytes = .ok input := by
    intro input member
    cases List.mem_pair.mp member with
    | inl same =>
        rw [same]
        exact ⟨baseFile, fromBytes_readBundle baseParses⟩
    | inr same =>
        rw [same]
        exact ⟨sealedUp sampleDelta, fromBytes_readBundle deltaParses⟩
  have collisionFree : ∀ output, Bundle.fromBytes result.bytes = .ok output →
      Set.InjOn Sha2.sha256 (chainManifests [recordedBase, recordedDelta] output) := by
    intro output parses
    rw [bytes, fromBytes_readBundle outputParses] at parses
    rw [← Except.ok.inj parses]
    exact injOn_chainManifests
  have readsBack : ∀ manifest : Manifest,
      manifest.extensions = recordedBase.manifest.extensions →
        manifest.toCbor.length < 2 ^ 32 → manifest.ReadsBack := by
    intro manifest same short
    exact Crates.readsBack (same.trans (Option.isNone_iff_eq_none.mp plain))
      (Nat.lt_trans short (by decide))
  obtain ⟨output, parses, continuity, refused⟩ : ∃ output, _ ∧ _ ∧
      (_ → Fallible.Ensures (installAsA result.bytes) baseWorld _ _) :=
    materialized_output_refused parsed applied run.outputManifest (sealFits_sealing made)
      readsBack collisionFree carries opened records
  exact ⟨result, output, store, applied, parses, opened,
    fun passed => absurd (continuity.mp passed) (List.cons_ne_nil _ _),
    refused (List.cons_ne_nil _ _)⟩

/-- A delta over the bundle that was installed last is materialized under a seal
the destination trusts, two epochs above its mark.  An empty destination installs
it, this one does not. -/
theorem materialized_output_not_installed : ∃ installed recorded result other unused,
    (installAsA baseFile).outcome (pinnedWorld PersistedState.default) =
        (.ok installed, recorded) ∧
      Bundle.fromBytes baseFile = .ok recordedBase ∧
        applySealed recordedBase [recordedDelta] sealing = .ok result ∧
          result.finalEpoch = 7 ∧
            (installAsA result.bytes).outcome (pinnedWorld PersistedState.default) =
              (.ok other, unused) ∧
              ((installAsA result.bytes).outcome recorded).1.isOk = false := by
  obtain ⟨⟨baseParses, _⟩, _, _, _, first, fresh, second⟩ := installs_computed
  obtain ⟨installed, recorded, ran⟩ := Fallible.eq_ok_of_isOk first
  obtain ⟨other, unused, accepted⟩ := Fallible.eq_ok_of_isOk fresh
  obtain ⟨result, applied, bytes, epoch⟩ := exists_outputFile
  have here : baseWorld = recorded := congrArg Prod.snd ran
  rw [here] at second
  refine ⟨installed, recorded, result, other, unused, ran, fromBytes_readBundle baseParses,
    applied, epoch, ?_, ?_⟩
  · rw [bytes]
    exact accepted
  · rw [bytes]
    exact second

end Samples

end Hoike
