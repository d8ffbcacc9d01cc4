/-
Whether a committed working set can be loaded again.

A load stages every configured bundle against the marks of all of them.  What was
accepted one by one is therefore accepted together exactly when each bundle still
stands: every scope at the recorded mark, under the bundle's own digest.  Start-up
falls back to the snapshots only if the configured files do not load.
-/

import Hoike.Ahu.RawIndex
import Hoike.Library.Round
import Hoike.Core.NormalForm
import Hoike.Core.Routing
import Hoike.Core.Validation

namespace Hoike

open Ahu
open Fallible

/-! ### Staging what stands -/

section Staging

variable [Sha2]

theorem StateStore.checkRollback_eq_ok {store : StateStore} {bundle : Bundle} :
    store.checkRollback bundle = .ok () ↔
      Watermark.Accepts maxEpochJump.toNat store.state.ledger (generation bundle) := by
  constructor
  · intro checked
    exact ⟨StateStore.admits_of_checkRollback checked, StateStore.within_of_checkRollback checked⟩
  · intro accepted
    refine Except.forM_eq_ok.mpr fun scope member =>
      StateStore.checkRollbackScope_eq_ok.mpr fun mark found => ?_
    have claimed : (CaScope.id bundle scope, scope.epoch.toNat) ∈ (generation bundle).claims :=
      mem_claims.mpr ⟨scope, member, rfl, rfl⟩
    have recorded : store.state.ledger (CaScope.id bundle scope) = some (mark.toNat,
        store.state.digestAt (PersistedState.scopeKey (CaScope.id bundle scope))) :=
      PersistedState.ledger_eq_some.mpr ⟨mark, found, rfl, rfl⟩
    obtain ⟨above, atMark⟩ := accepted.admits _ _ claimed _ _ recorded
    have near := accepted.within _ _ claimed _ _ recorded
    have below : mark ≤ scope.epoch := UInt64.le_iff_toNat_le.mpr above
    refine ⟨below, fun same => atMark (congrArg UInt64.toNat same), ?_⟩
    rw [UInt64.le_iff_toNat_le, UInt64.toNat_sub_of_le _ _ below]
    omega

theorem ensures_stageBundle_or_false {os : Os} {bundle : Bundle} {store : StateStore}
    {world : World} {onOk : Unit → StateStore × World → Prop} (staged : store.staged = true) :
    Ensures (stageBundle os bundle) (store, world) onOk (fun _ _ => False) ↔
      store.checkRollback bundle = .ok () ∧ store.checkContinuity bundle = .ok () ∧
        onOk () (store.withState (store.state.recordBundle bundle), world) := by
  unfold stageBundle
  simp only [ensures_bind, ensures_get, ensures_liftM_or_false,
    StateStore.ensures_advanceFromBundle_staged staged]
  constructor
  · rintro ⟨_, rollback, _, continuity, done⟩
    exact ⟨rollback, continuity, done⟩
  · rintro ⟨rollback, continuity, done⟩
    exact ⟨(), rollback, (), continuity, done⟩

/-- Each scope of the bundle is recorded at its epoch under the bundle's digest. -/
def PersistedState.Stands (state : PersistedState) (bundle : Bundle) : Prop :=
  Watermark.Stands state.ledger (generation bundle)

theorem PersistedState.Stands.ledger_recordBundle {state : PersistedState} {bundle : Bundle}
    (stands : state.Stands bundle) : (state.recordBundle bundle).ledger = state.ledger := by
  rw [PersistedState.ledger_recordBundle]
  exact Watermark.Stands.record_eq stands

theorem PersistedState.Stands.checkRollback {store : StateStore} {bundle : Bundle}
    (stands : store.state.Stands bundle) : store.checkRollback bundle = .ok () :=
  StateStore.checkRollback_eq_ok.mpr (Watermark.Stands.accepts stands)

theorem PersistedState.Stands.checkContinuity {store : StateStore} {bundle : Bundle}
    (stands : store.state.Stands bundle) : store.checkContinuity bundle = .ok () := by
  unfold StateStore.checkContinuity
  cases bundle.manifest.continuity.prevManifestDigest with
  | none =>
      rfl
  | some previous =>
      refine Except.forM_eq_ok.mpr fun scope member => ?_
      have recorded := stands _ _ (mem_claims.mpr ⟨scope, member, rfl, rfl⟩)
      obtain ⟨mark, found, same, digest⟩ := PersistedState.ledger_eq_some.mp recorded
      have digest : store.getManifestDigest bundle.manifest.producerId
          (Bytes.encodeHex scope.issuerKeyHash) = some (Sha2.sha256 bundle.manifestBytes) :=
        digest
      have found : store.getHighWater bundle.manifest.producerId
          (Bytes.encodeHex scope.issuerKeyHash) = some mark := found
      unfold StateStore.checkContinuityScope
      dsimp only
      rw [digest, found, UInt64.toNat_inj.mp same]
      exact Except.require_eq_ok.mpr (Or.inl ⟨rfl, rfl⟩)

theorem PersistedState.Stands.of_ledger {state state' : PersistedState} {bundle : Bundle}
    (stands : state.Stands bundle) (same : state'.ledger = state.ledger) :
    state'.Stands bundle := by
  unfold PersistedState.Stands
  rw [same]
  exact stands

theorem Staged.stands {start store : StateStore} {bundles : List Bundle}
    (chain : Staged start bundles store) {bundle : Bundle} (member : bundle ∈ bundles)
    (holds : start.state.Holds bundle) : start.state.Stands bundle := by
  induction chain with
  | start =>
      cases member
  | stage earlier rollback _ ih =>
      rcases List.mem_append.mp member with before | last
      · exact ih before
      · rw [List.mem_singleton.mp last] at holds ⊢
        refine Watermark.stands_of_admits ?_ earlier.climb.history.extends
          (StateStore.admits_of_checkRollback rollback)
        intro id epoch claimed
        obtain ⟨scope, among, rfl, rfl⟩ := mem_claims.mp claimed
        obtain ⟨mark, found, below⟩ := holds scope among
        exact ⟨mark.toNat, _, PersistedState.ledger_eq_some.mpr ⟨mark, found, rfl, rfl⟩,
          UInt64.le_iff_toNat_le.mp below⟩

end Staging

/-! ### A load on a machine without faults -/

/-- Every call succeeds, the clock stands at one instant, and a resolved path
leads to itself. -/
structure Os.Works (os : Os) (now : UInt64) : Prop where
  clock : ∀ calls, os.clock calls = .ok now
  writes : ∀ calls path, os.writeOutcome calls path = .durable
  creates : ∀ calls path, os.createDirectory calls path = none
  reads : ∀ place, os.unreadable place = false
  settles : ∀ path, os.locate { root := true, parts := os.locate path } = os.locate path

section Loading

variable [Sha2] [Ciborium] [Pki]

/-- The file of every section holds its bundle, and that is admitted at this
instant. -/
structure Loadable (os : Os) (now : UInt64) (disk : Disk) (config : Config)
    (bundleOf : CaConfig → Bundle) : Prop where
  sections : config.ca ≠ []
  policies : validateNonceConfig config = .ok ()
  parsed : ∀ ca ∈ config.ca,
    bundleFromFile os disk (config.bundlePath ca) = .ok (bundleOf ca)
  admitted : ∀ ca ∈ config.ca,
    ∃ trust, admitBundle os disk (bundleOf ca) config.storage now = .ok trust
  serialized : ∀ ca ∈ config.ca, ∃ bytes, (bundleOf ca).toBytes = .ok bytes

omit [Sha2] [Pki] in
theorem configuredBundlePaths_of_policies {os : Os} {disk : Disk} {config : Config}
    (sections : config.ca ≠ []) (policies : validateNonceConfig config = .ok ()) :
    configuredBundlePaths os disk config = .ok (config.ca.map config.bundlePath) := by
  unfold configuredBundlePaths
  rw [policies, if_neg sections]
  rfl

theorem Loadable.paths {os : Os} {now : UInt64} {disk : Disk} {config : Config}
    {bundleOf : CaConfig → Bundle} (loadable : Loadable os now disk config bundleOf) :
    configuredBundlePaths os disk config = .ok (config.ca.map config.bundlePath) :=
  configuredBundlePaths_of_policies loadable.sections loadable.policies

omit [Sha2] [Ciborium] [Pki] in
theorem returns_writeAtomic {os : Os} {now : UInt64} (works : os.Works now) {path : PathBuf}
    {publish : RealPath → World → World} {world : World} (named : path.fileName ≠ none) :
    Returns (writeAtomic os path publish) world := by
  unfold Returns writeAtomic
  simp only [ensures_bind, ensures_get, ensures_modify, if_neg named, works.writes]

omit [Ciborium] [Pki] in
theorem returns_snapshot {os : Os} {now : UInt64} (works : os.Works now) {label : String}
    {bundle : Bundle} {bytes : Bytes} (serialized : bundle.toBytes = .ok bytes)
    {store : StateStore} {world : World} :
    Returns (StateStore.snapshot os label bundle) (store, world) := by
  have named : (store.generations.child (StateStore.snapshotName bytes)).fileName ≠ none := by
    rw [StateStore.fileName_snapshot]
    exact Option.some_ne_none _
  have writes : Returns (writeFile os (store.generations.child
      (StateStore.snapshotName bytes)) bytes) world.tick := returns_writeAtomic works named
  unfold Returns StateStore.snapshot
  simp only [ensures_bind, ensures_get, ensures_liftM_or_false, ensures_onShared]
  refine ⟨bytes, Except.mapError_eq_ok.mpr serialized, ?_⟩
  unfold createDirAll
  simp only [ensures_bind, ensures_get, ensures_modify, works.creates, ensures_pure]
  by_cases present : os.fileExists world.tick.disk
      (store.generations.child (StateStore.snapshotName bytes))
  · obtain ⟨contents, held⟩ := Option.isSome_iff_exists.mp present
    have read : os.read world.tick.disk (store.generations.child
        (StateStore.snapshotName bytes)) = .ok contents :=
      Os.read_eq_ok.mpr ⟨held, works.reads _⟩
    simp only [if_pos present, ensures_bind, ensures_liftM_or_false, ensures_pure, read]
    refine ⟨contents, rfl, ?_⟩
    by_cases same : contents = bytes
    · simp only [same, decide_true]
      trivial
    · simp only [same, decide_false, if_true, ensures_bind, ensures_onShared]
      exact writes.mono (fun _ _ _ => trivial) (fun _ _ impossible => impossible)
  · simp only [if_neg present, ensures_pure, if_true, ensures_bind, ensures_onShared]
    exact writes.mono (fun _ _ _ => trivial) (fun _ _ impossible => impossible)

omit [Ciborium] [Pki] in
theorem ensures_snapshot_works {os : Os} {now : UInt64} (works : os.Works now) {label : String}
    {bundle : Bundle} {bytes : Bytes} (serialized : bundle.toBytes = .ok bytes)
    {store : StateStore} {world : World} :
    Ensures (StateStore.snapshot os label bundle) (store, world)
      (fun _ after => after.1.path = store.path) (fun _ _ => False) := by
  have keeps : Ensures (StateStore.snapshot os label bundle) (store, world)
      (fun _ after => after.1.path = store.path) (fun _ _ => True) :=
    StateStore.ensures_snapshot (fun _ _ _ _ => rfl) (fun _ _ _ => trivial)
      (fun _ _ _ _ _ => trivial)
  exact (returns_snapshot works serialized).ensures keeps

omit [Sha2] [Ciborium] [Pki] in
theorem returns_commit {os : Os} {now : UInt64} (works : os.Works now)
    {store candidate : StateStore} {world : World} (named : candidate.path.fileName ≠ none) :
    Returns (StateStore.commit os candidate) (store, world) := by
  unfold Returns StateStore.commit StateStore.persist writeState
  simp only [ensures_bind, ensures_onShared, StateStore.ensures_assign, ensures_modify]
  exact (returns_writeAtomic works named).mono (fun _ _ _ => trivial)
    (fun _ _ impossible => impossible)

/-- The file can be staged on the store: it parses, is admitted at this instant
and passes both checks. -/
structure Stageable (os : Os) (now : UInt64) (disk : Disk) (config : Config) (path : PathBuf)
    (store : StateStore) (bundle : Bundle) : Prop where
  parsed : bundleFromFile os disk path = .ok bundle
  admitted : ∃ trust, admitBundle os disk bundle config.storage now = .ok trust
  rollback : store.checkRollback bundle = .ok ()
  continuity : store.checkContinuity bundle = .ok ()

/-- The files of these sections, each read once, can be staged one after another. -/
def FilesStage (os : Os) (now : UInt64) (disk : Disk) (config : Config) :
    List PathBuf → StateStore → List CaConfig → Prop
  | _, _, [] => True
  | seen, store, ca :: rest =>
      if os.canonicalOrSelf disk (config.bundlePath ca) ∈ seen then
        FilesStage os now disk config seen store rest
      else
        ∃ bundle, Stageable os now disk config (config.bundlePath ca) store bundle ∧
          FilesStage os now disk config
            (os.canonicalOrSelf disk (config.bundlePath ca) :: seen)
            (store.withState (store.state.recordBundle bundle)) rest

def FilesLoad (os : Os) (now : UInt64) (disk : Disk) (config : Config) (store : StateStore) :
    Prop :=
  validateNonceConfig config = .ok () ∧
    FilesStage os now disk config [] store.emptied config.ca

theorem ensures_admitAndStage_decided {os : Os} {now : UInt64} (works : os.Works now)
    {path : PathBuf} {config : Config} {store : StateStore} {world : World}
    (staged : store.staged = true) :
    Ensures (admitAndStage os path config) (store, world)
      (fun bundle after => Stageable os now world.disk config path store bundle ∧
        after = (store.withState (store.state.recordBundle bundle), world.tick))
      (fun _ after => (∀ bundle, ¬ Stageable os now world.disk config path store bundle) ∧
        world.SameDisk after.2) := by
  unfold admitAndStage loadAndVerifyBundle systemTime stageBundle
  simp only [ensures_bind, ensures_onShared, ensures_get, ensures_modify, ensures_pure,
    ensures_liftM, StateStore.ensures_advanceFromBundle_staged staged, works.clock]
  refine ⟨?_, fun _ failed => ⟨fun other stageable => ?_, .refl world⟩⟩
  · intro bundle parsed
    rw [Except.mapError_eq_ok] at parsed
    have only : ∀ {other}, Stageable os now world.disk config path store other →
        other = bundle :=
      fun stageable => Except.ok.inj (stageable.parsed.symm.trans parsed)
    refine ⟨?_, fun _ impossible => by cases impossible⟩
    intro _ reading
    cases reading
    refine ⟨fun trust admitted => ⟨fun _ rollback => ⟨fun _ continuity => ?_, ?_⟩, ?_⟩, ?_⟩
    · exact ⟨⟨parsed, ⟨trust, admitted⟩, rollback, continuity⟩, trivial⟩
    · refine fun _ failed => ⟨fun other stageable => ?_, world.sameDisk_tick⟩
      rw [only stageable] at stageable
      cases stageable.continuity.symm.trans failed
    · refine fun _ failed => ⟨fun other stageable => ?_, world.sameDisk_tick⟩
      rw [only stageable] at stageable
      cases stageable.rollback.symm.trans failed
    · refine fun _ failed => ⟨fun other stageable => ?_, world.sameDisk_tick⟩
      rw [only stageable] at stageable
      obtain ⟨trust, admitted⟩ := stageable.admitted
      cases admitted.symm.trans failed
  · rw [stageable.parsed] at failed
    cases failed

def Loading.Knows (loading : Loading) (seen : List PathBuf) : Prop :=
  ∀ path, (loading.loadedPaths.lookup path).isSome ↔ path ∈ seen

theorem ensures_loadCa_decided {os : Os} {now : UInt64} (works : os.Works now) {config : Config}
    {ca : CaConfig} {seen : List PathBuf} {loading : Loading} {store : StateStore}
    {world : World} (knows : loading.Knows seen) (staged : store.staged = true) :
    Ensures (loadCa os config loading (ca, config.bundlePath ca)) (store, world)
      (fun loading' after => ∃ seen', loading'.Knows seen' ∧ after.1.staged = true ∧
        world.SameDisk after.2 ∧
          ∀ rest, FilesStage os now world.disk config seen store (ca :: rest) ↔
            FilesStage os now world.disk config seen' after.1 rest)
      (fun _ after => (∀ rest, ¬ FilesStage os now world.disk config seen store (ca :: rest)) ∧
        world.SameDisk after.2) := by
  unfold loadCa
  simp only [ensures_bind, ensures_get]
  cases found : loading.loadedPaths.lookup
      (os.canonicalOrSelf world.disk (config.bundlePath ca)) with
  | some index =>
      have again : os.canonicalOrSelf world.disk (config.bundlePath ca) ∈ seen :=
        (knows _).mp (by rw [found]; rfl)
      have skipped : ∀ rest, FilesStage os now world.disk config seen store (ca :: rest) ↔
          FilesStage os now world.disk config seen store rest := by
        intro rest
        rw [FilesStage, if_pos again]
      dsimp only
      cases loading.bundles[index]? with
      | none =>
          exact ⟨seen, knows, staged, .refl world, skipped⟩
      | some bundle =>
          exact ⟨seen, knows, staged, .refl world, skipped⟩
  | none =>
      have fresh : os.canonicalOrSelf world.disk (config.bundlePath ca) ∉ seen := by
        intro member
        have present := (knows _).mpr member
        rw [found] at present
        cases present
      simp only [ensures_bind, ensures_pure]
      refine (ensures_admitAndStage_decided works staged).mono ?_ ?_
      · rintro bundle after ⟨stageable, rfl⟩
        refine ⟨os.canonicalOrSelf world.disk (config.bundlePath ca) :: seen, ?_, staged,
          world.sameDisk_tick, ?_⟩
        · intro path
          by_cases own : path = os.canonicalOrSelf world.disk (config.bundlePath ca)
          · rw [own, AList.lookup_insert]
            simp
          · rw [AList.lookup_insert_ne own, knows path]
            simp [own]
        · intro rest
          rw [FilesStage, if_neg fresh]
          constructor
          · rintro ⟨bundle', stageable', others⟩
            obtain rfl : bundle' = bundle :=
              Except.ok.inj (stageable'.parsed.symm.trans stageable.parsed)
            exact others
          · intro others
            exact ⟨bundle, stageable, others⟩
      · rintro _ after ⟨unstageable, unchanged⟩
        refine ⟨fun rest => ?_, unchanged⟩
        rw [FilesStage, if_neg fresh]
        rintro ⟨bundle, stageable, _⟩
        exact unstageable bundle stageable

theorem ensures_loadSections {os : Os} {now : UInt64} (works : os.Works now) {config : Config}
    (sections : List CaConfig) {seen : List PathBuf} {loading : Loading} {store : StateStore}
    {world : World} (knows : loading.Knows seen) (staged : store.staged = true) :
    Ensures ((sections.map fun ca => (ca, config.bundlePath ca)).foldlM (loadCa os config)
        loading) (store, world)
      (fun _ _ => FilesStage os now world.disk config seen store sections)
      (fun _ after => ¬ FilesStage os now world.disk config seen store sections ∧
        world.SameDisk after.2) := by
  induction sections generalizing seen loading store world with
  | nil =>
      exact trivial
  | cons ca rest ih =>
      rw [List.map_cons, List.foldlM_cons, ensures_bind]
      refine (ensures_loadCa_decided works knows staged).mono ?_ ?_
      · rintro loading' ⟨store', middle⟩ ⟨seen', knows', staged', same, step⟩
        have others : Ensures ((rest.map fun ca => (ca, config.bundlePath ca)).foldlM
            (loadCa os config) loading') (store', middle)
            (fun _ _ => FilesStage os now middle.disk config seen' store' rest)
            (fun _ after => ¬ FilesStage os now middle.disk config seen' store' rest ∧
              middle.SameDisk after.2) :=
          ih knows' staged'
        rw [same.disk] at others
        rw [step rest]
        exact others.mono (fun _ _ stages => stages)
          (fun _ _ failed => ⟨failed.1, same.trans failed.2⟩)
      · rintro _ after ⟨unstageable, unchanged⟩
        exact ⟨unstageable rest, unchanged⟩

omit [Sha2] [Ciborium] [Pki] in
theorem sections_zip_paths (config : Config) :
    config.ca.zip (config.ca.map config.bundlePath) =
      config.ca.map fun ca => (ca, config.bundlePath ca) := by
  rw [List.zip_map_right, List.zip_eq_zipWith, List.zipWith_self, List.map_map]
  rfl

theorem ensures_loadBundles_decided {os : Os} {now : UInt64} (works : os.Works now)
    {config : Config} {store : StateStore} {world : World} (sections : config.ca ≠ []) :
    Ensures (loadBundles os config) (store.emptied, world)
      (fun _ _ => FilesLoad os now world.disk config store)
      (fun _ after => ¬ FilesLoad os now world.disk config store ∧ world.SameDisk after.2) := by
  unfold loadBundles FilesLoad
  simp only [ensures_bind, ensures_get, ensures_liftM, if_neg sections]
  constructor
  · intro paths configured
    have policies : validateNonceConfig config = .ok () := by
      obtain ⟨_, valid, _⟩ := Except.bind_eq_ok.mp configured
      exact valid
    have none : Loading.empty.Knows [] := by
      intro path
      constructor
      · intro impossible
        cases impossible
      · intro impossible
        cases impossible
    rw [configuredBundlePaths_sections sections configured, sections_zip_paths]
    refine (ensures_loadSections works config.ca none rfl).mono ?_ ?_
    · intro _ _ stages
      exact ⟨policies, stages⟩
    · rintro _ _ ⟨unstaged, unchanged⟩
      exact ⟨fun loads => unstaged loads.2, unchanged⟩
  · intro error failed
    refine ⟨?_, .refl world⟩
    rintro ⟨policies, _⟩
    rw [configuredBundlePaths_of_policies sections policies] at failed
    cases failed

theorem Loadable.filesStage {os : Os} {now : UInt64} {disk : Disk} {config : Config}
    {bundleOf : CaConfig → Bundle} (loadable : Loadable os now disk config bundleOf)
    {start : StateStore} (stands : ∀ ca ∈ config.ca, start.state.Stands (bundleOf ca))
    (sections : List CaConfig) (listed : ∀ ca ∈ sections, ca ∈ config.ca) {seen : List PathBuf}
    {store : StateStore} (unmoved : store.state.ledger = start.state.ledger) :
    FilesStage os now disk config seen store sections := by
  induction sections generalizing seen store with
  | nil =>
      exact trivial
  | cons ca rest ih =>
      have member := listed ca List.mem_cons_self
      have others : ∀ {seen store}, store.state.ledger = start.state.ledger →
          FilesStage os now disk config seen store rest :=
        ih fun other later => listed other (List.mem_cons_of_mem _ later)
      unfold FilesStage
      split_ifs with again
      · exact others unmoved
      · have standing : store.state.Stands (bundleOf ca) := (stands ca member).of_ledger unmoved
        refine ⟨bundleOf ca, ⟨loadable.parsed ca member, loadable.admitted ca member,
          standing.checkRollback, standing.checkContinuity⟩, others ?_⟩
        exact standing.ledger_recordBundle.trans unmoved

omit [Ciborium] [Pki] in
theorem ensures_snapshotEntry_works {os : Os} {now : UInt64} (works : os.Works now)
    {bundles : List Bundle} (serialized : ∀ bundle ∈ bundles, ∃ bytes, bundle.toBytes = .ok bytes)
    {seen : List String} {entry : ScopeEntry} {store : StateStore} {world : World} :
    Ensures (snapshotEntry os bundles seen entry) (store, world)
      (fun _ after => after.1.path = store.path) (fun _ _ => False) := by
  unfold snapshotEntry
  split_ifs with known
  · rfl
  · cases found : bundles[entry.bundleIdx]? with
    | none =>
        rfl
    | some bundle =>
        obtain ⟨bytes, written⟩ := serialized bundle (List.mem_of_getElem? found)
        simp only [ensures_bind, ensures_pure]
        exact ensures_snapshot_works works written

/-- On such a machine a load fails only while it stages, before it has written
anything. -/
theorem ensures_loadScopeMap_works {os : Os} {now : UInt64} (works : os.Works now)
    {config : Config} {store : StateStore} {world : World}
    (serialized : ∀ bundle, Configured os world.disk config bundle →
      ∃ bytes, bundle.toBytes = .ok bytes)
    (named : store.path.fileName ≠ none) {onError : CoreError → StateStore × World → Prop}
    (staging : Ensures (loadBundles os config) (store.emptied, world) (fun _ _ => True)
      (fun error after => onError error (store, after.2))) :
    Ensures (loadScopeMap os config) (store, world) (fun _ _ => True) onError := by
  unfold loadScopeMap loadScopeMapCandidate
  simp only [ensures_bind, ensures_get, ensures_onShared, ensures_withLocal, ensures_pure]
  have loads : Ensures (loadBundles os config) (store.emptied, world)
      (fun loading after => after.1.path = store.path ∧
        ∀ bundle ∈ loading.bundles, ∃ bytes, bundle.toBytes = .ok bytes) (fun _ _ => True) := by
    refine ensures_loadBundles rfl ?_ (fun _ _ _ _ => trivial)
    intro loading marks middle chain exactly _
    exact ⟨chain.path, fun bundle member => serialized bundle ((exactly bundle).mp member)⟩
  refine (staging.and loads).mono ?_ (fun _ _ both => both.1)
  rintro loading ⟨marks, middle⟩ ⟨_, path, written⟩
  refine Ensures.foldlM (fun _ _ current => current.1.path = store.path) path ?_ ?_
  · rintro entry _ seen ⟨current, now⟩ samePath
    refine (ensures_snapshotEntry_works works written).mono ?_
      (fun _ _ impossible => False.elim impossible)
    intro _ _ kept
    exact kept.trans samePath
  · rintro _ ⟨candidate, now⟩ samePath
    have named' : candidate.path.fileName ≠ none := by
      rw [samePath]
      exact named
    exact (returns_commit works named').mono (fun _ _ _ => trivial)
      (fun _ _ impossible => False.elim impossible)

theorem Loadable.configured {os : Os} {now : UInt64} {disk : Disk} {config : Config}
    {bundleOf : CaConfig → Bundle} (loadable : Loadable os now disk config bundleOf)
    {bundle : Bundle} :
    Configured os disk config bundle ↔ ∃ ca ∈ config.ca, bundle = bundleOf ca := by
  constructor
  · rintro ⟨paths, path, configured, member, parsed⟩
    rw [configuredBundlePaths_sections loadable.sections configured] at member
    obtain ⟨ca, among, rfl⟩ := List.mem_map.mp member
    exact ⟨ca, among, Except.ok.inj (parsed.symm.trans (loadable.parsed ca among))⟩
  · rintro ⟨ca, among, rfl⟩
    exact ⟨_, _, loadable.paths, List.mem_map_of_mem among, loadable.parsed ca among⟩

omit [Sha2] [Ciborium] [Pki] in
theorem Ahu.Bundle.SameContent.refl (bundle : Bundle) : bundle.SameContent bundle :=
  ⟨rfl, rfl, rfl, rfl, rfl⟩

def ScopeMap.Serves (map : ScopeMap) (config : Config) (bundleOf : CaConfig → Bundle) : Prop :=
  ∃ routes, List.Forall₂ (fun (ca : CaConfig) (route : Route) =>
      route.policy = ca.policy ∧ (bundleOf ca).SameContent route.bundle) config.ca routes ∧
    RoutedBy map.entries map.bundles routes

theorem Loadable.serves {os : Os} {now : UInt64} {disk : Disk} {config : Config}
    {bundleOf : CaConfig → Bundle} (loadable : Loadable os now disk config bundleOf)
    {paths : List PathBuf} {map : ScopeMap} {routes : List Route}
    (configured : configuredBundlePaths os disk config = .ok paths)
    (routed : Routed os disk config paths map routes) : map.Serves config bundleOf := by
  obtain rfl := configuredBundlePaths_sections loadable.sections configured
  refine ⟨routes, ?_, routed.routed⟩
  have policies := routed.policies
  unfold Config.policies at policies
  rw [if_neg loadable.sections] at policies
  rw [← List.forall₂_eq_eq_eq, List.forall₂_map_left_iff, List.forall₂_map_right_iff] at policies
  have read := (List.forall₂_and_left _ _).mpr
    ⟨loadable.parsed, List.forall₂_map_left_iff.mp routed.read⟩
  refine policies.flip.mp ?_ read
  rintro ca route policy ⟨parsed, spelling, same, admitted⟩
  rw [bundleFromFile_of_canonical admitted.parsed parsed same]
  exact ⟨policy, .refl _⟩

/-- What a load of files that no mark lies below can do: if they all stand it
serves them, and otherwise it leaves everything as it was. -/
theorem ensures_loadScopeMap_loadable {os : Os} {now : UInt64} (works : os.Works now)
    {config : Config} {bundleOf : CaConfig → Bundle} {store : StateStore} {world : World}
    (loadable : Loadable os now world.disk config bundleOf)
    (named : store.path.fileName ≠ none)
    (holds : ∀ ca ∈ config.ca, store.state.Holds (bundleOf ca)) :
    Ensures (loadScopeMap os config) (store, world)
      (fun map _ => (∀ ca ∈ config.ca, store.state.Stands (bundleOf ca)) ∧
        map.Serves config bundleOf)
      (fun _ after => (¬ ∀ ca ∈ config.ca, store.state.Stands (bundleOf ca)) ∧
        after.1 = store ∧ world.SameDisk after.2) := by
  have serialized : ∀ bundle, Configured os world.disk config bundle →
      ∃ bytes, bundle.toBytes = .ok bytes := by
    intro bundle configured
    obtain ⟨ca, member, rfl⟩ := loadable.configured.mp configured
    exact loadable.serialized ca member
  have marks := (StateStore.emptied_sameMarks store).ledger
  have converse : Ensures (loadScopeMap os config) (store, world)
      (fun _ _ => ∀ ca ∈ config.ca, store.state.Stands (bundleOf ca))
      (fun _ _ => True) := by
    refine ensures_loadScopeMap.mono ?_ (fun _ _ _ => trivial)
    intro map after attempt ca member
    cases attempt with
    | committed staged =>
        obtain ⟨_, chain, _⟩ := staged.chain
        have among := (staged.exactly _).mpr (loadable.configured.mpr ⟨ca, member, rfl⟩)
        exact (chain.stands among (holds ca member)).of_ledger marks.symm
  have unchanged : Ensures (loadScopeMap os config) (store, world) (fun _ _ => True)
      (fun _ after => after.1 = store ∧ world.SameDisk after.2) := by
    refine ensures_loadScopeMap_works works serialized named ?_
    exact ensures_loadBundles rfl (fun _ _ _ _ _ _ => trivial) (fun _ _ _ same => ⟨rfl, same⟩)
  have forward : Ensures (loadScopeMap os config) (store, world) (fun _ _ => True)
      (fun _ _ => ¬ ∀ ca ∈ config.ca, store.state.Stands (bundleOf ca)) := by
    by_cases stands : ∀ ca ∈ config.ca, store.state.Stands (bundleOf ca)
    · refine (ensures_loadScopeMap_works works serialized named ?_).mono (fun _ _ _ => trivial)
        (fun _ _ impossible => False.elim impossible)
      have loads : FilesLoad os now world.disk config store :=
        ⟨loadable.policies, loadable.filesStage stands config.ca (fun _ member => member) marks⟩
      exact (ensures_loadBundles_decided works loadable.sections).mono (fun _ _ _ => trivial)
        (fun _ _ failed => failed.1 loads)
    · exact Ensures.intro (fun _ _ _ => trivial) (fun _ _ _ => stands)
  refine ((converse.and ensures_loadScopeMap_routing).and (forward.and unchanged)).mono ?_
    (fun _ _ facts => facts.2)
  rintro map after ⟨⟨stands, paths, routes, configured, routed⟩, _⟩
  exact ⟨stands, loadable.serves configured routed⟩

theorem ensures_loadScopeMap_unloadable {os : Os} {now : UInt64} (works : os.Works now)
    {config : Config} {store : StateStore} {world : World} (sections : config.ca ≠ [])
    (unloadable : ¬ FilesLoad os now world.disk config store) :
    Ensures (loadScopeMap os config) (store, world) (fun _ _ => False)
      (fun _ after => after.1 = store ∧ world.SameDisk after.2) := by
  unfold loadScopeMap loadScopeMapCandidate
  simp only [ensures_bind, ensures_get, ensures_onShared, ensures_withLocal, ensures_pure]
  exact (ensures_loadBundles_decided works sections).mono
    (fun _ _ loads => absurd loads unloadable) (fun _ _ failed => ⟨trivial, failed.2⟩)

theorem returns_loadScopeMap {os : Os} {now : UInt64} (works : os.Works now) {config : Config}
    {store : StateStore} {world : World} (sections : config.ca ≠ [])
    (named : store.path.fileName ≠ none)
    (serialized : ∀ bundle, Configured os world.disk config bundle →
      ∃ bytes, bundle.toBytes = .ok bytes)
    (loads : FilesLoad os now world.disk config store) :
    Returns (loadScopeMap os config) (store, world) :=
  ensures_loadScopeMap_works works serialized named
    ((ensures_loadBundles_decided works sections).mono (fun _ _ _ => trivial)
      (fun _ _ failed => failed.1 loads))

theorem not_filesLoad_of_missing {os : Os} {now : UInt64} {disk : Disk} {config : Config}
    {store : StateStore} (sections : config.ca ≠ [])
    (missing : ∀ ca ∈ config.ca, os.fileExists disk (config.bundlePath ca) = false) :
    ¬ FilesLoad os now disk config store := by
  rintro ⟨_, stages⟩
  cases listed : config.ca with
  | nil =>
      exact sections listed
  | cons ca rest =>
      rw [listed, FilesStage, if_neg List.not_mem_nil] at stages
      obtain ⟨bundle, stageable, _⟩ := stages
      obtain ⟨bytes, contents, _⟩ := bundleFromFile_eq_ok.mp stageable.parsed
      have present := missing ca (listed ▸ List.mem_cons_self)
      rw [Os.fileExists, (Os.read_eq_ok.mp contents).1] at present
      cases present

end Loading

/-! ### Committed snapshots -/

section Snapshots

variable [Sha2] [Ciborium] [Pki]

/-- The reference of every configured label leads to the canonical form of its
bundle, and no scope of that lies above its mark. -/
structure Snapshots (os : Os) (disk : Disk) (config : Config) (state : PersistedState)
    (committed : String → Bundle) : Prop where
  stored : ∀ ca ∈ config.ca, ∃ bytes,
    state.activeBundles.lookup ca.label =
        some (config.generations.child (StateStore.snapshotName bytes)) ∧
      os.read disk (config.generations.child (StateStore.snapshotName bytes)) = .ok bytes ∧
        Bundle.fromBytes bytes = .ok (committed ca.label) ∧
          (committed ca.label).toBytes = .ok bytes
  holds : ∀ ca ∈ config.ca, state.Holds (committed ca.label)

/-- The configuration has sections, and the committed bundles have scopes and are
admitted at this instant. -/
structure Current (os : Os) (now : UInt64) (disk : Disk) (config : Config)
    (committed : String → Bundle) : Prop where
  sections : config.ca ≠ []
  scopes : ∀ ca ∈ config.ca, (committed ca.label).manifest.caScopes ≠ []
  admitted : ∀ ca ∈ config.ca,
    ∃ trust, admitBundle os disk (committed ca.label) config.storage now = .ok trust

def PublishedAs (os : Os) (disk : Disk) (config : Config) (committed : String → Bundle) : Prop :=
  ∀ ca ∈ config.ca, ∃ bundle, bundleFromFile os disk (config.bundlePath ca) = .ok bundle ∧
    (committed ca.label).SameContent bundle

/-- No configured file takes up an eighth of the longest vector. -/
def FilesSmall (os : Os) (disk : Disk) (config : Config) : Prop :=
  ∀ ca ∈ config.ca, ∀ bytes, os.read disk (config.bundlePath ca) = .ok bytes →
    bytes.length < 2 ^ 60

def Config.fromSnapshots (config : Config) (active : HashMap String PathBuf) : Config :=
  { config with
    ca := config.ca.map fun ca => { ca with bundleFile := active.lookup ca.label } }

omit [Sha2] [Ciborium] [Pki] in
theorem recoveryConfig_of_bound {config : Config} {active : HashMap String PathBuf}
    (bound : ∀ ca ∈ config.ca, (active.lookup ca.label).isSome) :
    recoveryConfig config active = .ok (config.fromSnapshots active) := by
  refine Except.bind_eq_ok.mpr ⟨_, Except.mapM_eq_ok.mpr ?_, rfl⟩
  rw [List.forall₂_map_right_iff, List.forall₂_same]
  intro ca member
  obtain ⟨path, found⟩ := Option.isSome_iff_exists.mp (bound ca member)
  rw [found]

omit [Sha2] [Ciborium] [Pki] in
theorem validateNonceConfig_fromSnapshots (config : Config) (active : HashMap String PathBuf) :
    validateNonceConfig (config.fromSnapshots active) = validateNonceConfig config := by
  have each : ∀ sections seen, validateNonceEntries (config.fromSnapshots active) seen
      (sections.map fun ca => { ca with bundleFile := active.lookup ca.label }) =
        validateNonceEntries config seen sections := by
    intro sections
    induction sections with
    | nil =>
        intro seen
        rfl
    | cons ca rest ih =>
        intro seen
        rw [List.map_cons, validateNonceEntries, validateNonceEntries, ih]
        rfl
  exact each config.ca []

theorem Snapshots.recovery_loadable {os : Os} {now : UInt64} {disk : Disk} {config : Config}
    {state : PersistedState} {committed : String → Bundle}
    (snapshots : Snapshots os disk config state committed)
    (current : Current os now disk config committed)
    (policies : validateNonceConfig config = .ok ()) :
    Loadable os now disk (config.fromSnapshots state.activeBundles)
      fun ca => committed ca.label := by
  have entry : ∀ ca ∈ (config.fromSnapshots state.activeBundles).ca, ∃ ca' ∈ config.ca,
      ca.label = ca'.label ∧ ca.bundleFile = state.activeBundles.lookup ca'.label := by
    intro ca member
    obtain ⟨ca', among, rfl⟩ := List.mem_map.mp member
    exact ⟨ca', among, rfl, rfl⟩
  refine ⟨?_, ?_, ?_, ?_, ?_⟩
  · intro empty
    exact current.sections (List.map_eq_nil_iff.mp empty)
  · rw [validateNonceConfig_fromSnapshots]
    exact policies
  · intro ca member
    obtain ⟨ca', among, label, file⟩ := entry ca member
    obtain ⟨bytes, bound, contents, parsed, _⟩ := snapshots.stored ca' among
    unfold Config.bundlePath
    rw [file, bound, label]
    exact bundleFromFile_eq_ok.mpr ⟨bytes, contents, parsed⟩
  · intro ca member
    obtain ⟨ca', among, label, _⟩ := entry ca member
    rw [label]
    exact current.admitted ca' among
  · intro ca member
    obtain ⟨ca', among, label, _⟩ := entry ca member
    obtain ⟨bytes, _, _, _, written⟩ := snapshots.stored ca' among
    exact ⟨bytes, label ▸ written⟩

omit [Sha2] [Ciborium] [Pki] in
theorem Ahu.Bundle.SameContent.symm {left right : Bundle} (same : left.SameContent right) :
    right.SameContent left :=
  ⟨same.manifest.symm, same.manifestBytes.symm, same.sealBytes.symm, same.index.symm,
    same.data.symm⟩

omit [Sha2] [Ciborium] [Pki] in
theorem Ahu.Bundle.SameContent.trans {first second third : Bundle}
    (left : first.SameContent second) (right : second.SameContent third) :
    first.SameContent third :=
  ⟨right.manifest.trans left.manifest, right.manifestBytes.trans left.manifestBytes,
    right.sealBytes.trans left.sealBytes, right.index.trans left.index,
    right.data.trans left.data⟩

omit [Sha2] [Pki] in
/-- Each of the four sections of a parsed file lies inside it, so a file of this
size can be written out again. -/
theorem Ahu.Bundle.toBytes_of_small {file : Bytes} {bundle : Bundle}
    (parsed : Bundle.fromBytes file = .ok bundle) (small : file.length < 2 ^ 60) :
    ∃ out, bundle.toBytes = .ok out := by
  have read := Bundle.fromBytes_eq_ok.mp parsed
  have section' : ∀ {offset length : UInt64} {found : Bytes},
      readSection file offset length = .ok found →
        found.length ≤ length.toNat ∧ found.length ≤ file.length := by
    intro offset length found cut
    obtain ⟨inside, rfl⟩ := readSection_eq_ok cut
    rw [List.length_take, List.length_drop]
    omega
  have manifest := section' read.manifestBytes
  have sealed := section' read.sealBytes
  have data := section' read.data
  obtain ⟨indexBytes, indexSection, indexed⟩ := read.index
  have index := section' indexSection
  have indexSize : (writeIndex bundle.index).length = indexBytes.length := by
    obtain ⟨stored, records, rfl⟩ := parseIndex_eq_ok indexed
    rw [length_writeIndex, ← records, List.length_map, length_flatMap_octets]
  have manifestFits : bundle.manifestBytes.length < 2 ^ 32 :=
    Nat.lt_of_le_of_lt manifest.1 (by
      rw [UInt32.toNat_toUInt64]
      exact UInt32.toNat_lt _)
  have sealFits : bundle.sealBytes.length < 2 ^ 32 :=
    Nat.lt_of_le_of_lt sealed.1 (by
      rw [UInt32.toNat_toUInt64]
      exact UInt32.toNat_lt _)
  have sizes : headerSize = 64 ∧ maxVecLength = 2 ^ 63 := ⟨rfl, rfl⟩
  have total : headerSize + bundle.manifestBytes.length + bundle.sealBytes.length +
      (writeIndex bundle.index).length + bundle.data.length < maxVecLength := by omega
  have manifestSize : (UInt32.ofNat bundle.manifestBytes.length).toNat =
      bundle.manifestBytes.length := UInt32.toNat_ofNat_of_lt' manifestFits
  have sealSize : (UInt32.ofNat bundle.sealBytes.length).toNat = bundle.sealBytes.length :=
    UInt32.toNat_ofNat_of_lt' sealFits
  have headerSize' : (UInt64.ofNat headerSize).toNat = headerSize := by decide
  refine ⟨_, Except.bind_eq_ok.mpr ⟨_, if_pos manifestFits, Except.bind_eq_ok.mpr
    ⟨_, if_pos sealFits, Except.bind_eq_ok.mpr ⟨_, if_pos ?_, assemble_eq_ok.mpr ⟨rfl, total⟩⟩⟩⟩⟩
  rw [UInt64.toNat_ofNat_of_lt' (by simp only [UInt64.size]; omega)]
  simp only [UInt64.toNat_add, headerSize', UInt32.toNat_toUInt64, manifestSize, sealSize]
  omega

omit [Sha2] [Pki] in
theorem FilesSmall.serialized {os : Os} {disk : Disk} {config : Config}
    (small : FilesSmall os disk config) (sections : config.ca ≠ []) :
    ∀ bundle, Configured os disk config bundle → ∃ bytes, bundle.toBytes = .ok bytes := by
  rintro bundle ⟨paths, path, configured, member, parsed⟩
  rw [configuredBundlePaths_sections sections configured] at member
  obtain ⟨ca, among, rfl⟩ := List.mem_map.mp member
  obtain ⟨file, contents, parsed⟩ := bundleFromFile_eq_ok.mp parsed
  exact Bundle.toBytes_of_small parsed (small ca among file contents)

theorem PublishedAs.loadable {os : Os} {now : UInt64} {disk : Disk} {config : Config}
    {committed : String → Bundle} (files : PublishedAs os disk config committed)
    (current : Current os now disk config committed) (small : FilesSmall os disk config)
    (policies : validateNonceConfig config = .ok ()) :
    ∃ bundleOf, Loadable os now disk config bundleOf ∧
      ∀ ca ∈ config.ca, (committed ca.label).SameContent (bundleOf ca) := by
  have : Nonempty Bundle := ⟨committed ""⟩
  choose! bundleOf parsed same using files
  refine ⟨bundleOf, ⟨current.sections, policies, parsed, ?_, ?_⟩, same⟩
  · intro ca member
    rw [admitBundle_of_sameContent (same ca member)]
    exact current.admitted ca member
  · intro ca member
    obtain ⟨file, contents, parsed⟩ := bundleFromFile_eq_ok.mp (parsed ca member)
    exact Bundle.toBytes_of_small parsed (small ca member file contents)

theorem ReadFrom.parsed {os : Os} {now : UInt64} (works : os.Works now) {disk : Disk}
    {config : Config} {path : PathBuf} {route : Route} (read : ReadFrom os disk config path route) :
    bundleFromFile os disk path = .ok route.bundle := by
  obtain ⟨spelling, canonical, admitted⟩ := read
  obtain ⟨bytes, contents, parsed⟩ := bundleFromFile_eq_ok.mp admitted.parsed
  have held := (Os.read_eq_ok.mp contents).1
  have present : os.fileExists disk spelling = true := by
    rw [Os.fileExists, held]
    rfl
  have place : os.locate path = os.locate spelling := by
    unfold Os.canonicalOrSelf at canonical
    rw [if_pos present] at canonical
    split_ifs at canonical
    · exact (congrArg PathBuf.parts canonical).symm
    · rw [← canonical, works.settles]
  refine bundleFromFile_eq_ok.mpr ⟨bytes, Os.read_eq_ok.mpr ⟨?_, works.reads _⟩, parsed⟩
  rw [place, held]

theorem Routed.publishedAs {os : Os} {now : UInt64} (works : os.Works now) {disk : Disk}
    {config : Config} {committed : String → Bundle} {paths : List PathBuf} {map : ScopeMap}
    {routes : List Route} (current : Current os now disk config committed)
    (configured : configuredBundlePaths os disk config = .ok paths)
    (routed : Routed os disk config paths map routes)
    (serves : map.Serves config fun ca => committed ca.label) :
    PublishedAs os disk config committed := by
  obtain rfl := configuredBundlePaths_sections current.sections configured
  obtain ⟨routes', served, routed'⟩ := serves
  have policies := routed.policies
  have distinct := routed.distinct
  unfold Config.policies at policies distinct
  rw [if_neg current.sections] at policies distinct
  rw [List.map_map] at distinct
  rw [← List.forall₂_eq_eq_eq, List.forall₂_map_left_iff, List.forall₂_map_right_iff] at policies
  have read := List.forall₂_map_left_iff.mp routed.read
  intro ca member
  obtain ⟨route, isRoute, policy, same⟩ := served.exists_right member
  -- The bundle has a scope, and under its key both lists of routes are registered alike.
  have among : route ∈ routes := by
    obtain ⟨scope, isScope⟩ := List.exists_mem_of_ne_nil _ (current.scopes ca member)
    have isScope : scope ∈ route.bundle.manifest.caScopes := by
      rw [same.manifest]
      exact isScope
    have listed : route ∈ routes'.flatMap fun route => route.registrations scope.scopeKey :=
      List.mem_flatMap.mpr ⟨route, isRoute, Route.mem_registrations.mpr ⟨rfl, scope, isScope, rfl⟩⟩
    have alike := (routed' scope.scopeKey).symm.trans (routed.routed scope.scopeKey)
    rw [List.map_injective_iff.mpr (Option.some_injective _) alike] at listed
    obtain ⟨route', isRoute', own⟩ := List.mem_flatMap.mp listed
    rw [(Route.mem_registrations.mp own).1]
    exact isRoute'
  obtain ⟨ca', member', policy', from'⟩ := (policies.flip.mp
    (fun _ _ policy read => And.intro policy read) read).exists_left among
  have sameLabel : ca'.label = ca.label :=
    congrArg ScopePolicy.caLabel (policy'.symm.trans policy)
  obtain rfl := List.inj_on_of_nodup_map distinct member' member sameLabel
  exact ⟨route.bundle, ReadFrom.parsed works from', same⟩

omit [Ciborium] [Pki] in
theorem PersistedState.stands_of_sameContent {state : PersistedState} {left right : Bundle}
    (same : left.SameContent right) : state.Stands right ↔ state.Stands left := by
  rw [same.eq_with_header]
  rfl

def AllStand (config : Config) (state : PersistedState) (committed : String → Bundle) : Prop :=
  ∀ ca ∈ config.ca, state.Stands (committed ca.label)

omit [Sha2] [Ciborium] [Pki] in
theorem ScopeMap.Serves.of_sameContent {map : ScopeMap} {config : Config}
    {bundleOf bundleOf' : CaConfig → Bundle} (serves : map.Serves config bundleOf)
    (same : ∀ ca ∈ config.ca, (bundleOf' ca).SameContent (bundleOf ca)) :
    map.Serves config bundleOf' := by
  obtain ⟨routes, each, routed⟩ := serves
  refine ⟨routes, ?_, routed⟩
  refine ((List.forall₂_and_left _ _).mpr ⟨same, each⟩).imp ?_
  rintro ca route ⟨same, policy, served⟩
  exact ⟨policy, same.trans served⟩

omit [Sha2] [Ciborium] [Pki] in
theorem ScopeMap.Serves.of_fromSnapshots {map : ScopeMap} {config : Config}
    {active : HashMap String PathBuf} {committed : String → Bundle}
    (serves : map.Serves (config.fromSnapshots active) fun ca => committed ca.label) :
    map.Serves config fun ca => committed ca.label := by
  obtain ⟨routes, each, routed⟩ := serves
  exact ⟨routes, List.forall₂_map_left_iff.mp each, routed⟩

section Committed

variable {os : Os} {now : UInt64} {config : Config} {store : StateStore} {world : World}
  {committed : String → Bundle}

theorem ensures_loadScopeMap_published (works : os.Works now)
    (named : store.path.fileName ≠ none)
    (snapshots : Snapshots os world.disk config store.state committed)
    (current : Current os now world.disk config committed)
    (small : FilesSmall os world.disk config) (policies : validateNonceConfig config = .ok ())
    (files : PublishedAs os world.disk config committed) :
    Ensures (loadScopeMap os config) (store, world)
      (fun map _ => AllStand config store.state committed ∧
        map.Serves config fun ca => committed ca.label)
      (fun _ after => ¬ AllStand config store.state committed ∧ after.1 = store ∧
        world.SameDisk after.2) := by
  obtain ⟨bundleOf, loadable, same⟩ := files.loadable current small policies
  have stands : (∀ ca ∈ config.ca, store.state.Stands (bundleOf ca)) ↔
      AllStand config store.state committed :=
    forall₂_congr fun ca member => PersistedState.stands_of_sameContent (same ca member)
  have holds : ∀ ca ∈ config.ca, store.state.Holds (bundleOf ca) := by
    intro ca member
    have held := snapshots.holds ca member
    rw [(same ca member).eq_with_header]
    exact held
  rw [← stands]
  refine (ensures_loadScopeMap_loadable works loadable named holds).mono ?_
    (fun _ _ facts => facts)
  rintro map after ⟨standing, serves⟩
  exact ⟨standing, serves.of_sameContent same⟩

/-- With a snapshot for every label, a failed first attempt is followed by a load
of the snapshots. -/
theorem ensures_loadOrRecover_snapshots
    (snapshots : Snapshots os world.disk config store.state committed)
    (current : Current os now world.disk config committed)
    {onOk firstOk : ScopeMap → StateStore × World → Prop}
    {onError : CoreError → StateStore × World → Prop}
    (first : Ensures (loadScopeMap os config) (store, world) firstOk
      (fun _ after => after.1 = store ∧ world.SameDisk after.2))
    (served : ∀ map after, firstOk map after → onOk map after)
    (second : ∀ middle, world.SameDisk middle →
      Ensures (loadScopeMap os (config.fromSnapshots store.state.activeBundles))
        (store, middle) onOk onError) :
    Ensures (loadOrRecover os config) (store, world) onOk onError := by
  have bound : ∀ ca ∈ config.ca, (store.state.activeBundles.lookup ca.label).isSome := by
    intro ca member
    obtain ⟨bytes, found, _⟩ := snapshots.stored ca member
    rw [found]
    rfl
  have listed : store.state.activeBundles.entries ≠ [] := by
    intro empty
    obtain ⟨ca, member⟩ := List.exists_mem_of_ne_nil _ current.sections
    obtain ⟨path, found⟩ := Option.isSome_iff_exists.mp (bound ca member)
    have impossible := AList.mem_lookup_iff.mp found
    rw [empty] at impossible
    cases impossible
  unfold loadOrRecover
  rw [ensures_bind, ensures_observing]
  refine first.mono served ?_
  rintro original ⟨store', middle⟩ ⟨same, disk⟩
  obtain rfl : store' = store := same
  simp only [ensures_bind, ensures_get, if_neg listed, if_neg current.sections, ensures_liftM,
    recoveryConfig_of_bound bound]
  refine ⟨?_, fun error impossible => by cases impossible⟩
  intro recovery found
  cases found
  exact second middle disk

theorem ensures_loadOrRecover_committed (works : os.Works now)
    (named : store.path.fileName ≠ none)
    (snapshots : Snapshots os world.disk config store.state committed)
    (current : Current os now world.disk config committed)
    (policies : validateNonceConfig config = .ok ())
    (first : Ensures (loadScopeMap os config) (store, world)
      (fun map _ => AllStand config store.state committed ∧
        map.Serves config fun ca => committed ca.label)
      (fun _ after => after.1 = store ∧ world.SameDisk after.2)) :
    Ensures (loadOrRecover os config) (store, world)
      (fun map _ => AllStand config store.state committed ∧
        map.Serves config fun ca => committed ca.label)
      (fun _ _ => ¬ AllStand config store.state committed) := by
  refine ensures_loadOrRecover_snapshots snapshots current first (fun _ _ served => served) ?_
  intro middle disk
  have loadable := snapshots.recovery_loadable current policies
  rw [← disk.disk] at loadable
  have stands : (∀ ca ∈ (config.fromSnapshots store.state.activeBundles).ca,
      store.state.Stands (committed ca.label)) ↔ AllStand config store.state committed :=
    List.forall_mem_map
  have holds : ∀ ca ∈ (config.fromSnapshots store.state.activeBundles).ca,
      store.state.Holds (committed ca.label) :=
    List.forall_mem_map.mpr snapshots.holds
  rw [← stands]
  exact (ensures_loadScopeMap_loadable works loadable named holds).mono
    (fun map _ facts => ⟨facts.1, facts.2.of_fromSnapshots⟩) (fun _ _ facts => facts.1)

omit [Sha2] [Ciborium] [Pki] in
theorem checkGuard_of_resolved {guard : StateDirectoryLock}
    (resolved : os.canonicalizeDirectory config.storage.stateDb = .ok guard.stateDir)
    (mismatch : String → String → String) : checkGuard os config guard mismatch = .ok () := by
  unfold checkGuard
  dsimp only
  rw [resolved]
  exact Except.require_eq_ok.mpr rfl

def LoadsCommitted (os : Os) (now : UInt64) (disk : Disk) (config : Config) (store : StateStore)
    (committed : String → Bundle) : Prop :=
  validateNonceConfig config = .ok () ∧ AllStand config store.state committed ∧
    (PublishedAs os disk config committed ∨ ¬ FilesLoad os now disk config store)

theorem ensures_loadOrRecover_decided (works : os.Works now)
    (named : store.path.fileName ≠ none)
    (snapshots : Snapshots os world.disk config store.state committed)
    (current : Current os now world.disk config committed)
    (small : FilesSmall os world.disk config) :
    Ensures (loadOrRecover os config) (store, world)
      (fun map _ => (map.Serves config fun ca => committed ca.label) ↔
        LoadsCommitted os now world.disk config store committed)
      (fun _ _ => ¬ LoadsCommitted os now world.disk config store committed) := by
  by_cases policies : validateNonceConfig config = .ok ()
  · by_cases published : PublishedAs os world.disk config committed
    · refine (ensures_loadOrRecover_committed works named snapshots current policies
        ((ensures_loadScopeMap_published works named snapshots current small policies
          published).mono (fun _ _ facts => facts) (fun _ _ facts => facts.2))).mono ?_ ?_
      · rintro map _ ⟨stand, serves⟩
        exact iff_of_true serves ⟨policies, stand, Or.inl published⟩
      · intro _ _ fallen loads
        exact fallen loads.2.1
    · by_cases load : FilesLoad os now world.disk config store
      · -- The files load, and then the snapshots are not looked at.
        have unserved : Ensures (loadScopeMap os config) (store, world)
            (fun map _ => ¬ map.Serves config fun ca => committed ca.label)
            (fun _ _ => False) := by
          have returns := returns_loadScopeMap works current.sections named
            (small.serialized current.sections) load
          refine (returns.ensures ensures_loadScopeMap_routing).mono ?_
            (fun _ _ impossible => impossible)
          rintro map _ ⟨paths, routes, configured, routed⟩ serves
          exact published (routed.publishedAs works current configured serves)
        unfold loadOrRecover
        rw [ensures_bind, ensures_observing]
        refine unserved.mono ?_ (fun _ _ impossible => False.elim impossible)
        intro map _ other
        refine iff_of_false other ?_
        rintro ⟨_, _, here | fails⟩
        · exact published here
        · exact fails load
      · refine (ensures_loadOrRecover_committed works named snapshots current policies
          ((ensures_loadScopeMap_unloadable works current.sections load).mono
            (fun _ _ impossible => False.elim impossible) (fun _ _ facts => facts))).mono ?_ ?_
        · rintro map _ ⟨stand, serves⟩
          exact iff_of_true serves ⟨policies, stand, Or.inr load⟩
        · intro _ _ fallen loads
          exact fallen loads.2.1
  · have sections : (config.fromSnapshots store.state.activeBundles).ca ≠ [] := by
      intro empty
      exact current.sections (List.map_eq_nil_iff.mp empty)
    refine ensures_loadOrRecover_snapshots snapshots current
      (ensures_loadScopeMap_unloadable works current.sections fun load => policies load.1)
      (fun _ _ impossible => False.elim impossible) ?_
    intro middle _
    refine (ensures_loadScopeMap_unloadable works sections fun load => policies ?_).mono
      (fun _ _ impossible => False.elim impossible) (fun _ _ _ loads => policies loads.1)
    rw [← validateNonceConfig_fromSnapshots config store.state.activeBundles]
    exact load.1

theorem ensures_reload_decided {responder : ResponderState} (works : os.Works now)
    (named : responder.stateStore.path.fileName ≠ none)
    (snapshots : Snapshots os world.disk responder.config responder.stateStore.state committed)
    (current : Current os now world.disk responder.config committed)
    (small : FilesSmall os world.disk responder.config) :
    Ensures (reload os) (responder, world)
      (fun _ after => (after.1.scopeMap.Serves responder.config fun ca => committed ca.label) ↔
        validateNonceConfig responder.config = .ok () ∧
          AllStand responder.config responder.stateStore.state committed ∧
            PublishedAs os world.disk responder.config committed)
      (fun _ _ => ¬ (validateNonceConfig responder.config = .ok () ∧
        AllStand responder.config responder.stateStore.state committed ∧
          PublishedAs os world.disk responder.config committed)) := by
  unfold reload
  simp only [ensures_bind, ensures_get, ensures_zoom, ensures_modify]
  by_cases decided : validateNonceConfig responder.config = .ok () ∧
      PublishedAs os world.disk responder.config committed
  · refine (ensures_loadScopeMap_published works named snapshots current small decided.1
      decided.2).mono ?_ ?_
    · rintro map _ ⟨stand, serves⟩
      exact iff_of_true serves ⟨decided.1, stand, decided.2⟩
    · intro _ _ fallen loads
      exact fallen.1 loads.2.1
  · have undecided : ¬ (validateNonceConfig responder.config = .ok () ∧
        AllStand responder.config responder.stateStore.state committed ∧
          PublishedAs os world.disk responder.config committed) :=
      fun loads => decided ⟨loads.1, loads.2.2⟩
    refine ensures_loadScopeMap_routing.mono ?_ (fun _ _ _ => undecided)
    rintro map _ ⟨paths, routes, configured, routed⟩
    refine iff_of_false (fun serves => decided ⟨?_, ?_⟩) undecided
    · obtain ⟨_, valid, _⟩ := Except.bind_eq_ok.mp configured
      exact valid
    · exact routed.publishedAs works current configured serves

theorem ensures_load_opened {guard : StateDirectoryLock}
    {onOk : ResponderState → World → Prop} {onError : CoreError → World → Prop}
    (resolved : os.canonicalizeDirectory config.storage.stateDb = .ok guard.stateDir)
    (opened : StateStore.openExisting os world.disk config.statePath = .ok store)
    (decided : Ensures (loadOrRecover os config) (store, world)
      (fun map after => onOk
        { scopeMap := map
          config := config
          stateStore := after.1
          writerGuard := guard } after.2)
      (fun error after => onError error after.2)) :
    Ensures (load os config guard) world onOk onError := by
  unfold load
  simp only [ensures_bind, ensures_liftM, ensures_get, ensures_withLocal, ensures_pure,
    checkGuard_of_resolved resolved, opened]
  refine ⟨?_, fun error impossible => by cases impossible⟩
  intro _ _
  refine ⟨?_, fun error impossible => by cases impossible⟩
  intro store' same
  cases same
  exact decided

omit [Ciborium] [Pki] in
theorem returns_commitInstall {label : String} {bundle : Bundle} {bytes : Bytes}
    (works : os.Works now) (named : store.path.fileName ≠ none)
    (written : bundle.toBytes = .ok bytes) :
    Returns (commitInstall os label bundle store) world := by
  unfold Returns commitInstall
  simp only [ensures_bind, ensures_withLocal, ensures_pure]
  rw [StateStore.ensures_advanceFromBundle_staged rfl]
  refine (ensures_snapshot_works works written).mono ?_
    (fun _ _ impossible => False.elim impossible)
  rintro _ ⟨candidate, after⟩ samePath
  have path : candidate.path.fileName ≠ none := by
    rw [samePath]
    exact named
  exact returns_commit works path

theorem returns_installBundle {guard : StateDirectoryLock} {label : String} {bytes : Bytes}
    {bundle : Bundle} {canonical : Bytes} {destination : PathBuf} (works : os.Works now)
    (resolved : os.canonicalizeDirectory config.storage.stateDb = .ok guard.stateDir)
    (opened : StateStore.openExisting os world.disk config.statePath = .ok store)
    (target : config.bundleDestination os world.disk label = .ok destination)
    (parsed : Bundle.fromBytes bytes = .ok bundle)
    (authenticated : ∃ verification,
      authenticateBundle os world.disk bundle config.storage now = .ok verification)
    (profile : validateServingProfile bundle = .ok ())
    (written : bundle.toBytes = .ok canonical) (stands : store.state.Stands bundle) :
    Returns (installBundle os config label bytes guard) world := by
  obtain ⟨verification, authenticated⟩ := authenticated
  have named : store.path.fileName ≠ none := by
    rw [(StateStore.openExisting_eq_ok.mp opened).1,
      PathBuf.fileName_child (by decide) (by decide)]
    exact Option.some_ne_none _
  unfold Returns installBundle prepareInstall systemTime
  simp only [ensures_bind, ensures_get, ensures_modify, ensures_liftM_or_false, ensures_pure]
  refine ⟨(), checkGuard_of_resolved resolved _, destination, target, bundle,
    Except.mapError_eq_ok.mpr parsed, now, Except.mapError_eq_ok.mpr (works.clock _),
    verification, authenticated, (), profile, store, opened, (), stands.checkRollback, (),
    stands.checkContinuity, ?_⟩
  refine (returns_commitInstall works named written).mono ?_
    (fun _ _ impossible => False.elim impossible)
  intro _ after _
  rw [ensures_observing]
  exact Ensures.intro (fun _ _ _ => trivial) (fun _ _ _ => trivial)

end Committed

end Snapshots

end Hoike
