/-
What a load stages, and what a committed operation accepts.

The bundles of one load are checked one after the other against marks that
already include the earlier ones.  `Staged` records exactly that chain; the
specifications say that every committed operation ends with such a chain and
that a failed one leaves the descriptor alone.
-/

import Hoike.Core.StoreSpec

namespace Hoike

open Ahu
open Fallible

variable [Sha2]

/-- Bundles that passed both checks in order, each recorded before the next. -/
inductive Staged (start : StateStore) : List Bundle → StateStore → Prop
  | start : Staged start [] start
  | stage {bundles store bundle} :
      Staged start bundles store → store.checkRollback bundle = .ok () →
        store.checkContinuity bundle = .ok () →
          Staged start (bundles ++ [bundle]) (store.withState (store.state.recordBundle bundle))

theorem Staged.path {start store : StateStore} {bundles : List Bundle}
    (chain : Staged start bundles store) : store.path = start.path := by
  induction chain with
  | start =>
      rfl
  | stage _ _ _ ih =>
      exact ih

theorem Staged.staged {start store : StateStore} {bundles : List Bundle}
    (chain : Staged start bundles store) : store.staged = start.staged := by
  induction chain with
  | start =>
      rfl
  | stage _ _ _ ih =>
      exact ih

theorem Staged.activeBundles {start store : StateStore} {bundles : List Bundle}
    (chain : Staged start bundles store) :
    store.state.activeBundles = start.state.activeBundles := by
  induction chain with
  | start =>
      rfl
  | stage _ _ _ ih =>
      exact (PersistedState.recordBundle_activeBundles _ _).trans ih

theorem ensures_stageBundle {os : Os} {bundle : Bundle} {store : StateStore} {world : World}
    {onOk : Unit → StateStore × World → Prop}
    {onError : CoreError → StateStore × World → Prop} (staged : store.staged = true)
    (accepted : store.checkRollback bundle = .ok () → store.checkContinuity bundle = .ok () →
      onOk () (store.withState (store.state.recordBundle bundle), world))
    (refused : ∀ error, onError error (store, world)) :
    Ensures (stageBundle os bundle) (store, world) onOk onError := by
  unfold stageBundle
  simp only [ensures_bind, ensures_get, ensures_liftM,
    StateStore.ensures_advanceFromBundle_staged staged]
  refine ⟨?_, fun error _ => refused error⟩
  intro _ rollback
  refine ⟨?_, fun error _ => refused error⟩
  intro _ continuity
  exact accepted rollback continuity

variable [Ciborium] [Pki]

/-- The file at a path parses to this bundle, and it is admitted at some
instant. -/
structure Admitted (os : Os) (disk : Disk) (config : Config) (path : PathBuf)
    (bundle : Bundle) : Prop where
  parsed : bundleFromFile os disk path = .ok bundle
  admitted : ∃ now trust, admitBundle os disk bundle config.storage now = .ok trust

theorem ensures_loadAndVerifyBundle {os : Os} {path : PathBuf} {config : Config}
    {world : World} {onOk : Bundle → World → Prop} {onError : CoreError → World → Prop}
    (loaded : ∀ bundle after, Admitted os world.disk config path bundle →
      world.SameDisk after → onOk bundle after)
    (failed : ∀ error after, world.SameDisk after → onError error after) :
    Ensures (loadAndVerifyBundle os path config) world onOk onError := by
  unfold loadAndVerifyBundle
  simp only [ensures_bind, ensures_get, ensures_liftM, ensures_pure]
  refine ⟨?_, fun error _ => failed error _ (.refl world)⟩
  intro bundle parsed
  rw [Except.mapError_eq_ok] at parsed
  refine ensures_systemTime ?_ (fun text => failed _ _ world.sameDisk_tick)
  intro now _
  refine ⟨?_, fun error _ => failed error _ world.sameDisk_tick⟩
  intro trust admitted
  exact loaded bundle _ ⟨parsed, now, trust, admitted⟩ world.sameDisk_tick

theorem ensures_admitAndStage {os : Os} {path : PathBuf} {config : Config}
    {store : StateStore} {world : World} {onOk : Bundle → StateStore × World → Prop}
    {onError : CoreError → StateStore × World → Prop} (staged : store.staged = true)
    (accepted : ∀ bundle after, Admitted os world.disk config path bundle →
      store.checkRollback bundle = .ok () → store.checkContinuity bundle = .ok () →
        world.SameDisk after →
          onOk bundle (store.withState (store.state.recordBundle bundle), after))
    (failed : ∀ error after, world.SameDisk after → onError error (store, after)) :
    Ensures (admitAndStage os path config) (store, world) onOk onError := by
  unfold admitAndStage
  simp only [ensures_bind, ensures_onShared, ensures_pure]
  refine ensures_loadAndVerifyBundle ?_ failed
  intro bundle after admitted same
  refine ensures_stageBundle staged ?_ (fun error => failed error after same)
  intro rollback continuity
  exact accepted bundle after admitted rollback continuity same

/-! ### The configured bundles -/

def Configured (os : Os) (disk : Disk) (config : Config) (bundle : Bundle) : Prop :=
  ∃ paths path, configuredBundlePaths os disk config = .ok paths ∧ path ∈ paths ∧
    bundleFromFile os disk path = .ok bundle

omit [Sha2] [Pki] in
theorem bundleFromFile_eq_ok {os : Os} {disk : Disk} {path : PathBuf} {bundle : Bundle} :
    bundleFromFile os disk path = .ok bundle ↔
      ∃ bytes, os.read disk path = .ok bytes ∧ Bundle.fromBytes bytes = .ok bundle := by
  unfold bundleFromFile
  rw [Except.bind_eq_ok]
  simp only [Except.mapError_eq_ok]

omit [Sha2] [Pki] in
theorem bundleFromFile_of_canonical {os : Os} {disk : Disk} {path path' : PathBuf}
    {bundle bundle' : Bundle} (parsed : bundleFromFile os disk path = .ok bundle)
    (parsed' : bundleFromFile os disk path' = .ok bundle')
    (same : os.canonicalOrSelf disk path = os.canonicalOrSelf disk path') : bundle = bundle' := by
  obtain ⟨bytes, contents, fromBytes⟩ := bundleFromFile_eq_ok.mp parsed
  obtain ⟨bytes', contents', fromBytes'⟩ := bundleFromFile_eq_ok.mp parsed'
  have present : os.fileExists disk path = true := by
    rw [Os.fileExists, (Os.read_eq_ok.mp contents).1]
    rfl
  have present' : os.fileExists disk path' = true := by
    rw [Os.fileExists, (Os.read_eq_ok.mp contents').1]
    rfl
  unfold Os.canonicalOrSelf at same
  rw [if_pos present, if_pos present'] at same
  have place : os.locate path = os.locate path' := congrArg PathBuf.parts same
  have sameBytes : bytes = bytes' := by
    have held := (Os.read_eq_ok.mp contents).1
    rw [place, (Os.read_eq_ok.mp contents').1] at held
    exact (Option.some.inj held).symm
  rw [sameBytes, fromBytes'] at fromBytes
  exact (Except.ok.inj fromBytes).symm

/-- What has been loaded once the paths in `done` have been visited. -/
structure Loaded (os : Os) (disk : Disk) (store : StateStore) (done : List PathBuf)
    (loading : Loading) (current : StateStore) : Prop where
  chain : Staged store loading.bundles current
  known : ∀ canonical idx, loading.loadedPaths.lookup canonical = some idx →
    ∃ path bundle, os.canonicalOrSelf disk path = canonical ∧
      bundleFromFile os disk path = .ok bundle ∧ bundle ∈ loading.bundles
  sound : ∀ bundle ∈ loading.bundles, ∃ path ∈ done, bundleFromFile os disk path = .ok bundle
  complete : ∀ path ∈ done, ∀ bundle, bundleFromFile os disk path = .ok bundle →
    bundle ∈ loading.bundles

omit [Pki] in
theorem Loaded.empty (os : Os) (disk : Disk) (store : StateStore) :
    Loaded os disk store [] Loading.empty store :=
  { chain := .start
    known := by
      intro canonical idx impossible
      cases impossible
    sound := by
      intro bundle impossible
      cases impossible
    complete := by
      intro path impossible
      cases impossible }

omit [Pki] in
theorem Loaded.again {os : Os} {disk : Disk} {store current : StateStore}
    {done : List PathBuf} {loading : Loading} {path : PathBuf} {idx : Nat}
    (loaded : Loaded os disk store done loading current)
    (found : loading.loadedPaths.lookup (os.canonicalOrSelf disk path) = some idx)
    (entries : HashMap ScopeKey (List ScopeEntry)) :
    Loaded os disk store (done ++ [path]) { loading with entries := entries } current := by
  refine ⟨loaded.chain, loaded.known, ?_, ?_⟩
  · intro bundle member
    obtain ⟨earlier, visited, parsed⟩ := loaded.sound bundle member
    exact ⟨earlier, List.mem_append_left _ visited, parsed⟩
  · intro visited member bundle parsed
    rcases List.mem_append.mp member with earlier | last
    · exact loaded.complete visited earlier bundle parsed
    · obtain rfl := List.mem_singleton.mp last
      obtain ⟨first, bundle', canonical, parsed', present⟩ := loaded.known _ _ found
      obtain rfl := bundleFromFile_of_canonical parsed parsed' canonical.symm
      exact present

omit [Pki] in
theorem Loaded.next {os : Os} {disk : Disk} {store current : StateStore}
    {done : List PathBuf} {loading : Loading} {path : PathBuf} {bundle : Bundle}
    (loaded : Loaded os disk store done loading current)
    (parsed : bundleFromFile os disk path = .ok bundle)
    (rollback : current.checkRollback bundle = .ok ())
    (continuity : current.checkContinuity bundle = .ok ())
    (entries : HashMap ScopeKey (List ScopeEntry)) :
    Loaded os disk store (done ++ [path])
      { bundles := loading.bundles ++ [bundle]
        entries := entries
        loadedPaths := loading.loadedPaths.insert (os.canonicalOrSelf disk path)
          loading.bundles.length }
      (current.withState (current.state.recordBundle bundle)) := by
  refine ⟨loaded.chain.stage rollback continuity, ?_, ?_, ?_⟩
  · intro canonical idx found
    by_cases here : canonical = os.canonicalOrSelf disk path
    · exact ⟨path, bundle, here.symm, parsed,
        List.mem_append_right _ (List.mem_singleton_self _)⟩
    · rw [AList.lookup_insert_ne here] at found
      obtain ⟨first, bundle', same, parsed', member⟩ := loaded.known canonical idx found
      exact ⟨first, bundle', same, parsed', List.mem_append_left _ member⟩
  · intro bundle' member
    rcases List.mem_append.mp member with earlier | last
    · obtain ⟨first, visited, parsed'⟩ := loaded.sound bundle' earlier
      exact ⟨first, List.mem_append_left _ visited, parsed'⟩
    · rw [List.mem_singleton.mp last]
      exact ⟨path, List.mem_append_right _ (List.mem_singleton_self _), parsed⟩
  · intro visited member bundle' parsed'
    rcases List.mem_append.mp member with earlier | last
    · exact List.mem_append_left _ (loaded.complete visited earlier bundle' parsed')
    · rw [List.mem_singleton.mp last, parsed] at parsed'
      cases parsed'
      exact List.mem_append_right _ (List.mem_singleton_self _)

theorem ensures_loadCa {os : Os} {config : Config} {loading : Loading}
    {item : CaConfig × PathBuf} {done : List PathBuf} {store current : StateStore}
    {world now : World} {onOk : Loading → StateStore × World → Prop}
    {onError : CoreError → StateStore × World → Prop} (staged : store.staged = true)
    (loaded : Loaded os world.disk store done loading current) (same : world.SameDisk now)
    (visited : ∀ loading' store' after,
      Loaded os world.disk store (done ++ [item.2]) loading' store' →
        world.SameDisk after → onOk loading' (store', after))
    (failed : ∀ error store' after, world.SameDisk after → onError error (store', after)) :
    Ensures (loadCa os config loading item) (current, now) onOk onError := by
  unfold loadCa
  simp only [ensures_bind, ensures_get]
  have sameDisk := same.disk
  cases found : loading.loadedPaths.lookup (os.canonicalOrSelf now.disk item.2) with
  | some idx =>
      rw [sameDisk] at found
      dsimp only
      cases loading.bundles[idx]? with
      | none =>
          exact visited loading current now (loaded.again found loading.entries) same
      | some bundle =>
          exact visited _ current now (loaded.again found _) same
  | none =>
      simp only [ensures_bind, ensures_pure]
      refine ensures_admitAndStage (loaded.chain.staged.trans staged) ?_
        (fun error after later => failed error current after (same.trans later))
      intro bundle after admitted rollback continuity later
      have parsed := admitted.parsed
      rw [sameDisk] at parsed ⊢
      exact visited _ _ after (loaded.next parsed rollback continuity _) (same.trans later)

omit [Sha2] [Pki] in
theorem configuredBundlePaths_sections {os : Os} {disk : Disk} {config : Config}
    {paths : List PathBuf} (sections : config.ca ≠ [])
    (configured : configuredBundlePaths os disk config = .ok paths) :
    paths = config.ca.map config.bundlePath := by
  unfold configuredBundlePaths at configured
  obtain ⟨_, _, rest⟩ := Except.bind_eq_ok.mp configured
  rw [if_neg sections] at rest
  exact (Except.ok.inj rest).symm

omit [Sha2] [Pki] in
theorem configuredBundlePaths_single {os : Os} {disk : Disk} {config : Config}
    {paths : List PathBuf} (unscoped : config.ca = [])
    (configured : configuredBundlePaths os disk config = .ok paths) :
    ∃ path, paths = [path] := by
  unfold configuredBundlePaths at configured
  obtain ⟨_, _, rest⟩ := Except.bind_eq_ok.mp configured
  rw [if_pos unscoped] at rest
  obtain ⟨path, _, same⟩ := Except.bind_eq_ok.mp rest
  exact ⟨path, (Except.ok.inj same).symm⟩

theorem ensures_loadBundles {os : Os} {config : Config} {store : StateStore} {world : World}
    {onOk : Loading → StateStore × World → Prop}
    {onError : CoreError → StateStore × World → Prop} (staged : store.staged = true)
    (loaded : ∀ loading store' after, Staged store loading.bundles store' →
      (∀ bundle, bundle ∈ loading.bundles ↔ Configured os world.disk config bundle) →
        world.SameDisk after → onOk loading (store', after))
    (failed : ∀ error store' after, world.SameDisk after → onError error (store', after)) :
    Ensures (loadBundles os config) (store, world) onOk onError := by
  unfold loadBundles
  simp only [ensures_bind, ensures_get, ensures_liftM]
  refine ⟨?_, fun error _ => failed error store world (.refl world)⟩
  intro paths configured
  have finish : ∀ loading store' after,
      Loaded os world.disk store paths loading store' → world.SameDisk after →
        onOk loading (store', after) := by
    intro loading store' after done same
    refine loaded loading store' after done.chain (fun bundle => ⟨?_, ?_⟩) same
    · intro member
      obtain ⟨path, visited, parsed⟩ := done.sound bundle member
      exact ⟨paths, path, configured, visited, parsed⟩
    · rintro ⟨paths', path, configured', visited, parsed⟩
      obtain rfl : paths = paths' := Except.ok.inj (configured.symm.trans configured')
      exact done.complete path visited bundle parsed
  by_cases unscoped : config.ca = []
  · rw [if_pos unscoped]
    obtain ⟨path, rfl⟩ := configuredBundlePaths_single unscoped configured
    simp only [List.head?_cons, ensures_bind, ensures_pure]
    refine ensures_admitAndStage staged ?_ (fun error after => failed error store after)
    intro bundle after admitted rollback continuity same
    have only := (Loaded.empty os world.disk store).next admitted.parsed rollback continuity
      (registerBundleScopes bundle defaultEntry ∅)
    exact finish _ _ after
      { chain := only.chain
        known := by
          intro canonical idx impossible
          cases impossible
        sound := only.sound
        complete := only.complete } same
  · rw [if_neg unscoped]
    have whole : (config.ca.zip paths).map Prod.snd = paths := by
      rw [configuredBundlePaths_sections unscoped configured]
      exact List.map_snd_zip (by simp)
    refine Ensures.foldlM (fun rest loading current => ∃ done, done ++ rest.map Prod.snd = paths ∧
        Loaded os world.disk store done loading current.1 ∧ world.SameDisk current.2)
      ⟨[], by rw [List.nil_append, whole], .empty os world.disk store, .refl world⟩ ?_ ?_
    · rintro item rest loading ⟨current, now⟩ ⟨done, split, soFar, same⟩
      refine ensures_loadCa staged soFar same ?_ failed
      intro loading' store' after next same'
      exact ⟨done ++ [item.2], by rw [← split]; simp, next, same'⟩
    · rintro loading ⟨current, now⟩ ⟨done, split, all, same⟩
      rw [List.map_nil, List.append_nil] at split
      rw [split] at all
      exact finish loading current now all same

/-! ### The candidate's snapshots -/

/-- The marks and digests are the same; the snapshot references may differ. -/
structure PersistedState.SameMarks (before after : PersistedState) : Prop where
  highWaterMarks : after.highWaterMarks = before.highWaterMarks
  manifestDigests : after.manifestDigests = before.manifestDigests

def StateStore.Bound (os : Os) (store : StateStore) (source : Bundle → Prop) (disk : Disk)
    (state : PersistedState) : Prop :=
  ∀ label path, state.activeBundles.lookup label = some path →
    ∃ bundle, source bundle ∧ StateStore.Snapshotted os store source disk path bundle

omit [Ciborium] [Pki] in
theorem StateStore.Bound.later {os : Os} {store : StateStore} {source : Bundle → Prop}
    {before after : World} {state : PersistedState}
    (bound : StateStore.Bound os store source before.disk state)
    (stashed : StateStore.Stashed (os.realpath store.generations) source before after) :
    StateStore.Bound os store source after.disk state := by
  intro label path referenced
  obtain ⟨bundle, loaded, snapshotted⟩ := bound label path referenced
  exact ⟨bundle, loaded, snapshotted.later stashed⟩

omit [Ciborium] [Pki] in
theorem StateStore.Bound.bind {os : Os} {store : StateStore} {source : Bundle → Prop}
    {before after : World} {state : PersistedState} {label : String} {bundle : Bundle}
    {bytes : Bytes} (bound : StateStore.Bound os store source before.disk state)
    (loaded : source bundle) (serialized : bundle.toBytes = .ok bytes)
    (stored : World.Stored (os.locate (store.snapshotPath bytes)) bytes before after) :
    StateStore.Bound os store source after.disk
      (StateStore.bindLabel state label (store.snapshotPath bytes)) := by
  intro other path referenced
  by_cases same : other = label
  · subst other
    obtain rfl : store.snapshotPath bytes = path :=
      Option.some.inj ((AList.lookup_insert _).symm.trans referenced)
    refine ⟨bundle, loaded, bytes, bytes, serialized, rfl, ?_, ⟨bundle, loaded, serialized⟩, rfl⟩
    rw [stored.files, Function.update_self]
  · have before' : state.activeBundles.lookup other = some path :=
      (AList.lookup_insert_ne same).symm.trans referenced
    exact (bound.later (.of_stored ⟨bundle, loaded, serialized⟩ stored)) other path before'

omit [Sha2] [Ciborium] [Pki] in
theorem StateStore.generations_of_path {store store' : StateStore}
    (same : store'.path = store.path) : store'.generations = store.generations := by
  unfold StateStore.generations
  rw [same]

omit [Ciborium] [Pki] in
theorem ensures_snapshotEntry {os : Os} {bundles : List Bundle} {source : Bundle → Prop}
    {seen : List String} {entry : ScopeEntry} {base store : StateStore} {world : World}
    {onOk : List String → StateStore × World → Prop}
    {onError : CoreError → StateStore × World → Prop}
    (samePath : store.path = base.path) (loaded : ∀ bundle ∈ bundles, source bundle)
    (bound : StateStore.Bound os base source world.disk store.state)
    (done : ∀ seen' state after, store.state.SameMarks state →
      StateStore.Bound os base source after.disk state →
        StateStore.Stashed (os.realpath base.generations) source world after →
          onOk seen' (store.withState state, after))
    (failed : ∀ error after,
      StateStore.Stashed (os.realpath base.generations) source world after →
        onError error (store, after)) :
    Ensures (snapshotEntry os bundles seen entry) (store, world) onOk onError := by
  have skip : ∀ seen', onOk seen' (store, world) := fun seen' =>
    done seen' store.state world ⟨rfl, rfl⟩ bound (.of_sameDisk (.refl world))
  have directory := StateStore.generations_of_path samePath
  have place : ∀ bytes, store.snapshotPath bytes = base.snapshotPath bytes := by
    intro bytes
    rw [StateStore.snapshotPath, StateStore.snapshotPath, directory]
  unfold snapshotEntry
  by_cases known : entry.caLabel ∈ seen
  · rw [if_pos known]
    exact skip seen
  · rw [if_neg known]
    cases found : bundles[entry.bundleIdx]? with
    | none =>
        exact skip seen
    | some bundle =>
        have own := loaded bundle (List.mem_of_getElem? found)
        simp only [ensures_bind, ensures_pure]
        refine StateStore.ensures_snapshot ?_ ?_ ?_
        · intro bytes after serialized stored
          rw [place] at stored ⊢
          exact done _ _ after ⟨rfl, rfl⟩ (bound.bind own serialized stored)
            (.of_stored ⟨bundle, own, serialized⟩ stored)
        · intro error after same
          exact failed error after (.of_sameDisk same)
        · intro bytes error after serialized stored
          rw [place] at stored
          exact failed error after (.of_stored ⟨bundle, own, serialized⟩ stored)

/-- A staged candidate: exactly the bundles of the source were checked in a
chain, and every label is bound to a snapshot of one of them. -/
structure Candidate (os : Os) (source : Bundle → Prop) (store : StateStore) (world : World)
    (bundles : List Bundle) (candidate : StateStore) (after : World) : Prop where
  chain : ∃ marks, Staged store bundles marks ∧ marks.state.SameMarks candidate.state
  exactly : ∀ bundle, bundle ∈ bundles ↔ source bundle
  bound : StateStore.Bound os store source after.disk candidate.state
  path : candidate.path = store.path
  stashed : StateStore.Stashed (os.realpath store.generations) source world after

omit [Ciborium] [Pki] in
theorem StateStore.bound_empty (os : Os) (store : StateStore) (source : Bundle → Prop)
    (disk : Disk) {state : PersistedState} (none : state.activeBundles = ∅) :
    StateStore.Bound os store source disk state := by
  intro label path referenced
  rw [none] at referenced
  cases referenced

theorem ensures_loadScopeMapCandidate {os : Os} {config : Config} {store : StateStore}
    {world : World} {onOk : ScopeMap → StateStore × World → Prop}
    {onError : CoreError → StateStore × World → Prop} (staged : store.staged = true)
    (unbound : store.state.activeBundles = ∅)
    (loaded : ∀ map candidate after,
      Candidate os (Configured os world.disk config) store world map.bundles candidate after →
        onOk map (candidate, after))
    (failed : ∀ error candidate after,
      StateStore.Stashed (os.realpath store.generations) (Configured os world.disk config)
        world after → onError error (candidate, after)) :
    Ensures (loadScopeMapCandidate os config) (store, world) onOk onError := by
  unfold loadScopeMapCandidate
  simp only [ensures_bind, ensures_pure]
  refine ensures_loadBundles staged ?_
    (fun error candidate after same => failed error candidate after (.of_sameDisk same))
  intro loading marks middle chain exactly same
  have unboundMarks : marks.state.activeBundles = ∅ := chain.activeBundles.trans unbound
  refine Ensures.foldlM (fun _ _ current =>
    marks.state.SameMarks current.1.state ∧ current.1.path = store.path ∧
      StateStore.Bound os store (Configured os world.disk config) current.2.disk
        current.1.state ∧
        StateStore.Stashed (os.realpath store.generations) (Configured os world.disk config)
          world current.2)
    ⟨⟨rfl, rfl⟩, chain.path, StateStore.bound_empty os store _ _ unboundMarks,
      .of_sameDisk same⟩ ?_ ?_
  · rintro entry _ seen ⟨current, now⟩ ⟨marksKept, samePath, bound, stashed⟩
    refine ensures_snapshotEntry samePath (fun bundle member => (exactly bundle).mp member)
      bound ?_ ?_
    · intro _ state after kept bound' later
      exact ⟨⟨kept.highWaterMarks.trans marksKept.highWaterMarks,
        kept.manifestDigests.trans marksKept.manifestDigests⟩, samePath, bound',
        stashed.trans later⟩
    · intro error after later
      exact failed error current after (stashed.trans later)
  · rintro _ ⟨current, now⟩ ⟨marksKept, samePath, bound, stashed⟩
    exact loaded _ current now ⟨⟨marks, chain, marksKept⟩, exactly, bound, samePath, stashed⟩

/-! ### Attempts to commit -/

/-- How an operation that stages the bundles of a source onto `base` and commits
into `store` can end.  A refusal changes no descriptor.  An indeterminate commit
has written the descriptor although the store in memory keeps the old state. -/
inductive Attempt (os : Os) (source : Bundle → Prop) (base store : StateStore)
    (world : World) : Except CoreError (List Bundle) → StateStore × World → Prop
  | refused {error after} :
      StateStore.Stashed (os.realpath store.generations) source world after →
        Attempt os source base store world (.error error) (store, after)
  | uncertain {bundles candidate middle ioError reason} :
      Candidate os source base world bundles candidate middle →
        os.writeOutcome middle.calls store.path = .directoryNotSynced ioError →
          Attempt os source base store world
            (.error (.durabilityUncertain store.path reason))
            (store, StateStore.written os candidate middle)
  | committed {bundles candidate middle} :
      Candidate os source base world bundles candidate middle →
        Attempt os source base store world (.ok bundles)
          (store.withState candidate.state, StateStore.committed os store candidate middle)

omit [Ciborium] [Pki] in
theorem ensures_commit_attempt {os : Os} {source : Bundle → Prop} (base store : StateStore)
    (world : World) (bundles : List Bundle) {candidate : StateStore} {middle : World}
    (samePath : base.path = store.path)
    (staged : Candidate os source base world bundles candidate middle)
    {onOk : Unit → StateStore × World → Prop}
    {onError : CoreError → StateStore × World → Prop}
    (committed : ∀ after, Attempt os source base store world (.ok bundles) after →
      onOk () after)
    (failed : ∀ error after, Attempt os source base store world (.error error) after →
      onError error after) :
    Ensures (StateStore.commit os candidate) (store, middle) onOk onError := by
  have path : candidate.path = store.path := staged.path.trans samePath
  have stashed := staged.stashed
  rw [StateStore.generations_of_path samePath] at stashed
  refine StateStore.ensures_commit ?_ ?_ ?_
  · intro _
    exact committed _ (.committed staged)
  · intro error _
    exact failed error _ (.refused (stashed.trans (.of_sameDisk middle.sameDisk_tick)))
  · intro ioError reason unsynced
    rw [path] at unsynced ⊢
    exact failed _ _ (.uncertain staged unsynced)

/-- The candidate of a full load: marks carried over, references dropped. -/
def StateStore.emptied (store : StateStore) : StateStore :=
  store.transaction.clearActiveBundles

theorem ensures_loadScopeMap {os : Os} {config : Config} {store : StateStore} {world : World} :
    Ensures (loadScopeMap os config) (store, world)
      (fun map after => Attempt os (Configured os world.disk config) store.emptied store world
        (.ok map.bundles) after)
      (fun error after => Attempt os (Configured os world.disk config) store.emptied store world
        (.error error) after) := by
  unfold loadScopeMap
  simp only [ensures_bind, ensures_get, ensures_onShared, ensures_withLocal, ensures_pure]
  refine ensures_loadScopeMapCandidate rfl rfl ?_ ?_
  · intro map candidate middle staged
    exact ensures_commit_attempt store.emptied store world map.bundles rfl staged
      (fun _ attempt => attempt) (fun _ _ attempt => attempt)
  · intro error candidate after stashed
    exact .refused stashed

theorem ensures_recoverDefault {os : Os} {config : Config} {path : PathBuf}
    {store : StateStore} {world : World} :
    Ensures (recoverDefault os config path) (store, world)
      (fun map after => Attempt os (fun bundle => bundleFromFile os world.disk path = .ok bundle)
        store.emptied store world (.ok map.bundles) after)
      (fun error after => Attempt os
        (fun bundle => bundleFromFile os world.disk path = .ok bundle)
        store.emptied store world (.error error) after) := by
  unfold recoverDefault
  simp only [ensures_bind, ensures_get, ensures_onShared, ensures_withLocal, ensures_pure]
  refine ensures_admitAndStage rfl ?_
    (fun error after same => .refused (.of_sameDisk same))
  intro bundle middle admitted rollback continuity same
  have parsed := admitted.parsed
  refine StateStore.ensures_snapshot ?_ ?_ ?_
  · intro bytes after serialized stored
    have canonical : StateStore.Canonical
        (fun bundle => bundleFromFile os world.disk path = .ok bundle) bytes :=
      ⟨bundle, parsed, serialized⟩
    refine ensures_commit_attempt store.emptied store world [bundle] rfl ?_
      (fun _ attempt => attempt) (fun _ _ attempt => attempt)
    refine ⟨⟨store.emptied.withState (store.emptied.state.recordBundle bundle),
      Staged.start.stage rollback continuity, ?_⟩, ?_, ?_, ?_, ?_⟩
    · exact ⟨rfl, rfl⟩
    · intro bundle'
      rw [List.mem_singleton, parsed]
      exact ⟨fun same => by rw [same], fun same => (Except.ok.inj same).symm⟩
    · exact (StateStore.bound_empty os store.emptied _ _
        (PersistedState.recordBundle_activeBundles _ _)).bind parsed serialized stored
    · rfl
    · exact (StateStore.Stashed.of_sameDisk same).trans (.of_stored canonical stored)
  · intro error after later
    exact .refused (.of_sameDisk (same.trans later))
  · intro bytes error after serialized stored
    exact .refused ((StateStore.Stashed.of_sameDisk same).trans
      (.of_stored ⟨bundle, parsed, serialized⟩ stored))

def Recoverable (os : Os) (disk : Disk) (store : StateStore) (bundle : Bundle) : Prop :=
  ∃ label path, store.state.activeBundles.lookup label = some path ∧
    bundleFromFile os disk path = .ok bundle

/-- What a recovery works on: some labels are bound, and the bundles it reads
are theirs. -/
structure Recovering (os : Os) (store : StateStore) (world : World) (source : Bundle → Prop) :
    Prop where
  bound : store.state.activeBundles.entries ≠ []
  recoverable : ∀ bundle, source bundle → Recoverable os world.disk store bundle

omit [Sha2] [Pki] in
theorem Configured.recoverable {os : Os} {disk : Disk} {config recovery : Config}
    {store : StateStore} {bundle : Bundle} (sections : config.ca ≠ [])
    (recovered : recoveryConfig config store.state.activeBundles = .ok recovery)
    (configured : Configured os disk recovery bundle) : Recoverable os disk store bundle := by
  obtain ⟨entries, named, same⟩ := Except.bind_eq_ok.mp recovered
  cases same
  obtain ⟨paths, path, found, member, parsed⟩ := configured
  have sectionsKept : entries ≠ [] := by
    rintro rfl
    exact sections (List.forall₂_nil_right_iff.mp (Except.mapM_eq_ok.mp named))
  rw [configuredBundlePaths_sections sectionsKept found] at member
  obtain ⟨entry, kept, rfl⟩ := List.mem_map.mp member
  obtain ⟨ca, _, renamed⟩ := Except.exists_of_mem_mapM named kept
  cases active : store.state.activeBundles.lookup ca.label with
  | none =>
      rw [active] at renamed
      cases renamed
  | some path =>
      rw [active] at renamed
      cases renamed
      exact ⟨ca.label, path, active, parsed⟩

/-- Start-up makes one attempt on the configured bundles, or after that has
failed a second one on the committed snapshots. -/
theorem ensures_loadOrRecover {os : Os} {config : Config} {store : StateStore}
    {world : World} {onOk : ScopeMap → StateStore × World → Prop}
    {onError : CoreError → StateStore × World → Prop}
    (first : ∀ map after,
      Attempt os (Configured os world.disk config) store.emptied store world (.ok map.bundles)
        after → onOk map after)
    (gaveUp : ∀ error error' after,
      Attempt os (Configured os world.disk config) store.emptied store world (.error error)
        after → onError error' after)
    (second : ∀ source error middle map after, Recovering os store middle source →
        Attempt os (Configured os world.disk config) store.emptied store world (.error error)
          (store, middle) →
          Attempt os source store.emptied store middle (.ok map.bundles) after → onOk map after)
    (failed : ∀ source error middle error' after, Recovering os store middle source →
        Attempt os (Configured os world.disk config) store.emptied store world (.error error)
          (store, middle) →
          Attempt os source store.emptied store middle (.error error') after →
            onError error' after) :
    Ensures (loadOrRecover os config) (store, world) onOk onError := by
  unfold loadOrRecover
  rw [ensures_bind, ensures_observing]
  refine ensures_loadScopeMap.mono (fun map after attempt => first map after attempt) ?_
  intro original after attempt
  obtain ⟨middle, rfl⟩ : ∃ middle, after = (store, middle) := by
    cases attempt with
    | refused _ =>
        exact ⟨_, rfl⟩
    | uncertain _ _ =>
        exact ⟨_, rfl⟩
  have again : ∀ (source : Bundle → Prop) (action : StoreEffect ScopeMap),
      Recovering os store middle source →
        Ensures action (store, middle)
          (fun map after => Attempt os source store.emptied store middle (.ok map.bundles) after)
          (fun error after => Attempt os source store.emptied store middle (.error error)
            after) →
          Ensures action (store, middle) onOk onError := by
    intro source action recovering spec
    exact spec.mono
      (fun map after later => second source _ middle map after recovering attempt later)
      (fun error after later => failed source _ middle error after recovering attempt later)
  simp only [ensures_bind, ensures_get]
  split_ifs with unbound single
  · exact gaveUp original original _ attempt
  · cases active : store.state.activeBundles.lookup "default" with
    | none =>
        exact gaveUp original original _ attempt
    | some path =>
        exact again _ _ ⟨unbound, fun bundle parsed => ⟨_, path, active, parsed⟩⟩
          ensures_recoverDefault
  · simp only [ensures_bind, ensures_liftM]
    refine ⟨?_, fun error _ => gaveUp original error _ attempt⟩
    intro recovery recovered
    exact again _ _ ⟨unbound, fun bundle configured => configured.recoverable single recovered⟩
      ensures_loadScopeMap

omit [Sha2] [Ciborium] [Pki] in
theorem checkGuard_eq_ok {os : Os} {config : Config} {guard : StateDirectoryLock}
    {mismatch : String → String → String} {value : Unit}
    (checked : checkGuard os config guard mismatch = .ok value) :
    os.realpath config.storage.stateDb = guard.stateDir := by
  unfold checkGuard at checked
  obtain ⟨stateDir, resolved, same⟩ := Except.bind_eq_ok.mp checked
  rw [Except.mapError_eq_ok] at resolved
  unfold Os.canonicalizeDirectory at resolved
  split at resolved
  · cases resolved
  · cases resolved
    exact (Except.require_eq_ok.mp same).symm

abbrev Config.statePath (config : Config) : PathBuf :=
  config.storage.stateDb.child "state.json"

theorem ensures_load {os : Os} {config : Config} {guard : StateDirectoryLock} {world : World}
    {onOk : ResponderState → World → Prop} {onError : CoreError → World → Prop}
    (refused : ∀ error, onError error world)
    (opened : ∀ store, os.realpath config.storage.stateDb = guard.stateDir →
      StateStore.openExisting os world.disk config.statePath = .ok store →
        Ensures (loadOrRecover os config) (store, world)
          (fun map after => onOk
            { scopeMap := map
              config := config
              stateStore := after.1
              writerGuard := guard } after.2)
          (fun error after => onError error after.2)) :
    Ensures (load os config guard) world onOk onError := by
  unfold load
  simp only [ensures_bind, ensures_liftM, ensures_get, ensures_withLocal, ensures_pure]
  refine ⟨?_, fun error _ => refused error⟩
  intro _ guarded
  refine ⟨?_, fun error _ => refused error⟩
  intro store openedStore
  exact opened store (checkGuard_eq_ok guarded) openedStore

theorem ensures_reload {os : Os} {responder : ResponderState} {world : World}
    {onOk : Unit → ResponderState × World → Prop}
    {onError : CoreError → ResponderState × World → Prop}
    (reloaded : ∀ map after,
      Attempt os (Configured os world.disk responder.config) responder.stateStore.emptied
        responder.stateStore world (.ok map.bundles) after →
          onOk () ({ responder with stateStore := after.1, scopeMap := map }, after.2))
    (failed : ∀ error after,
      Attempt os (Configured os world.disk responder.config) responder.stateStore.emptied
        responder.stateStore world (.error error) after →
          onError error ({ responder with stateStore := after.1 }, after.2)) :
    Ensures (reload os) (responder, world) onOk onError := by
  unfold reload
  simp only [ensures_bind, ensures_get, ensures_zoom, ensures_modify]
  exact ensures_loadScopeMap.mono reloaded failed

/-! ### Installation -/

omit [Sha2] [Ciborium] [Pki] in
theorem Config.bundleDestination_eq_ok {os : Os} {disk : Disk} {config : Config}
    {label : String} {destination : PathBuf} :
    config.bundleDestination os disk label = .ok destination ↔
      isSafeLabel label = true ∧
        ∃ ca, config.ca.find? (·.label = label) = some ca ∧
          destination = config.bundlePath ca ∧
            ∀ other ∈ config.ca, other.label ≠ label →
              os.canonicalOrSelf disk (config.bundlePath other) ≠
                os.canonicalOrSelf disk (config.bundlePath ca) := by
  unfold Config.bundleDestination
  simp only [Except.bind_eq_ok, Except.require_eq_ok]
  cases found : config.ca.find? (·.label = label) with
  | none =>
      simp [throw, throwThe, MonadExceptOf.throw]
  | some ca =>
      have sections : config.ca ≠ [] := by
        intro empty
        rw [empty] at found
        cases found
      dsimp only
      cases clash : config.ca.find? (fun other => decide (other.label ≠ label ∧
          os.canonicalOrSelf disk (config.bundlePath other) =
            os.canonicalOrSelf disk (config.bundlePath ca))) with
      | none =>
          rw [List.find?_eq_none] at clash
          simp only [decide_eq_true_eq, not_and] at clash
          constructor
          · rintro ⟨_, _, _, safe, same⟩
            exact ⟨safe, ca, rfl, (Except.ok.inj same).symm, clash⟩
          · rintro ⟨safe, _, ⟨⟩, rfl, _⟩
            exact ⟨(), sections, (), safe, rfl⟩
      | some other =>
          have twin := List.find?_some clash
          simp only [decide_eq_true_eq] at twin
          constructor
          · rintro ⟨_, _, _, _, impossible⟩
            cases impossible
          · rintro ⟨_, _, ⟨⟩, _, separate⟩
            exact absurd twin.2 (separate other (List.mem_of_find?_eq_some clash) twin.1)

/-- What `prepare` establishes before anything is staged. -/
structure Prepared (os : Os) (config : Config) (label : String) (bytes : Bytes)
    (guard : StateDirectoryLock) (disk : Disk) (destination : PathBuf) (bundle : Bundle)
    (store : StateStore) : Prop where
  guarded : os.realpath config.storage.stateDb = guard.stateDir
  destination : config.bundleDestination os disk label = .ok destination
  parsed : Bundle.fromBytes bytes = .ok bundle
  authenticated : ∃ now verification,
    authenticateBundle os disk bundle config.storage now = .ok verification
  profile : validateServingProfile bundle = .ok ()
  opened : StateStore.openExisting os disk config.statePath = .ok store

theorem ensures_prepareInstall {os : Os} {config : Config} {label : String} {bytes : Bytes}
    {guard : StateDirectoryLock} {world : World}
    {onOk : PathBuf × Bundle × StateStore → World → Prop}
    {onError : CoreError → World → Prop}
    (prepared : ∀ destination bundle store,
      Prepared os config label bytes guard world.disk destination bundle store →
        onOk (destination, bundle, store) world.tick)
    (refused : ∀ error after, world.SameDisk after → onError error after) :
    Ensures (prepareInstall os config label bytes guard) world onOk onError := by
  unfold prepareInstall
  simp only [ensures_bind, ensures_liftM, ensures_get, ensures_pure]
  refine ⟨?_, fun error _ => refused error _ (.refl world)⟩
  intro _ guarded
  refine ⟨?_, fun error _ => refused error _ (.refl world)⟩
  intro destination resolved
  refine ⟨?_, fun error _ => refused error _ (.refl world)⟩
  intro bundle parsed
  refine ensures_systemTime ?_ (fun text => refused _ _ world.sameDisk_tick)
  intro now _
  refine ⟨?_, fun error _ => refused error _ world.sameDisk_tick⟩
  intro verification authenticated
  refine ⟨?_, fun error _ => refused error _ world.sameDisk_tick⟩
  intro _ profile
  refine ⟨?_, fun error _ => refused error _ world.sameDisk_tick⟩
  intro store opened
  exact prepared destination bundle store
    { guarded := checkGuard_eq_ok guarded
      destination := resolved
      parsed := Except.mapError_eq_ok.mp parsed
      authenticated := ⟨now, verification, authenticated⟩
      profile := profile
      opened := opened }

def installCandidate (store : StateStore) (label : String) (bundle : Bundle) (bytes : Bytes) :
    StateStore :=
  store.transaction.withState (StateStore.bindLabel (store.state.recordBundle bundle) label
    (store.snapshotPath bytes))

omit [Ciborium] [Pki] in
theorem ensures_commitInstall {os : Os} {label : String} {bundle : Bundle}
    {store : StateStore} {world : World} {onOk : Unit → World → Prop}
    {onError : CoreError → World → Prop}
    (committed : ∀ canonical middle, bundle.toBytes = .ok canonical →
      World.Stored (os.locate (store.snapshotPath canonical)) canonical world middle →
        onOk () (StateStore.committed os store (installCandidate store label bundle canonical)
          middle))
    (refused : ∀ error after,
      StateStore.Stashed (os.realpath store.generations) (Eq bundle) world after →
        onError error after)
    (uncertain : ∀ canonical middle ioError reason, bundle.toBytes = .ok canonical →
      World.Stored (os.locate (store.snapshotPath canonical)) canonical world middle →
        os.writeOutcome middle.calls store.path = .directoryNotSynced ioError →
          onError (.durabilityUncertain store.path reason)
            (StateStore.written os (installCandidate store label bundle canonical) middle)) :
    Ensures (commitInstall os label bundle store) world onOk onError := by
  unfold commitInstall
  simp only [ensures_bind, ensures_withLocal, ensures_pure]
  rw [StateStore.ensures_advanceFromBundle_staged rfl]
  refine StateStore.ensures_snapshot ?_ ?_ ?_
  · intro canonical middle serialized stored
    refine StateStore.ensures_commit ?_ ?_ ?_
    · intro _
      exact committed canonical middle serialized stored
    · intro error _
      exact refused error _ ((StateStore.Stashed.of_stored ⟨bundle, rfl, serialized⟩ stored).trans
        (.of_sameDisk middle.sameDisk_tick))
    · intro ioError reason unsynced
      exact uncertain canonical middle ioError reason serialized stored unsynced
  · intro error after same
    exact refused error after (.of_sameDisk same)
  · intro canonical error after serialized stored
    exact refused error after (.of_stored ⟨bundle, rfl, serialized⟩ stored)

abbrev Config.generations (config : Config) : PathBuf :=
  config.storage.stateDb.child "generations"

theorem Prepared.generations {os : Os} {config : Config} {label : String} {bytes : Bytes}
    {guard : StateDirectoryLock} {disk : Disk} {destination : PathBuf} {bundle : Bundle}
    {store : StateStore}
    (prepared : Prepared os config label bytes guard disk destination bundle store) :
    store.generations = config.generations := by
  unfold StateStore.generations
  rw [(StateStore.openExisting_eq_ok.mp prepared.opened).1, PathBuf.parent_child]

def Published (os : Os) (destination : PathBuf) (bytes : Bytes) (before after : World) : Prop :=
  before.SameDisk after ∨ World.Stored (os.locate destination) bytes before after

omit [Sha2] [Ciborium] [Pki] in
theorem Published.elsewhere {os : Os} {destination : PathBuf} {bytes : Bytes}
    {before after : World} (published : Published os destination bytes before after)
    {place : RealPath} (apart : place ≠ os.locate destination) :
    after.disk.contents place = before.disk.contents place := by
  rcases published with same | stored
  · rw [same.disk]
  · exact stored.elsewhere place apart

omit [Sha2] [Ciborium] [Pki] in
theorem Published.files {os : Os} {destination : PathBuf} {bytes : Bytes} {before after : World}
    (published : Published os destination bytes before after) {place : RealPath}
    (apart : place ≠ os.locate destination) :
    after.disk.files place = before.disk.files place := by
  unfold Disk.files
  rw [published.elsewhere apart]

/-- Everything that holds when an installation reaches its commit. -/
structure Installing (os : Os) (config : Config) (label : String) (bytes : Bytes)
    (guard : StateDirectoryLock) (world : World) (destination : PathBuf) (bundle : Bundle)
    (store : StateStore) (canonical : Bytes) (middle : World) : Prop
    extends Prepared os config label bytes guard world.disk destination bundle store where
  rollback : store.checkRollback bundle = .ok ()
  continuity : store.checkContinuity bundle = .ok ()
  serialized : bundle.toBytes = .ok canonical
  stored : World.Stored (os.locate (store.snapshotPath canonical)) canonical world middle

theorem ensures_installBundle {os : Os} {config : Config} {label : String} {bytes : Bytes}
    {guard : StateDirectoryLock} {world : World} {onOk : InstallResult → World → Prop}
    {onError : CoreError → World → Prop}
    (installed : ∀ destination bundle store canonical middle result after,
      Installing os config label bytes guard world destination bundle store canonical middle →
        Published os destination bytes (StateStore.committed os store
          (installCandidate store label bundle canonical) middle) after →
            onOk result after)
    (refused : ∀ error after,
      StateStore.Stashed (os.realpath config.generations)
        (fun bundle => Bundle.fromBytes bytes = .ok bundle) world after →
        onError error after)
    (uncertain : ∀ destination bundle store canonical middle ioError reason,
      Installing os config label bytes guard world destination bundle store canonical middle →
        os.writeOutcome middle.calls store.path = .directoryNotSynced ioError →
          onError (.durabilityUncertain store.path reason)
            (StateStore.written os (installCandidate store label bundle canonical) middle)) :
    Ensures (installBundle os config label bytes guard) world onOk onError := by
  unfold installBundle
  simp only [ensures_bind, ensures_liftM]
  refine ensures_prepareInstall ?_
    (fun error after same => refused error after (.of_sameDisk same))
  intro destination bundle store prepared
  refine ⟨?_, fun error _ => refused error _ (.of_sameDisk world.sameDisk_tick)⟩
  intro _ rollback
  refine ⟨?_, fun error _ => refused error _ (.of_sameDisk world.sameDisk_tick)⟩
  intro _ continuity
  have installing : ∀ canonical middle, bundle.toBytes = .ok canonical →
      World.Stored (os.locate (store.snapshotPath canonical)) canonical world.tick middle →
        Installing os config label bytes guard world destination bundle store canonical
          middle := by
    intro canonical middle serialized stored
    exact
      { toPrepared := prepared
        rollback := rollback
        continuity := continuity
        serialized := serialized
        stored := World.Stored.of_sameDisk world.sameDisk_tick stored }
  refine ensures_commitInstall ?_ ?_ ?_
  · intro canonical middle serialized stored
    have facts := installing canonical middle serialized stored
    rw [ensures_observing]
    refine ensures_writeAtomic ?_ ?_ ?_
    · intro _ _
      exact installed destination bundle store canonical middle _ _ facts
        (Or.inr (World.stored_putFile (World.sameDisk_tick _)))
    · intro error _
      exact installed destination bundle store canonical middle _ _ facts
        (Or.inl (World.sameDisk_tick _))
    · intro _ reason _
      exact installed destination bundle store canonical middle _ _ facts
        (Or.inr (World.stored_putFile (World.sameDisk_tick _)))
  · intro error after stashed
    rw [prepared.generations] at stashed
    exact refused error after ((StateStore.Stashed.of_sameDisk world.sameDisk_tick).trans
      (stashed.mono (by rintro _ rfl; exact prepared.parsed)))
  · intro canonical middle ioError reason serialized stored unsynced
    exact uncertain destination bundle store canonical middle ioError reason
      (installing canonical middle serialized stored) unsynced

theorem installBundle_eq_ok {os : Os} {config : Config} {label : String} {bytes : Bytes}
    {guard : StateDirectoryLock} {world after : World} {result : InstallResult}
    (ran : (installBundle os config label bytes guard).outcome world = (.ok result, after)) :
    ∃ destination bundle store canonical middle,
      Installing os config label bytes guard world destination bundle store canonical middle ∧
        Published os destination bytes (StateStore.committed os store
          (installCandidate store label bundle canonical) middle) after := by
  have spec : Ensures (installBundle os config label bytes guard) world
      (fun _ after => ∃ destination bundle store canonical middle,
        Installing os config label bytes guard world destination bundle store canonical middle ∧
          Published os destination bytes (StateStore.committed os store
            (installCandidate store label bundle canonical) middle) after)
      (fun _ _ => True) :=
    ensures_installBundle
      (fun destination bundle store canonical middle _ _ installing published =>
        ⟨destination, bundle, store, canonical, middle, installing, published⟩)
      (fun _ _ _ => trivial) (fun _ _ _ _ _ _ _ _ _ => trivial)
  exact spec.of_ok ran

end Hoike
