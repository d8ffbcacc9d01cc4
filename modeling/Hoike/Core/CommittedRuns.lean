/-
Runs of successful operations, and what the next operation can make of them.

Installations, starts and reloads of one configuration keep every reference of the
descriptor on a canonical snapshot within the marks, so the store always opens.
Whether the committed bundles load again is decided by whether they stand.
-/

import Hoike.Core.Isolation
import Hoike.Core.Reloadable

namespace Hoike

open Ahu
open Fallible

/-! ### The store between operations -/

/-- A later process on the same machine: paths lead where they led. -/
structure Os.SamePlaces (os later : Os) : Prop where
  cwd : later.cwd = os.cwd
  links : later.links = os.links

theorem Os.SamePlaces.realpath {os later : Os} (same : os.SamePlaces later) (path : PathBuf) :
    later.realpath path = os.realpath path := by
  unfold Os.realpath Os.enter
  rw [same.cwd, same.links]

theorem Os.SamePlaces.locate {os later : Os} (same : os.SamePlaces later) (path : PathBuf) :
    later.locate path = os.locate path := by
  unfold Os.locate
  cases path.parts.getLast? with
  | none =>
      exact same.realpath path
  | some name =>
      dsimp only
      rw [same.realpath]

section Store

variable [Sha2]

theorem Staged.paired {start store : StateStore} {bundles : List Bundle}
    (chain : Staged start bundles store) (paired : start.state.Paired) :
    store.state.Paired := by
  induction chain with
  | start =>
      exact paired
  | stage _ _ _ ih =>
      exact ih.recordBundle _

theorem Staged.holds {start store : StateStore} {bundles : List Bundle}
    (chain : Staged start bundles store) {bundle : Bundle} (member : bundle ∈ bundles) :
    store.state.Holds bundle := by
  induction chain with
  | start =>
      cases member
  | stage _ rollback _ ih =>
      rcases List.mem_append.mp member with earlier | last
      · exact (ih earlier).of_marksKept (PersistedState.marksKept_recordBundle _ _)
      · rw [List.mem_singleton.mp last]
        exact PersistedState.holds_recordBundle rollback

omit [Sha2] in
theorem PersistedState.Holds.of_sameContent {state : PersistedState} {left right : Bundle}
    (holds : state.Holds left) (same : left.SameContent right) : state.Holds right := by
  rw [same.eq_with_header]
  exact holds

variable [Ciborium]

/-- A referenced snapshot: the canonical form of a bundle that no mark lies below,
under the spelling of the configuration. -/
structure SnapshotKept (os : Os) (config : Config) (disk : Disk) (state : PersistedState)
    (path : PathBuf) (bytes : Bytes) (bundle : Bundle) : Prop where
  spelled : path = config.generations.child (StateStore.snapshotName bytes)
  contents : disk.files (os.locate path) = some bytes
  parsed : Bundle.fromBytes bytes = .ok bundle
  written : bundle.toBytes = .ok bytes
  holds : state.Holds bundle

/-- The descriptor decodes to this state, whose marks are paired and whose
references are all kept. -/
structure Kept (os : Os) (config : Config) (disk : Disk) (state : PersistedState) : Prop where
  descriptor : disk.states (os.locate config.statePath) = some (.parsed state)
  paired : state.Paired
  snapshots : ∀ label path, state.activeBundles.lookup label = some path →
    ∃ bytes bundle, SnapshotKept os config disk state path bytes bundle

omit [Ciborium] in
theorem namedByDigest_child (directory : PathBuf) (bytes : Bytes) :
    NamedByDigest (directory.child (StateStore.snapshotName bytes)) bytes := by
  refine ⟨StateStore.snapshotName bytes, StateStore.fileName_snapshot _ _, ?_⟩
  rw [(StateStore.fileParts_snapshotName bytes).1, Bytes.decodeHex_encodeHex]

theorem Kept.opens {os : Os} {config : Config} {disk : Disk} {state : PersistedState}
    (kept : Kept os config disk state) (readable : ∀ place, os.unreadable place = false) :
    StateStore.openExisting os disk config.statePath =
      .ok { path := config.statePath, state := state, staged := false } := by
  refine StateStore.openExisting_eq_ok_iff.mpr
    ⟨rfl, rfl, kept.descriptor, kept.paired, ?_⟩
  intro label path referenced
  obtain ⟨bytes, bundle, snapshot⟩ := kept.snapshots label path referenced
  refine ⟨bundle, ⟨bytes, Os.read_eq_ok.mpr ⟨snapshot.contents, readable _⟩, ?_,
    snapshot.parsed⟩, snapshot.holds⟩
  rw [snapshot.spelled]
  exact namedByDigest_child _ _

theorem Kept.opened {os later : Os} {config : Config} {disk : Disk} {state : PersistedState}
    (kept : Kept os config disk state) (places : os.SamePlaces later) {store : StateStore}
    (opened : StateStore.openExisting later disk config.statePath = .ok store) :
    store.path = config.statePath ∧ store.state = state := by
  obtain ⟨path, _, found, _⟩ := StateStore.openExisting_eq_ok.mp opened
  unfold Os.readState at found
  rw [places.locate, kept.descriptor] at found
  cases found
  exact ⟨path, rfl⟩

end Store

/-! ### One operation -/

section Operations

variable [Sha2] [Ciborium] [Pki]

/-- No configured file is the descriptor or lies among the snapshots. -/
structure FilesApart (os : Os) (config : Config) : Prop where
  descriptor : ∀ ca ∈ config.ca, os.locate (config.bundlePath ca) ≠ os.locate config.statePath
  snapshots : ∀ ca ∈ config.ca, ∀ name,
    os.locate (config.bundlePath ca) ≠ os.realpath config.generations ++ [name]

theorem Kept.install {os later : Os} {config : Config} {guard : StateDirectoryLock}
    {label : String} {bytes : Bytes} {world after : World} {result : InstallResult}
    {state : PersistedState} (kept : Kept os config world.disk state)
    (places : os.SamePlaces later) (apart : FilesApart os config)
    (ran : (installBundle later config label bytes guard).outcome world = (.ok result, after)) :
    ∃ state', Kept os config after.disk state' := by
  obtain ⟨destination, bundle, store, canonical, middle, installing, published⟩ :=
    installBundle_eq_ok ran
  obtain ⟨path, rfl⟩ := kept.opened places installing.opened
  obtain ⟨_, ca, chosen, rfl, _⟩ := Config.bundleDestination_eq_ok.mp installing.destination
  have directory := installing.generations
  obtain ⟨snapshot, parsed, same, again⟩ :=
    Bundle.parse_of_written installing.parsed installing.serialized
  have holds : (installCandidate store label bundle canonical).state.Holds snapshot :=
    (installCandidate_holds installing.rollback).of_sameContent same
  have configured := List.mem_of_find?_eq_some chosen
  -- A reference in this spelling is neither collected nor overwritten by the published file.
  have files : ∀ other name, StateStore.isGenerated name = true →
      (installCandidate store label bundle canonical).state.activeBundles.lookup other =
        some (config.generations.child name) →
      after.disk.files (os.locate (config.generations.child name)) =
        Function.update world.disk.files (os.locate (store.snapshotPath canonical))
          (some canonical) (os.locate (config.generations.child name)) := by
    intro other name generated referenced
    have elsewhere : os.locate (config.generations.child name) ≠
        os.locate (config.bundlePath ca) := by
      rw [Os.locate_child]
      exact fun here => apart.snapshots ca configured name here.symm
    have unwritten : later.locate (store.generations.child name) ≠
        later.locate (installCandidate store label bundle canonical).path := by
      change _ ≠ later.locate store.path
      rw [path, Os.locate_child]
      exact StateStore.generated_ne_statePath generated
    rw [← directory] at referenced elsewhere ⊢
    simp only [← places.locate] at elsewhere ⊢
    rw [published.files elsewhere, StateStore.committed_files_referenced unwritten referenced,
      installing.stored.files]
  refine ⟨(installCandidate store label bundle canonical).state, ?_, ?_, ?_⟩
  · rw [← places.locate]
    refine installing.descriptor published ?_
    rw [places.locate, places.locate]
    exact apart.descriptor ca configured
  · exact (kept.paired.recordBundle bundle).of_sameMarks ⟨rfl, rfl⟩
  · intro other path' referenced
    have fresh : path' = store.snapshotPath canonical →
        SnapshotKept os config after.disk (installCandidate store label bundle canonical).state
          path' canonical snapshot := by
      rintro rfl
      rw [installing.snapshotPath] at referenced ⊢
      refine ⟨rfl, ?_, parsed, again, holds⟩
      rw [files other _ (StateStore.isGenerated_snapshotName _) referenced,
        installing.snapshotPath, Function.update_self]
    by_cases own : other = label
    · subst other
      rw [installCandidate_lookup_self] at referenced
      exact ⟨canonical, snapshot, fresh (Option.some.inj referenced).symm⟩
    · have before := referenced
      rw [installCandidate_lookup_of_ne own] at before
      obtain ⟨bytes', bundle', earlier⟩ := kept.snapshots other path' before
      by_cases here : path' = store.snapshotPath canonical
      · exact ⟨canonical, snapshot, fresh here⟩
      · refine ⟨bytes', bundle', earlier.spelled, ?_, earlier.parsed, earlier.written,
          earlier.holds.of_marksKept (PersistedState.marksKept_recordBundle _ _)⟩
        have spelled := earlier.spelled
        subst spelled
        rw [files other _ (StateStore.isGenerated_snapshotName _) referenced,
          Function.update_of_ne]
        · exact earlier.contents
        · intro same
          rw [installing.snapshotPath, Os.locate_child, Os.locate_child] at same
          have sameName : StateStore.snapshotName bytes' = StateStore.snapshotName canonical := by
            simpa using same
          exact here (by rw [installing.snapshotPath, sameName])

omit [Pki] in
theorem kept_of_attempt {os later : Os} {config : Config} {source : Bundle → Prop}
    {store : StateStore} {world : World} {bundles : List Bundle} {after : StateStore × World}
    (places : os.SamePlaces later) (path : store.path = config.statePath)
    (paired : store.state.Paired)
    (parsed : ∀ bundle, source bundle → ∃ file, Bundle.fromBytes file = .ok bundle)
    (attempt : Attempt later source store.emptied store world (.ok bundles) after) :
    Kept os config after.2.disk after.1.state ∧ after.1.path = config.statePath := by
  have directory : store.generations = config.generations := by
    unfold StateStore.generations
    rw [path, PathBuf.parent_child]
  cases attempt with
  | @committed _ candidate middle staged =>
      obtain ⟨marks, chain, same⟩ := staged.chain
      have place : later.locate candidate.path =
          descriptorPlace (later.realpath config.storage.stateDb) := by
        rw [staged.path]
        change later.locate store.path = _
        rw [path]
        exact Os.locate_state rfl
      refine ⟨⟨?_, ?_, ?_⟩, path⟩
      · have here : later.locate config.statePath =
            descriptorPlace (later.realpath config.storage.stateDb) := Os.locate_state rfl
        rw [← places.locate, here]
        exact StateStore.committed_states place
      · exact (chain.paired (paired.of_sameMarks (StateStore.emptied_sameMarks store))).of_sameMarks
          same
      · intro label path' referenced
        obtain ⟨bundle, _, bytes, contents, _, spelled, held, ⟨owner, own, written⟩, digest⟩ :=
          staged.bound label path' referenced
        obtain ⟨file, fileParsed⟩ := parsed owner own
        obtain ⟨snapshot, again, content, canonical⟩ := Bundle.parse_of_written fileParsed written
        have sameName : StateStore.snapshotName bytes = StateStore.snapshotName contents := by
          unfold StateStore.snapshotName
          rw [digest]
        have spelled : path' = store.generations.child (StateStore.snapshotName contents) := by
          rw [spelled, ← sameName]
          rfl
        subst spelled
        have holds : candidate.state.Holds owner := by
          unfold PersistedState.Holds
          rw [same.highWaterMarks]
          exact chain.holds ((staged.exactly owner).mpr own)
        refine ⟨contents, snapshot, by rw [directory], ?_, again, canonical,
          holds.of_sameContent content⟩
        have referenced : candidate.state.activeBundles.lookup label =
            some (store.generations.child (StateStore.snapshotName contents)) := referenced
        rw [← places.locate]
        refine (StateStore.committed_files_referenced ?_ referenced).trans held
        rw [place, Os.locate_child]
        exact (StateStore.descriptorPlace_ne_snapshot _ _ _).symm

/-- A server that works on this state of the configuration's store. -/
structure ServesFrom (config : Config) (state : PersistedState) (responder : ResponderState) :
    Prop where
  configured : responder.config = config
  path : responder.stateStore.path = config.statePath
  memory : responder.stateStore.state = state

theorem Kept.load {os later : Os} {config : Config} {guard : StateDirectoryLock}
    {world after : World} {responder : ResponderState} {state : PersistedState}
    (kept : Kept os config world.disk state) (places : os.SamePlaces later)
    (ran : (load later config guard).outcome world = (.ok responder, after)) :
    ∃ state', Kept os config after.disk state' ∧ ServesFrom config state' responder := by
  have spec : Ensures (Hoike.load later config guard) world
      (fun responder after => ∃ state', Kept os config after.disk state' ∧
        ServesFrom config state' responder) (fun _ _ => True) := by
    refine ensures_load (fun _ => trivial) ?_
    intro store _ opened
    obtain ⟨path, rfl⟩ := kept.opened places opened
    have serves : ∀ {source middle} {map : ScopeMap} {after : StateStore × World},
        (∀ bundle, source bundle → ∃ file, Bundle.fromBytes file = .ok bundle) →
          Attempt later source store.emptied store middle (.ok map.bundles) after →
            ∃ state', Kept os config after.2.disk state' ∧
              ServesFrom config state'
                { scopeMap := map
                  config := config
                  stateStore := after.1
                  writerGuard := guard } := by
      intro source middle map after parsed attempt
      obtain ⟨kept', path'⟩ := kept_of_attempt places path kept.paired parsed attempt
      exact ⟨_, kept', rfl, path', rfl⟩
    refine ensures_loadOrRecover ?_ (fun _ _ _ _ => trivial) ?_ (fun _ _ _ _ _ _ _ _ => trivial)
    · intro map after attempt
      refine serves ?_ attempt
      rintro bundle ⟨_, _, _, _, parsed⟩
      obtain ⟨file, _, parsed⟩ := bundleFromFile_eq_ok.mp parsed
      exact ⟨file, parsed⟩
    · intro source _ middle map after recovering _ attempt
      refine serves ?_ attempt
      intro bundle own
      obtain ⟨_, _, _, parsed⟩ := recovering.recoverable bundle own
      obtain ⟨file, _, parsed⟩ := bundleFromFile_eq_ok.mp parsed
      exact ⟨file, parsed⟩
  exact spec.of_ok ran

theorem Kept.reload {os later : Os} {config : Config} {world : World}
    {responder : ResponderState} {after : ResponderState × World} {state : PersistedState}
    (kept : Kept os config world.disk state) (places : os.SamePlaces later)
    (serves : ServesFrom config state responder)
    (ran : (reload later).outcome (responder, world) = (.ok (), after)) :
    ∃ state', Kept os config after.2.disk state' ∧ ServesFrom config state' after.1 := by
  have spec : Ensures (Hoike.reload later) (responder, world)
      (fun _ after => ∃ state', Kept os config after.2.disk state' ∧
        ServesFrom config state' after.1) (fun _ _ => True) := by
    refine ensures_reload ?_ (fun _ _ _ => trivial)
    intro map after attempt
    have paired : responder.stateStore.state.Paired := by
      rw [serves.memory]
      exact kept.paired
    refine (kept_of_attempt places serves.path paired ?_ attempt).elim ?_
    · rintro bundle ⟨_, _, _, _, parsed⟩
      obtain ⟨file, _, parsed⟩ := bundleFromFile_eq_ok.mp parsed
      exact ⟨file, parsed⟩
    · intro kept' path'
      exact ⟨_, kept', serves.configured, path', rfl⟩
  exact spec.of_ok ran

/-! ### Runs -/

/-- The worlds, with the server that runs in them, that successful operations of one
configuration reach from an initialized store.  Each operation has its own clock
and its own failures; in between the files outside the snapshots may change. -/
inductive Committing (os : Os) (config : Config) (guard : StateDirectoryLock) :
    World → Option ResponderState → Prop
  | initialized {later : Os} {world after : World} {store : StateStore} :
      os.SamePlaces later →
      (StateStore.initializeFresh later config.statePath).outcome world = (.ok store, after) →
        Committing os config guard after none
  | edited {world : World} {server : Option ResponderState}
      {files : RealPath → Option Bytes} :
      Committing os config guard world server →
      (∀ name, files (os.realpath config.generations ++ [name]) =
        world.disk.files (os.realpath config.generations ++ [name])) →
        Committing os config guard
          { world with
            disk := world.disk.replaceFiles (os.realpath config.storage.stateDb) files } server
  | installed {later : Os} {label : String} {bytes : Bytes} {world after : World}
      {result : InstallResult} :
      Committing os config guard world none → os.SamePlaces later →
      (installBundle later config label bytes guard).outcome world = (.ok result, after) →
        Committing os config guard after none
  | started {later : Os} {world after : World} {responder : ResponderState} :
      Committing os config guard world none → os.SamePlaces later →
      (load later config guard).outcome world = (.ok responder, after) →
        Committing os config guard after (some responder)
  | reloaded {later : Os} {world after : World} {responder responder' : ResponderState} :
      Committing os config guard world (some responder) → os.SamePlaces later →
      (reload later).outcome (responder, world) = (.ok (), responder', after) →
        Committing os config guard after (some responder')
  | stopped {world : World} {server : Option ResponderState} :
      Committing os config guard world server → Committing os config guard world none

omit [Sha2] [Ciborium] [Pki] in
theorem Os.read_edited {os : Os} {config : Config} {disk : Disk}
    {files : RealPath → Option Bytes}
    (outside : ∀ name, files (os.realpath config.generations ++ [name]) =
      disk.files (os.realpath config.generations ++ [name])) (name : String) :
    (disk.replaceFiles (os.realpath config.storage.stateDb) files).files
        (os.realpath config.generations ++ [name]) =
      disk.files (os.realpath config.generations ++ [name]) := by
  rw [Disk.files_replaceFiles]
  split_ifs
  · rfl
  · exact outside name

omit [Pki] in
theorem Kept.edited {os : Os} {config : Config} {disk : Disk} {state : PersistedState}
    {files : RealPath → Option Bytes} (kept : Kept os config disk state)
    (outside : ∀ name, files (os.realpath config.generations ++ [name]) =
      disk.files (os.realpath config.generations ++ [name])) :
    Kept os config (disk.replaceFiles (os.realpath config.storage.stateDb) files) state := by
  refine ⟨?_, kept.paired, ?_⟩
  · have here : os.locate config.statePath =
        descriptorPlace (os.realpath config.storage.stateDb) := Os.locate_state rfl
    have descriptor := kept.descriptor
    rw [here] at descriptor ⊢
    refine Disk.descriptor_eq_some.mp ?_
    rw [System.committed_replaceFiles]
    exact Disk.descriptor_eq_some.mpr descriptor
  · intro label path referenced
    obtain ⟨bytes, bundle, snapshot⟩ := kept.snapshots label path referenced
    refine ⟨bytes, bundle, { snapshot with contents := ?_ }⟩
    have contents := snapshot.contents
    rw [snapshot.spelled, Os.locate_child] at contents ⊢
    exact (Os.read_edited outside _).trans contents

theorem Committing.kept {os : Os} {config : Config} {guard : StateDirectoryLock} {world : World}
    {server : Option ResponderState} (apart : FilesApart os config)
    (run : Committing os config guard world server) :
    ∃ state, Kept os config world.disk state ∧
      ∀ responder ∈ server, ServesFrom config state responder := by
  induction run with
  | @initialized later world after store places ran =>
      have fresh : System.Initialized (later.realpath config.storage.stateDb)
          { world := after, server := none, accepted := [] } :=
        ⟨rfl, rfl, later, config.storage.stateDb, world, store, rfl, ran⟩
      have descriptor := Disk.descriptor_eq_some.mp fresh.committed
      rw [← Os.locate_state rfl, places.locate] at descriptor
      refine ⟨PersistedState.default, ⟨descriptor, ⟨?_, ?_⟩, ?_⟩,
        fun responder impossible => by cases impossible⟩
      · intro key text impossible
        cases impossible
      · intro key mark impossible
        cases impossible
      · intro label path impossible
        cases impossible
  | edited _ outside ih =>
      obtain ⟨state, kept, serves⟩ := ih
      exact ⟨state, kept.edited outside, serves⟩
  | installed _ places ran ih =>
      obtain ⟨state, kept, _⟩ := ih
      obtain ⟨state', kept'⟩ := kept.install places apart ran
      exact ⟨state', kept', fun responder impossible => by cases impossible⟩
  | started _ places ran ih =>
      obtain ⟨state, kept, _⟩ := ih
      obtain ⟨state', kept', serves⟩ := kept.load places ran
      refine ⟨state', kept', ?_⟩
      rintro responder ⟨⟩
      exact serves
  | reloaded _ places ran ih =>
      obtain ⟨state, kept, serves⟩ := ih
      obtain ⟨state', kept', serves'⟩ := kept.reload places (serves _ rfl) ran
      refine ⟨state', kept', ?_⟩
      rintro responder ⟨⟩
      exact serves'
  | stopped _ ih =>
      obtain ⟨state, kept, _⟩ := ih
      exact ⟨state, kept, fun responder impossible => by cases impossible⟩

/-! ### The next operation -/

def CommittedAs (os : Os) (config : Config) (disk : Disk) (state : PersistedState)
    (committed : String → Bundle) : Prop :=
  ∀ ca ∈ config.ca, ∃ path, state.activeBundles.lookup ca.label = some path ∧
    bundleFromFile os disk path = .ok (committed ca.label)

omit [Pki] in
theorem Kept.snapshots_of {os : Os} {config : Config} {disk : Disk} {state : PersistedState}
    {committed : String → Bundle} (kept : Kept os config disk state)
    (readable : ∀ place, os.unreadable place = false)
    (bundles : CommittedAs os config disk state committed) :
    Snapshots os disk config state committed := by
  have each : ∀ ca ∈ config.ca, ∃ path bytes,
      state.activeBundles.lookup ca.label = some path ∧
        SnapshotKept os config disk state path bytes (committed ca.label) := by
    intro ca member
    obtain ⟨path, bound, parsed⟩ := bundles ca member
    obtain ⟨bytes, bundle, snapshot⟩ := kept.snapshots ca.label path bound
    have again : bundleFromFile os disk path = .ok bundle := bundleFromFile_eq_ok.mpr
      ⟨bytes, Os.read_eq_ok.mpr ⟨snapshot.contents, readable _⟩, snapshot.parsed⟩
    cases again.symm.trans parsed
    exact ⟨path, bytes, bound, snapshot⟩
  refine ⟨?_, ?_⟩
  · intro ca member
    obtain ⟨path, bytes, bound, snapshot⟩ := each ca member
    obtain rfl := snapshot.spelled
    exact ⟨bytes, bound, Os.read_eq_ok.mpr ⟨snapshot.contents, readable _⟩, snapshot.parsed,
      snapshot.written⟩
  · intro ca member
    obtain ⟨_, _, _, snapshot⟩ := each ca member
    exact snapshot.holds

/-- An installation of what a label is bound to already succeeds exactly when it
stands, and then changes neither a mark nor a reference. -/
theorem ensures_installBundle_again {os : Os} {now : UInt64} {config : Config}
    {guard : StateDirectoryLock} {store : StateStore} {world : World} {label : String}
    {bytes canonical : Bytes} {bundle : Bundle} {destination : PathBuf} (works : os.Works now)
    (resolved : os.canonicalizeDirectory config.storage.stateDb = .ok guard.stateDir)
    (opened : StateStore.openExisting os world.disk config.statePath = .ok store)
    (target : config.bundleDestination os world.disk label = .ok destination)
    (parsed : Bundle.fromBytes bytes = .ok bundle)
    (authenticated : ∃ verification,
      authenticateBundle os world.disk bundle config.storage now = .ok verification)
    (profile : validateServingProfile bundle = .ok ())
    (written : bundle.toBytes = .ok canonical)
    (apart : os.locate destination ≠ os.locate config.statePath)
    (bound : store.state.activeBundles.lookup label = some (store.snapshotPath canonical))
    (holds : store.state.Holds bundle) :
    Ensures (installBundle os config label bytes guard) world
      (fun _ after => store.state.Stands bundle ∧ ∃ state,
        after.disk.states (os.locate config.statePath) = some (.parsed state) ∧
          state.ledger = store.state.ledger ∧
            ∀ other, state.activeBundles.lookup other = store.state.activeBundles.lookup other)
      (fun _ _ => ¬ store.state.Stands bundle) := by
  have decided : Ensures (installBundle os config label bytes guard) world (fun _ _ => True)
      (fun _ _ => ¬ store.state.Stands bundle) := by
    by_cases stands : store.state.Stands bundle
    · exact (returns_installBundle works resolved opened target parsed authenticated profile
        written stands).mono (fun _ _ _ => trivial) (fun _ _ impossible => False.elim impossible)
    · exact Ensures.intro (fun _ _ _ => trivial) (fun _ _ _ => stands)
  have changes : Ensures (installBundle os config label bytes guard) world
      (fun _ after => store.state.Stands bundle ∧ ∃ state,
        after.disk.states (os.locate config.statePath) = some (.parsed state) ∧
          state.ledger = store.state.ledger ∧
            ∀ other, state.activeBundles.lookup other = store.state.activeBundles.lookup other)
      (fun _ _ => True) := by
    refine ensures_installBundle ?_ (fun _ _ _ => trivial) (fun _ _ _ _ _ _ _ _ _ => trivial)
    intro destination' bundle' store' canonical' middle _ after installing published
    obtain rfl : destination' = destination :=
      Except.ok.inj (installing.destination.symm.trans target)
    obtain rfl : store' = store := Except.ok.inj (installing.opened.symm.trans opened)
    obtain rfl : bundle' = bundle := Except.ok.inj (installing.parsed.symm.trans parsed)
    obtain rfl : canonical' = canonical :=
      Except.ok.inj (installing.serialized.symm.trans written)
    have stands : store'.state.Stands bundle' :=
      (Staged.start.stage installing.rollback installing.continuity).stands
        (List.mem_singleton_self bundle') holds
    refine ⟨stands, _, installing.descriptor published apart, stands.ledger_recordBundle, ?_⟩
    intro other
    by_cases own : other = label
    · rw [own, installCandidate_lookup_self, bound]
    · exact installCandidate_lookup_of_ne own
  exact (changes.and decided).mono (fun _ _ facts => facts.1) (fun _ _ facts => facts.2)

theorem profile_of_admitBundle {os : Os} {disk : Disk} {bundle : Bundle}
    {storage : StorageConfig} {now : UInt64} {trust : AdmissionTrust}
    (admitted : admitBundle os disk bundle storage now = .ok trust) :
    validateServingProfile bundle = .ok () := by
  obtain ⟨_, profile, _⟩ := Except.bind_eq_ok.mp admitted
  exact profile

def Config.storeOf (config : Config) (state : PersistedState) : StateStore :=
  { path := config.statePath
    state := state
    staged := false }

/-- The bundles a run has committed, with the store they are committed in. -/
structure CommittedRun (os : Os) (config : Config) (guard : StateDirectoryLock) (world : World)
    (server : Option ResponderState) (state : PersistedState) (committed : String → Bundle) :
    Prop where
  kept : Kept os config world.disk state
  opened : StateStore.openExisting os world.disk config.statePath = .ok (config.storeOf state)
  named : config.statePath.fileName ≠ none
  snapshots : Snapshots os world.disk config state committed
  serves : ∀ responder ∈ server, ServesFrom config state responder

omit [Sha2] [Ciborium] [Pki] in
theorem PathBuf.fileName_statePath (config : Config) : config.statePath.fileName ≠ none := by
  rw [PathBuf.fileName_child (by decide) (by decide)]
  exact Option.some_ne_none _

theorem Committing.committedRun {os : Os} {config : Config} {guard : StateDirectoryLock}
    {world : World} {server : Option ResponderState} {state : PersistedState}
    {committed : String → Bundle} (run : Committing os config guard world server)
    (apart : FilesApart os config) (readable : ∀ place, os.unreadable place = false)
    (descriptor : world.disk.states (os.locate config.statePath) = some (.parsed state))
    (bundles : CommittedAs os config world.disk state committed) :
    CommittedRun os config guard world server state committed := by
  obtain ⟨state', kept, serves⟩ := run.kept apart
  obtain rfl : state' = state := by
    have same := kept.descriptor.symm.trans descriptor
    cases same
    rfl
  exact ⟨kept, kept.opens readable, PathBuf.fileName_statePath config,
    kept.snapshots_of readable bundles, serves⟩

section Next

variable {os : Os} {now : UInt64} {config : Config} {guard : StateDirectoryLock} {world : World}
  {server : Option ResponderState} {state : PersistedState} {committed : String → Bundle}

theorem CommittedRun.ensures_load
    (run : CommittedRun os config guard world server state committed) (works : os.Works now)
    (resolved : os.canonicalizeDirectory config.storage.stateDb = .ok guard.stateDir)
    (current : Current os now world.disk config committed)
    (small : FilesSmall os world.disk config) :
    Ensures (load os config guard) world
      (fun responder _ => (responder.scopeMap.Serves config fun ca => committed ca.label) ↔
        LoadsCommitted os now world.disk config (config.storeOf state) committed)
      (fun _ _ => ¬ LoadsCommitted os now world.disk config (config.storeOf state) committed) :=
  ensures_load_opened resolved run.opened
    (ensures_loadOrRecover_decided works run.named run.snapshots current small)

theorem CommittedRun.ensures_reload
    (run : CommittedRun os config guard world server state committed) (works : os.Works now)
    (current : Current os now world.disk config committed)
    (small : FilesSmall os world.disk config) {responder : ResponderState}
    (running : responder ∈ server) :
    Ensures (reload os) (responder, world)
      (fun _ after => (after.1.scopeMap.Serves config fun ca => committed ca.label) ↔
        validateNonceConfig config = .ok () ∧ AllStand config state committed ∧
          PublishedAs os world.disk config committed)
      (fun _ _ => ¬ (validateNonceConfig config = .ok () ∧ AllStand config state committed ∧
        PublishedAs os world.disk config committed)) := by
  obtain ⟨rfl, path, rfl⟩ := run.serves responder running
  have named : responder.stateStore.path.fileName ≠ none := by
    rw [path]
    exact run.named
  exact ensures_reload_decided works named run.snapshots current small

end Next

/-- After any run of successful operations that leaves every label committed, at an
instant that admits the committed bundles: the store opens; a start serves exactly
the committed bundles if and only if the nonce policies are usable, all bundles
stand, and the configured files hold them or do not load; a reload, if and only if
the files hold them; a start that finds no configured file, if and only if the
policies are usable and all stand; and an installation of a committed bundle
succeeds exactly when that stands, changing no mark and no reference. -/
theorem committed_generations_reload_iff {os : Os} {now : UInt64} {config : Config}
    {guard : StateDirectoryLock} {world : World} {server : Option ResponderState}
    {state : PersistedState} {committed : String → Bundle}
    (run : Committing os config guard world server) (apart : FilesApart os config)
    (works : os.Works now)
    (resolved : os.canonicalizeDirectory config.storage.stateDb = .ok guard.stateDir)
    (descriptor : world.disk.states (os.locate config.statePath) = some (.parsed state))
    (bundles : CommittedAs os config world.disk state committed)
    (current : Current os now world.disk config committed)
    (small : FilesSmall os world.disk config) :
    StateStore.openExisting os world.disk config.statePath = .ok (config.storeOf state) ∧
    ((∃ responder after, (load os config guard).outcome world = (.ok responder, after) ∧
        responder.scopeMap.Serves config fun ca => committed ca.label) ↔
      validateNonceConfig config = .ok () ∧ AllStand config state committed ∧
        (PublishedAs os world.disk config committed ∨
          ¬ FilesLoad os now world.disk config (config.storeOf state))) ∧
    (∀ responder ∈ server,
      ((∃ done after, (reload os).outcome (responder, world) = (.ok done, after) ∧
          after.1.scopeMap.Serves config fun ca => committed ca.label) ↔
        validateNonceConfig config = .ok () ∧ AllStand config state committed ∧
          PublishedAs os world.disk config committed)) ∧
    ((∀ ca ∈ config.ca, os.fileExists world.disk (config.bundlePath ca) = false) →
      ((∃ responder after, (load os config guard).outcome world = (.ok responder, after) ∧
          responder.scopeMap.Serves config fun ca => committed ca.label) ↔
        validateNonceConfig config = .ok () ∧ AllStand config state committed)) ∧
    ∀ ca ∈ config.ca, ∀ bytes bundle destination, Bundle.fromBytes bytes = .ok bundle →
      bundle.toBytes = (committed ca.label).toBytes →
      (∃ verification,
        authenticateBundle os world.disk bundle config.storage now = .ok verification) →
      config.bundleDestination os world.disk ca.label = .ok destination →
      ((∃ result after,
        (installBundle os config ca.label bytes guard).outcome world = (.ok result, after) ∧
          ∃ state', after.disk.states (os.locate config.statePath) = some (.parsed state') ∧
            state'.ledger = state.ledger ∧
              ∀ other, state'.activeBundles.lookup other = state.activeBundles.lookup other) ↔
        state.Stands (committed ca.label)) := by
  have reached := run.committedRun apart works.reads descriptor bundles
  have snapshots := reached.snapshots
  have started := Ensures.ok_iff (reached.ensures_load works resolved current small)
  refine ⟨reached.opened, started, ?_, ?_, ?_⟩
  · intro responder running
    exact Ensures.ok_iff (reached.ensures_reload works current small running)
  · intro missing
    rw [started]
    have unloadable : ¬ FilesLoad os now world.disk config (config.storeOf state) :=
      not_filesLoad_of_missing current.sections missing
    exact ⟨fun loads => ⟨loads.1, loads.2.1⟩,
      fun stand => ⟨stand.1, stand.2, Or.inr unloadable⟩⟩
  · intro ca member bytes bundle destination parsed written authenticated target
    obtain ⟨canonical, bound, _, again, serialized⟩ := snapshots.stored ca member
    obtain ⟨snapshot, again', same, _⟩ :=
      Bundle.parse_of_written parsed (written.trans serialized)
    cases again.symm.trans again'
    obtain ⟨trust, admitted⟩ := current.admitted ca member
    rw [admitBundle_of_sameContent same] at admitted
    rw [PersistedState.stands_of_sameContent same]
    have place : config.statePath.parent.child "generations" = config.generations := by
      rw [PathBuf.parent_child]
    rw [← place] at bound
    have elsewhere : os.locate destination ≠ os.locate config.statePath := by
      obtain ⟨_, ca', chosen, rfl, _⟩ := Config.bundleDestination_eq_ok.mp target
      exact apart.descriptor ca' (List.mem_of_find?_eq_some chosen)
    refine Ensures.ok_iff ((ensures_installBundle_again works resolved reached.opened target
      parsed authenticated (profile_of_admitBundle admitted) (written.trans serialized) elsewhere
      bound ((snapshots.holds ca member).of_sameContent same.symm)).mono ?_ ?_)
    · rintro _ _ ⟨stands, unchanged⟩
      exact iff_of_true unchanged stands
    · intro _ _ fallen
      exact fallen

end Operations

/-! ### Two labels of one producer -/

section TwoLabels

local instance twoLabelsSha2 : Sha2 := Crates.sha2
local instance twoLabelsCiborium : Ciborium := Crates.ciborium
local instance twoLabelsPki : Pki := Crates.pki []

def demoPair : Config :=
  { demoConfig with ca := [{ label := "a" }, { label := "b" }] }

def demoBundleFile (issuerKey : UInt8) (epoch : UInt64) : Bytes :=
  Crates.plainFile (Crates.plainManifest "p" [Crates.plainScope issuerKey epoch] none) []

def pairFile (issuerKey : UInt8) (label : String) : Bytes :=
  if label = "a" then demoBundleFile 0xaa 5 else demoBundleFile issuerKey 6

def pairFiles (issuerKey : UInt8) (place : RealPath) : Option Bytes :=
  if place = ["w", "bundles", "a.ahu"] then some (pairFile issuerKey "a")
  else if place = ["w", "bundles", "b.ahu"] then some (pairFile issuerKey "b")
  else none

def pairStart (issuerKey : UInt8) : Except CoreError ResponderState × World :=
  (load (Os.faultless 1800000000) demoPair ⟨["w", "state"]⟩).outcome
    { initializedSystem.world with
      disk := initializedSystem.world.disk.replaceFiles ["w", "state"] (pairFiles issuerKey) }

def otherFiles (world : World) (place : RealPath) : Option Bytes :=
  if place.take 2 = ["w", "bundles"] then none else world.disk.files place

def unpublished (world : World) : World :=
  { world with disk := world.disk.replaceFiles ["w", "state"] (otherFiles world) }

def standsIn (state : PersistedState) (file : Bytes) : Bool :=
  (Bundle.fromBytes file).toOption.any fun bundle =>
    (generation bundle).claims.all fun claim =>
      state.ledger claim.1 = some (claim.2, (generation bundle).digest)

/-- What the first start leaves: the snapshots and the files of the two labels,
which of them stand, and whether a reload, a start and a start without the files
succeed. -/
structure PairView where
  committed : List (Option Bytes)
  configured : List (Option Bytes)
  standing : List Bool
  again : List Bool
deriving DecidableEq

def pairView (issuerKey : UInt8) : Option PairView :=
  match pairStart issuerKey with
  | (.error _, _) => none
  | (.ok responder, world) => some
      { committed := ["a", "b"].map fun label =>
          (responder.stateStore.state.activeBundles.lookup label).bind fun path =>
            world.disk.files ((Os.faultless 1800000000).locate path)
        configured := demoPair.ca.map fun ca =>
          world.disk.files ((Os.faultless 1800000000).locate (demoPair.bundlePath ca))
        standing := ["a", "b"].map fun label =>
          standsIn responder.stateStore.state (pairFile issuerKey label)
        again :=
          [((reload (Os.faultless 1800000000)).outcome (responder, world)).1.isOk,
            ((load (Os.faultless 1800000000) demoPair ⟨["w", "state"]⟩).outcome world).1.isOk,
            ((load (Os.faultless 1800000000) demoPair ⟨["w", "state"]⟩).outcome
              (unpublished world)).1.isOk] }

def admissible (file : Bytes) : Bool :=
  (decide (file.length < 2 ^ 60)) &&
    (Bundle.fromBytes file).toOption.any fun bundle =>
      bundle.manifest.caScopes ≠ [] && (validateServingProfile bundle).isOk &&
        (verifyStructure bundle).isOk

theorem pairs_computed :
    (admissible (demoBundleFile 0xaa 5) = true ∧ admissible (demoBundleFile 0xaa 6) = true ∧
      admissible (demoBundleFile 0xbb 6) = true) ∧
    pairView 0xaa = some
        { committed := ["a", "b"].map fun label => some (pairFile 0xaa label)
          configured := ["a", "b"].map fun label => some (pairFile 0xaa label)
          standing := [false, true]
          again := [false, false, false] } ∧
    pairView 0xbb = some
        { committed := ["a", "b"].map fun label => some (pairFile 0xbb label)
          configured := ["a", "b"].map fun label => some (pairFile 0xbb label)
          standing := [true, true]
          again := [true, true, true] } := by
  decide +kernel

theorem admitBundle_of_admissible {file : Bytes} (checked : admissible file = true) :
    file.length < 2 ^ 60 ∧ ∃ bundle, Bundle.fromBytes file = .ok bundle ∧
      bundle.manifest.caScopes ≠ [] ∧ ∀ os disk now,
        ∃ trust, admitBundle os disk bundle demoPair.storage now = .ok trust := by
  obtain ⟨small, checked⟩ := Bool.and_eq_true_iff.mp checked
  obtain ⟨bundle, parsed, accepted⟩ := (Option.any_eq_true _ _).mp checked
  obtain ⟨accepted, structure'⟩ := Bool.and_eq_true_iff.mp accepted
  obtain ⟨scopes, profile⟩ := Bool.and_eq_true_iff.mp accepted
  obtain ⟨⟨⟩, profile⟩ := Except.exists_of_isOk profile
  obtain ⟨report, verified⟩ := Except.exists_of_isOk structure'
  refine ⟨of_decide_eq_true small, bundle, Except.toOption_eq_some.mp parsed,
    of_decide_eq_true scopes, ?_⟩
  intro os disk now
  have demo : demoPair.storage.isDemo = true := by decide
  unfold admitBundle
  rw [profile, if_pos demo, verified]
  exact ⟨_, rfl⟩

theorem demoPair_apart : FilesApart (Os.faultless 1800000000) demoPair := by
  constructor
  · intro ca member
    rcases List.mem_pair.mp member with rfl | rfl
    · decide
    · decide
  · intro ca member name same
    -- The two directories differ already in their last component.
    have parents := congrArg List.dropLast same
    rw [List.dropLast_concat] at parents
    rcases List.mem_pair.mp member with rfl | rfl
    · exact absurd parents (by decide)
    · exact absurd parents (by decide)

theorem pairStart_committing {issuerKey : UInt8} {responder : ResponderState} {world : World}
    (ran : pairStart issuerKey = (.ok responder, world)) :
    Committing (Os.faultless 1800000000) demoPair ⟨["w", "state"]⟩ world (some responder) := by
  have fresh : (StateStore.initializeFresh (Os.faultless 1800000000)
      demoPair.statePath).outcome emptyWorld =
        (.ok { path := demoPair.statePath, state := PersistedState.default, staged := false },
          initializedSystem.world) := rfl
  have outside : ∀ name, pairFiles issuerKey
      ((Os.faultless 1800000000).realpath demoPair.generations ++ [name]) =
        initializedSystem.world.disk.files
          ((Os.faultless 1800000000).realpath demoPair.generations ++ [name]) := by
    intro name
    have elsewhere : ∀ last,
        ["w", "state", "generations"] ++ [name] ≠ ["w", "bundles", last] := by
      intro last same
      simp at same
    have empty : initializedSystem.world.disk.files (["w", "state", "generations"] ++ [name]) =
        none := by
      have here : ["w", "state", "generations"] ++ [name] ≠ ["w", "state", "state.json"] := by
        intro same
        simp at same
      change (Function.update (fun _ => none) ["w", "state", "state.json"]
        (some (FileContents.descriptor PersistedState.default))
          (["w", "state", "generations"] ++ [name])).map FileContents.bytes = none
      rw [Function.update_of_ne here]
      rfl
    change pairFiles issuerKey (["w", "state", "generations"] ++ [name]) =
      initializedSystem.world.disk.files (["w", "state", "generations"] ++ [name])
    unfold pairFiles
    rw [if_neg (elsewhere _), if_neg (elsewhere _), empty]
  exact .started (.edited (.initialized ⟨rfl, rfl⟩ fresh) outside) ⟨rfl, rfl⟩ ran

theorem stands_iff_all (state : PersistedState) (bundle : Bundle) :
    ((generation bundle).claims.all fun claim =>
      state.ledger claim.1 = some (claim.2, (generation bundle).digest)) = true ↔
        state.Stands bundle := by
  rw [List.all_eq_true]
  constructor
  · intro checked id epoch claimed
    exact of_decide_eq_true (checked (id, epoch) claimed)
  · rintro stands ⟨id, epoch⟩ claimed
    exact decide_eq_true (stands id epoch claimed)

/-- What is known after the first start of the pair. -/
structure PairReached (issuerKey : UInt8) (view : PairView) (responder : ResponderState)
    (world : World) (state : PersistedState) (committed : String → Bundle) : Prop where
  run : Committing (Os.faultless 1800000000) demoPair ⟨["w", "state"]⟩ world (some responder)
  descriptor : world.disk.states ((Os.faultless 1800000000).locate demoPair.statePath) =
    some (.parsed state)
  bundles : CommittedAs (Os.faultless 1800000000) demoPair world.disk state committed
  current : ∀ disk, Current (Os.faultless 1800000000) 1800000000 disk demoPair committed
  published : PublishedAs (Os.faultless 1800000000) world.disk demoPair committed
  small : FilesSmall (Os.faultless 1800000000) world.disk demoPair
  standing : AllStand demoPair state committed ↔ view.standing = [true, true]
  again : view.again =
    [((reload (Os.faultless 1800000000)).outcome (responder, world)).1.isOk,
      ((load (Os.faultless 1800000000) demoPair ⟨["w", "state"]⟩).outcome world).1.isOk,
      ((load (Os.faultless 1800000000) demoPair ⟨["w", "state"]⟩).outcome
        (unpublished world)).1.isOk]

theorem pair_reached {issuerKey : UInt8} {standing again : List Bool}
    (first : admissible (demoBundleFile 0xaa 5) = true)
    (second : admissible (demoBundleFile issuerKey 6) = true)
    (computed : pairView issuerKey = some
      { committed := ["a", "b"].map fun label => some (pairFile issuerKey label)
        configured := ["a", "b"].map fun label => some (pairFile issuerKey label)
        standing := standing
        again := again }) :
    ∃ responder world state committed,
      PairReached issuerKey
        { committed := ["a", "b"].map fun label => some (pairFile issuerKey label)
          configured := ["a", "b"].map fun label => some (pairFile issuerKey label)
          standing := standing
          again := again } responder world state committed := by
  unfold pairView at computed
  split at computed
  · cases computed
  · rename_i responder world ran
    obtain ⟨snapshots, files, standing, again⟩ := PairView.mk.inj (Option.some.inj computed)
    obtain ⟨firstSmall, first, firstParsed, firstScopes, firstAdmitted⟩ :=
      admitBundle_of_admissible first
    obtain ⟨secondSmall, second, secondParsed, secondScopes, secondAdmitted⟩ :=
      admitBundle_of_admissible second
    have run := pairStart_committing ran
    obtain ⟨state, kept, serves⟩ := run.kept demoPair_apart
    obtain ⟨_, _, memory⟩ := serves responder rfl
    rw [memory] at snapshots standing
    obtain ⟨fileA, rest⟩ := List.cons.inj files
    obtain ⟨fileB, _⟩ := List.cons.inj rest
    simp only [List.map_cons, List.map_nil, List.cons.injEq, and_true] at snapshots
    have parsed : ∀ label, Bundle.fromBytes (pairFile issuerKey label) =
        .ok (if label = "a" then first else second) := by
      intro label
      unfold pairFile
      split_ifs
      · exact firstParsed
      · exact secondParsed
    have configured : ∀ ca ∈ demoPair.ca, world.disk.files
        ((Os.faultless 1800000000).locate (demoPair.bundlePath ca)) =
          some (pairFile issuerKey ca.label) := by
      intro ca member
      rcases List.mem_pair.mp member with rfl | rfl
      · exact fileA
      · exact fileB
    refine ⟨responder, world, state, fun label => if label = "a" then first else second, run,
      kept.descriptor, ?_, fun disk => ⟨by decide, ?_, ?_⟩, ?_, ?_, ?_, again.symm⟩
    · intro ca member
      have stored : (state.activeBundles.lookup ca.label).bind (fun path =>
          world.disk.files ((Os.faultless 1800000000).locate path)) =
            some (pairFile issuerKey ca.label) := by
        rcases List.mem_pair.mp member with rfl | rfl
        · exact snapshots.1
        · exact snapshots.2
      obtain ⟨path, bound, contents⟩ := Option.bind_eq_some_iff.mp stored
      exact ⟨path, bound, bundleFromFile_eq_ok.mpr
        ⟨_, Os.read_eq_ok.mpr ⟨contents, rfl⟩, parsed ca.label⟩⟩
    · intro ca _
      split_ifs
      · exact firstScopes
      · exact secondScopes
    · intro ca _
      split_ifs
      · exact firstAdmitted _ _ _
      · exact secondAdmitted _ _ _
    · intro ca member
      exact ⟨_, bundleFromFile_eq_ok.mpr
        ⟨_, Os.read_eq_ok.mpr ⟨configured ca member, rfl⟩, parsed ca.label⟩, .refl _⟩
    · intro ca member bytes read
      obtain rfl := Option.some.inj ((configured ca member).symm.trans (Os.read_eq_ok.mp read).1)
      unfold pairFile
      split_ifs
      · exact firstSmall
      · exact secondSmall
    · have stands : ∀ label, state.Stands (if label = "a" then first else second) ↔
          standsIn state (pairFile issuerKey label) = true := by
        intro label
        unfold standsIn
        rw [parsed label]
        exact (stands_iff_all _ _).symm
      rw [← standing]
      simp only [List.map_cons, List.map_nil, List.cons.injEq, and_true, ← stands]
      constructor
      · intro all
        exact ⟨all { label := "a" } (List.mem_pair.mpr (Or.inl rfl)),
          all { label := "b" } (List.mem_pair.mpr (Or.inr rfl))⟩
      · rintro ⟨standsA, standsB⟩ ca member
        rcases List.mem_pair.mp member with rfl | rfl
        · exact standsA
        · exact standsB

theorem CommittedAs.edited {os : Os} {config : Config} {disk : Disk} {state : PersistedState}
    {committed : String → Bundle} {files : RealPath → Option Bytes}
    (kept : Kept os config disk state) (bundles : CommittedAs os config disk state committed)
    (outside : ∀ name, files (os.realpath config.generations ++ [name]) =
      disk.files (os.realpath config.generations ++ [name])) :
    CommittedAs os config (disk.replaceFiles (os.realpath config.storage.stateDb) files) state
      committed := by
  intro ca member
  obtain ⟨path, bound, parsed⟩ := bundles ca member
  obtain ⟨bytes, bundle, snapshot⟩ := kept.snapshots ca.label path bound
  obtain ⟨bytes', contents, parsed⟩ := bundleFromFile_eq_ok.mp parsed
  refine ⟨path, bound, bundleFromFile_eq_ok.mpr ⟨bytes', ?_, parsed⟩⟩
  obtain ⟨held, readable⟩ := Os.read_eq_ok.mp contents
  refine Os.read_eq_ok.mpr ⟨?_, readable⟩
  rw [snapshot.spelled, Os.locate_child] at held ⊢
  exact (Os.read_edited outside _).trans held

theorem unpublished_missing (world : World) : ∀ ca ∈ demoPair.ca,
    (Os.faultless 1800000000).fileExists (unpublished world).disk (demoPair.bundlePath ca) =
      false := by
  intro ca member
  unfold Os.fileExists unpublished
  rcases List.mem_pair.mp member with rfl | rfl
  · rw [Disk.files_replaceFiles]
    rfl
  · rw [Disk.files_replaceFiles]
    rfl

def PlainNames (names : List String) : Prop :=
  ∀ name ∈ names, name ≠ "." ∧ name ≠ ".."

theorem faultless_enter_plain (now : UInt64) {names : List String} (plain : PlainNames names)
    (base : RealPath) : names.foldl (Os.faultless now).enter base = base ++ names := by
  induction names generalizing base with
  | nil =>
      rw [List.append_nil]
      rfl
  | cons name rest ih =>
      obtain ⟨⟨notDot, notDots⟩, others⟩ := List.forall_mem_cons.mp plain
      have entered : (Os.faultless now).enter base name = base ++ [name] := by
        unfold Os.enter
        rw [if_neg notDot, if_neg notDots]
        rfl
      rw [List.foldl_cons, entered, ih others, List.append_assoc]
      rfl

theorem plainNames_faultless_enter (now : UInt64) (names : List String) {base : RealPath}
    (plain : PlainNames base) : PlainNames (names.foldl (Os.faultless now).enter base) := by
  induction names generalizing base with
  | nil =>
      exact plain
  | cons name rest ih =>
      rw [List.foldl_cons]
      apply ih
      unfold Os.enter
      split_ifs with dot dots
      · exact plain
      · exact fun other member => plain other ((List.dropLast_sublist _).mem member)
      · intro other member
        rcases List.mem_append.mp member with earlier | last
        · exact plain other earlier
        · rw [List.mem_singleton.mp last]
          exact ⟨dot, dots⟩

theorem faultless_settles (now : UInt64) (path : PathBuf) :
    (Os.faultless now).locate { root := true, parts := (Os.faultless now).locate path } =
      (Os.faultless now).locate path := by
  have fixed : ∀ path, (Os.faultless now).realpath
      { root := true, parts := (Os.faultless now).realpath path } =
        (Os.faultless now).realpath path := by
    intro path
    have plain : PlainNames ((Os.faultless now).realpath path) := by
      unfold Os.realpath
      split_ifs <;> exact plainNames_faultless_enter now _ fun _ impossible => by cases impossible
    exact faultless_enter_plain now plain []
  unfold Os.locate
  cases last : path.parts.getLast? with
  | none =>
      have top : (Os.faultless now).realpath path = [] := by
        unfold Os.realpath
        rw [List.getLast?_eq_none_iff.mp last]
        split_ifs <;> rfl
      dsimp only
      rw [top]
      rfl
  | some name =>
      dsimp only [PathBuf.parent]
      rw [List.getLast?_concat, List.dropLast_concat]
      dsimp only
      rw [fixed]

theorem faultless_works (now : UInt64) : (Os.faultless now).Works now :=
  ⟨fun _ => rfl, fun _ _ => rfl, fun _ _ => rfl, fun _ => rfl, faultless_settles now⟩

/-- Two labels of one issuer key: the start commits both generations, and the later
one has raised the mark above the other.  No reload and no restart succeeds any more. -/
theorem shared_scope_not_reloadable : ∃ responder world state committed,
    Committing (Os.faultless 1800000000) demoPair ⟨["w", "state"]⟩ world (some responder) ∧
      world.disk.states ((Os.faultless 1800000000).locate demoPair.statePath) =
        some (.parsed state) ∧
      CommittedAs (Os.faultless 1800000000) demoPair world.disk state committed ∧
      Current (Os.faultless 1800000000) 1800000000 world.disk demoPair committed ∧
      PublishedAs (Os.faultless 1800000000) world.disk demoPair committed ∧
      (∀ done after,
        (reload (Os.faultless 1800000000)).outcome (responder, world) ≠ (.ok done, after)) ∧
      (∀ responder' after, (load (Os.faultless 1800000000) demoPair ⟨["w", "state"]⟩).outcome
        world ≠ (.ok responder', after)) ∧
      ∀ responder' after, (load (Os.faultless 1800000000) demoPair ⟨["w", "state"]⟩).outcome
        (unpublished world) ≠ (.ok responder', after) := by
  obtain ⟨⟨first, second, _⟩, computed, _⟩ := pairs_computed
  obtain ⟨responder, world, state, committed, reached⟩ := pair_reached first second computed
  obtain ⟨reloads, rest⟩ := List.cons.inj reached.again
  obtain ⟨starts, rest⟩ := List.cons.inj rest
  obtain ⟨recovers, _⟩ := List.cons.inj rest
  refine ⟨responder, world, state, committed, reached.run, reached.descriptor, reached.bundles,
    reached.current _, reached.published, ?_, ?_, ?_⟩
  · intro done after ran
    rw [ran] at reloads
    cases reloads
  · intro responder' after ran
    rw [ran] at starts
    cases starts
  · intro responder' after ran
    rw [ran] at recovers
    cases recovers

/-- With an issuer key of its own for each label, both stand and are served again,
from the configured files and without them. -/
theorem separate_scopes_reload : ∃ responder world state committed,
    Committing (Os.faultless 1800000000) demoPair ⟨["w", "state"]⟩ world (some responder) ∧
      AllStand demoPair state committed ∧
      (∃ done after,
        (reload (Os.faultless 1800000000)).outcome (responder, world) = (.ok done, after) ∧
          after.1.scopeMap.Serves demoPair fun ca => committed ca.label) ∧
      (∃ responder' after, (load (Os.faultless 1800000000) demoPair ⟨["w", "state"]⟩).outcome
        world = (.ok responder', after) ∧
          responder'.scopeMap.Serves demoPair fun ca => committed ca.label) ∧
      ∃ responder' after, (load (Os.faultless 1800000000) demoPair ⟨["w", "state"]⟩).outcome
        (unpublished world) = (.ok responder', after) ∧
          responder'.scopeMap.Serves demoPair fun ca => committed ca.label := by
  obtain ⟨⟨first, _, second⟩, _, computed⟩ := pairs_computed
  obtain ⟨responder, world, state, committed, reached⟩ := pair_reached first second computed
  have stand := reached.standing.mpr rfl
  have works := faultless_works 1800000000
  have policies : validateNonceConfig demoPair = .ok () := rfl
  obtain ⟨_, started, reloaded, _⟩ := committed_generations_reload_iff reached.run demoPair_apart
    works rfl reached.descriptor reached.bundles (reached.current _) reached.small
  have kept := (reached.run.committedRun demoPair_apart works.reads reached.descriptor
    reached.bundles).kept
  have outside : ∀ name, otherFiles world
      ((Os.faultless 1800000000).realpath demoPair.generations ++ [name]) =
        world.disk.files ((Os.faultless 1800000000).realpath demoPair.generations ++ [name]) :=
    fun _ => rfl
  have missing := unpublished_missing world
  have small : FilesSmall (Os.faultless 1800000000) (unpublished world).disk demoPair := by
    intro ca member bytes read
    have present := missing ca member
    rw [Os.fileExists, (Os.read_eq_ok.mp read).1] at present
    cases present
  obtain ⟨_, _, _, recovered, _⟩ := committed_generations_reload_iff
    (reached.run.edited outside) demoPair_apart works rfl (kept.edited outside).descriptor
    (reached.bundles.edited kept outside) (reached.current _) small
  exact ⟨responder, world, state, committed, reached.run, stand,
    (reloaded responder rfl).mpr ⟨policies, stand, reached.published⟩,
    started.mpr ⟨policies, stand, Or.inl reached.published⟩,
    (recovered missing).mpr ⟨policies, stand⟩⟩

end TwoLabels

end Hoike
