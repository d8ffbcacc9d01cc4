/-
Failure atomicity of the commit point.

A failed installation or reload has not touched the descriptor, the store in
memory or the served map.  The one thing it may have written is snapshots,
under names that are the digests of their contents.
-/

import Hoike.Core.Continuity

namespace Hoike

open Ahu
open Fallible

namespace StateStore

variable [Sha2]

/-! ### What a failed operation leaves -/

def Genuine (directory : RealPath) (disk : Disk) (place : RealPath) : Prop :=
  ∃ bytes, disk.files place = some bytes ∧ place = directory ++ [snapshotName bytes]

/-- A digest-named file of the directory that is missing or altered is not
intact; every other file is. -/
def Intact (directory : RealPath) (disk : Disk) (place : RealPath) : Prop :=
  (∃ name, place = directory ++ [name] ∧ isGenerated name = true) →
    Genuine directory disk place

def ContentsSeparated (before after : World) : Prop :=
  ∀ place old new, before.disk.files place = some old → after.disk.files place = some new →
    Sha2.sha256 old = Sha2.sha256 new → old = new

/-- The descriptors are as before, and so is every file, but for digest-named
ones that were not intact and now are. -/
structure Untouched (directory : RealPath) (before after : World) : Prop where
  descriptors : ∀ stateDir, after.disk.contents (descriptorPlace stateDir) =
    before.disk.contents (descriptorPlace stateDir)
  files : ContentsSeparated before after → ∀ place,
    after.disk.files place = before.disk.files place ∨
      (¬ Intact directory before.disk place ∧ Genuine directory after.disk place)

theorem Stashed.untouched {directory : RealPath} {source : Bundle → Prop}
    {before after : World} (stashed : Stashed directory source before after) :
    Untouched directory before after := by
  refine ⟨fun stateDir => ?_, fun separated place => ?_⟩
  · rcases stashed.contents (descriptorPlace stateDir) with same | ⟨_, _, place, _⟩
    · exact same
    · exact absurd place (descriptorPlace_ne_snapshot _ _ _)
  · rcases stashed.files place with same | ⟨bytes, _, name, stored⟩
    · exact Or.inl same
    · by_cases intact : Intact directory before.disk place
      · -- The place carries a digest name, so an intact file already held its contents.
        obtain ⟨old, held, oldName⟩ := intact ⟨_, name, isGenerated_snapshotName bytes⟩
        have sameName : snapshotName old = snapshotName bytes := by
          simpa using oldName.symm.trans name
        apply Or.inl
        rw [stored, held, separated place old bytes held stored (snapshotName_inj sameName)]
      · exact Or.inr ⟨intact, bytes, stored, name⟩

end StateStore

/-! ### What a successful installation leaves -/

section CommitPoint

variable [Sha2]

/-- The state records the bundle at its own claims: the mark of every scope is
an epoch the bundle claims for it, not below the scope's, under its digest. -/
def PersistedState.Records (state : PersistedState) (bundle : Bundle) : Prop :=
  ∀ scope ∈ bundle.manifest.caScopes, ∃ mark,
    state.highWaterMarks.lookup (PersistedState.scopeKey (CaScope.id bundle scope)) = some mark ∧
      scope.epoch ≤ mark ∧ Bundle.Claims bundle (CaScope.id bundle scope) mark ∧
        state.digestAt (PersistedState.scopeKey (CaScope.id bundle scope)) =
          some (Sha2.sha256 bundle.manifestBytes)

theorem PersistedState.records_of_admitted {store : StateStore} {bundle : Bundle}
    (checked : store.checkRollback bundle = .ok ()) {state : PersistedState}
    (marks : (store.state.recordBundle bundle).SameMarks state) : state.Records bundle := by
  intro scope member
  have claimed : (CaScope.id bundle scope, scope.epoch.toNat) ∈ (generation bundle).claims :=
    mem_claims.mpr ⟨scope, member, rfl, rfl⟩
  obtain ⟨epoch, recorded, below, own⟩ :=
    (StateStore.admits_of_checkRollback checked).record_claimed claimed
  rw [← PersistedState.ledger_recordBundle, ← marks.ledger] at recorded
  obtain ⟨mark, found, rfl, digest⟩ := PersistedState.ledger_eq_some.mp recorded
  obtain ⟨scope', member', same, epoch'⟩ := mem_claims.mp own
  exact ⟨mark, found, UInt64.le_iff_toNat_le.mpr below,
    ⟨scope', member', same, UInt64.toNat_inj.mp epoch'⟩, digest⟩

def HoldsSnapshot [Ciborium] (os : Os) (disk : Disk) (path : PathBuf) (bundle : Bundle) : Prop :=
  ∃ contents header, disk.files (os.locate path) = some contents ∧
    Bundle.fromBytes contents = .ok { bundle with header := header }

variable [Ciborium] [Pki]

theorem Installing.snapshot_ne_state {os : Os} {config : Config} {label : String} {bytes : Bytes}
    {guard : StateDirectoryLock} {world middle : World} {destination : PathBuf}
    {bundle : Bundle} {store : StateStore} {canonical : Bytes}
    (installing : Installing os config label bytes guard world destination bundle store
      canonical middle) :
    os.locate (store.snapshotPath canonical) ≠ os.locate store.path := by
  rw [(StateStore.openExisting_eq_ok.mp installing.opened).1, StateStore.snapshotPath,
    Os.locate_child, Config.statePath, Os.locate_state rfl]
  exact (StateStore.descriptorPlace_ne_snapshot _ _ _).symm

theorem Installing.descriptor {os : Os} {config : Config} {label : String} {bytes : Bytes}
    {guard : StateDirectoryLock} {world middle after : World} {destination : PathBuf}
    {bundle : Bundle} {store : StateStore} {canonical : Bytes}
    (installing : Installing os config label bytes guard world destination bundle store
      canonical middle)
    (published : Published os destination bytes (StateStore.committed os store
      (installCandidate store label bundle canonical) middle) after)
    (apart : os.locate destination ≠ os.locate config.statePath) :
    after.disk.states (os.locate config.statePath) =
      some (.parsed (installCandidate store label bundle canonical).state) := by
  have path := (StateStore.openExisting_eq_ok.mp installing.opened).1
  have place : os.locate (installCandidate store label bundle canonical).path =
      descriptorPlace (os.realpath config.storage.stateDb) := by
    change os.locate store.path = _
    rw [path]
    exact Os.locate_state rfl
  have here : os.locate config.statePath =
      descriptorPlace (os.realpath config.storage.stateDb) := Os.locate_state rfl
  rw [Disk.states, published.elsewhere apart.symm, here]
  exact StateStore.committed_states place

theorem Installing.holdsSnapshot {os : Os} {config : Config} {label : String} {bytes : Bytes}
    {guard : StateDirectoryLock} {world middle after : World} {destination : PathBuf}
    {bundle : Bundle} {store : StateStore} {canonical : Bytes}
    (installing : Installing os config label bytes guard world destination bundle store
      canonical middle)
    (published : Published os destination bytes (StateStore.committed os store
      (installCandidate store label bundle canonical) middle) after) :
    HoldsSnapshot os after.disk (store.snapshotPath canonical) bundle := by
  have kept : (StateStore.committed os store (installCandidate store label bundle canonical)
      middle).disk.files (os.locate (store.snapshotPath canonical)) = some canonical := by
    have elsewhere : os.locate (store.snapshotPath canonical) ≠
        os.locate (installCandidate store label bundle canonical).path :=
      installing.snapshot_ne_state
    unfold StateStore.snapshotPath at elsewhere ⊢
    rw [StateStore.committed_files_referenced elsewhere (AList.lookup_insert _)]
    exact installing.stored.present
  obtain ⟨header, _, _, reparsed⟩ := Bundle.fromBytes_toBytes
    (Bundle.decoded_of_fromBytes installing.parsed) installing.serialized
  rcases published with same | stored
  · exact ⟨canonical, header, by rw [same.files, kept], reparsed⟩
  · -- Publication overwrites the snapshot only if the destination is that very file.
    by_cases here : os.locate (store.snapshotPath canonical) = os.locate destination
    · refine ⟨bytes, bundle.header, ?_, installing.parsed⟩
      rw [stored.files, here, Function.update_self]
    · refine ⟨canonical, header, ?_, reparsed⟩
      rw [stored.files, Function.update_of_ne here, kept]

theorem reload_error_untouched {os : Os} {responder responder' : ResponderState}
    {world after : World} {error : CoreError}
    (ran : (reload os).outcome (responder, world) = (.error error, responder', after))
    (determinate : ¬ error.IndeterminateAt responder.stateStore.path) :
    responder' = responder ∧
      StateStore.Untouched (os.realpath responder.stateStore.generations) world after := by
  have spec : Ensures (reload os) (responder, world) (fun _ _ => True)
      (fun error result => ¬ error.IndeterminateAt responder.stateStore.path →
        result.1 = responder ∧ StateStore.Untouched
          (os.realpath responder.stateStore.generations) world result.2) := by
    refine ensures_reload (fun _ _ _ => trivial) ?_
    intro error after attempt determinate
    cases attempt with
    | refused stashed =>
        exact ⟨rfl, stashed.untouched⟩
    | uncertain _ _ =>
        exact absurd ⟨_, rfl⟩ determinate
  exact spec.of_error ran determinate

theorem installBundle_error_untouched {os : Os} {config : Config} {label : String}
    {bytes : Bytes} {guard : StateDirectoryLock} {world after : World} {error : CoreError}
    (ran : (installBundle os config label bytes guard).outcome world = (.error error, after))
    (determinate : ¬ error.IndeterminateAt config.statePath) :
    StateStore.Untouched (os.realpath config.generations) world after := by
  have spec : Ensures (installBundle os config label bytes guard) world (fun _ _ => True)
      (fun error after => ¬ error.IndeterminateAt config.statePath →
        StateStore.Untouched (os.realpath config.generations) world after) := by
    refine ensures_installBundle (fun _ _ _ _ _ _ _ _ _ => trivial) ?_ ?_
    · intro error after stashed _
      exact stashed.untouched
    · intro _ _ store _ _ _ reason installing _ determinate
      rw [(StateStore.openExisting_eq_ok.mp installing.opened).1] at determinate
      exact absurd ⟨reason, rfl⟩ determinate
  exact spec.of_error ran determinate

/-- A failure other than an indeterminate descriptor write leaves descriptors,
memory, the served map and every file alone, altered snapshots apart, and a
success that does not publish onto the descriptor records the bundle and
references a snapshot of it. -/
theorem commit_point_atomic :
    (∀ (os : Os) (responder responder' : ResponderState) (world after : World)
        (error : CoreError),
      (reload os).outcome (responder, world) = (.error error, responder', after) →
        ¬ error.IndeterminateAt responder.stateStore.path →
          responder' = responder ∧
            StateStore.Untouched (os.realpath responder.stateStore.generations) world after) ∧
    (∀ (os : Os) (config : Config) (label : String) (bytes : Bytes)
        (guard : StateDirectoryLock) (world after : World) (error : CoreError),
      (installBundle os config label bytes guard).outcome world = (.error error, after) →
        ¬ error.IndeterminateAt config.statePath →
          StateStore.Untouched (os.realpath config.generations) world after) ∧
    (∀ (os : Os) (config : Config) (label : String) (bytes : Bytes)
        (guard : StateDirectoryLock) (world after : World) (result : InstallResult),
      (installBundle os config label bytes guard).outcome world = (.ok result, after) →
        (∀ destination, config.bundleDestination os world.disk label = .ok destination →
          os.locate destination ≠ os.locate config.statePath) →
        ∃ bundle state path, Bundle.fromBytes bytes = .ok bundle ∧
          after.disk.states (os.locate config.statePath) = some (.parsed state) ∧
            state.Records bundle ∧ state.activeBundles.lookup label = some path ∧
              HoldsSnapshot os after.disk path bundle) := by
  refine ⟨?_, ?_, ?_⟩
  · intro os responder responder' world after error ran determinate
    exact reload_error_untouched ran determinate
  · intro os config label bytes guard world after error ran determinate
    exact installBundle_error_untouched ran determinate
  · intro os config label bytes guard world after result ran apart
    obtain ⟨destination, bundle, store, canonical, middle, installing, published⟩ :=
      installBundle_eq_ok ran
    refine ⟨bundle, (installCandidate store label bundle canonical).state,
      store.snapshotPath canonical, installing.parsed, ?_, ?_, AList.lookup_insert _,
      installing.holdsSnapshot published⟩
    · exact installing.descriptor published (apart destination installing.destination)
    · exact PersistedState.records_of_admitted installing.rollback ⟨rfl, rfl⟩

end CommitPoint

/-! ### Failures of a demo server and of an installation -/

section Failures

local instance : Sha2 := Crates.sha2
local instance : Ciborium := Crates.ciborium

def Os.readOnlyDescriptor (now : UInt64) : Os :=
  { Os.faultless now with
    writeOutcome := fun _ path =>
      if path.fileName = some "state.json" then .failedBeforeRename .permissionDenied
      else .durable }

def demoFile (epoch : UInt64) : Bytes :=
  Crates.plainFile (Crates.plainManifest "p" [Crates.plainScope 0xaa epoch] none) []

section Demo

local instance : Pki := Crates.pki []

def demoServing : System :=
  initializedSystem.run ["w", "state"] firstLoad

def demoAltered : System :=
  demoServing.step ["w", "state"] (.environment fun place =>
    if place = ["w", "bundles", "a.ahu"] then some (demoFile 5)
    else if place = ["w", "state", "generations", StateStore.snapshotName (demoFile 5)] then
      some [0]
    else none)

def failedReload (os : Os) (label : String) (system : System) :
    Option (CoreError × PathBuf × Option Bytes × Option Bytes) :=
  match system.server with
  | none => none
  | some server =>
      match (reload os).outcome (server.responder, system.world),
          server.responder.stateStore.state.activeBundles.lookup label with
      | (.error error, _, after), some path =>
          some (error, path, system.world.disk.files (os.locate path),
            after.disk.files (os.locate path))
      | _, _ => none

theorem failedReload_eq_some {os : Os} {label : String} {system : System} {error : CoreError}
    {path : PathBuf} {before after : Option Bytes}
    (ran : failedReload os label system = some (error, path, before, after)) :
    ∃ server responder world, system.server = some server ∧
      (reload os).outcome (server.responder, system.world) = (.error error, responder, world) ∧
        server.responder.stateStore.state.activeBundles.lookup label = some path ∧
          system.world.disk.files (os.locate path) = before ∧
            world.disk.files (os.locate path) = after := by
  unfold failedReload at ran
  cases running : system.server with
  | none =>
      rw [running] at ran
      cases ran
  | some server =>
      rw [running] at ran
      dsimp only at ran
      split at ran
      · rename_i error' responder world path' outcome referenced
        cases ran
        exact ⟨server, responder, world, rfl, outcome, referenced, rfl, rfl⟩
      · cases ran

theorem failedReloads_computed :
    failedReload (Os.readOnlyDescriptor 1800000000) "a" demoAltered =
      some (.io .permissionDenied, (pinnedStore PersistedState.default).snapshotPath (demoFile 5),
        some [0], some (demoFile 5)) ∧
    failedReload (Os.readOnlyDescriptor 1800000000) "a" demoServing =
      some (.io .permissionDenied, (pinnedStore PersistedState.default).snapshotPath (demoFile 5),
        some (demoFile 5), some (demoFile 5)) ∧
    some (demoFile 5) ≠ some [0] :=
  ⟨by decide +kernel, by decide +kernel, by decide +kernel⟩

end Demo

section Overwritten

local instance : Pki := Crates.pki [(Sha2.sha256 followUp.toCbor, followUpSignature)]

def installOntoDescriptor : Effect InstallResult :=
  installBundle (Os.faultless 1800000000)
    { pinnedConfig with
      ca := [{ label := "a", bundleFile := some pinnedConfig.statePath }] }
    "a" followUpFile ⟨["w", "state"]⟩

theorem installOntoDescriptor_computed :
    (installOntoDescriptor.outcome (pinnedWorld predecessorState)).1.isOk = true ∧
      (installOntoDescriptor.outcome (pinnedWorld predecessorState)).2.disk.states
        ((Os.faultless 1800000000).locate pinnedConfig.statePath) = some .notText := by
  decide +kernel

/-- A reload that fails at its descriptor write has already replaced the
altered snapshot of the committed label, and a successful installation may
replace the descriptor by the bundle. -/
theorem failed_reload_and_publication_rewrite :
    (∃ server responder world path, demoAltered.server = some server ∧
      (@reload Crates.sha2 Crates.ciborium (Crates.pki [])
        (Os.readOnlyDescriptor 1800000000)).outcome (server.responder, demoAltered.world) =
          (.error (.io .permissionDenied), responder, world) ∧
        server.responder.stateStore.state.activeBundles.lookup "a" = some path ∧
          demoAltered.world.disk.files ((Os.readOnlyDescriptor 1800000000).locate path) =
            some [0] ∧
            world.disk.files ((Os.readOnlyDescriptor 1800000000).locate path) ≠ some [0]) ∧
    ∃ result after,
      installOntoDescriptor.outcome (pinnedWorld predecessorState) = (.ok result, after) ∧
        after.disk.states ((Os.faultless 1800000000).locate pinnedConfig.statePath) =
          some .notText := by
  constructor
  · obtain ⟨server, responder, world, running, ran, referenced, before, after⟩ :=
      failedReload_eq_some failedReloads_computed.1
    refine ⟨server, responder, world, _, running, ran, referenced, before, ?_⟩
    rw [after]
    exact failedReloads_computed.2.2
  · obtain ⟨succeeded, descriptor⟩ := installOntoDescriptor_computed
    obtain ⟨result, after, ran⟩ := Fallible.eq_ok_of_isOk succeeded
    rw [ran] at descriptor
    exact ⟨result, after, ran, descriptor⟩

end Overwritten

theorem not_indeterminateAt_io (path : PathBuf) (error : IoError) :
    ¬ (CoreError.io error).IndeterminateAt path := by
  rintro ⟨_, impossible⟩
  cases impossible

/-- The same failure with an intact snapshot changes nothing, and an accepted
installation is recorded with its snapshot. -/
theorem demo_reload_untouched_and_followUp_recorded :
    (∃ server responder world, demoServing.server = some server ∧
      (@reload Crates.sha2 Crates.ciborium (Crates.pki [])
        (Os.readOnlyDescriptor 1800000000)).outcome (server.responder, demoServing.world) =
          (.error (.io .permissionDenied), responder, world) ∧
        responder = server.responder ∧
          StateStore.Untouched ((Os.readOnlyDescriptor 1800000000).realpath
            server.responder.stateStore.generations) demoServing.world world) ∧
    (∃ result after bundle state path,
      installFollowUp.outcome (pinnedWorld predecessorState) = (.ok result, after) ∧
        Bundle.fromBytes followUpFile = .ok bundle ∧
          after.disk.states ((Os.faultless 1800000000).locate pinnedConfig.statePath) =
            some (.parsed state) ∧ state.Records bundle ∧
              state.activeBundles.lookup "a" = some path ∧
                HoldsSnapshot (Os.faultless 1800000000) after.disk path bundle) := by
  constructor
  · obtain ⟨server, responder, world, running, ran, _⟩ :=
      failedReload_eq_some failedReloads_computed.2.1
    obtain ⟨same, untouched⟩ := (@commit_point_atomic Crates.sha2 Crates.ciborium
      (Crates.pki [])).1 _ _ _ _ _ _ ran (not_indeterminateAt_io _ _)
    exact ⟨server, responder, world, running, ran, same, untouched⟩
  · obtain ⟨result, after, ran⟩ := Fallible.eq_ok_of_isOk followUp_computed.2.1
    have apart : ∀ destination, pinnedConfig.bundleDestination (Os.faultless 1800000000)
        (pinnedWorld predecessorState).disk "a" = .ok destination →
          (Os.faultless 1800000000).locate destination ≠
            (Os.faultless 1800000000).locate pinnedConfig.statePath := by
      intro destination resolved
      obtain ⟨_, _, ⟨⟩, rfl, _⟩ := Config.bundleDestination_eq_ok.mp resolved
      decide
    obtain ⟨bundle, state, path, parsed, descriptor, records, referenced, held⟩ :=
      (@commit_point_atomic Crates.sha2 Crates.ciborium
        (Crates.pki [(Sha2.sha256 followUp.toCbor, followUpSignature)])).2.2 _ _ _ _ _ _ _ _ ran
          apart
    exact ⟨result, after, bundle, state, path, ran, parsed, descriptor, records, referenced,
      held⟩

end Failures

end Hoike
