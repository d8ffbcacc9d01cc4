/-
Descriptor writes that are left indeterminate.

Such a write has replaced the descriptor although the operation fails and the
store in memory keeps the older marks.  The next write of the same process
starts from memory.  This module says when it cannot undercut what stands on
disk, over every run of one server process.
-/

import Hoike.Library.Runs
import Hoike.Core.Atomicity

namespace Hoike

open Ahu
open Fallible

section Process

variable [Sha2]

def World.NeverUndercut (world : World) : Prop :=
  ∀ replaced ∈ world.replacements, ∀ old, replaced.1 = some old → old.MarksKept replaced.2

/-- Every mark of the descriptor is reached again by a load that starts from
these marks and reads these bundles. -/
def PersistedState.Reached (memory : PersistedState) (source : Bundle → Prop)
    (descriptor : PersistedState) : Prop :=
  ∀ id mark, descriptor.highWaterMarks.lookup (PersistedState.scopeKey id) = some mark →
    (∃ mark', memory.highWaterMarks.lookup (PersistedState.scopeKey id) = some mark' ∧
      mark ≤ mark') ∨
      ∃ bundle epoch, source bundle ∧ Bundle.Claims bundle id epoch ∧ mark ≤ epoch

omit [Sha2] in
theorem PersistedState.Reached.of_marksKept {memory descriptor : PersistedState}
    {source : Bundle → Prop} (kept : descriptor.MarksKept memory) :
    memory.Reached source descriptor :=
  fun id mark recorded => Or.inl (kept id mark recorded)

omit [Sha2] in
theorem PersistedState.MarksKept.refl (state : PersistedState) : state.MarksKept state :=
  fun _ mark recorded => ⟨mark, recorded, UInt64.le_refl mark⟩

/-! ### One attempt -/

/-- A state that follows from a store's marks by accepting exactly these bundles. -/
structure Successor (store : StateStore) (source : Bundle → Prop) (state : PersistedState) :
    Prop where
  history : ∃ bundles : List Bundle, (∀ bundle ∈ bundles, source bundle) ∧
    Watermark.History store.state.ledger (bundles.map generation) state.ledger
  claimed : ∀ bundle, source bundle → Watermark.Covers state.ledger (generation bundle)

theorem Candidate.successor {os : Os} {source : Bundle → Prop} {store candidate : StateStore}
    {world after : World} {bundles : List Bundle}
    (staged : Candidate os source store.emptied world bundles candidate after) :
    Successor store source candidate.state := by
  have history := staged.climb.history
  rw [(StateStore.emptied_sameMarks store).ledger] at history
  refine ⟨⟨bundles, fun bundle => (staged.exactly bundle).mp, history⟩, ?_⟩
  intro bundle loaded
  exact history.covers _ (List.mem_map_of_mem ((staged.exactly bundle).mpr loaded))

theorem Successor.marksKept {store : StateStore} {source : Bundle → Prop}
    {state descriptor : PersistedState} (successor : Successor store source state)
    (reached : store.state.Reached source descriptor) : descriptor.MarksKept state := by
  obtain ⟨bundles, _, history⟩ := successor.history
  intro id mark recorded
  rcases reached id mark recorded with
    ⟨mark', inMemory, below⟩ | ⟨bundle, epoch, loaded, claims, below⟩
  · obtain ⟨mark'', found, above⟩ :=
      PersistedState.MarksKept.of_extends history.extends id mark' inMemory
    exact ⟨mark'', found, UInt64.le_trans below above⟩
  · obtain ⟨_, _, entry, above, _⟩ :=
      successor.claimed bundle loaded id epoch.toNat claims.generation
    obtain ⟨mark', found, rfl, _⟩ := PersistedState.ledger_eq_some.mp entry
    exact ⟨mark', found, UInt64.le_trans below (UInt64.le_iff_toNat_le.mpr above)⟩

theorem Successor.within {store : StateStore} {source : Bundle → Prop}
    {state : PersistedState} (successor : Successor store source state)
    (bounded : ∀ bundle, source bundle → ∀ id epoch, Bundle.Claims bundle id epoch →
      ∃ mark, store.state.highWaterMarks.lookup (PersistedState.scopeKey id) = some mark ∧
        epoch ≤ mark) : state.MarksKept store.state := by
  obtain ⟨bundles, loaded, history⟩ := successor.history
  intro id mark recorded
  have entry : state.ledger id = some (mark.toNat, _) :=
    PersistedState.ledger_eq_some.mpr ⟨mark, recorded, rfl, rfl⟩
  rcases history.origin entry with before | ⟨generation', member, claimed⟩
  · obtain ⟨mark', found, same, _⟩ := PersistedState.ledger_eq_some.mp before
    obtain rfl := UInt64.toNat_inj.mp same
    exact ⟨mark', found, UInt64.le_refl mark'⟩
  · obtain ⟨bundle, own, rfl⟩ := List.mem_map.mp member
    obtain ⟨scope, inBundle, same, epoch⟩ := mem_claims.mp claimed
    exact bounded bundle (loaded bundle own) id mark
      ⟨scope, inBundle, same, UInt64.toNat_inj.mp epoch⟩

/-- What one attempt does to the descriptor. -/
inductive Rewrite (directory : RealPath) (store : StateStore) (source : Bundle → Prop)
    (before after : World) : Prop
  | untouched : before.SameStates after → Rewrite directory store source before after
  | replaced {state} : Successor store source state →
      after.disk.descriptor (descriptorPlace directory) = some state →
        after.replacements = before.replacements ++
          [(before.disk.descriptor (descriptorPlace directory), state)] →
            Rewrite directory store source before after

theorem Attempt.rewrite {os : Os} {source : Bundle → Prop} {store : StateStore}
    {world : World} {result : Except CoreError (List Bundle)} {after : StateStore × World}
    {directory : RealPath} (place : os.locate store.path = descriptorPlace directory)
    (attempt : Attempt os source store.emptied store world result after) :
    Rewrite directory store source world after.2 := by
  have here : ∀ {bundles candidate middle},
      Candidate os source store.emptied world bundles candidate middle →
        os.locate candidate.path = descriptorPlace directory := by
    intro bundles candidate middle staged
    rw [staged.path]
    exact place
  have logged : ∀ {bundles candidate middle},
      Candidate os source store.emptied world bundles candidate middle →
        (StateStore.written os candidate middle).replacements = world.replacements ++
          [(world.disk.descriptor (descriptorPlace directory), candidate.state)] := by
    intro bundles candidate middle staged
    have same := staged.stashed.toSameStates
    unfold StateStore.written World.putState
    change middle.replacements ++ [(middle.disk.descriptor (os.locate candidate.path), _)] = _
    rw [here staged, same.replacements, Disk.descriptor, same.states]
    rfl
  cases attempt with
  | refused stashed =>
      exact .untouched stashed.toSameStates
  | uncertain staged _ =>
      refine .replaced staged.successor (Disk.descriptor_eq_some.mpr ?_) (logged staged)
      rw [← here staged]
      exact StateStore.written_states _ _ _
  | committed staged =>
      exact .replaced staged.successor
        (Disk.descriptor_eq_some.mpr (StateStore.committed_states (here staged))) (logged staged)

theorem Rewrite.neverUndercut {directory : RealPath} {store : StateStore}
    {source : Bundle → Prop} {before after : World}
    (rewrite : Rewrite directory store source before after)
    (reached : ∀ old, before.disk.descriptor (descriptorPlace directory) = some old →
      store.state.Reached source old)
    (sound : before.NeverUndercut) : after.NeverUndercut := by
  intro replaced member old found
  cases rewrite with
  | untouched same =>
      rw [same.replacements] at member
      exact sound replaced member old found
  | replaced successor _ log =>
      rw [log] at member
      rcases List.mem_append.mp member with earlier | last
      · exact sound replaced earlier old found
      · rw [List.mem_singleton.mp last] at found ⊢
        exact successor.marksKept (reached old found)

/-! ### Whole processes -/

variable [Ciborium] [Pki]

/-- Start-up may be followed by a recovery from the marks it opened.  That is
harmless if no label is bound, if no descriptor write is left indeterminate, or
if the configured bundles claim nothing above the recorded marks. -/
def System.StartKeepsMarks (directory : RealPath) (system : System) (os : Os)
    (config : Config) : Prop :=
  ∀ state, system.committed directory = some state →
    state.activeBundles.entries = [] ∨ os.CertainDescriptor ∨
      ∀ bundle, Configured os system.world.disk config bundle →
        ∀ id epoch, Bundle.Claims bundle id epoch →
          ∃ mark, state.highWaterMarks.lookup (PersistedState.scopeKey id) = some mark ∧
            epoch ≤ mark

def System.ReloadKeepsMarks (directory : RealPath) (system : System) (os : Os) : Prop :=
  ∀ server ∈ system.server, ∀ descriptor, system.committed directory = some descriptor →
    server.responder.stateStore.state.Reached
      (Configured (server.during os) system.world.disk server.responder.config) descriptor

/-- The condition under which a step of a server process keeps the marks.  An
installation is a process of its own. -/
def System.KeepsMarks (directory : RealPath) (system : System) : Action → Prop
  | .environment _ => True
  | .install _ _ _ _ => False
  | .start os config => system.StartKeepsMarks directory os config
  | .reload os => system.ReloadKeepsMarks directory os
  | .stop => True

/-- The server works on the descriptor of the directory, and no replacement so
far has undercut the one before it. -/
structure System.Sound (directory : RealPath) (system : System) : Prop where
  path : ∀ server ∈ system.server, ∃ stateDb,
    server.responder.stateStore.path = stateDb.child "state.json" ∧
      server.os.realpath stateDb = directory
  marks : system.world.NeverUndercut

omit [Pki] in
theorem System.committed_of_opened {directory : RealPath} {system : System} {os : Os}
    {stateDb : PathBuf} {store : StateStore} (resolved : os.realpath stateDb = directory)
    (opened : StateStore.openExisting os system.world.disk (stateDb.child "state.json") =
      .ok store) :
    store.path = stateDb.child "state.json" ∧
      system.committed directory = some store.state := by
  obtain ⟨path, _, found, _⟩ := StateStore.openExisting_eq_ok.mp opened
  unfold Os.readState at found
  rw [Os.locate_state resolved] at found
  exact ⟨path, Disk.descriptor_eq_some.mpr found⟩

theorem System.start_neverUndercut {directory : RealPath} {system : System} {os : Os}
    {config : Config} (sound : system.world.NeverUndercut)
    (safe : system.StartKeepsMarks directory os config) :
    Ensures (load os config ⟨directory⟩) system.world
      (fun responder after => after.NeverUndercut ∧
        ∃ stateDb, responder.stateStore.path = stateDb.child "state.json" ∧
          os.realpath stateDb = directory)
      (fun _ after => after.NeverUndercut) := by
  refine ensures_load (fun _ => sound) ?_
  intro store resolved opened
  obtain ⟨path, committed⟩ := System.committed_of_opened resolved opened
  have place : os.locate store.path = descriptorPlace directory := by
    rw [path]
    exact Os.locate_state resolved
  have same : ∀ source old, system.committed directory = some old →
      store.state.Reached source old := by
    intro source old found
    rw [committed] at found
    cases found
    exact .of_marksKept (.refl store.state)
  have first : ∀ {result after},
      Attempt os (Configured os system.world.disk config) store.emptied store system.world
        result after → after.2.NeverUndercut :=
    fun attempt => (attempt.rewrite place).neverUndercut (same _) sound
  -- The second attempt starts from the same marks; the descriptor may be newer.
  have second : ∀ {source error middle result after}, Recovering os store middle source →
      Attempt os (Configured os system.world.disk config) store.emptied store system.world
        (.error error) (store, middle) →
        Attempt os source store.emptied store middle result after → after.2.NeverUndercut := by
    intro source error middle result after recovering failed attempt
    refine (attempt.rewrite place).neverUndercut ?_ (first failed)
    intro old found
    cases failed.rewrite place with
    | untouched unchanged =>
        exact same source old ((System.committed_of_sameStates unchanged).symm.trans found)
    | replaced successor descriptor _ =>
        obtain rfl := Option.some.inj (descriptor.symm.trans found)
        rcases safe store.state committed with unbound | certain | bounded
        · exact absurd unbound recovering.bound
        · have kept := (failed.error_of_certain certain path).2
          exact same source _ ((System.committed_of_sameStates kept).symm.trans found)
        · exact .of_marksKept (successor.within bounded)
  refine ensures_loadOrRecover ?_ ?_ ?_ ?_
  · intro map after attempt
    exact ⟨first attempt, config.storage.stateDb, (attempt.ok_climb place).1.trans path,
      resolved⟩
  · intro error error' after attempt
    exact first attempt
  · intro source error middle map after recovering failed attempt
    exact ⟨second recovering failed attempt, config.storage.stateDb,
      (attempt.ok_climb place).1.trans path, resolved⟩
  · intro source error middle error' after recovering failed attempt
    exact second recovering failed attempt

theorem System.reload_neverUndercut {directory : RealPath} {system : System}
    {server : Server} {os : Os} (running : server ∈ system.server)
    (sound : system.Sound directory) (safe : system.ReloadKeepsMarks directory os) :
    Ensures (reload (server.during os)) (server.responder, system.world)
      (fun _ after => after.2.NeverUndercut ∧
        after.1.stateStore.path = server.responder.stateStore.path)
      (fun _ after => after.2.NeverUndercut ∧
        after.1.stateStore.path = server.responder.stateStore.path) := by
  obtain ⟨stateDb, path, resolved⟩ := sound.path server running
  have resolvedNow : (server.during os).realpath stateDb = directory := resolved
  have place : (server.during os).locate server.responder.stateStore.path =
      descriptorPlace directory := by
    rw [path]
    exact Os.locate_state resolvedNow
  have kept : ∀ {result after},
      Attempt (server.during os)
        (Configured (server.during os) system.world.disk server.responder.config)
        server.responder.stateStore.emptied server.responder.stateStore system.world
        result after → after.2.NeverUndercut := by
    intro result after attempt
    exact (attempt.rewrite place).neverUndercut (safe server running) sound.marks
  refine ensures_reload ?_ ?_
  · intro map after attempt
    exact ⟨kept attempt, (attempt.ok_climb place).1⟩
  · intro error after attempt
    refine ⟨kept attempt, ?_⟩
    cases attempt <;> rfl

theorem System.step_sound {directory : RealPath} (system : System) (action : Action)
    (sound : system.Sound directory) (safe : system.KeepsMarks directory action) :
    (system.step directory action).Sound directory := by
  cases action with
  | environment files =>
      exact ⟨sound.path, sound.marks⟩
  | install os config label bytes =>
      exact absurd safe id
  | start os config =>
      cases running : system.server with
      | some server =>
          simp only [System.step, running]
          exact sound
      | none =>
          simp only [System.step, running]
          apply Ensures.outcome (fun result => (system.afterStart os result).Sound directory)
          refine (System.start_neverUndercut sound.marks safe).mono ?_ ?_
          · rintro responder after ⟨marks, stateDb, path, resolved⟩
            refine ⟨?_, marks⟩
            intro server here
            cases here
            exact ⟨stateDb, path, resolved⟩
          · intro error after marks
            exact ⟨sound.path, marks⟩
  | reload os =>
      cases running : system.server with
      | none =>
          simp only [System.step, running]
          exact sound
      | some server =>
          have member : server ∈ system.server := by rw [running]; rfl
          obtain ⟨stateDb, path, resolved⟩ := sound.path server member
          simp only [System.step, running]
          apply Ensures.outcome (fun result => (system.afterReload server result).Sound directory)
          refine (System.reload_neverUndercut member sound safe).mono ?_ ?_ <;>
            · rintro _ ⟨responder, after⟩ ⟨marks, samePath⟩
              refine ⟨?_, marks⟩
              intro server' here
              cases here
              exact ⟨stateDb, samePath.trans path, resolved⟩
  | stop =>
      refine ⟨?_, sound.marks⟩
      intro server impossible
      cases impossible

/-- A server process all of whose steps meet their condition never replaces the
descriptor by one with a lower mark, whichever writes are left indeterminate. -/
theorem process_never_undercuts {directory : RealPath} {start : System}
    (stopped : start.server = none) (unwritten : start.world.replacements = [])
    (os : Os) (config : Config) (actions : List Action)
    (safe : Runs.AllMeet (System.step directory) (System.KeepsMarks directory) start
      (.start os config :: actions)) :
    ∀ replaced ∈ (start.run directory (.start os config :: actions)).world.replacements,
      ∀ old, replaced.1 = some old → old.MarksKept replaced.2 := by
  have initial : start.Sound directory := by
    refine ⟨?_, ?_⟩
    · intro server running
      rw [stopped] at running
      cases running
    · intro replaced member
      rw [unwritten] at member
      cases member
  exact (safe.invariant (System.Sound directory)
    (fun state action _ => System.step_sound state action) initial).marks

end Process

/-! ### Indeterminate writes of a demo server -/

section Indeterminate

local instance : Sha2 := Crates.sha2
local instance : Ciborium := Crates.ciborium
local instance : Pki := Crates.pki []

def Os.unsyncedDescriptor (now : UInt64) (calls : ℕ) : Os :=
  { Os.faultless now with
    writeOutcome := fun call path =>
      if path.fileName = some "state.json" ∧ call < calls then
        .directoryNotSynced (.other "Input/output error (os error 5)")
      else .durable }

def demoRestart : System :=
  { world :=
      { disk :=
          { contents := fun place =>
              if place = ["w", "bundles", "a.ahu"] then some (.octets (demoFile 6))
              else demoServing.world.disk.contents place }
        calls := 0
        replacements := [] }
    server := none
    accepted := [] }

def replacedMarks (system : System) : List (Option UInt64 × Option UInt64) :=
  system.world.replacements.map fun replaced =>
    (replaced.1.bind fun old => old.highWaterMarks.lookup (PersistedState.scopeKey demoScope),
      replaced.2.highWaterMarks.lookup (PersistedState.scopeKey demoScope))

theorem exists_replaced_of_marks {system : System} {before after : UInt64}
    (listed : (some before, some after) ∈ replacedMarks system) :
    ∃ replaced ∈ system.world.replacements, ∃ old, replaced.1 = some old ∧
      old.highWaterMarks.lookup (PersistedState.scopeKey demoScope) = some before ∧
        replaced.2.highWaterMarks.lookup (PersistedState.scopeKey demoScope) = some after := by
  obtain ⟨replaced, member, marks⟩ := List.mem_map.mp listed
  obtain ⟨first, second⟩ := Prod.mk.inj marks
  obtain ⟨old, found, mark⟩ := Option.bind_eq_some_iff.mp first
  exact ⟨replaced, member, old, found, mark, second⟩

/-- The first write of a start-up reached the disk although it was reported as
uncertain; the recovery then commits the older generation over it. -/
theorem recovery_undercuts_uncertain_commit :
    ∃ replaced ∈ (demoRestart.run ["w", "state"]
        [.start (Os.unsyncedDescriptor 1800000000 4) demoConfig]).world.replacements,
      ∃ old, replaced.1 = some old ∧
        old.highWaterMarks.lookup (PersistedState.scopeKey demoScope) = some 6 ∧
          replaced.2.highWaterMarks.lookup (PersistedState.scopeKey demoScope) = some 5 ∧
            ¬ old.MarksKept replaced.2 := by
  have marks : replacedMarks (demoRestart.run ["w", "state"]
      [.start (Os.unsyncedDescriptor 1800000000 4) demoConfig]) =
        [(some 5, some 6), (some 6, some 5)] := by
    decide +kernel
  obtain ⟨replaced, member, old, found, before, after⟩ :=
    exists_replaced_of_marks (marks ▸ List.mem_cons_of_mem _ List.mem_cons_self)
  refine ⟨replaced, member, old, found, before, after, ?_⟩
  intro kept
  obtain ⟨mark, present, above⟩ := kept demoScope 6 before
  rw [after] at present
  cases present
  exact absurd above (by decide)

def configuredClaims (os : Os) (disk : Disk) (config : Config) : List (ScopeId × UInt64) :=
  match configuredBundlePaths os disk config with
  | .error _ => []
  | .ok paths => paths.flatMap fun path =>
      match bundleFromFile os disk path with
      | .error _ => []
      | .ok bundle => bundle.manifest.caScopes.map fun scope =>
          (CaScope.id bundle scope, scope.epoch)

theorem exists_configured_of_claim {os : Os} {disk : Disk} {config : Config} {id : ScopeId}
    {epoch : UInt64} (claimed : (id, epoch) ∈ configuredClaims os disk config) :
    ∃ bundle, Configured os disk config bundle ∧ Bundle.Claims bundle id epoch := by
  unfold configuredClaims at claimed
  cases found : configuredBundlePaths os disk config with
  | error error =>
      rw [found] at claimed
      cases claimed
  | ok paths =>
      rw [found] at claimed
      obtain ⟨path, member, inFile⟩ := List.mem_flatMap.mp claimed
      cases parsed : bundleFromFile os disk path with
      | error error =>
          rw [parsed] at inFile
          cases inFile
      | ok bundle =>
          rw [parsed] at inFile
          obtain ⟨scope, inBundle, same⟩ := List.mem_map.mp inFile
          cases same
          exact ⟨bundle, ⟨paths, path, found, member, parsed⟩, scope, inBundle, rfl, rfl⟩

/-- The demo mark in memory, all marks on disk and what the configured files claim. -/
structure ReloadView where
  memory : Option UInt64
  disk : List (String × UInt64)
  claims : List (ScopeId × UInt64)
deriving DecidableEq

def reloadView (os : Os) (system : System) : Option ReloadView :=
  match system.server, system.committed ["w", "state"] with
  | some server, some descriptor => some
      { memory := server.responder.stateStore.state.highWaterMarks.lookup
          (PersistedState.scopeKey demoScope)
        disk := descriptor.highWaterMarks.entries.map fun entry => (entry.1, entry.2)
        claims := configuredClaims (server.during os) system.world.disk
          server.responder.config }
  | _, _ => none

theorem reloadKeepsMarks_of_view {os : Os} {system : System} (memory disk : UInt64)
    (claims : List (ScopeId × UInt64))
    (view : reloadView os system =
      some ⟨some memory, [(PersistedState.scopeKey demoScope, disk)], claims⟩)
    (reached : disk ≤ memory ∨ (demoScope, disk) ∈ claims) :
    system.ReloadKeepsMarks ["w", "state"] os := by
  intro server running descriptor committed id mark recorded
  unfold reloadView at view
  rw [Option.mem_def.mp running, committed] at view
  simp only [Option.some.injEq, ReloadView.mk.injEq] at view
  obtain ⟨inMemory, onDisk, rfl⟩ := view
  -- The descriptor has one mark, so only the demo scope is to be looked at.
  have listed : (PersistedState.scopeKey id, mark) ∈
      descriptor.highWaterMarks.entries.map (fun entry => (entry.1, entry.2)) :=
    List.mem_map.mpr ⟨_, AList.mem_lookup_iff.mp recorded, rfl⟩
  rw [onDisk, List.mem_singleton, Prod.mk.injEq] at listed
  obtain ⟨sameKey, rfl⟩ := listed
  obtain rfl := PersistedState.scopeKey_injective sameKey
  rcases reached with below | claimed
  · exact Or.inl ⟨memory, inMemory, below⟩
  · obtain ⟨bundle, configured, claims⟩ := exists_configured_of_claim claimed
    exact Or.inr ⟨bundle, mark, configured, claims, UInt64.le_refl mark⟩

def demoStopped : System :=
  { world := World.holding [(["w", "bundles", "a.ahu"], demoFile 5)]
      ["w", "state", "state.json"] PersistedState.default
    server := none
    accepted := [] }

def demoRetry : List Action :=
  [publishDemo 6, .reload (Os.unsyncedDescriptor 1800000000 100),
    .reload (Os.faultless 1800000000)]

theorem demo_retry_never_undercuts :
    replacedMarks (demoStopped.run ["w", "state"]
      (.start (Os.faultless 1800000000) demoConfig :: demoRetry)) =
        [(none, some 5), (some 5, some 6), (some 6, some 6)] ∧
      ∀ replaced ∈ (demoStopped.run ["w", "state"]
          (.start (Os.faultless 1800000000) demoConfig :: demoRetry)).world.replacements,
        ∀ old, replaced.1 = some old → old.MarksKept replaced.2 := by
  refine ⟨by decide +kernel, process_never_undercuts rfl rfl _ _ _ ⟨?_, trivial, ?_, ?_, trivial⟩⟩
  · rintro state committed
    cases committed
    exact Or.inl rfl
  · exact reloadKeepsMarks_of_view 5 5 [(demoScope, 6)] (by decide +kernel)
      (Or.inl (by decide))
  · exact reloadKeepsMarks_of_view 5 6 [(demoScope, 6)] (by decide +kernel)
      (Or.inr (by decide))

end Indeterminate

end Hoike
