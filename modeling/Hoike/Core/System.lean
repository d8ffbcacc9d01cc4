/-
Runs over one state directory.

Processes follow one another because each holds the writer lock.  A process is
one installation, or a server that loads once and then reloads any number of
times.  Between any two steps the octet files may change in any way; the
descriptor is written by the processes alone.  An installation configured to
publish its bundle onto the descriptor destroys it, and no later process opens
the store.  The list of accepted bundles is not part of the program: it records
what each successful step accepted.
-/

import Hoike.Core.Ledger

namespace Hoike

open Ahu
open Fallible

/-- A server with the environment it was started in. -/
structure Server where
  os : Os
  responder : ResponderState

/-- The environment of a later call of the same process: the working directory
and the links are those of the start. -/
def Server.during (server : Server) (os : Os) : Os :=
  { os with
    cwd := server.os.cwd
    links := server.os.links }

structure System where
  world : World
  server : Option Server
  accepted : List Bundle

inductive Action where
  | environment (files : RealPath → Option Bytes)
  | install (os : Os) (config : Config) (label : String) (bytes : Bytes)
  | start (os : Os) (config : Config)
  | reload (os : Os)
  | stop

namespace System

variable [Sha2] [Ciborium] [Pki]

def afterInstall (system : System) (bytes : Bytes) :
    Except CoreError InstallResult × World → System
  | (.ok _, world) =>
      { system with
        world := world
        accepted := system.accepted ++ (Bundle.fromBytes bytes).toOption.toList }
  | (.error _, world) => { system with world := world }

def afterStart (system : System) (os : Os) :
    Except CoreError ResponderState × World → System
  | (.ok responder, world) =>
      { world := world
        server := some { os := os, responder := responder }
        accepted := system.accepted ++ responder.scopeMap.bundles }
  | (.error _, world) => { system with world := world }

def afterReload (system : System) (server : Server) :
    Except CoreError Unit × ResponderState × World → System
  | (.ok _, responder, world) =>
      { world := world
        server := some { server with responder := responder }
        accepted := system.accepted ++ responder.scopeMap.bundles }
  | (.error _, responder, world) =>
      { system with
        world := world
        server := some { server with responder := responder } }

/-- One step over the state directory.  While a server runs it holds the lock,
so a second process ends without an effect. -/
def step (directory : RealPath) (system : System) : Action → System
  | .environment files =>
      { system with
        world := { system.world with disk := system.world.disk.replaceFiles directory files } }
  | .install os config label bytes =>
      match system.server with
      | some _ => system
      | none => system.afterInstall bytes
          ((installBundle os config label bytes ⟨directory⟩).outcome system.world)
  | .start os config =>
      match system.server with
      | some _ => system
      | none => system.afterStart os ((load os config ⟨directory⟩).outcome system.world)
  | .reload os =>
      match system.server with
      | none => system
      | some server => system.afterReload server
          ((reload (server.during os)).outcome (server.responder, system.world))
  | .stop => { system with server := none }

def run (directory : RealPath) (system : System) (actions : List Action) : System :=
  actions.foldl (step directory) system

def committed (directory : RealPath) (system : System) : Option PersistedState :=
  system.world.disk.descriptor (descriptorPlace directory)

def Initialized (directory : RealPath) (system : System) : Prop :=
  system.server = none ∧ system.accepted = [] ∧
    ∃ os stateDb world store, os.realpath stateDb = directory ∧
      (StateStore.initializeFresh os (stateDb.child "state.json")).outcome world =
        (.ok store, system.world)

end System

/-! ### The step invariant -/

def Os.CertainDescriptor (os : Os) : Prop :=
  ∀ calls path error, path.fileName = some "state.json" →
    os.writeOutcome calls path ≠ .directoryNotSynced error

def Action.CertainDescriptor : Action → Prop
  | .environment _ => True
  | .install os _ _ _ => os.CertainDescriptor
  | .start os _ => os.CertainDescriptor
  | .reload os => os.CertainDescriptor
  | .stop => True

/-- An installation that is configured to publish where the descriptor lies. -/
def Action.OverwritesDescriptor (directory : RealPath) : Action → Prop
  | .environment _ => False
  | .install os config label _ =>
      ∃ ca ∈ config.ca, ca.label = label ∧
        os.locate (config.bundlePath ca) = descriptorPlace directory
  | .start _ _ => False
  | .reload _ => False
  | .stop => False

namespace System

/-- A descriptor that decodes is this state, and a running server works on it
under the same state. -/
structure Consistent (directory : RealPath) (state : PersistedState) (system : System) :
    Prop where
  descriptor : ∀ found, system.committed directory = some found → found = state
  memory : ∀ server ∈ system.server, server.responder.stateStore.state = state
  path : ∀ server ∈ system.server, ∃ stateDb,
    server.responder.stateStore.path = stateDb.child "state.json" ∧
      server.os.realpath stateDb = directory

theorem Consistent.of_stopped {directory : RealPath} {state : PersistedState}
    {system : System} (stopped : system.server = none)
    (readable : system.committed directory = some state) : system.Consistent directory state := by
  refine ⟨?_, ?_, ?_⟩
  · intro found present
    exact Option.some.inj (present.symm.trans readable)
  · intro server running
    rw [stopped] at running
    cases running
  · intro server running
    rw [stopped] at running
    cases running

theorem committed_of_sameStates {directory : RealPath} {system : System} {after : World}
    (same : system.world.SameStates after) :
    after.disk.descriptor (descriptorPlace directory) = system.committed directory := by
  unfold committed Disk.descriptor
  rw [same.states]

theorem Consistent.of_noNewDescriptor {directory : RealPath} {state : PersistedState}
    {system : System} {after : World} (consistent : system.Consistent directory state)
    (noNew : system.world.NoNewDescriptor after) :
    ({ system with world := after } : System).Consistent directory state :=
  { descriptor := fun found present => consistent.descriptor found (noNew _ found present)
    memory := consistent.memory
    path := consistent.path }

theorem Consistent.of_sameStates {directory : RealPath} {state : PersistedState}
    {system : System} {after : World} (consistent : system.Consistent directory state)
    (same : system.world.SameStates after) :
    ({ system with world := after } : System).Consistent directory state :=
  { descriptor := fun found present =>
      consistent.descriptor found ((committed_of_sameStates same).symm.trans present)
    memory := consistent.memory
    path := consistent.path }

end System

theorem Os.locate_state {os : Os} {stateDb : PathBuf} {directory : RealPath}
    (resolved : os.realpath stateDb = directory) :
    os.locate (stateDb.child "state.json") = descriptorPlace directory := by
  rw [Os.locate_child, resolved]
  rfl

theorem Published.noNewDescriptor {os : Os} {destination : PathBuf} {bytes : Bytes}
    {before after : World} (published : Published os destination bytes before after) :
    before.NoNewDescriptor after := by
  rcases published with same | stored
  · exact .of_disk same.disk
  · exact stored.noNewDescriptor

section Attempts

variable [Sha2]

omit [Sha2] in
theorem Os.CertainDescriptor.child {os : Os} (certain : os.CertainDescriptor)
    (calls : ℕ) (stateDb : PathBuf) (error : IoError) :
    os.writeOutcome calls (stateDb.child "state.json") ≠ .directoryNotSynced error :=
  certain calls _ error (PathBuf.fileName_child (by decide) (by decide))

theorem Attempt.error_of_certain {os : Os} {source : Bundle → Prop} {base store : StateStore}
    {world : World}
    {error : CoreError} {after : StateStore × World} {stateDb : PathBuf}
    (certain : os.CertainDescriptor) (path : store.path = stateDb.child "state.json")
    (attempt : Attempt os source base store world (.error error) after) :
    after.1 = store ∧ world.SameStates after.2 := by
  cases attempt with
  | refused stashed =>
      exact ⟨rfl, stashed.toSameStates⟩
  | uncertain staged unsynced =>
      rw [path] at unsynced
      exact absurd unsynced (certain.child _ _ _)

theorem Attempt.ok_climb {os : Os} {source : Bundle → Prop} {store : StateStore}
    {world : World} {bundles : List Bundle} {after : StateStore × World} {directory : RealPath}
    (place : os.locate store.path = descriptorPlace directory)
    (attempt : Attempt os source store.emptied store world (.ok bundles) after) :
    after.1.path = store.path ∧
      after.2.disk.descriptor (descriptorPlace directory) = some after.1.state ∧
        Watermark.Climb maxEpochJump.toNat store.state.ledger (bundles.map generation)
          after.1.state.ledger := by
  cases attempt with
  | committed staged =>
      refine ⟨rfl, ?_, ?_⟩
      · refine Disk.descriptor_eq_some.mpr (StateStore.committed_states ?_)
        rw [staged.path]
        exact place
      · rw [← (StateStore.emptied_sameMarks store).ledger]
        exact staged.climb

end Attempts

namespace System

variable [Sha2] [Ciborium] [Pki]

/-- What a step may do: accept some bundles, in order, and record them.  The
descriptor stays readable unless it is overwritten. -/
structure Advance (directory : RealPath) (overwritten : Prop) (state : PersistedState)
    (system next : System) (state' : PersistedState) (fresh : List Bundle) : Prop where
  consistent : next.Consistent directory state'
  standing : (system.committed directory).isSome → ¬ overwritten →
    next.committed directory = some state'
  accepted : next.accepted = system.accepted ++ fresh
  climb : Watermark.Climb maxEpochJump.toNat state.ledger (fresh.map generation) state'.ledger

omit [Ciborium] [Pki] in
theorem Advance.idle {directory : RealPath} {overwritten : Prop} {state : PersistedState}
    {system next : System} (consistent : next.Consistent directory state)
    (sameDescriptor : next.committed directory = system.committed directory)
    (same : next.accepted = system.accepted) :
    Advance directory overwritten state system next state [] :=
  { consistent := consistent
    standing := by
      intro readable _
      obtain ⟨found, present⟩ := Option.isSome_iff_exists.mp readable
      rw [← sameDescriptor] at present
      rw [present, consistent.descriptor found present]
    accepted := by rw [same, List.append_nil]
    climb := .start }

omit [Ciborium] [Pki] in
theorem Advance.of_sameStates {directory : RealPath} {overwritten : Prop}
    {state : PersistedState} {system : System} {after : World}
    (consistent : system.Consistent directory state) (same : system.world.SameStates after) :
    Advance directory overwritten state system { system with world := after } state [] :=
  .idle (consistent.of_sameStates same) (committed_of_sameStates same) rfl

omit [Pki] in
theorem Consistent.opened {directory : RealPath} {state : PersistedState} {system : System}
    (consistent : system.Consistent directory state) {os : Os} {stateDb : PathBuf}
    {store : StateStore} (resolved : os.realpath stateDb = directory)
    (opened : StateStore.openExisting os system.world.disk (stateDb.child "state.json") =
      .ok store) :
    store.path = stateDb.child "state.json" ∧ store.state = state := by
  obtain ⟨path, _, found, _⟩ := StateStore.openExisting_eq_ok.mp opened
  unfold Os.readState at found
  rw [Os.locate_state resolved] at found
  exact ⟨path, consistent.descriptor _ (Disk.descriptor_eq_some.mpr found)⟩

theorem install_advance {directory : RealPath} {state : PersistedState} {system : System}
    {os : Os} {config : Config} {label : String} {bytes : Bytes}
    (consistent : system.Consistent directory state) (stopped : system.server = none)
    (certain : os.CertainDescriptor) :
    ∃ state' fresh, Advance directory
      ((Action.install os config label bytes).OverwritesDescriptor directory) state system
      (system.afterInstall bytes
        ((installBundle os config label bytes ⟨directory⟩).outcome system.world))
      state' fresh := by
  have noServer : ∀ server, server ∉ system.server := by
    intro server
    rw [stopped]
    exact Option.not_mem_none server
  apply Ensures.outcome (fun result =>
    ∃ state' fresh, Advance directory
      ((Action.install os config label bytes).OverwritesDescriptor directory) state system
      (system.afterInstall bytes result) state' fresh)
  refine ensures_installBundle ?_ ?_ ?_
  · intro destination bundle store canonical middle result after installing published
    obtain ⟨path, sameState⟩ := consistent.opened installing.guarded installing.opened
    have marks : (store.state.recordBundle bundle).SameMarks
        (installCandidate store label bundle canonical).state := ⟨rfl, rfl⟩
    have place : os.locate (installCandidate store label bundle canonical).path =
        descriptorPlace directory := by
      change os.locate store.path = _
      rw [path, Os.locate_state installing.guarded]
    have written : (StateStore.committed os store (installCandidate store label bundle canonical)
        middle).disk.states (descriptorPlace directory) =
          some (.parsed (installCandidate store label bundle canonical).state) :=
      StateStore.committed_states place
    refine ⟨(installCandidate store label bundle canonical).state, [bundle], ?_, ?_, ?_, ?_⟩
    · exact
        { descriptor := by
            intro found present
            have earlier := Disk.descriptor_eq_some.mp
              (published.noNewDescriptor _ found present)
            exact (Descriptor.parsed.inj (Option.some.inj (written.symm.trans earlier))).symm
          memory := fun server running => absurd running (noServer server)
          path := fun server running => absurd running (noServer server) }
    · intro _ apart
      have elsewhere : descriptorPlace directory ≠ os.locate destination := by
        intro same
        obtain ⟨_, ca, selected, named, _⟩ :=
          Config.bundleDestination_eq_ok.mp installing.destination
        have sameLabel := List.find?_some selected
        simp only [decide_eq_true_eq] at sameLabel
        exact apart
          ⟨ca, List.mem_of_find?_eq_some selected, sameLabel, by rw [← named, same]⟩
      refine Disk.descriptor_eq_some.mpr ?_
      change after.disk.states _ = _
      rw [← written, Disk.states, published.elsewhere elsewhere]
      rfl
    · change _ ++ (Bundle.fromBytes bytes).toOption.toList = _
      rw [installing.parsed]
      rfl
    · rw [marks.ledger, PersistedState.ledger_recordBundle, ← sameState]
      exact Watermark.Climb.start.accept
        (StateStore.admits_of_checkRollback installing.rollback)
        (StateStore.within_of_checkRollback installing.rollback)
  · intro error after stashed
    exact ⟨state, [], .of_sameStates consistent stashed.toSameStates⟩
  · intro destination bundle store canonical middle ioError reason installing unsynced
    rw [(consistent.opened installing.guarded installing.opened).1] at unsynced
    exact absurd unsynced (certain.child _ _ _)

omit [Ciborium] [Pki] in
theorem Advance.of_attempt {directory : RealPath} {overwritten : Prop} {state : PersistedState}
    {system : System} {os : Os} {source : Bundle → Prop} {store : StateStore} {world : World}
    {bundles : List Bundle} {after : StateStore × World} {stateDb : PathBuf}
    (path : store.path = stateDb.child "state.json") (resolved : os.realpath stateDb = directory)
    (memory : store.state = state)
    (attempt : Attempt os source store.emptied store world (.ok bundles) after)
    (next : Server) (sameStore : next.responder.stateStore = after.1)
    (sameLinks : next.os.realpath stateDb = directory) :
    Advance directory overwritten state system
      { world := after.2
        server := some next
        accepted := system.accepted ++ bundles } after.1.state bundles := by
  have place : os.locate store.path = descriptorPlace directory := by
    rw [path, Os.locate_state resolved]
  obtain ⟨samePath, descriptor, climb⟩ := attempt.ok_climb place
  rw [memory] at climb
  refine ⟨⟨?_, ?_, ?_⟩, fun _ _ => descriptor, rfl, climb⟩
  · intro found present
    exact Option.some.inj (present.symm.trans descriptor)
  · intro server running
    cases running
    rw [sameStore]
  · intro server running
    cases running
    exact ⟨stateDb, by rw [sameStore, samePath, path], sameLinks⟩

theorem start_advance {directory : RealPath} {state : PersistedState} {system : System}
    {os : Os} {config : Config} (overwritten : Prop)
    (consistent : system.Consistent directory state) (certain : os.CertainDescriptor) :
    ∃ state' fresh, Advance directory overwritten state system
      (system.afterStart os ((load os config ⟨directory⟩).outcome system.world))
      state' fresh := by
  apply Ensures.outcome (fun result =>
    ∃ state' fresh, Advance directory overwritten state system (system.afterStart os result)
      state' fresh)
  refine ensures_load (fun error => ⟨state, [], .idle consistent rfl rfl⟩) ?_
  intro store resolved opened
  obtain ⟨path, memory⟩ := consistent.opened resolved opened
  refine ensures_loadOrRecover ?_ ?_ ?_ ?_
  · intro map after attempt
    exact ⟨_, _, .of_attempt path resolved memory attempt _ rfl resolved⟩
  · intro error error' after attempt
    exact ⟨state, [], .of_sameStates consistent (attempt.error_of_certain certain path).2⟩
  · intro source error middle map after _ _ attempt
    exact ⟨_, _, .of_attempt path resolved memory attempt _ rfl resolved⟩
  · intro source error middle error' after _ first second
    have same := (first.error_of_certain certain path).2.trans
      (second.error_of_certain certain path).2
    exact ⟨state, [], .of_sameStates consistent same⟩

theorem reload_advance {directory : RealPath} {state : PersistedState} {system : System}
    {server : Server} {os : Os} (overwritten : Prop)
    (consistent : system.Consistent directory state)
    (running : system.server = some server) (certain : os.CertainDescriptor) :
    ∃ state' fresh, Advance directory overwritten state system
      (system.afterReload server
        ((reload (server.during os)).outcome (server.responder, system.world)))
      state' fresh := by
  have member : server ∈ system.server := by rw [running]; rfl
  have memory := consistent.memory server member
  obtain ⟨stateDb, path, resolved⟩ := consistent.path server member
  have resolvedNow : (server.during os).realpath stateDb = directory := resolved
  have certainNow : (server.during os).CertainDescriptor := certain
  apply Ensures.outcome (fun result =>
    ∃ state' fresh, Advance directory overwritten state system (system.afterReload server result)
      state' fresh)
  refine ensures_reload ?_ ?_
  · intro map after attempt
    exact ⟨_, _, .of_attempt path resolvedNow memory attempt _ rfl resolved⟩
  · intro error after attempt
    obtain ⟨sameStore, same⟩ := attempt.error_of_certain certainNow path
    refine ⟨state, [], .idle ⟨?_, ?_, ?_⟩ (committed_of_sameStates same) rfl⟩
    · exact (consistent.of_sameStates same).descriptor
    · intro server' here
      cases here
      exact (congrArg StateStore.state sameStore).trans memory
    · intro server' here
      cases here
      exact ⟨stateDb, (congrArg StateStore.path sameStore).trans path, resolved⟩

omit [Sha2] [Ciborium] [Pki] in
theorem committed_replaceFiles (directory : RealPath) (files : RealPath → Option Bytes)
    (disk : Disk) :
    (disk.replaceFiles directory files).descriptor (descriptorPlace directory) =
      disk.descriptor (descriptorPlace directory) := by
  simp [Disk.descriptor, Disk.states, Disk.replaceFiles]

theorem step_advance {directory : RealPath} {state : PersistedState} {system : System}
    (consistent : system.Consistent directory state) (action : Action)
    (certain : action.CertainDescriptor) :
    ∃ state' fresh, Advance directory (action.OverwritesDescriptor directory) state system
      (system.step directory action) state' fresh := by
  cases action with
  | environment files =>
      have same := committed_replaceFiles directory files system.world.disk
      refine ⟨state, [], .idle ⟨?_, consistent.memory, consistent.path⟩ same rfl⟩
      intro found present
      exact consistent.descriptor found (same.symm.trans present)
  | install os config label bytes =>
      cases running : system.server with
      | some server =>
          simp only [step, running]
          exact ⟨state, [], .idle consistent rfl rfl⟩
      | none =>
          simp only [step, running]
          exact install_advance consistent running certain
  | start os config =>
      cases running : system.server with
      | some server =>
          simp only [step, running]
          exact ⟨state, [], .idle consistent rfl rfl⟩
      | none =>
          simp only [step, running]
          exact start_advance _ consistent certain
  | reload os =>
      cases running : system.server with
      | none =>
          simp only [step, running]
          exact ⟨state, [], .idle consistent rfl rfl⟩
      | some server =>
          simp only [step, running]
          exact reload_advance _ consistent running certain
  | stop =>
      refine ⟨state, [], .idle ⟨consistent.descriptor, ?_, ?_⟩ rfl rfl⟩
      · intro server impossible
        cases impossible
      · intro server impossible
        cases impossible

theorem run_advance {directory : RealPath} (actions : List Action) {state : PersistedState}
    {system : System} (consistent : system.Consistent directory state)
    (certain : ∀ action ∈ actions, action.CertainDescriptor) :
    ∃ state' fresh, Advance directory (∃ action ∈ actions, action.OverwritesDescriptor directory)
      state system (system.run directory actions) state' fresh := by
  induction actions generalizing state system with
  | nil =>
      exact ⟨state, [], .idle consistent rfl rfl⟩
  | cons action rest ih =>
      obtain ⟨middle, earlier, first⟩ :=
        step_advance consistent action (certain action List.mem_cons_self)
      obtain ⟨final, later, others⟩ :=
        ih first.consistent (fun next member => certain next (List.mem_cons_of_mem _ member))
      refine ⟨final, earlier ++ later, others.consistent, ?_, ?_, ?_⟩
      · intro readable apart
        refine others.standing ?_ ?_
        · rw [first.standing readable fun here => apart ⟨action, List.mem_cons_self, here⟩]
          rfl
        · rintro ⟨next, member, here⟩
          exact apart ⟨next, List.mem_cons_of_mem _ member, here⟩
      · change (run directory (system.step directory action) rest).accepted = _
        rw [others.accepted, first.accepted, List.append_assoc]
      · rw [List.map_append]
        exact first.climb.append others.climb

omit [Sha2] [Ciborium] [Pki] in
theorem Initialized.committed {directory : RealPath} {system : System}
    (initialized : system.Initialized directory) :
    system.committed directory = some PersistedState.default := by
  obtain ⟨_, _, os, stateDb, world, store, resolved, ran⟩ := initialized
  have written : Ensures (StateStore.initializeFresh os (stateDb.child "state.json")) world
      (fun _ after => after.disk.states (descriptorPlace directory) =
        some (.parsed PersistedState.default))
      (fun _ _ => True) := by
    unfold StateStore.initializeFresh StateStore.persist writeState
    simp only [ensures_bind, ensures_get, ensures_liftM, ensures_pure]
    refine ⟨?_, fun _ _ => trivial⟩
    intro _ _
    refine Ensures.intro ?_ (fun _ _ _ => trivial)
    intro _ prepared _
    refine ensures_writeAtomic ?_ (fun _ _ => trivial) (fun _ _ _ => trivial)
    intro _ _
    rw [Os.locate_state resolved]
    simp [World.putState, Disk.states, FileContents.decoded]
  exact Disk.descriptor_eq_some.mpr (written.of_ok ran)

omit [Sha2] [Ciborium] [Pki] in
theorem Initialized.consistent {directory : RealPath} {system : System}
    (initialized : system.Initialized directory) :
    system.Consistent directory PersistedState.default :=
  .of_stopped initialized.1 initialized.committed

end System

/-! ### A machine without faults -/

def Os.faultless (now : UInt64) : Os :=
  { cwd := []
    links := fun _ => none
    missing := fun _ => false
    unreadable := fun _ => false
    listable := fun _ => true
    removable := fun _ => true
    listing := fun _ => []
    createDirectory := fun _ _ => none
    writeOutcome := fun _ _ => .durable
    clock := fun _ => .ok now }

theorem Os.faultless_certain (now : UInt64) : (Os.faultless now).CertainDescriptor := by
  intro calls path error _ impossible
  cases impossible

def World.holding (files : List (RealPath × Bytes)) (place : RealPath)
    (state : PersistedState) : World :=
  { disk :=
      { contents := fun at' =>
          if at' = place then some (.descriptor state)
          else (files.find? fun file => file.1 = at').map fun file => .octets file.2 }
    calls := 0
    replacements := [] }

end Hoike
