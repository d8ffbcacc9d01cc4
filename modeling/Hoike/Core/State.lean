/-
The anti-rollback store (`state.rs`).

A store is the in-memory copy of the descriptor.  Operations that take the
store by mutable reference run over the store and the world; a staged
candidate is a second store of its own, and only `commit` carries it over.
-/

import Hoike.Core.Admission

namespace Hoike

open Ahu

def maxEpochJump : UInt64 := 10000

def writerLockFile : String := ".writer.lock"

structure StateStore where
  path : PathBuf
  state : PersistedState
  staged : Bool
deriving DecidableEq

abbrev StoreEffect := Fallible (StateStore × World) CoreError

namespace PersistedState

def makeKey (producerId issuerKeyHashHex : String) : String :=
  s!"{producerId}:{issuerKeyHashHex}"

/-- A digest record that does not decode to 32 octets reads as no record. -/
def digestAt (state : PersistedState) (key : String) : Option (Octets 32) := do
  let text ← state.manifestDigests.lookup key
  match Bytes.decodeHex text with
  | .error _ => none
  | .ok bytes => if size : bytes.length = 32 then some ⟨bytes, size⟩ else none

end PersistedState

def scopeText (producerId ikh : String) : String :=
  s!"{producerId}:{String.ofList (ikh.toList.take 16)}"

/-! ### Validation of a persisted descriptor -/

section Validate

variable [Sha2] [Ciborium] (os : Os) (disk : Disk)

omit [Sha2] [Ciborium] in
def validateDigest (state : PersistedState) (path : PathBuf) (key digestHex : String) :
    Except CoreError Unit := do
  let decoded ← (Bytes.decodeHex digestHex).mapError fun error => CoreError.stateStore
    s!"state file {path.display}: manifest digest for '{key}' is not valid hex: {error.display}"
  Except.require (decoded.length = 32) (.stateStore
    (s!"state file {path.display}: manifest digest for '{key}' has {decoded.length} bytes, " ++
      "expected 32"))
  Except.require (state.highWaterMarks.lookup key).isSome (.stateStore
    (s!"state file {path.display}: manifest digest for '{key}' has no high-water record — " ++
      "restore marks and snapshots together"))

omit [Sha2] [Ciborium] in
def validateMark (state : PersistedState) (path : PathBuf) (key : String) :
    Except CoreError Unit :=
  Except.require (state.manifestDigests.lookup key).isSome (.stateStore
    (s!"state file {path.display}: high-water mark for '{key}' has no manifest digest record — " ++
      "restore marks and snapshots together"))

/-- An optional number as the source's `{:?}` prints it. -/
def debugMark : Option UInt64 → String
  | none => "None"
  | some mark => s!"Some({mark})"

omit [Sha2] [Ciborium] in
def validateScope (state : PersistedState) (label producerId : String) (scope : CaScope) :
    Except CoreError Unit :=
  let key := PersistedState.makeKey producerId (Bytes.encodeHex scope.issuerKeyHash)
  let mark := state.highWaterMarks.lookup key
  Except.require (mark.any fun highWater => scope.epoch ≤ highWater) (.stateStore
    (s!"committed snapshot '{label}' records scope at epoch {scope.epoch} with high-water " ++
      s!"{debugMark mark} — incomplete committed state requires recovery"))

def validateSnapshot (state : PersistedState) (label : String) (snapshot : PathBuf) :
    Except CoreError Unit := do
  let bytes ← (os.read disk snapshot).mapError fun error => CoreError.stateStore
    (s!"committed snapshot for '{label}' is missing: {snapshot.display} ({error.display}) — " ++
      "restore marks and snapshots together; do not re-initialize")
  let some name := snapshot.fileName
    | throw (.stateStore
        s!"committed snapshot for '{label}' has a malformed name: {snapshot.display}")
  let expected ← (Bytes.decodeHex (fileStem name)).mapError fun error => CoreError.stateStore
    s!"committed snapshot for '{label}' has a non-digest name: {error.display}"
  Except.require ((Sha2.sha256 bytes).val = expected) (.stateStore
    s!"committed snapshot for '{label}' does not match its digest name: {snapshot.display}")
  let bundle ← (Bundle.fromBytes bytes).mapError fun error => CoreError.stateStore
    s!"committed snapshot for '{label}' is unreadable: {error.display}"
  bundle.manifest.caScopes.forM (validateScope state label bundle.manifest.producerId)

def validatePersisted (state : PersistedState) (path : PathBuf) : Except CoreError Unit := do
  state.manifestDigests.entries.forM fun record =>
    validateDigest state path record.1 record.2
  state.highWaterMarks.entries.forM fun record => validateMark state path record.1
  state.activeBundles.entries.forM fun record =>
    validateSnapshot os disk state record.1 record.2

end Validate

namespace StateStore

/-! ### Opening and initializing -/

section Open

variable [Sha2] [Ciborium]

/-- Missing or malformed state is an error, never a fresh timeline. -/
def openExisting (os : Os) (disk : Disk) (path : PathBuf) : Except CoreError StateStore := do
  match os.readState disk path with
  | none => throw (.stateStore
      (s!"cannot open state file {path.display}: {IoError.display IoError.notFound}. State is " ++
        "never created implicitly; run `hoike init-state` to initialize a new state directory, " ++
        "or restore the state file together with its committed snapshots"))
  | some .notText => throw (.stateStore
      (s!"cannot open state file {path.display}: stream did not contain valid UTF-8. State is " ++
        "never created implicitly; run `hoike init-state` to initialize a new state directory, " ++
        "or restore the state file together with its committed snapshots"))
  | some (.malformed error) => throw (.stateStore
      (s!"failed to parse state file {path.display}: {error}. Restore the state directory from " ++
        "backup; this release has no automatic recovery and no reset escape hatch"))
  | some (.parsed state) =>
      validatePersisted os disk state path
      return {
        path := path
        state := state
        staged := false }

end Open

def persist (os : Os) (store : StateStore) : Effect Unit :=
  writeState os store.path store.state

/-- Only the writer lock may be present in a directory that is initialized. -/
def prepareDirectory (os : Os) (directory : PathBuf) : Effect Unit := do
  if os.missing (os.realpath directory) then
    createDirAll os directory
  else
    liftM (Except.require (os.listable (os.realpath directory)) (CoreError.stateStore
      (s!"failed to inspect state directory {directory.display}: " ++
        s!"{IoError.display IoError.permissionDenied}")))
    match (os.listing (os.realpath directory)).find? (· ≠ writerLockFile) with
    | none => return ()
    | some name => throw (.stateStore
        (s!"refusing to initialize state in {directory.display}: directory already contains " ++
          s!"'{name}' — restore state and recovery material together instead of re-initializing"))

def initializeFresh (os : Os) (path : PathBuf) : Effect StateStore := do
  let world ← get
  liftM (Except.require (os.readState world.disk path).isNone (CoreError.stateStore
    (s!"refusing to initialize {path.display}: state file already exists — existing state is " ++
      "never reset; restore marks and snapshots together to recover")))
  prepareDirectory os path.parent
  let store : StateStore :=
    { path := path
      state := PersistedState.default
      staged := false }
  store.persist os
  return store

/-! ### Reading -/

def getHighWater (store : StateStore) (producerId issuerKeyHashHex : String) :
    Option UInt64 :=
  store.state.highWaterMarks.lookup (PersistedState.makeKey producerId issuerKeyHashHex)

def getManifestDigest (store : StateStore) (producerId issuerKeyHashHex : String) :
    Option (Octets 32) :=
  store.state.digestAt (PersistedState.makeKey producerId issuerKeyHashHex)

section Check

variable [Sha2]

def checkRollbackScope (store : StateStore) (bundle : Bundle) (scope : CaScope) :
    Except CoreError Unit :=
  let producerId := bundle.manifest.producerId
  let ikh := Bytes.encodeHex scope.issuerKeyHash
  match store.getHighWater producerId ikh with
  | none => .ok ()
  | some highWater => do
      Except.require (highWater ≤ scope.epoch)
        (.epochRollback (scopeText producerId ikh) scope.epoch highWater)
      -- At the recorded epoch only the recorded bundle itself may come back.
      Except.require (scope.epoch = highWater →
          store.getManifestDigest producerId ikh = some (Sha2.sha256 bundle.manifestBytes))
        (.epochRollback (scopeText producerId ikh) scope.epoch highWater)
      let jump := scope.epoch - highWater
      Except.require (jump ≤ maxEpochJump)
        (.epochJumpTooLarge (scopeText producerId ikh) scope.epoch highWater jump maxEpochJump)

def checkRollback (store : StateStore) (bundle : Bundle) : Except CoreError Unit :=
  bundle.manifest.caScopes.forM (store.checkRollbackScope bundle)

def checkContinuityScope (store : StateStore) (bundle : Bundle) (prevDigest : Octets 32)
    (scope : CaScope) : Except CoreError Unit :=
  let producerId := bundle.manifest.producerId
  let ikh := Bytes.encodeHex scope.issuerKeyHash
  match store.getManifestDigest producerId ikh with
  | none => .ok ()
  | some recorded =>
      let identical := store.getHighWater producerId ikh = some scope.epoch ∧
        Sha2.sha256 bundle.manifestBytes = recorded
      Except.require (identical ∨ prevDigest = recorded)
        (.forkDetected (scopeText producerId ikh))

def checkContinuity (store : StateStore) (bundle : Bundle) : Except CoreError Unit :=
  match bundle.manifest.continuity.prevManifestDigest with
  | none => .ok ()
  | some prevDigest => bundle.manifest.caScopes.forM (store.checkContinuityScope bundle prevDigest)

end Check

/-! ### Staging -/

def transaction (store : StateStore) : StateStore :=
  { store with staged := true }

def clearActiveBundles (store : StateStore) : StateStore :=
  { store with state := { store.state with activeBundles := ∅ } }

def setMark (state : PersistedState) (key : String) (epoch : UInt64)
    (manifestDigest : Octets 32) : PersistedState :=
  { state with
    highWaterMarks := state.highWaterMarks.insert key epoch
    manifestDigests := state.manifestDigests.insert key (Bytes.encodeHex manifestDigest.val) }

def withState (store : StateStore) (state : PersistedState) : StateStore :=
  { store with state := state }

@[simp] theorem withState_path (store : StateStore) (state : PersistedState) :
    (store.withState state).path = store.path := rfl

@[simp] theorem withState_state (store : StateStore) (state : PersistedState) :
    (store.withState state).state = state := rfl

@[simp] theorem withState_staged (store : StateStore) (state : PersistedState) :
    (store.withState state).staged = store.staged := rfl

def assign (state : PersistedState) : StoreEffect Unit :=
  modify fun pair => (pair.1.withState state, pair.2)

def advance (os : Os) (producerId issuerKeyHashHex : String) (epoch : UInt64)
    (manifestDigest : Octets 32) : StoreEffect Unit := do
  let (store, _) ← get
  let key := PersistedState.makeKey producerId issuerKeyHashHex
  if (store.state.highWaterMarks.lookup key).all fun current => current < epoch then
    let next := store.withState (setMark store.state key epoch manifestDigest)
    if store.staged = false then
      Fallible.onShared (next.persist os)
    assign next.state

def advanceFromBundle [Sha2] (os : Os) (bundle : Bundle) : StoreEffect Unit := do
  let (store, _) ← get
  let (_, candidate) ← Fallible.onShared (Fallible.withLocal store.transaction
    (bundle.manifest.caScopes.forM fun scope =>
      advance os bundle.manifest.producerId (Bytes.encodeHex scope.issuerKeyHash) scope.epoch
        (Sha2.sha256 bundle.manifestBytes)))
  if store.staged = false then
    Fallible.onShared (candidate.persist os)
  assign candidate.state

/-! ### Snapshots and commit -/

def generations (store : StateStore) : PathBuf :=
  store.path.parent.child "generations"

def snapshotName [Sha2] (bytes : Bytes) : String :=
  s!"{Bytes.encodeHex (Sha2.sha256 bytes).val}.ahu"

def snapshot [Sha2] (os : Os) (label : String) (bundle : Bundle) : StoreEffect Unit := do
  let (store, _) ← get
  let bytes ← liftM (bundle.toBytes.mapError CoreError.bundle)
  Fallible.onShared (createDirAll os store.generations)
  let path := store.generations.child (snapshotName bytes)
  let (_, world) ← get
  -- Existing blobs are compared, never trusted by their name.
  let present ←
    if os.fileExists world.disk path then do
      let stored ← liftM ((os.read world.disk path).mapError CoreError.io)
      pure (decide (stored = bytes))
    else
      pure false
  if present = false then
    Fallible.onShared (writeFile os path bytes)
  assign { store.state with activeBundles := store.state.activeBundles.insert label path }

def isGenerated (name : String) : Bool :=
  fileExtension name = some "ahu" ∧ (fileStem name).toList.length = 64 ∧
    (fileStem name).toList.all fun digit => (Bytes.hexValue digit).isSome

/-- A digest-named file of the directory that no active path spells. -/
def isObsolete (os : Os) (directory : PathBuf) (active : HashMap String PathBuf)
    (place : RealPath) : Bool :=
  match place.getLast? with
  | none => false
  | some name =>
      place.dropLast = os.realpath directory ∧ isGenerated name ∧
        active.entries.all (fun record => record.2 ≠ directory.child name) ∧
        os.removable place

def collectGarbage (os : Os) (directory : PathBuf) (active : HashMap String PathBuf)
    (disk : Disk) : Disk :=
  if os.listable (os.realpath directory) then
    { contents := fun place =>
        if isObsolete os directory active place then none else disk.contents place }
  else disk

/-- Collection runs only after the new descriptor is written. -/
def commit (os : Os) (candidate : StateStore) : StoreEffect Unit := do
  Fallible.onShared (candidate.persist os)
  assign candidate.state
  modify fun pair =>
    (pair.1, { pair.2 with
      disk := collectGarbage os pair.1.generations pair.1.state.activeBundles pair.2.disk })

end StateStore

end Hoike
