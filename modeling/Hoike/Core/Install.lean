/-
Offline installation of one bundle for one label (`install.rs`).

The descriptor commit is the commit point.  The configured file is published
afterwards, and a failure there is a warning on a committed result.
-/

import Hoike.Core.Router

namespace Hoike

open Ahu

structure InstallResult where
  destination : PathBuf
  publicationWarning : Option String
deriving DecidableEq, Repr

variable [Sha2] [Ciborium] [Pki]

/-- Everything that is decided before the store is staged: the destination, the
authenticated bundle and the opened store. -/
def prepareInstall (os : Os) (config : Config) (label : String) (bytes : Bytes)
    (guard : StateDirectoryLock) : Effect (PathBuf × Bundle × StateStore) := do
  liftM (checkGuard os config guard fun guarded used =>
    s!"writer guard protects state directory {guarded} but the configuration uses {used}")
  let world ← get
  let destination ← liftM (config.bundleDestination os world.disk label)
  let bundle ← liftM ((Bundle.fromBytes bytes).mapError CoreError.bundle)
  let now ← systemTime os
  let _ ← liftM (authenticateBundle os world.disk bundle config.storage now)
  liftM (validateServingProfile bundle)
  let store ← liftM (StateStore.openExisting os world.disk
    (config.storage.stateDb.child "state.json"))
  return (destination, bundle, store)

def commitInstall (os : Os) (label : String) (bundle : Bundle) (store : StateStore) :
    Effect Unit := do
  let (_, candidate) ← Fallible.withLocal store.transaction (do
    StateStore.advanceFromBundle os bundle
    StateStore.snapshot os label bundle)
  let _ ← Fallible.withLocal store (StateStore.commit os candidate)
  return ()

def installBundle (os : Os) (config : Config) (label : String) (bytes : Bytes)
    (guard : StateDirectoryLock) : Effect InstallResult := do
  let (destination, bundle, store) ← prepareInstall os config label bytes guard
  liftM (store.checkRollback bundle)
  liftM (store.checkContinuity bundle)
  commitInstall os label bundle store
  let publicationWarning ←
    match ← observing (writeFile os destination bytes) with
    | .ok _ => pure none
    | .error error => pure (some
        (s!"installation for CA '{label}' is committed, but publishing the configured bundle " ++
          s!"path {destination.display} failed: {error.display}. Startup recovers the committed " ++
          "snapshot; retry this import to repair the path."))
  return {
    destination := destination
    publicationWarning := publicationWarning }

end Hoike
