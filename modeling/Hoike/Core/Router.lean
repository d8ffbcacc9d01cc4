/-
Loading, recovery and reload of the served working set (`router.rs`).

A load stages every configured bundle into one candidate and commits it as a
whole.  When that fails and committed snapshots exist, start-up loads those
instead.
-/

import Hoike.Core.State

namespace Hoike

open Ahu

abbrev ScopeKey := Bytes × Bytes

structure ScopeEntry where
  bundleIdx : Nat
  caLabel : String
  noncePolicy : String
  completeness : String
  forwardTo : Option String
deriving DecidableEq, Repr

structure ScopeMap where
  entries : HashMap ScopeKey (List ScopeEntry)
  bundles : List Bundle

structure ResponderState where
  scopeMap : ScopeMap
  config : Config
  stateStore : StateStore
  writerGuard : StateDirectoryLock

variable [Sha2] [Ciborium] [Pki]

/-! ### Configured paths -/

def validateNonceEntry (config : Config) (seen : List String) (ca : CaConfig) :
    Except CoreError Unit := do
  Except.require (ca.label ∉ seen) (.config s!"duplicate CA label '{ca.label}'")
  if ca.noncePolicy = "ignore" then
    return ()
  else if ca.noncePolicy = "live" then
    Except.require (config.server.mode ≠ "edge") (.config
      (s!"CA '{ca.label}': nonce_policy \"live\" requires signer or combined mode (edge nodes " ++
        "have no signing key)"))
    Except.require ca.signingKey.isSome (.config
      s!"CA '{ca.label}': nonce_policy \"live\" requires a signing_key")
  else if ca.noncePolicy = "forward" then
    Except.require ca.forwardTo.isSome (.config
      s!"CA '{ca.label}': nonce_policy \"forward\" requires a forward_to URL")
  else
    throw (.config (s!"CA '{ca.label}': unknown nonce_policy \"{ca.noncePolicy}\" (expected: " ++
      "ignore, live, forward)"))

def validateNonceEntries (config : Config) (seen : List String) :
    List CaConfig → Except CoreError Unit
  | [] => .ok ()
  | ca :: rest => do
      validateNonceEntry config seen ca
      validateNonceEntries config (ca.label :: seen) rest

def validateNonceConfig (config : Config) : Except CoreError Unit :=
  validateNonceEntries config [] config.ca

omit [Sha2] [Pki] in
def bundleFromFile (os : Os) (disk : Disk) (path : PathBuf) : Except AhuError Bundle := do
  let bytes ← (os.read disk path).mapError AhuError.io
  Bundle.fromBytes bytes

def maxEpoch (bundle : Bundle) : UInt64 :=
  bundle.manifest.caScopes.foldl (fun best scope => max best scope.epoch) 0

/-- The first of the bundles with the highest epoch; unreadable files are
skipped. -/
def selectNewest (os : Os) (disk : Disk) (best : Option (PathBuf × UInt64))
    (path : PathBuf) : Option (PathBuf × UInt64) :=
  match bundleFromFile os disk path with
  | .error _ => best
  | .ok bundle =>
      if best.all fun chosen => chosen.2 < maxEpoch bundle then some (path, maxEpoch bundle)
      else best

omit [Sha2] [Pki] in
def findNewestBundle (os : Os) (disk : Disk) (directory : PathBuf) :
    Except CoreError PathBuf := do
  Except.require (os.listable (os.realpath directory)) (.io .notFound)
  let ahuFiles := ((os.listing (os.realpath directory)).filter fun name =>
    fileExtension name = some "ahu").map directory.child
  Except.require (ahuFiles ≠ []) (.config s!"no .ahu files in {directory.display}")
  match ahuFiles.foldl (selectNewest os disk) none with
  | none => throw (.config s!"no valid .ahu files in {directory.display}")
  | some chosen => return chosen.1

omit [Sha2] [Pki] in
def configuredBundlePaths (os : Os) (disk : Disk) (config : Config) :
    Except CoreError (List PathBuf) := do
  validateNonceConfig config
  if config.ca = [] then
    return [← findNewestBundle os disk config.storage.bundleDir]
  else
    return config.ca.map config.bundlePath

/-! ### The working set -/

def loadAndVerifyBundle (os : Os) (path : PathBuf) (config : Config) : Effect Bundle := do
  let world ← get
  let bundle ← liftM ((bundleFromFile os world.disk path).mapError CoreError.bundle)
  let now ← systemTime os
  let _ ← liftM (admitBundle os world.disk bundle config.storage now)
  return bundle

def registerBundleScopes (bundle : Bundle) (entry : ScopeEntry)
    (entries : HashMap ScopeKey (List ScopeEntry)) : HashMap ScopeKey (List ScopeEntry) :=
  bundle.manifest.caScopes.foldl (fun entries scope =>
    let key := (scope.issuerNameHash, scope.issuerKeyHash)
    entries.insert key ((entries.lookup key).getD [] ++ [entry])) entries

def defaultEntry : ScopeEntry :=
  { bundleIdx := 0
    caLabel := "default"
    noncePolicy := "ignore"
    completeness := "authoritative-complete"
    forwardTo := none }

def CaConfig.entry (ca : CaConfig) (bundleIdx : Nat) : ScopeEntry :=
  { bundleIdx := bundleIdx
    caLabel := ca.label
    noncePolicy := ca.noncePolicy
    completeness := ca.completeness
    forwardTo := ca.forwardTo }

def stageBundle (os : Os) (bundle : Bundle) : StoreEffect Unit := do
  let (store, _) ← get
  liftM (store.checkRollback bundle)
  liftM (store.checkContinuity bundle)
  StateStore.advanceFromBundle os bundle

def admitAndStage (os : Os) (path : PathBuf) (config : Config) : StoreEffect Bundle := do
  let bundle ← Fallible.onShared (loadAndVerifyBundle os path config)
  stageBundle os bundle
  return bundle

/-- The bundles and routes collected so far, with the index under which each
canonical path was loaded. -/
structure Loading where
  bundles : List Bundle
  entries : HashMap ScopeKey (List ScopeEntry)
  loadedPaths : HashMap PathBuf Nat

def Loading.empty : Loading :=
  { bundles := []
    entries := ∅
    loadedPaths := ∅ }

/-- A file configured for several labels is loaded and staged once. -/
def loadCa (os : Os) (config : Config) (loading : Loading) (item : CaConfig × PathBuf) :
    StoreEffect Loading := do
  let (_, world) ← get
  let canonical := os.canonicalOrSelf world.disk item.2
  match loading.loadedPaths.lookup canonical with
  | some idx =>
      match loading.bundles[idx]? with
      | none => return loading
      | some bundle => return {
          loading with
          entries := registerBundleScopes bundle (item.1.entry idx) loading.entries }
  | none =>
      let bundle ← admitAndStage os item.2 config
      let idx := loading.bundles.length
      return {
        bundles := loading.bundles ++ [bundle]
        entries := registerBundleScopes bundle (item.1.entry idx) loading.entries
        loadedPaths := loading.loadedPaths.insert canonical idx }

/-- Snapshot the bundle of every label once, the first time it is met. -/
def snapshotEntry (os : Os) (bundles : List Bundle) (seen : List String)
    (entry : ScopeEntry) : StoreEffect (List String) := do
  if entry.caLabel ∈ seen then
    return seen
  else
    match bundles[entry.bundleIdx]? with
    | none => return seen
    | some bundle =>
        StateStore.snapshot os entry.caLabel bundle
        return entry.caLabel :: seen

def loadBundles (os : Os) (config : Config) : StoreEffect Loading := do
  let (_, world) ← get
  let paths ← liftM (configuredBundlePaths os world.disk config)
  if config.ca = [] then
    match paths.head? with
    | none => return Loading.empty
    | some path =>
        let bundle ← admitAndStage os path config
        return {
          bundles := [bundle]
          entries := registerBundleScopes bundle defaultEntry ∅
          loadedPaths := ∅ }
  else
    (config.ca.zip paths).foldlM (loadCa os config) Loading.empty

def loadScopeMapCandidate (os : Os) (config : Config) : StoreEffect ScopeMap := do
  let loading ← loadBundles os config
  let _ ← (loading.entries.entries.flatMap Sigma.snd).foldlM
    (snapshotEntry os loading.bundles) []
  return {
    entries := loading.entries
    bundles := loading.bundles }

def loadScopeMap (os : Os) (config : Config) : StoreEffect ScopeMap := do
  let (store, _) ← get
  let (map, candidate) ← Fallible.onShared (Fallible.withLocal
    store.transaction.clearActiveBundles (loadScopeMapCandidate os config))
  StateStore.commit os candidate
  return map

/-! ### Start-up and reload -/

def recoverDefault (os : Os) (config : Config) (path : PathBuf) : StoreEffect ScopeMap := do
  let (store, _) ← get
  let (bundle, candidate) ← Fallible.onShared (Fallible.withLocal
    store.transaction.clearActiveBundles (do
      let bundle ← admitAndStage os path config
      StateStore.snapshot os "default" bundle
      return bundle))
  StateStore.commit os candidate
  return {
    entries := registerBundleScopes bundle defaultEntry ∅
    bundles := [bundle] }

def recoveryConfig (config : Config) (active : HashMap String PathBuf) :
    Except CoreError Config := do
  let recovered ← config.ca.mapM fun ca =>
    match active.lookup ca.label with
    | none => .error (.config s!"no committed snapshot for {ca.label}")
    | some path => .ok { ca with bundleFile := some path }
  return { config with ca := recovered }

/-- Any failure of the configured load leads to the committed snapshots, when
there are some. -/
def loadOrRecover (os : Os) (config : Config) : StoreEffect ScopeMap := do
  match ← observing (loadScopeMap os config) with
  | .ok map => return map
  | .error original =>
      let (store, _) ← get
      if store.state.activeBundles.entries = [] then
        throw original
      else if config.ca = [] then
        match store.state.activeBundles.lookup "default" with
        | none => throw original
        | some path => recoverDefault os config path
      else
        let recovery ← liftM (recoveryConfig config store.state.activeBundles)
        loadScopeMap os recovery

/-- The lock must protect the directory the configuration names. -/
def checkGuard (os : Os) (config : Config) (guard : StateDirectoryLock)
    (mismatch : String → String → String) : Except CoreError Unit := do
  let stateDb := config.storage.stateDb
  let stateDir ← (os.canonicalizeDirectory stateDb).mapError fun error => CoreError.config
    s!"cannot resolve state directory {stateDb.display}: {error.display}"
  let show' := fun directory : RealPath =>
    PathBuf.display { root := true, parts := directory }
  Except.require (guard.stateDir = stateDir)
    (.config (mismatch (show' guard.stateDir) (show' stateDir)))

def load (os : Os) (config : Config) (guard : StateDirectoryLock) :
    Effect ResponderState := do
  liftM (checkGuard os config guard fun guarded used =>
    s!"writer lock guards state directory {guarded} but the configuration uses {used}")
  let world ← get
  let stateStore ← liftM (StateStore.openExisting os world.disk
    (config.storage.stateDb.child "state.json"))
  let (scopeMap, stateStore) ← Fallible.withLocal stateStore (loadOrRecover os config)
  return {
    scopeMap := scopeMap
    config := config
    stateStore := stateStore
    writerGuard := guard }

/-- The served map changes only after the whole load has been committed. -/
def reload (os : Os) : Fallible (ResponderState × World) CoreError Unit := do
  let (responder, _) ← get
  let scopeMap ← Fallible.zoom
    (fun pair : ResponderState × World => (pair.1.stateStore, pair.2))
    (fun after pair => ({ pair.1 with stateStore := after.1 }, after.2))
    (loadScopeMap os responder.config)
  modify fun pair => ({ pair.1 with scopeMap := scopeMap }, pair.2)

end Hoike
