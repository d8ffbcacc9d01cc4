/-
The predecessor rule of an installation.

A bundle may name the manifest it follows.  The continuity check compares that
name with the record of each scope, and it has nothing to compare with where a
scope has no record.
-/

import Hoike.Ahu.Crates
import Hoike.Core.AntiRollback

namespace Hoike

open Ahu

section Rule

variable [Sha2]

/-- The named predecessor is the one recorded for the scope, or the bundle
itself is what is recorded there. -/
def PredecessorRecorded (store : StateStore) (bundle : Bundle) (previous : Octets 32)
    (scope : CaScope) : Prop :=
  let producerId := bundle.manifest.producerId
  let ikh := Bytes.encodeHex scope.issuerKeyHash
  store.getManifestDigest producerId ikh = some previous ∨
    (store.getManifestDigest producerId ikh = some (Sha2.sha256 bundle.manifestBytes) ∧
      store.getHighWater producerId ikh = some scope.epoch)

def ScopeRecorded (store : StateStore) (bundle : Bundle) (scope : CaScope) : Prop :=
  (store.getManifestDigest bundle.manifest.producerId
    (Bytes.encodeHex scope.issuerKeyHash)).isSome

theorem StateStore.checkContinuityScope_eq_ok {store : StateStore} {bundle : Bundle}
    {previous : Octets 32} {scope : CaScope} :
    store.checkContinuityScope bundle previous scope = .ok () ↔
      (ScopeRecorded store bundle scope → PredecessorRecorded store bundle previous scope) := by
  unfold StateStore.checkContinuityScope ScopeRecorded PredecessorRecorded
  dsimp only
  cases store.getManifestDigest bundle.manifest.producerId
      (Bytes.encodeHex scope.issuerKeyHash) with
  | none =>
      simp
  | some recorded =>
      simp only [Except.require_eq_ok, Option.isSome_some, true_implies, Option.some.injEq]
      constructor
      · rintro (⟨epoch, digest⟩ | same)
        · exact Or.inr ⟨digest.symm, epoch⟩
        · exact Or.inl same.symm
      · rintro (same | ⟨digest, epoch⟩)
        · exact Or.inr same.symm
        · exact Or.inl ⟨epoch, digest.symm⟩

theorem PredecessorRecorded.scopeRecorded {store : StateStore} {bundle : Bundle}
    {previous : Octets 32} {scope : CaScope}
    (recorded : PredecessorRecorded store bundle previous scope) :
    ScopeRecorded store bundle scope := by
  unfold ScopeRecorded
  rcases recorded with named | ⟨own, _⟩
  · rw [named]
    rfl
  · rw [own]
    rfl

theorem StateStore.checkContinuity_of_named {store : StateStore} {bundle : Bundle}
    {previous : Octets 32}
    (named : bundle.manifest.continuity.prevManifestDigest = some previous) :
    store.checkContinuity bundle = .ok () ↔ ∀ scope ∈ bundle.manifest.caScopes,
      ScopeRecorded store bundle scope → PredecessorRecorded store bundle previous scope := by
  unfold StateStore.checkContinuity
  rw [named]
  simp only [Except.forM_eq_ok, StateStore.checkContinuityScope_eq_ok]

variable [Ciborium] [Pki]

/-- An accepted bundle that names a predecessor meets the rule exactly when
every one of its scopes already had a record. -/
theorem install_predecessor_recorded_iff {os : Os} {config : Config} {label : String}
    {bytes : Bytes} {guard : StateDirectoryLock} {world after : World} {result : InstallResult}
    {bundle : Bundle} {store : StateStore} {previous : Octets 32}
    (ran : (installBundle os config label bytes guard).outcome world = (.ok result, after))
    (parsed : Bundle.fromBytes bytes = .ok bundle)
    (opened : StateStore.openExisting os world.disk config.statePath = .ok store)
    (named : bundle.manifest.continuity.prevManifestDigest = some previous) :
    (∀ scope ∈ bundle.manifest.caScopes, PredecessorRecorded store bundle previous scope) ↔
      ∀ scope ∈ bundle.manifest.caScopes, ScopeRecorded store bundle scope := by
  obtain ⟨destination, bundle', store', canonical, middle, installing, _⟩ :=
    installBundle_eq_ok ran
  obtain rfl : bundle = bundle' := Except.ok.inj (parsed.symm.trans installing.parsed)
  obtain rfl : store = store' := Except.ok.inj (opened.symm.trans installing.opened)
  have checked := (StateStore.checkContinuity_of_named named).mp installing.continuity
  constructor
  · intro rule scope member
    exact (rule scope member).scopeRecorded
  · intro recorded scope member
    exact checked scope member (recorded scope member)

end Rule

/-! ### One bundle before two stores -/

section FollowUp

def namedPredecessor : Octets 32 :=
  ⟨List.replicate 32 0x99, List.length_replicate⟩

local instance : Sha2 := Crates.sha2
local instance : Ciborium := Crates.ciborium

def followUp : Manifest :=
  Crates.plainManifest "p" [Crates.plainScope 0xaa 5] (some namedPredecessor)

def followUpSignature : Bytes :=
  Bytes.unpack 70
    0x3044022040d5350257d9e659b6fe08cb927bb5097914ac7bcb195ea70b35fcc93bd2ba010220177cfb5c2a8aadfc986cb83367a5c5ecda02a365df4cbc01195fa904d3a0c58e []

local instance : Pki := Crates.pki [(Sha2.sha256 followUp.toCbor, followUpSignature)]

def followUpFile : Bytes :=
  Crates.sealedFile followUp followUpSignature

def pinnedConfig : Config :=
  { server := {}
    storage :=
      { bundleDir := { root := true, parts := ["w", "bundles"] }
        stateDb := { root := true, parts := ["w", "state"] }
        sealSignerPins := [{ root := true, parts := ["w", "pin.der"] }] }
    ca := [{ label := "a" }] }

def pinnedWorld (state : PersistedState) : World :=
  World.holding [(["w", "pin.der"], Crates.signerDer)] ["w", "state", "state.json"] state

def pinnedStore (state : PersistedState) : StateStore :=
  { path := pinnedConfig.statePath
    state := state
    staged := false }

def predecessorState : PersistedState :=
  StateStore.setMark PersistedState.default
    (PersistedState.scopeKey ("p", List.replicate 20 0xaa)) 4 namedPredecessor

def installFollowUp : Effect InstallResult :=
  installBundle (Os.faultless 1800000000) pinnedConfig "a" followUpFile ⟨["w", "state"]⟩

theorem followUp_computed :
    (Bundle.fromBytes followUpFile).map (fun bundle =>
        (bundle.manifest.producerId, bundle.manifest.caScopes,
          bundle.manifest.continuity.prevManifestDigest)) =
      .ok ("p", [Crates.plainScope 0xaa 5], some namedPredecessor) ∧
    (installFollowUp.outcome (pinnedWorld predecessorState)).1.isOk = true ∧
    (installFollowUp.outcome (pinnedWorld PersistedState.default)).1.isOk = true ∧
    validatePersisted (Os.faultless 1800000000) (pinnedWorld predecessorState).disk
      predecessorState pinnedConfig.statePath = .ok () := by
  decide +kernel

theorem followUpFile_parsed : ∃ bundle, Bundle.fromBytes followUpFile = .ok bundle ∧
    bundle.manifest.producerId = "p" ∧
      bundle.manifest.caScopes = [Crates.plainScope 0xaa 5] ∧
        bundle.manifest.continuity.prevManifestDigest = some namedPredecessor := by
  obtain ⟨bundle, parsed, fields⟩ := Except.map_eq_ok.mp followUp_computed.1
  simp only [Prod.mk.injEq] at fields
  exact ⟨bundle, parsed, fields.1, fields.2.1, fields.2.2⟩

theorem openExisting_pinnedStore {state : PersistedState}
    (valid : validatePersisted (Os.faultless 1800000000) (pinnedWorld state).disk state
      pinnedConfig.statePath = .ok ()) :
    StateStore.openExisting (Os.faultless 1800000000) (pinnedWorld state).disk
      pinnedConfig.statePath = .ok (pinnedStore state) :=
  StateStore.openExisting_eq_ok.mpr ⟨rfl, rfl, rfl, valid⟩

theorem install_follows_recorded_predecessor : ∃ result after bundle,
    installFollowUp.outcome (pinnedWorld predecessorState) = (.ok result, after) ∧
      Bundle.fromBytes followUpFile = .ok bundle ∧
        ∀ scope ∈ bundle.manifest.caScopes,
          PredecessorRecorded (pinnedStore predecessorState) bundle namedPredecessor scope := by
  obtain ⟨_, accepted, _, valid⟩ := followUp_computed
  obtain ⟨result, after, ran⟩ := Fallible.eq_ok_of_isOk accepted
  obtain ⟨bundle, parsed, producer, scopes, named⟩ := followUpFile_parsed
  have recorded : ∀ scope ∈ bundle.manifest.caScopes,
      ScopeRecorded (pinnedStore predecessorState) bundle scope := by
    rw [scopes]
    unfold ScopeRecorded
    rw [producer]
    decide
  exact ⟨result, after, bundle, ran, parsed,
    (install_predecessor_recorded_iff ran parsed
      (openExisting_pinnedStore valid) named).mpr recorded⟩

/-- On an empty store the same bundle is accepted although nothing records the
predecessor it names. -/
theorem install_accepts_unrecorded_predecessor : ∃ result after bundle,
    installFollowUp.outcome (pinnedWorld PersistedState.default) = (.ok result, after) ∧
      Bundle.fromBytes followUpFile = .ok bundle ∧
        StateStore.openExisting (Os.faultless 1800000000)
          (pinnedWorld PersistedState.default).disk pinnedConfig.statePath =
            .ok (pinnedStore PersistedState.default) ∧
          bundle.manifest.continuity.prevManifestDigest = some namedPredecessor ∧
            ∃ scope ∈ bundle.manifest.caScopes,
              ¬ ScopeRecorded (pinnedStore PersistedState.default) bundle scope ∧
                ¬ PredecessorRecorded (pinnedStore PersistedState.default) bundle
                  namedPredecessor scope := by
  obtain ⟨_, _, accepted, _⟩ := followUp_computed
  obtain ⟨result, after, ran⟩ := Fallible.eq_ok_of_isOk accepted
  obtain ⟨bundle, parsed, _, scopes, named⟩ := followUpFile_parsed
  have unrecorded : ¬ ScopeRecorded (pinnedStore PersistedState.default) bundle
      (Crates.plainScope 0xaa 5) := by
    rintro ⟨⟩
  exact ⟨result, after, bundle, ran, parsed, openExisting_pinnedStore rfl, named,
    Crates.plainScope 0xaa 5, by rw [scopes]; exact List.mem_singleton_self _, unrecorded,
    fun rule => unrecorded rule.scopeRecorded⟩

end FollowUp

end Hoike
