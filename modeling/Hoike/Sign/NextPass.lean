/-
Whether the signer's next pass can be loaded.

A pass takes the epoch of every section from one store, so the sections are not
measured against each other.  The bundles it writes are then loaded in
configuration order, each against what the ones before it recorded.
-/

import Hoike.Core.Reloadable
import Hoike.Sign.EpochReuse

namespace Hoike

open Ahu (Bundle Manifest CaScope)
open Ocsp
open Fallible

/-! ### Staging as a round -/

section Staging

variable [Sha2]

/-- Bundles that name no predecessor are staged one after another exactly when
they pass as a round. -/
theorem returns_stageBundles {os : Os} {bundles : List Bundle} {store : StateStore}
    {world : World} (staged : store.staged = true)
    (unlinked : ∀ bundle ∈ bundles, bundle.manifest.continuity.prevManifestDigest = none) :
    Returns (bundles.forM (stageBundle os)) (store, world) ↔
      Watermark.Passes maxEpochJump.toNat store.state.ledger (bundles.map generation) := by
  induction bundles generalizing store with
  | nil =>
      exact Iff.rfl
  | cons bundle rest ih =>
      have continuity : store.checkContinuity bundle = .ok () := by
        unfold StateStore.checkContinuity
        rw [unlinked bundle List.mem_cons_self]
      have remaining := @ih (store.withState (store.state.recordBundle bundle)) staged
        (fun next member => unlinked next (List.mem_cons_of_mem _ member))
      rw [StateStore.withState_state, PersistedState.ledger_recordBundle] at remaining
      change Ensures (stageBundle os bundle >>= fun _ => rest.forM (stageBundle os))
        (store, world) _ _ ↔ _
      rw [ensures_bind, ensures_stageBundle_or_false staged, StateStore.checkRollback_eq_ok]
      unfold Returns at remaining
      rw [remaining]
      exact ⟨fun ⟨accepted, _, passes⟩ => ⟨accepted, passes⟩,
        fun ⟨accepted, passes⟩ => ⟨accepted, continuity, passes⟩⟩

end Staging

/-! ### Marks and the ledger -/

theorem PersistedState.markOf_le (state : PersistedState) (id : ScopeId) :
    state.markOf id ≤ 2 ^ 64 - 1 :=
  Nat.le_sub_one_of_lt (UInt64.toNat_lt _)

theorem PersistedState.markOf_of_ledger {state : PersistedState} {id : ScopeId} {mark : ℕ}
    {digest : Option (Octets 32)} (recorded : state.ledger id = some (mark, digest)) :
    state.markOf id = mark ∧ state.digestAt (PersistedState.scopeKey id) = digest := by
  obtain ⟨word, found, rfl, held⟩ := PersistedState.ledger_eq_some.mp recorded
  refine ⟨?_, held⟩
  unfold PersistedState.markOf
  rw [found]
  rfl

theorem PersistedState.ledger_of_markOf (state : PersistedState) {id : ScopeId}
    (marked : 0 < state.markOf id) :
    state.ledger id = some (state.markOf id, state.digestAt (PersistedState.scopeKey id)) := by
  unfold PersistedState.markOf at marked ⊢
  cases found : state.highWaterMarks.lookup (PersistedState.scopeKey id) with
  | none =>
      rw [found] at marked
      exact absurd marked (Nat.lt_irrefl 0)
  | some mark =>
      exact PersistedState.ledger_eq_some.mpr ⟨mark, found, rfl, rfl⟩

/-! ### What a pass must find -/

section Pass

variable [Sha2]

/-- A scope is recorded below its epoch and within reach of it, or at its epoch
under the bundle's own manifest. -/
def CaScope.Follows (state : PersistedState) (bundle : Bundle) (scope : CaScope) : Prop :=
  ∀ mark digest, state.ledger (CaScope.id bundle scope) = some (mark, digest) →
    (mark < scope.epoch.toNat ∧ scope.epoch.toNat ≤ mark + maxEpochJump.toNat) ∨
      (mark = scope.epoch.toNat ∧ digest = some (Sha2.sha256 bundle.manifestBytes))

/-- The SHA-256 scopes have epochs left, the SHA-1 scopes have neither fallen too far
behind nor gone ahead, and no two bundles of the pass share a scope. -/
structure PassFollows (state : PersistedState) (bundles : List Bundle) : Prop where
  epochsLeft : ∀ bundle ∈ bundles, ∀ scope ∈ bundle.manifest.caScopes,
    scope.hashAlgorithm = sha256OidBytes →
      state.markOf (CaScope.id bundle scope) < 2 ^ 64 - 1 ∨
        state.digestAt (PersistedState.scopeKey (CaScope.id bundle scope)) =
          some (Sha2.sha256 bundle.manifestBytes)
  sha1Follows : ∀ bundle ∈ bundles, ∀ scope ∈ bundle.manifest.caScopes,
    scope.hashAlgorithm = sha1OidBytes → CaScope.Follows state bundle scope
  unshared : bundles.Pairwise fun first second =>
    ∀ scope ∈ first.manifest.caScopes, ∀ other ∈ second.manifest.caScopes,
      CaScope.id first scope = CaScope.id second other →
        Sha2.sha256 first.manifestBytes = Sha2.sha256 second.manifestBytes

theorem accepts_iff_follows {state : PersistedState} {bundle : Bundle} :
    Watermark.Accepts maxEpochJump.toNat state.ledger (generation bundle) ↔
      ∀ scope ∈ bundle.manifest.caScopes, CaScope.Follows state bundle scope := by
  constructor
  · intro accepted scope member mark digest recorded
    have claimed := mem_claims.mpr ⟨scope, member, rfl, rfl⟩
    obtain ⟨above, atMark⟩ := accepted.admits _ _ claimed _ _ recorded
    have near := accepted.within _ _ claimed _ _ recorded
    rcases Nat.lt_or_eq_of_le above with below | same
    · exact Or.inl ⟨below, near⟩
    · exact Or.inr ⟨same, atMark same.symm⟩
  · intro follows
    constructor
    · intro id epoch claimed mark digest recorded
      obtain ⟨scope, member, rfl, rfl⟩ := mem_claims.mp claimed
      rcases follows scope member mark digest recorded with ⟨below, _⟩ | ⟨same, own⟩
      · exact ⟨below.le, fun equal => absurd equal below.ne'⟩
      · exact ⟨same.le, fun _ => own⟩
    · intro id epoch claimed mark digest recorded
      obtain ⟨scope, member, rfl, rfl⟩ := mem_claims.mp claimed
      rcases follows scope member mark digest recorded with ⟨_, near⟩ | ⟨same, _⟩
      · exact near
      · rw [same]
        exact Nat.le_add_right _ _

variable [Sha1]

/-- The bundle was made at the epoch after this store's mark. -/
structure NextBundle (keys : Set Bytes) (state : PersistedState) (key : Bytes) (epoch : UInt64)
    (bundle : Bundle) : Prop where
  known : key ∈ keys
  signed : SignedBundle key epoch bundle
  next : epoch.toNat = min (state.markOf (combinedProducerId, (Sha2.sha256 key).val) + 1)
    (2 ^ 64 - 1)

theorem NextBundle.follows_iff {keys : Set Bytes} {state : PersistedState} {key : Bytes}
    {epoch : UInt64} {bundle : Bundle} (made : NextBundle keys state key epoch bundle)
    {own : CaScope} (member : own ∈ bundle.manifest.caScopes)
    (algorithm : own.hashAlgorithm = sha256OidBytes) :
    CaScope.Follows state bundle own ↔
      state.markOf (CaScope.id bundle own) < 2 ^ 64 - 1 ∨
        state.digestAt (PersistedState.scopeKey (CaScope.id bundle own)) =
          some (Sha2.sha256 bundle.manifestBytes) := by
  have next : own.epoch.toNat = min (state.markOf (CaScope.id bundle own) + 1) (2 ^ 64 - 1) := by
    rw [made.signed.epochs own member, made.next, made.signed.ownId member algorithm]
  have reach : 1 ≤ maxEpochJump.toNat := by decide
  have bounded := state.markOf_le (CaScope.id bundle own)
  constructor
  · intro follows
    by_cases left : state.markOf (CaScope.id bundle own) < 2 ^ 64 - 1
    · exact Or.inl left
    · have marked : 0 < state.markOf (CaScope.id bundle own) := by omega
      have recorded := state.ledger_of_markOf marked
      rcases follows _ _ recorded with ⟨below, _⟩ | ⟨_, same⟩
      · omega
      · exact Or.inr same
  · intro left mark digest recorded
    obtain ⟨marked, held⟩ := PersistedState.markOf_of_ledger recorded
    by_cases room : state.markOf (CaScope.id bundle own) < 2 ^ 64 - 1
    · exact Or.inl ⟨by omega, by omega⟩
    · refine Or.inr ⟨by omega, ?_⟩
      rw [← held]
      exact left.resolve_left room

theorem NextBundle.aligned {keys : Set Bytes} (collisionFree : Set.InjOn Sha1.sha1 keys)
    {state : PersistedState} {key key' : Bytes} {epoch epoch' : UInt64} {first second : Bundle}
    (made : NextBundle keys state key epoch first)
    (made' : NextBundle keys state key' epoch' second) :
    Watermark.Aligned (generation first) (generation second) := by
  intro id claim claim' claimed claimed'
  obtain ⟨scope, member, rfl, rfl⟩ := mem_claims.mp claimed
  obtain ⟨other, member', shared, rfl⟩ := mem_claims.mp claimed'
  have equal := sha256_eq_of_hashedBy collisionFree made.known made'.known
    (made.signed.hashes scope member) (made'.signed.hashes other member')
    (congrArg Prod.snd shared.symm)
  rw [made.signed.epochs scope member, made'.signed.epochs other member', made.next,
    made'.next, equal]

omit [Sha1] in
theorem agreeing_iff {first second : Bundle} :
    Watermark.Agreeing (generation first) (generation second) ↔
      ∀ scope ∈ first.manifest.caScopes, ∀ other ∈ second.manifest.caScopes,
        CaScope.id first scope = CaScope.id second other →
          Sha2.sha256 first.manifestBytes = Sha2.sha256 second.manifestBytes := by
  constructor
  · intro agreeing scope member other member' shared
    exact Option.some.inj (agreeing _ _ _ (mem_claims.mpr ⟨scope, member, rfl, rfl⟩)
      (mem_claims.mpr ⟨other, member', shared.symm, rfl⟩))
  · intro same id claim claim' claimed claimed'
    obtain ⟨scope, member, rfl, _⟩ := mem_claims.mp claimed
    obtain ⟨other, member', shared, _⟩ := mem_claims.mp claimed'
    exact congrArg some (same scope member other member' shared.symm)

theorem passes_iff_passFollows {keys : Set Bytes} (collisionFree : Set.InjOn Sha1.sha1 keys)
    {state : PersistedState} {bundles : List Bundle}
    (made : ∀ bundle ∈ bundles, ∃ key epoch, NextBundle keys state key epoch bundle) :
    Watermark.Passes maxEpochJump.toNat state.ledger (bundles.map generation) ↔
      PassFollows state bundles := by
  have aligned : ∀ left ∈ bundles.map generation, ∀ right ∈ bundles.map generation,
      Watermark.Aligned left right := by
    intro left member right member'
    obtain ⟨first, among, rfl⟩ := List.mem_map.mp member
    obtain ⟨second, among', rfl⟩ := List.mem_map.mp member'
    obtain ⟨_, _, here⟩ := made first among
    obtain ⟨_, _, there⟩ := made second among'
    exact here.aligned collisionFree there
  rw [Watermark.passes_iff aligned, List.forall_mem_map, List.pairwise_map]
  simp only [accepts_iff_follows, agreeing_iff]
  constructor
  · rintro ⟨follows, unshared⟩
    refine ⟨?_, fun bundle among scope member _ => follows bundle among scope member, unshared⟩
    intro bundle among scope member algorithm
    obtain ⟨_, _, own⟩ := made bundle among
    exact (own.follows_iff member algorithm).mp (follows bundle among scope member)
  · intro pass
    refine ⟨?_, pass.unshared⟩
    intro bundle among scope member
    obtain ⟨_, _, own⟩ := made bundle among
    rcases own.signed.hashes scope member with ⟨algorithm, _⟩ | ⟨algorithm, _⟩
    · exact (own.follows_iff member algorithm).mpr
        (pass.epochsLeft bundle among scope member algorithm)
    · exact pass.sha1Follows bundle among scope member algorithm

end Pass

/-! ### Passes of the signer -/

section Passes

variable [Sha2] [Ciborium] [Sha1] [Pki] [X509Ocsp] [SourceFiles]

/-- The files that a successful pass puts in place can be loaded in configuration
order, against the store they were signed on, exactly when that store was ready
for the pass. -/
theorem next_pass_loads_iff {directory : RealPath} (manifests : PlainManifestsReadBack)
    {env : SigningEnvironment} {config : SignerConfig} (works : env.WorksAt config directory)
    {desk after : Desk} {signed : List SignedScope}
    (ran : (signAndWriteAll env config).outcome desk = (.ok signed, after)) {store : StateStore}
    (opened : StateStore.openExisting env.os desk.world.disk
      (config.storage.stateDb.child "state.json") = .ok store) :
    ∃ fresh bundles, after.published = desk.published ++ fresh ∧
      fresh.map Publication.label = (config.ca.filter (·.source.isSome)).map (·.label) ∧
      List.Forall₂ (fun file bundle => Bundle.fromBytes file.bytes = .ok bundle) fresh bundles ∧
      (Set.InjOn Sha1.sha1 (issuerKeys [.signAll env config] fresh) →
        (Returns (bundles.forM (stageBundle env.os))
            (store.transaction.clearActiveBundles, after.world) ↔
          PassFollows store.state bundles)) := by
  obtain ⟨fresh, adds, each⟩ := (ensures_mapM_signAndWriteScope _).of_ok ran
  have found := descriptor_of_openExisting works.located opened
  have made : ∀ file ∈ fresh, ∃ bundle, Bundle.fromBytes file.bytes = .ok bundle ∧
      ∃ key epoch, NextBundle (issuerKeys [.signAll env config] fresh) store.state key epoch
        bundle := by
    intro file member
    obtain ⟨ca, among, under⟩ := each.exists_left member
    obtain ⟨recorded, key, epoch, bundle, keyed, made⟩ :=
      under.made works (List.filter_subset_self _ among) manifests
    have known : key ∈ issuerKeys [.signAll env config] fresh :=
      ⟨file, member, _, List.mem_singleton_self _, env, config, rfl, keyed⟩
    refine ⟨bundle, made.parses, key, epoch, known, made.signed, ?_⟩
    rw [made.next, Option.some.inj (recorded.symm.trans found)]
  obtain ⟨bundles, read⟩ := Except.exists_mapM fun file member => by
    obtain ⟨bundle, parses, _⟩ := made file member
    exact ⟨bundle, parses⟩
  have parses := Except.mapM_eq_ok.mp read
  refine ⟨fresh, bundles, adds.published, ?_, parses, ?_⟩
  · refine List.forall₂_eq_eq_eq ▸
      List.forall₂_map_left_iff.mpr (List.forall₂_map_right_iff.mpr (each.flip.imp ?_))
    rintro _ _ ⟨_, _, _, rfl, _⟩
    rfl
  · intro collisionFree
    have next : ∀ bundle ∈ bundles, ∃ key epoch,
        NextBundle (issuerKeys [.signAll env config] fresh) store.state key epoch bundle := by
      intro bundle member
      obtain ⟨file, among, parsed⟩ := parses.exists_left member
      obtain ⟨_, parsed', made⟩ := made file among
      cases parsed.symm.trans parsed'
      exact made
    rw [returns_stageBundles rfl]
    · exact passes_iff_passFollows collisionFree next
    · intro bundle member
      obtain ⟨_, _, made⟩ := next bundle member
      exact made.signed.unlinked

end Passes

/-! ### Two sections -/

section Samples

local instance passSha2 : Sha2 := Crates.sha2
local instance passSha1 : Sha1 := Crates.sha1
local instance passCiborium : Ciborium := Crates.ciborium
local instance passPki : Pki := Crates.pki []
local instance passX509Ocsp : X509Ocsp := Crates.x509OcspFor []

local instance passSourceFiles : SourceFiles :=
  { base64Decode := fun text =>
      if text = "c2hhcmVk" then .ok "shared".toUTF8.toList else .error "Invalid byte"
    crlFromFile := fun _ => .error "CRL parse error"
    authenticate := fun _ _ _ => .error (.verify "no issuer") }

def pairConfig (issuerKeyBytesB64 : Option String) : SignerConfig :=
  { quietConfig with
    ca := ["a", "b"].map fun label =>
      { label := label
        source := some .dogtagSync
        signingKey := some .demo
        issuerKeyBytesB64 := issuerKeyBytesB64 } }

def passAfter (node : Node) (now : UInt64) (config : SignerConfig) :
    Except String (List SignedScope) × Desk :=
  (signAndWriteAll (quietEnvironment (Os.faultless now)) config).outcome node.desk

def stagesPass (node : Node) (now : UInt64) (config : SignerConfig) :
    Option (List UInt64 × Bool) := do
  let store ← (StateStore.openExisting (Os.faultless now) node.desk.world.disk
    (config.storage.stateDb.child "state.json")).toOption
  let pass := passAfter node now config
  let signed ← pass.1.toOption
  let bundles ← ((pass.2.published.drop node.published.length).mapM fun file =>
    Bundle.fromBytes file.bytes).toOption
  return (signed.map SignedScope.epoch,
    ((bundles.forM (stageBundle (Os.faultless now))).outcome
      (store.transaction.clearActiveBundles, pass.2.world)).1.isOk)

def startAfterPass (config : SignerConfig) : Node :=
  quietNode.run ["w", "state"] [.signAll (quietEnvironment (Os.faultless 2000)) config,
    .serve (.start (Os.faultless 2000) config.toConfig)]

def reloadedPair : Node :=
  (startAfterPass (pairConfig none)).step ["w", "state"] (.serve (.reload (Os.faultless 3000)))

theorem exists_of_stagesPass {node : Node} {now : UInt64} {config : SignerConfig}
    {epochs : List UInt64} {stages : Bool}
    (computed : stagesPass node now config = some (epochs, stages)) :
    ∃ signed after store bundles, passAfter node now config = (.ok signed, after) ∧
      signed.map SignedScope.epoch = epochs ∧
      StateStore.openExisting (Os.faultless now) node.desk.world.disk
        (config.storage.stateDb.child "state.json") = .ok store ∧
      ((after.published.drop node.published.length).mapM fun file =>
        Bundle.fromBytes file.bytes) = .ok bundles ∧
      ((bundles.forM (stageBundle (Os.faultless now))).outcome
        (store.transaction.clearActiveBundles, after.world)).1.isOk = stages := by
  simp only [stagesPass, Option.bind_eq_bind, Option.bind_eq_some_iff, Except.toOption_eq_some,
    Option.pure_def, Option.some.injEq, Prod.mk.injEq] at computed
  obtain ⟨store, opened, signed, passed, bundles, read, epochs, staged⟩ := computed
  exact ⟨signed, _, store, bundles, Prod.ext passed rfl, epochs, opened, read, staged⟩

theorem sharedPass_computed :
    (pairConfig (some "c2hhcmVk")).validateForMode.isOk = true ∧
    stagesPass quietNode 2000 (pairConfig (some "c2hhcmVk")) = some ([1, 1], false) ∧
    (startAfterPass (pairConfig (some "c2hhcmVk"))).system.server.isNone = true := by
  decide +kernel

/-- Both sections are signed at epoch 1 under different manifests.  The second file is
a conflict at the epoch that the first one has just recorded, and the node cannot
start. -/
theorem shared_key_pass_refused :
    (pairConfig (some "c2hhcmVk")).validateForMode = .ok () ∧
      (startAfterPass (pairConfig (some "c2hhcmVk"))).system.server = none ∧
      ∃ signed after store bundles,
        (signAndWriteAll (quietEnvironment (Os.faultless 2000))
          (pairConfig (some "c2hhcmVk"))).outcome quietNode.desk = (.ok signed, after) ∧
        StateStore.openExisting (Os.faultless 2000) quietNode.desk.world.disk
          ((pairConfig (some "c2hhcmVk")).storage.stateDb.child "state.json") = .ok store ∧
        (after.published.mapM fun file => Bundle.fromBytes file.bytes) = .ok bundles ∧
        ¬ Returns (bundles.forM (stageBundle (Os.faultless 2000)))
          (store.transaction.clearActiveBundles, after.world) := by
  obtain ⟨valid, refused, stopped⟩ := sharedPass_computed
  obtain ⟨_, accepted⟩ := Except.exists_of_isOk valid
  obtain ⟨signed, after, store, bundles, ran, _, opened, read, failed⟩ :=
    exists_of_stagesPass refused
  refine ⟨accepted, Option.isNone_iff_eq_none.mp stopped, signed, after, store, bundles, ran,
    opened, read, ?_⟩
  rw [returns_iff, failed]
  exact Bool.false_ne_true

theorem reloadedPair_computed :
    stagesPass reloadedPair 4000 (pairConfig none) = some ([2, 2], true) ∧
      Sha1.sha1 "a-key".toUTF8.toList ≠ Sha1.sha1 "b-key".toUTF8.toList := by
  decide +kernel

theorem issuerKeys_pair {env : SigningEnvironment} {published : List Publication} :
    issuerKeys [.signAll env (pairConfig none)] published ⊆
      {"a-key".toUTF8.toList, "b-key".toUTF8.toList} := by
  rintro key ⟨publication, _, action, member, _, _, signs, ca, inConfig, _, identity, identified,
    rfl⟩
  rw [List.mem_singleton.mp member] at signs
  cases signs
  rcases List.mem_pair.mp inConfig with rfl | rfl
  · cases identified
    exact Or.inl rfl
  · cases identified
    exact Or.inr rfl

/-- The second pass finds the store as the reload of the first one left it, ready for
both sections. -/
theorem pass_after_reload_follows :
    ∃ signed after store fresh bundles,
      (signAndWriteAll (quietEnvironment (Os.faultless 4000)) (pairConfig none)).outcome
        reloadedPair.desk = (.ok signed, after) ∧
      signed.map SignedScope.epoch = [2, 2] ∧
      StateStore.openExisting (Os.faultless 4000) reloadedPair.desk.world.disk
        ((pairConfig none).storage.stateDb.child "state.json") = .ok store ∧
      after.published = reloadedPair.published ++ fresh ∧
      fresh.map Publication.label = ["a", "b"] ∧
      List.Forall₂ (fun file bundle => Bundle.fromBytes file.bytes = .ok bundle) fresh bundles ∧
      PassFollows store.state bundles := by
  obtain ⟨staged, different⟩ := reloadedPair_computed
  -- Nothing below depends on how the node got there.
  generalize reloadedPair = node at staged ⊢
  obtain ⟨signed, after, store, bundles, ran, epochs, opened, read, done⟩ :=
    exists_of_stagesPass staged
  have manifests : PlainManifestsReadBack := fun manifest plain short =>
    Crates.readsBack plain (Nat.lt_trans short (by decide))
  have works : (quietEnvironment (Os.faultless 4000)).WorksAt (pairConfig none) ["w", "state"] :=
    quiet_works rfl
  have collisionFree : Set.InjOn Sha1.sha1
      ({"a-key".toUTF8.toList, "b-key".toUTF8.toList} : Set Bytes) :=
    Set.injOn_pair.mpr fun same => absurd same different
  obtain ⟨fresh, bundles', published, labels, parses, loads⟩ :=
    next_pass_loads_iff manifests works ran opened
  obtain rfl : bundles = bundles' := by
    rw [published] at read
    change (List.drop node.published.length (node.published ++ fresh)).mapM _ = _ at read
    rw [List.drop_left] at read
    exact Except.ok.inj (read.symm.trans (Except.mapM_eq_ok.mpr parses))
  exact ⟨signed, after, store, fresh, bundles, ran, epochs, opened, published, labels, parses,
    (loads (collisionFree.mono issuerKeys_pair)).mp (returns_iff.mpr done)⟩

end Samples

end Hoike
