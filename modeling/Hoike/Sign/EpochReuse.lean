/-
Two generations at one epoch.

The epoch of a generation comes from the durable mark, and the mark moves only
when the generation is loaded.  Over any run of signings, loads and reloads, two
different generations have different epochs if the mark had reached the first
when the second was signed.  Where the marks only grow, they do only then.
-/

import Hoike.Sign.Signings

namespace Hoike

open Ahu (Bundle Manifest CaScope SealFits)
open Ocsp
open Fallible

/-! ### Runs of a signing node -/

/-- A responder with its signer, over one state directory. -/
structure Node where
  system : System
  published : List Publication

inductive SignerAction where
  | serve (action : Action)
  | signCa (env : SigningEnvironment) (config : SignerConfig) (label : String)
  | signAll (env : SigningEnvironment) (config : SignerConfig)

def Node.desk (node : Node) : Desk :=
  { world := node.system.world
    published := node.published }

def Node.after (node : Node) (desk : Desk) : Node :=
  { system := { node.system with world := desk.world }
    published := desk.published }

/-! ### Publications -/

def Publication.recorded (directory : RealPath) (publication : Publication) : PersistedState :=
  (publication.disk.descriptor (descriptorPlace directory)).getD PersistedState.default

def PersistedState.markOf (state : PersistedState) (id : ScopeId) : ℕ :=
  ((state.highWaterMarks.lookup (PersistedState.scopeKey id)).getD 0).toNat

theorem PersistedState.markOf_mono {earlier later : PersistedState}
    (grown : Watermark.Extends earlier.ledger later.ledger) (id : ScopeId) :
    earlier.markOf id ≤ later.markOf id := by
  unfold PersistedState.markOf
  cases found : earlier.highWaterMarks.lookup (PersistedState.scopeKey id) with
  | none =>
      exact Nat.zero_le _
  | some mark =>
      obtain ⟨mark', present, above⟩ := PersistedState.MarksKept.of_extends grown id mark found
      rw [present]
      exact UInt64.le_iff_toNat_le.mp above

section Publications

variable [Sha2] [Ciborium] [Sha1]

omit [Sha1] in
def Publication.Compatible (earlier later : Publication) : Prop :=
  ∀ first second, Bundle.fromBytes earlier.bytes = .ok first →
    Bundle.fromBytes later.bytes = .ok second →
      ∀ scope ∈ first.manifest.caScopes, ∀ other ∈ second.manifest.caScopes,
        CaScope.id first scope = CaScope.id second other → scope.epoch = other.epoch →
          first.manifestBytes = second.manifestBytes

omit [Sha2] [Sha1] in
theorem Publication.Compatible.refl (publication : Publication) :
    publication.Compatible publication := by
  intro first second parses parses' _ _ _ _ _ _
  cases parses.symm.trans parses'
  rfl

instance Publication.Compatible.symmetric : Std.Symm Publication.Compatible where
  symm _ _ compatible := by
    intro first second parses parses' scope member other member' shared sameEpoch
    exact (compatible second first parses' parses other member' scope member shared.symm
      sameEpoch.symm).symm

def OneGenerationPerEpoch (published : List Publication) : Prop :=
  ∀ earlier ∈ published, ∀ later ∈ published, Publication.Compatible earlier later

/-- When the later file was signed, the durable mark of its issuer key had
reached the earlier one, and epochs were left. -/
def Publication.RecordedBefore (directory : RealPath) (earlier later : Publication) : Prop :=
  ∀ first second, Bundle.fromBytes earlier.bytes = .ok first →
    Bundle.fromBytes later.bytes = .ok second → first.manifestBytes ≠ second.manifestBytes →
      ∀ scope ∈ first.manifest.caScopes, ∀ other ∈ second.manifest.caScopes,
        CaScope.id first scope = CaScope.id second other →
          scope.epoch.toNat < 2 ^ 64 - 1 ∧
            ∀ own ∈ second.manifest.caScopes, own.hashAlgorithm = sha256OidBytes →
              scope.epoch.toNat ≤
                (later.recorded directory).markOf (CaScope.id second own)

/-- A file with the scopes of one key, one above the durable mark of its SHA-256
scope as far as epochs reach. -/
structure Publication.Made (directory : RealPath) (key : Bytes) (epoch : UInt64)
    (bundle : Bundle) (publication : Publication) : Prop where
  parses : Bundle.fromBytes publication.bytes = .ok bundle
  signed : SignedBundle key epoch bundle
  next : epoch.toNat = min ((publication.recorded directory).markOf
    (combinedProducerId, (Sha2.sha256 key).val) + 1) (2 ^ 64 - 1)

omit [Ciborium] in
theorem SignedBundle.ownId {key : Bytes} {epoch : UInt64} {bundle : Bundle}
    (signed : SignedBundle key epoch bundle) {own : CaScope}
    (member : own ∈ bundle.manifest.caScopes) (algorithm : own.hashAlgorithm = sha256OidBytes) :
    CaScope.id bundle own = (combinedProducerId, (Sha2.sha256 key).val) := by
  rcases signed.hashes own member with ⟨_, hash⟩ | ⟨other, _⟩
  · exact Prod.ext signed.producer hash
  · exact absurd (algorithm.symm.trans other) (by decide)

omit [Ciborium] in
theorem sha256_eq_of_hashedBy {keys : Set Bytes} (collisionFree : Set.InjOn Sha1.sha1 keys)
    {key key' : Bytes} {scope other : CaScope} (known : key ∈ keys) (known' : key' ∈ keys)
    (hashed : HashedBy key scope) (hashed' : HashedBy key' other)
    (same : scope.issuerKeyHash = other.issuerKeyHash) :
    (Sha2.sha256 key).val = (Sha2.sha256 key').val := by
  rcases hashed with ⟨_, first⟩ | ⟨_, first⟩ <;> rcases hashed' with ⟨_, second⟩ | ⟨_, second⟩
  · rw [← first, same, second]
  · have sizes := congrArg List.length (first.symm.trans (same.trans second))
    rw [(Sha2.sha256 key).property, (Sha1.sha1 key').property] at sizes
    cases sizes
  · have sizes := congrArg List.length (first.symm.trans (same.trans second))
    rw [(Sha1.sha1 key).property, (Sha2.sha256 key').property] at sizes
    cases sizes
  · have equal : key = key' :=
      collisionFree known known' (Subtype.ext (first.symm.trans (same.trans second)))
    rw [equal]

theorem Publication.Made.compatible {directory : RealPath} {key : Bytes} {epoch : UInt64}
    {second : Bundle} {earlier later : Publication}
    (made : later.Made directory key epoch second)
    (recorded : earlier.RecordedBefore directory later) : earlier.Compatible later := by
  intro one two parses parses' scope member other member' shared sameEpoch
  cases made.parses.symm.trans parses'
  by_contra differ
  obtain ⟨left, reached⟩ := recorded _ _ parses parses' differ scope member other member' shared
  obtain ⟨own, ownMember, algorithm⟩ := made.signed.own
  have below := reached own ownMember algorithm
  rw [made.signed.ownId ownMember algorithm] at below
  have next := congrArg UInt64.toNat sameEpoch
  rw [made.signed.epochs other member', made.next] at next
  omega

/-- Where marks have grown from one file to the next and keys do not collide,
compatible files were signed above each other's marks. -/
theorem Publication.Made.recordedBefore {directory : RealPath} {keys : Set Bytes}
    (collisionFree : Set.InjOn Sha1.sha1 keys) {key key' : Bytes} (known : key ∈ keys)
    (known' : key' ∈ keys) {epoch epoch' : UInt64} {first second : Bundle}
    {earlier later : Publication} (made : earlier.Made directory key epoch first)
    (made' : later.Made directory key' epoch' second)
    (grown : Watermark.Extends (earlier.recorded directory).ledger
      (later.recorded directory).ledger)
    (compatible : earlier.Compatible later) : earlier.RecordedBefore directory later := by
  intro one two parses parses' differ scope member other member' shared
  cases made.parses.symm.trans parses
  cases made'.parses.symm.trans parses'
  have different : scope.epoch.toNat ≠ other.epoch.toNat := fun same =>
    differ (compatible _ _ parses parses' scope member other member' shared
      (UInt64.toNat_inj.mp same))
  -- Over the shared scope both epochs come from one mark, which has only grown.
  have equal := sha256_eq_of_hashedBy collisionFree known known'
    (made.signed.hashes scope member) (made'.signed.hashes other member')
    (congrArg Prod.snd shared)
  have below := PersistedState.markOf_mono grown (combinedProducerId, (Sha2.sha256 key').val)
  rw [made.signed.epochs scope member, made.next, equal,
    made'.signed.epochs other member', made'.next] at different
  have epochAt : scope.epoch.toNat = _ := (congrArg UInt64.toNat
    (made.signed.epochs scope member)).trans made.next
  rw [equal] at epochAt
  refine ⟨by omega, ?_⟩
  intro own ownMember algorithm
  rw [made'.signed.ownId ownMember algorithm]
  omega

end Publications

section Runs

variable [Sha2] [Ciborium] [Sha1] [Pki] [X509Ocsp] [SourceFiles]

/-- Signings exclude one another, and every load or reload is a step of its own
that may fail or not come at all. -/
def Node.step (directory : RealPath) (node : Node) : SignerAction → Node
  | .serve action => { node with system := node.system.step directory action }
  | .signCa env config label =>
      match config.ca.find? (·.label = label) with
      | none => node
      | some ca => node.after ((signAndWriteScope env config ca).outcome node.desk).2
  | .signAll env config => node.after ((signAndWriteAll env config).outcome node.desk).2

def Node.run (directory : RealPath) (node : Node) (actions : List SignerAction) : Node :=
  actions.foldl (Node.step directory) node

def SignerAction.signing : SignerAction → Option (SigningEnvironment × SignerConfig)
  | serve _ => none
  | signCa env config _ => some (env, config)
  | signAll env config => some (env, config)

/-- The environment works on this state directory, and its manifests and seals fit
the header. -/
structure SigningEnvironment.WorksAt (env : SigningEnvironment) (config : SignerConfig)
    (directory : RealPath) : Prop where
  located : env.os.realpath config.storage.stateDb = directory
  fits : ∀ ca ∈ config.ca, ∀ world signed,
    ∀ signing : ScopeSigning env config ca world signed, signing.Fits

def SignerAction.WorksAt (directory : RealPath) (action : SignerAction) : Prop :=
  ∀ env config, action.signing = some (env, config) → env.WorksAt config directory

def SignerAction.CertainDescriptor : SignerAction → Prop
  | serve action => action.CertainDescriptor
  | signCa _ _ _ => True
  | signAll _ _ => True

/-! ### Keys of a publication -/

omit [Sha2] [Ciborium] [Sha1] in
def Publication.KeyedBy (env : SigningEnvironment) (config : SignerConfig)
    (publication : Publication) (key : Bytes) : Prop :=
  ∃ ca ∈ config.ca, ca.label = publication.label ∧ ∃ identity,
    caIdentity env.os publication.disk ca = .ok identity ∧ identity.issuerKeyBytes = key

omit [Sha2] [Ciborium] [Sha1] in
def issuerKeys (actions : List SignerAction) (published : List Publication) : Set Bytes :=
  { key | ∃ publication ∈ published, ∃ action ∈ actions, ∃ env config,
    action.signing = some (env, config) ∧ publication.KeyedBy env config key }

omit [Sha1] [Pki] [X509Ocsp] [SourceFiles] in
theorem descriptor_of_openExisting {directory : RealPath} {os : Os} {disk : Disk}
    {stateDb : PathBuf} {store : StateStore} (located : os.realpath stateDb = directory)
    (opened : StateStore.openExisting os disk (stateDb.child "state.json") = .ok store) :
    disk.descriptor (descriptorPlace directory) = some store.state := by
  obtain ⟨_, _, read, _⟩ := StateStore.openExisting_eq_ok.mp opened
  unfold Os.readState at read
  rw [Os.locate_state located] at read
  exact Disk.descriptor_eq_some.mpr read

theorem SignedUnder.made {env : SigningEnvironment} {config : SignerConfig} {ca : SignerCa}
    {directory : RealPath} {start : World} {publication : Publication}
    (under : SignedUnder env config start ca publication)
    (works : env.WorksAt config directory) (member : ca ∈ config.ca)
    (manifests : PlainManifestsReadBack) :
    start.disk.descriptor (descriptorPlace directory) = some (publication.recorded directory) ∧
      ∃ key epoch bundle, publication.KeyedBy env config key ∧
        publication.Made directory key epoch bundle := by
  obtain ⟨world, signed, since, rfl, ⟨signing⟩⟩ := under
  have found := descriptor_of_openExisting works.located signing.opened
  have recorded : (publicationOf ca world signed).recorded directory = signing.store.state := by
    change (world.disk.descriptor (descriptorPlace directory)).getD _ = _
    rw [found]
    rfl
  obtain ⟨bundle, parses, shape⟩ :=
    signing.signedBundle manifests (works.fits ca member world signed signing)
  refine ⟨?_, _, signed.epoch, bundle, ⟨ca, member, rfl, _, signing.identified, rfl⟩,
    parses, shape, ?_⟩
  · rw [recorded]
    exact since _ _ found
  · rw [recorded, signing.epoch, toNat_saturatingAddU64]
    rfl

/-! ### What a step can do -/

def Node.Signs (env : SigningEnvironment) (config : SignerConfig) (node next : Node) : Prop :=
  ∃ after fresh, next = node.after after ∧ node.desk.Adds after fresh ∧
    ∀ publication ∈ fresh, ∃ ca ∈ config.ca,
      SignedUnder env config node.system.world ca publication

theorem Node.signs_scope (node : Node) {env : SigningEnvironment} {config : SignerConfig}
    {ca : SignerCa} (member : ca ∈ config.ca) :
    node.Signs env config
      (node.after ((signAndWriteScope env config ca).outcome node.desk).2) := by
  have one : ∀ signed, Nonempty (ScopeSigning env config ca node.desk.world signed) →
      ∀ publication ∈ [publicationOf ca node.desk.world signed], ∃ ca ∈ config.ca,
        SignedUnder env config node.system.world ca publication := by
    intro signed signing publication own
    rw [List.mem_singleton.mp own]
    exact ⟨ca, member, node.desk.world, signed, .of_disk rfl, rfl, signing⟩
  refine Ensures.outcome (fun outcome => node.Signs env config (node.after outcome.2))
    (ensures_signAndWriteScope ?_ ?_ ?_)
  · intro signed after signing adds
    exact ⟨after, _, rfl, adds, one signed signing⟩
  · intro error after adds
    exact ⟨after, [], rfl, adds, fun _ impossible => absurd impossible List.not_mem_nil⟩
  · intro error signed after signing adds
    exact ⟨after, _, rfl, adds, one signed signing⟩

theorem Node.signs_sections (node : Node) {env : SigningEnvironment} {config : SignerConfig} :
    node.Signs env config (node.after ((signAndWriteAll env config).outcome node.desk).2) := by
  have among : ∀ {front fresh}, front <+: config.ca.filter (fun ca => ca.source.isSome) →
      List.Forall₂ (SignedUnder env config node.desk.world) front fresh →
        ∀ publication ∈ fresh, ∃ ca ∈ config.ca,
          SignedUnder env config node.system.world ca publication := by
    intro front fresh initial each publication member
    obtain ⟨ca, inFront, under⟩ := each.exists_left member
    exact ⟨ca, List.filter_subset_self _ (initial.subset inFront), under⟩
  refine Ensures.outcome (fun outcome => node.Signs env config (node.after outcome.2))
    ((ensures_mapM_signAndWriteScope _).mono ?_ ?_)
  · rintro _ after ⟨fresh, adds, each⟩
    exact ⟨after, fresh, rfl, adds, among List.prefix_rfl each⟩
  · rintro _ after ⟨front, fresh, initial, adds, each⟩
    exact ⟨after, fresh, rfl, adds, among initial each⟩

theorem Node.step_cases (directory : RealPath) (node : Node) (action : SignerAction) :
    (∃ inner, action = .serve inner ∧ node.step directory action =
        { node with system := node.system.step directory inner }) ∨
      ∃ env config, action.signing = some (env, config) ∧
        node.Signs env config (node.step directory action) := by
  cases action with
  | serve inner =>
      exact Or.inl ⟨inner, rfl, rfl⟩
  | signCa env config label =>
      refine Or.inr ⟨env, config, rfl, ?_⟩
      simp only [Node.step]
      cases found : config.ca.find? (·.label = label) with
      | none =>
          exact ⟨node.desk, [], rfl, .refl _,
            fun _ impossible => absurd impossible List.not_mem_nil⟩
      | some ca =>
          exact node.signs_scope (List.mem_of_find?_eq_some found)
  | signAll env config =>
      exact Or.inr ⟨env, config, rfl, node.signs_sections⟩

/-! ### What a run keeps -/

def Publication.MadeBy (directory : RealPath) (actions : List SignerAction)
    (publication : Publication) : Prop :=
  ∃ action ∈ actions, ∃ env config, action.signing = some (env, config) ∧
    ∃ key epoch bundle, publication.KeyedBy env config key ∧
      publication.Made directory key epoch bundle

theorem Publication.MadeBy.known {directory : RealPath} {actions : List SignerAction}
    {published : List Publication} {publication : Publication}
    (madeBy : publication.MadeBy directory actions) (member : publication ∈ published) :
    ∃ key ∈ issuerKeys actions published, ∃ epoch bundle,
      publication.Made directory key epoch bundle := by
  obtain ⟨action, among, env, config, signs, key, epoch, bundle, keyed, made⟩ := madeBy
  exact ⟨key, ⟨publication, member, action, among, env, config, signs, keyed⟩, epoch, bundle,
    made⟩

/-- Whatever fails in a run, each of its files was made one above a durable mark. -/
theorem Node.madeBy_run {directory : RealPath} (manifests : PlainManifestsReadBack)
    (all : List SignerAction) (works : ∀ action ∈ all, action.WorksAt directory)
    (actions : List SignerAction) (among : actions ⊆ all) {node : Node}
    (made : ∀ publication ∈ node.published, publication.MadeBy directory all) :
    ∀ publication ∈ (node.run directory actions).published,
      publication.MadeBy directory all := by
  induction actions generalizing node with
  | nil =>
      exact made
  | cons action rest ih =>
      obtain ⟨here, later⟩ := List.cons_subset.mp among
      refine ih later ?_
      rcases node.step_cases directory action with
        ⟨_, _, next⟩ | ⟨env, config, signs, after, fresh, next, adds, each⟩
      · rw [next]
        exact made
      · rw [next]
        change ∀ publication ∈ after.published, _
        rw [adds.published]
        intro publication member
        rcases List.mem_append.mp member with old | new
        · exact made publication old
        · obtain ⟨ca, inConfig, under⟩ := each publication new
          exact ⟨action, here, env, config, signs,
            (under.made (works action here env config signs) inConfig manifests).2⟩

/-- Every file so far was made on a state that has since only grown, in order. -/
structure Node.Tracks (directory : RealPath) (state : PersistedState) (node : Node) : Prop where
  consistent : node.system.Consistent directory state
  grown : ∀ publication ∈ node.published,
    Watermark.Extends (publication.recorded directory).ledger state.ledger
  ordered : node.published.Pairwise fun earlier later =>
    Watermark.Extends (earlier.recorded directory).ledger (later.recorded directory).ledger

theorem Node.Tracks.sign {directory : RealPath} {state : PersistedState} {node next : Node}
    (tracks : node.Tracks directory state) (manifests : PlainManifestsReadBack)
    {env : SigningEnvironment} {config : SignerConfig} (works : env.WorksAt config directory)
    (signs : node.Signs env config next) : next.Tracks directory state := by
  obtain ⟨after, fresh, rfl, adds, each⟩ := signs
  have here : ∀ publication ∈ fresh, publication.recorded directory = state := by
    intro publication member
    obtain ⟨ca, inConfig, under⟩ := each publication member
    exact tracks.consistent.descriptor _ (under.made works inConfig manifests).1
  refine ⟨tracks.consistent.of_noNewDescriptor adds.descriptors, ?_, ?_⟩
  · change ∀ publication ∈ after.published, _
    rw [adds.published]
    intro publication member
    rcases List.mem_append.mp member with old | new
    · exact tracks.grown publication old
    · rw [here publication new]
      exact .refl _
  · change after.published.Pairwise _
    rw [adds.published]
    refine List.pairwise_append.mpr ⟨tracks.ordered, ?_, ?_⟩
    · refine List.pairwise_of_forall_mem_list ?_
      intro earlier member later member'
      rw [here earlier member, here later member']
      exact .refl _
    · intro earlier old later new
      rw [here later new]
      exact tracks.grown earlier old

theorem Node.Tracks.step {directory : RealPath} {state : PersistedState} {node : Node}
    (manifests : PlainManifestsReadBack) (tracks : node.Tracks directory state)
    {action : SignerAction} (works : action.WorksAt directory)
    (certain : action.CertainDescriptor) :
    ∃ state', (node.step directory action).Tracks directory state' := by
  rcases node.step_cases directory action with
    ⟨inner, rfl, next⟩ | ⟨env, config, signing, signs⟩
  · obtain ⟨state', _, advance⟩ := System.step_advance tracks.consistent inner certain
    rw [next]
    refine ⟨state', advance.consistent, ?_, tracks.ordered⟩
    intro publication member
    exact (tracks.grown publication member).trans advance.climb.history.extends
  · exact ⟨state, tracks.sign manifests (works env config signing) signs⟩

theorem Node.Tracks.run {directory : RealPath} {state : PersistedState} {node : Node}
    (manifests : PlainManifestsReadBack) (tracks : node.Tracks directory state)
    (actions : List SignerAction) (works : ∀ action ∈ actions, action.WorksAt directory)
    (certain : ∀ action ∈ actions, action.CertainDescriptor) :
    ∃ state', (node.run directory actions).Tracks directory state' := by
  induction actions generalizing state node with
  | nil =>
      exact ⟨state, tracks⟩
  | cons action rest ih =>
      obtain ⟨between, first⟩ := tracks.step manifests (works action List.mem_cons_self)
        (certain action List.mem_cons_self)
      exact ih first (fun next member => works next (List.mem_cons_of_mem _ member))
        (fun next member => certain next (List.mem_cons_of_mem _ member))

/-- Over any run, no scope is published twice at one epoch if every file was
recorded before another one for its issuer key was signed.  If no write of the
descriptor is left uncertain and the issuer keys of the run do not collide, this
is also necessary. -/
theorem one_generation_per_epoch_iff {directory : RealPath} (manifests : PlainManifestsReadBack)
    {node : Node} (fresh : node.published = []) (actions : List SignerAction)
    (works : ∀ action ∈ actions, action.WorksAt directory) :
    ((node.run directory actions).published.Pairwise (Publication.RecordedBefore directory) →
        OneGenerationPerEpoch (node.run directory actions).published) ∧
      ∀ state, node.system.Consistent directory state →
        (∀ action ∈ actions, action.CertainDescriptor) →
        Set.InjOn Sha1.sha1 (issuerKeys actions (node.run directory actions).published) →
        OneGenerationPerEpoch (node.run directory actions).published →
          (node.run directory actions).published.Pairwise
            (Publication.RecordedBefore directory) := by
  have made : ∀ publication ∈ (node.run directory actions).published,
      publication.MadeBy directory actions := by
    refine Node.madeBy_run manifests actions works actions (List.Subset.refl _) ?_
    rw [fresh]
    exact fun _ impossible => absurd impossible List.not_mem_nil
  constructor
  · intro recorded
    have inOrder : (node.run directory actions).published.Pairwise Publication.Compatible := by
      refine recorded.imp_of_mem ?_
      intro earlier later _ member' before
      obtain ⟨_, _, _, _, _, _, _, _, _, own⟩ := made later member'
      exact own.compatible before
    refine fun earlier member later member' => inOrder.forall_of_forall ?_ member member'
    exact fun publication _ => .refl publication
  · intro state consistent certain collisionFree unique
    have start : node.Tracks directory state := by
      refine ⟨consistent, ?_, ?_⟩ <;> rw [fresh]
      · exact fun _ impossible => absurd impossible List.not_mem_nil
      · exact List.Pairwise.nil
    obtain ⟨final, tracks⟩ := start.run manifests actions works certain
    refine tracks.ordered.imp_of_mem ?_
    intro earlier later member member' grown
    obtain ⟨key, known, _, _, own⟩ := (made earlier member).known member
    obtain ⟨key', known', _, _, own'⟩ := (made later member').known member'
    exact own.recordedBefore collisionFree known known' own' grown
      (unique earlier member later member')

end Runs

/-! ### A pass whose reload fails -/

section Samples

local instance reuseSha2 : Sha2 := Crates.sha2
local instance reuseSha1 : Sha1 := Crates.sha1
local instance reuseCiborium : Ciborium := Crates.ciborium
local instance reusePki : Pki := Crates.pki []
local instance reuseX509Ocsp : X509Ocsp := Crates.x509OcspFor []

local instance reuseSourceFiles : SourceFiles :=
  { base64Decode := fun _ => .error "Invalid byte"
    crlFromFile := fun _ => .error "CRL parse error"
    authenticate := fun _ _ _ => .error (.verify "no issuer") }

def quietSource : RevocationSource :=
  { snapshot := fun _ _ => .ok (producedSnapshot [])
    isAuthoritativeComplete := fun _ => false }

def quietEnvironment (os : Os) : SigningEnvironment :=
  { os := os
    sources := fun _ => some quietSource
    material := fun _ _ =>
      { live := .ok ()
        responderCert := .ok none
        sealing := .ok emptySeal
        signer := .ok producedSigner } }

def quietConfig : SignerConfig :=
  { server := { mode := "combined" }
    storage :=
      { bundleDir := { root := true, parts := ["w", "bundles"] }
        stateDb := { root := true, parts := ["w", "state"] }
        allowUnauthenticatedBundles := true }
    ca := [{ label := "a", source := some .dogtagSync, signingKey := some .demo }] }

def quietNode : Node :=
  { system :=
      { world := World.holding [] ["w", "state", "state.json"] PersistedState.default
        server := none
        accepted := [] }
    published := [] }

def fullDisk (now : UInt64) : Os :=
  { Os.faultless now with writeOutcome := fun _ _ => .failedBeforeRename .permissionDenied }

def threePasses (reloading : Os) : List SignerAction :=
  [.signAll (quietEnvironment (Os.faultless 2000)) quietConfig,
    .serve (.start (Os.faultless 2000) quietConfig.toConfig),
    .signAll (quietEnvironment (Os.faultless 3000)) quietConfig,
    .serve (.reload reloading),
    .signAll (quietEnvironment (Os.faultless 4000)) quietConfig]

def quietRun (reloading : Os) : Node :=
  quietNode.run ["w", "state"] (threePasses reloading)

def Publication.collides (earlier later : Publication) : Bool :=
  match Bundle.fromBytes earlier.bytes, Bundle.fromBytes later.bytes with
  | .ok first, .ok second =>
      first.manifestBytes ≠ second.manifestBytes &&
        first.manifest.caScopes.any fun scope => second.manifest.caScopes.any fun other =>
          CaScope.id first scope = CaScope.id second other ∧ scope.epoch = other.epoch
  | _, _ => false

theorem Publication.compatible_iff {earlier later : Publication} :
    earlier.Compatible later ↔ earlier.collides later = false := by
  unfold Publication.Compatible Publication.collides
  cases read : Bundle.fromBytes earlier.bytes with
  | error _ =>
      simp
  | ok first =>
      cases read' : Bundle.fromBytes later.bytes with
      | error _ =>
          simp
      | ok second =>
          constructor
          · intro compatible
            rw [Bool.eq_false_iff]
            intro clash
            obtain ⟨differ, found⟩ := Bool.and_eq_true_iff.mp clash
            obtain ⟨scope, member, found⟩ := List.any_eq_true.mp found
            obtain ⟨other, member', both⟩ := List.any_eq_true.mp found
            obtain ⟨shared, sameEpoch⟩ := of_decide_eq_true both
            exact of_decide_eq_true differ
              (compatible first second rfl rfl scope member other member' shared sameEpoch)
          · intro apart one two same same' scope member other member' shared sameEpoch
            cases same
            cases same'
            by_contra differ
            refine Bool.eq_false_iff.mp apart (Bool.and_eq_true_iff.mpr ⟨decide_eq_true differ, ?_⟩)
            exact List.any_eq_true.mpr ⟨scope, member, List.any_eq_true.mpr
              ⟨other, member', decide_eq_true ⟨shared, sameEpoch⟩⟩⟩

theorem oneGenerationPerEpoch_iff {published : List Publication} :
    OneGenerationPerEpoch published ↔
      published.Pairwise fun earlier later => earlier.collides later = false := by
  simp only [← Publication.compatible_iff]
  constructor
  · intro unique
    exact List.pairwise_of_forall_mem_list unique
  · intro inOrder earlier member later member'
    exact inOrder.forall_of_forall (fun _ _ => .refl _) member member'

theorem passes_computed :
    (quietRun (Os.faultless 3000)).published.length = 3 ∧
    ((quietRun (Os.faultless 3000)).published.Pairwise fun earlier later =>
      earlier.collides later = false) ∧
    ¬ (quietRun (fullDisk 3000)).published.Pairwise fun earlier later =>
      earlier.collides later = false := by
  decide +kernel

/-- The second pass is written at epoch 2, its reload fails, and the third pass is
written at epoch 2 as well. -/
theorem failed_reload_repeats_epoch :
    ¬ OneGenerationPerEpoch (quietRun (fullDisk 3000)).published := by
  rw [oneGenerationPerEpoch_iff]
  exact passes_computed.2.2

theorem quiet_works [Pki] [X509Ocsp] [SourceFiles] {os : Os} {config : SignerConfig}
    {directory : RealPath} (located : os.realpath config.storage.stateDb = directory) :
    (quietEnvironment os).WorksAt config directory := by
  refine ⟨located, ?_⟩
  intro ca _ world signed signing builder filled
  obtain ⟨again, filledAgain, built⟩ := Production.produce_eq_ok.mp signing.produced
  cases filled.symm.trans filledAgain
  have sealing : signing.sealFn = emptySeal := (Except.ok.inj signing.sealing).symm
  rw [sealing] at built ⊢
  exact (sealsWith_emptySeal built).fits (by decide)

theorem threePasses_work {reloading : Os} :
    ∀ action ∈ threePasses reloading, action.WorksAt ["w", "state"] := by
  intro action member env config signs
  simp only [threePasses, List.mem_cons, List.not_mem_nil, or_false] at member
  rcases member with rfl | rfl | rfl | rfl | rfl <;> cases signs
  · exact quiet_works rfl
  · exact quiet_works rfl
  · exact quiet_works rfl

theorem issuerKeys_threePasses {reloading : Os} {published : List Publication} :
    issuerKeys (threePasses reloading) published ⊆ {"a-key".toUTF8.toList} := by
  rintro key ⟨publication, _, action, member, env, config, signs, ca, inConfig, _, identity,
    identified, rfl⟩
  have own : config = quietConfig := by
    simp only [threePasses, List.mem_cons, List.not_mem_nil, or_false] at member
    rcases member with rfl | rfl | rfl | rfl | rfl <;> cases signs <;> rfl
  subst own
  rw [List.mem_singleton.mp inConfig] at identified
  cases identified
  rfl

/-- With the reload in between, each pass finds the one before it recorded. -/
theorem reloaded_passes_recorded :
    (quietRun (Os.faultless 3000)).published.length = 3 ∧
      (quietRun (Os.faultless 3000)).published.Pairwise
        (Publication.RecordedBefore ["w", "state"]) ∧
      OneGenerationPerEpoch (quietRun (Os.faultless 3000)).published := by
  obtain ⟨count, apart, _⟩ := passes_computed
  have manifests : PlainManifestsReadBack := fun manifest plain short =>
    Crates.readsBack plain (Nat.lt_trans short (by decide))
  have certain : ∀ action ∈ threePasses (Os.faultless 3000), action.CertainDescriptor := by
    intro action member
    simp only [threePasses, List.mem_cons, List.not_mem_nil, or_false] at member
    rcases member with rfl | rfl | rfl | rfl | rfl
    · trivial
    · exact Os.faultless_certain 2000
    · trivial
    · exact Os.faultless_certain 3000
    · trivial
  obtain ⟨sufficient, necessary⟩ := one_generation_per_epoch_iff manifests
    (show quietNode.published = [] from rfl) (threePasses (Os.faultless 3000)) threePasses_work
  have recorded := necessary _ (.of_stopped rfl rfl) certain
    ((Set.injOn_singleton _ _).mono issuerKeys_threePasses)
    (oneGenerationPerEpoch_iff.mpr apart)
  exact ⟨count, recorded, sufficient recorded⟩

end Samples

end Hoike
