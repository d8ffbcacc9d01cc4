/-
What one signing does.

A signing reads the durable mark, produces a bundle at the next epoch and puts
at most that bundle in place.  It writes no descriptor; a bundle destination
that names the descriptor replaces it.  The bundle is read back with the scopes
of its issuer key at that epoch.
-/

import Hoike.Core.System
import Hoike.Sign.Agreement
import Hoike.Sign.Orchestrate

namespace Hoike

open Ahu (Bundle Manifest CaScope SealFits)
open Ocsp
open Fallible

/-! ### Steps of a signing process -/

/-- No descriptor was written and these publications were added. -/
structure Desk.Adds (before after : Desk) (fresh : List Publication) : Prop where
  descriptors : before.world.NoNewDescriptor after.world
  published : after.published = before.published ++ fresh

theorem Desk.Adds.refl (desk : Desk) : desk.Adds desk [] :=
  ⟨.of_disk rfl, (List.append_nil _).symm⟩

theorem Desk.Adds.trans {first second third : Desk} {earlier later : List Publication}
    (before : first.Adds second earlier) (after : second.Adds third later) :
    first.Adds third (earlier ++ later) :=
  ⟨before.descriptors.trans after.descriptors, by
    rw [after.published, before.published, List.append_assoc]⟩

theorem ensures_writeBundleAtomic {os : Os} {path : PathBuf} {label : String} {bytes : Bytes}
    {desk : Desk} {onOk : Unit → Desk → Prop} {onError : String → Desk → Prop}
    (written : ∀ after, desk.Adds after [⟨label, bytes, desk.world.disk⟩] → onOk () after)
    (failed : ∀ error after fresh, desk.Adds after fresh →
      fresh = [] ∨ fresh = [⟨label, bytes, desk.world.disk⟩] → onError error after) :
    Ensures (writeBundleAtomic os path label bytes) desk onOk onError := by
  have stored : ∀ world, world = World.putFile (os.locate path) bytes desk.world.tick →
      desk.world.NoNewDescriptor world := by
    rintro _ rfl
    exact (World.stored_putFile desk.world.sameDisk_tick).noNewDescriptor
  have run : Ensures (writeFile os path bytes) desk.world
      (fun _ world => onOk () ⟨world, desk.published ++ [⟨label, bytes, desk.world.disk⟩]⟩)
      (fun error world => onError s!"publish {path.display}: {error.display}"
        ⟨world, desk.published ++ if WasReplaced (.error error) then
          [⟨label, bytes, desk.world.disk⟩] else []⟩) := by
    refine ensures_writeAtomic (fun _ _ => written _ ⟨stored _ rfl, rfl⟩) ?_
      (fun _ reason _ => failed _ _ _ ⟨stored _ rfl, rfl⟩ (Or.inr rfl))
    intro error determinate
    refine failed _ _ [] ⟨.of_disk desk.world.sameDisk_tick.disk, ?_⟩ (Or.inl rfl)
    cases error with
    | durabilityUncertain path reason => exact absurd ⟨reason, rfl⟩ (determinate path)
    | _ => rfl
  have step : (writeBundleAtomic os path label bytes).outcome desk =
      (((writeFile os path bytes).outcome desk.world).1.mapError fun error =>
          s!"publish {path.display}: {error.display}",
        ⟨((writeFile os path bytes).outcome desk.world).2, desk.published ++
          if WasReplaced ((writeFile os path bytes).outcome desk.world).1 then
            [⟨label, bytes, desk.world.disk⟩] else []⟩) := rfl
  unfold Ensures
  rw [step]
  rcases ran : (writeFile os path bytes).outcome desk.world with ⟨error | _, world⟩
  · exact run.of_error ran
  · exact run.of_ok ran

section Signing

variable [Sha2] [Ciborium] [Sha1] [Pki] [X509Ocsp] [SourceFiles]

/-- What a successful signing has read, and what it made of it. -/
structure ScopeSigning (env : SigningEnvironment) (config : SignerConfig) (ca : SignerCa)
    (world : World) (signed : SignedScope) where
  source : RevocationSource
  identity : CaIdentity
  snapshot : StatusSnapshot
  store : StateStore
  generation : GenerationConfig
  signer : Signer
  sealFn : Bytes → Except SignError Bytes
  responderCertDer : Option Bytes
  resolved : resolveSource env world.disk ca = .ok source
  identified : caIdentity env.os world.disk ca = .ok identity
  taken : source.snapshot world.calls identity = .ok snapshot
  opened : StateStore.openExisting env.os world.disk
    (config.storage.stateDb.child "state.json") = .ok store
  epoch : signed.epoch = saturatingAddU64 ((store.getHighWater combinedProducerId
    (Bytes.encodeHex (Sha2.sha256 identity.issuerKeyBytes).val)).getD 0) 1
  configured : generationConfig ca (source.isAuthoritativeComplete world.calls) signed.epoch =
    .ok generation
  sealing : (env.material world.calls ca).sealing = .ok sealFn
  produced : (Production.single signer responderCertDer).produce identity snapshot generation
    sealFn (env.clock world) = .ok signed.bytes
  label : signed.label = ca.label

theorem scopeSigning_of_signCaScope {env : SigningEnvironment} {config : SignerConfig}
    {ca : SignerCa} {source : RevocationSource} {world : World} {signed : SignedScope}
    (resolved : resolveSource env world.disk ca = .ok source)
    (ran : signCaScope env config ca source world = .ok signed) :
    Nonempty (ScopeSigning env config ca world signed) := by
  obtain ⟨identity, identified, ran⟩ := Except.bind_eq_ok.mp ran
  obtain ⟨snapshot, taken, ran⟩ := Except.bind_eq_ok.mp ran
  obtain ⟨epoch, next, ran⟩ := Except.bind_eq_ok.mp ran
  obtain ⟨store, opened, next⟩ := Except.bind_eq_ok.mp next
  obtain ⟨generation, configured, ran⟩ := Except.bind_eq_ok.mp ran
  obtain ⟨_, _, ran⟩ := Except.bind_eq_ok.mp ran
  obtain ⟨responderCertDer, _, ran⟩ := Except.bind_eq_ok.mp ran
  obtain ⟨sealFn, sealing, ran⟩ := Except.bind_eq_ok.mp ran
  obtain ⟨signer, _, ran⟩ := Except.bind_eq_ok.mp ran
  obtain ⟨bytes, produced, same⟩ := Except.bind_eq_ok.mp ran
  cases same
  rw [Except.mapError_eq_ok] at taken opened produced
  exact ⟨{
    source := source
    identity := identity
    snapshot := snapshot
    store := store
    generation := generation
    signer := signer
    sealFn := sealFn
    responderCertDer := responderCertDer
    resolved := resolved
    identified := identified
    taken := taken
    opened := opened
    epoch := (Except.ok.inj next).symm
    configured := configured
    sealing := sealing
    produced := produced
    label := rfl }⟩

def publicationOf (ca : SignerCa) (world : World) (signed : SignedScope) : Publication :=
  { label := ca.label
    bytes := signed.bytes
    disk := world.disk }

omit [Sha2] [Ciborium] [Sha1] [Pki] [X509Ocsp] [SourceFiles] in
theorem Desk.adds_signed (desk : Desk) : desk.Adds desk.signed [] :=
  ⟨.of_disk rfl, (List.append_nil _).symm⟩

/-- A scope is signed and its bundle put in place.  After an error nothing has
been put in place, or the bundle whose durability is uncertain. -/
theorem ensures_signAndWriteScope {env : SigningEnvironment} {config : SignerConfig}
    {ca : SignerCa} {desk : Desk} {onOk : SignedScope → Desk → Prop}
    {onError : String → Desk → Prop}
    (written : ∀ signed after, Nonempty (ScopeSigning env config ca desk.world signed) →
      desk.Adds after [publicationOf ca desk.world signed] → onOk signed after)
    (idle : ∀ error after, desk.Adds after [] → onError error after)
    (uncertain : ∀ error signed after, Nonempty (ScopeSigning env config ca desk.world signed) →
      desk.Adds after [publicationOf ca desk.world signed] → onError error after) :
    Ensures (signAndWriteScope env config ca) desk onOk onError := by
  unfold signAndWriteScope
  simp only [ensures_bind, ensures_get, ensures_liftM, ensures_modify, ensures_pure]
  refine ⟨?_, fun error _ => idle error _ (.refl desk)⟩
  intro source resolved
  refine ⟨?_, fun error _ => idle error _ (.refl desk)⟩
  intro signed ran
  obtain ⟨signing⟩ := scopeSigning_of_signCaScope resolved ran
  unfold writeBundle
  simp only [ensures_bind, ensures_get, ensures_liftM, ensures_pure]
  refine ⟨?_, fun error _ => idle error _ desk.adds_signed⟩
  intro path _
  have own : (⟨signed.label, signed.bytes, desk.signed.world.disk⟩ : Publication) =
      publicationOf ca desk.world signed := by
    rw [signing.label]
    rfl
  refine ensures_writeBundleAtomic ?_ ?_
  · intro after adds
    rw [own] at adds
    exact written signed after ⟨signing⟩ (desk.adds_signed.trans adds)
  · intro error after fresh adds which
    rcases which with rfl | rfl
    · exact idle error after (desk.adds_signed.trans adds)
    · rw [own] at adds
      exact uncertain error signed after ⟨signing⟩ (desk.adds_signed.trans adds)

/-! ### Whole passes -/

/-- The publication of a scope, signed when no descriptor had been written since. -/
def SignedUnder (env : SigningEnvironment) (config : SignerConfig) (start : World)
    (ca : SignerCa) (publication : Publication) : Prop :=
  ∃ world signed, start.NoNewDescriptor world ∧ publication = publicationOf ca world signed ∧
    Nonempty (ScopeSigning env config ca world signed)

theorem SignedUnder.since {env : SigningEnvironment} {config : SignerConfig}
    {start between : World} {ca : SignerCa} {publication : Publication}
    (under : SignedUnder env config between ca publication)
    (earlier : start.NoNewDescriptor between) : SignedUnder env config start ca publication := by
  obtain ⟨world, signed, later, own, signing⟩ := under
  exact ⟨world, signed, earlier.trans later, own, signing⟩

/-- A pass signs its sections in order and stops at the first error.  The section
that failed may have been put in place, too. -/
theorem ensures_mapM_signAndWriteScope {env : SigningEnvironment} {config : SignerConfig}
    (sections : List SignerCa) {desk : Desk} :
    Ensures (sections.mapM (signAndWriteScope env config)) desk
      (fun _ after => ∃ fresh, desk.Adds after fresh ∧
        List.Forall₂ (SignedUnder env config desk.world) sections fresh)
      (fun _ after => ∃ front fresh, front <+: sections ∧ desk.Adds after fresh ∧
        List.Forall₂ (SignedUnder env config desk.world) front fresh) := by
  induction sections generalizing desk with
  | nil =>
      exact ⟨[], .refl desk, .nil⟩
  | cons ca rest ih =>
      have here : ∀ signed, Nonempty (ScopeSigning env config ca desk.world signed) →
          SignedUnder env config desk.world ca (publicationOf ca desk.world signed) :=
        fun signed signing => ⟨desk.world, signed, .of_disk rfl, rfl, signing⟩
      rw [List.mapM_cons]
      simp only [ensures_bind, ensures_pure]
      refine ensures_signAndWriteScope ?_ ?_ ?_
      · intro signed between signing adds
        have since : ∀ {sections fresh},
            List.Forall₂ (SignedUnder env config between.world) sections fresh →
              List.Forall₂ (SignedUnder env config desk.world) sections fresh :=
          fun each => each.imp fun _ _ under => under.since adds.descriptors
        refine (@ih between).mono ?_ ?_
        · rintro _ after ⟨fresh, more, each⟩
          exact ⟨_, adds.trans more, .cons (here signed signing) (since each)⟩
        · rintro _ after ⟨front, fresh, initial, more, each⟩
          exact ⟨ca :: front, _, List.cons_prefix_cons.mpr ⟨rfl, initial⟩, adds.trans more,
            .cons (here signed signing) (since each)⟩
      · intro error after adds
        exact ⟨[], [], List.nil_prefix, adds, .nil⟩
      · intro error signed after signing adds
        exact ⟨[ca], _, List.cons_prefix_cons.mpr ⟨rfl, List.nil_prefix⟩, adds,
          .cons (here signed signing) .nil⟩

/-! ### The bundle of a signing -/

def HashedBy (key : Bytes) (scope : CaScope) : Prop :=
  (scope.hashAlgorithm = sha256OidBytes ∧ scope.issuerKeyHash = (Sha2.sha256 key).val) ∨
    (scope.hashAlgorithm = sha1OidBytes ∧ scope.issuerKeyHash = (Sha1.sha1 key).val)

/-- The scopes of one issuer key at one epoch, with no predecessor named. -/
structure SignedBundle (key : Bytes) (epoch : UInt64) (bundle : Bundle) : Prop where
  producer : bundle.manifest.producerId = combinedProducerId
  epochs : ∀ scope ∈ bundle.manifest.caScopes, scope.epoch = epoch
  hashes : ∀ scope ∈ bundle.manifest.caScopes, HashedBy key scope
  own : ∃ scope ∈ bundle.manifest.caScopes, scope.hashAlgorithm = sha256OidBytes
  unlinked : bundle.manifest.continuity.prevManifestDigest = none

omit [Ciborium] [Pki] [X509Ocsp] [SourceFiles] in
theorem mem_generatedScopes {config : GenerationConfig} {ca : CaIdentity}
    {responders : List (Bytes × Option Bytes)} {scope : CaScope}
    (member : scope ∈ generatedScopes config ca.hashes responders) :
    scope.epoch = config.epoch ∧ HashedBy ca.issuerKeyBytes scope := by
  unfold generatedScopes at member
  rcases List.mem_append.mp member with first | second
  · obtain ⟨_, _, rfl⟩ := List.mem_map.mp first
    exact ⟨rfl, Or.inl ⟨rfl, rfl⟩⟩
  · cases compat : config.certidCompat with
    | sha256Only =>
        rw [compat] at second
        cases second
    | sha1Only =>
        rw [compat] at second
        obtain ⟨_, _, rfl⟩ := List.mem_map.mp second
        exact ⟨rfl, Or.inr ⟨rfl, rfl⟩⟩
    | dual =>
        rw [compat] at second
        obtain ⟨_, _, rfl⟩ := List.mem_map.mp second
        exact ⟨rfl, Or.inr ⟨rfl, rfl⟩⟩

omit [Sha2] [Ciborium] [Sha1] [Pki] [X509Ocsp] [SourceFiles] in
theorem generationConfig_eq_ok {ca : SignerCa} {complete : Bool} {epoch : UInt64}
    {generation : GenerationConfig} (made : generationConfig ca complete epoch = .ok generation) :
    generation.producerId = combinedProducerId ∧ generation.epoch = epoch ∧
      generation.archiveCutoffSecs = ca.archiveCutoffSecs := by
  obtain ⟨_, _, made⟩ := Except.bind_eq_ok.mp made
  obtain ⟨_, _, same⟩ := Except.bind_eq_ok.mp made
  cases same
  exact ⟨rfl, rfl, rfl⟩

def PlainManifestsReadBack : Prop :=
  ∀ manifest : Manifest, manifest.extensions = none → manifest.toCbor.length < 2 ^ 32 →
    manifest.ReadsBack

def ScopeSigning.Fits {env : SigningEnvironment} {config : SignerConfig} {ca : SignerCa}
    {world : World} {signed : SignedScope} (signing : ScopeSigning env config ca world signed) :
    Prop :=
  ∀ builder, (Production.single signing.signer signing.responderCertDer).fill signing.identity
      signing.snapshot signing.generation (env.clock world) = .ok builder →
    SealFits (boxedSeal signing.sealFn) builder.finalManifest.toCbor

theorem ScopeSigning.signedBundle {env : SigningEnvironment} {config : SignerConfig}
    {ca : SignerCa} {world : World} {signed : SignedScope}
    (signing : ScopeSigning env config ca world signed) (manifests : PlainManifestsReadBack)
    (fits : signing.Fits) :
    ∃ bundle, Bundle.fromBytes signed.bytes = .ok bundle ∧
      SignedBundle signing.identity.issuerKeyBytes signed.epoch bundle := by
  obtain ⟨builder, filled, built⟩ := Production.produce_eq_ok.mp signing.produced
  obtain ⟨filling⟩ := Production.filling filled
  obtain ⟨producer, epoch, _⟩ := generationConfig_eq_ok signing.configured
  have sealFits := fits builder filled
  have plain : builder.finalManifest.extensions = none :=
    congrArg Manifest.extensions filling.manifest
  have reads := manifests builder.finalManifest plain sealFits.manifestFits
  obtain ⟨header, kept, _, _, parses⟩ := Ahu.BundleBuilder.fromBytes_build sealFits reads built
  refine ⟨_, parses, ?_⟩
  have scopes : builder.manifest.caScopes = generatedScopes signing.generation
      signing.identity.hashes filling.responders := congrArg Manifest.caScopes filling.manifest
  constructor
  · have stated := congrArg Manifest.producerId filling.manifest
    exact stated.trans producer
  · intro scope member
    change scope ∈ builder.manifest.caScopes at member
    rw [scopes] at member
    exact (mem_generatedScopes member).1.trans epoch
  · intro scope member
    change scope ∈ builder.manifest.caScopes at member
    rw [scopes] at member
    exact (mem_generatedScopes member).2
  · obtain ⟨responder, among⟩ := List.exists_mem_of_ne_nil _ filling.responded
    have member : generatedScope signing.generation sha256OidBytes
        signing.identity.hashes.nameSha256 signing.identity.hashes.keySha256 responder ∈
          builder.manifest.caScopes := by
      rw [scopes]
      exact List.mem_append_left _ (List.mem_map_of_mem among)
    exact ⟨_, member, rfl⟩
  · exact congrArg (fun manifest => manifest.continuity.prevManifestDigest) filling.manifest

end Signing

end Hoike
