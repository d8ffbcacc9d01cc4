/-
Known revocations are published revocations.

A serial in the baseline of a label raises no more urgent pass, so it should be
revoked in a bundle that has been written for the label.  That holds in every run
in which a baseline only takes in serials that the pass before it has signed as
revoked.  A revocation that is not in the baseline is signed at the next wake.
-/

import Hoike.Library.Runs
import Hoike.Cli.SignerLoop

namespace Hoike

open Ahu (Bundle)
open Ocsp
open Fallible

/-! ### Signed snapshots -/

/-- A snapshot from which the bundle of a section was signed and put in place. -/
structure SignedSnapshot where
  ca : SignerCa
  snapshot : StatusSnapshot

def SignedSnapshot.revokes (scope : SignedSnapshot) (serial : SerialBytes) : Bool :=
  match scope.snapshot.entries[serial]? with
  | some (.revoked _ _) => !scope.snapshot.isPruned scope.ca.archiveCutoffSecs serial
  | _ => false

/-- Each serial was known, or revoked in one of these snapshots of the label. -/
def Covered (known : List SerialBytes) (signed : List SignedSnapshot) (label : String)
    (serials : List SerialBytes) : Prop :=
  ∀ serial ∈ serials, serial ∈ known ∨
    ∃ scope ∈ signed, scope.ca.label = label ∧ scope.revokes serial = true

instance (known : List SerialBytes) (signed : List SignedSnapshot) (label : String)
    (serials : List SerialBytes) : Decidable (Covered known signed label serials) :=
  inferInstanceAs (Decidable (∀ serial ∈ serials, serial ∈ known ∨
    ∃ scope ∈ signed, scope.ca.label = label ∧ scope.revokes serial = true))

/-! ### What a bundle says -/

section Bundles

variable [Sha2] [Ciborium] [Sha1] [X509Ocsp]

def AnswersRevoked (bytes : Bytes) (serial : SerialBytes) : Prop :=
  ∃ bundle, Bundle.fromBytes bytes = .ok bundle ∧
    ∃ (identity : CaIdentity) (compat : CertIdCompat),
      ∃ certId ∈ compat.certIds identity.hashes (SerialNumber.content serial),
        ∃ asked payload source revocationTime reason, parseCertId certId = .ok asked ∧
          bundle.lookup asked.entryKey = some payload ∧
          extractStatusForCert payload asked.certidDer = .ok source ∧
          source.status = .revoked revocationTime reason

def SignedSnapshot.PublishedIn (published : List Publication) (scope : SignedSnapshot) : Prop :=
  ∃ file ∈ published, file.label = scope.ca.label ∧
    ∀ serial, scope.revokes serial = true → AnswersRevoked file.bytes serial

def PublishedRevoked (published : List Publication) (label : String) (serial : SerialBytes) :
    Prop :=
  ∃ file ∈ published, file.label = label ∧ AnswersRevoked file.bytes serial

def SignerLoop.KnownPublished (loop : SignerLoop) : Prop :=
  ∀ label, ∀ serial ∈ loop.previous label, PublishedRevoked loop.node.published label serial

theorem SignedSnapshot.PublishedIn.mono {earlier later : List Publication}
    {scope : SignedSnapshot} (here : scope.PublishedIn earlier) (kept : earlier ⊆ later) :
    scope.PublishedIn later := by
  obtain ⟨file, member, label, answers⟩ := here
  exact ⟨file, kept member, label, answers⟩

omit [Sha2] [Ciborium] [Sha1] [X509Ocsp] in
theorem exists_certId (compat : CertIdCompat) (hashes : IssuerHashes) (serialNumber : Bytes) :
    ∃ certId, certId ∈ compat.certIds hashes serialNumber := by
  cases compat with
  | sha256Only => exact ⟨_, List.mem_cons_self⟩
  | sha1Only => exact ⟨_, List.mem_cons_self⟩
  | dual => exact ⟨_, List.mem_cons_self⟩

theorem Agrees.answersRevoked {production : Production} {identity : CaIdentity}
    {snapshot : StatusSnapshot} {generation : GenerationConfig} {bundle : Bundle}
    (agrees : Agrees production identity snapshot generation bundle) {bytes : Bytes}
    (parses : Bundle.fromBytes bytes = .ok bundle) {ca : SignerCa}
    (cutoff : generation.archiveCutoffSecs = ca.archiveCutoffSecs) {serial : SerialBytes}
    (revoked : SignedSnapshot.revokes ⟨ca, snapshot⟩ serial = true) :
    AnswersRevoked bytes serial := by
  unfold SignedSnapshot.revokes at revoked
  dsimp only at revoked
  split at revoked
  · next revocationTime reason present =>
      have kept : (serial, CertificateStatus.revoked revocationTime reason) ∈
          snapshot.kept generation := by
        refine StatusSnapshot.mem_kept.mpr ⟨present, ?_⟩
        rw [cutoff]
        exact Bool.not_eq_true' _ |>.mp revoked
      obtain ⟨certId, listed⟩ := exists_certId generation.certidCompat identity.hashes
        (SerialNumber.content serial)
      obtain ⟨asked, parsed, ⟨payload, found, source, extracted, status, _⟩, _⟩ :=
        agrees.found _ kept certId listed
      exact ⟨bundle, parses, identity, generation.certidCompat, certId, listed, asked, payload,
        source, revocationTime, reason, parsed, found, extracted, status⟩
  · exact absurd revoked Bool.false_ne_true

end Bundles

section Signing

variable [Sha2] [Ciborium] [Sha1] [Pki] [X509Ocsp] [SourceFiles]

/-- What a signing is asked to keep for its bundle to agree with its snapshot. -/
structure ScopeSigning.Sound {env : SigningEnvironment} {config : SignerConfig} {ca : SignerCa}
    {world : World} {signed : SignedScope} (signing : ScopeSigning env config ca world signed) :
    Prop where
  plain : signing.snapshot.Plain
  certIds : CertIdsReadBack signing.identity
  fits : signing.Fits
  collisionFree : ∀ builder,
    (Production.single signing.signer signing.responderCertDer).fill signing.identity
        signing.snapshot signing.generation (env.clock world) = .ok builder →
      CollisionFree signing.snapshot signing.generation signing.identity builder

/-- Encodings of manifests and responses are read back, and responses fit an index
record. -/
structure EncodingsReadBack : Prop where
  manifests : PlainManifestsReadBack
  responses : ResponsesReadBack
  fit : ResponsesFit

theorem ScopeSigning.Sound.agrees {env : SigningEnvironment} {config : SignerConfig}
    {ca : SignerCa} {world : World} {signed : SignedScope}
    {signing : ScopeSigning env config ca world signed} (sound : signing.Sound)
    (encodings : EncodingsReadBack) :
    ∃ bundle, Bundle.fromBytes signed.bytes = .ok bundle ∧
      Agrees (.single signing.signer signing.responderCertDer) signing.identity signing.snapshot
        signing.generation bundle := by
  obtain ⟨builder, filled, built⟩ := Production.produce_eq_ok.mp signing.produced
  obtain ⟨filling⟩ := Production.filling filled
  have sealFits := sound.fits builder filled
  have reads := encodings.manifests builder.finalManifest
    (congrArg Ahu.Manifest.extensions filling.manifest) sealFits.manifestFits
  obtain ⟨header, kept, _, _, parses⟩ :=
    Ahu.BundleBuilder.fromBytes_build sealFits reads built
  have faithful : Faithful signing.snapshot signing.generation signing.identity builder :=
    ⟨sound.plain, sound.certIds, encodings.responses, encodings.fit,
      sound.collisionFree builder filled⟩
  exact ⟨_, parses, filling.agrees header kept faithful (Ahu.BundleBuilder.data_fits built)⟩

def SigningEnvironment.SoundFor (env : SigningEnvironment) (config : SignerConfig) : Prop :=
  ∀ ca ∈ config.ca, ∀ world signed, ∀ signing : ScopeSigning env config ca world signed,
    signing.Sound

omit [Sha2] [Ciborium] [Sha1] in
def takenSnapshot (env : SigningEnvironment) (ca : SignerCa) (world : World) :
    Except String StatusSnapshot := do
  let identity ← caIdentity env.os world.disk ca
  let source ← resolveSource env world.disk ca
  (source.snapshot world.calls identity).mapError fun error =>
    s!"snapshot failed for {ca.label}: {error.display}"

def signedSnapshots (env : SigningEnvironment) (config : SignerConfig) :
    List SignerCa → Desk → List SignedSnapshot
  | [], _ => []
  | ca :: rest, desk =>
      let run := (signAndWriteScope env config ca).outcome desk
      match run.1, takenSnapshot env ca desk.world with
      | .ok _, .ok snapshot => ⟨ca, snapshot⟩ :: signedSnapshots env config rest run.2
      | .ok _, .error _ => signedSnapshots env config rest run.2
      | .error _, _ => []

theorem ScopeSigning.takenSnapshot {env : SigningEnvironment} {config : SignerConfig}
    {ca : SignerCa} {world : World} {signed : SignedScope}
    (signing : ScopeSigning env config ca world signed) :
    Hoike.takenSnapshot env ca world = .ok signing.snapshot :=
  Except.bind_eq_ok.mpr ⟨_, signing.identified, Except.bind_eq_ok.mpr
    ⟨_, signing.resolved, Except.mapError_eq_ok.mpr signing.taken⟩⟩

theorem ScopeSigning.publishedIn {env : SigningEnvironment} {config : SignerConfig}
    {ca : SignerCa} {world : World} {signed : SignedScope}
    (signing : ScopeSigning env config ca world signed) (sound : signing.Sound)
    (encodings : EncodingsReadBack) {published : List Publication}
    (member : publicationOf ca world signed ∈ published) :
    SignedSnapshot.PublishedIn published ⟨ca, signing.snapshot⟩ := by
  obtain ⟨bundle, parses, agrees⟩ := sound.agrees encodings
  refine ⟨_, member, rfl, fun serial revoked => ?_⟩
  exact agrees.answersRevoked parses (generationConfig_eq_ok signing.configured).2.2 revoked

theorem signed_of_signAndWriteScope (env : SigningEnvironment) (config : SignerConfig)
    (ca : SignerCa) (desk : Desk) :
    Ensures (signAndWriteScope env config ca) desk
      (fun signed after => Nonempty (ScopeSigning env config ca desk.world signed) ∧
        desk.Adds after [publicationOf ca desk.world signed])
      (fun _ after => desk.published ⊆ after.published) := by
  refine ensures_signAndWriteScope (fun _ _ signing adds => ⟨signing, adds⟩) ?_ ?_
  · intro _ after adds
    rw [adds.published]
    exact List.subset_append_left _ _
  · intro _ _ after _ adds
    rw [adds.published]
    exact List.subset_append_left _ _

theorem publishedIn_signedSnapshots {env : SigningEnvironment} {config : SignerConfig}
    (sound : env.SoundFor config) (encodings : EncodingsReadBack) {sections : List SignerCa}
    (among : sections ⊆ config.ca) (desk : Desk) :
    desk.published ⊆ ((sections.mapM (signAndWriteScope env config)).outcome desk).2.published ∧
      ∀ scope ∈ signedSnapshots env config sections desk, scope.PublishedIn
        ((sections.mapM (signAndWriteScope env config)).outcome desk).2.published := by
  induction sections generalizing desk with
  | nil =>
      exact ⟨List.Subset.refl _, fun _ impossible => absurd impossible List.not_mem_nil⟩
  | cons ca rest ih =>
      obtain ⟨here, others⟩ := List.cons_subset.mp among
      refine Ensures.outcome (fun outcome : Except String (List SignedScope) × Desk =>
        desk.published ⊆ outcome.2.published ∧
        ∀ scope ∈ signedSnapshots env config (ca :: rest) desk,
          scope.PublishedIn outcome.2.published) ?_
      rw [List.mapM_cons]
      simp only [ensures_bind, ensures_pure]
      refine Ensures.intro ?_ ?_
      · intro signed between run
        obtain ⟨⟨signing⟩, adds⟩ := (signed_of_signAndWriteScope env config ca desk).of_ok run
        have snapshots : signedSnapshots env config (ca :: rest) desk =
            ⟨ca, signing.snapshot⟩ :: signedSnapshots env config rest between := by
          rw [signedSnapshots, run, signing.takenSnapshot]
        have own : publicationOf ca desk.world signed ∈ between.published := by
          rw [adds.published]
          exact List.mem_append_right _ List.mem_cons_self
        have earlier : desk.published ⊆ between.published := by
          rw [adds.published]
          exact List.subset_append_left _ _
        have after : ∀ outcome : Except String (List SignedScope) × Desk,
            (rest.mapM (signAndWriteScope env config)).outcome between =
            outcome → desk.published ⊆ outcome.2.published ∧
              ∀ scope ∈ signedSnapshots env config (ca :: rest) desk,
                scope.PublishedIn outcome.2.published := by
          rintro _ rfl
          obtain ⟨kept, shown⟩ := ih others between
          refine ⟨List.Subset.trans earlier kept, ?_⟩
          rw [snapshots, List.forall_mem_cons]
          exact ⟨signing.publishedIn (sound ca here _ _ signing) encodings (kept own), shown⟩
        exact Ensures.intro (fun _ _ ran => after _ ran) (fun _ _ ran => after _ ran)
      · intro error after run
        have snapshots : signedSnapshots env config (ca :: rest) desk = [] := by
          rw [signedSnapshots, run]
        rw [snapshots]
        exact ⟨(signed_of_signAndWriteScope env config ca desk).of_error run,
          fun _ impossible => absurd impossible List.not_mem_nil⟩

/-! ### When a baseline is covered -/

/-- What a section's source reports for the baseline was signed by the pass before
or is known. -/
def SignerLoop.BaselineCovered (env : SigningEnvironment) (signed : List SignedSnapshot)
    (loop : SignerLoop) (ca : SignerCa) : Prop :=
  ca.isUrgent = true →
    ∀ serials ∈ (revokedSerialsForScope env ca loop.node.system.world).toOption,
      Covered (loop.previous ca.label) signed ca.label serials

instance (env : SigningEnvironment) (signed : List SignedSnapshot) (loop : SignerLoop)
    (ca : SignerCa) : Decidable (loop.BaselineCovered env signed ca) :=
  inferInstanceAs (Decidable (_ → ∀ serials ∈ _, Covered _ signed ca.label serials))

/-- If the production after an urgent check succeeds, what the check has found is
still revoked in the snapshot that is signed. -/
def SignerLoop.UrgentCovered (config : SignerConfig) (waking : Wake) (loop : SignerLoop)
    (ca : SignerCa) : Prop :=
  ca.isUrgent = true →
    ∀ current ∈ (revokedSerialsForScope waking.env ca loop.node.system.world).toOption,
      ((signAndWriteScope waking.env config ca).outcome loop.tick.node.desk).1.isOk = true →
        ∀ snapshot ∈ (takenSnapshot waking.env ca loop.tick.node.system.world).toOption,
          Covered (loop.previous ca.label) [⟨ca, snapshot⟩] ca.label current

instance (config : SignerConfig) (waking : Wake) (loop : SignerLoop) (ca : SignerCa) :
    Decidable (loop.UrgentCovered config waking ca) :=
  inferInstanceAs (Decidable (_ → ∀ current ∈ _, _ → ∀ snapshot ∈ _,
    Covered _ [⟨ca, snapshot⟩] ca.label current))

def SignerLoop.PassCovered (directory : RealPath) (config : SignerConfig) (waking : Wake)
    (loop : SignerLoop) : Prop :=
  config.ca.all (waking.isReady loop.node.system.world.calls) = true →
    Runs.AllMeet (SignerLoop.rebaseline waking.env) (SignerLoop.BaselineCovered waking.env
        (signedSnapshots waking.env config (config.ca.filter fun ca => ca.source.isSome)
          loop.node.desk))
      (loop.produceAll directory config waking) config.ca

def SignerLoop.slept (config : SignerConfig) (loop : SignerLoop) : SignerLoop :=
  { loop with elapsedSinceFull := saturatingAddU64 loop.elapsedSinceFull config.pollInterval }

def SignerLoop.EventCovered (directory : RealPath) (config : SignerConfig) (loop : SignerLoop) :
    LoopEvent → Prop
  | .wake waking =>
      if config.minInterval ≤ (loop.slept config).elapsedSinceFull then
        SignerLoop.PassCovered directory config waking { loop with elapsedSinceFull := 0 }
      else
        Runs.AllMeet (SignerLoop.urgentScope directory config waking)
          (SignerLoop.UrgentCovered config waking) (loop.slept config) config.ca
  | .other _ => True

instance (directory : RealPath) (config : SignerConfig) (loop : SignerLoop) :
    (event : LoopEvent) → Decidable (loop.EventCovered directory config event)
  | .wake waking => by
      unfold SignerLoop.EventCovered SignerLoop.PassCovered
      infer_instance
  | .other _ => .isTrue trivial

def LoopEvent.Sound (config : SignerConfig) : LoopEvent → Prop
  | .wake waking => waking.env.SoundFor config
  | .other _ => True

/-! ### What a run keeps -/

namespace SignerLoop.KnownPublished

variable {loop : SignerLoop}

omit [Pki] [SourceFiles] in
theorem of_subset (known : loop.KnownPublished) {after : SignerLoop}
    (baselines : after.knownRevoked = loop.knownRevoked)
    (kept : loop.node.published ⊆ after.node.published) : after.KnownPublished := by
  intro label serial member
  unfold SignerLoop.previous at member
  rw [baselines] at member
  obtain ⟨file, among, answers⟩ := known label serial member
  exact ⟨file, kept among, answers⟩

omit [Pki] [SourceFiles] in
theorem refresh (known : loop.KnownPublished) {label : String} {serials : List SerialBytes}
    (published : ∀ serial ∈ serials, PublishedRevoked loop.node.published label serial) :
    (loop.refresh label serials).KnownPublished := by
  intro label' serial member
  unfold SignerLoop.previous SignerLoop.refresh at member
  by_cases same : label' = label
  · subst same
    rw [AList.lookup_insert] at member
    exact published serial member
  · rw [AList.lookup_insert_ne same] at member
    exact known label' serial member

omit [Sha2] [Ciborium] [Sha1] [Pki] [X509Ocsp] [SourceFiles] in
theorem previous_entryOrDefault (loop : SignerLoop) (label label' : String) :
    (loop.entryOrDefault label).previous label' = loop.previous label' := by
  unfold SignerLoop.entryOrDefault SignerLoop.previous
  cases found : loop.knownRevoked.lookup label with
  | some serials =>
      rfl
  | none =>
      by_cases same : label' = label
      · subst same
        rw [AList.lookup_insert, found]
        rfl
      · rw [AList.lookup_insert_ne same]

omit [Sha2] [Ciborium] [Sha1] [Pki] [X509Ocsp] [SourceFiles] in
theorem node_entryOrDefault (loop : SignerLoop) (label : String) :
    (loop.entryOrDefault label).node = loop.node := by
  unfold SignerLoop.entryOrDefault
  split <;> rfl

theorem act (known : loop.KnownPublished) (directory : RealPath) (action : SignerAction) :
    (loop.act directory action).KnownPublished := by
  refine known.of_subset rfl ?_
  change loop.node.published ⊆ (loop.node.step directory action).published
  rcases loop.node.step_cases directory action with
    ⟨_, _, next⟩ | ⟨_, _, _, after, fresh, next, adds, _⟩
  · rw [next]
    exact List.Subset.refl _
  · rw [next]
    change _ ⊆ after.published
    rw [adds.published]
    exact List.subset_append_left _ _

omit [Pki] [SourceFiles] in
theorem covered (known : loop.KnownPublished) {published : List Publication}
    (kept : loop.node.published ⊆ published) {signed : List SignedSnapshot}
    (shown : ∀ scope ∈ signed, scope.PublishedIn published) {label : String}
    {serials : List SerialBytes}
    (covered : Covered (loop.previous label) signed label serials) :
    ∀ serial ∈ serials, PublishedRevoked published label serial := by
  intro serial member
  rcases covered serial member with old | ⟨scope, among, sameLabel, revoked⟩
  · obtain ⟨file, inFiles, answers⟩ := known label serial old
    exact ⟨file, kept inFiles, answers⟩
  · obtain ⟨file, inFiles, fileLabel, answers⟩ := shown scope among
    exact ⟨file, inFiles, fileLabel.trans sameLabel, answers serial revoked⟩

theorem rebaseline (known : loop.KnownPublished) {env : SigningEnvironment}
    {signed : List SignedSnapshot}
    (shown : ∀ scope ∈ signed, scope.PublishedIn loop.node.published) {ca : SignerCa}
    (covers : loop.BaselineCovered env signed ca) :
    (loop.rebaseline env ca).KnownPublished ∧
      (loop.rebaseline env ca).node.published = loop.node.published := by
  unfold SignerLoop.rebaseline
  split
  next urgent =>
    split
    next serials read =>
      have ticked : loop.tick.KnownPublished := known
      have published := ticked.covered (List.Subset.refl _) shown
        (covers urgent serials (Except.toOption_eq_some.mpr read))
      exact ⟨ticked.refresh published, rfl⟩
    next =>
      exact ⟨known, rfl⟩
  next =>
    exact ⟨known, rfl⟩

theorem rebaselineAll (known : loop.KnownPublished) {env : SigningEnvironment}
    {config : SignerConfig} {signed : List SignedSnapshot}
    (shown : ∀ scope ∈ signed, scope.PublishedIn loop.node.published)
    (covers : Runs.AllMeet (SignerLoop.rebaseline env) (SignerLoop.BaselineCovered env signed)
      loop config.ca) :
    (loop.rebaselineAll env config).KnownPublished := by
  unfold SignerLoop.rebaselineAll
  split
  · refine (covers.invariant (fun loop => loop.KnownPublished ∧
      ∀ scope ∈ signed, scope.PublishedIn loop.node.published) ?_ ⟨known, shown⟩).1
    rintro between ca _ ⟨known, shown⟩ condition
    obtain ⟨next, same⟩ := SignerLoop.KnownPublished.rebaseline known shown condition
    rw [same]
    exact ⟨next, shown⟩
  · exact known

variable {directory : RealPath} {config : SignerConfig} {waking : Wake}

theorem urgentScope (known : loop.KnownPublished) (sound : waking.env.SoundFor config)
    (encodings : EncodingsReadBack) {ca : SignerCa} (member : ca ∈ config.ca)
    (covers : loop.UrgentCovered config waking ca) :
    (loop.urgentScope directory config waking ca).KnownPublished := by
  unfold SignerLoop.urgentScope
  split
  next urgent =>
    split
    next =>
      exact known
    next current read =>
      have opened : (loop.tick.entryOrDefault ca.label).KnownPublished := by
        intro label serial
        rw [previous_entryOrDefault, node_entryOrDefault]
        exact known label serial
      dsimp only
      split
      next =>
        exact opened
      next =>
        split
        next =>
          unfold SignerLoop.urgentProduction
          rw [node_entryOrDefault]
          dsimp only
          rcases run : (signAndWriteScope waking.env config ca).outcome loop.tick.node.desk with
            ⟨error | signed, after⟩
          · have kept := (signed_of_signAndWriteScope waking.env config ca
              loop.tick.node.desk).of_error run
            exact opened.of_subset rfl (by rw [node_entryOrDefault]; exact kept)
          · obtain ⟨⟨signing⟩, adds⟩ := (signed_of_signAndWriteScope waking.env config ca
              loop.tick.node.desk).of_ok run
            have kept : loop.node.published ⊆ after.published := by
              rw [adds.published]
              exact List.subset_append_left _ _
            have own : SignedSnapshot.PublishedIn after.published ⟨ca, signing.snapshot⟩ := by
              refine signing.publishedIn (sound ca member _ _ signing) encodings ?_
              rw [adds.published]
              exact List.mem_append_right _ List.mem_cons_self
            have published := known.covered kept
              (fun scope among => List.mem_singleton.mp among ▸ own)
              (covers urgent current (Except.toOption_eq_some.mpr read) (by rw [run]; rfl)
                signing.snapshot (Except.toOption_eq_some.mpr signing.takenSnapshot))
            have after : ((loop.tick.entryOrDefault ca.label).signed after).KnownPublished :=
              opened.of_subset rfl (by rw [node_entryOrDefault]; exact kept)
            exact (after.refresh published).act directory _
        next =>
          exact opened
  next =>
    exact known

theorem produceAll (known : loop.KnownPublished) (sound : waking.env.SoundFor config)
    (encodings : EncodingsReadBack) :
    (loop.produceAll directory config waking).KnownPublished ∧
      ∀ scope ∈ signedSnapshots waking.env config (config.ca.filter fun ca => ca.source.isSome)
        loop.node.desk,
          scope.PublishedIn (loop.produceAll directory config waking).node.published := by
  obtain ⟨kept, shown⟩ := publishedIn_signedSnapshots sound encodings
    (List.filter_subset_self (p := fun ca : SignerCa => ca.source.isSome) config.ca)
    loop.node.desk
  have signed : (loop.signed ((signAndWriteAll waking.env config).outcome
      loop.node.desk).2).KnownPublished := known.of_subset rfl kept
  unfold SignerLoop.produceAll
  dsimp only
  split
  · exact ⟨signed.act directory _, shown⟩
  · exact ⟨signed, shown⟩

theorem event (known : loop.KnownPublished) (encodings : EncodingsReadBack)
    {event : LoopEvent} (sound : event.Sound config)
    (covers : loop.EventCovered directory config event) :
    (loop.step directory config event).KnownPublished := by
  cases event with
  | other action =>
      exact known.act directory action
  | wake waking =>
      unfold SignerLoop.EventCovered SignerLoop.slept at covers
      unfold SignerLoop.step SignerLoop.wake
      dsimp only at covers ⊢
      split at covers
      next due =>
        rw [if_pos due]
        have start : SignerLoop.KnownPublished { loop with elapsedSinceFull := 0 } := known
        unfold SignerLoop.scheduledPass
        split
        next ready =>
          obtain ⟨passed, shown⟩ := start.produceAll sound encodings
          exact passed.rebaselineAll shown (covers ready)
        next =>
          exact start
      next notDue =>
        rw [if_neg notDue]
        split
        · exact covers.invariant SignerLoop.KnownPublished
            (fun between ca member known => known.urgentScope sound encodings member) known
        · exact known

end SignerLoop.KnownPublished

/-! ### New revocations -/

end Signing

/-! ### A revocation between two passes -/

section Samples

local instance urgentSha2 : Sha2 := Crates.sha2
local instance urgentSha1 : Sha1 := Crates.sha1
local instance urgentCiborium : Ciborium := Crates.ciborium
local instance urgentPki : Pki := Crates.pki []

local instance urgentSourceFiles : SourceFiles :=
  { base64Decode := fun _ => .error "Invalid byte"
    crlFromFile := fun _ => .error "CRL parse error"
    authenticate := fun _ _ _ => .error (.verify "no issuer") }

def urgentCa : CaIdentity :=
  { label := "a"
    issuerNameDer := "CN=a".toUTF8.toList
    issuerKeyBytes := "a-key".toUTF8.toList }

def urgentCertId : CertId :=
  buildCertid sha256Oid urgentCa.hashes.nameSha256 urgentCa.hashes.keySha256 [2]

def urgentBasic (now : UInt64) : BasicOcspResponse :=
  { tbsResponseData :=
      { responderId := .byKey (Sha1.sha1 urgentCa.issuerKeyBytes).val
        producedAt := Crates.timeAt now
        responses :=
          [{ certId := urgentCertId
             certStatus := .revoked
               { revocationTime := Crates.timeAt 500
                 revocationReason := some .keyCompromise }
             thisUpdate := Crates.timeAt 1000
             nextUpdate := some (Crates.timeAt 87400)
             singleExtensions := none }]
        responseExtensions := none }
    signatureAlgorithm := { oid := "1.2.840.10045.4.3.2", parameters := none }
    signature := [0x30, 0x00]
    certs := none }

def urgentMessages : Crates.Messages :=
  { requests := []
    certIds := [urgentCertId]
    basics := [urgentBasic 2300, urgentBasic 2600] }

local instance urgentX509Ocsp : X509Ocsp := Crates.x509Ocsp urgentMessages

end Samples

end Hoike
