/-
What an installation owes to the other labels.

The collector decides by the text of the recorded paths, while everything else
follows where they lead.  A snapshot that another label references survives an
installation exactly when it is also referenced in the spelling of the process
that installs.
-/

import Hoike.Core.Validation
import Hoike.Core.Durability

namespace Hoike

open Ahu
open Fallible

theorem Os.locate_of_fileName {os : Os} {path : PathBuf} {name : String}
    (named : path.fileName = some name) : os.locate path = os.realpath path.parent ++ [name] := by
  unfold PathBuf.fileName at named
  unfold Os.locate
  rw [(Option.filter_eq_some_iff.mp named).1]

theorem StateStore.generated_ne_statePath {os : Os} {config : Config} {directory : RealPath}
    {name : String} (generated : StateStore.isGenerated name = true) :
    directory ++ [name] ≠ os.locate config.statePath := by
  rw [Config.statePath, Os.locate_child]
  intro same
  obtain rfl : name = "state.json" := by simpa using (List.append_inj' same rfl).2
  exact absurd generated (by decide)

section Frame

variable [Sha2]

theorem NamedByDigest.ne_statePath {os : Os} {config : Config} {path : PathBuf} {bytes : Bytes}
    (named : NamedByDigest path bytes) : os.locate path ≠ os.locate config.statePath := by
  obtain ⟨name, last, digest⟩ := named
  rw [Os.locate_of_fileName last, Config.statePath, Os.locate_child]
  intro same
  obtain rfl : name = "state.json" := by simpa using (List.append_inj' same rfl).2
  have undecodable : Bytes.decodeHex (fileStem "state.json") = .error .oddLength := by
    decide
  rw [undecodable] at digest
  cases digest

def HeldUnderDigest (os : Os) (disk : Disk) (path : PathBuf) : Prop :=
  ∃ bytes, disk.files (os.locate path) = some bytes ∧ NamedByDigest path bytes

/-- Every digest-named snapshot of another label is referenced in the spelling
of this configuration, by another label or by what is installed now. -/
def SpelledAlike (os : Os) (config : Config) (label : String) (bundle : Bundle)
    (state : PersistedState) : Prop :=
  ∀ other path, other ≠ label → state.activeBundles.lookup other = some path →
    ∀ name, os.locate path = os.realpath config.generations ++ [name] →
      StateStore.isGenerated name = true →
        (∃ other', other' ≠ label ∧
          state.activeBundles.lookup other' = some (config.generations.child name)) ∨
        ∃ bytes, bundle.toBytes = .ok bytes ∧ StateStore.snapshotName bytes = name

theorem spelledAlike_of_child {os : Os} {config : Config} {label : String} {bundle : Bundle}
    {state : PersistedState}
    (spelled : ∀ other path, state.activeBundles.lookup other = some path →
      ∃ name, path = config.generations.child name) :
    SpelledAlike os config label bundle state := by
  intro other path different referenced name place _
  obtain ⟨name', rfl⟩ := spelled other path referenced
  rw [Os.locate_child] at place
  obtain rfl : name' = name := by simpa using place
  exact Or.inl ⟨other, different, referenced⟩

/-- The published file is not the descriptor, no digest-named file of the store
and no recorded snapshot. -/
structure DestinationApart (os : Os) (config : Config) (state : PersistedState)
    (destination : PathBuf) : Prop where
  descriptor : os.locate destination ≠ os.locate config.statePath
  generated : ∀ name, StateStore.isGenerated name = true →
    os.locate destination ≠ os.realpath config.generations ++ [name]
  recorded : ∀ label path, state.activeBundles.lookup label = some path →
    os.locate destination ≠ os.locate path

variable [Ciborium]

/-- What an installation for a label leaves of everything else. -/
structure InstallFrame (os : Os) (config : Config) (label : String) (bundle : Bundle)
    (before after : PersistedState) (disk : Disk) : Prop where
  references : ∀ other, other ≠ label →
    after.activeBundles.lookup other = before.activeBundles.lookup other
  snapshots : ∀ other path, other ≠ label → before.activeBundles.lookup other = some path →
    HeldUnderDigest os disk path
  marks : ∀ id, (∀ epoch, ¬ Bundle.Claims bundle id epoch) →
    after.ledger id = before.ledger id
  collected : ∀ name, StateStore.isGenerated name = true →
    ((disk.files (os.realpath config.generations ++ [name])).isSome ↔
      ∃ other path, after.activeBundles.lookup other = some path ∧
        os.locate path = os.realpath config.generations ++ [name])
  reopens : ∀ (later : Os) (stateDb : PathBuf),
    later.realpath stateDb = os.realpath config.storage.stateDb →
      (∀ other path, after.activeBundles.lookup other = some path →
        later.locate path = os.locate path ∧ later.unreadable (os.locate path) = false) →
          ∃ store, StateStore.openExisting later disk (stateDb.child "state.json") = .ok store

variable [Pki]

section Installed

variable {os : Os} {config : Config} {label : String} {bytes : Bytes}
  {guard : StateDirectoryLock} {world middle after : World} {destination : PathBuf}
  {bundle : Bundle} {store : StateStore} {canonical : Bytes}

theorem Installing.snapshotPath
    (installing : Installing os config label bytes guard world destination bundle store
      canonical middle) :
    store.snapshotPath canonical =
      config.generations.child (StateStore.snapshotName canonical) := by
  unfold StateStore.snapshotPath
  rw [installing.generations]

omit [Ciborium] [Pki] in
theorem installCandidate_lookup_self :
    (installCandidate store label bundle canonical).state.activeBundles.lookup label =
      some (store.snapshotPath canonical) :=
  AList.lookup_insert _

omit [Ciborium] [Pki] in
theorem installCandidate_lookup_of_ne {other : String} (different : other ≠ label) :
    (installCandidate store label bundle canonical).state.activeBundles.lookup other =
      store.state.activeBundles.lookup other := by
  change AList.lookup other (AList.insert label _ (store.state.recordBundle bundle).activeBundles)
    = _
  rw [AList.lookup_insert_ne different, PersistedState.recordBundle_activeBundles]

omit [Ciborium] [Pki] in
theorem installCandidate_holds (checked : store.checkRollback bundle = .ok ()) :
    (installCandidate store label bundle canonical).state.Holds bundle :=
  PersistedState.holds_recordBundle checked

/-- Every file but the published one and the descriptor: collected, freshly
stored or as before. -/
theorem Installing.files
    (installing : Installing os config label bytes guard world destination bundle store
      canonical middle)
    (published : Published os destination bytes (StateStore.committed os store
      (installCandidate store label bundle canonical) middle) after)
    (listable : os.listable (os.realpath config.generations) = true) {place : RealPath}
    (elsewhere : os.locate destination ≠ place) (apart : place ≠ os.locate config.statePath) :
    after.disk.files place =
      if StateStore.isObsolete os config.generations
        (installCandidate store label bundle canonical).state.activeBundles place then none
      else Function.update world.disk.files (os.locate (store.snapshotPath canonical))
        (some canonical) place := by
  have directory := installing.generations
  rw [← directory] at listable
  have unwritten : place ≠ os.locate (installCandidate store label bundle canonical).path := by
    change place ≠ os.locate store.path
    rw [(StateStore.openExisting_eq_ok.mp installing.opened).1]
    exact apart
  rw [published.files elsewhere.symm, StateStore.committed_files listable unwritten,
    installing.stored.files, directory]

theorem Installing.not_obsolete
    (installing : Installing os config label bytes guard world destination bundle store
      canonical middle)
    (alike : SpelledAlike os config label bundle store.state) {other : String} {path : PathBuf}
    (referenced : (installCandidate store label bundle canonical).state.activeBundles.lookup
      other = some path) :
    StateStore.isObsolete os config.generations
      (installCandidate store label bundle canonical).state.activeBundles
        (os.locate path) = false := by
  rw [← Bool.not_eq_true]
  intro obsolete
  obtain ⟨name, place, generated, unreferenced, _⟩ :=
    StateStore.isObsolete_eq_true.mp obsolete
  by_cases same : other = label
  · subst other
    rw [installCandidate_lookup_self, installing.snapshotPath] at referenced
    cases referenced
    rw [Os.locate_child] at place
    obtain rfl : StateStore.snapshotName canonical = name := by simpa using place
    exact unreferenced label (by rw [installCandidate_lookup_self, installing.snapshotPath])
  · rw [installCandidate_lookup_of_ne same] at referenced
    rcases alike other path same referenced name place generated with
      ⟨other', different, spelled⟩ | ⟨bytes', serialized, rfl⟩
    · exact unreferenced other' (by rw [installCandidate_lookup_of_ne different, spelled])
    · rw [installing.serialized] at serialized
      cases serialized
      exact unreferenced label (by rw [installCandidate_lookup_self, installing.snapshotPath])

omit [Ciborium] [Pki] in
theorem namedByDigest_of_locate {path : PathBuf} {name : String}
    (named : path.fileName = some name)
    (here : os.locate path = os.locate (store.snapshotPath canonical)) :
    NamedByDigest path canonical := by
  rw [Os.locate_of_fileName named, StateStore.snapshotPath, Os.locate_child] at here
  obtain rfl : name = StateStore.snapshotName canonical := by
    simpa using (List.append_inj' here rfl).2
  refine ⟨_, named, ?_⟩
  rw [(StateStore.fileParts_snapshotName canonical).1, Bytes.decodeHex_encodeHex]

theorem Installing.referenced_contents
    (installing : Installing os config label bytes guard world destination bundle store
      canonical middle)
    (published : Published os destination bytes (StateStore.committed os store
      (installCandidate store label bundle canonical) middle) after)
    (listable : os.listable (os.realpath config.generations) = true)
    (apart : DestinationApart os config store.state destination)
    (alike : SpelledAlike os config label bundle store.state) (other : String) (path : PathBuf)
    (referenced : (installCandidate store label bundle canonical).state.activeBundles.lookup
      other = some path) :
    ∃ contents held, after.disk.files (os.locate path) = some contents ∧
      NamedByDigest path contents ∧ Bundle.fromBytes contents = .ok held ∧
        (installCandidate store label bundle canonical).state.Holds held := by
  have kept := installing.not_obsolete alike referenced
  have elsewhere : os.locate destination ≠ os.locate path := by
    by_cases same : other = label
    · subst other
      rw [installCandidate_lookup_self, installing.snapshotPath] at referenced
      cases referenced
      rw [Os.locate_child]
      exact apart.generated _ (StateStore.isGenerated_snapshotName canonical)
    · rw [installCandidate_lookup_of_ne same] at referenced
      exact apart.recorded other path referenced
  have valid := (StateStore.openExisting_eq_ok_iff.mp installing.opened).2.2.2.2
  have unwritten : os.locate path ≠ os.locate config.statePath := by
    by_cases same : other = label
    · subst other
      rw [installCandidate_lookup_self] at referenced
      cases referenced
      exact (store.namedByDigest_snapshotPath canonical).ne_statePath
    · rw [installCandidate_lookup_of_ne same] at referenced
      obtain ⟨_, ⟨_, _, named, _⟩, _⟩ := valid other path referenced
      exact named.ne_statePath
  have files := installing.files published listable elsewhere unwritten
  rw [kept] at files
  rw [if_neg Bool.false_ne_true] at files
  by_cases here : os.locate path = os.locate (store.snapshotPath canonical)
  · have named : ∃ name, path.fileName = some name := by
      by_cases same : other = label
      · subst other
        rw [installCandidate_lookup_self] at referenced
        cases referenced
        exact ⟨_, StateStore.fileName_snapshot _ _⟩
      · rw [installCandidate_lookup_of_ne same] at referenced
        obtain ⟨_, ⟨_, _, ⟨name, named, _⟩, _⟩, _⟩ := valid other path referenced
        exact ⟨name, named⟩
    obtain ⟨name, named⟩ := named
    obtain ⟨header, _, _, reparsed⟩ := Bundle.fromBytes_toBytes
      (Bundle.decoded_of_fromBytes installing.parsed) installing.serialized
    refine ⟨canonical, { bundle with header := header }, ?_, namedByDigest_of_locate named here,
      reparsed, installCandidate_holds installing.rollback⟩
    rw [files, here, Function.update_self]
  · have different : other ≠ label := by
      rintro rfl
      rw [installCandidate_lookup_self] at referenced
      cases referenced
      exact here rfl
    rw [installCandidate_lookup_of_ne different] at referenced
    obtain ⟨held, ⟨contents, read, named, parsed⟩, holds⟩ := valid other path referenced
    refine ⟨contents, held, ?_, named, parsed, ?_⟩
    · rw [files, Function.update_of_ne here]
      exact (Os.read_eq_ok.mp read).1
    · exact holds.of_marksKept (PersistedState.marksKept_recordBundle _ _)

theorem Installing.frame
    (installing : Installing os config label bytes guard world destination bundle store
      canonical middle)
    (published : Published os destination bytes (StateStore.committed os store
      (installCandidate store label bundle canonical) middle) after)
    (listable : os.listable (os.realpath config.generations) = true)
    (removable : ∀ place, os.removable place = true)
    (apart : DestinationApart os config store.state destination)
    (alike : SpelledAlike os config label bundle store.state) :
    InstallFrame os config label bundle store.state
      (installCandidate store label bundle canonical).state after.disk := by
  have contents := installing.referenced_contents published listable apart alike
  refine ⟨fun other different => installCandidate_lookup_of_ne different, ?_, ?_, ?_, ?_⟩
  · intro other path different referenced
    rw [← installCandidate_lookup_of_ne different] at referenced
    obtain ⟨held, _, stored, named, _⟩ := contents _ _ referenced
    exact ⟨held, stored, named⟩
  · intro id unclaimed
    have marks : (store.state.recordBundle bundle).SameMarks
        (installCandidate store label bundle canonical).state := ⟨rfl, rfl⟩
    rw [marks.ledger, PersistedState.ledger_recordBundle]
    refine Watermark.record_of_not_claimed ?_
    intro epoch claimed
    obtain ⟨scope, member, same, _⟩ := mem_claims.mp claimed
    exact unclaimed scope.epoch ⟨scope, member, same, rfl⟩
  · intro name generated
    constructor
    · intro present
      rw [installing.files published listable (apart.generated name generated)
        (StateStore.generated_ne_statePath generated)] at present
      by_contra unreferenced
      have obsolete : StateStore.isObsolete os config.generations
          (installCandidate store label bundle canonical).state.activeBundles
          (os.realpath config.generations ++ [name]) = true := by
        refine StateStore.isObsolete_eq_true.mpr ⟨name, rfl, generated, ?_, removable _⟩
        intro other referenced
        exact unreferenced ⟨other, _, referenced, Os.locate_child _ _ _⟩
      rw [if_pos obsolete] at present
      cases present
    · rintro ⟨other, path, referenced, place⟩
      obtain ⟨held, _, stored, _⟩ := contents _ _ referenced
      rw [← place, stored]
      rfl
  · intro later stateDb resolved alikeLater
    refine ⟨⟨stateDb.child "state.json", (installCandidate store label bundle canonical).state,
      false⟩, StateStore.openExisting_eq_ok_iff.mpr ⟨rfl, rfl, ?_, ?_, ?_⟩⟩
    · unfold Os.readState
      rw [Os.locate_state resolved, ← Os.locate_state rfl]
      exact installing.descriptor published apart.descriptor
    · have paired := (StateStore.openExisting_eq_ok_iff.mp installing.opened).2.2.2.1
      exact (paired.recordBundle bundle).of_sameMarks ⟨rfl, rfl⟩
    · intro other path referenced
      obtain ⟨held, holding, stored, named, parsed, holds⟩ := contents _ _ referenced
      obtain ⟨place, readable⟩ := alikeLater other path referenced
      refine ⟨holding, ⟨held, Os.read_eq_ok.mpr ⟨?_, ?_⟩, named, parsed⟩, holds⟩
      · rw [place, stored]
      · rw [place, readable]

theorem Installing.spelledAlike
    (installing : Installing os config label bytes guard world destination bundle store
      canonical middle)
    (published : Published os destination bytes (StateStore.committed os store
      (installCandidate store label bundle canonical) middle) after)
    (listable : os.listable (os.realpath config.generations) = true)
    (removable : ∀ place, os.removable place = true)
    (apart : DestinationApart os config store.state destination)
    (snapshots : ∀ other path, other ≠ label →
      store.state.activeBundles.lookup other = some path →
        HeldUnderDigest os after.disk path) :
    SpelledAlike os config label bundle store.state := by
  intro other path different referenced name place generated
  obtain ⟨contents, stored, _⟩ := snapshots other path different referenced
  rw [place, installing.files published listable (apart.generated name generated)
    (StateStore.generated_ne_statePath generated)] at stored
  by_contra unspelled
  have obsolete : StateStore.isObsolete os config.generations
      (installCandidate store label bundle canonical).state.activeBundles
      (os.realpath config.generations ++ [name]) = true := by
    refine StateStore.isObsolete_eq_true.mpr ⟨name, rfl, generated, ?_, removable _⟩
    intro other' spelled
    by_cases same : other' = label
    · subst other'
      rw [installCandidate_lookup_self, installing.snapshotPath] at spelled
      exact unspelled (Or.inr ⟨canonical, installing.serialized,
        PathBuf.child_injective (Option.some.inj spelled)⟩)
    · rw [installCandidate_lookup_of_ne same] at spelled
      exact unspelled (Or.inl ⟨other', same, spelled⟩)
  rw [if_pos obsolete] at stored
  cases stored

end Installed

/-- An installation whose removals succeed leaves everything else as it owes
exactly when the other labels' snapshots are spelled alike. -/
theorem install_frame_iff_spelled_alike {os : Os} {config : Config} {label : String}
    {bytes : Bytes} {guard : StateDirectoryLock} {world after : World} {result : InstallResult}
    {bundle : Bundle} {store : StateStore} {destination : PathBuf}
    (ran : (installBundle os config label bytes guard).outcome world = (.ok result, after))
    (parsed : Bundle.fromBytes bytes = .ok bundle)
    (opened : StateStore.openExisting os world.disk config.statePath = .ok store)
    (resolved : config.bundleDestination os world.disk label = .ok destination)
    (listable : os.listable (os.realpath config.generations) = true)
    (removable : ∀ place, os.removable place = true)
    (apart : DestinationApart os config store.state destination) :
    (∃ state, after.disk.states (os.locate config.statePath) = some (.parsed state) ∧
      InstallFrame os config label bundle store.state state after.disk) ↔
        SpelledAlike os config label bundle store.state := by
  obtain ⟨destination', bundle', store', canonical, middle, installing, published⟩ :=
    installBundle_eq_ok ran
  obtain rfl : bundle' = bundle := Except.ok.inj (installing.parsed.symm.trans parsed)
  obtain rfl : store' = store := Except.ok.inj (installing.opened.symm.trans opened)
  obtain rfl : destination' = destination :=
    Except.ok.inj (installing.destination.symm.trans resolved)
  constructor
  · rintro ⟨state, _, frame⟩
    exact installing.spelledAlike published listable removable apart frame.snapshots
  · intro alike
    exact ⟨_, installing.descriptor published apart.descriptor,
      installing.frame published listable removable apart alike⟩

end Frame

/-! ### One state directory under two spellings -/

section TwoSpellings

local instance : Sha2 := Crates.sha2
local instance : Ciborium := Crates.ciborium

def manifestA : Manifest :=
  Crates.plainManifest "p" [Crates.plainScope 0xaa 5] none

def manifestB : Manifest :=
  Crates.plainManifest "p" [Crates.plainScope 0xbb 5] none

def signatureA : Bytes :=
  Bytes.unpack 70
    0x304402207c43a10b0c27b6de627bfa0e0908af9bb073a060a76cec57fcc7b568cc43520a02207fe2e76d4be8af51fd7676f15a825cad82a11ec69a78b3b2222da18df5e758d3 []

def signatureB : Bytes :=
  Bytes.unpack 70
    0x304402207dde78083735757a8a47fd1981f53718c8b92c277d58351dad41d20b6f36a81502207a4c29933cf0ce3b2a4f1cad7bbf507f9d2ba833a30eec84c5e73bc55c0c3c46 []

local instance : Pki := Crates.pki
  [(Sha2.sha256 manifestA.toCbor, signatureA), (Sha2.sha256 manifestB.toCbor, signatureB)]

def twoLabels (stateDb : PathBuf) : Config :=
  { pinnedConfig with
    storage := { pinnedConfig.storage with stateDb := stateDb }
    ca := [{ label := "a" }, { label := "b" }] }

def insideW : Os :=
  { Os.faultless 1800000000 with cwd := ["w"] }

def relativeState : PathBuf := { root := false, parts := ["state"] }

def absoluteState : PathBuf := { root := true, parts := ["w", "state"] }

def installA (stateDb : PathBuf) : Effect InstallResult :=
  installBundle insideW (twoLabels stateDb) "a" (Crates.sealedFile manifestA signatureA)
    ⟨["w", "state"]⟩

def installB (stateDb : PathBuf) : Effect InstallResult :=
  installBundle insideW (twoLabels stateDb) "b" (Crates.sealedFile manifestB signatureB)
    ⟨["w", "state"]⟩

/-- What stands between and after two successful installations. -/
structure TwoInstalls where
  recorded : List (String × PathBuf)
  survivors : List (Option Bytes)
  reopens : Bool
deriving DecidableEq

def twoInstalls (first second : PathBuf) : Option TwoInstalls :=
  match (installB first).outcome (pinnedWorld PersistedState.default) with
  | (.error _, _) => none
  | (.ok _, between) =>
      match (installA second).outcome between,
          StateStore.openExisting insideW between.disk (twoLabels second).statePath with
      | (.ok _, after), .ok store => some
          { recorded := store.state.activeBundles.entries.map fun record =>
              (record.1, record.2)
            survivors := store.state.activeBundles.entries.map fun record =>
              after.disk.files (insideW.locate record.2)
            reopens := (StateStore.openExisting insideW after.disk
              (twoLabels second).statePath).isOk }
      | _, _ => none

theorem twoInstalls_eq_some {first second : PathBuf} {view : TwoInstalls}
    (ran : twoInstalls first second = some view) :
    ∃ result between result' after store,
      (installB first).outcome (pinnedWorld PersistedState.default) = (.ok result, between) ∧
        (installA second).outcome between = (.ok result', after) ∧
          StateStore.openExisting insideW between.disk (twoLabels second).statePath =
            .ok store ∧
            (store.state.activeBundles.entries.map fun record => (record.1, record.2)) =
              view.recorded ∧
              (store.state.activeBundles.entries.map fun record =>
                after.disk.files (insideW.locate record.2)) = view.survivors ∧
                (StateStore.openExisting insideW after.disk
                  (twoLabels second).statePath).isOk = view.reopens := by
  unfold twoInstalls at ran
  split at ran
  · cases ran
  · rename_i result between installed
    split at ran
    · rename_i result' after store installed' opened
      cases ran
      exact ⟨result, between, result', after, store, installed, installed', opened, rfl, rfl,
        rfl⟩
    · cases ran

def snapshotB (stateDb : PathBuf) : PathBuf :=
  (twoLabels stateDb).generations.child
    (StateStore.snapshotName (Crates.sealedFile manifestB signatureB))

theorem lookup_of_recorded {active : HashMap String PathBuf} {label : String}
    {path : PathBuf}
    (recorded : active.entries.map (fun record => (record.1, record.2)) = [(label, path)]) :
    active.entries = [⟨label, path⟩] := by
  cases listed : active.entries with
  | nil =>
      rw [listed] at recorded
      cases recorded
  | cons record rest =>
      rw [listed, List.map_cons, List.cons.injEq, List.map_eq_nil_iff] at recorded
      obtain ⟨same, rfl⟩ := recorded
      cases same
      rfl

/-- The second process spells the same directory differently and collects the
snapshot of the label it was not asked to touch. -/
theorem install_collects_other_spelling : ∃ result between result' after store path,
    (installB relativeState).outcome (pinnedWorld PersistedState.default) =
        (.ok result, between) ∧
      (installA absoluteState).outcome between = (.ok result', after) ∧
        StateStore.openExisting insideW between.disk (twoLabels absoluteState).statePath =
          .ok store ∧
          store.state.activeBundles.lookup "b" = some path ∧
            ¬ HeldUnderDigest insideW after.disk path ∧
              ∀ store', StateStore.openExisting insideW after.disk
                (twoLabels absoluteState).statePath ≠ .ok store' := by
  have view : twoInstalls relativeState absoluteState =
      some ⟨[("b", snapshotB relativeState)], [none], false⟩ := by
    decide +kernel
  obtain ⟨result, between, result', after, store, installed, installed', opened, recorded,
    survivors, reopens⟩ := twoInstalls_eq_some view
  have listed := lookup_of_recorded recorded
  refine ⟨result, between, result', after, store, snapshotB relativeState, installed,
    installed', opened, ?_, ?_, ?_⟩
  · exact AList.mem_lookup_iff.mpr (by rw [listed]; exact List.mem_singleton_self _)
  · rintro ⟨contents, stored, _⟩
    rw [listed, List.map_singleton, List.singleton_inj] at survivors
    rw [survivors] at stored
    cases stored
  · intro store' openedAgain
    rw [openedAgain] at reopens
    cases reopens

/-- Under one spelling the other label keeps its snapshot. -/
theorem install_keeps_same_spelling : ∃ result between result' after store bundle state,
    (installB absoluteState).outcome (pinnedWorld PersistedState.default) =
        (.ok result, between) ∧
      (installA absoluteState).outcome between = (.ok result', after) ∧
        StateStore.openExisting insideW between.disk (twoLabels absoluteState).statePath =
          .ok store ∧
          store.state.activeBundles.lookup "b" = some (snapshotB absoluteState) ∧
            InstallFrame insideW (twoLabels absoluteState) "a" bundle store.state state
              after.disk := by
  have view : twoInstalls absoluteState absoluteState =
      some ⟨[("b", snapshotB absoluteState)],
        [some (Crates.sealedFile manifestB signatureB)], true⟩ := by
    decide +kernel
  obtain ⟨result, between, result', after, store, installed, installed', opened, recorded, _⟩ :=
    twoInstalls_eq_some view
  have listed := lookup_of_recorded recorded
  have only : ∀ other path, store.state.activeBundles.lookup other = some path →
      path = snapshotB absoluteState := by
    intro other path referenced
    have member := AList.mem_lookup_iff.mp referenced
    rw [listed, List.mem_singleton] at member
    cases member
    rfl
  obtain ⟨destination, bundle, _, _, _, installing, _⟩ := installBundle_eq_ok installed'
  obtain ⟨_, _, ⟨⟩, rfl, _⟩ := Config.bundleDestination_eq_ok.mp installing.destination
  have apart : DestinationApart insideW (twoLabels absoluteState) store.state
      ((twoLabels absoluteState).bundlePath { label := "a" }) := by
    refine ⟨by decide, ?_, ?_⟩
    · -- The two directories differ already in their last component.
      intro name _ same
      have parents := congrArg List.dropLast same
      rw [List.dropLast_concat] at parents
      exact absurd parents (by decide)
    · intro other path referenced
      rw [only other path referenced]
      decide
  obtain ⟨state, _, frame⟩ := (install_frame_iff_spelled_alike installed' installing.parsed opened
    installing.destination rfl (fun _ => rfl) apart).mpr
      (spelledAlike_of_child fun other path referenced => ⟨_, only other path referenced⟩)
  exact ⟨result, between, result', after, store, bundle, state, installed, installed', opened,
    AList.mem_lookup_iff.mpr (by rw [listed]; exact List.mem_singleton_self _), frame⟩

end TwoSpellings

end Hoike
