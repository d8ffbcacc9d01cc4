/-
What each operation of the store can do, once for all later arguments.

Every specification covers both outcomes.  Staged operations touch no file
except content-addressed snapshots; only `commit` replaces the descriptor.
-/

import Hoike.Core.Install

namespace Hoike

open Ahu
open Fallible

/-! ### Names -/

theorem PathBuf.fileName_child {path : PathBuf} {name : String} (notDot : name ≠ ".")
    (notDots : name ≠ "..") : (path.child name).fileName = some name := by
  simp [PathBuf.fileName, PathBuf.child, notDot, notDots]

theorem StateStore.toList_snapshotName [Sha2] (bytes : Bytes) :
    (StateStore.snapshotName bytes).toList =
      (Sha2.sha256 bytes).val.flatMap Bytes.hexDigits ++ ['.', 'a', 'h', 'u'] := by
  simp [StateStore.snapshotName, toString]

theorem StateStore.fileName_snapshot [Sha2] (directory : PathBuf) (bytes : Bytes) :
    (directory.child (StateStore.snapshotName bytes)).fileName =
      some (StateStore.snapshotName bytes) := by
  have size : 4 ≤ (StateStore.snapshotName bytes).toList.length := by
    rw [StateStore.toList_snapshotName, List.length_append]
    simp
  refine PathBuf.fileName_child ?_ ?_ <;>
    · intro same
      rw [same] at size
      exact absurd size (by decide)

theorem fileParts_append {stem extension : List Char} (nonempty : stem ≠ [])
    (plain : '.' ∉ extension) :
    fileStem (String.ofList (stem ++ '.' :: extension)) = String.ofList stem ∧
      fileExtension (String.ofList (stem ++ '.' :: extension)) =
        some (String.ofList extension) := by
  have suffix : ((stem ++ '.' :: extension).reverse.takeWhile (· ≠ '.')).reverse =
      extension := by
    have all : ∀ letter ∈ extension.reverse, decide (letter ≠ '.') = true := by
      intro letter member
      simp only [decide_eq_true_eq]
      rintro rfl
      exact plain (List.mem_reverse.mp member)
    rw [List.reverse_append, List.reverse_cons, List.append_assoc,
      List.takeWhile_append_of_pos all]
    simp
  have taken : (stem ++ '.' :: extension).take
      ((stem ++ '.' :: extension).length - extension.length - 1) = stem := by
    rw [List.length_append, List.length_cons, show stem.length + (extension.length + 1) -
      extension.length - 1 = stem.length by omega, List.take_left]
  unfold fileStem fileExtension
  simp only [String.toList_ofList, suffix, taken, if_neg nonempty, and_self]

section DigestNames

variable [Sha2]

namespace StateStore

theorem snapshotName_eq (bytes : Bytes) :
    snapshotName bytes = String.ofList
      ((Sha2.sha256 bytes).val.flatMap Bytes.hexDigits ++ '.' :: ['a', 'h', 'u']) := by
  apply String.toList_inj.mp
  rw [toList_snapshotName, String.toList_ofList]

theorem fileParts_snapshotName (bytes : Bytes) :
    fileStem (snapshotName bytes) = Bytes.encodeHex (Sha2.sha256 bytes).val ∧
      fileExtension (snapshotName bytes) = some "ahu" := by
  have nonempty : (Sha2.sha256 bytes).val.flatMap Bytes.hexDigits ≠ [] := by
    intro empty
    have size := Bytes.length_flatMap_hexDigits (Sha2.sha256 bytes).val
    rw [empty, (Sha2.sha256 bytes).property] at size
    cases size
  rw [snapshotName_eq]
  exact fileParts_append nonempty (by decide : '.' ∉ ['a', 'h', 'u'])

theorem isGenerated_snapshotName (bytes : Bytes) : isGenerated (snapshotName bytes) = true := by
  obtain ⟨stem, extension⟩ := fileParts_snapshotName bytes
  have size : (Bytes.encodeHex (Sha2.sha256 bytes).val).toList.length = 64 := by
    rw [Bytes.toList_encodeHex, Bytes.length_flatMap_hexDigits, (Sha2.sha256 bytes).property]
  unfold isGenerated
  rw [stem, extension]
  simp only [size, List.all_eq_true, true_and, decide_eq_true_eq]
  exact fun digit member => Bytes.hexValue_isSome_of_mem_encodeHex member

theorem snapshotName_inj {left right : Bytes} (same : snapshotName left = snapshotName right) :
    Sha2.sha256 left = Sha2.sha256 right := by
  have lists := congrArg String.toList same
  rw [toList_snapshotName, toList_snapshotName] at lists
  apply Subtype.ext
  apply Bytes.encodeHex_injective
  exact congrArg String.ofList (List.append_cancel_right lists)

end StateStore

end DigestNames

/-! ### System calls -/

theorem ensures_systemTime {os : Os} {world : World} {onOk : UInt64 → World → Prop}
    {onError : CoreError → World → Prop}
    (read : ∀ now, os.clock world.calls = .ok now → onOk now world.tick)
    (failed : ∀ text, onError (.config text) world.tick) :
    Ensures (systemTime os) world onOk onError := by
  unfold systemTime
  simp only [ensures_bind, ensures_get, ensures_modify, ensures_liftM]
  cases reading : os.clock world.calls with
  | error text =>
      refine ⟨?_, ?_⟩
      · intro value impossible
        cases impossible
      · intro error same
        cases same
        exact failed text
  | ok now =>
      refine ⟨?_, ?_⟩
      · intro value same
        cases same
        exact read now reading
      · intro error impossible
        cases impossible

theorem ensures_createDirAll {os : Os} {path : PathBuf} {world : World}
    {onOk : Unit → World → Prop} {onError : CoreError → World → Prop}
    (created : os.createDirectory world.calls path = none → onOk () world.tick)
    (failed : ∀ error, onError (.io error) world.tick) :
    Ensures (createDirAll os path) world onOk onError := by
  unfold createDirAll
  simp only [ensures_bind, ensures_get, ensures_modify]
  cases result : os.createDirectory world.calls path with
  | none =>
      exact created result
  | some error =>
      exact failed error

/-- The error of a write whose rename happened but may not survive a crash. -/
def CoreError.IndeterminateAt (path : PathBuf) (error : CoreError) : Prop :=
  ∃ reason, error = .durabilityUncertain path reason

/-- A durable write renames or leaves everything alone, and it reports exactly
the indeterminate case as such. -/
theorem ensures_writeAtomic {os : Os} {path : PathBuf} {publish : RealPath → World → World}
    {world : World} {onOk : Unit → World → Prop} {onError : CoreError → World → Prop}
    (durable : path.fileName ≠ none → os.writeOutcome world.calls path = .durable →
      onOk () (publish (os.locate path) world.tick))
    (failed : ∀ error, (∀ path', ¬ error.IndeterminateAt path') → onError error world.tick)
    (uncertain : ∀ ioError reason,
      os.writeOutcome world.calls path = .directoryNotSynced ioError →
        onError (.durabilityUncertain path reason) (publish (os.locate path) world.tick)) :
    Ensures (writeAtomic os path publish) world onOk onError := by
  unfold writeAtomic
  simp only [ensures_bind, ensures_get, ensures_modify]
  have plain : ∀ error : CoreError, (∀ path reason, error ≠ .durabilityUncertain path reason) →
      onError error world.tick := by
    intro error different
    apply failed error
    rintro path' ⟨reason, same⟩
    exact different path' reason same
  by_cases named : path.fileName = none
  · rw [if_pos named]
    exact plain _ (by intros; simp)
  · rw [if_neg named]
    cases result : os.writeOutcome world.calls path with
    | durable =>
        exact durable named result
    | directoryNotCreated error =>
        exact plain _ (by intros; simp)
    | failedBeforeRename error =>
        exact plain _ (by intros; simp)
    | directoryNotSynced error =>
        exact uncertain error _ result

/-! ### Recording marks -/

namespace PersistedState

def advanceMark (state : PersistedState) (key : String) (epoch : UInt64)
    (manifestDigest : Octets 32) : PersistedState :=
  if (state.highWaterMarks.lookup key).all fun current => current < epoch then
    StateStore.setMark state key epoch manifestDigest
  else state

/-- The effect of `advance_from_bundle` on a staged store. -/
def recordBundle [Sha2] (state : PersistedState) (bundle : Bundle) : PersistedState :=
  bundle.manifest.caScopes.foldl (fun state scope =>
    state.advanceMark (makeKey bundle.manifest.producerId
      (Bytes.encodeHex scope.issuerKeyHash)) scope.epoch (Sha2.sha256 bundle.manifestBytes)) state

theorem advanceMark_activeBundles (state : PersistedState) (key : String) (epoch : UInt64)
    (manifestDigest : Octets 32) :
    (state.advanceMark key epoch manifestDigest).activeBundles = state.activeBundles := by
  unfold advanceMark
  split <;> rfl

theorem recordBundle_activeBundles [Sha2] (state : PersistedState) (bundle : Bundle) :
    (state.recordBundle bundle).activeBundles = state.activeBundles := by
  unfold recordBundle
  generalize bundle.manifest.caScopes = scopes
  induction scopes generalizing state with
  | nil =>
      rfl
  | cons scope rest ih =>
      rw [List.foldl_cons, ih, advanceMark_activeBundles]

end PersistedState

theorem StateStore.ensures_assign {state : PersistedState} {store : StateStore}
    {world : World} {onOk : Unit → StateStore × World → Prop}
    {onError : CoreError → StateStore × World → Prop} :
    Ensures (StateStore.assign state) (store, world) onOk onError ↔
      onOk () (store.withState state, world) := Iff.rfl

theorem StateStore.ensures_advance_staged {os : Os} {store : StateStore} {world : World}
    {producerId ikh : String} {epoch : UInt64} {digest : Octets 32}
    {onOk : Unit → StateStore × World → Prop}
    {onError : CoreError → StateStore × World → Prop} (staged : store.staged = true) :
    Ensures (StateStore.advance os producerId ikh epoch digest) (store, world) onOk onError ↔
      onOk () (store.withState (store.state.advanceMark
        (PersistedState.makeKey producerId ikh) epoch digest), world) := by
  unfold StateStore.advance PersistedState.advanceMark
  simp only [ensures_bind, ensures_get]
  by_cases newer : (store.state.highWaterMarks.lookup
      (PersistedState.makeKey producerId ikh)).all fun current => current < epoch
  · simp only [if_pos newer, staged]
    rfl
  · simp only [if_neg newer]
    rfl

theorem StateStore.ensures_advanceFromBundle_staged [Sha2] {os : Os} {store : StateStore}
    {world : World} {bundle : Bundle} {onOk : Unit → StateStore × World → Prop}
    {onError : CoreError → StateStore × World → Prop} (staged : store.staged = true) :
    Ensures (StateStore.advanceFromBundle os bundle) (store, world) onOk onError ↔
      onOk () (store.withState (store.state.recordBundle bundle), world) := by
  -- Every step of the loop touches the marks of the candidate and nothing else.
  have fold : ∀ (scopes : List CaScope) (store : StateStore),
      scopes.foldl (fun (pair : StateStore × World) scope =>
        (pair.1.withState (pair.1.state.advanceMark (PersistedState.makeKey
          bundle.manifest.producerId (Bytes.encodeHex scope.issuerKeyHash)) scope.epoch
          (Sha2.sha256 bundle.manifestBytes)), pair.2)) (store, world) =
      (store.withState (scopes.foldl (fun state scope =>
        state.advanceMark (PersistedState.makeKey bundle.manifest.producerId
          (Bytes.encodeHex scope.issuerKeyHash)) scope.epoch
          (Sha2.sha256 bundle.manifestBytes)) store.state), world) := by
    intro scopes
    induction scopes with
    | nil =>
        intro store
        rfl
    | cons scope rest ih =>
        intro store
        rw [List.foldl_cons, ih, List.foldl_cons]
        rfl
  unfold StateStore.advanceFromBundle
  simp only [ensures_bind, ensures_get, ensures_onShared, ensures_withLocal]
  rw [ensures_forM_of_total (fun pair scope (holds : pair.1.staged = true) => holds)
    (fun pair scope holds onOk onError => StateStore.ensures_advance_staged holds) rfl, fold]
  simp only [staged]
  rfl

/-! ### Snapshots -/

theorem Disk.descriptor_eq_some {disk : Disk} {place : RealPath} {state : PersistedState} :
    disk.descriptor place = some state ↔ disk.states place = some (.parsed state) := by
  unfold Disk.descriptor
  cases disk.states place with
  | none =>
      simp
  | some found =>
      cases found <;> simp [Descriptor.state?]

theorem Disk.descriptor_of_octets {disk : Disk} {place : RealPath} {bytes : Bytes}
    (found : disk.contents place = some (.octets bytes)) : disk.descriptor place = none := by
  simp [Disk.descriptor, Disk.states, found, FileContents.decoded, FileContents.state?_refused]

def World.NoNewDescriptor (before after : World) : Prop :=
  ∀ place state, after.disk.descriptor place = some state →
    before.disk.descriptor place = some state

theorem World.NoNewDescriptor.of_disk {before after : World} (same : after.disk = before.disk) :
    before.NoNewDescriptor after := by
  intro place state found
  rw [← same]
  exact found

theorem World.NoNewDescriptor.trans {first second third : World}
    (earlier : first.NoNewDescriptor second) (later : second.NoNewDescriptor third) :
    first.NoNewDescriptor third :=
  fun place state found => earlier place state (later place state found)

/-- No descriptor changed, nor the history of descriptors. -/
structure World.SameStates (before after : World) : Prop where
  states : ∀ directory, after.disk.states (descriptorPlace directory) =
    before.disk.states (descriptorPlace directory)
  replacements : after.replacements = before.replacements

theorem World.SameStates.refl (world : World) : world.SameStates world :=
  ⟨fun _ => rfl, rfl⟩

theorem World.SameStates.trans {first second third : World}
    (earlier : first.SameStates second) (later : second.SameStates third) :
    first.SameStates third :=
  ⟨fun directory => (later.states directory).trans (earlier.states directory),
    later.replacements.trans earlier.replacements⟩

/-- The whole disk is as before. -/
structure World.SameDisk (before after : World) : Prop where
  disk : after.disk = before.disk
  replacements : after.replacements = before.replacements

theorem World.SameDisk.refl (world : World) : world.SameDisk world :=
  ⟨rfl, rfl⟩

theorem World.SameDisk.trans {first second third : World}
    (earlier : first.SameDisk second) (later : second.SameDisk third) :
    first.SameDisk third :=
  ⟨later.disk.trans earlier.disk, later.replacements.trans earlier.replacements⟩

theorem World.SameDisk.files {before after : World} (same : before.SameDisk after) :
    after.disk.files = before.disk.files := by
  rw [same.disk]

theorem World.SameDisk.toSameStates {before after : World} (same : before.SameDisk after) :
    before.SameStates after :=
  ⟨fun _ => by rw [same.disk], same.replacements⟩

theorem World.sameDisk_tick (world : World) : world.SameDisk world.tick :=
  ⟨rfl, rfl⟩

/-- One octet file was written and nothing else. -/
structure World.Stored (place : RealPath) (bytes : Bytes) (before after : World) : Prop where
  here : after.disk.contents place = some (.octets bytes) ∨
    after.disk.contents place = before.disk.contents place ∧ before.disk.files place = some bytes
  elsewhere : ∀ other, other ≠ place → after.disk.contents other = before.disk.contents other
  replacements : after.replacements = before.replacements

theorem World.Stored.present {place : RealPath} {bytes : Bytes} {before after : World}
    (stored : World.Stored place bytes before after) :
    after.disk.files place = some bytes := by
  unfold Disk.files
  rcases stored.here with written | ⟨same, found⟩
  · rw [written]
    rfl
  · rw [same]
    exact found

theorem World.Stored.noNewDescriptor {place : RealPath} {bytes : Bytes} {before after : World}
    (stored : World.Stored place bytes before after) : before.NoNewDescriptor after := by
  intro other state found
  have kept : after.disk.contents other = before.disk.contents other := by
    by_cases same : other = place
    · subst other
      rcases stored.here with written | ⟨same, _⟩
      · rw [Disk.descriptor_of_octets written] at found
        cases found
      · exact same
    · exact stored.elsewhere other same
  rw [← found]
  unfold Disk.descriptor Disk.states
  rw [kept]

theorem World.Stored.files {place : RealPath} {bytes : Bytes} {before after : World}
    (stored : World.Stored place bytes before after) :
    after.disk.files = Function.update before.disk.files place (some bytes) := by
  funext other
  by_cases same : other = place
  · rw [same, stored.present, Function.update_self]
  · rw [Function.update_of_ne same, Disk.files, stored.elsewhere other same]
    rfl

theorem World.Stored.of_sameDisk {place : RealPath} {bytes : Bytes}
    {before middle after : World} (same : before.SameDisk middle)
    (stored : World.Stored place bytes middle after) :
    World.Stored place bytes before after :=
  ⟨by rw [← same.disk]; exact stored.here,
    fun other different => by rw [stored.elsewhere other different, same.disk],
    stored.replacements.trans same.replacements⟩

theorem World.stored_putFile {place : RealPath} {bytes : Bytes} {before world : World}
    (same : before.SameDisk world) :
    World.Stored place bytes before (world.putFile place bytes) := by
  refine ⟨.inl (Function.update_self _ _ _), ?_, same.replacements⟩
  · intro other different
    rw [← same.disk]
    exact Function.update_of_ne different _ _

theorem World.stored_of_present {place : RealPath} {bytes : Bytes} {before after : World}
    (same : before.SameDisk after) (present : before.disk.files place = some bytes) :
    World.Stored place bytes before after :=
  ⟨.inr ⟨by rw [same.disk], present⟩, fun _ _ => by rw [same.disk], same.replacements⟩

theorem Os.read_eq_ok {os : Os} {disk : Disk} {path : PathBuf} {bytes : Bytes} :
    os.read disk path = .ok bytes ↔
      disk.files (os.locate path) = some bytes ∧ os.unreadable (os.locate path) = false := by
  unfold Os.read
  cases disk.files (os.locate path) with
  | none =>
      simp
  | some stored =>
      by_cases hidden : os.unreadable (os.locate path) <;> simp [hidden]

theorem StateStore.openExisting_eq_ok [Sha2] [Ciborium] {os : Os} {disk : Disk}
    {path : PathBuf} {store : StateStore} :
    StateStore.openExisting os disk path = .ok store ↔
      store.path = path ∧ store.staged = false ∧
        os.readState disk path = some (.parsed store.state) ∧
          validatePersisted os disk store.state path = .ok () := by
  unfold StateStore.openExisting
  cases os.readState disk path with
  | none =>
      simp [throw, throwThe, MonadExceptOf.throw]
  | some descriptor =>
      cases descriptor with
      | notText =>
          simp [throw, throwThe, MonadExceptOf.throw]
      | malformed error =>
          simp [throw, throwThe, MonadExceptOf.throw]
      | parsed state =>
          constructor
          · intro opened
            obtain ⟨_, valid, result⟩ := Except.bind_eq_ok.mp opened
            cases result
            exact ⟨rfl, rfl, rfl, valid⟩
          · rintro ⟨samePath, unstaged, sameState, valid⟩
            obtain ⟨path', state', staged'⟩ := store
            cases samePath
            cases unstaged
            cases sameState
            exact Except.bind_eq_ok.mpr ⟨(), valid, rfl⟩

namespace StateStore

def snapshotPath [Sha2] (store : StateStore) (bytes : Bytes) : PathBuf :=
  store.generations.child (snapshotName bytes)

def bindLabel (state : PersistedState) (label : String) (path : PathBuf) : PersistedState :=
  { state with activeBundles := state.activeBundles.insert label path }

/-- A snapshot stores the canonical octets under their digest and binds the
label; a failure binds nothing and leaves at most that one file behind. -/
theorem ensures_snapshot [Sha2] {os : Os} {label : String} {bundle : Bundle}
    {store : StateStore} {world : World} {onOk : Unit → StateStore × World → Prop}
    {onError : CoreError → StateStore × World → Prop}
    (stored : ∀ bytes after, bundle.toBytes = .ok bytes →
      World.Stored (os.locate (store.snapshotPath bytes)) bytes world after →
        onOk () (store.withState (bindLabel store.state label (store.snapshotPath bytes)), after))
    (failed : ∀ error after, world.SameDisk after → onError error (store, after))
    (uncertain : ∀ bytes error after, bundle.toBytes = .ok bytes →
      World.Stored (os.locate (store.snapshotPath bytes)) bytes world after →
        onError error (store, after)) :
    Ensures (snapshot os label bundle) (store, world) onOk onError := by
  unfold snapshot
  simp only [ensures_bind, ensures_get, ensures_liftM, ensures_onShared]
  refine ⟨?_, fun error _ => failed error world (.refl world)⟩
  intro bytes serialized
  rw [Except.mapError_eq_ok] at serialized
  refine ensures_createDirAll ?_ (fun error => failed _ _ world.sameDisk_tick)
  intro _
  have path : store.generations.child (snapshotName bytes) = store.snapshotPath bytes := rfl
  simp only [path]
  have write : Ensures (writeFile os (store.snapshotPath bytes) bytes) world.tick
      (fun _ after => onOk () (store.withState (bindLabel store.state label
        (store.snapshotPath bytes)), after))
      (fun error after => onError error (store, after)) := by
    refine ensures_writeAtomic ?_ ?_ ?_
    · intro _ _
      exact stored bytes _ serialized (World.stored_putFile
        (world.sameDisk_tick.trans world.tick.sameDisk_tick))
    · intro error _
      exact failed error _ (world.sameDisk_tick.trans world.tick.sameDisk_tick)
    · intro _ reason _
      exact uncertain bytes _ _ serialized (World.stored_putFile
        (world.sameDisk_tick.trans world.tick.sameDisk_tick))
  by_cases present : os.fileExists world.tick.disk (store.snapshotPath bytes)
  · simp only [if_pos present, ensures_bind, ensures_liftM, ensures_pure]
    refine ⟨?_, fun error _ => failed error _ world.sameDisk_tick⟩
    intro content contentRead
    by_cases same : content = bytes
    · rw [Except.mapError_eq_ok, same] at contentRead
      have found : world.disk.files (os.locate (store.snapshotPath bytes)) = some bytes :=
        (Os.read_eq_ok.mp contentRead).1
      simp only [same, decide_true]
      exact stored bytes _ serialized (World.stored_of_present world.sameDisk_tick found)
    · simp only [same, decide_false, if_true, ensures_bind, ensures_onShared]
      exact write
  · simp only [if_neg present, ensures_pure, if_true, ensures_bind, ensures_onShared]
    exact write

def Canonical (source : Bundle → Prop) (bytes : Bytes) : Prop :=
  ∃ bundle, source bundle ∧ bundle.toBytes = .ok bytes

/-- Nothing was written but canonical forms of these bundles, each under its
digest in one directory. -/
structure Stashed [Sha2] (directory : RealPath) (source : Bundle → Prop)
    (before after : World) : Prop where
  contents : ∀ place, after.disk.contents place = before.disk.contents place ∨
    ∃ bytes, Canonical source bytes ∧ place = directory ++ [snapshotName bytes] ∧
      after.disk.files place = some bytes
  replacements : after.replacements = before.replacements

theorem Stashed.files [Sha2] {directory : RealPath} {source : Bundle → Prop}
    {before after : World} (stashed : Stashed directory source before after) (place : RealPath) :
    after.disk.files place = before.disk.files place ∨
      ∃ bytes, Canonical source bytes ∧ place = directory ++ [snapshotName bytes] ∧
        after.disk.files place = some bytes := by
  rcases stashed.contents place with same | written
  · apply Or.inl
    rw [Disk.files, same]
    rfl
  · exact Or.inr written

theorem descriptorPlace_ne_snapshot [Sha2] (directory generations : RealPath) (bytes : Bytes) :
    descriptorPlace directory ≠ generations ++ [snapshotName bytes] := by
  intro same
  have name : "state.json" = snapshotName bytes := by
    simpa using (List.append_inj' same rfl).2
  have generated := isGenerated_snapshotName bytes
  rw [← name] at generated
  exact absurd generated (by decide)

theorem Stashed.toSameStates [Sha2] {directory : RealPath} {source : Bundle → Prop}
    {before after : World} (stashed : Stashed directory source before after) :
    before.SameStates after := by
  refine ⟨fun stateDir => ?_, stashed.replacements⟩
  rcases stashed.contents (descriptorPlace stateDir) with same | ⟨bytes, _, place, _⟩
  · rw [Disk.states, same]
    rfl
  · exact absurd place (descriptorPlace_ne_snapshot _ _ _)

theorem Stashed.of_sameDisk [Sha2] {directory : RealPath} {source : Bundle → Prop}
    {before after : World} (same : before.SameDisk after) :
    Stashed directory source before after :=
  ⟨fun place => Or.inl (by rw [same.disk]), same.replacements⟩

theorem Stashed.of_stored [Sha2] {os : Os} {store : StateStore} {source : Bundle → Prop}
    {bytes : Bytes} {before after : World} (canonical : Canonical source bytes)
    (stored : World.Stored (os.locate (store.snapshotPath bytes)) bytes before after) :
    Stashed (os.realpath store.generations) source before after := by
  refine ⟨fun place => ?_, stored.replacements⟩
  by_cases here : place = os.locate (store.snapshotPath bytes)
  · refine Or.inr ⟨bytes, canonical, ?_, ?_⟩
    · rw [here, snapshotPath, Os.locate_child]
    · rw [here]
      exact stored.present
  · exact Or.inl (stored.elsewhere place here)

theorem Stashed.trans [Sha2] {directory : RealPath} {source : Bundle → Prop}
    {first second third : World} (earlier : Stashed directory source first second)
    (later : Stashed directory source second third) :
    Stashed directory source first third := by
  refine ⟨fun place => ?_, later.replacements.trans earlier.replacements⟩
  rcases later.contents place with same | written
  · rcases earlier.contents place with before | ⟨bytes, canonical, name, held⟩
    · exact Or.inl (same.trans before)
    · refine Or.inr ⟨bytes, canonical, name, ?_⟩
      rw [Disk.files, same]
      exact held
  · exact Or.inr written

theorem Stashed.mono [Sha2] {directory : RealPath} {source source' : Bundle → Prop}
    {before after : World} (included : ∀ bundle, source bundle → source' bundle)
    (stashed : Stashed directory source before after) :
    Stashed directory source' before after := by
  refine ⟨fun place => ?_, stashed.replacements⟩
  rcases stashed.contents place with same | ⟨bytes, ⟨bundle, own, serialized⟩, written⟩
  · exact Or.inl same
  · exact Or.inr ⟨bytes, ⟨bundle, included bundle own, serialized⟩, written⟩

/-- The path is where the canonical form of the bundle belongs, and the file
there is a canonical form with that digest. -/
def Snapshotted [Sha2] (os : Os) (store : StateStore) (source : Bundle → Prop) (disk : Disk)
    (path : PathBuf) (bundle : Bundle) : Prop :=
  ∃ bytes contents, bundle.toBytes = .ok bytes ∧ path = store.snapshotPath bytes ∧
    disk.files (os.locate path) = some contents ∧ Canonical source contents ∧
      Sha2.sha256 contents = Sha2.sha256 bytes

theorem Snapshotted.later [Sha2] {os : Os} {store : StateStore} {source : Bundle → Prop}
    {before after : World} {path : PathBuf} {bundle : Bundle}
    (snapshotted : Snapshotted os store source before.disk path bundle)
    (stashed : Stashed (os.realpath store.generations) source before after) :
    Snapshotted os store source after.disk path bundle := by
  obtain ⟨bytes, contents, serialized, rfl, held, canonical, digest⟩ := snapshotted
  rcases stashed.files (os.locate (store.snapshotPath bytes)) with same | ⟨new, own, place, stored⟩
  · exact ⟨bytes, contents, serialized, rfl, same.trans held, canonical, digest⟩
  · have sameName : snapshotName bytes = snapshotName new := by
      rw [snapshotPath, Os.locate_child] at place
      simpa using place
    exact ⟨bytes, new, serialized, rfl, stored, own, (snapshotName_inj sameName).symm⟩

/-! ### Commit -/

def written (os : Os) (candidate : StateStore) (world : World) : World :=
  world.tick.putState (os.locate candidate.path) candidate.state

def committed (os : Os) (store candidate : StateStore) (world : World) : World :=
  { written os candidate world with
    disk := collectGarbage os store.generations candidate.state.activeBundles
      (written os candidate world).disk }

theorem ensures_commit {os : Os} {store candidate : StateStore} {world : World}
    {onOk : Unit → StateStore × World → Prop}
    {onError : CoreError → StateStore × World → Prop}
    (durable : os.writeOutcome world.calls candidate.path = .durable →
      onOk () (store.withState candidate.state, committed os store candidate world))
    (failed : ∀ error, (∀ path, ¬ error.IndeterminateAt path) → onError error (store, world.tick))
    (uncertain : ∀ ioError reason,
      os.writeOutcome world.calls candidate.path = .directoryNotSynced ioError →
        onError (.durabilityUncertain candidate.path reason) (store, written os candidate world)) :
    Ensures (commit os candidate) (store, world) onOk onError := by
  unfold commit persist writeState
  simp only [ensures_bind, ensures_onShared, ensures_assign, ensures_modify]
  refine ensures_writeAtomic ?_ failed uncertain
  intro _ result
  exact durable result

theorem isObsolete_eq_true {os : Os} {directory : PathBuf}
    {active : HashMap String PathBuf} {place : RealPath} :
    isObsolete os directory active place = true ↔
      ∃ name, place = os.realpath directory ++ [name] ∧ isGenerated name = true ∧
        (∀ label, active.lookup label ≠ some (directory.child name)) ∧
          os.removable place = true := by
  unfold isObsolete
  rcases List.eq_nil_or_concat place with rfl | ⟨front, name, rfl⟩
  · simp
  · rw [List.concat_eq_append, List.getLast?_concat]
    simp only [List.dropLast_concat, decide_eq_true_eq, List.all_eq_true]
    constructor
    · rintro ⟨rfl, generated, unreferenced, removable⟩
      refine ⟨name, rfl, generated, ?_, removable⟩
      intro label referenced
      exact unreferenced ⟨label, _⟩ (AList.mem_lookup_iff.mp referenced) rfl
    · rintro ⟨name', same, generated, unreferenced, removable⟩
      obtain ⟨rfl, last⟩ := List.append_inj' same rfl
      cases last
      refine ⟨rfl, generated, ?_, removable⟩
      rintro ⟨label, path⟩ listed rfl
      exact unreferenced label (AList.mem_lookup_iff.mpr listed)

/-- Collection takes what the new descriptor does not reference in the
collector's spelling; the descriptor apart, everything else is as before. -/
theorem committed_contents {os : Os} {store candidate : StateStore} {world : World}
    {place : RealPath} (elsewhere : place ≠ os.locate candidate.path)
    (kept : isObsolete os store.generations candidate.state.activeBundles place = false) :
    (committed os store candidate world).disk.contents place = world.disk.contents place := by
  have unwritten : (written os candidate world).disk.contents place = world.disk.contents place :=
    Function.update_of_ne elsewhere _ _
  unfold committed collectGarbage
  dsimp only
  split
  · simp only [kept, Bool.false_eq_true, if_false]
    exact unwritten
  · exact unwritten

theorem committed_files {os : Os} {store candidate : StateStore} {world : World}
    (listable : os.listable (os.realpath store.generations) = true) {place : RealPath}
    (elsewhere : place ≠ os.locate candidate.path) :
    (committed os store candidate world).disk.files place =
      if isObsolete os store.generations candidate.state.activeBundles place then none
      else world.disk.files place := by
  split
  · rename_i obsolete
    unfold committed collectGarbage Disk.files
    rw [if_pos listable]
    simp [obsolete]
  · rename_i kept
    unfold Disk.files
    rw [committed_contents elsewhere (Bool.eq_false_iff.mpr kept)]

theorem committed_files_referenced {os : Os} {store candidate : StateStore} {world : World}
    {label name : String} (elsewhere : os.locate (store.generations.child name) ≠
      os.locate candidate.path)
    (referenced : candidate.state.activeBundles.lookup label =
      some (store.generations.child name)) :
    (committed os store candidate world).disk.files (os.locate (store.generations.child name)) =
      world.disk.files (os.locate (store.generations.child name)) := by
  unfold Disk.files
  rw [committed_contents elsewhere]
  refine Bool.eq_false_iff.mpr fun obsolete => ?_
  obtain ⟨name', place, _, unreferenced, _⟩ := isObsolete_eq_true.mp obsolete
  rw [Os.locate_child] at place
  obtain rfl : name = name' := by simpa using place
  exact unreferenced label referenced

theorem collectGarbage_descriptor (os : Os) (generations : PathBuf)
    (active : HashMap String PathBuf) (disk : Disk) (directory : RealPath) :
    (collectGarbage os generations active disk).contents (descriptorPlace directory) =
      disk.contents (descriptorPlace directory) := by
  have kept : isObsolete os generations active (descriptorPlace directory) = false := by
    have plain : isGenerated "state.json" = false := by decide
    simp [isObsolete, descriptorPlace, plain]
  unfold collectGarbage
  split
  · simp only [kept, Bool.false_eq_true, if_false]
  · rfl

@[simp] theorem written_states (os : Os) (candidate : StateStore) (world : World) :
    (written os candidate world).disk.states (os.locate candidate.path) =
      some (.parsed candidate.state) := by
  unfold written World.putState Disk.states
  dsimp only
  rw [Function.update_self]
  rfl

theorem committed_states {os : Os} {store candidate : StateStore} {world : World}
    {directory : RealPath} (place : os.locate candidate.path = descriptorPlace directory) :
    (committed os store candidate world).disk.states (descriptorPlace directory) =
      some (.parsed candidate.state) := by
  unfold committed Disk.states
  dsimp only
  rw [collectGarbage_descriptor, ← place]
  exact written_states os candidate world

end StateStore

end Hoike
