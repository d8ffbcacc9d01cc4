/-
When a descriptor may be opened.

Opening succeeds exactly when marks and digests come in pairs and every
referenced snapshot is present under its digest with its scopes covered by the
marks.  Recording bundles keeps the pairs and can only cover more.
-/

import Hoike.Core.Ledger

namespace Hoike

open Ahu

namespace PersistedState

/-! ### Pairs of marks and digests -/

/-- Every digest is 32 octets and belongs to a mark, and every mark has one. -/
structure Paired (state : PersistedState) : Prop where
  digests : ∀ key text, state.manifestDigests.lookup key = some text →
    (∃ digest, Bytes.decodeHex text = .ok digest ∧ digest.length = 32) ∧
      (state.highWaterMarks.lookup key).isSome
  marks : ∀ key mark, state.highWaterMarks.lookup key = some mark →
    (state.manifestDigests.lookup key).isSome

theorem paired_default : PersistedState.default.Paired := by
  constructor
  · intro key text impossible
    cases impossible
  · intro key mark impossible
    cases impossible

theorem Paired.of_sameMarks {before after : PersistedState} (paired : before.Paired)
    (same : before.SameMarks after) : after.Paired := by
  obtain ⟨digests, marks⟩ := paired
  constructor
  · rw [same.manifestDigests, same.highWaterMarks]
    exact digests
  · rw [same.manifestDigests, same.highWaterMarks]
    exact marks

theorem Paired.setMark {state : PersistedState} (paired : state.Paired) (key : String)
    (epoch : UInt64) (digest : Octets 32) : (StateStore.setMark state key epoch digest).Paired := by
  unfold StateStore.setMark
  constructor
  · intro other text found
    by_cases same : other = key
    · subst other
      rw [AList.lookup_insert] at found
      cases found
      rw [AList.lookup_insert]
      exact ⟨⟨digest.val, Bytes.decodeHex_encodeHex _, digest.property⟩, rfl⟩
    · rw [AList.lookup_insert_ne same] at found ⊢
      exact paired.digests other text found
  · intro other mark found
    by_cases same : other = key
    · subst other
      rw [AList.lookup_insert]
      rfl
    · rw [AList.lookup_insert_ne same] at found ⊢
      exact paired.marks other mark found

theorem Paired.recordBundle [Sha2] {state : PersistedState} (paired : state.Paired)
    (bundle : Bundle) : (state.recordBundle bundle).Paired := by
  unfold PersistedState.recordBundle
  generalize bundle.manifest.caScopes = scopes
  induction scopes generalizing state with
  | nil =>
      exact paired
  | cons scope rest ih =>
      refine ih ?_
      dsimp only [advanceMark]
      split
      · exact paired.setMark _ _ _
      · exact paired

/-! ### Covered bundles -/

def Holds (state : PersistedState) (bundle : Bundle) : Prop :=
  ∀ scope ∈ bundle.manifest.caScopes, ∃ mark,
    state.highWaterMarks.lookup (scopeKey (CaScope.id bundle scope)) = some mark ∧
      scope.epoch ≤ mark

theorem Holds.of_marksKept {before after : PersistedState} {bundle : Bundle}
    (holds : before.Holds bundle) (kept : before.MarksKept after) : after.Holds bundle := by
  intro scope member
  obtain ⟨mark, recorded, above⟩ := holds scope member
  obtain ⟨mark', found, higher⟩ := kept _ mark recorded
  exact ⟨mark', found, UInt64.le_trans above higher⟩

theorem holds_recordBundle [Sha2] {store : StateStore} {bundle : Bundle}
    (checked : store.checkRollback bundle = .ok ()) :
    (store.state.recordBundle bundle).Holds bundle := by
  intro scope member
  have claimed : (CaScope.id bundle scope, scope.epoch.toNat) ∈ (generation bundle).claims :=
    mem_claims.mpr ⟨scope, member, rfl, rfl⟩
  obtain ⟨epoch, digest, recorded, below, _⟩ :=
    (StateStore.admits_of_checkRollback checked).covers_record _ _ claimed
  rw [← ledger_recordBundle] at recorded
  obtain ⟨mark, found, rfl, _⟩ := ledger_eq_some.mp recorded
  exact ⟨mark, found, UInt64.le_iff_toNat_le.mpr below⟩

theorem marksKept_recordBundle [Sha2] (state : PersistedState) (bundle : Bundle) :
    state.MarksKept (state.recordBundle bundle) := by
  refine .of_extends ?_
  rw [ledger_recordBundle]
  exact Watermark.extends_record _ _

end PersistedState

/-! ### Snapshots -/

variable [Sha2]

def NamedByDigest (path : PathBuf) (bytes : Bytes) : Prop :=
  ∃ name, path.fileName = some name ∧
    Bytes.decodeHex (fileStem name) = .ok (Sha2.sha256 bytes).val

theorem StateStore.namedByDigest_snapshotPath (store : StateStore) (bytes : Bytes) :
    NamedByDigest (store.snapshotPath bytes) bytes := by
  refine ⟨snapshotName bytes, fileName_snapshot _ _, ?_⟩
  rw [(fileParts_snapshotName bytes).1, Bytes.decodeHex_encodeHex]

variable [Ciborium]

/-- A referenced snapshot that opening accepts, with the bundle it holds. -/
structure SnapshotValid (os : Os) (disk : Disk) (state : PersistedState) (path : PathBuf)
    (bundle : Bundle) : Prop where
  contents : ∃ bytes, os.read disk path = .ok bytes ∧ NamedByDigest path bytes ∧
    Bundle.fromBytes bytes = .ok bundle
  holds : state.Holds bundle

theorem validateSnapshot_eq_ok {os : Os} {disk : Disk} {state : PersistedState}
    {label : String} {path : PathBuf} :
    validateSnapshot os disk state label path = .ok () ↔
      ∃ bundle, SnapshotValid os disk state path bundle := by
  unfold validateSnapshot
  simp only [Except.bind_eq_ok, Except.mapError_eq_ok]
  constructor
  · rintro ⟨bytes, contents, rest⟩
    cases named : path.fileName with
    | none =>
        rw [named] at rest
        cases rest
    | some name =>
        rw [named] at rest
        simp only [Except.bind_eq_ok, Except.mapError_eq_ok, Except.require_eq_ok] at rest
        obtain ⟨expected, decoded, _, same, bundle, parsed, covered⟩ := rest
        rw [← same] at decoded
        refine ⟨bundle, ⟨bytes, contents, ⟨name, named, decoded⟩, parsed⟩, ?_⟩
        intro scope member
        have checked := Except.forM_eq_ok.mp covered scope member
        unfold validateScope at checked
        obtain ⟨mark, found, above⟩ := (Option.any_eq_true _ _).mp (Except.require_eq_ok.mp checked)
        exact ⟨mark, found, of_decide_eq_true above⟩
  · rintro ⟨bundle, ⟨bytes, contents, ⟨name, named, decoded⟩, parsed⟩, holds⟩
    refine ⟨bytes, contents, ?_⟩
    rw [named]
    simp only [Except.bind_eq_ok, Except.mapError_eq_ok, Except.require_eq_ok]
    refine ⟨_, decoded, (), rfl, bundle, parsed, Except.forM_eq_ok.mpr ?_⟩
    intro scope member
    unfold validateScope
    obtain ⟨mark, found, above⟩ := holds scope member
    exact Except.require_eq_ok.mpr ((Option.any_eq_true _ _).mpr
      ⟨mark, found, decide_eq_true above⟩)

omit [Sha2] [Ciborium] in
theorem validateDigest_eq_ok {state : PersistedState} {path : PathBuf} {key text : String} :
    validateDigest state path key text = .ok () ↔
      (∃ digest, Bytes.decodeHex text = .ok digest ∧ digest.length = 32) ∧
        (state.highWaterMarks.lookup key).isSome := by
  unfold validateDigest
  simp only [Except.bind_eq_ok, Except.mapError_eq_ok, Except.require_eq_ok]
  constructor
  · rintro ⟨digest, decoded, _, size, present⟩
    exact ⟨⟨digest, decoded, size⟩, present⟩
  · rintro ⟨⟨digest, decoded, size⟩, present⟩
    exact ⟨digest, decoded, (), size, present⟩

omit [Sha2] [Ciborium] in
theorem validateMark_eq_ok {state : PersistedState} {path : PathBuf} {key : String} :
    validateMark state path key = .ok () ↔ (state.manifestDigests.lookup key).isSome := by
  unfold validateMark
  exact Except.require_eq_ok

theorem validatePersisted_eq_ok {os : Os} {disk : Disk} {state : PersistedState}
    {path : PathBuf} :
    validatePersisted os disk state path = .ok () ↔
      state.Paired ∧ ∀ label snapshot, state.activeBundles.lookup label = some snapshot →
        ∃ bundle, SnapshotValid os disk state snapshot bundle := by
  unfold validatePersisted
  simp only [Except.bind_eq_ok, Except.forM_eq_ok]
  constructor
  · rintro ⟨_, digests, _, marks, snapshots⟩
    refine ⟨⟨?_, ?_⟩, ?_⟩
    · intro key text found
      exact validateDigest_eq_ok.mp (digests ⟨key, text⟩ (AList.mem_lookup_iff.mp found))
    · intro key mark found
      exact validateMark_eq_ok.mp (marks ⟨key, mark⟩ (AList.mem_lookup_iff.mp found))
    · intro label snapshot found
      exact validateSnapshot_eq_ok.mp (snapshots ⟨label, snapshot⟩ (AList.mem_lookup_iff.mp found))
  · rintro ⟨paired, snapshots⟩
    refine ⟨⟨⟩, ?_, ⟨⟩, ?_, ?_⟩
    · rintro ⟨key, text⟩ listed
      exact validateDigest_eq_ok.mpr (paired.digests key text (AList.mem_lookup_iff.mpr listed))
    · rintro ⟨key, mark⟩ listed
      exact validateMark_eq_ok.mpr (paired.marks key mark (AList.mem_lookup_iff.mpr listed))
    · rintro ⟨label, snapshot⟩ listed
      exact validateSnapshot_eq_ok.mpr (snapshots label snapshot (AList.mem_lookup_iff.mpr listed))

/-- A store opens exactly on a decoded descriptor that passes these checks. -/
theorem StateStore.openExisting_eq_ok_iff {os : Os} {disk : Disk} {path : PathBuf}
    {store : StateStore} :
    StateStore.openExisting os disk path = .ok store ↔
      store.path = path ∧ store.staged = false ∧
        os.readState disk path = some (.parsed store.state) ∧ store.state.Paired ∧
          ∀ label snapshot, store.state.activeBundles.lookup label = some snapshot →
            ∃ bundle, SnapshotValid os disk store.state snapshot bundle := by
  rw [StateStore.openExisting_eq_ok, validatePersisted_eq_ok]

end Hoike
