/-
Materializing a chain of deltas (`ops.rs`).

`applySealed` checks each delta against its base and its predecessor, folds its
records into a working set ordered like the index, and writes the working set
as a full bundle.  The working set remembers the validity window of the bundle
that each payload came from.
-/

import Mathlib.Data.Finset.Dedup
import Hoike.Ahu.Builder

namespace Hoike
namespace Ahu

structure DeltaStat where
  added : Nat
  replaced : Nat
  removed : Nat
  chainLengthWarning : Bool
deriving DecidableEq, Repr

structure ApplyResult where
  bytes : Bytes
  entryCount : Nat
  finalEpoch : UInt64
  deltas : List DeltaStat
deriving DecidableEq, Repr

def maxChainLength : UInt64 := 24

structure RetainedEntry where
  data : Bytes
  flags : IndexFlags
  window : Window
deriving DecidableEq, Repr

abbrev WorkingSet := Std.TreeMap EntryRef RetainedEntry

def retainedEntry (bundle : Bundle) (record : IndexRecord) (data : Bytes) : RetainedEntry :=
  { data := data
    flags := record.flags
    window := bundle.manifest.window }

/-! ### Folding records into the working set -/

def retainBase (base : Bundle) : WorkingSet :=
  base.index.foldl (fun workingSet record =>
    match base.entryBytes record with
    | some data => workingSet.insert record.reference (retainedEntry base record data)
    | none => workingSet) ∅

/-- The working set and the counters of one delta. -/
structure Tally where
  workingSet : WorkingSet
  added : Nat
  replaced : Nat
  removed : Nat

def Tally.start (workingSet : WorkingSet) : Tally :=
  { workingSet := workingSet
    added := 0
    replaced := 0
    removed := 0 }

/-- A tombstone of an absent key changes nothing and is not counted. -/
def Tally.applyRecord (delta : Bundle) (tally : Tally) (record : IndexRecord) : Tally :=
  let present := tally.workingSet.contains record.reference
  if record.isTombstone then
    { tally with
      workingSet := tally.workingSet.erase record.reference
      removed := if present then tally.removed + 1 else tally.removed }
  else
    match delta.entryBytes record with
    | none => tally
    | some data =>
        { tally with
          workingSet :=
            tally.workingSet.insert record.reference (retainedEntry delta record data)
          replaced := if present then tally.replaced + 1 else tally.replaced
          added := if present then tally.added else tally.added + 1 }

def applyRecords (delta : Bundle) (workingSet : WorkingSet) : Tally :=
  delta.index.foldl (Tally.applyRecord delta) (.start workingSet)

/-! ### Checking the chain -/

/-- What the loop over the deltas carries along. -/
structure Progress where
  workingSet : WorkingSet
  prevManifestDigest : Octets 32
  maxEpoch : UInt64
  stats : List DeltaStat

/-- `Ord::max` and `Ord::min` on `u64`. -/
def maxU64 (left right : UInt64) : UInt64 :=
  if left ≤ right then right else left

def minU64 (left right : UInt64) : UInt64 :=
  if left ≤ right then left else right

theorem maxU64_spec (left right : UInt64) :
    left ≤ maxU64 left right ∧ right ≤ maxU64 left right ∧
      (maxU64 left right = left ∨ maxU64 left right = right) := by
  unfold maxU64
  split_ifs with below
  · exact ⟨below, UInt64.le_refl _, Or.inr rfl⟩
  · exact ⟨UInt64.le_refl _, (UInt64.le_total left right).resolve_left below, Or.inl rfl⟩

theorem minU64_spec (left right : UInt64) :
    minU64 left right ≤ left ∧ minU64 left right ≤ right ∧
      (minU64 left right = left ∨ minU64 left right = right) := by
  unfold minU64
  split_ifs with below
  · exact ⟨UInt64.le_refl _, below, Or.inl rfl⟩
  · exact ⟨(UInt64.le_total left right).resolve_left below, UInt64.le_refl _, Or.inr rfl⟩

theorem toNat_minU64 (left right : UInt64) :
    (minU64 left right).toNat = min left.toNat right.toNat := by
  unfold minU64
  simp only [UInt64.le_iff_toNat_le]
  split_ifs <;> omega

def foldEpochs (start : UInt64) (scopes : List CaScope) : UInt64 :=
  scopes.foldl (fun epoch scope => maxU64 epoch scope.epoch) start

def scopeKeys (bundle : Bundle) : Finset (Bytes × Bytes × Bytes) :=
  (bundle.manifest.caScopes.map fun scope =>
    (scope.hashAlgorithm, scope.issuerNameHash, scope.issuerKeyHash)).toFinset

section Chain

variable [Sha2]

def Progress.start (base : Bundle) : Progress :=
  { workingSet := retainBase base
    prevManifestDigest := manifestDigest base.manifestBytes
    maxEpoch := foldEpochs 0 base.manifest.caScopes
    stats := [] }

def Progress.advance (progress : Progress) (delta : Bundle) : Progress :=
  let tally := applyRecords delta progress.workingSet
  { workingSet := tally.workingSet
    prevManifestDigest := manifestDigest delta.manifestBytes
    maxEpoch := foldEpochs progress.maxEpoch delta.manifest.caScopes
    stats := progress.stats ++
      [{ added := tally.added
         replaced := tally.replaced
         removed := tally.removed
         chainLengthWarning := maxChainLength < delta.manifest.continuity.chainLength }] }

/-- A delta without a predecessor digest is not checked against the chain. -/
def checkPredecessor (position : Nat) (expected : Octets 32) (delta : Bundle) :
    Except AhuError Unit :=
  match delta.manifest.continuity.prevManifestDigest with
  | none => .ok ()
  | some digest =>
      Except.require (digest = expected) (.invalidOperation
        (s!"delta {position} prev_manifest_digest chain broken (expected " ++
          s!"{Bytes.encodeHex expected.val}, got {Bytes.encodeHex digest.val})"))

variable [Ciborium]

def applyDelta (base : Bundle) (position : Nat) (progress : Progress) (delta : Bundle) :
    Except AhuError Progress := do
  Except.require (delta.manifest.bundleType = .delta) (.invalidOperation
    s!"delta {position} is a full bundle, expected a delta")
  let _ ← verifyStructure delta
  Except.require (delta.manifest.continuity.baseManifestDigest =
      some (manifestDigest base.manifestBytes)) (.invalidOperation
    s!"delta {position} base_manifest_digest does not match base bundle")
  Except.require (delta.manifest.producerId = base.manifest.producerId ∧
      scopeKeys delta = scopeKeys base) (.invalidOperation
    s!"delta {position} producer/CA scopes do not match base")
  checkPredecessor position progress.prevManifestDigest delta
  return progress.advance delta

/-- Positions in messages start at one. -/
def applyDeltas (base : Bundle) :
    (position : Nat) → Progress → List Bundle → Except AhuError Progress
  | _, progress, [] => .ok progress
  | position, progress, delta :: rest => do
      let next ← applyDelta base position progress delta
      applyDeltas base (position + 1) next rest

end Chain

/-! ### The output manifest -/

def Window.inconsistent (window : Window) : Bool :=
  window.nextUpdateMin < window.thisUpdateMin || window.nextUpdateMax < window.nextUpdateMin

def minOver (field : Window → UInt64) (first : Window) (rest : List Window) : UInt64 :=
  rest.foldl (fun bound window => minU64 bound (field window)) (field first)

def maxOver (field : Window → UInt64) (first : Window) (rest : List Window) : UInt64 :=
  rest.foldl (fun bound window => maxU64 bound (field window)) (field first)

/-- The validity window for the retained payloads.  Without any the window of
the base is kept. -/
def materializedWindow (window : Window) : List Window → Except AhuError Window
  | [] => .ok window
  | first :: rest => do
      Except.require (¬ (first :: rest).any Window.inconsistent)
        (.invalidOperation "inconsistent source validity window")
      let producedAt := maxOver Window.producedAt first rest
      let expires := minOver Window.nextUpdateMin first rest
      Except.require (producedAt < expires)
        (.invalidOperation "retained response validity windows do not overlap")
      return {
        producedAt := producedAt
        thisUpdateMin := minOver Window.thisUpdateMin first rest
        nextUpdateMin := expires
        nextUpdateMax := expires }

def checkedEpoch (maxEpoch : UInt64) : Except AhuError UInt64 :=
  checkedAdd maxEpoch 1 "epoch exhausted"

def materializedManifest (manifest : Manifest) (prevManifestDigest : Octets 32)
    (finalEpoch : UInt64) (window : Window) : Manifest :=
  { manifest with
    bundleType := .full
    caScopes := manifest.caScopes.map fun scope => { scope with epoch := finalEpoch }
    window := window
    continuity :=
      { prevManifestDigest := some prevManifestDigest
        baseManifestDigest := none
        chainLength := 0 } }

def materializedBuilder (manifest : Manifest) (workingSet : WorkingSet) : BundleBuilder :=
  workingSet.toList.foldl (fun builder item =>
      builder.addEntryWithDiscriminator item.1.entryKey item.1.discriminator item.2.data)
    (.new manifest)

section Apply

variable [Sha2] [Ciborium]

def applySealed (base : Bundle) (deltas : List Bundle)
    (sealFn : Bytes → Except AhuError Bytes) : Except AhuError ApplyResult := do
  let _ ← verifyStructure base
  Except.require (base.manifest.bundleType = .full)
    (.invalidOperation "base bundle must be a full bundle, not a delta")
  let progress ← applyDeltas base 1 (.start base) deltas
  let finalEpoch ← checkedEpoch progress.maxEpoch
  let window ← materializedWindow base.manifest.window
    (progress.workingSet.toList.map fun item => item.2.window)
  let manifest := materializedManifest base.manifest progress.prevManifestDigest finalEpoch window
  let bytes ← (materializedBuilder manifest progress.workingSet).build sealFn
  return {
    bytes := bytes
    entryCount := progress.workingSet.size
    finalEpoch := finalEpoch
    deltas := progress.stats }

def apply (base : Bundle) (deltas : List Bundle) : Except AhuError ApplyResult :=
  applySealed base deltas fun _ => .ok []

/-! ### Acceptance -/

/-- The checks a delta has to pass behind an input with this manifest digest. -/
structure Follows (base : Bundle) (expected : Octets 32) (delta : Bundle) : Prop where
  isDelta : delta.manifest.bundleType = .delta
  verifies : ∃ result, verifyStructure delta = .ok result
  onBase : delta.manifest.continuity.baseManifestDigest = some (manifestDigest base.manifestBytes)
  sameScopes : delta.manifest.producerId = base.manifest.producerId ∧
    scopeKeys delta = scopeKeys base
  linked : ∀ digest, delta.manifest.continuity.prevManifestDigest = some digest →
    digest = expected

def Chained (base : Bundle) : (expected : Octets 32) → List Bundle → Prop
  | _, [] => True
  | expected, delta :: rest =>
      Follows base expected delta ∧ Chained base (manifestDigest delta.manifestBytes) rest

omit [Sha2] [Ciborium] in
theorem checkPredecessor_eq_ok {position : Nat} {expected : Octets 32} {delta : Bundle} :
    checkPredecessor position expected delta = .ok () ↔
      ∀ digest, delta.manifest.continuity.prevManifestDigest = some digest →
        digest = expected := by
  unfold checkPredecessor
  cases delta.manifest.continuity.prevManifestDigest with
  | none =>
      simp
  | some digest =>
      simp only [Except.require_eq_ok, Option.some.injEq, forall_eq']

theorem applyDelta_eq_ok {base delta : Bundle} {position : Nat} {progress next : Progress} :
    applyDelta base position progress delta = .ok next ↔
      Follows base progress.prevManifestDigest delta ∧ next = progress.advance delta := by
  constructor
  · intro accepted
    unfold applyDelta at accepted
    obtain ⟨_, isDelta, accepted⟩ := Except.bind_eq_ok.mp accepted
    obtain ⟨report, verifies, accepted⟩ := Except.bind_eq_ok.mp accepted
    obtain ⟨_, onBase, accepted⟩ := Except.bind_eq_ok.mp accepted
    obtain ⟨_, sameScopes, accepted⟩ := Except.bind_eq_ok.mp accepted
    obtain ⟨_, linked, accepted⟩ := Except.bind_eq_ok.mp accepted
    exact ⟨
      { isDelta := Except.require_eq_ok.mp isDelta
        verifies := ⟨report, verifies⟩
        onBase := Except.require_eq_ok.mp onBase
        sameScopes := Except.require_eq_ok.mp sameScopes
        linked := checkPredecessor_eq_ok.mp linked },
      (Except.ok.inj accepted).symm⟩
  · intro both
    obtain ⟨follows, same⟩ := both
    obtain ⟨report, verifies⟩ := follows.verifies
    unfold applyDelta
    refine Except.bind_eq_ok.mpr ⟨(), Except.require_eq_ok.mpr follows.isDelta, ?_⟩
    refine Except.bind_eq_ok.mpr ⟨report, verifies, ?_⟩
    refine Except.bind_eq_ok.mpr ⟨(), Except.require_eq_ok.mpr follows.onBase, ?_⟩
    refine Except.bind_eq_ok.mpr ⟨(), Except.require_eq_ok.mpr follows.sameScopes, ?_⟩
    refine Except.bind_eq_ok.mpr ⟨(), checkPredecessor_eq_ok.mpr follows.linked, ?_⟩
    rw [same]
    rfl

theorem applyDeltas_eq_ok {base : Bundle} {deltas : List Bundle} :
    ∀ {position : Nat} {progress final : Progress},
      applyDeltas base position progress deltas = .ok final ↔
        Chained base progress.prevManifestDigest deltas ∧
          final = deltas.foldl Progress.advance progress := by
  induction deltas with
  | nil =>
      intro position progress final
      unfold applyDeltas Chained
      rw [Except.ok.injEq, true_and, eq_comm]
      rfl
  | cons delta rest ih =>
      intro position progress final
      change (applyDelta base position progress delta >>= fun next =>
        applyDeltas base (position + 1) next rest) = _ ↔ _
      rw [Except.bind_eq_ok, List.foldl_cons]
      constructor
      · intro accepted
        obtain ⟨next, first, others⟩ := accepted
        obtain ⟨follows, same⟩ := applyDelta_eq_ok.mp first
        subst same
        obtain ⟨chained, folded⟩ := ih.mp others
        exact ⟨⟨follows, chained⟩, folded⟩
      · intro both
        obtain ⟨⟨follows, chained⟩, folded⟩ := both
        exact ⟨progress.advance delta, applyDelta_eq_ok.mpr ⟨follows, rfl⟩,
          ih.mpr ⟨chained, folded⟩⟩

def Progress.finish (base : Bundle) (deltas : List Bundle) : Progress :=
  deltas.foldl Progress.advance (.start base)

def Progress.windows (progress : Progress) : List Window :=
  progress.workingSet.toList.map fun item => item.2.window

/-- A run of `applySealed` that succeeds, step by step. -/
structure Applied (base : Bundle) (deltas : List Bundle)
    (sealFn : Bytes → Except AhuError Bytes) (result : ApplyResult) (window : Window) :
    Prop where
  verifies : ∃ report, verifyStructure base = .ok report
  isFull : base.manifest.bundleType = .full
  chained : Chained base (manifestDigest base.manifestBytes) deltas
  epoch : checkedEpoch (Progress.finish base deltas).maxEpoch = .ok result.finalEpoch
  windowed : materializedWindow base.manifest.window (Progress.finish base deltas).windows =
    .ok window
  built : (materializedBuilder (materializedManifest base.manifest
      (Progress.finish base deltas).prevManifestDigest result.finalEpoch window)
    (Progress.finish base deltas).workingSet).build sealFn = .ok result.bytes
  count : result.entryCount = (Progress.finish base deltas).workingSet.size
  stats : result.deltas = (Progress.finish base deltas).stats

theorem applySealed_eq_ok {base : Bundle} {deltas : List Bundle}
    {sealFn : Bytes → Except AhuError Bytes} {result : ApplyResult} :
    applySealed base deltas sealFn = .ok result ↔
      ∃ window, Applied base deltas sealFn result window := by
  constructor
  · intro accepted
    unfold applySealed at accepted
    obtain ⟨report, verifies, accepted⟩ := Except.bind_eq_ok.mp accepted
    obtain ⟨_, isFull, accepted⟩ := Except.bind_eq_ok.mp accepted
    obtain ⟨progress, applied, accepted⟩ := Except.bind_eq_ok.mp accepted
    obtain ⟨finalEpoch, epoch, accepted⟩ := Except.bind_eq_ok.mp accepted
    obtain ⟨window, windowed, accepted⟩ := Except.bind_eq_ok.mp accepted
    obtain ⟨bytes, built, accepted⟩ := Except.bind_eq_ok.mp accepted
    obtain ⟨chained, folded⟩ := applyDeltas_eq_ok.mp applied
    subst folded
    cases accepted
    exact ⟨window,
      { verifies := ⟨report, verifies⟩
        isFull := Except.require_eq_ok.mp isFull
        chained := chained
        epoch := epoch
        windowed := windowed
        built := built
        count := rfl
        stats := rfl }⟩
  · intro applied
    obtain ⟨window, applied⟩ := applied
    obtain ⟨report, verifies⟩ := applied.verifies
    unfold applySealed
    refine Except.bind_eq_ok.mpr ⟨report, verifies, ?_⟩
    refine Except.bind_eq_ok.mpr ⟨(), Except.require_eq_ok.mpr applied.isFull, ?_⟩
    refine Except.bind_eq_ok.mpr
      ⟨Progress.finish base deltas, applyDeltas_eq_ok.mpr ⟨applied.chained, rfl⟩, ?_⟩
    refine Except.bind_eq_ok.mpr ⟨result.finalEpoch, applied.epoch, ?_⟩
    refine Except.bind_eq_ok.mpr ⟨window, applied.windowed, ?_⟩
    refine Except.bind_eq_ok.mpr ⟨result.bytes, applied.built, ?_⟩
    rw [← applied.count, ← applied.stats]
    rfl

end Apply

end Ahu
end Hoike
