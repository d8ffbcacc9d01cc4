/-
How far the mark of a scope can climb (`state.rs`, `MAX_EPOCH_JUMP`).

The limit on a jump is checked for each scope against the marks before the
bundle is recorded, so a bundle that repeats a scope still raises its mark by
one jump at most.  A run therefore spends one jump per accepted bundle, and
until the budget is spent the next epoch stays available.
-/

import Hoike.Core.Durability

namespace Hoike

open Ahu

theorem toNat_add_jump {epoch mark : UInt64} (above : mark ≤ epoch) :
    mark.toNat + (epoch - mark).toNat = epoch.toNat := by
  have below := UInt64.le_iff_toNat_le.mp above
  rw [UInt64.toNat_sub_of_le _ _ above]
  omega

section Checks

def Bundle.Names (bundle : Bundle) (id : ScopeId) (epoch : UInt64) : Prop :=
  ∀ scope ∈ bundle.manifest.caScopes, CaScope.id bundle scope = id ∧ scope.epoch = epoch

variable [Sha2]

theorem StateStore.checkRollback_of_next {store : StateStore} {bundle : Bundle} {id : ScopeId}
    {mark : UInt64}
    (recorded : store.state.highWaterMarks.lookup (PersistedState.scopeKey id) = some mark)
    (room : mark.toNat + 1 < 2 ^ 64) (names : Bundle.Names bundle id (mark + 1)) :
    store.checkRollback bundle = .ok () := by
  have next : (mark + 1).toNat = mark.toNat + 1 := by
    rw [UInt64.toNat_add]
    exact Nat.mod_eq_of_lt room
  refine Except.forM_eq_ok.mpr fun scope member => ?_
  obtain ⟨rfl, epoch⟩ := names scope member
  refine StateStore.checkRollbackScope_eq_ok.mpr fun highWater found => ?_
  obtain rfl : mark = highWater := Option.some.inj (recorded.symm.trans found)
  rw [epoch]
  have above : mark ≤ mark + 1 := UInt64.le_iff_toNat_le.mpr (by omega)
  refine ⟨above, ?_, ?_⟩
  · intro same
    have equal := congrArg UInt64.toNat same
    omega
  · have jump := toNat_add_jump above
    refine UInt64.le_iff_toNat_le.mpr ?_
    change _ ≤ 10000
    omega

theorem StateStore.checkContinuity_of_recorded {store : StateStore} {bundle : Bundle}
    {id : ScopeId} {epoch : UInt64} (names : Bundle.Names bundle id epoch)
    (previous : bundle.manifest.continuity.prevManifestDigest = none ∨
      bundle.manifest.continuity.prevManifestDigest =
        store.state.digestAt (PersistedState.scopeKey id)) :
    store.checkContinuity bundle = .ok () := by
  unfold StateStore.checkContinuity
  cases named : bundle.manifest.continuity.prevManifestDigest with
  | none =>
      rfl
  | some digest =>
      rw [named] at previous
      rcases previous with impossible | recorded
      · cases impossible
      · refine Except.forM_eq_ok.mpr fun scope member => ?_
        obtain ⟨rfl, _⟩ := names scope member
        unfold StateStore.checkContinuityScope
        have found : store.getManifestDigest bundle.manifest.producerId
            (Bytes.encodeHex scope.issuerKeyHash) = some digest := recorded.symm
        simp only [found]
        exact Except.require_eq_ok.mpr (by simp)

end Checks

/-! ### Whole runs -/

section Runs

variable [Sha2] [Ciborium] [Pki]

/-- A recorded scope spends one jump per accepted bundle.  The run starts from
any readable descriptor; its writes all succeed or fail before the rename.  The
jump is subtracted without a borrow, for accepted and refused bundles alike, and
while the budget is not used up the next epoch passes both checks.  The state is
the one on disk unless a bundle was published onto the descriptor, and then no
other is. -/
theorem epoch_budget {directory : RealPath} {start : System} {state : PersistedState}
    (stopped : start.server = none) (readable : start.committed directory = some state)
    (earlier later : List Action)
    (certain : ∀ action ∈ earlier ++ later, action.CertainDescriptor) {id : ScopeId}
    {mark : UInt64}
    (recorded : (start.run directory earlier).committedMark directory id = some mark) :
    (∀ (store : StateStore) (bundle : Bundle), ∀ scope ∈ bundle.manifest.caScopes,
      ∀ highWater, store.getHighWater bundle.manifest.producerId
          (Bytes.encodeHex scope.issuerKeyHash) = some highWater →
        highWater ≤ scope.epoch →
          highWater.toNat + (scope.epoch - highWater).toNat = scope.epoch.toNat) ∧
    ∃ fresh state' mark',
      (start.run directory (earlier ++ later)).accepted =
        (start.run directory earlier).accepted ++ fresh ∧
      (∀ found, (start.run directory (earlier ++ later)).committed directory = some found →
        found = state') ∧
      ((∀ action ∈ later, ¬ action.OverwritesDescriptor directory) →
        (start.run directory (earlier ++ later)).committed directory = some state') ∧
      state'.highWaterMarks.lookup (PersistedState.scopeKey id) = some mark' ∧
      mark'.toNat ≤ mark.toNat + fresh.length * maxEpochJump.toNat ∧
      (mark.toNat + fresh.length * maxEpochJump.toNat < 2 ^ 64 - 1 →
        (mark' + 1).toNat = mark'.toNat + 1 ∧
        ∀ (store : StateStore) (bundle : Bundle), store.state = state' →
          Bundle.Names bundle id (mark' + 1) →
          (bundle.manifest.continuity.prevManifestDigest = none ∨
            bundle.manifest.continuity.prevManifestDigest =
              state'.digestAt (PersistedState.scopeKey id)) →
          store.checkRollback bundle = .ok () ∧ store.checkContinuity bundle = .ok ()) := by
  refine ⟨fun _ _ _ _ _ _ above => toNat_add_jump above, ?_⟩
  have initial : start.Consistent directory state := .of_stopped stopped readable
  obtain ⟨middle, _, first⟩ := System.run_advance earlier initial
    (fun action member => certain action (List.mem_append_left _ member))
  obtain ⟨state', fresh, second⟩ := System.run_advance later first.consistent
    (fun action member => certain action (List.mem_append_right _ member))
  have whole : start.run directory (earlier ++ later) =
      (start.run directory earlier).run directory later := List.foldl_append
  obtain ⟨found, present, marked⟩ := Option.bind_eq_some_iff.mp recorded
  obtain rfl := first.consistent.descriptor found present
  obtain ⟨epoch, digest, reached, _, bound⟩ := second.climb.mark_le
    (PersistedState.ledger_eq_some.mpr ⟨mark, marked, rfl, rfl⟩)
  rw [List.length_map] at bound
  obtain ⟨mark', found', rfl, _⟩ := PersistedState.ledger_eq_some.mp reached
  rw [whole]
  refine ⟨fresh, state', mark', second.accepted, second.consistent.descriptor, ?_, found', bound,
    ?_⟩
  · intro apart
    refine second.standing (by rw [present]; rfl) ?_
    rintro ⟨action, member, overwrites⟩
    exact apart action member overwrites
  intro budget
  have room : mark'.toNat + 1 < 2 ^ 64 := by omega
  refine ⟨?_, ?_⟩
  · rw [UInt64.toNat_add]
    exact Nat.mod_eq_of_lt room
  · rintro store bundle rfl names previous
    exact ⟨StateStore.checkRollback_of_next found' room names,
      StateStore.checkContinuity_of_recorded names previous⟩

end Runs

/-! ### A demo server and its budget -/

section DemoBudget

local instance budgetSha2 : Sha2 := Crates.sha2
local instance budgetCiborium : Ciborium := Crates.ciborium
local instance budgetPki : Pki := Crates.pki []

/-- The second generation of the demo run stays within one jump of the first. -/
theorem demo_epoch_budget :
    ∃ mark, (initializedSystem.run ["w", "state"] (firstLoad ++ secondLoad)).committedMark
        ["w", "state"] demoScope = some mark ∧
      mark.toNat ≤ 5 + 1 * 10000 ∧ (mark + 1).toNat = mark.toNat + 1 := by
  have accepted : (initializedSystem.run ["w", "state"] firstLoad).accepted.length = 1 ∧
      (initializedSystem.run ["w", "state"] (firstLoad ++ secondLoad)).accepted.length = 2 := by
    decide +kernel
  have firstMark : (initializedSystem.run ["w", "state"] firstLoad).committedMark
      ["w", "state"] demoScope = some 5 := by
    decide +kernel
  obtain ⟨_, fresh, state, mark, grown, _, standing, present, bound, next⟩ :=
    epoch_budget rfl initializedSystem_initialized.committed firstLoad secondLoad
      demo_run_certain firstMark
  have committed := standing (by simp [secondLoad, publishDemo, Action.OverwritesDescriptor])
  have one : fresh.length = 1 := by
    rw [grown, List.length_append, accepted.1] at accepted
    omega
  rw [one] at bound next
  refine ⟨mark, ?_, bound, (next (by decide)).1⟩
  unfold System.committedMark
  rw [committed]
  exact present

def publishScope (issuer : UInt8) (epoch : UInt64) : Action :=
  .environment fun place =>
    if place = ["w", "bundles", "a.ahu"] then
      some (Crates.plainFile
        (Crates.plainManifest "p" [Crates.plainScope issuer epoch] none) [])
    else none

/-- A server that serves another scope records the demo scope by a reload whose
descriptor write is left indeterminate. -/
def uncertainReload : List Action :=
  [publishScope 0xbb 5, .start (Os.faultless 1800000000) demoConfig, publishScope 0xaa 6,
    .reload (Os.unsyncedDescriptor 1800000000 100)]

def poisonedReload : List Action :=
  [publishScope 0xaa 0xffffffffffffffff, .reload (Os.faultless 1800000000)]

/-- The server does not remember the record, so that one further bundle takes
the last epoch of the scope. -/
theorem poisoned_epoch_exhausts_scope :
    (initializedSystem.run ["w", "state"] uncertainReload).committedMark
        ["w", "state"] demoScope = some 6 ∧
      (initializedSystem.run ["w", "state"] (uncertainReload ++ poisonedReload)).committedMark
        ["w", "state"] demoScope = some 0xffffffffffffffff ∧
      (initializedSystem.run ["w", "state"] (uncertainReload ++ poisonedReload)).accepted.length =
        (initializedSystem.run ["w", "state"] uncertainReload).accepted.length + 1 := by
  decide +kernel

end DemoBudget

end Hoike
