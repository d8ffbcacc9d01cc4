/-
The store's marks and digests as a high-water ledger.

A scope is a producer together with an issuer key hash; the store files it
under one text key.  Seen per scope, the two checks admit and the staged
updates record exactly as `Watermark` says, so a chain of staged bundles is a
history of its generations.
-/

import Hoike.Library.Watermark
import Hoike.Core.LoadSpec

namespace Hoike

open Ahu

abbrev ScopeId := String × Bytes

namespace PersistedState

def scopeKey (id : ScopeId) : String :=
  makeKey id.1 (Bytes.encodeHex id.2)

/-- The colon cannot occur in the hexadecimal part, so the last colon of a key
separates the producer from the hash. -/
theorem scopeKey_injective : Function.Injective scopeKey := by
  rintro ⟨producer, hash⟩ ⟨producer', hash'⟩ same
  have split : producer.toList ++ ':' :: (Bytes.encodeHex hash).toList =
      producer'.toList ++ ':' :: (Bytes.encodeHex hash').toList := by
    simpa [scopeKey, makeKey, toString] using congrArg String.toList same
  have parts := Bytes.append_separator_encodeHex_injective (by decide) split
  exact Prod.ext parts.1 parts.2

def ledger (state : PersistedState) : Watermark.Ledger ScopeId ℕ (Option (Octets 32)) :=
  fun id => (state.highWaterMarks.lookup (scopeKey id)).map fun mark =>
    (mark.toNat, state.digestAt (scopeKey id))

theorem ledger_eq_some {state : PersistedState} {id : ScopeId} {epoch : ℕ}
    {digest : Option (Octets 32)} :
    state.ledger id = some (epoch, digest) ↔
      ∃ mark, state.highWaterMarks.lookup (scopeKey id) = some mark ∧ mark.toNat = epoch ∧
        state.digestAt (scopeKey id) = digest := by
  unfold ledger
  cases state.highWaterMarks.lookup (scopeKey id) <;> simp

theorem SameMarks.digestAt {before after : PersistedState} (same : before.SameMarks after)
    (key : String) : after.digestAt key = before.digestAt key := by
  unfold PersistedState.digestAt
  rw [same.manifestDigests]

theorem SameMarks.ledger {before after : PersistedState} (same : before.SameMarks after) :
    after.ledger = before.ledger := by
  funext id
  unfold PersistedState.ledger
  rw [same.highWaterMarks, same.digestAt]

/-- No mark of the earlier state is missing from the later one or lower there. -/
def MarksKept (earlier later : PersistedState) : Prop :=
  ∀ id mark, earlier.highWaterMarks.lookup (scopeKey id) = some mark →
    ∃ mark', later.highWaterMarks.lookup (scopeKey id) = some mark' ∧ mark ≤ mark'

theorem MarksKept.of_extends {earlier later : PersistedState}
    (grown : Watermark.Extends earlier.ledger later.ledger) : earlier.MarksKept later := by
  intro id mark recorded
  obtain ⟨epoch, digest, found, above, _⟩ := grown id mark.toNat _
    (ledger_eq_some.mpr ⟨mark, recorded, rfl, rfl⟩)
  obtain ⟨mark', present, rfl, _⟩ := ledger_eq_some.mp found
  exact ⟨mark', present, UInt64.le_iff_toNat_le.mpr above⟩

/-! ### Recording -/

theorem digestAt_setMark_self (state : PersistedState) (key : String) (epoch : UInt64)
    (digest : Octets 32) : (StateStore.setMark state key epoch digest).digestAt key =
      some digest := by
  unfold PersistedState.digestAt StateStore.setMark
  rw [AList.lookup_insert]
  simp [digest.property]

theorem digestAt_setMark_of_ne {state : PersistedState} {key other : String} {epoch : UInt64}
    {digest : Octets 32} (different : other ≠ key) :
    (StateStore.setMark state key epoch digest).digestAt other = state.digestAt other := by
  unfold PersistedState.digestAt StateStore.setMark
  rw [AList.lookup_insert_ne different]

theorem ledger_setMark (state : PersistedState) (id : ScopeId) (epoch : UInt64)
    (digest : Octets 32) :
    (StateStore.setMark state (scopeKey id) epoch digest).ledger =
      Function.update state.ledger id (some (epoch.toNat, some digest)) := by
  funext other
  by_cases same : other = id
  · subst other
    rw [Function.update_self, ledger_eq_some]
    exact ⟨epoch, AList.lookup_insert _, rfl, digestAt_setMark_self _ _ _ _⟩
  · have different : scopeKey other ≠ scopeKey id := fun equal =>
      same (scopeKey_injective equal)
    rw [Function.update_of_ne same]
    unfold ledger
    rw [digestAt_setMark_of_ne different]
    unfold StateStore.setMark
    rw [AList.lookup_insert_ne different]

theorem ledger_advanceMark (state : PersistedState) (id : ScopeId) (epoch : UInt64)
    (digest : Octets 32) :
    (state.advanceMark (scopeKey id) epoch digest).ledger =
      Watermark.advance state.ledger id epoch.toNat (some digest) := by
  unfold advanceMark Watermark.advance
  cases recorded : state.highWaterMarks.lookup (scopeKey id) with
  | none =>
      have absent : state.ledger id = none := by
        unfold ledger
        rw [recorded]
        rfl
      simp only [absent]
      rw [if_pos (by simp), ledger_setMark]
  | some mark =>
      have present : state.ledger id = some (mark.toNat, state.digestAt (scopeKey id)) :=
        ledger_eq_some.mpr ⟨mark, recorded, rfl, rfl⟩
      simp only [present]
      by_cases newer : mark < epoch
      · rw [if_pos (by simpa using newer), if_pos (UInt64.lt_iff_toNat_lt.mp newer),
          ledger_setMark]
      · rw [if_neg (by simpa using newer),
          if_neg (fun above => newer (UInt64.lt_iff_toNat_lt.mpr above))]

end PersistedState

/-! ### Bundles as generations -/

variable [Sha2]

def CaScope.id (bundle : Bundle) (scope : CaScope) : ScopeId :=
  (bundle.manifest.producerId, scope.issuerKeyHash)

def generation (bundle : Bundle) : Watermark.Generation ScopeId ℕ (Option (Octets 32)) :=
  { claims := bundle.manifest.caScopes.map fun scope =>
      (CaScope.id bundle scope, scope.epoch.toNat)
    digest := some (Sha2.sha256 bundle.manifestBytes) }

theorem mem_claims {bundle : Bundle} {id : ScopeId} {epoch : ℕ} :
    (id, epoch) ∈ (generation bundle).claims ↔
      ∃ scope ∈ bundle.manifest.caScopes, CaScope.id bundle scope = id ∧
        scope.epoch.toNat = epoch := by
  simp [generation]

theorem PersistedState.ledger_recordBundle (state : PersistedState) (bundle : Bundle) :
    (state.recordBundle bundle).ledger =
      Watermark.record state.ledger (generation bundle) := by
  unfold recordBundle Watermark.record generation
  rw [List.foldl_map]
  generalize bundle.manifest.caScopes = scopes
  induction scopes generalizing state with
  | nil =>
      rfl
  | cons scope rest ih =>
      rw [List.foldl_cons, List.foldl_cons, ih]
      exact congrArg (fun ledger => rest.foldl _ ledger)
        (ledger_advanceMark state (CaScope.id bundle scope) scope.epoch _)

theorem StateStore.checkRollbackScope_eq_ok {store : StateStore} {bundle : Bundle}
    {scope : CaScope} :
    store.checkRollbackScope bundle scope = .ok () ↔
      ∀ mark, store.getHighWater bundle.manifest.producerId
          (Bytes.encodeHex scope.issuerKeyHash) = some mark →
        mark ≤ scope.epoch ∧
          (scope.epoch = mark →
            store.getManifestDigest bundle.manifest.producerId
              (Bytes.encodeHex scope.issuerKeyHash) =
                some (Sha2.sha256 bundle.manifestBytes)) ∧
          scope.epoch - mark ≤ maxEpochJump := by
  unfold StateStore.checkRollbackScope
  dsimp only
  cases store.getHighWater bundle.manifest.producerId
      (Bytes.encodeHex scope.issuerKeyHash) with
  | none =>
      simp
  | some mark =>
      simp [Except.bind_eq_ok]

theorem StateStore.admits_of_checkRollback {store : StateStore} {bundle : Bundle}
    (checked : store.checkRollback bundle = .ok ()) :
    Watermark.Admits store.state.ledger (generation bundle) := by
  intro id epoch claimed mark digest recorded
  obtain ⟨scope, member, rfl, rfl⟩ := mem_claims.mp claimed
  obtain ⟨highWater, found, rfl, rfl⟩ := PersistedState.ledger_eq_some.mp recorded
  obtain ⟨above, atMark, _⟩ := StateStore.checkRollbackScope_eq_ok.mp
    (Except.forM_eq_ok.mp checked scope member) highWater found
  exact ⟨UInt64.le_iff_toNat_le.mp above, fun same => atMark (UInt64.toNat_inj.mp same)⟩

theorem StateStore.within_of_checkRollback {store : StateStore} {bundle : Bundle}
    (checked : store.checkRollback bundle = .ok ()) :
    Watermark.Within maxEpochJump.toNat store.state.ledger (generation bundle) := by
  intro id epoch claimed mark digest recorded
  obtain ⟨scope, member, rfl, rfl⟩ := mem_claims.mp claimed
  obtain ⟨highWater, found, rfl, rfl⟩ := PersistedState.ledger_eq_some.mp recorded
  obtain ⟨above, _, near⟩ := StateStore.checkRollbackScope_eq_ok.mp
    (Except.forM_eq_ok.mp checked scope member) highWater found
  have jump := UInt64.le_iff_toNat_le.mp near
  rw [UInt64.toNat_sub_of_le _ _ above] at jump
  omega

theorem Staged.climb {start store : StateStore} {bundles : List Bundle}
    (chain : Staged start bundles store) :
    Watermark.Climb maxEpochJump.toNat start.state.ledger (bundles.map generation)
      store.state.ledger := by
  induction chain with
  | start =>
      exact .start
  | stage _ rollback _ ih =>
      rw [List.map_append, StateStore.withState_state, PersistedState.ledger_recordBundle]
      exact ih.accept (StateStore.admits_of_checkRollback rollback)
        (StateStore.within_of_checkRollback rollback)

theorem Candidate.climb {os : Os} {source : Bundle → Prop} {store : StateStore}
    {world after : World} {bundles : List Bundle} {candidate : StateStore}
    (staged : Candidate os source store world bundles candidate after) :
    Watermark.Climb maxEpochJump.toNat store.state.ledger (bundles.map generation)
      candidate.state.ledger := by
  obtain ⟨marks, chain, same⟩ := staged.chain
  rw [same.ledger]
  exact chain.climb

omit [Sha2] in
theorem StateStore.emptied_sameMarks (store : StateStore) :
    store.state.SameMarks store.emptied.state := ⟨rfl, rfl⟩

end Hoike
