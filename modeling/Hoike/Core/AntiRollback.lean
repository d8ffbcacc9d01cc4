/-
Anti-rollback and fork-freedom over whole runs.

The result is about every run from an initialized store in which no descriptor
write is left indeterminate.  Marks never go down, and two accepted bundles
that claim the same epoch of the same scope carry the same manifest.  Only an
installation that publishes onto the descriptor itself takes the marks away,
and then with the whole store.
-/

import Hoike.Ahu.Crates
import Hoike.Core.System

namespace Hoike

open Ahu

section Runs

variable [Sha2]

def System.committedMark (directory : RealPath) (system : System) (id : ScopeId) :
    Option UInt64 :=
  (system.committed directory).bind fun state =>
    state.highWaterMarks.lookup (PersistedState.scopeKey id)

/-- The digest separates the manifests of these bundles. -/
def DistinctDigests (bundles : List Bundle) : Prop :=
  ∀ left ∈ bundles, ∀ right ∈ bundles,
    Sha2.sha256 left.manifestBytes = Sha2.sha256 right.manifestBytes →
      left.manifestBytes = right.manifestBytes

theorem distinctDigests_iff {bundles : List Bundle} :
    DistinctDigests bundles ↔
      ∀ left ∈ bundles.map Bundle.manifestBytes, ∀ right ∈ bundles.map Bundle.manifestBytes,
        Sha2.sha256 left = Sha2.sha256 right → left = right := by
  simp [DistinctDigests]

def Bundle.Claims (bundle : Bundle) (id : ScopeId) (epoch : UInt64) : Prop :=
  ∃ scope ∈ bundle.manifest.caScopes, CaScope.id bundle scope = id ∧ scope.epoch = epoch

theorem Bundle.Claims.generation {bundle : Bundle} {id : ScopeId} {epoch : UInt64}
    (claims : Bundle.Claims bundle id epoch) :
    (id, epoch.toNat) ∈ (Hoike.generation bundle).claims := by
  obtain ⟨scope, member, same, rfl⟩ := claims
  exact mem_claims.mpr ⟨scope, member, same, rfl⟩

omit [Sha2] in
theorem committedMark_le_of_extends {directory : RealPath} {earlier later : System}
    {state state' : PersistedState} (before : earlier.Consistent directory state)
    (after : later.committed directory = some state')
    (grown : Watermark.Extends state.ledger state'.ledger) {id : ScopeId} {mark : UInt64}
    (recorded : earlier.committedMark directory id = some mark) :
    ∃ mark', later.committedMark directory id = some mark' ∧ mark ≤ mark' := by
  obtain ⟨found, readable, marked⟩ := Option.bind_eq_some_iff.mp recorded
  obtain rfl := before.descriptor found readable
  unfold System.committedMark
  rw [after]
  exact PersistedState.MarksKept.of_extends grown id mark marked

variable [Ciborium] [Pki]

/-- At every point of a run the marks are at least those of every earlier
point, unless a bundle was published onto the descriptor in between and there is
no descriptor left; the bundles accepted so far contain no fork. -/
theorem run_anti_rollback_fork_free {directory : RealPath} {start : System}
    (initialized : start.Initialized directory) (actions : List Action)
    (certain : ∀ action ∈ actions, action.CertainDescriptor) :
    (∀ earlier later, actions = earlier ++ later → ∀ id mark,
      (start.run directory earlier).committedMark directory id = some mark →
        (∃ mark', (start.run directory actions).committedMark directory id = some mark' ∧
          mark ≤ mark') ∨
        ((start.run directory actions).committed directory = none ∧
          ∃ action ∈ later, action.OverwritesDescriptor directory)) ∧
      (DistinctDigests (start.run directory actions).accepted →
        ∀ left ∈ (start.run directory actions).accepted,
          ∀ right ∈ (start.run directory actions).accepted, ∀ id epoch,
            Bundle.Claims left id epoch → Bundle.Claims right id epoch →
              left.manifestBytes = right.manifestBytes) := by
  have fresh := initialized.consistent
  constructor
  · rintro earlier later rfl id mark recorded
    obtain ⟨state, _, first⟩ := System.run_advance earlier fresh
      (fun action member => certain action (List.mem_append_left _ member))
    obtain ⟨state', _, second⟩ := System.run_advance later first.consistent
      (fun action member => certain action (List.mem_append_right _ member))
    have whole : start.run directory (earlier ++ later) =
        (start.run directory earlier).run directory later := List.foldl_append
    rw [whole]
    have grown : ∀ found,
        ((start.run directory earlier).run directory later).committed directory = some found →
          ∃ mark', ((start.run directory earlier).run directory later).committedMark directory
            id = some mark' ∧ mark ≤ mark' := by
      intro found present
      obtain rfl := second.consistent.descriptor found present
      exact committedMark_le_of_extends first.consistent present second.climb.history.extends
        recorded
    cases final : ((start.run directory earlier).run directory later).committed directory with
    | some found =>
        exact Or.inl (grown found final)
    | none =>
        obtain ⟨before, readable, _⟩ := Option.bind_eq_some_iff.mp recorded
        refine Or.inr ⟨rfl, ?_⟩
        by_contra apart
        have standing := second.standing (by rw [readable]; rfl) apart
        rw [final] at standing
        cases standing
  · intro distinct left inLeft right inRight id epoch leftClaims rightClaims
    obtain ⟨state, bundles, advance⟩ := System.run_advance actions fresh certain
    have accepted : (start.run directory actions).accepted = bundles := by
      rw [advance.accepted, initialized.2.1, List.nil_append]
    rw [accepted] at inLeft inRight distinct
    have sameDigest := advance.climb.history.fork_free (List.mem_map_of_mem inLeft)
      (List.mem_map_of_mem inRight) leftClaims.generation rightClaims.generation
    exact distinct left inLeft right inRight (Option.some.inj sameDigest)

end Runs

/-! ### A server that loads two generations -/

section TwoGenerations

local instance : Sha2 := Crates.sha2
local instance : Ciborium := Crates.ciborium
local instance : Pki := Crates.pki []

def demoConfig : Config :=
  { server := {}
    storage :=
      { bundleDir := { root := true, parts := ["w", "bundles"] }
        stateDb := { root := true, parts := ["w", "state"] }
        allowUnauthenticatedBundles := true }
    ca := [{ label := "a" }] }

def emptyWorld : World :=
  { disk := { contents := fun _ => none }
    calls := 0
    replacements := [] }

def initializedSystem : System :=
  { world := ((StateStore.initializeFresh (Os.faultless 1800000000)
      demoConfig.statePath).outcome emptyWorld).2
    server := none
    accepted := [] }

def demoScope : ScopeId := ("p", List.replicate 20 0xaa)

def publishDemo (epoch : UInt64) : Action :=
  .environment fun place =>
    if place = ["w", "bundles", "a.ahu"] then
      some (Crates.plainFile
        (Crates.plainManifest "p" [Crates.plainScope 0xaa epoch] none) [])
    else none

def firstLoad : List Action :=
  [publishDemo 5, .start (Os.faultless 1800000000) demoConfig]

def secondLoad : List Action :=
  [publishDemo 6, .reload (Os.faultless 1800000000)]

theorem initializedSystem_initialized : initializedSystem.Initialized ["w", "state"] :=
  ⟨rfl, rfl, Os.faultless 1800000000, demoConfig.storage.stateDb, emptyWorld, _, rfl, rfl⟩

theorem demo_run_certain : ∀ action ∈ firstLoad ++ secondLoad, action.CertainDescriptor := by
  intro action member
  simp only [firstLoad, secondLoad, List.cons_append, List.nil_append, List.mem_cons,
    List.not_mem_nil, or_false] at member
  rcases member with rfl | rfl | rfl | rfl
  · trivial
  · exact Os.faultless_certain _
  · trivial
  · exact Os.faultless_certain _

/-- Both generations are accepted, the mark of the first load is not undercut,
and the two manifests are not confused. -/
theorem demo_run_anti_rollback :
    (initializedSystem.run ["w", "state"] (firstLoad ++ secondLoad)).accepted.length = 2 ∧
      (∃ mark, (initializedSystem.run ["w", "state"]
        (firstLoad ++ secondLoad)).committedMark ["w", "state"] demoScope = some mark ∧
          5 ≤ mark) ∧
        ∀ left ∈ (initializedSystem.run ["w", "state"] (firstLoad ++ secondLoad)).accepted,
          ∀ right ∈ (initializedSystem.run ["w", "state"] (firstLoad ++ secondLoad)).accepted,
            ∀ id epoch, Bundle.Claims left id epoch → Bundle.Claims right id epoch →
              left.manifestBytes = right.manifestBytes := by
  have guarantee := run_anti_rollback_fork_free initializedSystem_initialized
    (firstLoad ++ secondLoad) demo_run_certain
  have firstMark : (initializedSystem.run ["w", "state"] firstLoad).committedMark
      ["w", "state"] demoScope = some 5 := by
    decide +kernel
  have manifests : (initializedSystem.run ["w", "state"]
      (firstLoad ++ secondLoad)).accepted.map Bundle.manifestBytes =
        [(Crates.plainManifest "p" [Crates.plainScope 0xaa 5] none).toCbor,
          (Crates.plainManifest "p" [Crates.plainScope 0xaa 6] none).toCbor] := by
    decide +kernel
  have distinct : DistinctDigests (initializedSystem.run ["w", "state"]
      (firstLoad ++ secondLoad)).accepted := by
    rw [distinctDigests_iff, manifests]
    decide +kernel
  refine ⟨?_, ?_, guarantee.2 distinct⟩
  · rw [← List.length_map, manifests]
    rfl
  · rcases guarantee.1 firstLoad secondLoad rfl demoScope 5 firstMark with marked | ⟨_, lost⟩
    · exact marked
    · simp [secondLoad, publishDemo, Action.OverwritesDescriptor] at lost

end TwoGenerations

end Hoike
