/-
Generations that are made from one ledger and recorded one after another.

The claims of such a round are not measured against each other when they are
made.  If the generations claim the same epoch wherever they share a key, the
round is accepted exactly when the ledger it was made from accepts each of them
and those that share a key have one digest.
-/

import Hoike.Library.Watermark

namespace Watermark

variable {κ δ : Type}

def Aligned (left right : Generation κ ℕ δ) : Prop :=
  ∀ key epoch epoch', (key, epoch) ∈ left.claims → (key, epoch') ∈ right.claims →
    epoch = epoch'

def Agreeing (left right : Generation κ ℕ δ) : Prop :=
  ∀ key epoch epoch', (key, epoch) ∈ left.claims → (key, epoch') ∈ right.claims →
    left.digest = right.digest

/-- The ledger accepts the generation, within reach of its marks. -/
structure Accepts (jump : ℕ) (ledger : Ledger κ ℕ δ) (generation : Generation κ ℕ δ) :
    Prop where
  admits : Admits ledger generation
  within : Within jump ledger generation

variable [DecidableEq κ] {jump : ℕ}

def Passes (jump : ℕ) : Ledger κ ℕ δ → List (Generation κ ℕ δ) → Prop
  | _, [] => True
  | ledger, generation :: rest =>
      Accepts jump ledger generation ∧ Passes jump (record ledger generation) rest

/-- What a recorded generation does to the next one of its round. -/
theorem Accepts.after_record_iff {ledger : Ledger κ ℕ δ} {first second : Generation κ ℕ δ}
    (accepted : Accepts jump ledger first) (aligned : Aligned first second) :
    Accepts jump (record ledger first) second ↔
      Accepts jump ledger second ∧ Agreeing first second := by
  -- A shared key stands at the common epoch under the first digest.
  have shared : ∀ {key epoch epoch'}, (key, epoch) ∈ first.claims →
      (key, epoch') ∈ second.claims →
        record ledger first key = some (epoch', first.digest) := by
    intro key epoch epoch' claimed claimed'
    obtain ⟨mark, recorded, _, own⟩ := accepted.admits.record_claimed claimed
    rw [recorded, aligned key mark epoch' own claimed']
  have unshared : ∀ {key}, (¬ ∃ epoch, (key, epoch) ∈ first.claims) →
      record ledger first key = ledger key := by
    intro key unclaimed
    exact record_of_not_claimed fun epoch member => unclaimed ⟨epoch, member⟩
  constructor
  · intro after
    have agreeing : Agreeing first second := by
      intro key epoch epoch' claimed claimed'
      exact (after.admits key epoch' claimed' epoch' _ (shared claimed claimed')).2 rfl
    refine ⟨⟨?_, ?_⟩, agreeing⟩
    · intro key epoch' claimed' mark digest recorded
      by_cases claimed : ∃ epoch, (key, epoch) ∈ first.claims
      · obtain ⟨epoch, claimed⟩ := claimed
        obtain rfl := aligned key epoch epoch' claimed claimed'
        obtain ⟨below, atMark⟩ := accepted.admits key epoch claimed mark digest recorded
        exact ⟨below, fun same => (atMark same).trans (agreeing key _ _ claimed claimed')⟩
      · exact after.admits key epoch' claimed' mark digest ((unshared claimed).trans recorded)
    · intro key epoch' claimed' mark digest recorded
      by_cases claimed : ∃ epoch, (key, epoch) ∈ first.claims
      · obtain ⟨epoch, claimed⟩ := claimed
        obtain rfl := aligned key epoch epoch' claimed claimed'
        exact accepted.within key epoch claimed mark digest recorded
      · exact after.within key epoch' claimed' mark digest ((unshared claimed).trans recorded)
  · rintro ⟨before, agreeing⟩
    constructor
    · intro key epoch' claimed' mark digest recorded
      by_cases claimed : ∃ epoch, (key, epoch) ∈ first.claims
      · obtain ⟨epoch, claimed⟩ := claimed
        rw [shared claimed claimed'] at recorded
        cases recorded
        exact ⟨le_refl _, fun _ => agreeing key _ _ claimed claimed'⟩
      · rw [unshared claimed] at recorded
        exact before.admits key epoch' claimed' mark digest recorded
    · intro key epoch' claimed' mark digest recorded
      by_cases claimed : ∃ epoch, (key, epoch) ∈ first.claims
      · obtain ⟨epoch, claimed⟩ := claimed
        rw [shared claimed claimed'] at recorded
        cases recorded
        exact Nat.le_add_right _ _
      · rw [unshared claimed] at recorded
        exact before.within key epoch' claimed' mark digest recorded

/-- A round passes exactly when the ledger it was made from accepts every
generation and those with a common key agree. -/
theorem passes_iff {ledger : Ledger κ ℕ δ} {round : List (Generation κ ℕ δ)}
    (aligned : ∀ left ∈ round, ∀ right ∈ round, Aligned left right) :
    Passes jump ledger round ↔
      (∀ generation ∈ round, Accepts jump ledger generation) ∧ round.Pairwise Agreeing := by
  induction round generalizing ledger with
  | nil =>
      simp [Passes]
  | cons first rest ih =>
      have here := List.mem_cons_self (a := first) (l := rest)
      have later : ∀ {generation}, generation ∈ rest → generation ∈ first :: rest :=
        List.mem_cons_of_mem _
      have others := @ih (record ledger first)
        (fun left member right member' => aligned left (later member) right (later member'))
      have step : ∀ second ∈ rest, Accepts jump ledger first →
          (Accepts jump (record ledger first) second ↔
            Accepts jump ledger second ∧ Agreeing first second) := by
        intro second member accepted
        exact accepted.after_record_iff (aligned first here second (later member))
      unfold Passes
      rw [others, List.forall_mem_cons, List.pairwise_cons]
      constructor
      · rintro ⟨accepted, each, agree⟩
        exact ⟨⟨accepted, fun second member => ((step second member accepted).mp
          (each second member)).1⟩, fun second member => ((step second member accepted).mp
            (each second member)).2, agree⟩
      · rintro ⟨⟨accepted, each⟩, first, agree⟩
        exact ⟨accepted, fun second member => (step second member accepted).mpr
          ⟨each second member, first second member⟩, agree⟩

/-! ### Generations that stand -/

omit [DecidableEq κ] in
def Stands (ledger : Ledger κ ℕ δ) (generation : Generation κ ℕ δ) : Prop :=
  ∀ key epoch, (key, epoch) ∈ generation.claims → ledger key = some (epoch, generation.digest)

omit [DecidableEq κ] in
theorem Stands.accepts {ledger : Ledger κ ℕ δ} {generation : Generation κ ℕ δ}
    (stands : Stands ledger generation) : Accepts jump ledger generation := by
  constructor
  · intro key epoch claimed mark digest recorded
    rw [stands key epoch claimed] at recorded
    cases recorded
    exact ⟨le_refl _, fun _ => rfl⟩
  · intro key epoch claimed mark digest recorded
    rw [stands key epoch claimed] at recorded
    cases recorded
    exact Nat.le_add_right _ _

theorem Stands.record_eq {ledger : Ledger κ ℕ δ} {generation : Generation κ ℕ δ}
    (stands : Stands ledger generation) : record ledger generation = ledger := by
  have accepted : Accepts 0 ledger generation := stands.accepts
  funext key
  by_cases claimed : ∃ epoch, (key, epoch) ∈ generation.claims
  · obtain ⟨epoch, claimed⟩ := claimed
    obtain ⟨mark, recorded, _, own⟩ := accepted.admits.record_claimed claimed
    rw [recorded, stands key mark own]
  · exact record_of_not_claimed fun epoch member => claimed ⟨epoch, member⟩

omit [DecidableEq κ] in
/-- A generation that no mark lies below, and that is admitted later on, has stood
from the beginning. -/
theorem stands_of_admits {earlier later : Ledger κ ℕ δ} {generation : Generation κ ℕ δ}
    (reached : ∀ key epoch, (key, epoch) ∈ generation.claims →
      ∃ mark digest, earlier key = some (mark, digest) ∧ epoch ≤ mark)
    (grown : Extends earlier later) (admitted : Admits later generation) :
    Stands earlier generation := by
  intro key epoch claimed
  obtain ⟨mark, digest, recorded, below⟩ := reached key epoch claimed
  obtain ⟨mark', digest', recorded', raised, sameDigest⟩ := grown key mark digest recorded
  obtain ⟨above, atMark⟩ := admitted key epoch claimed mark' digest' recorded'
  obtain rfl : mark = epoch := by omega
  obtain rfl : mark' = mark := by omega
  rw [recorded, sameDigest rfl, atMark rfl]

end Watermark
