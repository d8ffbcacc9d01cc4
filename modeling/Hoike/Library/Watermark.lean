/-
High-water ledgers over arbitrary keys, linearly ordered epochs and digests.

A generation claims an epoch for each key it covers.  The ledger admits it when
none of its claims lies below the recorded mark and a claim at the mark carries
the recorded digest.  Recording raises marks and never lowers them.  The main
result is that no history of admitted generations contains two generations
with different digests at one key and epoch.
-/

import Mathlib.Order.Lattice

namespace Watermark

variable {κ ε δ : Type}

abbrev Ledger (κ ε δ : Type) := κ → Option (ε × δ)

/-- One generation: the epochs it claims, possibly several for one key. -/
structure Generation (κ ε δ : Type) where
  claims : List (κ × ε)
  digest : δ

section Order

variable [LinearOrder ε]

/-- The later ledger kept every key, lowered no mark, and changed the digest
of a key only together with its mark. -/
def Extends (earlier later : Ledger κ ε δ) : Prop :=
  ∀ key epoch digest, earlier key = some (epoch, digest) →
    ∃ epoch' digest', later key = some (epoch', digest') ∧
      epoch ≤ epoch' ∧ (epoch = epoch' → digest = digest')

theorem Extends.refl (ledger : Ledger κ ε δ) : Extends ledger ledger :=
  fun _key epoch digest recorded =>
    ⟨epoch, digest, recorded, le_refl epoch, fun _ => rfl⟩

theorem Extends.trans {first second third : Ledger κ ε δ}
    (earlier : Extends first second) (later : Extends second third) :
    Extends first third := by
  intro key epoch digest recorded
  obtain ⟨epoch', digest', recorded', below, sameDigest⟩ :=
    earlier key epoch digest recorded
  obtain ⟨epoch'', digest'', recorded'', below', sameDigest'⟩ :=
    later key epoch' digest' recorded'
  refine ⟨epoch'', digest'', recorded'', le_trans below below', ?_⟩
  intro same
  have middle : epoch = epoch' := le_antisymm below (same ▸ below')
  exact (sameDigest middle).trans (sameDigest' (middle.symm.trans same))

/-- No claim of the generation lies below a mark, and a claim at a mark
belongs to the generation recorded there. -/
def Admits (ledger : Ledger κ ε δ) (generation : Generation κ ε δ) : Prop :=
  ∀ key epoch, (key, epoch) ∈ generation.claims →
    ∀ mark digest, ledger key = some (mark, digest) →
      mark ≤ epoch ∧ (epoch = mark → digest = generation.digest)

/-- Every claim of the generation is at or below the recorded mark, and a
claim at the mark is recorded under the generation's own digest. -/
def Covers (ledger : Ledger κ ε δ) (generation : Generation κ ε δ) : Prop :=
  ∀ key epoch, (key, epoch) ∈ generation.claims →
    ∃ mark digest, ledger key = some (mark, digest) ∧
      epoch ≤ mark ∧ (epoch = mark → digest = generation.digest)

theorem Covers.mono {earlier later : Ledger κ ε δ}
    {generation : Generation κ ε δ} (covered : Covers earlier generation)
    (grown : Extends earlier later) : Covers later generation := by
  intro key epoch claimed
  obtain ⟨mark, digest, recorded, below, atMark⟩ := covered key epoch claimed
  obtain ⟨mark', digest', recorded', raised, sameDigest⟩ :=
    grown key mark digest recorded
  refine ⟨mark', digest', recorded', le_trans below raised, ?_⟩
  intro same
  have middle : epoch = mark := le_antisymm below (same ▸ raised)
  exact (sameDigest (middle.symm.trans same)).symm.trans (atMark middle)

theorem Admits.digest_eq_of_covers {ledger : Ledger κ ε δ}
    {earlier later : Generation κ ε δ} (admitted : Admits ledger later)
    (covered : Covers ledger earlier) {key : κ} {epoch : ε}
    (inEarlier : (key, epoch) ∈ earlier.claims)
    (inLater : (key, epoch) ∈ later.claims) :
    earlier.digest = later.digest := by
  obtain ⟨mark, digest, recorded, below, atMark⟩ := covered key epoch inEarlier
  obtain ⟨above, sameDigest⟩ := admitted key epoch inLater mark digest recorded
  have same : epoch = mark := le_antisymm below above
  exact (atMark same).symm.trans (sameDigest same)

/-! ### Recording -/

variable [DecidableEq κ]

def advance (ledger : Ledger κ ε δ) (key : κ) (epoch : ε) (digest : δ) :
    Ledger κ ε δ :=
  match ledger key with
  | none => Function.update ledger key (some (epoch, digest))
  | some (mark, _) =>
      if mark < epoch then Function.update ledger key (some (epoch, digest))
      else ledger

def record (ledger : Ledger κ ε δ) (generation : Generation κ ε δ) :
    Ledger κ ε δ :=
  generation.claims.foldl
    (fun ledger claim => advance ledger claim.1 claim.2 generation.digest) ledger

theorem advance_of_ne {ledger : Ledger κ ε δ} {key other : κ} {epoch : ε}
    {digest : δ} (different : other ≠ key) :
    advance ledger key epoch digest other = ledger other := by
  unfold advance
  cases ledger key with
  | none =>
      exact Function.update_of_ne different _ _
  | some entry =>
      by_cases newer : entry.1 < epoch
      · simp only [if_pos newer, Function.update_of_ne different]
      · simp only [if_neg newer]

theorem advance_self (ledger : Ledger κ ε δ) (key : κ) (epoch : ε) (digest : δ) :
    (∃ mark old, ledger key = some (mark, old) ∧ epoch ≤ mark ∧
        advance ledger key epoch digest key = some (mark, old)) ∨
      ((∀ mark old, ledger key = some (mark, old) → mark < epoch) ∧
        advance ledger key epoch digest key = some (epoch, digest)) := by
  unfold advance
  cases recorded : ledger key with
  | none =>
      refine Or.inr ⟨?_, Function.update_self key _ ledger⟩
      intro mark old impossible
      cases impossible
  | some entry =>
      obtain ⟨mark, old⟩ := entry
      by_cases newer : mark < epoch
      · refine Or.inr ⟨?_, ?_⟩
        · intro mark' old' same
          cases same
          exact newer
        · simp only [if_pos newer, Function.update_self]
      · refine Or.inl ⟨mark, old, rfl, not_lt.mp newer, ?_⟩
        simp only [if_neg newer, recorded]

theorem extends_advance (ledger : Ledger κ ε δ) (key : κ) (epoch : ε)
    (digest : δ) : Extends ledger (advance ledger key epoch digest) := by
  intro other mark old recorded
  by_cases same : other = key
  · subst other
    rcases advance_self ledger key epoch digest with
      ⟨mark', old', recorded', _, kept⟩ | ⟨older, raised⟩
    · rw [recorded] at recorded'
      cases recorded'
      exact ⟨mark, old, kept, le_refl mark, fun _ => rfl⟩
    · have below := older mark old recorded
      exact ⟨epoch, digest, raised, le_of_lt below,
        fun equal => absurd equal (ne_of_lt below)⟩
  · exact ⟨mark, old, (advance_of_ne same).trans recorded, le_refl mark, fun _ => rfl⟩

theorem extends_record (ledger : Ledger κ ε δ) (generation : Generation κ ε δ) :
    Extends ledger (record ledger generation) := by
  unfold record
  generalize generation.claims = claims
  induction claims generalizing ledger with
  | nil =>
      exact Extends.refl ledger
  | cons claim rest ih =>
      exact (extends_advance ledger claim.1 claim.2 generation.digest).trans (ih _)

theorem record_of_not_claimed {ledger : Ledger κ ε δ}
    {generation : Generation κ ε δ} {key : κ}
    (unclaimed : ∀ epoch, (key, epoch) ∉ generation.claims) :
    record ledger generation key = ledger key := by
  unfold record
  generalize generation.claims = claims at unclaimed
  induction claims generalizing ledger with
  | nil =>
      rfl
  | cons claim rest ih =>
      have different : key ≠ claim.1 := by
        rintro rfl
        exact unclaimed claim.2 List.mem_cons_self
      rw [List.foldl_cons,
        ih (fun epoch member => unclaimed epoch (List.mem_cons_of_mem _ member))]
      exact advance_of_ne different

theorem record_origin {ledger : Ledger κ ε δ} {generation : Generation κ ε δ}
    {key : κ} {mark : ε} {digest : δ}
    (recorded : record ledger generation key = some (mark, digest)) :
    ledger key = some (mark, digest) ∨
      ((key, mark) ∈ generation.claims ∧ digest = generation.digest) := by
  unfold record at recorded
  generalize generation.claims = claims at recorded ⊢
  induction claims generalizing ledger with
  | nil =>
      exact Or.inl recorded
  | cons claim rest ih =>
      rcases ih recorded with earlier | ⟨member, same⟩
      · change advance ledger claim.1 claim.2 generation.digest key = _ at earlier
        by_cases same : key = claim.1
        · subst same
          rcases advance_self ledger claim.1 claim.2 generation.digest with
            ⟨mark', old, before, _, kept⟩ | ⟨_, raised⟩
          · rw [kept] at earlier
            exact Or.inl (before.trans earlier)
          · rw [raised] at earlier
            cases earlier
            exact Or.inr ⟨List.mem_cons_self, rfl⟩
        · rw [advance_of_ne same] at earlier
          exact Or.inl earlier
      · exact Or.inr ⟨List.mem_cons_of_mem _ member, same⟩

/-- Recording an admitted generation covers it.  Each claim is at most the
resulting mark; at the mark, the record is either the one the generation was
admitted against or one of its own. -/
theorem Admits.covers_record {ledger : Ledger κ ε δ}
    {generation : Generation κ ε δ} (admitted : Admits ledger generation) :
    Covers (record ledger generation) generation := by
  have reached : ∀ (claims : List (κ × ε)) (current : Ledger κ ε δ) key epoch,
      (key, epoch) ∈ claims → ∃ mark digest,
        claims.foldl (fun ledger claim =>
          advance ledger claim.1 claim.2 generation.digest) current key =
            some (mark, digest) ∧ epoch ≤ mark := by
    intro claims
    induction claims with
    | nil =>
        intro current key epoch member
        cases member
    | cons claim rest ih =>
        intro current key epoch member
        rcases List.mem_cons.mp member with same | later
        · subst same
          have grown := extends_record (advance current key epoch generation.digest)
            { claims := rest, digest := generation.digest }
          rcases advance_self current key epoch generation.digest with
            ⟨mark, old, _, below, kept⟩ | ⟨_, raised⟩
          · obtain ⟨mark', digest', recorded, above, _⟩ := grown key mark old kept
            exact ⟨mark', digest', recorded, le_trans below above⟩
          · obtain ⟨mark', digest', recorded, above, _⟩ :=
              grown key epoch generation.digest raised
            exact ⟨mark', digest', recorded, above⟩
        · exact ih _ key epoch later
  intro key epoch claimed
  obtain ⟨mark, digest, recorded, below⟩ :=
    reached generation.claims ledger key epoch claimed
  refine ⟨mark, digest, recorded, below, ?_⟩
  intro same
  rcases record_origin recorded with before | ⟨_, own⟩
  · exact (admitted key epoch claimed mark digest before).2 same
  · exact own

theorem Admits.record_claimed {ledger : Ledger κ ε δ} {generation : Generation κ ε δ}
    (admitted : Admits ledger generation) {key : κ} {epoch : ε}
    (claimed : (key, epoch) ∈ generation.claims) :
    ∃ mark, record ledger generation key = some (mark, generation.digest) ∧ epoch ≤ mark ∧
      (key, mark) ∈ generation.claims := by
  obtain ⟨mark, digest, recorded, below, _⟩ := admitted.covers_record key epoch claimed
  rcases record_origin recorded with before | ⟨own, same⟩
  · -- An older record survives only at the claimed epoch, where it is the generation's.
    obtain ⟨above, atMark⟩ := admitted key epoch claimed mark digest before
    obtain rfl : epoch = mark := le_antisymm below above
    rw [atMark rfl] at recorded
    exact ⟨epoch, recorded, le_refl epoch, claimed⟩
  · rw [same] at recorded
    exact ⟨mark, recorded, below, own⟩

/-! ### Histories -/

/-- A ledger reached from another by recording admitted generations, listed
in the order of their acceptance. -/
inductive History (start : Ledger κ ε δ) :
    List (Generation κ ε δ) → Ledger κ ε δ → Prop
  | start : History start [] start
  | accept {accepted ledger generation} :
      History start accepted ledger → Admits ledger generation →
        History start (accepted ++ [generation]) (record ledger generation)

theorem History.extends {start ledger : Ledger κ ε δ}
    {accepted : List (Generation κ ε δ)}
    (history : History start accepted ledger) : Extends start ledger := by
  induction history with
  | start =>
      exact Extends.refl _
  | accept _ _ ih =>
      exact ih.trans (extends_record _ _)

theorem History.covers {start ledger : Ledger κ ε δ}
    {accepted : List (Generation κ ε δ)}
    (history : History start accepted ledger) :
    ∀ generation ∈ accepted, Covers ledger generation := by
  induction history with
  | start =>
      intro generation member
      cases member
  | accept _ admitted ih =>
      intro generation member
      rcases List.mem_append.mp member with earlier | last
      · exact (ih generation earlier).mono (extends_record _ _)
      · rw [List.mem_singleton.mp last]
        exact admitted.covers_record

theorem History.origin {start ledger : Ledger κ ε δ} {accepted : List (Generation κ ε δ)}
    (history : History start accepted ledger) {key : κ} {mark : ε} {digest : δ}
    (recorded : ledger key = some (mark, digest)) :
    start key = some (mark, digest) ∨
      ∃ generation ∈ accepted, (key, mark) ∈ generation.claims := by
  induction history with
  | start =>
      exact Or.inl recorded
  | @accept accepted ledger generation _ _ ih =>
      rcases record_origin recorded with before | ⟨claimed, _⟩
      · rcases ih before with first | ⟨earlier, member, claimed⟩
        · exact Or.inl first
        · exact Or.inr ⟨earlier, List.mem_append_left _ member, claimed⟩
      · exact Or.inr ⟨generation, List.mem_append_right _ (List.mem_singleton_self _), claimed⟩

/-- No two generations of one history disagree at a common key and epoch. -/
theorem History.fork_free {start ledger : Ledger κ ε δ}
    {accepted : List (Generation κ ε δ)}
    (history : History start accepted ledger)
    {left right : Generation κ ε δ} (inLeft : left ∈ accepted)
    (inRight : right ∈ accepted) {key : κ} {epoch : ε}
    (leftClaims : (key, epoch) ∈ left.claims)
    (rightClaims : (key, epoch) ∈ right.claims) :
    left.digest = right.digest := by
  induction history with
  | start =>
      cases inLeft
  | accept earlier admitted ih =>
      -- Only the pairs with the newest generation are new.
      rcases List.mem_append.mp inLeft with leftEarlier | leftLast <;>
        rcases List.mem_append.mp inRight with rightEarlier | rightLast
      · exact ih leftEarlier rightEarlier
      · rw [List.mem_singleton.mp rightLast] at rightClaims ⊢
        exact admitted.digest_eq_of_covers (earlier.covers left leftEarlier)
          leftClaims rightClaims
      · rw [List.mem_singleton.mp leftLast] at leftClaims ⊢
        exact (admitted.digest_eq_of_covers (earlier.covers right rightEarlier)
          rightClaims leftClaims).symm
      · rw [List.mem_singleton.mp leftLast, List.mem_singleton.mp rightLast]

theorem History.append {first second third : Ledger κ ε δ}
    {earlier later : List (Generation κ ε δ)}
    (before : History first earlier second)
    (after : History second later third) :
    History first (earlier ++ later) third := by
  induction after with
  | start =>
      simpa using before
  | accept _ admitted ih =>
      rw [← List.append_assoc]
      exact ih.accept admitted

end Order

/-! ### Bounded advances -/

section Climbing

def Within (jump : ℕ) (ledger : Ledger κ ℕ δ) (generation : Generation κ ℕ δ) : Prop :=
  ∀ key epoch, (key, epoch) ∈ generation.claims →
    ∀ mark digest, ledger key = some (mark, digest) → epoch ≤ mark + jump

variable [DecidableEq κ]

/-- A history whose generations all stay within reach of the marks they found. -/
inductive Climb (jump : ℕ) (start : Ledger κ ℕ δ) :
    List (Generation κ ℕ δ) → Ledger κ ℕ δ → Prop
  | start : Climb jump start [] start
  | accept {accepted ledger generation} :
      Climb jump start accepted ledger → Admits ledger generation →
        Within jump ledger generation →
          Climb jump start (accepted ++ [generation]) (record ledger generation)

variable {jump : ℕ} {start ledger : Ledger κ ℕ δ} {accepted : List (Generation κ ℕ δ)}

theorem Climb.history (climb : Climb jump start accepted ledger) :
    History start accepted ledger := by
  induction climb with
  | start =>
      exact .start
  | accept _ admitted _ ih =>
      exact ih.accept admitted

theorem Climb.append {middle : Ledger κ ℕ δ} {later : List (Generation κ ℕ δ)}
    (before : Climb jump start accepted middle) (after : Climb jump middle later ledger) :
    Climb jump start (accepted ++ later) ledger := by
  induction after with
  | start =>
      simpa using before
  | accept _ admitted within ih =>
      rw [← List.append_assoc]
      exact ih.accept admitted within

/-- One recording raises a mark by at most `jump`, however often its key is
claimed: every claim was measured against the mark before the recording. -/
theorem Within.record_le {generation : Generation κ ℕ δ}
    (within : Within jump ledger generation) {key : κ} {before after : ℕ} {old new : δ}
    (recorded : ledger key = some (before, old))
    (raised : record ledger generation key = some (after, new)) : after ≤ before + jump := by
  rcases record_origin raised with same | ⟨claimed, _⟩
  · rw [recorded] at same
    cases same
    exact Nat.le_add_right _ _
  · exact within key after claimed before old recorded

theorem Climb.mark_le (climb : Climb jump start accepted ledger) {key : κ} {before : ℕ}
    {old : δ} (recorded : start key = some (before, old)) :
    ∃ after new, ledger key = some (after, new) ∧ before ≤ after ∧
      after ≤ before + accepted.length * jump := by
  induction climb with
  | start =>
      exact ⟨before, old, recorded, Nat.le_refl _, Nat.le_add_right _ _⟩
  | @accept accepted ledger generation _ _ within ih =>
      obtain ⟨middle, digest, here, above, below⟩ := ih
      obtain ⟨after, new, raised, grown, _⟩ := extends_record ledger generation key _ _ here
      refine ⟨after, new, raised, Nat.le_trans above grown, ?_⟩
      have reached := within.record_le here raised
      rw [List.length_append, List.length_singleton, Nat.add_mul, Nat.one_mul]
      omega

end Climbing

end Watermark
