/-
The order of linked deltas.

A delta that names the manifest before it fits behind one input only.  Digests
that do not collide keep the inputs of an accepted chain apart, so no other
order of the deltas is accepted, and leaving some out is accepted only at the
end.
-/

import Hoike.Library.LinkedChain
import Hoike.Ahu.SealedContent
import Hoike.Ahu.DeltaFold

namespace Hoike
namespace Ahu

open LinkedChain (Linked)

section Order

variable [Sha2] [Ciborium]

def Bundle.link (bundle : Bundle) : Option (Octets 32) :=
  some (manifestDigest bundle.manifestBytes)

def Bundle.predecessor (bundle : Bundle) : Option (Octets 32) :=
  bundle.manifest.continuity.prevManifestDigest

/-- What an accepted chain has to pass besides: the epoch, the window and the
sealing. -/
def Materializes (base : Bundle) (deltas : List Bundle)
    (sealFn : Bytes → Except AhuError Bytes) : Prop :=
  ∃ finalEpoch window bytes,
    checkedEpoch (Progress.finish base deltas).maxEpoch = .ok finalEpoch ∧
      materializedWindow base.manifest.window (Progress.finish base deltas).windows =
        .ok window ∧
      (outputBuilder base deltas finalEpoch window).build sealFn = .ok bytes

theorem exists_applySealed {base : Bundle} {deltas : List Bundle}
    {sealFn : Bytes → Except AhuError Bytes} :
    (∃ result, applySealed base deltas sealFn = .ok result) ↔
      ((∃ report, verifyStructure base = .ok report) ∧ base.manifest.bundleType = .full) ∧
        Chained base (manifestDigest base.manifestBytes) deltas ∧
        Materializes base deltas sealFn := by
  constructor
  · intro accepted
    obtain ⟨result, run⟩ := accepted
    obtain ⟨window, applied⟩ := applySealed_eq_ok.mp run
    exact ⟨⟨applied.verifies, applied.isFull⟩, applied.chained,
      result.finalEpoch, window, result.bytes, applied.epoch, applied.windowed, applied.built⟩
  · intro checks
    obtain ⟨⟨verifies, isFull⟩, chained, finalEpoch, window, bytes, epoch, windowed, built⟩ :=
      checks
    let result : ApplyResult :=
      { bytes := bytes
        entryCount := (Progress.finish base deltas).workingSet.size
        finalEpoch := finalEpoch
        deltas := (Progress.finish base deltas).stats }
    have applied : Applied base deltas sealFn result window :=
      { verifies := verifies
        isFull := isFull
        chained := chained
        epoch := epoch
        windowed := windowed
        built := built
        count := rfl
        stats := rfl }
    exact ⟨result, applySealed_eq_ok.mpr ⟨window, applied⟩⟩

theorem Chained.of_front {base : Bundle} {front deltas : List Bundle}
    (initial : front <+: deltas) :
    ∀ {expected : Octets 32}, Chained base expected deltas → Chained base expected front := by
  obtain ⟨back, rfl⟩ := initial
  induction front with
  | nil =>
      intro expected _
      trivial
  | cons delta rest ih =>
      intro expected chained
      exact ⟨chained.1, ih chained.2⟩

theorem Chained.follows {base : Bundle} {deltas : List Bundle} :
    ∀ {expected : Octets 32}, Chained base expected deltas →
      ∀ delta ∈ deltas, ∃ before, Follows base before delta := by
  induction deltas with
  | nil =>
      intro expected _ delta member
      cases member
  | cons first rest ih =>
      intro expected chained delta member
      rcases List.mem_cons.mp member with rfl | later
      · exact ⟨expected, chained.1⟩
      · exact ih chained.2 delta later

theorem Chained.linked {base : Bundle} {deltas : List Bundle} :
    ∀ {expected : Octets 32}, Chained base expected deltas →
      (∀ delta ∈ deltas, delta.predecessor.isSome) →
      Linked Bundle.link Bundle.predecessor (some expected) deltas := by
  induction deltas with
  | nil =>
      intro expected _ _
      trivial
  | cons delta rest ih =>
      intro expected chained carry
      obtain ⟨named, present⟩ := Option.isSome_iff_exists.mp (carry delta List.mem_cons_self)
      have matching : named = expected := chained.1.linked named present
      subst matching
      exact ⟨present, ih chained.2 fun other member =>
        carry other (List.mem_cons_of_mem _ member)⟩

variable {base : Bundle} {deltas : List Bundle}

theorem manifest_eq_of_link_eq {inputs : List Bundle}
    (collisionFree : Set.InjOn Sha2.sha256 {octets | ∃ input ∈ inputs,
      octets = input.manifestBytes})
    (readsBack : ∀ input ∈ inputs, input.manifest.ReadsBack)
    {left right : Bundle} (leftMember : left ∈ inputs) (rightMember : right ∈ inputs)
    (leftVerifies : ∃ report, verifyStructure left = .ok report)
    (rightVerifies : ∃ report, verifyStructure right = .ok report)
    (same : left.link = right.link) : left.manifest = right.manifest := by
  obtain ⟨_, verifiedLeft⟩ := verifyStructure_eq_ok.mp leftVerifies
  obtain ⟨_, verifiedRight⟩ := verifyStructure_eq_ok.mp rightVerifies
  have octets : left.manifestBytes = right.manifestBytes :=
    collisionFree ⟨left, leftMember, rfl⟩ ⟨right, rightMember, rfl⟩ (Option.some.inj same)
  exact (verifiedLeft.manifest_eq verifiedRight (readsBack left leftMember)
    (readsBack right rightMember) octets).2

theorem Chained.initial_of_subset
    (verifies : ∃ report, verifyStructure base = .ok report)
    (isFull : base.manifest.bundleType = .full)
    (chained : Chained base (manifestDigest base.manifestBytes) deltas)
    (carry : ∀ delta ∈ deltas, delta.predecessor.isSome)
    (collisionFree : Set.InjOn Sha2.sha256 {octets | ∃ input ∈ base :: deltas,
      octets = input.manifestBytes})
    (readsBack : ∀ input ∈ base :: deltas, input.manifest.ReadsBack) {others : List Bundle}
    (members : ∀ delta ∈ others, delta ∈ deltas)
    (otherChained : Chained base (manifestDigest base.manifestBytes) others) :
    others <+: deltas := by
  have verifiesDelta : ∀ delta ∈ deltas, ∃ report, verifyStructure delta = .ok report := by
    intro delta member
    obtain ⟨_, follows⟩ := chained.follows delta member
    exact follows.verifies
  apply (chained.linked carry).prefix_of_subset
  · intro left leftMember right rightMember same
    have manifests := manifest_eq_of_link_eq collisionFree readsBack
      (List.mem_cons_of_mem _ leftMember) (List.mem_cons_of_mem _ rightMember)
      (verifiesDelta left leftMember) (verifiesDelta right rightMember) same
    unfold Bundle.predecessor
    rw [manifests]
  · intro delta member same
    have manifests := manifest_eq_of_link_eq collisionFree readsBack
      (List.mem_cons_of_mem _ member) List.mem_cons_self
      (verifiesDelta delta member) verifies same
    obtain ⟨_, follows⟩ := chained.follows delta member
    have isDelta := follows.isDelta
    rw [manifests, isFull] at isDelta
    cases isDelta
  · exact otherChained.linked fun delta member => carry delta (members delta member)
  · exact members

/-- For every base and every accepted list of deltas that all name their
predecessor: no other order is accepted under any seal, and of the lists that
leave some deltas out exactly the initial parts are, as far as their epoch,
window and seal allow. -/
theorem linked_deltas_have_one_order {sealFn : Bytes → Except AhuError Bytes}
    {result : ApplyResult} (accepted : applySealed base deltas sealFn = .ok result)
    (carry : ∀ delta ∈ deltas, delta.manifest.continuity.prevManifestDigest.isSome)
    (collisionFree : Set.InjOn Sha2.sha256 {octets | ∃ input ∈ base :: deltas,
      octets = input.manifestBytes})
    (readsBack : ∀ input ∈ base :: deltas, input.manifest.ReadsBack) :
    (∀ others, others.Perm deltas →
        (∃ sealFn result, applySealed base others sealFn = .ok result) → others = deltas) ∧
      ∀ others sealFn, others.Sublist deltas →
        ((∃ result, applySealed base others sealFn = .ok result) ↔
          others <+: deltas ∧ Materializes base others sealFn) := by
  obtain ⟨⟨verifies, isFull⟩, chained, _⟩ := exists_applySealed.mp ⟨result, accepted⟩
  have initial {others : List Bundle} (members : ∀ delta ∈ others, delta ∈ deltas)
      (otherChained : Chained base (manifestDigest base.manifestBytes) others) :
      others <+: deltas :=
    chained.initial_of_subset verifies isFull carry collisionFree readsBack members otherChained
  constructor
  · intro others permuted otherAccepted
    obtain ⟨otherFn, otherAccepted⟩ := otherAccepted
    obtain ⟨_, otherChained, _⟩ := exists_applySealed.mp otherAccepted
    have front := initial (fun delta member => permuted.mem_iff.mp member) otherChained
    exact front.eq_of_length permuted.length_eq
  · intro others otherFn shorter
    rw [exists_applySealed]
    constructor
    · intro checks
      obtain ⟨_, otherChained, materializes⟩ := checks
      exact ⟨initial (fun delta member => shorter.subset member) otherChained, materializes⟩
    · intro checks
      obtain ⟨front, materializes⟩ := checks
      exact ⟨⟨verifies, isFull⟩, chained.of_front front, materializes⟩

end Order

/-! ### Two linked deltas -/

section Samples

local instance chainedSha2 : Sha2 := Crates.sha2
local instance chainedCiborium : Ciborium := Crates.ciborium

def sampleNext : Bundle :=
  sampleInput (deltaManifest sampleBase sampleDelta 7) [(3, none), (4, some [2])]

theorem sampleInputs_computed :
    ([sampleBase, sampleDelta, sampleNext].map fun input =>
        Sha2.sha256 input.manifestBytes).Nodup ∧
      ([sampleBase, sampleDelta, sampleNext].all fun input =>
        input.manifest.extensions.isNone &&
          input.manifest.toCbor.length < 18446744073709551616) = true ∧
      (applySealed sampleBase [sampleDelta, sampleNext] shortFn).isOk = true ∧
      sampleDelta.manifestBytes ≠ sampleNext.manifestBytes := by
  decide +kernel

theorem sampleInputs_collisionFree : Set.InjOn Sha2.sha256
    {octets | ∃ input ∈ [sampleBase, sampleDelta, sampleNext], octets = input.manifestBytes} := by
  have distinct := sampleInputs_computed.1
  intro left leftMember right rightMember same
  obtain ⟨leftInput, leftPresent, rfl⟩ := leftMember
  obtain ⟨rightInput, rightPresent, rfl⟩ := rightMember
  rw [List.inj_on_of_nodup_map distinct leftPresent rightPresent same]

theorem sampleInputs_readsBack (input : Bundle)
    (member : input ∈ [sampleBase, sampleDelta, sampleNext]) : input.manifest.ReadsBack := by
  have both := List.all_eq_true.mp sampleInputs_computed.2.1 input member
  rw [Bool.and_eq_true, decide_eq_true_eq] at both
  exact Crates.readsBack (Option.isNone_iff_eq_none.mp both.1) both.2

theorem sampleInputs_have_one_order :
    (∃ result, applySealed sampleBase [sampleDelta, sampleNext] shortFn = .ok result) ∧
      (¬ ∃ sealFn result,
        applySealed sampleBase [sampleNext, sampleDelta] sealFn = .ok result) ∧
      ∀ sealFn, ¬ ∃ result, applySealed sampleBase [sampleNext] sealFn = .ok result := by
  obtain ⟨_, _, applies, different⟩ := sampleInputs_computed
  obtain ⟨result, accepted⟩ := Except.exists_of_isOk applies
  have carry : ∀ delta ∈ [sampleDelta, sampleNext],
      delta.manifest.continuity.prevManifestDigest.isSome := by
    intro delta member
    rcases List.mem_pair.mp member with rfl | rfl <;> rfl
  obtain ⟨oneOrder, oneFront⟩ := linked_deltas_have_one_order accepted carry
    sampleInputs_collisionFree sampleInputs_readsBack
  refine ⟨⟨result, accepted⟩, ?_, ?_⟩
  · intro swapped
    have same := oneOrder _ (List.Perm.swap _ _ _) swapped
    exact different (congrArg Bundle.manifestBytes (List.cons.inj same).1).symm
  · intro sealFn alone
    have front := ((oneFront [sampleNext] sealFn (List.sublist_cons_self _ _)).mp alone).1
    exact different (congrArg Bundle.manifestBytes (List.cons_prefix_cons.mp front).1).symm

end Samples

end Ahu
end Hoike
