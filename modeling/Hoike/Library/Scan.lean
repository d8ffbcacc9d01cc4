/-
Lists that are scanned for the first item with a verdict.

Such a scan treats its list as a set exactly when the list does not hold items
of both verdicts.
-/

import Mathlib.Data.List.Basic

namespace Scan

variable {α : Type} {check : α → Option Bool} {items : List α}

def Accepts (check : α → Option Bool) (items : List α) : Prop :=
  items.findSome? check = some true

/-- Neither the order of the items nor further items take acceptance away. -/
structure SetLike (check : α → Option Bool) (items : List α) : Prop where
  perm : ∀ other : List α, other.Perm items → (Accepts check other ↔ Accepts check items)
  mono : ∀ fewer : List α, fewer.Sublist items → Accepts check fewer → Accepts check items

theorem Accepts.exists (accepted : Accepts check items) :
    ∃ item ∈ items, check item = some true := by
  obtain ⟨item, member, verdict⟩ := List.exists_of_findSome?_eq_some accepted
  exact ⟨item, member, verdict⟩

theorem accepts_iff (unopposed : ∀ item ∈ items, check item ≠ some false) :
    Accepts check items ↔ ∃ item ∈ items, check item = some true := by
  refine ⟨Accepts.exists, ?_⟩
  rintro ⟨item, member, accepts⟩
  unfold Accepts
  cases found : items.findSome? check with
  | none =>
      rw [List.findSome?_eq_none_iff.mp found item member] at accepts
      cases accepts
  | some verdict =>
      cases verdict with
      | true =>
          rfl
      | false =>
          obtain ⟨other, otherMember, rejects⟩ := List.exists_of_findSome?_eq_some found
          exact absurd rejects (unopposed other otherMember)

theorem setLike_iff :
    SetLike check items ↔
      ¬((∃ item ∈ items, check item = some true) ∧ ∃ item ∈ items, check item = some false) := by
  constructor
  · -- The item that decides is put in front, once either way.
    rintro setLike ⟨⟨accepting, accepts, yes⟩, ⟨rejecting, rejects, no⟩⟩
    obtain ⟨front, back, rfl⟩ := List.append_of_mem accepts
    obtain ⟨others, rest, split⟩ := List.append_of_mem rejects
    have first : Accepts check (accepting :: (front ++ back)) := by
      unfold Accepts
      rw [List.findSome?_cons, yes]
    have second : ¬Accepts check (rejecting :: (others ++ rest)) := by
      unfold Accepts
      rw [List.findSome?_cons, no]
      simp
    have accepted := (setLike.perm _ List.perm_middle.symm).mp first
    rw [split] at accepted setLike
    exact second ((setLike.perm _ List.perm_middle.symm).mpr accepted)
  · intro agree
    by_cases accepting : ∃ item ∈ items, check item = some true
    · have unopposed : ∀ item ∈ items, check item ≠ some false :=
        fun item member rejects => agree ⟨accepting, item, member, rejects⟩
      have accepted := (accepts_iff unopposed).mpr accepting
      constructor
      · intro other same
        refine iff_of_true ?_ accepted
        obtain ⟨item, member, accepts⟩ := accepting
        exact (accepts_iff fun item member => unopposed item (same.mem_iff.mp member)).mpr
          ⟨item, same.mem_iff.mpr member, accepts⟩
      · intro _ _ _
        exact accepted
    · have refused : ¬Accepts check items := fun accepted => accepting accepted.exists
      constructor
      · intro other same
        refine iff_of_false (fun accepted => accepting ?_) refused
        obtain ⟨item, member, accepts⟩ := accepted.exists
        exact ⟨item, same.mem_iff.mp member, accepts⟩
      · intro fewer part accepted
        obtain ⟨item, member, accepts⟩ := accepted.exists
        exact absurd ⟨item, part.subset member, accepts⟩ accepting

end Scan
