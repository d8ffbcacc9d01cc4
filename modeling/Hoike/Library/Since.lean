/-
What was said in a list of messages and not taken back since.
-/

import Mathlib.Data.List.Basic

namespace History

variable {α : Type}

/-- Some item has the first property, and none behind it the second. -/
def Since (said ended : α → Prop) (items : List α) : Prop :=
  ∃ front item back, items = front ++ item :: back ∧ said item ∧ ∀ later ∈ back, ¬ended later

theorem not_since_nil {said ended : α → Prop} : ¬Since said ended [] := by
  intro since
  obtain ⟨front, item, back, empty, _⟩ := since
  exact List.append_ne_nil_of_right_ne_nil front (List.cons_ne_nil item back) empty.symm

theorem since_append_singleton {said ended : α → Prop} {items : List α} {last : α} :
    Since said ended (items ++ [last]) ↔ said last ∨ ¬ended last ∧ Since said ended items := by
  constructor
  · intro since
    obtain ⟨front, item, back, split, here, kept⟩ := since
    rcases List.eq_nil_or_concat back with rfl | ⟨before, final, rfl⟩
    · obtain ⟨_, same⟩ := List.append_inj' split rfl
      rw [List.cons.inj same |>.1]
      exact Or.inl here
    · rw [List.concat_eq_append, ← List.cons_append, ← List.append_assoc] at split
      rw [List.concat_eq_append] at kept
      obtain ⟨same, lasts⟩ := List.append_inj' split rfl
      rw [(List.cons.inj lasts).1]
      right
      refine ⟨kept final (List.mem_append_right _ (List.mem_singleton.mpr rfl)), ?_⟩
      exact ⟨front, item, before, same, here,
        fun later member => kept later (List.mem_append_left _ member)⟩
  · intro either
    rcases either with here | ⟨notEnded, front, item, back, rfl, here, kept⟩
    · exact ⟨items, last, [], rfl, here, fun _ member => absurd member List.not_mem_nil⟩
    · refine ⟨front, item, back ++ [last], by rw [List.append_assoc, List.cons_append], here, ?_⟩
      intro later member
      rcases List.mem_append.mp member with inside | final
      · exact kept later inside
      · rw [List.mem_singleton.mp final]
        exact notEnded

theorem Since.mono {said said' ended : α → Prop} {items : List α}
    (since : Since said ended items) (weaker : ∀ item ∈ items, said item → said' item) :
    Since said' ended items := by
  obtain ⟨front, item, back, rfl, here, kept⟩ := since
  exact ⟨front, item, back, rfl, weaker item (List.mem_append_right _ List.mem_cons_self) here,
    kept⟩

theorem since_or {said said' ended : α → Prop} {items : List α} :
    Since (fun item => said item ∨ said' item) ended items ↔
      Since said ended items ∨ Since said' ended items := by
  constructor
  · intro since
    obtain ⟨front, item, back, split, here | here, kept⟩ := since
    · exact Or.inl ⟨front, item, back, split, here, kept⟩
    · exact Or.inr ⟨front, item, back, split, here, kept⟩
  · intro either
    rcases either with since | since
    · exact since.mono fun _ _ => Or.inl
    · exact since.mono fun _ _ => Or.inr

end History
