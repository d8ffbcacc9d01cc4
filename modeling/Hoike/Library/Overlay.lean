/-
Maps that are overridden by a sequence of edits.

An edit says for some keys what they map to afterwards; a key that it maps to
nothing is removed.  What a key maps to after a sequence of edits is decided by
the last edit that mentions it.
-/

import Mathlib.Data.List.Induction

namespace Overlay

variable {κ ν : Type}

abbrev Edit (κ ν : Type) := κ → Option (Option ν)

def apply (content : κ → Option ν) (edit : Edit κ ν) : κ → Option ν :=
  fun key => (edit key).getD (content key)

def applyAll (content : κ → Option ν) (edits : List (Edit κ ν)) : κ → Option ν :=
  edits.foldl apply content

theorem apply_of_mentioned {content : κ → Option ν} {edit : Edit κ ν} {key : κ}
    {value : Option ν} (mentioned : edit key = some value) : apply content edit key = value := by
  unfold apply
  rw [mentioned, Option.getD_some]

theorem apply_of_silent {content : κ → Option ν} {edit : Edit κ ν} {key : κ}
    (silent : edit key = none) : apply content edit key = content key := by
  unfold apply
  rw [silent, Option.getD_none]

@[simp] theorem applyAll_nil (content : κ → Option ν) : applyAll content [] = content := rfl

@[simp] theorem applyAll_cons (content : κ → Option ν) (edit : Edit κ ν)
    (rest : List (Edit κ ν)) :
    applyAll content (edit :: rest) = applyAll (apply content edit) rest := rfl

theorem applyAll_append (content : κ → Option ν) (front back : List (Edit κ ν)) :
    applyAll content (front ++ back) = applyAll (applyAll content front) back :=
  List.foldl_append

theorem applyAll_of_silent {content : κ → Option ν} {edits : List (Edit κ ν)} {key : κ}
    (silent : ∀ edit ∈ edits, edit key = none) : applyAll content edits key = content key := by
  induction edits generalizing content with
  | nil =>
      rfl
  | cons edit rest ih =>
      rw [applyAll_cons, ih (fun later member => silent later (List.mem_cons_of_mem _ member)),
        apply_of_silent (silent edit List.mem_cons_self)]

theorem applyAll_of_last {content : κ → Option ν} {front back : List (Edit κ ν)}
    {edit : Edit κ ν} {key : κ} {value : Option ν} (mentioned : edit key = some value)
    (silent : ∀ later ∈ back, later key = none) :
    applyAll content (front ++ edit :: back) key = value := by
  rw [applyAll_append, applyAll_cons, applyAll_of_silent silent, apply_of_mentioned mentioned]

/-- A value that is present was written by some edit and not mentioned again. -/
theorem applyAll_eq_some_iff {edits : List (Edit κ ν)} {key : κ} {value : ν} :
    applyAll (fun _ => none) edits key = some value ↔
      ∃ front edit back, edits = front ++ edit :: back ∧ edit key = some (some value) ∧
        ∀ later ∈ back, later key = none := by
  constructor
  · induction edits using List.reverseRecOn with
    | nil =>
        intro impossible
        cases impossible
    | append_singleton front edit ih =>
        intro present
        rw [applyAll_append, applyAll_cons, applyAll_nil] at present
        cases mentions : edit key with
        | some written =>
            rw [apply_of_mentioned mentions] at present
            subst present
            refine ⟨front, edit, [], rfl, mentions, ?_⟩
            intro later member
            cases member
        | none =>
            rw [apply_of_silent mentions] at present
            obtain ⟨before, writer, back, same, written, silent⟩ := ih present
            refine ⟨before, writer, back ++ [edit], ?_, written, ?_⟩
            · rw [same, List.append_assoc, List.cons_append]
            · intro later member
              cases List.mem_append.mp member with
              | inl earlier =>
                  exact silent later earlier
              | inr last =>
                  rw [List.mem_singleton.mp last]
                  exact mentions
  · intro decided
    obtain ⟨front, edit, back, same, written, silent⟩ := decided
    rw [same]
    exact applyAll_of_last written silent

end Overlay
