/-
The latest of the values that are offered one after the other.

A value takes the place of one of the same version or an earlier one.  When
equal versions are equal values, what is held in the end depends only on which
values were offered.
-/

import Mathlib.Data.List.Induction
import Mathlib.Order.Lattice

namespace Latest

variable {α ι : Type} [LinearOrder ι] (version : α → ι)

def offer (held : Option α) (offered : α) : α :=
  match held with
  | none => offered
  | some current => if version current ≤ version offered then offered else current

def ofOffers (offers : List α) : Option α :=
  offers.foldl (fun held offered => some (offer version held offered)) none

def Consistent (offers : List α) : Prop :=
  ∀ left ∈ offers, ∀ right ∈ offers, version left = version right → left = right

theorem ofOffers_append_singleton (offers : List α) (last : α) :
    ofOffers version (offers ++ [last]) =
      some (offer version (ofOffers version offers) last) := by
  unfold ofOffers
  rw [List.foldl_append, List.foldl_cons, List.foldl_nil]

theorem ofOffers_eq_none_iff {offers : List α} :
    ofOffers version offers = none ↔ offers = [] := by
  induction offers using List.reverseRecOn with
  | nil =>
      exact ⟨fun _ => rfl, fun _ => rfl⟩
  | append_singleton front last _ =>
      rw [ofOffers_append_singleton]
      simp

theorem offer_cases (current offered : α) :
    offer version (some current) offered = offered ∧ version current ≤ version offered ∨
      offer version (some current) offered = current ∧ version offered < version current := by
  unfold offer
  dsimp only
  split_ifs with later
  · exact Or.inl ⟨rfl, later⟩
  · exact Or.inr ⟨rfl, lt_of_not_ge later⟩

/-- What is held was offered, and nothing later was. -/
theorem ofOffers_eq_some {offers : List α} {held : α}
    (latest : ofOffers version offers = some held) :
    held ∈ offers ∧ ∀ other ∈ offers, version other ≤ version held := by
  induction offers using List.reverseRecOn generalizing held with
  | nil =>
      cases latest
  | append_singleton front last ih =>
      rw [ofOffers_append_singleton] at latest
      cases latest
      cases before : ofOffers version front with
      | none =>
          rw [(ofOffers_eq_none_iff version).mp before]
          refine ⟨List.mem_singleton.mpr rfl, fun other member => ?_⟩
          rw [List.mem_singleton.mp member]
          exact le_refl _
      | some current =>
          obtain ⟨inside, most⟩ := ih before
          rcases offer_cases version current last with ⟨taken, later⟩ | ⟨kept, earlier⟩
          · rw [taken]
            refine ⟨List.mem_append_right _ (List.mem_singleton.mpr rfl), fun other member => ?_⟩
            rcases List.mem_append.mp member with old | new
            · exact le_trans (most other old) later
            · rw [List.mem_singleton.mp new]
          · rw [kept]
            refine ⟨List.mem_append_left _ inside, fun other member => ?_⟩
            rcases List.mem_append.mp member with old | new
            · exact most other old
            · rw [List.mem_singleton.mp new]
              exact le_of_lt earlier

theorem ofOffers_eq_of_mem_iff {left right : List α} (consistent : Consistent version left)
    (same : ∀ value, value ∈ left ↔ value ∈ right) :
    ofOffers version left = ofOffers version right := by
  cases first : ofOffers version left with
  | none =>
      rw [ofOffers_eq_none_iff] at first
      have nothing : right = [] := by
        apply List.eq_nil_iff_forall_not_mem.mpr
        intro value member
        rw [← same, first] at member
        exact List.not_mem_nil member
      exact ((ofOffers_eq_none_iff version).mpr nothing).symm
  | some held =>
      obtain ⟨inside, most⟩ := ofOffers_eq_some version first
      cases second : ofOffers version right with
      | none =>
          rw [(ofOffers_eq_none_iff version).mp second] at same
          exact absurd ((same held).mp inside) List.not_mem_nil
      | some other =>
          obtain ⟨otherInside, otherMost⟩ := ofOffers_eq_some version second
          have back := (same other).mpr otherInside
          have versions : version held = version other :=
            le_antisymm (otherMost held ((same held).mp inside)) (most other back)
          rw [consistent held inside other back versions]

end Latest
