/-
Binary search in a list by a comparison with an implicit target.

The search halves a window of positions and makes one comparison for each
halving and one at the end.  On a sorted list it finds an item equal to the
target whenever there is one; on other lists it may miss, but what it returns
always compares as equal.
-/

import Mathlib.Data.List.Basic

namespace BinarySearch

variable {α : Type}

/-- The position that is left when the window has shrunk to one element.
Each halving takes one unit of fuel. -/
def probe (order : α → Ordering) (items : List α) : (fuel base size : Nat) → Nat
  | 0, base, _ => base
  | fuel + 1, base, size =>
      if 1 < size then
        let half := size / 2
        let middle := base + half
        let next := if items[middle]?.map order = some .gt then base else middle
        probe order items fuel next (size - half)
      else base

def searchBy (order : α → Ordering) (items : List α) : Option Nat :=
  let position := probe order items items.length 0 items.length
  if items[position]?.map order = some .eq then some position else none

def Sorted (order : α → Ordering) (items : List α) : Prop :=
  items.Pairwise fun left right =>
    (order left ≠ .lt → order right ≠ .lt) ∧ (order left = .gt → order right = .gt)

/-- Nothing but larger items stands behind an item that is not smaller than
the target. -/
def StrictlySorted (order : α → Ordering) (items : List α) : Prop :=
  items.Pairwise fun left right => order left ≠ .lt → order right = .gt

theorem StrictlySorted.sorted {order : α → Ordering} {items : List α}
    (strict : StrictlySorted order items) : Sorted order items := by
  apply List.Pairwise.imp _ strict
  intro left right larger
  constructor
  · intro notLess
    rw [larger notLess]
    decide
  · intro greater
    exact larger (by rw [greater]; decide)

theorem searchBy_sound {order : α → Ordering} {items : List α} {position : Nat}
    (found : searchBy order items = some position) :
    ∃ item, items[position]? = some item ∧ order item = .eq := by
  simp only [searchBy] at found
  split_ifs at found with equal
  cases found
  exact Option.map_eq_some_iff.mp equal

theorem pairwise_getElem? {relation : α → α → Prop} {items : List α}
    (pairwise : items.Pairwise relation) {left right : Nat} {first second : α}
    (before : left < right) (atLeft : items[left]? = some first)
    (atRight : items[right]? = some second) : relation first second := by
  obtain ⟨leftBound, rfl⟩ := List.getElem?_eq_some_iff.mp atLeft
  obtain ⟨rightBound, rfl⟩ := List.getElem?_eq_some_iff.mp atRight
  exact List.pairwise_iff_getElem.mp pairwise left right leftBound rightBound before

/-- What the search knows about its window: behind it everything is larger,
and its first item is not, unless the window still starts at the front. -/
structure Window (order : α → Ordering) (items : List α) (base size : Nat) : Prop where
  behind : ∀ {position item}, base + size ≤ position → items[position]? = some item →
    order item = .gt
  first : base = 0 ∨ ∃ item, items[base]? = some item ∧ order item ≠ .gt

theorem window_whole (order : α → Ordering) (items : List α) :
    Window order items 0 items.length := by
  constructor
  · intro position item beyond here
    rw [List.getElem?_eq_none (by omega)] at here
    cases here
  · exact Or.inl rfl

theorem window_probe {order : α → Ordering} {items : List α} (sorted : Sorted order items) :
    ∀ {fuel base size : Nat}, size ≤ fuel → 0 < size → base + size ≤ items.length →
      Window order items base size → Window order items (probe order items fuel base size) 1 := by
  intro fuel
  induction fuel with
  | zero =>
      intro base size enough positive
      omega
  | succ fuel ih =>
      intro base size enough positive inside window
      unfold probe
      by_cases wide : 1 < size
      · rw [if_pos wide]
        have within : base + size / 2 < items.length := by omega
        have atMiddle : items[base + size / 2]? = some items[base + size / 2] :=
          List.getElem?_eq_getElem within
        simp only [atMiddle, Option.map_some, Option.some.injEq]
        by_cases greater : order items[base + size / 2] = .gt
        · rw [if_pos greater]
          apply ih (by omega) (by omega) (by omega)
          refine ⟨?_, window.first⟩
          intro position item behind here
          -- The new end is not before the middle.
          cases Nat.lt_or_eq_of_le (show base + size / 2 ≤ position by omega) with
          | inl later =>
              exact (pairwise_getElem? sorted later atMiddle here).2 greater
          | inr same =>
              rw [← same, atMiddle, Option.some.injEq] at here
              rw [← here]
              exact greater
        · rw [if_neg greater]
          apply ih (by omega) (by omega) (by omega)
          refine ⟨?_, Or.inr ⟨_, atMiddle, greater⟩⟩
          intro position item behind here
          exact window.behind (by omega) here
      · rw [if_neg wide]
        have one : size = 1 := by omega
        rw [one] at window
        exact window

theorem searchBy_eq_none_iff {order : α → Ordering} {items : List α}
    (sorted : Sorted order items) :
    searchBy order items = none ↔ ∀ item ∈ items, order item ≠ .eq := by
  constructor
  · intro missing item member equal
    obtain ⟨target, within, same⟩ := List.mem_iff_getElem.mp member
    have atTarget : items[target]? = some item := List.getElem?_eq_some_iff.mpr ⟨within, same⟩
    have window := window_probe sorted (Nat.le_refl items.length) (by omega) (by omega)
      (window_whole order items)
    simp only [searchBy] at missing
    split_ifs at missing with unequal
    generalize probe order items items.length 0 items.length = final at window unequal
    cases Nat.lt_trichotomy final target with
    | inl before =>
        have larger := window.behind (by omega) atTarget
        rw [equal] at larger
        cases larger
    | inr others =>
        cases others with
        | inl here =>
            rw [here, atTarget, Option.map_some, equal] at unequal
            exact unequal rfl
        | inr after =>
            cases window.first with
            | inl front =>
                omega
            | inr reached =>
                obtain ⟨last, atFinal, notGreater⟩ := reached
                have notLess := (pairwise_getElem? sorted after atTarget atFinal).1
                  (by rw [equal]; decide)
                rw [atFinal, Option.map_some, Option.some.injEq] at unequal
                cases compared : order last with
                | lt => exact notLess compared
                | eq => exact unequal compared
                | gt => exact notGreater compared
  · intro absent
    cases outcome : searchBy order items with
    | none =>
        rfl
    | some position =>
        obtain ⟨item, atPosition, equal⟩ := searchBy_sound outcome
        exact absurd equal (absent item (List.mem_of_getElem? atPosition))

theorem searchBy_eq_some_iff {order : α → Ordering} {items : List α}
    (sorted : StrictlySorted order items) (position : Nat) :
    searchBy order items = some position ↔
      ∃ item, items[position]? = some item ∧ order item = .eq := by
  constructor
  · intro found
    exact searchBy_sound found
  · intro present
    obtain ⟨item, atPosition, equal⟩ := present
    cases outcome : searchBy order items with
    | none =>
        have absent := (searchBy_eq_none_iff sorted.sorted).mp outcome
        exact absurd equal (absent item (List.mem_of_getElem? atPosition))
    | some found =>
        obtain ⟨other, atFound, same⟩ := searchBy_sound outcome
        cases Nat.lt_trichotomy found position with
        | inl before =>
            have larger := pairwise_getElem? sorted before atFound atPosition (by rw [same]; decide)
            rw [equal] at larger
            cases larger
        | inr others =>
            cases others with
            | inl here =>
                rw [here]
            | inr after =>
                have larger := pairwise_getElem? sorted after atPosition atFound
                  (by rw [equal]; decide)
                rw [same] at larger
                cases larger

/-! ### Bisection of a half-open window -/

/-- Look at the middle of a window and go on in front of it or behind it.  Each
look takes one unit of fuel. -/
def bisect (order : α → Ordering) (items : List α) : (fuel low high : Nat) → Option Nat
  | 0, _, _ => none
  | fuel + 1, low, high =>
      if low < high then
        let middle := low + (high - low) / 2
        match items[middle]?.map order with
        | some .eq => some middle
        | some .lt => bisect order items fuel (middle + 1) high
        | some .gt => bisect order items fuel low middle
        | none => none
      else none

theorem bisect_sound {order : α → Ordering} {items : List α} :
    ∀ {fuel low high position : Nat}, bisect order items fuel low high = some position →
      ∃ item, items[position]? = some item ∧ order item = .eq := by
  intro fuel
  induction fuel with
  | zero =>
      intro low high position found
      cases found
  | succ fuel ih =>
      intro low high position found
      unfold bisect at found
      simp only at found
      split_ifs at found
      split at found
      next equal =>
        cases found
        exact Option.map_eq_some_iff.mp equal
      next => exact ih found
      next => exact ih found
      next => cases found

/-- A target inside the window is found: every look either hits it or keeps it
in the window. -/
theorem bisect_complete {order : α → Ordering} {items : List α}
    (sorted : StrictlySorted order items) {target : Nat} {item : α}
    (atTarget : items[target]? = some item) (equal : order item = .eq) :
    ∀ {fuel low high : Nat}, high - low ≤ fuel → low ≤ target → target < high →
      high ≤ items.length → bisect order items fuel low high = some target := by
  intro fuel
  induction fuel with
  | zero =>
      intro low high enough
      omega
  | succ fuel ih =>
      intro low high enough above below inside
      obtain ⟨found, atMiddle⟩ : ∃ found, items[low + (high - low) / 2]? = some found :=
        ⟨_, List.getElem?_eq_getElem (by omega)⟩
      unfold bisect
      rw [if_pos (by omega)]
      simp only [atMiddle, Option.map_some]
      -- Where the middle lies relative to the target decides the comparison.
      rcases Nat.lt_trichotomy (low + (high - low) / 2) target with before | same | behind
      · cases compared : order found with
        | lt =>
            exact ih (by omega) (by omega) below inside
        | eq | gt =>
            have larger := pairwise_getElem? sorted before atMiddle atTarget
              (by rw [compared]; decide)
            rw [equal] at larger
            cases larger
      · rw [same, atTarget] at atMiddle
        cases atMiddle
        rw [equal, same]
      · have larger := pairwise_getElem? sorted behind atTarget atMiddle (by rw [equal]; decide)
        rw [larger]
        exact ih (by omega) above behind (by omega)

theorem bisect_eq_searchBy {order : α → Ordering} {items : List α}
    (sorted : StrictlySorted order items) :
    bisect order items items.length 0 items.length = searchBy order items := by
  cases found : searchBy order items with
  | some position =>
      obtain ⟨item, here, equal⟩ := searchBy_sound found
      obtain ⟨within, _⟩ := List.getElem?_eq_some_iff.mp here
      exact bisect_complete sorted here equal (by omega) (by omega) within (by omega)
  | none =>
      cases other : bisect order items items.length 0 items.length with
      | none =>
          rfl
      | some position =>
          obtain ⟨item, here, equal⟩ := bisect_sound other
          have absent := (searchBy_eq_none_iff sorted.sorted).mp found
          exact absurd equal (absent item (List.mem_of_getElem? here))

end BinarySearch
