/-
Cutting a list into pieces of one size.
-/

import Mathlib.Data.List.Basic

namespace Chunks

variable {α : Type}

def upTo (size : Nat) : (count : Nat) → List α → List (List α)
  | 0, _ => []
  | _ + 1, [] => []
  | count + 1, item :: items =>
      (item :: items).take size :: upTo size count ((item :: items).drop size)

/-- `slice::chunks`: pieces of `size` items, the last one perhaps shorter. -/
def chunks (size : Nat) (items : List α) : List (List α) :=
  upTo size items.length items

theorem flatten_upTo {size : Nat} (positive : 0 < size) {count : Nat} {items : List α}
    (enough : items.length ≤ count) : (upTo size count items).flatten = items := by
  induction count generalizing items with
  | zero =>
      rw [List.length_eq_zero_iff.mp (Nat.le_zero.mp enough)]
      rfl
  | succ count ih =>
      cases items with
      | nil =>
          rfl
      | cons item items =>
          have shorter : ((item :: items).drop size).length ≤ count := by
            rw [List.length_drop]
            rw [List.length_cons] at enough ⊢
            omega
          rw [upTo, List.flatten_cons, ih shorter, List.take_append_drop]

theorem flatten_chunks {size : Nat} (positive : 0 < size) (items : List α) :
    (chunks size items).flatten = items :=
  flatten_upTo positive (Nat.le_refl _)

theorem map_length_upTo {β : Type} {size count : Nat} {items : List α} {others : List β}
    (same : items.length = others.length) :
    (upTo size count items).map List.length = (upTo size count others).map List.length := by
  induction count generalizing items others with
  | zero =>
      rfl
  | succ count ih =>
      cases items with
      | nil =>
          rw [List.length_eq_zero_iff.mp same.symm]
          rfl
      | cons item items =>
          cases others with
          | nil =>
              cases same
          | cons other others =>
              have dropped : ((item :: items).drop size).length =
                  ((other :: others).drop size).length := by
                rw [List.length_drop, List.length_drop, same]
              rw [upTo, upTo, List.map_cons, List.map_cons, ih dropped, List.length_take,
                List.length_take, same]

theorem map_length_chunks {β : Type} {size : Nat} {items : List α} {others : List β}
    (same : items.length = others.length) :
    (chunks size items).map List.length = (chunks size others).map List.length := by
  unfold chunks
  rw [same]
  exact map_length_upTo same

end Chunks
