/-
Chains linked by digests.

Every item of a chain names the digest of the item before it, the first one a
given start.  When a digest determines what its item names and no item has the
start as its digest, the items of a chain have one order only: any chain of
some of them is a prefix.
-/

import Mathlib.Data.List.Infix

namespace LinkedChain

variable {Item Digest : Type} (digest previous : Item → Digest)

def Linked : (expected : Digest) → List Item → Prop
  | _, [] => True
  | expected, item :: rest => previous item = expected ∧ Linked (digest item) rest

variable {digest previous}

/-- The digests an item of the chain may name, in chain order. -/
def links (digest : Item → Digest) (start : Digest) (items : List Item) : List Digest :=
  start :: items.map digest

theorem Linked.links_previous {items : List Item} :
    ∀ {start : Digest} {position : Nat} {item : Item}, Linked digest previous start items →
      items[position]? = some item →
      (links digest start items)[position]? = some (previous item) := by
  induction items with
  | nil =>
      intro start position item _ present
      cases present
  | cons first rest ih =>
      intro start position item linked present
      cases position with
      | zero =>
          cases present
          exact congrArg some linked.1.symm
      | succ position =>
          exact ih linked.2 present

theorem links_succ {start : Digest} {items : List Item} {position : Nat} {link : Digest} :
    (links digest start items)[position + 1]? = some link ↔
      ∃ item, items[position]? = some item ∧ digest item = link := by
  change (items.map digest)[position]? = some link ↔ _
  rw [List.getElem?_map, Option.map_eq_some_iff]

section Distinct

variable {start : Digest} {items : List Item}

/-- No link stands at two positions.  Two equal links would name equal links
one position earlier, down to the start. -/
theorem Linked.links_distinct (linked : Linked digest previous start items)
    (determined : ∀ left ∈ items, ∀ right ∈ items, digest left = digest right →
      previous left = previous right)
    (fresh : ∀ item ∈ items, digest item ≠ start) :
    ∀ {low high : Nat} {link : Digest}, low < high →
      (links digest start items)[low]? = some link →
      (links digest start items)[high]? ≠ some link := by
  intro low
  induction low with
  | zero =>
      intro high link below atLow atHigh
      obtain ⟨high, rfl⟩ := Nat.exists_eq_add_one.mpr below
      obtain ⟨item, present, same⟩ := links_succ.mp atHigh
      cases atLow
      exact fresh item (List.mem_of_getElem? present) same
  | succ low ih =>
      intro high link below atLow atHigh
      obtain ⟨high, rfl⟩ := Nat.exists_eq_add_one.mpr (Nat.zero_lt_of_lt below)
      obtain ⟨lower, lowerAt, lowerLink⟩ := links_succ.mp atLow
      obtain ⟨higher, higherAt, higherLink⟩ := links_succ.mp atHigh
      have same : previous lower = previous higher :=
        determined lower (List.mem_of_getElem? lowerAt) higher (List.mem_of_getElem? higherAt)
          (lowerLink.trans higherLink.symm)
      have atHigher := linked.links_previous higherAt
      rw [← same] at atHigher
      exact ih (Nat.lt_of_succ_lt_succ below) (linked.links_previous lowerAt) atHigher

theorem Linked.prefix_drop (linked : Linked digest previous start items)
    (distinct : ∀ {low high : Nat} {link : Digest}, low < high →
      (links digest start items)[low]? = some link →
      (links digest start items)[high]? ≠ some link) :
    ∀ {others : List Item} {position : Nat} {expected : Digest},
      Linked digest previous expected others →
      (links digest start items)[position]? = some expected →
      (∀ item ∈ others, item ∈ items) → others <+: items.drop position := by
  intro others
  induction others with
  | nil =>
      intro position expected _ _ _
      exact List.nil_prefix
  | cons item rest ih =>
      intro position expected chained here members
      obtain ⟨found, present⟩ := List.mem_iff_getElem?.mp (members item List.mem_cons_self)
      have named := linked.links_previous present
      rw [chained.1] at named
      have same : found = position := by
        rcases Nat.lt_trichotomy found position with below | same | above
        · exact absurd here (distinct below named)
        · exact same
        · exact absurd named (distinct above here)
      subst same
      have next : (links digest start items)[found + 1]? = some (digest item) :=
        links_succ.mpr ⟨item, present, rfl⟩
      have tail := ih chained.2 next fun other member =>
        members other (List.mem_cons_of_mem _ member)
      obtain ⟨bound, atFound⟩ := List.getElem?_eq_some_iff.mp present
      rw [List.drop_eq_getElem_cons bound, atFound]
      exact List.cons_prefix_cons.mpr ⟨rfl, tail⟩

/-- Any chain of some of the items from the same start is a prefix. -/
theorem Linked.prefix_of_subset (linked : Linked digest previous start items)
    (determined : ∀ left ∈ items, ∀ right ∈ items, digest left = digest right →
      previous left = previous right)
    (fresh : ∀ item ∈ items, digest item ≠ start) {others : List Item}
    (chained : Linked digest previous start others) (members : ∀ item ∈ others, item ∈ items) :
    others <+: items := by
  have start_link : (links digest start items)[0]? = some start := rfl
  exact linked.prefix_drop (linked.links_distinct determined fresh) chained start_link members

end Distinct

end LinkedChain
