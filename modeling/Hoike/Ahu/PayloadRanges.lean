/-
Where the builder stores payloads.

Two records of a built bundle point at the same range of the data section exactly
when both of their entries are marked as aliases and have payloads of one digest.
A mark of its own therefore tells the truth as soon as every marked entry has a
marked companion.
-/

import Hoike.Ahu.Builder
import Mathlib.Data.List.Pairwise
import Mathlib.Data.List.Perm.Basic

namespace Hoike
namespace Ahu

/-! ### Companions in a list -/

theorem exists_companion {α : Type} {property : α → Bool} {items : List α}
    (twice : 2 ≤ items.countP property) {position : Nat} {item : α}
    (here : items[position]? = some item) (holds : property item = true) :
    ∃ other ∈ items.eraseIdx position, property other = true := by
  obtain ⟨within, same⟩ := List.getElem?_eq_some_iff.mp here
  have count := (List.getElem_cons_eraseIdx_perm within).countP_eq property
  rw [same, List.countP_cons_of_pos holds] at count
  apply List.countP_pos_iff.mp
  omega

theorem related_of_mem_eraseIdx {α : Type} {related : α → α → Prop} [Std.Symm related]
    {items : List α} (pairwise : items.Pairwise related) {position : Nat} {item other : α}
    (here : items[position]? = some item) (member : other ∈ items.eraseIdx position) :
    related other item := by
  obtain ⟨place, different, there⟩ := List.mem_eraseIdx_iff_getElem?.mp member
  obtain ⟨within, rfl⟩ := List.getElem?_eq_some_iff.mp here
  obtain ⟨inside, rfl⟩ := List.getElem?_eq_some_iff.mp there
  rcases Nat.lt_or_gt_of_ne different with before | behind
  · exact List.pairwise_iff_getElem.mp pairwise _ _ _ _ before
  · exact Std.Symm.symm _ _ (List.pairwise_iff_getElem.mp pairwise _ _ _ _ behind)

/-! ### Ranges -/

def IndexRecord.SameRange (left right : IndexRecord) : Prop :=
  left.dataOffset = right.dataOffset ∧ left.dataLength = right.dataLength

section Ranges

variable [Sha2]

/-- Entries whose payloads the builder stores once. -/
def StoredOnce (left right : IndexRecord × Bytes) : Prop :=
  left.1.isAlias = true ∧ right.1.isAlias = true ∧ Sha2.sha256 left.2 = Sha2.sha256 right.2

theorem StoredOnce.symm {left right : IndexRecord × Bytes} (once : StoredOnce left right) :
    StoredOnce right left :=
  ⟨once.2.1, once.1, once.2.2.symm⟩

omit [Sha2] in
theorem IndexRecord.SameRange.symm {left right : IndexRecord} (same : left.SameRange right) :
    right.SameRange left :=
  ⟨same.1.symm, same.2.symm⟩

def RangesMatch (left right : (IndexRecord × Bytes) × IndexRecord) : Prop :=
  left.2.SameRange right.2 ↔ StoredOnce left.1 right.1

instance RangesMatch.symmetric : Std.Symm RangesMatch where
  symm := fun _ _ related =>
    ⟨fun same => (related.mp same.symm).symm, fun once => (related.mpr once.symm).symm⟩

/-- Entries that are done, with their records: which of them share a range, and which
of them the remembered places stem from. -/
structure Placement.Ranged (placement : Placement)
    (done : List ((IndexRecord × Bytes) × IndexRecord)) : Prop where
  records : placement.records = done.map Prod.snd
  flags : ∀ item ∈ done, item.2.flags = item.1.1.flags
  shared : done.Pairwise RangesMatch
  below : ∀ item ∈ done, item.2.dataOffset.toNat < placement.data.length
  filed : ∀ item ∈ done, item.1.1.isAlias = true →
    placement.payloadOffsets (Sha2.sha256 item.1.2) = some (item.2.dataOffset, item.2.dataLength)
  origin : ∀ digest offset length, placement.payloadOffsets digest = some (offset, length) →
    ∃ item ∈ done, item.1.1.isAlias = true ∧ Sha2.sha256 item.1.2 = digest ∧
      item.2.dataOffset = offset ∧ item.2.dataLength = length

theorem Placement.ranged_empty : Placement.empty.Ranged [] where
  records := rfl
  flags := by simp
  shared := List.Pairwise.nil
  below := by simp
  filed := by simp
  origin := by
    intro digest offset length stored
    cases stored

section Step

variable {placement : Placement} {done : List ((IndexRecord × Bytes) × IndexRecord)}
  {record : IndexRecord} {payload : Bytes}

theorem Placement.Ranged.append_apart (ranged : placement.Ranged done)
    (dataFits : placement.data.length < 2 ^ 64) (placed : IndexRecord)
    (starts : placed.dataOffset = UInt64.ofNat placement.data.length)
    (unfiled : record.isAlias = true →
      placement.payloadOffsets (Sha2.sha256 payload) = none) :
    (done ++ [((record, payload), placed)]).Pairwise RangesMatch := by
  refine List.pairwise_append.mpr ⟨ranged.shared, List.pairwise_singleton _ _, ?_⟩
  intro item member last here
  rw [List.mem_singleton.mp here]
  constructor
  · intro same
    have below := ranged.below item member
    rw [same.1, starts, UInt64.toNat_ofNat_of_lt' dataFits] at below
    exact absurd below (Nat.lt_irrefl _)
  · rintro ⟨aliased, also, digest⟩
    have filed := ranged.filed item member aliased
    rw [digest, unfiled also] at filed
    cases filed

theorem Placement.Ranged.append_below (ranged : placement.Ranged done) (present : payload ≠ [])
    (dataFits : placement.data.length < 2 ^ 64) (placed : IndexRecord)
    (starts : placed.dataOffset = UInt64.ofNat placement.data.length) :
    ∀ item ∈ done ++ [((record, payload), placed)],
      item.2.dataOffset.toNat < (placement.data ++ payload).length := by
  have longer := List.length_pos_iff.mpr present
  intro item member
  rw [List.length_append]
  rcases List.mem_append.mp member with before | here
  · have below := ranged.below item before
    omega
  · rw [List.mem_singleton.mp here, starts, UInt64.toNat_ofNat_of_lt' dataFits]
    omega

theorem Placement.Ranged.append_flags (ranged : placement.Ranged done) {placed : IndexRecord}
    (kept : placed.flags = record.flags) :
    ∀ item ∈ done ++ [((record, payload), placed)], item.2.flags = item.1.1.flags := by
  intro item member
  rcases List.mem_append.mp member with before | here
  · exact ranged.flags item before
  · rw [List.mem_singleton.mp here]
    exact kept

theorem Placement.Ranged.append (ranged : placement.Ranged done) (present : payload ≠ [])
    (plain : record.isAlias = false) (dataFits : placement.data.length < 2 ^ 64) :
    ∃ placed, (placement.append record payload).Ranged (done ++ [((record, payload), placed)]) := by
  let placed : IndexRecord :=
    { record with
      dataOffset := UInt64.ofNat placement.data.length
      dataLength := UInt32.ofNat payload.length }
  refine ⟨placed,
    { records := ?_
      flags := ranged.append_flags rfl
      shared := ?_
      below := ranged.append_below present dataFits placed rfl
      filed := ?_
      origin := ?_ }⟩
  · rw [List.map_append, ← ranged.records]
    rfl
  · apply ranged.append_apart dataFits placed rfl
    intro aliased
    rw [plain] at aliased
    cases aliased
  · intro item member aliased
    rcases List.mem_append.mp member with before | here
    · exact ranged.filed item before aliased
    · rw [List.mem_singleton.mp here, plain] at aliased
      cases aliased
  · intro digest offset length stored
    obtain ⟨item, member, facts⟩ := ranged.origin digest offset length stored
    exact ⟨item, List.mem_append_left _ member, facts⟩

theorem Placement.Ranged.append_filed (ranged : placement.Ranged done) (present : payload ≠ [])
    (aliased : record.isAlias = true) (dataFits : placement.data.length < 2 ^ 64)
    (unknown : placement.payloadOffsets (Sha2.sha256 payload) = none) :
    ∃ placed, Placement.Ranged
      { placement.append record payload with
        payloadOffsets := Function.update placement.payloadOffsets (Sha2.sha256 payload)
          (some (UInt64.ofNat placement.data.length, UInt32.ofNat payload.length)) }
      (done ++ [((record, payload), placed)]) := by
  let placed : IndexRecord :=
    { record with
      dataOffset := UInt64.ofNat placement.data.length
      dataLength := UInt32.ofNat payload.length }
  refine ⟨placed,
    { records := ?_
      flags := ranged.append_flags rfl
      shared := ranged.append_apart dataFits placed rfl fun _ => unknown
      below := ranged.append_below present dataFits placed rfl
      filed := ?_
      origin := ?_ }⟩
  · rw [List.map_append, ← ranged.records]
    rfl
  · intro item member marked
    rcases List.mem_append.mp member with before | here
    · have filed := ranged.filed item before marked
      have other : Sha2.sha256 item.1.2 ≠ Sha2.sha256 payload := by
        intro same
        rw [same, unknown] at filed
        cases filed
      dsimp only
      rw [Function.update_of_ne other]
      exact filed
    · rw [List.mem_singleton.mp here]
      exact Function.update_self _ _ _
  · intro digest offset length stored
    dsimp only at stored
    by_cases new : digest = Sha2.sha256 payload
    · subst new
      rw [Function.update_self, Option.some.injEq, Prod.mk.injEq] at stored
      exact ⟨_, List.mem_append_right _ (List.mem_singleton_self _), aliased, rfl, stored.1,
        stored.2⟩
    · rw [Function.update_of_ne new] at stored
      obtain ⟨item, member, facts⟩ := ranged.origin digest offset length stored
      exact ⟨item, List.mem_append_left _ member, facts⟩

theorem Placement.Ranged.push (ranged : placement.Ranged done) (aliased : record.isAlias = true)
    {offset : UInt64} {length : UInt32}
    (known : placement.payloadOffsets (Sha2.sha256 payload) = some (offset, length)) :
    ∃ placed, (placement.push record offset length).Ranged
      (done ++ [((record, payload), placed)]) := by
  let placed : IndexRecord :=
    { record with
      dataOffset := offset
      dataLength := length }
  obtain ⟨first, among, marked, digest, starts, spans⟩ := ranged.origin _ _ _ known
  refine ⟨placed,
    { records := ?_
      flags := ranged.append_flags rfl
      shared := ?_
      below := ?_
      filed := ?_
      origin := ?_ }⟩
  · rw [List.map_append, ← ranged.records]
    rfl
  · refine List.pairwise_append.mpr ⟨ranged.shared, List.pairwise_singleton _ _, ?_⟩
    intro item member last here
    rw [List.mem_singleton.mp here]
    constructor
    · intro same
      -- The range belongs to the first entry with this digest.
      have shares : item.2.SameRange first.2 :=
        ⟨same.1.trans starts.symm, same.2.trans spans.symm⟩
      by_cases itself : item = first
      · rw [itself]
        exact ⟨marked, aliased, digest⟩
      · have once := (ranged.shared.forall member among itself).mp shares
        exact ⟨once.1, aliased, once.2.2.trans digest⟩
    · rintro ⟨also, _, same⟩
      have filed := ranged.filed item member also
      rw [same, known, Option.some.injEq, Prod.mk.injEq] at filed
      exact ⟨filed.1.symm, filed.2.symm⟩
  · intro item member
    rcases List.mem_append.mp member with before | here
    · exact ranged.below item before
    · rw [List.mem_singleton.mp here]
      change offset.toNat < _
      rw [← starts]
      exact ranged.below first among
  · intro item member also
    rcases List.mem_append.mp member with before | here
    · exact ranged.filed item before also
    · rw [List.mem_singleton.mp here]
      exact known
  · intro other start span stored
    obtain ⟨item, member, facts⟩ := ranged.origin other start span stored
    exact ⟨item, List.mem_append_left _ member, facts⟩

theorem Placement.Ranged.place {entry : IndexRecord × Bytes} (ranged : placement.Ranged done)
    (live : entry.1.isTombstone = false) (present : entry.2 ≠ [])
    (dataFits : placement.data.length < 2 ^ 64) :
    ∃ placed, (placement.place entry).Ranged (done ++ [(entry, placed)]) := by
  obtain ⟨record, payload⟩ := entry
  unfold Placement.place
  dsimp only
  rw [live, if_neg Bool.false_ne_true]
  cases aliased : record.isAlias with
  | false =>
      rw [if_neg Bool.false_ne_true]
      exact ranged.append present aliased dataFits
  | true =>
      rw [if_pos rfl]
      cases known : placement.payloadOffsets (Sha2.sha256 payload) with
      | none =>
          exact ranged.append_filed present aliased dataFits known
      | some range =>
          exact ranged.push aliased known

end Step

theorem Placement.Ranged.foldl {entries : List (IndexRecord × Bytes)} :
    ∀ {placement : Placement} {done : List ((IndexRecord × Bytes) × IndexRecord)},
      placement.Ranged done →
      (∀ entry ∈ entries, entry.1.isTombstone = false ∧ entry.2 ≠ []) →
      (entries.foldl Placement.place placement).data.length < 2 ^ 64 →
      ∃ more, more.map Prod.fst = entries ∧
        (entries.foldl Placement.place placement).Ranged (done ++ more) := by
  induction entries with
  | nil =>
      intro placement done ranged _ _
      refine ⟨[], rfl, ?_⟩
      rw [List.append_nil]
      exact ranged
  | cons entry rest ih =>
      intro placement done ranged filled fits
      obtain ⟨⟨live, present⟩, others⟩ := List.forall_mem_cons.mp filled
      rw [List.foldl_cons] at fits ⊢
      have dataFits : placement.data.length < 2 ^ 64 :=
        Nat.lt_of_le_of_lt (Nat.le_trans (placement.data_le_place entry)
          (Placement.data_le_foldl rest _)) fits
      obtain ⟨placed, step⟩ := ranged.place live present dataFits
      obtain ⟨more, same, run⟩ := ih step others fits
      refine ⟨(entry, placed) :: more, ?_, ?_⟩
      · rw [List.map_cons, same]
      · rw [List.append_assoc, List.singleton_append] at run
        exact run

/-! ### Truthful marks -/

/-- A record is marked as an alias exactly when another record points at its range. -/
def AliasesTruthful (records : List IndexRecord) : Prop :=
  ∀ position record, records[position]? = some record →
    (record.isAlias = true ↔ ∃ other ∈ records.eraseIdx position, other.SameRange record)

theorem BundleBuilder.aliasesTruthful {builder : BundleBuilder}
    (filled : ∀ entry ∈ builder.entries, entry.1.isTombstone = false ∧ entry.2 ≠ [])
    (fits : builder.placement.data.length < 2 ^ 64)
    (paired : ∀ entry ∈ builder.entries, entry.1.isAlias = true →
      2 ≤ builder.entries.countP fun other =>
        other.1.isAlias && decide (Sha2.sha256 other.2 = Sha2.sha256 entry.2)) :
    AliasesTruthful builder.placement.records := by
  obtain ⟨done, entries, ranged⟩ := Placement.Ranged.foldl Placement.ranged_empty
    (fun entry member => filled entry (BundleBuilder.mem_sorted.mp member)) fits
  rw [List.nil_append] at ranged
  change builder.placement.Ranged done at ranged
  intro position record here
  rw [ranged.records, List.getElem?_map] at here
  obtain ⟨item, placed, rfl⟩ := Option.map_eq_some_iff.mp here
  have flags : item.2.isAlias = item.1.1.isAlias :=
    congrArg IndexFlags.aliased (ranged.flags item (List.mem_of_getElem? placed))
  rw [ranged.records, List.eraseIdx_map, flags]
  constructor
  · intro aliased
    have source : builder.sorted[position]? = some item.1 := by
      rw [← entries, List.getElem?_map, placed]
      rfl
    have twice := paired item.1 (BundleBuilder.mem_sorted.mp (List.mem_of_getElem? source)) aliased
    rw [← (List.perm_insertionSort entryOrder builder.entries).countP_eq] at twice
    obtain ⟨other, member, companion⟩ := exists_companion twice source
      (by rw [aliased, decide_eq_true rfl]; rfl)
    obtain ⟨also, digest⟩ := Bool.and_eq_true_iff.mp companion
    change other ∈ builder.sorted.eraseIdx position at member
    rw [← entries, List.eraseIdx_map] at member
    obtain ⟨pair, among, rfl⟩ := List.mem_map.mp member
    refine ⟨pair.2, List.mem_map_of_mem among, ?_⟩
    exact (related_of_mem_eraseIdx ranged.shared placed among).mpr
      ⟨also, aliased, of_decide_eq_true digest⟩
  · rintro ⟨other, member, same⟩
    obtain ⟨pair, among, rfl⟩ := List.mem_map.mp member
    exact ((related_of_mem_eraseIdx ranged.shared placed among).mp same).2.1

end Ranges

end Ahu
end Hoike
