/-
What materialization computes.

The inputs of `applySealed`, base first, are edits of a map from entry
references to payloads, and the working set is that map.  The map also names
the input from which each payload was copied, so it says where a retained
payload came from.
-/

import Hoike.Library.Overlay
import Hoike.Ahu.Ops
import Hoike.Ahu.Crates

namespace Hoike
namespace Ahu

/-! ### Inputs as edits -/

/-- What a bundle says about the entries it has records for: a payload, tagged
with the bundle, or a removal. -/
def Bundle.edit (bundle : Bundle) : Overlay.Edit EntryRef (Bundle × Bytes) :=
  fun reference => (bundle.record reference).map fun record =>
    (bundle.entryBytes record).map fun payload => (bundle, payload)

theorem Bundle.edit_of_record {bundle : Bundle} {reference : EntryRef} {record : IndexRecord}
    (found : bundle.record reference = some record) :
    bundle.edit reference =
      some ((bundle.entryBytes record).map fun payload => (bundle, payload)) := by
  unfold Bundle.edit
  rw [found, Option.map_some]

theorem Bundle.edit_eq_none {bundle : Bundle} {reference : EntryRef} :
    bundle.edit reference = none ↔ bundle.record reference = none := by
  unfold Bundle.edit
  rw [Option.map_eq_none_iff]

/-- The payloads that remain when the inputs are applied one after another,
each with the input it comes from. -/
def retained (inputs : List Bundle) : EntryRef → Option (Bundle × Bytes) :=
  Overlay.applyAll (fun _ => none) (inputs.map Bundle.edit)

def WorkingSet.Holds (workingSet : WorkingSet) (content : EntryRef → Option (Bundle × Bytes)) :
    Prop :=
  ∀ reference, workingSet[reference]?.map (fun entry => (entry.data, entry.window)) =
    (content reference).map fun origin => (origin.2, origin.1.manifest.window)

theorem Bundle.length_entryBytes {bundle : Bundle} {record : IndexRecord} {payload : Bytes}
    (found : bundle.entryBytes record = some payload) : payload.length < 2 ^ 32 := by
  have bound : record.dataLength.toNat < 2 ^ 32 := record.dataLength.toNat_lt
  unfold Bundle.entryBytes at found
  split_ifs at found
  cases found
  rw [List.length_take]
  omega

theorem Bundle.entryBytes_of_tombstone {bundle : Bundle} {record : IndexRecord}
    (tombstone : record.isTombstone = true) : bundle.entryBytes record = none := by
  unfold Bundle.entryBytes
  rw [if_pos tombstone]

/-! ### One record -/

theorem Tally.applyRecord_of_tombstone {delta : Bundle} {tally : Tally} {record : IndexRecord}
    (tombstone : record.isTombstone = true) :
    tally.applyRecord delta record =
      { tally with
        workingSet := tally.workingSet.erase record.reference
        removed := if tally.workingSet.contains record.reference then tally.removed + 1
          else tally.removed } := by
  unfold Tally.applyRecord
  rw [if_pos tombstone]

theorem Tally.applyRecord_of_data {delta : Bundle} {tally : Tally} {record : IndexRecord}
    {data : Bytes} (found : delta.entryBytes record = some data) :
    tally.applyRecord delta record =
      { tally with
        workingSet := tally.workingSet.insert record.reference (retainedEntry delta record data)
        replaced := if tally.workingSet.contains record.reference then tally.replaced + 1
          else tally.replaced
        added := if tally.workingSet.contains record.reference then tally.added
          else tally.added + 1 } := by
  have live : ¬ record.isTombstone = true := by
    intro tombstone
    rw [Bundle.entryBytes_of_tombstone tombstone] at found
    cases found
  unfold Tally.applyRecord
  rw [if_neg live, found]

theorem Tally.getElem?_applyRecord {delta : Bundle} {record : IndexRecord} (tally : Tally)
    (bounded : record.isTombstone ∨ (delta.entryBytes record).isSome) (reference : EntryRef) :
    (tally.applyRecord delta record).workingSet[reference]? =
      if record.reference = reference then
        (delta.entryBytes record).map (retainedEntry delta record)
      else tally.workingSet[reference]? := by
  cases bounded with
  | inl tombstone =>
      rw [Tally.applyRecord_of_tombstone tombstone, Bundle.entryBytes_of_tombstone tombstone]
      simp only [Std.TreeMap.getElem?_erase, EntryRef.order_eq_eq, Option.map_none]
  | inr live =>
      obtain ⟨data, found⟩ := Option.isSome_iff_exists.mp live
      rw [Tally.applyRecord_of_data found, found]
      simp only [Std.TreeMap.getElem?_insert, EntryRef.order_eq_eq, Option.map_some]

theorem Tally.size_applyRecord {delta : Bundle} {record : IndexRecord} (tally : Tally)
    (bounded : record.isTombstone ∨ (delta.entryBytes record).isSome) :
    (tally.applyRecord delta record).workingSet.size +
        (tally.applyRecord delta record).removed + tally.added =
      tally.workingSet.size + tally.removed + (tally.applyRecord delta record).added := by
  cases bounded with
  | inl tombstone =>
      rw [Tally.applyRecord_of_tombstone tombstone]
      simp only [Std.TreeMap.size_erase]
      split_ifs with present
      · have positive : 0 < tally.workingSet.size := by
          apply Nat.pos_of_ne_zero
          intro empty
          have isEmpty : tally.workingSet.isEmpty = true := by
            rw [Std.TreeMap.isEmpty_eq_size_eq_zero, empty]
            rfl
          rw [Std.TreeMap.contains_of_isEmpty isEmpty] at present
          cases present
        omega
      · rfl
  | inr live =>
      obtain ⟨data, found⟩ := Option.isSome_iff_exists.mp live
      rw [Tally.applyRecord_of_data found]
      simp only [Std.TreeMap.size_insert]
      split_ifs with present
      · rfl
      · omega

/-! ### One input -/

theorem Tally.getElem?_foldl {delta : Bundle} {records : List IndexRecord} :
    ∀ tally : Tally, Ascending records →
      (∀ record ∈ records, record.isTombstone ∨ (delta.entryBytes record).isSome) →
      (∀ record ∈ records,
        (records.foldl (Tally.applyRecord delta) tally).workingSet[record.reference]? =
          (delta.entryBytes record).map (retainedEntry delta record)) ∧
      ∀ reference, (∀ record ∈ records, record.reference ≠ reference) →
        (records.foldl (Tally.applyRecord delta) tally).workingSet[reference]? =
          tally.workingSet[reference]? := by
  induction records with
  | nil =>
      intro tally _ _
      constructor
      · intro record member
        cases member
      · intro reference _
        rfl
  | cons first rest ih =>
      intro tally ascending bounded
      obtain ⟨above, ascending⟩ := List.pairwise_cons.mp ascending
      obtain ⟨boundedFirst, boundedRest⟩ := List.forall_mem_cons.mp bounded
      have step := tally.getElem?_applyRecord boundedFirst
      obtain ⟨written, kept⟩ := ih (tally.applyRecord delta first) ascending boundedRest
      rw [List.foldl_cons]
      constructor
      · intro record member
        cases List.mem_cons.mp member with
        | inl same =>
            subst same
            have later : ∀ other ∈ rest, other.reference ≠ record.reference := by
              intro other behind same
              have less := above other behind
              rw [same, EntryRef.order_eq_eq.mpr rfl] at less
              cases less
            rw [kept record.reference later, step, if_pos rfl]
        | inr behind =>
            exact written record behind
      · intro reference absent
        obtain ⟨notFirst, notRest⟩ := List.forall_mem_cons.mp absent
        rw [kept reference notRest, step, if_neg notFirst]

theorem WorkingSet.Holds.applyRecords {delta : Bundle} {workingSet : WorkingSet}
    {content : EntryRef → Option (Bundle × Bytes)} (holds : workingSet.Holds content)
    (ascending : Ascending delta.index)
    (bounded : ∀ record ∈ delta.index, record.isTombstone ∨ (delta.entryBytes record).isSome) :
    (Ahu.applyRecords delta workingSet).workingSet.Holds (Overlay.apply content delta.edit) := by
  obtain ⟨written, kept⟩ :=
    Tally.getElem?_foldl (.start workingSet) ascending bounded
  intro reference
  cases found : delta.record reference with
  | some record =>
      obtain ⟨member, same⟩ := (Bundle.record_eq_some_iff ascending).mp found
      rw [Overlay.apply_of_mentioned (Bundle.edit_of_record found)]
      unfold Ahu.applyRecords
      rw [← same, written record member, Option.map_map, Option.map_map]
      rfl
  | none =>
      rw [Overlay.apply_of_silent (Bundle.edit_eq_none.mpr found)]
      unfold Ahu.applyRecords
      rw [kept reference ((Bundle.record_eq_none_iff ascending.nonDescending).mp found)]
      exact holds reference

theorem size_applyRecords {delta : Bundle}
    (bounded : ∀ record ∈ delta.index, record.isTombstone ∨ (delta.entryBytes record).isSome)
    (workingSet : WorkingSet) :
    (applyRecords delta workingSet).workingSet.size + (applyRecords delta workingSet).removed =
      workingSet.size + (applyRecords delta workingSet).added := by
  have run : ∀ (records : List IndexRecord) (tally : Tally),
      (∀ record ∈ records, record.isTombstone ∨ (delta.entryBytes record).isSome) →
      (records.foldl (Tally.applyRecord delta) tally).workingSet.size +
          (records.foldl (Tally.applyRecord delta) tally).removed + tally.added =
        tally.workingSet.size + tally.removed +
          (records.foldl (Tally.applyRecord delta) tally).added := by
    intro records
    induction records with
    | nil =>
        intro tally _
        rfl
    | cons record rest ih =>
        intro tally bounded
        obtain ⟨boundedFirst, boundedRest⟩ := List.forall_mem_cons.mp bounded
        have step := tally.size_applyRecord boundedFirst
        have others := ih (tally.applyRecord delta record) boundedRest
        rw [List.foldl_cons]
        omega
  exact run delta.index (.start workingSet) bounded

/-! ### The base -/

def Bundle.payloadCount (bundle : Bundle) : Nat :=
  (bundle.index.filterMap bundle.entryBytes).length

def retainRecord (base : Bundle) (workingSet : WorkingSet) (record : IndexRecord) : WorkingSet :=
  match base.entryBytes record with
  | some data => workingSet.insert record.reference (retainedEntry base record data)
  | none => workingSet

theorem getElem?_retainRecord (base : Bundle) {workingSet : WorkingSet} {record : IndexRecord}
    (fresh : workingSet[record.reference]? = none) (reference : EntryRef) :
    (retainRecord base workingSet record)[reference]? =
      if record.reference = reference then
        (base.entryBytes record).map (retainedEntry base record)
      else workingSet[reference]? := by
  unfold retainRecord
  cases base.entryBytes record with
  | some data =>
      simp only [Std.TreeMap.getElem?_insert, EntryRef.order_eq_eq, Option.map_some]
  | none =>
      split_ifs with same
      · rw [← same]
        exact fresh
      · rfl

theorem size_retainRecord {base : Bundle} {workingSet : WorkingSet} {record : IndexRecord}
    (fresh : workingSet[record.reference]? = none) :
    (retainRecord base workingSet record).size =
      workingSet.size + ([record].filterMap base.entryBytes).length := by
  have absent : workingSet.contains record.reference = false := by
    rw [Std.TreeMap.contains_eq_isSome_getElem?, fresh]
    rfl
  unfold retainRecord
  cases found : base.entryBytes record with
  | some data =>
      simp only [Std.TreeMap.size_insert, absent, List.filterMap_cons, found]
      rfl
  | none =>
      simp only [List.filterMap_cons, found]
      rfl

theorem foldl_retainRecord (base : Bundle) {records : List IndexRecord} :
    ∀ workingSet : WorkingSet, Ascending records →
      (∀ record ∈ records, workingSet[record.reference]? = none) →
      (∀ record ∈ records, (records.foldl (retainRecord base) workingSet)[record.reference]? =
          (base.entryBytes record).map (retainedEntry base record)) ∧
        (∀ reference, (∀ record ∈ records, record.reference ≠ reference) →
          (records.foldl (retainRecord base) workingSet)[reference]? = workingSet[reference]?) ∧
        (records.foldl (retainRecord base) workingSet).size =
          workingSet.size + (records.filterMap base.entryBytes).length := by
  induction records with
  | nil =>
      intro workingSet _ _
      refine ⟨?_, fun _ _ => rfl, rfl⟩
      intro record member
      cases member
  | cons first rest ih =>
      intro workingSet ascending fresh
      obtain ⟨above, ascending⟩ := List.pairwise_cons.mp ascending
      obtain ⟨freshFirst, freshRest⟩ := List.forall_mem_cons.mp fresh
      have different : ∀ other ∈ rest, other.reference ≠ first.reference := by
        intro other behind same
        have less := above other behind
        rw [same, EntryRef.order_eq_eq.mpr rfl] at less
        cases less
      have step := getElem?_retainRecord base freshFirst
      obtain ⟨written, kept, size⟩ := ih (retainRecord base workingSet first)
        ascending (by
          intro record member
          rw [step, if_neg (fun same => different record member same.symm)]
          exact freshRest record member)
      rw [List.foldl_cons]
      refine ⟨?_, ?_, ?_⟩
      · intro record member
        cases List.mem_cons.mp member with
        | inl same =>
            subst same
            rw [kept record.reference different, step, if_pos rfl]
        | inr behind =>
            exact written record behind
      · intro reference absent
        obtain ⟨notFirst, notRest⟩ := List.forall_mem_cons.mp absent
        rw [kept reference notRest, step, if_neg notFirst]
      · have split : (first :: rest).filterMap base.entryBytes =
            [first].filterMap base.entryBytes ++ rest.filterMap base.entryBytes := by
          rw [← List.filterMap_append, List.singleton_append]
        rw [size, size_retainRecord freshFirst, split, List.length_append, Nat.add_assoc]

theorem holds_retainBase {base : Bundle} (ascending : Ascending base.index) :
    (retainBase base).Holds (retained [base]) := by
  obtain ⟨written, kept, _⟩ := foldl_retainRecord base ∅ ascending
    (fun _ _ => Std.TreeMap.getElem?_emptyc)
  intro reference
  change ((base.index.foldl (retainRecord base) ∅)[reference]?).map _ = _
  unfold retained
  rw [List.map_singleton, Overlay.applyAll_cons, Overlay.applyAll_nil]
  cases found : base.record reference with
  | some record =>
      obtain ⟨member, same⟩ := (Bundle.record_eq_some_iff ascending).mp found
      rw [Overlay.apply_of_mentioned (Bundle.edit_of_record found), ← same, written record member, Option.map_map,
        Option.map_map]
      rfl
  | none =>
      rw [Overlay.apply_of_silent (Bundle.edit_eq_none.mpr found),
        kept reference ((Bundle.record_eq_none_iff ascending.nonDescending).mp found),
        Std.TreeMap.getElem?_emptyc]
      rfl

theorem size_retainBase {base : Bundle} (ascending : Ascending base.index) :
    (retainBase base).size = base.payloadCount := by
  obtain ⟨_, _, size⟩ := foldl_retainRecord base ∅ ascending
    (fun _ _ => Std.TreeMap.getElem?_emptyc)
  have empty : (∅ : WorkingSet).size = 0 := rfl
  rw [empty, Nat.zero_add] at size
  exact size

/-! ### All inputs -/

section Inputs

variable [Sha2] [Ciborium]

theorem Follows.verified {base delta : Bundle} {expected : Octets 32}
    (follows : Follows base expected delta) : ∃ signed, delta.Verified signed :=
  verifyStructure_eq_ok.mp follows.verifies

theorem Chained.verified {base : Bundle} {deltas : List Bundle} :
    ∀ {expected : Octets 32}, Chained base expected deltas →
      ∀ delta ∈ deltas, ∃ signed, delta.Verified signed := by
  induction deltas with
  | nil =>
      intro expected _ delta member
      cases member
  | cons first rest ih =>
      intro expected chained delta member
      cases List.mem_cons.mp member with
      | inl same =>
          rw [same]
          exact chained.1.verified
      | inr behind =>
          exact ih chained.2 delta behind

theorem holds_foldl_advance {deltas : List Bundle} :
    ∀ {progress : Progress} {content : EntryRef → Option (Bundle × Bytes)},
      (∀ delta ∈ deltas, ∃ signed, delta.Verified signed) →
      progress.workingSet.Holds content →
      (deltas.foldl Progress.advance progress).workingSet.Holds
        (Overlay.applyAll content (deltas.map Bundle.edit)) := by
  induction deltas with
  | nil =>
      intro progress content _ holds
      exact holds
  | cons delta rest ih =>
      intro progress content verified holds
      obtain ⟨⟨signed, first⟩, others⟩ := List.forall_mem_cons.mp verified
      rw [List.foldl_cons, List.map_cons, Overlay.applyAll_cons]
      exact ih others (holds.applyRecords first.ascending first.bounded)

theorem holds_finish {base : Bundle} {deltas : List Bundle} {signed : Manifest}
    (verified : base.Verified signed)
    (chained : Chained base (manifestDigest base.manifestBytes) deltas) :
    (Progress.finish base deltas).workingSet.Holds (retained (base :: deltas)) := by
  unfold Progress.finish
  apply holds_foldl_advance chained.verified
  exact holds_retainBase verified.ascending

def DeltaStat.total (count : DeltaStat → Nat) (stats : List DeltaStat) : Nat :=
  stats.foldr (fun stat rest => count stat + rest) 0

omit [Sha2] [Ciborium] in
theorem DeltaStat.total_concat (count : DeltaStat → Nat) (stats : List DeltaStat)
    (last : DeltaStat) :
    DeltaStat.total count (stats ++ [last]) = DeltaStat.total count stats + count last := by
  induction stats with
  | nil =>
      exact Nat.add_comm _ _
  | cons first rest ih =>
      change count first + DeltaStat.total count (rest ++ [last]) =
        count first + DeltaStat.total count rest + count last
      rw [ih, Nat.add_assoc]

theorem size_foldl_advance {deltas : List Bundle} :
    ∀ progress : Progress, (∀ delta ∈ deltas, ∃ signed, delta.Verified signed) →
      (deltas.foldl Progress.advance progress).workingSet.size +
          DeltaStat.total DeltaStat.removed (deltas.foldl Progress.advance progress).stats +
          DeltaStat.total DeltaStat.added progress.stats =
        progress.workingSet.size + DeltaStat.total DeltaStat.removed progress.stats +
          DeltaStat.total DeltaStat.added (deltas.foldl Progress.advance progress).stats := by
  induction deltas with
  | nil =>
      intro progress _
      rfl
  | cons delta rest ih =>
      intro progress verified
      obtain ⟨⟨signed, first⟩, others⟩ := List.forall_mem_cons.mp verified
      have step := size_applyRecords first.bounded progress.workingSet
      have behind := ih (progress.advance delta) others
      rw [List.foldl_cons]
      simp only [Progress.advance, DeltaStat.total_concat] at behind ⊢
      omega

omit [Ciborium] in
theorem prevManifestDigest_foldl_advance {deltas : List Bundle} :
    ∀ {progress : Progress} {last : Bundle},
      progress.prevManifestDigest = manifestDigest last.manifestBytes →
      (deltas.foldl Progress.advance progress).prevManifestDigest =
        manifestDigest (deltas.getLastD last).manifestBytes := by
  induction deltas with
  | nil =>
      intro progress last same
      exact same
  | cons delta rest ih =>
      intro progress last _
      rw [List.foldl_cons, List.getLastD_cons]
      exact ih rfl

omit [Sha2] [Ciborium] in
theorem foldEpochs_spec (scopes : List CaScope) :
    ∀ start : UInt64, start ≤ foldEpochs start scopes ∧
      (∀ scope ∈ scopes, scope.epoch ≤ foldEpochs start scopes) ∧
      (foldEpochs start scopes = start ∨
        ∃ scope ∈ scopes, scope.epoch = foldEpochs start scopes) := by
  induction scopes with
  | nil =>
      intro start
      refine ⟨UInt64.le_refl _, ?_, Or.inl rfl⟩
      intro scope member
      cases member
  | cons first rest ih =>
      intro start
      obtain ⟨above, all, attained⟩ := ih (maxU64 start first.epoch)
      obtain ⟨left, right, choice⟩ := maxU64_spec start first.epoch
      have unfolded : foldEpochs start (first :: rest) =
          foldEpochs (maxU64 start first.epoch) rest := rfl
      rw [unfolded]
      refine ⟨UInt64.le_trans left above, ?_, ?_⟩
      · intro scope member
        cases List.mem_cons.mp member with
        | inl same =>
            rw [same]
            exact UInt64.le_trans right above
        | inr behind =>
            exact all scope behind
      · cases attained with
        | inl same =>
            rw [same]
            cases choice with
            | inl old =>
                exact Or.inl old
            | inr new =>
                exact Or.inr ⟨first, List.mem_cons_self, new.symm⟩
        | inr found =>
            obtain ⟨scope, member, same⟩ := found
            exact Or.inr ⟨scope, List.mem_cons_of_mem _ member, same⟩

def inputScopes (inputs : List Bundle) : List CaScope :=
  inputs.flatMap fun input => input.manifest.caScopes

omit [Ciborium] in
theorem maxEpoch_foldl_advance {deltas : List Bundle} :
    ∀ {progress : Progress},
      (deltas.foldl Progress.advance progress).maxEpoch =
        foldEpochs progress.maxEpoch (inputScopes deltas) := by
  induction deltas with
  | nil =>
      intro progress
      rfl
  | cons delta rest ih =>
      intro progress
      rw [List.foldl_cons, ih]
      unfold inputScopes foldEpochs
      rw [List.flatMap_cons, List.foldl_append]
      rfl

omit [Ciborium] in
theorem maxEpoch_finish (base : Bundle) (deltas : List Bundle) :
    (Progress.finish base deltas).maxEpoch = foldEpochs 0 (inputScopes (base :: deltas)) := by
  unfold Progress.finish
  rw [maxEpoch_foldl_advance]
  unfold inputScopes foldEpochs
  rw [List.flatMap_cons, List.foldl_append]
  rfl

end Inputs

/-! ### Origins -/

/-- A retained payload stands in the last input that has a record for it. -/
theorem retained_eq_some_iff {inputs : List Bundle} {reference : EntryRef} {source : Bundle}
    {payload : Bytes} :
    retained inputs reference = some (source, payload) ↔
      ∃ front back record, inputs = front ++ source :: back ∧
        source.record reference = some record ∧ source.entryBytes record = some payload ∧
        ∀ later ∈ back, later.record reference = none := by
  unfold retained
  rw [Overlay.applyAll_eq_some_iff]
  constructor
  · intro decided
    obtain ⟨front, edit, back, same, written, silent⟩ := decided
    obtain ⟨before, behind, split, _, tail⟩ := List.map_eq_append_iff.mp same
    obtain ⟨writer, after, cut, edits, later⟩ := List.map_eq_cons_iff.mp tail
    subst edits
    cases found : writer.record reference with
    | none =>
        rw [Bundle.edit_eq_none.mpr found] at written
        cases written
    | some record =>
        rw [Bundle.edit_of_record found, Option.some.injEq] at written
        obtain ⟨data, content, tagged⟩ := Option.map_eq_some_iff.mp written
        cases tagged
        refine ⟨before, after, record, by rw [split, cut], found, content, ?_⟩
        intro other member
        apply Bundle.edit_eq_none.mp
        apply silent
        rw [← later]
        exact List.mem_map_of_mem member
  · intro placed
    obtain ⟨front, back, record, split, found, content, silent⟩ := placed
    refine ⟨front.map Bundle.edit, source.edit, back.map Bundle.edit, ?_, ?_, ?_⟩
    · rw [split, List.map_append, List.map_cons]
    · rw [Bundle.edit_of_record found, content, Option.map_some]
    · intro later member
      obtain ⟨other, among, same⟩ := List.mem_map.mp member
      rw [← same]
      exact Bundle.edit_eq_none.mpr (silent other among)

theorem length_of_retained {inputs : List Bundle} {reference : EntryRef} {source : Bundle}
    {payload : Bytes} (present : retained inputs reference = some (source, payload)) :
    payload.length < 2 ^ 32 := by
  obtain ⟨_, _, record, _, _, content, _⟩ := retained_eq_some_iff.mp present
  exact Bundle.length_entryBytes content

theorem mem_inputs_of_retained {inputs : List Bundle} {reference : EntryRef} {source : Bundle}
    {payload : Bytes} (present : retained inputs reference = some (source, payload)) :
    source ∈ inputs := by
  obtain ⟨front, back, _, split, _⟩ := retained_eq_some_iff.mp present
  rw [split]
  exact List.mem_append_right _ List.mem_cons_self

section Holds

variable {workingSet : WorkingSet} {content : EntryRef → Option (Bundle × Bytes)}

theorem WorkingSet.Holds.entry (holds : workingSet.Holds content) {reference : EntryRef}
    {entry : RetainedEntry} (present : workingSet[reference]? = some entry) :
    ∃ source, content reference = some (source, entry.data) ∧
      entry.window = source.manifest.window := by
  have same := holds reference
  rw [present, Option.map_some] at same
  obtain ⟨origin, found, equal⟩ := Option.map_eq_some_iff.mp same.symm
  obtain ⟨source, payload⟩ := origin
  have data : payload = entry.data := congrArg Prod.fst equal
  subst data
  exact ⟨source, found, (congrArg Prod.snd equal).symm⟩

theorem WorkingSet.Holds.origin (holds : workingSet.Holds content) {reference : EntryRef}
    {source : Bundle} {payload : Bytes} (found : content reference = some (source, payload)) :
    ∃ entry, workingSet[reference]? = some entry ∧ entry.data = payload ∧
      entry.window = source.manifest.window := by
  have same := holds reference
  rw [found, Option.map_some] at same
  obtain ⟨entry, present, equal⟩ := Option.map_eq_some_iff.mp same
  exact ⟨entry, present, congrArg Prod.fst equal, congrArg Prod.snd equal⟩

end Holds

/-! ### The output -/

theorem entries_foldl_add (items : List (EntryRef × RetainedEntry)) :
    ∀ builder : BundleBuilder,
      items.foldl (fun builder item => builder.addEntryWithDiscriminator item.1.entryKey
          item.1.discriminator item.2.data) builder =
        { builder with
          entries := builder.entries ++ items.map fun item =>
            (unplacedRecord item.1.entryKey .empty item.1.discriminator item.2.data,
              item.2.data) } := by
  induction items with
  | nil =>
      intro builder
      rw [List.map_nil, List.append_nil]
      rfl
  | cons item rest ih =>
      intro builder
      rw [List.foldl_cons, ih, List.map_cons]
      unfold BundleBuilder.addEntryWithDiscriminator
      rw [List.append_assoc, List.singleton_append]

theorem materializedBuilder_eq (manifest : Manifest) (workingSet : WorkingSet) :
    materializedBuilder manifest workingSet =
      { manifest := manifest
        entries := workingSet.toList.map fun item =>
          (unplacedRecord item.1.entryKey .empty item.1.discriminator item.2.data,
            item.2.data) } :=
  entries_foldl_add workingSet.toList (.new manifest)

section Output

variable [Sha2]

theorem sound_materializedBuilder {manifest : Manifest} {workingSet : WorkingSet}
    {inputs : List Bundle} (holds : workingSet.Holds (retained inputs))
    (isFull : manifest.bundleType = .full) :
    (materializedBuilder manifest workingSet).Sound := by
  rw [materializedBuilder_eq]
  refine ⟨⟨?_, ?_⟩, ?_, ?_⟩
  · intro entry member
    obtain ⟨item, present, same⟩ := List.mem_map.mp member
    obtain ⟨source, found, _⟩ :=
      holds.entry (Std.TreeMap.mem_toList_iff_getElem?_eq_some.mp present)
    rw [← same]
    exact length_of_retained found
  · intro left leftMember
    obtain ⟨entry, member, aliased, _⟩ := leftMember
    obtain ⟨item, _, same⟩ := List.mem_map.mp member
    rw [← same] at aliased
    cases aliased
  · unfold BundleBuilder.Distinct
    rw [List.map_map]
    apply List.pairwise_map.mpr
    apply List.Pairwise.imp _ workingSet.distinct_keys_toList
    intro left right different same
    exact different (EntryRef.order_eq_eq.mpr same)
  · intro isDelta
    rw [isFull] at isDelta
    cases isDelta

theorem payload_written {manifest : Manifest} {workingSet : WorkingSet} {inputs : List Bundle}
    (holds : workingSet.Holds (retained inputs)) (isFull : manifest.bundleType = .full)
    (fits : (materializedBuilder manifest workingSet).placement.data.length < 2 ^ 63)
    [Ciborium] (header : FileHeader) (sealBytes : Bytes) (reference : EntryRef) :
    ((materializedBuilder manifest workingSet).written header sealBytes).payload reference =
      (retained inputs reference).map Prod.snd := by
  have sound := sound_materializedBuilder holds isFull
  have entries := congrArg BundleBuilder.entries (materializedBuilder_eq manifest workingSet)
  cases present : workingSet[reference]? with
  | some entry =>
      obtain ⟨source, found, _⟩ := holds.entry present
      have listed := Std.TreeMap.mem_toList_iff_getElem?_eq_some.mpr present
      have member : (unplacedRecord reference.entryKey .empty reference.discriminator entry.data,
          entry.data) ∈ (materializedBuilder manifest workingSet).entries := by
        rw [entries]
        exact List.mem_map_of_mem listed
      have payload := sound.payload_of_mem header sealBytes fits member
      rw [found, Option.map_some]
      exact payload
  | none =>
      have nothing : retained inputs reference = none := by
        have same := holds reference
        rw [present, Option.map_none] at same
        exact Option.map_eq_none_iff.mp same.symm
      have absent : ∀ entry ∈ (materializedBuilder manifest workingSet).entries,
          entry.1.reference ≠ reference := by
        intro entry member same
        rw [entries] at member
        obtain ⟨item, listed, equal⟩ := List.mem_map.mp member
        rw [← equal] at same
        have found := Std.TreeMap.mem_toList_iff_getElem?_eq_some.mp listed
        have key : item.1 = reference := same
        rw [key, present] at found
        cases found
      have missing := sound.record_eq_none header sealBytes fits absent
      rw [nothing, Bundle.payload_eq_bind, missing, Option.bind_none, Option.map_none]

end Output

/-! ### Sample inputs -/

section Samples

local instance materializedSha2 : Sha2 := Crates.sha2
local instance materializedCiborium : Ciborium := Crates.ciborium

def sampleKey (octet : UInt8) : Octets 32 :=
  .filled 32 octet

def sampleReference (octet : UInt8) : EntryRef :=
  { entryKey := sampleKey octet
    discriminator := 0 }

def inputHeader : FileHeader :=
  builtHeader [] [] [] []

def sampleInput (manifest : Manifest) (entries : List (UInt8 × Option Bytes)) : Bundle :=
  let builder := entries.foldl (fun builder entry =>
      match entry.2 with
      | some payload => builder.addEntry (sampleKey entry.1) payload
      | none => builder.addTombstone (sampleKey entry.1) 0)
    (BundleBuilder.new manifest)
  builder.written inputHeader []

def deltaManifest (base previous : Bundle) (epoch : UInt64) : Manifest :=
  { Crates.plainManifest "p" [Crates.plainScope 0xaa epoch] none with
    bundleType := .delta
    continuity :=
      { prevManifestDigest := some (manifestDigest previous.manifestBytes)
        baseManifestDigest := some (manifestDigest base.manifestBytes)
        chainLength := 1 } }

def sampleBase : Bundle :=
  sampleInput (Crates.plainManifest "p" [Crates.plainScope 0xaa 5] none)
    [(1, some [7, 8, 9]), (2, some [4])]

def sampleDelta : Bundle :=
  sampleInput (deltaManifest sampleBase sampleBase 6) [(1, some [1]), (2, none), (3, some [5, 6])]

def shortFn (manifestBytes : Bytes) : Except AhuError Bytes :=
  if manifestBytes.length < 2 ^ 32 then .ok []
  else .error (.invalidOperation "manifest too large")

theorem sampleDelta_applies : (applySealed sampleBase [sampleDelta] shortFn).isOk = true := by
  decide +kernel

example : (applySealed sampleBase [sampleDelta, sampleDelta] shortFn).isOk = false := by
  decide +kernel

end Samples

end Ahu
end Hoike
