/-
Writing bundles (`BundleBuilder` in `bundle.rs`).

Entries are sorted, their payloads laid out one behind the other, and alias
entries with one payload share its place.  The section lengths in the header
are cut to 32 bits without a check, so the results about the written file ask
for a manifest and a seal of fewer than 2^32 octets.
-/

import Mathlib.Data.List.Sort
import Mathlib.Data.Set.Function
import Hoike.Ahu.Index
import Hoike.Ahu.ManifestCodec

namespace Hoike
namespace Ahu

structure BundleBuilder where
  manifest : Manifest
  entries : List (IndexRecord × Bytes)

def BundleBuilder.new (manifest : Manifest) : BundleBuilder :=
  { manifest := manifest
    entries := [] }

/-- A record whose place in the data section is not known yet.  The length is
cut to 32 bits. -/
def unplacedRecord (entryKey : Octets 32) (flags : IndexFlags) (discriminator : UInt16)
    (responseDer : Bytes) : IndexRecord :=
  { entryKey := entryKey
    dataOffset := 0
    dataLength := UInt32.ofNat responseDer.length
    flags := flags
    discriminator := discriminator }

def BundleBuilder.addEntryWithDiscriminator (builder : BundleBuilder) (entryKey : Octets 32)
    (discriminator : UInt16) (responseDer : Bytes) : BundleBuilder :=
  { builder with
    entries := builder.entries ++
      [(unplacedRecord entryKey .empty discriminator responseDer, responseDer)] }

def BundleBuilder.addEntry (builder : BundleBuilder) (entryKey : Octets 32)
    (responseDer : Bytes) : BundleBuilder :=
  builder.addEntryWithDiscriminator entryKey 0 responseDer

def aliasFlags : IndexFlags :=
  { multi := true
    aliased := true
    tombstone := false }

def BundleBuilder.addDualEntryWithDiscriminator (builder : BundleBuilder)
    (entryKey₁ entryKey₂ : Octets 32) (responseDer : Bytes) (discriminator : UInt16) :
    BundleBuilder :=
  { builder with
    entries := builder.entries ++
      [(unplacedRecord entryKey₁ aliasFlags discriminator responseDer, responseDer),
        (unplacedRecord entryKey₂ aliasFlags discriminator responseDer, responseDer)] }

def BundleBuilder.addDualEntry (builder : BundleBuilder) (entryKey₁ entryKey₂ : Octets 32)
    (responseDer : Bytes) : BundleBuilder :=
  builder.addDualEntryWithDiscriminator entryKey₁ entryKey₂ responseDer 0

def tombstoneFlags : IndexFlags :=
  { multi := false
    aliased := false
    tombstone := true }

def BundleBuilder.addTombstone (builder : BundleBuilder) (entryKey : Octets 32)
    (discriminator : UInt16) : BundleBuilder :=
  { builder with
    entries := builder.entries ++ [(unplacedRecord entryKey tombstoneFlags discriminator [], [])] }

/-! ### Laying out the payloads -/

/-- The data section, the records written so far and where alias payloads with
a digest are stored. -/
structure Placement where
  data : Bytes
  records : List IndexRecord
  payloadOffsets : Octets 32 → Option (UInt64 × UInt32)

def Placement.empty : Placement :=
  { data := []
    records := []
    payloadOffsets := fun _ => none }

def Placement.push (placement : Placement) (record : IndexRecord) (offset : UInt64)
    (length : UInt32) : Placement :=
  { placement with
    records := placement.records ++
      [{ record with
          dataOffset := offset
          dataLength := length }] }

def Placement.append (placement : Placement) (record : IndexRecord) (payload : Bytes) :
    Placement :=
  let placed := placement.push record (UInt64.ofNat placement.data.length)
    (UInt32.ofNat payload.length)
  { placed with data := placement.data ++ payload }

section Build

variable [Sha2]

def Placement.place (placement : Placement) (entry : IndexRecord × Bytes) : Placement :=
  let (record, payload) := entry
  if record.isTombstone then placement.push record 0 0
  else if record.isAlias then
    let digest := Sha2.sha256 payload
    match placement.payloadOffsets digest with
    | some (offset, length) => placement.push record offset length
    | none =>
        { placement.append record payload with
          payloadOffsets := Function.update placement.payloadOffsets digest
            (some (UInt64.ofNat placement.data.length, UInt32.ofNat payload.length)) }
  else placement.append record payload

def entryOrder (left right : IndexRecord × Bytes) : Prop :=
  compare left.1.reference right.1.reference ≠ .gt

instance : DecidableRel entryOrder :=
  fun left right => inferInstanceAs (Decidable (compare left.1.reference right.1.reference ≠ .gt))

def BundleBuilder.sorted (builder : BundleBuilder) : List (IndexRecord × Bytes) :=
  builder.entries.insertionSort entryOrder

def BundleBuilder.placement (builder : BundleBuilder) : Placement :=
  builder.sorted.foldl Placement.place .empty

def BundleBuilder.finalManifest (builder : BundleBuilder) : Manifest :=
  { builder.manifest with
    integrity :=
      { indexDigest := Sha2.sha256 (writeIndex builder.placement.records)
        dataDigest := Sha2.sha256 builder.placement.data }
    entryCount := UInt64.ofNat builder.placement.records.length }

/-- Section lengths of the manifest and the seal are cut to 32 bits here. -/
def builtHeader (manifestBytes sealBytes indexBytes data : Bytes) : FileHeader :=
  let manifestOffset : UInt64 := UInt64.ofNat headerSize
  let manifestLength := UInt32.ofNat manifestBytes.length
  let sealOffset := manifestOffset + manifestLength.toUInt64
  let sealLength := UInt32.ofNat sealBytes.length
  let indexOffset := sealOffset + sealLength.toUInt64
  let indexLength := UInt64.ofNat indexBytes.length
  { formatMajor := formatMajor
    formatMinor := formatMinor
    manifestOffset := manifestOffset
    manifestLength := manifestLength
    sealOffset := sealOffset
    sealLength := sealLength
    indexOffset := indexOffset
    indexLength := indexLength
    dataOffset := indexOffset + indexLength
    dataLength := UInt64.ofNat data.length }

def BundleBuilder.build [Ciborium] (builder : BundleBuilder)
    (sealFn : Bytes → Except AhuError Bytes) : Except AhuError Bytes := do
  let placement := builder.placement
  let indexSection := writeIndex placement.records
  let manifestBytes := builder.finalManifest.toCbor
  let sealBytes ← sealFn manifestBytes
  assemble (builtHeader manifestBytes sealBytes indexSection placement.data) manifestBytes
    sealBytes indexSection placement.data

end Build

/-! ### Where payloads are found -/

/-- The payload lies at this place of the data section. -/
structure StoredAt (data : Bytes) (offset : UInt64) (length : UInt32) (payload : Bytes) :
    Prop where
  inside : offset.toNat + length.toNat ≤ data.length
  content : (data.drop offset.toNat).take length.toNat = payload

theorem StoredAt.append {data payload : Bytes} {offset : UInt64} {length : UInt32}
    (stored : StoredAt data offset length payload) (more : Bytes) :
    StoredAt (data ++ more) offset length payload := by
  have inside := stored.inside
  constructor
  · rw [List.length_append]
    omega
  · rw [List.drop_append_of_le_length (by omega), List.take_append_of_le_length, stored.content]
    rw [List.length_drop]
    omega

theorem storedAt_end {data payload : Bytes} (dataFits : data.length < 2 ^ 64)
    (payloadFits : payload.length < 2 ^ 32) :
    StoredAt (data ++ payload) (UInt64.ofNat data.length) (UInt32.ofNat payload.length)
      payload := by
  have offset : (UInt64.ofNat data.length).toNat = data.length :=
    UInt64.toNat_ofNat_of_lt' dataFits
  have length : (UInt32.ofNat payload.length).toNat = payload.length :=
    UInt32.toNat_ofNat_of_lt' payloadFits
  constructor
  · rw [offset, length, List.length_append]
  · rw [offset, length, List.drop_left, List.take_length]

theorem Bundle.entryBytes_of_storedAt {bundle : Bundle} {record : IndexRecord} {payload : Bytes}
    (live : record.isTombstone = false) (fits : bundle.data.length < 2 ^ 64)
    (stored : StoredAt bundle.data record.dataOffset record.dataLength payload) :
    bundle.entryBytes record = some payload := by
  have inside := stored.inside
  unfold Bundle.entryBytes
  rw [live, if_neg Bool.false_ne_true, if_pos ⟨by omega, inside⟩, stored.content]

/-- A record placed for an entry: key, flags and discriminator are kept and the
payload, if there is one, is stored where the record says. -/
structure PlacedIn (data : Bytes) (entry : IndexRecord × Bytes) (record : IndexRecord) :
    Prop where
  reference : record.reference = entry.1.reference
  flags : record.flags = entry.1.flags
  stored : entry.1.isTombstone = false →
    StoredAt data record.dataOffset record.dataLength entry.2

theorem PlacedIn.append {data : Bytes} {entry : IndexRecord × Bytes} {record : IndexRecord}
    (placed : PlacedIn data entry record) (more : Bytes) : PlacedIn (data ++ more) entry record :=
  { reference := placed.reference
    flags := placed.flags
    stored := fun live => (placed.stored live).append more }

section Spec

variable [Sha2]

def Placement.Remembers (placement : Placement) (aliases : Set Bytes) : Prop :=
  ∀ digest offset length, placement.payloadOffsets digest = some (offset, length) →
    ∃ payload ∈ aliases, Sha2.sha256 payload = digest ∧
      StoredAt placement.data offset length payload

theorem Placement.remembers_empty (aliases : Set Bytes) : Placement.empty.Remembers aliases := by
  intro digest offset length stored
  cases stored

/-- What one entry adds: at most its payload to the data, and its record. -/
structure Placement.Step (aliases : Set Bytes) (entry : IndexRecord × Bytes)
    (before after : Placement) : Prop where
  grows : ∃ more, after.data = before.data ++ more
  record : ∃ record, after.records = before.records ++ [record] ∧ PlacedIn after.data entry record
  remembers : after.Remembers aliases

theorem Placement.data_le_place (placement : Placement) (entry : IndexRecord × Bytes) :
    placement.data.length ≤ (placement.place entry).data.length := by
  obtain ⟨record, payload⟩ := entry
  unfold Placement.place
  simp only
  split_ifs with tombstone aliased
  · exact Nat.le_refl _
  · split
    · exact Nat.le_refl _
    · simp [Placement.append]
  · simp [Placement.append]

theorem Placement.step_append {placement : Placement} (record : IndexRecord) {payload : Bytes}
    {aliases : Set Bytes} (remembers : placement.Remembers aliases)
    (payloadFits : payload.length < 2 ^ 32) (dataFits : placement.data.length < 2 ^ 64) :
    Placement.Step aliases (record, payload) placement (placement.append record payload) := by
  constructor
  · exact ⟨payload, rfl⟩
  · refine ⟨_, rfl, ?_⟩
    exact
      { reference := rfl
        flags := rfl
        stored := fun _ => storedAt_end dataFits payloadFits }
  · intro digest offset length known
    obtain ⟨stored, member, hashed, place⟩ := remembers digest offset length known
    exact ⟨stored, member, hashed, place.append payload⟩

/-- One step of the loop.  A remembered payload with the same digest is the
payload itself, because no two alias payloads share a digest. -/
theorem Placement.step_place {placement : Placement} {entry : IndexRecord × Bytes}
    {aliases : Set Bytes} (distinct : Set.InjOn Sha2.sha256 aliases)
    (listed : entry.1.isAlias = true → entry.2 ∈ aliases)
    (remembers : placement.Remembers aliases) (payloadFits : entry.2.length < 2 ^ 32)
    (dataFits : placement.data.length < 2 ^ 64) :
    Placement.Step aliases entry placement (placement.place entry) := by
  obtain ⟨record, payload⟩ := entry
  have appended := Placement.step_append record remembers payloadFits dataFits
  unfold Placement.place
  simp only
  split_ifs with tombstone aliased
  · constructor
    · exact ⟨[], (List.append_nil _).symm⟩
    · refine ⟨_, rfl, ?_⟩
      exact
        { reference := rfl
          flags := rfl
          stored := by
            intro live
            rw [tombstone] at live
            cases live }
    · exact remembers
  · split
    · rename_i offset length known
      obtain ⟨stored, member, hashed, place⟩ := remembers _ _ _ known
      have same : stored = payload := distinct member (listed aliased) hashed
      constructor
      · exact ⟨[], (List.append_nil _).symm⟩
      · refine ⟨_, rfl, ?_⟩
        exact
          { reference := rfl
            flags := rfl
            stored := fun _ => same ▸ place }
      · exact remembers
    · constructor
      · exact appended.grows
      · exact appended.record
      · intro digest offset length known
        by_cases new : digest = Sha2.sha256 payload
        · subst new
          simp only [Function.update_self, Option.some.injEq, Prod.mk.injEq] at known
          obtain ⟨rfl, rfl⟩ := known
          exact ⟨payload, listed aliased, rfl, storedAt_end dataFits payloadFits⟩
        · simp only [Function.update_of_ne new] at known
          exact appended.remembers digest offset length known
  · exact appended

theorem Placement.data_le_foldl (entries : List (IndexRecord × Bytes)) :
    ∀ placement : Placement,
      placement.data.length ≤ (entries.foldl Placement.place placement).data.length := by
  induction entries with
  | nil =>
      intro placement
      exact Nat.le_refl _
  | cons entry rest ih =>
      intro placement
      exact Nat.le_trans (placement.data_le_place entry) (ih _)

theorem Placement.foldl_place {aliases : Set Bytes} (distinct : Set.InjOn Sha2.sha256 aliases)
    (entries : List (IndexRecord × Bytes)) :
    ∀ {placement : Placement}, placement.Remembers aliases →
      (∀ entry ∈ entries, entry.1.isAlias = true → entry.2 ∈ aliases) →
      (∀ entry ∈ entries, entry.2.length < 2 ^ 32) →
      (entries.foldl Placement.place placement).data.length < 2 ^ 64 →
      (∃ more, (entries.foldl Placement.place placement).data = placement.data ++ more) ∧
        ∃ records, (entries.foldl Placement.place placement).records =
            placement.records ++ records ∧
          List.Forall₂ (PlacedIn (entries.foldl Placement.place placement).data) entries
            records := by
  induction entries with
  | nil =>
      intro placement _ _ _ _
      refine ⟨⟨[], (List.append_nil _).symm⟩, [], (List.append_nil _).symm, List.Forall₂.nil⟩
  | cons entry rest ih =>
      intro placement remembers listed short fits
      rw [List.foldl_cons] at fits ⊢
      have dataFits : placement.data.length < 2 ^ 64 := by
        have first := placement.data_le_place entry
        have others := Placement.data_le_foldl rest (placement.place entry)
        omega
      have step := Placement.step_place distinct (listed entry List.mem_cons_self) remembers
        (short entry List.mem_cons_self) dataFits
      obtain ⟨⟨more, grown⟩, records, written, placed⟩ := ih step.remembers
        (fun later member => listed later (List.mem_cons_of_mem _ member))
        (fun later member => short later (List.mem_cons_of_mem _ member)) fits
      obtain ⟨payload, extended⟩ := step.grows
      obtain ⟨record, pushed, here⟩ := step.record
      constructor
      · exact ⟨payload ++ more, by rw [grown, extended, List.append_assoc]⟩
      · refine ⟨record :: records, ?_, ?_⟩
        · rw [written, pushed, List.append_assoc, List.singleton_append]
        · apply List.Forall₂.cons _ placed
          rw [grown]
          exact here.append more

/-! ### The written file -/

def BundleBuilder.aliases (builder : BundleBuilder) : Set Bytes :=
  {payload | ∃ entry ∈ builder.entries, entry.1.isAlias = true ∧ entry.2 = payload}

omit [Sha2] in
theorem BundleBuilder.mem_sorted {builder : BundleBuilder} {entry : IndexRecord × Bytes} :
    entry ∈ builder.sorted ↔ entry ∈ builder.entries :=
  (List.perm_insertionSort entryOrder builder.entries).mem_iff

theorem BundleBuilder.placement_spec {builder : BundleBuilder}
    (distinct : Set.InjOn Sha2.sha256 builder.aliases)
    (short : ∀ entry ∈ builder.entries, entry.2.length < 2 ^ 32)
    (fits : builder.placement.data.length < 2 ^ 64) :
    List.Forall₂ (PlacedIn builder.placement.data) builder.sorted builder.placement.records := by
  obtain ⟨_, records, written, placed⟩ := Placement.foldl_place distinct builder.sorted
    (Placement.remembers_empty _)
    (fun entry member aliased => ⟨entry, BundleBuilder.mem_sorted.mp member, aliased, rfl⟩)
    (fun entry member => short entry (BundleBuilder.mem_sorted.mp member)) fits
  have all : builder.placement.records = records := written
  rw [all]
  exact placed

/-- What the header of a written file takes for the seal. -/
def cutSeal (sealBytes : Bytes) : Bytes :=
  sealBytes.take (sealBytes.length % 2 ^ 32)

omit [Sha2] in
theorem cutSeal_of_short {sealBytes : Bytes} (fits : sealBytes.length < 2 ^ 32) :
    cutSeal sealBytes = sealBytes := by
  unfold cutSeal
  rw [Nat.mod_eq_of_lt fits, List.take_length]

omit [Sha2] in
theorem length_cutSeal (sealBytes : Bytes) :
    (cutSeal sealBytes).length = sealBytes.length % 2 ^ 32 := by
  unfold cutSeal
  rw [List.length_take]
  exact Nat.min_eq_left (Nat.mod_le _ _)

omit [Sha2] in
theorem layout_builtHeader {manifestBytes sealBytes indexBytes data : Bytes}
    (manifestFits : manifestBytes.length < 2 ^ 32)
    (capacity : headerSize + manifestBytes.length + sealBytes.length + indexBytes.length +
      data.length < maxVecLength) :
    Layout (builtHeader manifestBytes sealBytes indexBytes data) manifestBytes
      (cutSeal sealBytes) indexBytes data := by
  have sizes : headerSize = 64 ∧ maxVecLength = 2 ^ 63 := ⟨rfl, rfl⟩
  have cutSize := length_cutSeal sealBytes
  have headerSize' : (UInt64.ofNat headerSize).toNat = headerSize := by decide
  have manifestSize : (UInt32.ofNat manifestBytes.length).toNat = manifestBytes.length :=
    UInt32.toNat_ofNat_of_lt' manifestFits
  have sealSize : (UInt32.ofNat sealBytes.length).toNat = (cutSeal sealBytes).length := by
    rw [cutSize]
    exact UInt32.toNat_ofNat
  have indexSize : (UInt64.ofNat indexBytes.length).toNat = indexBytes.length :=
    UInt64.toNat_ofNat_of_lt' (by simp only [UInt64.size]; omega)
  have dataSize : (UInt64.ofNat data.length).toNat = data.length :=
    UInt64.toNat_ofNat_of_lt' (by simp only [UInt64.size]; omega)
  have cutFits : (cutSeal sealBytes).length ≤ sealBytes.length := by
    rw [cutSize]
    exact Nat.mod_le _ _
  unfold builtHeader
  constructor
  · rfl
  · exact headerSize'
  · exact manifestSize
  · simp only [UInt64.toNat_add, headerSize', UInt32.toNat_toUInt64, manifestSize]
    omega
  · exact sealSize
  · simp only [UInt64.toNat_add, headerSize', UInt32.toNat_toUInt64, manifestSize, sealSize]
    omega
  · exact indexSize
  · simp only [UInt64.toNat_add, headerSize', UInt32.toNat_toUInt64, manifestSize, sealSize,
      indexSize]
    omega
  · exact dataSize

/-- A manifest and its seal fit the 32-bit lengths of the header. -/
structure SealFits (sealFn : Bytes → Except AhuError Bytes) (manifestBytes : Bytes) : Prop where
  manifestFits : manifestBytes.length < 2 ^ 32
  sealFits : ∀ sealBytes, sealFn manifestBytes = .ok sealBytes → sealBytes.length < 2 ^ 32

variable [Ciborium]

theorem BundleBuilder.build_eq_ok {builder : BundleBuilder}
    {sealFn : Bytes → Except AhuError Bytes} {out : Bytes} :
    builder.build sealFn = .ok out ↔
      ∃ sealBytes, sealFn builder.finalManifest.toCbor = .ok sealBytes ∧
        assemble (builtHeader builder.finalManifest.toCbor sealBytes
            (writeIndex builder.placement.records) builder.placement.data)
          builder.finalManifest.toCbor sealBytes (writeIndex builder.placement.records)
          builder.placement.data = .ok out :=
  Except.bind_eq_ok

def BundleBuilder.written (builder : BundleBuilder) (header : FileHeader) (sealBytes : Bytes) :
    Bundle :=
  { header := header
    manifest := builder.finalManifest
    manifestBytes := builder.finalManifest.toCbor
    sealBytes := sealBytes
    index := builder.placement.records
    data := builder.placement.data }

/-- A written file parses back into the placed records and payloads, and into
the manifest that its octets are read as. -/
theorem BundleBuilder.parse_build {builder : BundleBuilder}
    {sealFn : Bytes → Except AhuError Bytes} {out sealBytes : Bytes} {read : Manifest}
    (manifestFits : builder.finalManifest.toCbor.length < 2 ^ 32)
    (isSealed : sealFn builder.finalManifest.toCbor = .ok sealBytes)
    (sealFits : sealBytes.length < 2 ^ 32)
    (decodes : Manifest.fromCbor builder.finalManifest.toCbor = .ok read)
    (built : builder.build sealFn = .ok out) :
    builder.placement.data.length < 2 ^ 63 ∧ ∃ header, Bundle.fromBytes out =
      .ok { builder.written header sealBytes with manifest := read } := by
  obtain ⟨other, same, written⟩ := BundleBuilder.build_eq_ok.mp built
  rw [isSealed] at same
  cases same
  obtain ⟨_, capacity⟩ := assemble_eq_ok.mp written
  have layout := layout_builtHeader manifestFits capacity
  rw [cutSeal_of_short sealFits] at layout
  have size : maxVecLength = 2 ^ 63 := rfl
  have parsed := fromBytes_assemble layout decodes (parseIndex_writeIndex _) written
  exact ⟨by omega, _, parsed⟩

theorem BundleBuilder.fromBytes_build {builder : BundleBuilder}
    {sealFn : Bytes → Except AhuError Bytes} {out : Bytes}
    (fits : SealFits sealFn builder.finalManifest.toCbor)
    (readsBack : builder.finalManifest.ReadsBack) (built : builder.build sealFn = .ok out) :
    ∃ header sealBytes, sealFn builder.finalManifest.toCbor = .ok sealBytes ∧
      builder.placement.data.length < 2 ^ 63 ∧
      Bundle.fromBytes out = .ok (builder.written header sealBytes) := by
  obtain ⟨sealBytes, isSealed, _⟩ := BundleBuilder.build_eq_ok.mp built
  obtain ⟨small, header, parsed⟩ := BundleBuilder.parse_build fits.manifestFits isSealed
    (fits.sealFits sealBytes isSealed) readsBack.fromCbor built
  exact ⟨header, sealBytes, isSealed, small, parsed⟩

/-! ### Distinct entries -/

def BundleBuilder.Distinct (builder : BundleBuilder) : Prop :=
  (builder.entries.map fun entry => entry.1.reference).Nodup

omit [Sha2] [Ciborium] in
theorem entryOrder_trans {first second third : IndexRecord × Bytes}
    (left : entryOrder first second) (right : entryOrder second third) :
    entryOrder first third := by
  have below : (compare first.1.reference second.1.reference).isLE :=
    Ordering.isLE_iff_ne_gt.mpr left
  have above : (compare second.1.reference third.1.reference).isLE :=
    Ordering.isLE_iff_ne_gt.mpr right
  exact Ordering.isLE_iff_ne_gt.mp (Std.TransCmp.isLE_trans below above)

omit [Sha2] [Ciborium] in
theorem entryOrder_total (left right : IndexRecord × Bytes) :
    entryOrder left right ∨ entryOrder right left := by
  unfold entryOrder
  by_cases greater : compare left.1.reference right.1.reference = .gt
  · right
    rw [Std.OrientedCmp.gt_iff_lt.mp greater]
    decide
  · exact Or.inl greater

omit [Sha2] [Ciborium] in
theorem BundleBuilder.pairwise_sorted (builder : BundleBuilder) :
    builder.sorted.Pairwise entryOrder := by
  have total : Std.Total entryOrder := ⟨entryOrder_total⟩
  have trans : IsTrans _ entryOrder := ⟨fun _ _ _ => entryOrder_trans⟩
  exact List.pairwise_insertionSort entryOrder builder.entries

omit [Sha2] [Ciborium] in
theorem BundleBuilder.Distinct.ascending {builder : BundleBuilder}
    (distinct : builder.Distinct) :
    builder.sorted.Pairwise fun left right =>
      compare left.1.reference right.1.reference = .lt := by
  have nodup : (builder.sorted.map fun entry => entry.1.reference).Nodup :=
    ((List.perm_insertionSort entryOrder builder.entries).map _).nodup_iff.mpr distinct
  have different := List.pairwise_map.mp nodup
  apply List.Pairwise.imp _ (builder.pairwise_sorted.and different)
  intro left right both
  cases order : compare left.1.reference right.1.reference with
  | lt =>
      rfl
  | eq =>
      exact absurd (EntryRef.order_eq_eq.mp order) both.2
  | gt =>
      exact absurd order both.1

omit [Sha2] [Ciborium] in
theorem references_of_placed {data : Bytes} {entries : List (IndexRecord × Bytes)}
    {records : List IndexRecord} (placed : List.Forall₂ (PlacedIn data) entries records) :
    records.map IndexRecord.reference = entries.map fun entry => entry.1.reference := by
  induction placed with
  | nil =>
      rfl
  | cons here _ ih =>
      rw [List.map_cons, List.map_cons, here.reference, ih]

/-- Everything a builder needs for its records to lead to their payloads. -/
structure BundleBuilder.Storable (builder : BundleBuilder) : Prop where
  short : ∀ entry ∈ builder.entries, entry.2.length < 2 ^ 32
  collisionFree : Set.InjOn Sha2.sha256 builder.aliases

/-- Everything a builder needs to produce a well-formed file. -/
structure BundleBuilder.Sound (builder : BundleBuilder) : Prop extends builder.Storable where
  distinct : builder.Distinct
  based : builder.manifest.bundleType = .delta →
    builder.manifest.continuity.baseManifestDigest.isSome

omit [Ciborium] in
theorem BundleBuilder.Storable.placed {builder : BundleBuilder} (storable : builder.Storable)
    (fits : builder.placement.data.length < 2 ^ 63) :
    List.Forall₂ (PlacedIn builder.placement.data) builder.sorted builder.placement.records :=
  BundleBuilder.placement_spec storable.collisionFree storable.short (by omega)

omit [Ciborium] in
theorem BundleBuilder.Storable.pairwise_records {builder : BundleBuilder}
    (storable : builder.Storable) (fits : builder.placement.data.length < 2 ^ 63)
    (relation : EntryRef → EntryRef → Prop)
    (sorted : builder.sorted.Pairwise fun left right =>
      relation left.1.reference right.1.reference) :
    builder.placement.records.Pairwise fun left right =>
      relation left.reference right.reference := by
  have references : (builder.sorted.map fun entry => entry.1.reference).Pairwise relation :=
    List.pairwise_map.mpr sorted
  rw [← references_of_placed (storable.placed fits)] at references
  exact List.pairwise_map.mp references

omit [Ciborium] in
theorem BundleBuilder.Storable.length_records {builder : BundleBuilder}
    (storable : builder.Storable) (fits : builder.placement.data.length < 2 ^ 63) :
    builder.placement.records.length = builder.entries.length := by
  rw [← (List.perm_insertionSort entryOrder builder.entries).length_eq]
  exact (storable.placed fits).length_eq.symm

section Written

variable {builder : BundleBuilder} (header : FileHeader) (sealBytes : Bytes)

theorem BundleBuilder.Sound.written_ascending (sound : builder.Sound)
    (fits : builder.placement.data.length < 2 ^ 63) :
    Ascending (builder.written header sealBytes).index :=
  sound.pairwise_records fits (fun left right => compare left right = .lt)
    sound.distinct.ascending

theorem BundleBuilder.Storable.written_nonDescending (storable : builder.Storable)
    (fits : builder.placement.data.length < 2 ^ 63) :
    NonDescending (builder.written header sealBytes).index :=
  storable.pairwise_records fits (fun left right => compare left right ≠ .gt)
    builder.pairwise_sorted

theorem BundleBuilder.Storable.entry_of_record (storable : builder.Storable)
    (fits : builder.placement.data.length < 2 ^ 63) {record : IndexRecord}
    (member : record ∈ (builder.written header sealBytes).index) :
    ∃ entry ∈ builder.entries, PlacedIn builder.placement.data entry record := by
  obtain ⟨entry, present, placed⟩ := (storable.placed fits).exists_left member
  exact ⟨entry, BundleBuilder.mem_sorted.mp present, placed⟩

theorem BundleBuilder.Storable.record_of_entry (storable : builder.Storable)
    (fits : builder.placement.data.length < 2 ^ 63) {entry : IndexRecord × Bytes}
    (member : entry ∈ builder.entries) :
    ∃ record ∈ (builder.written header sealBytes).index,
      PlacedIn builder.placement.data entry record :=
  (storable.placed fits).exists_right (BundleBuilder.mem_sorted.mpr member)

theorem BundleBuilder.written_entryBytes
    (fits : builder.placement.data.length < 2 ^ 63) {entry : IndexRecord × Bytes}
    {record : IndexRecord} (placed : PlacedIn builder.placement.data entry record) :
    (builder.written header sealBytes).entryBytes record =
      if entry.1.isTombstone then none else some entry.2 := by
  have flags : record.isTombstone = entry.1.isTombstone := by
    unfold IndexRecord.isTombstone
    rw [placed.flags]
  cases live : entry.1.isTombstone with
  | true =>
      unfold Bundle.entryBytes
      rw [flags, live]
      rfl
  | false =>
      rw [if_neg Bool.false_ne_true]
      exact Bundle.entryBytes_of_storedAt (flags.trans live)
        (show builder.placement.data.length < 2 ^ 64 by omega) (placed.stored live)

/-- The structural checks look at the manifest that the octets are read as, of
which only the computed parts and the base matter. -/
theorem BundleBuilder.Sound.verified_as (sound : builder.Sound) {read : Manifest}
    (decodes : Manifest.fromCbor builder.finalManifest.toCbor = .ok read)
    (integrity : read.integrity = builder.finalManifest.integrity)
    (bundleType : read.bundleType = builder.manifest.bundleType)
    (continuity : read.continuity = builder.manifest.continuity)
    (fits : builder.placement.data.length < 2 ^ 63) :
    { builder.written header sealBytes with manifest := read }.Verified read :=
  { decodes := decodes
    agrees := rfl
    indexDigest := by
      rw [integrity]
      rfl
    dataDigest := by
      rw [integrity]
      rfl
    ascending := sound.written_ascending header sealBytes fits
    bounded := by
      intro record member
      obtain ⟨entry, _, placed⟩ := sound.entry_of_record header sealBytes fits member
      change record.isTombstone ∨ ((builder.written header sealBytes).entryBytes record).isSome
      rw [BundleBuilder.written_entryBytes header sealBytes fits placed]
      unfold IndexRecord.isTombstone
      rw [placed.flags]
      cases entry.1.flags.tombstone <;> simp
    based := by
      rw [bundleType, continuity]
      exact sound.based }

theorem BundleBuilder.Sound.verified (sound : builder.Sound)
    (readsBack : builder.finalManifest.ReadsBack)
    (fits : builder.placement.data.length < 2 ^ 63) :
    (builder.written header sealBytes).Verified builder.finalManifest :=
  sound.verified_as header sealBytes readsBack.fromCbor rfl rfl rfl fits

theorem BundleBuilder.Sound.payload_of_mem (sound : builder.Sound)
    (fits : builder.placement.data.length < 2 ^ 63) {entry : IndexRecord × Bytes}
    (member : entry ∈ builder.entries) :
    (builder.written header sealBytes).payload entry.1.reference =
      if entry.1.isTombstone then none else some entry.2 := by
  obtain ⟨record, present, placed⟩ := sound.record_of_entry header sealBytes fits member
  have found := (Bundle.record_eq_some_iff (sound.written_ascending header sealBytes fits)).mpr
    ⟨present, placed.reference⟩
  rw [Bundle.payload_eq_bind, found, Option.bind_some,
    BundleBuilder.written_entryBytes header sealBytes fits placed]

theorem BundleBuilder.Storable.record_eq_none (storable : builder.Storable)
    (fits : builder.placement.data.length < 2 ^ 63) {reference : EntryRef}
    (absent : ∀ entry ∈ builder.entries, entry.1.reference ≠ reference) :
    (builder.written header sealBytes).record reference = none := by
  apply (Bundle.record_eq_none_iff (storable.written_nonDescending header sealBytes fits)).mpr
  intro record member same
  obtain ⟨entry, present, placed⟩ := storable.entry_of_record header sealBytes fits member
  exact absent entry present (placed.reference.symm.trans same)

theorem BundleBuilder.Storable.payload_of_live (storable : builder.Storable)
    (fits : builder.placement.data.length < 2 ^ 63)
    (live : ∀ entry ∈ builder.entries, entry.1.isTombstone = false)
    {entry : IndexRecord × Bytes} (member : entry ∈ builder.entries) :
    ∃ found ∈ builder.entries, found.1.reference = entry.1.reference ∧
      (builder.written header sealBytes).payload entry.1.reference = some found.2 := by
  obtain ⟨record, present, placed⟩ := storable.record_of_entry header sealBytes fits member
  cases search : (builder.written header sealBytes).record entry.1.reference with
  | none =>
      have absent := (Bundle.record_eq_none_iff
        (storable.written_nonDescending header sealBytes fits)).mp search
      exact absurd placed.reference (absent record present)
  | some other =>
      obtain ⟨inside, same⟩ := Bundle.mem_of_record search
      obtain ⟨found, listed, foundPlaced⟩ :=
        storable.entry_of_record header sealBytes fits inside
      refine ⟨found, listed, foundPlaced.reference.symm.trans same, ?_⟩
      rw [Bundle.payload_eq_bind, search, Option.bind_some,
        BundleBuilder.written_entryBytes header sealBytes fits foundPlaced, live found listed]
      rfl

end Written

end Spec

end Ahu
end Hoike
