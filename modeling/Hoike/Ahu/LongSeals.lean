/-
Bundles under seals of any length.

The builder cuts the length of the seal to 32 bits.  Under a longer seal the
header points into the seal instead of the index, so a seal can be chosen that
holds an index of its own.
-/

import Hoike.Ahu.Builder

namespace Hoike
namespace Ahu

section LongSeals

variable [Sha2] [Ciborium] {sealFn : Bytes → Except AhuError Bytes}

/-- The manifest fits the header and gets seals of this length. -/
structure SealsWith (length : Nat) (sealFn : Bytes → Except AhuError Bytes)
    (manifestBytes : Bytes) : Prop where
  manifestFits : manifestBytes.length < 2 ^ 32
  sealLength : ∀ sealBytes, sealFn manifestBytes = .ok sealBytes → sealBytes.length = length

omit [Sha2] [Ciborium] in
theorem SealsWith.fits {length : Nat} {manifestBytes : Bytes}
    (seals : SealsWith length sealFn manifestBytes) (small : length < 2 ^ 32) :
    SealFits sealFn manifestBytes :=
  ⟨seals.manifestFits, fun sealBytes made => (seals.sealLength sealBytes made).trans_lt small⟩

theorem fromBytes_build_empty {builder : BundleBuilder} {out sealBytes : Bytes}
    (readsBack : builder.finalManifest.ReadsBack)
    (manifestFits : builder.finalManifest.toCbor.length < 2 ^ 32)
    (noRecords : builder.placement.records = []) (noData : builder.placement.data = [])
    (written : assemble (builtHeader builder.finalManifest.toCbor sealBytes
        (writeIndex builder.placement.records) builder.placement.data)
      builder.finalManifest.toCbor sealBytes (writeIndex builder.placement.records)
      builder.placement.data = .ok out) :
    ∃ header kept, Bundle.fromBytes out = .ok (builder.written header kept) := by
  obtain ⟨content, capacity⟩ := assemble_eq_ok.mp written
  have emptyIndex : writeIndex builder.placement.records = [] := by
    rw [noRecords]
    rfl
  have layout := layout_builtHeader manifestFits capacity
  have split : sealBytes = cutSeal sealBytes ++ sealBytes.drop (sealBytes.length % 2 ^ 32) :=
    (List.take_append_drop _ _).symm
  have lengths := congrArg List.length split
  rw [List.length_append] at lengths
  rw [emptyIndex, noData] at content capacity layout
  have parsed := fromBytes_layout (sealBytes.drop (sealBytes.length % 2 ^ 32)) layout
    readsBack.fromCbor (parseIndex_writeIndex []) (by
      simp only [List.length_nil] at capacity ⊢
      omega)
  rw [List.nil_append, List.nil_append, ← split] at parsed
  refine ⟨builtHeader builder.finalManifest.toCbor sealBytes [] [], cutSeal sealBytes, ?_⟩
  unfold BundleBuilder.written
  rw [content, List.append_nil, List.append_nil, noRecords, noData]
  exact parsed

def strayRecord : IndexRecord :=
  { entryKey := ⟨List.replicate 32 0, List.length_replicate⟩
    dataOffset := 18446744073709551615
    dataLength := 1
    flags := .empty
    discriminator := 0 }

/-- A long seal with the stray record at the place where the cut length ends. -/
def straySeal (length : Nat) : Bytes :=
  List.replicate (length % 2 ^ 32) 0 ++ (strayRecord.writeTo ++
    List.replicate (length - length % 2 ^ 32 - indexRecordSize) 0)

omit [Sha2] [Ciborium] in
theorem length_straySeal {length : Nat} (large : 2 ^ 32 ≤ length) :
    (straySeal length).length = length := by
  have size : indexRecordSize = 48 := rfl
  have below := Nat.mod_le length (2 ^ 32)
  have bound := Nat.mod_lt length (show 0 < 2 ^ 32 by decide)
  have whole := Nat.div_add_mod length (2 ^ 32)
  have positive : 0 < length / 2 ^ 32 := Nat.div_pos large (by decide)
  unfold straySeal
  simp only [List.length_append, List.length_replicate, IndexRecord.length_writeTo]
  omega

omit [Sha2] [Ciborium] in
theorem parseIndex_writeTo_append {record : IndexRecord} {rest : Bytes}
    {index : List IndexRecord} (parsed : parseIndex (record.writeTo ++ rest) = .ok index) :
    ∃ others, index = record :: others := by
  have size : (record.writeTo ++ rest).length / indexRecordSize =
      rest.length / indexRecordSize + 1 := by
    rw [List.length_append, IndexRecord.length_writeTo, Nat.add_comm]
    exact Nat.add_div_right _ (by decide)
  unfold parseIndex at parsed
  split_ifs at parsed
  rw [size] at parsed
  change ((IndexRecord.readFrom >>= fun record => readRecords (rest.length / indexRecordSize) >>=
    fun records => pure (record :: records)) (record.writeTo ++ rest)).map Prod.fst = _ at parsed
  rw [Cursor.bind_of_ok (IndexRecord.readFrom_writeTo _ _)] at parsed
  obtain ⟨⟨records, left⟩, run, same⟩ := Except.map_eq_ok.mp parsed
  obtain ⟨⟨others, remaining⟩, _, done⟩ := Except.bind_eq_ok.mp run
  cases done
  exact ⟨others, same.symm⟩

omit [Sha2] in
theorem index_of_fromBytes {header : FileHeader} {rest : Bytes} {bundle : Bundle}
    (supported : header.formatMajor = formatMajor)
    (parsed : Bundle.fromBytes (header.writeTo ++ rest) = .ok bundle) :
    ∃ indexBytes, readSection (header.writeTo ++ rest) header.indexOffset header.indexLength =
        .ok indexBytes ∧ parseIndex indexBytes = .ok bundle.index := by
  have read := Bundle.fromBytes_eq_ok.mp parsed
  have same : header = bundle.header := Except.ok.inj
    ((FileHeader.run_readFrom_writeTo supported rest).symm.trans read.header)
  rw [same] at read ⊢
  exact read.index

omit [Sha2] [Ciborium] in
theorem length_readRecords {count : Nat} {bytes rest : Bytes} {records : List IndexRecord}
    (read : readRecords count bytes = .ok (records, rest)) : records.length = count := by
  induction count generalizing bytes records with
  | zero =>
      cases read
      rfl
  | succ count ih =>
      obtain ⟨⟨record, left⟩, _, read⟩ := Except.bind_eq_ok.mp read
      obtain ⟨⟨others, remaining⟩, run, done⟩ := Except.bind_eq_ok.mp read
      cases done
      rw [List.length_cons, ih run]

omit [Sha2] [Ciborium] in
theorem length_parseIndex {indexBytes : Bytes} {index : List IndexRecord}
    (parsed : parseIndex indexBytes = .ok index) :
    index.length = indexBytes.length / indexRecordSize := by
  unfold parseIndex at parsed
  split_ifs at parsed
  obtain ⟨⟨records, rest⟩, read, rfl⟩ := Except.map_eq_ok.mp parsed
  exact length_readRecords read

/-- Under a long seal the index of the output is read from the seal. -/
theorem straySeal_index {builder : BundleBuilder} {length : Nat} {out : Bytes}
    {bundle : Bundle} (large : 2 ^ 32 ≤ length)
    (manifestFits : builder.finalManifest.toCbor.length < 2 ^ 32)
    (records : builder.placement.records ≠ [])
    (written : assemble (builtHeader builder.finalManifest.toCbor (straySeal length)
        (writeIndex builder.placement.records) builder.placement.data)
      builder.finalManifest.toCbor (straySeal length) (writeIndex builder.placement.records)
      builder.placement.data = .ok out)
    (parses : Bundle.fromBytes out = .ok bundle) :
    ∃ others, bundle.index = strayRecord :: others ∧
      others.length < builder.placement.records.length := by
  obtain ⟨content, capacity⟩ := assemble_eq_ok.mp written
  have layout := layout_builtHeader manifestFits capacity
  have cutSize := length_cutSeal (straySeal length)
  rw [length_straySeal large] at cutSize
  rw [content] at parses
  obtain ⟨indexBytes, cut, indexed⟩ := index_of_fromBytes layout.supported parses
  have front : builder.finalManifest.toCbor ++ (straySeal length ++
      (writeIndex builder.placement.records ++ builder.placement.data)) =
        (builder.finalManifest.toCbor ++ List.replicate (length % 2 ^ 32) 0) ++
          (strayRecord.writeTo ++ (List.replicate (length - length % 2 ^ 32 - indexRecordSize) 0 ++
            (writeIndex builder.placement.records ++ builder.placement.data))) := by
    unfold straySeal
    simp only [List.append_assoc]
  have indexSize : indexRecordSize ≤ (writeIndex builder.placement.records).length := by
    rw [length_writeIndex]
    exact Nat.le_mul_of_pos_left _ (List.length_pos_iff.mpr records)
  -- The index section starts with the stray record and is as long as the index.
  have section' : (∃ rest, indexBytes = strayRecord.writeTo ++ rest) ∧
      indexBytes.length ≤ (writeIndex builder.placement.records).length := by
    unfold readSection at cut
    split_ifs at cut
    cases cut
    rw [front, ← List.append_assoc, layout.indexOffset, layout.indexLength, cutSize]
    refine ⟨?_, List.length_take_le _ _⟩
    rw [List.drop_left' (by
      rw [List.length_append, List.length_append, FileHeader.length_writeTo,
        List.length_replicate, Nat.add_assoc])]
    rw [List.take_append, List.take_of_length_le (by rw [IndexRecord.length_writeTo]; omega)]
    exact ⟨_, rfl⟩
  obtain ⟨⟨rest, starts⟩, bound⟩ := section'
  have count := length_parseIndex indexed
  rw [starts] at indexed
  obtain ⟨others, first⟩ := parseIndex_writeTo_append indexed
  refine ⟨others, first, ?_⟩
  rw [length_writeIndex] at bound
  have most := Nat.div_le_of_le_mul (show indexBytes.length ≤
    indexRecordSize * builder.placement.records.length by rw [Nat.mul_comm]; exact bound)
  rw [first, List.length_cons] at count
  omega

omit [Sha2] [Ciborium] in
theorem entryBytes_strayRecord (bundle : Bundle) : bundle.entryBytes strayRecord = none := by
  unfold Bundle.entryBytes
  rw [if_neg (by decide), if_neg]
  intro both
  exact absurd both.1 (by decide)

theorem strayRecord_breaks {bundle : Bundle} (listed : strayRecord ∈ bundle.index) :
    ¬ ∃ report, verifyStructure bundle = .ok report := by
  intro verifies
  obtain ⟨signed, verified⟩ := verifyStructure_eq_ok.mp verifies
  cases verified.bounded strayRecord listed with
  | inl tombstone =>
      cases tombstone
  | inr present =>
      rw [entryBytes_strayRecord] at present
      cases present

def strayFn (length : Nat) (_ : Bytes) : Except AhuError Bytes :=
  .ok (straySeal length)

omit [Sha2] [Ciborium] in
theorem sealsWith_strayFn {length : Nat} (large : 2 ^ 32 ≤ length) {manifestBytes : Bytes}
    (manifestFits : manifestBytes.length < 2 ^ 32) :
    SealsWith length (strayFn length) manifestBytes := by
  refine ⟨manifestFits, ?_⟩
  intro sealBytes made
  cases made
  exact length_straySeal large

def BundleBuilder.sizeWith (builder : BundleBuilder) (sealLength : Nat) : Nat :=
  headerSize + builder.finalManifest.toCbor.length + sealLength +
    (writeIndex builder.placement.records).length + builder.placement.data.length

theorem BundleBuilder.length_build {builder : BundleBuilder} {out sealBytes : Bytes}
    (made : sealFn builder.finalManifest.toCbor = .ok sealBytes)
    (built : builder.build sealFn = .ok out) :
    out.length = builder.sizeWith sealBytes.length ∧ out.length < maxVecLength := by
  obtain ⟨other, same, written⟩ := BundleBuilder.build_eq_ok.mp built
  rw [made] at same
  cases same
  obtain ⟨content, capacity⟩ := assemble_eq_ok.mp written
  have size : out.length = builder.sizeWith sealBytes.length := by
    rw [content]
    unfold BundleBuilder.sizeWith
    simp only [List.length_append, FileHeader.length_writeTo]
    omega
  exact ⟨size, size ▸ capacity⟩

theorem BundleBuilder.data_fits {builder : BundleBuilder} {out : Bytes}
    (built : builder.build sealFn = .ok out) : builder.placement.data.length < 2 ^ 63 := by
  obtain ⟨_, _, written⟩ := BundleBuilder.build_eq_ok.mp built
  obtain ⟨_, capacity⟩ := assemble_eq_ok.mp written
  have size : maxVecLength = 2 ^ 63 := rfl
  omega

theorem BundleBuilder.build_stray {builder : BundleBuilder} {length : Nat}
    (large : 2 ^ 32 ≤ length) (manifestFits : builder.finalManifest.toCbor.length < 2 ^ 32)
    (room : builder.sizeWith length < maxVecLength) :
    ∃ out, builder.build (strayFn length) = .ok out ∧
      ∀ bundle, builder.placement.records ≠ [] → Bundle.fromBytes out = .ok bundle →
        ∃ others, bundle.index = strayRecord :: others ∧
          others.length < builder.placement.records.length := by
  have stray : strayFn length builder.finalManifest.toCbor = .ok (straySeal length) := rfl
  unfold BundleBuilder.sizeWith at room
  rw [← length_straySeal large] at room
  have rewritten := assemble_eq_ok.mpr
    ⟨(rfl : (builtHeader builder.finalManifest.toCbor (straySeal length)
      (writeIndex builder.placement.records) builder.placement.data).writeTo ++ _ = _), room⟩
  exact ⟨_, BundleBuilder.build_eq_ok.mpr ⟨_, stray, rewritten⟩,
    fun bundle records parses => straySeal_index large manifestFits records rewritten parses⟩

/-! ### Files that verify -/

omit [Ciborium] in
theorem BundleBuilder.Storable.distinct_of_ascending {builder : BundleBuilder}
    (storable : builder.Storable) (fits : builder.placement.data.length < 2 ^ 63)
    (ascending : Ascending builder.placement.records) : builder.Distinct := by
  have nodup : (builder.placement.records.map IndexRecord.reference).Nodup := by
    apply List.pairwise_map.mpr
    apply List.Pairwise.imp _ ascending
    intro left right below same
    have equal : compare right.reference right.reference = .eq := Std.ReflCmp.compare_self
    rw [same, equal] at below
    cases below
  rw [references_of_placed (storable.placed fits)] at nodup
  exact ((List.perm_insertionSort entryOrder builder.entries).map _).nodup_iff.mp nodup

def VerifiableFile (out : Bytes) : Prop :=
  ∃ bundle, Bundle.fromBytes out = .ok bundle ∧ ∃ report, verifyStructure bundle = .ok report

theorem BundleBuilder.Sound.verifiable {builder : BundleBuilder} {out : Bytes}
    (sound : builder.Sound) (readsBack : builder.finalManifest.ReadsBack)
    (fits : SealFits sealFn builder.finalManifest.toCbor)
    (built : builder.build sealFn = .ok out) : VerifiableFile out := by
  obtain ⟨header, sealBytes, _, small, parses⟩ :=
    BundleBuilder.fromBytes_build fits readsBack built
  exact ⟨_, parses, verifyStructure_eq_ok.mpr
    ⟨_, sound.verified header sealBytes readsBack small⟩⟩

omit [Ciborium] in
theorem BundleBuilder.Storable.length_eq_zero {builder : BundleBuilder}
    (storable : builder.Storable) (fits : builder.placement.data.length < 2 ^ 63) :
    builder.placement.records = [] ↔ builder.entries = [] := by
  rw [← List.length_eq_zero_iff, storable.length_records fits, List.length_eq_zero_iff]

theorem BundleBuilder.verifiable_of_empty {builder : BundleBuilder} {out : Bytes}
    (based : builder.manifest.bundleType = .delta →
      builder.manifest.continuity.baseManifestDigest.isSome)
    (readsBack : builder.finalManifest.toCbor.length < 2 ^ 32 → builder.finalManifest.ReadsBack)
    (nothing : builder.entries = [])
    (manifestFits : builder.finalManifest.toCbor.length < 2 ^ 32)
    (built : builder.build sealFn = .ok out) : VerifiableFile out := by
  obtain ⟨sealBytes, made, written⟩ := BundleBuilder.build_eq_ok.mp built
  have empty : builder.placement = .empty := by
    unfold BundleBuilder.placement BundleBuilder.sorted
    rw [nothing]
    rfl
  have sound : builder.Sound :=
    { short := by
        rw [nothing]
        exact fun _ member => absurd member List.not_mem_nil
      collisionFree := by
        rintro _ ⟨_, member, _⟩
        rw [nothing] at member
        cases member
      distinct := by
        unfold BundleBuilder.Distinct
        rw [nothing]
        exact List.nodup_nil
      based := based }
  obtain ⟨header, kept, parses⟩ := fromBytes_build_empty (readsBack manifestFits) manifestFits
    (by rw [empty]; rfl) (by rw [empty]; rfl) written
  exact ⟨_, parses, verifyStructure_eq_ok.mpr
    ⟨_, sound.verified header kept (readsBack manifestFits) (by rw [empty]; decide)⟩⟩

/-- What a builder with entries writes under seals of one length verifies
exactly when that length fits the header and the entries are distinct. -/
theorem BundleBuilder.Storable.verifiable_iff {builder : BundleBuilder}
    (storable : builder.Storable)
    (based : builder.manifest.bundleType = .delta →
      builder.manifest.continuity.baseManifestDigest.isSome)
    (readsBack : builder.finalManifest.toCbor.length < 2 ^ 32 → builder.finalManifest.ReadsBack)
    {length : Nat}
    (accepted : ∃ sealFn out, SealsWith length sealFn builder.finalManifest.toCbor ∧
      builder.build sealFn = .ok out) :
    (∀ sealFn out, SealsWith length sealFn builder.finalManifest.toCbor →
        builder.build sealFn = .ok out → VerifiableFile out) ↔
      builder.entries = [] ∨ (length < 2 ^ 32 ∧ builder.Distinct) := by
  constructor
  · intro verifiable
    obtain ⟨sealFn, out, seals, built⟩ := accepted
    have manifestFits := seals.manifestFits
    obtain ⟨sealBytes, made, _⟩ := BundleBuilder.build_eq_ok.mp built
    obtain ⟨size, room⟩ := BundleBuilder.length_build made built
    rw [size, seals.sealLength sealBytes made] at room
    have fits := BundleBuilder.data_fits built
    by_cases nothing : builder.entries = []
    · exact Or.inl nothing
    right
    have small : length < 2 ^ 32 := by
      apply Nat.lt_of_not_le
      intro large
      obtain ⟨strayOut, strayBuilt, index⟩ := BundleBuilder.build_stray large manifestFits room
      obtain ⟨bundle, parses, verifies⟩ := verifiable _ _
        (sealsWith_strayFn large manifestFits) strayBuilt
      obtain ⟨others, first, _⟩ := index bundle
        (fun none => nothing ((storable.length_eq_zero fits).mp none)) parses
      exact strayRecord_breaks (first ▸ List.mem_cons_self) verifies
    refine ⟨small, ?_⟩
    obtain ⟨header, kept, _, _, expected⟩ := BundleBuilder.fromBytes_build (seals.fits small)
      (readsBack manifestFits) built
    obtain ⟨bundle, parses, verifies⟩ := verifiable sealFn out seals built
    rw [expected] at parses
    cases parses
    obtain ⟨signed, verified⟩ := verifyStructure_eq_ok.mp verifies
    exact storable.distinct_of_ascending fits verified.ascending
  · intro condition sealFn out seals built
    cases condition with
    | inl nothing =>
        exact BundleBuilder.verifiable_of_empty based readsBack nothing seals.manifestFits built
    | inr both =>
        obtain ⟨small, distinct⟩ := both
        exact BundleBuilder.Sound.verifiable ⟨storable, distinct, based⟩
          (readsBack seals.manifestFits) (seals.fits small) built

/-! ### Files that are admitted -/

omit [Sha2] in
theorem manifestBytes_of_fromBytes {header : FileHeader}
    {manifestBytes sealBytes indexBytes data rest : Bytes} {bundle : Bundle}
    (layout : Layout header manifestBytes sealBytes indexBytes data)
    (parsed : Bundle.fromBytes (header.writeTo ++ (manifestBytes ++ rest)) = .ok bundle) :
    bundle.manifestBytes = manifestBytes ∧
      Manifest.fromCbor manifestBytes = .ok bundle.manifest := by
  have read := Bundle.fromBytes_eq_ok.mp parsed
  have same : header = bundle.header := Except.ok.inj
    ((FileHeader.run_readFrom_writeTo layout.supported _).symm.trans read.header)
  have whole : bundle.manifestBytes = manifestBytes := by
    have cut := read.manifestBytes
    rw [← same] at cut
    unfold readSection at cut
    split_ifs at cut
    rw [← Except.ok.inj cut, layout.manifestOffset, UInt32.toNat_toUInt64, layout.manifestLength,
      List.drop_left' header.length_writeTo, List.take_left]
  exact ⟨whole, whole ▸ read.manifest⟩

/-- Where SHA-256 tells the sections of a bundle from those of the builder. -/
structure BundleBuilder.SectionsApart (builder : BundleBuilder) (bundle : Bundle) : Prop where
  index : Sha2.sha256 (writeIndex bundle.index) =
    Sha2.sha256 (writeIndex builder.placement.records) →
      writeIndex bundle.index = writeIndex builder.placement.records
  data : Sha2.sha256 bundle.data = Sha2.sha256 builder.placement.data →
    bundle.data = builder.placement.data

theorem BundleBuilder.eq_written_of_verified {builder : BundleBuilder} {out : Bytes}
    {bundle : Bundle} (readsBack : builder.finalManifest.ReadsBack)
    (manifestFits : builder.finalManifest.toCbor.length < 2 ^ 32)
    (built : builder.build sealFn = .ok out) (parses : Bundle.fromBytes out = .ok bundle)
    {signed : Manifest} (verified : bundle.Verified signed)
    (apart : builder.SectionsApart bundle) :
    bundle = builder.written bundle.header bundle.sealBytes := by
  obtain ⟨sealBytes, _, written⟩ := BundleBuilder.build_eq_ok.mp built
  obtain ⟨content, capacity⟩ := assemble_eq_ok.mp written
  rw [content] at parses
  obtain ⟨sameBytes, decoded⟩ :=
    manifestBytes_of_fromBytes (layout_builtHeader manifestFits capacity) parses
  rw [readsBack.fromCbor] at decoded
  have decodes := verified.decodes
  rw [sameBytes, readsBack.fromCbor] at decodes
  cases decodes
  have sameIndexBytes := apart.index verified.indexDigest
  have sameIndex : bundle.index = builder.placement.records := by
    have again := parseIndex_writeIndex bundle.index
    rw [sameIndexBytes, parseIndex_writeIndex] at again
    exact (Except.ok.inj again).symm
  have sameData := apart.data verified.dataDigest
  cases bundle
  cases sameBytes
  cases sameIndex
  cases sameData
  cases decoded
  rfl

end LongSeals

end Ahu
end Hoike
