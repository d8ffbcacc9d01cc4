/-
The octets of the INDEX section.

A record is stored with sixteen flag bits of which three are defined.  Reading
drops the others, so a stored index is the written form of its records exactly
when no reserved bit is set.  The index digest is checked over the written form.
-/

import Hoike.Ahu.SealedContent

namespace Hoike
namespace Ahu

/-! ### Stored records -/

/-- A record together with the flag octets it was stored with. -/
structure StoredRecord where
  record : IndexRecord
  flagsRaw : UInt16
  truncated : record.flags = IndexFlags.fromBitsTruncate flagsRaw

namespace StoredRecord

def front (stored : StoredRecord) : Bytes :=
  stored.record.entryKey.val ++ (writeU64 stored.record.dataOffset ++
    writeU32 stored.record.dataLength)

def octets (stored : StoredRecord) : Bytes :=
  stored.front ++ (writeU16 stored.flagsRaw ++ writeU16 stored.record.discriminator)

theorem length_front (stored : StoredRecord) : stored.front.length = 44 := by
  simp [front, writeU64, writeU32, stored.record.entryKey.property]

@[simp] theorem length_octets (stored : StoredRecord) :
    stored.octets.length = indexRecordSize := by
  simp [octets, writeU16, stored.length_front, indexRecordSize]

theorem writeTo_eq (stored : StoredRecord) :
    stored.record.writeTo =
      stored.front ++ (writeU16 stored.record.flags.bits ++
        writeU16 stored.record.discriminator) := by
  simp only [IndexRecord.writeTo, front, List.append_assoc]

end StoredRecord

theorem IndexRecord.readFrom_eq_ok {bytes rest : Bytes} {record : IndexRecord}
    (read : IndexRecord.readFrom bytes = .ok (record, rest)) :
    ∃ stored : StoredRecord, stored.record = record ∧ bytes = stored.octets ++ rest := by
  unfold IndexRecord.readFrom at read
  obtain ⟨⟨entryKey, rest₁⟩, key, read⟩ := Except.bind_eq_ok.mp read
  obtain ⟨⟨dataOffset, rest₂⟩, offset, read⟩ := Except.bind_eq_ok.mp read
  obtain ⟨⟨dataLength, rest₃⟩, length, read⟩ := Except.bind_eq_ok.mp read
  obtain ⟨⟨flagsRaw, rest₄⟩, flags, read⟩ := Except.bind_eq_ok.mp read
  obtain ⟨⟨discriminator, rest₅⟩, last, read⟩ := Except.bind_eq_ok.mp read
  cases read
  refine ⟨⟨_, flagsRaw, rfl⟩, rfl, ?_⟩
  rw [readKey_eq_ok key, readU64_eq_ok offset, readU32_eq_ok length, readU16_eq_ok flags,
    readU16_eq_ok last]
  simp only [StoredRecord.octets, StoredRecord.front, List.append_assoc]

theorem readRecords_eq_ok {count : Nat} :
    ∀ {bytes rest : Bytes} {records : List IndexRecord},
      readRecords count bytes = .ok (records, rest) →
        ∃ stored : List StoredRecord, stored.map StoredRecord.record = records ∧
          stored.length = count ∧ bytes = stored.flatMap StoredRecord.octets ++ rest := by
  induction count with
  | zero =>
      intro bytes rest records read
      cases read
      exact ⟨[], rfl, rfl, rfl⟩
  | succ count ih =>
      intro bytes rest records read
      obtain ⟨⟨record, left⟩, first, read⟩ := Except.bind_eq_ok.mp read
      obtain ⟨⟨others, remaining⟩, run, done⟩ := Except.bind_eq_ok.mp read
      cases done
      obtain ⟨here, rfl, whole⟩ := IndexRecord.readFrom_eq_ok first
      obtain ⟨later, rfl, size, behind⟩ := ih run
      refine ⟨here :: later, rfl, by rw [List.length_cons, size], ?_⟩
      rw [whole, behind, List.flatMap_cons, List.append_assoc]

theorem length_flatMap_octets (stored : List StoredRecord) :
    (stored.flatMap StoredRecord.octets).length = stored.length * indexRecordSize := by
  rw [List.length_flatMap]
  simp only [StoredRecord.length_octets]
  simp

/-- A parsed section is its stored records one behind the other. -/
theorem parseIndex_eq_ok {indexBytes : Bytes} {index : List IndexRecord}
    (parsed : parseIndex indexBytes = .ok index) :
    ∃ stored : List StoredRecord, stored.map StoredRecord.record = index ∧
      indexBytes = stored.flatMap StoredRecord.octets := by
  unfold parseIndex at parsed
  split_ifs at parsed with whole
  obtain ⟨⟨records, rest⟩, read, rfl⟩ := Except.map_eq_ok.mp parsed
  obtain ⟨stored, records, size, content⟩ := readRecords_eq_ok read
  have done : rest = [] := by
    have total := congrArg List.length content
    rw [List.length_append, length_flatMap_octets, size] at total
    have parts := Nat.div_mul_cancel (Nat.dvd_of_mod_eq_zero whole)
    exact List.eq_nil_of_length_eq_zero (by omega)
  rw [done, List.append_nil] at content
  exact ⟨stored, records, content⟩

theorem readExact_of_length {count : Nat} {bytes : Bytes} (enough : count ≤ bytes.length) :
    readExact count bytes = .ok (bytes.take count, bytes.drop count) :=
  if_pos enough

theorem IndexRecord.readFrom_of_length {bytes : Bytes}
    (enough : indexRecordSize ≤ bytes.length) :
    ∃ record, IndexRecord.readFrom bytes = .ok (record, bytes.drop indexRecordSize) := by
  have size : indexRecordSize = 48 := rfl
  have key : readKey bytes = .ok (⟨bytes.take 32, List.length_take_of_le (by omega)⟩,
      bytes.drop 32) := dif_pos (by omega)
  have offset : readU64 (bytes.drop 32) = .ok (_, (bytes.drop 32).drop 8) :=
    Cursor.bind_of_ok (readExact_of_length (by rw [List.length_drop]; omega))
  have length : readU32 ((bytes.drop 32).drop 8) = .ok (_, ((bytes.drop 32).drop 8).drop 4) :=
    Cursor.bind_of_ok (readExact_of_length (by simp only [List.length_drop]; omega))
  have flags : readU16 (((bytes.drop 32).drop 8).drop 4) =
      .ok (_, (((bytes.drop 32).drop 8).drop 4).drop 2) :=
    Cursor.bind_of_ok (readExact_of_length (by simp only [List.length_drop]; omega))
  have discriminator : readU16 ((((bytes.drop 32).drop 8).drop 4).drop 2) =
      .ok (_, ((((bytes.drop 32).drop 8).drop 4).drop 2).drop 2) :=
    Cursor.bind_of_ok (readExact_of_length (by simp only [List.length_drop]; omega))
  have rest : ((((bytes.drop 32).drop 8).drop 4).drop 2).drop 2 = bytes.drop indexRecordSize := by
    simp only [List.drop_drop, size]
  rw [rest] at discriminator
  unfold IndexRecord.readFrom
  rw [Cursor.bind_of_ok key, Cursor.bind_of_ok offset, Cursor.bind_of_ok length,
    Cursor.bind_of_ok flags, Cursor.bind_of_ok discriminator]
  exact ⟨_, rfl⟩

theorem readRecords_of_length {count : Nat} :
    ∀ {bytes : Bytes}, count * indexRecordSize ≤ bytes.length →
      ∃ records rest, readRecords count bytes = .ok (records, rest) := by
  induction count with
  | zero =>
      intro bytes _
      exact ⟨[], bytes, rfl⟩
  | succ count ih =>
      intro bytes enough
      rw [Nat.succ_mul] at enough
      obtain ⟨record, first⟩ := IndexRecord.readFrom_of_length (show indexRecordSize ≤
        bytes.length by omega)
      obtain ⟨records, rest, later⟩ := ih (show count * indexRecordSize ≤
        (bytes.drop indexRecordSize).length by rw [List.length_drop]; omega)
      refine ⟨record :: records, rest, ?_⟩
      rw [readRecords, Cursor.bind_of_ok first, Cursor.bind_of_ok later]
      rfl

theorem parseIndex_of_whole {indexBytes : Bytes}
    (whole : indexBytes.length % indexRecordSize = 0) :
    ∃ index, parseIndex indexBytes = .ok index := by
  have size := Nat.div_mul_cancel (Nat.dvd_of_mod_eq_zero whole)
  obtain ⟨records, rest, read⟩ := readRecords_of_length (Nat.le_of_eq size)
  refine ⟨records, ?_⟩
  unfold parseIndex
  rw [if_pos whole]
  change (readRecords _ indexBytes).map Prod.fst = _
  rw [read]
  rfl

/-! ### Reserved flag bits -/

def clearAt (position : Nat) (octet : UInt8) : UInt8 :=
  if position % 48 = 44 then 0
  else if position % 48 = 45 then UInt8.ofNat (octet.toNat % 8)
  else octet

def clearReserved (indexBytes : Bytes) : Bytes :=
  indexBytes.mapIdx clearAt

/-- Bits 3 to 15 of the flags are zero in every record. -/
def NoReservedBits (indexBytes : Bytes) : Prop :=
  ∀ position octet, indexBytes[position]? = some octet →
    (position % 48 = 44 → octet = 0) ∧ (position % 48 = 45 → octet.toNat < 8)

theorem clearAt_eq_self {position : Nat} {octet : UInt8} :
    clearAt position octet = octet ↔
      (position % 48 = 44 → octet = 0) ∧ (position % 48 = 45 → octet.toNat < 8) := by
  unfold clearAt
  split_ifs with high low
  · simp only [high, true_implies, show (44 : Nat) ≠ 45 by decide, false_implies, and_true]
    exact eq_comm
  · simp only [low, true_implies, show (45 : Nat) ≠ 44 by decide, false_implies, true_and]
    have below := octet.toNat_lt
    constructor
    · intro same
      have value := congrArg UInt8.toNat same
      rw [UInt8.toNat_ofNat_of_lt' (by simp only [UInt8.size]; omega)] at value
      omega
    · intro small
      rw [Nat.mod_eq_of_lt small, UInt8.ofNat_toNat]
  · simp [high, low]

theorem mapIdx_eq_self_iff {α : Type} {f : Nat → α → α} {items : List α} :
    items.mapIdx f = items ↔
      ∀ position item, items[position]? = some item → f position item = item := by
  constructor
  · intro same position item here
    have mapped := congrArg (fun list : List α => list[position]?) same
    simp only [List.getElem?_mapIdx, here, Option.map_some] at mapped
    exact Option.some.inj mapped
  · intro each
    apply List.ext_getElem?
    intro position
    rw [List.getElem?_mapIdx]
    cases here : items[position]? with
    | none => rfl
    | some item => rw [Option.map_some, each position item here]

theorem clearReserved_eq_self {indexBytes : Bytes} :
    clearReserved indexBytes = indexBytes ↔ NoReservedBits indexBytes := by
  unfold clearReserved NoReservedBits
  rw [mapIdx_eq_self_iff]
  simp only [clearAt_eq_self]

/-- Whole records are cleared one by one. -/
example : clearReserved (List.replicate 44 0xff ++ [0xff, 0xff, 0, 1]) =
    List.replicate 44 0xff ++ [0, 7, 0, 1] := by
  decide +kernel

theorem clearReserved_append {front rest : Bytes} (size : front.length = 48) :
    clearReserved (front ++ rest) = clearReserved front ++ clearReserved rest := by
  have shifted : (fun position => clearAt (position + front.length)) = clearAt := by
    funext position octet
    unfold clearAt
    rw [size, Nat.add_mod_right]
  unfold clearReserved
  rw [List.mapIdx_append, shifted]

theorem IndexFlags.bits_fromBitsTruncate (raw : UInt16) :
    (IndexFlags.fromBitsTruncate raw).bits.toNat = raw.toNat % 8 := by
  have bit : ∀ position, position < 3 →
      raw.toNat.testBit position = (raw.toNat % 8).testBit position := by
    intro position below
    have cut := Nat.testBit_mod_two_pow raw.toNat 3 position
    rw [decide_eq_true below, Bool.true_and] at cut
    exact cut.symm
  have small : raw.toNat % 8 < 8 := Nat.mod_lt _ (by decide)
  unfold IndexFlags.fromBitsTruncate
  rw [bit 0 (by decide), bit 1 (by decide), bit 2 (by decide)]
  have table : ∀ low : Fin 8, (IndexFlags.mk (low.val.testBit 0) (low.val.testBit 1)
      (low.val.testBit 2)).bits.toNat = low.val := by
    decide
  exact table ⟨raw.toNat % 8, small⟩

theorem writeU16_eq (value : UInt16) :
    writeU16 value = [UInt8.ofNat (value.toNat / 256), UInt8.ofNat (value.toNat % 256)] := by
  have below := value.toNat_lt
  have high : value.toNat / 256 % 256 = value.toNat / 256 := by omega
  simp [writeU16, Bytes.ofNatBE, high]

theorem StoredRecord.clearReserved_octets (stored : StoredRecord) :
    clearReserved stored.octets = stored.record.writeTo := by
  have front : stored.front.mapIdx clearAt = stored.front := by
    rw [mapIdx_eq_self_iff]
    intro position octet here
    obtain ⟨within, _⟩ := List.getElem?_eq_some_iff.mp here
    rw [stored.length_front] at within
    rw [clearAt_eq_self]
    omega
  have below := stored.flagsRaw.toNat_lt
  have low : (UInt8.ofNat (stored.flagsRaw.toNat % 256)).toNat = stored.flagsRaw.toNat % 256 :=
    UInt8.toNat_ofNat_of_lt' (Nat.mod_lt _ (by decide))
  have cut : stored.flagsRaw.toNat % 256 % 8 = stored.flagsRaw.toNat % 8 % 256 := by omega
  have zero : stored.flagsRaw.toNat % 8 / 256 = 0 := by omega
  rw [stored.writeTo_eq, octets, clearReserved, List.mapIdx_append, front, stored.length_front,
    writeU16_eq stored.flagsRaw, writeU16_eq stored.record.flags.bits, stored.truncated,
    IndexFlags.bits_fromBitsTruncate, writeU16_eq stored.record.discriminator]
  simp [clearAt, low, cut, zero]

theorem clearReserved_flatMap (stored : List StoredRecord) :
    clearReserved (stored.flatMap StoredRecord.octets) =
      writeIndex (stored.map StoredRecord.record) := by
  induction stored with
  | nil =>
      rfl
  | cons first rest ih =>
      rw [List.flatMap_cons, clearReserved_append first.length_octets, ih,
        first.clearReserved_octets]
      rfl

/-- Rewriting the parsed records clears the reserved bits. -/
theorem writeIndex_of_parseIndex {indexBytes : Bytes} {index : List IndexRecord}
    (parsed : parseIndex indexBytes = .ok index) :
    writeIndex index = clearReserved indexBytes := by
  obtain ⟨stored, rfl, rfl⟩ := parseIndex_eq_ok parsed
  exact (clearReserved_flatMap stored).symm

/-! ### The index digest -/

def rawIndex (file : Bytes) (header : FileHeader) : Bytes :=
  (file.drop header.indexOffset.toNat).take header.indexLength.toNat

theorem readSection_eq_ok {bytes found : Bytes} {offset length : UInt64}
    (cut : readSection bytes offset length = .ok found) :
    offset.toNat + length.toNat ≤ bytes.length ∧
      found = (bytes.drop offset.toNat).take length.toNat := by
  unfold readSection at cut
  split_ifs at cut with inside
  exact ⟨inside.2, (Except.ok.inj cut).symm⟩

theorem validateSortOrderFrom_ne_mismatch (expected actual : String)
    (records : List IndexRecord) :
    ∀ position, validateSortOrderFrom position records ≠
      .error (.indexDigestMismatch expected actual) := by
  induction records with
  | nil =>
      intro position
      simp [validateSortOrderFrom]
  | cons record rest ih =>
      intro position
      cases rest with
      | nil =>
          simp [validateSortOrderFrom]
      | cons next others =>
          unfold validateSortOrderFrom
          cases compare record.entryKey.val next.entryKey.val <;>
            cases compare record.discriminator next.discriminator <;> simp [ih]

theorem validateEntryBounds_ne_mismatch (expected actual : String) (bundle : Bundle)
    (records : List IndexRecord) :
    validateEntryBounds bundle records ≠ .error (.indexDigestMismatch expected actual) := by
  induction records with
  | nil =>
      simp [validateEntryBounds]
  | cons record rest ih =>
      intro failed
      rcases Except.bind_eq_error.mp failed with here | ⟨_, _, later⟩
      · cases (Except.require_eq_error.mp here).2
      · exact ih later

section Digest

variable [Sha2] [Ciborium]

def PassesIndexDigest (bundle : Bundle) : Prop :=
  ∀ expected actual, verifyStructure bundle ≠ .error (.indexDigestMismatch expected actual)

/-- In a parsed bundle the digest is taken over the rewritten records. -/
theorem passesIndexDigest_iff {bundle : Bundle} (decoded : bundle.Decoded) :
    PassesIndexDigest bundle ↔
      Sha2.sha256 (writeIndex bundle.index) = bundle.manifest.integrity.indexDigest := by
  unfold PassesIndexDigest verifyStructure
  rw [decoded.manifest]
  change (∀ expected actual, (Except.require _ _ >>= fun _ => Except.require _ _ >>= _) ≠ _) ↔ _
  constructor
  · intro passes
    by_contra differs
    apply passes (Bytes.encodeHex bundle.manifest.integrity.indexDigest.val)
      (Bytes.encodeHex (Sha2.sha256 (writeIndex bundle.index)).val)
    refine Except.bind_eq_error.mpr (Or.inr ⟨(), Except.require_eq_ok.mpr rfl, ?_⟩)
    exact Except.bind_eq_error.mpr (Or.inl (Except.require_eq_error.mpr ⟨differs, rfl⟩))
  · intro same expected actual failed
    -- No other check reports this error.
    rcases Except.bind_eq_error.mp failed with agrees | ⟨_, _, failed⟩
    · cases (Except.require_eq_error.mp agrees).2
    rcases Except.bind_eq_error.mp failed with digest | ⟨_, _, failed⟩
    · exact (Except.require_eq_error.mp digest).1 same
    rcases Except.bind_eq_error.mp failed with digest | ⟨_, _, failed⟩
    · cases (Except.require_eq_error.mp digest).2
    rcases Except.bind_eq_error.mp failed with unsorted | ⟨_, _, failed⟩
    · exact validateSortOrderFrom_ne_mismatch _ _ _ _ unsorted
    rcases Except.bind_eq_error.mp failed with outside | ⟨_, _, failed⟩
    · exact validateEntryBounds_ne_mismatch _ _ _ _ outside
    rcases Except.bind_eq_error.mp failed with based | ⟨_, _, failed⟩
    · cases (Except.require_eq_error.mp based).2
    · cases failed

/-- The check passes exactly for the digest of the stored section if and only if
no reserved bit is stored, or the digest belongs to neither reading of the section. -/
theorem index_digest_covers_section_iff {file : Bytes} {bundle : Bundle}
    (parsed : Bundle.fromBytes file = .ok bundle)
    (collisionFree : Set.InjOn Sha2.sha256
      {rawIndex file bundle.header, clearReserved (rawIndex file bundle.header)}) :
    (PassesIndexDigest bundle ↔
        Sha2.sha256 (rawIndex file bundle.header) = bundle.manifest.integrity.indexDigest) ↔
      NoReservedBits (rawIndex file bundle.header) ∨
        (bundle.manifest.integrity.indexDigest ≠ Sha2.sha256 (rawIndex file bundle.header) ∧
          bundle.manifest.integrity.indexDigest ≠
            Sha2.sha256 (clearReserved (rawIndex file bundle.header))) := by
  obtain ⟨indexBytes, cut, indexed⟩ := (Bundle.fromBytes_eq_ok.mp parsed).index
  have stored : indexBytes = rawIndex file bundle.header := (readSection_eq_ok cut).2
  rw [stored] at indexed
  rw [passesIndexDigest_iff (Bundle.decoded_of_fromBytes parsed),
    writeIndex_of_parseIndex indexed, ← clearReserved_eq_self]
  have apart := collisionFree (Set.mem_insert_of_mem _ rfl) (Set.mem_insert _ _)
  constructor
  · intro covers
    by_cases clear : clearReserved (rawIndex file bundle.header) = rawIndex file bundle.header
    · exact Or.inl clear
    · refine Or.inr ⟨?_, ?_⟩
      · intro digest
        exact clear (apart ((covers.mpr digest.symm).trans digest))
      · intro digest
        exact clear (apart (digest.symm.trans (covers.mp digest.symm).symm))
  · rintro (clear | ⟨notStored, notCleared⟩)
    · rw [clear]
    · exact iff_of_false (Ne.symm notCleared) (Ne.symm notStored)

end Digest

/-! ### A record with a reserved bit -/

section Flagged

local instance flaggedSha2 : Sha2 := Crates.sha2
local instance flaggedCiborium : Ciborium := Crates.ciborium

def flaggedIndex (low : UInt8) : Bytes :=
  (writeIndex [sampleRecord]).take 45 ++ [low, 0, 0]

def flaggedManifest (digest : Octets 32) : Manifest :=
  { sampleManifest with
    integrity :=
      { indexDigest := digest
        dataDigest := Sha2.sha256 [7, 8, 9] } }

def flaggedFile (low : UInt8) (digest : Octets 32) : Bytes :=
  let header : FileHeader :=
    { sampleHeader 1 with
      manifestOffset := 115
      manifestLength := UInt32.ofNat (flaggedManifest digest).toCbor.length }
  header.writeTo ++ flaggedIndex low ++ [7, 8, 9] ++ (flaggedManifest digest).toCbor

def indexView (file : Bytes) : Option (Bytes × Octets 32 × Octets 32) :=
  (Bundle.fromBytes file).toOption.map fun bundle =>
    (rawIndex file bundle.header, bundle.manifest.integrity.indexDigest,
      Sha2.sha256 (writeIndex bundle.index))

theorem exists_of_indexView {file raw : Bytes} {digest computed : Octets 32}
    (viewed : indexView file = some (raw, digest, computed)) :
    ∃ bundle, Bundle.fromBytes file = .ok bundle ∧ rawIndex file bundle.header = raw ∧
      bundle.manifest.integrity.indexDigest = digest ∧
      Sha2.sha256 (writeIndex bundle.index) = computed := by
  obtain ⟨bundle, parsed, same⟩ := Option.map_eq_some_iff.mp viewed
  cases same
  exact ⟨bundle, Except.toOption_eq_some.mp parsed, rfl, rfl, rfl⟩

theorem flaggedFiles_computed :
    Sha2.sha256 (flaggedIndex 0) ≠ Sha2.sha256 (flaggedIndex 8) ∧
      indexView (flaggedFile 8 (Sha2.sha256 (flaggedIndex 8))) =
        some (flaggedIndex 8, Sha2.sha256 (flaggedIndex 8), Sha2.sha256 (flaggedIndex 0)) ∧
      indexView (flaggedFile 8 (Sha2.sha256 (flaggedIndex 0))) =
        some (flaggedIndex 8, Sha2.sha256 (flaggedIndex 0), Sha2.sha256 (flaggedIndex 0)) ∧
      indexView (flaggedFile 0 (Sha2.sha256 (flaggedIndex 0))) =
        some (flaggedIndex 0, Sha2.sha256 (flaggedIndex 0), Sha2.sha256 (flaggedIndex 0)) ∧
      (flaggedFile 8 (Sha2.sha256 (flaggedIndex 0))).length < 2 ^ 64 ∧
      (Bundle.fromBytes (flaggedFile 8 (Sha2.sha256 (flaggedIndex 0)))).toOption.map
          (fun bundle => (bundle.index, bundle.lookupPreferred sampleRecord.entryKey [3, 2])) =
        some ([sampleRecord], some [7, 8, 9]) := by
  decide +kernel

/-- The digest is the one of the section as it is stored, with a reserved bit
set, and the file is refused; with the digest of other octets it passes. -/
theorem reserved_bit_unauthenticated :
    (∃ bundle, Bundle.fromBytes (flaggedFile 8 (Sha2.sha256 (flaggedIndex 8))) = .ok bundle ∧
      Sha2.sha256 (rawIndex (flaggedFile 8 (Sha2.sha256 (flaggedIndex 8))) bundle.header) =
        bundle.manifest.integrity.indexDigest ∧ ¬PassesIndexDigest bundle) ∧
      ∃ bundle, Bundle.fromBytes (flaggedFile 8 (Sha2.sha256 (flaggedIndex 0))) = .ok bundle ∧
        Sha2.sha256 (rawIndex (flaggedFile 8 (Sha2.sha256 (flaggedIndex 0))) bundle.header) ≠
          bundle.manifest.integrity.indexDigest ∧ PassesIndexDigest bundle := by
  obtain ⟨differ, stored, other, _⟩ := flaggedFiles_computed
  constructor
  · obtain ⟨bundle, parsed, raw, digest, computed⟩ := exists_of_indexView stored
    refine ⟨bundle, parsed, by rw [raw, digest], ?_⟩
    rw [passesIndexDigest_iff (Bundle.decoded_of_fromBytes parsed), computed, digest]
    exact differ
  · obtain ⟨bundle, parsed, raw, digest, computed⟩ := exists_of_indexView other
    refine ⟨bundle, parsed, by rw [raw, digest]; exact differ.symm, ?_⟩
    rw [passesIndexDigest_iff (Bundle.decoded_of_fromBytes parsed), computed, digest]

/-- Without reserved bits the digest of the stored section is the one checked. -/
theorem plain_index_digest_covers : ∃ bundle,
    Bundle.fromBytes (flaggedFile 0 (Sha2.sha256 (flaggedIndex 0))) = .ok bundle ∧
      (PassesIndexDigest bundle ↔
        Sha2.sha256 (rawIndex (flaggedFile 0 (Sha2.sha256 (flaggedIndex 0))) bundle.header) =
          bundle.manifest.integrity.indexDigest) := by
  obtain ⟨_, _, _, plain, _⟩ := flaggedFiles_computed
  obtain ⟨bundle, parsed, raw, digest, _⟩ := exists_of_indexView plain
  have clear : clearReserved (flaggedIndex 0) = flaggedIndex 0 := by decide
  refine ⟨bundle, parsed, (index_digest_covers_section_iff parsed ?_).mpr (Or.inl ?_)⟩
  · rw [raw, clear, Set.pair_eq_singleton]
    exact Set.injOn_singleton _ _
  · rw [raw]
    exact clearReserved_eq_self.mp clear

end Flagged

end Ahu
end Hoike
