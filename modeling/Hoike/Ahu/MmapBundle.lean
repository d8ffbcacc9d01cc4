/-
The memory-mapped reader (`mmap_bundle.rs`).

It keeps offsets into the mapping instead of parsed sections and searches the
index in place.  Every slice and every sum of the code that could panic is a
fault here, so that its absence is a theorem.  `usize` is 64 bits wide.
-/

import Hoike.Ahu.RawIndex

namespace Hoike
namespace Ahu

/-! ### Accesses that can panic -/

inductive Fault where
  | arithmeticOverflow
  | sliceOutOfRange
deriving DecidableEq, Repr

abbrev Access := Except Fault

def usizeAdd (left right : Nat) : Access Nat :=
  if left + right < 2 ^ 64 then .ok (left + right) else .error .arithmeticOverflow

def usizeMul (left right : Nat) : Access Nat :=
  if left * right < 2 ^ 64 then .ok (left * right) else .error .arithmeticOverflow

/-- `&bytes[start..stop]`. -/
def sliceRange (bytes : Bytes) (start stop : Nat) : Access Bytes :=
  if start ≤ stop ∧ stop ≤ bytes.length then .ok ((bytes.drop start).take (stop - start))
  else .error .sliceOutOfRange

/-- `checked_add`. -/
def checkedUsizeAdd (left right : Nat) : Option Nat :=
  if left + right < 2 ^ 64 then some (left + right) else none

/-- `bytes.get(start..stop)`. -/
def getRange (bytes : Bytes) (start stop : Nat) : Option Bytes :=
  if start ≤ stop ∧ stop ≤ bytes.length then some ((bytes.drop start).take (stop - start))
  else none

/-! ### The reader -/

structure MmapBundle where
  mmap : Bytes
  header : FileHeader
  manifest : Manifest
  manifestStart : Nat
  manifestEnd : Nat
  sealStart : Nat
  sealEnd : Nat
  indexOffset : Nat
  indexCount : Nat
  dataOffset : Nat
  dataLength : Nat

inductive OpenError where
  | refused (error : AhuError)
  | fault (fault : Fault)

def MmapBundle.openFile [Ciborium] (file : Bytes) : Except OpenError MmapBundle := do
  let fileSize := UInt64.ofNat file.length
  Except.require (headerSize ≤ file.length ∧ file.length < 2 ^ 64)
    (.refused (.headerOutOfBounds "file" 0 (UInt64.ofNat headerSize) fileSize))
  let headerBytes ← (sliceRange file 0 headerSize).mapError OpenError.fault
  let header ← (FileHeader.readFrom.run' headerBytes).mapError OpenError.refused
  (header.validateBounds fileSize).mapError OpenError.refused
  let manifestStart := header.manifestOffset.toNat
  let manifestEnd ←
    (usizeAdd manifestStart header.manifestLength.toNat).mapError OpenError.fault
  let manifestBytes ← (sliceRange file manifestStart manifestEnd).mapError OpenError.fault
  let manifest ← (Manifest.fromCbor manifestBytes).mapError OpenError.refused
  let sealStart := header.sealOffset.toNat
  let sealEnd ← (usizeAdd sealStart header.sealLength.toNat).mapError OpenError.fault
  Except.require (header.indexLength.toNat % indexRecordSize = 0)
    (.refused (.indexSizeMismatch header.indexLength indexRecordSize))
  return {
    mmap := file
    header := header
    manifest := manifest
    manifestStart := manifestStart
    manifestEnd := manifestEnd
    sealStart := sealStart
    sealEnd := sealEnd
    indexOffset := header.indexOffset.toNat
    indexCount := header.indexLength.toNat / indexRecordSize
    dataOffset := header.dataOffset.toNat
    dataLength := header.dataLength.toNat }

namespace MmapBundle

variable (mapped : MmapBundle)

def recordBase (n : Nat) : Access Nat := do
  usizeAdd mapped.indexOffset (← usizeMul n indexRecordSize)

def recordSlice (n start stop : Nat) : Access Bytes := do
  let base ← mapped.recordBase n
  sliceRange mapped.mmap (← usizeAdd base start) (← usizeAdd base stop)

def readEntryKey (n : Nat) : Access Bytes :=
  mapped.recordSlice n 0 32

def readDiscriminator (n : Nat) : Access UInt16 := do
  return UInt16.ofNat (Bytes.toNatBE (← mapped.recordSlice n 46 48))

def readRecordFields (n : Nat) : Access (UInt64 × UInt32 × IndexFlags × UInt16) := do
  let dataOffset := UInt64.ofNat (Bytes.toNatBE (← mapped.recordSlice n 32 40))
  let dataLength := UInt32.ofNat (Bytes.toNatBE (← mapped.recordSlice n 40 44))
  let flagsRaw := UInt16.ofNat (Bytes.toNatBE (← mapped.recordSlice n 44 46))
  let discriminator := UInt16.ofNat (Bytes.toNatBE (← mapped.recordSlice n 46 48))
  return (dataOffset, dataLength, IndexFlags.fromBitsTruncate flagsRaw, discriminator)

def entryAtMmap (position : Nat) : Access (Option Bytes) := do
  let (offset, length, flags, _) ← mapped.readRecordFields position
  if flags.tombstone then return none
  return do
    let relativeEnd ← checkedUsizeAdd offset.toNat length.toNat
    if mapped.dataLength < relativeEnd then none
    else
      let start ← checkedUsizeAdd mapped.dataOffset offset.toNat
      let stop ← checkedUsizeAdd mapped.dataOffset relativeEnd
      getRange mapped.mmap start stop

/-- The loop over a half-open window.  Each turn takes one unit of fuel. -/
def searchLoop (entryKey : Octets 32) (discriminator : UInt16) :
    (fuel low high : Nat) → Access (Option Nat)
  | 0, _, _ => return none
  | fuel + 1, low, high => do
      if low < high then
        let middle ← usizeAdd low ((high - low) / 2)
        let key ← mapped.readEntryKey middle
        let middleDiscriminator ← mapped.readDiscriminator middle
        match (compare key entryKey.val).then (compare middleDiscriminator discriminator) with
        | .eq => return some middle
        | .lt => searchLoop entryKey discriminator fuel (← usizeAdd middle 1) high
        | .gt => searchLoop entryKey discriminator fuel low middle
      else return none

def binarySearchDisc (entryKey : Octets 32) (discriminator : UInt16) : Access (Option Nat) :=
  mapped.searchLoop entryKey discriminator mapped.indexCount 0 mapped.indexCount

def lookup (entryKey : Octets 32) : Access (Option Bytes) := do
  match ← mapped.binarySearchDisc entryKey 0 with
  | none => return none
  | some position => mapped.entryAtMmap position

def firstPreferred (entryKey : Octets 32) : List UInt16 → Access (Option Nat)
  | [] => return none
  | discriminator :: rest => do
      match ← mapped.binarySearchDisc entryKey discriminator with
      | some position => return some position
      | none => firstPreferred entryKey rest

def lookupPreferred (entryKey : Octets 32) (preferences : List UInt16) :
    Access (Option Bytes) := do
  match ← mapped.firstPreferred entryKey preferences with
  | some position => mapped.entryAtMmap position
  | none =>
      if 0 ∈ preferences then return none
      else mapped.lookup entryKey

def manifestBytes : Access Bytes :=
  sliceRange mapped.mmap mapped.manifestStart mapped.manifestEnd

def sealBytes : Access Bytes :=
  sliceRange mapped.mmap mapped.sealStart mapped.sealEnd

def entryCount : Nat := mapped.indexCount

end MmapBundle

/-! ### Opening -/

theorem usizeAdd_of_lt {left right : Nat} (fits : left + right < 2 ^ 64) :
    usizeAdd left right = .ok (left + right) :=
  if_pos fits

theorem usizeMul_of_lt {left right : Nat} (fits : left * right < 2 ^ 64) :
    usizeMul left right = .ok (left * right) :=
  if_pos fits

theorem checkedUsizeAdd_of_lt {left right : Nat} (fits : left + right < 2 ^ 64) :
    checkedUsizeAdd left right = some (left + right) :=
  if_pos fits

theorem sliceRange_of_le {bytes : Bytes} {start stop : Nat} (ordered : start ≤ stop)
    (inside : stop ≤ bytes.length) :
    sliceRange bytes start stop = .ok ((bytes.drop start).take (stop - start)) :=
  if_pos ⟨ordered, inside⟩

example : sliceRange [1, 2, 3] 1 4 = .error .sliceOutOfRange := by decide +kernel

theorem sliceRange_of_readSection {bytes found : Bytes} {offset length : UInt64}
    (cut : readSection bytes offset length = .ok found) :
    sliceRange bytes offset.toNat (offset.toNat + length.toNat) = .ok found := by
  obtain ⟨inside, rfl⟩ := readSection_eq_ok cut
  rw [sliceRange_of_le (Nat.le_add_right _ _) inside, Nat.add_sub_cancel_left]

theorem readSection_of_le {bytes : Bytes} {offset length : UInt64}
    (size : bytes.length < 2 ^ 64) (inside : offset.toNat + length.toNat ≤ bytes.length) :
    readSection bytes offset length = .ok ((bytes.drop offset.toNat).take length.toNat) :=
  if_pos ⟨by omega, inside⟩

theorem FileHeader.validateBounds_eq_ok {header : FileHeader} {fileSize : UInt64} :
    header.validateBounds fileSize = .ok () ↔
      header.manifestOffset.toNat + header.manifestLength.toNat ≤ fileSize.toNat ∧
      header.sealOffset.toNat + header.sealLength.toNat ≤ fileSize.toNat ∧
      header.indexOffset.toNat + header.indexLength.toNat ≤ fileSize.toNat ∧
      header.dataOffset.toNat + header.dataLength.toNat ≤ fileSize.toNat := by
  have check : ∀ field offset length, checkBounds fileSize field offset length = .ok () ↔
      offset.toNat + length.toNat ≤ fileSize.toNat := by
    intro field offset length
    unfold checkBounds
    split_ifs with inside
    · simp [inside]
    · simp [inside]
  unfold FileHeader.validateBounds
  constructor
  · intro valid
    obtain ⟨_, manifest, valid⟩ := Except.bind_eq_ok.mp valid
    obtain ⟨_, seals, valid⟩ := Except.bind_eq_ok.mp valid
    obtain ⟨_, index, data⟩ := Except.bind_eq_ok.mp valid
    exact ⟨(check _ _ _).mp manifest, (check _ _ _).mp seals, (check _ _ _).mp index,
      (check _ _ _).mp data⟩
  · rintro ⟨manifest, seals, index, data⟩
    refine Except.bind_eq_ok.mpr ⟨(), (check _ _ _).mpr manifest, ?_⟩
    refine Except.bind_eq_ok.mpr ⟨(), (check _ _ _).mpr seals, ?_⟩
    exact Except.bind_eq_ok.mpr ⟨(), (check _ _ _).mpr index, (check _ _ _).mpr data⟩

theorem FileHeader.run_readFrom_take {file : Bytes} {header : FileHeader} :
    FileHeader.readFrom.run' file = .ok header ↔
      headerSize ≤ file.length ∧ FileHeader.readFrom.run' (file.take headerSize) = .ok header := by
  rw [FileHeader.run_readFrom_eq_ok, FileHeader.run_readFrom_eq_ok]
  constructor
  · rintro ⟨supported, rest, rfl⟩
    refine ⟨?_, supported, [], ?_⟩
    · rw [List.length_append, header.length_writeTo]
      exact Nat.le_add_right _ _
    · rw [List.take_left' header.length_writeTo, List.append_nil]
  · rintro ⟨_, supported, rest, front⟩
    refine ⟨supported, rest ++ file.drop headerSize, ?_⟩
    rw [← List.append_assoc, ← front, List.take_append_drop]

def MmapBundle.ofBundle (file : Bytes) (bundle : Bundle) : MmapBundle :=
  { mmap := file
    header := bundle.header
    manifest := bundle.manifest
    manifestStart := bundle.header.manifestOffset.toNat
    manifestEnd := bundle.header.manifestOffset.toNat + bundle.header.manifestLength.toNat
    sealStart := bundle.header.sealOffset.toNat
    sealEnd := bundle.header.sealOffset.toNat + bundle.header.sealLength.toNat
    indexOffset := bundle.header.indexOffset.toNat
    indexCount := bundle.header.indexLength.toNat / indexRecordSize
    dataOffset := bundle.header.dataOffset.toNat
    dataLength := bundle.header.dataLength.toNat }

section Opening

variable [Ciborium] {file : Bytes}

omit [Ciborium] in
theorem toNat_fileSize (size : file.length < 2 ^ 64) :
    (UInt64.ofNat file.length).toNat = file.length :=
  UInt64.toNat_ofNat_of_lt' size

theorem length_rawIndex {bundle : Bundle} (read : bundle.ReadFrom file) :
    (rawIndex file bundle.header).length = bundle.header.indexLength.toNat := by
  obtain ⟨indexBytes, cut, _⟩ := read.index
  obtain ⟨inside, _⟩ := readSection_eq_ok cut
  unfold rawIndex
  rw [List.length_take, List.length_drop]
  omega

theorem parseIndex_rawIndex {bundle : Bundle} (read : bundle.ReadFrom file) :
    parseIndex (rawIndex file bundle.header) = .ok bundle.index := by
  obtain ⟨indexBytes, cut, indexed⟩ := read.index
  obtain ⟨_, same⟩ := readSection_eq_ok cut
  rw [same] at indexed
  exact indexed

theorem MmapBundle.openFile_of_readFrom (size : file.length < 2 ^ 64) {bundle : Bundle}
    (read : bundle.ReadFrom file) :
    MmapBundle.openFile file = .ok (MmapBundle.ofBundle file bundle) := by
  obtain ⟨enough, header⟩ := FileHeader.run_readFrom_take.mp read.header
  obtain ⟨manifestFits, sealFits, _, _⟩ := FileHeader.validateBounds_eq_ok.mp read.bounds
  rw [toNat_fileSize size] at manifestFits sealFits
  have manifestBytes := sliceRange_of_readSection read.manifestBytes
  rw [UInt32.toNat_toUInt64] at manifestBytes
  have whole : bundle.header.indexLength.toNat % indexRecordSize = 0 := by
    have parsed := parseIndex_rawIndex read
    unfold parseIndex at parsed
    split_ifs at parsed with whole
    rwa [length_rawIndex read] at whole
  have front : sliceRange file 0 headerSize = .ok (file.take headerSize) := by
    rw [sliceRange_of_le (Nat.zero_le _) enough]
    rfl
  unfold MmapBundle.openFile
  refine Except.bind_eq_ok.mpr ⟨(), Except.require_eq_ok.mpr ⟨enough, size⟩, ?_⟩
  refine Except.bind_eq_ok.mpr ⟨_, Except.mapError_eq_ok.mpr front, ?_⟩
  refine Except.bind_eq_ok.mpr ⟨bundle.header, Except.mapError_eq_ok.mpr header, ?_⟩
  refine Except.bind_eq_ok.mpr ⟨(), Except.mapError_eq_ok.mpr read.bounds, ?_⟩
  refine Except.bind_eq_ok.mpr
    ⟨_, Except.mapError_eq_ok.mpr (usizeAdd_of_lt (by omega)), ?_⟩
  refine Except.bind_eq_ok.mpr ⟨_, Except.mapError_eq_ok.mpr manifestBytes, ?_⟩
  refine Except.bind_eq_ok.mpr ⟨_, Except.mapError_eq_ok.mpr read.manifest, ?_⟩
  refine Except.bind_eq_ok.mpr
    ⟨_, Except.mapError_eq_ok.mpr (usizeAdd_of_lt (by omega)), ?_⟩
  exact Except.bind_eq_ok.mpr ⟨(), Except.require_eq_ok.mpr whole, rfl⟩

theorem MmapBundle.readFrom_of_openFile {mapped : MmapBundle}
    (opened : MmapBundle.openFile file = .ok mapped) :
    ∃ bundle : Bundle, bundle.ReadFrom file := by
  unfold MmapBundle.openFile at opened
  obtain ⟨_, sizes, opened⟩ := Except.bind_eq_ok.mp opened
  obtain ⟨enough, size⟩ := Except.require_eq_ok.mp sizes
  obtain ⟨front, frontSlice, opened⟩ := Except.bind_eq_ok.mp opened
  obtain ⟨header, headerRead, opened⟩ := Except.bind_eq_ok.mp opened
  obtain ⟨_, bounds, opened⟩ := Except.bind_eq_ok.mp opened
  obtain ⟨manifestEnd, manifestSum, opened⟩ := Except.bind_eq_ok.mp opened
  obtain ⟨manifestBytes, manifestSlice, opened⟩ := Except.bind_eq_ok.mp opened
  obtain ⟨manifest, decoded, opened⟩ := Except.bind_eq_ok.mp opened
  obtain ⟨_, _, opened⟩ := Except.bind_eq_ok.mp opened
  obtain ⟨_, whole, _⟩ := Except.bind_eq_ok.mp opened
  have whole := Except.require_eq_ok.mp whole
  rw [Except.mapError_eq_ok] at frontSlice headerRead bounds manifestSum manifestSlice decoded
  rw [sliceRange_of_le (Nat.zero_le _) enough] at frontSlice
  cases frontSlice
  obtain ⟨manifestFits, sealFits, indexFits, dataFits⟩ :=
    FileHeader.validateBounds_eq_ok.mp bounds
  rw [toNat_fileSize size] at manifestFits sealFits indexFits dataFits
  rw [usizeAdd_of_lt (by omega)] at manifestSum
  cases manifestSum
  rw [sliceRange_of_le (Nat.le_add_right _ _) manifestFits, Nat.add_sub_cancel_left]
    at manifestSlice
  have raw : (rawIndex file header).length = header.indexLength.toNat := by
    unfold rawIndex
    rw [List.length_take, List.length_drop]
    omega
  have manifestSection : readSection file header.manifestOffset header.manifestLength.toUInt64 =
      .ok manifestBytes := by
    rw [← Except.ok.inj manifestSlice]
    exact readSection_of_le size (by rw [UInt32.toNat_toUInt64]; exact manifestFits)
  have sealSection : readSection file header.sealOffset header.sealLength.toUInt64 = .ok _ :=
    readSection_of_le size (by rw [UInt32.toNat_toUInt64]; exact sealFits)
  obtain ⟨index, indexed⟩ := parseIndex_of_whole (show (rawIndex file header).length %
    indexRecordSize = 0 by rw [raw]; exact whole)
  refine ⟨{ header := header
            manifest := manifest
            manifestBytes := manifestBytes
            sealBytes := _
            index := index
            data := _ },
    { header := FileHeader.run_readFrom_take.mpr ⟨enough, headerRead⟩
      bounds := bounds
      manifestBytes := manifestSection
      manifest := decoded
      sealBytes := sealSection
      index := ⟨_, readSection_of_le size indexFits, indexed⟩
      data := readSection_of_le size dataFits }⟩

/-- Nothing in opening a file can panic: every sum and slice comes after the
check of its bounds. -/
theorem MmapBundle.openFile_ne_fault (fault : Fault) :
    MmapBundle.openFile file ≠ .error (.fault fault) := by
  intro failed
  unfold MmapBundle.openFile at failed
  rcases Except.bind_eq_error.mp failed with refused | ⟨_, sizes, failed⟩
  · cases (Except.require_eq_error.mp refused).2
  obtain ⟨enough, size⟩ := Except.require_eq_ok.mp sizes
  rcases Except.bind_eq_error.mp failed with slice | ⟨front, _, failed⟩
  · rw [sliceRange_of_le (Nat.zero_le _) enough] at slice
    cases slice
  rcases Except.bind_eq_error.mp failed with refused | ⟨header, _, failed⟩
  · obtain ⟨_, _, other⟩ := Except.mapError_eq_error.mp refused
    cases other
  rcases Except.bind_eq_error.mp failed with refused | ⟨_, bounds, failed⟩
  · obtain ⟨_, _, other⟩ := Except.mapError_eq_error.mp refused
    cases other
  obtain ⟨manifestFits, sealFits, _, _⟩ :=
    FileHeader.validateBounds_eq_ok.mp (Except.mapError_eq_ok.mp bounds)
  rw [toNat_fileSize size] at manifestFits sealFits
  rcases Except.bind_eq_error.mp failed with sum | ⟨manifestEnd, sum, failed⟩
  · rw [usizeAdd_of_lt (by omega)] at sum
    cases sum
  rw [Except.mapError_eq_ok, usizeAdd_of_lt (by omega)] at sum
  cases sum
  rcases Except.bind_eq_error.mp failed with slice | ⟨_, _, failed⟩
  · rw [sliceRange_of_le (Nat.le_add_right _ _) manifestFits] at slice
    cases slice
  rcases Except.bind_eq_error.mp failed with refused | ⟨_, _, failed⟩
  · obtain ⟨_, _, other⟩ := Except.mapError_eq_error.mp refused
    cases other
  rcases Except.bind_eq_error.mp failed with sum | ⟨_, _, failed⟩
  · rw [usizeAdd_of_lt (by omega)] at sum
    cases sum
  rcases Except.bind_eq_error.mp failed with refused | ⟨_, _, failed⟩
  · cases (Except.require_eq_error.mp refused).2
  · cases failed

end Opening

/-! ### Records in place -/

theorem ofNat_toNatBE_writeU16 (value : UInt16) :
    UInt16.ofNat (Bytes.toNatBE (writeU16 value)) = value := by
  rw [writeU16, Bytes.toNatBE_ofNatBE value.toNat_lt, UInt16.ofNat_toNat]

theorem ofNat_toNatBE_writeU32 (value : UInt32) :
    UInt32.ofNat (Bytes.toNatBE (writeU32 value)) = value := by
  rw [writeU32, Bytes.toNatBE_ofNatBE value.toNat_lt, UInt32.ofNat_toNat]

theorem ofNat_toNatBE_writeU64 (value : UInt64) :
    UInt64.ofNat (Bytes.toNatBE (writeU64 value)) = value := by
  rw [writeU64, Bytes.toNatBE_ofNatBE value.toNat_lt, UInt64.ofNat_toNat]

theorem StoredRecord.octets_eq (stored : StoredRecord) :
    stored.octets = stored.record.entryKey.val ++ (writeU64 stored.record.dataOffset ++
      (writeU32 stored.record.dataLength ++ (writeU16 stored.flagsRaw ++
        writeU16 stored.record.discriminator))) := by
  simp only [StoredRecord.octets, StoredRecord.front, List.append_assoc]

theorem StoredRecord.fields (stored : StoredRecord) :
    (stored.octets.drop 0).take 32 = stored.record.entryKey.val ∧
      (stored.octets.drop 32).take 8 = writeU64 stored.record.dataOffset ∧
      (stored.octets.drop 40).take 4 = writeU32 stored.record.dataLength ∧
      (stored.octets.drop 44).take 2 = writeU16 stored.flagsRaw ∧
      (stored.octets.drop 46).take 2 = writeU16 stored.record.discriminator := by
  have key := stored.record.entryKey.property
  have offset : (writeU64 stored.record.dataOffset).length = 8 := Bytes.length_ofNatBE _ _
  have length : (writeU32 stored.record.dataLength).length = 4 := Bytes.length_ofNatBE _ _
  have flags : (writeU16 stored.flagsRaw).length = 2 := Bytes.length_ofNatBE _ _
  have last : (writeU16 stored.record.discriminator).length = 2 := Bytes.length_ofNatBE _ _
  have atKey := stored.octets_eq
  have atOffset : stored.octets.drop 32 = writeU64 stored.record.dataOffset ++
      (writeU32 stored.record.dataLength ++ (writeU16 stored.flagsRaw ++
        writeU16 stored.record.discriminator)) := by
    rw [atKey, List.drop_left' key]
  have atLength : stored.octets.drop 40 = writeU32 stored.record.dataLength ++
      (writeU16 stored.flagsRaw ++ writeU16 stored.record.discriminator) := by
    rw [← List.drop_drop (i := 8) (j := 32), atOffset, List.drop_left' offset]
  have atFlags : stored.octets.drop 44 =
      writeU16 stored.flagsRaw ++ writeU16 stored.record.discriminator := by
    rw [← List.drop_drop (i := 4) (j := 40), atLength, List.drop_left' length]
  have atLast : stored.octets.drop 46 = writeU16 stored.record.discriminator := by
    rw [← List.drop_drop (i := 2) (j := 44), atFlags, List.drop_left' flags]
  refine ⟨?_, ?_, ?_, ?_, ?_⟩
  · rw [List.drop_zero, atKey, List.take_left' key]
  · rw [atOffset, List.take_left' offset]
  · rw [atLength, List.take_left' length]
  · rw [atFlags, List.take_left' flags]
  · rw [atLast, ← last, List.take_length]

theorem drop_flatMap_octets {stored : List StoredRecord} :
    ∀ {n : Nat} {here : StoredRecord}, stored[n]? = some here →
      ∃ rest, (stored.flatMap StoredRecord.octets).drop (n * indexRecordSize) =
        here.octets ++ rest := by
  induction stored with
  | nil =>
      intro n here found
      cases found
  | cons first others ih =>
      intro n here found
      rw [List.flatMap_cons]
      cases n with
      | zero =>
          cases found
          exact ⟨_, rfl⟩
      | succ n =>
          obtain ⟨rest, behind⟩ := ih found
          refine ⟨rest, ?_⟩
          rw [Nat.succ_mul, Nat.add_comm, ← List.drop_drop, List.drop_left' first.length_octets]
          exact behind

/-- The mapping has these stored records in its index. -/
structure MmapBundle.Stores (mapped : MmapBundle) (stored : List StoredRecord) : Prop where
  size : mapped.mmap.length < 2 ^ 64
  inside : mapped.indexOffset + stored.length * indexRecordSize ≤ mapped.mmap.length
  count : mapped.indexCount = stored.length
  octets : (mapped.mmap.drop mapped.indexOffset).take (stored.length * indexRecordSize) =
    stored.flatMap StoredRecord.octets

namespace MmapBundle

variable {mapped : MmapBundle} {stored : List StoredRecord}

theorem Stores.recordSlice (stores : mapped.Stores stored) {n : Nat} {here : StoredRecord}
    (found : stored[n]? = some here) {start stop : Nat} (ordered : start ≤ stop)
    (within : stop ≤ indexRecordSize) :
    mapped.recordSlice n start stop = .ok ((here.octets.drop start).take (stop - start)) := by
  obtain ⟨below, _⟩ := List.getElem?_eq_some_iff.mp found
  have size := stores.size
  have inside := stores.inside
  have last : n * indexRecordSize + indexRecordSize ≤ stored.length * indexRecordSize := by
    rw [← Nat.succ_mul]
    exact Nat.mul_le_mul_right _ below
  unfold MmapBundle.recordSlice MmapBundle.recordBase
  rw [usizeMul_of_lt (by omega)]
  change (usizeAdd _ _ >>= _) = _
  rw [usizeAdd_of_lt (by omega)]
  change (usizeAdd _ _ >>= fun _ => usizeAdd _ _ >>= _) = _
  rw [usizeAdd_of_lt (by omega)]
  change (usizeAdd _ _ >>= _) = _
  rw [usizeAdd_of_lt (by omega)]
  change sliceRange _ _ _ = _
  rw [sliceRange_of_le (by omega) (by omega)]
  obtain ⟨rest, behind⟩ := drop_flatMap_octets found
  rw [← stores.octets, List.drop_take, List.drop_drop] at behind
  have cut : (here.octets.drop start).take (stop - start) =
      ((here.octets ++ rest).drop start).take (stop - start) := by
    have whole := here.length_octets
    rw [List.drop_append_of_le_length (by omega),
      List.take_append_of_le_length (by rw [List.length_drop]; omega)]
  rw [cut, ← behind, List.drop_take, List.take_take, List.drop_drop]
  congr 2
  omega

theorem Stores.readEntryKey (stores : mapped.Stores stored) {n : Nat} {here : StoredRecord}
    (found : stored[n]? = some here) :
    mapped.readEntryKey n = .ok here.record.entryKey.val :=
  (stores.recordSlice found (by decide) (by decide)).trans (congrArg _ here.fields.1)

theorem Stores.readDiscriminator (stores : mapped.Stores stored) {n : Nat}
    {here : StoredRecord} (found : stored[n]? = some here) :
    mapped.readDiscriminator n = .ok here.record.discriminator := by
  unfold MmapBundle.readDiscriminator
  rw [stores.recordSlice found (by decide) (by decide)]
  change Except.ok (UInt16.ofNat (Bytes.toNatBE ((here.octets.drop 46).take 2))) = _
  rw [here.fields.2.2.2.2, ofNat_toNatBE_writeU16]

theorem Stores.readRecordFields (stores : mapped.Stores stored) {n : Nat}
    {here : StoredRecord} (found : stored[n]? = some here) :
    mapped.readRecordFields n = .ok (here.record.dataOffset, here.record.dataLength,
      here.record.flags, here.record.discriminator) := by
  obtain ⟨_, offset, length, flags, last⟩ := here.fields
  unfold MmapBundle.readRecordFields
  rw [stores.recordSlice found (by decide) (by decide),
    stores.recordSlice found (by decide) (by decide),
    stores.recordSlice found (by decide) (by decide),
    stores.recordSlice found (by decide) (by decide)]
  simp only [Nat.reduceSub]
  rw [offset, length, flags, last, here.truncated]
  change Except.ok _ = _
  rw [ofNat_toNatBE_writeU64, ofNat_toNatBE_writeU32, ofNat_toNatBE_writeU16,
    ofNat_toNatBE_writeU16]

/-! ### Search in place -/

theorem Stores.searchLoop (stores : mapped.Stores stored) (reference : EntryRef) :
    ∀ {fuel low high : Nat}, high ≤ stored.length →
      mapped.searchLoop reference.entryKey reference.discriminator fuel low high =
        .ok (BinarySearch.bisect (fun record => compare record.reference reference)
          (stored.map StoredRecord.record) fuel low high) := by
  intro fuel
  induction fuel with
  | zero =>
      intro low high _
      rfl
  | succ fuel ih =>
      intro low high within
      rw [MmapBundle.searchLoop, BinarySearch.bisect]
      split_ifs with nonempty
      · have size := stores.size
        have inside := stores.inside
        have positive : stored.length ≤ stored.length * indexRecordSize :=
          Nat.le_mul_of_pos_right _ (by decide)
        obtain ⟨here, atMiddle⟩ : ∃ here, stored[low + (high - low) / 2]? = some here :=
          ⟨_, List.getElem?_eq_getElem (by omega)⟩
        rw [usizeAdd_of_lt (by omega)]
        change (mapped.readEntryKey (low + (high - low) / 2) >>= _) = _
        rw [stores.readEntryKey atMiddle]
        change (mapped.readDiscriminator (low + (high - low) / 2) >>= _) = _
        rw [stores.readDiscriminator atMiddle]
        simp only [List.getElem?_map, atMiddle, Option.map_some]
        change (match compare here.record.reference reference with
          | .eq => _
          | .lt => _
          | .gt => _) = _
        cases compare here.record.reference reference with
        | eq =>
            rfl
        | lt =>
            rw [usizeAdd_of_lt (by omega)]
            exact ih within
        | gt =>
            exact ih (by omega)
      · rfl

end MmapBundle

/-- The mapping and the parsed bundle hold the same records and the same data
section. -/
structure MmapBundle.Mirrors (mapped : MmapBundle) (bundle : Bundle)
    (stored : List StoredRecord) : Prop extends mapped.Stores stored where
  index : stored.map StoredRecord.record = bundle.index
  dataInside : mapped.dataOffset + mapped.dataLength ≤ mapped.mmap.length
  data : bundle.data = (mapped.mmap.drop mapped.dataOffset).take mapped.dataLength

namespace MmapBundle

variable {mapped : MmapBundle} {bundle : Bundle} {stored : List StoredRecord}

theorem Mirrors.binarySearchDisc (mirrors : mapped.Mirrors bundle stored)
    (ascending : Ascending bundle.index) (entryKey : Octets 32) (discriminator : UInt16) :
    mapped.binarySearchDisc entryKey discriminator =
      .ok (binarySearchWithDiscriminator bundle.index entryKey discriminator) := by
  let reference : EntryRef :=
    { entryKey := entryKey
      discriminator := discriminator }
  have count : mapped.indexCount = bundle.index.length := by
    rw [mirrors.count, ← mirrors.index, List.length_map]
  have searched : mapped.binarySearchDisc entryKey discriminator = .ok _ :=
    mirrors.searchLoop reference (Nat.le_of_eq mirrors.count)
  rw [searched, mirrors.index, count,
    BinarySearch.bisect_eq_searchBy (ascending.strictlySorted reference)]
  rfl

theorem Mirrors.entryAtMmap (mirrors : mapped.Mirrors bundle stored) {position : Nat}
    {record : IndexRecord} (found : bundle.index[position]? = some record) :
    mapped.entryAtMmap position = .ok (bundle.entryAt position) := by
  have size := mirrors.size
  have dataInside := mirrors.dataInside
  have dataSize : bundle.data.length = mapped.dataLength := by
    rw [mirrors.data, List.length_take, List.length_drop]
    omega
  rw [Bundle.entryAt, found, Option.bind_some]
  rw [← mirrors.index, List.getElem?_map, Option.map_eq_some_iff] at found
  obtain ⟨here, atPosition, rfl⟩ := found
  unfold MmapBundle.entryAtMmap Bundle.entryBytes
  rw [mirrors.readRecordFields atPosition]
  change (if here.record.isTombstone then _ else _) = _
  split_ifs with tombstone fits
  · rfl
  · obtain ⟨small, inside⟩ := fits
    rw [dataSize] at inside
    refine congrArg Except.ok ?_
    rw [checkedUsizeAdd_of_lt small]
    change (if _ then none else _) = _
    rw [if_neg (by omega), checkedUsizeAdd_of_lt (by omega)]
    change (checkedUsizeAdd _ _).bind _ = _
    rw [checkedUsizeAdd_of_lt (by omega)]
    change (if _ then some _ else none) = _
    rw [if_pos ⟨by omega, by omega⟩, mirrors.data, List.drop_take, List.drop_drop,
      List.take_take]
    congr 2
    omega
  · refine congrArg Except.ok ?_
    rw [dataSize] at fits
    by_cases small : here.record.dataOffset.toNat + here.record.dataLength.toNat < 2 ^ 64
    · rw [checkedUsizeAdd_of_lt small]
      change (if _ then none else _) = _
      rw [if_pos (by omega)]
    · rw [checkedUsizeAdd, if_neg small]
      rfl

theorem Mirrors.firstPreferred (mirrors : mapped.Mirrors bundle stored)
    (ascending : Ascending bundle.index) (entryKey : Octets 32) (preferences : List UInt16) :
    mapped.firstPreferred entryKey preferences =
      .ok (preferences.findSome? (binarySearchWithDiscriminator bundle.index entryKey)) := by
  induction preferences with
  | nil =>
      rfl
  | cons discriminator rest ih =>
      rw [MmapBundle.firstPreferred, mirrors.binarySearchDisc ascending, List.findSome?_cons]
      cases binarySearchWithDiscriminator bundle.index entryKey discriminator with
      | some position =>
          rfl
      | none =>
          exact ih

theorem Mirrors.lookup (mirrors : mapped.Mirrors bundle stored)
    (ascending : Ascending bundle.index) (entryKey : Octets 32) :
    mapped.lookup entryKey = .ok (bundle.lookup entryKey) := by
  unfold MmapBundle.lookup Bundle.lookup binarySearch algDiscDefault
  rw [mirrors.binarySearchDisc ascending]
  cases found : binarySearchWithDiscriminator bundle.index entryKey 0 with
  | none =>
      rfl
  | some position =>
      obtain ⟨record, here, _⟩ := BinarySearch.searchBy_sound found
      exact mirrors.entryAtMmap here

theorem Mirrors.lookupPreferred (mirrors : mapped.Mirrors bundle stored)
    (ascending : Ascending bundle.index) (entryKey : Octets 32) (preferences : List UInt16) :
    mapped.lookupPreferred entryKey preferences =
      .ok (bundle.lookupPreferred entryKey preferences) := by
  unfold MmapBundle.lookupPreferred Bundle.lookupPreferred binarySearchPreferred
  rw [mirrors.firstPreferred ascending]
  cases found : preferences.findSome? (binarySearchWithDiscriminator bundle.index entryKey) with
  | some position =>
      obtain ⟨discriminator, _, search⟩ := List.exists_of_findSome?_eq_some found
      obtain ⟨record, here, _⟩ := BinarySearch.searchBy_sound search
      exact mirrors.entryAtMmap here
  | none =>
      change (if 0 ∈ preferences then _ else _) = _
      unfold algDiscDefault
      split_ifs
      · rfl
      · exact mirrors.lookup ascending entryKey

end MmapBundle

/-! ### Both readers -/

section BothReaders

variable [Ciborium] {file : Bytes} {bundle : Bundle}

theorem MmapBundle.mirrors_ofBundle (size : file.length < 2 ^ 64)
    (read : bundle.ReadFrom file) :
    ∃ stored, (MmapBundle.ofBundle file bundle).Mirrors bundle stored := by
  obtain ⟨stored, records, octets⟩ := parseIndex_eq_ok (parseIndex_rawIndex read)
  obtain ⟨_, _, indexFits, dataFits⟩ := FileHeader.validateBounds_eq_ok.mp read.bounds
  rw [toNat_fileSize size] at indexFits dataFits
  have length : stored.length * indexRecordSize = bundle.header.indexLength.toNat := by
    rw [← length_rawIndex read, octets, length_flatMap_octets]
  obtain ⟨_, data⟩ := readSection_eq_ok read.data
  exact ⟨stored,
    { size := size
      inside := by rw [length]; exact indexFits
      count := by
        change bundle.header.indexLength.toNat / indexRecordSize = _
        rw [← length, Nat.mul_div_cancel _ (by decide)]
      octets := by rw [length]; exact octets
      index := records
      dataInside := dataFits
      data := data }⟩

end BothReaders

/-- The memory-mapped reader and the heap reader are equivalent.  A file opens
in one exactly if it parses in the other and opening never panics; the manifest,
its octets, the seal and the number of records agree; and over a strictly
ascending index every lookup returns the same octets, with no access of the
mapping out of range and every position the heap search returns inside the
index.  The length of a file is a `u64`. -/
theorem mmap_reader_agrees [Ciborium] {file : Bytes} (size : file.length < 2 ^ 64) :
    (∀ fault, MmapBundle.openFile file ≠ .error (.fault fault)) ∧
    ((∃ mapped, MmapBundle.openFile file = .ok mapped) ↔
      ∃ bundle, Bundle.fromBytes file = .ok bundle) ∧
    ∀ mapped bundle, MmapBundle.openFile file = .ok mapped →
      Bundle.fromBytes file = .ok bundle →
      mapped.manifest = bundle.manifest ∧
      mapped.manifestBytes = .ok bundle.manifestBytes ∧
      mapped.sealBytes = .ok bundle.sealBytes ∧
      mapped.entryCount = bundle.index.length ∧
      (Ascending bundle.index → ∀ entryKey,
        mapped.lookup entryKey = .ok (bundle.lookup entryKey) ∧
        (∀ preferences, mapped.lookupPreferred entryKey preferences =
          .ok (bundle.lookupPreferred entryKey preferences)) ∧
        ∀ discriminator position,
          binarySearchWithDiscriminator bundle.index entryKey discriminator = some position →
            position < bundle.index.length) := by
  refine ⟨MmapBundle.openFile_ne_fault, ?_, ?_⟩
  · constructor
    · rintro ⟨mapped, opened⟩
      obtain ⟨bundle, read⟩ := MmapBundle.readFrom_of_openFile opened
      exact ⟨bundle, Bundle.fromBytes_eq_ok.mpr read⟩
    · rintro ⟨bundle, parsed⟩
      exact ⟨_, MmapBundle.openFile_of_readFrom size (Bundle.fromBytes_eq_ok.mp parsed)⟩
  · intro mapped bundle opened parsed
    have read := Bundle.fromBytes_eq_ok.mp parsed
    obtain rfl : MmapBundle.ofBundle file bundle = mapped :=
      Except.ok.inj ((MmapBundle.openFile_of_readFrom size read).symm.trans opened)
    obtain ⟨stored, mirrors⟩ := MmapBundle.mirrors_ofBundle size read
    refine ⟨rfl, ?_, ?_, ?_, ?_⟩
    · have cut := sliceRange_of_readSection read.manifestBytes
      rwa [UInt32.toNat_toUInt64] at cut
    · have cut := sliceRange_of_readSection read.sealBytes
      rwa [UInt32.toNat_toUInt64] at cut
    · rw [← mirrors.index, List.length_map]
      exact mirrors.count
    · intro ascending entryKey
      refine ⟨mirrors.lookup ascending entryKey, mirrors.lookupPreferred ascending entryKey, ?_⟩
      intro discriminator position found
      obtain ⟨record, here, _⟩ := BinarySearch.searchBy_sound found
      exact (List.getElem?_eq_some_iff.mp here).1

section MappedSample

local instance mappedSha2 : Sha2 := Crates.sha2
local instance mappedCiborium : Ciborium := Crates.ciborium

/-- A file whose manifest stands at the end. -/
theorem flaggedFile_lookups :
    ∃ mapped bundle,
      MmapBundle.openFile (flaggedFile 8 (Sha2.sha256 (flaggedIndex 0))) = .ok mapped ∧
      Bundle.fromBytes (flaggedFile 8 (Sha2.sha256 (flaggedIndex 0))) = .ok bundle ∧
      mapped.lookup sampleRecord.entryKey = .ok (bundle.lookup sampleRecord.entryKey) ∧
      mapped.lookupPreferred sampleRecord.entryKey [3, 2] = .ok (some [7, 8, 9]) := by
  obtain ⟨_, _, _, _, size, viewed⟩ := flaggedFiles_computed
  obtain ⟨bundle, parsed, seen⟩ := Option.map_eq_some_iff.mp viewed
  obtain ⟨index, found⟩ := Prod.mk.inj seen
  have parsed := Except.toOption_eq_some.mp parsed
  obtain ⟨_, opens, agree⟩ := mmap_reader_agrees size
  obtain ⟨mapped, opened⟩ := opens.mpr ⟨bundle, parsed⟩
  obtain ⟨_, _, _, _, lookups⟩ := agree mapped bundle opened parsed
  have ascending : Ascending bundle.index := by
    rw [index]
    exact List.pairwise_singleton _ _
  obtain ⟨lookup, preferred, _⟩ := lookups ascending sampleRecord.entryKey
  refine ⟨mapped, bundle, opened, parsed, lookup, ?_⟩
  rw [preferred, found]

end MappedSample

end Ahu
end Hoike
