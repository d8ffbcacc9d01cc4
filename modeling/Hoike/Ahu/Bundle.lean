/-
Bundle files: header, index records, sections (`header.rs`, `index.rs`,
`bundle.rs`).

A file names its four sections by offset and length, in any order and possibly
overlapping.  `Bundle.toBytes` writes the same sections back in one canonical
layout; the results at the end say what a canonical file parses to.
-/

import Mathlib.Data.List.TakeDrop
import Hoike.Library.Fallible
import Hoike.Ahu.Manifest

namespace Hoike
namespace Ahu

/-! ### Reading from a cursor -/

abbrev Cursor := StateT Bytes (Except AhuError)

def readExact (count : Nat) : Cursor Bytes := fun rest =>
  if count ≤ rest.length then .ok (rest.take count, rest.drop count)
  else .error (.io .unexpectedEof)

def readU16 : Cursor UInt16 := do
  return UInt16.ofNat (Bytes.toNatBE (← readExact 2))

def readU32 : Cursor UInt32 := do
  return UInt32.ofNat (Bytes.toNatBE (← readExact 4))

def readU64 : Cursor UInt64 := do
  return UInt64.ofNat (Bytes.toNatBE (← readExact 8))

def writeU16 (value : UInt16) : Bytes := Bytes.ofNatBE 2 value.toNat
def writeU32 (value : UInt32) : Bytes := Bytes.ofNatBE 4 value.toNat
def writeU64 (value : UInt64) : Bytes := Bytes.ofNatBE 8 value.toNat

theorem readExact_append {bytes : Bytes} {count : Nat} (size : bytes.length = count)
    (rest : Bytes) : readExact count (bytes ++ rest) = .ok (bytes, rest) := by
  subst size
  simp [readExact]

theorem Cursor.bind_of_ok {α β : Type} {first : Cursor α} {next : α → Cursor β}
    {input rest : Bytes} {value : α} (run : first input = .ok (value, rest)) :
    (first >>= next) input = next value rest := by
  change (first input >>= fun pair => next pair.1 pair.2) = _
  rw [run]
  rfl

theorem readU16_writeU16 (value : UInt16) (rest : Bytes) :
    readU16 (writeU16 value ++ rest) = .ok (value, rest) := by
  unfold readU16 writeU16
  rw [Cursor.bind_of_ok (readExact_append (Bytes.length_ofNatBE _ _) rest),
    Bytes.toNatBE_ofNatBE value.toNat_lt, UInt16.ofNat_toNat]
  rfl

theorem readU32_writeU32 (value : UInt32) (rest : Bytes) :
    readU32 (writeU32 value ++ rest) = .ok (value, rest) := by
  unfold readU32 writeU32
  rw [Cursor.bind_of_ok (readExact_append (Bytes.length_ofNatBE _ _) rest),
    Bytes.toNatBE_ofNatBE value.toNat_lt, UInt32.ofNat_toNat]
  rfl

theorem readU64_writeU64 (value : UInt64) (rest : Bytes) :
    readU64 (writeU64 value ++ rest) = .ok (value, rest) := by
  unfold readU64 writeU64
  rw [Cursor.bind_of_ok (readExact_append (Bytes.length_ofNatBE _ _) rest),
    Bytes.toNatBE_ofNatBE value.toNat_lt, UInt64.ofNat_toNat]
  rfl

theorem readExact_eq_ok {count : Nat} {bytes found rest : Bytes}
    (read : readExact count bytes = .ok (found, rest)) :
    found.length = count ∧ bytes = found ++ rest := by
  unfold readExact at read
  split_ifs at read with enough
  cases read
  exact ⟨List.length_take_of_le enough, (List.take_append_drop count bytes).symm⟩

theorem readU16_eq_ok {bytes rest : Bytes} {value : UInt16}
    (read : readU16 bytes = .ok (value, rest)) : bytes = writeU16 value ++ rest := by
  obtain ⟨⟨found, left⟩, exact, done⟩ := Except.bind_eq_ok.mp read
  cases done
  obtain ⟨size, whole⟩ := readExact_eq_ok exact
  have below := Bytes.toNatBE_lt found
  rw [size] at below
  have value : (UInt16.ofNat (Bytes.toNatBE found)).toNat = Bytes.toNatBE found :=
    UInt16.toNat_ofNat_of_lt' below
  rw [whole, writeU16, value, ← size, Bytes.ofNatBE_toNatBE]

theorem readU32_eq_ok {bytes rest : Bytes} {value : UInt32}
    (read : readU32 bytes = .ok (value, rest)) : bytes = writeU32 value ++ rest := by
  obtain ⟨⟨found, left⟩, exact, done⟩ := Except.bind_eq_ok.mp read
  cases done
  obtain ⟨size, whole⟩ := readExact_eq_ok exact
  have below := Bytes.toNatBE_lt found
  rw [size] at below
  have value : (UInt32.ofNat (Bytes.toNatBE found)).toNat = Bytes.toNatBE found :=
    UInt32.toNat_ofNat_of_lt' below
  rw [whole, writeU32, value, ← size, Bytes.ofNatBE_toNatBE]

theorem readU64_eq_ok {bytes rest : Bytes} {value : UInt64}
    (read : readU64 bytes = .ok (value, rest)) : bytes = writeU64 value ++ rest := by
  obtain ⟨⟨found, left⟩, exact, done⟩ := Except.bind_eq_ok.mp read
  cases done
  obtain ⟨size, whole⟩ := readExact_eq_ok exact
  have below := Bytes.toNatBE_lt found
  rw [size] at below
  have value : (UInt64.ofNat (Bytes.toNatBE found)).toNat = Bytes.toNatBE found :=
    UInt64.toNat_ofNat_of_lt' below
  rw [whole, writeU64, value, ← size, Bytes.ofNatBE_toNatBE]

/-! ### File header -/

/-- "AHU1". -/
def magic : Bytes := [0x41, 0x48, 0x55, 0x31]

def headerSize : Nat := 64
def formatMajor : UInt16 := 0
def formatMinor : UInt16 := 1

structure FileHeader where
  formatMajor : UInt16
  formatMinor : UInt16
  manifestOffset : UInt64
  manifestLength : UInt32
  sealOffset : UInt64
  sealLength : UInt32
  indexOffset : UInt64
  indexLength : UInt64
  dataOffset : UInt64
  dataLength : UInt64
deriving DecidableEq, Repr

def FileHeader.readFrom : Cursor FileHeader := do
  let found ← readExact 4
  if found ≠ magic then
    throw (.badMagic found)
  let major ← readU16
  if major ≠ Ahu.formatMajor then
    let minor ← readU16
    throw (.unsupportedVersion major minor)
  let minor ← readU16
  let manifestOffset ← readU64
  let manifestLength ← readU32
  let sealOffset ← readU64
  let sealLength ← readU32
  let indexOffset ← readU64
  let indexLength ← readU64
  let dataOffset ← readU64
  let dataLength ← readU64
  return {
    formatMajor := major
    formatMinor := minor
    manifestOffset := manifestOffset
    manifestLength := manifestLength
    sealOffset := sealOffset
    sealLength := sealLength
    indexOffset := indexOffset
    indexLength := indexLength
    dataOffset := dataOffset
    dataLength := dataLength }

def FileHeader.writeTo (header : FileHeader) : Bytes :=
  magic ++ (writeU16 header.formatMajor ++ (writeU16 header.formatMinor ++
    (writeU64 header.manifestOffset ++ (writeU32 header.manifestLength ++
    (writeU64 header.sealOffset ++ (writeU32 header.sealLength ++
    (writeU64 header.indexOffset ++ (writeU64 header.indexLength ++
    (writeU64 header.dataOffset ++ writeU64 header.dataLength)))))))))

/-- One section lies inside the file; the end is computed without wrapping. -/
def checkBounds (fileSize : UInt64) (field : String) (offset length : UInt64) :
    Except AhuError Unit :=
  if offset.toNat + length.toNat ≤ fileSize.toNat then .ok ()
  else .error (.headerOutOfBounds field offset length fileSize)

def FileHeader.validateBounds (header : FileHeader) (fileSize : UInt64) :
    Except AhuError Unit := do
  checkBounds fileSize "manifest" header.manifestOffset header.manifestLength.toUInt64
  checkBounds fileSize "seal" header.sealOffset header.sealLength.toUInt64
  checkBounds fileSize "index" header.indexOffset header.indexLength
  checkBounds fileSize "data" header.dataOffset header.dataLength

theorem FileHeader.readFrom_writeTo {header : FileHeader}
    (supported : header.formatMajor = Ahu.formatMajor) (rest : Bytes) :
    FileHeader.readFrom (header.writeTo ++ rest) = .ok (header, rest) := by
  unfold FileHeader.readFrom FileHeader.writeTo
  simp only [List.append_assoc]
  rw [Cursor.bind_of_ok (readExact_append (show magic.length = 4 from rfl) _),
    if_neg (by simp)]
  rw [Cursor.bind_of_ok (readU16_writeU16 _ _), if_neg (by simp [supported])]
  rw [Cursor.bind_of_ok (readU16_writeU16 _ _), Cursor.bind_of_ok (readU64_writeU64 _ _),
    Cursor.bind_of_ok (readU32_writeU32 _ _), Cursor.bind_of_ok (readU64_writeU64 _ _),
    Cursor.bind_of_ok (readU32_writeU32 _ _), Cursor.bind_of_ok (readU64_writeU64 _ _),
    Cursor.bind_of_ok (readU64_writeU64 _ _), Cursor.bind_of_ok (readU64_writeU64 _ _),
    Cursor.bind_of_ok (readU64_writeU64 _ _)]
  rfl

theorem FileHeader.run_readFrom_writeTo {header : FileHeader}
    (supported : header.formatMajor = Ahu.formatMajor) (rest : Bytes) :
    FileHeader.readFrom.run' (header.writeTo ++ rest) = .ok header := by
  change (FileHeader.readFrom (header.writeTo ++ rest)).map Prod.fst = _
  rw [FileHeader.readFrom_writeTo supported]
  rfl

@[simp] theorem FileHeader.length_writeTo (header : FileHeader) :
    header.writeTo.length = headerSize := by
  simp [FileHeader.writeTo, writeU16, writeU32, writeU64, magic, headerSize]

/-! ### Index records -/

def indexRecordSize : Nat := 48

/-- The defined flag bits.  Reserved bits are dropped on reading. -/
structure IndexFlags where
  multi : Bool
  aliased : Bool
  tombstone : Bool
deriving DecidableEq, Repr

def IndexFlags.empty : IndexFlags :=
  { multi := false
    aliased := false
    tombstone := false }

def IndexFlags.bits (flags : IndexFlags) : UInt16 :=
  flags.multi.toUInt16 + 2 * flags.aliased.toUInt16 + 4 * flags.tombstone.toUInt16

def IndexFlags.fromBitsTruncate (raw : UInt16) : IndexFlags :=
  { multi := raw.toNat.testBit 0
    aliased := raw.toNat.testBit 1
    tombstone := raw.toNat.testBit 2 }

theorem IndexFlags.fromBitsTruncate_bits (flags : IndexFlags) :
    IndexFlags.fromBitsTruncate flags.bits = flags := by
  obtain ⟨multi, aliased, tombstone⟩ := flags
  cases multi <;> cases aliased <;> cases tombstone <;> decide

structure IndexRecord where
  entryKey : Octets 32
  dataOffset : UInt64
  dataLength : UInt32
  flags : IndexFlags
  discriminator : UInt16
deriving DecidableEq, Repr

def IndexRecord.isTombstone (record : IndexRecord) : Bool := record.flags.tombstone
def IndexRecord.isAlias (record : IndexRecord) : Bool := record.flags.aliased

/-- `read_exact` into a 32-octet buffer. -/
def readKey : Cursor (Octets 32) := fun rest =>
  if enough : 32 ≤ rest.length then
    .ok (⟨rest.take 32, List.length_take_of_le enough⟩, rest.drop 32)
  else .error (.io .unexpectedEof)

def IndexRecord.readFrom : Cursor IndexRecord := do
  let entryKey ← readKey
  let dataOffset ← readU64
  let dataLength ← readU32
  let flagsRaw ← readU16
  let discriminator ← readU16
  return {
    entryKey := entryKey
    dataOffset := dataOffset
    dataLength := dataLength
    flags := IndexFlags.fromBitsTruncate flagsRaw
    discriminator := discriminator }

def IndexRecord.writeTo (record : IndexRecord) : Bytes :=
  record.entryKey.val ++ (writeU64 record.dataOffset ++ (writeU32 record.dataLength ++
    (writeU16 record.flags.bits ++ writeU16 record.discriminator)))

theorem readKey_append (key : Octets 32) (rest : Bytes) :
    readKey (key.val ++ rest) = .ok (key, rest) := by
  obtain ⟨bytes, size⟩ := key
  have enough : 32 ≤ (bytes ++ rest).length := by
    rw [List.length_append]
    omega
  have taken : (bytes ++ rest).take 32 = bytes := by
    rw [← size]
    exact List.take_left
  have dropped : (bytes ++ rest).drop 32 = rest := by
    rw [← size]
    exact List.drop_left
  unfold readKey
  rw [dif_pos enough]
  simp only [taken, dropped]

theorem readKey_eq_ok {bytes rest : Bytes} {key : Octets 32}
    (read : readKey bytes = .ok (key, rest)) : bytes = key.val ++ rest := by
  unfold readKey at read
  split_ifs at read with enough
  cases read
  exact (List.take_append_drop 32 bytes).symm

theorem IndexRecord.readFrom_writeTo (record : IndexRecord) (rest : Bytes) :
    IndexRecord.readFrom (record.writeTo ++ rest) = .ok (record, rest) := by
  unfold IndexRecord.readFrom IndexRecord.writeTo
  simp only [List.append_assoc]
  rw [Cursor.bind_of_ok (readKey_append _ _), Cursor.bind_of_ok (readU64_writeU64 _ _),
    Cursor.bind_of_ok (readU32_writeU32 _ _), Cursor.bind_of_ok (readU16_writeU16 _ _),
    Cursor.bind_of_ok (readU16_writeU16 _ _), IndexFlags.fromBitsTruncate_bits]
  rfl

@[simp] theorem IndexRecord.length_writeTo (record : IndexRecord) :
    record.writeTo.length = indexRecordSize := by
  simp [IndexRecord.writeTo, writeU16, writeU32, writeU64, record.entryKey.property,
    indexRecordSize]

def writeIndex (index : List IndexRecord) : Bytes :=
  index.flatMap IndexRecord.writeTo

theorem length_writeIndex (index : List IndexRecord) :
    (writeIndex index).length = index.length * indexRecordSize := by
  induction index with
  | nil =>
      rfl
  | cons record rest ih =>
      simp only [writeIndex, List.flatMap_cons, List.length_append,
        IndexRecord.length_writeTo, List.length_cons] at ih ⊢
      rw [ih, Nat.succ_mul, Nat.add_comm]

/-! ### Bundles -/

structure Bundle where
  header : FileHeader
  manifest : Manifest
  manifestBytes : Bytes
  sealBytes : Bytes
  index : List IndexRecord
  data : Bytes

/-- Both bounds are computed in `usize`, which is 64 bits wide here. -/
def readSection (bytes : Bytes) (offset length : UInt64) : Except AhuError Bytes :=
  if offset.toNat + length.toNat < 2 ^ 64 ∧ offset.toNat + length.toNat ≤ bytes.length then
    .ok ((bytes.drop offset.toNat).take length.toNat)
  else
    .error (.headerOutOfBounds "section" offset length (UInt64.ofNat bytes.length))

def readRecords : (count : Nat) → Cursor (List IndexRecord)
  | 0 => return []
  | count + 1 => do
      let record ← IndexRecord.readFrom
      let records ← readRecords count
      return record :: records

def parseIndex (indexBytes : Bytes) : Except AhuError (List IndexRecord) :=
  if indexBytes.length % indexRecordSize = 0 then
    (readRecords (indexBytes.length / indexRecordSize)).run' indexBytes
  else
    .error (.indexSizeMismatch (UInt64.ofNat indexBytes.length) indexRecordSize)

def Bundle.fromBytes [Ciborium] (bytes : Bytes) : Except AhuError Bundle := do
  let header ← FileHeader.readFrom.run' bytes
  header.validateBounds (UInt64.ofNat bytes.length)
  let manifestBytes ←
    readSection bytes header.manifestOffset header.manifestLength.toUInt64
  let manifest ← Manifest.fromCbor manifestBytes
  let sealBytes ← readSection bytes header.sealOffset header.sealLength.toUInt64
  let indexBytes ← readSection bytes header.indexOffset header.indexLength
  let index ← parseIndex indexBytes
  let data ← readSection bytes header.dataOffset header.dataLength
  return {
    header := header
    manifest := manifest
    manifestBytes := manifestBytes
    sealBytes := sealBytes
    index := index
    data := data }

/-- How the parts of a parsed bundle were read. -/
structure Bundle.ReadFrom [Ciborium] (bundle : Bundle) (bytes : Bytes) : Prop where
  header : FileHeader.readFrom.run' bytes = .ok bundle.header
  bounds : bundle.header.validateBounds (UInt64.ofNat bytes.length) = .ok ()
  manifestBytes : readSection bytes bundle.header.manifestOffset
    bundle.header.manifestLength.toUInt64 = .ok bundle.manifestBytes
  manifest : Manifest.fromCbor bundle.manifestBytes = .ok bundle.manifest
  sealBytes : readSection bytes bundle.header.sealOffset bundle.header.sealLength.toUInt64 =
    .ok bundle.sealBytes
  index : ∃ indexBytes, readSection bytes bundle.header.indexOffset bundle.header.indexLength =
    .ok indexBytes ∧ parseIndex indexBytes = .ok bundle.index
  data : readSection bytes bundle.header.dataOffset bundle.header.dataLength = .ok bundle.data

theorem Bundle.fromBytes_eq_ok [Ciborium] {bytes : Bytes} {bundle : Bundle} :
    Bundle.fromBytes bytes = .ok bundle ↔ bundle.ReadFrom bytes := by
  unfold Bundle.fromBytes
  constructor
  · intro parsed
    obtain ⟨header, headerRead, parsed⟩ := Except.bind_eq_ok.mp parsed
    obtain ⟨_, bounds, parsed⟩ := Except.bind_eq_ok.mp parsed
    obtain ⟨manifestBytes, manifestSection, parsed⟩ := Except.bind_eq_ok.mp parsed
    obtain ⟨manifest, decoded, parsed⟩ := Except.bind_eq_ok.mp parsed
    obtain ⟨sealBytes, sealSection, parsed⟩ := Except.bind_eq_ok.mp parsed
    obtain ⟨indexBytes, indexSection, parsed⟩ := Except.bind_eq_ok.mp parsed
    obtain ⟨index, indexed, parsed⟩ := Except.bind_eq_ok.mp parsed
    obtain ⟨data, dataSection, parsed⟩ := Except.bind_eq_ok.mp parsed
    cases parsed
    exact
      { header := headerRead
        bounds := bounds
        manifestBytes := manifestSection
        manifest := decoded
        sealBytes := sealSection
        index := ⟨indexBytes, indexSection, indexed⟩
        data := dataSection }
  · intro read
    obtain ⟨indexBytes, indexSection, indexed⟩ := read.index
    refine Except.bind_eq_ok.mpr ⟨bundle.header, read.header, ?_⟩
    refine Except.bind_eq_ok.mpr ⟨(), read.bounds, ?_⟩
    refine Except.bind_eq_ok.mpr ⟨bundle.manifestBytes, read.manifestBytes, ?_⟩
    refine Except.bind_eq_ok.mpr ⟨bundle.manifest, read.manifest, ?_⟩
    refine Except.bind_eq_ok.mpr ⟨bundle.sealBytes, read.sealBytes, ?_⟩
    refine Except.bind_eq_ok.mpr ⟨indexBytes, indexSection, ?_⟩
    refine Except.bind_eq_ok.mpr ⟨bundle.index, indexed, ?_⟩
    exact Except.bind_eq_ok.mpr ⟨bundle.data, read.data, rfl⟩

/-- `u32::try_from` with the caller's message. -/
def toU32 (length : Nat) (message : String) : Except AhuError UInt32 :=
  if length < 2 ^ 32 then .ok (UInt32.ofNat length)
  else .error (.invalidOperation message)

/-- `checked_add` with the caller's message. -/
def checkedAdd (left right : UInt64) (message : String) : Except AhuError UInt64 :=
  if left.toNat + right.toNat < 2 ^ 64 then .ok (left + right)
  else .error (.invalidOperation message)

def maxVecLength : Nat := 2 ^ 63

def assemble (header : FileHeader) (manifestBytes sealBytes indexBytes data : Bytes) :
    Except AhuError Bytes :=
  let out := header.writeTo ++ (manifestBytes ++ (sealBytes ++ (indexBytes ++ data)))
  if out.length < maxVecLength then .ok out else .error .capacityOverflow

def Bundle.toBytes (bundle : Bundle) : Except AhuError Bytes := do
  let indexBytes := writeIndex bundle.index
  let manifestOffset : UInt64 := UInt64.ofNat headerSize
  let manifestLength ← toU32 bundle.manifestBytes.length "manifest too large"
  let sealOffset := manifestOffset + manifestLength.toUInt64
  let sealLength ← toU32 bundle.sealBytes.length "seal too large"
  let indexOffset := sealOffset + sealLength.toUInt64
  let indexLength := UInt64.ofNat indexBytes.length
  let dataOffset ← checkedAdd indexOffset indexLength "bundle too large"
  let header : FileHeader := {
    formatMajor := bundle.header.formatMajor
    formatMinor := bundle.header.formatMinor
    manifestOffset := manifestOffset
    manifestLength := manifestLength
    sealOffset := sealOffset
    sealLength := sealLength
    indexOffset := indexOffset
    indexLength := indexLength
    dataOffset := dataOffset
    dataLength := UInt64.ofNat bundle.data.length }
  assemble header bundle.manifestBytes bundle.sealBytes indexBytes bundle.data

def Bundle.entryBytes (bundle : Bundle) (record : IndexRecord) : Option Bytes :=
  if record.isTombstone then none
  else if record.dataOffset.toNat + record.dataLength.toNat < 2 ^ 64 ∧
      record.dataOffset.toNat + record.dataLength.toNat ≤ bundle.data.length then
    some ((bundle.data.drop record.dataOffset.toNat).take record.dataLength.toNat)
  else none

/-! ### Canonical files -/

theorem readSection_append (front section' back : Bytes) {offset length : UInt64}
    (starts : offset.toNat = front.length) (spans : length.toNat = section'.length)
    (fits : front.length + section'.length < 2 ^ 64) :
    readSection (front ++ (section' ++ back)) offset length = .ok section' := by
  unfold readSection
  rw [starts, spans, if_pos ⟨fits, by simp only [List.length_append]; omega⟩,
    List.drop_left, List.take_left]

theorem readRecords_writeIndex (index : List IndexRecord) (rest : Bytes) :
    readRecords index.length (writeIndex index ++ rest) = .ok (index, rest) := by
  induction index with
  | nil =>
      rfl
  | cons record records ih =>
      change (IndexRecord.readFrom >>= fun record => readRecords records.length >>=
        fun records => pure (record :: records))
          (record.writeTo ++ writeIndex records ++ rest) = _
      rw [List.append_assoc, Cursor.bind_of_ok (IndexRecord.readFrom_writeTo _ _),
        Cursor.bind_of_ok ih]
      rfl

theorem parseIndex_writeIndex (index : List IndexRecord) :
    parseIndex (writeIndex index) = .ok index := by
  have positive : 0 < indexRecordSize := by decide
  have run := readRecords_writeIndex index []
  rw [List.append_nil] at run
  unfold parseIndex
  rw [length_writeIndex, Nat.mul_mod_left, if_pos rfl, Nat.mul_div_cancel _ positive]
  change (readRecords index.length (writeIndex index)).map Prod.fst = _
  rw [run]
  rfl

/-- The header describes these sections, one behind the other. -/
structure Layout (header : FileHeader) (manifestBytes sealBytes indexBytes data : Bytes) :
    Prop where
  supported : header.formatMajor = Ahu.formatMajor
  manifestOffset : header.manifestOffset.toNat = headerSize
  manifestLength : header.manifestLength.toNat = manifestBytes.length
  sealOffset : header.sealOffset.toNat = headerSize + manifestBytes.length
  sealLength : header.sealLength.toNat = sealBytes.length
  indexOffset : header.indexOffset.toNat =
    headerSize + manifestBytes.length + sealBytes.length
  indexLength : header.indexLength.toNat = indexBytes.length
  dataOffset : header.dataOffset.toNat =
    headerSize + manifestBytes.length + sealBytes.length + indexBytes.length
  dataLength : header.dataLength.toNat = data.length

theorem assemble_eq_ok {header : FileHeader}
    {manifestBytes sealBytes indexBytes data out : Bytes} :
    assemble header manifestBytes sealBytes indexBytes data = .ok out ↔
      out = header.writeTo ++ (manifestBytes ++ (sealBytes ++ (indexBytes ++ data))) ∧
        headerSize + manifestBytes.length + sealBytes.length + indexBytes.length +
          data.length < maxVecLength := by
  have size : (header.writeTo ++ (manifestBytes ++ (sealBytes ++
      (indexBytes ++ data)))).length = headerSize + manifestBytes.length +
        sealBytes.length + indexBytes.length + data.length := by
    simp only [List.length_append, FileHeader.length_writeTo]
    omega
  unfold assemble
  simp only [size]
  by_cases fits : headerSize + manifestBytes.length + sealBytes.length +
      indexBytes.length + data.length < maxVecLength
  · rw [if_pos fits]
    constructor
    · intro written
      exact ⟨(Except.ok.inj written).symm, fits⟩
    · rintro ⟨written, _⟩
      rw [written]
  · rw [if_neg fits]
    constructor
    · intro written
      cases written
    · rintro ⟨_, fits'⟩
      exact absurd fits' fits

/-- A file that starts in canonical layout parses back into its sections,
whenever the manifest and index sections decode.  What follows the data section
is not looked at. -/
theorem fromBytes_layout [Ciborium] {header : FileHeader}
    {manifestBytes sealBytes indexBytes data : Bytes} (rest : Bytes) {manifest : Manifest}
    {index : List IndexRecord}
    (layout : Layout header manifestBytes sealBytes indexBytes data)
    (decoded : Manifest.fromCbor manifestBytes = .ok manifest)
    (indexed : parseIndex indexBytes = .ok index)
    (fits : headerSize + manifestBytes.length + sealBytes.length + indexBytes.length +
      data.length + rest.length < maxVecLength) :
    Bundle.fromBytes (header.writeTo ++ (manifestBytes ++ (sealBytes ++ (indexBytes ++
        (data ++ rest))))) = .ok {
      header := header
      manifest := manifest
      manifestBytes := manifestBytes
      sealBytes := sealBytes
      index := index
      data := data } := by
  have headerLength := header.length_writeTo
  have capacity : maxVecLength = 2 ^ 63 := rfl
  have fileSize : (UInt64.ofNat (header.writeTo ++ (manifestBytes ++ (sealBytes ++
      (indexBytes ++ (data ++ rest))))).length).toNat = headerSize + manifestBytes.length +
        sealBytes.length + indexBytes.length + data.length + rest.length := by
    rw [UInt64.toNat_ofNat_of_lt']
    · simp only [List.length_append, headerLength]
      omega
    · simp only [List.length_append, headerLength, UInt64.size]
      omega
  have bounds : header.validateBounds (UInt64.ofNat (header.writeTo ++ (manifestBytes ++
      (sealBytes ++ (indexBytes ++ (data ++ rest))))).length) = .ok () := by
    unfold FileHeader.validateBounds checkBounds
    rw [fileSize, layout.manifestOffset, layout.sealOffset, layout.indexOffset,
      layout.dataOffset, UInt32.toNat_toUInt64, UInt32.toNat_toUInt64, layout.manifestLength,
      layout.sealLength, layout.indexLength, layout.dataLength, if_pos (by omega),
      if_pos (by omega), if_pos (by omega), if_pos (by omega)]
    rfl
  -- Each section is cut out behind everything that precedes it.
  have manifestSection := readSection_append header.writeTo manifestBytes
    (sealBytes ++ (indexBytes ++ (data ++ rest)))
    (by rw [layout.manifestOffset, headerLength])
    (by rw [UInt32.toNat_toUInt64, layout.manifestLength]) (by omega)
  have sealSection := readSection_append (header.writeTo ++ manifestBytes) sealBytes
    (indexBytes ++ (data ++ rest))
    (by rw [layout.sealOffset, List.length_append, headerLength])
    (by rw [UInt32.toNat_toUInt64, layout.sealLength])
    (by rw [List.length_append]; omega)
  have indexSection := readSection_append (header.writeTo ++ manifestBytes ++ sealBytes)
    indexBytes (data ++ rest)
    (by rw [layout.indexOffset, List.length_append, List.length_append, headerLength])
    layout.indexLength (by rw [List.length_append, List.length_append]; omega)
  have dataSection := readSection_append
    (header.writeTo ++ manifestBytes ++ sealBytes ++ indexBytes) data rest
    (by rw [layout.dataOffset, List.length_append, List.length_append, List.length_append,
      headerLength])
    layout.dataLength
    (by rw [List.length_append, List.length_append, List.length_append]; omega)
  simp only [List.append_assoc] at sealSection indexSection dataSection
  exact Bundle.fromBytes_eq_ok.mpr
    { header := FileHeader.run_readFrom_writeTo layout.supported _
      bounds := bounds
      manifestBytes := manifestSection
      manifest := decoded
      sealBytes := sealSection
      index := ⟨indexBytes, indexSection, indexed⟩
      data := dataSection }

theorem fromBytes_assemble [Ciborium] {header : FileHeader}
    {manifestBytes sealBytes indexBytes data out : Bytes} {manifest : Manifest}
    {index : List IndexRecord}
    (layout : Layout header manifestBytes sealBytes indexBytes data)
    (decoded : Manifest.fromCbor manifestBytes = .ok manifest)
    (indexed : parseIndex indexBytes = .ok index)
    (written : assemble header manifestBytes sealBytes indexBytes data = .ok out) :
    Bundle.fromBytes out = .ok {
      header := header
      manifest := manifest
      manifestBytes := manifestBytes
      sealBytes := sealBytes
      index := index
      data := data } := by
  obtain ⟨rfl, fits⟩ := assemble_eq_ok.mp written
  have whole := fromBytes_layout [] layout decoded indexed fits
  rw [List.append_nil] at whole
  exact whole

/-- What parsing establishes about a bundle besides its sections. -/
structure Bundle.Decoded [Ciborium] (bundle : Bundle) : Prop where
  supported : bundle.header.formatMajor = Ahu.formatMajor
  manifest : Manifest.fromCbor bundle.manifestBytes = .ok bundle.manifest

theorem FileHeader.readFrom_eq_ok {bytes rest : Bytes} {header : FileHeader}
    (read : FileHeader.readFrom bytes = .ok (header, rest)) :
    header.formatMajor = Ahu.formatMajor ∧ bytes = header.writeTo ++ rest := by
  unfold FileHeader.readFrom at read
  obtain ⟨⟨found, rest₀⟩, first, read⟩ := Except.bind_eq_ok.mp read
  by_cases good : found = magic
  · simp only [ne_eq, good, not_true_eq_false, if_false] at read
    obtain ⟨⟨major, rest₁⟩, version, read⟩ := Except.bind_eq_ok.mp read
    by_cases known : major = Ahu.formatMajor
    · simp only [known, not_true_eq_false, if_false] at read
      obtain ⟨⟨minor, rest₂⟩, minorRead, read⟩ := Except.bind_eq_ok.mp read
      obtain ⟨⟨manifestOffset, rest₃⟩, manifestStart, read⟩ := Except.bind_eq_ok.mp read
      obtain ⟨⟨manifestLength, rest₄⟩, manifestSize, read⟩ := Except.bind_eq_ok.mp read
      obtain ⟨⟨sealOffset, rest₅⟩, sealStart, read⟩ := Except.bind_eq_ok.mp read
      obtain ⟨⟨sealLength, rest₆⟩, sealSize, read⟩ := Except.bind_eq_ok.mp read
      obtain ⟨⟨indexOffset, rest₇⟩, indexStart, read⟩ := Except.bind_eq_ok.mp read
      obtain ⟨⟨indexLength, rest₈⟩, indexSize, read⟩ := Except.bind_eq_ok.mp read
      obtain ⟨⟨dataOffset, rest₉⟩, dataStart, read⟩ := Except.bind_eq_ok.mp read
      obtain ⟨⟨dataLength, rest₁₀⟩, dataSize, read⟩ := Except.bind_eq_ok.mp read
      cases read
      refine ⟨rfl, ?_⟩
      rw [(readExact_eq_ok first).2, good, readU16_eq_ok version, known, readU16_eq_ok minorRead,
        readU64_eq_ok manifestStart, readU32_eq_ok manifestSize, readU64_eq_ok sealStart,
        readU32_eq_ok sealSize, readU64_eq_ok indexStart, readU64_eq_ok indexSize,
        readU64_eq_ok dataStart, readU64_eq_ok dataSize]
      simp only [FileHeader.writeTo, List.append_assoc]
    · simp only [known, not_false_eq_true, if_true] at read
      obtain ⟨_, _, read⟩ := Except.bind_eq_ok.mp read
      cases read
  · simp only [ne_eq, good, not_false_eq_true, if_true] at read
    cases read

theorem FileHeader.run_readFrom_eq_ok {bytes : Bytes} {header : FileHeader} :
    FileHeader.readFrom.run' bytes = .ok header ↔
      header.formatMajor = Ahu.formatMajor ∧ ∃ rest, bytes = header.writeTo ++ rest := by
  constructor
  · intro run
    obtain ⟨⟨found, rest⟩, read, same⟩ := Except.map_eq_ok.mp run
    cases same
    obtain ⟨supported, whole⟩ := FileHeader.readFrom_eq_ok read
    exact ⟨supported, rest, whole⟩
  · rintro ⟨supported, rest, rfl⟩
    exact FileHeader.run_readFrom_writeTo supported rest

theorem Bundle.decoded_of_fromBytes [Ciborium] {bytes : Bytes} {bundle : Bundle}
    (parsed : Bundle.fromBytes bytes = .ok bundle) : bundle.Decoded := by
  have read := Bundle.fromBytes_eq_ok.mp parsed
  exact ⟨(FileHeader.run_readFrom_eq_ok.mp read.header).1, read.manifest⟩

theorem Bundle.toBytes_eq_ok {bundle : Bundle} {out : Bytes}
    (supported : bundle.header.formatMajor = Ahu.formatMajor)
    (written : bundle.toBytes = .ok out) :
    ∃ header, Layout header bundle.manifestBytes bundle.sealBytes
        (writeIndex bundle.index) bundle.data ∧
      header.formatMinor = bundle.header.formatMinor ∧
      assemble header bundle.manifestBytes bundle.sealBytes (writeIndex bundle.index)
        bundle.data = .ok out := by
  unfold Bundle.toBytes toU32 checkedAdd at written
  obtain ⟨manifestLength, small, written⟩ := Except.bind_eq_ok.mp written
  obtain ⟨sealLength, small', written⟩ := Except.bind_eq_ok.mp written
  obtain ⟨dataOffset, noOverflow, written⟩ := Except.bind_eq_ok.mp written
  split_ifs at small small' noOverflow with fits fits'
  · cases small
    cases small'
    cases noOverflow
    obtain ⟨_, capacity⟩ := assemble_eq_ok.mp written
    have sizes : headerSize = 64 ∧ maxVecLength = 2 ^ 63 := ⟨rfl, rfl⟩
    have manifestSize : (UInt32.ofNat bundle.manifestBytes.length).toNat =
        bundle.manifestBytes.length := UInt32.toNat_ofNat_of_lt' fits
    have sealSize : (UInt32.ofNat bundle.sealBytes.length).toNat =
        bundle.sealBytes.length := UInt32.toNat_ofNat_of_lt' fits'
    have indexSize : (UInt64.ofNat (writeIndex bundle.index).length).toNat =
        (writeIndex bundle.index).length :=
      UInt64.toNat_ofNat_of_lt' (by simp only [UInt64.size]; omega)
    have dataSize : (UInt64.ofNat bundle.data.length).toNat = bundle.data.length :=
      UInt64.toNat_ofNat_of_lt' (by simp only [UInt64.size]; omega)
    have headerSize' : (UInt64.ofNat headerSize).toNat = headerSize := by decide
    refine ⟨_, ?layout, ?minor, written⟩
    case minor =>
      rfl
    constructor
    · exact supported
    · exact headerSize'
    · exact manifestSize
    · simp only [UInt64.toNat_add, headerSize', UInt32.toNat_toUInt64, manifestSize]
      omega
    · exact sealSize
    · simp only [UInt64.toNat_add, headerSize', UInt32.toNat_toUInt64, manifestSize, sealSize]
      omega
    · exact indexSize
    · simp only [UInt64.toNat_add, headerSize', UInt32.toNat_toUInt64, manifestSize, sealSize,
        indexSize]
      omega
    · exact dataSize

/-- The canonical form of a parsed bundle parses to the same bundle under a
canonical header. -/
theorem Bundle.fromBytes_toBytes [Ciborium] {bundle : Bundle} {out : Bytes}
    (decoded : bundle.Decoded) (written : bundle.toBytes = .ok out) :
    ∃ header, header.formatMajor = bundle.header.formatMajor ∧
      header.formatMinor = bundle.header.formatMinor ∧
      Bundle.fromBytes out = .ok { bundle with header := header } := by
  obtain ⟨header, layout, minor, assembled⟩ :=
    Bundle.toBytes_eq_ok decoded.supported written
  refine ⟨header, layout.supported.trans decoded.supported.symm, minor, ?_⟩
  exact fromBytes_assemble layout decoded.manifest (parseIndex_writeIndex bundle.index)
    assembled

theorem Bundle.toBytes_with_header (bundle : Bundle) {header : FileHeader}
    (major : header.formatMajor = bundle.header.formatMajor)
    (minor : header.formatMinor = bundle.header.formatMinor) :
    { bundle with header := header }.toBytes = bundle.toBytes := by
  unfold Bundle.toBytes
  simp only [major, minor]

end Ahu
end Hoike
