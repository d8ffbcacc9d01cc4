/-
The bundle manifest and its CBOR form (`manifest.rs`).

`Sha2` and `Ciborium` stand for the hash and CBOR crates.  The manifest code
builds and reads CBOR values itself; only the step between values and octets
belongs to the crate.
-/

import Hoike.Library.Cbor
import Hoike.Ahu.Error

namespace Hoike

/-- The `sha2` crate. -/
class Sha2 where
  sha256 : Bytes → Octets 32

/-- The `ciborium` crate: one definite encoding, and a decoder that reports
its error as text. -/
class Ciborium where
  intoWriter : Cbor.Value → Bytes
  fromReader : Bytes → Except String Cbor.Value

namespace Ahu

inductive BundleType where
  | full
  | delta
deriving DecidableEq, Repr

inductive Completeness where
  | partialScope
  | authoritativeComplete
deriving DecidableEq, Repr

inductive ResponderIdType where
  | byName
  | byKey
deriving DecidableEq, Repr

structure ResponderId where
  idType : ResponderIdType
  value : Bytes
deriving DecidableEq, Repr

structure CaScope where
  hashAlgorithm : Bytes
  issuerNameHash : Bytes
  issuerKeyHash : Bytes
  epoch : UInt64
  responderId : ResponderId
  responderChain : Option (List Bytes)
  signatureAlgorithm : Bytes
  completeness : Completeness
deriving DecidableEq, Repr

structure Window where
  producedAt : UInt64
  thisUpdateMin : UInt64
  nextUpdateMin : UInt64
  nextUpdateMax : UInt64
deriving DecidableEq, Repr

structure Integrity where
  indexDigest : Octets 32
  dataDigest : Octets 32
deriving DecidableEq, Repr

structure Continuity where
  prevManifestDigest : Option (Octets 32)
  baseManifestDigest : Option (Octets 32)
  chainLength : UInt64
deriving DecidableEq, Repr

structure Shard where
  shardIndex : UInt64
  shardCount : UInt64
  shardFn : UInt64
deriving DecidableEq, Repr

inductive CompressionAlgorithm where
  | none
  | zstd
deriving DecidableEq, Repr

structure Compression where
  algorithm : CompressionAlgorithm
  dictionaryDigest : Option (Octets 32)
deriving DecidableEq, Repr

structure Manifest where
  formatVersion : UInt64
  bundleId : Octets 16
  producerId : String
  createdAt : UInt64
  bundleType : BundleType
  caScopes : List CaScope
  window : Window
  integrity : Integrity
  entryCount : UInt64
  continuity : Continuity
  shard : Option Shard
  compression : Option Compression
  extensions : Option (List (String × Cbor.Value))

/-! ### Encoding -/

open Cbor (Value)

abbrev ValueMap := List (Value × Value)

def uint (value : UInt64) : Value :=
  .integer value.toNat

def entry (key : Int) (value : Value) : Value × Value :=
  (.integer key, value)

def optionalEntry (key : Int) (value : Option Value) : ValueMap :=
  value.toList.map (entry key)

def BundleType.toValue : BundleType → Value
  | full => .integer 0
  | delta => .integer 1

def Completeness.toValue : Completeness → Value
  | partialScope => .integer 0
  | authoritativeComplete => .integer 1

def ResponderIdType.toValue : ResponderIdType → Value
  | byName => .integer 0
  | byKey => .integer 1

def CompressionAlgorithm.toValue : CompressionAlgorithm → Value
  | none => .integer 0
  | zstd => .integer 1

def ResponderId.toMap (responderId : ResponderId) : ValueMap :=
  [entry 1 responderId.idType.toValue, entry 2 (.bytes responderId.value)]

def CaScope.toMap (scope : CaScope) : ValueMap :=
  [entry 1 (.bytes scope.hashAlgorithm),
    entry 2 (.bytes scope.issuerNameHash),
    entry 3 (.bytes scope.issuerKeyHash),
    entry 4 (uint scope.epoch),
    entry 5 (.map scope.responderId.toMap)] ++
  optionalEntry 6 (scope.responderChain.map fun chain => .array (chain.map .bytes)) ++
  [entry 7 (.bytes scope.signatureAlgorithm),
    entry 8 scope.completeness.toValue]

def Window.toMap (window : Window) : ValueMap :=
  [entry 1 (uint window.producedAt),
    entry 2 (uint window.thisUpdateMin),
    entry 3 (uint window.nextUpdateMin),
    entry 4 (uint window.nextUpdateMax)]

def Integrity.toMap (integrity : Integrity) : ValueMap :=
  [entry 1 (.bytes integrity.indexDigest.val), entry 2 (.bytes integrity.dataDigest.val)]

def Continuity.toMap (continuity : Continuity) : ValueMap :=
  optionalEntry 1 (continuity.prevManifestDigest.map fun digest => .bytes digest.val) ++
  optionalEntry 2 (continuity.baseManifestDigest.map fun digest => .bytes digest.val) ++
  [entry 3 (uint continuity.chainLength)]

def Shard.toMap (shard : Shard) : ValueMap :=
  [entry 1 (uint shard.shardIndex),
    entry 2 (uint shard.shardCount),
    entry 3 (uint shard.shardFn)]

def Compression.toMap (compression : Compression) : ValueMap :=
  entry 1 compression.algorithm.toValue ::
    optionalEntry 2 (compression.dictionaryDigest.map fun digest => .bytes digest.val)

def extensionsToMap (extensions : List (String × Value)) : ValueMap :=
  extensions.map fun extension => (.text extension.1, extension.2)

def Manifest.toMap (manifest : Manifest) : ValueMap :=
  [entry 1 (uint manifest.formatVersion),
    entry 2 (.bytes manifest.bundleId.val),
    entry 3 (.text manifest.producerId),
    entry 4 (uint manifest.createdAt),
    entry 5 manifest.bundleType.toValue,
    entry 6 (.array (manifest.caScopes.map fun scope => .map scope.toMap)),
    entry 7 (.map manifest.window.toMap),
    entry 8 (.map manifest.integrity.toMap),
    entry 9 (uint manifest.entryCount),
    entry 10 (.map manifest.continuity.toMap)] ++
  optionalEntry 11 (manifest.shard.map fun shard => .map shard.toMap) ++
  optionalEntry 12 (manifest.compression.map fun compression => .map compression.toMap) ++
  optionalEntry 13 (manifest.extensions.map fun extensions => .map (extensionsToMap extensions))

def Manifest.toCbor [Ciborium] (manifest : Manifest) : Bytes :=
  Ciborium.intoWriter (.map manifest.toMap)

/-! ### Decoding -/

/-- The value of the first entry whose key is the given integer.  Keys of
other types are passed over. -/
def find (map : ValueMap) (key : Int) : Option Value :=
  (map.find? fun pair => pair.1.asInteger == some key).map Prod.snd

/-- The shared body of the required-field readers: a missing entry and an
entry of the wrong type are different errors. -/
def getWith {α : Type} (expected : String) (project : Value → Option α)
    (map : ValueMap) (key : Int) : Except AhuError α :=
  match find map key with
  | none => .error (.manifestField s!"key {key}: missing")
  | some value =>
      match project value with
      | none => .error (.manifestField s!"key {key}: expected {expected}")
      | some content => .ok content

def getUint (map : ValueMap) (key : Int) : Except AhuError UInt64 := do
  let value ← getWith "integer" Value.asInteger map key
  if 0 ≤ value ∧ value.toNat < 2 ^ 64 then
    return UInt64.ofNat value.toNat
  else
    throw (.manifestField s!"key {key}: integer out of u64 range")

def getBytes : ValueMap → Int → Except AhuError Bytes :=
  getWith "bytes" Value.asBytes

def getText : ValueMap → Int → Except AhuError String :=
  getWith "text" Value.asText

def getMap : ValueMap → Int → Except AhuError ValueMap :=
  getWith "map" Value.asMap

def getArray : ValueMap → Int → Except AhuError (List Value) :=
  getWith "array" Value.asArray

def getOptionalBytes (map : ValueMap) (key : Int) : Except AhuError (Option Bytes) :=
  match find map key with
  | none => .ok none
  | some value =>
      match value.asBytes with
      | none => .error (.manifestField s!"key {key}: expected bytes")
      | some content => .ok (some content)

/-- Unlike the other readers this one treats an entry of the wrong type like
an absent one. -/
def getOptionalMap (map : ValueMap) (key : Int) : Option ValueMap :=
  (find map key).bind Value.asMap

def toFixed32 (bytes : Bytes) : Except AhuError (Octets 32) :=
  if size : bytes.length = 32 then .ok ⟨bytes, size⟩
  else .error (.manifestField "expected 32-byte digest")

def getOptionalDigest (map : ValueMap) (key : Int) :
    Except AhuError (Option (Octets 32)) := do
  match ← getOptionalBytes map key with
  | none => return none
  | some bytes => return some (← toFixed32 bytes)

/-- `Uuid::from_slice`. -/
def uuidFromSlice (bytes : Bytes) : Except AhuError (Octets 16) :=
  if size : bytes.length = 16 then .ok ⟨bytes, size⟩
  else .error (.manifestField
    s!"bundle_id: invalid length: expected 16 bytes, found {bytes.length}")

def BundleType.ofUint (raw : UInt64) : Except AhuError BundleType :=
  if raw = 0 then .ok full
  else if raw = 1 then .ok delta
  else .error (.manifestField s!"unknown bundle_type: {raw}")

def Completeness.ofUint (raw : UInt64) : Except AhuError Completeness :=
  if raw = 0 then .ok partialScope
  else if raw = 1 then .ok authoritativeComplete
  else .error (.manifestField s!"unknown completeness: {raw}")

def ResponderIdType.ofUint (raw : UInt64) : Except AhuError ResponderIdType :=
  if raw = 0 then .ok byName
  else if raw = 1 then .ok byKey
  else .error (.manifestField s!"unknown responder_id type: {raw}")

def CompressionAlgorithm.ofUint (raw : UInt64) : Except AhuError CompressionAlgorithm :=
  if raw = 0 then .ok none
  else if raw = 1 then .ok zstd
  else .error (.manifestField s!"unknown compression algorithm: {raw}")

def ResponderId.ofMap (map : ValueMap) : Except AhuError ResponderId := do
  let idType ← ResponderIdType.ofUint (← getUint map 1)
  let value ← getBytes map 2
  return {
      idType := idType
      value := value }

def chainEntry (certificate : Value) : Except AhuError Bytes :=
  match certificate.asBytes with
  | none => .error (.manifestField "responder chain entry is not bytes")
  | some bytes => .ok bytes

/-- Every entry under key 6 is looked at and the last array wins; other types
are passed over. -/
def responderChainOf (map : ValueMap) : Except AhuError (Option (List Bytes)) :=
  map.foldlM (fun chain pair =>
    if pair.1.asInteger = some 6 then
      match pair.2.asArray with
      | none => .ok chain
      | some certificates => (certificates.mapM chainEntry).map some
    else .ok chain) none

def CaScope.ofValue (value : Value) : Except AhuError CaScope := do
  let some map := value.asMap
    | throw (.manifestField "ca_scope entry is not a map")
  let responderId ← ResponderId.ofMap (← getMap map 5)
  let responderChain ← responderChainOf map
  let hashAlgorithm ← getBytes map 1
  let issuerNameHash ← getBytes map 2
  let issuerKeyHash ← getBytes map 3
  let epoch ← getUint map 4
  let signatureAlgorithm ← getBytes map 7
  let completeness ← Completeness.ofUint (← getUint map 8)
  return {
      hashAlgorithm := hashAlgorithm
      issuerNameHash := issuerNameHash
      issuerKeyHash := issuerKeyHash
      epoch := epoch
      responderId := responderId
      responderChain := responderChain
      signatureAlgorithm := signatureAlgorithm
      completeness := completeness }

def Window.ofMap (map : ValueMap) : Except AhuError Window := do
  let producedAt ← getUint map 1
  let thisUpdateMin ← getUint map 2
  let nextUpdateMin ← getUint map 3
  let nextUpdateMax ← getUint map 4
  return {
      producedAt := producedAt
      thisUpdateMin := thisUpdateMin
      nextUpdateMin := nextUpdateMin
      nextUpdateMax := nextUpdateMax }

def Integrity.ofMap (map : ValueMap) : Except AhuError Integrity := do
  let indexDigest ← toFixed32 (← getBytes map 1)
  let dataDigest ← toFixed32 (← getBytes map 2)
  return {
      indexDigest := indexDigest
      dataDigest := dataDigest }

def Continuity.ofMap (map : ValueMap) : Except AhuError Continuity := do
  let prevManifestDigest ← getOptionalDigest map 1
  let baseManifestDigest ← getOptionalDigest map 2
  let chainLength ← getUint map 3
  return {
      prevManifestDigest := prevManifestDigest
      baseManifestDigest := baseManifestDigest
      chainLength := chainLength }

def Shard.ofMap (map : ValueMap) : Except AhuError Shard := do
  let shardIndex ← getUint map 1
  let shardCount ← getUint map 2
  let shardFn ← getUint map 3
  return {
      shardIndex := shardIndex
      shardCount := shardCount
      shardFn := shardFn }

def Compression.ofMap (map : ValueMap) : Except AhuError Compression := do
  let algorithm ← CompressionAlgorithm.ofUint (← getUint map 1)
  let dictionaryDigest ← getOptionalDigest map 2
  return {
      algorithm := algorithm
      dictionaryDigest := dictionaryDigest }

/-- `Option::map` followed by `transpose`. -/
def traverse {α β : Type} (parse : α → Except AhuError β) :
    Option α → Except AhuError (Option β)
  | none => .ok none
  | some value => (parse value).map some

/-- Entries whose key is not text are dropped. -/
def extensionsOf (map : ValueMap) : List (String × Value) :=
  map.filterMap fun pair => pair.1.asText.map fun key => (key, pair.2)

def Manifest.ofMap (map : ValueMap) : Except AhuError Manifest := do
  let formatVersion ← getUint map 1
  let bundleId ← uuidFromSlice (← getBytes map 2)
  let producerId ← getText map 3
  let createdAt ← getUint map 4
  let bundleType ← BundleType.ofUint (← getUint map 5)
  let caScopes ← (← getArray map 6).mapM CaScope.ofValue
  let window ← Window.ofMap (← getMap map 7)
  let integrity ← Integrity.ofMap (← getMap map 8)
  let entryCount ← getUint map 9
  let continuity ← Continuity.ofMap (← getMap map 10)
  let shard ← traverse Shard.ofMap (getOptionalMap map 11)
  let compression ← traverse Compression.ofMap (getOptionalMap map 12)
  let extensions := (getOptionalMap map 13).map extensionsOf
  return {
      formatVersion := formatVersion
      bundleId := bundleId
      producerId := producerId
      createdAt := createdAt
      bundleType := bundleType
      caScopes := caScopes
      window := window
      integrity := integrity
      entryCount := entryCount
      continuity := continuity
      shard := shard
      compression := compression
      extensions := extensions }

def Manifest.fromCbor [Ciborium] (data : Bytes) : Except AhuError Manifest := do
  let value ← (Ciborium.fromReader data).mapError AhuError.manifestDecode
  let some map := value.asMap
    | throw (.manifestDecode "root is not a map")
  Manifest.ofMap map

end Ahu

end Hoike
