/-
Errors of the bundle format crate, with the texts its callers put into their
own messages.

Vectors of the source cannot grow past `isize::MAX` octets; an attempt aborts
the process.  The model reports that abort as `capacityOverflow`, so that no
caller can mistake it for a result.
-/

import Hoike.Library.Octets

namespace Hoike

/-- The operating-system and reader errors that can surface in the model. -/
inductive IoError where
  | unexpectedEof
  | notFound
  | permissionDenied
  | isADirectory
  | other (text : String)
deriving DecidableEq, Repr

def IoError.display : IoError → String
  | unexpectedEof => "failed to fill whole buffer"
  | notFound => "No such file or directory (os error 2)"
  | permissionDenied => "Permission denied (os error 13)"
  | isADirectory => "Is a directory (os error 21)"
  | other text => text

namespace Ahu

inductive AhuError where
  | badMagic (found : Bytes)
  | unsupportedVersion (major minor : UInt16)
  | headerOutOfBounds (field : String) (offset length fileSize : UInt64)
  | manifestDecode (text : String)
  | manifestField (text : String)
  | sealInvalid (text : String)
  | indexDigestMismatch (expected actual : String)
  | dataDigestMismatch (expected actual : String)
  | indexNotSorted (index : Nat) (key nextKey : String)
  | duplicateEntryKey (index : Nat) (key : String)
  | indexSizeMismatch (size : UInt64) (recordSize : Nat)
  | deltaMissingBase
  | entryOutOfBounds (offset : UInt64) (length : UInt32)
  | io (error : IoError)
  | write (text : String)
  | invalidOperation (text : String)
  | capacityOverflow
deriving DecidableEq, Repr

/-- Octets as the source's `{:02x?}` prints them. -/
def debugHex (bytes : Bytes) : String :=
  "[" ++ ", ".intercalate (bytes.map fun byte => Bytes.encodeHex [byte]) ++ "]"

def AhuError.display : AhuError → String
  | badMagic found => s!"invalid magic: expected AHU1, got {debugHex found}"
  | unsupportedVersion major minor => s!"unsupported format version {major}.{minor}"
  | headerOutOfBounds field offset length fileSize =>
      (s!"header field out of bounds: {field} offset {offset} + length {length} " ++
        s!"exceeds file size {fileSize}")
  | manifestDecode text => s!"manifest CBOR decode error: {text}"
  | manifestField text => s!"manifest field missing or invalid: {text}"
  | sealInvalid text => s!"seal validation failed: {text}"
  | indexDigestMismatch expected actual =>
      s!"index digest mismatch: expected {expected}, got {actual}"
  | dataDigestMismatch expected actual =>
      s!"data digest mismatch: expected {expected}, got {actual}"
  | indexNotSorted index key nextKey =>
      s!"index not sorted: record {index} key {key} >= next key {nextKey}"
  | duplicateEntryKey index key => s!"duplicate entry key at index {index}: {key}"
  | indexSizeMismatch size recordSize =>
      s!"index section size {size} is not a multiple of record size {recordSize}"
  | deltaMissingBase => "delta requires base_manifest_digest"
  | entryOutOfBounds offset length =>
      s!"entry at index offset {offset} length {length} exceeds data section"
  | io error => s!"I/O error: {error.display}"
  | write text => s!"bundle write error: {text}"
  | invalidOperation text => s!"invalid bundle operation: {text}"
  | capacityOverflow => "capacity overflow"

end Ahu

end Hoike
