/-
Errors, paths, the disk and the durable write (`error.rs`, `storage.rs`).

A path is kept as the process spells it; the operating system resolves it
against a working directory and directory links.  Two spellings of one
directory are therefore different paths, which matters wherever the source
compares paths as text.

A file holds octets.  One that the JSON crate decodes is kept as the descriptor
it decodes to; octets written over it leave a file that no longer decodes.
-/

import Mathlib.Data.List.AList
import Hoike.Library.Fallible
import Hoike.Ahu.Seal

namespace Hoike

/-! ### Paths -/

/-- A path as a list of components.  Comparison is by components, as in the
source; a leading `.` counts, later ones are dropped. -/
structure PathBuf where
  root : Bool
  parts : List String
deriving DecidableEq, Repr

namespace PathBuf

def ofString (text : String) : PathBuf :=
  let pieces := (text.toList.splitOn '/').map String.ofList
  let plain := pieces.filter fun piece => piece ≠ "" ∧ piece ≠ "."
  { root := text.toList.head? = some '/'
    parts := if pieces.head? = some "." then "." :: plain else plain }

def display (path : PathBuf) : String :=
  (if path.root then "/" else "") ++ "/".intercalate path.parts

/-- An absolute second path replaces the first. -/
def join (path next : PathBuf) : PathBuf :=
  if next.root ∨ (path.root = false ∧ path.parts = []) then next
  else { path with parts := path.parts ++ next.parts.filter (· ≠ ".") }

def child (path : PathBuf) (name : String) : PathBuf :=
  { path with parts := path.parts ++ [name] }

def parent (path : PathBuf) : PathBuf :=
  { path with parts := path.parts.dropLast }

def fileName (path : PathBuf) : Option String :=
  path.parts.getLast?.filter fun name => name ≠ "." ∧ name ≠ ".."

@[simp] theorem parent_child (path : PathBuf) (name : String) :
    (path.child name).parent = path := by
  simp [parent, child]

theorem child_injective {path : PathBuf} {name name' : String}
    (same : path.child name = path.child name') : name = name' := by
  simpa [child] using same

end PathBuf

/-- What precedes the last dot of a file name.  A dot in front does not count. -/
def fileStem (name : String) : String :=
  let extension := (name.toList.reverse.takeWhile (· ≠ '.')).reverse
  let stem := name.toList.take (name.toList.length - extension.length - 1)
  if stem = [] then name else String.ofList stem

def fileExtension (name : String) : Option String :=
  let extension := (name.toList.reverse.takeWhile (· ≠ '.')).reverse
  let stem := name.toList.take (name.toList.length - extension.length - 1)
  if stem = [] then none else some (String.ofList extension)

/-! ### Errors -/

inductive CoreError where
  | emptyRequest
  | requestTooLarge (size max : Nat)
  | emptyRequestList
  | derParse (context detail : String)
  | bundle (error : Ahu.AhuError)
  | config (text : String)
  | epochRollback (scope : String) (epoch highWater : UInt64)
  | epochJumpTooLarge (scope : String) (epoch highWater jump maxJump : UInt64)
  | forkDetected (scope : String)
  | stateStore (text : String)
  | stateLock (text : String)
  | durabilityUncertain (path : PathBuf) (reason : String)
  | io (error : IoError)
deriving DecidableEq, Repr

def CoreError.display : CoreError → String
  | emptyRequest => "empty OCSP request"
  | requestTooLarge size max => s!"request too large: {size} bytes (max {max})"
  | emptyRequestList => "empty request list in OCSPRequest"
  | derParse context detail => s!"DER parse error in {context}: {detail}"
  | bundle error => s!"bundle error: {error.display}"
  | config text => s!"configuration error: {text}"
  | epochRollback scope epoch highWater =>
      s!"epoch rollback: scope {scope} epoch {epoch} <= high-water {highWater}"
  | epochJumpTooLarge scope epoch highWater jump maxJump =>
      (s!"epoch jump too large: scope {scope} epoch {epoch} jumps {jump} from high-water " ++
        s!"{highWater} (max allowed: {maxJump})")
  | forkDetected scope => s!"fork detected: prev_manifest_digest mismatch for scope {scope}"
  | stateStore text => s!"state store error: {text}"
  | stateLock text => s!"state directory lock error: {text}"
  | durabilityUncertain path reason =>
      (s!"durability uncertain after replacing {path.display}: {reason}. The replacement may " ++
        "or may not survive a crash — stop writers, inspect the persisted descriptor, and " ++
        "reopen state before continuing; do not assume the previous generation was preserved")
  | io error => s!"I/O error: {error.display}"

/-! ### The disk -/

abbrev HashMap (κ υ : Type) := AList fun _ : κ => υ

/-- The contents of `state.json`. -/
structure PersistedState where
  highWaterMarks : HashMap String UInt64
  manifestDigests : HashMap String String
  activeBundles : HashMap String PathBuf
deriving DecidableEq

def PersistedState.default : PersistedState :=
  { highWaterMarks := ∅
    manifestDigests := ∅
    activeBundles := ∅ }

def jsonText (text : String) : String :=
  let escape := fun letter : Char =>
    match letter.toNat with
    | 8 => "\\b"
    | 9 => "\\t"
    | 10 => "\\n"
    | 12 => "\\f"
    | 13 => "\\r"
    | 34 => "\\\""
    | 92 => "\\\\"
    | code => if code < 32 then "\\u00" ++ Bytes.encodeHex [code.toUInt8] else letter.toString
  "\"" ++ String.join (text.toList.map escape) ++ "\""

def jsonMap (entries : List (String × String)) : String :=
  if entries = [] then "\x7b\x7d"
  else
    let lines := entries.map fun entry => s!"    {jsonText entry.1}: {entry.2}"
    "\x7b\n" ++ ",\n".intercalate lines ++ "\n  \x7d"

def PersistedState.toJson (state : PersistedState) : Bytes :=
  let marks := state.highWaterMarks.entries.map fun entry => (entry.1, toString entry.2)
  let digests := state.manifestDigests.entries.map fun entry => (entry.1, jsonText entry.2)
  let bundles := state.activeBundles.entries.map fun entry => (entry.1, jsonText entry.2.display)
  Cbor.utf8 ("\x7b\n  \"high_water_marks\": " ++ jsonMap marks ++
    ",\n  \"manifest_digests\": " ++ jsonMap digests ++
    ",\n  \"active_bundles\": " ++ jsonMap bundles ++ "\n\x7d")

/-- What opening a file as a descriptor finds. -/
inductive Descriptor where
  | notText
  | malformed (error : String)
  | parsed (state : PersistedState)
deriving DecidableEq

def Descriptor.state? : Descriptor → Option PersistedState
  | notText => none
  | malformed _ => none
  | parsed state => some state

inductive FileContents where
  | octets (bytes : Bytes)
  | descriptor (state : PersistedState)
deriving DecidableEq

namespace FileContents

def bytes : FileContents → Bytes
  | octets bytes => bytes
  | descriptor state => state.toJson

/-- Octets that are not kept as a descriptor do not begin as a JSON value does. -/
def refused (bytes : Bytes) : Descriptor :=
  match Cbor.ofUtf8 bytes with
  | none => .notText
  | some text =>
      if text = "" then .malformed "EOF while parsing a value at line 1 column 0"
      else .malformed "expected value at line 1 column 1"

def decoded : FileContents → Descriptor
  | octets bytes => refused bytes
  | descriptor state => .parsed state

theorem state?_refused (bytes : Bytes) : (refused bytes).state? = none := by
  unfold refused
  cases Cbor.ofUtf8 bytes with
  | none =>
      rfl
  | some text =>
      dsimp only
      split <;> rfl

end FileContents

abbrev RealPath := List String

structure Disk where
  contents : RealPath → Option FileContents

namespace Disk

def files (disk : Disk) (place : RealPath) : Option Bytes :=
  (disk.contents place).map FileContents.bytes

def states (disk : Disk) (place : RealPath) : Option Descriptor :=
  (disk.contents place).map FileContents.decoded

def descriptor (disk : Disk) (place : RealPath) : Option PersistedState :=
  (disk.states place).bind Descriptor.state?

end Disk

def descriptorPlace (directory : RealPath) : RealPath :=
  directory ++ ["state.json"]

def Disk.replaceFiles (directory : RealPath) (files : RealPath → Option Bytes) (disk : Disk) :
    Disk :=
  { contents := fun place =>
      if place = descriptorPlace directory then disk.contents place
      else (files place).map FileContents.octets }

theorem Disk.files_replaceFiles (directory : RealPath) (files : RealPath → Option Bytes)
    (disk : Disk) (place : RealPath) :
    (disk.replaceFiles directory files).files place =
      if place = descriptorPlace directory then disk.files place else files place := by
  unfold Disk.files Disk.replaceFiles
  dsimp only
  split_ifs
  · rfl
  · rw [Option.map_map]
    exact Option.map_id'

/-- How one durable write ends. -/
inductive WriteOutcome where
  | durable
  | directoryNotCreated (error : IoError)
  | failedBeforeRename (error : IoError)
  | directoryNotSynced (error : IoError)
deriving DecidableEq

/-- The environment of one process.  Calls that may fail at any time are
decided by the number of calls made before. -/
structure Os where
  cwd : RealPath
  links : RealPath → Option RealPath
  missing : RealPath → Bool
  unreadable : RealPath → Bool
  listable : RealPath → Bool
  removable : RealPath → Bool
  listing : RealPath → List String
  createDirectory : Nat → PathBuf → Option IoError
  writeOutcome : Nat → PathBuf → WriteOutcome
  clock : Nat → Except String UInt64

/-- The disk, the number of system calls made, and every replacement of the
descriptor so far: what it held before, if that decoded, and what it holds
after. -/
structure World where
  disk : Disk
  calls : Nat
  replacements : List (Option PersistedState × PersistedState)

namespace Os

variable (os : Os)

def enter (directory : RealPath) (name : String) : RealPath :=
  if name = "." then directory
  else if name = ".." then directory.dropLast
  else (os.links (directory ++ [name])).getD (directory ++ [name])

def realpath (path : PathBuf) : RealPath :=
  path.parts.foldl os.enter (if path.root then [] else os.cwd)

/-- Where a file path leads.  Only directories are links. -/
def locate (path : PathBuf) : RealPath :=
  match path.parts.getLast? with
  | none => os.realpath path
  | some name => os.realpath path.parent ++ [name]

def canonicalizeDirectory (path : PathBuf) : Except IoError RealPath :=
  if os.missing (os.realpath path) then .error .notFound
  else .ok (os.realpath path)

def fileExists (disk : Disk) (path : PathBuf) : Bool :=
  (disk.files (os.locate path)).isSome

/-- `canonicalize` of a file, or the path itself when that fails. -/
def canonicalOrSelf (disk : Disk) (path : PathBuf) : PathBuf :=
  if os.fileExists disk path then
    { root := true
      parts := os.locate path }
  else path

def read (disk : Disk) (path : PathBuf) : Except IoError Bytes :=
  match disk.files (os.locate path) with
  | none => .error .notFound
  | some bytes =>
      if os.unreadable (os.locate path) then .error .permissionDenied else .ok bytes

def readState (disk : Disk) (path : PathBuf) : Option Descriptor :=
  disk.states (os.locate path)

@[simp] theorem locate_child (path : PathBuf) (name : String) :
    os.locate (path.child name) = os.realpath path ++ [name] := by
  unfold locate
  rw [PathBuf.parent_child]
  simp [PathBuf.child]

end Os

/-! ### Durable writes -/

namespace World

def tick (world : World) : World :=
  { world with calls := world.calls + 1 }

def putFile (place : RealPath) (bytes : Bytes) (world : World) : World :=
  { world with
    disk := { contents := Function.update world.disk.contents place (some (.octets bytes)) } }

def putState (place : RealPath) (state : PersistedState) (world : World) : World :=
  { world with
    disk := { contents := Function.update world.disk.contents place (some (.descriptor state)) }
    replacements := world.replacements ++
      [(world.disk.descriptor place, state)] }

end World

abbrev Effect := Fallible World CoreError

def systemTime (os : Os) : Effect UInt64 := do
  let world ← get
  modify World.tick
  liftM ((os.clock world.calls).mapError CoreError.config)

def createDirAll (os : Os) (path : PathBuf) : Effect Unit := do
  let world ← get
  modify World.tick
  match os.createDirectory world.calls path with
  | none => return ()
  | some error => throw (.io error)

/-- The common body of all durable writes; `publish` is the rename.  A failure
to sync the directory is reported after the rename has happened. -/
def writeAtomic (os : Os) (path : PathBuf) (publish : RealPath → World → World) :
    Effect Unit := do
  let world ← get
  modify World.tick
  if path.fileName = none then
    throw (.io .isADirectory)
  else
    match os.writeOutcome world.calls path with
    | .durable => modify (publish (os.locate path))
    | .directoryNotCreated error =>
        let parent := if path.parent.display = "" then "." else path.parent.display
        throw (.stateStore s!"cannot create directory {parent}: {error.display}")
    | .failedBeforeRename error => throw (.io error)
    | .directoryNotSynced error => do
        modify (publish (os.locate path))
        throw (.durabilityUncertain path
          s!"directory fsync failed after replacing the file: {error.display}")

def writeFile (os : Os) (path : PathBuf) (bytes : Bytes) : Effect Unit :=
  writeAtomic os path fun place => World.putFile place bytes

def writeState (os : Os) (path : PathBuf) (state : PersistedState) : Effect Unit :=
  writeAtomic os path fun place => World.putState place state

/-- The exclusive writer lock, as the directory it protects. -/
structure StateDirectoryLock where
  stateDir : RealPath
deriving DecidableEq

end Hoike
