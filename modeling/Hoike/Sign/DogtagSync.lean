/-
Synchronization with a Dogtag directory (`dogtag_sync.rs`).

A refresh sends the cookie of the current checkpoint and applies what the
directory streams back to a copy of it.  A directory without the protocol is
read as a whole instead.  Connections, the stream and the checkpoint file are
outside; what they give is a parameter.
-/

import Hoike.Library.Fallible
import Hoike.Library.Since
import Hoike.Sign.DogtagEntry

namespace Hoike

open Ocsp

/-! ### Messages of the protocol -/

inductive EntryState where
  | present
  | add
  | modify
  | delete
deriving DecidableEq, Repr

/-- The Sync State control of an entry. -/
structure SyncState where
  state : EntryState
  entryUuid : Bytes
  cookie : Option Bytes
deriving DecidableEq, Repr

inductive SyncInfo where
  | newCookie (cookie : Bytes)
  | refreshDelete (cookie : Option Bytes)
  | refreshPresent (cookie : Option Bytes)
  | syncIdSet (cookie : Option Bytes) (refreshDeletes : Bool) (syncUuids : List Bytes)
deriving DecidableEq, Repr

structure SyncDone where
  cookie : Option Bytes
  refreshDeletes : Bool
deriving DecidableEq, Repr

/-- One message of the stream.  An entry comes with its Sync State controls.
Reading the next message may fail, and the parser of the crate may panic on
it. -/
inductive SyncMessage where
  | info (info : SyncInfo)
  | entry (controls : List SyncState) (entry : SearchEntry)
  | failed (detail : String)
  | malformed
deriving DecidableEq

/-- The stream with the result code and the Sync Done controls at its end. -/
structure SyncStream where
  messages : List SyncMessage
  rc : Nat
  doneControls : List SyncDone

/-- What one connection to the directory gives: a stream for a cookie, and the
entries of a plain search. -/
structure Directory where
  bind : Except SignError Unit
  sync : Option Bytes → Except SignError SyncStream
  search : Except SignError (List SearchEntry)

/-! ### Checkpoints -/

structure Checkpoint where
  version : UInt32
  binding : String
  cookie : Option Bytes
  records : BTreeMap String StoredRecord
  complete : Bool

/-- `Checkpoint::default` with a version and a binding. -/
def Checkpoint.fresh (binding : String) : Checkpoint :=
  { version := 1
    binding := binding
    cookie := none
    records := ∅
    complete := false }

/-- A checkpoint in the making, and the identifiers reported so far. -/
structure Staging where
  staged : Checkpoint
  present : List String

def Staging.withCookie (staging : Staging) (cookie : Option Bytes) : Staging :=
  match cookie with
  | none => staging
  | some cookie => { staging with staged := { staging.staged with cookie := some cookie } }

def Staging.remove (staging : Staging) (id : String) : Staging :=
  { staging with
    staged := { staging.staged with records := staging.staged.records.erase id } }

def Staging.markPresent (staging : Staging) (id : String) : Staging :=
  { staging with present := id :: staging.present }

def Staging.store (staging : Staging) (id : String) (record : StoredRecord) : Staging :=
  { staged := { staging.staged with records := staging.staged.records.insert id record }
    present := id :: staging.present }

def Staging.applyEntry (staging : Staging) (state : SyncState)
    (record : Option StoredRecord) : Except SignError Staging := do
  Except.require (state.entryUuid.length = 16) (.config "invalid sync UUID")
  let id := Bytes.encodeHex state.entryUuid
  let staging := staging.withCookie state.cookie
  match state.state with
  | .delete => return staging.remove id
  | .present =>
      Except.require (id ∈ staging.staged.records)
        (.config "present UUID absent from checkpoint")
      return staging.markPresent id
  | .add | .modify =>
      let some record := record
        | throw (.config "sync update has no parsed record")
      return staging.store id record

/-- One identifier of a Sync Id Set.  Whether there is a record for it is not
looked at. -/
def Staging.applyUuid (refreshDeletes : Bool) (staging : Staging) (uuid : Bytes) :
    Except SignError Staging := do
  Except.require (uuid.length = 16) (.config "invalid sync UUID")
  let id := Bytes.encodeHex uuid
  return if refreshDeletes then staging.remove id else staging.markPresent id

def Staging.applyInfo (staging : Staging) : SyncInfo → Except SignError Staging
  | .newCookie cookie => .ok (staging.withCookie (some cookie))
  | .refreshDelete cookie => .ok (staging.withCookie cookie)
  | .refreshPresent cookie => .ok (staging.withCookie cookie)
  | .syncIdSet cookie refreshDeletes syncUuids =>
      syncUuids.foldlM (Staging.applyUuid refreshDeletes) (staging.withCookie cookie)

def Staging.applyMessage (staging : Staging) : SyncMessage → Except SignError Staging
  | .failed detail => .error (.config s!"LDAP stream: {detail}")
  | .malformed => .error (.config "malformed LDAP synchronization response")
  | .info info => staging.applyInfo info
  | .entry controls entry => do
      let [state] := controls
        | throw (.config "missing or duplicate Sync State control")
      let record ← match state.state with
        | .add | .modify => parseCertEntry entry
        | .present | .delete => pure none
      staging.applyEntry state record

/-- Without deletions in the stream, only what it reported is kept.  No serial
may be left twice. -/
def Staging.finish (staging : Staging) (refreshDeletes : Bool) : Except SignError Checkpoint := do
  let records := if refreshDeletes then staging.staged.records
    else staging.staged.records.filter fun id _ => decide (id ∈ staging.present)
  Except.require (records.toList.map fun item => item.2.serial).Nodup
    (.config "duplicate certificate serial in source")
  return { staging.staged with records := records, complete := true }

/-! ### A whole refresh -/

def Staging.pollEntry (staging : Staging) (entry : SearchEntry) : Except SignError Staging := do
  match ← parseCertEntry entry with
  | none => return staging
  | some record => return staging.store (Bytes.encodeHex record.serial) record

def fullPoll (binding : String) (entries : List SearchEntry) : Except SignError Checkpoint := do
  let staging ← entries.foldlM Staging.pollEntry
    { staged := .fresh binding
      present := [] }
  staging.finish false

def doFullPoll (directory : Directory) (binding : String) : Except SignError Checkpoint := do
  let entries ← directory.search
  fullPoll binding entries

/-- Without a cookie the directory sends everything, and nothing is kept. -/
def Checkpoint.atCookie (checkpoint : Checkpoint) : Checkpoint :=
  match checkpoint.cookie with
  | none => { checkpoint with records := ∅, complete := false }
  | some _ => checkpoint

/-- The end of the stream: a new start is asked for, the protocol is not
supported, or the staged checkpoint is finished. -/
def finishSync (directory : Directory) (staging : Staging) (stream : SyncStream) :
    Except SignError Checkpoint :=
  if stream.rc = 4096 then .error (.config "syncRefreshRequired")
  else if stream.rc = 12 then doFullPoll directory staging.staged.binding
  else do
    Except.require (stream.rc = 0) (.config s!"LDAP search completion: {stream.rc}")
    let [done] := stream.doneControls
      | throw (.config "missing or duplicate Sync Done control")
    (staging.withCookie done.cookie).finish done.refreshDeletes

def doSync (directory : Directory) (checkpoint : Checkpoint) : Except SignError Checkpoint := do
  directory.bind
  let start := checkpoint.atCookie
  let stream ← directory.sync start.cookie
  let staging ← stream.messages.foldlM Staging.applyMessage
    { staged := start
      present := [] }
  finishSync directory staging stream

/-! ### The source -/

/-- What a refresh finds outside: the directory, once more if it asks for a new
start, the checkpoint file, and whether a checkpoint can be written. -/
structure SourceWorld where
  directory : Directory
  again : Directory
  loaded : Option Checkpoint
  save : Checkpoint → Except SignError Unit

/-- Only complete checkpoints of the same source are taken from the file. -/
def loadCheckpoint (world : SourceWorld) (binding : String) : Option Checkpoint :=
  world.loaded.filter fun state =>
    state.version = 1 && state.binding = binding && state.complete

/-- The checkpoint in memory, or the one of the file when it belongs to another
source. -/
def Checkpoint.forBinding (current : Checkpoint) (world : SourceWorld) (binding : String) :
    Checkpoint :=
  if current.binding ≠ binding then (loadCheckpoint world binding).getD (.fresh binding)
  else current

def syncOrRestart (world : SourceWorld) (current : Checkpoint) (binding : String) :
    Except SignError Checkpoint :=
  match doSync world.directory current with
  | .ok staged => .ok staged
  | .error (.config "syncRefreshRequired") => doSync world.again (.fresh binding)
  | .error error => .error error

def refresh (world : SourceWorld) (current : Checkpoint) (binding : String) :
    Except SignError Checkpoint × Checkpoint :=
  let current := current.forBinding world binding
  let result := do
    let staged ← syncOrRestart world current binding
    world.save staged
    return staged
  match result with
  | .ok staged => (.ok staged, staged)
  | .error error => (.error error, current)

def Checkpoint.included (checkpoint : Checkpoint) : List StoredRecord :=
  (checkpoint.records.toList.map Prod.snd).filter fun record => !record.excluded

def Checkpoint.snapshot (checkpoint : Checkpoint) (now : UInt64) :
    Except SignError StatusSnapshot := do
  Except.require (now.toNat + 86400 < 18446744073709551616) (.config "source clock overflow")
  return {
    entries := .ofList (checkpoint.included.map fun record => (record.serial, record.status)) compare
    thisUpdate := now
    nextUpdate := some (now + 86400)
    notAfter := .ofList (checkpoint.included.filterMap fun record =>
      record.notAfter.map fun ending => (record.serial, ending)) compare }

/-! ### A plain search -/

def SearchEntry.record (entry : SearchEntry) : Option StoredRecord :=
  match parseCertEntry entry with
  | .ok record => record
  | .error _ => none

theorem parseCertEntry_eq_ok {entry : SearchEntry} {parsed : Option StoredRecord}
    (accepted : parseCertEntry entry = .ok parsed) : ∃ record, parsed = some record := by
  unfold parseCertEntry at accepted
  split at accepted
  · split at accepted
    · dsimp only at accepted
      split_ifs at accepted
      · cases accepted
        exact ⟨_, rfl⟩
      · cases accepted
        exact ⟨_, rfl⟩
      · obtain ⟨time, _, accepted⟩ := Except.bind_eq_ok.mp accepted
        obtain ⟨reason, _, accepted⟩ := Except.bind_eq_ok.mp accepted
        cases accepted
        exact ⟨_, rfl⟩
    · cases accepted
  · cases accepted

def SearchEntry.Accepted (entry : SearchEntry) : Prop :=
  ∃ record, parseCertEntry entry = .ok (some record)

theorem SearchEntry.accepted_or_error (entry : SearchEntry) :
    entry.Accepted ∨ ∃ error, parseCertEntry entry = .error error := by
  cases parsed : parseCertEntry entry with
  | error error =>
      exact Or.inr ⟨error, rfl⟩
  | ok result =>
      obtain ⟨record, rfl⟩ := parseCertEntry_eq_ok parsed
      exact Or.inl ⟨record, parsed⟩

theorem SearchEntry.record_eq_some {entry : SearchEntry} {record : StoredRecord} :
    entry.record = some record ↔ parseCertEntry entry = .ok (some record) := by
  unfold SearchEntry.record
  cases parsed : parseCertEntry entry with
  | error error =>
      simp
  | ok result =>
      simp

def filed (records : List StoredRecord) : BTreeMap String StoredRecord :=
  records.foldl (fun map record => map.insert (Bytes.encodeHex record.serial) record) ∅

theorem filed_append_singleton (records : List StoredRecord) (last : StoredRecord) :
    filed (records ++ [last]) = (filed records).insert (Bytes.encodeHex last.serial) last := by
  unfold filed
  rw [List.foldl_append]
  rfl

theorem mem_of_filed {records : List StoredRecord} {id : String} {record : StoredRecord}
    (stored : (filed records)[id]? = some record) :
    record ∈ records ∧ id = Bytes.encodeHex record.serial := by
  induction records using List.reverseRecOn with
  | nil =>
      cases stored
  | append_singleton records last ih =>
      rw [filed_append_singleton, Std.ExtTreeMap.getElem?_insert] at stored
      split_ifs at stored with same
      · cases stored
        exact ⟨List.mem_append_right _ (List.mem_singleton.mpr rfl),
          (Std.LawfulEqOrd.compare_eq_iff_eq.mp same).symm⟩
      · obtain ⟨member, key⟩ := ih stored
        exact ⟨List.mem_append_left _ member, key⟩

theorem filed_of_mem {records : List StoredRecord}
    (distinct : (records.map StoredRecord.serial).Nodup) {record : StoredRecord}
    (member : record ∈ records) :
    (filed records)[Bytes.encodeHex record.serial]? = some record := by
  induction records using List.reverseRecOn with
  | nil =>
      cases member
  | append_singleton records last ih =>
      rw [List.map_append, List.nodup_append] at distinct
      obtain ⟨before, _, apart⟩ := distinct
      rw [filed_append_singleton, Std.ExtTreeMap.getElem?_insert]
      rcases List.mem_append.mp member with earlier | here
      · rw [if_neg, ih before earlier]
        intro same
        have serials := Bytes.encodeHex_injective (Std.LawfulEqOrd.compare_eq_iff_eq.mp same)
        exact apart record.serial (List.mem_map_of_mem earlier) last.serial
          (List.mem_singleton.mpr rfl) serials.symm
      · rw [List.mem_singleton.mp here, if_pos Std.ReflCmp.compare_self]

theorem filed_perm {records others : List StoredRecord}
    (distinct : (records.map StoredRecord.serial).Nodup) (same : others.Perm records) :
    filed others = filed records := by
  have otherDistinct : (others.map StoredRecord.serial).Nodup :=
    (same.map StoredRecord.serial).nodup_iff.mpr distinct
  apply Std.ExtTreeMap.ext_getElem?
  intro id
  apply Option.ext
  intro record
  constructor
  · intro stored
    obtain ⟨member, rfl⟩ := mem_of_filed stored
    exact filed_of_mem distinct (same.mem_iff.mp member)
  · intro stored
    obtain ⟨member, rfl⟩ := mem_of_filed stored
    exact filed_of_mem otherDistinct (same.mem_iff.mpr member)

theorem nodup_serials_filed (records : List StoredRecord) :
    ((filed records).toList.map fun item => item.2.serial).Nodup := by
  apply List.pairwise_map.mpr
  apply List.Pairwise.imp_of_mem _ (filed records).distinct_keys_toList
  intro left right leftMember rightMember different same
  have leftKey := (mem_of_filed
    (Std.ExtTreeMap.mem_toList_iff_getElem?_eq_some.mp leftMember)).2
  have rightKey := (mem_of_filed
    (Std.ExtTreeMap.mem_toList_iff_getElem?_eq_some.mp rightMember)).2
  apply different
  rw [leftKey, rightKey, same]
  exact Std.ReflCmp.compare_self

def polled (binding : String) (records : List StoredRecord) : Checkpoint :=
  { Checkpoint.fresh binding with
    records := filed records
    complete := true }

def Staging.storeRecord (staging : Staging) (record : StoredRecord) : Staging :=
  staging.store (Bytes.encodeHex record.serial) record

theorem pollEntries_eq_ok {entries : List SearchEntry} {start final : Staging} :
    entries.foldlM Staging.pollEntry start = .ok final ↔
      (∀ entry ∈ entries, entry.Accepted) ∧
        final = (entries.filterMap SearchEntry.record).foldl Staging.storeRecord start := by
  induction entries generalizing start with
  | nil =>
      rw [List.foldlM_nil]
      constructor
      · intro done
        cases done
        exact ⟨fun _ member => absurd member List.not_mem_nil, rfl⟩
      · intro both
        rw [both.2]
        rfl
  | cons entry rest ih =>
      rw [List.foldlM_cons, List.forall_mem_cons]
      rcases entry.accepted_or_error with accepted | ⟨error, refused⟩
      · obtain ⟨record, parsed⟩ := accepted
        have step : start.pollEntry entry = .ok (start.storeRecord record) := by
          unfold Staging.pollEntry
          rw [parsed]
          rfl
        rw [step, List.filterMap_cons_some (SearchEntry.record_eq_some.mpr parsed),
          List.foldl_cons]
        change rest.foldlM Staging.pollEntry (start.storeRecord record) = .ok final ↔ _
        rw [ih]
        constructor
        · intro both
          exact ⟨⟨⟨record, parsed⟩, both.1⟩, both.2⟩
        · intro both
          exact ⟨both.1.2, both.2⟩
      · have step : start.pollEntry entry = .error error := by
          unfold Staging.pollEntry
          rw [refused]
          rfl
        rw [step]
        constructor
        · intro impossible
          cases impossible
        · intro both
          obtain ⟨record, parsed⟩ := both.1.1
          rw [refused] at parsed
          cases parsed

theorem storeRecords_fresh (binding : String) (records : List StoredRecord) :
    let final := records.foldl Staging.storeRecord { staged := .fresh binding, present := [] }
    final.staged = { Checkpoint.fresh binding with records := filed records } ∧
      ∀ record ∈ records, Bytes.encodeHex record.serial ∈ final.present := by
  induction records using List.reverseRecOn with
  | nil =>
      exact ⟨rfl, fun _ member => absurd member List.not_mem_nil⟩
  | append_singleton records last ih =>
      obtain ⟨staged, present⟩ := ih
      rw [List.foldl_append, filed_append_singleton, List.foldl_cons, List.foldl_nil]
      constructor
      · dsimp only [Staging.storeRecord, Staging.store]
        rw [staged]
      · intro record member
        rcases List.mem_append.mp member with earlier | here
        · exact List.mem_cons_of_mem _ (present record earlier)
        · rw [List.mem_singleton.mp here]
          exact List.mem_cons_self

theorem finish_storeRecords (binding : String) (records : List StoredRecord) :
    (records.foldl Staging.storeRecord { staged := .fresh binding, present := [] }).finish false =
      .ok (polled binding records) := by
  obtain ⟨staged, present⟩ := storeRecords_fresh binding records
  generalize records.foldl Staging.storeRecord { staged := .fresh binding, present := [] } = final
    at staged present
  have kept : final.staged.records.filter (fun id _ => decide (id ∈ final.present)) =
      filed records := by
    rw [staged]
    apply Std.ExtTreeMap.ext_getElem?
    intro id
    rw [Std.ExtTreeMap.getElem?_filter']
    cases stored : (filed records)[id]? with
    | none =>
        rfl
    | some record =>
        obtain ⟨member, rfl⟩ := mem_of_filed stored
        rw [Option.filter_some, decide_eq_true (present record member)]
        rfl
  unfold Staging.finish
  rw [if_neg Bool.false_ne_true, kept]
  apply Except.bind_eq_ok.mpr
  refine ⟨(), Except.require_eq_ok.mpr (nodup_serials_filed records), ?_⟩
  rw [staged]
  rfl

theorem fullPoll_eq_ok {binding : String} {entries : List SearchEntry} {result : Checkpoint} :
    fullPoll binding entries = .ok result ↔
      (∀ entry ∈ entries, entry.Accepted) ∧
        result = polled binding (entries.filterMap SearchEntry.record) := by
  unfold fullPoll
  rw [Except.bind_eq_ok]
  constructor
  · intro done
    obtain ⟨final, loop, done⟩ := done
    obtain ⟨accepted, rfl⟩ := pollEntries_eq_ok.mp loop
    rw [finish_storeRecords] at done
    exact ⟨accepted, (Except.ok.inj done).symm⟩
  · intro both
    exact ⟨_, pollEntries_eq_ok.mpr ⟨both.1, rfl⟩, by rw [finish_storeRecords, both.2]⟩

def AmbiguousSerials (entries : List SearchEntry) : Prop :=
  ¬((entries.filterMap SearchEntry.record).map StoredRecord.serial).Nodup

instance (entries : List SearchEntry) : Decidable (AmbiguousSerials entries) :=
  inferInstanceAs (Decidable (¬_))

/-- A plain search with two entries for one serial is refused, and otherwise
its order does not matter, exactly when an entry is refused anyway or all
serials differ. -/
theorem full_poll_unambiguous_iff (binding : String) (entries : List SearchEntry) :
    ((AmbiguousSerials entries → ∃ error, fullPoll binding entries = .error error) ∧
      ∀ result, fullPoll binding entries = .ok result →
        ∀ other, other.Perm entries → fullPoll binding other = .ok result) ↔
      (∃ entry ∈ entries, ∃ error, parseCertEntry entry = .error error) ∨
        ¬AmbiguousSerials entries := by
  constructor
  · intro both
    by_cases ambiguous : AmbiguousSerials entries
    · left
      obtain ⟨error, failed⟩ := both.1 ambiguous
      by_contra none
      have accepted : ∀ entry ∈ entries, entry.Accepted := by
        intro entry member
        exact entry.accepted_or_error.resolve_right fun refused => none ⟨entry, member, refused⟩
      rw [fullPoll_eq_ok.mpr ⟨accepted, rfl⟩] at failed
      cases failed
    · exact Or.inr ambiguous
  · intro either
    constructor
    · intro ambiguous
      obtain ⟨entry, member, error, refused⟩ := either.resolve_right fun not => not ambiguous
      cases outcome : fullPoll binding entries with
      | error error =>
          exact ⟨error, rfl⟩
      | ok result =>
          obtain ⟨record, parsed⟩ := (fullPoll_eq_ok.mp outcome).1 entry member
          rw [refused] at parsed
          cases parsed
    · intro result done other same
      obtain ⟨accepted, rfl⟩ := fullPoll_eq_ok.mp done
      have distinct : ¬AmbiguousSerials entries := by
        rcases either with ⟨entry, member, error, refused⟩ | distinct
        · obtain ⟨record, parsed⟩ := accepted entry member
          rw [refused] at parsed
          cases parsed
        · exact distinct
      apply fullPoll_eq_ok.mpr
      refine ⟨fun entry member => accepted entry (same.mem_iff.mp member), ?_⟩
      unfold polled
      rw [filed_perm (not_not.mp distinct) (same.filterMap _)]

def validEntry : SearchEntry :=
  { attrs := [("cn", ["42"]), ("certStatus", ["VALID"])] }

def validRecord : StoredRecord :=
  { serial := [42]
    revoked := none
    excluded := false
    notAfter := none }

/-- Two entries for one serial are accepted, and the last one decides whether
the certificate is revoked. -/
theorem repeated_serial_polled :
    AmbiguousSerials [revokedEntry "1793381608000", validEntry] ∧
      (fullPoll "source" [revokedEntry "1793381608000", validEntry]).toOption.map
          (fun result => result.records.toList) = some [("2a", validRecord)] ∧
      (fullPoll "source" [validEntry, revokedEntry "1793381608000"]).toOption.map
          (fun result => result.records.toList) = some [("2a", revokedRecord 1793381608)] := by
  decide +kernel

end Hoike
