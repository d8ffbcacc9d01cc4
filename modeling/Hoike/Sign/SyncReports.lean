/-
What a synchronization stream says about each identifier (`dogtag_sync.rs`).

A message deletes an identifier, stores a record for it, or reports it as
present.  A per-entry report is checked against the records held; one in a Sync
Id Set is not, so an identifier may be reported without any record behind it.
-/

import Hoike.Sign.DogtagSync

namespace Hoike

open History (Since)

/-! ### Reports -/

inductive Report where
  | deleted
  | listed
  | confirmed
  | stored (record : StoredRecord)
deriving DecidableEq

def SyncMessage.report (uuid : Bytes) : SyncMessage → Option Report
  | .info (.syncIdSet _ refreshDeletes syncUuids) =>
      if uuid ∈ syncUuids then some (if refreshDeletes then .deleted else .listed) else none
  | .entry [state] item =>
      if state.entryUuid = uuid then
        match state.state with
        | .delete => some .deleted
        | .present => some .confirmed
        | .add | .modify => item.record.map .stored
      else none
  | _ => none

def SyncMessage.Deletes (uuid : Bytes) (message : SyncMessage) : Prop :=
  message.report uuid = some .deleted

def SyncMessage.Lists (uuid : Bytes) (message : SyncMessage) : Prop :=
  message.report uuid = some .listed

def SyncMessage.Confirms (uuid : Bytes) (message : SyncMessage) : Prop :=
  message.report uuid = some .confirmed

def SyncMessage.Stores (uuid : Bytes) (message : SyncMessage) : Prop :=
  ∃ record, message.report uuid = some (.stored record)

def SyncMessage.Reports (uuid : Bytes) (message : SyncMessage) : Prop :=
  message.Lists uuid ∨ message.Confirms uuid ∨ message.Stores uuid

/-- The record held for an identifier, and whether it was reported. -/
structure Cell where
  record : Option StoredRecord
  present : Bool
deriving DecidableEq

def Staging.cell (staging : Staging) (uuid : Bytes) : Cell :=
  { record := staging.staged.records[Bytes.encodeHex uuid]?
    present := decide (Bytes.encodeHex uuid ∈ staging.present) }

def Cell.after (cell : Cell) : Option Report → Cell
  | none => cell
  | some .deleted => { cell with record := none }
  | some .listed => { cell with present := true }
  | some .confirmed => { cell with present := true }
  | some (.stored record) => { record := some record, present := true }

/-! ### One step -/

theorem Staging.cell_withCookie (staging : Staging) (cookie : Option Bytes) (uuid : Bytes) :
    (staging.withCookie cookie).cell uuid = staging.cell uuid := by
  cases cookie with
  | none =>
      rfl
  | some cookie =>
      rfl

theorem compare_encodeHex (left right : Bytes) :
    compare (Bytes.encodeHex left) (Bytes.encodeHex right) = .eq ↔ left = right := by
  rw [Std.LawfulEqOrd.compare_eq_iff_eq]
  exact ⟨Bytes.encodeHex_injective, congrArg Bytes.encodeHex⟩

theorem Staging.cell_remove (staging : Staging) (other uuid : Bytes) :
    (staging.remove (Bytes.encodeHex other)).cell uuid =
      (staging.cell uuid).after (if other = uuid then some .deleted else none) := by
  unfold Staging.cell Staging.remove
  dsimp only
  rw [Std.ExtTreeMap.getElem?_erase]
  by_cases same : other = uuid
  · rw [if_pos same, if_pos ((compare_encodeHex other uuid).mpr same)]
    rfl
  · rw [if_neg same, if_neg (mt (compare_encodeHex other uuid).mp same)]
    rfl

theorem Staging.cell_markPresent (staging : Staging) (other uuid : Bytes) :
    (staging.markPresent (Bytes.encodeHex other)).cell uuid =
      (staging.cell uuid).after (if other = uuid then some .listed else none) := by
  unfold Staging.cell Staging.markPresent
  dsimp only
  by_cases same : other = uuid
  · rw [if_pos same, same]
    simp [Cell.after]
  · have apart : Bytes.encodeHex uuid ≠ Bytes.encodeHex other :=
      fun equal => same (Bytes.encodeHex_injective equal).symm
    rw [if_neg same]
    simp [Cell.after, apart]

theorem Staging.cell_store (staging : Staging) (other uuid : Bytes) (record : StoredRecord) :
    (staging.store (Bytes.encodeHex other) record).cell uuid =
      (staging.cell uuid).after (if other = uuid then some (.stored record) else none) := by
  unfold Staging.cell Staging.store
  dsimp only
  rw [Std.ExtTreeMap.getElem?_insert]
  by_cases same : other = uuid
  · rw [if_pos same, if_pos ((compare_encodeHex other uuid).mpr same), same]
    simp [Cell.after]
  · have apart : Bytes.encodeHex uuid ≠ Bytes.encodeHex other :=
      fun equal => same (Bytes.encodeHex_injective equal).symm
    rw [if_neg same, if_neg (mt (compare_encodeHex other uuid).mp same)]
    simp [Cell.after, apart]

theorem cell_applyUuids {refreshDeletes : Bool} {uuids : List Bytes} {start final : Staging}
    (applied : uuids.foldlM (Staging.applyUuid refreshDeletes) start = .ok final) (uuid : Bytes) :
    final.cell uuid = (start.cell uuid).after
      (if uuid ∈ uuids then some (if refreshDeletes then .deleted else .listed) else none) := by
  refine Except.foldlM_induction (motive := fun front staging => staging.cell uuid =
    (start.cell uuid).after (if uuid ∈ front then
      some (if refreshDeletes then .deleted else .listed) else none)) ?base ?next applied
  case base =>
    rw [if_neg List.not_mem_nil]
    rfl
  case next =>
    intro front staging other after before stepped
    obtain ⟨_, _, stepped⟩ := Except.bind_eq_ok.mp stepped
    cases stepped
    have once : (if refreshDeletes then staging.remove (Bytes.encodeHex other)
        else staging.markPresent (Bytes.encodeHex other)).cell uuid =
        (staging.cell uuid).after
          (if other = uuid then some (if refreshDeletes then .deleted else .listed) else none) := by
      cases refreshDeletes with
      | true =>
          exact staging.cell_remove other uuid
      | false =>
          exact staging.cell_markPresent other uuid
    rw [once, before]
    by_cases same : other = uuid
    · rw [if_pos same, if_pos (List.mem_append_right _ (List.mem_singleton.mpr same.symm))]
      by_cases earlier : uuid ∈ front
      · rw [if_pos earlier]
        cases refreshDeletes <;> rfl
      · rw [if_neg earlier]
        rfl
    · have others : uuid ∈ front ++ [other] ↔ uuid ∈ front := by
        simp [List.mem_append, Ne.symm same]
      rw [if_neg same]
      simp only [others]
      rfl

theorem applyMessage_entry {staging next : Staging} {state : SyncState} {entry : SearchEntry}
    (applied : staging.applyMessage (.entry [state] entry) = .ok next) :
    (state.state = .delete ∧
        next = (staging.withCookie state.cookie).remove (Bytes.encodeHex state.entryUuid)) ∨
      (state.state = .present ∧ (staging.cell state.entryUuid).record.isSome ∧
        next = (staging.withCookie state.cookie).markPresent (Bytes.encodeHex state.entryUuid)) ∨
      ((state.state = .add ∨ state.state = .modify) ∧ ∃ record, entry.record = some record ∧
        next = (staging.withCookie state.cookie).store (Bytes.encodeHex state.entryUuid)
          record) := by
  obtain ⟨parsed, accepted, applied⟩ : ∃ parsed,
      (state.state = .add ∨ state.state = .modify → parseCertEntry entry = .ok parsed) ∧
        staging.applyEntry state parsed = .ok next := by
    cases kind : state.state with
    | add | modify =>
        simp only [Staging.applyMessage, kind] at applied
        obtain ⟨parsed, accepted, applied⟩ := Except.bind_eq_ok.mp applied
        exact ⟨parsed, fun _ => accepted, applied⟩
    | present | delete =>
        simp only [Staging.applyMessage, kind] at applied
        exact ⟨none, by simp, applied⟩
  obtain ⟨_, _, applied⟩ := Except.bind_eq_ok.mp applied
  have stored : parseCertEntry entry = .ok parsed →
      (∀ record, parsed = some record →
        next = (staging.withCookie state.cookie).store (Bytes.encodeHex state.entryUuid) record) →
      ∃ record, entry.record = some record ∧
        next = (staging.withCookie state.cookie).store (Bytes.encodeHex state.entryUuid)
          record := by
    intro accepted result
    obtain ⟨record, rfl⟩ := parseCertEntry_eq_ok accepted
    exact ⟨record, SearchEntry.record_eq_some.mpr accepted, result record rfl⟩
  cases kind : state.state with
  | delete =>
      rw [kind] at applied
      cases applied
      exact Or.inl ⟨rfl, rfl⟩
  | present =>
      rw [kind] at applied
      obtain ⟨_, held, applied⟩ := Except.bind_eq_ok.mp applied
      cases applied
      refine Or.inr (Or.inl ⟨rfl, ?_, rfl⟩)
      rw [← staging.cell_withCookie state.cookie]
      exact Std.ExtTreeMap.isSome_getElem?_iff_mem.mpr (Except.require_eq_ok.mp held)
  | add =>
      rw [kind] at applied
      refine Or.inr (Or.inr ⟨Or.inl rfl, stored (accepted (Or.inl kind)) ?_⟩)
      rintro record rfl
      exact (Except.ok.inj applied).symm
  | modify =>
      rw [kind] at applied
      refine Or.inr (Or.inr ⟨Or.inr rfl, stored (accepted (Or.inr kind)) ?_⟩)
      rintro record rfl
      exact (Except.ok.inj applied).symm

/-- A message changes the cell of an identifier by what it says about it.  An
entry that reports it as present finds a record. -/
theorem cell_applyMessage {staging next : Staging} {message : SyncMessage}
    (applied : staging.applyMessage message = .ok next) (uuid : Bytes) :
    next.cell uuid = (staging.cell uuid).after (message.report uuid) ∧
      (message.Confirms uuid → (staging.cell uuid).record.isSome) := by
  unfold SyncMessage.Confirms
  cases message with
  | failed detail =>
      cases applied
  | malformed =>
      cases applied
  | info info =>
      cases info with
      | newCookie cookie =>
          cases applied
          exact ⟨staging.cell_withCookie (some cookie) uuid, nofun⟩
      | refreshDelete cookie =>
          cases applied
          exact ⟨staging.cell_withCookie cookie uuid, nofun⟩
      | refreshPresent cookie =>
          cases applied
          exact ⟨staging.cell_withCookie cookie uuid, nofun⟩
      | syncIdSet cookie refreshDeletes syncUuids =>
          constructor
          · rw [cell_applyUuids applied uuid, Staging.cell_withCookie]
            rfl
          · dsimp only [SyncMessage.report]
            cases refreshDeletes <;> split_ifs <;> nofun
  | entry controls entry =>
      match controls with
      | [] =>
          cases applied
      | _ :: _ :: _ =>
          cases applied
      | [state] =>
          dsimp only [SyncMessage.report]
          rcases applyMessage_entry applied with ⟨kind, rfl⟩ | ⟨kind, held, rfl⟩ |
            ⟨kind, record, accepted, rfl⟩
          · rw [kind, Staging.cell_remove, Staging.cell_withCookie]
            exact ⟨rfl, by split_ifs <;> nofun⟩
          · rw [kind, Staging.cell_markPresent, Staging.cell_withCookie]
            refine ⟨by split_ifs <;> rfl, ?_⟩
            intro confirms
            split_ifs at confirms with same
            exact same ▸ held
          · rw [Staging.cell_store, Staging.cell_withCookie, accepted]
            rcases kind with kind | kind
            all_goals
              rw [kind]
              exact ⟨rfl, by split_ifs <;> nofun⟩

/-! ### A whole stream -/

/-- There is a record for the identifier: it was there before and is never
deleted, or it is stored and not deleted since. -/
def Supplied (records : BTreeMap String StoredRecord) (messages : List SyncMessage)
    (uuid : Bytes) : Prop :=
  (Bytes.encodeHex uuid ∈ records ∧ ∀ message ∈ messages, ¬message.Deletes uuid) ∨
    Since (SyncMessage.Stores uuid) (SyncMessage.Deletes uuid) messages

/-- What a stream leaves in the cell of an identifier. -/
structure Told (start : Staging) (messages : List SyncMessage) (final : Staging)
    (uuid : Bytes) : Prop where
  held : (final.cell uuid).record.isSome ↔ Supplied start.staged.records messages uuid
  confirmed : Since (SyncMessage.Confirms uuid) (SyncMessage.Deletes uuid) messages →
    (final.cell uuid).record.isSome
  reported : Since (SyncMessage.Reports uuid) (SyncMessage.Deletes uuid) messages →
    (final.cell uuid).present = true

theorem supplied_append {records : BTreeMap String StoredRecord} {messages : List SyncMessage}
    {message : SyncMessage} {uuid : Bytes} :
    Supplied records (messages ++ [message]) uuid ↔
      message.Stores uuid ∨ ¬message.Deletes uuid ∧ Supplied records messages uuid := by
  unfold Supplied
  rw [History.since_append_singleton, List.forall_mem_append, List.forall_mem_singleton]
  tauto

theorem Told.next {start staging next : Staging} {messages : List SyncMessage}
    {message : SyncMessage} {uuid : Bytes} (told : Told start messages staging uuid)
    (applied : staging.applyMessage message = .ok next) :
    Told start (messages ++ [message]) next uuid := by
  obtain ⟨cell, held⟩ := cell_applyMessage applied uuid
  obtain ⟨heldBefore, confirmedBefore, reportedBefore⟩ := told
  constructor
  · rw [supplied_append, cell, ← heldBefore]
    unfold SyncMessage.Stores SyncMessage.Deletes
    cases message.report uuid with
    | none =>
        simp [Cell.after]
    | some report =>
        cases report <;> simp [Cell.after]
  · rw [History.since_append_singleton, cell]
    intro since
    rcases since with confirms | ⟨kept, before⟩
    · have found := held confirms
      rw [show message.report uuid = _ from confirms]
      exact found
    · have found := confirmedBefore before
      unfold SyncMessage.Deletes at kept
      cases said : message.report uuid with
      | none =>
          exact found
      | some report =>
          cases report with
          | deleted =>
              exact absurd said kept
          | listed =>
              exact found
          | confirmed =>
              exact found
          | stored record =>
              rfl
  · rw [History.since_append_singleton, cell]
    intro since
    rcases since with (lists | confirms | ⟨record, stores⟩) | ⟨_, before⟩
    · rw [show message.report uuid = _ from lists]
      rfl
    · rw [show message.report uuid = _ from confirms]
      rfl
    · rw [stores]
      rfl
    · have found := reportedBefore before
      cases message.report uuid with
      | none =>
          exact found
      | some report =>
          cases report with
          | deleted =>
              exact found
          | listed =>
              rfl
          | confirmed =>
              rfl
          | stored record =>
              rfl

theorem told_of_applied {start final : Staging} {messages : List SyncMessage}
    (applied : messages.foldlM Staging.applyMessage start = .ok final) (uuid : Bytes) :
    Told start messages final uuid := by
  refine Except.foldlM_induction (motive := fun front staging => Told start front staging uuid)
    ?base ?next applied
  case base =>
    refine ⟨?_, fun since => absurd since History.not_since_nil,
      fun since => absurd since History.not_since_nil⟩
    unfold Supplied
    simp [Staging.cell, History.not_since_nil]
  case next =>
    intro front staging message after told stepped
    exact told.next stepped

/-! ### The finished checkpoint -/

theorem finish_eq_ok {staging : Staging} {refreshDeletes : Bool} {result : Checkpoint}
    (finished : staging.finish refreshDeletes = .ok result) :
    (∀ id, result.records[id]? =
        if refreshDeletes ∨ id ∈ staging.present then staging.staged.records[id]? else none) ∧
      (result.records.toList.map fun item => item.2.serial).Nodup ∧ result.complete = true := by
  obtain ⟨_, distinct, finished⟩ := Except.bind_eq_ok.mp finished
  cases finished
  refine ⟨?_, Except.require_eq_ok.mp distinct, rfl⟩
  intro id
  cases refreshDeletes with
  | true =>
      simp
  | false =>
      simp only [Bool.false_eq_true, if_false, false_or, Std.ExtTreeMap.getElem?_filter']
      cases staging.staged.records[id]? with
      | none =>
          simp
      | some record =>
          by_cases reported : id ∈ staging.present <;> simp [reported]

theorem doSync_eq_ok {directory : Directory} {checkpoint result : Checkpoint}
    (synced : doSync directory checkpoint = .ok result) :
    ∃ stream staging, directory.sync checkpoint.atCookie.cookie = .ok stream ∧
      stream.messages.foldlM Staging.applyMessage
        { staged := checkpoint.atCookie, present := [] } = .ok staging ∧
      ((stream.rc = 12 ∧ doFullPoll directory staging.staged.binding = .ok result) ∨
        (stream.rc = 0 ∧ ∃ done, stream.doneControls = [done] ∧
          (staging.withCookie done.cookie).finish done.refreshDeletes = .ok result)) := by
  obtain ⟨_, _, synced⟩ := Except.bind_eq_ok.mp synced
  obtain ⟨stream, streamed, synced⟩ := Except.bind_eq_ok.mp synced
  obtain ⟨staging, applied, synced⟩ := Except.bind_eq_ok.mp synced
  refine ⟨stream, staging, streamed, applied, ?_⟩
  unfold finishSync at synced
  split_ifs at synced with restart unsupported
  · exact Or.inl ⟨unsupported, synced⟩
  · obtain ⟨_, completed, synced⟩ := Except.bind_eq_ok.mp synced
    refine Or.inr ⟨Except.require_eq_ok.mp completed, ?_⟩
    rcases controls : stream.doneControls with _ | ⟨done, _ | ⟨second, others⟩⟩
    · rw [controls] at synced
      cases synced
    · rw [controls] at synced
      exact ⟨done, rfl, synced⟩
    · rw [controls] at synced
      cases synced

theorem nodup_serials_of_doSync {directory : Directory} {checkpoint result : Checkpoint}
    (synced : doSync directory checkpoint = .ok result) :
    (result.records.toList.map fun item => item.2.serial).Nodup := by
  obtain ⟨stream, staging, _, _, ⟨_, searched⟩ | ⟨_, done, _, finished⟩⟩ := doSync_eq_ok synced
  · obtain ⟨entries, _, searched⟩ := Except.bind_eq_ok.mp searched
    obtain ⟨_, rfl⟩ := fullPoll_eq_ok.mp searched
    exact nodup_serials_filed _
  · exact (finish_eq_ok finished).2.1

def StatusSnapshot.ListsOnce (snapshot : StatusSnapshot) (checkpoint : Checkpoint) : Prop :=
  snapshot.entries.toList.Perm
    (checkpoint.included.map fun record => (record.serial, record.status))

theorem toList_ofList_perm {items : List (SerialBytes × CertificateStatus)}
    (distinct : items.Pairwise fun left right => ¬compare left.1 right.1 = .eq) :
    (Std.ExtTreeMap.ofList items compare).toList.Perm items := by
  have held : ∀ item ∈ items, (Std.ExtTreeMap.ofList items compare)[item.1]? = some item.2 :=
    fun item member => Std.ExtTreeMap.getElem?_ofList_of_mem Std.ReflCmp.compare_self distinct member
  refine (List.perm_ext_iff_of_nodup ?_ ?_).mpr ?_
  · refine (Std.ExtTreeMap.ofList items compare).distinct_keys_toList.imp ?_
    intro left right different same
    exact different (same ▸ Std.ReflCmp.compare_self)
  · refine distinct.imp ?_
    intro left right different same
    exact different (same ▸ Std.ReflCmp.compare_self)
  · intro item
    rw [Std.ExtTreeMap.mem_toList_iff_getElem?_eq_some]
    constructor
    · intro stored
      have key : item.1 ∈ items.map Prod.fst := by
        have member := Std.ExtTreeMap.isSome_getElem?_iff_mem.mp (Option.isSome_of_eq_some stored)
        rw [Std.ExtTreeMap.mem_ofList] at member
        exact List.contains_iff_mem.mp member
      obtain ⟨other, member, same⟩ := List.mem_map.mp key
      have value : some other.2 = some item.2 := by
        rw [← held other member, same, stored]
      have equal : other = item := Prod.ext same (Option.some.inj value)
      exact equal ▸ member
    · exact held item

theorem snapshot_listsOnce {checkpoint : Checkpoint} {now : UInt64} {snapshot : StatusSnapshot}
    (distinct : (checkpoint.records.toList.map fun item => item.2.serial).Nodup)
    (taken : checkpoint.snapshot now = .ok snapshot) : snapshot.ListsOnce checkpoint := by
  obtain ⟨_, _, taken⟩ := Except.bind_eq_ok.mp taken
  cases taken
  have serials : (checkpoint.included.map StoredRecord.serial).Nodup := by
    have whole : ((checkpoint.records.toList.map Prod.snd).map StoredRecord.serial).Nodup := by
      rw [List.map_map]
      exact distinct
    exact whole.sublist (List.filter_sublist.map _)
  have keys : (checkpoint.included.map fun record => (record.serial, record.status)).Pairwise
      fun left right => ¬compare left.1 right.1 = .eq := by
    rw [List.pairwise_map]
    refine (List.pairwise_map.mp serials).imp ?_
    intro left right different same
    exact different (Std.LawfulEqOrd.compare_eq_iff_eq.mp same)
  exact toList_ofList_perm keys

def Directory.Finds (directory : Directory) (uuid : Bytes) : Prop :=
  ∃ entries, directory.search = .ok entries ∧
    uuid ∈ (entries.filterMap SearchEntry.record).map StoredRecord.serial

theorem isSome_filed {records : List StoredRecord} {record : StoredRecord}
    (member : record ∈ records) : (filed records)[Bytes.encodeHex record.serial]?.isSome := by
  induction records using List.reverseRecOn with
  | nil =>
      cases member
  | append_singleton records last ih =>
      rw [filed_append_singleton, Std.ExtTreeMap.getElem?_insert]
      split_ifs with same
      · rfl
      · rcases List.mem_append.mp member with earlier | here
        · exact ih earlier
        · rw [List.mem_singleton.mp here] at same
          exact absurd Std.ReflCmp.compare_self same

theorem mem_polled {binding : String} {records : List StoredRecord} {uuid : Bytes} :
    Bytes.encodeHex uuid ∈ (polled binding records).records ↔
      uuid ∈ records.map StoredRecord.serial := by
  rw [← Std.ExtTreeMap.isSome_getElem?_iff_mem, Option.isSome_iff_exists, List.mem_map]
  constructor
  · intro stored
    obtain ⟨record, stored⟩ := stored
    obtain ⟨member, key⟩ := mem_of_filed stored
    exact ⟨record, member, (Bytes.encodeHex_injective key).symm⟩
  · intro listed
    obtain ⟨record, member, rfl⟩ := listed
    exact Option.isSome_iff_exists.mp (isSome_filed member)

/-- Of a stream that ends well the identifiers it reported and did not delete
again all have records, and the snapshot has one status for each record,
exactly when each one listed in a Sync Id Set was held or stored.  Where the
directory turns out not to support the protocol, they have records when the
plain search found them under serials equal to the identifiers. -/
theorem reported_recorded_iff {directory : Directory} {checkpoint result : Checkpoint}
    {stream : SyncStream} (streamed : directory.sync checkpoint.atCookie.cookie = .ok stream)
    (synced : doSync directory checkpoint = .ok result) :
    ((∀ uuid, Since (SyncMessage.Reports uuid) (SyncMessage.Deletes uuid) stream.messages →
          Bytes.encodeHex uuid ∈ result.records) ∧
        ∀ now snapshot, result.snapshot now = .ok snapshot → snapshot.ListsOnce result) ↔
      if stream.rc = 12 then
        ∀ uuid, Since (SyncMessage.Reports uuid) (SyncMessage.Deletes uuid) stream.messages →
          directory.Finds uuid
      else
        ∀ uuid, Since (SyncMessage.Lists uuid) (SyncMessage.Deletes uuid) stream.messages →
          Supplied checkpoint.atCookie.records stream.messages uuid := by
  have once : ∀ now snapshot, result.snapshot now = .ok snapshot → snapshot.ListsOnce result :=
    fun now snapshot => snapshot_listsOnce (nodup_serials_of_doSync synced)
  rw [and_iff_left once]
  obtain ⟨stream', staging, streamed', applied, ended⟩ := doSync_eq_ok synced
  cases Except.ok.inj (streamed'.symm.trans streamed)
  rcases ended with ⟨unsupported, searched⟩ | ⟨completed, done, _, finished⟩
  · obtain ⟨entries, found, searched⟩ := Except.bind_eq_ok.mp searched
    obtain ⟨_, rfl⟩ := fullPoll_eq_ok.mp searched
    have finds : ∀ uuid, directory.Finds uuid ↔
        uuid ∈ (entries.filterMap SearchEntry.record).map StoredRecord.serial := by
      intro uuid
      unfold Directory.Finds
      rw [found]
      simp
    simp only [if_pos unsupported, finds, mem_polled]
  · have told := fun uuid => told_of_applied applied uuid
    have kept : ∀ uuid, Bytes.encodeHex uuid ∈ result.records ↔
        (staging.cell uuid).record.isSome ∧
          (done.refreshDeletes = true ∨ (staging.cell uuid).present = true) := by
      intro uuid
      rw [← staging.cell_withCookie done.cookie uuid, ← Std.ExtTreeMap.isSome_getElem?_iff_mem,
        (finish_eq_ok finished).1]
      unfold Staging.cell
      rw [decide_eq_true_iff]
      split_ifs with either
      · exact (and_iff_left either).symm
      · exact ⟨nofun, fun both => absurd both.2 either⟩
    rw [if_neg (by omega)]
    constructor
    · intro recorded uuid listed
      have found := recorded uuid (listed.mono fun _ _ => Or.inl)
      exact (told uuid).held.mp ((kept uuid).mp found).1
    · intro supplied uuid reported
      refine (kept uuid).mpr ⟨?_, Or.inr ((told uuid).reported reported)⟩
      rcases History.since_or.mp reported with listed | others
      · exact (told uuid).held.mpr (supplied uuid listed)
      · rcases History.since_or.mp others with confirmed | stored
        · exact (told uuid).confirmed confirmed
        · exact (told uuid).held.mpr (Or.inr stored)

def streamingDirectory (messages : List SyncMessage) (refreshDeletes : Bool) : Directory :=
  { bind := .ok ()
    sync := fun _ => .ok {
      messages := messages
      rc := 0
      doneControls := [{ cookie := some [2], refreshDeletes := refreshDeletes }] }
    search := .ok [] }

def sampleUuid (last : UInt8) : Bytes :=
  [0, 0, 0, 0, 0, 0, 0, 0, 0, 0, 0, 0, 0, 0, 0, last]

def resumed (records : BTreeMap String StoredRecord) : Checkpoint :=
  { version := 1
    binding := "source"
    cookie := some [1]
    records := records
    complete := true }

def addMessage (last : UInt8) : SyncMessage :=
  .entry [{ state := .add, entryUuid := sampleUuid last, cookie := none }] validEntry

def listMessage (refreshDeletes : Bool) (last : UInt8) : SyncMessage :=
  .info (.syncIdSet none refreshDeletes [sampleUuid last])

theorem added_then_listed :
    ∃ result, doSync (streamingDirectory [addMessage 1, listMessage false 1] false) (resumed ∅) =
        .ok result ∧
      ∀ uuid, Since (SyncMessage.Reports uuid) (SyncMessage.Deletes uuid)
        [addMessage 1, listMessage false 1] → Bytes.encodeHex uuid ∈ result.records := by
  have synced : ∃ result, doSync (streamingDirectory [addMessage 1, listMessage false 1] false)
      (resumed ∅) = .ok result := Except.exists_of_isOk (by decide +kernel)
  obtain ⟨result, synced⟩ := synced
  refine ⟨result, synced, ((reported_recorded_iff rfl synced).mpr ?_).1⟩
  rw [if_neg (by decide)]
  intro uuid listed
  obtain ⟨front, item, back, split, lists, _⟩ := listed
  have member : item ∈ [addMessage 1, listMessage false 1] := by
    change [addMessage 1, listMessage false 1] = front ++ item :: back at split
    rw [split]
    exact List.mem_append_right _ List.mem_cons_self
  have same : uuid = sampleUuid 1 := by
    by_contra different
    rcases List.mem_pair.mp member with rfl | rfl
    · change (if sampleUuid 1 = uuid then _ else _) = _ at lists
      rw [if_neg (Ne.symm different)] at lists
      cases lists
    · change (if uuid ∈ [sampleUuid 1] then _ else _) = _ at lists
      rw [if_neg (mt List.mem_singleton.mp different)] at lists
      cases lists
  rw [same]
  refine Or.inr ⟨[], addMessage 1, [listMessage false 1], rfl, ⟨validRecord, ?_⟩, ?_⟩
  · decide +kernel
  · unfold SyncMessage.Deletes
    decide +kernel

/-- An identifier no record is known for is listed as present, and the
refresh ends well without it. -/
theorem listed_without_record :
    Since (SyncMessage.Reports (sampleUuid 1)) (SyncMessage.Deletes (sampleUuid 1))
        [listMessage false 1] ∧
      (doSync (streamingDirectory [listMessage false 1] false) (resumed ∅)).toOption.map
        (fun result => (result.complete, result.records.toList)) = some (true, []) := by
  refine ⟨⟨[], listMessage false 1, [], rfl, Or.inl ?_, nofun⟩, ?_⟩
  · unfold SyncMessage.Lists
    decide +kernel
  · decide +kernel

end Hoike
