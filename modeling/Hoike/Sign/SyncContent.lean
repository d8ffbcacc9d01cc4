/-
A refresh against the content of the directory (`dogtag_sync.rs`, RFC 4533).

A conforming directory refreshes a client in a present phase, in a delete
phase, or in a present phase followed by a delete phase.  At the end of a
present phase a client drops whatever the phase did not mention.  The source
does so only at the end of the stream, and only when no delete phase followed.
-/

import Hoike.Sign.SyncReports

namespace Hoike

/-! ### The content of a directory -/

/-- The entries of the repository under their UUIDs. -/
structure DirectoryContent where
  entry : Bytes → Option SearchEntry
  uuids : ∀ uuid item, entry uuid = some item → uuid.length = 16

def Unchanged (old new : DirectoryContent) (uuid : Bytes) : Prop :=
  (new.entry uuid).isSome ∧ new.entry uuid = old.entry uuid

def Stands (stored : Option StoredRecord) (entry : Option SearchEntry) : Prop :=
  match entry with
  | none => stored = none
  | some entry => stored.isSome ∧ stored = entry.record

/-- The map from identifiers to records is the content. -/
structure DirectoryContent.Matches (content : DirectoryContent)
    (records : BTreeMap String StoredRecord) : Prop where
  stands : ∀ uuid, Stands records[Bytes.encodeHex uuid]? (content.entry uuid)
  keys : ∀ id ∈ records, ∃ uuid, id = Bytes.encodeHex uuid

/-! ### The phases of a refresh -/

def SyncMessage.Mentions (uuid : Bytes) : SyncMessage → Prop
  | .info (.syncIdSet _ _ syncUuids) => uuid ∈ syncUuids
  | .entry [state] _ => state.entryUuid = uuid
  | _ => False

/-- In a present phase entries are sent, and unchanged ones are named. -/
def PresentMessage (old new : DirectoryContent) : SyncMessage → Prop
  | .info (.newCookie _) => True
  | .info (.syncIdSet _ refreshDeletes syncUuids) =>
      refreshDeletes = false ∧ ∀ uuid ∈ syncUuids, Unchanged old new uuid
  | .entry [state] item =>
      match state.state with
      | .add | .modify => new.entry state.entryUuid = some item
      | .present => Unchanged old new state.entryUuid
      | .delete => False
  | _ => False

/-- In a delete phase entries are sent, and identifiers that are no longer
there are named. -/
def DeleteMessage (new : DirectoryContent) : SyncMessage → Prop
  | .info (.newCookie _) => True
  | .info (.syncIdSet _ refreshDeletes syncUuids) =>
      refreshDeletes = true ∧ ∀ uuid ∈ syncUuids, new.entry uuid = none
  | .entry [state] item =>
      match state.state with
      | .add | .modify => new.entry state.entryUuid = some item
      | .present => False
      | .delete => new.entry state.entryUuid = none
  | _ => False

/-- A present phase mentions every entry there is. -/
structure PresentPhase (old new : DirectoryContent) (messages : List SyncMessage) : Prop where
  allowed : ∀ message ∈ messages, PresentMessage old new message
  covered : ∀ uuid, (new.entry uuid).isSome → ∃ message ∈ messages, message.Mentions uuid

/-- A delete phase mentions every entry that changed. -/
structure DeletePhase (old new : DirectoryContent) (messages : List SyncMessage) : Prop where
  allowed : ∀ message ∈ messages, DeleteMessage new message
  covered : ∀ uuid, new.entry uuid ≠ old.entry uuid → ∃ message ∈ messages, message.Mentions uuid

/-- The phases of a refresh.  Between two there is a content `mid` that the
first one brings the client to. -/
inductive RefreshPlan where
  | present (messages : List SyncMessage)
  | delete (messages : List SyncMessage)
  | both (mid : DirectoryContent) (first : List SyncMessage) (cookie : Option Bytes)
      (second : List SyncMessage)

def RefreshPlan.messages : RefreshPlan → List SyncMessage
  | .present messages => messages
  | .delete messages => messages
  | .both _ first cookie second => first ++ .info (.refreshPresent cookie) :: second

def RefreshPlan.refreshDeletes : RefreshPlan → Bool
  | .present _ => false
  | .delete _ => true
  | .both _ _ _ _ => true

def RefreshPlan.Conforms (old new : DirectoryContent) : RefreshPlan → Prop
  | .present messages => PresentPhase old new messages
  | .delete messages => DeletePhase old new messages
  | .both mid first _ second => PresentPhase old mid first ∧ DeletePhase mid new second

def RefreshPlan.stream (plan : RefreshPlan) (cookie : Option Bytes) : SyncStream :=
  { messages := plan.messages
    rc := 0
    doneControls := [{ cookie := cookie, refreshDeletes := plan.refreshDeletes }] }

/-- What a present phase silently drops is mentioned in the delete phase
behind it. -/
def RefreshPlan.Pruned (old : DirectoryContent) : RefreshPlan → Prop
  | .present _ => True
  | .delete _ => True
  | .both mid _ _ second => ∀ uuid, (old.entry uuid).isSome → mid.entry uuid = none →
      ∃ message ∈ second, message.Mentions uuid

/-! ### The record and the mark of one identifier -/

def SyncMessage.Writes (uuid : Bytes) (value : Option StoredRecord) (message : SyncMessage) :
    Prop :=
  (message.Deletes uuid ∧ value = none) ∨
    ∃ record, message.report uuid = some (.stored record) ∧ value = some record

def SyncMessage.Leaves (uuid : Bytes) (message : SyncMessage) : Prop :=
  ¬message.Deletes uuid ∧ ¬message.Stores uuid

theorem record_of_writes {cell : Cell} {message : SyncMessage} {uuid : Bytes}
    {value : Option StoredRecord} (writes : message.Writes uuid value) :
    (cell.after (message.report uuid)).record = value := by
  rcases writes with ⟨deletes, rfl⟩ | ⟨record, stores, rfl⟩
  · rw [show message.report uuid = _ from deletes]
    rfl
  · rw [stores]
    rfl

theorem record_of_leaves {cell : Cell} {message : SyncMessage} {uuid : Bytes}
    (leaves : message.Leaves uuid) :
    (cell.after (message.report uuid)).record = cell.record := by
  obtain ⟨notDeleted, notStored⟩ := leaves
  unfold SyncMessage.Deletes at notDeleted
  unfold SyncMessage.Stores at notStored
  cases said : message.report uuid with
  | none =>
      rfl
  | some report =>
      cases report with
      | deleted =>
          exact absurd said notDeleted
      | listed =>
          rfl
      | confirmed =>
          rfl
      | stored record =>
          exact absurd ⟨record, said⟩ notStored

theorem record_of_run {start final : Staging} {messages : List SyncMessage} {uuid : Bytes}
    {value : Option StoredRecord}
    (applied : messages.foldlM Staging.applyMessage start = .ok final)
    (each : ∀ message ∈ messages, message.Writes uuid value ∨ message.Leaves uuid) :
    ((∃ message ∈ messages, message.Writes uuid value) → (final.cell uuid).record = value) ∧
      ((∀ message ∈ messages, message.Leaves uuid) →
        (final.cell uuid).record = (start.cell uuid).record) := by
  refine Except.foldlM_induction (motive := fun front staging =>
    (∀ message ∈ front, message.Writes uuid value ∨ message.Leaves uuid) →
    ((∃ message ∈ front, message.Writes uuid value) → (staging.cell uuid).record = value) ∧
      ((∀ message ∈ front, message.Leaves uuid) →
        (staging.cell uuid).record = (start.cell uuid).record)) ?base ?next applied each
  case base =>
    intro _
    exact ⟨fun written => absurd written (by simp), fun _ => rfl⟩
  case next =>
    intro front staging message after before stepped each
    obtain ⟨written, left⟩ := before fun other member =>
      each other (List.mem_append_left _ member)
    have last := each message (List.mem_append_right _ (List.mem_singleton.mpr rfl))
    rw [(cell_applyMessage stepped uuid).1]
    constructor
    · intro some
      rcases last with writes | leaves
      · exact record_of_writes writes
      · rw [record_of_leaves leaves]
        obtain ⟨other, member, writes⟩ := some
        rcases List.mem_append.mp member with earlier | here
        · exact written ⟨other, earlier, writes⟩
        · rw [List.mem_singleton.mp here] at writes
          rcases writes with ⟨deletes, _⟩ | ⟨record, stores, _⟩
          · exact absurd deletes leaves.1
          · exact absurd ⟨record, stores⟩ leaves.2
    · intro all
      rw [record_of_leaves (all message (List.mem_append_right _ (List.mem_singleton.mpr rfl)))]
      exact left fun other member => all other (List.mem_append_left _ member)

theorem present_of_run {start final : Staging} {messages : List SyncMessage} {uuid : Bytes}
    (applied : messages.foldlM Staging.applyMessage start = .ok final) :
    (final.cell uuid).present = true ↔
      (start.cell uuid).present = true ∨ ∃ message ∈ messages, message.Reports uuid := by
  refine Except.foldlM_induction (motive := fun front staging =>
    (staging.cell uuid).present = true ↔
      (start.cell uuid).present = true ∨ ∃ message ∈ front, message.Reports uuid)
    ?base ?next applied
  case base =>
    simp
  case next =>
    intro front staging message after before stepped
    rw [(cell_applyMessage stepped uuid).1]
    have step : ((staging.cell uuid).after (message.report uuid)).present = true ↔
        (staging.cell uuid).present = true ∨ message.Reports uuid := by
      unfold SyncMessage.Reports SyncMessage.Lists SyncMessage.Confirms SyncMessage.Stores
      cases message.report uuid with
      | none =>
          simp [Cell.after]
      | some report =>
          cases report <;> simp [Cell.after]
    rw [step, before, or_assoc]
    simp only [List.mem_append, List.mem_singleton, or_and_right, exists_or, exists_eq_left]

/-! ### What the messages of a phase say -/

theorem exists_applied {start final : Staging} {messages : List SyncMessage}
    (applied : messages.foldlM Staging.applyMessage start = .ok final) :
    ∀ message ∈ messages, ∃ before after, Staging.applyMessage before message = .ok after := by
  refine Except.foldlM_induction (motive := fun front _ => ∀ message ∈ front,
    ∃ before after, Staging.applyMessage before message = .ok after) (by simp) ?next applied
  intro front staging message after before stepped other member
  rcases List.mem_append.mp member with earlier | here
  · exact before other earlier
  · rw [List.mem_singleton.mp here]
    exact ⟨staging, after, stepped⟩

def DirectoryContent.record (content : DirectoryContent) (uuid : Bytes) : Option StoredRecord :=
  (content.entry uuid).bind SearchEntry.record

theorem stands_record {content : DirectoryContent} {uuid : Bytes}
    (accepted : (content.entry uuid).isSome → (content.record uuid).isSome) :
    Stands (content.record uuid) (content.entry uuid) := by
  unfold DirectoryContent.record at accepted ⊢
  cases found : content.entry uuid with
  | none =>
      rfl
  | some entry =>
      rw [found] at accepted
      exact ⟨accepted rfl, rfl⟩

theorem record_of_stands {content : DirectoryContent} {uuid : Bytes} {stored : Option StoredRecord}
    (stands : Stands stored (content.entry uuid)) : stored = content.record uuid := by
  unfold DirectoryContent.record
  cases found : content.entry uuid with
  | none =>
      rw [found] at stands
      exact stands
  | some entry =>
      rw [found] at stands
      exact stands.2

def SyncMessage.Silent (uuid : Bytes) (message : SyncMessage) : Prop :=
  ¬message.Mentions uuid ∧ message.report uuid = none

theorem SyncMessage.Silent.leaves {uuid : Bytes} {message : SyncMessage}
    (silent : message.Silent uuid) : message.Leaves uuid := by
  unfold Leaves Deletes Stores
  rw [silent.2]
  exact ⟨nofun, nofun⟩

theorem writes_of_update {staging next : Staging} {state : SyncState} {entry : SearchEntry}
    {new : DirectoryContent} (update : state.state = .add ∨ state.state = .modify)
    (applied : staging.applyMessage (.entry [state] entry) = .ok next)
    (sent : new.entry state.entryUuid = some entry) :
    SyncMessage.Stores state.entryUuid (.entry [state] entry) ∧
      SyncMessage.Writes state.entryUuid (new.record state.entryUuid) (.entry [state] entry) ∧
      (new.record state.entryUuid).isSome := by
  have accepted : ∃ record, entry.record = some record := by
    rcases applyMessage_entry applied with ⟨kind, _⟩ | ⟨kind, _⟩ | ⟨_, record, accepted, _⟩
    · rw [kind] at update
      rcases update with impossible | impossible <;> cases impossible
    · rw [kind] at update
      rcases update with impossible | impossible <;> cases impossible
    · exact ⟨record, accepted⟩
  obtain ⟨record, accepted⟩ := accepted
  have value : new.record state.entryUuid = some record := by
    unfold DirectoryContent.record
    rw [sent]
    exact accepted
  have said : SyncMessage.report state.entryUuid (.entry [state] entry) =
      some (.stored record) := by
    unfold SyncMessage.report
    rcases update with kind | kind
    all_goals
      simp only [kind, if_true, accepted, Option.map_some]
  exact ⟨⟨record, said⟩, Or.inr ⟨record, said, value⟩, value ▸ rfl⟩

theorem present_message {old new : DirectoryContent} {message : SyncMessage}
    {staging next : Staging} (uuid : Bytes) (allowed : PresentMessage old new message)
    (applied : staging.applyMessage message = .ok next) :
    message.Silent uuid ∨ message.Mentions uuid ∧ message.Reports uuid ∧
      (new.entry uuid).isSome ∧
        ((message.Writes uuid (new.record uuid) ∧ (new.record uuid).isSome) ∨
          (message.Leaves uuid ∧ Unchanged old new uuid)) := by
  match message with
  | .info (.newCookie _) =>
      exact Or.inl ⟨not_false, rfl⟩
  | .info (.syncIdSet cookie refreshDeletes syncUuids) =>
      obtain ⟨rfl, unchanged⟩ := allowed
      by_cases listed : uuid ∈ syncUuids
      · have lists : SyncMessage.report uuid (.info (.syncIdSet cookie false syncUuids)) =
            some .listed := if_pos listed
        right
        refine ⟨listed, Or.inl lists, (unchanged uuid listed).1, Or.inr ⟨?_, unchanged uuid listed⟩⟩
        unfold SyncMessage.Leaves SyncMessage.Deletes SyncMessage.Stores
        rw [lists]
        exact ⟨nofun, nofun⟩
      · exact Or.inl ⟨listed, if_neg listed⟩
  | .entry [state] item =>
      by_cases same : state.entryUuid = uuid
      · subst same
        right
        unfold PresentMessage at allowed
        cases kind : state.state with
        | delete =>
            simp only [kind] at allowed
        | present =>
            simp only [kind] at allowed
            have confirms : SyncMessage.report state.entryUuid (.entry [state] item) =
                some .confirmed := by
              unfold SyncMessage.report
              simp only [kind, if_true]
            refine ⟨rfl, Or.inr (Or.inl confirms), allowed.1, Or.inr ⟨?_, allowed⟩⟩
            unfold SyncMessage.Leaves SyncMessage.Deletes SyncMessage.Stores
            rw [confirms]
            exact ⟨nofun, nofun⟩
        | add =>
            simp only [kind] at allowed
            obtain ⟨stores, writes⟩ := writes_of_update (Or.inl kind) applied allowed
            exact ⟨rfl, Or.inr (Or.inr stores), allowed ▸ rfl, Or.inl writes⟩
        | modify =>
            simp only [kind] at allowed
            obtain ⟨stores, writes⟩ := writes_of_update (Or.inr kind) applied allowed
            exact ⟨rfl, Or.inr (Or.inr stores), allowed ▸ rfl, Or.inl writes⟩
      · exact Or.inl ⟨same, if_neg same⟩

theorem delete_message {new : DirectoryContent} {message : SyncMessage}
    {staging next : Staging} (uuid : Bytes) (allowed : DeleteMessage new message)
    (applied : staging.applyMessage message = .ok next) :
    message.Silent uuid ∨ message.Mentions uuid ∧ message.Writes uuid (new.record uuid) ∧
      ((new.entry uuid).isSome → (new.record uuid).isSome) := by
  match message with
  | .info (.newCookie _) =>
      exact Or.inl ⟨not_false, rfl⟩
  | .info (.syncIdSet cookie refreshDeletes syncUuids) =>
      obtain ⟨rfl, gone⟩ := allowed
      by_cases listed : uuid ∈ syncUuids
      · have deletes : SyncMessage.report uuid (.info (.syncIdSet cookie true syncUuids)) =
            some .deleted := if_pos listed
        have value : new.record uuid = none := by
          unfold DirectoryContent.record
          rw [gone uuid listed]
          rfl
        exact Or.inr ⟨listed, Or.inl ⟨deletes, value⟩, by rw [gone uuid listed]; nofun⟩
      · exact Or.inl ⟨listed, if_neg listed⟩
  | .entry [state] item =>
      by_cases same : state.entryUuid = uuid
      · subst same
        right
        unfold DeleteMessage at allowed
        cases kind : state.state with
        | delete =>
            simp only [kind] at allowed
            have deletes : SyncMessage.report state.entryUuid (.entry [state] item) =
                some .deleted := by
              unfold SyncMessage.report
              simp only [kind, if_true]
            have value : new.record state.entryUuid = none := by
              unfold DirectoryContent.record
              rw [allowed]
              rfl
            exact ⟨rfl, Or.inl ⟨deletes, value⟩, by rw [allowed]; nofun⟩
        | present =>
            simp only [kind] at allowed
        | add =>
            simp only [kind] at allowed
            obtain ⟨_, writes, accepted⟩ := writes_of_update (Or.inl kind) applied allowed
            exact ⟨rfl, writes, fun _ => accepted⟩
        | modify =>
            simp only [kind] at allowed
            obtain ⟨_, writes, accepted⟩ := writes_of_update (Or.inr kind) applied allowed
            exact ⟨rfl, writes, fun _ => accepted⟩
      · exact Or.inl ⟨same, if_neg same⟩

theorem cell_of_silent {start final : Staging} {messages : List SyncMessage} {uuid : Bytes}
    (applied : messages.foldlM Staging.applyMessage start = .ok final)
    (silent : ∀ message ∈ messages, message.Silent uuid) : final.cell uuid = start.cell uuid := by
  refine Except.foldlM_induction (motive := fun front staging =>
    (∀ message ∈ front, message.Silent uuid) → staging.cell uuid = start.cell uuid)
    (fun _ => rfl) ?next applied silent
  intro front staging message after before stepped silent
  rw [(cell_applyMessage stepped uuid).1,
    (silent message (List.mem_append_right _ (List.mem_singleton.mpr rfl))).2]
  exact before fun other member => silent other (List.mem_append_left _ member)

/-! ### The phases -/

theorem present_phase {old new : DirectoryContent} {messages : List SyncMessage}
    {start final : Staging} (phase : PresentPhase old new messages)
    (applied : messages.foldlM Staging.applyMessage start = .ok final) {uuid : Bytes}
    (stands : Stands (start.cell uuid).record (old.entry uuid)) :
    ((new.entry uuid).isSome →
        Stands (final.cell uuid).record (new.entry uuid) ∧ (final.cell uuid).present = true) ∧
      (new.entry uuid = none → final.cell uuid = start.cell uuid) := by
  have said : ∀ message ∈ messages, _ := fun message member =>
    let ⟨_, _, stepped⟩ := exists_applied applied message member
    present_message uuid (phase.allowed message member) stepped
  have each : ∀ message ∈ messages,
      message.Writes uuid (new.record uuid) ∨ message.Leaves uuid := by
    intro message member
    rcases said message member with silent | ⟨_, _, _, ⟨writes, _⟩ | ⟨leaves, _⟩⟩
    · exact Or.inr silent.leaves
    · exact Or.inl writes
    · exact Or.inr leaves
  obtain ⟨written, left⟩ := record_of_run applied each
  constructor
  · intro there
    obtain ⟨message, member, mentions⟩ := phase.covered uuid there
    rcases said message member with silent | ⟨_, reports, _, kind⟩
    · exact absurd mentions silent.1
    · refine ⟨?_, (present_of_run applied).mpr (Or.inr ⟨message, member, reports⟩)⟩
      rcases kind with ⟨writes, accepted⟩ | ⟨_, unchanged⟩
      · rw [written ⟨message, member, writes⟩]
        exact stands_record fun _ => accepted
      · rw [← unchanged.2] at stands
        by_cases some : ∃ message ∈ messages, message.Writes uuid (new.record uuid)
        · rw [written some, ← record_of_stands stands]
          exact stands
        · rw [left fun message member =>
            (each message member).resolve_left fun writes => some ⟨message, member, writes⟩]
          exact stands
  · intro gone
    have silent : ∀ message ∈ messages, message.Silent uuid := by
      intro message member
      rcases said message member with silent | ⟨_, _, there, _⟩
      · exact silent
      · rw [gone] at there
        cases there
    exact cell_of_silent applied silent

theorem delete_phase {old new : DirectoryContent} {messages : List SyncMessage}
    {start final : Staging} (phase : DeletePhase old new messages)
    (applied : messages.foldlM Staging.applyMessage start = .ok final) (uuid : Bytes) :
    ((∃ message ∈ messages, message.Mentions uuid) →
        Stands (final.cell uuid).record (new.entry uuid)) ∧
      ((¬∃ message ∈ messages, message.Mentions uuid) →
        final.cell uuid = start.cell uuid ∧ new.entry uuid = old.entry uuid) := by
  have said : ∀ message ∈ messages, _ := fun message member =>
    let ⟨_, _, stepped⟩ := exists_applied applied message member
    delete_message uuid (phase.allowed message member) stepped
  constructor
  · intro mentioned
    obtain ⟨message, member, mentions⟩ := mentioned
    have each : ∀ message ∈ messages,
        message.Writes uuid (new.record uuid) ∨ message.Leaves uuid := by
      intro message member
      rcases said message member with silent | ⟨_, writes, _⟩
      · exact Or.inr silent.leaves
      · exact Or.inl writes
    rcases said message member with silent | ⟨_, writes, accepted⟩
    · exact absurd mentions silent.1
    · rw [(record_of_run applied each).1 ⟨message, member, writes⟩]
      exact stands_record accepted
  · intro unmentioned
    constructor
    · apply cell_of_silent applied
      intro message member
      rcases said message member with silent | ⟨mentions, _⟩
      · exact silent
      · exact absurd ⟨message, member, mentions⟩ unmentioned
    · by_contra changed
      exact unmentioned (phase.covered uuid changed)

/-! ### The keys of the records -/

def Staging.HexKeys (staging : Staging) : Prop :=
  ∀ id ∈ staging.staged.records, ∃ uuid, id = Bytes.encodeHex uuid

theorem Staging.HexKeys.withCookie {staging : Staging} (keys : staging.HexKeys)
    (cookie : Option Bytes) : (staging.withCookie cookie).HexKeys := by
  cases cookie with
  | none =>
      exact keys
  | some cookie =>
      exact keys

theorem Staging.HexKeys.remove {staging : Staging} (keys : staging.HexKeys) (id : String) :
    (staging.remove id).HexKeys := by
  intro other member
  exact keys other (Std.ExtTreeMap.mem_erase.mp member).2

theorem Staging.HexKeys.store {staging : Staging} (keys : staging.HexKeys) (uuid : Bytes)
    (record : StoredRecord) : (staging.store (Bytes.encodeHex uuid) record).HexKeys := by
  intro other member
  rcases Std.ExtTreeMap.mem_insert.mp member with same | earlier
  · exact ⟨uuid, (Std.LawfulEqOrd.compare_eq_iff_eq.mp same).symm⟩
  · exact keys other earlier

theorem Staging.HexKeys.applyMessage {staging next : Staging} {message : SyncMessage}
    (keys : staging.HexKeys) (applied : staging.applyMessage message = .ok next) :
    next.HexKeys := by
  cases message with
  | failed detail =>
      cases applied
  | malformed =>
      cases applied
  | info info =>
      cases info with
      | newCookie cookie =>
          cases applied
          exact keys.withCookie (some cookie)
      | refreshDelete cookie =>
          cases applied
          exact keys.withCookie cookie
      | refreshPresent cookie =>
          cases applied
          exact keys.withCookie cookie
      | syncIdSet cookie refreshDeletes syncUuids =>
          refine Except.foldlM_induction (motive := fun _ staging => staging.HexKeys)
            (keys.withCookie cookie) ?_ applied
          intro _ staging uuid after keys stepped
          obtain ⟨_, _, stepped⟩ := Except.bind_eq_ok.mp stepped
          cases stepped
          cases refreshDeletes with
          | true =>
              exact keys.remove _
          | false =>
              exact keys
  | entry controls entry =>
      match controls with
      | [] =>
          cases applied
      | _ :: _ :: _ =>
          cases applied
      | [state] =>
          rcases applyMessage_entry applied with ⟨_, rfl⟩ | ⟨_, _, rfl⟩ | ⟨_, record, _, rfl⟩
          · exact (keys.withCookie state.cookie).remove _
          · exact keys.withCookie state.cookie
          · exact (keys.withCookie state.cookie).store _ record

theorem Staging.HexKeys.applyMessages {start final : Staging} {messages : List SyncMessage}
    (keys : start.HexKeys)
    (applied : messages.foldlM Staging.applyMessage start = .ok final) : final.HexKeys :=
  Except.foldlM_induction (motive := fun _ staging => staging.HexKeys) keys
    (fun _ _ _ _ keys stepped => keys.applyMessage stepped) applied

/-! ### A whole refresh -/

def RefreshPlan.Stored (plan : RefreshPlan) (staging : Staging) (uuid : Bytes) :
    Option StoredRecord :=
  if plan.refreshDeletes = true ∨ (staging.cell uuid).present = true then
    (staging.cell uuid).record
  else none

theorem stored_of_deletes (plan : RefreshPlan) (deletes : plan.refreshDeletes = true)
    (staging : Staging) (uuid : Bytes) :
    plan.Stored staging uuid = (staging.cell uuid).record :=
  if_pos (Or.inl deletes)

/-- An identifier is stored as the new content has it, unless the present phase
dropped it and the delete phase does not mention it. -/
theorem stands_of_plan {old new : DirectoryContent} {plan : RefreshPlan} {start final : Staging}
    (conforms : plan.Conforms old new)
    (applied : plan.messages.foldlM Staging.applyMessage start = .ok final)
    (stands : ∀ uuid, Stands (start.cell uuid).record (old.entry uuid))
    (unmarked : ∀ uuid, (start.cell uuid).present = false) :
    (∀ uuid, Stands (plan.Stored final uuid) (new.entry uuid)) ↔ plan.Pruned old := by
  cases plan with
  | present messages =>
      refine ⟨fun _ => trivial, fun _ uuid => ?_⟩
      obtain ⟨there, gone⟩ := present_phase conforms applied (stands uuid)
      cases entry : new.entry uuid with
      | none =>
          unfold RefreshPlan.Stored
          rw [gone entry, unmarked uuid]
          rfl
      | some item =>
          obtain ⟨stored, marked⟩ := there (entry ▸ rfl)
          rw [← entry, RefreshPlan.Stored, if_pos (Or.inr marked)]
          exact stored
  | delete messages =>
      refine ⟨fun _ => trivial, fun _ uuid => ?_⟩
      obtain ⟨named, unnamed⟩ := delete_phase conforms applied uuid
      rw [stored_of_deletes _ rfl]
      by_cases mentioned : ∃ message ∈ messages, message.Mentions uuid
      · exact named mentioned
      · obtain ⟨same, unchanged⟩ := unnamed mentioned
        rw [same, unchanged]
        exact stands uuid
  | both mid first cookie second =>
      obtain ⟨presented, deleted⟩ := conforms
      obtain ⟨between, firstApplied, applied⟩ :=
        Except.bind_eq_ok.mp (List.foldlM_append.symm.trans applied)
      have secondApplied : second.foldlM Staging.applyMessage (between.withCookie cookie) =
          .ok final := applied
      have unnamed : ∀ uuid, (¬∃ message ∈ second, message.Mentions uuid) →
          final.cell uuid = between.cell uuid ∧ new.entry uuid = mid.entry uuid := by
        intro uuid unmentioned
        rw [← between.cell_withCookie cookie]
        exact (delete_phase deleted secondApplied uuid).2 unmentioned
      simp only [stored_of_deletes (.both mid first cookie second) rfl]
      constructor
      · intro stored uuid before dropped
        by_contra unmentioned
        obtain ⟨same, unchanged⟩ := unnamed uuid unmentioned
        have here := stored uuid
        rw [same, unchanged, dropped, (present_phase presented firstApplied (stands uuid)).2 dropped]
          at here
        have there := stands uuid
        rw [show (start.cell uuid).record = none from here] at there
        cases entry : old.entry uuid with
        | none =>
            rw [entry] at before
            cases before
        | some item =>
            rw [entry] at there
            cases there.1
      · intro pruned uuid
        by_cases mentioned : ∃ message ∈ second, message.Mentions uuid
        · exact (delete_phase deleted secondApplied uuid).1 mentioned
        · obtain ⟨same, unchanged⟩ := unnamed uuid mentioned
          obtain ⟨there, gone⟩ := present_phase presented firstApplied (stands uuid)
          rw [same, unchanged]
          cases entry : mid.entry uuid with
          | some item =>
              rw [← entry]
              exact (there (entry ▸ rfl)).1
          | none =>
              have absent : old.entry uuid = none := by
                by_contra before
                exact mentioned (pruned uuid (Option.isSome_iff_ne_none.mpr before) entry)
              rw [gone entry, ← absent]
              exact stands uuid

theorem current_of_failed_refresh {world : SourceWorld} {current after : Checkpoint}
    {binding : String} {error : SignError}
    (refreshed : refresh world current binding = (.error error, after)) :
    after = current.forBinding world binding := by
  unfold refresh at refreshed
  dsimp only at refreshed
  split at refreshed
  · cases refreshed
  · exact (Prod.ext_iff.mp refreshed).2.symm

/-- When the stream of a conforming directory is applied, the records are the
new content and the checkpoint is complete, and a refresh that fails leaves the
checkpoint as it was, exactly when the delete phase mentions what the present
phase before it dropped. -/
theorem refresh_is_content_iff {directory : Directory} {checkpoint result : Checkpoint}
    {old new : DirectoryContent} {plan : RefreshPlan} {cookie : Option Bytes}
    (conforms : plan.Conforms old new)
    (sent : directory.sync checkpoint.atCookie.cookie = .ok (plan.stream cookie))
    (matched : old.Matches checkpoint.atCookie.records)
    (synced : doSync directory checkpoint = .ok result) :
    ((new.Matches result.records ∧ result.complete = true) ∧
      ∀ world current binding error after,
        refresh world current binding = (.error error, after) →
          after = current.forBinding world binding ∧ (current.binding = binding → after = current)) ↔
      plan.Pruned old := by
  have failed : ∀ world current binding error after,
      refresh world current binding = (.error error, after) →
        after = current.forBinding world binding ∧
          (current.binding = binding → after = current) := by
    intro world current binding error after refreshed
    have kept := current_of_failed_refresh refreshed
    refine ⟨kept, fun same => ?_⟩
    rw [kept]
    exact if_neg (not_not.mpr same)
  rw [and_iff_left failed]
  obtain ⟨stream, staging, streamed, applied, ended⟩ := doSync_eq_ok synced
  cases Except.ok.inj (streamed.symm.trans sent)
  rcases ended with ⟨unsupported, _⟩ | ⟨_, done, controls, finished⟩
  · cases unsupported
  · cases controls
    obtain ⟨kept, _, complete⟩ := finish_eq_ok finished
    have stored : ∀ uuid, result.records[Bytes.encodeHex uuid]? = plan.Stored staging uuid := by
      intro uuid
      rw [kept]
      unfold RefreshPlan.Stored
      rw [← staging.cell_withCookie cookie]
      unfold Staging.cell
      simp only [decide_eq_true_iff]
    have keys : ∀ id ∈ result.records, ∃ uuid, id = Bytes.encodeHex uuid := by
      intro id member
      have started : Staging.HexKeys { staged := checkpoint.atCookie, present := [] } :=
        matched.keys
      have staged := (started.applyMessages applied).withCookie cookie
      rw [← Std.ExtTreeMap.isSome_getElem?_iff_mem, kept] at member
      split_ifs at member
      · exact staged id (Std.ExtTreeMap.isSome_getElem?_iff_mem.mp member)
      · cases member
    rw [← stands_of_plan conforms applied matched.stands fun _ => rfl, and_iff_left complete]
    constructor
    · intro matches' uuid
      rw [← stored]
      exact matches'.stands uuid
    · intro stands
      exact ⟨fun uuid => (stored uuid).symm ▸ stands uuid, keys⟩

def soleContent (entry : Option SearchEntry) : DirectoryContent :=
  { entry := fun uuid => if uuid = sampleUuid 1 then entry else none
    uuids := by
      intro uuid item found
      split_ifs at found with same
      rw [same]
      rfl }

def soleCheckpoint : Checkpoint :=
  resumed (.ofList [(Bytes.encodeHex (sampleUuid 1), validRecord)] compare)

theorem soleCheckpoint_matches :
    (soleContent (some validEntry)).Matches soleCheckpoint.atCookie.records := by
  have only : ∀ id, soleCheckpoint.atCookie.records[id]? =
      if id = Bytes.encodeHex (sampleUuid 1) then some validRecord else none := by
    intro id
    change (Std.ExtTreeMap.insert ∅ (Bytes.encodeHex (sampleUuid 1)) validRecord)[id]? = _
    rw [Std.ExtTreeMap.getElem?_insert]
    by_cases same : id = Bytes.encodeHex (sampleUuid 1)
    · rw [if_pos same, same, if_pos Std.ReflCmp.compare_self]
    · rw [if_neg same, if_neg fun equal => same (Std.LawfulEqOrd.compare_eq_iff_eq.mp equal).symm]
      rfl
  constructor
  · intro uuid
    rw [only]
    dsimp only [soleContent]
    by_cases same : uuid = sampleUuid 1
    · rw [if_pos same, if_pos (congrArg Bytes.encodeHex same)]
      refine ⟨rfl, ?_⟩
      decide +kernel
    · rw [if_neg same, if_neg fun equal => same (Bytes.encodeHex_injective equal)]
      rfl
  · intro id member
    rw [← Std.ExtTreeMap.isSome_getElem?_iff_mem, only] at member
    split_ifs at member with same
    · exact ⟨_, same⟩
    · cases member

theorem deleted_entry_gone :
    ∃ result, doSync (streamingDirectory [listMessage true 1] true) soleCheckpoint =
        .ok result ∧
      (soleContent none).Matches result.records := by
  have synced : ∃ result, doSync (streamingDirectory [listMessage true 1] true) soleCheckpoint =
      .ok result := Except.exists_of_isOk (by decide +kernel)
  obtain ⟨result, synced⟩ := synced
  have conforms : (RefreshPlan.delete [listMessage true 1]).Conforms
      (soleContent (some validEntry)) (soleContent none) := by
    constructor
    · intro message member
      cases List.mem_singleton.mp member
      refine ⟨rfl, fun uuid _ => ?_⟩
      simp [soleContent]
    · intro uuid changed
      refine ⟨_, List.mem_singleton.mpr rfl, ?_⟩
      by_contra other
      have different : uuid ≠ sampleUuid 1 := fun same => other (List.mem_singleton.mpr same)
      simp [soleContent, different] at changed
  exact ⟨result, synced,
    ((refresh_is_content_iff conforms rfl soleCheckpoint_matches synced).mpr trivial).1.1⟩

/-- The present phase mentions no entry, for there is none left, and the delete
phase is empty.  The entry of the client stays. -/
theorem dropped_entry_kept :
    (RefreshPlan.both (soleContent none) [] none []).Conforms (soleContent (some validEntry))
        (soleContent none) ∧
      (soleContent (some validEntry)).Matches soleCheckpoint.atCookie.records ∧
      ∃ result, doSync (streamingDirectory [.info (.refreshPresent none)] true) soleCheckpoint =
          .ok result ∧
        ¬(soleContent none).Matches result.records := by
  refine ⟨⟨⟨nofun, ?_⟩, ⟨nofun, nofun⟩⟩, soleCheckpoint_matches, ?_⟩
  · intro uuid there
    simp [soleContent] at there
  · have held : (doSync (streamingDirectory [.info (.refreshPresent none)] true)
        soleCheckpoint).toOption.map (fun result => result.records[Bytes.encodeHex (sampleUuid 1)]?) =
        some (some validRecord) := by
      decide +kernel
    cases synced : doSync (streamingDirectory [.info (.refreshPresent none)] true)
        soleCheckpoint with
    | error error =>
        rw [synced] at held
        cases held
    | ok result =>
        refine ⟨result, rfl, fun equal => ?_⟩
        have gone := equal.stands (sampleUuid 1)
        rw [synced] at held
        have held : result.records[Bytes.encodeHex (sampleUuid 1)]? = some validRecord :=
          Option.some.inj held
        rw [held] at gone
        cases gone

end Hoike
