/-
The table of announced generations (`node.rs`).

One row per announcing node and scope holds the latest epoch heard of and its
manifest digest.  A row that has not been heard of for an hour is dropped, and
at most 4096 rows are kept.  An announcement of the epoch that a row already
has replaces the row's digest.
-/

import Mathlib.Data.Finset.Card
import Hoike.Library.Latest
import Hoike.Gossip.Authentication

namespace Hoike
namespace Gossip

structure GenRecord where
  originNode : String
  producerId : String
  issuerKeyHash : String
  epoch : UInt64
  manifestDigest : String
  lastSeenUnix : UInt64
deriving DecidableEq

/-- An announcement for a row.  The epoch of the row counts as new again. -/
def GenRecord.observe (entry : GenRecord) (epoch : UInt64) (manifestDigest : String)
    (now : UInt64) : GenRecord :=
  let entry :=
    if entry.epoch ≤ epoch then
      { entry with
        epoch := epoch
        manifestDigest := manifestDigest }
    else entry
  { entry with lastSeenUnix := now }

abbrev GenKey := String × String × String

abbrev GenerationTable := HashMap GenKey GenRecord

def GenerationTable.retain (table : GenerationTable) (now : UInt64) : GenerationTable :=
  ⟨table.entries.filter fun entry => now.toNat - entry.2.lastSeenUnix.toNat < 3600,
    table.nodupKeys.sublist List.filter_sublist⟩

def maxGenerations : Nat := 4096

/-- A message at this time.  Messages of the other kind and messages out of
bounds change nothing, and a new row is only added while there is room. -/
def recordGeneration (table : GenerationTable) (now : UInt64) (message : GossipMessage) :
    GenerationTable :=
  match message with
  | .generationAnnouncement producerId issuerKeyHash epoch manifestDigest _ originNode =>
      if message.validBounds then
        let ikhHex := Bytes.encodeHex issuerKeyHash
        let key := (originNode, producerId, ikhHex)
        let table := table.retain now
        if key ∉ table ∧ maxGenerations ≤ table.entries.length then table
        else
          let entry := (table.lookup key).getD
            { originNode := originNode
              producerId := producerId
              issuerKeyHash := ikhHex
              epoch := epoch
              manifestDigest := Bytes.encodeHex manifestDigest.val
              lastSeenUnix := now }
          table.insert key (entry.observe epoch (Bytes.encodeHex manifestDigest.val) now)
      else table
  | .urgentRevocation _ _ _ _ => table

/-! ### Announcements and their deliveries -/

/-- A generation announcement within bounds. -/
structure Announcement where
  producerId : String
  issuerKeyHash : Bytes
  epoch : UInt64
  manifestDigest : Octets 32
  bundleUrl : Option String
  originNode : String
  valid : (GossipMessage.generationAnnouncement producerId issuerKeyHash epoch manifestDigest
    bundleUrl originNode).validBounds = true

namespace Announcement

def message (announcement : Announcement) : GossipMessage :=
  .generationAnnouncement announcement.producerId announcement.issuerKeyHash announcement.epoch
    announcement.manifestDigest announcement.bundleUrl announcement.originNode

def key (announcement : Announcement) : GenKey :=
  (announcement.originNode, announcement.producerId,
    Bytes.encodeHex announcement.issuerKeyHash)

def offered (announcement : Announcement) : UInt64 × String :=
  (announcement.epoch, Bytes.encodeHex announcement.manifestDigest.val)

end Announcement

def epochOf (row : UInt64 × String) : Nat :=
  row.1.toNat

def GenerationTable.row (table : GenerationTable) (key : GenKey) : Option (UInt64 × String) :=
  (table.lookup key).map fun record => (record.epoch, record.manifestDigest)

abbrev Delivery := UInt64 × Announcement

def record (table : GenerationTable) (delivery : Delivery) : GenerationTable :=
  recordGeneration table delivery.1 delivery.2.message

def recordAll (deliveries : List Delivery) : GenerationTable :=
  deliveries.foldl record ∅

/-- No delivery is an hour or more behind another. -/
def Timely (deliveries : List Delivery) : Prop :=
  ∀ earlier ∈ deliveries, ∀ later ∈ deliveries, later.1.toNat - earlier.1.toNat < 3600

def HasRoomFor (announcements : List Announcement) : Prop :=
  (announcements.map Announcement.key).toFinset.card ≤ maxGenerations

instance (announcements : List Announcement) : Decidable (HasRoomFor announcements) :=
  inferInstanceAs (Decidable (_ ≤ _))

/-! ### One delivery -/

def GenRecord.row (record : GenRecord) : UInt64 × String :=
  (record.epoch, record.manifestDigest)

theorem row_observe (entry : GenRecord) (epoch : UInt64) (manifestDigest : String)
    (now : UInt64) :
    (entry.observe epoch manifestDigest now).row =
      Latest.offer epochOf (some entry.row) (epoch, manifestDigest) := by
  unfold GenRecord.observe Latest.offer GenRecord.row epochOf
  simp only [UInt64.le_iff_toNat_le]
  split_ifs <;> rfl

theorem retain_eq_self {table : GenerationTable} {now : UInt64}
    (recent : ∀ key record, table.lookup key = some record →
      now.toNat - record.lastSeenUnix.toNat < 3600) :
    table.retain now = table := by
  apply AList.ext
  apply List.filter_eq_self.mpr
  rintro ⟨key, record⟩ member
  exact decide_eq_true (recent key record (AList.mem_lookup_iff.mpr member))

theorem record_eq_insert {table : GenerationTable} {delivery : Delivery}
    (recent : ∀ key record, table.lookup key = some record →
      delivery.1.toNat - record.lastSeenUnix.toNat < 3600)
    (room : delivery.2.key ∉ table → table.entries.length < maxGenerations) :
    ∃ updated : GenRecord, record table delivery = table.insert delivery.2.key updated ∧
      updated.lastSeenUnix = delivery.1 ∧
        updated.row = Latest.offer epochOf (table.row delivery.2.key) delivery.2.offered := by
  have roomy : ¬(delivery.2.key ∉ table ∧ maxGenerations ≤ table.entries.length) :=
    fun full => absurd (room full.1) (Nat.not_lt.mpr full.2)
  unfold record recordGeneration Announcement.message
  dsimp only
  rw [if_pos delivery.2.valid, retain_eq_self recent]
  change ∃ updated, (if delivery.2.key ∉ table ∧ maxGenerations ≤ table.entries.length then _
    else table.insert delivery.2.key (((table.lookup delivery.2.key).getD _).observe _ _ _)) =
      _ ∧ _
  rw [if_neg roomy]
  refine ⟨_, rfl, rfl, ?_⟩
  rw [row_observe]
  unfold GenerationTable.row
  cases table.lookup delivery.2.key with
  | none =>
      -- a new row starts with what is announced
      change Latest.offer epochOf (some delivery.2.offered) delivery.2.offered = _
      exact if_pos (Nat.le_refl _)
  | some current =>
      rfl

/-! ### All deliveries -/

def offersFor (key : GenKey) (deliveries : List Delivery) : List (UInt64 × String) :=
  (deliveries.filter fun delivery => delivery.2.key = key).map fun delivery =>
    delivery.2.offered

theorem offersFor_append_singleton (key : GenKey) (front : List Delivery)
    (delivery : Delivery) :
    offersFor key (front ++ [delivery]) =
      if delivery.2.key = key then offersFor key front ++ [delivery.2.offered]
      else offersFor key front := by
  unfold offersFor
  rw [List.filter_append, List.map_append]
  split_ifs with own
  · simp [own]
  · simp [own]

/-- The table holds the latest of what was announced for each row. -/
structure Tracks (deliveries : List Delivery) (table : GenerationTable) : Prop where
  seen : ∀ key record, table.lookup key = some record →
    ∃ delivery ∈ deliveries, record.lastSeenUnix = delivery.1
  keys : ∀ key ∈ table, ∃ delivery ∈ deliveries, delivery.2.key = key
  rows : ∀ key, table.row key = Latest.ofOffers epochOf (offersFor key deliveries)

theorem length_lt_of_missing {table : GenerationTable} {keys : Finset GenKey} {key : GenKey}
    (inside : ∀ other ∈ table, other ∈ keys) (member : key ∈ keys) (missing : key ∉ table) :
    table.entries.length < keys.card := by
  have distinct : table.keys.toFinset.card = table.entries.length := by
    rw [List.toFinset_card_of_nodup table.keys_nodup]
    exact List.length_map _
  rw [← distinct]
  apply Finset.card_lt_card
  refine Finset.ssubset_iff_subset_ne.mpr ⟨?_, ?_⟩
  · intro other listed
    exact inside other (AList.mem_keys.mp (List.mem_toFinset.mp listed))
  · intro same
    rw [← same] at member
    exact missing (AList.mem_keys.mp (List.mem_toFinset.mp member))

theorem Tracks.record {front : List Delivery} {table : GenerationTable} {delivery : Delivery}
    (tracks : Tracks front table) (timely : Timely (front ++ [delivery]))
    (room : HasRoomFor ((front ++ [delivery]).map Prod.snd)) :
    Tracks (front ++ [delivery]) (record table delivery) := by
  have last : delivery ∈ front ++ [delivery] :=
    List.mem_append_right _ (List.mem_singleton.mpr rfl)
  have recent : ∀ key record, table.lookup key = some record →
      delivery.1.toNat - record.lastSeenUnix.toNat < 3600 := by
    intro key record stored
    obtain ⟨earlier, member, same⟩ := tracks.seen key record stored
    rw [same]
    exact timely earlier (List.mem_append_left _ member) delivery last
  have roomy : delivery.2.key ∉ table → table.entries.length < maxGenerations := by
    intro missing
    refine Nat.lt_of_lt_of_le (length_lt_of_missing ?_ ?_ missing) room
    · intro other stored
      obtain ⟨earlier, member, rfl⟩ := tracks.keys other stored
      exact List.mem_toFinset.mpr (List.mem_map_of_mem (List.mem_map_of_mem
        (List.mem_append_left _ member)))
    · exact List.mem_toFinset.mpr (List.mem_map_of_mem (List.mem_map_of_mem last))
  obtain ⟨updated, inserted, seen, row⟩ := record_eq_insert recent roomy
  rw [inserted]
  constructor
  case seen =>
    intro key record stored
    by_cases own : key = delivery.2.key
    · rw [own, AList.lookup_insert] at stored
      cases stored
      exact ⟨delivery, last, seen⟩
    · rw [AList.lookup_insert_ne own] at stored
      obtain ⟨earlier, member, same⟩ := tracks.seen key record stored
      exact ⟨earlier, List.mem_append_left _ member, same⟩
  case keys =>
    intro key stored
    rcases (AList.mem_insert table).mp stored with own | before
    · exact ⟨delivery, last, own.symm⟩
    · obtain ⟨earlier, member, same⟩ := tracks.keys key before
      exact ⟨earlier, List.mem_append_left _ member, same⟩
  case rows =>
    intro key
    rw [offersFor_append_singleton]
    unfold GenerationTable.row
    split_ifs with own
    · rw [← own, AList.lookup_insert, Latest.ofOffers_append_singleton, ← tracks.rows, ← row]
      rfl
    · rw [AList.lookup_insert_ne (Ne.symm own)]
      exact tracks.rows key

theorem tracks_recordAll {deliveries : List Delivery} (timely : Timely deliveries)
    (room : HasRoomFor (deliveries.map Prod.snd)) :
    Tracks deliveries (recordAll deliveries) := by
  induction deliveries using List.reverseRecOn with
  | nil =>
      constructor
      case seen =>
        intro key record stored
        cases stored
      case keys =>
        intro key stored
        exact absurd stored (AList.notMem_empty key)
      case rows =>
        intro key
        rfl
  | append_singleton front delivery ih =>
      have before : Timely front := fun earlier inFront later inFrontToo =>
        timely earlier (List.mem_append_left _ inFront) later (List.mem_append_left _ inFrontToo)
      have fewer : HasRoomFor (front.map Prod.snd) := by
        refine Nat.le_trans (Finset.card_le_card ?_) room
        intro key member
        rw [List.map_append, List.map_append, List.toFinset_append]
        exact Finset.mem_union_left _ member
      unfold recordAll
      rw [List.foldl_append, List.foldl_cons, List.foldl_nil]
      exact (ih before fewer).record timely room

/-! ### Convergence -/

/-- Announcements in any order and number, all of them, within an hour. -/
structure DeliveryOf (announcements : List Announcement) (deliveries : List Delivery) :
    Prop where
  arrives : ∀ announcement, announcement ∈ deliveries.map Prod.snd ↔
    announcement ∈ announcements
  timely : Timely deliveries

/-- The rows in the end are the same for all deliveries, and on the way epochs
do not go down and digests only change with them. -/
structure Converges (announcements : List Announcement) : Prop where
  final : ∀ first second, DeliveryOf announcements first → DeliveryOf announcements second →
    ∀ key, (recordAll first).row key = (recordAll second).row key
  steps : ∀ deliveries, DeliveryOf announcements deliveries →
    ∀ front delivery back, deliveries = front ++ delivery :: back →
      ∀ key before, (recordAll front).row key = some before →
        ∃ after, (recordAll (front ++ [delivery])).row key = some after ∧
          before.1 ≤ after.1 ∧ (after.2 ≠ before.2 → before.1 < after.1)

def OneDigestPerEpoch (announcements : List Announcement) : Prop :=
  ∀ first ∈ announcements, ∀ second ∈ announcements, first.key = second.key →
    first.epoch = second.epoch → first.manifestDigest = second.manifestDigest

section Converging

variable {announcements : List Announcement} {deliveries : List Delivery}

theorem DeliveryOf.room (delivered : DeliveryOf announcements deliveries)
    (room : HasRoomFor announcements) : HasRoomFor (deliveries.map Prod.snd) := by
  refine Nat.le_trans (Finset.card_le_card ?_) room
  intro key member
  obtain ⟨announcement, among, rfl⟩ := List.mem_map.mp (List.mem_toFinset.mp member)
  exact List.mem_toFinset.mpr (List.mem_map_of_mem ((delivered.arrives announcement).mp among))

theorem DeliveryOf.tracks (delivered : DeliveryOf announcements deliveries)
    (room : HasRoomFor announcements) {front back : List Delivery}
    (split : deliveries = front ++ back) : Tracks front (recordAll front) := by
  have inside : ∀ delivery ∈ front, delivery ∈ deliveries := by
    intro delivery member
    rw [split]
    exact List.mem_append_left _ member
  apply tracks_recordAll
  · intro earlier inFront later inFrontToo
    exact delivered.timely earlier (inside earlier inFront) later (inside later inFrontToo)
  · refine Nat.le_trans (Finset.card_le_card ?_) (delivered.room room)
    intro key member
    rw [List.mem_toFinset, List.map_map] at member ⊢
    obtain ⟨delivery, among, rfl⟩ := List.mem_map.mp member
    exact List.mem_map_of_mem (inside delivery among)

theorem mem_offersFor {key : GenKey} {row : UInt64 × String} :
    row ∈ offersFor key deliveries ↔
      ∃ announcement ∈ deliveries.map Prod.snd, announcement.key = key ∧
        announcement.offered = row := by
  unfold offersFor
  constructor
  · intro member
    obtain ⟨delivery, kept, rfl⟩ := List.mem_map.mp member
    obtain ⟨among, own⟩ := List.mem_filter.mp kept
    exact ⟨delivery.2, List.mem_map_of_mem among, of_decide_eq_true own, rfl⟩
  · rintro ⟨announcement, among, own, rfl⟩
    obtain ⟨delivery, member, rfl⟩ := List.mem_map.mp among
    exact List.mem_map_of_mem (List.mem_filter.mpr ⟨member, decide_eq_true own⟩)

theorem consistent_offersFor (one : OneDigestPerEpoch announcements) {key : GenKey}
    (inside : ∀ announcement ∈ deliveries.map Prod.snd, announcement ∈ announcements) :
    Latest.Consistent epochOf (offersFor key deliveries) := by
  intro left inLeft right inRight same
  obtain ⟨first, amongFirst, own, rfl⟩ := mem_offersFor.mp inLeft
  obtain ⟨second, amongSecond, ownToo, rfl⟩ := mem_offersFor.mp inRight
  have epochs : first.epoch = second.epoch := UInt64.toNat_inj.mp same
  have digests := one first (inside first amongFirst) second (inside second amongSecond)
    (own.trans ownToo.symm) epochs
  unfold Announcement.offered
  rw [epochs, digests]

theorem converges_of_oneDigest (room : HasRoomFor announcements)
    (one : OneDigestPerEpoch announcements) : Converges announcements := by
  constructor
  case final =>
    intro first second delivered deliveredToo key
    rw [(delivered.tracks room (List.append_nil _).symm).rows,
      (deliveredToo.tracks room (List.append_nil _).symm).rows]
    apply Latest.ofOffers_eq_of_mem_iff
    · exact consistent_offersFor one fun announcement => (delivered.arrives announcement).mp
    · intro row
      rw [mem_offersFor, mem_offersFor]
      simp only [delivered.arrives, deliveredToo.arrives]
  case steps =>
    intro deliveries delivered front delivery back split key before held
    have ahead : deliveries = (front ++ [delivery]) ++ back := by
      rw [split, List.append_assoc, List.singleton_append]
    have inside : ∀ announcement ∈ (front ++ [delivery]).map Prod.snd,
        announcement ∈ announcements := by
      intro announcement member
      rw [← delivered.arrives, ahead, List.map_append]
      exact List.mem_append_left _ member
    have consistent : Latest.Consistent epochOf (offersFor key (front ++ [delivery])) :=
      consistent_offersFor one inside
    rw [(delivered.tracks room split).rows] at held
    rw [(delivered.tracks room ahead).rows, offersFor_append_singleton]
    rw [offersFor_append_singleton] at consistent
    split_ifs at consistent ⊢ with own
    · rw [Latest.ofOffers_append_singleton, held]
      refine ⟨_, rfl, ?_⟩
      obtain ⟨stored, _⟩ := Latest.ofOffers_eq_some epochOf held
      rcases Latest.offer_cases epochOf before delivery.2.offered with
        ⟨taken, later⟩ | ⟨kept, _⟩
      · rw [taken]
        refine ⟨UInt64.le_iff_toNat_le.mpr later, fun changed => ?_⟩
        apply UInt64.lt_iff_toNat_lt.mpr
        refine Nat.lt_of_le_of_ne later fun same => changed ?_
        rw [consistent before (List.mem_append_left _ stored) delivery.2.offered
          (List.mem_append_right _ (List.mem_singleton.mpr rfl)) same]
      · rw [kept]
        exact ⟨UInt64.le_refl _, fun changed => absurd rfl changed⟩
    · exact ⟨before, held, UInt64.le_refl _, fun changed => absurd rfl changed⟩

theorem oneDigest_of_converges (room : HasRoomFor announcements)
    (converges : Converges announcements) : OneDigestPerEpoch announcements := by
  intro first inFirst second inSecond keys epochs
  let others : List Delivery := announcements.map fun announcement => (0, announcement)
  let deliveries : List Delivery := (0, first) :: (0, second) :: others
  have still : ∀ delivery ∈ deliveries, delivery.1 = 0 := by
    intro delivery member
    rcases List.mem_cons.mp member with rfl | member
    · rfl
    rcases List.mem_cons.mp member with rfl | member
    · rfl
    obtain ⟨_, _, rfl⟩ := List.mem_map.mp member
    rfl
  have delivered : DeliveryOf announcements deliveries := by
    constructor
    · intro announcement
      have whole : deliveries.map Prod.snd = first :: second :: announcements := by
        change first :: second :: (announcements.map _).map Prod.snd = _
        rw [List.map_map]
        exact congrArg (first :: second :: ·) (List.map_id _)
      rw [whole]
      constructor
      · intro member
        rcases List.mem_cons.mp member with rfl | member
        · exact inFirst
        rcases List.mem_cons.mp member with rfl | member
        · exact inSecond
        · exact member
      · intro member
        exact List.mem_cons_of_mem _ (List.mem_cons_of_mem _ member)
    · intro earlier inEarlier later inLater
      rw [still earlier inEarlier, still later inLater]
      decide
  have tracksOne : Tracks [(0, first)] (recordAll [(0, first)]) := delivered.tracks room rfl
  have tracksBoth : Tracks [(0, first), (0, second)] (recordAll [(0, first), (0, second)]) :=
    delivered.tracks room rfl
  have one := tracksOne.rows first.key
  have both := tracksBoth.rows first.key
  have offersOne : offersFor first.key [((0 : UInt64), first)] = [first.offered] := by
    simp [offersFor]
  have offersBoth : offersFor first.key [((0 : UInt64), first), (0, second)] =
      [first.offered, second.offered] := by
    simp [offersFor, keys]
  rw [offersOne] at one
  rw [offersBoth] at both
  have replaced : Latest.ofOffers epochOf [first.offered, second.offered] =
      some second.offered := by
    change some (if first.epoch.toNat ≤ second.epoch.toNat then _ else _) = _
    rw [if_pos (Nat.le_of_eq (congrArg UInt64.toNat epochs))]
  obtain ⟨after, held, _, strict⟩ := converges.steps deliveries delivered [(0, first)]
    (0, second) others rfl first.key first.offered one
  change (recordAll [(0, first), (0, second)]).row first.key = some after at held
  rw [both, replaced] at held
  cases held
  by_contra different
  have later := strict fun same => different (Subtype.ext (Bytes.encodeHex_injective same.symm))
  change first.epoch < second.epoch at later
  rw [epochs] at later
  exact absurd later (UInt64.lt_irrefl _)

/-- Announcements that fit the table converge exactly when no row is announced
with two digests for one epoch. -/
theorem generations_converge_iff (announcements : List Announcement)
    (room : HasRoomFor announcements) :
    Converges announcements ↔ OneDigestPerEpoch announcements :=
  ⟨oneDigest_of_converges room, converges_of_oneDigest room⟩

end Converging

/-! ### Two epochs, and two digests for one -/

def announced (epoch : UInt64) (octet : UInt8) : Announcement :=
  { producerId := "prod-1"
    issuerKeyHash := List.replicate 32 0xab
    epoch := epoch
    manifestDigest := .filled 32 octet
    bundleUrl := none
    originNode := "peer-a"
    valid := rfl }

/-- The epochs 5 and 7, as different manifests. -/
theorem two_epochs_converge :
    HasRoomFor [announced 5 5, announced 7 7] ∧ Converges [announced 5 5, announced 7 7] := by
  have room : HasRoomFor [announced 5 5, announced 7 7] := by decide
  refine ⟨room, (generations_converge_iff _ room).mpr ?_⟩
  unfold OneDigestPerEpoch
  decide

/-- Two manifests of epoch 5 leave the digest of whichever came last. -/
theorem one_epoch_two_digests :
    HasRoomFor [announced 5 1, announced 5 2] ∧
      DeliveryOf [announced 5 1, announced 5 2] [(0, announced 5 1), (0, announced 5 2)] ∧
      DeliveryOf [announced 5 1, announced 5 2] [(0, announced 5 2), (0, announced 5 1)] ∧
      (recordAll [(0, announced 5 1), (0, announced 5 2)]).row (announced 5 1).key ≠
        (recordAll [(0, announced 5 2), (0, announced 5 1)]).row (announced 5 1).key := by
  refine ⟨by decide, ⟨fun announcement => Iff.rfl, ?_⟩, ⟨?_, ?_⟩, by decide +kernel⟩
  · unfold Timely
    decide
  · intro announcement
    exact (List.Perm.swap (announced 5 2) (announced 5 1) []).mem_iff.symm
  · unfold Timely
    decide

end Gossip
end Hoike
