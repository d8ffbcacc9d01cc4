/-
The window of a produced bundle and the times of its responses (`generate.rs`).

The window is computed from the epoch seconds of the source, the responses
carry calendar dates.  Both agree unless the year of a date is cut on the way,
and the window is ahead of its own production time unless the clock passes the
end between two readings.
-/

import Hoike.Ocsp.EpochTime
import Hoike.Sign.Verifiable

namespace Hoike

open Ahu (BundleBuilder Window minU64 toNat_minU64)
open Ocsp

/-! ### Ends of responses -/

def StatusSnapshot.responseEnd (snapshot : StatusSnapshot) (config : GenerationConfig) : Nat :=
  min (snapshot.thisUpdate.toNat + config.validitySecs.toNat) (snapshot.nextUpdate.getD 0).toNat

theorem StatusSnapshot.validateAt_eq_ok {snapshot : StatusSnapshot} {now ending : UInt64}
    (valid : snapshot.validateAt now = .ok ending) : snapshot.nextUpdate = some ending := by
  unfold StatusSnapshot.validateAt at valid
  cases source : snapshot.nextUpdate with
  | none =>
      rw [source] at valid
      cases valid
  | some found =>
      rw [source] at valid
      dsimp only at valid
      split_ifs at valid
      cases valid
      rfl

section Windows

variable [Sha2] [Sha1] [X509Ocsp]

def StatusSnapshot.entryEnd (snapshot : StatusSnapshot) (config : GenerationConfig)
    (serial : SerialBytes) : UInt64 :=
  UInt64.ofNat (min (snapshot.responseEnd config +
    (entryKeyJitter serial config.jitterSecs).toNat) (snapshot.nextUpdate.getD 0).toNat)

omit [Sha1] [X509Ocsp] in
theorem StatusSnapshot.toNat_entryEnd (snapshot : StatusSnapshot) (config : GenerationConfig)
    (serial : SerialBytes) :
    (snapshot.entryEnd config serial).toNat = min (snapshot.responseEnd config +
      (entryKeyJitter serial config.jitterSecs).toNat) (snapshot.nextUpdate.getD 0).toNat :=
  UInt64.toNat_ofNat_of_lt'
    (Nat.lt_of_le_of_lt (Nat.min_le_right _ _) (snapshot.nextUpdate.getD 0).toNat_lt)

omit [Sha1] [X509Ocsp] in
theorem toNat_entryKeyJitter_le (serial : SerialBytes) (jitterSecs : UInt64) :
    (entryKeyJitter serial jitterSecs).toNat ≤ jitterSecs.toNat := by
  have size : ((Sha2.sha256 serial).val.take 4).length = 4 := by
    rw [List.length_take, (Sha2.sha256 serial).property]
    rfl
  have frac := Bytes.toNatBE_lt ((Sha2.sha256 serial).val.take 4)
  rw [size] at frac
  have share : Bytes.toNatBE ((Sha2.sha256 serial).val.take 4) * jitterSecs.toNat / 4294967295 ≤
      jitterSecs.toNat :=
    Nat.div_le_of_le_mul (Nat.mul_le_mul_right _ (Nat.le_of_lt_succ frac))
  unfold entryKeyJitter
  rw [UInt64.toNat_ofNat_of_lt' (Nat.lt_of_le_of_lt share jitterSecs.toNat_lt)]
  exact share

omit [Sha2] [Sha1] [X509Ocsp] in
theorem generationTimes_eq_ok {snapshot : StatusSnapshot} {config : GenerationConfig}
    {clock : Clock} {times : GenerationTimes}
    (made : generationTimes snapshot config clock = .ok times) :
    snapshot.nextUpdate = some times.sourceEnd ∧
      times.nextUpdateBase.toNat = snapshot.responseEnd config := by
  obtain ⟨now, _, made⟩ := Except.bind_eq_ok.mp made
  obtain ⟨sourceEnd, valid, made⟩ := Except.bind_eq_ok.mp made
  obtain ⟨_, fits, made⟩ := Except.bind_eq_ok.mp made
  obtain ⟨checkedAt, _, made⟩ := Except.bind_eq_ok.mp made
  obtain ⟨_, _, made⟩ := Except.bind_eq_ok.mp made
  obtain ⟨reading, _, made⟩ := Except.bind_eq_ok.mp made
  obtain ⟨producedAt, _, same⟩ := Except.bind_eq_ok.mp made
  cases same
  have source := snapshot.validateAt_eq_ok valid
  refine ⟨source, ?_⟩
  unfold StatusSnapshot.responseEnd
  rw [source, Option.getD_some]
  change (minU64 _ _).toNat = _
  rw [toNat_minU64, UInt64.toNat_add, Nat.mod_eq_of_lt (Except.require_eq_ok.mp fits)]

variable {production : Production} {ca : CaIdentity} {snapshot : StatusSnapshot}
  {config : GenerationConfig} {clock : Clock} {builder : BundleBuilder}

theorem Filling.sourceEnd (filling : Filling production ca snapshot config clock builder) :
    snapshot.nextUpdate = some filling.times.sourceEnd :=
  (generationTimes_eq_ok filling.timesMade).1

theorem Filling.window (filling : Filling production ca snapshot config clock builder) :
    clock 4 = .ok builder.finalManifest.window.producedAt ∧
      builder.finalManifest.window.thisUpdateMin = snapshot.thisUpdate ∧
      builder.finalManifest.window.nextUpdateMin.toNat = snapshot.responseEnd config ∧
      builder.finalManifest.window.nextUpdateMax.toNat =
        min (snapshot.responseEnd config + config.jitterSecs.toNat)
          filling.times.sourceEnd.toNat := by
  obtain ⟨source, base⟩ := generationTimes_eq_ok filling.timesMade
  have whole := filling.times.sourceEnd.toNat_lt
  unfold BundleBuilder.finalManifest
  rw [filling.manifest]
  refine ⟨filling.producedAtRead, rfl, base, ?_⟩
  change (minU64 (saturatingAddU64 filling.times.nextUpdateBase config.jitterSecs) _).toNat = _
  rw [toNat_minU64, toNat_saturatingAddU64, base]
  omega

/-! ### Signed responses -/

def Filling.singles (filling : Filling production ca snapshot config clock builder) :
    List SingleResponse :=
  filling.prepared.flatMap PreparedEntry.singleResponses

/-- The times of the response for a certificate of the source. -/
structure Timed (snapshot : StatusSnapshot) (config : GenerationConfig)
    (entry : SerialBytes × CertificateStatus) (single : SingleResponse) : Prop where
  starts : ocspTime snapshot.thisUpdate = .ok single.thisUpdate
  ends : ∃ next, ocspTime (snapshot.entryEnd config entry.1) = .ok next ∧
    single.nextUpdate = some next

theorem Filling.entryNextUpdate (filling : Filling production ca snapshot config clock builder)
    (serial : SerialBytes) :
    snapshot.entryNextUpdate config filling.times.nextUpdateBase serial =
      .ok (snapshot.entryEnd config serial) := by
  obtain ⟨source, base⟩ := generationTimes_eq_ok filling.timesMade
  have whole := filling.times.sourceEnd.toNat_lt
  unfold StatusSnapshot.entryNextUpdate
  rw [source]
  apply congrArg Except.ok
  apply UInt64.toNat_inj.mp
  rw [toNat_minU64, toNat_saturatingAddU64, snapshot.toNat_entryEnd, base, source,
    Option.getD_some]
  omega

theorem Filling.timed_of_prepared (filling : Filling production ca snapshot config clock builder)
    {entry : SerialBytes × CertificateStatus} {prepared : PreparedEntry}
    (made : prepareEntry snapshot config ca.hashes filling.thisUpdate
      filling.times.nextUpdateBase entry = .ok prepared) :
    (∀ single ∈ prepared.singleResponses, Timed snapshot config entry single) ∧
      prepared.singleResponses ≠ [] := by
  obtain ⟨certStatus, serialNumber, next, nextUpdate, _, _, ending, time, _, singles⟩ :=
    prepareEntry_eq_ok.mp made
  rw [filling.entryNextUpdate] at ending
  cases ending
  rw [singles]
  constructor
  · intro single member
    obtain ⟨certId, _, rfl⟩ := List.mem_map.mp member
    exact ⟨filling.thisUpdateMade, nextUpdate, time, rfl⟩
  · intro none
    exact CertIdCompat.certIds_ne_nil _ _ _ (List.map_eq_nil_iff.mp none)

theorem Filling.timed (filling : Filling production ca snapshot config clock builder)
    {single : SingleResponse} (member : single ∈ filling.singles) :
    ∃ entry ∈ snapshot.kept config, Timed snapshot config entry single := by
  obtain ⟨prepared, among, member⟩ := List.mem_flatMap.mp member
  obtain ⟨entry, kept, made⟩ := Except.exists_of_mem_mapM filling.preparedMade among
  exact ⟨entry, kept, (filling.timed_of_prepared made).1 single member⟩

theorem Filling.exists_single (filling : Filling production ca snapshot config clock builder)
    {entry : SerialBytes × CertificateStatus} (kept : entry ∈ snapshot.kept config) :
    ∃ single ∈ filling.singles, Timed snapshot config entry single := by
  obtain ⟨prepared, among, made⟩ :=
    (Except.mapM_eq_ok.mp filling.preparedMade).exists_right kept
  obtain ⟨timed, some⟩ := filling.timed_of_prepared made
  obtain ⟨single, member⟩ := List.exists_mem_of_ne_nil _ some
  exact ⟨single, List.mem_flatMap.mpr ⟨prepared, among, member⟩, timed single member⟩

/-! ### What the window promises -/

/-- A response inside the window and inside the validity of the source. -/
structure InWindow (window : Window) (snapshot : StatusSnapshot) (single : SingleResponse) :
    Prop where
  starts : datetimeToEpoch single.thisUpdate = window.thisUpdateMin
  ends : ∃ next sourceEnd, single.nextUpdate = some next ∧
    snapshot.nextUpdate = some sourceEnd ∧ window.nextUpdateMin ≤ datetimeToEpoch next ∧
      datetimeToEpoch next ≤ window.nextUpdateMax ∧ datetimeToEpoch next ≤ sourceEnd

/-- All responses are covered, and the window ends after its production. -/
structure WindowHolds (window : Window) (snapshot : StatusSnapshot)
    (singles : List SingleResponse) : Prop where
  covered : ∀ single ∈ singles, InWindow window snapshot single
  fresh : window.producedAt < window.nextUpdateMin

/-- No year that shows in a response is cut to one outside the window, and the
clock has not passed the end when the production time is read. -/
structure InCalendar (snapshot : StatusSnapshot) (config : GenerationConfig) (clock : Clock) :
    Prop where
  starts : snapshot.kept config ≠ [] → ¬YearWraps snapshot.thisUpdate
  ends : ∀ entry ∈ snapshot.kept config, ∀ time,
    WrapsTo (snapshot.entryEnd config entry.1) time →
      snapshot.responseEnd config ≤ time.toUnixDuration
  fresh : ∀ reading, clock 4 = .ok reading → reading.toNat < snapshot.responseEnd config

omit [Sha2] [Sha1] [X509Ocsp] in
theorem starts_iff {secs : UInt64} {time : DateTime} (converted : ocspTime secs = .ok time) :
    datetimeToEpoch time = secs ↔ ¬WrapsTo secs time := by
  rw [← UInt64.toNat_inj, toNat_datetimeToEpoch]
  rcases epochToDatetime_eq_ok.mp converted with own | wraps
  · refine ⟨fun _ wraps => ?_, fun _ => own⟩
    have late := wraps.late
    have early := time.toUnixDuration_lt
    omega
  · refine ⟨fun own => ?_, fun stays => absurd wraps stays⟩
    have late := wraps.late
    have early := time.toUnixDuration_lt
    omega

omit [Sha1] [X509Ocsp] in
theorem StatusSnapshot.entryEnd_bounds (snapshot : StatusSnapshot) (config : GenerationConfig)
    (serial : SerialBytes) :
    snapshot.responseEnd config ≤ (snapshot.entryEnd config serial).toNat ∧
      (snapshot.entryEnd config serial).toNat ≤
        min (snapshot.responseEnd config + config.jitterSecs.toNat)
          (snapshot.nextUpdate.getD 0).toNat := by
  have share := toNat_entryKeyJitter_le serial config.jitterSecs
  have inside : snapshot.responseEnd config ≤ (snapshot.nextUpdate.getD 0).toNat :=
    Nat.min_le_right _ _
  rw [snapshot.toNat_entryEnd]
  omega

theorem Filling.inCalendar (filling : Filling production ca snapshot config clock builder)
    (holds : WindowHolds builder.finalManifest.window snapshot filling.singles) :
    InCalendar snapshot config clock := by
  obtain ⟨produced, starting, ending, -⟩ := filling.window
  constructor
  case starts =>
    rintro some ⟨time, wraps⟩
    obtain ⟨entry, kept⟩ := List.exists_mem_of_ne_nil _ some
    obtain ⟨single, member, timed⟩ := filling.exists_single kept
    have starts := (holds.covered single member).starts
    rw [starting, starts_iff timed.starts] at starts
    have converted := epochToDatetime_eq_ok.mpr (Or.inr wraps)
    rw [← Except.ok.inj (timed.starts.symm.trans converted)] at wraps
    exact starts wraps
  case ends =>
    intro entry kept time wraps
    obtain ⟨single, member, timed⟩ := filling.exists_single kept
    obtain ⟨next, converted, stored⟩ := timed.ends
    obtain ⟨shown, _, same, _, low, _⟩ := (holds.covered single member).ends
    rw [stored] at same
    cases same
    have wrapped := epochToDatetime_eq_ok.mpr (Or.inr wraps)
    rw [Except.ok.inj (converted.symm.trans wrapped), UInt64.le_iff_toNat_le, ending,
      toNat_datetimeToEpoch] at low
    exact low
  case fresh =>
    intro reading read
    rw [produced] at read
    cases read
    rw [← ending]
    exact UInt64.lt_iff_toNat_lt.mp holds.fresh

theorem Filling.windowHolds (filling : Filling production ca snapshot config clock builder)
    (calendar : InCalendar snapshot config clock) :
    WindowHolds builder.finalManifest.window snapshot filling.singles := by
  obtain ⟨produced, starting, ending, most⟩ := filling.window
  constructor
  case covered =>
    intro single member
    obtain ⟨entry, kept, timed⟩ := filling.timed member
    obtain ⟨next, converted, stored⟩ := timed.ends
    obtain ⟨low, high⟩ := snapshot.entryEnd_bounds config entry.1
    rw [filling.sourceEnd, Option.getD_some, ← most] at high
    -- A cut year gives an earlier time, so only the lower bound is in question.
    have bounds : snapshot.responseEnd config ≤ next.toUnixDuration ∧
        next.toUnixDuration ≤ (snapshot.entryEnd config entry.1).toNat := by
      rcases epochToDatetime_eq_ok.mp converted with own | wraps
      · rw [own]
        exact ⟨low, Nat.le_refl _⟩
      · refine ⟨calendar.ends entry kept next wraps, ?_⟩
        exact Nat.le_of_lt (Nat.lt_of_lt_of_le next.toUnixDuration_lt wraps.late)
    refine ⟨?_, next, filling.times.sourceEnd, stored, filling.sourceEnd, ?_, ?_, ?_⟩
    · rw [starting, starts_iff timed.starts]
      exact fun wraps => calendar.starts (List.ne_nil_of_mem kept) ⟨_, wraps⟩
    · rw [UInt64.le_iff_toNat_le, ending, toNat_datetimeToEpoch]
      exact bounds.1
    · rw [UInt64.le_iff_toNat_le, toNat_datetimeToEpoch]
      exact Nat.le_trans bounds.2 high
    · rw [UInt64.le_iff_toNat_le, toNat_datetimeToEpoch]
      rw [most] at high
      exact Nat.le_trans bounds.2 (Nat.le_trans high (Nat.min_le_right _ _))
  case fresh =>
    rw [UInt64.lt_iff_toNat_lt, ending]
    exact calendar.fresh _ produced

omit [Sha1] [X509Ocsp] in
theorem InCalendar.of_early {ending : UInt64} (source : snapshot.nextUpdate = some ending)
    (early : ending.toNat < 253402300800) (starts : snapshot.thisUpdate.toNat < 253402300800)
    (fresh : ∀ reading, clock 4 = .ok reading → reading.toNat < snapshot.responseEnd config) :
    InCalendar snapshot config clock where
  starts := by
    rintro - ⟨time, wraps⟩
    exact absurd starts (Nat.not_lt.mpr wraps.late)
  ends := by
    intro entry _ time wraps
    have high := (snapshot.entryEnd_bounds config entry.1).2
    rw [source, Option.getD_some] at high
    have late := wraps.late
    omega
  fresh := fresh

/-- The window of every bundle that is produced bounds its responses and ends
after its production exactly when no year is cut to one outside the window and
the clock has not passed the end. -/
theorem produced_window_iff [Ciborium] {sealFn : Bytes → Except SignError Bytes} {out : Bytes}
    (produced : production.produce ca snapshot config sealFn clock = .ok out) :
    ∃ builder, builder.build (boxedSeal sealFn) = .ok out ∧
      ∃ filling : Filling production ca snapshot config clock builder,
        (WindowHolds builder.finalManifest.window snapshot filling.singles ↔
          InCalendar snapshot config clock) := by
  obtain ⟨builder, filled, built⟩ := Production.produce_eq_ok.mp produced
  obtain ⟨filling⟩ := Production.filling filled
  exact ⟨builder, built, filling, filling.inCalendar, filling.windowHolds⟩

end Windows

/-! ### An end in the year 67506 -/

section Samples

local instance windowSha2 : Sha2 := Crates.sha2
local instance windowSha1 : Sha1 := Crates.sha1
local instance windowCiborium : Ciborium := Crates.ciborium

local instance windowX509Ocsp : X509Ocsp :=
  Crates.x509OcspFor [producedCertId [1], producedCertId [2]]

def endlessSnapshot : StatusSnapshot :=
  { producedSnapshot [[1]] with nextUpdate := some 18446744073709551615 }

def endlessConfig : GenerationConfig :=
  { producedConfig with validitySecs := 2068116363800 }

def endlessOut : Except SignError Bytes :=
  (Production.single producedSigner none).produce producedCa endlessSnapshot endlessConfig
    emptySeal producedClock

theorem productions_computed :
    (producedBy [[1], [2]]).isOk = true ∧ endlessOut.isOk = true ∧
      ([1], CertificateStatus.good) ∈ endlessSnapshot.kept endlessConfig ∧
      endlessSnapshot.entryEnd endlessConfig [1] = 2068116364800 :=
  ⟨by decide +kernel, by decide +kernel, by decide +kernel, by decide +kernel⟩

theorem two_serials_covered :
    ∃ out builder, producedBy [[1], [2]] = .ok out ∧
      ∃ filling : Filling (.single producedSigner none) producedCa (producedSnapshot [[1], [2]])
          producedConfig producedClock builder,
        WindowHolds builder.finalManifest.window (producedSnapshot [[1], [2]])
          filling.singles := by
  obtain ⟨out, produced⟩ := Except.exists_of_isOk productions_computed.1
  obtain ⟨builder, _, filling, holds⟩ := produced_window_iff produced
  refine ⟨out, builder, produced, filling, holds.mpr ?_⟩
  apply InCalendar.of_early rfl (by decide) (by decide)
  rintro reading read
  cases read
  decide

/-- A response that should end in the year 67506 ends at the epoch. -/
theorem endless_response_uncovered :
    ∃ out builder, endlessOut = .ok out ∧ builder.build (boxedSeal emptySeal) = .ok out ∧
      ∃ filling : Filling (.single producedSigner none) producedCa endlessSnapshot
          endlessConfig producedClock builder,
        ¬WindowHolds builder.finalManifest.window endlessSnapshot filling.singles := by
  obtain ⟨_, succeeds, kept, ending⟩ := productions_computed
  obtain ⟨out, produced⟩ := Except.exists_of_isOk succeeds
  obtain ⟨builder, filled, built⟩ := Production.produce_eq_ok.mp produced
  obtain ⟨filling⟩ := Production.filling filled
  refine ⟨out, builder, produced, built, filling, ?_⟩
  intro holds
  have wraps : WrapsTo (endlessSnapshot.entryEnd endlessConfig [1]) startOf1970 := by
    rw [ending]
    exact (epochToDatetime_eq_ok.mp epochToDatetime_67506).resolve_left (by decide)
  have inside := (filling.inCalendar holds).ends _ kept startOf1970 wraps
  exact absurd inside (by decide)

end Samples

end Hoike
