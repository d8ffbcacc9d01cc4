/-
Epoch seconds and calendar dates over all of `u64` (`generate.rs`).

`datetime_to_epoch` counts days year by year and month by month, where
`epoch_to_datetime` divides.  The two are inverse before the year 10000.  Later
instants are refused, unless the cast of the year to 16 bits moves the date
back into the accepted years.
-/

import Hoike.Ocsp.Time

namespace Hoike.Ocsp

open Calendar (Date isLeap daysBeforeMonth daysBeforeYear commonDaysBefore)

/-! ### Counting the days of a date -/

def mdays : List Nat :=
  [0, 31, 28, 31, 30, 31, 30, 31, 31, 30, 31, 30, 31]

def yearLoop (year : Nat) : Nat :=
  (List.range' 1970 (year - 1970)).foldl
    (fun days y => days + if isLeap y then 366 else 365) 0

def monthLoop (year month days : Nat) : Nat :=
  (List.range' 1 (month - 1)).foldl
    (fun days m =>
      let days := days + mdays.getD m 0
      if m = 2 ∧ isLeap year then days + 1 else days)
    days

def datetimeToEpoch (dt : DateTime) : UInt64 :=
  let days := yearLoop dt.date.year
  let days := monthLoop dt.date.year dt.date.month days
  let days := days + (dt.date.day - 1)
  UInt64.ofNat (days * 86400 + dt.hour * 3600 + dt.minutes * 60 + dt.seconds)

theorem yearLoop_eq {year : Nat} (low : 1970 ≤ year) : yearLoop year = daysBeforeYear year := by
  obtain ⟨count, rfl⟩ := Nat.exists_eq_add_of_le low
  unfold yearLoop
  rw [Nat.add_sub_cancel_left]
  clear low
  induction count with
  | zero =>
      rfl
  | succ count ih =>
      rw [List.range'_1_concat, List.foldl_append, ih, ← Nat.add_assoc,
        Calendar.daysBeforeYear_succ (Nat.le_add_right 1970 count), List.foldl_cons,
        List.foldl_nil]
      unfold Calendar.daysInYear
      cases isLeap (1970 + count) <;> rfl

theorem commonDaysBefore_succ : ∀ month < 12, 1 ≤ month →
    commonDaysBefore (month + 1) = commonDaysBefore month + mdays.getD month 0 := by
  decide

theorem daysBeforeMonth_succ (year : Nat) {month : Nat} (low : 1 ≤ month) (high : month < 12) :
    daysBeforeMonth year (month + 1) = daysBeforeMonth year month + mdays.getD month 0 +
      if month = 2 ∧ isLeap year then 1 else 0 := by
  unfold daysBeforeMonth
  rw [commonDaysBefore_succ month high low]
  cases leap : isLeap year with
  | false =>
      simp
  | true =>
      rcases Nat.lt_trichotomy month 2 with early | february | late
      · simp [show ¬2 < month by omega, show ¬2 < month + 1 by omega, show month ≠ 2 by omega]
      · simp [february]
      · simp [late, show 2 < month + 1 by omega, show month ≠ 2 by omega]
        omega

theorem monthLoop_eq (year days : Nat) {month : Nat} (low : 1 ≤ month) (high : month ≤ 12) :
    monthLoop year month days = days + daysBeforeMonth year month := by
  obtain ⟨count, rfl⟩ := Nat.exists_eq_add_of_le low
  unfold monthLoop
  rw [Nat.add_sub_cancel_left]
  clear low
  induction count with
  | zero =>
      simp [daysBeforeMonth, commonDaysBefore]
  | succ count ih =>
      rw [List.range'_1_concat, List.foldl_append, ih (Nat.le_of_succ_le high), ← Nat.add_assoc,
        daysBeforeMonth_succ year (Nat.le_add_right 1 count) high, List.foldl_cons,
        List.foldl_nil]
      dsimp only
      split <;> omega

theorem datetimeToEpoch_eq (dt : DateTime) : datetimeToEpoch dt = dt.epoch := by
  unfold datetimeToEpoch DateTime.epoch DateTime.toUnixDuration Date.dayNumber
  dsimp only
  rw [yearLoop_eq dt.validYear.1, monthLoop_eq _ _ dt.date.validMonth.1 dt.date.validMonth.2]

theorem toNat_datetimeToEpoch (dt : DateTime) :
    (datetimeToEpoch dt).toNat = dt.toUnixDuration := by
  rw [datetimeToEpoch_eq, DateTime.toNat_epoch]

/-! ### The fields of an instant -/

theorem DateTime.dayNumber_eq (time : DateTime) :
    time.toUnixDuration / 86400 = time.date.dayNumber := by
  have clock := time.validTime
  unfold DateTime.toUnixDuration
  omega

theorem DateTime.daysToYmd_eq (time : DateTime) :
    daysToYmd (time.toUnixDuration / 86400) =
      (time.date.year, time.date.month, time.date.day) := by
  obtain ⟨date, conversion, low, number⟩ := daysToYmd_spec (time.toUnixDuration / 86400)
  rw [time.dayNumber_eq] at number
  rw [conversion, Date.dayNumber_injective low time.validYear.1 number]

theorem DateTime.clock_eq (time : DateTime) :
    time.toUnixDuration % 86400 / 3600 = time.hour ∧
      time.toUnixDuration % 86400 % 3600 / 60 = time.minutes ∧
        time.toUnixDuration % 86400 % 60 = time.seconds := by
  have clock := time.validTime
  unfold DateTime.toUnixDuration
  omega

/-! ### There and back -/

/-- The date of the instant lies behind the year 65535, and with its year cut to
16 bits it is this time. -/
def WrapsTo (secs : UInt64) (time : DateTime) : Prop :=
  ∃ date : Date, date.dayNumber = secs.toNat / 86400 ∧ 65536 ≤ date.year ∧
    time.date.year = date.year % 65536 ∧ time.date.month = date.month ∧
      time.date.day = date.day ∧ time.hour = secs.toNat % 86400 / 3600 ∧
        time.minutes = secs.toNat % 86400 % 3600 / 60 ∧
          time.seconds = secs.toNat % 86400 % 60

def YearWraps (secs : UInt64) : Prop :=
  ∃ time, WrapsTo secs time

theorem WrapsTo.late {secs : UInt64} {time : DateTime} (wraps : WrapsTo secs time) :
    253402300800 ≤ secs.toNat := by
  obtain ⟨date, number, late, -⟩ := wraps
  have start : daysBeforeYear 10000 ≤ date.dayNumber :=
    Nat.le_trans (Calendar.daysBeforeYear_mono (by decide) (Nat.le_trans (by decide) late))
      date.daysBeforeYear_le
  rw [daysBeforeYear_10000, number] at start
  omega

theorem epochToDatetime_eq_ok {secs : UInt64} {time : DateTime} :
    epochToDatetime secs = .ok time ↔
      time.toUnixDuration = secs.toNat ∨ WrapsTo secs time := by
  constructor
  · intro converted
    obtain ⟨date, low, number, conversion⟩ := epochToDatetime_spec secs
    rw [conversion, DateTime.new_eq_ok] at converted
    obtain ⟨year, month, day, hour, minutes, seconds⟩ := converted
    rcases Nat.lt_or_ge date.year 65536 with early | late
    · left
      rw [Nat.mod_eq_of_lt early] at year
      have same : time.date = date := by
        apply Date.eq_of_dayOfYear year
        unfold Date.dayOfYear
        rw [year, month, day]
      rw [← same] at number
      exact DateTime.toUnixDuration_of_clock number hour minutes seconds
    · right
      exact ⟨date, number, late, year, month, day, hour, minutes, seconds⟩
  · rintro (own | wraps)
    · have early : secs.toNat < 253402300800 := by
        rw [← own]
        exact time.toUnixDuration_lt
      obtain ⟨other, converted, instant⟩ := ocspTime_spec early
      rw [← DateTime.eq_of_toUnixDuration (instant.trans own.symm)]
      exact converted
    · obtain ⟨date, number, late, fields⟩ := wraps
      obtain ⟨found, low, foundNumber, conversion⟩ := epochToDatetime_spec secs
      have same : found = date :=
        Date.dayNumber_injective low (Nat.le_trans (by decide) late)
          (foundNumber.trans number.symm)
      rw [conversion, DateTime.new_eq_ok, same]
      exact fields

theorem epoch_ocspTime_le {secs : UInt64} {time : DateTime} (converted : ocspTime secs = .ok time) :
    time.epoch ≤ secs := by
  rw [UInt64.le_iff_toNat_le, DateTime.toNat_epoch]
  rcases epochToDatetime_eq_ok.mp converted with own | wraps
  · exact Nat.le_of_eq own
  · exact Nat.le_trans (Nat.le_of_lt time.toUnixDuration_lt) wraps.late

/-- Converting an instant to a date and back gives the instant or fails, and
before the year 10000 it does not fail.  This is so except for the instants
whose year wraps. -/
theorem epoch_roundtrip_iff (secs : UInt64) :
    (∀ time, epochToDatetime secs = .ok time → datetimeToEpoch time = secs) ∧
        (secs.toNat < 86400 * daysBeforeYear 10000 →
          ∃ time, epochToDatetime secs = .ok time) ↔
      ¬YearWraps secs := by
  rw [daysBeforeYear_10000]
  constructor
  · rintro ⟨inverse, -⟩ ⟨time, wraps⟩
    have instant := toNat_datetimeToEpoch time
    rw [inverse time (epochToDatetime_eq_ok.mpr (Or.inr wraps))] at instant
    exact absurd (instant ▸ time.toUnixDuration_lt) (Nat.not_lt.mpr wraps.late)
  · intro stays
    constructor
    · intro time converted
      apply UInt64.toNat_inj.mp
      rw [toNat_datetimeToEpoch]
      rcases epochToDatetime_eq_ok.mp converted with own | wraps
      · exact own
      · exact absurd ⟨time, wraps⟩ stays
    · intro early
      obtain ⟨time, converted, -⟩ := ocspTime_spec early
      exact ⟨time, converted⟩

theorem epochToDatetime_67506 : epochToDatetime 2068116364800 = .ok startOf1970 := by
  have conversion : daysToYmd (UInt64.toNat 2068116364800 / 86400) = (67506, 1, 1) := by
    decide +kernel
  simp only [epochToDatetime, conversion]
  rw [DateTime.new_eq_ok]
  decide +kernel

/-- The first second of the year 67506 is taken for the epoch itself. -/
theorem year_67506_wraps :
    2068116364800 = 86400 * daysBeforeYear 67506 ∧
      epochToDatetime 2068116364800 = .ok startOf1970 ∧ datetimeToEpoch startOf1970 = 0 :=
  ⟨by decide, epochToDatetime_67506, by decide⟩

end Hoike.Ocsp
