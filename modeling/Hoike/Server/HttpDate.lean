/-
Dates in HTTP headers (`handlers.rs`).

The handlers print `Last-Modified` and `Expires` with a conversion of their
own.  It gives the dates that the signer writes into responses and that the
Dogtag source reads from its directory.
-/

import Hoike.Ocsp.EpochTime
import Hoike.Sign.DogtagEntry

namespace Hoike

open Ocsp
open Calendar (Weekday weekdayOf daysBeforeYear)

def twoDigits (value : Nat) : String :=
  if value < 10 then s!"0{value}" else s!"{value}"

def weekdayNames : List String :=
  ["Thu", "Fri", "Sat", "Sun", "Mon", "Tue", "Wed"]

def monthNames : List String :=
  ["Jan", "Feb", "Mar", "Apr", "May", "Jun", "Jul", "Aug", "Sep", "Oct", "Nov", "Dec"]

namespace Handlers

/-- The handlers' own copy of the conversion of days. -/
def daysToYmd (days : Nat) : Nat × Nat × Nat :=
  Ocsp.daysToYmd days

/-- A `SystemTime` is given by the nanoseconds since the epoch.  Times before
the epoch are refused, and parts of a second are dropped. -/
def httpdateFormat (time : Int) : Except Unit String :=
  if time < 0 then .error ()
  else
    let secs := time.toNat / 1000000000
    let days := secs / 86400
    let timeOfDay := secs % 86400
    let hours := timeOfDay / 3600
    let minutes := timeOfDay % 3600 / 60
    let seconds := timeOfDay % 60
    let weekday := weekdayNames.getD (days % 7) ""
    let (year, month, day) := daysToYmd days
    let monthName := monthNames.getD (month - 1) ""
    .ok (s!"{weekday}, {twoDigits day} {monthName} {year} " ++
      s!"{twoDigits hours}:{twoDigits minutes}:{twoDigits seconds} GMT")

end Handlers

/-! ### The date that is printed -/

def Weekday.abbreviation : Weekday → String
  | .monday => "Mon"
  | .tuesday => "Tue"
  | .wednesday => "Wed"
  | .thursday => "Thu"
  | .friday => "Fri"
  | .saturday => "Sat"
  | .sunday => "Sun"

def httpDate (weekday : Weekday) (time : DateTime) : String :=
  let monthName := monthNames.getD (time.date.month - 1) ""
  s!"{Weekday.abbreviation weekday}, {twoDigits time.date.day} {monthName} {time.date.year} " ++
    s!"{twoDigits time.hour}:{twoDigits time.minutes}:{twoDigits time.seconds} GMT"

theorem weekdayNames_eq (days : Nat) :
    weekdayNames.getD (days % 7) "" = Weekday.abbreviation (weekdayOf days) := by
  have table : ∀ day < 7, weekdayNames.getD day "" = Weekday.abbreviation (weekdayOf day) := by
    decide
  rw [table _ (Nat.mod_lt days (by decide)), Calendar.weekdayOf_mod_seven]

theorem httpdateFormat_eq (time : DateTime) {instant : Int} (positive : 0 ≤ instant)
    (second : instant.toNat / 1000000000 = time.toUnixDuration) :
    Handlers.httpdateFormat instant =
      .ok (httpDate (weekdayOf (time.toUnixDuration / 86400)) time) := by
  obtain ⟨hour, minutes, seconds⟩ := time.clock_eq
  unfold Handlers.httpdateFormat
  rw [if_neg (Int.not_lt.mpr positive), second]
  simp only [Handlers.daysToYmd, time.daysToYmd_eq, weekdayNames_eq, hour, minutes, seconds]
  rfl

example : Handlers.httpdateFormat (784111777 * 1000000000) =
    .ok "Sun, 06 Nov 1994 08:49:37 GMT" := by
  decide +kernel

/-- From 1970 to the end of 9999 the date of an instant is read back from the
directory's format and is the one printed in the headers, on the right day of
the week. -/
theorem calendar_routines_agree (secs : UInt64)
    (early : secs.toNat < 86400 * daysBeforeYear 10000) :
    ∃ time, epochToDatetime secs = .ok time ∧
      (∀ suffix ∈ zoneSuffixes,
        parseGeneralizedTime (String.ofList (time.stamp ++ suffix)) = some secs) ∧
      ∀ nanos < 1000000000,
        Handlers.httpdateFormat (secs.toNat * 1000000000 + nanos : Nat) =
          .ok (httpDate (weekdayOf (secs.toNat / 86400)) time) := by
  rw [daysBeforeYear_10000] at early
  obtain ⟨time, converted, instant⟩ := ocspTime_spec early
  have epoch := epoch_of_ocspTime early converted
  refine ⟨time, converted, ?_, ?_⟩
  · intro suffix zone
    rw [parseGeneralizedTime_stamp time zone, epoch]
  · intro nanos fraction
    rw [← instant]
    apply httpdateFormat_eq time (Int.natCast_nonneg _)
    rw [Int.toNat_natCast]
    omega

/-- Noon of the 29th of February 2024, a Thursday. -/
theorem leap_day_agrees :
    ∃ time, epochToDatetime 1709208000 = .ok time ∧
      parseGeneralizedTime (String.ofList (time.stamp ++ ['Z'])) = some 1709208000 ∧
        Handlers.httpdateFormat (1709208000 * 1000000000) = .ok (httpDate .thursday time) := by
  obtain ⟨time, converted, read, printed⟩ := calendar_routines_agree 1709208000 (by decide)
  refine ⟨time, converted, read ['Z'] (by decide), ?_⟩
  have day : weekdayOf (UInt64.toNat 1709208000 / 86400) = .thursday := by
    rw [← Calendar.weekdayOf_mod_seven]
    decide
  rw [← day]
  exact printed 0 (by decide)

end Hoike
