/-
Which digits are taken as a `GeneralizedTime` (`dogtag_sync.rs`).

The fields of a time are checked one by one: any month has up to 31 days and
any minute up to 61 seconds.  What is past the end of a month or a minute is
counted on into the next one, so the instant that is stored belongs to a time
other than the one in the text.
-/

import Hoike.Ocsp.EpochTime
import Hoike.Sign.DogtagEntry

namespace Hoike

open Ocsp
open Calendar (Date daysInMonth)

/-! ### Years before the epoch -/

theorem daysFromCivil_neg {year month day : Nat} (before : year < 1970) (low : 1 ≤ month)
    (high : month ≤ 12) (days : day ≤ 31) : daysFromCivil year month day < 0 := by
  have months : (month : Int) ≤ 2 ∧ ¬(2 : Int) < month ∨ ¬(month : Int) ≤ 2 ∧ (2 : Int) < month := by
    omega
  -- the era is the floor of the year over 400
  have era : ∀ y : Int, -1 ≤ y → (if 0 ≤ y then y else y - 399).tdiv 400 = y / 400 := by
    intro y first
    split
    next positive =>
      exact Int.tdiv_eq_ediv_of_nonneg positive
    next negative =>
      have only : y = -1 := by omega
      subst only
      decide
  unfold daysFromCivil
  rcases months with ⟨january, notLate⟩ | ⟨notEarly, march⟩
  · simp only [january, if_true, notLate, if_false]
    rw [era _ (by omega)]
    omega
  · simp only [notEarly, if_false, march, if_true]
    rw [era _ (by omega)]
    omega

/-! ### Accepted digits -/

theorem exists_civilDigits {digits : List Char} (fourteen : digits.length = 14)
    (decimal : ∀ character ∈ digits, character.isDigit = true) :
    ∃ year month day hour minute second,
      CivilDigits digits year month day hour minute second ∧ year < 10 ^ 4 ∧
        ∀ time : DateTime, time.date.year = year → time.date.month = month →
          time.date.day = day → time.hour = hour → time.minutes = minute →
            time.seconds = second → time.stamp = digits := by
  obtain ⟨year, years, rest, rfl, size, decimal⟩ :=
    Decimal.exists_padded_append 4 10 decimal fourteen
  obtain ⟨month, months, rest, rfl, size, decimal⟩ :=
    Decimal.exists_padded_append 2 8 decimal size
  obtain ⟨day, days, rest, rfl, size, decimal⟩ :=
    Decimal.exists_padded_append 2 6 decimal size
  obtain ⟨hour, hours, rest, rfl, size, decimal⟩ :=
    Decimal.exists_padded_append 2 4 decimal size
  obtain ⟨minute, minutes, rest, rfl, size, decimal⟩ :=
    Decimal.exists_padded_append 2 2 decimal size
  obtain ⟨second, seconds, rest, rfl, size, decimal⟩ :=
    Decimal.exists_padded_append 2 0 decimal size
  obtain rfl := List.eq_nil_of_length_eq_zero size
  refine ⟨year, month, day, hour, minute, second,
    CivilDigits.of_padded years months days hours minutes seconds, years, ?_⟩
  rintro time rfl rfl rfl rfl rfl rfl
  rfl

theorem CivilDigits.unique {digits : List Char}
    {year month day hour minute second year' month' day' hour' minute' second' : Nat}
    (first : CivilDigits digits year month day hour minute second)
    (other : CivilDigits digits year' month' day' hour' minute' second') :
    year = year' ∧ month = month' ∧ day = day' ∧ hour = hour' ∧ minute = minute' ∧
      second = second' := by
  have years := first.year_eq.symm.trans other.year_eq
  have months := first.month_eq.symm.trans other.month_eq
  have days := first.day_eq.symm.trans other.day_eq
  have hours := first.hour_eq.symm.trans other.hour_eq
  have minutes := first.minute_eq.symm.trans other.minute_eq
  have seconds := first.second_eq.symm.trans other.second_eq
  omega

theorem civilSeconds_eq_some {digits : List Char} {secs : UInt64}
    {year month day hour minute second : Nat}
    (fields : CivilDigits digits year month day hour minute second)
    (accepted : civilSeconds digits = some secs) :
    (1 ≤ month ∧ month ≤ 12) ∧ (1 ≤ day ∧ day ≤ 31) ∧ hour ≤ 23 ∧ minute ≤ 59 ∧
      second ≤ 60 ∧ (secs.toNat : Int) =
        daysFromCivil year month day * 86400 + hour * 3600 + minute * 60 + second := by
  obtain ⟨year_eq, month_eq, day_eq, hour_eq, minute_eq, second_eq⟩ := fields
  unfold civilSeconds at accepted
  simp only [year_eq, month_eq, day_eq, hour_eq, minute_eq, second_eq] at accepted
  split at accepted
  next => cases accepted
  next inRange =>
    split at accepted
    next positive =>
      cases accepted
      have small : UInt64.size = 18446744073709551616 := rfl
      rw [UInt64.toNat_ofNat_of_lt' (by omega)]
      omega
    next => cases accepted

/-- The day exists in its month, and the minute has no 61st second. -/
def RealTime (digits : List Char) : Prop :=
  digitsBetween digits 6 8 ≤
      daysInMonth (digitsBetween digits 0 4).toNat (digitsBetween digits 4 6).toNat ∧
    digitsBetween digits 12 14 ≤ 59

instance (digits : List Char) : Decidable (RealTime digits) :=
  inferInstanceAs (Decidable (_ ∧ _))

theorem realTime_iff {digits : List Char} {year month day hour minute second : Nat}
    (fields : CivilDigits digits year month day hour minute second) :
    RealTime digits ↔ day ≤ daysInMonth year month ∧ second ≤ 59 := by
  unfold RealTime
  rw [fields.day_eq, fields.year_eq, fields.month_eq, fields.second_eq, Int.toNat_natCast,
    Int.toNat_natCast]
  omega

/-- Fourteen digits that are accepted render back from their instant exactly
when they are the digits of an existing time. -/
theorem accepted_digits_render_iff (digits suffix : List Char) (secs : UInt64)
    (fourteen : digits.length = 14)
    (decimal : ∀ character ∈ digits, character.isDigit = true) (zone : suffix ∈ zoneSuffixes)
    (accepted : parseGeneralizedTime (String.ofList (digits ++ suffix)) = some secs) :
    (∃ time, epochToDatetime secs = .ok time ∧ time.stamp = digits) ↔ RealTime digits := by
  rw [parseGeneralizedTime_digits fourteen decimal zone] at accepted
  obtain ⟨year, month, day, hour, minute, second, fields, years, rendered⟩ :=
    exists_civilDigits fourteen decimal
  obtain ⟨months, days, hours, minutes, seconds, total⟩ := civilSeconds_eq_some fields accepted
  rw [realTime_iff fields]
  constructor
  · rintro ⟨time, -, stamp⟩
    have same := time.civilDigits
    rw [stamp] at same
    obtain ⟨rfl, rfl, rfl, -, -, rfl⟩ := fields.unique same
    exact ⟨time.date.validDay.2, time.validTime.2.2⟩
  · rintro ⟨lastDay, lastSecond⟩
    have from1970 : 1970 ≤ year := by
      apply Nat.le_of_not_lt
      intro before
      have negative := daysFromCivil_neg before months.1 months.2 days.2
      omega
    let date : Date := ⟨year, month, day, months, ⟨days.1, lastDay⟩⟩
    let time : DateTime :=
      ⟨date, hour, minute, second, ⟨from1970, Nat.le_of_lt_succ years⟩,
        ⟨hours, minutes, lastSecond⟩⟩
    have number : daysFromCivil year month day = date.dayNumber :=
      @daysFromCivil_eq date from1970
    have instant : time.epoch = secs := by
      apply UInt64.toNat_inj.mp
      rw [time.toNat_epoch]
      change date.dayNumber * 86400 + hour * 3600 + minute * 60 + second = secs.toNat
      rw [number] at total
      omega
    refine ⟨time, ?_, rendered time rfl rfl rfl rfl rfl rfl⟩
    rw [← instant]
    exact ocspTime_epoch time

/-- The last of February in a leap year, at noon. -/
theorem leap_day_renders :
    parseGeneralizedTime "20240229120000Z" = some 1709208000 ∧
      ∃ time, epochToDatetime 1709208000 = .ok time ∧
        time.stamp = "20240229120000".toList := by
  have accepted : parseGeneralizedTime "20240229120000Z" = some 1709208000 := by decide
  refine ⟨accepted, ?_⟩
  exact (accepted_digits_render_iff "20240229120000".toList ['Z'] 1709208000 (by decide)
    (List.all_eq_true.mp (by decide)) (by decide) accepted).mpr (by decide)

def secondOfMarch : DateTime :=
  { startOf1970 with
    date := { year := 2023, month := 3, day := 2, validMonth := by decide, validDay := by decide }
    validYear := by decide }

/-- The 30th of February is taken for the second of March. -/
theorem february_30_accepted :
    parseGeneralizedTime "20230230000000Z" = some 1677715200 ∧
      epochToDatetime 1677715200 = .ok secondOfMarch ∧
        secondOfMarch.stamp = "20230302000000".toList ∧
          secondOfMarch.stamp ≠ "20230230000000".toList := by
  have instant : secondOfMarch.epoch = 1677715200 := by decide
  refine ⟨by decide, ?_, by decide, by decide⟩
  rw [← instant]
  exact ocspTime_epoch secondOfMarch

end Hoike
