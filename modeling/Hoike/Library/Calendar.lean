/-
Dates of the Gregorian calendar, counted in days from 1970-01-01.
-/

import Mathlib.Init

namespace Calendar

def isLeap (year : Nat) : Bool :=
  year % 4 = 0 && (year % 100 ≠ 0 || year % 400 = 0)

def monthLength (leap : Bool) (month : Nat) : Nat :=
  match month with
  | 2 => if leap then 29 else 28
  | 4 | 6 | 9 | 11 => 30
  | _ => 31

def daysInMonth (year month : Nat) : Nat :=
  monthLength (isLeap year) month

def commonDaysBefore (month : Nat) : Nat :=
  match month with
  | 0 | 1 => 0
  | 2 => 31
  | 3 => 59
  | 4 => 90
  | 5 => 120
  | 6 => 151
  | 7 => 181
  | 8 => 212
  | 9 => 243
  | 10 => 273
  | 11 => 304
  | _ => 334

def daysBeforeMonth (year month : Nat) : Nat :=
  commonDaysBefore month + if isLeap year && 2 < month then 1 else 0

def leapDaysBefore (year : Nat) : Nat :=
  (year - 1) / 4 - (year - 1) / 100 + (year - 1) / 400

/-- There were 477 leap days before 1970. -/
def daysBeforeYear (year : Nat) : Nat :=
  365 * (year - 1970) + (leapDaysBefore year - 477)

/-- A date that exists. -/
structure Date where
  year : Nat
  month : Nat
  day : Nat
  validMonth : 1 ≤ month ∧ month ≤ 12
  validDay : 1 ≤ day ∧ day ≤ daysInMonth year month
deriving DecidableEq

def Date.dayNumber (date : Date) : Nat :=
  daysBeforeYear date.year + daysBeforeMonth date.year date.month + (date.day - 1)

theorem div_eq_pred_div {year period : Nat} (positive : 1 ≤ year) :
    year / period = (year - 1) / period + if year % period = 0 then 1 else 0 := by
  obtain ⟨before, rfl⟩ : ∃ before, year = before + 1 := ⟨year - 1, by omega⟩
  rw [Nat.succ_div, Nat.add_sub_cancel]
  simp only [Nat.dvd_iff_mod_eq_zero]

theorem leapDaysBefore_succ {year : Nat} (positive : 1 ≤ year) :
    leapDaysBefore (year + 1) = leapDaysBefore year + if isLeap year then 1 else 0 := by
  have fewer : (year - 1) / 100 ≤ (year - 1) / 4 := Nat.div_le_div_left (by decide) (by decide)
  have fourOfHundred : year % 100 = 0 → year % 4 = 0 := by omega
  have hundredOfEra : year % 400 = 0 → year % 100 = 0 := by omega
  unfold leapDaysBefore isLeap
  rw [Nat.add_sub_cancel, div_eq_pred_div positive, @div_eq_pred_div year 100 positive,
    @div_eq_pred_div year 400 positive]
  generalize (year - 1) / 4 = a, (year - 1) / 100 = b, (year - 1) / 400 = c at *
  by_cases four : year % 4 = 0
  · by_cases hundred : year % 100 = 0
    · by_cases era : year % 400 = 0
      · simp [four, hundred, era]
        omega
      · simp [four, hundred, era]
    · have noEra : year % 400 ≠ 0 := fun era => hundred (hundredOfEra era)
      simp [four, hundred, noEra]
      omega
  · have noHundred : year % 100 ≠ 0 := fun hundred => four (fourOfHundred hundred)
    have noEra : year % 400 ≠ 0 := fun era => noHundred (hundredOfEra era)
    simp [four, noHundred, noEra]

theorem leapDaysBefore_of_ge {year : Nat} (low : 1970 ≤ year) : 477 ≤ leapDaysBefore year := by
  unfold leapDaysBefore
  omega

/-! ### The order of dates -/

def daysInYear (year : Nat) : Nat :=
  365 + if isLeap year then 1 else 0

theorem daysBeforeYear_succ {year : Nat} (low : 1970 ≤ year) :
    daysBeforeYear (year + 1) = daysBeforeYear year + daysInYear year := by
  have leaps := leapDaysBefore_succ (Nat.le_trans (by decide : 1 ≤ 1970) low)
  have epoch := leapDaysBefore_of_ge low
  unfold daysBeforeYear daysInYear
  rw [leaps]
  omega

theorem daysBeforeYear_mono {earlier later : Nat} (low : 1970 ≤ earlier)
    (order : earlier ≤ later) : daysBeforeYear earlier ≤ daysBeforeYear later := by
  induction order with
  | refl =>
      exact Nat.le_refl _
  | step reached ih =>
      rw [daysBeforeYear_succ (Nat.le_trans low reached)]
      exact Nat.le_trans ih (Nat.le_add_right _ _)

theorem month_ends : ∀ leap : Bool, ∀ month < 13, 1 ≤ month →
    (∀ later < 13, month < later →
      commonDaysBefore month + (if leap && 2 < month then 1 else 0) + monthLength leap month ≤
        commonDaysBefore later + if leap && 2 < later then 1 else 0) ∧
    commonDaysBefore month + (if leap && 2 < month then 1 else 0) + monthLength leap month ≤
      365 + if leap then 1 else 0 := by
  decide

def Date.dayOfYear (date : Date) : Nat :=
  daysBeforeMonth date.year date.month + (date.day - 1)

theorem monthLength_le (leap : Bool) (month : Nat) : monthLength leap month ≤ 31 := by
  unfold monthLength
  split
  · cases leap <;> decide
  all_goals decide

theorem Date.dayOfYear_lt (date : Date) : date.dayOfYear < daysInYear date.year := by
  obtain ⟨low, high⟩ := date.validMonth
  obtain ⟨first, last⟩ := date.validDay
  have ends := (month_ends (isLeap date.year) date.month (Nat.lt_succ_of_le high) low).2
  unfold Date.dayOfYear daysBeforeMonth daysInYear
  unfold daysInMonth at last
  omega

theorem Date.dayNumber_lt {date : Date} (low : 1970 ≤ date.year) :
    date.dayNumber < daysBeforeYear (date.year + 1) := by
  have position := date.dayOfYear_lt
  rw [daysBeforeYear_succ low]
  unfold Date.dayNumber
  unfold Date.dayOfYear at position
  omega

theorem Date.eq_of_dayOfYear {first second : Date} (years : first.year = second.year)
    (days : first.dayOfYear = second.dayOfYear) : first = second := by
  have apart : ∀ earlier later : Date, earlier.year = later.year → earlier.month < later.month →
      earlier.dayOfYear < later.dayOfYear := by
    intro earlier later same order
    obtain ⟨low, _⟩ := earlier.validMonth
    obtain ⟨_, last⟩ := earlier.validDay
    have high := later.validMonth.2
    have ends := (month_ends (isLeap earlier.year) earlier.month (by omega) low).1 later.month
      (by omega) order
    unfold Date.dayOfYear daysBeforeMonth
    rw [← same]
    unfold daysInMonth at last
    omega
  have months : first.month = second.month := by
    rcases Nat.lt_trichotomy first.month second.month with before | same | after
    · exact absurd days (Nat.ne_of_lt (apart first second years before))
    · exact same
    · exact absurd days.symm (Nat.ne_of_lt (apart second first years.symm after))
  have sameDay : first.day = second.day := by
    have positive := first.validDay.1
    have otherPositive := second.validDay.1
    unfold Date.dayOfYear at days
    rw [years, months] at days
    omega
  cases first
  cases second
  cases years
  cases months
  cases sameDay
  rfl

theorem Date.daysBeforeYear_le (date : Date) : daysBeforeYear date.year ≤ date.dayNumber := by
  unfold Date.dayNumber
  rw [Nat.add_assoc]
  exact Nat.le_add_right _ _

theorem Date.year_lt {date : Date} {year : Nat} (low : 1970 ≤ year)
    (before : date.dayNumber < daysBeforeYear year) : date.year < year := by
  apply Nat.lt_of_not_le
  intro later
  have start := daysBeforeYear_mono low later
  exact absurd before (Nat.not_lt.mpr (Nat.le_trans start date.daysBeforeYear_le))

theorem Date.dayNumber_injective {first second : Date} (low : 1970 ≤ first.year)
    (otherLow : 1970 ≤ second.year) (same : first.dayNumber = second.dayNumber) :
    first = second := by
  have apart : ∀ earlier later : Date, 1970 ≤ earlier.year → earlier.year < later.year →
      earlier.dayNumber < later.dayNumber := by
    intro earlier later from1970 order
    calc earlier.dayNumber
        < daysBeforeYear (earlier.year + 1) := Date.dayNumber_lt from1970
      _ ≤ daysBeforeYear later.year :=
          daysBeforeYear_mono (Nat.le_succ_of_le from1970) order
      _ ≤ later.dayNumber := later.daysBeforeYear_le
  have years : first.year = second.year := by
    rcases Nat.lt_trichotomy first.year second.year with before | equal | after
    · exact absurd same (Nat.ne_of_lt (apart first second low before))
    · exact equal
    · exact absurd same.symm (Nat.ne_of_lt (apart second first otherLow after))
  apply Date.eq_of_dayOfYear years
  unfold Date.dayNumber at same
  unfold Date.dayOfYear
  rw [years] at same ⊢
  omega

/-! ### Days of the week -/

inductive Weekday where
  | monday
  | tuesday
  | wednesday
  | thursday
  | friday
  | saturday
  | sunday
deriving DecidableEq

def Weekday.next : Weekday → Weekday
  | monday => tuesday
  | tuesday => wednesday
  | wednesday => thursday
  | thursday => friday
  | friday => saturday
  | saturday => sunday
  | sunday => monday

/-- The first of January 1970 was a Thursday. -/
def weekdayOf : Nat → Weekday
  | 0 => .thursday
  | days + 1 => (weekdayOf days).next

theorem weekdayOf_add_seven (days : Nat) : weekdayOf (days + 7) = weekdayOf days := by
  change (weekdayOf days).next.next.next.next.next.next.next = weekdayOf days
  cases weekdayOf days <;> rfl

theorem weekdayOf_mod_seven (days : Nat) : weekdayOf (days % 7) = weekdayOf days := by
  induction days using Nat.strongRecOn with
  | ind days ih =>
      rcases Nat.lt_or_ge days 7 with small | large
      · rw [Nat.mod_eq_of_lt small]
      · obtain ⟨earlier, rfl⟩ := Nat.exists_eq_add_of_le' large
        rw [Nat.add_mod_right, ih earlier (by omega), weekdayOf_add_seven]

end Calendar
