/-
Times of OCSP messages (`generate.rs`).

The `der` crate accepts the existing dates of the years 1970 to 9999.  The
conversion from epoch seconds is the one of the source, with its cast of the
year to 16 bits.
-/

import Hoike.Library.Calendar
import Hoike.Ahu.Error

namespace Hoike

/-- `SignError`. -/
inductive SignError where
  | der (detail : String)
  | ocspBuilder (detail : String)
  | signing (detail : String)
  | keyLoad (detail : String)
  | bundle (error : Ahu.AhuError)
  | sealing (detail : String)
  | verify (detail : String)
  | config (detail : String)

def SignError.display : SignError → String
  | der detail => s!"DER encoding error: {detail}"
  | ocspBuilder detail => s!"OCSP builder error: {detail}"
  | signing detail => s!"signing error: {detail}"
  | keyLoad detail => s!"key loading error: {detail}"
  | bundle error => s!"bundle build error: {error.display}"
  | sealing detail => s!"CMS seal error: {detail}"
  | verify detail => s!"verification error: {detail}"
  | config detail => s!"configuration error: {detail}"

namespace Ocsp

open Calendar (Date)

/-- `der::DateTime`. -/
structure DateTime where
  date : Date
  hour : Nat
  minutes : Nat
  seconds : Nat
  validYear : 1970 ≤ date.year ∧ date.year ≤ 9999
  validTime : hour ≤ 23 ∧ minutes ≤ 59 ∧ seconds ≤ 59
deriving DecidableEq

def startOf1970 : DateTime :=
  { date := { year := 1970, month := 1, day := 1, validMonth := by decide, validDay := by decide }
    hour := 0
    minutes := 0
    seconds := 0
    validYear := by decide
    validTime := by decide }

def DateTime.new (year month day hour minutes seconds : Nat) : Except SignError DateTime :=
  if validMonth : 1 ≤ month ∧ month ≤ 12 then
    if validDay : 1 ≤ day ∧ day ≤ Calendar.daysInMonth year month then
      if validYear : 1970 ≤ year ∧ year ≤ 9999 then
        if validTime : hour ≤ 23 ∧ minutes ≤ 59 ∧ seconds ≤ 59 then
          .ok
            { date :=
                { year := year
                  month := month
                  day := day
                  validMonth := validMonth
                  validDay := validDay }
              hour := hour
              minutes := minutes
              seconds := seconds
              validYear := validYear
              validTime := validTime }
        else .error (.der "date/time error")
      else .error (.der "date/time error")
    else .error (.der "date/time error")
  else .error (.der "date/time error")

theorem DateTime.new_eq_ok {year month day hour minutes seconds : Nat} {time : DateTime} :
    DateTime.new year month day hour minutes seconds = .ok time ↔
      time.date.year = year ∧ time.date.month = month ∧ time.date.day = day ∧
        time.hour = hour ∧ time.minutes = minutes ∧ time.seconds = seconds := by
  unfold DateTime.new
  constructor
  · intro made
    split at made
    · split at made
      · split at made
        · split at made
          · cases made
            exact ⟨rfl, rfl, rfl, rfl, rfl, rfl⟩
          · cases made
        · cases made
      · cases made
    · cases made
  · rintro ⟨rfl, rfl, rfl, rfl, rfl, rfl⟩
    rw [dif_pos time.date.validMonth, dif_pos time.date.validDay, dif_pos time.validYear,
      dif_pos time.validTime]

def DateTime.toUnixDuration (time : DateTime) : Nat :=
  time.date.dayNumber * 86400 + time.hour * 3600 + time.minutes * 60 + time.seconds

/-- Year, month and day of a day number.  The years run from March. -/
def daysToYmd (days : Nat) : Nat × Nat × Nat :=
  let z := days + 719468
  let era := z / 146097
  let doe := z - era * 146097
  let yoe := (doe - doe / 1460 + doe / 36524 - doe / 146096) / 365
  let y := yoe + era * 400
  let doy := doe - (365 * yoe + yoe / 4 - yoe / 100)
  let mp := (5 * doy + 2) / 153
  let d := doy - (153 * mp + 2) / 5 + 1
  let m := if mp < 10 then mp + 3 else mp - 9
  (if m ≤ 2 then y + 1 else y, m, d)

/-- The year is cut to 16 bits before the date is checked. -/
def epochToDatetime (secs : UInt64) : Except SignError DateTime :=
  let days := secs.toNat / 86400
  let timeOfDay := secs.toNat % 86400
  let (year, month, day) := daysToYmd days
  DateTime.new (year % 65536) (month % 256) (day % 256) (timeOfDay / 3600)
    (timeOfDay % 3600 / 60) (timeOfDay % 60)

def ocspTime (epochSecs : UInt64) : Except SignError DateTime :=
  epochToDatetime epochSecs

/-! ### The conversion of days -/

open Calendar (isLeap monthLength daysInMonth commonDaysBefore daysBeforeMonth daysBeforeYear
  leapDaysBefore)

/-- A day of an era of 400 years, by century, leap cycle and year.  The last
day of a leap year is the only one with number 365. -/
theorem eraDay_split {doe : Nat} (bound : doe < 146097) :
    ∃ c q t doy, c ≤ 3 ∧ q ≤ 24 ∧ t ≤ 3 ∧ doy ≤ 365 ∧
      doe = 36524 * c + 1461 * q + 365 * t + doy ∧
      (doy = 365 → t = 3 ∧ (q = 24 → c = 3)) := by
  have century : ∃ c r, c ≤ 3 ∧ doe = 36524 * c + r ∧ r ≤ 36524 ∧ (r = 36524 → c = 3) := by
    refine ⟨min (doe / 36524) 3, doe - 36524 * min (doe / 36524) 3, ?_⟩
    omega
  obtain ⟨c, r, cBound, doeEq, rBound, rLast⟩ := century
  have cycle : ∃ q s, q ≤ 24 ∧ r = 1461 * q + s ∧ s ≤ 1460 ∧ (s = 1460 → q = 24 → c = 3) := by
    refine ⟨min (r / 1461) 24, r - 1461 * min (r / 1461) 24, ?_⟩
    omega
  obtain ⟨q, s, qBound, rEq, sBound, sLast⟩ := cycle
  refine ⟨c, q, min (s / 365) 3, s - 365 * min (s / 365) 3, cBound, qBound, ?_⟩
  omega

theorem yearOfEra_eq {c q t doy doe : Nat} (cBound : c ≤ 3) (qBound : q ≤ 24) (tBound : t ≤ 3)
    (doyBound : doy ≤ 365) (last : doy = 365 → t = 3 ∧ (q = 24 → c = 3))
    (split : doe = 36524 * c + 1461 * q + 365 * t + doy) :
    (doe - doe / 1460 + doe / 36524 - doe / 146096) / 365 = 100 * c + 4 * q + t := by
  have carry : ∃ k, k ≤ 1 ∧ doe / 1460 = 25 * c + q + k ∧ k ≤ doy ∧ doy ≤ 364 + k := by
    refine ⟨(24 * c + q + 365 * t + doy) / 1460, ?_⟩
    omega
  obtain ⟨k, kBound, quads, low, high⟩ := carry
  by_cases final : doe = 146096
  · omega
  · have rest : 1461 * q + 365 * t + doy ≤ 36523 := by omega
    have centuries : doe / 36524 = c := by omega
    have eras : doe / 146096 = 0 := by omega
    omega

def marchMonth (mp : Nat) : Nat :=
  if mp < 10 then mp + 3 else mp - 9

theorem marchMonth_spec : ∀ mp < 12, (1 ≤ marchMonth mp ∧ marchMonth mp ≤ 12) ∧
    commonDaysBefore (marchMonth mp) + (if marchMonth mp ≤ 2 then 306 else 0) =
      (153 * mp + 2) / 5 + (if marchMonth mp ≤ 2 then 0 else 59) ∧
    (mp < 11 → ∀ leap : Bool,
      monthLength leap (marchMonth mp) = (153 * mp + 155) / 5 - (153 * mp + 2) / 5) := by
  decide

theorem marchDay_valid {year doy : Nat} (bound : doy ≤ 365)
    (last : doy = 365 → isLeap (year + 1) = true) :
    let mp := (5 * doy + 2) / 153
    let month := marchMonth mp
    let day := doy - (153 * mp + 2) / 5 + 1
    (1 ≤ month ∧ month ≤ 12) ∧
      1 ≤ day ∧ day ≤ daysInMonth (if month ≤ 2 then year + 1 else year) month := by
  intro mp month day
  have mpBound : mp < 12 := by omega
  obtain ⟨monthBounds, -, lengths⟩ := marchMonth_spec mp mpBound
  refine ⟨monthBounds, Nat.le_add_left 1 _, ?_⟩
  by_cases february : mp = 11
  · have monthEq : month = 2 := by
      change marchMonth mp = 2
      rw [february]
      rfl
    rw [monthEq]
    change doy - (153 * mp + 2) / 5 + 1 ≤ if isLeap (year + 1) then 29 else 28
    rw [february]
    cases leap : isLeap (year + 1) with
    | false =>
        have shorter : doy ≠ 365 := by
          intro same
          rw [last same] at leap
          cases leap
        rw [if_neg Bool.false_ne_true]
        omega
    | true =>
        rw [if_pos rfl]
        omega
  · have length := lengths (by omega) (isLeap (if month ≤ 2 then year + 1 else year))
    change doy - (153 * mp + 2) / 5 + 1 ≤ monthLength _ (marchMonth mp)
    rw [length]
    omega

/-- Its place in the calendar year: 306 days of the year from March lie
before January, and 59 or 60 days of the calendar year before March. -/
theorem marchDay_position {year doy : Nat} (bound : doy ≤ 365) :
    let mp := (5 * doy + 2) / 153
    let month := marchMonth mp
    let day := doy - (153 * mp + 2) / 5 + 1
    (month ≤ 2 → daysBeforeMonth (year + 1) month + (day - 1) + 306 = doy) ∧
      (¬month ≤ 2 → daysBeforeMonth year month + (day - 1) =
        doy + 59 + if isLeap year then 1 else 0) := by
  intro mp month day
  have mpBound : mp < 12 := by omega
  obtain ⟨-, before, -⟩ := marchMonth_spec mp mpBound
  change commonDaysBefore month + _ = (153 * mp + 2) / 5 + _ at before
  change (_ → _ + (doy - (153 * mp + 2) / 5 + 1 - 1) + 306 = doy) ∧
    (_ → _ + (doy - (153 * mp + 2) / 5 + 1 - 1) = _)
  unfold daysBeforeMonth
  refine ⟨?_, ?_⟩
  · intro early
    have noLeap : (isLeap (year + 1) && decide (2 < month)) = false := by
      rw [decide_eq_false (Nat.not_lt.mpr early), Bool.and_false]
    rw [noLeap, if_neg Bool.false_ne_true]
    rw [if_pos early, if_pos early] at before
    omega
  · intro later
    have leapIff : (isLeap year && decide (2 < month)) = isLeap year := by
      rw [decide_eq_true (Nat.lt_of_not_le later), Bool.and_true]
    rw [leapIff]
    rw [if_neg later, if_neg later] at before
    omega

theorem marchYear_ge {days era c q t doy : Nat} (cBound : c ≤ 3) (qBound : q ≤ 24)
    (tBound : t ≤ 3) (doyBound : doy ≤ 365)
    (split : days + 719468 = era * 146097 + (36524 * c + 1461 * q + 365 * t + doy)) :
    (306 ≤ doy → 1969 ≤ 100 * c + 4 * q + t + era * 400) ∧
      (doy < 306 → 1970 ≤ 100 * c + 4 * q + t + era * 400) := by
  have eraLow : 4 ≤ era := by omega
  by_cases later : 5 ≤ era
  · omega
  · have fourth : era = 4 := by omega
    subst fourth
    clear eraLow later
    omega

theorem days_of_marchYear {days era c q t doy : Nat} (cBound : c ≤ 3) (qBound : q ≤ 24)
    (tBound : t ≤ 3)
    (split : days + 719468 = era * 146097 + (36524 * c + 1461 * q + 365 * t + doy))
    (low : 1969 ≤ 100 * c + 4 * q + t + era * 400) :
    365 * (100 * c + 4 * q + t + era * 400 - 1969) + (24 * c + q + era * 97 - 477) + doy =
      days + 306 := by
  have leaps : 477 ≤ 24 * c + q + era * 97 := by omega
  omega

theorem leapDays_of_era {c q t : Nat} (era : Nat) (cBound : c ≤ 3) (qBound : q ≤ 24)
    (tBound : t ≤ 3) :
    leapDaysBefore (100 * c + 4 * q + t + era * 400 + 1) = 24 * c + q + era * 97 := by
  unfold leapDaysBefore
  rw [Nat.add_sub_cancel]
  have fours : (100 * c + 4 * q + t + era * 400) / 4 = 25 * c + q + era * 100 := by omega
  have hundreds : (100 * c + 4 * q + t + era * 400) / 100 = c + era * 4 := by omega
  have eras : (100 * c + 4 * q + t + era * 400) / 400 = era := by omega
  rw [fours, hundreds, eras]
  omega

theorem isLeap_of_lastDay {c q t : Nat} (era : Nat) (third : t = 3) (century : q = 24 → c = 3)
    (qBound : q ≤ 24) : isLeap (100 * c + 4 * q + t + era * 400 + 1) = true := by
  have four : (100 * c + 4 * q + t + era * 400 + 1) % 4 = 0 := by omega
  have kept : (100 * c + 4 * q + t + era * 400 + 1) % 100 ≠ 0 ∨
      (100 * c + 4 * q + t + era * 400 + 1) % 400 = 0 := by
    by_cases lastCycle : q = 24
    · exact Or.inr (by rw [century lastCycle, lastCycle, third]; omega)
    · exact Or.inl (by omega)
  simpa [isLeap] using And.intro four kept

theorem marchMonth_le_two {doy : Nat} (bound : doy ≤ 365) :
    marchMonth ((5 * doy + 2) / 153) ≤ 2 ↔ 306 ≤ doy := by
  unfold marchMonth
  split <;> omega

theorem dayNumber_of_marchDay {days era c q t doy : Nat} (cBound : c ≤ 3) (qBound : q ≤ 24)
    (tBound : t ≤ 3) (doyBound : doy ≤ 365)
    (split : days + 719468 = era * 146097 + (36524 * c + 1461 * q + 365 * t + doy)) :
    let month := marchMonth ((5 * doy + 2) / 153)
    let day := doy - (153 * ((5 * doy + 2) / 153) + 2) / 5 + 1
    let year := 100 * c + 4 * q + t + era * 400
    let calendarYear := if month ≤ 2 then year + 1 else year
    1970 ≤ calendarYear ∧
      daysBeforeYear calendarYear + daysBeforeMonth calendarYear month + (day - 1) = days := by
  intro month day year calendarYear
  obtain ⟨lateYear, earlyYear⟩ := marchYear_ge cBound qBound tBound doyBound split
  have counted := days_of_marchYear cBound qBound tBound split
  have leapBefore := leapDays_of_era era cBound qBound tBound
  obtain ⟨inJanuary, inMarch⟩ := @marchDay_position year doy doyBound
  change 1969 ≤ year → 365 * (year - 1969) + _ + doy = _ at counted
  change leapDaysBefore (year + 1) = _ at leapBefore
  unfold daysBeforeYear
  by_cases late : 306 ≤ doy
  · have january : month ≤ 2 := (marchMonth_le_two doyBound).mpr late
    have years : 1969 ≤ year := lateYear late
    have next : calendarYear = year + 1 := if_pos january
    have total := counted years
    have position := inJanuary january
    rw [next, leapBefore]
    clear_value year
    generalize 24 * c + q + era * 97 = leaps at total ⊢
    change daysBeforeMonth (year + 1) month + (day - 1) + 306 = doy at position
    clear_value month day
    clear lateYear earlyYear inJanuary inMarch leapBefore split
    omega
  · have march : ¬month ≤ 2 := mt (marchMonth_le_two doyBound).mp late
    have years : 1970 ≤ year := earlyYear (Nat.lt_of_not_le late)
    have same : calendarYear = year := if_neg march
    have total := counted (Nat.le_of_succ_le years)
    have position := inMarch march
    have leapStep := Calendar.leapDaysBefore_succ (Nat.le_trans (by decide : 1 ≤ 1970) years)
    have leapLow := Calendar.leapDaysBefore_of_ge years
    rw [leapBefore] at leapStep
    rw [same]
    clear_value year
    generalize 24 * c + q + era * 97 = leaps at total leapStep
    change daysBeforeMonth year month + (day - 1) = doy + 59 + _ at position
    clear_value month day
    clear lateYear earlyYear inJanuary inMarch leapBefore split
    omega

theorem daysToYmd_spec (days : Nat) :
    ∃ date : Date, daysToYmd days = (date.year, date.month, date.day) ∧
      1970 ≤ date.year ∧ date.dayNumber = days := by
  obtain ⟨era, doe, eraEq, doeEq, doeBound, daysEq⟩ : ∃ era doe,
      (days + 719468) / 146097 = era ∧ (days + 719468) - era * 146097 = doe ∧ doe < 146097 ∧
        days + 719468 = era * 146097 + doe :=
    ⟨_, _, rfl, rfl, by omega, by omega⟩
  obtain ⟨c, q, t, doy, cBound, qBound, tBound, doyBound, split, last⟩ := eraDay_split doeBound
  have yoeFormula := yearOfEra_eq cBound qBound tBound doyBound last split
  have doyFormula : doe - (365 * (100 * c + 4 * q + t) + (100 * c + 4 * q + t) / 4 -
      (100 * c + 4 * q + t) / 100) = doy := by
    have fours : (100 * c + 4 * q + t) / 4 = 25 * c + q := by omega
    have hundreds : (100 * c + 4 * q + t) / 100 = c := by omega
    rw [fours, hundreds]
    omega
  have leapYear : doy = 365 → isLeap (100 * c + 4 * q + t + era * 400 + 1) = true := by
    intro isLast
    obtain ⟨third, century⟩ := last isLast
    exact isLeap_of_lastDay era third century qBound
  obtain ⟨months, dayOfMonth⟩ := marchDay_valid doyBound leapYear
  rw [split] at daysEq
  have placed := dayNumber_of_marchDay cBound qBound tBound doyBound daysEq
  refine ⟨⟨_, _, _, months, dayOfMonth⟩, ?_, placed⟩
  unfold daysToYmd
  simp only [eraEq, doeEq, yoeFormula, doyFormula]
  rfl

/-! ### The conversion of instants -/

theorem epochToDatetime_spec (secs : UInt64) : ∃ date : Date,
    1970 ≤ date.year ∧ date.dayNumber = secs.toNat / 86400 ∧
      epochToDatetime secs = DateTime.new (date.year % 65536) date.month date.day
        (secs.toNat % 86400 / 3600) (secs.toNat % 86400 % 3600 / 60)
        (secs.toNat % 86400 % 60) := by
  obtain ⟨date, conversion, low, number⟩ := daysToYmd_spec (secs.toNat / 86400)
  have dayBound : date.day ≤ 31 :=
    Nat.le_trans date.validDay.2 (Calendar.monthLength_le _ _)
  have monthCut : date.month % 256 = date.month :=
    Nat.mod_eq_of_lt (Nat.lt_of_le_of_lt date.validMonth.2 (by decide))
  have dayCut : date.day % 256 = date.day :=
    Nat.mod_eq_of_lt (Nat.lt_of_le_of_lt dayBound (by decide))
  refine ⟨date, low, number, ?_⟩
  unfold epochToDatetime
  simp only [conversion, monthCut, dayCut]

theorem daysBeforeYear_10000 : daysBeforeYear 10000 = 2932897 := by
  decide

theorem clock_valid (secs : Nat) :
    secs % 86400 / 3600 ≤ 23 ∧ secs % 86400 % 3600 / 60 ≤ 59 ∧ secs % 86400 % 60 ≤ 59 := by
  omega

theorem DateTime.toUnixDuration_of_clock {time : DateTime} {secs : Nat}
    (number : time.date.dayNumber = secs / 86400) (hour : time.hour = secs % 86400 / 3600)
    (minutes : time.minutes = secs % 86400 % 3600 / 60)
    (seconds : time.seconds = secs % 86400 % 60) : time.toUnixDuration = secs := by
  unfold DateTime.toUnixDuration
  rw [number, hour, minutes, seconds]
  omega

/-- Up to the end of the year 9999 the conversion succeeds and keeps the instant. -/
theorem ocspTime_spec {secs : UInt64} (bound : secs.toNat < 253402300800) :
    ∃ time, ocspTime secs = .ok time ∧ time.toUnixDuration = secs.toNat := by
  obtain ⟨date, low, number, conversion⟩ := epochToDatetime_spec secs
  have days : date.dayNumber < daysBeforeYear 10000 := by
    rw [number, daysBeforeYear_10000]
    exact Nat.div_lt_of_lt_mul bound
  have high := date.year_lt (by decide) days
  have yearCut : date.year % 65536 = date.year := Nat.mod_eq_of_lt (by omega)
  rw [yearCut] at conversion
  refine ⟨⟨date, _, _, _, ⟨low, Nat.le_of_lt_succ high⟩, clock_valid secs.toNat⟩, ?_, ?_⟩
  · unfold ocspTime
    rw [conversion, DateTime.new_eq_ok]
    exact ⟨rfl, rfl, rfl, rfl, rfl, rfl⟩
  · exact DateTime.toUnixDuration_of_clock number rfl rfl rfl

theorem DateTime.date_eq_of_toUnixDuration {first second : DateTime}
    (same : first.toUnixDuration = second.toUnixDuration) :
    first.date = second.date ∧ first.hour = second.hour ∧ first.minutes = second.minutes ∧
      first.seconds = second.seconds := by
  have time := first.validTime
  have otherTime := second.validTime
  unfold DateTime.toUnixDuration at same
  have days : first.date.dayNumber = second.date.dayNumber := by omega
  refine ⟨Date.dayNumber_injective first.validYear.1 second.validYear.1 days, ?_⟩
  omega

theorem DateTime.eq_of_toUnixDuration {first second : DateTime}
    (same : first.toUnixDuration = second.toUnixDuration) : first = second := by
  obtain ⟨dates, hours, minutes, seconds⟩ := DateTime.date_eq_of_toUnixDuration same
  cases first
  cases second
  cases dates
  cases hours
  cases minutes
  cases seconds
  rfl

theorem DateTime.toUnixDuration_lt (time : DateTime) : time.toUnixDuration < 253402300800 := by
  have number := Date.dayNumber_lt time.validYear.1
  have years : Calendar.daysBeforeYear (time.date.year + 1) ≤ Calendar.daysBeforeYear 10000 := by
    apply Calendar.daysBeforeYear_mono
    · exact Nat.le_succ_of_le time.validYear.1
    · exact Nat.succ_le_succ time.validYear.2
  have last := daysBeforeYear_10000
  have clock := time.validTime
  unfold DateTime.toUnixDuration
  omega

/-- `to_unix_duration().as_secs()`. -/
def DateTime.epoch (time : DateTime) : UInt64 :=
  UInt64.ofNat time.toUnixDuration

theorem DateTime.toNat_epoch (time : DateTime) : time.epoch.toNat = time.toUnixDuration := by
  unfold DateTime.epoch
  exact UInt64.toNat_ofNat_of_lt' (Nat.lt_trans time.toUnixDuration_lt (by decide))

theorem ocspTime_epoch (time : DateTime) : ocspTime time.epoch = .ok time := by
  have bound : time.epoch.toNat < 253402300800 := by
    rw [time.toNat_epoch]
    exact time.toUnixDuration_lt
  obtain ⟨written, converted, instant⟩ := ocspTime_spec bound
  rw [time.toNat_epoch] at instant
  rw [converted, DateTime.eq_of_toUnixDuration instant]

theorem epoch_of_ocspTime {secs : UInt64} {time : DateTime}
    (bound : secs.toNat < 253402300800) (converted : ocspTime secs = .ok time) :
    time.epoch = secs := by
  obtain ⟨written, same, instant⟩ := ocspTime_spec bound
  rw [same] at converted
  cases converted
  apply UInt64.toNat_inj.mp
  rw [DateTime.toNat_epoch, instant]

end Ocsp
end Hoike
