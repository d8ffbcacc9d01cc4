/-
Certificate records of a Dogtag directory (`dogtag_sync.rs`).

One LDAP entry gives the serial, the status and the times of one certificate.
Numbers and dates come as text in several forms.
-/

import Mathlib.Data.List.DropRight
import Hoike.Library.Decimal
import Hoike.Core.Admission
import Hoike.Sign.Source

namespace Hoike

open Ocsp

/-- An LDAP entry with its textual attributes, in the order they are visited. -/
structure SearchEntry where
  attrs : List (String × List String)
deriving DecidableEq

/-- The value of an attribute that has exactly one.  Names compare without case. -/
def SearchEntry.attr (entry : SearchEntry) (name : String) : Option String :=
  match entry.attrs.find? fun pair => eqIgnoreAsciiCase pair.1 name with
  | some (_, [value]) => some value
  | _ => none

structure StoredRecord where
  serial : SerialBytes
  revoked : Option (UInt64 × Option UInt32)
  excluded : Bool
  notAfter : Option UInt64
deriving DecidableEq, Repr

/-! ### Numbers -/

def stripPlus : List Char → List Char
  | '+' :: rest => rest
  | characters => characters

/-- `str::parse` for an unsigned type with this many values. -/
def parseUnsigned (limit : Nat) (text : String) : Option Nat :=
  let digits := stripPlus text.toList
  let value := Nat.ofDigitChars 10 digits 0
  if digits ≠ [] ∧ digits.all Char.isDigit ∧ value < limit then some value else none

def parseU64 (text : String) : Option UInt64 :=
  (parseUnsigned 18446744073709551616 text).map UInt64.ofNat

def parseU32 (text : String) : Option UInt32 :=
  (parseUnsigned 4294967296 text).map UInt32.ofNat

/-- `BigUint::to_bytes_be`. -/
def toBytesBE (value : Nat) : Bytes :=
  if value = 0 then [0] else (Nat.digits 256 value).reverse.map UInt8.ofNat

def parseDecimalSerial (dec : String) : Option SerialBytes :=
  if dec.toList = [] ∨ 49 < dec.toList.length ∨ ¬dec.toList.all Char.isDigit then none
  else
    let bytes := toBytesBE (Nat.ofDigitChars 10 dec.toList 0)
    if 20 < bytes.length then none else some bytes

def trimLeadingZeros : Bytes → Bytes
  | 0 :: second :: rest => trimLeadingZeros (second :: rest)
  | bytes => bytes

def stripHexMark : List Char → List Char
  | '0' :: 'x' :: rest => rest
  | '0' :: 'X' :: rest => rest
  | characters => characters

def parseHexSerial (hex : String) : Option SerialBytes :=
  let stripped := stripHexMark hex.toList
  let even := if stripped.length % 2 ≠ 0 then '0' :: stripped else stripped
  if 40 < even.length ∨ even = [] then none
  else (Bytes.decodeHexDigits 0 even).toOption.map trimLeadingZeros

/-! ### Times -/

def isWhitespace (character : Char) : Bool :=
  let code := character.toNat
  (9 ≤ code && code ≤ 13) || code = 0x20 || code = 0x85 || code = 0xa0 || code = 0x1680 ||
    (0x2000 ≤ code && code ≤ 0x200a) || code = 0x2028 || code = 0x2029 || code = 0x202f ||
    code = 0x205f || code = 0x3000

def trim (characters : List Char) : List Char :=
  (characters.dropWhile isWhitespace).rdropWhile isWhitespace

/-- Days from 1970-01-01 to a date, by years that start in March.  The division
for the era rounds towards zero. -/
def daysFromCivil (year month day : Int) : Int :=
  let y := if month ≤ 2 then year - 1 else year
  let era := (if 0 ≤ y then y else y - 399).tdiv 400
  let yoe := y - era * 400
  let doy := (153 * (if 2 < month then month - 3 else month + 9) + 2) / 5 + day - 1
  let doe := yoe * 365 + yoe / 4 - yoe / 100 + doy
  era * 146097 + doe - 719468

def digitsBetween (digits : List Char) (first last : Nat) : Int :=
  Nat.ofDigitChars 10 ((digits.take last).drop first) 0

def civilSeconds (digits : List Char) : Option UInt64 :=
  let year := digitsBetween digits 0 4
  let month := digitsBetween digits 4 6
  let day := digitsBetween digits 6 8
  let hour := digitsBetween digits 8 10
  let minute := digitsBetween digits 10 12
  let second := digitsBetween digits 12 14
  if month < 1 ∨ 12 < month ∨ day < 1 ∨ 31 < day ∨ 23 < hour ∨ 59 < minute ∨ 60 < second then
    none
  else
    let secs := daysFromCivil year month day * 86400 + hour * 3600 + minute * 60 + second
    if 0 ≤ secs ∧ secs < 18446744073709551616 then some (UInt64.ofNat secs.toNat) else none

def stripZone (characters : List Char) : List Char :=
  if characters.getLast? = some 'Z' then characters.dropLast else characters

/-- Digits of any length but fourteen are milliseconds, fourteen are a date. -/
def parseGeneralizedTime (text : String) : Option UInt64 :=
  let characters := trim text.toList
  if 13 ≤ characters.length ∧ characters.length ≠ 14 ∧ characters.all Char.isDigit then
    (parseU64 (String.ofList characters)).map fun ms => ms / 1000
  else
    let digits := stripZone characters
    if digits.length ≠ 14 ∨ ¬digits.all Char.isDigit then none
    else civilSeconds digits

/-! ### Records -/

def crlReasonFromU32 (code : UInt32) : Option CrlReason :=
  if code = 0 then some .unspecified
  else if code = 1 then some .keyCompromise
  else if code = 2 then some .caCompromise
  else if code = 3 then some .affiliationChanged
  else if code = 4 then some .superseded
  else if code = 5 then some .cessationOfOperation
  else if code = 6 then some .certificateHold
  else if code = 8 then some .removeFromCrl
  else if code = 9 then some .privilegeWithdrawn
  else if code = 10 then some .aaCompromise
  else none

def StoredRecord.status (record : StoredRecord) : CertificateStatus :=
  match record.revoked with
  | none => .good
  | some (revocationTime, reason) => .revoked revocationTime (reason.bind crlReasonFromU32)

def SearchEntry.serial (entry : SearchEntry) : Option SerialBytes :=
  ((entry.attr "cn").bind parseDecimalSerial).orElse fun _ =>
    (entry.attr "serialno").bind fun text =>
      if text.startsWith "0x" || text.startsWith "0X" then parseHexSerial text
      else parseDecimalSerial text

/-- Either form is read first as a number and divided by 1000 at the end. -/
def SearchEntry.revocationTime (entry : SearchEntry) : Except SignError UInt64 :=
  match (entry.attr "revokedOn").bind fun text =>
      (parseU64 text).orElse fun _ => parseGeneralizedTime text with
  | none => .error (.config "missing or invalid revocation time")
  | some time => .ok (time / 1000)

def SearchEntry.revocationReason (entry : SearchEntry) : Except SignError (Option UInt32) :=
  match entry.attr "revReason" with
  | none => .ok none
  | some text =>
      match (parseU32 text).filter fun code => (crlReasonFromU32 code).isSome with
      | none => .error (.config "invalid revocation reason")
      | some code => .ok (some code)

def parseCertEntry (entry : SearchEntry) : Except SignError (Option StoredRecord) := do
  let some serial := entry.serial
    | throw (.config "missing or invalid certificate serial")
  let some status := entry.attr "certStatus"
    | throw (.config "missing certificate status")
  let notAfter := (entry.attr "notAfter").bind parseGeneralizedTime
  if status = "VALID" then
    return some
      { serial := serial
        revoked := none
        excluded := false
        notAfter := notAfter }
  else if status = "INVALID" ∨ status = "EXPIRED" then
    return some
      { serial := serial
        revoked := none
        excluded := true
        notAfter := notAfter }
  else if status = "REVOKED" ∨ status = "REVOKED_EXPIRED" then
    let time ← entry.revocationTime
    let reason ← entry.revocationReason
    return some
      { serial := serial
        revoked := some (time, reason)
        excluded := false
        notAfter := notAfter }
  else throw (.config "unknown certificate status")

/-! ### Dates -/

theorem marchDays_of_month : ∀ month < 13, 1 ≤ month →
    (2 < month → (153 * (month - 3) + 2) / 5 + 59 = Calendar.commonDaysBefore month) ∧
      (month ≤ 2 → (153 * (month + 9) + 2) / 5 = Calendar.commonDaysBefore month + 306) := by
  decide

theorem marchYear_days {year : Nat} (low : 1969 ≤ year) :
    ((year : Int).tdiv 400) * 146097 + ((year - (year : Int).tdiv 400 * 400) * 365 +
        (year - (year : Int).tdiv 400 * 400) / 4 - (year - (year : Int).tdiv 400 * 400) / 100) =
      365 * year + Calendar.leapDaysBefore (year + 1) := by
  have positive : (0 : Int) ≤ year := by omega
  rw [Int.tdiv_eq_ediv_of_nonneg positive]
  have leaps : Calendar.leapDaysBefore (year + 1) = year / 4 - year / 100 + year / 400 := by
    unfold Calendar.leapDaysBefore
    rw [Nat.add_sub_cancel]
  have fewer : year / 100 ≤ year / 4 := Nat.div_le_div_left (by decide) (by decide)
  rw [leaps]
  omega

theorem daysFromCivil_eq {date : Calendar.Date} (low : 1970 ≤ date.year) :
    daysFromCivil date.year date.month date.day = date.dayNumber := by
  obtain ⟨first, last⟩ := date.validMonth
  have firstDay := date.validDay.1
  obtain ⟨late, early⟩ := marchDays_of_month date.month (Nat.lt_succ_of_le last) first
  have epoch := Calendar.leapDaysBefore_of_ge low
  unfold daysFromCivil Calendar.Date.dayNumber Calendar.daysBeforeYear Calendar.daysBeforeMonth
  generalize Calendar.commonDaysBefore date.month = before at late early
  by_cases january : date.month ≤ 2
  · obtain ⟨year, nextYear⟩ : ∃ year, date.year = year + 1 := ⟨date.year - 1, by omega⟩
    have counted := marchYear_days (show 1969 ≤ year by omega)
    have earlyDays := early january
    rw [nextYear] at epoch ⊢
    have monthSmall : (date.month : Int) ≤ 2 := by omega
    have monthNotLate : ¬(2 : Int) < date.month := by omega
    have noLeap : (Calendar.isLeap (year + 1) && decide (2 < date.month)) = false := by
      rw [decide_eq_false (Nat.not_lt.mpr january), Bool.and_false]
    have shifted : ((year + 1 : Nat) : Int) - 1 = year := by omega
    have positive : (0 : Int) ≤ year := by omega
    simp only [monthSmall, if_true, monthNotLate, if_false, noLeap, shifted, positive,
      Bool.false_eq_true]
    generalize Calendar.leapDaysBefore (year + 1) = leaps at counted epoch ⊢
    generalize (year : Int).tdiv 400 = era at counted ⊢
    omega
  · have counted := marchYear_days (Nat.le_of_succ_le low)
    have lateDays := late (by omega)
    have leapStep := Calendar.leapDaysBefore_succ (Nat.le_trans (by decide : 1 ≤ 1970) low)
    have monthNotSmall : ¬(date.month : Int) ≤ 2 := by omega
    have monthLate : (2 : Int) < date.month := by omega
    have leapIff : (Calendar.isLeap date.year && decide (2 < date.month)) =
        Calendar.isLeap date.year := by
      rw [decide_eq_true (Nat.lt_of_not_le january), Bool.and_true]
    have positive : (0 : Int) ≤ date.year := by omega
    simp only [monthNotSmall, if_false, monthLate, if_true, leapIff, positive]
    generalize Calendar.leapDaysBefore (date.year + 1) = leaps at counted leapStep
    generalize (date.year : Int).tdiv 400 = era at counted ⊢
    generalize Calendar.leapDaysBefore date.year = leapsBefore at leapStep epoch ⊢
    omega

/-! ### Digits -/

theorem isWhitespace_of_isDigit {character : Char} (digit : character.isDigit = true) :
    isWhitespace character = false := by
  have range : 48 ≤ character.toNat ∧ character.toNat ≤ 57 := by
    rw [Char.isDigit, Bool.and_eq_true, decide_eq_true_iff, decide_eq_true_iff] at digit
    exact digit
  unfold isWhitespace
  simp only [Bool.or_eq_false_iff, Bool.and_eq_false_iff, decide_eq_false_iff_not]
  omega

theorem trim_eq_self {characters : List Char}
    (solid : ∀ character ∈ characters, isWhitespace character = false) :
    trim characters = characters := by
  have front : characters.dropWhile isWhitespace = characters := by
    apply List.dropWhile_eq_self_iff.mpr
    intro bound
    rw [solid _ (List.getElem_mem bound)]
    exact Bool.false_ne_true
  unfold trim
  rw [front, List.rdropWhile_eq_self_iff]
  intro nonempty
  rw [solid _ (List.getLast_mem nonempty)]
  exact Bool.false_ne_true

theorem digitsBetween_first (back : List Char) {width value : Nat}
    (inRange : value < 10 ^ width) :
    digitsBetween (Decimal.padded width value ++ back) 0 width = value := by
  unfold digitsBetween
  rw [List.take_left' (Decimal.length_padded width value), List.drop_zero,
    Decimal.ofDigitChars_padded inRange]

theorem digitsBetween_skip (width : Nat) {value : Nat} {back : List Char} {first last : Nat} :
    digitsBetween (Decimal.padded width value ++ back) (first + width) (last + width) =
      digitsBetween back first last := by
  have size := Decimal.length_padded width value
  unfold digitsBetween
  rw [List.take_append, List.take_of_length_le (by omega), size, Nat.add_sub_cancel,
    List.drop_append, List.drop_of_length_le (by omega), size, Nat.add_sub_cancel,
    List.nil_append]

def Ocsp.DateTime.stamp (time : DateTime) : List Char :=
  Decimal.padded 4 time.date.year ++ (Decimal.padded 2 time.date.month ++
    (Decimal.padded 2 time.date.day ++ (Decimal.padded 2 time.hour ++
      (Decimal.padded 2 time.minutes ++ (Decimal.padded 2 time.seconds ++ [])))))

theorem Ocsp.DateTime.fields_lt (time : DateTime) :
    time.date.year < 10 ^ 4 ∧ time.date.month < 10 ^ 2 ∧ time.date.day < 10 ^ 2 ∧
      time.hour < 10 ^ 2 ∧ time.minutes < 10 ^ 2 ∧ time.seconds < 10 ^ 2 := by
  have years := time.validYear
  have months := time.date.validMonth
  have days : time.date.day ≤ 31 :=
    Nat.le_trans time.date.validDay.2 (Calendar.monthLength_le _ _)
  have clock := time.validTime
  omega

theorem Ocsp.DateTime.length_stamp (time : DateTime) : time.stamp.length = 14 := by
  simp [DateTime.stamp]

theorem Ocsp.DateTime.isDigit_of_mem_stamp (time : DateTime) {character : Char}
    (member : character ∈ time.stamp) : character.isDigit = true := by
  simp only [DateTime.stamp, List.mem_append, List.not_mem_nil, or_false] at member
  rcases member with year | month | day | hour | minutes | seconds
  all_goals
    apply Decimal.isDigit_of_mem_padded
    assumption

/-- Six numbers in the digits of a time. -/
structure CivilDigits (digits : List Char) (year month day hour minute second : Nat) : Prop where
  year_eq : digitsBetween digits 0 4 = year
  month_eq : digitsBetween digits 4 6 = month
  day_eq : digitsBetween digits 6 8 = day
  hour_eq : digitsBetween digits 8 10 = hour
  minute_eq : digitsBetween digits 10 12 = minute
  second_eq : digitsBetween digits 12 14 = second

theorem CivilDigits.of_padded {year month day hour minute second : Nat} (years : year < 10 ^ 4)
    (months : month < 10 ^ 2) (days : day < 10 ^ 2) (hours : hour < 10 ^ 2)
    (minutes : minute < 10 ^ 2) (seconds : second < 10 ^ 2) :
    CivilDigits (Decimal.padded 4 year ++ (Decimal.padded 2 month ++ (Decimal.padded 2 day ++
      (Decimal.padded 2 hour ++ (Decimal.padded 2 minute ++ (Decimal.padded 2 second ++ []))))))
      year month day hour minute second where
  year_eq := digitsBetween_first _ years
  month_eq := by
    simp only [digitsBetween_skip 4, digitsBetween_first _ months]
  day_eq := by
    simp only [digitsBetween_skip 4, digitsBetween_skip 2, digitsBetween_first _ days]
  hour_eq := by
    simp only [digitsBetween_skip 4, digitsBetween_skip 2, digitsBetween_first _ hours]
  minute_eq := by
    simp only [digitsBetween_skip 4, digitsBetween_skip 2, digitsBetween_first _ minutes]
  second_eq := by
    simp only [digitsBetween_skip 4, digitsBetween_skip 2, digitsBetween_first _ seconds]

theorem Ocsp.DateTime.civilDigits (time : DateTime) :
    CivilDigits time.stamp time.date.year time.date.month time.date.day time.hour time.minutes
      time.seconds := by
  obtain ⟨years, months, days, hours, minutes, seconds⟩ := time.fields_lt
  exact CivilDigits.of_padded years months days hours minutes seconds

theorem civilSeconds_stamp (time : DateTime) : civilSeconds time.stamp = some time.epoch := by
  obtain ⟨year, month, day, hour, minute, second⟩ := time.civilDigits
  have lastDay : time.date.day ≤ 31 :=
    Nat.le_trans time.date.validDay.2 (Calendar.monthLength_le _ _)
  have firstDay := time.date.validDay.1
  have validMonth := time.date.validMonth
  have clock := time.validTime
  have bound := time.toUnixDuration_lt
  unfold civilSeconds
  simp only [year, month, day, hour, minute, second, daysFromCivil_eq time.validYear.1]
  rw [if_neg (by omega)]
  have total : (time.date.dayNumber : Int) * 86400 + time.hour * 3600 + time.minutes * 60 +
      time.seconds = time.toUnixDuration := by
    unfold DateTime.toUnixDuration
    omega
  rw [total, if_pos (by omega)]
  rfl

/-! ### Revocation times -/

def Ocsp.DateTime.stampNumber (time : DateTime) : Nat :=
  ((((time.date.year * 100 + time.date.month) * 100 + time.date.day) * 100 + time.hour) * 100 +
    time.minutes) * 100 + time.seconds

theorem Ocsp.DateTime.ofDigitChars_stamp (time : DateTime) :
    Nat.ofDigitChars 10 time.stamp 0 = time.stampNumber := by
  obtain ⟨years, months, days, hours, minutes, seconds⟩ := time.fields_lt
  unfold DateTime.stamp DateTime.stampNumber
  simp only [Nat.ofDigitChars_append, Nat.ofDigitChars_nil]
  iterate 5 rw [Nat.ofDigitChars_eq_ofDigitChars_zero, Decimal.length_padded]
  rw [Decimal.ofDigitChars_padded years, Decimal.ofDigitChars_padded months,
    Decimal.ofDigitChars_padded days, Decimal.ofDigitChars_padded hours,
    Decimal.ofDigitChars_padded minutes, Decimal.ofDigitChars_padded seconds]
  omega

/-- The forms in which a directory gives the time of a revocation. -/
inductive RevokedOnForm where
  | milliseconds
  | generalizedTime
  | withoutZone
deriving DecidableEq, Repr

def RevokedOnForm.text (form : RevokedOnForm) (time : DateTime) : String :=
  match form with
  | milliseconds => toString (time.toUnixDuration * 1000)
  | generalizedTime => String.ofList (time.stamp ++ ['Z'])
  | withoutZone => String.ofList time.stamp

/-- Milliseconds are read correctly.  A date in Zulu time only is at the epoch,
and one without a zone when its own digits are the milliseconds. -/
def RevokedOnForm.ReadsAs (form : RevokedOnForm) (time : DateTime) : Prop :=
  match form with
  | milliseconds => True
  | generalizedTime => time.toUnixDuration = 0
  | withoutZone => time.stampNumber / 1000 = time.toUnixDuration

theorem mem_stripPlus {character : Char} {characters : List Char} (other : character ≠ '+')
    (member : character ∈ characters) : character ∈ stripPlus characters := by
  unfold stripPlus
  split
  · exact (List.mem_cons.mp member).resolve_left other
  · exact member

theorem stripPlus_digits {digits : List Char}
    (isDigit : ∀ character ∈ digits, character.isDigit = true) : stripPlus digits = digits := by
  unfold stripPlus
  split
  · have digit := isDigit '+' List.mem_cons_self
    cases digit
  · rfl

theorem parseU64_digits {digits : List Char} (nonempty : digits ≠ [])
    (isDigit : ∀ character ∈ digits, character.isDigit = true)
    (small : Nat.ofDigitChars 10 digits 0 < 18446744073709551616) :
    parseU64 (String.ofList digits) = some (UInt64.ofNat (Nat.ofDigitChars 10 digits 0)) := by
  unfold parseU64 parseUnsigned
  rw [String.toList_ofList, stripPlus_digits isDigit]
  dsimp only
  rw [if_pos ⟨nonempty, List.all_eq_true.mpr isDigit, small⟩]
  rfl

theorem parseU64_toString {value : Nat} (small : value < 18446744073709551616) :
    parseU64 (toString value) = some (UInt64.ofNat value) := by
  have back : Nat.ofDigitChars 10 (Nat.toDigits 10 value) 0 = value :=
    Nat.ofDigitChars_toDigits (by decide) (by decide)
  have nonempty : Nat.toDigits 10 value ≠ [] := List.length_pos_iff.mp Nat.length_toDigits_pos
  have read := parseU64_digits nonempty
    (fun character member => Nat.isDigit_of_mem_toDigits (by decide) (by decide) member)
    (by rw [back]; exact small)
  rw [back] at read
  rw [Nat.toString_eq_ofList_toDigits]
  exact read

theorem parseU64_zulu (time : DateTime) :
    parseU64 (String.ofList (time.stamp ++ ['Z'])) = none := by
  have zone : 'Z' ∈ stripPlus (time.stamp ++ ['Z']) :=
    mem_stripPlus (by decide) (List.mem_append_right _ (List.mem_singleton.mpr rfl))
  have mixed : ¬(stripPlus (time.stamp ++ ['Z'])).all Char.isDigit = true := by
    intro digits
    have digit := List.all_eq_true.mp digits 'Z' zone
    cases digit
  unfold parseU64 parseUnsigned
  rw [String.toList_ofList]
  dsimp only
  rw [if_neg (fun parsed => mixed parsed.2.1)]
  rfl

def zoneSuffixes : List (List Char) :=
  [[], ['Z']]

theorem parseGeneralizedTime_digits {digits suffix : List Char} (fourteen : digits.length = 14)
    (decimal : ∀ character ∈ digits, character.isDigit = true) (zone : suffix ∈ zoneSuffixes) :
    parseGeneralizedTime (String.ofList (digits ++ suffix)) = civilSeconds digits := by
  have solid : ∀ character ∈ digits ++ suffix, isWhitespace character = false := by
    intro character member
    rcases List.mem_append.mp member with digit | later
    · exact isWhitespace_of_isDigit (decimal character digit)
    · simp only [zoneSuffixes, List.mem_cons, List.not_mem_nil, or_false] at zone
      rcases zone with rfl | rfl
      · cases later
      · rw [List.mem_singleton.mp later]
        decide
  have all : digits.all Char.isDigit = true := List.all_eq_true.mpr decimal
  have shape : ¬(13 ≤ (digits ++ suffix).length ∧ (digits ++ suffix).length ≠ 14 ∧
      (digits ++ suffix).all Char.isDigit = true) ∧ stripZone (digits ++ suffix) = digits := by
    simp only [zoneSuffixes, List.mem_cons, List.not_mem_nil, or_false] at zone
    rcases zone with rfl | rfl
    · rw [List.append_nil]
      refine ⟨fun milliseconds => milliseconds.2.1 fourteen, if_neg ?_⟩
      intro last
      have digit := decimal 'Z' (List.mem_of_getLast? last)
      cases digit
    · refine ⟨?_, ?_⟩
      · rintro ⟨-, -, mixed⟩
        rw [List.all_append] at mixed
        simp at mixed
      · unfold stripZone
        rw [if_pos List.getLast?_concat, List.dropLast_concat]
  unfold parseGeneralizedTime
  rw [String.toList_ofList, trim_eq_self solid]
  dsimp only
  rw [if_neg shape.1, shape.2, if_neg (by simp [fourteen, all])]

theorem parseGeneralizedTime_stamp (time : DateTime) {suffix : List Char}
    (zone : suffix ∈ zoneSuffixes) :
    parseGeneralizedTime (String.ofList (time.stamp ++ suffix)) = some time.epoch := by
  rw [parseGeneralizedTime_digits time.length_stamp
    (fun character member => time.isDigit_of_mem_stamp member) zone]
  exact civilSeconds_stamp time

theorem epoch_div_eq_iff (time : DateTime) :
    time.epoch / 1000 = time.epoch ↔ time.toUnixDuration = 0 := by
  rw [← UInt64.toNat_inj, UInt64.toNat_div, DateTime.toNat_epoch]
  change time.toUnixDuration / 1000 = _ ↔ _
  omega

theorem stampNumber_lt (time : DateTime) : time.stampNumber < 18446744073709551616 := by
  obtain ⟨years, months, days, hours, minutes, seconds⟩ := time.fields_lt
  unfold DateTime.stampNumber
  omega

theorem revocationTime_eq_iff {entry : SearchEntry} {form : RevokedOnForm} {time : DateTime}
    (given : entry.attr "revokedOn" = some (form.text time)) :
    entry.revocationTime = .ok time.epoch ↔ form.ReadsAs time := by
  have bound := time.toUnixDuration_lt
  unfold SearchEntry.revocationTime
  rw [given, Option.bind_some]
  cases form with
  | milliseconds =>
      have read : parseU64 (toString (time.toUnixDuration * 1000)) =
          some (UInt64.ofNat (time.toUnixDuration * 1000)) := parseU64_toString (by omega)
      have seconds : UInt64.ofNat (time.toUnixDuration * 1000) / 1000 = time.epoch := by
        rw [← UInt64.toNat_inj, UInt64.toNat_div, DateTime.toNat_epoch,
          UInt64.toNat_ofNat_of_lt' (by simp only [UInt64.size]; omega)]
        change _ / 1000 = _
        omega
      simp only [RevokedOnForm.text, read, Option.orElse_some, seconds, RevokedOnForm.ReadsAs]
  | generalizedTime =>
      have zulu := parseGeneralizedTime_stamp time (show ['Z'] ∈ zoneSuffixes by decide)
      simp only [RevokedOnForm.text, parseU64_zulu, zulu, Option.orElse_none,
        Except.ok.injEq, RevokedOnForm.ReadsAs]
      exact epoch_div_eq_iff time
  | withoutZone =>
      have number := time.ofDigitChars_stamp
      have read := parseU64_digits (List.ne_nil_of_length_eq_add_one time.length_stamp)
        (fun character member => time.isDigit_of_mem_stamp member)
        (by rw [number]; exact stampNumber_lt time)
      rw [number] at read
      simp only [RevokedOnForm.text, read, Option.orElse_some, Except.ok.injEq,
        RevokedOnForm.ReadsAs]
      rw [← UInt64.toNat_inj, UInt64.toNat_div, DateTime.toNat_epoch,
        UInt64.toNat_ofNat_of_lt' (stampNumber_lt time)]
      rfl

theorem parseCertEntry_revoked {entry : SearchEntry} {serial : SerialBytes} {status : String}
    {reason : Option UInt32} {record : StoredRecord} (serialRead : entry.serial = some serial)
    (statusRead : entry.attr "certStatus" = some status)
    (revoked : status = "REVOKED" ∨ status = "REVOKED_EXPIRED")
    (reasonRead : entry.revocationReason = .ok reason) :
    parseCertEntry entry = .ok (some record) ↔
      ∃ time, entry.revocationTime = .ok time ∧
        record =
          { serial := serial
            revoked := some (time, reason)
            excluded := false
            notAfter := (entry.attr "notAfter").bind parseGeneralizedTime } := by
  have notValid : status ≠ "VALID" ∧ ¬(status = "INVALID" ∨ status = "EXPIRED") := by
    rcases revoked with rfl | rfl <;> decide
  unfold parseCertEntry
  rw [serialRead, statusRead]
  dsimp only
  rw [if_neg notValid.1, if_neg notValid.2, if_pos revoked, reasonRead]
  constructor
  · intro parsed
    obtain ⟨time, timeRead, parsed⟩ := Except.bind_eq_ok.mp parsed
    cases parsed
    exact ⟨time, timeRead, rfl⟩
  · intro stored
    obtain ⟨time, timeRead, rfl⟩ := stored
    rw [timeRead]
    rfl

/-- The record of a revoked entry has the time the directory gave exactly for
the forms that are read as they are meant. -/
theorem revoked_on_kept_iff (entry : SearchEntry) (serial : SerialBytes) (status : String)
    (reason : Option UInt32) (form : RevokedOnForm) (time : DateTime)
    (serialRead : entry.serial = some serial)
    (statusRead : entry.attr "certStatus" = some status)
    (revoked : status = "REVOKED" ∨ status = "REVOKED_EXPIRED")
    (reasonRead : entry.revocationReason = .ok reason)
    (given : entry.attr "revokedOn" = some (form.text time)) :
    (∃ record, parseCertEntry entry = .ok (some record) ∧
      record.revoked = some (time.epoch, reason)) ↔ form.ReadsAs time := by
  rw [← revocationTime_eq_iff given]
  constructor
  · intro kept
    obtain ⟨record, parsed, stored⟩ := kept
    obtain ⟨read, timeRead, rfl⟩ :=
      (parseCertEntry_revoked serialRead statusRead revoked reasonRead).mp parsed
    rw [timeRead, (Prod.mk.inj (Option.some.inj stored)).1]
  · intro timeRead
    exact ⟨_, (parseCertEntry_revoked serialRead statusRead revoked reasonRead).mpr
      ⟨_, timeRead, rfl⟩, rfl⟩

def revokedEntry (revokedOn : String) : SearchEntry :=
  { attrs := [("cn", ["42"]), ("certStatus", ["REVOKED"]), ("revokedOn", [revokedOn]),
      ("revReason", ["1"])] }

def revokedRecord (time : UInt64) : StoredRecord :=
  { serial := [42]
    revoked := some (time, some 1)
    excluded := false
    notAfter := none }

def revokedTime : DateTime :=
  { date :=
      { year := 2026
        month := 10
        day := 30
        validMonth := by decide
        validDay := by decide }
    hour := 17
    minutes := 33
    seconds := 28
    validYear := by decide
    validTime := by decide }

theorem milliseconds_kept : ∃ record,
    parseCertEntry (revokedEntry (RevokedOnForm.milliseconds.text revokedTime)) =
        .ok (some record) ∧
      record.revoked = some (revokedTime.epoch, some 1) :=
  (revoked_on_kept_iff (revokedEntry (RevokedOnForm.milliseconds.text revokedTime)) [42]
    "REVOKED" (some 1) .milliseconds revokedTime (by decide +kernel) (by decide +kernel)
    (Or.inl rfl) (by rfl) (by rfl)).mpr trivial

/-- The date that the directory gives in Zulu time is stored as if its seconds
were milliseconds. -/
theorem zulu_time_divided :
    RevokedOnForm.generalizedTime.text revokedTime = "20261030173328Z" ∧
      revokedTime.epoch = 1793381608 ∧
      (parseCertEntry (revokedEntry "20261030173328Z")).toOption =
        some (some (revokedRecord 1793381)) ∧
      ¬RevokedOnForm.generalizedTime.ReadsAs revokedTime := by
  refine ⟨by decide +kernel, by decide +kernel, by decide +kernel, ?_⟩
  change ¬revokedTime.toUnixDuration = 0
  decide +kernel

end Hoike
