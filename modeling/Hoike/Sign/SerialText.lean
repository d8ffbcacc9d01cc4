/-
Serials as text (`dogtag_sync.rs`).

A directory gives a serial in decimal or in hexadecimal digits.  Both readers
give the shortest octets of the number, whatever zeros are in front of it, and
refuse numbers of more than 20 octets.
-/

import Mathlib.Data.Nat.Digits.Lemmas
import Hoike.Sign.SourceSerials

namespace Hoike

open Bytes (toNatBE hexNumber hexValue)
open Der (Minimal)

/-- A serial in decimal digits, or in hexadecimal digits behind a mark. -/
inductive SerialText where
  | decimal (digits : List Char)
  | hexadecimal (mark digits : List Char)

def hexMarks : List (List Char) :=
  [[], ['0', 'x'], ['0', 'X']]

namespace SerialText

def digits : SerialText → List Char
  | decimal digits => digits
  | hexadecimal _ digits => digits

def WellFormed : SerialText → Prop
  | decimal digits => digits ≠ [] ∧ ∀ digit ∈ digits, digit.isDigit = true
  | hexadecimal mark digits =>
      mark ∈ hexMarks ∧ digits ≠ [] ∧ ∀ digit ∈ digits, (hexValue digit).isSome = true

def value : SerialText → Nat
  | decimal digits => Nat.ofDigitChars 10 digits 0
  | hexadecimal _ digits => hexNumber digits

def maxDigits : SerialText → Nat
  | decimal _ => 49
  | hexadecimal _ _ => 40

def parse : SerialText → Option SerialBytes
  | decimal digits => parseDecimalSerial (String.ofList digits)
  | hexadecimal mark digits => parseHexSerial (String.ofList (mark ++ digits))

end SerialText

/-! ### Decimal digits -/

theorem minimal_toBytesBE (value : Nat) : Minimal value (toBytesBE value) := by
  refine ⟨toNatBE_toBytesBE value, ?_, ?_⟩
  · unfold toBytesBE
    split_ifs with zero
    · exact List.cons_ne_nil _ _
    · simp [Nat.digits_ne_nil_iff_ne_zero.mpr zero]
  · intro first rest shape more
    unfold toBytesBE at shape
    split_ifs at shape with zero
    · cases shape
      exact absurd rfl more
    · have last := Nat.getLast_digit_ne_zero 256 zero
      have small := Nat.digits_lt_base (by decide : 1 < 256)
        (List.getLast_mem (Nat.digits_ne_nil_iff_ne_zero.mpr zero))
      have front : first = UInt8.ofNat ((Nat.digits 256 value).getLast
          (Nat.digits_ne_nil_iff_ne_zero.mpr zero)) := by
        have heads := congrArg List.head? shape
        rw [List.head?_map, List.head?_reverse,
          List.getLast?_eq_getLast_of_ne_nil (Nat.digits_ne_nil_iff_ne_zero.mpr zero)] at heads
        exact (Option.some.inj heads).symm
      rw [front, UInt8.toNat_ofNat_of_lt' small]
      exact Nat.pos_of_ne_zero last

theorem length_toBytesBE_le_iff (value : Nat) {count : Nat} (positive : 0 < count) :
    (toBytesBE value).length ≤ count ↔ value < 256 ^ count := by
  unfold toBytesBE
  split_ifs with zero
  · rw [zero]
    exact ⟨fun _ => Nat.pow_pos (by decide), fun _ => positive⟩
  · rw [List.length_map, List.length_reverse]
    exact Nat.digits_length_le_iff (by decide) value

/-! ### Hexadecimal digits -/

theorem stripHexMark_append {mark digits : List Char} (marked : mark ∈ hexMarks)
    (hex : ∀ digit ∈ digits, (hexValue digit).isSome = true) :
    stripHexMark (mark ++ digits) = digits := by
  simp only [hexMarks, List.mem_cons, List.not_mem_nil, or_false] at marked
  rcases marked with rfl | rfl | rfl
  · rw [List.nil_append]
    unfold stripHexMark
    split
    next rest =>
      have mark := hex 'x' (List.mem_cons_of_mem _ List.mem_cons_self)
      cases mark
    next rest =>
      have mark := hex 'X' (List.mem_cons_of_mem _ List.mem_cons_self)
      cases mark
    next =>
      rfl
  · rfl
  · rfl

theorem hexNumber_lt (digits : List Char) : hexNumber digits < 16 ^ digits.length := by
  have digit_lt : ∀ digit, (hexValue digit).getD 0 < 16 := by
    intro digit
    cases read : hexValue digit with
    | none =>
        decide
    | some value =>
        exact Bytes.hexValue_lt read
  unfold hexNumber
  induction digits using List.reverseRecOn with
  | nil =>
      decide
  | append_singleton front last ih =>
      have small := digit_lt last
      rw [List.foldl_append, List.foldl_cons, List.foldl_nil, List.length_append,
        List.length_singleton, Nat.pow_succ]
      omega

theorem parseHexSerial_eq {mark digits : List Char} (marked : mark ∈ hexMarks)
    (some : digits ≠ []) (hex : ∀ digit ∈ digits, (hexValue digit).isSome = true) :
    (digits.length ≤ 40 → ∃ bytes, parseHexSerial (String.ofList (mark ++ digits)) = .some bytes ∧
      Minimal (hexNumber digits) bytes) ∧
    (40 < digits.length → parseHexSerial (String.ofList (mark ++ digits)) = none) := by
  -- the digits with a zero in front when their number is odd
  obtain ⟨even, padding, size, number, pairs⟩ : ∃ even,
      (if digits.length % 2 ≠ 0 then '0' :: digits else digits) = even ∧
        (40 < even.length ↔ 40 < digits.length) ∧ hexNumber even = hexNumber digits ∧
          even ≠ [] ∧ even.length % 2 = 0 ∧ ∀ digit ∈ even, (hexValue digit).isSome = true := by
    refine ⟨_, rfl, ?_⟩
    split_ifs with odd
    · refine ⟨?_, hexNumber_zero_cons digits, List.cons_ne_nil _ _, ?_, ?_⟩
      · rw [List.length_cons]
        omega
      · rw [List.length_cons]
        omega
      · intro digit member
        rcases List.mem_cons.mp member with rfl | later
        · rfl
        · exact hex digit later
    · exact ⟨Iff.rfl, rfl, some, by omega, hex⟩
  obtain ⟨evenSome, evenLength, evenHex⟩ := pairs
  have unfolded : parseHexSerial (String.ofList (mark ++ digits)) =
      if 40 < even.length ∨ even = [] then none
      else (Bytes.decodeHexDigits 0 even).toOption.map trimLeadingZeros := by
    unfold parseHexSerial
    rw [String.toList_ofList, stripHexMark_append marked hex, ← padding]
  rw [unfolded]
  constructor
  · intro short
    obtain ⟨bytes, decoded, length⟩ := Bytes.exists_decodeHexDigits evenHex evenLength
    have present : bytes ≠ [] := by
      intro none
      rw [none] at length
      exact evenSome (List.eq_nil_of_length_eq_zero length)
    have minimal := Der.minimal_stripLeadingZeroes present
    rw [Bytes.toNatBE_decodeHexDigits decoded, number, ← trimLeadingZeros_eq] at minimal
    refine ⟨trimLeadingZeros bytes, ?_, minimal⟩
    rw [if_neg (not_or.mpr ⟨fun long => Nat.not_lt.mpr short (size.mp long), evenSome⟩), decoded]
    rfl
  · intro long
    rw [if_pos (Or.inl (size.mpr long))]

/-! ### Both readers -/

theorem parseDecimalSerial_eq {digits : List Char} (some : digits ≠ [])
    (decimal : ∀ digit ∈ digits, digit.isDigit = true) :
    parseDecimalSerial (String.ofList digits) =
      if digits.length ≤ 49 ∧ Nat.ofDigitChars 10 digits 0 < 256 ^ 20 then
        .some (toBytesBE (Nat.ofDigitChars 10 digits 0))
      else none := by
  have all : digits.all Char.isDigit = true := List.all_eq_true.mpr decimal
  have fits := length_toBytesBE_le_iff (Nat.ofDigitChars 10 digits 0) (show 0 < 20 by decide)
  unfold parseDecimalSerial
  rw [String.toList_ofList]
  by_cases long : 49 < digits.length
  · rw [if_pos (Or.inr (Or.inl long)), if_neg (fun both => absurd both.1 (Nat.not_le.mpr long))]
  · rw [if_neg (by simp [some, long, all])]
    dsimp only
    by_cases large : 20 < (toBytesBE (Nat.ofDigitChars 10 digits 0)).length
    · rw [if_pos large, if_neg (fun both => absurd (fits.mpr both.2) (Nat.not_le.mpr large))]
    · rw [if_neg large, if_pos ⟨Nat.le_of_not_lt long, fits.mp (Nat.le_of_not_lt large)⟩]

/-- A number that is read gives its shortest octets, and one of 2^160 or more is
not read. -/
theorem SerialText.parse_spec {text : SerialText} (wellFormed : text.WellFormed) :
    (text.value < 2 ^ 160 → text.digits.length ≤ text.maxDigits →
      ∃ bytes, text.parse = some bytes) ∧
    (2 ^ 160 ≤ text.value → text.parse = none) ∧
    ∀ bytes, text.parse = some bytes → Minimal text.value bytes := by
  have power : (256 ^ 20 : Nat) = 2 ^ 160 ∧ (16 ^ 40 : Nat) = 2 ^ 160 := by decide
  cases text with
  | decimal digits =>
      obtain ⟨nonempty, decimal⟩ := wellFormed
      have read := parseDecimalSerial_eq nonempty decimal
      rw [power.1] at read
      refine ⟨fun small short => ⟨_, read.trans (if_pos ⟨short, small⟩)⟩, ?_, ?_⟩
      · intro large
        exact read.trans (if_neg fun both => absurd both.2 (Nat.not_lt.mpr large))
      · intro bytes parsed
        change parseDecimalSerial (String.ofList digits) = some bytes at parsed
        rw [read] at parsed
        split_ifs at parsed
        cases parsed
        exact minimal_toBytesBE _
  | hexadecimal mark digits =>
      obtain ⟨marked, nonempty, hex⟩ := wellFormed
      obtain ⟨short, long⟩ := parseHexSerial_eq marked nonempty hex
      refine ⟨?_, ?_, ?_⟩
      · intro _ few
        obtain ⟨bytes, parsed, _⟩ := short few
        exact ⟨bytes, parsed⟩
      · intro large
        apply long
        apply Nat.lt_of_not_le
        intro few
        have bound := Nat.lt_of_lt_of_le (hexNumber_lt digits)
          (Nat.pow_le_pow_right (by decide) few)
        rw [power.2] at bound
        exact absurd bound (Nat.not_lt.mpr large)
      · intro bytes parsed
        change parseHexSerial (String.ofList (mark ++ digits)) = some bytes at parsed
        rcases Nat.lt_or_ge 40 digits.length with many | few
        · rw [long many] at parsed
          cases parsed
        · obtain ⟨read, parsedAgain, minimal⟩ := short few
          rw [parsedAgain] at parsed
          cases parsed
          exact minimal

/-- Serials below 2^160 are read as their shortest octets from any spelling with
few enough digits, others are not read, and two spellings give equal octets
exactly when they write the same number. -/
theorem serial_parsers_agree (text other : SerialText) (wellFormed : text.WellFormed)
    (otherWellFormed : other.WellFormed) :
    (text.value < 2 ^ 160 → text.digits.length ≤ text.maxDigits →
      ∃ bytes, text.parse = some bytes ∧ Minimal text.value bytes) ∧
    (2 ^ 160 ≤ text.value → text.parse = none) ∧
    ∀ bytes otherBytes, text.parse = some bytes → other.parse = some otherBytes →
      (bytes = otherBytes ↔ text.value = other.value) := by
  obtain ⟨accepted, refused, minimal⟩ := SerialText.parse_spec wellFormed
  obtain ⟨_, _, otherMinimal⟩ := SerialText.parse_spec otherWellFormed
  refine ⟨?_, refused, ?_⟩
  · intro small short
    obtain ⟨bytes, parsed⟩ := accepted small short
    exact ⟨bytes, parsed, minimal bytes parsed⟩
  · intro bytes otherBytes parsed otherParsed
    have own := minimal bytes parsed
    have others := otherMinimal otherBytes otherParsed
    constructor
    · intro same
      rw [← own.value_eq, ← others.value_eq, same]
    · intro same
      rw [← same] at others
      exact own.unique others

/-- Forty-two, in decimal with a leading zero and in marked hexadecimal. -/
theorem forty_two_agrees :
    (SerialText.decimal ['0', '4', '2']).parse = some [0x2a] ∧
      (SerialText.hexadecimal ['0', 'X'] ['2', 'A']).parse = some [0x2a] ∧
        (SerialText.decimal ['0', '4', '2']).value =
          (SerialText.hexadecimal ['0', 'X'] ['2', 'A']).value := by
  have decimal : (SerialText.decimal ['0', '4', '2']).parse = some [0x2a] := by decide +kernel
  have hexadecimal : (SerialText.hexadecimal ['0', 'X'] ['2', 'A']).parse = some [0x2a] := by
    decide +kernel
  refine ⟨decimal, hexadecimal, ?_⟩
  obtain ⟨_, _, same⟩ := serial_parsers_agree (.decimal ['0', '4', '2'])
    (.hexadecimal ['0', 'X'] ['2', 'A'])
    ⟨by decide, List.all_eq_true.mp (by decide)⟩
    ⟨by decide, by decide, List.all_eq_true.mp (by decide)⟩
  exact (same _ _ decimal hexadecimal).mp rfl

end Hoike
