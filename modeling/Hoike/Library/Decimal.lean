/-
Decimal text of a fixed width.
-/

import Mathlib.Data.Nat.Digits.Defs

namespace Decimal

/-- The last `width` decimal digits of a number, most significant first. -/
def padded : (width value : Nat) → List Char
  | 0, _ => []
  | width + 1, value => Nat.digitChar (value / 10 ^ width % 10) :: padded width value

@[simp] theorem length_padded (width value : Nat) : (padded width value).length = width := by
  induction width with
  | zero =>
      rfl
  | succ width ih =>
      rw [padded, List.length_cons, ih]

theorem isDigit_digitChar {digit : Nat} (small : digit < 10) :
    (Nat.digitChar digit).isDigit = true := by
  have all : ∀ digit < 10, (Nat.digitChar digit).isDigit = true := by decide
  exact all digit small

theorem isDigit_of_mem_padded {width value : Nat} {character : Char}
    (member : character ∈ padded width value) : character.isDigit = true := by
  induction width with
  | zero =>
      cases member
  | succ width ih =>
      rw [padded, List.mem_cons] at member
      rcases member with first | later
      · rw [first]
        exact isDigit_digitChar (Nat.mod_lt _ (by decide))
      · exact ih later

theorem exists_digitChar {character : Char} (decimal : character.isDigit = true) :
    ∃ digit < 10, character = Nat.digitChar digit := by
  have range : 48 ≤ character.toNat ∧ character.toNat ≤ 57 := by
    rw [Char.isDigit, Bool.and_eq_true, decide_eq_true_iff, decide_eq_true_iff] at decimal
    exact decimal
  refine ⟨character.toNat - 48, by omega, ?_⟩
  apply Char.toNat_inj.mp
  have codes : ∀ digit < 10, (Nat.digitChar digit).toNat = digit + 48 := by decide
  rw [codes _ (by omega)]
  omega

theorem padded_add_mul (width high low : Nat) :
    padded width (10 ^ width * high + low) = padded width low := by
  induction width generalizing high with
  | zero =>
      rfl
  | succ width ih =>
      have scale : 0 < 10 ^ width := Nat.pow_pos (by decide)
      have shifted : 10 ^ (width + 1) * high = 10 ^ width * (10 * high) := by
        rw [Nat.pow_succ, Nat.mul_assoc]
      rw [shifted, padded, padded, ih, Nat.mul_add_div scale, Nat.mul_add_mod]

theorem ofDigitChars_padded {width value : Nat} (inRange : value < 10 ^ width) :
    Nat.ofDigitChars 10 (padded width value) 0 = value := by
  have kept : Nat.ofDigitChars 10 (padded width value) 0 = value % 10 ^ width := by
    clear inRange
    induction width with
    | zero =>
        rw [padded, Nat.ofDigitChars_nil, Nat.pow_zero, Nat.mod_one]
    | succ width ih =>
        have digit : value / 10 ^ width % 10 < 10 := Nat.mod_lt _ (by decide)
        rw [padded, Nat.ofDigitChars_cons_digitChar_of_lt_ten digit,
          Nat.ofDigitChars_eq_ofDigitChars_zero, length_padded, ih, Nat.mod_pow_succ,
          Nat.mul_zero, Nat.zero_add]
        exact Nat.add_comm _ _
  rw [kept, Nat.mod_eq_of_lt inRange]

theorem exists_padded {digits : List Char}
    (decimal : ∀ character ∈ digits, character.isDigit = true) :
    ∃ value < 10 ^ digits.length, digits = padded digits.length value := by
  induction digits with
  | nil =>
      exact ⟨0, by decide, rfl⟩
  | cons first rest ih =>
      obtain ⟨value, small, read⟩ := ih fun character later =>
        decimal character (List.mem_cons_of_mem _ later)
      obtain ⟨digit, single, written⟩ := exists_digitChar (decimal first List.mem_cons_self)
      have scale : 0 < 10 ^ rest.length := Nat.pow_pos (by decide)
      refine ⟨digit * 10 ^ rest.length + value, ?_, ?_⟩
      · rw [List.length_cons, Nat.pow_succ]
        calc digit * 10 ^ rest.length + value
            < digit * 10 ^ rest.length + 10 ^ rest.length := Nat.add_lt_add_left small _
          _ = (digit + 1) * 10 ^ rest.length := (Nat.succ_mul _ _).symm
          _ ≤ 10 * 10 ^ rest.length := Nat.mul_le_mul_right _ single
          _ = 10 ^ rest.length * 10 := Nat.mul_comm _ _
      · rw [List.length_cons, padded, Nat.mul_comm, Nat.mul_add_div scale,
          Nat.div_eq_of_lt small, Nat.add_zero, Nat.mod_eq_of_lt single, ← written,
          padded_add_mul, ← read]

theorem exists_padded_append {digits : List Char} (width count : Nat)
    (decimal : ∀ character ∈ digits, character.isDigit = true)
    (long : digits.length = width + count) :
    ∃ value < 10 ^ width, ∃ rest, digits = padded width value ++ rest ∧ rest.length = count ∧
      ∀ character ∈ rest, character.isDigit = true := by
  have size : (digits.take width).length = width := List.length_take_of_le (by omega)
  have front : ∀ character ∈ digits.take width, character.isDigit = true := by
    intro character member
    exact decimal character (List.mem_of_mem_take member)
  obtain ⟨value, small, read⟩ := exists_padded front
  rw [size] at small read
  refine ⟨value, small, digits.drop width, ?_, ?_, ?_⟩
  · rw [← read, List.take_append_drop]
  · rw [List.length_drop]
    omega
  · intro character back
    exact decimal character (List.mem_of_mem_drop back)

end Decimal
