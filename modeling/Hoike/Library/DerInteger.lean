/-
The content octets of DER INTEGERs.

An INTEGER is a big-endian two's complement number.  A non-negative number
whose first octet has its high bit set gets a zero octet in front.
-/

import Mathlib.Tactic.Linarith
import Hoike.Library.Octets

namespace Der

open Bytes (toNatBE toNatBE_cons toNatBE_lt)

def integerValue : Bytes → Int
  | [] => 0
  | first :: rest =>
      if first.toNat < 128 then toNatBE (first :: rest)
      else toNatBE (first :: rest) - 256 ^ (rest.length + 1)

/-- Leading zero octets go, except the last octet of a zero. -/
def stripLeadingZeroes : Bytes → Bytes
  | 0 :: second :: rest => stripLeadingZeroes (second :: rest)
  | bytes => bytes

def withSignOctet : Bytes → Bytes
  | [] => []
  | first :: rest => if first.toNat < 128 then first :: rest else 0 :: first :: rest

def Stripped (bytes : Bytes) : Prop :=
  ∀ first rest, bytes = first :: rest → rest ≠ [] → 0 < first.toNat

theorem stripped_stripLeadingZeroes (bytes : Bytes) : Stripped (stripLeadingZeroes bytes) := by
  fun_induction stripLeadingZeroes bytes with
  | case1 second rest ih =>
      exact ih
  | case2 bytes noZero =>
      intro first rest shape more
      cases rest with
      | nil =>
          exact absurd rfl more
      | cons second rest =>
          apply Nat.pos_of_ne_zero
          intro zero
          have first_eq : first = 0 := UInt8.toNat_inj.mp zero
          exact noZero second rest (by rw [shape, first_eq])

theorem toNatBE_stripLeadingZeroes (bytes : Bytes) :
    toNatBE (stripLeadingZeroes bytes) = toNatBE bytes := by
  fun_induction stripLeadingZeroes bytes with
  | case1 second rest ih =>
      rw [ih, toNatBE_cons 0]
      simp
  | case2 bytes _ =>
      rfl

theorem stripLeadingZeroes_ne_nil {bytes : Bytes} (some : bytes ≠ []) :
    stripLeadingZeroes bytes ≠ [] := by
  fun_induction stripLeadingZeroes bytes with
  | case1 second rest ih =>
      exact ih (List.cons_ne_nil _ _)
  | case2 bytes _ =>
      exact some

theorem length_stripLeadingZeroes_le (bytes : Bytes) :
    (stripLeadingZeroes bytes).length ≤ bytes.length := by
  fun_induction stripLeadingZeroes bytes with
  | case1 second rest ih =>
      exact Nat.le_succ_of_le ih
  | case2 bytes _ =>
      exact Nat.le_refl _

theorem length_withSignOctet_le (bytes : Bytes) :
    (withSignOctet bytes).length ≤ bytes.length + 1 := by
  cases bytes with
  | nil =>
      exact Nat.zero_le _
  | cons first rest =>
      rw [withSignOctet]
      split_ifs
      · exact Nat.le_succ _
      · exact Nat.le_refl _

/-- The shortest big-endian octets of an unsigned number, one zero octet for
zero. -/
structure Minimal (value : Nat) (bytes : Bytes) : Prop where
  value_eq : toNatBE bytes = value
  nonempty : bytes ≠ []
  stripped : Stripped bytes

theorem Minimal.le_value {value : Nat} {bytes : Bytes} (minimal : Minimal value bytes)
    {count : Nat} (longer : count + 1 < bytes.length) : 256 ^ (count + 1) ≤ value := by
  cases bytes with
  | nil =>
      exact absurd rfl minimal.nonempty
  | cons first rest =>
      rw [List.length_cons] at longer
      have more : rest ≠ [] := by
        intro none
        rw [none, List.length_nil] at longer
        omega
      have positive := minimal.stripped first rest rfl more
      rw [← minimal.value_eq, toNatBE_cons]
      calc 256 ^ (count + 1)
          ≤ 256 ^ rest.length := Nat.pow_le_pow_right (by decide) (by omega)
        _ ≤ first.toNat * 256 ^ rest.length := Nat.le_mul_of_pos_left _ positive
        _ ≤ first.toNat * 256 ^ rest.length + toNatBE rest := Nat.le_add_right _ _

theorem Minimal.length_le {value : Nat} {left right : Bytes} (first : Minimal value left)
    (second : Minimal value right) : left.length ≤ right.length := by
  apply Nat.le_of_not_lt
  intro longer
  have below := toNatBE_lt right
  rw [second.value_eq] at below
  obtain ⟨count, size⟩ : ∃ count, right.length = count + 1 := by
    exact ⟨right.length - 1, (Nat.succ_pred_eq_of_pos
      (List.length_pos_iff.mpr second.nonempty)).symm⟩
  rw [size] at below longer
  exact absurd below (Nat.not_lt.mpr (first.le_value longer))

theorem Minimal.unique {value : Nat} {left right : Bytes} (first : Minimal value left)
    (second : Minimal value right) : left = right := by
  have size : left.length = right.length :=
    Nat.le_antisymm (first.length_le second) (second.length_le first)
  rw [← Bytes.ofNatBE_toNatBE left, ← Bytes.ofNatBE_toNatBE right, size, first.value_eq,
    second.value_eq]

theorem minimal_stripLeadingZeroes {bytes : Bytes} (some : bytes ≠ []) :
    Minimal (toNatBE bytes) (stripLeadingZeroes bytes) where
  value_eq := toNatBE_stripLeadingZeroes bytes
  nonempty := stripLeadingZeroes_ne_nil some
  stripped := stripped_stripLeadingZeroes bytes

theorem integerValue_withSignOctet (bytes : Bytes) :
    integerValue (withSignOctet bytes) = toNatBE bytes := by
  cases bytes with
  | nil =>
      rfl
  | cons first rest =>
      rw [withSignOctet]
      split_ifs with small
      · rw [integerValue, if_pos small]
      · rw [integerValue, if_pos (by decide), toNatBE_cons 0]
        simp

theorem integerValue_eq_toNatBE_iff (content : Bytes) :
    integerValue content = toNatBE content ↔ 0 ≤ integerValue content := by
  cases content with
  | nil =>
      decide
  | cons first rest =>
      have below := toNatBE_lt (first :: rest)
      rw [List.length_cons] at below
      have bound : (toNatBE (first :: rest) : Int) < 256 ^ (rest.length + 1) := by
        exact_mod_cast below
      have positive : (0 : Int) < 256 ^ (rest.length + 1) := by positivity
      rw [integerValue]
      split_ifs with small
      · simp
      · omega

/-- The content octets fit exactly when the number does. -/
theorem length_withSignOctet_le_iff {bytes : Bytes} (stripped : Stripped bytes) {count : Nat}
    (positive : 0 < count) :
    (withSignOctet bytes).length ≤ count ↔ 2 * toNatBE bytes < 256 ^ count := by
  cases bytes with
  | nil =>
      simp [withSignOctet, toNatBE]
  | cons first rest =>
      have digit := first.toNat_lt
      have tail := toNatBE_lt rest
      have power : 256 ^ (rest.length + 1) = 256 * 256 ^ rest.length := Nat.pow_succ'
      have grows : ∀ {small large : Nat}, small ≤ large → 256 ^ small ≤ 256 ^ large :=
        fun below => Nat.pow_le_pow_right (by decide) below
      rw [toNatBE_cons, withSignOctet]
      split_ifs with small
      · rw [List.length_cons]
        constructor
        · intro fits
          have room := grows fits
          have scaled := Nat.mul_le_mul_right (256 ^ rest.length) (Nat.succ_le_of_lt small)
          rw [Nat.succ_mul] at scaled
          omega
        · intro fits
          apply Nat.le_of_not_lt
          intro large
          have room := grows (Nat.le_of_lt_succ large)
          by_cases more : rest = []
          · subst more
            simp only [List.length_nil] at large
            omega
          · have one := Nat.mul_le_mul_right (256 ^ rest.length)
              (stripped first rest rfl more)
            omega
      · rw [List.length_cons, List.length_cons]
        constructor
        · intro fits
          have room := grows fits
          have next : 256 ^ (rest.length + 1 + 1) = 256 * 256 ^ (rest.length + 1) :=
            Nat.pow_succ'
          have scaled := Nat.mul_le_mul_right (256 ^ rest.length) (Nat.succ_le_of_lt digit)
          rw [Nat.succ_mul] at scaled
          omega
        · intro fits
          apply Nat.le_of_not_lt
          intro large
          have room := grows (show count ≤ rest.length + 1 by omega)
          have scaled := Nat.mul_le_mul_right (256 ^ rest.length) (Nat.le_of_not_lt small)
          omega

theorem withSignOctet_injective {left right : Bytes} (strippedLeft : Stripped left)
    (strippedRight : Stripped right) (same : withSignOctet left = withSignOctet right) :
    left = right := by
  cases left with
  | nil =>
      cases right with
      | nil =>
          rfl
      | cons first rest =>
          rw [withSignOctet, withSignOctet] at same
          split_ifs at same
  | cons first rest =>
      cases right with
      | nil =>
          rw [withSignOctet, withSignOctet] at same
          split_ifs at same
      | cons other others =>
          rw [withSignOctet, withSignOctet] at same
          split_ifs at same with small low low
          · exact same
          · obtain ⟨zero, rest'⟩ := List.cons.inj same
            have positive := strippedLeft first rest rfl (by rw [rest']; exact List.cons_ne_nil _ _)
            rw [zero] at positive
            exact absurd positive (by decide)
          · obtain ⟨zero, rest'⟩ := List.cons.inj same
            have positive := strippedRight other others rfl
              (by rw [← rest']; exact List.cons_ne_nil _ _)
            rw [← zero] at positive
            exact absurd positive (by decide)
          · exact (List.cons.inj same).2

end Der
