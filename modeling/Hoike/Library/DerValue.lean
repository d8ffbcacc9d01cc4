/-
DER encodings as relations between values and octets.

A length is definite and as short as possible, an INTEGER has no octet that
only repeats its sign, and nothing follows the last content octet.  Each value
then has at most one encoding.
-/

import Hoike.Library.DerInteger

namespace Der

open Bytes (toNatBE toNatBE_cons toNatBE_lt)

/-! ### Lengths -/

/-- The octets of a definite length, in the shortest form. -/
inductive DefiniteLength : Nat → Bytes → Prop
  | short {length : Nat} (small : length < 128) : DefiniteLength length [UInt8.ofNat length]
  | long {length : Nat} {octets : Bytes} (large : 128 ≤ length)
      (minimal : Minimal length octets) (few : octets.length < 127) :
      DefiniteLength length (UInt8.ofNat (128 + octets.length) :: octets)

theorem DefiniteLength.unique {length : Nat} {left right : Bytes}
    (first : DefiniteLength length left) (second : DefiniteLength length right) :
    left = right := by
  cases first with
  | short small =>
      cases second with
      | short _ =>
          rfl
      | long large _ _ =>
          exact absurd small (Nat.not_lt.mpr large)
  | long large minimal _ =>
      cases second with
      | short small =>
          exact absurd small (Nat.not_lt.mpr large)
      | long _ otherMinimal _ =>
          rw [minimal.unique otherMinimal]

def Tlv (tag : UInt8) (content bytes : Bytes) : Prop :=
  ∃ octets, DefiniteLength content.length octets ∧ bytes = tag :: (octets ++ content)

theorem Tlv.unique {tag : UInt8} {content left right : Bytes} (first : Tlv tag content left)
    (second : Tlv tag content right) : left = right := by
  obtain ⟨octets, length, rfl⟩ := first
  obtain ⟨others, otherLength, rfl⟩ := second
  rw [length.unique otherLength]

theorem Tlv.of_short (tag : UInt8) {content : Bytes} (small : content.length < 128) :
    Tlv tag content (tag :: UInt8.ofNat content.length :: content) :=
  ⟨[UInt8.ofNat content.length], .short small, rfl⟩

/-! ### Integers -/

/-- The content octets of an INTEGER: the first nine bits are not all equal. -/
structure IntegerContent (value : Int) (content : Bytes) : Prop where
  value_eq : integerValue content = value
  nonempty : content ≠ []
  notZeros : ∀ second rest, content = 0 :: second :: rest → 128 ≤ second.toNat
  notOnes : ∀ second rest, content = 0xff :: second :: rest → second.toNat < 128

theorem integerContent_of_minimal {value : Nat} {bytes : Bytes}
    (minimal : Minimal value bytes) : IntegerContent value (withSignOctet bytes) := by
  cases bytes with
  | nil =>
      exact absurd rfl minimal.nonempty
  | cons first rest =>
      have kept := integerValue_withSignOctet (first :: rest)
      rw [minimal.value_eq] at kept
      refine ⟨kept, ?_, ?_, ?_⟩
      · rw [withSignOctet]
        split_ifs <;> exact List.cons_ne_nil _ _
      · intro second others shape
        rw [withSignOctet] at shape
        split_ifs at shape with small
        · obtain ⟨zero, tail⟩ := List.cons.inj shape
          have positive := minimal.stripped first rest rfl
            (by rw [tail]; exact List.cons_ne_nil _ _)
          rw [zero] at positive
          exact absurd positive (by decide)
        · cases shape
          exact Nat.le_of_not_lt small
      · intro second others shape
        rw [withSignOctet] at shape
        split_ifs at shape with small
        · obtain ⟨ones, _⟩ := List.cons.inj shape
          rw [ones] at small
          exact absurd small (by decide)
        · cases (List.cons.inj shape).1

theorem IntegerContent.eq_withSignOctet {value : Nat} {content bytes : Bytes}
    (encoded : IntegerContent value content) (minimal : Minimal value bytes) :
    content = withSignOctet bytes := by
  have unsigned : toNatBE content = value := by
    have sign := (integerValue_eq_toNatBE_iff content).mpr
      (by rw [encoded.value_eq]; exact Int.natCast_nonneg value)
    rw [encoded.value_eq] at sign
    exact_mod_cast sign.symm
  cases content with
  | nil =>
      exact absurd rfl encoded.nonempty
  | cons first rest =>
      have low : first.toNat < 128 := by
        apply Nat.lt_of_not_le
        intro high
        have negative := encoded.value_eq
        rw [integerValue, if_neg (Nat.not_lt.mpr high), unsigned] at negative
        have power : (0 : Int) < 256 ^ (rest.length + 1) := by positivity
        omega
      by_cases sign : first = 0 ∧ rest ≠ []
      · obtain ⟨rfl, more⟩ := sign
        obtain ⟨second, others, rfl⟩ := List.exists_cons_of_ne_nil more
        have high := encoded.notZeros second others rfl
        have inner : Minimal value (second :: others) := by
          refine ⟨?_, List.cons_ne_nil _ _, ?_⟩
          · rw [← unsigned, toNatBE_cons 0]
            simp
          · intro head tail shape _
            rw [← (List.cons.inj shape).1]
            omega
        rw [minimal.unique inner, withSignOctet, if_neg (Nat.not_lt.mpr high)]
      · have whole : Minimal value (first :: rest) := by
          refine ⟨unsigned, List.cons_ne_nil _ _, ?_⟩
          intro head tail shape more
          obtain ⟨rfl, rfl⟩ := List.cons.inj shape
          apply Nat.pos_of_ne_zero
          intro zero
          exact sign ⟨UInt8.toNat_inj.mp zero, more⟩
        rw [minimal.unique whole, withSignOctet, if_pos low]

/-! ### Pairs of integers -/

def IntegerPair (first second : Int) (bytes : Bytes) : Prop :=
  ∃ firstContent secondContent firstBytes secondBytes,
    IntegerContent first firstContent ∧ IntegerContent second secondContent ∧
      Tlv 0x02 firstContent firstBytes ∧ Tlv 0x02 secondContent secondBytes ∧
        Tlv 0x30 (firstBytes ++ secondBytes) bytes

/-- Two unsigned numbers have one encoding only, that of their shortest octets. -/
theorem integerPair_iff {first second : Nat} {firstOctets secondOctets : Bytes}
    (firstMinimal : Minimal first firstOctets) (secondMinimal : Minimal second secondOctets)
    {firstBytes secondBytes whole : Bytes}
    (firstTlv : Tlv 0x02 (withSignOctet firstOctets) firstBytes)
    (secondTlv : Tlv 0x02 (withSignOctet secondOctets) secondBytes)
    (wholeTlv : Tlv 0x30 (firstBytes ++ secondBytes) whole) (bytes : Bytes) :
    IntegerPair first second bytes ↔ bytes = whole := by
  constructor
  · rintro ⟨_, _, _, _, firstContent, secondContent, firstOther, secondOther, pair⟩
    rw [firstContent.eq_withSignOctet firstMinimal] at firstOther
    rw [secondContent.eq_withSignOctet secondMinimal] at secondOther
    rw [firstOther.unique firstTlv, secondOther.unique secondTlv] at pair
    exact pair.unique wholeTlv
  · rintro rfl
    exact ⟨_, _, _, _, integerContent_of_minimal firstMinimal,
      integerContent_of_minimal secondMinimal, firstTlv, secondTlv, wholeTlv⟩

end Der
