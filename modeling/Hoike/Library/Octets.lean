/-
Octet strings, big-endian integers and hexadecimal text.

The encodings are the ones of the usual byte-order and hex codecs: fixed-width
big-endian integers, and lower-case hex on output with either case accepted on
input.  Both directions compute.
-/

import Mathlib.Algebra.Group.Nat.Defs
import Mathlib.Data.List.Basic
import Mathlib.Data.List.Induction

abbrev Bytes := List UInt8

abbrev Octets (count : Nat) := { bytes : Bytes // bytes.length = count }

instance Bytes.lawfulBEq : LawfulBEq Bytes := inferInstance

def Octets.filled (count : Nat) (octet : UInt8) : Octets count :=
  ⟨List.replicate count octet, List.length_replicate⟩

namespace Bytes

/-! ### Big-endian integers -/

/-- The last `width` base-256 digits of `value`, most significant first. -/
def ofNatBE : (width value : Nat) → Bytes
  | 0, _ => []
  | width + 1, value => ofNatBE width (value / 256) ++ [UInt8.ofNat (value % 256)]

def toNatBE (bytes : Bytes) : Nat :=
  bytes.foldl (fun value byte => value * 256 + byte.toNat) 0

@[simp] theorem length_ofNatBE (width value : Nat) :
    (ofNatBE width value).length = width := by
  induction width generalizing value with
  | zero =>
      rfl
  | succ width ih =>
      simp [ofNatBE, ih]

theorem toNatBE_append_singleton (bytes : Bytes) (byte : UInt8) :
    toNatBE (bytes ++ [byte]) = toNatBE bytes * 256 + byte.toNat := by
  simp [toNatBE]

theorem toNatBE_ofNatBE {width value : Nat} (inRange : value < 256 ^ width) :
    toNatBE (ofNatBE width value) = value := by
  induction width generalizing value with
  | zero =>
      have zero : value = 0 := by simpa using inRange
      rw [zero]
      rfl
  | succ width ih =>
      have quotient : value / 256 < 256 ^ width := by
        rw [Nat.pow_succ] at inRange
        exact Nat.div_lt_of_lt_mul (by omega)
      have digit : (UInt8.ofNat (value % 256)).toNat = value % 256 :=
        UInt8.toNat_ofNat_of_lt' (Nat.mod_lt _ (by decide))
      rw [ofNatBE, toNatBE_append_singleton, ih quotient, digit]
      omega

theorem ofNatBE_toNatBE (bytes : Bytes) : ofNatBE bytes.length (toNatBE bytes) = bytes := by
  induction bytes using List.reverseRecOn with
  | nil =>
      rfl
  | append_singleton front last ih =>
      have below := last.toNat_lt
      have quotient : (toNatBE front * 256 + last.toNat) / 256 = toNatBE front := by omega
      have digit : (toNatBE front * 256 + last.toNat) % 256 = last.toNat := by omega
      rw [List.length_append, List.length_singleton, toNatBE_append_singleton, ofNatBE, quotient,
        digit, ih, UInt8.ofNat_toNat]

theorem foldl_toNatBE (bytes : Bytes) (front : Nat) :
    bytes.foldl (fun value byte => value * 256 + byte.toNat) front =
      front * 256 ^ bytes.length + toNatBE bytes := by
  induction bytes generalizing front with
  | nil =>
      simp [toNatBE]
  | cons byte rest ih =>
      have tail := ih (0 * 256 + byte.toNat)
      unfold toNatBE at ih tail ⊢
      rw [List.foldl_cons, List.foldl_cons, ih, tail, List.length_cons, Nat.pow_succ',
        Nat.zero_mul, Nat.zero_add, Nat.add_mul, Nat.mul_assoc, Nat.add_assoc]

theorem toNatBE_cons (byte : UInt8) (rest : Bytes) :
    toNatBE (byte :: rest) = byte.toNat * 256 ^ rest.length + toNatBE rest := by
  have folded := foldl_toNatBE rest byte.toNat
  unfold toNatBE at folded ⊢
  rw [List.foldl_cons, Nat.zero_mul, Nat.zero_add, folded]

theorem toNatBE_lt (bytes : Bytes) : toNatBE bytes < 256 ^ bytes.length := by
  induction bytes with
  | nil =>
      decide
  | cons byte rest ih =>
      have digit : (byte.toNat + 1) * 256 ^ rest.length ≤ 256 * 256 ^ rest.length :=
        Nat.mul_le_mul_right _ byte.toNat_lt
      rw [toNatBE_cons, List.length_cons, Nat.pow_succ']
      rw [Nat.add_mul, Nat.one_mul] at digit
      omega

def unpack : (width value : Nat) → (tail : Bytes) → Bytes
  | 0, _, tail => tail
  | width + 1, value, tail => unpack width (value / 256) (UInt8.ofNat (value % 256) :: tail)

theorem unpack_eq (width value : Nat) (tail : Bytes) :
    unpack width value tail = ofNatBE width value ++ tail := by
  induction width generalizing value tail with
  | zero =>
      rfl
  | succ width ih =>
      rw [unpack, ih, ofNatBE, List.append_assoc, List.singleton_append]

@[simp] theorem length_unpack (width value : Nat) (tail : Bytes) :
    (unpack width value tail).length = width + tail.length := by
  rw [unpack_eq, List.length_append, length_ofNatBE]

/-! ### Hexadecimal text -/

def hexDigits (byte : UInt8) : List Char :=
  [Nat.digitChar (byte.toNat / 16), Nat.digitChar (byte.toNat % 16)]

def encodeHex (bytes : Bytes) : String :=
  String.ofList (bytes.flatMap hexDigits)

def hexValue (digit : Char) : Option Nat :=
  if '0' ≤ digit ∧ digit ≤ '9' then some (digit.toNat - '0'.toNat)
  else if 'a' ≤ digit ∧ digit ≤ 'f' then some (digit.toNat - 'a'.toNat + 10)
  else if 'A' ≤ digit ∧ digit ≤ 'F' then some (digit.toNat - 'A'.toNat + 10)
  else none

inductive HexError where
  | oddLength
  | invalidHexCharacter (character : Char) (index : Nat)
deriving DecidableEq, Repr

def HexError.display : HexError → String
  | oddLength => "Odd number of digits"
  | invalidHexCharacter character index =>
      s!"Invalid character '{character}' at position {index}"

def decodeHexDigits : (index : Nat) → List Char → Except HexError Bytes
  | _, [] => .ok []
  | _, [_] => .error .oddLength
  | index, high :: low :: rest =>
      match hexValue high, hexValue low with
      | none, _ => .error (.invalidHexCharacter high index)
      | some _, none => .error (.invalidHexCharacter low (index + 1))
      | some upper, some lower =>
          match decodeHexDigits (index + 2) rest with
          | .error error => .error error
          | .ok bytes => .ok (UInt8.ofNat (upper * 16 + lower) :: bytes)

/-- The length is checked before any digit is looked at. -/
def decodeHex (text : String) : Except HexError Bytes :=
  if text.toList.length % 2 = 0 then decodeHexDigits 0 text.toList
  else .error .oddLength

theorem hexValue_digitChar {value : Nat} (inRange : value < 16) :
    hexValue (Nat.digitChar value) = some value := by
  have all : ∀ digit : Fin 16, hexValue (Nat.digitChar digit) = some digit.val := by
    decide
  exact all ⟨value, inRange⟩

theorem decodeHexDigits_flatMap (index : Nat) (bytes : Bytes) :
    decodeHexDigits index (bytes.flatMap hexDigits) = .ok bytes := by
  induction bytes generalizing index with
  | nil =>
      rfl
  | cons byte rest ih =>
      have bound := byte.toNat_lt
      have value : UInt8.ofNat (byte.toNat / 16 * 16 + byte.toNat % 16) = byte := by
        rw [Nat.div_add_mod']
        exact UInt8.ofNat_toNat
      simp only [List.flatMap_cons, hexDigits, List.cons_append, List.nil_append,
        decodeHexDigits, hexValue_digitChar (show byte.toNat / 16 < 16 by omega),
        hexValue_digitChar (show byte.toNat % 16 < 16 by omega), ih, value]

@[simp] theorem toList_encodeHex (bytes : Bytes) :
    (encodeHex bytes).toList = bytes.flatMap hexDigits :=
  String.toList_ofList

theorem length_flatMap_hexDigits (bytes : Bytes) :
    (bytes.flatMap hexDigits).length = 2 * bytes.length := by
  induction bytes with
  | nil =>
      rfl
  | cons byte rest ih =>
      simp only [List.flatMap_cons, List.length_append, ih, List.length_cons, hexDigits,
        List.length_nil]
      omega

@[simp] theorem decodeHex_encodeHex (bytes : Bytes) :
    decodeHex (encodeHex bytes) = .ok bytes := by
  unfold decodeHex
  rw [toList_encodeHex, length_flatMap_hexDigits, if_pos (by omega)]
  exact decodeHexDigits_flatMap 0 bytes

theorem encodeHex_injective {left right : Bytes}
    (same : encodeHex left = encodeHex right) : left = right := by
  have decoded := decodeHex_encodeHex left
  rw [same, decodeHex_encodeHex] at decoded
  exact (Except.ok.inj decoded).symm

theorem hexValue_isSome_of_mem_encodeHex {bytes : Bytes} {digit : Char}
    (member : digit ∈ (encodeHex bytes).toList) : (hexValue digit).isSome := by
  rw [toList_encodeHex] at member
  obtain ⟨byte, _, inDigits⟩ := List.mem_flatMap.mp member
  have bound := byte.toNat_lt
  simp only [hexDigits, List.mem_cons, List.not_mem_nil, or_false] at inDigits
  rcases inDigits with high | low
  · rw [high, hexValue_digitChar (by omega)]
    rfl
  · rw [low, hexValue_digitChar (by omega)]
    rfl

theorem hexValue_lt {digit : Char} {value : Nat} (read : hexValue digit = some value) :
    value < 16 := by
  unfold hexValue at read
  split_ifs at read with decimal lower upper
  · cases read
    have above : digit.toNat ≤ '9'.toNat := decimal.2
    have zero : '0'.toNat = 48 ∧ '9'.toNat = 57 := by decide
    omega
  · cases read
    have above : digit.toNat ≤ 'f'.toNat := lower.2
    have letters : 'a'.toNat = 97 ∧ 'f'.toNat = 102 := by decide
    omega
  · cases read
    have above : digit.toNat ≤ 'F'.toNat := upper.2
    have letters : 'A'.toNat = 65 ∧ 'F'.toNat = 70 := by decide
    omega

def hexNumber (digits : List Char) : Nat :=
  digits.foldl (fun value digit => value * 16 + (hexValue digit).getD 0) 0

theorem toNatBE_decodeHexDigits {index : Nat} {digits : List Char} {bytes : Bytes}
    (decoded : decodeHexDigits index digits = .ok bytes) : toNatBE bytes = hexNumber digits := by
  have folds : ∀ front : Nat,
      bytes.foldl (fun value byte => value * 256 + byte.toNat) front =
        digits.foldl (fun value digit => value * 16 + (hexValue digit).getD 0) front := by
    fun_induction decodeHexDigits index digits generalizing bytes with
    | case1 =>
        cases decoded
        intro front
        rfl
    | case2 =>
        cases decoded
    | case3 =>
        cases decoded
    | case4 =>
        cases decoded
    | case5 =>
        cases decoded
    | case6 index high low rest upper lower highRead lowRead others read ih =>
        cases decoded
        intro front
        have upperFits := hexValue_lt highRead
        have lowerFits := hexValue_lt lowRead
        have octet : (UInt8.ofNat (upper * 16 + lower)).toNat = upper * 16 + lower :=
          UInt8.toNat_ofNat_of_lt' (show upper * 16 + lower < 256 by omega)
        have step : front * 256 + (upper * 16 + lower) = (front * 16 + upper) * 16 + lower := by
          omega
        rw [List.foldl_cons, List.foldl_cons, List.foldl_cons, highRead, lowRead, octet,
          ih read, step]
        rfl
  exact folds 0

theorem exists_decodeHexDigits {index : Nat} {digits : List Char}
    (hex : ∀ digit ∈ digits, (hexValue digit).isSome) (even : digits.length % 2 = 0) :
    ∃ bytes, decodeHexDigits index digits = .ok bytes ∧ digits.length = 2 * bytes.length := by
  induction digits using List.twoStepInduction generalizing index with
  | nil =>
      exact ⟨[], rfl, rfl⟩
  | singleton digit =>
      cases even
  | cons_cons high low rest ih _ =>
      obtain ⟨upper, highRead⟩ := Option.isSome_iff_exists.mp (hex high List.mem_cons_self)
      obtain ⟨lower, lowRead⟩ := Option.isSome_iff_exists.mp
        (hex low (List.mem_cons_of_mem _ List.mem_cons_self))
      have others : ∀ digit ∈ rest, (hexValue digit).isSome := by
        intro digit member
        exact hex digit (List.mem_cons_of_mem _ (List.mem_cons_of_mem _ member))
      rw [List.length_cons, List.length_cons] at even ⊢
      obtain ⟨bytes, decoded, size⟩ := @ih (index + 2) others (by omega)
      refine ⟨UInt8.ofNat (upper * 16 + lower) :: bytes, ?_, ?_⟩
      · simp only [decodeHexDigits, highRead, lowRead, decoded]
      · rw [List.length_cons, size]
        omega

/-! ### Separated text -/

private theorem append_separator_inj {α : Type} {separator : α}
    {left right left' right' : List α} (absent : separator ∉ left)
    (absent' : separator ∉ left')
    (same : left ++ separator :: right = left' ++ separator :: right') :
    left = left' ∧ right = right' := by
  induction left generalizing left' with
  | nil =>
      cases left' with
      | nil =>
          exact ⟨rfl, (List.cons.inj same).2⟩
      | cons head tail =>
          exact absurd ((List.cons.inj same).1 ▸ List.mem_cons_self) absent'
  | cons head tail ih =>
      cases left' with
      | nil =>
          exact absurd ((List.cons.inj same).1.symm ▸ List.mem_cons_self) absent
      | cons head' tail' =>
          obtain ⟨sameHead, sameTail⟩ := List.cons.inj same
          obtain ⟨tails, rights⟩ := ih
            (fun member => absent (List.mem_cons_of_mem _ member))
            (fun member => absent' (List.mem_cons_of_mem _ member)) sameTail
          exact ⟨by rw [sameHead, tails], rights⟩

/-- A name and a hex string joined by a separator that is no hex digit can be
told apart again, even when the name itself contains the separator. -/
theorem append_separator_encodeHex_injective {separator : Char}
    (notHex : hexValue separator = none) {name name' : String} {bytes bytes' : Bytes}
    (same : name.toList ++ separator :: (encodeHex bytes).toList =
      name'.toList ++ separator :: (encodeHex bytes').toList) :
    name = name' ∧ bytes = bytes' := by
  have absent : ∀ bytes : Bytes, separator ∉ (encodeHex bytes).toList.reverse := by
    intro bytes member
    have digit := hexValue_isSome_of_mem_encodeHex (List.mem_reverse.mp member)
    rw [notHex] at digit
    cases digit
  -- The separator that counts is the last one, so the comparison runs backwards.
  have backwards := congrArg List.reverse same
  simp only [List.reverse_append, List.reverse_cons, List.append_assoc,
    List.singleton_append] at backwards
  obtain ⟨sameHex, sameName⟩ := append_separator_inj (absent bytes) (absent bytes') backwards
  refine ⟨String.toList_injective (List.reverse_injective sameName), ?_⟩
  exact encodeHex_injective (String.toList_injective (List.reverse_injective sameHex))

end Bytes
