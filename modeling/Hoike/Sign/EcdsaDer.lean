/-
ECDSA signatures in DER (`seal.rs`, `pkcs11.rs`).

The seal and the PKCS#11 bridge each turn the 64 octets r || s of a P-256
signature into a SEQUENCE of two INTEGERs.
-/

import Hoike.Library.DerValue

namespace Hoike

open Bytes (toNatBE)
open Der (stripLeadingZeroes withSignOctet Tlv Minimal IntegerPair)

def fromFirstNonzero (val : Bytes) : Bytes :=
  val.drop ((val.findIdx? fun b => b ≠ 0).getD (val.length - 1))

/-- `encode_integer` of both encoders.  The length is cut to an octet. -/
def encodeInteger (val : Bytes) : Bytes :=
  let val := fromFirstNonzero val
  let needsPad := val.head?.any fun b => b &&& 0x80 ≠ 0
  let len := val.length + if needsPad then 1 else 0
  [0x02, UInt8.ofNat len] ++ (if needsPad then [0x00] else []) ++ val

/-- Octets of another length are left as they are. -/
def ecdsaRawToDer (raw : Bytes) : Bytes :=
  if raw.length ≠ 64 then raw
  else
    let rEnc := encodeInteger (raw.take 32)
    let sEnc := encodeInteger (raw.drop 32)
    let total := rEnc.length + sEnc.length
    [0x30, UInt8.ofNat total] ++ rEnc ++ sEnc

def rawEcdsaToDer (raw : Bytes) : Except String Bytes :=
  if raw.length ≠ 64 then .error "expected 64-byte raw ECDSA signature for P-256"
  else
    let rEnc := encodeInteger (raw.take 32)
    let sEnc := encodeInteger (raw.drop 32)
    let seqLen := rEnc.length + sEnc.length
    let lengthOctets :=
      if seqLen < 128 then [UInt8.ofNat seqLen] else [0x81, UInt8.ofNat seqLen]
    .ok ([0x30] ++ lengthOctets ++ rEnc ++ sEnc)

/-! ### One integer -/

theorem fromFirstNonzero_eq {val : Bytes} (some : val ≠ []) :
    fromFirstNonzero val = stripLeadingZeroes val := by
  unfold fromFirstNonzero
  fun_induction stripLeadingZeroes val with
  | case1 second rest ih =>
      rw [← ih (List.cons_ne_nil _ _), List.findIdx?_cons, if_neg (by decide)]
      cases (second :: rest).findIdx? (fun b => decide (b ≠ 0)) with
      | none =>
          rfl
      | some index =>
          rfl
  | case2 val noZero =>
      cases val with
      | nil =>
          exact absurd rfl some
      | cons first rest =>
          by_cases zero : first = 0
          · subst zero
            cases rest with
            | nil =>
                rfl
            | cons second others =>
                exact absurd rfl (noZero second others)
          · rw [List.findIdx?_cons, if_pos (decide_eq_true zero)]
            rfl

theorem highBit_iff (octet : UInt8) : octet &&& 0x80 ≠ 0 ↔ ¬octet.toNat < 128 := by
  have all : ∀ value < 256, UInt8.ofNat value &&& 0x80 ≠ 0 ↔ ¬value < 128 := by
    decide +kernel
  have one := all octet.toNat octet.toNat_lt
  rw [UInt8.ofNat_toNat] at one
  exact one

theorem encodeInteger_eq {val : Bytes} (some : val ≠ []) :
    encodeInteger val =
      0x02 :: UInt8.ofNat (withSignOctet (stripLeadingZeroes val)).length ::
        withSignOctet (stripLeadingZeroes val) := by
  unfold encodeInteger
  rw [fromFirstNonzero_eq some]
  have present := Der.stripLeadingZeroes_ne_nil some
  generalize stripLeadingZeroes val = stripped at present ⊢
  cases stripped with
  | nil =>
      exact absurd rfl present
  | cons first rest =>
      rw [withSignOctet]
      by_cases small : first.toNat < 128
      · have noPad : decide (first &&& 0x80 ≠ 0) = false :=
          decide_eq_false (fun high => (highBit_iff first).mp high small)
        simp only [List.head?_cons, Option.any_some, noPad, if_pos small, Bool.false_eq_true,
          if_false, Nat.add_zero]
        rfl
      · have pad : decide (first &&& 0x80 ≠ 0) = true :=
          decide_eq_true ((highBit_iff first).mpr small)
        simp only [List.head?_cons, Option.any_some, pad, if_neg small, if_true]
        rfl

theorem encodeInteger_half {half : Bytes} (size : half.length = 32) :
    Tlv 0x02 (withSignOctet (stripLeadingZeroes half)) (encodeInteger half) ∧
      (encodeInteger half).length ≤ 35 ∧
        Minimal (toNatBE half) (stripLeadingZeroes half) := by
  have some : half ≠ [] := List.ne_nil_of_length_eq_add_one size
  have content : (withSignOctet (stripLeadingZeroes half)).length ≤ 33 :=
    calc (withSignOctet (stripLeadingZeroes half)).length
        ≤ (stripLeadingZeroes half).length + 1 := Der.length_withSignOctet_le _
      _ ≤ half.length + 1 := Nat.succ_le_succ (Der.length_stripLeadingZeroes_le half)
      _ = 33 := by rw [size]
  rw [encodeInteger_eq some]
  refine ⟨Tlv.of_short 0x02 (Nat.lt_of_le_of_lt content (by decide)), ?_,
    Der.minimal_stripLeadingZeroes some⟩
  rw [List.length_cons, List.length_cons]
  omega

/-! ### Signatures -/

/-- Both encoders give the only DER encoding of SEQUENCE { r, s }. -/
theorem raw_signature_encoded (raw : Bytes) (size : raw.length = 64) :
    rawEcdsaToDer raw = .ok (ecdsaRawToDer raw) ∧
      ∀ bytes, IntegerPair (toNatBE (raw.take 32)) (toNatBE (raw.drop 32)) bytes ↔
        bytes = ecdsaRawToDer raw := by
  have rSize : (raw.take 32).length = 32 := by
    rw [List.length_take, size]
    rfl
  have sSize : (raw.drop 32).length = 32 := by
    rw [List.length_drop, size]
  obtain ⟨rTlv, rLength, rMinimal⟩ := encodeInteger_half rSize
  obtain ⟨sTlv, sLength, sMinimal⟩ := encodeInteger_half sSize
  have whole : ecdsaRawToDer raw =
      0x30 :: UInt8.ofNat (encodeInteger (raw.take 32) ++ encodeInteger (raw.drop 32)).length ::
        (encodeInteger (raw.take 32) ++ encodeInteger (raw.drop 32)) := by
    unfold ecdsaRawToDer
    rw [if_neg (not_not.mpr size), List.length_append]
    simp only [List.cons_append, List.nil_append]
  have short : (encodeInteger (raw.take 32) ++ encodeInteger (raw.drop 32)).length < 128 := by
    rw [List.length_append]
    omega
  constructor
  · unfold rawEcdsaToDer
    rw [whole, if_neg (not_not.mpr size)]
    rw [List.length_append] at short ⊢
    simp only [if_pos short, List.cons_append, List.nil_append]
  · intro bytes
    rw [whole]
    exact Der.integerPair_iff rMinimal sMinimal rTlv sTlv (Tlv.of_short 0x30 short) bytes

def zeroAndHigh : Bytes :=
  List.replicate 32 0 ++ List.replicate 32 0xff

def zeroAndHighDer : Bytes :=
  [0x30, 0x26, 0x02, 0x01, 0x00, 0x02, 0x21, 0x00] ++ List.replicate 32 0xff

theorem zeroAndHigh_encoded :
    rawEcdsaToDer zeroAndHigh = .ok zeroAndHighDer ∧
      ∀ bytes, IntegerPair (0 : Nat) (2 ^ 256 - 1 : Nat) bytes ↔ bytes = zeroAndHighDer := by
  have encoded : ecdsaRawToDer zeroAndHigh = zeroAndHighDer := by decide +kernel
  have numbers : toNatBE (zeroAndHigh.take 32) = 0 ∧
      toNatBE (zeroAndHigh.drop 32) = 2 ^ 256 - 1 := by
    decide +kernel
  have both := raw_signature_encoded zeroAndHigh (by decide)
  rw [encoded, numbers.1, numbers.2] at both
  exact both

end Hoike
