/-
SHA-1 on octet strings, as an executable function, with words as in `Sha256`.
-/

import Hoike.Library.Sha256

namespace Sha1

open Sha256 (wordBound blockBound pad)

def rotateLeft (word count : Nat) : Nat :=
  Nat.mod (Nat.shiftRight (Nat.mul word 4294967297) (Nat.sub 32 count)) wordBound

structure Registers where
  a : Nat
  b : Nat
  c : Nat
  d : Nat
  e : Nat

def Registers.initial : Registers :=
  { a := 0x67452301
    b := 0xefcdab89
    c := 0x98badcfe
    d := 0x10325476
    e := 0xc3d2e1f0 }

def nextWindow (window : Nat) : Nat :=
  let word := Nat.xor (Nat.xor (Nat.shiftRight window 480) (Nat.shiftRight window 416))
    (Nat.xor (Nat.shiftRight window 224) (Nat.shiftRight window 64))
  Nat.add (Nat.mod (Nat.shiftLeft window 32) blockBound)
    (rotateLeft (Nat.mod word wordBound) 1)

def mix (phase b c d : Nat) : Nat :=
  match phase with
  | 0 => Nat.xor d (Nat.land b (Nat.xor c d))
  | 2 => Nat.lor (Nat.land b c) (Nat.land d (Nat.lor b c))
  | _ => Nat.xor (Nat.xor b c) d

def phaseConstant (phase : Nat) : Nat :=
  match phase with
  | 0 => 0x5a827999
  | 1 => 0x6ed9eba1
  | 2 => 0x8f1bbcdc
  | _ => 0xca62c1d6

def rounds : (count window : Nat) → Registers → Registers
  | 0, _, state => state
  | count + 1, window, ⟨a, b, c, d, e⟩ =>
      let phase := Nat.div (Nat.sub 79 count) 20
      let word := Nat.add (Nat.add (rotateLeft a 5) (mix phase b c d))
        (Nat.add (Nat.add e (phaseConstant phase)) (Nat.shiftRight window 480))
      rounds count (nextWindow window)
        { a := Nat.mod word wordBound
          b := a
          c := rotateLeft b 30
          d := c
          e := d }

def Registers.compress (state : Registers) (block : Nat) : Registers :=
  let final := rounds 80 block state
  { a := Nat.mod (Nat.add state.a final.a) wordBound
    b := Nat.mod (Nat.add state.b final.b) wordBound
    c := Nat.mod (Nat.add state.c final.c) wordBound
    d := Nat.mod (Nat.add state.d final.d) wordBound
    e := Nat.mod (Nat.add state.e final.e) wordBound }

def absorb (message : Nat) : (count : Nat) → Registers → Registers
  | 0, state => state
  | count + 1, state =>
      absorb message count
        (state.compress (Nat.mod (Nat.shiftRight message (Nat.mul 512 count)) blockBound))

def digest (bytes : Bytes) : Octets 20 :=
  let final := absorb (pad bytes) ((bytes.length + 72) / 64) Registers.initial
  ⟨Bytes.ofNatBE 4 final.a ++ Bytes.ofNatBE 4 final.b ++ Bytes.ofNatBE 4 final.c ++
      Bytes.ofNatBE 4 final.d ++ Bytes.ofNatBE 4 final.e, by simp⟩

example : digest [0x61, 0x62, 0x63] =
    ⟨Bytes.ofNatBE 20 0xa9993e364706816aba3e25717850c26c9cd0d89d, by simp⟩ := by
  decide +kernel

end Sha1
