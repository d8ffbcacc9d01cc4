/-
SHA-256 on octet strings, as an executable function.

Words are natural numbers below `2 ^ 32`, and the arithmetic is written with the
operations that proofs can evaluate directly.
-/

import Hoike.Library.Octets

namespace Sha256

def wordBound : Nat := 4294967296
def blockBound : Nat := 2 ^ 512

/-- The exclusive or of three rotations to the right.  A word written twice in
a row is rotated by a shift. -/
def rotations (word first second third : Nat) : Nat :=
  let twice := Nat.mul word 4294967297
  Nat.mod (Nat.xor (Nat.xor (Nat.shiftRight twice first) (Nat.shiftRight twice second))
    (Nat.shiftRight twice third)) wordBound

def rotationsShift (word first second shift : Nat) : Nat :=
  let twice := Nat.mul word 4294967297
  Nat.mod (Nat.xor (Nat.xor (Nat.shiftRight twice first) (Nat.shiftRight twice second))
    (Nat.shiftRight word shift)) wordBound

def roundConstants : List Nat := [
  0x428a2f98, 0x71374491, 0xb5c0fbcf, 0xe9b5dba5, 0x3956c25b, 0x59f111f1, 0x923f82a4, 0xab1c5ed5,
  0xd807aa98, 0x12835b01, 0x243185be, 0x550c7dc3, 0x72be5d74, 0x80deb1fe, 0x9bdc06a7, 0xc19bf174,
  0xe49b69c1, 0xefbe4786, 0x0fc19dc6, 0x240ca1cc, 0x2de92c6f, 0x4a7484aa, 0x5cb0a9dc, 0x76f988da,
  0x983e5152, 0xa831c66d, 0xb00327c8, 0xbf597fc7, 0xc6e00bf3, 0xd5a79147, 0x06ca6351, 0x14292967,
  0x27b70a85, 0x2e1b2138, 0x4d2c6dfc, 0x53380d13, 0x650a7354, 0x766a0abb, 0x81c2c92e, 0x92722c85,
  0xa2bfe8a1, 0xa81a664b, 0xc24b8b70, 0xc76c51a3, 0xd192e819, 0xd6990624, 0xf40e3585, 0x106aa070,
  0x19a4c116, 0x1e376c08, 0x2748774c, 0x34b0bcb5, 0x391c0cb3, 0x4ed8aa4a, 0x5b9cca4f, 0x682e6ff3,
  0x748f82ee, 0x78a5636f, 0x84c87814, 0x8cc70208, 0x90befffa, 0xa4506ceb, 0xbef9a3f7, 0xc67178f2]

structure Registers where
  a : Nat
  b : Nat
  c : Nat
  d : Nat
  e : Nat
  f : Nat
  g : Nat
  h : Nat

def Registers.initial : Registers :=
  { a := 0x6a09e667
    b := 0xbb67ae85
    c := 0x3c6ef372
    d := 0xa54ff53a
    e := 0x510e527f
    f := 0x9b05688c
    g := 0x1f83d9ab
    h := 0x5be0cd19 }

/-- The message schedule is kept as a window of sixteen words in one number;
the oldest word stands in front and is dropped as the next one is added. -/
def nextWindow (window : Nat) : Nat :=
  let early := Nat.mod (Nat.shiftRight window 448) wordBound
  let recent := Nat.mod (Nat.shiftRight window 32) wordBound
  let word := Nat.add (Nat.add (Nat.shiftRight window 480) (rotationsShift early 7 18 3))
    (Nat.add (Nat.shiftRight window 192) (rotationsShift recent 17 19 10))
  Nat.add (Nat.mod (Nat.shiftLeft window 32) blockBound) (Nat.mod word wordBound)

def rounds : (constants : List Nat) → (window : Nat) → Registers → Registers
  | [], _, state => state
  | constant :: rest, window, ⟨a, b, c, d, e, f, g, h⟩ =>
      let choice := Nat.xor g (Nat.land e (Nat.xor f g))
      let majority := Nat.lor (Nat.land a b) (Nat.land c (Nat.lor a b))
      let input := Nat.add constant (Nat.shiftRight window 480)
      let first := Nat.add (Nat.add (Nat.add h (rotations e 6 11 25)) choice) input
      rounds rest (nextWindow window)
        { a := Nat.mod (Nat.add (Nat.add first (rotations a 2 13 22)) majority) wordBound
          b := a
          c := b
          d := c
          e := Nat.mod (Nat.add d first) wordBound
          f := e
          g := f
          h := g }

def Registers.compress (state : Registers) (block : Nat) : Registers :=
  let final := rounds roundConstants block state
  { a := Nat.mod (Nat.add state.a final.a) wordBound
    b := Nat.mod (Nat.add state.b final.b) wordBound
    c := Nat.mod (Nat.add state.c final.c) wordBound
    d := Nat.mod (Nat.add state.d final.d) wordBound
    e := Nat.mod (Nat.add state.e final.e) wordBound
    f := Nat.mod (Nat.add state.f final.f) wordBound
    g := Nat.mod (Nat.add state.g final.g) wordBound
    h := Nat.mod (Nat.add state.h final.h) wordBound }

def absorb (message : Nat) : (count : Nat) → Registers → Registers
  | 0, state => state
  | count + 1, state =>
      absorb message count
        (state.compress (Nat.mod (Nat.shiftRight message (Nat.mul 512 count)) blockBound))

/-- The message, one set bit, zeros up to the last eight octets of a block, and
the length in bits. -/
def pad (bytes : Bytes) : Nat :=
  (Bytes.toNatBE bytes * 256 + 0x80) * 2 ^ (8 * ((119 - bytes.length % 64) % 64) + 64) +
    8 * bytes.length

def digest (bytes : Bytes) : Octets 32 :=
  let final := absorb (pad bytes) ((bytes.length + 72) / 64) Registers.initial
  ⟨Bytes.ofNatBE 4 final.a ++ Bytes.ofNatBE 4 final.b ++ Bytes.ofNatBE 4 final.c ++
      Bytes.ofNatBE 4 final.d ++ Bytes.ofNatBE 4 final.e ++ Bytes.ofNatBE 4 final.f ++
        Bytes.ofNatBE 4 final.g ++ Bytes.ofNatBE 4 final.h, by simp⟩

example : digest [0x61, 0x62, 0x63] = ⟨Bytes.ofNatBE 32
    0xba7816bf8f01cfea414140de5dae2223b00361a396177a9cb410ff61f20015ad, by simp⟩ := by
  decide +kernel

end Sha256
