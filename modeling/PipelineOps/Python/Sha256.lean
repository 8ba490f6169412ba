import Mathlib.Algebra.Group.Nat.Defs
import Mathlib.Data.List.Basic

namespace PipelineOps.Python

/-! `hashlib.sha256`, on lists of bytes. -/

namespace Sha256

def roundConstants : List UInt32 :=
  [0x428a2f98, 0x71374491, 0xb5c0fbcf, 0xe9b5dba5, 0x3956c25b, 0x59f111f1,
    0x923f82a4, 0xab1c5ed5, 0xd807aa98, 0x12835b01, 0x243185be, 0x550c7dc3,
    0x72be5d74, 0x80deb1fe, 0x9bdc06a7, 0xc19bf174, 0xe49b69c1, 0xefbe4786,
    0x0fc19dc6, 0x240ca1cc, 0x2de92c6f, 0x4a7484aa, 0x5cb0a9dc, 0x76f988da,
    0x983e5152, 0xa831c66d, 0xb00327c8, 0xbf597fc7, 0xc6e00bf3, 0xd5a79147,
    0x06ca6351, 0x14292967, 0x27b70a85, 0x2e1b2138, 0x4d2c6dfc, 0x53380d13,
    0x650a7354, 0x766a0abb, 0x81c2c92e, 0x92722c85, 0xa2bfe8a1, 0xa81a664b,
    0xc24b8b70, 0xc76c51a3, 0xd192e819, 0xd6990624, 0xf40e3585, 0x106aa070,
    0x19a4c116, 0x1e376c08, 0x2748774c, 0x34b0bcb5, 0x391c0cb3, 0x4ed8aa4a,
    0x5b9cca4f, 0x682e6ff3, 0x748f82ee, 0x78a5636f, 0x84c87814, 0x8cc70208,
    0x90befffa, 0xa4506ceb, 0xbef9a3f7, 0xc67178f2]

structure Registers where
  a : UInt32
  b : UInt32
  c : UInt32
  d : UInt32
  e : UInt32
  f : UInt32
  g : UInt32
  h : UInt32

def initialHash : Registers where
  a := 0x6a09e667
  b := 0xbb67ae85
  c := 0x3c6ef372
  d := 0xa54ff53a
  e := 0x510e527f
  f := 0x9b05688c
  g := 0x1f83d9ab
  h := 0x5be0cd19

def rotateRight (word : UInt32) (count : UInt32) : UInt32 :=
  (word >>> count) ||| (word <<< (32 - count))

/-- The message with its `1` bit, zeros and bit length behind it. -/
def pad (message : List UInt8) : List UInt8 :=
  let length := message.length
  message ++ 0x80 :: List.replicate ((119 - length % 64) % 64) 0 ++
    (List.range 8).map fun index =>
      UInt8.ofNat (8 * length / 256 ^ (7 - index))

def words : List UInt8 → List UInt32
  | first :: second :: third :: fourth :: rest =>
      ((first.toUInt32 <<< 24) ||| (second.toUInt32 <<< 16) |||
        (third.toUInt32 <<< 8) ||| fourth.toUInt32) :: words rest
  | _ => []

/-- The message schedule, from a window of sixteen words on. -/
def schedule : Nat → List UInt32 → List UInt32
  | count + 1, word :: rest =>
      let early := rest.getD 0 0
      let late := rest.getD 13 0
      let next := word + rest.getD 8 0 +
        (rotateRight early 7 ^^^ rotateRight early 18 ^^^ (early >>> 3)) +
        (rotateRight late 17 ^^^ rotateRight late 19 ^^^ (late >>> 10))
      word :: schedule count (rest ++ [next])
  | _, window => window

def round (state : Registers) (constant word : UInt32) : Registers :=
  let first := state.h +
    (rotateRight state.e 6 ^^^ rotateRight state.e 11 ^^^
      rotateRight state.e 25) +
    ((state.e &&& state.f) ^^^ (~~~state.e &&& state.g)) + constant + word
  let second :=
    (rotateRight state.a 2 ^^^ rotateRight state.a 13 ^^^
      rotateRight state.a 22) +
    ((state.a &&& state.b) ^^^ (state.a &&& state.c) ^^^
      (state.b &&& state.c))
  { a := first + second
    b := state.a
    c := state.b
    d := state.c
    e := state.d + first
    f := state.e
    g := state.f
    h := state.g }

def rounds (state : Registers) : List UInt32 → List UInt32 → Registers
  | constant :: constants, word :: rest =>
      rounds (round state constant word) constants rest
  | _, _ => state

def compress (hash : Registers) (block : List UInt8) : Registers :=
  let final := rounds hash roundConstants (schedule 48 (words block))
  { a := hash.a + final.a
    b := hash.b + final.b
    c := hash.c + final.c
    d := hash.d + final.d
    e := hash.e + final.e
    f := hash.f + final.f
    g := hash.g + final.g
    h := hash.h + final.h }

def compressBlocks (hash : Registers) : Nat → List UInt8 → Registers
  | 0, _ => hash
  | count + 1, bytes =>
      compressBlocks (compress hash (bytes.take 64)) count (bytes.drop 64)

def wordBytes (word : UInt32) : List UInt8 :=
  [(word >>> 24).toUInt8, (word >>> 16).toUInt8, (word >>> 8).toUInt8,
    word.toUInt8]

def Registers.bytes (hash : Registers) : List UInt8 :=
  [hash.a, hash.b, hash.c, hash.d, hash.e, hash.f, hash.g, hash.h].flatMap
    wordBytes

end Sha256

/-- `hashlib.sha256(message).digest()`. -/
def sha256 (message : List UInt8) : List UInt8 :=
  let padded := Sha256.pad message
  (Sha256.compressBlocks Sha256.initialHash (padded.length / 64)
    padded).bytes

end PipelineOps.Python
