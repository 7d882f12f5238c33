/-
SHA-256, and the HMAC built on it.

The message is padded to whole blocks of 64 bytes, and each block in turn is mixed
into a state of eight words.  The words of a block's schedule are kept latest first,
because each is made from the sixteen before it.
-/
import CultNet.Lib.BigEndian
import Mathlib.Data.UInt

namespace Sha256

/-- The eight words of the state. -/
structure State where
  a : UInt32
  b : UInt32
  c : UInt32
  d : UInt32
  e : UInt32
  f : UInt32
  g : UInt32
  h : UInt32

def initial : State where
  a := 0x6a09e667
  b := 0xbb67ae85
  c := 0x3c6ef372
  d := 0xa54ff53a
  e := 0x510e527f
  f := 0x9b05688c
  g := 0x1f83d9ab
  h := 0x5be0cd19

def roundConstants : List UInt32 :=
  [0x428a2f98, 0x71374491, 0xb5c0fbcf, 0xe9b5dba5, 0x3956c25b, 0x59f111f1, 0x923f82a4, 0xab1c5ed5,
    0xd807aa98, 0x12835b01, 0x243185be, 0x550c7dc3, 0x72be5d74, 0x80deb1fe, 0x9bdc06a7, 0xc19bf174,
    0xe49b69c1, 0xefbe4786, 0x0fc19dc6, 0x240ca1cc, 0x2de92c6f, 0x4a7484aa, 0x5cb0a9dc, 0x76f988da,
    0x983e5152, 0xa831c66d, 0xb00327c8, 0xbf597fc7, 0xc6e00bf3, 0xd5a79147, 0x06ca6351, 0x14292967,
    0x27b70a85, 0x2e1b2138, 0x4d2c6dfc, 0x53380d13, 0x650a7354, 0x766a0abb, 0x81c2c92e, 0x92722c85,
    0xa2bfe8a1, 0xa81a664b, 0xc24b8b70, 0xc76c51a3, 0xd192e819, 0xd6990624, 0xf40e3585, 0x106aa070,
    0x19a4c116, 0x1e376c08, 0x2748774c, 0x34b0bcb5, 0x391c0cb3, 0x4ed8aa4a, 0x5b9cca4f, 0x682e6ff3,
    0x748f82ee, 0x78a5636f, 0x84c87814, 0x8cc70208, 0x90befffa, 0xa4506ceb, 0xbef9a3f7, 0xc67178f2]

def rotateRight (word count : UInt32) : UInt32 := (word >>> count) ||| (word <<< (32 - count))

/-- The message, a one bit, zeros up to eight bytes short of a block, and its length in bits. -/
def pad (message : List UInt8) : List UInt8 :=
  message ++ 0x80 :: List.replicate ((119 - message.length % 64) % 64) 0 ++
    BigEndian.bytes 8 (8 * message.length)

/-- `count` words of four bytes. -/
def words : Nat → List UInt8 → List UInt32
  | 0, _ => []
  | count + 1, bytes =>
    UInt32.ofNat (BigEndian.value (bytes.take 4)) :: words count (bytes.drop 4)

/-- `count` words more of a schedule, latest first. -/
def extend : Nat → List UInt32 → List UInt32
  | 0, schedule => schedule
  | count + 1, schedule =>
    let w2 := schedule.getD 1 0
    let w15 := schedule.getD 14 0
    let s0 := rotateRight w15 7 ^^^ rotateRight w15 18 ^^^ (w15 >>> 3)
    let s1 := rotateRight w2 17 ^^^ rotateRight w2 19 ^^^ (w2 >>> 10)
    extend count ((schedule.getD 15 0 + s0 + schedule.getD 6 0 + s1) :: schedule)

def round (s : State) (constant word : UInt32) : State :=
  let s1 := rotateRight s.e 6 ^^^ rotateRight s.e 11 ^^^ rotateRight s.e 25
  let choice := (s.e &&& s.f) ^^^ (~~~s.e &&& s.g)
  let t1 := s.h + s1 + choice + constant + word
  let s0 := rotateRight s.a 2 ^^^ rotateRight s.a 13 ^^^ rotateRight s.a 22
  let majority := (s.a &&& s.b) ^^^ (s.a &&& s.c) ^^^ (s.b &&& s.c)
  { a := t1 + s0 + majority, b := s.a, c := s.b, d := s.c,
    e := s.d + t1, f := s.e, g := s.f, h := s.g }

def compress (s : State) (block : List UInt8) : State :=
  let schedule := (extend 48 (words 16 block).reverse).reverse
  let mixed := (roundConstants.zip schedule).foldl (fun t pair => round t pair.1 pair.2) s
  { a := s.a + mixed.a, b := s.b + mixed.b, c := s.c + mixed.c, d := s.d + mixed.d,
    e := s.e + mixed.e, f := s.f + mixed.f, g := s.g + mixed.g, h := s.h + mixed.h }

/-- The state after so many blocks. -/
def blocks : Nat → State → List UInt8 → State
  | 0, s, _ => s
  | count + 1, s, bytes => blocks count (compress s (bytes.take 64)) (bytes.drop 64)

def digest (s : State) : List UInt8 :=
  [s.a, s.b, s.c, s.d, s.e, s.f, s.g, s.h].flatMap fun word => BigEndian.bytes 4 word.toNat

theorem length_digest (s : State) : (digest s).length = 32 := by
  simp [digest]

/-- The hash of a message. -/
def hash (message : List UInt8) : Vector UInt8 32 :=
  let padded := pad message
  ⟨(digest (blocks (padded.length / 64) initial padded)).toArray, by simp [length_digest]⟩

example : (hash "abc".toUTF8.data.toList).toList =
    [0xba, 0x78, 0x16, 0xbf, 0x8f, 0x01, 0xcf, 0xea, 0x41, 0x41, 0x40, 0xde, 0x5d, 0xae, 0x22, 0x23,
      0xb0, 0x03, 0x61, 0xa3, 0x96, 0x17, 0x7a, 0x9c, 0xb4, 0x10, 0xff, 0x61, 0xf2, 0x00, 0x15,
      0xad] := by decide +kernel

/-- A key as long as a block: a longer one is hashed, a shorter one has zeros behind it. -/
def blockKey (key : List UInt8) : List UInt8 :=
  let short := if 64 < key.length then (hash key).toList else key
  short ++ List.replicate (64 - short.length) 0

/-- The HMAC of a message under a key. -/
def hmac (key message : List UInt8) : List UInt8 :=
  let inner := hash ((blockKey key).map (· ^^^ 0x36) ++ message)
  (hash ((blockKey key).map (· ^^^ 0x5c) ++ inner.toList)).toList

end Sha256
