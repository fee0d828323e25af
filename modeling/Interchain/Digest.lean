import Interchain.Bytes

/-
  The SHA-256 digest (FIPS 180-4).

  A message is padded to whole blocks of 64 bytes: a one bit,
  zero bits, and its length in bits as a 64-bit word.  Each
  block is spread into 64 words and mixed into the eight words
  of the state, which end up as the 32 bytes of the digest.

  Definitions that commit to bytes take the digest function as
  a parameter of type `Hash`; `sha256` is the one in use.

  Main declarations:
    * `Hash`
    * `sha256`
-/

------------------------------------------------------------
-- Constants
------------------------------------------------------------

namespace Interchain

/- A function from messages to digests. -/
abbrev Hash := Bytes → Bytes

namespace Sha256

/-
  The first 32 bits of the fractional parts of the cube roots
  of the first 64 primes.
-/
def roundConstants : List UInt32 :=
  [
    0x428a2f98, 0x71374491, 0xb5c0fbcf, 0xe9b5dba5,
    0x3956c25b, 0x59f111f1, 0x923f82a4, 0xab1c5ed5,
    0xd807aa98, 0x12835b01, 0x243185be, 0x550c7dc3,
    0x72be5d74, 0x80deb1fe, 0x9bdc06a7, 0xc19bf174,
    0xe49b69c1, 0xefbe4786, 0x0fc19dc6, 0x240ca1cc,
    0x2de92c6f, 0x4a7484aa, 0x5cb0a9dc, 0x76f988da,
    0x983e5152, 0xa831c66d, 0xb00327c8, 0xbf597fc7,
    0xc6e00bf3, 0xd5a79147, 0x06ca6351, 0x14292967,
    0x27b70a85, 0x2e1b2138, 0x4d2c6dfc, 0x53380d13,
    0x650a7354, 0x766a0abb, 0x81c2c92e, 0x92722c85,
    0xa2bfe8a1, 0xa81a664b, 0xc24b8b70, 0xc76c51a3,
    0xd192e819, 0xd6990624, 0xf40e3585, 0x106aa070,
    0x19a4c116, 0x1e376c08, 0x2748774c, 0x34b0bcb5,
    0x391c0cb3, 0x4ed8aa4a, 0x5b9cca4f, 0x682e6ff3,
    0x748f82ee, 0x78a5636f, 0x84c87814, 0x8cc70208,
    0x90befffa, 0xa4506ceb, 0xbef9a3f7, 0xc67178f2
  ]

end Sha256

end Interchain

------------------------------------------------------------
-- Compression
------------------------------------------------------------

namespace Interchain

namespace Sha256

/- Rotate a word to the right, by 1 to 31 places. -/
def rotate (w n : UInt32) : UInt32 :=
  (w >>> n) ||| (w <<< (32 - n))

/- The eight words that a message is mixed into. -/
structure State where
  a : UInt32
  b : UInt32
  c : UInt32
  d : UInt32
  e : UInt32
  f : UInt32
  g : UInt32
  h : UInt32

/-
  The first 32 bits of the fractional parts of the square
  roots of the first eight primes.
-/
def State.initial : State :=
  ⟨0x6a09e667, 0xbb67ae85, 0x3c6ef372, 0xa54ff53a,
    0x510e527f, 0x9b05688c, 0x1f83d9ab, 0x5be0cd19⟩

/- Mix one word of the schedule into the state. -/
def State.round
    (s : State)
    (constant word : UInt32) :
    State :=
  let bigE := rotate s.e 6 ^^^ rotate s.e 11 ^^^ rotate s.e 25
  let choice := (s.e &&& s.f) ^^^ ((~~~ s.e) &&& s.g)
  let mixed := s.h + bigE + choice + constant + word
  let bigA := rotate s.a 2 ^^^ rotate s.a 13 ^^^ rotate s.a 22
  let majority :=
    (s.a &&& s.b) ^^^ (s.a &&& s.c) ^^^ (s.b &&& s.c)
  ⟨mixed + (bigA + majority), s.a, s.b, s.c,
    s.d + mixed, s.e, s.f, s.g⟩

/- Add two states word by word. -/
def State.add (s t : State) : State :=
  ⟨s.a + t.a, s.b + t.b, s.c + t.c, s.d + t.d,
    s.e + t.e, s.f + t.f, s.g + t.g, s.h + t.h⟩

/- A window of sixteen words of the schedule. -/
structure Window where
  w0 : UInt32
  w1 : UInt32
  w2 : UInt32
  w3 : UInt32
  w4 : UInt32
  w5 : UInt32
  w6 : UInt32
  w7 : UInt32
  w8 : UInt32
  w9 : UInt32
  w10 : UInt32
  w11 : UInt32
  w12 : UInt32
  w13 : UInt32
  w14 : UInt32
  w15 : UInt32

/- Slide the window by one word. -/
def Window.slide (w : Window) : Window :=
  let near :=
    rotate w.w1 7 ^^^ rotate w.w1 18 ^^^ (w.w1 >>> 3)
  let far :=
    rotate w.w14 17 ^^^ rotate w.w14 19 ^^^ (w.w14 >>> 10)
  ⟨w.w1, w.w2, w.w3, w.w4, w.w5, w.w6, w.w7, w.w8,
    w.w9, w.w10, w.w11, w.w12, w.w13, w.w14, w.w15,
    w.w0 + near + w.w9 + far⟩

/- Mix the words of a window, and those it slides to. -/
def State.rounds :
    List UInt32 → Window → State → State
  | [], _, s => s
  | constant :: rest, w, s =>
      rounds rest w.slide (s.round constant w.w0)

/- Mix one block into the state. -/
def State.absorb (s : State) (block : Window) : State :=
  s.add (State.rounds roundConstants block s)

end Sha256

end Interchain

------------------------------------------------------------
-- Messages
------------------------------------------------------------

namespace Interchain

namespace Sha256

/- A word from its four bytes, most significant first. -/
def word (a b c d : UInt8) : UInt32 :=
  (a.toUInt32 <<< 24) ||| (b.toUInt32 <<< 16) |||
    (c.toUInt32 <<< 8) ||| d.toUInt32

/- The words of a byte string; fewer than four bytes are left
   out. -/
def words : Bytes → List UInt32
  | a :: b :: c :: d :: rest => word a b c d :: words rest
  | _ => []

/- The four bytes of a word, most significant first. -/
def wordBytes (w : UInt32) : Bytes :=
  [ (w >>> 24).toUInt8, (w >>> 16).toUInt8,
    (w >>> 8).toUInt8, w.toUInt8 ]

/- The bytes after a message that fill its last block. -/
def padding (length : Nat) : Bytes :=
  0x80 :: List.replicate ((119 - length % 64) % 64) 0 ++
    bigEndian (UInt64.ofNat (8 * length))

/- Mix whole blocks into the state. -/
def State.absorbAll : State → List UInt32 → State
  | s, w0 :: w1 :: w2 :: w3 :: w4 :: w5 :: w6 :: w7 ::
      w8 :: w9 :: w10 :: w11 :: w12 :: w13 :: w14 :: w15 ::
      rest =>
      absorbAll
        (s.absorb
          ⟨w0, w1, w2, w3, w4, w5, w6, w7,
            w8, w9, w10, w11, w12, w13, w14, w15⟩)
        rest
  | s, _ => s

/- The bytes of the state. -/
def State.bytes (s : State) : Bytes :=
  [s.a, s.b, s.c, s.d, s.e, s.f, s.g, s.h].flatMap wordBytes

end Sha256

/- The SHA-256 digest of a message. -/
def sha256 (message : Bytes) : Bytes :=
  (Sha256.State.initial.absorbAll
    (Sha256.words
      (message ++ Sha256.padding message.length))).bytes

end Interchain
