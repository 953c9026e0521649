/-! # SHA-256

The digest of a message, in the four steps of the standard: padding to whole blocks, the schedule of
64 words that a block spreads into, 64 rounds on eight working words, and the sum over all blocks.
All words have 32 bits and all sums wrap. -/

namespace Hashgate.Sha256

/-! ## Constants -/

/-- The first 32 bits of the fractional parts of the cube roots of the first 64 primes. -/
def roundConstants : List UInt32 :=
  [0x428a2f98, 0x71374491, 0xb5c0fbcf, 0xe9b5dba5, 0x3956c25b, 0x59f111f1, 0x923f82a4, 0xab1c5ed5,
   0xd807aa98, 0x12835b01, 0x243185be, 0x550c7dc3, 0x72be5d74, 0x80deb1fe, 0x9bdc06a7, 0xc19bf174,
   0xe49b69c1, 0xefbe4786, 0x0fc19dc6, 0x240ca1cc, 0x2de92c6f, 0x4a7484aa, 0x5cb0a9dc, 0x76f988da,
   0x983e5152, 0xa831c66d, 0xb00327c8, 0xbf597fc7, 0xc6e00bf3, 0xd5a79147, 0x06ca6351, 0x14292967,
   0x27b70a85, 0x2e1b2138, 0x4d2c6dfc, 0x53380d13, 0x650a7354, 0x766a0abb, 0x81c2c92e, 0x92722c85,
   0xa2bfe8a1, 0xa81a664b, 0xc24b8b70, 0xc76c51a3, 0xd192e819, 0xd6990624, 0xf40e3585, 0x106aa070,
   0x19a4c116, 0x1e376c08, 0x2748774c, 0x34b0bcb5, 0x391c0cb3, 0x4ed8aa4a, 0x5b9cca4f, 0x682e6ff3,
   0x748f82ee, 0x78a5636f, 0x84c87814, 0x8cc70208, 0x90befffa, 0xa4506ceb, 0xbef9a3f7, 0xc67178f2]

structure State where
  a : UInt32
  b : UInt32
  c : UInt32
  d : UInt32
  e : UInt32
  f : UInt32
  g : UInt32
  h : UInt32
  deriving DecidableEq, Repr

/-- The first 32 bits of the fractional parts of the square roots of the first eight primes. -/
def State.start : State :=
  ⟨0x6a09e667, 0xbb67ae85, 0x3c6ef372, 0xa54ff53a, 0x510e527f, 0x9b05688c, 0x1f83d9ab, 0x5be0cd19⟩

/-! ## Words -/

/-- Turns a word to the right by `n` places, for `n` from 1 to 31. -/
def turn (n x : UInt32) : UInt32 := (x >>> n) ||| (x <<< (32 - n))

/-- The word of four octets, the most significant first. -/
def wordOf (p q r s : UInt8) : UInt32 :=
  (p.toUInt32 <<< 24) ||| (q.toUInt32 <<< 16) ||| (r.toUInt32 <<< 8) ||| s.toUInt32

def octetsOf (x : UInt32) : List UInt8 :=
  [(x >>> 24).toUInt8, (x >>> 16).toUInt8, (x >>> 8).toUInt8, x.toUInt8]

def wordsOf : List UInt8 → List UInt32
  | p :: q :: r :: s :: rest => wordOf p q r s :: wordsOf rest
  | _ => []

/-! ## Padding -/

/-- The octets after a message of `length` octets: a single bit, zeros up to the last eight octets
of a block, and the length in bits. -/
def padding (length : Nat) : List UInt8 :=
  0x80 :: List.replicate ((119 - length % 64) % 64) 0 ++
    octetsOf (UInt32.ofNat (length * 8 / UInt32.size)) ++ octetsOf (UInt32.ofNat (length * 8))

/-! ## One block -/

/-- The word that follows others in a schedule, of which the latest stands first. -/
def nextWord (latest : List UInt32) : UInt32 :=
  let word i := latest.getD i 0
  let s0 := turn 7 (word 14) ^^^ turn 18 (word 14) ^^^ (word 14 >>> 3)
  let s1 := turn 17 (word 1) ^^^ turn 19 (word 1) ^^^ (word 1 >>> 10)
  word 15 + s0 + word 6 + s1

/-- Adds `n` words to a schedule whose latest word stands first. -/
def extend : Nat → List UInt32 → List UInt32
  | 0, latest => latest
  | n + 1, latest => extend n (nextWord latest :: latest)

/-- The 64 words that a block of sixteen words spreads into. -/
def schedule (block : List UInt32) : List UInt32 := (extend 48 block.reverse).reverse

/-- One round, with the sum of its constant and its word of the schedule. -/
def State.round (s : State) (kw : UInt32) : State :=
  let s1 := turn 6 s.e ^^^ turn 11 s.e ^^^ turn 25 s.e
  let choice := (s.e &&& s.f) ^^^ ((~~~ s.e) &&& s.g)
  let t1 := s.h + s1 + choice + kw
  let s0 := turn 2 s.a ^^^ turn 13 s.a ^^^ turn 22 s.a
  let majority := (s.a &&& s.b) ^^^ (s.a &&& s.c) ^^^ (s.b &&& s.c)
  ⟨t1 + (s0 + majority), s.a, s.b, s.c, s.d + t1, s.e, s.f, s.g⟩

def State.add (s t : State) : State :=
  ⟨s.a + t.a, s.b + t.b, s.c + t.c, s.d + t.d, s.e + t.e, s.f + t.f, s.g + t.g, s.h + t.h⟩

/-- What a block of sixteen words makes of a state. -/
def State.absorb (s : State) (block : List UInt32) : State :=
  s.add ((List.zipWith (· + ·) roundConstants (schedule block)).foldl State.round s)

/-! ## A message -/

/-- What whole blocks make of a state. At most `blocks` of them are read. -/
def State.absorbAll (s : State) : Nat → List UInt32 → State
  | 0, _ => s
  | blocks + 1, words => (s.absorb (words.take 16)).absorbAll blocks (words.drop 16)

def State.octets (s : State) : List UInt8 :=
  octetsOf s.a ++ octetsOf s.b ++ octetsOf s.c ++ octetsOf s.d ++
    octetsOf s.e ++ octetsOf s.f ++ octetsOf s.g ++ octetsOf s.h

def digest (message : List UInt8) : List UInt8 :=
  let words := wordsOf (message ++ padding message.length)
  (State.start.absorbAll (words.length / 16) words).octets

end Hashgate.Sha256
