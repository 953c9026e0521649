/-! # Base64

Octets as text over the standard alphabet of 64 symbols, with padding.

* `encode` — three octets as four symbols.
* `decode` — the octets of a canonical text, or its first fault.

A text is canonical when its length is a multiple of four and the bits that its last symbol does not
need are zero. Faults are placed by the offset of an octet in the text. -/

namespace Hashgate.Base64

/-! ## Symbols -/

/-- The symbol for a number below 64. -/
def symbol (v : Nat) : Char :=
  if v < 26 then Char.ofNat (v + 65)
  else if v < 52 then Char.ofNat (v + 71)
  else if v < 62 then Char.ofNat (v - 4)
  else if v = 62 then '+'
  else '/'

def value? (octet : UInt8) : Option Nat :=
  let n := octet.toNat
  if 65 ≤ n ∧ n ≤ 90 then some (n - 65)
  else if 97 ≤ n ∧ n ≤ 122 then some (n - 71)
  else if 48 ≤ n ∧ n ≤ 57 then some (n + 4)
  else if n = 43 then some 62
  else if n = 47 then some 63
  else none

/-- The octet of the padding character. -/
def pad : UInt8 := 61

/-! ## Writing -/

def encode : List UInt8 → List Char
  | [] => []
  | [x] => [symbol (x.toNat / 4), symbol (x.toNat % 4 * 16), '=', '=']
  | [x, y] =>
    [symbol (x.toNat / 4), symbol (x.toNat % 4 * 16 + y.toNat / 16), symbol (y.toNat % 16 * 4), '=']
  | x :: y :: z :: rest =>
    symbol (x.toNat / 4) :: symbol (x.toNat % 4 * 16 + y.toNat / 16) ::
      symbol (y.toNat % 16 * 4 + z.toNat / 64) :: symbol (z.toNat % 64) :: encode rest

/-! ## Reading -/

inductive Fault where
  /-- An octet that is no symbol, or padding in a wrong place. -/
  | invalidByte (offset : Nat) (octet : UInt8)
  /-- A lone symbol at the end. -/
  | invalidLength (length : Nat)
  /-- A last symbol with bits to spare. -/
  | invalidLastSymbol (offset : Nat) (octet : UInt8)
  | invalidPadding
  deriving DecidableEq, Repr

def Fault.message : Fault → String
  | .invalidByte offset octet =>
    "Invalid symbol " ++ toString octet.toNat ++ ", offset " ++ toString offset ++ "."
  | .invalidLength length => "Invalid input length: " ++ toString length
  | .invalidLastSymbol offset octet =>
    "Invalid last symbol " ++ toString octet.toNat ++ ", offset " ++ toString offset ++ "."
  | .invalidPadding => "Invalid padding"

def readSymbol (offset : Nat) (octet : UInt8) : Except Fault Nat :=
  match value? octet with
  | some v => .ok v
  | none => .error (.invalidByte offset octet)

/-- The octets of two, three or four symbols. -/
def join : List Nat → List UInt8
  | [a, b] => [UInt8.ofNat (a * 4 + b / 16)]
  | [a, b, c] => [UInt8.ofNat (a * 4 + b / 16), UInt8.ofNat (b % 16 * 16 + c / 4)]
  | [a, b, c, d] =>
    [UInt8.ofNat (a * 4 + b / 16), UInt8.ofNat (b % 16 * 16 + c / 4), UInt8.ofNat (c % 4 * 64 + d)]
  | _ => []

/-- The bits that the last of some symbols has to spare. -/
def spareBits : List Nat → Nat
  | [_, b] => b % 16
  | [_, _, c] => c % 4
  | _ => 0

/-- The symbols of a last group, and the count of padding characters after them. `read` symbols
precede at `offset - read`, and `pads` padding characters have been seen after those. -/
def readEnd (offset read pads : Nat) : List UInt8 → Except Fault (List Nat × Nat)
  | [] => .ok ([], pads)
  | octet :: rest =>
    if octet = pad then
      if read < 2 then .error (.invalidByte (offset + read) pad)
      else readEnd offset read (pads + 1) rest
    else if 0 < pads then .error (.invalidByte (offset + read) pad)
    else do
      let v ← readSymbol (offset + read) octet
      let (symbols, pads) ← readEnd offset (read + 1) pads rest
      return (v :: symbols, pads)

/-- The octets of the last group of a text, which has at most four characters. -/
def decodeEnd (offset : Nat) (group : List UInt8) : Except Fault (List UInt8) := do
  let (symbols, pads) ← readEnd offset 0 0 group
  if group ≠ [] ∧ symbols.length < 2 then throw (.invalidLength (offset + symbols.length))
  if (symbols.length + pads) % 4 ≠ 0 then throw .invalidPadding
  if spareBits symbols ≠ 0 then
    throw (.invalidLastSymbol (offset + symbols.length - 1)
      (group.getD (symbols.length - 1) 0))
  return join symbols

/-- The octets of a text that begins at `offset`. All groups but the last are full. -/
def decodeFrom (offset : Nat) : List UInt8 → Except Fault (List UInt8)
  | a :: b :: c :: d :: rest =>
    if rest.isEmpty then decodeEnd offset [a, b, c, d]
    else do
      let a ← readSymbol offset a
      let b ← readSymbol (offset + 1) b
      let c ← readSymbol (offset + 2) c
      let d ← readSymbol (offset + 3) d
      let more ← decodeFrom (offset + 4) rest
      return join [a, b, c, d] ++ more
  | group => decodeEnd offset group

/-- A stray octet after the last full group, which is reported before all else. -/
def stray? (text : List UInt8) : Option Fault :=
  match text.getLast? with
  | some last =>
    if text.length % 4 = 1 ∧ last ≠ pad ∧ value? last = none then
      some (.invalidByte (text.length - 1) last)
    else none
  | none => none

/-- The octets of a canonical text. -/
def decode (text : List UInt8) : Except Fault (List UInt8) :=
  match stray? text with
  | some fault => .error fault
  | none => decodeFrom 0 text

end Hashgate.Base64
