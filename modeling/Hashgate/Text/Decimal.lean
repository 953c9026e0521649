/-! # Decimal numbers

Whole numbers written in base ten.

* `ofNat`, `ofInt` — the one canonical spelling: no sign but a needed minus, no superfluous zero.
* `readNat`, `readInt` — any spelling of a number within bounds. A plus sign and leading zeros are
  welcome, and a minus where negative numbers are.

The readers go from left to right and report the first reason to stop, so a number that has already
grown too large is reported before a letter further on. -/

namespace Hashgate.Decimal

/-! ## Writing -/

def ofNat (n : Nat) : List Char := Nat.toDigits 10 n

def ofInt (n : Int) : List Char :=
  if n < 0 then '-' :: ofNat n.natAbs else ofNat n.natAbs

/-! ## Reading -/

inductive Fault where
  | empty
  | invalidDigit
  | tooLarge
  | tooSmall
  deriving DecidableEq, Repr

def Fault.message : Fault → String
  | .empty => "cannot parse integer from empty string"
  | .invalidDigit => "invalid digit found in string"
  | .tooLarge => "number too large to fit in target type"
  | .tooSmall => "number too small to fit in target type"

def digit? (c : Char) : Option Nat :=
  if c.isDigit then some (c.toNat - '0'.toNat) else none

/-- Reads digits that follow the number `acc`. No number on the way may exceed `bound`. -/
def readDigits (bound : Nat) (overflow : Fault) (acc : Nat) : List Char → Except Fault Nat
  | [] => .ok acc
  | c :: rest =>
    match digit? c with
    | none => .error .invalidDigit
    | some d =>
      let next := acc * 10 + d
      if bound < next then .error overflow else readDigits bound overflow next rest

/-- A natural number up to `bound`. -/
def readNat (bound : Nat) : List Char → Except Fault Nat
  | [] => .error .empty
  | ['+'] => .error .invalidDigit
  | '+' :: digits => readDigits bound .tooLarge 0 digits
  | digits => readDigits bound .tooLarge 0 digits

/-- An integer from `-low` to `high`. -/
def readInt (low high : Nat) : List Char → Except Fault Int
  | [] => .error .empty
  | ['+'] => .error .invalidDigit
  | ['-'] => .error .invalidDigit
  | '+' :: digits => (readDigits high .tooLarge 0 digits).map Int.ofNat
  | '-' :: digits => (readDigits low .tooSmall 0 digits).map fun n => -Int.ofNat n
  | digits => (readDigits high .tooLarge 0 digits).map Int.ofNat

def readUInt16 (text : List Char) : Except Fault UInt16 :=
  (readNat (UInt16.size - 1) text).map UInt16.ofNat

def readUInt32 (text : List Char) : Except Fault UInt32 :=
  (readNat (UInt32.size - 1) text).map UInt32.ofNat

def readUInt64 (text : List Char) : Except Fault UInt64 :=
  (readNat (UInt64.size - 1) text).map UInt64.ofNat

def readInt64 (text : List Char) : Except Fault Int64 :=
  (readInt (UInt64.size / 2) (UInt64.size / 2 - 1) text).map Int64.ofInt

end Hashgate.Decimal
