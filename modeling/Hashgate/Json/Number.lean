import Hashgate.Json.Reader
import Hashgate.Text.Shortest

/-! # Numbers of JSON

Reading a number gives an integer if it is written as one and fits in sixty-four bits, and a double
otherwise. The double is the significand multiplied or divided by a power of ten, each rounded, so it
may differ from the nearest one in its last place. Digits that the significand has no room for are
dropped. Skipping a number checks its form alone. -/

namespace Hashgate.Json

inductive Number where
  | integer (n : Int)
  | real (x : Float)

/-- What a message calls a number. -/
def Number.describe : Number → String
  | .integer n => "integer `" ++ toString n ++ "`"
  | .real x => "floating point `" ++ String.ofList (Shortest.ofFloat x) ++ "`"

/-! ## Doubles -/

/-- The double of a significand and a power of ten, before its sign, and whether there is one. -/
def scaleUp : (fuel : Nat) → Float → Int → Option Float
  | 0, _, _ => none
  | fuel + 1, x, exponent =>
    if exponent.natAbs ≤ 308 then
      let power := Float.ofScientific 1 false exponent.natAbs
      if 0 ≤ exponent then
        let y := x * power
        if y.isInf then none else some y
      else some (x / power)
    else if x == 0.0 then some x
    else if 0 ≤ exponent then none
    else scaleUp fuel (x / Float.ofScientific 1 false 308) (exponent + 308)

def signed (positive : Bool) (x : Float) : Float := if positive then x else -x

def realOf (positive : Bool) (significand : Nat) (exponent : Int) : Reader Number := fun c =>
  match scaleUp 8 (Float.ofNat significand) exponent with
  | some x => .ok (.real (signed positive x), c)
  | none => .error (c.error .numberOutOfRange)

def maxSignificand : Nat := UInt64.size - 1

/-- The greatest exponent that is taken at its word. -/
def maxExponent : Nat := UInt32.size / 2 - 1

/-- Holds an exponent within thirty-two bits. -/
def clampExponent (e : Int) : Int :=
  if e < -(Int.ofNat maxExponent) - 1 then -(Int.ofNat maxExponent) - 1
  else if Int.ofNat maxExponent < e then Int.ofNat maxExponent
  else e

def digitValue (c : Char) : Nat := c.toNat - '0'.toNat

def Cursor.skipDigits (c : Cursor) : Cursor := skipWhile Char.isDigit c.rest c.position

/-- Digits as they are added to a number that may not exceed a bound: the number, how many digits
were added, whether a digit was left over that would have been too much, and the cursor behind the
digits that were added. -/
def addDigits (bound : Nat) : (acc count : Nat) → List Char → Position → Nat × Nat × Bool × Cursor
  | acc, count, [], p => (acc, count, false, ⟨[], p⟩)
  | acc, count, c :: rest, p =>
    if c.isDigit then
      let next := acc * 10 + digitValue c
      if bound < next then (acc, count, true, ⟨c :: rest, p⟩)
      else addDigits bound next (count + 1) rest (p.after c)
    else (acc, count, false, ⟨c :: rest, p⟩)

def readExponent (positive : Bool) (significand : Nat) (start : Int) : Reader Number := fun c =>
  let (up, c) := match c.rest with
    | '+' :: _ => (true, c.next)
    | '-' :: _ => (false, c.next)
    | _ => (true, c)
  match c.rest with
  | [] => .error (c.error .endInValue)
  | d :: _ =>
    if d.isDigit then
      match addDigits maxExponent 0 0 c.rest c.position with
      | (_, _, true, c) =>
        if significand ≠ 0 ∧ up then .error (c.next.error .numberOutOfRange)
        else .ok (.real (signed positive 0.0), c.skipDigits)
      | (exponent, _, false, c) =>
        let exponent : Int := if up then exponent else -exponent
        realOf positive significand (clampExponent (start + exponent)) c
    else .error (c.nextError .invalidNumber)

/-- What may follow the digits of a significand. -/
def readTail (positive : Bool) (significand : Nat) (exponent : Int) : Reader Number := fun c =>
  match c.rest with
  | 'e' :: _ | 'E' :: _ => readExponent positive significand exponent c.next
  | _ => realOf positive significand exponent c

def readDecimals (positive : Bool) (significand : Nat) (exponent : Int) : Reader Number := fun c =>
  match addDigits maxSignificand significand 0 c.rest c.position with
  | (significand, count, true, c) =>
    readTail positive significand (exponent - count) c.skipDigits
  | (_, 0, false, c) =>
    match c.rest with
    | [] => .error (c.error .endInValue)
    | _ => .error (c.nextError .invalidNumber)
  | (significand, count, false, c) => readTail positive significand (exponent - count) c

def readFraction (positive : Bool) (significand : Nat) (exponent : Int) : Reader Number := fun c =>
  match c.rest with
  | '.' :: _ => readDecimals positive significand exponent c.next
  | _ => readTail positive significand exponent c

/-- An integer that nothing follows. One that is too low for sixty-four bits is a double, and so is
the negative zero. -/
def integerOf (positive : Bool) (n : Nat) : Number :=
  if positive then .integer n
  else if n = 0 ∨ UInt64.size / 2 < n then .real (-(Float.ofNat n))
  else .integer (-n)

/-- A number, behind its minus if it has one. -/
def readNumber (positive : Bool) : Reader Number := fun c =>
  match c.rest with
  | [] => .error (c.error .endInValue)
  | d :: _ =>
    if !d.isDigit then .error (c.nextError .invalidNumber)
    else if d = '0' ∧ (c.next.rest.head?.any Char.isDigit) then
      .error (c.next.nextError .invalidNumber)
    else
      let (n, _, excess, left) :=
        if d = '0' then (0, 1, false, c.next) else addDigits maxSignificand 0 0 c.rest c.position
      if excess then
        let behind := left.skipDigits
        readFraction positive n (left.rest.length - behind.rest.length) behind
      else
        match left.rest with
        | '.' :: _ | 'e' :: _ | 'E' :: _ => readFraction positive n 0 left
        | _ => .ok (integerOf positive n, left)

/-! ## Skipping -/

def skipExponent (c : Cursor) : Except ReadError Cursor :=
  let c := match c.rest with
    | '+' :: _ | '-' :: _ => c.next
    | _ => c
  match c.rest with
  | d :: _ => if d.isDigit then .ok c.skipDigits else .error (c.nextError .invalidNumber)
  | [] => .error (c.error .invalidNumber)

def skipDecimals (c : Cursor) : Except ReadError Cursor :=
  if c.rest.head?.any Char.isDigit then
    let c := c.skipDigits
    match c.rest with
    | 'e' :: _ | 'E' :: _ => skipExponent c.next
    | _ => .ok c
  else .error (c.nextError .invalidNumber)

def skipNumber (c : Cursor) : Except ReadError Cursor :=
  match c.rest with
  | [] => .error (c.error .invalidNumber)
  | d :: _ =>
    if !d.isDigit then .error (c.nextError .invalidNumber)
    else if d = '0' ∧ (c.next.rest.head?.any Char.isDigit) then
      .error (c.next.nextError .invalidNumber)
    else
      let c := if d = '0' then c.next else c.skipDigits
      match c.rest with
      | '.' :: _ => skipDecimals c.next
      | 'e' :: _ | 'E' :: _ => skipExponent c.next
      | _ => .ok c

end Hashgate.Json
