import Hashgate.Json.Reader

/-! # Strings of JSON

The part of a string behind its first quote. Reading undoes the escapes, and insists that surrogates
come in pairs. Skipping does not look at what an escape stands for. -/

namespace Hashgate.Json

def hexValue? (c : Char) : Option Nat :=
  if c.isDigit then some (c.toNat - '0'.toNat)
  else if 'a' ≤ c ∧ c ≤ 'f' then some (c.toNat - 'a'.toNat + 10)
  else if 'A' ≤ c ∧ c ≤ 'F' then some (c.toNat - 'A'.toNat + 10)
  else none

def hexValue4? (a b c d : Char) : Option Nat := do
  return (((← hexValue? a) * 16 + (← hexValue? b)) * 16 + (← hexValue? c)) * 16 + (← hexValue? d)

def octetCount : List Char → Nat
  | [] => 0
  | c :: rest => c.utf8Size + octetCount rest

/-- What is wrong where four digits in base sixteen should stand. The four octets there are read
before they are looked at. -/
def hexFault (c : Cursor) : ReadError :=
  if octetCount c.rest < 4 then ⟨.endInString, c.position.skip (octetCount c.rest) c.rest⟩
  else ⟨.invalidEscape, c.position.skip 4 c.rest⟩

def readHex4 : Reader Nat := fun c =>
  match c.rest with
  | x :: y :: z :: w :: rest =>
    match hexValue4? x y z w with
    | some n => .ok (n, ⟨rest, c.position.skip 4 [x, y, z, w]⟩)
    | none => .error (hexFault c)
  | _ => .error (hexFault c)

/-- The second half of a pair of surrogates. -/
def readTrail : Reader Nat := fun c =>
  match c.rest with
  | [] => .error (c.error .endInString)
  | '\\' :: _ =>
    let c := c.next
    match c.rest with
    | [] => .error (c.error .endInString)
    | 'u' :: _ =>
      match readHex4 c.next with
      | .error e => .error e
      | .ok (n, c) =>
        if 0xDC00 ≤ n ∧ n ≤ 0xDFFF then .ok (n, c) else .error (c.error .loneSurrogate)
    | _ => .error (c.nextError .brokenSurrogate)
  | _ => .error (c.nextError .brokenSurrogate)

/-- The character of an escape by number, behind its `u`. -/
def readNumbered : Reader Char := fun c =>
  match readHex4 c with
  | .error e => .error e
  | .ok (n, c) =>
    if 0xDC00 ≤ n ∧ n ≤ 0xDFFF then .error (c.error .loneSurrogate)
    else if 0xD800 ≤ n ∧ n ≤ 0xDBFF then
      match readTrail c with
      | .error e => .error e
      | .ok (m, c) => .ok (Char.ofNat ((n - 0xD800) * 0x400 + (m - 0xDC00) + 0x10000), c)
    else .ok (Char.ofNat n, c)

def letterEscape? : Char → Option Char
  | '"' => some '"'
  | '\\' => some '\\'
  | '/' => some '/'
  | 'b' => some '\x08'
  | 'f' => some '\x0c'
  | 'n' => some '\n'
  | 'r' => some '\r'
  | 't' => some '\t'
  | _ => none

/-- The character of an escape, behind its backslash. -/
def readEscape : Reader Char := fun c =>
  match c.rest with
  | [] => .error (c.error .endInString)
  | 'u' :: _ => readNumbered c.next
  | x :: _ =>
    match letterEscape? x with
    | some y => .ok (y, c.next)
    | none => .error (c.nextError .invalidEscape)

def skipEscape (c : Cursor) : Except ReadError Cursor :=
  match c.rest with
  | [] => .error (c.error .endInString)
  | 'u' :: _ => (readHex4 c.next).map Prod.snd
  | x :: _ =>
    match letterEscape? x with
    | some _ => .ok c.next
    | none => .error (c.nextError .invalidEscape)

/-- Whether a character may not stand in a string as it is. -/
def isControl (c : Char) : Bool := c.toNat < 0x20

/-- The characters of a string up to its closing quote. It reads at most `fuel` of them. -/
def readChars : (fuel : Nat) → Reader (List Char)
  | 0, c => .error (c.error .endInString)
  | fuel + 1, c =>
    match c.rest with
    | [] => .error (c.error .endInString)
    | '"' :: _ => .ok ([], c.next)
    | '\\' :: _ =>
      match readEscape c.next with
      | .error e => .error e
      | .ok (x, c) => (readChars fuel c).map fun (xs, c) => (x :: xs, c)
    | x :: _ =>
      if isControl x then .error (c.nextError .controlCharacter)
      else (readChars fuel c.next).map fun (xs, c) => (x :: xs, c)

/-- A string, behind its opening quote. -/
def readString : Reader String := fun c =>
  (readChars (c.rest.length + 1) c).map fun (xs, c) => (String.ofList xs, c)

def skipChars : (fuel : Nat) → Cursor → Except ReadError Cursor
  | 0, c => .error (c.error .endInString)
  | fuel + 1, c =>
    match c.rest with
    | [] => .error (c.error .endInString)
    | '"' :: _ => .ok c.next
    | '\\' :: _ =>
      match skipEscape c.next with
      | .error e => .error e
      | .ok c => skipChars fuel c
    | x :: _ =>
      if isControl x then .error (c.error .controlCharacter) else skipChars fuel c.next

def skipString (c : Cursor) : Except ReadError Cursor := skipChars (c.rest.length + 1) c

end Hashgate.Json
