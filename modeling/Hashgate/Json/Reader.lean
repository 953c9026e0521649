import Hashgate.Json.ReadError

/-! # Reading a text

A cursor stands in a text, and a reader moves it or stops with an error. Errors are placed in two
ways: behind the last character that was read, or behind the next one, which is the one to blame. A
character of several octets counts as its first octet when it is to blame. -/

namespace Hashgate.Json

/-! ## Places -/

def Position.after (p : Position) (c : Char) : Position :=
  if c = '\n' then ⟨p.line + 1, 0⟩ else ⟨p.line, p.column + c.utf8Size⟩

/-- The place behind the first octet of a character. -/
def Position.into (p : Position) (c : Char) : Position :=
  if c = '\n' then ⟨p.line + 1, 0⟩ else ⟨p.line, p.column + 1⟩

/-- The place behind so many octets of a text, or behind all of it. -/
def Position.skip (p : Position) : (octets : Nat) → List Char → Position
  | _, [] => p
  | octets, c :: rest =>
    if octets = 0 then p
    else if c.utf8Size ≤ octets then (p.after c).skip (octets - c.utf8Size) rest
    else ⟨p.line, p.column + octets⟩

/-- A place in a text and what follows it. -/
structure Cursor where
  rest : List Char
  position : Position
  deriving DecidableEq, Repr

def Cursor.start (text : String) : Cursor := ⟨text.toList, ⟨1, 0⟩⟩

def Cursor.next (c : Cursor) : Cursor :=
  match c.rest with
  | [] => c
  | x :: rest => ⟨rest, c.position.after x⟩

/-- The place behind the first octet of the next character, or the end of the text. -/
def Cursor.blame (c : Cursor) : Position :=
  match c.rest with
  | [] => c.position
  | x :: _ => c.position.into x

/-- An error behind what was read. -/
def Cursor.error (c : Cursor) (code : Code) : ReadError := ⟨code, c.position⟩

/-- An error at the next character. -/
def Cursor.nextError (c : Cursor) (code : Code) : ReadError := ⟨code, c.blame⟩

/-! ## Readers -/

/-- Reads something, and gives it with the cursor behind it. -/
abbrev Reader (α : Type) := Cursor → Except ReadError (α × Cursor)

/-- The characters that may stand between any two signs. -/
def isBlank (c : Char) : Bool := c == ' ' || c == '\n' || c == '\t' || c == '\r'

/-- Passes the characters of a kind, as many as there are. -/
def skipWhile (p : Char → Bool) : List Char → Position → Cursor
  | [], position => ⟨[], position⟩
  | c :: rest, position =>
    if p c then skipWhile p rest (position.after c) else ⟨c :: rest, position⟩

def Cursor.skipBlanks (c : Cursor) : Cursor := skipWhile isBlank c.rest c.position

/-- Passes the given characters, the rest of a word. -/
def readWord : (word : List Char) → Cursor → Except ReadError Cursor
  | [], c => .ok c
  | x :: word, c =>
    match c.rest with
    | [] => .error (c.error .endInValue)
    | y :: _ => if y = x then readWord word c.next else .error (c.nextError .expectedWord)

end Hashgate.Json
