/-! # UTF-8

Characters as octets and octets as characters. The reader is a machine that takes one octet at a
time, and everything else is a way to run it:

* `encode` — the octets of a text.
* `Reader.feed` — the characters that one octet releases, and where the machine stands after it.
* `decodeLossy` — reads any octets, with one replacement character for each broken sequence.
* `decode` — reads well-formed octets only, and says where the first fault is.

A broken sequence is the longest run of octets that could still begin a character. -/

namespace Hashgate.Utf8

def encode (text : List Char) : List UInt8 := text.flatMap String.utf8EncodeChar

def ofString (text : String) : List UInt8 := encode text.toList

/-- What stands for a sequence of octets that is no character. -/
def replacement : Char := '\ufffd'

/-! ## The reader -/

/-- Where the reader stands between two octets. -/
inductive Reader where
  /-- Between characters. -/
  | start
  /-- Inside a character: `owed` more octets, the next of them from `low` to `high`. `seen` octets
  have been read, and they hold the number `bits`. -/
  | within (owed seen bits : Nat) (low high : UInt8)
  deriving DecidableEq, Repr

inductive Reader.Step where
  /-- It completes a character. -/
  | complete (c : Char)
  /-- It leaves the reader inside a character. -/
  | advance (next : Reader)
  /-- It cannot stand here. -/
  | refuse
  deriving DecidableEq, Repr

/-- The first octet of a character. Five of the values that could introduce a sequence narrow the
octet after them, so that no character has two spellings and no surrogate has one. -/
def Reader.lead (b : UInt8) : Step :=
  if b < 0x80 then .complete (Char.ofNat b.toNat)
  else if b < 0xC2 then .refuse
  else if b < 0xE0 then .advance (.within 1 1 (b.toNat % 32) 0x80 0xBF)
  else if b = 0xE0 then .advance (.within 2 1 0 0xA0 0xBF)
  else if b = 0xED then .advance (.within 2 1 13 0x80 0x9F)
  else if b < 0xF0 then .advance (.within 2 1 (b.toNat % 16) 0x80 0xBF)
  else if b = 0xF0 then .advance (.within 3 1 0 0x90 0xBF)
  else if b < 0xF4 then .advance (.within 3 1 (b.toNat % 8) 0x80 0xBF)
  else if b = 0xF4 then .advance (.within 3 1 4 0x80 0x8F)
  else .refuse

def Reader.step : Reader → UInt8 → Step
  | .start, b => lead b
  | .within owed seen bits low high, b =>
    if low ≤ b ∧ b ≤ high then
      let bits := bits * 64 + b.toNat % 64
      if owed ≤ 1 then .complete (Char.ofNat bits)
      else .advance (.within (owed - 1) (seen + 1) bits 0x80 0xBF)
    else .refuse

/-! ## Any octets -/

/-- The characters that one octet releases, and where the reader stands after it. An octet that
breaks a sequence off is read once more as a first octet. -/
def Reader.feed (reader : Reader) (b : UInt8) : List Char × Reader :=
  match reader, reader.step b with
  | _, .complete c => ([c], .start)
  | _, .advance next => ([], next)
  | .start, .refuse => ([replacement], .start)
  | .within .., .refuse =>
    match lead b with
    | .complete c => ([replacement, c], .start)
    | .advance next => ([replacement], next)
    | .refuse => ([replacement, replacement], .start)

/-- What is left to say when the octets end. -/
def Reader.finish : Reader → List Char
  | .start => []
  | .within .. => [replacement]

def Reader.readAll : Reader → List UInt8 → List Char
  | reader, [] => reader.finish
  | reader, b :: rest => (reader.feed b).1 ++ (reader.feed b).2.readAll rest

/-- The text of any octets. -/
def decodeLossy (octets : List UInt8) : List Char := Reader.start.readAll octets

def toStringLossy (octets : List UInt8) : String := String.ofList (decodeLossy octets)

/-! ## Well-formed octets -/

structure Fault where
  /-- Where the faulty sequence begins. -/
  index : Nat
  /-- How long it is; nothing when the octets end inside a character. -/
  length : Option Nat
  deriving DecidableEq, Repr

def Fault.message (fault : Fault) : String :=
  match fault.length with
  | some length =>
    "invalid utf-8 sequence of " ++ toString length ++ " bytes from index " ++ toString fault.index
  | none => "incomplete utf-8 byte sequence from index " ++ toString fault.index

/-- Reads octets from position `index` on. -/
def Reader.readStrict : Reader → Nat → List UInt8 → Except Fault (List Char)
  | .start, _, [] => .ok []
  | .within _ seen .., index, [] => .error ⟨index - seen, none⟩
  | reader, index, b :: rest =>
    match reader, reader.step b with
    | _, .complete c => (Reader.start.readStrict (index + 1) rest).map (c :: ·)
    | _, .advance next => next.readStrict (index + 1) rest
    | .start, .refuse => .error ⟨index, some 1⟩
    | .within _ seen .., .refuse => .error ⟨index - seen, some seen⟩

def decode (octets : List UInt8) : Except Fault (List Char) := Reader.start.readStrict 0 octets

end Hashgate.Utf8
