import Hashgate.Json.Value

/-! # Records in JSON

A record has fields with names, of which some may be left out. It is written as an object, in any
order and with any other members, or as an array of its fields in their order.

What is wrong with a record as a whole is found inside its brackets, but placed behind them: the
reader passes the end of the record before it reports. -/

namespace Hashgate.Json

/-- What a record does with a member. -/
inductive Slot (σ : Type) where
  /-- No field has this name. -/
  | unknown
  /-- The field has been read before. -/
  | taken
  | reader (read : Reader σ)

/-- Reads the members of an object into a record, up to the closing bracket or to the first one that
the record cannot take. -/
def readMembers (slot : String → σ → Slot σ) : (fuel : Nat) → (first : Bool) → σ →
    Cursor → Except ReadError (Except Code σ × Cursor)
  | 0, _, _, c => .error c.noValue
  | fuel + 1, first, s, c => do
    let (more, c) ← nextMember first c
    if !more then return (.ok s, c)
    let (name, c) ← readString c
    match slot name s with
    | .taken => return (.error (.duplicateField name), c)
    | .unknown =>
      let c ← skipValue (← readColon c)
      readMembers slot fuel false s c
    | .reader read =>
      let (s, c) ← read (← readColon c)
      readMembers slot fuel false s c

/-- How a record is read. -/
structure Shape (σ α : Type) where
  /-- What messages call the record. -/
  name : String
  start : σ
  slot : String → σ → Slot σ
  /-- The record of all fields that were read, or what is missing. -/
  build : σ → Except Code α
  /-- The fields in their order, between the brackets of an array. -/
  elements : Cursor → Except ReadError (Except Code α × Cursor)

def Shape.readObject (shape : Shape σ α) : Reader α := fun c => do
  match ← readMembers shape.slot (c.rest.length + 1) true shape.start c with
  | (.ok s, c) =>
    match shape.build s with
    | .ok a => return (a, c.next)
    | .error code => throw (c.leaveObject.error code)
  | (.error code, c) => throw (c.leaveObject.error code)

def Shape.readArray (shape : Shape σ α) : Reader α := fun c => do
  match ← shape.elements c with
  | (.ok a, c) => return (a, ← closeList c)
  | (.error code, c) => throw (c.leaveList.error code)

def Shape.read (shape : Shape σ α) : Reader α := fun c =>
  let c := c.skipBlanks
  match c.rest with
  | [] => .error c.noValue
  | '[' :: _ => shape.readArray c.next
  | '\x7b' :: _ => shape.readObject c.next
  | _ => .error (mismatch c ("struct " ++ shape.name))

/-! ## Fields -/

def readText : Reader String := fun c =>
  let c := c.skipBlanks
  match c.rest with
  | [] => .error c.noValue
  | '"' :: _ => readString c.next
  | _ => .error (mismatch c "a string")

def readTextOrNull : Reader (Option String) := fun c =>
  let c := c.skipBlanks
  match c.rest with
  | 'n' :: _ => (readWord ['u', 'l', 'l'] c.next).map (none, ·)
  | _ => (readText c).map fun (s, c) => (some s, c)

/-- The elements of an array and its end. -/
def readElements (read : Reader α) : (fuel : Nat) → (first : Bool) → Reader (List α)
  | 0, _, c => .error c.noValue
  | fuel + 1, first, c => do
    let (more, c) ← nextElement first c
    if more then
      let (a, c) ← read c
      let (rest, c) ← readElements read fuel false c
      return (a :: rest, c)
    else return ([], c.next)

def readList (read : Reader α) : Reader (List α) := fun c =>
  let c := c.skipBlanks
  match c.rest with
  | [] => .error c.noValue
  | '[' :: _ => readElements read (c.rest.length + 1) true c.next
  | _ => .error (mismatch c "a sequence")

def readWhole (read : Reader α) (text : String) : Except ReadError α := do
  let (a, c) ← read (Cursor.start text)
  finish c
  return a

end Hashgate.Json
