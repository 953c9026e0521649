import Hashgate.Json.Number
import Hashgate.Json.Text

/-! # Values of JSON

* `check` — whether a text is one value, and the first error if it is not. Arrays and objects may be
  nested up to a limit.
* `skipValue` — passes a value that nobody wants to know. It does without a limit.
* `describe` — what a message calls a value that was not expected.

Both walks see the same signs in another order of errors: after the comma in an array a check says
that the comma was too much where skipping says that a value is missing. -/

namespace Hashgate.Json

/-! ## Scalars -/

/-- A value that holds no other. -/
inductive Scalar where
  | null
  | bool (b : Bool)
  | number (n : Number)
  | string (s : String)

def Scalar.describe : Scalar → String
  | .null => "null"
  | .bool b => "boolean `" ++ (if b then "true" else "false") ++ "`"
  | .number n => n.describe
  | .string s => "string " ++ Quoted.quote s

def readScalar : Reader Scalar := fun c =>
  match c.rest with
  | 'n' :: _ => (readWord ['u', 'l', 'l'] c.next).map (.null, ·)
  | 't' :: _ => (readWord ['r', 'u', 'e'] c.next).map (.bool true, ·)
  | 'f' :: _ => (readWord ['a', 'l', 's', 'e'] c.next).map (.bool false, ·)
  | '-' :: _ => (readNumber false c.next).map fun (n, c) => (.number n, c)
  | '"' :: _ => (readString c.next).map fun (s, c) => (.string s, c)
  | x :: _ =>
    if x.isDigit then (readNumber true c).map fun (n, c) => (.number n, c)
    else .error (c.nextError .expectedValue)
  | [] => .error (c.nextError .expectedValue)

/-- The error of a value at the cursor that should have been something else. -/
def mismatch (c : Cursor) (expected : String) : ReadError :=
  match c.rest with
  | '[' :: _ => c.error (.invalidType "sequence" expected)
  | '\x7b' :: _ => c.error (.invalidType "map" expected)
  | _ =>
    match readScalar c with
    | .error e => e
    | .ok (scalar, c) => c.error (.invalidType scalar.describe expected)

/-! ## Brackets and separators -/

/-- The error of a place where a value should stand and the text ends. -/
def Cursor.noValue (c : Cursor) : ReadError := c.nextError .endInValue

/-- The next element of an array: whether there is one, with the cursor before it. -/
def nextElement (first : Bool) : Reader Bool := fun c =>
  let c := c.skipBlanks
  match c.rest with
  | [] => .error (c.nextError .endInList)
  | ']' :: _ => .ok (false, c)
  | x :: _ =>
    if first then .ok (true, c)
    else if x = ',' then
      let c := c.next.skipBlanks
      match c.rest with
      | [] => .error (c.nextError .endInValue)
      | ']' :: _ => .error (c.nextError .trailingComma)
      | _ => .ok (true, c)
    else .error (c.nextError .expectedListEnd)

/-- The next member of an object: whether there is one, with the cursor behind the quote that opens
its name. -/
def nextMember (first : Bool) : Reader Bool := fun c =>
  let c := c.skipBlanks
  match c.rest with
  | [] => .error (c.nextError .endInObject)
  | '\x7d' :: _ => .ok (false, c)
  | x :: _ =>
    if first then
      if x = '"' then .ok (true, c.next) else .error (c.nextError .keyNotString)
    else if x = ',' then
      let c := c.next.skipBlanks
      match c.rest with
      | [] => .error (c.nextError .endInValue)
      | '"' :: _ => .ok (true, c.next)
      | '\x7d' :: _ => .error (c.nextError .trailingComma)
      | _ => .error (c.nextError .keyNotString)
    else .error (c.nextError .expectedObjectEnd)

def readColon (c : Cursor) : Except ReadError Cursor :=
  let c := c.skipBlanks
  match c.rest with
  | [] => .error (c.nextError .endInObject)
  | ':' :: _ => .ok c.next
  | _ => .error (c.nextError .expectedColon)

def closeList (c : Cursor) : Except ReadError Cursor :=
  let c := c.skipBlanks
  match c.rest with
  | [] => .error (c.nextError .endInList)
  | ']' :: _ => .ok c.next
  | ',' :: _ =>
    let c := c.next.skipBlanks
    match c.rest with
    | ']' :: _ => .error (c.nextError .trailingComma)
    | _ => .error (c.nextError .trailingCharacters)
  | _ => .error (c.nextError .trailingCharacters)

/-- Where a reader stands that has tried to pass the end of an array. -/
def Cursor.leaveList (c : Cursor) : Cursor :=
  let c := c.skipBlanks
  match c.rest with
  | ']' :: _ => c.next
  | ',' :: _ => c.next.skipBlanks
  | _ => c

/-- Where a reader stands that has tried to pass the end of an object. -/
def Cursor.leaveObject (c : Cursor) : Cursor :=
  let c := c.skipBlanks
  match c.rest with
  | '\x7d' :: _ => c.next
  | _ => c

/-- Nothing but blanks may be left. -/
def finish (c : Cursor) : Except ReadError Unit :=
  let c := c.skipBlanks
  match c.rest with
  | [] => .ok ()
  | _ => .error (c.nextError .trailingCharacters)

/-! ## Checking -/

/-- How deep arrays and objects may be nested. -/
def depthLimit : Nat := 127

mutual

/-- Passes a value that may hold `depth` more levels. -/
def checkValue : (fuel depth : Nat) → Cursor → Except ReadError Cursor
  | 0, _, c => .error c.noValue
  | fuel + 1, depth, c =>
    let c := c.skipBlanks
    match c.rest with
    | [] => .error c.noValue
    | '[' :: _ =>
      match depth with
      | 0 => .error (c.nextError .tooDeep)
      | depth + 1 => checkElements fuel depth true c.next
    | '\x7b' :: _ =>
      match depth with
      | 0 => .error (c.nextError .tooDeep)
      | depth + 1 => checkMembers fuel depth true c.next
    | _ => (readScalar c).map Prod.snd

def checkElements : (fuel depth : Nat) → (first : Bool) → Cursor → Except ReadError Cursor
  | 0, _, _, c => .error c.noValue
  | fuel + 1, depth, first, c => do
    let (more, c) ← nextElement first c
    if more then
      let c ← checkValue fuel depth c
      checkElements fuel depth false c
    else return c.next

def checkMembers : (fuel depth : Nat) → (first : Bool) → Cursor → Except ReadError Cursor
  | 0, _, _, c => .error c.noValue
  | fuel + 1, depth, first, c => do
    let (more, c) ← nextMember first c
    if more then
      let (_, c) ← readString c
      let c ← readColon c
      let c ← checkValue fuel depth c
      checkMembers fuel depth false c
    else return c.next

end

/-- Accepts a text that is one value. -/
def check (text : String) : Except ReadError Unit := do
  let start := Cursor.start text
  let c ← checkValue (2 * start.rest.length + 2) depthLimit start
  finish c

/-! ## Skipping -/

/-- What a value stands in. -/
inductive Frame where
  | list
  | object
  deriving DecidableEq, Repr

/-- Passes the name of a member and its colon. -/
def skipName (c : Cursor) : Except ReadError Cursor :=
  let c := c.skipBlanks
  match c.rest with
  | [] => .error (c.nextError .endInObject)
  | '"' :: _ => do
    let c ← skipString c.next
    readColon c
  | _ => .error (c.nextError .keyNotString)

def skipScalar (c : Cursor) : Except ReadError Cursor :=
  match c.rest with
  | 'n' :: _ => readWord ['u', 'l', 'l'] c.next
  | 't' :: _ => readWord ['r', 'u', 'e'] c.next
  | 'f' :: _ => readWord ['a', 'l', 's', 'e'] c.next
  | '-' :: _ => skipNumber c.next
  | '"' :: _ => skipString c.next
  | x :: _ => if x.isDigit then skipNumber c else .error (c.nextError .expectedValue)
  | [] => .error c.noValue

mutual

/-- Passes a value that stands in some frames, the innermost first, and all that these hold. -/
def skipIn : (fuel : Nat) → (frames : List Frame) → Cursor → Except ReadError Cursor
  | 0, _, c => .error c.noValue
  | fuel + 1, frames, c =>
    let c := c.skipBlanks
    match c.rest with
    | '[' :: _ =>
      let c := c.next.skipBlanks
      match c.rest with
      | [] => .error (c.nextError .endInList)
      | ']' :: _ => skipOut fuel frames c.next
      | _ => skipIn fuel (.list :: frames) c
    | '\x7b' :: _ =>
      let c := c.next.skipBlanks
      match c.rest with
      | [] => .error (c.nextError .endInObject)
      | '\x7d' :: _ => skipOut fuel frames c.next
      | _ => do
        let c ← skipName c
        skipIn fuel (.object :: frames) c
    | _ => do
      let c ← skipScalar c
      skipOut fuel frames c

/-- Passes what is left in some frames, behind a value. -/
def skipOut : (fuel : Nat) → (frames : List Frame) → Cursor → Except ReadError Cursor
  | _, [], c => .ok c
  | 0, _, c => .error c.noValue
  | fuel + 1, frame :: outer, c =>
    let c := c.skipBlanks
    match frame, c.rest with
    | .list, [] => .error (c.nextError .endInList)
    | .object, [] => .error (c.nextError .endInObject)
    | .list, ',' :: _ => skipIn fuel (.list :: outer) c.next
    | .object, ',' :: _ => do
      let c ← skipName c.next
      skipIn fuel (.object :: outer) c
    | .list, ']' :: _ => skipOut fuel outer c.next
    | .object, '\x7d' :: _ => skipOut fuel outer c.next
    | .list, _ => .error (c.nextError .expectedListEnd)
    | .object, _ => .error (c.nextError .expectedObjectEnd)

end

def skipValue (c : Cursor) : Except ReadError Cursor := skipIn (2 * c.rest.length + 2) [] c

end Hashgate.Json
