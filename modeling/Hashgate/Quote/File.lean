import Hashgate.Json.Record
import Hashgate.Quote.Store

/-! # Files of quotes

A file of quotes is a JSON object whose member `quotes` is an array of objects with the members `id`,
`text` and, perhaps, `author`. -/

namespace Hashgate.Quote

open Json

/-! ## One quote -/

/-- The fields of a quote that have been read. -/
structure Draft where
  id : Option String
  text : Option String
  author : Option (Option String)

/-- A field that may be read, unless it has been. -/
def slotFor (field : Option β) (read : Reader β) (put : β → σ) : Slot σ :=
  match field with
  | some _ => .taken
  | none => .reader fun c => (read c).map fun (b, c) => (put b, c)

def Draft.slot (name : String) (d : Draft) : Slot Draft :=
  match name with
  | "id" => slotFor d.id readText fun id => { d with id := some id }
  | "text" => slotFor d.text readText fun text => { d with text := some text }
  | "author" => slotFor d.author readTextOrNull fun author => { d with author := some author }
  | _ => .unknown

/-- The quote of a draft that lacks no more than an author. -/
def Draft.build (d : Draft) : Except Code Quote :=
  match d.id, d.text with
  | none, _ => .error (.missingField "id")
  | _, none => .error (.missingField "text")
  | some id, some text => .ok ⟨id, text, d.author.getD none⟩

def elements (c : Cursor) : Except ReadError (Except Code Quote × Cursor) := do
  let short (length : Nat) : Except Code Quote :=
    .error (.invalidLength length "struct Quote with 3 elements")
  let (more, c) ← nextElement true c
  if !more then return (short 0, c)
  let (id, c) ← readText c
  let (more, c) ← nextElement false c
  if !more then return (short 1, c)
  let (text, c) ← readText c
  let (more, c) ← nextElement false c
  if !more then return (.ok ⟨id, text, none⟩, c)
  let (author, c) ← readTextOrNull c
  return (.ok ⟨id, text, author⟩, c)

def shape : Shape Draft Quote := ⟨"Quote", ⟨none, none, none⟩, Draft.slot, Draft.build, elements⟩

/-! ## A file -/

def fileSlot (name : String) (quotes : Option (List Quote)) : Slot (Option (List Quote)) :=
  match name with
  | "quotes" => slotFor quotes (readList shape.read) some
  | _ => .unknown

def fileBuild : Option (List Quote) → Except Code (List Quote)
  | some quotes => .ok quotes
  | none => .error (.missingField "quotes")

def fileElements (c : Cursor) : Except ReadError (Except Code (List Quote) × Cursor) := do
  let (more, c) ← nextElement true c
  if !more then return (.error (.invalidLength 0 "struct QuoteFile with 1 element"), c)
  let (quotes, c) ← readList shape.read c
  return (.ok quotes, c)

def fileShape : Shape (Option (List Quote)) (List Quote) :=
  ⟨"QuoteFile", none, fileSlot, fileBuild, fileElements⟩

def readFile (text : String) : Except ReadError (List Quote) := readWhole fileShape.read text

end Hashgate.Quote

namespace Hashgate

def Store.ofFile (text : String) : Except Failure Store :=
  match Quote.readFile text with
  | .error e => .error (.ofJson e)
  | .ok quotes => ofQuotes quotes

end Hashgate
