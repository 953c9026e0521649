import Hashgate.Text.Quoted

/-! # Errors of a JSON reader

Where and why a text stops being the document that was asked for. A text can end too soon, break the
grammar, or be a document of another shape. Lines count from one, columns are octets and count from
zero. -/

namespace Hashgate.Json

inductive Code where
  -- The text ends too soon.
  | endInValue
  | endInString
  | endInList
  | endInObject
  -- The grammar is broken.
  | expectedColon
  | expectedListEnd
  | expectedObjectEnd
  | expectedWord
  | expectedValue
  | invalidEscape
  | invalidNumber
  | numberOutOfRange
  | controlCharacter
  | keyNotString
  | loneSurrogate
  | brokenSurrogate
  | trailingComma
  | trailingCharacters
  | tooDeep
  -- The document has another shape.
  /-- A value of another type, both of them described. -/
  | invalidType (found expected : String)
  /-- An array of `length` elements that should have another number of them. -/
  | invalidLength (length : Nat) (expected : String)
  | duplicateField (name : String)
  | missingField (name : String)
  deriving DecidableEq, Repr

inductive Category where
  | eof
  | grammar
  | shape
  deriving DecidableEq, Repr

def Code.category : Code → Category
  | .endInValue | .endInString | .endInList | .endInObject => .eof
  | .invalidType .. | .invalidLength .. | .duplicateField _ | .missingField _ => .shape
  | _ => .grammar

def Code.message : Code → String
  | .endInValue => "EOF while parsing a value"
  | .endInString => "EOF while parsing a string"
  | .endInList => "EOF while parsing a list"
  | .endInObject => "EOF while parsing an object"
  | .expectedColon => "expected `:`"
  | .expectedListEnd => "expected `,` or `]`"
  | .expectedObjectEnd => "expected `,` or `\x7d`"
  | .expectedWord => "expected ident"
  | .expectedValue => "expected value"
  | .invalidEscape => "invalid escape"
  | .invalidNumber => "invalid number"
  | .numberOutOfRange => "number out of range"
  | .controlCharacter =>
    "control character (\\u0000-\\u001F) found while parsing a string"
  | .keyNotString => "key must be a string"
  | .loneSurrogate => "lone leading surrogate in hex escape"
  | .brokenSurrogate => "unexpected end of hex escape"
  | .trailingComma => "trailing comma"
  | .trailingCharacters => "trailing characters"
  | .tooDeep => "recursion limit exceeded"
  | .invalidType found expected => "invalid type: " ++ found ++ ", expected " ++ expected
  | .invalidLength length expected =>
    "invalid length " ++ toString length ++ ", expected " ++ expected
  | .duplicateField name => "duplicate field `" ++ name ++ "`"
  | .missingField name => "missing field `" ++ name ++ "`"

structure Position where
  line : Nat
  column : Nat
  deriving DecidableEq, Repr

/-- Where and why a reader stopped. -/
structure ReadError where
  code : Code
  position : Position
  deriving DecidableEq, Repr

def ReadError.message (e : ReadError) : String :=
  e.code.message ++ " at line " ++ toString e.position.line ++ " column " ++
    toString e.position.column

def ReadError.inspect (e : ReadError) : String :=
  "Error(" ++ Quoted.quote e.code.message ++ ", line: " ++ toString e.position.line ++
    ", column: " ++ toString e.position.column ++ ")"

end Hashgate.Json
