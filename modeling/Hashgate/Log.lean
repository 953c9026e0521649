/-! # Log entries

What the parts of a gate note about their work. An entry has a level, a fixed text, and named fields
for whatever varies. -/

namespace Hashgate.Log

inductive Level where
  | error
  | warn
  | info
  | debug
  deriving DecidableEq, Repr

def Level.label : Level → String
  | .error => "ERROR"
  | .warn => "WARN"
  | .info => "INFO"
  | .debug => "DEBUG"

/-- How far down a level is, the gravest first. -/
def Level.depth : Level → Nat
  | .error => 0
  | .warn => 1
  | .info => 2
  | .debug => 3

/-- The level of a name in lower case. -/
def Level.ofName? : String → Option Level
  | "error" => some .error
  | "warn" => some .warn
  | "info" => some .info
  | "debug" => some .debug
  | _ => none

structure Entry where
  level : Level
  text : String
  fields : List (String × String)
  deriving DecidableEq, Repr

def Entry.summary (e : Entry) : String := e.level.label ++ " " ++ e.text

def Entry.line (e : Entry) : String :=
  e.fields.foldl (fun line (name, value) => line ++ " " ++ name ++ "=" ++ value) e.summary

def error (text : String) (fields : List (String × String)) : Entry := ⟨.error, text, fields⟩

def warn (text : String) (fields : List (String × String)) : Entry := ⟨.warn, text, fields⟩

def info (text : String) (fields : List (String × String)) : Entry := ⟨.info, text, fields⟩

def debug (text : String) (fields : List (String × String)) : Entry := ⟨.debug, text, fields⟩

variable (text : String) (fields : List (String × String))

@[simp] theorem level_error : (error text fields).level = .error := rfl

@[simp] theorem level_warn : (warn text fields).level = .warn := rfl

@[simp] theorem level_info : (info text fields).level = .info := rfl

@[simp] theorem level_debug : (debug text fields).level = .debug := rfl

end Hashgate.Log
