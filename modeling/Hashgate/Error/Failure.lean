import Hashgate.Error.Gate
import Hashgate.Json.ReadError

/-! # Failures

A failure is what a session, a store or a service reports to its caller: a kind, a message, and the
cause behind it, if one is known. The errors of the parts become failures here.

* `Failure.display` — the kind and the message in one line.
* `Failure.sources` — the wordings of the causes, the nearest first.
* `Failure.inspect` — the failure with all that it holds. -/

namespace Hashgate

inductive Cause where
  | unknown
  | io (error : IoError)
  | gate (error : GateError)
  | json (error : Json.ReadError)
  | failure (kind : ErrorKind) (message : String) (cause : Cause)
  deriving DecidableEq, Repr

structure Failure where
  kind : ErrorKind
  message : String
  cause : Cause
  deriving DecidableEq, Repr

def ErrorKind.headline (kind : ErrorKind) (message : String) : String :=
  "[" ++ kind.text ++ "] " ++ message

namespace Cause

/-- The wordings of a cause and of all that lies behind it. -/
def chain : Cause → List String
  | .unknown => []
  | .io error => [error.message]
  | .gate error => error.message :: error.causes
  | .json error => [error.message]
  | .failure kind message cause => kind.headline message :: cause.chain

/-- What a failure's text says about its cause. -/
def note : Cause → String
  | .unknown => ""
  | .io error => ", source: " ++ error.inspect
  | .gate error => ", source: " ++ error.inspect
  | .json error => ", source: " ++ error.inspect
  | .failure kind message cause =>
    ", source: AppError \x7b kind: " ++ kind.label ++ ", message: " ++ Quoted.quote message ++
      cause.note ++ " \x7d"

end Cause

namespace Failure

def plain (kind : ErrorKind) (message : String) : Failure := ⟨kind, message, .unknown⟩

def withCause (f : Failure) (cause : Cause) : Failure := { f with cause }

def toCause (f : Failure) : Cause := .failure f.kind f.message f.cause

def verificationFailed (message : String) : Failure := plain .verificationFailed message

def notFound (message : String) : Failure := plain .notFound message

def internal (message : String) : Failure := plain .internal message

def display (f : Failure) : String := f.kind.headline f.message

def sources (f : Failure) : List String := f.cause.chain

/-- The failure with its class and its parts. -/
def inspect (f : Failure) : String :=
  "AppError \x7b kind: " ++ f.kind.label ++ ", message: " ++ Quoted.quote f.message ++
    f.cause.note ++ " \x7d"

/-! ## From the errors of the parts -/

/-- An error of a gate, as a failure caused by it. -/
def ofGate (error : GateError) : Failure := ⟨error.kind, error.message, .gate error⟩

def ofIo (error : IoError) : Failure :=
  let kind :=
    if error.kind.isTimeout then .timeout
    else if error.kind = .notFound then .notFound
    else .transport
  ⟨kind, "I/O operation failed", .io error⟩

def ofJson (error : Json.ReadError) : Failure :=
  let message :=
    match error.code.category with
    | .grammar | .shape => "JSON parse error: " ++ error.message
    | .eof => "JSON serialization error"
  ⟨.internal, message, .json error⟩

/-- A value that has to be there. -/
def require (value : Option α) (kind : ErrorKind) (message : String) : Except Failure α :=
  match value with
  | some a => .ok a
  | none => .error (plain kind message)

end Failure

end Hashgate
