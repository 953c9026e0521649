import Hashgate.Error.Io
import Hashgate.Error.Kind
import Hashgate.Header.Fault
import Hashgate.Log

/-! # Errors of a gate

What can go wrong when a challenge is made, handed out, solved or judged. Each error has a wording, a
kind, causes behind it, and an entry for the log. -/

namespace Hashgate

inductive GateError where
  /-- The text to be solved is no header. -/
  | header (fault : Header.Fault)
  /-- The result is no header. -/
  | calculated (fault : Header.Fault)
  /-- The challenge is no header. -/
  | challenge (fault : Header.Fault)
  /-- The result belongs to another challenge. -/
  | mismatch
  /-- No digest has so many leading zeros. -/
  | unsatisfiable (bits : UInt32)
  | randomSource (why : String)
  | transport (error : IoError)
  | invalidConfig (why : String)
  deriving DecidableEq, Repr

namespace GateError

def randomSourceMessage (why : String) : String := "read random bytes: " ++ why

def message : GateError → String
  | .header fault => "parse header string: " ++ fault.message
  | .calculated fault => "parse calculated header string: " ++ fault.message
  | .challenge fault => "parse challenge header string: " ++ fault.message
  | .mismatch => "calculated header doesn't match the challenge"
  | .unsatisfiable bits => "bits " ++ toString bits.toNat ++ " exceed the digest size"
  | .randomSource why => "create new header: " ++ randomSourceMessage why
  | .transport error => "connection I/O: " ++ error.message
  | .invalidConfig why => "invalid configuration: " ++ why

def kind : GateError → ErrorKind
  | .header _ | .calculated _ | .challenge _ | .unsatisfiable _ => .protocol
  | .mismatch => .challengeMismatch
  | .transport error => if error.kind.isTimeout then .timeout else .transport
  | .randomSource _ | .invalidConfig _ => .internal

/-- The wordings of the causes behind an error, the nearest first. -/
def causes : GateError → List String
  | .header fault => [fault.message]
  | .randomSource why => [randomSourceMessage why]
  | .transport error => [error.message]
  | _ => []

def entry (e : GateError) : Log.Entry :=
  match e with
  | .randomSource why => Log.error "PoW random source error" [("error", randomSourceMessage why)]
  | .invalidConfig why => Log.error "PoW configuration error" [("message", why)]
  | .mismatch => Log.warn "PoW result for a different challenge" []
  | .transport error => Log.warn "PoW connection error" [("error", error.message)]
  | e => Log.debug "PoW error" [("error", e.message)]

def label : GateError → String
  | .header _ => "Header"
  | .calculated _ => "CalculatedHeader"
  | .challenge _ => "ChallengeHeader"
  | .mismatch => "ChallengeMismatch"
  | .unsatisfiable _ => "UnsatisfiableBits"
  | .randomSource _ => "RandomSource"
  | .transport _ => "Transport"
  | .invalidConfig _ => "InvalidConfig"

def inspect (e : GateError) : String :=
  let parts := match e with
    | .header fault | .calculated fault | .challenge fault => "(" ++ fault.inspect ++ ")"
    | .mismatch => ""
    | .unsatisfiable bits => "(" ++ toString bits.toNat ++ ")"
    | .randomSource why => "(RandomSource(" ++ Quoted.quote why ++ "))"
    | .transport error => "(" ++ error.inspect ++ ")"
    | .invalidConfig why => "(" ++ Quoted.quote why ++ ")"
  e.label ++ parts

end GateError

end Hashgate
