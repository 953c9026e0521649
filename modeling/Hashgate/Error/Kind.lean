/-! # Kinds of failure

Every failure of a session, a store or a setting belongs to one of seven kinds. The kinds decide how
a failure is logged: some are the peer's fault, and one is the server's own. -/

namespace Hashgate

inductive ErrorKind where
  | protocol
  | challengeMismatch
  | verificationFailed
  | transport
  | timeout
  | notFound
  | internal
  deriving DecidableEq, Repr

namespace ErrorKind

def all : List ErrorKind :=
  [.protocol, .challengeMismatch, .verificationFailed, .transport, .timeout, .notFound, .internal]

def label : ErrorKind → String
  | .protocol => "Protocol"
  | .challengeMismatch => "ChallengeMismatch"
  | .verificationFailed => "VerificationFailed"
  | .transport => "Transport"
  | .timeout => "Timeout"
  | .notFound => "NotFound"
  | .internal => "Internal"

def text : ErrorKind → String
  | .protocol => "Protocol Error"
  | .challengeMismatch => "Challenge Mismatch"
  | .verificationFailed => "Verification Failed"
  | .transport => "Transport Error"
  | .timeout => "Timeout"
  | .notFound => "Not Found"
  | .internal => "Internal Error"

def ofLabel? (name : String) : Option ErrorKind := all.find? (·.label == name)

/-- Whether the peer is to blame. -/
def isPeerFault : ErrorKind → Bool
  | .protocol | .challengeMismatch | .verificationFailed => true
  | _ => false

/-- Whether the server is to blame. -/
def isServerError : ErrorKind → Bool
  | .internal => true
  | _ => false

end ErrorKind

end Hashgate
