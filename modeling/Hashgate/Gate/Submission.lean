import Hashgate.Session.Basic
import Hashgate.Solution
import Hashgate.Text.Utf8

/-! # Submissions

The peer of a gate submits its result in one read. Whatever the octets are, they are taken as text
and handed to the verifier together with the challenge. -/

namespace Hashgate

/-- The most octets that a gate takes in one read. -/
def readCapacity : Nat := 1024

inductive Verdict where
  | judged (judgement : Judgement)
  /-- It cannot be judged. -/
  | refused (error : GateError)
  /-- The verifier breaks down over it. -/
  | died
  deriving DecidableEq, Repr

abbrev Verifier := String → String → Verdict

/-- The verifier that goes by the digest. -/
def Verifier.standard : Verifier := fun result challenge =>
  match judge result challenge with
  | .ok judgement => .judged judgement
  | .error e => .refused e

inductive Submission where
  /-- The peer sent nothing more. -/
  | disconnected
  /-- The result belongs to the challenge, and is good or not. -/
  | verified (header : String) (valid : Bool)
  /-- The read failed, or the result cannot be judged. -/
  | failed (error : GateError)
  /-- Nobody is left who could say. -/
  | lost
  deriving DecidableEq, Repr

def Session.submit (verify : Verifier) (challenge : String) (octets : List UInt8) :
    Session Submission := do
  let header := Utf8.toStringLossy octets
  log (Log.debug "header to verify" [("header", header)])
  note (.judge header challenge)
  match verify header challenge with
  | .judged judgement =>
    logAll judgement.entries
    return .verified header judgement.isValid
  | .refused e => return .failed e
  | .died => return .lost

def Session.awaitSubmission (verify : Verifier) (challenge : String) : Session Submission := do
  match ← receive readCapacity with
  | .error e => return .failed (.transport e)
  | .ok [] => return .disconnected
  | .ok octets => submit verify challenge octets

end Hashgate
