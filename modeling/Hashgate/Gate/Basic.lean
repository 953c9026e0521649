import Hashgate.Challenge
import Hashgate.Error.Failure
import Hashgate.Gate.Submission

/-! # The gate

A gate stands before another program and lets through whoever solves its challenge.

1. It waits for the peer's first message, whatever that says.
2. It writes a challenge.
3. It waits for the result, for its patience to end, or for the signal to stop, whichever is first.
4. On a good result the stream, still open, goes to the next program.

On any other way the gate writes one short notice, or none, and closes the stream. -/

namespace Hashgate

/-! ## Notices -/

/-- The notice to a peer that came too late, or that the server has no time for any more. -/
def contextDoneNotice : String := "context done"

def verificationFailedNotice : String := "PoW verification failed"

/-- The notice to a peer whose result could not be judged. -/
def internalErrorNotice : String := "internal error on verifying PoW"

/-- The notice for an error. A result for another challenge counts as one that is no good. -/
def GateError.notice : GateError → String
  | .mismatch => verificationFailedNotice
  | _ => internalErrorNotice

/-! ## Gates -/

/-- A gate that is about to hold one session. -/
structure Gate where
  config : GateConfig
  generate : Generator
  verify : Verifier
  draw : Draw

inductive Outcome where
  /-- The stream went to the next program. -/
  | passed
  | failed (failure : Failure)
  /-- Patience or the server came to an end first. -/
  | timedOut
  /-- The peer left first. -/
  | disconnected
  deriving DecidableEq, Repr

def Gate.make? (config : GateConfig) (generate : Generator) (verify : Verifier) (draw : Draw) :
    Except GateError Gate := do
  config.validate
  return ⟨config, generate, verify, draw⟩

namespace Gate

open Session

/-! ## Saying things to the peer -/

/-- Writes a message and pushes it out. -/
def say (message : String) : Session (Except IoError Unit) := do
  log (Log.debug "write message" [("message", message)])
  note (.attempt message)
  match ← send (Utf8.ofString message) with
  | .error e => return .error e
  | .ok () => flush

/-- Closes the stream. It does not matter whether that works. -/
def hangUp : Session Unit := do
  log (Log.debug "close TCP connection" [])
  match ← close with
  | .error e => log (Log.debug "close connection" [("error", e.message)])
  | .ok () => return ()

/-- Writes a notice and closes the stream. A peer that is gone cannot be told anything. -/
def dismiss (notice : String) : Session Unit := do
  match ← say notice with
  | .error e => log (Log.debug "write notice" [("error", e.message), ("notice", notice)])
  | .ok () => pure ()
  hangUp

def reject (error : GateError) : Session Outcome := do
  log error.entry
  dismiss error.notice
  return .failed (.ofGate error)

/-- Ends a session whose time is over. -/
def giveUp : Session Outcome := do
  dismiss contextDoneNotice
  return .timedOut

/-! ## The conversation -/

inductive Wake where
  | signal
  | message
  | deadline
  deriving DecidableEq, Repr

/-- Hands the stream to the next program on a good result, and ends the session otherwise. -/
def conclude (next : Session Unit) : Submission → Session Outcome
  | .disconnected => do
    log (Log.info "peer closed before sending a result" [])
    hangUp
    return .disconnected
  | .verified _ true => do
    log (Log.info "PoW verification passed" [])
    note .handOver
    next
    return .passed
  | .verified header false => do
    log (Log.warn "PoW verification failed" [("header", header)])
    dismiss verificationFailedNotice
    return .failed (.verificationFailed "digest does not meet the difficulty target")
  | .failed e => reject e
  | .lost => do
    log (Log.error "PoW reader task ended without a result" [])
    dismiss internalErrorNotice
    return .failed (.internal "PoW reader task ended without a result")

/-- Waits for the result of a challenge that has been written. -/
def awaitResult (gate : Gate) (challenge : String) (signal : Signal) (next : Session Unit) :
    Session Outcome := do
  note .lend
  let deadline := (← now) + gate.config.patience
  match ← awaitFirst
    [(← ready?, Wake.message), (some deadline, .deadline), (signal.moment?, .signal)] with
  | .deadline =>
    note .expire
    note .giveBack
    log (Log.warn "PoW deadline exceeded"
      [("wait_ms", toString gate.config.waitMillis.toNat)])
    giveUp
  | .signal =>
    note .giveBack
    log (Log.warn "shutdown while waiting for PoW result" [])
    giveUp
  | .message =>
    let submission ← awaitSubmission gate.verify challenge
    note .giveBack
    conclude next submission

def exchange (gate : Gate) (signal : Signal) (next : Session Unit) : Session Outcome := do
  note .issue
  match gate.config.issue gate.draw gate.generate with
  | .error e => reject e
  | .ok issued =>
    log issued.entry
    match ← say issued.header with
    | .error e =>
      let e := GateError.transport e
      log e.entry
      hangUp
      return .failed (.ofGate e)
    | .ok () => gate.awaitResult issued.header signal next

def greet (gate : Gate) (signal : Signal) (next : Session Unit) : Session Outcome := do
  match ← receive readCapacity with
  | .error e => reject (.transport e)
  | .ok octets =>
    if octets.isEmpty then
      log (Log.debug "peer closed its side before asking for a challenge" [])
    else log (Log.info "got message" [("message", Utf8.toStringLossy octets)])
    gate.exchange signal next

/-- One session, in which the gate may be told to stop. -/
def handle (gate : Gate) (next : Handler) (signal : Signal) : Session Outcome := do
  if signal.precedes (← now) then giveUp
  else
    match ← awaitFirst [(← ready?, Wake.message), (signal.moment?, .signal)] with
    | .message => gate.greet signal (next signal)
    | _ => giveUp

/-! ## Gates as programs -/

def farewell (outcome : Outcome) (elapsed : Nat) : Log.Entry :=
  let time := ("elapsed_ms", toString elapsed)
  match outcome with
  | .passed => Log.info "PoW session passed" [time]
  | .failed failure =>
    let fields := [("error", failure.display), time]
    if failure.kind.isServerError then Log.error "PoW session failed" fields
    else if failure.kind.isPeerFault then Log.warn "PoW session rejected" fields
    else Log.info "PoW session broken" fields
  | .timedOut => Log.warn "PoW session timed out" [time]
  | .disconnected => Log.debug "PoW session abandoned" [time]

/-- A gate before a program is a program. -/
def serve (gate : Gate) (next : Handler) : Handler := fun signal => do
  let start ← now
  let outcome ← gate.handle next signal
  log (farewell outcome ((← now) - start))

/-- Gates one behind the other, and a program behind the last of them. -/
def chain (gates : List Gate) (innermost : Handler) : Handler := gates.foldr serve innermost

end Gate

end Hashgate
