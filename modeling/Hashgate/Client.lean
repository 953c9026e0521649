import Hashgate.Gate.Submission

/-! # The client

The client of a gate asks for a challenge, mines it, sends the result, and takes what comes back as
the answer. It keeps an ear on the stream while it mines: a server that speaks up before the result
is there has given up on the client, and the session is over. -/

namespace Hashgate

def ping : String := "ping"

/-- How a session of the client ends when it ends well. -/
inductive Reply where
  /-- What the server said to the result. -/
  | answer (text : String)
  /-- What the server said before the result was there. -/
  | interrupted (text : String)
  deriving DecidableEq, Repr

inductive ClientError where
  | ping (error : IoError)
  | readChallenge (error : IoError)
  | noChallenge
  | calculate (error : GateError)
  | readDuringCalculation (error : IoError)
  | sendResult (error : IoError)
  | readAnswer (error : IoError)
  deriving DecidableEq, Repr

namespace ClientError

def message : ClientError → String
  | .ping e => "ping server: " ++ e.message
  | .readChallenge e => "read PoW challenge: " ++ e.message
  | .noChallenge => "server closed the connection before sending a challenge"
  | .calculate e => "calculate PoW result: " ++ e.message
  | .readDuringCalculation e => "read while calculating PoW result: " ++ e.message
  | .sendResult e => "send PoW result: " ++ e.message
  | .readAnswer e => "read server answer: " ++ e.message

/-- The wordings of the causes behind an error, the nearest first. -/
def causes : ClientError → List String
  | .ping e | .readChallenge e | .readDuringCalculation e | .sendResult e | .readAnswer e =>
    [e.message]
  | .noChallenge => []
  | .calculate e => e.message :: e.causes

end ClientError

/-- Who is first when the client mines and listens at once. -/
inductive Racer where
  | reader
  | miner
  deriving DecidableEq, Repr

namespace Client

open Session

abbrev Result := Except ClientError Reply

/-- Takes a message that came in while the client was mining. -/
def hearOut : Session Result := do
  match ← receive readCapacity with
  | .error e => return .error (.readDuringCalculation e)
  | .ok octets =>
    let message := Utf8.toStringLossy octets
    log (Log.info "got a message from server" [("message", message)])
    return .ok (.interrupted message)

def present (result : String) : Session Result := do
  match ← send (Utf8.ofString result) with
  | .error e => return .error (.sendResult e)
  | .ok () =>
    match ← receive readCapacity with
    | .error e => return .error (.readAnswer e)
    | .ok octets => return .ok (.answer (Utf8.toStringLossy octets))

/-- The race between the reader and the miner, by the moments at which they are done. Of two at once
the favourite is first. -/
def race (favourite : Racer) (reader miner : Option Nat) : List (Option Nat × Racer) :=
  match favourite with
  | .reader => [(reader, .reader), (miner, .miner)]
  | .miner => [(miner, .miner), (reader, .reader)]

/-- Mines a challenge, which takes `effort` milliseconds or for ever. -/
def solve (favourite : Racer) (mine : String → Mining) (effort : Option Nat) (challenge : String) :
    Session Result := do
  let start ← now
  note (.mine challenge)
  match ← awaitFirst (race favourite (← ready?) (effort.map (start + ·))) with
  | .reader => hearOut
  | .miner =>
    match mine challenge with
    | .refused e => return .error (.calculate e)
    | .endless => stall
    | .found result =>
      log (Log.info "PoW result calculated"
        [("result", result), ("elapsed_ms", toString ((← now) - start))])
      present result

/-- A whole session. Nobody knows beforehand who is first of two that are done at once. -/
def converseWith (favourite : Racer) (mine : String → Mining) (effort : Option Nat) :
    Session Result := do
  log (Log.info "ping server" [])
  match ← send (Utf8.ofString ping) with
  | .error e => return .error (.ping e)
  | .ok () =>
    match ← receive readCapacity with
    | .error e => return .error (.readChallenge e)
    | .ok octets =>
      if octets.isEmpty then return .error .noChallenge
      else
        let challenge := Utf8.toStringLossy octets
        log (Log.info "got PoW challenge" [("challenge", challenge)])
        solve favourite mine effort challenge

/-- A session in which the server is heard if it speaks up just when the result is there. -/
def converse : (String → Mining) → Option Nat → Session Result := converseWith .reader

end Client

end Hashgate
