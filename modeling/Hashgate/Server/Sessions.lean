import Hashgate.Server.AcceptLoop
import Hashgate.Session.Basic

/-! # The sessions of a server

By itself an accept loop tells which programs it starts. By the clock it also tells when it starts them,
and when the signal comes that they wait for. All else that the session of a program depends on is what
its client sends. What is sent is there at the moment of its sending, and is read by itself.

* `Launch`, `Launch.trace` — a program that was started, and its session.
* `History`, `History.trace?` — what a server has done, and the sessions of its clients.
* `AcceptLoop.record?` — a run by the clock. -/

namespace Hashgate

/-- A program, and when it was started. -/
structure Launch (κ : Type) where
  program : Started κ
  since : Nat
  deriving DecidableEq, Repr

/-- What a program does about the steps of its client, if it may be told to stop. -/
def Launch.trace (launch : Launch κ) (handler : Handler) (steps : List Step) (stop : Option Nat) : Trace :=
  let stream := Stream.ofSteps steps .silence .free
  ((handler (.ofMoment stop)).play { stream with now := launch.since }).1

/-- What a server has done. -/
structure History (κ : Type) where
  /-- In the order in which they were started. -/
  launches : List (Launch κ)
  /-- When the server was told to stop. -/
  stop : Option Nat
  deriving DecidableEq, Repr

namespace History

def empty : History κ := ⟨[], none⟩

/-- Whoever tells the server to stop a second time tells it nothing new. -/
def followedBy (history later : History κ) : History κ :=
  ⟨history.launches ++ later.launches, history.stop.or later.stop⟩

variable [DecidableEq κ]

/-- The program that serves a client. It is the last that was started for it. -/
def launch? (history : History κ) (client : κ) : Option (Launch κ) :=
  history.launches.reverse.find? (·.program.connection = client)

/-- The session of a client that has sent some steps. -/
def trace? (history : History κ) (handler : Handler) (client : κ) (steps : List Step) : Option Trace :=
  (history.launch? client).map (·.trace handler steps history.stop)

end History

namespace AcceptLoop

/-- What an event at some moment adds to the history of a server. -/
def entry (loop next : AcceptLoop) (moment : Nat) (started : List (Started κ)) : History κ where
  launches := started.map (⟨·, moment⟩)
  stop := if !loop.latch.isSignalled && next.latch.isSignalled then some moment else none

/-- What the server does by the clock, if it has got so far. -/
def record? (loop : AcceptLoop) : List (Nat × Event κ) → Option (History κ × AcceptLoop)
  | [] => some (.empty, loop)
  | (moment, event) :: rest => do
    let (started, next) ← loop.step? event
    let (later, last) ← next.record? rest
    return ((loop.entry next moment started).followedBy later, last)

end AcceptLoop

end Hashgate
