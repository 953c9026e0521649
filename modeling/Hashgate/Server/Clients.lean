import Hashgate.Server.Address
import Hashgate.Session.Basic

/-! # The clients of a server

Clients connect to a server by name, send, leave and receive, in any order. The server hands each of
them to a program of its own, so what a client receives is a function of what that client has done
and of nothing else but the clock and the signal to stop. What a client sends is taken to be there at
once, and to be read by itself: a read finds what is left of one sending, and never of two.

A server that is told to stop is still making an attempt to accept a connection. It ends when that
attempt has yielded one or has run out of time, and its address is free again. -/

namespace Hashgate

/-- One connection, as its client knows it. -/
structure Link where
  /-- What the client has sent, and whether it has stopped sending. -/
  steps : List Step
  /-- When the client connected. -/
  since : Nat
  received : Nat
  deriving DecidableEq, Repr

namespace Link

def trace (link : Link) (handler : Handler) (signal : Signal) : Trace :=
  let stream := Stream.ofSteps link.steps .silence .free
  ((handler signal).play { stream with now := link.since }).1

/-- What the server writes, octet by octet, with the moment of each. -/
def output (trace : Trace) : List (Nat × UInt8) :=
  trace.flatMap fun (moment, act) =>
    match act with
    | .stream (.write octets) => octets.map (moment, ·)
    | _ => []

/-- When the server closes the connection. -/
def closing? (trace : Trace) : Option Nat :=
  (trace.find? fun (_, act) => act = .stream .close).map Prod.fst

def lastMoment (octets : List (Nat × UInt8)) : Nat := (octets.map Prod.fst).foldl max 0

end Link

structure Server where
  /-- Whether clients can reach the server's address at all. -/
  reachable : Bool
  /-- How long an attempt takes that yields nothing, in milliseconds. -/
  poll : Nat
  /-- The time in milliseconds. -/
  now : Nat
  stop : Option Nat
  /-- When the server ends, which is settled only once it has been told to stop. -/
  ending : Option Nat
  /-- Whether somebody has waited for the server to end. -/
  joined : Bool
  links : List (String × Link)
  deriving DecidableEq, Repr

namespace Server

inductive Op where
  | connect (client : String)
  | send (client : String) (octets : List UInt8)
  | finish (client : String)
  | close (client : String)
  | receive (client : String) (count : Nat)
  /-- A client receives all up to the end. -/
  | receiveAll (client : String)
  | idle
  | shutdown
  /-- Another server tries to listen on the same address. -/
  | rebind
  /-- Somebody waits for the server to end. -/
  | join
  deriving DecidableEq, Repr

inductive Answer where
  | done
  | connected
  | octets (octets : List UInt8)
  | bound
  | inUse
  | stopped
  | gone
  | noSuchClient
  | failed (kind : IoError.Kind)
  deriving DecidableEq, Repr

def fresh (reachable : Bool) (poll : Nat) : Server where
  reachable := reachable
  poll := poll
  now := 0
  stop := none
  ending := none
  joined := false
  links := []

/-- How long an idle while is, in milliseconds. -/
def idleTime : Nat := 25

def hasEnded (s : Server) : Bool := s.ending.any (· ≤ s.now)

/-- Tells the server to stop, if nobody has done so. What is done next is done at a later moment. -/
def signal (s : Server) : Server :=
  match s.stop with
  | some _ => s
  | none => { s with stop := some s.now, ending := some (s.now + s.poll), now := s.now + 1 }

def link? (s : Server) (client : String) : Option Link := s.links.lookup client

def setLink (s : Server) (client : String) (link : Link) : Server :=
  { s with links := (client, link) :: s.links.filter fun (name, _) => name != client }

def dropLink (s : Server) (client : String) : Server :=
  { s with links := s.links.filter fun (name, _) => name != client }

def withLink (s : Server) (client : String) (f : Link → Answer × Server) : Answer × Server :=
  match s.link? client with
  | some link => f link
  | none => (.noSuchClient, s)

def push (s : Server) (client : String) (arrival : Arrival) : Answer × Server :=
  s.withLink client fun link =>
    (.done, s.setLink client { link with steps := link.steps ++ [⟨arrival, s.now, 0⟩] })

/-- A client takes octets, and time passes until it has them. -/
def deliver (s : Server) (client : String) (link : Link) (octets : List (Nat × UInt8)) :
    Answer × Server :=
  let s := s.setLink client { link with received := link.received + octets.length }
  (.octets (octets.map Prod.snd), { s with now := max s.now (Link.lastMoment octets) })

def accept (s : Server) (client : String) : Answer × Server :=
  if !s.reachable then (.failed .networkUnreachable, s)
  else if s.hasEnded then (.failed .connectionRefused, s)
  else (.connected, { s.setLink client ⟨[], s.now, 0⟩ with ending := s.ending.map fun _ => s.now })

/-- Somebody waits for the server to end. Only the first one is told, and nobody waits for ever. -/
def await (s : Server) : Answer × Server :=
  if s.joined then (.gone, s)
  else
    match s.ending with
    | none => (.failed .timedOut, { s with joined := true })
    | some moment => (.stopped, { s with joined := true, now := max s.now moment })

def step (handler : Handler) (s : Server) : Op → Answer × Server
  | .connect client => s.accept client
  | .send client octets => s.push client (.data octets)
  | .finish client => s.push client .ending
  | .close client => (.done, s.dropLink client)
  | .receive client count => s.withLink client fun link =>
    let waiting := (Link.output (link.trace handler (.ofMoment s.stop))).drop link.received
    if waiting.length < count then (.failed .unexpectedEof, s)
    else s.deliver client link (waiting.take count)
  | .receiveAll client => s.withLink client fun link =>
    let trace := link.trace handler (.ofMoment s.stop)
    match Link.closing? trace with
    | none => (.failed .timedOut, s)
    | some moment =>
      let (answer, s) := s.deliver client link ((Link.output trace).drop link.received)
      (answer, { s with now := max s.now moment })
  | .idle => (.done, { s with now := s.now + idleTime })
  | .shutdown => (.done, s.signal)
  | .rebind => (if s.hasEnded then .bound else .inUse, s)
  | .join => s.await

def run (handler : Handler) (s : Server) : List Op → List Answer
  | [] => []
  | op :: rest =>
    let (answer, s) := s.step handler op
    answer :: s.run handler rest

end Server

end Hashgate
