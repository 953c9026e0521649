import Hashgate.Error.Io

/-! # Streams

One end of a connection, as the program that holds it meets it: what its reads find and when, and
what becomes of its writes. A stream is played from a script, so a whole conversation is a function
of the script.

* `Step` — something that the peer sends, held back until a moment or until enough was written.
* `Outlet` — how many octets a write takes at a time, and which calls fail.
* `Stream` — the steps that are left, the count of writes so far, and the time in milliseconds.
* `Stream.ready?`, `Stream.take`, `Stream.put` — when the next read is answered, with what, and what
  one write does. -/

namespace Hashgate

/-! ## Scripts -/

/-- What a read finds. -/
inductive Arrival where
  /-- Octets, of which a read takes as many as fit. None at all look like the end. -/
  | data (octets : List UInt8)
  /-- An error, once. -/
  | failure (kind : IoError.Kind)
  /-- The end, now and for ever. -/
  | ending
  deriving DecidableEq, Repr

structure Step where
  arrival : Arrival
  /-- It is not there before this moment. -/
  notBefore : Nat
  /-- It is not there before so many writes have been tried. -/
  afterWrites : Nat
  deriving DecidableEq, Repr

/-- What reads find after the last step. -/
inductive Idle where
  | silence
  | ending
  deriving DecidableEq, Repr

inductive WriteFault where
  | io (kind : IoError.Kind)
  /-- It takes no octet. -/
  | nothing
  deriving DecidableEq, Repr

def WriteFault.toIoError : WriteFault → IoError
  | .io kind => .ofKind kind
  | .nothing => .ofKind .writeZero

/-- Why flushes fail, once so many writes have been tried. A flush before that goes well. -/
structure FlushFault where
  afterWrites : Nat
  kind : IoError.Kind
  deriving DecidableEq, Repr

/-- A kind by itself stands for flushes that always fail. -/
instance : Coe IoError.Kind FlushFault := ⟨fun kind => ⟨0, kind⟩⟩

/-- How a stream treats what is written. -/
structure Outlet where
  /-- The most octets that one write takes, if there is a limit. -/
  chunk : Option Nat
  /-- The number of the first failing write, and why it fails. All later writes fail too. -/
  failing : Option (Nat × WriteFault)
  flushFault : Option FlushFault
  closeFault : Option IoError.Kind
  deriving DecidableEq, Repr

/-- An outlet that takes everything. -/
def Outlet.free : Outlet := ⟨none, none, none, none⟩

/-- Why a flush fails after so many writes, if it does. -/
def Outlet.flushFault? (outlet : Outlet) (writes : Nat) : Option IoError.Kind :=
  match outlet.flushFault with
  | some fault => if fault.afterWrites ≤ writes then some fault.kind else none
  | none => none

/-! ## Events -/

/-- What can be seen of a program at the other side of its stream. -/
inductive StreamEvent where
  | read (length : Nat)
  | readError (kind : IoError.Kind)
  | write (octets : List UInt8)
  | writeError (fault : WriteFault)
  | flush
  | close
  deriving DecidableEq, Repr

/-! ## Playing a script -/

/-- A stream in the middle of a conversation. -/
structure Stream where
  steps : List Step
  idle : Idle
  outlet : Outlet
  /-- How many writes have been tried. -/
  writes : Nat
  /-- The time in milliseconds. -/
  now : Nat
  deriving DecidableEq, Repr

namespace Stream

def ofSteps (steps : List Step) (idle : Idle) (outlet : Outlet) : Stream :=
  ⟨steps, idle, outlet, 0, 0⟩

/-- When the next read is answered, if no write comes before it. -/
def ready? (s : Stream) : Option Nat :=
  match s.steps, s.idle with
  | [], .silence => none
  | [], .ending => some s.now
  | step :: _, _ => if step.afterWrites ≤ s.writes then some (max s.now step.notBefore) else none

/-- What a read of at most `capacity` octets finds, and the stream after it. -/
def take (s : Stream) (capacity : Nat) : Except IoError.Kind (List UInt8) × Stream :=
  match s.steps with
  | [] => (.ok [], s)
  | step :: rest =>
    match step.arrival with
    | .data octets =>
      if octets.length ≤ capacity then (.ok octets, { s with steps := rest })
      else
        (.ok (octets.take capacity),
          { s with steps := { step with arrival := .data (octets.drop capacity) } :: rest })
    | .failure kind => (.error kind, { s with steps := rest })
    | .ending => (.ok [], s)

def writeFault? (s : Stream) : Option WriteFault :=
  match s.outlet.failing with
  | some (start, fault) => if start ≤ s.writes then some fault else none
  | none => none

/-- Why a flush fails now, if it does. -/
def flushFault? (s : Stream) : Option IoError.Kind := s.outlet.flushFault? s.writes

/-- What one write of some octets takes, and the stream after it. -/
def put (s : Stream) (octets : List UInt8) : Except WriteFault (List UInt8) × Stream :=
  let after := { s with writes := s.writes + 1 }
  match s.writeFault?, s.outlet.chunk with
  | some fault, _ => (.error fault, after)
  | none, some chunk => (.ok (octets.take chunk), after)
  | none, none => (.ok octets, after)

/-- The stream at a later moment. Time does not run backwards. -/
def advance (s : Stream) (moment : Nat) : Stream := { s with now := max s.now moment }

end Stream

end Hashgate
