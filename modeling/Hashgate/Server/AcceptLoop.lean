import Hashgate.Error.Io
import Hashgate.Server.Latch

/-! # The accept loop

A server makes one attempt after the other to accept a connection, and before each it looks whether it has
been told to stop. An attempt yields a connection, runs out of time or fails. The server hands every
connection to a program of its own, with an observer of its own, and goes on. If an attempt fails, the
server breaks off.

* `AcceptLoop.look`, `AcceptLoop.settle` — what the server does by itself.
* `AcceptLoop.hear` — what others do meanwhile.
* `AcceptLoop.run?` — any number of these in any order that the server keeps to. -/

namespace Hashgate

/-- How an attempt to accept a connection ends. -/
inductive Attempt (κ : Type) where
  | timeout
  | connection (c : κ)
  | failure (error : IoError)
  deriving DecidableEq, Repr

/-- A program that was started. -/
structure Started (κ : Type) where
  connection : κ
  /-- The program's observer. -/
  observer : Nat
  deriving DecidableEq, Repr

namespace AcceptLoop

/-- How long an attempt takes that yields nothing, in milliseconds. -/
def pollMillis : Nat := 1000

inductive Stage where
  /-- About to look whether it is time to stop. -/
  | looking
  | attempting
  | stopped
  | broken (error : IoError)
  deriving DecidableEq, Repr

/-- The wording of an error that a server breaks off with. -/
def failureMessage (error : IoError) : String := "accept connection: " ++ error.message

end AcceptLoop

structure AcceptLoop where
  latch : Latch
  /-- The server's own observer. -/
  observer : Nat
  observes : observer < latch.observers
  stage : AcceptLoop.Stage

namespace AcceptLoop

def start (latch : Latch) (observer : Nat) (observes : observer < latch.observers) : AcceptLoop :=
  ⟨latch, observer, observes, .looking⟩

/-- A server alone with a controller. -/
def fresh : AcceptLoop := start (Latch.fresh.next .subscribe) 0 (by decide)

/-- Somebody does something with the latch. -/
def hear (loop : AcceptLoop) (op : Latch.Op) : AcceptLoop where
  latch := loop.latch.next op
  observer := loop.observer
  observes := Nat.lt_of_lt_of_le loop.observes (loop.latch.observers_le_next op)
  stage := loop.stage

def look (loop : AcceptLoop) : AcceptLoop :=
  let told := loop.latch.answer (.isSignalled loop.observer) = .seen true
  { loop with stage := if told then .stopped else .attempting }

/-- An attempt has ended. -/
def settle (loop : AcceptLoop) : Attempt κ → List (Started κ) × AcceptLoop
  | .timeout => ([], { loop with stage := .looking })
  | .connection c =>
    ([⟨c, loop.latch.observers⟩], { loop.hear (.clone loop.observer) with stage := .looking })
  | .failure error => ([], { loop with stage := .broken error })

inductive Event (κ : Type) where
  /-- Somebody else does something with the latch. -/
  | heard (op : Latch.Op)
  | look
  | settle (attempt : Attempt κ)
  deriving DecidableEq, Repr

/-- What the server does, if it has got so far. -/
def step? (loop : AcceptLoop) : Event κ → Option (List (Started κ) × AcceptLoop)
  | .heard op => some ([], loop.hear op)
  | .look => if loop.stage = .looking then some ([], loop.look) else none
  | .settle attempt => if loop.stage = .attempting then some (loop.settle attempt) else none

def run? (loop : AcceptLoop) : List (Event κ) → Option (List (Started κ) × AcceptLoop)
  | [] => some ([], loop)
  | event :: rest => do
    let (first, loop) ← loop.step? event
    let (later, loop) ← loop.run? rest
    return (first ++ later, loop)

end AcceptLoop

end Hashgate
