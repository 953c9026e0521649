import Hashgate.Client
import Hashgate.Gate.Basic

/-! # Dialogues

Two sessions at the two ends of a pipe that loses nothing. What one of them writes is a script for
the other: the octets of a write arrive at the moment of the write, and not before the reader has
written all that the writer had heard by then. The pipe is taken to keep writes apart: a read finds
what is left of one write, as much of it as fits, and never the octets of two.

The dialogue is found in rounds. In each, one side plays against all that the other has said so far,
and the other against what the first says to that. It is over once a round adds nothing. -/

namespace Hashgate

/-- How many of some writes a reader has heard of that has read so many octets. -/
def writesHeard : (octets : Nat) → (writes : List (List UInt8)) → Nat
  | _, [] => 0
  | octets, first :: rest => if octets = 0 then 0 else 1 + writesHeard (octets - first.length) rest

/-- What a trace says to the other side, as a script. `heard` octets have been read before it, and
the other side has written `writes`. -/
def Trace.script (writes : List (List UInt8)) : (heard : Nat) → Trace → List Step
  | _, [] => []
  | heard, (moment, act) :: rest =>
    match act with
    | .stream (.read length) => Trace.script writes (heard + length) rest
    | .stream (.write octets) =>
      ⟨.data octets, moment, writesHeard heard writes⟩ :: Trace.script writes heard rest
    | .stream .close => ⟨.ending, moment, writesHeard heard writes⟩ :: Trace.script writes heard rest
    | _ => Trace.script writes heard rest

def Trace.writes (trace : Trace) : List (List UInt8) :=
  trace.filterMap fun
    | (_, .stream (.write octets)) => some octets
    | _ => none

structure Played (α : Type) where
  trace : Trace
  result : Option α

/-- Plays a session against a script, on a stream that stays open. -/
def Session.playScript (x : Session α) (script : List Step) : Played α :=
  let (trace, result) := x.play (.ofSteps script .silence .free)
  ⟨trace, result.map Prod.fst⟩

/-- The dialogue of two sessions after some rounds with the given traces, and in at most so many
rounds more. -/
def dialogueFrom (server : Session α) (client : Session β) : (rounds : Nat) →
    Played α × Played β → Played α × Played β
  | 0, last => last
  | rounds + 1, (lastServer, lastClient) =>
    let heardByServer := lastClient.trace.script lastServer.trace.writes 0
    let nextServer := server.playScript heardByServer
    let heardByClient := nextServer.trace.script lastClient.trace.writes 0
    let nextClient := client.playScript heardByClient
    if nextServer.trace = lastServer.trace ∧ nextClient.trace = lastClient.trace then
      (nextServer, nextClient)
    else dialogueFrom server client rounds (nextServer, nextClient)

def dialogueRounds : Nat := 8

def dialogue (server : Session α) (client : Session β) : Played α × Played β :=
  dialogueFrom server client dialogueRounds (⟨[], none⟩, ⟨[], none⟩)

end Hashgate
