/-! # The signal to stop

A controller and any number of observers share a channel that holds one value: whether it is time to stop.
The controller may say so once and for all, and it may leave. What it has said stays in the channel, and a
new observer finds there what all others find.

* `Watch` — a channel that holds one value, and what becomes of somebody who waits for a value.
* `Latch.step` — what the controller and the observers can do.
* `Latch.resolves` — whether a wait comes to an end while others go on. -/

namespace Hashgate

/-- A channel that holds the value that was put in last, also when nobody is left to put in another. -/
structure Watch (α : Type) where
  value : α
  /-- Whether somebody is left to put in another value. -/
  isOpen : Bool
  deriving DecidableEq, Repr

namespace Watch

/-- What is known to somebody who waits for a value. -/
inductive Wait where
  /-- There is such a value. -/
  | met
  /-- There is none, and there will be none. -/
  | closed
  | notYet
  deriving DecidableEq, Repr

def fresh (a : α) : Watch α := ⟨a, true⟩

def put (w : Watch α) (a : α) : Watch α := { w with value := a }

def close (w : Watch α) : Watch α := { w with isOpen := false }

/-- The value that is there counts, even if it has been there for long. -/
def waitFor (wanted : α → Bool) (w : Watch α) : Wait :=
  if wanted w.value then .met else if w.isOpen then .notYet else .closed

end Watch

structure Latch where
  channel : Watch Bool
  /-- How many observers there are. They are numbered from zero. -/
  observers : Nat
  deriving DecidableEq, Repr

namespace Latch

inductive Op where
  /-- The controller gives out an observer. -/
  | subscribe
  /-- An observer gives out another. -/
  | clone (observer : Nat)
  | signal
  /-- The controller leaves. -/
  | drop
  | isSignalled (observer : Nat)
  /-- An observer waits for a while. -/
  | wait (observer : Nat)
  deriving DecidableEq, Repr

inductive Answer where
  /-- A new observer with this number. -/
  | observer (number : Nat)
  | done
  | seen (signalled : Bool)
  | fired
  | pending
  /-- There is no such observer, or no controller any more. -/
  | missing
  deriving DecidableEq, Repr

def fresh : Latch := ⟨.fresh false, 0⟩

def isSignalled (l : Latch) : Bool := l.channel.value

def isControlled (l : Latch) : Bool := l.channel.isOpen

/-- Whether somebody is there to do it. -/
def permits (l : Latch) : Op → Bool
  | .subscribe | .signal => l.isControlled
  | .drop => true
  | .clone observer | .isSignalled observer | .wait observer => observer < l.observers

/-- What is left of a latch when somebody has done something. -/
def next (l : Latch) (op : Op) : Latch :=
  if l.permits op then
    match op with
    | .subscribe | .clone _ => { l with observers := l.observers + 1 }
    | .signal => { l with channel := l.channel.put true }
    | .drop => { l with channel := l.channel.close }
    | .isSignalled _ | .wait _ => l
  else l

/-- Nobody takes an observer away. -/
theorem observers_le_next (l : Latch) (op : Op) : l.observers ≤ (l.next op).observers := by
  unfold next
  split
  · cases op <;> simp
  · exact Nat.le_refl _

/-- Whether a wait that somebody begins comes to an end while others do something. Whoever has found the
channel closed looks at it no more, and waits for ever. -/
def resolves (l : Latch) : List Op → Bool
  | [] => l.channel.waitFor id = .met
  | op :: later =>
    match l.channel.waitFor id with
    | .met => true
    | .closed => false
    | .notYet => (l.next op).resolves later

def answer (l : Latch) (op : Op) : Answer :=
  if l.permits op then
    match op with
    | .subscribe | .clone _ => .observer l.observers
    | .signal | .drop => .done
    | .isSignalled _ => .seen l.isSignalled
    | .wait _ => if l.resolves [] then .fired else .pending
  else .missing

def step (l : Latch) (op : Op) : Answer × Latch := (l.answer op, l.next op)

def run (l : Latch) : List Op → List Answer × Latch
  | [] => ([], l)
  | op :: rest =>
    let (answer, l) := l.step op
    let (answers, l) := l.run rest
    (answer :: answers, l)

end Latch

end Hashgate
