/-! # When a program is told to stop

The signal to stop comes once, if at all. Of what falls on the very moment of the signal, all else
comes first. So a signal at moment zero does not keep a program from what is there from the start,
and a signal that was given before the program started does. -/

namespace Hashgate

inductive Signal where
  | never
  /-- Before it starts. -/
  | beforehand
  /-- At some moment, after all else that falls on it. -/
  | given (moment : Nat)
  deriving DecidableEq, Repr

namespace Signal

def moment? : Signal → Option Nat
  | .never => none
  | .beforehand => some 0
  | .given moment => some moment

/-- Whether the signal comes before all that falls on some moment. -/
def precedes : Signal → Nat → Bool
  | .never, _ => false
  | .beforehand, _ => true
  | .given moment, now => moment < now

def ofMoment : Option Nat → Signal
  | none => .never
  | some moment => .given moment

end Signal

end Hashgate
