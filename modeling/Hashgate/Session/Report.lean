import Hashgate.Session.Basic

/-! # Reports

What an observer who leaves at some moment has seen of a session. -/

namespace Hashgate

structure Report (α : Type) where
  /-- The result and the moment of it, if the session was over in time. -/
  result : Option (α × Nat)
  trace : Trace
  deriving Repr

/-- Watches a session until the given moment. -/
def Session.watch (x : Session α) (s : Stream) (horizon : Nat) : Report α :=
  let (trace, result) := x.play s
  { result := result.bind fun (a, left) => if left.now ≤ horizon then some (a, left.now) else none
    trace := trace.filter fun (moment, _) => moment ≤ horizon }

namespace Report

def acts (r : Report α) : List Act := r.trace.map Prod.snd

def events (r : Report α) : List StreamEvent :=
  r.acts.filterMap fun
    | .stream event => some event
    | _ => none

def entries (r : Report α) : List Log.Entry :=
  r.acts.filterMap fun
    | .log entry => some entry
    | _ => none

def handOvers (r : Report α) : Nat := r.acts.count .handOver

/-- Whether no reader holds on to the stream. -/
def isReleased (r : Report α) : Bool :=
  r.result.isSome || r.acts.count .lend == r.acts.count .giveBack

end Report

end Hashgate
