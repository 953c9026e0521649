import Hashgate.Log
import Hashgate.Session.Signal
import Hashgate.Stream

/-! # Sessions

A session is a program that holds a stream. Playing it against a stream gives a trace, which is a
list of acts with the moment of each, and, unless the program waits for ever, a result and what is
left of the stream.

Sessions are written in `do` notation over a few primitives: `note` and `log` leave a mark,
`receive`, `send`, `flush` and `close` use the stream, and `awaitFirst` waits for the earliest of
some moments. -/

namespace Hashgate

/-- What a program does or lets be known. -/
inductive Act where
  | stream (event : StreamEvent)
  | log (entry : Log.Entry)
  /-- It sets out to write a message. -/
  | attempt (message : String)
  | issue
  /-- It has a result judged against a challenge. -/
  | judge (result challenge : String)
  /-- It begins to mine a challenge. -/
  | mine (challenge : String)
  /-- It lends its stream to a reader of its own. -/
  | lend
  /-- The reader has given the stream back. -/
  | giveBack
  /-- It has waited for as long as its patience lasts. -/
  | expire
  /-- It hands its stream over to the next program. -/
  | handOver
  deriving DecidableEq, Repr

/-- Acts with their moments, the earliest first. -/
abbrev Trace := List (Nat × Act)

/-- A program that holds a stream. It gives its trace, and its result with what is left of the stream
unless it waits for ever. -/
def Session (α : Type) := Stream → Trace × Option (α × Stream)

namespace Session

def play (x : Session α) (s : Stream) : Trace × Option (α × Stream) := x s

protected def pure (a : α) : Session α := fun s => ([], some (a, s))

protected def bind (x : Session α) (f : α → Session β) : Session β := fun s =>
  match x s with
  | (trace, none) => (trace, none)
  | (trace, some (a, s)) => (trace ++ (f a s).1, (f a s).2)

instance : Monad Session where
  pure := Session.pure
  bind := Session.bind

@[simp] theorem play_pure (a : α) (s : Stream) : (pure a : Session α).play s = ([], some (a, s)) :=
  rfl

/-- The trace of two sessions is that of the first, followed by that of the second if the first comes
to an end. -/
theorem play_bind (x : Session α) (f : α → Session β) (s : Stream) :
    (x >>= f).play s =
      match x.play s with
      | (trace, none) => (trace, none)
      | (trace, some (a, rest)) => (trace ++ ((f a).play rest).1, ((f a).play rest).2) :=
  rfl

theorem bind_pure_eq (x : Session α) : (x >>= fun a => pure a) = x := by
  funext s
  show (match x s with
    | (trace, none) => (trace, none)
    | (trace, some (a, rest)) => (trace ++ [], some (a, rest))) = x s
  rcases x s with ⟨trace, _ | ⟨a, rest⟩⟩ <;> simp

theorem pure_bind_eq (a : α) (f : α → Session β) : (pure a >>= f) = f a := rfl

theorem bind_assoc_eq (x : Session α) (f : α → Session β) (g : β → Session γ) :
    (x >>= f >>= g) = (x >>= fun a => f a >>= g) := by
  funext s
  show Session.bind (Session.bind x f) g s = Session.bind x (fun a => Session.bind (f a) g) s
  simp only [Session.bind]
  rcases x s with ⟨trace, _ | ⟨a, rest⟩⟩
  · rfl
  · rcases later : f a rest with ⟨more, _ | ⟨b, left⟩⟩ <;> simp [later]

instance : LawfulMonad Session :=
  LawfulMonad.mk' Session bind_pure_eq pure_bind_eq bind_assoc_eq

/-! ## Time -/

/-- Waits for ever. -/
def stall : Session α := fun _ => ([], none)

def now : Session Nat := fun s => ([], some (s.now, s))

/-- The moment at which the next read is answered. -/
def ready? : Session (Option Nat) := fun s => ([], some (s.ready?, s))

/-- Waits for a moment, unless it has passed. -/
def sleepUntil (moment : Nat) : Session Unit := fun s => ([], some ((), s.advance moment))

/-- The earliest of some moments with what it stands for. Of two at once it is the one listed first,
and what never comes has no moment. -/
def earliest : List (Option Nat × β) → Option (Nat × β)
  | [] => none
  | (none, _) :: rest => earliest rest
  | (some moment, b) :: rest =>
    match earliest rest with
    | some (sooner, c) => if sooner < moment then some (sooner, c) else some (moment, b)
    | none => some (moment, b)

def awaitFirst (moments : List (Option Nat × β)) : Session β :=
  match earliest moments with
  | none => stall
  | some (moment, b) => do
    sleepUntil moment
    return b

/-! ## Marks -/

def note (act : Act) : Session Unit := fun s => ([(s.now, act)], some ((), s))

def log (entry : Log.Entry) : Session Unit := note (.log entry)

def logAll : List Log.Entry → Session Unit
  | [] => Session.pure ()
  | entry :: rest => do
    log entry
    logAll rest

/-! ## Reading -/

/-- Reads what is there, up to `capacity` octets. -/
def readNow (capacity : Nat) : Session (Except IoError (List UInt8)) := fun s =>
  match s.take capacity with
  | (.ok octets, rest) =>
    ([(s.now, .stream (.read octets.length))], some (.ok octets, rest))
  | (.error kind, rest) =>
    ([(s.now, .stream (.readError kind))], some (.error (.ofKind kind), rest))

/-- Waits for the next read to be answered, and reads up to `capacity` octets. -/
def receive (capacity : Nat) : Session (Except IoError (List UInt8)) := do
  awaitFirst [(← ready?, ())]
  readNow capacity

/-! ## Writing -/

/-- One write. It gives the octets that are still to be written. -/
def writeOnce (octets : List UInt8) : Session (Except IoError (List UInt8)) := fun s =>
  match s.put octets with
  | (.ok taken, after) =>
    let left :=
      if taken.isEmpty then .error (.ofKind .writeZero) else .ok (octets.drop taken.length)
    ([(s.now, .stream (.write taken))], some (left, after))
  | (.error fault, after) =>
    ([(s.now, .stream (.writeError fault))], some (.error fault.toIoError, after))

/-- Writes until nothing is left or a write fails, but at most `writes` times. -/
def writeUpTo : (writes : Nat) → List UInt8 → Session (Except IoError Unit)
  | 0, _ => Session.pure (.ok ())
  | writes + 1, octets =>
    if octets.isEmpty then Session.pure (.ok ())
    else do
      match ← writeOnce octets with
      | .error e => return .error e
      | .ok left => writeUpTo writes left

/-- Writes all octets. A write that does not fail takes at least one of them. -/
def send (octets : List UInt8) : Session (Except IoError Unit) := writeUpTo octets.length octets

def failWith (fault : Option IoError.Kind) : Except IoError Unit :=
  match fault with
  | some kind => .error (.ofKind kind)
  | none => .ok ()

/-- Pushes out what was written. -/
def flush : Session (Except IoError Unit) := fun s =>
  ([(s.now, .stream .flush)], some (failWith s.flushFault?, s))

/-- Closes the stream for writing. -/
def close : Session (Except IoError Unit) := fun s =>
  ([(s.now, .stream .close)], some (failWith s.outlet.closeFault, s))

end Session

/-- A program that is handed a stream, and told when to stop. -/
abbrev Handler := Signal → Session Unit

end Hashgate
