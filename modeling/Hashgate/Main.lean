import Std.Async.Signal
import Std.Async.TCP
import Std.Async.Timer
import Hashgate.Client
import Hashgate.Config.Client
import Hashgate.Config.Server
import Hashgate.Downstream
import Hashgate.Quote.Bundled
import Hashgate.Server.AcceptLoop
import Hashgate.Server.Address
import Hashgate.Session.Live

/-! # The program

`hashgate serve` listens and tells quotes to those who pass its gate, and `hashgate ask` gets one.
Both take their settings from the environment. All that they decide is decided by the sessions; what
stands here carries out the acts of a session on a socket. -/

namespace Hashgate.Program

open Std.Async

/-! ## The world -/

def randomNat : IO Nat := return (← IO.getRandomBytes 8).foldl (fun n b => n * 256 + b.toNat) 0

def randomVector (n : Nat) : IO (Vector UInt8 n) := do
  let octets ← IO.getRandomBytes (USize.ofNat n)
  return Vector.ofFn fun i => octets.data.getD i.val 0

def thisMinute : IO Minute :=
  return Minute.ofSeconds (← Std.Time.Timestamp.now).toSecondsSinceUnixEpoch.val.toNat

def environment (names : List String) : IO Lookup := do
  let values ← names.mapM fun name => return (name, ← IO.getEnv name)
  return fun name => (values.lookup name).join

/-- Shows an entry of the log, unless it is too detailed. -/
def report (level : Log.Level) (entry : Log.Entry) : IO Unit := do
  if entry.level.depth ≤ level.depth then IO.eprintln entry.line

def kindOf : IO.Error → IoError.Kind
  | .resourceVanished .. => .brokenPipe
  | .timeExpired .. => .timedOut
  | .interrupted .. => .interrupted
  | .permissionDenied .. => .permissionDenied
  | _ => .other

/-! ## Sockets -/

/-- Does something with a socket, and gives the kind of the error if it fails. -/
def attempt (action : Async Unit) : Async (Option IoError.Kind) := do
  try
    action
    return none
  catch e => return some (kindOf e)

/-- Carries out an act, and gives what has become known about the stream's outlet. -/
def carryOut (socket : TCP.Socket.Client) (level : Log.Level) (writes : Nat) (outlet : Outlet) :
    Act → Async Outlet
  | .stream (.write octets) => do
    match ← attempt (socket.send ⟨octets.toArray⟩) with
    | some kind => return { outlet with failing := some (writes, .io kind) }
    | none => return outlet
  | .stream .close => do
    match ← attempt socket.shutdown with
    | some kind => return { outlet with closeFault := some kind }
    | none => return outlet
  | .log entry => do
    report level entry
    return outlet
  | _ => return outlet

/-- How long to wait for the peer at a time, in milliseconds. -/
def patience (now : Nat) : Option Nat → Nat
  | some later => min 50 (later - now)
  | none => 50

def listen (socket : TCP.Socket.Client) (millis now : Nat) : Async (Option Step) := do
  let quiet ← Selector.sleep (Std.Time.Millisecond.Offset.ofNat millis)
  try
    Selectable.one #[
      .case (socket.recvSelector 4096) fun
        | some octets => return some ⟨.data octets.data.toList, now, 0⟩
        | none => return some ⟨.ending, now, 0⟩,
      .case quiet fun _ => return none]
  catch e => return some ⟨.failure (kindOf e), now, 0⟩

/-- Whether a script says that the peer sends no more. -/
def hasEnded (steps : List Step) : Bool :=
  steps.any fun step => match step.arrival with
    | .data _ => false
    | _ => true

/-- Plays a session on a socket. The session may depend on what has been found out meanwhile. -/
partial def live (socket : TCP.Socket.Client) (level : Log.Level) (session : Nat → IO (Session α))
    (meet : Nat → Act → IO Unit) (start : Nat) (steps : List Step) (outlet : Outlet)
    (carriedOut writes : Nat) : Async α := do
  let now := (← IO.monoMsNow) - start
  let due := (← session now).due (.ofSteps steps .silence outlet) now carriedOut
  match due.act, due.result with
  | some act, _ =>
    meet now act
    let outlet ← carryOut socket level writes outlet act
    let more := match act with
      | .stream (.write _) => 1
      | _ => 0
    live socket level session meet start steps outlet (carriedOut + 1) (writes + more)
  | none, some result => return result
  | none, none =>
    let millis := patience now due.later
    if hasEnded steps then
      sleep (Std.Time.Millisecond.Offset.ofNat millis)
      live socket level session meet start steps outlet carriedOut writes
    else
      let step ← listen socket millis ((← IO.monoMsNow) - start)
      live socket level session meet start (steps ++ step.toList) outlet carriedOut writes

/-! ## The two programs -/

def socketAddress (text : String) : IO Std.Net.SocketAddress := do
  match Address.parse text with
  | .error fault => throw (IO.userError (fault.listenMessage text))
  | .ok address =>
    match Std.Net.IPv4Addr.ofString address.host with
    | some host => return .v4 ⟨host, address.port⟩
    | none => throw (IO.userError (Address.Fault.noPort.listenMessage text))

def levelOf (name : String) : Log.Level := (Log.Level.ofName? name).getD .info

def freshGate (config : GateConfig) : IO Gate := do
  let mint : Mint :=
    ⟨← thisMinute, ← randomVector _, Int64.ofNat (← randomNat)⟩
  return ⟨config, mint.generator, .standard, ⟨← randomNat, ← randomVector _⟩⟩

/-- One attempt to accept a connection. -/
def acceptOne (listener : TCP.Socket.Server) : Async (Attempt TCP.Socket.Client) := do
  let quiet ← Selector.sleep (Std.Time.Millisecond.Offset.ofNat AcceptLoop.pollMillis)
  try
    Selectable.one #[
      .case listener.acceptSelector fun socket => return .connection socket,
      .case quiet fun _ => return .timeout]
  catch e => return .failure (.ofKind (kindOf e))

/-- What everybody in a server shares: the accept loop with its latch, and when the signal was given. -/
structure Shared where
  loop : IO.Ref AcceptLoop
  stop : IO.Ref (Option Nat)

/-- Signals to everybody that it is time to stop, once the process is told so. -/
def Shared.obey (shared : Shared) (signal : Std.Async.Signal) : Async Unit := do
  let waiter ← Std.Async.Signal.Waiter.mk signal false
  let _ ← await (← waiter.wait)
  if (← shared.stop.get).isNone then shared.stop.set (some (← IO.monoMsNow))
  shared.loop.modify (·.hear .signal)

/-- The signal as it is seen by an observer whose program has started at some moment. -/
def Shared.signalTo (shared : Shared) (observer start : Nat) : IO Hashgate.Signal := do
  if (← shared.loop.get).latch.answer (.isSignalled observer) = .seen true then
    match ← shared.stop.get with
    | some moment => return if moment < start then .beforehand else .given (moment - start)
    | none => return .never
  else return .never

def attend (shared : Shared) (config : ServerConfig) (service : QuoteService)
    (program : Started TCP.Socket.Client) : Async Unit := do
  let gate ← freshGate config.gate
  let draw ← randomNat
  let start ← IO.monoMsNow
  let session (_ : Nat) : IO (Session Unit) :=
    return gate.serve (service.handler draw) (← shared.signalTo program.observer start)
  background do
    live program.connection (levelOf config.logLevel) session (fun _ _ => return ()) start [] .free 0 0

partial def accept (shared : Shared) (listener : TCP.Socket.Server) (config : ServerConfig)
    (service : QuoteService) : Async Unit := do
  shared.loop.modify (·.look)
  match (← shared.loop.get).stage with
  | .attempting =>
    let attempt ← acceptOne listener
    let started ← shared.loop.modifyGet (·.settle attempt)
    started.forM (attend shared config service)
    accept shared listener config service
  | .broken error => throw (IO.userError (AcceptLoop.failureMessage error))
  | _ => return ()

def serve : IO Unit := do
  let lookup ← environment ["LOG_LEVEL", "TCP_ADDR", "COMPLEXITY", "WAIT_POW_MS"]
  match ServerConfig.ofLookup lookup with
  | .error fault => throw (IO.userError fault.message)
  | .ok config =>
    match Store.bundled.bind fun store => return (store, ← QuoteService.ofSource store.source) with
    | .error failure => throw (IO.userError failure.display)
    | .ok (store, service) =>
      report (levelOf config.logLevel) store.entry
      let listener ← TCP.Socket.Server.mk
      listener.bind (← socketAddress config.address)
      listener.listen 128
      let shared : Shared := ⟨← IO.mkRef .fresh, ← IO.mkRef none⟩
      Async.block do
        background (shared.obey .sigint)
        background (shared.obey .sigterm)
        accept shared listener config service

def ask : IO Unit := do
  let lookup ← environment ["LOG_LEVEL", "SERVER_ADDR"]
  match ClientConfig.ofLookup lookup with
  | .error fault => throw (IO.userError fault.message)
  | .ok config =>
    let socket ← TCP.Socket.Client.mk
    (socket.connect (← socketAddress config.serverAddress)).block
    let mining : IO.Ref (Option (Nat × Task Mining)) ← IO.mkRef none
    let effort : IO.Ref (Option (Nat × Mining)) ← IO.mkRef none
    let meet (now : Nat) : Act → IO Unit
      | .mine challenge => mining.set (some (now, Task.spawn fun _ => mine challenge))
      | _ => return ()
    let session (now : Nat) : IO (Session Client.Result) := do
      if let some (start, task) ← mining.get then
        if (← effort.get).isNone && (← IO.hasFinished task) then
          effort.set (some (now - start, task.get))
      match ← effort.get with
      | some (millis, found) => return Client.converse (fun _ => found) (some millis)
      | none => return Client.converse mine none
    let start ← IO.monoMsNow
    match ← (live socket (levelOf config.logLevel) session meet start [] .free 0 0).block with
    | .ok (.answer text) => IO.println text
    | .ok (.interrupted text) => throw (IO.userError text)
    | .error e => throw (IO.userError e.message)

end Hashgate.Program

def main (arguments : List String) : IO UInt32 := do
  try
    match arguments with
    | ["serve"] => Hashgate.Program.serve
    | ["ask"] => Hashgate.Program.ask
    | _ => throw (IO.userError "usage: hashgate serve | hashgate ask")
    return 0
  catch e =>
    IO.eprintln (toString e)
    return 1
