import Hashgate.Gate.Basic
import Hashgate.Quote.Service

/-! # Programs behind a gate

What a peer reaches once it has passed: a word of wisdom, a fixed message, or an echo of its own
words. Each says one thing and closes the stream. -/

namespace Hashgate

open Session

def noQuoteNotice : String := "cannot get a quote"

/-- The message for a peer of the quote service, and what to note about it. Once the server is told
to stop, the peer hears no quote. -/
def QuoteService.message (service : QuoteService) (draw : Nat) (stopped : Bool) :
    String × List Log.Entry :=
  if stopped then (contextDoneNotice, [Log.warn "shutdown before quote was sent" []])
  else
    match service.quote draw with
    | .ok quote => (quote, [])
    | .error f => (noQuoteNotice, [Log.error "get quote" [("error", f.display)]])

def QuoteService.handler (service : QuoteService) (draw : Nat) : Handler := fun signal => do
  let (message, entries) := service.message draw (signal.precedes (← now))
  logAll entries
  log (Log.info "write message" [("message", message)])
  note (.attempt message)
  match ← send (Utf8.ofString message) with
  | .error e => log (Log.error "write message" [("error", e.message)])
  | .ok () => pure ()
  log (Log.debug "close TCP connection" [])
  match ← close with
  | .error e => log (Log.debug "close TCP connection" [("error", e.message)])
  | .ok () => return ()

def tell (octets : List UInt8) : Handler := fun _ => do
  let _ ← send octets
  let _ ← close
  return ()

def echoCapacity : Nat := 4096

/-- Writes back what it reads, after the name of the peer's host, and closes the stream. -/
def echo (host : String) : Handler := fun _ => do
  match ← receive echoCapacity with
  | .error _ => pure ()
  | .ok octets =>
    let _ ← send (Utf8.ofString (host ++ ">") ++ octets)
  let _ ← close
  return ()

end Hashgate
