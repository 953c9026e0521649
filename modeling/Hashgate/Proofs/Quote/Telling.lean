import Hashgate.Proofs.Gate.Conversation
import Hashgate.Proofs.Quote.Service
import Hashgate.Proofs.Session.Usage
import Hashgate.Downstream

/-! # How a quote is told

The quote service has one thing to say to each peer, and closes the stream when it has said it, or as much of
it as the stream took.  What it says depends on the draw and on whether the server had been told to stop before,
and not on the stream.

* `Word` — what there is to say: a quote, or a notice that there is none.
* `Word.Chosen`, `exists_chosen` — which word it is.
* `telling`, `play_handler` — the whole of a session.
* `Told`, `told_telling` — what its peer can see of it.
* `mem_telling_iff` — what is noted of it.
* `handler_tells` — all of this.
-/

namespace Hashgate.QuoteService

open Session

variable {service : QuoteService} {draw : Nat} {s left : Stream} {trace : Trace}
  {result : Except IoError Unit} {message : String} {entries : List Log.Entry}

/-! ## What there is to say -/

/-- What a peer is told.  A quote may read like a notice, and is a quote all the same. -/
inductive Word where
  /-- The server had been told to stop. -/
  | contextDone
  | quote (q : Quote)
  | noQuote
  deriving DecidableEq, Repr

def Word.text : Word → String
  | .contextDone => "context done"
  | .quote q => q.render
  | .noQuote => "cannot get a quote"

/-- The draw selects a name under which the source gives the quote. -/
def Drawn (service : QuoteService) (draw : Nat) (q : Quote) : Prop :=
  ∃ id, service.ids[draw % service.ids.length]? = some id ∧ service.source.get? id = .ok (some q)

/-- When the server is told to stop before some moment. -/
def StoppedBefore (signal : Signal) (now : Nat) : Prop :=
  signal = .beforehand ∨ ∃ moment < now, signal = .given moment

theorem precedes_iff {signal : Signal} {now : Nat} :
    signal.precedes now = true ↔ StoppedBefore signal now := by
  cases signal <;> simp [Signal.precedes, StoppedBefore]

/-- Which word a peer is told. -/
structure Word.Chosen (word : Word) (service : QuoteService) (draw : Nat) (stopped : Prop) : Prop where
  contextDone_iff : word = .contextDone ↔ stopped
  quote_iff : ∀ q, word = .quote q ↔ ¬ stopped ∧ service.Drawn draw q
  noQuote_iff : word = .noQuote ↔ ¬ stopped ∧ ∃ failure, service.quote draw = .error failure

/-- The entry that goes with a word. -/
inductive Word.Noted : Word → List Log.Entry → Prop
  | contextDone : Noted .contextDone [Log.warn "shutdown before quote was sent" []]
  | quote (q : Quote) : Noted (.quote q) []
  | noQuote (failure : Failure) : Noted .noQuote [Log.error "get quote" [("error", failure.display)]]

theorem Drawn.unique {q r : Quote} (drawn : service.Drawn draw q) (other : service.Drawn draw r) :
    q = r := by
  obtain ⟨id, selected, gives⟩ := drawn
  obtain ⟨_, same, givesOther⟩ := other
  cases selected.symm.trans same
  cases gives.symm.trans givesOther
  rfl

theorem Drawn.quote_eq {q : Quote} (drawn : service.Drawn draw q) : service.quote draw = .ok q.render := by
  obtain ⟨id, selected, gives⟩ := drawn
  exact (quote_eq_ok_iff selected).mpr ⟨q, gives, rfl⟩

/-- A draw gives a quote, or it fails. -/
theorem drawn_or_fails (service : QuoteService) (draw : Nat) :
    (∃ q, service.Drawn draw q) ∨ ∃ failure, service.quote draw = .error failure := by
  cases told : service.quote draw with
  | error failure => exact .inr ⟨failure, rfl⟩
  | ok text =>
    cases selected : service.ids[draw % service.ids.length]? with
    | none =>
      rw [quote, selected] at told
      cases told
    | some id =>
      obtain ⟨q, gives, -⟩ := (quote_eq_ok_iff selected).mp told
      exact .inl ⟨q, id, selected, gives⟩

theorem exists_chosen (service : QuoteService) (draw : Nat) (stopped : Bool) :
    ∃ (word : Word) (entries : List Log.Entry), word.Chosen service draw (stopped = true) ∧
      word.Noted entries ∧ service.message draw stopped = (word.text, entries) := by
  cases stopped with
  | true => exact ⟨.contextDone, _, ⟨by simp, by simp, by simp⟩, .contextDone, rfl⟩
  | false =>
    obtain ⟨q, drawn⟩ | ⟨failure, fails⟩ := service.drawn_or_fails draw
    · refine ⟨.quote q, [], ⟨by simp, fun r => ?_, by simp [drawn.quote_eq]⟩, .quote q, ?_⟩
      · simp only [Word.quote.injEq, Bool.false_eq_true, not_false_eq_true, true_and]
        exact ⟨fun same => same ▸ drawn, fun other => drawn.unique other⟩
      · simp [message, drawn.quote_eq, Word.text]
    · refine ⟨.noQuote, _, ⟨by simp, fun r => ?_, by simp [fails]⟩, .noQuote failure, ?_⟩
      · refine iff_of_false nofun fun drawn => ?_
        rw [drawn.2.quote_eq] at fails
        cases fails
      · simp [message, fails, Word.text, noQuoteNotice]

/-! ## A whole session -/

/-- Entries that are made at one moment. -/
def notes (moment : Nat) (entries : List Log.Entry) : Trace :=
  entries.map fun entry => (moment, .log entry)

/-- What there is to note of a message that could not be written. -/
def writeComplaint : Except IoError Unit → List Log.Entry
  | .error e => [Log.error "write message" [("error", e.message)]]
  | .ok () => []

def closeComplaint : Except IoError Unit → List Log.Entry
  | .error e => [Log.debug "close TCP connection" [("error", e.message)]]
  | .ok () => []

/-- All that the service does at some moment, with the writes of its message. -/
def telling (moment : Nat) (entries : List Log.Entry) (message : String) (writes : Trace)
    (written closed : Except IoError Unit) : Trace :=
  notes moment (entries ++ [Log.info "write message" [("message", message)]]) ++
    ((moment, .attempt message) :: writes) ++
      notes moment (writeComplaint written ++ [Log.debug "close TCP connection" []]) ++
        (moment, .stream .close) :: notes moment (closeComplaint closed)

theorem play_handler {signal : Signal}
    (chooses : service.message draw (signal.precedes s.now) = (message, entries))
    (sends : (send (Utf8.ofString message)).play s = (trace, some (result, left)))
    (sameTime : left.now = s.now) :
    (service.handler draw signal).play s =
      (telling s.now entries message trace result (failWith left.outlet.closeFault), some ((), left)) := by
  -- Neither a write nor a close that fails keeps the service from what comes next.
  cases result with
  | error e =>
    cases closed : failWith left.outlet.closeFault <;>
      simp [handler, play_bind, chooses, sends, telling, notes, writeComplaint, closeComplaint, sameTime, closed]
  | ok _ =>
    cases closed : failWith left.outlet.closeFault <;>
      simp [handler, play_bind, chooses, sends, telling, notes, writeComplaint, closeComplaint, sameTime, closed]

/-! ## What the peer sees -/

section Notes

variable (moment : Nat) (entries : List Log.Entry)

theorem silent_notes : Silent (notes moment entries) := by
  intro mark member
  obtain ⟨entry, -, rfl⟩ := List.mem_map.mp member
  trivial

@[simp] theorem events_notes : events (notes moment entries) = [] := by
  simp [events, notes, Act.event?]

@[simp] theorem attempts_notes : attempts (notes moment entries) = [] :=
  (silent_notes moment entries).attempts_eq

@[simp] theorem written_notes : written (notes moment entries) = [] :=
  (silent_notes moment entries).written_eq

@[simp] theorem reads_notes : reads (notes moment entries) = 0 := by
  simp [reads]

theorem mem_notes_iff {entry : Log.Entry} : (moment, .log entry) ∈ notes moment entries ↔ entry ∈ entries := by
  simp [notes]

end Notes

/-- A message that is written as far as the stream takes it, and a stream that is closed after it. -/
structure Told (message : String) (trace : Trace) : Prop where
  reads_eq : reads trace = 0
  flush_not_mem : .flush ∉ events trace
  attempts_eq : attempts trace = [message]
  closes : ∃ before, events trace = before ++ [.close] ∧ .close ∉ before
  starts : written trace <+: Utf8.ofString message
  complete : Flawless trace → written trace = Utf8.ofString message

/-- The entries do not matter to the peer. -/
theorem told_telling (sends : (send (Utf8.ofString message)).play s = (trace, some (result, left)))
    (moment : Nat) (entries : List Log.Entry) (closed : Except IoError Unit) :
    Told message (telling moment entries message trace result closed) := by
  obtain ⟨taken, starts, complete, uses⟩ := uses_send sends
  obtain ⟨_, _, _, same, sending⟩ := exists_sending_send (Utf8.ofString message) s
  cases sends.symm.trans same
  exact {
    reads_eq := by simp [telling, uses.reads_eq, Act.event?, StreamEvent.isRead]
    flush_not_mem := by simp [telling, uses.flush_not_mem, Act.event?]
    attempts_eq := by simp [telling, Gate.attempts_of_sending sending, Act.message?]
    closes := ⟨events trace, by simp [telling, Act.event?], uses.close_not_mem⟩
    starts := by simpa [telling, Act.octets] using sending.starts
    complete := by
      intro flawless
      cases result with
      | error e =>
        have writes : Flawless trace := fun mark member => flawless mark (by simp [telling, member])
        exact absurd writes (not_flawless_of_send sends)
      | ok _ => simpa [telling, Act.octets] using sending.complete.mp rfl }

/-- What is noted is what goes with the word, and what becomes of the message and the stream. -/
theorem mem_telling_iff (sends : (send (Utf8.ofString message)).play s = (trace, some (result, left)))
    {moment : Nat} {entries : List Log.Entry} {closed : Except IoError Unit} {entry : Log.Entry}
    (other : entry.text ≠ "write message" ∧ entry.text ≠ "close TCP connection") :
    (moment, .log entry) ∈ telling moment entries message trace result closed ↔ entry ∈ entries := by
  obtain ⟨_, _, _, same, sending⟩ := exists_sending_send (Utf8.ofString message) s
  cases sends.symm.trans same
  have noWrite : (moment, Act.log entry) ∉ trace := by
    intro member
    obtain ⟨-, ⟨_, impossible⟩ | ⟨_, impossible⟩⟩ := sending.attempts _ member <;> cases impossible
  have text {list : List Log.Entry} (about : ∀ e ∈ list, e.text = "write message" ∨
      e.text = "close TCP connection") : entry ∉ list := by
    intro member
    obtain same | same := about entry member
    · exact other.1 same
    · exact other.2 same
  have announces : entry ∉ [Log.info "write message" [("message", message)]] := text (by simp [Log.info])
  have complains : entry ∉ writeComplaint result ++ [Log.debug "close TCP connection" []] := by
    cases result <;> exact text (by simp [writeComplaint, Log.error, Log.debug])
  have closes : entry ∉ closeComplaint closed := by
    cases closed <;> exact text (by simp [closeComplaint, Log.debug])
  simp only [telling, List.mem_append, List.mem_cons, mem_notes_iff, announces, complains, closes, noWrite]
  simp

/-- **A peer of the quote service is told one thing, and then the stream is closed.**  Whatever the source,
the draw, the stream and the signal, the session comes to an end without waiting and without reading.  The
word is that the context is done exactly if the server was told to stop before the session, though there be
a quote; otherwise it is the quote that was drawn, or that there is none exactly if the service fails. -/
theorem handler_tells (service : QuoteService) (draw : Nat) (signal : Signal) (s : Stream) :
    ∃ (word : Word) (trace : Trace) (writes : Nat),
      (service.handler draw signal).play s = (trace, some ((), { s with writes := writes })) ∧
      word.Chosen service draw (signal = .beforehand ∨ ∃ moment < s.now, signal = .given moment) ∧
      ((s.now, .log (Log.warn "shutdown before quote was sent" [])) ∈ trace ↔ word = .contextDone) ∧
      ((∃ failure : Failure, (s.now, .log (Log.error "get quote" [("error", failure.display)])) ∈ trace) ↔
        word = .noQuote) ∧
      Told word.text trace := by
  obtain ⟨word, entries, chosen, noted, chooses⟩ := service.exists_chosen draw (signal.precedes s.now)
  obtain ⟨trace, result, left, sends, sending⟩ := exists_sending_send (Utf8.ofString word.text) s
  obtain ⟨writes, rfl⟩ := sending.left_eq
  rw [precedes_iff] at chosen
  refine ⟨word, _, writes, play_handler chooses sends rfl, chosen, ?_, ?_, told_telling sends _ _ _⟩
  · rw [mem_telling_iff sends (by decide)]
    cases noted with
    | contextDone => exact iff_of_true List.mem_cons_self rfl
    | quote q => exact iff_of_false List.not_mem_nil nofun
    | noQuote failure => exact iff_of_false (by simp [Log.warn, Log.error]) nofun
  · have entry (failure : Failure) : (Log.error "get quote" [("error", failure.display)]).text ≠ "write message"
        ∧ (Log.error "get quote" [("error", failure.display)]).text ≠ "close TCP connection" :=
      ⟨by simp [Log.error], by simp [Log.error]⟩
    simp only [mem_telling_iff sends (entry _)]
    cases noted with
    | contextDone => exact iff_of_false (by simp [Log.warn, Log.error]) nofun
    | quote q => exact iff_of_false (by simp) nofun
    | noQuote failure => exact iff_of_true ⟨failure, List.mem_cons_self⟩ rfl

/-- A service with one quote, and a stream that takes two octets at a time and breaks at the second write. -/
def lone : QuoteService := ⟨⟨.ok ["a"], fun id => .ok (some ⟨id, "context done", none⟩)⟩, ["a"]⟩

def brittle : Stream := .ofSteps [] .silence ⟨some 2, some (1, .io .brokenPipe), none, none⟩

/-- A quote that reads like a notice is a quote, and the stream is closed although the quote broke off. -/
theorem handler_tells_brittle :
    ∃ (word : Word) (trace : Trace) (writes : Nat),
      (lone.handler 7 (.given 0)).play brittle = (trace, some ((), { brittle with writes := writes })) ∧
      word = .quote ⟨"a", "context done", none⟩ ∧ attempts trace = ["context done"] ∧
      (∃ before, events trace = before ++ [.close] ∧ .close ∉ before) ∧
      events trace = [.write (Utf8.ofString "co"), .writeError (.io .brokenPipe), .close] := by
  obtain ⟨word, trace, writes, played, chosen, -, -, told⟩ := handler_tells lone 7 (.given 0) brittle
  have early : ¬ ((.given 0 : Signal) = .beforehand ∨ ∃ moment < brittle.now, .given 0 = Signal.given moment) := by
    simp [brittle, Stream.ofSteps]
  have isQuote : word = .quote ⟨"a", "context done", none⟩ :=
    (chosen.quote_iff _).mpr ⟨early, "a", rfl, rfl⟩
  subst isQuote
  refine ⟨_, trace, writes, played, rfl, told.attempts_eq, told.closes, ?_⟩
  have whole : ((lone.handler 7 (.given 0)).play brittle).1 = trace := congrArg Prod.fst played
  rw [← whole]
  rfl

end Hashgate.QuoteService
