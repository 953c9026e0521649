import Hashgate.Downstream
import Hashgate.Proofs.Dialogue.Rounds
import Hashgate.Proofs.Gate.Race
import Hashgate.Proofs.Session.Free
import Hashgate.Proofs.Text.Lossy

/-! # The two sides of a dialogue

What an honest client and a gate before the quote service do against the scripts that come up when they
talk to one another, and what each of them hears of the other.  The client is first with its result
whenever nothing reaches it while it mines, so all that comes after is left open here.

* `play_converse` — the client, up to the moment when it waits for the answer.
* `play_handle_unanswered`, `play_handle_answered` — the gate, without a result and with a good one.
* `script_clientTrace`, `script_askingTrace`, `script_tellingTrace` — what the other side hears.
-/

namespace Hashgate

open Session Gate

/-! ## The client's side -/

/-- A stream that stays open and takes everything. -/
abbrev openStream (steps : List Step) (writes now : Nat) : Stream := ⟨steps, .silence, .free, writes, now⟩

/-- What the client makes of the answer. -/
def Client.conclude : Except IoError (List UInt8) → Client.Result
  | .error e => .error (.readAnswer e)
  | .ok octets => .ok (.answer (Utf8.toStringLossy octets))

theorem ofString_ping : Utf8.ofString ping = [112, 105, 110, 103] := by decide

section Client

variable {mine : String → Mining} {effort : Nat} {challenge result : String} {rest : List Step}

def pingTrace : Trace :=
  [(0, .log (Log.info "ping server" [])), (0, .stream (.write (Utf8.ofString ping)))]

/-- All that an honest client does before it waits for the answer. -/
def clientTrace (effort : Nat) (challenge result : String) : Trace :=
  pingTrace ++ [(0, .stream (.read (Utf8.ofString challenge).length)),
    (0, .log (Log.info "got PoW challenge" [("challenge", challenge)])), (0, .mine challenge),
    (effort, .log (Log.info "PoW result calculated"
      [("result", result), ("elapsed_ms", toString effort)])),
    (effort, .stream (.write (Utf8.ofString result)))]

/-- A client that hears nothing waits for ever. -/
theorem play_converse_unheard (mine : String → Mining) (effort : Option Nat) :
    (Client.converse mine effort).play (openStream [] 0 0) =
      (pingTrace, none) := by
  have sends : (send (Utf8.ofString ping)).play (openStream [] 0 0) = _ :=
    play_send_free_cons rfl (by simp [ofString_ping])
  have stalls : (receive readCapacity).play (openStream [] 1 0) = ([], none) := rfl
  simp [Client.converse, Client.converseWith, play_bind, sends, stalls, countWrite, pingTrace]

theorem play_present {s : Stream} (free : s.outlet = .free) (nonempty : Utf8.ofString result ≠ []) :
    (Client.present result).play s =
      ((s.now, .stream (.write (Utf8.ofString result))) ::
          ((receive readCapacity).play (countWrite s)).1,
        ((receive readCapacity).play (countWrite s)).2.map fun ended =>
          (Client.conclude ended.1, ended.2)) := by
  rw [Client.present, play_bind_of_some _ (play_send_free_cons free nonempty)]
  rcases received : (receive readCapacity).play (countWrite s) with ⟨trace, _ | ⟨found, left⟩⟩
  · simp [play_bind, received]
  · cases found <;> simp [play_bind, received, Client.conclude]

theorem play_solve (mined : mine challenge = .found result) (answers : Utf8.ofString result ≠ [])
    (patient : Late effort (openStream rest 1 0)) :
    (Client.solve .reader mine (some effort) challenge).play (openStream rest 1 0) =
      ((0, .mine challenge) :: (effort, .log (Log.info "PoW result calculated"
          [("result", result), ("elapsed_ms", toString effort)])) ::
        (effort, .stream (.write (Utf8.ofString result))) ::
          ((receive readCapacity).play (openStream rest 2 effort)).1,
        ((receive readCapacity).play (openStream rest 2 effort)).2.map fun ended =>
          (Client.conclude ended.1, ended.2)) := by
  -- The miner is first, for nothing is there to be read by then.
  have wins : Wins (Client.race .reader (openStream rest 1 0).ready? (some effort)) effort .miner :=
    .later patient (.here (notAfter_nil _))
  have waits := play_awaitFirst_of_wins wins (openStream rest 1 0)
  simp [Client.solve, play_bind, waits, mined, play_present, answers, Stream.advance]

/-- A client that gets a challenge, and hears nothing more until it has mined it, sends its result. -/
theorem play_converse (mined : mine challenge = .found result)
    (asked : Utf8.ofString challenge ≠ []) (fits : (Utf8.ofString challenge).length ≤ readCapacity)
    (answers : Utf8.ofString result ≠ []) (patient : Late effort (openStream rest 1 0)) :
    (Client.converse mine (some effort)).play
        (openStream (⟨.data (Utf8.ofString challenge), 0, 1⟩ :: rest) 0 0) =
      (clientTrace effort challenge result ++
          ((receive readCapacity).play (openStream rest 2 effort)).1,
        ((receive readCapacity).play (openStream rest 2 effort)).2.map fun ended =>
          (Client.conclude ended.1, ended.2)) := by
  have sends : (send (Utf8.ofString ping)).play
      (openStream (⟨.data (Utf8.ofString challenge), 0, 1⟩ :: rest) 0 0) = _ :=
    play_send_free_cons rfl (by simp [ofString_ping])
  have ready : (openStream (⟨.data (Utf8.ofString challenge), 0, 1⟩ :: rest) 1 0).ready? = some 0 :=
    rfl
  have taken : (openStream (⟨.data (Utf8.ofString challenge), 0, 1⟩ :: rest) 1 0).take readCapacity =
      (.ok (Utf8.ofString challenge), openStream rest 1 0) := if_pos fits
  have reads := play_receive ready readCapacity
  rw [show Stream.advance _ 0 = openStream (⟨.data (Utf8.ofString challenge), 0, 1⟩ :: rest) 1 0
    from rfl, play_readNow_ok taken] at reads
  simp [Client.converse, Client.converseWith, play_bind, sends, countWrite, reads, asked,
    play_solve mined answers patient, clientTrace, pingTrace]

end Client

/-! ## The server's side -/

section Server

variable {gate : Gate} {issued : Issued} {result : String} {effort : Nat} {next : Handler}

abbrev pingStep : Step := ⟨.data (Utf8.ofString ping), 0, 0⟩

/-- A gate that has asked the client for a result. -/
def pinged (issues : gate.config.issue gate.draw gate.generate = .ok issued)
    (asks : Utf8.ofString issued.header ≠ []) (rest : List Step) :
    Asking gate (openStream (pingStep :: rest) 0 0) where
  greeted := 0
  opening := Utf8.ofString ping
  opened := openStream rest 0 0
  issued := issued
  words := _
  asked := openStream rest 1 0
  greets := rfl
  opens := rfl
  issues := issues
  tells := play_say_free rfl asks

def askingTrace (issued : Issued) : Trace :=
  [(0, .stream (.read (Utf8.ofString ping).length)), (0, .log (greeting (Utf8.ofString ping))),
    (0, .issue), (0, .log issued.entry),
    (0, .log (Log.debug "write message" [("message", issued.header)])), (0, .attempt issued.header),
    (0, .stream (.write (Utf8.ofString issued.header))), (0, .stream .flush)]

/-- All that a gate does more when it hears nothing by its deadline. -/
def lateTrace (config : GateConfig) : Trace :=
  [(0, .lend), (config.patience, .expire), (config.patience, .giveBack),
    (config.patience, .log (Log.warn "PoW deadline exceeded"
      [("wait_ms", toString config.waitMillis.toNat)])),
    (config.patience, .log (Log.debug "write message" [("message", contextDoneNotice)])),
    (config.patience, .attempt contextDoneNotice),
    (config.patience, .stream (.write (Utf8.ofString contextDoneNotice))),
    (config.patience, .stream .flush),
    (config.patience, .log (Log.debug "close TCP connection" [])),
    (config.patience, .stream .close)]

/-- All that a gate does more on a good result, up to the moment when it hands the stream over. -/
def answeredTrace (effort : Nat) (challenge result : String) : Trace :=
  [(0, .lend), (effort, .stream (.read (Utf8.ofString result).length)),
    (effort, .log (Log.debug "header to verify" [("header", result)])),
    (effort, .judge result challenge), (effort, .giveBack),
    (effort, .log (Log.info "PoW verification passed" [])), (effort, .handOver)]

theorem later_never (moment : Nat) : Later moment .never := by
  intro stop given
  cases given

theorem play_handle_unheard (gate : Gate) (next : Handler) :
    (gate.handle next .never).play (openStream [] 0 0) = ([], none) :=
  (Course.stalled rfl rfl rfl).play_eq next

theorem play_handle_unanswered (issues : gate.config.issue gate.draw gate.generate = .ok issued)
    (asks : Utf8.ofString issued.header ≠ []) (next : Handler) :
    (gate.handle next .never).play (openStream [pingStep] 0 0) =
      (askingTrace issued ++ lateTrace gate.config,
        some (.timedOut, openStream [] 2 gate.config.patience)) := by
  have awaits : Awaits gate issued.header .never (openStream [] 1 0) _ :=
    .expired nofun (by simp [NotAfter, Signal.moment?])
  have course := (pinged issues asks []).course (later_never _) awaits
  rw [course.play_eq]
  simp [Asking.trace, pinged, askingTrace, lateTrace, play_giveUp_free, Stream.advance]

theorem play_handle_answered (issues : gate.config.issue gate.draw gate.generate = .ok issued)
    (asks : Utf8.ofString issued.header ≠ []) (answers : Utf8.ofString result ≠ [])
    (fits : (Utf8.ofString result).length ≤ readCapacity)
    (valid : gate.verify result issued.header = .judged .valid)
    (inTime : effort < gate.config.patience) (next : Handler) :
    (gate.handle next .never).play
        (openStream [pingStep, ⟨.data (Utf8.ofString result), effort, 1⟩] 0 0) =
      (askingTrace issued ++ answeredTrace effort issued.header result ++
          ((next .never).play (openStream [] 1 effort)).1,
        ((next .never).play (openStream [] 1 effort)).2.map fun ended => (.passed, ended.2)) := by
  have ready : (openStream [⟨.data (Utf8.ofString result), effort, 1⟩] 1 0).ready? =
      some effort := by simp [Stream.ready?]
  have beforeCutoff : effort < cutoff (pinged issues asks
      [⟨.data (Utf8.ofString result), effort, 1⟩]).deadline .never := by
    simpa [cutoff, Asking.deadline, pinged, Signal.moment?] using inTime
  have taken : ((openStream [⟨.data (Utf8.ofString result), effort, 1⟩] 1 0).advance effort).take
      readCapacity = (.ok (Utf8.ofString result), openStream [] 1 effort) := by
    simp [Stream.take, Stream.advance, fits]
  have submits : Submits gate.verify issued.header
      ((openStream [⟨.data (Utf8.ofString result), effort, 1⟩] 1 0).advance effort) _ _ _ :=
    .judged taken answers (Utf8.toStringLossy_ofString result).symm
  have course := Asking.course_answered (later_never _) beforeCutoff ready submits
  rw [course.play_eq]
  simp [Asking.answered, Asking.trace, pinged, askingTrace, answeredTrace, valid, submission,
    Judgement.isValid, concluded, judging, Judgement.entries, Stream.advance]

end Server

/-! ## The service -/

section Service

variable {s : Stream}

/-- All that the quote service does. -/
def tellingTrace (moment : Nat) (message : String) (entries : List Log.Entry) : Trace :=
  entries.map (fun entry => (moment, .log entry)) ++
    [(moment, .log (Log.info "write message" [("message", message)])), (moment, .attempt message)] ++
      sentence moment (Utf8.ofString message) ++
        [(moment, .log (Log.debug "close TCP connection" [])), (moment, .stream .close)]

theorem play_handler_free (free : s.outlet = .free) (service : QuoteService) (draw : Nat) :
    (service.handler draw .never).play s =
      (tellingTrace s.now (service.message draw false).1 (service.message draw false).2,
        some ((), afterSentence (Utf8.ofString (service.message draw false).1) s)) := by
  have stillFree (octets : List UInt8) : (afterSentence octets s).outlet = .free := by
    unfold afterSentence
    split <;> exact free
  have sameTime (octets : List UInt8) : (afterSentence octets s).now = s.now := by
    unfold afterSentence
    split <;> rfl
  simp [QuoteService.handler, play_bind, Signal.precedes, play_send_free free, stillFree, sameTime,
    Outlet.free, failWith, tellingTrace]

end Service

/-! ## What the two sides hear -/

section Scripts

variable {issued : Issued} {result message : String} {effort : Nat} {entries : List Log.Entry}

theorem writesHeard_ping (more : List (List UInt8)) :
    writesHeard (Utf8.ofString ping).length (Utf8.ofString ping :: more) = 1 :=
  writesHeard_length (by simp [ofString_ping]) more

/-- What the gate hears of a client that it has asked. -/
theorem script_clientTrace (asks : Utf8.ofString issued.header ≠ []) (moment length : Nat)
    (more : List (List UInt8)) :
    Trace.script (Utf8.ofString issued.header :: more) 0
        (clientTrace effort issued.header result ++ [(moment, .stream (.read length))]) =
      [pingStep, ⟨.data (Utf8.ofString result), effort, 1⟩] := by
  simp [clientTrace, pingTrace, Trace.script, writesHeard_length asks]

theorem writes_clientTrace (moment length : Nat) :
    Trace.writes (clientTrace effort issued.header result ++ [(moment, .stream (.read length))]) =
      [Utf8.ofString ping, Utf8.ofString result] := by
  simp [clientTrace, pingTrace, Trace.writes]

theorem script_askingTrace (more : List (List UInt8)) (rest : Trace) :
    Trace.script (Utf8.ofString ping :: more) 0 (askingTrace issued ++ rest) =
      ⟨.data (Utf8.ofString issued.header), 0, 1⟩ ::
        Trace.script (Utf8.ofString ping :: more) (Utf8.ofString ping).length rest := by
  simp [askingTrace, Trace.script, writesHeard_ping]

theorem writes_askingTrace (rest : Trace) :
    Trace.writes (askingTrace issued ++ rest) =
      Utf8.ofString issued.header :: Trace.writes rest := by
  simp [askingTrace, Trace.writes]

/-- The steps in which the notice arrives, and the end after it. -/
def lateScript (config : GateConfig) : List Step :=
  [⟨.data (Utf8.ofString contextDoneNotice), config.patience, 1⟩, ⟨.ending, config.patience, 1⟩]

theorem script_lateTrace (config : GateConfig) (more : List (List UInt8)) :
    Trace.script (Utf8.ofString ping :: more) (Utf8.ofString ping).length (lateTrace config) =
      lateScript config := by
  simp [lateTrace, lateScript, Trace.script, writesHeard_ping]

/-- The steps in which the message arrives, and the end after it. -/
def tellingScript (effort : Nat) (octets : List UInt8) : List Step :=
  (if octets = [] then [] else [⟨.data octets, effort, 2⟩]) ++ [⟨.ending, effort, 2⟩]

theorem script_tellingTrace (answers : Utf8.ofString result ≠ []) :
    Trace.script [Utf8.ofString ping, Utf8.ofString result] (Utf8.ofString ping).length
        (answeredTrace effort issued.header result ++ tellingTrace effort message entries) =
      tellingScript effort (Utf8.ofString message) := by
  have heard : writesHeard ((Utf8.ofString ping).length + (Utf8.ofString result).length)
      [Utf8.ofString ping, Utf8.ofString result] = 2 := by
    rw [writesHeard_append (by simp [ofString_ping]), writesHeard_length answers]
  have quiet (heard : Nat) (writes : List (List UInt8)) (list : List Log.Entry) (rest : Trace) :
      Trace.script writes heard (list.map (fun entry => (effort, .log entry)) ++ rest) =
        Trace.script writes heard rest := by
    induction list with
    | nil => rfl
    | cons entry list ih => exact ih
  by_cases empty : Utf8.ofString message = []
  · simp [answeredTrace, tellingTrace, tellingScript, sentence, empty, Trace.script, heard, quiet]
  · simp [answeredTrace, tellingTrace, tellingScript, sentence, empty, Trace.script, heard, quiet]

theorem exists_take_tellingScript (effort : Nat) (octets : List UInt8) :
    ∃ left, (openStream (tellingScript effort octets) 2 effort).take readCapacity =
      (.ok (octets.take readCapacity), left) := by
  by_cases empty : octets = []
  · subst empty
    exact ⟨_, rfl⟩
  · rw [tellingScript, if_neg empty]
    by_cases fits : octets.length ≤ readCapacity
    · rw [List.take_of_length_le fits]
      exact ⟨_, if_pos fits⟩
    · exact ⟨_, if_neg fits⟩

/-- The client reads as much of the message as one read takes. -/
theorem play_receive_tellingScript (effort : Nat) (octets : List UInt8) :
    ∃ left, (receive readCapacity).play (openStream (tellingScript effort octets) 2 effort) =
      ([(effort, .stream (.read (octets.take readCapacity).length))],
        some (.ok (octets.take readCapacity), left)) := by
  have ready : (openStream (tellingScript effort octets) 2 effort).ready? = some effort := by
    by_cases empty : octets = [] <;> simp [tellingScript, empty, Stream.ready?]
  have same : (openStream (tellingScript effort octets) 2 effort).advance effort =
      openStream (tellingScript effort octets) 2 effort := by simp [Stream.advance]
  obtain ⟨left, taken⟩ := exists_take_tellingScript effort octets
  exact ⟨left, by rw [play_receive ready, same, play_readNow_ok taken]⟩

theorem late_tellingScript (effort : Nat) (octets : List UInt8) :
    Late effort (openStream (tellingScript effort octets) 1 0) := by
  intro ready isReady
  by_cases empty : octets = [] <;> simp [tellingScript, empty, Stream.ready?] at isReady

end Scripts

end Hashgate
