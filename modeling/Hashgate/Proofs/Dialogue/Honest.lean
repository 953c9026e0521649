import Hashgate.Proofs.Challenge
import Hashgate.Proofs.Dialogue.Sides
import Hashgate.Proofs.Mining
import Hashgate.Proofs.Quote.Service

/-! # The honest client is answered

A client that takes what it is asked, mines it in time and sends what it found gets past the gate, and
hears what the service has to tell.  The dialogue takes three rounds to find: the client pings, then it
mines the challenge, and then it is answered.  From there on nothing changes.

* `Meeting` — what the two sides need of one another.
* `Meeting.dialogue_eq` — what they do then.
* `exists_meeting` — all that is needed is a challenge that can be solved, and a quick client.
* `dialogue_answers` — the answer.
-/

namespace Hashgate

open Session Gate

/-! ## The meeting -/

/-- What a gate and an honest client need of one another: the challenge and the result fit into a read
each, and the client mines the result in time, and the gate finds it good. -/
structure Meeting (gate : Gate) (mine : String → Mining) (issued : Issued) (result : String)
    (effort : Nat) : Prop where
  issues : gate.config.issue gate.draw gate.generate = .ok issued
  asks : Utf8.ofString issued.header ≠ []
  asking_fits : (Utf8.ofString issued.header).length ≤ readCapacity
  mines : mine issued.header = .found result
  answers : Utf8.ofString result ≠ []
  answer_fits : (Utf8.ofString result).length ≤ readCapacity
  valid : gate.verify result issued.header = .judged .valid
  inTime : effort < gate.config.patience

namespace Meeting

variable {gate : Gate} {mine : String → Mining} {issued : Issued} {result : String} {effort : Nat}
  {service : QuoteService} {draw : Nat}

/-! ### What both sides do in the end -/

theorem playScript_of_play {α : Type} {x : Session α} {script : List Step} {trace : Trace}
    {ended : Option (α × Stream)} (played : x.play (openStream script 0 0) = (trace, ended)) :
    x.playScript script = ⟨trace, ended.map Prod.fst⟩ := by
  change (⟨(x.play (openStream script 0 0)).1, (x.play (openStream script 0 0)).2.map Prod.fst⟩ :
    Played α) = _
  rw [played]

def clientPlayed (challenge result : String) (effort : Nat) (message : List UInt8) :
    Played Client.Result where
  trace := clientTrace effort challenge result ++
    [(effort, .stream (.read (message.take readCapacity).length))]
  result := some (.ok (.answer (Utf8.toStringLossy (message.take readCapacity))))

def serverPlayed (issued : Issued) (result : String) (effort : Nat) (message : String)
    (entries : List Log.Entry) : Played Outcome where
  trace := askingTrace issued ++
    (answeredTrace effort issued.header result ++ tellingTrace effort message entries)
  result := some .passed

theorem server_answered (meets : Meeting gate mine issued result effort) :
    (gate.handle (service.handler draw) .never).playScript
        [pingStep, ⟨.data (Utf8.ofString result), effort, 1⟩] =
      serverPlayed issued result effort (service.message draw false).1
        (service.message draw false).2 := by
  have played := play_handle_answered meets.issues meets.asks meets.answers meets.answer_fits
    meets.valid meets.inTime (service.handler draw)
  rw [play_handler_free rfl] at played
  rw [playScript_of_play played, List.append_assoc]
  rfl

theorem client_answered (meets : Meeting gate mine issued result effort) (message : String) :
    (Client.converse mine (some effort)).playScript
        (⟨.data (Utf8.ofString issued.header), 0, 1⟩ ::
          tellingScript effort (Utf8.ofString message)) =
      clientPlayed issued.header result effort (Utf8.ofString message) := by
  obtain ⟨left, hears⟩ := play_receive_tellingScript effort (Utf8.ofString message)
  have played := play_converse meets.mines meets.asks meets.asking_fits meets.answers
    (late_tellingScript effort (Utf8.ofString message))
  rw [hears] at played
  exact playScript_of_play played

/-- Once the client has mined the challenge, both sides do what they do in the end. -/
theorem settled (meets : Meeting gate mine issued result effort) :
    Settled (gate.handle (service.handler draw) .never) (Client.converse mine (some effort))
      (serverPlayed issued result effort (service.message draw false).1
          (service.message draw false).2,
        clientPlayed issued.header result effort (Utf8.ofString (service.message draw false).1)) := by
  constructor
  · simp only [serverPlayed, clientPlayed, writes_askingTrace, script_clientTrace meets.asks]
    exact meets.server_answered.symm
  · simp only [serverPlayed, clientPlayed, writes_clientTrace, script_askingTrace,
      script_tellingTrace meets.answers]
    exact (meets.client_answered _).symm

/-! ### How they get there -/

theorem round_unheard (gate : Gate) (next : Handler) (mine : String → Mining)
    (effort : Option Nat) :
    round (gate.handle next .never) (Client.converse mine effort) (⟨[], none⟩, ⟨[], none⟩) =
      (⟨[], none⟩, ⟨pingTrace, none⟩) := by
  have server := playScript_of_play (play_handle_unheard gate next)
  have client := playScript_of_play (play_converse_unheard mine effort)
  simp only [round, Trace.script, server, client, Option.map_none]

/-- In the second round the server has not heard of a result, so what it answers is its notice. -/
theorem client_unanswered (meets : Meeting gate mine issued result effort) :
    ∃ length ended, (Client.converse mine (some effort)).playScript
        (⟨.data (Utf8.ofString issued.header), 0, 1⟩ :: lateScript gate.config) =
      ⟨clientTrace effort issued.header result ++
        [(gate.config.patience, .stream (.read length))], ended⟩ := by
  have inTime := meets.inTime
  have now : max effort gate.config.patience = gate.config.patience := by omega
  have patient : Late effort (openStream (lateScript gate.config) 1 0) := by
    intro ready isReady
    simp only [lateScript, Stream.ready?, Nat.le_refl, if_true, Option.some.injEq] at isReady
    omega
  have ready : (openStream (lateScript gate.config) 2 effort).ready? = some gate.config.patience := by
    simp [lateScript, Stream.ready?, now]
  have taken : ((openStream (lateScript gate.config) 2 effort).advance gate.config.patience).take
      readCapacity = (.ok (Utf8.ofString contextDoneNotice), _) := rfl
  have played := play_converse meets.mines meets.asks meets.asking_fits meets.answers patient
  rw [play_receive ready, play_readNow_ok taken, Stream.advance_now, now] at played
  exact ⟨_, _, playScript_of_play played⟩

/-- It takes three rounds to find what the two sides do: in the first the client pings, in the second it
mines, and in the third it is answered. -/
theorem rounds (meets : Meeting gate mine issued result effort) :
    (round (gate.handle (service.handler draw) .never) (Client.converse mine (some effort)))^[3]
        (⟨[], none⟩, ⟨[], none⟩) =
      (serverPlayed issued result effort (service.message draw false).1
          (service.message draw false).2,
        clientPlayed issued.header result effort
          (Utf8.ofString (service.message draw false).1)) := by
  have server := playScript_of_play
    (play_handle_unanswered meets.issues meets.asks (service.handler draw))
  obtain ⟨length, ended, client⟩ := meets.client_unanswered
  have pings : Trace.script [] 0 pingTrace = [pingStep] := rfl
  have pinged : Trace.writes pingTrace = [Utf8.ofString ping] := rfl
  have second : round (gate.handle (service.handler draw) .never)
      (Client.converse mine (some effort)) (⟨[], none⟩, ⟨pingTrace, none⟩) =
      (⟨askingTrace issued ++ lateTrace gate.config, some .timedOut⟩,
        ⟨clientTrace effort issued.header result ++
          [(gate.config.patience, .stream (.read length))], ended⟩) := by
    have heard : Trace.writes [] = [] := rfl
    simp only [round, heard, pings, server, pinged, script_askingTrace, script_lateTrace, client,
      Option.map_some]
  rw [Function.iterate_succ_apply, Function.iterate_succ_apply, Function.iterate_succ_apply,
    Function.iterate_zero, id, round_unheard, second]
  simp only [round, writes_askingTrace, script_clientTrace meets.asks, writes_clientTrace,
    meets.server_answered]
  rw [serverPlayed]
  simp only [script_askingTrace, script_tellingTrace meets.answers, meets.client_answered]

theorem dialogue_eq (meets : Meeting gate mine issued result effort) :
    dialogue (gate.handle (service.handler draw) .never) (Client.converse mine (some effort)) =
      (serverPlayed issued result effort (service.message draw false).1
          (service.message draw false).2,
        clientPlayed issued.header result effort
          (Utf8.ofString (service.message draw false).1)) :=
  dialogue_eq_of_settled meets.settled (by decide) meets.rounds

end Meeting

/-! ## Minted challenges -/

/-- A gate that mints its challenges and goes by the digest. -/
def mintingGate (config : GateConfig) (mint : Mint) (draw : Draw) : Gate :=
  ⟨config, mint.generator, .standard, draw⟩

/-- The header that a gate mints. -/
def GateConfig.minted (config : GateConfig) (mint : Mint) (draw : Draw) : Header :=
  mint.header (config.chooseBits draw.bits) draw.token.text

/-- Every challenge that can be solved at all is solved in time by a client that is quick enough. -/
theorem exists_meeting {config : GateConfig} {mint : Mint} {draw : Draw} {effort : Nat}
    (accepted : config.validate = .ok ())
    (satisfiable : (config.chooseBits draw.bits).toNat ≤ digestBits)
    (solvable : ∃ k : Int64, ({ config.minted mint draw with counter := k } : Header).isSolved = true)
    (inTime : effort < config.patience) :
    ∃ issued result, Meeting (mintingGate config mint draw) mine issued result effort := by
  -- The text of the challenge is read back as the header, so that is what the client mines and the
  -- gate compares.
  have wellFormed : (config.minted mint draw).WellFormed :=
    mint.wellFormed_header _ draw.token.colon_not_mem_text
  have read := Header.parse_render_of_wellFormed wellFormed
  obtain ⟨answer, searches⟩ := Header.exists_searches_iff.mpr solvable
  obtain ⟨turns, rfl, first⟩ := Header.searches_iff.mp searches
  have mined : mine (config.minted mint draw).render =
      .found ((config.minted mint draw).after turns).render := by
    rw [mine, read]
    exact (Header.mine_eq_found_iff satisfiable).mpr ⟨_, searches, rfl⟩
  have readAnswer := Header.parse_render_of_wellFormed (wellFormed.after turns)
  exact ⟨⟨(config.minted mint draw).render, config.chooseBits draw.bits, draw.token.text⟩, _, {
    issues := GateConfig.issue_eq_ok_iff.mpr
      ⟨accepted, _, congrArg Except.ok (mint.text_eq _ _), rfl⟩
    asks := Header.ofString_render_ne_nil _
    asking_fits := mint.length_octets_le _ draw.token mint.counter
    mines := mined
    answers := Header.ofString_render_ne_nil _
    answer_fits := mint.length_octets_le _ draw.token _
    valid := Verifier.standard_eq_valid_iff.mpr ⟨_, _, readAnswer, read, rfl, first.solved⟩
    inTime := inTime }⟩

/-- What the service tells of a store. -/
theorem QuoteService.message_eq {store : Store} {service : QuoteService}
    (learnt : ofSource store.source = .ok service) (draw : Nat) :
    (service.message draw false).1 =
      match store.quotes[draw % store.size]? with
      | some q => q.render
      | none => noQuoteNotice := by
  simp only [message, Bool.false_eq_true, if_false, quote_eq learnt]
  cases store.quotes[draw % store.size]? <;> rfl

/-- A text that one read takes is heard as it was said. -/
theorem heard_of_short {text : String} (short : (Utf8.ofString text).length ≤ readCapacity) :
    Utf8.toStringLossy ((Utf8.ofString text).take readCapacity) = text := by
  rw [List.take_of_length_le short, Utf8.toStringLossy_ofString]

/-- **The honest client is answered.**  If its challenge can be solved, and the client mines it before
the deadline, the client passes the gate and hears the quote that is drawn, or as much of it as one read
takes; and it hears of an empty store.  Each side is what it does against the other, so this is what the
two of them do. -/
theorem dialogue_answers {store : Store} {service : QuoteService} {config : GateConfig} {mint : Mint}
    {draw : Draw} {quoteDraw effort : Nat}
    (learnt : QuoteService.ofSource store.source = .ok service) (accepted : config.validate = .ok ())
    (satisfiable : (config.chooseBits draw.bits).toNat ≤ 256)
    (solvable : ∃ k : Int64, ({ config.minted mint draw with counter := k } : Header).isSolved = true)
    (inTime : effort < config.patience) :
    let server := (mintingGate config mint draw).handle (service.handler quoteDraw) .never
    let client := Client.converse mine (some effort)
    Settled server client (dialogue server client) ∧
      (dialogue server client).1.result = some .passed ∧
      ∃ text, (dialogue server client).2.result = some (.ok (.answer text)) ∧
        (store.quotes = [] → text = "cannot get a quote") ∧
        (store.quotes ≠ [] → ∃ q, store.quotes[quoteDraw % store.quotes.length]? = some q ∧
          text = Utf8.toStringLossy ((Utf8.ofString q.render).take 1024) ∧
          ((Utf8.ofString q.render).length ≤ 1024 → text = q.render)) := by
  intro server client
  obtain ⟨issued, result, meets⟩ := exists_meeting accepted satisfiable solvable inTime
  have talk : dialogue server client = _ := meets.dialogue_eq
  have told := QuoteService.message_eq learnt quoteDraw
  rw [talk]
  refine ⟨meets.settled, rfl, _, rfl, fun empty => ?_, fun filled => ?_⟩
  · rw [told, empty, List.getElem?_nil]
    exact heard_of_short (by decide)
  · have within : quoteDraw % store.quotes.length < store.quotes.length :=
      Nat.mod_lt _ (List.length_pos_iff.mpr filled)
    have drawn := List.getElem?_eq_getElem within
    rw [told, Store.size, drawn]
    exact ⟨_, rfl, rfl, heard_of_short⟩

/-- A mint at noon of a leap day, without any chance. -/
def plainMint : Mint :=
  ⟨⟨2024, 2, 29, 12, 0, by decide, by decide, by decide, by decide⟩, Vector.replicate 10 0, 0⟩

def shortStore : Store := ⟨[⟨"q", "Be.", some "Leo Tolstoy"⟩], List.pairwise_singleton _ _⟩

/-- The honest client gets its quote for ten bits and half a minute of work. -/
theorem dialogue_answers_short :
    ∃ service, QuoteService.ofSource shortStore.source = .ok service ∧
      (dialogue ((mintingGate .standard plainMint ⟨0, Vector.replicate 16 0⟩).handle
          (service.handler 5) .never)
        (Client.converse mine (some 30000))).1.result = some .passed ∧
      (dialogue ((mintingGate .standard plainMint ⟨0, Vector.replicate 16 0⟩).handle
          (service.handler 5) .never)
        (Client.converse mine (some 30000))).2.result =
          some (.ok (.answer "Be. (Leo Tolstoy)")) := by
  have solvable : ∃ k : Int64, ({ GateConfig.standard.minted plainMint ⟨0, Vector.replicate 16 0⟩ with
      counter := k } : Header).isSolved = true := ⟨249, by decide +kernel⟩
  have learnt : QuoteService.ofSource shortStore.source = .ok ⟨shortStore.source, ["q"]⟩ := rfl
  have inTime : 30000 < GateConfig.standard.patience := by decide
  obtain ⟨-, passed, text, answered, -, quotes⟩ :=
    @dialogue_answers _ _ _ _ _ 5 _ learnt rfl (by decide) solvable inTime
  obtain ⟨q, drawn, -, whole⟩ := quotes nofun
  cases drawn
  rw [whole (by decide)] at answered
  exact ⟨_, learnt, passed, answered⟩

end Hashgate
