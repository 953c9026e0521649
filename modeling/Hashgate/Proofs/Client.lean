import Hashgate.Client
import Hashgate.Proofs.Mining
import Hashgate.Proofs.Session.Usage
import Hashgate.Proofs.Text.Lossy

/-! # Why a session of the client ends

A session of the client has nine ways to end, and which one it takes is decided by at most two messages
that it writes, two reads, and the race between the miner and the second read.  The reply names the way,
so nobody needs the trace to find out what went wrong.  A result is presented only if it was mined for
the challenge at hand, and so the server will find it good.

* `Asked`, `Mined` — how far a session has come.
* `Cause` — the ways to end.
* `Cause.gives`, `converse_ends` — a session ends in these ways, and in no others.
* `reply_names_cause` — what the reply and the trace of a session tell of it.
-/

namespace Hashgate

namespace Client

open Session

variable {favourite racer : Racer} {effort : Option Nat} {s heard solved left : Stream}
  {moment : Nat} {challenge result : String} {trace : Trace} {reply : Result} {e : GateError}

/-! ## Replies -/

/-- The error of the stream that a reply is about. -/
def faults : Result → List IoError
  | .error (.ping e) => [e]
  | .error (.readChallenge e) => [e]
  | .error (.readDuringCalculation e) => [e]
  | .error (.sendResult e) => [e]
  | .error (.readAnswer e) => [e]
  | _ => []

/-- A reply that comes of presenting a result. -/
def Presents : Result → Prop
  | .error (.sendResult _) => True
  | .error (.readAnswer _) => True
  | .ok (.answer _) => True
  | _ => False

/-! ## How far a session comes -/

/-- The ping has been written, and the first read has found a challenge. -/
def Asked (s : Stream) (challenge : String) (heard : Stream) : Prop :=
  ∃ pinged octets, Gives (send (Utf8.ofString ping)) s (.ok ()) pinged ∧
    Gives (receive readCapacity) pinged (.ok octets) heard ∧ octets ≠ [] ∧
    challenge = Utf8.toStringLossy octets

/-- One of the two is done first, at some moment. -/
def Ahead (favourite : Racer) (effort : Option Nat) (s : Stream) (racer : Racer) (moment : Nat) :
    Prop :=
  Wins (race favourite s.ready? (effort.map (s.now + ·))) moment racer

/-- The miner was first, with a result. -/
def Mined (favourite : Racer) (effort : Option Nat) (s : Stream) (challenge result : String)
    (solved : Stream) : Prop :=
  ∃ heard moment, Asked s challenge heard ∧ Ahead favourite effort heard .miner moment ∧
    mine challenge = .found result ∧ solved = heard.advance moment

/-- The ways in which a session ends, each with its reply. -/
inductive Cause (favourite : Racer) (effort : Option Nat) (s : Stream) : Result → Prop
  | ping {e : IoError} {left : Stream} :
      Gives (send (Utf8.ofString ping)) s (.error e) left →
      Cause favourite effort s (.error (.ping e))
  | readChallenge {e : IoError} {pinged left : Stream} :
      Gives (send (Utf8.ofString ping)) s (.ok ()) pinged →
      Gives (receive readCapacity) pinged (.error e) left →
      Cause favourite effort s (.error (.readChallenge e))
  | noChallenge {pinged left : Stream} :
      Gives (send (Utf8.ofString ping)) s (.ok ()) pinged →
      Gives (receive readCapacity) pinged (.ok []) left →
      Cause favourite effort s (.error .noChallenge)
  | calculate {e : GateError} {challenge : String} {heard : Stream} {moment : Nat} :
      Asked s challenge heard → Ahead favourite effort heard .miner moment →
      mine challenge = .refused e → Cause favourite effort s (.error (.calculate e))
  | readDuringCalculation {e : IoError} {challenge : String} {heard left : Stream} {moment : Nat} :
      Asked s challenge heard → Ahead favourite effort heard .reader moment →
      Gives (receive readCapacity) heard (.error e) left →
      Cause favourite effort s (.error (.readDuringCalculation e))
  | interrupted {octets : List UInt8} {challenge : String} {heard left : Stream} {moment : Nat} :
      Asked s challenge heard → Ahead favourite effort heard .reader moment →
      Gives (receive readCapacity) heard (.ok octets) left →
      Cause favourite effort s (.ok (.interrupted (Utf8.toStringLossy octets)))
  | sendResult {e : IoError} {challenge result : String} {solved left : Stream} :
      Mined favourite effort s challenge result solved →
      Gives (send (Utf8.ofString result)) solved (.error e) left →
      Cause favourite effort s (.error (.sendResult e))
  | readAnswer {e : IoError} {challenge result : String} {solved told left : Stream} :
      Mined favourite effort s challenge result solved →
      Gives (send (Utf8.ofString result)) solved (.ok ()) told →
      Gives (receive readCapacity) told (.error e) left →
      Cause favourite effort s (.error (.readAnswer e))
  | answer {octets : List UInt8} {challenge result : String} {solved told left : Stream} :
      Mined favourite effort s challenge result solved →
      Gives (send (Utf8.ofString result)) solved (.ok ()) told →
      Gives (receive readCapacity) told (.ok octets) left →
      Cause favourite effort s (.ok (.answer (Utf8.toStringLossy octets)))

/-! ## The race -/

/-- Of two at once either one may be first. -/
theorem wins_race_of_tie (favourite : Racer) (moment : Nat) :
    Wins (race favourite (some moment) (some moment)) moment favourite := by
  cases favourite <;> exact .here (by simp [NotAfter])

/-- A reader that is first waits for nothing more. -/
theorem Ahead.play_receive (ahead : Ahead favourite effort s .reader moment) (capacity : Nat) :
    (receive capacity).play (s.advance moment) = (receive capacity).play s := by
  have ready : s.ready? = some moment := by
    have member := Wins.mem ahead
    cases favourite <;> simpa [race, eq_comm] using member
  rw [play_receive_advance ready, Session.play_receive ready]

theorem Ahead.gives_receive {found : Except IoError (List UInt8)}
    (ahead : Ahead favourite effort s .reader moment) :
    Gives (receive readCapacity) (s.advance moment) found left ↔
      Gives (receive readCapacity) s found left := by
  rw [Gives, ahead.play_receive, Gives]

/-- What a session does once the race is over. -/
def settle (challenge : String) (start : Nat) : Racer → Session Result
  | .reader => hearOut
  | .miner =>
    match mine challenge with
    | .refused e => return .error (.calculate e)
    | .endless => stall
    | .found result => do
      log (Log.info "PoW result calculated"
        [("result", result), ("elapsed_ms", toString ((← now) - start))])
      present result

theorem play_settle_of_found (found : mine challenge = .found result) (start : Nat) (s : Stream) :
    (settle challenge start .miner).play s =
      ((s.now, .log (Log.info "PoW result calculated"
          [("result", result), ("elapsed_ms", toString (s.now - start))])) ::
          ((present result).play s).1,
        ((present result).play s).2) := by
  simp [settle, found, play_bind]

theorem Ahead.play_solve (ahead : Ahead favourite effort s racer moment) :
    (solve favourite mine effort challenge).play s =
      ((s.now, .mine challenge) :: ((settle challenge s.now racer).play (s.advance moment)).1,
        ((settle challenge s.now racer).play (s.advance moment)).2) := by
  have waits := play_awaitFirst_of_wins ahead s
  cases racer with
  | reader => simp [solve, play_bind, waits, settle]
  | miner =>
    cases mined : mine challenge <;> simp [solve, play_bind, waits, settle, mined]

/-- A session ends only if somebody is first. -/
theorem exists_ahead (played : (solve favourite mine effort challenge).play s =
      (trace, some (reply, left))) :
    ∃ racer moment settling, Ahead favourite effort s racer moment ∧
      (settle challenge s.now racer).play (s.advance moment) = (settling, some (reply, left)) ∧
      trace = (s.now, .mine challenge) :: settling := by
  cases first : earliest (race favourite s.ready? (effort.map (s.now + ·))) with
  | none =>
    have never := play_awaitFirst_of_none (earliest_eq_none_iff.mp first) s
    simp [solve, play_bind, never] at played
  | some winner =>
    obtain ⟨moment, racer⟩ := winner
    have ahead : Ahead favourite effort s racer moment := earliest_eq_some_iff.mp first
    rw [ahead.play_solve] at played
    obtain ⟨rfl, settles⟩ := Prod.mk.inj played
    exact ⟨racer, moment, _, ahead, Prod.ext rfl settles, rfl⟩

/-! ## From the causes to the ends -/

theorem Asked.gives (asked : Asked s challenge heard)
    (solves : Gives (solve favourite mine effort challenge) heard reply left) :
    Gives (converseWith favourite mine effort) s reply left := by
  obtain ⟨pinged, octets, sends, reads, nonempty, rfl⟩ := asked
  refine .bind ⟨_, play_log _ s⟩ (.bind sends (.bind reads ?_))
  simp only [List.isEmpty_eq_false_iff.mpr nonempty, Bool.false_eq_true, if_false]
  exact .bind ⟨_, play_log _ heard⟩ solves

theorem Ahead.gives (ahead : Ahead favourite effort s racer moment)
    (settles : Gives (settle challenge s.now racer) (s.advance moment) reply left) :
    Gives (solve favourite mine effort challenge) s reply left := by
  obtain ⟨trace, played⟩ := settles
  exact ⟨_, by rw [ahead.play_solve, played]⟩

theorem Mined.gives (mined : Mined favourite effort s challenge result solved)
    (presents : Gives (present result) solved reply left) :
    Gives (converseWith favourite mine effort) s reply left := by
  obtain ⟨heard, moment, asked, ahead, found, rfl⟩ := mined
  apply asked.gives (ahead.gives _)
  simp only [settle, found]
  exact .bind ⟨_, play_now _⟩ (.bind ⟨_, play_log _ _⟩ presents)

/-- A session for whose end there is a cause comes to that end. -/
theorem Cause.gives (cause : Cause favourite effort s reply) :
    ∃ left, Gives (converseWith favourite mine effort) s reply left := by
  cases cause with
  | ping sends => exact ⟨_, .bind ⟨_, play_log _ s⟩ (.bind sends ⟨_, rfl⟩)⟩
  | readChallenge sends reads =>
    exact ⟨_, .bind ⟨_, play_log _ s⟩ (.bind sends (.bind reads ⟨_, rfl⟩))⟩
  | noChallenge sends reads =>
    exact ⟨_, .bind ⟨_, play_log _ s⟩ (.bind sends (.bind reads ⟨_, rfl⟩))⟩
  | @calculate e challenge heard moment asked ahead refused =>
    have refuses : Gives (settle challenge heard.now .miner) (heard.advance moment)
        (.error (.calculate e)) (heard.advance moment) := by
      simp only [settle, refused]
      exact ⟨_, play_pure _ _⟩
    exact ⟨_, asked.gives (ahead.gives refuses)⟩
  | readDuringCalculation asked ahead reads =>
    exact ⟨_, asked.gives (ahead.gives (.bind (ahead.gives_receive.mpr reads) ⟨_, rfl⟩))⟩
  | interrupted asked ahead reads =>
    exact ⟨_, asked.gives (ahead.gives (.bind (ahead.gives_receive.mpr reads) ⟨_, rfl⟩))⟩
  | sendResult mined sends => exact ⟨_, mined.gives (.bind sends ⟨_, rfl⟩)⟩
  | readAnswer mined sends reads => exact ⟨_, mined.gives (.bind sends (.bind reads ⟨_, rfl⟩))⟩
  | answer mined sends reads => exact ⟨_, mined.gives (.bind sends (.bind reads ⟨_, rfl⟩))⟩

/-! ## From the ends to the causes -/

/-- What a session writes after the ping: a result that it has mined, or nothing. -/
def Sends (favourite : Racer) (effort : Option Nat) (s : Stream) (trace : Trace) (reply : Result) :
    Prop :=
  Silent trace ∧ ¬ Presents reply ∨
    ∃ challenge result solved, Mined favourite effort s challenge result solved ∧ Presents reply ∧
      judge result challenge = .ok .valid ∧ written trace <+: Utf8.ofString result

theorem Sends.after {first : Trace} (sends : Sends favourite effort s trace reply)
    (silent : Silent first) : Sends favourite effort s (first ++ trace) reply := by
  obtain ⟨others, unpresented⟩ | ⟨challenge, result, solved, mined, presented, valid, starts⟩ := sends
  · exact .inl ⟨silent_append.mpr ⟨silent, others⟩, unpresented⟩
  · refine .inr ⟨challenge, result, solved, mined, presented, valid, ?_⟩
    rwa [written_append, silent.written_eq, List.nil_append]

/-- A session that presents a result. -/
theorem Mined.ends (mined : Mined favourite effort s challenge result solved)
    (played : (present result).play solved = (trace, some (reply, left))) :
    Cause favourite effort s reply ∧ Presents reply ∧
      ∃ count ≤ 1, ∃ sent, sent <+: Utf8.ofString result ∧ Uses trace count sent (faults reply) := by
  obtain ⟨sending, sent, told, later, sends, goesOn, rfl⟩ := play_bind_eq_some_iff.mp played
  obtain ⟨taken, starts, -, uses⟩ := uses_send sends
  cases sent with
  | error e =>
    cases goesOn
    exact ⟨.sendResult mined ⟨_, sends⟩, trivial, 0, Nat.zero_le 1, taken, starts,
      by simpa [faults] using uses⟩
  | ok _ =>
    obtain ⟨reading, found, rest, later, reads, goesOn, rfl⟩ := play_bind_eq_some_iff.mp goesOn
    have both := uses.append (uses_receive reads).2
    cases found with
    | error e =>
      cases goesOn
      exact ⟨.readAnswer mined ⟨_, sends⟩ ⟨_, reads⟩, trivial, 1, Nat.le_refl 1, taken, starts,
        by simpa [faults] using both⟩
    | ok octets =>
      cases goesOn
      exact ⟨.answer mined ⟨_, sends⟩ ⟨_, reads⟩, trivial, 1, Nat.le_refl 1, taken, starts,
        by simpa [faults] using both⟩

/-- A session that hears something while it mines. -/
theorem Asked.ends_reader (asked : Asked s challenge heard)
    (ahead : Ahead favourite effort heard .reader moment)
    (played : hearOut.play (heard.advance moment) = (trace, some (reply, left))) :
    Cause favourite effort s reply ∧ ¬ Presents reply ∧ Silent trace ∧
      Uses trace 1 [] (faults reply) := by
  obtain ⟨reading, found, rest, later, reads, goesOn, rfl⟩ := play_bind_eq_some_iff.mp played
  obtain ⟨silent, uses⟩ := uses_receive reads
  have hears := ahead.gives_receive.mp ⟨_, reads⟩
  cases found with
  | error e =>
    cases goesOn
    exact ⟨.readDuringCalculation asked ahead hears, id, by simpa using silent,
      by simpa [faults] using uses⟩
  | ok octets =>
    cases goesOn
    exact ⟨.interrupted asked ahead hears, id,
      silent_append.mpr ⟨silent, silent_cons.mpr ⟨trivial, silent_nil⟩⟩,
      uses.append (uses_nil.cons rfl)⟩

/-- A session that has a challenge. -/
theorem Asked.ends (asked : Asked s challenge heard)
    (played : (solve favourite mine effort challenge).play heard = (trace, some (reply, left))) :
    Cause favourite effort s reply ∧ Sends favourite effort s trace reply ∧
      ∃ count ≤ 1, ∃ sent, Uses trace count sent (faults reply) := by
  obtain ⟨racer, moment, settling, ahead, settles, rfl⟩ := exists_ahead played
  cases racer with
  | reader =>
    obtain ⟨cause, unpresented, silent, uses⟩ := asked.ends_reader ahead settles
    exact ⟨cause, .inl ⟨by simpa [Act.IsSilent] using silent, unpresented⟩, 1, Nat.le_refl 1, [],
      uses.cons rfl⟩
  | miner =>
    cases mines : mine challenge with
    | refused e =>
      simp only [settle, mines] at settles
      cases settles
      exact ⟨.calculate asked ahead mines, .inl ⟨by simp [Act.IsSilent], id⟩, 0, Nat.zero_le 1, [],
        uses_nil.cons rfl⟩
    | endless =>
      simp only [settle, mines] at settles
      cases settles
    | found result =>
      have mined : Mined favourite effort s challenge result (heard.advance moment) :=
        ⟨heard, moment, asked, ahead, mines, rfl⟩
      rw [play_settle_of_found mines] at settles
      obtain ⟨rfl, presents⟩ := Prod.mk.inj settles
      obtain ⟨cause, presented, count, few, sent, starts, uses⟩ := mined.ends (Prod.ext rfl presents)
      refine ⟨cause, .inr ⟨challenge, result, _, mined, presented, Header.judge_of_mine mines, ?_⟩,
        count, few, sent, (uses.cons rfl).cons rfl⟩
      simpa [Act.octets, uses.written_eq] using starts

/-- The session after the ping. -/
def hear (favourite : Racer) (effort : Option Nat) : Session Result := do
  match ← receive readCapacity with
  | .error e => return .error (.readChallenge e)
  | .ok octets =>
    if octets.isEmpty then return .error .noChallenge
    else
      let challenge := Utf8.toStringLossy octets
      log (Log.info "got PoW challenge" [("challenge", challenge)])
      solve favourite mine effort challenge

/-- A session whose ping has been written. -/
theorem hear_ends {pinged : Stream} (sends : Gives (send (Utf8.ofString ping)) s (.ok ()) pinged)
    (played : (hear favourite effort).play pinged = (trace, some (reply, left))) :
    Cause favourite effort s reply ∧ Sends favourite effort s trace reply ∧
      ∃ count ≤ 2, ∃ sent, Uses trace count sent (faults reply) := by
  obtain ⟨reading, found, heard, later, reads, goesOn, rfl⟩ := play_bind_eq_some_iff.mp played
  obtain ⟨silent, uses⟩ := uses_receive reads
  cases found with
  | error e =>
    cases goesOn
    exact ⟨.readChallenge sends ⟨_, reads⟩, .inl ⟨silent_append.mpr ⟨silent, silent_nil⟩, id⟩, 1,
      by decide, [], uses.append uses_nil⟩
  | ok octets =>
    by_cases empty : octets = []
    · subst empty
      cases goesOn
      exact ⟨.noChallenge sends ⟨_, reads⟩, .inl ⟨silent_append.mpr ⟨silent, silent_nil⟩, id⟩, 1,
        by decide, [], uses.append uses_nil⟩
    · simp only [List.isEmpty_eq_false_iff.mpr empty, Bool.false_eq_true, if_false] at goesOn
      obtain ⟨solving, solves, rfl⟩ := play_log_bind_eq_some_iff.mp goesOn
      have asked : Asked s (Utf8.toStringLossy octets) heard :=
        ⟨pinged, octets, sends, ⟨_, reads⟩, empty, rfl⟩
      obtain ⟨cause, sending, count, few, sent, usesMore⟩ := asked.ends solves
      have starts : Silent (reading ++ [(heard.now, .log (Log.info "got PoW challenge"
          [("challenge", Utf8.toStringLossy octets)]))]) := by simpa [Act.IsSilent] using silent
      have later := sending.after starts
      rw [List.append_assoc] at later
      exact ⟨cause, later, 1 + count, by omega, sent, uses.append (usesMore.cons rfl)⟩

/-! ## The whole session -/

/-- What is written in a session: some of the ping, or all of it and then some of a good result that was
mined for the challenge that had been read. -/
inductive Wrote (favourite : Racer) (effort : Option Nat) (s : Stream) (trace : Trace)
    (reply : Result) : Prop
  | asking {asking rest : Trace} : trace = asking ++ rest → reads asking = 0 →
      written trace <+: Utf8.ofString ping → Silent rest → ¬ Presents reply →
      Wrote favourite effort s trace reply
  | presenting {asking rest : Trace} {challenge result : String} {solved : Stream} :
      trace = asking ++ rest → reads asking = 0 → written asking = Utf8.ofString ping →
      Mined favourite effort s challenge result solved → Presents reply →
      judge result challenge = .ok .valid →
      written trace <+: Utf8.ofString ping ++ Utf8.ofString result →
      Wrote favourite effort s trace reply

theorem converse_ends
    (played : (converseWith favourite mine effort).play s = (trace, some (reply, left))) :
    Cause favourite effort s reply ∧ Wrote favourite effort s trace reply ∧
      ∃ count ≤ 2, ∃ octets, Uses trace count octets (faults reply) := by
  obtain ⟨_, pings, rfl⟩ := play_log_bind_eq_some_iff.mp played
  obtain ⟨sending, sent, pinged, rest, sends, goesOn, rfl⟩ := play_bind_eq_some_iff.mp pings
  obtain ⟨taken, starts, complete, uses⟩ := uses_send sends
  have asks : Uses ((s.now, .log (Log.info "ping server" [])) :: sending) 0 taken (errors sent) :=
    uses.cons rfl
  cases sent with
  | error e =>
    cases goesOn
    have all := asks.append uses_nil
    have little : taken ++ [] <+: Utf8.ofString ping := by simpa using starts
    exact ⟨.ping ⟨_, sends⟩,
      .asking rfl asks.reads_eq (all.written_eq ▸ little) silent_nil id, 0, by decide, _, all⟩
  | ok _ =>
    obtain ⟨cause, presents, count, few, octets, usesMore⟩ := hear_ends ⟨_, sends⟩ goesOn
    have all := asks.append usesMore
    refine ⟨cause, ?_, 0 + count, by omega, _, all⟩
    obtain rfl : taken = Utf8.ofString ping := complete.mp rfl
    obtain ⟨silent, unpresented⟩ |
      ⟨challenge, result, solved, mined, presented, valid, begins⟩ := presents
    · have whole : written ((s.now, .log (Log.info "ping server" [])) :: sending ++ rest) =
          Utf8.ofString ping := by
        rw [written_append, asks.written_eq, silent.written_eq, List.append_nil]
      exact .asking rfl asks.reads_eq (whole ▸ List.prefix_rfl) silent unpresented
    · refine .presenting rfl asks.reads_eq asks.written_eq mined presented valid ?_
      rw [← List.cons_append, written_append, asks.written_eq]
      exact (List.prefix_append_right_inj _).mpr begins

/-- **The reply of a session names its cause, and a result is not presented unless it is good.**  If a
session ends, its reply is the one for which there is a cause.  The calls that failed are the one that
the reply is about, if it is about one, and no others.  At most two reads came to an end, and the stream
was neither pushed out nor closed.  Nothing was written but the ping, and after all of it a result that
was mined for the challenge that had been read, and that is judged to be good. -/
theorem reply_names_cause
    (played : (converseWith favourite mine effort).play s = (trace, some (reply, left))) :
    (∀ other, reply = other ↔ Cause favourite effort s other) ∧
    failures trace = faults reply ∧
    reads trace ≤ 2 ∧
    .flush ∉ events trace ∧
    .close ∉ events trace ∧
    Wrote favourite effort s trace reply := by
  obtain ⟨cause, wrote, count, few, octets, uses⟩ := converse_ends played
  refine ⟨fun other => ⟨fun same => same ▸ cause, fun otherCause => ?_⟩, uses.failures_eq,
    uses.reads_eq ▸ few, uses.flush_not_mem, uses.close_not_mem, wrote⟩
  -- The session ends only once, so there is no other cause.
  obtain ⟨_, _, plays⟩ := otherCause.gives
  cases played.symm.trans plays
  rfl

/-- A server that speaks up just when the result is there. -/
def hastyServer : Stream :=
  .ofSteps [⟨.data (Utf8.ofString easyChallenge), 0, 1⟩,
    ⟨.data (Utf8.ofString "context done"), 5, 1⟩] .silence .free

theorem asked_hastyServer : Asked hastyServer easyChallenge
    ⟨[⟨.data (Utf8.ofString "context done"), 5, 1⟩], .silence, .free, 1, 0⟩ :=
  ⟨_, Utf8.ofString easyChallenge, ⟨_, rfl⟩, ⟨_, rfl⟩, by decide,
    (Utf8.toStringLossy_ofString _).symm⟩

/-- The same words are an answer if the miner is first, and an interruption if the reader is. -/
theorem reply_names_cause_hastyServer :
    (∃ trace left, (converseWith .miner mine (some 5)).play hastyServer =
        (trace, some (.ok (.answer "context done"), left)) ∧
      Wrote .miner (some 5) hastyServer trace (.ok (.answer "context done")) ∧ failures trace = []) ∧
    ∃ trace left, (converseWith .reader mine (some 5)).play hastyServer =
        (trace, some (.ok (.interrupted "context done"), left)) ∧
      Wrote .reader (some 5) hastyServer trace (.ok (.interrupted "context done")) ∧
      failures trace = [] := by
  have heard : Utf8.toStringLossy (Utf8.ofString "context done") = "context done" :=
    Utf8.toStringLossy_ofString _
  have answered : Cause .miner (some 5) hastyServer (.ok (.answer "context done")) := by
    have mined : Mined .miner (some 5) hastyServer _ _ _ :=
      ⟨_, 5, asked_hastyServer, wins_race_of_tie .miner 5, mine_easyChallenge, rfl⟩
    exact heard ▸ .answer mined ⟨_, rfl⟩ ⟨_, rfl⟩
  have interrupted : Cause .reader (some 5) hastyServer (.ok (.interrupted "context done")) :=
    heard ▸ .interrupted asked_hastyServer (wins_race_of_tie .reader 5) ⟨_, rfl⟩
  constructor
  · obtain ⟨left, trace, played⟩ := answered.gives
    obtain ⟨-, failures, -, -, -, wrote⟩ := reply_names_cause played
    exact ⟨trace, left, played, wrote, failures⟩
  · obtain ⟨left, trace, played⟩ := interrupted.gives
    obtain ⟨-, failures, -, -, -, wrote⟩ := reply_names_cause played
    exact ⟨trace, left, played, wrote, failures⟩

end Client

end Hashgate
