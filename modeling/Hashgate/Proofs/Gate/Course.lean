import Hashgate.Proofs.Gate.Speech
import Hashgate.Proofs.Session.Waiting

/-! # The course of a session at a gate

Whoever stands behind a gate, the gate does the same, up to the moment when it hands the stream over.
So what it does is said once, by a conduct: either the session stays with the gate, or the stream, as
it is left, goes to the next program.  Which conducts a script allows is said by relations, one for
each stage of the conversation, with a constructor for each way in which the stage can go.

* `Conduct` — what a gate does, apart from the next program.
* `Submits`, `Awaits`, `Exchanges`, `Course` — the stages, from the last to the first.
* `Course.play_eq` — a session plays as its course says.
* `exists_course`, `Course.unique` — every session has one course.
* `play_serve` — a gate as a program, which notes how its session has ended.
-/

namespace Hashgate.Gate

open Session

/-! ## Conducts -/

/-- What a gate does, apart from the next program. -/
inductive Conduct where
  /-- The session ends at the gate, or never. -/
  | stays (played : Trace × Option (Outcome × Stream))
  /-- The stream, as it is left, goes to the next program. -/
  | serves (own : Trace) (left : Stream)

namespace Conduct

def own : Conduct → Trace
  | .stays played => played.1
  | .serves own _ => own

/-- The same, after something else. -/
def after (trace : Trace) : Conduct → Conduct
  | .stays played => .stays (trace ++ played.1, played.2)
  | .serves own left => .serves (trace ++ own) left

def play (next : Session Unit) : Conduct → Trace × Option (Outcome × Stream)
  | .stays played => played
  | .serves own left =>
    (own ++ (left.now, .handOver) :: (next.play left).1,
      (next.play left).2.map fun ended => (.passed, ended.2))

variable {trace : Trace} {conduct : Conduct} {next : Session Unit}

@[simp] theorem play_stays (played : Trace × Option (Outcome × Stream)) :
    (stays played).play next = played := rfl

@[simp] theorem play_serves (own : Trace) (left : Stream) : (serves own left).play next =
    (own ++ (left.now, .handOver) :: (next.play left).1,
      (next.play left).2.map fun ended => (.passed, ended.2)) := rfl

@[simp] theorem own_stays (played : Trace × Option (Outcome × Stream)) :
    (stays played).own = played.1 := rfl

@[simp] theorem own_serves (own : Trace) (left : Stream) : (serves own left).own = own := rfl

@[simp] theorem own_after : (conduct.after trace).own = trace ++ conduct.own := by
  cases conduct <;> rfl

@[simp] theorem play_after :
    (conduct.after trace).play next = (trace ++ (conduct.play next).1, (conduct.play next).2) := by
  cases conduct with
  | stays played => rfl
  | serves own left => rw [after, play, play, List.append_assoc]

/-- Whoever is served is served by a session that ends as passed, if it ends. -/
theorem eq_passed_of_serves {own : Trace} {left rest : Stream} {outcome : Outcome}
    (played : (serves own left).play next = (trace, some (outcome, rest))) : outcome = .passed := by
  obtain ⟨ended, -, same⟩ := Option.map_eq_some_iff.mp (congrArg Prod.snd played)
  exact (congrArg Prod.fst same).symm

theorem exists_serves_of_after {own : Trace} {left : Stream}
    (served : conduct.after trace = .serves own left) :
    ∃ rest, conduct = .serves rest left ∧ own = trace ++ rest := by
  cases conduct with
  | stays played => cases served
  | serves rest stream =>
    cases served
    exact ⟨rest, rfl, rfl⟩

/-- A next program that waits for ever and one that ends at once tell all conducts apart. -/
theorem eq_of_play_eq {other : Conduct} (same : ∀ next, conduct.play next = other.play next) :
    conduct = other := by
  have stalls := same stall
  have ends := same (pure ())
  cases conduct with
  | stays played =>
    cases other with
    | stays others => exact congrArg stays ends
    | serves own left =>
      -- What stays with the gate plays alike with both, and what is served ends with one of them.
      rw [play_stays] at stalls ends
      rw [stalls] at ends
      cases ends
  | serves own left =>
    cases other with
    | stays others =>
      rw [play_stays] at stalls ends
      rw [← ends] at stalls
      cases stalls
    | serves others othersLeft =>
      simp only [play, play_pure, Option.map_some, Prod.mk.injEq, Option.some.injEq] at ends
      obtain ⟨traces, -, rfl⟩ := ends
      exact congrArg (serves · left) (List.append_cancel_right traces)

end Conduct

/-! ## The result -/

variable {gate : Gate} {signal : Signal} {challenge : String} {s left : Stream} {trace : Trace}
  {conduct : Conduct}

def submission (result : String) : Verdict → Submission
  | .judged judgement => .verified result judgement.isValid
  | .refused error => .failed error
  | .died => .lost

/-- The acts of having a result judged. -/
def judging (s : Stream) (challenge result : String) (verdict : Verdict) : Trace :=
  (s.now, .log (Log.debug "header to verify" [("header", result)])) ::
    (s.now, .judge result challenge) ::
      match verdict with
      | .judged judgement => judgement.entries.map fun entry => (s.now, .log entry)
      | _ => []

theorem play_submit (verify : Verifier) (octets : List UInt8) (s : Stream) :
    (submit verify challenge octets).play s =
      (judging s challenge (Utf8.toStringLossy octets)
          (verify (Utf8.toStringLossy octets) challenge),
        some (submission (Utf8.toStringLossy octets)
          (verify (Utf8.toStringLossy octets) challenge), s)) := by
  cases verdict : verify (Utf8.toStringLossy octets) challenge <;>
    simp [submit, play_bind, verdict, judging, submission]

/-- How the read of a result can go, once the stream is ready. -/
inductive Submits (verify : Verifier) (challenge : String) (s : Stream) :
    Trace → Submission → Stream → Prop
  | unread {kind : IoError.Kind} {left : Stream} : s.take readCapacity = (.error kind, left) →
      Submits verify challenge s [(s.now, .stream (.readError kind))]
        (.failed (.transport (.ofKind kind))) left
  | ended {left : Stream} : s.take readCapacity = (.ok [], left) →
      Submits verify challenge s [(s.now, .stream (.read 0))] .disconnected left
  | judged {octets : List UInt8} {result : String} {left : Stream} :
      s.take readCapacity = (.ok octets, left) → octets ≠ [] → result = Utf8.toStringLossy octets →
      Submits verify challenge s
        ((s.now, .stream (.read octets.length)) ::
          judging left challenge result (verify result challenge))
        (submission result (verify result challenge)) left

theorem Submits.play_eq {verify : Verifier} {submission : Submission} {moment : Nat}
    (submits : Submits verify challenge (s.advance moment) trace submission left)
    (ready : s.ready? = some moment) :
    (awaitSubmission verify challenge).play (s.advance moment) = (trace, some (submission, left)) := by
  -- The stream has been waited for already, so the read does not wait again.
  have receiving := play_receive_advance ready readCapacity
  cases submits with
  | unread taken =>
    rw [play_readNow_error taken] at receiving
    rw [awaitSubmission, play_bind_of_some _ receiving]
    rfl
  | ended taken =>
    rw [play_readNow_ok taken] at receiving
    rw [awaitSubmission, play_bind_of_some _ receiving]
    rfl
  | @judged octets _ _ taken nonempty same =>
    subst same
    rw [play_readNow_ok taken] at receiving
    rw [awaitSubmission, play_bind_of_some _ receiving]
    cases octets with
    | nil => exact absurd rfl nonempty
    | cons octet rest =>
      simp only [play_submit]
      rfl

theorem exists_submits (verify : Verifier) (challenge : String) (s : Stream) :
    ∃ trace submission left, Submits verify challenge s trace submission left := by
  cases taken : s.take readCapacity with
  | mk found left =>
    cases found with
    | error kind => exact ⟨_, _, left, .unread taken⟩
    | ok octets =>
      by_cases empty : octets = []
      · subst empty
        exact ⟨_, _, left, .ended taken⟩
      · exact ⟨_, _, left, .judged taken empty rfl⟩

theorem Submits.exists_valid {verify : Verifier} {header : String}
    (submits : Submits verify challenge s trace (.verified header true) left) :
    ∃ octets, s.take readCapacity = (.ok octets, left) ∧ octets ≠ [] ∧
      verify (Utf8.toStringLossy octets) challenge = .judged .valid := by
  generalize same : Submission.verified header true = submitted at submits
  cases submits with
  | unread => cases same
  | ended => cases same
  | @judged octets _ _ taken nonempty equal =>
    subst equal
    refine ⟨octets, taken, nonempty, ?_⟩
    generalize verify (Utf8.toStringLossy octets) challenge = verdict at same ⊢
    cases verdict with
    | judged judgement =>
      cases judgement with
      | valid => rfl
      | short => cases same
    | refused => cases same
    | died => cases same

/-- What follows a result: it is good, and the stream goes on, or the session ends. -/
def concluded (submission : Submission) (s : Stream) : Conduct :=
  match submission with
  | .verified _ true => .serves [(s.now, .log (Log.info "PoW verification passed" []))] s
  | submission => .stays ((conclude (pure ()) submission).play s)

theorem concluded_cases (submission : Submission) (s : Stream) :
    (∃ header, submission = .verified header true ∧
      concluded submission s = .serves [(s.now, .log (Log.info "PoW verification passed" []))] s) ∨
    concluded submission s = .stays ((conclude (pure ()) submission).play s) ∧
      Speaks (conclude (pure ()) submission) fun outcome => outcome ≠ .passed := by
  cases submission with
  | verified header valid =>
    cases valid with
    | true => exact .inl ⟨header, rfl, rfl⟩
    | false =>
      exact .inr ⟨rfl, (speaks_log _).bind fun _ _ => (speaks_dismiss _).bind fun _ _ =>
        speaks_pure nofun⟩
  | disconnected =>
    exact .inr ⟨rfl, (speaks_log _).bind fun _ _ => speaks_hangUp.bind fun _ _ =>
      speaks_pure nofun⟩
  | failed error => exact .inr ⟨rfl, (speaks_reject error).mono fun _ same => same ▸ nofun⟩
  | lost =>
    exact .inr ⟨rfl, (speaks_log _).bind fun _ _ => (speaks_dismiss _).bind fun _ _ =>
      speaks_pure nofun⟩

theorem concluded_eq_serves {submission : Submission} {rest left : Stream} {own : Trace}
    (served : concluded submission rest = .serves own left) :
    (∃ header, submission = .verified header true) ∧ rest = left := by
  unfold concluded at served
  split at served
  · next header =>
    cases served
    exact ⟨⟨header, rfl⟩, rfl⟩
  · cases served

theorem play_conclude (next : Session Unit) (submission : Submission) (s : Stream) :
    (conclude next submission).play s = (concluded submission s).play next := by
  cases submission with
  | verified header valid =>
    cases valid with
    | false => rfl
    | true => simp [conclude, concluded, play_bind, Conduct.play]
  | disconnected => rfl
  | failed error => rfl
  | lost => rfl

/-! ## The wait for the result -/

/-- How the wait for a result can go, once the challenge has been written. -/
inductive Awaits (gate : Gate) (challenge : String) (signal : Signal) (s : Stream) : Conduct → Prop
  | expired : (∀ ready, s.ready? = some ready → s.now + gate.config.patience < ready) →
      NotAfter (s.now + gate.config.patience) [signal.moment?] →
      Awaits gate challenge signal s
        ((Conduct.stays (giveUp.play (s.advance (s.now + gate.config.patience)))).after
          [(s.now, .lend), ((s.advance (s.now + gate.config.patience)).now, .expire),
            ((s.advance (s.now + gate.config.patience)).now, .giveBack),
            ((s.advance (s.now + gate.config.patience)).now, .log (Log.warn "PoW deadline exceeded"
              [("wait_ms", toString gate.config.waitMillis.toNat)]))])
  | interrupted {stop : Nat} : signal.moment? = some stop →
      (∀ ready, s.ready? = some ready → stop < ready) → stop < s.now + gate.config.patience →
      Awaits gate challenge signal s
        ((Conduct.stays (giveUp.play (s.advance stop))).after
          [(s.now, .lend), ((s.advance stop).now, .giveBack),
            ((s.advance stop).now, .log (Log.warn "shutdown while waiting for PoW result" []))])
  | answered {ready : Nat} {trace : Trace} {submission : Submission} {left : Stream} :
      s.ready? = some ready →
      NotAfter ready [some (s.now + gate.config.patience), signal.moment?] →
      Submits gate.verify challenge (s.advance ready) trace submission left →
      Awaits gate challenge signal s
        ((concluded submission left).after ((s.now, .lend) :: trace ++ [(left.now, .giveBack)]))

theorem Awaits.play_eq (awaits : Awaits gate challenge signal s conduct) (next : Session Unit) :
    (gate.awaitResult challenge signal next).play s = conduct.play next := by
  cases awaits with
  | expired patient others =>
    have wins : Wins [(s.ready?, Wake.message), (some (s.now + gate.config.patience), .deadline),
        (signal.moment?, .signal)] (s.now + gate.config.patience) .deadline :=
      .later patient (.here others)
    simp [awaitResult, play_bind, play_awaitFirst_of_wins wins]
  | interrupted stop before early =>
    have wins : Wins [(s.ready?, Wake.message), (some (s.now + gate.config.patience), .deadline),
        (signal.moment?, .signal)] _ .signal :=
      .later before (.later (fun other same => Option.some.inj same ▸ early)
        (.head stop (notAfter_nil _)))
    simp [awaitResult, play_bind, play_awaitFirst_of_wins wins]
  | answered ready inTime submits =>
    have wins : Wins [(s.ready?, Wake.message), (some (s.now + gate.config.patience), .deadline),
        (signal.moment?, .signal)] _ .message := .head ready inTime
    simp [awaitResult, play_bind, play_awaitFirst_of_wins wins,
      submits.play_eq ready, play_conclude]

theorem exists_awaits (gate : Gate) (challenge : String) (signal : Signal) (s : Stream) :
    ∃ conduct, Awaits gate challenge signal s conduct := by
  cases first : earliest [(s.ready?, Wake.message),
      (some (s.now + gate.config.patience), .deadline), (signal.moment?, .signal)] with
  | none => cases earliest_eq_none_iff.mp first _ (.tail _ (.head _))
  | some winner =>
    obtain ⟨moment, wake⟩ := winner
    have wins := earliest_eq_some_iff.mp first
    -- One constructor of the relation for each place in the list.
    generalize listed : s.ready? = ready at wins
    obtain others | ⟨patient, others | ⟨early, wins⟩⟩ := wins
    · obtain ⟨trace, submission, left, submits⟩ :=
        exists_submits gate.verify challenge (s.advance moment)
      exact ⟨_, .answered listed others submits⟩
    · exact ⟨_, .expired (listed ▸ patient) others⟩
    · generalize given : signal.moment? = stop at wins
      cases wins with
      | here => exact ⟨_, .interrupted given (listed ▸ patient) (early _ rfl)⟩
      | later _ others => cases others

/-! ## The challenge -/

/-- Ends a session whose challenge could not be said. -/
def breakOff (e : IoError) : Session Outcome := do
  log (GateError.transport e).entry
  hangUp
  return .failed (.ofGate (.transport e))

theorem speaks_breakOff (e : IoError) :
    Speaks (breakOff e) fun outcome => outcome = .failed (.ofGate (.transport e)) :=
  (speaks_log _).bind fun _ _ => speaks_hangUp.bind fun _ _ => speaks_pure rfl

/-- How the exchange of a challenge for a result can go. -/
inductive Exchanges (gate : Gate) (signal : Signal) (s : Stream) : Conduct → Prop
  | unissued {error : GateError} : gate.config.issue gate.draw gate.generate = .error error →
      Exchanges gate signal s ((Conduct.stays ((reject error).play s)).after [(s.now, .issue)])
  | unsaid {issued : Issued} {trace : Trace} {e : IoError} {left : Stream} :
      gate.config.issue gate.draw gate.generate = .ok issued →
      (say issued.header).play s = (trace, some (.error e, left)) →
      Exchanges gate signal s
        ((Conduct.stays ((breakOff e).play left)).after
          ((s.now, .issue) :: (s.now, .log issued.entry) :: trace))
  | said {issued : Issued} {trace : Trace} {left : Stream} {conduct : Conduct} :
      gate.config.issue gate.draw gate.generate = .ok issued →
      (say issued.header).play s = (trace, some (.ok (), left)) →
      Awaits gate issued.header signal left conduct →
      Exchanges gate signal s
        (conduct.after ((s.now, .issue) :: (s.now, .log issued.entry) :: trace))

theorem Exchanges.play_eq (exchanges : Exchanges gate signal s conduct) (next : Session Unit) :
    (gate.exchange signal next).play s = conduct.play next := by
  cases exchanges with
  | unissued failed => simp [exchange, play_bind, failed]
  | unsaid issued said => simp [exchange, play_bind, issued, said, breakOff]
  | said issued said awaits => simp [exchange, play_bind, issued, said, awaits.play_eq]

theorem exists_exchanges (gate : Gate) (signal : Signal) (s : Stream) :
    ∃ conduct, Exchanges gate signal s conduct := by
  cases issuing : gate.config.issue gate.draw gate.generate with
  | error error => exact ⟨_, .unissued issuing⟩
  | ok issued =>
    obtain ⟨trace, result, left, said, _⟩ := exists_saying issued.header s
    cases result with
    | error e => exact ⟨_, .unsaid issuing said⟩
    | ok _ =>
      obtain ⟨conduct, awaits⟩ := exists_awaits gate issued.header signal left
      exact ⟨_, .said issuing said awaits⟩

/-! ## The whole session -/

def greeting (octets : List UInt8) : Log.Entry :=
  if octets.isEmpty then Log.debug "peer closed its side before asking for a challenge" []
  else Log.info "got message" [("message", Utf8.toStringLossy octets)]

/-- How a session can go. -/
inductive Course (gate : Gate) (signal : Signal) (s : Stream) : Conduct → Prop
  | stopped : signal.precedes s.now = true → Course gate signal s (.stays (giveUp.play s))
  | stalled : signal.precedes s.now = false → s.ready? = none → signal.moment? = none →
      Course gate signal s (.stays ([], none))
  | interrupted {stop : Nat} : signal.precedes s.now = false → signal.moment? = some stop →
      (∀ ready, s.ready? = some ready → stop < ready) →
      Course gate signal s (.stays (giveUp.play (s.advance stop)))
  | unheard {ready : Nat} {kind : IoError.Kind} {left : Stream} :
      signal.precedes s.now = false → s.ready? = some ready → NotAfter ready [signal.moment?] →
      (s.advance ready).take readCapacity = (.error kind, left) →
      Course gate signal s
        ((Conduct.stays ((reject (.transport (.ofKind kind))).play left)).after
          [((s.advance ready).now, .stream (.readError kind))])
  | heard {ready : Nat} {octets : List UInt8} {left : Stream} {conduct : Conduct} :
      signal.precedes s.now = false → s.ready? = some ready → NotAfter ready [signal.moment?] →
      (s.advance ready).take readCapacity = (.ok octets, left) →
      Exchanges gate signal left conduct →
      Course gate signal s
        (conduct.after [((s.advance ready).now, .stream (.read octets.length)),
          (left.now, .log (greeting octets))])

theorem Course.play_eq (course : Course gate signal s conduct) (next : Handler) :
    (gate.handle next signal).play s = conduct.play (next signal) := by
  cases course with
  | stopped given => simp [handle, play_bind, given]
  | stalled going silent never =>
    have nothing : ∀ entry ∈ [(s.ready?, Wake.message), (signal.moment?, Wake.signal)],
        entry.1 = none := by simp [silent, never]
    simp [handle, play_bind, going, play_awaitFirst_of_none nothing]
  | interrupted going given before =>
    have wins : Wins [(s.ready?, Wake.message), (signal.moment?, Wake.signal)] _ .signal :=
      .later before (.head given (notAfter_nil _))
    simp [handle, play_bind, going, play_awaitFirst_of_wins wins]
  | unheard going ready inTime taken =>
    have wins : Wins [(s.ready?, Wake.message), (signal.moment?, Wake.signal)] _ .message :=
      .head ready inTime
    simp [handle, greet, play_bind, going, play_awaitFirst_of_wins wins, play_receive_advance ready,
      play_readNow_error taken]
  | @heard ready octets left conduct going isReady inTime taken exchanges =>
    have wins : Wins [(s.ready?, Wake.message), (signal.moment?, Wake.signal)] _ .message :=
      .head isReady inTime
    -- An empty message is logged in other words.
    cases octets <;>
      simp [handle, greet, play_bind, going, play_awaitFirst_of_wins wins,
        play_receive_advance isReady, play_readNow_ok taken, exchanges.play_eq, greeting]

theorem exists_course (gate : Gate) (signal : Signal) (s : Stream) :
    ∃ conduct, Course gate signal s conduct := by
  cases going : signal.precedes s.now with
  | true => exact ⟨_, .stopped going⟩
  | false =>
    cases first : earliest [(s.ready?, Wake.message), (signal.moment?, .signal)] with
    | none =>
      -- The first message has no deadline, so without a signal the session can wait for ever.
      have never := earliest_eq_none_iff.mp first
      exact ⟨_, .stalled going (never _ (.head _)) (never _ (.tail _ (.head _)))⟩
    | some winner =>
      obtain ⟨moment, wake⟩ := winner
      have wins := earliest_eq_some_iff.mp first
      generalize listed : s.ready? = ready at wins
      obtain others | ⟨patient, wins⟩ := wins
      · cases taken : (s.advance moment).take readCapacity with
        | mk found left =>
          cases found with
          | error kind => exact ⟨_, .unheard going listed others taken⟩
          | ok octets =>
            obtain ⟨conduct, exchanges⟩ := exists_exchanges gate signal left
            exact ⟨_, .heard going listed others taken exchanges⟩
      · generalize given : signal.moment? = stop at wins
        cases wins with
        | here => exact ⟨_, .interrupted going given (listed ▸ patient)⟩
        | later _ others => cases others

/-! ## The session of a program -/

/-- What a gate notes at the end of a session that began at some moment. -/
def farewells (start : Nat) : Option (Outcome × Stream) → Trace
  | none => []
  | some (outcome, left) => [(left.now, .log (farewell outcome (left.now - start)))]

theorem play_serve (gate : Gate) (next : Handler) (signal : Signal) (s : Stream) :
    (gate.serve next signal).play s =
      (((gate.handle next signal).play s).1 ++ farewells s.now ((gate.handle next signal).play s).2,
        ((gate.handle next signal).play s).2.map fun ended => ((), ended.2)) := by
  rcases played : (gate.handle next signal).play s with ⟨trace, _ | ⟨outcome, left⟩⟩ <;>
    simp [serve, play_bind, played, farewells]

/-! ## Uniqueness -/

theorem Course.unique {other : Conduct} (course : Course gate signal s conduct)
    (others : Course gate signal s other) : conduct = other :=
  Conduct.eq_of_play_eq fun next => by
    rw [← course.play_eq fun _ => next, others.play_eq fun _ => next]

end Hashgate.Gate
