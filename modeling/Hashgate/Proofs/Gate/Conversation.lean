import Mathlib.Data.List.TakeWhile
import Hashgate.Proofs.Gate.Admission
import Hashgate.Proofs.Session.Accounting

/-! # The conversation of a gate with its peer

A gate says its challenge and then at most one notice, and there is one notice for each way to fail.
Whatever it cannot say, it closes the stream once, and last of all, unless the next program gets it.

Every end of a session says some messages and closes the stream, however the writes go, so what has
been said up to the end is all that there is to follow through the stages.

* `Talk` — a stretch of a session, by the messages of which it attempts the last at least in part.
* `Parts` — the ends of a session.
* `Exchanges.exchanged` — the three ways of an exchange.
* `Fitting` — which notice goes with which outcome.
* `handle_conversation` — the law of conversation.
-/

namespace Hashgate

/-! ## Outcomes and notices -/

/-- The notice that goes with an outcome, unless the challenge could not be said. -/
def Outcome.notice? : Outcome → Option String
  | .passed | .disconnected => none
  | .timedOut => some contextDoneNotice
  | .failed failure =>
    if failure.kind = .challengeMismatch ∨ failure.kind = .verificationFailed then
      some verificationFailedNotice
    else some internalErrorNotice

/-- The outcome that a submission alone leads to. -/
def Submission.outcome : Submission → Outcome
  | .disconnected => .disconnected
  | .verified _ true => .passed
  | .verified _ false => .failed (.verificationFailed "digest does not meet the difficulty target")
  | .failed error => .failed (.ofGate error)
  | .lost => .failed (.internal "PoW reader task ended without a result")

theorem Submission.outcome_eq_passed_iff {submission : Submission} :
    submission.outcome = .passed ↔ ∃ header, submission = .verified header true := by
  cases submission with
  | verified header valid => cases valid <;> simp [outcome]
  | _ => simp [outcome]

theorem Outcome.notice?_failed_ofGate (error : GateError) :
    (Outcome.failed (.ofGate error)).notice? = some error.notice := by
  cases error with
  | transport e =>
    simp only [notice?, Failure.ofGate, GateError.kind, GateError.notice]
    split <;> rfl
  | _ => rfl

namespace Gate

open Session

variable {gate : Gate} {signal : Signal} {challenge : String} {s left : Stream} {conduct : Conduct}
  {outcome : Outcome} {trace later : Trace} {messages more : List String} {closed : Prop}

/-! ## Talk -/

/-- The stream is closed once, and last of all, or not at all. -/
structure Closing (closed : Prop) (trace : Trace) : Prop where
  closes : closed → ∃ before, events trace = before ++ [.close] ∧ .close ∉ before
  stays_open : ¬ closed → .close ∉ events trace

theorem Closing.append (first : Closing False trace) (last : Closing closed later) :
    Closing closed (trace ++ later) where
  closes := by
    intro ends
    obtain ⟨before, events_eq, fresh⟩ := last.closes ends
    refine ⟨events trace ++ before, by rw [events_append, events_eq, List.append_assoc], ?_⟩
    exact List.not_mem_append (first.stays_open id) fresh
  stays_open := by
    intro goesOn
    rw [events_append]
    exact List.not_mem_append (first.stays_open id) (last.stays_open goesOn)

/-- A stretch of a session in which some messages are said, one after the other, the last of them
perhaps in part. -/
structure Talk (messages : List String) (closed : Prop) (trace : Trace) : Prop where
  attempts_eq : attempts trace = messages
  starts : written trace <+: messages.flatMap Utf8.ofString
  complete : Flawless trace → written trace = messages.flatMap Utf8.ofString
  closing : Closing closed trace

theorem talk_of_silent (silent : Silent trace) : Talk [] False trace where
  attempts_eq := silent.attempts_eq
  starts := by simp [silent.written_eq]
  complete := by simp [silent.written_eq]
  closing := ⟨False.elim, fun _ => silent.close_not_mem⟩

/-- Once some messages have been said as a whole, others can follow. -/
theorem Talk.append (talk : Talk messages False trace)
    (whole : written trace = messages.flatMap Utf8.ofString) (next : Talk more closed later) :
    Talk (messages ++ more) closed (trace ++ later) where
  attempts_eq := by rw [attempts_append, talk.attempts_eq, next.attempts_eq]
  starts := by
    rw [written_append, List.flatMap_append, whole]
    exact (List.prefix_append_right_inj _).mpr next.starts
  complete := by
    intro flawless
    rw [written_append, List.flatMap_append, whole, next.complete (flawless_append.mp flawless).2]
  closing := talk.closing.append next.closing

/-- Whatever became of the messages, a stretch without words can follow. -/
theorem Talk.append_wordless (talk : Talk messages False trace) (next : Talk [] closed later) :
    Talk messages closed (trace ++ later) where
  attempts_eq := by rw [attempts_append, talk.attempts_eq, next.attempts_eq, List.append_nil]
  starts := by
    rw [written_append, List.prefix_nil.mp next.starts, List.append_nil]
    exact talk.starts
  complete := by
    intro flawless
    rw [written_append, List.prefix_nil.mp next.starts, List.append_nil]
    exact talk.complete (flawless_append.mp flawless).1
  closing := talk.closing.append next.closing

theorem Talk.after_silent (silent : Silent trace) (next : Talk more closed later) :
    Talk more closed (trace ++ later) :=
  (talk_of_silent silent).append silent.written_eq next

theorem Talk.congr {other : Prop} (talk : Talk messages closed trace) (same : closed ↔ other) :
    Talk messages other trace := propext same ▸ talk

/-! ## Messages and ends -/

theorem attempts_of_sending {octets : List UInt8} {result : Except IoError Unit}
    (sending : Sending octets s trace result left) : attempts trace = [] := by
  simp only [attempts, List.filterMap_eq_nil_iff]
  intro mark member
  obtain ⟨-, ⟨taken, act⟩ | ⟨fault, act⟩⟩ := sending.attempts mark member <;> rw [act] <;> rfl

theorem closing_of_sending {octets : List UInt8} {result : Except IoError Unit}
    (sending : Sending octets s trace result left) : Closing False trace := by
  refine ⟨False.elim, fun _ closes => ?_⟩
  obtain ⟨mark, member, same⟩ := List.mem_filterMap.mp closes
  obtain ⟨-, ⟨taken, act⟩ | ⟨fault, act⟩⟩ := sending.attempts mark member <;> rw [act] at same <;>
    cases same

theorem talk_of_say {message : String} {result : Except IoError Unit}
    (played : (say message).play s = (trace, some (result, left))) : Talk [message] False trace := by
  obtain ⟨words, sent, after, sends, sending⟩ := exists_sending_send (Utf8.ofString message) s
  have wordless := attempts_of_sending sending
  have stillOpen := closing_of_sending sending
  have announcing : Closing False [(s.now, .log (Log.debug "write message" [("message", message)])),
      (s.now, .attempt message)] := ⟨False.elim, fun _ => by simp [Act.event?]⟩
  cases sent with
  | error e =>
    have tells : (say message).play s = ([(s.now, .log (Log.debug "write message"
        [("message", message)])), (s.now, .attempt message)] ++ words, some (.error e, after)) := by
      simp [say, play_bind, sends]
    rw [tells] at played
    cases played
    exact {
      attempts_eq := by simp [Act.message?, wordless]
      starts := by simpa [Act.octets] using sending.starts
      complete := fun flawless => absurd (flawless_append.mp flawless).2 (not_flawless_of_send sends)
      closing := announcing.append stillOpen }
  | ok _ =>
    have tells : (say message).play s = ([(s.now, .log (Log.debug "write message"
        [("message", message)])), (s.now, .attempt message)] ++ (words ++ [(after.now, .stream .flush)]),
        some (failWith after.flushFault?, after)) := by
      simp [say, play_bind, sends]
    rw [tells] at played
    cases played
    have pushing : Closing False [(left.now, .stream .flush)] :=
      ⟨False.elim, fun _ => by simp [Act.event?]⟩
    have whole := sending.complete.mp rfl
    exact {
      attempts_eq := by simp [Act.message?, wordless]
      starts := by simp [Act.octets, whole]
      complete := by simp [Act.octets, whole]
      closing := announcing.append (stillOpen.append pushing) }

/-- What there is to note of a close that fails. -/
def complaint (s : Stream) : Trace :=
  match s.outlet.closeFault with
  | some kind =>
    [(s.now, .log (Log.debug "close connection" [("error", (IoError.ofKind kind).message)]))]
  | none => []

theorem play_hangUp (s : Stream) :
    hangUp.play s = ([(s.now, .log (Log.debug "close TCP connection" [])), (s.now, .stream .close)] ++
      complaint s, some ((), s)) := by
  cases fault : s.outlet.closeFault <;> simp [hangUp, complaint, play_bind, fault, failWith]

/-- A session that says some messages, whatever becomes of them, and closes the stream. -/
def Parts {α : Type} (x : Session α) (messages : List String) (a : α) : Prop :=
  ∀ s, ∃ trace left, x.play s = (trace, some (a, left)) ∧ Talk messages True trace

section

variable {α β : Type} {x : Session α} {a : α} {b : β}

theorem parts_hangUp : Parts hangUp [] () := by
  intro s
  -- What there is to note of the close is no event.
  have quiet : Silent (complaint s) ∧ events (complaint s) = [] := by
    unfold complaint
    split <;> simp [Act.IsSilent, Act.event?]
  refine ⟨_, s, play_hangUp s, ?_⟩
  exact {
    attempts_eq := by simp [Act.message?, quiet.1.attempts_eq]
    starts := by simp [Act.octets, quiet.1.written_eq]
    complete := by simp [Act.octets, quiet.1.written_eq]
    closing := ⟨fun _ => ⟨[], by simp [Act.event?, quiet.2], List.not_mem_nil⟩,
      fun goesOn => absurd trivial goesOn⟩ }

theorem Parts.after_log (parts : Parts x messages a) (entry : Log.Entry) :
    Parts (log entry >>= fun _ => x) messages a := by
  intro s
  obtain ⟨trace, left, played, talk⟩ := parts s
  have silent : Silent [(s.now, .log entry)] := by simp [Act.IsSilent]
  exact ⟨_, left, by rw [play_bind_of_some _ (play_log entry s), played], talk.after_silent silent⟩

theorem Parts.with_result (parts : Parts x messages a) (b : β) :
    Parts (x >>= fun _ => pure b) messages b := by
  intro s
  obtain ⟨trace, left, played, talk⟩ := parts s
  exact ⟨trace, left, by rw [play_bind_of_some _ played]; simp, talk⟩

/-- Whatever becomes of a message, the stream may be closed after it. -/
theorem Parts.after_say {f : Except IoError Unit → Session β} (parts : ∀ said, Parts (f said) [] b)
    (message : String) : Parts (say message >>= f) [message] b := by
  intro s
  obtain ⟨words, said, after, tells, -⟩ := exists_saying message s
  obtain ⟨ending, left, ends, talk⟩ := parts said after
  exact ⟨words ++ ending, left, by rw [play_bind_of_some f tells, ends],
    (talk_of_say tells).append_wordless talk⟩

theorem parts_dismiss (notice : String) : Parts (dismiss notice) [notice] () := by
  refine Parts.after_say (fun said => ?_) notice
  cases said with
  | error e => exact parts_hangUp.after_log _
  | ok _ => exact parts_hangUp

end

theorem parts_giveUp : Parts giveUp [contextDoneNotice] .timedOut := (parts_dismiss _).with_result _

theorem parts_reject (error : GateError) :
    Parts (reject error) [error.notice] (.failed (.ofGate error)) :=
  ((parts_dismiss _).with_result _).after_log _

theorem parts_breakOff (e : IoError) :
    Parts (breakOff e) [] (.failed (.ofGate (.transport e))) :=
  (parts_hangUp.with_result _).after_log _

theorem parts_conclude {submission : Submission} (bad : submission.outcome ≠ .passed) :
    Parts (conclude (pure ()) submission) submission.outcome.notice?.toList submission.outcome := by
  cases submission with
  | disconnected => exact (parts_hangUp.with_result _).after_log _
  | verified header valid =>
    cases valid with
    | true => exact absurd rfl bad
    | false => exact ((parts_dismiss _).with_result _).after_log _
  | failed error =>
    rw [Submission.outcome, Outcome.notice?_failed_ofGate]
    exact parts_reject error
  | lost => exact ((parts_dismiss _).with_result _).after_log _

/-! ## Reads and questions -/

theorem counts_of_speaks {α : Type} {x : Session α} {p : α → Prop} (speaks : Speaks x p) (s : Stream) :
    reads (x.play s).1 = 0 ∧ issues (x.play s).1 = 0 := by
  obtain ⟨trace, a, left, played, -, spoken⟩ := speaks s
  have speech (mark : Nat × Act) (member : mark ∈ trace) := (spoken.acts mark member).2
  rw [played]
  exact ⟨reads_of_speech speech, issues_of_speech speech⟩

theorem counts_of_say {message : String} {result : Except IoError Unit}
    (played : (say message).play s = (trace, some (result, left))) :
    reads trace = 0 ∧ issues trace = 0 := by
  have counts := counts_of_speaks (speaks_say message) s
  rwa [played] at counts

theorem counts_concluded (submission : Submission) (s : Stream) :
    reads (concluded submission s).own = 0 ∧ issues (concluded submission s).own = 0 := by
  obtain ⟨header, -, serves⟩ | ⟨stays, speaks⟩ := concluded_cases submission s
  · rw [serves]
    exact ⟨rfl, rfl⟩
  · rw [stays]
    exact counts_of_speaks speaks s

theorem Submits.counts {verify : Verifier} {submission : Submission}
    (submits : Submits verify challenge s trace submission left) :
    reads trace = 1 ∧ issues trace = 0 ∧ Silent trace := by
  cases submits with
  | unread => simp [Act.event?, StreamEvent.isRead, Act.IsSilent]
  | ended => simp [Act.event?, StreamEvent.isRead, Act.IsSilent]
  | @judged octets result _ _ _ _ =>
    -- Whatever the verdict is, all that there is to note of it is logged.
    have entries (list : List Log.Entry) :
        let told : Trace := list.map fun entry => (left.now, .log entry)
        reads told = 0 ∧ issues told = 0 ∧ Silent told := by
      induction list with
      | nil => simp
      | cons entry rest ih => simpa [Act.event?, Act.IsSilent] using ih
    unfold judging
    generalize verify result challenge = verdict
    cases verdict with
    | judged judgement =>
      simpa [Act.event?, StreamEvent.isRead, Act.IsSilent] using entries judgement.entries
    | refused => simp [Act.event?, StreamEvent.isRead, Act.IsSilent]
    | died => simp [Act.event?, StreamEvent.isRead, Act.IsSilent]

theorem Awaits.counts (awaits : Awaits gate challenge signal s conduct) :
    reads conduct.own ≤ 1 ∧ issues conduct.own = 0 := by
  cases awaits with
  | expired =>
    obtain ⟨unread, unasked⟩ := counts_of_speaks speaks_giveUp
      (s.advance (s.now + gate.config.patience))
    simp [Act.event?, unread, unasked]
  | @interrupted stop =>
    obtain ⟨unread, unasked⟩ := counts_of_speaks speaks_giveUp (s.advance stop)
    simp [Act.event?, unread, unasked]
  | @answered _ _ submission left _ _ submits =>
    obtain ⟨unread, unasked⟩ := counts_concluded submission left
    obtain ⟨read, noQuestion, -⟩ := submits.counts
    simp [Act.event?, unread, unasked, read, noQuestion]

theorem Exchanges.counts (exchanges : Exchanges gate signal s conduct) :
    reads conduct.own ≤ 1 ∧ issues conduct.own = 1 := by
  cases exchanges with
  | @unissued error =>
    obtain ⟨unread, unasked⟩ := counts_of_speaks (speaks_reject error) s
    simp [Act.event?, unread, unasked]
  | @unsaid issued trace e left _ tells =>
    obtain ⟨unread, unasked⟩ := counts_of_speaks (speaks_breakOff e) left
    obtain ⟨wordsUnread, wordsUnasked⟩ := counts_of_say tells
    simp [Act.event?, unread, unasked, wordsUnread, wordsUnasked]
  | @said issued trace left conduct _ tells awaits =>
    obtain ⟨few, unasked⟩ := awaits.counts
    obtain ⟨wordsUnread, wordsUnasked⟩ := counts_of_say tells
    simp [Act.event?, few, unasked, wordsUnread, wordsUnasked]

/-! ## Stage by stage -/

/-- What a session comes to, if what follows the gate comes to an end. -/
inductive Conduct.Ends : Conduct → Outcome → Prop
  | stays {trace : Trace} {outcome : Outcome} {left : Stream} :
      Ends (.stays (trace, some (outcome, left))) outcome
  | serves {own : Trace} {left : Stream} : Ends (.serves own left) .passed

theorem Conduct.ends_after : (conduct.after trace).Ends outcome ↔ conduct.Ends outcome := by
  cases conduct with
  | stays played =>
    obtain ⟨others, result⟩ := played
    constructor
    · rintro ⟨⟩
      exact .stays
    · rintro ⟨⟩
      exact .stays
  | serves own left =>
    constructor
    · rintro ⟨⟩
      exact .serves
    · rintro ⟨⟩
      exact .serves

/-- A session that stays with the gate and says some messages at its end. -/
theorem talk_of_parts {x : Session Outcome} {result : Outcome} (parts : Parts x messages result)
    (ends : (Conduct.stays (x.play s)).Ends outcome) : outcome = result ∧ Talk messages True (x.play s).1 := by
  obtain ⟨trace, left, played, talk⟩ := parts s
  rw [played] at ends ⊢
  cases ends
  exact ⟨rfl, talk⟩

theorem talk_concluded {submission : Submission} (ends : (concluded submission s).Ends outcome) :
    Talk outcome.notice?.toList (outcome ≠ .passed) (concluded submission s).own := by
  by_cases good : submission.outcome = .passed
  · obtain ⟨header, rfl⟩ := Submission.outcome_eq_passed_iff.mp good
    obtain ⟨⟩ := ends
    have silent : Silent [(s.now, .log (Log.info "PoW verification passed" []))] := by
      simp [Act.IsSilent]
    exact (talk_of_silent silent).congr (by simp)
  · obtain ⟨header, rfl, -⟩ | ⟨stays, -⟩ := concluded_cases submission s
    · exact absurd rfl good
    · rw [stays] at ends ⊢
      obtain ⟨rfl, talk⟩ := talk_of_parts (parts_conclude good) ends
      exact talk.congr (by simp [good])

theorem talk_giveUp (ends : (Conduct.stays (giveUp.play s)).Ends outcome) :
    Talk outcome.notice?.toList (outcome ≠ .passed) (giveUp.play s).1 := by
  obtain ⟨rfl, talk⟩ := talk_of_parts parts_giveUp ends
  exact talk.congr (by simp)

theorem talk_reject {error : GateError} (ends : (Conduct.stays ((reject error).play s)).Ends outcome) :
    Talk outcome.notice?.toList (outcome ≠ .passed) ((reject error).play s).1 := by
  obtain ⟨rfl, talk⟩ := talk_of_parts (parts_reject error) ends
  rw [Outcome.notice?_failed_ofGate]
  exact talk.congr (by simp)

theorem Awaits.talk (awaits : Awaits gate challenge signal s conduct) (ends : conduct.Ends outcome) :
    Talk outcome.notice?.toList (outcome ≠ .passed) conduct.own := by
  cases awaits with
  | expired =>
    rw [Conduct.own_after]
    exact (talk_giveUp (Conduct.ends_after.mp ends)).after_silent (by simp [Act.IsSilent])
  | interrupted =>
    rw [Conduct.own_after]
    exact (talk_giveUp (Conduct.ends_after.mp ends)).after_silent (by simp [Act.IsSilent])
  | answered _ _ submits =>
    rw [Conduct.own_after]
    obtain ⟨-, -, silent⟩ := submits.counts
    exact (talk_concluded (Conduct.ends_after.mp ends)).after_silent (by simp [Act.IsSilent, silent])

/-- What is done before the first flush. -/
def beforeFlush (trace : Trace) : Trace := trace.takeWhile fun mark => decide (mark.2 ≠ .stream .flush)

/-- A challenge has been said as a whole and pushed out: it is all that is written before the first flush,
and that flush goes well. -/
def Told (s : Stream) (challenge : String) (own : Trace) : Prop :=
  written (beforeFlush own) = Utf8.ofString challenge ∧
    s.outlet.flushFault? (s.writes + writeCalls (beforeFlush own)) = none

theorem beforeFlush_append {earlier : Trace} (unflushed : ∀ mark ∈ earlier, mark.2 ≠ .stream .flush)
    (later : Trace) : beforeFlush (earlier ++ later) = earlier ++ beforeFlush later :=
  List.takeWhile_append_of_pos fun mark member => decide_eq_true (unflushed mark member)

theorem written_beforeFlush_prefix (trace : Trace) : written (beforeFlush trace) <+: written trace := by
  obtain ⟨rest, split⟩ := List.takeWhile_prefix (l := trace) fun mark => decide (mark.2 ≠ .stream .flush)
  exact ⟨written rest, by rw [← written_append, beforeFlush, split]⟩

/-- Whether a challenge that is written as a whole has been told is a matter of its flush. -/
theorem told_iff_of_say {words : Trace} {said : Except IoError Unit} (silent : Silent trace)
    (tells : (say challenge).play s = (words, some (said, left)))
    (whole : written words = Utf8.ofString challenge) (later : Trace) :
    Told s challenge (trace ++ (words ++ later)) ↔ said = .ok () := by
  have saying := saying_of_play tells
  have accounted := holdsOfSpeech_accounts.say challenge _ _ _ _ tells
  obtain ⟨before, rfl, unflushed⟩ := saying.pushes whole
  have first : beforeFlush (trace ++ (before ++ [(s.now, .stream .flush)] ++ later)) = trace ++ before := by
    rw [beforeFlush_append silent.ne_flush, List.append_assoc, beforeFlush_append unflushed]
    simp [beforeFlush]
  have calls : s.writes + writeCalls (trace ++ before) = left.writes := by
    rw [accounted.writes_eq, writeCalls_append, writeCalls_append, silent.writeCalls_eq]
    simp [writeCalls, Act.event?, StreamEvent.isWrite]
  have words : written (trace ++ before) = Utf8.ofString challenge := by
    rw [← whole, written_append, written_append, silent.written_eq]
    simp [Act.octets]
  rw [Told, first, words, calls, saying.complete, Stream.flushFault?, accounted.outlet_eq, whole]

/-- The three ways of an exchange: there is no challenge, it cannot be said, or it is said and all that
follows it has its notice. -/
inductive Exchanged (gate : Gate) (s : Stream) (outcome : Outcome) (own : Trace) : Prop
  | unissued {error : GateError} : gate.config.issue gate.draw gate.generate = .error error →
      Talk outcome.notice?.toList (outcome ≠ .passed) own → Exchanged gate s outcome own
  | unsaid {issued : Issued} {e : IoError} : gate.config.issue gate.draw gate.generate = .ok issued →
      ¬ Told s issued.header own → outcome = .failed (.ofGate (.transport e)) →
      Talk [issued.header] True own → Exchanged gate s outcome own
  | said {issued : Issued} : gate.config.issue gate.draw gate.generate = .ok issued →
      Told s issued.header own →
      Talk (issued.header :: outcome.notice?.toList) (outcome ≠ .passed) own →
      Exchanged gate s outcome own

theorem Exchanges.exchanged (exchanges : Exchanges gate signal s conduct)
    (ends : conduct.Ends outcome) : Exchanged gate s outcome conduct.own := by
  cases exchanges with
  | unissued failed =>
    rw [Conduct.own_after]
    refine .unissued failed ?_
    exact (talk_reject (Conduct.ends_after.mp ends)).after_silent (by simp [Act.IsSilent])
  | @unsaid issued words e left issues tells =>
    obtain ⟨rfl, talk⟩ := talk_of_parts (parts_breakOff e) (Conduct.ends_after.mp ends)
    have silent : Silent [(s.now, .issue), (s.now, .log issued.entry)] := by simp [Act.IsSilent]
    have saying := saying_of_play tells
    refine .unsaid issues ?_ rfl ?_
    · intro told
      -- Nothing but the challenge is written, so it is written as a whole.
      have wordless : written ((breakOff e).play left).1 = [] := List.prefix_nil.mp talk.starts
      have starts := told.1 ▸ written_beforeFlush_prefix _
      rw [Conduct.own_after, List.cons_append, List.cons_append, written_cons, written_cons,
        written_append, Conduct.own_stays, wordless, List.append_nil] at starts
      have whole := saying.starts.eq_of_length_le starts.length_le
      cases (told_iff_of_say silent tells whole _).mp told
    · simpa using ((talk_of_say tells).append_wordless talk).after_silent silent
  | @said issued words left conduct issues tells awaits =>
    have silent : Silent [(s.now, .issue), (s.now, .log issued.entry)] := by simp [Act.IsSilent]
    obtain ⟨whole, -⟩ := (saying_of_play tells).complete.mp rfl
    have talk := awaits.talk (Conduct.ends_after.mp ends)
    refine .said issues ?_ ?_
    · rw [Conduct.own_after]
      exact (told_iff_of_say silent tells whole _).mpr rfl
    · simpa using ((talk_of_say tells).append (by simpa using whole) talk).after_silent silent

/-- Silence before an exchange changes nothing about it. -/
theorem Exchanged.after_silent {earlier own : Trace} (exchanged : Exchanged gate left outcome own)
    (same : left.outlet = s.outlet) (unwritten : left.writes = s.writes) (silent : Silent earlier) :
    Exchanged gate s outcome (earlier ++ own) := by
  have told_iff (challenge : String) : Told s challenge (earlier ++ own) ↔ Told left challenge own := by
    rw [Told, Told, beforeFlush_append silent.ne_flush, written_append, silent.written_eq,
      List.nil_append, writeCalls_append, silent.writeCalls_eq, Nat.zero_add, same, unwritten]
  cases exchanged with
  | unissued failed talk => exact .unissued failed (talk.after_silent silent)
  | unsaid issues untold broken talk =>
    exact .unsaid issues (fun told => untold ((told_iff _).mp told)) broken (talk.after_silent silent)
  | said issues told talk => exact .said issues ((told_iff _).mpr told) (talk.after_silent silent)

/-! ## Which notice goes with which outcome -/

/-- The notice that goes with an outcome.  `broken` says that the challenge could not be said. -/
structure Fitting (broken : Prop) (outcome : Outcome) (notice : Option String) : Prop where
  timedOut : notice = some contextDoneNotice ↔ outcome = .timedOut
  rejected : notice = some verificationFailedNotice ↔ ∃ failure, outcome = .failed failure ∧
    (failure.kind = .challengeMismatch ∨ failure.kind = .verificationFailed)
  wordless : notice = none ↔ outcome = .passed ∨ outcome = .disconnected ∨
    (∃ failure, outcome = .failed failure) ∧ broken
  troubled : notice = some internalErrorNotice ↔ ∃ failure, outcome = .failed failure ∧
    ¬ (failure.kind = .challengeMismatch ∨ failure.kind = .verificationFailed) ∧ ¬ broken

theorem notices_ne : contextDoneNotice ≠ verificationFailedNotice ∧
    contextDoneNotice ≠ internalErrorNotice ∧ verificationFailedNotice ≠ internalErrorNotice := by
  decide

theorem fitting_notice? {broken : Prop} (whole : ¬ broken) (outcome : Outcome) :
    Fitting broken outcome outcome.notice? := by
  obtain ⟨doneFailed, doneInternal, failedInternal⟩ := notices_ne
  cases outcome with
  | passed => constructor <;> simp [Outcome.notice?]
  | disconnected => constructor <;> simp [Outcome.notice?]
  | timedOut => constructor <;> simp [Outcome.notice?, doneFailed, doneInternal]
  | failed failure =>
    by_cases bad : failure.kind = .challengeMismatch ∨ failure.kind = .verificationFailed
    · constructor <;> simp [-not_or, Outcome.notice?, bad, whole, doneFailed.symm, failedInternal]
    · constructor <;> simp [-not_or, Outcome.notice?, bad, whole, doneInternal.symm, failedInternal.symm]

theorem fitting_none {broken : Prop} (breaks : broken) (e : IoError) :
    Fitting broken (.failed (.ofGate (.transport e))) none := by
  have kind : (Failure.ofGate (.transport e)).kind = .timeout ∨
      (Failure.ofGate (.transport e)).kind = .transport := by
    simp only [Failure.ofGate, GateError.kind]
    split
    · exact .inl rfl
    · exact .inr rfl
  obtain timeout | transport := kind
  · constructor <;> simp [breaks, timeout]
  · constructor <;> simp [breaks, transport]

/-! ## Whole sessions -/

/-- The challenge was to be said, and was not written as a whole or could not be pushed out. -/
def BrokenOff (s : Stream) (challenge : Option String) (own : Trace) : Prop :=
  ∃ text, challenge = some text ∧ ¬ Told s text own

/-- The law of a conversation.  `challenge` is what the generator makes, if it is asked. -/
structure Conversation (gate : Gate) (s : Stream) (own : Trace) (outcome : Outcome)
    (challenge notice : Option String) : Prop where
  reads_le : reads own ≤ 2
  issues_le : issues own ≤ 1
  challenge_eq_some_iff : ∀ text, challenge = some text ↔
    issues own = 1 ∧ ∃ issued, gate.config.issue gate.draw gate.generate = .ok issued ∧
      issued.header = text
  attempts_eq : attempts own = challenge.toList ++ notice.toList
  starts : written own <+: (challenge.toList ++ notice.toList).flatMap Utf8.ofString
  complete : Flawless own → written own = (challenge.toList ++ notice.toList).flatMap Utf8.ofString
  closes : outcome ≠ .passed → ∃ before, events own = before ++ [.close] ∧ .close ∉ before
  stays_open : outcome = .passed → .close ∉ events own
  fitting : Fitting (BrokenOff s challenge own) outcome notice

/-- What is said makes a conversation, if the challenge is the right one. -/
theorem conversation_of_talk {own : Trace} {challenge notice : Option String}
    (talk : Talk (challenge.toList ++ notice.toList) (outcome ≠ .passed) own)
    (few : reads own ≤ 2) (asked : issues own ≤ 1)
    (made : ∀ text, challenge = some text ↔ issues own = 1 ∧
      ∃ issued, gate.config.issue gate.draw gate.generate = .ok issued ∧ issued.header = text)
    (fitting : Fitting (BrokenOff s challenge own) outcome notice) :
    Conversation gate s own outcome challenge notice where
  reads_le := few
  issues_le := asked
  challenge_eq_some_iff := made
  attempts_eq := talk.attempts_eq
  starts := talk.starts
  complete := talk.complete
  closes := talk.closing.closes
  stays_open := fun passed => talk.closing.stays_open (not_not_intro passed)
  fitting := fitting

/-- A session in which the generator makes nothing. -/
theorem conversation_of_unissued {own : Trace}
    (talk : Talk outcome.notice?.toList (outcome ≠ .passed) own)
    (few : reads own ≤ 2) (asked : issues own ≤ 1)
    (unmade : issues own = 1 → ∀ issued, gate.config.issue gate.draw gate.generate ≠ .ok issued) :
    Conversation gate s own outcome none outcome.notice? := by
  refine conversation_of_talk (by simpa using talk) few asked ?_ (fitting_notice? ?_ outcome)
  · intro text
    refine ⟨nofun, ?_⟩
    rintro ⟨once, issued, issues, -⟩
    exact absurd issues (unmade once issued)
  · rintro ⟨text, ⟨⟩, -⟩

theorem Exchanged.conversation {own : Trace} (exchanged : Exchanged gate s outcome own)
    (few : reads own ≤ 2) (once : issues own = 1) :
    ∃ challenge notice, Conversation gate s own outcome challenge notice := by
  have asked : issues own ≤ 1 := Nat.le_of_eq once
  have made {issued : Issued} (issues_eq : gate.config.issue gate.draw gate.generate = .ok issued)
      (text : String) : some issued.header = some text ↔ issues own = 1 ∧
        ∃ issued, gate.config.issue gate.draw gate.generate = .ok issued ∧ issued.header = text := by
    simp [once, issues_eq]
  cases exchanged with
  | unissued failed talk =>
    exact ⟨none, _, conversation_of_unissued talk few asked fun _ issued issues => by
      rw [failed] at issues
      cases issues⟩
  | @unsaid issued e issues untold broken talk =>
    subst broken
    refine ⟨some issued.header, none, conversation_of_talk ?_ few asked (made issues)
      (fitting_none ⟨_, rfl, untold⟩ e)⟩
    exact talk.congr (by simp)
  | @said issued issues told talk =>
    refine ⟨some issued.header, outcome.notice?, conversation_of_talk talk few asked (made issues)
      (fitting_notice? ?_ outcome)⟩
    rintro ⟨text, ⟨⟩, untold⟩
    exact untold told

/-- Giving up before anything is asked says no more than its notice. -/
theorem conversation_giveUp {start : Stream}
    (ends : (Conduct.stays (giveUp.play start)).Ends outcome) :
    Conversation gate s (giveUp.play start).1 outcome none outcome.notice? := by
  obtain ⟨unread, unasked⟩ := counts_of_speaks speaks_giveUp start
  exact conversation_of_unissued (talk_giveUp ends) (by simp [unread]) (by simp [unasked])
    (by simp [unasked])

theorem Course.conversation (course : Course gate signal s conduct) (ends : conduct.Ends outcome) :
    ∃ challenge notice, Conversation gate s conduct.own outcome challenge notice := by
  cases course with
  | stopped => exact ⟨none, _, conversation_giveUp ends⟩
  | stalled => cases ends
  | interrupted => exact ⟨none, _, conversation_giveUp ends⟩
  | @unheard ready kind left =>
    obtain ⟨unread, unasked⟩ := counts_of_speaks (speaks_reject (.transport (.ofKind kind))) left
    have silent : Silent [((s.advance ready).now, .stream (.readError kind))] := by
      simp [Act.IsSilent, StreamEvent.isRead]
    have talk := (talk_reject (Conduct.ends_after.mp ends)).after_silent silent
    refine ⟨none, outcome.notice?, ?_⟩
    rw [Conduct.own_after]
    exact conversation_of_unissued talk
      (by simp [unread, Act.event?, StreamEvent.isRead]) (by simp [unasked]) (by simp [unasked])
  | @heard ready octets left conduct _ _ _ taken exchanges =>
    obtain ⟨few, once⟩ := exchanges.counts
    have silent : Silent [((s.advance ready).now, .stream (.read octets.length)),
        (left.now, .log (greeting octets))] := by simp [Act.IsSilent, StreamEvent.isRead]
    obtain ⟨same, unwritten⟩ : left.outlet = s.outlet ∧ left.writes = s.writes := by
      obtain ⟨_, _, takes, -⟩ := (s.advance ready).exists_take_eq readCapacity
      cases taken.symm.trans takes
      exact ⟨rfl, rfl⟩
    rw [Conduct.own_after]
    refine ((exchanges.exchanged (Conduct.ends_after.mp ends)).after_silent same unwritten
      silent).conversation ?_ ?_
    · simp only [reads_append, reads_cons, reads_nil, Act.event?, Option.toList, List.countP_cons,
        List.countP_nil, StreamEvent.isRead]
      simp
      omega
    · simp [once]

theorem Conduct.ends_of_play {next : Session Unit}
    (played : conduct.play next = (trace, some (outcome, left))) : conduct.Ends outcome := by
  cases conduct with
  | stays others =>
    cases played
    exact .stays
  | serves own rest =>
    cases eq_passed_of_serves played
    exact .serves

/-- What a gate has done by the time when it hands the stream over, if it ever does. -/
def ownPart (trace : Trace) : Trace := trace.takeWhile fun mark => decide (mark.2 ≠ .handOver)

theorem ownPart_play (next : Session Unit) (kept : ∀ mark ∈ conduct.own, mark.2 ≠ .handOver) :
    ownPart (conduct.play next).1 = conduct.own := by
  have all : ∀ mark ∈ conduct.own, decide (mark.2 ≠ .handOver) = true := fun mark member =>
    decide_eq_true (kept mark member)
  cases conduct with
  | stays played => exact List.takeWhile_eq_self_iff.mpr all
  | serves own left =>
    change ∀ mark ∈ own, _ at all
    rw [ownPart, Conduct.play, List.takeWhile_append_of_pos all]
    simp

/-- **The law of conversation.**  Of its own a gate holds one conversation, whatever goes wrong in it,
and a session that does not pass is nothing else. -/
theorem handle_conversation {gate : Gate} {next : Handler} {signal : Signal} {s left : Stream}
    {trace : Trace} {outcome : Outcome}
    (played : (gate.handle next signal).play s = (trace, some (outcome, left))) :
    (outcome ≠ .passed → ownPart trace = trace) ∧
      ∃ challenge notice, Conversation gate s (ownPart trace) outcome challenge notice := by
  obtain ⟨conduct, course⟩ := exists_course gate signal s
  rw [course.play_eq] at played
  have own_eq : ownPart trace = conduct.own := by
    rw [← ownPart_play (next signal) course.disciplined.orderly.ne_handOver, played]
  rw [own_eq]
  refine ⟨fun notPassed => ?_, course.conversation (Conduct.ends_of_play played)⟩
  -- Only a session that is handed over has a part that is not the gate's own.
  cases conduct with
  | stays others =>
    cases played
    rfl
  | serves own rest => exact absurd (Conduct.eq_passed_of_serves played) notPassed

/-- A peer that sends no header for a result, and takes nothing after the challenge. -/
def deafPeer : Stream :=
  .ofSteps [⟨.data [0], 0, 0⟩, ⟨.data [33], 0, 1⟩] .ending
    { Outlet.free with failing := some (1, .nothing) }

/-- The deaf peer gets the challenge and no notice, and the stream is closed for it. -/
theorem handle_conversation_deaf : ∃ trace left outcome challenge notice,
    (easyGate.handle (fun _ => pure ()) .never).play deafPeer = (trace, some (outcome, left)) ∧
      outcome = .failed (.ofGate (.calculated (.malformed "!"))) ∧ ownPart trace = trace ∧
      Conversation easyGate deafPeer (ownPart trace) outcome challenge notice ∧
      notice = some internalErrorNotice ∧ written trace = Utf8.ofString easyChallenge := by
  have played : (easyGate.handle (fun _ => pure ()) .never).play deafPeer =
      (_, some (.failed (.ofGate (.calculated (.malformed "!"))), _)) := rfl
  obtain ⟨whole, challenge, notice, conversation⟩ := handle_conversation played
  refine ⟨_, _, _, challenge, notice, played, rfl, whole nofun, conversation, ?_, by decide⟩
  refine conversation.fitting.troubled.mpr ⟨_, rfl, by decide, ?_⟩
  rintro ⟨text, same, untold⟩
  obtain ⟨-, issued, issues, rfl⟩ := (conversation.challenge_eq_some_iff text).mp same
  cases issues
  exact untold ⟨by decide, rfl⟩

end Gate

end Hashgate
