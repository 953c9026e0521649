import Hashgate.Proofs.Gate.Blame

/-! # A result is good for one challenge

A result that is judged at all fixes all of its challenge but the counter.  So nobody can use a result
again at a gate that has asked for something else: the second gate finds that the result is not for it,
says so, and does not let the peer in, however the result is spelled and whatever the first gate made of
it.

* `judge_binds`, `judge_replayed` — a result against two challenges.
* `Replay` — two sessions in which the same octets are read for a result.
* `replay_mismatches` — what comes of the second one.
-/

namespace Hashgate

open Header (parse)

/-! ## Two challenges -/

section

variable {result first second : String} {judgement other : Judgement} {asked askedToo : Header}

/-- Whatever a result is judged against is one challenge, up to the counter, and has one verdict. -/
theorem judge_binds (judged : judge result first = .ok judgement)
    (judgedToo : judge result second = .ok other) :
    ∃ asked askedToo, parse first = .ok asked ∧ parse second = .ok askedToo ∧
      askedToo = { asked with counter := askedToo.counter } ∧ judgement = other := by
  obtain ⟨answer, asked, readAnswer, readAsked, same, verdict⟩ := judge_eq_ok_iff.mp judged
  obtain ⟨again, askedToo, readAgain, readAskedToo, sameToo, verdictToo⟩ :=
    judge_eq_ok_iff.mp judgedToo
  cases readAnswer.symm.trans readAgain
  refine ⟨asked, askedToo, readAsked, readAskedToo, ?_, verdict.symm.trans verdictToo⟩
  -- Both challenges are the answer with counters of their own.
  calc askedToo
    _ = { ({ askedToo with counter := answer.counter } : Header) with
          counter := askedToo.counter } := rfl
    _ = { answer with counter := askedToo.counter } := by rw [← sameToo]
    _ = { ({ asked with counter := answer.counter } : Header) with
          counter := askedToo.counter } := by rw [← same]
    _ = { asked with counter := askedToo.counter } := rfl

theorem Header.Differs.ne_counter (differs : asked.Differs askedToo) :
    askedToo ≠ { asked with counter := askedToo.counter } := by
  intro same
  rw [same] at differs
  simp [Differs] at differs

/-- A result that has been judged once does not belong to a challenge that asks for something else. -/
theorem judge_replayed (judged : judge result first = .ok judgement)
    (readAsked : parse first = .ok asked) (readAskedToo : parse second = .ok askedToo)
    (differs : asked.Differs askedToo) : judge result second = .error .mismatch := by
  obtain ⟨answer, _, readAnswer, -⟩ := judge_eq_ok_iff.mp judged
  by_cases foreign : answer.Differs askedToo
  · exact judge_of_differs readAnswer readAskedToo foreign
  · have judgedToo := judge_of_not_differs readAnswer readAskedToo foreign
    obtain ⟨_, _, readFirst, readSecond, same, -⟩ := judge_binds judged judgedToo
    cases readAsked.symm.trans readFirst
    cases readAskedToo.symm.trans readSecond
    exact absurd same differs.ne_counter

end

theorem GateError.kind_ne_verificationFailed (error : GateError) :
    error.kind ≠ .verificationFailed := by
  cases error with
  | transport e =>
    rw [GateError.kind]
    intro same
    split at same <;> cases same
  | _ =>
    intro same
    cases same

namespace Gate

open Session

variable {gate other : Gate} {signal later : Signal} {s rest : Stream} {result challenge : String}

/-! ## Two sessions -/

/-- A session comes to accept its result, or to find fault with nothing but the digest. -/
def Judged (played : Trace × Option (Outcome × Stream)) : Prop :=
  (∃ left, played.2 = some (.passed, left)) ∨ FailsAs .verificationFailed played

/-- Such an outcome comes of a result that was judged. -/
theorem exists_judge_eq_ok {outcome : Outcome}
    (same : outcome = (submission result (Verifier.standard result challenge)).outcome)
    (judged : outcome = .passed ∨
      ∃ failure, outcome = .failed failure ∧ failure.kind = .verificationFailed) :
    ∃ judgement, judge result challenge = .ok judgement := by
  unfold Verifier.standard at same
  cases verdict : judge result challenge with
  | ok judgement => exact ⟨judgement, rfl⟩
  | error e =>
    rw [verdict] at same
    obtain rfl | ⟨failure, rfl, kind⟩ := judged
    · cases same
    · cases same
      exact absurd kind e.kind_ne_verificationFailed

/-- Two sessions at gates that go by the digest.  Their challenges ask for different things, and the same
octets are read for a result before the deadline and the signal of each. -/
structure Replay (gate other : Gate) (signal later : Signal) (s rest : Stream) where
  asking : Asking gate s
  others : Asking other rest
  asked : Header
  askedToo : Header
  octets : List UInt8
  standard : gate.verify = .standard
  standardToo : other.verify = .standard
  readAsked : parse asking.issued.header = .ok asked
  readAskedToo : parse others.issued.header = .ok askedToo
  differ : asked.bits ≠ askedToo.bits ∨ asked.date ≠ askedToo.date ∨
    asked.resource ≠ askedToo.resource ∨ asked.random ≠ askedToo.random
  finds : asking.Finds signal (.ok octets)
  findsToo : others.Finds later (.ok octets)

/-- The first session has judged its result. -/
theorem Asking.Finds.exists_judge_eq_ok {asking : Asking gate s} {octets : List UInt8} {next : Handler}
    (standard : gate.verify = .standard) (finds : asking.Finds signal (.ok octets))
    (judged : Judged ((gate.handle next signal).play s)) :
    octets ≠ [] ∧
      ∃ judgement, judge (Utf8.toStringLossy octets) asking.issued.header = .ok judgement := by
  obtain ⟨answered, left, taken, courses⟩ := finds.exists_course
  have outcomes {submission : Submission} {conduct : Conduct}
      (course : Course gate signal s conduct) (ends : conduct.Ends submission.outcome) :
      submission.outcome = .passed ∨
        ∃ failure, submission.outcome = .failed failure ∧ failure.kind = .verificationFailed := by
    rw [course.play_eq] at judged
    obtain ⟨left, passed⟩ | ⟨failure, left, failed, kind⟩ := judged
    · exact .inl (ends.unique (Conduct.ends_of_play (Prod.ext rfl passed)))
    · exact .inr ⟨failure, ends.unique (Conduct.ends_of_play (Prod.ext rfl failed)), kind⟩
  by_cases empty : octets = []
  · subst empty
    obtain ⟨conduct, course, ends⟩ := courses _ _ (.ended taken)
    obtain impossible | ⟨failure, impossible, -⟩ := outcomes course ends <;> cases impossible
  · obtain ⟨conduct, course, ends⟩ := courses _ _ (.judged taken empty rfl)
    have outcome := outcomes course ends
    rw [standard] at outcome
    exact ⟨empty, Gate.exists_judge_eq_ok rfl outcome⟩

/-- A result that does not belong to the challenge. -/
theorem Asking.Finds.exists_play_of_mismatch {asking : Asking gate s} {octets : List UInt8}
    (finds : asking.Finds signal (.ok octets)) (nonempty : octets ≠ [])
    (foreign : gate.verify (Utf8.toStringLossy octets) asking.issued.header = .refused .mismatch) :
    ∃ trace left, (∀ next : Handler, (gate.handle next signal).play s =
        (trace, some (.failed (.ofGate .mismatch), left))) ∧
      attempts trace = [asking.issued.header, verificationFailedNotice] ∧
      ∀ mark ∈ trace, mark.2 ≠ .handOver := by
  obtain ⟨answered, left, taken, courses⟩ := finds.exists_answers
  obtain ⟨words, submits⟩ : ∃ words, Submits gate.verify asking.issued.header
      (asking.asked.advance answered) words (.failed .mismatch) left := by
    have judged : Submits gate.verify asking.issued.header (asking.asked.advance answered) _ _ left :=
      .judged taken nonempty rfl
    rw [foreign] at judged
    exact ⟨_, judged⟩
  have course := courses _ _ submits
  have kept := course.disciplined.orderly.ne_handOver
  -- What is said is the challenge, nothing while the result is read, and the notice.
  obtain ⟨ending, last, ends, talk⟩ := parts_reject .mismatch left
  have concludes : concluded (.failed .mismatch) left =
      .stays (ending, some (.failed (.ofGate .mismatch), last)) := congrArg Conduct.stays ends
  have asks : attempts asking.trace = [asking.issued.header] := by
    simp [Asking.trace, (talk_of_say asking.tells).attempts_eq, Act.message?]
  have silent := submits.counts.2.2.attempts_eq
  rw [Asking.answered, concludes] at course kept
  refine ⟨_, last, fun next => course.play_eq next, ?_, kept⟩
  simp [asks, silent, talk.attempts_eq, Act.message?, GateError.notice]

/-- **A result is good for one challenge.**  If a result is judged against two challenges, they differ at
most in the counter and the verdicts are the same.  So if the same octets are the result of two sessions
whose challenges ask for different things, and one of the gates accepts it or finds only its digest too
short, the other one fails because it is not the result for it.  That gate says so to its peer, and hands
the stream to nobody. -/
theorem replay_mismatches :
    (∀ result first second judgement other, judge result first = .ok judgement →
      judge result second = .ok other →
      ∃ asked askedToo, parse first = .ok asked ∧ parse second = .ok askedToo ∧
        askedToo = { asked with counter := askedToo.counter } ∧ judgement = other) ∧
    ∀ {gate other : Gate} {signal later : Signal} {s rest : Stream}
      (replay : Replay gate other signal later s rest) (next : Handler),
      Judged ((gate.handle next signal).play s) →
      ∃ failure trace left, failure.kind = .challengeMismatch ∧
        (∀ nextToo : Handler,
          (other.handle nextToo later).play rest = (trace, some (.failed failure, left))) ∧
        attempts trace = [replay.others.issued.header, verificationFailedNotice] ∧
        ∀ mark ∈ trace, mark.2 ≠ .handOver := by
  refine ⟨fun _ _ _ _ _ => judge_binds, ?_⟩
  intro gate other signal later s rest replay next judged
  obtain ⟨nonempty, judgement, first⟩ := replay.finds.exists_judge_eq_ok replay.standard judged
  have second := judge_replayed first replay.readAsked replay.readAskedToo replay.differ
  have foreign : other.verify (Utf8.toStringLossy replay.octets) replay.others.issued.header =
      .refused .mismatch := by
    rw [replay.standardToo, Verifier.standard, second]
  obtain ⟨trace, left, plays, tells, kept⟩ := replay.findsToo.exists_play_of_mismatch nonempty foreign
  exact ⟨.ofGate .mismatch, trace, left, rfl, plays, tells, kept⟩

/-- The easy challenge with another resource. -/
def foreignChallenge : String := "1:8:2402291200:s::n:MA=="

def foreignGate : Gate := { easyGate with generate := fun _ _ => .ok foreignChallenge }

theorem parse_foreignChallenge :
    parse foreignChallenge = .ok ⟨1, 8, "2402291200", "s", "n", 0⟩ := rfl

/-- Whatever a gate asks of it, the easy peer answers with the easy result. -/
theorem exists_finds_easyPeer {issued : Issued}
    (issues : gate.config.issue gate.draw gate.generate = .ok issued)
    (nonempty : Utf8.ofString issued.header ≠ []) :
    ∃ asking : Asking gate easyPeer, asking.issued = issued ∧
      asking.Finds .never (.ok (Utf8.ofString easyResult)) := by
  let asking : Asking gate easyPeer := {
    greeted := 0
    opening := [0]
    opened := _
    issued := issued
    words := _
    asked := _
    greets := rfl
    opens := rfl
    issues := issues
    tells := play_say_free rfl nonempty }
  exact ⟨asking, rfl, {
    notStopped := rfl
    greets_before_signal := by simp [NotAfter, Signal.moment?]
    exists_answered := ⟨0, _, rfl, by simp [NotAfter, Signal.moment?], rfl⟩ }⟩

/-- The easy peer, at the easy gate and at another one. -/
theorem exists_easyReplay :
    ∃ replay : Replay easyGate foreignGate .never .never easyPeer easyPeer,
      replay.others.issued.header = foreignChallenge := by
  have issues : easyGate.config.issue easyGate.draw easyGate.generate =
      .ok ⟨easyChallenge, _, _⟩ := rfl
  have issuesToo : foreignGate.config.issue foreignGate.draw foreignGate.generate =
      .ok ⟨foreignChallenge, _, _⟩ := rfl
  obtain ⟨asking, asks, finds⟩ :=
    exists_finds_easyPeer issues (by decide : Utf8.ofString easyChallenge ≠ [])
  obtain ⟨others, asksToo, findsToo⟩ :=
    exists_finds_easyPeer issuesToo (by decide : Utf8.ofString foreignChallenge ≠ [])
  have header : asking.issued.header = easyChallenge := by rw [asks]
  have headerToo : others.issued.header = foreignChallenge := by rw [asksToo]
  exact ⟨{
    asking := asking
    others := others
    asked := _
    askedToo := _
    octets := Utf8.ofString easyResult
    standard := rfl
    standardToo := rfl
    readAsked := header ▸ parse_easyChallenge
    readAskedToo := headerToo ▸ parse_foreignChallenge
    differ := by decide
    finds := finds
    findsToo := findsToo }, headerToo⟩

theorem judged_easyPeer : Judged ((easyGate.handle (fun _ => pure ()) .never).play easyPeer) := by
  obtain ⟨own, course⟩ := easyPassage.exists_course
  rw [course.play_eq]
  exact .inl ⟨_, rfl⟩

/-- What lets the easy peer in at the easy gate does not let it in at the other one. -/
theorem replay_mismatches_easy :
    judge easyResult easyChallenge = .ok .valid ∧ judge easyResult easyResult = .ok .valid ∧
    Judged ((easyGate.handle (fun _ => pure ()) .never).play easyPeer) ∧
    ∃ failure trace left, failure.kind = .challengeMismatch ∧
      (foreignGate.handle (fun _ => pure ()) .never).play easyPeer =
        (trace, some (.failed failure, left)) ∧
      attempts trace = [foreignChallenge, verificationFailedNotice] := by
  obtain ⟨bound, replays⟩ := replay_mismatches
  have first : judge easyResult easyChallenge = .ok .valid := Header.judge_of_mine mine_easyChallenge
  have second := judge_of_not_differs parse_easyResult parse_easyResult (by simp [Header.Differs])
  obtain ⟨_, _, _, _, _, verdict⟩ := bound _ _ _ _ _ first second
  obtain ⟨replay, asks⟩ := exists_easyReplay
  obtain ⟨failure, trace, left, kind, plays, tells, -⟩ :=
    replays replay (fun _ => pure ()) judged_easyPeer
  rw [asks] at tells
  rw [← verdict] at second
  exact ⟨first, second, judged_easyPeer, failure, trace, left, kind, plays _, tells⟩

end Gate

end Hashgate
