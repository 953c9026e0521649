import Hashgate.Proofs.Gate.Race

/-! # How a session fails

A session at a gate fails in three ways only: no challenge is issued, or the stream breaks before there is
a result, or there is a result and it is no good.  And whenever the stream breaks, or there is a result
that is no good, the session does fail.

* `Breaks` — the stream breaks before there is a result.
* `Submitted` — a result has been read.
* `Asking.Finds.exists_answers` — a session goes by what it finds.
* `Breaks.exists_course`, `Submitted.exists_course` — what they lead to.
* `Course.fails` — the ways to fail.
-/

namespace Hashgate.Gate

open Session

variable {gate : Gate} {signal : Signal} {s : Stream} {conduct : Conduct} {failure : Failure}
  {octets : List UInt8}

/-! ## What the reads find -/

/-- The result is there in time, and this is what the read of it finds. -/
structure Asking.Finds (asking : Asking gate s) (signal : Signal)
    (found : Except IoError.Kind (List UInt8)) : Prop where
  notStopped : signal.precedes s.now = false
  greets_before_signal : NotAfter asking.greeted [signal.moment?]
  exists_answered : ∃ answered left, asking.asked.ready? = some answered ∧
    NotAfter answered [some asking.deadline, signal.moment?] ∧
    (asking.asked.advance answered).take readCapacity = (found, left)

/-- The stream breaks with an error before there is a result: the first message cannot be read, or the
challenge cannot be written or pushed out, or the result cannot be read. -/
inductive Breaks (gate : Gate) (signal : Signal) (s : Stream) : IoError → Prop
  | opening {greeted : Nat} {kind : IoError.Kind} {left : Stream} :
      signal.precedes s.now = false → s.ready? = some greeted → NotAfter greeted [signal.moment?] →
      (s.advance greeted).take readCapacity = (.error kind, left) →
      Breaks gate signal s (.ofKind kind)
  | challenge {greeted : Nat} {opening : List UInt8} {opened : Stream} {issued : Issued}
      {words : Trace} {e : IoError} {left : Stream} :
      signal.precedes s.now = false → s.ready? = some greeted → NotAfter greeted [signal.moment?] →
      (s.advance greeted).take readCapacity = (.ok opening, opened) →
      gate.config.issue gate.draw gate.generate = .ok issued →
      (say issued.header).play opened = (words, some (.error e, left)) → Breaks gate signal s e
  | result {asking : Asking gate s} {kind : IoError.Kind} : asking.Finds signal (.error kind) →
      Breaks gate signal s (.ofKind kind)

/-- The challenge has been said, and some octets have been read for a result. -/
def Submitted (gate : Gate) (signal : Signal) (s : Stream) (octets : List UInt8) : Prop :=
  octets ≠ [] ∧ ∃ asking : Asking gate s, asking.Finds signal (.ok octets)

/-! ## The ways to fail -/

theorem Conduct.Ends.unique {outcome other : Outcome} (ends : conduct.Ends outcome)
    (others : conduct.Ends other) : outcome = other := by
  cases ends with
  | stays =>
    cases others
    rfl
  | serves =>
    cases others
    rfl

/-- What the read of the result finds is what the session goes by. -/
theorem Asking.Finds.exists_answers {asking : Asking gate s}
    {found : Except IoError.Kind (List UInt8)} (finds : asking.Finds signal found) :
    ∃ answered left, (asking.asked.advance answered).take readCapacity = (found, left) ∧
      ∀ trace submission,
        Submits gate.verify asking.issued.header (asking.asked.advance answered) trace submission left →
          Course gate signal s (asking.answered trace submission left) := by
  obtain ⟨going, greets, answered, left, isReady, inTime, taken⟩ := finds
  refine ⟨answered, left, taken, fun trace submission submits => ?_⟩
  have course := asking.course_of_notAfter going greets (.answered isReady inTime submits)
  rwa [Conduct.after_after] at course

/-- What the read of the result finds leads to the outcome of the submission. -/
theorem Asking.Finds.exists_course {asking : Asking gate s}
    {found : Except IoError.Kind (List UInt8)} (finds : asking.Finds signal found) :
    ∃ answered left, (asking.asked.advance answered).take readCapacity = (found, left) ∧
      ∀ trace submission,
        Submits gate.verify asking.issued.header (asking.asked.advance answered) trace submission left →
          ∃ conduct, Course gate signal s conduct ∧ conduct.Ends submission.outcome := by
  obtain ⟨answered, left, taken, courses⟩ := finds.exists_answers
  refine ⟨answered, left, taken, fun trace submission submits => ⟨_, courses _ _ submits, ?_⟩⟩
  exact Conduct.ends_of_decidedAt ((decidedAt_concluded submission left).after _)

theorem Breaks.exists_course {e : IoError} (breaks : Breaks gate signal s e) :
    ∃ conduct, Course gate signal s conduct ∧ conduct.Ends (.failed (.ofGate (.transport e))) := by
  cases breaks with
  | opening going greets inTime opens =>
    refine ⟨_, .unheard going greets inTime opens, Conduct.ends_after.mpr ?_⟩
    exact Conduct.ends_of_decidedAt (decidedAt_of_speaks (speaks_reject _) nofun _)
  | challenge going greets inTime opens issues tells =>
    refine ⟨_, .heard going greets inTime opens (.unsaid issues tells),
      Conduct.ends_after.mpr (Conduct.ends_after.mpr ?_)⟩
    exact Conduct.ends_of_decidedAt (decidedAt_of_speaks (speaks_breakOff e) nofun _)
  | result finds =>
    obtain ⟨answered, left, taken, courses⟩ := finds.exists_course
    exact courses _ _ (.unread taken)

theorem Submitted.exists_course (submitted : Submitted gate signal s octets) :
    ∃ issued conduct, gate.config.issue gate.draw gate.generate = .ok issued ∧
      Course gate signal s conduct ∧
      conduct.Ends (submission (Utf8.toStringLossy octets)
        (gate.verify (Utf8.toStringLossy octets) issued.header)).outcome := by
  obtain ⟨nonempty, asking, finds⟩ := submitted
  obtain ⟨answered, left, taken, courses⟩ := finds.exists_course
  obtain ⟨conduct, course, ends⟩ := courses _ _ (.judged taken nonempty rfl)
  exact ⟨asking.issued, conduct, asking.issues, course, ends⟩

/-- How a session can fail. -/
inductive Fails (gate : Gate) (signal : Signal) (s : Stream) : Failure → Prop
  | unissued {error : GateError} : gate.config.issue gate.draw gate.generate = .error error →
      Fails gate signal s (.ofGate error)
  | broken {e : IoError} : Breaks gate signal s e → Fails gate signal s (.ofGate (.transport e))
  | rejected {octets : List UInt8} {issued : Issued} {failure : Failure} :
      Submitted gate signal s octets → gate.config.issue gate.draw gate.generate = .ok issued →
      (submission (Utf8.toStringLossy octets)
        (gate.verify (Utf8.toStringLossy octets) issued.header)).outcome = .failed failure →
      Fails gate signal s failure

theorem not_failed_of_giveUp : ¬ (Conduct.stays (giveUp.play s)).Ends (.failed failure) := by
  intro ends
  cases ends.unique (Conduct.ends_of_decidedAt (decidedAt_of_speaks speaks_giveUp nofun s))

theorem eq_of_reject {error : GateError}
    (ends : (Conduct.stays ((reject error).play s)).Ends (.failed failure)) :
    failure = .ofGate error := by
  cases ends.unique (Conduct.ends_of_decidedAt (decidedAt_of_speaks (speaks_reject error) nofun s))
  rfl

theorem Asking.fails (asking : Asking gate s) (going : signal.precedes s.now = false)
    (greets : NotAfter asking.greeted [signal.moment?])
    (awaits : Awaits gate asking.issued.header signal asking.asked conduct)
    (ends : conduct.Ends (.failed failure)) : Fails gate signal s failure := by
  cases awaits with
  | expired => exact absurd (Conduct.ends_after.mp ends) not_failed_of_giveUp
  | interrupted => exact absurd (Conduct.ends_after.mp ends) not_failed_of_giveUp
  | @answered answered trace submission left isReady inTime submits =>
    have outcome := (Conduct.ends_after.mp ends).unique
      (Conduct.ends_of_decidedAt (decidedAt_concluded submission left))
    cases submits with
    | unread taken =>
      cases outcome
      exact .broken (.result ⟨going, greets, answered, left, isReady, inTime, taken⟩)
    | ended => cases outcome
    | judged taken nonempty equal =>
      subst equal
      exact .rejected ⟨nonempty, asking, going, greets, answered, left, isReady, inTime, taken⟩ asking.issues
        outcome.symm

/-- There is no other way to fail. -/
theorem Course.fails (course : Course gate signal s conduct) (ends : conduct.Ends (.failed failure)) :
    Fails gate signal s failure := by
  -- A session that is not heard ends as timed out, or not at all.
  cases course with
  | stopped => exact absurd ends not_failed_of_giveUp
  | stalled => cases ends
  | interrupted => exact absurd ends not_failed_of_giveUp
  | unheard going greets inTime opens =>
    cases eq_of_reject (Conduct.ends_after.mp ends)
    exact .broken (.opening going greets inTime opens)
  | @heard greeted opening opened _ going greets inTime opens exchanges =>
    have ends := Conduct.ends_after.mp ends
    cases exchanges with
    | unissued unmade =>
      cases eq_of_reject (Conduct.ends_after.mp ends)
      exact .unissued unmade
    | @unsaid issued words e asked issues tells =>
      cases (Conduct.ends_after.mp ends).unique
        (Conduct.ends_of_decidedAt (decidedAt_of_speaks (speaks_breakOff e) nofun asked))
      exact .broken (.challenge going greets inTime opens issues tells)
    | @said issued words asked _ issues tells awaits =>
      let asking : Asking gate s :=
        { greeted, opening, opened, issued, words, asked, greets, opens, issues, tells }
      exact asking.fails going inTime awaits (Conduct.ends_after.mp ends)

end Hashgate.Gate
