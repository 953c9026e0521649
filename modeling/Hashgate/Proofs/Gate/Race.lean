import Hashgate.Proofs.Gate.Conversation
import Hashgate.Proofs.Session.Deafness

/-! # What decides a session

A gate waits for its peer twice, each time in a race.  The first wait can be cut short by the signal
alone, the second one by the signal or the deadline.  Whatever is first decides, and what comes later has
no effect: a message that is too late changes nothing of the session, and a deadline or a signal that is
too late changes nothing of what the message leads to.

* `Late` — nothing is there to be read until after some moment.
* `Asking` — a challenge that has been said, with the way there.
* `handle_race` — the race, from either start.
-/

namespace Hashgate.Gate

open Session

variable {gate other : Gate} {signal : Signal} {challenge : String} {s left : Stream}
  {conduct : Conduct} {moment : Nat}

/-! ## The moments of a race -/

/-- Nothing is there to be read until after some moment, if ever. -/
def Late (moment : Nat) (s : Stream) : Prop := ∀ ready, s.ready? = some ready → moment < ready

/-- A signal that comes after some moment, if ever. -/
def Later (moment : Nat) (signal : Signal) : Prop :=
  ∀ stop, signal.moment? = some stop → moment < stop

/-- The deadline or the signal, whichever is first. -/
def cutoff (deadline : Nat) (signal : Signal) : Nat :=
  match signal.moment? with
  | some stop => min deadline stop
  | none => deadline

theorem lt_cutoff_iff {deadline : Nat} :
    moment < cutoff deadline signal ↔ moment < deadline ∧ Later moment signal := by
  unfold cutoff Later
  cases signal.moment? with
  | none => simp
  | some stop => simp only [Nat.lt_min, Option.some.injEq, forall_eq']

theorem cutoff_cases (deadline : Nat) (signal : Signal) :
    cutoff deadline signal = deadline ∧ NotAfter deadline [signal.moment?] ∨
      ∃ stop, signal.moment? = some stop ∧ stop < deadline ∧ cutoff deadline signal = stop := by
  unfold cutoff
  cases signal.moment? with
  | none => exact .inl ⟨rfl, by simp [NotAfter]⟩
  | some stop =>
    by_cases early : stop < deadline
    · exact .inr ⟨stop, rfl, early, Nat.min_eq_right (Nat.le_of_lt early)⟩
    · have notEarly := Nat.not_lt.mp early
      exact .inl ⟨Nat.min_eq_left notEarly, by simpa [NotAfter] using notEarly⟩

theorem Later.le_cutoff {deadline : Nat} (later : Later moment signal) (before : moment ≤ deadline) :
    moment ≤ cutoff deadline signal := by
  obtain ⟨same, -⟩ | ⟨stop, given, -, same⟩ := cutoff_cases deadline signal
  · rw [same]
    exact before
  · rw [same]
    exact Nat.le_of_lt (later stop given)

theorem Later.precedes_eq_false (later : Later moment signal) : signal.precedes moment = false := by
  cases signal with
  | never => rfl
  | beforehand => exact absurd (later 0 rfl) (Nat.not_lt_zero moment)
  | given stop =>
    have after := later stop rfl
    simp only [Signal.precedes, decide_eq_false_iff_not]
    omega

theorem Later.mono {earlier : Nat} (later : Later moment signal) (le : earlier ≤ moment) :
    Later earlier signal := fun stop given => Nat.lt_of_le_of_lt le (later stop given)

theorem Later.notAfter (later : Later moment signal) : NotAfter moment [signal.moment?] :=
  fun stop member => Nat.le_of_lt (later stop (List.mem_singleton.mp member).symm)

theorem Later.notAfter_deadline {deadline : Nat} (later : Later moment signal)
    (before : moment < deadline) : NotAfter moment [some deadline, signal.moment?] := by
  intro other member
  obtain same | member := List.mem_cons.mp member
  · exact Option.some.inj same ▸ Nat.le_of_lt before
  · exact later.notAfter other member

theorem Conduct.after_after (earlier later : Trace) (conduct : Conduct) :
    (conduct.after later).after earlier = conduct.after (earlier ++ later) := by
  cases conduct <;> simp [Conduct.after]

/-! ## Giving up -/

theorem holdsOfSpeech_deaf : HoldsOfSpeech Deaf where
  pure := deaf_pure
  bind := Deaf.bind
  log := fun _ => deaf_log _
  attempt := fun _ => deaf_note _
  send := deaf_send
  flush := deaf_flush
  close := deaf_close

theorem exists_play_giveUp (s : Stream) : ∃ trace left,
    giveUp.play s = (trace, some (.timedOut, left)) ∧ left.now = s.now ∧ Quiet trace := by
  obtain ⟨trace, outcome, left, played, rfl, spoken⟩ := speaks_giveUp s
  obtain ⟨writes, rfl⟩ := spoken.left_eq
  exact ⟨trace, _, played, rfl, quiet_of_spoken spoken⟩

/-- A session that ends at some moment because its time is over, having done what its trace says. -/
def GivesUp (trace : Trace) (moment : Nat) (played : Trace × Option (Outcome × Stream)) : Prop :=
  ∃ left, played = (trace, some (.timedOut, left)) ∧ left.now = moment

/-- A session that is told to stop before its peer is heard. -/
theorem course_of_late {stop : Nat} (given : signal.moment? = some stop)
    (late : signal.precedes s.now = true ∨ Late stop s) :
    Course gate signal s (.stays (giveUp.play (s.advance stop))) := by
  cases going : signal.precedes s.now with
  | false =>
    obtain stopped | late := late
    · rw [going] at stopped
      cases stopped
    · exact .interrupted going given late
  | true =>
    -- The signal is in the past, so nobody waits for it.
    have past : max s.now stop = s.now := by
      cases signal with
      | never => cases given
      | beforehand =>
        cases given
        exact Nat.max_zero _
      | given moment =>
        cases given
        exact Nat.max_eq_left (Nat.le_of_lt (of_decide_eq_true going))
    have same : s.advance stop = s := by rw [Stream.advance, past]
    rw [same]
    exact .stopped going

/-! ## The challenge -/

/-- A challenge that has been said, with the way there: the first message is read, the generator makes
a challenge, and that is written as a whole and pushed out. -/
structure Asking (gate : Gate) (s : Stream) where
  /-- When the first message is there. -/
  greeted : Nat
  opening : List UInt8
  /-- The stream after the first message. -/
  opened : Stream
  issued : Issued
  /-- The acts of saying the challenge. -/
  words : Trace
  /-- The stream after the challenge. -/
  asked : Stream
  greets : s.ready? = some greeted
  opens : (s.advance greeted).take readCapacity = (.ok opening, opened)
  issues : gate.config.issue gate.draw gate.generate = .ok issued
  tells : (say issued.header).play opened = (words, some (.ok (), asked))

namespace Asking

variable (asking : Asking gate s)

/-- All that the gate has done by now. -/
def trace : Trace :=
  [((s.advance asking.greeted).now, .stream (.read asking.opening.length)),
    (asking.opened.now, .log (greeting asking.opening)), (asking.opened.now, .issue),
    (asking.opened.now, .log asking.issued.entry)] ++ asking.words

/-- When the gate stops to wait for the result. -/
def deadline : Nat := asking.asked.now + gate.config.patience

/-- Reading and writing take no time. -/
theorem now_asked : asking.asked.now = asking.greeted := by
  obtain ⟨writes, same⟩ := (saying_of_play asking.tells).spoken.left_eq
  rw [same, (Stream.outlet_now_of_take asking.opens).2, Stream.advance_now]
  exact Nat.max_eq_right (Stream.le_of_ready? asking.greets)

theorem quiet_trace : Quiet asking.trace := by
  have before : Quiet [((s.advance asking.greeted).now, .stream (.read asking.opening.length)),
      (asking.opened.now, .log (greeting asking.opening)), (asking.opened.now, .issue),
      (asking.opened.now, .log asking.issued.entry)] := by simp [Quiet, IsQuiet]
  exact before.append (quiet_of_spoken (saying_of_play asking.tells).spoken)

variable {asking}

/-- The same challenge is asked in the same way. -/
theorem trace_asked_eq {others : Asking other s} (same : others.issued = asking.issued) :
    others.trace = asking.trace ∧ others.asked = asking.asked := by
  obtain ⟨greeted, opening, opened, issued, words, asked, greets, opens, issues, tells⟩ := asking
  obtain ⟨_, _, _, _, _, _, otherGreets, otherOpens, _, otherTells⟩ := others
  cases same
  cases greets.symm.trans otherGreets
  cases opens.symm.trans otherOpens
  cases tells.symm.trans otherTells
  exact ⟨rfl, rfl⟩

theorem course_of_notAfter (going : signal.precedes s.now = false)
    (inTime : NotAfter asking.greeted [signal.moment?])
    (awaits : Awaits gate asking.issued.header signal asking.asked conduct) :
    Course gate signal s (conduct.after asking.trace) := by
  have whole := Course.heard going asking.greets inTime asking.opens
    (.said asking.issues asking.tells awaits)
  rwa [Conduct.after_after] at whole

theorem course (later : Later asking.greeted signal)
    (awaits : Awaits gate asking.issued.header signal asking.asked conduct) :
    Course gate signal s (conduct.after asking.trace) :=
  course_of_notAfter (later.mono (Stream.le_of_ready? asking.greets)).precedes_eq_false
    later.notAfter awaits

end Asking

/-! ## A result that is too late -/

/-- How a gate gives up on a result is the same for all streams on which nothing is there in time. -/
theorem exists_awaits_of_late (gate : Gate) (challenge : String) (signal : Signal) (deadline : Nat) :
    ∃ acts : List Act, (∀ act ∈ acts, IsQuiet act) ∧
      ∀ s : Stream, s.now + gate.config.patience = deadline → Late (cutoff deadline signal) s →
        Awaits gate challenge signal s
          ((Conduct.stays (giveUp.play (s.advance (cutoff deadline signal)))).after
            ((s.now, .lend) :: acts.map ((s.advance (cutoff deadline signal)).now, ·))) := by
  obtain ⟨same, others⟩ | ⟨stop, given, early, same⟩ := cutoff_cases deadline signal
  · refine ⟨[.expire, .giveBack, .log (Log.warn "PoW deadline exceeded"
      [("wait_ms", toString gate.config.waitMillis.toNat)])], by simp [IsQuiet], fun s ends late => ?_⟩
    rw [same] at late ⊢
    subst ends
    exact .expired late others
  · refine ⟨[.giveBack, .log (Log.warn "shutdown while waiting for PoW result" [])], by simp [IsQuiet],
      fun s ends late => ?_⟩
    rw [same] at late ⊢
    subst ends
    exact .interrupted given late early

/-- A session that gives up on a result is the same whatever would have come. -/
theorem Asking.exists_play_of_late (asking : Asking gate s) (later : Later asking.greeted signal) :
    ∃ trace, Quiet (asking.trace ++ trace) ∧
      ∀ (rest : Stream) (others : Asking gate rest), others.issued = asking.issued →
        others.trace = asking.trace → asking.asked.Alike others.asked →
        Late (cutoff asking.deadline signal) others.asked →
        ∀ next, GivesUp (asking.trace ++ trace) (cutoff asking.deadline signal)
          ((gate.handle next signal).play rest) := by
  obtain ⟨acts, quietly, awaits⟩ :=
    exists_awaits_of_late gate asking.issued.header signal asking.deadline
  obtain ⟨ending, left, ends, now, quiet⟩ :=
    exists_play_giveUp (asking.asked.advance (cutoff asking.deadline signal))
  have reached : asking.asked.now ≤ cutoff asking.deadline signal :=
    asking.now_asked.symm ▸ later.le_cutoff (asking.now_asked ▸ Nat.le_add_right _ _)
  rw [Stream.advance_now, Nat.max_eq_right reached] at now
  refine ⟨(asking.asked.now, .lend) :: acts.map (cutoff asking.deadline signal, ·) ++ ending, ?_, ?_⟩
  · have marks : Quiet ((asking.asked.now, .lend) :: acts.map (cutoff asking.deadline signal, ·)) := by
      simpa [Quiet, IsQuiet] using quietly
    exact asking.quiet_trace.append (marks.append quiet)
  · intro rest others issued same alike late next
    have greeted : others.greeted = asking.greeted := by
      rw [← asking.now_asked, ← others.now_asked, alike.now]
    have course := others.course (greeted ▸ later)
      (issued ▸ awaits others.asked (alike.now ▸ rfl) late)
    -- The end of the other session is that of this one, for it depends on nothing that is to be read.
    obtain ⟨words, outcome, _, otherLeft, played, otherPlayed, leftAlike⟩ :=
      holdsOfSpeech_deaf.giveUp _ _ (alike.advance (cutoff asking.deadline signal))
    rw [ends] at played
    cases played
    refine ⟨otherLeft, ?_, leftAlike.now ▸ now⟩
    rw [course.play_eq, Conduct.play_after, Conduct.play_after, Conduct.play_stays]
    rw [otherPlayed, same, Stream.advance_now, ← alike.now, Nat.max_eq_right reached]

/-! ## A result that is in time -/

/-- The moment at which a session that comes to some outcome is decided: it ends then, or the next
program gets the stream then. -/
inductive Conduct.DecidedAt (moment : Nat) : Outcome → Conduct → Prop
  | ends {trace : Trace} {outcome : Outcome} {left : Stream} : outcome ≠ .passed →
      left.now = moment → DecidedAt moment outcome (.stays (trace, some (outcome, left)))
  | serves {own : Trace} {left : Stream} : left.now = moment →
      DecidedAt moment .passed (.serves own left)

theorem Conduct.DecidedAt.after {outcome : Outcome} (decided : conduct.DecidedAt moment outcome)
    (earlier : Trace) : (conduct.after earlier).DecidedAt moment outcome := by
  cases decided with
  | ends unpassed now => exact .ends unpassed now
  | serves now => exact .serves now

theorem Conduct.ends_of_decidedAt {outcome : Outcome} (decided : conduct.DecidedAt moment outcome) :
    conduct.Ends outcome := by
  cases decided with
  | ends => exact .stays
  | serves => exact .serves

theorem decidedAt_of_speaks {x : Session Outcome} {outcome : Outcome}
    (speaks : Speaks x fun result => result = outcome) (unpassed : outcome ≠ .passed) (s : Stream) :
    (Conduct.stays (x.play s)).DecidedAt s.now outcome := by
  obtain ⟨trace, _, left, played, rfl, spoken⟩ := speaks s
  obtain ⟨writes, rfl⟩ := spoken.left_eq
  rw [played]
  exact .ends unpassed rfl

/-- A submission leads to its own outcome at once. -/
theorem decidedAt_concluded (submission : Submission) (s : Stream) :
    (concluded submission s).DecidedAt s.now submission.outcome := by
  by_cases good : submission.outcome = .passed
  · obtain ⟨header, rfl⟩ := Submission.outcome_eq_passed_iff.mp good
    exact .serves rfl
  · obtain ⟨header, rfl, -⟩ | ⟨stays, speaks⟩ := concluded_cases submission s
    · exact absurd rfl good
    · obtain ⟨trace, outcome, _, played, -, spoken⟩ := speaks s
      obtain ⟨_, _, parted, -⟩ := parts_conclude good s
      rw [played] at parted
      cases parted
      obtain ⟨writes, rfl⟩ := spoken.left_eq
      rw [stays, played]
      exact .ends good rfl

theorem Submits.now_eq {verify : Verifier} {trace : Trace} {submission : Submission}
    (submits : Submits verify challenge s trace submission left) : left.now = s.now := by
  cases submits with
  | unread taken => exact (Stream.outlet_now_of_take taken).2
  | ended taken => exact (Stream.outlet_now_of_take taken).2
  | judged taken => exact (Stream.outlet_now_of_take taken).2

/-- What a result that is there in time leads to. -/
def Asking.answered (asking : Asking gate s) (trace : Trace) (submission : Submission)
    (left : Stream) : Conduct :=
  (concluded submission left).after
    (asking.trace ++ ((asking.asked.now, .lend) :: trace ++ [(left.now, .giveBack)]))

/-- Neither the deadline nor the signal has a part in a session whose result is there in time. -/
theorem Asking.course_answered {asking : Asking gate s} {trace : Trace} {submission : Submission}
    {ready : Nat} (later : Later asking.greeted signal) (inTime : ready < cutoff asking.deadline signal)
    (isReady : asking.asked.ready? = some ready)
    (submits : Submits gate.verify asking.issued.header (asking.asked.advance ready) trace submission
      left) :
    Course gate signal s (asking.answered trace submission left) := by
  obtain ⟨beforeDeadline, beforeSignal⟩ := lt_cutoff_iff.mp inTime
  have awaits := Awaits.answered isReady (beforeSignal.notAfter_deadline beforeDeadline) submits
  have course := asking.course later awaits
  rwa [Conduct.after_after] at course

/-! ## The race -/

/-- A gate to which every result is good. -/
def mildGate : Gate := { easyGate with verify := fun _ _ => .judged .valid }

/-- A peer that asks after a millisecond, and needs four more for its result. -/
def slowPeer : Stream := .ofSteps [⟨.data [0], 1, 0⟩, ⟨.data [33], 5, 1⟩] .silence .free

def slowAsking : Asking mildGate slowPeer where
  greeted := 1
  opening := [0]
  opened := _
  issued := _
  words := _
  asked := _
  greets := rfl
  opens := rfl
  issues := rfl
  tells := rfl

end Hashgate.Gate
