import Hashgate.Downstream
import Hashgate.Proofs.Gate.Race

/-! # Gates one behind the other

A chain of gates holds the conversations of its gates, one after the other.  Each gate does what it would
do with nobody behind it, on the stream as the gate before has left it, and whoever is innermost gets the
stream only after all the gates in turn have let the peer through.  What the first gate makes of its
session it makes of it alone.

* `HandsOver`, `Keeps` — the two ends of a session at one gate.
* `Relay` — how far the stream gets, and what each gate does on the way.
* `Relay.play_chain` — a chain plays as its relay says.
* `Passages` — the way through all gates.
* `chain_composes` — the chain as a whole.
-/

namespace Hashgate.Gate

open Session

variable {gate : Gate} {gates : List Gate} {signal : Signal} {s left : Stream} {trace : Trace}

/-! ## What a gate does to its stream -/

theorem accounts_conclude {next : Session Unit} (accounts : Accounts next) (submission : Submission) :
    Accounts (conclude next submission) := by
  cases submission with
  | disconnected =>
    exact (accounts_log _).bind fun _ => holdsOfSpeech_accounts.hangUp.bind fun _ => accounts_pure _
  | verified header valid =>
    cases valid with
    | true =>
      exact (accounts_log _).bind fun _ => (accounts_note rfl).bind fun _ =>
        accounts.bind fun _ => accounts_pure _
    | false =>
      exact (accounts_log _).bind fun _ => (holdsOfSpeech_accounts.dismiss _).bind fun _ => accounts_pure _
  | failed e => exact holdsOfSpeech_accounts.reject (accounts_log _)
  | lost =>
    exact (accounts_log _).bind fun _ => (holdsOfSpeech_accounts.dismiss _).bind fun _ => accounts_pure _

theorem accounts_submit (verify : Verifier) (challenge : String) (octets : List UInt8) :
    Accounts (submit verify challenge octets) := by
  refine (accounts_log _).bind fun _ => (accounts_note rfl).bind fun _ => ?_
  cases verify (Utf8.toStringLossy octets) challenge with
  | judged judgement => exact (accounts_logAll _).bind fun _ => accounts_pure _
  | refused e => exact accounts_pure _
  | died => exact accounts_pure _

theorem accounts_awaitSubmission (verify : Verifier) (challenge : String) :
    Accounts (awaitSubmission verify challenge) := by
  refine (accounts_receive _).bind fun found => ?_
  cases found with
  | error e => exact accounts_pure _
  | ok octets =>
    cases octets with
    | nil => exact accounts_pure _
    | cons octet rest => exact accounts_submit _ _ _

theorem accounts_awaitResult {next : Session Unit} (accounts : Accounts next) (gate : Gate)
    (challenge : String) (signal : Signal) : Accounts (gate.awaitResult challenge signal next) := by
  refine (accounts_note rfl).bind fun _ => accounts_now.bind fun _ => accounts_ready?.bind fun _ =>
    (accounts_awaitFirst _).bind fun wake => ?_
  cases wake with
  | deadline =>
    exact (accounts_note rfl).bind fun _ => (accounts_note rfl).bind fun _ =>
      (accounts_log _).bind fun _ => holdsOfSpeech_accounts.giveUp
  | signal =>
    exact (accounts_note rfl).bind fun _ => (accounts_log _).bind fun _ => holdsOfSpeech_accounts.giveUp
  | message =>
    exact (accounts_awaitSubmission _ _).bind fun submission =>
      (accounts_note rfl).bind fun _ => accounts_conclude accounts submission

theorem accounts_exchange {next : Session Unit} (accounts : Accounts next) (gate : Gate)
    (signal : Signal) : Accounts (gate.exchange signal next) := by
  refine (accounts_note rfl).bind fun _ => ?_
  cases gate.config.issue gate.draw gate.generate with
  | error e => exact holdsOfSpeech_accounts.reject (accounts_log _)
  | ok issued =>
    refine (accounts_log _).bind fun _ => (holdsOfSpeech_accounts.say _).bind fun said => ?_
    cases said with
    | error e =>
      exact (accounts_log _).bind fun _ => holdsOfSpeech_accounts.hangUp.bind fun _ => accounts_pure _
    | ok _ => exact accounts_awaitResult accounts gate _ signal

theorem accounts_greet {next : Session Unit} (accounts : Accounts next) (gate : Gate)
    (signal : Signal) : Accounts (gate.greet signal next) := by
  refine (accounts_receive _).bind fun found => ?_
  cases found with
  | error e => exact holdsOfSpeech_accounts.reject (accounts_log _)
  | ok octets =>
    -- The first message is logged in one of two ways, and then the exchange begins.
    cases octets with
    | nil => exact (accounts_log _).bind fun _ => accounts_exchange accounts gate signal
    | cons => exact (accounts_log _).bind fun _ => accounts_exchange accounts gate signal

theorem accounts_handle {next : Handler} (accounts : Accounts (next signal)) (gate : Gate) :
    Accounts (gate.handle next signal) := by
  refine accounts_now.bind fun moment => ?_
  split
  · exact holdsOfSpeech_accounts.giveUp
  · refine accounts_ready?.bind fun _ => (accounts_awaitFirst _).bind fun wake => ?_
    cases wake with
    | message => exact accounts_greet accounts gate signal
    | signal => exact holdsOfSpeech_accounts.giveUp
    | deadline => exact holdsOfSpeech_accounts.giveUp

/-! ## One gate -/

/-- A session at a gate that nobody stands behind. -/
def alone (gate : Gate) (signal : Signal) (s : Stream) : Trace × Option (Outcome × Stream) :=
  (gate.handle (fun _ => pure ()) signal).play s

/-- A gate that hands the stream over, and does so last of all.  Its trace accounts for what it has done
to the stream, and what is still to be read is what comes after its two messages. -/
structure HandsOver (gate : Gate) (signal : Signal) (s : Stream) (trace : Trace) (left : Stream) :
    Prop where
  alone_eq : gate.alone signal s = (trace, some (.passed, left))
  last : ∃ own, trace = own ++ [(left.now, .handOver)] ∧ ∀ mark ∈ own, mark.2 ≠ .handOver
  accounted : Accounted s trace left
  passage : ∃ passage : Passage gate signal s, passage.left = left ∧
    s.unread = passage.opening ++ passage.result ++ left.unread

/-- A gate with which the session stays. -/
structure Keeps (gate : Gate) (signal : Signal) (s : Stream) (trace : Trace)
    (ended : Option (Outcome × Stream)) : Prop where
  alone_eq : gate.alone signal s = (trace, ended)
  kept : ∀ mark ∈ trace, mark.2 ≠ .handOver
  unpassed : ∀ outcome left, ended = some (outcome, left) → outcome ≠ .passed
  blocked : ¬ Nonempty (Passage gate signal s)

/-- Two messages are read on the way through a gate, one after the other. -/
theorem Passage.unread_eq (passage : Passage gate signal s) :
    s.unread = passage.opening ++ passage.result ++ passage.left.unread := by
  have opening : (s.advance passage.greeted).unread = passage.opening ++ passage.opened.unread :=
    Stream.unread_of_take passage.opens
  have result : (passage.asked.advance passage.answered).unread =
      passage.result ++ passage.left.unread := Stream.unread_of_take passage.reads
  -- Nothing is read between the two messages.
  obtain ⟨writes, said⟩ := (saying_of_play passage.tells).spoken.left_eq
  have waiting : passage.opened.unread = (passage.asked.advance passage.answered).unread := by
    rw [said]
    rfl
  rw [waiting, result, ← List.append_assoc] at opening
  exact opening

theorem Passage.left_unique (passage other : Passage gate signal s) : passage.left = other.left := by
  obtain ⟨_, course⟩ := passage.exists_course
  obtain ⟨_, others⟩ := other.exists_course
  exact (Conduct.serves.inj (course.unique others)).2

/-- Whoever stands behind a gate adds to what it does alone, and only if it hands the stream over. -/
theorem handsOver_or_keeps (gate : Gate) (signal : Signal) (s : Stream) :
    (∃ trace left, HandsOver gate signal s trace left ∧ ∀ next : Handler,
      (gate.handle next signal).play s = (trace ++ ((next signal).play left).1,
        ((next signal).play left).2.map fun ended => (.passed, ended.2))) ∨
    ∃ trace ended, Keeps gate signal s trace ended ∧ ∀ next : Handler,
      (gate.handle next signal).play s = (trace, ended) := by
  obtain ⟨conduct, course⟩ := exists_course gate signal s
  obtain ⟨orderly, unpassed⟩ := course.disciplined
  cases conduct with
  | serves own left =>
    have alone : gate.alone signal s =
        (own ++ [(left.now, .handOver)], some (.passed, left)) := course.play_eq _
    obtain ⟨passage, same⟩ := course.exists_passage
    refine .inl ⟨own ++ [(left.now, .handOver)], left, ?_, fun next => ?_⟩
    · exact {
        alone_eq := alone
        last := ⟨own, rfl, orderly.ne_handOver⟩
        accounted := accounts_handle (accounts_pure ()) gate s _ _ _ alone
        passage := ⟨passage, same, same ▸ passage.unread_eq⟩ }
    · rw [course.play_eq, Conduct.play_serves, List.append_assoc, List.singleton_append]
  | stays played =>
    obtain ⟨trace, ended⟩ := played
    refine .inr ⟨trace, ended, ?_, course.play_eq⟩
    exact {
      alone_eq := course.play_eq _
      kept := orderly.ne_handOver
      unpassed := fun outcome left same => unpassed trace outcome left (same ▸ rfl)
      blocked := by
        rintro ⟨passage⟩
        obtain ⟨_, served⟩ := passage.exists_course
        cases course.unique served }

/-! ## The relay -/

/-- How far a stream gets. -/
inductive Reached where
  /-- It stays with some gate, where the session may come to an end. -/
  | gate (ended : Option Stream)
  /-- The innermost program gets it. -/
  | innermost (left : Stream)

/-- What the innermost program does, if the stream gets there. -/
def Reached.play (innermost : Session Unit) : Reached → Trace × Option (Unit × Stream)
  | .gate ended => ([], ended.map fun left => ((), left))
  | .innermost left => innermost.play left

/-- How a stream goes through a chain of gates: the trace of each gate that gets it, in order, and how
far it gets.  Each gate starts on the stream that the one before has left, and hears the same signal. -/
inductive Relay (signal : Signal) : List Gate → Stream → List Trace → Reached → Prop
  | through {s : Stream} : Relay signal [] s [] (.innermost s)
  | on {gate : Gate} {gates : List Gate} {s left : Stream} {trace : Trace} {traces : List Trace}
      {reached : Reached} : HandsOver gate signal s trace left →
      Relay signal gates left traces reached →
      Relay signal (gate :: gates) s (trace :: traces) reached
  | held {gate : Gate} {gates : List Gate} {s : Stream} {trace : Trace}
      {ended : Option (Outcome × Stream)} : Keeps gate signal s trace ended →
      Relay signal (gate :: gates) s [trace] (.gate (ended.map Prod.snd))

variable {traces : List Trace} {reached : Reached}

theorem exists_relay (gates : List Gate) (signal : Signal) (s : Stream) :
    ∃ traces reached, Relay signal gates s traces reached := by
  induction gates generalizing s with
  | nil => exact ⟨[], _, .through⟩
  | cons gate gates ih =>
    obtain ⟨trace, left, hands, -⟩ | ⟨trace, ended, keeps, -⟩ := handsOver_or_keeps gate signal s
    · obtain ⟨traces, reached, relay⟩ := ih left
      exact ⟨trace :: traces, reached, .on hands relay⟩
    · exact ⟨[trace], _, .held keeps⟩

/-- A trace that nobody but the log sees. -/
def Logged (trace : Trace) : Prop := ∀ mark ∈ trace, ∃ entry, mark.2 = .log entry

theorem Logged.append {later : Trace} (logged : Logged trace) (others : Logged later) :
    Logged (trace ++ later) := List.forall_mem_append.mpr ⟨logged, others⟩

theorem logged_farewells (start : Nat) (ended : Option (Outcome × Stream)) :
    Logged (farewells start ended) := by
  cases ended with
  | none => exact nofun
  | some ended =>
    intro mark member
    cases List.mem_singleton.mp member
    exact ⟨_, rfl⟩

theorem Logged.events_eq (logged : Logged trace) : events trace = [] := by
  refine List.filterMap_eq_nil_iff.mpr fun mark member => ?_
  obtain ⟨entry, act⟩ := logged mark member
  rw [act]
  rfl

theorem HandsOver.play_eq (hands : HandsOver gate signal s trace left) (next : Handler) :
    (gate.handle next signal).play s = (trace ++ ((next signal).play left).1,
      ((next signal).play left).2.map fun ended => (.passed, ended.2)) := by
  obtain ⟨_, _, others, plays⟩ | ⟨_, ended, keeps, -⟩ := handsOver_or_keeps gate signal s
  · cases hands.alone_eq.symm.trans others.alone_eq
    exact plays next
  · have same := keeps.alone_eq.symm.trans hands.alone_eq
    exact absurd rfl (keeps.unpassed .passed left (congrArg Prod.snd same))

theorem Keeps.play_eq {ended : Option (Outcome × Stream)} (keeps : Keeps gate signal s trace ended)
    (next : Handler) : (gate.handle next signal).play s = (trace, ended) := by
  obtain ⟨_, _, hands, -⟩ | ⟨_, _, others, plays⟩ := handsOver_or_keeps gate signal s
  · have same := keeps.alone_eq.symm.trans hands.alone_eq
    exact absurd rfl (keeps.unpassed .passed _ (congrArg Prod.snd same))
  · cases keeps.alone_eq.symm.trans others.alone_eq
    exact plays next

/-- A chain plays as its relay says, and then each gate that has handed the stream over notes the end. -/
theorem Relay.play_chain (relay : Relay signal gates s traces reached) (innermost : Handler) :
    ∃ entries, Logged entries ∧ (chain gates innermost signal).play s =
      (traces.flatten ++ (reached.play (innermost signal)).1 ++ entries,
        (reached.play (innermost signal)).2) := by
  induction relay with
  | through => exact ⟨[], nofun, by simp [chain, Reached.play]⟩
  | @on gate gates s left trace traces reached hands relay ih =>
    obtain ⟨entries, logged, plays⟩ := ih
    generalize reached.play (innermost signal) = inner at plays ⊢
    obtain ⟨told, ended⟩ := inner
    refine ⟨entries ++ farewells s.now (ended.map fun last => (.passed, last.2)),
      logged.append (logged_farewells _ _), ?_⟩
    change (gate.serve (chain gates innermost) signal).play s = _
    rw [play_serve, hands.play_eq, plays]
    simp [Function.comp_def]
  | @held gate gates s trace ended keeps =>
    refine ⟨farewells s.now ended, logged_farewells _ _, ?_⟩
    change (gate.serve (chain gates innermost) signal).play s = _
    rw [play_serve, keeps.play_eq]
    simp [Reached.play, Function.comp_def]

/-! ## The way through all gates -/

/-- The way through some gates, of which each lets the peer through on the stream that the one before
has left. -/
inductive Passages (signal : Signal) : List Gate → Stream → Stream → Prop
  | nil {s : Stream} : Passages signal [] s s
  | cons {gate : Gate} {gates : List Gate} {s left : Stream} (passage : Passage gate signal s) :
      Passages signal gates passage.left left → Passages signal (gate :: gates) s left

theorem Relay.reached_eq_iff (relay : Relay signal gates s traces reached) :
    reached = .innermost left ↔ Passages signal gates s left := by
  induction relay with
  | through =>
    constructor
    · rintro ⟨⟩
      exact .nil
    · rintro ⟨⟩
      rfl
  | on hands relay ih =>
    obtain ⟨passage, rfl, -⟩ := hands.passage
    rw [ih]
    constructor
    · exact .cons passage
    · intro passages
      cases passages with
      | cons other passages => rwa [passage.left_unique other]
  | held keeps =>
    refine ⟨nofun, fun passages => ?_⟩
    cases passages with
    | cons passage => exact absurd ⟨passage⟩ keeps.blocked

/-! ## The chain as a whole -/

theorem events_flatten (traces : List Trace) :
    events traces.flatten = (traces.map events).flatten := List.filterMap_flatten

/-- The session of the first gate ends if the relay does, with the outcome that it has alone. -/
theorem Relay.play_handle {first : Gate} {rest : List Gate}
    (relay : Relay signal (first :: rest) s traces reached) (innermost : Handler) :
    ∃ entries, Logged entries ∧ (first.handle (chain rest innermost) signal).play s =
      (traces.flatten ++ (reached.play (innermost signal)).1 ++ entries,
        (reached.play (innermost signal)).2.bind fun ended =>
          (first.alone signal s).2.map fun own => (own.1, ended.2)) := by
  cases relay with
  | on hands relay =>
    obtain ⟨entries, logged, plays⟩ := relay.play_chain innermost
    refine ⟨entries, logged, ?_⟩
    rw [hands.play_eq, plays, hands.alone_eq]
    generalize reached.play (innermost signal) = inner
    obtain ⟨told, ended⟩ := inner
    cases ended <;> simp
  | @held _ _ _ trace ended keeps =>
    refine ⟨[], nofun, ?_⟩
    rw [keeps.play_eq, keeps.alone_eq]
    cases ended <;> simp [Reached.play]

/-- **Gates compose.**  A chain of gates does what each of its gates does alone, one after the other: each
begins on the stream as the gate before has left it, at the moment when it was handed over and under the
same signal, and no octet is lost or read twice on the way.  The innermost program gets the stream exactly
if every gate in turn has found the second message that it read a good answer to its own challenge.  And
whatever becomes of the stream, the outcome of the first gate is the one that it has alone. -/
theorem chain_composes (first : Gate) (rest : List Gate) (signal : Signal) (s : Stream) :
    ∃ traces reached, Relay signal (first :: rest) s traces reached ∧
      (∀ innermost : Handler,
        events ((first.handle (chain rest innermost) signal).play s).1 =
          (traces.map events).flatten ++ events (reached.play (innermost signal)).1 ∧
        events ((chain (first :: rest) innermost signal).play s).1 =
          (traces.map events).flatten ++ events (reached.play (innermost signal)).1) ∧
      (∀ innermost : Handler, ∃ entries, Logged entries ∧
        (first.handle (chain rest innermost) signal).play s =
          (traces.flatten ++ (reached.play (innermost signal)).1 ++ entries,
            (reached.play (innermost signal)).2.bind fun ended =>
              (first.alone signal s).2.map fun own => (own.1, ended.2))) ∧
      (∀ left, reached = .innermost left ↔ Passages signal (first :: rest) s left) ∧
      ((first.alone signal s).2.map Prod.fst = some .passed ↔
        ∃ trace left, HandsOver first signal s trace left) := by
  obtain ⟨traces, reached, relay⟩ := exists_relay (first :: rest) signal s
  refine ⟨traces, reached, relay, fun innermost => ⟨?_, ?_⟩, relay.play_handle,
    fun left => relay.reached_eq_iff, ?_⟩
  · obtain ⟨entries, logged, plays⟩ := relay.play_handle innermost
    rw [plays, events_append, events_append, logged.events_eq, List.append_nil, events_flatten]
  · obtain ⟨entries, logged, plays⟩ := relay.play_chain innermost
    rw [plays, events_append, events_append, logged.events_eq, List.append_nil, events_flatten]
  · obtain ⟨trace, left, hands, -⟩ | ⟨trace, ended, keeps, -⟩ := handsOver_or_keeps first signal s
    · rw [hands.alone_eq]
      exact ⟨fun _ => ⟨trace, left, hands⟩, fun _ => rfl⟩
    · rw [keeps.alone_eq]
      constructor
      · intro passed
        obtain ⟨⟨outcome, left⟩, rfl, rfl⟩ := Option.map_eq_some_iff.mp passed
        exact absurd rfl (keeps.unpassed _ _ rfl)
      · rintro ⟨_, left, hands⟩
        exact absurd ⟨hands.passage.choose⟩ keeps.blocked

/-- A peer that answers two gates, the second of them only after four milliseconds, and says one thing
more than they read. -/
def twicePeer : Stream :=
  .ofSteps [⟨.data [0], 0, 0⟩, ⟨.data [33], 0, 1⟩, ⟨.data [0, 0], 0, 1⟩, ⟨.data [33], 4, 2⟩,
    ⟨.data [7], 0, 0⟩] .silence .free

/-- Behind two gates an echo has nothing to repeat but the last message. -/
example :
    events ((mildGate.handle (chain [mildGate] (echo "peer")) .never).play twicePeer).1 =
      [.read 1, .write (Utf8.ofString easyChallenge), .flush, .read 1,
        .read 2, .write (Utf8.ofString easyChallenge), .flush, .read 1,
        .read 1, .write (Utf8.ofString "peer>" ++ [7]), .close] := by decide +kernel

end Hashgate.Gate
