import Hashgate.Proofs.Gate.Failing
import Hashgate.Proofs.Gate.Nesting

/-! # The first message is a signal

What the first message says goes into the log, and its length is that of the first read.  Nothing else of
a session depends on it: two scripts that differ in this message alone are played alike, to the end and by
whoever is let in.  A message that does not fit into one read counts for as much of it as fits, and the
rest of it is then found in place of the result.

* `SameBut`, `PlaysAlike` — plays that are the same but for what they read for a first message.
* `Conduct.Twin` — conducts that stay with the gate and end alike.
* `playsAlike_of_take` — sessions whose first reads leave the same stream.
* `exists_twin_of_head` — sessions whose first message lies behind an error or the end.
* `Template` — a script without the octets of its first message.
* `Asking.finds_rest` — what a long message leaves for the result.
* `handle_opening` — all of this for whole scripts.
-/

namespace Hashgate.Gate

open Session

variable {gate : Gate} {signal : Signal} {challenge : String} {s other left : Stream}
  {conduct others : Conduct} {opening another : List UInt8}

/-! ## Two plays -/

/-- How a session ends, and when. -/
def ending (played : Trace × Option (Outcome × Stream)) : Option (Outcome × Nat) :=
  played.2.map fun ended => (ended.1, ended.2.now)

/-- Two plays that are the same but for what they read for a first message.  If it is not read at all, the
streams that they leave may differ in it. -/
inductive SameBut (opening another : List UInt8) :
    Trace × Option (Outcome × Stream) → Trace × Option (Outcome × Stream) → Prop
  | unread {one two : Trace × Option (Outcome × Stream)} : one.1 = two.1 → ending one = ending two →
      SameBut opening another one two
  | read {moment : Nat} {rest : Trace} {ended : Option (Outcome × Stream)} :
      SameBut opening another
        ((moment, .stream (.read opening.length)) :: (moment, .log (greeting opening)) :: rest, ended)
        ((moment, .stream (.read another.length)) :: (moment, .log (greeting another)) :: rest, ended)

/-- The outcome, the time and the calls of such plays are the same, and so is all that can be seen of
them from outside but the length of the first read. -/
theorem SameBut.same {one two : Trace × Option (Outcome × Stream)}
    (same : SameBut opening another one two) :
    ending one = ending two ∧
      (one.1.filter fun mark => mark.2 = .handOver) = (two.1.filter fun mark => mark.2 = .handOver) ∧
      (events one.1 = events two.1 ∨ ∃ rest, events one.1 = .read opening.length :: rest ∧
        events two.1 = .read another.length :: rest) := by
  cases same with
  | unread traces ends => exact ⟨ends, by rw [traces], .inl (congrArg events traces)⟩
  | read => exact ⟨rfl, rfl, .inr ⟨_, rfl, rfl⟩⟩

/-- Two streams that a gate, whoever stands behind it, can only tell apart by what it reads for a first
message. -/
def PlaysAlike (gate : Gate) (signal : Signal) (opening another : List UInt8) (s other : Stream) : Prop :=
  ∀ next : Handler, SameBut opening another ((gate.handle next signal).play s)
    ((gate.handle next signal).play other)

/-- Two conducts that stay with the gate, are the same in all they do, and end alike. -/
inductive Conduct.Twin : Conduct → Conduct → Prop
  | stays {one two : Trace × Option (Outcome × Stream)} : one.1 = two.1 → ending one = ending two →
      Twin (.stays one) (.stays two)

theorem Conduct.Twin.after (twin : conduct.Twin others) (earlier : Trace) :
    (conduct.after earlier).Twin (others.after earlier) := by
  cases twin with
  | stays traces ends => exact .stays (congrArg (earlier ++ ·) traces) ends

theorem Conduct.Twin.playsAlike (twin : conduct.Twin others) (course : Course gate signal s conduct)
    (otherCourse : Course gate signal other others) :
    gate.PlaysAlike signal opening another s other := by
  intro next
  rw [course.play_eq, otherCourse.play_eq]
  cases twin with
  | stays traces ends => exact .unread traces ends

theorem twin_of_deaf {x : Session Outcome} (deaf : Deaf x) (alike : s.Alike other) :
    (Conduct.stays (x.play s)).Twin (.stays (x.play other)) := by
  obtain ⟨trace, outcome, left, otherLeft, played, otherPlayed, leftAlike⟩ := deaf s other alike
  rw [played, otherPlayed]
  refine .stays rfl ?_
  rw [ending, ending, Option.map_some, Option.map_some, leftAlike.now]

theorem deaf_breakOff (e : IoError) : Deaf (breakOff e) :=
  (deaf_log _).bind fun _ => holdsOfSpeech_deaf.hangUp.bind fun _ => deaf_pure _

theorem deaf_disconnected : Deaf (conclude (pure ()) .disconnected) :=
  (deaf_log _).bind fun _ => holdsOfSpeech_deaf.hangUp.bind fun _ => deaf_pure _

/-! ## The wait for the first message -/

/-- Two streams on which something is there at the same moment are both heard at that moment, or else
their sessions end alike. -/
theorem exists_twin_or_heard (gate : Gate) (signal : Signal) (alike : s.Alike other)
    (sameReady : s.ready? = other.ready?) :
    (∃ conduct others, Course gate signal s conduct ∧ Course gate signal other others ∧
      conduct.Twin others) ∨
    ∃ greeted, signal.precedes s.now = false ∧ s.ready? = some greeted ∧
      NotAfter greeted [signal.moment?] := by
  obtain ⟨conduct, course⟩ := exists_course gate signal s
  -- A session that is not heard ends by the clock and the signal alone.
  cases course with
  | stopped given =>
    exact .inl ⟨_, _, .stopped given, .stopped (alike.now ▸ given),
      twin_of_deaf holdsOfSpeech_deaf.giveUp alike⟩
  | stalled going silent never =>
    exact .inl ⟨_, _, .stalled going silent never,
      .stalled (alike.now ▸ going) (sameReady ▸ silent) never, .stays rfl rfl⟩
  | interrupted going given before =>
    exact .inl ⟨_, _, .interrupted going given before,
      .interrupted (alike.now ▸ going) given (sameReady ▸ before),
      twin_of_deaf holdsOfSpeech_deaf.giveUp (alike.advance _)⟩
  | unheard going ready inTime => exact .inr ⟨_, going, ready, inTime⟩
  | heard going ready inTime => exact .inr ⟨_, going, ready, inTime⟩

/-- Sessions whose first reads leave the same stream are the same from then on. -/
theorem playsAlike_of_take (alike : s.Alike other) (sameReady : s.ready? = other.ready?)
    (opens : ∀ moment, s.ready? = some moment → ∃ left,
      (s.advance moment).take readCapacity = (.ok opening, left) ∧
        (other.advance moment).take readCapacity = (.ok another, left)) :
    gate.PlaysAlike signal opening another s other := by
  obtain ⟨conduct, others, course, otherCourse, twin⟩ | ⟨greeted, going, ready, inTime⟩ :=
    exists_twin_or_heard gate signal alike sameReady
  · exact twin.playsAlike course otherCourse
  · intro next
    obtain ⟨left, taken, otherTaken⟩ := opens greeted ready
    obtain ⟨conduct, exchanges⟩ := exists_exchanges gate signal left
    have course := Course.heard going ready inTime taken exchanges
    have otherCourse := Course.heard (alike.now ▸ going) (sameReady ▸ ready) inTime otherTaken exchanges
    rw [course.play_eq, otherCourse.play_eq, Conduct.play_after, Conduct.play_after,
      ← (Stream.outlet_now_of_take taken).2, ← (Stream.outlet_now_of_take otherTaken).2]
    exact .read

/-! ## Streams that have ended -/

/-- Two streams of which nothing is to be read any more, whatever would come after the end. -/
structure Ended (s other : Stream) : Prop where
  alike : s.Alike other
  exists_steps : ∃ step rest otherRest, step.arrival = .ending ∧ s.steps = step :: rest ∧
    other.steps = step :: otherRest

theorem take_of_ending {step : Step} {rest : List Step} (steps : s.steps = step :: rest)
    (ends : step.arrival = .ending) (capacity : Nat) : s.take capacity = (.ok [], s) := by
  simp only [Stream.take, steps, ends]

theorem ready?_of_steps {step : Step} {rest : List Step} (steps : s.steps = step :: rest) :
    s.ready? = if step.afterWrites ≤ s.writes then some (max s.now step.notBefore) else none := by
  simp only [Stream.ready?, steps]

namespace Ended

variable (ended : Ended s other)

include ended

theorem sameReady : s.ready? = other.ready? := by
  obtain ⟨step, rest, otherRest, -, steps, otherSteps⟩ := ended.exists_steps
  rw [ready?_of_steps steps, ready?_of_steps otherSteps, ended.alike.writes, ended.alike.now]

theorem take_eq (capacity : Nat) : s.take capacity = (.ok [], s) ∧
    other.take capacity = (.ok [], other) := by
  obtain ⟨step, rest, otherRest, ends, steps, otherSteps⟩ := ended.exists_steps
  exact ⟨take_of_ending steps ends capacity, take_of_ending otherSteps ends capacity⟩

theorem advance (moment : Nat) : Ended (s.advance moment) (other.advance moment) :=
  ⟨ended.alike.advance moment, ended.exists_steps⟩

/-- A message is said alike on both. -/
theorem say (message : String) : ∃ words said left otherLeft,
    (say message).play s = (words, some (said, left)) ∧
      (Gate.say message).play other = (words, some (said, otherLeft)) ∧ Ended left otherLeft := by
  obtain ⟨words, said, left, otherLeft, played, otherPlayed, alike⟩ :=
    holdsOfSpeech_deaf.say message s other ended.alike
  obtain ⟨writes, rfl⟩ := (saying_of_play played).spoken.left_eq
  obtain ⟨otherWrites, rfl⟩ := (saying_of_play otherPlayed).spoken.left_eq
  exact ⟨words, said, _, _, played, otherPlayed, alike, ended.exists_steps⟩

end Ended

/-- On a stream that has ended the wait for the result finds that the peer is gone, if anything. -/
theorem Awaits.exists_twin (awaits : Awaits gate challenge signal s conduct)
    (ended : Ended s other) : ∃ others, Awaits gate challenge signal other others ∧
      conduct.Twin others := by
  have now := ended.alike.now
  cases awaits with
  | expired patient after =>
    rw [ended.sameReady, now] at patient
    rw [now] at after
    refine ⟨_, .expired patient after, ?_⟩
    simp only [Stream.advance_now, now]
    exact (twin_of_deaf holdsOfSpeech_deaf.giveUp (ended.alike.advance _)).after _
  | interrupted given before early =>
    rw [ended.sameReady] at before
    rw [now] at early
    refine ⟨_, .interrupted given before early, ?_⟩
    simp only [Stream.advance_now, now]
    exact (twin_of_deaf holdsOfSpeech_deaf.giveUp (ended.alike.advance _)).after _
  | @answered ready trace submission left isReady inTime submits =>
    -- The read finds the end on both, and no result.
    obtain ⟨taken, otherTaken⟩ := (ended.advance ready).take_eq readCapacity
    rw [ended.sameReady] at isReady
    rw [now] at inTime
    refine ⟨_, .answered isReady inTime (.ended otherTaken), ?_⟩
    cases submits with
    | unread read => cases taken.symm.trans read
    | judged read nonempty =>
      cases taken.symm.trans read
      exact absurd rfl nonempty
    | ended read =>
      cases taken.symm.trans read
      simp only [Stream.advance_now, now]
      exact (twin_of_deaf deaf_disconnected (ended.alike.advance ready)).after _

theorem Exchanges.exists_twin (exchanges : Exchanges gate signal s conduct) (ended : Ended s other) :
    ∃ others, Exchanges gate signal other others ∧ conduct.Twin others := by
  have now := ended.alike.now
  cases exchanges with
  | unissued failed =>
    refine ⟨_, .unissued failed, ?_⟩
    rw [now]
    exact (twin_of_deaf (holdsOfSpeech_deaf.reject (deaf_log _)) ended.alike).after _
  | @unsaid issued _ _ _ issues tells =>
    obtain ⟨words, said, left, otherLeft, played, otherPlayed, stillEnded⟩ := ended.say issued.header
    cases tells.symm.trans played
    refine ⟨_, .unsaid issues otherPlayed, ?_⟩
    rw [now]
    exact (twin_of_deaf (deaf_breakOff _) stillEnded.alike).after _
  | @said issued _ _ _ issues tells awaits =>
    obtain ⟨words, said, left, otherLeft, played, otherPlayed, stillEnded⟩ := ended.say issued.header
    cases tells.symm.trans played
    obtain ⟨others, otherAwaits, twin⟩ := awaits.exists_twin stillEnded
    refine ⟨_, .said issues otherPlayed otherAwaits, ?_⟩
    rw [now]
    exact twin.after _

/-- What lies behind an error or the end is never heard. -/
theorem exists_twin_of_head (gate : Gate) (signal : Signal) (alike : s.Alike other) {step : Step}
    {rest otherRest : List Step} (steps : s.steps = step :: rest)
    (otherSteps : other.steps = step :: otherRest)
    (dataless : ∀ octets, step.arrival ≠ .data octets) :
    ∃ conduct others, Course gate signal s conduct ∧ Course gate signal other others ∧
      conduct.Twin others := by
  have sameReady : s.ready? = other.ready? := by
    rw [ready?_of_steps steps, ready?_of_steps otherSteps, alike.writes, alike.now]
  obtain twins | ⟨greeted, going, ready, inTime⟩ := exists_twin_or_heard gate signal alike sameReady
  · exact twins
  have otherGoing : signal.precedes other.now = false := alike.now ▸ going
  have otherReady : other.ready? = some greeted := sameReady ▸ ready
  have now := (alike.advance greeted).now
  cases arrives : step.arrival with
  | data octets => exact absurd arrives (dataless octets)
  | failure kind =>
    -- What the error leaves on the streams is not looked at.
    have taken : (s.advance greeted).take readCapacity =
        (.error kind, { s.advance greeted with steps := rest }) := by
      simp only [Stream.take, Stream.advance, steps, arrives]
    have otherTaken : (other.advance greeted).take readCapacity =
        (.error kind, { other.advance greeted with steps := otherRest }) := by
      simp only [Stream.take, Stream.advance, otherSteps, arrives]
    refine ⟨_, _, .unheard going ready inTime taken, .unheard otherGoing otherReady inTime otherTaken, ?_⟩
    rw [now]
    have leftAlike : Stream.Alike { s.advance greeted with steps := rest }
        { other.advance greeted with steps := otherRest } := ⟨alike.outlet, alike.writes, now⟩
    exact (twin_of_deaf (holdsOfSpeech_deaf.reject (deaf_log _)) leftAlike).after _
  | ending =>
    -- The end is read for a first message, and is still there when a result is waited for.
    have ended : Ended (s.advance greeted) (other.advance greeted) :=
      ⟨alike.advance greeted, step, rest, otherRest, arrives, steps, otherSteps⟩
    obtain ⟨taken, otherTaken⟩ := ended.take_eq readCapacity
    obtain ⟨conduct, exchanges⟩ := exists_exchanges gate signal (s.advance greeted)
    obtain ⟨others, otherExchanges, twin⟩ := exchanges.exists_twin ended
    refine ⟨_, _, .heard going ready inTime taken exchanges,
      .heard otherGoing otherReady inTime otherTaken otherExchanges, ?_⟩
    rw [now]
    exact twin.after _

/-! ## Scripts -/

/-- A script without the octets of its first message.  What comes before it is no data. -/
structure Template where
  before : List Step
  dataless : ∀ step ∈ before, ∀ octets, step.arrival ≠ .data octets
  notBefore : Nat
  afterWrites : Nat
  /-- The stream after the first message. -/
  after : Stream

namespace Template

variable (script : Template) (octets : List UInt8)

/-- The script with these octets for its first message. -/
def fill : Stream :=
  { script.after with steps :=
      script.before ++ ⟨.data octets, script.notBefore, script.afterWrites⟩ :: script.after.steps }

/-- The script with other steps after the first message. -/
def followedBy (steps : List Step) : Template :=
  { script with after := { script.after with steps := steps } }

/-- The script with one more message right after the first one. -/
def andThen : Template :=
  script.followedBy (⟨.data octets, script.notBefore, script.afterWrites⟩ :: script.after.steps)

theorem steps_fill (first : script.before = []) : (script.fill octets).steps =
    ⟨.data octets, script.notBefore, script.afterWrites⟩ :: script.after.steps := by
  rw [fill, first, List.nil_append]

theorem alike_fill (otherOctets : List UInt8) (steps : List Step) :
    (script.fill octets).Alike ((script.followedBy steps).fill otherOctets) := ⟨rfl, rfl, rfl⟩

end Template

/-- What a read finds of a message is as much of it as fits. -/
theorem exists_take_of_data {step : Step} {rest : List Step} {octets : List UInt8}
    (steps : s.steps = step :: rest) (arrives : step.arrival = .data octets) (capacity : Nat) :
    ∃ left, s.take capacity = (.ok (octets.take capacity), left) := by
  simp only [Stream.take, steps, arrives]
  split
  · next fits => exact ⟨_, by rw [List.take_of_length_le fits]⟩
  · exact ⟨_, rfl⟩

variable {script : Template} {octets otherOctets : List UInt8} {later steps : List Step}

/-- What the read of a first message takes of it, and the steps that it leaves. -/
inductive Opens (script : Template) : List UInt8 → List UInt8 → List Step → Prop
  | fits {octets : List UInt8} : octets.length ≤ readCapacity →
      Opens script octets octets script.after.steps
  | exceeds {front rest : List UInt8} : front.length = readCapacity → rest ≠ [] →
      Opens script (front ++ rest) front
        (⟨.data rest, script.notBefore, script.afterWrites⟩ :: script.after.steps)

theorem Opens.take_eq (opens : Opens script octets opening later)
    (first : s.steps =
      ⟨.data octets, script.notBefore, script.afterWrites⟩ :: script.after.steps) :
    s.take readCapacity = (.ok opening, { s with steps := later }) := by
  cases opens with
  | fits short => simp only [Stream.take, first, if_pos short]
  | @exceeds _ rest full nonempty =>
    have long : ¬ (opening ++ rest).length ≤ readCapacity := by
      have positive := List.length_pos_iff.mpr nonempty
      rw [List.length_append]
      omega
    simp only [Stream.take, first, if_neg long]
    rw [← full, List.take_left, List.drop_left]

/-- Messages of which a read leaves the same are told apart by nothing but what it takes of them. -/
theorem playsAlike_of_opens (opens : Opens script octets opening later)
    (otherOpens : Opens (script.followedBy steps) otherOctets another later) :
    gate.PlaysAlike signal opening another (script.fill octets)
      ((script.followedBy steps).fill otherOctets) := by
  have alike := script.alike_fill octets otherOctets steps
  cases before : script.before with
  -- The message is what is read first.
  | nil =>
    have first := script.steps_fill octets before
    have otherFirst := (script.followedBy steps).steps_fill otherOctets before
    refine playsAlike_of_take alike ?_ fun moment _ => ?_
    · rw [ready?_of_steps first, ready?_of_steps otherFirst]
      rfl
    · have taken : ((script.fill octets).advance moment).take readCapacity = _ := opens.take_eq first
      have otherTaken :
          (((script.followedBy steps).fill otherOctets).advance moment).take readCapacity = _ :=
        otherOpens.take_eq otherFirst
      exact ⟨_, taken, otherTaken⟩
  -- The message comes too late to be read.
  | cons step rest =>
    have dataless := script.dataless step (before ▸ List.mem_cons_self)
    obtain ⟨conduct, others, course, otherCourse, twin⟩ :=
      exists_twin_of_head gate signal alike (congrArg (· ++ _) before) (congrArg (· ++ _) before)
        dataless
    exact twin.playsAlike course otherCourse

/-! ## The second read -/

/-- Some octets are there for a result when the challenge has been said, and the session goes by what is
made of them. -/
def Asking.GoesBy (asking : Asking gate s) (signal : Signal) (octets : List UInt8) : Prop :=
  let result := Utf8.toStringLossy octets
  let verdict := gate.verify result asking.issued.header
  ∃ left, asking.asked.ready? = some asking.greeted ∧
    (asking.asked.advance asking.greeted).take readCapacity = (.ok octets, left) ∧
    ∀ next : Handler, (gate.handle next signal).play s =
      (asking.answered
        ((asking.greeted, .stream (.read octets.length)) ::
          judging left asking.issued.header result verdict)
        (submission result verdict) left).play (next signal)

theorem Asking.goesBy_of_take {asking : Asking gate s} (going : signal.precedes s.now = false)
    (inTime : NotAfter asking.greeted [signal.moment?])
    (ready : asking.asked.ready? = some asking.greeted) (nonempty : octets ≠ [])
    (taken : (asking.asked.advance asking.greeted).take readCapacity = (.ok octets, left)) :
    asking.GoesBy signal octets := by
  refine ⟨left, ready, taken, fun next => ?_⟩
  have patient : NotAfter asking.greeted
      [some (asking.asked.now + gate.config.patience), signal.moment?] := by
    intro moment member
    obtain same | member := List.mem_cons.mp member
    · rw [Option.some.inj same, asking.now_asked]
      exact Nat.le_add_right _ _
    · exact inTime moment member
  have course := asking.course_of_notAfter going inTime
    (.answered ready patient (.judged taken nonempty rfl))
  rw [Conduct.after_after, Stream.advance_now, asking.now_asked, Nat.max_self] at course
  rw [course.play_eq, answered, asking.now_asked]

theorem writes_le_of_say {message : String} {words : Trace} {said : Except IoError Unit}
    (played : (say message).play s = (words, some (said, left))) : s.writes ≤ left.writes := by
  have accounted := holdsOfSpeech_accounts.say message _ _ _ _ played
  rw [accounted.writes_eq]
  exact Nat.le_add_right _ _

/-- Once the challenge has been said, what is left of a long first message is there for a result. -/
theorem Asking.finds_rest {front rest : List UInt8} (first : script.before = [])
    (full : front.length = readCapacity) (nonempty : rest ≠ [])
    (asking : Asking gate (script.fill (front ++ rest))) :
    asking.opening = front ∧ asking.asked.ready? = some asking.greeted ∧
      ∃ left, (asking.asked.advance asking.greeted).take readCapacity =
        (.ok (rest.take readCapacity), left) := by
  have steps := script.steps_fill (front ++ rest) first
  have opens : ((script.fill (front ++ rest)).advance asking.greeted).take readCapacity = _ :=
    (Opens.exceeds full nonempty).take_eq steps
  obtain ⟨opening, opened⟩ := Prod.mk.inj (asking.opens.symm.trans opens)
  have stepsLeft : asking.asked.steps =
      ⟨.data rest, script.notBefore, script.afterWrites⟩ :: script.after.steps := by
    obtain ⟨writes, same⟩ := (saying_of_play asking.tells).spoken.left_eq
    rw [same, opened]
  have stepsLater : (asking.asked.advance asking.greeted).steps = _ := stepsLeft
  refine ⟨Except.ok.inj opening, ?_, exists_take_of_data stepsLater rfl readCapacity⟩
  -- What has let the first read go on lets the second one go on as well.
  have more := writes_le_of_say asking.tells
  rw [opened] at more
  have greets := asking.greets
  rw [ready?_of_steps steps] at greets
  split at greets
  · next written =>
    have enough : script.afterWrites ≤ asking.asked.writes := Nat.le_trans written more
    rw [ready?_of_steps stepsLeft, if_pos enough, asking.now_asked, ← Option.some.inj greets,
      Nat.max_eq_left (Nat.le_max_right _ _)]
  · cases greets

/-! ## The first message as a whole -/

/-- **The first message is a signal.**  Two scripts that differ in a first message that fits into one read
are played alike by any gate, whoever stands behind it: how and when the session ends, who gets the stream,
and all that can be seen of it but the length of the first read are the same.  A longer message counts for
as much of it as fits, and the same holds if this part is exchanged, or if the rest comes as a message of
its own.  Once the challenge has been said, as much of the rest as fits into one read is judged for a result
at once. -/
theorem handle_opening (gate : Gate) (signal : Signal) (script : Template) :
    (∀ opening another one two, SameBut opening another one two → ending one = ending two ∧
      (one.1.filter fun mark => mark.2 = .handOver) = (two.1.filter fun mark => mark.2 = .handOver) ∧
      (events one.1 = events two.1 ∨ ∃ rest, events one.1 = .read opening.length :: rest ∧
        events two.1 = .read another.length :: rest)) ∧
    (∀ opening another, opening.length ≤ readCapacity → another.length ≤ readCapacity →
      gate.PlaysAlike signal opening another (script.fill opening) (script.fill another)) ∧
    ∀ front rest, front.length = readCapacity → rest ≠ [] →
      (∀ another, another.length = readCapacity →
        gate.PlaysAlike signal front another (script.fill (front ++ rest))
          (script.fill (another ++ rest))) ∧
      (∀ another, another.length ≤ readCapacity →
        gate.PlaysAlike signal front another (script.fill (front ++ rest))
          ((script.andThen rest).fill another)) ∧
      (script.before = [] → ∀ asking : Asking gate (script.fill (front ++ rest)),
        signal.precedes script.after.now = false → NotAfter asking.greeted [signal.moment?] →
        asking.opening = front ∧ asking.GoesBy signal (rest.take readCapacity)) := by
  refine ⟨fun _ _ _ _ same => same.same, fun opening another short otherShort => ?_,
    fun front rest full nonempty => ⟨fun another otherFull => ?_, fun another otherShort => ?_,
      fun first asking going inTime => ?_⟩⟩
  -- A short message.
  · have fits : Opens (script.followedBy script.after.steps) another another script.after.steps :=
      .fits otherShort
    exact playsAlike_of_opens (.fits short) fits
  -- A long one, with its front exchanged, with its rest said apart, and with its rest for a result.
  · have exceeds : Opens (script.followedBy script.after.steps) (another ++ rest) another _ :=
      .exceeds otherFull nonempty
    exact playsAlike_of_opens (.exceeds full nonempty) exceeds
  · have fits : Opens (script.andThen rest) another another (script.andThen rest).after.steps :=
      .fits otherShort
    exact playsAlike_of_opens (.exceeds full nonempty) fits
  · obtain ⟨opening, ready, left, taken⟩ := asking.finds_rest first full nonempty
    have taking : rest.take readCapacity ≠ [] := by
      simp [nonempty, readCapacity]
    exact ⟨opening, Asking.goesBy_of_take going inTime ready taking taken⟩

/-- A peer that says all it has to say at once, and then closes its side. -/
def hastyPeer : Template where
  before := []
  dataless := nofun
  notBefore := 0
  afterWrites := 0
  after := .ofSteps [] .ending .free

/-- The easy result behind a padding. -/
def padded (octet : UInt8) : List UInt8 :=
  List.replicate readCapacity octet ++ Utf8.ofString easyResult

def hastyAsking : Asking easyGate (hastyPeer.fill (padded 0)) where
  greeted := 0
  opening := List.replicate readCapacity 0
  opened := _
  issued := _
  words := _
  asked := _
  greets := rfl
  opens := (Opens.exceeds List.length_replicate (by decide)).take_eq rfl
  issues := rfl
  tells := rfl

/-- A hasty peer gets in if its result begins where the first read ends, whatever it is padded with. -/
theorem handle_opening_hasty :
    (∀ next : Handler, ending ((easyGate.handle next .never).play (hastyPeer.fill [0])) =
      ending ((easyGate.handle next .never).play (hastyPeer.fill [1, 2]))) ∧
    easyGate.PlaysAlike .never (List.replicate readCapacity 0) (List.replicate readCapacity 1)
      (hastyPeer.fill (padded 0)) (hastyPeer.fill (padded 1)) ∧
    easyGate.PlaysAlike .never (List.replicate readCapacity 0) [1] (hastyPeer.fill (padded 0))
      ((hastyPeer.andThen (Utf8.ofString easyResult)).fill [1]) ∧
    ending ((easyGate.handle (fun _ => pure ()) .never).play (hastyPeer.fill (padded 0))) =
      some (.passed, 0) := by
  obtain ⟨same, short, long⟩ := handle_opening easyGate .never hastyPeer
  obtain ⟨exchanged, apart, goesBy⟩ := long (List.replicate readCapacity 0)
    (Utf8.ofString easyResult) List.length_replicate (by decide)
  refine ⟨fun next => (same _ _ _ _ (short [0] [1, 2] (by decide) (by decide) next)).1,
    exchanged (List.replicate readCapacity 1) List.length_replicate, apart [1] (by decide), ?_⟩
  obtain ⟨-, left, -, taken, plays⟩ := goesBy rfl hastyAsking rfl nofun
  have now : left.now = 0 := (Stream.outlet_now_of_take taken).2
  have whole : (Utf8.ofString easyResult).take readCapacity = Utf8.ofString easyResult := rfl
  have challenge : hastyAsking.issued.header = easyChallenge := rfl
  have valid : easyGate.verify easyResult easyChallenge = .judged .valid := standard_easyResult
  rw [padded, plays, whole, Utf8.toStringLossy_ofString, challenge, valid, ← now]
  rfl

end Hashgate.Gate
