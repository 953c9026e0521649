import Hashgate.Proofs.Session.Speech

/-! # What can be told from a trace

An observer of a session counts its reads, hears its messages, and sees what becomes of the stream.  All
of this is read off the trace, stretch by stretch.

* `events`, `attempts`, `reads`, `issues` — what there is to see, in order or counted.
* `failures` — the errors of the calls that fail.
* `Flawless` — a trace in which no write fails.
* `Silent` — a trace in which nothing is said and the stream stays open.
* `failures_of_send` — a message that is not written as a whole fails with one write.
-/

namespace Hashgate

/-! ## Counting and listing -/

def StreamEvent.isRead : StreamEvent → Bool
  | .read _ | .readError _ => true
  | _ => false

def Act.event? : Act → Option StreamEvent
  | .stream event => some event
  | _ => none

def Act.message? : Act → Option String
  | .attempt message => some message
  | _ => none

/-- What the peer can see of a trace. -/
def events (trace : Trace) : List StreamEvent := trace.filterMap fun mark => mark.2.event?

/-- The messages that a session has set out to write. -/
def attempts (trace : Trace) : List String := trace.filterMap fun mark => mark.2.message?

def reads (trace : Trace) : Nat := (events trace).countP StreamEvent.isRead

/-- How often a challenge has been asked for. -/
def issues (trace : Trace) : Nat := (trace.map Prod.snd).count .issue

variable {trace later : Trace} {moment : Nat} {act : Act}

@[simp] theorem events_append : events (trace ++ later) = events trace ++ events later :=
  List.filterMap_append

@[simp] theorem attempts_append : attempts (trace ++ later) = attempts trace ++ attempts later :=
  List.filterMap_append

@[simp] theorem reads_append : reads (trace ++ later) = reads trace + reads later := by
  simp [reads]

@[simp] theorem issues_append : issues (trace ++ later) = issues trace + issues later := by
  simp [issues]

@[simp] theorem events_nil : events [] = [] := rfl

@[simp] theorem attempts_nil : attempts [] = [] := rfl

@[simp] theorem reads_nil : reads [] = 0 := rfl

@[simp] theorem issues_nil : issues [] = 0 := rfl

@[simp] theorem events_cons :
    events ((moment, act) :: trace) = act.event?.toList ++ events trace := by
  cases act <;> rfl

@[simp] theorem attempts_cons :
    attempts ((moment, act) :: trace) = act.message?.toList ++ attempts trace := by
  cases act <;> rfl

@[simp] theorem reads_cons :
    reads ((moment, act) :: trace) = act.event?.toList.countP StreamEvent.isRead + reads trace := by
  simp [reads]

@[simp] theorem issues_cons :
    issues ((moment, act) :: trace) = (if act = .issue then 1 else 0) + issues trace := by
  simp [issues, List.count_cons, Nat.add_comm]

/-- Speech reads nothing. -/
theorem reads_of_speech (speech : ∀ mark ∈ trace, mark.2.IsSpeech) : reads trace = 0 := by
  induction trace with
  | nil => rfl
  | cons mark rest ih =>
    obtain ⟨spoken, others⟩ := List.forall_mem_cons.mp speech
    obtain ⟨moment, act⟩ := mark
    rw [reads_cons, ih others]
    cases act with
    | stream event =>
      cases event with
      | read => exact spoken.elim
      | readError => exact spoken.elim
      | _ => rfl
    | _ => rfl

/-- Speech asks for no challenge. -/
theorem issues_of_speech (speech : ∀ mark ∈ trace, mark.2.IsSpeech) : issues trace = 0 := by
  simp only [issues, List.count_eq_zero, List.mem_map, not_exists, not_and]
  intro mark member same
  have spoken := speech mark member
  rw [same] at spoken
  exact spoken

/-! ## Calls that fail -/

/-- The error of a call that fails. -/
def StreamEvent.failure? : StreamEvent → Option IoError
  | .readError kind => some (.ofKind kind)
  | .writeError fault => some fault.toIoError
  | .write octets => if octets = [] then some (.ofKind .writeZero) else none
  | _ => none

/-- The errors of all calls that fail, in order. -/
def failures (trace : Trace) : List IoError := (events trace).filterMap StreamEvent.failure?

/-- The error of a result, if it is one. -/
def errors {α : Type} : Except IoError α → List IoError
  | .error e => [e]
  | .ok _ => []

@[simp] theorem errors_error {α : Type} (e : IoError) : errors (.error e : Except IoError α) = [e] :=
  rfl

@[simp] theorem errors_ok {α : Type} (a : α) : errors (.ok a) = [] := rfl

@[simp] theorem failures_nil : failures [] = [] := rfl

@[simp] theorem failures_append : failures (trace ++ later) = failures trace ++ failures later := by
  simp [failures]

@[simp] theorem failures_cons : failures ((moment, act) :: trace) =
    act.event?.toList.filterMap StreamEvent.failure? ++ failures trace := by
  simp [failures]

/-- A write that fails, or takes nothing. -/
def Act.IsFlaw : Act → Prop
  | .stream (.writeError _) => True
  | .stream (.write octets) => octets = []
  | _ => False

/-- No write fails. -/
def Flawless (trace : Trace) : Prop := ∀ mark ∈ trace, ¬ mark.2.IsFlaw

@[simp] theorem flawless_nil : Flawless [] := by simp [Flawless]

@[simp] theorem flawless_cons : Flawless ((moment, act) :: trace) ↔ ¬ act.IsFlaw ∧ Flawless trace :=
  List.forall_mem_cons

@[simp] theorem flawless_append : Flawless (trace ++ later) ↔ Flawless trace ∧ Flawless later :=
  List.forall_mem_append

namespace Session

/-- A message that is not written as a whole fails with the error of its last write, and with no
other. -/
theorem failures_of_writeUpTo {writes : Nat} {octets : List UInt8} {s left : Stream}
    {result : Except IoError Unit}
    (played : (writeUpTo writes octets).play s = (trace, some (result, left))) :
    failures trace = errors result := by
  -- The writes that go well lead to the one that does not.
  induction writes generalizing octets s trace with
  | zero =>
    cases played
    rfl
  | succ writes ih =>
    by_cases empty : octets = []
    · subst empty
      cases played
      rfl
    · have isEmpty : octets.isEmpty = false := List.isEmpty_eq_false_iff.mpr empty
      simp only [writeUpTo, isEmpty, Bool.false_eq_true, if_false] at played
      obtain ⟨first, written, middle, later, writing, goesOn, rfl⟩ := play_bind_eq_some_iff.mp played
      have once := writes_writeOnce octets s
      rw [writing] at once
      cases once with
      | fails =>
        cases goesOn
        rfl
      | takesNone =>
        cases goesOn
        rfl
      | takes nonempty =>
        rw [failures_append, ih goesOn]
        simp [Act.event?, StreamEvent.failure?, nonempty]

theorem failures_of_send {octets : List UInt8} {s left : Stream} {result : Except IoError Unit}
    (played : (send octets).play s = (trace, some (result, left))) :
    failures trace = errors result :=
  failures_of_writeUpTo played

/-- A message that is not written as a whole meets a write that fails. -/
theorem not_flawless_of_send {octets : List UInt8} {s left : Stream} {e : IoError}
    (played : (send octets).play s = (trace, some (.error e, left))) : ¬ Flawless trace := by
  intro flawless
  obtain ⟨_, _, _, same, sending⟩ := exists_sending_send octets s
  cases played.symm.trans same
  have failed : e ∈ failures trace := by rw [failures_of_send played, errors, List.mem_singleton]
  obtain ⟨event, among, failure⟩ := List.mem_filterMap.mp failed
  obtain ⟨mark, member, isEvent⟩ := List.mem_filterMap.mp among
  -- Nothing but writes can have failed.
  have unflawed := flawless mark member
  obtain ⟨-, ⟨taken, act⟩ | ⟨fault, act⟩⟩ := sending.attempts mark member
  · rw [act] at isEvent unflawed
    cases isEvent
    have nonempty : taken ≠ [] := unflawed
    rw [StreamEvent.failure?, if_neg nonempty] at failure
    cases failure
  · rw [act] at unflawed
    exact unflawed trivial

end Session

/-! ## Silence -/

/-- An act that neither says anything nor closes the stream. -/
def Act.IsSilent : Act → Prop
  | .stream event => event.isRead = true
  | .attempt _ => False
  | _ => True

def Silent (trace : Trace) : Prop := ∀ mark ∈ trace, mark.2.IsSilent

@[simp] theorem silent_nil : Silent [] := by simp [Silent]

@[simp] theorem silent_cons : Silent ((moment, act) :: trace) ↔ act.IsSilent ∧ Silent trace :=
  List.forall_mem_cons

@[simp] theorem silent_append : Silent (trace ++ later) ↔ Silent trace ∧ Silent later :=
  List.forall_mem_append

theorem Silent.attempts_eq (silent : Silent trace) : attempts trace = [] := by
  induction trace with
  | nil => rfl
  | cons mark rest ih =>
    obtain ⟨first, others⟩ := List.forall_mem_cons.mp silent
    obtain ⟨moment, act⟩ := mark
    rw [attempts_cons, ih others]
    cases act with
    | attempt => exact first.elim
    | _ => rfl

theorem Silent.written_eq (silent : Silent trace) : written trace = [] := by
  induction trace with
  | nil => rfl
  | cons mark rest ih =>
    obtain ⟨first, others⟩ := List.forall_mem_cons.mp silent
    obtain ⟨moment, act⟩ := mark
    rw [written_cons, ih others]
    cases act with
    | stream event =>
      cases event with
      | write => cases first
      | _ => rfl
    | _ => rfl

theorem Silent.ne_flush (silent : Silent trace) : ∀ mark ∈ trace, mark.2 ≠ .stream .flush := by
  intro mark member flushes
  have first := silent mark member
  rw [flushes] at first
  cases first

theorem Silent.close_not_mem (silent : Silent trace) : .close ∉ events trace := by
  intro member
  obtain ⟨mark, among, same⟩ := List.mem_filterMap.mp member
  have first := silent mark among
  generalize mark.2 = act at same first
  cases act <;> cases same
  cases first

end Hashgate
