import Hashgate.Proofs.Server.AcceptLoop
import Hashgate.Server.Sessions

/-! # Runs by the clock

A run by the clock is a run, so what is known of runs is known of it.  It may be looked at in parts, and
its history is that of one part followed by that of the other: a client is served by the program that the
later part has started for it, if there is one.  The history and the channel agree on the signal.

* `launch?_followedBy` — who serves a client.
* `runs_of_record?`, `record?_append` — runs by the clock.
* `isSignalled_of_record?`, `answer_of_record?` — the signal, and what programs see of it.
* `record?_at`, `record?_signal` — runs in which nothing is heard, and the signal by itself.
-/

namespace Hashgate

namespace History

variable {κ : Type}

theorem followedBy_assoc (first second third : History κ) :
    (first.followedBy second).followedBy third = first.followedBy (second.followedBy third) := by
  simp [followedBy, Option.or_assoc]

variable [DecidableEq κ]

theorem launch?_followedBy (history later : History κ) (client : κ) :
    (history.followedBy later).launch? client = (later.launch? client).or (history.launch? client) := by
  simp only [launch?, followedBy, List.reverse_append, List.find?_append]

end History

namespace AcceptLoop

variable {κ : Type} {loop next middle : AcceptLoop} {event : Event κ} {events : List (Event κ)}
  {timetable later : List (Nat × Event κ)} {started first : List (Started κ)}
  {history others : History κ} {moment : Nat}

/-! ## Parts of a run -/

theorem record?_cons (does : Does loop event first middle)
    (goesOn : middle.record? timetable = some (history, next)) :
    loop.record? ((moment, event) :: timetable) =
      some ((loop.entry middle moment first).followedBy history, next) := by
  simp [record?, step?_eq_some_iff.mpr does, goesOn]

theorem exists_of_record?_cons
    (recorded : loop.record? ((moment, event) :: timetable) = some (history, next)) :
    ∃ first middle rest, Does loop event first middle ∧ middle.record? timetable = some (rest, next) ∧
      history = (loop.entry middle moment first).followedBy rest := by
  obtain ⟨⟨first, middle⟩, steps, recorded⟩ := Option.bind_eq_some_iff.mp recorded
  obtain ⟨⟨rest, last⟩, goesOn, same⟩ := Option.bind_eq_some_iff.mp recorded
  cases same
  exact ⟨first, middle, rest, step?_eq_some_iff.mp steps, goesOn, rfl⟩

theorem record?_append (begins : loop.record? timetable = some (history, middle))
    (ends : middle.record? later = some (others, next)) :
    loop.record? (timetable ++ later) = some (history.followedBy others, next) := by
  induction timetable generalizing loop history with
  | nil =>
    cases begins
    exact ends
  | cons head rest ih =>
    obtain ⟨first, second, between, does, goesOn, rfl⟩ := exists_of_record?_cons begins
    rw [History.followedBy_assoc]
    exact record?_cons does (ih goesOn)

/-- A run by the clock is a run. -/
theorem runs_of_record? (recorded : loop.record? timetable = some (history, next)) :
    Runs loop (timetable.map Prod.snd) (history.launches.map (·.program)) next := by
  induction timetable generalizing loop history with
  | nil =>
    cases recorded
    exact .done _
  | cons head rest ih =>
    obtain ⟨first, middle, others, does, goesOn, rfl⟩ := exists_of_record?_cons recorded
    have programs : ((loop.entry middle head.1 first).followedBy others).launches.map (·.program) =
        first ++ others.launches.map (·.program) := by
      simp [History.followedBy, entry, Function.comp_def]
    rw [programs]
    exact .step does (ih goesOn)

/-! ## The signal -/

/-- What has been put into the channel is in the history, and nothing else is. -/
theorem isSignalled_of_record? (recorded : loop.record? timetable = some (history, next)) :
    next.latch.isSignalled = (loop.latch.isSignalled || history.stop.isSome) := by
  induction timetable generalizing loop history with
  | nil =>
    cases recorded
    exact (Bool.or_false _).symm
  | cons head rest ih =>
    obtain ⟨first, middle, others, does, goesOn, rfl⟩ := exists_of_record?_cons recorded
    have stays := does.isSignalled
    rw [ih goesOn, History.followedBy, entry]
    cases told : loop.latch.isSignalled with
    | true => simp [stays told]
    | false => cases middle.latch.isSignalled <;> simp

/-- All programs see what the history tells. -/
theorem answer_of_record? (recorded : loop.record? timetable = some (history, next)) {launch : Launch κ}
    (member : launch ∈ history.launches) :
    next.latch.answer (.isSignalled launch.program.observer) =
      .seen (loop.latch.isSignalled || history.stop.isSome) := by
  have enrolled := (runs_of_record? recorded).enrolled
  have there := (enrolled.new launch.program (List.mem_map_of_mem member)).2
  rw [Latch.answer_isSignalled there, isSignalled_of_record? recorded]

theorem entry_of_channel (same : middle.latch.channel = loop.latch.channel) :
    loop.entry middle moment first = ⟨first.map (⟨·, moment⟩), none⟩ := by
  have signalled : middle.latch.isSignalled = loop.latch.isSignalled := congrArg Watch.value same
  rw [entry, signalled]
  simp

/-- In a run at one moment in which nothing is heard there is no signal. -/
theorem record?_at (runs : Runs loop events started next) (silent : heard events = []) (moment : Nat) :
    loop.record? (events.map (moment, ·)) = some (⟨started.map (⟨·, moment⟩), none⟩, next) := by
  induction runs with
  | done => rfl
  | @step loop middle next event events first rest does _ ih =>
    have split : heard (event :: events) = heard [event] ++ heard events :=
      List.filterMap_append (l := [event])
    obtain ⟨quiet, goesOn⟩ := List.append_eq_nil_iff.mp (split.symm.trans silent)
    have same : middle.latch.channel = loop.latch.channel := by
      rw [does.channel_eq, quiet]
      rfl
    rw [List.map_cons, record?_cons does (ih goesOn), entry_of_channel same, List.map_append]
    rfl

/-- The signal is heard at its moment, if it has not been given before. -/
theorem record?_signal (controlled : loop.latch.isControlled = true)
    (silent : loop.latch.isSignalled = false) (moment : Nat) :
    loop.record? [(moment, (.heard .signal : Event κ))] = some (⟨[], some moment⟩, loop.hear .signal) := by
  have told : (loop.hear .signal).latch.isSignalled = true :=
    Latch.isSignalled_next.mpr (.inr ⟨controlled, rfl⟩)
  rw [record?_cons (.hears .signal) rfl, entry, silent, told]
  rfl

end AcceptLoop

end Hashgate
