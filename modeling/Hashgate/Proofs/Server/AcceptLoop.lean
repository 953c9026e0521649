import Hashgate.Proofs.Server.Latch
import Hashgate.Server.AcceptLoop

/-! # What an accept loop makes of its attempts

A server does one thing at a time, and others do what they like with the latch meanwhile.  So all that can
happen at one event is said by a relation, and a run is one such event after the other.  Nobody but the
others puts anything into the latch's channel: when the server looks, it sees what they have made of it.

* `Does`, `Runs` — what happens at an event, and at one event after the other.
* `Runs.connections_eq`, `Runs.enrolled` — which programs are started, and with which observers.
* `Runs.exists_look`, `Runs.stopped_of_look` — when the server stops.
* `Runs.length_attempts_le` — what is left to happen after the signal.
* `Runs.without_timeout` — an attempt that yields nothing may be left out.
* `serves_until_signalled` — all that, of a server that starts with an observer.
-/

namespace Hashgate

/-- The connection that an attempt has yielded. -/
def Attempt.connection? : Attempt κ → Option κ
  | .connection c => some c
  | _ => none

namespace AcceptLoop

open Latch (Signals)

variable {κ : Type} {loop next middle : AcceptLoop} {event : Event κ}
  {events earlier later : List (Event κ)} {started first : List (Started κ)}

/-! ## Steps -/

/-- What a server does at an event. -/
inductive Does (loop : AcceptLoop) : Event κ → List (Started κ) → AcceptLoop → Prop
  | hears (op : Latch.Op) : Does loop (.heard op) [] (loop.hear op)
  | stops : loop.stage = .looking → loop.latch.isSignalled = true →
      Does loop .look [] { loop with stage := .stopped }
  | attempts : loop.stage = .looking → loop.latch.isSignalled = false →
      Does loop .look [] { loop with stage := .attempting }
  | waits : loop.stage = .attempting → Does loop (.settle .timeout) [] { loop with stage := .looking }
  | starts (c : κ) : loop.stage = .attempting →
      Does loop (.settle (.connection c)) [⟨c, loop.latch.observers⟩]
        { loop.hear (.clone loop.observer) with stage := .looking }
  | breaks (error : IoError) : loop.stage = .attempting →
      Does loop (.settle (.failure error)) [] { loop with stage := .broken error }

theorem look_eq (loop : AcceptLoop) : loop.look =
    { loop with stage := if loop.latch.isSignalled = true then .stopped else .attempting } := by
  simp only [look, Latch.answer_isSignalled loop.observes, Latch.Answer.seen.injEq]

theorem step?_eq_some_iff : loop.step? event = some (started, next) ↔ Does loop event started next := by
  constructor
  · intro steps
    cases event with
    | heard op =>
      cases steps
      exact .hears op
    | look =>
      obtain ⟨looking, same⟩ := Option.ite_none_right_eq_some.mp steps
      cases same
      rw [look_eq]
      cases told : loop.latch.isSignalled with
      | true => exact .stops looking told
      | false => exact .attempts looking told
    | settle attempt =>
      obtain ⟨attempting, same⟩ := Option.ite_none_right_eq_some.mp steps
      cases attempt with
      | timeout => cases same; exact .waits attempting
      | connection c => cases same; exact .starts c attempting
      | failure error => cases same; exact .breaks error attempting
  · intro does
    cases does with
    | hears op => rfl
    | stops looking told => simp [step?, looking, look_eq, told]
    | attempts looking told => simp [step?, looking, look_eq, told]
    | waits attempting => simp [step?, attempting, settle]
    | starts c attempting => simp [step?, attempting, settle]
    | breaks error attempting => simp [step?, attempting, settle]

/-! ## Runs -/

/-- What a server does at one event after the other. -/
inductive Runs : AcceptLoop → List (Event κ) → List (Started κ) → AcceptLoop → Prop
  | done (loop : AcceptLoop) : Runs loop [] [] loop
  | step {loop middle next : AcceptLoop} {event : Event κ} {events : List (Event κ)}
      {first rest : List (Started κ)} : Does loop event first middle → Runs middle events rest next →
      Runs loop (event :: events) (first ++ rest) next

theorem run?_eq_some_iff : loop.run? events = some (started, next) ↔ Runs loop events started next := by
  constructor
  · intro runs
    induction events generalizing loop started with
    | nil =>
      cases runs
      exact .done _
    | cons event rest ih =>
      obtain ⟨⟨first, middle⟩, steps, runs⟩ := Option.bind_eq_some_iff.mp runs
      obtain ⟨⟨later, last⟩, goesOn, same⟩ := Option.bind_eq_some_iff.mp runs
      cases same
      exact .step (step?_eq_some_iff.mp steps) (ih goesOn)
  · intro runs
    induction runs with
    | done => rfl
    | step does _ ih => simp [run?, step?_eq_some_iff.mpr does, ih]

/-- A run may be looked at in two parts. -/
theorem runs_append_iff : Runs loop (earlier ++ later) started next ↔
    ∃ first middle rest, Runs loop earlier first middle ∧ Runs middle later rest next ∧
      started = first ++ rest := by
  constructor
  · intro runs
    induction earlier generalizing loop started with
    | nil => exact ⟨[], loop, started, .done loop, runs, rfl⟩
    | cons event events ih =>
      cases runs with
      | @step _ middle _ _ _ first rest does runs =>
        obtain ⟨second, last, third, begins, ends, rfl⟩ := ih runs
        exact ⟨first ++ second, last, third, .step does begins, ends, (List.append_assoc ..).symm⟩
  · rintro ⟨first, middle, rest, begins, ends, rfl⟩
    induction begins with
    | done => exact ends
    | step does _ ih =>
      rw [List.append_assoc]
      exact .step does (ih ends)

theorem runs_cons_iff : Runs loop (event :: events) started next ↔
    ∃ first middle rest, Does loop event first middle ∧ Runs middle events rest next ∧
      started = first ++ rest := by
  constructor
  · rintro (_ | ⟨does, runs⟩)
    exact ⟨_, _, _, does, runs, rfl⟩
  · rintro ⟨first, middle, rest, does, runs, rfl⟩
    exact .step does runs

/-! ## What others do -/

def Event.heard? : Event κ → Option Latch.Op
  | .heard op => some op
  | _ => none

def Event.attempt? : Event κ → Option (Attempt κ)
  | .settle attempt => some attempt
  | _ => none

/-- All that others have done with the latch. -/
def heard (events : List (Event κ)) : List Latch.Op := events.filterMap Event.heard?

/-- The attempts that have ended, one way or another. -/
def attempts (events : List (Event κ)) : List (Attempt κ) := events.filterMap Event.attempt?

/-- The connections that the attempts have yielded. -/
def accepted (events : List (Event κ)) : List κ := (attempts events).filterMap Attempt.connection?

/-- Nobody but others does anything to the channel. -/
theorem Does.channel_eq (does : Does loop event first next) :
    next.latch.channel = (loop.latch.after (heard [event])).channel := by
  cases does with
  | starts c => exact Latch.channel_next loop.latch _
  | _ => rfl

theorem Runs.channel_eq (runs : Runs loop events started next) :
    next.latch.channel = (loop.latch.after (heard events)).channel := by
  induction runs with
  | done => rfl
  | @step loop middle next event events first rest does _ ih =>
    have split : heard (event :: events) = heard [event] ++ heard events :=
      List.filterMap_append (l := [event])
    rw [split, Latch.after_append, ih]
    exact Latch.channel_after_congr does.channel_eq _

theorem isSignalled_iff {ops : List Latch.Op} (same : loop.latch = Latch.fresh.after ops)
    (runs : Runs loop events started next) :
    next.latch.isSignalled = true ↔ Signals (ops ++ heard events) := by
  rw [Latch.isSignalled, runs.channel_eq, same, ← Latch.after_append]
  exact Latch.isSignalled_fresh_after

/-! ## What is started -/

theorem Runs.connections_eq (runs : Runs loop events started next) :
    started.map (·.connection) = accepted events := by
  induction runs with
  | done => rfl
  | @step loop middle next event events first rest does _ ih =>
    have split : attempts (event :: events) = attempts [event] ++ attempts events :=
      List.filterMap_append (l := [event])
    rw [List.map_append, ih, accepted, accepted, split, List.filterMap_append]
    cases does <;> rfl

/-- Programs with observers that were not there before, each with one of its own. -/
structure Enrolled (before after : AcceptLoop) (started : List (Started κ)) : Prop where
  grows : before.latch.observers ≤ after.latch.observers
  new : ∀ program ∈ started, before.latch.observers ≤ program.observer ∧
    program.observer < after.latch.observers
  own : (started.map (·.observer)).Pairwise (· < ·)

theorem Does.enrolled (does : Does loop event first next) : Enrolled loop next first := by
  cases does with
  | hears op => exact ⟨loop.latch.observers_le_next op, nofun, .nil⟩
  | starts c =>
    have more : (loop.latch.next (.clone loop.observer)).observers = loop.latch.observers + 1 := by
      rw [Latch.next, if_pos ((Latch.permits_observer rfl).mpr loop.observes)]
    refine ⟨loop.latch.observers_le_next _, fun program member => ?_, List.pairwise_singleton ..⟩
    cases List.mem_singleton.mp member
    exact ⟨Nat.le_refl _, more ▸ Nat.lt_succ_self _⟩
  | _ => exact ⟨Nat.le_refl _, nofun, .nil⟩

theorem Runs.enrolled (runs : Runs loop events started next) : Enrolled loop next started := by
  induction runs with
  | done => exact ⟨Nat.le_refl _, nofun, .nil⟩
  | @step loop middle next event events first rest does _ ih =>
    have begins := does.enrolled
    refine ⟨Nat.le_trans begins.grows ih.grows, fun program member => ?_, ?_⟩
    · cases List.mem_append.mp member with
      | inl early =>
        obtain ⟨least, most⟩ := begins.new program early
        exact ⟨least, Nat.lt_of_lt_of_le most ih.grows⟩
      | inr late =>
        obtain ⟨least, most⟩ := ih.new program late
        exact ⟨Nat.le_trans begins.grows least, most⟩
    · rw [List.map_append, List.pairwise_append]
      refine ⟨begins.own, ih.own, fun early fromFirst late fromRest => ?_⟩
      obtain ⟨program, member, rfl⟩ := List.mem_map.mp fromFirst
      obtain ⟨other, among, rfl⟩ := List.mem_map.mp fromRest
      exact Nat.lt_of_lt_of_le (begins.new program member).2 (ih.new other among).1

/-! ## How it ends -/

/-- The server makes no more attempts. -/
def Stage.isOver : Stage → Bool
  | .looking | .attempting => false
  | .stopped | .broken _ => true

theorem attempts_eq_nil (silent : ∀ event ∈ events, ∃ op, event = .heard op) : attempts events = [] := by
  refine List.filterMap_eq_nil_iff.mpr fun event member => ?_
  obtain ⟨op, rfl⟩ := silent event member
  rfl

theorem Runs.finished (runs : Runs loop events started next) (ended : loop.stage.isOver = true) :
    next.stage = loop.stage ∧ ∀ event ∈ events, ∃ op, event = .heard op := by
  induction runs with
  | done => exact ⟨rfl, nofun⟩
  | step does _ ih =>
    cases does with
    | hears op =>
      obtain ⟨stays, silent⟩ := ih ended
      exact ⟨stays, List.forall_mem_cons.mpr ⟨⟨op, rfl⟩, silent⟩⟩
    | stops looking | attempts looking => simp [looking, Stage.isOver] at ended
    | waits attempting | starts _ attempting | breaks _ attempting =>
      simp [attempting, Stage.isOver] at ended

theorem Does.look_of_stopped (does : Does loop event first next) (going : loop.stage ≠ .stopped)
    (stopped : next.stage = .stopped) : event = .look ∧ loop.latch.isSignalled = true := by
  cases does with
  | hears => exact absurd stopped going
  | stops _ told => exact ⟨rfl, told⟩
  | _ => cases stopped

/-- A server that has stopped has looked, and has seen the signal. -/
theorem Runs.exists_look (runs : Runs loop events started next) (going : loop.stage ≠ .stopped)
    (stopped : next.stage = .stopped) : ∃ before after first middle,
      events = before ++ .look :: after ∧ Runs loop before first middle ∧
        middle.latch.isSignalled = true := by
  induction runs with
  | done => exact absurd stopped going
  | @step loop middle next event events first rest does _ ih =>
    by_cases here : middle.stage = .stopped
    · obtain ⟨rfl, told⟩ := does.look_of_stopped going here
      exact ⟨[], events, [], loop, rfl, .done loop, told⟩
    · obtain ⟨before, after, second, last, rfl, begins, told⟩ := ih here stopped
      exact ⟨event :: before, after, first ++ second, last, rfl, .step does begins, told⟩

/-- A server that looks and sees the signal stops there and then. -/
theorem Runs.stopped_of_look (runs : Runs loop (.look :: events) started next)
    (told : loop.latch.isSignalled = true) :
    next.stage = .stopped ∧ ∀ event ∈ events, ∃ op, event = .heard op := by
  obtain ⟨first, middle, rest, does, goesOn, -⟩ := runs_cons_iff.mp runs
  cases does with
  | stops looking => exact goesOn.finished rfl
  | attempts _ silent =>
    rw [told] at silent
    cases silent

theorem Does.isSignalled (does : Does loop event first next) (told : loop.latch.isSignalled = true) :
    next.latch.isSignalled = true := by
  rw [Latch.isSignalled, does.channel_eq]
  exact Latch.isSignalled_after.mpr (.inl told)

/-- After the signal at most the attempt that is being made comes to an end. -/
theorem Runs.length_attempts_le (runs : Runs loop events started next)
    (told : loop.latch.isSignalled = true) :
    (attempts events).length ≤ if loop.stage = .attempting then 1 else 0 := by
  induction runs with
  | done => exact Nat.zero_le _
  | @step loop middle next event events first rest does _ ih =>
    have goesOn := ih (does.isSignalled told)
    cases does with
    | hears => exact goesOn
    | stops => exact Nat.le_trans goesOn (Nat.zero_le _)
    | attempts _ silent =>
      rw [told] at silent
      cases silent
    | waits attempting | starts _ attempting | breaks _ attempting =>
      rw [if_pos attempting]
      exact Nat.succ_le_succ goesOn

/-- A server breaks off exactly if an attempt fails. -/
theorem Runs.broken_iff {error : IoError} (runs : Runs loop events started next)
    (going : loop.stage.isOver = false) :
    next.stage = .broken error ↔ .failure error ∈ attempts events := by
  induction runs with
  | done loop =>
    refine iff_of_false (fun broken => ?_) List.not_mem_nil
    rw [broken] at going
    cases going
  | @step loop middle next event events first rest does runs ih =>
    cases does with
    | hears => exact ih going
    | stops =>
      obtain ⟨stays, silent⟩ := runs.finished rfl
      have looks : AcceptLoop.attempts (.look :: events) = AcceptLoop.attempts events := rfl
      rw [stays, looks, attempts_eq_nil silent]
      exact iff_of_false nofun List.not_mem_nil
    | attempts => exact ih rfl
    | waits => exact (ih rfl).trans (by simp [AcceptLoop.attempts, Event.attempt?])
    | starts c => exact (ih rfl).trans (by simp [AcceptLoop.attempts, Event.attempt?])
    | breaks other =>
      obtain ⟨stays, silent⟩ := runs.finished rfl
      have one : AcceptLoop.attempts (.settle (.failure other) :: events) =
          .failure other :: AcceptLoop.attempts events := rfl
      rw [stays, one, attempts_eq_nil silent]
      simp [eq_comm]

/-! ## Attempts that yield nothing -/

/-- While others do something, the server stays where it is. -/
theorem runs_heard_append_iff (loop : AcceptLoop) (ops : List Latch.Op) :
    Runs loop (ops.map .heard ++ later) started next ↔ Runs (ops.foldl hear loop) later started next := by
  induction ops generalizing loop with
  | nil => rfl
  | cons op rest ih =>
    rw [List.map_cons, List.cons_append, List.foldl_cons, ← ih, runs_cons_iff]
    constructor
    · rintro ⟨_, _, _, ⟨⟩, runs, rfl⟩
      exact runs
    · exact fun runs => ⟨[], _, _, .hears op, runs, rfl⟩

theorem foldl_hear_stage (loop : AcceptLoop) (ops : List Latch.Op) (stage : Stage) :
    ops.foldl hear { loop with stage := stage } = { ops.foldl hear loop with stage := stage } := by
  induction ops generalizing loop with
  | nil => rfl
  | cons op rest ih => exact ih (loop.hear op)

/-- An attempt that runs out of time leaves nothing behind: the run is the same without it. -/
theorem Runs.without_timeout {ops : List Latch.Op}
    (runs : Runs loop (earlier ++ .look :: (ops.map .heard ++ .settle .timeout :: later)) started next) :
    Runs loop (earlier ++ (ops.map .heard ++ later)) started next := by
  obtain ⟨first, middle, rest, begins, looks, rfl⟩ := runs_append_iff.mp runs
  refine runs_append_iff.mpr ⟨first, middle, rest, begins, ?_, rfl⟩
  obtain ⟨_, attempting, _, does, waits, rfl⟩ := runs_cons_iff.mp looks
  rw [runs_heard_append_iff] at waits ⊢
  obtain ⟨_, _, _, settles, goesOn, rfl⟩ := runs_cons_iff.mp waits
  cases does with
  | stops looking =>
    rw [foldl_hear_stage] at settles
    cases settles with
    | waits attempting => cases attempting
  | attempts looking =>
    rw [foldl_hear_stage] at settles
    cases settles with
    | waits attempting =>
      have back : ops.foldl hear middle = { ops.foldl hear middle with stage := .looking } := by
        rw [← foldl_hear_stage, ← looking]
      rw [back]
      exact goesOn

/-! ## Going on -/

/-- There is something that the server does next, whatever the attempt yields that it is making. -/
def GoesOn (κ : Type) (loop : AcceptLoop) : Prop :=
  loop.stage = .looking ∧ (∃ done, loop.step? (.look : Event κ) = some done) ∨
    loop.stage = .attempting ∧ ∀ attempt : Attempt κ, ∃ done, loop.step? (.settle attempt) = some done

theorem goesOn_of_going (going : loop.stage.isOver = false) : GoesOn κ loop := by
  cases at_ : loop.stage with
  | looking => exact .inl ⟨at_, _, if_pos at_⟩
  | attempting => exact .inr ⟨at_, fun attempt => ⟨_, if_pos at_⟩⟩
  | _ => simp [at_, Stage.isOver] at going

/-! ## A server that starts with an observer -/

section Started

variable {ops : List Latch.Op} {observer : Nat}

/-- What programs and the server find out at the end of a run. -/
theorem Runs.view_eq {own : Nat} (obtained : Latch.Obtained ops own)
    (same : loop.latch = Latch.fresh.after ops) (runs : Runs loop events started next)
    (there : observer < next.latch.observers) :
    next.latch.view observer = (.seen (decide (Signals (ops ++ heard events))),
      if Signals (ops ++ heard events) then .fired else .pending,
      fun later => decide (Signals (ops ++ heard events ++ later))) := by
  have channel : next.latch.channel = (Latch.fresh.after (ops ++ heard events)).channel := by
    rw [runs.channel_eq, same, ← Latch.after_append]
  have still := obtained.append (heard events)
  rw [Latch.view_congr channel there (Latch.obtained_iff.mp still), Latch.view_eq still]

theorem Runs.sees (obtained : Latch.Obtained ops observer) (same : loop.latch = Latch.fresh.after ops)
    (runs : Runs loop events started next) {program : Started κ} (member : program ∈ started) :
    next.latch.view program.observer = next.latch.view observer ∧
      next.latch.answer (.isSignalled program.observer) =
        .seen (decide (Signals (ops ++ heard events))) ∧
      ∀ later, next.latch.resolves later = true ↔ Signals (ops ++ heard events ++ later) := by
  have observes : observer < loop.latch.observers := same ▸ Latch.obtained_iff.mp obtained
  have seen := runs.view_eq obtained same (runs.enrolled.new program member).2
  have own := runs.view_eq obtained same (Nat.lt_of_lt_of_le observes runs.enrolled.grows)
  refine ⟨seen.trans own.symm, congrArg Prod.fst seen, fun later => ?_⟩
  have resolves : next.latch.resolves later = decide (Signals (ops ++ heard events ++ later)) :=
    congrFun (congrArg (·.2.2) seen) later
  rw [resolves, decide_eq_true_iff]

theorem Runs.at_once (same : loop.latch = Latch.fresh.after ops)
    (runs : Runs loop (earlier ++ .look :: later) started next) (signals : Signals (ops ++ heard earlier)) :
    next.stage = .stopped ∧ ∀ event ∈ later, ∃ op, event = .heard op := by
  obtain ⟨_, _, _, begins, ends, -⟩ := runs_append_iff.mp runs
  exact ends.stopped_of_look ((isSignalled_iff same begins).mpr signals)

theorem Runs.stopped_iff (same : loop.latch = Latch.fresh.after ops) (going : loop.stage ≠ .stopped)
    (runs : Runs loop events started next) : next.stage = .stopped ↔
      ∃ before after, events = before ++ .look :: after ∧ Signals (ops ++ heard before) := by
  constructor
  · intro stopped
    obtain ⟨before, after, _, _, parts, begins, told⟩ := runs.exists_look going stopped
    exact ⟨before, after, parts, (isSignalled_iff same begins).mp told⟩
  · rintro ⟨before, after, rfl, signals⟩
    exact (runs.at_once same signals).1

theorem Runs.last (same : loop.latch = Latch.fresh.after ops)
    (runs : Runs loop (earlier ++ later) started next) (signals : Signals (ops ++ heard earlier)) :
    (attempts later).length ≤ 1 ∧ (accepted later).length ≤ 1 := by
  obtain ⟨_, _, _, begins, ends, -⟩ := runs_append_iff.mp runs
  have few := ends.length_attempts_le ((isSignalled_iff same begins).mpr signals)
  have most : (attempts later).length ≤ 1 := by
    split at few <;> omega
  exact ⟨most, Nat.le_trans (List.length_filterMap_le ..) most⟩

theorem Runs.goesOn (same : loop.latch = Latch.fresh.after ops) (going : loop.stage.isOver = false)
    (runs : Runs loop events started next) (silent : ¬ Signals (ops ++ heard events))
    (sound : ∀ error, .failure error ∉ attempts events) : GoesOn κ next := by
  refine goesOn_of_going ?_
  cases at_ : next.stage with
  | stopped =>
    have notYet : loop.stage ≠ .stopped := by
      intro stopped
      rw [stopped] at going
      cases going
    obtain ⟨before, after, rfl, signals⟩ := (runs.stopped_iff same notYet).mp at_
    refine absurd ?_ silent
    rw [heard, List.filterMap_append, ← List.append_assoc]
    exact signals.append _
  | broken error => exact absurd ((runs.broken_iff going).mp at_) (sound error)
  | _ => rfl

end Started

/-- What can be said of a server that started with an observer of a latch, after some operations. -/
structure Orderly (ops : List Latch.Op) (observer : Nat) (events : List (Event κ))
    (started : List (Started κ)) (next : AcceptLoop) : Prop where
  /-- A program was started for each connection that an attempt has yielded, in order, and no other. -/
  connections : started.map (·.connection) = accepted events
  /-- Each program has an observer of its own. -/
  own : (started.map (·.observer)).Pairwise (· < ·)
  /-- What it finds out is what the server finds out: whether the signal has been given. -/
  sees : ∀ program ∈ started,
    next.latch.view program.observer = next.latch.view observer ∧
      next.latch.answer (.isSignalled program.observer) =
        .seen (decide (Signals (ops ++ heard events))) ∧
      ∀ later, next.latch.resolves later = true ↔ Signals (ops ++ heard events ++ later)
  /-- The server stops exactly if it looks when the signal has been given. -/
  stopped_iff : next.stage = .stopped ↔
    ∃ before after, events = before ++ .look :: after ∧ Signals (ops ++ heard before)
  /-- It does so the first time, and does nothing afterwards. -/
  at_once : ∀ before after, events = before ++ .look :: after → Signals (ops ++ heard before) →
    next.stage = .stopped ∧ ∀ event ∈ after, ∃ op, event = .heard op
  /-- Of all attempts only the one that is being made at the signal ends after it. -/
  last : ∀ before after, events = before ++ after → Signals (ops ++ heard before) →
    (attempts after).length ≤ 1 ∧ (accepted after).length ≤ 1
  broken_iff : ∀ error, next.stage = .broken error ↔ .failure error ∈ attempts events
  /-- Without the signal the server goes on, unless an attempt fails. -/
  goesOn : ¬ Signals (ops ++ heard events) → (∀ error, .failure error ∉ attempts events) →
    GoesOn κ next

/-- **The accept loop loses and duplicates nothing, and stops after the signal.**  A server starts with an
observer of a latch, and then its attempts end and others do things with the latch, in any order.  For each
connection that an attempt yields the server starts a program, with an observer that finds out what the
server's own does, and it starts no other.  It stops when it looks for the first time after the signal, and
before it does so at most the attempt that is being made comes to an end.  An attempt that runs out of
time might as well not have been made. -/
theorem serves_until_signalled (ops : List Latch.Op) (observer : Nat)
    (obtained : Latch.Obtained ops observer) (events : List (Event κ)) (started : List (Started κ))
    (next : AcceptLoop)
    (runs : (start (Latch.fresh.after ops) observer (Latch.obtained_iff.mp obtained)).run? events =
      some (started, next)) :
    Orderly ops observer events started next ∧
      ∀ (before : List (Event κ)) (between : List Latch.Op) (after : List (Event κ)),
        events = before ++ .look :: (between.map .heard ++ .settle .timeout :: after) →
        (start (Latch.fresh.after ops) observer (Latch.obtained_iff.mp obtained)).run?
          (before ++ (between.map .heard ++ after)) = some (started, next) := by
  rw [run?_eq_some_iff] at runs
  refine ⟨⟨runs.connections_eq, runs.enrolled.own, fun _ => runs.sees obtained rfl,
    runs.stopped_iff rfl (by simp [start]), fun before after same => ?_, fun before after same => ?_,
    fun _ => runs.broken_iff rfl, runs.goesOn rfl rfl⟩, fun before between after same => ?_⟩
  · subst same
    exact runs.at_once rfl
  · subst same
    exact runs.last rfl
  · subst same
    exact run?_eq_some_iff.mpr runs.without_timeout

/-- A connection, then the signal while the next attempt is being made, and a connection all the same. -/
def crossing : List (Event Nat) :=
  [.look, .settle (.connection 1), .look, .settle .timeout, .look, .heard .signal,
    .settle (.connection 2), .heard .drop, .look]

/-- Both connections have a program, both programs see the signal, and the server has stopped. -/
theorem serves_until_signalled_crossing : Latch.Obtained [.subscribe] 0 ∧
    ∃ started next, fresh.run? crossing = some (started, next) ∧ next.stage = .stopped ∧
      started.map (·.connection) = [1, 2] ∧
        ∀ program ∈ started, next.latch.answer (.isSignalled program.observer) = .seen true := by
  have obtained : Latch.Obtained [.subscribe] 0 := by
    unfold Latch.Obtained
    decide
  obtain ⟨⟨started, next⟩, runs⟩ : ∃ done, fresh.run? crossing = some done := ⟨_, rfl⟩
  obtain ⟨orderly, -⟩ := serves_until_signalled [.subscribe] 0 obtained crossing started next runs
  refine ⟨obtained, started, next, runs, ?_, orderly.connections, fun program member => ?_⟩
  · exact orderly.stopped_iff.mpr ⟨crossing.dropLast, [], rfl, by decide⟩
  · exact (orderly.sees program member).2.1

end AcceptLoop

end Hashgate
