import Hashgate.Server.Latch

/-! # What the observers of a latch find out

All that an observer can find out lies in the channel, and nobody but the controller puts anything into it.
So what an observer finds out does not depend on who it is, on where it came from, or on what observers
have done: it depends on whether the controller has signalled before it left.

* `Signals` — the controller signals, among some operations.
* `isSignalled_after` — what a run leaves in the channel.
* `resolves_iff` — a wait comes to an end exactly if the signal has been given when it is looked at last.
* `mem_answers_iff` — which observers there are.
* `observers_agree` — what an observer finds out after any operations.
-/

namespace Hashgate.Latch

variable {l : Latch} {op : Op} {ops earlier later : List Op} {observer : Nat}

/-! ## Runs -/

/-- The latch after some operations. -/
def after (l : Latch) (ops : List Op) : Latch := ops.foldl next l

@[simp] theorem after_nil (l : Latch) : l.after [] = l := rfl

@[simp] theorem after_cons (l : Latch) (op : Op) (ops : List Op) :
    l.after (op :: ops) = (l.next op).after ops := rfl

theorem after_append (l : Latch) (earlier later : List Op) :
    l.after (earlier ++ later) = (l.after earlier).after later := List.foldl_append

theorem run_snd (l : Latch) (ops : List Op) : (l.run ops).2 = l.after ops := by
  induction ops generalizing l with
  | nil => rfl
  | cons op rest ih => exact ih (l.next op)

/-- The answers of a run, one by one. -/
theorem run_answers_append (l : Latch) (earlier : List Op) (op : Op) (later : List Op) :
    (l.run (earlier ++ op :: later)).1[earlier.length]? = some ((l.after earlier).answer op) := by
  induction earlier generalizing l with
  | nil => rfl
  | cons first rest ih => exact ih (l.next first)

/-! ## The controller -/

/-- Among some operations there is a signal, before the controller leaves. -/
def Signals (ops : List Op) : Prop := .signal ∈ ops.takeWhile (· != .drop)

instance (ops : List Op) : Decidable (Signals ops) := inferInstanceAs (Decidable (_ ∈ _))

theorem signals_cons : Signals (op :: ops) ↔ op = .signal ∨ op ≠ .drop ∧ Signals ops := by
  cases op <;> simp [Signals]

theorem signals_append :
    Signals (earlier ++ later) ↔ Signals earlier ∨ .drop ∉ earlier ∧ Signals later := by
  induction earlier with
  | nil => simp [Signals]
  | cons op rest ih =>
    rw [List.cons_append, signals_cons, signals_cons, ih, List.mem_cons, not_or]
    by_cases leaves : op = .drop
    · simp [leaves]
    · simp only [ne_eq, leaves, not_false_eq_true, true_and, Ne.symm leaves]
      exact or_assoc.symm

theorem Signals.append (signals : Signals earlier) (later : List Op) : Signals (earlier ++ later) :=
  signals_append.mpr (.inl signals)

/-- The observer that does it, unless it is the controller who does. -/
def Op.observer? : Op → Option Nat
  | .clone observer | .isSignalled observer | .wait observer => some observer
  | _ => none

/-- What observers do tells nobody anything. -/
theorem signals_insert (own : op.observer?.isSome) :
    Signals (earlier ++ op :: later) ↔ Signals (earlier ++ later) := by
  have silent : Signals (op :: later) ↔ Signals later := by
    rw [signals_cons]
    cases op <;> simp [Op.observer?] at own ⊢
  rw [signals_append, signals_append, silent]

/-- Nobody but the controller does anything to the channel. -/
theorem channel_next (l : Latch) (op : Op) : (l.next op).channel =
    match op with
    | .signal => if l.isControlled then l.channel.put true else l.channel
    | .drop => l.channel.close
    | _ => l.channel := by
  unfold next
  cases op with
  | drop => rfl
  | signal => exact apply_ite channel _ _ _
  | _ => split <;> rfl

theorem isControlled_next : (l.next op).isControlled = true ↔ l.isControlled = true ∧ op ≠ .drop := by
  rw [isControlled, channel_next]
  cases op with
  | signal => cases controlled : l.isControlled <;> simp_all [isControlled, Watch.put]
  | _ => simp [isControlled, Watch.close]

theorem isSignalled_next :
    (l.next op).isSignalled = true ↔ l.isSignalled = true ∨ l.isControlled = true ∧ op = .signal := by
  rw [isSignalled, channel_next]
  cases op with
  | signal => cases controlled : l.isControlled <;> simp [isSignalled, Watch.put]
  | _ => simp [isSignalled, Watch.close]

/-- The signal is in the channel if it was there before, or if the controller gives it while it is there. -/
theorem isSignalled_after : (l.after ops).isSignalled = true ↔
    l.isSignalled = true ∨ l.isControlled = true ∧ Signals ops := by
  induction ops generalizing l with
  | nil => simp [Signals]
  | cons op rest ih =>
    rw [after_cons, ih, isSignalled_next, isControlled_next, signals_cons, or_assoc, and_assoc,
      ← and_or_left]

/-- Who is there to observe is nothing to the channel. -/
theorem channel_after_congr {m : Latch} (same : l.channel = m.channel) (ops : List Op) :
    (l.after ops).channel = (m.after ops).channel := by
  induction ops generalizing l m with
  | nil => exact same
  | cons op rest ih =>
    refine ih ?_
    rw [channel_next, channel_next, isControlled, isControlled, same]

theorem isSignalled_fresh_after : (fresh.after ops).isSignalled = true ↔ Signals ops := by
  have quiet : fresh.isSignalled = false := rfl
  have controlled : fresh.isControlled = true := rfl
  simp [isSignalled_after, quiet, controlled]

/-! ## Waiting -/

theorem waitFor_eq_met_iff : l.channel.waitFor id = .met ↔ l.isSignalled = true := by
  unfold Watch.waitFor isSignalled
  cases l.channel.value with
  | true => simp
  | false => cases l.channel.isOpen <;> simp

theorem waitFor_eq_closed_iff :
    l.channel.waitFor id = .closed ↔ l.isSignalled = false ∧ l.isControlled = false := by
  unfold Watch.waitFor isSignalled isControlled
  cases l.channel.value with
  | true => simp
  | false => cases l.channel.isOpen <;> simp

/-- A wait comes to an end while something is done exactly if the signal has been given by then. -/
theorem resolves_iff : l.resolves ops = true ↔ (l.after ops).isSignalled = true := by
  induction ops generalizing l with
  | nil => simp [resolves, waitFor_eq_met_iff]
  | cons op rest ih =>
    rw [resolves, isSignalled_after]
    cases waited : l.channel.waitFor id with
    | met => simp [waitFor_eq_met_iff.mp waited]
    | closed =>
      obtain ⟨silent, left⟩ := waitFor_eq_closed_iff.mp waited
      simp [silent, left]
    | notYet =>
      dsimp only
      rw [ih, ← after_cons, isSignalled_after]

/-! ## Observers -/

theorem permits_observer (own : op.observer? = some observer) :
    l.permits op = true ↔ observer < l.observers := by
  cases op <;> cases own <;> simp [permits]

theorem answer_isSignalled (there : observer < l.observers) :
    l.answer (.isSignalled observer) = .seen l.isSignalled := by
  rw [answer, if_pos ((permits_observer rfl).mpr there)]

theorem answer_wait (there : observer < l.observers) :
    l.answer (.wait observer) = if l.isSignalled = true then .fired else .pending := by
  rw [answer, if_pos ((permits_observer rfl).mpr there)]
  simp [resolves_iff]

theorem answer_clone (there : observer < l.observers) :
    l.answer (.clone observer) = .observer l.observers := by
  rw [answer, if_pos ((permits_observer rfl).mpr there)]

theorem observers_le_after (l : Latch) (ops : List Op) : l.observers ≤ (l.after ops).observers := by
  induction ops generalizing l with
  | nil => exact Nat.le_refl _
  | cons op rest ih => exact Nat.le_trans (l.observers_le_next op) (ih _)

/-- An operation gives out the next observer, or there are as many as before. -/
theorem answer_cases (l : Latch) (op : Op) :
    l.answer op = .observer l.observers ∧ (l.next op).observers = l.observers + 1 ∨
      (∀ number, l.answer op ≠ .observer number) ∧ (l.next op).observers = l.observers := by
  unfold answer next
  split
  · cases op with
    | wait observer => exact .inr ⟨fun number => by dsimp only; split <;> nofun, rfl⟩
    | subscribe => exact .inl ⟨rfl, rfl⟩
    | clone => exact .inl ⟨rfl, rfl⟩
    | _ => exact .inr ⟨nofun, rfl⟩
  · exact .inr ⟨nofun, rfl⟩

/-- The observers that a run gives out are those that are there in the end and were not before. -/
theorem mem_answers_iff : .observer observer ∈ (l.run ops).1 ↔
    l.observers ≤ observer ∧ observer < (l.after ops).observers := by
  induction ops generalizing l with
  | nil => simp only [run, List.not_mem_nil, after_nil, false_iff]; omega
  | cons op rest ih =>
    have unfolded : (l.run (op :: rest)).1 = l.answer op :: ((l.next op).run rest).1 := rfl
    have grows := observers_le_after (l.next op) rest
    rw [unfolded, List.mem_cons, ih, after_cons]
    obtain ⟨gives, more⟩ | ⟨unlike, same⟩ := answer_cases l op
    · rw [gives, Answer.observer.injEq]
      omega
    · simp only [(unlike observer).symm, false_or, same]

/-- Some operations have given out an observer. -/
def Obtained (ops : List Op) (observer : Nat) : Prop := .observer observer ∈ (fresh.run ops).1

theorem obtained_iff : Obtained ops observer ↔ observer < (fresh.after ops).observers := by
  simp [Obtained, mem_answers_iff, fresh]

theorem Obtained.append (obtained : Obtained earlier observer) (later : List Op) :
    Obtained (earlier ++ later) observer := by
  rw [obtained_iff, after_append]
  exact Nat.lt_of_lt_of_le (obtained_iff.mp obtained) (observers_le_after _ _)

/-- All that an observer can find out: by looking, by waiting for a while, and by waiting while others do
something. -/
def view (l : Latch) (observer : Nat) : Answer × Answer × (List Op → Bool) :=
  (l.answer (.isSignalled observer), l.answer (.wait observer), l.resolves)

theorem view_of_lt (there : observer < l.observers) : l.view observer =
    (.seen l.isSignalled, if l.isSignalled = true then .fired else .pending,
      fun later => (l.after later).isSignalled) := by
  have resolves : l.resolves = fun later => (l.after later).isSignalled :=
    funext fun later => Bool.eq_iff_iff.mpr resolves_iff
  rw [view, answer_isSignalled there, answer_wait there, resolves]

/-- What an observer finds out is a matter of the channel alone. -/
theorem view_congr {m : Latch} {other : Nat} (same : l.channel = m.channel)
    (there : observer < l.observers) (otherThere : other < m.observers) :
    l.view observer = m.view other := by
  have signalled (ops : List Op) : (l.after ops).isSignalled = (m.after ops).isSignalled :=
    congrArg Watch.value (channel_after_congr same ops)
  have now : l.isSignalled = m.isSignalled := signalled []
  rw [view_of_lt there, view_of_lt otherThere, funext signalled, now]

theorem view_eq (obtained : Obtained ops observer) : (fresh.after ops).view observer =
    (.seen (decide (Signals ops)), if Signals ops then .fired else .pending,
      fun later => decide (Signals (ops ++ later))) := by
  have signalled (ops : List Op) : (fresh.after ops).isSignalled = decide (Signals ops) := by
    rw [Bool.eq_iff_iff, isSignalled_fresh_after, decide_eq_true_iff]
  simp only [view_of_lt (obtained_iff.mp obtained), ← after_append, signalled, decide_eq_true_iff]

/-- **All observers of a latch agree.**  Whatever has been done, an observer that was given out at some time,
by the controller or by another observer, sees the signal exactly if the controller has given it, and so
comes a wait to an end, be it the first or not, and be the controller there or not.  A wait that has to wait
comes to an end as soon as the signal is given.  If the controller leaves without it, no wait ever does.
The signal is never taken back, and nothing that an observer does is anything to another. -/
theorem observers_agree (ops : List Op) (observer : Nat) (obtained : Obtained ops observer) :
    (∀ later, (fresh.run (ops ++ .isSignalled observer :: later)).1[ops.length]? =
      some (.seen (decide (Signals ops)))) ∧
    (∀ later, (fresh.run (ops ++ .wait observer :: later)).1[ops.length]? =
      some (if Signals ops then .fired else .pending)) ∧
    (∀ later, (fresh.run ops).2.resolves later = true ↔ Signals (ops ++ later)) ∧
    (.drop ∈ ops → ¬ Signals ops → ∀ later, (fresh.run ops).2.resolves later = false) ∧
    (∀ later, Obtained (ops ++ later) observer ∧ (Signals ops → Signals (ops ++ later))) ∧
    (∀ later, ∃ another, (fresh.run (ops ++ .clone observer :: later)).1[ops.length]? =
      some (.observer another)) ∧
    ∀ op later, op.observer?.isSome → (fresh.run (ops ++ op :: later)).2.view observer =
      (fresh.run (ops ++ later)).2.view observer := by
  have seen := view_eq obtained
  have looks := congrArg Prod.fst seen
  have waits := congrArg (·.2.1) seen
  have resolves (later : List Op) := congrFun (congrArg (·.2.2) seen) later
  simp only [view] at looks waits resolves
  refine ⟨fun later => ?_, fun later => ?_, fun later => ?_, fun left silent later => ?_,
    fun later => ⟨obtained.append later, fun signals => signals.append later⟩,
    fun later => ⟨(fresh.after ops).observers, ?_⟩, fun op later own => ?_⟩
  · rw [run_answers_append, looks]
  · rw [run_answers_append, waits]
  · rw [run_snd, resolves, decide_eq_true_iff]
  · rw [run_snd, resolves, decide_eq_false_iff_not, signals_append]
    rintro (signals | ⟨stays, -⟩)
    · exact silent signals
    · exact stays left
  · rw [run_answers_append, answer_clone (obtained_iff.mp obtained)]
  · rw [run_snd, run_snd, view_eq (obtained.append _), view_eq (obtained.append _)]
    simp only [signals_insert own, List.append_assoc, List.cons_append]

/-- An observer that was given out after the signal, and after the controller had left, by the observer of an
observer, is woken, and one whose controller has left without a signal is not. -/
theorem observers_agree_late :
    (Obtained [.subscribe, .clone 0, .signal, .drop, .clone 1] 2 ∧
      (fresh.run ([.subscribe, .clone 0, .signal, .drop, .clone 1] ++ [.wait 2, .wait 2])).1[5]? =
        some .fired) ∧
    Obtained [.subscribe, .drop] 0 ∧
      ∀ later, (fresh.run [.subscribe, .drop]).2.resolves later = false := by
  have late : Obtained [.subscribe, .clone 0, .signal, .drop, .clone 1] 2 := by
    unfold Obtained
    decide
  have early : Obtained [.subscribe, .drop] 0 := by
    unfold Obtained
    decide
  obtain ⟨-, woken, -⟩ := observers_agree _ 2 late
  obtain ⟨-, -, -, forsaken, -⟩ := observers_agree _ 0 early
  exact ⟨⟨late, woken [.wait 2]⟩, early, forsaken (by decide) (by decide)⟩

end Hashgate.Latch
