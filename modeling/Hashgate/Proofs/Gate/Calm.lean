import Hashgate.Proofs.Gate.Race

/-! # What a gate logs as an error

A gate logs an error exactly where a failure is its own.  So a session that fails for another reason, or
does not fail at all, has nothing of the kind in its log, neither on the way nor at its end.

* `Calm` — a trace in which nothing is logged as an error.
* `Calms` — a session that logs no error, whatever it meets.
* `Course.calm`, `calm_farewells` — the log of a session that does not fail for a reason of the gate's own.
-/

namespace Hashgate

def Act.IsCalm : Act → Prop
  | .log entry => entry.level ≠ .error
  | _ => True

/-- A trace in which nothing is logged as an error. -/
def Calm (trace : Trace) : Prop := ∀ mark ∈ trace, mark.2.IsCalm

@[simp] theorem calm_nil : Calm [] := nofun

@[simp] theorem calm_cons {mark : Nat × Act} {trace : Trace} :
    Calm (mark :: trace) ↔ mark.2.IsCalm ∧ Calm trace := List.forall_mem_cons

@[simp] theorem calm_append {trace later : Trace} : Calm (trace ++ later) ↔ Calm trace ∧ Calm later :=
  List.forall_mem_append

/-! ## Entries -/

theorem ErrorKind.isServerError_iff {kind : ErrorKind} :
    kind.isServerError = true ↔ kind = .internal := by
  cases kind <;> simp [isServerError]

/-- The errors that are logged as such are those of the gate itself. -/
theorem GateError.level_entry_ne_error {error : GateError} (foreign : error.kind ≠ .internal) :
    error.entry.level ≠ .error := by
  cases error with
  | randomSource => exact absurd rfl foreign
  | invalidConfig => exact absurd rfl foreign
  | _ => nofun

theorem Judgement.level_ne_error {judgement : Judgement} :
    ∀ entry ∈ judgement.entries, entry.level ≠ .error := by
  intro entry member
  unfold entries at member
  split at member
  · cases List.mem_singleton.mp member
    nofun
  · cases member

namespace Session

/-! ## Sessions that log no error -/

variable {α β : Type}

def Calms (x : Session α) : Prop := ∀ s, Calm (x.play s).1

theorem Calms.bind {x : Session α} {f : α → Session β} (first : Calms x) (last : ∀ a, Calms (f a)) :
    Calms (x >>= f) := by
  intro s
  have early := first s
  rw [play_bind]
  rcases begun : x.play s with ⟨trace, _ | ⟨a, left⟩⟩
  · rwa [begun] at early
  · rw [begun] at early
    exact calm_append.mpr ⟨early, last a left⟩

theorem calms_pure (a : α) : Calms (pure a) := fun _ => calm_nil

theorem calms_note {act : Act} (calm : act.IsCalm) : Calms (note act) :=
  fun _ => calm_cons.mpr ⟨calm, calm_nil⟩

theorem calms_log {entry : Log.Entry} (calm : entry.level ≠ .error) : Calms (log entry) :=
  calms_note calm

theorem calms_flush : Calms flush := fun _ => calm_cons.mpr ⟨trivial, calm_nil⟩

theorem calms_close : Calms close := fun _ => calm_cons.mpr ⟨trivial, calm_nil⟩

theorem calms_send (octets : List UInt8) : Calms (send octets) := by
  intro s
  obtain ⟨trace, result, left, played, sending⟩ := exists_sending_send octets s
  rw [played]
  intro mark member
  obtain ⟨-, ⟨taken, write⟩ | ⟨fault, write⟩⟩ := sending.attempts mark member
  · exact write ▸ trivial
  · exact write ▸ trivial

end Session

namespace Gate

open Session

variable {gate : Gate} {signal : Signal} {challenge : String} {s left : Stream} {conduct : Conduct}
  {trace : Trace}

theorem holdsOfSpeech_calms : HoldsOfSpeech Calms where
  pure := calms_pure
  bind := Calms.bind
  log := fun level => calms_log (by simp [level])
  attempt := fun _ => calms_note trivial
  send := calms_send
  flush := calms_flush
  close := calms_close

theorem calms_reject {error : GateError} (foreign : error.kind ≠ .internal) : Calms (reject error) :=
  holdsOfSpeech_calms.reject (calms_log (GateError.level_entry_ne_error foreign))

theorem calms_breakOff (e : IoError) : Calms (breakOff e) :=
  (calms_log (by simp [GateError.entry])).bind fun _ => holdsOfSpeech_calms.hangUp.bind fun _ => calms_pure _

/-! ## Sessions at a gate -/

/-- A conduct that does not end as a failure of the gate's own. -/
def Conduct.Faultless (conduct : Conduct) : Prop :=
  ∀ failure, conduct.Ends (.failed failure) → failure.kind ≠ .internal

theorem Conduct.faultless_after : (conduct.after trace).Faultless ↔ conduct.Faultless := by
  simp only [Faultless, ends_after]

theorem calm_reject {error : GateError} (faultless : (Conduct.stays ((reject error).play s)).Faultless) :
    Calm ((reject error).play s).1 :=
  calms_reject (faultless _ (Conduct.ends_of_decidedAt
    (decidedAt_of_speaks (speaks_reject error) nofun s))) s

theorem calm_concluded {submission : Submission} (faultless : (concluded submission s).Faultless) :
    Calm (concluded submission s).own := by
  have fair (failure : Failure) (fails : submission.outcome = .failed failure) :
      failure.kind ≠ .internal := by
    have ends := Conduct.ends_of_decidedAt (decidedAt_concluded submission s)
    exact faultless failure (fails ▸ ends)
  -- Only what is lost, or failed for a reason of the gate's own, is logged as an error.
  cases submission with
  | verified header valid =>
    cases valid with
    | true => simp [concluded, Act.IsCalm]
    | false =>
      exact ((calms_log (by simp)).bind fun _ => (holdsOfSpeech_calms.dismiss _).bind fun _ => calms_pure _) s
  | disconnected =>
    exact ((calms_log (by simp)).bind fun _ => holdsOfSpeech_calms.hangUp.bind fun _ => calms_pure _) s
  | failed error => exact calms_reject (fair _ rfl) s
  | lost => exact absurd rfl (fair _ rfl)

theorem Submits.calm {verify : Verifier} {submission : Submission}
    (submits : Submits verify challenge s trace submission left) : Calm trace := by
  cases submits with
  | unread => simp [Act.IsCalm]
  | ended => simp [Act.IsCalm]
  | @judged octets result _ taken nonempty equal =>
    unfold judging
    cases verify result challenge with
    | judged judgement =>
      have entries : Calm (judgement.entries.map fun entry => (left.now, .log entry)) := by
        intro mark member
        obtain ⟨entry, among, rfl⟩ := List.mem_map.mp member
        exact Judgement.level_ne_error entry among
      simp [Act.IsCalm, entries]
    | refused error => simp [Act.IsCalm]
    | died => simp [Act.IsCalm]

theorem Awaits.calm (awaits : Awaits gate challenge signal s conduct) (faultless : conduct.Faultless) :
    Calm conduct.own := by
  cases awaits with
  | expired => simp [Act.IsCalm, holdsOfSpeech_calms.giveUp _]
  | interrupted => simp [Act.IsCalm, holdsOfSpeech_calms.giveUp _]
  | answered _ _ submits =>
    have later := calm_concluded (Conduct.faultless_after.mp faultless)
    simp [Act.IsCalm, submits.calm, later]

theorem Exchanges.calm (exchanges : Exchanges gate signal s conduct) (faultless : conduct.Faultless) :
    Calm conduct.own := by
  cases exchanges with
  | unissued =>
    have later := calm_reject (Conduct.faultless_after.mp faultless)
    simp [Act.IsCalm, later]
  | @unsaid issued words e asked _ tells =>
    have said := holdsOfSpeech_calms.say issued.header s
    rw [tells] at said
    simp [Act.IsCalm, Issued.entry, said, calms_breakOff e _]
  | @said issued words asked rest _ tells awaits =>
    have said := holdsOfSpeech_calms.say issued.header s
    rw [tells] at said
    have later := awaits.calm (Conduct.faultless_after.mp faultless)
    simp [Act.IsCalm, Issued.entry, said, later]

/-- A gate logs an error only on the way to a failure of its own. -/
theorem Course.calm (course : Course gate signal s conduct) (faultless : conduct.Faultless) :
    Calm conduct.own := by
  cases course with
  | stopped => exact holdsOfSpeech_calms.giveUp _
  | stalled => exact calm_nil
  | interrupted => exact holdsOfSpeech_calms.giveUp _
  | unheard =>
    have later := calm_reject (Conduct.faultless_after.mp faultless)
    simp [Act.IsCalm, later]
  | @heard greeted opening opened _ _ _ _ _ exchanges =>
    have greets : (greeting opening).level ≠ .error := by
      unfold greeting
      split <;> nofun
    have later := exchanges.calm (Conduct.faultless_after.mp faultless)
    simp [Act.IsCalm, greets, later]

theorem Conduct.calm_play {next : Session Unit} (calm : Calm conduct.own) (calms : Calms next) :
    Calm (conduct.play next).1 := by
  cases conduct with
  | stays played => exact calm
  | serves own left => exact calm_append.mpr ⟨calm, calm_cons.mpr ⟨trivial, calms left⟩⟩

/-- What is logged at the end of a session is an error only if that is a failure of the gate's own. -/
theorem calm_farewells {start : Nat} {ended : Option (Outcome × Stream)}
    (fair : ∀ failure left, ended = some (.failed failure, left) → failure.kind ≠ .internal) :
    Calm (farewells start ended) := by
  rcases ended with _ | ⟨outcome, left⟩
  · exact calm_nil
  · refine calm_cons.mpr ⟨?_, calm_nil⟩
    cases outcome with
    | failed failure =>
      have foreign := fair failure left rfl
      change (farewell (.failed failure) (left.now - start)).level ≠ .error
      simp only [farewell]
      split
      · next server => exact absurd (ErrorKind.isServerError_iff.mp server) foreign
      · split <;> nofun
    | _ => nofun

end Gate

end Hashgate
