import Hashgate.Downstream
import Hashgate.Proofs.Gate.Course
import Hashgate.Proofs.Session.Promptness

/-! # Gates are prompt

A gate that is not told to stop does nothing of its own accord but give up when its patience is at an
end.  So gates are prompt, if the programs behind them are, and so are the programs that are there.

* `prompt_awaitResult` — the one wait of a gate that has an end.
* `prompt_handle`, `prompt_serve` — a gate before a prompt program.
* `prompt_handler`, `prompt_tell`, `prompt_echo` — programs behind a gate.
-/

namespace Hashgate

open Session

namespace Gate

variable {gate : Gate} {next : Session Unit} {challenge : String} {s : Stream}

theorem prompt_conclude (prompt : Prompt next) (submission : Submission) :
    Prompt (conclude next submission) := by
  cases submission with
  | disconnected =>
    exact (prompt_log _).bind fun _ => speaks_hangUp.prompt.bind fun _ => prompt_pure _
  | verified header valid =>
    cases valid with
    | true =>
      exact (prompt_log _).bind fun _ => (prompt_note _).bind fun _ => prompt.bind fun _ =>
        prompt_pure _
    | false =>
      exact (prompt_log _).bind fun _ => (speaks_dismiss _).prompt.bind fun _ => prompt_pure _
  | failed error => exact (speaks_reject error).prompt
  | lost => exact (prompt_log _).bind fun _ => (speaks_dismiss _).prompt.bind fun _ => prompt_pure _

theorem prompt_submit (verify : Verifier) (challenge : String) (octets : List UInt8) :
    Prompt (submit verify challenge octets) := by
  refine (prompt_log _).bind fun _ => (prompt_note _).bind fun _ => ?_
  cases verify (Utf8.toStringLossy octets) challenge with
  | judged judgement => exact (prompt_logAll _).bind fun _ => prompt_pure _
  | refused error => exact prompt_pure _
  | died => exact prompt_pure _

theorem prompt_awaitSubmission (verify : Verifier) (challenge : String) :
    Prompt (awaitSubmission verify challenge) := by
  refine (prompt_receive _).bind fun found => ?_
  cases found with
  | error e => exact prompt_pure _
  | ok octets =>
    cases octets with
    | nil => exact prompt_pure _
    | cons octet rest => exact prompt_submit _ _ _

/-- The wait for a result that comes. -/
def awaitAnswer (gate : Gate) (challenge : String) (next : Session Unit) : Session Outcome := do
  note .lend
  awaitFirst [((← ready?), ())]
  let submission ← awaitSubmission gate.verify challenge
  note .giveBack
  conclude next submission

theorem prompt_awaitAnswer (prompt : Prompt next) (gate : Gate) (challenge : String) :
    Prompt (gate.awaitAnswer challenge next) :=
  (prompt_note _).bind fun _ => prompt_race (by simp) fun _ => (prompt_awaitSubmission _ _).bind fun _ =>
    (prompt_note _).bind fun _ => prompt_conclude prompt _

theorem Submits.play_awaitAnswer {ready : Nat} {trace : Trace} {submission : Submission}
    {left : Stream} (isReady : s.ready? = some ready)
    (submits : Submits gate.verify challenge (s.advance ready) trace submission left)
    (next : Session Unit) :
    (gate.awaitAnswer challenge next).play s =
      ((concluded submission left).after
        ((s.now, .lend) :: trace ++ [(left.now, .giveBack)])).play next := by
  have wins : Wins [(s.ready?, ())] ready () := .head isReady (notAfter_nil ready)
  simp [awaitAnswer, play_bind, play_awaitFirst_of_wins wins, submits.play_eq isReady, play_conclude]

/-- What a gate does once its patience is at an end. -/
theorem timely_expired (entry : Log.Entry) {deadline : Nat} (later : s.now ≤ deadline) (moment : Nat) :
    Timely moment s
      ((s.now, .lend) :: (deadline, .expire) :: (deadline, .giveBack) :: (deadline, .log entry) ::
        (giveUp.play (s.advance deadline)).1)
      (giveUp.play (s.advance deadline)).2 := by
  obtain ⟨trace, outcome, left, played, -, ⟨writes, rfl⟩, acts⟩ := speaks_giveUp (s.advance deadline)
  have stops : (s.advance deadline).now = deadline := Nat.max_eq_right later
  rw [played]
  have expired (other : Nat) (past : deadline ≤ other) :
      Expired ((s.now, .lend) :: (deadline, .expire) :: (deadline, .giveBack) :: (deadline, .log entry) ::
        trace) other :=
    ⟨(deadline, .expire), by simp, rfl, past⟩
  constructor
  · intro mark member
    cases List.mem_cons.mp member with
    | inl first =>
      rw [first]
      exact ⟨Nat.le_refl _, fun arrived => .inl arrived.now_le⟩
    | inr others =>
      have late : mark.1 = deadline := by
        simp only [List.mem_cons] at others
        obtain rfl | rfl | rfl | spoken := others
        · rfl
        · rfl
        · rfl
        · exact (acts mark spoken).1.trans stops
      exact ⟨late ▸ later, fun _ => .inr (expired _ (Nat.le_of_eq late.symm))⟩
  · rintro _ _ ⟨⟩
    have late : deadline ≤ (s.advance deadline).now := Nat.le_of_eq stops.symm
    exact ⟨Nat.le_trans later late, fun _ => .inr (expired _ late)⟩

/-- The wait for a result ends at what the peer does, or at the deadline. -/
theorem prompt_awaitResult (prompt : Prompt next) (gate : Gate) (challenge : String) :
    Prompt (gate.awaitResult challenge .never next) := by
  intro moment s
  obtain ⟨conduct, awaits⟩ := exists_awaits gate challenge .never s
  rw [awaits.play_eq]
  cases awaits with
  | expired =>
    have stops : (s.advance (s.now + gate.config.patience)).now = s.now + gate.config.patience :=
      Nat.max_eq_right (Nat.le_add_right _ _)
    rw [stops]
    exact timely_expired _ (Nat.le_add_right _ _) moment
  | interrupted given => cases given
  | answered ready _ submits =>
    rw [← submits.play_awaitAnswer ready]
    exact prompt_awaitAnswer prompt gate challenge moment s

theorem prompt_exchange (prompt : Prompt next) (gate : Gate) :
    Prompt (gate.exchange .never next) := by
  refine (prompt_note _).bind fun _ => ?_
  cases gate.config.issue gate.draw gate.generate with
  | error e => exact (speaks_reject e).prompt
  | ok issued =>
    refine (prompt_log _).bind fun _ => (speaks_say _).prompt.bind fun said => ?_
    cases said with
    | error e => exact (speaks_breakOff e).prompt
    | ok _ => exact prompt_awaitResult prompt gate _

theorem prompt_greet (prompt : Prompt next) (gate : Gate) : Prompt (gate.greet .never next) := by
  refine (prompt_receive _).bind fun found => ?_
  cases found with
  | error e => exact (speaks_reject _).prompt
  | ok octets =>
    -- The first message is logged in one of two ways, and then the exchange begins.
    cases octets with
    | nil => exact (prompt_log _).bind fun _ => prompt_exchange prompt gate
    | cons => exact (prompt_log _).bind fun _ => prompt_exchange prompt gate

theorem prompt_handle {next : Handler} (prompt : Prompt (next .never)) (gate : Gate) :
    Prompt (gate.handle next .never) := by
  refine prompt_now.bind fun moment => ?_
  split
  · exact speaks_giveUp.prompt
  · refine prompt_race (by simp [Signal.moment?]) fun wake => ?_
    cases wake with
    | message => exact prompt_greet prompt gate
    | signal => exact speaks_giveUp.prompt
    | deadline => exact speaks_giveUp.prompt

/-- A gate before a prompt program is a prompt program. -/
theorem prompt_serve {next : Handler} (prompt : Prompt (next .never)) (gate : Gate) :
    Prompt (gate.serve next .never) :=
  prompt_now.bind fun _ => (prompt_handle prompt gate).bind fun _ => prompt_now.bind fun _ =>
    prompt_log _

end Gate

/-! ## Programs behind a gate -/

theorem QuoteService.prompt_handler (service : QuoteService) (draw : Nat) (signal : Signal) :
    Prompt (service.handler draw signal) := by
  refine prompt_now.bind fun _ => (prompt_logAll _).bind fun _ => (prompt_log _).bind fun _ =>
    (prompt_note _).bind fun _ => (prompt_send _).bind fun sent => ?_
  have closes {ends : Except IoError Unit → Session Unit} (failed : ∀ e, Prompt (ends (.error e)))
      (done : Prompt (ends (.ok ()))) :
      Prompt (log (Log.debug "close TCP connection" []) >>= fun _ => close >>= ends) := by
    refine (prompt_log _).bind fun _ => prompt_close.bind fun closed => ?_
    cases closed with
    | error e => exact failed e
    | ok _ => exact done
  cases sent with
  | error e => exact (prompt_log _).bind fun _ => closes (fun _ => prompt_log _) (prompt_pure ())
  | ok _ => exact closes (fun _ => prompt_log _) (prompt_pure ())

theorem prompt_tell (octets : List UInt8) (signal : Signal) : Prompt (tell octets signal) :=
  (prompt_send _).bind fun _ => prompt_close.bind fun _ => prompt_pure ()

theorem prompt_echo (host : String) (signal : Signal) : Prompt (echo host signal) := by
  refine (prompt_receive _).bind fun found => ?_
  cases found with
  | error e => exact prompt_close.bind fun _ => prompt_pure ()
  | ok octets => exact (prompt_send _).bind fun _ => prompt_close.bind fun _ => prompt_pure ()

end Hashgate
