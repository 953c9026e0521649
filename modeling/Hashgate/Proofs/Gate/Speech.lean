import Hashgate.Gate.Basic
import Hashgate.Proofs.Session.Accounting

/-! # What a gate says

All that a gate tells its peer is speech: it takes no time, and it reads and judges nothing.  A message
has been said when all its octets were taken and pushing them out did not fail.

* `speaks_dismiss`, `speaks_reject`, `speaks_giveUp` — the ways to end a session.
* `Saying`, `exists_saying` — what comes of saying a message.
* `HoldsOfSpeech` — a property that all of this has if its parts have it.
* `holdsOfSpeech_accounts` — that it keeps account of the stream.
-/

namespace Hashgate.Gate

open Session

/-! ## Messages -/

/-- What comes of saying a message. -/
structure Saying (message : String) (s : Stream) (trace : Trace) (result : Except IoError Unit)
    (left : Stream) : Prop where
  spoken : Spoken s trace left
  starts : written trace <+: Utf8.ofString message
  complete : result = .ok () ↔ written trace = Utf8.ofString message ∧ left.flushFault? = none
  /-- What was written as a whole is pushed out, and nothing is pushed out before. -/
  pushes : written trace = Utf8.ofString message → ∃ before,
    trace = before ++ [(s.now, .stream .flush)] ∧ ∀ mark ∈ before, mark.2 ≠ .stream .flush

theorem exists_saying (message : String) (s : Stream) :
    ∃ trace result left, (say message).play s = (trace, some (result, left)) ∧
      Saying message s trace result left := by
  obtain ⟨trace, result, left, played, sending⟩ := exists_sending_send (Utf8.ofString message) s
  have announced : Spoken s [(s.now, .log (Log.debug "write message" [("message", message)])),
      (s.now, .attempt message)] s := ⟨⟨s.writes, rfl⟩, by simp [Act.IsSpeech]⟩
  have begun := announced.append sending.spoken
  cases result with
  | error e =>
    have incomplete : ¬ written trace = Utf8.ofString message := by
      intro all
      cases sending.complete.mpr all
    refine ⟨_, .error e, left, by simp [say, play_bind, played], begun, ?_, ?_, ?_⟩
    · simpa [Act.octets] using sending.starts
    · simp [Act.octets, incomplete]
    · simp [Act.octets, incomplete]
  | ok _ =>
    have all := sending.complete.mp rfl
    obtain ⟨writes, rfl⟩ := sending.left_eq
    have pushed : Spoken { s with writes := writes } [(s.now, .stream .flush)]
        { s with writes := writes } := ⟨⟨writes, rfl⟩, by simp [Act.IsSpeech]⟩
    refine ⟨_, failWith (Stream.flushFault? { s with writes := writes }), _,
      by simp [say, play_bind, played], begun.append pushed, ?_, ?_, fun _ => ⟨_, rfl, ?_⟩⟩
    · simp [Act.octets, all]
    · cases flushing : Stream.flushFault? { s with writes := writes } <;>
        simp [Act.octets, all, failWith]
    · simp only [List.cons_append, List.nil_append, List.forall_mem_cons]
      exact ⟨by simp, by simp, sending.ne_flush⟩

theorem saying_of_play {message : String} {s left : Stream} {trace : Trace}
    {result : Except IoError Unit} (played : (say message).play s = (trace, some (result, left))) :
    Saying message s trace result left := by
  obtain ⟨_, _, _, same, saying⟩ := exists_saying message s
  rw [played] at same
  cases same
  exact saying

/-! ## Ends of a session -/

theorem speaks_say (message : String) : Speaks (say message) fun _ => True := by
  intro s
  obtain ⟨trace, result, left, played, saying⟩ := exists_saying message s
  exact ⟨trace, result, left, played, trivial, saying.spoken⟩

theorem speaks_hangUp : Speaks hangUp fun _ => True := by
  refine (speaks_log _).bind fun _ _ => speaks_close.bind fun closed _ => ?_
  cases closed with
  | error e => exact speaks_log _
  | ok _ => exact speaks_pure trivial

theorem speaks_dismiss (notice : String) : Speaks (dismiss notice) fun _ => True := by
  refine (speaks_say notice).bind fun said _ => ?_
  cases said with
  | error e => exact (speaks_log _).bind fun _ _ => speaks_hangUp
  | ok _ => exact speaks_hangUp

theorem speaks_reject (error : GateError) :
    Speaks (reject error) fun outcome => outcome = .failed (.ofGate error) :=
  (speaks_log _).bind fun _ _ => (speaks_dismiss _).bind fun _ _ => speaks_pure rfl

theorem speaks_giveUp : Speaks giveUp fun outcome => outcome = .timedOut :=
  (speaks_dismiss _).bind fun _ _ => speaks_pure rfl

/-! ## What all speech has in common -/

/-- A property that the parts of all speech have, and that is kept when sessions are put in a row. -/
structure HoldsOfSpeech (P : {α : Type} → Session α → Prop) : Prop where
  pure {α : Type} (a : α) : P (Session.pure a)
  bind {α β : Type} {x : Session α} {f : α → Session β} : P x → (∀ a, P (f a)) → P (x >>= f)
  log {entry : Log.Entry} : entry.level = .debug → P (Session.log entry)
  attempt (message : String) : P (note (.attempt message))
  send (octets : List UInt8) : P (Session.send octets)
  flush : P Session.flush
  close : P Session.close

namespace HoldsOfSpeech

variable {P : {α : Type} → Session α → Prop} (holds : HoldsOfSpeech P)

include holds

theorem say (message : String) : P (say message) := by
  refine holds.bind (holds.log rfl) fun _ => holds.bind (holds.attempt message) fun _ =>
    holds.bind (holds.send _) fun sent => ?_
  cases sent with
  | error e => exact holds.pure _
  | ok _ => exact holds.flush

theorem hangUp : P hangUp := by
  refine holds.bind (holds.log rfl) fun _ => holds.bind holds.close fun closed => ?_
  cases closed with
  | error e => exact holds.log rfl
  | ok _ => exact holds.pure _

theorem dismiss (notice : String) : P (dismiss notice) := by
  refine holds.bind (holds.say notice) fun said => ?_
  cases said with
  | error e => exact holds.bind (holds.log rfl) fun _ => holds.hangUp
  | ok _ => exact holds.hangUp

theorem giveUp : P giveUp := holds.bind (holds.dismiss _) fun _ => holds.pure _

theorem reject {error : GateError} (logs : P (Session.log error.entry)) : P (reject error) :=
  holds.bind logs fun _ => holds.bind (holds.dismiss _) fun _ => holds.pure _

end HoldsOfSpeech

theorem holdsOfSpeech_accounts : HoldsOfSpeech Accounts where
  pure := accounts_pure
  bind := Accounts.bind
  log := fun _ => accounts_log _
  attempt := fun _ => accounts_note rfl
  send := accounts_send
  flush := accounts_flush
  close := accounts_close

end Hashgate.Gate
