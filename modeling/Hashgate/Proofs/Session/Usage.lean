import Hashgate.Proofs.Session.Observation
import Hashgate.Proofs.Session.Waiting

/-! # Parts of a session

A session that comes to an end does so part by part.  What the parts read, write and meet with adds up to
what the whole session does, so a message and a read are looked at once, wherever they stand.

* `Gives` — a session comes to an end.
* `Uses`, `Uses.append` — what a part does with the stream, and two parts in a row.
* `uses_send`, `uses_receive` — a message and a read.
-/

namespace Hashgate

namespace Session

variable {α β : Type} {s left : Stream} {trace later : Trace}

/-- A session comes to an end, with a result and with a stream that is left. -/
def Gives (x : Session α) (s : Stream) (a : α) (left : Stream) : Prop :=
  ∃ trace, x.play s = (trace, some (a, left))

theorem Gives.bind {x : Session α} {f : α → Session β} {a : α} {b : β} {middle : Stream}
    (gives : Gives x s a middle) (goesOn : Gives (f a) middle b left) :
    Gives (x >>= f) s b left := by
  obtain ⟨first, begun⟩ := gives
  obtain ⟨later, played⟩ := goesOn
  exact ⟨first ++ later, by rw [play_bind_of_some f begun, played]⟩

/-! ## Use of the stream -/

/-- What part of a session does with the stream, if it neither pushes out nor closes. -/
structure Uses (trace : Trace) (count : Nat) (octets : List UInt8) (faults : List IoError) : Prop where
  reads_eq : reads trace = count
  written_eq : written trace = octets
  failures_eq : failures trace = faults
  flush_not_mem : .flush ∉ events trace
  close_not_mem : .close ∉ events trace

theorem Uses.append {count more : Nat} {octets rest : List UInt8} {faults others : List IoError}
    (uses : Uses trace count octets faults) (goesOn : Uses later more rest others) :
    Uses (trace ++ later) (count + more) (octets ++ rest) (faults ++ others) where
  reads_eq := by rw [reads_append, uses.reads_eq, goesOn.reads_eq]
  written_eq := by rw [written_append, uses.written_eq, goesOn.written_eq]
  failures_eq := by rw [failures_append, uses.failures_eq, goesOn.failures_eq]
  flush_not_mem := by simp [uses.flush_not_mem, goesOn.flush_not_mem]
  close_not_mem := by simp [uses.close_not_mem, goesOn.close_not_mem]

/-- An act that leaves the stream alone. -/
theorem Uses.cons {count moment : Nat} {octets : List UInt8} {faults : List IoError} {act : Act}
    (uses : Uses trace count octets faults) (inward : act.event? = none) :
    Uses ((moment, act) :: trace) count octets faults := by
  have wordless : act.octets = [] := by
    cases act with
    | stream => cases inward
    | _ => rfl
  constructor
  · simp [inward, uses.reads_eq]
  · simp [wordless, uses.written_eq]
  · simp [inward, uses.failures_eq]
  · simp [inward, uses.flush_not_mem]
  · simp [inward, uses.close_not_mem]

theorem uses_nil : Uses [] 0 [] [] := ⟨rfl, rfl, rfl, by simp, by simp⟩

/-- A message is written as far as it goes, and is written as a whole unless there is an error. -/
theorem uses_send {octets : List UInt8} {result : Except IoError Unit}
    (played : (send octets).play s = (trace, some (result, left))) :
    ∃ taken, taken <+: octets ∧ (result = .ok () ↔ taken = octets) ∧
      Uses trace 0 taken (errors result) := by
  obtain ⟨_, _, _, same, sending⟩ := exists_sending_send octets s
  cases played.symm.trans same
  have onlyWrites (event : StreamEvent) (member : event ∈ events trace) :
      (∃ taken, event = .write taken) ∨ ∃ fault, event = .writeError fault := by
    obtain ⟨mark, among, isEvent⟩ := List.mem_filterMap.mp member
    obtain ⟨-, ⟨taken, act⟩ | ⟨fault, act⟩⟩ := sending.attempts mark among
    · rw [act] at isEvent
      exact .inl ⟨taken, (Option.some.inj isEvent).symm⟩
    · rw [act] at isEvent
      exact .inr ⟨fault, (Option.some.inj isEvent).symm⟩
  refine ⟨written trace, sending.starts, sending.complete, ?_, rfl, failures_of_send played, ?_, ?_⟩
  · exact reads_of_speech fun mark member => (sending.spoken.acts mark member).2
  · intro member
    obtain ⟨_, impossible⟩ | ⟨_, impossible⟩ := onlyWrites _ member <;> cases impossible
  · intro member
    obtain ⟨_, impossible⟩ | ⟨_, impossible⟩ := onlyWrites _ member <;> cases impossible

/-- A read is one read, if it comes to an end. -/
theorem uses_receive {capacity : Nat} {found : Except IoError (List UInt8)}
    (played : (receive capacity).play s = (trace, some (found, left))) :
    Silent trace ∧ Uses trace 1 [] (errors found) := by
  cases ready : s.ready? with
  | none =>
    have never : ∀ entry ∈ [(s.ready?, ())], entry.1 = none := by simp [ready]
    rw [receive, play_bind_of_some _ (play_ready? s), play_bind,
      play_awaitFirst_of_none never] at played
    cases played
  | some moment =>
    rw [play_receive ready] at played
    cases taken : (s.advance moment).take capacity with
    | mk result rest =>
      cases result with
      | error kind =>
        rw [play_readNow_error taken] at played
        cases played
        exact ⟨by simp [Act.IsSilent, StreamEvent.isRead], rfl, rfl, rfl, by simp [Act.event?],
          by simp [Act.event?]⟩
      | ok octets =>
        rw [play_readNow_ok taken] at played
        cases played
        exact ⟨by simp [Act.IsSilent, StreamEvent.isRead], rfl, rfl, rfl, by simp [Act.event?],
          by simp [Act.event?]⟩

end Session

end Hashgate
