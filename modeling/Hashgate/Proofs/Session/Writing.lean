import Hashgate.Proofs.Session.Basic

/-! # What a session has written

The octets that a stream has taken can be read off a trace.  Writing a message takes as many writes as
the stream wants, each of which takes the octets that come next, so whatever goes wrong the octets
taken are a beginning of the message.  They are the whole of it exactly when nothing goes wrong.

* `written` — the octets that were taken.
* `Sending`, `sending_send` — what comes of writing a message.
-/

namespace Hashgate

/-! ## Octets of a trace -/

/-- The octets that an act gets taken. -/
def Act.octets : Act → List UInt8
  | .stream (.write octets) => octets
  | _ => []

/-- The octets that have been taken in a trace, in order. -/
def written (trace : Trace) : List UInt8 := trace.flatMap fun mark => mark.2.octets

@[simp] theorem written_nil : written [] = [] := rfl

@[simp] theorem written_append (earlier later : Trace) :
    written (earlier ++ later) = written earlier ++ written later := List.flatMap_append

@[simp] theorem written_cons (moment : Nat) (act : Act) (trace : Trace) :
    written ((moment, act) :: trace) = act.octets ++ written trace := List.flatMap_cons

namespace Session

variable {s : Stream} {octets : List UInt8}

/-! ## Writing -/

/-- The stream after one more write. -/
abbrev countWrite (s : Stream) : Stream := { s with writes := s.writes + 1 }

/-- One write fails, or takes some octets from the front. -/
theorem put_cases (octets : List UInt8) (s : Stream) :
    (∃ fault, s.put octets = (.error fault, countWrite s)) ∨
      ∃ taken rest, octets = taken ++ rest ∧ s.put octets = (.ok taken, countWrite s) := by
  cases failing : s.writeFault? with
  | some fault => exact .inl ⟨fault, by simp only [Stream.put, failing]⟩
  | none =>
    cases chunk : s.outlet.chunk with
    | some count =>
      exact .inr ⟨octets.take count, octets.drop count, (List.take_append_drop _ _).symm,
        by simp only [Stream.put, failing, chunk]⟩
    | none =>
      exact .inr ⟨octets, [], (List.append_nil _).symm, by simp only [Stream.put, failing, chunk]⟩

inductive Writes (octets : List UInt8) (s : Stream) :
    Trace × Option (Except IoError (List UInt8) × Stream) → Prop
  | fails {fault : WriteFault} : Writes octets s
      ([(s.now, .stream (.writeError fault))], some (.error fault.toIoError, countWrite s))
  | takesNone : Writes octets s
      ([(s.now, .stream (.write []))], some (.error (.ofKind .writeZero), countWrite s))
  | takes {taken rest : List UInt8} : taken ≠ [] → octets = taken ++ rest → Writes octets s
      ([(s.now, .stream (.write taken))], some (.ok rest, countWrite s))

theorem writes_writeOnce (octets : List UInt8) (s : Stream) :
    Writes octets s ((writeOnce octets).play s) := by
  unfold play writeOnce
  obtain ⟨fault, put⟩ | ⟨taken, rest, rfl, put⟩ := put_cases octets s
  · rw [put]
    exact .fails
  · rw [put]
    cases taken with
    | nil => exact .takesNone
    | cons octet taken =>
      simp only [List.drop_left]
      exact .takes (List.cons_ne_nil _ _) rfl

/-- What comes of writing some octets: only the count of writes changes, the octets taken are a
beginning of those to be written, and they are all of them exactly if there is no error. -/
structure Sending (octets : List UInt8) (s : Stream) (trace : Trace) (result : Except IoError Unit)
    (left : Stream) : Prop where
  left_eq : ∃ writes, left = { s with writes := writes }
  starts : written trace <+: octets
  complete : result = .ok () ↔ written trace = octets
  attempts : ∀ mark ∈ trace, mark.1 = s.now ∧
    ((∃ taken, mark.2 = .stream (.write taken)) ∨ ∃ fault, mark.2 = .stream (.writeError fault))

theorem sending_nil (s : Stream) : Sending [] s [] (.ok ()) s :=
  ⟨⟨s.writes, rfl⟩, List.prefix_rfl, by simp, by simp⟩

theorem Sending.ne_flush {trace : Trace} {result : Except IoError Unit} {left : Stream}
    (sending : Sending octets s trace result left) : ∀ mark ∈ trace, mark.2 ≠ .stream .flush := by
  intro mark member
  obtain ⟨-, ⟨taken, act⟩ | ⟨fault, act⟩⟩ := sending.attempts mark member <;> simp [act]

/-- The octets that one write takes come before those of the writes after it. -/
theorem Sending.cons {taken rest : List UInt8} {trace : Trace} {result : Except IoError Unit}
    {left : Stream} (sending : Sending rest (countWrite s) trace result left) :
    Sending (taken ++ rest) s ((s.now, .stream (.write taken)) :: trace) result left where
  left_eq := sending.left_eq
  starts := by
    rw [written_cons]
    exact (List.prefix_append_right_inj taken).mpr sending.starts
  complete := by
    rw [written_cons, sending.complete]
    exact (List.append_cancel_left_eq taken _ _).symm.to_iff
  attempts := by
    rw [List.forall_mem_cons]
    exact ⟨⟨rfl, .inl ⟨taken, rfl⟩⟩, sending.attempts⟩

/-- A write that takes nothing ends the message. -/
theorem Sending.of_error {act : Act} {e : IoError} (nonempty : octets ≠ []) (wordless : act.octets = [])
    (attempt : (∃ taken, act = .stream (.write taken)) ∨ ∃ fault, act = .stream (.writeError fault)) :
    Sending octets s [(s.now, act)] (.error e) (countWrite s) where
  left_eq := ⟨s.writes + 1, rfl⟩
  starts := by simp [wordless]
  complete := by simpa [wordless] using nonempty.symm
  attempts := by simpa using attempt

theorem exists_sending_writeUpTo (writes : Nat) (bound : octets.length ≤ writes) (s : Stream) :
    ∃ trace result left, (writeUpTo writes octets).play s = (trace, some (result, left)) ∧
      Sending octets s trace result left := by
  -- A write that goes well takes an octet at least, so the bound on the writes is never what ends it.
  induction writes generalizing octets s with
  | zero =>
    cases List.eq_nil_of_length_eq_zero (Nat.le_zero.mp bound)
    exact ⟨[], .ok (), s, rfl, sending_nil s⟩
  | succ writes ih =>
    by_cases empty : octets = []
    · subst empty
      exact ⟨[], .ok (), s, rfl, sending_nil s⟩
    · have isEmpty : octets.isEmpty = false := List.isEmpty_eq_false_iff.mpr empty
      simp only [writeUpTo, isEmpty, Bool.false_eq_true, if_false]
      have once := writes_writeOnce octets s
      generalize played : (writeOnce octets).play s = play at once
      cases once with
      | fails =>
        rw [play_bind_of_some _ played]
        exact ⟨_, _, _, rfl, .of_error empty rfl (.inr ⟨_, rfl⟩)⟩
      | takesNone =>
        rw [play_bind_of_some _ played]
        exact ⟨_, _, _, rfl, .of_error empty rfl (.inl ⟨_, rfl⟩)⟩
      | @takes taken rest nonempty split =>
        rw [play_bind_of_some _ played]
        have shorter : rest.length ≤ writes := by
          have positive := List.length_pos_iff.mpr nonempty
          rw [split, List.length_append] at bound
          omega
        obtain ⟨trace, result, left, later, sending⟩ := ih shorter (countWrite s)
        refine ⟨_, result, left, ?_, split ▸ sending.cons⟩
        simp only [later]
        rfl

/-- Writing a message never waits. -/
theorem exists_sending_send (octets : List UInt8) (s : Stream) :
    ∃ trace result left, (send octets).play s = (trace, some (result, left)) ∧
      Sending octets s trace result left :=
  exists_sending_writeUpTo octets.length (Nat.le_refl _) s

end Session

end Hashgate
