import Hashgate.Proofs.Session.Speech

/-! # Sessions that hear nothing

A session that only writes goes on in the same way whatever is still to be read from its stream.  So a
message that comes too late has no effect on it, and could as well have never been sent.

* `Stream.Alike` — two streams that differ at most in what is still to be read.
* `Deaf` — a session that tells no such streams apart.
* `deaf_send` — writing a message is one.
-/

namespace Hashgate

/-! ## Streams -/

/-- Two streams that differ at most in what is still to be read. -/
structure Stream.Alike (s other : Stream) : Prop where
  outlet : s.outlet = other.outlet
  writes : s.writes = other.writes
  now : s.now = other.now

namespace Stream

variable {s other : Stream}

theorem Alike.refl (s : Stream) : s.Alike s := ⟨rfl, rfl, rfl⟩

theorem Alike.advance (alike : s.Alike other) (moment : Nat) :
    (s.advance moment).Alike (other.advance moment) where
  outlet := alike.outlet
  writes := alike.writes
  now := congrArg (max · moment) alike.now

theorem Alike.countWrite (alike : s.Alike other) :
    (Session.countWrite s).Alike (Session.countWrite other) where
  outlet := alike.outlet
  writes := congrArg (· + 1) alike.writes
  now := alike.now

theorem Alike.put_eq (alike : s.Alike other) (octets : List UInt8) :
    other.put octets = ((s.put octets).1, Session.countWrite other) := by
  have sameFault : s.writeFault? = other.writeFault? := by
    rw [writeFault?, writeFault?, alike.outlet, alike.writes]
  unfold put
  rw [sameFault, alike.outlet]
  cases other.writeFault? with
  | some fault => rfl
  | none => cases other.outlet.chunk <;> rfl

theorem Alike.flushFault?_eq (alike : s.Alike other) : other.flushFault? = s.flushFault? := by
  rw [flushFault?, flushFault?, alike.outlet, alike.writes]

theorem put_eq (s : Stream) (octets : List UInt8) :
    s.put octets = ((s.put octets).1, Session.countWrite s) := (Alike.refl s).put_eq octets

end Stream

/-! ## Sessions -/

namespace Session

variable {α β : Type} {x : Session α}

/-- A session that comes to an end, and the same end on streams that differ only in what is still to be
read. -/
def Deaf (x : Session α) : Prop :=
  ∀ s other : Stream, s.Alike other → ∃ trace a left otherLeft,
    x.play s = (trace, some (a, left)) ∧ x.play other = (trace, some (a, otherLeft)) ∧
      left.Alike otherLeft

theorem deaf_pure (a : α) : Deaf (pure a) :=
  fun s other alike => ⟨[], a, s, other, rfl, rfl, alike⟩

theorem Deaf.bind {f : α → Session β} (deaf : Deaf x) (later : ∀ a, Deaf (f a)) :
    Deaf (x >>= f) := by
  intro s other alike
  obtain ⟨trace, a, left, otherLeft, played, others, leftAlike⟩ := deaf s other alike
  obtain ⟨more, b, rest, otherRest, playedMore, othersMore, restAlike⟩ :=
    later a left otherLeft leftAlike
  refine ⟨trace ++ more, b, rest, otherRest, ?_, ?_, restAlike⟩
  · rw [play_bind_of_some f played, playedMore]
  · rw [play_bind_of_some f others, othersMore]

theorem deaf_note (act : Act) : Deaf (note act) := by
  intro s other alike
  refine ⟨_, (), s, other, play_note act s, ?_, alike⟩
  rw [play_note, alike.now]

theorem deaf_log (entry : Log.Entry) : Deaf (log entry) := deaf_note (.log entry)

theorem deaf_flush : Deaf flush := by
  intro s other alike
  refine ⟨_, _, s, other, play_flush s, ?_, alike⟩
  rw [play_flush, alike.now, alike.flushFault?_eq]

theorem deaf_close : Deaf close := by
  intro s other alike
  refine ⟨_, _, s, other, play_close s, ?_, alike⟩
  rw [play_close, alike.now, alike.outlet]

theorem deaf_writeOnce (octets : List UInt8) : Deaf (writeOnce octets) := by
  intro s other alike
  unfold play writeOnce
  rw [alike.put_eq octets, Stream.put_eq s octets, alike.now]
  -- The write itself goes alike, whether it fails or not.
  cases (s.put octets).1 with
  | error fault => exact ⟨_, _, _, _, rfl, rfl, alike.countWrite⟩
  | ok taken => exact ⟨_, _, _, _, rfl, rfl, alike.countWrite⟩

theorem deaf_writeUpTo (writes : Nat) (octets : List UInt8) : Deaf (writeUpTo writes octets) := by
  induction writes generalizing octets with
  | zero => exact deaf_pure _
  | succ writes ih =>
    unfold writeUpTo
    split
    · exact deaf_pure _
    · apply (deaf_writeOnce octets).bind
      intro written
      cases written with
      | error e => exact deaf_pure _
      | ok rest => exact ih rest

theorem deaf_send (octets : List UInt8) : Deaf (send octets) := deaf_writeUpTo _ octets

end Session

end Hashgate
