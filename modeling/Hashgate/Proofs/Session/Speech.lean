import Hashgate.Proofs.Session.Writing

/-! # Sessions that only speak

A session that writes, flushes, closes and logs, and does nothing else, ends at once, and leaves of its
stream what there was, but for the count of writes.  Such sessions are made of such sessions.

* `Act.IsSpeech` — the acts of such a session.
* `Speaks` — such a session, with what is known of its result.
-/

namespace Hashgate

/-- An act of speech, which neither reads nor calls on anybody but the stream and the log. -/
def Act.IsSpeech : Act → Prop
  | .stream (.read _) => False
  | .stream (.readError _) => False
  | .stream _ => True
  | .log _ => True
  | .attempt _ => True
  | _ => False

namespace Session

variable {α β : Type} {p : α → Prop} {q : β → Prop}

/-- A trace of speech and the stream after it. -/
structure Spoken (s : Stream) (trace : Trace) (left : Stream) : Prop where
  left_eq : ∃ writes, left = { s with writes := writes }
  acts : ∀ mark ∈ trace, mark.1 = s.now ∧ mark.2.IsSpeech

theorem Spoken.refl (s : Stream) : Spoken s [] s := ⟨⟨s.writes, rfl⟩, by simp⟩

theorem Spoken.append {s middle left : Stream} {first later : Trace} (spoken : Spoken s first middle)
    (more : Spoken middle later left) : Spoken s (first ++ later) left := by
  obtain ⟨⟨writes, rfl⟩, acts⟩ := spoken
  obtain ⟨⟨moreWrites, rfl⟩, moreActs⟩ := more
  refine ⟨⟨moreWrites, rfl⟩, fun mark member => ?_⟩
  cases List.mem_append.mp member with
  | inl early => exact acts mark early
  | inr late => exact moreActs mark late

/-- A session that only speaks and has a result of some sort. -/
def Speaks (x : Session α) (p : α → Prop) : Prop :=
  ∀ s, ∃ trace a left, x.play s = (trace, some (a, left)) ∧ p a ∧ Spoken s trace left

theorem speaks_pure {a : α} (holds : p a) : Speaks (pure a) p :=
  fun s => ⟨[], a, s, rfl, holds, .refl s⟩

theorem Speaks.bind {x : Session α} {f : α → Session β} (first : Speaks x p)
    (later : ∀ a, p a → Speaks (f a) q) : Speaks (x >>= f) q := by
  intro s
  obtain ⟨trace, a, middle, played, holds, spoken⟩ := first s
  obtain ⟨more, b, left, playedMore, holdsMore, spokenMore⟩ := later a holds middle
  refine ⟨trace ++ more, b, left, ?_, holdsMore, spoken.append spokenMore⟩
  rw [play_bind_of_some f played, playedMore]

theorem Speaks.mono {x : Session α} {r : α → Prop} (speaks : Speaks x p) (weaker : ∀ a, p a → r a) :
    Speaks x r := by
  intro s
  obtain ⟨trace, a, left, played, holds, spoken⟩ := speaks s
  exact ⟨trace, a, left, played, weaker a holds, spoken⟩

theorem speaks_note {act : Act} (speech : act.IsSpeech) : Speaks (note act) fun _ => True :=
  fun s => ⟨[(s.now, act)], (), s, rfl, trivial, ⟨s.writes, rfl⟩, by simpa using speech⟩

theorem speaks_log (entry : Log.Entry) : Speaks (log entry) fun _ => True := speaks_note trivial

theorem speaks_close : Speaks close fun _ => True :=
  fun s => ⟨_, _, s, rfl, trivial, ⟨s.writes, rfl⟩, by simp [Act.IsSpeech]⟩

theorem Sending.spoken {octets : List UInt8} {s left : Stream} {trace : Trace}
    {result : Except IoError Unit} (sending : Sending octets s trace result left) :
    Spoken s trace left where
  left_eq := sending.left_eq
  acts := by
    intro mark member
    obtain ⟨now, ⟨taken, write⟩ | ⟨fault, write⟩⟩ := sending.attempts mark member
    · exact ⟨now, write ▸ trivial⟩
    · exact ⟨now, write ▸ trivial⟩

end Session

end Hashgate
