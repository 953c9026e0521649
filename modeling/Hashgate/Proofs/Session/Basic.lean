import Hashgate.Session.Basic

/-! # Playing sessions

How a session plays, part by part.  Each primitive has its play, and the plays of two sessions in a
row follow one another.

* `play_note`, `play_flush` and the like — the plays of the primitives.
* `play_bind_of_some`, `play_bind_eq_some_iff` — the play of two sessions in a row.
-/

namespace Hashgate.Session

variable {α β : Type} {s left : Stream} {trace : Trace} {a : α}

/-! ## Primitives -/

@[simp] theorem play_stall (s : Stream) : (stall : Session α).play s = ([], none) := rfl

@[simp] theorem play_now (s : Stream) : now.play s = ([], some (s.now, s)) := rfl

@[simp] theorem play_ready? (s : Stream) : ready?.play s = ([], some (s.ready?, s)) := rfl

@[simp] theorem play_sleepUntil (moment : Nat) (s : Stream) :
    (sleepUntil moment).play s = ([], some ((), s.advance moment)) := rfl

@[simp] theorem play_note (act : Act) (s : Stream) :
    (note act).play s = ([(s.now, act)], some ((), s)) := rfl

@[simp] theorem play_log (entry : Log.Entry) (s : Stream) :
    (log entry).play s = ([(s.now, .log entry)], some ((), s)) := rfl

@[simp] theorem play_flush (s : Stream) :
    flush.play s = ([(s.now, .stream .flush)], some (failWith s.flushFault?, s)) := rfl

@[simp] theorem play_close (s : Stream) :
    close.play s = ([(s.now, .stream .close)], some (failWith s.outlet.closeFault, s)) := rfl

@[simp] theorem play_logAll (entries : List Log.Entry) (s : Stream) :
    (logAll entries).play s = (entries.map fun entry => (s.now, .log entry), some ((), s)) := by
  induction entries with
  | nil => rfl
  | cons entry rest ih =>
    simp [logAll, play_bind, ih]

/-! ## One session after another -/

theorem play_bind_of_some {x : Session α} (f : α → Session β)
    (played : x.play s = (trace, some (a, left))) :
    (x >>= f).play s = (trace ++ ((f a).play left).1, ((f a).play left).2) := by
  rw [play_bind, played]

/-- Of two sessions in a row that come to an end both come to an end. -/
theorem play_bind_eq_some_iff {x : Session α} {f : α → Session β} {b : β} :
    (x >>= f).play s = (trace, some (b, left)) ↔ ∃ first a middle later,
      x.play s = (first, some (a, middle)) ∧ (f a).play middle = (later, some (b, left)) ∧
        trace = first ++ later := by
  constructor
  · intro played
    rcases begun : x.play s with ⟨first, _ | ⟨a, middle⟩⟩
    · rw [play_bind, begun] at played
      cases played
    · rw [play_bind_of_some f begun] at played
      obtain ⟨rfl, ended⟩ := Prod.mk.inj played
      exact ⟨first, a, middle, _, rfl, Prod.ext rfl ended, rfl⟩
  · rintro ⟨first, a, middle, later, begun, goesOn, rfl⟩
    rw [play_bind_of_some f begun, goesOn]

theorem play_log_bind_eq_some_iff {entry : Log.Entry} {f : Unit → Session β} {b : β} :
    (log entry >>= f).play s = (trace, some (b, left)) ↔
      ∃ later, (f ()).play s = (later, some (b, left)) ∧ trace = (s.now, .log entry) :: later := by
  rw [play_bind_eq_some_iff]
  constructor
  · rintro ⟨_, _, _, later, logs, goesOn, rfl⟩
    cases logs
    exact ⟨later, goesOn, rfl⟩
  · rintro ⟨later, goesOn, rfl⟩
    exact ⟨_, _, _, later, play_log entry s, goesOn, rfl⟩

@[simp] theorem play_map (f : α → β) (x : Session α) (s : Stream) :
    (f <$> x).play s = ((x.play s).1, (x.play s).2.map fun ended => (f ended.1, ended.2)) := by
  rw [map_eq_pure_bind, play_bind]
  rcases x.play s with ⟨trace, _ | ⟨a, left⟩⟩
  · rfl
  · simp

end Hashgate.Session
