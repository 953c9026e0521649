import Hashgate.Proofs.Session.Accounting

/-! # Sessions that wait for nobody but their peer

A session is prompt if all that it does is done at the moments at which its peer does something, until
the patience of a gate comes to an end.  So as long as no deadline has fired, nothing happens on a
connection of its own accord.

* `Expired` — the patience of a gate has come to an end.
* `Stream.Arrived` — a stream whose peer has done all by some moment.
* `Prompt`, `Prompt.bind` — such a session, and two of them in a row.
* `Speaks.prompt`, `prompt_receive` — what takes no time, and what waits for the peer.
-/

namespace Hashgate

/-! ## Deadlines -/

/-- The patience of a gate has come to an end by some moment. -/
def Expired (trace : Trace) (moment : Nat) : Prop :=
  ∃ mark ∈ trace, mark.2 = .expire ∧ mark.1 ≤ moment

instance (trace : Trace) (moment : Nat) : Decidable (Expired trace moment) :=
  inferInstanceAs (Decidable (∃ mark ∈ trace, mark.2 = .expire ∧ mark.1 ≤ moment))

variable {trace first later : Trace} {moment other : Nat}

theorem Expired.before (expired : Expired first moment) (past : moment ≤ other) (later : Trace) :
    Expired (first ++ later) other := by
  obtain ⟨mark, member, expiry, fired⟩ := expired
  exact ⟨mark, List.mem_append_left later member, expiry, Nat.le_trans fired past⟩

theorem Expired.after (expired : Expired later moment) (first : Trace) :
    Expired (first ++ later) moment := by
  obtain ⟨mark, member, expiry, fired⟩ := expired
  exact ⟨mark, List.mem_append_right first member, expiry, fired⟩

/-! ## Streams -/

namespace Stream

variable {s left : Stream}

/-- A stream that has come to some moment at most, and whose peer has done all by then. -/
structure Arrived (s : Stream) (moment : Nat) : Prop where
  now_le : s.now ≤ moment
  notBefore_le : ∀ step ∈ s.steps, step.notBefore ≤ moment

theorem Arrived.ready?_le (arrived : s.Arrived moment) (ready : s.ready? = some other) :
    other ≤ moment := by
  unfold ready? at ready
  split at ready
  · cases ready
  · cases ready
    exact arrived.now_le
  · next step rest steps =>
    split at ready
    · cases ready
      exact Nat.max_le.mpr ⟨arrived.now_le, arrived.notBefore_le step (steps ▸ List.mem_cons_self)⟩
    · cases ready

theorem Arrived.advance (arrived : s.Arrived moment) (early : other ≤ moment) :
    (s.advance other).Arrived moment where
  now_le := Nat.max_le.mpr ⟨arrived.now_le, early⟩
  notBefore_le := arrived.notBefore_le

/-- A read takes a step away, or some octets of it. -/
theorem Arrived.take {capacity : Nat} {found : Except IoError.Kind (List UInt8)}
    (arrived : s.Arrived moment) (taken : s.take capacity = (found, left)) : left.Arrived moment := by
  refine ⟨(outlet_now_of_take taken).2 ▸ arrived.now_le, fun step member => ?_⟩
  have before := arrived.notBefore_le
  unfold Stream.take at taken
  split at taken
  · cases taken
    exact before step member
  · next head rest steps =>
    rw [steps, List.forall_mem_cons] at before
    obtain ⟨headBefore, restBefore⟩ := before
    split at taken
    · split at taken
      · cases taken
        exact restBefore step member
      · cases taken
        cases List.mem_cons.mp member with
        | inl same => exact same ▸ headBefore
        | inr among => exact restBefore step among
    · cases taken
      exact restBefore step member
    · cases taken
      exact arrived.notBefore_le step member

end Stream

/-! ## Prompt sessions -/

namespace Session

variable {α β : Type} {s : Stream} {p : α → Prop}

/-- What a session does is not done before its start, and if its peer has done all by some moment, it is
done by then, or not before a deadline has fired. -/
structure Timely (moment : Nat) (s : Stream) (trace : Trace) (ended : Option (α × Stream)) : Prop where
  acts : ∀ mark ∈ trace, s.now ≤ mark.1 ∧
    (s.Arrived moment → mark.1 ≤ moment ∨ Expired trace mark.1)
  left : ∀ a left, ended = some (a, left) → s.now ≤ left.now ∧
    (s.Arrived moment → left.Arrived moment ∨ Expired trace left.now)

theorem timely_of_none {moment : Nat} {trace : Trace} (acts : ∀ mark ∈ trace, s.now ≤ mark.1 ∧
      (s.Arrived moment → mark.1 ≤ moment ∨ Expired trace mark.1)) :
    Timely moment s trace (none : Option (α × Stream)) where
  acts := acts
  left := by
    intro _ _ impossible
    cases impossible

/-- A session that waits for nothing but its peer and the deadline of a gate. -/
def Prompt (x : Session α) : Prop := ∀ moment s, Timely moment s (x.play s).1 (x.play s).2

theorem Prompt.bind {x : Session α} {f : α → Session β} (prompt : Prompt x)
    (goesOn : ∀ a, Prompt (f a)) : Prompt (x >>= f) := by
  intro moment s
  have begins := prompt moment s
  rcases begun : x.play s with ⟨first, _ | ⟨a, middle⟩⟩
  · rw [begun] at begins
    rw [play_bind, begun]
    exact timely_of_none begins.acts
  · rw [begun] at begins
    rw [play_bind_of_some f begun]
    obtain ⟨past, middleTimely⟩ := begins.left a middle rfl
    have continues := goesOn a moment middle
    -- If a deadline has fired in the first session, it has fired before all that comes later.
    have carries {claim : Prop} {other : Nat} (since : middle.now ≤ other)
        (timely : middle.Arrived moment → claim ∨ Expired ((f a).play middle).1 other)
        (arrived : s.Arrived moment) : claim ∨ Expired (first ++ ((f a).play middle).1) other := by
      cases middleTimely arrived with
      | inl arrived => exact (timely arrived).imp_right fun expired => expired.after _
      | inr expired => exact .inr (expired.before since _)
    constructor
    · intro mark member
      cases List.mem_append.mp member with
      | inl early =>
        obtain ⟨since, timely⟩ := begins.acts mark early
        exact ⟨since, fun arrived =>
          (timely arrived).imp_right fun expired => expired.before (Nat.le_refl _) _⟩
      | inr late =>
        obtain ⟨since, timely⟩ := continues.acts mark late
        exact ⟨Nat.le_trans past since, carries since timely⟩
    · intro b left ended
      obtain ⟨since, timely⟩ := continues.left b left ended
      exact ⟨Nat.le_trans past since, carries since timely⟩

/-- What a session takes no time for is prompt. -/
theorem timely_of_still {trace : Trace} {ended : Option (α × Stream)}
    (acts : ∀ mark ∈ trace, mark.1 = s.now)
    (left : ∀ a left, ended = some (a, left) → left.now = s.now ∧ ∀ moment, s.Arrived moment →
      left.Arrived moment) (moment : Nat) : Timely moment s trace ended where
  acts := fun mark member =>
    ⟨Nat.le_of_eq (acts mark member).symm, fun arrived => .inl (acts mark member ▸ arrived.now_le)⟩
  left := fun a rest same =>
    ⟨Nat.le_of_eq (left a rest same).1.symm, fun arrived => .inl ((left a rest same).2 _ arrived)⟩

theorem Speaks.prompt {x : Session α} (speaks : Speaks x p) : Prompt x := by
  intro moment s
  obtain ⟨trace, a, left, played, -, ⟨writes, rfl⟩, acts⟩ := speaks s
  rw [played]
  refine timely_of_still (fun mark member => (acts mark member).1) ?_ moment
  rintro _ _ ⟨⟩
  exact ⟨rfl, fun _ arrived => ⟨arrived.now_le, arrived.notBefore_le⟩⟩

theorem prompt_pure (a : α) : Prompt (pure a) := (speaks_pure (p := fun _ => True) trivial).prompt

theorem prompt_note (act : Act) : Prompt (note act) := fun moment s =>
  timely_of_still (by simp) (by rintro _ _ ⟨⟩; exact ⟨rfl, fun _ => id⟩) moment

theorem prompt_log (entry : Log.Entry) : Prompt (log entry) := prompt_note _

theorem prompt_logAll (entries : List Log.Entry) : Prompt (logAll entries) := by
  induction entries with
  | nil => exact prompt_pure ()
  | cons entry rest ih => exact (prompt_log entry).bind fun _ => ih

theorem prompt_now : Prompt now := fun moment s =>
  timely_of_still (by simp) (by rintro _ _ ⟨⟩; exact ⟨rfl, fun _ => id⟩) moment

theorem prompt_send (octets : List UInt8) : Prompt (send octets) := by
  refine Speaks.prompt (p := fun _ => True) fun s => ?_
  obtain ⟨trace, result, left, played, sending⟩ := exists_sending_send octets s
  exact ⟨trace, result, left, played, trivial, sending.spoken⟩

theorem prompt_close : Prompt close := speaks_close.prompt

/-- Of some moments none but that of the next read ever comes. -/
theorem prompt_await (moments : Option Nat → List (Option Nat × β))
    (only : ∀ ready, ∀ entry ∈ moments ready, entry.1 = ready ∨ entry.1 = none) :
    Prompt (do awaitFirst (moments (← ready?))) := by
  intro moment s
  rw [play_bind_of_some _ (play_ready? s), List.nil_append]
  cases first : earliest (moments s.ready?) with
  | none =>
    rw [play_awaitFirst_of_none (earliest_eq_none_iff.mp first)]
    exact timely_of_none (by simp)
  | some winner =>
    obtain ⟨next, b⟩ := winner
    have wins := earliest_eq_some_iff.mp first
    have ready : s.ready? = some next := by
      cases only _ _ wins.mem with
      | inl same => exact same.symm
      | inr never => cases never
    rw [play_awaitFirst_of_wins wins]
    refine ⟨by simp, ?_⟩
    rintro _ _ ⟨⟩
    exact ⟨Nat.le_max_left _ _, fun arrived => .inl (arrived.advance (arrived.ready?_le ready))⟩

theorem prompt_race {moments : Option Nat → List (Option Nat × β)} {f : β → Session α}
    (only : ∀ ready, ∀ entry ∈ moments ready, entry.1 = ready ∨ entry.1 = none)
    (goesOn : ∀ b, Prompt (f b)) : Prompt (do f (← awaitFirst (moments (← ready?)))) := by
  rw [← bind_assoc]
  exact (prompt_await moments only).bind goesOn

theorem prompt_readNow (capacity : Nat) : Prompt (readNow capacity) := by
  intro moment s
  rcases taken : s.take capacity with ⟨kind | octets, left⟩
  · rw [play_readNow_error taken]
    refine timely_of_still (by simp) ?_ moment
    rintro _ _ ⟨⟩
    exact ⟨(Stream.outlet_now_of_take taken).2, fun _ arrived => arrived.take taken⟩
  · rw [play_readNow_ok taken]
    refine timely_of_still (by simp) ?_ moment
    rintro _ _ ⟨⟩
    exact ⟨(Stream.outlet_now_of_take taken).2, fun _ arrived => arrived.take taken⟩

theorem prompt_receive (capacity : Nat) : Prompt (receive capacity) :=
  prompt_race (by simp) fun _ => prompt_readNow capacity

end Session

end Hashgate
