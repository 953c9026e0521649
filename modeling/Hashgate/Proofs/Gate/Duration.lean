import Hashgate.Proofs.Config.Gate
import Hashgate.Proofs.Gate.Race

/-! # How long a session lasts

The patience of a gate begins with the challenge.  From the first message on it bounds the session, and
the signal bounds it from the start.  The wait for the first message itself has no deadline, so if there
is no signal it is the peer who says how long a session lasts, and whether it ends at all.

* `Instant` — a next program that takes no time.
* `InTime` — a moment within the bounds.
* `Awaits.exists_decidedAt`, `Exchanges.exists_decidedAt`, `Course.exists_decidedAt` — the moment of
  decision, stage by stage.
* `handle_bounded` — what bounds a session.
* `handle_unbounded` — a peer that is late, and one that is silent.
-/

namespace Hashgate.Gate

open Session

variable {gate : Gate} {signal : Signal} {challenge : String} {s left : Stream} {conduct : Conduct}
  {moment : Nat} {outcome : Outcome}

/-! ## Sessions that take no time -/

/-- A session that ends at the moment at which it begins. -/
def Instant (x : Session Unit) : Prop :=
  ∀ s, ∃ trace left, x.play s = (trace, some ((), left)) ∧ left.now = s.now

theorem instant_pure : Instant (pure ()) := fun s => ⟨[], s, rfl, rfl⟩

/-- With such a program behind the gate a session ends at the moment at which it is decided. -/
theorem Conduct.DecidedAt.exists_play {next : Session Unit} (decided : conduct.DecidedAt moment outcome)
    (instant : Instant next) :
    ∃ trace left, conduct.play next = (trace, some (outcome, left)) ∧ left.now = moment := by
  cases decided with
  | ends _ now => exact ⟨_, _, rfl, now⟩
  | @serves own start now =>
    obtain ⟨trace, left, played, same⟩ := instant start
    refine ⟨own ++ (start.now, .handOver) :: trace, left, ?_, same.trans now⟩
    rw [Conduct.play_serves, played]
    rfl

/-! ## Stage by stage -/

/-- A moment that is not after the deadline, if there is one, nor after the signal, unless that was given
before the start. -/
structure InTime (start : Nat) (deadline : Option Nat) (signal : Signal) (moment : Nat) : Prop where
  start_le : start ≤ moment
  le_deadline : ∀ last, deadline = some last → moment ≤ last
  le_signal : ∀ stop, signal.moment? = some stop → moment ≤ max start stop

theorem inTime_start (start wait : Nat) (signal : Signal) :
    InTime start (some (start + wait)) signal start where
  start_le := Nat.le_refl _
  le_deadline := by
    rintro _ ⟨⟩
    exact Nat.le_add_right _ _
  le_signal := fun _ _ => Nat.le_max_left _ _

theorem Awaits.exists_decidedAt (awaits : Awaits gate challenge signal s conduct) :
    ∃ moment outcome, conduct.DecidedAt moment outcome ∧
      InTime s.now (some (s.now + gate.config.patience)) signal moment := by
  cases awaits with
  | expired _ others =>
    -- The deadline has not passed when the wait begins, so the clock stops at it.
    have now : max s.now (s.now + gate.config.patience) = s.now + gate.config.patience :=
      Nat.max_eq_right (Nat.le_add_right _ _)
    refine ⟨_, _, (decidedAt_of_speaks speaks_giveUp nofun _).after _, ?_⟩
    rw [Stream.advance_now, now]
    exact {
      start_le := Nat.le_add_right _ _
      le_deadline := fun _ same => Nat.le_of_eq (Option.some.inj same)
      le_signal := fun stop given => (others stop (given ▸ .head _)).trans (Nat.le_max_right _ _) }
  | @interrupted stop given _ early =>
    refine ⟨_, _, (decidedAt_of_speaks speaks_giveUp nofun _).after _, ?_⟩
    exact {
      start_le := Nat.le_max_left _ _
      le_deadline := by
        rintro _ ⟨⟩
        exact max_le (Nat.le_add_right _ _) (Nat.le_of_lt early)
      le_signal := fun other same => Nat.le_of_eq (by rw [← Option.some.inj (given.symm.trans same)]; rfl) }
  | @answered ready trace submission left isReady inTime submits =>
    have now : left.now = ready := by
      rw [submits.now_eq, Stream.advance_now, Nat.max_eq_right (Stream.le_of_ready? isReady)]
    refine ⟨_, _, (decidedAt_concluded submission left).after _, ?_⟩
    rw [now]
    exact {
      start_le := Stream.le_of_ready? isReady
      le_deadline := fun last same => inTime last (same ▸ .head _)
      le_signal := fun stop given =>
        (inTime stop (given ▸ .tail _ (.head _))).trans (Nat.le_max_right _ _) }

/-- Neither making the challenge nor saying it takes any time. -/
theorem Exchanges.exists_decidedAt (exchanges : Exchanges gate signal s conduct) :
    ∃ moment outcome, conduct.DecidedAt moment outcome ∧
      InTime s.now (some (s.now + gate.config.patience)) signal moment := by
  cases exchanges with
  | unissued =>
    exact ⟨_, _, (decidedAt_of_speaks (speaks_reject _) nofun s).after _, inTime_start _ _ _⟩
  | @unsaid issued words e asked _ tells =>
    obtain ⟨writes, rfl⟩ := (saying_of_play tells).spoken.left_eq
    exact ⟨_, _, (decidedAt_of_speaks (speaks_breakOff e) nofun _).after _, inTime_start _ _ _⟩
  | @said issued words asked rest _ tells awaits =>
    obtain ⟨writes, rfl⟩ := (saying_of_play tells).spoken.left_eq
    obtain ⟨moment, outcome, decided, inTime⟩ := awaits.exists_decidedAt
    exact ⟨moment, outcome, decided.after _, inTime⟩

/-- A first message that is there before the signal leaves the rest of the session its time. -/
theorem InTime.of_greeted {start greeted wait : Nat}
    (inTime : InTime greeted (some (greeted + wait)) signal moment) (past : start ≤ greeted)
    (early : NotAfter greeted [signal.moment?]) : InTime start (some (greeted + wait)) signal moment where
  start_le := past.trans inTime.start_le
  le_deadline := inTime.le_deadline
  le_signal := by
    intro stop given
    have before := inTime.le_signal stop given
    rw [Nat.max_eq_right (early stop (given ▸ .head _))] at before
    exact before.trans (Nat.le_max_right _ _)

/-- A session that has something to wait for is decided, after the first message within the patience of
the gate. -/
theorem Course.exists_decidedAt (course : Course gate signal s conduct)
    (awaited : ¬ (s.ready? = none ∧ signal.moment? = none)) :
    ∃ moment outcome, conduct.DecidedAt moment outcome ∧
      InTime s.now (s.ready?.map (· + gate.config.patience)) signal moment := by
  cases course with
  | stopped =>
    refine ⟨_, _, decidedAt_of_speaks speaks_giveUp nofun s, ?_⟩
    exact {
      start_le := Nat.le_refl _
      le_deadline := by
        intro last same
        obtain ⟨greeted, greets, rfl⟩ := Option.map_eq_some_iff.mp same
        exact Nat.le_add_right_of_le (Stream.le_of_ready? greets)
      le_signal := fun _ _ => Nat.le_max_left _ _ }
  | stalled _ silent never => exact absurd ⟨silent, never⟩ awaited
  | @interrupted stop _ given before =>
    refine ⟨_, _, decidedAt_of_speaks speaks_giveUp nofun _, ?_⟩
    exact {
      start_le := Nat.le_max_left _ _
      le_deadline := by
        -- The first message, if there is one, would have come later still.
        intro last same
        obtain ⟨greeted, greets, rfl⟩ := Option.map_eq_some_iff.mp same
        exact Nat.le_add_right_of_le
          (max_le (Stream.le_of_ready? greets) (Nat.le_of_lt (before greeted greets)))
      le_signal := fun other same => Nat.le_of_eq (by rw [← Option.some.inj (given.symm.trans same)]; rfl) }
  | @unheard greeted kind left _ greets early taken =>
    have past := Stream.le_of_ready? greets
    have now : left.now = greeted := by
      rw [(Stream.outlet_now_of_take taken).2, Stream.advance_now, Nat.max_eq_right past]
    refine ⟨_, _, (decidedAt_of_speaks (speaks_reject _) nofun left).after _, ?_⟩
    rw [now, greets]
    exact (inTime_start _ _ _).of_greeted past early
  | @heard greeted opening opened _ _ greets early taken exchanges =>
    have past := Stream.le_of_ready? greets
    have now : opened.now = greeted := by
      rw [(Stream.outlet_now_of_take taken).2, Stream.advance_now, Nat.max_eq_right past]
    obtain ⟨moment, outcome, decided, inTime⟩ := exchanges.exists_decidedAt
    rw [now] at inTime
    rw [greets]
    exact ⟨moment, outcome, decided.after _, inTime.of_greeted past early⟩

/-! ## Whole sessions -/

theorem play_handle_silent (gate : Gate) (next : Handler) (silent : s.ready? = none)
    (never : signal.moment? = none) : (gate.handle next signal).play s = ([], none) := by
  have going : signal.precedes s.now = false := by
    cases signal with
    | never => rfl
    | beforehand => cases never
    | given stop => cases never
  exact (Course.stalled going silent never).play_eq next

/-- **What bounds a session.**  If the next program takes no time, a session ends unless the peer is
silent and there is no signal.  It ends no later than the signal, and after the first message within the
patience of the gate, which is the wait up to the next whole millisecond. -/
theorem handle_bounded (gate : Gate) (next : Handler) (signal : Signal) (s : Stream)
    (instant : Instant (next signal)) :
    (((gate.handle next signal).play s).2 = none ↔ s.ready? = none ∧ signal.moment? = none) ∧
    (∀ trace outcome left, (gate.handle next signal).play s = (trace, some (outcome, left)) →
      InTime s.now (s.ready?.map (· + gate.config.patience)) signal left.now) ∧
    gate.config.wait ≤ gate.config.patience * 1000000 ∧
    gate.config.patience * 1000000 < gate.config.wait + 1000000 := by
  obtain ⟨conduct, course⟩ := exists_course gate signal s
  by_cases awaited : s.ready? = none ∧ signal.moment? = none
  · rw [play_handle_silent gate next awaited.1 awaited.2]
    refine ⟨iff_of_true rfl awaited, fun trace outcome left played => ?_, gate.config.patience_bounds⟩
    cases congrArg Prod.snd played
  · obtain ⟨moment, outcome, decided, inTime⟩ := course.exists_decidedAt awaited
    obtain ⟨trace, left, played, rfl⟩ := decided.exists_play instant
    rw [course.play_eq, played]
    refine ⟨iff_of_false (Option.some_ne_none _) awaited, ?_, gate.config.patience_bounds⟩
    intro _ _ _ same
    cases congrArg Prod.snd same
    exact inTime

/-- A gate that waits for a second. -/
def hastyGate : Gate := { easyGate with config := ⟨11, 1000000000⟩ }

/-- A peer that says something after some time, and then no more. -/
def latePeer (delay : Nat) : Stream := .ofSteps [⟨.data [0], delay, 0⟩] .silence .free

/-- The late peer is given up on a second after its message, and at once when the signal comes. -/
theorem handle_bounded_late :
    Instant (pure ()) ∧
    (∃ trace outcome left, (hastyGate.handle (fun _ => pure ()) .never).play (latePeer 5000) =
      (trace, some (outcome, left)) ∧ left.now ≤ 6000) ∧
    ∃ trace outcome left, (hastyGate.handle (fun _ => pure ()) (.given 7)).play (latePeer 5000) =
      (trace, some (outcome, left)) ∧ left.now ≤ 7 := by
  have ends (signal : Signal) : ∃ trace outcome left,
      (hastyGate.handle (fun _ => pure ()) signal).play (latePeer 5000) =
        (trace, some (outcome, left)) ∧ InTime 0 (some 6000) signal left.now := by
    obtain ⟨endless, inTime, -⟩ :=
      handle_bounded hastyGate (fun _ => pure ()) signal (latePeer 5000) instant_pure
    rcases played : (hastyGate.handle (fun _ => pure ()) signal).play (latePeer 5000) with
      ⟨trace, _ | ⟨outcome, left⟩⟩
    · rw [played] at endless
      cases (endless.mp rfl).1
    · exact ⟨trace, outcome, left, rfl, inTime trace outcome left played⟩
  refine ⟨instant_pure, ?_, ?_⟩
  · obtain ⟨trace, outcome, left, played, inTime⟩ := ends .never
    exact ⟨trace, outcome, left, played, inTime.le_deadline 6000 rfl⟩
  · obtain ⟨trace, outcome, left, played, inTime⟩ := ends (.given 7)
    exact ⟨trace, outcome, left, played, inTime.le_signal 7 rfl⟩

def lateAsking (delay : Nat) : Asking hastyGate (latePeer delay) where
  greeted := max 0 delay
  opening := [0]
  opened := _
  issued := _
  words := _
  asked := _
  greets := rfl
  opens := rfl
  issues := rfl
  tells := rfl

/-- The wait bounds no session from its start.  With a peer that never says anything the session does not
end, and with one that is late it ends as much later than that. -/
theorem handle_unbounded :
    hastyGate.config.validate = .ok () ∧ hastyGate.config.wait = 1000 * 1000000 ∧ Instant (pure ()) ∧
      (∀ trace outcome left, (hastyGate.handle (fun _ => pure ()) .never).play
        (.ofSteps [] .silence .free) ≠ (trace, some (outcome, left))) ∧
      ∀ delay, ∃ trace left, (hastyGate.handle (fun _ => pure ()) .never).play (latePeer delay) =
        (trace, some (.timedOut, left)) ∧ left.now = delay + 1000 := by
  refine ⟨rfl, rfl, instant_pure, ?_, fun delay => ?_⟩
  · intro trace outcome left played
    rw [play_handle_silent hastyGate _ rfl rfl] at played
    cases congrArg Prod.snd played
  · have later : Later (lateAsking delay).greeted .never := by
      intro stop given
      cases given
    have late : Late (cutoff (lateAsking delay).deadline .never) (lateAsking delay).asked := by
      intro ready isReady
      cases isReady
    obtain ⟨trace, -, plays⟩ := (lateAsking delay).exists_play_of_late later
    obtain ⟨left, played, now⟩ := plays _ (lateAsking delay) rfl rfl (.refl _) late fun _ => pure ()
    refine ⟨_, left, played, ?_⟩
    rw [now, ← Nat.zero_max delay]
    rfl

end Hashgate.Gate
