import Hashgate.Proofs.Session.Basic

/-! # Waiting and reading

A race is decided by the earliest moment, and of two at once by the order in which they are listed.
Once a session has waited for its stream to be ready, a read finds at once what it has waited for.

* `earliest_pair_eq_some`, `earliest_triple_eq_some` — who wins a race.
* `Stream.ready?_advance` — a stream that is ready stays so.
* `play_receive` — a read, with the wait before it.
* `Stream.length_le_of_take` — a read takes no more than it may.
-/

namespace Hashgate

/-! ## Streams -/

namespace Stream

variable {s left : Stream} {moment later : Nat}

theorem le_of_ready? (ready : s.ready? = some moment) : s.now ≤ moment := by
  unfold ready? at ready
  split at ready
  · cases ready
  · cases ready
    exact Nat.le_refl _
  · split at ready
    · cases ready
      exact Nat.le_max_left _ _
    · cases ready

@[simp] theorem advance_now (s : Stream) (moment : Nat) : (s.advance moment).now = max s.now moment :=
  rfl

/-- A stream that is ready at some moment is ready then. -/
theorem ready?_advance (ready : s.ready? = some moment) :
    (s.advance moment).ready? = some moment := by
  have past := le_of_ready? ready
  -- The clock moves to the moment itself, so neither the idle stream nor the step has to be waited
  -- for once more.
  unfold ready? at ready ⊢
  split at ready
  · cases ready
  · next steps idle =>
    cases ready
    rw [advance, steps, idle, Nat.max_self]
  · next step rest steps =>
    rw [advance, steps]
    split at ready
    · next enough =>
      cases ready
      simp only [if_pos enough]
      rw [Nat.max_eq_right past, Nat.max_eq_left (Nat.le_max_right _ _)]
    · cases ready

theorem advance_advance (s : Stream) (moment : Nat) :
    (s.advance moment).advance moment = s.advance moment := by
  simp only [advance, Nat.max_assoc, Nat.max_self]

theorem length_le_of_take {capacity : Nat} {octets : List UInt8}
    (taken : s.take capacity = (.ok octets, left)) : octets.length ≤ capacity := by
  unfold take at taken
  split at taken
  · cases taken
    exact Nat.zero_le _
  · split at taken
    · split at taken
      · next fits =>
        cases taken
        exact fits
      · cases taken
        exact List.length_take_le _ _
    · cases taken
    · cases taken
      exact Nat.zero_le _

/-- A read changes nothing about writing, and takes no time. -/
theorem outlet_now_of_take {capacity : Nat} {found : Except IoError.Kind (List UInt8)}
    (taken : s.take capacity = (found, left)) : left.outlet = s.outlet ∧ left.now = s.now := by
  unfold take at taken
  split at taken
  · cases taken
    exact ⟨rfl, rfl⟩
  · split at taken
    · split at taken <;> cases taken <;> exact ⟨rfl, rfl⟩
    · cases taken
      exact ⟨rfl, rfl⟩
    · cases taken
      exact ⟨rfl, rfl⟩

end Stream

namespace Session

variable {β : Type} {s left : Stream} {moments rest : List (Option Nat × β)} {moment : Nat} {b : β}

/-! ## Races -/

/-- A moment that comes no later than any of some others. -/
def NotAfter (moment : Nat) (others : List (Option Nat)) : Prop :=
  ∀ other, some other ∈ others → moment ≤ other

/-- The winner of a race. -/
inductive Wins : List (Option Nat × β) → Nat → β → Prop
  | here {moment : Nat} {b : β} {rest : List (Option Nat × β)} :
      NotAfter moment (rest.map Prod.fst) → Wins ((some moment, b) :: rest) moment b
  | later {moment : Nat} {b c : β} {start : Option Nat} {rest : List (Option Nat × β)} :
      (∀ other, start = some other → moment < other) → Wins rest moment c →
      Wins ((start, b) :: rest) moment c

theorem Wins.head {start : Option Nat} (first : start = some moment)
    (others : NotAfter moment (rest.map Prod.fst)) : Wins ((start, b) :: rest) moment b :=
  first ▸ .here others

theorem notAfter_nil (moment : Nat) : NotAfter moment [] := fun _ member => nomatch member

theorem earliest_eq_none_iff :
    earliest moments = none ↔ ∀ entry ∈ moments, entry.1 = none := by
  induction moments with
  | nil => simp [earliest]
  | cons entry rest ih =>
    obtain ⟨_ | start, c⟩ := entry
    · simp [earliest, ih]
    · simp only [earliest, List.forall_mem_cons, reduceCtorEq, false_and, iff_false]
      split
      · split <;> simp
      · simp

theorem Wins.notAfter (wins : Wins moments moment b) : NotAfter moment (moments.map Prod.fst) := by
  induction wins with
  | here others =>
    intro other member
    cases List.mem_cons.mp member with
    | inl same => exact Nat.le_of_eq (Option.some.inj same).symm
    | inr member => exact others other member
  | later before _ ih =>
    intro other member
    cases List.mem_cons.mp member with
    | inl same => exact Nat.le_of_lt (before other same.symm)
    | inr member => exact ih other member

theorem Wins.mem (wins : Wins moments moment b) : (some moment, b) ∈ moments := by
  induction wins with
  | here => exact List.mem_cons_self
  | later _ _ ih => exact List.mem_cons_of_mem _ ih

theorem Wins.unique {other : Nat} {c : β} (wins : Wins moments moment b)
    (others : Wins moments other c) : moment = other ∧ b = c := by
  -- Of two winners in different places the first is both not after the second and after it.
  induction wins with
  | here after =>
    cases others with
    | here => exact ⟨rfl, rfl⟩
    | later before others =>
      have notBefore := after _ (List.mem_map_of_mem others.mem)
      have sooner := before _ rfl
      omega
  | later before wins ih =>
    cases others with
    | here after =>
      have notBefore := after _ (List.mem_map_of_mem wins.mem)
      have sooner := before _ rfl
      omega
    | later _ others => exact ih others

theorem wins_of_earliest (first : earliest moments = some (moment, b)) :
    Wins moments moment b := by
  induction moments generalizing moment b with
  | nil => cases first
  | cons entry rest ih =>
    obtain ⟨_ | start, c⟩ := entry
    · exact .later nofun (ih first)
    · rw [earliest] at first
      split at first
      · next sooner d winner =>
        have wins := ih winner
        split at first
        · next before =>
          cases first
          exact .later (fun other same => Option.some.inj same ▸ before) wins
        · next notBefore =>
          cases first
          -- What wins among the others bounds all of them, so it is enough not to be after it.
          apply Wins.here
          intro other member
          have after := wins.notAfter other member
          omega
      · next never =>
        cases first
        apply Wins.here
        intro other member
        obtain ⟨entry, among, same⟩ := List.mem_map.mp member
        rw [earliest_eq_none_iff.mp never entry among] at same
        cases same

theorem earliest_eq_some_iff : earliest moments = some (moment, b) ↔ Wins moments moment b := by
  constructor
  · exact wins_of_earliest
  · intro wins
    cases first : earliest moments with
    | none => cases earliest_eq_none_iff.mp first _ wins.mem
    | some winner =>
      obtain ⟨rfl, rfl⟩ := wins.unique (wins_of_earliest first)
      rfl

/-- Waiting for the earliest of some moments is waiting for the winner. -/
theorem play_awaitFirst_of_wins (wins : Wins moments moment b) (s : Stream) :
    (awaitFirst moments).play s = ([], some (b, s.advance moment)) := by
  rw [awaitFirst, earliest_eq_some_iff.mpr wins]
  rfl

theorem play_awaitFirst_of_none (never : ∀ entry ∈ moments, entry.1 = none) (s : Stream) :
    (awaitFirst moments).play s = ([], none) := by
  rw [awaitFirst, earliest_eq_none_iff.mpr never]
  rfl

/-! ## Reading -/

/-- A read waits for its stream to be ready, and does not wait twice. -/
theorem play_receive (ready : s.ready? = some moment) (capacity : Nat) :
    (receive capacity).play s = (readNow capacity).play (s.advance moment) := by
  have wins : Wins [(s.ready?, ())] moment () := ready ▸ .here (notAfter_nil moment)
  rw [receive, play_bind_of_some _ (play_ready? s),
    play_bind_of_some _ (play_awaitFirst_of_wins wins s)]
  rfl

theorem play_receive_advance (ready : s.ready? = some moment) (capacity : Nat) :
    (receive capacity).play (s.advance moment) = (readNow capacity).play (s.advance moment) := by
  rw [play_receive (Stream.ready?_advance ready), Stream.advance_advance]

theorem play_readNow_ok {capacity : Nat} {octets : List UInt8}
    (taken : s.take capacity = (.ok octets, left)) :
    (readNow capacity).play s =
      ([(s.now, .stream (.read octets.length))], some (.ok octets, left)) := by
  simp only [play, readNow, taken]

theorem play_readNow_error {capacity : Nat} {kind : IoError.Kind}
    (taken : s.take capacity = (.error kind, left)) :
    (readNow capacity).play s =
      ([(s.now, .stream (.readError kind))], some (.error (.ofKind kind), left)) := by
  simp only [play, readNow, taken]

end Session

end Hashgate
