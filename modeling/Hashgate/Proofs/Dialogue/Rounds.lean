import Mathlib.Logic.Function.Iterate
import Hashgate.Dialogue

/-! # How a dialogue is found

Each round of a dialogue depends on what both sides have said, and on nothing else.  So a dialogue may
stop at the first round that adds nothing, or go on to the last: the outcome is the same.  What it finds
is settled when each side is what it does against the other side's script.

* `dialogueFrom_eq_iterate` — a dialogue is so many rounds.
* `Settled`, `dialogue_eq_of_settled` — a dialogue that has been reached early enough.
* `writesHeard_append` — what one has heard who has read so much.
-/

namespace Hashgate

variable {α β : Type} {server : Session α} {client : Session β}

/-! ## Rounds -/

/-- One round: the server plays against what the client has said, and the client against what the
server says to that. -/
def round (server : Session α) (client : Session β) (last : Played α × Played β) :
    Played α × Played β :=
  let nextServer := server.playScript (last.2.trace.script last.1.trace.writes 0)
  (nextServer, client.playScript (nextServer.trace.script last.2.trace.writes 0))

theorem round_congr {last other : Played α × Played β} (sameServer : last.1.trace = other.1.trace)
    (sameClient : last.2.trace = other.2.trace) :
    round server client last = round server client other := by
  rw [round, round, sameServer, sameClient]

theorem dialogueFrom_eq_iterate (rounds : Nat) (last : Played α × Played β) :
    dialogueFrom server client rounds last = (round server client)^[rounds] last := by
  induction rounds generalizing last with
  | zero => rfl
  | succ rounds ih =>
    rw [Function.iterate_succ_apply, ← ih]
    change (if (round server client last).1.trace = last.1.trace ∧
        (round server client last).2.trace = last.2.trace then round server client last
      else dialogueFrom server client rounds (round server client last)) = _
    split
    · next same =>
      -- A round that adds nothing is followed by no other.
      have fixed : round server client (round server client last) = round server client last :=
        round_congr same.1 same.2
      rw [ih, Function.iterate_fixed fixed]
    · rfl

/-! ## Dialogues that have settled -/

/-- Each side is what it does against what the other side has said. -/
def Settled (server : Session α) (client : Session β) (both : Played α × Played β) : Prop :=
  both.1 = server.playScript (both.2.trace.script both.1.trace.writes 0) ∧
    both.2 = client.playScript (both.1.trace.script both.2.trace.writes 0)

theorem Settled.round_eq {both : Played α × Played β} (settled : Settled server client both) :
    round server client both = both := by
  obtain ⟨serverSide, clientSide⟩ := settled
  rw [round, ← serverSide, ← clientSide]

theorem dialogue_eq_of_settled {both : Played α × Played β} (settled : Settled server client both)
    {rounds : Nat} (enough : rounds ≤ dialogueRounds)
    (reached : (round server client)^[rounds] (⟨[], none⟩, ⟨[], none⟩) = both) :
    dialogue server client = both := by
  obtain ⟨more, total⟩ := Nat.exists_eq_add_of_le' enough
  rw [dialogue, dialogueFrom_eq_iterate, total, Function.iterate_add_apply, reached,
    Function.iterate_fixed settled.round_eq]

/-! ## Writes that are heard -/

@[simp] theorem writesHeard_zero (writes : List (List UInt8)) : writesHeard 0 writes = 0 := by
  cases writes <;> rfl

/-- Whoever has read all of a write, and more, has heard it. -/
theorem writesHeard_append {octets : List UInt8} (nonempty : octets ≠ []) (more : Nat)
    (writes : List (List UInt8)) :
    writesHeard (octets.length + more) (octets :: writes) = 1 + writesHeard more writes := by
  have positive := List.length_pos_iff.mpr nonempty
  rw [writesHeard, if_neg (by omega), Nat.add_sub_cancel_left]

theorem writesHeard_length {octets : List UInt8} (nonempty : octets ≠ []) (writes : List (List UInt8)) :
    writesHeard octets.length (octets :: writes) = 1 := by
  rw [← Nat.add_zero octets.length, writesHeard_append nonempty, writesHeard_zero]

end Hashgate
