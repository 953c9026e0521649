import Hashgate.Session.Basic

/-! # Sessions as they go on

A session can be played before all of its script is known: what the peer has sent so far, followed by
silence, is a script too. Whatever the peer sends later changes nothing that happened before, so the
acts that are due can be carried out one by one, and the session played again once there is more to
know. -/

namespace Hashgate

/-- What is to be done in a session at some moment. -/
structure Due (α : Type) where
  /-- The next act, if it is due. -/
  act : Option Act
  /-- When the next act will be due, if nothing else happens. -/
  later : Option Nat
  /-- The result, once no act is left. -/
  result : Option α

/-- What is to be done at a moment, when the first acts have been carried out already. -/
def Session.due (x : Session α) (s : Stream) (moment carriedOut : Nat) : Due α :=
  let (trace, result) := x.play s
  match trace.drop carriedOut with
  | (time, act) :: _ => if time ≤ moment then ⟨some act, none, none⟩ else ⟨none, some time, none⟩
  | [] =>
    match result with
    | some (a, left) =>
      if left.now ≤ moment then ⟨none, none, some a⟩ else ⟨none, some left.now, none⟩
    | none => ⟨none, none, none⟩

end Hashgate
