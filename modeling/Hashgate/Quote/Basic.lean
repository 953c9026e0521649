/-! # Quotes

A quote is a text, by an author who may be unknown, under a name of its own. -/

namespace Hashgate

structure Quote where
  id : String
  text : String
  author : Option String
  deriving DecidableEq, Repr

/-- A quote as it is told to a peer. -/
def Quote.render (q : Quote) : String :=
  match q.author with
  | some author => q.text ++ " (" ++ author ++ ")"
  | none => q.text

/-- A quote reads as its text, with the author in brackets behind it if there is one. -/
theorem Quote.render_eq_iff {q : Quote} {told : String} :
    q.render = told ↔ (q.author = none ∧ told = q.text) ∨
      ∃ author, q.author = some author ∧ told = q.text ++ " (" ++ author ++ ")" := by
  unfold render
  cases q.author with
  | none => simp [eq_comm]
  | some author => simp [eq_comm]

end Hashgate
