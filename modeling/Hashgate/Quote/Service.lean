import Hashgate.Quote.Store

/-! # The quote service

The service tells a quote by chance. It learns once which quotes there are, and looks up the one that
it draws. The quotes may come from anywhere, and whoever has them may fail to give them. -/

namespace Hashgate

/-- Somebody who has quotes, and is asked for them while nothing else happens: an answer takes no time, so
a signal to stop comes before it or after it. -/
structure QuoteSource where
  ids : Except Failure (List String)
  get? : String → Except Failure (Option Quote)

/-- A store never fails to give its quotes. -/
def Store.source (s : Store) : QuoteSource := ⟨.ok s.ids, fun id => .ok (s.get? id)⟩

/-- A service with a source of quotes, and the names that it learnt. -/
structure QuoteService where
  source : QuoteSource
  ids : List String

namespace QuoteService

def ofSource (source : QuoteSource) : Except Failure QuoteService := do
  return ⟨source, ← source.ids⟩

/-- The quote that a draw selects, as it is told to a peer. -/
def quote (s : QuoteService) (draw : Nat) : Except Failure String :=
  match s.ids[draw % s.ids.length]? with
  | none => .error (.notFound "No quotes available")
  | some id => do
    let found ← s.source.get? id
    let quote ← Failure.require found .notFound ("Quote " ++ id ++ " not found")
    return quote.render

end QuoteService

end Hashgate
