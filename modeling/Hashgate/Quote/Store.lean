import Hashgate.Error.Failure
import Hashgate.Quote.Basic

/-! # Stores of quotes

A store holds quotes under different names. It keeps them in the order of their names, so that two
stores of the same quotes are equal, however they were filled.

* `Store.ofQuotes` — the store of some quotes, unless two of them share a name.
* `Store.get?`, `Store.ids`, `Store.size` — what is in a store. -/

namespace Hashgate

/-- Quotes in the ascending order of their names. -/
structure Store where
  quotes : List Quote
  ascending : quotes.Pairwise (·.id < ·.id)

namespace Store

def empty : Store := ⟨[], .nil⟩

def size (s : Store) : Nat := s.quotes.length

def isEmpty (s : Store) : Bool := s.quotes.isEmpty

def ids (s : Store) : List String := s.quotes.map (·.id)

def get? (s : Store) (id : String) : Option Quote := s.quotes.find? (·.id == id)

/-! ## Filling a store -/

/-- Puts a quote in front of the first one with a greater name. -/
def place (q : Quote) : List Quote → List Quote
  | [] => [q]
  | r :: rest => if q.id < r.id then q :: r :: rest else r :: place q rest

/-- A placed quote joins the ones that were there. -/
theorem mem_place {q x : Quote} {quotes : List Quote} :
    x ∈ place q quotes ↔ x = q ∨ x ∈ quotes := by
  induction quotes with
  | nil => simp [place]
  | cons r rest ih =>
    simp only [place]
    split
    · simp
    · simp only [List.mem_cons, ih]
      exact or_left_comm

/-- Placing a quote keeps the order, if its name is new. -/
theorem place_ascending {q : Quote} {quotes : List Quote}
    (ascending : quotes.Pairwise (·.id < ·.id)) (new : ∀ r ∈ quotes, r.id ≠ q.id) :
    (place q quotes).Pairwise (·.id < ·.id) := by
  induction quotes with
  | nil => simp [place]
  | cons r rest ih =>
    have ⟨first, later⟩ := List.pairwise_cons.1 ascending
    simp only [place]
    split
    next less =>
      refine List.pairwise_cons.2 ⟨fun x member => ?_, ascending⟩
      rcases List.mem_cons.1 member with rfl | member
      · exact less
      · exact String.lt_trans less (first x member)
    next notLess =>
      refine List.pairwise_cons.2 ⟨fun x member => ?_, ih later fun x member => ?_⟩
      · rcases mem_place.1 member with rfl | member
        · have le := String.not_lt.1 notLess
          exact Std.lt_of_le_of_ne le (new r (List.mem_cons_self ..))
        · exact first x member
      · exact new x (List.mem_cons_of_mem _ member)

/-- Adds a quote, unless its name is taken. -/
def insert? (s : Store) (q : Quote) : Option Store :=
  if h : ∀ r ∈ s.quotes, r.id ≠ q.id then some ⟨place q s.quotes, place_ascending s.ascending h⟩
  else none

def duplicate (id : String) : Failure := .internal ("duplicate quote id " ++ id)

def insertAll (s : Store) : List Quote → Except Failure Store
  | [] => .ok s
  | q :: rest =>
    match s.insert? q with
    | some s => s.insertAll rest
    | none => .error (duplicate q.id)

def ofQuotes (quotes : List Quote) : Except Failure Store := empty.insertAll quotes

def entry (s : Store) : Log.Entry :=
  Log.debug "loaded quotes" [("count", toString s.size)]

end Store

end Hashgate
