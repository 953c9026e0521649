import Hashgate.Quote.Store

/-! # What a store holds

A store is filled with one quote after the other.  After each it holds the quotes that were read so far, and
nothing else, unless one of them came under the name of an earlier one: there filling ends.  Since a store
keeps its quotes in the order of their names, nothing is left in it of the order in which they came.

* `eq_of_perm` — two stores of the same quotes are equal.
* `insert?_cases` — one quote more.
* `fills_insertAll` — what a store holds, or the name that came again.
* `get?_eq_some_iff`, `get?_eq_none_iff` — what is found under a name.
* `ofQuotes_eq_ok_iff`, `ofQuotes_quotes` — which store some quotes make, and which quotes make a store.
* `ofQuotes_decides` — the store of some quotes.
-/

namespace Hashgate.Store

variable {store other : Store} {q : Quote} {quotes read rest : List Quote} {id : String}

/-! ## Names -/

theorem ids_nodup (store : Store) : store.ids.Nodup := by
  refine List.pairwise_map.mpr (store.ascending.imp ?_)
  exact fun less => String.ne_of_lt less

/-- Two stores of the same quotes are equal. -/
theorem eq_of_perm (same : store.quotes.Perm other.quotes) : store = other := by
  have quotes : store.quotes = other.quotes :=
    same.eq_of_pairwise (fun _ _ _ _ less more => absurd less (String.lt_asymm more)) store.ascending
      other.ascending
  cases store
  cases other
  cases quotes
  rfl

theorem find?_eq_some_of_mem (ascending : quotes.Pairwise (·.id < ·.id)) (member : q ∈ quotes) :
    quotes.find? (·.id == q.id) = some q := by
  induction quotes with
  | nil => cases member
  | cons first rest ih =>
    obtain ⟨before, later⟩ := List.pairwise_cons.mp ascending
    obtain rfl | among := List.mem_cons.mp member
    · exact List.find?_cons_of_pos (by simp)
    · have other : first.id ≠ q.id := String.ne_of_lt (before q among)
      rw [List.find?_cons_of_neg (by simpa using other)]
      exact ih later among

theorem get?_eq_some_of_mem (member : q ∈ store.quotes) : store.get? q.id = some q :=
  find?_eq_some_of_mem store.ascending member

/-- A store finds a quote under its name, and under no other. -/
theorem get?_eq_some_iff : store.get? id = some q ↔ q ∈ store.quotes ∧ q.id = id := by
  constructor
  · intro found
    exact ⟨List.mem_of_find?_eq_some found, by simpa using List.find?_some found⟩
  · rintro ⟨member, rfl⟩
    exact get?_eq_some_of_mem member

theorem get?_eq_none_iff : store.get? id = none ↔ id ∉ store.ids := by
  simp [get?, ids]

/-! ## Filling a store -/

theorem place_perm (q : Quote) (quotes : List Quote) : (place q quotes).Perm (q :: quotes) := by
  induction quotes with
  | nil => exact .refl _
  | cons r rest ih =>
    simp only [place]
    split
    · exact .refl _
    · exact (ih.cons r).trans (.swap q r rest)

/-- A quote joins those that are there, or its name is taken. -/
theorem insert?_cases (store : Store) (q : Quote) :
    (q.id ∈ store.ids ∧ store.insert? q = none) ∨
      ∃ other, q.id ∉ store.ids ∧ store.insert? q = some other ∧
        other.quotes.Perm (q :: store.quotes) := by
  have free : (∀ r ∈ store.quotes, r.id ≠ q.id) ↔ q.id ∉ store.ids := by simp [ids]
  by_cases taken : q.id ∈ store.ids
  · exact .inl ⟨taken, dif_neg fun new => free.mp new taken⟩
  · exact .inr ⟨_, taken, dif_pos (free.mpr taken), place_perm q store.quotes⟩

/-- A name comes again, after quotes of which no two share a name. -/
def ComesAgain (quotes : List Quote) (id : String) : Prop :=
  ∃ before q after, quotes = before ++ q :: after ∧ (before.map (·.id)).Nodup ∧
    q.id ∈ before.map (·.id) ∧ q.id = id

theorem ComesAgain.not_nodup (again : ComesAgain quotes id) : ¬ (quotes.map (·.id)).Nodup := by
  obtain ⟨before, q, after, rfl, -, earlier, -⟩ := again
  rw [List.map_append, List.map_cons, List.perm_middle.nodup_iff, List.nodup_cons]
  exact fun distinct => distinct.1 (List.mem_append_left _ earlier)

/-- What filling a store ends with, after some quotes have been read. -/
def Fills (quotes : List Quote) : Except Failure Store → Prop
  | .ok store => (quotes.map (·.id)).Nodup ∧ store.quotes.Perm quotes
  | .error failure => ∃ id, ComesAgain quotes id ∧ failure = duplicate id

/-- A store that holds what has been read goes on to hold the rest too, until a name comes again. -/
theorem fills_insertAll (holds : store.quotes.Perm read) :
    Fills (read ++ rest) (store.insertAll rest) := by
  have names : store.ids.Perm (read.map (·.id)) := holds.map _
  induction rest generalizing store read with
  | nil =>
    rw [List.append_nil]
    exact ⟨names.nodup_iff.mp store.ids_nodup, holds⟩
  | cons q rest ih =>
    rw [insertAll]
    obtain ⟨taken, refused⟩ | ⟨other, -, joined, holdsMore⟩ := store.insert?_cases q
    · rw [refused]
      exact ⟨q.id, ⟨read, q, rest, rfl, names.nodup_iff.mp store.ids_nodup, names.mem_iff.mp taken, rfl⟩,
        rfl⟩
    · rw [joined, List.append_cons]
      have more : other.quotes.Perm (read ++ [q]) :=
        holdsMore.trans ((holds.cons q).trans (List.perm_append_singleton q read).symm)
      exact ih more (more.map _)

theorem fills_ofQuotes (quotes : List Quote) : Fills quotes (ofQuotes quotes) :=
  have holds : empty.quotes.Perm [] := .refl []
  fills_insertAll holds

theorem ofQuotes_eq_ok_iff :
    ofQuotes quotes = .ok store ↔ (quotes.map (·.id)).Nodup ∧ store.quotes.Perm quotes := by
  have fills := fills_ofQuotes quotes
  cases filled : ofQuotes quotes with
  | ok other =>
    rw [filled] at fills
    obtain ⟨distinct, holds⟩ := fills
    refine ⟨?_, fun held => congrArg Except.ok (eq_of_perm (holds.trans held.2.symm))⟩
    rintro ⟨⟩
    exact ⟨distinct, holds⟩
  | error failure =>
    rw [filled] at fills
    obtain ⟨id, again, -⟩ := fills
    exact iff_of_false nofun fun held => again.not_nodup held.1

/-- Every store can be filled. -/
theorem ofQuotes_quotes (store : Store) : ofQuotes store.quotes = .ok store :=
  ofQuotes_eq_ok_iff.mpr ⟨store.ids_nodup, .refl _⟩

theorem exists_ofQuotes_eq_ok (distinct : (quotes.map (·.id)).Nodup) :
    ∃ store, ofQuotes quotes = .ok store := by
  have fills := fills_ofQuotes quotes
  cases filled : ofQuotes quotes with
  | ok store => exact ⟨store, rfl⟩
  | error failure =>
    rw [filled] at fills
    obtain ⟨id, again, -⟩ := fills
    exact absurd distinct again.not_nodup

/-- What can be said of the store of some quotes of which no two share a name. -/
structure Holds (store : Store) (quotes : List Quote) : Prop where
  size_eq : store.size = quotes.length
  isEmpty_iff : store.isEmpty = true ↔ quotes = []
  ids_perm : store.ids.Perm (quotes.map (·.id))
  ids_nodup : store.ids.Nodup
  found : ∀ q ∈ quotes, store.get? q.id = some q
  absent : ∀ id, id ∉ quotes.map (·.id) → store.get? id = none
  /-- The order of the quotes does not matter. -/
  same : ∀ others, others.Perm quotes → ofQuotes others = .ok store

theorem holds_of_ofQuotes (filled : ofQuotes quotes = .ok store) : Holds store quotes := by
  obtain ⟨distinct, holds⟩ := ofQuotes_eq_ok_iff.mp filled
  have names : store.ids.Perm (quotes.map (·.id)) := holds.map _
  refine ⟨holds.length_eq, ?_, names, store.ids_nodup, fun q member => ?_, fun id absent => ?_,
    fun others same => ?_⟩
  · rw [isEmpty, List.isEmpty_iff]
    constructor
    · intro empty
      rw [empty] at holds
      exact holds.nil_eq.symm
    · rintro rfl
      exact holds.eq_nil
  · exact get?_eq_some_of_mem (holds.mem_iff.mpr member)
  · exact get?_eq_none_iff.mpr (mt names.mem_iff.mp absent)
  · exact ofQuotes_eq_ok_iff.mpr ⟨(same.map _).nodup_iff.mpr distinct, holds.trans same.symm⟩

theorem exists_ofQuotes_eq_error (shared : ¬ (quotes.map (·.id)).Nodup) :
    ∃ id, ComesAgain quotes id ∧ ofQuotes quotes = .error (duplicate id) := by
  have fills := fills_ofQuotes quotes
  cases filled : ofQuotes quotes with
  | ok store =>
    rw [filled] at fills
    exact absurd fills.1 shared
  | error failure =>
    rw [filled] at fills
    obtain ⟨id, again, rfl⟩ := fills
    exact ⟨id, again, rfl⟩

/-- **A store is exactly the list that it was filled from.**  Quotes make a store exactly if no two of them
share a name.  The store holds them and nothing else, and it is the same in whatever order they come.  If
two of them share a name, the failure says which name is the first to come again. -/
theorem ofQuotes_decides (quotes : List Quote) :
    ((∃ store, ofQuotes quotes = .ok store) ↔ (quotes.map (·.id)).Nodup) ∧
    ((quotes.map (·.id)).Nodup → ∃ store, ofQuotes quotes = .ok store ∧ Holds store quotes) ∧
    (¬ (quotes.map (·.id)).Nodup → ∃ id, ComesAgain quotes id ∧
      ofQuotes quotes = .error ⟨.internal, "duplicate quote id " ++ id, .unknown⟩) := by
  refine ⟨⟨?_, exists_ofQuotes_eq_ok⟩, fun distinct => ?_, exists_ofQuotes_eq_error⟩
  · rintro ⟨store, filled⟩
    exact (ofQuotes_eq_ok_iff.mp filled).1
  · obtain ⟨store, filled⟩ := exists_ofQuotes_eq_ok distinct
    exact ⟨store, filled, holds_of_ofQuotes filled⟩

/-- Quotes with nothing but names. -/
def named (ids : List String) : List Quote := ids.map fun id => ⟨id, "", none⟩

/-- Three names in two orders make one store, and of two names that come again the first is told. -/
theorem ofQuotes_decides_named :
    (∃ store, ofQuotes (named ["b", "a", "c"]) = .ok store ∧
      ofQuotes (named ["c", "b", "a"]) = .ok store ∧ store.ids = ["a", "b", "c"]) ∧
    ∃ id, ComesAgain (named ["a", "b", "c", "b", "a", "b"]) id ∧
      ofQuotes (named ["a", "b", "c", "b", "a", "b"]) =
        .error ⟨.internal, "duplicate quote id " ++ id, .unknown⟩ ∧ id = "b" := by
  obtain ⟨-, distinct, -⟩ := ofQuotes_decides (named ["b", "a", "c"])
  obtain ⟨-, -, shared⟩ := ofQuotes_decides (named ["a", "b", "c", "b", "a", "b"])
  obtain ⟨store, filled, holds⟩ := distinct (by decide)
  obtain ⟨id, again, failed⟩ := shared (by decide)
  refine ⟨⟨store, filled, holds.same _ (by decide), ?_⟩, id, again, failed, ?_⟩
  · have ids : (ofQuotes (named ["b", "a", "c"])).map (·.ids) = .ok ["a", "b", "c"] := rfl
    rw [filled] at ids
    exact Except.ok.inj ids
  · have told : ofQuotes (named ["a", "b", "c", "b", "a", "b"]) = .error (duplicate "b") := rfl
    rw [failed] at told
    have message := congrArg Failure.message (Except.error.inj told)
    exact (String.append_right_inj _).mp message

end Hashgate.Store
