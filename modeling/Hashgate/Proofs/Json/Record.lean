import Mathlib.Data.List.Forall2
import Hashgate.Json.Record
import Hashgate.Proofs.Json.Value

/-! # Records of JSON, however they are written

A record is read member by member.  A member takes what has been read so far one step on if its name is
unknown, or if it is a field that has not been read before, and then the members behind it are read in the
same way.  So an object makes the record that its members, one after the other, lead to.

* `TakesMember`, `TakesMembers` — where the members of an object lead.
* `Shape.takes_read` — an object makes the record that its members lead to.
* `takes_readList` — an array makes the list of what its elements make.
* `readWhole_of_takes` — a text that is one value.
-/

namespace Hashgate.Json

open Fields (join join_cons_eq_append_flatMap length_le_length_flatMap)

variable {σ α : Type} {slot : String → σ → Slot σ} {read : Reader α} {s t : σ} {a : α} {as : List α}
  {text label member element more : List Char} {members elements : List (List Char)} {name : String}
  {c : Cursor} {fuel : Nat}

/-! ## Members -/

/-- A member takes a record on, or leaves it alone if its name is unknown. -/
inductive TakesMember (slot : String → σ → Slot σ) : List Char → σ → σ → Prop
  | unknown {label value : List Char} {name : String} {s : σ} : SpellsLabel label name →
      slot name s = .unknown → IsJson value → TakesMember slot (label ++ ':' :: value) s s
  | field {label value : List Char} {name : String} {read : Reader σ} {s t : σ} : SpellsLabel label name →
      slot name s = .reader read → Takes read value t → TakesMember slot (label ++ ':' :: value) s t

inductive TakesMembers (slot : String → σ → Slot σ) : List (List Char) → σ → σ → Prop
  | nil {s : σ} : TakesMembers slot [] s s
  | cons {member : List Char} {rest : List (List Char)} {s t u : σ} : TakesMember slot member s t →
      TakesMembers slot rest t u → TakesMembers slot (member :: rest) s u

/-- Behind the name of a first member the record decides about its value. -/
theorem exists_readMembers_label (slot : String → σ → Slot σ) (spells : SpellsLabel label name) (fuel : Nat)
    (s : σ) (more : List Char) (p : Position) : ∃ q,
      (slot name s = .unknown → readMembers slot (fuel + 1) true s ⟨label ++ ':' :: more, p⟩ =
        skipValue ⟨more, q⟩ >>= readMembers slot fuel false s) ∧
      (∀ read, slot name s = .reader read → readMembers slot (fuel + 1) true s ⟨label ++ ':' :: more, p⟩ =
        read ⟨more, q⟩ >>= fun (t, c) => readMembers slot fuel false t c) := by
  obtain ⟨inner, after, spells, blanks, stands⟩ := spells.exists_inner
  obtain ⟨quote, skips⟩ := stands (':' :: more) p
  obtain ⟨behind, reads⟩ := exists_readString spells (after ++ ':' :: more) (quote.after '"')
  obtain ⟨q, colon⟩ := exists_readColon (standsBefore_append blanks (':' :: more) behind)
  have met : nextMember true ⟨label ++ ':' :: more, p⟩ =
      .ok (true, ⟨inner ++ '"' :: (after ++ ':' :: more), quote.after '"'⟩) := by
    simp [nextMember, skips, Cursor.next]
  refine ⟨q, fun unknown => ?_, fun read known => ?_⟩
  · rw [readMembers, met]
    simp only [bind, Except.bind, reads, unknown, colon]
    rfl
  · rw [readMembers, met]
    simp only [bind, Except.bind, reads, known, colon]
    rfl

/-- A member behind a comma is met as a first one is. -/
theorem exists_nextMember_comma (spells : SpellsLabel label name)
    (stands : c.StandsBefore (',' :: (label ++ more))) :
    ∃ q, nextMember false c = nextMember true ⟨label ++ more, q⟩ := by
  obtain ⟨comma, skips⟩ := stands.skipBlanks_eq rfl
  obtain ⟨inner, after, -, -, standsLabel⟩ := spells.exists_inner
  obtain ⟨quote, skipsLabel⟩ := standsLabel more (comma.after ',')
  exact ⟨comma.after ',', by simp [nextMember, skips, Cursor.next, skipsLabel]⟩

theorem exists_readMembers_first (takes : TakesMember slot member s t) (fuel : Nat) (ends : Ends more)
    (p : Position) : ∃ c, readMembers slot (fuel + 1) true s ⟨member ++ more, p⟩ =
      readMembers slot fuel false t c ∧ c.StandsBefore more := by
  cases takes with
  | @unknown label value _ _ spells unknown isJson =>
    obtain ⟨q, passes, -⟩ := exists_readMembers_label slot spells fuel s (value ++ more) p
    obtain ⟨c, skips, stands⟩ := passes_skipValue isJson more q ends
    refine ⟨c, ?_, stands⟩
    rw [List.append_assoc, List.cons_append, passes unknown, skips]
    rfl
  | @field label value _ read _ _ spells known takes =>
    obtain ⟨q, -, reads⟩ := exists_readMembers_label slot spells fuel s (value ++ more) p
    obtain ⟨c, read, stands⟩ := takes more q ends
    refine ⟨c, ?_, stands⟩
    rw [List.append_assoc, List.cons_append, reads _ known, read]
    rfl

theorem TakesMember.exists_label (takes : TakesMember slot member s t) :
    ∃ label name value, SpellsLabel label name ∧ member = label ++ ':' :: value := by
  cases takes with
  | @unknown label value name _ spells => exact ⟨label, name, value, spells, rfl⟩
  | @field label value name _ _ _ spells => exact ⟨label, name, value, spells, rfl⟩

/-- Behind a comma a member does what it would do as the first one. -/
theorem exists_readMembers_comma (takes : TakesMember slot member s t) (fuel : Nat) (ends : Ends more)
    (stands : c.StandsBefore (',' :: (member ++ more))) : ∃ c',
      readMembers slot (fuel + 1) false s c = readMembers slot fuel false t c' ∧ c'.StandsBefore more := by
  obtain ⟨label, name, value, spells, rfl⟩ := takes.exists_label
  rw [List.append_assoc] at stands
  obtain ⟨q, same⟩ := exists_nextMember_comma spells stands
  obtain ⟨c', reads, standsBehind⟩ := exists_readMembers_first takes fuel ends q
  refine ⟨c', ?_, standsBehind⟩
  rw [← reads, readMembers, same, List.append_assoc, readMembers]

/-- The members that are left lead from one record to another. -/
theorem exists_readMembers_rest (takes : TakesMembers slot members s t) (enough : members.length < fuel)
    (stands : c.StandsBefore (members.flatMap (',' :: ·) ++ '\x7d' :: more)) :
    ∃ q, readMembers slot fuel false s c = .ok (.ok t, ⟨'\x7d' :: more, q⟩) := by
  induction takes generalizing fuel c with
  | nil =>
    obtain ⟨turns, rfl⟩ := Nat.exists_eq_add_of_lt enough
    obtain ⟨q, closes⟩ := stands.skipBlanks_eq rfl
    refine ⟨q, ?_⟩
    rw [readMembers, nextMember, closes]
    rfl
  | @cons member rest s t u takes _ ih =>
    obtain ⟨turns, rfl⟩ : ∃ turns, fuel = turns + 1 := ⟨fuel - 1, by omega⟩
    rw [List.flatMap_cons, List.cons_append, List.cons_append, List.append_assoc] at stands
    obtain ⟨c', reads, standsRest⟩ := exists_readMembers_comma takes turns (ends_items .object rest more) stands
    have left : rest.length < turns := by simpa using enough
    obtain ⟨q, readsRest⟩ := ih left standsRest
    exact ⟨q, reads.trans readsRest⟩

theorem exists_readMembers (takes : TakesMembers slot members s t) (nonempty : members ≠ [])
    (enough : members.length < fuel) (more : List Char) (p : Position) :
    ∃ q, readMembers slot fuel true s ⟨join ',' members ++ '\x7d' :: more, p⟩ =
      .ok (.ok t, ⟨'\x7d' :: more, q⟩) := by
  cases takes with
  | nil => exact absurd rfl nonempty
  | @cons member rest _ _ _ first others =>
    obtain ⟨turns, rfl⟩ : ∃ turns, fuel = turns + 1 := ⟨fuel - 1, by omega⟩
    obtain ⟨c, reads, stands⟩ := exists_readMembers_first first turns (ends_items .object rest more) p
    obtain ⟨q, readsRest⟩ := exists_readMembers_rest others (by simpa using enough) stands
    refine ⟨q, ?_⟩
    rw [join_cons_eq_append_flatMap, List.append_assoc]
    exact reads.trans readsRest

/-! ## Objects -/

/-- A reader that does not mind blanks takes a text between blanks. -/
theorem Takes.padded {before after : List Char} (blind : ∀ c, read c.skipBlanks = read c)
    (blanks : IsBlanks before) (takes : Takes read text a) (blanksAfter : IsBlanks after) :
    Takes read (before ++ text ++ after) a := by
  intro more p ends
  obtain ⟨q, same⟩ := standsBefore_append blanks (text ++ (after ++ more)) p
  obtain ⟨c, reads, stands⟩ := takes (after ++ more) q (ends.append blanksAfter)
  refine ⟨c, ?_, stands.of_append blanksAfter⟩
  rw [← reads, ← blind, List.append_assoc, List.append_assoc, same, blind]

theorem Shape.read_skipBlanks (shape : Shape σ α) (c : Cursor) : shape.read c.skipBlanks = shape.read c := by
  rw [Shape.read, Shape.read, skipBlanks_skipBlanks]

/-- The length of a text grants a turn for each of the items in it. -/
theorem length_lt_length_join (items : List (List Char)) (x : Char) (more : List Char) :
    items.length < (join ',' items ++ x :: more).length + 1 := by
  cases items with
  | nil => exact Nat.succ_pos _
  | cons item rest =>
    have turns := length_le_length_flatMap ',' rest
    simp only [join_cons_eq_append_flatMap, List.length_append, List.length_cons]
    omega

/-- An object makes the record that its members lead to. -/
theorem Shape.takes_read {shape : Shape σ α} (takes : TakesMembers shape.slot members shape.start t)
    (nonempty : members ≠ []) (built : shape.build t = .ok a) :
    Takes shape.read ('\x7b' :: (join ',' members ++ ['\x7d'])) a := by
  intro more p _
  have enough := length_lt_length_join members '\x7d' more
  obtain ⟨q, reads⟩ := exists_readMembers takes nonempty enough more (p.after '\x7b')
  refine ⟨⟨more, q.after '\x7d'⟩, ?_, standsBefore_self _ _⟩
  rw [Shape.read, List.cons_append, List.append_assoc, List.singleton_append,
    skipBlanks_cons rfl]
  simp only [Cursor.next, Shape.readObject, reads, bind, Except.bind, built]
  rfl

/-! ## Arrays -/

theorem exists_nextElement_comma (starts : Starts text) (stands : c.StandsBefore (',' :: text)) :
    ∃ q, nextElement false c = nextElement true ⟨text, q⟩ := by
  obtain ⟨comma, skips⟩ := stands.skipBlanks_eq rfl
  obtain ⟨x, rest, q, behind, noBracket, -⟩ := starts.exists_skipBlanks (comma.after ',')
  exact ⟨comma.after ',', by simp [nextElement, skips, Cursor.next, behind, noBracket]⟩

theorem nextElement_of_starts (starts : Starts text) (p : Position) :
    nextElement true ⟨text, p⟩ = .ok (true, Cursor.skipBlanks ⟨text, p⟩) := by
  obtain ⟨x, rest, q, behind, noBracket, -⟩ := starts.exists_skipBlanks p
  simp [nextElement, behind]

/-- A reader that does not mind blanks makes some values of some texts. -/
def TakesEach (read : Reader α) : List (List Char) → List α → Prop :=
  List.Forall₂ fun element a => Starts element ∧ Takes read element a

theorem exists_readElements_first (blind : ∀ c, read c.skipBlanks = read c) (starts : Starts element)
    (takes : Takes read element a) (fuel : Nat) (ends : Ends more) (p : Position) :
    ∃ c, readElements read (fuel + 1) true ⟨element ++ more, p⟩ =
      (readElements read fuel false c).map (fun (rest, c) => (a :: rest, c)) ∧ c.StandsBefore more := by
  obtain ⟨c, reads, stands⟩ := takes more p ends
  refine ⟨c, ?_, stands⟩
  rw [readElements, nextElement_of_starts (starts.append more)]
  simp only [bind, Except.bind, if_true, blind, reads]
  rfl

theorem exists_readElements_comma (blind : ∀ c, read c.skipBlanks = read c) (starts : Starts element)
    (takes : Takes read element a) (fuel : Nat) (ends : Ends more)
    (stands : c.StandsBefore (',' :: (element ++ more))) :
    ∃ c', readElements read (fuel + 1) false c =
      (readElements read fuel false c').map (fun (rest, c) => (a :: rest, c)) ∧ c'.StandsBefore more := by
  obtain ⟨q, same⟩ := exists_nextElement_comma (starts.append more) stands
  obtain ⟨c', reads, standsBehind⟩ := exists_readElements_first blind starts takes fuel ends q
  refine ⟨c', ?_, standsBehind⟩
  rw [← reads, readElements, same, readElements]

/-- The elements that are left are read, and the closing bracket. -/
theorem exists_readElements_rest (blind : ∀ c, read c.skipBlanks = read c)
    (takes : TakesEach read elements as) (enough : elements.length < fuel)
    (stands : c.StandsBefore (elements.flatMap (',' :: ·) ++ ']' :: more)) :
    ∃ q, readElements read fuel false c = .ok (as, ⟨more, q⟩) := by
  induction takes generalizing fuel c with
  | nil =>
    obtain ⟨turns, rfl⟩ := Nat.exists_eq_add_of_lt enough
    obtain ⟨q, closes⟩ := stands.skipBlanks_eq rfl
    refine ⟨q.after ']', ?_⟩
    rw [readElements, nextElement, closes]
    rfl
  | @cons element a rest _ first _ ih =>
    obtain ⟨turns, rfl⟩ : ∃ turns, fuel = turns + 1 := ⟨fuel - 1, by omega⟩
    rw [List.flatMap_cons, List.cons_append, List.cons_append, List.append_assoc] at stands
    obtain ⟨c', reads, standsRest⟩ :=
      exists_readElements_comma blind first.1 first.2 turns (ends_items .list rest more) stands
    have left : rest.length < turns := by simpa using enough
    obtain ⟨q, readsRest⟩ := ih left standsRest
    exact ⟨q, by rw [reads, readsRest]; rfl⟩

theorem exists_readElements (blind : ∀ c, read c.skipBlanks = read c) (takes : TakesEach read elements as)
    (nonempty : elements ≠ []) (enough : elements.length < fuel) (more : List Char) (p : Position) :
    ∃ q, readElements read fuel true ⟨join ',' elements ++ ']' :: more, p⟩ = .ok (as, ⟨more, q⟩) := by
  cases takes with
  | nil => exact absurd rfl nonempty
  | @cons element a rest _ first others =>
    obtain ⟨turns, rfl⟩ : ∃ turns, fuel = turns + 1 := ⟨fuel - 1, by omega⟩
    obtain ⟨c, reads, stands⟩ :=
      exists_readElements_first blind first.1 first.2 turns (ends_items .list rest more) p
    obtain ⟨q, readsRest⟩ := exists_readElements_rest blind others (by simpa using enough) stands
    refine ⟨q, ?_⟩
    rw [join_cons_eq_append_flatMap, List.append_assoc]
    exact reads.trans (by rw [readsRest]; rfl)

theorem readList_skipBlanks (read : Reader α) (c : Cursor) : readList read c.skipBlanks = readList read c := by
  rw [readList, readList, skipBlanks_skipBlanks]

/-- An array makes the list of what its elements make. -/
theorem takes_readList (blind : ∀ c, read c.skipBlanks = read c) (takes : TakesEach read elements as)
    (nonempty : elements ≠ []) : Takes (readList read) ('[' :: (join ',' elements ++ [']'])) as := by
  intro more p _
  have enough : elements.length < ('[' :: (join ',' elements ++ ']' :: more)).length + 1 :=
    Nat.lt_succ_of_lt (length_lt_length_join elements ']' more)
  obtain ⟨q, reads⟩ := exists_readElements blind takes nonempty enough more (p.after '[')
  refine ⟨⟨more, q⟩, ?_, standsBefore_self more q⟩
  rw [readList, List.cons_append, List.append_assoc, List.singleton_append,
    skipBlanks_cons rfl]
  exact reads

theorem takes_readList_nil {blanks : List Char} (isBlanks : IsBlanks blanks) :
    Takes (readList read) ('[' :: (blanks ++ [']'])) [] := by
  intro more p _
  obtain ⟨q, closes⟩ := (standsBefore_append isBlanks (']' :: more) (p.after '[')).skipBlanks_eq rfl
  refine ⟨⟨more, q.after ']'⟩, ?_, standsBefore_self _ _⟩
  rw [readList, List.cons_append, List.append_assoc, List.singleton_append,
    skipBlanks_cons rfl]
  simp only [Cursor.next, readElements, nextElement, closes, bind, Except.bind]
  rfl

/-! ## Whole texts -/

theorem readWhole_of_takes {text : String} (takes : Takes read text.toList a) :
    readWhole read text = .ok a := by
  obtain ⟨c, reads, stands⟩ := takes [] ⟨1, 0⟩ ends_nil
  obtain ⟨q, finished⟩ := stands.skipBlanks_eq_nil
  rw [List.append_nil] at reads
  simp only [readWhole, Cursor.start, reads, bind, Except.bind, finish, finished]
  rfl

end Hashgate.Json
