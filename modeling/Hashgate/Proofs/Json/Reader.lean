import Hashgate.Json.Reader

/-! # Readers that take a text

A reader that is made for a text takes it wherever it stands, gives what it says, and stops behind it.  What
stands around the text does not matter, but that a value ends where a blank, a separator or a closing bracket
stands, since a number has no end of its own.

Blanks behind a value are left to the next reader, so a cursor is taken to stand before whatever comes after
the blanks.

* `IsBlanks` — the blanks that may stand between any two signs.
* `Cursor.StandsBefore` — where a cursor stands, but for blanks.
* `Takes`, `Passes` — a reader, and a skipper, that takes a text.
-/

namespace Hashgate.Json

variable {α β : Type} {kind : Char → Bool} {text more : List Char} {c : Cursor}

/-! ## Characters of a kind -/

/-- All characters of a kind are passed. -/
theorem exists_skipWhile_append (all : ∀ x ∈ text, kind x = true) (more : List Char) (p : Position) :
    ∃ q, skipWhile kind (text ++ more) p = skipWhile kind more q := by
  induction text generalizing p with
  | nil => exact ⟨p, rfl⟩
  | cons x rest ih =>
    obtain ⟨first, others⟩ := List.forall_mem_cons.mp all
    obtain ⟨q, passes⟩ := ih others (p.after x)
    exact ⟨q, by rw [List.cons_append, skipWhile, if_pos first, passes]⟩

/-- Any other character is not passed. -/
theorem skipWhile_of_head (stops : ∀ x ∈ more.head?, kind x = false) (p : Position) :
    skipWhile kind more p = ⟨more, p⟩ := by
  cases more with
  | nil => rfl
  | cons x rest => simp [skipWhile, stops x rfl]

theorem head_skipWhile (kind : Char → Bool) (text : List Char) (p : Position) :
    ∀ x ∈ (skipWhile kind text p).rest.head?, kind x = false := by
  induction text generalizing p with
  | nil => nofun
  | cons x rest ih =>
    rw [skipWhile]
    split
    · exact ih _
    · next other =>
      rintro _ ⟨⟩
      exact Bool.not_eq_true _ ▸ other

/-! ## Blanks -/

def IsBlanks (text : List Char) : Prop := ∀ x ∈ text, x = ' ' ∨ x = '\n' ∨ x = '\t' ∨ x = '\r'

instance (text : List Char) : Decidable (IsBlanks text) :=
  List.decidableBAll (fun x => x = ' ' ∨ x = '\n' ∨ x = '\t' ∨ x = '\r') text

theorem isBlanks_nil : IsBlanks [] := by simp [IsBlanks]

theorem isBlank_iff {x : Char} : isBlank x = true ↔ x = ' ' ∨ x = '\n' ∨ x = '\t' ∨ x = '\r' := by
  simp [isBlank, or_assoc]

@[simp] theorem skipBlanks_skipBlanks (c : Cursor) : c.skipBlanks.skipBlanks = c.skipBlanks :=
  skipWhile_of_head (head_skipWhile isBlank c.rest c.position) _

/-- A sign is no blank to be passed. -/
theorem skipBlanks_cons {x : Char} (sign : isBlank x = false) (rest : List Char) (p : Position) :
    Cursor.skipBlanks ⟨x :: rest, p⟩ = ⟨x :: rest, p⟩ :=
  skipWhile_of_head (by rintro _ ⟨⟩; exact sign) p

/-- A cursor stands before some text, but for blanks. -/
def Cursor.StandsBefore (c : Cursor) (more : List Char) : Prop :=
  ∃ q, c.skipBlanks = Cursor.skipBlanks ⟨more, q⟩

theorem standsBefore_self (more : List Char) (p : Position) : (⟨more, p⟩ : Cursor).StandsBefore more :=
  ⟨p, rfl⟩

theorem standsBefore_append (blanks : IsBlanks text) (more : List Char) (p : Position) :
    (⟨text ++ more, p⟩ : Cursor).StandsBefore more :=
  exists_skipWhile_append (fun x member => isBlank_iff.mpr (blanks x member)) more p

/-- Blanks that a cursor stands before do not count. -/
theorem Cursor.StandsBefore.of_append (stands : c.StandsBefore (text ++ more)) (blanks : IsBlanks text) :
    c.StandsBefore more := by
  obtain ⟨q, same⟩ := stands
  obtain ⟨last, passes⟩ := standsBefore_append blanks more q
  exact ⟨last, same.trans passes⟩

/-- Where a cursor stands before a sign, it comes to it when the blanks are passed. -/
theorem Cursor.StandsBefore.skipBlanks_eq {x : Char} (stands : c.StandsBefore (x :: more))
    (sign : isBlank x = false) : ∃ q, c.skipBlanks = ⟨x :: more, q⟩ := by
  obtain ⟨q, same⟩ := stands
  exact ⟨q, same.trans (skipBlanks_cons sign more q)⟩

theorem Cursor.StandsBefore.skipBlanks_eq_nil (stands : c.StandsBefore []) :
    ∃ q, c.skipBlanks = ⟨[], q⟩ := by
  obtain ⟨q, same⟩ := stands
  exact ⟨q, same⟩

/-! ## Readers -/

/-- What may stand behind a value. -/
def Ends (more : List Char) : Prop :=
  ∀ x ∈ more.head?, isBlank x = true ∨ x = ',' ∨ x = ']' ∨ x = '\x7d'

theorem ends_nil : Ends [] := nofun

/-- The signs that end a value, one by one. -/
theorem Ends.head_eq {x : Char} (ends : Ends (x :: more)) :
    (x = ' ' ∨ x = '\n' ∨ x = '\t' ∨ x = '\r') ∨ x = ',' ∨ x = ']' ∨ x = '\x7d' :=
  (ends x rfl).imp_left isBlank_iff.mp

theorem ends_cons {x : Char} (sign : x = ',' ∨ x = ']' ∨ x = '\x7d') (more : List Char) :
    Ends (x :: more) := by
  rintro _ ⟨⟩
  exact .inr sign

theorem Ends.append (blanks : IsBlanks text) (ends : Ends more) : Ends (text ++ more) := by
  cases text with
  | nil => exact ends
  | cons x rest =>
    rintro _ ⟨⟩
    exact .inl (isBlank_iff.mpr (blanks x List.mem_cons_self))

/-- A reader makes a value of some text. -/
def Takes (read : Reader α) (text : List Char) (a : α) : Prop :=
  ∀ more p, Ends more → ∃ c, read ⟨text ++ more, p⟩ = .ok (a, c) ∧ c.StandsBefore more

/-- Some text is passed over. -/
def Passes (skip : Cursor → Except ReadError Cursor) (text : List Char) : Prop :=
  ∀ more p, Ends more → ∃ c, skip ⟨text ++ more, p⟩ = .ok c ∧ c.StandsBefore more

/-- The rest of a word is read as it is written. -/
theorem exists_readWord (word more : List Char) (p : Position) :
    ∃ q, readWord word ⟨word ++ more, p⟩ = .ok ⟨more, q⟩ := by
  induction word generalizing p with
  | nil => exact ⟨p, rfl⟩
  | cons x rest ih =>
    obtain ⟨q, reads⟩ := ih (p.after x)
    exact ⟨q, by simpa [readWord, Cursor.next] using reads⟩

end Hashgate.Json
