import Hashgate.Json.Record
import Hashgate.Proofs.Json.Reader

/-! # Strings of JSON, however they are written

A character of a string stands as it is, or behind a backslash: as a letter, as the number of its one
unit of sixteen bits, or as the numbers of the two units of its pair.  The digits of a number may be
written large or small.  What is read is the string that was written, whichever way each of its
characters was.

* `SpellsChar`, `SpellsText` — the grammar of strings, with the string that a text stands for.
* `SpellsLabel` — a string with blanks around it.
* `exists_spellsLabel` — there is a way to write each string.
* `exists_readString`, `takes_readText`, `takes_readTextOrNull` — what is read.
* `exists_skipString` — what is skipped.
-/

namespace Hashgate.Json

variable {text label first digits more : List Char} {c x : Char} {n : Nat} {s : String} {cs : List Char}

/-! ## The grammar -/

def smallDigits : List Char := "0123456789abcdef".toList

def largeDigits : List Char := "0123456789ABCDEF".toList

/-- A digit in base sixteen. -/
def SpellsDigit (x : Char) (n : Nat) : Prop := smallDigits[n]? = some x ∨ largeDigits[n]? = some x

/-- Four digits in base sixteen, which stand for a unit of sixteen bits. -/
inductive SpellsUnit : List Char → Nat → Prop
  | mk {x y z w : Char} {i j k l : Nat} : SpellsDigit x i → SpellsDigit y j → SpellsDigit z k →
      SpellsDigit w l → SpellsUnit [x, y, z, w] (i * 4096 + j * 256 + k * 16 + l)

/-- The letters behind a backslash, with what they stand for. -/
def letters : List (Char × Char) :=
  [('"', '"'), ('\\', '\\'), ('/', '/'), ('b', '\x08'), ('f', '\x0c'), ('n', '\n'), ('r', '\r'),
    ('t', '\t')]

/-- The ways to write a character. -/
inductive SpellsChar : List Char → Char → Prop
  | plain {c : Char} : 0x20 ≤ c.toNat → c ≠ '"' → c ≠ '\\' → SpellsChar [c] c
  | letter {x c : Char} : (x, c) ∈ letters → SpellsChar ['\\', x] c
  | unit {digits : List Char} {c : Char} : SpellsUnit digits c.toNat →
      SpellsChar ('\\' :: 'u' :: digits) c
  /-- The high and the low unit of a character that has two. -/
  | pair {high low : List Char} {c : Char} : 0x10000 ≤ c.toNat →
      SpellsUnit high (0xD800 + (c.toNat - 0x10000) / 0x400) →
      SpellsUnit low (0xDC00 + (c.toNat - 0x10000) % 0x400) →
      SpellsChar ('\\' :: 'u' :: (high ++ '\\' :: 'u' :: low)) c

inductive SpellsChars : List Char → List Char → Prop
  | nil : SpellsChars [] []
  | cons {first rest : List Char} {c : Char} {cs : List Char} : SpellsChar first c →
      SpellsChars rest cs → SpellsChars (first ++ rest) (c :: cs)

/-- A string between its quotes. -/
inductive SpellsText : List Char → String → Prop
  | mk {inner : List Char} {s : String} : SpellsChars inner s.toList →
      SpellsText ('"' :: (inner ++ ['"'])) s

/-- A string with blanks around it, such as the name of a member. -/
inductive SpellsLabel : List Char → String → Prop
  | mk {before text after : List Char} {s : String} : IsBlanks before → SpellsText text s →
      IsBlanks after → SpellsLabel (before ++ text ++ after) s

/-- Behind the first blanks of a label stands its string, and behind that the other blanks. -/
theorem SpellsLabel.exists_inner (spells : SpellsLabel label s) :
    ∃ inner after, SpellsChars inner s.toList ∧ IsBlanks after ∧ ∀ more p, ∃ q,
      Cursor.skipBlanks ⟨label ++ more, p⟩ = ⟨'"' :: (inner ++ '"' :: (after ++ more)), q⟩ := by
  obtain @⟨before, _, after, _, blanks, @⟨inner, _, spells⟩, blanksAfter⟩ := spells
  refine ⟨inner, after, spells, blanksAfter, fun more p => ?_⟩
  simpa using (standsBefore_append blanks ('"' :: (inner ++ '"' :: (after ++ more))) p).skipBlanks_eq rfl

/-! ## Every string can be written -/

/-- Characters that may stand in a string as they are. -/
def IsPlain (cs : List Char) : Prop := ∀ c ∈ cs, 0x20 ≤ c.toNat ∧ c ≠ '"' ∧ c ≠ '\\'

instance (cs : List Char) : Decidable (IsPlain cs) :=
  List.decidableBAll (fun (c : Char) => 0x20 ≤ c.toNat ∧ c ≠ '"' ∧ c ≠ '\\') cs

theorem spellsChars_self (plain : IsPlain cs) : SpellsChars cs cs := by
  induction cs with
  | nil => exact .nil
  | cons c rest ih =>
    obtain ⟨⟨printable, noQuote, noBackslash⟩, others⟩ := List.forall_mem_cons.mp plain
    exact .cons (.plain printable noQuote noBackslash) (ih others)

theorem spellsLabel_self (s : String) (plain : IsPlain s.toList) :
    SpellsLabel ('"' :: (s.toList ++ ['"'])) s := by
  simpa using SpellsLabel.mk isBlanks_nil (.mk (spellsChars_self plain)) isBlanks_nil

theorem exists_spellsDigit (small : n < 16) : ∃ x, SpellsDigit x n :=
  ⟨_, .inl (List.getElem?_eq_getElem small)⟩

theorem exists_spellsUnit (small : n < 0x10000) : ∃ digits, SpellsUnit digits n := by
  obtain ⟨x, first⟩ := exists_spellsDigit (show n / 4096 < 16 by omega)
  obtain ⟨y, second⟩ := exists_spellsDigit (show n / 256 % 16 < 16 by omega)
  obtain ⟨z, third⟩ := exists_spellsDigit (show n / 16 % 16 < 16 by omega)
  obtain ⟨w, fourth⟩ := exists_spellsDigit (show n % 16 < 16 by omega)
  have value : n / 4096 * 4096 + n / 256 % 16 * 256 + n / 16 % 16 * 16 + n % 16 = n := by omega
  have spells := SpellsUnit.mk first second third fourth
  rw [value] at spells
  exact ⟨_, spells⟩

theorem exists_spellsChar (c : Char) : ∃ text, SpellsChar text c := by
  by_cases plain : 0x20 ≤ c.toNat ∧ c ≠ '"' ∧ c ≠ '\\'
  · exact ⟨[c], .plain plain.1 plain.2.1 plain.2.2⟩
  · have kinds : c.toNat < 0x20 ∨ c = '"' ∨ c = '\\' := by
      simpa only [Decidable.not_and_iff_or_not, Nat.not_le, ne_eq, Decidable.not_not] using plain
    have small : c.toNat < 0x10000 := by
      obtain control | rfl | rfl := kinds
      · omega
      · decide
      · decide
    obtain ⟨digits, spells⟩ := exists_spellsUnit small
    exact ⟨_, .unit spells⟩

theorem exists_spellsLabel (s : String) : ∃ text, SpellsLabel text s := by
  have chars : ∀ cs, ∃ text, SpellsChars text cs := by
    intro cs
    induction cs with
    | nil => exact ⟨[], .nil⟩
    | cons c rest ih =>
      obtain ⟨first, spells⟩ := exists_spellsChar c
      obtain ⟨others, spellsRest⟩ := ih
      exact ⟨_, .cons spells spellsRest⟩
  obtain ⟨text, spells⟩ := chars s.toList
  exact ⟨_, .mk isBlanks_nil (.mk spells) isBlanks_nil⟩

/-! ## Numbers of units -/

theorem hexValue?_of_spellsDigit (spells : SpellsDigit x n) : hexValue? x = some n ∧ n < 16 := by
  have table : (List.range 16).all fun i =>
      (smallDigits[i]?.toList ++ largeDigits[i]?.toList).all fun x => hexValue? x == some i := by decide
  have small : n < 16 := by
    obtain found | found := spells
    · exact (List.getElem?_eq_some_iff.mp found).1
    · exact (List.getElem?_eq_some_iff.mp found).1
  have row := List.all_eq_true.mp table n (List.mem_range.mpr small)
  refine ⟨eq_of_beq (List.all_eq_true.mp row x ?_), small⟩
  obtain found | found := spells <;> simp [found]

theorem exists_readHex4 (spells : SpellsUnit digits n) (more : List Char) (p : Position) :
    ∃ q, readHex4 ⟨digits ++ more, p⟩ = .ok (n, ⟨more, q⟩) := by
  obtain @⟨x, y, z, w, i, j, k, l, first, second, third, fourth⟩ := spells
  have value : hexValue4? x y z w = some (i * 4096 + j * 256 + k * 16 + l) := by
    simp only [hexValue4?, (hexValue?_of_spellsDigit first).1, (hexValue?_of_spellsDigit second).1,
      (hexValue?_of_spellsDigit third).1, (hexValue?_of_spellsDigit fourth).1]
    exact congrArg some (by omega)
  exact ⟨p.skip 4 [x, y, z, w], by simp [readHex4, value]⟩

/-- No character is half of a pair. -/
theorem not_surrogate (c : Char) : ¬ (0xD800 ≤ c.toNat ∧ c.toNat ≤ 0xDFFF) := by
  have valid : c.toNat < 0xD800 ∨ 0xDFFF < c.toNat ∧ c.toNat < 0x110000 := c.valid
  omega

theorem exists_readNumbered_unit (spells : SpellsUnit digits c.toNat) (more : List Char)
    (p : Position) : ∃ q, readNumbered ⟨digits ++ more, p⟩ = .ok (c, ⟨more, q⟩) := by
  obtain ⟨q, reads⟩ := exists_readHex4 spells more p
  have whole := not_surrogate c
  refine ⟨q, ?_⟩
  rw [readNumbered, reads]
  simp only
  rw [if_neg (by omega), if_neg (by omega), Char.ofNat_toNat]

theorem exists_readNumbered_pair {high low : List Char} (large : 0x10000 ≤ c.toNat)
    (spellsHigh : SpellsUnit high (0xD800 + (c.toNat - 0x10000) / 0x400))
    (spellsLow : SpellsUnit low (0xDC00 + (c.toNat - 0x10000) % 0x400)) (more : List Char)
    (p : Position) :
    ∃ q, readNumbered ⟨high ++ '\\' :: 'u' :: (low ++ more), p⟩ = .ok (c, ⟨more, q⟩) := by
  have valid : c.toNat < 0xD800 ∨ 0xDFFF < c.toNat ∧ c.toNat < 0x110000 := c.valid
  obtain ⟨middle, readsHigh⟩ := exists_readHex4 spellsHigh ('\\' :: 'u' :: (low ++ more)) p
  obtain ⟨q, readsLow⟩ := exists_readHex4 spellsLow more ((middle.after '\\').after 'u')
  have trail : readTrail ⟨'\\' :: 'u' :: (low ++ more), middle⟩ =
      .ok (0xDC00 + (c.toNat - 0x10000) % 0x400, ⟨more, q⟩) := by
    simp only [readTrail, Cursor.next, readsLow]
    rw [if_pos (by omega)]
  refine ⟨q, ?_⟩
  rw [readNumbered, readsHigh]
  simp only
  rw [if_neg (by omega), if_pos (by omega), trail]
  simp only
  -- The two halves make the number of the character again.
  rw [show (0xD800 + (c.toNat - 0x10000) / 0x400 - 0xD800) * 0x400 +
    (0xDC00 + (c.toNat - 0x10000) % 0x400 - 0xDC00) + 0x10000 = c.toNat by omega, Char.ofNat_toNat]

/-! ## Reading -/

/-- A character is read in whichever way it is written. -/
theorem exists_readChars_step (spells : SpellsChar first c) (fuel : Nat) (more : List Char)
    (p : Position) : ∃ q, readChars (fuel + 1) ⟨first ++ more, p⟩ =
      (readChars fuel ⟨more, q⟩).map fun (cs, left) => (c :: cs, left) := by
  cases spells with
  | plain printable noQuote noBackslash =>
    have noControl : isControl c = false := by simpa [isControl] using printable
    exact ⟨p.after c, by simp [readChars, noControl, Cursor.next]⟩
  | @letter x _ member =>
    have escapes : ∀ pair ∈ letters, pair.1 ≠ 'u' ∧ letterEscape? pair.1 = some pair.2 := by decide
    obtain ⟨notNumbered, escape⟩ := escapes _ member
    exact ⟨(p.after '\\').after x, by simp [readChars, readEscape, Cursor.next, escape]⟩
  | unit unit =>
    obtain ⟨q, reads⟩ := exists_readNumbered_unit unit more ((p.after '\\').after 'u')
    exact ⟨q, by simp [readChars, readEscape, Cursor.next, reads]⟩
  | pair large high low =>
    obtain ⟨q, reads⟩ := exists_readNumbered_pair large high low more ((p.after '\\').after 'u')
    exact ⟨q, by simp [readChars, readEscape, Cursor.next, reads]⟩

theorem SpellsChar.length_pos (spells : SpellsChar first c) : 0 < first.length := by
  cases spells <;> simp

/-- Every character takes one turn at most, so there is a turn for each. -/
theorem exists_readChars (spells : SpellsChars text cs) {fuel : Nat} (enough : text.length < fuel)
    (more : List Char) (p : Position) :
    ∃ q, readChars fuel ⟨text ++ '"' :: more, p⟩ = .ok (cs, ⟨more, q⟩) := by
  induction spells generalizing fuel p with
  | nil =>
    obtain ⟨fuel, rfl⟩ := Nat.exists_eq_add_of_lt enough
    exact ⟨p.after '"', by simp [readChars, Cursor.next]⟩
  | @cons first rest c cs spells _ ih =>
    have positive := spells.length_pos
    rw [List.length_append] at enough
    obtain ⟨turns, rfl⟩ : ∃ turns, fuel = turns + 1 := ⟨fuel - 1, by omega⟩
    obtain ⟨middle, step⟩ := exists_readChars_step spells turns (rest ++ '"' :: more) p
    have left : rest.length < turns := by omega
    obtain ⟨q, reads⟩ := ih left middle
    exact ⟨q, by rw [List.append_assoc, step, reads]; rfl⟩

theorem length_lt_length_append (text more : List Char) : text.length < (text ++ more).length + 1 := by
  rw [List.length_append]
  omega

theorem exists_readString (spells : SpellsChars text s.toList) (more : List Char) (p : Position) :
    ∃ q, readString ⟨text ++ '"' :: more, p⟩ = .ok (s, ⟨more, q⟩) := by
  obtain ⟨q, reads⟩ := exists_readChars spells (length_lt_length_append text ('"' :: more)) more p
  refine ⟨q, ?_⟩
  rw [readString, reads]
  simp [Except.map]

/-- A string is read between blanks. -/
theorem takes_readText (spells : SpellsLabel label s) : Takes readText label s := by
  intro more p _
  obtain ⟨inner, after, spells, blanks, stands⟩ := spells.exists_inner
  obtain ⟨quote, skips⟩ := stands more p
  obtain ⟨q, reads⟩ := exists_readString spells (after ++ more) (quote.after '"')
  exact ⟨⟨after ++ more, q⟩, by simp [readText, skips, Cursor.next, reads],
    standsBefore_append blanks more q⟩

theorem takes_readTextOrNull (spells : SpellsLabel label s) : Takes readTextOrNull label (some s) := by
  intro more p ends
  obtain ⟨c, reads, stands⟩ := takes_readText spells more p ends
  obtain ⟨inner, after, -, -, standsQuote⟩ := spells.exists_inner
  obtain ⟨quote, skips⟩ := standsQuote more p
  refine ⟨c, ?_, stands⟩
  have again : readText (Cursor.skipBlanks ⟨label ++ more, p⟩) = .ok (s, c) := by
    rw [← reads, readText, readText, skipBlanks_skipBlanks]
  rw [readTextOrNull, again, skips]
  rfl

theorem takes_readTextOrNull_null {before after : List Char} (blanks : IsBlanks before)
    (blanksAfter : IsBlanks after) :
    Takes readTextOrNull (before ++ ['n', 'u', 'l', 'l'] ++ after) none := by
  intro more p _
  obtain ⟨first, skips⟩ :=
    (standsBefore_append blanks ('n' :: 'u' :: 'l' :: 'l' :: (after ++ more)) p).skipBlanks_eq rfl
  obtain ⟨q, reads⟩ := exists_readWord ['u', 'l', 'l'] (after ++ more) (first.after 'n')
  refine ⟨⟨after ++ more, q⟩, ?_, standsBefore_append blanksAfter more q⟩
  simp only [List.append_assoc, List.cons_append, List.nil_append] at reads ⊢
  simp only [readTextOrNull, skips, Cursor.next, reads]
  rfl

/-! ## Skipping -/

theorem exists_skipChars_unit (spells : SpellsUnit digits n) (fuel : Nat) (more : List Char)
    (p : Position) : ∃ q, skipChars (fuel + 1) ⟨'\\' :: 'u' :: (digits ++ more), p⟩ =
      skipChars fuel ⟨more, q⟩ := by
  obtain ⟨q, reads⟩ := exists_readHex4 spells more ((p.after '\\').after 'u')
  exact ⟨q, by simp [skipChars, skipEscape, Cursor.next, reads, Except.map]⟩

/-- A character takes as many turns as there are units to it. -/
theorem exists_skipChars_step (spells : SpellsChar first c) : ∃ turns, turns ≤ first.length ∧
    ∀ fuel more p, ∃ q, skipChars (fuel + turns) ⟨first ++ more, p⟩ = skipChars fuel ⟨more, q⟩ := by
  have positive := spells.length_pos
  cases spells with
  | plain printable noQuote noBackslash =>
    have noControl : isControl c = false := by simpa [isControl] using printable
    exact ⟨1, positive, fun fuel more p => ⟨p.after c, by simp [skipChars, noControl, Cursor.next]⟩⟩
  | @letter x _ member =>
    have escapes : ∀ pair ∈ letters, pair.1 ≠ 'u' ∧ letterEscape? pair.1 = some pair.2 := by decide
    obtain ⟨notNumbered, escape⟩ := escapes _ member
    exact ⟨1, positive, fun fuel more p => ⟨(p.after '\\').after x, by
      simp [skipChars, skipEscape, Cursor.next, escape]⟩⟩
  | unit unit => exact ⟨1, positive, fun fuel more p => exists_skipChars_unit unit fuel more p⟩
  | pair large high low =>
    refine ⟨2, by simp, fun fuel more p => ?_⟩
    obtain ⟨middle, first⟩ := exists_skipChars_unit high (fuel + 1) ('\\' :: 'u' :: (_ ++ more)) p
    obtain ⟨q, second⟩ := exists_skipChars_unit low fuel more middle
    refine ⟨q, ?_⟩
    rw [← second, ← first]
    simp

theorem exists_skipChars (spells : SpellsChars text cs) {fuel : Nat} (enough : text.length < fuel)
    (more : List Char) (p : Position) :
    ∃ q, skipChars fuel ⟨text ++ '"' :: more, p⟩ = .ok ⟨more, q⟩ := by
  induction spells generalizing fuel p with
  | nil =>
    obtain ⟨fuel, rfl⟩ := Nat.exists_eq_add_of_lt enough
    exact ⟨p.after '"', by simp [skipChars, Cursor.next]⟩
  | @cons first rest c cs spells _ ih =>
    obtain ⟨turns, few, steps⟩ := exists_skipChars_step spells
    rw [List.length_append] at enough
    obtain ⟨spare, rfl⟩ : ∃ spare, fuel = spare + turns := ⟨fuel - turns, by omega⟩
    obtain ⟨middle, step⟩ := steps spare (rest ++ '"' :: more) p
    have left : rest.length < spare := by omega
    obtain ⟨q, skips⟩ := ih left middle
    exact ⟨q, by rw [List.append_assoc, step, skips]⟩

theorem exists_skipString (spells : SpellsChars text cs) (more : List Char) (p : Position) :
    ∃ q, skipString ⟨text ++ '"' :: more, p⟩ = .ok ⟨more, q⟩ :=
  exists_skipChars spells (length_lt_length_append text ('"' :: more)) more p

end Hashgate.Json
