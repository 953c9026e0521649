import Hashgate.Json.Value
import Hashgate.Proofs.Json.Number
import Hashgate.Proofs.Json.Text
import Hashgate.Proofs.Text.Fields

/-! # Values of JSON that nobody wants to know

A value is skipped by a walk that keeps the brackets it stands in.  Passing a value takes the walk from one
side of it to the other in the same brackets, however deep the value is nested, in fewer turns than there are
two for each character of it.  So the turns that the length of a text grants are enough.

* `IsJson` — the grammar of values, with the blanks around them.
* `IsJson.skipped` — a value is passed in whatever brackets it stands.
* `passes_skipValue` — a value is passed.
-/

namespace Hashgate.Json

open Fields (join join_cons_eq_append_flatMap)

variable {text label item more : List Char} {items : List (List Char)} {name : String} {frame : Frame}
  {frames : List Frame} {c : Cursor}

/-! ## The grammar -/

/-- A value of any depth, with the blanks around it. -/
inductive IsJson : List Char → Prop
  | null : IsJson ['n', 'u', 'l', 'l']
  | true : IsJson ['t', 'r', 'u', 'e']
  | false : IsJson ['f', 'a', 'l', 's', 'e']
  | number {text : List Char} : IsNumber text → IsJson text
  | string {text : List Char} {s : String} : SpellsText text s → IsJson text
  | emptyArray {blanks : List Char} : IsBlanks blanks → IsJson ('[' :: (blanks ++ [']']))
  | array {elements : List (List Char)} : elements ≠ [] → (∀ element ∈ elements, IsJson element) →
      IsJson ('[' :: (join ',' elements ++ [']']))
  | emptyObject {blanks : List Char} : IsBlanks blanks → IsJson ('\x7b' :: (blanks ++ ['\x7d']))
  | object {members : List (List Char × List Char)} : members ≠ [] →
      (∀ member ∈ members, ∃ name, SpellsLabel member.1 name) → (∀ member ∈ members, IsJson member.2) →
      IsJson ('\x7b' :: (join ',' (members.map fun member => member.1 ++ ':' :: member.2) ++ ['\x7d']))
  | padded {before text after : List Char} : IsBlanks before → IsJson text → IsBlanks after →
      IsJson (before ++ text ++ after)

/-! ## How a value starts -/

/-- After the blanks there is a sign that closes nothing. -/
def Starts (text : List Char) : Prop :=
  ∃ before x rest, IsBlanks before ∧ isBlank x = false ∧ x ≠ ']' ∧ x ≠ '\x7d' ∧ text = before ++ x :: rest

theorem starts_cons {x : Char} (sign : isBlank x = false ∧ x ≠ ']' ∧ x ≠ '\x7d') (rest : List Char) :
    Starts (x :: rest) :=
  ⟨[], x, rest, isBlanks_nil, sign.1, sign.2.1, sign.2.2, rfl⟩

theorem Starts.append (starts : Starts text) (more : List Char) : Starts (text ++ more) := by
  obtain ⟨before, x, rest, blanks, sign, noBracket, noBrace, rfl⟩ := starts
  exact ⟨before, x, rest ++ more, blanks, sign, noBracket, noBrace, by simp⟩

theorem Starts.padded {before : List Char} (blanks : IsBlanks before) (starts : Starts text) :
    Starts (before ++ text) := by
  obtain ⟨inner, x, rest, blanksInner, sign, noBracket, noBrace, rfl⟩ := starts
  exact ⟨before ++ inner, x, rest, List.forall_mem_append.mpr ⟨blanks, blanksInner⟩, sign, noBracket,
    noBrace, by simp⟩

/-- The sign that a text starts with is what stands behind the blanks. -/
theorem Starts.exists_skipBlanks (starts : Starts text) (p : Position) :
    ∃ x rest q, Cursor.skipBlanks ⟨text, p⟩ = ⟨x :: rest, q⟩ ∧ x ≠ ']' ∧ x ≠ '\x7d' := by
  obtain ⟨before, x, rest, blanks, sign, noBracket, noBrace, rfl⟩ := starts
  obtain ⟨q, skips⟩ := (standsBefore_append blanks (x :: rest) p).skipBlanks_eq sign
  exact ⟨x, rest, q, skips, noBracket, noBrace⟩

theorem SpellsLabel.starts (spells : SpellsLabel label name) : Starts label := by
  obtain ⟨blanks, ⟨_⟩, _⟩ := spells
  exact (Starts.padded blanks (starts_cons ⟨rfl, by decide, by decide⟩ _)).append _

theorem isBlank_of_isDigit {d : Char} (digit : d.isDigit = true) : isBlank d = false := by
  rw [← Bool.not_eq_true, isBlank_iff]
  rintro (rfl | rfl | rfl | rfl) <;> cases digit

theorem IsUnsigned.exists_digit (isUnsigned : IsUnsigned text) :
    ∃ d rest, text = d :: rest ∧ d.isDigit = true := by
  obtain ⟨isWhole, _, _⟩ := isUnsigned
  cases isWhole with
  | zero => exact ⟨'0', _, rfl, rfl⟩
  | digits digit => exact ⟨_, _, rfl, digit⟩

theorem IsJson.starts (isJson : IsJson text) : Starts text := by
  induction isJson with
  | number isNumber =>
    cases isNumber with
    | plain isUnsigned =>
      obtain ⟨d, rest, rfl, digit⟩ := isUnsigned.exists_digit
      exact starts_cons ⟨isBlank_of_isDigit digit, ne_of_isDigit digit rfl, ne_of_isDigit digit rfl⟩ rest
    | minus => exact starts_cons ⟨rfl, by decide, by decide⟩ _
  | string spells =>
    cases spells
    exact starts_cons ⟨rfl, by decide, by decide⟩ _
  | padded blanks _ _ ih => exact (ih.padded blanks).append _
  | _ => exact starts_cons ⟨rfl, by decide, by decide⟩ _

/-! ## Signs of the walk -/

/-- Blanks before a value do not matter. -/
theorem skipIn_skipBlanks (fuel : Nat) (frames : List Frame) (c : Cursor) :
    skipIn (fuel + 1) frames c.skipBlanks = skipIn (fuel + 1) frames c := by
  rw [skipIn, skipIn, skipBlanks_skipBlanks]

theorem exists_readColon (stands : c.StandsBefore (':' :: more)) :
    ∃ q, readColon c = .ok ⟨more, q⟩ := by
  obtain ⟨q, atColon⟩ := stands.skipBlanks_eq rfl
  exact ⟨q.after ':', by simp [readColon, atColon, Cursor.next]⟩

theorem exists_skipName (spells : SpellsLabel label name) (more : List Char) (p : Position) :
    ∃ q, skipName ⟨label ++ ':' :: more, p⟩ = .ok ⟨more, q⟩ := by
  obtain ⟨inner, after, spells, blanks, stands⟩ := spells.exists_inner
  obtain ⟨quote, atQuote⟩ := stands (':' :: more) p
  obtain ⟨behind, skips⟩ := exists_skipString spells (after ++ ':' :: more) (quote.after '"')
  obtain ⟨q, colon⟩ := exists_readColon (standsBefore_append blanks (':' :: more) behind)
  refine ⟨q, ?_⟩
  simp only [skipName, atQuote, Cursor.next, skips]
  exact colon

/-! ## Brackets -/

def Frame.opening : Frame → Char
  | .list => '['
  | .object => '\x7b'

def Frame.closing : Frame → Char
  | .list => ']'
  | .object => '\x7d'

theorem Frame.isBlank_opening (frame : Frame) : isBlank frame.opening = false := by cases frame <;> rfl

theorem Frame.isBlank_closing (frame : Frame) : isBlank frame.closing = false := by cases frame <;> rfl

/-- What stands before the value of an item. -/
def Frame.enter : Frame → Cursor → Except ReadError Cursor
  | .list => .ok
  | .object => skipName

theorem skipIn_opening (frame : Frame) (starts : Starts text) (fuel : Nat) (outer : List Frame)
    (p : Position) : skipIn (fuel + 2) outer ⟨frame.opening :: text, p⟩ =
      frame.enter ⟨text, p.after frame.opening⟩ >>= skipIn (fuel + 1) (frame :: outer) := by
  obtain ⟨x, rest, q, behind, noBracket, noBrace⟩ := starts.exists_skipBlanks (p.after frame.opening)
  have sign : Cursor.skipBlanks ⟨frame.opening :: text, p⟩ = ⟨frame.opening :: text, p⟩ :=
    skipBlanks_cons frame.isBlank_opening _ p
  rw [skipIn, sign]
  -- The blanks behind the bracket go with it, and whatever enters next would pass them too.
  cases frame with
  | list =>
    simp only [Frame.opening, Cursor.next] at behind ⊢
    simp only [behind, List.cons.injEq, noBracket, false_and, imp_self, implies_true]
    rw [← behind, skipIn_skipBlanks]
    rfl
  | object =>
    simp only [Frame.opening, Cursor.next] at behind ⊢
    simp only [behind, List.cons.injEq, noBrace, false_and, imp_self, implies_true]
    simp only [← behind, Frame.enter, skipName, skipBlanks_skipBlanks]

theorem exists_skipOut_closing (stands : c.StandsBefore (frame.closing :: more)) (fuel : Nat)
    (outer : List Frame) :
    ∃ q, skipOut (fuel + 1) (frame :: outer) c = skipOut fuel outer ⟨more, q⟩ := by
  obtain ⟨q, sign⟩ := stands.skipBlanks_eq frame.isBlank_closing
  refine ⟨q.after frame.closing, ?_⟩
  rw [skipOut.eq_def]
  cases frame <;> simp only [sign] <;> rfl

theorem exists_skipOut_comma (stands : c.StandsBefore (',' :: more)) (fuel : Nat) (outer : List Frame) :
    ∃ q, skipOut (fuel + 1) (frame :: outer) c =
      frame.enter ⟨more, q⟩ >>= skipIn fuel (frame :: outer) := by
  obtain ⟨q, sign⟩ := stands.skipBlanks_eq rfl
  refine ⟨q.after ',', ?_⟩
  rw [skipOut.eq_def]
  cases frame <;> simp only [sign] <;> rfl

/-! ## Values -/

/-- A value is passed in the brackets in which it stands, whatever turns are left for what comes behind. -/
def Skipped (text : List Char) : Prop :=
  ∃ turns, turns + 1 < 2 * text.length ∧ ∀ fuel frames more p, Ends more →
    ∃ c, skipIn (fuel + turns + 1) frames ⟨text ++ more, p⟩ = skipOut fuel frames c ∧ c.StandsBefore more

/-- So is an item of an array or an object. -/
def SkippedIn (frame : Frame) (item : List Char) : Prop :=
  ∃ turns, turns + 1 < 2 * item.length ∧ ∀ fuel outer more p, Ends more →
    ∃ c, frame.enter ⟨item ++ more, p⟩ >>= skipIn (fuel + turns + 1) (frame :: outer) =
        skipOut fuel (frame :: outer) c ∧ c.StandsBefore more

theorem ends_items (frame : Frame) (items : List (List Char)) (more : List Char) :
    Ends (items.flatMap (',' :: ·) ++ frame.closing :: more) := by
  cases items with
  | nil => cases frame <;> exact ends_cons (by decide) _
  | cons item rest => exact ends_cons (by decide) _

/-- The items that are left are passed, and the closing bracket.  The frames below stay as they are. -/
theorem exists_skipOut_items (all : ∀ item ∈ items, SkippedIn frame item) :
    ∃ turns, turns ≤ 2 * (items.flatMap (',' :: ·)).length ∧ ∀ fuel outer more c,
      c.StandsBefore (items.flatMap (',' :: ·) ++ frame.closing :: more) →
      ∃ q, skipOut (fuel + turns + 1) (frame :: outer) c = skipOut fuel outer ⟨more, q⟩ := by
  induction items with
  | nil => exact ⟨0, Nat.le_refl _, fun fuel outer more c stands => exists_skipOut_closing stands fuel outer⟩
  | cons item rest ih =>
    obtain ⟨⟨turns, few, passes⟩, others⟩ := List.forall_mem_cons.mp all
    obtain ⟨turnsRest, fewRest, passesRest⟩ := ih others
    -- One turn for the comma, and one for what stands behind the item.
    refine ⟨turns + 1 + turnsRest + 1, ?_, fun fuel outer more c stands => ?_⟩
    · simp only [List.flatMap_cons, List.length_append, List.length_cons]
      omega
    · rw [List.flatMap_cons, List.cons_append, List.cons_append, List.append_assoc] at stands
      obtain ⟨q, comma⟩ := exists_skipOut_comma stands (fuel + turnsRest + 1 + turns + 1) outer
      obtain ⟨middle, passed, standsRest⟩ := passes (fuel + turnsRest + 1) outer
        (rest.flatMap (',' :: ·) ++ frame.closing :: more) q (ends_items frame rest more)
      obtain ⟨last, passedRest⟩ := passesRest fuel outer more middle standsRest
      refine ⟨last, ?_⟩
      rw [← passedRest, ← passed, ← comma]
      congr 1
      omega

theorem skipped_brackets (frame : Frame) (nonempty : items ≠ []) (starts : ∀ item ∈ items, Starts item)
    (all : ∀ item ∈ items, SkippedIn frame item) :
    Skipped (frame.opening :: (join ',' items ++ [frame.closing])) := by
  obtain ⟨item, rest, rfl⟩ := List.exists_cons_of_ne_nil nonempty
  obtain ⟨⟨turns, few, passes⟩, others⟩ := List.forall_mem_cons.mp all
  obtain ⟨turnsRest, fewRest, passesRest⟩ := exists_skipOut_items others
  rw [join_cons_eq_append_flatMap]
  refine ⟨turns + 1 + turnsRest + 1, ?_, fun fuel frames more p _ => ?_⟩
  · simp only [List.length_append, List.length_cons]
    omega
  · have opens := skipIn_opening frame ((starts item List.mem_cons_self).append
      (rest.flatMap (',' :: ·) ++ frame.closing :: more)) (fuel + turnsRest + 1 + turns) frames p
    obtain ⟨middle, passed, standsRest⟩ := passes (fuel + turnsRest + 1) frames
      (rest.flatMap (',' :: ·) ++ frame.closing :: more) (p.after frame.opening)
      (ends_items frame rest more)
    obtain ⟨last, passedRest⟩ := passesRest fuel frames more middle standsRest
    refine ⟨⟨more, last⟩, ?_, standsBefore_self more last⟩
    rw [← passedRest, ← passed, ← opens]
    simp only [List.cons_append, List.append_assoc, List.nil_append]
    congr 1
    omega

theorem skipped_empty (frame : Frame) {blanks : List Char} (isBlanks : IsBlanks blanks) :
    Skipped (frame.opening :: (blanks ++ [frame.closing])) := by
  refine ⟨0, by simp only [List.length_cons, List.length_append]; omega, fun fuel frames more p _ => ?_⟩
  have sign : Cursor.skipBlanks ⟨frame.opening :: (blanks ++ frame.closing :: more), p⟩ =
      ⟨frame.opening :: (blanks ++ frame.closing :: more), p⟩ :=
    skipBlanks_cons frame.isBlank_opening _ p
  obtain ⟨q, closes⟩ := (standsBefore_append isBlanks (frame.closing :: more)
    (p.after frame.opening)).skipBlanks_eq frame.isBlank_closing
  refine ⟨⟨more, q.after frame.closing⟩, ?_, standsBefore_self _ _⟩
  rw [List.cons_append, List.append_assoc, List.singleton_append, skipIn, sign]
  cases frame with
  | list =>
    simp only [Frame.opening, Frame.closing, Cursor.next] at closes ⊢
    simp only [closes]
  | object =>
    simp only [Frame.opening, Frame.closing, Cursor.next] at closes ⊢
    simp only [closes]

theorem skipped_scalar {x : Char} {rest : List Char}
    (sign : isBlank x = false ∧ x ≠ '[' ∧ x ≠ '\x7b')
    (passes : ∀ more p, Ends more → ∃ q, skipScalar ⟨x :: (rest ++ more), p⟩ = .ok ⟨more, q⟩) :
    Skipped (x :: rest) := by
  refine ⟨0, by rw [List.length_cons]; omega, fun fuel frames more p ends => ?_⟩
  obtain ⟨noBlank, noBracket, noBrace⟩ := sign
  obtain ⟨q, skips⟩ := passes more p ends
  refine ⟨⟨more, q⟩, ?_, standsBefore_self more q⟩
  rw [List.cons_append, skipIn, skipBlanks_cons noBlank]
  simp only [List.cons.injEq, noBracket, noBrace, false_and, imp_self, implies_true, skips]
  rfl

theorem skipScalar_of_isDigit {d : Char} (digit : d.isDigit = true) (rest : List Char) (p : Position) :
    skipScalar ⟨d :: rest, p⟩ = skipNumber ⟨d :: rest, p⟩ := by
  have other : d ≠ 'n' ∧ d ≠ 't' ∧ d ≠ 'f' ∧ d ≠ '-' ∧ d ≠ '"' :=
    ⟨ne_of_isDigit digit rfl, ne_of_isDigit digit rfl, ne_of_isDigit digit rfl, ne_of_isDigit digit rfl,
      ne_of_isDigit digit rfl⟩
  simp [skipScalar, other, digit]

theorem skipped_number (isNumber : IsNumber text) : Skipped text := by
  cases isNumber with
  | plain isUnsigned =>
    obtain ⟨d, rest, rfl, digit⟩ := isUnsigned.exists_digit
    refine skipped_scalar ⟨isBlank_of_isDigit digit, ne_of_isDigit digit rfl, ne_of_isDigit digit rfl⟩
      fun more p ends => ?_
    rw [skipScalar_of_isDigit digit]
    exact exists_skipNumber isUnsigned ends p
  | minus isUnsigned =>
    exact skipped_scalar ⟨rfl, by decide, by decide⟩ fun more p ends =>
      exists_skipNumber isUnsigned ends (p.after '-')

theorem skipped_string {s : String} (spells : SpellsText text s) : Skipped text := by
  obtain ⟨spells⟩ := spells
  refine skipped_scalar ⟨rfl, by decide, by decide⟩ fun more p _ => ?_
  rw [List.append_assoc]
  exact exists_skipString spells more (p.after '"')

theorem Skipped.padded {before after : List Char} (blanks : IsBlanks before) (skipped : Skipped text)
    (blanksAfter : IsBlanks after) : Skipped (before ++ text ++ after) := by
  obtain ⟨turns, few, passes⟩ := skipped
  refine ⟨turns, by simp only [List.length_append]; omega, fun fuel frames more p ends => ?_⟩
  obtain ⟨q, same⟩ := standsBefore_append blanks (text ++ (after ++ more)) p
  obtain ⟨c, passed, stands⟩ := passes fuel frames (after ++ more) q (ends.append blanksAfter)
  refine ⟨c, ?_, stands.of_append blanksAfter⟩
  rw [← passed, ← skipIn_skipBlanks, List.append_assoc, List.append_assoc, same, skipIn_skipBlanks]

theorem Skipped.element (skipped : Skipped text) : SkippedIn .list text := by
  obtain ⟨turns, few, passes⟩ := skipped
  exact ⟨turns, few, fun fuel outer => passes fuel (.list :: outer)⟩

theorem Skipped.member (spells : SpellsLabel label name) (skipped : Skipped text) :
    SkippedIn .object (label ++ ':' :: text) := by
  obtain ⟨turns, few, passes⟩ := skipped
  refine ⟨turns, by simp only [List.length_append, List.length_cons]; omega, fun fuel outer more p ends => ?_⟩
  obtain ⟨q, enters⟩ := exists_skipName spells (text ++ more) p
  obtain ⟨c, passed, stands⟩ := passes fuel (.object :: outer) more q ends
  refine ⟨c, ?_, stands⟩
  rw [List.append_assoc, List.cons_append, Frame.enter, enters]
  exact passed

/-- A value is passed in any brackets. -/
theorem IsJson.skipped (isJson : IsJson text) : Skipped text := by
  induction isJson with
  | null => exact skipped_scalar ⟨rfl, by decide, by decide⟩ fun more p _ => exists_readWord _ more _
  | true => exact skipped_scalar ⟨rfl, by decide, by decide⟩ fun more p _ => exists_readWord _ more _
  | false => exact skipped_scalar ⟨rfl, by decide, by decide⟩ fun more p _ => exists_readWord _ more _
  | number isNumber => exact skipped_number isNumber
  | string spells => exact skipped_string spells
  | emptyArray blanks => exact skipped_empty .list blanks
  | emptyObject blanks => exact skipped_empty .object blanks
  | array nonempty elements ih =>
    exact skipped_brackets .list nonempty (fun element member => (elements element member).starts)
      fun element member => (ih element member).element
  | object nonempty names values ih =>
    refine skipped_brackets .object (by simpa using nonempty) ?_ ?_
    · rw [List.forall_mem_map]
      intro member inside
      obtain ⟨name, spells⟩ := names member inside
      exact spells.starts.append _
    · rw [List.forall_mem_map]
      intro member inside
      obtain ⟨name, spells⟩ := names member inside
      exact (ih member inside).member spells
  | padded blanks _ blanksAfter ih => exact ih.padded blanks blanksAfter

/-- The turns that the length of the text grants are enough. -/
theorem passes_skipValue (isJson : IsJson text) : Passes skipValue text := by
  intro more p ends
  obtain ⟨turns, few, passes⟩ := isJson.skipped
  obtain ⟨spare, enough⟩ : ∃ spare, 2 * (text ++ more).length + 2 = spare + turns + 1 :=
    ⟨2 * (text ++ more).length + 1 - turns, by rw [List.length_append]; omega⟩
  obtain ⟨c, passed, stands⟩ := passes spare [] more p ends
  refine ⟨c, ?_, stands⟩
  rw [skipValue, enough, passed, skipOut]

end Hashgate.Json
