import Hashgate.Json.Number
import Hashgate.Proofs.Json.Reader
import Hashgate.Proofs.Text.Decimal

/-! # Numbers of JSON that nobody wants to know

A number is skipped by its form alone, so there is no number that is too large, too small or too long.  It
ends where a character stands that cannot belong to it.

* `IsNumber` — the grammar of numbers.
* `exists_skipNumber` — a number is skipped, behind its minus if it has one.
-/

namespace Hashgate.Json

open Decimal (IsDigits)

variable {digits whole fraction exponent text more : List Char}

/-! ## The grammar -/

/-- The digits before the point, of which the first is no superfluous zero. -/
inductive IsWhole : List Char → Prop
  | zero : IsWhole ['0']
  | digits {d : Char} {rest : List Char} : d.isDigit = true → d ≠ '0' →
      (∀ x ∈ rest, x.isDigit = true) → IsWhole (d :: rest)

inductive IsFraction : List Char → Prop
  | none : IsFraction []
  | some {digits : List Char} : IsDigits digits → IsFraction ('.' :: digits)

inductive IsExponent : List Char → Prop
  | none : IsExponent []
  | some {e : Char} {sign digits : List Char} : e = 'e' ∨ e = 'E' →
      sign = [] ∨ sign = ['+'] ∨ sign = ['-'] → IsDigits digits → IsExponent (e :: (sign ++ digits))

/-- A number without its minus. -/
inductive IsUnsigned : List Char → Prop
  | mk {whole fraction exponent : List Char} : IsWhole whole → IsFraction fraction → IsExponent exponent →
      IsUnsigned (whole ++ fraction ++ exponent)

inductive IsNumber : List Char → Prop
  | plain {text : List Char} : IsUnsigned text → IsNumber text
  | minus {text : List Char} : IsUnsigned text → IsNumber ('-' :: text)

/-! ## Digits -/

/-- A digit is no other sign. -/
theorem ne_of_isDigit {d x : Char} (digit : d.isDigit = true) (other : x.isDigit = false) : d ≠ x := by
  rintro rfl
  simp [other] at digit

/-- No digit comes next. -/
def NoDigit (more : List Char) : Prop := ∀ x ∈ more.head?, x.isDigit = false

theorem noDigit_of_ends (ends : Ends more) : NoDigit more := by
  cases more with
  | nil => nofun
  | cons x rest =>
    rintro _ ⟨⟩
    obtain (rfl | rfl | rfl | rfl) | rfl | rfl | rfl := ends.head_eq <;> rfl

theorem exists_skipDigits (all : ∀ x ∈ digits, x.isDigit = true) (ends : NoDigit more) (p : Position) :
    ∃ q, Cursor.skipDigits ⟨digits ++ more, p⟩ = ⟨more, q⟩ := by
  obtain ⟨q, skips⟩ := exists_skipWhile_append all more p
  exact ⟨q, skips.trans (skipWhile_of_head ends q)⟩

theorem exists_skipExponent {sign : List Char} (isSign : sign = [] ∨ sign = ['+'] ∨ sign = ['-'])
    (isDigits : IsDigits digits) (ends : NoDigit more) (p : Position) :
    ∃ q, skipExponent ⟨sign ++ digits ++ more, p⟩ = .ok ⟨more, q⟩ := by
  obtain ⟨nonempty, all⟩ := isDigits
  obtain ⟨d, rest, rfl⟩ := List.exists_cons_of_ne_nil nonempty
  have digit : d.isDigit = true := all d List.mem_cons_self
  obtain rfl | rfl | rfl := isSign
  · obtain ⟨q, skips⟩ := exists_skipDigits all ends p
    have noPlus : d ≠ '+' := ne_of_isDigit digit rfl
    have noMinus : d ≠ '-' := ne_of_isDigit digit rfl
    exact ⟨q, by simpa [skipExponent, digit, noPlus, noMinus] using skips⟩
  · obtain ⟨q, skips⟩ := exists_skipDigits all ends (p.after '+')
    exact ⟨q, by simpa [skipExponent, digit, Cursor.next] using skips⟩
  · obtain ⟨q, skips⟩ := exists_skipDigits all ends (p.after '-')
    exact ⟨q, by simpa [skipExponent, digit, Cursor.next] using skips⟩

/-! ## Numbers -/

/-- The sign of an exponent or of what comes after the number, but no digit. -/
theorem IsExponent.noDigit_append (isExponent : IsExponent exponent) (ends : Ends more) :
    NoDigit (exponent ++ more) := by
  cases isExponent with
  | none => exact noDigit_of_ends ends
  | some isE =>
    rintro _ ⟨⟩
    obtain rfl | rfl := isE <;> rfl

theorem IsFraction.noDigit_append (isFraction : IsFraction fraction) (noDigit : NoDigit more) :
    NoDigit (fraction ++ more) := by
  cases isFraction with
  | none => exact noDigit
  | some =>
    rintro _ ⟨⟩
    rfl

/-- What is done behind the digits before the point. -/
def skipTail (c : Cursor) : Except ReadError Cursor :=
  match c.rest with
  | '.' :: _ => skipDecimals c.next
  | 'e' :: _ | 'E' :: _ => skipExponent c.next
  | _ => .ok c

theorem exists_skipNumber_whole (isWhole : IsWhole whole) (noDigit : NoDigit more) (p : Position) :
    ∃ q, skipNumber ⟨whole ++ more, p⟩ = skipTail ⟨more, q⟩ := by
  cases isWhole with
  | zero =>
    have alone : more.head?.any Char.isDigit = false := by
      cases more with
      | nil => rfl
      | cons x rest => exact noDigit x rfl
    refine ⟨p.after '0', ?_⟩
    simp only [skipNumber, List.cons_append, List.nil_append, Cursor.next, alone]
    rfl
  | @digits d rest digit notZero all =>
    obtain ⟨q, skips⟩ := exists_skipDigits (List.forall_mem_cons.mpr ⟨digit, all⟩) noDigit p
    rw [List.cons_append] at skips ⊢
    refine ⟨q, ?_⟩
    simp only [skipNumber, digit, notZero, skips, false_and, if_false, Bool.not_true, Bool.false_eq_true]
    rfl

/-- Nothing that may stand behind a number goes on with it. -/
theorem skipTail_of_ends (ends : Ends more) (p : Position) : skipTail ⟨more, p⟩ = .ok ⟨more, p⟩ := by
  cases more with
  | nil => rfl
  | cons x rest =>
    obtain (rfl | rfl | rfl | rfl) | rfl | rfl | rfl := ends.head_eq <;> rfl

theorem exists_skipTail_exponent (isExponent : IsExponent exponent) (ends : Ends more) (p : Position) :
    ∃ q, skipTail ⟨exponent ++ more, p⟩ = .ok ⟨more, q⟩ := by
  cases isExponent with
  | none => exact ⟨p, skipTail_of_ends ends p⟩
  | @some e sign digits isE isSign isDigits =>
    obtain ⟨q, skips⟩ := exists_skipExponent isSign isDigits (noDigit_of_ends ends) (p.after e)
    obtain rfl | rfl := isE <;> exact ⟨q, skips⟩

/-- Behind the digits after a point there is no other point, so what is left is done as without one. -/
theorem exists_skipDecimals (isDigits : IsDigits digits) (isExponent : IsExponent exponent)
    (ends : Ends more) (p : Position) :
    ∃ q, skipDecimals ⟨digits ++ (exponent ++ more), p⟩ = .ok ⟨more, q⟩ := by
  obtain ⟨nonempty, all⟩ := isDigits
  obtain ⟨middle, digitsSkip⟩ := exists_skipDigits all (isExponent.noDigit_append ends) p
  obtain ⟨d, rest, rfl⟩ := List.exists_cons_of_ne_nil nonempty
  have digit : d.isDigit = true := all d List.mem_cons_self
  obtain ⟨q, skips⟩ := exists_skipTail_exponent isExponent ends middle
  refine ⟨q, ?_⟩
  rw [List.cons_append] at digitsSkip ⊢
  simp only [skipDecimals, List.head?_cons, Option.any_some, digit, if_true, digitsSkip]
  cases isExponent with
  | none =>
    cases more with
    | nil => cases skips; rfl
    | cons x after =>
      obtain (rfl | rfl | rfl | rfl) | rfl | rfl | rfl := ends.head_eq <;> exact skips
  | some isE => obtain rfl | rfl := isE <;> exact skips

/-- A number without its minus. -/
theorem exists_skipNumber (isUnsigned : IsUnsigned text) (ends : Ends more) (p : Position) :
    ∃ q, skipNumber ⟨text ++ more, p⟩ = .ok ⟨more, q⟩ := by
  obtain @⟨whole, fraction, exponent, isWhole, isFraction, isExponent⟩ := isUnsigned
  have noDigit : NoDigit (fraction ++ (exponent ++ more)) :=
    isFraction.noDigit_append (isExponent.noDigit_append ends)
  obtain ⟨middle, skipsWhole⟩ := exists_skipNumber_whole isWhole noDigit p
  rw [List.append_assoc, List.append_assoc, skipsWhole]
  cases isFraction with
  | none => exact exists_skipTail_exponent isExponent ends middle
  | some isDigits => exact exists_skipDecimals isDigits isExponent ends (middle.after '.')

end Hashgate.Json
