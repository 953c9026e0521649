import Mathlib.Data.Nat.Digits.Defs
import Mathlib.Tactic.Linarith
import Mathlib.Tactic.Ring
import Hashgate.Proofs.Text.Decimal

/-! # The shortest spelling of a number

A number has many spellings, and the writers produce the shortest of them.  There is just one: digits of
one length that stand for one number are the same digits, and every other spelling has a sign or a zero
to spare.

* `NoSpareZero`, `IsShortest` — what a spelling has to be like.
* `eq_of_value_eq` — digits of one length are told apart by their values.
* `eq_ofNat_iff`, `eq_ofInt_iff`, `isShortest_iff` — the shortest spelling, said in three ways.
-/

namespace Hashgate.Decimal

variable {digits text : List Char} {n : Nat} {z : Int}

/-! ## Digits and their value -/

theorem value_cons (c : Char) (digits : List Char) :
    value (c :: digits) = (c.toNat - '0'.toNat) * 10 ^ digits.length + value digits := by
  rw [value, Nat.ofDigitChars_cons, Nat.ofDigitChars_eq_ofDigitChars_zero, value]
  ring

theorem digit_bounds {c : Char} (digit : c.isDigit = true) :
    c.toNat = c.toNat - '0'.toNat + '0'.toNat ∧ c.toNat - '0'.toNat < 10 := by
  obtain ⟨low, high⟩ := Char.isDigit_iff_toNat.mp digit
  have zero : '0'.toNat = 48 := rfl
  have nine : '9'.toNat = 57 := rfl
  omega

theorem value_lt (digits : List Char) (all : ∀ c ∈ digits, c.isDigit = true) :
    value digits < 10 ^ digits.length := by
  induction digits with
  | nil => decide
  | cons c rest ih =>
    obtain ⟨digit, others⟩ := List.forall_mem_cons.mp all
    obtain ⟨-, small⟩ := digit_bounds digit
    have below := ih others
    rw [value_cons, List.length_cons, Nat.pow_succ]
    nlinarith

/-- A number below a power of ten does not reach into the digits above it. -/
theorem eq_and_eq_of_mul_add_eq {p q r s t : Nat} (below : r < p) (otherBelow : t < p)
    (same : q * p + r = s * p + t) : q = s ∧ r = t := by
  have positive : 0 < p := Nat.zero_lt_of_lt below
  obtain ⟨quotient, remainder⟩ :=
    (Nat.div_mod_unique (a := q * p + r) (c := r) (d := q) positive).mpr ⟨by ring, below⟩
  obtain ⟨otherQuotient, otherRemainder⟩ :=
    (Nat.div_mod_unique (a := s * p + t) (c := t) (d := s) positive).mpr ⟨by ring, otherBelow⟩
  rw [same] at quotient remainder
  exact ⟨quotient.symm.trans otherQuotient, remainder.symm.trans otherRemainder⟩

/-- Digits of one length that stand for one number are the same. -/
theorem eq_of_value_eq {others : List Char} (all : ∀ c ∈ digits, c.isDigit = true)
    (allOthers : ∀ c ∈ others, c.isDigit = true) (length : digits.length = others.length)
    (same : value digits = value others) : digits = others := by
  induction digits generalizing others with
  | nil => exact (List.length_eq_zero_iff.mp length.symm).symm
  | cons c rest ih =>
    cases others with
    | nil => cases length
    | cons d more =>
      obtain ⟨digit, allRest⟩ := List.forall_mem_cons.mp all
      obtain ⟨otherDigit, allMore⟩ := List.forall_mem_cons.mp allOthers
      have lengths : rest.length = more.length := Nat.succ.inj length
      have below := value_lt rest allRest
      have otherBelow := value_lt more allMore
      rw [value_cons, value_cons, lengths] at same
      rw [lengths] at below
      obtain ⟨first, last⟩ := eq_and_eq_of_mul_add_eq below otherBelow same
      have heads : c = d := by
        have number := (digit_bounds digit).1
        have otherNumber := (digit_bounds otherDigit).1
        exact Char.toNat_inj.mp (by omega)
      rw [heads, ih allRest allMore lengths last]

/-! ## Natural numbers -/

/-- A zero comes first only if nothing comes after it. -/
def NoSpareZero (digits : List Char) : Prop := digits.head? = some '0' → digits.length = 1

instance (digits : List Char) : Decidable (NoSpareZero digits) :=
  inferInstanceAs (Decidable (digits.head? = some '0' → digits.length = 1))

/-- The writer takes as few digits as there can be. -/
theorem length_ofNat_value_le (isDigits : IsDigits digits) :
    (ofNat (value digits)).length ≤ digits.length := by
  obtain ⟨nonempty, all⟩ := isDigits
  exact (Nat.length_toDigits_le_iff (by decide) (List.length_pos_iff.mpr nonempty)).mpr
    (value_lt digits all)

theorem eq_ofNat_of_length_le (isDigits : IsDigits digits)
    (short : digits.length ≤ (ofNat (value digits)).length) : digits = ofNat (value digits) :=
  eq_of_value_eq isDigits.2 (isDigits_ofNat _).2
    (Nat.le_antisymm short (length_ofNat_value_le isDigits)) (value_ofNat _).symm

theorem noSpareZero_ofNat (n : Nat) : NoSpareZero (ofNat n) := by
  intro zero
  obtain ⟨rest, shape⟩ := List.head?_eq_some_iff.mp zero
  obtain ⟨-, all⟩ := isDigits_ofNat n
  -- Without its zero the text would stand for the same number, and be shorter.
  rw [shape] at all ⊢
  by_contra more
  have nonempty : rest ≠ [] := by
    rintro rfl
    exact more rfl
  have isDigits : IsDigits rest := ⟨nonempty, fun c member => all c (.tail _ member)⟩
  have same : value rest = n := by
    rw [← value_ofNat n, shape, value_cons]
    simp
  have shorter := length_ofNat_value_le isDigits
  rw [same, shape, List.length_cons] at shorter
  omega

theorem eq_ofNat_of_noSpareZero (isDigits : IsDigits digits) (noZero : NoSpareZero digits) :
    digits = ofNat (value digits) := by
  apply eq_ofNat_of_length_le isDigits
  obtain ⟨nonempty, all⟩ := isDigits
  cases digits with
  | nil => exact absurd rfl nonempty
  | cons c rest =>
    by_cases alone : rest = []
    · subst alone
      exact List.length_pos_iff.mpr (isDigits_ofNat _).1
    -- The first of several digits is worth at least a power of ten, which takes as many.
    obtain ⟨number, -⟩ := digit_bounds (all c List.mem_cons_self)
    have zero : c ≠ '0' := by
      rintro rfl
      have length := noZero rfl
      simp [alone] at length
    have large : 10 ^ rest.length ≤ value (c :: rest) := by
      have other : c.toNat ≠ '0'.toNat := fun same => zero (Char.toNat_inj.mp same)
      have positive : 1 ≤ c.toNat - '0'.toNat := by omega
      rw [value_cons]
      nlinarith [Nat.mul_le_mul_right (10 ^ rest.length) positive]
    have longer := mt (Nat.length_toDigits_le_iff (by decide) (List.length_pos_iff.mpr alone)).mp
      (Nat.not_lt.mpr large)
    rw [List.length_cons]
    exact Nat.not_le.mp longer

/-- Of the spellings of a natural number the writer's is the one with nothing to spare. -/
theorem eq_ofNat_iff (spells : SpellsNat text n) :
    text = ofNat n ↔ '+' ∉ text ∧ NoSpareZero text := by
  constructor
  · rintro rfl
    refine ⟨?_, noSpareZero_ofNat n⟩
    intro plus
    cases (isDigits_ofNat n).2 '+' plus
  · rintro ⟨noPlus, noZero⟩
    cases spells with
    | plain isDigits => exact eq_ofNat_of_noSpareZero isDigits noZero
    | plus => exact absurd List.mem_cons_self noPlus

/-! ## Integers -/

/-- A text without the sign in front of it. -/
def unsigned : List Char → List Char
  | '+' :: digits => digits
  | '-' :: digits => digits
  | digits => digits

/-- A spelling of an integer that is no longer than any other of the same integer. -/
def IsShortest (text : List Char) : Prop :=
  ∃ z, SpellsInt text z ∧ ∀ other, SpellsInt other z → text.length ≤ other.length

theorem ofInt_natCast (n : Nat) : ofInt n = ofNat n := by
  rw [ofInt, if_neg (by omega), Int.natAbs_natCast]

theorem ofInt_neg {n : Nat} (positive : 0 < n) : ofInt (-n) = '-' :: ofNat n := by
  rw [ofInt, if_pos (by omega), Int.natAbs_neg, Int.natAbs_natCast]

theorem unsigned_digits (isDigits : IsDigits digits) : unsigned digits = digits := by
  cases digits with
  | nil => rfl
  | cons c rest =>
    have noPlus : c ≠ '+' := isDigits.head_ne rfl
    have noMinus : c ≠ '-' := isDigits.head_ne rfl
    simp [unsigned, noPlus, noMinus]

theorem length_ofInt_le_of_spells (spells : SpellsInt text z) : (ofInt z).length ≤ text.length := by
  cases spells with
  | plain isDigits =>
    rw [ofInt_natCast]
    exact length_ofNat_value_le isDigits
  | plus isDigits =>
    rw [ofInt_natCast]
    exact Nat.le_succ_of_le (length_ofNat_value_le isDigits)
  | @minus digits isDigits =>
    have digitsLength := length_ofNat_value_le isDigits
    by_cases zero : value digits = 0
    · rw [zero] at digitsLength ⊢
      exact Nat.le_succ_of_le digitsLength
    · rw [ofInt_neg (Nat.pos_of_ne_zero zero)]
      exact Nat.succ_le_succ digitsLength

/-- Of the spellings of an integer the writer's is the one with nothing to spare. -/
theorem eq_ofInt_iff (spells : SpellsInt text z) :
    text = ofInt z ↔ '+' ∉ text ∧ NoSpareZero (unsigned text) ∧ text ≠ ['-', '0'] := by
  cases spells with
  | plain isDigits =>
    have notMinus : text ≠ ['-', '0'] := by
      rintro rfl
      exact isDigits.head_ne rfl rfl
    rw [ofInt_natCast, eq_ofNat_iff (.plain isDigits), unsigned_digits isDigits]
    simp [notMinus]
  | @plus digits isDigits =>
    refine iff_of_false (fun same => ?_) fun spare => spare.1 List.mem_cons_self
    -- The writer writes no plus.
    have noPlus := ((eq_ofNat_iff (spellsNat_ofNat (value digits))).mp rfl).1
    rw [ofInt_natCast] at same
    exact noPlus (same ▸ List.mem_cons_self)
  | @minus digits isDigits =>
    have natural := eq_ofNat_iff (.plain isDigits)
    have unsignedEq : unsigned ('-' :: digits) = digits := rfl
    rw [unsignedEq, List.mem_cons, ne_eq, List.cons.injEq]
    by_cases zero : value digits = 0
    · -- Zero is written without a sign, and its digits are not the only ones that stand for it.
      rw [zero] at natural ⊢
      have written : ofInt (-((0 : Nat) : Int)) = ofNat 0 := rfl
      have digit : ofNat 0 = ['0'] := rfl
      rw [written, digit]
      rw [digit] at natural
      refine iff_of_false (by simp) fun spare => spare.2.2 ⟨rfl, ?_⟩
      exact natural.mpr ⟨fun plus => spare.1 (.inr plus), spare.2.1⟩
    · rw [ofInt_neg (Nat.pos_of_ne_zero zero), List.cons.injEq]
      have notZero : digits ≠ ['0'] := by
        rintro rfl
        exact zero rfl
      simp [natural, notZero]

theorem eq_ofInt_of_length_le (spells : SpellsInt text z) (short : text.length ≤ (ofInt z).length) :
    text = ofInt z := by
  cases spells with
  | plain isDigits =>
    rw [ofInt_natCast] at short ⊢
    exact eq_ofNat_of_length_le isDigits short
  | plus isDigits =>
    have digitsLength := length_ofNat_value_le isDigits
    rw [ofInt_natCast, List.length_cons] at short
    omega
  | @minus digits isDigits =>
    have digitsLength := length_ofNat_value_le isDigits
    by_cases zero : value digits = 0
    · have positive := List.length_pos_iff.mpr isDigits.1
      rw [zero] at short
      have one : (ofInt (-((0 : Nat) : Int))).length = 1 := rfl
      rw [one, List.length_cons] at short
      omega
    · rw [ofInt_neg (Nat.pos_of_ne_zero zero), List.length_cons, List.length_cons] at short
      rw [ofInt_neg (Nat.pos_of_ne_zero zero), ← eq_ofNat_of_length_le isDigits (by omega)]

/-- The writer's spelling is the shortest, and no other is as short. -/
theorem isShortest_iff (spells : SpellsInt text z) : IsShortest text ↔ text = ofInt z := by
  constructor
  · rintro ⟨y, spellsY, least⟩
    rw [← spells.unique spellsY] at least
    exact eq_ofInt_of_length_le spells (least _ (spellsInt_ofInt z))
  · rintro rfl
    exact ⟨z, spells, fun other spellsOther => length_ofInt_le_of_spells spellsOther⟩

end Hashgate.Decimal
