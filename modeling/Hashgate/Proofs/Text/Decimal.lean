import Hashgate.Proofs.Reading
import Hashgate.Text.Decimal

/-! # Which texts are numbers

The readers of decimal numbers accept a small grammar, which is stated here without them: one or more
digits, after a sign where one is allowed.  Bounds are no part of the grammar.  A reader accepts
exactly the spellings of the numbers within its bounds, whatever the number of leading zeros, and the
writers produce one spelling each.

* `SpellsNat`, `SpellsInt` — the grammar, with the number that a text stands for.
* `readUInt32_eq_ok_iff`, `readUInt64_eq_ok_iff`, `readInt64_eq_ok_iff` — what the readers accept.
* `spellsNat_ofNat`, `spellsInt_ofInt` — what the writers write.
-/

namespace Hashgate.Decimal

/-! ## The grammar -/

/-- One or more digits. -/
def IsDigits (text : List Char) : Prop := text ≠ [] ∧ ∀ c ∈ text, c.isDigit = true

instance (text : List Char) : Decidable (IsDigits text) :=
  haveI := List.decidableBAll (fun c : Char => c.isDigit = true) text
  instDecidableAnd

/-- The number that digits stand for, the most significant digit first. -/
def value (digits : List Char) : Nat := Nat.ofDigitChars 10 digits 0

/-- The spellings of a natural number. -/
inductive SpellsNat : List Char → Nat → Prop
  | plain {digits : List Char} : IsDigits digits → SpellsNat digits (value digits)
  | plus {digits : List Char} : IsDigits digits → SpellsNat ('+' :: digits) (value digits)

inductive SpellsInt : List Char → Int → Prop
  | plain {digits : List Char} : IsDigits digits → SpellsInt digits (value digits)
  | plus {digits : List Char} : IsDigits digits → SpellsInt ('+' :: digits) (value digits)
  | minus {digits : List Char} : IsDigits digits → SpellsInt ('-' :: digits) (-value digits)

theorem IsDigits.head_ne {c sign : Char} {rest : List Char} (digits : IsDigits (c :: rest))
    (noDigit : sign.isDigit = false) : c ≠ sign := by
  rintro rfl
  simp [digits.2 c List.mem_cons_self] at noDigit

/-! ## Reading digits -/

/-- Digits never make a number smaller. -/
theorem le_ofDigitChars (digits : List Char) (acc : Nat) : acc ≤ Nat.ofDigitChars 10 digits acc := by
  induction digits generalizing acc with
  | nil => simp
  | cons c rest ih =>
    rw [Nat.ofDigitChars_cons]
    exact Nat.le_trans (by omega) (ih _)

/-- Since digits never make a number smaller, it is enough to look at the whole number. -/
theorem readDigits_eq_ok_iff {bound acc n : Nat} {overflow : Fault} (digits : List Char)
    (within : acc ≤ bound) :
    readDigits bound overflow acc digits = .ok n ↔
      (∀ c ∈ digits, c.isDigit = true) ∧ Nat.ofDigitChars 10 digits acc = n ∧ n ≤ bound := by
  induction digits generalizing acc with
  | nil =>
    simp only [readDigits, Except.ok.injEq, List.not_mem_nil, false_implies, implies_true,
      Nat.ofDigitChars_nil, true_and]
    omega
  | cons c rest ih =>
    rw [Nat.ofDigitChars_cons, List.forall_mem_cons]
    by_cases digit : c.isDigit = true
    · have next : acc * 10 + (c.toNat - '0'.toNat) = 10 * acc + (c.toNat - '0'.toNat) := by omega
      simp only [readDigits, digit?, digit, if_true, true_and, next]
      by_cases fits : 10 * acc + (c.toNat - '0'.toNat) ≤ bound
      · rw [if_neg (by omega), ih fits]
      · rw [if_pos (by omega)]
        -- The bound is passed, and the digits that are left never bring the number back.
        have grows := le_ofDigitChars rest (10 * acc + (c.toNat - '0'.toNat))
        simp only [reduceCtorEq, false_iff]
        omega
    · simp [readDigits, digit?, digit]

theorem readDigits_zero_eq_ok_iff {bound n : Nat} {overflow : Fault} {digits : List Char}
    (nonempty : digits ≠ []) :
    readDigits bound overflow 0 digits = .ok n ↔ IsDigits digits ∧ value digits = n ∧ n ≤ bound := by
  rw [readDigits_eq_ok_iff digits (Nat.zero_le bound), IsDigits, value, and_iff_right nonempty]

/-! ## Reading numbers -/

theorem readNat_plain {bound : Nat} {digits : List Char} (isDigits : IsDigits digits) :
    readNat bound digits = readDigits bound .tooLarge 0 digits := by
  cases digits with
  | nil => exact absurd rfl isDigits.1
  | cons c rest =>
    have noPlus : c ≠ '+' := isDigits.head_ne rfl
    simp [readNat, noPlus]

theorem readNat_plus {bound : Nat} {digits : List Char} (nonempty : digits ≠ []) :
    readNat bound ('+' :: digits) = readDigits bound .tooLarge 0 digits := by
  cases digits with
  | nil => exact absurd rfl nonempty
  | cons c rest => rfl

/-- A natural number is read from its spellings, if it is within the bound. -/
theorem readNat_eq_ok_iff {bound n : Nat} (text : List Char) :
    readNat bound text = .ok n ↔ SpellsNat text n ∧ n ≤ bound := by
  constructor
  · intro read
    unfold readNat at read
    split at read
    · cases read
    · cases read
    · next digits notAlone =>
      obtain ⟨isDigits, rfl, fits⟩ := (readDigits_zero_eq_ok_iff notAlone).mp read
      exact ⟨.plus isDigits, fits⟩
    · next digits notEmpty _ _ =>
      obtain ⟨isDigits, rfl, fits⟩ := (readDigits_zero_eq_ok_iff notEmpty).mp read
      exact ⟨.plain isDigits, fits⟩
  · rintro ⟨spells, fits⟩
    cases spells with
    | plain isDigits =>
      rw [readNat_plain isDigits, readDigits_zero_eq_ok_iff isDigits.1]
      exact ⟨isDigits, rfl, fits⟩
    | plus isDigits =>
      rw [readNat_plus isDigits.1, readDigits_zero_eq_ok_iff isDigits.1]
      exact ⟨isDigits, rfl, fits⟩

theorem readInt_plain {low high : Nat} {digits : List Char} (isDigits : IsDigits digits) :
    readInt low high digits = (readDigits high .tooLarge 0 digits).map Int.ofNat := by
  cases digits with
  | nil => exact absurd rfl isDigits.1
  | cons c rest =>
    have noPlus : c ≠ '+' := isDigits.head_ne rfl
    have noMinus : c ≠ '-' := isDigits.head_ne rfl
    simp [readInt, noPlus, noMinus]

theorem readInt_plus {low high : Nat} {digits : List Char} (nonempty : digits ≠ []) :
    readInt low high ('+' :: digits) = (readDigits high .tooLarge 0 digits).map Int.ofNat := by
  cases digits with
  | nil => exact absurd rfl nonempty
  | cons c rest => rfl

theorem readInt_minus {low high : Nat} {digits : List Char} (nonempty : digits ≠ []) :
    readInt low high ('-' :: digits) =
      (readDigits low .tooSmall 0 digits).map fun n => -Int.ofNat n := by
  cases digits with
  | nil => exact absurd rfl nonempty
  | cons c rest => rfl

theorem readInt_eq_ok_iff {low high : Nat} {z : Int} (text : List Char) :
    readInt low high text = .ok z ↔ SpellsInt text z ∧ -(low : Int) ≤ z ∧ z ≤ high := by
  constructor
  · intro read
    unfold readInt at read
    split at read
    · cases read
    · cases read
    · cases read
    · next digits notAlone =>
      obtain ⟨n, natural, rfl⟩ := map_eq_ok_iff.mp read
      obtain ⟨isDigits, rfl, fits⟩ := (readDigits_zero_eq_ok_iff notAlone).mp natural
      exact ⟨.plus isDigits, by simp; omega⟩
    · next digits notAlone =>
      obtain ⟨n, natural, rfl⟩ := map_eq_ok_iff.mp read
      obtain ⟨isDigits, rfl, fits⟩ := (readDigits_zero_eq_ok_iff notAlone).mp natural
      exact ⟨.minus isDigits, by simp; omega⟩
    · next digits notEmpty _ _ _ _ =>
      obtain ⟨n, natural, rfl⟩ := map_eq_ok_iff.mp read
      obtain ⟨isDigits, rfl, fits⟩ := (readDigits_zero_eq_ok_iff notEmpty).mp natural
      exact ⟨.plain isDigits, by simp; omega⟩
  · rintro ⟨spells, above, below⟩
    cases spells with
    | plain isDigits =>
      rw [readInt_plain isDigits, map_eq_ok_iff]
      exact ⟨_, (readDigits_zero_eq_ok_iff isDigits.1).mpr ⟨isDigits, rfl, by omega⟩, rfl⟩
    | plus isDigits =>
      rw [readInt_plus isDigits.1, map_eq_ok_iff]
      exact ⟨_, (readDigits_zero_eq_ok_iff isDigits.1).mpr ⟨isDigits, rfl, by omega⟩, rfl⟩
    | minus isDigits =>
      rw [readInt_minus isDigits.1, map_eq_ok_iff]
      exact ⟨_, (readDigits_zero_eq_ok_iff isDigits.1).mpr ⟨isDigits, rfl, by omega⟩, rfl⟩

theorem readUInt32_eq_ok_iff {n : UInt32} (text : List Char) :
    readUInt32 text = .ok n ↔ SpellsNat text n.toNat := by
  have fits : n.toNat < UInt32.size := n.toNat_lt_size
  rw [readUInt32, map_eq_ok_iff]
  constructor
  · rintro ⟨m, read, rfl⟩
    obtain ⟨spells, bound⟩ := (readNat_eq_ok_iff text).mp read
    rwa [UInt32.toNat_ofNat_of_lt' (by omega)]
  · intro spells
    exact ⟨n.toNat, (readNat_eq_ok_iff text).mpr ⟨spells, by omega⟩, UInt32.ofNat_toNat⟩

theorem readUInt64_eq_ok_iff {n : UInt64} (text : List Char) :
    readUInt64 text = .ok n ↔ SpellsNat text n.toNat := by
  have fits : n.toNat < UInt64.size := n.toNat_lt_size
  rw [readUInt64, map_eq_ok_iff]
  constructor
  · rintro ⟨m, read, rfl⟩
    obtain ⟨spells, bound⟩ := (readNat_eq_ok_iff text).mp read
    rwa [UInt64.toNat_ofNat_of_lt' (by omega)]
  · intro spells
    exact ⟨n.toNat, (readNat_eq_ok_iff text).mpr ⟨spells, by omega⟩, UInt64.ofNat_toNat⟩

theorem readInt64_eq_ok_iff {k : Int64} (text : List Char) :
    readInt64 text = .ok k ↔ SpellsInt text k.toInt := by
  have above := k.le_toInt
  have below := k.toInt_lt
  rw [readInt64, map_eq_ok_iff]
  constructor
  · rintro ⟨z, read, rfl⟩
    obtain ⟨spells, lower, upper⟩ := (readInt_eq_ok_iff text).mp read
    rw [Int64.toInt_ofInt_of_le]
    · exact spells
    · simp [UInt64.size] at lower ⊢
      omega
    · simp [UInt64.size] at upper ⊢
      omega
  · intro spells
    refine ⟨k.toInt, (readInt_eq_ok_iff text).mpr ⟨spells, ?_⟩, Int64.ofInt_toInt k⟩
    simp [UInt64.size]
    omega

/-- A text spells one integer at most. -/
theorem SpellsInt.unique {text : List Char} {y z : Int} (spellsY : SpellsInt text y)
    (spellsZ : SpellsInt text z) : y = z := by
  -- With bounds that let both numbers through, the reader makes both of the one text.
  have bound : ∃ high : Nat, -(high : Int) ≤ y ∧ y ≤ high ∧ -(high : Int) ≤ z ∧ z ≤ high :=
    ⟨y.natAbs + z.natAbs, by omega⟩
  obtain ⟨high, lowY, highY, lowZ, highZ⟩ := bound
  have readY := (readInt_eq_ok_iff text).mpr ⟨spellsY, lowY, highY⟩
  rw [(readInt_eq_ok_iff text).mpr ⟨spellsZ, lowZ, highZ⟩] at readY
  cases readY
  rfl

theorem SpellsNat.unique {text : List Char} {m n : Nat} (spellsM : SpellsNat text m)
    (spellsN : SpellsNat text n) : m = n := by
  have readM := (readNat_eq_ok_iff text).mpr ⟨spellsM, Nat.le_max_left m n⟩
  rw [(readNat_eq_ok_iff text).mpr ⟨spellsN, Nat.le_max_right m n⟩] at readM
  cases readM
  rfl

theorem SpellsInt.int64_iff {text : List Char} {v w : Int64} (spells : SpellsInt text v.toInt) :
    SpellsInt text w.toInt ↔ w = v := by
  constructor
  · intro other
    exact Int64.toInt_inj.mp (other.unique spells)
  · rintro rfl
    exact spells

theorem SpellsInt.int64_iff_eq_one {text : List Char} {w : Int64} (one : SpellsInt text 1) :
    SpellsInt text w.toInt ↔ w = 1 :=
  int64_iff (one : SpellsInt text (1 : Int64).toInt)

theorem SpellsNat.uint32_iff {text : List Char} {m n : UInt32} (spells : SpellsNat text m.toNat) :
    SpellsNat text n.toNat ↔ n = m := by
  constructor
  · intro other
    exact UInt32.toNat_inj.mp (other.unique spells)
  · rintro rfl
    exact spells

/-! ## Writing numbers -/

theorem isDigits_ofNat (n : Nat) : IsDigits (ofNat n) :=
  ⟨Nat.toDigits_ne_nil, fun _ member => Nat.isDigit_of_mem_toDigits (by decide) (by decide) member⟩

@[simp] theorem value_ofNat (n : Nat) : value (ofNat n) = n := Nat.ofDigitChars_ten_toDigits

theorem spellsNat_ofNat (n : Nat) : SpellsNat (ofNat n) n := by
  simpa using SpellsNat.plain (isDigits_ofNat n)

theorem spellsInt_ofInt (z : Int) : SpellsInt (ofInt z) z := by
  unfold ofInt
  split
  · next negative =>
    have spells := SpellsInt.minus (isDigits_ofNat z.natAbs)
    rwa [value_ofNat, show -(z.natAbs : Int) = z by omega] at spells
  · next positive =>
    have spells := SpellsInt.plain (isDigits_ofNat z.natAbs)
    rwa [value_ofNat, show (z.natAbs : Int) = z by omega] at spells

end Hashgate.Decimal
