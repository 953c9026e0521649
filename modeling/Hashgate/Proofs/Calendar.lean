import Hashgate.Calendar

/-! # Which stamps name a minute

A stamp leaves the century out, and still says whether its February has a twenty-ninth day: among the
years from 1970 to 2069 the leap years are those whose last two digits are a multiple of four.

* `IsStamp` — the grammar of stamps, without a calendar.
* `isSome_ofStamp?_iff` — the stamps that the reader takes.
* `Minute.isStamp_stamp` — the stamps that are written are among them.
* `stamp_of_ofStamp?` — what is read is written again as it was.
-/

namespace Hashgate

/-! ## The grammar -/

/-- The last day of a month of a year from 1970 to 2069 that is known by two digits. -/
def lastDay (year month : Nat) : Nat :=
  match month with
  | 2 => if year % 4 = 0 then 29 else 28
  | 4 | 6 | 9 | 11 => 30
  | _ => 31

/-- Ten digits that name a day of the year, an hour of the day and a minute of the hour. -/
def IsStamp (field : List Char) : Prop :=
  ∃ year month day hour minute,
    field = twoDigits year ++ twoDigits month ++ twoDigits day ++ twoDigits hour ++ twoDigits minute ∧
      year < 100 ∧ (1 ≤ month ∧ month ≤ 12) ∧ (1 ≤ day ∧ day ≤ lastDay year month) ∧
      hour < 24 ∧ minute < 60

/-! ## Two digits -/

theorem ofTwoDigits?_twoDigits : ∀ n < 100,
    ofTwoDigits? (Nat.digitChar (n / 10 % 10)) (Nat.digitChar (n % 10)) = some n := by decide

theorem eq_digits_of_ofTwoDigits? {tens ones : Char} {n : Nat}
    (read : ofTwoDigits? tens ones = some n) :
    n < 100 ∧ tens = Nat.digitChar (n / 10 % 10) ∧ ones = Nat.digitChar (n % 10) := by
  unfold ofTwoDigits? at read
  split at read
  · next digits =>
    cases read
    obtain ⟨tensLow, tensHigh⟩ := Char.isDigit_iff_toNat.mp digits.1
    obtain ⟨onesLow, onesHigh⟩ := Char.isDigit_iff_toNat.mp digits.2
    change 48 ≤ _ at tensLow onesLow
    change _ ≤ 57 at tensHigh onesHigh
    change (tens.toNat - 48) * 10 + (ones.toNat - 48) < 100 ∧
      tens = Nat.digitChar (((tens.toNat - 48) * 10 + (ones.toNat - 48)) / 10 % 10) ∧
      ones = Nat.digitChar (((tens.toNat - 48) * 10 + (ones.toNat - 48)) % 10)
    refine ⟨by omega, ?_, ?_⟩
    · rw [← Char.toNat_inj, Nat.toNat_digitChar_of_lt_ten (by omega)]
      omega
    · rw [← Char.toNat_inj, Nat.toNat_digitChar_of_lt_ten (by omega)]
      omega
  · cases read

/-! ## The two centuries -/

theorem isLeapYear_fullYear : ∀ year < 100, isLeapYear (fullYear year) = decide (year % 4 = 0) := by
  decide

theorem daysInMonth_fullYear {year month : Nat} (short : year < 100) :
    daysInMonth (fullYear year) month =
      if 1 ≤ month ∧ month ≤ 12 then lastDay year month else 0 := by
  match month with
  | 0 | 1 | 3 | 4 | 5 | 6 | 7 | 8 | 9 | 10 | 11 | 12 => rfl
  | 2 => simp [daysInMonth, lastDay, isLeapYear_fullYear year short]
  | month + 13 => rw [if_neg (by omega)]; rfl

theorem lastDay_le (year month : Nat) : lastDay year month ≤ 31 := by
  unfold lastDay
  split
  · split <;> omega
  all_goals omega

/-- The last two digits of a leap year are a multiple of four, whatever its century. -/
theorem mod_four_of_isLeapYear {year : Nat} (leap : isLeapYear year = true) : year % 100 % 4 = 0 := by
  simp only [isLeapYear, Bool.and_eq_true, beq_iff_eq] at leap
  omega

theorem daysInMonth_le (year month : Nat) : daysInMonth year month ≤ lastDay (year % 100) month := by
  match month with
  | 1 | 3 | 4 | 5 | 6 | 7 | 8 | 9 | 10 | 11 | 12 => exact Nat.le_refl _
  | 2 =>
    simp only [daysInMonth, lastDay]
    by_cases leap : isLeapYear year = true
    · simp only [if_pos leap, if_pos (mod_four_of_isLeapYear leap), Nat.le_refl]
    · rw [if_neg leap]
      split <;> omega
  | 0 | month + 13 => exact Nat.zero_le _

theorem month_of_daysInMonth_pos {year month : Nat} (positive : 0 < daysInMonth year month) :
    1 ≤ month ∧ month ≤ 12 := by
  unfold daysInMonth at positive
  split at positive <;> omega

/-! ## Stamps -/

theorem ofStamp?_eq_ofParts? {year month day hour minute : Nat} (hy : year < 100) (hn : month < 100)
    (hd : day < 100) (hh : hour < 100) (hm : minute < 100) :
    Minute.ofStamp? (twoDigits year ++ twoDigits month ++ twoDigits day ++ twoDigits hour ++
      twoDigits minute) = Minute.ofParts? (fullYear year) month day hour minute := by
  simp [Minute.ofStamp?, twoDigits, ofTwoDigits?_twoDigits, hy, hn, hd, hh, hm]

/-- A stamp that is read consists of digits for the parts of its minute. -/
theorem exists_parts_of_ofStamp? {field : List Char} {m : Minute}
    (read : Minute.ofStamp? field = some m) :
    ∃ year < 100, m.year = fullYear year ∧
      field = twoDigits year ++ twoDigits m.month ++ twoDigits m.day ++ twoDigits m.hour ++
        twoDigits m.minute := by
  unfold Minute.ofStamp? at read
  split at read
  · next y₁ y₂ n₁ n₂ d₁ d₂ h₁ h₂ m₁ m₂ =>
    simp only [Option.bind_eq_bind, Option.bind_eq_some_iff] at read
    obtain ⟨year, readYear, month, readMonth, day, readDay, hour, readHour, minute, readMinute,
      parts⟩ := read
    -- The digits of each pair are those of the number that was read from it.
    obtain ⟨hy, rfl, rfl⟩ := eq_digits_of_ofTwoDigits? readYear
    obtain ⟨-, rfl, rfl⟩ := eq_digits_of_ofTwoDigits? readMonth
    obtain ⟨-, rfl, rfl⟩ := eq_digits_of_ofTwoDigits? readDay
    obtain ⟨-, rfl, rfl⟩ := eq_digits_of_ofTwoDigits? readHour
    obtain ⟨-, rfl, rfl⟩ := eq_digits_of_ofTwoDigits? readMinute
    unfold Minute.ofParts? at parts
    split at parts
    · cases parts
      exact ⟨year, hy, rfl, rfl⟩
    · cases parts
  · cases read

/-- The reader takes exactly the stamps of the grammar. -/
theorem isSome_ofStamp?_iff {field : List Char} :
    (Minute.ofStamp? field).isSome = true ↔ IsStamp field := by
  constructor
  · intro accepted
    obtain ⟨m, read⟩ := Option.isSome_iff_exists.mp accepted
    obtain ⟨year, short, century, equal⟩ := exists_parts_of_ofStamp? read
    have first := m.day_pos
    have last := m.day_le
    rw [century, daysInMonth_fullYear short] at last
    split at last
    · next month =>
      exact ⟨year, m.month, m.day, m.hour, m.minute, equal, short, month, ⟨first, last⟩, m.hour_lt,
        m.minute_lt⟩
    · omega
  · rintro ⟨year, month, day, hour, minute, rfl, short, inYear, inMonth, inDay, inHour⟩
    have days : daysInMonth (fullYear year) month = lastDay year month := by
      rw [daysInMonth_fullYear short, if_pos inYear]
    have atMost : lastDay year month ≤ 31 := lastDay_le year month
    rw [ofStamp?_eq_ofParts? short (by omega) (by omega) (by omega) (by omega), Minute.ofParts?,
      dif_pos ⟨inMonth.1, days ▸ inMonth.2, inDay, inHour⟩]
    rfl

theorem twoDigits_mod (n : Nat) : twoDigits (n % 100) = twoDigits n := by
  rw [twoDigits, twoDigits, show n % 100 / 10 % 10 = n / 10 % 10 by omega,
    show n % 100 % 10 = n % 10 by omega]

/-- The stamp of any minute is read, though not always as that minute. -/
theorem Minute.isStamp_stamp (m : Minute) : IsStamp m.stamp := by
  have days := daysInMonth_le m.year m.month
  have month := month_of_daysInMonth_pos (Nat.lt_of_lt_of_le m.day_pos m.day_le)
  refine ⟨m.year % 100, m.month, m.day, m.hour, m.minute, ?_, Nat.mod_lt _ (by decide), month,
    ⟨m.day_pos, Nat.le_trans m.day_le days⟩, m.hour_lt, m.minute_lt⟩
  rw [twoDigits_mod]
  rfl

/-- Every stamp that is read is the stamp of the minute that it is read as. -/
theorem stamp_of_ofStamp? {field : List Char} {m : Minute} (read : Minute.ofStamp? field = some m) :
    m.stamp = field := by
  obtain ⟨year, short, century, rfl⟩ := exists_parts_of_ofStamp? read
  have digits : m.year % 100 = year := by
    rw [century, fullYear]
    split <;> omega
  rw [Minute.stamp, ← twoDigits_mod m.year, digits]

instance (field : List Char) : Decidable (IsStamp field) := decidable_of_iff _ isSome_ofStamp?_iff

end Hashgate
