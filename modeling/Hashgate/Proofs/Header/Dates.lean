import Mathlib.Logic.ExistsUnique
import Hashgate.Header.Basic
import Hashgate.Proofs.Calendar

/-! # Dates of headers

The stamp of a minute leaves out its century, and the reader of a date takes the one that puts the year
between 1970 and 2069.  So a date is not always read as the minute in which it was written, but it is always
read: if February has a twenty-ninth day in some year, it has one in the year that is read for it.

* `Minute.stamp_eq_iff` — what a stamp says of a minute.
* `Minute.InWindow`, `Minute.ofStamp?_stamp` — the minutes that are read back as they were.
* `Minute.ReadAs`, `Minute.exists_readAs` — every minute is read as one of these.
* `Header.dates_agree` — the dates that are written, and those that are read.
-/

namespace Hashgate

/-! ## What a stamp says -/

theorem twoDigits_eq_iff {a b : Nat} : twoDigits a = twoDigits b ↔ a % 100 = b % 100 := by
  have reads (n : Nat) : ofTwoDigits? (Nat.digitChar (n / 10 % 10)) (Nat.digitChar (n % 10)) =
      some (n % 100) := by
    have digits := ofTwoDigits?_twoDigits (n % 100) (Nat.mod_lt _ (by decide))
    rwa [show n % 100 / 10 % 10 = n / 10 % 10 by omega, show n % 100 % 10 = n % 10 by omega] at digits
  constructor
  · intro same
    simp only [twoDigits, List.cons.injEq, and_true] at same
    have readsA := reads a
    rw [same.1, same.2, reads b] at readsA
    exact (Option.some.inj readsA).symm
  · intro same
    rw [← twoDigits_mod a, same, twoDigits_mod]

theorem twoDigits_append_eq_iff {a b : Nat} {first second : List Char} :
    twoDigits a ++ first = twoDigits b ++ second ↔ a % 100 = b % 100 ∧ first = second := by
  rw [← twoDigits_eq_iff]
  constructor
  · intro same
    exact List.append_inj same rfl
  · rintro ⟨digits, rest⟩
    rw [digits, rest]

namespace Minute

variable {m n : Minute} {field : List Char}

theorem month_bounds (m : Minute) : 1 ≤ m.month ∧ m.month ≤ 12 :=
  month_of_daysInMonth_pos (Nat.lt_of_lt_of_le m.day_pos m.day_le)

theorem day_le_31 (m : Minute) : m.day ≤ 31 :=
  Nat.le_trans m.day_le (Nat.le_trans (daysInMonth_le m.year m.month) (lastDay_le _ _))

/-- A stamp says everything of a minute but its century. -/
theorem stamp_eq_iff : m.stamp = n.stamp ↔ m.year % 100 = n.year % 100 ∧ m.month = n.month ∧
    m.day = n.day ∧ m.hour = n.hour ∧ m.minute = n.minute := by
  have months := And.intro m.month_bounds n.month_bounds
  have days := And.intro m.day_le_31 n.day_le_31
  have hours := And.intro m.hour_lt n.hour_lt
  have minutes := And.intro m.minute_lt n.minute_lt
  have whole {a b : Nat} (small : a < 100) (less : b < 100) : a % 100 = b % 100 ↔ a = b := by
    rw [Nat.mod_eq_of_lt small, Nat.mod_eq_of_lt less]
  simp only [stamp, List.append_assoc, twoDigits_append_eq_iff, twoDigits_eq_iff]
  rw [whole (a := m.month) (by omega) (by omega), whole (a := m.day) (by omega) (by omega),
    whole (a := m.hour) (by omega) (by omega), whole (a := m.minute) (by omega) (by omega)]

/-! ## The years that a reader knows -/

/-- A minute of the years that two digits stand for. -/
def InWindow (m : Minute) : Prop := 1970 ≤ m.year ∧ m.year ≤ 2069

instance (m : Minute) : Decidable m.InWindow := inferInstanceAs (Decidable (_ ∧ _))

theorem inWindow_of_ofStamp? (read : ofStamp? field = some m) : m.InWindow := by
  obtain ⟨year, short, century, -⟩ := exists_parts_of_ofStamp? read
  rw [InWindow, century, fullYear]
  split <;> omega

/-- Of the minutes that a reader knows no two have the same stamp. -/
theorem eq_of_stamp_eq (knownM : m.InWindow) (knownN : n.InWindow) (same : m.stamp = n.stamp) :
    m = n := by
  obtain ⟨year, month, day, hour, minute⟩ := stamp_eq_iff.mp same
  have years : m.year = n.year := by
    have boundsM : 1970 ≤ m.year ∧ m.year ≤ 2069 := knownM
    have boundsN : 1970 ≤ n.year ∧ n.year ≤ 2069 := knownN
    omega
  cases m
  cases n
  cases years
  cases month
  cases day
  cases hour
  cases minute
  rfl

/-- A minute as it is read from the stamp of another: in a year that the reader knows, and otherwise the
same. -/
structure ReadAs (m read : Minute) : Prop where
  ofStamp?_eq : ofStamp? m.stamp = some read
  inWindow : read.InWindow
  year_mod_eq : read.year % 100 = m.year % 100
  month_eq : read.month = m.month
  day_eq : read.day = m.day
  hour_eq : read.hour = m.hour
  minute_eq : read.minute = m.minute

/-- The stamp of every minute is read. -/
theorem exists_readAs (m : Minute) : ∃ read, ReadAs m read := by
  obtain ⟨read, reads⟩ := Option.isSome_iff_exists.mp (isSome_ofStamp?_iff.mpr m.isStamp_stamp)
  obtain ⟨year, month, day, hour, minute⟩ := stamp_eq_iff.mp (stamp_of_ofStamp? reads)
  exact ⟨read, reads, inWindow_of_ofStamp? reads, year, month, day, hour, minute⟩

/-- A minute of a year that the reader knows is read as itself. -/
theorem ofStamp?_stamp (known : m.InWindow) : ofStamp? m.stamp = some m := by
  obtain ⟨read, readAs⟩ := m.exists_readAs
  rw [readAs.ofStamp?_eq,
    eq_of_stamp_eq readAs.inWindow known (stamp_of_ofStamp? readAs.ofStamp?_eq)]

/-- A text is read as a minute exactly if it is the stamp of one minute that the reader knows. -/
theorem exists_ofStamp?_iff :
    (∃ m, ofStamp? field = some m) ↔ ∃! m : Minute, m.InWindow ∧ m.stamp = field := by
  constructor
  · rintro ⟨m, read⟩
    have stamp : m.stamp = field := stamp_of_ofStamp? read
    refine ⟨m, ⟨inWindow_of_ofStamp? read, stamp⟩, ?_⟩
    rintro other ⟨known, same⟩
    exact eq_of_stamp_eq known (inWindow_of_ofStamp? read) (same.trans stamp.symm)
  · rintro ⟨m, ⟨known, rfl⟩, -⟩
    exact ⟨m, ofStamp?_stamp known⟩

end Minute

/-! ## Dates -/

namespace Header

theorem readDate_eq_ok_iff {field : List Char} {date : String} :
    readDate field = .ok date ↔ (∃ m, Minute.ofStamp? field = some m) ∧ date = String.ofList field := by
  unfold readDate
  cases Minute.ofStamp? field with
  | none => simp
  | some m => simp [eq_comm]

/-- **The dates that are written and the dates that are read agree.**  The date of a header that is made in
any minute of any year is accepted, and it is read as a minute of a year from 1970 to 2069 that differs from
it in the century at most.  So a header may be made on the twenty-ninth of February of any leap year.  And
what is accepted as a date is exactly the stamp of one minute of these years. -/
theorem dates_agree :
    (∀ (m : Minute) (bits : UInt32) (resource : String) (random : List UInt8) (counter : Int64),
      (fresh m bits resource random counter).date = String.ofList m.stamp ∧
      readDate (fresh m bits resource random counter).date.toList =
        .ok (fresh m bits resource random counter).date ∧
      ∃ read, Minute.ReadAs m read) ∧
    (∀ year hour minute, year % 4 = 0 ∧ (year % 100 ≠ 0 ∨ year % 400 = 0) → hour < 24 → minute < 60 →
      ∃ m : Minute, m.year = year ∧ m.month = 2 ∧ m.day = 29 ∧ m.hour = hour ∧ m.minute = minute ∧
        readDate m.stamp = .ok (String.ofList m.stamp)) ∧
    ∀ field, (∃ date, readDate field = .ok date) ↔
      ∃! m : Minute, (1970 ≤ m.year ∧ m.year ≤ 2069) ∧ m.stamp = field := by
  have accepted (m : Minute) : readDate m.stamp = .ok (String.ofList m.stamp) := by
    obtain ⟨read, readAs⟩ := m.exists_readAs
    exact readDate_eq_ok_iff.mpr ⟨⟨read, readAs.ofStamp?_eq⟩, rfl⟩
  refine ⟨fun m bits resource random counter => ⟨rfl, ?_, m.exists_readAs⟩,
    fun year hour minute leap inDay inHour => ?_, fun field => ?_⟩
  · change readDate (String.ofList m.stamp).toList = .ok (String.ofList m.stamp)
    rw [String.toList_ofList, accepted]
  · have leapYear : isLeapYear year = true := by simpa [isLeapYear] using leap
    have days : 29 ≤ daysInMonth year 2 := by simp [daysInMonth, leapYear]
    exact ⟨⟨year, 2, 29, hour, minute, by decide, days, inDay, inHour⟩, rfl, rfl, rfl, rfl, rfl,
      accepted _⟩
  · simp only [readDate_eq_ok_iff, exists_and_left, exists_eq, and_true]
    exact Minute.exists_ofStamp?_iff

/-- The first leap day of all falls into the year 2000 when it is read, and a day that no year from 1970 to
2069 has is not accepted. -/
theorem dates_agree_leapDays :
    (∃ m : Minute, m.year = 0 ∧ m.month = 2 ∧ m.day = 29 ∧ m.hour = 23 ∧ m.minute = 59 ∧
      readDate m.stamp = .ok (String.ofList m.stamp) ∧ m.stamp = "0002292359".toList ∧
        ∃ read, Minute.ReadAs m read ∧ read.year = 2000) ∧
    (∃! m : Minute, (1970 ≤ m.year ∧ m.year ≤ 2069) ∧ m.stamp = "0002292359".toList) ∧
    ¬ ∃ date, readDate "0102292359".toList = .ok date := by
  obtain ⟨written, leap, accepts⟩ := dates_agree
  obtain ⟨m, year, month, day, hour, minute, accepted⟩ := leap 0 23 59 (by decide) (by decide) (by decide)
  have stamp : m.stamp = "0002292359".toList := by
    rw [Minute.stamp, year, month, day, hour, minute]
    rfl
  obtain ⟨-, -, read, readAs⟩ := written m 0 "" [] 0
  have century : read.year = 2000 := by
    have known : 1970 ≤ read.year ∧ read.year ≤ 2069 := readAs.inWindow
    have digits := readAs.year_mod_eq
    omega
  refine ⟨⟨m, year, month, day, hour, minute, accepted, stamp, read, readAs, century⟩, ?_, ?_⟩
  · exact (accepts _).mp ⟨_, stamp ▸ accepted⟩
  · rintro ⟨date, accepted⟩
    cases accepted

end Header

end Hashgate
