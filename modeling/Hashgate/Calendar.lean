/-! # Minutes of the calendar

A minute is a Gregorian date with an hour and a minute. Its stamp is ten digits, two each for the
year within its century, the month, the day, the hour and the minute.

* `Minute.stamp` — the stamp of a minute.
* `Minute.ofStamp?` — the minute that a stamp names. The century is left out of a stamp, and the
  reader takes the one that puts the year between 1970 and 2069.
* `Minute.ofSeconds` — the minute in which a count of seconds since the start of 1970 falls. -/

namespace Hashgate

/-! ## Lengths -/

def isLeapYear (year : Nat) : Bool :=
  year % 4 == 0 && (year % 100 != 0 || year % 400 == 0)

/-- The number of days in a month of a year. There is no month but the first to the twelfth. -/
def daysInMonth (year month : Nat) : Nat :=
  match month with
  | 1 | 3 | 5 | 7 | 8 | 10 | 12 => 31
  | 4 | 6 | 9 | 11 => 30
  | 2 => if isLeapYear year then 29 else 28
  | _ => 0

def daysInYear (year : Nat) : Nat := if isLeapYear year then 366 else 365

/-! ## Minutes -/

/-- A minute that the calendar has. -/
structure Minute where
  year : Nat
  month : Nat
  day : Nat
  hour : Nat
  minute : Nat
  day_pos : 1 ≤ day
  day_le : day ≤ daysInMonth year month
  hour_lt : hour < 24
  minute_lt : minute < 60
  deriving DecidableEq, Repr

def Minute.ofParts? (year month day hour minute : Nat) : Option Minute :=
  if h : 1 ≤ day ∧ day ≤ daysInMonth year month ∧ hour < 24 ∧ minute < 60 then
    some ⟨year, month, day, hour, minute, h.1, h.2.1, h.2.2.1, h.2.2.2⟩
  else none

/-! ## Stamps -/

def Minute.stampFormat : String := "%y%m%d%H%M"

def twoDigits (n : Nat) : List Char := [Nat.digitChar (n / 10 % 10), Nat.digitChar (n % 10)]

/-- The ten digits that name a minute within its century. -/
def Minute.stamp (m : Minute) : List Char :=
  twoDigits m.year ++ twoDigits m.month ++ twoDigits m.day ++ twoDigits m.hour ++ twoDigits m.minute

def ofTwoDigits? (tens ones : Char) : Option Nat :=
  if tens.isDigit ∧ ones.isDigit then
    some ((tens.toNat - '0'.toNat) * 10 + (ones.toNat - '0'.toNat))
  else none

/-- The year that two digits stand for. -/
def fullYear (year : Nat) : Nat := if year < 70 then 2000 + year else 1900 + year

/-- The minute that a stamp names. -/
def Minute.ofStamp? : List Char → Option Minute
  | [y₁, y₂, n₁, n₂, d₁, d₂, h₁, h₂, m₁, m₂] => do
    let year ← ofTwoDigits? y₁ y₂
    let month ← ofTwoDigits? n₁ n₂
    let day ← ofTwoDigits? d₁ d₂
    let hour ← ofTwoDigits? h₁ h₂
    let minute ← ofTwoDigits? m₁ m₂
    Minute.ofParts? (fullYear year) month day hour minute
  | _ => none

/-! ## The clock -/

/-- The year in which a day falls and the days of that year before it, where `days` have passed
since the start of `year`. It looks at no more than `fuel` years. -/
def findYear : (fuel year days : Nat) → Nat × Nat
  | 0, year, _ => (year, 0)
  | fuel + 1, year, days =>
    if days < daysInYear year then (year, days)
    else findYear fuel (year + 1) (days - daysInYear year)

/-- The month and day on which a day falls, where `days` have passed since the start of one of the
given months. After the last of them comes the first of January. -/
def findDay (year : Nat) : (months : List Nat) → (days : Nat) →
    { found : Nat × Nat // 1 ≤ found.2 ∧ found.2 ≤ daysInMonth year found.1 }
  | [], _ => ⟨(1, 1), by simp [daysInMonth]⟩
  | month :: later, days =>
    if h : days < daysInMonth year month then ⟨(month, days + 1), by simp; omega⟩
    else findDay year later (days - daysInMonth year month)

/-- The minute in which a count of seconds since the start of 1970 falls. -/
def Minute.ofSeconds (seconds : Nat) : Minute :=
  let days := seconds / 86400
  let year := findYear (days + 1) 1970 days
  let date := findDay year.1 [1, 2, 3, 4, 5, 6, 7, 8, 9, 10, 11, 12] year.2
  { year := year.1, month := date.1.1, day := date.1.2
    hour := seconds / 3600 % 24, minute := seconds / 60 % 60
    day_pos := date.2.1, day_le := date.2.2
    hour_lt := Nat.mod_lt _ (by decide), minute_lt := Nat.mod_lt _ (by decide) }

end Hashgate
