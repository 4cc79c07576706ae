import ProtoSchema.Time.Digits

/-!
# Dates of the Gregorian calendar

Days are counted from 1 March of the year 0, so that a leap day ends its year.  The calendar
repeats every 400 years, and the months from March on have 153 days in every five.
-/

namespace ProtoSchema

structure Date where
  year : Nat
  month : Nat
  day : Nat
deriving DecidableEq, Repr, Inhabited

namespace Date

/-- The days of 400 years. -/
def daysPerEra : Nat := 146097

/-- The year, counted from March, of a day of an era: every fourth year is longer by a day, except
every hundredth, except the last. -/
def yearOfEra (day : Nat) : Nat := (day - day / 1460 + day / 36524 - day / 146096) / 365

/-- The days before a year of an era. -/
def daysBeforeYear (year : Nat) : Nat := 365 * year + year / 4 - year / 100

/-- The date of a day counted from 1 March of the year 0. -/
def ofDays (days : Nat) : Date :=
  let era := days / daysPerEra
  let dayOfEra := days % daysPerEra
  let yearOfEra := yearOfEra dayOfEra
  let dayOfYear := dayOfEra - daysBeforeYear yearOfEra
  let monthOfYear := (5 * dayOfYear + 2) / 153
  let day := dayOfYear - (153 * monthOfYear + 2) / 5 + 1
  let month := if monthOfYear < 10 then monthOfYear + 3 else monthOfYear - 9
  let year := era * 400 + yearOfEra
  ⟨if month ≤ 2 then year + 1 else year, month, day⟩

/-- Year, month and day, the year with four digits. -/
def text (d : Date) : String :=
  Time.padded 4 d.year ++ "-" ++ Time.padded 2 d.month ++ "-" ++ Time.padded 2 d.day

end Date

end ProtoSchema
