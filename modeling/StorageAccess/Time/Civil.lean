/-! The Gregorian calendar, extended without limit in both directions. Days are counted from the first
of January 1970. A year is taken to begin in March, so that the leap day is its last. -/
namespace StorageAccess

structure Date where
  year : Int
  month : Nat
  day : Nat
  deriving DecidableEq

namespace Date

def isLeapYear (year : Int) : Bool := year % 4 == 0 && (year % 100 != 0 || year % 400 == 0)

def daysInMonth (year : Int) (month : Nat) : Nat :=
  if month = 2 then if isLeapYear year then 29 else 28
  else if month = 4 ∨ month = 6 ∨ month = 9 ∨ month = 11 then 30
  else 31

/-- A day that the calendar has. -/
def exists? (d : Date) : Bool :=
  1 ≤ d.month && d.month ≤ 12 && 1 ≤ d.day && d.day ≤ daysInMonth d.year d.month

/-- Days between the first of March of a four-century era and the given day of it. -/
def dayOfEra (yearOfEra dayOfYear : Int) : Int :=
  yearOfEra * 365 + yearOfEra / 4 - yearOfEra / 100 + dayOfYear

/-- Days from the first of January 1970 to a date. -/
def toDays (d : Date) : Int :=
  let year := if d.month ≤ 2 then d.year - 1 else d.year
  let month : Int := if d.month ≤ 2 then d.month + 9 else d.month - 3
  let dayOfYear := (153 * month + 2) / 5 + d.day - 1
  year / 400 * 146097 + dayOfEra (year % 400) dayOfYear - 719468

/-- The date a number of days after the first of January 1970. -/
def ofDays (days : Int) : Date :=
  let z := days + 719468
  let era := z / 146097
  let doe := z % 146097
  let yearOfEra := (doe - doe / 1460 + doe / 36524 - doe / 146096) / 365
  let dayOfYear := doe - dayOfEra yearOfEra 0
  let month := (5 * dayOfYear + 2) / 153
  let day := dayOfYear - (153 * month + 2) / 5 + 1
  let civilMonth := if month < 10 then month + 3 else month - 9
  let year := era * 400 + yearOfEra + if civilMonth ≤ 2 then 1 else 0
  ⟨year, civilMonth.toNat, day.toNat⟩

/-- The day of the week, from 0 for Sunday. -/
def weekday (days : Int) : Nat := ((days + 4) % 7).toNat

end Date

end StorageAccess
