import StorageAccess.Time.Instant

/-! Written forms of points in time. -/
namespace StorageAccess

/-- A number in at least `width` digits. -/
def zeroPadded (width n : Nat) : List Char :=
  let digits := Nat.toDigits 10 n
  List.replicate (width - digits.length) '0' ++ digits

/-- A number below a hundred in two digits. -/
def twoDigits (n : Nat) : List Char := [Nat.digitChar (n / 10), Nat.digitChar (n % 10)]

namespace Date

/-- Four digits, and a sign for years that need more or come before year 0. -/
def yearChars (year : Int) : List Char :=
  if 0 ≤ year ∧ year ≤ 9999 then zeroPadded 4 year.toNat
  else (if year < 0 then '-' else '+') :: zeroPadded 4 year.natAbs

/-- A date as in `2022-03-01`. -/
def chars (d : Date) : List Char :=
  yearChars d.year ++ '-' :: (zeroPadded 2 d.month ++ '-' :: zeroPadded 2 d.day)

def weekdayName (weekday : Nat) : List Char :=
  (["Sun", "Mon", "Tue", "Wed", "Thu", "Fri", "Sat"].getD weekday "").toList

def monthName (month : Nat) : List Char :=
  (["Jan", "Feb", "Mar", "Apr", "May", "Jun", "Jul", "Aug", "Sep", "Oct", "Nov", "Dec"].getD
    (month - 1) "").toList

end Date

namespace Instant

/-- The time of day as in `08:12:34`. -/
def clockChars (t : Instant) : List Char :=
  zeroPadded 2 t.hour ++ ':' :: (zeroPadded 2 t.minute ++ ':' :: zeroPadded 2 t.secondOfMinute)

/-- The form of dates in HTTP headers, as in `Tue, 01 Mar 2022 08:12:34 GMT`. -/
def httpDate (t : Instant) : String :=
  let d := t.date
  String.ofList
    (Date.weekdayName (Date.weekday (t.second / 86400)) ++ ',' :: ' '
      :: (zeroPadded 2 d.day ++ ' ' :: (Date.monthName d.month ++ ' ' :: (Date.yearChars d.year
      ++ ' ' :: (t.clockChars ++ [' ', 'G', 'M', 'T'])))))

/-- The form that signatures cover, as in `2022-03-01T08:12:34Z`. Fractions of a second are left out. -/
def iso8601 (t : Instant) : String :=
  String.ofList (t.date.chars ++ 'T' :: (t.clockChars ++ ['Z']))

/-- The form of RFC 3339 in whole seconds at Greenwich, as in `2022-03-01T08:12:34Z`. -/
def rfc3339 (t : Instant) : String :=
  let d := t.date
  let year :=
    if 0 ≤ d.year ∧ d.year ≤ 9999 then
      twoDigits (d.year / 100).toNat ++ twoDigits (d.year % 100).toNat
    else (if d.year < 0 then '-' else '+') :: zeroPadded 4 d.year.natAbs
  String.ofList (year ++ '-' :: (twoDigits d.month ++ '-' :: (twoDigits d.day ++ 'T'
    :: (twoDigits t.hour ++ ':' :: (twoDigits t.minute ++ ':'
    :: (twoDigits t.secondOfMinute ++ ['Z']))))))

/-- Nothing, or a point and three, six or nine digits. -/
def fractionChars (t : Instant) : List Char :=
  let n := t.fraction
  if n = 0 then []
  else if n % 1_000_000 = 0 then '.' :: zeroPadded 3 (n / 1_000_000)
  else if n % 1000 = 0 then '.' :: zeroPadded 6 (n / 1000)
  else '.' :: zeroPadded 9 n

/-- The form in messages, as in `2022-03-01 08:12:34 UTC`. -/
def text (t : Instant) : String :=
  String.ofList (t.date.chars ++ ' ' :: (t.clockChars ++ t.fractionChars ++ [' ', 'U', 'T', 'C']))

/-- The form in descriptions, as in `2022-03-01T08:12:34.5Z` with the digits that are needed. -/
def exactText (t : Instant) : String :=
  String.ofList (t.date.chars ++ 'T' :: (t.clockChars ++ t.fractionChars ++ ['Z']))

end Instant

end StorageAccess
