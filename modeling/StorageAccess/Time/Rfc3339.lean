import StorageAccess.Error
import StorageAccess.Number.Digits
import StorageAccess.Time.Instant

/-! Reading points in time in the notation of RFC 3339: a date, a time of day that may have a fraction
and may be a leap second, and the distance from Greenwich. -/
namespace StorageAccess.Rfc3339

/-- A number of exactly `count` digits and what follows it. -/
def number (count : Nat) (cs : List Char) : Option (Nat × List Char) :=
  let digits := cs.take count
  if digits.length = count ∧ digits.all Char.isDigit then some (ofDigits digits, cs.drop count)
  else none

def expect (c : Char) : List Char → Option (List Char)
  | d :: rest => if c == d then some rest else none
  | [] => none

/-- A fraction in nanoseconds. Digits past the ninth are ignored. -/
def fraction (cs : List Char) : Option (Nat × List Char) :=
  match cs with
  | '.' :: rest =>
    let digits := rest.takeWhile Char.isDigit
    if digits.isEmpty then none
    else
      let kept := (digits ++ List.replicate 9 '0').take 9
      some (ofDigits kept, rest.dropWhile Char.isDigit)
  | _ => some (0, cs)

/-- The distance from Greenwich in seconds, below a day. -/
def offset (cs : List Char) : Option (Int × List Char) :=
  match cs with
  | sign :: rest =>
    if sign == 'Z' || sign == 'z' then some (0, rest)
    else if sign == '+' || sign == '-' || sign == '\u2212' then do
      let (hours, rest) ← number 2 rest
      let rest ← expect ':' rest
      let (minutes, rest) ← number 2 rest
      if hours ≤ 23 ∧ minutes ≤ 59 then
        let seconds : Int := hours * 3600 + minutes * 60
        some (if sign == '+' then seconds else -seconds, rest)
      else none
    else none
  | [] => none

def date (cs : List Char) : Option (Date × List Char) := do
  let (year, rest) ← number 4 cs
  let rest ← expect '-' rest
  let (month, rest) ← number 2 rest
  let rest ← expect '-' rest
  let (day, rest) ← number 2 rest
  let d : Date := ⟨year, month, day⟩
  if d.exists? then some (d, rest) else none

/-- A time of day in seconds, with the nanoseconds that a leap second adds. -/
def clock (cs : List Char) : Option ((Nat × Nat) × List Char) := do
  let (hour, rest) ← number 2 cs
  let rest ← expect ':' rest
  let (minute, rest) ← number 2 rest
  let rest ← expect ':' rest
  let (second, rest) ← number 2 rest
  if hour ≤ 23 ∧ minute ≤ 59 ∧ second ≤ 60 then
    if second = 60 then some ((hour * 3600 + minute * 60 + 59, 1_000_000_000), rest)
    else some ((hour * 3600 + minute * 60 + second, 0), rest)
  else none

def separator : List Char → Option (List Char)
  | c :: rest => if c == 'T' || c == 't' || c == ' ' then some rest else none
  | [] => none

def ofChars? (cs : List Char) : Option Instant := do
  let (date, rest) ← date cs
  let rest ← separator rest
  let ((secondOfDay, leap), rest) ← clock rest
  let (nanoseconds, rest) ← fraction rest
  let (offset, rest) ← offset rest
  if rest.isEmpty then
    Instant.ofUnix? (date.toDays * 86400 + secondOfDay - offset) (leap + nanoseconds)
  else none

/-- The point in time that a text writes. -/
def ofText (s : String) : Except Error Instant :=
  match ofChars? s.toList with
  | some t => .ok t
  | none => .error ⟨.signatureInput, "invalid rfc3339 time: " ++ s, none⟩

end StorageAccess.Rfc3339
