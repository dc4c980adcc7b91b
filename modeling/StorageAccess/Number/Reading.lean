import StorageAccess.Number.Binary64
import StorageAccess.Number.Digits

/-! Numbers as settings spell them. -/
namespace StorageAccess.Reading

/-- A whole number up to `max`, which a plus sign may precede. -/
def natural? (max : Nat) (cs : List Char) : Option Nat :=
  let digits := match cs with
    | '+' :: rest => rest
    | _ => cs
  if digits.isEmpty || !digits.all Char.isDigit then none
  else
    let n := ofDigits digits
    if n ≤ max then some n else none

/-- One of the two words. -/
def bool? : List Char → Option Bool
  | ['t', 'r', 'u', 'e'] => some true
  | ['f', 'a', 'l', 's', 'e'] => some false
  | _ => none

/-- A signed exponent, or nothing at all. -/
def exponent? : List Char → Option Int
  | [] => some 0
  | e :: rest =>
    if e == 'e' || e == 'E' then
      let (negative, digits) := match rest with
        | '-' :: ds => (true, ds)
        | '+' :: ds => (false, ds)
        | ds => (false, ds)
      if digits.isEmpty || !digits.all Char.isDigit then none
      else some (if negative then -(ofDigits digits : Int) else ofDigits digits)
    else none

/-- A number without its sign: digits with at most one point among them, and an exponent. -/
def magnitude? (cs : List Char) : Option Float :=
  let whole := cs.takeWhile Char.isDigit
  let rest := cs.dropWhile Char.isDigit
  let (fraction, rest) := match rest with
    | '.' :: ds => (ds.takeWhile Char.isDigit, ds.dropWhile Char.isDigit)
    | _ => ([], rest)
  if whole.isEmpty && fraction.isEmpty then none
  else (exponent? rest).map fun e =>
    Binary64.ofDecimal (ofDigits (whole ++ fraction)) (e - fraction.length)

/-- A double in decimal notation, or one of the words `inf`, `infinity` and `nan` in any case. -/
def float? (cs : List Char) : Option Float :=
  let (negative, body) := match cs with
    | '-' :: rest => (true, rest)
    | '+' :: rest => (false, rest)
    | _ => (false, cs)
  let word := String.ofList (body.map Char.toLower)
  let positive :=
    if word == "inf" || word == "infinity" then some (Float.ofBits 0x7FF0000000000000)
    else if word == "nan" then some (Float.ofBits 0x7FF8000000000000)
    else magnitude? body
  positive.map fun x => if negative then -x else x

end StorageAccess.Reading
