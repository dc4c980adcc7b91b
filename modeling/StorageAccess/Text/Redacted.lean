import StorageAccess.Text.Utf8

/-! Secrets as logs show them. Lengths are in bytes, so a text is fully masked also when three bytes
from an end fall inside a character. -/
namespace StorageAccess

/-- The leading characters that take up exactly `size` bytes, if a character ends there. -/
def bytesPrefix? : Nat → List Char → Option (List Char)
  | 0, _ => some []
  | _ + 1, [] => none
  | size + 1, c :: cs =>
    let width := (Utf8.encodeChar c).length
    if width ≤ size + 1 then (bytesPrefix? (size + 1 - width) cs).map (c :: ·) else none

/-- `EMPTY` for nothing, `***` for a short secret, else three bytes of either end around `***`. -/
def redacted (s : String) : String :=
  let cs := s.toList
  let size := (Utf8.encodeChars cs).length
  if size = 0 then "EMPTY"
  else if size < 12 then "***"
  else
    match bytesPrefix? 3 cs, bytesPrefix? 3 cs.reverse with
    | some start, some finish => String.ofList (start ++ ['*', '*', '*'] ++ finish.reverse)
    | _, _ => "***"

end StorageAccess
